import AgentRemote.EgoBrowser.Devices

/-!
# Requests of a generation

Admission of the relay frames into the request ledger, the cancellation a user asks for and
the result of the node task that carries it out.
-/

namespace AgentRemote
open Library EgoBrowserFailure

/-! ### Relay frames -/

/-- The identity that a relay ticket was issued for. -/
structure EgoBrowserRelayBinding where
  userId : Uuid
  egoBrowserDeviceId : Uuid
  toolSessionId : Uuid
  bindingId : Uuid
  nodeId : Uuid
  generation : ℕ

structure EgoBrowserRelayTicketClaims where
  binding : EgoBrowserRelayBinding
  role : EgoBrowserRelayRole

/-- The fields of a parsed outer envelope that admission reads. `bindingId` is what the text
denotes, if it is a UUID. -/
structure OuterEnvelope where
  protocol : Text := egoBrowserProtocol
  channel : Text := "ego_browser_bridge".toList
  relayBindingKind : Text := "ego_browser".toList
  messageType : LedgerMessageType
  requestId : Text
  bindingId : Option Uuid
  generation : ℤ
  sequence : ℤ
  direction : LedgerDirection
  payloadBytes : ℤ
  keyWrap : Text

/-- The direction a role may send in. -/
def expectedDirection : EgoBrowserRelayRole → LedgerDirection
  | .wrapper => .request
  | .bridge => .response

/-- `_validate_outer_key_wrap`. The wrap of 92 bytes has 123 digits, the last two bits zero. -/
def validateOuterKeyWrap (envelope : OuterEnvelope) : Except EgoBrowserFailure Unit :=
  match envelope.direction, envelope.messageType with
  | .request, .execute =>
    reject (envelope.keyWrap.length ≠ 123 ∨
        (envelope.keyWrap.any fun c => (base64Digit c).isNone) ∨
        ((envelope.keyWrap.getLast?.bind base64Digit).getD 0) % 4 ≠ 0)
      (valueError "key_wrap")
  | .request, .cancel | .response, _ => reject (envelope.keyWrap ≠ []) (valueError "key_wrap")
  | .request, .executeResult => throw (valueError "direction")

/-- The lease conditions of a frame. -/
def EgoBrowserService.admitLease (service : EgoBrowserService) (binding : EgoBrowserBinding)
    (now : Instant) (messageType : LedgerMessageType) : Except EgoBrowserFailure Unit := do
  reject (binding.status ≠ .active) (valueError "binding_inactive")
  reject (binding.absoluteTtlUntil ≤ now) (valueError "lease")
  if binding.leaseHealth = .healthy then
    reject (∀ leaseUntil ∈ binding.leaseUntil, leaseUntil ≤ now) (valueError "lease")
  else if binding.leaseHealth = .renewalGrace ∧ messageType ≠ .execute then
    reject (∀ graceUntil ∈ binding.leaseGraceUntil, graceUntil ≤ now) (valueError "lease")
  else throw (valueError "binding_inactive")
  if messageType = .execute then
    match binding.leaseUntil with
    | none => throw (valueError "lease")
    | some leaseUntil =>
      reject (leaseUntil - now < seconds service.settings.leaseAdmissionMinRemainingSeconds)
        (valueError "lease_renewal_required")

/-- The ledger part of an admitted cancel frame. -/
def EgoBrowserTables.admitCancel (db : EgoBrowserTables) (binding : EgoBrowserBinding)
    (envelope : OuterEnvelope) : Except EgoBrowserFailure EgoBrowserTables :=
  match db.getLedger binding.id binding.generation .request envelope.requestId
      envelope.sequence with
  | none => throw (valueError "cancel_without_request")
  | some request => do
    reject (request.messageType ≠ .execute) (valueError "cancel_without_request")
    -- a late cancel of a completed request is still forwarded
    if request.status = .completed then pure db
    else do
      reject (request.status = .cancelled) (valueError "replay")
      reject (request.status.unfinished = false) (valueError "cancel_request_state")
      pure (db.setLedger { request with status := .cancelled })

/-- The row of an accepted frame. -/
def ledgerRow (id : Uuid) (binding : EgoBrowserBinding) (envelope : OuterEnvelope) :
    EgoBrowserRequestLedger where
  id := id
  bindingId := binding.id
  generation := binding.generation
  requestId := envelope.requestId
  sequence := envelope.sequence
  direction := envelope.direction
  messageType := envelope.messageType
  payloadBytes := envelope.payloadBytes
  status := if envelope.direction = .response then .completed else .accepted

/-- A row that meets a unique index is a replay. -/
def EgoBrowserTables.recordFrame (db : EgoBrowserTables) (row : EgoBrowserRequestLedger) :
    Except EgoBrowserFailure EgoBrowserTables :=
  match db.addLedger row with
  | .error integrityError => throw (valueError "replay")
  | r => r

/-- The ledger part of an admitted result. -/
def EgoBrowserTables.admitResponse (db : EgoBrowserTables) (id : Uuid)
    (binding : EgoBrowserBinding) (envelope : OuterEnvelope) :
    Except EgoBrowserFailure EgoBrowserTables :=
  match db.getLedger binding.id binding.generation .request envelope.requestId
      envelope.sequence with
  | none => throw (valueError "response_without_request")
  | some request => do
    reject (request.messageType ≠ .execute) (valueError "response_without_request")
    let db' ← db.recordFrame (ledgerRow id binding envelope)
    pure (if request.status = .cancelled then db'
      else db'.setLedger { request with status := .completed })

/-- The ledger part of an admitted execute request. -/
def EgoBrowserTables.admitExecute (db : EgoBrowserTables) (id : Uuid)
    (binding : EgoBrowserBinding) (envelope : OuterEnvelope) :
    Except EgoBrowserFailure EgoBrowserTables := do
  reject (∃ maximum ∈ db.maxSequence binding.id binding.generation .request,
    envelope.sequence ≤ maximum) (valueError "sequence")
  db.recordFrame (ledgerRow id binding envelope)

/-- The ledger part of admission. -/
def EgoBrowserTables.admitLedger (db : EgoBrowserTables) (id : Uuid)
    (binding : EgoBrowserBinding) (envelope : OuterEnvelope) :
    Except EgoBrowserFailure EgoBrowserTables :=
  match envelope.messageType with
  | .cancel => db.admitCancel binding envelope
  | .executeResult => db.admitResponse id binding envelope
  | .execute => db.admitExecute id binding envelope

/-- The transaction of `admit_outer_envelope`. -/
def EgoBrowserService.admission (service : EgoBrowserService) (db : EgoBrowserTables)
    (now : Instant) (id : Uuid) (claims : EgoBrowserRelayTicketClaims)
    (envelope : OuterEnvelope) :
    Except EgoBrowserFailure (EgoBrowserTables × List (Uuid × ℕ) × Unit) := do
  reject (service.settings.bridgeEnabled = false) (valueError "execution_admission")
  reject (envelope.protocol ≠ egoBrowserProtocol ∨
      envelope.channel ≠ "ego_browser_bridge".toList ∨
      envelope.relayBindingKind ≠ "ego_browser".toList) (valueError "outer_identity")
  reject (envelope.bindingId = none) (valueError "binding_id")
  reject (envelope.bindingId ≠ some claims.binding.bindingId) (valueError "binding_identity")
  reject (envelope.generation ≠ claims.binding.generation) (valueError "generation")
  reject (envelope.direction ≠ expectedDirection claims.role) (valueError "direction")
  reject ((envelope.direction = .request ∧ envelope.messageType = .executeResult) ∨
      (envelope.direction = .response ∧ envelope.messageType ≠ .executeResult))
    (valueError "type")
  validateOuterKeyWrap envelope
  match db.getBinding claims.binding.bindingId with
  | none => throw (valueError "binding")
  | some binding =>
    reject (binding.generation ≠ claims.binding.generation) (valueError "binding")
    match db.getDevice binding.egoBrowserDeviceId with
    | none => throw (valueError "encryption_key")
    | some device =>
      reject (device.encryptionPublicKey = none) (valueError "encryption_key")
      reject (binding.userId ≠ claims.binding.userId ∨
          binding.egoBrowserDeviceId ≠ claims.binding.egoBrowserDeviceId ∨
          binding.toolSessionReferenceId ≠ claims.binding.toolSessionId ∨
          binding.nodeId ≠ claims.binding.nodeId ∨
          device.userId ≠ binding.userId ∨
          device.status ≠ .active ∨
          service.bindingProfileIsCurrent binding device = false)
        (valueError "binding_identity")
      let _ ← decodeEncryptionPublicKey device.encryptionPublicKey
      service.admitLease binding now envelope.messageType
      reject (envelope.requestId = [] ∨ 128 < envelope.requestId.length ∨
          envelope.requestId.any (fun c => c.toNat < 0x20)) (valueError "request_id")
      reject (envelope.sequence < 1 ∨ envelope.payloadBytes < 1) (valueError "frame_metadata")
      let db' ← db.admitLedger id binding envelope
      pure (db'.setDevice (service.bindLegacyDeviceOrigin device), [], ())

/-- `admit_outer_envelope`, with the id of a new ledger row. The frame is forwarded when it
returns. -/
def EgoBrowserService.admitOuterEnvelope (service : EgoBrowserService) (db : EgoBrowserTables)
    (now : Instant) (id : Uuid) (claims : EgoBrowserRelayTicketClaims)
    (envelope : OuterEnvelope) : EgoBrowserResponse Unit :=
  .ofExcept db (service.admission db now id claims envelope)

/-- What an admitted frame passed. -/
lemma EgoBrowserService.admission_eq_ok {service : EgoBrowserService} {db : EgoBrowserTables}
    {now : Instant} {id : Uuid} {claims : EgoBrowserRelayTicketClaims} {envelope : OuterEnvelope}
    {r : EgoBrowserTables × List (Uuid × ℕ) × Unit}
    (h : service.admission db now id claims envelope = .ok r) :
    ∃ binding device db', db.getBinding claims.binding.bindingId = some binding ∧
      db.getDevice binding.egoBrowserDeviceId = some device ∧
      binding.generation = claims.binding.generation ∧
      ¬((envelope.direction = .request ∧ envelope.messageType = .executeResult) ∨
        (envelope.direction = .response ∧ envelope.messageType ≠ .executeResult)) ∧
      service.admitLease binding now envelope.messageType = .ok () ∧
      db.admitLedger id binding envelope = .ok db' ∧
      r = (db'.setDevice (service.bindLegacyDeviceOrigin device), [], ()) := by
  unfold EgoBrowserService.admission at h
  simp only [bind_eq_ok, reject_eq_ok, exists_const] at h
  obtain ⟨-, -, -, -, -, -, htype, _, -, h⟩ := h
  cases hb : db.getBinding claims.binding.bindingId with
  | none => simp [hb] at h
  | some binding =>
    simp only [hb, bind_eq_ok, reject_eq_ok, exists_const] at h
    obtain ⟨hgen, h⟩ := h
    cases hd : db.getDevice binding.egoBrowserDeviceId with
    | none => simp [hd] at h
    | some device =>
      simp only [hd, bind_eq_ok, reject_eq_ok, exists_const] at h
      obtain ⟨-, -, _, -, _, hlease, -, -, db', hledger, h⟩ := h
      exact ⟨binding, device, db', rfl, hd, not_not.mp hgen, htype, hlease, hledger,
        (Except.ok.inj h).symm⟩

/-! ### Cancellation -/

structure EgoBrowserCancelRequest where
  generation : ℕ
  sequence : ℤ

namespace EgoBrowserService

variable (service : EgoBrowserService)

def cancelRequest (db : EgoBrowserTables) (user : EgoBrowserUser) (bindingId : Uuid)
    (requestId : Text) (payload : EgoBrowserCancelRequest) :
    EgoBrowserResponse EgoBrowserRequestLedger :=
  .ofExcept db do
    service.requireEnrollment
    match db.getBinding bindingId with
    | none => throw bindingNotFound
    | some binding =>
      reject (binding.userId ≠ user.id ∧ user.admin = false) bindingNotFound
      match db.getLedger binding.id payload.generation .request requestId payload.sequence with
      | none => throw (apiError "EGO_BROWSER_REQUEST_NOT_FOUND"
          "The browser request was not found." 404)
      | some request =>
        reject (request.messageType ≠ .execute) (apiError "EGO_BROWSER_REQUEST_NOT_FOUND"
          "The browser request was not found." 404)
        if request.status.unfinished = false then pure (db, [], request)
        else do
          reject (binding.generation ≠ request.generation ∨ binding.status ≠ .active)
            (apiError "EGO_BROWSER_REQUEST_NOT_ACTIVE"
              "The browser request is no longer active." 409)
          if request.status = .accepted then
            let request := { request with status := .cancelRequested }
            let db' ← (db.setLedger request).addTask
              { ledgerId := request.id, nodeId := binding.nodeId, bindingId := binding.id,
                generation := request.generation, requestId := request.requestId,
                sequence := request.sequence }
            pure (db', [], request)
          else pure (db, [], request)

end EgoBrowserService

/-- Whether a node's result proves that the request was seen to end. -/
def cancellationConfirmed (result : JsonObject) (succeeded : Bool) : Bool :=
  succeeded = true ∧
  JsonObject.text? result "status".toList = some "cancellation_completed".toList ∧
  JsonObject.bool? result "request_active".toList = some true ∧
  JsonObject.bool? result "server_terminal_observed".toList = some true ∧
  JsonObject.names result =
    {"status".toList, "request_active".toList, "server_terminal_observed".toList}

/-- The request that the payload of a cancel task names. -/
structure CancelTaskIdentity where
  bindingId : Uuid
  generation : ℕ
  requestId : Text
  sequence : ℤ

/-- `reconcile_cancel_task` for a task whose payload was readable. The node service commits
it with the report of the task. -/
def reconcileCancelTask (db : EgoBrowserTables) (task : CancelTaskIdentity)
    (result : JsonObject) (succeeded : Bool) : EgoBrowserResponse Unit :=
  .ofExcept db do
    match db.getBinding task.bindingId with
    | none => pure (db, [], ())
    | some binding =>
      match db.getLedger task.bindingId task.generation .request task.requestId
          task.sequence with
      | none => pure (db, [], ())
      | some request =>
        if request.messageType ≠ .execute ∨ request.status.unfinished = false then
          pure (db, [], ())
        else if cancellationConfirmed result succeeded then
          pure (db.setLedger { request with status := .cancelled }, [], ())
        else if binding.generation ≠ task.generation ∨ binding.status ≠ .active then
          pure (db.setLedger { request with status := .cancelled }, [], ())
        else do
          let db' ← db.pauseGeneration binding "request_cancel_unconfirmed"
            "request_cancel_unconfirmed"
          pure (db', [], ())

end AgentRemote
