import AgentRemote.EgoBrowser.Profile

/-!
# Generations and leases

How the service leaves a generation: it cancels the requests of the old one, advances the
counter, rewrites the binding and enqueues the revocation of the old generation, in one
transaction. The relay is told after the commit. A request reads the clock once.
-/

namespace AgentRemote
open Library EgoBrowserFailure

/-- What a request leaves in the database, the generations it then publishes as revoked, and
its answer. -/
structure EgoBrowserResponse (α : Type) where
  db : EgoBrowserTables
  publish : List (Uuid × ℕ) := []
  result : Except EgoBrowserFailure α

namespace EgoBrowserResponse

variable {α : Type}

/-- A transaction commits what it computed; an error rolls it back. -/
def ofExcept (db : EgoBrowserTables)
    (x : Except EgoBrowserFailure (EgoBrowserTables × List (Uuid × ℕ) × α)) :
    EgoBrowserResponse α :=
  match x with
  | .ok (db', publish, a) => { db := db', publish, result := .ok a }
  | .error e => { db, result := .error e }

/-- A response either leaves the tables alone or commits what the transaction returned. -/
lemma ofExcept_db (db : EgoBrowserTables)
    (x : Except EgoBrowserFailure (EgoBrowserTables × List (Uuid × ℕ) × α)) :
    (∃ e, x = .error e ∧ (ofExcept db x).db = db) ∨
      ∃ db' publish a, x = .ok (db', publish, a) ∧ (ofExcept db x).db = db' := by
  cases x with
  | error e => exact .inl ⟨e, rfl, rfl⟩
  | ok r => exact .inr ⟨r.1, r.2.1, r.2.2, rfl, rfl⟩

end EgoBrowserResponse

def generationError : EgoBrowserFailure :=
  apiError "EGO_BROWSER_GENERATION_MISMATCH" "The binding generation is stale." 409

def bindingNotFound : EgoBrowserFailure :=
  apiError "EGO_BROWSER_BINDING_NOT_FOUND" "The browser binding was not found." 404

def deviceNotFound : EgoBrowserFailure :=
  apiError "EGO_BROWSER_DEVICE_NOT_FOUND" "The ego-browser device was not found." 404

/-- `_advance_generation`. -/
def advanceGeneration (b : EgoBrowserBinding) : Except EgoBrowserFailure EgoBrowserBinding := do
  reject (maxActiveEgoBrowserGeneration ≤ b.generation)
    (apiError "EGO_BROWSER_GENERATION_EXHAUSTED" "The binding generation is exhausted." 409)
  pure { b with generation := b.generation + 1 }

/-- The terminal statuses that an invalidation can set. -/
inductive EgoBrowserTerminalStatus where
  | stopped
  | expired
  | revoked
  deriving DecidableEq

def EgoBrowserTerminalStatus.status : EgoBrowserTerminalStatus → EgoBrowserBindingStatus
  | stopped => .stopped
  | expired => .expired
  | revoked => .revoked

lemma EgoBrowserTerminalStatus.terminal_status (s : EgoBrowserTerminalStatus) :
    s.status.terminal = true := by
  cases s <;> rfl

namespace EgoBrowserTables

/-- `_enqueue_revocation`: a second row of one generation is dropped in its savepoint. -/
def enqueueRevocation (db : EgoBrowserTables) (bindingId : Uuid) (generation : ℕ)
    (reason : String) : EgoBrowserTables :=
  match db.addOutbox
      { bindingId, generation, reason := safeReason reason, deliveredAt := none } with
  | .ok db' => db'
  | .error _ => db

/-- The rows that leaving a generation writes: its requests are cancelled, the binding takes
its new content and the old generation is enqueued. -/
def supersede (db : EgoBrowserTables) (old new : EgoBrowserBinding) (reason : String) :
    EgoBrowserTables :=
  ((db.cancelGenerationRequests old.id old.generation).setBinding new).enqueueRevocation
    old.id old.generation reason

/-- One binding of `_invalidate_bindings`. -/
def invalidateBinding (db : EgoBrowserTables) (b : EgoBrowserBinding)
    (terminalStatus : EgoBrowserTerminalStatus) (reason : String) (now : Instant) :
    Except EgoBrowserFailure (EgoBrowserTables × List (Uuid × ℕ)) :=
  if b.status.terminal ∧ (terminalStatus ≠ .revoked ∨ b.status = .revoked) then pure (db, [])
  else do
    let advanced ← advanceGeneration b
    let new := { advanced with
      status := terminalStatus.status
      leaseUntil := none
      leaseHealth := .expired
      leaseGraceUntil := none
      stoppedAt := some now
      revokedAt := if terminalStatus = .revoked then some now else none
      stopReason := some (safeReason reason) }
    pure (db.supersede b new (safeReason reason), [(b.id, b.generation)])

/-- `_invalidate_bindings`, with the generations it left. -/
def invalidateBindings (db : EgoBrowserTables) (bindings : List EgoBrowserBinding)
    (terminalStatus : EgoBrowserTerminalStatus) (reason : String) (now : Instant) :
    Except EgoBrowserFailure (EgoBrowserTables × List (Uuid × ℕ)) :=
  bindings.foldlM (fun (acc : EgoBrowserTables × List (Uuid × ℕ)) b => do
    let (db', left) ← acc.1.invalidateBinding b terminalStatus reason now
    pure (db', acc.2 ++ left)) (db, [])

/-- The content of a binding whose generation is left for a pause. -/
def pausedBinding (b : EgoBrowserBinding) (stopReason : String) : EgoBrowserBinding :=
  { b with
    status := .paused
    leaseUntil := none
    leaseHealth := .expired
    leaseGraceUntil := none
    stopReason := some stopReason }

/-- Leaves a generation and pauses the binding; `current` may carry changes made before. -/
def pauseGeneration (db : EgoBrowserTables) (current : EgoBrowserBinding)
    (stopReason reason : String) : Except EgoBrowserFailure EgoBrowserTables := do
  let advanced ← advanceGeneration current
  pure (db.supersede current (pausedBinding advanced stopReason) reason)

/-- `_owned_binding_device`. -/
def ownedBindingDevice (db : EgoBrowserTables) (user : EgoBrowserUser) (bindingId : Uuid)
    (deviceId : Option Uuid) (allowAdmin : Bool) :
    Except EgoBrowserFailure (EgoBrowserBinding × EgoBrowserDevice) :=
  match db.getBinding bindingId with
  | none => throw bindingNotFound
  | some binding => do
    reject (binding.userId ≠ user.id ∧ ¬(allowAdmin = true ∧ user.admin = true)) bindingNotFound
    reject (∃ id ∈ deviceId, binding.egoBrowserDeviceId ≠ id) deviceNotFound
    match db.getDevice binding.egoBrowserDeviceId with
    | none => throw deviceNotFound
    | some device =>
      reject (device.userId ≠ binding.userId) deviceNotFound
      pure (binding, device)

end EgoBrowserTables

/-! ### Lapsed leases -/

/-- What `_reject_expired_renewal` decides about a renewal. -/
inductive RenewalGuard where
  | proceed
  | expire (reason : String)

namespace EgoBrowserService

variable (service : EgoBrowserService)

/-- `ego_browser_lease_renew_failure_grace_seconds`. -/
def renewalGrace : ℤ := seconds service.settings.leaseRenewFailureGraceSeconds

/-- The end of a lease granted at `now`. -/
def grantedLease (binding : EgoBrowserBinding) (now : Instant) : Instant :=
  min (now + seconds service.settings.leaseSeconds) binding.absoluteTtlUntil

/-- The deadline until which an unrenewed lease can still be renewed. -/
def graceDeadline (leaseUntil absoluteTtlUntil : Instant) : Instant :=
  min (leaseUntil + service.renewalGrace) absoluteTtlUntil

/-- `_reject_expired_renewal`. The grace mark it leaves before a renewal that goes through is
overwritten by the renewal in the same transaction. -/
def rejectExpiredRenewal (binding : EgoBrowserBinding) (now : Instant) : RenewalGuard :=
  if binding.absoluteTtlUntil ≤ now then .expire "absolute_ttl"
  else match binding.leaseHealth, binding.leaseUntil with
    | .healthy, none => .expire "lease_expired"
    | .healthy, some leaseUntil =>
      if now < leaseUntil then .proceed
      else if now < service.graceDeadline leaseUntil binding.absoluteTtlUntil then .proceed
      else .expire "renewal_grace_expired"
    | .renewalGrace, _ =>
      match binding.leaseGraceUntil with
      | none => .expire "renewal_grace_expired"
      | some graceUntil =>
        if graceUntil ≤ now then .expire "renewal_grace_expired" else .proceed
    | .expired, _ => .proceed

/-- The content of a renewed binding. -/
def renewedBinding (binding : EgoBrowserBinding) (now : Instant) : EgoBrowserBinding :=
  { binding with
    leaseUntil := some (service.grantedLease binding now)
    leaseHealth := .healthy
    leaseGraceUntil := none }

/-- One due binding of `expire_due`. -/
def expireDueBinding (db : EgoBrowserTables) (binding : EgoBrowserBinding) (now : Instant) :
    Except EgoBrowserFailure (EgoBrowserTables × List (Uuid × ℕ)) :=
  if binding.absoluteTtlUntil ≤ now then
    db.invalidateBinding binding .expired "absolute_ttl" now
  else match binding.leaseHealth, binding.leaseUntil with
    | .healthy, some leaseUntil =>
      let graceUntil := service.graceDeadline leaseUntil binding.absoluteTtlUntil
      if now < graceUntil then
        pure (db.setBinding { binding with
          leaseHealth := .renewalGrace, leaseGraceUntil := some graceUntil }, [])
      else db.invalidateBinding binding .expired "renewal_grace_expired" now
    | _, _ => db.invalidateBinding binding .expired "renewal_grace_expired" now

/-- `expire_due`: the number of bindings that became terminal. -/
def expireDue (db : EgoBrowserTables) (now : Instant) : EgoBrowserResponse ℕ :=
  .ofExcept db do
    let (db', left) ← (db.listDueBindings now).foldlM
      (fun (acc : EgoBrowserTables × List (Uuid × ℕ)) binding => do
        let (db', left) ← service.expireDueBinding acc.1 binding now
        pure (db', acc.2 ++ left)) (db, [])
    pure (db', left, left.length)

end EgoBrowserService

/-! ### Publishing -/

namespace EgoBrowserTables

/-- The row of a generation is marked delivered. -/
def markDelivered (db : EgoBrowserTables) (bindingId : Uuid) (generation : ℕ) (now : Instant) :
    EgoBrowserTables :=
  { db with outbox := db.outbox.map fun e =>
      if e.bindingId = bindingId ∧ e.generation = generation then
        { e with deliveredAt := some now } else e }

/-- The generation `_publish_revocation` calls the publisher for, if it does. -/
def publishes (db : EgoBrowserTables) (bindingId : Uuid) (generation : ℕ) : Bool :=
  (db.getOutbox bindingId generation).any fun e => e.deliveredAt = none

/-- `_publish_revocation` and each event of `publish_pending_revocations`: when the publisher
raises, the row stays pending. -/
def publishRevocation (db : EgoBrowserTables) (bindingId : Uuid) (generation : ℕ)
    (returned : Bool) (now : Instant) : EgoBrowserTables :=
  if db.publishes bindingId generation ∧ returned then
    db.markDelivered bindingId generation now
  else db

end EgoBrowserTables

end AgentRemote
