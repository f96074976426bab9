import AgentRemote.Attachments.Records
import AgentRemote.Library.History

/-!
# Attachment leases

Each operation as one transaction. `seen i` is the state its `i`-th statement reads, `db` the one
it commits on. Rows that an operation locks before it reads them come from `db`.
-/

namespace AgentRemote.Attachments
open Library PortForwards Runtimes

variable (seen : ℕ → AttachmentDb) (db : AttachmentDb)

/-- `LEASE_SECONDS`. -/
def leaseSeconds : ℕ := 300

/-- `_require_uuid`. -/
def requireUuid (value : Uuid) : Except AttachmentFailure Unit :=
  reject (value = 0) (attachmentError "ATTACHMENT_INVALID_IDENTITY" 422)

/-- `_require_capability`. -/
def requireCapability (node : Node) : Except AttachmentFailure Unit :=
  let capability :=
    (node.runtimeCapabilities.get "session_attachment_transfer".toList).bind JsonValue.object?
  reject (capability.bind (·.bool? "supported".toList) ≠ some true ∨
      capability.bind (·.int? "protocol_version".toList) ≠ some 1) <|
    attachmentError "NODE_SESSION_ATTACHMENT_TRANSFER_UNSUPPORTED" 409

/-! ### Admission -/

structure AdmissionRequest where
  nodeId : Uuid
  sessionId : Uuid
  deviceId : Uuid
  sshKeyId : Uuid
  leaseId : Uuid

/-- What `admitAttachment` requires of the session it has locked. -/
def requireAttachable (node : Node) (runtime : Session) : Except AttachmentFailure Unit := do
  reject (runtime.nodeId ≠ node.id) (attachmentError "ATTACHMENT_NODE_MISMATCH" 403)
  reject (runtime.toolType ≠ "claude".toList) (attachmentError "SESSION_TOOL_UNSUPPORTED" 409)
  reject (runtime.status.live = false ∨ runtime.tmuxSessionName.all (· = [])) <|
    attachmentError "SESSION_NOT_ATTACHABLE" 409
  reject (runtime.runtimeBackend ∉ ["native".toList, "docker_sandbox".toList]) <|
    attachmentError "SESSION_RUNTIME_UNSUPPORTED" 409

/-- The account of a session may use it. -/
def requireAccount (account : Option Runtimes.ToolAccount) (runtime : Session) :
    Except AttachmentFailure Unit :=
  reject (¬account.any fun a =>
      a.userId = runtime.userId ∧ a.toolType = "claude".toList ∧ a.status = .active) <|
    attachmentError "SESSION_ACCOUNT_UNAVAILABLE" 409

/-- A live lease of the session once it has lapsed. -/
def AttachmentLease.lapsed (lease : AttachmentLease) (now : Instant) : AttachmentLease :=
  { lease with status := .expired, invalidatedAt := some now,
               invalidationReason := some "lease_expired".toList }

/-- The leases after those of the session that were still live have lapsed. -/
def lapseLeases (sessionId : Uuid) (now : Instant) : List AttachmentLease :=
  db.leases.map fun lease =>
    if lease.sessionId = sessionId ∧ lease.status.live then lease.lapsed now else lease

/-- The lease that `admitAttachment` issues. -/
def issuedLease (r : AdmissionRequest) (runtime : Session) (now : Instant) :
    AttachmentLease where
  id := r.leaseId
  sessionId := runtime.id
  userId := runtime.userId
  nodeId := r.nodeId
  deviceId := r.deviceId
  sshKeyId := r.sshKeyId
  runtimeBackend := runtime.runtimeBackend
  runtimeResourceId := runtime.runtimeResourceId
  runtimeScope := db.nextId
  status := .issued
  expiresAt := now + seconds leaseSeconds
  maxBytes := 256 * 1024 * 1024
  maxEntries := 32
  invalidatedAt := none
  invalidationReason := none
  cleanedAt := none

/-- The checks of `admitAttachment`, with the session it has locked. -/
def checkAdmit (node : Node) (r : AdmissionRequest) : Except AttachmentFailure Session := do
  requireUuid r.nodeId
  requireUuid r.sessionId
  requireUuid r.deviceId
  requireUuid r.sshKeyId
  requireUuid r.leaseId
  reject (node.id ≠ r.nodeId) (attachmentError "ATTACHMENT_NODE_MISMATCH" 403)
  requireCapability node
  reject (node.status.available = false) (attachmentError "NODE_UNAVAILABLE" 409)
  match db.getSession r.sessionId with
  | none => .error (attachmentError "COMMON_NOT_FOUND" 404)
  | some runtime => do
    requireAttachable node runtime
    requireAccount ((seen 0).getAccount runtime.toolAccountId) runtime
    reject ((seen 1).activeDevice runtime.userId r.deviceId = none) <|
      attachmentError "DEVICE_REVOKED" 403
    reject ((seen 2).activeSshKey r.deviceId r.sshKeyId = none) <|
      attachmentError "SSH_KEY_REVOKED" 403
    reject ((seen 3).getLease r.leaseId ≠ none) (attachmentError "ATTACHMENT_LEASE_REPLAY" 409)
    reject (db.leases.any fun lease => lease.sessionId = runtime.id ∧ lease.status.live ∧
        (seen 4).clock < lease.expiresAt) <|
      attachmentError "ATTACHMENT_LEASE_CONCURRENT" 409
    .ok runtime

/-- `admitAttachment`. Another admission may have taken the identifier of the lease meanwhile. -/
def admitAttachment (node : Node) (r : AdmissionRequest) :
    AttachmentDb × Except AttachmentFailure AttachmentLease :=
  match checkAdmit seen db node r with
  | .error e => (db, .error e)
  | .ok runtime =>
    let lease := issuedLease db r runtime (seen 4).clock
    if db.getLease r.leaseId = none then
      ({ db with
         leases := lapseLeases db runtime.id (seen 4).clock ++ [lease]
         nextId := db.nextId + 1 }, .ok lease)
    else (db, .error .integrityError)

/-! ### Cleanup -/

/-- The session of a lease is still as the lease has it. -/
def AttachmentDb.sessionValid (lease : AttachmentLease) : Bool :=
  (db.getSession lease.sessionId).any fun runtime => runtime.userId = lease.userId ∧
    runtime.nodeId = lease.nodeId ∧ runtime.toolType = "claude".toList ∧ runtime.status.live ∧
      runtime.runtimeBackend = lease.runtimeBackend

def AttachmentDb.deviceValid (lease : AttachmentLease) : Bool :=
  (db.activeDevice lease.userId lease.deviceId).isSome

def AttachmentDb.keyValid (lease : AttachmentLease) : Bool :=
  (db.activeSshKey lease.deviceId lease.sshKeyId).isSome

/-- A state read while the lease is locked: the lease is already as at the commit. -/
def lockedRead (leaseId : Uuid) (i : ℕ) : AttachmentDb :=
  if (seen i).getLease leaseId = db.getLease leaseId then seen i else db

/-- `_current_identity_is_valid`. -/
def currentIdentityIsValid (lease : AttachmentLease) : Bool :=
  (lockedRead seen db lease.id 0).sessionValid lease ∧
    (lockedRead seen db lease.id 1).deviceValid lease ∧
      (lockedRead seen db lease.id 2).keyValid lease

/-- The status of the lease after a receipt. -/
def ReceiptStatus.leaseStatus : ReceiptStatus → LeaseStatus
  | cleaned => .cleaned
  | pending | unknown => .cleanupPending
  | rejected => .rejected

/-- The lease after a receipt. -/
def AttachmentLease.settled (lease : AttachmentLease) (status : ReceiptStatus) (now : Instant) :
    AttachmentLease :=
  let lease := { lease with status := status.leaseStatus }
  match status with
  | .cleaned => { lease with cleanedAt := some now }
  | .rejected => { lease with
      invalidatedAt := some (lease.invalidatedAt.getD now)
      invalidationReason := some
        ((lease.invalidationReason.filter (· ≠ [])).getD "cleanup_rejected".toList) }
  | _ => lease

def newReceipt (lease : AttachmentLease) (r : CleanupReport) (status : ReceiptStatus)
    (now : Instant) : CleanupReceipt where
  id := db.nextId
  leaseId := lease.id
  receiptId := r.receiptId
  sessionId := lease.sessionId
  userId := lease.userId
  nodeId := lease.nodeId
  deviceId := lease.deviceId
  sshKeyId := lease.sshKeyId
  status := status
  removedBatches := r.removedBatches
  observedAt := now

/-- The receipt after another report. -/
def CleanupReceipt.reported (receipt : CleanupReceipt) (r : CleanupReport)
    (status : ReceiptStatus) (now : Instant) : CleanupReceipt :=
  { receipt with status := status, removedBatches := r.removedBatches, observedAt := now }

/-- The checks of `record_cleanup` before it looks at receipts, with the lease it has locked. -/
def checkCleanup (nodeId : Uuid) (r : CleanupReport) :
    Except AttachmentFailure AttachmentLease := do
  requireUuid r.nodeId
  requireUuid r.sessionId
  requireUuid r.deviceId
  requireUuid r.sshKeyId
  requireUuid r.leaseId
  requireUuid r.receiptId
  reject (nodeId ≠ r.nodeId) (attachmentError "ATTACHMENT_NODE_MISMATCH" 403)
  match db.getLease r.leaseId with
  | none => .error (attachmentError "ATTACHMENT_LEASE_NOT_FOUND" 404)
  | some lease => do
    reject (lease.nodeId ≠ nodeId ∨ lease.sessionId ≠ r.sessionId ∨
        lease.deviceId ≠ r.deviceId ∨ lease.sshKeyId ≠ r.sshKeyId) <|
      attachmentError "ATTACHMENT_IDENTITY_CHANGED" 403
    .ok lease

/-- What a report does to the receipt there is: it repeats it, or moves it. -/
def replays (receipt : CleanupReceipt) (r : CleanupReport) : Except AttachmentFailure Bool := do
  reject (receipt.receiptId ≠ r.receiptId) (attachmentError "ATTACHMENT_RECEIPT_REPLAY" 409)
  if receipt.status = .cleaned ∨ receipt.status = r.status then .ok true
  else do
    reject (receipt.status.unsettled = false ∨ r.status ≠ .cleaned) <|
      attachmentError "ATTACHMENT_RECEIPT_CONFLICT" 409
    .ok false

/-- The status that `record_cleanup` records. -/
def recordedStatus (lease : AttachmentLease) (r : CleanupReport) : ReceiptStatus :=
  if lease.status.live ∧ currentIdentityIsValid seen db lease ∧
      (lockedRead seen db lease.id 3).clock < lease.expiresAt then r.status
  else .rejected

/-- The part of `record_cleanup` that stores a receipt. -/
def storeReceipt (lease : AttachmentLease) (receipt : Option CleanupReceipt) (r : CleanupReport) :
    Except AttachmentFailure (AttachmentDb × CleanupReceipt) :=
  let now := (lockedRead seen db lease.id 3).clock
  let status := recordedStatus seen db lease r
  let leases := replace AttachmentLease.id db.leases (lease.settled status now)
  match receipt with
  | some receipt =>
    let receipt := receipt.reported r status now
    .ok ({ db with
           leases := leases
           receipts := replace CleanupReceipt.leaseId db.receipts receipt }, receipt)
  | none =>
    let receipt := newReceipt db lease r status now
    if db.receipts.any (·.receiptId = r.receiptId) then .error .integrityError
    else .ok ({ db with
                leases := leases
                receipts := db.receipts ++ [receipt]
                nextId := db.nextId + 1 }, receipt)

/-- `record_cleanup`. -/
def recordCleanup (nodeId : Uuid) (r : CleanupReport) :
    Except AttachmentFailure (AttachmentDb × CleanupReceipt) := do
  let lease ← checkCleanup db nodeId r
  match db.receiptFor lease.id with
  | none => storeReceipt seen db lease none r
  | some receipt => do
    let repeated ← replays receipt r
    if repeated then .ok (db, receipt) else storeReceipt seen db lease (some receipt) r

/-! ### Invalidation -/

/-- A lease that was revoked. -/
def AttachmentLease.revoked (lease : AttachmentLease) (reason : Text) (now : Instant) :
    AttachmentLease :=
  { lease with status := .revoked, invalidatedAt := some now,
               invalidationReason := some (reason.take 64) }

/-- `_invalidate`, for the live leases that its statement selects. -/
def invalidate (selected : AttachmentLease → Bool) (reason : Text) (now : Instant) :
    List AttachmentLease :=
  db.leases.map fun lease =>
    if selected lease ∧ lease.status.live then lease.revoked reason now else lease

/-- `invalidate_for_session`. No lease of a session is issued while the session is locked. -/
def invalidateForSession (sessionId : Uuid) (reason : String) (now : Instant) :
    List AttachmentLease :=
  invalidate db (·.sessionId = sessionId) reason.toList now

/-- `invalidate_for_device`. A lease issued after the statement is not among those selected. -/
def invalidateForDevice (deviceId : Uuid) (reason : String) (now : Instant) :
    List AttachmentLease :=
  invalidate db (fun lease => lease.deviceId = deviceId ∧
    (seen 1).leases.any (·.id = lease.id)) reason.toList now

/-! ### Sessions and devices -/

/-- `_stop_session_locked`, as far as sessions and leases go. -/
def stopSession (userId sessionId : Uuid) : AttachmentDb × Except AttachmentFailure Unit :=
  match (db.getSession sessionId).filter (·.userId = userId) with
  | none => (db, .error (.apiError "COMMON_NOT_FOUND" 404))
  | some runtime =>
    let stopped := if runtime.status = .stopped ∨ runtime.status = .failed then runtime
      else { runtime with status := .stopping }
    ({ db with
       sessions := replace Session.id db.sessions stopped
       leases := invalidateForSession db sessionId "session_stopping" (seen 0).clock }, .ok ())

/-- The deletions of one session, of a collection and of all inactive sessions. `settled` says
whether the stops of the sessions were settled. -/
def deleteSessions (userId : Uuid) (ids : List Uuid) (settled : Bool) :
    AttachmentDb × Except AttachmentFailure Unit :=
  if ids.any fun id => (db.getSession id).filter (·.userId = userId) = none then
    (db, .error (.apiError "COMMON_NOT_FOUND" 404))
  else if ids.any fun id => (db.getSession id).any fun s => deletable s.status = false then
    (db, .error (.apiError "SESSION_DELETE_NOT_ALLOWED" 409))
  else if settled then
    ({ db with
       sessions := db.sessions.filter fun s => s.id ∉ ids
       leases := invalidate db (fun lease => lease.sessionId ∈ ids) "session_deleted".toList
         (seen 0).clock }, .ok ())
  else (db, .error (.apiError "SESSION_STOP_PENDING" 409))

/-- `revoke_device`, as far as devices, keys and leases go. -/
def revokeDevice (actorId : Uuid) (admin : Bool) (deviceId : Uuid) :
    AttachmentDb × Except AttachmentFailure Unit :=
  match ((seen 0).getDevice deviceId).filter fun d => admin ∨ d.userId = actorId with
  | none => (db, .error (.apiError "COMMON_NOT_FOUND" 404))
  | some _ =>
    ({ db with
       leases := invalidateForDevice seen db deviceId "device_revoked" (seen 1).clock
       devices := db.devices.map fun d => if d.id = deviceId then { d with status := .revoked } else d
       sshKeys := db.sshKeys.map fun k =>
         if k.userDeviceId = deviceId then { k with status := .revoked } else k }, .ok ())

/-- A node reports what became of a session that was starting or stopping. -/
def reportSession (sessionId : Uuid) (status : ToolSessionStatus) : AttachmentDb :=
  { db with sessions := db.sessions.map fun s =>
      if s.id = sessionId ∧ (s.status = .starting ∧ status ≠ .starting ∨
          s.status = .stopping ∧ status.live = false) then { s with status := status } else s }

/-! ### Transactions -/

inductive AttachmentTx where
  | admitAttachment (node : Node) (request : AdmissionRequest)
  | recordCleanup (nodeId : Uuid) (report : CleanupReport)
  | stopSession (userId sessionId : Uuid)
  | deleteSessions (userId : Uuid) (ids : List Uuid) (settled : Bool)
  | revokeDevice (actorId : Uuid) (admin : Bool) (deviceId : Uuid)
  | reportSession (sessionId : Uuid) (status : ToolSessionStatus)
  | tick (elapsed : ℕ)

inductive AttachmentAnswer where
  | failed (failure : AttachmentFailure)
  | admitted (lease : AttachmentLease)
  | receipt (data : CleanupReport)
  | done

/-- The state that a transaction leaves, and its answer. -/
def answered {α : Type} (f : α → AttachmentAnswer)
    (r : AttachmentDb × Except AttachmentFailure α) : AttachmentDb × AttachmentAnswer :=
  (r.1, match r.2 with
    | .ok a => f a
    | .error e => .failed e)

def AttachmentTx.commit (t : AttachmentTx) (seen : ℕ → AttachmentDb) (db : AttachmentDb) :
    AttachmentDb × AttachmentAnswer :=
  match t with
  | .admitAttachment node r => answered .admitted (Attachments.admitAttachment seen db node r)
  | .recordCleanup nodeId r =>
    match Attachments.recordCleanup seen db nodeId r with
    | .ok (after, receipt) => (after, .receipt receipt.data)
    | .error e => (db, .failed e)
  | .stopSession userId sessionId =>
    answered (fun _ => .done) (Attachments.stopSession seen db userId sessionId)
  | .deleteSessions userId ids settled =>
    answered (fun _ => .done) (Attachments.deleteSessions seen db userId ids settled)
  | .revokeDevice actorId admin deviceId =>
    answered (fun _ => .done) (Attachments.revokeDevice seen db actorId admin deviceId)
  | .reportSession sessionId status => (Attachments.reportSession db sessionId status, .done)
  | .tick elapsed => ({ db with clock := db.clock + elapsed }, .done)

/-- The rows there are before the first lease. -/
structure AttachmentWorld where
  sessions : List Session
  accounts : List Runtimes.ToolAccount
  devices : List PortForwards.UserDevice
  sshKeys : List SshKey
  clock : Instant

def emptyAttachmentDb (world : AttachmentWorld) : AttachmentDb where
  sessions := world.sessions
  accounts := world.accounts
  devices := world.devices
  sshKeys := world.sshKeys
  leases := []
  receipts := []
  nextId := 1
  clock := world.clock

/-- The transactions on the attachment leases of a server. -/
def attaching (world : AttachmentWorld) : Transactions AttachmentDb AttachmentTx AttachmentAnswer :=
  ⟨emptyAttachmentDb world, AttachmentTx.commit⟩

end AgentRemote.Attachments
