import AgentRemote.Json
import AgentRemote.Library.Keyed
import AgentRemote.Library.Outcome
import AgentRemote.Values

/-!
# Records of the ego-browser control plane

The rows of the browser devices, bindings, request ledger and revocation outbox, with the
unique indexes their tables declare. Columns that a check constraint pins to one value (channel,
relay kind, authorization mode and version, platforms of a binding) are left out.
-/

namespace AgentRemote
open Library

def maxEgoBrowserGeneration : ℕ := 9223372036854775807
def maxActiveEgoBrowserGeneration : ℕ := maxEgoBrowserGeneration - 1

def egoBrowserProtocol : Text := "ego-browser-bridge-v1".toList

/-- An error of a service: one meant for the caller, one of the frame validation, or one the
database raises. -/
inductive EgoBrowserFailure where
  | apiError (code message : String) (statusCode : ℕ)
  | valueError (reason : String)
  | integrityError
  | dataError
  deriving DecidableEq

inductive EgoBrowserReleaseProfile where
  | logicTest
  | developmentLocal
  | communityLocalTrust
  | developerId
  deriving DecidableEq

inductive EgoBrowserCredentialProfile where
  | communityFile
  | keychainAccessGroup
  deriving DecidableEq

inductive EgoBrowserDeviceStatus where
  | active
  | retiring
  | revoked
  deriving DecidableEq

inductive EgoBrowserBindingStatus where
  | pendingDevice
  | connecting
  | probingLocalBrowser
  | active
  | paused
  | stopping
  | stopped
  | expired
  | failed
  | revoked
  deriving DecidableEq

inductive EgoBrowserLeaseHealth where
  | healthy
  | renewalGrace
  | expired
  deriving DecidableEq

inductive EgoBrowserConcurrencyMode where
  | taskSpaceTab
  | taskSpace
  | binding
  deriving DecidableEq

inductive EgoBrowserRelayRole where
  | bridge
  | wrapper
  deriving DecidableEq

namespace EgoBrowserBindingStatus

/-- `TERMINAL_STATUSES`. -/
def terminal : EgoBrowserBindingStatus → Bool
  | stopped | expired | failed | revoked => true
  | _ => false

/-- `LIVE_STATUSES` of the repository, and `LIVE_FOR_CLAIM`. -/
def live : EgoBrowserBindingStatus → Bool
  | pendingDevice | connecting | probingLocalBrowser | active | paused => true
  | _ => false

/-- The statuses in which a Bridge is awaited. -/
def awaitsBridge : EgoBrowserBindingStatus → Bool
  | pendingDevice | connecting | probingLocalBrowser => true
  | _ => false

lemma terminal_eq_false_of_live {s : EgoBrowserBindingStatus} (h : s.live = true) :
    s.terminal = false := by
  cases s <;> first | rfl | cases h

lemma live_of_awaitsBridge {s : EgoBrowserBindingStatus} (h : s.awaitsBridge = true) :
    s.live = true := by
  cases s <;> first | rfl | cases h

end EgoBrowserBindingStatus

structure EgoBrowserDevice where
  id : Uuid
  userId : Uuid
  publicKey : Text
  encryptionPublicKey : Option Text
  generation : ℕ
  status : EgoBrowserDeviceStatus
  platform : Text
  serverOrigin : Option Text
  releaseProfile : EgoBrowserReleaseProfile
  signerCertificateSha256 : Text
  credentialProfile : EgoBrowserCredentialProfile
  bridgeProtocolVersion : Text
  bridgeVersion : Option Text
  localEgoBrowserRuntimeVersion : Option Text
  egoLiteRuntimeVersion : Option Text
  skillVersion : Option Text
  capabilities : List Text
  allowlistRevision : ℤ
  allowlistRootsDigest : Option Text
  learningBundleDigest : Option Text
  lastSeenAt : Option Instant
  revokedAt : Option Instant
  deriving DecidableEq

structure EgoBrowserDeviceCredential where
  id : Uuid
  egoBrowserDeviceId : Uuid
  status : EgoBrowserDeviceStatus
  revokedAt : Option Instant

structure EgoBrowserBinding where
  id : Uuid
  userId : Uuid
  egoBrowserDeviceId : Uuid
  toolSessionId : Option Uuid
  toolSessionReferenceId : Uuid
  nodeId : Uuid
  status : EgoBrowserBindingStatus
  authorizedAt : Instant
  releaseProfile : EgoBrowserReleaseProfile
  signerCertificateSha256 : Text
  credentialProfile : EgoBrowserCredentialProfile
  localRuntimeVersion : Option Text
  egoLiteRuntimeVersion : Option Text
  skillVersion : Option Text
  bridgeProtocolVersion : Text
  taskSpaceLabel : Option Text
  allowlistRevision : ℤ
  allowlistRootsDigest : Option Text
  learningBundleDigest : Option Text
  concurrencyMode : EgoBrowserConcurrencyMode
  maxParallelRequests : ℕ
  capabilities : List Text
  leaseUntil : Option Instant
  leaseHealth : EgoBrowserLeaseHealth
  leaseGraceUntil : Option Instant
  leaseRenewIntervalSeconds : ℕ
  leaseRenewFailureGraceSeconds : ℕ
  absoluteTtlUntil : Instant
  generation : ℕ
  connectedAt : Option Instant
  stoppedAt : Option Instant
  stopReason : Option String
  revokedAt : Option Instant
  deriving DecidableEq

inductive LedgerDirection where
  | request
  | response
  deriving DecidableEq

inductive LedgerMessageType where
  | execute
  | executeResult
  | cancel
  deriving DecidableEq

inductive EgoBrowserRequestStatus where
  | accepted
  | cancelRequested
  | cancelled
  | completed
  | rejected
  deriving DecidableEq

namespace EgoBrowserRequestStatus

/-- The statuses a request can still be cancelled in. -/
def unfinished : EgoBrowserRequestStatus → Bool
  | accepted | cancelRequested => true
  | _ => false

end EgoBrowserRequestStatus

structure EgoBrowserRequestLedger where
  id : Uuid
  bindingId : Uuid
  generation : ℕ
  requestId : Text
  sequence : ℤ
  direction : LedgerDirection
  messageType : LedgerMessageType
  payloadBytes : ℤ
  status : EgoBrowserRequestStatus

structure EgoBrowserRevocationOutbox where
  bindingId : Uuid
  generation : ℕ
  reason : String
  deliveredAt : Option Instant

/-- The payload of a `cancel_ego_browser_request` task, with the ledger row its task id
names. -/
structure CancelRequestTask where
  ledgerId : Uuid
  nodeId : Uuid
  bindingId : Uuid
  generation : ℕ
  requestId : Text
  sequence : ℤ

/-- The caller of a user endpoint. -/
structure EgoBrowserUser where
  id : Uuid
  admin : Bool

/-- A node as the service reads it. -/
structure EgoBrowserNode where
  id : Uuid
  healthy : Bool
  runtimeCapabilities : JsonObject

structure EgoBrowserTables where
  devices : List EgoBrowserDevice := []
  credentials : List EgoBrowserDeviceCredential := []
  bindings : List EgoBrowserBinding := []
  ledger : List EgoBrowserRequestLedger := []
  outbox : List EgoBrowserRevocationOutbox := []
  tasks : List CancelRequestTask := []

namespace EgoBrowserTables

variable (db : EgoBrowserTables)

/-! ### Reads -/

def getDevice (id : Uuid) : Option EgoBrowserDevice := lookup EgoBrowserDevice.id db.devices id

def getBinding (id : Uuid) : Option EgoBrowserBinding :=
  lookup EgoBrowserBinding.id db.bindings id

def listLiveForDevice (deviceId : Uuid) : List EgoBrowserBinding :=
  db.bindings.filter fun b => b.egoBrowserDeviceId = deviceId ∧ b.status.live

def listLiveForUser (userId : Uuid) : List EgoBrowserBinding :=
  db.bindings.filter fun b => b.userId = userId ∧ b.status.live

def listLiveForNode (nodeId : Uuid) : List EgoBrowserBinding :=
  db.bindings.filter fun b => b.nodeId = nodeId ∧ b.status.live

def listLiveForSession (sessionId : Uuid) : List EgoBrowserBinding :=
  db.bindings.filter fun b =>
    (b.toolSessionId = some sessionId ∨ b.toolSessionReferenceId = sessionId) ∧ b.status.live

/-- Whether a live binding has passed its lease, its grace or its absolute deadline. -/
def due (now : Instant) (b : EgoBrowserBinding) : Bool :=
  b.status.live ∧
    (b.absoluteTtlUntil ≤ now ∨
      b.leaseHealth = .healthy ∧ (∃ t ∈ b.leaseUntil, t ≤ now) ∨
      b.leaseHealth = .renewalGrace ∧ (∃ t ∈ b.leaseGraceUntil, t ≤ now))

def listDueBindings (now : Instant) : List EgoBrowserBinding := db.bindings.filter (due now)

def getLedger (bindingId : Uuid) (generation : ℕ) (direction : LedgerDirection)
    (requestId : Text) (sequence : ℤ) : Option EgoBrowserRequestLedger :=
  db.ledger.find? fun r => r.bindingId = bindingId ∧ r.generation = generation ∧
    r.direction = direction ∧ r.requestId = requestId ∧ r.sequence = sequence

/-- The sequences of one generation and direction. -/
def sequences (bindingId : Uuid) (generation : ℕ) (direction : LedgerDirection) : List ℤ :=
  (db.ledger.filter fun r => r.bindingId = bindingId ∧ r.generation = generation ∧
    r.direction = direction).map (·.sequence)

def maxSequence (bindingId : Uuid) (generation : ℕ) (direction : LedgerDirection) : Option ℤ :=
  (db.sequences bindingId generation direction).max?

def getOutbox (bindingId : Uuid) (generation : ℕ) : Option EgoBrowserRevocationOutbox :=
  db.outbox.find? fun e => e.bindingId = bindingId ∧ e.generation = generation

/-! ### Writes -/

def setBinding (b : EgoBrowserBinding) : EgoBrowserTables :=
  { db with bindings := replace EgoBrowserBinding.id db.bindings b }

def setDevice (d : EgoBrowserDevice) : EgoBrowserTables :=
  { db with devices := replace EgoBrowserDevice.id db.devices d }

def setLedger (r : EgoBrowserRequestLedger) : EgoBrowserTables :=
  { db with ledger := replace EgoBrowserRequestLedger.id db.ledger r }

/-- A new binding must keep the partial unique indexes over the live bindings. -/
def addBinding (b : EgoBrowserBinding) : Except EgoBrowserFailure EgoBrowserTables := do
  reject (∃ c ∈ db.bindings, c.id = b.id ∨ c.status.terminal = false ∧
      b.status.terminal = false ∧
      (c.egoBrowserDeviceId = b.egoBrowserDeviceId ∨
        c.toolSessionId ≠ none ∧ c.toolSessionId = b.toolSessionId))
    EgoBrowserFailure.integrityError
  pure { db with bindings := db.bindings ++ [b] }

def addDevice (d : EgoBrowserDevice) : Except EgoBrowserFailure EgoBrowserTables := do
  reject (∃ e ∈ db.devices, e.id = d.id) EgoBrowserFailure.integrityError
  pure { db with devices := db.devices ++ [d] }

/-- A ledger row is unique by its request and by its sequence within its generation and
direction. -/
def addLedger (r : EgoBrowserRequestLedger) : Except EgoBrowserFailure EgoBrowserTables := do
  reject (maxBigint < r.sequence ∨ maxBigint < r.payloadBytes) EgoBrowserFailure.dataError
  reject (∃ q ∈ db.ledger, q.id = r.id ∨ q.bindingId = r.bindingId ∧
      q.generation = r.generation ∧ q.direction = r.direction ∧
      (q.requestId = r.requestId ∨ q.sequence = r.sequence))
    EgoBrowserFailure.integrityError
  pure { db with ledger := db.ledger ++ [r] }

/-- An outbox row is unique by its binding and generation. -/
def addOutbox (e : EgoBrowserRevocationOutbox) : Except EgoBrowserFailure EgoBrowserTables := do
  reject (∃ f ∈ db.outbox, f.bindingId = e.bindingId ∧ f.generation = e.generation)
    EgoBrowserFailure.integrityError
  pure { db with outbox := db.outbox ++ [e] }

/-- The task id `cancel_ego_browser_request:{id}` is unique. -/
def addTask (t : CancelRequestTask) : Except EgoBrowserFailure EgoBrowserTables := do
  reject (∃ u ∈ db.tasks, u.ledgerId = t.ledgerId) EgoBrowserFailure.integrityError
  pure { db with tasks := db.tasks ++ [t] }

/-- Cancels the unfinished requests of one generation. -/
def cancelGenerationRequests (bindingId : Uuid) (generation : ℕ) : EgoBrowserTables :=
  { db with ledger := db.ledger.map fun r =>
      if r.bindingId = bindingId ∧ r.generation = generation ∧ r.direction = .request ∧
        r.messageType = .execute ∧ r.status.unfinished
      then { r with status := .cancelled } else r }

end EgoBrowserTables

end AgentRemote
