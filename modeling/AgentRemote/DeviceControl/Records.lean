import AgentRemote.Json
import AgentRemote.Library.Keyed
import AgentRemote.Library.Outcome
import AgentRemote.Values

/-!
# Records of device control

The rows of the device-control sessions, of their application approvals and of the node tasks
they enqueue, with the unique indexes their tables declare. Columns that a check constraint
pins to one value (platform, policy version) are left out. Tool sessions, devices and nodes
belong to other services and are read from a world that comes with each call.
-/

namespace AgentRemote
open Library

def maxDeviceSessionGeneration : ℕ := 9223372036854775807
def maxActiveDeviceSessionGeneration : ℕ := maxDeviceSessionGeneration - 1

/-- An error of the service: one meant for the caller, one the database raises, or a broken
assumption of the code. -/
inductive DeviceControlFailure where
  | apiError (code message : String) (statusCode : ℕ)
  | integrityError
  | runtimeError (message : String)
  deriving DecidableEq

inductive DeviceSessionStatus where
  | pendingDevice
  | pendingUserApproval
  | active
  | stopping
  | stopped
  | denied
  | expired
  | failed
  deriving DecidableEq

namespace DeviceSessionStatus

/-- `TERMINAL_DEVICE_STATUSES`. -/
def terminal : DeviceSessionStatus → Bool
  | stopped | denied | expired | failed => true
  | _ => false

/-- The statuses in which a device may reconnect. -/
def reconnectable : DeviceSessionStatus → Bool
  | pendingDevice | pendingUserApproval | active => true
  | _ => false

lemma terminal_eq_false_of_reconnectable {s : DeviceSessionStatus}
    (h : s.reconnectable = true) : s.terminal = false := by
  cases s <;> first | rfl | cases h

end DeviceSessionStatus

inductive AuthorizationMode where
  | perApplicationApproval
  | sessionFullTrust
  deriving DecidableEq

structure DeviceSession where
  id : Uuid
  userId : Uuid
  deviceId : Uuid
  toolSessionId : Option Uuid
  toolSessionReferenceId : Uuid
  nodeId : Uuid
  status : DeviceSessionStatus
  generation : ℕ
  authorizationMode : AuthorizationMode
  authorizedAt : Option Instant
  leaseUntil : Option Instant
  expiresAt : Instant
  lockAcquiredAt : Option Instant
  stoppedAt : Option Instant
  stopReason : Option Text
  deriving DecidableEq

/-- A digest of an approval request. -/
structure DeviceApprovalItem where
  applicationDigest : Text
  controlLevel : Text
  allowed : Bool
  clipboardAllowed : Bool

structure DeviceSessionApproval where
  deviceSessionId : Uuid
  item : DeviceApprovalItem

/-- The id of a task: the name of its kind, the session, the generation and for a context
update the lease, joined by colons. The text determines these. -/
inductive DeviceControlTaskId where
  | activate (sessionId : Uuid) (generation : ℕ)
  | deactivate (sessionId : Uuid) (generation : ℕ)
  | updateContext (sessionId : Uuid) (generation : ℕ) (leaseIdentity : ℤ)
  deriving DecidableEq

/-- What a task tells its node about the session. -/
structure DeviceControlPayload where
  authorizationMode : AuthorizationMode
  userId : Uuid
  deviceId : Uuid
  toolSessionId : Uuid
  deviceSessionId : Uuid
  nodeId : Uuid
  generation : ℕ

inductive DeviceControlTaskPayload where
  | activation (session : DeviceControlPayload) (expiresAt : Instant) (runtimeBackend : Text)
      (runtimeResourceId : Option Text)
  | deactivation (deviceSessionId toolSessionId : Uuid) (generation : ℕ)
  | context (session : DeviceControlPayload) (leaseUntil : Instant) (capabilities : List Text)

structure DeviceControlTask where
  taskId : DeviceControlTaskId
  nodeId : Uuid
  payload : DeviceControlTaskPayload

/-! ### The rows of other services -/

structure UserDevice where
  id : Uuid
  userId : Uuid
  active : Bool
  platform : Text

/-- A tool session as the service reads it: `running` stands for `ACTIVE_TOOL_STATUSES`. -/
structure ToolSession where
  id : Uuid
  userId : Uuid
  nodeId : Uuid
  toolType : Text
  running : Bool
  deviceControlProtocolVersion : Option ℤ
  runtimeBackend : Text
  runtimeResourceId : Option Text

/-- A node as the service reads it: `available` stands for healthy or degraded. -/
structure DeviceControlNode where
  id : Uuid
  available : Bool
  runtimeCapabilities : JsonObject

/-- The tool sessions, devices and nodes at the time of a call. -/
structure DeviceControlWorld where
  toolSession : Uuid → Option ToolSession
  device : Uuid → Option UserDevice
  node : Uuid → Option DeviceControlNode

inductive TokenType where
  | user
  | device
  | other
  deriving DecidableEq

structure AuthToken where
  tokenType : TokenType
  userId : Uuid
  userDeviceId : Option Uuid

structure User where
  id : Uuid
  admin : Bool

/-! ### Tables -/

structure DeviceControlTables where
  sessions : List DeviceSession := []
  approvals : List DeviceSessionApproval := []
  tasks : List DeviceControlTask := []

namespace DeviceControlTables

variable (db : DeviceControlTables)

def get (id : Uuid) : Option DeviceSession := lookup DeviceSession.id db.sessions id

/-- The live sessions with a property, in the order of their ids. -/
def listLive (p : DeviceSession → Prop) [DecidablePred p] : List DeviceSession :=
  (db.sessions.filter fun s => p s ∧ s.status.terminal = false).insertionSort (·.id ≤ ·.id)

def listLiveForBinding (toolSessionId deviceId : Uuid) : List DeviceSession :=
  db.listLive fun s => s.toolSessionId = some toolSessionId ∨ s.deviceId = deviceId

def listLiveForDevice (deviceId : Uuid) : List DeviceSession :=
  db.listLive fun s => s.deviceId = deviceId

def listLiveForToolSession (toolSessionId : Uuid) : List DeviceSession :=
  db.listLive fun s => s.toolSessionId = some toolSessionId

/-- The live sessions past their end, in the order of their ends. -/
def listDue (now : Instant) : List DeviceSession :=
  (db.sessions.filter fun s => s.status.terminal = false ∧ s.expiresAt ≤ now).insertionSort
    fun s t => s.expiresAt < t.expiresAt ∨ s.expiresAt = t.expiresAt ∧ s.id ≤ t.id

/-- The sessions a device can act on. -/
def listForDevice (deviceId : Uuid) : List DeviceSession :=
  db.sessions.filter fun s => s.deviceId = deviceId ∧ s.status.reconnectable

def listForUser (userId : Uuid) : List DeviceSession :=
  db.sessions.filter fun s => s.userId = userId

/-- `find_machine_lock`. -/
def findMachineLock (deviceId excluding : Uuid) : Option DeviceSession :=
  db.sessions.find? fun s => s.deviceId = deviceId ∧ s.id ≠ excluding ∧ s.status = .active ∧
    s.lockAcquiredAt ≠ none

/-- A new session must keep the unique indexes over the live sessions. -/
def addSession (s : DeviceSession) : Except DeviceControlFailure DeviceControlTables := do
  reject (∃ t ∈ db.sessions, t.id = s.id ∨ t.status.terminal = false ∧
      (t.toolSessionId ≠ none ∧ t.toolSessionId = s.toolSessionId ∨ t.deviceId = s.deviceId))
    DeviceControlFailure.integrityError
  pure { db with sessions := db.sessions ++ [s] }

def setSession (s : DeviceSession) : DeviceControlTables :=
  { db with sessions := replace DeviceSession.id db.sessions s }

/-- A session that takes the machine lock must keep the unique index over the locks. -/
def lockSession (s : DeviceSession) : Except DeviceControlFailure DeviceControlTables := do
  reject (∃ t ∈ db.sessions, t.id ≠ s.id ∧ t.deviceId = s.deviceId ∧ t.lockAcquiredAt ≠ none)
    DeviceControlFailure.integrityError
  pure (db.setSession s)

/-- Deletes sessions; their approvals go with them. -/
def deleteSessions (p : DeviceSession → Prop) [DecidablePred p] : DeviceControlTables :=
  { db with
    sessions := db.sessions.filter fun s => ¬p s
    approvals := db.approvals.filter fun a =>
      ¬∃ s ∈ db.sessions, p s ∧ s.id = a.deviceSessionId }

/-- `replace_approvals`. -/
def replaceApprovals (id : Uuid) (items : List DeviceApprovalItem) : DeviceControlTables :=
  { db with approvals := (db.approvals.filter fun a => a.deviceSessionId ≠ id) ++
      items.map (DeviceSessionApproval.mk id) }

/-- Task ids are unique. -/
def addTask (t : DeviceControlTask) : Except DeviceControlFailure DeviceControlTables := do
  reject (∃ u ∈ db.tasks, u.taskId = t.taskId) DeviceControlFailure.integrityError
  pure { db with tasks := db.tasks ++ [t] }

end DeviceControlTables

end AgentRemote
