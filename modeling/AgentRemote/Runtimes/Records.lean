import AgentRemote.PortForwards.Service

/-!
# Records of runtimes and node tasks

The tool sessions and browser sessions, the tasks that nodes carry out for them with their
receipts, and the rows that a task report or the end of a session touches.
-/

namespace AgentRemote.Runtimes
open Library PortForwards

/-- `str(UUID)` and `UUID(text)`. -/
structure UuidText where
  str : Uuid → Text
  parse : Text → Option Uuid
  parse_str : ∀ id, parse (str id) = some id

/-- Identifiers as texts of as many digits. -/
lemma UuidText.unary (id : Uuid) : some (List.replicate id '0').length = some id := by simp

lemma UuidText.str_inj (uuid : UuidText) {a b : Uuid} (h : uuid.str a = uuid.str b) : a = b := by
  have hparse := congrArg uuid.parse h
  rw [uuid.parse_str, uuid.parse_str] at hparse
  exact Option.some.inj hparse

structure Session where
  id : Uuid
  userId : Uuid
  toolType : Text
  toolAccountId : Uuid
  workspaceId : Uuid
  nodeId : Uuid
  projectKey : Text
  status : ToolSessionStatus
  tmuxSessionName : Option Text
  containerId : Option Text
  runtimeBackend : Text
  runtimeResourceId : Option Text
  replacesSessionId : Option Uuid

/-- `DELETABLE_SESSION_STATUSES`. -/
def deletable : ToolSessionStatus → Bool
  | .stopped | .interrupted | .failed => true
  | _ => false

/-- `ACTIVE_SESSION_STATUSES`. -/
def started : ToolSessionStatus → Bool
  | .starting | .running | .active => true
  | _ => false

/-- A skill snapshot marks its session as managed. -/
structure SessionSkillSnapshot where
  id : Uuid
  userId : Uuid
  accountId : Uuid
  nodeId : Uuid
  sessionReferenceId : Uuid
  prepareTaskId : Uuid

/-- The row under which a user's stored history is locked. -/
structure SkillStorageUsage where
  userId : Uuid
  lockVersion : ℕ

inductive TaskType where
  | createToolSession
  | stopToolSession
  | createBrowserSession
  | stopBrowserSession
  | createBindingSession
  | verifyToolAccount
  | migrateToolAccountRuntime
  | recoverToolAccountRuntime
  | importToolAccountConfig
  | takeoverToolAccountSkills
  | prepareAccountSkills
  | prepareWorkspace
  | syncSshKeys
  | cancelEgoBrowserRequest
  | activateDeviceControl
  | deactivateDeviceControl
  | updateDeviceControlContext
  deriving DecidableEq

inductive TaskStatus where
  | pending
  | leased
  | running
  | succeeded
  | failed
  | cancelled
  | expired
  deriving DecidableEq

/-- One of `succeeded`, `failed`, `cancelled` and `expired`. -/
def TaskStatus.terminal : TaskStatus → Bool
  | pending | leased | running => false
  | _ => true

/-- How a node reports that a task ended. -/
inductive TaskOutcome where
  | succeeded
  | failed
  deriving DecidableEq

def TaskOutcome.status : TaskOutcome → TaskStatus
  | succeeded => .succeeded
  | failed => .failed

/-- Tasks are listed in the order they were created in. -/
structure NodeTask where
  id : Uuid
  taskId : Text
  nodeId : Uuid
  taskType : TaskType
  status : TaskStatus
  payload : JsonObject
  leaseUntil : Option Instant
  retryCount : ℕ

structure NodeTaskResult where
  nodeTaskId : Uuid
  taskId : Text
  status : TaskOutcome
  result : Option JsonObject
  error : Option JsonObject
  finishedAt : Option Instant

inductive AccountStatus where
  | bindingRequested
  | bindingSessionStarting
  | bindingWaitingUserLogin
  | bindingVerifying
  | active
  | expired
  | disabled
  | failed
  | nodeUnavailable
  | migrating
  deriving DecidableEq

structure ToolAccount where
  id : Uuid
  userId : Uuid
  toolType : Text
  affinityNodeId : Option Uuid
  status : AccountStatus
  runtimeBackend : Option Text

structure ToolAccountProfile where
  toolAccountId : Uuid
  profileJson : JsonObject

inductive BrowserStatus where
  | starting
  | ready
  | stopping
  | stopped
  | failed
  | expired

structure BrowserSession where
  id : Uuid
  userId : Uuid
  toolAccountId : Option Uuid
  nodeId : Uuid
  status : BrowserStatus
  containerId : Option Text
  streamEndpoint : Option Text
  expiresAt : Instant
  stoppedAt : Option Instant

inductive SyncStatus where
  | starting
  | active
  | healthy
  | paused
  | conflicted
  | failed
  | stopped
  deriving DecidableEq

structure SyncSession where
  id : Uuid
  workspaceId : Uuid
  userId : Uuid
  nodeId : Option Uuid
  remotePath : Text
  status : SyncStatus

structure Workspace where
  id : Uuid
  userId : Uuid
  deviceId : Uuid
  remotePath : Option Text

inductive LeaseStatus where
  | issued
  | cleanupPending
  | cleaned
  | expired
  | revoked
  | rejected
  deriving DecidableEq

/-- One of `LIVE_LEASE_STATES`. -/
def LeaseStatus.live : LeaseStatus → Bool
  | issued | cleanupPending => true
  | _ => false

structure SessionAttachmentLease where
  id : Uuid
  sessionId : Uuid
  status : LeaseStatus
  expiresAt : Instant
  invalidatedAt : Option Instant
  invalidationReason : Option Text

/-- A browser binding of a tool session, revoked or not. -/
structure EgoBrowserBinding where
  id : Uuid
  toolSessionId : Uuid
  live : Bool

/-! ### Request ledgers -/

/-- A text where a digest is expected: that of a content, or another one. -/
inductive Digest (α : Type) where
  | of (content : α)
  | other (wellFormed : Bool)

/-- `_valid_digest`. -/
def Digest.valid {α : Type} : Digest α → Bool
  | .of _ => true
  | .other wellFormed => wellFormed

/-- The members of a sync target that are read, and the text of the others. -/
structure SyncTarget where
  id : Option Text
  targetDigest : Option Text
  rest : Text

/-- What the fingerprint of a creation stands for. -/
structure CreateIntent where
  toolType : Text
  toolAccountId : Uuid
  workspaceId : Uuid
  projectKey : Text
  argv : List Text
  replacementSessionId : Option Uuid
  syncTarget : Option SyncTarget

/-- Why a creation was accepted without a session. -/
inductive PendingCreation where
  | migrationPending
  | stateMigrationRequired

structure SessionCreateRequest where
  userId : Uuid
  requestId : Uuid
  intentFingerprint : CreateIntent
  nodeId : Option Uuid
  sessionId : Option Uuid
  taskRecordId : Option Uuid
  taskId : Option Text
  pending : Option PendingCreation

/-- What the fingerprint of a stop stands for. -/
structure StopIntent where
  sessionId : Uuid
  nodeId : Uuid
  runtimeBackend : Text
  runtimeResourceId : Option Text
  reason : Text

inductive StopPhase where
  | accepted
  | stopped
  | failed

structure SessionStopRequest where
  userId : Uuid
  requestId : Uuid
  sessionId : Uuid
  nodeId : Uuid
  runtimeBackend : Text
  runtimeResourceId : Option Text
  taskRecordId : Option Uuid
  taskId : Option Text
  finalizationId : Option Uuid
  intentFingerprint : StopIntent
  reason : Text
  phase : StopPhase

/-- The filter of a collection, in the form its digest covers. -/
structure DeleteSelection where
  toolType : Text
  statuses : List ToolSessionStatus
  projectKey : Option Text

/-- What the selection digest of a collection deletion stands for. -/
structure SelectedCollection where
  toolType : Text
  sessionIds : List Uuid
  selection : DeleteSelection

structure SessionDeleteRequest where
  userId : Uuid
  requestId : Uuid
  collection : SelectedCollection
  reason : Text
  sessions : List Session

/-- The tables and the clock. `nextId` is the next identifier that `uuid4` draws. -/
structure RuntimeDb where
  sessions : List Session
  snapshots : List SessionSkillSnapshot
  usages : List SkillStorageUsage
  tasks : List NodeTask
  receipts : List NodeTaskResult
  accounts : List ToolAccount
  profiles : List ToolAccountProfile
  browserSessions : List BrowserSession
  syncSessions : List SyncSession
  workspaces : List Workspace
  forwards : List PortForward
  leases : List SessionAttachmentLease
  bindings : List EgoBrowserBinding
  createRequests : List SessionCreateRequest
  stopRequests : List SessionStopRequest
  deleteRequests : List SessionDeleteRequest
  nextId : Uuid
  clock : Instant

inductive RuntimeFailure where
  | apiError (code message : String) (statusCode : ℕ)
  | integrityError
  | staleDataError

namespace RuntimeDb

variable (db : RuntimeDb)

def getSession (id : Uuid) : Option Session := lookup Session.id db.sessions id

/-- `lock_session`. -/
def userSession (id userId : Uuid) : Option Session :=
  (db.getSession id).filter (·.userId = userId)

/-- `get_task_by_task_id`. -/
def taskByTaskId (taskId : Text) : Option NodeTask := lookup NodeTask.taskId db.tasks taskId

/-- `get_task_result`. -/
def receipt (taskId : Text) : Option NodeTaskResult :=
  lookup NodeTaskResult.taskId db.receipts taskId

def getAccount (id : Uuid) : Option ToolAccount := lookup ToolAccount.id db.accounts id

def getProfile (accountId : Uuid) : Option ToolAccountProfile :=
  lookup ToolAccountProfile.toolAccountId db.profiles accountId

def getBrowserSession (id : Uuid) : Option BrowserSession :=
  lookup BrowserSession.id db.browserSessions id

/-- `snapshot_for_session`. -/
def snapshotForSession (userId sessionId : Uuid) : Option SessionSkillSnapshot :=
  db.snapshots.find? fun n => n.userId = userId ∧ n.sessionReferenceId = sessionId

def hasUsage (userId : Uuid) : Bool := db.usages.any (·.userId = userId)

/-- `lock_existing_usage_for_mutation`, on which each history mutation starts. -/
def historyMutation (userId : Uuid) : List SkillStorageUsage :=
  db.usages.map fun u => if u.userId = userId then { u with lockVersion := u.lockVersion + 1 } else u

end RuntimeDb

end AgentRemote.Runtimes
