import AgentRemote.Runtimes.Guards

/-!
# Records of the runtime of a tool account

One tool account with its sessions, the tasks that nodes carry out for it and the migration of
its backend. `userTurns` counts the commits that have locked the usage row of its owner, and
`accountTurns` those that have locked its own row, so that what a transaction reads under a lock
can be told from what it read before.
-/

namespace AgentRemote.AccountRuntime
open Library PortForwards Runtimes

/-- Nodes are listed in the order they were created in. -/
structure Node where
  id : Uuid
  status : NodeStatus
  regionCode : Text
  tags : List Text
  weight : ℤ
  supportedToolTypes : List Text
  allowedRuntimeBackends : List Text
  defaultRuntimeBackend : Text
  runtimeCapabilities : JsonObject
  lastHeartbeatAt : Option Instant

structure Workspace where
  id : Uuid
  userId : Uuid
  projectKey : Text
  remotePath : Option Text

structure ToolAccount where
  id : Uuid
  userId : Uuid
  toolType : Text
  status : AccountStatus
  regionCode : Text
  preferredNodeTags : List Text
  affinityNodeId : Option Uuid
  runtimeBackend : Option Text
  deriving DecidableEq

/-- Sessions are listed in the order they were created in. `managed` says that a session has a
skill snapshot. -/
structure Session where
  id : Uuid
  workspaceId : Uuid
  nodeId : Uuid
  projectKey : Text
  status : ToolSessionStatus
  runtimeBackend : Text
  replacesSessionId : Option Uuid
  managed : Bool

/-! ### Tasks -/

/-- The logical identities of tasks. -/
inductive TaskName where
  | createToolSession (sessionId : Uuid)
  | stopToolSession (sessionId : Uuid)
  | cleanupToolSession (sessionId : Uuid)
  | createBindingSession (attempt : Uuid)
  | verifyToolAccount (attempt : Uuid)
  | migrateToolAccountRuntime (attempt : Uuid)
  | recoverToolAccountRuntime (requestId : Uuid)
  deriving DecidableEq

/-- What a migration task says of the account and the backends. -/
structure MigrationPayload where
  toolAccountId : Uuid
  userId : Uuid
  toolType : Text
  sourceRuntimeBackend : Text
  targetRuntimeBackend : Text
  deriving DecidableEq

inductive RecoveryAction where
  | verifySource
  | repairSource
  deriving DecidableEq

/-- A recovery task with the migration it is about. Without an action it checks the target. -/
structure RuntimeRecoveryBinding where
  action : Option RecoveryAction
  taskId : TaskName
  taskRecordId : Uuid
  originalTaskId : TaskName
  originalTaskRecordId : Uuid
  nodeId : Uuid
  payload : MigrationPayload
  deriving DecidableEq

/-- The types of tasks with what their payloads say. -/
inductive Work where
  | createToolSession (sessionId : Uuid)
  | stopToolSession (sessionId : Uuid) (preserveInterruptedStatus : Bool)
  | createBindingSession (attempt : Uuid)
  | verifyToolAccount (attempt : Uuid)
  | migrateToolAccountRuntime (attempt : Uuid) (payload : MigrationPayload)
  | recoverToolAccountRuntime (requestId : Uuid) (binding : RuntimeRecoveryBinding)
  deriving DecidableEq

/-- Tasks that clean up keep the status of an interrupted session. -/
def Work.taskId : Work → TaskName
  | createToolSession id => .createToolSession id
  | stopToolSession id preserve => if preserve then .cleanupToolSession id else .stopToolSession id
  | createBindingSession attempt => .createBindingSession attempt
  | verifyToolAccount attempt => .verifyToolAccount attempt
  | migrateToolAccountRuntime attempt _ => .migrateToolAccountRuntime attempt
  | recoverToolAccountRuntime requestId _ => .recoverToolAccountRuntime requestId

structure NodeTask where
  id : Uuid
  nodeId : Uuid
  work : Work
  status : TaskStatus
  leaseUntil : Option Instant
  retryCount : ℕ
  deriving DecidableEq

def NodeTask.taskId (t : NodeTask) : TaskName := t.work.taskId

structure NodeTaskResult where
  nodeTaskId : Uuid
  taskId : TaskName
  status : TaskOutcome
  result : Option JsonObject
  error : Option JsonObject

/-! ### Profiles -/

inductive MigrationStatus where
  | pending
  | failed
  | recoveryRequired
  | succeeded
  | rolledBack
  deriving DecidableEq

/-- One of `succeeded` and `rolled_back`. -/
def MigrationStatus.settled : MigrationStatus → Bool
  | succeeded | rolledBack => true
  | _ => false

inductive RecoveryStatus where
  | pending
  | reported (outcome : TaskOutcome)
  deriving DecidableEq

/-- The member `runtime_migration` of a profile. -/
structure RuntimeMigration where
  taskId : TaskName
  sourceRuntimeBackend : Text
  targetRuntimeBackend : Text
  previousStatus : AccountStatus
  status : MigrationStatus
  recoveryTaskId : Option TaskName
  recoveryStatus : Option RecoveryStatus
  deriving DecidableEq

/-- The members of `profile_json` that an operation reads. -/
structure Profile where
  bindingTaskId : Option TaskName
  verificationTaskId : Option TaskName
  runtimeMigration : Option RuntimeMigration

/-! ### Tables -/

structure AccountDb where
  account : ToolAccount
  profile : Profile
  workspaces : List Workspace
  nodes : List Node
  sessions : List Session
  tasks : List NodeTask
  receipts : List NodeTaskResult
  nextId : Uuid
  clock : Instant
  userTurns : ℕ
  accountTurns : ℕ

namespace AccountDb

variable (db : AccountDb)

def getNode (id : Uuid) : Option Node := lookup Node.id db.nodes id

def getWorkspace (id : Uuid) : Option Workspace := lookup Workspace.id db.workspaces id

def getSession (id : Uuid) : Option Session := lookup Session.id db.sessions id

/-- `get_task_by_task_id`. -/
def getTask (taskId : TaskName) : Option NodeTask := lookup NodeTask.taskId db.tasks taskId

/-- `get_task_result`. -/
def receipt (taskId : TaskName) : Option NodeTaskResult :=
  lookup NodeTaskResult.taskId db.receipts taskId

/-- `list_active_sessions_for_account`. -/
def activeSessions : List Session := db.sessions.filter (started ·.status)

/-- `list_active_sessions`, which counts sessions that stop. -/
def unfinishedSessions : List Session :=
  db.sessions.filter fun s => started s.status ∨ s.status = .stopping

/-- `list_candidate_nodes`. -/
def listCandidateNodes (account : ToolAccount) : List Node :=
  (db.nodes.filter fun n => n.status.available).insertionSort (fun a b => b.weight ≤ a.weight)
    |>.filter fun n => account.toolType ∈ n.supportedToolTypes ∧
      n.regionCode = account.regionCode ∧ account.preferredNodeTags ⊆ n.tags

end AccountDb

end AgentRemote.AccountRuntime
