import AgentRemote.SyncSessions.Records
import AgentRemote.Runtimes.Queue
import AgentRemote.Library.History

/-!
# Sync sessions

Each operation as one transaction. `seen i` is the state its `i`-th statement reads, `db` the one
it commits on. Rows that an operation locks before it reads them come from `db`.
-/

namespace AgentRemote.SyncSessions
open Library PortForwards Runtimes

/-- The failure of an `ApiError`. -/
def apiError (code message : String) (statusCode : ℕ) : RuntimeFailure :=
  .apiError code message statusCode

/-- A truthy text. -/
def nonempty (text : Option Text) : Option Text := text.filter (· ≠ [])

/-! ### Preparation tasks -/

section

variable (uuid : UuidText)

def prepareTaskId (syncSessionId : Uuid) : Text :=
  "prepare_workspace:".toList ++ uuid.str syncSessionId

/-- The key of a device as a node is told to trust it. -/
def sshKeyPayload (workspace : Workspace) (key : SshKey) : JsonValue :=
  .object [("id".toList, .string (uuid.str key.id)), ("public_key".toList, .string key.publicKey),
    ("forced_command".toList, .string ("agent-remote-attach --device ".toList ++
      uuid.str workspace.deviceId ++ " --ssh-key ".toList ++ uuid.str key.id))]

/-- The payload of `_ensure_prepare_workspace_task`. -/
def preparePayload (workspace : Workspace) (sync : SyncSession) (keys : List SshKey) :
    JsonObject :=
  [("user_id".toList, .string (uuid.str workspace.userId)),
    ("workspace_id".toList, .string (uuid.str workspace.id)),
    ("sync_session_id".toList, .string (uuid.str sync.id)),
    ("remote_path".toList, .string sync.remotePath),
    ("sync_git".toList, .bool sync.syncGit),
    ("exclude".toList, .array (sync.excludePatterns.map .string)),
    ("git_sync_policy".toList, .object workspace.gitSyncPolicy),
    ("device_id".toList, .string (uuid.str workspace.deviceId)),
    ("ssh_keys".toList, .array (keys.map (sshKeyPayload uuid workspace)))]

/-- What a preparation task names in its payload. -/
structure PrepareTarget where
  syncId : Uuid
  workspaceId : Uuid
  userId : Uuid
  deviceId : Uuid
  remotePath : Text

/-- The checks of `publish_sync_preparation` before its update. -/
def prepareTarget (task : NodeTask) : Option PrepareTarget := do
  guard (task.taskType = .prepareWorkspace)
  let uuidAt (name : String) := (task.payload.text? name.toList).bind uuid.parse
  let syncId ← uuidAt "sync_session_id"
  let workspaceId ← uuidAt "workspace_id"
  let userId ← uuidAt "user_id"
  let deviceId ← uuidAt "device_id"
  let remotePath ← nonempty (task.payload.text? "remote_path".toList)
  guard (task.taskId = prepareTaskId uuid syncId)
  return ⟨syncId, workspaceId, userId, deviceId, remotePath⟩

/-- The row condition of `publish_sync_preparation`, with the workspaces its statement sees. -/
def awaits (view : SyncDb) (nodeId : Uuid) (target : PrepareTarget) (s : SyncSession) : Bool :=
  s.id = target.syncId ∧ s.status = .starting ∧ s.workspaceId = target.workspaceId ∧
    s.userId = target.userId ∧ s.nodeId = some nodeId ∧ s.remotePath = target.remotePath ∧
    view.workspaces.any fun w => w.id = target.workspaceId ∧ w.userId = target.userId ∧
      w.deviceId = target.deviceId ∧ w.remotePath = some target.remotePath

/-- `publish_sync_preparation`. The update locks the row it finds in `view` and tests it again. -/
def publishSyncPreparation (view db : SyncDb) (task : NodeTask) (status : SyncStatus) : SyncDb :=
  match prepareTarget uuid task with
  | none => db
  | some target =>
    let hit := awaits view task.nodeId target
    { db with syncSessions := db.syncSessions.map fun s =>
        if (view.getSyncSession s.id).any hit ∧ hit s then { s with status := status } else s }

/-- A task that was read as `copy` is queued again. -/
def requeue (db : SyncDb) (copy : NodeTask) (payload : JsonObject) : SyncDb :=
  { db with tasks := db.tasks.map (requeued copy payload) }

/-- The task that `_ensure_prepare_workspace_task` adds. -/
def prepareTask (db : SyncDb) (node : Node) (sync : SyncSession) (payload : JsonObject) :
    NodeTask where
  id := db.nextId
  taskId := prepareTaskId uuid sync.id
  nodeId := node.id
  taskType := .prepareWorkspace
  status := .pending
  payload := payload
  leaseUntil := none
  retryCount := 0

def addTask (db : SyncDb) (task : NodeTask) : SyncDb :=
  { db with tasks := db.tasks ++ [task], nextId := db.nextId + 1 }

/-- `_ensure_prepare_workspace_task`. `task` and `keys` are the states in which it reads the task
and the keys, `view` the one its update sees. -/
def ensurePrepareWorkspaceTask (task keys view db : SyncDb) (node : Node) (workspace : Workspace)
    (sync : SyncSession) : Except RuntimeFailure SyncDb := do
  let active := keys.listActiveSshKeys workspace.deviceId
  reject (active = []) (apiError "SSH_KEY_MISSING" "Workspace device has no active SSH key." 409)
  let payload := preparePayload uuid workspace sync active
  match task.getTaskByTaskId (prepareTaskId uuid sync.id) with
  | some existing =>
    match existing.status with
    | .succeeded => return publishSyncPreparation uuid view db existing .active
    | .failed | .cancelled | .expired => return requeue db existing payload
    | .pending | .leased | .running => return db
  | none =>
    reject (db.getTaskByTaskId (prepareTaskId uuid sync.id) ≠ none) RuntimeFailure.integrityError
    return addTask db (prepareTask uuid db node sync payload)

end

/-! ### Sync sessions -/

section

variable (uuid : UuidText) (seen : ℕ → SyncDb) (db : SyncDb)

def defaultGitExcludes : List Text :=
  [".git/**/*.lock".toList, ".git/hooks".toList, ".git/index".toList, ".git/worktrees".toList,
    "node_modules".toList, "target".toList, "dist".toList, ".venv".toList, "__pycache__".toList,
    ".mypy_cache".toList, ".pytest_cache".toList, ".ruff_cache".toList, ".tox".toList,
    ".nox".toList, ".coverage".toList, ".coverage.*".toList, "htmlcov".toList]

/-- `_managed_sync_excludes`. -/
def managedSyncExcludes (exclude : List Text) : List Text :=
  (exclude ++ defaultGitExcludes).reverse.dedup.reverse

/-- `_remote_workspace_path`. -/
def remoteWorkspacePath (userId workspaceId : Uuid) : Text :=
  "/var/lib/agent-remote/users/".toList ++ uuid.str userId ++ "/workspaces/".toList ++
    uuid.str workspaceId ++ "/files".toList

def mutagenSessionName (syncSessionId : Uuid) : Text :=
  "agent-remote-".toList ++ uuid.str syncSessionId

def notFound (what : String) : RuntimeFailure :=
  apiError "COMMON_NOT_FOUND" (what ++ " was not found.") 404

/-- `_require_workspace`. -/
def requireWorkspace (view : SyncDb) (userId workspaceId : Uuid) :
    Except RuntimeFailure Workspace :=
  match (view.getWorkspace workspaceId).filter (·.userId = userId) with
  | none => .error (notFound "Workspace")
  | some workspace => .ok workspace

/-- `_require_sync_session`. -/
def requireSyncSession (view : SyncDb) (userId syncSessionId : Uuid) :
    Except RuntimeFailure SyncSession :=
  match (view.getSyncSession syncSessionId).filter (·.userId = userId) with
  | none => .error (notFound "Sync session")
  | some sync => .ok sync

/-- `_select_node`. -/
def selectNode (view : SyncDb) (nodeId : Option Uuid) : Except RuntimeFailure Node :=
  match nodeId with
  | some id =>
    match view.getNode id with
    | none => .error (notFound "Node")
    | some node => do
      reject (node.status.available = false)
        (apiError "NODE_UNHEALTHY" "Node is not available for workspace sync." 409)
      return node
  | none =>
    match view.listConnectableNodes with
    | [] => .error (apiError "NODE_UNHEALTHY" "No node is available for workspace sync." 409)
    | node :: _ => .ok node

structure CreateSyncRequest where
  workspaceId : Uuid
  nodeId : Option Uuid
  localPath : Option Text
  syncMode : Text
  syncGit : Bool
  exclude : List Text

/-- The session that `create_sync_session` adds. -/
def createdSyncSession (userId : Uuid) (r : CreateSyncRequest) (workspace : Workspace)
    (node : Node) (remotePath : Text) : SyncSession where
  id := db.nextId
  userId := userId
  workspaceId := workspace.id
  nodeId := some node.id
  localPath := (nonempty r.localPath).getD workspace.localStartPath
  remotePath := remotePath
  status := .starting
  conflictStatus := .none
  syncMode := "two_way".toList
  syncGit := r.syncGit
  excludePatterns := managedSyncExcludes r.exclude
  mutagenSessionId := some (mutagenSessionName uuid db.nextId)

/-- The state once a session is added and the workspace has a path. -/
def insertSyncSession (db : SyncDb) (workspace : Workspace) (sync : SyncSession) : SyncDb :=
  { db with
    workspaces := db.workspaces.map fun w =>
      if w.id = workspace.id ∧ workspace.remotePath = none then
        { w with remotePath := some sync.remotePath }
      else w
    syncSessions := db.syncSessions ++ [sync]
    nextId := db.nextId + 1 }

/-- `create_sync_session`. -/
def createSyncSession (userId : Uuid) (r : CreateSyncRequest) : Except RuntimeFailure SyncDb := do
  reject (r.syncMode ≠ "two_way".toList)
    (apiError "COMMON_VALIDATION_ERROR" "Only two_way sync mode is supported." 422)
  let workspace ← requireWorkspace (seen 0) userId r.workspaceId
  match (seen 1).getCurrentSyncSession workspace.id with
  | some _ => return db
  | none =>
    let node ← selectNode (seen 2) r.nodeId
    let remotePath := workspace.remotePath.getD (remoteWorkspacePath uuid userId workspace.id)
    let sync := createdSyncSession uuid db userId r workspace node remotePath
    ensurePrepareWorkspaceTask uuid (seen 3) (seen 4) (insertSyncSession (seen 5) workspace sync)
      (insertSyncSession db workspace sync) node workspace sync

/-- `delete_sync_session`. -/
def deleteSyncSession (userId syncSessionId : Uuid) : Except RuntimeFailure SyncDb := do
  let sync ← requireSyncSession (seen 0) userId syncSessionId
  reject (sync.status ∉ [.failed, .paused])
    (apiError "SYNC_SESSION_DELETE_REQUIRES_INACTIVE"
      "Pause the sync session before deleting it from the web console." 409)
  return { db with syncSessions := db.syncSessions.filter (·.id ≠ syncSessionId) }

/-- `sync_remote_endpoint`. -/
def syncRemoteEndpoint (node : Option Node) (sync : SyncSession) : Option Text := do
  let node ← node
  let host ← (nonempty node.sshHost).or (nonempty node.wireguardIp)
  let user := (nonempty node.sshUser).getD "agent-remote".toList
  let port := (node.sshPort.filter (· ≠ 0)).getD 22
  return user ++ '@' :: host ++ ':' :: (toString port).toList ++ ':' :: sync.remotePath

structure SyncSessionExpectedTarget where
  id : Uuid
  workspaceId : Uuid
  nodeId : Option Uuid
  localPath : Text
  remotePath : Text
  mutagenSessionId : Option Text
  remoteEndpoint : Option Text
  syncMode : Text
  syncGit : Bool
  exclude : List Text
  deriving DecidableEq

/-- The target a user confirms. -/
def expectedTarget (node : Option Node) (sync : SyncSession) : SyncSessionExpectedTarget where
  id := sync.id
  workspaceId := sync.workspaceId
  nodeId := sync.nodeId
  localPath := sync.localPath
  remotePath := sync.remotePath
  mutagenSessionId := sync.mutagenSessionId
  remoteEndpoint := syncRemoteEndpoint node sync
  syncMode := sync.syncMode
  syncGit := sync.syncGit
  exclude := sync.excludePatterns

/-- `lock_sync_target`. -/
def lockSyncTarget (userId syncSessionId : Uuid) (expected : Option SyncSessionExpectedTarget) :
    Except RuntimeFailure (SyncSession × Option Node) := do
  let sync ← requireSyncSession db userId syncSessionId
  let node := sync.nodeId.bind db.getNode
  reject (expected.any (· ≠ expectedTarget node sync))
    (apiError "SYNC_TARGET_CHANGED" "Sync target changed; review it again." 409)
  return (sync, node)

structure SyncActionRequest where
  userId : Uuid
  syncSessionId : Uuid
  expected : Option SyncSessionExpectedTarget

def setSyncSession (sync : SyncSession) : SyncDb :=
  { db with syncSessions := replace SyncSession.id db.syncSessions sync }

/-- `pause_sync_session`. -/
def pauseSyncSession (r : SyncActionRequest) : Except RuntimeFailure SyncDb := do
  let (sync, _) ← lockSyncTarget db r.userId r.syncSessionId r.expected
  return setSyncSession db { sync with status := .paused }

/-- `resolve_sync_session`. -/
def resolveSyncSession (r : SyncActionRequest) : Except RuntimeFailure SyncDb := do
  let (sync, _) ← lockSyncTarget db r.userId r.syncSessionId r.expected
  return setSyncSession db { sync with
    status := if sync.status = .healthy then .active else sync.status
    conflictStatus := .none }

/-- A state read while the session is locked: the session is already as at the commit. -/
def lockedRead (syncSessionId : Uuid) (i : ℕ) : SyncDb :=
  if (seen i).getSyncSession syncSessionId = db.getSyncSession syncSessionId then seen i else db

/-- The session that `resume_sync_session` and `reset_sync_session` leave to its task. -/
def SyncSession.restarted (sync : SyncSession) (conflictStatus : Option ConflictStatus) :
    SyncSession :=
  { sync with
    status := .starting
    conflictStatus := conflictStatus.getD sync.conflictStatus }

/-- What `resume_sync_session` and `reset_sync_session` share. `conflictStatus` is the conflict
status that the operation sets. -/
def restartSyncSession (r : SyncActionRequest) (conflictStatus : Option ConflictStatus) :
    Except RuntimeFailure SyncDb := do
  let (sync, node) ← lockSyncTarget db r.userId r.syncSessionId r.expected
  let view := lockedRead seen db r.syncSessionId
  let sync := sync.restarted conflictStatus
  let workspace ← requireWorkspace (view 0) r.userId sync.workspaceId
  let db := setSyncSession db sync
  match node with
  | none => return db
  | some node =>
    ensurePrepareWorkspaceTask uuid (view 1) (view 2) (setSyncSession (view 3) sync) db node
      workspace sync

/-- `resume_sync_session`. -/
def resumeSyncSession (r : SyncActionRequest) : Except RuntimeFailure SyncDb :=
  restartSyncSession uuid seen db r none

/-- `reset_sync_session`. -/
def resetSyncSession (r : SyncActionRequest) : Except RuntimeFailure SyncDb :=
  restartSyncSession uuid seen db r (some .none)

end

/-! ### Nodes -/

section

variable (uuid : UuidText) (seen : ℕ → SyncDb) (db : SyncDb)

/-- `poll_tasks`, with the lease of `node_task_lease_seconds`. -/
def pollTasks (leaseSeconds : ℕ) (nodeId : Uuid) (limit : ℕ) (held : List Uuid) : SyncDb :=
  let now := (seen 0).clock
  let polled := listPollableTasks (seen 0).tasks db.tasks nodeId now limit held
  { db with tasks := leaseTasks db.tasks polled (now + seconds leaseSeconds) }

/-- `_require_node_task`. -/
def requireNodeTask (nodeId : Uuid) (taskId : Text) : Except RuntimeFailure NodeTask :=
  requireTask (seen 0).tasks nodeId taskId

/-- Writes the status of a task that was read as `copy`. -/
def setTaskStatus (db : SyncDb) (copy : NodeTask) (status : TaskStatus) : SyncDb :=
  { db with tasks := db.tasks.map (statusWritten copy status) }

/-- `start_task`. -/
def startTask (nodeId : Uuid) (taskId : Text) : Except RuntimeFailure SyncDb := do
  let task ← requireNodeTask seen nodeId taskId
  reject task.status.terminal (apiError "COMMON_CONFLICT" "Task is already terminal." 409)
  return setTaskStatus db task .running

/-- The receipt of a report, unless there is one. -/
def addTaskResult (db : SyncDb) (task : NodeTask) (outcome : TaskOutcome)
    (result error : Option JsonObject) : SyncDb :=
  { db with results :=
      recordResult (seen 1).results db.results task outcome result error (seen 1).clock }

/-- `result.get("status") == "prepared"`. -/
def reportsPrepared (result : JsonObject) : Bool :=
  result.text? "status".toList = some "prepared".toList

/-- `complete_task`. -/
def completeTask (nodeId : Uuid) (taskId : Text) (result : JsonObject) :
    Except RuntimeFailure SyncDb := do
  let task ← requireNodeTask seen nodeId taskId
  let db := setTaskStatus (addTaskResult seen db task .succeeded (some result) none) task .succeeded
  return if reportsPrepared result then publishSyncPreparation uuid (seen 2) db task .active else db

/-- `fail_task`. -/
def failTask (nodeId : Uuid) (taskId : Text) (error : JsonObject) :
    Except RuntimeFailure SyncDb := do
  let task ← requireNodeTask seen nodeId taskId
  let db := setTaskStatus (addTaskResult seen db task .failed none (some error)) task .failed
  return publishSyncPreparation uuid (seen 2) db task .failed

end

/-! ### Transactions -/

inductive SyncTx where
  | create (userId : Uuid) (request : CreateSyncRequest)
  | pause (request : SyncActionRequest)
  | resume (request : SyncActionRequest)
  | reset (request : SyncActionRequest)
  | resolve (request : SyncActionRequest)
  | delete (userId syncSessionId : Uuid)
  | poll (nodeId : Uuid) (limit : ℕ) (held : List Uuid)
  | start (nodeId : Uuid) (taskId : Text)
  | complete (nodeId : Uuid) (taskId : Text) (result : JsonObject)
  | fail (nodeId : Uuid) (taskId : Text) (error : JsonObject)
  | reportNode (node : Node)
  | replaceKeys (sshKeys : List SshKey)
  | tick (elapsed : ℕ)

/-- The state that an operation leaves, and whether it took effect. -/
def settled (db : SyncDb) (r : Except RuntimeFailure SyncDb) :
    SyncDb × Except RuntimeFailure Unit :=
  match r with
  | .ok after => (after, .ok ())
  | .error e => (db, .error e)

/-- `reportNode` stands for what changes a node, `replaceKeys` for what changes keys. -/
def SyncTx.commit (uuid : UuidText) (leaseSeconds : ℕ) (t : SyncTx) (seen : ℕ → SyncDb)
    (db : SyncDb) : SyncDb × Except RuntimeFailure Unit :=
  match t with
  | .create userId r => settled db (createSyncSession uuid seen db userId r)
  | .pause r => settled db (pauseSyncSession db r)
  | .resume r => settled db (resumeSyncSession uuid seen db r)
  | .reset r => settled db (resetSyncSession uuid seen db r)
  | .resolve r => settled db (resolveSyncSession db r)
  | .delete userId id => settled db (deleteSyncSession seen db userId id)
  | .poll nodeId limit held => (pollTasks seen db leaseSeconds nodeId limit held, .ok ())
  | .start nodeId taskId => settled db (startTask seen db nodeId taskId)
  | .complete nodeId taskId result => settled db (completeTask uuid seen db nodeId taskId result)
  | .fail nodeId taskId error => settled db (failTask uuid seen db nodeId taskId error)
  | .reportNode node => ({ db with nodes := replace Node.id db.nodes node }, .ok ())
  | .replaceKeys sshKeys => ({ db with sshKeys := sshKeys }, .ok ())
  | .tick elapsed => ({ db with clock := db.clock + elapsed }, .ok ())

/-- The rows there are before the first sync session. A workspace has no remote path but the one
its identifier gives it. -/
structure SyncWorld (uuid : UuidText) where
  workspaces : List Workspace
  nodes : List Node
  sshKeys : List SshKey
  clock : Instant
  workspaceIds : (workspaces.map Workspace.id).Nodup
  nodeIds : (nodes.map Node.id).Nodup
  paths : ∀ w ∈ workspaces, w.remotePath = none ∨
    w.remotePath = some (remoteWorkspacePath uuid w.userId w.id)

def emptySyncDb {uuid : UuidText} (world : SyncWorld uuid) : SyncDb where
  workspaces := world.workspaces
  nodes := world.nodes
  sshKeys := world.sshKeys
  syncSessions := []
  tasks := []
  results := []
  nextId := 1
  clock := world.clock

/-- The transactions on the sync sessions of a server. -/
def syncing {uuid : UuidText} (leaseSeconds : ℕ) (world : SyncWorld uuid) :
    Transactions SyncDb SyncTx (Except RuntimeFailure Unit) :=
  ⟨emptySyncDb world, SyncTx.commit uuid leaseSeconds⟩

end AgentRemote.SyncSessions
