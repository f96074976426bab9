import AgentRemote.Runtimes.Records

/-!
# Records of sync sessions

The sync sessions of workspaces and the tasks by which nodes prepare a workspace for them.
-/

namespace AgentRemote.SyncSessions
open Library PortForwards Runtimes

structure Workspace where
  id : Uuid
  userId : Uuid
  deviceId : Uuid
  localStartPath : Text
  remotePath : Option Text
  gitSyncPolicy : JsonObject

inductive ConflictStatus where
  | none
  | conflicted
  deriving DecidableEq

/-- Sync sessions are listed in the order they were created in. -/
structure SyncSession where
  id : Uuid
  userId : Uuid
  workspaceId : Uuid
  nodeId : Option Uuid
  localPath : Text
  remotePath : Text
  status : SyncStatus
  conflictStatus : ConflictStatus
  syncMode : Text
  syncGit : Bool
  excludePatterns : List Text
  mutagenSessionId : Option Text
  deriving DecidableEq

/-- Nodes are listed in the order they were created in. -/
structure Node where
  id : Uuid
  status : NodeStatus
  sshHost : Option Text
  wireguardIp : Option Text
  sshUser : Option Text
  sshPort : Option ℕ
  weight : ℤ

/-- Keys are listed in the order they were created in. -/
structure SshKey where
  id : Uuid
  userDeviceId : Uuid
  publicKey : Text
  status : CredentialStatus

/-- `tasks` holds the tasks that prepare workspaces. -/
structure SyncDb where
  workspaces : List Workspace
  nodes : List Node
  sshKeys : List SshKey
  syncSessions : List SyncSession
  tasks : List NodeTask
  results : List NodeTaskResult
  nextId : Uuid
  clock : Instant

/-- A session that still counts for its workspace. -/
def SyncSession.current (s : SyncSession) : Bool := s.status ≠ .stopped

namespace SyncDb

variable (db : SyncDb)

def getWorkspace (id : Uuid) : Option Workspace := lookup Workspace.id db.workspaces id

def getNode (id : Uuid) : Option Node := lookup Node.id db.nodes id

def getSyncSession (id : Uuid) : Option SyncSession := lookup SyncSession.id db.syncSessions id

/-- The session waits for its preparation. -/
def starting (id : Uuid) : Bool := (db.getSyncSession id).any (·.status = .starting)

/-- `get_task_by_task_id`. -/
def getTaskByTaskId (taskId : Text) : Option NodeTask := lookup NodeTask.taskId db.tasks taskId

/-- `get_current_sync_session_for_workspace`. -/
def getCurrentSyncSession (workspaceId : Uuid) : Option SyncSession :=
  (db.syncSessions.filter fun s => s.workspaceId = workspaceId ∧ s.current).getLast?

/-- `list_active_ssh_keys_for_device`. -/
def listActiveSshKeys (deviceId : Uuid) : List SshKey :=
  db.sshKeys.filter fun k => k.userDeviceId = deviceId ∧ k.status = .active

/-- `list_connectable_nodes`. -/
def listConnectableNodes : List Node :=
  (db.nodes.filter fun n => n.status.available ∧ (n.sshHost.isSome ∨ n.wireguardIp.isSome))
    |>.insertionSort fun a b => b.weight ≤ a.weight

end SyncDb

end AgentRemote.SyncSessions
