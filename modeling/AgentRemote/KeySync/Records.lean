import AgentRemote.Runtimes.Queue

/-!
# Records of key synchronisation

The SSH keys of devices and the tasks by which nodes are told which keys of a device to trust.
A task is named by its node, its device and the keys it carries.
-/

namespace AgentRemote.KeySync
open Library PortForwards Runtimes

structure SshKey where
  id : Uuid
  userDeviceId : Uuid
  publicKey : Text
  fingerprint : Text
  status : CredentialStatus

structure Node where
  id : Uuid
  status : NodeStatus
  sshHost : Option Text
  wireguardIp : Option Text
  sshUser : Option Text
  runtimeCapabilities : JsonObject

/-- `tasks` holds the tasks that synchronise keys. Keys are listed in the order they were created
in. -/
structure KeyDb where
  devices : List PortForwards.UserDevice
  sshKeys : List SshKey
  nodes : List Node
  tasks : List NodeTask
  results : List NodeTaskResult
  nextId : Uuid
  clock : Instant

namespace KeyDb

variable (db : KeyDb)

def getDevice (id : Uuid) : Option PortForwards.UserDevice :=
  lookup PortForwards.UserDevice.id db.devices id

/-- `get_active_device`. -/
def activeDevice (userId deviceId : Uuid) : Option PortForwards.UserDevice :=
  (db.getDevice deviceId).filter fun d => d.userId = userId ∧ d.status = .active

def getNode (id : Uuid) : Option Node := lookup Node.id db.nodes id

def sshKeysForDevice (deviceId : Uuid) : List SshKey :=
  db.sshKeys.filter (·.userDeviceId = deviceId)

/-- `list_active_ssh_keys_for_device`. -/
def listActiveSshKeys (deviceId : Uuid) : List SshKey :=
  (db.sshKeysForDevice deviceId).filter (·.status = .active)

end KeyDb

/-! ### Tasks -/

/-- How tasks are named. `revision` is the start of a hexadecimal SHA-256. No other input than the
empty one is known to have the digest of the empty one. -/
structure KeyNames where
  uuid : UuidText
  plain : ∀ id, ':' ∉ uuid.str id
  revision : Text → Text
  revision_nil : ∀ s, revision s = revision [] → s = []

variable (names : KeyNames)

/-- What `ssh_key_sync_task_id` digests. -/
def keyRevision (keys : List SshKey) : Text :=
  (keys.insertionSort fun a b => names.uuid.str a.id ≤ names.uuid.str b.id).flatMap fun k =>
    names.uuid.str k.id ++ '\x00' :: k.publicKey ++ ['\x00']

/-- A task name from its parts. -/
def syncTaskName (nodeId deviceId : Uuid) (digested : Text) : Text :=
  "sync_ssh_keys:v4:".toList ++ names.uuid.str nodeId ++ ':' :: (names.uuid.str deviceId ++
    ':' :: names.revision digested)

/-- `ssh_key_sync_task_id`. -/
def sshKeySyncTaskId (nodeId deviceId : Uuid) (keys : List SshKey) : Text :=
  syncTaskName names nodeId deviceId (keyRevision names keys)

/-- A key as a node is told to trust it. -/
def trustedKey (deviceId : Uuid) (k : SshKey) : JsonValue :=
  .object [("id".toList, .string (names.uuid.str k.id)), ("public_key".toList, .string k.publicKey),
    ("forced_command".toList, .string ("agent-remote-attach --device ".toList ++
      names.uuid.str deviceId ++ " --ssh-key ".toList ++ names.uuid.str k.id))]

/-- `ssh_key_sync_payload`. -/
def sshKeySyncPayload (deviceId : Uuid) (sshUser : Text) (keys : List SshKey) : JsonObject :=
  [("device_id".toList, .string (names.uuid.str deviceId)), ("ssh_user".toList, .string sshUser),
    ("authorized_keys_path".toList, .null),
    ("ssh_keys".toList, .array (keys.map (trustedKey names deviceId)))]

/-- The keys that a task carries. -/
def carriedKeys (task : NodeTask) : List JsonValue :=
  ((task.payload.get "ssh_keys".toList).bind JsonValue.array?).getD []

/-- The device whose keys a task carries. -/
def taskDevice (task : NodeTask) : Option Uuid :=
  (task.payload.text? "device_id".toList).bind names.uuid.parse

/-- A task that synchronises keys, as it is added. -/
def keyTask (id : Uuid) (node : Node) (deviceId : Uuid) (keys : List SshKey) : NodeTask where
  id := id
  taskId := sshKeySyncTaskId names node.id deviceId keys
  nodeId := node.id
  taskType := .syncSshKeys
  status := .pending
  payload := sshKeySyncPayload names deviceId
    ((node.sshUser.filter (· ≠ [])).getD "agent-remote".toList) keys
  leaseUntil := none
  retryCount := 0

end AgentRemote.KeySync
