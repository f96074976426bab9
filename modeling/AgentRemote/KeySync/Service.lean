import AgentRemote.KeySync.Records
import AgentRemote.Runtimes.Guards
import AgentRemote.Library.History

/-!
# Synchronising keys

Each operation as one transaction. `seen i` is the state its `i`-th statement reads, `db` the one
it commits on. No operation locks the device it is about.
-/

namespace AgentRemote.KeySync
open Library PortForwards Runtimes

variable (names : KeyNames) (seen : ℕ → KeyDb) (db : KeyDb)

def apiError (code message : String) (statusCode : ℕ) : RuntimeFailure :=
  .apiError code message statusCode

/-! ### Devices -/

structure RegisterDevice where
  userId : Uuid
  existingDeviceId : Option Uuid
  sshPublicKey : Text
  fingerprint : Text

/-- The device of a registration. -/
def registeredDevice (r : RegisterDevice) : Except RuntimeFailure PortForwards.UserDevice :=
  match r.existingDeviceId with
  | none => .ok ⟨db.nextId, r.userId, .active⟩
  | some id =>
    match ((seen 0).getDevice id).filter (·.userId = r.userId) with
    | none => .error (apiError "COMMON_NOT_FOUND" "Device was not found." 404)
    | some device => do
      reject (device.status ≠ .active) <| apiError "DEVICE_REUSE_REQUIRES_ACTIVE"
        ("The existing device is not active. Remove the local login before " ++
          "registering a new device.") 409
      return device

/-- `register_device`, as far as keys go. -/
def registerDevice (r : RegisterDevice) : Except RuntimeFailure KeyDb := do
  let device ← registeredDevice seen db r
  let devices := if r.existingDeviceId.isSome then db.devices else db.devices ++ [device]
  let known := ((seen 1).sshKeysForDevice device.id).any fun k =>
    k.status = .active ∧ k.fingerprint = r.fingerprint
  let key : SshKey := ⟨db.nextId + 1, device.id, r.sshPublicKey, r.fingerprint, .active⟩
  return { db with
    devices := devices
    sshKeys := if known then db.sshKeys else db.sshKeys ++ [key]
    nextId := db.nextId + 2 }

/-- The empty-set tasks that `revoke_device` adds, one for each node it finds without. -/
def withdrawals (deviceId : Uuid) : List NodeTask :=
  ((seen 2).nodes.zipIdx.filter fun (node, i) =>
      taskByTaskId (seen (3 + i)).tasks (sshKeySyncTaskId names node.id deviceId []) = none).map
    fun (node, i) => keyTask names (db.nextId + i) node deviceId []

/-- `revoke_device`, as far as keys go. -/
def revokeDevice (actorId : Uuid) (admin : Bool) (deviceId : Uuid) :
    Except RuntimeFailure KeyDb :=
  match ((seen 0).getDevice deviceId).filter fun d => admin ∨ d.userId = actorId with
  | none => .error (apiError "COMMON_NOT_FOUND" "Device was not found." 404)
  | some device => do
    let keys := ((seen 1).sshKeysForDevice deviceId).filter (·.status = .active)
    let tasks := withdrawals names seen db deviceId
    reject (tasks.any fun t => (taskByTaskId db.tasks t.taskId).isSome) RuntimeFailure.integrityError
    return { db with
      devices := db.devices.map fun d =>
        if d.id = device.id ∧ device.status ≠ .revoked then { d with status := .revoked } else d
      sshKeys := db.sshKeys.map fun k =>
        if k.id ∈ keys.map SshKey.id then { k with status := .revoked } else k
      tasks := db.tasks ++ tasks
      nextId := db.nextId + (seen 2).nodes.length }

/-! ### Authorisations -/

/-- What an operation does with a task that is there for the keys it has read. -/
inductive Reuse where
  | requeue
  | keep
  | match_ (changed : RuntimeFailure)

/-- The task for the keys of a device, which an operation adds unless it has read one. -/
def ensureKeyTask (reuse : Reuse) (tasks : List NodeTask) (node : Node) (deviceId : Uuid)
    (keys : List SshKey) : Except RuntimeFailure KeyDb := do
  let task := keyTask names db.nextId node deviceId keys
  match taskByTaskId tasks task.taskId with
  | none =>
    reject (taskByTaskId db.tasks task.taskId ≠ none) RuntimeFailure.integrityError
    return { db with tasks := db.tasks ++ [task], nextId := db.nextId + 1 }
  | some existing =>
    match reuse with
    | .requeue =>
      return if existing.status ∈ [.failed, .cancelled, .expired] then
        { db with tasks := db.tasks.map (requeued existing task.payload) }
      else db
    | .keep => return db
    | .match_ changed =>
      reject (existing.nodeId ≠ node.id ∨ existing.taskType ≠ .syncSshKeys ∨
        sameJson existing.payload task.payload = false) changed
      return db

/-- `checks` is what the operation finds of the session, the workspace or the account it is for,
and `nodeId` the node of these. `deviceId` is the device of the token. -/
structure AttachRequest where
  userId : Uuid
  deviceId : Option Uuid
  nodeId : Uuid
  checks : Except RuntimeFailure Unit

/-- The device of a request, its node and its keys. -/
def attachContext (r : AttachRequest) (nodeCheck : Node → Except RuntimeFailure Unit) :
    Except RuntimeFailure (Uuid × Node × List SshKey) :=
  match r.deviceId with
  | none => .error (apiError "DEVICE_REQUIRED" "A registered device is required." 403)
  | some deviceId => do
    reject ((seen 0).activeDevice r.userId deviceId = none)
      (apiError "DEVICE_REVOKED" "Device is not active." 403)
    r.checks
    match (seen 1).getNode r.nodeId with
    | none => .error (apiError "COMMON_NOT_FOUND" "Node was not found." 404)
    | some node => do
      nodeCheck node
      let keys := (seen 2).listActiveSshKeys deviceId
      reject (keys = [])
        (apiError "SSH_KEY_MISSING" "Current device has no active SSH key." 409)
      return (deviceId, node, keys)

/-- The node has an address of one of the two kinds. -/
def reachable (node : Node) : Bool :=
  (node.wireguardIp.filter (· ≠ [])).isSome ∨ (node.sshHost.filter (· ≠ [])).isSome

/-- The node says that it supports a protocol in version 1. -/
def supportsFirst (node : Node) (capability : String) : Bool :=
  let value := (node.runtimeCapabilities.get capability.toList).bind JsonValue.object?
  value.bind (·.bool? "supported".toList) = some true ∧
    value.bind (·.int? "protocol_version".toList) = some 1

/-- `authorize_attach`. -/
def authorizeAttach (r : AttachRequest) : Except RuntimeFailure KeyDb := do
  let (deviceId, node, keys) ← attachContext seen r fun node => do
    reject (node.status ∈ [.disabled, .offline])
      (apiError "NODE_UNHEALTHY" "Node is not attachable." 403)
  reject ((node.wireguardIp.filter (· ≠ [])).or node.sshHost = none)
    (apiError "NODE_CONNECTION_NOT_CONFIGURED" "Node WireGuard or SSH host is not configured." 409)
  ensureKeyTask names db .requeue (seen 3).tasks node deviceId keys

/-- What the exact attachments share. -/
def exactAttach (capability : String) (unsupported changed : RuntimeFailure) (r : AttachRequest) :
    Except RuntimeFailure KeyDb := do
  let (deviceId, node, keys) ← attachContext seen r fun node => do
    reject (node.status.available = false)
      (apiError "NODE_UNAVAILABLE" "Node is not available." 409)
    reject (supportsFirst node capability = false) unsupported
    reject (reachable node = false)
      (apiError "NODE_CONNECTION_NOT_CONFIGURED" "Node SSH host is not configured." 409)
  ensureKeyTask names db (.match_ changed) (seen 3).tasks node deviceId keys

/-- The authorisation of an attachment to a binding session. -/
def bindingAttach (r : AttachRequest) : Except RuntimeFailure KeyDb :=
  exactAttach names seen db "binding_attach"
    (apiError "NODE_BINDING_ATTACH_UNSUPPORTED"
      "Upgrade the Node and installed SSH gateway for exact binding attachment." 409)
    (apiError "BINDING_AUTHORIZATION_CHANGED" "SSH authorization payload changed." 409) r

/-- The authorisation of an exact attachment to a session. -/
def sessionAttach (r : AttachRequest) : Except RuntimeFailure KeyDb :=
  exactAttach names seen db "session_attach"
    (apiError "NODE_SESSION_ATTACH_UNSUPPORTED" "" 409)
    (apiError "SESSION_AUTHORIZATION_CHANGED" "" 409) r

/-- The start of a native binding session. -/
def startBinding (r : AttachRequest) : Except RuntimeFailure KeyDb := do
  let (deviceId, node, keys) ← attachContext seen r fun _ => .ok ()
  ensureKeyTask names db .keep (seen 3).tasks node deviceId keys

/-! ### Nodes -/

/-- `poll_tasks`, and the tasks it hands out. -/
def pollTasks (leaseSeconds : ℕ) (nodeId : Uuid) (limit : ℕ) (held : List Uuid) :
    KeyDb × List NodeTask :=
  let now := (seen 0).clock
  let polled := listPollableTasks (seen 0).tasks db.tasks nodeId now limit held
  ({ db with tasks := leaseTasks db.tasks polled (now + seconds leaseSeconds) },
    polled.map (·.leasedUntil (now + seconds leaseSeconds)))

/-- `start_task`. -/
def startTask (nodeId : Uuid) (taskId : Text) : Except RuntimeFailure KeyDb := do
  let task ← requireTask (seen 0).tasks nodeId taskId
  reject task.status.terminal (apiError "COMMON_CONFLICT" "Task is already terminal." 409)
  return { db with tasks := db.tasks.map (statusWritten task .running) }

/-- `complete_task` and `fail_task`. -/
def reportTask (outcome : TaskOutcome) (nodeId : Uuid) (taskId : Text)
    (result error : Option JsonObject) : Except RuntimeFailure KeyDb := do
  let task ← requireTask (seen 0).tasks nodeId taskId
  return { db with
    tasks := db.tasks.map (statusWritten task outcome.status)
    results := recordResult (seen 1).results db.results task outcome result error (seen 1).clock }

/-! ### Transactions -/

inductive KeyTx where
  | registerDevice (request : RegisterDevice)
  | revokeDevice (actorId : Uuid) (admin : Bool) (deviceId : Uuid)
  | authorizeAttach (request : AttachRequest)
  | bindingAttach (request : AttachRequest)
  | sessionAttach (request : AttachRequest)
  | startBinding (request : AttachRequest)
  | poll (nodeId : Uuid) (limit : ℕ) (held : List Uuid)
  | start (nodeId : Uuid) (taskId : Text)
  | complete (nodeId : Uuid) (taskId : Text) (result : JsonObject)
  | fail (nodeId : Uuid) (taskId : Text) (error : JsonObject)
  | reportNode (node : Node)
  | tick (elapsed : ℕ)

inductive KeyAnswer where
  | failed (failure : RuntimeFailure)
  | handed (tasks : List NodeTask)
  | done

/-- The tasks that a poll hands out. -/
def KeyAnswer.tasks : KeyAnswer → List NodeTask
  | .handed tasks => tasks
  | _ => []

def KeyAnswer.isDone : KeyAnswer → Bool
  | .done => true
  | _ => false

/-- The state that an operation leaves. -/
def settled (db : KeyDb) (r : Except RuntimeFailure KeyDb) : KeyDb × KeyAnswer :=
  match r with
  | .ok after => (after, .done)
  | .error e => (db, .failed e)

/-- `reportNode` stands for what changes a node. -/
def KeyTx.commit (names : KeyNames) (leaseSeconds : ℕ) (t : KeyTx) (seen : ℕ → KeyDb)
    (db : KeyDb) : KeyDb × KeyAnswer :=
  match t with
  | .registerDevice r => settled db (KeySync.registerDevice seen db r)
  | .revokeDevice actorId admin id => settled db (KeySync.revokeDevice names seen db actorId admin id)
  | .authorizeAttach r => settled db (KeySync.authorizeAttach names seen db r)
  | .bindingAttach r => settled db (KeySync.bindingAttach names seen db r)
  | .sessionAttach r => settled db (KeySync.sessionAttach names seen db r)
  | .startBinding r => settled db (KeySync.startBinding names seen db r)
  | .poll nodeId limit held =>
    let (after, tasks) := pollTasks seen db leaseSeconds nodeId limit held
    (after, .handed tasks)
  | .start nodeId taskId => settled db (startTask seen db nodeId taskId)
  | .complete nodeId taskId result =>
    settled db (reportTask seen db .succeeded nodeId taskId (some result) none)
  | .fail nodeId taskId error =>
    settled db (reportTask seen db .failed nodeId taskId none (some error))
  | .reportNode node => ({ db with nodes := replace Node.id db.nodes node }, .done)
  | .tick elapsed => ({ db with clock := db.clock + elapsed }, .done)

/-- The rows there are before the first task. -/
structure KeyWorld where
  devices : List PortForwards.UserDevice
  sshKeys : List SshKey
  nodes : List Node
  clock : Instant
  nextId : Uuid
  nodeIds : (nodes.map Node.id).Nodup

def emptyKeyDb (world : KeyWorld) : KeyDb where
  devices := world.devices
  sshKeys := world.sshKeys
  nodes := world.nodes
  tasks := []
  results := []
  nextId := world.nextId
  clock := world.clock

/-- The transactions on the keys that nodes trust. -/
def keySyncing (names : KeyNames) (leaseSeconds : ℕ) (world : KeyWorld) :
    Transactions KeyDb KeyTx KeyAnswer :=
  ⟨emptyKeyDb world, KeyTx.commit names leaseSeconds⟩

end AgentRemote.KeySync
