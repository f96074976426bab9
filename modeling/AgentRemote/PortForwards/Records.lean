import AgentRemote.Json
import AgentRemote.Library.Keyed
import AgentRemote.Library.Outcome
import AgentRemote.Values

/-!
# Records of port forwarding

The rows of the forwards, the one-time connection tokens of the token store, and the rows of
other services that an authorization reads.
-/

namespace AgentRemote.PortForwards
open Library

inductive UserRole where
  | admin
  | user
  deriving DecidableEq

inductive UserStatus where
  | active
  | disabled
  deriving DecidableEq

structure User where
  id : Uuid
  role : UserRole
  status : UserStatus

/-- The status of a device, of an SSH key, of a WireGuard peer and of a token. -/
inductive CredentialStatus where
  | active
  | revoked
  deriving DecidableEq

structure UserDevice where
  id : Uuid
  userId : Uuid
  status : CredentialStatus

structure SshKey where
  id : Uuid
  userDeviceId : Uuid
  fingerprint : Text
  status : CredentialStatus

inductive ToolSessionStatus where
  | starting
  | running
  | active
  | detached
  | interrupted
  | stopping
  | stopped
  | failed
  deriving DecidableEq

/-- `RUNNING_SESSION_STATUSES`. -/
def ToolSessionStatus.live : ToolSessionStatus → Bool
  | running | active => true
  | _ => false

structure ToolSession where
  id : Uuid
  userId : Uuid
  nodeId : Uuid
  toolAccountId : Uuid
  toolType : Text
  status : ToolSessionStatus
  tmuxSessionName : Option Text
  runtimeBackend : Text
  runtimeResourceId : Option Text

structure ToolAccount where
  id : Uuid
  userId : Uuid
  toolType : Text
  active : Bool

inductive NodeStatus where
  | healthy
  | degraded
  | maintenance
  | disabled
  | offline
  deriving DecidableEq

/-- `ACTIVE_NODE_STATUSES`. The table has no status `active`. -/
def NodeStatus.available : NodeStatus → Bool
  | healthy | degraded => true
  | _ => false

structure Node where
  id : Uuid
  status : NodeStatus
  wireguardIp : Option Text
  sshUser : Option Text
  sshPort : Option ℕ
  runtimeCapabilities : JsonObject
  runtimePolicy : JsonObject

inductive ForwardStatus where
  | pending
  | active
  | disconnected
  | stopped
  | expired
  | revoked
  | failed
  deriving DecidableEq

/-- Not one of `NON_TERMINAL_FORWARD_STATUSES`, which is one of `TERMINAL_FORWARD_STATUSES`. -/
def ForwardStatus.terminal : ForwardStatus → Bool
  | pending | active | disconnected => false
  | _ => true

/-- What a request digest stands for. -/
structure ForwardIntent where
  sessionId : Uuid
  remotePort : ℤ
  localPort : ℤ
  clientInstanceId : Text
  ttlSeconds : Option ℤ
  deriving DecidableEq

structure PortForward where
  id : Uuid
  userId : Uuid
  deviceId : Uuid
  sshKeyId : Option Uuid
  sessionId : Uuid
  nodeId : Uuid
  remotePort : ℤ
  requestedLocalPort : ℤ
  clientInstanceId : Text
  callerRequestId : Option Uuid
  callerIntentDigest : Option ForwardIntent
  status : ForwardStatus
  bytesUp : ℤ
  bytesDown : ℤ
  connectionCount : ℤ
  connectionGeneration : ℕ
  generationBytesUp : ℤ
  generationBytesDown : ℤ
  generationConnectionCount : ℤ
  lastConnectedAt : Option Instant
  leaseExpiresAt : Option Instant
  expiresAt : Instant
  stoppedAt : Option Instant
  stopReason : Option Text

/-- `PortForwardTokenClaims`, under the token whose hash is their key, and their end. -/
structure ConnectionToken where
  token : Uuid
  forwardId : Uuid
  deviceId : Uuid
  sshKeyId : Option Uuid
  expiresAt : Instant

/-- The rows of other services that forwarding reads. -/
structure ForwardWorld where
  users : List User
  devices : List UserDevice
  sshKeys : List SshKey
  sessions : List ToolSession
  toolAccounts : List ToolAccount
  nodes : List Node

namespace ForwardWorld

variable (world : ForwardWorld)

def getNode (id : Uuid) : Option Node := lookup Node.id world.nodes id

def getSession (id : Uuid) : Option ToolSession := lookup ToolSession.id world.sessions id

def getActiveUser (id : Uuid) : Option User :=
  world.users.find? fun u => u.id = id ∧ u.status = .active

def getActiveDevice (userId deviceId : Uuid) : Option UserDevice :=
  world.devices.find? fun d => d.id = deviceId ∧ d.userId = userId ∧ d.status = .active

def getActiveSshKey (deviceId sshKeyId : Uuid) : Option SshKey :=
  world.sshKeys.find? fun k =>
    k.id = sshKeyId ∧ k.userDeviceId = deviceId ∧ k.status = .active

/-- Keys are listed in the order they were created in. -/
def firstActiveSshKey (deviceId : Uuid) : Option SshKey :=
  world.sshKeys.find? fun k => k.userDeviceId = deviceId ∧ k.status = .active

def getActiveToolAccount (id : Uuid) : Option ToolAccount :=
  world.toolAccounts.find? fun a => a.id = id ∧ a.active = true

/-- The rows that the foreign keys of a forward name exist. -/
def Parents (f : PortForward) : Prop :=
  (∃ u ∈ world.users, u.id = f.userId) ∧ (∃ d ∈ world.devices, d.id = f.deviceId) ∧
    (∃ s ∈ world.sessions, s.id = f.sessionId) ∧ ∃ n ∈ world.nodes, n.id = f.nodeId

instance : DecidablePred world.Parents := fun _ => inferInstanceAs (Decidable (_ ∧ _))

end ForwardWorld

/-- The tables, the token store and the clock. `nextId` is the next identifier that `uuid4` or
`create_opaque_token` draws. -/
structure ForwardDb where
  world : ForwardWorld
  forwards : List PortForward
  connectionTokens : List ConnectionToken
  clock : Instant
  nextId : Uuid

/-- The `details` of an error. -/
inductive ForwardErrorDetails where
  | empty
  | settled (status : ForwardStatus) (forwardId : Uuid)
  | quota (scope : String) (maximum : ℤ)
  | ttl (maxTtlSeconds : ℤ)

inductive ForwardFailure where
  | apiError (code message : String) (statusCode : ℕ) (details : ForwardErrorDetails)
  | staleDataError
  | integrityError

def ForwardFailure.plain (code message : String) (statusCode : ℕ) : ForwardFailure :=
  .apiError code message statusCode .empty

end AgentRemote.PortForwards
