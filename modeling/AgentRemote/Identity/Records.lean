import AgentRemote.PortForwards.System

/-!
# Records of devices and their credentials

What a device registration leaves behind: a device with its SSH keys, WireGuard peers, tokens
and attachment leases, next to the tables that port forwarding reads and writes. Names,
platforms and last-seen times decide nothing and are left out of the rows.
-/

namespace AgentRemote.Identity
open Library PortForwards

inductive TokenType where
  | user
  | device
  deriving DecidableEq

/-- An access token. The identifier stands for the raw token and its hash. -/
structure AuthToken where
  id : Uuid
  userId : Uuid
  userDeviceId : Option Uuid
  cliSessionId : Option Uuid
  tokenType : TokenType
  status : CredentialStatus
  expiresAt : Instant

/-- The address `10.77.0.host`. -/
structure WireGuardAddress where
  host : ℕ
  deriving DecidableEq

structure WireGuardPeer where
  id : Uuid
  userDeviceId : Uuid
  publicKey : Text
  version : ℕ
  ipAddress : WireGuardAddress
  status : CredentialStatus
  deriving DecidableEq

inductive LeaseStatus where
  | issued
  | cleanupPending
  | cleaned
  | expired
  | revoked
  | rejected

/-- `LIVE_LEASE_STATES`. -/
def LeaseStatus.live : LeaseStatus → Bool
  | issued | cleanupPending => true
  | _ => false

structure SessionAttachmentLease where
  id : Uuid
  sessionId : Uuid
  userId : Uuid
  nodeId : Uuid
  deviceId : Uuid
  sshKeyId : Uuid
  status : LeaseStatus
  expiresAt : Instant
  invalidationReason : Option Text

/-- What the fingerprint of a registration stands for. -/
structure RegistrationIntent where
  name : Text
  platform : Text
  cliVersion : Option Text
  sshPublicKey : Text
  wireguardPublicKey : Option Text
  existingDeviceId : Option Uuid
  deriving DecidableEq

structure DeviceRegistrationRequest where
  userId : Uuid
  requestId : Uuid
  intentFingerprint : RegistrationIntent
  deviceId : Uuid
  sshKeyId : Uuid
  wireguardPeerId : Option Uuid
  deviceToken : Uuid
  resultExpiresAt : Instant

structure IdentityDb where
  forwarding : ForwardDb
  wireguardPeers : List WireGuardPeer
  tokens : List AuthToken
  leases : List SessionAttachmentLease
  registrations : List DeviceRegistrationRequest

inductive IdentityFailure where
  | apiError (code message : String) (statusCode : ℕ) (peer : Option (Uuid × ℕ))
  | staleDataError
  | integrityError

def IdentityFailure.plain (code message : String) (statusCode : ℕ) : IdentityFailure :=
  .apiError code message statusCode none

namespace IdentityDb

variable (db : IdentityDb)

def clock : Instant := db.forwarding.clock

def nextId : Uuid := db.forwarding.nextId

def devices : List PortForwards.UserDevice := db.forwarding.world.devices

def sshKeys : List SshKey := db.forwarding.world.sshKeys

def getDevice (id : Uuid) : Option PortForwards.UserDevice :=
  lookup PortForwards.UserDevice.id db.devices id

def getUser (id : Uuid) : Option PortForwards.User :=
  lookup PortForwards.User.id db.forwarding.world.users id

/-- `list_ssh_keys_for_device`. -/
def sshKeysForDevice (id : Uuid) : List SshKey := db.sshKeys.filter (·.userDeviceId = id)

/-- `list_wireguard_peers_for_device`. -/
def peersForDevice (id : Uuid) : List WireGuardPeer :=
  db.wireguardPeers.filter (·.userDeviceId = id)

/-- `list_tokens_for_device`. -/
def tokensForDevice (id : Uuid) : List AuthToken := db.tokens.filter (·.userDeviceId = some id)

def setDevices (devices : List PortForwards.UserDevice) : IdentityDb :=
  { db with forwarding := { db.forwarding with
    world := { db.forwarding.world with devices := devices } } }

def setSshKeys (sshKeys : List SshKey) : IdentityDb :=
  { db with forwarding := { db.forwarding with
    world := { db.forwarding.world with sshKeys := sshKeys } } }

/-- Draws `n` identifiers, the first of which is `nextId`. -/
def draw (n : ℕ) : IdentityDb :=
  { db with forwarding := { db.forwarding with nextId := db.forwarding.nextId + n } }

def setForwards (forwards : List PortForward) : IdentityDb :=
  { db with forwarding := { db.forwarding with forwards := forwards } }

/-- The updates of a transaction find their rows. -/
def Finds (devices sshKeys peers tokens : List Uuid) : Prop :=
  (∀ id ∈ devices, ∃ d ∈ db.devices, d.id = id) ∧ (∀ id ∈ sshKeys, ∃ k ∈ db.sshKeys, k.id = id) ∧
    (∀ id ∈ peers, ∃ p ∈ db.wireguardPeers, p.id = id) ∧ ∀ id ∈ tokens, ∃ t ∈ db.tokens, t.id = id

instance (devices sshKeys peers tokens : List Uuid) :
    Decidable (db.Finds devices sshKeys peers tokens) := inferInstanceAs (Decidable (_ ∧ _))

/-- Revokes the SSH keys. -/
def revokeSshKeys (ids : List Uuid) : IdentityDb :=
  db.setSshKeys <| db.sshKeys.map fun k => if k.id ∈ ids then { k with status := .revoked } else k

/-- Revokes the WireGuard peers. -/
def revokePeers (ids : List Uuid) : IdentityDb :=
  { db with wireguardPeers := db.wireguardPeers.map fun p =>
      if p.id ∈ ids then { p with status := .revoked } else p }

/-- `_revoke_token` for each of the tokens. -/
def revokeTokens (ids : List Uuid) : IdentityDb :=
  { db with tokens := db.tokens.map fun t =>
      if t.id ∈ ids then { t with status := .revoked } else t }

end IdentityDb

end AgentRemote.Identity
