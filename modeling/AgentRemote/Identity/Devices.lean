import AgentRemote.Identity.Records

/-!
# Registering and revoking devices

The operations on a device and its credentials, each as one transaction that changes nothing
when it fails. `seen i` is the state its `i`-th statement reads, `db` the one it commits on. What
a transaction locks it reads in `db`: the token of `refreshToken`, the peer that
`enrollWireguardPeer` updates, the session of `admitAttachment`. The device is locked by none.
-/

namespace AgentRemote.Identity
open Library PortForwards

structure IdentitySettings where
  deviceTokenTtlSeconds : ℕ
  accessTokenTtlSeconds : ℕ
  /-- `_validate_wireguard_public_key`. -/
  validWireguardKey : Text → Bool

variable (settings : IdentitySettings) (seen : ℕ → IdentityDb) (db : IdentityDb)

def deviceNotFound : IdentityFailure :=
  .plain "COMMON_NOT_FOUND" "Device was not found." 404

/-- `_next_wireguard_ip`, of the number of peers that a statement counts. -/
def nextWireguardIp (count : ℕ) : WireGuardAddress := ⟨2 + count % 200⟩

/-- `_require_visible_device`. -/
def requireVisibleDevice (at_ : IdentityDb) (actor : PortForwards.User) (id : Uuid) :
    Except IdentityFailure PortForwards.UserDevice :=
  match at_.getDevice id with
  | none => .error deviceNotFound
  | some device => do
    reject (actor.role ≠ .admin ∧ device.userId ≠ actor.id) deviceNotFound
    .ok device

/-- `_issue_token`. -/
def issuedToken (id userId : Uuid) (deviceId : Option Uuid) (tokenType : TokenType)
    (now : Instant) : AuthToken where
  id := id
  userId := userId
  userDeviceId := deviceId
  cliSessionId := none
  tokenType := tokenType
  status := .active
  expiresAt := now + seconds (if tokenType = .device then settings.deviceTokenTtlSeconds
    else settings.accessTokenTtlSeconds)

/-! ### Registration -/

structure RegisterDevice where
  userId : Uuid
  intent : RegistrationIntent
  requestId : Option Uuid

structure DeviceRegistrationResult where
  device : PortForwards.UserDevice
  sshKeyId : Uuid
  wireguardPeerId : Option Uuid
  token : AuthToken

def unknownResult (message : String) : IdentityFailure := .plain "UNKNOWN_RESULT" message 503

/-- `_recover_device_registration`, whose first statement is the `i`-th of its caller. -/
def recoverDeviceRegistration (i : ℕ) (userId : Uuid) (record : DeviceRegistrationRequest) :
    Except IdentityFailure DeviceRegistrationResult := do
  reject (record.resultExpiresAt ≤ (seen i).clock) <|
    .plain "DEVICE_REGISTRATION_RECOVERY_EXPIRED"
      "The device registration recovery window has expired." 410
  let lost := unknownResult "The device registration token is no longer recoverable."
  match lookup AuthToken.id (seen i).tokens record.deviceToken with
  | none => .error lost
  | some token => do
    reject (token.userId ≠ userId ∨ token.userDeviceId ≠ some record.deviceId ∨
      token.status ≠ .active ∨ token.expiresAt ≤ (seen i).clock) lost
    match (seen (i + 1)).getDevice record.deviceId with
    | none => .error (unknownResult "The registered device is no longer recoverable.")
    | some device => do
      reject (device.userId ≠ userId) <|
        unknownResult "The registered device is no longer recoverable."
      reject (record.sshKeyId ∉ ((seen (i + 2)).sshKeysForDevice device.id).map SshKey.id) <|
        unknownResult "The registered SSH key is no longer recoverable."
      let peers := ((seen (i + 3)).peersForDevice device.id).map WireGuardPeer.id
      reject (record.wireguardPeerId.any (· ∉ peers)) <|
        unknownResult "The registered WireGuard peer is no longer recoverable."
      .ok ⟨device, record.sshKeyId, record.wireguardPeerId, token⟩

def IdentityDb.getRegistration (userId : Uuid) (requestId : Option Uuid) :
    Option DeviceRegistrationRequest :=
  requestId.bind fun key =>
    db.registrations.find? fun r => r.userId = userId ∧ r.requestId = key

/-- The device that a registration makes or uses again. -/
def registeredDevice (r : RegisterDevice) : Except IdentityFailure PortForwards.UserDevice :=
  match r.intent.existingDeviceId with
  | none => .ok ⟨db.nextId, r.userId, .active⟩
  | some id =>
    match (seen 1).getDevice id with
    | none => .error deviceNotFound
    | some device => do
      reject (device.userId ≠ r.userId) deviceNotFound
      reject (device.status ≠ .active) <| .plain "DEVICE_REUSE_REQUIRES_ACTIVE"
        ("The existing device is not active. Remove the local login before " ++
          "registering a new device.") 409
      .ok device

/-- The key of a registration that the device already has. -/
def knownSshKey (r : RegisterDevice) (device : PortForwards.UserDevice) : Option SshKey :=
  ((seen 2).sshKeysForDevice device.id).find? fun k =>
    k.status = .active ∧ k.fingerprint = r.intent.sshPublicKey

/-- The peer that the device already has. -/
def knownPeer (device : PortForwards.UserDevice) : Option WireGuardPeer :=
  ((seen 3).peersForDevice device.id).find? (·.status = .active)

/-- An empty key counts as none. -/
def RegisterDevice.wireguardKey (r : RegisterDevice) : Option Text :=
  r.intent.wireguardPublicKey.filter (· ≠ [])

/-- The tokens that a registration revokes: those of a device used again. -/
def replacedTokens (r : RegisterDevice) (device : PortForwards.UserDevice) : List Uuid :=
  if r.intent.existingDeviceId.isSome then
    ((seen 5).tokensForDevice device.id).map AuthToken.id
  else []

def newPeer (id deviceId : Uuid) (publicKey : Text) (count : ℕ) : WireGuardPeer where
  id := id
  userDeviceId := deviceId
  publicKey := publicKey
  version := 1
  ipAddress := nextWireguardIp count
  status := .active

/-- Adds the device of a registration, unless it is used again. -/
def withDevice (r : RegisterDevice) (device : PortForwards.UserDevice) : IdentityDb :=
  if r.intent.existingDeviceId.isSome then db else db.setDevices (db.devices ++ [device])

def withSshKey (r : RegisterDevice) (device : PortForwards.UserDevice) (id : Uuid)
    (base : IdentityDb) : IdentityDb :=
  match knownSshKey seen r device with
  | some _ => base
  | none => base.setSshKeys (base.sshKeys ++ [⟨id, device.id, r.intent.sshPublicKey, .active⟩])

def withPeer (r : RegisterDevice) (device : PortForwards.UserDevice) (id : Uuid)
    (base : IdentityDb) : IdentityDb :=
  match r.wireguardKey with
  | none => base
  | some publicKey =>
    match knownPeer seen device with
    | some peer =>
      -- a key that the peer had when it was read is not written
      if peer.publicKey = publicKey then base
      else { base with wireguardPeers := base.wireguardPeers.map fun p =>
        if p.id = peer.id then { p with publicKey := publicKey } else p }
    | none => { base with wireguardPeers :=
        base.wireguardPeers ++ [newPeer id device.id publicKey (seen 4).wireguardPeers.length] }

/-- The new registration, for a device with `device.id`. -/
def registration (r : RegisterDevice) (device : PortForwards.UserDevice) (now : Instant) :
    DeviceRegistrationResult where
  device := device
  sshKeyId := ((knownSshKey seen r device).map SshKey.id).getD (db.nextId + 1)
  wireguardPeerId := match knownPeer seen device with
    | some peer => some peer.id
    | none => r.wireguardKey.map fun _ => db.nextId + 2
  token := issuedToken settings (db.nextId + 3) r.userId (some device.id) .device now

/-- The tables once the device is registered. -/
def registered (r : RegisterDevice) (device : PortForwards.UserDevice) : IdentityDb :=
  let result := registration settings seen db r device (seen 6).clock
  let base := (withPeer seen r device (db.nextId + 2)
    (withSshKey seen r device (db.nextId + 1) (withDevice db r device))).revokeTokens
      (replacedTokens seen r device)
  { base.draw 4 with
    tokens := base.tokens ++ [result.token]
    registrations := base.registrations ++ r.requestId.toList.map fun key =>
      ⟨r.userId, key, r.intent, device.id, result.sshKeyId, result.wireguardPeerId,
        result.token.id, result.token.expiresAt⟩ }

/-- `register_device`. -/
def registerDevice (r : RegisterDevice) :
    Except IdentityFailure (IdentityDb × DeviceRegistrationResult) :=
  match (seen 0).getRegistration r.userId r.requestId with
  | some previous => do
    reject (previous.intentFingerprint ≠ r.intent) <| .plain "DEVICE_REGISTRATION_KEY_REUSED"
      "The device registration key was already used for another intent." 409
    let result ← recoverDeviceRegistration seen 1 r.userId previous
    .ok (db, result)
  | none => do
    let device ← registeredDevice seen db r
    let peers := (knownPeer seen device).toList.map WireGuardPeer.id
    reject (¬db.Finds r.intent.existingDeviceId.toList [] peers (replacedTokens seen r device))
      .staleDataError
    reject (db.getUser r.userId = none) .integrityError
    reject ((db.getRegistration r.userId r.requestId).isSome) .integrityError
    .ok (registered settings seen db r device,
      registration settings seen db r device (seen 6).clock)

/-! ### Tokens -/

/-- `rotate_device_token`. -/
def rotateDeviceToken (actor : PortForwards.User) (id : Uuid) :
    Except IdentityFailure (IdentityDb × AuthToken) := do
  let device ← requireVisibleDevice (seen 0) actor id
  reject (device.status ≠ .active) <| .plain "DEVICE_REVOKED" "Device has been revoked." 403
  let tokens := ((seen 1).tokensForDevice device.id).map AuthToken.id
  reject ((seen 2).getUser device.userId = none) <|
    .plain "COMMON_NOT_FOUND" "User was not found." 404
  reject (¬db.Finds [] [] [] tokens) .staleDataError
  reject (db.getDevice device.id = none ∨ db.getUser device.userId = none) .integrityError
  let token := issuedToken settings db.nextId device.userId (some device.id) .device (seen 3).clock
  let base := db.revokeTokens tokens
  .ok ({ base.draw 1 with tokens := base.tokens ++ [token] }, token)

/-- `refresh_token`. -/
def refreshToken (id : Uuid) : Except IdentityFailure (IdentityDb × AuthToken) :=
  match (lookup AuthToken.id db.tokens id).filter (·.status = .active) with
  | none => .error (.plain "AUTH_TOKEN_REVOKED" "Token has been revoked." 401)
  | some token => do
    reject token.cliSessionId.isSome <|
      .plain "AUTH_CLI_REFRESH_REQUIRED" "Use the CLI session refresh credential." 401
    reject ((seen 0).getUser token.userId = none) <|
      .plain "COMMON_NOT_FOUND" "User was not found." 404
    let device := token.userDeviceId.bind (seen 1).getDevice
    reject (db.getUser token.userId = none ∨ ∃ d ∈ device, db.getDevice d.id = none)
      .integrityError
    let new := issuedToken settings db.nextId token.userId (device.map PortForwards.UserDevice.id)
      token.tokenType (seen 2).clock
    let base := db.revokeTokens [token.id]
    .ok ({ base.draw 1 with tokens := base.tokens ++ [new] }, new)

/-! ### WireGuard -/

structure EnrollPeer where
  userId : Uuid
  tokenDeviceId : Option Uuid
  publicKey : Text
  expectedPeerId : Option Uuid
  expectedPublicKey : Option Text
  expectedPeerVersion : Option ℕ

/-- `get_active_device_wireguard_peer`: a peer that the query finds and that is still active
once it is locked. -/
def lockedPeer (deviceId : Uuid) : Option WireGuardPeer :=
  ((seen 1).peersForDevice deviceId).findSome? fun found =>
    if found.status = .active then
      db.wireguardPeers.find? fun p => p.id = found.id ∧ p.userDeviceId = deviceId ∧
        p.status = .active
    else none

def peerChanged (message : String) (peer : Option WireGuardPeer) : IdentityFailure :=
  .apiError "WIREGUARD_PEER_CHANGED" message 409 (peer.map fun p => (p.id, p.version))

/-- The part of `enroll_wireguard_peer` that makes a new peer. -/
def enrollNew (r : EnrollPeer) (device : PortForwards.UserDevice) :
    Except IdentityFailure (IdentityDb × WireGuardPeer) := do
  reject (r.expectedPeerId.isSome ∨ r.expectedPublicKey.isSome ∨ r.expectedPeerVersion.isSome) <|
    peerChanged "The expected WireGuard peer does not exist." none
  reject (db.getDevice device.id = none) .integrityError
  let peer := newPeer db.nextId device.id r.publicKey (seen 2).wireguardPeers.length
  .ok ({ db.draw 1 with wireguardPeers := db.wireguardPeers ++ [peer] }, peer)

/-- The part of `enroll_wireguard_peer` that updates the locked peer. -/
def enrollAgain (r : EnrollPeer) (peer : WireGuardPeer) :
    Except IdentityFailure (IdentityDb × WireGuardPeer) := do
  reject (r.expectedPeerId ≠ some peer.id ∨ r.expectedPublicKey ≠ some peer.publicKey ∨
    r.expectedPeerVersion ≠ some peer.version) <|
    peerChanged "The WireGuard peer changed after it was read." (some peer)
  let version := if peer.publicKey = r.publicKey then peer.version else peer.version + 1
  let new := { peer with version := version, publicKey := r.publicKey }
  .ok ({ db with wireguardPeers := replace WireGuardPeer.id db.wireguardPeers new }, new)

/-- `enroll_wireguard_peer`. The peer is locked when the query finds one. -/
def enrollWireguardPeer (r : EnrollPeer) :
    Except IdentityFailure (IdentityDb × WireGuardPeer) := do
  let invalid := IdentityFailure.plain "COMMON_BAD_REQUEST" "WireGuard public key is invalid." 400
  reject (settings.validWireguardKey r.publicKey = false ∨
    ∃ key ∈ r.expectedPublicKey, settings.validWireguardKey key = false) invalid
  match r.tokenDeviceId with
  | none => .error (.plain "DEVICE_REQUIRED" "A registered device token is required." 403)
  | some deviceId =>
    match (seen 0).forwarding.world.getActiveDevice r.userId deviceId with
    | none => .error (.plain "DEVICE_REVOKED" "Device is not active." 403)
    | some device =>
      match lockedPeer seen db device.id with
      | none => enrollNew seen db r device
      | some peer => enrollAgain db r peer

/-! ### Revocation and deletion -/

/-- The attachment leases that `invalidate_for_device` locks. -/
def lockedLeases (id : Uuid) : List Uuid :=
  ((seen 1).leases.filter fun l => l.deviceId = id ∧ l.status.live = true).map
    SessionAttachmentLease.id

/-- The forwards that `revoke_port_forwards` locks. -/
def lockedForwards (id : Uuid) : List Uuid :=
  ((seen 5).forwarding.forwards.filter fun f =>
    f.deviceId = id ∧ f.status.terminal = false).map PortForward.id

def readSshKeys (id : Uuid) : List Uuid := ((seen 2).sshKeysForDevice id).map SshKey.id

def readPeers (id : Uuid) : List Uuid := ((seen 3).peersForDevice id).map WireGuardPeer.id

def readTokens (id : Uuid) : List Uuid := ((seen 4).tokensForDevice id).map AuthToken.id

/-- `invalidate_for_device`. -/
def invalidateForDevice (id : Uuid) (base : IdentityDb) : IdentityDb :=
  { base with leases := base.leases.map fun l =>
      if l.id ∈ lockedLeases seen id ∧ l.status.live = true then
        { l with status := .revoked, invalidationReason := some "device_revoked".toList }
      else l }

/-- `revoke_port_forwards` for a device. -/
def revokeForwardsOfDevice (id : Uuid) (base : IdentityDb) : IdentityDb :=
  base.setForwards <| base.forwarding.forwards.map fun f =>
    if f.id ∈ lockedForwards seen id ∧ f.status.terminal = false then
      f.ended .revoked "device_revoked" (seen 6).clock
    else f

/-- The tables once the device is revoked. -/
def deviceRevoked (id : Uuid) : IdentityDb :=
  let base := ((invalidateForDevice seen id db).revokeSshKeys (readSshKeys seen id)).revokePeers
    (readPeers seen id)
  let base := revokeForwardsOfDevice seen id (base.revokeTokens (readTokens seen id))
  base.setDevices <| base.devices.map fun d =>
    if d.id = id then { d with status := .revoked } else d

/-- `revoke_device`. Device control and the browser are revoked by their own services. -/
def revokeDevice (actor : PortForwards.User) (id : Uuid) :
    Except IdentityFailure (IdentityDb × PortForwards.UserDevice) := do
  let device ← requireVisibleDevice (seen 0) actor id
  let devices := if device.status = .active then [device.id] else []
  reject (¬db.Finds devices (readSshKeys seen id) (readPeers seen id) (readTokens seen id))
    .staleDataError
  .ok (deviceRevoked seen db id, { device with status := .revoked })

/-- `delete_device`. Workspaces and control history belong to other services. -/
def deleteDevice (actor : PortForwards.User) (id : Uuid) (hasWorkspaces hasHistory : Bool) :
    Except IdentityFailure (IdentityDb × Unit) := do
  let device ← requireVisibleDevice (seen 0) actor id
  reject (device.status ≠ .revoked) <| .plain "DEVICE_DELETE_REQUIRES_REVOKED"
    "Revoke the device before deleting it." 409
  reject hasWorkspaces <| .plain "DEVICE_DELETE_BLOCKED"
    "Delete the device workspaces before deleting the device." 409
  reject hasHistory <| .plain "DEVICE_DELETE_BINDING_HISTORY"
    "Device control history must expire before deleting this device." 409
  reject (db.getDevice id = none) .staleDataError
  let base := (db.setDevices (db.devices.filter (·.id ≠ id))).setSshKeys
    (db.sshKeys.filter (·.userDeviceId ≠ id))
  .ok ({ base.setForwards (db.forwarding.forwards.filter (·.deviceId ≠ id)) with
    wireguardPeers := db.wireguardPeers.filter (·.userDeviceId ≠ id)
    tokens := db.tokens.filter (·.userDeviceId ≠ some id) }, ())

/-! ### Attachments -/

structure AdmitAttachment where
  nodeId : Uuid
  payloadNodeId : Uuid
  sessionId : Uuid
  deviceId : Uuid
  sshKeyId : Uuid
  leaseId : Uuid

/-- `attachment_error`. -/
def attachmentError (code : String) (statusCode : ℕ) : IdentityFailure :=
  .plain code "Exact session attachment transfer is unavailable." statusCode

/-- The condition of `SessionAttachmentService._require_capability`. -/
def transfersAttachments (node : Node) : Bool :=
  match (node.runtimeCapabilities.get "session_attachment_transfer".toList).bind
    JsonValue.object? with
  | none => false
  | some capability => JsonObject.bool? capability "supported".toList = some true ∧
      JsonObject.int? capability "protocol_version".toList = some 1

/-- The session of an admission, which stays locked. -/
def attachableSession (r : AdmitAttachment) : Except IdentityFailure PortForwards.ToolSession :=
  match db.forwarding.world.getSession r.sessionId with
  | none => .error (attachmentError "COMMON_NOT_FOUND" 404)
  | some s => do
    reject (s.nodeId ≠ r.nodeId) <| attachmentError "ATTACHMENT_NODE_MISMATCH" 403
    reject (s.toolType ≠ "claude".toList) <| attachmentError "SESSION_TOOL_UNSUPPORTED" 409
    reject (s.status.live = false ∨ s.tmuxSessionName.all (· = [])) <|
      attachmentError "SESSION_NOT_ATTACHABLE" 409
    reject (s.runtimeBackend ≠ "native".toList ∧ s.runtimeBackend ≠ "docker_sandbox".toList) <|
      attachmentError "SESSION_RUNTIME_UNSUPPORTED" 409
    .ok s

/-- `LEASE_SECONDS`. -/
def leaseSeconds : ℕ := 300

/-- The operation of `SessionAttachmentService` that opens a lease. -/
def admitAttachment (r : AdmitAttachment) :
    Except IdentityFailure (IdentityDb × SessionAttachmentLease) := do
  reject (r.payloadNodeId = 0 ∨ r.sessionId = 0 ∨ r.deviceId = 0 ∨ r.sshKeyId = 0 ∨
    r.leaseId = 0) <| attachmentError "ATTACHMENT_INVALID_IDENTITY" 422
  reject (r.nodeId ≠ r.payloadNodeId) <| attachmentError "ATTACHMENT_NODE_MISMATCH" 403
  match (seen 0).forwarding.world.getNode r.nodeId with
  | none => .error (attachmentError "NODE_UNAVAILABLE" 409)
  | some node => do
    reject (transfersAttachments node = false) <|
      attachmentError "NODE_SESSION_ATTACHMENT_TRANSFER_UNSUPPORTED" 409
    reject (node.status.available = false) <| attachmentError "NODE_UNAVAILABLE" 409
    let runtime ← attachableSession db r
    reject (∀ a ∈ (seen 1).forwarding.world.toolAccounts, a.id = runtime.toolAccountId →
      a.userId ≠ runtime.userId ∨ a.toolType ≠ "claude".toList ∨ a.active = false) <|
      attachmentError "SESSION_ACCOUNT_UNAVAILABLE" 409
    reject ((seen 2).forwarding.world.getActiveDevice runtime.userId r.deviceId = none) <|
      attachmentError "DEVICE_REVOKED" 403
    reject ((seen 3).forwarding.world.getActiveSshKey r.deviceId r.sshKeyId = none) <|
      attachmentError "SSH_KEY_REVOKED" 403
    reject (db.leases.any (·.id = r.leaseId)) <| attachmentError "ATTACHMENT_LEASE_REPLAY" 409
    let now := (seen 4).clock
    reject (∃ l ∈ db.leases, l.sessionId = runtime.id ∧ l.status.live = true ∧ now < l.expiresAt) <|
      attachmentError "ATTACHMENT_LEASE_CONCURRENT" 409
    let lease : SessionAttachmentLease :=
      ⟨r.leaseId, runtime.id, runtime.userId, r.nodeId, r.deviceId, r.sshKeyId, .issued,
        now + seconds leaseSeconds, none⟩
    .ok ({ db with leases := (db.leases.map fun l =>
      if l.sessionId = runtime.id ∧ l.status.live = true then
        { l with status := .expired, invalidationReason := some "lease_expired".toList }
      else l) ++ [lease] }, lease)

end AgentRemote.Identity
