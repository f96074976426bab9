import AgentRemote.EgoBrowser.Generation

/-!
# Lifecycle of a binding

Connection, renewal, pause, resumption and the ways a binding ends.
-/

namespace AgentRemote
open Library EgoBrowserFailure

structure EgoBrowserConnectedRequest where
  generation : ℕ
  encryptionPublicKey : Option Text
  bridgeProtocolVersion : Text
  bridgeVersion : Option Text
  localEgoBrowserRuntimeVersion : Text
  egoLiteRuntimeVersion : Text
  skillVersion : Text
  releaseProfile : EgoBrowserReleaseProfile
  signerCertificateSha256 : Text
  credentialProfile : EgoBrowserCredentialProfile
  allowlistRevision : ℤ
  allowlistRootsDigest : Option Text
  learningBundleDigest : Option Text
  maxParallelRequests : ℕ
  capabilities : List Text
  localBrowserReady : Bool
  proof : SubmittedProof

/-- The renewal request of a Bridge. A node's request carries no proof. -/
structure EgoBrowserRenewRequest where
  generation : ℕ
  allowlistRevision : ℤ
  learningBundleDigest : Option Text
  proof : SubmittedProof := {}

structure EgoBrowserLifecycleRequest where
  generation : ℕ
  reason : String
  proof : SubmittedProof

structure EgoBrowserResumeRequest where
  generation : ℕ
  allowlistRevision : ℤ
  learningBundleDigest : Option Text
  proof : SubmittedProof

namespace EgoBrowserService

variable (service : EgoBrowserService)

/-- `_validate_capability_payload`. -/
def validateCapabilityPayload (device : EgoBrowserDevice) (payload : EgoBrowserConnectedRequest) :
    Except EgoBrowserFailure Unit := do
  reject (device.encryptionPublicKey = none)
    (apiError "EGO_BROWSER_ENCRYPTION_KEY_REQUIRED"
      "The device has no registered encryption key." 409)
  let registered ← decodeEncryptionPublicKey device.encryptionPublicKey
  let connected ← decodeEncryptionPublicKey payload.encryptionPublicKey
  reject (connected = none ∨ connected ≠ registered)
    (apiError "EGO_BROWSER_ENCRYPTION_KEY_MISMATCH"
      "The Bridge encryption key does not match registration." 409)
  reject (payload.bridgeProtocolVersion ≠ egoBrowserProtocol)
    (apiError "EGO_BROWSER_VERSION_MISMATCH" "The Bridge protocol is incompatible." 409)
  reject (payload.releaseProfile ≠ device.releaseProfile ∨
      payload.credentialProfile ≠ device.credentialProfile)
    (apiError "EGO_BROWSER_PROFILE_MISMATCH"
      "The Bridge profile does not match registration." 409)
  reject (payload.signerCertificateSha256 ≠ device.signerCertificateSha256)
    (apiError "EGO_BROWSER_SIGNER_MISMATCH"
      "The Bridge signer does not match registration." 409)
  reject (payload.allowlistRevision ≠ device.allowlistRevision ∨
      payload.allowlistRootsDigest ≠ device.allowlistRootsDigest ∨
      payload.learningBundleDigest ≠ device.learningBundleDigest)
    (apiError "EGO_BROWSER_CAPABILITY_MISMATCH"
      "The Bridge capability revision does not match." 409)
  let _ ← service.validatePolicyCapabilities payload.capabilities payload.allowlistRootsDigest
    payload.learningBundleDigest
  reject (service.settings.maxParallelRequests < payload.maxParallelRequests)
    (apiError "EGO_BROWSER_CAPABILITY_MISMATCH" "The Bridge parallelism exceeds policy." 409)

/-- `_update_device_from_connected`. -/
def updateDeviceFromConnected (device : EgoBrowserDevice) (payload : EgoBrowserConnectedRequest) :
    EgoBrowserDevice :=
  { device with
    bridgeProtocolVersion := payload.bridgeProtocolVersion
    bridgeVersion := payload.bridgeVersion
    localEgoBrowserRuntimeVersion := some payload.localEgoBrowserRuntimeVersion
    egoLiteRuntimeVersion := some payload.egoLiteRuntimeVersion
    skillVersion := some payload.skillVersion
    capabilities := canonicalCapabilities payload.capabilities }

def connected (db : EgoBrowserTables) (now : Instant) (user : EgoBrowserUser) (bindingId : Uuid)
    (payload : EgoBrowserConnectedRequest) (deviceId : Option Uuid) :
    EgoBrowserResponse EgoBrowserBinding :=
  .ofExcept db do
    service.requireExecution
    let (binding, device) ← db.ownedBindingDevice user bindingId deviceId false
    service.validateBindingProfile binding device
    validateDigest payload.learningBundleDigest
    validateDigest payload.allowlistRootsDigest
    reject (payload.generation ≠ binding.generation) generationError
    reject (binding.status.awaitsBridge = false)
      (apiError "EGO_BROWSER_STATE_CONFLICT"
        "The binding is not awaiting a Bridge connection." 409)
    reject (payload.localBrowserReady = false)
      (apiError "EGO_BROWSER_RUNTIME_UNAVAILABLE"
        "The local ego-browser runtime is unavailable." 409)
    service.validateCapabilityPayload device payload
    reject (payload.allowlistRevision ≠ binding.allowlistRevision ∨
        payload.allowlistRootsDigest ≠ binding.allowlistRootsDigest ∨
        payload.learningBundleDigest ≠ binding.learningBundleDigest ∨
        canonicalCapabilities payload.capabilities ≠ canonicalCapabilities binding.capabilities)
      (apiError "EGO_BROWSER_CAPABILITY_MISMATCH"
        "The Bridge capability snapshot does not match this binding generation." 409)
    service.validateDevicePop device binding.generation .connectBinding (some binding.id)
      payload.proof
    let active := { binding with
      status := .active
      leaseHealth := .healthy
      leaseUntil := some (service.grantedLease binding now)
      leaseGraceUntil := none
      connectedAt := some now
      localRuntimeVersion := some payload.localEgoBrowserRuntimeVersion
      egoLiteRuntimeVersion := some payload.egoLiteRuntimeVersion
      skillVersion := some payload.skillVersion
      bridgeProtocolVersion := payload.bridgeProtocolVersion
      capabilities := canonicalCapabilities payload.capabilities }
    let device := updateDeviceFromConnected { device with lastSeenAt := some now } payload
    pure ((db.setBinding active).setDevice (service.bindLegacyDeviceOrigin device), [], active)

/-! ### Renewal -/

/-- The checks that a renewal of a Bridge and one of a node share. -/
def validateRenewal (binding : EgoBrowserBinding) (payload : EgoBrowserRenewRequest) :
    Except EgoBrowserFailure Unit := do
  validateDigest payload.learningBundleDigest
  reject (payload.generation ≠ binding.generation) generationError
  reject (binding.status ≠ .active ∨ binding.leaseHealth = .expired)
    (apiError "EGO_BROWSER_LEASE_EXPIRED" "The browser binding lease is no longer active." 409)
  reject (payload.allowlistRevision ≠ binding.allowlistRevision ∨
      payload.learningBundleDigest ≠ binding.learningBundleDigest)
    (apiError "EGO_BROWSER_CAPABILITY_MISMATCH" "The capability revision does not match." 409)

/-- The end of both renewals: a lapsed lease expires the binding, in a transaction that is
committed before the error is raised. -/
def finishRenewal (db : EgoBrowserTables) (now : Instant) (binding : EgoBrowserBinding)
    (device : EgoBrowserDevice) : EgoBrowserResponse EgoBrowserBinding :=
  match service.rejectExpiredRenewal binding now with
  | .expire reason =>
    match db.invalidateBinding binding .expired reason now with
    | .error e => { db, result := .error e }
    | .ok (db', left) =>
      { db := db', publish := left,
        result := .error (apiError "EGO_BROWSER_LEASE_EXPIRED"
          "The browser binding lease has expired." 409) }
  | .proceed =>
    let renewed := service.renewedBinding binding now
    { db := (db.setBinding renewed).setDevice
        (service.bindLegacyDeviceOrigin { device with lastSeenAt := some now })
      result := .ok renewed }

/-- The binding and device of a Bridge's renewal that passed its checks. -/
def checkRenewal (db : EgoBrowserTables) (user : EgoBrowserUser) (bindingId : Uuid)
    (payload : EgoBrowserRenewRequest) (deviceId : Option Uuid) :
    Except EgoBrowserFailure (EgoBrowserBinding × EgoBrowserDevice) := do
  service.requireExecution
  let (binding, device) ← db.ownedBindingDevice user bindingId deviceId false
  service.validateBindingProfile binding device
  validateRenewal binding payload
  service.validateDevicePop device binding.generation .renewBinding (some binding.id)
    payload.proof
  pure (binding, device)

def renew (db : EgoBrowserTables) (now : Instant) (user : EgoBrowserUser) (bindingId : Uuid)
    (payload : EgoBrowserRenewRequest) (deviceId : Option Uuid) :
    EgoBrowserResponse EgoBrowserBinding :=
  match service.checkRenewal db user bindingId payload deviceId with
  | .error e => { db, result := .error e }
  | .ok (binding, device) => service.finishRenewal db now binding device

/-- The binding and device of a node's renewal that passed its checks. -/
def checkNodeRenewal (db : EgoBrowserTables) (node : EgoBrowserNode) (bindingId : Uuid)
    (payload : EgoBrowserRenewRequest) :
    Except EgoBrowserFailure (EgoBrowserBinding × EgoBrowserDevice) := do
  service.requireExecution
  match db.getBinding bindingId with
  | none => throw bindingNotFound
  | some binding =>
    reject (binding.nodeId ≠ node.id) bindingNotFound
    service.validateNodeCapability node none
    match db.getDevice binding.egoBrowserDeviceId with
    | none => throw deviceNotFound
    | some device =>
      reject (device.userId ≠ binding.userId) deviceNotFound
      service.validateBindingProfile binding device
      validateRenewal binding payload
      pure (binding, device)

def renewForNode (db : EgoBrowserTables) (now : Instant) (node : EgoBrowserNode)
    (bindingId : Uuid) (payload : EgoBrowserRenewRequest) :
    EgoBrowserResponse EgoBrowserBinding :=
  match service.checkNodeRenewal db node bindingId payload with
  | .error e => { db, result := .error e }
  | .ok (binding, device) => service.finishRenewal db now binding device

/-- The grace deadline that `mark_renewal_failed` uses. -/
def failureGrace (binding : EgoBrowserBinding) (now : Instant) : Instant :=
  match binding.leaseHealth, binding.leaseGraceUntil with
  | .renewalGrace, some graceUntil => graceUntil
  | _, _ => min (now + service.renewalGrace) binding.absoluteTtlUntil

def markRenewalFailed (db : EgoBrowserTables) (now : Instant) (bindingId : Uuid)
    (generation : ℕ) : EgoBrowserResponse (Option EgoBrowserBinding) :=
  match db.getBinding bindingId with
  | none => { db, result := .ok none }
  | some binding =>
    if binding.generation ≠ generation ∨ binding.status ≠ .active then { db, result := .ok none }
    else
      let graceUntil := service.failureGrace binding now
      .ofExcept db do
        if binding.absoluteTtlUntil ≤ now ∨ graceUntil ≤ now then
          let reason :=
            if binding.absoluteTtlUntil ≤ now then "absolute_ttl" else "renewal_grace_expired"
          let (db', left) ← db.invalidateBinding binding .expired reason now
          pure (db', left, db'.getBinding bindingId)
        else if binding.leaseHealth ≠ .renewalGrace then
          let marked := { binding with
            leaseHealth := .renewalGrace, leaseGraceUntil := some graceUntil }
          pure (db.setBinding marked, [], some marked)
        else pure (db, [], some binding)

/-! ### Pause and resumption -/

/-- The statuses that can be paused. -/
def pausable : EgoBrowserBindingStatus → Bool
  | .active | .connecting | .probingLocalBrowser => true
  | _ => false

def pause (db : EgoBrowserTables) (user : EgoBrowserUser) (bindingId : Uuid)
    (payload : EgoBrowserLifecycleRequest) (deviceId : Option Uuid) : EgoBrowserResponse Unit :=
  .ofExcept db do
    let (binding, device) ← db.ownedBindingDevice user bindingId deviceId false
    reject (binding.generation ≠ payload.generation) generationError
    reject (pausable binding.status = false)
      (apiError "EGO_BROWSER_STATE_CONFLICT" "The browser binding cannot be paused." 409)
    service.validateDeviceOrigin device
    service.validateDevicePop device binding.generation .pauseBinding (some binding.id)
      payload.proof
    let db' ← db.pauseGeneration binding (safeReason payload.reason) "pause"
    pure (db'.setDevice (service.bindLegacyDeviceOrigin device),
      [(binding.id, binding.generation)], ())

def pauseByUser (db : EgoBrowserTables) (user : EgoBrowserUser) (bindingId : Uuid)
    (generation : ℕ) : EgoBrowserResponse Unit :=
  .ofExcept db do
    let (binding, _) ← db.ownedBindingDevice user bindingId none true
    reject (binding.generation ≠ generation) generationError
    reject (pausable binding.status = false)
      (apiError "EGO_BROWSER_STATE_CONFLICT" "The browser binding cannot be paused." 409)
    let db' ← db.pauseGeneration binding "user_pause" "pause"
    pure (db', [(binding.id, binding.generation)], ())

def resume (db : EgoBrowserTables) (now : Instant) (user : EgoBrowserUser) (bindingId : Uuid)
    (payload : EgoBrowserResumeRequest) (deviceId : Option Uuid) :
    EgoBrowserResponse EgoBrowserBinding :=
  .ofExcept db do
    service.requireExecution
    let (binding, device) ← db.ownedBindingDevice user bindingId deviceId false
    service.validateBindingProfile binding device
    reject (binding.status ≠ .paused ∨ binding.generation ≠ payload.generation) generationError
    reject (device.allowlistRevision ≠ payload.allowlistRevision ∨
        device.learningBundleDigest ≠ payload.learningBundleDigest)
      (apiError "EGO_BROWSER_CAPABILITY_MISMATCH"
        "The local capability revision does not match." 409)
    let capabilities ← service.validatePolicyCapabilities device.capabilities
      device.allowlistRootsDigest device.learningBundleDigest
    service.validateDevicePop device binding.generation .resumeBinding (some binding.id)
      payload.proof
    let advanced ← advanceGeneration binding
    let resumed := { advanced with
      status := .connecting
      leaseHealth := .healthy
      leaseUntil := some (service.grantedLease binding now)
      leaseGraceUntil := none
      stopReason := none
      allowlistRevision := device.allowlistRevision
      allowlistRootsDigest := device.allowlistRootsDigest
      learningBundleDigest := device.learningBundleDigest
      capabilities }
    pure ((db.supersede binding resumed "resume_generation_change").setDevice
        (service.bindLegacyDeviceOrigin device), [(binding.id, binding.generation)], resumed)

/-! ### The ends of a binding -/

/-- Whether a stop finds nothing left to do. -/
def alreadyEnded (binding : EgoBrowserBinding) (revoke : Bool) : Bool :=
  binding.status.terminal ∧ (revoke = false ∨ binding.status = .revoked)

def stopStatus (revoke : Bool) : EgoBrowserTerminalStatus := if revoke then .revoked else .stopped

def stop (db : EgoBrowserTables) (now : Instant) (user : EgoBrowserUser) (bindingId : Uuid)
    (payload : EgoBrowserLifecycleRequest) (revoke : Bool) (deviceId : Option Uuid) :
    EgoBrowserResponse Unit :=
  .ofExcept db do
    let (binding, device) ← db.ownedBindingDevice user bindingId deviceId false
    if alreadyEnded binding revoke then pure (db, [], ())
    else do
      service.validateDeviceOrigin device
      reject (binding.generation ≠ payload.generation) generationError
      service.validateDevicePop device binding.generation
        (if revoke then .revokeBinding else .stopBinding) (some binding.id) payload.proof
      let (db', left) ← db.invalidateBinding binding (stopStatus revoke) payload.reason now
      pure (db'.setDevice (service.bindLegacyDeviceOrigin device), left, ())

def stopByUser (db : EgoBrowserTables) (now : Instant) (user : EgoBrowserUser)
    (bindingId : Uuid) (generation : ℕ) (reason : String) (revoke : Bool) :
    EgoBrowserResponse Unit :=
  .ofExcept db do
    let (binding, _) ← db.ownedBindingDevice user bindingId none true
    if alreadyEnded binding revoke then pure (db, [], ())
    else do
      reject (binding.generation ≠ generation) generationError
      let (db', left) ← db.invalidateBinding binding (stopStatus revoke) reason now
      pure (db', left, ())

/-- Revokes the listed bindings; the four `revoke_for_*` operations differ in the list. -/
def revokeListed (db : EgoBrowserTables) (now : Instant) (bindings : List EgoBrowserBinding)
    (reason : String) : EgoBrowserResponse ℕ :=
  .ofExcept db do
    let (db', left) ← db.invalidateBindings bindings .revoked reason now
    pure (db', left, left.length)

def revokeForToolSession (db : EgoBrowserTables) (now : Instant) (toolSessionId : Uuid)
    (reason : String) : EgoBrowserResponse ℕ :=
  revokeListed db now (db.listLiveForSession toolSessionId) reason

def revokeForDevice (db : EgoBrowserTables) (now : Instant) (deviceId : Uuid)
    (reason : String) : EgoBrowserResponse ℕ :=
  revokeListed db now (db.listLiveForDevice deviceId) reason

def revokeForUser (db : EgoBrowserTables) (now : Instant) (userId : Uuid)
    (reason : String) : EgoBrowserResponse ℕ :=
  revokeListed db now (db.listLiveForUser userId) reason

def revokeForNode (db : EgoBrowserTables) (now : Instant) (nodeId : Uuid)
    (reason : String) : EgoBrowserResponse ℕ :=
  revokeListed db now (db.listLiveForNode nodeId) reason

end EgoBrowserService

end AgentRemote
