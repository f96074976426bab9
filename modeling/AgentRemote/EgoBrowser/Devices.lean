import AgentRemote.EgoBrowser.Lifecycle

/-!
# Devices, claims and the allowlist

Registration and revocation of a browser device, the claim that creates a binding, and the
confirmation of a new allowlist. The rows of the tool session and of its node come from the
session and node services.
-/

namespace AgentRemote
open Library EgoBrowserFailure

/-- The canonical text of a UUID. -/
def uuidText (u : Uuid) : Text :=
  let digits := Nat.toDigits 16 u
  let hex := List.replicate (32 - digits.length) '0' ++ digits
  hex.take 8 ++ '-' :: (hex.drop 8).take 4 ++ '-' :: (hex.drop 12).take 4 ++
    '-' :: (hex.drop 16).take 4 ++ '-' :: hex.drop 20

/-! ### Registration -/

inductive EgoBrowserEnrollmentMode where
  | initial
  | ensure
  | reEnroll
  | rotate
  deriving DecidableEq

structure EgoBrowserDeviceRegisterRequest where
  deviceId : Uuid
  publicKey : Text
  encryptionPublicKey : Option Text
  generation : ℕ
  enrollmentMode : EgoBrowserEnrollmentMode
  releaseProfile : EgoBrowserReleaseProfile
  credentialProfile : EgoBrowserCredentialProfile
  platform : Text
  bridgeProtocolVersion : Text
  bridgeVersion : Option Text
  localEgoBrowserRuntimeVersion : Option Text
  egoLiteRuntimeVersion : Option Text
  skillVersion : Option Text
  signerCertificateSha256 : Text
  allowlistRevision : ℤ
  allowlistRootsDigest : Option Text
  learningBundleDigest : Option Text
  capabilities : List Text
  policyDigest : Option Text
  capabilityDigest : Option Text
  proof : SubmittedProof

/-- `json.dumps` of a digest or of `None`. A checked digest needs no escapes. -/
def jsonDigest : Option Text → Text
  | none => "null".toList
  | some digest => '"' :: digest ++ ['"']

/-- The bytes behind the policy digest. -/
def policyMaterial (allowlistRevision : ℤ) (allowlistRootsDigest learningBundleDigest :
    Option Text) : Text :=
  "\x7b\"allowlist_revision\":".toList ++ (toString allowlistRevision).toList ++
    ",\"allowlist_roots_digest\":".toList ++ jsonDigest allowlistRootsDigest ++
    ",\"learning_bundle_digest\":".toList ++ jsonDigest learningBundleDigest ++ "\x7d".toList

/-- `str.removeprefix("sha256:")`. -/
def withoutDigestPrefix (value : Text) : Text :=
  if value.take 7 = "sha256:".toList then value.drop 7 else value

section

variable [Sha256]

/-- `_validate_policy_digests`. -/
def validatePolicyDigests (policyDigest capabilityDigest : Option Text) (allowlistRevision : ℤ)
    (allowlistRootsDigest learningBundleDigest : Option Text) (capabilities : List Text) :
    Except EgoBrowserFailure Unit := do
  let expectedPolicy := Sha256.hexdigest
    (Text.encode (policyMaterial allowlistRevision allowlistRootsDigest learningBundleDigest))
  let expectedCapability := Sha256.hexdigest
    (Text.encode (['\n'].intercalate (capabilities.dedup.insertionSort (· ≤ ·))))
  reject (∃ digest ∈ policyDigest, isExplicitDigest digest = false)
    (apiError "EGO_BROWSER_DIGEST_INVALID" "The Bridge policy digest format is invalid." 422)
  reject (∃ digest ∈ policyDigest, withoutDigestPrefix digest ≠ expectedPolicy)
    (apiError "EGO_BROWSER_POLICY_DIGEST_MISMATCH"
      "The Bridge policy digest does not match its declared policy." 409)
  reject (∃ digest ∈ capabilityDigest, isExplicitDigest digest = false)
    (apiError "EGO_BROWSER_DIGEST_INVALID" "The Bridge capability digest format is invalid." 422)
  reject (∃ digest ∈ capabilityDigest, withoutDigestPrefix digest ≠ expectedCapability)
    (apiError "EGO_BROWSER_CAPABILITY_DIGEST_MISMATCH"
      "The Bridge capability digest does not match its declared capabilities." 409)

/-- `_update_device_metadata`. -/
def updateDeviceMetadata (device : EgoBrowserDevice) (payload : EgoBrowserDeviceRegisterRequest)
    (canonicalEncryptionKey : Option Text) : EgoBrowserDevice :=
  { device with
    releaseProfile := payload.releaseProfile
    signerCertificateSha256 := payload.signerCertificateSha256
    credentialProfile := payload.credentialProfile
    bridgeProtocolVersion := payload.bridgeProtocolVersion
    bridgeVersion := payload.bridgeVersion
    localEgoBrowserRuntimeVersion := payload.localEgoBrowserRuntimeVersion
    egoLiteRuntimeVersion := payload.egoLiteRuntimeVersion
    skillVersion := payload.skillVersion
    capabilities := canonicalCapabilities payload.capabilities
    allowlistRevision := payload.allowlistRevision
    allowlistRootsDigest := payload.allowlistRootsDigest
    learningBundleDigest := payload.learningBundleDigest
    encryptionPublicKey := canonicalEncryptionKey.orElse fun _ => device.encryptionPublicKey }

/-- Whether a payload repeats the release metadata that a device has. -/
def metadataMatches (device : EgoBrowserDevice) (payload : EgoBrowserDeviceRegisterRequest)
    (capabilities : List Text) : Bool :=
  device.platform = payload.platform ∧
  device.releaseProfile = payload.releaseProfile ∧
  device.signerCertificateSha256 = payload.signerCertificateSha256 ∧
  device.credentialProfile = payload.credentialProfile ∧
  device.bridgeProtocolVersion = payload.bridgeProtocolVersion ∧
  device.bridgeVersion = payload.bridgeVersion ∧
  device.localEgoBrowserRuntimeVersion = payload.localEgoBrowserRuntimeVersion ∧
  device.egoLiteRuntimeVersion = payload.egoLiteRuntimeVersion ∧
  device.skillVersion = payload.skillVersion ∧
  canonicalCapabilities device.capabilities = capabilities ∧
  device.allowlistRevision = payload.allowlistRevision ∧
  device.allowlistRootsDigest = payload.allowlistRootsDigest ∧
  device.learningBundleDigest = payload.learningBundleDigest

/-- Whether a payload changes the policy that live bindings were claimed under. -/
def policyChanged (device : EgoBrowserDevice) (payload : EgoBrowserDeviceRegisterRequest)
    (capabilities : List Text) : Bool :=
  device.allowlistRevision ≠ payload.allowlistRevision ∨
  device.allowlistRootsDigest ≠ payload.allowlistRootsDigest ∨
  device.learningBundleDigest ≠ payload.learningBundleDigest ∨
  canonicalCapabilities device.capabilities ≠ capabilities

/-- Leaves the generation of each listed binding after a local policy change. -/
def EgoBrowserTables.pauseListed (db : EgoBrowserTables) (bindings : List EgoBrowserBinding) :
    Except EgoBrowserFailure (EgoBrowserTables × List (Uuid × ℕ)) :=
  bindings.foldlM (fun (acc : EgoBrowserTables × List (Uuid × ℕ)) b => do
    let db' ← acc.1.pauseGeneration b "local_policy_changed" "local_policy_changed"
    pure (db', acc.2 ++ [(b.id, b.generation)])) (db, [])

namespace EgoBrowserService

variable (service : EgoBrowserService)

/-- The device is in use again. -/
def reactivated (device : EgoBrowserDevice) (now : Instant) : EgoBrowserDevice :=
  { device with status := .active, revokedAt := none, lastSeenAt := some now }

/-- `register_device` for a device that the server knows. -/
def updateRegistered (db : EgoBrowserTables) (now : Instant) (user : EgoBrowserUser)
    (payload : EgoBrowserDeviceRegisterRequest) (requireRotation strictIdentity : Bool)
    (capabilities : List Text) (publicKey : Text) (encryptionPublicKey : Option Text)
    (existing : EgoBrowserDevice) :
    Except EgoBrowserFailure (EgoBrowserTables × List (Uuid × ℕ) × EgoBrowserDevice) := do
  reject (existing.userId ≠ user.id ∨ existing.status = .revoked)
    (apiError "EGO_BROWSER_DEVICE_CONFLICT" "The ego-browser device is unavailable." 409)
  service.validateDeviceOrigin existing
  reject (payload.generation < existing.generation)
    (apiError "EGO_BROWSER_GENERATION_MISMATCH"
      "The device generation cannot move backwards." 409)
  reject (requireRotation = true ∧ db.listLiveForDevice existing.id ≠ [])
    (apiError "EGO_BROWSER_BINDING_CONFLICT"
      "Stop all live bindings before rotating the device identity." 409)
  reject (requireRotation = true ∧ payload.generation ≠ existing.generation + 1)
    (apiError "EGO_BROWSER_GENERATION_MISMATCH"
      "A device rotation must advance exactly one generation." 409)
  reject (payload.allowlistRevision < existing.allowlistRevision ∨
      payload.allowlistRevision = existing.allowlistRevision ∧
        payload.allowlistRootsDigest ≠ existing.allowlistRootsDigest)
    (apiError "EGO_BROWSER_REVISION_CONFLICT"
      "The allowlist revision cannot move backwards or change in place." 409)
  let canonicalEncryptionKey := encryptionPublicKey.orElse fun _ => existing.encryptionPublicKey
  let _ ← decodeEncryptionPublicKey existing.encryptionPublicKey
  let signingKeyChanged := existing.publicKey ≠ publicKey
  let encryptionKeyChanged := existing.encryptionPublicKey ≠ canonicalEncryptionKey
  reject (strictIdentity = true ∧ payload.generation ≠ existing.generation)
    (apiError "EGO_BROWSER_GENERATION_MISMATCH"
      "The retained device generation does not match the Server identity." 409)
  reject (strictIdentity = true ∧
      (encryptionPublicKey = none ∨ signingKeyChanged ∨ encryptionKeyChanged))
    (apiError "EGO_BROWSER_DEVICE_CONFLICT"
      "The ensure payload does not match the retained device identity." 409)
  let unchanged := metadataMatches existing payload capabilities
  reject (strictIdentity = true ∧ unchanged = false ∧ payload.enrollmentMode ≠ .reEnroll)
    (apiError "EGO_BROWSER_DEVICE_CONFLICT"
      "The ensure payload does not match the retained device metadata." 409)
  if strictIdentity = true ∧ unchanged = true then
    let device := reactivated (service.bindLegacyDeviceOrigin existing) now
    pure (db.setDevice device, [], device)
  else do
    reject (requireRotation = true ∧ ¬(signingKeyChanged ∨ encryptionKeyChanged))
      (apiError "EGO_BROWSER_ROTATION_KEY_UNCHANGED"
        "A device rotation must submit a new signing or encryption key." 409)
    let update (d : EgoBrowserDevice) := reactivated (updateDeviceMetadata
      (service.bindLegacyDeviceOrigin d) payload canonicalEncryptionKey) now
    if signingKeyChanged ∨ encryptionKeyChanged then do
      reject (payload.generation ≤ existing.generation)
        (apiError "EGO_BROWSER_GENERATION_MISMATCH"
          "A key rotation requires a newer device generation." 409)
      let device := update { existing with
        publicKey, encryptionPublicKey := canonicalEncryptionKey, generation := payload.generation }
      let (db', left) ← db.invalidateBindings (db.listLiveForDevice existing.id) .revoked
        "device_key_rotated" now
      pure (db'.setDevice device, left, device)
    else if policyChanged existing payload capabilities then do
      let device := update existing
      let (db', left) ← db.pauseListed (db.listLiveForDevice existing.id)
      pure (db'.setDevice device, left, device)
    else
      let device := update existing
      pure (db.setDevice device, [], device)

/-- The row of a device that registers for the first time. -/
def registeredDevice (now : Instant) (user : EgoBrowserUser)
    (payload : EgoBrowserDeviceRegisterRequest) (capabilities : List Text) (publicKey : Text)
    (encryptionPublicKey : Text) : EgoBrowserDevice where
  id := payload.deviceId
  userId := user.id
  publicKey := publicKey
  encryptionPublicKey := some encryptionPublicKey
  generation := payload.generation
  status := .active
  platform := payload.platform
  serverOrigin := some service.settings.publicOrigin
  releaseProfile := payload.releaseProfile
  signerCertificateSha256 := payload.signerCertificateSha256
  credentialProfile := payload.credentialProfile
  bridgeProtocolVersion := payload.bridgeProtocolVersion
  bridgeVersion := payload.bridgeVersion
  localEgoBrowserRuntimeVersion := payload.localEgoBrowserRuntimeVersion
  egoLiteRuntimeVersion := payload.egoLiteRuntimeVersion
  skillVersion := payload.skillVersion
  capabilities := capabilities
  allowlistRevision := payload.allowlistRevision
  allowlistRootsDigest := payload.allowlistRootsDigest
  learningBundleDigest := payload.learningBundleDigest
  lastSeenAt := some now
  revokedAt := none

def registerDevice (db : EgoBrowserTables) (now : Instant) (user : EgoBrowserUser)
    (payload : EgoBrowserDeviceRegisterRequest) (proofOperation : EgoBrowserProofOperation)
    (requireRotation strictIdentity : Bool) : EgoBrowserResponse EgoBrowserDevice :=
  .ofExcept db do
    service.requireEnrollment
    reject (maxEgoBrowserGeneration < payload.generation)
      (apiError "EGO_BROWSER_GENERATION_INVALID"
        "The device generation is outside the supported range." 422)
    validateDigest payload.learningBundleDigest
    validateDigest payload.allowlistRootsDigest
    let capabilities ← service.validatePolicyCapabilities payload.capabilities
      payload.allowlistRootsDigest payload.learningBundleDigest
    validatePolicyDigests payload.policyDigest payload.capabilityDigest payload.allowlistRevision
      payload.allowlistRootsDigest payload.learningBundleDigest capabilities
    service.validateProfile payload.releaseProfile payload.credentialProfile
      payload.signerCertificateSha256
    let publicKey ← decodePublicKey payload.publicKey
    let encryptionPublicKey ← decodeEncryptionPublicKey payload.encryptionPublicKey
    service.validatePop publicKey user.id payload.deviceId payload.generation payload.generation
      payload.releaseProfile payload.credentialProfile proofOperation none payload.proof
    let existing := db.getDevice payload.deviceId
    reject (existing = none ∧ payload.enrollmentMode = .ensure)
      (apiError "EGO_BROWSER_DEVICE_NOT_FOUND"
        "The retained ego-browser device is not enrolled on this Server." 404)
    reject (requireRotation = true ∧ existing = none)
      (apiError "EGO_BROWSER_DEVICE_NOT_FOUND"
        "The ego-browser device was not found for rotation." 404)
    match existing with
    | some existing => do
      reject (existing.encryptionPublicKey = none ∧ encryptionPublicKey = none)
        (apiError "EGO_BROWSER_ENCRYPTION_KEY_REQUIRED"
          "The device must be re-registered with an encryption key." 422)
      service.updateRegistered db now user payload requireRotation strictIdentity capabilities
        publicKey encryptionPublicKey existing
    | none =>
      match encryptionPublicKey with
      | none => throw (apiError "EGO_BROWSER_ENCRYPTION_KEY_REQUIRED"
          "An independent ego-browser encryption key is required." 422)
      | some encryptionPublicKey => do
        let device := service.registeredDevice now user payload capabilities publicKey
          encryptionPublicKey
        match db.addDevice device with
        | .error _ => throw (apiError "EGO_BROWSER_DEVICE_CONFLICT"
            "The ego-browser device is already registered." 409)
        | .ok db' => pure (db', [], device)

end EgoBrowserService

end

/-! ### Revocation -/

structure EgoBrowserDeviceRevokeRequest where
  generation : ℕ
  reason : String
  proof : SubmittedProof

namespace EgoBrowserService

variable (service : EgoBrowserService)

/-- The checks of `revoke_device`; an administrator carries no device credential. -/
def checkRevocation (device : EgoBrowserDevice) (payload : EgoBrowserDeviceRevokeRequest)
    (authenticatedDeviceId : Option Uuid) : Except EgoBrowserFailure Unit := do
  if authenticatedDeviceId.isSome then service.validateDeviceOrigin device
  reject (device.generation ≠ payload.generation) generationError
  reject (∃ id ∈ authenticatedDeviceId, id ≠ device.id) deviceNotFound
  if authenticatedDeviceId.isSome then
    service.validateDevicePop device device.generation .revokeDevice none payload.proof

/-- `revoke_device`: the device, its live bindings and its credentials end together. -/
def revokeDevice (db : EgoBrowserTables) (now : Instant) (user : EgoBrowserUser)
    (deviceId : Uuid) (payload : EgoBrowserDeviceRevokeRequest)
    (authenticatedDeviceId : Option Uuid) : EgoBrowserResponse Unit :=
  .ofExcept db do
    match db.getDevice deviceId with
    | none => throw deviceNotFound
    | some device =>
      reject (device.userId ≠ user.id ∧ user.admin = false) deviceNotFound
      if device.status = .revoked then pure (db, [], ())
      else do
        service.checkRevocation device payload authenticatedDeviceId
        let device :=
          if authenticatedDeviceId.isSome then service.bindLegacyDeviceOrigin device else device
        let (db', left) ← db.invalidateBindings (db.listLiveForDevice device.id) .revoked
          payload.reason now
        let credentials := db'.credentials.map fun c =>
          if c.egoBrowserDeviceId = device.id ∧ c.status = .active then
            { c with status := .revoked, revokedAt := some now } else c
        pure ({ db' with credentials := credentials }.setDevice
          { device with status := .revoked, revokedAt := some now }, left, ())

end EgoBrowserService

/-! ### Claim -/

structure EgoBrowserBindingClaimRequest where
  toolSessionId : Uuid
  egoBrowserDeviceId : Uuid
  encryptionPublicKey : Option Text
  authorizationPolicyVersion : ℕ
  releaseProfile : EgoBrowserReleaseProfile
  credentialProfile : EgoBrowserCredentialProfile
  deviceCapabilities : List Text
  allowlistRevision : ℤ
  learningBundleDigest : Option Text
  taskSpaceLabel : Option Text
  concurrencyMode : EgoBrowserConcurrencyMode
  proof : SubmittedProof

/-- A tool session as a claim reads it: `running` stands for its three live statuses. -/
structure EgoBrowserToolSession where
  id : Uuid
  userId : Uuid
  nodeId : Uuid
  toolType : Text
  running : Bool
  runtimeBackend : Text

/-- `SAFE_LABEL`. -/
def isSafeLabel (value : Text) : Bool :=
  1 ≤ value.length ∧ value.length ≤ 256 ∧ value.all fun c =>
    ('A' ≤ c ∧ c ≤ 'Z') ∨ ('a' ≤ c ∧ c ≤ 'z') ∨ ('0' ≤ c ∧ c ≤ '9') ∨ c ∈ ['.', '_', ':', '-']

namespace EgoBrowserService

variable (service : EgoBrowserService)

/-- The row of a claimed binding. -/
def claimedBinding (id : Uuid) (now : Instant) (user : EgoBrowserUser)
    (payload : EgoBrowserBindingClaimRequest) (device : EgoBrowserDevice)
    (toolSession : EgoBrowserToolSession) (node : EgoBrowserNode) (capabilities : List Text) :
    EgoBrowserBinding where
  id := id
  userId := user.id
  egoBrowserDeviceId := device.id
  toolSessionId := some toolSession.id
  toolSessionReferenceId := toolSession.id
  nodeId := node.id
  status := .pendingDevice
  authorizedAt := now
  releaseProfile := device.releaseProfile
  signerCertificateSha256 := device.signerCertificateSha256
  credentialProfile := device.credentialProfile
  localRuntimeVersion := device.localEgoBrowserRuntimeVersion
  egoLiteRuntimeVersion := device.egoLiteRuntimeVersion
  skillVersion := device.skillVersion
  bridgeProtocolVersion := device.bridgeProtocolVersion
  taskSpaceLabel := some ("agent-remote:".toList ++ uuidText toolSession.id)
  allowlistRevision := device.allowlistRevision
  allowlistRootsDigest := device.allowlistRootsDigest
  learningBundleDigest := device.learningBundleDigest
  concurrencyMode := payload.concurrencyMode
  maxParallelRequests := service.settings.maxParallelRequests
  capabilities := capabilities
  leaseUntil := some (now + seconds service.settings.leaseSeconds)
  leaseHealth := .healthy
  leaseGraceUntil := none
  leaseRenewIntervalSeconds := service.settings.leaseRenewIntervalSeconds
  leaseRenewFailureGraceSeconds := service.settings.leaseRenewFailureGraceSeconds
  absoluteTtlUntil := now + seconds service.settings.absoluteTtlSeconds
  generation := 1
  connectedAt := none
  stoppedAt := none
  stopReason := none
  revokedAt := none

/-- `claim`, with the id of the new row and the session and node it reads. -/
def claim (db : EgoBrowserTables) (now : Instant) (id : Uuid) (user : EgoBrowserUser)
    (payload : EgoBrowserBindingClaimRequest) (deviceId : Option Uuid)
    (toolSession : Option EgoBrowserToolSession) (node : Option EgoBrowserNode) :
    EgoBrowserResponse EgoBrowserBinding :=
  .ofExcept db do
    service.requireExecution
    validateDigest payload.learningBundleDigest
    reject (payload.authorizationPolicyVersion ≠ 1)
      (apiError "EGO_BROWSER_AUTHORIZATION_UNSUPPORTED"
        "Unsupported ego-browser authorization policy." 409)
    match db.getDevice payload.egoBrowserDeviceId with
    | none => throw deviceNotFound
    | some device =>
      reject (device.userId ≠ user.id ∨ device.status ≠ .active) deviceNotFound
      service.validateDeviceOrigin device
      service.validateProfile device.releaseProfile device.credentialProfile
        device.signerCertificateSha256
      reject (deviceId = none)
        (apiError "EGO_BROWSER_CREDENTIAL_REQUIRED"
          "An independent ego-browser device credential is required." 403)
      reject (deviceId ≠ some device.id)
        (apiError "EGO_BROWSER_CREDENTIAL_DEVICE_MISMATCH"
          "The device credential does not match the selected device." 403)
      reject (device.encryptionPublicKey = none)
        (apiError "EGO_BROWSER_ENCRYPTION_KEY_REQUIRED"
          "The selected device has no registered encryption key." 409)
      let registered ← decodeEncryptionPublicKey device.encryptionPublicKey
      let requested ← decodeEncryptionPublicKey payload.encryptionPublicKey
      reject (requested ≠ none ∧ requested ≠ registered)
        (apiError "EGO_BROWSER_ENCRYPTION_KEY_MISMATCH"
          "The selected device encryption key does not match registration." 409)
      reject (device.releaseProfile ≠ payload.releaseProfile ∨
          device.credentialProfile ≠ payload.credentialProfile)
        (apiError "EGO_BROWSER_PROFILE_MISMATCH" "The device release profile does not match." 409)
      reject (canonicalCapabilities payload.deviceCapabilities ≠
          canonicalCapabilities device.capabilities)
        (apiError "EGO_BROWSER_CAPABILITY_MISMATCH"
          "The selected device capability set does not match registration." 409)
      let capabilities ← service.validatePolicyCapabilities
        (canonicalCapabilities device.capabilities) device.allowlistRootsDigest
        device.learningBundleDigest
      reject (device.allowlistRevision ≠ payload.allowlistRevision ∨
          device.learningBundleDigest ≠ payload.learningBundleDigest)
        (apiError "EGO_BROWSER_CAPABILITY_MISMATCH"
          "The local capability revision does not match." 409)
      service.validateDevicePop device device.generation .claimBinding none payload.proof
      reject (∃ label ∈ payload.taskSpaceLabel, isSafeLabel label = false)
        (apiError "EGO_BROWSER_INVALID_TASK_SPACE" "The task-space label is invalid." 422)
      match toolSession with
      | none => throw (apiError "COMMON_NOT_FOUND" "Tool session was not found." 404)
      | some toolSession =>
        reject (toolSession.userId ≠ user.id)
          (apiError "COMMON_NOT_FOUND" "Tool session was not found." 404)
        reject (toolSession.toolType ≠ "claude".toList ∨ toolSession.running = false)
          (apiError "EGO_BROWSER_SESSION_UNAVAILABLE"
            "The selected tool session is not available." 409)
        reject (∃ label ∈ payload.taskSpaceLabel,
            label ≠ "agent-remote:".toList ++ uuidText toolSession.id)
          (apiError "EGO_BROWSER_INVALID_TASK_SPACE"
            "The task-space label does not match the selected tool session." 422)
        match node with
        | none => throw (apiError "EGO_BROWSER_NODE_UNAVAILABLE"
            "The assigned node is not available." 409)
        | some node =>
          reject (node.healthy = false)
            (apiError "EGO_BROWSER_NODE_UNAVAILABLE" "The assigned node is not available." 409)
          service.validateNodeCapability node (some toolSession.runtimeBackend)
          reject (db.listLiveForDevice device.id ≠ [] ∨
              db.listLiveForSession toolSession.id ≠ [])
            (apiError "EGO_BROWSER_BINDING_CONFLICT"
              "The selected device or tool session already has a live browser binding." 409)
          let binding := service.claimedBinding id now user payload device toolSession node
            capabilities
          match (db.setDevice (service.bindLegacyDeviceOrigin device)).addBinding binding with
          | .error _ => throw (apiError "EGO_BROWSER_BINDING_CONFLICT"
              "The browser binding is already in use." 409)
          | .ok db' => pure (db', [], binding)

end EgoBrowserService

/-! ### Allowlist -/

structure EgoBrowserAllowlistConfirmRequest where
  generation : ℕ
  expectedRevision : ℤ
  rootsDigest : Text
  proof : SubmittedProof

/-- The capabilities of a device with a confirmed allowlist. -/
def allowlistCapabilities (device : EgoBrowserDevice) : List Text :=
  let capabilities := canonicalCapabilities device.capabilities
  if "ego_browser_file_allowlist_v1".toList ∈ capabilities then capabilities
  else (capabilities ++ ["ego_browser_file_allowlist_v1".toList]).insertionSort (· ≤ ·)

def EgoBrowserService.confirmAllowlist (service : EgoBrowserService) (db : EgoBrowserTables)
    (user : EgoBrowserUser) (bindingId : Uuid) (payload : EgoBrowserAllowlistConfirmRequest)
    (deviceId : Option Uuid) : EgoBrowserResponse Unit :=
  .ofExcept db do
    service.requireEnrollment
    let (binding, device) ← db.ownedBindingDevice user bindingId deviceId false
    service.validateBindingProfile binding device
    reject (payload.generation ≠ binding.generation) generationError
    reject (binding.status.live = false)
      (apiError "EGO_BROWSER_STATE_CONFLICT"
        "The browser binding cannot update its allowlist." 409)
    reject (payload.expectedRevision ≠ device.allowlistRevision ∨
        payload.expectedRevision ≠ binding.allowlistRevision)
      (apiError "EGO_BROWSER_REVISION_CONFLICT" "The allowlist revision has changed." 409)
    service.validateDevicePop device binding.generation .confirmAllowlist (some binding.id)
      payload.proof
    let revision := device.allowlistRevision + 1
    let capabilities ← service.validatePolicyCapabilities (allowlistCapabilities device)
      (some payload.rootsDigest) device.learningBundleDigest
    let device := { device with
      allowlistRevision := revision, allowlistRootsDigest := some payload.rootsDigest,
      capabilities }
    let changed := { binding with
      allowlistRevision := revision, allowlistRootsDigest := some payload.rootsDigest,
      capabilities }
    let db' ← db.pauseGeneration changed "allowlist_changed" "allowlist_changed"
    pure (db'.setDevice (service.bindLegacyDeviceOrigin device),
      [(binding.id, binding.generation)], ())

end AgentRemote
