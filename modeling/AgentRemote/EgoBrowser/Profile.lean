import AgentRemote.EgoBrowser.Records

/-!
# Release identity, policy and proof of possession

The checks by which the service ties a binding to the release, the capabilities and the keys
its device registered. Ed25519 verification and the challenge store are outside: the first is
a parameter of the service, the answer of the second comes with the request.
-/

namespace AgentRemote
open Library

structure EgoBrowserSettings where
  bridgeEnabled : Bool
  enrollmentEnabled : Bool
  requireDevicePop : Bool
  leaseSeconds : ℕ
  leaseRenewIntervalSeconds : ℕ
  leaseRenewFailureGraceSeconds : ℕ
  leaseAdmissionMinRemainingSeconds : ℕ
  absoluteTtlSeconds : ℕ
  maxParallelRequests : ℕ
  production : Bool
  expectedReleaseProfile : EgoBrowserReleaseProfile
  expectedSignerCertificateSha256 : Text
  expectedWrapperVersion : Text
  expectedSkillVersion : Text
  expectedSkillTreeSha256 : Text
  expectedLocalRuntimeVersion : Text
  expectedProtocolVersion : Text
  publicOrigin : Text
  serverHost : Text
  /-- The ranges and relations that the configuration checks when it is loaded. -/
  lease_bounds : 10 ≤ leaseSeconds ∧ leaseSeconds ≤ 300
  interval_bounds : 5 ≤ leaseRenewIntervalSeconds ∧ leaseRenewIntervalSeconds ≤ 60
  grace_bounds : 1 ≤ leaseRenewFailureGraceSeconds ∧ leaseRenewFailureGraceSeconds ≤ 60
  admission_bounds :
    1 ≤ leaseAdmissionMinRemainingSeconds ∧ leaseAdmissionMinRemainingSeconds ≤ 120
  ttl_bounds : 60 ≤ absoluteTtlSeconds ∧ absoluteTtlSeconds ≤ 28800
  parallel_bounds : 1 ≤ maxParallelRequests ∧ maxParallelRequests ≤ 4
  admission_lt_lease : leaseAdmissionMinRemainingSeconds < leaseSeconds
  interval_lt_lease : leaseRenewIntervalSeconds < leaseSeconds

inductive EgoBrowserProofOperation where
  | registerDevice
  | deviceRotate
  | claimBinding
  | connectBinding
  | renewBinding
  | pauseBinding
  | resumeBinding
  | stopBinding
  | revokeBinding
  | revokeDevice
  | issueRelayTicket
  | confirmAllowlist
  deriving DecidableEq

/-- What the server remembered about a challenge it issued. -/
structure EgoBrowserProofChallengeClaims where
  userId : Uuid
  egoBrowserDeviceId : Uuid
  operation : EgoBrowserProofOperation
  generation : ℕ
  bindingId : Option Uuid
  deriving DecidableEq

/-- The proof fields of a request, the canonical payload they sign and what the challenge
store hands out when the challenge is consumed. -/
structure SubmittedProof where
  challenge : Option Text := none
  signature : Option Text := none
  payload : Text := []
  claims : Option EgoBrowserProofChallengeClaims := none

/-- The fields that a proof signature covers. -/
structure PopTranscript where
  challenge : Text
  deviceId : Uuid
  deviceGeneration : ℕ
  operationGeneration : ℕ
  releaseProfile : EgoBrowserReleaseProfile
  credentialProfile : EgoBrowserCredentialProfile
  serverHost : Text
  operation : EgoBrowserProofOperation
  bindingId : Option Uuid
  payload : Text

/-- The service with its settings. `verifyPop` is the signature check of a transcript under a
public key, and `relayStore` tells whether a challenge store is configured. -/
structure EgoBrowserService where
  settings : EgoBrowserSettings
  relayStore : Bool
  verifyPop : Text → PopTranscript → Text → Bool

open EgoBrowserFailure

/-! ### Formats -/

def isLowerHex (c : Char) : Bool := ('0' ≤ c ∧ c ≤ '9') ∨ ('a' ≤ c ∧ c ≤ 'f')

/-- `[0-9a-f]{64}`. -/
def isHexDigest (value : Text) : Bool := value.length = 64 ∧ value.all isLowerHex

/-- `SAFE_DIGEST`. -/
def isSafeDigest (value : Text) : Bool :=
  value.take 7 = "sha256:".toList ∧ isHexDigest (value.drop 7)

/-- `EXPLICIT_DIGEST`. -/
def isExplicitDigest (value : Text) : Bool := isHexDigest value ∨ isSafeDigest value

def validateDigest (value : Option Text) : Except EgoBrowserFailure Unit :=
  reject (∃ digest ∈ value, isSafeDigest digest = false) (apiError "EGO_BROWSER_DIGEST_INVALID"
    "The supplied bundle or allowlist digest is invalid." 422)

/-- The six bits of a base64url digit. -/
def base64Digit (c : Char) : Option ℕ :=
  if 'A' ≤ c ∧ c ≤ 'Z' then some (c.toNat - 'A'.toNat)
  else if 'a' ≤ c ∧ c ≤ 'z' then some (c.toNat - 'a'.toNat + 26)
  else if '0' ≤ c ∧ c ≤ '9' then some (c.toNat - '0'.toNat + 52)
  else if c = '-' then some 62
  else if c = '_' then some 63
  else none

/-- `_decode_fixed_key`. A key of 32 bytes has 43 digits whose last two bits are zero, and is
its own encoding, so the model keeps the text. -/
def decodeFixedKey (value : Text) (code : String) : Except EgoBrowserFailure Text := do
  reject (value.length ≠ 43 ∨ value.any fun c => (base64Digit c).isNone)
    (apiError code "The ego-browser public key is invalid." 422)
  reject (((value.getLast?.bind base64Digit).getD 0) % 4 ≠ 0)
    (apiError code "The device public key is invalid." 422)
  pure value

def decodePublicKey (value : Text) : Except EgoBrowserFailure Text :=
  decodeFixedKey value "EGO_BROWSER_PUBLIC_KEY_INVALID"

def decodeEncryptionPublicKey : Option Text → Except EgoBrowserFailure (Option Text)
  | none => pure none
  | some value => some <$> decodeFixedKey value "EGO_BROWSER_ENCRYPTION_KEY_INVALID"

/-- `CONTENT_FREE_REASONS`. -/
def contentFreeReasons : List String :=
  ["absolute_ttl", "admin_cleanup", "admin_revoke", "allowlist_changed", "local_policy_changed",
    "device_key_rotated", "device_revoked", "lease_expired", "node_heartbeat_lost",
    "node_reconcile", "node_revoked", "node_unavailable", "pause", "request_cancel_unconfirmed",
    "renewal_grace_expired", "resume_generation_change", "tool_session_bulk_delete",
    "tool_session_delete", "tool_session_stop", "tool_session_stopped", "tool_session_terminal",
    "user_device_revoked", "user_disabled", "user_revoked", "user_stop", "admin_stop", "other",
    "task_space_monitor_unavailable", "task_space_takeover", "user_pause", "user_revoke"]

def safeReason (value : String) : String := if value ∈ contentFreeReasons then value else "other"

/-! ### Capabilities -/

def requiredCapabilities : List Text :=
  ["ego_browser_script_execute_v1".toList, "ego_browser_snapshot_v1".toList,
    "ego_browser_screenshot_artifact_v1".toList, "ego_browser_task_space_v1".toList,
    "ego_browser_concurrency_v1".toList]

def policyCapabilities : List Text :=
  ["ego_browser_file_allowlist_v1".toList, "ego_browser_site_learning_v1".toList]

def knownCapabilities : List Text := requiredCapabilities ++ policyCapabilities

/-- `_canonical_capabilities`: the names in order, each once, at most 32 of them. -/
def canonicalCapabilities (values : List Text) : List Text :=
  ((values.filter fun v => v ≠ [] ∧ v.length ≤ 128).dedup.insertionSort (· ≤ ·)).take 32

namespace EgoBrowserService

variable (service : EgoBrowserService)

def requireEnrollment : Except EgoBrowserFailure Unit :=
  reject (service.settings.enrollmentEnabled = false)
    (apiError "EGO_BROWSER_ENROLLMENT_DISABLED" "Ego-browser device enrollment is disabled." 503)

def requireExecution : Except EgoBrowserFailure Unit :=
  reject (service.settings.bridgeEnabled = false)
    (apiError "EGO_BROWSER_EXECUTION_ADMISSION_DISABLED"
      "Ego-browser execution admission is disabled." 503)

def validatePolicyCapabilities (values : List Text) (allowlistRootsDigest : Option Text)
    (learningBundleDigest : Option Text) : Except EgoBrowserFailure (List Text) := do
  let capabilities := canonicalCapabilities values
  reject (values.length ≠ capabilities.length ∨ ∃ c ∈ capabilities, c ∉ knownCapabilities)
    (apiError "EGO_BROWSER_CAPABILITY_MISMATCH"
      "The Bridge capability set contains duplicates or unknown values." 409)
  reject (∃ c ∈ requiredCapabilities, c ∉ capabilities)
    (apiError "EGO_BROWSER_CAPABILITY_MISMATCH" "The Bridge capability set is incomplete." 409)
  reject (decide ("ego_browser_file_allowlist_v1".toList ∈ capabilities)
        ≠ allowlistRootsDigest.isSome ∨
      decide ("ego_browser_site_learning_v1".toList ∈ capabilities)
        ≠ learningBundleDigest.isSome)
    (apiError "EGO_BROWSER_CAPABILITY_MISMATCH"
      "Policy-backed capabilities do not match their verified digests." 409)
  reject (service.settings.production = true ∧ ∃ c ∈ policyCapabilities, c ∉ capabilities)
    (apiError "EGO_BROWSER_CAPABILITY_MISMATCH"
      "Production requires verified allowlist and Site Learning capabilities." 409)
  pure capabilities

/-! ### Release identity -/

def validateProfile (releaseProfile : EgoBrowserReleaseProfile)
    (credentialProfile : EgoBrowserCredentialProfile) (signerCertificateSha256 : Text) :
    Except EgoBrowserFailure Unit := do
  reject (service.settings.production = true ∧
      releaseProfile ≠ service.settings.expectedReleaseProfile)
    (apiError "EGO_BROWSER_PROFILE_MISMATCH"
      "The release profile is not accepted by this server." 409)
  reject (credentialProfile ≠ .communityFile)
    (apiError "EGO_BROWSER_CREDENTIAL_PROFILE_UNSUPPORTED"
      "The requested credential storage profile is not implemented by this client." 409)
  reject (service.settings.expectedSignerCertificateSha256 ≠ [] ∧
      signerCertificateSha256 ≠ service.settings.expectedSignerCertificateSha256)
    (apiError "EGO_BROWSER_SIGNER_MISMATCH"
      "The signer certificate is not pinned by this server." 409)
  match releaseProfile with
  | .communityLocalTrust | .developerId =>
    reject (isHexDigest signerCertificateSha256 = false)
      (apiError "EGO_BROWSER_SIGNER_INVALID"
        "A production release profile requires a lowercase 64-character signer digest." 422)
  | .logicTest | .developmentLocal =>
    reject (signerCertificateSha256 ≠ "development".toList ∧
        isHexDigest signerCertificateSha256 = false)
      (apiError "EGO_BROWSER_SIGNER_INVALID"
        "The development signer must be the approved sentinel or a lowercase digest." 422)

/-- `_validate_device_origin` with `bind_legacy=False`, as every caller has it. -/
def validateDeviceOrigin (device : EgoBrowserDevice) : Except EgoBrowserFailure Unit :=
  reject (∃ origin ∈ device.serverOrigin, origin ≠ service.settings.publicOrigin)
    (apiError "EGO_BROWSER_IDENTITY_ORIGIN_CONFLICT"
      "The device identity belongs to a different Server origin." 409)

/-- `_bind_legacy_device_origin`. -/
def bindLegacyDeviceOrigin (device : EgoBrowserDevice) : EgoBrowserDevice :=
  if device.serverOrigin.isSome then device
  else { device with serverOrigin := some service.settings.publicOrigin }

/-- The release profiles of a production build. -/
def productionProfile : EgoBrowserReleaseProfile → Bool
  | .communityLocalTrust | .developerId => true
  | _ => false

/-- `_binding_profile_is_current`. -/
def bindingProfileIsCurrent (binding : EgoBrowserBinding) (device : EgoBrowserDevice) : Bool :=
  let settings := service.settings
  device.status = .active ∧
  (∀ origin ∈ device.serverOrigin, origin = settings.publicOrigin) ∧
  device.platform = "macos".toList ∧
  binding.releaseProfile = device.releaseProfile ∧
  binding.signerCertificateSha256 = device.signerCertificateSha256 ∧
  binding.credentialProfile = device.credentialProfile ∧
  device.credentialProfile = .communityFile ∧
  (settings.production = true → device.releaseProfile = settings.expectedReleaseProfile) ∧
  (settings.expectedSignerCertificateSha256 ≠ [] →
    device.signerCertificateSha256 = settings.expectedSignerCertificateSha256) ∧
  device.bridgeProtocolVersion = egoBrowserProtocol ∧
  device.bridgeProtocolVersion = settings.expectedProtocolVersion ∧
  binding.bridgeProtocolVersion = device.bridgeProtocolVersion ∧
  binding.localRuntimeVersion = device.localEgoBrowserRuntimeVersion ∧
  binding.egoLiteRuntimeVersion = device.egoLiteRuntimeVersion ∧
  binding.skillVersion = device.skillVersion ∧
  binding.allowlistRevision = device.allowlistRevision ∧
  binding.allowlistRootsDigest = device.allowlistRootsDigest ∧
  binding.learningBundleDigest = device.learningBundleDigest ∧
  (productionProfile device.releaseProfile = true →
    (∀ v ∈ device.localEgoBrowserRuntimeVersion, v = settings.expectedLocalRuntimeVersion) ∧
    (∀ v ∈ device.egoLiteRuntimeVersion, v = settings.expectedLocalRuntimeVersion) ∧
    (∀ v ∈ device.skillVersion, v = settings.expectedSkillVersion)) ∧
  1 ≤ device.allowlistRevision ∧ 1 ≤ binding.allowlistRevision ∧
  (∀ digest ∈ device.allowlistRootsDigest, isSafeDigest digest = true) ∧
  (∀ digest ∈ device.learningBundleDigest, isSafeDigest digest = true) ∧
  device.capabilities.length = (canonicalCapabilities device.capabilities).length ∧
  binding.capabilities.length = (canonicalCapabilities binding.capabilities).length ∧
  (service.validateProfile device.releaseProfile device.credentialProfile
    device.signerCertificateSha256).isOk = true ∧
  (service.validatePolicyCapabilities (canonicalCapabilities device.capabilities)
    device.allowlistRootsDigest device.learningBundleDigest).isOk = true ∧
  canonicalCapabilities binding.capabilities = canonicalCapabilities device.capabilities

def validateBindingProfile (binding : EgoBrowserBinding) (device : EgoBrowserDevice) :
    Except EgoBrowserFailure Unit := do
  service.validateDeviceOrigin device
  service.validateProfile device.releaseProfile device.credentialProfile
    device.signerCertificateSha256
  reject (service.bindingProfileIsCurrent binding device = false)
    (apiError "EGO_BROWSER_PROFILE_MISMATCH"
      "The binding release identity no longer matches the registered device." 409)

/-! ### Node capability -/

def legacyNodeCapabilityFields : List Text :=
  ["supported".toList, "protocol_versions".toList, "backends".toList, "wrapper_version".toList,
    "skill_version".toList, "skill_tree_sha256".toList, "remote_platform".toList,
    "local_platform".toList, "max_script_bytes".toList, "max_execute_timeout_ms".toList]

def nodeAdmissionCapabilityFields : List Text :=
  ["configured_enabled".toList, "effective_enabled".toList, "node_execution_allowed".toList]

def nodeCapabilityFields : List Text := legacyNodeCapabilityFields ++ nodeAdmissionCapabilityFields

/-- The texts of an array of texts. -/
def textArray (value : Option JsonValue) : Option (List Text) :=
  (value.bind JsonValue.array?).bind fun items => items.mapM JsonValue.text?

/-- `_validate_node_capability`. -/
def validateNodeCapability (node : EgoBrowserNode) (runtimeBackend : Option Text) :
    Except EgoBrowserFailure Unit := do
  let unavailable := apiError "EGO_BROWSER_NODE_UNAVAILABLE"
    "The assigned node has no complete ego-browser artifact capability." 409
  match (JsonObject.get node.runtimeCapabilities "ego_browser_bridge".toList).bind
      JsonValue.object? with
  | none => throw unavailable
  | some raw =>
    reject (JsonObject.bool? raw "supported".toList ≠ some true) unavailable
    reject (JsonObject.names raw ≠ legacyNodeCapabilityFields.toFinset ∧
      JsonObject.names raw ≠ nodeCapabilityFields.toFinset) unavailable
    if JsonObject.names raw = nodeCapabilityFields.toFinset then
      reject (∃ field ∈ nodeAdmissionCapabilityFields, JsonObject.bool? raw field = none)
        (apiError "EGO_BROWSER_CAPABILITY_MISMATCH"
          "The node ego-browser admission fields are invalid." 409)
      -- the two further checks of the source ask for what this one has already refused
      reject (∃ field ∈ nodeAdmissionCapabilityFields, JsonObject.bool? raw field ≠ some true)
        (apiError "EGO_BROWSER_NODE_UNAVAILABLE"
          "The assigned node is not admitted for ego-browser execution." 409)
    reject (textArray (JsonObject.get raw "protocol_versions".toList) ≠ some [egoBrowserProtocol])
      (apiError "EGO_BROWSER_VERSION_MISMATCH" "The node wrapper protocol is incompatible." 409)
    let backends := (textArray (JsonObject.get raw "backends".toList)).getD []
    reject (backends = [] ∨ ¬backends.Nodup ∨
        (∃ b ∈ backends, b ≠ "docker_sandbox".toList ∧ b ≠ "native".toList) ∨
        ∃ b ∈ runtimeBackend, b ∉ backends)
      (apiError "EGO_BROWSER_RUNTIME_UNSUPPORTED"
        "The node does not support the selected runtime backend for ego-browser." 409)
    reject (JsonObject.text? raw "wrapper_version".toList
          ≠ some service.settings.expectedWrapperVersion ∨
        JsonObject.text? raw "skill_version".toList
          ≠ some service.settings.expectedSkillVersion ∨
        JsonObject.text? raw "skill_tree_sha256".toList
          ≠ some service.settings.expectedSkillTreeSha256 ∨
        JsonObject.text? raw "remote_platform".toList ≠ some "linux".toList ∨
        JsonObject.text? raw "local_platform".toList ≠ some "macos".toList)
      (apiError "EGO_BROWSER_VERSION_MISMATCH"
        "The node wrapper or official Skill artifact is incompatible." 409)
    let within (field : String) (bound : ℤ) : Bool :=
      (JsonObject.int? raw field.toList).any fun n => 1 ≤ n ∧ n ≤ bound
    reject (within "max_script_bytes" 1048576 = false ∨
        within "max_execute_timeout_ms" 120000 = false)
      (apiError "EGO_BROWSER_CAPABILITY_MISMATCH"
        "The node ego-browser execution limits are invalid." 409)

/-! ### Proof of possession -/

def validatePop (publicKey : Text) (userId deviceId : Uuid)
    (deviceGeneration operationGeneration : ℕ) (releaseProfile : EgoBrowserReleaseProfile)
    (credentialProfile : EgoBrowserCredentialProfile) (operation : EgoBrowserProofOperation)
    (bindingId : Option Uuid) (proof : SubmittedProof) : Except EgoBrowserFailure Unit :=
  if service.settings.requireDevicePop = false then pure ()
  else match proof.challenge, proof.signature with
    | some (c :: challenge), some (s :: signature) => do
      reject (service.verifyPop publicKey
          { challenge := c :: challenge, deviceId, deviceGeneration, operationGeneration,
            releaseProfile, credentialProfile, serverHost := service.settings.serverHost,
            operation, bindingId, payload := proof.payload } (s :: signature) = false)
        (apiError "EGO_BROWSER_POP_INVALID" "Device proof-of-possession is invalid." 403)
      reject (service.relayStore = false)
        (apiError "EGO_BROWSER_POP_UNAVAILABLE"
          "The proof-of-possession challenge store is unavailable." 503)
      reject (proof.claims ≠ some
          { userId, egoBrowserDeviceId := deviceId, operation, generation := operationGeneration,
            bindingId })
        (apiError "EGO_BROWSER_POP_CHALLENGE_INVALID"
          "The proof-of-possession challenge is expired, replayed, or mismatched." 403)
    | _, _ => throw (apiError "EGO_BROWSER_POP_REQUIRED"
        "Device proof-of-possession is required." 403)

def validateDevicePop (device : EgoBrowserDevice) (operationGeneration : ℕ)
    (operation : EgoBrowserProofOperation) (bindingId : Option Uuid) (proof : SubmittedProof) :
    Except EgoBrowserFailure Unit := do
  let publicKey ← decodePublicKey device.publicKey
  service.validatePop publicKey device.userId device.id device.generation operationGeneration
    device.releaseProfile device.credentialProfile operation bindingId proof

end EgoBrowserService

end AgentRemote
