import AgentRemote.EgoBrowser.Devices
import AgentRemote.Pop.Payload

/-!
# Enrolment of a device

`ensure_device` and `rotate_device`: the record of an idempotency key, the replay of its cached
credential, the recovery of a lost rotation and the issue of a new credential. A one-time
challenge is gone after the first check that consumes it. Token hashes, the encryption of the
cached token and the printable characters are parameters.
-/

namespace AgentRemote.DeviceEnrollment
open Library EgoBrowserFailure Pop

inductive CredentialStatus where
  | active
  | revoked
  | expired
  deriving DecidableEq

/-- A row of the device credentials. -/
structure DeviceCredential where
  id : Uuid
  userId : Uuid
  egoBrowserDeviceId : Uuid
  tokenHash : Text
  credentialProfile : EgoBrowserCredentialProfile
  generation : ℕ
  revision : ℕ
  status : CredentialStatus
  expiresAt : Instant
  revokedAt : Option Instant
  deriving DecidableEq

/-- The logical operations that keep idempotency records of their own. -/
inductive LogicalOperation where
  | deviceEnsure
  | deviceRotate
  deriving DecidableEq

/-- A row of the ensure requests. -/
structure EgoBrowserEnsureRequest where
  userId : Uuid
  egoBrowserDeviceId : Uuid
  logicalOperation : LogicalOperation
  idempotencyKeyHash : Text
  requestFingerprint : Text
  credentialId : Option Uuid
  encryptedAccessToken : Option Text
  credentialRevision : Option ℕ
  credentialExpiresAt : Option Instant
  resultExpiresAt : Option Instant
  consumedAt : Option Instant
  deriving DecidableEq

/-- The tables an enrolment reads and writes. The credentials are kept here with all their
columns. -/
structure EnrollmentTables where
  tables : EgoBrowserTables
  credentials : List DeviceCredential
  requests : List EgoBrowserEnsureRequest

namespace EnrollmentTables

def getCredential (s : EnrollmentTables) (id : Uuid) : Option DeviceCredential :=
  lookup DeviceCredential.id s.credentials id

def isRequest (userId : Uuid) (operation : LogicalOperation) (keyHash : Text)
    (r : EgoBrowserEnsureRequest) : Bool :=
  r.userId = userId ∧ r.logicalOperation = operation ∧ r.idempotencyKeyHash = keyHash

/-- `get_ensure_request`. -/
def getEnsureRequest (s : EnrollmentTables) (userId : Uuid) (operation : LogicalOperation)
    (keyHash : Text) : Option EgoBrowserEnsureRequest :=
  s.requests.find? (isRequest userId operation keyHash)

def setDevice (s : EnrollmentTables) (d : EgoBrowserDevice) : EnrollmentTables :=
  { s with tables := s.tables.setDevice d }

/-- A token hash is unique. -/
def addCredential (s : EnrollmentTables) (c : DeviceCredential) :
    Except EgoBrowserFailure EnrollmentTables := do
  reject (∃ e ∈ s.credentials, e.id = c.id ∨ e.tokenHash = c.tokenHash) integrityError
  pure { s with credentials := s.credentials ++ [c] }

/-- Writes the record of a key back. -/
def setRequest (s : EnrollmentTables) (r : EgoBrowserEnsureRequest) : EnrollmentTables :=
  { s with requests := s.requests.map fun e =>
      if isRequest r.userId r.logicalOperation r.idempotencyKeyHash e then r else e }

/-- A record is unique by its user, operation and key. -/
def addEnsureRequest (s : EnrollmentTables) (r : EgoBrowserEnsureRequest) :
    Except EgoBrowserFailure EnrollmentTables := do
  reject (∃ e ∈ s.requests, isRequest r.userId r.logicalOperation r.idempotencyKeyHash e = true)
    integrityError
  pure { s with requests := s.requests ++ [r] }

end EnrollmentTables

/-- The raw token is returned once and not stored. -/
structure DeviceCredentialIssue where
  credential : DeviceCredential
  rawToken : Text
  expiresIn : ℤ
  deriving DecidableEq

/-- A request with the body it was sent with: `model_dump(mode="json")` without the proof
fields, and whether the enrolment mode was given. -/
structure EnsureCall where
  payload : EgoBrowserDeviceRegisterRequest
  body : List (Text × PopValue)
  modeSet : Bool

/-- The random values of one request. -/
structure FreshCredential where
  id : Uuid
  rawToken : Text

/-- The service with what an enrolment needs besides: the keyed hash of a token, the encryption
of the cached token and `str.isprintable` of one character. -/
structure EnrollmentService where
  service : EgoBrowserService
  hashToken : Text → Text
  encryptText : Text → Text
  decryptText : Text → Option Text
  isPrintable : Char → Bool
  credentialTtlSeconds : ℕ
  ensureResultRetentionSeconds : ℕ

structure EnrollmentResponse where
  state : EnrollmentTables
  result : Except EgoBrowserFailure (EgoBrowserDevice × DeviceCredentialIssue)

/-- A transaction commits what it computed; an error rolls it back. -/
def EnrollmentResponse.ofExcept (s : EnrollmentTables)
    (x : Except EgoBrowserFailure (EnrollmentTables × EgoBrowserDevice × DeviceCredentialIssue)) :
    EnrollmentResponse :=
  match x with
  | .ok (s', r) => { state := s', result := .ok r }
  | .error e => { state := s, result := .error e }

/-! ### Keys and fingerprints -/

/-- `_idempotency_payload_value`. -/
def idempotencyPayloadValue (call : EnsureCall) : List (Text × Bool × PopValue) :=
  call.body.map fun (name, value) =>
    if call.modeSet = false ∧ name = "enrollment_mode".toList then
      (name, true, .string "initial".toList)
    else (name, true, value)

/-- `json.dumps` of that value. -/
def idempotencyText (call : EnsureCall) : Except EgoBrowserFailure Text :=
  match fieldTexts (idempotencyPayloadValue call) with
  | .ok members => .ok (objectText members)
  | .error reason => .error (valueError reason)

section

variable [Sha256]

/-- `_ensure_fingerprint`. -/
def ensureFingerprint (call : EnsureCall) : Except EgoBrowserFailure Text := do
  let text ← idempotencyText call
  pure (Sha256.hexdigest text.encode)

/-- `_legacy_idempotency_key`. -/
def legacyIdempotencyKey (call : EnsureCall) : Except EgoBrowserFailure Text := do
  let text ← idempotencyText call
  pure ("legacy-".toList ++ Sha256.hexdigest text.encode)

end

/-- The proof as a second check finds it: a challenge that was checked is consumed. -/
def consumed (service : EgoBrowserService) (proof : SubmittedProof) : SubmittedProof :=
  if service.settings.requireDevicePop = true then { proof with claims := none } else proof

def resultInvalid (message : String) : EgoBrowserFailure :=
  apiError "EGO_BROWSER_IDEMPOTENCY_RESULT_INVALID" message 503

namespace EnrollmentService

variable (e : EnrollmentService)

/-- The key of a request and its checks. -/
def ensureKey [Sha256] (call : EnsureCall) (idempotencyKey : Option Text) (strict : Bool) :
    Except EgoBrowserFailure Text := do
  reject (strict = true ∧ (idempotencyKey = none ∨ idempotencyKey = some []))
    (apiError "EGO_BROWSER_IDEMPOTENCY_INVALID" "An Idempotency-Key is required for ensure." 422)
  let key ← match idempotencyKey with
    | some (c :: rest) => pure (c :: rest)
    | _ => legacyIdempotencyKey call
  reject (key.length < 22 ∨ 256 < key.length ∨
      key.any fun c => e.isPrintable c = false ∨ c = '"' ∨ c = '\\')
    (apiError "EGO_BROWSER_IDEMPOTENCY_INVALID" "The ensure idempotency key is invalid." 422)
  pure key

/-- The cached columns of a record, when none is missing. -/
def cachedColumns (r : EgoBrowserEnsureRequest) : Option (Uuid × Text × ℕ × Instant) := do
  let credentialId ← r.credentialId
  let token ← r.encryptedAccessToken
  let revision ← r.credentialRevision
  let expiresAt ← r.credentialExpiresAt
  let _ ← r.consumedAt
  pure (credentialId, token, revision, expiresAt)

/-- The recovery window of the record is over. -/
def resultExpired (r : EgoBrowserEnsureRequest) (now : Instant) : Bool :=
  ∃ t ∈ r.resultExpiresAt, t ≤ now

/-- Whether a credential is the cached one of the record and of its device. -/
def cacheMatches (r : EgoBrowserEnsureRequest) (revision : ℕ) (credential : DeviceCredential)
    (device : EgoBrowserDevice) : Bool :=
  r.userId = device.userId ∧ credential.userId = r.userId ∧
  credential.egoBrowserDeviceId = device.id ∧ device.status = .active ∧
  credential.generation = device.generation ∧
  credential.credentialProfile = device.credentialProfile ∧ credential.revision = revision

/-- `_replay_ensure_request`. -/
def replayEnsureRequest (s : EnrollmentTables) (now : Instant) (r : EgoBrowserEnsureRequest) :
    Except EgoBrowserFailure (Option (EgoBrowserDevice × DeviceCredentialIssue)) :=
  if resultExpired r now = true then pure none
  else match cachedColumns r with
    | none => throw (resultInvalid
        "The cached ensure result is incomplete and cannot be recovered.")
    | some (credentialId, token, revision, cachedExpiresAt) =>
      match s.getCredential credentialId, s.tables.getDevice r.egoBrowserDeviceId with
      | some credential, some device => do
        reject (cacheMatches r revision credential device = false)
          (resultInvalid "The cached ensure result does not match the enrolled device.")
        reject (credential.expiresAt ≠ cachedExpiresAt)
          (resultInvalid "The cached ensure credential expiry is inconsistent.")
        match e.decryptText token with
        | none => throw (resultInvalid "The cached ensure credential cannot be decrypted.")
        | some rawToken =>
          reject (e.hashToken rawToken ≠ credential.tokenHash)
            (resultInvalid "The cached ensure credential failed integrity validation.")
          if credential.expiresAt ≤ now then do
            reject (credential.status ≠ .active ∧ credential.status ≠ .expired)
              (resultInvalid "The cached ensure credential has an invalid status.")
            pure none
          else do
            reject (credential.status ≠ .active)
              (resultInvalid "The cached ensure credential has an invalid status.")
            pure (some (device,
              { credential, rawToken
                expiresIn := max 1 ((credential.expiresAt - now) / 1000000) }))
      | _, _ => throw (resultInvalid
          "The cached ensure result does not match the enrolled device.")

/-- `_rotation_recovery_matches`. -/
def rotationRecoveryMatches (device : EgoBrowserDevice)
    (payload : EgoBrowserDeviceRegisterRequest) : Except EgoBrowserFailure Bool := do
  let publicKey ← decodePublicKey payload.publicKey
  let encryptionKey ← decodeEncryptionPublicKey payload.encryptionPublicKey
  pure (device.id = payload.deviceId ∧ device.status = .active ∧
    device.generation = payload.generation ∧ device.publicKey = publicKey ∧
    device.encryptionPublicKey = (encryptionKey.orElse fun _ => device.encryptionPublicKey) ∧
    device.releaseProfile = payload.releaseProfile ∧
    device.signerCertificateSha256 = payload.signerCertificateSha256 ∧
    device.credentialProfile = payload.credentialProfile ∧
    device.bridgeProtocolVersion = payload.bridgeProtocolVersion ∧
    device.bridgeVersion = payload.bridgeVersion ∧
    device.localEgoBrowserRuntimeVersion = payload.localEgoBrowserRuntimeVersion ∧
    device.egoLiteRuntimeVersion = payload.egoLiteRuntimeVersion ∧
    device.skillVersion = payload.skillVersion ∧
    canonicalCapabilities device.capabilities = canonicalCapabilities payload.capabilities ∧
    device.allowlistRevision = payload.allowlistRevision ∧
    device.allowlistRootsDigest = payload.allowlistRootsDigest ∧
    device.learningBundleDigest = payload.learningBundleDigest)

/-! ### Credentials -/

/-- The credentials of a device are retired before it gets a new one. -/
def retire (deviceId : Uuid) (now : Instant) (c : DeviceCredential) : DeviceCredential :=
  if c.egoBrowserDeviceId = deviceId ∧ c.status = .active then
    { c with status := .revoked, revokedAt := some now } else c

/-- One more than the largest revision of the device's credentials. -/
def nextRevision (credentials : List DeviceCredential) (deviceId : Uuid) : ℕ :=
  (credentials.filter fun c => c.egoBrowserDeviceId = deviceId).foldl
    (fun next c => max next (c.revision + 1)) 1

/-- The row that `issue_device_credential` adds. -/
def newCredential (s : EnrollmentTables) (now : Instant) (user : EgoBrowserUser)
    (device : EgoBrowserDevice) (fresh : FreshCredential) : DeviceCredential where
  id := fresh.id
  userId := user.id
  egoBrowserDeviceId := device.id
  tokenHash := e.hashToken fresh.rawToken
  credentialProfile := device.credentialProfile
  generation := device.generation
  revision := nextRevision s.credentials device.id
  status := .active
  expiresAt := now + seconds e.credentialTtlSeconds
  revokedAt := none

/-- `issue_device_credential`, within a transaction. -/
def issueDeviceCredential (s : EnrollmentTables) (now : Instant) (user : EgoBrowserUser)
    (deviceId : Uuid) (fresh : FreshCredential) :
    Except EgoBrowserFailure (EnrollmentTables × DeviceCredentialIssue) := do
  e.service.requireEnrollment
  match s.tables.getDevice deviceId with
  | none => throw deviceNotFound
  | some device =>
    reject (device.userId ≠ user.id ∨ device.status ≠ .active) deviceNotFound
    e.service.validateDeviceOrigin device
    let credential := e.newCredential s now user device fresh
    let retired := { s with credentials := s.credentials.map (retire device.id now) }
    let issued ← (retired.setDevice (e.service.bindLegacyDeviceOrigin device)).addCredential
      credential
    pure (issued, { credential, rawToken := fresh.rawToken
                    expiresIn := e.credentialTtlSeconds })

/-- The record of a key with the result of the request. -/
def withResult (r : EgoBrowserEnsureRequest) (now : Instant) (issue : DeviceCredentialIssue) :
    EgoBrowserEnsureRequest :=
  { r with
    credentialId := some issue.credential.id
    encryptedAccessToken := some (e.encryptText issue.rawToken)
    credentialRevision := some issue.credential.revision
    credentialExpiresAt := some issue.credential.expiresAt
    resultExpiresAt := some (now + seconds e.ensureResultRetentionSeconds)
    consumedAt := some now }

/-! ### The request -/

/-- The arguments of `ensure_device` besides the payload. -/
structure EnsureOptions where
  idempotencyKey : Option Text
  logicalOperation : LogicalOperation := .deviceEnsure
  proofOperation : EgoBrowserProofOperation := .registerDevice
  requireRotation : Bool := false
  strictIdentity : Option Bool := none

def EnsureOptions.strict (options : EnsureOptions) (call : EnsureCall) : Bool :=
  options.strictIdentity.getD (call.payload.enrollmentMode = .ensure)

/-- The device of a record proves itself before anything is replayed. -/
def authenticateReplay (device : EgoBrowserDevice) (call : EnsureCall)
    (options : EnsureOptions) : Except EgoBrowserFailure Unit := do
  e.service.validateDeviceOrigin device
  e.service.validateDevicePop device device.generation options.proofOperation none
    call.payload.proof

/-- Whether a lost rotation is recovered without another registration. -/
def recoversRotation (s : EnrollmentTables) (device : Option EgoBrowserDevice)
    (call : EnsureCall) (options : EnsureOptions) : Except EgoBrowserFailure Bool :=
  if options.requireRotation = true then
    match device with
    | none => pure false
    | some device => do
      let same ← rotationRecoveryMatches device call.payload
      pure (same = true ∧ s.tables.listLiveForDevice device.id = [])
  else pure false

section

variable [Sha256]

/-- Registers the device, issues its credential and writes the record. `proof` is what the
challenge still holds. -/
def enroll (s : EnrollmentTables) (now : Instant) (user : EgoBrowserUser) (call : EnsureCall)
    (options : EnsureOptions) (fresh : FreshCredential) (keyHash fingerprint : Text)
    (request : Option EgoBrowserEnsureRequest) (proof : SubmittedProof) :
    Except EgoBrowserFailure (EnrollmentTables × EgoBrowserDevice × DeviceCredentialIssue) := do
  let response := e.service.registerDevice s.tables now user { call.payload with proof }
    options.proofOperation options.requireRotation
    (options.strict call ∧ options.requireRotation = false)
  let device ← response.result
  let (issued, issue) ← e.issueDeviceCredential { s with tables := response.db } now user
    device.id fresh
  match request with
  | none => do
    let r : EgoBrowserEnsureRequest :=
      { userId := user.id, egoBrowserDeviceId := device.id
        logicalOperation := options.logicalOperation, idempotencyKeyHash := keyHash
        requestFingerprint := fingerprint, credentialId := none, encryptedAccessToken := none
        credentialRevision := none, credentialExpiresAt := none, resultExpiresAt := none
        consumedAt := none }
    let recorded ← issued.addEnsureRequest (e.withResult r now issue)
    pure (recorded, device, issue)
  | some r =>
    pure (issued.setRequest (e.withResult { r with egoBrowserDeviceId := device.id } now issue),
      device, issue)

/-- A request whose key is recorded. -/
def replayed (s : EnrollmentTables) (now : Instant) (user : EgoBrowserUser) (call : EnsureCall)
    (options : EnsureOptions) (fresh : FreshCredential) (keyHash fingerprint : Text)
    (request : EgoBrowserEnsureRequest) :
    Except EgoBrowserFailure (EnrollmentTables × EgoBrowserDevice × DeviceCredentialIssue) := do
  reject (request.requestFingerprint ≠ fingerprint)
    (apiError "EGO_BROWSER_IDEMPOTENCY_CONFLICT"
      "The idempotency key was reused with a different request." 409)
  let replayDevice := s.tables.getDevice request.egoBrowserDeviceId
  -- the cache only suppresses side effects: the replay is authenticated by a new challenge
  let proof ← match replayDevice with
    | none => pure call.payload.proof
    | some device => do
      e.authenticateReplay device call options
      pure (consumed e.service call.payload.proof)
  match ← e.replayEnsureRequest s now request with
  | some (device, issue) =>
    let device := e.service.bindLegacyDeviceOrigin device
    pure (s.setDevice device, device, issue)
  | none =>
    match replayDevice, ← recoversRotation s replayDevice call options with
    | some device, true => do
      let (issued, issue) ← e.issueDeviceCredential s now user device.id fresh
      pure (issued.setRequest (e.withResult request now issue),
        e.service.bindLegacyDeviceOrigin device, issue)
    | _, _ => e.enroll s now user call options fresh keyHash fingerprint (some request) proof

/-- `ensure_device`. -/
def ensureDevice (s : EnrollmentTables) (now : Instant) (user : EgoBrowserUser)
    (call : EnsureCall) (options : EnsureOptions) (fresh : FreshCredential) :
    EnrollmentResponse :=
  .ofExcept s do
    e.service.requireEnrollment
    let key ← e.ensureKey call options.idempotencyKey (options.strict call)
    let keyHash := e.hashToken key
    let fingerprint ← ensureFingerprint call
    match s.getEnsureRequest user.id options.logicalOperation keyHash with
    | some request => e.replayed s now user call options fresh keyHash fingerprint request
    | none => e.enroll s now user call options fresh keyHash fingerprint none call.payload.proof

/-- The options of `rotate_device`. -/
def rotateOptions (idempotencyKey : Text) : EnsureOptions where
  idempotencyKey := some idempotencyKey
  logicalOperation := .deviceRotate
  proofOperation := .deviceRotate
  requireRotation := true

/-- `rotate_device`. -/
def rotateDevice (s : EnrollmentTables) (now : Instant) (user : EgoBrowserUser)
    (call : EnsureCall) (idempotencyKey : Text) (fresh : FreshCredential) : EnrollmentResponse :=
  if idempotencyKey = [] then
    { state := s
      result := .error (apiError "EGO_BROWSER_IDEMPOTENCY_INVALID"
        "A rotation idempotency key is required." 422) }
  else e.ensureDevice s now user call (rotateOptions idempotencyKey) fresh

end

end EnrollmentService

end AgentRemote.DeviceEnrollment
