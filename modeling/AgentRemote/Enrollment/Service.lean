import AgentRemote.Enrollment.Records

/-!
# Enrolling nodes with join codes

The operations on join codes, each as one transaction. `seen i` is the state its `i`-th statement
reads, and its `i`-th look at the clock, `db` the state it commits on. A row that is locked comes
from `db`, except that a row which the transaction has loaded before is returned as the copy it
has. The recovery after a storage conflict is a transaction of its own, since the first one was
rolled back.
-/

namespace AgentRemote.Enrollment
open Library PortForwards

/-- The settings of enrollment, with SHA-256 as a function on texts and the text of a UUID. -/
structure EnrollmentSettings where
  enrollmentEnabled : Bool
  publicOrigin : Text
  expectedReleaseProfile : Text
  expectedWrapperVersion : Text
  expectedSkillVersion : Text
  expectedSkillTreeSha256 : Text
  sha256Hex : Text → Text
  uuidText : Uuid → Text

structure JoinProfile where
  serverOrigin : Text
  releaseProfile : Text
  wrapperVersion : Text
  skillVersion : Text
  runtimeVersion : Option Text
  artifactDigest : Text
  profileDigest : Text

variable (settings : EnrollmentSettings) (seen : ℕ → EnrollmentDb) (db : EnrollmentDb)

/-! ### Profiles -/

/-- `_require_enrollment`. -/
def requireEnrollment : Except EnrollmentFailure Unit :=
  reject (settings.enrollmentEnabled = false) <|
    .apiError "EGO_BROWSER_ENROLLMENT_DISABLED" "Ego-browser enrollment is disabled." 503

def artifactDigest : Text := "sha256:".toList ++ settings.expectedSkillTreeSha256

/-- `_join_profile_digest`. -/
def joinProfileDigest (serverOrigin : Text) (nodeId : Uuid) (releaseProfile wrapperVersion
    skillVersion : Text) (runtimeVersion : Option Text) (artifactDigest : Text)
    (egoBrowserEnabled : Option Bool) : Text :=
  let intent := match egoBrowserEnabled with
    | none => "preserve"
    | some true => "true"
    | some false => "false"
  settings.sha256Hex <| List.intercalate [Char.ofNat 0] ["node-join-profile-v1".toList,
    serverOrigin, settings.uuidText nodeId, releaseProfile, wrapperVersion, skillVersion,
    runtimeVersion.getD [], artifactDigest, intent.toList]

def profileMismatch (message : String) : EnrollmentFailure :=
  .apiError "NODE_JOIN_CODE_PROFILE_MISMATCH" message 409

/-- `_join_profile`. -/
def joinProfile (node : Node) (egoBrowserEnabled : Option Bool) :
    Except EnrollmentFailure JoinProfile := do
  let bridge : JsonObject := ((node.runtimeCapabilities.get "ego_browser_bridge".toList).bind
    JsonValue.object?).getD []
  -- A member that is no text differs from every expected value.
  let differs (key : String) (reported : Text → Text) (expected : Text) : Bool :=
    match bridge.get key.toList with
    | none | some .null => false
    | some (.string text) => reported text ≠ expected
    | some _ => true
  reject (differs "wrapper_version" id settings.expectedWrapperVersion) <|
    profileMismatch "The node wrapper does not match the approved join profile."
  reject (differs "skill_version" id settings.expectedSkillVersion) <|
    profileMismatch "The node Skill does not match the approved join profile."
  reject (differs "skill_tree_sha256" ("sha256:".toList ++ ·) (artifactDigest settings)) <|
    profileMismatch "The node artifact does not match the approved join profile."
  .ok {
    serverOrigin := settings.publicOrigin
    releaseProfile := settings.expectedReleaseProfile
    wrapperVersion := settings.expectedWrapperVersion
    skillVersion := settings.expectedSkillVersion
    runtimeVersion := node.version
    artifactDigest := artifactDigest settings
    profileDigest := joinProfileDigest settings settings.publicOrigin node.id
      settings.expectedReleaseProfile settings.expectedWrapperVersion
      settings.expectedSkillVersion node.version (artifactDigest settings) egoBrowserEnabled }

/-- `_valid_join_exchange_id`. -/
def validJoinExchangeId (value : Text) : Bool :=
  16 ≤ value.length ∧ value.length ≤ 128 ∧
    value.all fun c => c.isAlphanum || c = '-' || c = '_'

/-- The texts of a record's profile, when `_join_profile_is_complete`. -/
def completeProfile (record : NodeJoinCode) : Option JoinProfile := do
  let nonempty (value : Option Text) : Option Text := value.filter (· ≠ [])
  let serverOrigin ← nonempty (some record.serverOrigin)
  let releaseProfile ← nonempty record.releaseProfile
  let wrapperVersion ← nonempty record.wrapperVersion
  let skillVersion ← nonempty record.skillVersion
  let artifactDigest ← nonempty record.artifactDigest
  let profileDigest ← nonempty record.profileDigest
  some ⟨serverOrigin, releaseProfile, wrapperVersion, skillVersion, record.runtimeVersion,
    artifactDigest, profileDigest⟩

/-- What a node presents to exchange a join code. -/
structure JoinExchange where
  nodeId : Option Uuid
  version : Text
  joinCode : Option Text
  exchangeId : Text
  releaseProfile : Option Text
  wrapperVersion : Option Text
  skillVersion : Option Text
  runtimeVersion : Option Text
  artifactDigest : Option Text
  profileDigest : Option Text
  egoBrowserEnabled : Option Bool

/-- The part of `_validate_join_exchange_record` that a node's values are held to. -/
def requireProfileEcho (r : JoinExchange) (record : NodeJoinCode) (profile : JoinProfile) :
    Except EnrollmentFailure Unit := do
  let optional (field : String) (expected supplied : Option Text) :
      Except EnrollmentFailure Unit :=
    reject (expected ≠ none ∧ supplied ≠ none ∧ supplied ≠ expected) <|
      profileMismatch ("Join code " ++ field ++ " does not match the approved profile.")
  let required (field : String) (expected : Text) (supplied : Option Text) :
      Except EnrollmentFailure Unit :=
    reject (supplied ≠ some expected) <|
      profileMismatch ("Join code " ++ field ++ " must match the approved profile.")
  optional "release_profile" (some profile.releaseProfile) r.releaseProfile
  optional "runtime_version" profile.runtimeVersion r.runtimeVersion
  optional "profile_digest" (some profile.profileDigest) r.profileDigest
  required "wrapper_version" profile.wrapperVersion r.wrapperVersion
  required "skill_version" profile.skillVersion r.skillVersion
  required "artifact_digest" profile.artifactDigest r.artifactDigest
  reject (r.egoBrowserEnabled ≠ none ∧ r.egoBrowserEnabled ≠ record.egoBrowserEnabled) <|
    profileMismatch "Join code ego-browser intent does not match the approved profile."

def exchangeConflict : EnrollmentFailure :=
  .apiError "NODE_JOIN_CODE_EXCHANGE_CONFLICT"
    "The exchange ID is already bound to another join code." 409

def invalidJoinCode (message : String) (statusCode : ℕ) : EnrollmentFailure :=
  .apiError "NODE_JOIN_CODE_INVALID" message statusCode

/-- `_validate_join_exchange_record`, which reads the node in `at_`. -/
def validateJoinExchangeRecord (at_ : EnrollmentDb) (r : JoinExchange)
    (expectedCode : Option Text) (requireEcho : Bool) (record : NodeJoinCode) :
    Except EnrollmentFailure Node := do
  reject (expectedCode ≠ none ∧ expectedCode ≠ some record.code) exchangeConflict
  match completeProfile record with
  | none => .error (.apiError "NODE_JOIN_CODE_PROFILE_INCOMPLETE"
      "The join-code release profile is incomplete." 409)
  | some profile => do
    reject record.revokedAt.isSome <|
      .apiError "NODE_JOIN_CODE_REVOKED" "Join code was revoked." 410
    reject (r.nodeId ≠ none ∧ r.nodeId ≠ some record.nodeId) <|
      invalidJoinCode "Join code does not match the node." 409
    match (at_.getNode record.nodeId).filter (·.status ≠ .disabled) with
    | none => .error (.apiError "NODE_NOT_FOUND" "Node is unavailable." 404)
    | some node => do
      reject (profile.serverOrigin ≠ settings.publicOrigin) <|
        profileMismatch "Join code belongs to a different Server origin."
      reject ((profile.releaseProfile, profile.wrapperVersion, profile.skillVersion,
          profile.artifactDigest) ≠ (settings.expectedReleaseProfile,
          settings.expectedWrapperVersion, settings.expectedSkillVersion,
          Enrollment.artifactDigest settings)) <|
        profileMismatch "Join code references a stale release profile."
      reject (profile.profileDigest.map Char.toLower ≠ joinProfileDigest settings
          profile.serverOrigin record.nodeId profile.releaseProfile profile.wrapperVersion
          profile.skillVersion profile.runtimeVersion profile.artifactDigest
          record.egoBrowserEnabled) <|
        profileMismatch "The join-code release profile integrity check failed."
      if requireEcho then
        requireProfileEcho r record profile
      .ok node

/-! ### Issuing and revoking -/

/-- `_require_node`. -/
def requireNode (at_ : EnrollmentDb) (id : Uuid) : Except EnrollmentFailure Node :=
  match at_.getNode id with
  | none => .error (.apiError "COMMON_NOT_FOUND" "Node was not found." 404)
  | some node => .ok node

def requireAdmin (actor : PortForwards.User) : Except EnrollmentFailure Unit :=
  reject (actor.role ≠ .admin) <|
    .apiError "COMMON_FORBIDDEN" "Administrator role is required." 403

structure IssueJoinCode where
  actor : PortForwards.User
  nodeId : Uuid
  expiresInSeconds : ℕ
  egoBrowserEnabled : Option Bool
  exchangeId : Option Text

/-- `issue_join_code`, with the code it draws. -/
def issueJoinCode (r : IssueJoinCode) (rawCode : Text) :
    Except EnrollmentFailure (EnrollmentDb × NodeJoinCode) := do
  requireEnrollment settings
  requireAdmin r.actor
  reject (r.expiresInSeconds < 60 ∨ 1800 < r.expiresInSeconds) <|
    invalidJoinCode "Join-code expiry is invalid." 422
  reject (r.exchangeId.any fun id => !validJoinExchangeId id) <|
    invalidJoinCode "Join-code exchange ID is invalid." 422
  reject ((r.exchangeId.bind (seen 0).byExchange).isSome) exchangeConflict
  let node ← requireNode (seen 1) r.nodeId
  let profile ← joinProfile settings node r.egoBrowserEnabled
  let record : NodeJoinCode := {
    id := db.nextId
    nodeId := node.id
    code := rawCode
    serverOrigin := profile.serverOrigin
    releaseProfile := some profile.releaseProfile
    wrapperVersion := some profile.wrapperVersion
    skillVersion := some profile.skillVersion
    runtimeVersion := profile.runtimeVersion
    artifactDigest := some profile.artifactDigest
    profileDigest := some profile.profileDigest
    egoBrowserEnabled := r.egoBrowserEnabled
    exchangeId := r.exchangeId
    expiresAt := (seen 2).clock + seconds r.expiresInSeconds
    consumedAt := none
    revokedAt := none
    nodeToken := none
    exchangeResultExpiresAt := none }
  reject ((db.byCode rawCode).isSome ∨ (r.exchangeId.bind db.byExchange).isSome ∨
      (db.getNode node.id).isNone) <|
    if r.exchangeId.isSome then exchangeConflict else .integrityError
  .ok ({ db with joinCodes := db.joinCodes ++ [record], nextId := db.nextId + 1 }, record)

inductive JoinCodeState where
  | revoked
  | consumed
  | missing
  deriving DecidableEq

/-- The table once the listed copies of its rows are revoked. -/
def revokeCopies (copies : List NodeJoinCode) (now : Instant) : EnrollmentDb :=
  copies.foldl (fun db copy => db.updateJoinCode copy { copy with revokedAt := some now }) db

/-- `revoke_join_codes`, with the rows it answers for. -/
def revokeJoinCodes (actor : PortForwards.User) (nodeId : Uuid) (exchangeId : Option Text) :
    Except EnrollmentFailure (EnrollmentDb × JoinCodeState × List NodeJoinCode) := do
  requireAdmin actor
  let _ ← requireNode (seen 0) nodeId
  reject (exchangeId.any fun id => !validJoinExchangeId id) <|
    invalidJoinCode "Join-code exchange ID is invalid." 422
  match exchangeId with
  | some exchangeId =>
    match db.joinCodes.find? fun k => k.nodeId = nodeId ∧ k.exchangeId = some exchangeId with
    | none => .ok (db, .missing, [])
    | some record =>
      if record.consumedAt.isSome then .ok (db, .consumed, [])
      else if record.revokedAt.isSome then .ok (db, .revoked, [record])
      else .ok (revokeCopies db [record] (seen 2).clock, .revoked, [record])
  | none =>
    let result := (seen 1).joinCodes.filter fun k =>
      k.nodeId = nodeId ∧ k.consumedAt = none ∧ k.revokedAt = none
    .ok (revokeCopies db result (seen 2).clock, .revoked, result)

/-! ### Exchanging -/

/-- The credential that a node receives, with the record that it comes from. -/
structure JoinCodeExchangeResult where
  record : NodeJoinCode
  node : Node
  rawNodeToken : Uuid
  exchangeId : Text

def unknownResult (message : String) : EnrollmentFailure := .apiError "UNKNOWN_RESULT" message 503

/-- `_consumed_join_exchange_result`. -/
def consumedJoinExchangeResult (record : NodeJoinCode) (node : Node) (exchangeId : Text)
    (now : Instant) : Except EnrollmentFailure JoinCodeExchangeResult :=
  let lost := unknownResult "The enrollment result cannot be recovered."
  match record.consumedAt, record.nodeToken with
  | some _, some rawToken => do
    reject (record.exchangeId ≠ some exchangeId) <|
      .apiError "NODE_JOIN_CODE_REPLAYED" "Join code was already consumed." 409
    match record.exchangeResultExpiresAt with
    | none => .error lost
    | some expiresAt => do
      reject (expiresAt ≤ now) <|
        .apiError "NODE_JOIN_CODE_EXPIRED" "The enrollment recovery window has expired." 410
      reject (node.nodeToken ≠ some rawToken) <|
        unknownResult "The enrollment result no longer matches the Node credential."
      .ok ⟨record, node, rawToken, exchangeId⟩
  | _, _ => .error lost

/-- The record that an exchange works on: the row it locks, or the copy of it that the first
statement loaded. -/
def joinExchangeRecord (r : JoinExchange) : Except EnrollmentFailure NodeJoinCode :=
  let loaded := (seen 0).byExchange r.exchangeId
  let missing := invalidJoinCode "Join code is invalid." 401
  let copyOf (row : NodeJoinCode) : NodeJoinCode := (loaded.filter (·.id = row.id)).getD row
  match r.joinCode with
  | none =>
    match db.joinCodes.find? fun k => k.exchangeId = some r.exchangeId ∧ k.consumedAt.isSome with
    | none => .error missing
    | some row => .ok (copyOf row)
  | some code =>
    match db.byCode code with
    | none => .error (if loaded.isSome then exchangeConflict else missing)
    | some row => do
      reject (loaded.any (·.id ≠ row.id)) exchangeConflict
      .ok (copyOf row)

/-- The tables once a record is exchanged for a new node token. -/
def exchanged (r : JoinExchange) (record : NodeJoinCode) (node : Node) (now : Instant) :
    EnrollmentDb :=
  let token := db.nextId
  let firstEnrollment := node.nodeToken.isNone
  let enabled := match record.egoBrowserEnabled with
    | some intent =>
      if firstEnrollment ∨ r.egoBrowserEnabled.isSome then intent else node.egoBrowserEnabled
    | none => node.egoBrowserEnabled
  let enrolled : Node := { node with
    nodeToken := some token
    registrationToken := none
    version := some r.version
    status := .healthy
    lastHeartbeatAt := some now
    egoBrowserEnabled := enabled }
  let consumed : NodeJoinCode := { record with
    exchangeId := some r.exchangeId
    consumedAt := some now
    nodeToken := some token
    exchangeResultExpiresAt := some (now + seconds (24 * 60 * 60)) }
  let after := (db.updateNode node enrolled).updateJoinCode record consumed
  { after with nextId := db.nextId + 1 }

/-- `exchange_join_code`, up to the recovery after a storage conflict. -/
def exchangeJoinCode (r : JoinExchange) :
    Except EnrollmentFailure (EnrollmentDb × JoinCodeExchangeResult) := do
  requireEnrollment settings
  reject (r.joinCode.any fun code => code.length < 16 ∨ 4096 < code.length ∨
      code.any fun c => c.toNat < 0x21 || c.toNat = 0x7F) <|
    invalidJoinCode "Join code or exchange ID is invalid." 422
  reject (!validJoinExchangeId r.exchangeId) <|
    invalidJoinCode "Join code or exchange ID is invalid." 422
  let record ← joinExchangeRecord seen db r
  let now := (seen 1).clock
  let node ← validateJoinExchangeRecord settings (seen 2) r r.joinCode r.joinCode.isSome record
  if record.consumedAt.isSome then
    let result ← consumedJoinExchangeResult record node r.exchangeId now
    .ok (db, result)
  else
    reject (record.expiresAt ≤ now) <|
      .apiError "NODE_JOIN_CODE_EXPIRED" "Join code has expired." 410
    -- Without a code only a consumed row is found, and a copy of it that is not is no result.
    reject r.joinCode.isNone .assertionError
    reject (record.exchangeId ≠ some r.exchangeId ∧ db.exchangeTaken r.exchangeId record.id)
      .integrityError
    let after := exchanged db r record node now
    .ok (after, ⟨record, node, db.nextId, r.exchangeId⟩)

/-- `_recover_join_exchange_after_integrity_error`. -/
def recoverJoinExchange (attemptedRecordId : Uuid) (expectedCode : Text) (r : JoinExchange) :
    Except EnrollmentFailure JoinCodeExchangeResult :=
  match db.byExchange r.exchangeId with
  | none => .error (unknownResult
      "The enrollment result could not be resolved after a storage conflict.")
  | some record => do
    reject (record.id ≠ attemptedRecordId ∨ record.code ≠ expectedCode) exchangeConflict
    let node ← validateJoinExchangeRecord settings (seen 0) r (some expectedCode) true record
    consumedJoinExchangeResult record node r.exchangeId (seen 1).clock

end AgentRemote.Enrollment
