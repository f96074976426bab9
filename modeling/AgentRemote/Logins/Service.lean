import AgentRemote.Logins.Records

/-!
# Device codes and login sessions

The operations on device codes and on login sessions, each as one transaction. `seen i` is the
state its `i`-th statement reads, and its `i`-th look at the clock, `db` the state it commits on.
Completion locks its code, and refreshing and logging out lock the session and the tokens they
change; those rows come from `db`. Approval and recovery decide on an unlocked copy, and a logout
looks for its session in the copy of the token that authenticated it.
-/

namespace AgentRemote.Logins
open Library Identity PortForwards

structure LoginSettings where
  identity : IdentitySettings
  cliSessionTtlSeconds : ℕ
  cliLoginTtlSeconds : ℕ

variable (settings : LoginSettings) (seen : ℕ → LoginDb) (db : LoginDb)

/-- `_resolve_token`, for a token that must not have expired. -/
def resolveToken (at_ : LoginDb) (id : Uuid) : Except LoginFailure Identity.AuthToken :=
  match lookup Identity.AuthToken.id at_.tokens id with
  | none => .error (.apiError "COMMON_UNAUTHORIZED" "Authentication is invalid." 401)
  | some token => do
    reject (token.status ≠ .active) <|
      .apiError "AUTH_TOKEN_REVOKED" "Token has been revoked." 401
    reject (token.expiresAt ≤ at_.clock) <|
      .apiError "AUTH_TOKEN_EXPIRED" "Token has expired." 401
    let revoked := (token.userDeviceId.map fun id =>
      decide (((at_.identity.getDevice id).filter (·.status = .active)).isNone)).getD false
    reject revoked <| .apiError "DEVICE_REVOKED" "Device has been revoked." 403
    .ok token

/-! ### Device codes -/

structure StartCliLogin where
  userCode : Text
  completionRequestId : Option Uuid

def LoginDb.codeByKey (key : Uuid) : Option CliLoginCode :=
  db.codes.find? (·.completionRequestId = some key)

/-- `start_cli_login`, with the user code it draws. -/
def startCliLogin (r : StartCliLogin) : Except LoginFailure (LoginDb × CliLoginCode) := do
  reject ((r.completionRequestId.bind (seen 0).codeByKey).isSome) <|
    .apiError "AUTH_CLI_COMPLETION_KEY_REUSED" "The CLI completion key was already used." 409
  reject (db.codes.any (·.userCode = r.userCode) ∨
    (r.completionRequestId.bind db.codeByKey).isSome) .integrityError
  let code : CliLoginCode := ⟨db.nextId, db.nextId + 1, r.userCode, .pending, none,
    (seen 1).clock + seconds settings.cliLoginTtlSeconds, r.completionRequestId, none⟩
  .ok ({ db with identity := db.identity.draw 2, codes := db.codes ++ [code] }, code)

/-- The row of a code after an update that changed a copy from `copy` to `new`. -/
def CliLoginCode.updated (row copy new : CliLoginCode) : CliLoginCode :=
  { row with
    status := column copy.status new.status row.status
    approvedUserId := column copy.approvedUserId new.approvedUserId row.approvedUserId }

/-- The tables after an update that changed a copy from `copy` to `new`. -/
def LoginDb.withCode (copy new : CliLoginCode) : LoginDb :=
  { db with codes := db.codes.map fun row =>
      if row.id = copy.id then row.updated copy new else row }

/-- An update of a code that is gone fails. -/
def LoginDb.updateCode (copy new : CliLoginCode) : Except LoginFailure LoginDb :=
  if db.codes.any (·.id = copy.id) then .ok (db.withCode copy new)
  else .error .staleDataError

/-- `_ensure_cli_code_pending`. What it writes to an expired code is not committed. -/
def ensureCliCodePending (code : CliLoginCode) (now : Instant) : Except LoginFailure Unit := do
  reject (code.expiresAt ≤ now) <|
    .apiError "AUTH_TOKEN_EXPIRED" "CLI login code has expired." 401
  reject (code.status ≠ .pending) <|
    .apiError "COMMON_CONFLICT" "CLI login code is not pending." 409

def CliLoginCode.approvedBy (code : CliLoginCode) (userId : Uuid) : CliLoginCode :=
  { code with status := .approved, approvedUserId := some userId }

def CliLoginCode.expired (code : CliLoginCode) : CliLoginCode := { code with status := .expired }

/-- `approve_cli_login`. -/
def approveCliLogin (userId : Uuid) (userCode : Text) :
    Except LoginFailure (LoginDb × CliLoginCode) :=
  match (seen 0).codes.find? (·.userCode = userCode) with
  | none => .error (.apiError "COMMON_NOT_FOUND" "CLI login code was not found." 404)
  | some code => do
    ensureCliCodePending code (seen 1).clock
    reject (db.identity.getUser userId = none) .integrityError
    let approved := code.approvedBy userId
    let after ← db.updateCode code approved
    .ok (after, approved)

/-- A token and the lifetime that is told with it. -/
structure TokenIssue where
  token : Identity.AuthToken
  expiresIn : ℕ

def notRecoverable (message : String) : LoginFailure := .apiError "UNKNOWN_RESULT" message 503

/-- `_recover_cli_login_completion`, whose first statement is the `i`-th of its caller. -/
def recoverCliLoginCompletion (i : ℕ) (code : CliLoginCode) : Except LoginFailure TokenIssue :=
  let lost := notRecoverable "CLI login completion cannot be recovered."
  match code.completionRequestId, code.receipt with
  | some _, some receipt => do
    reject (receipt.expiresAt ≤ (seen i).clock) lost
    match lookup Identity.AuthToken.id (seen (i + 1)).tokens receipt.accessToken with
    | none => .error (notRecoverable "CLI login completion token is no longer recoverable.")
    | some token => do
      reject (token.tokenType ≠ .user ∨ token.status ≠ .active ∨
        token.expiresAt ≤ (seen (i + 1)).clock) <|
        notRecoverable "CLI login completion token is no longer recoverable."
      .ok ⟨token, receipt.expiresIn⟩
  | _, _ => .error lost

def codeExpired : LoginFailure :=
  .apiError "AUTH_TOKEN_EXPIRED" "CLI login code has expired." 401

/-- The code once a token is issued for it. -/
def CliLoginCode.consumedBy (code : CliLoginCode) (token : Identity.AuthToken) (expiresIn : ℕ) :
    CliLoginCode :=
  { code with
    status := .consumed
    receipt := if code.completionRequestId.isSome then
      some ⟨token.id, expiresIn, token.expiresAt⟩ else code.receipt }

/-- The part of `complete_cli_login` for a code that is neither consumed nor expired. -/
def consumeCliLogin (code : CliLoginCode) : Except LoginFailure (LoginDb × TokenIssue) := do
  reject (code.status = .pending) <|
    .apiError "COMMON_BAD_REQUEST" "CLI login is not approved." 400
  let unusable := LoginFailure.apiError "COMMON_CONFLICT" "CLI login code is not usable." 409
  reject (code.status ≠ .approved) unusable
  match code.approvedUserId with
  | none => .error unusable
  | some userId => do
    reject ((seen 1).identity.getUser userId = none) <|
      .apiError "COMMON_NOT_FOUND" "User was not found." 404
    reject (db.identity.getUser userId = none) .integrityError
    let token := issuedToken settings.identity db.nextId userId none .user (seen 2).clock
    let expiresIn := settings.identity.accessTokenTtlSeconds
    .ok ((db.issue 1 token).setCode (code.consumedBy token expiresIn), ⟨token, expiresIn⟩)

structure CompleteCliLogin where
  deviceCode : Uuid
  completionRequestId : Option Uuid

/-- `complete_cli_login`, with the state it leaves when it fails. -/
def completeCliLogin (r : CompleteCliLogin) : LoginDb × Except LoginFailure TokenIssue :=
  match lookup CliLoginCode.deviceCode db.codes r.deviceCode with
  | none => (db, .error (.apiError "COMMON_NOT_FOUND" "CLI login code was not found." 404))
  | some code =>
    if code.completionRequestId ≠ r.completionRequestId then
      (db, .error (.apiError "AUTH_CLI_COMPLETION_KEY_MISMATCH"
        "The CLI completion key does not match the original request." 409))
    else if code.status = .consumed then (db, recoverCliLoginCompletion seen 0 code)
    else if code.expiresAt ≤ (seen 0).clock then
      (db.setCode code.expired, .error codeExpired)
    else match consumeCliLogin settings seen db code with
      | .ok (after, issue) => (after, .ok issue)
      | .error e => (db, .error e)

/-- `recover_cli_login`, with the state it leaves when it fails. -/
def recoverCliLogin (key : Uuid) : LoginDb × Except LoginFailure TokenIssue :=
  match (seen 0).codeByKey key with
  | none => (db, .error (.apiError "AUTH_CLI_COMPLETION_NOT_FOUND"
      "CLI login completion was not found." 404))
  | some code =>
    if code.status = .consumed then (db, recoverCliLoginCompletion seen 2 code)
    else if code.expiresAt ≤ (seen 1).clock then
      match db.updateCode code code.expired with
      | .ok after => (after, .error codeExpired)
      | .error e => (db, .error e)
    else (db, .error (.apiError "COMMON_BAD_REQUEST" "CLI login is not approved." 400))

/-! ### Login sessions -/

/-- `_unauthorized`. -/
def unauthorized : LoginFailure :=
  .apiError "AUTH_CLI_SESSION_INVALID" "CLI login session is invalid or expired; log in again." 401

/-- `_remaining`: the whole seconds until `value`. -/
def remaining (value now : Instant) : ℤ := (value - now).tdiv 1000000

/-- `_validate_token`, of a locked token and the copy of its user. -/
def validateToken (at_ : LoginDb) (token : Option Identity.AuthToken) :
    Except LoginFailure Identity.AuthToken :=
  match token with
  | none => .error unauthorized
  | some token => do
    reject (token.status ≠ .active ∨ token.tokenType ≠ .user) unauthorized
    reject (((at_.identity.getUser token.userId).filter (·.status = .active)).isNone) unauthorized
    .ok token

structure CliSessionTokens where
  login : CliLoginSession
  accessToken : Identity.AuthToken
  expiresIn : ℤ
  refreshExpiresIn : ℤ

/-- `_rotate`, whose first look at the clock is the `i`-th of its caller. The new access token
is `id`, the new refresh token the identifier after it. -/
def rotate (i : ℕ) (id : Uuid) (login : CliLoginSession) (previous : Identity.AuthToken) :
    Except LoginFailure CliSessionTokens := do
  let left := remaining login.expiresAt (seen i).clock
  reject (left ≤ 0) unauthorized
  let expiresIn := min (settings.identity.accessTokenTtlSeconds : ℤ) left
  let token : Identity.AuthToken := {
    id := id
    userId := previous.userId
    userDeviceId := none
    cliSessionId := some login.id
    tokenType := .user
    status := .active
    expiresAt := (seen (i + 1)).clock + 1000000 * expiresIn }
  .ok ⟨{ login with accessTokenId := id, refreshToken := id + 1 }, token, expiresIn, left⟩

/-- `create` of `CliLoginSessionService`. -/
def createCliSession (tokenId : Uuid) : Except LoginFailure (LoginDb × CliSessionTokens) := do
  let _ ← resolveToken (seen 0) tokenId
  let locked ← validateToken (seen 1) (lookup Identity.AuthToken.id db.tokens tokenId)
  reject (remaining locked.expiresAt (seen 2).clock ≤ 0) unauthorized
  reject locked.cliSessionId.isSome unauthorized
  let login : CliLoginSession := ⟨db.nextId, locked.userId, locked.id, db.nextId + 1,
    (seen 3).clock + seconds settings.cliSessionTtlSeconds⟩
  let result ← rotate settings seen 4 (db.nextId + 2) login locked
  let base : LoginDb := { db with
    identity := { db.identity with tokens := db.tokens.map fun t =>
      if t.id = locked.id then { t with cliSessionId := some login.id } else t }
    sessions := db.sessions ++ [result.login] }
  .ok ((base.revokeTokens [locked.id]).issue 4 result.accessToken, result)

/-- `refresh` of `CliLoginSessionService`. -/
def refreshCliSession (refreshToken : Uuid) :
    Except LoginFailure (LoginDb × CliSessionTokens) :=
  match lookup CliLoginSession.refreshToken db.sessions refreshToken with
  | none => .error unauthorized
  | some login => do
    reject (remaining login.expiresAt (seen 0).clock ≤ 0) unauthorized
    let token ← validateToken (seen 1) (lookup Identity.AuthToken.id db.tokens login.accessTokenId)
    reject (token.userId ≠ login.userId) unauthorized
    let result ← rotate settings seen 2 db.nextId login token
    .ok (((db.revokeTokens [token.id]).issue 2 result.accessToken).setSession result.login, result)

/-- `revoke` of `CliLoginSessionService`, of the session that the copy of a token names. -/
def revokeCliSession (copy : Identity.AuthToken) : LoginDb :=
  match copy.cliSessionId.bind (lookup CliLoginSession.id db.sessions) with
  | none => db
  | some login => (db.setSession { login with expiresAt := (seen 1).clock }).revokeTokens
      [login.accessTokenId]

/-- `logout`. -/
def logout (tokenId : Uuid) : Except LoginFailure (LoginDb × Identity.AuthToken) := do
  let copy ← resolveToken (seen 0) tokenId
  .ok ((revokeCliSession seen db copy).revokeTokens [tokenId], copy)

/-- `login`, once the password is checked. -/
def login (userId : Uuid) : Except LoginFailure (LoginDb × TokenIssue) := do
  reject (db.identity.getUser userId = none) .integrityError
  let token := issuedToken settings.identity db.nextId userId none .user (seen 0).clock
  .ok (db.issue 1 token, ⟨token, settings.identity.accessTokenTtlSeconds⟩)

end AgentRemote.Logins
