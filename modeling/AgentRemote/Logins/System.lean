import AgentRemote.Logins.Service

/-!
# The logins of a database

The operations on device codes and on login sessions as transactions of one database, next to
those on devices and their tokens.
-/

namespace AgentRemote.Logins
open Library Identity PortForwards

inductive LoginTx where
  | identity (t : IdentityTx)
  | login (userId : Uuid)
  | startCliLogin (request : StartCliLogin)
  | approveCliLogin (userId : Uuid) (userCode : Text)
  | completeCliLogin (request : CompleteCliLogin)
  | recoverCliLogin (key : Uuid)
  | createCliSession (tokenId : Uuid)
  | refreshCliSession (refreshToken : Uuid)
  | logout (tokenId : Uuid)

inductive LoginAnswer where
  | failed (failure : LoginFailure)
  | identity (answer : IdentityAnswer)
  | started (code : CliLoginCode)
  | approved (code : CliLoginCode)
  | issued (issue : TokenIssue)
  | rotated (tokens : CliSessionTokens)
  | loggedOut (token : Identity.AuthToken)

/-- The answer of an operation. -/
def answer {α : Type} (f : α → LoginAnswer) : Except LoginFailure α → LoginAnswer
  | .ok a => f a
  | .error e => .failed e

/-- The state that an operation leaves, and its answer. -/
def LoginDb.settle {α : Type} (db : LoginDb) (f : α → LoginAnswer) :
    Except LoginFailure (LoginDb × α) → LoginDb × LoginAnswer
  | .ok (after, a) => (after, f a)
  | .error e => (db, .failed e)

def LoginTx.commit (settings : LoginSettings) (forwardSettings : PortForwardSettings)
    (t : LoginTx) (seen : ℕ → LoginDb) (db : LoginDb) : LoginDb × LoginAnswer :=
  match t with
  | .identity t =>
    let r := t.commit settings.identity forwardSettings (fun i => (seen i).identity) db.identity
    ({ db with identity := r.1 }, .identity r.2)
  | .login userId => db.settle .issued (Logins.login settings seen db userId)
  | .startCliLogin r => db.settle .started (Logins.startCliLogin settings seen db r)
  | .approveCliLogin userId userCode =>
    db.settle .approved (Logins.approveCliLogin seen db userId userCode)
  | .completeCliLogin r =>
    let x := Logins.completeCliLogin settings seen db r
    (x.1, answer .issued x.2)
  | .recoverCliLogin key =>
    let x := Logins.recoverCliLogin seen db key
    (x.1, answer .issued x.2)
  | .createCliSession tokenId =>
    db.settle .rotated (Logins.createCliSession settings seen db tokenId)
  | .refreshCliSession refreshToken =>
    db.settle .rotated (Logins.refreshCliSession settings seen db refreshToken)
  | .logout tokenId => db.settle .loggedOut (Logins.logout seen db tokenId)

/-- The transactions on the logins of a server. -/
def logins (settings : LoginSettings) (forwardSettings : PortForwardSettings)
    (world : ForwardWorld) (clock : Instant) : Transactions LoginDb LoginTx LoginAnswer :=
  ⟨⟨emptyIdentityDb world clock, [], []⟩, LoginTx.commit settings forwardSettings⟩

/-! ### What an operation leaves -/

section

variable {settings : LoginSettings} {forwardSettings : PortForwardSettings}
  {seen : ℕ → LoginDb} {db db' : LoginDb}

@[simp] lemma issue_codes (n : ℕ) (token : Identity.AuthToken) :
    (db.issue n token).codes = db.codes := rfl

@[simp] lemma issue_nextId (n : ℕ) (token : Identity.AuthToken) :
    (db.issue n token).nextId = db.nextId + n := rfl

lemma login_eq_ok {userId : Uuid} {issue : TokenIssue}
    (h : Logins.login settings seen db userId = .ok (db', issue)) :
    issue.token.id = db.nextId ∧ issue.token.cliSessionId = none ∧ db' = db.issue 1 issue.token := by
  unfold Logins.login at h
  rw [reject_bind_eq_ok] at h
  obtain ⟨rfl, rfl⟩ := Prod.mk.inj (Except.ok.inj h.2)
  exact ⟨rfl, rfl, rfl⟩

/-- What a successful start does. -/
lemma startCliLogin_eq_ok {r : StartCliLogin} {code : CliLoginCode}
    (h : Logins.startCliLogin settings seen db r = .ok (db', code)) :
    code.id = db.nextId ∧ code.status = .pending ∧ code.approvedUserId = none ∧
      code.receipt = none ∧
      db' = { db with identity := db.identity.draw 2, codes := db.codes ++ [code] } := by
  unfold Logins.startCliLogin at h
  simp only [reject_bind_eq_ok] at h
  obtain ⟨rfl, rfl⟩ := Prod.mk.inj (Except.ok.inj h.2.2)
  exact ⟨rfl, rfl, rfl, rfl, rfl⟩

lemma updateCode_eq_ok {copy new : CliLoginCode} (h : db.updateCode copy new = .ok db') :
    db' = db.withCode copy new := by
  unfold LoginDb.updateCode at h
  split_ifs at h
  exact (Except.ok.inj h).symm

lemma updateCode_of_mem {copy new row : CliLoginCode} (hrow : row ∈ db.codes)
    (hid : row.id = copy.id) :
    db.updateCode copy new = .ok (db.withCode copy new) :=
  if_pos (List.any_eq_true.mpr ⟨row, hrow, by simpa using hid⟩)

/-- The copy that an approval changes. -/
structure Approves (seen : ℕ → LoginDb) (db : LoginDb) (userId : Uuid) (userCode : Text)
    (code : CliLoginCode) : Prop where
  found : (seen 0).codes.find? (·.userCode = userCode) = some code
  unexpired : (seen 1).clock < code.expiresAt
  pending : code.status = .pending
  user : db.identity.getUser userId ≠ none

lemma approveCliLogin_eq_ok {userId : Uuid} {userCode : Text} {approved : CliLoginCode}
    (h : Logins.approveCliLogin seen db userId userCode = .ok (db', approved)) :
    ∃ code, Approves seen db userId userCode code ∧
      db' = db.withCode code (code.approvedBy userId) := by
  unfold Logins.approveCliLogin at h
  split at h
  · cases h
  · rename_i code hfound
    obtain ⟨_, hpending, h⟩ := bind_eq_ok.mp h
    unfold ensureCliCodePending at hpending
    rw [reject_bind_eq_ok, reject_eq_ok] at hpending
    rw [reject_bind_eq_ok] at h
    obtain ⟨huser, h⟩ := h
    obtain ⟨after, hafter, h⟩ := bind_eq_ok.mp h
    obtain ⟨rfl, -⟩ := Prod.mk.inj (Except.ok.inj h)
    exact ⟨code, ⟨hfound, not_le.mp hpending.1, not_not.mp hpending.2, huser⟩,
      updateCode_eq_ok hafter⟩

lemma approveCliLogin_of {userId : Uuid} {userCode : Text} {code row : CliLoginCode}
    (h : Approves seen db userId userCode code) (hrow : row ∈ db.codes) (hid : row.id = code.id) :
    Logins.approveCliLogin seen db userId userCode =
      .ok (db.withCode code (code.approvedBy userId), code.approvedBy userId) := by
  unfold Logins.approveCliLogin ensureCliCodePending
  rw [h.found]
  dsimp only
  rw [reject_of_not (not_le.mpr h.unexpired), ok_bind, reject_of_not (not_not.mpr h.pending),
    ok_bind, reject_of_not h.user, ok_bind, updateCode_of_mem hrow hid]
  rfl

lemma consumeCliLogin_eq_ok {code : CliLoginCode} {issue : TokenIssue}
    (h : consumeCliLogin settings seen db code = .ok (db', issue)) :
    code.status = .approved ∧ issue.token.id = db.nextId ∧ issue.token.cliSessionId = none ∧
      db' = (db.issue 1 issue.token).setCode (code.consumedBy issue.token issue.expiresIn) := by
  unfold consumeCliLogin at h
  simp only [reject_bind_eq_ok] at h
  obtain ⟨-, hstatus, h⟩ := h
  split at h
  · cases h
  · simp only [reject_bind_eq_ok] at h
    obtain ⟨rfl, rfl⟩ := Prod.mk.inj (Except.ok.inj h.2.2)
    exact ⟨not_not.mp hstatus, rfl, rfl, rfl⟩

/-- The ways `completeCliLogin` ends. -/
lemma completeCliLogin_cases {r : CompleteCliLogin}
    {P : LoginDb × Except LoginFailure TokenIssue → Prop}
    (failed : ∀ e, P (db, .error e))
    (recovered : ∀ code, lookup CliLoginCode.deviceCode db.codes r.deviceCode = some code →
      code.status = .consumed → P (db, recoverCliLoginCompletion seen 0 code))
    (expired : ∀ code, lookup CliLoginCode.deviceCode db.codes r.deviceCode = some code →
      code.status ≠ .consumed → ∀ e, P (db.setCode code.expired, .error e))
    (consumed : ∀ code, lookup CliLoginCode.deviceCode db.codes r.deviceCode = some code →
      code.status ≠ .consumed → ∀ issue : TokenIssue, issue.token.id = db.nextId →
      issue.token.cliSessionId = none →
      P ((db.issue 1 issue.token).setCode (code.consumedBy issue.token issue.expiresIn),
        .ok issue)) :
    P (Logins.completeCliLogin settings seen db r) := by
  unfold Logins.completeCliLogin
  split
  · exact failed _
  · rename_i code hcode
    split_ifs with hkey hconsumed hexpired
    · exact failed _
    · exact recovered code hcode hconsumed
    · exact expired code hcode hconsumed _
    · split
      · rename_i after issue hok
        obtain ⟨-, hid, hcli, rfl⟩ := consumeCliLogin_eq_ok hok
        exact consumed code hcode hconsumed issue hid hcli
      · exact failed _

/-- The copy that a recovery lets expire. -/
structure Expires (seen : ℕ → LoginDb) (key : Uuid) (code : CliLoginCode) : Prop where
  found : (seen 0).codeByKey key = some code
  unconsumed : code.status ≠ .consumed
  overdue : code.expiresAt ≤ (seen 1).clock

/-- The ways `recoverCliLogin` ends. -/
lemma recoverCliLogin_cases {key : Uuid}
    {P : LoginDb × Except LoginFailure TokenIssue → Prop}
    (failed : ∀ e, P (db, .error e))
    (recovered : ∀ code, (seen 0).codeByKey key = some code → code.status = .consumed →
      P (db, recoverCliLoginCompletion seen 2 code))
    (expired : ∀ code, Expires seen key code → ∀ e, P (db.withCode code code.expired, .error e)) :
    P (Logins.recoverCliLogin seen db key) := by
  unfold Logins.recoverCliLogin
  split
  · exact failed _
  · rename_i code hcode
    split_ifs with hconsumed hexpired
    · exact recovered code hcode hconsumed
    · split
      · rename_i after hafter
        rw [updateCode_eq_ok hafter]
        exact expired code ⟨hcode, hconsumed, hexpired⟩ _
      · exact failed _
    · exact failed _

lemma recoverCliLogin_of {key : Uuid} {code row : CliLoginCode} (h : Expires seen key code)
    (hrow : row ∈ db.codes) (hid : row.id = code.id) :
    (Logins.recoverCliLogin seen db key).1 = db.withCode code code.expired := by
  unfold Logins.recoverCliLogin
  rw [h.found]
  dsimp only
  rw [if_neg h.unconsumed, if_pos h.overdue, updateCode_of_mem hrow hid]

/-- A recovered token is the one of the receipt. -/
lemma recoverCliLoginCompletion_eq_ok {i : ℕ} {code : CliLoginCode} {issue : TokenIssue}
    (h : recoverCliLoginCompletion seen i code = .ok issue) :
    ∃ receipt ∈ code.receipt, issue.token.id = receipt.accessToken := by
  unfold recoverCliLoginCompletion at h
  dsimp only at h
  split at h
  · rename_i receipt _ hreceipt
    rw [reject_bind_eq_ok] at h
    obtain ⟨-, h⟩ := h
    split at h
    · cases h
    · rename_i token htoken
      rw [reject_bind_eq_ok] at h
      obtain rfl := Except.ok.inj h.2
      exact ⟨receipt, hreceipt, key_of_lookup htoken⟩
  · cases h

/-- The lifetime of a new access token, of a session that ends at `deadline`. -/
def LoginSettings.lifetime (settings : LoginSettings) (deadline now : Instant) : ℤ :=
  1000000 * min (settings.identity.accessTokenTtlSeconds : ℤ) (remaining deadline now)

/-- What a rotation replaces. -/
structure Rotation (settings : LoginSettings) (seen : ℕ → LoginDb) (i : ℕ) (id : Uuid)
    (login : CliLoginSession) (result : CliSessionTokens) : Prop where
  newLogin : result.login = { login with accessTokenId := id, refreshToken := id + 1 }
  tokenId : result.accessToken.id = id
  cliSessionId : result.accessToken.cliSessionId = some login.id
  status : result.accessToken.status = .active
  expiresAt : result.accessToken.expiresAt =
    (seen (i + 1)).clock + settings.lifetime login.expiresAt (seen i).clock

lemma rotate_eq_ok {i : ℕ} {id : Uuid} {login : CliLoginSession} {previous : Identity.AuthToken}
    {result : CliSessionTokens} (h : rotate settings seen i id login previous = .ok result) :
    Rotation settings seen i id login result := by
  unfold rotate at h
  rw [reject_bind_eq_ok] at h
  obtain rfl := Except.ok.inj h.2
  exact ⟨rfl, rfl, rfl, rfl, rfl⟩

lemma resolveToken_eq_ok {at_ : LoginDb} {id : Uuid} {token : Identity.AuthToken}
    (h : resolveToken at_ id = .ok token) :
    token ∈ at_.tokens ∧ token.id = id ∧ token.status = .active := by
  unfold resolveToken at h
  split at h
  · cases h
  · rename_i found hfound
    simp only [reject_bind_eq_ok] at h
    obtain rfl := Except.ok.inj h.2.2.2
    exact ⟨mem_of_lookup hfound, key_of_lookup hfound, not_not.mp h.1⟩

lemma validateToken_eq_ok {at_ : LoginDb} {token : Option Identity.AuthToken}
    {valid : Identity.AuthToken} (h : validateToken at_ token = .ok valid) :
    token = some valid ∧ valid.status = .active := by
  unfold validateToken at h
  split at h
  · cases h
  · simp only [reject_bind_eq_ok] at h
    obtain rfl := Except.ok.inj h.2.2
    push Not at h
    exact ⟨rfl, h.1.1⟩

/-- The tokens once one of them is exchanged for a session. -/
def LoginDb.exchanged (db : LoginDb) (tokenId loginId : Uuid) : LoginDb :=
  { db with identity := { db.identity with tokens := db.tokens.map fun t =>
      if t.id = tokenId then { t with cliSessionId := some loginId } else t } }

lemma createCliSession_eq_ok {tokenId : Uuid} {result : CliSessionTokens}
    (h : Logins.createCliSession settings seen db tokenId = .ok (db', result)) :
    ∃ locked ∈ db.tokens, locked.id = tokenId ∧ locked.status = .active ∧
      locked.cliSessionId = none ∧
      Rotation settings seen 4 (db.nextId + 2) ⟨db.nextId, locked.userId, tokenId, db.nextId + 1,
        (seen 3).clock + seconds settings.cliSessionTtlSeconds⟩ result ∧
      db' = (({ db.exchanged tokenId db.nextId with
        sessions := db.sessions ++ [result.login] } : LoginDb).revokeTokens [tokenId]).issue 4
          result.accessToken := by
  unfold Logins.createCliSession at h
  obtain ⟨-, -, h⟩ := bind_eq_ok.mp h
  obtain ⟨locked, hlocked, h⟩ := bind_eq_ok.mp h
  simp only [reject_bind_eq_ok] at h
  obtain ⟨-, hcli, h⟩ := h
  obtain ⟨result', hrotate, h⟩ := bind_eq_ok.mp h
  obtain ⟨rfl, rfl⟩ := Prod.mk.inj (Except.ok.inj h)
  obtain ⟨hlookup, hactive⟩ := validateToken_eq_ok hlocked
  obtain rfl := key_of_lookup hlookup
  exact ⟨locked, mem_of_lookup hlookup, rfl, hactive, by simpa using hcli, rotate_eq_ok hrotate, rfl⟩

lemma refreshCliSession_eq_ok {refreshToken : Uuid} {result : CliSessionTokens}
    (h : Logins.refreshCliSession settings seen db refreshToken = .ok (db', result)) :
    ∃ login ∈ db.sessions, login.refreshToken = refreshToken ∧
      ∃ token ∈ db.tokens, token.id = login.accessTokenId ∧ token.status = .active ∧
      Rotation settings seen 2 db.nextId login result ∧
      db' = ((db.revokeTokens [login.accessTokenId]).issue 2 result.accessToken).setSession
        result.login := by
  unfold Logins.refreshCliSession at h
  split at h
  · cases h
  · rename_i login hlogin
    rw [reject_bind_eq_ok] at h
    obtain ⟨token, htoken, h⟩ := bind_eq_ok.mp h.2
    rw [reject_bind_eq_ok] at h
    obtain ⟨result', hrotate, h⟩ := bind_eq_ok.mp h.2
    obtain ⟨rfl, rfl⟩ := Prod.mk.inj (Except.ok.inj h)
    obtain ⟨hlookup, hactive⟩ := validateToken_eq_ok htoken
    have hid := key_of_lookup hlookup
    exact ⟨login, mem_of_lookup hlogin, key_of_lookup hlogin, token, mem_of_lookup hlookup, hid,
      hactive, rotate_eq_ok hrotate, by rw [← hid]⟩

lemma logout_eq_ok {tokenId : Uuid} {copy : Identity.AuthToken}
    (h : Logins.logout seen db tokenId = .ok (db', copy)) :
    resolveToken (seen 0) tokenId = .ok copy ∧
      db' = (revokeCliSession seen db copy).revokeTokens [tokenId] := by
  unfold Logins.logout at h
  obtain ⟨copy', hcopy, h⟩ := bind_eq_ok.mp h
  obtain ⟨rfl, rfl⟩ := Prod.mk.inj (Except.ok.inj h)
  exact ⟨hcopy, rfl⟩

lemma revokeCliSession_codes {copy : Identity.AuthToken} :
    (revokeCliSession seen db copy).codes = db.codes := by
  unfold revokeCliSession
  split <;> rfl

end

end AgentRemote.Logins
