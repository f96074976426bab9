import AgentRemote.Logins.Codes

/-!
# What a transaction does to tokens and sessions

A transaction exchanges a token for a session, refreshes a session, logs out, or leaves the
sessions as they are. Whatever else it does to the tokens, none becomes active again.
-/

namespace AgentRemote.Logins
open Library Identity PortForwards

/-- What every transaction keeps of a token. -/
structure TokenKept (t t' : Identity.AuthToken) : Prop where
  id : t'.id = t.id
  cliSessionId : t'.cliSessionId = t.cliSessionId
  expiresAt : t'.expiresAt = t.expiresAt
  active : t'.status = .active → t.status = .active

lemma TokenKept.refl (t : Identity.AuthToken) : TokenKept t t := ⟨rfl, rfl, rfl, fun h => h⟩

/-- The tokens after a transaction that only revokes and deletes tokens, and issues at most one
that belongs to no session. -/
structure TokensKept (nextId nextId' : Uuid) (tokens tokens' : List Identity.AuthToken) : Prop where
  rows : ∃ g : Identity.AuthToken → Option Identity.AuthToken,
    ∃ issued : Option Identity.AuthToken, tokens' = tokens.filterMap g ++ issued.toList ∧
      (∀ t ∈ tokens, ∀ t' ∈ g t, TokenKept t t') ∧
      ∀ t ∈ issued, nextId ≤ t.id ∧ t.id < nextId' ∧ t.cliSessionId = none

section

variable {tokens tokens' : List Identity.AuthToken} {n n' : Uuid} {ids : List Uuid}

lemma tokensKept_self : TokensKept n n' tokens tokens :=
  ⟨some, none, by simp, fun t _ t' ht' => Option.some.inj ht' ▸ .refl t, nofun⟩

/-- The tokens once those under `ids` are revoked. -/
def revokedTokens (ids : List Uuid) (tokens : List Identity.AuthToken) : List Identity.AuthToken :=
  tokens.map fun t => if t.id ∈ ids then { t with status := .revoked } else t

lemma revoked_kept (t : Identity.AuthToken) :
    TokenKept t (if t.id ∈ ids then { t with status := .revoked } else t) := by
  split_ifs
  · exact ⟨rfl, rfl, rfl, nofun⟩
  · exact .refl t

lemma tokensKept_revoked : TokensKept n n' tokens (revokedTokens ids tokens) := by
  refine ⟨fun t => some (if t.id ∈ ids then { t with status := .revoked } else t), none, ?_,
    fun t _ t' ht' => Option.some.inj ht' ▸ revoked_kept t, nofun⟩
  rw [List.filterMap_eq_map', Option.toList_none, List.append_nil]
  rfl

lemma tokensKept_issued {token : Identity.AuthToken} (hle : n ≤ token.id) (hlt : token.id < n')
    (hcli : token.cliSessionId = none) :
    TokensKept n n' tokens (revokedTokens ids tokens ++ [token]) := by
  refine ⟨fun t => some (if t.id ∈ ids then { t with status := .revoked } else t), some token, ?_,
    fun t _ t' ht' => Option.some.inj ht' ▸ revoked_kept t, fun t ht => ?_⟩
  · rw [List.filterMap_eq_map']
    rfl
  · obtain rfl := Option.some.inj ht
    exact ⟨hle, hlt, hcli⟩

lemma revokedTokens_nil : revokedTokens [] tokens = tokens := by
  simp [revokedTokens]

lemma tokensKept_added {token : Identity.AuthToken} (hid : token.id = n)
    (hcli : token.cliSessionId = none) : TokensKept n (n + 1) tokens (tokens ++ [token]) := by
  have hlt : token.id < n + 1 := hid ▸ Nat.lt_succ_self _
  have hkept : TokensKept n (n + 1) tokens (revokedTokens [] tokens ++ [token]) :=
    tokensKept_issued hid.ge hlt hcli
  rwa [revokedTokens_nil] at hkept

lemma tokensKept_filter (p : Identity.AuthToken → Bool) :
    TokensKept n n' tokens (tokens.filter p) := by
  refine ⟨Option.guard p, none, ?_, fun t _ t' ht' => ?_, nofun⟩
  · rw [← List.filterMap_eq_filter]
    simp
  · obtain ⟨rfl, -⟩ := Option.guard_eq_some_iff.mp ht'
    exact .refl _

end

section

variable {settings : IdentitySettings} {forwardSettings : PortForwardSettings}
  {seen : ℕ → IdentityDb} {db db' : IdentityDb} {t : IdentityTx}

variable (settings seen db) in
lemma registered_tokens (r : RegisterDevice) (device : PortForwards.UserDevice) :
    (registered settings seen db r device).tokens =
      revokedTokens (replacedTokens seen r device) db.tokens ++
        [issuedToken settings (db.nextId + 3) r.userId (some device.id) .device (seen 6).clock] := by
  rw [registered, withPeer_eq]
  simp only [withSshKey, withDevice]
  split <;> split_ifs <;> rfl

lemma refreshToken_tokens {id : Uuid} {token : Identity.AuthToken}
    (h : refreshToken settings seen db id = .ok (db', token)) : token.cliSessionId = none := by
  unfold refreshToken at h
  split at h
  · cases h
  · simp only [reject_bind_eq_ok] at h
    obtain ⟨-, rfl⟩ := Prod.mk.inj (Except.ok.inj h.2.2.2)
    rfl

/-- The transactions on devices keep the tokens of sessions, or revoke them. -/
lemma tokensKept_of_commit : TokensKept db.nextId
    (t.commit settings forwardSettings seen db).1.nextId db.tokens
    (t.commit settings forwardSettings seen db).1.tokens := by
  cases t with
  | registerDevice r =>
    simp only [IdentityTx.commit]
    cases hop : registerDevice settings seen db r with
    | error e => exact tokensKept_self
    | ok x =>
      rcases registerDevice_eq_ok hop with ⟨-, hdb'⟩ | ⟨-, -, hdb'⟩
      · rw [IdentityDb.settle, hdb']
        exact tokensKept_self
      · have hnext := (registered_forwarding settings seen db r x.2.device).2.2
        rw [IdentityDb.settle, hdb', registered_tokens, hnext]
        refine tokensKept_issued (Nat.le_add_right _ 3) ?_ rfl
        exact Nat.add_lt_add_left (by decide : 3 < 4) _
  | rotateDeviceToken actor deviceId =>
    simp only [IdentityTx.commit]
    cases hop : rotateDeviceToken settings seen db actor deviceId with
    | error e => exact tokensKept_self
    | ok x =>
      obtain ⟨tokens, userId, now, htoken, hdb'⟩ := rotateDeviceToken_eq_ok hop
      rw [IdentityDb.settle, hdb', htoken]
      exact tokensKept_issued le_rfl (Nat.lt_succ_self _) rfl
  | refreshToken tokenId =>
    simp only [IdentityTx.commit]
    cases hop : refreshToken settings seen db tokenId with
    | error e => exact tokensKept_self
    | ok x =>
      obtain ⟨old, -, -, -, hid, hdb'⟩ := refreshToken_eq_ok hop
      rw [IdentityDb.settle, hdb']
      refine tokensKept_issued hid.ge ?_ (refreshToken_tokens hop)
      rw [hid]
      exact Nat.lt_succ_self _
  | enrollWireguardPeer r =>
    simp only [IdentityTx.commit]
    cases hop : enrollWireguardPeer settings seen db r with
    | error e => exact tokensKept_self
    | ok x =>
      rcases enrollWireguardPeer_eq_ok hop with ⟨-, -, hdb'⟩ | ⟨_, -, -, -, -, hdb'⟩
      · rw [IdentityDb.settle, hdb']
        exact tokensKept_self
      · rw [IdentityDb.settle, hdb']
        exact tokensKept_self
  | revokeDevice actor deviceId =>
    simp only [IdentityTx.commit]
    cases hop : revokeDevice seen db actor deviceId with
    | error e => exact tokensKept_self
    | ok x =>
      rw [IdentityDb.settle, revokeDevice_eq_ok hop]
      exact tokensKept_revoked
  | deleteDevice actor deviceId hasWorkspaces hasHistory =>
    simp only [IdentityTx.commit]
    cases hop : deleteDevice seen db actor deviceId hasWorkspaces hasHistory with
    | error e => exact tokensKept_self
    | ok x =>
      rw [IdentityDb.settle, deleteDevice_eq_ok hop]
      exact tokensKept_filter _
  | admitAttachment r =>
    simp only [IdentityTx.commit]
    cases hop : admitAttachment seen db r with
    | error e => exact tokensKept_self
    | ok x =>
      obtain ⟨-, -, -, sessionId, hdb'⟩ := admitAttachment_eq_ok hop
      rw [IdentityDb.settle, hdb']
      exact tokensKept_self
  | forward t => exact tokensKept_self

end

/-! ### Transactions on logins -/

/-- The tables once a token is exchanged for a session. -/
def exchangedFor (db : LoginDb) (tokenId : Uuid) (result : CliSessionTokens) : LoginDb :=
  (({ db.exchanged tokenId db.nextId with
    sessions := db.sessions ++ [result.login] } : LoginDb).revokeTokens [tokenId]).issue 4
      result.accessToken

/-- The tables once a session is refreshed. -/
def refreshedTo (db : LoginDb) (login : CliLoginSession) (result : CliSessionTokens) : LoginDb :=
  ((db.revokeTokens [login.accessTokenId]).issue 2 result.accessToken).setSession result.login

/-- What a transaction makes of the tokens and sessions. -/
inductive SessionsMove (settings : LoginSettings) (t : LoginTx) (seen : ℕ → LoginDb)
    (db db' : LoginDb) (a : LoginAnswer) : Prop
  | kept : (∀ result, a ≠ .rotated result) → (∀ token, a ≠ .loggedOut token) →
    db'.sessions = db.sessions → TokensKept db.nextId db'.nextId db.tokens db'.tokens →
    SessionsMove settings t seen db db' a
  | exchanged (tokenId : Uuid) (locked : Identity.AuthToken) (result : CliSessionTokens) :
    t = .createCliSession tokenId → a = .rotated result → locked ∈ db.tokens →
    locked.id = tokenId → locked.status = .active → locked.cliSessionId = none →
    Rotation settings seen 4 (db.nextId + 2) ⟨db.nextId, locked.userId, tokenId, db.nextId + 1,
      (seen 3).clock + seconds settings.cliSessionTtlSeconds⟩ result →
    db' = exchangedFor db tokenId result → SessionsMove settings t seen db db' a
  | refreshed (login : CliLoginSession) (token : Identity.AuthToken) (result : CliSessionTokens) :
    t = .refreshCliSession login.refreshToken → a = .rotated result → login ∈ db.sessions →
    token ∈ db.tokens → token.id = login.accessTokenId → token.status = .active →
    Rotation settings seen 2 db.nextId login result → db' = refreshedTo db login result →
    SessionsMove settings t seen db db' a
  | loggedOut (tokenId : Uuid) (copy : Identity.AuthToken) : t = .logout tokenId →
    a = .loggedOut copy → resolveToken (seen 0) tokenId = .ok copy →
    db' = (revokeCliSession seen db copy).revokeTokens [tokenId] →
    SessionsMove settings t seen db db' a

section

variable {settings : LoginSettings} {forwardSettings : PortForwardSettings}
  {seen : ℕ → LoginDb} {db db' : LoginDb} {t : LoginTx} {a : LoginAnswer}

lemma sessionsMove_same (h : ∀ result, a ≠ .rotated result) (h' : ∀ token, a ≠ .loggedOut token)
    (hsessions : db'.sessions = db.sessions) (htokens : db'.tokens = db.tokens) :
    SessionsMove settings t seen db db' a :=
  .kept h h' hsessions (htokens ▸ tokensKept_self)

lemma sessionsMove_refused {β : Type} {f : β → LoginAnswer} {e : LoginFailure} :
    SessionsMove settings t seen db (db.settle f (.error e)).1 (db.settle f (.error e)).2 :=
  sessionsMove_same (fun _ h => by cases h) (fun _ h => by cases h) rfl rfl

lemma answer_ne {x : Except LoginFailure TokenIssue} :
    (∀ result, answer .issued x ≠ .rotated result) ∧ ∀ token, answer .issued x ≠ .loggedOut token := by
  cases x <;> exact ⟨fun _ h => (by cases h), fun _ h => (by cases h)⟩

variable (settings forwardSettings seen db t) in
lemma sessionsMove_of_commit : SessionsMove settings t seen db
    (t.commit settings forwardSettings seen db).1 (t.commit settings forwardSettings seen db).2 := by
  cases t with
  | identity t => exact .kept (by simp [LoginTx.commit]) (by simp [LoginTx.commit]) rfl tokensKept_of_commit
  | login userId =>
    simp only [LoginTx.commit]
    cases hop : Logins.login settings seen db userId with
    | error e => exact sessionsMove_refused
    | ok x =>
      obtain ⟨hid, hcli, hdb'⟩ := login_eq_ok hop
      rw [LoginDb.settle, hdb']
      exact .kept (by simp) (by simp) rfl (tokensKept_added hid hcli)
  | startCliLogin r =>
    simp only [LoginTx.commit]
    cases hop : Logins.startCliLogin settings seen db r with
    | error e => exact sessionsMove_refused
    | ok x =>
      obtain ⟨-, -, -, -, hdb'⟩ := startCliLogin_eq_ok hop
      rw [LoginDb.settle, hdb']
      exact sessionsMove_same (by simp) (by simp) rfl rfl
  | approveCliLogin userId userCode =>
    simp only [LoginTx.commit]
    cases hop : Logins.approveCliLogin seen db userId userCode with
    | error e => exact sessionsMove_refused
    | ok x =>
      obtain ⟨code, -, hdb'⟩ := approveCliLogin_eq_ok hop
      rw [LoginDb.settle, hdb']
      exact sessionsMove_same (by simp) (by simp) rfl rfl
  | completeCliLogin r =>
    refine completeCliLogin_cases (P := fun x =>
        SessionsMove settings (.completeCliLogin r) seen db x.1 (answer .issued x.2))
      (fun _ => sessionsMove_same answer_ne.1 answer_ne.2 rfl rfl)
      (fun _ _ _ => sessionsMove_same answer_ne.1 answer_ne.2 rfl rfl)
      (fun _ _ _ _ => sessionsMove_same answer_ne.1 answer_ne.2 rfl rfl) fun code _ _ issue hid hcli => ?_
    exact .kept answer_ne.1 answer_ne.2 rfl (tokensKept_added hid hcli)
  | recoverCliLogin key =>
    exact recoverCliLogin_cases (P := fun x =>
        SessionsMove settings (.recoverCliLogin key) seen db x.1 (answer .issued x.2))
      (fun _ => sessionsMove_same answer_ne.1 answer_ne.2 rfl rfl)
      (fun _ _ _ => sessionsMove_same answer_ne.1 answer_ne.2 rfl rfl)
      fun _ _ _ => sessionsMove_same answer_ne.1 answer_ne.2 rfl rfl
  | createCliSession tokenId =>
    simp only [LoginTx.commit]
    cases hop : Logins.createCliSession settings seen db tokenId with
    | error e => exact sessionsMove_refused
    | ok x =>
      obtain ⟨locked, hlocked, hid, hactive, hcli, hrotation, hdb'⟩ := createCliSession_eq_ok hop
      exact .exchanged tokenId locked x.2 rfl rfl hlocked hid hactive hcli hrotation hdb'
  | refreshCliSession refreshToken =>
    simp only [LoginTx.commit]
    cases hop : Logins.refreshCliSession settings seen db refreshToken with
    | error e => exact sessionsMove_refused
    | ok x =>
      obtain ⟨login, hlogin, rfl, token, htoken, hid, hactive, hrotation, hdb'⟩ :=
        refreshCliSession_eq_ok hop
      exact .refreshed login token x.2 rfl rfl hlogin htoken hid hactive hrotation hdb'
  | logout tokenId =>
    simp only [LoginTx.commit]
    cases hop : Logins.logout seen db tokenId with
    | error e => exact sessionsMove_refused
    | ok x =>
      obtain ⟨hcopy, hdb'⟩ := logout_eq_ok hop
      exact .loggedOut tokenId x.2 rfl rfl hcopy hdb'

end

end AgentRemote.Logins
