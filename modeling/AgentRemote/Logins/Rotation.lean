import AgentRemote.Logins.Sessions

/-!
# Login sessions over runs

A token that is revoked with its session stays so, a refresh token that was replaced is never
accepted again, and a session keeps its deadline. The first two hold in every run, whatever its
transactions have read.
-/

namespace AgentRemote.Logins
open Library Identity PortForwards

section

variable {settings : LoginSettings} {forwardSettings : PortForwardSettings}
  {seen : ℕ → LoginDb} {db db' : LoginDb} {t : LoginTx} {a : LoginAnswer} {tokenId : Uuid}
  {copy : Identity.AuthToken}

/-! ### Logging out -/

/-- What a logout does to the tables. -/
structure LogsOutOf (seen : ℕ → LoginDb) (db : LoginDb) (tokenId : Uuid)
    (copy : Identity.AuthToken) (db' : LoginDb) (ids : List Uuid) : Prop where
  presented : tokenId ∈ ids
  nextId : db'.nextId = db.nextId
  tokens : db'.tokens = revokedTokens ids db.tokens
  sessions : db'.sessions = db.sessions ∨ ∃ login ∈ db.sessions,
    copy.cliSessionId = some login.id ∧ db'.sessions = replace CliLoginSession.id db.sessions
      { login with expiresAt := (seen 1).clock }
  unnamed : copy.cliSessionId = none → ids = [tokenId]
  named : ∀ loginId ∈ copy.cliSessionId, ∀ login,
    lookup CliLoginSession.id db.sessions loginId = some login → login.accessTokenId ∈ ids ∧
      db'.sessions = replace CliLoginSession.id db.sessions
        { login with expiresAt := (seen 1).clock }

lemma revokedTokens_revokedTokens (ids ids' : List Uuid) (tokens : List Identity.AuthToken) :
    revokedTokens ids' (revokedTokens ids tokens) = revokedTokens (ids' ++ ids) tokens := by
  unfold revokedTokens
  rw [List.map_map]
  apply List.map_congr_left
  intro row _
  by_cases h : row.id ∈ ids <;> by_cases h' : row.id ∈ ids' <;> simp [h, h']

variable (seen db tokenId copy) in
lemma exists_logsOutOf : ∃ ids, LogsOutOf seen db tokenId copy
    ((revokeCliSession seen db copy).revokeTokens [tokenId]) ids := by
  unfold revokeCliSession
  split
  · rename_i hnone
    refine ⟨[tokenId], ⟨List.mem_singleton_self _, rfl, rfl, .inl rfl, fun _ => rfl, ?_⟩⟩
    intro loginId hcli login hlogin
    rw [hcli, Option.bind_some, hlogin] at hnone
    cases hnone
  · rename_i login hsome
    obtain ⟨loginId, hcli, hlogin⟩ := Option.bind_eq_some_iff.mp hsome
    have hid : loginId = login.id := (key_of_lookup hlogin).symm
    refine ⟨[tokenId] ++ [login.accessTokenId], ⟨List.mem_cons_self, rfl,
      revokedTokens_revokedTokens _ _ _, .inr ⟨login, mem_of_lookup hlogin, hid ▸ hcli, rfl⟩, ?_, ?_⟩⟩
    · intro hnone
      rw [hcli] at hnone
      cases hnone
    · intro loginId' hcli' login' hlogin'
      obtain rfl := Option.some.inj (hcli.symm.trans hcli')
      obtain rfl := Option.some.inj (hlogin.symm.trans hlogin')
      exact ⟨List.mem_cons_of_mem _ List.mem_cons_self, rfl⟩

section

variable {ids : List Uuid}

/-- A session after a logout is one from before it, up to its deadline. -/
lemma LogsOutOf.mem_sessions (h : LogsOutOf seen db tokenId copy db' ids) {l' : CliLoginSession}
    (hl' : l' ∈ db'.sessions) : ∃ l ∈ db.sessions, l'.id = l.id ∧
      l'.refreshToken = l.refreshToken ∧ l'.accessTokenId = l.accessTokenId ∧
      (l' = l ∨ copy.cliSessionId = some l.id ∧ l'.expiresAt = (seen 1).clock) := by
  rcases h.sessions with hsame | ⟨login, hlogin, hcli, hreplaced⟩
  · exact ⟨l', hsame ▸ hl', rfl, rfl, rfl, .inl rfl⟩
  · rw [hreplaced] at hl'
    rcases (mem_replace ..).mp hl' with ⟨hl', -⟩ | ⟨rfl, -⟩
    · exact ⟨l', hl', rfl, rfl, rfl, .inl rfl⟩
    · exact ⟨login, hlogin, rfl, rfl, rfl, .inr ⟨hcli, rfl⟩⟩

lemma LogsOutOf.sessionIds (h : LogsOutOf seen db tokenId copy db' ids) :
    db'.sessions.map CliLoginSession.id = db.sessions.map CliLoginSession.id := by
  rcases h.sessions with hsame | ⟨login, -, -, hreplaced⟩
  · rw [hsame]
  · rw [hreplaced, map_key_replace]

lemma LogsOutOf.mem_tokens (h : LogsOutOf seen db tokenId copy db' ids)
    {t' : Identity.AuthToken} (ht' : t' ∈ db'.tokens) : ∃ t ∈ db.tokens, TokenKept t t' ∧
      (t'.status = .active → t.id ∉ ids ∧ t' = t) := by
  rw [h.tokens] at ht'
  exact mem_revokedTokens ht'

/-- A logout keeps the tables sound. -/
lemma sessionsSound_of_loggedOut (hdb : db.SessionsSound)
    (h : LogsOutOf seen db tokenId copy db' ids) : db'.SessionsSound := by
  have hkept : TokensKept db.nextId db.nextId db.tokens db'.tokens := by
    rw [h.tokens]
    exact tokensKept_revoked
  constructor
  · exact hkept.nodup hdb.tokens hdb.tokenIds
  · intro t' ht'
    obtain ⟨t, ht, hkept, -⟩ := h.mem_tokens ht'
    rw [h.nextId, hkept.id]
    exact hdb.tokenIds t ht
  · rw [h.sessionIds]
    exact hdb.sessions
  · rcases h.sessions with hsame | ⟨login, hlogin, -, hreplaced⟩
    · rw [hsame]
      exact hdb.refreshTokens
    · rw [hreplaced]
      refine nodup_map_replace hdb.sessions hdb.refreshTokens fun l hl hne heq => hne ?_
      rw [eq_of_key_eq hdb.refreshTokens hl hlogin heq]
  · intro l' hl'
    obtain ⟨l, hl, hid, hrefresh, -, -⟩ := h.mem_sessions hl'
    rw [h.nextId, hid, hrefresh]
    exact hdb.sessionIds l hl
  · intro t' ht' loginId hcli
    obtain ⟨t, ht, hkept, -⟩ := h.mem_tokens ht'
    obtain ⟨l, hl, hid⟩ := hdb.named t ht loginId (hkept.cliSessionId ▸ hcli)
    have hmem : loginId ∈ db'.sessions.map CliLoginSession.id := by
      rw [h.sessionIds]
      exact List.mem_map.mpr ⟨l, hl, hid⟩
    exact List.mem_map.mp hmem
  · intro t' ht' hactive l' hl' hcli
    obtain ⟨t, ht, -, hsame⟩ := h.mem_tokens ht'
    obtain ⟨l, hl, hid, -, haccess, -⟩ := h.mem_sessions hl'
    obtain ⟨-, rfl⟩ := hsame hactive
    rw [haccess]
    exact hdb.current t' ht hactive l hl (hid ▸ hcli)
  · intro l' hl' t' ht' htoken
    obtain ⟨t, ht, hkept, -⟩ := h.mem_tokens ht'
    obtain ⟨l, hl, hid, -, haccess, -⟩ := h.mem_sessions hl'
    rw [hkept.cliSessionId, hid]
    exact hdb.owner l hl t ht (hkept.id ▸ haccess ▸ htoken)
  · intro l' hl'
    obtain ⟨l, hl, -, -, haccess, -⟩ := h.mem_sessions hl'
    rw [h.nextId, haccess]
    exact hdb.access l hl

end

/-- Every transaction keeps the tables sound. -/
lemma sessionsSound_of_move (hdb : db.SessionsSound) (hn : db.nextId ≤ db'.nextId)
    (h : SessionsMove settings t seen db db' a) : db'.SessionsSound := by
  cases h with
  | kept _ _ hsessions htokens => exact sessionsSound_of_kept hdb hn hsessions htokens
  | exchanged tokenId locked result _ _ hmem hid _ hcli hrotation hdb' =>
    rw [hdb']
    exact sessionsSound_of_exchanged hdb hmem hid hcli hrotation
  | refreshed login token result _ _ hmem _ _ _ hrotation hdb' =>
    rw [hdb']
    exact sessionsSound_of_refreshed hdb hmem hrotation
  | loggedOut tokenId copy _ _ _ hdb' =>
    obtain ⟨ids, hlogs⟩ := exists_logsOutOf seen db tokenId copy
    rw [hdb']
    exact sessionsSound_of_loggedOut hdb hlogs

/-! ### What a run never undoes -/

/-- A token that is revoked, and whose session has no active token. -/
structure LoginDb.Dead (db : LoginDb) (tokenId : Uuid) : Prop where
  ended : db.Ended tokenId
  revoked : ∀ t ∈ db.tokens, t.id = tokenId → t.status ≠ .active

/-- What holds of a later state of the tables. -/
structure LoginDb.Follows (db db' : LoginDb) : Prop where
  nextId : db.nextId ≤ db'.nextId
  claimed : ∀ t' ∈ db'.tokens, t'.id < db.nextId → ∃ t ∈ db.tokens, t.id = t'.id ∧
    ∀ loginId ∈ t.cliSessionId, t'.cliSessionId = some loginId
  dead : ∀ id < db.nextId, db.Dead id → db'.Dead id
  replaced : ∀ refreshToken < db.nextId, (∀ l ∈ db.sessions, l.refreshToken ≠ refreshToken) →
    ∀ l ∈ db'.sessions, l.refreshToken ≠ refreshToken

lemma LoginDb.Follows.refl (db : LoginDb) : db.Follows db where
  nextId := le_rfl
  claimed t ht _ := ⟨t, ht, rfl, fun _ h => h⟩
  dead _ _ h := h
  replaced _ _ h := h

lemma LoginDb.Follows.trans {db'' : LoginDb} (h : db.Follows db') (h' : db'.Follows db'') :
    db.Follows db'' where
  nextId := h.nextId.trans h'.nextId
  claimed t'' ht'' hlt := by
    obtain ⟨t', ht', hid', hcli'⟩ := h'.claimed t'' ht'' (hlt.trans_le h.nextId)
    obtain ⟨t, ht, hid, hcli⟩ := h.claimed t' ht' (hid' ▸ hlt)
    exact ⟨t, ht, hid.trans hid', fun loginId hl => hcli' loginId (hcli loginId hl)⟩
  dead id hlt hdead := h'.dead id (hlt.trans_le h.nextId) (h.dead id hlt hdead)
  replaced r hlt hr := h'.replaced r (hlt.trans_le h.nextId) (h.replaced r hlt hr)

lemma activeTokens_eq_nil {loginId : Uuid} : db.activeTokens loginId = [] ↔
    ∀ t ∈ db.tokens, t.status = .active → t.cliSessionId ≠ some loginId := by
  simp [LoginDb.activeTokens, List.filter_eq_nil_iff]

/-- Tokens whose rows are kept leave no dead token alive. -/
lemma LoginDb.Dead.kept {id : Uuid} (h : db.Dead id)
    (hrow : ∀ t' ∈ db'.tokens, t'.id = id → ∃ t ∈ db.tokens, TokenKept t t')
    (hactive : ∀ t' ∈ db'.tokens, t'.status = .active → ∀ loginId ∈ t'.cliSessionId,
      ∃ t ∈ db.tokens, t.status = .active ∧ t.cliSessionId = some loginId) : db'.Dead id where
  ended t' ht' hid loginId hcli := by
    obtain ⟨t, ht, hkept⟩ := hrow t' ht' hid
    have hnone := activeTokens_eq_nil.mp
      (h.ended t ht (hkept.id ▸ hid) loginId (hkept.cliSessionId ▸ hcli))
    refine activeTokens_eq_nil.mpr fun t'' ht'' hstatus hcli'' => ?_
    obtain ⟨u, hu, hustatus, hucli⟩ := hactive t'' ht'' hstatus loginId hcli''
    exact hnone u hu hustatus hucli
  revoked t' ht' hid hstatus := by
    obtain ⟨t, ht, hkept⟩ := hrow t' ht' hid
    exact h.revoked t ht (hkept.id ▸ hid) (hkept.active hstatus)

lemma follows_of_kept (hn : db.nextId ≤ db'.nextId) (hsessions : db'.sessions = db.sessions)
    (htokens : TokensKept db.nextId db'.nextId db.tokens db'.tokens) : db.Follows db' where
  nextId := hn
  claimed t' ht' hlt := by
    rcases htokens.mem ht' with ⟨t, ht, hkept⟩ | hnew
    · exact ⟨t, ht, hkept.id.symm, fun loginId hl => hkept.cliSessionId.trans hl⟩
    · exact absurd hlt (not_lt.mpr hnew.1)
  dead id hlt hdead := by
    apply hdead.kept
    · intro t' ht' hid
      rcases htokens.mem ht' with hold | hnew
      · exact hold
      · exact absurd hlt (not_lt.mpr (hid ▸ hnew.1))
    · intro t' ht' hstatus loginId hcli
      rcases htokens.mem ht' with ⟨t, ht, hkept⟩ | hnew
      · exact ⟨t, ht, hkept.active hstatus, hkept.cliSessionId ▸ hcli⟩
      · rw [hnew.2.2] at hcli
        cases hcli
  replaced r _ hr := by
    rw [hsessions]
    exact hr

section

variable {locked token : Identity.AuthToken} {result : CliSessionTokens} {login : CliLoginSession}

lemma follows_of_exchanged {userId : Uuid} {deadline : Instant} (hdb : db.SessionsSound)
    (hlocked : locked ∈ db.tokens) (hid : locked.id = tokenId) (hactive : locked.status = .active)
    (hcli : locked.cliSessionId = none)
    (hrotation : Rotation settings seen 4 (db.nextId + 2)
      ⟨db.nextId, userId, tokenId, db.nextId + 1, deadline⟩ result) :
    db.Follows (exchangedFor db tokenId result) where
  nextId := Nat.le_add_right _ 4
  claimed t' ht' hlt := by
    rcases mem_exchangedFor ht' with rfl | ⟨ht, -⟩ | ⟨t, ht, hrow, rfl⟩
    · rw [hrotation.tokenId] at hlt
      exact absurd hlt (not_lt.mpr (Nat.le_add_right _ 2))
    · exact ⟨t', ht, rfl, fun _ h => h⟩
    · obtain rfl := eq_of_key_eq hdb.tokens ht hlocked (hrow.trans hid.symm)
      refine ⟨t, ht, rfl, fun loginId h => ?_⟩
      rw [hcli] at h
      cases h
  dead id hlt hdead := by
    have hne : id ≠ tokenId := fun heq => hdead.revoked locked hlocked (hid.trans heq.symm) hactive
    constructor
    · intro t' ht' htoken loginId hname
      rcases mem_exchangedFor ht' with rfl | ⟨ht, -⟩ | ⟨t, -, hrow, rfl⟩
      · rw [← htoken, hrotation.tokenId] at hlt
        exact absurd hlt (not_lt.mpr (Nat.le_add_right _ 2))
      · have hnone := activeTokens_eq_nil.mp (hdead.ended t' ht htoken loginId hname)
        obtain ⟨l, hl, hlid⟩ := hdb.named t' ht loginId hname
        refine activeTokens_eq_nil.mpr fun u hu hstatus hucli => ?_
        rcases mem_exchangedFor hu with rfl | ⟨hu, -⟩ | ⟨_, -, -, rfl⟩
        · rw [hrotation.cliSessionId] at hucli
          exact absurd (Option.some.inj hucli) (hlid ▸ (hdb.sessionIds l hl).1.ne')
        · exact hnone u hu hstatus hucli
        · cases hstatus
      · exact absurd (htoken.symm.trans hrow) hne
    · intro t' ht' htoken
      rcases mem_exchangedFor ht' with rfl | ⟨ht, -⟩ | ⟨_, -, -, rfl⟩
      · rw [← htoken, hrotation.tokenId] at hlt
        exact absurd hlt (not_lt.mpr (Nat.le_add_right _ 2))
      · exact hdead.revoked t' ht htoken
      · exact nofun
  replaced r hlt hr := by
    intro l hl
    rcases mem_exchangedFor_sessions hl with hl | rfl
    · exact hr l hl
    · rw [hrotation.newLogin]
      exact (hlt.trans_le (Nat.le_add_right _ 3)).ne'

lemma follows_of_refreshed (hdb : db.SessionsSound) (hmem : login ∈ db.sessions)
    (htoken : token ∈ db.tokens) (hid : token.id = login.accessTokenId)
    (hactive : token.status = .active) (hrotation : Rotation settings seen 2 db.nextId login result) :
    db.Follows (refreshedTo db login result) where
  nextId := Nat.le_add_right _ 2
  claimed t' ht' hlt := by
    rcases mem_refreshedTo ht' with rfl | ⟨t, ht, hkept, -⟩
    · rw [hrotation.tokenId] at hlt
      exact absurd hlt (lt_irrefl _)
    · exact ⟨t, ht, hkept.id.symm, fun loginId hl => hkept.cliSessionId.trans hl⟩
  dead id hlt hdead := by
    apply hdead.kept
    · intro t' ht' htid
      rcases mem_refreshedTo ht' with rfl | ⟨t, ht, hkept, -⟩
      · rw [← htid, hrotation.tokenId] at hlt
        exact absurd hlt (lt_irrefl _)
      · exact ⟨t, ht, hkept⟩
    · intro t' ht' hstatus loginId hcli
      rcases mem_refreshedTo ht' with rfl | ⟨t, ht, hkept, -⟩
      · rw [hrotation.cliSessionId] at hcli
        exact ⟨token, htoken, hactive, (hdb.owner login hmem token htoken hid).trans hcli⟩
      · exact ⟨t, ht, hkept.active hstatus, hkept.cliSessionId ▸ hcli⟩
  replaced r hlt hr := by
    have hloginId : result.login.id = login.id := by rw [hrotation.newLogin]
    intro l hl
    rcases mem_refreshedTo_sessions hloginId hl with ⟨hl, -⟩ | rfl
    · exact hr l hl
    · rw [hrotation.newLogin]
      exact (hlt.trans (Nat.lt_succ_self _)).ne'

lemma follows_of_loggedOut {ids : List Uuid} (h : LogsOutOf seen db tokenId copy db' ids) :
    db.Follows db' where
  nextId := h.nextId.ge
  claimed t' ht' _ := by
    obtain ⟨t, ht, hkept, -⟩ := h.mem_tokens ht'
    exact ⟨t, ht, hkept.id.symm, fun loginId hl => hkept.cliSessionId.trans hl⟩
  dead id _ hdead := by
    apply hdead.kept
    · intro t' ht' _
      obtain ⟨t, ht, hkept, -⟩ := h.mem_tokens ht'
      exact ⟨t, ht, hkept⟩
    · intro t' ht' hstatus loginId hcli
      obtain ⟨t, ht, hkept, -⟩ := h.mem_tokens ht'
      exact ⟨t, ht, hkept.active hstatus, hkept.cliSessionId ▸ hcli⟩
  replaced r _ hr := by
    intro l' hl'
    obtain ⟨l, hl, -, hrefresh, -, -⟩ := h.mem_sessions hl'
    rw [hrefresh]
    exact hr l hl

end

/-- No transaction brings a token or a session back. -/
lemma follows_of_move (hdb : db.SessionsSound) (hn : db.nextId ≤ db'.nextId)
    (h : SessionsMove settings t seen db db' a) : db.Follows db' := by
  cases h with
  | kept _ _ hsessions htokens => exact follows_of_kept hn hsessions htokens
  | exchanged tokenId locked result _ _ hmem hid hactive hcli hrotation hdb' =>
    rw [hdb']
    exact follows_of_exchanged hdb hmem hid hactive hcli hrotation
  | refreshed login token result _ _ hmem htoken hid hactive hrotation hdb' =>
    rw [hdb']
    exact follows_of_refreshed hdb hmem htoken hid hactive hrotation
  | loggedOut tokenId copy _ _ _ hdb' =>
    obtain ⟨ids, hlogs⟩ := exists_logsOutOf seen db tokenId copy
    rw [hdb']
    exact follows_of_loggedOut hlogs

end

end AgentRemote.Logins
