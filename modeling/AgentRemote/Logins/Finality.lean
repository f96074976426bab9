import AgentRemote.Logins.Rotation

/-!
# Exactly when login sessions end for good

The conditions on the transactions of a run under which its login sessions rotate linearly and
end for good, and a token that is exchanged while it is logged out.
-/

namespace AgentRemote.Logins
open Library Identity PortForwards

section

variable {settings : LoginSettings} {forwardSettings : PortForwardSettings}
  {world : ForwardWorld} {clock : Instant} {schedule : List (Scheduled LoginTx)}
  {seen : ℕ → LoginDb} {db db' : LoginDb} {t : LoginTx} {a : LoginAnswer}
  {c : Commit LoginDb LoginTx} {tokenId loginId refreshToken : Uuid}

/-! ### One transaction -/

/-- Every active token of a session ends by its deadline. -/
def LoginDb.Within (db : LoginDb) : Prop :=
  ∀ l ∈ db.sessions, ∀ t ∈ db.activeTokens l.id, t.expiresAt ≤ l.expiresAt

lemma isOk_of_created {result : CliSessionTokens}
    (h : (LoginTx.commit settings forwardSettings (.createCliSession tokenId) seen db).2 =
      .rotated result) : (Logins.createCliSession settings seen db tokenId).isOk = true := by
  simp only [LoginTx.commit] at h
  cases hop : Logins.createCliSession settings seen db tokenId with
  | error e =>
    rw [hop] at h
    cases h
  | ok x => rfl

lemma isOk_of_refreshed {result : CliSessionTokens}
    (h : (LoginTx.commit settings forwardSettings (.refreshCliSession refreshToken) seen db).2 =
      .rotated result) :
    (Logins.refreshCliSession settings seen db refreshToken).isOk = true := by
  simp only [LoginTx.commit] at h
  cases hop : Logins.refreshCliSession settings seen db refreshToken with
  | error e =>
    rw [hop] at h
    cases h
  | ok x => rfl

/-- A transaction that agrees with its reads leaves no token that outlives its session. -/
lemma within_of_commit (hdb : db.SessionsSound) (hwithin : db.Within)
    (hagrees : t.Agrees settings seen db) :
    (t.commit settings forwardSettings seen db).1.Within := by
  have hmove := sessionsMove_of_commit settings forwardSettings seen db t
  cases hmove with
  | kept _ _ hsessions htokens =>
    intro l hl t' ht'
    rw [hsessions] at hl
    obtain ⟨ht', hactive, hcli⟩ := mem_activeTokens.mp ht'
    rcases htokens.mem ht' with ⟨t, ht, hkept⟩ | hnew
    · rw [hkept.expiresAt]
      exact hwithin l hl t (mem_activeTokens.mpr
        ⟨ht, hkept.active hactive, hkept.cliSessionId ▸ hcli⟩)
    · rw [hnew.2.2] at hcli
      cases hcli
  | exchanged tokenId locked result htx hanswer _ _ _ _ hrotation hdb' =>
    subst htx
    have hexpires := hagrees.creates tokenId rfl (isOk_of_created hanswer)
    rw [hdb']
    intro l hl t' ht'
    obtain ⟨ht', hactive, hcli⟩ := mem_activeTokens.mp ht'
    rcases mem_exchangedFor ht' with rfl | ⟨ht', -⟩ | ⟨_, -, -, rfl⟩
    · rw [hrotation.cliSessionId] at hcli
      rcases mem_exchangedFor_sessions hl with hl | rfl
      · exact absurd (Option.some.inj hcli) (hdb.sessionIds l hl).1.ne'
      · rw [hrotation.expiresAt, hrotation.newLogin]
        exact hexpires
    · obtain ⟨l', hl', hid⟩ := hdb.named t' ht' l.id hcli
      rcases mem_exchangedFor_sessions hl with hl | rfl
      · exact hwithin l hl t' (mem_activeTokens.mpr ⟨ht', hactive, hcli⟩)
      · rw [hrotation.newLogin] at hid
        exact absurd hid (hdb.sessionIds l' hl').1.ne
    · cases hactive
  | refreshed login token result htx hanswer hmem _ _ _ hrotation hdb' =>
    subst htx
    have hexpires := hagrees.refreshes login hmem rfl (isOk_of_refreshed hanswer)
    have hloginId : result.login.id = login.id := by rw [hrotation.newLogin]
    rw [hdb']
    intro l hl t' ht'
    obtain ⟨ht', hactive, hcli⟩ := mem_activeTokens.mp ht'
    rcases mem_refreshedTo ht' with rfl | ⟨t, ht, -, hother⟩
    · rw [hrotation.cliSessionId] at hcli
      rcases mem_refreshedTo_sessions hloginId hl with ⟨-, hne⟩ | rfl
      · exact absurd (Option.some.inj hcli).symm hne
      · rw [hrotation.expiresAt, hrotation.newLogin]
        exact hexpires
    · obtain ⟨hne, rfl⟩ := hother hactive
      rcases mem_refreshedTo_sessions hloginId hl with ⟨hl, -⟩ | rfl
      · exact hwithin l hl t' (mem_activeTokens.mpr ⟨ht, hactive, hcli⟩)
      · rw [hloginId] at hcli
        exact absurd (hdb.current t' ht hactive login hmem hcli) hne
  | loggedOut tokenId copy _ _ _ hdb' =>
    obtain ⟨ids, hlogs⟩ := exists_logsOutOf seen db tokenId copy
    rw [hdb']
    intro l' hl' t' ht'
    obtain ⟨ht', hactive, hcli⟩ := mem_activeTokens.mp ht'
    obtain ⟨t, ht, -, hother⟩ := hlogs.mem_tokens ht'
    obtain ⟨hne, rfl⟩ := hother hactive
    obtain ⟨l, hl, hid, -, -, rfl | ⟨hcopy, -⟩⟩ := hlogs.mem_sessions hl'
    · exact hwithin l' hl t' (mem_activeTokens.mpr ⟨ht, hactive, hcli⟩)
    · have hrevoked := (hlogs.named l.id hcopy l (lookup_of_mem hdb.sessions hl)).1
      rw [hid] at hcli
      exact absurd (hdb.current t' ht hactive l hl hcli ▸ hrevoked) hne

/-- A transaction that agrees with its reads moves no deadline later. -/
lemma deadline_of_move (hdb : db.SessionsSound) (hagrees : t.Agrees settings seen db)
    (h : SessionsMove settings t seen db db' a) {l l' : CliLoginSession} (hl : l ∈ db.sessions)
    (hl' : l' ∈ db'.sessions) (hid : l'.id = l.id) : l'.expiresAt ≤ l.expiresAt := by
  have hsame : l' ∈ db.sessions → l'.expiresAt ≤ l.expiresAt := fun hl' => by
    rw [eq_of_key_eq hdb.sessions hl' hl hid]
  cases h with
  | kept _ _ hsessions _ => exact hsame (hsessions ▸ hl')
  | exchanged tokenId locked result _ _ _ _ _ _ hrotation hdb' =>
    rw [hdb'] at hl'
    rcases mem_exchangedFor_sessions hl' with hl' | rfl
    · exact hsame hl'
    · rw [hrotation.newLogin] at hid
      exact absurd hid (hdb.sessionIds l hl).1.ne'
  | refreshed login token result _ _ hmem _ _ _ hrotation hdb' =>
    have hloginId : result.login.id = login.id := by rw [hrotation.newLogin]
    rw [hdb'] at hl'
    rcases mem_refreshedTo_sessions hloginId hl' with ⟨hl', -⟩ | rfl
    · exact hsame hl'
    · rw [eq_of_key_eq hdb.sessions hl hmem (hid.symm.trans hloginId), hrotation.newLogin]
  | loggedOut tokenId copy htx _ hcopy hdb' =>
    obtain ⟨ids, hlogs⟩ := exists_logsOutOf seen db tokenId copy
    rw [hdb'] at hl'
    obtain ⟨l₀, hl₀, hid₀, -, -, rfl | ⟨hnamed, hclock⟩⟩ := hlogs.mem_sessions hl'
    · exact hsame hl₀
    · obtain rfl := eq_of_key_eq hdb.sessions hl₀ hl (hid₀.symm.trans hid)
      rw [hclock]
      exact hagrees.ends tokenId copy l₀.id l₀ htx hcopy hnamed (lookup_of_mem hdb.sessions hl)

lemma logsOut_move {S : Transactions LoginDb LoginTx LoginAnswer} (h : LogsOut S c tokenId)
    (hmove : SessionsMove settings c.tx c.seen c.before db' (S.answer c)) :
    ∃ copy ids, resolveToken (c.seen 0) tokenId = .ok copy ∧
      LogsOutOf c.seen c.before tokenId copy db' ids := by
  obtain ⟨htx, token, hanswer⟩ := h
  cases hmove with
  | kept _ hnot _ _ => exact absurd hanswer (hnot token)
  | exchanged tokenId' _ _ htx' => cases htx.symm.trans htx'
  | refreshed _ _ _ htx' => cases htx.symm.trans htx'
  | loggedOut tokenId' copy htx' _ hcopy hdb' =>
    obtain rfl := LoginTx.logout.inj (htx.symm.trans htx')
    obtain ⟨ids, hlogs⟩ := exists_logsOutOf c.seen c.before tokenId copy
    exact ⟨copy, ids, hcopy, hdb' ▸ hlogs⟩

/-- A logout that agrees with its reads leaves its token and its session dead. -/
lemma dead_of_logsOutOf {copy : Identity.AuthToken} {ids : List Uuid} (hseen : (seen 0).SessionsSound)
    (hdb : db.SessionsSound) (hfollows : (seen 0).Follows db)
    (hcopy : resolveToken (seen 0) tokenId = .ok copy)
    (hagrees : LoginTx.Agrees settings seen db (.logout tokenId))
    (h : LogsOutOf seen db tokenId copy db' ids) :
    db'.Dead tokenId ∧ tokenId < db'.nextId := by
  obtain ⟨hmem, hid, -⟩ := resolveToken_eq_ok hcopy
  have hlt : tokenId < (seen 0).nextId := hid ▸ hseen.tokenIds copy hmem
  refine ⟨⟨fun t' ht' htoken loginId hcli => ?_, fun t' ht' htoken hactive => ?_⟩, ?_⟩
  · obtain ⟨t, ht, hkept, -⟩ := h.mem_tokens ht'
    rw [hkept.id] at htoken
    rw [hkept.cliSessionId] at hcli
    refine activeTokens_eq_nil.mpr fun u hu hactive hucli => ?_
    obtain ⟨u', hu', -, hother⟩ := h.mem_tokens hu
    obtain ⟨hne, rfl⟩ := hother hactive
    cases hname : copy.cliSessionId with
    | none =>
      have heq := hagrees.named tokenId copy rfl hcopy hname t ht htoken loginId hcli u
        (mem_activeTokens.mpr ⟨hu', hactive, hucli⟩)
      exact hne (heq ▸ h.presented)
    | some x =>
      obtain ⟨t₀, ht₀, hid₀, hclaimed⟩ := hfollows.claimed t ht (htoken ▸ hlt)
      obtain rfl := eq_of_key_eq hseen.tokens ht₀ hmem (hid₀.trans (htoken.trans hid.symm))
      obtain rfl := Option.some.inj (hcli.symm.trans (hclaimed x hname))
      obtain ⟨l, hl, rfl⟩ := hdb.named t ht loginId hcli
      have hrevoked := (h.named l.id hname l (lookup_of_mem hdb.sessions hl)).1
      exact hne (hdb.current u hu' hactive l hl hucli ▸ hrevoked)
  · obtain ⟨t, -, -, hother⟩ := h.mem_tokens ht'
    obtain ⟨hne, rfl⟩ := hother hactive
    exact hne (htoken ▸ h.presented)
  · rw [h.nextId]
    exact hlt.trans_le hfollows.nextId

/-- What an accepted refresh finds and leaves. -/
lemma Accepts.found {S : Transactions LoginDb LoginTx LoginAnswer}
    (h : Accepts S c loginId refreshToken)
    (hmove : SessionsMove settings c.tx c.seen c.before db' (S.answer c)) :
    ∃ login ∈ c.before.sessions, login.id = loginId ∧ login.refreshToken = refreshToken ∧
      (∃ token ∈ c.before.tokens, token.id = login.accessTokenId ∧ token.status = .active) ∧
      ∃ result, Rotation settings c.seen 2 c.before.nextId login result ∧
        db' = refreshedTo c.before login result := by
  obtain ⟨htx, result, hanswer, hid⟩ := h
  cases hmove with
  | kept hnot _ _ _ => exact absurd hanswer (hnot result)
  | exchanged _ _ _ htx' => cases htx.symm.trans htx'
  | refreshed login token result' htx' hanswer' hmem htoken htid hactive hrotation hdb' =>
    obtain rfl := LoginTx.refreshCliSession.inj (htx.symm.trans htx')
    obtain rfl := LoginAnswer.rotated.inj (hanswer.symm.trans hanswer')
    rw [hrotation.newLogin] at hid
    exact ⟨login, hmem, hid, rfl, ⟨token, htoken, htid, hactive⟩, result, hrotation, hdb'⟩
  | loggedOut _ _ htx' => cases htx.symm.trans htx'

/-- A refresh token that is accepted is gone. -/
lemma Accepts.replaced {S : Transactions LoginDb LoginTx LoginAnswer}
    (hdb : c.before.SessionsSound) (h : Accepts S c loginId refreshToken)
    (hmove : SessionsMove settings c.tx c.seen c.before db' (S.answer c)) :
    refreshToken < db'.nextId ∧ ∀ l ∈ db'.sessions, l.refreshToken ≠ refreshToken := by
  obtain ⟨login, hlogin, -, rfl, -, result, hrotation, rfl⟩ := h.found hmove
  have hlt := (hdb.sessionIds login hlogin).2
  have hid : result.login.id = login.id := by rw [hrotation.newLogin]
  refine ⟨hlt.trans_le (Nat.le_add_right _ 2), fun l hl heq => ?_⟩
  rcases mem_refreshedTo_sessions hid hl with ⟨hl, hne⟩ | rfl
  · exact hne (congrArg CliLoginSession.id (eq_of_key_eq hdb.refreshTokens hl hlogin heq))
  · rw [hrotation.newLogin] at heq
    exact absurd heq (hlt.trans (Nat.lt_succ_self _)).ne'

/-- No refresh is accepted for the session of a dead token. -/
lemma Accepts.alive {S : Transactions LoginDb LoginTx LoginAnswer}
    (hdb : c.before.SessionsSound) (h : Accepts S c loginId refreshToken)
    (hmove : SessionsMove settings c.tx c.seen c.before db' (S.answer c))
    (hdead : c.before.Dead tokenId) :
    ∀ t ∈ c.before.tokens, t.id = tokenId → t.cliSessionId ≠ some loginId := by
  intro t ht hid hcli
  obtain ⟨login, hlogin, rfl, -, ⟨token, htoken, htid, hactive⟩, -⟩ := h.found hmove
  have hnone := activeTokens_eq_nil.mp (hdead.ended t ht hid login.id hcli)
  exact hnone token htoken hactive (hdb.owner login hlogin token htoken htid)

/-! ### Runs -/

/-- What holds of the tables in every run. -/
structure LoginDb.Kept (db : LoginDb) : Prop where
  sound : db.Sound
  sessions : db.SessionsSound

lemma logins_init_kept : (logins settings forwardSettings world clock).init.Kept where
  sound := logins_init_sound
  sessions :=
    { tokens := List.nodup_nil
      tokenIds := fun _ h => absurd h List.not_mem_nil
      sessions := List.nodup_nil
      refreshTokens := List.nodup_nil
      sessionIds := fun _ h => absurd h List.not_mem_nil
      named := fun _ h => absurd h List.not_mem_nil
      current := fun _ h => absurd h List.not_mem_nil
      owner := fun _ h => absurd h List.not_mem_nil
      access := fun _ h => absurd h List.not_mem_nil }

lemma kept_of_commit (hdb : db.Kept) (hseen : ∀ i, (seen i).Kept) :
    (t.commit settings forwardSettings seen db).1.Kept ∧
      db.Follows (t.commit settings forwardSettings seen db).1 := by
  have hidentity : (t.commit settings forwardSettings seen db).1.identity.Sound ∧
      db.nextId ≤ (t.commit settings forwardSettings seen db).1.nextId :=
    identity_of_commit hdb.sound.identity
  have hmove := sessionsMove_of_commit settings forwardSettings seen db t
  refine ⟨⟨⟨hidentity.1, ?_⟩, sessionsSound_of_move hdb.sessions hidentity.2 hmove⟩,
    follows_of_move hdb.sessions hidentity.2 hmove⟩
  exact codesSound_of_commit hdb.sound fun i => (hseen i).sound.codes

lemma loginSessions_ran : (logins settings forwardSettings world clock).Ran LoginDb.Kept
    LoginDb.Follows schedule :=
  Transactions.ran_of_step LoginDb.Follows.refl LoginDb.Follows.trans logins_init_kept
    (fun _ hsees _ => kept_of_commit hsees.before hsees.seen) fun _ _ => trivial

/-- A run whose transactions agree with their reads keeps tokens within their sessions. -/
lemma logins_within (h : ∀ c ∈ (logins settings forwardSettings world clock).commits schedule,
      c.tx.Agrees settings c.seen c.before) :
    (logins settings forwardSettings world clock).Ran (fun db => db.Kept ∧ db.Within)
      (fun _ _ => True) schedule := by
  refine Transactions.ran_of_step (fun _ => trivial) (fun _ _ => trivial)
    ⟨logins_init_kept, fun _ h => absurd h List.not_mem_nil⟩ (fun c hsees hagrees => ?_) h
  refine ⟨⟨(kept_of_commit hsees.before.1 fun i => (hsees.seen i).1).1, ?_⟩, trivial⟩
  exact within_of_commit hsees.before.1.sessions hsees.before.2 hagrees

variable (c) in
lemma loginMove : SessionsMove settings c.tx c.seen c.before
    ((logins settings forwardSettings world clock).after c)
    ((logins settings forwardSettings world clock).answer c) :=
  sessionsMove_of_commit settings forwardSettings c.seen c.before c.tx

/-- All active tokens of a session are its access token. -/
lemma length_activeTokens (hdb : db.SessionsSound) : (db.activeTokens loginId).length ≤ 1 := by
  have hnodup : ((db.activeTokens loginId).map Identity.AuthToken.id).Nodup :=
    hdb.tokens.sublist (List.filter_sublist.map _)
  have hsame : ∀ t ∈ db.activeTokens loginId, ∀ t' ∈ db.activeTokens loginId, t.id = t'.id := by
    intro t ht t' ht'
    obtain ⟨hmem, hactive, hcli⟩ := mem_activeTokens.mp ht
    obtain ⟨hmem', hactive', hcli'⟩ := mem_activeTokens.mp ht'
    obtain ⟨l, hl, rfl⟩ := hdb.named t hmem loginId hcli
    rw [hdb.current t hmem hactive l hl hcli, hdb.current t' hmem' hactive' l hl hcli']
  cases htokens : db.activeTokens loginId with
  | nil => exact Nat.zero_le 1
  | cons t rest =>
    cases rest with
    | nil => exact le_rfl
    | cons t' rest =>
      rw [htokens] at hnodup hsame
      have heq := hsame t List.mem_cons_self t' (List.mem_cons_of_mem _ List.mem_cons_self)
      rw [List.map_cons, List.nodup_cons, heq] at hnodup
      exact absurd List.mem_cons_self hnodup.1

section

variable {S : Transactions LoginDb LoginTx LoginAnswer} {commits : List (Commit LoginDb LoginTx)}

lemma IssuedLast.cons (h : IssuedLast S commits loginId refreshToken)
    (hc : ∀ other, ¬Issues S c loginId other) :
    IssuedLast S (c :: commits) loginId refreshToken := by
  obtain ⟨newer, e, older, rfl, hissues, hnewer⟩ := h
  exact ⟨c :: newer, e, older, rfl, hissues, List.forall_mem_cons.mpr ⟨hc, hnewer⟩⟩

lemma issuedLast_of_issues (h : Issues S c loginId refreshToken) :
    IssuedLast S (c :: commits) loginId refreshToken :=
  ⟨[], c, commits, rfl, h, fun _ hn => absurd hn List.not_mem_nil⟩

lemma not_issues {result : CliSessionTokens} (hanswer : S.answer c = .rotated result)
    (hne : result.login.id ≠ loginId) (other : Uuid) : ¬Issues S c loginId other := by
  rintro ⟨result', hanswer', hid, -⟩
  obtain rfl := LoginAnswer.rotated.inj (hanswer.symm.trans hanswer')
  exact hne hid

/-- A commit either issues the refresh token of a session or leaves it as it was. -/
lemma issuedLast_of_move (hdb : c.before.SessionsSound)
    (h : SessionsMove settings c.tx c.seen c.before db' (S.answer c))
    (hbefore : ∀ l ∈ c.before.sessions, IssuedLast S commits l.id l.refreshToken)
    {l : CliLoginSession} (hl : l ∈ db'.sessions) :
    IssuedLast S (c :: commits) l.id l.refreshToken := by
  cases h with
  | kept hnot _ hsessions _ =>
    refine (hbefore l (hsessions ▸ hl)).cons fun other hissues => ?_
    obtain ⟨result, hanswer, -⟩ := hissues
    exact hnot result hanswer
  | exchanged tokenId locked result _ hanswer _ _ _ _ hrotation hdb' =>
    rw [hdb'] at hl
    rcases mem_exchangedFor_sessions hl with hl | rfl
    · refine (hbefore l hl).cons (not_issues hanswer ?_)
      rw [hrotation.newLogin]
      exact (hdb.sessionIds l hl).1.ne'
    · exact issuedLast_of_issues ⟨result, hanswer, rfl, rfl⟩
  | refreshed login token result _ hanswer _ _ _ _ hrotation hdb' =>
    have hloginId : result.login.id = login.id := by rw [hrotation.newLogin]
    rw [hdb'] at hl
    rcases mem_refreshedTo_sessions hloginId hl with ⟨hl, hne⟩ | rfl
    · exact (hbefore l hl).cons (not_issues hanswer (hloginId.trans_ne hne.symm))
    · exact issuedLast_of_issues ⟨result, hanswer, rfl, rfl⟩
  | loggedOut tokenId copy _ hanswer _ hdb' =>
    obtain ⟨ids, hlogs⟩ := exists_logsOutOf c.seen c.before tokenId copy
    rw [hdb'] at hl
    obtain ⟨l₀, hl₀, hid, hrefresh, -, -⟩ := hlogs.mem_sessions hl
    rw [hid, hrefresh]
    refine (hbefore l₀ hl₀).cons fun other hissues => ?_
    obtain ⟨result, hanswer', -⟩ := hissues
    cases hanswer.symm.trans hanswer'

end

/-- The refresh token of a session is the last one issued for it. -/
lemma issuedLast_of_mem : ∀ l ∈ ((logins settings forwardSettings world clock).state
    schedule).sessions, IssuedLast (logins settings forwardSettings world clock)
      ((logins settings forwardSettings world clock).commits schedule) l.id l.refreshToken := by
  induction schedule with
  | nil => exact fun _ hl => absurd hl List.not_mem_nil
  | cons s earlier ih =>
    intro l hl
    rw [Transactions.state_cons] at hl
    rw [Transactions.commits_cons]
    exact issuedLast_of_move (loginSessions_ran.sees s).before.sessions (loginMove _) ih hl

/-! ### Copies that no longer agree -/

/-- The answer and the tables of a logout whose token it could resolve. -/
lemma logout_of_resolved {copy : Identity.AuthToken}
    (h : resolveToken (seen 0) tokenId = .ok copy) :
    LoginTx.commit settings forwardSettings (.logout tokenId) seen db =
      ((revokeCliSession seen db copy).revokeTokens [tokenId], .loggedOut copy) := by
  simp only [LoginTx.commit, Logins.logout, h, ok_bind, LoginDb.settle]

lemma mem_revokedTokens_of (ids : List Uuid) {tokens : List Identity.AuthToken}
    {row : Identity.AuthToken} (hrow : row ∈ tokens) : ∃ row' ∈ revokedTokens ids tokens,
      row'.id = row.id ∧ row'.cliSessionId = row.cliSessionId ∧ (row.id ∉ ids → row' = row) := by
  refine ⟨_, List.mem_map.mpr ⟨row, hrow, rfl⟩, ?_⟩
  split_ifs with hid
  · exact ⟨rfl, rfl, fun h => absurd hid h⟩
  · exact ⟨rfl, rfl, fun _ => rfl⟩

/-- A logout after which the session of its token has ended. -/
lemma named_of_ended {copy : Identity.AuthToken} (hnone : copy.cliSessionId = none)
    (hended : ((revokeCliSession seen db copy).revokeTokens [tokenId]).Ended tokenId)
    {row : Identity.AuthToken} (hrow : row ∈ db.tokens) (hid : row.id = tokenId)
    (hcli : loginId ∈ row.cliSessionId) : ∀ t ∈ db.activeTokens loginId, t.id = tokenId := by
  intro t ht
  obtain ⟨ids, hlogs⟩ := exists_logsOutOf seen db tokenId copy
  have htokens := hlogs.tokens
  rw [hlogs.unnamed hnone] at htokens
  by_contra hne
  obtain ⟨ht, hactive, hname⟩ := mem_activeTokens.mp ht
  obtain ⟨row', hrow', hid', hcli', -⟩ := mem_revokedTokens_of [tokenId] hrow
  obtain ⟨t', ht', -, -, hsame⟩ := mem_revokedTokens_of [tokenId] ht
  obtain rfl := hsame (by simpa using hne)
  rw [← htokens] at hrow' ht'
  have hnil := hended row' hrow' (hid'.trans hid) loginId (hcli'.trans hcli)
  exact activeTokens_eq_nil.mp hnil t' ht' hactive hname

/-- An exchange whose token ends with its session. -/
lemma creates_of_within {result : CliSessionTokens}
    (h : Logins.createCliSession settings seen db tokenId = .ok (db', result))
    (hwithin : db'.Within) :
    (seen 5).clock + settings.lifetime
      ((seen 3).clock + seconds settings.cliSessionTtlSeconds) (seen 4).clock ≤
        (seen 3).clock + seconds settings.cliSessionTtlSeconds := by
  obtain ⟨locked, -, -, -, -, hrotation, rfl⟩ := createCliSession_eq_ok h
  have hle := hwithin result.login (List.mem_append_right _ List.mem_cons_self) result.accessToken
    (mem_activeTokens.mpr ⟨List.mem_append_right _ List.mem_cons_self, hrotation.status, ?_⟩)
  · rw [hrotation.expiresAt, hrotation.newLogin] at hle
    exact hle
  · rw [hrotation.cliSessionId, hrotation.newLogin]

/-- A refresh whose token ends with its session. -/
lemma refreshes_of_within {login : CliLoginSession} {result : CliSessionTokens}
    (hdb : db.SessionsSound) (hlogin : login ∈ db.sessions)
    (h : Logins.refreshCliSession settings seen db login.refreshToken = .ok (db', result))
    (hwithin : db'.Within) :
    (seen 3).clock + settings.lifetime login.expiresAt (seen 2).clock ≤ login.expiresAt := by
  obtain ⟨login', hlogin', hrefresh, token, -, -, -, hrotation, rfl⟩ := refreshCliSession_eq_ok h
  obtain rfl := eq_of_key_eq hdb.refreshTokens hlogin' hlogin hrefresh
  have hid : result.login.id = login'.id := by rw [hrotation.newLogin]
  have hmem : result.login ∈ replace CliLoginSession.id db.sessions result.login :=
    (mem_replace ..).mpr (.inr ⟨rfl, login', hlogin', hid.symm⟩)
  have hle := hwithin result.login hmem result.accessToken
    (mem_activeTokens.mpr ⟨List.mem_append_right _ List.mem_cons_self, hrotation.status, ?_⟩)
  · rw [hrotation.expiresAt, hrotation.newLogin] at hle
    exact hle
  · rw [hrotation.cliSessionId, hid]

/-- Transactions whose effects are as they should be agree with their reads. -/
lemma agrees_of (hdb : db.SessionsSound)
    (hdeadline : ∀ l ∈ db.sessions,
      ∀ l' ∈ (t.commit settings forwardSettings seen db).1.sessions, l'.id = l.id →
        l'.expiresAt ≤ l.expiresAt)
    (hwithin : (t.commit settings forwardSettings seen db).1.Within)
    (hended : ∀ tokenId token, t = .logout tokenId →
      (t.commit settings forwardSettings seen db).2 = .loggedOut token →
      (t.commit settings forwardSettings seen db).1.Ended tokenId) :
    t.Agrees settings seen db := by
  constructor
  · intro tokenId copy htx hcopy hnone row hrow hid loginId hcli
    subst htx
    rw [logout_of_resolved hcopy] at hended
    exact named_of_ended hnone (hended tokenId copy rfl rfl) hrow hid hcli
  · intro tokenId copy loginId login htx hcopy hname hlogin
    subst htx
    rw [logout_of_resolved hcopy] at hdeadline
    obtain ⟨ids, hlogs⟩ := exists_logsOutOf seen db tokenId copy
    refine hdeadline login (mem_of_lookup hlogin) { login with expiresAt := (seen 1).clock } ?_ rfl
    rw [(hlogs.named loginId hname login hlogin).2]
    exact (mem_replace ..).mpr (.inr ⟨rfl, login, mem_of_lookup hlogin, rfl⟩)
  · intro tokenId htx hok
    subst htx
    simp only [LoginTx.commit] at hwithin
    cases hop : Logins.createCliSession settings seen db tokenId with
    | error e =>
      rw [hop] at hok
      cases hok
    | ok x =>
      rw [hop] at hwithin
      exact creates_of_within hop hwithin
  · intro login hlogin htx hok
    subst htx
    simp only [LoginTx.commit] at hwithin
    cases hop : Logins.refreshCliSession settings seen db login.refreshToken with
    | error e =>
      rw [hop] at hok
      cases hok
    | ok x =>
      rw [hop] at hwithin
      exact refreshes_of_within hdb hlogin hop hwithin

/-- The sessions of a run rotate linearly and end for good exactly when each of its transactions
agrees with what it has read. -/
theorem cliLoginSessions_iff (settings : LoginSettings) (forwardSettings : PortForwardSettings)
    (world : ForwardWorld) (clock : Instant) (schedule : List (Scheduled LoginTx)) :
    CliLoginSessions (logins settings forwardSettings world clock) schedule ↔
      ∀ c ∈ (logins settings forwardSettings world clock).commits schedule,
        c.tx.Agrees settings c.seen c.before := by
  have hran : (logins settings forwardSettings world clock).Ran LoginDb.Kept LoginDb.Follows
      schedule := loginSessions_ran
  constructor
  · intro h c hc
    exact agrees_of (hran.sees_of_mem hc).before.sessions (h.deadline c hc) (h.within c hc)
      fun tokenId token htx hanswer => h.ended c hc tokenId ⟨htx, token, hanswer⟩
  · intro h
    have hwithin := logins_within h
    have hdead : ∀ c ∈ (logins settings forwardSettings world clock).commits schedule,
        ∀ tokenId, LogsOut (logins settings forwardSettings world clock) c tokenId →
        ((logins settings forwardSettings world clock).after c).Dead tokenId ∧
          tokenId < ((logins settings forwardSettings world clock).after c).nextId := by
      intro c hc tokenId hlogs
      have hsees := hran.sees_of_mem hc
      obtain ⟨copy, ids, hcopy, hlogsOut⟩ := logsOut_move hlogs (loginMove c)
      exact dead_of_logsOutOf (hsees.seen 0).sessions hsees.before.sessions (hsees.current 0) hcopy
        (hlogs.1 ▸ h c hc) hlogsOut
    constructor
    · exact fun c hc loginId => length_activeTokens (hran.after_of_mem hc).1.sessions
    · intro later c earlier hcommits loginId refreshToken haccepts
      obtain ⟨s, rest, -, rfl, rfl⟩ := Transactions.exists_next_of_commits _ hcommits
      obtain ⟨login, hlogin, rfl, rfl, -⟩ := haccepts.found (loginMove _)
      exact issuedLast_of_mem login hlogin
    · refine (hran.pairwise.imp_of_mem fun {later earlier} _ hmem hfollows => ?_)
      intro loginId loginId' refreshToken hearlier hlater
      obtain ⟨hlt, hgone⟩ :=
        hearlier.replaced (hran.sees_of_mem hmem).before.sessions (loginMove earlier)
      obtain ⟨login, hlogin, -, hrefresh, -⟩ := hlater.found (loginMove later)
      exact hfollows.2.replaced refreshToken hlt hgone login hlogin hrefresh
    · intro c hc l hl l' hl' hid
      exact deadline_of_move (hran.sees_of_mem hc).before.sessions (h c hc) (loginMove c) hl hl' hid
    · exact fun c hc => (hwithin.after_of_mem hc).1.2
    · exact fun c hc tokenId hlogs => (hdead c hc tokenId hlogs).1.ended
    · refine (hran.pairwise.imp_of_mem fun {later earlier} hlater hearlier hfollows => ?_)
      intro tokenId hlogs
      obtain ⟨hd, hlt⟩ := hdead earlier hearlier tokenId hlogs
      have hsees := hran.sees_of_mem hlater
      have hbefore := hfollows.2.dead tokenId hlt hd
      have hmoved : later.before.Follows ((logins settings forwardSettings world clock).after
          later) := (kept_of_commit hsees.before hsees.seen).2
      have hafter := hmoved.dead tokenId (hlt.trans_le hfollows.2.nextId) hbefore
      exact ⟨hafter.ended, fun loginId refreshToken haccepts =>
        haccepts.alive hsees.before.sessions (loginMove later) hbefore⟩

end

/-! ### A token that is exchanged while it is logged out -/

/-- The logout has read its token before it was exchanged. -/
def sampleSessionSchedule : List (Scheduled LoginTx) :=
  [.stale (.logout 1) 1 1, .fresh (.createCliSession 1), .fresh (.login 2)]

theorem logout_misses_exchange :
    ¬CliLoginSessions (logins sampleLoginSettings sampleForwardSettings sampleLoginWorld 0)
      sampleSessionSchedule := by
  intro h
  let S := logins sampleLoginSettings sampleForwardSettings sampleLoginWorld 0
  let c := S.next [.fresh (.createCliSession 1), .fresh (.login 2)] (.stale (.logout 1) 1 1)
  have hc : c ∈ S.commits sampleSessionSchedule := by
    rw [sampleSessionSchedule, Transactions.commits_cons]
    exact List.mem_cons_self
  have hlogs : LogsOut S c 1 := ⟨rfl, _, rfl⟩
  have halive : ∃ t ∈ (S.after c).tokens, t.id = 1 ∧ t.cliSessionId = some 2 ∧
      (S.after c).activeTokens 2 ≠ [] := by
    decide +kernel
  obtain ⟨t, ht, hid, hcli, halive⟩ := halive
  exact halive (h.ended c hc 1 hlogs t ht hid 2 hcli)

end AgentRemote.Logins
