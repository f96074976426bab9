import AgentRemote.Logins.Tokens

/-!
# When login sessions end for good

Every rotation replaces both credentials of a session while it is locked. A logout finds its
session through the copy of a token, which may be older than the exchange of that token, and a
rotation looks at the clock twice. Nothing else goes wrong.
-/

namespace AgentRemote.Logins
open Library Identity PortForwards

section

variable (S : Transactions LoginDb LoginTx LoginAnswer) (c : Commit LoginDb LoginTx)

/-- The commit issues a pair of credentials. -/
def Issues (loginId refreshToken : Uuid) : Prop :=
  ∃ result, S.answer c = .rotated result ∧ result.login.id = loginId ∧
    result.login.refreshToken = refreshToken

/-- The commit accepts a refresh token. -/
def Accepts (loginId refreshToken : Uuid) : Prop :=
  c.tx = .refreshCliSession refreshToken ∧
    ∃ result, S.answer c = .rotated result ∧ result.login.id = loginId

/-- The refresh token is the last one that the commits, latest first, issue for the session. -/
def IssuedLast (commits : List (Commit LoginDb LoginTx)) (loginId refreshToken : Uuid) : Prop :=
  ∃ newer e older, commits = newer ++ e :: older ∧ Issues S e loginId refreshToken ∧
    ∀ n ∈ newer, ∀ other, ¬Issues S n loginId other

/-- The commit is a logout with the token. -/
def LogsOut (tokenId : Uuid) : Prop :=
  c.tx = .logout tokenId ∧ ∃ token, S.answer c = .loggedOut token

end

/-- The active tokens of a session. -/
def LoginDb.activeTokens (db : LoginDb) (loginId : Uuid) : List Identity.AuthToken :=
  db.tokens.filter fun t => t.status = .active ∧ t.cliSessionId = some loginId

/-- No token of the session of a token is active. -/
def LoginDb.Ended (db : LoginDb) (tokenId : Uuid) : Prop :=
  ∀ t ∈ db.tokens, t.id = tokenId → ∀ loginId ∈ t.cliSessionId, db.activeTokens loginId = []

/-- Login sessions rotate linearly and end for good. -/
structure CliLoginSessions (S : Transactions LoginDb LoginTx LoginAnswer)
    (schedule : List (Scheduled LoginTx)) : Prop where
  single : ∀ c ∈ S.commits schedule, ∀ loginId, ((S.after c).activeTokens loginId).length ≤ 1
  newest : ∀ later c earlier, S.commits schedule = later ++ c :: earlier →
    ∀ loginId refreshToken, Accepts S c loginId refreshToken →
      IssuedLast S earlier loginId refreshToken
  once : (S.commits schedule).Pairwise fun later earlier => ∀ loginId loginId' refreshToken,
    Accepts S earlier loginId refreshToken → ¬Accepts S later loginId' refreshToken
  deadline : ∀ c ∈ S.commits schedule, ∀ l ∈ c.before.sessions, ∀ l' ∈ (S.after c).sessions,
    l'.id = l.id → l'.expiresAt ≤ l.expiresAt
  within : ∀ c ∈ S.commits schedule, ∀ l ∈ (S.after c).sessions,
    ∀ t ∈ (S.after c).activeTokens l.id, t.expiresAt ≤ l.expiresAt
  ended : ∀ c ∈ S.commits schedule, ∀ tokenId, LogsOut S c tokenId → (S.after c).Ended tokenId
  final : (S.commits schedule).Pairwise fun later earlier => ∀ tokenId,
    LogsOut S earlier tokenId → (S.after later).Ended tokenId ∧
      ∀ loginId refreshToken, Accepts S later loginId refreshToken →
        ∀ t ∈ later.before.tokens, t.id = tokenId → t.cliSessionId ≠ some loginId

/-- A logout with a copy that names no session leaves no session of its token alive, and none
that it ends has ended before. A rotation ends the new token by the deadline. -/
structure LoginTx.Agrees (settings : LoginSettings) (seen : ℕ → LoginDb) (db : LoginDb)
    (t : LoginTx) : Prop where
  named : ∀ tokenId copy, t = .logout tokenId → resolveToken (seen 0) tokenId = .ok copy →
    copy.cliSessionId = none → ∀ row ∈ db.tokens, row.id = tokenId →
    ∀ loginId ∈ row.cliSessionId, ∀ t' ∈ db.activeTokens loginId, t'.id = tokenId
  ends : ∀ tokenId copy loginId login, t = .logout tokenId →
    resolveToken (seen 0) tokenId = .ok copy → copy.cliSessionId = some loginId →
    lookup CliLoginSession.id db.sessions loginId = some login →
    (seen 1).clock ≤ login.expiresAt
  creates : ∀ tokenId, t = .createCliSession tokenId →
    (Logins.createCliSession settings seen db tokenId).isOk = true →
    let deadline := (seen 3).clock + seconds settings.cliSessionTtlSeconds
    (seen 5).clock + settings.lifetime deadline (seen 4).clock ≤ deadline
  refreshes : ∀ login ∈ db.sessions, t = .refreshCliSession login.refreshToken →
    (Logins.refreshCliSession settings seen db login.refreshToken).isOk = true →
    (seen 3).clock + settings.lifetime login.expiresAt (seen 2).clock ≤ login.expiresAt

/-! ### What every run keeps -/

structure LoginDb.SessionsSound (db : LoginDb) : Prop where
  tokens : (db.tokens.map Identity.AuthToken.id).Nodup
  tokenIds : ∀ t ∈ db.tokens, t.id < db.nextId
  sessions : (db.sessions.map CliLoginSession.id).Nodup
  refreshTokens : (db.sessions.map CliLoginSession.refreshToken).Nodup
  sessionIds : ∀ l ∈ db.sessions, l.id < db.nextId ∧ l.refreshToken < db.nextId
  named : ∀ t ∈ db.tokens, ∀ loginId ∈ t.cliSessionId, ∃ l ∈ db.sessions, l.id = loginId
  current : ∀ t ∈ db.tokens, t.status = .active → ∀ l ∈ db.sessions,
    t.cliSessionId = some l.id → t.id = l.accessTokenId
  owner : ∀ l ∈ db.sessions, ∀ t ∈ db.tokens, t.id = l.accessTokenId →
    t.cliSessionId = some l.id
  access : ∀ l ∈ db.sessions, l.accessTokenId < db.nextId

section

variable {settings : LoginSettings} {forwardSettings : PortForwardSettings}
  {seen : ℕ → LoginDb} {db db' : LoginDb} {t : LoginTx} {tokenId : Uuid}
  {tokens tokens' : List Identity.AuthToken} {row row' : Identity.AuthToken}
  {login : CliLoginSession} {locked : Identity.AuthToken} {result : CliSessionTokens}

lemma mem_activeTokens {loginId : Uuid} :
    row ∈ db.activeTokens loginId ↔
      row ∈ db.tokens ∧ row.status = .active ∧ row.cliSessionId = some loginId := by
  simp [LoginDb.activeTokens]

lemma TokensKept.mem {n n' : Uuid} (h : TokensKept n n' tokens tokens') (hrow : row' ∈ tokens') :
    (∃ row ∈ tokens, TokenKept row row') ∨
      n ≤ row'.id ∧ row'.id < n' ∧ row'.cliSessionId = none := by
  obtain ⟨g, issued, rfl, hg, hissued⟩ := h.rows
  rcases List.mem_append.mp hrow with hrow | hrow
  · obtain ⟨row, hmem, hrow⟩ := List.mem_filterMap.mp hrow
    exact .inl ⟨row, hmem, hg row hmem row' hrow⟩
  · exact .inr (hissued row' (Option.mem_toList.mp hrow))

lemma nodup_append_of_lt {α : Type} {rows : List α} {key : α → Uuid} {n : Uuid} {new : α}
    (hn : (rows.map key).Nodup) (hlt : ∀ r ∈ rows, key r < n) (hle : n ≤ key new) :
    ((rows ++ [new]).map key).Nodup := by
  rw [List.map_append, List.nodup_append]
  refine ⟨hn, List.nodup_singleton _, fun a ha b hb => ?_⟩
  obtain ⟨r, hr, rfl⟩ := List.mem_map.mp ha
  rw [List.mem_singleton.mp hb]
  exact ((hlt r hr).trans_le hle).ne

lemma TokensKept.nodup {n n' : Uuid} (h : TokensKept n n' tokens tokens')
    (hn : (tokens.map Identity.AuthToken.id).Nodup) (hlt : ∀ t ∈ tokens, t.id < n) :
    (tokens'.map Identity.AuthToken.id).Nodup := by
  obtain ⟨g, issued, rfl, hg, hissued⟩ := h.rows
  have hsublist : ((tokens.filterMap g).map Identity.AuthToken.id).Sublist
      (tokens.map Identity.AuthToken.id) := map_key_filterMap fun t ht t' ht' => (hg t ht t' ht').id
  cases issued with
  | none => simpa using hn.sublist hsublist
  | some token =>
    refine nodup_append_of_lt (hn.sublist hsublist) (fun t' ht' => ?_)
      (hissued token rfl).1
    obtain ⟨t, ht, heq⟩ := List.mem_filterMap.mp ht'
    rw [(hg t ht t' heq).id]
    exact hlt t ht

/-- Transactions that leave the sessions keep the tables sound. -/
lemma sessionsSound_of_kept (hdb : db.SessionsSound) (hn : db.nextId ≤ db'.nextId)
    (hsessions : db'.sessions = db.sessions)
    (htokens : TokensKept db.nextId db'.nextId db.tokens db'.tokens) : db'.SessionsSound := by
  constructor
  · exact htokens.nodup hdb.tokens hdb.tokenIds
  · intro t' ht'
    rcases htokens.mem ht' with ⟨t, ht, hkept⟩ | hnew
    · rw [hkept.id]
      exact (hdb.tokenIds t ht).trans_le hn
    · exact hnew.2.1
  · rw [hsessions]
    exact hdb.sessions
  · rw [hsessions]
    exact hdb.refreshTokens
  · rw [hsessions]
    exact fun l hl => ⟨(hdb.sessionIds l hl).1.trans_le hn, (hdb.sessionIds l hl).2.trans_le hn⟩
  · rw [hsessions]
    intro t' ht' loginId hcli
    rcases htokens.mem ht' with ⟨t, ht, hkept⟩ | hnew
    · exact hdb.named t ht loginId (hkept.cliSessionId ▸ hcli)
    · rw [hnew.2.2] at hcli
      cases hcli
  · rw [hsessions]
    intro t' ht' hactive l hl hcli
    rcases htokens.mem ht' with ⟨t, ht, hkept⟩ | hnew
    · rw [hkept.id]
      exact hdb.current t ht (hkept.active hactive) l hl (hkept.cliSessionId ▸ hcli)
    · rw [hnew.2.2] at hcli
      cases hcli
  · rw [hsessions]
    intro l hl t' ht' hid
    rcases htokens.mem ht' with ⟨t, ht, hkept⟩ | hnew
    · rw [hkept.cliSessionId]
      exact hdb.owner l hl t ht (hkept.id ▸ hid)
    · exact absurd (hdb.access l hl) (not_lt.mpr (hid ▸ hnew.1))
  · rw [hsessions]
    exact fun l hl => (hdb.access l hl).trans_le hn

/-- A token once it is exchanged. -/
def exchangedToken (loginId : Uuid) (t : Identity.AuthToken) : Identity.AuthToken :=
  { t with cliSessionId := some loginId, status := .revoked }

lemma exchangedFor_tokens : (exchangedFor db tokenId result).tokens =
    (db.tokens.map fun t => if t.id = tokenId then exchangedToken db.nextId t else t) ++
      [result.accessToken] := by
  have hmap : ((db.tokens.map fun t =>
      if t.id = tokenId then { t with cliSessionId := some db.nextId } else t).map fun t =>
      if t.id ∈ [tokenId] then { t with status := .revoked } else t) =
      db.tokens.map fun t => if t.id = tokenId then exchangedToken db.nextId t else t := by
    rw [List.map_map]
    refine List.map_congr_left fun t _ => ?_
    by_cases h : t.id = tokenId <;> simp [h, exchangedToken]
  exact congrArg (· ++ [result.accessToken]) hmap

lemma mem_exchangedFor (h : row' ∈ (exchangedFor db tokenId result).tokens) :
    row' = result.accessToken ∨ (row' ∈ db.tokens ∧ row'.id ≠ tokenId) ∨
      ∃ row ∈ db.tokens, row.id = tokenId ∧ row' = exchangedToken db.nextId row := by
  rw [exchangedFor_tokens] at h
  rcases List.mem_append.mp h with h | h
  · obtain ⟨row, hrow, rfl⟩ := List.mem_map.mp h
    right
    split_ifs with hid
    · exact .inr ⟨row, hrow, hid, rfl⟩
    · exact .inl ⟨hrow, hid⟩
  · exact .inl (List.mem_singleton.mp h)

lemma mem_exchangedFor_sessions {l' : CliLoginSession}
    (h : l' ∈ (exchangedFor db tokenId result).sessions) : l' ∈ db.sessions ∨ l' = result.login := by
  rcases List.mem_append.mp h with h | h
  · exact .inl h
  · exact .inr (List.mem_singleton.mp h)

/-- An exchange keeps the tables sound. -/
lemma sessionsSound_of_exchanged {userId : Uuid} {deadline : Instant} (hdb : db.SessionsSound)
    (hlocked : locked ∈ db.tokens) (hid : locked.id = tokenId) (hcli : locked.cliSessionId = none)
    (hrotation : Rotation settings seen 4 (db.nextId + 2)
      ⟨db.nextId, userId, tokenId, db.nextId + 1, deadline⟩ result) :
    (exchangedFor db tokenId result).SessionsSound := by
  have hlogin := hrotation.newLogin
  have hnext : (exchangedFor db tokenId result).nextId = db.nextId + 4 := rfl
  have hsessions : (exchangedFor db tokenId result).sessions = db.sessions ++ [result.login] := rfl
  have hlt : ∀ n, n < db.nextId → n < db.nextId + 4 := fun n hn => Nat.lt_add_right 4 hn
  have hloginId : result.login.id = db.nextId := by rw [hlogin]
  have hrefresh : result.login.refreshToken = db.nextId + 2 + 1 := by rw [hlogin]
  have haccess : result.login.accessTokenId = db.nextId + 2 := by rw [hlogin]
  constructor
  · rw [exchangedFor_tokens]
    refine nodup_append_of_lt (n := db.nextId) (nodup_map_key (fun t => ?_) hdb.tokens) ?_ ?_
    · split_ifs <;> rfl
    · intro t' ht'
      obtain ⟨t, ht, rfl⟩ := List.mem_map.mp ht'
      split_ifs <;> exact hdb.tokenIds t ht
    · rw [hrotation.tokenId]
      exact Nat.le_add_right _ 2
  · intro t' ht'
    rw [hnext]
    rcases mem_exchangedFor ht' with rfl | ⟨ht, -⟩ | ⟨t, ht, -, rfl⟩
    · rw [hrotation.tokenId]
      exact Nat.add_lt_add_left (by decide) _
    · exact hlt _ (hdb.tokenIds t' ht)
    · exact hlt _ (hdb.tokenIds t ht)
  · rw [hsessions]
    exact nodup_append_of_lt hdb.sessions (fun l hl => (hdb.sessionIds l hl).1) hloginId.ge
  · rw [hsessions]
    refine nodup_append_of_lt hdb.refreshTokens (fun l hl => (hdb.sessionIds l hl).2) ?_
    rw [hrefresh]
    exact Nat.le_add_right _ 3
  · intro l hl
    rw [hnext]
    rcases mem_exchangedFor_sessions hl with hl | rfl
    · exact ⟨hlt _ (hdb.sessionIds l hl).1, hlt _ (hdb.sessionIds l hl).2⟩
    · rw [hloginId, hrefresh]
      exact ⟨Nat.lt_add_of_pos_right (by decide), Nat.lt_succ_self (db.nextId + 3)⟩
  · intro t' ht' loginId hname
    have hnew : ∃ l ∈ (exchangedFor db tokenId result).sessions, l.id = db.nextId :=
      ⟨result.login, List.mem_append_right _ List.mem_cons_self, hloginId⟩
    rcases mem_exchangedFor ht' with rfl | ⟨ht, -⟩ | ⟨t, -, -, rfl⟩
    · rw [hrotation.cliSessionId] at hname
      obtain rfl := Option.some.inj hname
      exact hnew
    · obtain ⟨l, hl, hl'⟩ := hdb.named t' ht loginId hname
      exact ⟨l, List.mem_append_left _ hl, hl'⟩
    · obtain rfl := Option.some.inj hname
      exact hnew
  · intro t' ht' hactive l hl hname
    rcases mem_exchangedFor ht' with rfl | ⟨ht, -⟩ | ⟨t, -, -, rfl⟩
    · rw [hrotation.cliSessionId] at hname
      have hlid := Option.some.inj hname
      rcases mem_exchangedFor_sessions hl with hl | rfl
      · exact absurd hlid (hdb.sessionIds l hl).1.ne'
      · rw [haccess, hrotation.tokenId]
    · rcases mem_exchangedFor_sessions hl with hl | rfl
      · exact hdb.current t' ht hactive l hl hname
      · obtain ⟨l, hl, hlid⟩ := hdb.named t' ht _ hname
        rw [hloginId] at hlid
        exact absurd hlid (hdb.sessionIds l hl).1.ne
    · cases hactive
  · intro l hl t' ht' htoken
    rcases mem_exchangedFor_sessions hl with hl | rfl
    · rcases mem_exchangedFor ht' with rfl | ⟨ht, -⟩ | ⟨t, ht, hne, rfl⟩
      · rw [hrotation.tokenId] at htoken
        exact absurd (hdb.access l hl) (htoken ▸ not_lt.mpr (Nat.le_add_right _ 2))
      · exact hdb.owner l hl t' ht htoken
      · obtain rfl := eq_of_key_eq hdb.tokens ht hlocked (hne.trans hid.symm)
        have howner := hdb.owner l hl t ht htoken
        rw [hcli] at howner
        cases howner
    · rw [haccess] at htoken
      rcases mem_exchangedFor ht' with rfl | ⟨ht, -⟩ | ⟨t, ht, -, rfl⟩
      · rw [hrotation.cliSessionId, hloginId]
      · exact absurd (hdb.tokenIds t' ht) (htoken ▸ not_lt.mpr (Nat.le_add_right _ 2))
      · have htoken : t.id = db.nextId + 2 := htoken
        exact absurd (hdb.tokenIds t ht) (htoken ▸ not_lt.mpr (Nat.le_add_right _ 2))
  · intro l hl
    rw [hnext]
    rcases mem_exchangedFor_sessions hl with hl | rfl
    · exact hlt _ (hdb.access l hl)
    · rw [haccess]
      exact Nat.add_lt_add_left (by decide) _

lemma refreshedTo_tokens : (refreshedTo db login result).tokens =
    revokedTokens [login.accessTokenId] db.tokens ++ [result.accessToken] := rfl

lemma mem_revokedTokens {ids : List Uuid} (h : row' ∈ revokedTokens ids tokens) :
    ∃ row ∈ tokens, TokenKept row row' ∧ (row'.status = .active → row.id ∉ ids ∧ row' = row) := by
  obtain ⟨row, hrow, rfl⟩ := List.mem_map.mp h
  refine ⟨row, hrow, revoked_kept row, ?_⟩
  split_ifs with hid
  · exact nofun
  · exact fun _ => ⟨hid, rfl⟩

lemma mem_refreshedTo (h : row' ∈ (refreshedTo db login result).tokens) :
    row' = result.accessToken ∨ ∃ row ∈ db.tokens, TokenKept row row' ∧
      (row'.status = .active → row.id ≠ login.accessTokenId ∧ row' = row) := by
  rw [refreshedTo_tokens] at h
  rcases List.mem_append.mp h with h | h
  · obtain ⟨row, hrow, hkept, hactive⟩ := mem_revokedTokens h
    exact .inr ⟨row, hrow, hkept, fun h => (hactive h).imp_left fun h => by simpa using h⟩
  · exact .inl (List.mem_singleton.mp h)

lemma mem_refreshedTo_sessions {l' : CliLoginSession} (hid : result.login.id = login.id)
    (h : l' ∈ (refreshedTo db login result).sessions) :
    l' ∈ db.sessions ∧ l'.id ≠ login.id ∨ l' = result.login := by
  rcases (mem_replace ..).mp h with ⟨h, hne⟩ | ⟨rfl, -⟩
  · exact .inl ⟨h, hid ▸ hne⟩
  · exact .inr rfl

/-- A refresh keeps the tables sound. -/
lemma sessionsSound_of_refreshed (hdb : db.SessionsSound) (hmem : login ∈ db.sessions)
    (hrotation : Rotation settings seen 2 db.nextId login result) :
    (refreshedTo db login result).SessionsSound := by
  have hlogin := hrotation.newLogin
  have hnext : (refreshedTo db login result).nextId = db.nextId + 2 := rfl
  have hsessions : (refreshedTo db login result).sessions =
      replace CliLoginSession.id db.sessions result.login := rfl
  have hlt : ∀ n, n < db.nextId → n < db.nextId + 2 := fun n hn => Nat.lt_add_right 2 hn
  have hloginId : result.login.id = login.id := by rw [hlogin]
  have hrefresh : result.login.refreshToken = db.nextId + 1 := by rw [hlogin]
  have haccess : result.login.accessTokenId = db.nextId := by rw [hlogin]
  have hkept : TokensKept db.nextId db.nextId db.tokens
      (revokedTokens [login.accessTokenId] db.tokens) := tokensKept_revoked
  constructor
  · rw [refreshedTo_tokens]
    refine nodup_append_of_lt (hkept.nodup hdb.tokens hdb.tokenIds) (fun t' ht' => ?_)
      hrotation.tokenId.ge
    obtain ⟨t, ht, hkept, -⟩ := mem_revokedTokens ht'
    rw [hkept.id]
    exact hdb.tokenIds t ht
  · intro t' ht'
    rw [hnext]
    rcases mem_refreshedTo ht' with rfl | ⟨t, ht, hkept, -⟩
    · rw [hrotation.tokenId]
      exact Nat.lt_add_of_pos_right (by decide)
    · rw [hkept.id]
      exact hlt _ (hdb.tokenIds t ht)
  · rw [hsessions, map_key_replace]
    exact hdb.sessions
  · rw [hsessions]
    refine nodup_map_replace hdb.sessions hdb.refreshTokens fun l hl _ => ?_
    rw [hrefresh]
    exact ((hdb.sessionIds l hl).2.trans (Nat.lt_succ_self _)).ne
  · intro l hl
    rw [hnext]
    rcases mem_refreshedTo_sessions hloginId hl with ⟨hl, -⟩ | rfl
    · exact ⟨hlt _ (hdb.sessionIds l hl).1, hlt _ (hdb.sessionIds l hl).2⟩
    · rw [hloginId, hrefresh]
      exact ⟨hlt _ (hdb.sessionIds login hmem).1, Nat.lt_succ_self (db.nextId + 1)⟩
  · intro t' ht' loginId hname
    have hold : ∀ l ∈ db.sessions, ∃ l' ∈ (refreshedTo db login result).sessions, l'.id = l.id := by
      intro l hl
      by_cases hid : l.id = login.id
      · exact ⟨result.login, (mem_replace ..).mpr (.inr ⟨rfl, login, hmem, hloginId.symm⟩),
          hloginId.trans hid.symm⟩
      · exact ⟨l, (mem_replace ..).mpr (.inl ⟨hl, hloginId ▸ hid⟩), rfl⟩
    rcases mem_refreshedTo ht' with rfl | ⟨t, ht, hkept, -⟩
    · rw [hrotation.cliSessionId] at hname
      obtain rfl := Option.some.inj hname
      exact hold login hmem
    · obtain ⟨l, hl, rfl⟩ := hdb.named t ht loginId (hkept.cliSessionId ▸ hname)
      exact hold l hl
  · intro t' ht' hactive l hl hname
    rcases mem_refreshedTo ht' with rfl | ⟨t, ht, hkept, hother⟩
    · rw [hrotation.cliSessionId] at hname
      rcases mem_refreshedTo_sessions hloginId hl with ⟨-, hne⟩ | rfl
      · exact absurd (Option.some.inj hname).symm hne
      · rw [haccess, hrotation.tokenId]
    · obtain ⟨hne, rfl⟩ := hother hactive
      rcases mem_refreshedTo_sessions hloginId hl with ⟨hl, -⟩ | rfl
      · exact hdb.current t' ht hactive l hl hname
      · rw [hloginId] at hname
        exact absurd (hdb.current t' ht hactive login hmem hname) hne
  · intro l hl t' ht' htoken
    rcases mem_refreshedTo_sessions hloginId hl with ⟨hl, -⟩ | rfl
    · rcases mem_refreshedTo ht' with rfl | ⟨t, ht, hkept, -⟩
      · rw [hrotation.tokenId] at htoken
        exact absurd (hdb.access l hl) (htoken ▸ lt_irrefl _)
      · rw [hkept.cliSessionId]
        exact hdb.owner l hl t ht (hkept.id ▸ htoken)
    · rcases mem_refreshedTo ht' with rfl | ⟨t, ht, hkept, -⟩
      · rw [hrotation.cliSessionId, hloginId]
      · rw [haccess, hkept.id] at htoken
        exact absurd (hdb.tokenIds t ht) (htoken ▸ lt_irrefl _)
  · intro l hl
    rw [hnext]
    rcases mem_refreshedTo_sessions hloginId hl with ⟨hl, -⟩ | rfl
    · exact hlt _ (hdb.access l hl)
    · rw [haccess]
      exact Nat.lt_add_of_pos_right (by decide)

end

end AgentRemote.Logins
