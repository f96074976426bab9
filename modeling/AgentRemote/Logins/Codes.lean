import AgentRemote.Identity.Addresses
import AgentRemote.Logins.System

/-!
# When device codes complete once

A code is consumed while it is locked. Approvals and recoveries write what they decided on a
copy, so that a late one may turn a consumed code back or hand it to another user. Nothing else
makes a code complete twice.
-/

namespace AgentRemote.Logins
open Library Identity PortForwards

section

variable (S : Transactions LoginDb LoginTx LoginAnswer) (c : Commit LoginDb LoginTx)

/-- The commit issues a token for the code. -/
def Consumes (codeId : Uuid) (token : Identity.AuthToken) : Prop :=
  ∃ r code issue, c.tx = .completeCliLogin r ∧
    lookup CliLoginCode.deviceCode c.before.codes r.deviceCode = some code ∧ code.id = codeId ∧
    code.status ≠ .consumed ∧ S.answer c = .issued issue ∧ issue.token = token

/-- The commit answers a token that was issued for the code before. -/
def Recovers (codeId : Uuid) (token : Identity.AuthToken) : Prop :=
  ∃ code issue, code.id = codeId ∧ S.answer c = .issued issue ∧ issue.token = token ∧
    ((∃ r, c.tx = .completeCliLogin r ∧ code.status = .consumed ∧
      lookup CliLoginCode.deviceCode c.before.codes r.deviceCode = some code) ∨
      ∃ key, c.tx = .recoverCliLogin key ∧ (c.seen 0).codeByKey key = some code)

end

/-- Device codes complete exactly once. -/
structure DeviceCodeLogin (S : Transactions LoginDb LoginTx LoginAnswer)
    (schedule : List (Scheduled LoginTx)) : Prop where
  once : (S.commits schedule).Pairwise fun later earlier => ∀ id token token',
    Consumes S earlier id token → ¬Consumes S later id token'
  absorbing : ∀ c ∈ S.commits schedule, ∀ k ∈ c.before.codes, ∀ k' ∈ (S.after c).codes,
    k'.id = k.id → k.status = .consumed → k'.status = .consumed
  approver : ∀ c ∈ S.commits schedule, ∀ k ∈ c.before.codes, ∀ k' ∈ (S.after c).codes,
    k'.id = k.id → ∀ userId ∈ k.approvedUserId, k'.approvedUserId = some userId
  recovers : ∀ later c earlier, S.commits schedule = later ++ c :: earlier →
    ∀ id token, Recovers S c id token →
      ∃ e ∈ earlier, ∃ issued, Consumes S e id issued ∧ token.id = issued.id

/-- What an operation decides on the copy of a code is still right where it commits. -/
structure LoginTx.Timely (seen : ℕ → LoginDb) (db : LoginDb) (t : LoginTx) : Prop where
  approves : ∀ userId userCode code, t = .approveCliLogin userId userCode →
    Approves seen db userId userCode code → ∀ row ∈ db.codes, row.id = code.id →
    row.status ≠ .consumed ∧ ∀ approved ∈ row.approvedUserId, approved = userId
  expires : ∀ key code, t = .recoverCliLogin key → Expires seen key code →
    code.status ≠ .expired → ∀ row ∈ db.codes, row.id = code.id → row.status ≠ .consumed

/-- What a transaction makes of the row of a code. -/
inductive CodeMove (settings : LoginSettings) (forwardSettings : PortForwardSettings)
    (t : LoginTx) (seen : ℕ → LoginDb) (db : LoginDb) (row : CliLoginCode) : CliLoginCode → Prop
  | same : CodeMove settings forwardSettings t seen db row row
  | approved (userId : Uuid) (userCode : Text) (code : CliLoginCode) :
    t = .approveCliLogin userId userCode → Approves seen db userId userCode code →
    row.id = code.id → CodeMove settings forwardSettings t seen db row
      (row.updated code (code.approvedBy userId))
  | expired : row.status ≠ .consumed →
    CodeMove settings forwardSettings t seen db row row.expired
  | consumed (r : CompleteCliLogin) (issue : TokenIssue) : t = .completeCliLogin r →
    lookup CliLoginCode.deviceCode db.codes r.deviceCode = some row → row.status ≠ .consumed →
    (t.commit settings forwardSettings seen db).2 = .issued issue →
    CodeMove settings forwardSettings t seen db row (row.consumedBy issue.token issue.expiresIn)
  | overdue (key : Uuid) (code : CliLoginCode) : t = .recoverCliLogin key →
    Expires seen key code → row.id = code.id → CodeMove settings forwardSettings t seen db row
      (row.updated code code.expired)

/-- What a transaction makes of the codes. -/
inductive CodesMove (settings : LoginSettings) (forwardSettings : PortForwardSettings)
    (t : LoginTx) (seen : ℕ → LoginDb) (db : LoginDb) : List CliLoginCode → Prop
  | rows (g : CliLoginCode → CliLoginCode) : (∀ row, (g row).id = row.id) →
    (∀ row ∈ db.codes, CodeMove settings forwardSettings t seen db row (g row)) →
    CodesMove settings forwardSettings t seen db (db.codes.map g)
  | added (code : CliLoginCode) : code.id = db.nextId → code.status = .pending →
    code.approvedUserId = none → code.receipt = none →
    db.nextId < (t.commit settings forwardSettings seen db).1.nextId →
    CodesMove settings forwardSettings t seen db (db.codes ++ [code])

structure LoginDb.CodesSound (db : LoginDb) : Prop where
  nodup : (db.codes.map CliLoginCode.id).Nodup
  ids : ∀ k ∈ db.codes, k.id < db.nextId
  pending : ∀ k ∈ db.codes, k.status = .pending → k.approvedUserId = none

section

variable {settings : LoginSettings} {forwardSettings : PortForwardSettings}
  {seen : ℕ → LoginDb} {db db' : LoginDb} {t : LoginTx} {row row' code : CliLoginCode}

lemma codesMove_same (h : db'.codes = db.codes) :
    CodesMove settings forwardSettings t seen db db'.codes := by
  rw [h, ← List.map_id db.codes]
  exact .rows id (fun _ => rfl) fun _ _ => .same

/-- The rows once that of a locked code is replaced. -/
lemma codesMove_replace (hdb : db.CodesSound) {new : CliLoginCode} (hcode : code ∈ db.codes)
    (hid : new.id = code.id)
    (hnew : CodeMove settings forwardSettings t seen db code new) :
    CodesMove settings forwardSettings t seen db (replace CliLoginCode.id db.codes new) := by
  refine .rows (fun row => if row.id = new.id then new else row) (fun row => ?_) fun row hrow => ?_
  · split_ifs with h
    · exact h.symm
    · rfl
  · split_ifs with h
    · obtain rfl := eq_of_key_eq hdb.nodup hrow hcode (h.trans hid)
      exact hnew
    · exact .same

variable (settings forwardSettings seen t) in
lemma codesMove_of_commit (hdb : db.CodesSound) :
    CodesMove settings forwardSettings t seen db
      (t.commit settings forwardSettings seen db).1.codes := by
  cases t with
  | identity t => exact codesMove_same rfl
  | login userId =>
    simp only [LoginTx.commit]
    cases hop : Logins.login settings seen db userId with
    | error e => exact codesMove_same rfl
    | ok x =>
      obtain ⟨-, -, hdb'⟩ := login_eq_ok hop
      exact codesMove_same (by rw [LoginDb.settle, hdb']; rfl)
  | startCliLogin r =>
    simp only [LoginTx.commit]
    cases hop : Logins.startCliLogin settings seen db r with
    | error e => exact codesMove_same rfl
    | ok x =>
      obtain ⟨hid, hstatus, happroved, hreceipt, hdb'⟩ := startCliLogin_eq_ok hop
      rw [LoginDb.settle, hdb']
      refine .added x.2 hid hstatus happroved hreceipt ?_
      simp only [LoginTx.commit, hop, LoginDb.settle, hdb']
      exact Nat.lt_add_of_pos_right (by decide)
  | approveCliLogin userId userCode =>
    simp only [LoginTx.commit]
    cases hop : Logins.approveCliLogin seen db userId userCode with
    | error e => exact codesMove_same rfl
    | ok x =>
      obtain ⟨code, happroves, hdb'⟩ := approveCliLogin_eq_ok hop
      rw [LoginDb.settle, hdb']
      refine .rows _ (fun row => ?_) fun row _ => ?_
      · split_ifs <;> rfl
      · split_ifs with hid
        · exact .approved userId userCode code rfl happroves hid
        · exact .same
  | completeCliLogin r =>
    have hcases : Logins.completeCliLogin settings seen db r =
          Logins.completeCliLogin settings seen db r →
        CodesMove settings forwardSettings (.completeCliLogin r) seen db
          (Logins.completeCliLogin settings seen db r).1.codes :=
      completeCliLogin_cases (P := fun x => Logins.completeCliLogin settings seen db r = x →
        CodesMove settings forwardSettings (.completeCliLogin r) seen db x.1.codes)
      (fun _ _ => codesMove_same rfl) (fun _ _ _ _ => codesMove_same rfl)
      (fun code hcode hstatus _ _ =>
        codesMove_replace hdb (mem_of_lookup hcode) rfl (.expired hstatus))
      fun code hcode hstatus issue _ _ heq => by
        refine codesMove_replace hdb (mem_of_lookup hcode) rfl (.consumed r issue rfl hcode hstatus ?_)
        simp only [LoginTx.commit, heq, answer]
    exact hcases rfl
  | recoverCliLogin key =>
    refine recoverCliLogin_cases (P := fun x =>
        CodesMove settings forwardSettings (.recoverCliLogin key) seen db x.1.codes)
      (fun _ => codesMove_same rfl) (fun _ _ _ => codesMove_same rfl) fun code hexpires _ => ?_
    refine .rows _ (fun row => ?_) fun row _ => ?_
    · split_ifs <;> rfl
    · split_ifs with hid
      · exact .overdue key code rfl hexpires hid
      · exact .same
  | createCliSession tokenId =>
    simp only [LoginTx.commit]
    cases hop : Logins.createCliSession settings seen db tokenId with
    | error e => exact codesMove_same rfl
    | ok x =>
      obtain ⟨_, -, -, -, -, -, hdb'⟩ := createCliSession_eq_ok hop
      exact codesMove_same (by rw [LoginDb.settle, hdb']; rfl)
  | refreshCliSession refreshToken =>
    simp only [LoginTx.commit]
    cases hop : Logins.refreshCliSession settings seen db refreshToken with
    | error e => exact codesMove_same rfl
    | ok x =>
      obtain ⟨_, -, -, _, -, -, -, -, hdb'⟩ := refreshCliSession_eq_ok hop
      exact codesMove_same (by rw [LoginDb.settle, hdb']; rfl)
  | logout tokenId =>
    simp only [LoginTx.commit]
    cases hop : Logins.logout seen db tokenId with
    | error e => exact codesMove_same rfl
    | ok x =>
      have hdb' := (logout_eq_ok hop).2
      refine codesMove_same ?_
      rw [LoginDb.settle, hdb']
      exact revokeCliSession_codes

/-! ### Rows -/

lemma updated_approved (hcode : code.status = .pending) (hnone : code.approvedUserId = none)
    (userId : Uuid) : row.updated code (code.approvedBy userId) = row.approvedBy userId := by
  simp [CliLoginCode.updated, CliLoginCode.approvedBy, column, hcode, hnone]

lemma updated_expired : row.updated code code.expired =
    if code.status = .expired then row else row.expired := by
  simp only [CliLoginCode.updated, CliLoginCode.expired, column, eq_comm, if_true]
  split_ifs with h <;> simp [h]

lemma Approves.copy (h : ∀ i, (seen i).CodesSound) {userId : Uuid} {userCode : Text}
    (happroves : Approves seen db userId userCode code) : code.approvedUserId = none :=
  (h 0).pending code (List.mem_of_find?_eq_some happroves.found) happroves.pending

/-- What every move keeps of a row. -/
lemma CodeMove.pending (h : CodeMove settings forwardSettings t seen db row row')
    (hseen : ∀ i, (seen i).CodesSound) (hrow : row.status = .pending → row.approvedUserId = none) :
    row'.status = .pending → row'.approvedUserId = none := by
  cases h with
  | same => exact hrow
  | approved userId userCode code _ happroves _ =>
    rw [updated_approved happroves.pending (happroves.copy hseen)]
    exact nofun
  | expired _ => exact nofun
  | consumed _ _ _ _ _ _ => exact nofun
  | overdue key code _ _ _ =>
    rw [updated_expired]
    split_ifs
    · exact hrow
    · exact nofun

/-- A timely transaction keeps consumed codes consumed, and codes with their user. -/
lemma CodeMove.kept (h : CodeMove settings forwardSettings t seen db row row')
    (hseen : ∀ i, (seen i).CodesSound) (hrow : row ∈ db.codes) (ht : t.Timely seen db) :
    (row.status = .consumed → row'.status = .consumed) ∧
      ∀ userId ∈ row.approvedUserId, row'.approvedUserId = some userId := by
  cases h with
  | same => exact ⟨fun h => h, fun _ h => h⟩
  | approved userId userCode code htx happroves hid =>
    obtain ⟨hopen, huser⟩ := ht.approves userId userCode code htx happroves row hrow hid
    rw [updated_approved happroves.pending (happroves.copy hseen)]
    exact ⟨fun h => absurd h hopen, fun approved h => by rw [huser approved h]; rfl⟩
  | expired hopen => exact ⟨fun h => absurd h hopen, fun _ h => h⟩
  | consumed _ _ _ _ _ _ => exact ⟨fun _ => rfl, fun _ h => h⟩
  | overdue key code htx hexpires hid =>
    rw [updated_expired]
    split_ifs with hstatus
    · exact ⟨fun h => h, fun _ h => h⟩
    · have hopen := ht.expires key code htx hexpires hstatus row hrow hid
      exact ⟨fun h => absurd h hopen, fun _ h => h⟩

/-! ### One transaction -/

/-- A transaction on logins only draws identifiers and changes tokens. -/
lemma identity_sound (hdb : db.identity.Sound) (n : ℕ) (tokens : List Identity.AuthToken) :
    IdentityDb.Sound { db.identity.draw n with tokens := tokens } where
  forwarding := sound_of_sublist hdb.forwarding (Nat.le_add_right _ n) (List.Sublist.refl _) rfl
  devices := hdb.devices
  ids d hd := (hdb.ids d hd).trans_le (Nat.le_add_right _ n)

variable (seen db) in
lemma revokeCliSession_identity (copy : Identity.AuthToken) :
    ∃ tokens, (revokeCliSession seen db copy).identity = { db.identity with tokens := tokens } := by
  unfold revokeCliSession
  split
  · exact ⟨_, rfl⟩
  · exact ⟨_, rfl⟩

lemma identity_of_commit (hdb : db.identity.Sound) :
    (t.commit settings forwardSettings seen db).1.identity.Sound ∧
      db.nextId ≤ (t.commit settings forwardSettings seen db).1.nextId := by
  have hself : db.identity.Sound ∧ db.nextId ≤ db.nextId := ⟨hdb, le_rfl⟩
  have hdraw : ∀ n tokens, IdentityDb.Sound { db.identity.draw n with tokens := tokens } ∧
      db.nextId ≤ db.nextId + n := fun n tokens =>
    ⟨identity_sound hdb n tokens, Nat.le_add_right _ n⟩
  cases t with
  | identity t => exact ⟨sound_of_commit hdb, nextId_of_commit hdb⟩
  | login userId =>
    simp only [LoginTx.commit]
    cases hop : Logins.login settings seen db userId with
    | error e => exact hself
    | ok x =>
      obtain ⟨-, -, hdb'⟩ := login_eq_ok hop
      rw [LoginDb.settle, hdb']
      exact hdraw 1 _
  | startCliLogin r =>
    simp only [LoginTx.commit]
    cases hop : Logins.startCliLogin settings seen db r with
    | error e => exact hself
    | ok x =>
      obtain ⟨-, -, -, -, hdb'⟩ := startCliLogin_eq_ok hop
      rw [LoginDb.settle, hdb']
      exact hdraw 2 _
  | approveCliLogin userId userCode =>
    simp only [LoginTx.commit]
    cases hop : Logins.approveCliLogin seen db userId userCode with
    | error e => exact hself
    | ok x =>
      obtain ⟨code, -, hdb'⟩ := approveCliLogin_eq_ok hop
      rw [LoginDb.settle, hdb']
      exact hself
  | completeCliLogin r =>
    exact completeCliLogin_cases (P := fun x => x.1.identity.Sound ∧ db.nextId ≤ x.1.nextId)
      (fun _ => hself) (fun _ _ _ => hself) (fun _ _ _ _ => hself) fun _ _ _ _ _ _ => hdraw 1 _
  | recoverCliLogin key =>
    exact recoverCliLogin_cases (P := fun x => x.1.identity.Sound ∧ db.nextId ≤ x.1.nextId)
      (fun _ => hself) (fun _ _ _ => hself) fun _ _ _ => hself
  | createCliSession tokenId =>
    simp only [LoginTx.commit]
    cases hop : Logins.createCliSession settings seen db tokenId with
    | error e => exact hself
    | ok x =>
      obtain ⟨_, -, -, -, -, -, hdb'⟩ := createCliSession_eq_ok hop
      rw [LoginDb.settle, hdb']
      exact hdraw 4 _
  | refreshCliSession refreshToken =>
    simp only [LoginTx.commit]
    cases hop : Logins.refreshCliSession settings seen db refreshToken with
    | error e => exact hself
    | ok x =>
      obtain ⟨_, -, -, _, -, -, -, -, hdb'⟩ := refreshCliSession_eq_ok hop
      rw [LoginDb.settle, hdb']
      exact hdraw 2 _
  | logout tokenId =>
    simp only [LoginTx.commit]
    cases hop : Logins.logout seen db tokenId with
    | error e => exact hself
    | ok x =>
      obtain ⟨tokens, hidentity⟩ := revokeCliSession_identity seen db x.2
      rw [LoginDb.settle, (logout_eq_ok hop).2, LoginDb.revokeTokens, hidentity]
      exact hdraw 0 _

structure LoginDb.Sound (db : LoginDb) : Prop where
  identity : db.identity.Sound
  codes : db.CodesSound

lemma codesSound_of_commit (hdb : db.Sound) (hseen : ∀ i, (seen i).CodesSound) :
    (t.commit settings forwardSettings seen db).1.CodesSound := by
  have hnext : db.nextId ≤ (t.commit settings forwardSettings seen db).1.nextId :=
    (identity_of_commit hdb.identity).2
  have hmove := codesMove_of_commit settings forwardSettings seen t hdb.codes
  generalize hcodes : (t.commit settings forwardSettings seen db).1.codes = codes at hmove
  constructor
  · rw [hcodes]
    cases hmove with
    | rows g hid _ => exact nodup_map_key hid hdb.codes.nodup
    | added code hid _ _ _ _ =>
      rw [List.map_append, List.nodup_append]
      refine ⟨hdb.codes.nodup, List.nodup_singleton _, fun a ha b hb => ?_⟩
      obtain ⟨k, hk, rfl⟩ := List.mem_map.mp ha
      rw [List.mem_singleton.mp hb, hid]
      exact (hdb.codes.ids k hk).ne
  · intro k' hk'
    rw [hcodes] at hk'
    cases hmove with
    | rows g hid _ =>
      obtain ⟨k, hk, rfl⟩ := List.mem_map.mp hk'
      rw [hid]
      exact (hdb.codes.ids k hk).trans_le hnext
    | added code hid _ _ _ hlt =>
      rcases List.mem_append.mp hk' with hk | hk
      · exact (hdb.codes.ids k' hk).trans_le hnext
      · obtain rfl := List.mem_singleton.mp hk
        rw [hid]
        exact hlt
  · intro k' hk'
    rw [hcodes] at hk'
    cases hmove with
    | rows g _ hg =>
      obtain ⟨k, hk, rfl⟩ := List.mem_map.mp hk'
      exact (hg k hk).pending hseen (hdb.codes.pending k hk)
    | added code _ _ happroved _ _ =>
      rcases List.mem_append.mp hk' with hk | hk
      · exact hdb.codes.pending k' hk
      · obtain rfl := List.mem_singleton.mp hk
        exact fun _ => happroved

/-- What a timely transaction keeps of the codes. -/
structure CodesKept (db db' : LoginDb) : Prop where
  nextId : db.nextId ≤ db'.nextId
  rows : ∀ k' ∈ db'.codes, k'.id < db.nextId → ∃ k ∈ db.codes, k.id = k'.id ∧
    (k.status = .consumed → k'.status = .consumed) ∧
    ∀ userId ∈ k.approvedUserId, k'.approvedUserId = some userId

lemma CodesKept.refl (db : LoginDb) : CodesKept db db :=
  ⟨le_rfl, fun k hk _ => ⟨k, hk, rfl, fun h => h, fun _ h => h⟩⟩

lemma CodesKept.trans {db'' : LoginDb} (h : CodesKept db db') (h' : CodesKept db' db'') :
    CodesKept db db'' where
  nextId := h.nextId.trans h'.nextId
  rows k'' hk'' hlt := by
    obtain ⟨k', hk', hid', hconsumed', happroved'⟩ := h'.rows k'' hk'' (hlt.trans_le h.nextId)
    obtain ⟨k, hk, hid, hconsumed, happroved⟩ := h.rows k' hk' (hid' ▸ hlt)
    exact ⟨k, hk, hid.trans hid', fun hk => hconsumed' (hconsumed hk),
      fun userId hk => happroved' userId (happroved userId hk)⟩

lemma codesKept_of_timely (hdb : db.Sound) (hseen : ∀ i, (seen i).CodesSound)
    (ht : t.Timely seen db) : CodesKept db (t.commit settings forwardSettings seen db).1 := by
  refine ⟨(identity_of_commit hdb.identity).2, fun k' hk' hlt => ?_⟩
  have hmove := codesMove_of_commit settings forwardSettings seen t hdb.codes
  generalize (t.commit settings forwardSettings seen db).1.codes = codes at hmove hk'
  cases hmove with
  | rows g hid hg =>
    obtain ⟨k, hk, rfl⟩ := List.mem_map.mp hk'
    exact ⟨k, hk, (hid k).symm, (hg k hk).kept hseen hk ht⟩
  | added code hid _ _ _ _ =>
    rcases List.mem_append.mp hk' with hk | hk
    · exact ⟨k', hk, rfl, fun h => h, fun _ h => h⟩
    · obtain rfl := List.mem_singleton.mp hk
      exact absurd hid hlt.ne

/-- Rows of one code in two states, of which one follows from the other. -/
lemma CodesKept.same (h : CodesKept db db') (hdb : db.CodesSound) {k k' : CliLoginCode}
    (hk : k ∈ db.codes) (hk' : k' ∈ db'.codes) (hid : k'.id = k.id) :
    (k.status = .consumed → k'.status = .consumed) ∧
      ∀ userId ∈ k.approvedUserId, k'.approvedUserId = some userId := by
  obtain ⟨k₀, hk₀, hid₀, hkept⟩ := h.rows k' hk' (hid ▸ hdb.ids k hk)
  obtain rfl := eq_of_key_eq hdb.nodup hk₀ hk (hid₀.trans hid)
  exact hkept

variable (settings forwardSettings) in
/-- A transaction that keeps consumed codes and users of codes is timely. -/
lemma timely_of_kept (hseen : ∀ i, (seen i).CodesSound)
    (h : ∀ k ∈ db.codes, ∀ k' ∈ (t.commit settings forwardSettings seen db).1.codes,
      k'.id = k.id → (k.status = .consumed → k'.status = .consumed) ∧
        ∀ userId ∈ k.approvedUserId, k'.approvedUserId = some userId) : t.Timely seen db := by
  constructor
  · rintro userId userCode code rfl happroves row hrow hid
    have hmem : row.approvedBy userId ∈ ((LoginTx.approveCliLogin userId userCode).commit settings
        forwardSettings seen db).1.codes := by
      simp only [LoginTx.commit, approveCliLogin_of happroves hrow hid, LoginDb.settle]
      refine List.mem_map.mpr ⟨row, hrow, ?_⟩
      rw [if_pos hid, updated_approved happroves.pending (happroves.copy hseen)]
    obtain ⟨hconsumed, huser⟩ := h row hrow _ hmem rfl
    refine ⟨fun hstatus => ?_, fun approved happroved => ?_⟩
    · exact nomatch hconsumed hstatus
    · exact (Option.some.inj (huser approved happroved)).symm
  · rintro key code rfl hexpires hstatus row hrow hid hconsumed
    have hmem : row.expired ∈ ((LoginTx.recoverCliLogin key).commit settings
        forwardSettings seen db).1.codes := by
      simp only [LoginTx.commit, recoverCliLogin_of hexpires hrow hid]
      refine List.mem_map.mpr ⟨row, hrow, ?_⟩
      rw [if_pos hid, updated_expired, if_neg hstatus]
    exact nomatch (h row hrow _ hmem rfl).1 hconsumed

end

/-! ### Runs -/

section

variable {settings : LoginSettings} {forwardSettings : PortForwardSettings}
  {world : ForwardWorld} {clock : Instant} {schedule : List (Scheduled LoginTx)}
  {c : Commit LoginDb LoginTx}

lemma logins_init_sound : (logins settings forwardSettings world clock).init.Sound :=
  ⟨emptyIdentityDb_sound, List.nodup_nil, fun _ hk => absurd hk List.not_mem_nil,
    fun _ hk => absurd hk List.not_mem_nil⟩

lemma logins_ran : (logins settings forwardSettings world clock).Ran LoginDb.Sound
    (fun _ _ => True) schedule :=
  Transactions.ran_of_step (fun _ => trivial) (fun _ _ => trivial) logins_init_sound
    (fun _ hsees _ => ⟨⟨(identity_of_commit hsees.before.identity).1,
      codesSound_of_commit hsees.before fun i => (hsees.seen i).codes⟩, trivial⟩) fun _ _ => trivial

lemma logins_kept (h : ∀ c ∈ (logins settings forwardSettings world clock).commits schedule,
      c.tx.Timely c.seen c.before) :
    (logins settings forwardSettings world clock).Ran LoginDb.Sound CodesKept schedule :=
  Transactions.ran_of_step CodesKept.refl CodesKept.trans logins_init_sound
    (fun _ hsees ht => ⟨⟨(identity_of_commit hsees.before.identity).1,
      codesSound_of_commit hsees.before fun i => (hsees.seen i).codes⟩,
      codesKept_of_timely hsees.before (fun i => (hsees.seen i).codes) ht⟩) h

lemma answer_issued {x : Except LoginFailure TokenIssue} {issue : TokenIssue}
    (h : answer .issued x = .issued issue) : x = .ok issue := by
  cases x with
  | error e => cases h
  | ok a => exact congrArg _ (LoginAnswer.issued.inj h)

/-- The receipt of a code names a token that was issued for it. -/
lemma receipt_issued {k' : CliLoginCode}
    (hk' : k' ∈ ((logins settings forwardSettings world clock).state schedule).codes)
    {receipt : CompletionReceipt} (hreceipt : receipt ∈ k'.receipt) :
    ∃ e ∈ (logins settings forwardSettings world clock).commits schedule, ∃ issued,
      Consumes (logins settings forwardSettings world clock) e k'.id issued ∧
        receipt.accessToken = issued.id := by
  induction schedule generalizing k' with
  | nil => exact absurd hk' List.not_mem_nil
  | cons s earlier ih =>
    rw [Transactions.commits_cons]
    rw [Transactions.state_cons] at hk'
    have hsound : ((logins settings forwardSettings world clock).state earlier).Sound :=
      logins_ran.sound 0
    have hold : ∀ k ∈ ((logins settings forwardSettings world clock).state earlier).codes,
        k.id = k'.id → k.receipt = k'.receipt →
        ∃ e ∈ (logins settings forwardSettings world clock).next earlier s ::
          (logins settings forwardSettings world clock).commits earlier, ∃ issued,
          Consumes (logins settings forwardSettings world clock) e k'.id issued ∧
            receipt.accessToken = issued.id := by
      intro k hk hid hsame
      obtain ⟨e, he, hissued⟩ := ih hk (hsame ▸ hreceipt)
      exact ⟨e, List.mem_cons_of_mem _ he, hid ▸ hissued⟩
    have hmove := codesMove_of_commit settings forwardSettings
      ((logins settings forwardSettings world clock).next earlier s).seen s.tx hsound.codes
    have hafter : k' ∈ (s.tx.commit settings forwardSettings
        ((logins settings forwardSettings world clock).next earlier s).seen
        ((logins settings forwardSettings world clock).state earlier)).1.codes := hk'
    generalize (s.tx.commit settings forwardSettings
      ((logins settings forwardSettings world clock).next earlier s).seen
      ((logins settings forwardSettings world clock).state earlier)).1.codes = codes
      at hmove hafter
    cases hmove with
    | rows g _ hg =>
      obtain ⟨k, hk, rfl⟩ := List.mem_map.mp hafter
      have hrow := hg k hk
      generalize g k = k' at hrow hold hreceipt
      cases hrow with
      | same => exact hold k hk rfl rfl
      | approved _ _ _ _ _ _ => exact hold k hk rfl rfl
      | expired _ => exact hold k hk rfl rfl
      | overdue _ _ _ _ _ => exact hold k hk rfl rfl
      | consumed r issue htx hcode hopen hanswer =>
        by_cases hkey : k.completionRequestId.isSome = true
        · refine ⟨_, List.mem_cons_self, issue.token,
            ⟨r, k, issue, htx, hcode, rfl, hopen, hanswer, rfl⟩, ?_⟩
          simp only [CliLoginCode.consumedBy, if_pos hkey] at hreceipt
          exact congrArg CompletionReceipt.accessToken (Option.some.inj hreceipt).symm
        · refine hold k hk rfl ?_
          simp only [CliLoginCode.consumedBy, if_neg hkey]
    | added code _ _ _ hnone _ =>
      rcases List.mem_append.mp hafter with hk | hk
      · exact hold k' hk rfl rfl
      · obtain rfl := List.mem_singleton.mp hk
        rw [hnone] at hreceipt
        cases hreceipt

lemma Recovers.issued {later earlier : List (Commit LoginDb LoginTx)} {id : Uuid}
    {token : Identity.AuthToken}
    (hcommits : (logins settings forwardSettings world clock).commits schedule =
      later ++ c :: earlier)
    (h : Recovers (logins settings forwardSettings world clock) c id token) :
    ∃ e ∈ earlier, ∃ issued,
      Consumes (logins settings forwardSettings world clock) e id issued ∧
        token.id = issued.id := by
  obtain ⟨s, rest, -, rfl, rfl⟩ :=
    (logins settings forwardSettings world clock).exists_next_of_commits hcommits
  obtain ⟨code, issue, rfl, hanswer, rfl, ⟨r, htx, hconsumed, hcode⟩ | ⟨key, htx, hcode⟩⟩ := h
  · have hok : ∃ receipt ∈ code.receipt, issue.token.id = receipt.accessToken := by
      rw [Transactions.answer, htx] at hanswer
      have hanswer := answer_issued hanswer
      revert hanswer
      refine completeCliLogin_cases (P := fun x => x.2 = .ok issue →
        ∃ receipt ∈ code.receipt, issue.token.id = receipt.accessToken) (fun _ h => by cases h)
        (fun code' hcode' _ hok => ?_) (fun _ _ _ _ h => by cases h) fun code' hcode' hopen _ _ _ _ => ?_
      · obtain rfl := Option.some.inj (hcode'.symm.trans hcode)
        exact recoverCliLoginCompletion_eq_ok hok
      · obtain rfl := Option.some.inj (hcode'.symm.trans hcode)
        exact absurd hconsumed hopen
    obtain ⟨receipt, hreceipt, hid⟩ := hok
    obtain ⟨e, he, issued, hissued, htoken⟩ := receipt_issued (mem_of_lookup hcode) hreceipt
    exact ⟨e, he, issued, hissued, hid.trans htoken⟩
  · have hok : ∃ receipt ∈ code.receipt, issue.token.id = receipt.accessToken := by
      rw [Transactions.answer, htx] at hanswer
      have hanswer := answer_issued hanswer
      revert hanswer
      refine recoverCliLogin_cases (P := fun x => x.2 = .ok issue →
        ∃ receipt ∈ code.receipt, issue.token.id = receipt.accessToken) (fun _ h => by cases h)
        (fun code' hcode' _ hok => ?_) fun _ _ _ h => by cases h
      obtain rfl := Option.some.inj (hcode'.symm.trans hcode)
      exact recoverCliLoginCompletion_eq_ok hok
    obtain ⟨receipt, hreceipt, hid⟩ := hok
    obtain ⟨e, he, issued, hissued, htoken⟩ :=
      receipt_issued (List.mem_of_find?_eq_some hcode) hreceipt
    have hsuffix := (logins settings forwardSettings world clock).commits_suffix
      (List.drop_suffix (s.age 0) rest)
    exact ⟨e, hsuffix.subset he, issued, hissued, hid.trans htoken⟩

lemma Consumes.left {id : Uuid} {token : Identity.AuthToken}
    (h : Consumes (logins settings forwardSettings world clock) c id token) :
    ∃ k ∈ ((logins settings forwardSettings world clock).after c).codes, k.id = id ∧
      k.status = .consumed := by
  obtain ⟨r, code, issue, htx, hcode, rfl, hopen, hanswer, -⟩ := h
  rw [Transactions.answer, htx] at hanswer
  rw [Transactions.after, htx]
  have hanswer := answer_issued hanswer
  revert hanswer
  refine completeCliLogin_cases (P := fun x => x.2 = .ok issue →
    ∃ k ∈ x.1.codes, k.id = code.id ∧ k.status = .consumed) (fun _ h => by cases h)
    (fun code' hcode' hconsumed _ => ?_) (fun _ _ _ _ h => by cases h)
    fun code' hcode' _ issue' _ _ _ => ?_
  · obtain rfl := Option.some.inj (hcode'.symm.trans hcode)
    exact absurd hconsumed hopen
  · obtain rfl := Option.some.inj (hcode'.symm.trans hcode)
    exact ⟨code'.consumedBy issue'.token issue'.expiresIn,
      (mem_replace ..).mpr (.inr ⟨rfl, code', mem_of_lookup hcode', rfl⟩), rfl, rfl⟩

/-- Device codes complete exactly once in exactly the runs of timely approvals and recoveries. -/
theorem deviceCodeLogin_iff (settings : LoginSettings) (forwardSettings : PortForwardSettings)
    (world : ForwardWorld) (clock : Instant) (schedule : List (Scheduled LoginTx)) :
    DeviceCodeLogin (logins settings forwardSettings world clock) schedule ↔
      ∀ c ∈ (logins settings forwardSettings world clock).commits schedule,
        c.tx.Timely c.seen c.before := by
  constructor
  · intro h c hc
    refine timely_of_kept settings forwardSettings (fun i => ((logins_ran.sees_of_mem hc).seen i).codes)
      fun k hk k' hk' hid => ?_
    exact ⟨h.absorbing c hc k hk k' hk' hid, h.approver c hc k hk k' hk' hid⟩
  · intro h
    have hran := logins_kept h
    have hkept : ∀ c ∈ (logins settings forwardSettings world clock).commits schedule,
        CodesKept c.before ((logins settings forwardSettings world clock).after c) := fun c hc =>
      codesKept_of_timely (hran.sees_of_mem hc).before
        (fun i => ((hran.sees_of_mem hc).seen i).codes) (h c hc)
    refine ⟨?_, ?_, ?_, fun later c earlier hcommits id token => Recovers.issued hcommits⟩
    · refine hran.pairwise.imp fun {later earlier} hfollows id token token' hearlier hlater => ?_
      obtain ⟨k, hk, hid, hconsumed⟩ := hearlier.left
      obtain ⟨r, code, issue, -, hcode, hcodeId, hopen, -, -⟩ := hlater
      refine hopen ((hfollows.2.same hfollows.1.codes hk (mem_of_lookup hcode) ?_).1 hconsumed)
      exact hcodeId.trans hid.symm
    · intro c hc k hk k' hk' hid
      exact ((hkept c hc).same (hran.sees_of_mem hc).before.codes hk hk' hid).1
    · intro c hc k hk k' hk' hid
      exact ((hkept c hc).same (hran.sees_of_mem hc).before.codes hk hk' hid).2

end

/-! ### A code that is approved after it was consumed -/

def sampleLoginSettings : LoginSettings where
  identity := sampleIdentitySettings
  cliSessionTtlSeconds := 2592000
  cliLoginTtlSeconds := 600

def sampleLoginWorld : ForwardWorld :=
  { sampleForwardWorld with users := [sampleForwardUser, ⟨7, .user, .active⟩] }

/-- The second approval has read the code before the first one, and commits after the code was
consumed. -/
def sampleCodeSchedule : List (Scheduled LoginTx) :=
  [.fresh (.completeCliLogin ⟨2, some 9⟩),
    .stale (.approveCliLogin 7 "0000-0001".toList) 1 2,
    .fresh (.completeCliLogin ⟨2, some 9⟩),
    .fresh (.approveCliLogin 2 "0000-0001".toList),
    .fresh (.startCliLogin ⟨"0000-0001".toList, some 9⟩)]

theorem late_approval_issues_again :
    ¬DeviceCodeLogin (logins sampleLoginSettings sampleForwardSettings sampleLoginWorld 0)
      sampleCodeSchedule := by
  intro h
  have hback : ∃ c ∈ (logins sampleLoginSettings sampleForwardSettings sampleLoginWorld
      0).commits sampleCodeSchedule, ∃ k ∈ c.before.codes,
      ∃ k' ∈ ((logins sampleLoginSettings sampleForwardSettings sampleLoginWorld 0).after
        c).codes, k'.id = k.id ∧ k.status = .consumed ∧ k'.status ≠ .consumed := by
    decide +kernel
  obtain ⟨c, hc, k, hk, k', hk', hid, hconsumed, hne⟩ := hback
  exact hne (h.absorbing c hc k hk k' hk' hid hconsumed)

end AgentRemote.Logins
