import AgentRemote.Enrollment.System

/-!
# When join codes are exchanged exactly once

An exchange locks its code, but decides on the copy of it that it loaded before under the
exchange identifier. A copy that misses a consumption or a revocation, and a code that is
presented under another identifier than its own, are all that can go wrong.
-/

namespace AgentRemote.Enrollment
open Library PortForwards

section

variable (S : Transactions EnrollmentDb EnrollmentTx EnrollmentAnswer)
  (c : Commit EnrollmentDb EnrollmentTx)

/-- The commit answers a node token for a code, under an exchange identifier. -/
def Succeeds (codeId : Uuid) (exchangeId : Text) (token : Uuid) : Prop :=
  ∃ result, S.answer c = .exchanged result ∧ result.record.id = codeId ∧
    result.exchangeId = exchangeId ∧ result.rawNodeToken = token

/-- The commit sets the credential of a node on behalf of a code. -/
def Sets (codeId : Uuid) (exchangeId : Text) : Prop :=
  ∃ token, Succeeds S c codeId exchangeId token ∧ (∀ n ∈ c.before.nodes,
    n.nodeToken ≠ some token) ∧ ∃ n ∈ (S.after c).nodes, n.nodeToken = some token

/-- The commit answers that the code is revoked. -/
def Revokes (codeId : Uuid) : Prop :=
  ∃ records, S.answer c = .revoked .revoked records ∧ ∃ k ∈ records, k.id = codeId

end

/-- Join codes are exchanged exactly once, and not after they were revoked. -/
structure JoinCodeExchange (S : Transactions EnrollmentDb EnrollmentTx EnrollmentAnswer)
    (schedule : List (Scheduled EnrollmentTx)) : Prop where
  once : (S.commits schedule).Pairwise fun later earlier => ∀ codeId exchangeId exchangeId',
    Sets S earlier codeId exchangeId → ¬Sets S later codeId exchangeId'
  same : (S.commits schedule).Pairwise fun later earlier =>
    ∀ codeId codeId' exchangeId token token', Succeeds S earlier codeId exchangeId token →
      Succeeds S later codeId' exchangeId token' → token' = token
  current : ∀ c ∈ S.commits schedule, ∀ result, S.answer c = .exchanged result →
    ∃ db, (db = S.after c ∨ db = c.seen c.tx.nodeRead) ∧
      ∃ n ∈ db.nodes, n.id = result.node.id ∧ n.nodeToken = some result.rawNodeToken
  bound : ∀ c ∈ S.commits schedule, ∀ k ∈ c.before.joinCodes, ∀ exchangeId,
    Sets S c k.id exchangeId → ∀ own ∈ k.exchangeId, own = exchangeId
  under : ∀ c ∈ S.commits schedule, ∀ k ∈ (S.after c).joinCodes, ∀ exchangeId,
    Sets S c k.id exchangeId → k.exchangeId = some exchangeId
  final : (S.commits schedule).Pairwise fun later earlier => ∀ codeId,
    Revokes S earlier codeId → ∀ exchangeId token, ¬Succeeds S later codeId exchangeId token

/-- The row of a code that an exchange accepts is not revoked where the exchange commits, and if
the exchange would consume it, it is neither consumed nor bound to another identifier. -/
structure EnrollmentTx.Timely (settings : EnrollmentSettings) (seen : ℕ → EnrollmentDb)
    (db : EnrollmentDb) (t : EnrollmentTx) : Prop where
  unrevoked : ∀ r record node, t = .exchangeJoinCode r → Presents settings seen db r record node →
    ∀ row ∈ db.joinCodes, row.id = record.id → row.revokedAt = none
  unconsumed : ∀ r record node, t = .exchangeJoinCode r → Presents settings seen db r record node →
    record.consumedAt = none → ∀ row ∈ db.joinCodes, row.id = record.id →
    row.consumedAt = none ∧ ∀ own ∈ row.exchangeId, own = r.exchangeId

section

variable {settings : EnrollmentSettings} {t : EnrollmentTx} {seen : ℕ → EnrollmentDb}
  {db db' : EnrollmentDb} {a : EnrollmentAnswer} {record k k' : NodeJoinCode} {node : Node}
  {r : JoinExchange} {result : JoinCodeExchangeResult}

/-! ### Rows -/

/-- The row of a code once it is exchanged for a token, from a copy of it. -/
def NodeJoinCode.exchangedRow (k record : NodeJoinCode) (exchangeId : Text) (token : Uuid)
    (now : Instant) : NodeJoinCode :=
  { k with
    exchangeId := column record.exchangeId (some exchangeId) k.exchangeId
    consumedAt := column record.consumedAt (some now) k.consumedAt
    revokedAt := column record.revokedAt record.revokedAt k.revokedAt
    nodeToken := column record.nodeToken (some token) k.nodeToken
    exchangeResultExpiresAt := column record.exchangeResultExpiresAt
      (some (now + seconds (24 * 60 * 60))) k.exchangeResultExpiresAt }

lemma column_of_ne {α : Type} [DecidableEq α] {copy new row : α} (h : new ≠ copy) :
    column copy new row = new := if_neg h

@[simp] lemma column_self {α : Type} [DecidableEq α] (copy row : α) :
    column copy copy row = row := if_pos rfl

/-- What a transaction makes of the row of a code. -/
inductive CodeMove (settings : EnrollmentSettings) (t : EnrollmentTx) (seen : ℕ → EnrollmentDb)
    (db db' : EnrollmentDb) (a : EnrollmentAnswer) (k : NodeJoinCode) : NodeJoinCode → Prop
  | same : CodeMove settings t seen db db' a k k
  | revoked (records : List NodeJoinCode) (at_ : Instant) : a = .revoked .revoked records →
    k.id ∈ records.map NodeJoinCode.id →
    CodeMove settings t seen db db' a k { k with revokedAt := some at_ }
  | exchanged (r : JoinExchange) (record : NodeJoinCode) (node : Node) (at_ : Instant) :
    t = .exchangeJoinCode r → Presents settings seen db r record node →
    record.consumedAt = none → k.id = record.id →
    a = .exchanged ⟨record, node, db.nextId, r.exchangeId⟩ → db' = exchanged db r record node at_ →
    at_ = (seen 1).clock → CodeMove settings t seen db db' a k (k.exchangedRow record r.exchangeId db.nextId at_)

/-- What a transaction makes of the codes. -/
inductive CodesMove (settings : EnrollmentSettings) (t : EnrollmentTx) (seen : ℕ → EnrollmentDb)
    (db db' : EnrollmentDb) (a : EnrollmentAnswer) : Prop
  | rows (g : NodeJoinCode → NodeJoinCode) : (∀ k, (g k).id = k.id) →
    (∀ k ∈ db.joinCodes, CodeMove settings t seen db db' a k (g k)) →
    db'.joinCodes = db.joinCodes.map g → CodesMove settings t seen db db' a
  | added (record : NodeJoinCode) : Issued db record →
    db'.joinCodes = db.joinCodes ++ [record] → CodesMove settings t seen db db' a

lemma codesMove_same (h : db'.joinCodes = db.joinCodes) : CodesMove settings t seen db db' a :=
  .rows id (fun _ => rfl) (fun _ _ => .same) (by rw [h, List.map_id])

/-- The row of a code once the listed copies of rows are revoked. -/
def NodeJoinCode.revokedWith (records : List NodeJoinCode) (at_ : Instant) (k : NodeJoinCode) :
    NodeJoinCode :=
  if k.id ∈ records.map NodeJoinCode.id then { k with revokedAt := some at_ } else k

lemma revokeCopies_eq {records : List NodeJoinCode} {at_ : Instant}
    (h : ∀ k ∈ records, k.revokedAt = none) : revokeCopies db records at_ =
      { db with joinCodes := db.joinCodes.map (NodeJoinCode.revokedWith records at_) } := by
  induction records generalizing db with
  | nil =>
    have hid : NodeJoinCode.revokedWith [] at_ = id := by
      funext k
      simp [NodeJoinCode.revokedWith]
    rw [hid, List.map_id]
    rfl
  | cons copy records ih =>
    have hcopy : copy.revokedAt = none := h copy List.mem_cons_self
    have hstep : revokeCopies db (copy :: records) at_ =
        revokeCopies (db.updateJoinCode copy { copy with revokedAt := some at_ }) records at_ := rfl
    rw [hstep, ih fun k hk => h k (List.mem_cons_of_mem _ hk), EnrollmentDb.updateJoinCode]
    congr 1
    rw [List.map_map]
    refine List.map_congr_left fun k _ => ?_
    have hnew : column copy.revokedAt (some at_) k.revokedAt = some at_ :=
      column_of_ne (by rw [hcopy]; exact nofun)
    by_cases hid : k.id = copy.id <;> simp [NodeJoinCode.revokedWith, hid, hnew]

lemma exchanged_joinCodes : (exchanged db r record node (seen 1).clock).joinCodes =
    db.joinCodes.map fun k => if k.id = record.id then
      k.exchangedRow record r.exchangeId db.nextId (seen 1).clock else k := rfl

/-- The codes after a transaction. -/
lemma codesMove_of_move (h : EnrollmentMove settings t seen db db' a) :
    CodesMove settings t seen db db' a := by
  cases h with
  | same _ _ _ hcodes _ => exact codesMove_same hcodes
  | issued record _ hissued hdb' => exact .added record hissued (by rw [hdb'])
  | revoked records ha hmove =>
    cases hmove with
    | none _ hne => exact absurd rfl hne
    | before => exact codesMove_same rfl
    | now _ at_ hcopies =>
      refine .rows (NodeJoinCode.revokedWith records at_) (fun k => ?_) (fun k _ => ?_)
        (by rw [revokeCopies_eq fun k hk => (hcopies k hk).1])
      · rw [NodeJoinCode.revokedWith]
        split_ifs <;> rfl
      · rw [NodeJoinCode.revokedWith]
        split_ifs with hid
        · exact .revoked records at_ ha hid
        · exact .same
  | exchanged r result ht ha hmove =>
    cases hmove with
    | repeated => exact codesMove_same rfl
    | consumed record node hpresents hopen =>
      refine .rows _ (fun k => ?_) (fun k _ => ?_) exchanged_joinCodes
      · split_ifs <;> rfl
      · split_ifs with hid
        · exact .exchanged r record node _ ht hpresents hopen hid ha rfl rfl
        · exact .same
  | recovered _ _ _ _ _ _ _ _ _ _ hdb' => exact codesMove_same (by rw [hdb'])

/-! ### What every run keeps -/

/-- The tokens and codes of a state are drawn, and an exchange identifier names one code. -/
structure EnrollmentDb.Sound (db : EnrollmentDb) : Prop where
  credentials : ∀ n ∈ db.nodes, ∀ token ∈ n.nodeToken, token < db.nextId
  tokens : ∀ k ∈ db.joinCodes, ∀ token ∈ k.nodeToken, token < db.nextId
  codes : (db.joinCodes.map NodeJoinCode.id).Nodup
  ids : ∀ k ∈ db.joinCodes, k.id < db.nextId
  exchanges : ∀ k ∈ db.joinCodes, ∀ k' ∈ db.joinCodes, ∀ exchangeId,
    k.exchangeId = some exchangeId → k'.exchangeId = some exchangeId → k = k'

/-- Nodes stay, and identifiers are drawn in order. -/
structure EnrollmentDb.Moved (db db' : EnrollmentDb) : Prop where
  nextId : db.nextId ≤ db'.nextId
  nodes : db'.nodes.map Node.id = db.nodes.map Node.id

lemma EnrollmentDb.Moved.refl (db : EnrollmentDb) : db.Moved db := ⟨le_rfl, rfl⟩

lemma EnrollmentDb.Moved.trans {db'' : EnrollmentDb} (h : db.Moved db') (h' : db'.Moved db'') :
    db.Moved db'' := ⟨h.nextId.trans h'.nextId, h'.nodes.trans h.nodes⟩

lemma updateNode_ids (copy new : Node) :
    (db.updateNode copy new).nodes.map Node.id = db.nodes.map Node.id := by
  rw [EnrollmentDb.updateNode, List.map_map]
  refine List.map_congr_left fun n _ => ?_
  rw [Function.comp_apply]
  split_ifs <;> rfl

lemma revokeMove_tables {state : JoinCodeState} {records : List NodeJoinCode}
    (h : RevokeMove seen db db' state records) : db'.nodes = db.nodes ∧ db'.nextId = db.nextId := by
  cases h with
  | none => exact ⟨rfl, rfl⟩
  | before => exact ⟨rfl, rfl⟩
  | now _ at_ hcopies =>
    rw [revokeCopies_eq fun k hk => (hcopies k hk).1]
    exact ⟨rfl, rfl⟩

lemma moved_of_move (h : EnrollmentMove settings t seen db db' a) : db.Moved db' := by
  cases h with
  | same _ _ hnodes _ hnext => exact ⟨hnext.ge, by rw [hnodes]⟩
  | issued record _ _ hdb' =>
    rw [hdb']
    exact ⟨Nat.le_succ _, rfl⟩
  | revoked records _ hmove =>
    obtain ⟨hnodes, hnext⟩ := revokeMove_tables hmove
    exact ⟨hnext.ge, by rw [hnodes]⟩
  | exchanged r result _ _ hmove =>
    cases hmove with
    | repeated => exact .refl db
    | consumed record node => exact ⟨Nat.le_succ _, updateNode_ids node _⟩
  | recovered _ _ _ _ _ _ _ _ _ _ hdb' =>
    rw [hdb']
    exact .refl db

/-- A node after an update is one from before it, up to what was changed. -/
lemma mem_updateNode {copy new n' : Node} (h : n' ∈ (db.updateNode copy new).nodes) :
    ∃ n ∈ db.nodes, n'.id = n.id ∧ (n' = n ∨ n.id = copy.id ∧
      n'.nodeToken = column copy.nodeToken new.nodeToken n.nodeToken) := by
  obtain ⟨n, hn, rfl⟩ := List.mem_map.mp h
  refine ⟨n, hn, ?_⟩
  split_ifs with hid
  · exact ⟨rfl, .inr ⟨hid, rfl⟩⟩
  · exact ⟨rfl, .inl rfl⟩

lemma column_mem {α : Type} [DecidableEq α] (copy new row : α) :
    column copy new row = row ∨ column copy new row = new := by
  unfold column
  split_ifs
  · exact .inl rfl
  · exact .inr rfl

/-- No other code has an identifier under which an exchange consumes its code. -/
lemma Presents.free (h : Presents settings seen db r record node) (hopen : record.consumedAt = none)
    (hk : k ∈ db.joinCodes) (hne : k.id ≠ record.id)
    (hrow : column record.exchangeId (some r.exchangeId) k'.exchangeId = some r.exchangeId)
    (hk' : k' ∈ db.joinCodes) (hid : k'.id = record.id) (hdb : db.Sound) :
    k.exchangeId ≠ some r.exchangeId := by
  intro hbound
  by_cases heq : record.exchangeId = some r.exchangeId
  · rw [heq, column_self] at hrow
    exact hne (congrArg NodeJoinCode.id (hdb.exchanges k hk k' hk' _ hbound hrow) |>.trans hid)
  · have hfree := (h.usable hopen).2.2 heq
    rw [EnrollmentDb.exchangeTaken, List.any_eq_false] at hfree
    exact hfree k hk (by simp [hbound, hne])

lemma sound_of_codes (hdb : db.Sound) (g : NodeJoinCode → NodeJoinCode)
    (hid : ∀ k, (g k).id = k.id) (hcodes : db'.joinCodes = db.joinCodes.map g)
    (hnext : db.nextId ≤ db'.nextId)
    (hcredentials : ∀ n ∈ db'.nodes, ∀ token ∈ n.nodeToken, token < db'.nextId)
    (htokens : ∀ k ∈ db.joinCodes, ∀ token ∈ (g k).nodeToken, token < db'.nextId)
    (hexchanges : ∀ k ∈ db.joinCodes, ∀ k' ∈ db.joinCodes, ∀ exchangeId,
      (g k).exchangeId = some exchangeId → (g k').exchangeId = some exchangeId → k = k') :
    db'.Sound := by
  constructor
  · exact hcredentials
  · rw [hcodes]
    exact List.forall_mem_map.mpr htokens
  · rw [hcodes]
    exact nodup_map_key hid hdb.codes
  · rw [hcodes]
    refine List.forall_mem_map.mpr fun k hk => ?_
    rw [hid]
    exact (hdb.ids k hk).trans_le hnext
  · rw [hcodes]
    intro k₁ hk₁ k₂ hk₂ exchangeId h₁ h₂
    obtain ⟨k, hk, rfl⟩ := List.mem_map.mp hk₁
    obtain ⟨k', hk', rfl⟩ := List.mem_map.mp hk₂
    rw [hexchanges k hk k' hk' exchangeId h₁ h₂]

lemma sound_of_same (hdb : db.Sound) (hnodes : db'.nodes = db.nodes)
    (hcodes : db'.joinCodes = db.joinCodes) (hnext : db'.nextId = db.nextId) : db'.Sound := by
  refine sound_of_codes hdb id (fun _ => rfl) (by rw [hcodes, List.map_id]) hnext.ge ?_ ?_
    hdb.exchanges
  · rw [hnodes, hnext]
    exact hdb.credentials
  · rw [hnext]
    exact hdb.tokens

lemma sound_of_issued (hdb : db.Sound) (h : Issued db record) : EnrollmentDb.Sound
    { db with joinCodes := db.joinCodes ++ [record], nextId := db.nextId + 1 } := by
  have hmem : ∀ k ∈ db.joinCodes ++ [record], k ∈ db.joinCodes ∨ k = record := fun k hk =>
    (List.mem_append.mp hk).imp_right List.mem_singleton.mp
  have hunbound : ∀ k ∈ db.joinCodes, ∀ exchangeId, k.exchangeId = some exchangeId →
      record.exchangeId ≠ some exchangeId := by
    intro k hk exchangeId hbound hnew
    have hnone := List.find?_eq_none.mp (h.unbound exchangeId hnew) k hk
    exact hnone (by simpa using hbound)
  constructor
  · exact fun n hn token htoken => (hdb.credentials n hn token htoken).trans (Nat.lt_succ_self _)
  · intro k hk token htoken
    rcases hmem k hk with hk | rfl
    · exact (hdb.tokens k hk token htoken).trans (Nat.lt_succ_self _)
    · rw [h.nodeToken] at htoken
      cases htoken
  · change ((db.joinCodes ++ [record]).map NodeJoinCode.id).Nodup
    rw [List.map_append, List.nodup_append]
    refine ⟨hdb.codes, List.nodup_singleton _, fun x hx y hy => ?_⟩
    obtain ⟨k, hk, rfl⟩ := List.mem_map.mp hx
    rw [List.mem_singleton.mp hy]
    exact ((hdb.ids k hk).trans_eq h.id.symm).ne
  · intro k hk
    rcases hmem k hk with hk | rfl
    · exact (hdb.ids k hk).trans (Nat.lt_succ_self _)
    · rw [h.id]
      exact Nat.lt_succ_self _
  · intro k hk k' hk' exchangeId hbound hbound'
    rcases hmem k hk with hold | rfl
    · rcases hmem k' hk' with hold' | rfl
      · exact hdb.exchanges k hold k' hold' exchangeId hbound hbound'
      · exact absurd hbound' (hunbound k hold exchangeId hbound)
    · rcases hmem k' hk' with hold' | rfl
      · exact absurd hbound (hunbound k' hold' exchangeId hbound')
      · rfl

lemma sound_of_consumed (hdb : db.Sound) (h : Presents settings seen db r record node)
    (hopen : record.consumedAt = none) :
    (exchanged db r record node (seen 1).clock).Sound := by
  have hnew : ∀ {copy row : Option Uuid} {token : Uuid}, (∀ x ∈ row, x < db.nextId) →
      token ∈ column copy (some db.nextId) row → token < db.nextId + 1 := by
    intro copy row token hrow htoken
    rcases column_mem copy (some db.nextId) row with heq | heq
    · rw [heq] at htoken
      exact (hrow token htoken).trans (Nat.lt_succ_self _)
    · rw [heq] at htoken
      obtain rfl := Option.some.inj htoken
      exact Nat.lt_succ_self _
  refine sound_of_codes hdb _ (fun k => ?_) exchanged_joinCodes (Nat.le_succ _) ?_ ?_ ?_
  · split_ifs <;> rfl
  · intro n' hn' token htoken
    obtain ⟨n, hn, -, rfl | ⟨-, hcolumn⟩⟩ := mem_updateNode hn'
    · exact (hdb.credentials n' hn token htoken).trans (Nat.lt_succ_self _)
    · rw [hcolumn] at htoken
      exact hnew (hdb.credentials n hn) htoken
  · intro k hk token htoken
    split_ifs at htoken
    · exact hnew (hdb.tokens k hk) htoken
    · exact (hdb.tokens k hk token htoken).trans (Nat.lt_succ_self _)
  · have hmixed : ∀ k ∈ db.joinCodes, ∀ k' ∈ db.joinCodes, ∀ exchangeId, k.id = record.id →
        k'.id ≠ record.id →
        column record.exchangeId (some r.exchangeId) k.exchangeId = some exchangeId →
        k'.exchangeId = some exchangeId → k = k' := by
      intro k hk k' hk' exchangeId hid hid' hcolumn hbound'
      rcases column_mem record.exchangeId (some r.exchangeId) k.exchangeId with heq | heq
      · exact hdb.exchanges k hk k' hk' exchangeId (heq ▸ hcolumn) hbound'
      · obtain rfl := Option.some.inj (heq.symm.trans hcolumn)
        exact absurd hbound' (h.free hopen hk' hid' heq hk hid hdb)
    intro k hk k' hk' exchangeId hbound hbound'
    split_ifs at hbound hbound' with hid hid' hid'
    · exact eq_of_key_eq hdb.codes hk hk' (hid.trans hid'.symm)
    · exact hmixed k hk k' hk' exchangeId hid hid' hbound hbound'
    · exact (hmixed k' hk' k hk exchangeId hid' hid hbound' hbound).symm
    · exact hdb.exchanges k hk k' hk' exchangeId hbound hbound'

/-- Every transaction keeps the tables sound. -/
lemma sound_of_move (hdb : db.Sound) (h : EnrollmentMove settings t seen db db' a) :
    db'.Sound := by
  cases h with
  | same _ _ hnodes hcodes hnext => exact sound_of_same hdb hnodes hcodes hnext
  | issued record _ hissued hdb' =>
    rw [hdb']
    exact sound_of_issued hdb hissued
  | revoked records _ hmove =>
    obtain ⟨hnodes, hnext⟩ := revokeMove_tables hmove
    cases hmove with
    | none => exact hdb
    | before => exact hdb
    | now _ at_ hcopies =>
      have hkept : ∀ k, (NodeJoinCode.revokedWith records at_ k).id = k.id ∧
          (NodeJoinCode.revokedWith records at_ k).exchangeId = k.exchangeId ∧
          (NodeJoinCode.revokedWith records at_ k).nodeToken = k.nodeToken := by
        intro k
        rw [NodeJoinCode.revokedWith]
        split_ifs <;> exact ⟨rfl, rfl, rfl⟩
      refine sound_of_codes hdb (NodeJoinCode.revokedWith records at_) (fun k => (hkept k).1)
        (by rw [revokeCopies_eq fun k hk => (hcopies k hk).1]) hnext.ge ?_ ?_ ?_
      · rw [hnodes, hnext]
        exact hdb.credentials
      · intro k hk
        rw [(hkept k).2.2, hnext]
        exact hdb.tokens k hk
      · intro k hk k' hk'
        rw [(hkept k).2.1, (hkept k').2.1]
        exact hdb.exchanges k hk k' hk'
  | exchanged r result _ _ hmove =>
    cases hmove with
    | repeated => exact hdb
    | consumed record node hpresents hopen => exact sound_of_consumed hdb hpresents hopen
  | recovered _ _ _ _ _ _ _ _ _ _ hdb' =>
    rw [hdb']
    exact hdb

end

end AgentRemote.Enrollment
