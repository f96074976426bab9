import AgentRemote.Enrollment.Exchange

/-!
# Exchanges over runs

Every consumed code has set a credential before, and every revoked one was answered for. Exchanges
that are timely never undo what a code is bound to, its consumption or its revocation.
-/

namespace AgentRemote.Enrollment
open Library PortForwards

section

variable {settings : EnrollmentSettings} {fleet : NodeFleet} {clock : Instant}
  {schedule : List (Scheduled EnrollmentTx)} {S : Transactions EnrollmentDb EnrollmentTx
  EnrollmentAnswer} {c : Commit EnrollmentDb EnrollmentTx} {t : EnrollmentTx}
  {seen : ℕ → EnrollmentDb} {db db' : EnrollmentDb} {a : EnrollmentAnswer}
  {record k k' : NodeJoinCode} {node : Node} {r : JoinExchange} {result : JoinCodeExchangeResult}

lemma enrollment_init_sound : (enrollment settings fleet clock).init.Sound where
  credentials := fleet.drawn
  tokens _ h := absurd h List.not_mem_nil
  codes := List.nodup_nil
  ids _ h := absurd h List.not_mem_nil
  exchanges _ h := absurd h List.not_mem_nil

variable (settings fleet clock c) in
lemma enrollmentMove : EnrollmentMove settings c.tx c.seen c.before
    ((enrollment settings fleet clock).after c) ((enrollment settings fleet clock).answer c) :=
  enrollmentMove_of_commit settings c.seen c.before c.tx

lemma enrollment_ran : (enrollment settings fleet clock).Ran EnrollmentDb.Sound
    EnrollmentDb.Moved schedule :=
  Transactions.ran_of_step EnrollmentDb.Moved.refl EnrollmentDb.Moved.trans enrollment_init_sound
    (fun c hsees _ => ⟨sound_of_move hsees.before (enrollmentMove settings fleet clock c),
      moved_of_move (enrollmentMove settings fleet clock c)⟩) fun _ _ => trivial

/-! ### What a successful exchange leaves -/

/-- The node of an exchange receives the drawn token, which no node has had. -/
lemma credential_of_exchanged (hdb : db.Sound) (hseen : (seen 2).Sound)
    (hmoved : (seen 2).Moved db) (h : Presents settings seen db r record node) :
    (∀ n ∈ db.nodes, n.nodeToken ≠ some db.nextId) ∧
      ∃ n ∈ (exchanged db r record node (seen 1).clock).nodes,
        n.id = node.id ∧ n.nodeToken = some db.nextId := by
  obtain ⟨-, hnode, -⟩ := validateJoinExchangeRecord_eq_ok h.valid
  have hfresh : some db.nextId ≠ node.nodeToken := by
    intro heq
    have hlt := hseen.credentials node hnode db.nextId heq.symm
    exact absurd hlt (not_lt.mpr hmoved.nextId)
  refine ⟨fun n hn heq => ?_, ?_⟩
  · exact absurd (hdb.credentials n hn db.nextId heq) (lt_irrefl _)
  · have hid : node.id ∈ db.nodes.map Node.id := hmoved.nodes ▸ List.mem_map_of_mem hnode
    obtain ⟨n, hn, hid⟩ := List.mem_map.mp hid
    refine ⟨_, List.mem_map.mpr ⟨n, hn, rfl⟩, ?_⟩
    rw [if_pos hid]
    exact ⟨hid, column_of_ne hfresh⟩

/-- A commit that consumes a code sets a credential. -/
lemma sets_of_consumed (hsees : Transactions.Sees EnrollmentDb.Sound EnrollmentDb.Moved c)
    (h : Presents settings c.seen c.before r record node)
    (hanswer : S.answer c = .exchanged ⟨record, node, c.before.nextId, r.exchangeId⟩)
    (hafter : S.after c = exchanged c.before r record node (c.seen 1).clock) :
    Sets S c record.id r.exchangeId := by
  obtain ⟨hnew, n, hn, -, htoken⟩ :=
    credential_of_exchanged hsees.before (hsees.seen 2) (hsees.current 2) h
  exact ⟨_, ⟨_, hanswer, rfl, rfl, rfl⟩, hnew, n, hafter ▸ hn, htoken⟩

/-- Only a commit that consumes a code sets a credential for it. -/
lemma Sets.consumed {codeId : Uuid} {exchangeId : Text} (h : Sets S c codeId exchangeId)
    (hmove : EnrollmentMove settings c.tx c.seen c.before (S.after c) (S.answer c)) :
    ∃ r record node, c.tx = .exchangeJoinCode r ∧ Presents settings c.seen c.before r record node ∧
      record.consumedAt = none ∧ record.id = codeId ∧ r.exchangeId = exchangeId := by
  obtain ⟨token, ⟨result, hanswer, hid, hexchange, rfl⟩, hnew, n, hn, htoken⟩ := h
  have hsame : S.after c ≠ c.before := by
    intro heq
    exact hnew n (heq ▸ hn) htoken
  generalize hafter : S.after c = db' at hmove hsame
  cases hmove with
  | same hnot _ _ _ _ => exact absurd hanswer (hnot result)
  | issued _ hissued _ _ => cases hissued.symm.trans hanswer
  | revoked _ hrevoked _ => cases hrevoked.symm.trans hanswer
  | exchanged r result' htx hanswer' hexchanged =>
    obtain rfl := EnrollmentAnswer.exchanged.inj (hanswer.symm.trans hanswer')
    cases hexchanged with
    | repeated => exact absurd rfl hsame
    | consumed record node hpresents hopen =>
      exact ⟨r, record, node, htx, hpresents, hopen, hid, hexchange⟩
  | recovered _ _ _ _ _ _ _ _ _ _ hdb' => exact absurd hdb' hsame

/-- The token that an exchange answers is its node's credential meanwhile. -/
lemma current_of_move (hsees : Transactions.Sees EnrollmentDb.Sound EnrollmentDb.Moved c)
    (hmove : EnrollmentMove settings c.tx c.seen c.before db' (.exchanged result)) :
    ∃ db, (db = db' ∨ db = c.seen c.tx.nodeRead) ∧
      ∃ n ∈ db.nodes, n.id = result.node.id ∧ n.nodeToken = some result.rawNodeToken := by
  cases hmove with
  | same hnot _ _ _ _ => exact absurd rfl (hnot result)
  | issued _ hissued _ _ => cases hissued
  | revoked _ hrevoked _ => cases hrevoked
  | exchanged r result' htx hanswer hexchanged =>
    obtain rfl := EnrollmentAnswer.exchanged.inj hanswer
    cases hexchanged with
    | repeated record node _ hpresents hrepeats =>
      obtain ⟨-, hnode, -⟩ := validateJoinExchangeRecord_eq_ok hpresents.valid
      refine ⟨c.seen 2, .inr (by rw [htx]; rfl), node, hnode, ?_, hrepeats.credential⟩
      rw [hrepeats.ofNode]
    | consumed record node hpresents _ =>
      obtain ⟨-, hcredential⟩ :=
        credential_of_exchanged hsees.before (hsees.seen 2) (hsees.current 2) hpresents
      exact ⟨_, .inl rfl, hcredential⟩
  | recovered record node _ result' hread hanswer _ _ hnode hrepeats _ =>
    obtain rfl := EnrollmentAnswer.exchanged.inj hanswer
    refine ⟨c.seen 0, .inr (by rw [hread]), node, hnode, ?_, hrepeats.credential⟩
    rw [hrepeats.ofNode]

/-! ### What is on record was done before -/

/-- A consumed code has set a credential, and a revoked one was answered for. -/
structure Recorded (S : Transactions EnrollmentDb EnrollmentTx EnrollmentAnswer)
    (commits : List (Commit EnrollmentDb EnrollmentTx)) (k : NodeJoinCode) : Prop where
  consumed : k.consumedAt ≠ none → ∃ e ∈ commits, ∃ exchangeId, Sets S e k.id exchangeId
  revoked : k.revokedAt ≠ none → ∃ e ∈ commits, Revokes S e k.id

lemma Recorded.cons {commits : List (Commit EnrollmentDb EnrollmentTx)} (h : Recorded S commits k)
    (hid : k'.id = k.id)
    (hconsumed : k'.consumedAt ≠ none → k.consumedAt ≠ none ∨ ∃ x, Sets S c k.id x)
    (hrevoked : k'.revokedAt ≠ none → k.revokedAt ≠ none ∨ Revokes S c k.id) :
    Recorded S (c :: commits) k' where
  consumed hne := by
    rw [hid]
    rcases hconsumed hne with hne | hsets
    · obtain ⟨e, he, hsets⟩ := h.consumed hne
      exact ⟨e, List.mem_cons_of_mem _ he, hsets⟩
    · exact ⟨c, List.mem_cons_self, hsets⟩
  revoked hne := by
    rw [hid]
    rcases hrevoked hne with hne | hrevokes
    · obtain ⟨e, he, hrevokes⟩ := h.revoked hne
      exact ⟨e, List.mem_cons_of_mem _ he, hrevokes⟩
    · exact ⟨c, List.mem_cons_self, hrevokes⟩

/-- What the row of a code records after a commit. -/
lemma CodeMove.records (hsees : Transactions.Sees EnrollmentDb.Sound EnrollmentDb.Moved c)
    (h : CodeMove settings c.tx c.seen c.before (S.after c) (S.answer c) k k') :
    (k'.consumedAt ≠ none → k.consumedAt ≠ none ∨ ∃ x, Sets S c k.id x) ∧
      (k'.revokedAt ≠ none → k.revokedAt ≠ none ∨ Revokes S c k.id) := by
  generalize hafter : S.after c = after at h
  generalize hanswer : S.answer c = answer at h
  cases h with
  | same => exact ⟨.inl, .inl⟩
  | revoked records at_ ha hid =>
    obtain ⟨copy, hcopy, hid⟩ := List.mem_map.mp hid
    exact ⟨.inl, fun _ => .inr ⟨records, hanswer.trans ha, copy, hcopy, hid⟩⟩
  | exchanged r record node at_ ht hpresents hopen hid ha hdb' hat =>
    subst hat
    refine ⟨fun _ => .inr ⟨r.exchangeId, ?_⟩, fun hne => .inl ?_⟩
    · rw [hid]
      exact sets_of_consumed hsees hpresents (hanswer.trans ha) (hafter.trans hdb')
    · rwa [NodeJoinCode.exchangedRow, column_self] at hne

lemma recorded_of_mem : ∀ k ∈ ((enrollment settings fleet clock).state schedule).joinCodes,
    Recorded (enrollment settings fleet clock)
      ((enrollment settings fleet clock).commits schedule) k := by
  induction schedule with
  | nil => exact fun _ hk => absurd hk List.not_mem_nil
  | cons s earlier ih =>
    have hran : (enrollment settings fleet clock).Ran EnrollmentDb.Sound EnrollmentDb.Moved
        earlier := enrollment_ran
    have hmove := codesMove_of_move (enrollmentMove settings fleet clock
      ((enrollment settings fleet clock).next earlier s))
    intro k' hk'
    rw [Transactions.state_cons] at hk'
    rw [Transactions.commits_cons]
    cases hmove with
    | rows g hid hrows hcodes =>
      rw [hcodes] at hk'
      obtain ⟨k, hk, rfl⟩ := List.mem_map.mp hk'
      obtain ⟨hconsumed, hrevoked⟩ := (hrows k hk).records (hran.sees s)
      exact (ih k hk).cons (hid k) hconsumed hrevoked
    | added record hissued hcodes =>
      rw [hcodes] at hk'
      rcases List.mem_append.mp hk' with hk | hk
      · exact (ih k' hk).cons rfl .inl .inl
      · obtain rfl := List.mem_singleton.mp hk
        exact ⟨fun hne => absurd hissued.consumedAt hne, fun hne => absurd hissued.revokedAt hne⟩

/-! ### What timely exchanges keep -/

/-- What stays of the row of a code. -/
structure CodeKept (k k' : NodeJoinCode) : Prop where
  id : k'.id = k.id
  bound : ∀ exchangeId, k.exchangeId = some exchangeId → k'.exchangeId = some exchangeId
  consumed : k.consumedAt ≠ none → k'.consumedAt ≠ none ∧ k'.nodeToken = k.nodeToken
  revoked : k.revokedAt ≠ none → k'.revokedAt ≠ none

structure EnrollmentDb.Follows (db db' : EnrollmentDb) : Prop where
  nextId : db.nextId ≤ db'.nextId
  codes : ∀ k ∈ db.joinCodes, ∃ k' ∈ db'.joinCodes, CodeKept k k'

lemma CodeKept.refl (k : NodeJoinCode) : CodeKept k k :=
  ⟨rfl, fun _ h => h, fun h => ⟨h, rfl⟩, fun h => h⟩

lemma EnrollmentDb.Follows.refl (db : EnrollmentDb) : db.Follows db :=
  ⟨le_rfl, fun k hk => ⟨k, hk, .refl k⟩⟩

lemma EnrollmentDb.Follows.trans {db'' : EnrollmentDb} (h : db.Follows db')
    (h' : db'.Follows db'') : db.Follows db'' where
  nextId := h.nextId.trans h'.nextId
  codes k hk := by
    obtain ⟨k', hk', hkept⟩ := h.codes k hk
    obtain ⟨k'', hk'', hkept'⟩ := h'.codes k' hk'
    refine ⟨k'', hk'', hkept'.id.trans hkept.id, fun x hx => hkept'.bound x (hkept.bound x hx),
      fun hne => ?_, fun hne => hkept'.revoked (hkept.revoked hne)⟩
    obtain ⟨hconsumed, htoken⟩ := hkept.consumed hne
    exact ⟨(hkept'.consumed hconsumed).1, (hkept'.consumed hconsumed).2.trans htoken⟩

/-- The row that a later state has of a code. -/
lemma EnrollmentDb.Follows.row (h : db.Follows db') (hdb' : db'.Sound) (hk : k ∈ db.joinCodes)
    (hk' : k' ∈ db'.joinCodes) (hid : k'.id = k.id) : CodeKept k k' := by
  obtain ⟨found, hfound, hkept⟩ := h.codes k hk
  rwa [eq_of_key_eq hdb'.codes hk' hfound (hid.trans hkept.id.symm)]

lemma CodeMove.kept (htimely : t.Timely settings seen db) (hk : k ∈ db.joinCodes)
    (h : CodeMove settings t seen db db' a k k') : CodeKept k k' := by
  cases h with
  | same => exact .refl k
  | revoked => exact ⟨rfl, fun _ h => h, fun h => ⟨h, rfl⟩, fun _ => nofun⟩
  | exchanged r record node at_ ht hpresents hopen hid ha =>
    obtain ⟨hnone, hown⟩ := htimely.unconsumed r record node ht hpresents hopen k hk hid
    refine ⟨rfl, fun x hx => ?_, fun hne => absurd hnone hne, fun hne => ?_⟩
    · rcases column_mem record.exchangeId (some r.exchangeId) k.exchangeId with heq | heq
      · exact heq.trans hx
      · exact heq.trans (congrArg some (hown x hx).symm)
    · rwa [NodeJoinCode.exchangedRow, column_self]

lemma follows_of_move (htimely : t.Timely settings seen db)
    (h : EnrollmentMove settings t seen db db' a) : db.Follows db' where
  nextId := (moved_of_move h).nextId
  codes k hk := by
    cases codesMove_of_move h with
    | rows g _ hrows hcodes =>
      rw [hcodes]
      exact ⟨g k, List.mem_map_of_mem hk, (hrows k hk).kept htimely hk⟩
    | added record _ hcodes =>
      rw [hcodes]
      exact ⟨k, List.mem_append_left _ hk, .refl k⟩

lemma enrollment_follows (h : ∀ c ∈ (enrollment settings fleet clock).commits schedule,
      c.tx.Timely settings c.seen c.before) :
    (enrollment settings fleet clock).Ran EnrollmentDb.Sound EnrollmentDb.Follows schedule :=
  Transactions.ran_of_step EnrollmentDb.Follows.refl EnrollmentDb.Follows.trans
    enrollment_init_sound (fun c hsees htimely =>
      ⟨sound_of_move hsees.before (enrollmentMove settings fleet clock c),
        follows_of_move htimely (enrollmentMove settings fleet clock c)⟩) h

/-- A code that was exchanged for a token under an identifier. -/
def EnrollmentDb.Holds (db : EnrollmentDb) (codeId : Uuid) (exchangeId : Text) (token : Uuid) :
    Prop :=
  ∃ k ∈ db.joinCodes, k.id = codeId ∧ k.exchangeId = some exchangeId ∧ k.consumedAt ≠ none ∧
    k.nodeToken = some token

lemma EnrollmentDb.Holds.follows {codeId token : Uuid} {exchangeId : Text}
    (h : db.Holds codeId exchangeId token) (hfollows : db.Follows db') :
    db'.Holds codeId exchangeId token := by
  obtain ⟨k, hk, hid, hbound, hconsumed, htoken⟩ := h
  obtain ⟨k', hk', hkept⟩ := hfollows.codes k hk
  obtain ⟨hconsumed', htoken'⟩ := hkept.consumed hconsumed
  exact ⟨k', hk', hkept.id.trans hid, hkept.bound _ hbound, hconsumed', htoken'.trans htoken⟩

/-- The row of the record that an exchange works on. -/
lemma WorksOn.kept (hsees : Transactions.Sees EnrollmentDb.Sound EnrollmentDb.Follows c)
    {exchangeId : Text} (h : WorksOn c.seen c.before exchangeId record k) : CodeKept record k := by
  rcases h.copy with rfl | ⟨hmem, -⟩
  · exact .refl _
  · exact (hsees.current 0).row hsees.before hmem h.mem h.id

lemma Repeats.holds {exchangeId : Text} (h : Repeats record node exchangeId result)
    (hk : k ∈ db.joinCodes) (hkept : CodeKept record k) :
    db.Holds result.record.id result.exchangeId result.rawNodeToken := by
  obtain ⟨hconsumed, htoken⟩ := hkept.consumed (Option.isSome_iff_ne_none.mp h.consumed)
  rw [h.ofRecord, h.ofExchange]
  exact ⟨k, hk, hkept.id, hkept.bound _ h.bound, hconsumed, htoken.trans h.token⟩

/-- An exchange leaves its code exchanged for the drawn token. -/
lemma holds_of_consumed (hsees : Transactions.Sees EnrollmentDb.Sound EnrollmentDb.Follows c)
    (hopen : record.consumedAt = none)
    (hworks : WorksOn c.seen c.before r.exchangeId record k) :
    (exchanged c.before r record node (c.seen 1).clock).Holds record.id r.exchangeId
      c.before.nextId := by
  have htoken : some c.before.nextId ≠ record.nodeToken := by
    intro heq
    rcases hworks.copy with rfl | ⟨hmem, -⟩
    · exact absurd (hsees.before.tokens _ hworks.mem _ heq.symm) (lt_irrefl _)
    · have hlt := (hsees.seen 0).tokens record hmem _ heq.symm
      exact absurd hlt (not_lt.mpr (hsees.current 0).nextId)
  refine ⟨_, List.mem_map.mpr ⟨k, hworks.mem, rfl⟩, ?_⟩
  rw [if_pos hworks.id]
  refine ⟨hworks.id, ?_, ?_, column_of_ne htoken⟩
  · change column record.exchangeId (some r.exchangeId) k.exchangeId = some r.exchangeId
    by_cases hbound : some r.exchangeId = record.exchangeId
    · rw [hbound, column_self]
      exact ((hworks.kept hsees).bound _ hbound.symm).trans hbound
    · exact column_of_ne hbound
  · change column record.consumedAt (some (c.seen 1).clock) k.consumedAt ≠ none
    have hnew : some (c.seen 1).clock ≠ record.consumedAt := by
      rw [hopen]
      exact nofun
    rw [column_of_ne hnew]
    exact nofun

/-- A successful exchange finds its code unrevoked and leaves it exchanged for the token. -/
lemma holds_of_move (hsees : Transactions.Sees EnrollmentDb.Sound EnrollmentDb.Follows c)
    (htimely : c.tx.Timely settings c.seen c.before)
    (hmove : EnrollmentMove settings c.tx c.seen c.before db' (.exchanged result)) :
    (∃ row ∈ c.before.joinCodes, row.id = result.record.id ∧ row.revokedAt = none) ∧
      db'.Holds result.record.id result.exchangeId result.rawNodeToken := by
  cases hmove with
  | same hnot _ _ _ _ => exact absurd rfl (hnot result)
  | issued _ hissued _ _ => cases hissued
  | revoked _ hrevoked _ => cases hrevoked
  | exchanged r result' htx hanswer hexchanged =>
    obtain rfl := EnrollmentAnswer.exchanged.inj hanswer
    cases hexchanged with
    | repeated record node _ hpresents hrepeats =>
      obtain ⟨row, hworks⟩ := joinExchangeRecord_eq_ok hpresents.found
      refine ⟨⟨row, hworks.mem, ?_, ?_⟩, hrepeats.holds hworks.mem (hworks.kept hsees)⟩
      · rw [hrepeats.ofRecord]
        exact hworks.id
      · exact htimely.unrevoked r record node htx hpresents row hworks.mem hworks.id
    | consumed record node hpresents hopen =>
      obtain ⟨row, hworks⟩ := joinExchangeRecord_eq_ok hpresents.found
      refine ⟨⟨row, hworks.mem, hworks.id, ?_⟩, holds_of_consumed hsees hopen hworks⟩
      exact htimely.unrevoked r record node htx hpresents row hworks.mem hworks.id
  | recovered record node _ result' _ hanswer hmem hrevoked _ hrepeats hdb' =>
    obtain rfl := EnrollmentAnswer.exchanged.inj hanswer
    refine ⟨⟨record, hmem, by rw [hrepeats.ofRecord], hrevoked⟩, ?_⟩
    rw [hdb']
    exact hrepeats.holds hmem (.refl record)

/-- A commit that answers for a code leaves it revoked. -/
lemma Revokes.left {codeId : Uuid} (h : Revokes S c codeId)
    (hsees : Transactions.Sees EnrollmentDb.Sound EnrollmentDb.Follows c)
    (hmove : EnrollmentMove settings c.tx c.seen c.before db' (S.answer c)) :
    ∃ k ∈ db'.joinCodes, k.id = codeId ∧ k.revokedAt ≠ none := by
  obtain ⟨records, hanswer, copy, hcopy, rfl⟩ := h
  cases hmove with
  | same _ hnot _ _ _ => exact absurd hanswer (hnot records)
  | issued _ hissued _ _ => cases hissued.symm.trans hanswer
  | revoked records' hanswer' hrevoked =>
    obtain rfl := (EnrollmentAnswer.revoked.inj (hanswer.symm.trans hanswer')).2
    cases hrevoked with
    | none _ hne => exact absurd rfl hne
    | before record hmem hrevoked =>
      obtain rfl := List.mem_singleton.mp hcopy
      exact ⟨copy, hmem, rfl, Option.isSome_iff_ne_none.mp hrevoked⟩
    | now _ at_ hcopies =>
      have hrow : ∃ k ∈ c.before.joinCodes, k.id = copy.id := by
        rcases (hcopies copy hcopy).2 with hmem | hmem
        · exact ⟨copy, hmem, rfl⟩
        · obtain ⟨k, hk, hkept⟩ := (hsees.current 1).codes copy hmem
          exact ⟨k, hk, hkept.id⟩
      obtain ⟨k, hk, hid⟩ := hrow
      rw [revokeCopies_eq fun k hk => (hcopies k hk).1]
      refine ⟨_, List.mem_map_of_mem hk, ?_⟩
      rw [NodeJoinCode.revokedWith, if_pos (hid ▸ List.mem_map_of_mem hcopy)]
      exact ⟨hid, Option.some_ne_none _⟩
  | exchanged _ _ _ hanswer' _ => cases hanswer'.symm.trans hanswer
  | recovered _ _ _ _ _ hanswer' => cases hanswer'.symm.trans hanswer

/-! ### The condition -/

variable (fleet clock) in
lemma commit_of_presents (htx : c.tx = .exchangeJoinCode r)
    (h : Presents settings c.seen c.before r record node) : ∃ result,
      (enrollment settings fleet clock).answer c = .exchanged result ∧ result.record = record ∧
      ExchangeMove settings c.seen c.before r ((enrollment settings fleet clock).after c) result := by
  obtain ⟨after, result, hok, hrecord⟩ := exchangeJoinCode_of h
  have hcommit : EnrollmentTx.commit settings c.tx c.seen c.before = (after, .exchanged result) := by
    rw [htx]
    simp only [EnrollmentTx.commit, hok, EnrollmentDb.settle]
  have hafter : (enrollment settings fleet clock).after c = after := congrArg Prod.fst hcommit
  refine ⟨result, congrArg Prod.snd hcommit, hrecord, ?_⟩
  rw [hafter]
  exact exchangeJoinCode_eq_ok hok

/-- An exchange whose checks pass on an open copy sets a credential. -/
lemma sets_of_presents (hsees : Transactions.Sees EnrollmentDb.Sound EnrollmentDb.Moved c)
    (htx : c.tx = .exchangeJoinCode r) (h : Presents settings c.seen c.before r record node)
    (hopen : record.consumedAt = none) :
    Sets (enrollment settings fleet clock) c record.id r.exchangeId := by
  obtain ⟨result, hanswer, rfl, hmove⟩ := commit_of_presents fleet clock htx h
  generalize hafter : (enrollment settings fleet clock).after c = after at hmove
  cases hmove with
  | repeated record' node' _ _ hrepeats =>
    have hconsumed := hrepeats.consumed
    rw [← hrepeats.ofRecord, hopen] at hconsumed
    cases hconsumed
  | consumed record' node' hpresents _ => exact sets_of_consumed hsees hpresents hanswer hafter

/-- An exchange that goes right is timely. -/
lemma timely_of {earlier : List (Commit EnrollmentDb EnrollmentTx)}
    (hsees : Transactions.Sees EnrollmentDb.Sound EnrollmentDb.Moved c)
    (hrecorded : ∀ k ∈ c.before.joinCodes, Recorded (enrollment settings fleet clock) earlier k)
    (honce : ∀ e ∈ earlier, ∀ codeId x x', Sets (enrollment settings fleet clock) e codeId x →
      ¬Sets (enrollment settings fleet clock) c codeId x')
    (hfinal : ∀ e ∈ earlier, ∀ codeId, Revokes (enrollment settings fleet clock) e codeId →
      ∀ x token, ¬Succeeds (enrollment settings fleet clock) c codeId x token)
    (hbound : ∀ k ∈ c.before.joinCodes, ∀ x, Sets (enrollment settings fleet clock) c k.id x →
      ∀ own ∈ k.exchangeId, own = x) : c.tx.Timely settings c.seen c.before := by
  constructor
  · intro r record node htx hpresents row hrow hid
    by_contra hne
    obtain ⟨e, he, hrevokes⟩ := (hrecorded row hrow).revoked hne
    obtain ⟨result, hanswer, hrecord, -⟩ :=
      commit_of_presents fleet clock htx hpresents
    exact hfinal e he row.id hrevokes _ _ ⟨result, hanswer, by rw [hrecord, hid], rfl, rfl⟩
  · intro r record node htx hpresents hopen row hrow hid
    have hsets : Sets (enrollment settings fleet clock) c row.id r.exchangeId :=
      hid ▸ sets_of_presents hsees htx hpresents hopen
    refine ⟨?_, hbound row hrow r.exchangeId hsets⟩
    by_contra hne
    obtain ⟨e, he, x, hearlier⟩ := (hrecorded row hrow).consumed hne
    exact honce e he row.id x r.exchangeId hearlier hsets

/-- Join codes are exchanged exactly once, and never after they were revoked, exactly when each
exchange decides on a copy that is still right where it commits. -/
theorem joinCodeExchange_iff (settings : EnrollmentSettings) (fleet : NodeFleet) (clock : Instant)
    (schedule : List (Scheduled EnrollmentTx)) :
    JoinCodeExchange (enrollment settings fleet clock) schedule ↔
      ∀ c ∈ (enrollment settings fleet clock).commits schedule,
        c.tx.Timely settings c.seen c.before := by
  have hran : (enrollment settings fleet clock).Ran EnrollmentDb.Sound EnrollmentDb.Moved
      schedule := enrollment_ran
  constructor
  · intro h c hc
    obtain ⟨s, earlier, hsuffix, rfl⟩ := Transactions.exists_next_of_mem _ hc
    have hcommits := Transactions.commits_suffix (enrollment settings fleet clock) hsuffix
    rw [Transactions.commits_cons] at hcommits
    have honce := (List.pairwise_cons.mp (h.once.sublist hcommits.sublist)).1
    have hfinal := (List.pairwise_cons.mp (h.final.sublist hcommits.sublist)).1
    exact timely_of (hran.sees_of_mem hc) recorded_of_mem honce hfinal (h.bound _ hc)
  · intro h
    have hfollows := enrollment_follows h
    have hholds : ∀ c ∈ (enrollment settings fleet clock).commits schedule,
        ∀ codeId x token, Succeeds (enrollment settings fleet clock) c codeId x token →
        (∃ row ∈ c.before.joinCodes, row.id = codeId ∧ row.revokedAt = none) ∧
          ((enrollment settings fleet clock).after c).Holds codeId x token := by
      rintro c hc codeId x token ⟨result, hanswer, rfl, rfl, rfl⟩
      exact holds_of_move (hfollows.sees_of_mem hc) (h c hc)
        (hanswer ▸ enrollmentMove settings fleet clock c)
    constructor
    · refine hfollows.pairwise.imp_of_mem fun {later earlier} hlater hearlier hpair => ?_
      intro codeId x x' hsets hsets'
      obtain ⟨token, hsucceeds, -⟩ := hsets
      obtain ⟨k, hk, hid, -, hconsumed, -⟩ :=
        ((hholds earlier hearlier codeId x token hsucceeds).2).follows hpair.2
      obtain ⟨r, record, node, htx, hpresents, hopen, hrecord, -⟩ :=
        hsets'.consumed (enrollmentMove settings fleet clock later)
      exact hconsumed ((h later hlater).unconsumed r record node htx hpresents hopen k hk
        (hid.trans hrecord.symm)).1
    · refine hfollows.pairwise.imp_of_mem fun {later earlier} hlater hearlier hpair => ?_
      intro codeId codeId' x token token' hsucceeds hsucceeds'
      have hstep := follows_of_move (h later hlater) (enrollmentMove settings fleet clock later)
      obtain ⟨k, hk, -, hbound, -, htoken⟩ :=
        ((hholds earlier hearlier codeId x token hsucceeds).2.follows hpair.2).follows hstep
      obtain ⟨k', hk', -, hbound', -, htoken'⟩ := (hholds later hlater codeId' x token' hsucceeds').2
      have hsound := (hran.after_of_mem hlater).1
      obtain rfl := hsound.exchanges k hk k' hk' x hbound hbound'
      exact Option.some.inj (htoken'.symm.trans htoken)
    · intro c hc result hanswer
      exact current_of_move (hran.sees_of_mem hc) (hanswer ▸ enrollmentMove settings fleet clock c)
    · intro c hc k hk x hsets
      obtain ⟨r, record, node, htx, hpresents, hopen, hrecord, rfl⟩ :=
        hsets.consumed (enrollmentMove settings fleet clock c)
      exact ((h c hc).unconsumed r record node htx hpresents hopen k hk hrecord.symm).2
    · intro c hc k hk x hsets
      obtain ⟨token, hsucceeds, -⟩ := hsets
      obtain ⟨k', hk', hid, hbound, -, -⟩ := (hholds c hc k.id x token hsucceeds).2
      rw [eq_of_key_eq (hran.after_of_mem hc).1.codes hk hk' hid.symm]
      exact hbound
    · refine hfollows.pairwise.imp_of_mem fun {later earlier} hlater hearlier hpair => ?_
      intro codeId hrevokes x token hsucceeds
      obtain ⟨k, hk, hid, hrevoked⟩ := hrevokes.left (hfollows.sees_of_mem hearlier)
        (enrollmentMove settings fleet clock earlier)
      obtain ⟨row, hrow, hrowId, hopen⟩ := (hholds later hlater codeId x token hsucceeds).1
      have hkept := hpair.2.row (hfollows.sees_of_mem hlater).before hk hrow (hrowId.trans hid.symm)
      exact hkept.revoked hrevoked hopen

end

/-! ### A copy that misses a consumption -/

def sampleEnrollmentSettings : EnrollmentSettings where
  enrollmentEnabled := true
  publicOrigin := "https://agent.example".toList
  expectedReleaseProfile := "stable".toList
  expectedWrapperVersion := "1.0.0".toList
  expectedSkillVersion := "1.0.0".toList
  expectedSkillTreeSha256 := "00".toList
  sha256Hex text := text.map Char.toLower
  uuidText id := List.replicate id '1'

def sampleFleet : NodeFleet where
  nodes := [⟨1, .offline, none, [], false, some 0, none, none⟩]
  nextId := 1
  drawn := by simp

def sampleIssue : IssueJoinCode where
  actor := ⟨2, .admin, .active⟩
  nodeId := 1
  expiresInSeconds := 900
  egoBrowserEnabled := none
  exchangeId := some "managed-exchange-0001".toList

def sampleExchange : JoinExchange where
  nodeId := some 1
  version := "1".toList
  joinCode := some "jcode_0000000000".toList
  exchangeId := "managed-exchange-0001".toList
  releaseProfile := none
  wrapperVersion := some "1.0.0".toList
  skillVersion := some "1.0.0".toList
  runtimeVersion := none
  artifactDigest := some "sha256:00".toList
  profileDigest := none
  egoBrowserEnabled := none

/-- The second exchange has loaded the code under its identifier before the first one commits. -/
def sampleExchangeSchedule : List (Scheduled EnrollmentTx) :=
  [.stale (.exchangeJoinCode sampleExchange) 1 1, .fresh (.exchangeJoinCode sampleExchange),
    .fresh (.issueJoinCode sampleIssue "jcode_0000000000".toList)]

/-- What an exchange answers, when it succeeds. -/
def EnrollmentAnswer.outcome : EnrollmentAnswer → Option (Uuid × Text × Uuid)
  | .exchanged result => some (result.record.id, result.exchangeId, result.rawNodeToken)
  | _ => none

lemma succeeds_of_outcome {S : Transactions EnrollmentDb EnrollmentTx EnrollmentAnswer}
    {c : Commit EnrollmentDb EnrollmentTx} {codeId token : Uuid} {exchangeId : Text}
    (h : (S.answer c).outcome = some (codeId, exchangeId, token)) :
    Succeeds S c codeId exchangeId token := by
  unfold EnrollmentAnswer.outcome at h
  split at h
  · rename_i result hanswer
    obtain ⟨hid, hrest⟩ := Prod.mk.inj (Option.some.inj h)
    obtain ⟨hexchange, htoken⟩ := Prod.mk.inj hrest
    exact ⟨result, hanswer, hid, hexchange, htoken⟩
  · cases h

theorem stale_copy_exchanges_again :
    ¬JoinCodeExchange (enrollment sampleEnrollmentSettings sampleFleet 0)
      sampleExchangeSchedule := by
  intro h
  let S := enrollment sampleEnrollmentSettings sampleFleet 0
  let issued : List (Scheduled EnrollmentTx) :=
    [.fresh (.issueJoinCode sampleIssue "jcode_0000000000".toList)]
  let first : Scheduled EnrollmentTx := .fresh (.exchangeJoinCode sampleExchange)
  let second : Scheduled EnrollmentTx := .stale (.exchangeJoinCode sampleExchange) 1 1
  have hsame := h.same
  have hcommits : S.commits sampleExchangeSchedule =
      S.next (first :: issued) second :: S.next issued first :: S.commits issued := by
    rw [sampleExchangeSchedule, Transactions.commits_cons, Transactions.commits_cons]
  rw [hcommits] at hsame
  have hfirst : Succeeds S (S.next issued first) 1 sampleExchange.exchangeId 2 :=
    succeeds_of_outcome (by decide +kernel)
  have hsecond : Succeeds S (S.next (first :: issued) second) 1 sampleExchange.exchangeId 3 :=
    succeeds_of_outcome (by decide +kernel)
  have heq := (List.pairwise_cons.mp hsame).1 _ List.mem_cons_self 1 1 _ 2 3 hfirst hsecond
  exact absurd heq (by decide)

end AgentRemote.Enrollment
