import AgentRemote.Enrollment.Service

/-!
# Enrollment as a system

The transactions on join codes, and what each of them makes of the codes and nodes.
-/

namespace AgentRemote.Enrollment
open Library PortForwards

inductive EnrollmentTx where
  | tick (elapsed : ℕ)
  | issueJoinCode (request : IssueJoinCode) (rawCode : Text)
  | revokeJoinCodes (actor : PortForwards.User) (nodeId : Uuid) (exchangeId : Option Text)
  | exchangeJoinCode (request : JoinExchange)
  | recoverJoinExchange (attemptedRecordId : Uuid) (expectedCode : Text) (request : JoinExchange)

inductive EnrollmentAnswer where
  | done
  | failed (failure : EnrollmentFailure)
  | issued (record : NodeJoinCode)
  | revoked (state : JoinCodeState) (records : List NodeJoinCode)
  | exchanged (result : JoinCodeExchangeResult)

/-- The state that an operation leaves, and its answer. -/
def EnrollmentDb.settle {α : Type} (db : EnrollmentDb) (f : α → EnrollmentAnswer) :
    Except EnrollmentFailure (EnrollmentDb × α) → EnrollmentDb × EnrollmentAnswer
  | .ok (after, a) => (after, f a)
  | .error e => (db, .failed e)

def EnrollmentTx.commit (settings : EnrollmentSettings) (t : EnrollmentTx)
    (seen : ℕ → EnrollmentDb) (db : EnrollmentDb) : EnrollmentDb × EnrollmentAnswer :=
  match t with
  | .tick elapsed => ({ db with clock := db.clock + elapsed }, .done)
  | .issueJoinCode r rawCode =>
    db.settle .issued (Enrollment.issueJoinCode settings seen db r rawCode)
  | .revokeJoinCodes actor nodeId exchangeId =>
    db.settle (fun a => .revoked a.1 a.2) (Enrollment.revokeJoinCodes seen db actor nodeId exchangeId)
  | .exchangeJoinCode r =>
    db.settle .exchanged (Enrollment.exchangeJoinCode settings seen db r)
  | .recoverJoinExchange attempted code r =>
    db.settle .exchanged
      ((Enrollment.recoverJoinExchange settings seen db attempted code r).map fun a => (db, a))

/-- The transactions on the join codes of a server. -/
def enrollment (settings : EnrollmentSettings) (fleet : NodeFleet) (clock : Instant) :
    Transactions EnrollmentDb EnrollmentTx EnrollmentAnswer :=
  ⟨⟨fleet.nodes, [], fleet.nextId, clock⟩, EnrollmentTx.commit settings⟩

/-- The statement of a transaction that reads the node. -/
def EnrollmentTx.nodeRead : EnrollmentTx → ℕ
  | .recoverJoinExchange .. => 0
  | _ => 2

/-! ### What an operation leaves -/

section

variable {settings : EnrollmentSettings} {seen : ℕ → EnrollmentDb} {db db' : EnrollmentDb}
  {record : NodeJoinCode} {node : Node} {result : JoinCodeExchangeResult}

/-- What a successful issue adds. -/
structure Issued (db : EnrollmentDb) (record : NodeJoinCode) : Prop where
  id : record.id = db.nextId
  consumedAt : record.consumedAt = none
  revokedAt : record.revokedAt = none
  nodeToken : record.nodeToken = none
  unbound : ∀ exchangeId ∈ record.exchangeId, db.byExchange exchangeId = none

lemma issueJoinCode_eq_ok {r : IssueJoinCode} {rawCode : Text}
    (h : Enrollment.issueJoinCode settings seen db r rawCode = .ok (db', record)) :
    Issued db record ∧
      db' = { db with joinCodes := db.joinCodes ++ [record], nextId := db.nextId + 1 } := by
  unfold Enrollment.issueJoinCode at h
  obtain ⟨_, -, h⟩ := bind_eq_ok.mp h
  obtain ⟨_, -, h⟩ := bind_eq_ok.mp h
  simp only [reject_bind_eq_ok] at h
  obtain ⟨-, -, -, h⟩ := h
  obtain ⟨node, -, h⟩ := bind_eq_ok.mp h
  obtain ⟨profile, -, h⟩ := bind_eq_ok.mp h
  rw [reject_bind_eq_ok] at h
  obtain ⟨hfree, h⟩ := h
  obtain ⟨rfl, rfl⟩ := Prod.mk.inj (Except.ok.inj h)
  refine ⟨⟨rfl, rfl, rfl, rfl, fun exchangeId hid => ?_⟩, rfl⟩
  push Not at hfree
  have hnone : ¬(r.exchangeId.bind db.byExchange).isSome := hfree.2.1
  have hid : r.exchangeId = some exchangeId := hid
  rw [hid, Option.bind_some] at hnone
  simpa using hnone

/-- What a successful revocation answers for. -/
inductive RevokeMove (seen : ℕ → EnrollmentDb) (db : EnrollmentDb) :
    EnrollmentDb → JoinCodeState → List NodeJoinCode → Prop
  | none (state : JoinCodeState) : state ≠ .revoked → RevokeMove seen db db state []
  | before (record : NodeJoinCode) : record ∈ db.joinCodes → record.revokedAt.isSome →
    RevokeMove seen db db .revoked [record]
  | now (records : List NodeJoinCode) (at_ : Instant) : (∀ k ∈ records, k.revokedAt = .none ∧
      (k ∈ db.joinCodes ∨ k ∈ (seen 1).joinCodes)) →
    RevokeMove seen db (revokeCopies db records at_) .revoked records

lemma revokeJoinCodes_eq_ok {actor : PortForwards.User} {nodeId : Uuid} {exchangeId : Option Text}
    {state : JoinCodeState} {records : List NodeJoinCode}
    (h : Enrollment.revokeJoinCodes seen db actor nodeId exchangeId = .ok (db', state, records)) :
    RevokeMove seen db db' state records := by
  unfold Enrollment.revokeJoinCodes at h
  obtain ⟨_, -, h⟩ := bind_eq_ok.mp h
  obtain ⟨_, -, h⟩ := bind_eq_ok.mp h
  rw [reject_bind_eq_ok] at h
  have h := h.2
  cases exchangeId with
  | some exchangeId =>
    dsimp only at h
    split at h
    · cases h
      exact .none _ nofun
    · rename_i row hrow
      have hmem := List.mem_of_find?_eq_some hrow
      split_ifs at h with hconsumed hrevoked
      · cases h
        exact .none _ nofun
      · cases h
        exact .before row hmem hrevoked
      · cases h
        refine .now [row] _ fun k hk => ?_
        obtain rfl := List.mem_singleton.mp hk
        exact ⟨by simpa using hrevoked, .inl hmem⟩
  | none =>
    cases h
    refine .now _ _ fun k hk => ?_
    obtain ⟨hk, hopen⟩ := List.mem_filter.mp hk
    simp only [decide_eq_true_eq] at hopen
    exact ⟨hopen.2.2, .inr hk⟩

/-- Where the record of an exchange comes from. -/
structure WorksOn (seen : ℕ → EnrollmentDb) (db : EnrollmentDb) (exchangeId : Text)
    (record row : NodeJoinCode) : Prop where
  mem : row ∈ db.joinCodes
  id : row.id = record.id
  copy : record = row ∨ record ∈ (seen 0).joinCodes ∧ record.exchangeId = some exchangeId

lemma joinExchangeRecord_eq_ok {r : JoinExchange} (h : joinExchangeRecord seen db r = .ok record) :
    ∃ row, WorksOn seen db r.exchangeId record row := by
  have hcopy : ∀ row ∈ db.joinCodes,
      ((((seen 0).byExchange r.exchangeId).filter (·.id = row.id)).getD row) = record →
      WorksOn seen db r.exchangeId record row := by
    intro row hrow hrecord
    cases hloaded : ((seen 0).byExchange r.exchangeId).filter (·.id = row.id) with
    | none =>
      rw [hloaded] at hrecord
      exact ⟨hrow, congrArg NodeJoinCode.id hrecord, .inl hrecord.symm⟩
    | some copy =>
      rw [hloaded] at hrecord
      obtain rfl : copy = record := hrecord
      obtain ⟨hfound, hid⟩ := Option.filter_eq_some_iff.mp hloaded
      refine ⟨hrow, (of_decide_eq_true hid).symm, .inr ⟨List.mem_of_find?_eq_some hfound, ?_⟩⟩
      simpa using List.find?_some hfound
  unfold joinExchangeRecord at h
  dsimp only at h
  split at h
  · split at h
    · cases h
    · rename_i row hrow
      exact ⟨row, hcopy row (List.mem_of_find?_eq_some hrow) (Except.ok.inj h)⟩
  · split at h
    · cases h
    · rename_i row hrow
      rw [reject_bind_eq_ok] at h
      exact ⟨row, hcopy row (mem_of_lookup hrow) (Except.ok.inj h.2)⟩

/-- What a valid record and its node are. -/
lemma validateJoinExchangeRecord_eq_ok {at_ : EnrollmentDb} {r : JoinExchange}
    {expected : Option Text} {echo : Bool}
    (h : validateJoinExchangeRecord settings at_ r expected echo record = .ok node) :
    record.revokedAt = none ∧ node ∈ at_.nodes ∧ node.id = record.nodeId := by
  unfold validateJoinExchangeRecord at h
  rw [reject_bind_eq_ok] at h
  have h := h.2
  split at h
  · cases h
  · simp only [reject_bind_eq_ok] at h
    obtain ⟨hrevoked, -, h⟩ := h
    split at h
    · cases h
    · rename_i found hfound
      simp only [reject_bind_eq_ok] at h
      have hnode : found = node := by
        obtain ⟨-, -, -, h⟩ := h
        split_ifs at h
        · obtain ⟨_, -, h⟩ := bind_eq_ok.mp h
          exact Except.ok.inj h
        · exact Except.ok.inj h
      rw [hnode] at hfound
      obtain ⟨hfound, -⟩ := Option.filter_eq_some_iff.mp hfound
      exact ⟨by simpa using hrevoked, mem_of_lookup hfound, key_of_lookup hfound⟩

/-- What a recovered result repeats. -/
structure Repeats (record : NodeJoinCode) (node : Node) (exchangeId : Text)
    (result : JoinCodeExchangeResult) : Prop where
  ofRecord : result.record = record
  ofNode : result.node = node
  ofExchange : result.exchangeId = exchangeId
  bound : record.exchangeId = some exchangeId
  consumed : record.consumedAt.isSome
  token : record.nodeToken = some result.rawNodeToken
  credential : node.nodeToken = some result.rawNodeToken

lemma consumedJoinExchangeResult_eq_ok {exchangeId : Text} {now : Instant}
    (h : consumedJoinExchangeResult record node exchangeId now = .ok result) :
    Repeats record node exchangeId result := by
  unfold consumedJoinExchangeResult at h
  dsimp only at h
  split at h
  · rename_i consumedAt rawToken hconsumed htoken
    rw [reject_bind_eq_ok] at h
    obtain ⟨hbound, h⟩ := h
    split at h
    · cases h
    · simp only [reject_bind_eq_ok] at h
      obtain ⟨-, hcredential, h⟩ := h
      obtain rfl := Except.ok.inj h
      exact ⟨rfl, rfl, rfl, not_not.mp hbound, by rw [hconsumed]; rfl, htoken,
        not_not.mp hcredential⟩
  · cases h

/-- The checks of an exchange, on the copy of its record. -/
structure Presents (settings : EnrollmentSettings) (seen : ℕ → EnrollmentDb) (db : EnrollmentDb)
    (r : JoinExchange) (record : NodeJoinCode) (node : Node) : Prop where
  enabled : settings.enrollmentEnabled = true
  code : (r.joinCode.any fun code => code.length < 16 ∨ 4096 < code.length ∨
    code.any fun c => c.toNat < 0x21 || c.toNat = 0x7F) = false
  exchangeId : validJoinExchangeId r.exchangeId = true
  found : joinExchangeRecord seen db r = .ok record
  valid : validateJoinExchangeRecord settings (seen 2) r r.joinCode r.joinCode.isSome record =
    .ok node
  recoverable : record.consumedAt.isSome →
    (consumedJoinExchangeResult record node r.exchangeId (seen 1).clock).isOk = true
  usable : record.consumedAt = none → (seen 1).clock < record.expiresAt ∧ r.joinCode.isSome ∧
    (record.exchangeId ≠ some r.exchangeId → db.exchangeTaken r.exchangeId record.id = false)

/-- The ways an exchange succeeds. -/
inductive ExchangeMove (settings : EnrollmentSettings) (seen : ℕ → EnrollmentDb)
    (db : EnrollmentDb) (r : JoinExchange) : EnrollmentDb → JoinCodeExchangeResult → Prop
  | repeated (record : NodeJoinCode) (node : Node) (result : JoinCodeExchangeResult) :
    Presents settings seen db r record node → Repeats record node r.exchangeId result →
    ExchangeMove settings seen db r db result
  | consumed (record : NodeJoinCode) (node : Node) : Presents settings seen db r record node →
    record.consumedAt = none → ExchangeMove settings seen db r
      (exchanged db r record node (seen 1).clock) ⟨record, node, db.nextId, r.exchangeId⟩

lemma exchangeJoinCode_eq_ok {r : JoinExchange}
    (h : Enrollment.exchangeJoinCode settings seen db r = .ok (db', result)) :
    ExchangeMove settings seen db r db' result := by
  unfold Enrollment.exchangeJoinCode requireEnrollment at h
  simp only [reject_bind_eq_ok] at h
  obtain ⟨henabled, hcode, hid, h⟩ := h
  obtain ⟨record, hfound, h⟩ := bind_eq_ok.mp h
  obtain ⟨node, hvalid, h⟩ := bind_eq_ok.mp h
  have hpresents : (record.consumedAt.isSome →
        (consumedJoinExchangeResult record node r.exchangeId (seen 1).clock).isOk = true) →
      (record.consumedAt = none → (seen 1).clock < record.expiresAt ∧ r.joinCode.isSome ∧
        (record.exchangeId ≠ some r.exchangeId →
          db.exchangeTaken r.exchangeId record.id = false)) →
      Presents settings seen db r record node := fun hrecoverable husable =>
    ⟨by simpa using henabled, by simpa using hcode, by simpa using hid, hfound, hvalid,
      hrecoverable, husable⟩
  split_ifs at h with hconsumed
  · obtain ⟨repeated, hrepeated, h⟩ := bind_eq_ok.mp h
    obtain ⟨rfl, rfl⟩ := Prod.mk.inj (Except.ok.inj h)
    refine .repeated record node repeated (hpresents (fun _ => by rw [hrepeated]; rfl) ?_)
      (consumedJoinExchangeResult_eq_ok hrepeated)
    intro hnone
    rw [hnone] at hconsumed
    cases hconsumed
  · simp only [reject_bind_eq_ok] at h
    obtain ⟨hexpired, hnocode, htaken, h⟩ := h
    obtain ⟨rfl, rfl⟩ := Prod.mk.inj (Except.ok.inj h)
    refine .consumed record node (hpresents (fun hsome => absurd hsome hconsumed) fun _ => ?_)
      (by simpa using hconsumed)
    refine ⟨not_le.mp hexpired, by simpa [Option.isSome_iff_ne_none] using hnocode, fun hne => ?_⟩
    simpa [hne] using htaken

/-- An exchange whose checks pass succeeds. -/
lemma exchangeJoinCode_of {r : JoinExchange} (h : Presents settings seen db r record node) :
    ∃ db' result, Enrollment.exchangeJoinCode settings seen db r = .ok (db', result) ∧
      result.record = record := by
  unfold Enrollment.exchangeJoinCode requireEnrollment
  rw [reject_of_not (by simp [h.enabled]), ok_bind, reject_of_not (Bool.eq_false_iff.mp h.code), ok_bind,
    reject_of_not (by simp [h.exchangeId]), ok_bind, h.found, ok_bind]
  dsimp only
  rw [h.valid, ok_bind]
  split_ifs with hconsumed
  · cases hrepeated : consumedJoinExchangeResult record node r.exchangeId (seen 1).clock with
    | error e =>
      have hok := h.recoverable hconsumed
      rw [hrepeated] at hok
      cases hok
    | ok result => exact ⟨db, result, rfl, (consumedJoinExchangeResult_eq_ok hrepeated).ofRecord⟩
  · obtain ⟨hlt, hcode, htaken⟩ := h.usable (by simpa using hconsumed)
    rw [reject_of_not (not_le.mpr hlt), ok_bind, reject_of_not (by simpa [Option.isSome_iff_ne_none] using hcode),
      ok_bind, reject_of_not (fun hcon => by simp [htaken hcon.1] at hcon), ok_bind]
    exact ⟨_, _, rfl, rfl⟩

/-- What a transaction makes of the tables. -/
inductive EnrollmentMove (settings : EnrollmentSettings) (t : EnrollmentTx)
    (seen : ℕ → EnrollmentDb) (db db' : EnrollmentDb) (a : EnrollmentAnswer) : Prop
  | same : (∀ result, a ≠ .exchanged result) → (∀ records, a ≠ .revoked .revoked records) →
    db'.nodes = db.nodes → db'.joinCodes = db.joinCodes → db'.nextId = db.nextId →
    EnrollmentMove settings t seen db db' a
  | issued (record : NodeJoinCode) : a = .issued record → Issued db record →
    db' = { db with joinCodes := db.joinCodes ++ [record], nextId := db.nextId + 1 } →
    EnrollmentMove settings t seen db db' a
  | revoked (records : List NodeJoinCode) : a = .revoked .revoked records →
    RevokeMove seen db db' .revoked records → EnrollmentMove settings t seen db db' a
  | exchanged (r : JoinExchange) (result : JoinCodeExchangeResult) : t = .exchangeJoinCode r →
    a = .exchanged result → ExchangeMove settings seen db r db' result →
    EnrollmentMove settings t seen db db' a
  | recovered (record : NodeJoinCode) (node : Node) (exchangeId : Text)
    (result : JoinCodeExchangeResult) : t.nodeRead = 0 → a = .exchanged result →
    record ∈ db.joinCodes → record.revokedAt = none → node ∈ (seen 0).nodes →
    Repeats record node exchangeId result → db' = db → EnrollmentMove settings t seen db db' a

variable (settings seen db) in
lemma enrollmentMove_of_commit (t : EnrollmentTx) : EnrollmentMove settings t seen db
    (t.commit settings seen db).1 (t.commit settings seen db).2 := by
  cases t with
  | tick elapsed => exact .same (fun _ h => nomatch h) (fun _ h => nomatch h) rfl rfl rfl
  | issueJoinCode r rawCode =>
    simp only [EnrollmentTx.commit]
    cases hop : Enrollment.issueJoinCode settings seen db r rawCode with
    | error e => exact .same (fun _ h => nomatch h) (fun _ h => nomatch h) rfl rfl rfl
    | ok x =>
      obtain ⟨hissued, hdb'⟩ := issueJoinCode_eq_ok hop
      exact .issued x.2 rfl hissued hdb'
  | revokeJoinCodes actor nodeId exchangeId =>
    simp only [EnrollmentTx.commit]
    cases hop : Enrollment.revokeJoinCodes seen db actor nodeId exchangeId with
    | error e => exact .same (fun _ h => nomatch h) (fun _ h => nomatch h) rfl rfl rfl
    | ok x =>
      obtain ⟨after, state, records⟩ := x
      have hmove := revokeJoinCodes_eq_ok hop
      by_cases hstate : state = .revoked
      · subst hstate
        exact .revoked records rfl hmove
      · cases hmove with
        | none =>
          refine .same (fun _ h => nomatch h) (fun _ h => ?_) rfl rfl rfl
          exact hstate (EnrollmentAnswer.revoked.inj h).1
        | before => exact absurd rfl hstate
        | now => exact absurd rfl hstate
  | exchangeJoinCode r =>
    simp only [EnrollmentTx.commit]
    cases hop : Enrollment.exchangeJoinCode settings seen db r with
    | error e => exact .same (fun _ h => nomatch h) (fun _ h => nomatch h) rfl rfl rfl
    | ok x => exact .exchanged r x.2 rfl rfl (exchangeJoinCode_eq_ok hop)
  | recoverJoinExchange attempted code r =>
    simp only [EnrollmentTx.commit]
    cases hop : Enrollment.recoverJoinExchange settings seen db attempted code r with
    | error e => exact .same (fun _ h => nomatch h) (fun _ h => nomatch h) rfl rfl rfl
    | ok result =>
      unfold Enrollment.recoverJoinExchange at hop
      split at hop
      · cases hop
      · rename_i record hrecord
        rw [reject_bind_eq_ok] at hop
        obtain ⟨node, hvalid, hresult⟩ := bind_eq_ok.mp hop.2
        obtain ⟨hrevoked, hnode, -⟩ := validateJoinExchangeRecord_eq_ok hvalid
        exact .recovered record node r.exchangeId result rfl rfl
          (List.mem_of_find?_eq_some hrecord) hrevoked hnode
          (consumedJoinExchangeResult_eq_ok hresult) rfl

end

end AgentRemote.Enrollment
