import Mathlib.Tactic

/-!
# Values that can be taken once

A store keeps a value under a key until a deadline. A value is put where no live one stands,
and taking it removes it, so a run hands out each value that it put at most once, and only
before its deadline.
-/

namespace AgentRemote.Library

/-- A value and the time from which on it is gone. -/
structure Timed (α : Type*) where
  value : α
  expiresAt : ℤ

/-- The values under their keys. -/
abbrev ExpiringStore (κ α : Type*) := κ → Option (Timed α)

/-- A call on a store. The time to live counts units of the clock's time. -/
inductive StoreOp (κ α : Type*) where
  | issue (key : κ) (value : α) (ttl : ℕ)
  | redeem (key : κ)

def StoreOp.key {κ α : Type*} : StoreOp κ α → κ
  | issue key _ _ => key
  | redeem key => key

/-- The answer to a call. A store may also fail to read what it holds. -/
inductive StoreAnswer (α : Type*) where
  | issued
  | collision
  | redeemed (value : Option α)
  | failed

/-- A call that was answered, and when. -/
@[ext] structure Served (κ α : Type*) where
  now : ℤ
  op : StoreOp κ α
  answer : StoreAnswer α

/-- The calls of a run, latest first, with their answers, and the store after it. -/
def serveAll {S κ α : Type*} (serve : S → ℤ → StoreOp κ α → S × StoreAnswer α) (init : S) :
    List (ℤ × StoreOp κ α) → S × List (Served κ α)
  | [] => (init, [])
  | (now, op) :: past =>
    let (s, served) := serveAll serve init past
    let (s, answer) := serve s now op
    (s, ⟨now, op, answer⟩ :: served)

namespace ExpiringStore

variable {κ α : Type*} [DecidableEq κ]

def empty : ExpiringStore κ α := fun _ => none

/-- The value under a key, unless its time is over. -/
def live (s : ExpiringStore κ α) (now : ℤ) (k : κ) : Option α :=
  (s k).bind fun t => if t.expiresAt ≤ now then none else some t.value

/-- Puts a value where none is live, and tells whether it did. -/
def putNew (s : ExpiringStore κ α) (now : ℤ) (k : κ) (v : α) (expiresAt : ℤ) :
    ExpiringStore κ α × Bool :=
  match s.live now k with
  | some _ => (s, false)
  | none => (Function.update s k (some ⟨v, expiresAt⟩), true)

/-- Takes the value under a key out of the store. -/
def take (s : ExpiringStore κ α) (now : ℤ) (k : κ) : ExpiringStore κ α × Option α :=
  (Function.update s k none, s.live now k)

def serve (unit : ℤ) (s : ExpiringStore κ α) (now : ℤ) :
    StoreOp κ α → ExpiringStore κ α × StoreAnswer α
  | .issue k v ttl =>
    match s.putNew now k v (now + unit * ttl) with
    | (s, true) => (s, .issued)
    | (s, false) => (s, .collision)
  | .redeem k => ((s.take now k).1, .redeemed (s.take now k).2)

/-- The run of a store that starts empty. -/
abbrev run (unit : ℤ) (calls : List (ℤ × StoreOp κ α)) : ExpiringStore κ α × List (Served κ α) :=
  serveAll (serve unit) empty calls

/-! ### One-time use -/

/-- The history holds a successful issue that nothing has touched since. -/
def Outstanding (unit : ℤ) (history : List (Served κ α)) (k : κ) (v : α) (deadline : ℤ) : Prop :=
  ∃ between rest t, ∃ ttl : ℕ, history = between ++ ⟨t, .issue k v ttl, .issued⟩ :: rest ∧
    deadline = t + unit * ttl ∧ ∀ e ∈ between, e.op.key = k → e.answer = .collision

section

variable {s : ExpiringStore κ α} {now : ℤ} {k k' : κ} {v : α} {history : List (Served κ α)}
  {deadline unit : ℤ} {e : Served κ α}

omit [DecidableEq κ] in
lemma live_eq_some : s.live now k = some v ↔ ∃ t, s k = some t ∧ now < t.expiresAt ∧ t.value = v := by
  unfold live
  cases s k with
  | none => simp
  | some t => simp

omit [DecidableEq κ] in
lemma Outstanding.cons (h : Outstanding unit history k v deadline)
    (he : e.op.key = k → e.answer = .collision) : Outstanding unit (e :: history) k v deadline := by
  obtain ⟨between, rest, t, ttl, rfl, rfl, hbetween⟩ := h
  refine ⟨e :: between, rest, t, ttl, rfl, rfl, ?_⟩
  intro e' he'
  rcases List.mem_cons.mp he' with rfl | he'
  · exact he
  · exact hbetween e' he'

/-- What a store holds is outstanding. -/
def Backed (unit : ℤ) (s : ExpiringStore κ α) (history : List (Served κ α)) : Prop :=
  ∀ k t, s k = some t → Outstanding unit history k t.value t.expiresAt

lemma Backed.serve (h : Backed unit s history) (now : ℤ) (op : StoreOp κ α) :
    Backed unit (s.serve unit now op).1 (⟨now, op, (s.serve unit now op).2⟩ :: history) := by
  cases op with
  | issue k v ttl =>
    simp only [ExpiringStore.serve, putNew]
    cases hlive : s.live now k with
    | some old => exact fun k' t ht => (h k' t ht).cons fun _ => rfl
    | none =>
      intro k' t ht
      simp only [Function.update_apply] at ht
      split_ifs at ht with hk
      · subst hk
        obtain rfl := Option.some.inj ht
        exact ⟨[], history, now, ttl, rfl, rfl, by simp⟩
      · exact (h k' t ht).cons fun hkey => absurd hkey.symm hk
  | redeem k =>
    intro k' t ht
    simp only [ExpiringStore.serve, take, Function.update_apply] at ht
    split_ifs at ht with hk
    exact (h k' t ht).cons fun hkey => absurd hkey.symm hk

lemma backed_run (calls : List (ℤ × StoreOp κ α)) :
    Backed unit (run unit calls).1 (run unit calls).2 := by
  induction calls with
  | nil => exact fun k t ht => by cases ht
  | cons call past ih => exact ih.serve call.1 call.2

/-- A value is redeemed only before its deadline, as it was issued, and with no redemption
since then. -/
theorem redeemed_outstanding {calls : List (ℤ × StoreOp κ α)} {later earlier : List (Served κ α)}
    (h : (run unit calls).2 = later ++ ⟨now, .redeem k, .redeemed (some v)⟩ :: earlier) :
    ∃ deadline, now < deadline ∧ Outstanding unit earlier k v deadline := by
  induction calls generalizing later with
  | nil => simp [run, serveAll] at h
  | cons call past ih =>
    obtain ⟨time, op⟩ := call
    have hrun : (run unit ((time, op) :: past)).2 =
        ⟨time, op, ((run unit past).1.serve unit time op).2⟩ :: (run unit past).2 := rfl
    rw [hrun] at h
    cases later with
    | cons e later => exact ih (List.cons.inj h).2
    | nil =>
      obtain ⟨he, hpast⟩ := List.cons.inj h
      obtain ⟨rfl, rfl, hanswer⟩ := Served.mk.inj he
      simp only [serve, take, StoreAnswer.redeemed.injEq] at hanswer
      obtain ⟨t, ht, hnow, rfl⟩ := live_eq_some.mp hanswer
      exact ⟨t.expiresAt, hnow, hpast ▸ backed_run past k t ht⟩

/-! ### Counting -/

/-- The successful issues of a key. -/
def issues (k : κ) (history : List (Served κ α)) : ℕ :=
  history.countP fun e => match e.op, e.answer with
    | .issue k' _ _, .issued => k' = k
    | _, _ => false

/-- The successful redemptions of a key. -/
def redemptions (k : κ) (history : List (Served κ α)) : ℕ :=
  history.countP fun e => match e.op, e.answer with
    | .redeem k', .redeemed (some _) => k' = k
    | _, _ => false

/-- The values under a key. -/
def held (s : ExpiringStore κ α) (k : κ) : ℕ := if (s k).isSome then 1 else 0

lemma held_update (s : ExpiringStore κ α) (k' k : κ) (t : Option (Timed α)) :
    held (Function.update s k' t) k = if k = k' then (if t.isSome then 1 else 0) else held s k := by
  unfold held
  rw [Function.update_apply]
  split_ifs <;> simp_all

omit [DecidableEq κ] in
lemma held_of_live (h : s.live now k = some v) : held s k = 1 := by
  obtain ⟨t, ht, -, -⟩ := live_eq_some.mp h
  simp [held, ht]

/-- No key is redeemed more often than it was issued. -/
theorem redemptions_le (calls : List (ℤ × StoreOp κ α)) (k : κ) :
    redemptions k (run unit calls).2 + held (run unit calls).1 k ≤ issues k (run unit calls).2 := by
  induction calls with
  | nil => simp [run, serveAll, redemptions, issues, held, empty]
  | cons call past ih =>
    obtain ⟨now, op⟩ := call
    have hrun : run unit ((now, op) :: past) = (((run unit past).1.serve unit now op).1,
        ⟨now, op, ((run unit past).1.serve unit now op).2⟩ :: (run unit past).2) := rfl
    rw [hrun]
    generalize run unit past = r at ih
    cases op with
    | issue k' v ttl =>
      simp only [serve, putNew]
      cases hlive : r.1.live now k' with
      | some old =>
        simpa [redemptions, issues, List.countP_cons] using ih
      | none =>
        simp only [redemptions, issues, List.countP_cons, held_update] at ih ⊢
        by_cases hk : k' = k
        · simp only [hk, if_true, decide_true, Option.isSome_some]
          simp only [Bool.false_eq_true, if_false]
          omega
        · simp only [hk, Ne.symm hk, if_false, decide_false]
          simpa using ih
    | redeem k' =>
      simp only [serve, take, redemptions, issues, List.countP_cons, held_update] at ih ⊢
      by_cases hk : k' = k
      · subst hk
        cases hlive : r.1.live now k' with
        | none => simpa using le_trans (Nat.le_add_right _ _) ih
        | some v =>
          rw [held_of_live hlive] at ih
          simpa using ih
      · cases hlive : r.1.live now k' <;> simpa [hk, Ne.symm hk] using ih

end

end ExpiringStore

end AgentRemote.Library
