import Mathlib.Tactic

/-!
# Transactions over committed states

A transaction reads committed states and takes effect in one step when it commits. Others may
commit between its reads and before its own commit, so what it read can be old by then, the
more so as a session returns a row it has loaded before as it was. A schedule says how old.

A row that a transaction locks before it reads it cannot change until the commit. Such a read
is given the state of the commit.
-/

namespace AgentRemote.Library

/-- A database and its transactions. `commit t seen db` is what `t` leaves of the state `db`
it commits on, and its answer, when its `i`-th statement read `seen i`. -/
structure Transactions (Db T A : Type*) where
  init : Db
  commit : T → (ℕ → Db) → Db → Db × A

/-- A transaction of a schedule. Its `i`-th statement reads the state `age i` commits before
its own. -/
structure Scheduled (T : Type*) where
  tx : T
  age : ℕ → ℕ

namespace Scheduled

variable {T : Type*}

/-- All statements read the state the transaction commits on. -/
def fresh (tx : T) : Scheduled T := ⟨tx, fun _ => 0⟩

/-- The first `n` statements read the state `k` commits ago, the others the latest. -/
def stale (tx : T) (n k : ℕ) : Scheduled T := ⟨tx, fun i => if i < n then k else 0⟩

end Scheduled

/-- A commit of a run: the transaction, the states its statements read and the state it
commits on. -/
structure Commit (Db T : Type*) where
  tx : T
  seen : ℕ → Db
  before : Db

namespace Transactions

variable {Db T A : Type*} (S : Transactions Db T A)

def after (c : Commit Db T) : Db := (S.commit c.tx c.seen c.before).1

def answer (c : Commit Db T) : A := (S.commit c.tx c.seen c.before).2

/-- The state after the commits, which are listed latest first. -/
def latest : List (Commit Db T) → Db
  | [] => S.init
  | c :: _ => S.after c

/-- The commits of a schedule. Both are listed latest first. -/
def commits : List (Scheduled T) → List (Commit Db T)
  | [] => []
  | s :: earlier =>
    let past := commits earlier
    ⟨s.tx, fun i => S.latest (past.drop (s.age i)), S.latest past⟩ :: past

/-- The state after a schedule. -/
def state (schedule : List (Scheduled T)) : Db := S.latest (S.commits schedule)

@[simp] lemma state_nil : S.state [] = S.init := rfl

@[simp] lemma commits_nil : S.commits [] = [] := rfl

lemma commits_drop (schedule : List (Scheduled T)) (k : ℕ) :
    (S.commits schedule).drop k = S.commits (schedule.drop k) := by
  induction schedule generalizing k with
  | nil => simp
  | cons s earlier ih =>
    cases k with
    | zero => rfl
    | succ k => exact ih k

/-- The commit that a transaction makes after a schedule. -/
def next (earlier : List (Scheduled T)) (s : Scheduled T) : Commit Db T where
  tx := s.tx
  seen i := S.state (earlier.drop (s.age i))
  before := S.state earlier

lemma commits_cons (s : Scheduled T) (earlier : List (Scheduled T)) :
    S.commits (s :: earlier) = S.next earlier s :: S.commits earlier := by
  simp only [commits, next, state, commits_drop]

lemma state_cons (s : Scheduled T) (earlier : List (Scheduled T)) :
    S.state (s :: earlier) = S.after (S.next earlier s) := by
  rw [state, commits_cons]
  rfl

/-- A commit of a schedule is the last one of an initial part of it. -/
lemma exists_next_of_mem {schedule : List (Scheduled T)} {c : Commit Db T}
    (h : c ∈ S.commits schedule) :
    ∃ s earlier, s :: earlier <:+ schedule ∧ c = S.next earlier s := by
  induction schedule with
  | nil => simp at h
  | cons s earlier ih =>
    rw [commits_cons, List.mem_cons] at h
    rcases h with rfl | h
    · exact ⟨s, earlier, List.suffix_refl _, rfl⟩
    · obtain ⟨t, rest, hsuffix, rfl⟩ := ih h
      exact ⟨t, rest, hsuffix.trans (List.suffix_cons s earlier), rfl⟩

/-- The commits before one of a schedule are those of an initial part of it. -/
lemma exists_next_of_commits {schedule : List (Scheduled T)} {later earlier : List (Commit Db T)}
    {c : Commit Db T} (h : S.commits schedule = later ++ c :: earlier) :
    ∃ s rest, s :: rest <:+ schedule ∧ c = S.next rest s ∧ earlier = S.commits rest := by
  induction later generalizing schedule with
  | nil =>
    cases schedule with
    | nil => cases h
    | cons s rest =>
      rw [commits_cons, List.nil_append, List.cons.injEq] at h
      exact ⟨s, rest, List.suffix_refl _, h.1.symm, h.2.symm⟩
  | cons c' later ih =>
    cases schedule with
    | nil => cases h
    | cons s rest =>
      rw [commits_cons, List.cons_append, List.cons.injEq] at h
      obtain ⟨t, rest', hsuffix, hc, hearlier⟩ := ih h.2
      exact ⟨t, rest', hsuffix.trans (List.suffix_cons s rest), hc, hearlier⟩

/-- A transaction reads states that earlier commits of its run left. -/
lemma commits_suffix {schedule earlier : List (Scheduled T)} (h : earlier <:+ schedule) :
    S.commits earlier <:+ S.commits schedule := by
  obtain ⟨later, rfl⟩ := h
  have hdrop := S.commits_drop (later ++ earlier) later.length
  rw [List.drop_left] at hdrop
  rw [← hdrop]
  exact List.drop_suffix _ _

/-- What a commit may assume when every state has `P` and states only move along `R`. -/
structure Sees (P : Db → Prop) (R : Db → Db → Prop) (c : Commit Db T) : Prop where
  before : P c.before
  seen : ∀ i, P (c.seen i)
  current : ∀ i, R (c.seen i) c.before

/-- The states of a run of permitted commits. -/
structure Ran (P : Db → Prop) (R : Db → Db → Prop) (schedule : List (Scheduled T)) : Prop where
  sound : ∀ k, P (S.state (schedule.drop k))
  moved : ∀ {j k}, j ≤ k → R (S.state (schedule.drop k)) (S.state (schedule.drop j))

section

variable {S} {P : Db → Prop} {R : Db → Db → Prop} {schedule : List (Scheduled T)}

lemma Ran.sees (h : S.Ran P R schedule) (s : Scheduled T) : Sees P R (S.next schedule s) where
  before := h.sound 0
  seen _ := h.sound _
  current _ := h.moved (Nat.zero_le _)

/-- If every permitted commit keeps `P` and moves the state along `R`, so does a run. -/
theorem ran_of_step (hrefl : ∀ db, R db db) (htrans : ∀ {a b c}, R a b → R b c → R a c)
    (hinit : P S.init) {Ok : Commit Db T → Prop}
    (hstep : ∀ c, Sees P R c → Ok c → P (S.after c) ∧ R c.before (S.after c))
    (hok : ∀ c ∈ S.commits schedule, Ok c) : S.Ran P R schedule := by
  induction schedule with
  | nil => exact ⟨fun k => by simpa using hinit, fun _ => by simpa using hrefl _⟩
  | cons s earlier ih =>
    rw [commits_cons] at hok
    have hearlier := ih fun c hc => hok c (List.mem_cons_of_mem _ hc)
    have hnext := hstep _ (hearlier.sees s) (hok _ List.mem_cons_self)
    rw [← state_cons] at hnext
    have hmoved : ∀ k, R (S.state (earlier.drop k)) (S.state (s :: earlier)) := fun k =>
      htrans (hearlier.moved (Nat.zero_le k)) hnext.2
    refine ⟨fun k => ?_, fun {j k} hjk => ?_⟩
    · cases k with
      | zero => exact hnext.1
      | succ k => exact hearlier.sound k
    · cases k with
      | zero =>
        obtain rfl := Nat.le_zero.mp hjk
        exact hrefl _
      | succ k =>
        cases j with
        | zero => exact hmoved k
        | succ j => exact hearlier.moved (Nat.le_of_succ_le_succ hjk)

lemma Ran.suffix (h : S.Ran P R schedule) {earlier : List (Scheduled T)}
    (hsuffix : earlier <:+ schedule) : S.Ran P R earlier := by
  obtain ⟨later, rfl⟩ := hsuffix
  refine ⟨fun k => ?_, fun {j k} hjk => ?_⟩
  · have := h.sound (later.length + k)
    rwa [List.drop_append, List.drop_of_length_le (by omega), List.nil_append,
      Nat.add_sub_cancel_left] at this
  · have := h.moved (Nat.add_le_add_left hjk later.length)
    simpa only [List.drop_length_add_append] using this

lemma Ran.moved_of_suffix (h : S.Ran P R schedule) {earlier : List (Scheduled T)}
    (hsuffix : earlier <:+ schedule) : R (S.state earlier) (S.state schedule) := by
  obtain ⟨later, rfl⟩ := hsuffix
  simpa using h.moved (Nat.zero_le later.length)

/-- Later states follow from what a commit left. -/
lemma Ran.after_of_mem (h : S.Ran P R schedule) {c : Commit Db T} (hc : c ∈ S.commits schedule) :
    P (S.after c) ∧ R (S.after c) (S.state schedule) := by
  obtain ⟨s, earlier, hsuffix, rfl⟩ := S.exists_next_of_mem hc
  rw [← state_cons]
  exact ⟨(h.suffix hsuffix).sound 0, h.moved_of_suffix hsuffix⟩

/-- A later commit finds a state that follows from what an earlier one left. -/
lemma Ran.pairwise (h : S.Ran P R schedule) :
    (S.commits schedule).Pairwise fun later earlier =>
      P (S.after earlier) ∧ R (S.after earlier) later.before := by
  induction schedule with
  | nil => exact .nil
  | cons s earlier ih =>
    have hearlier := h.suffix (List.suffix_cons s earlier)
    rw [commits_cons]
    exact .cons (fun c hc => hearlier.after_of_mem hc) (ih hearlier)

/-- Each commit of a run sees sound states. -/
lemma Ran.sees_of_mem (h : S.Ran P R schedule) {c : Commit Db T} (hc : c ∈ S.commits schedule) :
    Sees P R c := by
  obtain ⟨s, earlier, hsuffix, rfl⟩ := S.exists_next_of_mem hc
  exact (h.suffix ((List.suffix_cons s earlier).trans hsuffix)).sees s

end

end Transactions

end AgentRemote.Library
