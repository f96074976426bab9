import Mathlib.Tactic

/-!
# While loops

A loop repeats its body as long as its test holds, and the body may fail. A run with too little
fuel gives no result.
-/

namespace AgentRemote.Library.Loops

variable {σ ε : Type*}

/-- `while test: body`, with fuel for as many rounds. -/
def run (test : σ → Bool) (body : σ → Except ε σ) : ℕ → σ → Option (Except ε σ)
  | 0, s => if test s then none else some (.ok s)
  | fuel + 1, s =>
    if test s then
      match body s with
      | .error e => some (.error e)
      | .ok s' => run test body fuel s'
    else some (.ok s)

variable {test : σ → Bool} {body body' : σ → Except ε σ} {s s' t : σ} {fuel : ℕ}
  {result : Except ε σ} {e : ε}

lemma run_done (h : test s = false) (fuel : ℕ) : run test body fuel s = some (.ok s) := by
  cases fuel with
  | zero => simp only [run, h, Bool.false_eq_true, if_false]
  | succ fuel => simp only [run, h, Bool.false_eq_true, if_false]

lemma run_error (h : test s = true) (hbody : body s = .error e) (fuel : ℕ) :
    run test body (fuel + 1) s = some (.error e) := by
  simp only [run, h, hbody, if_true]

lemma run_next (h : test s = true) (hbody : body s = .ok s') (fuel : ℕ) :
    run test body (fuel + 1) s = run test body fuel s' := by
  simp only [run, h, hbody, if_true]

/-- More fuel changes no result. -/
lemma run_succ (h : run test body fuel s = some result) :
    run test body (fuel + 1) s = some result := by
  induction fuel generalizing s with
  | zero =>
    cases ht : test s with
    | true =>
      simp only [run, ht, if_true] at h
      cases h
    | false =>
      rw [run_done ht] at h ⊢
      exact h
  | succ fuel ih =>
    cases ht : test s with
    | true =>
      cases hb : body s with
      | error e =>
        rw [run_error ht hb] at h ⊢
        exact h
      | ok s' =>
        rw [run_next ht hb] at h ⊢
        exact ih h
    | false =>
      rw [run_done ht] at h ⊢
      exact h

lemma run_mono {fuel' : ℕ} (hle : fuel ≤ fuel') (h : run test body fuel s = some result) :
    run test body fuel' s = some result := by
  induction fuel', hle using Nat.le_induction with
  | base => exact h
  | succ fuel' _ ih => exact run_succ ih

/-- A loop ends if each round makes something smaller. -/
theorem exists_run {r : σ → σ → Prop} (hwf : WellFounded r)
    (hround : ∀ s s', test s = true → body s = .ok s' → r s' s) (s : σ) :
    ∃ fuel result, run test body fuel s = some result := by
  induction s using hwf.induction with
  | _ s ih =>
    cases ht : test s with
    | false => exact ⟨0, _, run_done ht 0⟩
    | true =>
      cases hb : body s with
      | error e => exact ⟨1, _, run_error ht hb 0⟩
      | ok s' =>
        obtain ⟨fuel, result, h⟩ := ih s' (hround s s' ht hb)
        exact ⟨fuel + 1, result, (run_next ht hb fuel).trans h⟩

/-- What every round keeps holds at the end, where the test fails. -/
theorem run_invariant {P : σ → Prop}
    (hround : ∀ s s', P s → test s = true → body s = .ok s' → P s') (hs : P s)
    (h : run test body fuel s = some (.ok t)) : P t ∧ test t = false := by
  induction fuel generalizing s with
  | zero =>
    cases ht : test s with
    | true =>
      simp only [run, ht, if_true] at h
      cases h
    | false =>
      rw [run_done ht] at h
      obtain rfl := Except.ok.inj (Option.some.inj h)
      exact ⟨hs, ht⟩
  | succ fuel ih =>
    cases ht : test s with
    | true =>
      cases hb : body s with
      | error e =>
        rw [run_error ht hb] at h
        cases h
      | ok s' =>
        rw [run_next ht hb] at h
        exact ih (hround s s' hs ht hb) h
    | false =>
      rw [run_done ht] at h
      obtain rfl := Except.ok.inj (Option.some.inj h)
      exact ⟨hs, ht⟩

/-- Another loop ends alike if it repeats the rounds that lead to the end, seen from there. -/
theorem run_backwards {P : σ → Prop}
    (hround : ∀ s s', test s = true → body s = .ok s' → P s' → P s ∧ body' s = .ok s') (ht : P t)
    (h : run test body fuel s = some (.ok t)) : P s ∧ run test body' fuel s = some (.ok t) := by
  induction fuel generalizing s with
  | zero =>
    cases hs : test s with
    | true =>
      simp only [run, hs, if_true] at h
      cases h
    | false =>
      rw [run_done hs] at h ⊢
      obtain rfl := Except.ok.inj (Option.some.inj h)
      exact ⟨ht, rfl⟩
  | succ fuel ih =>
    cases hs : test s with
    | true =>
      cases hb : body s with
      | error e =>
        rw [run_error hs hb] at h
        cases h
      | ok s' =>
        rw [run_next hs hb] at h
        obtain ⟨hP, hrun⟩ := ih h
        obtain ⟨hPs, hb'⟩ := hround s s' hs hb hP
        rw [run_next hs hb']
        exact ⟨hPs, hrun⟩
    | false =>
      rw [run_done hs] at h ⊢
      obtain rfl := Except.ok.inj (Option.some.inj h)
      exact ⟨ht, rfl⟩

end AgentRemote.Library.Loops
