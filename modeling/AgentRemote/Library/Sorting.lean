import Mathlib.Tactic

/-!
# A sort whose comparisons may fail

The stable sort that compares by a `less` that may fail, and fails with it. Where the sort
succeeds it returns a rearrangement that is in order for every key that `less` follows.
-/

namespace AgentRemote.Library

variable {α ε : Type} {κ : Type*}

/-- The place of a new last element: in front of the first element that it is less than. -/
def insertLast (less : α → α → Except ε Bool) (x : α) : List α → Except ε (List α)
  | [] => .ok [x]
  | y :: ys => do
    if ← less x y then
      return x :: y :: ys
    else
      return y :: (← insertLast less x ys)

/-- The stable sort by `less`. -/
def stableSort (less : α → α → Except ε Bool) (xs : List α) : Except ε (List α) :=
  xs.foldlM (fun sorted x => insertLast less x sorted) []

/-- `less` decides by the key, whatever it does with equal keys. -/
def Follows [LE κ] (less : α → α → Except ε Bool) (key : α → κ) : Prop :=
  ∀ x y, (less x y = .ok true → key x ≤ key y) ∧ (less x y = .ok false → key y ≤ key x)

section

variable {less : α → α → Except ε Bool}

lemma insertLast_cons_eq_ok {x y : α} {ys zs : List α}
    (h : insertLast less x (y :: ys) = .ok zs) :
    less x y = .ok true ∧ zs = x :: y :: ys ∨
      less x y = .ok false ∧ ∃ rest, insertLast less x ys = .ok rest ∧ zs = y :: rest := by
  unfold insertLast at h
  cases hless : less x y with
  | error e =>
    rw [hless] at h
    cases h
  | ok b =>
    rw [hless] at h
    cases b with
    | true =>
      left
      exact ⟨rfl, (Except.ok.inj h).symm⟩
    | false =>
      right
      refine ⟨rfl, ?_⟩
      cases hrest : insertLast less x ys with
      | error e =>
        simp only [hrest] at h
        cases h
      | ok rest =>
        simp only [hrest] at h
        exact ⟨rest, rfl, (Except.ok.inj h).symm⟩

lemma perm_of_insertLast {x : α} {ys zs : List α} (h : insertLast less x ys = .ok zs) :
    zs.Perm (x :: ys) := by
  induction ys generalizing zs with
  | nil =>
    rw [← Except.ok.inj h]
  | cons y ys ih =>
    rcases insertLast_cons_eq_ok h with ⟨-, rfl⟩ | ⟨-, rest, hrest, rfl⟩
    · exact List.Perm.refl _
    · exact ((ih hrest).cons y).trans (List.Perm.swap x y ys)

lemma pairwise_of_insertLast [Preorder κ] {key : α → κ} (hless : Follows less key) {x : α}
    {ys zs : List α} (hys : ys.Pairwise fun a b => key a ≤ key b)
    (h : insertLast less x ys = .ok zs) : zs.Pairwise fun a b => key a ≤ key b := by
  induction ys generalizing zs with
  | nil =>
    rw [← Except.ok.inj h]
    exact List.pairwise_singleton _ x
  | cons y ys ih =>
    have hcons := List.pairwise_cons.mp hys
    rcases insertLast_cons_eq_ok h with ⟨hle, rfl⟩ | ⟨hle, rest, hrest, rfl⟩
    · have hxy := (hless x y).1 hle
      apply List.pairwise_cons.mpr ⟨?_, hys⟩
      intro z hz
      rcases List.mem_cons.mp hz with rfl | hz
      · exact hxy
      · exact hxy.trans (hcons.1 z hz)
    · have hyx := (hless x y).2 hle
      apply List.pairwise_cons.mpr ⟨?_, ih hcons.2 hrest⟩
      intro z hz
      rcases List.mem_cons.mp ((perm_of_insertLast hrest).mem_iff.mp hz) with rfl | hz
      · exact hyx
      · exact hcons.1 z hz

private lemma foldlM_insertLast [Preorder κ] {key : α → κ} (hless : Follows less key)
    {xs ys zs : List α} (hys : ys.Pairwise fun a b => key a ≤ key b)
    (h : xs.foldlM (fun sorted x => insertLast less x sorted) ys = .ok zs) :
    zs.Perm (ys ++ xs) ∧ zs.Pairwise fun a b => key a ≤ key b := by
  induction xs generalizing ys with
  | nil =>
    rw [← Except.ok.inj h, List.append_nil]
    exact ⟨List.Perm.refl _, hys⟩
  | cons x xs ih =>
    rw [List.foldlM_cons] at h
    cases hx : insertLast less x ys with
    | error e =>
      rw [hx] at h
      cases h
    | ok next =>
      rw [hx] at h
      have hnext := ih (pairwise_of_insertLast hless hys hx) h
      refine ⟨hnext.1.trans ?_, hnext.2⟩
      have hmid : (x :: ys ++ xs).Perm (ys ++ x :: xs) := by
        rw [List.cons_append]
        exact List.perm_middle.symm
      exact ((perm_of_insertLast hx).append_right xs).trans hmid

/-- A sort that succeeds returns the elements in order. -/
theorem stableSort_eq_ok [Preorder κ] {key : α → κ} (hless : Follows less key) {xs zs : List α}
    (h : stableSort less xs = .ok zs) :
    zs.Perm xs ∧ zs.Pairwise fun a b => key a ≤ key b :=
  foldlM_insertLast hless List.Pairwise.nil h

end

end AgentRemote.Library
