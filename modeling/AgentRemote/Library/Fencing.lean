import Mathlib.Order.Interval.Finset.Nat
import Mathlib.Tactic

/-!
# Fenced generations

A resource carries a counter, its generation. A holder of an old generation must be shut out,
so whoever leaves a generation records it. This file proves that the record of a run misses no
generation and repeats none.
-/

namespace AgentRemote.Library

/-- The generation of each open resource, and the generations recorded as left. -/
structure Fences (ι : Type*) where
  current : ι → Option ℕ
  retired : ι → Multiset ℕ

namespace Fences

variable {ι : Type*} [DecidableEq ι]

/-- A resource is opened in generation one. -/
def opened (f : Fences ι) (i : ι) : Fences ι :=
  { f with current := Function.update f.current i (some 1) }

/-- The resource leaves its generation, which is recorded. -/
def left (f : Fences ι) (i : ι) (n : ℕ) : Fences ι where
  current := Function.update f.current i (some (n + 1))
  retired := Function.update f.retired i (n ::ₘ f.retired i)

inductive Step (f : Fences ι) : Fences ι → Prop
  | opened (i : ι) : f.current i = none → Step f (f.opened i)
  | left (i : ι) (n : ℕ) : f.current i = some n → Step f (f.left i n)

omit [DecidableEq ι] in
/-- The record of each resource holds the generations before its current one, each once. -/
def Complete (f : Fences ι) : Prop :=
  ∀ i, match f.current i with
    | none => f.retired i = 0
    | some n => 1 ≤ n ∧ f.retired i = (Finset.Ico 1 n).val

lemma Complete.opened {f : Fences ι} (hf : f.Complete) {i : ι} (hi : f.current i = none) :
    (f.opened i).Complete := by
  intro j
  by_cases hj : j = i
  · subst hj
    have hretired := hf j
    rw [hi] at hretired
    simp [Fences.opened, hretired]
  · have hcurrent : (f.opened i).current j = f.current j := Function.update_of_ne hj _ _
    rw [hcurrent]
    exact hf j

lemma Complete.left {f : Fences ι} (hf : f.Complete) {i : ι} {n : ℕ}
    (hi : f.current i = some n) : (f.left i n).Complete := by
  intro j
  by_cases hj : j = i
  · subst hj
    have hretired := hf j
    rw [hi] at hretired
    obtain ⟨hn, hretired⟩ := hretired
    have hcurrent : (f.left j n).current j = some (n + 1) := Function.update_self ..
    have hlog : (f.left j n).retired j = n ::ₘ f.retired j := Function.update_self ..
    rw [hcurrent]
    refine ⟨by omega, ?_⟩
    rw [hlog, hretired, ← Finset.insert_Ico_right_eq_Ico_add_one hn]
    exact (Finset.insert_val_of_notMem Finset.right_notMem_Ico).symm
  · have hcurrent : (f.left i n).current j = f.current j := Function.update_of_ne hj _ _
    have hlog : (f.left i n).retired j = f.retired j := Function.update_of_ne hj _ _
    rw [hcurrent, hlog]
    exact hf j

lemma Complete.step {f g : Fences ι} (hf : f.Complete) (h : Step f g) : g.Complete := by
  cases h with
  | opened i hi => exact hf.opened hi
  | left i n hi => exact hf.left hi

/-- No run loses or repeats a generation. -/
theorem Complete.run {f g : Fences ι} (hf : f.Complete) (h : Relation.ReflTransGen Step f g) :
    g.Complete := by
  induction h with
  | refl => exact hf
  | tail _ hstep ih => exact ih.step hstep

omit [DecidableEq ι] in
/-- How often a generation is recorded. -/
lemma Complete.count {f : Fences ι} (hf : f.Complete) {i : ι} {n : ℕ}
    (hi : f.current i = some n) (m : ℕ) :
    (f.retired i).count m = if 1 ≤ m ∧ m < n then 1 else 0 := by
  have hretired := hf i
  rw [hi] at hretired
  rw [hretired.2, Multiset.count_eq_of_nodup (Finset.Ico 1 n).nodup]
  simp [Finset.mem_Ico]

end Fences

end AgentRemote.Library
