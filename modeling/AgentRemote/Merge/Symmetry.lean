import AgentRemote.Merge.Units

/-!
# Symmetry of a merge

The code asks the current side first, unit by unit and path by path. The value selected at
a path, the list of paths and the guard for opaque state are the same for both orders of the
sides, so the whole merge is.
-/

namespace AgentRemote
open Library

lemma threeWay_comm (old ours theirs : Option SkillTreeEntry) :
    threeWay old ours theirs = threeWay old theirs ours := by
  unfold threeWay
  by_cases h : ours = theirs
  · rw [h]
  have h' : theirs ≠ ours := Ne.symm h
  by_cases hours : ours = old
  · by_cases htheirs : theirs = old
    · exact absurd (hours.trans htheirs.symm) h
    · simp [hours, htheirs]
  · by_cases htheirs : theirs = old
    · subst htheirs
      simp [h']
    · simp [h, h', hours, htheirs]

section

variable {base x y : List SkillTreeEntry}

lemma threeWayAt_comm (path : Text) : threeWayAt base x y path = threeWayAt base y x path :=
  threeWay_comm _ _ _

/-- Both orders visit the same paths in the same order. -/
lemma sortedPaths_comm : sortedPaths base x y = sortedPaths base y x := by
  have hl : OrderedUnit (sortedPaths base x y) := sorted_sortedPaths
  have hr : OrderedUnit (sortedPaths base y x) := sorted_sortedPaths
  apply hl.ext hr
  intro path
  rw [mem_sortedPaths, mem_sortedPaths]
  exact or_congr_right or_comm

lemma combine_comm : combine base x y = combine base y x := by
  unfold combine
  rw [sortedPaths_comm]
  congr 1
  funext path
  rw [threeWayAt_comm]

lemma changedBoth_comm : changedBoth base x y = changedBoth base y x := by
  unfold changedBoth
  rw [sortedPaths_comm]
  simp only [threeWayAt_comm]

lemma opaqueDivergence_comm : OpaqueDivergence base x y ↔ OpaqueDivergence base y x := by
  have hd : Diverged base x y ↔ Diverged base y x := by
    simp only [Diverged]
    exact ⟨fun ⟨h, hy, hx⟩ => ⟨h.symm, hx, hy⟩, fun ⟨h, hx, hy⟩ => ⟨h.symm, hy, hx⟩⟩
  exact and_congr hd or_comm

lemma mergeRule_comm : mergeRule base x y = mergeRule base y x := by
  unfold mergeRule
  rw [combine_comm, changedBoth_comm]
  simp only [opaqueDivergence_comm]

end

section

variable {base x y : SkillTreeManifest} {itemNames : List Text}

lemma unitConflicts_comm (units : List (List Text)) :
    unitConflicts base x y itemNames units = unitConflicts base y x itemNames units := by
  unfold unitConflicts unitResult
  refine List.flatMap_congr fun unit _ => ?_
  rw [mergeRule_comm]

/-- The order of the two sides does not show in the result of a merge. -/
theorem mergeDirectoryManifests_comm [UnicodeForms] (base x y : SkillTreeManifest)
    (itemNames : List Text) :
    mergeDirectoryManifests base x y itemNames = mergeDirectoryManifests base y x itemNames := by
  cases hcheck : checkNames itemNames with
  | error e => simp only [mergeDirectoryManifests, directoryMergeUnits, hcheck, error_bind]
  | ok u =>
    have hnames := checkNames_eq_ok.mp hcheck
    obtain ⟨units, hunits, -, hl⟩ := @mergeDirectoryManifests_eq base x y itemNames _ hnames
    obtain ⟨units', hunits', -, hr⟩ := @mergeDirectoryManifests_eq base y x itemNames _ hnames
    have hsame : ∀ m, m ∈ [base, x, y] ↔ m ∈ [base, y, x] := by
      intro m
      simp only [List.mem_cons, List.not_mem_nil, or_false]
      exact or_congr_right or_comm
    have hus := directoryMergeUnits_congr hsame (fun _ => Iff.rfl) hunits
    rw [hunits', Except.ok.injEq] at hus
    rw [hl, hr, hus, unitConflicts_comm, combine_comm]

end

end AgentRemote
