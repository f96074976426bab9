import AgentRemote.Library.Worklist

/-!
# Components of a symmetric adjacency

`components` scans the seeds in order, explores the part of the selection that each new
seed reaches and removes it from the selection. Its output partitions the selection, and
no adjacency leaves a component.
-/

namespace AgentRemote.Library

variable {α : Type*} [DecidableEq α]

/-- The part of `selected` that `seed` reaches. -/
def component (adjacent : α → List α) (targets selected : List α) (seed : α) : List α :=
  explore (fun x => (adjacent x).filter (· ∈ selected)) targets [seed] [seed]

/-- The components of the selection, in the order of their first seed. -/
def components (adjacent : α → List α) (targets : List α) : List α → List α → List (List α)
  | [], _ => []
  | seed :: seeds, selected =>
    if seed ∈ selected then
      let found := component adjacent targets selected seed
      found :: components adjacent targets seeds (selected.filter (· ∉ found))
    else components adjacent targets seeds selected

section

variable {adjacent : α → List α} {targets : List α}

lemma filter_subset_targets (ht : ∀ x, adjacent x ⊆ targets) (selected : List α) (x : α) :
    (adjacent x).filter (· ∈ selected) ⊆ targets :=
  fun _ hy => ht x (List.mem_of_mem_filter hy)

lemma component_subset {selected : List α} {seed : α} (hs : seed ∈ selected) :
    component adjacent targets selected seed ⊆ selected := by
  intro y hy
  have hstep : ∀ z, Relation.ReflTransGen
      (Step fun x => (adjacent x).filter (· ∈ selected)) seed z → z ∈ selected := by
    intro z hz
    rcases hz.cases_tail with rfl | ⟨w, -, hw⟩
    · exact hs
    · exact of_decide_eq_true (List.mem_filter.mp hw).2
  rcases explore_sound _ _ _ _ y hy with h | ⟨s, h, hr⟩
  · rw [List.mem_singleton.mp h]
    exact hs
  · rw [List.mem_singleton.mp h] at hr
    exact hstep y hr

lemma seed_mem_component (selected : List α) (seed : α) :
    seed ∈ component adjacent targets selected seed :=
  subset_explore _ _ _ _ (List.mem_singleton_self seed)

lemma nodup_component (selected : List α) (seed : α) :
    (component adjacent targets selected seed).Nodup :=
  nodup_explore _ _ _ _ (List.nodup_singleton seed)

lemma component_closed (ht : ∀ x, adjacent x ⊆ targets) {selected : List α} {seed x y : α}
    (hx : x ∈ component adjacent targets selected seed) (hy : y ∈ adjacent x)
    (hs : y ∈ selected) : y ∈ component adjacent targets selected seed :=
  explore_closed (filter_subset_targets ht selected) (fun _ h => h) hx (fun h => h)
    (List.mem_filter.mpr ⟨hy, decide_eq_true hs⟩)

theorem mem_components (seeds selected : List α) (hs : selected ⊆ seeds) (x : α) :
    (∃ c ∈ components adjacent targets seeds selected, x ∈ c) ↔ x ∈ selected := by
  induction seeds generalizing selected with
  | nil =>
    have hnil : selected = [] := List.subset_nil.mp hs
    simp [components, hnil]
  | cons seed seeds ih =>
    by_cases hseed : seed ∈ selected
    · set found := component adjacent targets selected seed with hfound
      have hsub : selected.filter (· ∉ found) ⊆ seeds := by
        intro y hy
        obtain ⟨hy, hn⟩ := List.mem_filter.mp hy
        rcases List.mem_cons.mp (hs hy) with rfl | h
        · exact absurd (seed_mem_component selected y) (of_decide_eq_true hn)
        · exact h
      simp only [components, hseed, if_true, List.mem_cons, exists_eq_or_imp, ← hfound, ih _ hsub,
        List.mem_filter, decide_eq_true_eq]
      constructor
      · rintro (h | h)
        · exact component_subset hseed h
        · exact h.1
      · intro h
        by_cases hx : x ∈ found
        · exact .inl hx
        · exact .inr ⟨h, hx⟩
    · simp only [components, hseed, if_false]
      refine ih selected (fun y hy => ?_)
      rcases List.mem_cons.mp (hs hy) with rfl | h
      · exact absurd hy hseed
      · exact h

lemma components_subset (seeds selected : List α) :
    ∀ c ∈ components adjacent targets seeds selected, c ⊆ selected := by
  induction seeds generalizing selected with
  | nil => simp [components]
  | cons seed seeds ih =>
    intro c hc
    by_cases hseed : seed ∈ selected
    · simp only [components, hseed, if_true, List.mem_cons] at hc
      rcases hc with rfl | hc
      · exact component_subset hseed
      · exact fun y hy => List.mem_of_mem_filter (ih _ c hc hy)
    · simp only [components, hseed, if_false] at hc
      exact ih selected c hc

theorem nodup_flatten_components (seeds selected : List α) :
    (components adjacent targets seeds selected).flatten.Nodup := by
  induction seeds generalizing selected with
  | nil => simp [components]
  | cons seed seeds ih =>
    by_cases hseed : seed ∈ selected
    · simp only [components, hseed, if_true, List.flatten_cons]
      refine List.nodup_append'.mpr ⟨nodup_component selected seed, ih _, fun y hy hy' => ?_⟩
      obtain ⟨c, hc, hyc⟩ := List.mem_flatten.mp hy'
      have := components_subset seeds _ c hc hyc
      exact of_decide_eq_true (List.mem_filter.mp this).2 hy
    · simpa only [components, hseed, if_false] using ih selected

lemma components_ne_nil (seeds selected : List α) :
    ∀ c ∈ components adjacent targets seeds selected, c ≠ [] := by
  induction seeds generalizing selected with
  | nil => simp [components]
  | cons seed seeds ih =>
    intro c hc
    by_cases hseed : seed ∈ selected
    · simp only [components, hseed, if_true, List.mem_cons] at hc
      rcases hc with rfl | hc
      · exact List.ne_nil_of_mem (seed_mem_component selected seed)
      · exact ih _ c hc
    · simp only [components, hseed, if_false] at hc
      exact ih selected c hc

/-- No adjacency inside the selection leaves a component. Symmetry rules out a step from a
later component back into an earlier one. -/
theorem components_closed (ht : ∀ x, adjacent x ⊆ targets)
    (hsym : ∀ x y, y ∈ adjacent x → x ∈ adjacent y) (seeds selected : List α) :
    ∀ c ∈ components adjacent targets seeds selected, ∀ x ∈ c, ∀ y ∈ adjacent x,
      y ∈ selected → y ∈ c := by
  induction seeds generalizing selected with
  | nil => simp [components]
  | cons seed seeds ih =>
    intro c hc x hx y hy hys
    by_cases hseed : seed ∈ selected
    · simp only [components, hseed, if_true, List.mem_cons] at hc
      rcases hc with rfl | hc
      · exact component_closed ht hx hy hys
      · have hxs := List.mem_filter.mp (components_subset seeds _ c hc hx)
        refine ih _ c hc x hx y hy (List.mem_filter.mpr ⟨hys, decide_eq_true fun hyf => ?_⟩)
        exact of_decide_eq_true hxs.2 (component_closed ht hyf (hsym x y hy) hxs.1)
    · simp only [components, hseed, if_false] at hc
      exact ih selected c hc x hx y hy hys

end

end AgentRemote.Library
