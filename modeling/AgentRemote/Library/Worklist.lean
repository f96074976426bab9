import Mathlib.Data.List.Dedup
import Mathlib.Logic.Relation
import Mathlib.Tactic

/-!
# Worklist exploration

A loop that pops a node, marks its unmarked successors and appends them to the queue.
`explore` runs it with fuel for every node that can be marked, and `exploreWithin` is
the same loop with a bound on the number of marked nodes. The marked nodes are exactly
those reachable from the queue, whatever the order of the queue.
-/

namespace AgentRemote.Library

variable {α ε : Type*} [DecidableEq α]

/-- Marks one successor and queues it, unless it is already marked. -/
def discover (s : List α × List α) (y : α) : List α × List α :=
  if y ∈ s.1 then s else (s.1 ++ [y], s.2 ++ [y])

/-- The loop over a queue of marked nodes. -/
def exploreLoop (next : α → List α) : ℕ → List α → List α → List α
  | 0, visited, _ => visited
  | _ + 1, visited, [] => visited
  | n + 1, visited, x :: pending =>
    let s := (next x).foldl discover (visited, pending)
    exploreLoop next n s.1 s.2

/-- Every node that can be marked occurs in `targets`, so the queue empties within this fuel. -/
def explore (next : α → List α) (targets visited pending : List α) : List α :=
  exploreLoop next (pending.length + targets.length) visited pending

/-- Marks one successor and queues it, and fails when the marked nodes already fill `limit`. -/
def discoverWithin (limit : ℕ) (error : ε) (s : List α × List α) (y : α) :
    Except ε (List α × List α) :=
  if y ∈ s.1 then .ok s
  else if limit ≤ s.1.length then .error error
  else .ok (s.1 ++ [y], s.2 ++ [y])

/-- The bounded loop. -/
def exploreWithinLoop (limit : ℕ) (error : ε) (next : α → List α) :
    ℕ → List α → List α → Except ε (List α)
  | 0, visited, _ => .ok visited
  | _ + 1, visited, [] => .ok visited
  | n + 1, visited, x :: pending => do
    let s ← (next x).foldlM (discoverWithin limit error) (visited, pending)
    exploreWithinLoop limit error next n s.1 s.2

/-- `explore` with a bound on the marked nodes. -/
def exploreWithin (limit : ℕ) (error : ε) (next : α → List α)
    (targets visited pending : List α) : Except ε (List α) :=
  exploreWithinLoop limit error next (pending.length + targets.length) visited pending

/-! ### One round of the loop -/

lemma foldl_discover (ys visited pending : List α) :
    ∃ fresh : List α, ys.foldl discover (visited, pending) = (visited ++ fresh, pending ++ fresh) ∧
      fresh.Nodup ∧ (∀ y ∈ fresh, y ∈ ys ∧ y ∉ visited) ∧ ∀ y ∈ ys, y ∈ visited ∨ y ∈ fresh := by
  induction ys generalizing visited pending with
  | nil => exact ⟨[], by simp⟩
  | cons y ys ih =>
    by_cases hy : y ∈ visited
    · obtain ⟨fresh, he, hn, hf, hc⟩ := ih visited pending
      refine ⟨fresh, by simpa [discover, hy] using he, hn, fun z hz => ?_, fun z hz => ?_⟩
      · exact ⟨List.mem_cons_of_mem _ (hf z hz).1, (hf z hz).2⟩
      · rcases List.mem_cons.mp hz with rfl | hz
        · exact .inl hy
        · exact hc z hz
    · obtain ⟨fresh, he, hn, hf, hc⟩ := ih (visited ++ [y]) (pending ++ [y])
      refine ⟨y :: fresh, by simpa [discover, hy] using he, ?_, fun z hz => ?_, fun z hz => ?_⟩
      · exact List.nodup_cons.mpr ⟨fun h => (hf y h).2 (by simp), hn⟩
      · rcases List.mem_cons.mp hz with rfl | hz
        · exact ⟨List.mem_cons_self, hy⟩
        · have h := hf z hz
          simp only [List.mem_append, not_or] at h
          exact ⟨List.mem_cons_of_mem _ h.1, h.2.1⟩
      · rcases List.mem_cons.mp hz with rfl | hz
        · exact .inr List.mem_cons_self
        · rcases hc z hz with h | h
          · rcases List.mem_append.mp h with h | h
            · exact .inl h
            · exact .inr (by simp_all)
          · exact .inr (List.mem_cons_of_mem _ h)

/-- Nodes of `targets` that are not marked yet. -/
def unmarked (targets visited : List α) : ℕ :=
  (targets.filter (· ∉ visited)).length

lemma unmarked_append (targets visited fresh : List α) (hn : fresh.Nodup)
    (hf : ∀ y ∈ fresh, y ∈ targets ∧ y ∉ visited) :
    unmarked targets (visited ++ fresh) + fresh.length ≤ unmarked targets visited := by
  have hsub : fresh ⊆ (targets.filter (· ∉ visited)).filter (· ∈ fresh) := by
    intro y hy
    simp [hf y hy, hy]
  have hlen := (List.subperm_of_subset hn hsub).length_le
  have hsplit := List.length_eq_length_filter_add (l := targets.filter (· ∉ visited))
    (fun y => decide (y ∈ fresh))
  have heq : targets.filter (· ∉ visited ++ fresh) =
      (targets.filter (· ∉ visited)).filter (fun y => !decide (y ∈ fresh)) := by
    rw [List.filter_filter]
    apply List.filter_congr
    intro y _
    simp [not_or, Bool.and_comm]
  unfold unmarked
  rw [heq]
  omega

/-! ### Marked nodes are the reachable ones -/

/-- One step of the explored relation. -/
abbrev Step (next : α → List α) (x y : α) : Prop := y ∈ next x

omit [DecidableEq α] in
lemma reach_of_fresh {next : α → List α} {x : α} {pending fresh : List α}
    (hf : ∀ y ∈ fresh, y ∈ next x) {y : α}
    (h : ∃ s ∈ pending ++ fresh, Relation.ReflTransGen (Step next) s y) :
    ∃ s ∈ x :: pending, Relation.ReflTransGen (Step next) s y := by
  obtain ⟨s, hs, hr⟩ := h
  rcases List.mem_append.mp hs with hs | hs
  · exact ⟨s, List.mem_cons_of_mem _ hs, hr⟩
  · exact ⟨x, List.mem_cons_self, hr.head (hf s hs)⟩

theorem exploreLoop_sound (next : α → List α) (n : ℕ) (visited pending : List α) :
    ∀ y ∈ exploreLoop next n visited pending,
      y ∈ visited ∨ ∃ s ∈ pending, Relation.ReflTransGen (Step next) s y := by
  induction n generalizing visited pending with
  | zero => exact fun y hy => .inl hy
  | succ n ih =>
    cases pending with
    | nil => exact fun y hy => .inl hy
    | cons x pending =>
      intro y hy
      obtain ⟨fresh, he, -, hf, -⟩ := foldl_discover (next x) visited pending
      simp only [exploreLoop, he] at hy
      rcases ih _ _ y hy with h | h
      · rcases List.mem_append.mp h with h | h
        · exact .inl h
        · exact .inr ⟨x, List.mem_cons_self, .single (hf y h).1⟩
      · exact .inr (reach_of_fresh (fun z hz => (hf z hz).1) h)

lemma subset_exploreLoop (next : α → List α) (n : ℕ) (visited pending : List α) :
    visited ⊆ exploreLoop next n visited pending := by
  induction n generalizing visited pending with
  | zero => exact fun _ h => h
  | succ n ih =>
    cases pending with
    | nil => exact fun _ h => h
    | cons x pending =>
      obtain ⟨fresh, he, -⟩ := foldl_discover (next x) visited pending
      simp only [exploreLoop, he]
      exact fun y hy => ih _ _ (List.mem_append_left _ hy)

lemma nodup_exploreLoop (next : α → List α) (n : ℕ) (visited pending : List α)
    (h : visited.Nodup) : (exploreLoop next n visited pending).Nodup := by
  induction n generalizing visited pending with
  | zero => exact h
  | succ n ih =>
    cases pending with
    | nil => exact h
    | cons x pending =>
      obtain ⟨fresh, he, hn, hf, -⟩ := foldl_discover (next x) visited pending
      simp only [exploreLoop, he]
      exact ih _ _ (List.nodup_append'.mpr ⟨h, hn, fun y hy hy' => (hf y hy').2 hy⟩)

/-- With enough fuel the marked nodes are closed under `next`, except at nodes that were
marked without being queued. -/
theorem exploreLoop_closed (next : α → List α) (targets : List α)
    (ht : ∀ x, next x ⊆ targets) (n : ℕ) (visited pending : List α)
    (hp : pending ⊆ visited) (hn : pending.length + unmarked targets visited ≤ n)
    {x y : α} (hx : x ∈ exploreLoop next n visited pending)
    (hq : x ∈ visited → x ∈ pending) (hy : y ∈ next x) :
    y ∈ exploreLoop next n visited pending := by
  induction n generalizing visited pending with
  | zero =>
    have hnil : pending = [] := List.length_eq_zero_iff.mp (by omega)
    have := hq hx
    simp [hnil] at this
  | succ n ih =>
    cases pending with
    | nil =>
      have := hq hx
      simp at this
    | cons z pending =>
      obtain ⟨fresh, he, hnd, hf, hc⟩ := foldl_discover (next z) visited pending
      have hdrop := unmarked_append targets visited fresh hnd
        (fun w hw => ⟨ht z (hf w hw).1, (hf w hw).2⟩)
      simp only [exploreLoop, he] at hx ⊢
      by_cases hxz : x = z
      · subst hxz
        exact subset_exploreLoop next n _ _ (List.mem_append.mpr (hc y hy))
      · refine ih (visited ++ fresh) (pending ++ fresh) ?_ ?_ hx ?_
        · intro w hw
          rcases List.mem_append.mp hw with hw | hw
          · exact List.mem_append_left _ (hp (List.mem_cons_of_mem _ hw))
          · exact List.mem_append_right _ hw
        · simp only [List.length_append, List.length_cons] at hn ⊢
          omega
        · intro hv
          rcases List.mem_append.mp hv with hv | hv
          · have := hq hv
            simp only [List.mem_cons, hxz, false_or] at this
            exact List.mem_append_left _ this
          · exact List.mem_append_right _ hv

section Explore

variable (next : α → List α) (targets visited pending : List α)

lemma unmarked_le : unmarked targets visited ≤ targets.length :=
  List.length_filter_le _ _

theorem explore_sound : ∀ y ∈ explore next targets visited pending,
    y ∈ visited ∨ ∃ s ∈ pending, Relation.ReflTransGen (Step next) s y :=
  exploreLoop_sound next _ visited pending

lemma subset_explore : visited ⊆ explore next targets visited pending :=
  subset_exploreLoop next _ visited pending

lemma nodup_explore (h : visited.Nodup) : (explore next targets visited pending).Nodup :=
  nodup_exploreLoop next _ visited pending h

variable {next targets visited pending}

theorem explore_closed (ht : ∀ x, next x ⊆ targets) (hp : pending ⊆ visited) {x y : α}
    (hx : x ∈ explore next targets visited pending) (hq : x ∈ visited → x ∈ pending)
    (hy : y ∈ next x) : y ∈ explore next targets visited pending :=
  exploreLoop_closed next targets ht _ visited pending hp
    (Nat.add_le_add_left (unmarked_le targets visited) _) hx hq hy

/-- Nodes reached from the queue are marked, provided no step leads into a node that was
marked without being queued. -/
theorem explore_complete (ht : ∀ x, next x ⊆ targets) (hp : pending ⊆ visited)
    (hd : ∀ x, ∀ y ∈ next x, y ∈ visited → y ∈ pending) {s y : α} (hs : s ∈ pending)
    (hr : Relation.ReflTransGen (Step next) s y) : y ∈ explore next targets visited pending := by
  have h : y ∈ explore next targets visited pending ∧ (y ∈ visited → y ∈ pending) := by
    induction hr with
    | refl => exact ⟨subset_explore next targets visited pending (hp hs), fun _ => hs⟩
    | @tail x y _ hxy ih => exact ⟨explore_closed ht hp ih.1 ih.2 hxy, hd x y hxy⟩
  exact h.1

/-- Exploring from a set of seeds marks exactly the nodes some seed reaches. -/
theorem mem_explore_seeds (ht : ∀ x, next x ⊆ targets) {y : α} :
    y ∈ explore next targets pending pending ↔
      ∃ s ∈ pending, Relation.ReflTransGen (Step next) s y := by
  constructor
  · intro hy
    rcases explore_sound next targets pending pending y hy with h | h
    · exact ⟨y, h, .refl⟩
    · exact h
  · rintro ⟨s, hs, hr⟩
    exact explore_complete ht (fun _ h => h) (fun _ _ _ h => h) hs hr

end Explore

/-! ### Dropping edges that nothing reached starts -/

omit [DecidableEq α] in
/-- Steps that start outside what the seeds reach can be dropped: the seeds still reach
the same nodes. -/
theorem reached_iff_of_detached {r r' : α → α → Prop} {seeds : Set α}
    (hsub : ∀ x y, r' x y → r x y)
    (hkeep : ∀ x y, r x y → r' x y ∨ ¬∃ s ∈ seeds, Relation.ReflTransGen r s x) (y : α) :
    (∃ s ∈ seeds, Relation.ReflTransGen r' s y) ↔ ∃ s ∈ seeds, Relation.ReflTransGen r s y := by
  constructor
  · rintro ⟨s, hs, h⟩
    exact ⟨s, hs, Relation.ReflTransGen.mono hsub _ _ h⟩
  · rintro ⟨s, hs, h⟩
    refine ⟨s, hs, ?_⟩
    induction h with
    | refl => exact .refl
    | @tail x z hsx hxz ih =>
      have hlive := (hkeep x z hxz).resolve_right (not_not_intro ⟨s, hs, hsx⟩)
      exact ih.tail hlive

/-! ### The bounded loop -/

lemma length_foldl_discover (ys visited pending : List α) :
    visited.length ≤ (ys.foldl discover (visited, pending)).1.length := by
  obtain ⟨fresh, he, -⟩ := foldl_discover ys visited pending
  simp [he]

lemma foldlM_discoverWithin (limit : ℕ) (error : ε) (ys visited pending : List α)
    (hv : visited.length ≤ limit) :
    ys.foldlM (discoverWithin limit error) (visited, pending) =
      if (ys.foldl discover (visited, pending)).1.length ≤ limit then
        .ok (ys.foldl discover (visited, pending)) else .error error := by
  induction ys generalizing visited pending with
  | nil => simp [hv, pure, Except.pure]
  | cons y ys ih =>
    simp only [List.foldlM_cons, List.foldl_cons]
    by_cases hy : y ∈ visited
    · simp only [discoverWithin, discover, hy, if_true, bind, Except.bind]
      exact ih visited pending hv
    · by_cases hl : limit ≤ visited.length
      · have := length_foldl_discover ys (visited ++ [y]) (pending ++ [y])
        have hlt : ¬(ys.foldl discover (visited ++ [y], pending ++ [y])).1.length ≤ limit := by
          simp only [List.length_append, List.length_singleton] at this
          omega
        simp [discoverWithin, discover, hy, hl, hlt, bind, Except.bind]
      · simp only [discoverWithin, discover, hy, hl, if_false, bind, Except.bind]
        exact ih _ _ (by simp; omega)

lemma length_exploreLoop (next : α → List α) (n : ℕ) (visited pending : List α) :
    visited.length ≤ (exploreLoop next n visited pending).length := by
  induction n generalizing visited pending with
  | zero => exact le_rfl
  | succ n ih =>
    cases pending with
    | nil => exact le_rfl
    | cons x pending =>
      exact (length_foldl_discover (next x) visited pending).trans (ih _ _)

theorem exploreWithinLoop_eq (limit : ℕ) (error : ε) (next : α → List α) (n : ℕ)
    (visited pending : List α) (hv : visited.length ≤ limit) :
    exploreWithinLoop limit error next n visited pending =
      if (exploreLoop next n visited pending).length ≤ limit then
        .ok (exploreLoop next n visited pending) else .error error := by
  induction n generalizing visited pending with
  | zero => simp [exploreWithinLoop, exploreLoop, hv]
  | succ n ih =>
    cases pending with
    | nil => simp [exploreWithinLoop, exploreLoop, hv]
    | cons x pending =>
      rw [exploreWithinLoop, exploreLoop, foldlM_discoverWithin limit error (next x) visited pending hv]
      by_cases hl : ((next x).foldl discover (visited, pending)).1.length ≤ limit
      · rw [if_pos hl]
        exact ih _ _ hl
      · have := length_exploreLoop next n ((next x).foldl discover (visited, pending)).1
          ((next x).foldl discover (visited, pending)).2
        have hlt : ¬(exploreLoop next n ((next x).foldl discover (visited, pending)).1
            ((next x).foldl discover (visited, pending)).2).length ≤ limit := by omega
        rw [if_neg hl, if_neg hlt]
        rfl

/-- The bounded loop returns the full exploration, or fails exactly when it is too large. -/
theorem exploreWithin_eq (limit : ℕ) (error : ε) (next : α → List α)
    (targets visited pending : List α) (hv : visited.length ≤ limit) :
    exploreWithin limit error next targets visited pending =
      if (explore next targets visited pending).length ≤ limit then
        .ok (explore next targets visited pending) else .error error :=
  exploreWithinLoop_eq limit error next _ visited pending hv

end AgentRemote.Library
