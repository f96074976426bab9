import AgentRemote.Library.Components
import AgentRemote.Retention.Key

/-!
# Executable groups of retained history

`dependentClosure` expands a selection to every retained consumer, and `historyGroups`
propagates direct blocks down to the inputs of blocked consumers, closes the unblocked
roots upwards and splits the closure into groups. The upward closure never meets the
blocked set, and whole groups can be retired one by one without orphaning a consumer.
-/

namespace AgentRemote
open Library Relation

def maxRetirementIdentities : ℕ := 1000000

def maxHistoryEdges : ℕ := 4000000

def edgeLimitError : String := "history dependency edge limit exceeded"

def identityLimitError : String := "history dependency identity limit exceeded"

def blockedConsumerError : String := "history group selection includes a blocked consumer"

/-- The selection with all consumers it forces, and every input edge of those consumers. -/
structure HistoryClosure where
  required : List RetentionKey
  dependencies : List HistoryDependency

/-- Retained consumers of one identity. -/
def retainedConsumers (dependencies : List HistoryDependency) (retained : List RetentionKey)
    (identity : RetentionKey) : List RetentionKey :=
  (dependencies.filter fun e => e.dependency = identity ∧ e.consumer ∈ retained).map (·.consumer)

def dependentClosure (requested : List RetentionKey) (dependencies : List HistoryDependency)
    (retained : List RetentionKey) (maxIdentities maxEdges : ℕ) :
    Except String HistoryClosure := do
  if maxEdges < dependencies.length then throw edgeLimitError
  if maxIdentities < requested.dedup.length then throw identityLimitError
  let required ← exploreWithin maxIdentities identityLimitError
    (retainedConsumers dependencies retained) (dependencies.map (·.consumer)) requested.dedup
    (sortedSet (requested.filter (· ∈ retained)))
  let related := dependencies.filter fun e => e.consumer ∈ required ∧ e.consumer ∈ retained
  return ⟨sortedSet required, sortedSet related⟩

structure HistoryGroups where
  blocked : List RetentionKey
  roots : List RetentionKey
  groups : List (List RetentionKey)
  deriving DecidableEq

/-- Retained inputs of a retained consumer. -/
def retainedInputs (dependencies : List HistoryDependency) (retained : List RetentionKey)
    (identity : RetentionKey) : List RetentionKey :=
  (dependencies.filter fun e =>
    e.consumer = identity ∧ e.consumer ∈ retained ∧ e.dependency ∈ retained).map (·.dependency)

/-- Both ends of every edge inside the selection, seen from one of them. -/
def adjacentHistory (dependencies : List HistoryDependency) (selected : List RetentionKey)
    (identity : RetentionKey) : List RetentionKey :=
  (dependencies.filter fun e => e.consumer ∈ selected ∧ e.dependency ∈ selected).flatMap fun e =>
    (if e.consumer = identity then [e.dependency] else []) ++
      (if e.dependency = identity then [e.consumer] else [])

/-- Identities that a direct block reaches along retained consumer to input edges. -/
def rejectedHistory (retained : List RetentionKey) (dependencies : List HistoryDependency)
    (blocked : List RetentionKey) : List RetentionKey :=
  explore (retainedInputs dependencies retained) (dependencies.map (·.dependency))
    (sortedSet blocked) (sortedSet blocked)

/-- The requested identities that no block reaches. -/
def unblockedRoots (requested retained : List RetentionKey)
    (dependencies : List HistoryDependency) (blocked : List RetentionKey) : List RetentionKey :=
  sortedSet (requested.filter (· ∉ rejectedHistory retained dependencies blocked))

def historyGroups (requested retained : List RetentionKey)
    (dependencies : List HistoryDependency) (blocked : List RetentionKey) :
    Except String HistoryGroups := do
  let rejected := rejectedHistory retained dependencies blocked
  let roots := unblockedRoots requested retained dependencies blocked
  let closure ← dependentClosure roots dependencies retained maxRetirementIdentities
    maxHistoryEdges
  if closure.required.any (· ∈ rejected) then throw blockedConsumerError
  let selected := closure.required.filter (· ∈ retained)
  let groups := components (adjacentHistory dependencies selected)
    (dependencies.map (·.dependency) ++ dependencies.map (·.consumer)) selected selected
  return ⟨sortedSet rejected, roots, groups.map sortedSet⟩

/-! ### The edges the three traversals follow -/

/-- `y` is a retained input of the retained consumer `x`. -/
def InputOf (retained : List RetentionKey) (dependencies : List HistoryDependency)
    (x y : RetentionKey) : Prop :=
  ∃ e ∈ dependencies, e.consumer = x ∧ e.dependency = y ∧ x ∈ retained ∧ y ∈ retained

/-- `y` is a retained consumer of `x`. -/
def ConsumerOf (retained : List RetentionKey) (dependencies : List HistoryDependency)
    (x y : RetentionKey) : Prop :=
  ∃ e ∈ dependencies, e.dependency = x ∧ e.consumer = y ∧ y ∈ retained

section

variable {requested retained blocked : List RetentionKey} {dependencies : List HistoryDependency}

lemma mem_retainedConsumers {x y : RetentionKey} :
    y ∈ retainedConsumers dependencies retained x ↔ ConsumerOf retained dependencies x y := by
  simp only [retainedConsumers, ConsumerOf, List.mem_map, List.mem_filter, decide_eq_true_eq]
  constructor
  · rintro ⟨e, ⟨he, hd, hc⟩, rfl⟩
    exact ⟨e, he, hd, rfl, hc⟩
  · rintro ⟨e, he, hd, rfl, hc⟩
    exact ⟨e, ⟨he, hd, hc⟩, rfl⟩

lemma mem_retainedInputs {x y : RetentionKey} :
    y ∈ retainedInputs dependencies retained x ↔ InputOf retained dependencies x y := by
  simp only [retainedInputs, InputOf, List.mem_map, List.mem_filter, decide_eq_true_eq]
  constructor
  · rintro ⟨e, ⟨he, rfl, hc, hd⟩, rfl⟩
    exact ⟨e, he, rfl, rfl, hc, hd⟩
  · rintro ⟨e, he, rfl, rfl, hc, hd⟩
    exact ⟨e, ⟨he, rfl, hc, hd⟩, rfl⟩

lemma mem_adjacentHistory {selected : List RetentionKey} {x y : RetentionKey} :
    y ∈ adjacentHistory dependencies selected x ↔ ∃ e ∈ dependencies,
      (e.consumer ∈ selected ∧ e.dependency ∈ selected) ∧
        (e.consumer = x ∧ e.dependency = y ∨ e.dependency = x ∧ e.consumer = y) := by
  simp only [adjacentHistory, List.mem_flatMap, List.mem_filter, decide_eq_true_eq,
    List.mem_append, and_assoc]
  refine exists_congr fun e => and_congr_right fun _ => and_congr_right fun _ =>
    and_congr_right fun _ => ?_
  split_ifs <;> simp_all [eq_comm]

lemma adjacentHistory_symm (selected : List RetentionKey) (x y : RetentionKey)
    (h : y ∈ adjacentHistory dependencies selected x) :
    x ∈ adjacentHistory dependencies selected y := by
  obtain ⟨e, he, hs, h⟩ := mem_adjacentHistory.mp h
  refine mem_adjacentHistory.mpr ⟨e, he, hs, ?_⟩
  rcases h with ⟨hc, hd⟩ | ⟨hd, hc⟩
  · exact .inr ⟨hd, hc⟩
  · exact .inl ⟨hc, hd⟩

lemma adjacentHistory_subset (selected : List RetentionKey) (x : RetentionKey) :
    adjacentHistory dependencies selected x ⊆
      dependencies.map (·.dependency) ++ dependencies.map (·.consumer) := by
  intro y hy
  obtain ⟨e, he, -, h⟩ := mem_adjacentHistory.mp hy
  rcases h with ⟨-, rfl⟩ | ⟨-, rfl⟩
  · exact List.mem_append_left _ (List.mem_map_of_mem he)
  · exact List.mem_append_right _ (List.mem_map_of_mem he)

/-- The blocked set is what the direct blocks reach through retained inputs. -/
theorem mem_rejectedHistory {x : RetentionKey} :
    x ∈ rejectedHistory retained dependencies blocked ↔
      ∃ b ∈ blocked, ReflTransGen (InputOf retained dependencies) b x := by
  have ht : ∀ z, retainedInputs dependencies retained z ⊆ dependencies.map (·.dependency) := by
    intro z y hy
    obtain ⟨e, he, -, rfl, -⟩ := mem_retainedInputs.mp hy
    exact List.mem_map_of_mem he
  have hstep : Step (retainedInputs dependencies retained) = InputOf retained dependencies := by
    funext y z
    exact propext mem_retainedInputs
  rw [rejectedHistory, mem_explore_seeds ht, hstep]
  simp

/-! ### The upward closure -/

/-- `x` is selected itself, or consumes a retained selected identity through a chain of
retained consumers. -/
def InClosure (requested retained : List RetentionKey) (dependencies : List HistoryDependency)
    (x : RetentionKey) : Prop :=
  x ∈ requested ∨
    ∃ r ∈ requested, r ∈ retained ∧ ReflTransGen (ConsumerOf retained dependencies) r x

lemma retainedConsumers_subset (x : RetentionKey) :
    retainedConsumers dependencies retained x ⊆ dependencies.map (·.consumer) := by
  intro y hy
  obtain ⟨e, he, -, rfl, -⟩ := mem_retainedConsumers.mp hy
  exact List.mem_map_of_mem he

lemma mem_explore_consumers {x : RetentionKey} :
    x ∈ explore (retainedConsumers dependencies retained) (dependencies.map (·.consumer))
      requested.dedup (sortedSet (requested.filter (· ∈ retained))) ↔
      InClosure requested retained dependencies x := by
  have hstep : Step (retainedConsumers dependencies retained) =
      ConsumerOf retained dependencies := by
    funext y z
    exact propext mem_retainedConsumers
  constructor
  · intro hx
    rcases explore_sound _ _ _ _ x hx with h | ⟨s, hs, hr⟩
    · exact .inl (List.mem_dedup.mp h)
    · rw [hstep] at hr
      have hs' := List.mem_filter.mp (mem_sortedSet.mp hs)
      exact .inr ⟨s, hs'.1, of_decide_eq_true hs'.2, hr⟩
  · rintro (hx | ⟨r, hr, hret, hchain⟩)
    · exact subset_explore _ _ _ _ (List.mem_dedup.mpr hx)
    · rw [← hstep] at hchain
      refine explore_complete retainedConsumers_subset ?_ ?_
        (mem_sortedSet.mpr (List.mem_filter.mpr ⟨hr, decide_eq_true hret⟩)) hchain
      · intro y hy
        exact List.mem_dedup.mpr (List.mem_of_mem_filter (mem_sortedSet.mp hy))
      · intro y z hz hzr
        obtain ⟨-, -, -, -, hret'⟩ := mem_retainedConsumers.mp hz
        exact mem_sortedSet.mpr (List.mem_filter.mpr ⟨List.mem_dedup.mp hzr, decide_eq_true hret'⟩)

/-- What `dependentClosure` returns, and exactly when it refuses. -/
theorem dependentClosure_eq (maxIdentities maxEdges : ℕ) :
    dependentClosure requested dependencies retained maxIdentities maxEdges =
      let required := explore (retainedConsumers dependencies retained)
        (dependencies.map (·.consumer)) requested.dedup
        (sortedSet (requested.filter (· ∈ retained)))
      if maxEdges < dependencies.length then .error edgeLimitError
      else if maxIdentities < required.length then .error identityLimitError
      else .ok ⟨sortedSet required, sortedSet (dependencies.filter fun e =>
        e.consumer ∈ required ∧ e.consumer ∈ retained)⟩ := by
  unfold dependentClosure
  by_cases he : maxEdges < dependencies.length
  · simp [he, throw, throwThe, MonadExceptOf.throw, bind, Except.bind]
  have hle : requested.dedup.length ≤ (explore (retainedConsumers dependencies retained)
      (dependencies.map (·.consumer)) requested.dedup
      (sortedSet (requested.filter (· ∈ retained)))).length :=
    length_exploreLoop _ _ _ _
  by_cases hi : maxIdentities < requested.dedup.length
  · have hlt := hi.trans_le hle
    simp [he, hi, hlt, throw, throwThe, MonadExceptOf.throw, bind, Except.bind]
  · rw [exploreWithin_eq _ _ _ _ _ _ (Nat.le_of_not_lt hi)]
    simp only [he, hi, if_false, bind, Except.bind, pure, Except.pure]
    split_ifs with h1 h2 h2
    · omega
    · rfl
    · rfl
    · omega

theorem mem_required {closure : HistoryClosure} {maxIdentities maxEdges : ℕ}
    (h : dependentClosure requested dependencies retained maxIdentities maxEdges = .ok closure)
    (x : RetentionKey) : x ∈ closure.required ↔ InClosure requested retained dependencies x := by
  rw [dependentClosure_eq] at h
  dsimp only at h
  split_ifs at h
  cases h
  rw [mem_sortedSet, mem_explore_consumers]

/-- Consumers of a retained member of the closure are in the closure. -/
lemma InClosure.consumer {x y : RetentionKey} (hx : InClosure requested retained dependencies x)
    (hr : x ∈ retained) (hxy : ConsumerOf retained dependencies x y) :
    InClosure requested retained dependencies y := by
  rcases hx with hx | ⟨r, hreq, hret, hchain⟩
  · exact .inr ⟨x, hx, hr, .single hxy⟩
  · exact .inr ⟨r, hreq, hret, hchain.tail hxy⟩

/-- Following a consumer chain backwards is following retained inputs, so a block anywhere
on the chain has already reached its root. -/
lemma rejected_of_chain {r x : RetentionKey} (hret : r ∈ retained)
    (hchain : ReflTransGen (ConsumerOf retained dependencies) r x)
    (hx : x ∈ rejectedHistory retained dependencies blocked) :
    r ∈ rejectedHistory retained dependencies blocked := by
  obtain ⟨b, hb, hbx⟩ := mem_rejectedHistory.mp hx
  refine mem_rejectedHistory.mpr ⟨b, hb, hbx.trans ?_⟩
  have h : x ∈ retained ∧ ReflTransGen (InputOf retained dependencies) x r := by
    clear hx hbx
    induction hchain with
    | refl => exact ⟨hret, .refl⟩
    | tail _ hstep ih =>
      obtain ⟨e, he, hd, hc, hcr⟩ := hstep
      exact ⟨hcr, ih.2.head ⟨e, he, hc, hd, hcr, ih.1⟩⟩
  exact h.2

lemma mem_unblockedRoots {x : RetentionKey} :
    x ∈ unblockedRoots requested retained dependencies blocked ↔
      x ∈ requested ∧ x ∉ rejectedHistory retained dependencies blocked := by
  simp [unblockedRoots]

lemma not_rejected_of_inClosure {x : RetentionKey}
    (hx : InClosure (unblockedRoots requested retained dependencies blocked) retained
      dependencies x) :
    x ∉ rejectedHistory retained dependencies blocked := by
  rcases hx with hx | ⟨r, hr, hret, hchain⟩
  · exact (mem_unblockedRoots.mp hx).2
  · exact fun h => (mem_unblockedRoots.mp hr).2 (rejected_of_chain hret hchain h)

/-! ### The groups -/

/-- The groups of the retained part of a closure. -/
def closureGroups (retained : List RetentionKey) (dependencies : List HistoryDependency)
    (closure : HistoryClosure) : List (List RetentionKey) :=
  let selected := closure.required.filter (· ∈ retained)
  (components (adjacentHistory dependencies selected)
    (dependencies.map (·.dependency) ++ dependencies.map (·.consumer)) selected selected).map
      sortedSet

lemma historyGroups_eq :
    historyGroups requested retained dependencies blocked =
      (dependentClosure (unblockedRoots requested retained dependencies blocked) dependencies
        retained maxRetirementIdentities maxHistoryEdges).map fun closure =>
          ⟨sortedSet (rejectedHistory retained dependencies blocked),
            unblockedRoots requested retained dependencies blocked,
            closureGroups retained dependencies closure⟩ := by
  unfold historyGroups
  dsimp only
  cases h : dependentClosure (unblockedRoots requested retained dependencies blocked) dependencies
      retained maxRetirementIdentities maxHistoryEdges with
  | error e => rfl
  | ok closure =>
    have hany : closure.required.any (· ∈ rejectedHistory retained dependencies blocked) = false := by
      rw [List.any_eq_false]
      intro x hx
      simpa using not_rejected_of_inClosure ((mem_required h x).mp hx)
    simp only [bind, Except.bind, hany, Except.map]
    rfl

variable {closure : HistoryClosure}

lemma mem_closureGroups {x : RetentionKey} :
    x ∈ (closureGroups retained dependencies closure).flatten ↔
      x ∈ closure.required ∧ x ∈ retained := by
  have h := @mem_components _ _ (adjacentHistory dependencies
    (closure.required.filter (· ∈ retained)))
    (dependencies.map (·.dependency) ++ dependencies.map (·.consumer))
    (closure.required.filter (· ∈ retained)) (closure.required.filter (· ∈ retained))
    (fun _ h => h) x
  simp only [List.mem_filter, decide_eq_true_eq] at h
  simp only [closureGroups, List.mem_flatten, List.mem_map, exists_exists_and_eq_and,
    mem_sortedSet]
  exact h

lemma nodup_flatten_closureGroups : (closureGroups retained dependencies closure).flatten.Nodup := by
  have h := @nodup_flatten_components _ _ (adjacentHistory dependencies
    (closure.required.filter (· ∈ retained)))
    (dependencies.map (·.dependency) ++ dependencies.map (·.consumer))
    (closure.required.filter (· ∈ retained)) (closure.required.filter (· ∈ retained))
  unfold closureGroups
  rw [List.nodup_flatten] at h ⊢
  refine ⟨?_, ?_⟩
  · simp only [List.mem_map, forall_exists_index, and_imp, forall_apply_eq_imp_iff₂]
    exact fun c _ => nodup_sortedSet c
  · rw [List.pairwise_map]
    exact h.2.imp fun hd x hx hy => hd (mem_sortedSet.mp hx) (mem_sortedSet.mp hy)

lemma closureGroups_ne_nil : ∀ g ∈ closureGroups retained dependencies closure, g ≠ [] := by
  intro g hg
  obtain ⟨c, hc, rfl⟩ := List.mem_map.mp hg
  obtain ⟨x, hx⟩ := List.exists_mem_of_ne_nil c (components_ne_nil _ _ c hc)
  exact List.ne_nil_of_mem (mem_sortedSet.mpr hx)

/-- Both ends of an edge inside the groups lie in the same group. -/
lemma closureGroups_closed {g : List RetentionKey}
    (hg : g ∈ closureGroups retained dependencies closure) {e : HistoryDependency}
    (he : e ∈ dependencies)
    (hc : e.consumer ∈ (closureGroups retained dependencies closure).flatten)
    (hd : e.dependency ∈ (closureGroups retained dependencies closure).flatten) :
    e.consumer ∈ g ↔ e.dependency ∈ g := by
  have hcs : e.consumer ∈ closure.required.filter (· ∈ retained) := by
    simpa using mem_closureGroups.mp hc
  have hds : e.dependency ∈ closure.required.filter (· ∈ retained) := by
    simpa using mem_closureGroups.mp hd
  obtain ⟨c, hcomp, rfl⟩ := List.mem_map.mp hg
  have hclosed := components_closed (adjacentHistory_subset _) (adjacentHistory_symm _) _ _ c hcomp
  simp only [mem_sortedSet]
  constructor
  · intro h
    exact hclosed _ h _ (mem_adjacentHistory.mpr ⟨e, he, ⟨hcs, hds⟩, .inl ⟨rfl, rfl⟩⟩) hds
  · intro h
    exact hclosed _ h _ (mem_adjacentHistory.mpr ⟨e, he, ⟨hcs, hds⟩, .inr ⟨rfl, rfl⟩⟩) hcs

end

/-- What a result of `historyGroups` promises to whoever retires its groups. -/
structure SoundGroups (requested retained : List RetentionKey)
    (dependencies : List HistoryDependency) (blocked : List RetentionKey)
    (result : HistoryGroups) : Prop where
  mem_blocked : ∀ x, x ∈ result.blocked ↔
    ∃ b ∈ blocked, ReflTransGen (InputOf retained dependencies) b x
  mem_roots : ∀ x, x ∈ result.roots ↔ x ∈ requested ∧ x ∉ result.blocked
  mem_groups : ∀ x, x ∈ result.groups.flatten ↔
    InClosure result.roots retained dependencies x ∧ x ∈ retained
  closure_eq : ∃ closure, dependentClosure result.roots dependencies retained
    maxRetirementIdentities maxHistoryEdges = .ok closure ∧
    ∀ x, x ∈ result.groups.flatten ↔ x ∈ closure.required ∧ x ∈ retained
  nodup : result.groups.flatten.Nodup
  ne_nil : ∀ g ∈ result.groups, g ≠ []
  consumer_mem : ∀ g ∈ result.groups, ∀ e ∈ dependencies, e.dependency ∈ g →
    e.consumer ∈ retained → e.consumer ∈ g
  no_crossing : ∀ g ∈ result.groups, ∀ g' ∈ result.groups, ∀ e ∈ dependencies,
    e.consumer ∈ g → e.dependency ∈ g' → g = g'
  retire_whole : ∀ chosen ⊆ result.groups, ∀ e ∈ dependencies,
    e.dependency ∈ chosen.flatten → e.consumer ∈ retained → e.consumer ∈ chosen.flatten

lemma eq_of_mem_of_nodup_flatten {α : Type*} {groups : List (List α)}
    (h : groups.flatten.Nodup) {g g' : List α} (hg : g ∈ groups) (hg' : g' ∈ groups) {x : α}
    (hx : x ∈ g) (hx' : x ∈ g') : g = g' := by
  by_contra hne
  have hd := (List.nodup_flatten.mp h).2
  have hsymm : Std.Symm (@List.Disjoint α) := ⟨fun _ _ hab => hab.symm⟩
  exact hd.forall hg hg' hne hx hx'

theorem soundGroups_of_ok {requested retained blocked : List RetentionKey}
    {dependencies : List HistoryDependency} {result : HistoryGroups}
    (h : historyGroups requested retained dependencies blocked = .ok result) :
    SoundGroups requested retained dependencies blocked result := by
  rw [historyGroups_eq] at h
  cases hc : dependentClosure (unblockedRoots requested retained dependencies blocked) dependencies
      retained maxRetirementIdentities maxHistoryEdges with
  | error e => simp [hc, Except.map] at h
  | ok closure =>
    simp only [hc, Except.map, Except.ok.injEq] at h
    subst h
    have hclosed : ∀ g ∈ closureGroups retained dependencies closure, ∀ e ∈ dependencies,
        e.dependency ∈ g → e.consumer ∈ retained → e.consumer ∈ g := by
      intro g hg e he hd hret
      have hdf : e.dependency ∈ (closureGroups retained dependencies closure).flatten :=
        List.mem_flatten.mpr ⟨g, hg, hd⟩
      have hin := (mem_required hc _).mp (mem_closureGroups.mp hdf).1
      have hcf : e.consumer ∈ (closureGroups retained dependencies closure).flatten :=
        mem_closureGroups.mpr ⟨(mem_required hc _).mpr
          (hin.consumer (mem_closureGroups.mp hdf).2 ⟨e, he, rfl, rfl, hret⟩), hret⟩
      exact (closureGroups_closed hg he hcf hdf).mpr hd
    refine ⟨fun x => ?_, fun x => ?_, fun x => ?_, ⟨closure, hc, fun x => mem_closureGroups⟩,
      nodup_flatten_closureGroups, closureGroups_ne_nil, hclosed, ?_, ?_⟩
    · rw [mem_sortedSet, mem_rejectedHistory]
    · rw [mem_unblockedRoots, mem_sortedSet]
    · rw [mem_closureGroups, mem_required hc]
    · intro g hg g' hg' e he hcg hdg
      have hcf := List.mem_flatten.mpr ⟨g, hg, hcg⟩
      have hdf := List.mem_flatten.mpr ⟨g', hg', hdg⟩
      exact eq_of_mem_of_nodup_flatten nodup_flatten_closureGroups hg hg'
        ((closureGroups_closed hg he hcf hdf).mp hcg) hdg
    · intro chosen hchosen e he hd hret
      obtain ⟨g, hg, hdg⟩ := List.mem_flatten.mp hd
      exact List.mem_flatten.mpr ⟨g, hg, hclosed g (hchosen hg) e he hdg hret⟩

/-- The check for a blocked consumer never fires, and every result is sound: the blocked
set is the downward closure of the direct blocks, and the groups partition the retained
closure of the unblocked roots into pieces that no consumer and no edge crosses. -/
theorem historyGroups_sound (requested retained blocked : List RetentionKey)
    (dependencies : List HistoryDependency) :
    historyGroups requested retained dependencies blocked ≠ .error blockedConsumerError ∧
      ∀ result, historyGroups requested retained dependencies blocked = .ok result →
        SoundGroups requested retained dependencies blocked result := by
  refine ⟨fun h => ?_, fun _ h => soundGroups_of_ok h⟩
  rw [historyGroups_eq, dependentClosure_eq] at h
  dsimp only at h
  split_ifs at h <;> simp [Except.map, edgeLimitError, identityLimitError, blockedConsumerError] at h

/-- A block on one of two consumers of a shared input rejects the input and keeps the
other consumer. -/
theorem historyGroups_sound_shared_input :
    let key := fun name : String => (⟨.checkpoint, name.toList⟩ : RetentionKey)
    let edges : List HistoryDependency :=
      [⟨key "b", key "a", "item".toList⟩, ⟨key "c", key "a", "item".toList⟩]
    let keys := [key "a", key "b", key "c"]
    historyGroups keys keys edges [key "b"] = .ok ⟨[key "a", key "b"], [key "c"], [[key "c"]]⟩ ∧
      SoundGroups keys keys edges [key "b"] ⟨[key "a", key "b"], [key "c"], [[key "c"]]⟩ := by
  intro key edges keys
  have h : historyGroups keys keys edges [key "b"] =
      .ok ⟨[key "a", key "b"], [key "c"], [[key "c"]]⟩ := by decide
  exact ⟨h, (historyGroups_sound keys keys [key "b"] edges).2 _ h⟩

end AgentRemote
