import AgentRemote.Retention.Deployments

/-!
# Protection of one user's history

The builders run one after another on an empty graph, its closure is taken, and retired
history must not be in it. Rows may change so that edges of unprotected objects disappear;
the closure then stays what it was.
-/

namespace AgentRemote
open Library

variable (readers : PlanReaders)

def graphActions (t : RetentionTables) (now : ℤ) (projection : Option RetentionProjection) :
    List GraphAction :=
  branches t projection ++ libraryOperations readers t ++ deployments readers t ++
    content t projection now ++ operations t ++ migrations t

/-- History whose content is gone. -/
def retiredKeys (t : RetentionTables) : List RetentionKey :=
  (t.checkpoints.filter (!·.retained)).map (⟨.checkpoint, ·.id⟩) ++
    (t.snapshots.filter (·.contentRetiredAt.isSome)).map (⟨.snapshot, ·.id⟩) ++
    (t.finalizations.filter (·.contentRetiredAt.isSome)).map (⟨.finalization, ·.id⟩) ++
    (t.publications.filter (·.contentRetiredAt.isSome)).map (⟨.publication, ·.id⟩) ++
    (t.migrations.filter (·.contentRetiredAt.isSome)).map (⟨.migration, ·.id⟩)

def protection (t : RetentionTables) (now : ℤ) (projection : Option RetentionProjection) :
    Except HistoryFailure RetentionProtection := do
  let graph ← RetentionGraph.run {} (graphActions readers t now projection)
  let result ← graph.protect (directoryReferences t projection)
  reject (∃ key ∈ retiredKeys t, result.reasons key ≠ ∅)
    (HistoryFailure.contentError "STATE_EXPIRED" "active reference targets retired history")
  return result

/-! ### Builders that lose edges -/

/-- `after` inserts nothing that `before` does not insert, and misses only edges whose source
is `lost`. -/
structure Detaches (lost : RetentionKey → Prop) (before after : List GraphAction) : Prop where
  subset : ∀ a ∈ after, a ∈ before ∨
    ∃ sourceKind source targetKind, a = edge sourceKind source targetKind none
  kept : ∀ call, .ok call ∈ before → .ok call ∈ after ∨
    ∃ sourceKind source targetKind target,
      call = .edge sourceKind source targetKind target ∧ lost ⟨sourceKind, source⟩

namespace Detaches

variable {lost : RetentionKey → Prop}

lemma refl (actions : List GraphAction) : Detaches lost actions actions :=
  ⟨fun _ h => .inl h, fun _ h => .inl h⟩

lemma append {before after before' after' : List GraphAction} (h : Detaches lost before after)
    (h' : Detaches lost before' after') : Detaches lost (before ++ before') (after ++ after') := by
  constructor
  · intro a ha
    rcases List.mem_append.mp ha with ha | ha
    · exact (h.subset a ha).imp_left (List.mem_append_left _)
    · exact (h'.subset a ha).imp_left (List.mem_append_right _)
  · intro call hcall
    rcases List.mem_append.mp hcall with hc | hc
    · exact (h.kept call hc).imp_left (List.mem_append_left _)
    · exact (h'.kept call hc).imp_left (List.mem_append_right _)

/-- Row by row: every row is rewritten and its calls detach. -/
lemma flatMap {β : Type} {f g : β → List GraphAction} {u : β → β} {rows : List β}
    (h : ∀ row ∈ rows, Detaches lost (f row) (g (u row))) :
    Detaches lost (rows.flatMap f) ((rows.map u).flatMap g) := by
  induction rows with
  | nil => exact refl []
  | cons row rows ih =>
    simp only [List.flatMap_cons, List.map_cons]
    exact (h row List.mem_cons_self).append (ih fun r hr => h r (List.mem_cons_of_mem _ hr))

/-- Row by row, where no row's call changes. -/
lemma map {β : Type} {f : β → GraphAction} {u : β → β} {rows : List β}
    (h : ∀ row, f (u row) = f row) : Detaches lost (rows.map f) ((rows.map u).map f) := by
  have heq : (rows.map u).map f = rows.map f := by
    rw [List.map_map]
    exact List.map_congr_left fun row _ => h row
  rw [heq]
  exact refl _

/-- Edges of a lost source may all go. -/
lemma drop {actions : List GraphAction} (h : ∀ call, .ok call ∈ actions →
    ∃ sourceKind source targetKind target,
      call = .edge sourceKind source targetKind target ∧ lost ⟨sourceKind, source⟩) :
    Detaches lost actions [] :=
  ⟨by simp, fun call hc => .inr (h call hc)⟩

/-- An edge of a lost source loses its target. -/
lemma cut {sourceKind targetKind : RetentionKind} {source : Text} {target : Option Text}
    (h : lost ⟨sourceKind, source⟩) :
    Detaches lost [edge sourceKind source targetKind target]
      [edge sourceKind source targetKind none] := by
  constructor
  · intro a ha
    exact .inr ⟨_, _, _, List.mem_singleton.mp ha⟩
  · intro call hcall
    obtain rfl := Except.ok.inj (List.mem_singleton.mp hcall)
    exact .inr ⟨_, _, _, _, rfl, h⟩

/-- What is left of a call inserts what a call before did. -/
lemma exists_call {before after : List GraphAction} (h : Detaches lost before after)
    (hok : ∀ a ∈ before, ∃ call, a = .ok call ∧ ∀ k ∈ call.keys, k.identity ≠ [])
    {a : GraphAction} (ha : a ∈ after) :
    ∃ call, a = .ok call ∧ (∀ k ∈ call.keys, k.identity ≠ []) ∧
      (.ok call ∈ before ∨ call.keys = [] ∧ call.arrows = [] ∧ call.seeds = []) := by
  rcases h.subset a ha with hb | ⟨sk, s, tk, rfl⟩
  · obtain ⟨call, rfl, hne⟩ := hok a hb
    exact ⟨call, rfl, hne, .inl hb⟩
  · exact ⟨_, rfl, by simp [GraphCall.keys], .inr ⟨rfl, rfl, rfl⟩⟩

end Detaches

section

variable {readers} {t t' : RetentionTables} {now : ℤ} {projection projection' : Option RetentionProjection}
  {p : RetentionProtection}

lemma protection_eq_ok : protection readers t now projection = .ok p ↔
    ∃ g, RetentionGraph.run {} (graphActions readers t now projection) = .ok g ∧
      g.protect (directoryReferences t projection) = .ok p ∧
      ∀ key ∈ retiredKeys t, p.reasons key = ∅ := by
  simp only [protection, bind_eq_ok, reject_eq_ok]
  constructor
  · rintro ⟨g, hg, q, hq, u, hu, h⟩
    obtain rfl := Except.ok.inj h
    refine ⟨g, hg, hq, fun key hkey => ?_⟩
    by_contra hne
    exact hu ⟨key, hkey, hne⟩
  · rintro ⟨g, hg, hp, hr⟩
    exact ⟨g, hg, p, hp, (), fun ⟨key, hkey, hne⟩ => hne (hr key hkey), rfl⟩

lemma bounded_empty : RetentionGraph.Bounded {} :=
  ⟨List.nodup_nil, List.nodup_nil, by simp, by simp, rfl⟩

/-- Every inserted edge is an edge of the graph, and conversely. -/
lemma run_mem {actions : List GraphAction} {g : RetentionGraph}
    (h : RetentionGraph.run {} actions = .ok g) :
    g.Bounded ∧
      (∀ k, k ∈ g.nodes ↔ ∃ call, .ok call ∈ actions ∧ k ∈ call.keys) ∧
      (∀ e, e ∈ g.edges ↔ ∃ call, .ok call ∈ actions ∧ e ∈ call.arrows) ∧
      (∀ s, s ∈ g.roots ↔ ∃ call, .ok call ∈ actions ∧ s ∈ call.seeds) ∧
      (∀ a ∈ actions, ∃ call, a = .ok call ∧ ∀ k ∈ call.keys, k.identity ≠ []) ∧
      g.nodes.length ≤ 1000000 ∧ g.edges.length ≤ 4000000 := by
  obtain ⟨calls, rfl, hb, ha, hne⟩ := RetentionGraph.run_spec bounded_empty h
  have hmem : ∀ call, (.ok call : GraphAction) ∈ calls.map .ok ↔ call ∈ calls := by
    intro call
    simp
  refine ⟨hb, ?_, ?_, ?_, ?_, ?_, ?_⟩
  · intro k
    simp only [ha.mem_nodes, List.not_mem_nil, false_or, List.mem_flatMap, hmem]
  · intro e
    simp only [ha.mem_edges, List.not_mem_nil, false_or, List.mem_flatMap, hmem]
  · intro s
    simp only [ha.mem_roots, List.not_mem_nil, false_or, List.mem_flatMap, hmem]
  · intro a ha'
    obtain ⟨call, hc, rfl⟩ := List.mem_map.mp ha'
    exact ⟨call, rfl, hne call hc⟩
  · have := hb.nodes_le
    rwa [ha.maxNodes] at this
  · have := hb.edges_le
    rwa [ha.maxEdges] at this

/-- A protected source protects its target. -/
lemma reasons_subset_of_edge (h : protection readers t now projection = .ok p)
    {sourceKind targetKind : RetentionKind} {source target : Text}
    (he : edge sourceKind source targetKind (some target) ∈ graphActions readers t now projection) :
    p.reasons ⟨sourceKind, source⟩ ⊆ p.reasons ⟨targetKind, target⟩ := by
  obtain ⟨g, hg, hp, -⟩ := protection_eq_ok.mp h
  apply RetentionGraph.reasons_edge hp
  exact ((run_mem hg).2.2.1 _).mpr ⟨_, he, by simp [GraphCall.arrows]⟩

/-- A root keeps its object. -/
lemma mem_reasons_of_root (h : protection readers t now projection = .ok p) {kind : RetentionKind}
    {identity : Text} {reason : ProtectionReason}
    (hr : root kind identity reason ∈ graphActions readers t now projection) :
    reason ∈ p.reasons ⟨kind, identity⟩ := by
  obtain ⟨g, hg, hp, -⟩ := protection_eq_ok.mp h
  apply RetentionGraph.reasons_root hp
  exact ((run_mem hg).2.2.2.1 _).mpr ⟨_, hr, by simp [GraphCall.seeds]⟩

/-- Rows whose calls detach only unprotected sources have the closure they had. -/
theorem protection_of_detaches (h : protection readers t now projection = .ok p)
    (hd : Detaches (fun key => p.reasons key = ∅) (graphActions readers t now projection)
      (graphActions readers t' now projection'))
    (hm : directoryReferences t' projection' = directoryReferences t projection)
    (hr : ∀ key ∈ retiredKeys t', p.reasons key = ∅) :
    protection readers t' now projection' = .ok p := by
  obtain ⟨g, hg, hp, -⟩ := protection_eq_ok.mp h
  obtain ⟨hb, hnodes, hedges, hroots, hok, hnl, hel⟩ := run_mem hg
  -- the calls that are left fit into the nodes and edges of the whole graph
  obtain ⟨calls, hcalls⟩ : ∃ calls : List GraphCall,
      graphActions readers t' now projection' = calls.map .ok := by
    apply exists_eq_map_ok
    intro a ha
    obtain ⟨call, rfl, -⟩ := hd.exists_call hok ha
    exact ⟨call, rfl⟩
  have hbefore : ∀ call ∈ calls, (∀ k ∈ call.keys, k.identity ≠ []) ∧
      (.ok call ∈ graphActions readers t now projection ∨
        call.keys = [] ∧ call.arrows = [] ∧ call.seeds = []) := by
    intro call hc
    have ha : (.ok call : GraphAction) ∈ graphActions readers t' now projection' := by
      rw [hcalls]
      exact List.mem_map_of_mem hc
    obtain ⟨call', heq, h'⟩ := hd.exists_call hok ha
    obtain rfl := Except.ok.inj heq
    exact h'
  obtain ⟨g', hg'⟩ : ∃ g', RetentionGraph.run {} (calls.map .ok) = .ok g' := by
    apply RetentionGraph.run_ok bounded_empty (List.nil_subset _) hnl (List.nil_subset _) hel
    · intro call hc k hk
      rcases (hbefore call hc).2 with h' | ⟨h', -⟩
      · exact (hnodes k).mpr ⟨call, h', hk⟩
      · simp [h'] at hk
    · intro call hc e he
      rcases (hbefore call hc).2 with h' | ⟨-, h', -⟩
      · exact (hedges e).mpr ⟨call, h', he⟩
      · simp [h'] at he
    · exact fun call hc => (hbefore call hc).1
  rw [← hcalls] at hg'
  obtain ⟨hb', -, hedges', hroots', -⟩ := run_mem hg'
  refine protection_eq_ok.mpr ⟨g', hg', ?_, hr⟩
  rw [hm]
  apply RetentionGraph.protect_eq_of_detached hp hb'
  · intro s
    rw [hroots, hroots']
    constructor
    · rintro ⟨call, hc, hs⟩
      obtain ⟨call', heq, -, h' | ⟨-, -, h'⟩⟩ := hd.exists_call hok hc
      · obtain rfl := Except.ok.inj heq
        exact ⟨call, h', hs⟩
      · obtain rfl := Except.ok.inj heq
        simp [h'] at hs
    · rintro ⟨call, hc, hs⟩
      rcases hd.kept call hc with h' | ⟨sk, s', tk, tg, rfl, -⟩
      · exact ⟨call, h', hs⟩
      · simp [GraphCall.seeds] at hs
  · intro e he
    obtain ⟨call, hc, he⟩ := (hedges' e).mp he
    obtain ⟨call', heq, -, h' | ⟨-, h', -⟩⟩ := hd.exists_call hok hc
    · obtain rfl := Except.ok.inj heq
      exact (hedges e).mpr ⟨call, h', he⟩
    · obtain rfl := Except.ok.inj heq
      simp [h'] at he
  · intro e he
    obtain ⟨call, hc, he⟩ := (hedges e).mp he
    rcases hd.kept call hc with h' | ⟨sk, s', tk, tg, rfl, hlost⟩
    · exact .inl ((hedges' e).mpr ⟨call, h', he⟩)
    · right
      cases tg with
      | none => simp [GraphCall.arrows] at he
      | some target =>
        simp only [GraphCall.arrows, List.mem_singleton] at he
        rw [he]
        exact hlost

end

end AgentRemote
