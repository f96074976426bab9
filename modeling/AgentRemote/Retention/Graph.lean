import AgentRemote.Library.Outcome
import AgentRemote.Library.Worklist
import AgentRemote.Retention.Key

/-!
# The retention graph

Business rules insert roots and edges one by one into a bounded graph, and `protect`
spreads every root's reason along the edges. A run of insertions succeeds exactly when its
nodes and edges fit the bounds, so a run that inserts less succeeds too, and edges that
start at an unprotected node do not matter to the result.
-/

namespace AgentRemote
open Library Relation

/-- What a history service raises; a broken table constraint surfaces when it flushes. -/
inductive HistoryFailure where
  | valueError (message : String)
  | contentError (code message : String)
  | keyError
  | integrityError (constraint : String)

/-- A member of a current directory, which retirement must not ignore. -/
structure DirectoryReference where
  accountId : Text
  directoryCheckpointId : Text
  entryName : Text
  stateId : Text
  checkpointId : Text

/-- One call of the builder. An edge without a target is not inserted. -/
inductive GraphCall where
  | root (kind : RetentionKind) (identity : Text) (reason : ProtectionReason)
  | edge (sourceKind : RetentionKind) (source : Text) (targetKind : RetentionKind)
      (target : Option Text)

/-- A call, or the error a builder raises in its place. -/
abbrev GraphAction := Except HistoryFailure GraphCall

instance : LawfulBEq (RetentionKey × ProtectionReason) := inferInstance

instance : LawfulBEq (RetentionKey × RetentionKey) := inferInstance

structure RetentionGraph where
  maxNodes : ℕ := 1000000
  maxEdges : ℕ := 4000000
  nodes : List RetentionKey := []
  edges : List (RetentionKey × RetentionKey) := []
  roots : List (RetentionKey × ProtectionReason) := []
  failed : Bool := false

/-- The closure of a graph, which says what must be kept and never what may go. -/
structure RetentionProtection where
  roots : Finset (RetentionKey × ProtectionReason)
  «protected» : Finset (RetentionKey × ProtectionReason)
  directoryMembers : List DirectoryReference

def ProtectionReason.all : List ProtectionReason :=
  [pendingOperation, libraryDefault, pin, currentBranch, localOriginal, activeSnapshot,
    pendingFinalization, publicationConflict, migrationConflict, pendingTakeover, uploadLease,
    currentDirectory]

lemma ProtectionReason.mem_all (r : ProtectionReason) : r ∈ all := by
  cases r <;> decide

/-- Every reason that reached the object. -/
def RetentionProtection.reasons (p : RetentionProtection) (key : RetentionKey) :
    Finset ProtectionReason :=
  (p.protected.filter (·.1 = key)).image (·.2)

@[simp] lemma RetentionProtection.mem_reasons {p : RetentionProtection} {key : RetentionKey}
    {r : ProtectionReason} : r ∈ p.reasons key ↔ (key, r) ∈ p.protected := by
  simp only [reasons, Finset.mem_image, Finset.mem_filter]
  constructor
  · rintro ⟨⟨k, r'⟩, ⟨h, rfl⟩, rfl⟩
    exact h
  · intro h
    exact ⟨(key, r), ⟨h, rfl⟩, rfl⟩

namespace RetentionGraph

/-- `_node`. -/
def node (g : RetentionGraph) (key : RetentionKey) : Except HistoryFailure RetentionGraph :=
  if key.identity = [] then .error (.valueError "empty retention identity")
  else if key ∈ g.nodes then .ok g
  else if g.maxNodes ≤ g.nodes.length then .error (.valueError "retention graph node limit exceeded")
  else .ok { g with nodes := g.nodes ++ [key] }

def root (g : RetentionGraph) (key : RetentionKey) (reason : ProtectionReason) :
    Except HistoryFailure RetentionGraph := do
  let g ← g.node key
  return if (key, reason) ∈ g.roots then g else { g with roots := g.roots ++ [(key, reason)] }

def edge (g : RetentionGraph) (source target : RetentionKey) :
    Except HistoryFailure RetentionGraph := do
  let g ← g.node source
  let g ← g.node target
  if (source, target) ∈ g.edges then return g
  if g.maxEdges ≤ g.edges.length then throw (.valueError "retention graph edge limit exceeded")
  return { g with edges := g.edges ++ [(source, target)] }

def insert (g : RetentionGraph) : GraphCall → Except HistoryFailure RetentionGraph
  | .root kind identity reason => g.root ⟨kind, identity⟩ reason
  | .edge _ _ _ none => .ok g
  | .edge sourceKind source targetKind (some target) =>
    g.edge ⟨sourceKind, source⟩ ⟨targetKind, target⟩

/-- Performs the calls in order and stops at the first error. -/
def run (g : RetentionGraph) (actions : List GraphAction) : Except HistoryFailure RetentionGraph :=
  actions.foldlM (fun g action => action >>= g.insert) g

/-- Targets of a node, with the reason that travels to them. -/
def spread (g : RetentionGraph) (item : RetentionKey × ProtectionReason) :
    List (RetentionKey × ProtectionReason) :=
  (g.edges.filter (·.1 = item.1)).map fun e => (e.2, item.2)

/-- Every place a reason can travel to. -/
def destinations (g : RetentionGraph) : List (RetentionKey × ProtectionReason) :=
  g.edges.flatMap fun e => ProtectionReason.all.map fun r => (e.2, r)

def protect (g : RetentionGraph) (members : List DirectoryReference) :
    Except HistoryFailure RetentionProtection := do
  reject (g.failed = true) (.valueError "retention graph is incomplete")
  let reached := explore g.spread g.destinations g.roots g.roots
  return ⟨g.roots.toFinset, reached.toFinset, members⟩

end RetentionGraph

/-! ### What a call inserts -/

namespace GraphCall

def keys : GraphCall → List RetentionKey
  | .root kind identity _ => [⟨kind, identity⟩]
  | .edge _ _ _ none => []
  | .edge sourceKind source targetKind (some target) => [⟨sourceKind, source⟩, ⟨targetKind, target⟩]

def arrows : GraphCall → List (RetentionKey × RetentionKey)
  | .edge sourceKind source targetKind (some target) =>
    [(⟨sourceKind, source⟩, ⟨targetKind, target⟩)]
  | _ => []

def seeds : GraphCall → List (RetentionKey × ProtectionReason)
  | .root kind identity reason => [(⟨kind, identity⟩, reason)]
  | _ => []

end GraphCall

namespace RetentionGraph

/-- The two collections hold no duplicates and respect their bounds. -/
structure Bounded (g : RetentionGraph) : Prop where
  nodes_nodup : g.nodes.Nodup
  edges_nodup : g.edges.Nodup
  nodes_le : g.nodes.length ≤ g.maxNodes
  edges_le : g.edges.length ≤ g.maxEdges
  whole : g.failed = false

/-- `g'` is `g` with these nodes, edges and roots added. -/
structure Adds (g g' : RetentionGraph) (keys : List RetentionKey)
    (arrows : List (RetentionKey × RetentionKey)) (seeds : List (RetentionKey × ProtectionReason)) :
    Prop where
  maxNodes : g'.maxNodes = g.maxNodes
  maxEdges : g'.maxEdges = g.maxEdges
  mem_nodes : ∀ k, k ∈ g'.nodes ↔ k ∈ g.nodes ∨ k ∈ keys
  mem_edges : ∀ e, e ∈ g'.edges ↔ e ∈ g.edges ∨ e ∈ arrows
  mem_roots : ∀ s, s ∈ g'.roots ↔ s ∈ g.roots ∨ s ∈ seeds

lemma Adds.refl (g : RetentionGraph) : Adds g g [] [] [] :=
  ⟨rfl, rfl, by simp, by simp, by simp⟩

lemma Adds.trans {g₁ g₂ g₃ : RetentionGraph} {keys keys' arrows arrows' seeds seeds'}
    (h : Adds g₁ g₂ keys arrows seeds) (h' : Adds g₂ g₃ keys' arrows' seeds') :
    Adds g₁ g₃ (keys ++ keys') (arrows ++ arrows') (seeds ++ seeds') where
  maxNodes := h'.maxNodes.trans h.maxNodes
  maxEdges := h'.maxEdges.trans h.maxEdges
  mem_nodes k := by rw [h'.mem_nodes, h.mem_nodes, List.mem_append, or_assoc]
  mem_edges e := by rw [h'.mem_edges, h.mem_edges, List.mem_append, or_assoc]
  mem_roots s := by rw [h'.mem_roots, h.mem_roots, List.mem_append, or_assoc]

lemma node_spec {g g' : RetentionGraph} {key : RetentionKey} (hg : g.Bounded)
    (h : g.node key = .ok g') : g'.Bounded ∧ Adds g g' [key] [] [] ∧ key.identity ≠ [] := by
  unfold node at h
  split_ifs at h with hempty hmem hfull
  · obtain rfl := Except.ok.inj h
    refine ⟨hg, ⟨rfl, rfl, fun k => ?_, by simp, by simp⟩, hempty⟩
    simp only [List.mem_singleton]
    exact ⟨.inl, fun hk => hk.elim id fun hk => hk ▸ hmem⟩
  · obtain rfl := Except.ok.inj h
    refine ⟨⟨?_, hg.edges_nodup, ?_, hg.edges_le, hg.whole⟩, ⟨rfl, rfl, ?_, by simp, by simp⟩, hempty⟩
    · exact List.nodup_append'.mpr ⟨hg.nodes_nodup, List.nodup_singleton _, by simpa using hmem⟩
    · simp only [List.length_append, List.length_singleton]
      omega
    · simp

lemma root_spec {g g' : RetentionGraph} {key : RetentionKey} {reason : ProtectionReason}
    (hg : g.Bounded) (h : g.root key reason = .ok g') :
    g'.Bounded ∧ Adds g g' [key] [] [(key, reason)] ∧ key.identity ≠ [] := by
  simp only [root, bind_eq_ok] at h
  obtain ⟨g₁, h₁, h⟩ := h
  obtain ⟨hb, ha, hne⟩ := node_spec hg h₁
  obtain rfl := Except.ok.inj h
  split_ifs with hmem
  · refine ⟨hb, ⟨ha.maxNodes, ha.maxEdges, ha.mem_nodes, ha.mem_edges, fun s => ?_⟩, hne⟩
    have hs := ha.mem_roots s
    simp only [List.not_mem_nil, or_false] at hs
    rw [hs, List.mem_singleton]
    exact ⟨.inl, fun h => h.elim id fun h => hs.mp (h ▸ hmem)⟩
  · refine ⟨⟨hb.nodes_nodup, hb.edges_nodup, hb.nodes_le, hb.edges_le, hb.whole⟩,
      ⟨ha.maxNodes, ha.maxEdges, ha.mem_nodes, ha.mem_edges, fun s => ?_⟩, hne⟩
    have hs := ha.mem_roots s
    simp only [List.not_mem_nil, or_false] at hs
    rw [List.mem_append, hs]

lemma edge_spec {g g' : RetentionGraph} {source target : RetentionKey}
    (hg : g.Bounded) (h : g.edge source target = .ok g') :
    g'.Bounded ∧ Adds g g' [source, target] [(source, target)] [] ∧
      source.identity ≠ [] ∧ target.identity ≠ [] := by
  simp only [edge, bind_eq_ok] at h
  obtain ⟨g₁, h₁, g₂, h₂, h⟩ := h
  obtain ⟨hb₁, ha₁, hs⟩ := node_spec hg h₁
  obtain ⟨hb₂, ha₂, ht⟩ := node_spec hb₁ h₂
  have ha := ha₁.trans ha₂
  simp only [List.nil_append, List.singleton_append] at ha
  split_ifs at h with hmem hfull
  · obtain rfl := Except.ok.inj h
    refine ⟨hb₂, ⟨ha.maxNodes, ha.maxEdges, ha.mem_nodes, fun e => ?_, ha.mem_roots⟩, hs, ht⟩
    have he := ha.mem_edges e
    simp only [List.not_mem_nil, or_false] at he
    rw [he, List.mem_singleton]
    exact ⟨.inl, fun h => h.elim id fun h => he.mp (h ▸ hmem)⟩
  · simp at h
  · obtain rfl := Except.ok.inj h
    refine ⟨⟨hb₂.nodes_nodup, ?_, hb₂.nodes_le, ?_, hb₂.whole⟩,
      ⟨ha.maxNodes, ha.maxEdges, ha.mem_nodes, fun e => ?_, ha.mem_roots⟩, hs, ht⟩
    · exact List.nodup_append'.mpr ⟨hb₂.edges_nodup, List.nodup_singleton _, by simpa using hmem⟩
    · simp only [List.length_append, List.length_singleton]
      omega
    · have he := ha.mem_edges e
      simp only [List.not_mem_nil, or_false] at he
      rw [List.mem_append, he]

lemma insert_spec {g g' : RetentionGraph} {call : GraphCall} (hg : g.Bounded)
    (h : g.insert call = .ok g') :
    g'.Bounded ∧ Adds g g' call.keys call.arrows call.seeds ∧ ∀ k ∈ call.keys, k.identity ≠ [] := by
  match call with
  | .root kind identity reason =>
    obtain ⟨hb, ha, hne⟩ := root_spec hg h
    exact ⟨hb, ha, by simpa [GraphCall.keys] using hne⟩
  | .edge _ _ _ none =>
    obtain rfl := Except.ok.inj h
    exact ⟨hg, .refl g, by simp [GraphCall.keys]⟩
  | .edge sk s tk (some t) =>
    obtain ⟨hb, ha, hs, ht⟩ := edge_spec hg h
    exact ⟨hb, ha, by simpa [GraphCall.keys] using ⟨hs, ht⟩⟩

/-! ### Runs of calls -/

lemma run_cons (g : RetentionGraph) (a : GraphAction) (actions : List GraphAction) :
    g.run (a :: actions) = (a >>= g.insert) >>= fun g => g.run actions := by
  simp [run]

/-- What a successful run inserted: exactly its calls, none of them an error. -/
theorem run_spec {actions : List GraphAction} {g g' : RetentionGraph} (hg : g.Bounded)
    (h : g.run actions = .ok g') :
    ∃ calls : List GraphCall, actions = calls.map .ok ∧ g'.Bounded ∧
      Adds g g' (calls.flatMap GraphCall.keys) (calls.flatMap GraphCall.arrows)
        (calls.flatMap GraphCall.seeds) ∧
      ∀ call ∈ calls, ∀ k ∈ call.keys, k.identity ≠ [] := by
  induction actions generalizing g with
  | nil =>
    obtain rfl := Except.ok.inj h
    exact ⟨[], rfl, hg, .refl g, by simp⟩
  | cons a actions ih =>
    rw [run_cons, bind_eq_ok] at h
    obtain ⟨g₁, h₁, h⟩ := h
    rw [bind_eq_ok] at h₁
    obtain ⟨call, rfl, h₁⟩ := h₁
    obtain ⟨hb, ha, hne⟩ := insert_spec hg h₁
    obtain ⟨calls, rfl, hb', ha', hne'⟩ := ih hb h
    refine ⟨call :: calls, rfl, hb', ?_, ?_⟩
    · simpa only [List.flatMap_cons] using ha.trans ha'
    · intro c hc
      rcases List.mem_cons.mp hc with rfl | hc
      · exact hne
      · exact hne' c hc

lemma node_ok {g : RetentionGraph} {key : RetentionKey} {within : List RetentionKey}
    (hg : g.Bounded) (hsub : g.nodes ⊆ within) (hlen : within.length ≤ g.maxNodes)
    (hkey : key ∈ within) (hne : key.identity ≠ []) : ∃ g', g.node key = .ok g' := by
  by_cases hmem : key ∈ g.nodes
  · exact ⟨g, by simp [node, hne, hmem]⟩
  · -- the node is new, so the present nodes leave room within the bound
    have hsp := List.subperm_of_subset (List.nodup_cons.mpr ⟨hmem, hg.nodes_nodup⟩)
      (List.cons_subset.mpr ⟨hkey, hsub⟩)
    have hlt := hsp.length_le
    simp only [List.length_cons] at hlt
    have hfull : ¬g.maxNodes ≤ g.nodes.length := by omega
    exact ⟨{ g with nodes := g.nodes ++ [key] }, by simp [node, hne, hmem, hfull]⟩

lemma insert_ok {g : RetentionGraph} {call : GraphCall} {within : List RetentionKey}
    {arrows : List (RetentionKey × RetentionKey)} (hg : g.Bounded) (hsub : g.nodes ⊆ within)
    (hlen : within.length ≤ g.maxNodes) (hedges : g.edges ⊆ arrows)
    (helen : arrows.length ≤ g.maxEdges) (hk : call.keys ⊆ within) (he : call.arrows ⊆ arrows)
    (hne : ∀ k ∈ call.keys, k.identity ≠ []) : ∃ g', g.insert call = .ok g' := by
  match call with
  | .root kind identity reason =>
    obtain ⟨g₁, h₁⟩ := node_ok hg hsub hlen (hk List.mem_cons_self) (hne _ List.mem_cons_self)
    exact ⟨_, by simp only [insert, root, h₁, ok_bind]; rfl⟩
  | .edge _ _ _ none => exact ⟨g, rfl⟩
  | .edge sk s tk (some t) =>
    have hs : (⟨sk, s⟩ : RetentionKey) ∈ GraphCall.keys (.edge sk s tk (some t)) := by
      simp [GraphCall.keys]
    have ht : (⟨tk, t⟩ : RetentionKey) ∈ GraphCall.keys (.edge sk s tk (some t)) := by
      simp [GraphCall.keys]
    obtain ⟨g₁, h₁⟩ := node_ok hg hsub hlen (hk hs) (hne _ hs)
    obtain ⟨hb₁, ha₁, -⟩ := node_spec hg h₁
    have hsub₁ : g₁.nodes ⊆ within := by
      intro k hk'
      rcases (ha₁.mem_nodes k).mp hk' with h | h
      · exact hsub h
      · exact hk (List.mem_singleton.mp h ▸ hs)
    obtain ⟨g₂, h₂⟩ := node_ok hb₁ hsub₁ (by rw [ha₁.maxNodes]; exact hlen) (hk ht) (hne _ ht)
    obtain ⟨hb₂, ha₂, -⟩ := node_spec hb₁ h₂
    by_cases hmem : ((⟨sk, s⟩, ⟨tk, t⟩) : RetentionKey × RetentionKey) ∈ g₂.edges
    · exact ⟨g₂, by simp [insert, edge, h₁, h₂, hmem]⟩
    · have hedges₂ : g₂.edges ⊆ arrows := by
        intro e he'
        have h := (ha₂.mem_edges e).mp he'
        rw [ha₁.mem_edges] at h
        exact hedges (by simpa using h)
      have hsp := List.subperm_of_subset (List.nodup_cons.mpr ⟨hmem, hb₂.edges_nodup⟩)
        (List.cons_subset.mpr ⟨he (by simp [GraphCall.arrows]), hedges₂⟩)
      have hlt := hsp.length_le
      simp only [List.length_cons] at hlt
      have hfull : ¬g₂.maxEdges ≤ g₂.edges.length := by
        rw [ha₂.maxEdges, ha₁.maxEdges]
        omega
      exact ⟨_, by simp only [insert, edge, h₁, h₂, ok_bind, hmem, hfull, if_false]; rfl⟩

/-- A run whose insertions stay within lists that fit the bounds succeeds. -/
theorem run_ok {calls : List GraphCall} {g : RetentionGraph} {within : List RetentionKey}
    {arrows : List (RetentionKey × RetentionKey)} (hg : g.Bounded) (hsub : g.nodes ⊆ within)
    (hlen : within.length ≤ g.maxNodes) (hedges : g.edges ⊆ arrows)
    (helen : arrows.length ≤ g.maxEdges) (hk : ∀ call ∈ calls, call.keys ⊆ within)
    (he : ∀ call ∈ calls, call.arrows ⊆ arrows)
    (hne : ∀ call ∈ calls, ∀ k ∈ call.keys, k.identity ≠ []) :
    ∃ g', g.run (calls.map .ok) = .ok g' := by
  induction calls generalizing g with
  | nil => exact ⟨g, rfl⟩
  | cons call calls ih =>
    obtain ⟨g₁, h₁⟩ := insert_ok hg hsub hlen hedges helen (hk call List.mem_cons_self)
      (he call List.mem_cons_self) (hne call List.mem_cons_self)
    obtain ⟨hb, ha, -⟩ := insert_spec hg h₁
    rw [List.map_cons, run_cons, ok_bind, h₁, ok_bind]
    apply ih hb
    · intro k hk'
      rcases (ha.mem_nodes k).mp hk' with h | h
      · exact hsub h
      · exact hk call List.mem_cons_self h
    · rw [ha.maxNodes]
      exact hlen
    · intro e he'
      rcases (ha.mem_edges e).mp he' with h | h
      · exact hedges h
      · exact he call List.mem_cons_self h
    · rw [ha.maxEdges]
      exact helen
    · exact fun c hc => hk c (List.mem_cons_of_mem _ hc)
    · exact fun c hc => he c (List.mem_cons_of_mem _ hc)
    · exact fun c hc => hne c (List.mem_cons_of_mem _ hc)

/-! ### The closure -/

/-- One edge carries a reason from its source to its target. -/
def Carries (g : RetentionGraph) (a b : RetentionKey × ProtectionReason) : Prop :=
  (a.1, b.1) ∈ g.edges ∧ a.2 = b.2

lemma mem_spread {g : RetentionGraph} {a b : RetentionKey × ProtectionReason} :
    b ∈ g.spread a ↔ g.Carries a b := by
  obtain ⟨x, r⟩ := a
  obtain ⟨y, r'⟩ := b
  simp only [spread, Carries, List.mem_map, List.mem_filter, decide_eq_true_eq, Prod.mk.injEq,
    Prod.exists]
  constructor
  · rintro ⟨x', y', ⟨he, rfl⟩, rfl, rfl⟩
    exact ⟨he, rfl⟩
  · rintro ⟨he, rfl⟩
    exact ⟨x, y, ⟨he, rfl⟩, rfl, rfl⟩

lemma spread_subset (g : RetentionGraph) (a : RetentionKey × ProtectionReason) :
    g.spread a ⊆ g.destinations := by
  intro b hb
  obtain ⟨he, -⟩ := mem_spread.mp hb
  refine List.mem_flatMap.mpr ⟨_, he, List.mem_map.mpr ⟨b.2, ProtectionReason.mem_all _, rfl⟩⟩

lemma step_spread (g : RetentionGraph) : Step g.spread = g.Carries := by
  funext a b
  exact propext mem_spread

lemma protect_eq {g : RetentionGraph} (hg : g.Bounded) (members : List DirectoryReference) :
    g.protect members = .ok ⟨g.roots.toFinset,
      (explore g.spread g.destinations g.roots g.roots).toFinset, members⟩ := by
  simp [protect, reject, hg.whole]

/-- Exactly the places that some root's reason reaches are protected. -/
theorem mem_protect {g : RetentionGraph} {members : List DirectoryReference}
    {p : RetentionProtection} (h : g.protect members = .ok p) (a : RetentionKey × ProtectionReason) :
    a ∈ p.protected ↔ ∃ s ∈ g.roots, ReflTransGen g.Carries s a := by
  simp only [protect, reject_bind_eq_ok] at h
  obtain ⟨-, h⟩ := h
  obtain rfl := Except.ok.inj h
  rw [List.mem_toFinset, mem_explore_seeds g.spread_subset, step_spread]

/-- Reasons travel along every edge. -/
lemma reasons_edge {g : RetentionGraph} {members : List DirectoryReference}
    {p : RetentionProtection} (h : g.protect members = .ok p) {x y : RetentionKey}
    (he : (x, y) ∈ g.edges) : p.reasons x ⊆ p.reasons y := by
  intro r hr
  rw [RetentionProtection.mem_reasons, mem_protect h] at hr ⊢
  obtain ⟨s, hs, hchain⟩ := hr
  exact ⟨s, hs, hchain.tail ⟨he, rfl⟩⟩

lemma reasons_root {g : RetentionGraph} {members : List DirectoryReference}
    {p : RetentionProtection} (h : g.protect members = .ok p) {x : RetentionKey}
    {r : ProtectionReason} (hr : (x, r) ∈ g.roots) : r ∈ p.reasons x := by
  rw [RetentionProtection.mem_reasons, mem_protect h]
  exact ⟨_, hr, .refl⟩

/-- Dropping edges that start at unprotected objects changes nothing. -/
theorem protect_eq_of_detached {g g' : RetentionGraph} {members : List DirectoryReference}
    {p : RetentionProtection} (h : g.protect members = .ok p) (hg' : g'.Bounded)
    (hroots : ∀ s, s ∈ g'.roots ↔ s ∈ g.roots) (hsub : g'.edges ⊆ g.edges)
    (hkeep : ∀ e ∈ g.edges, e ∈ g'.edges ∨ p.reasons e.1 = ∅) :
    g'.protect members = .ok p := by
  have hmem := mem_protect h
  have hreach : ∀ a, (∃ s ∈ {s | s ∈ g.roots}, ReflTransGen g'.Carries s a) ↔
      ∃ s ∈ {s | s ∈ g.roots}, ReflTransGen g.Carries s a := by
    apply reached_iff_of_detached
    · exact fun x y hxy => ⟨hsub hxy.1, hxy.2⟩
    · intro x y hxy
      rcases hkeep _ hxy.1 with h' | h'
      · exact .inl ⟨h', hxy.2⟩
      · refine .inr fun hx => ?_
        have hr : x.2 ∈ p.reasons x.1 := by
          rw [RetentionProtection.mem_reasons, hmem]
          exact hx
        rw [h'] at hr
        simp at hr
  rw [protect_eq hg']
  simp only [protect, reject_bind_eq_ok] at h
  obtain ⟨-, h⟩ := h
  obtain rfl := Except.ok.inj h
  congr 2
  · ext s
    simpa using hroots s
  · ext a
    rw [List.mem_toFinset, mem_explore_seeds g'.spread_subset, step_spread, List.mem_toFinset,
      mem_explore_seeds g.spread_subset, step_spread]
    simpa only [hroots, Set.mem_ofPred_eq] using hreach a

end RetentionGraph

end AgentRemote
