import AgentRemote.Retention.Graph

/-!
# Insertions whose failures are survived

A caller may go on after a failed insertion. The graph then holds a part of what it was told
and remembers that, so `protect` answers for the whole of the insertions or not at all.
-/

namespace AgentRemote
open Library Relation

namespace RetentionGraph

/-- A graph that lost an insertion. -/
def fail (g : RetentionGraph) : RetentionGraph := { g with failed := true }

/-- What a call leaves behind and the error it raises. An edge whose target fails has already
registered its source. -/
def attempt (g : RetentionGraph) : GraphCall → RetentionGraph × Option HistoryFailure
  | .root kind identity reason =>
    match g.node ⟨kind, identity⟩ with
    | .error e => (g.fail, some e)
    | .ok g =>
      (if (⟨kind, identity⟩, reason) ∈ g.roots then g
        else { g with roots := g.roots ++ [(⟨kind, identity⟩, reason)] }, none)
  | .edge _ _ _ none => (g, none)
  | .edge sourceKind source targetKind (some target) =>
    match g.node ⟨sourceKind, source⟩ with
    | .error e => (g.fail, some e)
    | .ok g =>
      match g.node ⟨targetKind, target⟩ with
      | .error e => (g.fail, some e)
      | .ok g =>
        if (⟨sourceKind, source⟩, ⟨targetKind, target⟩) ∈ g.edges then (g, none)
        else if g.maxEdges ≤ g.edges.length then
          (g.fail, some (.valueError "retention graph edge limit exceeded"))
        else ({ g with edges := g.edges ++ [(⟨sourceKind, source⟩, ⟨targetKind, target⟩)] }, none)

/-- The calls in order, whatever they raise. -/
def attempts (g : RetentionGraph) : List GraphCall → RetentionGraph × List (Option HistoryFailure)
  | [] => (g, [])
  | call :: calls =>
    let (g', raised) := g.attempt call
    let (g'', rest) := g'.attempts calls
    (g'', raised :: rest)

/-- A new graph. -/
def fresh (maxNodes maxEdges : ℕ) : RetentionGraph := { maxNodes := maxNodes, maxEdges := maxEdges }

lemma bounded_fresh (maxNodes maxEdges : ℕ) : (fresh maxNodes maxEdges).Bounded :=
  ⟨List.nodup_nil, List.nodup_nil, Nat.zero_le _, Nat.zero_le _, rfl⟩

/-! ### One attempt -/

section

variable {g g' : RetentionGraph} {call : GraphCall} {calls calls' : List GraphCall}

/-- An attempt is an insertion, or it raises and leaves a mark. -/
lemma attempt_cases (g : RetentionGraph) (call : GraphCall) :
    (∃ g', g.insert call = .ok g' ∧ g.attempt call = (g', none)) ∨
    ∃ e, g.insert call = .error e ∧ (g.attempt call).2 = some e ∧
      (g.attempt call).1.failed = true := by
  match call with
  | .root kind identity reason =>
    cases hnode : g.node ⟨kind, identity⟩ with
    | error e => exact .inr ⟨e, by simp [insert, root, attempt, hnode, fail]⟩
    | ok g₁ => exact .inl ⟨_, by simp only [insert, root, hnode, ok_bind]; rfl, by
        simp only [attempt, hnode]⟩
  | .edge _ _ _ none => exact .inl ⟨g, rfl, rfl⟩
  | .edge sk s tk (some t) =>
    cases hsource : g.node ⟨sk, s⟩ with
    | error e => exact .inr ⟨e, by simp [insert, edge, attempt, hsource, fail]⟩
    | ok g₁ =>
      cases htarget : g₁.node ⟨tk, t⟩ with
      | error e => exact .inr ⟨e, by simp [insert, edge, attempt, hsource, htarget, fail]⟩
      | ok g₂ =>
        simp only [insert, edge, attempt, hsource, htarget, ok_bind]
        split_ifs with hmem hfull
        · exact .inl ⟨g₂, rfl, rfl⟩
        · exact .inr ⟨_, rfl, rfl, rfl⟩
        · exact .inl ⟨_, rfl, rfl⟩

lemma node_failed {key : RetentionKey} (hf : g.failed = true) (h : g.node key = .ok g') :
    g'.failed = true := by
  unfold node at h
  split_ifs at h
  · obtain rfl := Except.ok.inj h
    exact hf
  · obtain rfl := Except.ok.inj h
    exact hf

/-- The mark stays. -/
lemma attempt_failed (hf : g.failed = true) (call : GraphCall) :
    (g.attempt call).1.failed = true := by
  match call with
  | .root kind identity reason =>
    cases hnode : g.node ⟨kind, identity⟩ with
    | error e => simp [attempt, hnode, fail]
    | ok g₁ =>
      have h₁ := node_failed hf hnode
      simp only [attempt, hnode]
      split_ifs <;> exact h₁
  | .edge _ _ _ none => exact hf
  | .edge sk s tk (some t) =>
    cases hsource : g.node ⟨sk, s⟩ with
    | error e => simp [attempt, hsource, fail]
    | ok g₁ =>
      have h₁ := node_failed hf hsource
      cases htarget : g₁.node ⟨tk, t⟩ with
      | error e => simp [attempt, hsource, htarget, fail]
      | ok g₂ =>
        have h₂ := node_failed h₁ htarget
        simp only [attempt, hsource, htarget]
        split_ifs
        · exact h₂
        · rfl
        · exact h₂

/-! ### A sequence of attempts -/

lemma attempts_failed (hf : g.failed = true) (calls : List GraphCall) :
    (g.attempts calls).1.failed = true := by
  induction calls generalizing g with
  | nil => exact hf
  | cons call calls ih => exact ih (attempt_failed hf call)

/-- Attempts succeed together as the run of the calls, or one raises and the graph is marked. -/
theorem attempts_cases (calls : List GraphCall) :
    (∃ g', g.run (calls.map .ok) = .ok g' ∧ (g.attempts calls).1 = g' ∧
      ∀ raised ∈ (g.attempts calls).2, raised = none) ∨
    (∃ e, g.run (calls.map .ok) = .error e) ∧ (∃ e, some e ∈ (g.attempts calls).2) ∧
      (g.attempts calls).1.failed = true := by
  induction calls generalizing g with
  | nil => exact .inl ⟨g, rfl, rfl, by simp [attempts]⟩
  | cons call calls ih =>
    rw [List.map_cons, run_cons, ok_bind]
    rcases attempt_cases g call with ⟨g₁, hinsert, hattempt⟩ | ⟨e, hinsert, hraised, hfailed⟩
    · rw [hinsert, ok_bind]
      have hstep : g.attempts (call :: calls) =
          ((g₁.attempts calls).1, none :: (g₁.attempts calls).2) := by
        simp only [attempts, hattempt]
      rw [hstep]
      rcases @ih g₁ with ⟨g', hrun, heq, hall⟩ | ⟨hrun, ⟨e, he⟩, hfailed⟩
      · exact .inl ⟨g', hrun, heq, by simpa using hall⟩
      · exact .inr ⟨hrun, ⟨e, List.mem_cons_of_mem _ he⟩, hfailed⟩
    · refine .inr ⟨⟨e, by rw [hinsert, error_bind]⟩, ⟨e, ?_⟩, attempts_failed hfailed calls⟩
      rw [attempts]
      exact List.mem_cons.mpr (.inl hraised.symm)

/-! ### The order of the insertions -/

lemma map_ok_injective {calls calls' : List GraphCall}
    (h : (calls.map .ok : List GraphAction) = calls'.map .ok) : calls = calls' :=
  List.map_injective_iff.mpr (fun _ _ => Except.ok.inj) h

/-- A run adds the keys, the edges and the roots of its calls, whatever their order. -/
lemma run_adds (hg : g.Bounded) (h : g.run (calls.map .ok) = .ok g') :
    g'.Bounded ∧ Adds g g' (calls.flatMap GraphCall.keys) (calls.flatMap GraphCall.arrows)
      (calls.flatMap GraphCall.seeds) ∧ ∀ call ∈ calls, ∀ k ∈ call.keys, k.identity ≠ [] := by
  obtain ⟨calls₁, heq, hb, ha, hne⟩ := run_spec hg h
  rw [← map_ok_injective heq] at ha hne
  exact ⟨hb, ha, hne⟩

/-- Calls that all succeed succeed in any other order and number. -/
lemma run_congr (hg : g.Bounded) (hn : g.nodes = []) (he : g.edges = [])
    (h : g.run (calls.map .ok) = .ok g') (hc : ∀ c ∈ calls', c ∈ calls) :
    ∃ g'', g.run (calls'.map .ok) = .ok g'' := by
  obtain ⟨hb, ha, hne⟩ := run_adds hg h
  have hnodes := hb.nodes_le
  have hedges := hb.edges_le
  rw [ha.maxNodes] at hnodes
  rw [ha.maxEdges] at hedges
  refine @run_ok calls' g g'.nodes g'.edges hg ?_ hnodes ?_ hedges ?_ ?_ ?_
  · simp [hn]
  · simp [he]
  · intro call hcall k hk
    exact (ha.mem_nodes k).mpr (.inr (List.mem_flatMap.mpr ⟨call, hc call hcall, hk⟩))
  · intro call hcall e hk
    exact (ha.mem_edges e).mpr (.inr (List.mem_flatMap.mpr ⟨call, hc call hcall, hk⟩))
  · exact fun call hcall => hne call (hc call hcall)

end

/-! ### What the survivors are told -/

section

variable {calls : List GraphCall} {maxNodes maxEdges : ℕ} {members : List DirectoryReference}

/-- An edge that the calls insert. -/
def Inserted (calls : List GraphCall) (a b : RetentionKey) : Prop :=
  (a, b) ∈ calls.flatMap GraphCall.arrows

lemma protect_of_failed {g : RetentionGraph} (h : g.failed = true) :
    g.protect members = .error (.valueError "retention graph is incomplete") := by
  rw [protect, reject_of h, error_bind]

/-- A reason travels as the nodes are linked. -/
lemma carries_iff {g : RetentionGraph} {a b : RetentionKey × ProtectionReason} :
    ReflTransGen g.Carries a b ↔
      a.2 = b.2 ∧ ReflTransGen (fun x y => (x, y) ∈ g.edges) a.1 b.1 := by
  constructor
  · intro h
    induction h with
    | refl => exact ⟨rfl, .refl⟩
    | tail _ hstep ih => exact ⟨ih.1.trans hstep.2, ih.2.tail hstep.1⟩
  · obtain ⟨x, r⟩ := a
    obtain ⟨y, r'⟩ := b
    rintro ⟨rfl, h⟩
    dsimp only at h
    induction h with
    | refl => exact .refl
    | tail _ hstep ih => exact ih.tail ⟨hstep, rfl⟩

section

variable {g' : RetentionGraph} {keys : List RetentionKey}
  {arrows : List (RetentionKey × RetentionKey)} {seeds : List (RetentionKey × ProtectionReason)}

lemma mem_roots_of_fresh (h : Adds (fresh maxNodes maxEdges) g' keys arrows seeds)
    (s : RetentionKey × ProtectionReason) : s ∈ g'.roots ↔ s ∈ seeds := by
  rw [h.mem_roots]
  simp [fresh]

lemma mem_edges_of_fresh (h : Adds (fresh maxNodes maxEdges) g' keys arrows seeds)
    (e : RetentionKey × RetentionKey) : e ∈ g'.edges ↔ e ∈ arrows := by
  rw [h.mem_edges]
  simp [fresh]

end

/-- `protect` raises exactly when some insertion did. Otherwise a node carries a reason exactly
when a root with that reason reaches it along the inserted edges, and no other order of the same
insertions and no repetition changes the answer. -/
theorem protect_attempts (maxNodes maxEdges : ℕ) (calls : List GraphCall)
    (members : List DirectoryReference) :
    ((∃ e, ((fresh maxNodes maxEdges).attempts calls).1.protect members = .error e) ↔
      ∃ e, some e ∈ ((fresh maxNodes maxEdges).attempts calls).2) ∧
    (∀ p, ((fresh maxNodes maxEdges).attempts calls).1.protect members = .ok p →
      ∀ key r, r ∈ p.reasons key ↔ ∃ k, (k, r) ∈ calls.flatMap GraphCall.seeds ∧
        ReflTransGen (Inserted calls) k key) ∧
    ∀ calls', (∀ c, c ∈ calls' ↔ c ∈ calls) →
      ((fresh maxNodes maxEdges).attempts calls').1.protect members =
        ((fresh maxNodes maxEdges).attempts calls).1.protect members := by
  have hfresh := bounded_fresh maxNodes maxEdges
  rcases @attempts_cases (fresh maxNodes maxEdges) calls with
    ⟨g', hrun, heq, hall⟩ | ⟨⟨e, hrun⟩, hraised, hfailed⟩
  · obtain ⟨hb, ha, -⟩ := run_adds hfresh hrun
    have hok := protect_eq hb members
    rw [heq]
    refine ⟨?_, fun p hp key r => ?_, fun calls' hc => ?_⟩
    · constructor
      · rintro ⟨e, he⟩
        rw [hok] at he
        cases he
      · rintro ⟨e, he⟩
        cases hall _ he
    · have hedges : (fun x y => (x, y) ∈ g'.edges) = Inserted calls := by
        funext x y
        exact propext (mem_edges_of_fresh ha _)
      rw [RetentionProtection.mem_reasons, mem_protect hp]
      simp only [mem_roots_of_fresh ha, carries_iff, hedges, Prod.exists]
      constructor
      · rintro ⟨k, r', hs, rfl, hreach⟩
        exact ⟨k, hs, hreach⟩
      · rintro ⟨k, hs, hreach⟩
        exact ⟨k, r, hs, rfl, hreach⟩
    · obtain ⟨g'', hrun'⟩ := run_congr hfresh rfl rfl hrun fun c hcm => (hc c).mp hcm
      obtain ⟨hb', ha', -⟩ := run_adds hfresh hrun'
      have hattempts : ((fresh maxNodes maxEdges).attempts calls').1 = g'' := by
        rcases @attempts_cases (fresh maxNodes maxEdges) calls' with ⟨g₁, h₁, heq₁, -⟩ | ⟨⟨e, he⟩, -⟩
        · rw [heq₁]
          exact Except.ok.inj (h₁.symm.trans hrun')
        · rw [hrun'] at he
          cases he
      rw [hattempts, hok]
      refine protect_eq_of_detached hok hb' (fun s => ?_) (fun e he => ?_) fun e he => .inl ?_
      · rw [mem_roots_of_fresh ha, mem_roots_of_fresh ha', List.mem_flatMap, List.mem_flatMap]
        simp only [hc]
      · rw [mem_edges_of_fresh ha', List.mem_flatMap] at he
        rw [mem_edges_of_fresh ha, List.mem_flatMap]
        simpa only [hc] using he
      · rw [mem_edges_of_fresh ha, List.mem_flatMap] at he
        rw [mem_edges_of_fresh ha', List.mem_flatMap]
        simpa only [hc] using he
  · rw [protect_of_failed hfailed]
    refine ⟨⟨fun _ => hraised, fun _ => ⟨_, rfl⟩⟩, fun p hp => ?_, fun calls' hc => ?_⟩
    · cases hp
    · rcases @attempts_cases (fresh maxNodes maxEdges) calls' with ⟨g', hrun', -⟩ | ⟨-, -, hfailed'⟩
      · obtain ⟨g'', hrun''⟩ := run_congr hfresh rfl rfl hrun' fun c hcm => (hc c).mpr hcm
        rw [hrun] at hrun''
        cases hrun''
      · exact protect_of_failed hfailed'

end

end RetentionGraph

end AgentRemote
