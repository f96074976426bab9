import AgentRemote.Retention.Update

/-!
# A ready preview can be applied

Retiring exactly the identities of a ready plan passes every check, retires the entries
marked as retained, expires the announced branches and leaves the protection closure as it
was: nothing a root reaches goes through a retired record.
-/

namespace AgentRemote
open Library

variable {readers : PlanReaders} {index : RetentionIndex} {policy : SkillStoragePolicy} {now : ℤ}
  {accountId : Text} {requested : List RetentionKey} {allUnreferenced : Bool}
  {plan : HistoryRetirementPlan} {p : RetentionProtection} {histories : List HistoryRetention}
  {selected : List RetentionKey}

/-! ### The two row updates -/

def retireUpdate (selected : List RetentionKey) (now : ℤ) : RowUpdate where
  checkpoint row := row.retire selected
  snapshot row := row.retire selected now
  finalization row := row.retire selected now
  publication row := row.retire selected now
  migration row := row.retire selected now
  branch row := row.expire selected
  choice row := row.retire selected now
  custom row := row.retire selected now

def stampUpdate (clock : RetentionKey → Option ℤ → Option ℤ) : RowUpdate where
  revision row := { row with retentionReleasedAt := clock ⟨.revision, row.id⟩ row.retentionReleasedAt }
  localRevision row :=
    { row with retentionReleasedAt := clock ⟨.localRevision, row.id⟩ row.retentionReleasedAt }
  checkpoint row :=
    { row with retentionReleasedAt := clock ⟨.checkpoint, row.id⟩ row.retentionReleasedAt }
  snapshot row := { row with retentionReleasedAt := clock ⟨.snapshot, row.id⟩ row.retentionReleasedAt }
  finalization row :=
    { row with retentionReleasedAt := clock ⟨.finalization, row.id⟩ row.retentionReleasedAt }
  publication row :=
    { row with retentionReleasedAt := clock ⟨.publication, row.id⟩ row.retentionReleasedAt }
  migration row :=
    { row with retentionReleasedAt := clock ⟨.migration, row.id⟩ row.retentionReleasedAt }
  tree row :=
    { row with
      retentionReleasedAt := clock (treeKey row.category row.digest) row.retentionReleasedAt }

lemma retiredTables_eq (t : RetentionTables) :
    retiredTables selected now t = (retireUpdate selected now).apply t := by
  simp [retiredTables, RowUpdate.apply, retireUpdate]

lemma stampClocks_eq (clock : RetentionKey → Option ℤ → Option ℤ) (t : RetentionTables) :
    stampClocks clock t = (stampUpdate clock).apply t := by
  simp [stampClocks, RowUpdate.apply, stampUpdate]

lemma stampUpdate_harmless (clock : RetentionKey → Option ℤ → Option ℤ) (lost : RetentionKey → Prop)
    (t : RetentionTables) : (stampUpdate clock).Harmless lost t where
  revision _ := ⟨_, rfl⟩
  localRevision _ := ⟨_, rfl⟩
  checkpoint _ := ⟨_, _, _, rfl, .inl ⟨rfl, rfl⟩⟩
  snapshot _ := ⟨_, _, rfl, .inl rfl⟩
  finalization _ := ⟨_, _, rfl, .inl rfl⟩
  publication _ := ⟨_, _, rfl, .inl rfl⟩
  migration _ := ⟨_, _, rfl, .inl rfl⟩
  branch _ := ⟨_, rfl⟩
  branch_lost _ _ := .inl rfl
  choice _ := ⟨_, rfl, .inl rfl⟩
  custom _ := ⟨_, rfl, .inl rfl⟩

/-- A branch whose head is unprotected is unprotected, unless it has expired. -/
lemma branch_unprotected {t : RetentionTables} (hp : protection readers t now none = .ok p)
    {row : AccountSkillState} (hrow : row ∈ t.branches) (hexp : row.expired = false) {head : Text}
    (hhead : row.headCheckpointId = some head) (hlost : p.reasons ⟨.checkpoint, head⟩ = ∅) :
    p.reasons ⟨.branch, row.id⟩ = ∅ := by
  have hmem : edge .branch row.id .checkpoint (some head) ∈ graphActions readers t now none := by
    have hedge : edge .branch row.id .checkpoint (some head) ∈ branchActions t [] row := by
      simp [branchActions, headEdge, hexp, hhead, override, indexed]
    simp only [graphActions, branches, List.mem_append, List.mem_flatMap]
    exact .inl (.inl (.inl (.inl (.inl (.inr ⟨row, hrow, hedge⟩)))))
  have hsub := reasons_subset_of_edge hp hmem
  rw [hlost] at hsub
  exact Finset.subset_empty.mp hsub

/-- Retiring unprotected history is harmless. -/
lemma retireUpdate_harmless {t : RetentionTables} (hp : protection readers t now none = .ok p)
    (hs : ∀ key ∈ selected, p.reasons key = ∅) :
    (retireUpdate selected now).Harmless (fun key => p.reasons key = ∅) t where
  revision _ := ⟨_, rfl⟩
  localRevision _ := ⟨_, rfl⟩
  checkpoint row := by
    simp only [retireUpdate, SkillCheckpoint.retire]
    split_ifs with h
    · exact ⟨_, _, _, rfl, .inr ⟨hs _ h, rfl, rfl⟩⟩
    · exact ⟨_, _, _, rfl, .inl ⟨rfl, rfl⟩⟩
  snapshot row := by
    simp only [retireUpdate, SessionSkillSnapshot.retire]
    split_ifs with h
    · exact ⟨_, _, rfl, .inr ⟨hs _ h, rfl⟩⟩
    · exact ⟨_, _, rfl, .inl rfl⟩
  finalization row := by
    simp only [retireUpdate, SkillFinalization.retire]
    split_ifs with h
    · exact ⟨_, _, rfl, .inr ⟨hs _ h, rfl⟩⟩
    · exact ⟨_, _, rfl, .inl rfl⟩
  publication row := by
    simp only [retireUpdate, SkillPublication.retire]
    split_ifs with h
    · exact ⟨_, _, rfl, .inr ⟨hs _ h, rfl⟩⟩
    · exact ⟨_, _, rfl, .inl rfl⟩
  migration row := by
    simp only [retireUpdate, SkillBranchPreparation.retire]
    split_ifs with h
    · exact ⟨_, _, rfl, .inr ⟨hs _ h, rfl⟩⟩
    · exact ⟨_, _, rfl, .inl rfl⟩
  branch row := by
    simp only [retireUpdate, AccountSkillState.expire]
    split_ifs
    · exact ⟨_, rfl⟩
    · exact ⟨_, rfl⟩
  branch_lost row hrow := by
    simp only [retireUpdate, AccountSkillState.expire]
    split_ifs with h
    · cases hexp : row.expired with
      | true => exact .inl rfl
      | false =>
        cases hhead : row.headCheckpointId with
        | none => simp [hhead] at h
        | some head =>
          have hmem : ⟨.checkpoint, head⟩ ∈ selected := by simpa [hhead] using h
          exact .inr ⟨branch_unprotected hp hrow hexp hhead (hs _ hmem), rfl⟩
    · exact .inl rfl
  choice row := by
    simp only [retireUpdate, ResolutionChoiceRecord.retire]
    split_ifs with h
    · exact ⟨_, rfl, .inr ⟨hs _ h, rfl⟩⟩
    · exact ⟨_, rfl, .inl rfl⟩
  custom row := by
    simp only [retireUpdate, MigrationResolutionContent.retire]
    split_ifs with h
    · exact ⟨_, rfl, .inr ⟨hs _ h, rfl⟩⟩
    · exact ⟨_, rfl, .inl rfl⟩

/-! ### What the preview checked -/

/-- The parts of a plan that was built from an index. -/
structure Previewed (readers : PlanReaders) (index : RetentionIndex) (policy : SkillStoragePolicy)
    (now : ℤ) (accountId : Text) (requested : List RetentionKey) (allUnreferenced : Bool)
    (plan : HistoryRetirementPlan) (p : RetentionProtection) (histories : List HistoryRetention)
    (active : List Text) (dependencies : List HistoryDependency) (closure : HistoryClosure) :
    Prop where
  protection_eq : protection readers index.toRetentionTables now none = .ok p
  histories_eq : historyRetention index.toRetentionTables p policy = .ok histories
  active_eq : activeMigrationIds index.toRetentionTables
    (index.migrations.map (·.id)) now = .ok active
  selection : checkSelection requested = .ok ()
  requested_eq : ∀ key ∈ requested, checkRequested index.toRetentionTables accountId key = .ok ()
  dependencies_eq : historyDependencies index.toRetentionTables none = .ok dependencies
  closure_eq : dependentClosure requested dependencies (retainedKeys index.toRetentionTables)
    maxRetirementIdentities maxHistoryEdges = .ok closure
  entries_eq : closure.required.mapM (retirementEntry index.toRetentionTables accountId histories
    active now allUnreferenced none) = .ok plan.entries
  expiring_eq : plan.expiringBranches = expiringBranches index.toRetentionTables none
    (closure.required.filter (· ∈ retainedKeys index.toRetentionTables))

lemma previewed (h : preview readers index policy now accountId requested allUnreferenced =
      .ok plan) :
    ∃ p histories active dependencies closure, Previewed readers index policy now accountId
      requested allUnreferenced plan p histories active dependencies closure := by
  simp only [preview, bind_eq_ok] at h
  obtain ⟨active, hactive, p, hp, histories, hh, h⟩ := h
  simp only [retirementPlan, bind_eq_ok, mapError_eq_ok] at h
  obtain ⟨_, hsel, _, hreq, deps, hdeps, closure, hc, entries, he, h⟩ := h
  have hvirtual : retainedKeys index.toRetentionTables ++ virtualKeys none =
      retainedKeys index.toRetentionTables := List.append_nil _
  rw [hvirtual] at hc h
  obtain rfl := Except.ok.inj h
  exact ⟨p, histories, active, deps, closure, hp, hh, hactive, hsel, forM_eq_ok.mp hreq, hdeps, hc,
    he, rfl⟩

/-- A record that nothing keeps from being retired. -/
structure Clear (histories : List HistoryRetention) (active : List Text) (now : ℤ)
    (accountId : Text) (allUnreferenced : Bool) (record : HistoryRecord) : Prop where
  state : record.stateHistory = true
  account : record.accountId = some accountId
  waited : ∃ view, indexed (·.key) histories record.key = some view ∧ view.reasons = ∅ ∧
    (allUnreferenced = true ∨ ∃ expires, view.expiresAt = some expires ∧ expires ≤ now)
  upload : record.kind = .migration → record.id ∉ active

section

variable {active : List Text} {dependencies : List HistoryDependency} {closure : HistoryClosure}

lemma blockers_eq_nil {record : HistoryRecord} {view : HistoryRetention}
    (hview : indexed (·.key) histories record.key = some view)
    (h : retirementBlockers accountId active now allUnreferenced record view = []) :
    Clear histories active now accountId allUnreferenced record := by
  simp only [retirementBlockers, List.append_eq_nil_iff] at h
  obtain ⟨⟨⟨hscope, hprot⟩, hup⟩, hwait⟩ := h
  split_ifs at hscope with hstate hacc
  split_ifs at hprot with hreasons
  split_ifs at hup with hactive
  refine ⟨by simpa using hstate, not_not.mp hacc, ⟨view, hview, not_not.mp hreasons, ?_⟩, ?_⟩
  · split_ifs at hwait with hall
    · exact .inl hall
    · right
      cases hrel : view.releasedAt with
      | none => simp [hrel] at hwait
      | some released =>
        cases hexp : view.expiresAt with
        | none => simp [hrel, hexp] at hwait
        | some expires =>
          refine ⟨expires, rfl, ?_⟩
          by_contra hlt
          simp [hrel, hexp, not_le.mp hlt] at hwait
  · exact fun hkind hid => hactive ⟨hkind, hid⟩

/-- The entry of a closure member shows its record, clear when it is retained. -/
lemma entry_spec {key : RetentionKey} {entry : RetirementEntry}
    (h : retirementEntry index.toRetentionTables accountId histories active now allUnreferenced none
      key = .ok entry) (hready : entry.blockers = []) :
    ∃ record, recordAt index.toRetentionTables key = some record ∧ entry.key = key ∧
      entry.retained = record.retained ∧
      (record.retained = true → Clear histories active now accountId allUnreferenced record) := by
  have hvirtual : key ∉ virtualKeys none := List.not_mem_nil
  simp only [retirementEntry, hvirtual, if_false] at h
  cases hrec : recordAt index.toRetentionTables key with
  | none => simp [hrec] at h
  | some record =>
    cases hview : indexed (·.key) histories key with
    | none => simp [hrec, hview] at h
    | some view =>
      simp only [hrec, hview, Except.ok.injEq] at h
      subst h
      refine ⟨record, rfl, rfl, rfl, fun hr => ?_⟩
      have hkey := ((recordAt_eq_some index).mp hrec).2
      simp only [hr, if_true] at hready
      exact blockers_eq_nil (by rw [hkey, hview]) hready

lemma mem_retainedKeys_iff {key : RetentionKey} {record : HistoryRecord}
    (h : recordAt index.toRetentionTables key = some record) :
    key ∈ retainedKeys index.toRetentionTables ↔ record.retained = true := by
  rw [mem_retainedKeys]
  constructor
  · rintro ⟨record', hmem, hr, hkey⟩
    have h' := (recordAt_eq_some index).mpr ⟨hmem, hkey⟩
    obtain rfl := Option.some.inj (h.symm.trans h')
    exact hr
  · intro hr
    obtain ⟨hmem, hkey⟩ := (recordAt_eq_some index).mp h
    exact ⟨record, hmem, hr, hkey⟩

namespace Previewed

variable (hv : Previewed readers index policy now accountId requested allUnreferenced plan p
  histories active dependencies closure) (hready : plan.ready = true)

include hv

lemma selection_nonempty : requested ≠ [] := by
  have h := hv.selection
  simp only [checkSelection, reject_eq_ok, not_or] at h
  exact h.1

include hready

/-- The entries show the members of the closure one by one, clear where they are retained. -/
lemma entries_forall₂ : List.Forall₂ (fun key entry => entry.key = key ∧
      ∃ record, recordAt index.toRetentionTables key = some record ∧
        entry.retained = record.retained ∧
        (record.retained = true → Clear histories active now accountId allUnreferenced record))
    closure.required plan.entries := by
  have hall := List.all_eq_true.mp hready
  have h := mapM_eq_ok hv.entries_eq
  generalize closure.required = keys, plan.entries = entries at hall h ⊢
  induction h with
  | nil => exact .nil
  | @cons key entry keys entries he _ ih =>
    have hnil : entry.blockers = [] := by simpa using hall entry List.mem_cons_self
    obtain ⟨record, hrec, hkey, hret, hclear⟩ := entry_spec he hnil
    exact .cons ⟨hkey, record, hrec, hret, hclear⟩
      (ih fun e he => hall e (List.mem_cons_of_mem _ he))

/-- Every member of the closure has a record, which is clear when it is retained. -/
lemma record {key : RetentionKey} (hkey : key ∈ closure.required) :
    ∃ record, recordAt index.toRetentionTables key = some record ∧
      (record.retained = true → Clear histories active now accountId allUnreferenced record) := by
  have h := hv.entries_forall₂ hready
  generalize closure.required = keys, plan.entries = entries at hkey h
  induction h with
  | nil => simp at hkey
  | cons he _ ih =>
    rcases List.mem_cons.mp hkey with rfl | hkey
    · obtain ⟨-, record, hrec, -, hclear⟩ := he
      exact ⟨record, hrec, hclear⟩
    · exact ih hkey

lemma map_key_entries : plan.entries.map (·.key) = closure.required := by
  have h := hv.entries_forall₂ hready
  generalize closure.required = keys, plan.entries = entries at h ⊢
  induction h with
  | nil => rfl
  | cons he _ ih => rw [List.map_cons, he.1, ih]

lemma map_key_retained : (plan.entries.filter (·.retained)).map (·.key) =
    closure.required.filter (· ∈ retainedKeys index.toRetentionTables) := by
  have h := hv.entries_forall₂ hready
  generalize closure.required = keys, plan.entries = entries at h ⊢
  induction h with
  | nil => rfl
  | @cons key entry keys entries he _ ih =>
    obtain ⟨hkey, record, hrec, hret, -⟩ := he
    have hiff := mem_retainedKeys_iff hrec
    cases hr : record.retained with
    | true =>
      have hmem : key ∈ retainedKeys index.toRetentionTables := hiff.mpr hr
      simp only [List.filter_cons, hret, hr, hmem, decide_true, if_true, List.map_cons, hkey, ih]
    | false =>
      have hmem : key ∉ retainedKeys index.toRetentionTables := fun h => by
        rw [hiff, hr] at h
        exact Bool.false_ne_true h
      simp only [List.filter_cons, hret, hr, hmem, decide_false, Bool.false_eq_true, if_false, ih]

/-- What is retained of the closure: the identities to retire. -/
lemma reasons_eq_empty {key : RetentionKey}
    (hkey : key ∈ closure.required.filter (· ∈ retainedKeys index.toRetentionTables)) :
    p.reasons key = ∅ := by
  obtain ⟨hreq, hret⟩ := List.mem_filter.mp hkey
  obtain ⟨record, hrec, hclear⟩ := hv.record hready hreq
  have hr := (mem_retainedKeys_iff hrec).mp (of_decide_eq_true hret)
  obtain ⟨view, hview, hreasons, -⟩ := (hclear hr).waited
  rw [((recordAt_eq_some index).mp hrec).2] at hview
  rw [← (historyRetention_view hv.histories_eq).2 view hview, hreasons]

omit hready in
/-- Only the request itself can name history that is already retired. -/
lemma requested_of_not_retained {key : RetentionKey} (hkey : key ∈ closure.required)
    (hret : key ∉ retainedKeys index.toRetentionTables) : key ∈ requested := by
  rcases (mem_required hv.closure_eq key).mp hkey with h | ⟨r, hr, -, hchain⟩
  · exact h
  · cases hchain with
    | refl => exact hr
    | tail _ hstep =>
      obtain ⟨-, -, -, -, hmem⟩ := hstep
      exact absurd hmem hret

/-- Every eligibility test of retirement passes on the closure. -/
lemma retirable_eq {key : RetentionKey} (hkey : key ∈ closure.required) :
    retirable index.toRetentionTables histories accountId now allUnreferenced key =
      .ok ((recordAt index.toRetentionTables key).filter (·.retained)) := by
  obtain ⟨record, hrec, hclear⟩ := hv.record hready hkey
  have hiff := mem_retainedKeys_iff hrec
  have hmem := (recordAt_eq_some index).mp hrec
  have hscope : record.stateHistory = true ∧ record.accountId = some accountId := by
    cases hr : record.retained with
    | true => exact ⟨(hclear hr).state, (hclear hr).account⟩
    | false =>
      have hno : key ∉ retainedKeys index.toRetentionTables := by
        rw [hiff, hr]
        exact Bool.false_ne_true
      have hcheck := hv.requested_eq key (hv.requested_of_not_retained hkey hno)
      simp only [checkRequested, hrec, reject_eq_ok, not_not] at hcheck
      exact hcheck
  unfold retirable
  simp only [hrec, hscope.1, hscope.2, Bool.not_true, Bool.false_eq_true, ne_eq, not_true_eq_false,
    or_self, if_false]
  cases hr : record.retained with
  | false => simp [Option.filter_some, hr]
  | true =>
    obtain ⟨view, hview, hreasons, hwait⟩ := (hclear hr).waited
    rw [hmem.2] at hview
    have hexp : ¬((!allUnreferenced) = true ∧ view.expiresAt.all (now < ·) = true) := by
      rcases hwait with hall | ⟨expires, hexp, hle⟩
      · simp [hall]
      · simp [hexp, hle]
    simp only [Bool.not_true, Bool.false_eq_true, if_false, hview, hreasons, not_true_eq_false, hexp]
    simp [Option.filter_some, hr]

lemma selected_eq : ((closure.required.map fun key =>
      (recordAt index.toRetentionTables key).filter (·.retained)).filterMap id).map (·.key) =
    closure.required.filter (· ∈ retainedKeys index.toRetentionTables) := by
  have h : ∀ keys : List RetentionKey, (∀ key ∈ keys, key ∈ closure.required) →
      ((keys.map fun key => (recordAt index.toRetentionTables key).filter (·.retained)).filterMap
        id).map (·.key) = keys.filter (· ∈ retainedKeys index.toRetentionTables) := by
    intro keys
    induction keys with
    | nil => exact fun _ => rfl
    | cons key keys ih =>
      intro hall
      obtain ⟨record, hrec, -⟩ := hv.record hready (hall key List.mem_cons_self)
      have hiff := mem_retainedKeys_iff hrec
      have hkey := ((recordAt_eq_some index).mp hrec).2
      have hrest := ih fun k hk => hall k (List.mem_cons_of_mem _ hk)
      cases hr : record.retained with
      | true =>
        have hmem : key ∈ retainedKeys index.toRetentionTables := hiff.mpr hr
        simpa [hrec, hr, hmem, hkey, Option.filter_some] using hrest
      | false =>
        have hmem : key ∉ retainedKeys index.toRetentionTables := fun h => by
          rw [hiff, hr] at h
          exact Bool.false_ne_true h
        simpa [hrec, hr, hmem, Option.filter_some] using hrest
  exact h closure.required fun _ hkey => hkey

omit hready in
/-- No retained consumer of the identities to retire is left out. -/
lemma dependencies_ok : requireHistoryDependencies dependencies
    (closure.required.filter (· ∈ retainedKeys index.toRetentionTables)) = .ok () := by
  have hnone : dependencies.find? (fun edge =>
      edge.dependency ∈ closure.required.filter (· ∈ retainedKeys index.toRetentionTables) ∧
        edge.consumer ∉ closure.required.filter (· ∈ retainedKeys index.toRetentionTables)) =
      none := by
    rw [List.find?_eq_none]
    intro edge hedge
    rw [decide_eq_true_eq]
    rintro ⟨hdep, hcons⟩
    obtain ⟨hreq, hret⟩ := List.mem_filter.mp hdep
    have hconsumer := consumer_retained hv.dependencies_eq hedge
    apply hcons
    refine List.mem_filter.mpr ⟨?_, decide_eq_true hconsumer⟩
    rw [mem_required hv.closure_eq] at hreq ⊢
    exact hreq.consumer (of_decide_eq_true hret) ⟨edge, hedge, rfl, rfl, hconsumer⟩
  unfold requireHistoryDependencies
  rw [hnone]

omit hready in
lemma nodup_required : closure.required.Nodup := by
  have h := hv.closure_eq
  rw [dependentClosure_eq] at h
  dsimp only at h
  split_ifs at h
  obtain rfl := Except.ok.inj h
  exact nodup_sortedSet _

/-- A migration to retire has its row, and no input upload of it is open. -/
lemma migration_row {key : RetentionKey} (hkind : key.kind = .migration)
    (hkey : key ∈ closure.required.filter (· ∈ retainedKeys index.toRetentionTables)) :
    key.identity ∈ index.migrations.map (·.id) ∧ key.identity ∉ active := by
  obtain ⟨hreq, hret⟩ := List.mem_filter.mp hkey
  obtain ⟨record, hrec, hclear⟩ := hv.record hready hreq
  have hr := (mem_retainedKeys_iff hrec).mp (of_decide_eq_true hret)
  obtain ⟨hmem, hk⟩ := (recordAt_eq_some index).mp hrec
  have hrk : record.kind = .migration := by rw [← hkind, ← hk]; rfl
  have hid : key.identity = record.id := by rw [← hk]; rfl
  refine ⟨?_, hid ▸ (hclear hr).upload hrk⟩
  rw [hid]
  cases record with
  | migration row =>
    apply List.mem_map_of_mem
    simpa [historyRecords] using hmem
  | _ => simp [HistoryRecord.kind] at hrk

/-- No input upload of the migrations to retire is open. -/
lemma uploads_ok : activeMigrationIds index.toRetentionTables
    (((closure.required.filter (· ∈ retainedKeys index.toRetentionTables)).filter
      (·.kind = .migration)).map (·.identity)) now = .ok [] := by
  set ids := ((closure.required.filter (· ∈ retainedKeys index.toRetentionTables)).filter
    (·.kind = .migration)).map (·.identity) with hids
  have hrow : ∀ id ∈ ids, id ∈ index.migrations.map (·.id) ∧ id ∉ active := by
    intro id hid
    obtain ⟨key, hkey, rfl⟩ := List.mem_map.mp hid
    obtain ⟨hkey, hkind⟩ := List.mem_filter.mp hkey
    exact hv.migration_row hready (of_decide_eq_true hkind) hkey
  have hnodup : ids.Nodup := by
    apply List.Nodup.map_on
    · intro a ha b hb hab
      have hka := of_decide_eq_true (List.mem_filter.mp ha).2
      have hkb := of_decide_eq_true (List.mem_filter.mp hb).2
      exact RetentionKey.ext (hka.trans hkb.symm) hab
    · exact (hv.nodup_required.filter _).filter _
  have hactive := hv.active_eq
  simp only [activeMigrationIds, reject_bind_eq_ok, not_lt] at hactive ⊢
  obtain ⟨hle, hactive⟩ := hactive
  obtain rfl := Except.ok.inj hactive
  refine ⟨?_, ?_⟩
  · have hlen := (List.subperm_of_subset hnodup fun id hid => (hrow id hid).1).length_le
    exact hlen.trans hle
  · -- an open upload of a chosen migration would have been listed in the preview
    have hnil : index.migrationUploads.filter (fun row => row.migrationId ∈ ids ∧
        row.uploadId ∈ (activeUploads index.toRetentionTables now).map (·.id)) = [] := by
      rw [List.filter_eq_nil_iff]
      intro row hmem h
      obtain ⟨hid, hup⟩ := of_decide_eq_true h
      obtain ⟨hmig, hno⟩ := hrow _ hid
      apply hno
      exact List.mem_dedup.mpr (List.mem_map_of_mem (List.mem_filter.mpr
        ⟨hmem, decide_eq_true ⟨hmig, hup⟩⟩))
    rw [hnil]
    rfl

lemma keys_ok : checkSelection (plan.entries.map (·.key)) = .ok () := by
  rw [hv.map_key_entries hready]
  have hlen := hv.closure_eq
  rw [dependentClosure_eq] at hlen
  dsimp only at hlen
  split_ifs at hlen with hedges hids
  obtain rfl := Except.ok.inj hlen
  simp only [checkSelection, reject_eq_ok, not_or, not_not, not_lt]
  refine ⟨?_, ?_, nodup_sortedSet _⟩
  · intro hnil
    obtain ⟨key, hkey⟩ := List.exists_mem_of_ne_nil _ hv.selection_nonempty
    have := (mem_required hv.closure_eq key).mpr (.inl hkey)
    simp [hnil] at this
  · exact (length_sortedSet_le _).trans (not_lt.mp hids)

lemma constraints_retired : Constraints (retiredTables
    (closure.required.filter (· ∈ retainedKeys index.toRetentionTables)) now
    index.toRetentionTables) := by
  rw [retiredTables_eq]
  apply RowUpdate.constraints_apply hv.protection_eq _ index.constraints
  exact retireUpdate_harmless hv.protection_eq fun key hkey => hv.reasons_eq_empty hready hkey

/-- Inside its savepoint retirement passes every check and writes the retired rows. -/
lemma retireSelected_eq : retireSelected readers policy now accountId (plan.entries.map (·.key))
    allUnreferenced index =
      .ok (closure.required.filter (· ∈ retainedKeys index.toRetentionTables),
        ⟨_, hv.constraints_retired hready⟩) := by
  have hrecords := mapM_ok_of_forall (fun key (hkey : key ∈ closure.required) =>
    hv.retirable_eq hready hkey)
  have hsorted : sortedSet (closure.required.filter (· ∈ retainedKeys index.toRetentionTables)) =
      closure.required.filter (· ∈ retainedKeys index.toRetentionTables) := by
    have hclosure := hv.closure_eq
    rw [dependentClosure_eq] at hclosure
    dsimp only at hclosure
    split_ifs at hclosure
    obtain rfl := Except.ok.inj hclosure
    exact sortedSet_eq_self (hv.nodup_required.filter _) ((pairwise_sortedSet _).filter _)
  unfold retireSelected
  simp only [hv.protection_eq, hv.histories_eq, hv.map_key_entries hready, hrecords, ok_bind,
    hv.selected_eq hready, hv.dependencies_eq, hv.dependencies_ok, hv.uploads_ok hready,
    flush_ok (hv.constraints_retired hready), hsorted]
  rfl

end Previewed

end

/-! ### What retirement changes -/

/-- Branches that `after` shows as expired and `before` did not. -/
def newlyExpired (before after : RetentionTables) : List AccountSkillState :=
  before.branches.filter fun row =>
    !row.expired && (indexed (·.id) after.branches row.id).any (·.expired)

/-- The record as retiring and stamping leave it. -/
def HistoryRecord.settle (clock : RetentionKey → Option ℤ → Option ℤ) (selected : List RetentionKey)
    (now : ℤ) : HistoryRecord → HistoryRecord
  | revision row => revision ((stampUpdate clock).revision row)
  | localRevision row => localRevision ((stampUpdate clock).localRevision row)
  | checkpoint row => checkpoint ((stampUpdate clock).checkpoint (row.retire selected))
  | snapshot row => snapshot ((stampUpdate clock).snapshot (row.retire selected now))
  | finalization row => finalization ((stampUpdate clock).finalization (row.retire selected now))
  | publication row => publication ((stampUpdate clock).publication (row.retire selected now))
  | migration row => migration ((stampUpdate clock).migration (row.retire selected now))

lemma historyRecords_settle (clock : RetentionKey → Option ℤ → Option ℤ) (t : RetentionTables) :
    historyRecords (stampClocks clock (retiredTables selected now t)) =
      (historyRecords t).map (HistoryRecord.settle clock selected now) := by
  simp [historyRecords, stampClocks, retiredTables, Function.comp_def, HistoryRecord.settle,
    stampUpdate]

lemma HistoryRecord.settle_key (clock : RetentionKey → Option ℤ → Option ℤ)
    (record : HistoryRecord) : (record.settle clock selected now).key = record.key := by
  cases record with
  | revision row => rfl
  | localRevision row => rfl
  | checkpoint row =>
    simp only [settle, stampUpdate, SkillCheckpoint.retire]
    split_ifs <;> rfl
  | snapshot row =>
    simp only [settle, stampUpdate, SessionSkillSnapshot.retire]
    split_ifs <;> rfl
  | finalization row =>
    simp only [settle, stampUpdate, SkillFinalization.retire]
    split_ifs <;> rfl
  | publication row =>
    simp only [settle, stampUpdate, SkillPublication.retire]
    split_ifs <;> rfl
  | migration row =>
    simp only [settle, stampUpdate, SkillBranchPreparation.retire]
    split_ifs <;> rfl

/-- Exactly the selected state history loses its content. -/
lemma HistoryRecord.settle_retained (clock : RetentionKey → Option ℤ → Option ℤ)
    {record : HistoryRecord} (hstate : record.key ∈ selected → record.stateHistory = true) :
    (record.settle clock selected now).retained = true ↔
      record.retained = true ∧ record.key ∉ selected := by
  cases record with
  | revision row =>
    have hno : (HistoryRecord.revision row).key ∉ selected := fun h => Bool.false_ne_true (hstate h)
    simp [settle, stampUpdate, retained, hno]
  | localRevision row =>
    have hno : (HistoryRecord.localRevision row).key ∉ selected := fun h => Bool.false_ne_true (hstate h)
    simp [settle, stampUpdate, retained, hno]
  | checkpoint row =>
    simp only [settle, stampUpdate, SkillCheckpoint.retire, retained, key, kind, id]
    split_ifs with h <;> simp [h]
  | snapshot row =>
    simp only [settle, stampUpdate, SessionSkillSnapshot.retire, retained, key, kind, id]
    split_ifs with h <;> simp [h]
  | finalization row =>
    simp only [settle, stampUpdate, SkillFinalization.retire, retained, key, kind, id]
    split_ifs with h <;> simp [h]
  | publication row =>
    simp only [settle, stampUpdate, SkillPublication.retire, retained, key, kind, id]
    split_ifs with h <;> simp [h]
  | migration row =>
    simp only [settle, stampUpdate, SkillBranchPreparation.retire, retained, key, kind, id]
    split_ifs with h <;> simp [h]

lemma mem_retainedKeys_settle {clock : RetentionKey → Option ℤ → Option ℤ}
    (hstate : ∀ record ∈ historyRecords index.toRetentionTables, record.key ∈ selected →
      record.stateHistory = true) {key : RetentionKey} :
    key ∈ retainedKeys (stampClocks clock (retiredTables selected now index.toRetentionTables)) ↔
      key ∈ retainedKeys index.toRetentionTables ∧ key ∉ selected := by
  rw [mem_retainedKeys, mem_retainedKeys, historyRecords_settle]
  constructor
  · rintro ⟨_, hmem, hr, rfl⟩
    obtain ⟨record, hrec, rfl⟩ := List.mem_map.mp hmem
    rw [record.settle_key]
    obtain ⟨hr, hno⟩ := (HistoryRecord.settle_retained clock (hstate record hrec)).mp hr
    exact ⟨⟨record, hrec, hr, rfl⟩, hno⟩
  · rintro ⟨⟨record, hrec, hr, rfl⟩, hno⟩
    refine ⟨_, List.mem_map_of_mem hrec, ?_, record.settle_key clock⟩
    exact (HistoryRecord.settle_retained clock (hstate record hrec)).mpr ⟨hr, hno⟩

/-- The branches that expire are those whose head is selected. -/
lemma newlyExpired_eq (clock : RetentionKey → Option ℤ → Option ℤ) :
    newlyExpired index.toRetentionTables
        (stampClocks clock (retiredTables selected now index.toRetentionTables)) =
      index.branches.filter fun row =>
        !row.expired && row.headCheckpointId.any (⟨.checkpoint, ·⟩ ∈ selected) := by
  apply List.filter_congr
  intro row hrow
  have hafter : (stampClocks clock (retiredTables selected now index.toRetentionTables)).branches =
      index.branches.map (·.expire selected) := rfl
  have hkey : ∀ row : AccountSkillState, (row.expire selected).id = row.id := by
    intro row
    unfold AccountSkillState.expire
    split_ifs <;> rfl
  rw [hafter, indexed_map _ hkey, indexed_of_mem index.constraints.branch_ids hrow]
  cases hexp : row.expired with
  | true => rfl
  | false =>
    simp only [Option.map_some, Option.any_some, AccountSkillState.expire]
    split_ifs with h <;> simp [h, hexp]

lemma expiringBranches_perm : List.Perm
    ((expiringBranches index.toRetentionTables none selected).map fun b => (b.1, some b.2.1, b.2.2))
    ((index.branches.filter fun row =>
      !row.expired && row.headCheckpointId.any (⟨.checkpoint, ·⟩ ∈ selected)).map
        fun row => (row.id, row.headCheckpointId, row.epoch)) := by
  have hperm := (List.perm_insertionSort ExpiryLe
    ((index.branches.filter fun row => !row.expired && true).filterMap fun row =>
      row.headCheckpointId.bind fun head =>
        if ⟨.checkpoint, head⟩ ∈ selected then some (row.id, head, row.epoch) else none)).map
    fun b => (b.1, some b.2.1, b.2.2)
  refine hperm.trans (List.Perm.of_eq ?_)
  induction index.branches with
  | nil => rfl
  | cons row rows ih =>
    simp only [Bool.and_true] at ih ⊢
    cases hexp : row.expired with
    | true => simpa [hexp] using ih
    | false =>
      cases hhead : row.headCheckpointId with
      | none => simpa [hexp, hhead] using ih
      | some head =>
        by_cases hmem : ⟨.checkpoint, head⟩ ∈ selected
        · simpa [hexp, hhead, hmem] using ih
        · simpa [hexp, hhead, hmem] using ih

/-! ### The agreement -/

/-- Retirement did what the plan says: it retired the entries marked as retained and no other
history, expired the announced branches, and left the closure of protections unchanged. -/
structure Agrees (readers : PlanReaders) (now : ℤ) (plan : HistoryRetirementPlan)
    (before after : RetentionTables) (retired : List RetentionKey) : Prop where
  retired_eq : retired = (plan.entries.filter (·.retained)).map (·.key)
  lost_iff : ∀ key, key ∈ retainedKeys before ∧ key ∉ retainedKeys after ↔ key ∈ retired
  kept : retainedKeys after ⊆ retainedKeys before
  expired : ((newlyExpired before after).map fun row =>
    (row.id, row.headCheckpointId, row.epoch)).Perm
      (plan.expiringBranches.map fun b => (b.1, some b.2.1, b.2.2))
  protection_eq : ∃ p, protection readers before now none = .ok p ∧
    protection readers after now none = .ok p

/-- Retiring the entries of a ready plan succeeds and does what the plan says. -/
theorem retire_agrees
    (h : preview readers index policy now accountId requested allUnreferenced = .ok plan)
    (hready : plan.ready = true) :
    ∃ retired after, retire readers index policy now accountId (plan.entries.map (·.key))
        allUnreferenced = .ok (retired, after) ∧
      Agrees readers now plan index.toRetentionTables after.toRetentionTables retired := by
  obtain ⟨p, histories, active, dependencies, closure, hv⟩ := previewed h
  set selected := closure.required.filter (· ∈ retainedKeys index.toRetentionTables) with hsel
  have hreasons : ∀ key ∈ selected, p.reasons key = ∅ :=
    fun key hkey => hv.reasons_eq_empty hready hkey
  -- the closure of the retired rows is the closure of the rows before
  have hretired : protection readers (retiredTables selected now index.toRetentionTables) now none =
      .ok p := by
    rw [retiredTables_eq]
    exact RowUpdate.protection_apply hv.protection_eq
      (retireUpdate_harmless hv.protection_eq hreasons)
  set clock := stamp (clockKeys index.toRetentionTables) p p now with hclock
  have hstamped : protection readers (stampClocks clock
      (retiredTables selected now index.toRetentionTables)) now none = .ok p := by
    rw [stampClocks_eq]
    exact RowUpdate.protection_apply hretired (stampUpdate_harmless clock _ _)
  have hconstraints : Constraints (stampClocks clock
      (retiredTables selected now index.toRetentionTables)) := by
    rw [stampClocks_eq]
    exact RowUpdate.constraints_apply hretired (stampUpdate_harmless clock _ _)
      (hv.constraints_retired hready)
  have hstate : ∀ record ∈ historyRecords index.toRetentionTables, record.key ∈ selected →
      record.stateHistory = true := by
    intro record hmem hkey
    obtain ⟨hreq, hret⟩ := List.mem_filter.mp hkey
    have hrec := (recordAt_eq_some index).mpr ⟨hmem, rfl⟩
    obtain ⟨record', hrec', hclear⟩ := hv.record hready hreq
    obtain rfl := Option.some.inj (hrec.symm.trans hrec')
    exact (hclear ((mem_retainedKeys_iff hrec).mp (of_decide_eq_true hret))).state
  refine ⟨selected, ⟨_, hconstraints⟩, ?_, ?_, ?_, ?_, ?_, p, hv.protection_eq, hstamped⟩
  · simp only [retire, hv.keys_ok hready, ok_bind, retentionMutation, hv.protection_eq,
      hv.retireSelected_eq hready, ← hsel, hretired, ← hclock, flush_ok hconstraints, pure_eq_ok]
  · rw [hv.map_key_retained hready]
  · intro key
    rw [mem_retainedKeys_settle hstate]
    constructor
    · rintro ⟨hret, hno⟩
      by_contra hmem
      exact hno ⟨hret, hmem⟩
    · intro hmem
      exact ⟨of_decide_eq_true (List.mem_filter.mp hmem).2, fun hno => hno.2 hmem⟩
  · intro key hkey
    exact ((mem_retainedKeys_settle hstate).mp hkey).1
  · rw [newlyExpired_eq, hv.expiring_eq]
    exact expiringBranches_perm.symm

/-- A removed local skill: its branch still names the item view of an old directory. -/
def prunableTables : RetentionTables where
  userId := "user".toList
  locals := [{ id := "local".toList, userId := "user".toList, accountId := "account".toList,
               name := "skill".toList, status := .removed, sourceCheckpointId := "new".toList,
               defaultRevisionId := some "first".toList }]
  localRevisions := [{ id := "first".toList, accountId := "account".toList,
                       localSkillId := "local".toList, number := 1, contentDigest := "b".toList,
                       treeDigest := none, subtreePrefix := "skill".toList, retained := false }]
  directories := [{ accountId := "account".toList, epoch := 1,
                    headCheckpointId := some "new".toList }]
  branches := [{ id := "branch".toList, accountId := "account".toList, installationId := none,
                 installationEpoch := 1, baseRevisionId := none,
                 localSkillId := some "local".toList, localRevisionId := some "first".toList,
                 epoch := 3, headCheckpointId := some "item".toList }]
  checkpoints := [
    { id := "old".toList, accountId := "account".toList, scope := .directory, stateId := none,
      contentDigest := "a".toList, treeDigest := some "a".toList, subtreePrefix := [],
      sourceSessionReferenceId := none, backingDirectoryId := none,
      retentionReleasedAt := some 0 },
    { id := "item".toList, accountId := "account".toList, scope := .item,
      stateId := some "branch".toList, contentDigest := "a".toList,
      treeDigest := some "a".toList, subtreePrefix := "skill".toList,
      sourceSessionReferenceId := none, backingDirectoryId := some "old".toList,
      retentionReleasedAt := some 0 },
    { id := "new".toList, accountId := "account".toList, scope := .directory, stateId := none,
      contentDigest := "b".toList, treeDigest := some "b".toList, subtreePrefix := [],
      sourceSessionReferenceId := none, backingDirectoryId := none }]
  members := [{ directoryCheckpointId := "old".toList, entryName := "skill".toList,
                accountId := "account".toList, stateId := "branch".toList,
                checkpointId := "item".toList }]

def prunableIndex : RetentionIndex := ⟨prunableTables, brokenConstraint_eq_none.mp (by decide +kernel)⟩

/-- No deployment was ever saved. -/
def noPlans : PlanReaders := ⟨fun _ _ _ => .ok [], fun plans _ _ _ => .ok plans, fun _ _ => .ok [],
  fun _ _ _ _ => .ok ()⟩

/-- The item, its directory and the branch's head go together after the archive days. -/
def prunePreview : Except HistoryFailure HistoryRetirementPlan :=
  preview noPlans prunableIndex {} (91 * dayLength) "account".toList
    [⟨.checkpoint, "item".toList⟩] false

theorem retire_agrees_removed_skill : ∃ plan retired after,
    preview noPlans prunableIndex {} (91 * dayLength) "account".toList
      [⟨.checkpoint, "item".toList⟩] false = .ok plan ∧
    plan.expiringBranches = [("branch".toList, "item".toList, 3)] ∧
    retire noPlans prunableIndex {} (91 * dayLength) "account".toList (plan.entries.map (·.key))
      false = .ok (retired, after) ∧
    Agrees noPlans (91 * dayLength) plan prunableIndex.toRetentionTables after.toRetentionTables
      retired := by
  have hok : ∃ plan, prunePreview = .ok plan ∧ plan.ready = true ∧
      plan.expiringBranches = [("branch".toList, "item".toList, 3)] :=
    ⟨_, @eq_ok_getD _ _ prunePreview (by decide +kernel)
      ⟨[], [], [], false, [], [], []⟩, by decide +kernel, by decide +kernel⟩
  obtain ⟨plan, hplan, hready, hexpiring⟩ := hok
  obtain ⟨retired, after, hretire, hagrees⟩ := retire_agrees hplan hready
  exact ⟨plan, retired, after, hplan, hexpiring, hretire, hagrees⟩

end AgentRemote
