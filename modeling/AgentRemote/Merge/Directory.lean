import AgentRemote.Merge.Scopes
import AgentRemote.Merge.ThreeWay

/-!
# Three-way merge of a directory

`mergeDirectoryManifests` cuts the three trees into link units, merges every unit on its
own and joins the results. A slice of a valid tree is valid, and the join of clean units is
the combination of the whole trees, so only the whole-tree limits can reject it.
-/

namespace AgentRemote
open Library

/-- The index of the unit of a scope. -/
def unitForScope (units : List (List Text)) (s : Text) : Option ℕ :=
  units.findIdx? fun unit => s ∈ unit

def placeEntry (units : List (List Text)) (itemNames : List Text)
    (groups : List (List SkillTreeEntry)) (entry : SkillTreeEntry) :
    Except String (List (List SkillTreeEntry)) :=
  match unitForScope units (scope itemNames entry.path) with
  | none => .error "scope has no unit"
  | some i => .ok (groups.modify i (· ++ [entry]))

/-- The entries of one tree, unit by unit. -/
def partitionEntries (units : List (List Text)) (itemNames : List Text)
    (entries : List SkillTreeEntry) : Except String (List (List SkillTreeEntry)) :=
  entries.foldlM (placeEntry units itemNames) (units.map fun _ => [])

/-- The loop variables of the merge: entries of clean units and conflicts of all units. -/
structure MergeProgress where
  merged : List SkillTreeEntry
  conflicts : List SkillMergeConflict

/-- One unit and its slices of the base, the current and the incoming tree. -/
structure UnitSlices where
  unit : List Text
  base : List SkillTreeEntry
  current : List SkillTreeEntry
  incoming : List SkillTreeEntry

def mergeUnit (progress : MergeProgress) (slices : UnitSlices) : Except String MergeProgress := do
  let base ← SkillTreeManifest.ofEntries slices.base
  let current ← SkillTreeManifest.ofEntries slices.current
  let incoming ← SkillTreeManifest.ofEntries slices.incoming
  let result := mergeManifests base current incoming
  return ⟨progress.merged ++ (result.merged.map (·.entries)).getD [],
    progress.conflicts ++ result.conflicts.map fun c => { c with unit := slices.unit }⟩

structure SkillDirectoryMergeResult extends SkillMergeResult where
  units : List (List Text)
  deriving DecidableEq

/-- `sorted(entries, key=path bytes)`. -/
def sortEntries (entries : List SkillTreeEntry) : List SkillTreeEntry :=
  entries.insertionSort fun a b => a.path.encode ≤ b.path.encode

def zipSlices : List (List Text) → List (List SkillTreeEntry) → List (List SkillTreeEntry) →
    List (List SkillTreeEntry) → List UnitSlices
  | unit :: units, b :: bs, c :: cs, i :: is => ⟨unit, b, c, i⟩ :: zipSlices units bs cs is
  | _, _, _, _ => []

def mergeDirectoryManifests [UnicodeForms] (base current incoming : SkillTreeManifest)
    (itemNames : List Text) : Except String SkillDirectoryMergeResult := do
  let units ← directoryMergeUnits [base, current, incoming] itemNames
  let bases ← partitionEntries units itemNames base.entries
  let currents ← partitionEntries units itemNames current.entries
  let incomings ← partitionEntries units itemNames incoming.entries
  let progress ← (zipSlices units bases currents incomings).foldlM mergeUnit ⟨[], []⟩
  if progress.conflicts ≠ [] then return ⟨⟨none, progress.conflicts⟩, units⟩
  let complete ← SkillTreeManifest.ofEntries (sortEntries progress.merged)
  return ⟨⟨some complete, []⟩, units⟩

lemma perm_sortEntries {entries : List SkillTreeEntry} : (sortEntries entries).Perm entries :=
  List.perm_insertionSort _ _

/-! ### Slices -/

/-- The entries of one unit. -/
def slice (itemNames unit : List Text) (entries : List SkillTreeEntry) : List SkillTreeEntry :=
  entries.filter fun e => scope itemNames e.path ∈ unit

section

variable {itemNames unit : List Text} {entries : List SkillTreeEntry}

lemma mem_slice {e : SkillTreeEntry} :
    e ∈ slice itemNames unit entries ↔ e ∈ entries ∧ scope itemNames e.path ∈ unit := by
  simp [slice]

lemma slice_congr {unit' : List Text} (h : ∀ t, t ∈ unit ↔ t ∈ unit') :
    slice itemNames unit entries = slice itemNames unit' entries := by
  simp only [slice, h]

/-- A filter on paths answers like the list at the paths it keeps. -/
lemma entryAt_filter (p : Text → Bool) (path : Text) :
    entryAt (entries.filter fun e => p e.path) path = if p path then entryAt entries path else none :=
  lookup_filter p

lemma entryAt_slice (path : Text) : entryAt (slice itemNames unit entries) path =
    if scope itemNames path ∈ unit then entryAt entries path else none := by
  have h := @entryAt_filter entries (fun p => decide (scope itemNames p ∈ unit)) path
  simpa [slice] using h

lemma directoryAt_slice {path : Text} (hs : scope itemNames path ∈ unit) :
    DirectoryAt (slice itemNames unit entries) path ↔ DirectoryAt entries path := by
  rw [DirectoryAt, DirectoryAt, entryAt_slice, if_pos hs]

lemma slice_sublist : (slice itemNames unit entries).Sublist entries := List.filter_sublist

lemma totalBytes_le_of_sublist {entries' : List SkillTreeEntry} (h : entries'.Sublist entries) :
    totalBytes entries' ≤ totalBytes entries :=
  (h.map _).sum_le_sum (by simp)

/-- The slice of a valid tree that keeps its links is valid. -/
theorem treeRules_slice (h : TreeRules entries)
    (hlinks : ∀ e ∈ entries, e.kind = .symlink → scope itemNames e.path ∈ unit →
      ∀ result, resolveManifestLink e entries = .ok result →
        ∀ d ∈ result.2, scope itemNames d ∈ unit) :
    TreeRules (slice itemNames unit entries) := by
  refine ⟨⟨h.sorted.sublist slice_sublist, ?_, ?_, ?_⟩, ?_, ?_⟩
  · exact fun e he => h.ne_nil e (mem_slice.mp he).1
  · intro e he parent hp
    obtain ⟨he, hs⟩ := mem_slice.mp he
    rw [directoryAt_slice]
    · exact h.parents e he parent hp
    · rwa [scope_congr (top_of_mem_ancestors hp)]
  · intro e he hk
    obtain ⟨he, hs⟩ := mem_slice.mp he
    obtain ⟨result, hr⟩ := h.links e he hk
    refine ⟨result, resolveManifestLink_congr hr fun d hd => ?_⟩
    rw [entryAt_slice, if_pos (hlinks e he hk hs result hr d hd)]
  · exact slice_sublist.length_le.trans h.length_le
  · exact (totalBytes_le_of_sublist slice_sublist).trans h.total_le

/-- Merging slices is slicing the merge. -/
theorem combine_slice (base current incoming : List SkillTreeEntry) :
    combine (slice itemNames unit base) (slice itemNames unit current)
        (slice itemNames unit incoming) =
      slice itemNames unit (combine base current incoming) := by
  refine eq_of_lookup_eq sorted_combine (sorted_combine.sublist slice_sublist) fun path => ?_
  have h := @entryAt_slice itemNames unit (combine base current incoming) path
  have h' := @entryAt_combine (slice itemNames unit base) (slice itemNames unit current)
    (slice itemNames unit incoming) path
  refine h'.trans (Eq.trans ?_ h.symm)
  rw [threeWayAt, entryAt_slice, entryAt_slice, entryAt_slice, entryAt_combine, threeWayAt]
  split_ifs <;> rfl

lemma threeWayAt_slice (base current incoming : List SkillTreeEntry) (path : Text) :
    threeWayAt (slice itemNames unit base) (slice itemNames unit current)
        (slice itemNames unit incoming) path =
      if scope itemNames path ∈ unit then threeWayAt base current incoming path
      else some none := by
  rw [threeWayAt, entryAt_slice, entryAt_slice, entryAt_slice]
  split_ifs <;> rfl

end

/-! ### The partition -/

section

variable {itemNames : List Text} {units : List (List Text)}

lemma unitForScope_eq_some_iff (hd : units.Pairwise List.Disjoint) {s : Text} {i : ℕ} :
    unitForScope units s = some i ↔ ∃ h : i < units.length, s ∈ units[i] := by
  simp only [unitForScope, List.findIdx?_eq_some_iff_getElem, decide_eq_true_eq]
  refine exists_congr fun hi => and_iff_left_of_imp fun hs j hji hj => ?_
  exact List.pairwise_iff_getElem.mp hd j i (hji.trans hi) hi hji hj hs

/-- The partition lists the slices of the tree. -/
lemma partitionEntries_eq (hd : units.Pairwise List.Disjoint) {entries : List SkillTreeEntry}
    (hc : ∀ e ∈ entries, ∃ unit ∈ units, scope itemNames e.path ∈ unit) :
    partitionEntries units itemNames entries =
      .ok (units.map fun unit => slice itemNames unit entries) := by
  induction entries using List.reverseRecOn with
  | nil => rfl
  | append_singleton entries e ih =>
    obtain ⟨unit, hunit, hs⟩ := hc e (by simp)
    obtain ⟨i, hi, rfl⟩ := List.mem_iff_getElem.mp hunit
    have hindex := (unitForScope_eq_some_iff hd).mpr ⟨hi, hs⟩
    have hstep : partitionEntries units itemNames (entries ++ [e]) =
        (partitionEntries units itemNames entries >>= fun g => placeEntry units itemNames g e) := by
      unfold partitionEntries
      rw [List.foldlM_append]
      simp
    rw [hstep, ih fun e' he' => hc e' (by simp [he']), ok_bind, placeEntry, hindex]
    dsimp only
    rw [Except.ok.injEq]
    refine List.ext_getElem (by simp) fun j hj hj' => ?_
    simp only [List.length_map] at hj'
    rw [List.getElem_modify, List.getElem_map, List.getElem_map]
    by_cases hij : i = j
    · subst hij
      simp [slice, hs]
    · have hns : scope itemNames e.path ∉ units[j] := by
        intro hsj
        have := (unitForScope_eq_some_iff hd).mpr ⟨hj', hsj⟩
        rw [hindex, Option.some.injEq] at this
        exact hij this
      simp [slice, hns, hij]

lemma zipSlices_map (f g h : List Text → List SkillTreeEntry) :
    zipSlices units (units.map f) (units.map g) (units.map h) =
      units.map fun unit => ⟨unit, f unit, g unit, h unit⟩ := by
  induction units with
  | nil => rfl
  | cons unit units ih => simp [zipSlices, ih]

end

/-! ### The loop over the units -/

/-- The result of one unit under the rule without shortcuts. -/
def unitResult (base current incoming : SkillTreeManifest) (itemNames unit : List Text) :
    SkillMergeResult :=
  mergeRule (slice itemNames unit base.entries) (slice itemNames unit current.entries)
    (slice itemNames unit incoming.entries)

/-- The conflicts of all units, each with its unit. -/
def unitConflicts (base current incoming : SkillTreeManifest) (itemNames : List Text)
    (units : List (List Text)) : List SkillMergeConflict :=
  units.flatMap fun unit =>
    (unitResult base current incoming itemNames unit).conflicts.map fun c => { c with unit := unit }

section

variable {base current incoming : SkillTreeManifest} {itemNames : List Text}
  {units : List (List Text)}

lemma treeRules_slice_of_unit (hu : MergeUnits [base, current, incoming] itemNames units)
    {unit : List Text} (hunit : unit ∈ units) {m : SkillTreeManifest}
    (hm : m ∈ [base, current, incoming]) : TreeRules (slice itemNames unit m.entries) :=
  treeRules_slice m.rules fun _ he hk hs _ hr _ hd =>
    (hu.linkUnit unit hunit).dependency_mem hm he hk hr hd hs

lemma mergeUnit_eq (hu : MergeUnits [base, current, incoming] itemNames units)
    {unit : List Text} (hunit : unit ∈ units) (progress : MergeProgress) :
    mergeUnit progress ⟨unit, slice itemNames unit base.entries,
        slice itemNames unit current.entries, slice itemNames unit incoming.entries⟩ =
      .ok ⟨progress.merged ++
          ((unitResult base current incoming itemNames unit).merged.map (·.entries)).getD [],
        progress.conflicts ++ (unitResult base current incoming itemNames unit).conflicts.map
          fun c => { c with unit := unit }⟩ := by
  have hb := SkillTreeManifest.ofEntries_of_rules
    (treeRules_slice_of_unit hu hunit (m := base) (by simp))
  have hc := SkillTreeManifest.ofEntries_of_rules
    (treeRules_slice_of_unit hu hunit (m := current) (by simp))
  have hi := SkillTreeManifest.ofEntries_of_rules
    (treeRules_slice_of_unit hu hunit (m := incoming) (by simp))
  simp only [mergeUnit, hb, hc, hi, ok_bind, pure_eq_ok, mergeManifests_eq, unitResult]

lemma foldlM_mergeUnit (hu : MergeUnits [base, current, incoming] itemNames units)
    {rest : List (List Text)} (hrest : rest ⊆ units) (progress : MergeProgress) :
    (rest.map fun unit => (⟨unit, slice itemNames unit base.entries,
        slice itemNames unit current.entries, slice itemNames unit incoming.entries⟩ :
          UnitSlices)).foldlM mergeUnit progress =
      .ok ⟨progress.merged ++ rest.flatMap fun unit =>
          ((unitResult base current incoming itemNames unit).merged.map (·.entries)).getD [],
        progress.conflicts ++ unitConflicts base current incoming itemNames rest⟩ := by
  induction rest generalizing progress with
  | nil => simp [unitConflicts]
  | cons unit rest ih =>
    have hunit : unit ∈ units := hrest List.mem_cons_self
    rw [List.map_cons, List.foldlM_cons, mergeUnit_eq hu hunit, ok_bind,
      ih fun u hm => hrest (List.mem_cons_of_mem _ hm)]
    simp [unitConflicts]

lemma unitConflicts_eq_nil_iff :
    unitConflicts base current incoming itemNames units = [] ↔
      ∀ unit ∈ units, (unitResult base current incoming itemNames unit).conflicts = [] := by
  simp [unitConflicts]

/-- The scope of every entry of the combination has a unit. -/
lemma exists_unit_of_mem_combine (hu : MergeUnits [base, current, incoming] itemNames units)
    {e : SkillTreeEntry} (he : e ∈ combine base.entries current.entries incoming.entries) :
    ∃ unit ∈ units, scope itemNames e.path ∈ unit := by
  rcases mem_or_of_mem_combine he with h | h
  · exact hu.cover _ (scope_mem_scopes (m := current) (by simp) h)
  · exact hu.cover _ (scope_mem_scopes (m := incoming) (by simp) h)

/-- Sorting the joined slices gives back the list they were cut from. -/
lemma sortEntries_flatMap_slice (hd : units.Pairwise List.Disjoint)
    {entries : List SkillTreeEntry}
    (hs : entries.Pairwise fun a b => a.path.encode < b.path.encode)
    (hc : ∀ e ∈ entries, ∃ unit ∈ units, scope itemNames e.path ∈ unit) :
    sortEntries (units.flatMap fun unit => slice itemNames unit entries) = entries := by
  have hnd : entries.Nodup := (nodup_paths hs).of_map
  have hnodup : (units.flatMap fun unit => slice itemNames unit entries).Nodup := by
    rw [List.flatMap, List.nodup_flatten]
    refine ⟨?_, ?_⟩
    · simp only [List.mem_map, forall_exists_index, and_imp, forall_apply_eq_imp_iff₂]
      exact fun unit _ => hnd.sublist slice_sublist
    · rw [List.pairwise_map]
      refine hd.imp fun hdis e he he' => ?_
      exact hdis (mem_slice.mp he).2 (mem_slice.mp he').2
  have hperm : (units.flatMap fun unit => slice itemNames unit entries).Perm entries := by
    rw [List.perm_ext_iff_of_nodup hnodup hnd]
    intro e
    simp only [List.mem_flatMap, mem_slice]
    constructor
    · rintro ⟨_, _, he, _⟩
      exact he
    · intro he
      obtain ⟨unit, hunit, hmem⟩ := hc e he
      exact ⟨unit, hunit, he, hmem⟩
  have htotal : Std.Total fun a b : SkillTreeEntry => a.path.encode ≤ b.path.encode :=
    ⟨fun a b => le_total _ _⟩
  have htrans : IsTrans SkillTreeEntry fun a b => a.path.encode ≤ b.path.encode :=
    ⟨fun _ _ _ => le_trans⟩
  refine (perm_sortEntries.trans hperm).eq_of_pairwise ?_
    (List.pairwise_insertionSort _ _) (hs.imp le_of_lt)
  intro a b ha hb hab hba
  have hpath : a.path = b.path := Text.encode_injective (le_antisymm hab hba)
  have ha : a ∈ entries := (perm_sortEntries.trans hperm).mem_iff.mp ha
  exact eq_of_key_eq (nodup_paths hs) ha hb hpath

/-- The merge, once the names are accepted: conflicts of any unit keep the tree back, and
otherwise the result is the combination of the whole trees, checked as a manifest. -/
theorem mergeDirectoryManifests_eq [UnicodeForms] (hnames : ∀ name ∈ itemNames, MemberName name) :
    ∃ units, directoryMergeUnits [base, current, incoming] itemNames = .ok units ∧
      MergeUnits [base, current, incoming] itemNames units ∧
        mergeDirectoryManifests base current incoming itemNames =
          if unitConflicts base current incoming itemNames units ≠ [] then
            .ok ⟨⟨none, unitConflicts base current incoming itemNames units⟩, units⟩
          else
            (SkillTreeManifest.ofEntries
              (combine base.entries current.entries incoming.entries)).map fun complete =>
                ⟨⟨some complete, []⟩, units⟩ := by
  obtain ⟨units, hok, hu⟩ := @directoryMergeUnits_spec [base, current, incoming] _ _ hnames
  refine ⟨units, hok, hu, ?_⟩
  have hpart : ∀ m ∈ [base, current, incoming], partitionEntries units itemNames m.entries =
      .ok (units.map fun unit => slice itemNames unit m.entries) :=
    fun m hm => partitionEntries_eq hu.disjoint fun e he => hu.cover _ (scope_mem_scopes hm he)
  have hloop := foldlM_mergeUnit hu (fun _ h => h) ⟨[], []⟩
  simp only [List.nil_append] at hloop
  simp only [mergeDirectoryManifests, hok, ok_bind, hpart base (by simp),
    hpart current (by simp), hpart incoming (by simp), zipSlices_map, hloop]
  by_cases hc : unitConflicts base current incoming itemNames units = []
  · have hclean := unitConflicts_eq_nil_iff.mp hc
    have hmerged : (units.flatMap fun unit =>
        ((unitResult base current incoming itemNames unit).merged.map (·.entries)).getD []) =
        units.flatMap fun unit =>
          slice itemNames unit (combine base.entries current.entries incoming.entries) := by
      refine List.flatMap_congr fun unit hunit => ?_
      have := mergeRule_merged_of_conflicts (hclean unit hunit)
      rw [unitResult, this, Option.getD_some, combine_slice]
    rw [hmerged, sortEntries_flatMap_slice hu.disjoint sorted_combine
      fun e he => exists_unit_of_mem_combine hu he]
    simp only [hc, ne_eq, not_true_eq_false, if_false]
    cases SkillTreeManifest.ofEntries (combine base.entries current.entries incoming.entries) <;> rfl
  · simp only [hc, ne_eq, not_false_eq_true, if_true]
    rfl

end

end AgentRemote
