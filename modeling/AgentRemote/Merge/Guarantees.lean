import AgentRemote.Merge.Directory

/-!
# What a directory merge guarantees

An automatic merge keeps every one-sided change and never settles a two-sided one. The
merge returns a tree or conflicts for all inputs but those whose units merge cleanly while
their union breaks a limit of the whole tree.
-/

namespace AgentRemote
open Library

section

variable {base current incoming : SkillTreeManifest} {itemNames : List Text}

lemma memberNames_of_merge_ok [UnicodeForms] {result : SkillDirectoryMergeResult}
    (h : mergeDirectoryManifests base current incoming itemNames = .ok result) :
    ∀ name ∈ itemNames, MemberName name := by
  rw [mergeDirectoryManifests, bind_eq_ok] at h
  obtain ⟨units, hunits, -⟩ := h
  exact memberNames_of_units_ok hunits

/-- Units without conflicts have no path that both sides changed differently. -/
lemma threeWayAt_ne_none_of_units {units : List (List Text)}
    (hu : MergeUnits [base, current, incoming] itemNames units)
    (h : ∀ unit ∈ units, (unitResult base current incoming itemNames unit).conflicts = [])
    (path : Text) : threeWayAt base.entries current.entries incoming.entries path ≠ none := by
  by_cases hpath : path ∈ sortedPaths base.entries current.entries incoming.entries
  · have hcover : ∃ unit ∈ units, scope itemNames path ∈ unit := by
      have hentry : ∀ m ∈ [base, current, incoming], (m.get path).isSome →
          ∃ unit ∈ units, scope itemNames path ∈ unit := by
        intro m hm hsome
        obtain ⟨e, he⟩ := Option.isSome_iff_exists.mp hsome
        have := hu.cover _ (scope_mem_scopes hm (mem_of_lookup he))
        rwa [key_of_lookup he] at this
      rcases mem_sortedPaths.mp hpath with hp | hp | hp
      · exact hentry base (by simp) hp
      · exact hentry current (by simp) hp
      · exact hentry incoming (by simp) hp
    obtain ⟨unit, hunit, hs⟩ := hcover
    have := (mergeRule_conflicts_eq_nil_iff.mp (h unit hunit)).2.1 path
    rwa [threeWayAt_slice, if_pos hs] at this
  · rw [mem_sortedPaths] at hpath
    simp only [not_or, Option.not_isSome_iff_eq_none] at hpath
    rw [threeWayAt, hpath.1, hpath.2.1, hpath.2.2]
    simp

/-- A merged tree is the combination of the three trees, and every unit was clean. -/
lemma merged_spec [UnicodeForms] {result : SkillDirectoryMergeResult}
    {merged : SkillTreeManifest}
    (h : mergeDirectoryManifests base current incoming itemNames = .ok result)
    (hm : result.merged = some merged) :
    ∃ units, directoryMergeUnits [base, current, incoming] itemNames = .ok units ∧
      MergeUnits [base, current, incoming] itemNames units ∧ result.conflicts = [] ∧
        result.units = units ∧
          (∀ unit ∈ units, (unitResult base current incoming itemNames unit).conflicts = []) ∧
            merged.entries = combine base.entries current.entries incoming.entries := by
  obtain ⟨units, hok, hu, heq⟩ := @mergeDirectoryManifests_eq base current incoming itemNames _
    (memberNames_of_merge_ok h)
  refine ⟨units, hok, hu, ?_⟩
  rw [heq] at h
  split_ifs at h with hc
  · cases h
    simp at hm
  · simp only [ne_eq, not_not] at hc
    cases hof : SkillTreeManifest.ofEntries
        (combine base.entries current.entries incoming.entries) with
    | error e => simp [hof, Except.map] at h
    | ok complete =>
      simp only [hof, Except.map, Except.ok.injEq] at h
      subst h
      simp only [Option.some.injEq] at hm
      subst hm
      exact ⟨rfl, rfl, unitConflicts_eq_nil_iff.mp hc, SkillTreeManifest.ofEntries_eq_ok.mp hof⟩

lemma merged_get [UnicodeForms] {result : SkillDirectoryMergeResult} {merged : SkillTreeManifest}
    (h : mergeDirectoryManifests base current incoming itemNames = .ok result)
    (hm : result.merged = some merged) (path : Text) :
    threeWay (base.get path) (current.get path) (incoming.get path) = some (merged.get path) := by
  obtain ⟨units, -, hu, -, -, hclean, hentries⟩ := merged_spec h hm
  have hne := threeWayAt_ne_none_of_units hu hclean path
  obtain ⟨value, hvalue⟩ := Option.ne_none_iff_exists'.mp hne
  have hcombine := @entryAt_combine base.entries current.entries incoming.entries path
  rw [hvalue, Option.join_some, ← hentries] at hcombine
  change threeWayAt base.entries current.entries incoming.entries path = _
  rw [hvalue, ← hcombine]

lemma not_opaqueChange_iff {old branch : List SkillTreeEntry} :
    ¬opaqueChange old branch ↔ ∀ path, entryAt old path ≠ entryAt branch path →
      ∀ entry, entryAt old path = some entry ∨ entryAt branch path = some entry →
        isOpaque entry = false := by
  simp only [opaqueChange, List.any_eq_true, List.mem_append, mem_paths, not_exists, not_and,
    decide_eq_true_eq, not_or, Option.any_eq_true]
  constructor
  · intro h path hne entry hentry
    have hsome : (entryAt old path).isSome ∨ (entryAt branch path).isSome := by
      rcases hentry with he | he <;> simp [he]
    obtain ⟨ho, hb⟩ := h path hsome hne
    rcases hentry with he | he
    · simpa using ho entry he
    · simpa using hb entry he
  · intro h path _ hne
    refine ⟨fun entry he => ?_, fun entry he => ?_⟩
    · simpa using h path hne entry (.inl he)
    · simpa using h path hne entry (.inr he)

/-- An automatic merge takes the side that changed at every path, has no path that both
sides changed differently, and in a unit where all three trees differ neither side touched
a binary or database-like file. -/
theorem mergeDirectoryManifests_threeWay [UnicodeForms] {result : SkillDirectoryMergeResult}
    {merged : SkillTreeManifest}
    (h : mergeDirectoryManifests base current incoming itemNames = .ok result)
    (hm : result.merged = some merged) :
    (∀ path,
      (current.get path = incoming.get path ∨ incoming.get path = base.get path →
        merged.get path = current.get path) ∧
      (current.get path = base.get path → merged.get path = incoming.get path)) ∧
    (∀ path, ¬(current.get path ≠ incoming.get path ∧ incoming.get path ≠ base.get path ∧
      current.get path ≠ base.get path)) ∧
    (∀ unit, LinkUnit [base, current, incoming] itemNames unit →
      Diverged (slice itemNames unit base.entries) (slice itemNames unit current.entries)
        (slice itemNames unit incoming.entries) →
      ∀ side ∈ [current, incoming], ∀ path, scope itemNames path ∈ unit →
        base.get path ≠ side.get path →
          ∀ entry, base.get path = some entry ∨ side.get path = some entry →
            isOpaque entry = false) := by
  have hrule := merged_get h hm
  refine ⟨fun path => ⟨fun hp => ?_, fun hp => ?_⟩, fun path hp => ?_, ?_⟩
  · rcases threeWay_eq_some_iff.mp (hrule path) with ⟨-, hv⟩ | ⟨hn, -⟩
    · exact hv
    · exact absurd hp hn
  · rcases threeWay_eq_some_iff.mp (hrule path) with ⟨hside, hv⟩ | ⟨-, -, hv⟩
    · rcases hside with hside | hside
      · rw [hv, hside]
      · rw [hv, hp, hside]
    · exact hv
  · have hnone := hrule path
    rw [threeWay_eq_none_iff.mpr hp] at hnone
    simp at hnone
  · intro unit hunit hdiv side hside path hs hne entry hentry
    obtain ⟨units, -, hu, -, -, hclean, -⟩ := merged_spec h hm
    obtain ⟨unit', hunit', hmem⟩ := hu.exists_of_linkUnit hunit
    have hopaque := (mergeRule_conflicts_eq_nil_iff.mp (hclean unit' hunit')).1
    simp only [← slice_congr hmem, OpaqueDivergence, hdiv, true_and, not_or] at hopaque
    have hchange : ¬opaqueChange (slice itemNames unit base.entries)
        (slice itemNames unit side.entries) := by
      rcases List.mem_cons.mp hside with rfl | hside
      · exact hopaque.1
      · rw [List.mem_singleton.mp hside]
        exact hopaque.2
    refine not_opaqueChange_iff.mp hchange path ?_ entry ?_
    · rwa [entryAt_slice, entryAt_slice, if_pos hs, if_pos hs]
    · rwa [entryAt_slice, entryAt_slice, if_pos hs, if_pos hs]

end

section Samples

/-- A tree of one member with one file. -/
def memberEntries (name : Text) (size : ℕ) : List SkillTreeEntry :=
  [.directory name, .textFile (name ++ "/notes".toList) size (List.replicate 64 '0')]

/-- Two sessions that edit and add different members merge to both changes. -/
theorem mergeDirectoryManifests_threeWay_members :
    let base : SkillTreeManifest := ⟨memberEntries ['a'] 1, by decide⟩
    let current : SkillTreeManifest := ⟨memberEntries ['a'] 2, by decide⟩
    let incoming : SkillTreeManifest :=
      ⟨memberEntries ['a'] 1 ++ memberEntries ['b'] 3, by decide⟩
    ∃ result merged,
      @mergeDirectoryManifests asciiForms base current incoming [['a'], ['b']] = .ok result ∧
        result.merged = some merged ∧ merged.get "a/notes".toList = current.get "a/notes".toList ∧
          merged.get "b/notes".toList = incoming.get "b/notes".toList := by
  intro base current incoming
  have hmerged : ((@mergeDirectoryManifests asciiForms base current incoming
      [['a'], ['b']]).toOption.bind fun result => result.merged).isSome := by
    decide +kernel
  obtain ⟨merged, hm⟩ := Option.isSome_iff_exists.mp hmerged
  obtain ⟨result, hok, hresult⟩ := Option.bind_eq_some_iff.mp hm
  have h := toOption_eq_some.mp hok
  obtain ⟨hvalues, -, -⟩ := @mergeDirectoryManifests_threeWay base current incoming
    [['a'], ['b']] asciiForms result merged h hresult
  exact ⟨result, merged, h, hresult, (hvalues _).1 (.inr (by decide)),
    (hvalues _).2 (by decide)⟩

end Samples

section

variable {base current incoming : SkillTreeManifest} {itemNames : List Text}

/-! ### When the merge returns at all -/

/-- The merge returns a valid tree without conflicts, or conflicts without a tree. -/
def MergeReturns [UnicodeForms] (base current incoming : SkillTreeManifest)
    (itemNames : List Text) : Prop :=
  ∃ result, mergeDirectoryManifests base current incoming itemNames = .ok result ∧
    ((∃ merged, result.merged = some merged ∧ TreeRules merged.entries ∧
      result.conflicts = []) ∨ (result.merged = none ∧ result.conflicts ≠ []))

/-- A tree over one of the limits of a manifest. -/
def ExceedsLimits (entries : List SkillTreeEntry) : Prop :=
  maxEntries < entries.length ∨ maxBytes < totalBytes entries

/-- Every path and every link unit of the three trees merges without conflict. -/
def UnitsClean (base current incoming : SkillTreeManifest) (itemNames : List Text) : Prop :=
  (∀ path, threeWay (base.get path) (current.get path) (incoming.get path) ≠ none) ∧
    ∀ unit, LinkUnit [base, current, incoming] itemNames unit →
      ¬OpaqueDivergence (slice itemNames unit base.entries) (slice itemNames unit current.entries)
        (slice itemNames unit incoming.entries) ∧
      TreeRules (combine (slice itemNames unit base.entries)
        (slice itemNames unit current.entries) (slice itemNames unit incoming.entries))

lemma unitsClean_iff {units : List (List Text)}
    (hu : MergeUnits [base, current, incoming] itemNames units) :
    UnitsClean base current incoming itemNames ↔
      unitConflicts base current incoming itemNames units = [] := by
  rw [unitConflicts_eq_nil_iff]
  constructor
  · rintro ⟨hpath, hunits⟩ unit hunit
    obtain ⟨ho, hr⟩ := hunits unit (hu.linkUnit unit hunit)
    refine mergeRule_conflicts_eq_nil_iff.mpr ⟨ho, fun path => ?_, hr⟩
    rw [threeWayAt_slice]
    split_ifs
    · exact hpath path
    · simp
  · intro hclean
    refine ⟨threeWayAt_ne_none_of_units hu hclean, fun unit hunit => ?_⟩
    obtain ⟨unit', hunit', hmem⟩ := hu.exists_of_linkUnit hunit
    have := mergeRule_conflicts_eq_nil_iff.mp (hclean unit' hunit')
    simp only [← slice_congr hmem] at this
    exact ⟨this.1, this.2.2⟩

/-- The union of clean units keeps its order, its parents and its links. -/
lemma treeShape_combine {units : List (List Text)}
    (hu : MergeUnits [base, current, incoming] itemNames units)
    (hclean : ∀ unit ∈ units, (unitResult base current incoming itemNames unit).conflicts = []) :
    TreeShape (combine base.entries current.entries incoming.entries) := by
  have hrules : ∀ unit ∈ units, TreeRules (slice itemNames unit
      (combine base.entries current.entries incoming.entries)) := by
    intro unit hunit
    have := (mergeRule_conflicts_eq_nil_iff.mp (hclean unit hunit)).2.2
    rwa [combine_slice] at this
  refine ⟨sorted_combine, ?_, ?_, ?_⟩
  · intro e he
    rcases mem_or_of_mem_combine he with h | h
    · exact current.rules.ne_nil e h
    · exact incoming.rules.ne_nil e h
  · intro e he parent hp
    obtain ⟨unit, hunit, hs⟩ := exists_unit_of_mem_combine hu he
    have hd := (hrules unit hunit).parents e (mem_slice.mpr ⟨he, hs⟩) parent hp
    rwa [directoryAt_slice] at hd
    rwa [scope_congr (top_of_mem_ancestors hp)]
  · intro e he hk
    obtain ⟨unit, hunit, hs⟩ := exists_unit_of_mem_combine hu he
    obtain ⟨result, hr⟩ := (hrules unit hunit).links e (mem_slice.mpr ⟨he, hs⟩) hk
    refine ⟨result, resolveManifestLink_congr hr fun d hd => ?_⟩
    have hsome := isSome_of_mem_dependencies hr d hd
    rw [entryAt_slice] at hsome ⊢
    split_ifs at hsome ⊢
    · rfl
    · simp at hsome

/-- The merge of valid names fails exactly when all units are clean and their union is over
a limit of the whole tree, where it raises instead of reporting a conflict. -/
theorem mergeReturns_iff [UnicodeForms] (hnames : ∀ name ∈ itemNames, MemberName name) :
    MergeReturns base current incoming itemNames ↔
      ¬(UnitsClean base current incoming itemNames ∧
        ExceedsLimits (combine base.entries current.entries incoming.entries)) := by
  obtain ⟨units, -, hu, heq⟩ := @mergeDirectoryManifests_eq base current incoming itemNames _ hnames
  rw [MergeReturns, heq, unitsClean_iff hu]
  by_cases hc : unitConflicts base current incoming itemNames units = []
  · have hshape := treeShape_combine hu (unitConflicts_eq_nil_iff.mp hc)
    simp only [hc, ne_eq, not_true_eq_false, if_false, true_and]
    constructor
    · rintro ⟨result, hok, -⟩ hexceeds
      cases hof : SkillTreeManifest.ofEntries
          (combine base.entries current.entries incoming.entries) with
      | error e => simp [hof, Except.map] at hok
      | ok complete =>
        have hrules := complete.rules
        rw [SkillTreeManifest.ofEntries_eq_ok.mp hof] at hrules
        rcases hexceeds with h | h
        · exact absurd hrules.length_le h.not_ge
        · exact absurd hrules.total_le h.not_ge
    · intro hlimits
      simp only [ExceedsLimits, not_or, not_lt] at hlimits
      have hrules : TreeRules (combine base.entries current.entries incoming.entries) :=
        ⟨hshape, hlimits.1, hlimits.2⟩
      refine ⟨_, by rw [SkillTreeManifest.ofEntries_of_rules hrules]; rfl, .inl ?_⟩
      exact ⟨_, rfl, hrules, rfl⟩
  · simp only [hc, ne_eq, not_false_eq_true, if_true, false_and, iff_true]
    exact ⟨_, rfl, .inr ⟨rfl, hc⟩⟩

end

/-- A conflict in one unit keeps the tree back and returns. -/
theorem mergeReturns_iff_conflict :
    @MergeReturns asciiForms ⟨memberEntries ['a'] 1, by decide⟩ ⟨memberEntries ['a'] 2, by decide⟩
      ⟨memberEntries ['a'] 3, by decide⟩ [['a']] := by
  refine (@mergeReturns_iff _ _ _ _ asciiForms ?_).mpr ?_
  · intro name hname
    rw [List.mem_singleton.mp hname]
    exact @MemberName.mk asciiForms _ (by decide) (by decide)
  · rintro ⟨⟨hpaths, -⟩, -⟩
    exact hpaths "a/notes".toList (by decide)

/-- Two members of `2 ^ 63 - 1` bytes, one added by each side, merge cleanly unit by unit,
and their union raises. -/
theorem merge_raises_over_byte_limit :
    ∃ (base current incoming : SkillTreeManifest) (itemNames : List Text),
      (∀ name ∈ itemNames, @MemberName asciiForms name) ∧
        @mergeDirectoryManifests asciiForms base current incoming itemNames =
          .error "skill tree byte count overflows the protocol" ∧
            ¬@MergeReturns asciiForms base current incoming itemNames := by
  refine ⟨⟨[], by decide⟩, ⟨memberEntries ['a'] maxBytes, by decide⟩,
    ⟨memberEntries ['b'] maxBytes, by decide⟩, [['a'], ['b']], ?_, ?_⟩
  · intro name hname
    simp only [List.mem_cons, List.not_mem_nil, or_false] at hname
    rcases hname with rfl | rfl <;> exact @MemberName.mk asciiForms _ (by decide) (by decide)
  · have herror : @mergeDirectoryManifests asciiForms ⟨[], by decide⟩
        ⟨memberEntries ['a'] maxBytes, by decide⟩ ⟨memberEntries ['b'] maxBytes, by decide⟩
          [['a'], ['b']] = .error "skill tree byte count overflows the protocol" := by
      decide +kernel
    refine ⟨herror, ?_⟩
    rintro ⟨result, hok, -⟩
    rw [herror] at hok
    simp at hok

end AgentRemote
