import AgentRemote.Merge.Choice
import AgentRemote.Merge.Guarantees

/-!
# Resolution of a conflicting merge

`resolveDirectoryConflicts` starts from a default that takes the current side on conflicts
and lets every choice overwrite its scope. The choices must cover all conflicts, so the
default survives nowhere that both sides changed.
-/

namespace AgentRemote
open Library

/-! ### Rewriting the scope of a choice -/

section

/-- The default value of a path before any choice. -/
def defaultAt (base current incoming : SkillTreeManifest) (path : Text) : Option SkillTreeEntry :=
  if current.get path = incoming.get path ∨ incoming.get path = base.get path then current.get path
  else if current.get path = base.get path then incoming.get path
  else current.get path

def defaultEntries (base current incoming : SkillTreeManifest) : List SkillTreeEntry :=
  (sortedPaths base.entries current.entries incoming.entries).filterMap
    (defaultAt base current incoming)

/-- The directories of `source` on the way to `path`. -/
def ancestorDirectories (source : SkillTreeManifest) (path : Text) : List SkillTreeEntry :=
  (ancestors path).filterMap fun ancestor => (source.get ancestor).filter (·.kind = .directory)

/-- The entries outside the scope of a choice. -/
def clearScope (c : ChoiceFields) (itemNames : List Text) (entries : List SkillTreeEntry) :
    List SkillTreeEntry :=
  entries.filter fun e => !inScope c e.path itemNames

/-- Puts what the source has in the scope of a choice. -/
def overwriteScope (source : SkillTreeManifest) (c : ChoiceFields) (itemNames : List Text)
    (entries : List SkillTreeEntry) : List SkillTreeEntry :=
  (source.entries.filter fun e => inScope c e.path itemNames).foldl (put SkillTreeEntry.path)
    (clearScope c itemNames entries)

variable {itemNames : List Text} {entries : List SkillTreeEntry}

lemma entryAt_ancestorDirectories (source : SkillTreeManifest) (root path : Text) :
    entryAt (ancestorDirectories source root) path =
      if path ∈ ancestors root then (source.get path).filter (·.kind = .directory) else none := by
  have hkey : ∀ p e, (source.get p).filter (·.kind = .directory) = some e → e.path = p :=
    fun p e he => key_of_lookup (Option.filter_eq_some_iff.mp he).1
  rw [ancestorDirectories, entryAt, lookup_filterMap hkey]
  split_ifs <;> rfl

lemma entryAt_clearScope (c : ChoiceFields) (path : Text) :
    entryAt (clearScope c itemNames entries) path =
      if inScope c path itemNames then none else entryAt entries path := by
  rw [clearScope, entryAt_filter fun p => !inScope c p itemNames]
  cases inScope c path itemNames <;> rfl

lemma entryAt_overwriteScope (source : SkillTreeManifest) (c : ChoiceFields) (path : Text) :
    entryAt (overwriteScope source c itemNames entries) path =
      if inScope c path itemNames then source.get path else entryAt entries path := by
  have hnd : ((source.entries.filter fun e => inScope c e.path itemNames).map (·.path)).Nodup :=
    source.nodup_paths.sublist (List.filter_sublist.map _)
  have hsource := @entryAt_filter source.entries (fun p => inScope c p itemNames) path
  have hclear := @entryAt_clearScope itemNames entries c path
  unfold entryAt at hsource hclear
  rw [overwriteScope, entryAt, lookup_foldl_put _ hnd, hsource, hclear]
  split_ifs <;> simp

/-- A file choice puts its file at its path and clears everything below. -/
lemma entryAt_put_file (c : ChoiceFields) {root : Text} (hroot : c.path = some root)
    (file : SkillTreeEntry) (path : Text) :
    entryAt (put SkillTreeEntry.path (clearScope c itemNames entries) { file with path := root })
        path =
      if inScope c path itemNames then
        if root = path then some { file with path := path } else none
      else entryAt entries path := by
  have hclear := @entryAt_clearScope itemNames entries c path
  unfold entryAt at hclear ⊢
  rw [lookup_put, hclear, inScope_of_path hroot]
  by_cases hp : path = root
  · subst hp
    simp [descendant]
  · have hne : root ≠ path := fun he => hp he.symm
    simp [hp, hne]

/-- Added ancestors are outside the scope of their choice and fill gaps only. -/
lemma entryAt_add_ancestors (source : SkillTreeManifest) (c : ChoiceFields) {root : Text}
    (hroot : c.path = some root) (path : Text) :
    entryAt ((ancestorDirectories source root).foldl (putNew SkillTreeEntry.path)
        (overwriteScope source c itemNames entries)) path =
      if inScope c path itemNames then source.get path
      else (entryAt entries path).or
        (if path ∈ ancestors root then (source.get path).filter (·.kind = .directory) else none) := by
  have hover := @entryAt_overwriteScope itemNames entries source c path
  have hanc := entryAt_ancestorDirectories source root path
  unfold entryAt at hover hanc ⊢
  rw [lookup_foldl_putNew, hover, hanc]
  by_cases hin : inScope c path itemNames
  · have hna : path ∉ ancestors root := fun ha => by
      rw [not_inScope_of_mem_ancestors hroot ha] at hin
      simp at hin
    simp [hin, hna]
  · simp [hin]

lemma descendant_of_mem_ancestors {root path : Text} (h : path ∈ ancestors root) :
    descendant root path := by
  obtain ⟨rest, hrest⟩ := exists_append_of_mem_ancestors h
  exact descendant_iff.mpr (.inr ⟨rest, hrest⟩)

end

/-! ### The resolution -/

section

variable [UnicodeForms]

/-- The tree a choice takes its entries from. -/
def choiceSource (current incoming : SkillTreeManifest) (loaded : LoadedResolutionChoice) :
    Option SkillTreeManifest :=
  if loaded.choice.treeDigest.isSome then loaded.tree
  else if loaded.choice.use = some .current then some current
  else some incoming

/-- Replaces the scope of one choice by what its source has there. -/
def applyChoice (current incoming : SkillTreeManifest) (itemNames : List Text)
    (entries : List SkillTreeEntry) (loaded : LoadedResolutionChoice) :
    Except String (List SkillTreeEntry) := do
  let choice := loaded.choice.toChoiceFields
  let some source := choiceSource current incoming loaded | throw "assert source is not None"
  if choice.fileTreeDigest.isSome then
    let some path := choice.path | throw "assert choice.path is not None"
    let some file := source.entries.head? | throw "tuple index out of range"
    return put SkillTreeEntry.path (clearScope choice itemNames entries) { file with path := path }
  let entries := overwriteScope source choice itemNames entries
  match choice.path with
  | none => return entries
  | some path =>
    if (entryAt entries path).isSome then
      return (ancestorDirectories source path).foldl (putNew SkillTreeEntry.path) entries
    else return entries

/-- Checks every choice on its own and against the earlier ones. -/
def validateChoices [Sha256] (current incoming : SkillTreeManifest) (itemNames : List Text)
    (conflicts : List SkillMergeConflict) (units : List (List Text)) :
    List LoadedResolutionChoice → List LoadedResolutionChoice → Except String Unit
  | _, [] => .ok ()
  | earlier, loaded :: rest => do
    validateChoice loaded current incoming conflicts units
    reject (∃ other ∈ earlier, choicesOverlap loaded.choice.toChoiceFields
      other.choice.toChoiceFields itemNames) "resolution choices overlap"
    validateChoices current incoming itemNames conflicts units (earlier ++ [loaded]) rest

def resolveDirectoryConflicts [Sha256] (base current incoming : SkillTreeManifest)
    (itemNames : List Text) (conflicts : List SkillMergeConflict)
    (choices : List LoadedResolutionChoice) : Except String SkillMergeResult := do
  let units ← directoryMergeUnits [base, current, incoming] itemNames
  validateChoices current incoming itemNames conflicts units [] choices
  let remaining := conflicts.filter fun conflict =>
    ¬∃ loaded ∈ choices, covers loaded.choice.toChoiceFields conflict itemNames
  if remaining ≠ [] then return ⟨none, remaining⟩
  let entries ← choices.foldlM (applyChoice current incoming itemNames)
    (defaultEntries base current incoming)
  match SkillTreeManifest.ofEntries (sortEntries entries) with
  | .ok manifest => return ⟨some manifest, []⟩
  | .error _ =>
    return ⟨none, [⟨['.'], .invalidTree,
      (itemNames ++ [auxiliaryScope]).dedup.insertionSort (· ≤ ·)⟩]⟩

/-! ### What the choices promise -/

/-- The entry that the source of a choice has for a path of its scope. A file choice takes
the only file of its source to the chosen path. -/
def chosenAt (current incoming : SkillTreeManifest) (loaded : LoadedResolutionChoice)
    (path : Text) : Option SkillTreeEntry :=
  match choiceSource current incoming loaded with
  | none => none
  | some source =>
    if loaded.choice.fileTreeDigest.isSome then
      if loaded.choice.path = some path then
        source.entries.head?.map fun file => { file with path := path }
      else none
    else source.get path

/-- The directory that a choice adds at an ancestor of its path. -/
def ancestorAt (current incoming : SkillTreeManifest) (loaded : LoadedResolutionChoice)
    (path : Text) : Option SkillTreeEntry :=
  match choiceSource current incoming loaded, loaded.choice.path with
  | some source, some root =>
    if loaded.choice.fileTreeDigest.isNone ∧ (source.get root).isSome ∧ path ∈ ancestors root then
      (source.get path).filter (·.kind = .directory)
    else none
  | _, _ => none

variable {base current incoming : SkillTreeManifest} {itemNames : List Text}
  {entries entries' : List SkillTreeEntry}

/-- One choice: its scope holds what the source has there, and outside the scope only
missing ancestors of its path are added. -/
theorem entryAt_applyChoice {loaded : LoadedResolutionChoice}
    (h : applyChoice current incoming itemNames entries loaded = .ok entries') (path : Text) :
    entryAt entries' path =
      if inScope loaded.choice.toChoiceFields path itemNames then
        chosenAt current incoming loaded path
      else (entryAt entries path).or (ancestorAt current incoming loaded path) := by
  unfold applyChoice at h
  cases hsource : choiceSource current incoming loaded with
  | none => simp [hsource] at h
  | some source =>
    simp only [hsource] at h
    cases hfile : loaded.choice.fileTreeDigest with
    | some digest =>
      simp only [hfile, Option.isSome_some, if_true] at h
      cases hroot : loaded.choice.path with
      | none => simp [hroot] at h
      | some root =>
        cases hhead : source.entries.head? with
        | none => simp [hroot, hhead] at h
        | some file =>
          simp only [hroot, hhead, pure_eq_ok, Except.ok.injEq] at h
          subst h
          rw [entryAt_put_file _ hroot]
          simp [chosenAt, ancestorAt, hsource, hfile, hroot, hhead]
    | none =>
      simp only [hfile, Option.isSome_none, Bool.false_eq_true, if_false] at h
      have hchosen : chosenAt current incoming loaded path = source.get path := by
        simp [chosenAt, hsource, hfile]
      rw [hchosen]
      cases hroot : loaded.choice.path with
      | none =>
        simp only [hroot, pure_eq_ok, Except.ok.injEq] at h
        subst h
        rw [entryAt_overwriteScope]
        simp [ancestorAt, hsource, hroot]
      | some root =>
        have hself : inScope loaded.choice.toChoiceFields root itemNames = true := by
          rw [inScope_of_path hroot]
          simp [descendant]
        simp only [hroot, entryAt_overwriteScope, hself, if_true] at h
        by_cases hsome : (source.get root).isSome
        · simp only [hsome, if_true, pure_eq_ok, Except.ok.injEq] at h
          subst h
          rw [entryAt_add_ancestors _ _ hroot]
          simp [ancestorAt, hsource, hroot, hfile, hsome]
        · simp only [hsome, Bool.false_eq_true, if_false, pure_eq_ok, Except.ok.injEq] at h
          subst h
          rw [entryAt_overwriteScope]
          simp [ancestorAt, hsource, hroot, hsome]

/-- The first ancestor directory that some choice adds at a path. -/
def ancestorFrom (current incoming : SkillTreeManifest) (choices : List LoadedResolutionChoice)
    (path : Text) : Option SkillTreeEntry :=
  choices.findSome? fun loaded => ancestorAt current incoming loaded path

/-- No choice adds an ancestor inside the scope of a choice it does not overlap with. -/
lemma ancestorAt_eq_none {loaded other : LoadedResolutionChoice} {path : Text}
    (h : choicesOverlap loaded.choice.toChoiceFields other.choice.toChoiceFields itemNames = false)
    (hp : inScope loaded.choice.toChoiceFields path itemNames) :
    ancestorAt current incoming other path = none := by
  unfold ancestorAt
  split
  · rename_i source root _ hroot
    rw [if_neg]
    rintro ⟨-, -, ha⟩
    have hdesc := descendant_of_mem_ancestors ha
    have hin : inScope other.choice.toChoiceFields root itemNames := by
      rw [inScope_of_path hroot]
      simp [descendant]
    have hin' : inScope loaded.choice.toChoiceFields root itemNames := by
      unfold inScope at hp ⊢
      split_ifs at hp ⊢
      · rfl
      · cases hl : loaded.choice.path with
        | none =>
          simp only [hl] at hp ⊢
          rwa [scope_of_descendant hdesc]
        | some l =>
          simp only [hl] at hp ⊢
          rcases descendant_iff.mp hp with rfl | ⟨rest, rfl⟩
          · exact hdesc
          · rcases descendant_iff.mp hdesc with rfl | ⟨rest', rfl⟩
            · exact hp
            · exact descendant_iff.mpr (.inr ⟨rest ++ '/' :: rest', by simp⟩)
    rw [not_inScope_of_not_overlap h hin'] at hin
    simp at hin
  · rfl

/-- The loop over the choices: every scope holds what its choice selects, and elsewhere the
start value stays, or else the first added ancestor. -/
theorem entryAt_applyChoices {choices : List LoadedResolutionChoice}
    (hd : choices.Pairwise fun a b =>
      choicesOverlap a.choice.toChoiceFields b.choice.toChoiceFields itemNames = false)
    (h : choices.foldlM (applyChoice current incoming itemNames) entries = .ok entries')
    (path : Text) :
    (∀ loaded ∈ choices, inScope loaded.choice.toChoiceFields path itemNames →
      entryAt entries' path = chosenAt current incoming loaded path) ∧
    ((∀ loaded ∈ choices, inScope loaded.choice.toChoiceFields path itemNames = false) →
      entryAt entries' path =
        (entryAt entries path).or (ancestorFrom current incoming choices path)) := by
  induction choices generalizing entries with
  | nil =>
    simp only [List.foldlM_nil, pure_eq_ok, Except.ok.injEq] at h
    subst h
    simp [ancestorFrom]
  | cons first rest ih =>
    rw [List.foldlM_cons, bind_eq_ok] at h
    obtain ⟨middle, hfirst, hrest⟩ := h
    rw [List.pairwise_cons] at hd
    obtain ⟨hin, hout⟩ := ih hd.2 hrest
    have hstep := entryAt_applyChoice hfirst path
    refine ⟨fun loaded hmem hp => ?_, fun hp => ?_⟩
    · rcases List.mem_cons.mp hmem with rfl | hmem
      · have hnone : ancestorFrom current incoming rest path = none := by
          simp only [ancestorFrom, List.findSome?_eq_none_iff]
          exact fun other hother => ancestorAt_eq_none (hd.1 other hother) hp
        have hothers : ∀ other ∈ rest,
            inScope other.choice.toChoiceFields path itemNames = false :=
          fun other hother => not_inScope_of_not_overlap (hd.1 other hother) hp
        rw [hout hothers, hstep, if_pos hp, hnone, Option.or_none]
      · exact hin loaded hmem hp
    · have hfalse := hp first List.mem_cons_self
      rw [hout fun other hother => hp other (List.mem_cons_of_mem _ hother), hstep, hfalse,
        if_neg (by simp), Option.or_assoc]
      congr 1
      rw [ancestorFrom, ancestorFrom, List.findSome?_cons]
      cases ancestorAt current incoming first path <;> rfl

/-! ### The default and the coverage of conflicts -/

omit [UnicodeForms] in
lemma defaultAt_of_threeWay {path : Text} {value : Option SkillTreeEntry}
    (h : threeWay (base.get path) (current.get path) (incoming.get path) = some value) :
    defaultAt base current incoming path = value := by
  unfold defaultAt
  rcases threeWay_eq_some_iff.mp h with ⟨hside, rfl⟩ | ⟨hside, hours, rfl⟩
  · rw [if_pos hside]
  · rw [if_neg hside, if_pos hours]

omit [UnicodeForms] in
lemma path_of_defaultAt {path : Text} {entry : SkillTreeEntry}
    (h : defaultAt base current incoming path = some entry) : entry.path = path := by
  unfold defaultAt at h
  split_ifs at h <;> exact key_of_lookup h

omit [UnicodeForms] in
lemma sorted_defaultEntries : (defaultEntries base current incoming).Pairwise
    fun a b => a.path.encode < b.path.encode := by
  rw [defaultEntries, List.pairwise_filterMap]
  refine sorted_sortedPaths.imp fun hlt a ha b hb => ?_
  rwa [path_of_defaultAt ha, path_of_defaultAt hb]

omit [UnicodeForms] in
lemma entryAt_defaultEntries (path : Text) :
    entryAt (defaultEntries base current incoming) path = defaultAt base current incoming path := by
  rw [defaultEntries, entryAt, lookup_filterMap fun _ _ => path_of_defaultAt]
  split_ifs with hp
  · rfl
  · rw [mem_sortedPaths] at hp
    simp only [not_or, Option.not_isSome_iff_eq_none] at hp
    simp [defaultAt, SkillTreeManifest.get, hp.1, hp.2.1, hp.2.2]

omit [UnicodeForms] in
/-- A unit with a path that both sides changed reports that path or its opaque state. -/
lemma exists_conflict_of_changed {b c i : List SkillTreeEntry} {path : Text}
    (h : threeWayAt b c i path = none) :
    ∃ conflict ∈ (mergeRule b c i).conflicts, conflict.reason = .opaqueDivergence ∨
      conflict.reason = .invalidTree ∨ conflict.path = path := by
  have hpath : path ∈ sortedPaths b c i := by
    by_contra hp
    rw [mem_sortedPaths] at hp
    simp only [not_or, Option.not_isSome_iff_eq_none] at hp
    rw [threeWayAt, hp.1, hp.2.1, hp.2.2] at h
    simp at h
  have hmem : (⟨path, .changedBoth, []⟩ : SkillMergeConflict) ∈ changedBoth b c i := by
    simp only [changedBoth, List.mem_map, List.mem_filter, decide_eq_true_eq]
    exact ⟨path, ⟨hpath, h⟩, rfl⟩
  unfold mergeRule
  split_ifs with ho hc
  · exact ⟨opaqueConflict, List.mem_singleton_self _, .inl rfl⟩
  · exact ⟨_, hmem, .inr (.inr rfl)⟩
  · simp only [ne_eq, not_not] at hc
    simp [hc] at hmem

/-- Every path that both sides changed has a conflict that only its scope can cover. -/
lemma exists_reported_conflict {report : SkillDirectoryMergeResult}
    (hreport : mergeDirectoryManifests base current incoming itemNames = .ok report) {path : Text}
    (h : threeWay (base.get path) (current.get path) (incoming.get path) = none) :
    ∃ conflict ∈ report.conflicts, scope itemNames path ∈ conflict.unit ∧
      (conflict.reason = .opaqueDivergence ∨ conflict.reason = .invalidTree ∨
        conflict.path = path) := by
  obtain ⟨units, -, hu, heq⟩ := @mergeDirectoryManifests_eq base current incoming itemNames _
    (memberNames_of_merge_ok hreport)
  obtain ⟨unit, hunit, hs⟩ : ∃ unit ∈ units, scope itemNames path ∈ unit := by
    by_contra hnone
    have hcover : ∀ m ∈ [base, current, incoming], m.get path = none := by
      intro m hm
      by_contra hsome
      obtain ⟨e, he⟩ := Option.ne_none_iff_exists'.mp hsome
      have := hu.cover _ (scope_mem_scopes hm (mem_of_lookup he))
      rw [key_of_lookup he] at this
      exact hnone this
    rw [hcover base (by simp), hcover current (by simp), hcover incoming (by simp)] at h
    simp at h
  have hslice : threeWayAt (slice itemNames unit base.entries)
      (slice itemNames unit current.entries) (slice itemNames unit incoming.entries) path =
        none := by
    rw [threeWayAt_slice, if_pos hs]
    exact h
  obtain ⟨conflict, hconflict, hreason⟩ := exists_conflict_of_changed hslice
  have hmem : { conflict with unit := unit } ∈
      unitConflicts base current incoming itemNames units :=
    List.mem_flatMap.mpr ⟨unit, hunit, List.mem_map.mpr ⟨conflict, hconflict, rfl⟩⟩
  rw [hreport, if_pos (List.ne_nil_of_mem hmem)] at heq
  cases heq
  exact ⟨_, hmem, hs, hreason⟩

omit [UnicodeForms] in
lemma choicesOverlap_comm (a b : ChoiceFields) :
    choicesOverlap a b itemNames = choicesOverlap b a itemNames := by
  unfold choicesOverlap
  by_cases hw : a.whole ∨ b.whole
  · rw [if_pos hw, if_pos hw.symm]
  · rw [if_neg hw, if_neg fun h => hw h.symm]
    cases a.path <;> cases b.path <;> simp [or_comm, and_comm]

/-- No two choices of the list overlap. -/
def Separate (itemNames : List Text) (choices : List LoadedResolutionChoice) : Prop :=
  choices.Pairwise fun a b =>
    choicesOverlap a.choice.toChoiceFields b.choice.toChoiceFields itemNames = false

lemma separate_perm {choices choices' : List LoadedResolutionChoice} (h : choices.Perm choices') :
    Separate itemNames choices ↔ Separate itemNames choices' :=
  h.pairwise_iff fun hab => by rwa [choicesOverlap_comm]

lemma validateChoices_eq_ok [Sha256] {conflicts : List SkillMergeConflict}
    {units : List (List Text)} {earlier choices : List LoadedResolutionChoice} :
    validateChoices current incoming itemNames conflicts units earlier choices = .ok () ↔
      (∀ loaded ∈ choices, validateChoice loaded current incoming conflicts units = .ok ()) ∧
        Separate itemNames choices ∧ ∀ loaded ∈ choices, ∀ other ∈ earlier,
          choicesOverlap loaded.choice.toChoiceFields other.choice.toChoiceFields itemNames =
            false := by
  induction choices generalizing earlier with
  | nil => simp [validateChoices, Separate]
  | cons first rest ih =>
    have hstep : validateChoices current incoming itemNames conflicts units earlier
        (first :: rest) = .ok () ↔
        validateChoice first current incoming conflicts units = .ok () ∧
          (∀ other ∈ earlier, choicesOverlap first.choice.toChoiceFields
            other.choice.toChoiceFields itemNames = false) ∧
              validateChoices current incoming itemNames conflicts units (earlier ++ [first])
                rest = .ok () := by
      rw [validateChoices, bind_eq_ok]
      constructor
      · rintro ⟨⟨⟩, hv, h⟩
        rw [reject_bind_eq_ok] at h
        exact ⟨hv, by simpa using h.1, h.2⟩
      · rintro ⟨hv, hno, h⟩
        refine ⟨(), hv, ?_⟩
        rw [reject_bind_eq_ok]
        exact ⟨by simpa using hno, h⟩
    have hcomm : ∀ other : LoadedResolutionChoice,
        choicesOverlap other.choice.toChoiceFields first.choice.toChoiceFields itemNames =
          choicesOverlap first.choice.toChoiceFields other.choice.toChoiceFields itemNames :=
      fun other => choicesOverlap_comm _ _
    rw [hstep, ih]
    simp only [Separate, List.pairwise_cons, List.mem_cons, List.mem_append,
      List.not_mem_nil, or_false, or_imp, forall_and, forall_eq, hcomm]
    tauto

/-- An added ancestor is a directory of the source of a choice, above the path chosen. -/
lemma ancestorFrom_eq_some {choices : List LoadedResolutionChoice} {path : Text}
    {entry : SkillTreeEntry} (h : ancestorFrom current incoming choices path = some entry) :
    ∃ loaded ∈ choices, ∃ source root, choiceSource current incoming loaded = some source ∧
      loaded.choice.path = some root ∧ path ∈ ancestors root ∧ source.get path = some entry ∧
        entry.kind = .directory := by
  obtain ⟨loaded, hmem, ha⟩ := List.exists_of_findSome?_eq_some h
  unfold ancestorAt at ha
  split at ha
  · rename_i source root hsource hroot
    split_ifs at ha with hcond
    obtain ⟨hget, hkind⟩ := Option.filter_eq_some_iff.mp ha
    exact ⟨loaded, hmem, source, root, hsource, hroot, hcond.2.2, hget, by simpa using hkind⟩
  · simp at ha

/-- The run behind a resolved tree. -/
lemma resolved_run [Sha256] {conflicts : List SkillMergeConflict}
    {choices : List LoadedResolutionChoice} {result : SkillMergeResult}
    {merged : SkillTreeManifest}
    (h : resolveDirectoryConflicts base current incoming itemNames conflicts choices = .ok result)
    (hm : result.merged = some merged) :
    Separate itemNames choices ∧
    (∀ conflict ∈ conflicts, ∃ loaded ∈ choices,
      covers loaded.choice.toChoiceFields conflict itemNames) ∧
    ∃ entries, choices.foldlM (applyChoice current incoming itemNames)
      (defaultEntries base current incoming) = .ok entries ∧
        ∀ path, merged.get path = entryAt entries path := by
  rw [resolveDirectoryConflicts, bind_eq_ok] at h
  obtain ⟨units, -, h⟩ := h
  rw [bind_eq_ok] at h
  obtain ⟨_, hvalid, h⟩ := h
  dsimp only at h
  split_ifs at h with hremaining
  · simp only [pure_eq_ok, Except.ok.injEq] at h
    subst h
    simp at hm
  · simp only [ne_eq, not_not, List.filter_eq_nil_iff, decide_not, Bool.not_eq_true',
      decide_eq_false_iff_not, not_not] at hremaining
    rw [bind_eq_ok] at h
    obtain ⟨entries, hrun, h⟩ := h
    refine ⟨(validateChoices_eq_ok.mp hvalid).2.1, hremaining, entries, hrun, ?_⟩
    cases hof : SkillTreeManifest.ofEntries (sortEntries entries) with
    | error e =>
      simp only [hof, pure_eq_ok, Except.ok.injEq] at h
      subst h
      simp at hm
    | ok manifest =>
      simp only [hof, pure_eq_ok, Except.ok.injEq] at h
      subst h
      simp only [Option.some.injEq] at hm
      subst hm
      have hentries := SkillTreeManifest.ofEntries_eq_ok.mp hof
      have hperm : manifest.entries.Perm entries := by
        rw [hentries]
        exact perm_sortEntries
      have hnd : (entries.map (·.path)).Nodup :=
        (hperm.map _).nodup_iff.mp manifest.nodup_paths
      exact fun path => lookup_perm hnd hperm path

/-- A resolved tree holds, in the scope of a choice, exactly what the choice selects.
Everywhere else no path was changed differently by both sides and the tree holds the
automatic value, completed only by ancestor directories of chosen paths that this value
lacks. -/
theorem resolveDirectoryConflicts_settles [Sha256] {report : SkillDirectoryMergeResult}
    {choices : List LoadedResolutionChoice} {result : SkillMergeResult}
    {merged : SkillTreeManifest}
    (hreport : mergeDirectoryManifests base current incoming itemNames = .ok report)
    (h : resolveDirectoryConflicts base current incoming itemNames report.conflicts choices =
      .ok result)
    (hm : result.merged = some merged) (path : Text) :
    (∀ loaded ∈ choices, inScope loaded.choice.toChoiceFields path itemNames →
      merged.get path = chosenAt current incoming loaded path) ∧
    ((∀ loaded ∈ choices, inScope loaded.choice.toChoiceFields path itemNames = false) →
      ∃ value, threeWay (base.get path) (current.get path) (incoming.get path) = some value ∧
        (value ≠ none → merged.get path = value) ∧
        (value = none → merged.get path = ancestorFrom current incoming choices path ∧
          ∀ entry, merged.get path = some entry → ∃ loaded ∈ choices, ∃ source root,
            choiceSource current incoming loaded = some source ∧
              loaded.choice.path = some root ∧ path ∈ ancestors root ∧
                source.get path = some entry ∧ entry.kind = .directory)) := by
  obtain ⟨hd, hcover, entries, hrun, hget⟩ := resolved_run h hm
  obtain ⟨hin, hout⟩ := entryAt_applyChoices hd hrun path
  refine ⟨fun loaded hmem hp => (hget path).trans (hin loaded hmem hp), fun hp => ?_⟩
  have hvalue : threeWay (base.get path) (current.get path) (incoming.get path) ≠ none := by
    intro hnone
    obtain ⟨conflict, hconflict, hs, hreason⟩ := exists_reported_conflict hreport hnone
    obtain ⟨loaded, hmem, hcovers⟩ := hcover conflict hconflict
    have := inScope_of_covers hcovers (fun root hroot => (loaded.choice.of_path hroot).1) hs hreason
    rw [hp loaded hmem] at this
    simp at this
  obtain ⟨value, hvalue⟩ := Option.ne_none_iff_exists'.mp hvalue
  have hmerged : merged.get path = value.or (ancestorFrom current incoming choices path) := by
    rw [hget path, hout hp, entryAt_defaultEntries, defaultAt_of_threeWay hvalue]
  refine ⟨value, hvalue, fun hsome => ?_, fun hnone => ?_⟩
  · obtain ⟨entry, rfl⟩ := Option.ne_none_iff_exists'.mp hsome
    rw [hmerged, Option.some_or]
  · subst hnone
    rw [Option.none_or] at hmerged
    refine ⟨hmerged, fun entry hentry => ancestorFrom_eq_some ?_⟩
    rw [← hmerged, hentry]

end

/-- A file that both sides edited, settled by taking the incoming side at its path. -/
theorem resolveDirectoryConflicts_settles_path :
    let forms := asciiForms
    let hash : Sha256 := ⟨fun _ => []⟩
    let base : SkillTreeManifest := ⟨memberEntries ['a'] 1, by decide⟩
    let current : SkillTreeManifest := ⟨memberEntries ['a'] 2, by decide⟩
    let incoming : SkillTreeManifest := ⟨memberEntries ['a'] 3, by decide⟩
    let choice : @SkillResolutionChoice forms :=
      @SkillResolutionChoice.mk forms { path := some "a/notes".toList, use := some .incoming }
        (by decide)
    let choices := [@LoadedResolutionChoice.mk forms choice none]
    ∃ report result merged,
      @mergeDirectoryManifests forms base current incoming [['a']] = .ok report ∧
        @resolveDirectoryConflicts forms hash base current incoming [['a']] report.conflicts
          choices = .ok result ∧
            result.merged = some merged ∧
              merged.get "a/notes".toList = incoming.get "a/notes".toList := by
  intro forms hash base current incoming choice choices
  have hrun : (((@mergeDirectoryManifests forms base current incoming [['a']]).toOption.bind
      fun report => (@resolveDirectoryConflicts forms hash base current incoming [['a']]
        report.conflicts choices).toOption).bind (·.merged)).isSome := by
    decide +kernel
  obtain ⟨merged, hrun⟩ := Option.isSome_iff_exists.mp hrun
  obtain ⟨result, hrun, hm⟩ := Option.bind_eq_some_iff.mp hrun
  obtain ⟨report, hreport, hresult⟩ := Option.bind_eq_some_iff.mp hrun
  have hreport := toOption_eq_some.mp hreport
  have hresult := toOption_eq_some.mp hresult
  refine ⟨report, result, merged, hreport, hresult, hm, ?_⟩
  have hsettles := @resolveDirectoryConflicts_settles forms base current incoming [['a']] hash
    report choices result merged hreport hresult hm "a/notes".toList
  exact (hsettles.1 _ (List.mem_singleton_self _) (by decide)).trans (by decide)

end AgentRemote
