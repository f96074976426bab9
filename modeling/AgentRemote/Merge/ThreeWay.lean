import AgentRemote.Manifest.Tree

/-!
# Three-way merge of one unit

`mergeManifests` compares two sides with their base path by path, after three shortcuts for
whole trees and a guard for opaque state. `mergeRule` is the same merge without shortcuts.
-/

namespace AgentRemote
open Library

inductive ConflictReason where
  | changedBoth
  | opaqueDivergence
  | invalidTree
  | sourceConflict
  deriving DecidableEq

structure SkillMergeConflict where
  path : Text
  reason : ConflictReason
  unit : List Text := []
  deriving DecidableEq

/-- A merged tree, or the conflicts that keep it from being published. -/
@[ext] structure SkillMergeResult where
  merged : Option SkillTreeManifest
  conflicts : List SkillMergeConflict
  deriving DecidableEq

def opaqueSuffixes : List Text :=
  [".db".toList, ".sqlite".toList, ".sqlite3".toList, "-wal".toList, "-shm".toList,
    "-journal".toList]

/-- A binary or database-like file. No character outside ASCII has a lower-case form that
ends in one of the suffixes, so lowering the ASCII letters decides the same names. -/
def isOpaque (entry : SkillTreeEntry) : Bool :=
  entry.kind = .file ∧ (entry.contentKind = .binary ∨
    ∃ suffix ∈ opaqueSuffixes, suffix <:+ (entry.path.split.getLastD []).map Char.toLower)

def paths (entries : List SkillTreeEntry) : List Text := entries.map (·.path)

/-- `_opaque_change`. -/
def opaqueChange (base branch : List SkillTreeEntry) : Bool :=
  (paths base ++ paths branch).any fun path =>
    entryAt base path ≠ entryAt branch path ∧
      ((entryAt base path).any isOpaque ∨ (entryAt branch path).any isOpaque)

/-- The value a merge selects at one path, absence included, or nothing when both sides
changed it differently. -/
def threeWay (old ours theirs : Option SkillTreeEntry) : Option (Option SkillTreeEntry) :=
  if ours = theirs ∨ theirs = old then some ours
  else if ours = old then some theirs
  else none

/-- All paths of three trees in the order of their bytes. -/
def sortedPaths (base current incoming : List SkillTreeEntry) : List Text :=
  (paths base ++ paths current ++ paths incoming).dedup.insertionSort
    fun a b => a.encode ≤ b.encode

def threeWayAt (base current incoming : List SkillTreeEntry) (path : Text) :
    Option (Option SkillTreeEntry) :=
  threeWay (entryAt base path) (entryAt current path) (entryAt incoming path)

/-- The selected entries. -/
def combine (base current incoming : List SkillTreeEntry) : List SkillTreeEntry :=
  (sortedPaths base current incoming).filterMap fun path =>
    (threeWayAt base current incoming path).join

/-- The conflicts of paths that both sides changed differently. -/
def changedBoth (base current incoming : List SkillTreeEntry) : List SkillMergeConflict :=
  ((sortedPaths base current incoming).filter fun path =>
    threeWayAt base current incoming path = none).map fun path => ⟨path, .changedBoth, []⟩

def opaqueConflict : SkillMergeConflict := ⟨['.'], .opaqueDivergence, []⟩

def invalidConflict : SkillMergeConflict := ⟨['.'], .invalidTree, []⟩

def mergeManifests (base current incoming : SkillTreeManifest) : SkillMergeResult :=
  if current = incoming ∨ incoming = base then ⟨some current, []⟩
  else if current = base then ⟨some incoming, []⟩
  else if opaqueChange base.entries current.entries ∨
      opaqueChange base.entries incoming.entries then ⟨none, [opaqueConflict]⟩
  else if changedBoth base.entries current.entries incoming.entries ≠ [] then
    ⟨none, changedBoth base.entries current.entries incoming.entries⟩
  else
    match SkillTreeManifest.ofEntries
        (combine base.entries current.entries incoming.entries) with
    | .ok manifest => ⟨some manifest, []⟩
    | .error _ => ⟨none, [invalidConflict]⟩

/-! ### The value at one path -/

section

variable {old ours theirs : Option SkillTreeEntry}

/-- The three cases of the rule, as equations between the sides. -/
lemma threeWay_eq_some_iff {value : Option SkillTreeEntry} :
    threeWay old ours theirs = some value ↔
      (ours = theirs ∨ theirs = old) ∧ value = ours ∨
        ¬(ours = theirs ∨ theirs = old) ∧ ours = old ∧ value = theirs := by
  unfold threeWay
  split_ifs with h h'
  · simp only [Option.some.injEq, h, true_and, not_true_eq_false, false_and, or_false]
    exact eq_comm
  · subst h'
    simp only [Option.some.injEq, h, not_false_eq_true, true_and, false_and, false_or]
    exact eq_comm
  · simp [h, h']

lemma threeWay_eq_none_iff :
    threeWay old ours theirs = none ↔ ours ≠ theirs ∧ theirs ≠ old ∧ ours ≠ old := by
  unfold threeWay
  split_ifs with h h'
  · simp only [false_iff, not_and]
    exact fun h₁ h₂ => (h.elim h₁ h₂).elim
  · simp [h']
  · simp only [not_or] at h
    simp [h, h']

@[simp] lemma threeWay_none : threeWay none none none = some none := rfl

/-- A selected entry comes from one of the sides. -/
lemma eq_or_of_threeWay {entry : SkillTreeEntry}
    (h : (threeWay old ours theirs).join = some entry) :
    ours = some entry ∨ theirs = some entry := by
  cases hv : threeWay old ours theirs with
  | none => simp [hv] at h
  | some value =>
    rw [hv, Option.join_some] at h
    subst h
    rcases threeWay_eq_some_iff.mp hv with ⟨-, h⟩ | ⟨-, -, h⟩
    · exact .inl h.symm
    · exact .inr h.symm

end

/-! ### The paths and the combination -/

section

variable {base current incoming : List SkillTreeEntry}

lemma mem_paths {entries : List SkillTreeEntry} {path : Text} :
    path ∈ paths entries ↔ (entryAt entries path).isSome := by
  simp [paths, lookup_isSome_iff]

lemma mem_sortedPaths {path : Text} :
    path ∈ sortedPaths base current incoming ↔
      (entryAt base path).isSome ∨ (entryAt current path).isSome ∨
        (entryAt incoming path).isSome := by
  rw [sortedPaths, (List.perm_insertionSort _ _).mem_iff, List.mem_dedup, List.mem_append,
    List.mem_append, mem_paths, mem_paths, mem_paths, or_assoc]

lemma sorted_sortedPaths :
    (sortedPaths base current incoming).Pairwise fun a b => a.encode < b.encode := by
  have htotal : Std.Total fun a b : Text => a.encode ≤ b.encode := ⟨fun a b => le_total _ _⟩
  have htrans : IsTrans Text fun a b => a.encode ≤ b.encode := ⟨fun _ _ _ => le_trans⟩
  have hle := List.pairwise_insertionSort (fun a b : Text => a.encode ≤ b.encode)
    (paths base ++ paths current ++ paths incoming).dedup
  have hne : (sortedPaths base current incoming).Nodup :=
    (List.perm_insertionSort _ _).nodup_iff.mpr (List.nodup_dedup _)
  refine (hle.and hne).imp fun h => lt_of_le_of_ne h.1 fun he => h.2 (Text.encode_injective he)

lemma path_of_threeWayAt {path : Text} {entry : SkillTreeEntry}
    (h : (threeWayAt base current incoming path).join = some entry) : entry.path = path := by
  rcases eq_or_of_threeWay h with h | h <;> exact key_of_lookup h

/-- The combination holds the selected value at every path. -/
theorem entryAt_combine (path : Text) :
    entryAt (combine base current incoming) path =
      (threeWayAt base current incoming path).join := by
  rw [combine, entryAt, lookup_filterMap fun _ _ => path_of_threeWayAt]
  split_ifs with h
  · rfl
  · rw [mem_sortedPaths] at h
    simp only [not_or, Option.not_isSome_iff_eq_none] at h
    rw [threeWayAt, h.1, h.2.1, h.2.2]
    rfl

lemma sorted_combine : (combine base current incoming).Pairwise
    fun a b => a.path.encode < b.path.encode := by
  rw [combine, List.pairwise_filterMap]
  refine sorted_sortedPaths.imp fun hlt a ha b hb => ?_
  rwa [path_of_threeWayAt ha, path_of_threeWayAt hb]

lemma mem_or_of_mem_combine {entry : SkillTreeEntry} (h : entry ∈ combine base current incoming) :
    entry ∈ current ∨ entry ∈ incoming := by
  obtain ⟨path, -, hp⟩ := List.mem_filterMap.mp h
  rcases eq_or_of_threeWay hp with h | h
  · exact .inl (mem_of_lookup h)
  · exact .inr (mem_of_lookup h)

lemma changedBoth_eq_nil_iff : changedBoth base current incoming = [] ↔
    ∀ path, threeWayAt base current incoming path ≠ none := by
  simp only [changedBoth, List.map_eq_nil_iff, List.filter_eq_nil_iff, decide_eq_true_eq]
  constructor
  · intro h path
    by_cases hp : path ∈ sortedPaths base current incoming
    · exact h path hp
    · rw [mem_sortedPaths] at hp
      simp only [not_or, Option.not_isSome_iff_eq_none] at hp
      rw [threeWayAt, hp.1, hp.2.1, hp.2.2]
      simp
  · exact fun h path _ => h path

/-- A list sorted by its paths that agrees with the rule everywhere is the combination. -/
lemma combine_eq_of_entryAt {entries : List SkillTreeEntry}
    (hs : entries.Pairwise fun a b => a.path.encode < b.path.encode)
    (h : ∀ path, threeWayAt base current incoming path = some (entryAt entries path)) :
    combine base current incoming = entries := by
  refine eq_of_lookup_eq sorted_combine hs fun path => ?_
  have := @entryAt_combine base current incoming path
  rw [h, Option.join_some] at this
  exact this

end

/-! ### The merge without shortcuts -/

/-- No two of the three trees are equal. -/
def Diverged (base current incoming : List SkillTreeEntry) : Prop :=
  current ≠ incoming ∧ incoming ≠ base ∧ current ≠ base

instance (base current incoming : List SkillTreeEntry) :
    Decidable (Diverged base current incoming) :=
  inferInstanceAs (Decidable (_ ∧ _))

/-- One side changed a binary or database-like file. -/
def OpaqueDivergence (base current incoming : List SkillTreeEntry) : Prop :=
  Diverged base current incoming ∧ (opaqueChange base current ∨ opaqueChange base incoming)

instance (base current incoming : List SkillTreeEntry) :
    Decidable (OpaqueDivergence base current incoming) :=
  inferInstanceAs (Decidable (_ ∧ _))

def mergeRule (base current incoming : List SkillTreeEntry) : SkillMergeResult :=
  if OpaqueDivergence base current incoming then ⟨none, [opaqueConflict]⟩
  else if changedBoth base current incoming ≠ [] then ⟨none, changedBoth base current incoming⟩
  else
    match SkillTreeManifest.ofEntries (combine base current incoming) with
    | .ok manifest => ⟨some manifest, []⟩
    | .error _ => ⟨none, [invalidConflict]⟩

/-- When the rule selects a whole valid tree, it merges to that tree. -/
lemma mergeRule_of_selected {base current incoming : List SkillTreeEntry}
    {manifest : SkillTreeManifest} (hd : ¬Diverged base current incoming)
    (h : ∀ path, threeWayAt base current incoming path = some (manifest.get path)) :
    mergeRule base current incoming = ⟨some manifest, []⟩ := by
  have hopaque : ¬OpaqueDivergence base current incoming := fun ho => hd ho.1
  have hchanged : changedBoth base current incoming = [] :=
    changedBoth_eq_nil_iff.mpr fun path => by rw [h]; simp
  have hcombine := combine_eq_of_entryAt manifest.rules.sorted h
  have hok : SkillTreeManifest.ofEntries manifest.entries = .ok manifest :=
    SkillTreeManifest.ofEntries_eq_ok.mpr rfl
  simp only [mergeRule, hopaque, hchanged, hcombine, hok, ne_eq, not_true_eq_false, if_false]

/-- The shortcuts agree with the rule at every path. -/
theorem mergeManifests_eq (base current incoming : SkillTreeManifest) :
    mergeManifests base current incoming =
      mergeRule base.entries current.entries incoming.entries := by
  unfold mergeManifests
  by_cases h : current = incoming ∨ incoming = base
  · rw [if_pos h, mergeRule_of_selected]
    · rcases h with rfl | rfl
      · exact fun hd => hd.1 rfl
      · exact fun hd => hd.2.1 rfl
    · intro path
      rw [threeWayAt, threeWay, if_pos]
      rcases h with rfl | rfl
      · exact .inl rfl
      · exact .inr rfl
  rw [if_neg h]
  by_cases h' : current = base
  · subst h'
    rw [if_pos rfl, mergeRule_of_selected fun hd => hd.2.2 rfl]
    intro path
    rw [threeWayAt, threeWay_eq_some_iff]
    by_cases hp : current.get path = incoming.get path
    · exact .inl ⟨.inl hp, hp.symm⟩
    · exact .inr ⟨fun h => h.elim hp fun h => hp h.symm, rfl, rfl⟩
  · have hd : Diverged base.entries current.entries incoming.entries := by
      simp only [not_or, SkillTreeManifest.ext_iff] at h h'
      exact ⟨h.1, h.2, h'⟩
    rw [if_neg h']
    simp only [mergeRule, OpaqueDivergence, hd, true_and]

section

variable {base current incoming : List SkillTreeEntry}

/-- What a merge without conflicts has ruled out. -/
lemma mergeRule_conflicts_eq_nil_iff :
    (mergeRule base current incoming).conflicts = [] ↔
      ¬OpaqueDivergence base current incoming ∧
        (∀ path, threeWayAt base current incoming path ≠ none) ∧
          TreeRules (combine base current incoming) := by
  rw [← changedBoth_eq_nil_iff]
  unfold mergeRule
  split_ifs with ho hc
  · simp [ho]
  · simp [hc]
  · simp only [ne_eq, not_not] at hc
    cases hm : SkillTreeManifest.ofEntries (combine base current incoming) with
    | ok manifest =>
      have := manifest.rules
      rw [SkillTreeManifest.ofEntries_eq_ok.mp hm] at this
      simp [ho, hc, this]
    | error e =>
      have := SkillTreeManifest.ofEntries_error_iff.mp ⟨e, hm⟩
      simp [ho, hc, this]

lemma mergeRule_merged_of_conflicts (h : (mergeRule base current incoming).conflicts = []) :
    (mergeRule base current incoming).merged.map (·.entries) =
      some (combine base current incoming) := by
  obtain ⟨ho, hc, hr⟩ := mergeRule_conflicts_eq_nil_iff.mp h
  have hok := SkillTreeManifest.ofEntries_of_rules hr
  rw [← changedBoth_eq_nil_iff] at hc
  simp [mergeRule, ho, hc, hok]

end

end AgentRemote
