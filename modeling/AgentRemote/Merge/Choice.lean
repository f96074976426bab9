import AgentRemote.Merge.Directory

/-!
# Choices that resolve a conflict

One choice takes a side, a single file or a whole supplied directory for a path, a unit or
the complete tree. This file has the rules of a choice, the paths in its scope and when two
choices overlap. Choices that do not overlap have disjoint scopes.
-/

namespace AgentRemote
open Library

inductive Side where
  | current
  | incoming
  deriving DecidableEq

/-- The fields of a choice as they arrive. -/
structure ChoiceFields where
  path : Option Text := none
  unit : List Text := []
  use : Option Side := none
  fileTreeDigest : Option Text := none
  directoryTreeDigest : Option Text := none

def checkUnitNames [UnicodeForms] : List Text → Except String Unit
  | [] => .ok ()
  | name :: rest => do
    if name ≠ auxiliaryScope then
      validateRelativePath name
      reject ('/' ∈ name) "unit members must be top-level identities"
    checkUnitNames rest

namespace ChoiceFields

/-- How many ways of resolving the choice names. -/
def methods (c : ChoiceFields) : ℕ :=
  c.use.isSome.toNat + c.fileTreeDigest.isSome.toNat + c.directoryTreeDigest.isSome.toNat

def validateScope [UnicodeForms] (c : ChoiceFields) : Except String Unit :=
  match c.path with
  | some path => do
    validateRelativePath path
    reject (c.unit ≠ [] ∨ c.directoryTreeDigest.isSome)
      "path cannot be combined with a unit or directory"
  | none => reject c.fileTreeDigest.isSome "file choice requires a conflict path"

/-- The field patterns and `validate_choice`. -/
def validate [UnicodeForms] (c : ChoiceFields) : Except String Unit := do
  reject (4096 < (c.path.getD []).length) "path is too long"
  reject (∃ digest ∈ c.fileTreeDigest, isDigest digest = false) "file digest does not match"
  reject (∃ digest ∈ c.directoryTreeDigest, isDigest digest = false)
    "directory digest does not match"
  reject (c.methods ≠ 1) "choose exactly one side, file or directory"
  c.validateScope
  reject (¬c.unit.Nodup ∨ c.unit.insertionSort (· ≤ ·) ≠ c.unit)
    "unit scopes must be unique and sorted"
  checkUnitNames c.unit

def whole (c : ChoiceFields) : Bool := c.path = none ∧ c.unit = []

def treeDigest (c : ChoiceFields) : Option Text := c.fileTreeDigest.or c.directoryTreeDigest

end ChoiceFields

/-- A choice that passed its rules. -/
structure SkillResolutionChoice [UnicodeForms] extends ChoiceFields where
  accepted : toChoiceFields.validate = .ok ()

/-- A choice with the tree it refers to. -/
structure LoadedResolutionChoice [UnicodeForms] where
  choice : SkillResolutionChoice
  tree : Option SkillTreeManifest

/-- `_descendant`: the path itself or a path below it. -/
def descendant (path parent : Text) : Bool :=
  path = parent ∨ parent ++ ['/'] <+: path

/-- `_in_scope`. -/
def inScope (c : ChoiceFields) (path : Text) (itemNames : List Text) : Bool :=
  if c.whole then true
  else
    match c.path with
    | some parent => descendant path parent
    | none => scope itemNames path ∈ c.unit

def choicesOverlap (left right : ChoiceFields) (itemNames : List Text) : Bool :=
  if left.whole ∨ right.whole then true
  else
    match left.path, right.path with
    | some l, some r => descendant l r ∨ descendant r l
    | some l, none => inScope right l itemNames
    | none, some r => inScope left r itemNames
    | none, none => ∃ s ∈ left.unit, s ∈ right.unit

/-- `_covers`. -/
def covers (c : ChoiceFields) (conflict : SkillMergeConflict) (itemNames : List Text) : Bool :=
  if c.whole then true
  else if c.unit ≠ [] then conflict.unit ≠ [] ∧ ∀ s ∈ conflict.unit, s ∈ c.unit
  else if conflict.reason = .opaqueDivergence ∨ conflict.reason = .invalidTree then false
  else inScope c conflict.path itemNames

/-- A file choice replaces an ordinary file of both sides by one ordinary file. -/
def validateFileChoice (path : Text) (tree : Option SkillTreeManifest)
    (current incoming : SkillTreeManifest) (found : List SkillMergeConflict) :
    Except String Unit := do
  reject (∃ conflict ∈ found, conflict.reason = .sourceConflict)
    "a file cannot resolve source identity"
  reject (¬((current.get path).any (·.kind = .file) ∧ (incoming.get path).any (·.kind = .file)))
    "file choice is only valid for ordinary file content conflicts"
  reject (¬tree.any fun t => t.entries.length = 1 ∧ t.entries.all (·.kind = .file))
    "file choice requires exactly one ordinary file"

/-- `_validate_choice`. -/
def validateChoice [UnicodeForms] [Sha256] (loaded : LoadedResolutionChoice)
    (current incoming : SkillTreeManifest) (conflicts : List SkillMergeConflict)
    (units : List (List Text)) : Except String Unit := do
  let choice := loaded.choice.toChoiceFields
  reject (choice.treeDigest.isNone ≠ loaded.tree.isNone)
    "resolution content does not match its declared method"
  reject (∃ tree ∈ loaded.tree, some (manifestDigest tree) ≠ choice.treeDigest)
    "loaded resolution content differs from its digest"
  reject (choice.unit ≠ [] ∧ (choice.unit ∉ units ∨
      ¬∃ conflict ∈ conflicts, conflict.unit ≠ [] ∧ ∀ s ∈ conflict.unit, s ∈ choice.unit))
    "choice does not select a complete conflicting unit"
  match choice.path with
  | none => return
  | some path =>
    let root := if path.top ∈ units.flatten then path.top else auxiliaryScope
    reject (∃ conflict ∈ conflicts, conflict.reason = .opaqueDivergence ∧ root ∈ conflict.unit)
      "opaque state requires a complete unit choice"
    let found := conflicts.filter (·.path = path)
    reject (found = [] ∨ ∃ conflict ∈ found,
        conflict.reason = .opaqueDivergence ∨ conflict.reason = .invalidTree)
      "path is not an independently resolvable conflict"
    if choice.fileTreeDigest.isSome then
      validateFileChoice path loaded.tree current incoming found

/-- The fields that a path excludes. -/
lemma SkillResolutionChoice.of_path [UnicodeForms] (choice : SkillResolutionChoice) {root : Text}
    (h : choice.path = some root) : choice.unit = [] ∧ choice.directoryTreeDigest = none := by
  have ha := choice.accepted
  rw [ChoiceFields.validate, reject_bind_eq_ok, reject_bind_eq_ok, reject_bind_eq_ok,
    reject_bind_eq_ok, bind_eq_ok] at ha
  obtain ⟨-, -, -, -, _, hscope, -⟩ := ha
  simp only [ChoiceFields.validateScope, h, bind_eq_ok, reject_eq_ok, not_or, not_not] at hscope
  obtain ⟨_, -, hunit, hdigest⟩ := hscope
  exact ⟨hunit, by simpa using hdigest⟩

/-- A choice of a side brings no tree of its own. -/
lemma SkillResolutionChoice.of_use [UnicodeForms] (choice : SkillResolutionChoice)
    (h : choice.use.isSome) : choice.treeDigest = none := by
  have ha := choice.accepted
  rw [ChoiceFields.validate, reject_bind_eq_ok, reject_bind_eq_ok, reject_bind_eq_ok,
    reject_bind_eq_ok, ne_eq, not_not, ChoiceFields.methods] at ha
  obtain ⟨-, -, -, hmethods, -⟩ := ha
  rw [h, Bool.toNat_true] at hmethods
  cases hf : choice.fileTreeDigest with
  | some digest =>
    rw [hf, Option.isSome_some, Bool.toNat_true] at hmethods
    omega
  | none =>
    cases hd : choice.directoryTreeDigest with
    | some digest => simp [hd] at hmethods
    | none => simp [ChoiceFields.treeDigest, hf, hd]

/-! ### Scopes -/

section

variable {c left right : ChoiceFields} {itemNames : List Text} {path parent : Text}

lemma descendant_iff : descendant path parent ↔ path = parent ∨ ∃ rest, path = parent ++ '/' :: rest := by
  simp only [descendant, decide_eq_true_eq]
  refine or_congr_right ⟨?_, ?_⟩
  · rintro ⟨rest, rfl⟩
    exact ⟨rest, by simp⟩
  · rintro ⟨rest, rfl⟩
    exact ⟨rest, by simp⟩

lemma scope_of_descendant (h : descendant path parent) :
    scope itemNames path = scope itemNames parent := by
  rcases descendant_iff.mp h with rfl | ⟨rest, rfl⟩
  · rfl
  · exact scope_congr (Text.top_append_slash parent rest)

/-- Two paths with a common descendant are comparable. -/
lemma descendant_or_descendant {l r : Text} (hl : descendant path l) (hr : descendant path r) :
    descendant l r ∨ descendant r l := by
  have key : ∀ {a b : Text}, a ++ ['/'] <+: path → (b = path ∨ b ++ ['/'] <+: path) →
      a.length < b.length → descendant b a := by
    intro a b ha hb hlen
    have hbp : b <+: path := by
      rcases hb with rfl | hb
      · exact List.prefix_refl _
      · exact (List.prefix_append b ['/']).trans hb
    have : a ++ ['/'] <+: b := List.prefix_of_prefix_length_le ha hbp (by simp; omega)
    simp [descendant, this]
  simp only [descendant, decide_eq_true_eq] at hl hr
  rcases hl with rfl | hl
  · rcases hr with rfl | hr
    · exact .inl (by simp [descendant])
    · exact .inl (by simp [descendant, hr])
  · rcases hr with rfl | hr
    · exact .inr (by simp [descendant, hl])
    · rcases lt_trichotomy l.length r.length with h | h | h
      · exact .inr (key hl (.inr hr) h)
      · have hlp := (List.prefix_append l ['/']).trans hl
        have hrp := (List.prefix_append r ['/']).trans hr
        have heq := (List.prefix_of_prefix_length_le hlp hrp h.le).eq_of_length h
        exact .inl (by simp [descendant, heq])
      · exact .inl (key hr (.inr hl) h)

lemma inScope_of_path (h : c.path = some parent) :
    inScope c path itemNames = descendant path parent := by
  simp [inScope, ChoiceFields.whole, h]

lemma inScope_of_unit (h : c.path = none) (hu : c.unit ≠ []) :
    inScope c path itemNames = decide (scope itemNames path ∈ c.unit) := by
  simp [inScope, ChoiceFields.whole, h, hu]

/-- Choices that do not overlap have no path in common. -/
theorem not_inScope_of_not_overlap (h : choicesOverlap left right itemNames = false)
    (hl : inScope left path itemNames) : inScope right path itemNames = false := by
  unfold choicesOverlap at h
  split_ifs at h with hw
  simp only [not_or, Bool.not_eq_true] at hw
  by_contra hr
  rw [Bool.not_eq_false] at hr
  cases hlp : left.path with
  | some l =>
    rw [inScope_of_path hlp] at hl
    cases hrp : right.path with
    | some r =>
      rw [inScope_of_path hrp] at hr
      simp only [hlp, hrp, decide_eq_false_iff_not] at h
      exact h (descendant_or_descendant hl hr)
    | none =>
      have hu : right.unit ≠ [] := fun hu => by simp [ChoiceFields.whole, hrp, hu] at hw
      rw [inScope_of_unit hrp hu, scope_of_descendant hl] at hr
      simp only [hlp, hrp, inScope_of_unit hrp hu] at h
      exact absurd hr (by simp [h])
  | none =>
    have hu : left.unit ≠ [] := fun hu => by simp [ChoiceFields.whole, hlp, hu] at hw
    rw [inScope_of_unit hlp hu] at hl
    cases hrp : right.path with
    | some r =>
      rw [inScope_of_path hrp] at hr
      rw [scope_of_descendant hr] at hl
      simp only [hlp, hrp, inScope_of_unit hlp hu] at h
      exact absurd hl (by simp [h])
    | none =>
      have hur : right.unit ≠ [] := fun hu => by simp [ChoiceFields.whole, hrp, hu] at hw
      rw [inScope_of_unit hrp hur] at hr
      simp only [hlp, hrp, decide_eq_false_iff_not] at h
      exact h ⟨_, of_decide_eq_true hl, of_decide_eq_true hr⟩

lemma not_inScope_of_mem_ancestors {root : Text} (h : c.path = some root)
    (hp : path ∈ ancestors root) : inScope c path itemNames = false := by
  rw [inScope_of_path h, ← Bool.not_eq_true, descendant_iff]
  obtain ⟨rest, hrest⟩ := exists_append_of_mem_ancestors hp
  rintro (rfl | ⟨rest', hrest'⟩)
  · simpa using congrArg List.length hrest
  · have := congrArg List.length hrest
    have := congrArg List.length hrest'
    simp only [List.length_append, List.length_cons] at *
    omega

/-- A covered path conflict lies in the scope of the choice that covers it. -/
lemma inScope_of_covers {conflict : SkillMergeConflict} (h : covers c conflict itemNames)
    (hc : ∀ root, c.path = some root → c.unit = []) (hs : scope itemNames path ∈ conflict.unit)
    (hp : conflict.reason = .opaqueDivergence ∨ conflict.reason = .invalidTree ∨
      conflict.path = path) : inScope c path itemNames := by
  unfold covers at h
  split_ifs at h with hw hu hr
  · simp [inScope, hw]
  · have hmem : scope itemNames path ∈ c.unit := (of_decide_eq_true h).2 _ hs
    unfold inScope
    rw [if_neg hw]
    cases hpath : c.path with
    | none => simpa using hmem
    | some parent => exact absurd (hc parent hpath) hu
  · rcases hp with hp | hp | rfl
    · exact absurd (.inl hp) hr
    · exact absurd (.inr hp) hr
    · exact h

end

end AgentRemote
