import AgentRemote.Manifest.Forms
import AgentRemote.Merge.Choice

/-!
# Composition of a session directory

`composeDirectory` keeps what the members of a directory do not own and places the selected
subtrees under their names. A tree without a prefix is moved below its name by a copy that is
not validated again, so a moved path can outgrow the limit that every stored path obeys.
-/

namespace AgentRemote
open Library

/-- A failure of the composition, or the refusal of the entry model, which is not converted. -/
inductive CompositionError where
  | materialization (code message : String)
  | validation (message : String)

/-- The complete tree of one checkpoint and its original top-level prefix. -/
structure SkillSubtree where
  name : Text
  subtreePrefix : Text
  tree : SkillTreeManifest

/-- Names that never belong to the state of a user. -/
def systemNames : List Text := ["ego-browser".toList, "agent-remote-device".toList]

/-- `SkillTreeEntry(..)`. -/
def SkillTreeEntry.create [UnicodeForms] (entry : SkillTreeEntry) : Except String SkillTreeEntry := do
  entry.validateFields
  entry.validateShape
  return entry

/-- `entry.model_copy(update={"path": name + "/" + entry.path})`. -/
def SkillTreeEntry.relocate (name : Text) (entry : SkillTreeEntry) : SkillTreeEntry :=
  { entry with path := name ++ '/' :: entry.path }

@[simp] lemma SkillTreeEntry.relocate_path (name : Text) (entry : SkillTreeEntry) :
    (entry.relocate name).path = name ++ '/' :: entry.path := rfl

@[simp] lemma SkillTreeEntry.directory_path (path : Text) :
    (SkillTreeEntry.directory path).path = path := rfl

namespace SkillSubtree

/-- The entries below the prefix. -/
def subtree (item : SkillSubtree) : List SkillTreeEntry :=
  item.tree.entries.filter fun e => descendant e.path item.subtreePrefix

/-- The prefix is missing or no directory. -/
def Missing (item : SkillSubtree) : Prop :=
  ¬item.subtree.head?.any fun e => e.path = item.subtreePrefix ∧ e.kind = .directory

instance (item : SkillSubtree) : Decidable item.Missing := inferInstanceAs (Decidable (¬_))

/-- `selected`: the subtree under its own name, or the whole tree below a new directory. -/
def selected [UnicodeForms] (item : SkillSubtree) : Except CompositionError (List SkillTreeEntry) :=
  if item.subtreePrefix ≠ [] then do
    reject (item.subtreePrefix ≠ item.name)
      (.materialization "STATE_SCOPE_MISMATCH" "checkpoint name requires explicit migration")
    reject item.Missing (.materialization "STATE_SCOPE_MISMATCH" "checkpoint subtree is missing")
    return item.subtree
  else do
    let root ← (SkillTreeEntry.directory item.name).create.mapError .validation
    return root :: item.tree.entries.map (·.relocate item.name)

/-- The entries of an item, placed under its name. -/
def placed (item : SkillSubtree) : List SkillTreeEntry :=
  if item.subtreePrefix ≠ [] then item.subtree
  else .directory item.name :: item.tree.entries.map (·.relocate item.name)

end SkillSubtree

/-- The loop variables of the composition. -/
structure Composition where
  entries : List SkillTreeEntry
  occupied : List Text

def composeItem [UnicodeForms] (itemByteLimit : ℤ) (s : Composition) (item : SkillSubtree) :
    Except CompositionError Composition := do
  reject (item.name = [] ∨ '/' ∈ item.name ∨ item.name ∈ systemNames)
    (.materialization "STATE_SCOPE_MISMATCH" "invalid managed entry name")
  reject (item.name ∈ s.occupied)
    (.materialization "STATE_SCOPE_MISMATCH" "entry collides with retained directory data")
  let selected ← item.selected
  reject (itemByteLimit < totalBytes selected)
    (.materialization "QUOTA_EXCEEDED" "skill checkpoint exceeds its byte quota")
  return ⟨s.entries ++ selected, s.occupied ++ [item.name]⟩

/-- The entries that no member owns. -/
def retainedEntries (directory : SkillTreeManifest) (memberNames : List Text) :
    List SkillTreeEntry :=
  directory.entries.filter fun e => e.path.top ∉ memberNames

/-- The last checks: no system name, and a valid tree. -/
def finishComposition (entries : List SkillTreeEntry) : Except CompositionError SkillTreeManifest := do
  reject (∃ e ∈ entries, e.path.top ∈ systemNames)
    (.materialization "STATE_SCOPE_MISMATCH" "system skills cannot enter user state")
  match SkillTreeManifest.ofEntries (sortEntries entries) with
  | .ok manifest => return manifest
  | .error _ => throw (.materialization "STATE_DEPENDENCY_MISSING"
      "selected state has missing or incompatible dependencies")

def composeDirectory [UnicodeForms] (directory : SkillTreeManifest) (memberNames : List Text)
    (items : List SkillSubtree) (itemByteLimit : ℤ) : Except CompositionError SkillTreeManifest := do
  let entries := retainedEntries directory memberNames
  reject (itemByteLimit < totalBytes entries)
    (.materialization "QUOTA_EXCEEDED" "root auxiliary state exceeds its byte quota")
  let s ← items.foldlM (composeItem itemByteLimit) ⟨entries, entries.map (·.path.top)⟩
  finishComposition s.entries

/-- `SkillTreeManifest.model_validate` of a serialized manifest: every entry again, then the
tree. -/
def modelValidate [UnicodeForms] (entries : List SkillTreeEntry) : Except String SkillTreeManifest := do
  let entries ← entries.mapM SkillTreeEntry.create
  SkillTreeManifest.ofEntries entries

/-! ### What a composition promises -/

/-- All entries that the composition takes from its inputs. -/
def sourceEntries (directory : SkillTreeManifest) (memberNames : List Text)
    (items : List SkillSubtree) : List SkillTreeEntry :=
  retainedEntries directory memberNames ++ items.flatMap (·.placed)

/-- The tree holds exactly the retained entries and those of the items, each source under
top-level names of its own, and is valid from the fields up. -/
structure Composed [UnicodeForms] (directory : SkillTreeManifest) (memberNames : List Text)
    (items : List SkillSubtree) (result : SkillTreeManifest) : Prop where
  entries : result.entries.Perm (sourceEntries directory memberNames items)
  under : ∀ item ∈ items, ∀ e ∈ item.placed, e.path.top = item.name
  separate : (items.map (·.name)).Nodup ∧
    ∀ e ∈ retainedEntries directory memberNames, ∀ item ∈ items, e.path.top ≠ item.name
  members : ∀ e ∈ result.entries, e.path.top ∈ memberNames → ∃ item ∈ items, item.name = e.path.top
  revalidated : modelValidate result.entries = .ok result

/-- A returned tree is composed, and every other outcome is a failure of the composition. -/
def ComposesOrFails [UnicodeForms] (directory : SkillTreeManifest) (memberNames : List Text)
    (items : List SkillSubtree) (itemByteLimit : ℤ) : Prop :=
  (∀ result, composeDirectory directory memberNames items itemByteLimit = .ok result →
    Composed directory memberNames items result) ∧
  ∀ error, composeDirectory directory memberNames items itemByteLimit = .error error →
    ∃ code message, error = .materialization code message

/-! ### When an item is refused -/

namespace SkillSubtree

variable [UnicodeForms]

/-- A new directory can take the name of the item. -/
def NameFits (item : SkillSubtree) : Prop :=
  item.subtreePrefix = [] → validateRelativePath item.name = .ok ()

/-- The reasons to refuse one item, beside the names that are taken. -/
def Refused (itemByteLimit : ℤ) (occupied : List Text) (item : SkillSubtree) : Prop :=
  (item.name = [] ∨ '/' ∈ item.name ∨ item.name ∈ systemNames) ∨ item.name ∈ occupied ∨
    (item.subtreePrefix ≠ [] ∧ (item.subtreePrefix ≠ item.name ∨ item.Missing)) ∨
      item.NameFits ∧ itemByteLimit < totalBytes item.placed

/-- Every path that the item moves below its name fits the limit of a path. -/
def Fits (item : SkillSubtree) : Prop :=
  item.NameFits ∧ (item.subtreePrefix = [] → ∀ e ∈ item.tree.entries,
    (e.relocate item.name).path.encode.length ≤ 4096)

end SkillSubtree

section

variable [UnicodeForms] {itemByteLimit : ℤ} {occupied : List Text} {item : SkillSubtree}
  {items : List SkillSubtree} {s : Composition}

/-- An item that the run refuses at its turn: the items before it have names that fit. -/
def RefusedItem (itemByteLimit : ℤ) (occupied : List Text) (items : List SkillSubtree) : Prop :=
  ∃ before item after, items = before ++ item :: after ∧
    item.Refused itemByteLimit (occupied ++ before.map (·.name)) ∧
      ∀ earlier ∈ before, earlier.NameFits

lemma refusedItem_cons : RefusedItem itemByteLimit occupied (item :: items) ↔
    item.Refused itemByteLimit occupied ∨
      item.NameFits ∧ RefusedItem itemByteLimit (occupied ++ [item.name]) items := by
  constructor
  · rintro ⟨before, refused, after, heq, hrefused, hfits⟩
    cases before with
    | nil =>
      rw [List.nil_append, List.cons.injEq] at heq
      obtain ⟨rfl, -⟩ := heq
      exact .inl (by simpa using hrefused)
    | cons first before =>
      rw [List.cons_append, List.cons.injEq] at heq
      obtain ⟨rfl, rfl⟩ := heq
      refine .inr ⟨hfits item List.mem_cons_self, before, refused, after, rfl, ?_, ?_⟩
      · simpa using hrefused
      · exact fun earlier he => hfits earlier (List.mem_cons_of_mem _ he)
  · rintro (hrefused | ⟨hfit, before, refused, after, rfl, hrefused, hfits⟩)
    · exact ⟨[], item, items, rfl, by simpa using hrefused, by simp⟩
    · refine ⟨item :: before, refused, after, rfl, by simpa using hrefused, ?_⟩
      intro earlier he
      rcases List.mem_cons.mp he with rfl | he
      · exact hfit
      · exact hfits earlier he

/-- A new directory is created exactly under a name that is a path. -/
lemma create_directory (name : Text) :
    (validateRelativePath name = .ok () ∧
      (SkillTreeEntry.directory name).create = .ok (SkillTreeEntry.directory name)) ∨
    validateRelativePath name ≠ .ok () ∧ ∃ e, (SkillTreeEntry.directory name).create = .error e := by
  cases h : validateRelativePath name with
  | error e =>
    refine .inr ⟨nofun, e, ?_⟩
    simp [SkillTreeEntry.create, SkillTreeEntry.validateFields, SkillTreeEntry.directory, h]
  | ok u =>
    refine .inl ⟨rfl, ?_⟩
    simp [SkillTreeEntry.create, SkillTreeEntry.validateFields, SkillTreeEntry.directory, h,
      SkillTreeEntry.validateShape, reject, maxBytes]

/-- The reasons that lie in the tree of an item. -/
lemma selected_cases (item : SkillSubtree) :
    ((item.subtreePrefix ≠ [] ∧ (item.subtreePrefix ≠ item.name ∨ item.Missing)) ∧
      ∃ code message, item.selected = .error (.materialization code message)) ∨
    (item.subtreePrefix = [] ∧ ¬item.NameFits ∧
      ∃ message, item.selected = .error (.validation message)) ∨
    (¬(item.subtreePrefix ≠ [] ∧ (item.subtreePrefix ≠ item.name ∨ item.Missing)) ∧
      item.NameFits ∧ item.selected = .ok item.placed) := by
  by_cases hroot : item.subtreePrefix = []
  · rcases create_directory item.name with ⟨hvalid, hcreate⟩ | ⟨hinvalid, e, hcreate⟩
    · refine .inr (.inr ⟨fun h => h.1 hroot, fun _ => hvalid, ?_⟩)
      simp [SkillSubtree.selected, SkillSubtree.placed, hroot, hcreate, Except.mapError]
    · refine .inr (.inl ⟨hroot, fun h => hinvalid (h hroot), e, ?_⟩)
      simp [SkillSubtree.selected, hroot, hcreate, Except.mapError]
  · have hfits : item.NameFits := fun h => absurd h hroot
    rw [SkillSubtree.selected, if_pos hroot]
    by_cases hother : item.subtreePrefix ≠ item.name
    · exact .inl ⟨⟨hroot, .inl hother⟩, _, _, by rw [reject_of hother, error_bind]⟩
    by_cases hmissing : item.Missing
    · exact .inl ⟨⟨hroot, .inr hmissing⟩, _, _, by
        rw [reject_of_not hother, ok_bind, reject_of hmissing, error_bind]⟩
    · refine .inr (.inr ⟨fun h => h.2.elim hother hmissing, hfits, ?_⟩)
      rw [reject_of_not hother, ok_bind, reject_of_not hmissing, ok_bind, SkillSubtree.placed,
        if_pos hroot]
      rfl

/-- One item is refused, meets the entry model with a name that is no path, or is placed. -/
lemma composeItem_cases (s : Composition) (item : SkillSubtree) :
    (item.Refused itemByteLimit s.occupied ∧
      ∃ code message, composeItem itemByteLimit s item = .error (.materialization code message)) ∨
    (¬item.Refused itemByteLimit s.occupied ∧ ¬item.NameFits ∧
      ∃ message, composeItem itemByteLimit s item = .error (.validation message)) ∨
    (¬item.Refused itemByteLimit s.occupied ∧ item.NameFits ∧
      composeItem itemByteLimit s item =
        .ok ⟨s.entries ++ item.placed, s.occupied ++ [item.name]⟩) := by
  unfold composeItem
  by_cases hname : item.name = [] ∨ '/' ∈ item.name ∨ item.name ∈ systemNames
  · exact .inl ⟨.inl hname, _, _, by rw [reject_of hname, error_bind]⟩
  rw [reject_of_not hname, ok_bind]
  by_cases htaken : item.name ∈ s.occupied
  · exact .inl ⟨.inr (.inl htaken), _, _, by rw [reject_of htaken, error_bind]⟩
  rw [reject_of_not htaken, ok_bind]
  rcases selected_cases item with ⟨htree, code, message, h⟩ | ⟨hroot, hfits, message, h⟩ |
    ⟨htree, hfits, h⟩
  · exact .inl ⟨.inr (.inr (.inl htree)), code, message, by rw [h, error_bind]⟩
  · refine .inr (.inl ⟨?_, hfits, message, by rw [h, error_bind]⟩)
    rintro (h' | h' | h' | h')
    · exact hname h'
    · exact htaken h'
    · exact h'.1 hroot
    · exact hfits h'.1
  · rw [h, ok_bind]
    by_cases hquota : itemByteLimit < totalBytes item.placed
    · exact .inl ⟨.inr (.inr (.inr ⟨hfits, hquota⟩)), _, _, by rw [reject_of hquota, error_bind]⟩
    · refine .inr (.inr ⟨?_, hfits, by rw [reject_of_not hquota, ok_bind, pure_eq_ok]⟩)
      rintro (h' | h' | h' | h')
      · exact hname h'
      · exact htaken h'
      · exact htree h'
      · exact hquota h'.2

/-- The run over all items, in the same three cases. -/
lemma composeItems_cases (itemByteLimit : ℤ) (s : Composition) (items : List SkillSubtree) :
    (RefusedItem itemByteLimit s.occupied items ∧ ∃ code message,
      items.foldlM (composeItem itemByteLimit) s = .error (.materialization code message)) ∨
    (¬RefusedItem itemByteLimit s.occupied items ∧ (¬∀ item ∈ items, item.NameFits) ∧
      ∃ message, items.foldlM (composeItem itemByteLimit) s = .error (.validation message)) ∨
    (¬RefusedItem itemByteLimit s.occupied items ∧ (∀ item ∈ items, item.NameFits) ∧
      items.foldlM (composeItem itemByteLimit) s =
        .ok ⟨s.entries ++ items.flatMap (·.placed), s.occupied ++ items.map (·.name)⟩) := by
  induction items generalizing s with
  | nil =>
    refine .inr (.inr ⟨?_, by simp, by simp⟩)
    rintro ⟨before, item, after, h, -⟩
    simp at h
  | cons item items ih =>
    rw [refusedItem_cons, List.foldlM_cons]
    simp only [List.mem_cons, forall_eq_or_imp]
    rcases composeItem_cases s item with ⟨hrefused, code, message, h⟩ |
      ⟨hrefused, hfits, message, h⟩ | ⟨hrefused, hfits, h⟩
    · exact .inl ⟨.inl hrefused, code, message, by rw [h, error_bind]⟩
    · refine .inr (.inl ⟨?_, fun hall => hfits hall.1, message, by rw [h, error_bind]⟩)
      rintro (h' | h')
      · exact hrefused h'
      · exact hfits h'.1
    · rw [h, ok_bind]
      have hiff : item.Refused itemByteLimit s.occupied ∨ item.NameFits ∧
          RefusedItem itemByteLimit (s.occupied ++ [item.name]) items ↔
            RefusedItem itemByteLimit (s.occupied ++ [item.name]) items := by
        simp [hrefused, hfits]
      rw [hiff]
      simp only [hfits, true_and]
      rcases ih ⟨s.entries ++ item.placed, s.occupied ++ [item.name]⟩ with h' | h' | ⟨h₁, h₂, h₃⟩
      · exact .inl h'
      · exact .inr (.inl h')
      · refine .inr (.inr ⟨h₁, h₂, ?_⟩)
        rw [h₃]
        simp

/-- Items that pass have names of their own. -/
lemma names_of_not_refused (h : ¬RefusedItem itemByteLimit occupied items)
    (hfits : ∀ item ∈ items, item.NameFits) :
    (items.map (·.name)).Nodup ∧ ∀ item ∈ items, item.name ∉ occupied ∧ '/' ∉ item.name ∧
      (item.subtreePrefix ≠ [] → item.subtreePrefix = item.name) := by
  induction items generalizing occupied with
  | nil => simp
  | cons item items ih =>
    rw [refusedItem_cons, not_or, not_and] at h
    obtain ⟨hitem, hrest⟩ := h
    have hfit := hfits item List.mem_cons_self
    obtain ⟨hnodup, hall⟩ := ih (hrest hfit) fun i hi => hfits i (List.mem_cons_of_mem _ hi)
    simp only [SkillSubtree.Refused, not_or, not_and, not_not] at hitem
    obtain ⟨⟨-, hslash, -⟩, hfree, htree, -⟩ := hitem
    refine ⟨?_, ?_⟩
    · rw [List.map_cons, List.nodup_cons]
      refine ⟨fun hmem => ?_, hnodup⟩
      obtain ⟨other, hother, heq⟩ := List.mem_map.mp hmem
      exact (hall other hother).1 (by simp [heq])
    · intro other hother
      rcases List.mem_cons.mp hother with rfl | hother
      · exact ⟨hfree, hslash, fun hne => (htree hne).1⟩
      · obtain ⟨hn, hs, hp⟩ := hall other hother
        exact ⟨fun hmem => hn (List.mem_append_left _ hmem), hs, hp⟩

/-! ### Validation of placed entries -/

lemma create_eq_ok {e e' : SkillTreeEntry} : e.create = .ok e' ↔ e.Accepted ∧ e' = e := by
  simp only [SkillTreeEntry.create, SkillTreeEntry.Accepted, bind_eq_ok, pure_eq_ok,
    Except.ok.injEq]
  constructor
  · rintro ⟨_, hf, _, hs, rfl⟩
    exact ⟨⟨hf, hs⟩, rfl⟩
  · rintro ⟨⟨hf, hs⟩, rfl⟩
    exact ⟨(), hf, (), hs, rfl⟩

lemma accepted_of_create {xs ys : List SkillTreeEntry}
    (h : List.Forall₂ (fun x y => x.create = .ok y) xs ys) : ∀ e ∈ xs, e.Accepted := by
  induction h with
  | nil => simp
  | cons hx _ ih =>
    rw [List.forall_mem_cons]
    exact ⟨(create_eq_ok.mp hx).1, ih⟩

/-- A serialized tree passes again exactly when every entry does. -/
lemma modelValidate_eq_ok {result : SkillTreeManifest} :
    modelValidate result.entries = .ok result ↔ ∀ e ∈ result.entries, e.Accepted := by
  constructor
  · intro h
    rw [modelValidate, bind_eq_ok] at h
    obtain ⟨entries, hmap, -⟩ := h
    exact accepted_of_create (mapM_eq_ok hmap)
  · intro h
    have hmap : result.entries.mapM SkillTreeEntry.create = .ok (result.entries.map id) :=
      mapM_ok_of_forall fun e he => create_eq_ok.mpr ⟨h e he, rfl⟩
    rw [modelValidate, hmap, ok_bind, List.map_id]
    exact SkillTreeManifest.ofEntries_eq_ok.mpr rfl

/-- A moved entry is accepted exactly when its bytes fit. -/
lemma accepted_relocate_iff (hforms : LawfulForms) {name : Text} (hname : MemberName name)
    {e : SkillTreeEntry} (h : e.Accepted) :
    (e.relocate name).Accepted ↔ (e.relocate name).path.encode.length ≤ 4096 := by
  obtain ⟨hfields, hshape⟩ := h
  simp only [SkillTreeEntry.validateFields, bind_eq_ok] at hfields
  obtain ⟨_, hpath, hrest⟩ := hfields
  have hjoin := validateRelativePath_append_iff hforms hname hpath
  constructor
  · rintro ⟨hf, -⟩
    simp only [SkillTreeEntry.validateFields, bind_eq_ok] at hf
    obtain ⟨_, hp, -⟩ := hf
    exact hjoin.mp hp
  · intro hlength
    refine ⟨?_, hshape⟩
    simp only [SkillTreeEntry.validateFields, bind_eq_ok]
    exact ⟨(), hjoin.mpr hlength, hrest⟩

lemma accepted_directory {name : Text} (h : validateRelativePath name = .ok ()) :
    (SkillTreeEntry.directory name).Accepted := by
  rcases create_directory name with ⟨-, hok⟩ | ⟨hno, -⟩
  · exact (create_eq_ok.mp hok).1
  · exact absurd h hno

/-- Everything an item places is accepted exactly when its moved paths fit. -/
lemma accepted_placed_iff (hforms : LawfulForms) (hname : item.NameFits)
    (hslash : '/' ∉ item.name) (hvalid : ∀ e ∈ item.tree.entries, e.Accepted) :
    (∀ e ∈ item.placed, e.Accepted) ↔ item.Fits := by
  by_cases hroot : item.subtreePrefix = []
  · have hmember : MemberName item.name := ⟨hname hroot, hslash⟩
    have hplaced : item.placed =
        .directory item.name :: item.tree.entries.map (·.relocate item.name) := by
      rw [SkillSubtree.placed, if_neg (by simp [hroot])]
    rw [hplaced, List.forall_mem_cons]
    simp only [accepted_directory (hname hroot), List.forall_mem_map, true_and,
      SkillSubtree.Fits, hname, hroot, forall_const]
    exact forall₂_congr fun e he => accepted_relocate_iff hforms hmember (hvalid e he)
  · have hplaced : item.placed = item.subtree := by rw [SkillSubtree.placed, if_pos hroot]
    simp only [hplaced, SkillSubtree.Fits, hname, hroot, true_and, false_implies, iff_true]
    exact fun e he => hvalid e (List.mem_filter.mp he).1

omit [UnicodeForms] in
/-- Everything an item places lies under its name. -/
lemma top_of_mem_placed (hslash : '/' ∉ item.name)
    (hroot : item.subtreePrefix ≠ [] → item.subtreePrefix = item.name) {e : SkillTreeEntry}
    (he : e ∈ item.placed) : e.path.top = item.name := by
  unfold SkillSubtree.placed at he
  split_ifs at he with h
  · have hdesc := (List.mem_filter.mp he).2
    rw [hroot h] at hdesc
    rcases descendant_iff.mp hdesc with heq | ⟨rest, heq⟩
    · rw [heq, Text.top_of_not_mem hslash]
    · rw [heq, Text.top_append_slash, Text.top_of_not_mem hslash]
  · rcases List.mem_cons.mp he with rfl | he
    · exact Text.top_of_not_mem hslash
    · obtain ⟨e, -, rfl⟩ := List.mem_map.mp he
      rw [SkillTreeEntry.relocate, Text.top_append_slash, Text.top_of_not_mem hslash]

end

/-! ### When the composition does what it promises -/

section

variable [UnicodeForms] {directory : SkillTreeManifest} {memberNames : List Text}
  {items : List SkillSubtree} {itemByteLimit : ℤ}

/-- The reasons of the composition to refuse its inputs: a quota, an item at its turn, a system
name, or sources that make no tree. -/
def Refuses (directory : SkillTreeManifest) (memberNames : List Text) (items : List SkillSubtree)
    (itemByteLimit : ℤ) : Prop :=
  itemByteLimit < totalBytes (retainedEntries directory memberNames) ∨
    RefusedItem itemByteLimit ((retainedEntries directory memberNames).map (·.path.top)) items ∨
      (∀ item ∈ items, item.NameFits) ∧
        ((∃ e ∈ sourceEntries directory memberNames items, e.path.top ∈ systemNames) ∨
          ¬TreeRules (sortEntries (sourceEntries directory memberNames items)))

omit [UnicodeForms] in
lemma finishComposition_cases (entries : List SkillTreeEntry) :
    (((∃ e ∈ entries, e.path.top ∈ systemNames) ∨ ¬TreeRules (sortEntries entries)) ∧
      ∃ code message, finishComposition entries = .error (.materialization code message)) ∨
    (¬((∃ e ∈ entries, e.path.top ∈ systemNames) ∨ ¬TreeRules (sortEntries entries)) ∧
      ∃ result, finishComposition entries = .ok result ∧
        result.entries = sortEntries entries) := by
  unfold finishComposition
  by_cases hsystem : ∃ e ∈ entries, e.path.top ∈ systemNames
  · exact .inl ⟨.inl hsystem, _, _, by rw [reject_of hsystem, error_bind]⟩
  rw [reject_of_not hsystem, ok_bind]
  by_cases hrules : TreeRules (sortEntries entries)
  · refine .inr ⟨fun h => h.elim hsystem fun hn => hn hrules, ?_⟩
    rw [SkillTreeManifest.ofEntries_of_rules hrules]
    exact ⟨_, rfl, rfl⟩
  · obtain ⟨e, he⟩ := SkillTreeManifest.ofEntries_error_iff.mpr hrules
    exact .inl ⟨.inr hrules, _, _, by rw [he]; rfl⟩

/-- The run as a whole: a refusal, a name that is no path, or the tree of all sources. -/
lemma composeDirectory_cases :
    (Refuses directory memberNames items itemByteLimit ∧ ∃ code message,
      composeDirectory directory memberNames items itemByteLimit =
        .error (.materialization code message)) ∨
    (¬Refuses directory memberNames items itemByteLimit ∧ (¬∀ item ∈ items, item.NameFits) ∧
      ∃ message, composeDirectory directory memberNames items itemByteLimit =
        .error (.validation message)) ∨
    (¬Refuses directory memberNames items itemByteLimit ∧ (∀ item ∈ items, item.NameFits) ∧
      ¬RefusedItem itemByteLimit ((retainedEntries directory memberNames).map (·.path.top)) items ∧
        ∃ result, composeDirectory directory memberNames items itemByteLimit = .ok result ∧
          result.entries = sortEntries (sourceEntries directory memberNames items)) := by
  unfold composeDirectory Refuses
  dsimp only
  by_cases hquota : itemByteLimit < totalBytes (retainedEntries directory memberNames)
  · exact .inl ⟨.inl hquota, _, _, by rw [reject_of hquota, error_bind]⟩
  rw [reject_of_not hquota, ok_bind]
  rcases composeItems_cases itemByteLimit
      ⟨retainedEntries directory memberNames,
        (retainedEntries directory memberNames).map (·.path.top)⟩ items with
    ⟨hitem, code, message, h⟩ | ⟨hitem, hfits, message, h⟩ | ⟨hitem, hfits, h⟩
  · exact .inl ⟨.inr (.inl hitem), code, message, by rw [h, error_bind]⟩
  · refine .inr (.inl ⟨?_, hfits, message, by rw [h, error_bind]⟩)
    rintro (h' | h' | h')
    · exact hquota h'
    · exact hitem h'
    · exact hfits h'.1
  · rw [h, ok_bind]
    rcases finishComposition_cases (sourceEntries directory memberNames items) with
      ⟨hbad, code, message, hfinish⟩ | ⟨hgood, result, hfinish, hresult⟩
    · exact .inl ⟨.inr (.inr ⟨hfits, hbad⟩), code, message, hfinish⟩
    · refine .inr (.inr ⟨?_, hfits, hitem, result, hfinish, hresult⟩)
      rintro (h' | h' | h')
      · exact hquota h'
      · exact hitem h'
      · exact hgood h'.2

omit [UnicodeForms] in
lemma mem_result_iff {result : SkillTreeManifest}
    (hresult : result.entries = sortEntries (sourceEntries directory memberNames items))
    (e : SkillTreeEntry) : e ∈ result.entries ↔
      e ∈ retainedEntries directory memberNames ∨ ∃ item ∈ items, e ∈ item.placed := by
  rw [hresult, perm_sortEntries.mem_iff, sourceEntries, List.mem_append, List.mem_flatMap]

/-- The composed tree passes again exactly when all moved paths fit. -/
lemma revalidated_iff (hforms : LawfulForms) (hdirectory : ∀ e ∈ directory.entries, e.Accepted)
    (hitems : ∀ item ∈ items, ∀ e ∈ item.tree.entries, e.Accepted)
    (hfits : ∀ item ∈ items, item.NameFits)
    (hrefused : ¬RefusedItem itemByteLimit
      ((retainedEntries directory memberNames).map (·.path.top)) items)
    {result : SkillTreeManifest}
    (hresult : result.entries = sortEntries (sourceEntries directory memberNames items)) :
    modelValidate result.entries = .ok result ↔ ∀ item ∈ items, item.Fits := by
  obtain ⟨-, hnames⟩ := names_of_not_refused hrefused hfits
  have haccepted : ∀ item ∈ items, ((∀ e ∈ item.placed, e.Accepted) ↔ item.Fits) :=
    fun item hi => accepted_placed_iff hforms (hfits item hi) (hnames item hi).2.1 (hitems item hi)
  rw [modelValidate_eq_ok]
  constructor
  · intro hall item hi
    exact (haccepted item hi).mp fun e he =>
      hall e ((mem_result_iff hresult e).mpr (.inr ⟨item, hi, he⟩))
  · intro hall e he
    rcases (mem_result_iff hresult e).mp he with he | ⟨item, hi, he⟩
    · exact hdirectory e (List.mem_filter.mp he).1
    · exact (haccepted item hi).mpr (hall item hi) e he

/-- A composed tree keeps its promises once it passes again. -/
lemma composed_of_revalidated (hfits : ∀ item ∈ items, item.NameFits)
    (hrefused : ¬RefusedItem itemByteLimit
      ((retainedEntries directory memberNames).map (·.path.top)) items)
    {result : SkillTreeManifest}
    (hresult : result.entries = sortEntries (sourceEntries directory memberNames items))
    (hagain : modelValidate result.entries = .ok result) :
    Composed directory memberNames items result := by
  obtain ⟨hnodup, hnames⟩ := names_of_not_refused hrefused hfits
  have hunder : ∀ item ∈ items, ∀ e ∈ item.placed, e.path.top = item.name :=
    fun item hi e he => top_of_mem_placed (hnames item hi).2.1 (hnames item hi).2.2 he
  refine ⟨hresult ▸ perm_sortEntries, hunder, ⟨hnodup, fun e he item hi heq => ?_⟩,
    fun e he hmember => ?_, hagain⟩
  · exact (hnames item hi).1 (List.mem_map.mpr ⟨e, he, heq⟩)
  · rcases (mem_result_iff hresult e).mp he with he | ⟨item, hi, he⟩
    · have hout := (List.mem_filter.mp he).2
      simp [hmember] at hout
    · exact ⟨item, hi, (hunder item hi e he).symm⟩

/-- The composition returns the tree of its sources, accepted again in full, or fails with an
error of its own, exactly when it refuses the inputs or every name is a path and every moved
path fits the limit. -/
theorem composesOrFails_iff (hforms : LawfulForms)
    (hdirectory : ∀ e ∈ directory.entries, e.Accepted)
    (hitems : ∀ item ∈ items, ∀ e ∈ item.tree.entries, e.Accepted) :
    ComposesOrFails directory memberNames items itemByteLimit ↔
      Refuses directory memberNames items itemByteLimit ∨ ∀ item ∈ items, item.Fits := by
  rcases @composeDirectory_cases _ directory memberNames items itemByteLimit with
    ⟨hrefuses, code, message, h⟩ | ⟨hrefuses, hfits, message, h⟩ |
    ⟨hrefuses, hfits, hitem, result, h, hresult⟩
  · simp only [hrefuses, true_or, iff_true]
    refine ⟨fun result hok => ?_, fun error herror => ?_⟩
    · rw [h] at hok
      cases hok
    · rw [h, Except.error.injEq] at herror
      exact ⟨code, message, herror.symm⟩
  · simp only [hrefuses, false_or]
    constructor
    · intro hall
      obtain ⟨code, message', heq⟩ := hall.2 _ h
      cases heq
    · exact fun hall => absurd (fun item hi => (hall item hi).1) hfits
  · simp only [hrefuses, false_or]
    rw [← revalidated_iff hforms hdirectory hitems hfits hitem hresult]
    constructor
    · exact fun hall => (hall.1 result h).revalidated
    · intro hagain
      refine ⟨fun result' hok => ?_, fun error herror => ?_⟩
      · rw [h, Except.ok.injEq] at hok
        exact hok ▸ composed_of_revalidated hfits hitem hresult hagain
      · rw [h] at herror
        cases herror

end

/-- A short tree below a new name is composed. -/
theorem composesOrFails_iff_member :
    @ComposesOrFails asciiForms ⟨[], by decide⟩ [['b']]
      [⟨['a'], [], ⟨[.directory ['c']], by decide⟩⟩] 0 := by
  have hvalid : @SkillTreeEntry.Accepted asciiForms (.directory ['c']) := ⟨by decide, by decide⟩
  refine (@composesOrFails_iff asciiForms _ _ _ _ lawfulForms_ascii (by simp) ?_).mpr (.inr ?_)
  · intro item hi e he
    rw [List.mem_singleton.mp hi] at he
    rwa [List.mem_singleton.mp he]
  · intro item hi
    rw [List.mem_singleton.mp hi]
    refine ⟨fun _ => by decide, fun _ e he => ?_⟩
    rw [List.mem_singleton.mp he]
    decide

/-! ### A tree too deep to move -/

/-- A chain of directories, one inside the other. -/
def chainEntries (components : List Text) : List SkillTreeEntry :=
  (List.range components.length).map fun i => .directory (Text.join (components.take (i + 1)))

section

variable {components : List Text}

lemma mem_chainEntries {e : SkillTreeEntry} : e ∈ chainEntries components ↔
    ∃ i < components.length, .directory (Text.join (components.take (i + 1))) = e := by
  simp [chainEntries]

/-- Moving a chain makes it one longer. -/
lemma chainEntries_cons (name : Text) (h : components ≠ []) :
    chainEntries (name :: components) =
      .directory name :: (chainEntries components).map (·.relocate name) := by
  unfold chainEntries
  rw [List.length_cons, List.range_succ_eq_map, List.map_cons, List.map_map, List.map_map]
  congr 1
  · simp
  · refine List.map_congr_left fun i hi => ?_
    obtain ⟨first, rest, rfl⟩ := List.exists_cons_of_ne_nil h
    simp [SkillTreeEntry.relocate, SkillTreeEntry.directory, Text.join_cons_cons]

lemma totalBytes_chainEntries : totalBytes (chainEntries components) = 0 := by
  simp [totalBytes, chainEntries, SkillTreeEntry.directory, Function.comp_def]

lemma sorted_chainEntries : (chainEntries components).Pairwise
    fun a b => a.path.encode < b.path.encode := by
  rw [chainEntries, List.pairwise_map]
  refine List.pairwise_lt_range.imp_of_mem fun {i j} hi hj hij => ?_
  rw [List.mem_range] at hi hj
  have hsplit : components.take (j + 1) =
      components.take (i + 1) ++ (components.drop (i + 1)).take (j - i) := by
    rw [← List.take_add]
    congr 1
    omega
  have hx : components.take (i + 1) ≠ [] := by
    rw [← List.length_pos_iff, List.length_take]
    omega
  have hy : (components.drop (i + 1)).take (j - i) ≠ [] := by
    rw [← List.length_pos_iff, List.length_take, List.length_drop]
    omega
  change (Text.join _).encode < (Text.join _).encode
  rw [hsplit, Text.join_append hx hy]
  exact Text.encode_lt_append _ _ (by simp)

/-- A chain of named directories is a valid tree. -/
lemma treeRules_chainEntries (hslash : ∀ c ∈ components, '/' ∉ c) (hne : ∀ c ∈ components, c ≠ [])
    (hlength : components.length ≤ maxEntries) : TreeRules (chainEntries components) := by
  have hsplit : ∀ i < components.length,
      (Text.join (components.take (i + 1))).split = components.take (i + 1) := by
    intro i hi
    refine Text.split_join (fun c hc => hslash c (List.mem_of_mem_take hc)) ?_
    rw [← List.length_pos_iff, List.length_take]
    omega
  refine ⟨⟨sorted_chainEntries, ?_, ?_, ?_⟩, ?_, ?_⟩
  · intro e he hnil
    obtain ⟨i, hi, rfl⟩ := mem_chainEntries.mp he
    have hs := hsplit i hi
    change Text.join _ = [] at hnil
    rw [hnil] at hs
    have hmem : [] ∈ components.take (i + 1) := by
      rw [← hs]
      simp [Text.split]
    exact hne [] (List.mem_of_mem_take hmem) rfl
  · intro e he parent hp
    obtain ⟨i, hi, rfl⟩ := mem_chainEntries.mp he
    obtain ⟨k, hk, hlt, rfl⟩ := mem_ancestors.mp hp
    simp only [SkillTreeEntry.directory, hsplit i hi] at hlt ⊢
    rw [List.length_take] at hlt
    have htake : (components.take (i + 1)).take k = components.take k := by
      rw [List.take_take]
      congr 1
      omega
    have hmem : .directory (Text.join (components.take k)) ∈ chainEntries components :=
      mem_chainEntries.mpr ⟨k - 1, by omega, by rw [Nat.sub_add_cancel hk]⟩
    rw [htake]
    exact ⟨_, lookup_of_mem (nodup_paths sorted_chainEntries) hmem, rfl⟩
  · intro e he hk
    obtain ⟨i, hi, rfl⟩ := mem_chainEntries.mp he
    cases hk
  · simpa [chainEntries] using hlength
  · rw [totalBytes_chainEntries]
    exact Nat.zero_le _

/-- The directories of a chain are accepted when the path of the innermost one is. -/
lemma accepted_chainEntries [UnicodeForms] (hforms : LawfulForms)
    (h : validateRelativePath (Text.join components) = .ok ()) :
    ∀ e ∈ chainEntries components, e.Accepted := by
  intro e he
  obtain ⟨i, hi, rfl⟩ := mem_chainEntries.mp he
  apply accepted_directory
  rcases (Nat.succ_le_of_lt hi).eq_or_lt with heq | hlt
  · rwa [← Nat.succ_eq_add_one, heq, List.take_length]
  · have hx : components.take (i + 1) ≠ [] := by
      rw [← List.length_pos_iff, List.length_take]
      omega
    have hy : components.drop (i + 1) ≠ [] := by
      rw [← List.length_pos_iff, List.length_drop]
      omega
    rw [← List.take_append_drop (i + 1) components, Text.join_append hx hy] at h
    exact validateRelativePath_left hforms h

end

lemma length_encode_join_replicate (c : Text) (k : ℕ) :
    (Text.join (List.replicate (k + 1) c)).encode.length = (k + 1) * c.encode.length + k := by
  induction k with
  | zero => simp
  | succ k ih =>
    rw [List.replicate_succ, List.replicate_succ, Text.join_cons_cons, ← List.replicate_succ,
      Text.length_encode_append_slash, ih]
    ring

/-- A component repeated within the limit makes a path. -/
lemma validateRelativePath_replicate [UnicodeForms] (hforms : LawfulForms) {c : Text}
    (hc : MemberName c) (k : ℕ) (h : (k + 1) * c.encode.length + k ≤ 4096) :
    validateRelativePath (Text.join (List.replicate (k + 1) c)) = .ok () := by
  induction k with
  | zero => simpa using hc.path
  | succ k ih =>
    have hlt : (k + 1) * c.encode.length ≤ (k + 1 + 1) * c.encode.length :=
      Nat.mul_le_mul_right _ (Nat.le_succ _)
    have hrest := ih (by omega)
    rw [List.replicate_succ, List.replicate_succ, Text.join_cons_cons, ← List.replicate_succ,
      validateRelativePath_append_iff hforms hc hrest]
    have hlength := length_encode_join_replicate c (k + 1)
    rw [List.replicate_succ, List.replicate_succ, Text.join_cons_cons, ← List.replicate_succ]
      at hlength
    omega

/-- The longest component that a path may have. -/
def longName : Text := List.replicate 255 'd'

lemma memberName_longName : @MemberName asciiForms longName :=
  @MemberName.mk asciiForms _ (by decide +kernel) (by decide +kernel)

lemma treeRules_long : TreeRules (chainEntries (List.replicate (15 + 1) longName)) ∧
    TreeRules (chainEntries (['a'] :: List.replicate (15 + 1) longName)) := by
  have hmember : ∀ c ∈ List.replicate (15 + 1) longName, '/' ∉ c ∧ c ≠ [] := fun c hc => by
    rw [List.eq_of_mem_replicate hc]
    exact ⟨@MemberName.topLevel asciiForms _ memberName_longName,
      @MemberName.ne_nil asciiForms _ memberName_longName⟩
  have hall : ∀ c ∈ ['a'] :: List.replicate (15 + 1) longName, '/' ∉ c ∧ c ≠ [] :=
    List.forall_mem_cons.mpr ⟨⟨by decide, by decide⟩, hmember⟩
  refine ⟨treeRules_chainEntries (fun c hc => (hmember c hc).1) (fun c hc => (hmember c hc).2) ?_,
    treeRules_chainEntries (fun c hc => (hall c hc).1) (fun c hc => (hall c hc).2) ?_⟩
  · simp [maxEntries]
  · simp [maxEntries]

/-- Sixteen directories, one in the other: the path of the last has 4095 bytes, and 4097 once
it is moved below `a`. -/
def deepItem : SkillSubtree :=
  ⟨['a'], [], ⟨chainEntries (List.replicate (15 + 1) longName), validateTree_eq_ok.mpr treeRules_long.1⟩⟩

lemma placed_deepItem : deepItem.placed = chainEntries (['a'] :: List.replicate (15 + 1) longName) :=
  (chainEntries_cons ['a'] (by simp)).symm

lemma sortEntries_of_sorted {entries : List SkillTreeEntry}
    (h : entries.Pairwise fun a b => a.path.encode < b.path.encode) : sortEntries entries = entries :=
  List.Pairwise.insertionSort_eq (h.imp le_of_lt)

/-- The composition of accepted trees returns a tree that does not pass again. -/
theorem composeDirectory_outgrows :
    let forms := asciiForms
    let directory : SkillTreeManifest := ⟨[], by decide⟩
    (∀ e ∈ deepItem.tree.entries, e.Accepted) ∧
      (∃ result, composeDirectory directory [] [deepItem] 0 = .ok result ∧
        modelValidate result.entries ≠ .ok result) ∧
      ¬ComposesOrFails directory [] [deepItem] 0 := by
  intro forms directory
  have hlong : longName.encode.length = 255 := by decide +kernel
  have hvalid : ∀ e ∈ deepItem.tree.entries, e.Accepted :=
    accepted_chainEntries lawfulForms_ascii (validateRelativePath_replicate lawfulForms_ascii
      memberName_longName 15 (by rw [hlong]; decide))
  have hsource : sourceEntries directory [] [deepItem] =
      chainEntries (['a'] :: List.replicate (15 + 1) longName) := by
    rw [← placed_deepItem]
    simp [sourceEntries, retainedEntries, directory]
  have hfits : ∀ item ∈ [deepItem], item.NameFits := by
    intro item hi
    rw [List.mem_singleton.mp hi]
    exact fun _ => by decide
  have hdeep : ¬deepItem.Fits := by
    rintro ⟨-, hall⟩
    have hlast : .directory (Text.join (List.replicate (15 + 1) longName)) ∈ deepItem.tree.entries :=
      mem_chainEntries.mpr ⟨15, by simp, by simp⟩
    have hlength := hall rfl _ hlast
    have hname : deepItem.name.encode.length = 1 := by decide
    rw [SkillTreeEntry.relocate_path, SkillTreeEntry.directory_path,
      Text.length_encode_append_slash, length_encode_join_replicate longName 15, hlong, hname]
      at hlength
    omega
  have hitem : ¬RefusedItem 0 ((retainedEntries directory []).map (·.path.top)) [deepItem] := by
    rw [refusedItem_cons, SkillSubtree.Refused, placed_deepItem, totalBytes_chainEntries]
    rintro ((hname | htaken | htree | hquota) | ⟨-, before, item, after, heq, -⟩)
    · exact absurd hname (by decide)
    · simp [retainedEntries, directory] at htaken
    · exact htree.1 rfl
    · exact absurd hquota.2 (by decide)
    · simp at heq
  rcases @composeDirectory_cases _ directory [] [deepItem] 0 with
    ⟨hquota | hrefused | ⟨-, ⟨e, he, htop⟩ | hrules⟩, -⟩ | ⟨-, hnames, -⟩ |
    ⟨-, -, -, result, hok, hresult⟩
  · simp [retainedEntries, directory, totalBytes] at hquota
  · exact absurd hrefused hitem
  · rw [hsource, ← placed_deepItem] at he
    rw [top_of_mem_placed (by decide) (fun h => absurd rfl h) he] at htop
    exact absurd htop (by decide)
  · rw [hsource, sortEntries_of_sorted sorted_chainEntries] at hrules
    exact absurd treeRules_long.2 hrules
  · exact absurd hfits hnames
  · have hagain : modelValidate result.entries ≠ .ok result := fun hagain => hdeep <|
      (revalidated_iff lawfulForms_ascii (by simp [directory]) (by simpa using hvalid) hfits hitem
        hresult).mp hagain deepItem (by simp)
    exact ⟨hvalid, ⟨result, hok, hagain⟩, fun hall => hagain (hall.1 result hok).revalidated⟩

end AgentRemote
