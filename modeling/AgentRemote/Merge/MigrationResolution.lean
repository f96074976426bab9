import AgentRemote.Merge.Resolution
import AgentRemote.Merge.Units

/-!
# Resolution of a migration

A migration brings one member into an account directory. Its conflicts are resolved inside
the link unit of that member, computed over the three sides and the saved directory. The
rest of the directory stays as it is saved.
-/

namespace AgentRemote
open Library

/-- The saved sides of a migration, the authorized names and the account directory. -/
structure MigrationResolutionInputs where
  name : Text
  names : List Text
  base : SkillTreeManifest
  current : SkillTreeManifest
  incoming : SkillTreeManifest
  directory : SkillTreeManifest
  conflicts : List SkillMergeConflict

namespace MigrationResolutionInputs

/-- The trees whose links decide the unit of the target. -/
def trees (inputs : MigrationResolutionInputs) : List SkillTreeManifest :=
  [inputs.base, inputs.current, inputs.incoming, inputs.directory]

end MigrationResolutionInputs

/-- `_member_path`. -/
def memberPath (path name : Text) : Bool := descendant path name

/-- `_in_unit`. -/
def inUnit (path : Text) (unit names : List Text) : Bool := scope names path ∈ unit

/-- `_member`. -/
def member (tree : SkillTreeManifest) (name : Text) : Except String SkillTreeManifest :=
  SkillTreeManifest.ofEntries (tree.entries.filter fun e => memberPath e.path name)

/-- `_complete`: replaces the unit in the saved directory and checks the whole tree. -/
def complete (inputs : MigrationResolutionInputs) (selected : List SkillTreeEntry)
    (unit : List Text) : SkillMergeResult :=
  let entries := (inputs.directory.entries.filter fun e => !inUnit e.path unit inputs.names) ++
    selected
  match SkillTreeManifest.ofEntries (sortEntries entries) with
  | .ok manifest => ⟨some manifest, []⟩
  | .error _ => ⟨none, [⟨inputs.name, .invalidTree, unit⟩]⟩

section

variable [UnicodeForms]

def migrationResolutionUnit (inputs : MigrationResolutionInputs) : Except String (List Text) := do
  reject (inputs.name ∉ inputs.names ∨ inputs.name = ['.'] ∨ '/' ∈ inputs.name)
    "migration target must be one authorized top-level identity"
  let units ← directoryMergeUnits inputs.trees inputs.names
  return (units.find? fun unit => inputs.name ∈ unit).getD [inputs.name]

/-- `_validate_scope`. -/
def validateScope [Sha256] (inputs : MigrationResolutionInputs) (loaded : LoadedResolutionChoice)
    (unit : List Text) : Except String Unit := do
  let choice := loaded.choice.toChoiceFields
  reject (choice.treeDigest.isNone ≠ loaded.tree.isNone)
    "resolution content does not match its method"
  reject (∃ tree ∈ loaded.tree, some (manifestDigest tree) ≠ choice.treeDigest)
    "resolution content differs from declared digest"
  reject (choice.unit ≠ [] ∧ choice.unit ≠ unit)
    "migration choice requires the complete target unit"
  reject (∃ path ∈ choice.path, ¬memberPath path inputs.name)
    "migration path is outside the target"
  reject (1 < unit.length ∧ choice.path.isSome)
    "linked migration state requires a complete unit choice"
  if choice.directoryTreeDigest.isSome then
    let some tree := loaded.tree | throw "assert loaded.tree is not None"
    reject (∃ e ∈ tree.entries, ¬inUnit e.path unit inputs.names ∧
      inputs.directory.get e.path ≠ some e)
      "custom migration tree changes an independent context source"

def validateScopes [Sha256] (inputs : MigrationResolutionInputs) (unit : List Text) :
    List LoadedResolutionChoice → Except String Unit
  | [] => .ok ()
  | loaded :: rest => do
    validateScope inputs loaded unit
    validateScopes inputs unit rest

/-- `_linked`: a linked unit is chosen as a whole. Its current side is the current target
within the saved directory. -/
def linked (inputs : MigrationResolutionInputs) (choices : List LoadedResolutionChoice)
    (unit : List Text) : Except String SkillMergeResult :=
  match choices with
  | [] => .ok ⟨none, inputs.conflicts⟩
  | [loaded] =>
    if loaded.choice.use = some .current then
      .ok <| complete inputs
        ((inputs.current.entries.filter fun e => memberPath e.path inputs.name) ++
          inputs.directory.entries.filter fun e =>
            inUnit e.path unit inputs.names && !memberPath e.path inputs.name) unit
    else
      .ok <| complete inputs
        ((loaded.tree.getD inputs.incoming).entries.filter fun e =>
          inUnit e.path unit inputs.names) unit
  | _ :: _ :: _ => .error "migration choices overlap on a linked unit"

def resolveMigrationConflicts [Sha256] (inputs : MigrationResolutionInputs)
    (choices : List LoadedResolutionChoice) : Except String SkillMergeResult := do
  reject (inputs.conflicts = []) "migration resolution requires a saved conflict"
  let unit ← migrationResolutionUnit inputs
  validateScopes inputs unit choices
  if 1 < unit.length then linked inputs choices unit
  else
    let base ← member inputs.base inputs.name
    let current ← member inputs.current inputs.name
    let incoming ← member inputs.incoming inputs.name
    let result ← resolveDirectoryConflicts base current incoming [inputs.name] inputs.conflicts
      choices
    match result.merged with
    | none => return result
    | some merged =>
      return complete inputs (merged.entries.filter fun e => memberPath e.path inputs.name) unit

end

/-! ### The assembled directory -/

section

variable {inputs : MigrationResolutionInputs} {unit : List Text} {path : Text}

/-- A member lies in the unit that holds its name. -/
lemma inUnit_of_memberPath (hn : inputs.name ∈ inputs.names) (hs : '/' ∉ inputs.name)
    (hu : inputs.name ∈ unit) (h : memberPath path inputs.name) :
    inUnit path unit inputs.names = true := by
  have hscope : scope inputs.names path = inputs.name := by
    rw [scope_of_descendant h, scope, Text.top_of_not_mem hs, if_pos hn]
  rw [inUnit, hscope, decide_eq_true_eq]
  exact hu

/-- A complete tree holds the selection inside the unit and the saved directory outside. -/
lemma get_complete {selected : List SkillTreeEntry} {merged : SkillTreeManifest}
    (h : (complete inputs selected unit).merged = some merged)
    (hs : ∀ e ∈ selected, inUnit e.path unit inputs.names) (path : Text) :
    merged.get path =
      if inUnit path unit inputs.names then entryAt selected path else inputs.directory.get path := by
  unfold complete at h
  set outside := inputs.directory.entries.filter fun e => !inUnit e.path unit inputs.names with ho
  cases hof : SkillTreeManifest.ofEntries (sortEntries (outside ++ selected)) with
  | error e => simp [hof] at h
  | ok manifest =>
    simp only [hof, Option.some.injEq] at h
    subst h
    have hentries := SkillTreeManifest.ofEntries_eq_ok.mp hof
    have hperm : manifest.entries.Perm (outside ++ selected) := by
      rw [hentries]
      exact perm_sortEntries
    have hnd : ((outside ++ selected).map (·.path)).Nodup :=
      (hperm.map _).nodup_iff.mp manifest.nodup_paths
    have hget : manifest.get path = (entryAt outside path).or (entryAt selected path) :=
      (lookup_perm hnd hperm path).trans (lookup_append selected)
    have hout : entryAt outside path =
        if inUnit path unit inputs.names then none else inputs.directory.get path := by
      rw [ho, entryAt_filter fun p => !inUnit p unit inputs.names]
      cases inUnit path unit inputs.names <;> rfl
    rw [hget, hout]
    split_ifs with hin
    · rfl
    · have hnone : entryAt selected path = none := by
        rw [entryAt, lookup_eq_none_iff]
        rintro e he rfl
        exact hin (hs e he)
      rw [hnone, Option.or_none]

end

section

variable [UnicodeForms] {inputs : MigrationResolutionInputs} {unit : List Text}
  {choices : List LoadedResolutionChoice} {result : SkillMergeResult} {merged : SkillTreeManifest}

/-- The unit of the target is a link unit of the four trees, or the target alone where none of
them has it. -/
lemma migrationResolutionUnit_spec (h : migrationResolutionUnit inputs = .ok unit) :
    inputs.name ∈ inputs.names ∧ '/' ∉ inputs.name ∧ inputs.name ∈ unit ∧
      (LinkUnit inputs.trees inputs.names unit ∨
        unit = [inputs.name] ∧ inputs.name ∉ scopes inputs.trees inputs.names) := by
  rw [migrationResolutionUnit, reject_bind_eq_ok, bind_eq_ok] at h
  obtain ⟨htarget, units, hunits, h⟩ := h
  simp only [not_or, not_not] at htarget
  obtain ⟨us, hus, -, hu⟩ := @directoryMergeUnits_eq inputs.trees inputs.names _
    (memberNames_of_units_ok hunits)
  rw [hunits, Except.ok.injEq] at hus
  subst hus
  refine ⟨htarget.1, htarget.2.2, ?_⟩
  simp only [pure_eq_ok, Except.ok.injEq] at h
  cases hfind : units.find? fun unit => inputs.name ∈ unit with
  | none =>
    rw [hfind, Option.getD_none] at h
    subst h
    refine ⟨List.mem_singleton_self _, .inr ⟨rfl, fun hscope => ?_⟩⟩
    obtain ⟨unit, hunit, hmem⟩ := hu.cover _ hscope
    simpa [hmem] using List.find?_eq_none.mp hfind unit hunit
  | some found =>
    rw [hfind, Option.getD_some] at h
    subst h
    have hmem : inputs.name ∈ found := by simpa using List.find?_some hfind
    exact ⟨hmem, .inl (hu.linkUnit found (List.mem_of_find?_eq_some hfind))⟩

/-- A checked choice has a tree exactly when it names a digest. -/
lemma tree_of_validateScope [Sha256] {loaded : LoadedResolutionChoice}
    (h : validateScope inputs loaded unit = .ok ()) :
    loaded.choice.treeDigest.isNone = loaded.tree.isNone := by
  rw [validateScope, reject_bind_eq_ok, ne_eq, not_not] at h
  exact h.1

lemma validateScopes_eq_ok [Sha256] :
    validateScopes inputs unit choices = .ok () ↔
      ∀ loaded ∈ choices, validateScope inputs loaded unit = .ok () := by
  induction choices with
  | nil => simp [validateScopes]
  | cons first rest ih =>
    rw [validateScopes, bind_eq_ok]
    simp only [ih, List.mem_cons, forall_eq_or_imp]
    exact ⟨fun ⟨_, h, hrest⟩ => ⟨h, hrest⟩, fun ⟨h, hrest⟩ => ⟨(), h, hrest⟩⟩

/-- What one choice for a linked unit selects: the current target within the saved directory,
the incoming side or the tree that the choice brings. -/
structure LinkedSelection (inputs : MigrationResolutionInputs) (loaded : LoadedResolutionChoice)
    (unit : List Text) (merged : SkillTreeManifest) : Prop where
  current : loaded.choice.use = some .current → ∀ path, inUnit path unit inputs.names →
    merged.get path =
      if memberPath path inputs.name then inputs.current.get path else inputs.directory.get path
  incoming : loaded.choice.use = some .incoming → ∀ path, inUnit path unit inputs.names →
    merged.get path = inputs.incoming.get path
  custom : ∀ tree, loaded.tree = some tree → ∀ path, inUnit path unit inputs.names →
    merged.get path = tree.get path

/-- A merged tree of a linked unit comes from one choice for the whole unit. -/
lemma linked_spec [Sha256] (hmember : ∀ path, memberPath path inputs.name →
      inUnit path unit inputs.names)
    (hv : ∀ loaded ∈ choices, validateScope inputs loaded unit = .ok ())
    (h : linked inputs choices unit = .ok result) (hm : result.merged = some merged) :
    ∃ loaded, choices = [loaded] ∧ LinkedSelection inputs loaded unit merged ∧
      ∀ path, inUnit path unit inputs.names = false → merged.get path = inputs.directory.get path := by
  match choices with
  | [] =>
    simp only [linked, Except.ok.injEq] at h
    subst h
    simp at hm
  | _ :: _ :: _ => simp [linked] at h
  | [loaded] =>
    refine ⟨loaded, rfl, ?_⟩
    have htree := tree_of_validateScope (hv loaded (List.mem_singleton_self _))
    have hside : loaded.choice.use.isSome → loaded.tree = none := by
      intro huse
      rw [loaded.choice.of_use huse] at htree
      simpa using htree.symm
    simp only [linked] at h
    by_cases huse : loaded.choice.use = some .current
    · rw [if_pos huse, Except.ok.injEq] at h
      subst h
      have hget := get_complete hm fun e he => by
        rcases List.mem_append.mp he with he | he
        · exact hmember _ (List.mem_filter.mp he).2
        · exact (Bool.and_eq_true_iff.mp (List.mem_filter.mp he).2).1
      have hnone : loaded.tree = none := hside (by rw [huse]; rfl)
      refine ⟨⟨fun _ path hin => ?_, fun hother => ?_, fun tree ht => ?_⟩, fun path hout => ?_⟩
      · have hcurrent := @entryAt_filter inputs.current.entries
          (fun p => memberPath p inputs.name) path
        have hdirectory := @entryAt_filter inputs.directory.entries
          (fun p => inUnit p unit inputs.names && !memberPath p inputs.name) path
        rw [hget path, if_pos hin, entryAt, lookup_append]
        unfold entryAt at hcurrent hdirectory
        rw [hcurrent, hdirectory, hin]
        cases memberPath path inputs.name <;> simp
      · rw [huse] at hother
        cases hother
      · rw [hnone] at ht
        cases ht
      · rw [hget path, hout, if_neg (by simp)]
    · rw [if_neg huse, Except.ok.injEq] at h
      subst h
      have hget := get_complete hm fun e he => (List.mem_filter.mp he).2
      have hin : ∀ path, inUnit path unit inputs.names →
          merged.get path = (loaded.tree.getD inputs.incoming).get path := by
        intro path hin
        rw [hget path, if_pos hin, entryAt_filter fun p => inUnit p unit inputs.names, if_pos hin]
      refine ⟨⟨fun hcurrent => absurd hcurrent huse, fun hincoming path hp => ?_,
        fun tree ht path hp => ?_⟩, fun path hout => ?_⟩
      · have hnone : loaded.tree = none := hside (by rw [hincoming]; rfl)
        rw [hin path hp, hnone, Option.getD_none]
      · rw [hin path hp, ht, Option.getD_some]
      · rw [hget path, hout, if_neg (by simp)]

/-- A resolved migration leaves the saved directory as it is outside the link unit of its
target. A linked unit holds the entries of the one source chosen for it, an independent target
those of its own resolution, and the whole is a valid tree. -/
theorem resolveMigrationConflicts_frame [Sha256]
    (h : resolveMigrationConflicts inputs choices = .ok result) (hm : result.merged = some merged) :
    ∃ unit, migrationResolutionUnit inputs = .ok unit ∧
      (LinkUnit inputs.trees inputs.names unit ∧ inputs.name ∈ unit ∨
        unit = [inputs.name] ∧ inputs.name ∉ scopes inputs.trees inputs.names) ∧
      (∀ path, scope inputs.names path ∉ unit → merged.get path = inputs.directory.get path) ∧
      (1 < unit.length → ∃ loaded, choices = [loaded] ∧ LinkedSelection inputs loaded unit merged) ∧
      (¬1 < unit.length → ∃ base current incoming report resolved,
        member inputs.base inputs.name = .ok base ∧
          member inputs.current inputs.name = .ok current ∧
            member inputs.incoming inputs.name = .ok incoming ∧
              resolveDirectoryConflicts base current incoming [inputs.name] inputs.conflicts
                choices = .ok report ∧ report.merged = some resolved ∧
                  ∀ path, memberPath path inputs.name → merged.get path = resolved.get path) ∧
      TreeRules merged.entries := by
  rw [resolveMigrationConflicts, reject_bind_eq_ok, bind_eq_ok] at h
  obtain ⟨-, unit, hunit, h⟩ := h
  rw [bind_eq_ok] at h
  obtain ⟨_, hv, h⟩ := h
  have hv := validateScopes_eq_ok.mp hv
  obtain ⟨hname, hslash, hmem, hlink⟩ := migrationResolutionUnit_spec hunit
  have hmember : ∀ path, memberPath path inputs.name → inUnit path unit inputs.names :=
    fun path => inUnit_of_memberPath hname hslash hmem
  have hscope : ∀ path, scope inputs.names path ∉ unit ↔ inUnit path unit inputs.names = false :=
    fun path => by simp [inUnit]
  refine ⟨unit, hunit, hlink.imp_left fun hl => ⟨hl, hmem⟩, ?_⟩
  by_cases hone : 1 < unit.length
  · rw [if_pos hone] at h
    obtain ⟨loaded, hchoices, hselected, hout⟩ := linked_spec hmember hv h hm
    exact ⟨fun path hp => hout path ((hscope path).mp hp), fun _ => ⟨loaded, hchoices, hselected⟩,
      fun hn => absurd hone hn, merged.rules⟩
  · rw [if_neg hone] at h
    simp only [bind_eq_ok] at h
    obtain ⟨base, hbase, current, hcurrent, incoming, hincoming, report, hreport, h⟩ := h
    cases hresolved : report.merged with
    | none =>
      simp only [hresolved, pure_eq_ok, Except.ok.injEq] at h
      rw [← h, hresolved] at hm
      simp at hm
    | some resolved =>
      simp only [hresolved, pure_eq_ok, Except.ok.injEq] at h
      subst h
      have hget := get_complete hm fun e he => hmember _ (List.mem_filter.mp he).2
      refine ⟨fun path hp => ?_, fun hl => absurd hl hone, fun _ => ?_, merged.rules⟩
      · rw [hget path, (hscope path).mp hp, if_neg (by simp)]
      · refine ⟨base, current, incoming, report, resolved, hbase, hcurrent, hincoming, hreport,
          hresolved, fun path hp => ?_⟩
        rw [hget path, if_pos (hmember path hp), entryAt_filter fun p => memberPath p inputs.name,
          if_pos hp]

end

/-- A member that a link joins with another one, settled by its incoming side. -/
theorem resolveMigrationConflicts_frame_linked :
    let forms := asciiForms
    let hash : Sha256 := ⟨fun _ => []⟩
    let directory : SkillTreeManifest := ⟨linkedEntries, by decide⟩
    let inputs : MigrationResolutionInputs :=
      ⟨['a'], [['a'], ['b'], ['c']], ⟨[], by decide⟩, ⟨[.directory ['a']], by decide⟩,
        ⟨[.directory ['a'], .directory ['b']], by decide⟩, directory, [⟨['a'], .changedBoth, []⟩]⟩
    let choice : @SkillResolutionChoice forms :=
      @SkillResolutionChoice.mk forms { use := some .incoming } (by decide)
    ∃ result merged, @resolveMigrationConflicts forms hash inputs [⟨choice, none⟩] = .ok result ∧
      result.merged = some merged ∧ merged.get "a/link".toList = none ∧
        merged.get ['c'] = directory.get ['c'] := by
  intro forms hash directory inputs choice
  have hrun : ((@resolveMigrationConflicts forms hash inputs [⟨choice, none⟩]).toOption.bind
      (·.merged)).isSome := by
    decide +kernel
  obtain ⟨merged, hrun⟩ := Option.isSome_iff_exists.mp hrun
  obtain ⟨result, hresult, hm⟩ := Option.bind_eq_some_iff.mp hrun
  have hresult := toOption_eq_some.mp hresult
  obtain ⟨unit, hunit, -, hout, hlinked, -⟩ :=
    @resolveMigrationConflicts_frame forms inputs [⟨choice, none⟩] result merged hash hresult hm
  have hpair : @migrationResolutionUnit forms inputs = .ok [['a'], ['b']] := by decide +kernel
  rw [hpair, Except.ok.injEq] at hunit
  subst hunit
  obtain ⟨loaded, hchoices, hselected⟩ := hlinked (by decide)
  rw [List.singleton_inj.mp hchoices.symm] at hselected
  refine ⟨result, merged, hresult, hm, ?_, hout _ (by decide)⟩
  rw [hselected.incoming rfl _ (by decide)]
  decide

end AgentRemote
