import AgentRemote.Merge.Resolution

/-!
# The order of the choices

Accepted choices have disjoint scopes, so what one of them writes no other one rewrites. An
ancestor that two choices add is the same directory: both sides can offer one only where the
default has an entry already.
-/

namespace AgentRemote
open Library

/-- A search whose hits agree does not depend on the order of the list. -/
lemma findSome?_perm {α β : Type*} {f : α → Option β} {xs ys : List α} (h : xs.Perm ys)
    (hf : ∀ x ∈ xs, ∀ y ∈ xs, ∀ a b, f x = some a → f y = some b → a = b) :
    xs.findSome? f = ys.findSome? f := by
  cases hx : xs.findSome? f with
  | none =>
    symm
    rw [List.findSome?_eq_none_iff] at hx ⊢
    exact fun y hy => hx y (h.mem_iff.mpr hy)
  | some a =>
    obtain ⟨x, hxmem, hfx⟩ := List.exists_of_findSome?_eq_some hx
    have hsome : (ys.findSome? f).isSome := by
      rw [List.findSome?_isSome_iff]
      exact ⟨x, h.mem_iff.mp hxmem, by rw [hfx]; rfl⟩
    obtain ⟨b, hb⟩ := Option.isSome_iff_exists.mp hsome
    obtain ⟨y, hymem, hfy⟩ := List.exists_of_findSome?_eq_some hb
    rw [hb, hf x hxmem y (h.mem_iff.mpr hymem) a b hfx hfy]

section

variable [UnicodeForms] {base current incoming : SkillTreeManifest} {itemNames : List Text}
  {conflicts : List SkillMergeConflict} {units : List (List Text)}
  {entries entries' : List SkillTreeEntry} {choices choices' : List LoadedResolutionChoice}

/-! ### Checked choices apply -/

omit [UnicodeForms] in
/-- A run that keeps one row for each key keeps it for a whole list. -/
lemma nodup_foldl {step : List SkillTreeEntry → SkillTreeEntry → List SkillTreeEntry}
    (hstep : ∀ rows row, (paths rows).Nodup → (paths (step rows row)).Nodup)
    (news : List SkillTreeEntry) (hn : (paths entries).Nodup) :
    (paths (news.foldl step entries)).Nodup := by
  induction news generalizing entries with
  | nil => exact hn
  | cons row news ih => exact ih (hstep entries row hn)

/-- A file choice names its path. -/
lemma SkillResolutionChoice.path_of_file (choice : SkillResolutionChoice)
    (h : choice.fileTreeDigest.isSome) : ∃ path, choice.path = some path := by
  have ha := choice.accepted
  rw [ChoiceFields.validate, reject_bind_eq_ok, reject_bind_eq_ok, reject_bind_eq_ok,
    reject_bind_eq_ok, bind_eq_ok] at ha
  obtain ⟨-, -, -, -, _, hscope, -⟩ := ha
  cases hpath : choice.path with
  | none => simp [ChoiceFields.validateScope, hpath, h] at hscope
  | some path => exact ⟨path, rfl⟩

/-- The tree of a checked choice is there, and a file choice has a path and one file. -/
lemma source_of_validateChoice [Sha256] {loaded : LoadedResolutionChoice}
    (h : validateChoice loaded current incoming conflicts units = .ok ()) :
    ∃ source, choiceSource current incoming loaded = some source ∧
      (loaded.choice.fileTreeDigest.isSome → ∃ path file, loaded.choice.path = some path ∧
        source.entries.head? = some file) := by
  simp only [validateChoice, reject_bind_eq_ok, ne_eq, not_not] at h
  obtain ⟨hdeclared, -, -, h⟩ := h
  by_cases hdigest : loaded.choice.treeDigest.isSome
  · have hsome : loaded.tree.isSome := by
      rw [← Option.not_isNone, ← hdeclared, Option.not_isNone]
      exact hdigest
    obtain ⟨tree, htree⟩ := Option.isSome_iff_exists.mp hsome
    refine ⟨tree, by rw [choiceSource, if_pos hdigest, htree], fun hfile => ?_⟩
    obtain ⟨path, hpath⟩ := loaded.choice.path_of_file hfile
    simp only [hpath, reject_bind_eq_ok, hfile, if_true, validateFileChoice, reject_eq_ok,
      not_not, htree, Option.any_some] at h
    obtain ⟨-, -, -, -, hone⟩ := h
    have hlength : tree.entries.length = 1 := (of_decide_eq_true hone).1
    obtain ⟨file, hentries⟩ := List.length_eq_one_iff.mp hlength
    exact ⟨path, file, hpath, by rw [hentries]; rfl⟩
  · have hnone : loaded.choice.fileTreeDigest.isSome = false := by
      cases hf : loaded.choice.fileTreeDigest with
      | none => rfl
      | some digest => simp [ChoiceFields.treeDigest, hf] at hdigest
    have hno : loaded.choice.fileTreeDigest.isSome → ∀ p : Prop, p := fun hfile => by
      simp [hnone] at hfile
    by_cases huse : loaded.choice.use = some .current
    · exact ⟨current, by rw [choiceSource, if_neg hdigest, if_pos huse], fun hf => hno hf _⟩
    · exact ⟨incoming, by rw [choiceSource, if_neg hdigest, if_neg huse], fun hf => hno hf _⟩

/-- A checked choice applies, and the entries keep one entry for each path. -/
lemma applyChoice_ok [Sha256] (itemNames : List Text) {loaded : LoadedResolutionChoice}
    (h : validateChoice loaded current incoming conflicts units = .ok ())
    (hn : (paths entries).Nodup) :
    ∃ entries', applyChoice current incoming itemNames entries loaded = .ok entries' ∧
      (paths entries').Nodup := by
  obtain ⟨source, hsource, hfile⟩ := source_of_validateChoice h
  have hclear : (paths (clearScope loaded.choice.toChoiceFields itemNames entries)).Nodup :=
    hn.sublist (List.filter_sublist.map _)
  have hover : (paths (overwriteScope source loaded.choice.toChoiceFields itemNames
      entries)).Nodup :=
    nodup_foldl (fun _ row hr => nodup_put hr row) _ hclear
  simp only [applyChoice, hsource]
  split_ifs with hdigest
  · obtain ⟨path, file, hpath, hhead⟩ := hfile hdigest
    simp only [hpath, hhead]
    exact ⟨_, rfl, nodup_put hclear _⟩
  · cases hpath : loaded.choice.path with
    | none => exact ⟨_, rfl, hover⟩
    | some path =>
      dsimp only
      split_ifs
      · exact ⟨_, rfl, nodup_foldl (fun _ row hr => nodup_putNew hr row) _ hover⟩
      · exact ⟨_, rfl, hover⟩

/-- Checked choices apply one after the other. -/
lemma applyChoices_ok [Sha256] (itemNames : List Text)
    (h : ∀ loaded ∈ choices, validateChoice loaded current incoming conflicts units = .ok ())
    (hn : (paths entries).Nodup) :
    ∃ entries', choices.foldlM (applyChoice current incoming itemNames) entries = .ok entries' ∧
      (paths entries').Nodup := by
  induction choices generalizing entries with
  | nil => exact ⟨entries, rfl, hn⟩
  | cons first rest ih =>
    obtain ⟨middle, hmiddle, hnm⟩ := applyChoice_ok itemNames
      (h first List.mem_cons_self) hn
    obtain ⟨entries', hrest, hn'⟩ := ih (fun l hl => h l (List.mem_cons_of_mem _ hl)) hnm
    exact ⟨entries', by rw [List.foldlM_cons, hmiddle, ok_bind, hrest], hn'⟩

/-! ### Ancestors that several choices add -/

omit [UnicodeForms] in
/-- Where the default has nothing, at most one side has an entry. -/
lemma eq_none_of_defaultAt {path : Text} (h : defaultAt base current incoming path = none) :
    current.get path = none ∨ incoming.get path = none := by
  unfold defaultAt at h
  split_ifs at h
  · exact .inl h
  · exact .inr h
  · exact .inl h

/-- A path choice adds ancestors of one of the sides. -/
lemma get_of_ancestorAt {loaded : LoadedResolutionChoice} {path : Text} {entry : SkillTreeEntry}
    (h : ancestorAt current incoming loaded path = some entry) :
    current.get path = some entry ∨ incoming.get path = some entry := by
  unfold ancestorAt at h
  split at h
  · rename_i source root hsource hroot
    split_ifs at h with hcond
    have hget := (Option.filter_eq_some_iff.mp h).1
    have hdigest : loaded.choice.treeDigest.isSome = false := by
      have hdir := (loaded.choice.of_path hroot).2
      have hfile : loaded.choice.fileTreeDigest = none := by simpa using hcond.1
      simp [ChoiceFields.treeDigest, hdir, hfile]
    rw [choiceSource, hdigest, if_neg (by simp)] at hsource
    split_ifs at hsource
    · cases hsource
      exact .inl hget
    · cases hsource
      exact .inr hget
  · simp at h

/-- Both orders of the choices add the same ancestor where the default has nothing. -/
lemma ancestorFrom_perm (h : choices.Perm choices') {path : Text}
    (hd : defaultAt base current incoming path = none) :
    ancestorFrom current incoming choices path = ancestorFrom current incoming choices' path := by
  apply findSome?_perm h
  intro x _ y _ a b ha hb
  rcases eq_none_of_defaultAt hd with hnone | hnone
  · have ha' := (get_of_ancestorAt ha).resolve_left (by simp [hnone])
    have hb' := (get_of_ancestorAt hb).resolve_left (by simp [hnone])
    rw [ha', Option.some.injEq] at hb'
    exact hb'
  · have ha' := (get_of_ancestorAt ha).resolve_right (by simp [hnone])
    have hb' := (get_of_ancestorAt hb).resolve_right (by simp [hnone])
    rw [ha', Option.some.injEq] at hb'
    exact hb'

/-! ### The resolution -/

omit [UnicodeForms] in
lemma sorted_sortEntries (hn : (paths entries).Nodup) :
    (sortEntries entries).Pairwise fun a b => a.path.encode < b.path.encode := by
  have htotal : Std.Total fun a b : SkillTreeEntry => a.path.encode ≤ b.path.encode :=
    ⟨fun a b => le_total _ _⟩
  have htrans : IsTrans SkillTreeEntry fun a b => a.path.encode ≤ b.path.encode :=
    ⟨fun _ _ _ => le_trans⟩
  have hle : (sortEntries entries).Pairwise fun a b => a.path.encode ≤ b.path.encode :=
    List.pairwise_insertionSort _ _
  have hne : (paths (sortEntries entries)).Nodup :=
    (perm_sortEntries.map _).nodup_iff.mpr hn
  rw [paths, List.Nodup, List.pairwise_map] at hne
  exact (hle.and hne).imp fun h => lt_of_le_of_ne h.1 fun he => h.2 (Text.encode_injective he)

omit [UnicodeForms] in
/-- Sorting forgets the order of entries with different paths. -/
lemma sortEntries_congr (hn : (paths entries).Nodup) (hn' : (paths entries').Nodup)
    (h : ∀ path, entryAt entries path = entryAt entries' path) :
    sortEntries entries = sortEntries entries' := by
  refine eq_of_lookup_eq (sorted_sortEntries hn) (sorted_sortEntries hn') fun path => ?_
  have hl := lookup_perm hn perm_sortEntries path
  have hr := lookup_perm hn' perm_sortEntries path
  exact hl.trans ((h path).trans hr.symm)

/-- Both orders of accepted choices write the same entries. -/
lemma entryAt_applyChoices_perm (h : choices.Perm choices') (hs : Separate itemNames choices)
    (hrun : choices.foldlM (applyChoice current incoming itemNames)
      (defaultEntries base current incoming) = .ok entries)
    (hrun' : choices'.foldlM (applyChoice current incoming itemNames)
      (defaultEntries base current incoming) = .ok entries') (path : Text) :
    entryAt entries path = entryAt entries' path := by
  obtain ⟨hin, hout⟩ := entryAt_applyChoices hs hrun path
  obtain ⟨hin', hout'⟩ := entryAt_applyChoices ((separate_perm h).mp hs) hrun' path
  by_cases hp : ∃ loaded ∈ choices, inScope loaded.choice.toChoiceFields path itemNames
  · obtain ⟨loaded, hmem, hl⟩ := hp
    rw [hin loaded hmem hl, hin' loaded (h.mem_iff.mp hmem) hl]
  · have hno : ∀ loaded ∈ choices, inScope loaded.choice.toChoiceFields path itemNames = false :=
      fun loaded hmem => by
        rw [← Bool.not_eq_true]
        exact fun hl => hp ⟨loaded, hmem, hl⟩
    rw [hout hno, hout' fun loaded hmem => hno loaded (h.mem_iff.mpr hmem), entryAt_defaultEntries]
    cases hd : defaultAt base current incoming path with
    | some entry => rfl
    | none => rw [ancestorFrom_perm h hd]

/-- A permutation of the choices changes neither whether the resolution raises nor what it
returns, and no ancestor depends on the choice that adds it first. -/
theorem resolveDirectoryConflicts_perm [Sha256] (h : choices.Perm choices') :
    (resolveDirectoryConflicts base current incoming itemNames conflicts choices).toOption =
      (resolveDirectoryConflicts base current incoming itemNames conflicts choices').toOption ∧
    ∀ path, defaultAt base current incoming path = none →
      ancestorFrom current incoming choices path = ancestorFrom current incoming choices' path := by
  refine ⟨?_, fun path hd => ancestorFrom_perm h hd⟩
  unfold resolveDirectoryConflicts
  cases hunits : directoryMergeUnits [base, current, incoming] itemNames with
  | error e => rfl
  | ok units =>
    simp only [ok_bind]
    have hvalid : validateChoices current incoming itemNames conflicts units [] choices = .ok () ↔
        validateChoices current incoming itemNames conflicts units [] choices' = .ok () := by
      simp only [validateChoices_eq_ok, h.mem_iff, separate_perm h]
    cases hok : validateChoices current incoming itemNames conflicts units [] choices with
    | error e =>
      cases hok' : validateChoices current incoming itemNames conflicts units [] choices' with
      | error e' => rfl
      | ok u => simp [hok, hok'] at hvalid
    | ok u =>
      have hok' := hvalid.mp hok
      have hchecked := (validateChoices_eq_ok.mp hok)
      have hnd := nodup_paths (@sorted_defaultEntries base current incoming)
      obtain ⟨entries, hrun, hn⟩ := applyChoices_ok itemNames hchecked.1 hnd
      obtain ⟨entries', hrun', hn'⟩ := applyChoices_ok itemNames
        (validateChoices_eq_ok.mp hok').1 hnd
      have hsame := entryAt_applyChoices_perm h hchecked.2.1 hrun hrun'
      simp only [hok', ok_bind, hrun, hrun', sortEntries_congr hn hn' hsame, h.mem_iff]

end

/-- Two members that both sides edited, settled one by each side in either order. -/
theorem resolveDirectoryConflicts_perm_swap :
    let forms := asciiForms
    let hash : Sha256 := ⟨fun _ => []⟩
    let tree (n : ℕ) : List SkillTreeEntry := memberEntries ['a'] n ++ memberEntries ['b'] n
    let base : SkillTreeManifest := ⟨tree 1, by decide⟩
    let current : SkillTreeManifest := ⟨tree 2, by decide⟩
    let incoming : SkillTreeManifest := ⟨tree 3, by decide⟩
    let first : @SkillResolutionChoice forms :=
      @SkillResolutionChoice.mk forms { path := some "a/notes".toList, use := some .incoming }
        (by decide)
    let second : @SkillResolutionChoice forms :=
      @SkillResolutionChoice.mk forms { path := some "b/notes".toList, use := some .current }
        (by decide)
    let resolve (choices : List (@LoadedResolutionChoice forms)) : Option SkillMergeResult :=
      (@mergeDirectoryManifests forms base current incoming [['a'], ['b']]).toOption.bind
        fun report => (@resolveDirectoryConflicts forms hash base current incoming [['a'], ['b']]
          report.conflicts choices).toOption
    resolve [⟨first, none⟩, ⟨second, none⟩] = resolve [⟨second, none⟩, ⟨first, none⟩] ∧
      ((resolve [⟨first, none⟩, ⟨second, none⟩]).bind (·.merged)).isSome := by
  intro forms hash tree base current incoming first second resolve
  refine ⟨?_, by decide +kernel⟩
  refine Option.bind_congr fun report _ => ?_
  exact (@resolveDirectoryConflicts_perm forms base current incoming [['a'], ['b']]
    report.conflicts _ _ hash (List.Perm.swap _ _ [])).1

end AgentRemote
