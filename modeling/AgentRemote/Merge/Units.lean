import AgentRemote.Merge.Directory

/-!
# The canonical list of the link units

The trees and the names determine the units: every unit lists its scopes in the order of
their bytes, and the units are in order as well. Neither the order of the trees nor that of
a set of scopes shows in the result, and a slice of a tree by a unit is a tree of its own
whose links resolve as before.
-/

namespace AgentRemote
open Library Relation

/-- The scopes of a unit in the order of their bytes. -/
def OrderedUnit (unit : List Text) : Prop := unit.Pairwise fun a b => a.encode < b.encode

/-- The link units, each in order and in the order of their scopes. -/
structure CanonicalUnits (manifests : List SkillTreeManifest) (itemNames : List Text)
    (units : List (List Text)) : Prop where
  mem_iff : ∀ unit, unit ∈ units ↔ LinkUnit manifests itemNames unit ∧ OrderedUnit unit
  sorted : units.Pairwise fun a b => a.map Text.encode < b.map Text.encode

section

variable {manifests manifests' : List SkillTreeManifest} {itemNames itemNames' : List Text}
  {units units' : List (List Text)}

/-- Two lists in order with the same scopes are one unit. -/
lemma OrderedUnit.ext {unit unit' : List Text} (h : OrderedUnit unit) (h' : OrderedUnit unit')
    (hmem : ∀ t, t ∈ unit ↔ t ∈ unit') : unit = unit' := by
  have hn : ∀ {u : List Text}, OrderedUnit u → u.Nodup := fun hu =>
    hu.imp fun hlt heq => (heq ▸ hlt).false
  refine ((List.perm_ext_iff_of_nodup (hn h) (hn h')).mpr hmem).eq_of_pairwise ?_ h h'
  exact fun a b _ _ hab hba => absurd hab hba.not_gt

lemma orderedUnit_insertionSort {group : List Text} (hn : group.Nodup) :
    OrderedUnit (group.insertionSort fun a b => a.encode ≤ b.encode) := by
  have htotal : Std.Total fun a b : Text => a.encode ≤ b.encode := ⟨fun a b => le_total _ _⟩
  have htrans : IsTrans Text fun a b => a.encode ≤ b.encode := ⟨fun _ _ _ => le_trans⟩
  have hle := List.pairwise_insertionSort (fun a b : Text => a.encode ≤ b.encode) group
  have hne := (List.perm_insertionSort (fun a b : Text => a.encode ≤ b.encode) group).nodup_iff.mpr hn
  exact (hle.and hne).imp fun h => lt_of_le_of_ne h.1 fun he => h.2 (Text.encode_injective he)

lemma LinkUnit.exists_mem {unit : List Text} (h : LinkUnit manifests itemNames unit) :
    ∃ s, s ∈ unit := by
  obtain ⟨s, hs, hmem⟩ := h
  exact ⟨s, (hmem s).mpr ⟨hs, .refl s⟩⟩

/-- Link units with a scope in common have the same scopes. -/
lemma LinkUnit.mem_iff_of_mem {unit unit' : List Text} (h : LinkUnit manifests itemNames unit)
    (h' : LinkUnit manifests itemNames unit') {s : Text} (hs : s ∈ unit) (hs' : s ∈ unit') (t : Text) :
    t ∈ unit ↔ t ∈ unit' := by
  obtain ⟨r, -, hr⟩ := h
  obtain ⟨r', -, hr'⟩ := h'
  have hrs := ((hr s).mp hs).2
  have hrs' := ((hr' s).mp hs').2
  rw [hr, hr']
  refine and_congr_right fun _ => ⟨fun ht => ?_, fun ht => ?_⟩
  · exact hrs'.trans _ _ _ (hrs.symm.trans _ _ _ ht)
  · exact hrs.trans _ _ _ (hrs'.symm.trans _ _ _ ht)

lemma sorted_orderedUnits {f : Forest Text}
    (hne : ∀ unit ∈ orderedUnits f, unit ≠ []) :
    (orderedUnits f).Pairwise fun a b => a.map Text.encode < b.map Text.encode := by
  have htotal : Std.Total fun a b : List Text => a.map Text.encode ≤ b.map Text.encode :=
    ⟨fun a b => le_total _ _⟩
  have htrans : IsTrans (List Text) fun a b => a.map Text.encode ≤ b.map Text.encode :=
    ⟨fun _ _ _ => le_trans⟩
  have hle : (orderedUnits f).Pairwise fun a b => a.map Text.encode ≤ b.map Text.encode :=
    List.pairwise_insertionSort _ _
  refine (hle.and disjoint_orderedUnits).imp_of_mem fun ha _ h => lt_of_le_of_ne h.1 fun he => ?_
  obtain ⟨s, hs⟩ := List.exists_mem_of_ne_nil _ (hne _ ha)
  have heq := List.map_injective_iff.mpr Text.encode_injective he
  exact h.2 hs (heq ▸ hs)

/-- Any order of the scopes gives the canonical list. -/
theorem canonicalUnits_orderedUnits {nodes : List Text} (hnd : nodes.Nodup)
    (hnodes : ∀ s, s ∈ nodes ↔ s ∈ scopes manifests itemNames) :
    CanonicalUnits manifests itemNames (orderedUnits
      ((Forest.singletons nodes).connectAll (allPairs manifests itemNames))) := by
  have hu := mergeUnits_orderedUnits hnodes
  set f := (Forest.singletons nodes).connectAll (allPairs manifests itemNames) with hf
  have hfnd : f.nodes.Nodup := by
    have hn := (Forest.connectAll_spec nodes (allPairs manifests itemNames) fun p hp =>
      (allPairs_mem_scopes p hp).imp (hnodes _).mpr (hnodes _).mpr).1
    rwa [← hf] at hn ▸ hnd
  have hord : ∀ unit ∈ orderedUnits f, OrderedUnit unit := by
    intro unit hunit
    obtain ⟨g, hg, rfl⟩ := mem_orderedUnits.mp hunit
    exact orderedUnit_insertionSort (Forest.nodup_of_mem_groups hfnd hg)
  refine ⟨fun unit => ⟨fun hunit => ⟨hu.linkUnit unit hunit, hord unit hunit⟩, ?_⟩, ?_⟩
  · rintro ⟨hlink, hunit⟩
    obtain ⟨unit', hunit', hmem⟩ := hu.exists_of_linkUnit hlink
    rwa [hunit.ext (hord unit' hunit') hmem]
  · refine sorted_orderedUnits fun unit hunit => ?_
    obtain ⟨s, hs⟩ := (hu.linkUnit unit hunit).exists_mem
    exact List.ne_nil_of_mem hs

/-- Inputs with the same link units have the same list. -/
theorem CanonicalUnits.ext (h : CanonicalUnits manifests itemNames units)
    (h' : CanonicalUnits manifests' itemNames' units')
    (hlink : ∀ unit, LinkUnit manifests itemNames unit ↔ LinkUnit manifests' itemNames' unit) :
    units = units' := by
  have hn : ∀ {us : List (List Text)},
      us.Pairwise (fun a b => a.map Text.encode < b.map Text.encode) → us.Nodup :=
    fun hu => hu.imp fun hlt heq => (heq ▸ hlt).false
  have hperm : units.Perm units' := by
    rw [List.perm_ext_iff_of_nodup (hn h.sorted) (hn h'.sorted)]
    intro unit
    rw [h.mem_iff, h'.mem_iff, hlink]
  refine hperm.eq_of_pairwise ?_ h.sorted h'.sorted
  exact fun a b _ _ hab hba => absurd hab hba.not_gt

/-- The trees and the names count, and not their order. -/
lemma linkUnit_congr (hm : ∀ m, m ∈ manifests ↔ m ∈ manifests')
    (hn : ∀ name, name ∈ itemNames ↔ name ∈ itemNames') (unit : List Text) :
    LinkUnit manifests itemNames unit ↔ LinkUnit manifests' itemNames' unit := by
  have hscope : scope itemNames = scope itemNames' := by
    funext p
    simp only [scope, hn]
  have hscopes : ∀ s, s ∈ scopes manifests itemNames ↔ s ∈ scopes manifests' itemNames' := by
    intro s
    simp only [mem_scopes, hm, hscope]
  have hlinked : Linked manifests itemNames = Linked manifests' itemNames' := by
    funext a b
    simp only [Linked, hm, hscope]
  simp only [LinkUnit, hscopes, hlinked]

variable [UnicodeForms]

/-- Valid names always yield the canonical list. -/
lemma directoryMergeUnits_eq (hnames : ∀ name ∈ itemNames, MemberName name) :
    ∃ units, directoryMergeUnits manifests itemNames = .ok units ∧
      CanonicalUnits manifests itemNames units ∧ MergeUnits manifests itemNames units := by
  have hnodes : ∀ s, s ∈ scopes manifests itemNames ↔ s ∈ scopes manifests itemNames :=
    fun _ => Iff.rfl
  refine ⟨_, directoryMergeUnits_ok hnames, canonicalUnits_orderedUnits (List.nodup_dedup _) hnodes,
    mergeUnits_orderedUnits hnodes⟩

/-- The units do not depend on the order of the trees or of the names. -/
lemma directoryMergeUnits_congr (hm : ∀ m, m ∈ manifests ↔ m ∈ manifests')
    (hn : ∀ name, name ∈ itemNames ↔ name ∈ itemNames')
    (hok : directoryMergeUnits manifests itemNames = .ok units) :
    directoryMergeUnits manifests' itemNames' = .ok units := by
  have hnames := memberNames_of_units_ok hok
  obtain ⟨us, hus, hc, -⟩ := @directoryMergeUnits_eq manifests itemNames _ hnames
  obtain ⟨us', hus', hc', -⟩ := @directoryMergeUnits_eq manifests' itemNames' _
    fun name hname => hnames name ((hn name).mpr hname)
  rw [hok, Except.ok.injEq] at hus
  rw [hus', hus, hc.ext hc' (linkUnit_congr hm hn)]

/-- The units are the connected components of the scopes under the links of all trees, in
canonical order. Every scope has one unit, no order of the inputs changes the list, and the
entries of one unit are a tree of their own with every link resolved as before. -/
theorem directoryMergeUnits_canonical (hnames : ∀ name ∈ itemNames, MemberName name) :
    ∃ units, directoryMergeUnits manifests itemNames = .ok units ∧
      (∀ unit, unit ∈ units ↔ LinkUnit manifests itemNames unit ∧ OrderedUnit unit) ∧
      (∀ s ∈ scopes manifests itemNames, ∃! unit, unit ∈ units ∧ s ∈ unit) ∧
      (units.Pairwise fun a b => a.map Text.encode < b.map Text.encode) ∧
      (∀ manifests' itemNames', (∀ m, m ∈ manifests' ↔ m ∈ manifests) →
        (∀ name, name ∈ itemNames' ↔ name ∈ itemNames) →
          directoryMergeUnits manifests' itemNames' = .ok units) ∧
      (∀ nodes, nodes.Perm (scopes manifests itemNames) →
        (manifests.foldlM (connectLinks itemNames) (Forest.singletons nodes)).map orderedUnits =
          .ok units) ∧
      ∀ m ∈ manifests, ∀ unit ∈ units, ∃ part : SkillTreeManifest,
        part.entries = slice itemNames unit m.entries ∧
          ∀ e ∈ part.entries, e.kind = .symlink → ∃ result,
            resolveManifestLink e m.entries = .ok result ∧
              resolveManifestLink e part.entries = .ok result := by
  obtain ⟨units, hok, hc, hu⟩ := @directoryMergeUnits_eq manifests itemNames _ hnames
  refine ⟨units, hok, hc.mem_iff, ?_, hc.sorted, ?_, ?_, ?_⟩
  · intro s hs
    obtain ⟨unit, hunit, hsu⟩ := hu.cover s hs
    refine ⟨unit, ⟨hunit, hsu⟩, ?_⟩
    rintro unit' ⟨hunit', hsu'⟩
    have hmem := (hu.linkUnit unit' hunit').mem_iff_of_mem (hu.linkUnit unit hunit) hsu' hsu
    exact ((hc.mem_iff unit').mp hunit').2.ext ((hc.mem_iff unit).mp hunit).2 hmem
  · intro manifests' itemNames' hm hn
    exact directoryMergeUnits_congr (fun m => (hm m).symm) (fun name => (hn name).symm) hok
  · intro nodes hperm
    have hnodes : ∀ s, s ∈ nodes ↔ s ∈ scopes manifests itemNames := fun _ => hperm.mem_iff
    rw [foldlM_connectLinks fun s hs => (hnodes s).mpr hs]
    have hc' := canonicalUnits_orderedUnits (hperm.nodup_iff.mpr (List.nodup_dedup _)) hnodes
    exact congrArg Except.ok (hc'.ext hc fun _ => Iff.rfl)
  · intro m hm unit hunit
    have hclosed : ∀ e ∈ m.entries, e.kind = .symlink → scope itemNames e.path ∈ unit →
        ∀ result, resolveManifestLink e m.entries = .ok result →
          ∀ d ∈ result.2, scope itemNames d ∈ unit :=
      fun _ he hk hs _ hr _ hd => (hu.linkUnit unit hunit).dependency_mem hm he hk hr hd hs
    refine ⟨⟨slice itemNames unit m.entries,
      validateTree_eq_ok.mpr (treeRules_slice m.rules hclosed)⟩, rfl, fun e he hk => ?_⟩
    obtain ⟨he, hs⟩ := mem_slice.mp he
    obtain ⟨result, hr⟩ := m.rules.links e he hk
    refine ⟨result, hr, resolveManifestLink_congr hr fun d hd => ?_⟩
    rw [entryAt_slice, if_pos (hclosed e he hk hs result hr d hd)]

end

/-- Two members, where a link of the first looks up the second. -/
def linkedEntries : List SkillTreeEntry :=
  [.directory ['a'], { path := "a/link".toList, kind := .symlink, mode := 0o777, target := "../b".toList },
    .directory ['b'], .directory ['c']]

/-- Linked members are one unit, and the third is a unit of its own. -/
theorem directoryMergeUnits_canonical_linked :
    let m : SkillTreeManifest := ⟨linkedEntries, by decide⟩
    @directoryMergeUnits asciiForms [m, m] [['c'], ['b'], ['a']] = .ok [[['a'], ['b']], [['c']]] ∧
      LinkUnit [m, m] [['c'], ['b'], ['a']] [['a'], ['b']] := by
  intro m
  have hunits : @directoryMergeUnits asciiForms [m, m] [['c'], ['b'], ['a']] =
      .ok [[['a'], ['b']], [['c']]] := by
    decide +kernel
  have hnames : ∀ name ∈ [['c'], ['b'], ['a']], @MemberName asciiForms name := by
    intro name hname
    simp only [List.mem_cons, List.not_mem_nil, or_false] at hname
    rcases hname with rfl | rfl | rfl <;> exact @MemberName.mk asciiForms _ (by decide) (by decide)
  obtain ⟨units, hok, hmem, -⟩ :=
    @directoryMergeUnits_canonical [m, m] [['c'], ['b'], ['a']] asciiForms hnames
  rw [hunits, Except.ok.injEq] at hok
  refine ⟨hunits, ((hmem _).mp ?_).1⟩
  rw [← hok]
  exact List.mem_cons_self

end AgentRemote
