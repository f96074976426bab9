import AgentRemote.Manifest.Forms
import AgentRemote.Merge.Units

/-!
# Compaction of a directory

`compactTree` drops the roots whose whole link unit was selected and is not preserved. A unit
is closed under the lookups of its links in both directions, so no link that stays behind
loses anything it looked up.
-/

namespace AgentRemote
open Library

/-- The exact identity of a member. -/
structure CompactionMember where
  entryName : Text
  stateId : ℕ
  checkpointId : ℕ
  deriving DecidableEq

structure CompactedTree where
  result : SkillTreeManifest
  removed : List CompactionMember
  blocked : List CompactionMember

/-- The top-level names of a tree. -/
def treeRoots (tree : SkillTreeManifest) : List Text := (tree.entries.map (·.path.top)).dedup

/-- The names of the selected members. -/
def candidateNames (members : List CompactionMember) (selected : List ℕ) : List Text :=
  (members.filter (·.checkpointId ∈ selected)).map (·.entryName)

/-- The union of the units that are selected as a whole and not preserved. -/
def removableRoots (units : List (List Text)) (candidates preservedRoots : List Text) : List Text :=
  (units.filter fun unit =>
    (∀ root ∈ unit, root ∈ candidates) ∧ ¬∃ root ∈ unit, root ∈ preservedRoots).flatten

def compactTree [UnicodeForms] (tree : SkillTreeManifest) (members : List CompactionMember)
    (selected : List ℕ) (preservedRoots : List Text) : Except String CompactedTree := do
  let candidates := candidateNames members selected
  let units ← directoryMergeUnits [tree] (treeRoots tree)
  let removable := removableRoots units candidates preservedRoots
  let result ← SkillTreeManifest.ofEntries (tree.entries.filter fun e => e.path.top ∉ removable)
  return ⟨result, members.filter (·.entryName ∈ removable),
    members.filter fun m => m.entryName ∈ candidates ∧ m.entryName ∉ removable⟩

/-- The root belongs to a link unit whose roots are all selected and none of them preserved. -/
def Removable (tree : SkillTreeManifest) (members : List CompactionMember) (selected : List ℕ)
    (preservedRoots : List Text) (root : Text) : Prop :=
  ∃ unit, LinkUnit [tree] (treeRoots tree) unit ∧ root ∈ unit ∧
    ∀ r ∈ unit, (∃ m ∈ members, m.checkpointId ∈ selected ∧ m.entryName = r) ∧ r ∉ preservedRoots

section

variable {tree : SkillTreeManifest} {members : List CompactionMember} {selected : List ℕ}
  {preservedRoots : List Text} {units : List (List Text)}

lemma mem_candidateNames {name : Text} :
    name ∈ candidateNames members selected ↔
      ∃ m ∈ members, m.checkpointId ∈ selected ∧ m.entryName = name := by
  simp [candidateNames, and_assoc]

lemma scope_treeRoots {e : SkillTreeEntry} (he : e ∈ tree.entries) :
    scope (treeRoots tree) e.path = e.path.top := by
  have hmem : e.path.top ∈ treeRoots tree := by
    rw [treeRoots, List.mem_dedup]
    exact List.mem_map.mpr ⟨e, he, rfl⟩
  rw [scope, if_pos hmem]

/-- What the code removes is what the units allow. -/
lemma mem_removableRoots (hu : MergeUnits [tree] (treeRoots tree) units) {root : Text} :
    root ∈ removableRoots units (candidateNames members selected) preservedRoots ↔
      Removable tree members selected preservedRoots root := by
  simp only [removableRoots, List.mem_flatten, List.mem_filter, decide_eq_true_eq,
    mem_candidateNames, not_exists, not_and]
  constructor
  · rintro ⟨unit, ⟨hunit, hall, hnone⟩, hroot⟩
    exact ⟨unit, hu.linkUnit unit hunit, hroot, fun r hr => ⟨hall r hr, hnone r hr⟩⟩
  · rintro ⟨unit, hlink, hroot, hall⟩
    obtain ⟨unit', hunit', hmem⟩ := hu.exists_of_linkUnit hlink
    refine ⟨unit', ⟨hunit', fun r hr => ?_, fun r hr => ?_⟩, (hmem root).mp hroot⟩
    · exact (hall r ((hmem r).mpr hr)).1
    · exact (hall r ((hmem r).mpr hr)).2

/-- A link that stays keeps everything it looks up. -/
lemma not_removable_dependency {e : SkillTreeEntry} (he : e ∈ tree.entries)
    (hk : e.kind = .symlink) {result : Text × List Text}
    (hr : resolveManifestLink e tree.entries = .ok result) {d : Text} (hd : d ∈ result.2)
    (hn : ¬Removable tree members selected preservedRoots (scope (treeRoots tree) e.path)) :
    ¬Removable tree members selected preservedRoots (scope (treeRoots tree) d) := by
  rintro ⟨unit, hlink, hdu, hall⟩
  refine hn ⟨unit, hlink, ?_, hall⟩
  exact hlink.source_mem (List.mem_singleton_self tree) he hk hr hd hdu

lemma candidate_of_removable {root : Text}
    (h : Removable tree members selected preservedRoots root) :
    root ∈ candidateNames members selected := by
  obtain ⟨unit, -, hroot, hall⟩ := h
  exact mem_candidateNames.mpr (hall root hroot).1

/-- A set of candidate names cuts the members with a candidate name in two. -/
lemma perm_removed_blocked {candidates removable : List Text}
    (h : ∀ root ∈ removable, root ∈ candidates) :
    ((members.filter (·.entryName ∈ removable)) ++
      members.filter fun m => m.entryName ∈ candidates ∧ m.entryName ∉ removable).Perm
        (members.filter (·.entryName ∈ candidates)) := by
  have hleft : members.filter (·.entryName ∈ removable) =
      (members.filter (·.entryName ∈ candidates)).filter (·.entryName ∈ removable) := by
    rw [List.filter_filter]
    refine List.filter_congr fun m _ => ?_
    by_cases hm : m.entryName ∈ removable
    · simp [hm, h _ hm]
    · simp [hm]
  have hright : (members.filter fun m => m.entryName ∈ candidates ∧ m.entryName ∉ removable) =
      (members.filter (·.entryName ∈ candidates)).filter
        fun m => !decide (m.entryName ∈ removable) := by
    rw [List.filter_filter]
    refine List.filter_congr fun m _ => ?_
    simp [Bool.and_comm]
  rw [hleft, hright]
  exact List.filter_append_perm _ _

/-- The entries that stay are the slice of the scopes that stay. -/
lemma filter_eq_slice (removable : List Text) :
    (tree.entries.filter fun e => e.path.top ∉ removable) =
      slice (treeRoots tree) ((treeRoots tree).filter (· ∉ removable)) tree.entries := by
  refine List.filter_congr fun e he => ?_
  have hmem : e.path.top ∈ treeRoots tree := by
    rw [treeRoots, List.mem_dedup]
    exact List.mem_map.mpr ⟨e, he, rfl⟩
  simp [scope_treeRoots he, hmem]

variable [UnicodeForms]

/-- The roots of a tree with accepted paths are member names. -/
lemma memberName_of_mem_treeRoots (hforms : LawfulForms) (hvalid : ∀ e ∈ tree.entries, e.Accepted) :
    ∀ name ∈ treeRoots tree, MemberName name := by
  intro name hname
  rw [treeRoots, List.mem_dedup, List.mem_map] at hname
  obtain ⟨e, he, rfl⟩ := hname
  have hfields := (hvalid e he).1
  rw [SkillTreeEntry.validateFields, bind_eq_ok] at hfields
  obtain ⟨_, hpath, -⟩ := hfields
  exact memberName_top hforms hpath

/-- Compaction of a valid tree never raises. It keeps exactly the entries of the roots that are
not removable, every link of the result resolves as before, and the members with a selected name
are either removed with their roots or blocked. -/
theorem compactTree_spec (hforms : LawfulForms) (hvalid : ∀ e ∈ tree.entries, e.Accepted) :
    ∃ compacted, compactTree tree members selected preservedRoots = .ok compacted ∧
      compacted.result.entries.Sublist tree.entries ∧
      (∀ e, e ∈ compacted.result.entries ↔
        e ∈ tree.entries ∧ ¬Removable tree members selected preservedRoots e.path.top) ∧
      (∀ e ∈ compacted.result.entries, e.kind = .symlink → ∃ result,
        resolveManifestLink e tree.entries = .ok result ∧
          resolveManifestLink e compacted.result.entries = .ok result) ∧
      (∀ m, m ∈ compacted.removed ↔
        m ∈ members ∧ Removable tree members selected preservedRoots m.entryName) ∧
      compacted.removed.Disjoint compacted.blocked ∧
      (compacted.removed ++ compacted.blocked).Perm
        (members.filter (·.entryName ∈ candidateNames members selected)) := by
  obtain ⟨units, hunits, -, hu⟩ := @directoryMergeUnits_eq [tree] (treeRoots tree) _
    (memberName_of_mem_treeRoots hforms hvalid)
  set removable := removableRoots units (candidateNames members selected) preservedRoots with hrem
  have hiff : ∀ root, root ∈ removable ↔ Removable tree members selected preservedRoots root :=
    fun root => mem_removableRoots hu
  have hclosed : ∀ e ∈ tree.entries, e.kind = .symlink →
      scope (treeRoots tree) e.path ∈ (treeRoots tree).filter (· ∉ removable) →
        ∀ result, resolveManifestLink e tree.entries = .ok result → ∀ d ∈ result.2,
          scope (treeRoots tree) d ∈ (treeRoots tree).filter (· ∉ removable) := by
    intro e he hk hs result hr d hd
    have hstay : scope (treeRoots tree) e.path ∉ removable := by simpa using (List.mem_filter.mp hs).2
    obtain ⟨t, ht⟩ := Option.isSome_iff_exists.mp (isSome_of_mem_dependencies hr d hd)
    have hroot : scope (treeRoots tree) d ∈ treeRoots tree := by
      rw [← key_of_lookup ht, scope_treeRoots (mem_of_lookup ht), treeRoots, List.mem_dedup]
      exact List.mem_map.mpr ⟨t, mem_of_lookup ht, rfl⟩
    rw [hiff] at hstay
    refine List.mem_filter.mpr ⟨hroot, ?_⟩
    rw [decide_eq_true_eq, hiff]
    exact not_removable_dependency he hk hr hd hstay
  have hrules := treeRules_slice tree.rules hclosed
  rw [← filter_eq_slice] at hrules
  refine ⟨⟨⟨_, validateTree_eq_ok.mpr hrules⟩, members.filter (·.entryName ∈ removable),
    members.filter fun m => m.entryName ∈ candidateNames members selected ∧
      m.entryName ∉ removable⟩, ?_, List.filter_sublist, ?_, ?_, ?_, ?_, ?_⟩
  · simp only [compactTree, hunits, ok_bind, ← hrem, SkillTreeManifest.ofEntries_of_rules hrules]
    rfl
  · intro e
    simp [hiff]
  · intro e he hk
    have hmem : e ∈ slice (treeRoots tree) ((treeRoots tree).filter (· ∉ removable)) tree.entries := by
      rw [← filter_eq_slice]
      exact he
    obtain ⟨hetree, hs⟩ := mem_slice.mp hmem
    obtain ⟨result, hr⟩ := tree.rules.links e hetree hk
    refine ⟨result, hr, resolveManifestLink_congr hr fun d hd => ?_⟩
    have hget := @entryAt_slice (treeRoots tree) ((treeRoots tree).filter (· ∉ removable))
      tree.entries d
    rw [if_pos (hclosed e hetree hk hs result hr d hd), ← filter_eq_slice] at hget
    exact hget
  · intro m
    simp [hiff]
  · intro m hm hm'
    simp only [List.mem_filter, decide_eq_true_eq] at hm hm'
    exact hm'.2.2 hm.2
  · exact perm_removed_blocked fun root hroot => candidate_of_removable ((hiff root).mp hroot)

end

/-- Two selected members, one of which is linked with a root that is not selected. -/
theorem compactTree_spec_blocked :
    let tree : SkillTreeManifest := ⟨linkedEntries, by decide⟩
    let members : List CompactionMember := [⟨['a'], 1, 1⟩, ⟨['c'], 2, 2⟩]
    ∃ compacted, @compactTree asciiForms tree members [1, 2] [] = .ok compacted ∧
      compacted.removed = [⟨['c'], 2, 2⟩] ∧ compacted.blocked = [⟨['a'], 1, 1⟩] ∧
        compacted.result.get ['c'] = none ∧ compacted.removed.Disjoint compacted.blocked := by
  intro tree members
  have hvalid : ∀ e ∈ tree.entries, @SkillTreeEntry.Accepted asciiForms e := by
    intro e he
    simp only [tree, linkedEntries, List.mem_cons, List.not_mem_nil, or_false] at he
    rcases he with rfl | rfl | rfl | rfl <;> exact ⟨by decide, by decide⟩
  obtain ⟨compacted, hok, -, hentries, -, hremoved, hdisjoint, -⟩ :=
    @compactTree_spec tree members [1, 2] [] asciiForms lawfulForms_ascii hvalid
  have hrun : (@compactTree asciiForms tree members [1, 2] []).toOption.map
      (fun c => (c.removed, c.blocked, c.result.get ['c'])) =
        some ([⟨['c'], 2, 2⟩], [⟨['a'], 1, 1⟩], none) := by
    decide +kernel
  rw [hok] at hrun
  simp only [Except.toOption, Option.map_some, Option.some.injEq, Prod.mk.injEq] at hrun
  exact ⟨compacted, hok, hrun.1, hrun.2.1, hrun.2.2, hdisjoint⟩

end AgentRemote
