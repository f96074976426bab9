import AgentRemote.Library.UnionFind
import AgentRemote.Manifest.Tree

/-!
# Merge units

Every path belongs to the scope of its top-level name, or to the auxiliary scope when that
name is no known member. Scopes joined by a relative link form one unit: the source of the
link and everything it looks up are merged together.
-/

namespace AgentRemote
open Library Relation

/-- The scope of everything outside the known members. -/
def auxiliaryScope : Text := ['.']

/-- `_scope`. -/
def scope (itemNames : List Text) (path : Text) : Text :=
  if path.top ∈ itemNames then path.top else auxiliaryScope

def checkNames [UnicodeForms] : List Text → Except String Unit
  | [] => .ok ()
  | name :: rest => do
    validateRelativePath name
    reject ('/' ∈ name) "skill merge member must be a top-level name"
    checkNames rest

/-- The scopes that occur in the trees. -/
def scopes (manifests : List SkillTreeManifest) (itemNames : List Text) : List Text :=
  (manifests.flatMap fun m => m.entries.map fun e => scope itemNames e.path).dedup

/-- `_ConnectedScopes.connect`, which knows registered scopes only. -/
def connectScope (left : Text) (connected : Forest Text) (right : Text) :
    Except String (Forest Text) := do
  reject (left ∉ connected.nodes ∨ right ∉ connected.nodes) "scope is not registered"
  return connected.connect left right

def connectLink (itemNames : List Text) (entries : List SkillTreeEntry) (connected : Forest Text)
    (entry : SkillTreeEntry) : Except String (Forest Text) :=
  if entry.kind = .symlink then do
    let (_, dependencies) ← resolveManifestLink entry entries
    (dependencies.map (scope itemNames)).foldlM (connectScope (scope itemNames entry.path)) connected
  else .ok connected

def connectLinks (itemNames : List Text) (connected : Forest Text) (manifest : SkillTreeManifest) :
    Except String (Forest Text) :=
  manifest.entries.foldlM (connectLink itemNames manifest.entries) connected

/-- `_ConnectedScopes.units`: sorted groups in sorted order. -/
def orderedUnits (connected : Forest Text) : List (List Text) :=
  (connected.groups.map fun group => group.insertionSort fun a b => a.encode ≤ b.encode).insertionSort
    fun a b => a.map Text.encode ≤ b.map Text.encode

def directoryMergeUnits [UnicodeForms] (manifests : List SkillTreeManifest) (itemNames : List Text) :
    Except String (List (List Text)) := do
  checkNames itemNames
  let connected ← manifests.foldlM (connectLinks itemNames)
    (Forest.singletons (scopes manifests itemNames))
  return orderedUnits connected

/-! ### The relation behind the units -/

/-- A link with source in scope `a` looks up a path in scope `b`. -/
def Linked (manifests : List SkillTreeManifest) (itemNames : List Text) (a b : Text) : Prop :=
  ∃ m ∈ manifests, ∃ e ∈ m.entries, e.kind = .symlink ∧
    ∃ result, resolveManifestLink e m.entries = .ok result ∧
      ∃ d ∈ result.2, scope itemNames e.path = a ∧ scope itemNames d = b

/-- The scopes of the trees that links connect with one of them. -/
def LinkUnit (manifests : List SkillTreeManifest) (itemNames : List Text) (unit : List Text) :
    Prop :=
  ∃ s ∈ scopes manifests itemNames, ∀ t, t ∈ unit ↔
    t ∈ scopes manifests itemNames ∧ EqvGen (Linked manifests itemNames) s t

section

variable {manifests : List SkillTreeManifest} {itemNames : List Text}

lemma scope_congr {p q : Text} (h : p.top = q.top) : scope itemNames p = scope itemNames q := by
  simp only [scope, h]

lemma mem_scopes {s : Text} :
    s ∈ scopes manifests itemNames ↔
      ∃ m ∈ manifests, ∃ e ∈ m.entries, scope itemNames e.path = s := by
  simp [scopes]

lemma scope_mem_scopes {m : SkillTreeManifest} (hm : m ∈ manifests) {e : SkillTreeEntry}
    (he : e ∈ m.entries) : scope itemNames e.path ∈ scopes manifests itemNames :=
  mem_scopes.mpr ⟨m, hm, e, he, rfl⟩

/-- The scope of a dependency of a link occurs in the trees. -/
lemma scope_dependency_mem {m : SkillTreeManifest} (hm : m ∈ manifests) {e : SkillTreeEntry}
    {result : Text × List Text} (hr : resolveManifestLink e m.entries = .ok result) {d : Text}
    (hd : d ∈ result.2) : scope itemNames d ∈ scopes manifests itemNames := by
  obtain ⟨t, ht⟩ := Option.isSome_iff_exists.mp (isSome_of_mem_dependencies hr d hd)
  have h : scope itemNames t.path ∈ scopes manifests itemNames :=
    scope_mem_scopes hm (mem_of_lookup ht)
  rwa [key_of_lookup ht] at h

lemma checkNames_eq_ok [UnicodeForms] :
    checkNames itemNames = .ok () ↔ ∀ name ∈ itemNames, MemberName name := by
  induction itemNames with
  | nil => simp [checkNames]
  | cons name rest ih =>
    simp only [checkNames, bind_eq_ok, ih, List.mem_cons, forall_eq_or_imp, reject_eq_ok]
    constructor
    · rintro ⟨_, hp, _, ht, hrest⟩
      exact ⟨⟨hp, ht⟩, hrest⟩
    · rintro ⟨⟨hp, ht⟩, hrest⟩
      exact ⟨(), hp, (), ht, hrest⟩

/-! ### The loops connect the linked pairs -/

/-- The pairs one entry connects. -/
def linkPairs (itemNames : List Text) (entries : List SkillTreeEntry) (entry : SkillTreeEntry) :
    List (Text × Text) :=
  if entry.kind = .symlink then
    match resolveManifestLink entry entries with
    | .ok result => result.2.map fun d => (scope itemNames entry.path, scope itemNames d)
    | .error _ => []
  else []

def allPairs (manifests : List SkillTreeManifest) (itemNames : List Text) : List (Text × Text) :=
  manifests.flatMap fun m => m.entries.flatMap (linkPairs itemNames m.entries)

lemma mem_allPairs {a b : Text} :
    (a, b) ∈ allPairs manifests itemNames ↔ Linked manifests itemNames a b := by
  simp only [allPairs, List.mem_flatMap, Linked]
  refine exists_congr fun m => and_congr_right fun hm => exists_congr fun e =>
    and_congr_right fun he => ?_
  unfold linkPairs
  split_ifs with hk
  · cases hr : resolveManifestLink e m.entries with
    | error _ => simp [hk]
    | ok result => simp [hk]
  · simp [hk]

lemma allPairs_mem_scopes : ∀ p ∈ allPairs manifests itemNames,
    p.1 ∈ scopes manifests itemNames ∧ p.2 ∈ scopes manifests itemNames := by
  rintro ⟨a, b⟩ hp
  obtain ⟨m, hm, e, he, -, result, hr, d, hd, rfl, rfl⟩ := mem_allPairs.mp hp
  exact ⟨scope_mem_scopes hm he, scope_dependency_mem hm hr hd⟩

/-- Connecting registered scopes keeps the nodes and does what the forest does. -/
lemma foldlM_connectScope {f : Forest Text} (hf : f.Valid) {left : Text} (hl : left ∈ f.nodes)
    (rights : List Text) (hr : ∀ r ∈ rights, r ∈ f.nodes) :
    rights.foldlM (connectScope left) f = .ok (f.connectAll (rights.map fun r => (left, r))) ∧
      (f.connectAll (rights.map fun r => (left, r))).nodes = f.nodes ∧
        (f.connectAll (rights.map fun r => (left, r))).Valid := by
  induction rights generalizing f with
  | nil => exact ⟨rfl, rfl, hf⟩
  | cons r rights ih =>
    have hrn : r ∈ f.nodes := hr r List.mem_cons_self
    have hn := Forest.connect_nodes hf hl hrn
    obtain ⟨hok, hnodes, hvalid⟩ := ih (hf.connect hl hrn) (by rwa [hn])
      (fun s hs => by rw [hn]; exact hr s (List.mem_cons_of_mem _ hs))
    have hstep : connectScope left f r = .ok (f.connect left r) := by
      simp [connectScope, hl, hrn]
    rw [List.foldlM_cons, hstep, ok_bind, hok]
    exact ⟨rfl, hnodes.trans hn, hvalid⟩

/-- A fold of steps that each connect the pairs of one element connects all their pairs. -/
lemma foldlM_connect {γ : Type} {step : Forest Text → γ → Except String (Forest Text)}
    {pairs : γ → List (Text × Text)} (xs : List γ) {f : Forest Text} (hf : f.Valid)
    (hstep : ∀ x ∈ xs, ∀ g : Forest Text, g.Valid → g.nodes = f.nodes →
      step g x = .ok (g.connectAll (pairs x)) ∧ (g.connectAll (pairs x)).nodes = g.nodes ∧
        (g.connectAll (pairs x)).Valid) :
    xs.foldlM step f = .ok (f.connectAll (xs.flatMap pairs)) ∧
      (f.connectAll (xs.flatMap pairs)).nodes = f.nodes ∧
        (f.connectAll (xs.flatMap pairs)).Valid := by
  induction xs generalizing f with
  | nil => exact ⟨rfl, rfl, hf⟩
  | cons x xs ih =>
    obtain ⟨hok, hn, hv⟩ := hstep x List.mem_cons_self f hf rfl
    obtain ⟨hok', hn', hv'⟩ := ih hv fun y hy g hg hgn =>
      hstep y (List.mem_cons_of_mem _ hy) g hg (hgn.trans hn)
    have happ : f.connectAll ((x :: xs).flatMap pairs) =
        (f.connectAll (pairs x)).connectAll (xs.flatMap pairs) := by
      simp [Forest.connectAll]
    rw [List.foldlM_cons, hok, ok_bind, hok', happ]
    exact ⟨rfl, hn'.trans hn, hv'⟩

lemma connectLink_spec {m : SkillTreeManifest} {e : SkillTreeEntry} (he : e ∈ m.entries)
    {f : Forest Text} (hf : f.Valid)
    (hn : ∀ e ∈ m.entries, scope itemNames e.path ∈ f.nodes) :
    connectLink itemNames m.entries f e = .ok (f.connectAll (linkPairs itemNames m.entries e)) ∧
      (f.connectAll (linkPairs itemNames m.entries e)).nodes = f.nodes ∧
        (f.connectAll (linkPairs itemNames m.entries e)).Valid := by
  unfold connectLink linkPairs
  split_ifs with hk
  · obtain ⟨result, hr⟩ := m.rules.links e he hk
    rw [hr]
    have hd : ∀ s ∈ result.2.map (scope itemNames), s ∈ f.nodes := by
      intro s hs
      obtain ⟨d, hd, rfl⟩ := List.mem_map.mp hs
      obtain ⟨t, ht⟩ := Option.isSome_iff_exists.mp (isSome_of_mem_dependencies hr d hd)
      have := hn t (mem_of_lookup ht)
      rwa [key_of_lookup ht] at this
    have h := foldlM_connectScope hf (hn e he) _ hd
    rw [List.map_map] at h
    exact h
  · exact ⟨rfl, rfl, hf⟩

/-- Valid trees yield the forest of their links, in whatever order the scopes are registered. -/
lemma foldlM_connectLinks {nodes : List Text}
    (hnodes : ∀ s ∈ scopes manifests itemNames, s ∈ nodes) :
    manifests.foldlM (connectLinks itemNames) (Forest.singletons nodes) =
      .ok ((Forest.singletons nodes).connectAll (allPairs manifests itemNames)) := by
  refine (foldlM_connect manifests (Forest.Valid.singletons _) fun m hm g hg hgn => ?_).1
  refine foldlM_connect m.entries hg fun e he g' hg' hgn' => ?_
  refine connectLink_spec he hg' fun e' he' => ?_
  rw [hgn', hgn]
  exact hnodes _ (scope_mem_scopes hm he')

/-! ### The units -/

/-- What the list of units promises. -/
structure MergeUnits (manifests : List SkillTreeManifest) (itemNames : List Text)
    (units : List (List Text)) : Prop where
  linkUnit : ∀ unit ∈ units, LinkUnit manifests itemNames unit
  cover : ∀ s ∈ scopes manifests itemNames, ∃ unit ∈ units, s ∈ unit
  disjoint : units.Pairwise List.Disjoint

lemma mem_orderedUnits {f : Forest Text} {unit : List Text} :
    unit ∈ orderedUnits f ↔
      ∃ g ∈ f.groups, unit = g.insertionSort fun a b => a.encode ≤ b.encode := by
  simp [orderedUnits, eq_comm]

lemma disjoint_orderedUnits {f : Forest Text} : (orderedUnits f).Pairwise List.Disjoint := by
  have hsymm : Std.Symm (@List.Disjoint Text) := ⟨fun _ _ h => h.symm⟩
  unfold orderedUnits
  rw [(List.perm_insertionSort _ _).pairwise_iff fun h => h.symm, List.pairwise_map]
  exact Forest.pairwise_disjoint_groups.imp fun h x hx hy =>
    h ((List.perm_insertionSort _ _).mem_iff.mp hx) ((List.perm_insertionSort _ _).mem_iff.mp hy)

/-- The forest of the links has the link units as its groups. -/
lemma mergeUnits_orderedUnits {nodes : List Text}
    (hnodes : ∀ s, s ∈ nodes ↔ s ∈ scopes manifests itemNames) :
    MergeUnits manifests itemNames (orderedUnits
      ((Forest.singletons nodes).connectAll (allPairs manifests itemNames))) := by
  set f := (Forest.singletons nodes).connectAll (allPairs manifests itemNames) with hf
  obtain ⟨hn, -, hiff⟩ := Forest.connectAll_spec nodes (allPairs manifests itemNames)
    fun p hp => (allPairs_mem_scopes p hp).imp (hnodes _).mpr (hnodes _).mpr
  rw [← hf] at hn hiff
  refine ⟨?_, ?_, disjoint_orderedUnits⟩
  · intro unit hunit
    obtain ⟨g, hg, rfl⟩ := mem_orderedUnits.mp hunit
    obtain ⟨s, hs, hmem⟩ := Forest.exists_of_mem_groups hg
    rw [hn] at hs
    refine ⟨s, (hnodes s).mp hs, fun t => ?_⟩
    rw [(List.perm_insertionSort _ _).mem_iff, hmem, hn, hnodes]
    refine and_congr_right fun ht => ?_
    rw [eq_comm, hiff s hs t ((hnodes t).mpr ht)]
    simp only [mem_allPairs]
  · intro s hs
    have hs' : s ∈ f.nodes := by rwa [hn, hnodes]
    obtain ⟨g, hg, hsg⟩ := Forest.exists_group_of_mem hs'
    refine ⟨_, mem_orderedUnits.mpr ⟨g, hg, rfl⟩, ?_⟩
    rwa [(List.perm_insertionSort _ _).mem_iff]

lemma directoryMergeUnits_ok [UnicodeForms] (hnames : ∀ name ∈ itemNames, MemberName name) :
    directoryMergeUnits manifests itemNames =
      .ok (orderedUnits ((Forest.singletons (scopes manifests itemNames)).connectAll
        (allPairs manifests itemNames))) := by
  rw [directoryMergeUnits, checkNames_eq_ok.mpr hnames, ok_bind, foldlM_connectLinks fun _ hs => hs]
  rfl

theorem directoryMergeUnits_spec [UnicodeForms] (hnames : ∀ name ∈ itemNames, MemberName name) :
    ∃ units, directoryMergeUnits manifests itemNames = .ok units ∧
      MergeUnits manifests itemNames units :=
  ⟨_, directoryMergeUnits_ok hnames, mergeUnits_orderedUnits fun _ => Iff.rfl⟩

/-- Units are computed for valid names only. -/
lemma memberNames_of_units_ok [UnicodeForms] {units : List (List Text)}
    (h : directoryMergeUnits manifests itemNames = .ok units) :
    ∀ name ∈ itemNames, MemberName name := by
  rw [directoryMergeUnits, bind_eq_ok] at h
  obtain ⟨_, hnames, _⟩ := h
  exact checkNames_eq_ok.mp hnames

/-- Units of an input are the link units of that input, up to order. -/
lemma MergeUnits.exists_of_linkUnit {units : List (List Text)}
    (h : MergeUnits manifests itemNames units) {unit : List Text}
    (hu : LinkUnit manifests itemNames unit) : ∃ unit' ∈ units, ∀ t, t ∈ unit ↔ t ∈ unit' := by
  obtain ⟨s, hs, hmem⟩ := hu
  obtain ⟨unit', hunit', hsu⟩ := h.cover s hs
  obtain ⟨s', hs', hmem'⟩ := h.linkUnit unit' hunit'
  refine ⟨unit', hunit', fun t => ?_⟩
  rw [hmem, hmem']
  have hss' := ((hmem' s).mp hsu).2
  exact and_congr_right fun _ => ⟨fun ht => hss'.trans _ _ _ ht, fun ht => hss'.symm.trans _ _ _ ht⟩

/-- A link whose source is in a unit looks up paths of that unit only. -/
lemma LinkUnit.dependency_mem {unit : List Text} (hu : LinkUnit manifests itemNames unit)
    {m : SkillTreeManifest} (hm : m ∈ manifests) {e : SkillTreeEntry} (he : e ∈ m.entries)
    (hk : e.kind = .symlink) {result : Text × List Text}
    (hr : resolveManifestLink e m.entries = .ok result) {d : Text} (hd : d ∈ result.2)
    (hs : scope itemNames e.path ∈ unit) : scope itemNames d ∈ unit := by
  obtain ⟨s, -, hmem⟩ := hu
  refine (hmem _).mpr ⟨scope_dependency_mem hm hr hd, ?_⟩
  exact ((hmem _).mp hs).2.trans _ _ _ (.rel _ _ ⟨m, hm, e, he, hk, result, hr, d, hd, rfl, rfl⟩)

/-- A link that looks up a path of a unit has its source there. -/
lemma LinkUnit.source_mem {unit : List Text} (hu : LinkUnit manifests itemNames unit)
    {m : SkillTreeManifest} (hm : m ∈ manifests) {e : SkillTreeEntry} (he : e ∈ m.entries)
    (hk : e.kind = .symlink) {result : Text × List Text}
    (hr : resolveManifestLink e m.entries = .ok result) {d : Text} (hd : d ∈ result.2)
    (hs : scope itemNames d ∈ unit) : scope itemNames e.path ∈ unit := by
  obtain ⟨s, -, hmem⟩ := hu
  refine (hmem _).mpr ⟨scope_mem_scopes hm he, ?_⟩
  exact ((hmem _).mp hs).2.trans _ _ _
    (.symm _ _ (.rel _ _ ⟨m, hm, e, he, hk, result, hr, d, hd, rfl, rfl⟩))

end

end AgentRemote
