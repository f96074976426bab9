import AgentRemote.Manifest.Link

/-!
# Complete directory trees

`validateTree` is the check of a manifest: one scan for the order, the byte total and the
explicit parents, then the resolution of every link. `TreeRules` states what it accepts
without the scan, and `SkillTreeManifest` is a list of entries that passed it.
-/

namespace AgentRemote
open Library

def maxEntries : ℕ := 100000

/-- The proper ancestors of a path, outermost first. -/
def ancestors (path : Text) : List Text :=
  (List.range (path.split.length - 1)).map fun i => Text.join (path.split.take (i + 1))

/-- A directory entry stands at the path. -/
def DirectoryAt (entries : List SkillTreeEntry) (path : Text) : Prop :=
  ∃ entry ∈ entryAt entries path, entry.kind = .directory

instance (entries : List SkillTreeEntry) (path : Text) : Decidable (DirectoryAt entries path) :=
  inferInstanceAs (Decidable (∃ entry ∈ entryAt entries path, _))

/-- The loop variables of the scan: the index, the last path and the byte total. -/
@[ext] structure TreeScan where
  byPath : List SkillTreeEntry
  previous : List ℕ
  total : ℕ

def scanEntry (s : TreeScan) (entry : SkillTreeEntry) : Except String TreeScan := do
  reject (entry.path.encode ≤ s.previous) "manifest paths must be unique and UTF-8 sorted"
  reject (maxBytes < s.total + entry.size) "skill tree byte count overflows the protocol"
  reject (∃ parent ∈ ancestors entry.path, ¬DirectoryAt s.byPath parent)
    "manifest requires explicit directory parents"
  return ⟨s.byPath ++ [entry], entry.path.encode, s.total + entry.size⟩

def scan (entries : List SkillTreeEntry) : Except String TreeScan :=
  entries.foldlM scanEntry ⟨[], [], 0⟩

def checkLink (entries : List SkillTreeEntry) (entry : SkillTreeEntry) : Except String Unit := do
  if entry.kind = .symlink then
    let _ ← resolveManifestLink entry entries

def checkLinks (entries : List SkillTreeEntry) : List SkillTreeEntry → Except String Unit
  | [] => .ok ()
  | entry :: rest => do
    checkLink entries entry
    checkLinks entries rest

def validateTree (entries : List SkillTreeEntry) : Except String Unit := do
  reject (maxEntries < entries.length) "too many entries"
  let s ← scan entries
  checkLinks s.byPath entries

/-- The expanded size of a tree. -/
def totalBytes (entries : List SkillTreeEntry) : ℕ := (entries.map (·.size)).sum

/-- The rules that do not depend on the size of the tree. -/
structure TreeShape (entries : List SkillTreeEntry) : Prop where
  sorted : entries.Pairwise fun a b => a.path.encode < b.path.encode
  ne_nil : ∀ entry ∈ entries, entry.path ≠ []
  parents : ∀ entry ∈ entries, ∀ parent ∈ ancestors entry.path, DirectoryAt entries parent
  links : ∀ entry ∈ entries, entry.kind = .symlink →
    ∃ result, resolveManifestLink entry entries = .ok result

/-- Every rule of a manifest. -/
structure TreeRules (entries : List SkillTreeEntry) : Prop extends TreeShape entries where
  length_le : entries.length ≤ maxEntries
  total_le : totalBytes entries ≤ maxBytes

/-- A complete tree: entries that passed the check. -/
@[ext] structure SkillTreeManifest where
  entries : List SkillTreeEntry
  accepted : validateTree entries = .ok ()

namespace SkillTreeManifest

/-- `SkillTreeManifest(entries=..)`. -/
def ofEntries (entries : List SkillTreeEntry) : Except String SkillTreeManifest :=
  match h : validateTree entries with
  | .ok () => .ok ⟨entries, h⟩
  | .error e => .error e

instance : DecidableEq SkillTreeManifest := fun a b =>
  decidable_of_iff (a.entries = b.entries) SkillTreeManifest.ext_iff.symm

/-- The entry at a path, where absence is a value of its own. -/
abbrev get (manifest : SkillTreeManifest) (path : Text) : Option SkillTreeEntry :=
  entryAt manifest.entries path

end SkillTreeManifest

/-! ### Ancestors -/

lemma mem_ancestors {path parent : Text} :
    parent ∈ ancestors path ↔
      ∃ i, 0 < i ∧ i < path.split.length ∧ parent = Text.join (path.split.take i) := by
  simp only [ancestors, List.mem_map, List.mem_range]
  constructor
  · rintro ⟨i, hi, rfl⟩
    exact ⟨i + 1, by omega, by omega, rfl⟩
  · rintro ⟨i, h0, hi, rfl⟩
    exact ⟨i - 1, by omega, by rw [Nat.sub_add_cancel h0]⟩

lemma exists_append_of_mem_ancestors {path parent : Text} (h : parent ∈ ancestors path) :
    ∃ rest, path = parent ++ '/' :: rest := by
  obtain ⟨i, h0, hi, rfl⟩ := mem_ancestors.mp h
  exact Text.join_take_append h0 hi

lemma encode_lt_of_mem_ancestors {path parent : Text} (h : parent ∈ ancestors path) :
    parent.encode < path.encode := by
  obtain ⟨rest, rfl⟩ := exists_append_of_mem_ancestors h
  exact Text.encode_lt_append _ _ (by simp)

lemma top_of_mem_ancestors {path parent : Text} (h : parent ∈ ancestors path) :
    parent.top = path.top := by
  obtain ⟨rest, rfl⟩ := exists_append_of_mem_ancestors h
  rw [Text.top_append_slash]

/-! ### The scan -/

/-- The encoded path of the last entry. -/
def lastPath (entries : List SkillTreeEntry) : List ℕ :=
  (entries.getLast?.map fun e => e.path.encode).getD []

lemma lastPath_concat (entries : List SkillTreeEntry) (entry : SkillTreeEntry) :
    lastPath (entries ++ [entry]) = entry.path.encode := by
  simp [lastPath]

lemma le_lastPath {entries : List SkillTreeEntry}
    (hs : entries.Pairwise fun a b => a.path.encode < b.path.encode) :
    ∀ e ∈ entries, e.path.encode ≤ lastPath entries := by
  induction entries using List.reverseRecOn with
  | nil => simp
  | append_singleton entries entry _ =>
    intro e he
    rw [lastPath_concat]
    rcases List.mem_append.mp he with he | he
    · exact ((List.pairwise_append.mp hs).2.2 e he entry (by simp)).le
    · rw [List.mem_singleton.mp he]

lemma directoryAt_concat {entries : List SkillTreeEntry} {entry : SkillTreeEntry} {path : Text}
    (h : entry.path ≠ path) : DirectoryAt (entries ++ [entry]) path ↔ DirectoryAt entries path := by
  have hnone : entryAt [entry] path = none := by
    simpa [lookup_eq_none_iff] using h
  unfold DirectoryAt
  rw [entryAt, lookup_append]
  unfold entryAt at hnone
  rw [hnone, Option.or_none]

/-- What the scan has checked of the entries it has seen. -/
structure Scanned (entries : List SkillTreeEntry) : Prop where
  sorted : entries.Pairwise fun a b => a.path.encode < b.path.encode
  ne_nil : ∀ entry ∈ entries, entry.path ≠ []
  parents : ∀ entry ∈ entries, ∀ parent ∈ ancestors entry.path, DirectoryAt entries parent
  total_le : totalBytes entries ≤ maxBytes

lemma scanned_concat {entries : List SkillTreeEntry} {entry : SkillTreeEntry} :
    Scanned (entries ++ [entry]) ↔ Scanned entries ∧ lastPath entries < entry.path.encode ∧
      totalBytes entries + entry.size ≤ maxBytes ∧
        ∀ parent ∈ ancestors entry.path, DirectoryAt entries parent := by
  have htotal : totalBytes (entries ++ [entry]) = totalBytes entries + entry.size := by
    simp [totalBytes]
  have hself : ∀ parent ∈ ancestors entry.path, entry.path ≠ parent := by
    rintro parent hp rfl
    exact (encode_lt_of_mem_ancestors hp).false
  constructor
  · rintro ⟨hs, hn, hp, ht⟩
    obtain ⟨hs', -, hlt⟩ := List.pairwise_append.mp hs
    rw [htotal] at ht
    refine ⟨⟨hs', fun e he => hn e (by simp [he]), fun e he parent hpe => ?_, by omega⟩, ?_, ht, ?_⟩
    · have hne : entry.path ≠ parent := by
        rintro rfl
        exact (hlt e he entry (by simp)).not_gt (encode_lt_of_mem_ancestors hpe)
      exact (directoryAt_concat hne).mp (hp e (by simp [he]) parent hpe)
    · unfold lastPath
      cases hlast : entries.getLast? with
      | none =>
        rcases hb : entry.path.encode with _ | ⟨b, bs⟩
        · exact absurd hb (Text.encode_ne_nil (hn entry (by simp)))
        · exact List.nil_lt_cons _ _
      | some e => exact hlt e (List.mem_of_getLast? hlast) entry (by simp)
    · intro parent hpe
      exact (directoryAt_concat (hself parent hpe)).mp (hp entry (by simp) parent hpe)
  · rintro ⟨⟨hs, hn, hp, -⟩, hlt, ht, hpe⟩
    have hall : ∀ e ∈ entries, e.path.encode < entry.path.encode :=
      fun e he => (le_lastPath hs e he).trans_lt hlt
    refine ⟨?_, ?_, ?_, by omega⟩
    · rw [List.pairwise_append]
      exact ⟨hs, by simp, fun a ha b hb => by rw [List.mem_singleton.mp hb]; exact hall a ha⟩
    · intro e he
      rcases List.mem_append.mp he with he | he
      · exact hn e he
      · rw [List.mem_singleton.mp he]
        intro hnil
        rw [hnil] at hlt
        exact absurd hlt (List.not_lt_nil _)
    · intro e he parent hmem
      rcases List.mem_append.mp he with he | he
      · have hne : entry.path ≠ parent := by
          rintro rfl
          exact (hall e he).not_gt (encode_lt_of_mem_ancestors hmem)
        exact (directoryAt_concat hne).mpr (hp e he parent hmem)
      · rw [List.mem_singleton.mp he] at hmem
        exact (directoryAt_concat (hself parent hmem)).mpr (hpe parent hmem)

theorem scan_eq_ok {entries : List SkillTreeEntry} {s : TreeScan} :
    scan entries = .ok s ↔
      s = ⟨entries, lastPath entries, totalBytes entries⟩ ∧ Scanned entries := by
  induction entries using List.reverseRecOn generalizing s with
  | nil =>
    have hempty : Scanned [] := ⟨.nil, by simp, by simp, by simp [totalBytes, maxBytes]⟩
    simp [scan, lastPath, totalBytes, hempty, eq_comm]
  | append_singleton entries entry ih =>
    have hstep : scan (entries ++ [entry]) = (do let s ← scan entries; scanEntry s entry) := by
      unfold scan
      rw [List.foldlM_append]
      simp
    rw [hstep, bind_eq_ok, scanned_concat]
    simp only [ih, lastPath_concat]
    constructor
    · rintro ⟨t, ⟨rfl, hscanned⟩, h⟩
      simp only [scanEntry, reject_bind_eq_ok, pure_eq_ok, Except.ok.injEq, not_le, not_lt,
        not_exists, not_and, not_not] at h
      obtain ⟨hlt, ht, hp, rfl⟩ := h
      exact ⟨by simp [totalBytes], hscanned, hlt, ht, hp⟩
    · rintro ⟨rfl, hscanned, hlt, ht, hp⟩
      refine ⟨_, ⟨rfl, hscanned⟩, ?_⟩
      simp only [scanEntry, reject_bind_eq_ok, pure_eq_ok, not_le, not_lt, not_exists, not_and,
        not_not]
      exact ⟨hlt, ht, hp, by simp [totalBytes]⟩

lemma checkLinks_eq_ok {entries rest : List SkillTreeEntry} :
    checkLinks entries rest = .ok () ↔ ∀ entry ∈ rest, entry.kind = .symlink →
      ∃ result, resolveManifestLink entry entries = .ok result := by
  have hlink : ∀ entry, checkLink entries entry = .ok () ↔ (entry.kind = .symlink →
      ∃ result, resolveManifestLink entry entries = .ok result) := by
    intro entry
    unfold checkLink
    split_ifs with h
    · simp [bind_eq_ok, h]
    · simp [h]
  induction rest with
  | nil => simp [checkLinks]
  | cons entry rest ih =>
    rw [checkLinks, bind_eq_ok]
    simp [ih, hlink]

/-- The check accepts exactly the lists of entries that obey the rules. -/
theorem validateTree_eq_ok {entries : List SkillTreeEntry} :
    validateTree entries = .ok () ↔ TreeRules entries := by
  rw [validateTree, reject_bind_eq_ok, bind_eq_ok, not_lt]
  simp only [scan_eq_ok]
  constructor
  · rintro ⟨hlen, s, ⟨rfl, h⟩, hl⟩
    exact ⟨⟨h.sorted, h.ne_nil, h.parents, checkLinks_eq_ok.mp hl⟩, hlen, h.total_le⟩
  · intro h
    exact ⟨h.length_le, _, ⟨rfl, h.sorted, h.ne_nil, h.parents, h.total_le⟩,
      checkLinks_eq_ok.mpr h.links⟩

/-! ### Manifests -/

lemma nodup_paths {entries : List SkillTreeEntry}
    (h : entries.Pairwise fun a b => a.path.encode < b.path.encode) :
    (entries.map (·.path)).Nodup := by
  rw [List.Nodup, List.pairwise_map]
  exact h.imp fun hlt heq => (heq ▸ hlt).false

namespace SkillTreeManifest

variable (manifest : SkillTreeManifest)

lemma rules : TreeRules manifest.entries := validateTree_eq_ok.mp manifest.accepted

lemma nodup_paths : (manifest.entries.map (·.path)).Nodup :=
  AgentRemote.nodup_paths manifest.rules.sorted

variable {manifest}

lemma get_eq_some_iff {path : Text} {entry : SkillTreeEntry} :
    manifest.get path = some entry ↔ entry ∈ manifest.entries ∧ entry.path = path :=
  lookup_eq_some_iff manifest.nodup_paths

theorem ofEntries_eq_ok {entries : List SkillTreeEntry} :
    ofEntries entries = .ok manifest ↔ manifest.entries = entries := by
  unfold ofEntries
  split
  · rename_i h
    rw [Except.ok.injEq, SkillTreeManifest.ext_iff]
    exact eq_comm
  · rename_i e h
    refine ⟨fun he => by simp at he, ?_⟩
    rintro rfl
    rw [manifest.accepted] at h
    simp at h

lemma ofEntries_of_rules {entries : List SkillTreeEntry} (h : TreeRules entries) :
    ofEntries entries = .ok ⟨entries, validateTree_eq_ok.mpr h⟩ :=
  ofEntries_eq_ok.mpr rfl

/-- The constructor fails exactly on lists that break a rule. -/
lemma ofEntries_error_iff {entries : List SkillTreeEntry} :
    (∃ e, ofEntries entries = .error e) ↔ ¬TreeRules entries := by
  constructor
  · rintro ⟨e, he⟩ h
    rw [ofEntries_of_rules h] at he
    simp at he
  · intro h
    cases hm : ofEntries entries with
    | error e => exact ⟨e, rfl⟩
    | ok manifest => exact absurd (ofEntries_eq_ok.mp hm ▸ manifest.rules) h

end SkillTreeManifest

/-- The fields of an entry that its tree's digest covers, in order. -/
def SkillTreeEntry.digestFields (entry : SkillTreeEntry) : List Text :=
  [entry.path, entry.kind.label, (Nat.repr entry.mode).toList, (Nat.repr entry.size).toList,
    entry.sha256, entry.target, entry.contentKind.label, entry.dependency]

/-- `manifest_digest`: every field ends with a zero byte. -/
def manifestDigest [Sha256] (manifest : SkillTreeManifest) : Text :=
  Sha256.hexdigest (Text.encode "agent-remote-skill-tree-v1".toList ++ [0] ++
    manifest.entries.flatMap fun entry =>
      entry.digestFields.flatMap fun field => field.encode ++ [0])

end AgentRemote
