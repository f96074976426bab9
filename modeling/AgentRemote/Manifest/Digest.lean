import AgentRemote.Library.Delimited
import AgentRemote.Manifest.Tree
import AgentRemote.Rendering

/-!
# The identity of a tree

The digest of a manifest is taken over the fields of its entries in a row, each ended by a
zero byte. No field of an accepted entry holds a zero byte, so the row determines the
manifest and two trees share a digest only where the hash function collides.
-/

namespace AgentRemote
open Library Rendering

/-- The bytes that `manifest_digest` hashes. -/
def manifestBytes (manifest : SkillTreeManifest) : List ℕ :=
  Text.encode "agent-remote-skill-tree-v1".toList ++ [0] ++
    manifest.entries.flatMap fun entry => entry.digestFields.flatMap fun field => field.encode ++ [0]

lemma manifestDigest_eq [Sha256] (manifest : SkillTreeManifest) :
    manifestDigest manifest = Sha256.hexdigest (manifestBytes manifest) := rfl

/-- A manifest whose entries passed their own checks. -/
@[ext] structure ValidManifest [UnicodeForms] extends SkillTreeManifest where
  valid : ∀ entry ∈ entries, entry.Accepted

/-! ### Texts without the zero character -/

lemma zero_not_mem_of_isControl {s : Text} (h : s.any Text.isControl = false) : '\x00' ∉ s := by
  intro hz
  have := List.any_eq_false.mp h '\x00' hz
  exact this (by decide)

lemma zero_not_mem_of_isDigest {s : Text} (h : s = [] ∨ isDigest s = true) : '\x00' ∉ s := by
  rcases h with rfl | h
  · exact List.not_mem_nil
  · intro hz
    simp only [isDigest, decide_eq_true_eq, List.all_eq_true] at h
    exact absurd (h.2 _ hz) (by decide)

lemma zero_not_mem_of_isDependency {s : Text} (h : s = [] ∨ isDependency s = true) :
    '\x00' ∉ s := by
  rcases h with rfl | h
  · exact List.not_mem_nil
  · cases s with
    | nil => exact List.not_mem_nil
    | cons c s =>
      simp only [isDependency, decide_eq_true_eq, List.all_eq_true] at h
      obtain ⟨hc, -, hs⟩ := h
      rw [List.mem_cons, not_or]
      refine ⟨?_, fun hz => absurd (hs _ hz) (by decide)⟩
      rintro rfl
      exact absurd hc (by decide)

/-! ### The fields of an entry -/

lemma EntryKind.label_injective : Function.Injective EntryKind.label := by
  intro a b h
  cases a <;> cases b <;> first | rfl | exact absurd h (by decide)

lemma ContentKind.label_injective : Function.Injective ContentKind.label := by
  intro a b h
  cases a <;> cases b <;> first | rfl | exact absurd h (by decide)

namespace SkillTreeEntry

section

variable [UnicodeForms] {entry : SkillTreeEntry}

lemma path_of_accepted (h : entry.Accepted) : '\x00' ∉ entry.path := by
  have hfields := h.1
  simp only [validateFields, bind_eq_ok] at hfields
  obtain ⟨_, hpath, -⟩ := hfields
  simp only [validateRelativePath, reject_bind_eq_ok] at hpath
  exact zero_not_mem_of_isControl (by simpa using hpath.2.2.1)

lemma sha256_of_accepted (h : entry.Accepted) : entry.sha256 = [] ∨ isDigest entry.sha256 = true := by
  have hfields := h.1
  simp only [validateFields, bind_eq_ok, reject_eq_ok] at hfields
  obtain ⟨_, -, _, -, _, -, _, hsha, -⟩ := hfields
  by_cases he : entry.sha256 = []
  · exact Or.inl he
  · exact Or.inr (by simpa [he] using hsha)

lemma dependency_of_accepted (h : entry.Accepted) :
    entry.dependency = [] ∨ isDependency entry.dependency = true := by
  have hfields := h.1
  simp only [validateFields, bind_eq_ok, reject_eq_ok] at hfields
  obtain ⟨_, -, _, -, _, -, _, -, hdep⟩ := hfields
  by_cases he : entry.dependency = []
  · exact Or.inl he
  · exact Or.inr (by simpa [he] using hdep)

/-- Only links have a target, and a link's target has no control character. -/
lemma target_of_accepted (h : entry.Accepted) : '\x00' ∉ entry.target := by
  have hshape := h.2
  unfold validateShape at hshape
  split_ifs at hshape with hfile hdir
  · have htarget : entry.target = [] := by
      rw [reject_eq_ok] at hshape
      by_contra hne
      exact hshape (Or.inr (Or.inr (Or.inl hne)))
    simp [htarget]
  · rw [reject_bind_eq_ok, reject_eq_ok] at hshape
    have htarget : entry.target = [] := by
      by_contra hne
      exact hshape.2 (Or.inl hne)
    simp [htarget]
  · rw [reject_bind_eq_ok] at hshape
    have hlink := hshape.2
    unfold validateLink at hlink
    rw [reject_bind_eq_ok, reject_bind_eq_ok] at hlink
    exact zero_not_mem_of_isControl (by simpa using hlink.2.1)

/-- No field of an accepted entry holds the byte that ends a field. -/
lemma zero_not_mem_digestFields (h : entry.Accepted) :
    ∀ field ∈ entry.digestFields, '\x00' ∉ field := by
  have hkind : '\x00' ∉ entry.kind.label := by
    cases entry.kind <;> decide
  have hcontent : '\x00' ∉ entry.contentKind.label := by
    cases entry.contentKind <;> decide
  simp only [digestFields, List.forall_mem_cons]
  exact ⟨path_of_accepted h, hkind, not_mem_repr (by decide), not_mem_repr (by decide),
    zero_not_mem_of_isDigest (sha256_of_accepted h), target_of_accepted h, hcontent,
    zero_not_mem_of_isDependency (dependency_of_accepted h), by simp⟩

end

lemma digestFields_injective : Function.Injective digestFields := by
  intro a b h
  simp only [digestFields, List.cons.injEq, and_true] at h
  obtain ⟨hpath, hkind, hmode, hsize, hsha, htarget, hcontent, hdep⟩ := h
  have hkind := EntryKind.label_injective hkind
  have hmode := repr_injective hmode
  have hsize := repr_injective hsize
  have hcontent := ContentKind.label_injective hcontent
  cases a
  cases b
  rw [SkillTreeEntry.mk.injEq]
  exact ⟨hpath, hkind, hmode, hsize, hsha, htarget, hcontent, hdep⟩

end SkillTreeEntry

/-! ### The manifest -/

/-- The hashed bytes as one row of fields. -/
lemma manifestBytes_eq (manifest : SkillTreeManifest) :
    manifestBytes manifest = Text.encode "agent-remote-skill-tree-v1".toList ++ [0] ++
      terminated 0 (manifest.entries.flatMap fun entry => entry.digestFields.map Text.encode) := by
  rw [terminated_flatMap, manifestBytes]
  simp only [terminated, List.flatMap_map]

section

variable [UnicodeForms]

lemma zero_not_mem_fields (manifest : ValidManifest) :
    ∀ field ∈ manifest.entries.flatMap fun entry => entry.digestFields.map Text.encode,
      0 ∉ field := by
  intro field hfield
  obtain ⟨entry, hentry, hfield⟩ := List.mem_flatMap.mp hfield
  obtain ⟨text, htext, rfl⟩ := List.mem_map.mp hfield
  intro hzero
  have hmem := mem_of_mem_encode (c := '\x00') (by decide) hzero
  exact SkillTreeEntry.zero_not_mem_digestFields (manifest.valid entry hentry) text htext hmem

lemma entries_eq_of_manifestBytes_eq {manifest other : ValidManifest}
    (h : manifestBytes manifest.toSkillTreeManifest = manifestBytes other.toSkillTreeManifest) :
    manifest.entries = other.entries := by
  rw [manifestBytes_eq, manifestBytes_eq, List.append_cancel_left_eq] at h
  have hfields := terminated_inj (zero_not_mem_fields manifest) (zero_not_mem_fields other) h
  apply flatMap_inj_of_length (n := 8) (by omega) ?_ ?_ hfields
  · intro entry
    simp [SkillTreeEntry.digestFields]
  · intro a _ b _ hab
    exact SkillTreeEntry.digestFields_injective (Text.encode_injective.list_map hab)

/-- The hashed bytes determine the manifest, and the digest does so up to a collision of
the hash function. -/
theorem manifest_identity [Sha256] :
    (Function.Injective fun manifest : ValidManifest => manifestBytes manifest.toSkillTreeManifest) ∧
    ∀ manifest other : ValidManifest,
      manifestDigest manifest.toSkillTreeManifest = manifestDigest other.toSkillTreeManifest ↔
        manifest = other ∨
        manifestBytes manifest.toSkillTreeManifest ≠ manifestBytes other.toSkillTreeManifest ∧
        Sha256.hexdigest (manifestBytes manifest.toSkillTreeManifest) =
          Sha256.hexdigest (manifestBytes other.toSkillTreeManifest) := by
  have hinj : Function.Injective fun manifest : ValidManifest =>
      manifestBytes manifest.toSkillTreeManifest := by
    intro manifest other h
    exact ValidManifest.ext (entries_eq_of_manifestBytes_eq h)
  refine ⟨hinj, fun manifest other => ?_⟩
  rw [manifestDigest_eq, manifestDigest_eq]
  by_cases he : manifest = other
  · simp [he]
  · have hne := hinj.ne he
    simp only [he, false_or]
    exact ⟨fun h => ⟨hne, h⟩, fun h => h.2⟩

end

end AgentRemote
