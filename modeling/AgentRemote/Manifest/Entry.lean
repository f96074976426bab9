import AgentRemote.Library.Keyed
import AgentRemote.Library.Outcome
import AgentRemote.Text

/-!
# Entries of a directory tree

The path rule, one entry of a tree with the rules on its fields, and the lookup of an
entry by its path.
-/

namespace AgentRemote
open Library

/-- `validate_relative_path`. -/
def validateRelativePath [UnicodeForms] (value : Text) : Except String Unit := do
  reject (value = [] ∨ value.head? = some '/' ∨ '\\' ∈ value)
    "skill path must be relative POSIX text"
  reject (UnicodeForms.normalizeNFC value ≠ value) "skill path must be NFC normalized"
  reject (value.any Text.isControl) "skill path contains forbidden characters"
  reject (4096 < value.encode.length) "skill path is too long"
  reject (∃ c ∈ value.split, c = [] ∨ c = ['.'] ∨ c = ['.', '.'] ∨ 255 < c.encode.length)
    "skill path contains an invalid component"

inductive EntryKind where
  | file
  | directory
  | symlink
  | runtimeLink
  deriving DecidableEq

def EntryKind.label : EntryKind → Text
  | file => "file".toList
  | directory => "directory".toList
  | symlink => "symlink".toList
  | runtimeLink => "runtime_link".toList

inductive ContentKind where
  | unset
  | text
  | binary
  deriving DecidableEq

def ContentKind.label : ContentKind → Text
  | unset => []
  | text => "text".toList
  | binary => "binary".toList

/-- A file, directory or link of a tree. A copy with another path is not validated again,
so the rules are a predicate and not a field. -/
structure SkillTreeEntry where
  path : Text
  kind : EntryKind
  mode : ℕ := 0o644
  size : ℕ := 0
  sha256 : Text := []
  target : Text := []
  contentKind : ContentKind := .unset
  dependency : Text := []
  deriving DecidableEq

/-- `2**63 - 1`, the largest byte count of the protocol. -/
def maxBytes : ℕ := 2 ^ 63 - 1

/-- The pattern of a hexadecimal digest. -/
def isDigest (s : Text) : Bool :=
  s.length = 64 ∧ s.all fun c => c.isDigit ∨ ('a' ≤ c ∧ c ≤ 'f')

/-- The pattern of a dependency identity. -/
def isDependency : Text → Bool
  | [] => false
  | c :: s => c.isLower ∧ s.length ≤ 63 ∧
      s.all fun d => d.isLower ∨ d.isDigit ∨ d = '_' ∨ d = '.' ∨ d = '-'

namespace SkillTreeEntry

/-- The bounds and patterns of the single fields. -/
def validateFields [UnicodeForms] (entry : SkillTreeEntry) : Except String Unit := do
  validateRelativePath entry.path
  reject (0o777 < entry.mode) "mode is too large"
  reject (maxBytes < entry.size) "size is too large"
  reject (entry.sha256 ≠ [] ∧ isDigest entry.sha256 = false) "sha256 does not match"
  reject (entry.dependency ≠ [] ∧ isDependency entry.dependency = false)
    "dependency does not match"

def validateLink [UnicodeForms] (entry : SkillTreeEntry) : Except String Unit := do
  reject (entry.mode ≠ 0o777 ∨ entry.target = [] ∨ '\\' ∈ entry.target)
    "link entry requires a target and mode 0777"
  reject (entry.target.any Text.isControl) "link target contains forbidden characters"
  reject (4096 < entry.target.encode.length) "link target is too long"
  reject (UnicodeForms.normalizeNFC entry.target ≠ entry.target) "link target must be NFC normalized"
  if entry.kind = .runtimeLink then
    reject (entry.target.head? ≠ some '/' ∨ entry.dependency = [])
      "runtime link requires an absolute target and dependency"
    validateRelativePath entry.target.tail
  else
    reject (entry.target.head? = some '/' ∨ entry.dependency ≠ [])
      "ordinary link must stay relative and cannot claim a dependency"

/-- `validate_shape`: no kind of entry carries the fields of another kind. -/
def validateShape [UnicodeForms] (entry : SkillTreeEntry) : Except String Unit :=
  if entry.kind = .file then
    reject (entry.sha256 = [] ∨ entry.contentKind = .unset ∨ entry.target ≠ [] ∨
      entry.dependency ≠ []) "file entry has inconsistent metadata"
  else do
    reject (entry.size ≠ 0 ∨ entry.sha256 ≠ [] ∨ entry.contentKind ≠ .unset)
      "non-file entry cannot contain file metadata"
    if entry.kind = .directory then
      reject (entry.target ≠ [] ∨ entry.dependency ≠ []) "directory cannot contain a link target"
    else validateLink entry

/-- An entry that its model accepts. -/
def Accepted [UnicodeForms] (entry : SkillTreeEntry) : Prop :=
  entry.validateFields = .ok () ∧ entry.validateShape = .ok ()

end SkillTreeEntry

/-- A directory entry with the usual mode. -/
def SkillTreeEntry.directory (path : Text) : SkillTreeEntry :=
  { path := path, kind := .directory, mode := 0o755 }

/-- A text file of the given size and digest. -/
def SkillTreeEntry.textFile (path : Text) (size : ℕ) (sha256 : Text) : SkillTreeEntry :=
  { path := path, kind := .file, size := size, sha256 := sha256, contentKind := .text }

/-- `{entry.path: entry for entry in entries}.get`. -/
abbrev entryAt (entries : List SkillTreeEntry) (path : Text) : Option SkillTreeEntry :=
  lookup SkillTreeEntry.path entries path

/-- A name that a merge accepts as the identity of a top-level member. -/
structure MemberName [UnicodeForms] (name : Text) : Prop where
  path : validateRelativePath name = .ok ()
  topLevel : '/' ∉ name

section

variable [UnicodeForms] {value : Text}

lemma ne_nil_of_validateRelativePath (h : validateRelativePath value = .ok ()) : value ≠ [] := by
  simp only [validateRelativePath, reject_bind_eq_ok, not_or] at h
  exact h.1.1

/-- No component of an accepted path is empty or a dot. -/
lemma component_of_validateRelativePath (h : validateRelativePath value = .ok ()) :
    ∀ c ∈ value.split, c ≠ [] ∧ c ≠ ['.'] ∧ c ≠ ['.', '.'] := by
  simp only [validateRelativePath, reject_bind_eq_ok, reject_eq_ok, not_exists, not_and,
    not_or] at h
  intro c hc
  obtain ⟨hn, hd, hdd, -⟩ := h.2.2.2.2 c hc
  exact ⟨hn, hd, hdd⟩

lemma MemberName.ne_nil (h : MemberName value) : value ≠ [] :=
  ne_nil_of_validateRelativePath h.path

end

end AgentRemote
