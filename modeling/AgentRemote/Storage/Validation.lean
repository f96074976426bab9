import AgentRemote.Library.Utf8
import AgentRemote.Manifest.Entry

/-!
# Verified file content

The check of a whole file against its entry, and the verifier that reaches the same
verdict while it sees the file chunk by chunk.
-/

namespace AgentRemote
open Library

/-- `verify_file_content`. -/
def verifyFileContent [Sha256] (entry : SkillTreeEntry) (content : List ℕ) :
    Except String Unit := do
  reject (entry.kind ≠ .file ∨ entry.size ≠ content.length)
    "skill content size or entry kind does not match"
  reject (Sha256.hexdigest content ≠ entry.sha256) "skill content digest does not match"
  let isText := Utf8.Decodes content ∧ 0 ∉ content
  reject (¬(entry.contentKind = .text ↔ isText)) "skill content classification does not match"

/-- `ContentVerifier`. The digest is the bytes it was given. -/
structure ContentVerifier where
  entry : SkillTreeEntry
  size : ℕ := 0
  digest : List ℕ := []
  decoder : Utf8.Pending := []
  isText : Bool := true

namespace ContentVerifier

/-- `ContentVerifier(entry)`. -/
def create (entry : SkillTreeEntry) : Except String ContentVerifier := do
  reject (entry.kind ≠ .file) "content requires a file entry"
  return { entry := entry }

/-- The decoder reads a chunk while the content may still be text. -/
def classify (verifier : ContentVerifier) (chunk : List ℕ) : ContentVerifier :=
  if verifier.isText then
    match Utf8.feed verifier.decoder chunk with
    | some decoder => { verifier with decoder := decoder, isText := decide (0 ∉ chunk) }
    | none => { verifier with isText := false }
  else verifier

def update (verifier : ContentVerifier) (chunk : List ℕ) : Except String ContentVerifier := do
  let size := verifier.size + chunk.length
  reject (verifier.entry.size < size) "skill content exceeds declared size"
  return { verifier with size := size, digest := verifier.digest ++ chunk }.classify chunk

/-- The last call of the decoder fails while a character is open. -/
def finish [Sha256] (verifier : ContentVerifier) : Except String Unit := do
  reject (verifier.size ≠ verifier.entry.size) "skill content size does not match"
  reject (Sha256.hexdigest verifier.digest ≠ verifier.entry.sha256)
    "skill content digest does not match"
  let isText := verifier.isText ∧ verifier.decoder = []
  reject (¬(verifier.entry.contentKind = .text ↔ isText))
    "skill content classification does not match"

/-- A new verifier sees the chunks and the end of the stream. -/
def verify [Sha256] (entry : SkillTreeEntry) (chunks : List (List ℕ)) : Except String Unit := do
  let verifier ← create entry
  let verifier ← chunks.foldlM update verifier
  verifier.finish

/-- What a verifier knows after it has seen `seen`. -/
structure Follows (verifier : ContentVerifier) (entry : SkillTreeEntry) (seen : List ℕ) :
    Prop where
  entry : verifier.entry = entry
  size : verifier.size = seen.length
  digest : verifier.digest = seen
  text : verifier.isText → Utf8.feed [] seen = some verifier.decoder ∧ 0 ∉ seen
  binary : verifier.isText = false → Utf8.feed [] seen = none ∨ 0 ∈ seen

section

variable {verifier : ContentVerifier} {entry : SkillTreeEntry} {seen chunk : List ℕ}

lemma follows_nil (entry : SkillTreeEntry) : Follows { entry := entry } entry [] where
  entry := rfl
  size := rfl
  digest := rfl
  text := fun _ => ⟨rfl, List.not_mem_nil⟩
  binary := fun h => by simp at h

@[simp] lemma classify_entry : (verifier.classify chunk).entry = verifier.entry := by
  unfold classify
  split_ifs
  · split <;> rfl
  · rfl

@[simp] lemma classify_size : (verifier.classify chunk).size = verifier.size := by
  unfold classify
  split_ifs
  · split <;> rfl
  · rfl

@[simp] lemma classify_digest : (verifier.classify chunk).digest = verifier.digest := by
  unfold classify
  split_ifs
  · split <;> rfl
  · rfl

/-- A chunk can end the text, and no later chunk makes it text again. -/
lemma classify_text (ht : verifier.isText → Utf8.feed [] seen = some verifier.decoder ∧ 0 ∉ seen)
    (h : (verifier.classify chunk).isText) :
    Utf8.feed [] (seen ++ chunk) = some (verifier.classify chunk).decoder ∧
      0 ∉ seen ++ chunk := by
  unfold classify at h ⊢
  by_cases htext : verifier.isText
  · obtain ⟨hfeed, hnul⟩ := ht htext
    rw [Utf8.feed_append, hfeed, Option.bind_some]
    cases hchunk : Utf8.feed verifier.decoder chunk with
    | none => simp [htext, hchunk] at h
    | some decoder =>
      simp only [htext, hchunk, if_true, decide_eq_true_eq] at h ⊢
      exact ⟨trivial, by simp [hnul, h]⟩
  · simp [htext] at h

lemma classify_binary
    (ht : verifier.isText → Utf8.feed [] seen = some verifier.decoder ∧ 0 ∉ seen)
    (hb : verifier.isText = false → Utf8.feed [] seen = none ∨ 0 ∈ seen)
    (h : (verifier.classify chunk).isText = false) :
    Utf8.feed [] (seen ++ chunk) = none ∨ 0 ∈ seen ++ chunk := by
  unfold classify at h
  rw [Utf8.feed_append]
  by_cases htext : verifier.isText
  · rw [(ht htext).1, Option.bind_some]
    cases hchunk : Utf8.feed verifier.decoder chunk with
    | none => exact .inl rfl
    | some decoder =>
      simp only [htext, hchunk, if_true, decide_eq_false_iff_not, not_not] at h
      exact .inr (List.mem_append_right seen h)
  · cases hb (by simpa using htext) with
    | inl hfeed => exact .inl (by rw [hfeed, Option.bind_none])
    | inr hnul => exact .inr (List.mem_append_left chunk hnul)

lemma update_error (hf : verifier.Follows entry seen) (h : entry.size < (seen ++ chunk).length) :
    verifier.update chunk = .error "skill content exceeds declared size" := by
  rw [List.length_append, ← hf.size, ← hf.entry] at h
  simp [update, reject_of h]

/-- One chunk within the declared size. -/
lemma update_ok (hf : verifier.Follows entry seen) (h : (seen ++ chunk).length ≤ entry.size) :
    ∃ next, verifier.update chunk = .ok next ∧ next.Follows entry (seen ++ chunk) := by
  rw [List.length_append, ← hf.size, ← hf.entry, ← not_lt] at h
  refine ⟨_, by rw [update, reject_of_not h]; rfl, ?_⟩
  constructor
  · simp [hf.entry]
  · simp [hf.size]
  · simp [hf.digest]
  · exact classify_text hf.text
  · exact classify_binary hf.text hf.binary

/-- Any chunks: the verifier has followed them, or they are too long. -/
lemma foldlM_update (chunks : List (List ℕ)) (hf : verifier.Follows entry seen) :
    (∃ next, chunks.foldlM update verifier = .ok next ∧
        next.Follows entry (seen ++ chunks.flatten)) ∨
      entry.size < (seen ++ chunks.flatten).length ∧
        chunks.foldlM update verifier = .error "skill content exceeds declared size" := by
  induction chunks generalizing verifier seen with
  | nil => exact .inl ⟨verifier, rfl, by simpa using hf⟩
  | cons chunk chunks ih =>
    rw [List.foldlM_cons, List.flatten_cons, ← List.append_assoc]
    by_cases h : (seen ++ chunk).length ≤ entry.size
    · obtain ⟨next, hnext, hfollows⟩ := update_ok hf h
      rw [hnext, ok_bind]
      exact ih hfollows
    · have hlong : entry.size < (seen ++ chunk).length := by omega
      rw [update_error hf hlong, error_bind]
      refine .inr ⟨?_, rfl⟩
      rw [List.length_append]
      omega

variable [Sha256]

/-- At the end of the stream the verifier has the verdict of the whole content. -/
lemma finish_eq_ok (hf : verifier.Follows entry seen) (hkind : entry.kind = .file) :
    verifier.finish = .ok () ↔ verifyFileContent entry seen = .ok () := by
  have htext : (verifier.isText ∧ verifier.decoder = []) ↔ Utf8.Decodes seen ∧ 0 ∉ seen := by
    rw [Utf8.decodes_iff]
    cases hv : verifier.isText with
    | true =>
      obtain ⟨hfeed, hnul⟩ := hf.text hv
      simp [hfeed, hnul]
    | false =>
      cases hf.binary hv with
      | inl hfeed => simp [hfeed]
      | inr hnul => simp [hnul]
  simp only [finish, verifyFileContent, reject_bind_eq_ok, reject_eq_ok, hf.entry, hf.size,
    hf.digest, htext, hkind, ne_eq, not_true, false_or, not_not]
  rw [eq_comm]

/-- Every chunking of a content gets the verdict of the whole content. -/
theorem verify_eq_ok_iff (entry : SkillTreeEntry) (chunks : List (List ℕ)) :
    verify entry chunks = .ok () ↔ verifyFileContent entry chunks.flatten = .ok () := by
  by_cases hkind : entry.kind = .file
  · have hcreate : create entry = .ok { entry := entry } := by simp [create, hkind, reject]
    rw [verify, hcreate, ok_bind]
    cases foldlM_update chunks (follows_nil entry) with
    | inl h =>
      obtain ⟨next, hnext, hfollows⟩ := h
      rw [hnext, ok_bind, finish_eq_ok hfollows hkind, List.nil_append]
    | inr h =>
      obtain ⟨hlong, herror⟩ := h
      rw [List.nil_append] at hlong
      have hsize : entry.size ≠ chunks.flatten.length := by omega
      rw [herror, verifyFileContent, reject_of (.inr hsize), error_bind, error_bind]
      simp
  · simp [verify, create, verifyFileContent, hkind]

end

end ContentVerifier

/-- A text that ends inside a character is binary, wherever the chunks are cut. -/
example : letI : Sha256 := ⟨fun _ => []⟩
    ContentVerifier.verify { path := [], kind := .file, size := 2, contentKind := .binary }
      [[0xE2], [0x82]] = .ok () := by
  decide

end AgentRemote
