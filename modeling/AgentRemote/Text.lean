import Mathlib.Data.Char
import Mathlib.Data.List.Lex
import Mathlib.Data.List.TakeWhile
import Mathlib.Data.Nat.Basic
import Mathlib.Tactic

/-!
# Text and its UTF-8 bytes

A text is a list of code points without lone surrogates. The server orders and bounds
paths by their UTF-8 bytes and cuts them at the slash, so this file fixes the encoding,
the split into components and the join, and how the three interact.
-/

namespace AgentRemote

/-- A text without lone surrogates. -/
abbrev Text := List Char

instance : LawfulBEq Text := inferInstance

instance : LawfulBEq (Option Text) := inferInstance

/-- The normal form C of a text, whose tables the model does not embed. -/
class UnicodeForms where
  normalizeNFC : Text → Text

/-- Normalization that leaves every text alone, as form C does with ASCII. -/
@[reducible] def asciiForms : UnicodeForms := ⟨id⟩

/-- The SHA-256 digest of bytes in lower-case hexadecimal. -/
class Sha256 where
  hexdigest : List ℕ → Text

namespace Text

/-- `str.encode("utf-8")`, one number per byte. -/
def encode (s : Text) : List ℕ :=
  s.flatMap fun c => (String.utf8EncodeChar c).map UInt8.toNat

/-- `str.split("/")`. -/
def split (s : Text) : List Text := s.splitOn '/'

/-- `"/".join`. -/
def join (parts : List Text) : Text := ['/'].intercalate parts

/-- `str.split("/", 1)[0]`. -/
def top (s : Text) : Text := s.takeWhile (· ≠ '/')

/-- Unicode category `Cc`. The other rejected category, `Cs`, holds the lone surrogates,
which no text has. -/
def isControl (c : Char) : Bool :=
  c.toNat < 0x20 || (0x7f ≤ c.toNat && c.toNat ≤ 0x9f)

lemma encode_append (s t : Text) : encode (s ++ t) = encode s ++ encode t := by
  simp [encode]

lemma encode_injective : Function.Injective encode := by
  intro s t h
  have hbytes : s.flatMap String.utf8EncodeChar = t.flatMap String.utf8EncodeChar := by
    have hinj : Function.Injective UInt8.toNat := fun a b => UInt8.toNat_inj.mp
    apply List.map_injective_iff.mpr hinj
    simpa [encode, List.map_flatMap] using h
  have hs : String.ofList s = String.ofList t := by
    apply String.toByteArray_inj.mp
    simp only [String.toByteArray_ofList, List.utf8Encode, hbytes]
  simpa using congrArg String.toList hs

lemma encode_ne_nil {s : Text} (h : s ≠ []) : encode s ≠ [] := by
  intro he
  exact h (encode_injective (he.trans rfl))

@[simp] lemma join_split (s : Text) : join (split s) = s := List.intercalate_splitOn '/'

lemma split_append_slash (s t : Text) : split (s ++ '/' :: t) = split s ++ split t :=
  List.splitOn_append_cons_self s t

lemma split_of_not_mem {s : Text} (h : '/' ∉ s) : split s = [s] :=
  List.splitOn_eq_singleton h

lemma join_cons_cons (a b : Text) (parts : List Text) :
    join (a :: b :: parts) = a ++ '/' :: join (b :: parts) := by
  simp [join, List.intercalate]

@[simp] lemma join_singleton (a : Text) : join [a] = a := by
  simp [join, List.intercalate]

lemma join_append {xs ys : List Text} (hx : xs ≠ []) (hy : ys ≠ []) :
    join (xs ++ ys) = join xs ++ '/' :: join ys := by
  induction xs with
  | nil => exact absurd rfl hx
  | cons a xs ih =>
    cases xs with
    | nil =>
      obtain ⟨b, ys, rfl⟩ := List.exists_cons_of_ne_nil hy
      simp [join_cons_cons]
    | cons b xs =>
      have h := ih (by simp)
      simp only [List.cons_append, join_cons_cons] at h ⊢
      rw [h, List.append_assoc]
      rfl

lemma not_mem_of_mem_split {s part : Text} (h : part ∈ split s) : '/' ∉ part := by
  induction s generalizing part with
  | nil =>
    have : part = [] := by simpa [split] using h
    simp [this]
  | cons c s ih =>
    unfold split at h ih
    rw [List.splitOn_cons_eq_if_modifyHead] at h
    split at h
    · rcases List.mem_cons.mp h with rfl | h
      · simp
      · exact ih h
    · rename_i hc
      obtain ⟨a, rest, hs⟩ := List.exists_cons_of_ne_nil (List.splitOn_ne_nil '/' s)
      rw [hs] at h ih
      simp only [List.modifyHead_cons, List.mem_cons] at h
      rcases h with rfl | h
      · have := ih (by simp : a ∈ a :: rest)
        simp only [List.mem_cons, not_or]
        exact ⟨fun he => hc (by simp [← he]), this⟩
      · exact ih (by simp [h])

lemma split_join {parts : List Text} (hp : ∀ part ∈ parts, '/' ∉ part) (hn : parts ≠ []) :
    split (join parts) = parts :=
  List.splitOn_intercalate '/' hp hn

lemma top_append_slash (s t : Text) : top (s ++ '/' :: t) = top s := by
  induction s with
  | nil => simp [top]
  | cons c s ih =>
    by_cases hc : c = '/'
    · simp [top, hc]
    · simpa [top, hc] using ih

lemma top_of_not_mem {s : Text} (h : '/' ∉ s) : top s = s := by
  unfold top
  rw [List.takeWhile_eq_self_iff]
  intro c hc
  have hne : c ≠ '/' := by
    rintro rfl
    exact h hc
  simpa using hne

lemma not_mem_top (s : Text) : '/' ∉ top s := by
  intro h
  simpa using List.mem_takeWhile_imp h

/-- Every proper ancestor of a path, read off its components. -/
lemma join_take_append {s : Text} {i : ℕ} (h0 : 0 < i) (hi : i < (split s).length) :
    ∃ rest, s = join ((split s).take i) ++ '/' :: rest := by
  have hx : (split s).take i ≠ [] := by
    rw [← List.length_pos_iff, List.length_take]
    omega
  have hy : (split s).drop i ≠ [] := by
    rw [← List.length_pos_iff, List.length_drop]
    omega
  refine ⟨join ((split s).drop i), ?_⟩
  rw [← join_append hx hy, List.take_append_drop, join_split]

/-- A path before the slash sorts before everything below it. -/
lemma encode_lt_append (s t : Text) (h : t ≠ []) : encode s < encode (s ++ t) := by
  rw [encode_append]
  obtain ⟨b, bs, hb⟩ := List.exists_cons_of_ne_nil (encode_ne_nil h)
  rw [hb]
  induction encode s with
  | nil => exact List.nil_lt_cons _ _
  | cons a as ih => simpa using ih

end Text

end AgentRemote
