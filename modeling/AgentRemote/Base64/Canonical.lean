import AgentRemote.Base64
import Mathlib.Data.List.DropRight

/-!
# Canonical base64

What `base64.urlsafe_b64encode` writes without its pads. The lenient decoder reads it back, so a
text that is encoded again to itself is the encoding of some bytes.
-/

namespace AgentRemote.Base64
open Library

/-- The letter of a value below 64. -/
def letter (value : ℕ) : Char :=
  if value < 26 then Char.ofNat ('A'.toNat + value)
  else if value < 52 then Char.ofNat ('a'.toNat + (value - 26))
  else if value < 62 then Char.ofNat ('0'.toNat + (value - 52))
  else if value = 62 then '-' else '_'

/-- `base64.urlsafe_b64encode`. -/
def urlsafeEncode : List ℕ → Text
  | [] => []
  | [a] => [letter (a / 4), letter (a % 4 * 16), '=', '=']
  | [a, b] => [letter (a / 4), letter (a % 4 * 16 + b / 16), letter (b % 16 * 4), '=']
  | a :: b :: c :: rest =>
    letter (a / 4) :: letter (a % 4 * 16 + b / 16) :: letter (b % 16 * 4 + c / 64) ::
      letter (c % 64) :: urlsafeEncode rest

/-- `base64.urlsafe_b64encode(bytes).rstrip("=")`. -/
def unpaddedEncode (bytes : List ℕ) : Text := (urlsafeEncode bytes).rdropWhile (· = '=')

lemma sextet_letter {value : ℕ} (h : value < 64) : sextet (letter value) = some value := by
  have hall : ∀ value < 64, sextet (letter value) = some value := by decide
  exact hall value h

lemma letter_ne_pad {value : ℕ} (h : value < 64) : letter value ≠ '=' := by
  have hall : ∀ value < 64, letter value ≠ '=' := by decide
  exact hall value h

lemma letter_ascii {value : ℕ} (h : value < 64) : (letter value).toNat < 128 := by
  have hall : ∀ value < 64, (letter value).toNat < 128 := by decide
  exact hall value h

/-- The letters of an encoding without its pads, and how many pads follow. -/
lemma urlsafeEncode_eq {bytes : List ℕ} (h : ∀ b ∈ bytes, b < 256) :
    ∃ letters pads, urlsafeEncode bytes = letters ++ List.replicate pads '=' ∧
      (∀ c ∈ letters, ∃ value < 64, c = letter value) ∧ (4 - letters.length % 4) % 4 = pads := by
  induction bytes using urlsafeEncode.induct with
  | case1 => exact ⟨[], 0, rfl, by simp, rfl⟩
  | case2 a =>
    have ha : a < 256 := h a (by simp)
    refine ⟨[letter (a / 4), letter (a % 4 * 16)], 2, rfl, ?_, rfl⟩
    intro c hc
    simp only [List.mem_cons, List.not_mem_nil, or_false] at hc
    rcases hc with rfl | rfl
    · exact ⟨a / 4, by omega, rfl⟩
    · exact ⟨a % 4 * 16, by omega, rfl⟩
  | case3 a b =>
    have ha : a < 256 := h a (by simp)
    have hb : b < 256 := h b (by simp)
    refine ⟨[letter (a / 4), letter (a % 4 * 16 + b / 16), letter (b % 16 * 4)], 1, rfl, ?_, rfl⟩
    intro c hc
    simp only [List.mem_cons, List.not_mem_nil, or_false] at hc
    rcases hc with rfl | rfl | rfl
    · exact ⟨a / 4, by omega, rfl⟩
    · exact ⟨a % 4 * 16 + b / 16, by omega, rfl⟩
    · exact ⟨b % 16 * 4, by omega, rfl⟩
  | case4 a b c rest ih =>
    have ha : a < 256 := h a (by simp)
    have hb : b < 256 := h b (by simp)
    have hc : c < 256 := h c (by simp)
    obtain ⟨letters, pads, hrest, hletters, hpads⟩ := ih fun x hx => h x (by simp [hx])
    refine ⟨letter (a / 4) :: letter (a % 4 * 16 + b / 16) :: letter (b % 16 * 4 + c / 64) ::
      letter (c % 64) :: letters, pads, ?_, ?_, ?_⟩
    · simp only [urlsafeEncode, hrest, List.cons_append]
    · intro x hx
      simp only [List.mem_cons] at hx
      rcases hx with rfl | rfl | rfl | rfl | hx
      · exact ⟨a / 4, by omega, rfl⟩
      · exact ⟨a % 4 * 16 + b / 16, by omega, rfl⟩
      · exact ⟨b % 16 * 4 + c / 64, by omega, rfl⟩
      · exact ⟨c % 64, by omega, rfl⟩
      · exact hletters x hx
    · simp only [List.length_cons]
      omega

lemma rdropWhile_pads {letters : Text} (h : ∀ c ∈ letters, c ≠ '=') (pads : ℕ) :
    (letters ++ List.replicate pads '=').rdropWhile (· = '=') = letters := by
  induction pads with
  | zero =>
    rw [List.replicate_zero, List.append_nil, List.rdropWhile_eq_self_iff]
    intro hne
    simpa using h _ (List.getLast_mem hne)
  | succ pads ih =>
    rw [List.replicate_succ', ← List.append_assoc, List.rdropWhile_concat_pos _ _ _ (by simp)]
    exact ih

section

variable {value left pads : ℕ} {rest : Text}

lemma decodeFrom_first (h : value < 64) :
    decodeFrom ⟨0, left, pads⟩ (letter value :: rest) = decodeFrom ⟨1, value, 0⟩ rest := by
  rw [decodeFrom, if_neg (letter_ne_pad h), sextet_letter h]
  rfl

lemma decodeFrom_second (h : value < 64) :
    decodeFrom ⟨1, left, pads⟩ (letter value :: rest) =
      (decodeFrom ⟨2, value % 16, 0⟩ rest >>= fun bytes =>
        .ok ((left * 4 + value / 16) :: bytes)) := by
  rw [decodeFrom, if_neg (letter_ne_pad h), sextet_letter h]
  rfl

lemma decodeFrom_third (h : value < 64) :
    decodeFrom ⟨2, left, pads⟩ (letter value :: rest) =
      (decodeFrom ⟨3, value % 4, 0⟩ rest >>= fun bytes =>
        .ok ((left * 16 + value / 4) :: bytes)) := by
  rw [decodeFrom, if_neg (letter_ne_pad h), sextet_letter h]
  rfl

lemma decodeFrom_fourth (h : value < 64) :
    decodeFrom ⟨3, left, pads⟩ (letter value :: rest) =
      (decodeFrom ⟨0, 0, 0⟩ rest >>= fun bytes => .ok ((left * 64 + value) :: bytes)) := by
  rw [decodeFrom, if_neg (letter_ne_pad h), sextet_letter h]
  rfl

end

/-- The decoder at the start of a quad reads an encoding back. -/
lemma decodeFrom_urlsafeEncode {bytes : List ℕ} (h : ∀ b ∈ bytes, b < 256) :
    decodeFrom ⟨0, 0, 0⟩ (urlsafeEncode bytes) = .ok bytes := by
  induction bytes using urlsafeEncode.induct with
  | case1 => rfl
  | case2 a =>
    have ha : a < 256 := h a (by simp)
    have hfirst : a / 4 * 4 + a % 4 * 16 / 16 = a := by omega
    rw [urlsafeEncode, decodeFrom_first (by omega), decodeFrom_second (by omega), hfirst]
    rfl
  | case3 a b =>
    have ha : a < 256 := h a (by simp)
    have hb : b < 256 := h b (by simp)
    have hfirst : a / 4 * 4 + (a % 4 * 16 + b / 16) / 16 = a := by omega
    have hsecond : (a % 4 * 16 + b / 16) % 16 * 16 + b % 16 * 4 / 4 = b := by omega
    rw [urlsafeEncode, decodeFrom_first (by omega), decodeFrom_second (by omega),
      decodeFrom_third (by omega), hfirst, hsecond]
    rfl
  | case4 a b c rest ih =>
    have ha : a < 256 := h a (by simp)
    have hb : b < 256 := h b (by simp)
    have hc : c < 256 := h c (by simp)
    have hfirst : a / 4 * 4 + (a % 4 * 16 + b / 16) / 16 = a := by omega
    have hsecond : (a % 4 * 16 + b / 16) % 16 * 16 + (b % 16 * 4 + c / 64) / 4 = b := by omega
    have hthird : (b % 16 * 4 + c / 64) % 4 * 64 + c % 64 = c := by omega
    rw [urlsafeEncode, decodeFrom_first (by omega), decodeFrom_second (by omega),
      decodeFrom_third (by omega), decodeFrom_fourth (by omega), hfirst, hsecond, hthird,
      ih fun x hx => h x (by simp [hx])]
    rfl

/-- An encoding without its pads, and the pads that the decoder restores. -/
lemma unpaddedEncode_eq {bytes : List ℕ} (h : ∀ b ∈ bytes, b < 256) :
    (∀ c ∈ unpaddedEncode bytes, ∃ value < 64, c = letter value) ∧
      unpaddedEncode bytes ++ List.replicate ((4 - (unpaddedEncode bytes).length % 4) % 4) '=' =
        urlsafeEncode bytes := by
  obtain ⟨letters, pads, hencode, hletters, hpads⟩ := urlsafeEncode_eq h
  have hne : ∀ c ∈ letters, c ≠ '=' := by
    intro c hc
    obtain ⟨value, hvalue, rfl⟩ := hletters c hc
    exact letter_ne_pad hvalue
  have hstrip : unpaddedEncode bytes = letters := by
    unfold unpaddedEncode
    rw [hencode, rdropWhile_pads hne]
  rw [hstrip, hpads, hencode]
  exact ⟨hletters, rfl⟩

/-- The lenient decoder reads every encoding back. -/
theorem unpaddedDecode_unpaddedEncode {bytes : List ℕ} (h : ∀ b ∈ bytes, b < 256) :
    unpaddedDecode (unpaddedEncode bytes) = .ok bytes := by
  obtain ⟨hletters, hencode⟩ := unpaddedEncode_eq h
  have hascii : (urlsafeEncode bytes).all (fun c => c.toNat < 128) = true := by
    rw [← hencode, List.all_append, Bool.and_eq_true, List.all_eq_true, List.all_eq_true]
    constructor
    · intro c hc
      obtain ⟨value, hvalue, rfl⟩ := hletters c hc
      exact decide_eq_true (letter_ascii hvalue)
    · intro c hc
      rw [List.eq_of_mem_replicate hc]
      rfl
  unfold unpaddedDecode urlsafeDecode
  rw [hencode, reject_of_not (not_not.mpr hascii), ok_bind, decodeFrom_urlsafeEncode h]

/-- What is left of a letter in each place of a quad. -/
def Quad.Sound (quad : Quad) : Prop :=
  match quad.position with
  | 0 => True
  | 1 => quad.left < 64
  | 2 => quad.left < 16
  | _ => quad.left < 4

lemma sextet_lt {c : Char} {value : ℕ} (h : sextet c = some value) : value < 64 := by
  unfold sextet at h
  split_ifs at h with hupper hlower hdigit hminus hunderscore
  · have hle : c.toNat ≤ 'Z'.toNat := hupper.2
    have hZ : 'Z'.toNat = 90 := rfl
    have hA : 'A'.toNat = 65 := rfl
    cases h
    omega
  · have hle : c.toNat ≤ 'z'.toNat := hlower.2
    have hz : 'z'.toNat = 122 := rfl
    have ha : 'a'.toNat = 97 := rfl
    cases h
    omega
  · have hle : c.toNat ≤ '9'.toNat := by
      simp only [Char.isDigit, Bool.and_eq_true, decide_eq_true_eq] at hdigit
      exact hdigit.2
    have h9 : '9'.toNat = 57 := rfl
    have h0 : '0'.toNat = 48 := rfl
    cases h
    omega
  · cases h
    omega
  · cases h
    omega

/-- Decoded values are bytes. -/
lemma decodeFrom_lt {quad : Quad} {s : Text} {bytes : List ℕ} (hquad : quad.Sound)
    (h : decodeFrom quad s = .ok bytes) : ∀ b ∈ bytes, b < 256 := by
  induction s generalizing quad bytes with
  | nil =>
    unfold decodeFrom at h
    simp only [reject_bind_eq_ok, pure_eq_ok, Except.ok.injEq] at h
    obtain ⟨-, -, rfl⟩ := h
    simp
  | cons c s ih =>
    have hcons : ∀ {next : Quad} {byte : ℕ}, next.Sound → byte < 256 →
        (decodeFrom next s >>= fun bytes => pure (byte :: bytes)) = .ok bytes →
        ∀ b ∈ bytes, b < 256 := by
      intro next byte hnext hbyte h
      obtain ⟨tail, htail, h⟩ := bind_eq_ok.mp h
      cases h
      exact List.forall_mem_cons.mpr ⟨hbyte, ih hnext htail⟩
    obtain ⟨position, left, pads⟩ := quad
    unfold decodeFrom at h
    by_cases hpad : c = '='
    · rw [if_pos hpad] at h
      split_ifs at h
      · exact ih hquad h
      · cases h
        simp
      · exact @ih ⟨position, left, pads + 1⟩ bytes hquad h
    · rw [if_neg hpad] at h
      cases hsextet : sextet c with
      | none =>
        rw [hsextet] at h
        exact ih hquad h
      | some value =>
        have hvalue := sextet_lt hsextet
        rw [hsextet] at h
        rcases position with _ | _ | _ | n
        · exact @ih ⟨1, value, 0⟩ bytes hvalue h
        · have hleft : left < 64 := hquad
          exact @hcons ⟨2, value % 16, 0⟩ (left * 4 + value / 16)
            (Nat.mod_lt _ (by omega)) (by omega) h
        · have hleft : left < 16 := hquad
          exact @hcons ⟨3, value % 4, 0⟩ (left * 16 + value / 4)
            (Nat.mod_lt _ (by omega)) (by omega) h
        · have hleft : left < 4 := hquad
          exact @hcons ⟨0, 0, 0⟩ (left * 64 + value) trivial (by omega) h

/-- A text that is decoded and encoded to itself is the encoding of bytes, and conversely. -/
theorem canonical_iff {s : Text} {n : ℕ} :
    (∃ bytes, unpaddedDecode s = .ok bytes ∧ bytes.length = n ∧ unpaddedEncode bytes = s) ↔
      ∃ bytes : List ℕ, (∀ b ∈ bytes, b < 256) ∧ bytes.length = n ∧ s = unpaddedEncode bytes := by
  constructor
  · rintro ⟨bytes, hdecode, hlength, rfl⟩
    have hbytes : ∀ b ∈ bytes, b < 256 := by
      unfold unpaddedDecode urlsafeDecode at hdecode
      have hstart : Quad.Sound ⟨0, 0, 0⟩ := trivial
      exact decodeFrom_lt hstart (reject_bind_eq_ok.mp hdecode).2
    exact ⟨bytes, hbytes, hlength, rfl⟩
  · rintro ⟨bytes, hbytes, hlength, rfl⟩
    exact ⟨bytes, unpaddedDecode_unpaddedEncode hbytes, hlength, rfl⟩

end AgentRemote.Base64
