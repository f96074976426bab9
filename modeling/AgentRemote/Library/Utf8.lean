import Mathlib.Tactic

/-!
# Strict UTF-8, at once and in chunks

A byte string is strict UTF-8 when it is the encoding of some characters. An incremental
decoder remembers the ranges of the bytes that the open character still needs, so it can
be fed any chunks. It ends with no open character exactly on the strict encodings.
-/

namespace AgentRemote.Library.Utf8

/-- The bytes of a character. -/
def encodeChar (c : Char) : List ℕ := (String.utf8EncodeChar c).map UInt8.toNat

/-- `bytes` encodes some text. -/
def Decodes (bytes : List ℕ) : Prop := ∃ s : List Char, s.flatMap encodeChar = bytes

/-- The ranges of the bytes that the open character still needs. -/
abbrev Pending := List (ℕ × ℕ)

/-- The range of a byte that continues a character. -/
def tail : ℕ × ℕ := (0x80, 0xBF)

/-- What must follow a first byte. The narrowed second bytes keep out overlong forms,
surrogates and code points over the last one. -/
def lead (b : ℕ) : Option Pending :=
  if b < 0x80 then some []
  else if b < 0xC2 then none
  else if b < 0xE0 then some [tail]
  else if b < 0xF0 then
    some [(if b = 0xE0 then 0xA0 else 0x80, if b = 0xED then 0x9F else 0xBF), tail]
  else if b < 0xF5 then
    some [(if b = 0xF0 then 0x90 else 0x80, if b = 0xF4 then 0x8F else 0xBF), tail, tail]
  else none

/-- The decoder reads one byte. -/
def step : Pending → ℕ → Option Pending
  | [], b => lead b
  | (lo, hi) :: due, b => if lo ≤ b ∧ b ≤ hi then some due else none

/-- The decoder reads a chunk. -/
def feed (due : Pending) (chunk : List ℕ) : Option Pending := chunk.foldlM step due

@[simp] lemma feed_nil (due : Pending) : feed due [] = some due := rfl

@[simp] lemma feed_cons (due : Pending) (b : ℕ) (chunk : List ℕ) :
    feed due (b :: chunk) = (step due b).bind fun due => feed due chunk := rfl

lemma feed_append (due : Pending) (first second : List ℕ) :
    feed due (first ++ second) = (feed due first).bind fun due => feed due second := by
  simp [feed, List.foldlM_append]

section

variable {c : Char} {n : ℕ}

/-! ### The bytes of a character -/

private lemma toNat_val (c : Char) : c.val.toNat = c.toNat := rfl

lemma toNat_valid (c : Char) :
    c.toNat < 0xD800 ∨ 0xDFFF < c.toNat ∧ c.toNat < 0x110000 := c.valid

lemma encodeChar_one (h : c.toNat < 0x80) : encodeChar c = [c.toNat] := by
  have hone : c.toNat ≤ 0x7f := by omega
  simp only [encodeChar, String.utf8EncodeChar, toNat_val, hone, if_true, List.map_cons,
    List.map_nil, UInt8.toNat_ofNat']
  congr 1
  omega

lemma encodeChar_two (hlo : 0x80 ≤ c.toNat) (hhi : c.toNat < 0x800) :
    encodeChar c = [c.toNat / 64 + 0xC0, c.toNat % 64 + 0x80] := by
  have hone : ¬c.toNat ≤ 0x7f := by omega
  have htwo : c.toNat ≤ 0x7ff := by omega
  simp only [encodeChar, String.utf8EncodeChar, toNat_val, hone, htwo, if_true, if_false,
    List.map_cons, List.map_nil, UInt8.toNat_ofNat', List.cons.injEq, and_true]
  refine ⟨?_, ?_⟩ <;> omega

lemma encodeChar_three (hlo : 0x800 ≤ c.toNat) (hhi : c.toNat < 0x10000) :
    encodeChar c =
      [c.toNat / 4096 + 0xE0, c.toNat / 64 % 64 + 0x80, c.toNat % 64 + 0x80] := by
  have hone : ¬c.toNat ≤ 0x7f := by omega
  have htwo : ¬c.toNat ≤ 0x7ff := by omega
  have hthree : c.toNat ≤ 0xffff := by omega
  simp only [encodeChar, String.utf8EncodeChar, toNat_val, hone, htwo, hthree, if_true, if_false,
    List.map_cons, List.map_nil, UInt8.toNat_ofNat', List.cons.injEq, and_true]
  refine ⟨?_, ?_, ?_⟩ <;> omega

lemma encodeChar_four (hlo : 0x10000 ≤ c.toNat) :
    encodeChar c = [c.toNat / 262144 + 0xF0, c.toNat / 4096 % 64 + 0x80,
      c.toNat / 64 % 64 + 0x80, c.toNat % 64 + 0x80] := by
  have hone : ¬c.toNat ≤ 0x7f := by omega
  have htwo : ¬c.toNat ≤ 0x7ff := by omega
  have hthree : ¬c.toNat ≤ 0xffff := by omega
  have hvalid := toNat_valid c
  simp only [encodeChar, String.utf8EncodeChar, toNat_val, hone, htwo, hthree, if_false,
    List.map_cons, List.map_nil, UInt8.toNat_ofNat', List.cons.injEq, and_true]
  refine ⟨?_, ?_, ?_, ?_⟩ <;> omega

/-- Every code point that is no surrogate is a character. -/
lemma exists_toNat (h : n < 0xD800 ∨ 0xDFFF < n ∧ n < 0x110000) : ∃ c : Char, c.toNat = n :=
  ⟨Char.ofNatAux n h, rfl⟩

/-! ### The decoder accepts exactly the encodings -/

lemma lead_one {b : ℕ} (h : b < 0x80) : lead b = some [] := if_pos h

lemma lead_two {b : ℕ} (hlo : 0xC2 ≤ b) (hhi : b < 0xE0) : lead b = some [tail] := by
  rw [lead, if_neg (by omega), if_neg (by omega), if_pos hhi]

lemma lead_three {b : ℕ} (hlo : 0xE0 ≤ b) (hhi : b < 0xF0) :
    lead b = some [(if b = 0xE0 then 0xA0 else 0x80, if b = 0xED then 0x9F else 0xBF), tail] := by
  rw [lead, if_neg (by omega), if_neg (by omega), if_neg (by omega), if_pos hhi]

lemma lead_four {b : ℕ} (hlo : 0xF0 ≤ b) (hhi : b < 0xF5) :
    lead b =
      some [(if b = 0xF0 then 0x90 else 0x80, if b = 0xF4 then 0x8F else 0xBF), tail, tail] := by
  rw [lead, if_neg (by omega), if_neg (by omega), if_neg (by omega), if_neg (by omega),
    if_pos hhi]

lemma feed_due_cons {lo hi b : ℕ} {due : Pending} {rest : List ℕ} :
    feed ((lo, hi) :: due) (b :: rest) = some [] ↔
      (lo ≤ b ∧ b ≤ hi) ∧ feed due rest = some [] := by
  by_cases hb : lo ≤ b ∧ b ≤ hi <;> simp [step, hb]

lemma feed_lead {b : ℕ} {due : Pending} {rest : List ℕ} (h : lead b = some due) :
    feed [] (b :: rest) = feed due rest := by
  simp [step, h]

/-- No character is open after the bytes of a whole one. -/
lemma feed_encodeChar (c : Char) : feed [] (encodeChar c) = some [] := by
  have hvalid := toNat_valid c
  by_cases hone : c.toNat < 0x80
  · rw [encodeChar_one hone, feed_lead (lead_one hone), feed_nil]
  by_cases htwo : c.toNat < 0x800
  · rw [encodeChar_two (by omega) htwo, feed_lead (lead_two (by omega) (by omega)), tail,
      feed_due_cons]
    exact ⟨by omega, rfl⟩
  by_cases hthree : c.toNat < 0x10000
  · rw [encodeChar_three (by omega) hthree, feed_lead (lead_three (by omega) (by omega)), tail,
      feed_due_cons, feed_due_cons]
    refine ⟨⟨?_, ?_⟩, by omega, rfl⟩ <;> split_ifs <;> omega
  · rw [encodeChar_four (by omega), feed_lead (lead_four (by omega) (by omega)), tail,
      feed_due_cons, feed_due_cons, feed_due_cons]
    refine ⟨⟨?_, ?_⟩, by omega, by omega, rfl⟩ <;> split_ifs <;> omega

lemma feed_flatMap (s : List Char) : feed [] (s.flatMap encodeChar) = some [] := by
  induction s with
  | nil => rfl
  | cons c s ih => rw [List.flatMap_cons, feed_append, feed_encodeChar, Option.bind_some, ih]

lemma feed_due {lo hi : ℕ} {due : Pending} {bytes : List ℕ}
    (h : feed ((lo, hi) :: due) bytes = some []) :
    ∃ b rest, bytes = b :: rest ∧ (lo ≤ b ∧ b ≤ hi) ∧ feed due rest = some [] := by
  cases bytes with
  | nil => simp at h
  | cons b rest => exact ⟨b, rest, rfl, feed_due_cons.mp h⟩

/-- Bytes that leave no character open begin with the bytes of a whole one. -/
lemma exists_encodeChar {b : ℕ} {bytes : List ℕ} (h : feed [] (b :: bytes) = some []) :
    ∃ c rest, b :: bytes = encodeChar c ++ rest ∧ feed [] rest = some [] := by
  by_cases hone : b < 0x80
  · obtain ⟨c, rfl⟩ := exists_toNat (n := b) (by omega)
    rw [feed_lead (lead_one hone)] at h
    exact ⟨c, bytes, by rw [encodeChar_one hone]; rfl, h⟩
  by_cases hnone : b < 0xC2
  · simp [step, lead, hone, hnone] at h
  by_cases htwo : b < 0xE0
  · rw [feed_lead (lead_two (by omega) htwo), tail] at h
    obtain ⟨x, rest, rfl, hx, h⟩ := feed_due h
    obtain ⟨c, hc⟩ := exists_toNat (n := (b - 0xC0) * 64 + (x - 0x80)) (by omega)
    refine ⟨c, rest, ?_, h⟩
    rw [encodeChar_two (by omega) (by omega)]
    simp only [List.cons_append, List.nil_append, List.cons.injEq, and_true]
    omega
  by_cases hthree : b < 0xF0
  · rw [feed_lead (lead_three (by omega) hthree), tail] at h
    obtain ⟨x, bytes, rfl, hx, h⟩ := feed_due h
    obtain ⟨y, rest, rfl, hy, h⟩ := feed_due h
    obtain ⟨c, hc⟩ := exists_toNat
      (n := (b - 0xE0) * 4096 + (x - 0x80) * 64 + (y - 0x80)) (by split_ifs at hx <;> omega)
    refine ⟨c, rest, ?_, h⟩
    rw [encodeChar_three (by split_ifs at hx <;> omega) (by split_ifs at hx <;> omega)]
    simp only [List.cons_append, List.nil_append, List.cons.injEq, and_true]
    split_ifs at hx <;> omega
  by_cases hfour : b < 0xF5
  · rw [feed_lead (lead_four (by omega) hfour), tail] at h
    obtain ⟨x, bytes, rfl, hx, h⟩ := feed_due h
    obtain ⟨y, bytes, rfl, hy, h⟩ := feed_due h
    obtain ⟨z, rest, rfl, hz, h⟩ := feed_due h
    obtain ⟨c, hc⟩ := exists_toNat
      (n := (b - 0xF0) * 262144 + (x - 0x80) * 4096 + (y - 0x80) * 64 + (z - 0x80))
      (by split_ifs at hx <;> omega)
    refine ⟨c, rest, ?_, h⟩
    rw [encodeChar_four (by split_ifs at hx <;> omega)]
    simp only [List.cons_append, List.nil_append, List.cons.injEq, and_true]
    split_ifs at hx <;> omega
  · simp [step, lead, hone, hnone, htwo, hthree, hfour] at h

lemma decodes_of_feed (bytes : List ℕ) (h : feed [] bytes = some []) : Decodes bytes := by
  match bytes with
  | [] => exact ⟨[], rfl⟩
  | b :: bytes =>
    obtain ⟨c, rest, hsplit, hrest⟩ := exists_encodeChar h
    have hlt : rest.length < bytes.length + 1 := by
      rw [← List.length_cons, hsplit, List.length_append]
      have hpos : 0 < (encodeChar c).length := by
        simpa [encodeChar] using String.length_utf8EncodeChar c ▸ c.utf8Size_pos
      omega
    obtain ⟨s, rfl⟩ := decodes_of_feed rest hrest
    exact ⟨c :: s, by rw [List.flatMap_cons, hsplit]⟩
termination_by bytes.length

/-- No character is open exactly at the end of a strict encoding. -/
theorem decodes_iff {bytes : List ℕ} : Decodes bytes ↔ feed [] bytes = some [] := by
  constructor
  · rintro ⟨s, rfl⟩
    exact feed_flatMap s
  · exact decodes_of_feed bytes

instance {bytes : List ℕ} : Decidable (Decodes bytes) := decidable_of_iff _ decodes_iff.symm

end

end AgentRemote.Library.Utf8
