import Mathlib.Data.List.Basic

/-!
# The encodings of a JSON document

How `json.loads` turns bytes into code points: the encoding is told from the first bytes, and
encoded surrogates pass. Bytes and code points are natural numbers.
-/

namespace AgentRemote.Library.Codecs

/-- A continuation byte of UTF-8. -/
def isTail (b : ℕ) : Bool := 0x80 ≤ b ∧ b < 0xC0

/-- `bytes.decode("utf-8", "surrogatepass")`. -/
def decodeUtf8 : List ℕ → Option (List ℕ)
  | [] => some []
  | b₀ :: rest =>
    if b₀ < 0x80 then (decodeUtf8 rest).map (b₀ :: ·)
    else match rest with
    | [] => none
    | b₁ :: rest =>
      if isTail b₁ = false then none
      else if 0xC2 ≤ b₀ ∧ b₀ < 0xE0 then
        (decodeUtf8 rest).map (((b₀ - 0xC0) * 64 + (b₁ - 0x80)) :: ·)
      else match rest with
      | [] => none
      | b₂ :: rest =>
        if isTail b₂ = false then none
        else if 0xE0 ≤ b₀ ∧ b₀ < 0xF0 then
          let point := (b₀ - 0xE0) * 4096 + (b₁ - 0x80) * 64 + (b₂ - 0x80)
          if point < 0x800 then none else (decodeUtf8 rest).map (point :: ·)
        else match rest with
        | [] => none
        | b₃ :: rest =>
          if isTail b₃ = false then none
          else if 0xF0 ≤ b₀ ∧ b₀ < 0xF5 then
            let point := (b₀ - 0xF0) * 262144 + (b₁ - 0x80) * 4096 + (b₂ - 0x80) * 64 + (b₃ - 0x80)
            if point < 0x10000 ∨ 0x10FFFF < point then none
            else (decodeUtf8 rest).map (point :: ·)
          else none

def isHighSurrogate (u : ℕ) : Bool := 0xD800 ≤ u ∧ u < 0xDC00

def isLowSurrogate (u : ℕ) : Bool := 0xDC00 ≤ u ∧ u < 0xE000

/-- The code point of a pair of surrogates. -/
def joinSurrogates (high low : ℕ) : ℕ := 0x10000 + (high - 0xD800) * 0x400 + (low - 0xDC00)

/-- The two-byte units of a text; `big` is the byte order. -/
def units16 (big : Bool) : List ℕ → Option (List ℕ)
  | [] => some []
  | [_] => none
  | a :: b :: rest => (units16 big rest).map ((if big then a * 256 + b else b * 256 + a) :: ·)

/-- Pairs of surrogates become one code point, a lone one passes. -/
def joinPairs : List ℕ → List ℕ
  | [] => []
  | [u] => [u]
  | u :: v :: rest =>
    if isHighSurrogate u = true ∧ isLowSurrogate v = true then joinSurrogates u v :: joinPairs rest
    else u :: joinPairs (v :: rest)

/-- `bytes.decode("utf-16", "surrogatepass")` of a byte order. -/
def decodeUtf16 (big : Bool) (bytes : List ℕ) : Option (List ℕ) :=
  (units16 big bytes).map joinPairs

/-- `bytes.decode("utf-32", "surrogatepass")` of a byte order. -/
def decodeUtf32 (big : Bool) : List ℕ → Option (List ℕ)
  | [] => some []
  | a :: b :: c :: d :: rest =>
    let point := if big then ((a * 256 + b) * 256 + c) * 256 + d
      else ((d * 256 + c) * 256 + b) * 256 + a
    if 0x10FFFF < point then none else (decodeUtf32 big rest).map (point :: ·)
  | _ => none

/-- The decoding of a document with its byte order mark dropped, when it has one. -/
def decodeMarked : List ℕ → Option (Option (List ℕ))
  | 0x00 :: 0x00 :: 0xFE :: 0xFF :: rest => some (decodeUtf32 true rest)
  | 0xFF :: 0xFE :: 0x00 :: 0x00 :: rest => some (decodeUtf32 false rest)
  | 0xFE :: 0xFF :: rest => some (decodeUtf16 true rest)
  | 0xFF :: 0xFE :: rest => some (decodeUtf16 false rest)
  | 0xEF :: 0xBB :: 0xBF :: rest => some (decodeUtf8 rest)
  | _ => none

/-- `s.decode(json.detect_encoding(s), "surrogatepass")`. -/
def decode (bytes : List ℕ) : Option (List ℕ) :=
  match decodeMarked bytes with
  | some decoded => decoded
  | none =>
    match bytes with
    | b₀ :: b₁ :: b₂ :: b₃ :: _ =>
      if b₀ = 0 then if b₁ = 0 then decodeUtf32 true bytes else decodeUtf16 true bytes
      else if b₁ = 0 then
        if b₂ = 0 ∧ b₃ = 0 then decodeUtf32 false bytes else decodeUtf16 false bytes
      else decodeUtf8 bytes
    | [b₀, b₁] =>
      if b₀ = 0 then decodeUtf16 true bytes
      else if b₁ = 0 then decodeUtf16 false bytes
      else decodeUtf8 bytes
    | _ => decodeUtf8 bytes

/-- The length of the UTF-8 encoding of a text, `none` where it has a surrogate. -/
def utf8Size (points : List ℕ) : Option ℕ :=
  points.foldl (fun size point => size.bind fun size =>
    if isHighSurrogate point = true ∨ isLowSurrogate point = true then none
    else some (size + if point < 0x80 then 1 else if point < 0x800 then 2
      else if point < 0x10000 then 3 else 4)) (some 0)

end AgentRemote.Library.Codecs
