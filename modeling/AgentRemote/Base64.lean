import AgentRemote.Library.Outcome
import AgentRemote.Text

/-!
# Lenient base64

`base64.urlsafe_b64decode` as Python reads it: letters outside the alphabet are skipped, a
pad ends the text where it completes a quad, and the bits that fill no byte are dropped.
-/

namespace AgentRemote.Base64
open Library

/-- The value of a letter of either alphabet. -/
def sextet (c : Char) : Option ℕ :=
  if 'A' ≤ c ∧ c ≤ 'Z' then some (c.toNat - 'A'.toNat)
  else if 'a' ≤ c ∧ c ≤ 'z' then some (c.toNat - 'a'.toNat + 26)
  else if c.isDigit then some (c.toNat - '0'.toNat + 52)
  else if c = '-' ∨ c = '+' then some 62
  else if c = '_' ∨ c = '/' then some 63
  else none

/-- The decoder inside a quad: the letters read of it, the bits that are left of the last
one and the pads since it. -/
structure Quad where
  position : ℕ
  left : ℕ
  pads : ℕ

/-- `binascii.a2b_base64` from inside a quad. -/
def decodeFrom (quad : Quad) : Text → Except String (List ℕ)
  | [] => do
    reject (quad.position = 1) "number of data characters cannot be 1 more than a multiple of 4"
    reject (quad.position ≠ 0) "Incorrect padding"
    return []
  | c :: rest =>
    if c = '=' then
      if quad.position < 2 then decodeFrom quad rest
      else if 4 ≤ quad.position + (quad.pads + 1) then .ok []
      else decodeFrom { quad with pads := quad.pads + 1 } rest
    else
      match sextet c with
      | none => decodeFrom quad rest
      | some value =>
        match quad.position with
        | 0 => decodeFrom ⟨1, value, 0⟩ rest
        | 1 => do
          let bytes ← decodeFrom ⟨2, value % 16, 0⟩ rest
          return (quad.left * 4 + value / 16) :: bytes
        | 2 => do
          let bytes ← decodeFrom ⟨3, value % 4, 0⟩ rest
          return (quad.left * 16 + value / 4) :: bytes
        | _ => do
          let bytes ← decodeFrom ⟨0, 0, 0⟩ rest
          return (quad.left * 64 + value) :: bytes

/-- `base64.urlsafe_b64decode`. -/
def urlsafeDecode (s : Text) : Except String (List ℕ) := do
  reject (¬s.all fun c => c.toNat < 128) "string argument should contain only ASCII characters"
  decodeFrom ⟨0, 0, 0⟩ s

/-- The decoding of a text whose padding was stripped. -/
def unpaddedDecode (s : Text) : Except String (List ℕ) :=
  urlsafeDecode (s ++ List.replicate ((4 - s.length % 4) % 4) '=')

end AgentRemote.Base64
