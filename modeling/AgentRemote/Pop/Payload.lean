import AgentRemote.Rendering

/-!
# The signed payload of a request

What a device signs of the body of its request: the canonical JSON of the fields that were
set, in the order of their names. Two payloads have the same submitted fields when one's
are a rearrangement of the other's.
-/

namespace AgentRemote.Pop
open Library Rendering

/-- A value of a request body in the form that `model_dump(mode="json")` gives it: a UUID is
its text. A field of a model has a name and says whether it was set. -/
inductive PopValue where
  | null
  | bool (value : Bool)
  | int (value : ℤ)
  | string (value : Text)
  | list (items : List PopValue)
  | model (fields : List (Text × Bool × PopValue))

/-! ### Canonical JSON -/

/-- The letter that stands for a character behind a backslash. -/
def escapeLetter (c : Char) : Option Char :=
  if c = '"' then some '"'
  else if c = '\\' then some '\\'
  else if c = '\n' then some 'n'
  else if c = '\r' then some 'r'
  else if c = '\t' then some 't'
  else if c = '\x0c' then some 'f'
  else if c = '\x08' then some 'b'
  else none

/-- A character inside a JSON string, with `ensure_ascii=False`. -/
def escape (c : Char) : Text :=
  match escapeLetter c with
  | some letter => ['\\', letter]
  | none => if c.toNat < 0x20 then '\\' :: 'u' :: padded 16 4 c.toNat else [c]

def quoted (s : Text) : Text := '"' :: (s.flatMap escape ++ ['"'])

/-- `",".join` between brackets. -/
def bracketed (first last : Char) (parts : List Text) : Text :=
  first :: ([','].intercalate parts ++ [last])

/-- `"name":value`. -/
def memberText (member : Text × Text) : Text := quoted member.1 ++ ':' :: member.2

/-- An object with `sort_keys=True`. -/
def objectText (members : List (Text × Text)) : Text :=
  bracketed '{' '}' ((members.insertionSort fun a b => a.1 ≤ b.1).map memberText)

mutual

/-- `json.dumps(model_dump(mode="json", exclude_unset=True))` with compact separators. -/
def PopValue.text : PopValue → Except String Text
  | .null => .ok "null".toList
  | .bool true => .ok "true".toList
  | .bool false => .ok "false".toList
  | .int n => intText n
  | .string s => .ok (quoted s)
  | .list items => do
    let parts ← itemTexts items
    return bracketed '[' ']' parts
  | .model fields => do
    let members ← fieldTexts fields
    return objectText members

def itemTexts : List PopValue → Except String (List Text)
  | [] => .ok []
  | item :: items => do
    let part ← item.text
    let parts ← itemTexts items
    return part :: parts

/-- The members of the fields that were set. -/
def fieldTexts : List (Text × Bool × PopValue) → Except String (List (Text × Text))
  | [] => .ok []
  | (name, set, value) :: fields =>
    if set then do
      let text ← value.text
      let members ← fieldTexts fields
      return (name, text) :: members
    else fieldTexts fields

end

/-- The fields that hold the signature itself. -/
def excludedFields : List Text := ["proof_challenge".toList, "proof_signature".toList]

/-- `_canonical_pop_payload` of a model with the fields. -/
def canonicalPopPayload (payload : List (Text × Bool × PopValue)) : Except String (List ℕ) := do
  let members ← fieldTexts (payload.filter fun field => field.1 ∉ excludedFields)
  return (objectText members).encode

/-! ### The same submitted fields -/

/-- The fields that were set, with their values. -/
def submitted (fields : List (Text × Bool × PopValue)) : List (Text × PopValue) :=
  fields.filterMap fun field => if field.2.1 then some (field.1, field.2.2) else none

/-- Equality of values where a model is known by the fields that were set. -/
inductive PopValue.Same : PopValue → PopValue → Prop
  | null : Same .null .null
  | bool (b : Bool) : Same (.bool b) (.bool b)
  | int (n : ℤ) : Same (.int n) (.int n)
  | string (s : Text) : Same (.string s) (.string s)
  | list {xs ys : List PopValue} (h : List.Forall₂ Same xs ys) : Same (.list xs) (.list ys)
  | model {fs gs : List (Text × Bool × PopValue)} {ks : List (Text × PopValue)}
      (hnames : (submitted fs).map Prod.fst = ks.map Prod.fst)
      (hvalues : List.Forall₂ Same ((submitted fs).map Prod.snd) (ks.map Prod.snd))
      (hperm : ks.Perm (submitted gs)) : Same (.model fs) (.model gs)

/-- Two payloads have the same submitted fields, the signature's own left out. -/
def SamePayload (payload other : List (Text × Bool × PopValue)) : Prop :=
  (PopValue.model (payload.filter fun field => field.1 ∉ excludedFields)).Same
    (.model (other.filter fun field => field.1 ∉ excludedFields))

end AgentRemote.Pop
