import AgentRemote.Library.Codecs
import AgentRemote.Library.Outcome

/-!
# `json.loads`

The scanner of Python's `json` over code points, with the hook that gets the pairs of each
object. `depth` is how many nested containers the interpreter has stack left for.
-/

namespace AgentRemote.Library.Loads
open Codecs

/-- A `str`: its code points, lone surrogates included. -/
abbrev PyStr := List ℕ

/-- The code points of a literal. -/
def str (s : String) : PyStr := s.toList.map Char.toNat

lemma str_inj {s t : String} : str s = str t ↔ s = t := by
  constructor
  · intro h
    exact String.toList_inj.mp (List.map_injective_iff.mpr (fun _ _ => Char.toNat_inj.mp) h)
  · exact congrArg str

/-- The classes of exceptions that a reader tells apart. `UnicodeError`, `JSONDecodeError` and
`binascii.Error` are value errors. -/
inductive PyError where
  | valueError (reason : PyStr)
  | typeError
  | recursionError
  deriving DecidableEq

def PyError.isValueError : PyError → Bool
  | .valueError _ => true
  | _ => false

def valueError (reason : String) : PyError := .valueError (str reason)

/-- A decoded document. The pairs of an object keep their order; a float is its text. -/
inductive PyJson where
  | null
  | bool (value : Bool)
  | int (value : ℤ)
  | float (text : PyStr)
  | string (value : PyStr)
  | array (items : List PyJson)
  | object (pairs : List (PyStr × PyJson))

/-- A scanner returns the value at the front of a text and what follows it. -/
abbrev Scanner := PyStr → Except PyError (PyJson × PyStr)

/-! ### Strings -/

/-- Where a string literal is read: in its text, behind a backslash or in the digits of a `\u`
escape. `high` is an escaped high surrogate that may still join the next escape. -/
inductive StringState where
  | text (high : List ℕ)
  | backslash (high : List ℕ)
  | hex (high : List ℕ) (left value : ℕ)

def hexDigit? (c : ℕ) : Option ℕ :=
  if 48 ≤ c ∧ c ≤ 57 then some (c - 48)
  else if 65 ≤ c ∧ c ≤ 70 then some (c - 55)
  else if 97 ≤ c ∧ c ≤ 102 then some (c - 87)
  else none

/-- The character that a letter behind a backslash stands for. -/
def escaped? (c : ℕ) : Option ℕ :=
  if c = 34 ∨ c = 92 ∨ c = 47 then some c
  else if c = 98 then some 8
  else if c = 102 then some 12
  else if c = 110 then some 10
  else if c = 114 then some 13
  else if c = 116 then some 9
  else none

/-- Puts characters in front of the value that was read. -/
def emit (points : PyStr) (read : Except PyError (PyStr × PyStr)) :
    Except PyError (PyStr × PyStr) := do
  let (value, rest) ← read
  pure (points ++ value, rest)

/-- What an escaped unit adds to the value, and the high surrogate that is left for the next. -/
def joinEscaped (high : List ℕ) (unit : ℕ) : List ℕ × List ℕ :=
  match high with
  | h :: _ =>
    if isLowSurrogate unit = true then ([joinSurrogates h unit], [])
    else if isHighSurrogate unit = true then ([h], [unit])
    else ([h, unit], [])
  | [] => if isHighSurrogate unit = true then ([], [unit]) else ([unit], [])

/-- The rest of a string literal behind its opening quote. -/
def scanString : StringState → PyStr → Except PyError (PyStr × PyStr)
  | _, [] => throw (valueError "Unterminated string")
  | .text high, c :: rest =>
    if c = 34 then pure (high, rest)
    else if c = 92 then scanString (.backslash high) rest
    else if c < 32 then throw (valueError "Invalid control character")
    else emit (high ++ [c]) (scanString (.text []) rest)
  | .backslash high, c :: rest =>
    if c = 117 then scanString (.hex high 4 0) rest
    else match escaped? c with
    | none => throw (valueError "Invalid escape")
    | some c => emit (high ++ [c]) (scanString (.text []) rest)
  | .hex high left value, c :: rest =>
    match hexDigit? c with
    | none => throw (valueError "Invalid unicode escape")
    | some digit =>
      if 1 < left then scanString (.hex high (left - 1) (value * 16 + digit)) rest
      else
        let (points, high) := joinEscaped high (value * 16 + digit)
        emit points (scanString (.text high) rest)

/-! ### Numbers -/

def isDigit (c : ℕ) : Bool := 48 ≤ c ∧ c ≤ 57

/-- The digits at the front of a text and what follows them. -/
def digits (s : PyStr) : PyStr × PyStr := (s.takeWhile isDigit, s.dropWhile isDigit)

/-- `int` refuses a longer text. -/
def maximumIntDigits : ℕ := 4300

def natValue (ds : PyStr) : ℕ := ds.foldl (fun n d => n * 10 + (d - 48)) 0

/-- The fraction at the front of a text, empty when there is none. -/
def fraction (s : PyStr) : PyStr × PyStr :=
  match s with
  | 46 :: d :: rest =>
    if isDigit d = true then (46 :: d :: (digits rest).1, (digits rest).2) else ([], s)
  | _ => ([], s)

/-- The exponent at the front of a text, empty when there is none. -/
def exponent (s : PyStr) : PyStr × PyStr :=
  match s with
  | e :: rest =>
    if e = 101 ∨ e = 69 then
      let (sign, rest) := match rest with
        | c :: rest' => if c = 43 ∨ c = 45 then ([c], rest') else ([], rest)
        | [] => ([], rest)
      if (digits rest).1 = [] then ([], s) else (e :: sign ++ (digits rest).1, (digits rest).2)
    else ([], s)
  | [] => ([], s)

/-- The digits before a fraction: a zero alone or digits that start with no zero. -/
def whole (s : PyStr) : PyStr × PyStr :=
  match s with
  | c :: rest =>
    if c = 48 then ([c], rest) else if isDigit c = true then digits s else ([], s)
  | [] => ([], s)

/-- A number behind its sign. -/
def scanUnsigned (negative : Bool) (s : PyStr) : Except PyError (PyJson × PyStr) :=
  let (ds, afterDigits) := whole s
  let (part, afterPart) := fraction afterDigits
  let (power, afterPower) := exponent afterPart
  let text := ds ++ part ++ power
  if ds = [] then throw (valueError "Expecting value")
  else if part = [] ∧ power = [] then
    if maximumIntDigits < ds.length then
      throw (valueError "Exceeds the limit for integer string conversion")
    else
      let n : ℤ := natValue ds
      pure (.int (if negative = true then -n else n), afterDigits)
  else pure (.float (if negative = true then 45 :: text else text), afterPower)

/-- What follows a word at the front of a text. -/
def word? (w : String) (s : PyStr) : Option PyStr :=
  if s.take w.length = str w then some (s.drop w.length) else none

/-- The names of constants. -/
def constants : List (String × PyJson) :=
  [("null", .null), ("true", .bool true), ("false", .bool false), ("NaN", .float (str "NaN")),
    ("Infinity", .float (str "Infinity")), ("-Infinity", .float (str "-Infinity"))]

/-- The constant at the front of a text. -/
def constant? (s : PyStr) : Option (PyJson × PyStr) :=
  constants.findSome? fun (w, v) => (word? w s).map fun rest => (v, rest)

/-- A constant or a number. -/
def scanAtom (s : PyStr) : Except PyError (PyJson × PyStr) :=
  match constant? s, s with
  | some found, _ => pure found
  | none, 45 :: rest => scanUnsigned true rest
  | none, s => scanUnsigned false s

/-! ### Containers -/

def isSpace (c : ℕ) : Bool := c = 32 ∨ c = 9 ∨ c = 10 ∨ c = 13

def skipSpace (s : PyStr) : PyStr := s.dropWhile isSpace

/-- What follows a mark that stands behind spaces. -/
def behind? (mark : ℕ) (s : PyStr) : Option PyStr :=
  match skipSpace s with
  | c :: rest => if c = mark then some rest else none
  | [] => none

/-- The items of an array, the first of which is there. `fuel` bounds how many. -/
def arrayItems (scan : Scanner) : ℕ → PyStr → Except PyError (List PyJson × PyStr)
  | 0, _ => throw (valueError "Expecting value")
  | fuel + 1, s => do
    let (item, rest) ← scan s
    match behind? 93 rest, behind? 44 rest with
    | some rest, _ => pure ([item], rest)
    | none, some rest => do
      let (items, rest) ← arrayItems scan fuel (skipSpace rest)
      pure (item :: items, rest)
    | none, none => throw (valueError "Expecting ',' delimiter")

/-- A key with its colon, and the place of its value. -/
def scanKey (s : PyStr) : Except PyError (PyStr × PyStr) :=
  match s with
  | 34 :: rest => do
    let (key, rest) ← scanString (.text []) rest
    match behind? 58 rest with
    | some rest => pure (key, skipSpace rest)
    | none => throw (valueError "Expecting ':' delimiter")
  | _ => throw (valueError "Expecting property name enclosed in double quotes")

/-- The pairs of an object, the first of which is there. `fuel` bounds how many. -/
def objectPairs (scan : Scanner) : ℕ → PyStr → Except PyError (List (PyStr × PyJson) × PyStr)
  | 0, _ => throw (valueError "Expecting property name enclosed in double quotes")
  | fuel + 1, s => do
    let (key, rest) ← scanKey s
    let (value, rest) ← scan rest
    match behind? 125 rest, behind? 44 rest with
    | some rest, _ => pure ([(key, value)], rest)
    | none, some rest => do
      let (pairs, rest) ← objectPairs scan fuel (skipSpace rest)
      pure ((key, value) :: pairs, rest)
    | none, none => throw (valueError "Expecting ',' delimiter")

/-- What an object is decoded to. -/
abbrev PairsHook := List (PyStr × PyJson) → Except PyError PyJson

/-- An array behind its bracket. -/
def scanArray (scan : Scanner) (s : PyStr) : Except PyError (PyJson × PyStr) :=
  match behind? 93 s with
  | some rest => pure (.array [], rest)
  | none => do
    let (items, rest) ← arrayItems scan s.length (skipSpace s)
    pure (.array items, rest)

/-- An object behind its brace. -/
def scanObject (hook : PairsHook) (scan : Scanner) (s : PyStr) : Except PyError (PyJson × PyStr) :=
  match behind? 125 s with
  | some rest => do
    let value ← hook []
    pure (value, rest)
  | none => do
    let (pairs, rest) ← objectPairs scan s.length (skipSpace s)
    let value ← hook pairs
    pure (value, rest)

/-- `scan_once`, with the scanner of what is inside a container: there is none when the stack is
full. -/
def scanWith (hook : PairsHook) (inner : Option Scanner) (s : PyStr) :
    Except PyError (PyJson × PyStr) :=
  match s with
  | [] => throw (valueError "Expecting value")
  | 34 :: rest => do
    let (value, rest) ← scanString (.text []) rest
    pure (.string value, rest)
  | 91 :: rest =>
    match inner with
    | some scan => scanArray scan rest
    | none => throw .recursionError
  | 123 :: rest =>
    match inner with
    | some scan => scanObject hook scan rest
    | none => throw .recursionError
  | _ => scanAtom s

/-- `scan_once` with stack for `depth` nested containers. -/
def scanOnce (hook : PairsHook) : ℕ → Scanner
  | 0 => scanWith hook none
  | depth + 1 => scanWith hook (some (scanOnce hook depth))

/-- `json.loads(raw, object_pairs_hook=hook)` of bytes. -/
def loads (hook : PairsHook) (depth : ℕ) (raw : List ℕ) :
    Except PyError PyJson :=
  match decode raw with
  | none => throw (valueError "UnicodeDecodeError")
  | some text => do
    let (value, rest) ← scanOnce hook depth (skipSpace text)
    reject (skipSpace rest ≠ []) (valueError "Extra data")
    pure value

end AgentRemote.Library.Loads
