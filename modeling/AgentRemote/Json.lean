import AgentRemote.Text

/-!
# Values of a JSON document

What the services read out of a JSON column: members of an object and the types that
`isinstance` tells apart. A Python `bool` is no `int` here; where the source accepts one as
the other the reader says so.
-/

namespace AgentRemote

/-- A decoded JSON value. A number with a fraction keeps its text. -/
inductive JsonValue where
  | null
  | bool (value : Bool)
  | int (value : ℤ)
  | float (text : Text)
  | string (value : Text)
  | array (items : List JsonValue)
  | object (members : List (Text × JsonValue))

/-- A JSON object, such as a column that holds one. -/
abbrev JsonObject := List (Text × JsonValue)

namespace JsonValue

def bool? : JsonValue → Option Bool
  | .bool b => some b
  | _ => none

def int? : JsonValue → Option ℤ
  | .int n => some n
  | _ => none

def text? : JsonValue → Option Text
  | .string s => some s
  | _ => none

def array? : JsonValue → Option (List JsonValue)
  | .array items => some items
  | _ => none

def object? : JsonValue → Option JsonObject
  | .object members => some members
  | _ => none

end JsonValue

namespace JsonObject

/-- `dict.get`. A decoded object has each member once. -/
def get (o : JsonObject) (key : Text) : Option JsonValue :=
  (o.find? (·.1 = key)).map Prod.snd

/-- `set(dict)`: the names of the members. -/
def names (o : JsonObject) : Finset Text := (o.map Prod.fst).toFinset

def bool? (o : JsonObject) (key : Text) : Option Bool := (o.get key).bind JsonValue.bool?

def int? (o : JsonObject) (key : Text) : Option ℤ := (o.get key).bind JsonValue.int?

def text? (o : JsonObject) (key : Text) : Option Text := (o.get key).bind JsonValue.text?

end JsonObject

/-- `1 in value` for a decoded array: `True` and `1.0` are equal to one. -/
def holdsOne (value : Option JsonValue) : Bool :=
  ((value.bind JsonValue.array?).getD []).any fun
    | .int n => n = 1
    | .bool b => b
    | .float text => text = "1.0".toList
    | _ => false

/-- `text in value` for a decoded array. -/
def holdsText (value : Option JsonValue) (text : Text) : Bool :=
  ((value.bind JsonValue.array?).getD []).any fun item => item.text? = some text

end AgentRemote
