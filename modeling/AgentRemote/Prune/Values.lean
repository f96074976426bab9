import AgentRemote.Rendering

/-!
# Values of a prune plan

The values that a plan is made of, with the two comparisons that Python defines on them.
Sets and dictionaries are listed in their iteration order.
-/

namespace AgentRemote.Prune
open Rendering

/-- A value of the types that a plan may hold. A record is a dataclass or a model: its class
is known by its full name, and a dataclass may be declared with an order. -/
inductive PlanValue where
  | none
  | bool (value : Bool)
  | int (value : ℤ)
  | str (value : Text)
  | uuid (value : Fin (2 ^ 128))
  | datetime (value : Datetime)
  | tuple (items : List PlanValue)
  | list (items : List PlanValue)
  | set (frozen : Bool) (items : List PlanValue)
  | dict (members : List (PlanValue × PlanValue))
  | record (name : Text) (ordered : Bool) (fields : List (Text × PlanValue))

/-! ### Comparison of points in time -/

/-- `value == other`: a clock with a zone never equals one without. -/
def datetimeEquals (value other : Datetime) : Bool :=
  value.offset.isSome = other.offset.isSome ∧ value.instant = other.instant

/-- `value < other`. -/
def datetimeLess (value other : Datetime) : Except String Bool :=
  if value.offset.isSome = other.offset.isSome then .ok (value.instant < other.instant)
  else .error "can't compare offset-naive and offset-aware datetimes"

/-! ### Comparison of values -/

namespace PlanValue

/-- The number that a value is, where `True` is one and `False` is zero. -/
def number? : PlanValue → Option ℤ
  | .bool b => some (if b then 1 else 0)
  | .int n => some n
  | _ => Option.none

mutual

/-- `value == other`. -/
def equals : PlanValue → PlanValue → Bool
  | .none, .none => true
  | .str a, .str b => a = b
  | .uuid a, .uuid b => a = b
  | .datetime a, .datetime b => datetimeEquals a b
  | .tuple xs, .tuple ys => equalItems xs ys
  | .list xs, .list ys => equalItems xs ys
  | .set _ xs, .set _ ys => xs.length = ys.length && allAmong xs ys
  | .dict ms, .dict ns => ms.length = ns.length && membersAmong ms ns
  | .record a _ fs, .record b _ gs => a = b && equalFields fs gs
  | a, b => a.number?.isSome && a.number? = b.number?

def equalItems : List PlanValue → List PlanValue → Bool
  | [], [] => true
  | x :: xs, y :: ys => equals x y && equalItems xs ys
  | _, _ => false

/-- Every item is found in a set. -/
def allAmong : List PlanValue → List PlanValue → Bool
  | [], _ => true
  | x :: xs, ys => (ys.any fun y => equals x y) && allAmong xs ys

/-- Every member is found in a dictionary. -/
def membersAmong : List (PlanValue × PlanValue) → List (PlanValue × PlanValue) → Bool
  | [], _ => true
  | (key, value) :: ms, ns =>
    (ns.any fun n => equals key n.1 && equals value n.2) && membersAmong ms ns

def equalFields : List (Text × PlanValue) → List (Text × PlanValue) → Bool
  | [], [] => true
  | (name, value) :: fs, (other, value') :: gs =>
    name = other && equals value value' && equalFields fs gs
  | _, _ => false

end

mutual

/-- `value < other`, which most types do not define. -/
def lessThan : PlanValue → PlanValue → Except String Bool
  | .str a, .str b => .ok (a < b)
  | .uuid a, .uuid b => .ok (a < b)
  | .datetime a, .datetime b => datetimeLess a b
  | .tuple xs, .tuple ys => lessItems xs ys
  | .list xs, .list ys => lessItems xs ys
  | .set _ xs, .set _ ys => .ok (xs.length < ys.length && allAmong xs ys)
  | .record a true fs, .record b true gs =>
    if a = b then lessFields fs gs else .error "'<' not supported between instances"
  | a, b =>
    match a.number?, b.number? with
    | some m, some n => .ok (m < n)
    | _, _ => .error "'<' not supported between instances"

/-- The first items that differ decide. -/
def lessItems : List PlanValue → List PlanValue → Except String Bool
  | _, [] => .ok false
  | [], _ :: _ => .ok true
  | x :: xs, y :: ys => if equals x y then lessItems xs ys else lessThan x y

def lessFields : List (Text × PlanValue) → List (Text × PlanValue) → Except String Bool
  | _, [] => .ok false
  | [], _ :: _ => .ok true
  | (_, x) :: fs, (_, y) :: gs => if equals x y then lessFields fs gs else lessThan x y

end

/-! ### Equality up to the order of sets and dictionaries -/

/-- The two values are equal but for the tag of a set, the zone of a point in time and the
iteration order of sets and dictionaries. -/
inductive Same : PlanValue → PlanValue → Prop
  | none : Same .none .none
  | bool (b : Bool) : Same (.bool b) (.bool b)
  | int (n : ℤ) : Same (.int n) (.int n)
  | str (s : Text) : Same (.str s) (.str s)
  | uuid (u : Fin (2 ^ 128)) : Same (.uuid u) (.uuid u)
  | datetime {a b : Datetime} (h : a.instant = b.instant) : Same (.datetime a) (.datetime b)
  | tuple {xs ys : List PlanValue} (h : List.Forall₂ Same xs ys) : Same (.tuple xs) (.tuple ys)
  | list {xs ys : List PlanValue} (h : List.Forall₂ Same xs ys) : Same (.list xs) (.list ys)
  | set {f g : Bool} {xs ys zs : List PlanValue} (h : List.Forall₂ Same xs zs)
      (hperm : zs.Perm ys) : Same (.set f xs) (.set g ys)
  | dict {ms ns ks : List (PlanValue × PlanValue)}
      (hkeys : List.Forall₂ Same (ms.map Prod.fst) (ks.map Prod.fst))
      (hvalues : List.Forall₂ Same (ms.map Prod.snd) (ks.map Prod.snd)) (hperm : ks.Perm ns) :
      Same (.dict ms) (.dict ns)
  | record {name : Text} {o o' : Bool} {fs gs : List (Text × PlanValue)}
      (hnames : fs.map Prod.fst = gs.map Prod.fst)
      (hvalues : List.Forall₂ Same (fs.map Prod.snd) (gs.map Prod.snd)) :
      Same (.record name o fs) (.record name o' gs)

/-- No dictionary in the value has two keys that are equal in this sense. Python keeps such
keys apart only where a point in time with a zone stands beside one without. -/
inductive KeysApart : PlanValue → Prop
  | none : KeysApart .none
  | bool (b : Bool) : KeysApart (.bool b)
  | int (n : ℤ) : KeysApart (.int n)
  | str (s : Text) : KeysApart (.str s)
  | uuid (u : Fin (2 ^ 128)) : KeysApart (.uuid u)
  | datetime (d : Datetime) : KeysApart (.datetime d)
  | tuple {xs : List PlanValue} (h : ∀ x ∈ xs, KeysApart x) : KeysApart (.tuple xs)
  | list {xs : List PlanValue} (h : ∀ x ∈ xs, KeysApart x) : KeysApart (.list xs)
  | set {f : Bool} {xs : List PlanValue} (h : ∀ x ∈ xs, KeysApart x) : KeysApart (.set f xs)
  | dict {ms : List (PlanValue × PlanValue)} (hkey : ∀ m ∈ ms, KeysApart m.1)
      (hvalue : ∀ m ∈ ms, KeysApart m.2) (hapart : ms.Pairwise fun m n => ¬Same m.1 n.1) :
      KeysApart (.dict ms)
  | record {name : Text} {o : Bool} {fs : List (Text × PlanValue)}
      (h : ∀ f ∈ fs, KeysApart f.2) : KeysApart (.record name o fs)

end PlanValue

end AgentRemote.Prune
