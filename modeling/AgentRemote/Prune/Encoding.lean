import AgentRemote.Library.Outcome
import AgentRemote.Library.Sorting
import AgentRemote.Prune.Values

/-!
# The digest of a prune plan

The encoding that the digest is taken over. Every value starts with a tag, a scalar stands
behind its length and a container behind its count. Sets are sorted by the codes of their
items and dictionaries by the codes of their keys.
-/

namespace AgentRemote.Prune
open Library Rendering

/-- `str(n).encode("ascii")` for a natural number. -/
def decimal (n : ℕ) : List ℕ := Text.encode (Nat.repr n).toList

/-- `_scalar`. -/
def scalar (tag : Char) (value : List ℕ) : List ℕ :=
  tag.toNat :: lengthPrefixed decimal ':'.toNat value

/-- A member of a dictionary with the code of its key and of its value. -/
structure CodedMember where
  keyCode : List ℕ
  key : PlanValue
  valueCode : List ℕ

/-- The code of a member: its key's code and its value's. -/
def CodedMember.code (member : CodedMember) : List ℕ := member.keyCode ++ member.valueCode

/-- The order of `sorted` on pairs of a code and a key. -/
def memberLess (a b : CodedMember) : Except String Bool :=
  if a.keyCode = b.keyCode then
    if a.key.equals b.key then .ok false else a.key.lessThan b.key
  else .ok (a.keyCode < b.keyCode)

mutual

/-- `_encode`. -/
def encode : PlanValue → Except String (List ℕ)
  | .none => .ok ['n'.toNat]
  | .bool true => .ok ['t'.toNat]
  | .bool false => .ok ['f'.toNat]
  | .int n => do
    let text ← intText n
    return scalar 'i' text.encode
  | .str s => .ok (scalar 's' s.encode)
  | .uuid u => .ok (scalar 'u' (uuidText u).encode)
  | .datetime d => do
    let clock ← d.utc
    return scalar 'd' (isoformat clock).encode
  | .tuple items => do
    let codes ← encodeItems items
    return scalar 'q' (decimal items.length) ++ codes.flatten
  | .list items => do
    let codes ← encodeItems items
    return scalar 'l' (decimal items.length) ++ codes.flatten
  | .set _ items => do
    let codes ← encodeItems items
    return scalar 'e' (decimal items.length) ++ (codes.insertionSort (· ≤ ·)).flatten
  | .dict members => do
    let coded ← encodeMembers members
    let ordered ← stableSort memberLess coded
    return scalar 'm' (decimal members.length) ++ (ordered.map CodedMember.code).flatten
  | .record name _ fields => do
    let codes ← encodeFields fields
    return scalar 'c' name.encode ++ scalar 'i' (decimal fields.length) ++ codes.flatten

def encodeItems : List PlanValue → Except String (List (List ℕ))
  | [] => .ok []
  | item :: items => do
    let code ← encode item
    let codes ← encodeItems items
    return code :: codes

def encodeMembers : List (PlanValue × PlanValue) → Except String (List CodedMember)
  | [] => .ok []
  | (key, value) :: members => do
    let keyCode ← encode key
    let valueCode ← encode value
    let coded ← encodeMembers members
    return ⟨keyCode, key, valueCode⟩ :: coded

def encodeFields : List (Text × PlanValue) → Except String (List (List ℕ))
  | [] => .ok []
  | (name, value) :: fields => do
    let code ← encode value
    let codes ← encodeFields fields
    return (scalar 's' name.encode ++ code) :: codes

end

/-- The protocol that a digest belongs to. -/
def digestDomain : List ℕ := Text.encode "agent-remote:prune-plan:v1\x00".toList

/-- `digest`. -/
def digest [Sha256] (value : PlanValue) : Except String Text := do
  let code ← encode value
  return Sha256.hexdigest (digestDomain ++ code)

/-! ### Scalars -/

lemma decimal_injective : Function.Injective decimal :=
  fun _ _ h => repr_injective (Text.encode_injective h)

lemma colon_not_mem_decimal (n : ℕ) : ':'.toNat ∉ decimal n :=
  fun h => not_mem_repr (by decide) (mem_of_mem_encode (by decide) h)

/-- A scalar is read off the front of a text. -/
lemma scalar_append_inj {tag : Char} {p q s t : List ℕ}
    (h : scalar tag p ++ s = scalar tag q ++ t) : p = q ∧ s = t :=
  lengthPrefixed_append_inj colon_not_mem_decimal decimal_injective (List.cons.inj h).2

lemma lt_of_utc {value : Datetime} {clock : ℕ} (h : value.utc = .ok clock) : clock < maxClock := by
  unfold Datetime.utc at h
  split_ifs at h with hrange
  have hclock := Except.ok.inj h
  omega

lemma instant_of_utc {value : Datetime} {clock : ℕ} (h : value.utc = .ok clock) :
    value.instant = clock := by
  unfold Datetime.utc at h
  split_ifs at h with hrange
  have hclock := Except.ok.inj h
  omega

/-! ### Containers -/

/-- Members are sorted by the codes of their keys. -/
lemma memberLess_follows : Follows memberLess CodedMember.keyCode := by
  intro a b
  unfold memberLess
  by_cases hcode : a.keyCode = b.keyCode
  · exact ⟨fun _ => hcode.le, fun _ => hcode.ge⟩
  · rw [if_neg hcode]
    constructor
    · intro h
      have hlt : a.keyCode < b.keyCode := by simpa using h
      exact hlt.le
    · intro h
      have hnot : ¬a.keyCode < b.keyCode := by simpa using h
      exact not_lt.mp hnot

lemma encodeItems_eq_ok {items : List PlanValue} {codes : List (List ℕ)} :
    encodeItems items = .ok codes ↔
      List.Forall₂ (fun item code => encode item = .ok code) items codes := by
  induction items generalizing codes with
  | nil =>
    simp [encodeItems, eq_comm]
  | cons item items ih =>
    simp only [encodeItems, bind_eq_ok, pure_eq_ok, Except.ok.injEq, List.forall₂_cons_left_iff]
    constructor
    · rintro ⟨code, hcode, codes', hcodes, rfl⟩
      exact ⟨code, codes', hcode, ih.mp hcodes, rfl⟩
    · rintro ⟨code, codes', hcode, hcodes, rfl⟩
      exact ⟨code, hcode, codes', ih.mpr hcodes, rfl⟩

/-- A coded member belongs to a member of the dictionary. -/
structure Codes (member : PlanValue × PlanValue) (coded : CodedMember) : Prop where
  key : coded.key = member.1
  keyCode : encode member.1 = .ok coded.keyCode
  valueCode : encode member.2 = .ok coded.valueCode

lemma encodeMembers_eq_ok {members : List (PlanValue × PlanValue)} {coded : List CodedMember} :
    encodeMembers members = .ok coded ↔ List.Forall₂ Codes members coded := by
  induction members generalizing coded with
  | nil =>
    simp [encodeMembers, eq_comm]
  | cons member members ih =>
    obtain ⟨key, value⟩ := member
    simp only [encodeMembers, bind_eq_ok, pure_eq_ok, Except.ok.injEq, List.forall₂_cons_left_iff]
    constructor
    · rintro ⟨keyCode, hkey, valueCode, hvalue, rest, hrest, rfl⟩
      exact ⟨_, rest, ⟨rfl, hkey, hvalue⟩, ih.mp hrest, rfl⟩
    · rintro ⟨⟨keyCode, key', valueCode⟩, rest, ⟨rfl, hkey, hvalue⟩, hrest, rfl⟩
      exact ⟨keyCode, hkey, valueCode, hvalue, rest, ih.mpr hrest, rfl⟩

lemma encodeFields_eq_ok {fields : List (Text × PlanValue)} {codes : List (List ℕ)} :
    encodeFields fields = .ok codes ↔
      List.Forall₂ (fun field code => ∃ rest, encode field.2 = .ok rest ∧
        code = scalar 's' field.1.encode ++ rest) fields codes := by
  induction fields generalizing codes with
  | nil =>
    simp [encodeFields, eq_comm]
  | cons field fields ih =>
    obtain ⟨name, value⟩ := field
    simp only [encodeFields, bind_eq_ok, pure_eq_ok, Except.ok.injEq, List.forall₂_cons_left_iff]
    constructor
    · rintro ⟨code, hcode, codes', hcodes, rfl⟩
      exact ⟨_, codes', ⟨code, hcode, rfl⟩, ih.mp hcodes, rfl⟩
    · rintro ⟨_, codes', ⟨code, hcode, rfl⟩, hcodes, rfl⟩
      exact ⟨code, hcode, codes', ih.mpr hcodes, rfl⟩

end AgentRemote.Prune
