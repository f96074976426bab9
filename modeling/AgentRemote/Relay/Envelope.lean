import AgentRemote.Base64.Canonical
import AgentRemote.Library.Scanning

/-!
# The outer envelope of a relay frame

`parse_outer_envelope`: the frame is a JSON object of fourteen fields, whose binary fields are
canonical base64. The checks run one after the other over values of any JSON type, so a value that
is no member of any set ends the check of its type with a `TypeError`.
-/

namespace AgentRemote.Relay.Envelope
open Library Library.Loads

/-- `_reject_duplicate_pairs`. -/
def rejectDuplicatePairs (pairs : List (PyStr × PyJson)) : Except PyError PyJson := do
  let result ← pairs.foldlM (fun (result : List (PyStr × PyJson)) (pair : PyStr × PyJson) => do
    reject (pair.1 ∈ result.map Prod.fst) (.valueError (str "duplicate JSON key: " ++ pair.1))
    pure (result ++ [pair])) []
  pure (.object result)

def protocol : PyStr := str "ego-browser-bridge-v1"

def relayChannel : PyStr := str "ego_browser_bridge"

def relayKind : PyStr := str "ego_browser"

/-- The fields of an envelope. -/
def expected : List PyStr :=
  ["protocol", "channel", "relay_binding_kind", "type", "request_id", "binding_id", "generation",
    "sequence", "direction", "payload_bytes", "nonce", "ciphertext", "auth_tag", "key_wrap"].map str

/-- The members of a decoded object. -/
abbrev Members := List (PyStr × PyJson)

/-- `value[name]`, where the name is there. -/
def get (value : Members) (name : String) : PyJson :=
  ((value.find? fun pair => pair.1 = str name).map Prod.snd).getD .null

/-- `item != text`. -/
def differs (item : PyJson) (text : PyStr) : Bool :=
  match item with
  | .string s => s ≠ text
  | _ => true

/-- `item in {names}`: only a hashable item is looked up. -/
def isMember (item : PyJson) (names : List String) : Except PyError Bool :=
  match item with
  | .array _ | .object _ => throw .typeError
  | .string s => pure (s ∈ names.map str)
  | _ => pure false

/-- `if item not in {names}: raise`. -/
def requireMember (item : PyJson) (names : List String) (reason : String) :
    Except PyError Unit := do
  let known ← isMember item names
  reject (known = false) (valueError reason)

/-- A field that names something. -/
def requireName (value : Members) (name : String) : Except PyError Unit :=
  match get value name with
  | .string s => reject (s = [] ∨ 128 < s.length) (valueError name)
  | _ => throw (valueError name)

/-- A field that counts something; a boolean is no count. -/
def requireCount (value : Members) (name : String) : Except PyError ℤ :=
  match get value name with
  | .int n => do
    reject (n < 1) (valueError name)
    pure n
  | _ => throw (valueError name)

/-- `base64.urlsafe_b64decode` of a text with its pads restored. -/
def urlsafeB64decode (s : PyStr) : Option (List ℕ) :=
  if s.all (· < 128) then (Base64.unpaddedDecode (s.map Char.ofNat)).toOption else none

/-- `base64.urlsafe_b64encode(decoded).decode().rstrip("=")`. -/
def urlsafeB64encode (bytes : List ℕ) : PyStr := (Base64.unpaddedEncode bytes).map Char.toNat

/-- A text and the bytes it decodes to. -/
def decodeField (value : Members) (name : String) : Except PyError (PyStr × List ℕ) :=
  match get value name with
  | .string s =>
    match urlsafeB64decode s with
    | some bytes => pure (s, bytes)
    | none => throw (valueError name)
  | _ => throw (valueError name)

def alphabet : PyStr := str "ABCDEFGHIJKLMNOPQRSTUVWXYZabcdefghijklmnopqrstuvwxyz0123456789-_"

/-- `_is_canonical_b64url`. -/
def isCanonicalB64url (value : PyStr) : Bool :=
  value ≠ [] ∧ (∀ c ∈ value, c ∈ alphabet) ∧
    ∃ decoded ∈ urlsafeB64decode value, urlsafeB64encode decoded = value

/-! ### The size on the wire -/

/-- A character inside a JSON string of `ensure_ascii=False`. -/
def escapedPoint (c : ℕ) : PyStr :=
  if c = 34 ∨ c = 92 then [92, c]
  else if c = 10 then str "\\n"
  else if c = 13 then str "\\r"
  else if c = 9 then str "\\t"
  else if c = 12 then str "\\f"
  else if c = 8 then str "\\b"
  else if c < 32 then str "\\u00" ++ str (if c < 16 then "0" else "1") ++
    [if c % 16 < 10 then 48 + c % 16 else 87 + c % 16]
  else [c]

def stringText (s : PyStr) : PyStr := 34 :: s.flatMap escapedPoint ++ [34]

/-- `json.dumps` of a member. Those of a checked envelope are texts and integers. -/
def memberText : PyJson → PyStr
  | .string s => stringText s
  | .int n => str (toString n)
  | _ => []

/-- `json.dumps(value, separators=(",", ":"), ensure_ascii=False)`. -/
def compactText (value : Members) : PyStr :=
  123 :: [44].intercalate (value.map fun pair => stringText pair.1 ++ 58 :: memberText pair.2) ++
    [125]

/-- The encoded length, where the text can be encoded. -/
def wireSize (value : Members) : Option ℕ := Codecs.utf8Size (compactText value)

/-! ### The checks -/

/-- The fields that say what the envelope is, and its type and direction. -/
def checkHeader (value : Members) : Except PyError Unit := do
  reject ((value.map Prod.fst).toFinset ≠ expected.toFinset) (valueError "outer_fields")
  reject (differs (get value "protocol") protocol = true) (valueError "outer_protocol")
  reject (differs (get value "channel") relayChannel = true) (valueError "outer_channel")
  reject (differs (get value "relay_binding_kind") relayKind = true)
    (valueError "outer_relay_kind")
  requireMember (get value "type") ["execute", "execute_result", "cancel"] "outer_type"
  requireMember (get value "direction") ["request", "response"] "outer_direction"

/-- `value[name] == text`. -/
def isText (value : Members) (name text : String) : Bool :=
  differs (get value name) (str text) = false

/-- The type goes with the direction. -/
def checkDirection (value : Members) : Except PyError Unit :=
  reject ((isText value "direction" "request" = true ∧
      ¬(isText value "type" "execute" = true ∨ isText value "type" "cancel" = true)) ∨
    (isText value "direction" "response" = true ∧
      ¬isText value "type" "execute_result" = true)) (valueError "outer_type_direction")

/-- A text that decodes to a number of bytes. -/
def requireDecoded (s : PyStr) (n : ℕ) (reason : String) : Except PyError Unit :=
  match urlsafeB64decode s with
  | some bytes => reject (bytes.length ≠ n) (valueError reason)
  | none => throw (valueError reason)

/-- The key is wrapped for an execution and for nothing else. -/
def checkKeyWrap (value : Members) : Except PyError Unit :=
  match get value "key_wrap" with
  | .string keyWrap =>
    if isText value "direction" "request" = true ∧ isText value "type" "execute" = true then do
      reject (keyWrap = [] ∨ isCanonicalB64url keyWrap = false) (valueError "key_wrap")
      requireDecoded keyWrap 92 "key_wrap"
    else if (isText value "direction" "request" = true ∧ isText value "type" "cancel" = true) ∨
        isText value "direction" "response" = true then
      reject (keyWrap ≠ []) (valueError "key_wrap")
    else throw (valueError "outer_direction")
  | _ => throw (valueError "key_wrap")

/-- The envelope is encoded again, which no lone surrogate survives. -/
def checkWireSize (maximumBytes : ℤ) (value : Members) : Except PyError Unit :=
  match wireSize value with
  | some size => reject (maximumBytes < size) (valueError "frame_limit")
  | none => throw (valueError "surrogates not allowed")

/-- The decoded document; only value errors of the decoder become errors of the envelope. -/
def decodeOuter (depth : ℕ) (raw : List ℕ) : Except PyError PyJson :=
  match loads rejectDuplicatePairs depth raw with
  | .ok decoded => pure decoded
  | .error (.valueError _) => throw (valueError "invalid_outer_json")
  | .error e => throw e

/-- The checks of a decoded object. -/
def checkEnvelope (maximumBytes : ℤ) (value : Members) : Except PyError Members := do
  checkHeader value
  checkDirection value
  requireName value "request_id"
  requireName value "binding_id"
  let _ ← requireCount value "generation"
  let _ ← requireCount value "sequence"
  let payloadBytes ← requireCount value "payload_bytes"
  let (nonce, decodedNonce) ← decodeField value "nonce"
  reject (decodedNonce.length ≠ 12) (valueError "nonce")
  let (tag, decodedTag) ← decodeField value "auth_tag"
  reject (decodedTag.length ≠ 16) (valueError "auth_tag")
  let (ciphertext, ciphertextBytes) ← decodeField value "ciphertext"
  reject ((ciphertextBytes.length : ℤ) ≠ payloadBytes) (valueError "payload_bytes")
  reject (urlsafeB64encode decodedNonce ≠ nonce) (valueError "nonce_encoding")
  reject (urlsafeB64encode decodedTag ≠ tag) (valueError "auth_tag_encoding")
  reject (urlsafeB64encode ciphertextBytes ≠ ciphertext) (valueError "ciphertext_encoding")
  checkKeyWrap value
  checkWireSize maximumBytes value
  pure value

/-- `parse_outer_envelope`, with stack for `depth` nested containers. -/
def parseOuterEnvelope (depth : ℕ) (maximumBytes : ℤ) (raw : List ℕ) : Except PyError Members := do
  reject (maximumBytes < raw.length) (valueError "frame_limit")
  match ← decodeOuter depth raw with
  | .object value => checkEnvelope maximumBytes value
  | _ => throw (valueError "outer_object_required")

end AgentRemote.Relay.Envelope
