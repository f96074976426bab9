import AgentRemote.Base64.Canonical

/-!
# Signed tokens

`PruneTokens` and `NodeExportTokens` write a record as JSON, encode it in base64 and append an
HMAC over their domain and the encoded record. A token is opened only when its signature fits,
so whoever cannot sign opens nothing that the server did not sign under the same domain.
-/

namespace AgentRemote.Signed
open Library

/-- `hmac.new(key, message, hashlib.sha256).hexdigest()`. -/
class HmacSha256 where
  hexdigest (key message : List ℕ) : Text
  isHex : ∀ key message, ∀ c ∈ hexdigest key message, c.isDigit ∨ 'a' ≤ c ∧ c ≤ 'f'

/-! ### Strict base64 -/

/-- `base64.b64decode(s, altchars=b"-_", validate=True)`. -/
def b64decode (s : Text) : Option (List ℕ) :=
  let letters := s.rdropWhile (· = '=')
  if (letters.all fun c => (Base64.sextet c).isSome) ∧ s.length % 4 = 0 ∧
    s.length ≤ letters.length + 2
  then (Base64.decodeFrom ⟨0, 0, 0⟩ s).toOption
  else none

/-- An encoding ends with two pads at most. -/
lemma exists_letters_pads {bytes : List ℕ} (h : ∀ b ∈ bytes, b < 256) :
    ∃ letters pads, Base64.urlsafeEncode bytes = letters ++ List.replicate pads '=' ∧ pads ≤ 2 ∧
      ∀ c ∈ letters, ∃ value < 64, c = Base64.letter value := by
  induction bytes using Base64.urlsafeEncode.induct with
  | case1 => exact ⟨[], 0, rfl, by omega, by simp⟩
  | case2 a =>
    have ha : a < 256 := h a (by simp)
    refine ⟨[Base64.letter (a / 4), Base64.letter (a % 4 * 16)], 2, rfl, le_rfl, ?_⟩
    simp only [List.forall_mem_cons, List.not_mem_nil, false_implies,
      implies_true, and_true]
    exact ⟨⟨_, by omega, rfl⟩, ⟨_, by omega, rfl⟩⟩
  | case3 a b =>
    have ha : a < 256 := h a (by simp)
    have hb : b < 256 := h b (by simp)
    refine ⟨[Base64.letter (a / 4), Base64.letter (a % 4 * 16 + b / 16),
      Base64.letter (b % 16 * 4)], 1, rfl, by omega, ?_⟩
    simp only [List.forall_mem_cons, List.not_mem_nil, false_implies,
      implies_true, and_true]
    exact ⟨⟨_, by omega, rfl⟩, ⟨_, by omega, rfl⟩, ⟨_, by omega, rfl⟩⟩
  | case4 a b c rest ih =>
    have ha : a < 256 := h a (by simp)
    have hb : b < 256 := h b (by simp)
    have hc : c < 256 := h c (by simp)
    obtain ⟨letters, pads, hencode, hpads, hletters⟩ := ih fun x hx => h x (by simp [hx])
    refine ⟨[Base64.letter (a / 4), Base64.letter (a % 4 * 16 + b / 16),
      Base64.letter (b % 16 * 4 + c / 64), Base64.letter (c % 64)] ++ letters, pads, ?_, hpads, ?_⟩
    · rw [Base64.urlsafeEncode, hencode]
      rfl
    · simp only [List.forall_mem_append, List.forall_mem_cons, List.not_mem_nil, false_implies,
      implies_true, and_true]
      exact ⟨⟨⟨_, by omega, rfl⟩, ⟨_, by omega, rfl⟩, ⟨_, by omega, rfl⟩, ⟨_, by omega, rfl⟩⟩,
        hletters⟩

lemma b64decode_urlsafeEncode {bytes : List ℕ} (h : ∀ b ∈ bytes, b < 256) :
    b64decode (Base64.urlsafeEncode bytes) = some bytes := by
  obtain ⟨letters, pads, hencode, htwo, hletters⟩ := exists_letters_pads h
  obtain ⟨letters', pads', hencode', hletters', hpads⟩ := Base64.urlsafeEncode_eq h
  have hne : ∀ letters : Text, (∀ c ∈ letters, ∃ value < 64, c = Base64.letter value) →
      ∀ c ∈ letters, c ≠ '=' := by
    intro letters hletters c hc
    obtain ⟨value, hvalue, rfl⟩ := hletters c hc
    exact Base64.letter_ne_pad hvalue
  have hstrip := Base64.rdropWhile_pads (hne letters hletters) pads
  have hsame : letters' = letters := by
    rw [← Base64.rdropWhile_pads (hne letters' hletters') pads', ← hencode', hencode, hstrip]
  have hlength : letters'.length + pads' = letters.length + pads := by
    have hlengths := congrArg List.length (hencode'.symm.trans hencode)
    simpa using hlengths
  rw [hsame] at hlength hpads
  have hsextet : ∀ c ∈ letters, (Base64.sextet c).isSome := by
    intro c hc
    obtain ⟨value, hvalue, rfl⟩ := hletters c hc
    rw [Base64.sextet_letter hvalue]
    rfl
  have hdecode := Base64.decodeFrom_urlsafeEncode h
  rw [hencode] at hdecode
  unfold b64decode
  rw [hencode, hstrip, hdecode]
  simp only [List.length_append, List.length_replicate]
  rw [if_pos ⟨List.all_eq_true.mpr hsextet, by omega, by omega⟩]
  rfl

lemma urlsafeEncode_letters {bytes : List ℕ} (h : ∀ b ∈ bytes, b < 256) :
    ∀ c ∈ Base64.urlsafeEncode bytes, c ≠ '.' ∧ c.toNat < 128 := by
  obtain ⟨letters, pads, hencode, -, hletters⟩ := exists_letters_pads h
  have hall : ∀ value < 64, Base64.letter value ≠ '.' ∧ (Base64.letter value).toNat < 128 := by
    decide
  intro c hc
  rw [hencode, List.mem_append] at hc
  rcases hc with hc | hc
  · obtain ⟨value, hvalue, rfl⟩ := hletters c hc
    exact hall value hvalue
  · rw [List.eq_of_mem_replicate hc]
    decide

lemma length_urlsafeEncode (bytes : List ℕ) :
    (Base64.urlsafeEncode bytes).length = (bytes.length + 2) / 3 * 4 := by
  induction bytes using Base64.urlsafeEncode.induct with
  | case1 => rfl
  | case2 a => simp [Base64.urlsafeEncode]
  | case3 a b => simp [Base64.urlsafeEncode]
  | case4 a b c rest ih =>
    simp only [Base64.urlsafeEncode, List.length_cons, ih]
    omega

lemma encode_lt (s : Text) : ∀ b ∈ Text.encode s, b < 256 := by
  intro b hb
  unfold Text.encode at hb
  rw [List.mem_flatMap] at hb
  obtain ⟨c, -, hb⟩ := hb
  obtain ⟨byte, -, rfl⟩ := List.mem_map.mp hb
  exact byte.toNat_lt

/-! ### Signing -/

/-- How a service signs its records: the domain of its signatures, `model_dump_json` and
`model_validate_json`. -/
structure TokenScheme (R : Type) where
  domain : String
  dump : R → Text
  parse : List ℕ → Option R

def maxTokenLength : ℕ := 4096

namespace TokenScheme

variable [HmacSha256] {R : Type} (scheme : TokenScheme R) (secret : Text)

/-- What is signed for an encoded record. -/
def message (payload : Text) : List ℕ := Text.encode scheme.domain.toList ++ Text.encode payload

def signature (payload : Text) : Text :=
  HmacSha256.hexdigest (Text.encode secret) (scheme.message payload)

def payloadOf (record : R) : Text := Base64.urlsafeEncode (Text.encode (scheme.dump record))

/-- `sign`: a longer token is a `ValueError`. -/
def sign (record : R) : Option Text :=
  let payload := scheme.payloadOf record
  let token := payload ++ '.' :: scheme.signature secret payload
  if maxTokenLength < token.length then none else some token

/-- The first checks of `verify`: the encoded record of a token whose signature fits. -/
def signedPayload (token : Text) : Option Text :=
  if 1 ≤ token.length ∧ token.length ≤ maxTokenLength then
    match token.splitOn '.' with
    | [payload, signature] =>
      if payload.all (fun c => c.toNat < 128) ∧ signature = scheme.signature secret payload then
        some payload
      else none
    | _ => none
  else none

/-- The record of a token whose signature fits, as `verify` reads it. -/
def opened (token : Text) : Option R := do
  let payload ← scheme.signedPayload secret token
  let raw ← b64decode payload
  scheme.parse raw

/-- The message whose signature a token carries, if it does. -/
def presented (token : Text) : Option (List ℕ) :=
  (scheme.signedPayload secret token).map scheme.message

/-- The message that is signed for a record. -/
def messageOf (record : R) : List ℕ := scheme.message (scheme.payloadOf record)

/-- The record is read back from what was written for it. -/
def ReadsBack (record : R) : Prop := scheme.parse (Text.encode (scheme.dump record)) = some record

section

variable {scheme secret} {record : R} {token : Text}

omit [HmacSha256] in
lemma payloadOf_letters : ∀ c ∈ scheme.payloadOf record, c ≠ '.' ∧ c.toNat < 128 :=
  urlsafeEncode_letters (encode_lt _)

lemma signature_no_dot (payload : Text) : '.' ∉ scheme.signature secret payload := by
  intro hmem
  rcases HmacSha256.isHex _ _ _ hmem with h | ⟨h, -⟩
  · exact absurd h (by decide)
  · exact absurd h (by decide)

/-- A record with a short JSON gets a token. -/
lemma sign_of_length (h : ((Text.encode (scheme.dump record)).length + 2) / 3 * 4 +
      ((scheme.signature secret (scheme.payloadOf record)).length + 1) ≤ maxTokenLength) :
    scheme.sign secret record = some (scheme.payloadOf record ++
      '.' :: scheme.signature secret (scheme.payloadOf record)) := by
  have hlength : ¬maxTokenLength < (scheme.payloadOf record ++
      '.' :: scheme.signature secret (scheme.payloadOf record)).length := by
    have hpayload : (scheme.payloadOf record).length =
        ((Text.encode (scheme.dump record)).length + 2) / 3 * 4 := length_urlsafeEncode _
    rw [List.length_append, List.length_cons, hpayload]
    exact not_lt.mpr h
  simp only [sign]
  rw [if_neg hlength]

/-- A token that is handed out presents the message of its record. -/
lemma signedPayload_sign (h : scheme.sign secret record = some token) :
    scheme.signedPayload secret token = some (scheme.payloadOf record) := by
  unfold sign at h
  simp only at h
  split_ifs at h with hlength
  obtain rfl := Option.some.inj h
  have hpayload : '.' ∉ scheme.payloadOf record := fun hmem =>
    (payloadOf_letters _ hmem).1 rfl
  have hsplit : (scheme.payloadOf record ++
      '.' :: scheme.signature secret (scheme.payloadOf record)).splitOn '.' =
        [scheme.payloadOf record, scheme.signature secret (scheme.payloadOf record)] := by
    rw [List.splitOn_append_cons_self, List.splitOn_eq_singleton hpayload,
      List.splitOn_eq_singleton (signature_no_dot _)]
    rfl
  have hascii : (scheme.payloadOf record).all (fun c => c.toNat < 128) = true :=
    List.all_eq_true.mpr fun c hc => decide_eq_true (payloadOf_letters c hc).2
  have hne : 1 ≤ (scheme.payloadOf record ++
      '.' :: scheme.signature secret (scheme.payloadOf record)).length := by
    rw [List.length_append, List.length_cons]
    omega
  unfold signedPayload
  rw [if_pos ⟨hne, not_lt.mp hlength⟩, hsplit]
  simp [hascii]

lemma opened_eq_some : scheme.opened secret token = some record ↔
    ∃ payload raw, scheme.signedPayload secret token = some payload ∧
      b64decode payload = some raw ∧ scheme.parse raw = some record := by
  simp [opened, Option.bind_eq_some_iff]

/-- A record that can be read back is opened as it was signed. -/
lemma opened_sign (hread : scheme.ReadsBack record) (h : scheme.sign secret record = some token) :
    scheme.opened secret token = some record :=
  opened_eq_some.mpr ⟨_, _, signedPayload_sign h, b64decode_urlsafeEncode (encode_lt _), hread⟩

omit [HmacSha256] in
lemma message_injective : Function.Injective scheme.message := fun _ _ h =>
  Text.encode_injective (List.append_cancel_left h)

/-- A token that presents the message of a record is opened as that record. -/
lemma opened_of_presented {other : R} (hread : scheme.ReadsBack other)
    (hpresented : scheme.presented secret token = some (scheme.messageOf other))
    (h : scheme.opened secret token = some record) : record = other := by
  obtain ⟨payload, raw, hpayload, hraw, hparse⟩ := opened_eq_some.mp h
  rw [presented, hpayload, Option.map_some, Option.some_inj] at hpresented
  obtain rfl := message_injective hpresented
  have hdecode := b64decode_urlsafeEncode (encode_lt (scheme.dump other))
  rw [show b64decode (scheme.payloadOf other) = some (Text.encode (scheme.dump other)) from
    hdecode] at hraw
  obtain rfl := Option.some.inj hraw
  exact Option.some.inj (hparse.symm.trans hread)

/-- What opens presents a message. -/
lemma presented_of_opened (h : scheme.opened secret token = some record) :
    ∃ payload, scheme.presented secret token = some (scheme.message payload) := by
  obtain ⟨payload, raw, hpayload, -, -⟩ := opened_eq_some.mp h
  exact ⟨payload, by rw [presented, hpayload, Option.map_some]⟩

end

end TokenScheme

/-- Schemes whose domains do not begin one another never sign one message. -/
lemma message_ne [HmacSha256] {R S : Type} {scheme : TokenScheme R} {other : TokenScheme S}
    (h : ¬scheme.domain.toList <+: other.domain.toList)
    (h' : ¬other.domain.toList <+: scheme.domain.toList) (payload payload' : Text) :
    scheme.message payload ≠ other.message payload' := by
  intro he
  simp only [TokenScheme.message, ← Text.encode_append] at he
  have htext := Text.encode_injective he
  have hprefix : other.domain.toList <+: scheme.domain.toList ++ payload :=
    htext ▸ List.prefix_append _ _
  rcases List.prefix_or_prefix_of_prefix (List.prefix_append _ payload) hprefix with hp | hp
  · exact h hp
  · exact h' hp

end AgentRemote.Signed
