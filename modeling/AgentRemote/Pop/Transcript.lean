import AgentRemote.Base64
import AgentRemote.Pop.Reading

/-!
# The transcript that a device signs

A device proves that it holds its key by a signature over the operation, the identities and
generations it acts on, the challenge and a digest of the payload. Every variable field
stands behind its length, so the transcript determines them all.
-/

namespace AgentRemote.Pop
open Library Rendering Base64

/-- The arguments of `_verify_pop` that the signed message is made of. -/
structure PopCall where
  challenge : Text
  signature : Text
  deviceId : Fin (2 ^ 128)
  deviceGeneration : ℤ
  operationGeneration : ℤ
  releaseProfile : Text
  credentialProfile : Text
  serverHost : Text
  operation : Text
  bindingId : Option (Fin (2 ^ 128))
  payload : List (Text × Bool × PopValue)

/-- `n.to_bytes(width, "big")`. -/
def toBytes (width : ℕ) (n : ℤ) : Except String (List ℕ) := do
  reject (n < 0) "can't convert negative int to unsigned"
  reject (256 ^ width ≤ n.toNat) "int too big to convert"
  return bigEndian 256 width n.toNat

/-- `_append_pop_field`: the bytes that it adds. -/
def popField (value : Text) : Except String (List ℕ) := do
  let length ← toBytes 4 value.encode.length
  return length ++ value.encode

/-- `str(binding_id) if binding_id is not None else ""`. -/
def bindingText (bindingId : Option (Fin (2 ^ 128))) : Text := (bindingId.map uuidText).getD []

def popDomain : List ℕ := Text.encode "agent-remote/ego-browser/pop/v2\x00".toList

/-- The message of `_verify_pop`. An error stands for a call that returns `False` before it
reaches the signature. -/
def popMessage (sha256 : List ℕ → List ℕ) (call : PopCall) : Except String (List ℕ) := do
  let challenge ← unpaddedDecode call.challenge
  let signature ← unpaddedDecode call.signature
  reject (challenge.length ≠ 32 ∨ signature.length ≠ 64) "wrong length"
  let operation ← popField call.operation
  let device ← popField (uuidText call.deviceId)
  let deviceGeneration ← toBytes 8 call.deviceGeneration
  let operationGeneration ← toBytes 8 call.operationGeneration
  let binding ← popField (bindingText call.bindingId)
  let release ← popField call.releaseProfile
  let credential ← popField call.credentialProfile
  let host ← popField call.serverHost
  let payload ← canonicalPopPayload call.payload
  return popDomain ++ (operation ++ (device ++ (deviceGeneration ++ (operationGeneration ++
    (binding ++ (release ++ (credential ++ (host ++ (challenge ++ sha256 payload)))))))))

/-- `_verify_pop`, over the check of a signature under the device's key. -/
def verifyPop (sha256 : List ℕ → List ℕ) (verify : List ℕ → List ℕ → Bool) (call : PopCall) :
    Bool :=
  match unpaddedDecode call.signature, popMessage sha256 call with
  | .ok signature, .ok message => verify signature message
  | _, _ => false

/-! ### Fields -/

section

variable {m n : ℤ} {width : ℕ} {v w : Text} {x y s t : List ℕ}

lemma length_toBytes (h : toBytes width n = .ok x) : x.length = width := by
  simp only [toBytes, reject_bind_eq_ok, pure_eq_ok, Except.ok.injEq] at h
  rw [← h.2.2, length_bigEndian]

/-- A number of a fixed width is read off the front. -/
lemma toBytes_append_inj (hx : toBytes width m = .ok x) (hy : toBytes width n = .ok y)
    (h : x ++ s = y ++ t) : m = n ∧ s = t := by
  have hsplit := List.append_inj h (by rw [length_toBytes hx, length_toBytes hy])
  simp only [toBytes, reject_bind_eq_ok, pure_eq_ok, Except.ok.injEq, not_lt, not_le] at hx hy
  obtain ⟨hm, hmw, rfl⟩ := hx
  obtain ⟨hn, hnw, rfl⟩ := hy
  have hmn := bigEndian_inj hmw hnw hsplit.1
  exact ⟨by omega, hsplit.2⟩

/-- A field is read off the front. -/
lemma popField_append_inj (hx : popField v = .ok x) (hy : popField w = .ok y)
    (h : x ++ s = y ++ t) : v = w ∧ s = t := by
  simp only [popField, bind_eq_ok, pure_eq_ok, Except.ok.injEq] at hx hy
  obtain ⟨l, hl, rfl⟩ := hx
  obtain ⟨k, hk, rfl⟩ := hy
  rw [List.append_assoc, List.append_assoc] at h
  have hlength := toBytes_append_inj hl hk h
  have hsplit := List.append_inj hlength.2 (by omega)
  exact ⟨Text.encode_injective hsplit.1, hsplit.2⟩

end

lemma bindingText_injective : Function.Injective bindingText := by
  have hne : ∀ u, uuidText u ≠ [] := by
    intro u h
    have hlength := congrArg List.length h
    simp [uuidText] at hlength
  intro a b h
  cases a with
  | none =>
    cases b with
    | none => rfl
    | some v => exact absurd h.symm (hne v)
  | some u =>
    cases b with
    | none => exact absurd h (hne u)
    | some v => rw [uuidText_injective h]

/-! ### The transcript -/

/-- What two calls with one message agree on: every field, the bytes of the challenge and, up
to a collision of the hash function, the submitted payload. -/
structure SameCall (sha256 : List ℕ → List ℕ) (a b : PopCall) : Prop where
  operation : a.operation = b.operation
  deviceId : a.deviceId = b.deviceId
  deviceGeneration : a.deviceGeneration = b.deviceGeneration
  operationGeneration : a.operationGeneration = b.operationGeneration
  bindingId : a.bindingId = b.bindingId
  releaseProfile : a.releaseProfile = b.releaseProfile
  credentialProfile : a.credentialProfile = b.credentialProfile
  serverHost : a.serverHost = b.serverHost
  challenge : unpaddedDecode a.challenge = unpaddedDecode b.challenge
  payload : SamePayload a.payload b.payload ∨
    ∃ p q, canonicalPopPayload a.payload = .ok p ∧ canonicalPopPayload b.payload = .ok q ∧
      p ≠ q ∧ sha256 p = sha256 q

/-- The signed message determines what was signed. -/
theorem transcript_unambiguous {sha256 : List ℕ → List ℕ} {a b : PopCall} {message : List ℕ}
    (ha : popMessage sha256 a = .ok message) (hb : popMessage sha256 b = .ok message) :
    SameCall sha256 a b := by
  simp only [popMessage, bind_eq_ok, pure_eq_ok, Except.ok.injEq] at ha hb
  obtain ⟨ca, hca, _, -, _, hla, oa, hoa, da, hda, ga, hga, qa, hqa, ba, hba, ra, hra, ka, hka,
    sa, hsa, pa, hpa, ha⟩ := ha
  obtain ⟨cb, hcb, _, -, _, hlb, ob, hob, db, hdb, gb, hgb, qb, hqb, bb, hbb, rb, hrb, kb, hkb,
    sb, hsb, pb, hpb, hb⟩ := hb
  have hlength : ca.length = cb.length := by
    rw [reject_eq_ok, not_or, not_not, not_not] at hla hlb
    rw [hla.1, hlb.1]
  have h := List.append_cancel_left (ha.trans hb.symm)
  obtain ⟨hoperation, h⟩ := popField_append_inj hoa hob h
  obtain ⟨hdevice, h⟩ := popField_append_inj hda hdb h
  obtain ⟨hgeneration, h⟩ := toBytes_append_inj hga hgb h
  obtain ⟨hoperationGeneration, h⟩ := toBytes_append_inj hqa hqb h
  obtain ⟨hbinding, h⟩ := popField_append_inj hba hbb h
  obtain ⟨hrelease, h⟩ := popField_append_inj hra hrb h
  obtain ⟨hcredential, h⟩ := popField_append_inj hka hkb h
  obtain ⟨hhost, h⟩ := popField_append_inj hsa hsb h
  obtain ⟨hchallenge, hsha⟩ := List.append_inj h hlength
  refine ⟨hoperation, uuidText_injective hdevice, hgeneration, hoperationGeneration,
    bindingText_injective hbinding, hrelease, hcredential, hhost, by rw [hca, hcb, hchallenge], ?_⟩
  by_cases hpq : pa = pb
  · exact Or.inl (samePayload_of_canonical_eq hpa (hpq ▸ hpb))
  · exact Or.inr ⟨pa, pb, hpa, hpb, hpq, hsha⟩

/-- A renewal signed over a challenge of 43 letters. -/
def renewCall (challenge : Text) : PopCall where
  challenge := challenge
  signature := List.replicate 86 'A'
  deviceId := 1
  deviceGeneration := 1
  operationGeneration := 2
  releaseProfile := "community-local-trust".toList
  credentialProfile := "community_file".toList
  serverHost := "example.test".toList
  operation := "renew_binding".toList
  bindingId := some 3
  payload := [("generation".toList, true, .int 2), ("allowlist_revision".toList, true, .int 1),
    ("learning_bundle_digest".toList, false, .null),
    ("proof_challenge".toList, true, .string challenge)]

/-- The SHA-256 digest of the renewal's payload. -/
def renewDigest : List ℕ :=
  [96, 81, 152, 251, 58, 110, 246, 245, 98, 20, 8, 169, 213, 80, 127, 215, 58, 214, 239, 4, 88,
    235, 219, 70, 195, 16, 189, 40, 138, 60, 149, 174]

/-- Challenges that differ in the bits behind their last byte have one message. -/
lemma renew_messages : ∃ message,
    popMessage (fun _ => renewDigest) (renewCall (List.replicate 43 'A')) = .ok message ∧
      popMessage (fun _ => renewDigest) (renewCall (List.replicate 42 'A' ++ ['B'])) =
        .ok message := by
  have hmessages :
      (popMessage (fun _ => renewDigest) (renewCall (List.replicate 43 'A'))).toOption.isSome ∧
        (popMessage (fun _ => renewDigest) (renewCall (List.replicate 42 'A' ++ ['B']))).toOption =
          (popMessage (fun _ => renewDigest) (renewCall (List.replicate 43 'A'))).toOption := by
    decide +kernel
  obtain ⟨message, hmessage⟩ := Option.isSome_iff_exists.mp hmessages.1
  exact ⟨message, toOption_eq_some.mp hmessage,
    toOption_eq_some.mp (hmessages.2.trans hmessage)⟩

theorem transcript_unambiguous_renew :
    SameCall (fun _ => renewDigest) (renewCall (List.replicate 43 'A'))
      (renewCall (List.replicate 42 'A' ++ ['B'])) := by
  obtain ⟨message, ha, hb⟩ := renew_messages
  exact transcript_unambiguous ha hb

/-- Two challenges that differ in the bits behind their last byte have one message. -/
theorem challenge_text_is_not_signed :
    ∃ (sha256 : List ℕ → List ℕ) (a b : PopCall) (message : List ℕ),
      (popMessage sha256 a).toOption = some message ∧
      (popMessage sha256 b).toOption = some message ∧ a.challenge ≠ b.challenge := by
  obtain ⟨message, ha, hb⟩ := renew_messages
  exact ⟨fun _ => renewDigest, renewCall (List.replicate 43 'A'),
    renewCall (List.replicate 42 'A' ++ ['B']), message, toOption_eq_some.mpr ha,
    toOption_eq_some.mpr hb, by decide +kernel⟩

end AgentRemote.Pop
