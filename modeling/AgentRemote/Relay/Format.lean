import AgentRemote.Relay.Envelope

/-!
# What the relay accepts as an envelope

The format of an outer envelope, stated of the decoded document. The parser returns exactly the
envelopes of this format. It leaves the class of errors that the relay handles where the stack
ends inside the document, and where a type or a direction is an array or an object.
-/

namespace AgentRemote.Relay.Envelope
open Library Library.Loads

/-- The canonical base64 of a number of bytes. -/
def Canonical (item : PyJson) (n : ℕ) : Prop :=
  ∃ bytes : List ℕ, (∀ b ∈ bytes, b < 256) ∧ bytes.length = n ∧
    item = .string (urlsafeB64encode bytes)

/-- The direction of an envelope and the types that go with it. -/
def kinds : List (String × String) :=
  [("request", "execute"), ("request", "cancel"), ("response", "execute_result")]

/-- The format of an outer envelope. -/
structure OuterFormat (maximumBytes : ℤ) (value : Members) : Prop where
  fields : (value.map Prod.fst).toFinset = expected.toFinset
  protocol : get value "protocol" = .string protocol
  channel : get value "channel" = .string relayChannel
  kind : get value "relay_binding_kind" = .string relayKind
  direction : ∃ k ∈ kinds, get value "direction" = .string (str k.1) ∧
    get value "type" = .string (str k.2)
  names : ∀ name ∈ ["request_id", "binding_id"], ∃ s, get value name = .string s ∧ s ≠ [] ∧
    s.length ≤ 128
  counts : ∀ name ∈ ["generation", "sequence", "payload_bytes"], ∃ n : ℤ,
    get value name = .int n ∧ 1 ≤ n
  nonce : Canonical (get value "nonce") 12
  tag : Canonical (get value "auth_tag") 16
  ciphertext : ∃ n : ℕ, get value "payload_bytes" = .int n ∧ Canonical (get value "ciphertext") n
  wrapped : get value "type" = .string (str "execute") → Canonical (get value "key_wrap") 92
  unwrapped : get value "type" ≠ .string (str "execute") → get value "key_wrap" = .string []
  compact : ∃ size ∈ wireSize value, (size : ℤ) ≤ maximumBytes

/-- The bytes are an envelope of the format. -/
structure Accepts (depth : ℕ) (maximumBytes : ℤ) (raw : List ℕ) (value : Members) : Prop where
  size : (raw.length : ℤ) ≤ maximumBytes
  decoded : loads keepPairs depth raw = .ok (.object value)
  distinct : (PyJson.object value).All fun pairs => (pairs.map Prod.fst).Nodup
  format : OuterFormat maximumBytes value

/-! ### The checks one by one -/

section

variable {value : Members} {item : PyJson} {name : String} {maximumBytes : ℤ}

/-- One round of the loop of `_reject_duplicate_pairs`. -/
lemma rejectDuplicates_eq_ok (ps : List (PyStr × PyJson)) {result out : List (PyStr × PyJson)}
    (hnodup : (result.map Prod.fst).Nodup) :
    ps.foldlM (fun (result : List (PyStr × PyJson)) (pair : PyStr × PyJson) => do
      reject (pair.1 ∈ result.map Prod.fst)
        (PyError.valueError (str "duplicate JSON key: " ++ pair.1))
      pure (result ++ [pair])) result = .ok out ↔
      ((result ++ ps).map Prod.fst).Nodup ∧ out = result ++ ps := by
  induction ps generalizing result with
  | nil =>
    simp only [List.foldlM_nil, pure_eq_ok, Except.ok.injEq, List.append_nil]
    exact ⟨fun h => ⟨hnodup, h.symm⟩, fun h => h.2.symm⟩
  | cons pair ps ih =>
    have hsplit : result ++ pair :: ps = result ++ [pair] ++ ps := by simp
    rw [List.foldlM_cons, hsplit]
    by_cases hmem : pair.1 ∈ result.map Prod.fst
    · rw [reject_of hmem]
      constructor
      · intro h
        cases h
      · rintro ⟨h, -⟩
        rw [List.map_append, List.map_append] at h
        have hall := (List.nodup_append.mp (List.nodup_append.mp h).1).2.2 pair.1 hmem pair.1
          (by simp)
        exact absurd rfl hall
    · rw [reject_of_not hmem]
      have hnext : ((result ++ [pair]).map Prod.fst).Nodup := by
        rw [List.map_append, List.map_singleton, List.nodup_append]
        refine ⟨hnodup, List.nodup_singleton _, ?_⟩
        intro k hk k' hk'
        rw [List.mem_singleton] at hk'
        rintro rfl
        exact hmem (hk' ▸ hk)
      exact ih hnext

lemma rejectDuplicatePairs_eq_ok {pairs : List (PyStr × PyJson)} {v : PyJson} :
    rejectDuplicatePairs pairs = .ok v ↔ (pairs.map Prod.fst).Nodup ∧ v = .object pairs := by
  have hnil : (([] : List (PyStr × PyJson)).map Prod.fst).Nodup := List.nodup_nil
  unfold rejectDuplicatePairs
  simp only [bind_eq_ok, pure_eq_ok, Except.ok.injEq]
  constructor
  · rintro ⟨result, hresult, rfl⟩
    obtain ⟨hnodup, rfl⟩ := (rejectDuplicates_eq_ok pairs hnil).mp hresult
    exact ⟨hnodup, rfl⟩
  · rintro ⟨hnodup, rfl⟩
    exact ⟨pairs, (rejectDuplicates_eq_ok pairs hnil).mpr ⟨hnodup, rfl⟩, rfl⟩

lemma differs_eq_false {text : PyStr} : differs item text = false ↔ item = .string text := by
  cases item <;> simp [differs]

lemma isText_eq_true {text : String} :
    isText value name text = true ↔ get value name = .string (str text) := by
  unfold isText
  rw [decide_eq_true_iff, differs_eq_false]

lemma isMember_eq_true {names : List String} :
    isMember item names = .ok true ↔ ∃ n ∈ names, item = .string (str n) := by
  cases item <;> simp [isMember, eq_comm]

lemma requireName_eq_ok {u : Unit} :
    requireName value name = .ok u ↔ ∃ s, get value name = .string s ∧ s ≠ [] ∧ s.length ≤ 128 := by
  unfold requireName
  cases get value name <;> simp [not_or]

lemma requireCount_eq_ok {n : ℤ} :
    requireCount value name = .ok n ↔ get value name = .int n ∧ 1 ≤ n := by
  unfold requireCount
  cases get value name with
  | int m =>
    simp only [reject_bind_eq_ok, not_lt, pure_eq_ok, Except.ok.injEq, PyJson.int.injEq]
    constructor
    · rintro ⟨h, rfl⟩
      exact ⟨rfl, h⟩
    · rintro ⟨rfl, h⟩
      exact ⟨h, rfl⟩
  | _ => simp

lemma decodeField_eq_ok {s : PyStr} {bytes : List ℕ} :
    decodeField value name = .ok (s, bytes) ↔
      get value name = .string s ∧ urlsafeB64decode s = some bytes := by
  unfold decodeField
  cases get value name with
  | string t =>
    simp only [PyJson.string.injEq]
    cases hdecode : urlsafeB64decode t with
    | none =>
      constructor
      · intro h
        cases h
      · rintro ⟨rfl, h⟩
        rw [hdecode] at h
        cases h
    | some decoded =>
      simp only [pure_eq_ok, Except.ok.injEq, Prod.mk.injEq]
      constructor
      · rintro ⟨rfl, rfl⟩
        exact ⟨rfl, hdecode⟩
      · rintro ⟨rfl, h⟩
        rw [hdecode] at h
        exact ⟨rfl, Option.some.inj h⟩
  | _ => simp

lemma map_ofNat_map_toNat (text : Text) : (text.map Char.toNat).map Char.ofNat = text := by
  rw [List.map_map]
  conv_rhs => rw [← List.map_id text]
  exact List.map_congr_left fun c _ => Char.ofNat_toNat c

lemma urlsafeB64decode_encode {bytes : List ℕ} (h : ∀ b ∈ bytes, b < 256) :
    urlsafeB64decode (urlsafeB64encode bytes) = some bytes := by
  have hascii : (urlsafeB64encode bytes).all (· < 128) = true := by
    rw [List.all_eq_true]
    intro point hpoint
    obtain ⟨c, hc, rfl⟩ := List.mem_map.mp hpoint
    obtain ⟨value, hvalue, rfl⟩ := (Base64.unpaddedEncode_eq h).1 c hc
    exact decide_eq_true (Base64.letter_ascii hvalue)
  unfold urlsafeB64decode
  rw [if_pos hascii, urlsafeB64encode, map_ofNat_map_toNat,
    Base64.unpaddedDecode_unpaddedEncode h]
  rfl

/-- A text that is decoded and encoded to itself is the canonical base64 of as many bytes. -/
lemma canonical_iff {s : PyStr} {n : ℕ} :
    (∃ bytes, urlsafeB64decode s = some bytes ∧ bytes.length = n ∧ urlsafeB64encode bytes = s) ↔
      Canonical (.string s) n := by
  constructor
  · rintro ⟨bytes, hdecode, hlength, rfl⟩
    have htext : Base64.unpaddedDecode (Base64.unpaddedEncode bytes) = .ok bytes := by
      unfold urlsafeB64decode at hdecode
      split_ifs at hdecode
      rw [urlsafeB64encode, map_ofNat_map_toNat, toOption_eq_some] at hdecode
      exact hdecode
    obtain ⟨bytes', hbytes, hlength', hsame⟩ :=
      Base64.canonical_iff.mp ⟨bytes, htext, hlength, rfl⟩
    refine ⟨bytes', hbytes, hlength', ?_⟩
    unfold urlsafeB64encode
    rw [hsame]
  · rintro ⟨bytes, hbytes, hlength, heq⟩
    cases heq
    exact ⟨bytes, urlsafeB64decode_encode hbytes, hlength, rfl⟩

lemma letter_mem_alphabet {v : ℕ} (h : v < 64) : (Base64.letter v).toNat ∈ alphabet := by
  have hall : ∀ v < 64, (Base64.letter v).toNat ∈ alphabet := by
    unfold alphabet str
    rw [String.toList_ofList]
    decide +kernel
  exact hall v h

/-- The separate check of a wrapped key asks for canonical base64, too. -/
lemma isCanonicalB64url_iff {s : PyStr} {n : ℕ} (hn : n ≠ 0) :
    (s ≠ [] ∧ isCanonicalB64url s = true ∧ ∃ bytes, urlsafeB64decode s = some bytes ∧
      bytes.length = n) ↔ Canonical (.string s) n := by
  rw [← canonical_iff]
  unfold isCanonicalB64url
  simp only [decide_eq_true_eq]
  constructor
  · rintro ⟨-, ⟨-, -, decoded, hdecoded, hencode⟩, bytes, hbytes, hlength⟩
    obtain rfl := Option.some.inj (hdecoded.symm.trans hbytes)
    exact ⟨decoded, hdecoded, hlength, hencode⟩
  · intro h
    obtain ⟨bytes', hbytes', -, heq⟩ := canonical_iff.mp h
    obtain ⟨bytes, hdecode, hlength, hencode⟩ := h
    have hne : s ≠ [] := by
      rintro rfl
      have hnil : urlsafeB64decode [] = some [] := rfl
      rw [hnil] at hdecode
      cases hdecode
      exact hn hlength.symm
    refine ⟨hne, ⟨hne, ?_, bytes, hdecode, hencode⟩, bytes, hdecode, hlength⟩
    cases heq
    intro c hc
    obtain ⟨letter, hletter, rfl⟩ := List.mem_map.mp hc
    obtain ⟨v, hv, rfl⟩ := (Base64.unpaddedEncode_eq hbytes').1 letter hletter
    exact letter_mem_alphabet hv

lemma requireMember_eq_ok {names : List String} {reason : String} {u : Unit} :
    requireMember item names reason = .ok u ↔ ∃ n ∈ names, item = .string (str n) := by
  unfold requireMember
  rw [← isMember_eq_true]
  simp only [bind_eq_ok, reject_eq_ok, Bool.not_eq_false]
  constructor
  · rintro ⟨known, hknown, rfl⟩
    exact hknown
  · intro h
    exact ⟨true, h, rfl⟩

lemma checkHeader_eq_ok {u : Unit} :
    checkHeader value = .ok u ↔ (value.map Prod.fst).toFinset = expected.toFinset ∧
      get value "protocol" = .string protocol ∧ get value "channel" = .string relayChannel ∧
      get value "relay_binding_kind" = .string relayKind ∧
      (∃ t ∈ ["execute", "execute_result", "cancel"], get value "type" = .string (str t)) ∧
      ∃ d ∈ ["request", "response"], get value "direction" = .string (str d) := by
  unfold checkHeader
  simp only [bind_eq_ok, reject_eq_ok, exists_const, not_not, Bool.not_eq_true, differs_eq_false,
    requireMember_eq_ok, ne_eq]

/-- The types of each direction. -/
lemma checkDirection_eq_ok {u : Unit}
    (ht : ∃ t ∈ ["execute", "execute_result", "cancel"], get value "type" = .string (str t))
    (hd : ∃ d ∈ ["request", "response"], get value "direction" = .string (str d)) :
    checkDirection value = .ok u ↔ ∃ k ∈ kinds, get value "direction" = .string (str k.1) ∧
      get value "type" = .string (str k.2) := by
  obtain ⟨t, ht, htype⟩ := ht
  obtain ⟨d, hd, hdirection⟩ := hd
  unfold checkDirection
  simp only [reject_eq_ok, isText_eq_true, htype, hdirection, PyJson.string.injEq, str_inj]
  simp only [List.mem_cons, List.not_mem_nil, or_false] at ht hd
  obtain rfl | rfl | rfl := ht <;> obtain rfl | rfl := hd <;> simp [kinds]

lemma requireDecoded_eq_ok {s : PyStr} {n : ℕ} {reason : String} {u : Unit} :
    requireDecoded s n reason = .ok u ↔
      ∃ bytes, urlsafeB64decode s = some bytes ∧ bytes.length = n := by
  unfold requireDecoded
  cases urlsafeB64decode s <;> simp

lemma checkWireSize_eq_ok {u : Unit} :
    checkWireSize maximumBytes value = .ok u ↔
      ∃ size ∈ wireSize value, (size : ℤ) ≤ maximumBytes := by
  unfold checkWireSize
  cases wireSize value <;> simp

/-- Only an execution is a request of that type. -/
lemma execute_iff (hkind : ∃ k ∈ kinds,
    get value "direction" = .string (str k.1) ∧ get value "type" = .string (str k.2)) :
    ((isText value "direction" "request" = true ∧ isText value "type" "execute" = true) ↔
        get value "type" = .string (str "execute")) ∧
      (get value "type" ≠ .string (str "execute") →
        (isText value "direction" "request" = true ∧ isText value "type" "cancel" = true) ∨
          isText value "direction" "response" = true) := by
  obtain ⟨k, hk, hdirection, htype⟩ := hkind
  simp only [isText_eq_true, hdirection, htype, ne_eq, PyJson.string.injEq, str_inj]
  simp only [kinds, List.mem_cons, List.not_mem_nil, or_false] at hk
  obtain rfl | rfl | rfl := hk <;> simp

/-- The key of an envelope whose direction and type go together. -/
lemma checkKeyWrap_eq_ok {u : Unit} (hkind : ∃ k ∈ kinds,
    get value "direction" = .string (str k.1) ∧ get value "type" = .string (str k.2)) :
    checkKeyWrap value = .ok u ↔
      (get value "type" = .string (str "execute") → Canonical (get value "key_wrap") 92) ∧
        (get value "type" ≠ .string (str "execute") → get value "key_wrap" = .string []) := by
  obtain ⟨hexecute, hother⟩ := execute_iff hkind
  unfold checkKeyWrap
  split
  · rename_i keyWrap hkeyWrap
    rw [hkeyWrap]
    by_cases htype : get value "type" = .string (str "execute")
    · rw [if_pos (hexecute.mpr htype), reject_bind_eq_ok, not_or, Bool.not_eq_false,
        ← isCanonicalB64url_iff (by decide), requireDecoded_eq_ok]
      constructor
      · rintro ⟨⟨hne, hcanonical⟩, hbytes⟩
        exact ⟨fun _ => ⟨hne, hcanonical, hbytes⟩, fun h => absurd htype h⟩
      · rintro ⟨h, -⟩
        obtain ⟨hne, hcanonical, hbytes⟩ := h htype
        exact ⟨⟨hne, hcanonical⟩, hbytes⟩
    · rw [if_neg (fun h => htype (hexecute.mp h)), if_pos (hother htype), reject_eq_ok, not_not]
      constructor
      · rintro rfl
        exact ⟨fun h => absurd h htype, fun _ => rfl⟩
      · rintro ⟨-, h⟩
        exact PyJson.string.inj (h htype)
  · rename_i hkeyWrap
    constructor
    · intro h
      cases h
    · rintro ⟨hwrapped, hunwrapped⟩
      by_cases htype : get value "type" = .string (str "execute")
      · obtain ⟨bytes, -, -, heq⟩ := hwrapped htype
        exact absurd heq (hkeyWrap _)
      · exact absurd (hunwrapped htype) (hkeyWrap _)

/-- The checks return the object exactly when it has the format. -/
lemma checkEnvelope_eq_ok {out : Members} :
    checkEnvelope maximumBytes value = .ok out ↔ OuterFormat maximumBytes value ∧ out = value := by
  unfold checkEnvelope
  simp only [bind_eq_ok, reject_eq_ok, exists_const, Prod.exists, requireName_eq_ok,
    requireCount_eq_ok, decodeField_eq_ok, checkHeader_eq_ok, checkWireSize_eq_ok, not_not, ne_eq,
    pure_eq_ok, Except.ok.injEq]
  constructor
  · rintro ⟨⟨hfields, hprotocol, hchannel, hkind, htype, hdirection⟩, _, hpair, hrequest, hbinding,
      generation, hgeneration, sequence, hsequence, payload, hpayload, nonce, nonceBytes,
      ⟨hnonce, hnonceDecode⟩, hnonceLength, tag, tagBytes, ⟨htag, htagDecode⟩, htagLength, text,
      bytes, ⟨htext, hdecode⟩, hlength, hnonceCode, htagCode, hcode, _, hkey, hsize, rfl⟩
    have hpair := (checkDirection_eq_ok htype hdirection).mp hpair
    have hkey := (checkKeyWrap_eq_ok hpair).mp hkey
    refine ⟨?_, rfl⟩
    constructor
    · exact hfields
    · exact hprotocol
    · exact hchannel
    · exact hkind
    · exact hpair
    · simp only [List.mem_cons, List.not_mem_nil, or_false, forall_eq_or_imp, forall_eq]
      exact ⟨hrequest, hbinding⟩
    · simp only [List.mem_cons, List.not_mem_nil, or_false, forall_eq_or_imp, forall_eq]
      exact ⟨⟨generation, hgeneration⟩, ⟨sequence, hsequence⟩, ⟨payload, hpayload⟩⟩
    · rw [hnonce]
      exact canonical_iff.mp ⟨nonceBytes, hnonceDecode, hnonceLength, hnonceCode⟩
    · rw [htag]
      exact canonical_iff.mp ⟨tagBytes, htagDecode, htagLength, htagCode⟩
    · refine ⟨bytes.length, ?_, ?_⟩
      · rw [hlength]
        exact hpayload.1
      · rw [htext]
        exact canonical_iff.mp ⟨bytes, hdecode, rfl, hcode⟩
    · exact hkey.1
    · exact hkey.2
    · exact hsize
  · rintro ⟨h, hout⟩
    have hread : ∀ {name : String} {n : ℕ}, Canonical (get value name) n → ∃ text bytes,
        (get value name = .string text ∧ urlsafeB64decode text = some bytes) ∧
          bytes.length = n ∧ urlsafeB64encode bytes = text := by
      rintro name n ⟨bytes, hbytes, hlength, heq⟩
      exact ⟨_, bytes, ⟨heq, urlsafeB64decode_encode hbytes⟩, hlength, rfl⟩
    obtain ⟨nonce, nonceBytes, hnonce, hnonceLength, hnonceCode⟩ := hread h.nonce
    obtain ⟨tag, tagBytes, htag, htagLength, htagCode⟩ := hread h.tag
    obtain ⟨n, hpayload, hciphertext⟩ := h.ciphertext
    obtain ⟨text, bytes, htext, hlength, hcode⟩ := hread hciphertext
    obtain ⟨generation, hgeneration⟩ := h.counts "generation" (by simp)
    obtain ⟨sequence, hsequence⟩ := h.counts "sequence" (by simp)
    obtain ⟨payload, hpositive⟩ := h.counts "payload_bytes" (by simp)
    have hsame : (n : ℤ) = payload := PyJson.int.inj (hpayload.symm.trans hpositive.1)
    obtain ⟨k, hk, hdirection, htype⟩ := h.direction
    have hknown : (∃ t ∈ ["execute", "execute_result", "cancel"],
        get value "type" = .string (str t)) ∧
        ∃ d ∈ ["request", "response"], get value "direction" = .string (str d) := by
      simp only [kinds, List.mem_cons, List.not_mem_nil, or_false] at hk
      obtain rfl | rfl | rfl := hk
      · exact ⟨⟨"execute", by simp, htype⟩, "request", by simp, hdirection⟩
      · exact ⟨⟨"cancel", by simp, htype⟩, "request", by simp, hdirection⟩
      · exact ⟨⟨"execute_result", by simp, htype⟩, "response", by simp, hdirection⟩
    have hpair : checkDirection value = .ok () :=
      (checkDirection_eq_ok hknown.1 hknown.2).mpr h.direction
    have hkey : checkKeyWrap value = .ok () :=
      (checkKeyWrap_eq_ok h.direction).mpr ⟨h.wrapped, h.unwrapped⟩
    exact ⟨⟨h.fields, h.protocol, h.channel, h.kind, hknown⟩, (), hpair,
      h.names "request_id" (by simp), h.names "binding_id" (by simp), generation, hgeneration,
      sequence, hsequence, payload, hpositive, nonce, nonceBytes, hnonce, hnonceLength, tag,
      tagBytes, htag, htagLength, text, bytes, htext, by rw [hlength, hsame], hnonceCode, htagCode,
      hcode, (), hkey, h.compact, hout.symm⟩

end

/-! ### The parser -/

section

variable {depth : ℕ} {maximumBytes : ℤ} {raw : List ℕ} {value : Members}

lemma decodeOuter_eq_ok {decoded : PyJson} :
    decodeOuter depth raw = .ok decoded ↔ loads keepPairs depth raw = .ok decoded ∧
      decoded.All fun pairs => (pairs.map Prod.fst).Nodup := by
  rw [← loads_restricts fun pairs v => rejectDuplicatePairs_eq_ok]
  unfold decodeOuter
  cases loads rejectDuplicatePairs depth raw with
  | ok v => simp
  | error e => cases e <;> simp

/-- The parser returns exactly the envelopes of the format. -/
theorem parseOuterEnvelope_eq_ok :
    parseOuterEnvelope depth maximumBytes raw = .ok value ↔
      Accepts depth maximumBytes raw value := by
  unfold parseOuterEnvelope
  rw [reject_bind_eq_ok, bind_eq_ok]
  constructor
  · rintro ⟨hsize, decoded, hdecoded, h⟩
    cases decoded with
    | object members =>
      obtain ⟨hloads, hdistinct⟩ := decodeOuter_eq_ok.mp hdecoded
      obtain ⟨hformat, rfl⟩ := checkEnvelope_eq_ok.mp h
      exact ⟨not_lt.mp hsize, hloads, hdistinct, hformat⟩
    | _ => cases h
  · intro h
    exact ⟨not_lt.mpr h.size, .object value, decodeOuter_eq_ok.mpr ⟨h.decoded, h.distinct⟩,
      checkEnvelope_eq_ok.mpr ⟨h.format, rfl⟩⟩

/-- What the relay loops catch. -/
def Caught (e : PyError) : Prop := e.isValueError = true

/-- The type and the direction can be looked up in a set, as far as the checks get. -/
structure Hashable (value : Members) : Prop where
  type : isMember (get value "type") ["execute", "execute_result", "cancel"] ≠ .error .typeError
  direction : isMember (get value "type") ["execute", "execute_result", "cancel"] = .ok true →
    isMember (get value "direction") ["request", "response"] ≠ .error .typeError

/-- The fields in front of the type. -/
structure Named (value : Members) : Prop where
  fields : (value.map Prod.fst).toFinset = expected.toFinset
  protocol : get value "protocol" = .string protocol
  channel : get value "channel" = .string relayChannel
  kind : get value "relay_binding_kind" = .string relayKind

/-- The document is read before the stack is full, and where it is an object that names the relay,
its type and its direction are no arrays or objects. -/
structure Handled (depth : ℕ) (raw : List ℕ) : Prop where
  stack : loads rejectDuplicatePairs depth raw ≠ .error .recursionError
  hashable : ∀ value, loads rejectDuplicatePairs depth raw = .ok (.object value) → Named value →
    Hashable value

lemma caught_valueError {reason : PyStr} : Caught (.valueError reason) := rfl

lemma caught_reject {p : Prop} [Decidable p] {reason : String} :
    FailsWith Caught (reject p (valueError reason)) :=
  failsWith_reject.mpr fun _ => caught_valueError

lemma caught_requireName {name : String} : FailsWith Caught (requireName value name) := by
  unfold requireName
  split
  · exact caught_reject
  · exact failsWith_error.mpr caught_valueError

lemma caught_requireCount {name : String} : FailsWith Caught (requireCount value name) := by
  unfold requireCount
  split
  · exact caught_reject.bind fun _ _ => failsWith_ok _
  · exact failsWith_error.mpr caught_valueError

lemma caught_decodeField {name : String} : FailsWith Caught (decodeField value name) := by
  unfold decodeField
  split
  · split
    · exact failsWith_ok _
    · exact failsWith_error.mpr caught_valueError
  · exact failsWith_error.mpr caught_valueError

lemma caught_checkKeyWrap : FailsWith Caught (checkKeyWrap value) := by
  unfold checkKeyWrap
  split
  · split_ifs
    · refine caught_reject.bind fun _ _ => ?_
      unfold requireDecoded
      split
      · exact caught_reject
      · exact failsWith_error.mpr caught_valueError
    · exact caught_reject
    · exact failsWith_error.mpr caught_valueError
  · exact failsWith_error.mpr caught_valueError

lemma caught_checkWireSize : FailsWith Caught (checkWireSize maximumBytes value) := by
  unfold checkWireSize
  split
  · exact caught_reject
  · exact failsWith_error.mpr caught_valueError

/-- Behind the header every check fails with a value error. -/
lemma caught_checkEnvelope (h : FailsWith Caught (checkHeader value)) :
    FailsWith Caught (checkEnvelope maximumBytes value) := by
  unfold checkEnvelope
  refine h.bind fun _ _ => caught_reject.bind fun _ _ => ?_
  refine caught_requireName.bind fun _ _ => caught_requireName.bind fun _ _ => ?_
  refine caught_requireCount.bind fun _ _ => caught_requireCount.bind fun _ _ => ?_
  refine caught_requireCount.bind fun _ _ => caught_decodeField.bind fun ⟨_, _⟩ _ => ?_
  refine caught_reject.bind fun _ _ => caught_decodeField.bind fun ⟨_, _⟩ _ => ?_
  refine caught_reject.bind fun _ _ => caught_decodeField.bind fun ⟨_, _⟩ _ => ?_
  refine caught_reject.bind fun _ _ => caught_reject.bind fun _ _ => ?_
  refine caught_reject.bind fun _ _ => caught_reject.bind fun _ _ => ?_
  refine caught_checkKeyWrap.bind fun _ _ => caught_checkWireSize.bind fun _ _ => ?_
  exact failsWith_ok _

lemma failsWith_bind_iff {α β : Type} {P : PyError → Prop} {x : Except PyError α}
    {f : α → Except PyError β} :
    FailsWith P (x >>= f) ↔ FailsWith P x ∧ ∀ a, x = .ok a → FailsWith P (f a) := by
  constructor
  · intro h
    constructor
    · rintro e rfl
      exact h e rfl
    · rintro a rfl
      exact h
  · exact fun h => h.1.bind h.2

lemma caught_requireMember_iff {item : PyJson} {names : List String} {reason : String} :
    FailsWith Caught (requireMember item names reason) ↔
      isMember item names ≠ .error .typeError := by
  have huncaught : ¬Caught .typeError := nofun
  unfold requireMember
  cases h : isMember item names with
  | error e =>
    have he : e = .typeError := by
      unfold isMember at h
      split at h <;> cases h <;> rfl
    subst he
    constructor
    · exact fun hfails => absurd (hfails _ rfl) huncaught
    · exact fun hne => absurd rfl hne
  | ok known =>
    constructor
    · intro _ heq
      cases heq
    · exact fun _ => caught_reject

/-- The header fails with a value error exactly when the two look-ups are possible. -/
lemma caught_checkHeader_iff :
    FailsWith Caught (checkHeader value) ↔ (Named value → Hashable value) := by
  unfold checkHeader
  simp only [failsWith_bind_iff, caught_requireMember_iff, reject_eq_ok, ne_eq, not_not,
    Bool.not_eq_true, differs_eq_false, requireMember_eq_ok, ← isMember_eq_true]
  constructor
  · rintro ⟨-, h⟩ ⟨hfields, hprotocol, hchannel, hkind⟩
    obtain ⟨htype, hdirection⟩ := (((h () hfields).2 () hprotocol).2 () hchannel).2 () hkind
    exact ⟨htype, fun hknown => hdirection () hknown⟩
  · intro h
    refine ⟨caught_reject, fun _ hfields => ⟨caught_reject, fun _ hprotocol => ⟨caught_reject,
      fun _ hchannel => ⟨caught_reject, fun _ hkind => ?_⟩⟩⟩⟩
    have hashable := h ⟨hfields, hprotocol, hchannel, hkind⟩
    exact ⟨hashable.type, fun _ hknown => hashable.direction hknown⟩

lemma fails_rejectDuplicatePairs (pairs : List (PyStr × PyJson)) :
    FailsWith Fails (rejectDuplicatePairs pairs) := by
  have hfold : ∀ (ps result : List (PyStr × PyJson)), FailsWith Fails
      (ps.foldlM (fun (result : List (PyStr × PyJson)) (pair : PyStr × PyJson) => do
        reject (pair.1 ∈ result.map Prod.fst)
          (PyError.valueError (str "duplicate JSON key: " ++ pair.1))
        pure (result ++ [pair])) result) := by
    intro ps
    induction ps with
    | nil => exact fun result => failsWith_ok _
    | cons pair ps ih =>
      intro result
      rw [List.foldlM_cons]
      have hround : FailsWith Fails (reject (pair.1 ∈ result.map Prod.fst)
          (PyError.valueError (str "duplicate JSON key: " ++ pair.1))) :=
        failsWith_reject.mpr fun _ => fails_valueError
      exact (hround.bind fun _ _ => failsWith_ok _).bind fun next _ => ih next
  exact (hfold pairs []).bind fun _ _ => failsWith_ok _

/-- The decoder's errors are caught unless the stack was full. -/
lemma caught_decodeOuter_iff :
    FailsWith Caught (decodeOuter depth raw) ↔
      loads rejectDuplicatePairs depth raw ≠ .error .recursionError := by
  have hfails := fails_loads fails_rejectDuplicatePairs depth raw
  unfold decodeOuter
  cases h : loads rejectDuplicatePairs depth raw with
  | ok decoded => simp
  | error e =>
    cases e with
    | valueError reason => simp [caught_valueError, valueError]
    | typeError =>
      rcases hfails _ h with hvalue | hstack
      · cases hvalue
      · cases hstack
    | recursionError =>
      constructor
      · intro hcaught
        exact absurd (hcaught _ rfl) nofun
      · exact fun hne => absurd rfl hne

/-- What the parser promises for a frame: exactly the format is accepted, and every refusal is of
the class that the relay loops handle. -/
structure Parses (depth : ℕ) (maximumBytes : ℤ) (raw : List ℕ) : Prop where
  accepts : ∀ value, parseOuterEnvelope depth maximumBytes raw = .ok value ↔
    Accepts depth maximumBytes raw value
  caught : FailsWith Caught (parseOuterEnvelope depth maximumBytes raw)

/-- The parser keeps its promise exactly for the frames that are too long or can be handled. -/
theorem parseOuterEnvelope_parses_iff :
    Parses depth maximumBytes raw ↔ ((raw.length : ℤ) ≤ maximumBytes → Handled depth raw) := by
  have hparse : FailsWith Caught (parseOuterEnvelope depth maximumBytes raw) ↔
      ((raw.length : ℤ) ≤ maximumBytes → Handled depth raw) := by
    unfold parseOuterEnvelope
    simp only [failsWith_bind_iff, reject_eq_ok, not_lt, caught_decodeOuter_iff]
    constructor
    · rintro ⟨-, h⟩ hsize
      obtain ⟨hstack, hchecks⟩ := h () hsize
      refine ⟨hstack, fun value hvalue => caught_checkHeader_iff.mp ?_⟩
      have hdecoded : decodeOuter depth raw = .ok (.object value) := by
        unfold decodeOuter
        rw [hvalue]
        rfl
      have henvelope : FailsWith Caught (checkEnvelope maximumBytes value) := hchecks _ hdecoded
      intro e he
      apply henvelope
      unfold checkEnvelope
      rw [he]
      rfl
    · intro h
      refine ⟨caught_reject, fun _ hsize => ⟨(h hsize).stack, fun decoded hdecoded => ?_⟩⟩
      cases decoded with
      | object value =>
        have hvalue : loads rejectDuplicatePairs depth raw = .ok (.object value) := by
          unfold decodeOuter at hdecoded
          split at hdecoded
          · rename_i v hv
            cases hdecoded
            exact hv
          · cases hdecoded
          · cases hdecoded
        exact caught_checkEnvelope (caught_checkHeader_iff.mpr ((h hsize).hashable value hvalue))
      | _ => exact failsWith_error.mpr caught_valueError
  constructor
  · exact fun h => hparse.mp h.caught
  · exact fun h => ⟨fun _ => parseOuterEnvelope_eq_ok, hparse.mpr h⟩

end

/-! ### A type that is an array -/

/-- A cancellation with the given text for its type. -/
def sampleFrame (type : String) : List ℕ :=
  let members : List (String × String) :=
    [("protocol", "\"ego-browser-bridge-v1\""), ("channel", "\"ego_browser_bridge\""),
      ("relay_binding_kind", "\"ego_browser\""), ("type", type), ("request_id", "\"r\""),
      ("binding_id", "\"b\""), ("generation", "1"), ("sequence", "1"),
      ("direction", "\"request\""), ("payload_bytes", "1"), ("nonce", "\"AAAAAAAAAAAAAAAA\""),
      ("ciphertext", "\"AA\""), ("auth_tag", "\"AAAAAAAAAAAAAAAAAAAAAA\""), ("key_wrap", "\"\"")]
  123 :: [44].intercalate (members.map fun (name, value) =>
    34 :: str name ++ [34, 58] ++ str value) ++ [125]

/-- A frame whose type is an empty array ends the parser with an error that no relay loop
handles. -/
theorem array_type_escapes :
    parseOuterEnvelope 900 1048576 (sampleFrame "[]") = .error .typeError ∧
      ¬Parses 900 1048576 (sampleFrame "[]") := by
  have herror : (match parseOuterEnvelope 900 1048576 (sampleFrame "[]") with
    | .error e => decide (e = .typeError)
    | .ok _ => false) = true := by decide +kernel
  have htype : parseOuterEnvelope 900 1048576 (sampleFrame "[]") = .error .typeError := by
    split at herror
    · rename_i e he
      rw [he, of_decide_eq_true herror]
    · cases herror
  refine ⟨htype, fun h => ?_⟩
  exact absurd (h.caught _ htype) nofun

end AgentRemote.Relay.Envelope
