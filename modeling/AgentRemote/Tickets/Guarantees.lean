import AgentRemote.Rendering
import AgentRemote.Tickets.Stores

/-!
# What the token stores guarantee

The string keys of the four stores never meet, and a payload is read back as the claims it was
written for, so the shared server acts as four stores of claims. A token is redeemed at most
once, before its end and for the claims it was issued with. The rate limiter lets through at
most twice its limit in any interval of one window.
-/

namespace AgentRemote.Tickets
open Library Runtimes

/-! ### Payloads -/

lemma parseDigits_repr (n : ℕ) : parseDigits (Nat.repr n).toList = some n := by
  have hdigits : ∀ c ∈ Nat.toDigits 10 n, c.isDigit = true := fun c hc =>
    Nat.isDigit_of_mem_toDigits (by omega) (by omega) hc
  have hne : Nat.toDigits 10 n ≠ [] := Nat.toDigits_ne_nil
  rw [parseDigits, Nat.toList_repr, if_pos ⟨hne, List.all_eq_true.mpr hdigits⟩]
  simp

lemma parseDecimal_decimal (n : ℤ) : parseDecimal (decimal n) = some n := by
  cases n with
  | ofNat n =>
    have hdigits := parseDigits_repr n
    rw [decimal]
    unfold parseDecimal
    split
    · rename_i digits heq
      have hminus : '-' ∈ (Nat.repr n).toList := by
        rw [heq]
        exact List.mem_cons_self
      exact absurd hminus (Rendering.not_mem_repr rfl)
    · rw [hdigits]
      rfl
  | negSucc n =>
    rw [decimal, parseDecimal, parseDigits_repr]
    rfl

section

variable {members : List (String × JsonValue)} {key : String}

lemma member_named : member (named members) key = members.lookup key := by
  induction members with
  | nil => rfl
  | cons entry members ih =>
    obtain ⟨name, value⟩ := entry
    unfold member JsonObject.get named at ih ⊢
    rw [List.map_cons, List.find?_cons, List.lookup_cons]
    by_cases h : name = key
    · simp [h]
    · have hne : name.toList ≠ key.toList := fun he => h (String.toList_inj.mp he)
      simp only [hne, decide_false, ih]
      simp [beq_eq_false_iff_ne.mpr (Ne.symm h)]

variable (uuid : UuidForm)

lemma uuidAt_named (id : Uuid) (h : members.lookup key = some (.string (uuid.str id))) :
    uuidAt uuid (named members) key = some id := by
  simp [uuidAt, member_named, h, JsonValue.text?, uuid.parse_str]

lemma uuidIfSet_named (id : Option Uuid)
    (h : members.lookup key = some (optionalUuid uuid id)) :
    uuidIfSet uuid (named members) key = some id := by
  unfold uuidIfSet uuidAt
  rw [member_named, h]
  cases id with
  | none => rfl
  | some id =>
    have hne := uuid.str_ne_nil id
    simp [optionalUuid, truthy, hne, JsonValue.text?, uuid.parse_str]

lemma nullableUuid_named (id : Option Uuid)
    (h : members.lookup key = some (optionalUuid uuid id)) :
    nullableUuid uuid (named members) key = some id := by
  unfold nullableUuid uuidAt
  rw [member_named, h]
  cases id with
  | none => rfl
  | some id => simp [optionalUuid, JsonValue.text?, uuid.parse_str]

lemma intAt_named (n : ℤ) (h : members.lookup key = some (.string (decimal n))) :
    intAt (named members) key = some n := by
  simp [intAt, member_named, h, intOf, parseDecimal_decimal]

end

section

variable (uuid : UuidForm)

lemma portForwardToken_decode (claims : PortForwardTokenClaims) :
    (portForwardToken uuid).decode ((portForwardToken uuid).encode claims) =
      .redeemed (some claims) := by
  unfold portForwardToken
  dsimp only
  rw [uuidAt_named uuid claims.forwardId rfl, uuidAt_named uuid claims.deviceId rfl,
    uuidIfSet_named uuid claims.sshKeyId rfl]
  rfl

lemma relayRole_name (role : EgoBrowserRelayRole) :
    relayRole? (relayRoleName role).toList = some role := by
  cases role <;> simp [relayRole?, relayRoleName]

lemma deviceRole_name (role : DeviceRelay.DeviceRelayRole) :
    deviceRole? (deviceRoleName role).toList = some role := by
  cases role <;> simp [deviceRole?, deviceRoleName]

lemma relayTicket_decode (claims : EgoBrowserRelayTicketClaims) :
    (relayTicket uuid).decode ((relayTicket uuid).encode claims) = .redeemed (some claims) := by
  unfold relayTicket
  dsimp only
  rw [member_named, member_named]
  simp only [List.lookup_cons, String.reduceBEq, Option.bind_some, JsonValue.object?,
    JsonValue.text?, relayRole_name, Option.bind_eq_bind]
  rw [uuidAt_named uuid claims.binding.userId rfl,
    uuidAt_named uuid claims.binding.egoBrowserDeviceId rfl,
    uuidAt_named uuid claims.binding.toolSessionId rfl,
    uuidAt_named uuid claims.binding.bindingId rfl,
    uuidAt_named uuid claims.binding.nodeId rfl,
    intAt_named claims.binding.generation rfl]
  rfl

lemma proofChallenge_decode (claims : EgoBrowserProofChallengeClaims) :
    (proofChallenge uuid).decode ((proofChallenge uuid).encode claims) =
      .redeemed (some claims) := by
  unfold proofChallenge
  dsimp only
  rw [nullableUuid_named uuid claims.bindingId rfl,
    uuidAt_named uuid claims.userId rfl,
    uuidAt_named uuid claims.egoBrowserDeviceId rfl, member_named]
  simp only [intAt, member_named, List.lookup_cons, String.reduceBEq, Option.bind_some, intOf,
    JsonValue.text?, Option.bind_eq_bind, Option.pure_def]

lemma deviceTicket_decode (claims : DeviceRelayTicketClaims) :
    (deviceTicket uuid).decode ((deviceTicket uuid).encode claims) = .redeemed (some claims) := by
  unfold deviceTicket
  dsimp only
  rw [member_named, member_named]
  simp only [List.lookup_cons, String.reduceBEq, Option.bind_some, JsonValue.object?,
    JsonValue.text?, deviceRole_name, Option.bind_eq_bind]
  rw [uuidAt_named uuid claims.binding.userId rfl,
    uuidAt_named uuid claims.binding.deviceId rfl,
    uuidAt_named uuid claims.binding.toolSessionId rfl,
    uuidAt_named uuid claims.binding.deviceSessionId rfl,
    uuidAt_named uuid claims.binding.nodeId rfl,
    intAt_named claims.binding.generation rfl,
    uuidIfSet_named uuid claims.credentialId rfl]
  rfl

/-- Every payload is read back as the claims it was written for. -/
theorem decode_encode (kind : TokenKind) (claims : kind.Claims) :
    (kind.format uuid).decode ((kind.format uuid).encode claims) = .redeemed (some claims) := by
  cases kind with
  | connection => exact portForwardToken_decode uuid claims
  | relayTicket => exact relayTicket_decode uuid claims
  | proofChallenge => exact proofChallenge_decode uuid claims
  | deviceTicket => exact deviceTicket_decode uuid claims

/-! ### Keys -/

/-- No prefix of the keys begins another. -/
lemma keyPrefix_apart {kind other : TokenKind} (h : kind ≠ other) :
    ¬(kind.format uuid).keyPrefix.toList <+: (other.format uuid).keyPrefix.toList := by
  have hconnection : (TokenKind.connection.format uuid).keyPrefix =
      "agent-remote:port-forward-token:" := rfl
  have hticket : (TokenKind.relayTicket.format uuid).keyPrefix =
      "agent-remote:ego-browser:relay-ticket:" := rfl
  have hchallenge : (TokenKind.proofChallenge.format uuid).keyPrefix =
      "agent-remote:ego-browser:pop-challenge:" := rfl
  have hdevice : (TokenKind.deviceTicket.format uuid).keyPrefix =
      "agent-remote:device-relay-ticket:" := rfl
  cases kind <;> cases other <;>
    simp [hconnection, hticket, hchallenge, hdevice, List.cons_prefix_cons] at h ⊢

/-- No key of one kind is a key of another. -/
lemma key_ne {kind other : TokenKind} (h : kind ≠ other) (a b : Text) :
    (kind.format uuid).key a ≠ (other.format uuid).key b := by
  unfold TokenFormat.key
  intro he
  have hb : (other.format uuid).keyPrefix.toList <+: (kind.format uuid).keyPrefix.toList ++ a :=
    he ▸ List.prefix_append _ b
  rcases List.prefix_or_prefix_of_prefix (List.prefix_append _ a) hb with hp | hp
  · exact keyPrefix_apart uuid h hp
  · exact keyPrefix_apart uuid (Ne.symm h) hp

end

/-! ### One server as four stores -/

/-- The microseconds of a second, in which the deadlines are kept. -/
abbrev second : ℤ := 1000000

/-- The server holds what a store of claims holds, as payloads under the keys of the format. -/
def Represents {C : Type} (format : TokenFormat C) (redis : TokenRedis)
    (store : ExpiringStore Text C) : Prop :=
  ∀ tokenHash, redis (format.key tokenHash) =
    (store tokenHash).map fun t => ⟨format.encode t.value, t.expiresAt⟩

section

variable {C : Type} {format : TokenFormat C} {redis : TokenRedis} {store : ExpiringStore Text C}
  {now : Instant} {tokenHash : Text}

lemma key_inj {a b : Text} : format.key a = format.key b ↔ a = b := by
  unfold TokenFormat.key
  exact List.append_cancel_left_eq ..  |>.to_iff

lemma Represents.live (h : Represents format redis store) :
    ExpiringStore.live redis now (format.key tokenHash) =
      (store.live now tokenHash).map format.encode := by
  unfold ExpiringStore.live
  rw [h tokenHash]
  cases store tokenHash with
  | none => rfl
  | some t =>
    simp only [Option.map_some, Option.bind_some]
    split_ifs <;> rfl

lemma Represents.update (h : Represents format redis store) (tokenHash : Text)
    (t : Option (Timed C)) :
    Represents format
      (Function.update redis (format.key tokenHash)
        (t.map fun t => ⟨format.encode t.value, t.expiresAt⟩))
      (Function.update store tokenHash t) := by
  intro other
  by_cases ho : other = tokenHash
  · subst ho
    simp
  · have hkey : format.key other ≠ format.key tokenHash := fun he => ho (key_inj.mp he)
    rw [Function.update_of_ne hkey, Function.update_of_ne ho]
    exact h other

/-- The server answers a call as the store of claims does. -/
lemma Represents.serve (h : Represents format redis store) (now : Instant)
    (hread : ∀ claims, format.decode (format.encode claims) = .redeemed (some claims))
    (op : StoreOp Text C) :
    (redisServe format redis now op).2 = (store.serve second now op).2 ∧
      Represents format (redisServe format redis now op).1 (store.serve second now op).1 := by
  cases op with
  | issue tokenHash claims ttl =>
    simp only [redisServe, issueToken, ExpiringStore.serve, ExpiringStore.putNew, h.live]
    cases store.live now tokenHash with
    | some old => exact ⟨rfl, h⟩
    | none => exact ⟨rfl, h.update tokenHash (some ⟨claims, now + seconds ttl⟩)⟩
  | redeem tokenHash =>
    have hnone := h.update tokenHash none
    simp only [redisServe, consumeToken, ExpiringStore.serve, ExpiringStore.take, h.live]
    cases store.live now tokenHash with
    | none => exact ⟨rfl, hnone⟩
    | some claims => exact ⟨hread claims, hnone⟩

end

/-- A call of one kind does not touch the keys of the others. -/
lemma redisServe_other (uuid : UuidForm) {kind other : TokenKind} (h : kind ≠ other)
    (redis : TokenRedis) (now : Instant) (op : StoreOp Text kind.Claims) (tokenHash : Text) :
    (redisServe (kind.format uuid) redis now op).1 ((other.format uuid).key tokenHash) =
      redis ((other.format uuid).key tokenHash) := by
  have hne : ∀ a, (other.format uuid).key tokenHash ≠ (kind.format uuid).key a := fun a =>
    key_ne uuid (Ne.symm h) tokenHash a
  cases op with
  | issue a claims ttl =>
    simp only [redisServe, issueToken, ExpiringStore.putNew]
    cases ExpiringStore.live redis now ((kind.format uuid).key a) with
    | some old => rfl
    | none => exact Function.update_of_ne (hne a) _ _
  | redeem a =>
    simp only [redisServe, consumeToken, ExpiringStore.take]
    cases ExpiringStore.live redis now ((kind.format uuid).key a) <;>
      exact Function.update_of_ne (hne a) _ _

/-- The calls of one kind. -/
def TokenCall.ofKind (kind : TokenKind) (call : TokenCall) :
    Option (ℤ × StoreOp Text kind.Claims) :=
  if h : call.kind = kind then some (call.now, h ▸ call.op) else none

def ServedToken.ofKind (kind : TokenKind) (token : ServedToken) :
    Option (Served Text kind.Claims) :=
  if h : token.kind = kind then some (h ▸ token.served) else none

/-- The store of claims of one kind, run on its own calls alone. -/
abbrev claimsRun (kind : TokenKind) (calls : List TokenCall) :
    ExpiringStore Text kind.Claims × List (Served Text kind.Claims) :=
  ExpiringStore.run second (calls.filterMap (TokenCall.ofKind kind))

/-- The shared server acts as a store of claims for each kind. -/
theorem redisRun_simulates (uuid : UuidForm) (calls : List TokenCall) (kind : TokenKind) :
    Represents (kind.format uuid) (redisRun uuid calls).1 (claimsRun kind calls).1 ∧
      (redisRun uuid calls).2.filterMap (ServedToken.ofKind kind) = (claimsRun kind calls).2 := by
  induction calls with
  | nil => exact ⟨fun _ => rfl, rfl⟩
  | cons call past ih =>
    obtain ⟨hrep, hserved⟩ := ih
    obtain ⟨called, now, op⟩ := call
    by_cases hk : called = kind
    · subst hk
      have hstep := hrep.serve now (decode_encode uuid called) op
      have hcalls : ((⟨called, now, op⟩ : TokenCall) :: past).filterMap
          (TokenCall.ofKind called) = (now, op) :: past.filterMap (TokenCall.ofKind called) := by
        rw [List.filterMap_cons]
        simp [TokenCall.ofKind]
      unfold claimsRun
      rw [hcalls]
      refine ⟨hstep.2, ?_⟩
      simp only [redisRun, List.filterMap_cons, ServedToken.ofKind, dite_true]
      simp only [ExpiringStore.run, serveAll]
      rw [← hstep.1]
      exact congrArg _ hserved
    · have hcalls : ((⟨called, now, op⟩ : TokenCall) :: past).filterMap
          (TokenCall.ofKind kind) = past.filterMap (TokenCall.ofKind kind) := by
        rw [List.filterMap_cons]
        simp [TokenCall.ofKind, hk]
      unfold claimsRun
      rw [hcalls]
      refine ⟨fun tokenHash => ?_, ?_⟩
      · rw [← hrep tokenHash]
        exact redisServe_other uuid hk _ _ _ _
      · simp only [redisRun, List.filterMap_cons, ServedToken.ofKind, hk, dite_false]
        exact hserved

/-- A store of claims never fails to read one. -/
lemma answer_ne_failed {κ α : Type*} [DecidableEq κ] {unit : ℤ} {calls : List (ℤ × StoreOp κ α)} :
    ∀ e ∈ (ExpiringStore.run unit calls).2, e.answer ≠ .failed := by
  induction calls with
  | nil => simp [ExpiringStore.run, serveAll]
  | cons call past ih =>
    intro e he
    rcases List.mem_cons.mp he with rfl | he
    · obtain ⟨now, op⟩ := call
      cases op with
      | issue k v ttl =>
        simp only [ExpiringStore.putNew]
        cases ExpiringStore.live (serveAll (ExpiringStore.serve unit) ExpiringStore.empty past).1
          now k <;> simp
      | redeem k => simp
    · exact ih e he

/-- Whatever the processes call, and in whatever order, a token of each kind is redeemed only
for the claims it was issued with, before its end and with no redemption since it was issued,
so no more often than it was issued, and no payload is ever found unreadable. -/
theorem tokens_redeemed_once (uuid : UuidForm) (calls : List TokenCall) (kind : TokenKind) :
    let history := (redisRun uuid calls).2.filterMap (ServedToken.ofKind kind)
    (∀ later earlier now tokenHash claims,
      history = later ++ ⟨now, .redeem tokenHash, .redeemed (some claims)⟩ :: earlier →
        ∃ between rest issuedAt, ∃ ttl : ℕ,
          earlier = between ++ ⟨issuedAt, .issue tokenHash claims ttl, .issued⟩ :: rest ∧
            now < issuedAt + seconds ttl ∧
              ∀ e ∈ between, e.op.key = tokenHash → e.answer = .collision) ∧
    (∀ tokenHash, ExpiringStore.redemptions tokenHash history ≤
      ExpiringStore.issues tokenHash history) ∧
    ∀ e ∈ history, e.answer ≠ .failed := by
  intro history
  have hhistory : history = (claimsRun kind calls).2 := (redisRun_simulates uuid calls kind).2
  rw [hhistory]
  refine ⟨?_, fun tokenHash => ?_, answer_ne_failed⟩
  · intro later earlier now tokenHash claims h
    obtain ⟨deadline, hnow, between, rest, issuedAt, ttl, hearlier, rfl, hbetween⟩ :=
      ExpiringStore.redeemed_outstanding h
    exact ⟨between, rest, issuedAt, ttl, hearlier, hnow, hbetween⟩
  · exact (Nat.le_add_right _ _).trans (ExpiringStore.redemptions_le _ tokenHash)

/-! ### Memory -/

/-- The kinds whose dictionary keeps a lapsed token in the way of the next. -/
def TokenKind.issuesOnce : TokenKind → Bool
  | connection | deviceTicket => true
  | relayTicket | proofChallenge => false

/-- The hashes that tokens were to be issued under. -/
def issuedHashes {C : Type} (calls : List (ℤ × StoreOp Text C)) : List Text :=
  calls.filterMap fun call => match call.2 with
    | .issue tokenHash _ _ => some tokenHash
    | .redeem _ => none

section

variable {C : Type} {store : ExpiringStore Text C} {now : Instant} {kind : TokenKind}

lemma memoryIssue_eq (tokenHash : Text) (claims : C) (ttl : ℕ) :
    memoryIssue store now tokenHash claims ttl =
      store.serve second now (.issue tokenHash claims ttl) := by
  simp only [memoryIssue, ExpiringStore.serve, ExpiringStore.putNew, ExpiringStore.live]
  cases store tokenHash with
  | none => rfl
  | some t =>
    simp only [Option.bind_some]
    by_cases h : t.expiresAt ≤ now
    · simp only [if_neg (not_lt.mpr h), if_pos h]
      rfl
    · simp only [if_pos (not_le.mp h), if_neg h]

lemma memoryConsume_eq (tokenHash : Text) :
    memoryConsume store now tokenHash = store.serve second now (.redeem tokenHash) := by
  simp only [memoryConsume, ExpiringStore.serve, ExpiringStore.take, ExpiringStore.live]
  cases store tokenHash <;> rfl

/-- A dictionary serves a call as the store does, unless the call meets a lapsed token that the
dictionary keeps. -/
lemma memoryServe_eq (op : StoreOp Text C)
    (h : kind.issuesOnce = true → ∀ tokenHash claims ttl, op = .issue tokenHash claims ttl →
      store tokenHash = none) :
    memoryServe kind store now op = store.serve second now op := by
  cases op with
  | redeem tokenHash => cases kind <;> exact memoryConsume_eq tokenHash
  | issue tokenHash claims ttl =>
    have honce : store tokenHash = none → memoryIssueOnce store now tokenHash claims ttl =
        store.serve second now (.issue tokenHash claims ttl) := by
      intro hnone
      rw [← memoryIssue_eq, memoryIssueOnce, memoryIssue, hnone]
    cases kind with
    | connection => exact honce (h rfl _ _ _ rfl)
    | deviceTicket => exact honce (h rfl _ _ _ rfl)
    | relayTicket => exact memoryIssue_eq tokenHash claims ttl
    | proofChallenge => exact memoryIssue_eq tokenHash claims ttl

/-- What a store holds was issued under its hash. -/
lemma mem_issuedHashes {calls : List (ℤ × StoreOp Text C)} {tokenHash : Text}
    (h : (ExpiringStore.run second calls).1 tokenHash ≠ none) :
    tokenHash ∈ issuedHashes calls := by
  obtain ⟨t, ht⟩ := Option.ne_none_iff_exists'.mp h
  obtain ⟨between, rest, issuedAt, ttl, hhistory, -, -⟩ :=
    ExpiringStore.backed_run calls tokenHash t ht
  have hcalls : ∀ calls : List (ℤ × StoreOp Text C),
      (ExpiringStore.run second calls).2.map Served.op = calls.map Prod.snd := by
    intro calls
    induction calls with
    | nil => rfl
    | cons call past ih =>
      simp only [ExpiringStore.run, serveAll, List.map_cons]
      exact congrArg _ ih
  have hmem : StoreOp.issue tokenHash t.value ttl ∈ calls.map Prod.snd := by
    rw [← hcalls, hhistory]
    simp
  obtain ⟨call, hcall, hop⟩ := List.mem_map.mp hmem
  apply List.mem_filterMap.mpr
  exact ⟨call, hcall, by rw [hop]⟩

end

/-- The dictionaries that stand in for the server answer every run of calls as the server does,
as long as those that keep lapsed tokens are not asked to issue under one hash twice. -/
theorem memory_agrees (uuid : UuidForm) (calls : List TokenCall) (kind : TokenKind)
    (h : kind.issuesOnce = true →
      (issuedHashes (calls.filterMap (TokenCall.ofKind kind))).Nodup) :
    (serveAll (memoryServe kind) ExpiringStore.empty
        (calls.filterMap (TokenCall.ofKind kind))).2 =
      (redisRun uuid calls).2.filterMap (ServedToken.ofKind kind) := by
  rw [(redisRun_simulates uuid calls kind).2]
  unfold claimsRun
  generalize calls.filterMap (TokenCall.ofKind kind) = calls at h
  have hrun : serveAll (memoryServe kind) ExpiringStore.empty calls =
      ExpiringStore.run second calls := by
    induction calls with
    | nil => rfl
    | cons call past ih =>
      obtain ⟨now, op⟩ := call
      have hpast := ih fun honce => by
        have hnodup := h honce
        unfold issuedHashes at hnodup ⊢
        rw [List.filterMap_cons] at hnodup
        cases op with
        | issue tokenHash claims ttl => exact (List.nodup_cons.mp hnodup).2
        | redeem tokenHash => exact hnodup
      simp only [serveAll, ExpiringStore.run] at hpast ⊢
      rw [hpast, memoryServe_eq op]
      rintro honce tokenHash claims ttl rfl
      by_contra hheld
      have hfresh := h honce
      unfold issuedHashes at hfresh
      rw [List.filterMap_cons] at hfresh
      exact (List.nodup_cons.mp hfresh).1 (mem_issuedHashes hheld)
  rw [hrun]

/-- Identifiers as texts of one letter more. -/
def countedUuid : UuidForm where
  str id := List.replicate (id + 1) '0'
  parse text := some (text.length - 1)
  parse_str id := by simp
  str_ne_nil id := by simp

/-- A connection token is handed out once, and to no one after its end. -/
theorem memory_agrees_connection :
    let claims : PortForwardTokenClaims := ⟨1, 2, none⟩
    let calls : List TokenCall := [⟨.connection, 5, .redeem []⟩, ⟨.relayTicket, 4, .redeem []⟩,
      ⟨.connection, 3, .issue [] claims 1⟩]
    (serveAll (memoryServe .connection) ExpiringStore.empty
        (calls.filterMap (TokenCall.ofKind .connection))).2 =
      (redisRun countedUuid calls).2.filterMap (ServedToken.ofKind .connection) := by
  intro claims calls
  apply memory_agrees countedUuid calls .connection
  intro _
  simp [calls, issuedHashes, TokenCall.ofKind]

/-! ### Rate limits -/

/-- The times of the calls for one scope. -/
def callTimes (scope : Text) (calls : List RateCall) : List ℤ :=
  (calls.filter fun call => call.scope = scope).map RateCall.now

/-- The times of the calls for one scope that were allowed. -/
def allowedTimes (scope : Text) (answered : List (RateCall × Bool)) : List ℤ :=
  (answered.filter fun e => e.1.scope = scope ∧ e.2 = true).map fun e => e.1.now

section

variable {limit windowSeconds : ℕ} {calls : List RateCall} {scope : Text} {now : Instant}

lemma callTimes_cons (call : RateCall) :
    callTimes scope (call :: calls) =
      if call.scope = scope then call.now :: callTimes scope calls else callTimes scope calls := by
  unfold callTimes
  rw [List.filter_cons]
  by_cases h : call.scope = scope <;> simp [h]

lemma allowedTimes_cons (call : RateCall) (allowed : Bool) (answered : List (RateCall × Bool)) :
    allowedTimes scope ((call, allowed) :: answered) =
      if call.scope = scope ∧ allowed = true then call.now :: allowedTimes scope answered
      else allowedTimes scope answered := by
  unfold allowedTimes
  rw [List.filter_cons]
  by_cases h : call.scope = scope ∧ allowed = true <;> simp [h]

/-- The counter of a scope, with the end of its window. -/
def kept (counter : FixedWindow.Counter) : RedisCounter := ⟨counter.count, some counter.expiresAt⟩

lemma liveCounter_update (redis : RateRedis) (c : RedisCounter) :
    liveCounter (Function.update redis scope (some c)) now scope =
      if ∃ t ∈ c.expireAt, t ≤ now then none else some c := by
  rw [liveCounter, Function.update_self, Option.bind_some]

/-- The first call of a window. -/
lemma allow_opened {redis : RateRedis} (hwindow : 0 < windowSeconds)
    (h : liveCounter redis now scope = none) :
    allow redis now scope limit windowSeconds = (Function.update redis scope
      (some ⟨1, some (now + seconds windowSeconds)⟩), decide (1 ≤ limit)) := by
  have hne : windowSeconds ≠ 0 := by omega
  have hlive : liveCounter (Function.update redis scope (some ⟨1, none⟩)) now scope =
      some ⟨1, none⟩ := by
    rw [liveCounter_update, if_neg]
    rintro ⟨t, ht, -⟩
    cases ht
  simp only [allow, incr, h, Option.getD_none, zero_add, expireNx, hlive, Option.map_some,
    Option.getD_some, if_neg hne, Function.update_idem]
  norm_cast

/-- A transaction of the server is one hit. -/
lemma allow_eq {redis : RateRedis} {counter : Option FixedWindow.Counter}
    (hwindow : 0 < windowSeconds) (h : redis scope = counter.map kept) :
    allow redis now scope limit windowSeconds =
      (Function.update redis scope (some (kept (FixedWindow.hit (seconds windowSeconds) now
        counter))), decide ((FixedWindow.hit (seconds windowSeconds) now counter).count ≤ limit)) := by
  cases counter with
  | none => exact allow_opened hwindow (by simp [liveCounter, h])
  | some c =>
    by_cases hover : c.expiresAt ≤ now
    · rw [FixedWindow.hit, if_pos hover]
      exact allow_opened hwindow (by simp [liveCounter, h, kept, hover])
    · have hlive : liveCounter redis now scope = some (kept c) := by
        simp [liveCounter, h, kept, hover]
      rw [FixedWindow.hit, if_neg hover]
      have hcounted : liveCounter (incr redis now scope) now scope =
          some (kept { c with count := c.count + 1 }) := by
        simp [incr, hlive, liveCounter_update, kept, hover]
      simp only [allow, expireNx, hcounted, Option.map_some, Option.getD_some, kept]
      simp only [incr, hlive, Option.getD_some, kept]
      norm_cast

lemma memoryAllow_eq {rates : Text → Option (ℤ × Instant)} {counter : Option FixedWindow.Counter}
    (h : rates scope = counter.map fun c => (↑c.count, c.expiresAt)) :
    memoryAllow rates now scope limit windowSeconds =
      (Function.update rates scope (some (((FixedWindow.hit (seconds windowSeconds) now
        counter).count : ℤ), (FixedWindow.hit (seconds windowSeconds) now counter).expiresAt)),
        decide ((FixedWindow.hit (seconds windowSeconds) now counter).count ≤ limit)) := by
  cases counter with
  | none =>
    simp only [memoryAllow, h, FixedWindow.hit, Option.map_none, Option.getD_none, le_refl, if_true,
      zero_add]
    norm_cast
  | some c =>
    simp only [memoryAllow, h, FixedWindow.hit, Option.map_some, Option.getD_some]
    by_cases hover : c.expiresAt ≤ now
    · simp [hover]
    · simp only [hover, if_false]
      norm_cast

/-- The server keeps the counter of the calls of each scope. -/
lemma rateRun_counter (hwindow : 0 < windowSeconds) (scope : Text) :
    (rateRun limit windowSeconds calls).1 scope =
      (FixedWindow.counter (seconds windowSeconds) (callTimes scope calls)).map kept := by
  induction calls generalizing scope with
  | nil => rfl
  | cons call past ih =>
    simp only [rateRun, allow_eq hwindow (ih call.scope), callTimes_cons]
    by_cases h : call.scope = scope
    · subst h
      rw [Function.update_self, if_pos rfl]
      rfl
    · rw [Function.update_of_ne (Ne.symm h), if_neg h]
      exact ih scope

lemma memoryRateRun_counter (scope : Text) :
    (memoryRateRun limit windowSeconds calls).1 scope =
      (FixedWindow.counter (seconds windowSeconds) (callTimes scope calls)).map
        fun c => (↑c.count, c.expiresAt) := by
  induction calls generalizing scope with
  | nil => rfl
  | cons call past ih =>
    simp only [memoryRateRun, memoryAllow_eq (ih call.scope), callTimes_cons]
    by_cases h : call.scope = scope
    · subst h
      rw [Function.update_self, if_pos rfl]
      rfl
    · rw [Function.update_of_ne (Ne.symm h), if_neg h]
      exact ih scope

/-- A call is answered by the counter of its scope. -/
lemma rateRun_cons (hwindow : 0 < windowSeconds) (call : RateCall) :
    (rateRun limit windowSeconds (call :: calls)).2 =
      (call, decide ((FixedWindow.hit (seconds windowSeconds) call.now
        (FixedWindow.counter (seconds windowSeconds) (callTimes call.scope calls))).count ≤ limit)) ::
        (rateRun limit windowSeconds calls).2 := by
  simp only [rateRun, allow_eq hwindow (rateRun_counter hwindow call.scope)]

lemma memoryRateRun_eq (hwindow : 0 < windowSeconds) :
    (memoryRateRun limit windowSeconds calls).2 = (rateRun limit windowSeconds calls).2 := by
  induction calls with
  | nil => rfl
  | cons call past ih =>
    rw [rateRun_cons hwindow, ← ih]
    simp only [memoryRateRun, memoryAllow_eq (memoryRateRun_counter call.scope)]

lemma rateRun_calls : (rateRun limit windowSeconds calls).2.map Prod.fst = calls := by
  induction calls with
  | nil => rfl
  | cons call past ih =>
    simp only [rateRun, List.map_cons]
    exact congrArg _ ih

/-- The calls that the server allows are the hits that the counter admits. -/
lemma allowedTimes_rateRun (hwindow : 0 < windowSeconds) :
    allowedTimes scope (rateRun limit windowSeconds calls).2 =
      FixedWindow.admitted limit (seconds windowSeconds) (callTimes scope calls) := by
  induction calls with
  | nil => rfl
  | cons call past ih =>
    rw [rateRun_cons hwindow, allowedTimes_cons, callTimes_cons, ih]
    by_cases h : call.scope = scope
    · subst h
      rw [if_pos rfl, FixedWindow.admitted]
      simp only [true_and, decide_eq_true_eq]
    · rw [if_neg h, if_neg fun hs => h hs.1]

lemma callTimes_sorted (scope : Text)
    (hsorted : calls.Pairwise fun later earlier => earlier.now ≤ later.now) :
    (callTimes scope calls).Pairwise fun later earlier => earlier ≤ later :=
  (hsorted.filter _).map _ fun _ _ h => h

end

/-- While the clock does not go back, a scope is allowed at most twice the limit of calls in any
interval of one window, and is refused only when it made as many calls as the limit within the
last window. The dictionary of the tests answers as the server does. -/
theorem rate_limited (limit windowSeconds : ℕ) (calls : List RateCall)
    (hwindow : 0 < windowSeconds)
    (hsorted : calls.Pairwise fun later earlier => earlier.now ≤ later.now) :
    (∀ scope t, FixedWindow.between (allowedTimes scope (rateRun limit windowSeconds calls).2) t
      (t + seconds windowSeconds) ≤ 2 * limit) ∧
    (∀ later call earlier,
      (rateRun limit windowSeconds calls).2 = later ++ (call, false) :: earlier →
        limit ≤ (callTimes call.scope (earlier.map Prod.fst)).countP fun t =>
          call.now - seconds windowSeconds < t ∧ t ≤ call.now) ∧
    (memoryRateRun limit windowSeconds calls).2 = (rateRun limit windowSeconds calls).2 := by
  have hwidth : 0 < seconds windowSeconds := by
    unfold seconds
    omega
  refine ⟨fun scope t => ?_, ?_, memoryRateRun_eq hwindow⟩
  · rw [allowedTimes_rateRun hwindow]
    exact FixedWindow.admitted_between_le hwidth (callTimes_sorted scope hsorted) t
  · induction calls with
    | nil =>
      intro later call earlier h
      cases later <;> cases h
    | cons latest past ih =>
      intro later call earlier h
      rw [rateRun_cons hwindow] at h
      cases later with
      | cons e later => exact ih (List.pairwise_cons.mp hsorted).2 later call earlier (List.cons.inj h).2
      | nil =>
        obtain ⟨hcall, rfl⟩ := List.cons.inj h
        obtain ⟨rfl, hrefused⟩ := Prod.mk.inj hcall
        rw [rateRun_calls]
        apply FixedWindow.limit_le_of_refused hwidth
        · have htimes := callTimes_sorted latest.scope hsorted
          rwa [callTimes_cons, if_pos rfl] at htimes
        · simpa using hrefused

/-- A fourth call within a minute is refused under a limit of three. -/
theorem rate_limited_three :
    let calls : List RateCall := [⟨40, []⟩, ⟨30, []⟩, ⟨20, []⟩, ⟨10, []⟩]
    (rateRun 3 60 calls).2.map Prod.snd = [false, true, true, true] ∧
      (memoryRateRun 3 60 calls).2 = (rateRun 3 60 calls).2 := by
  intro calls
  have h := rate_limited 3 60 calls (by decide) (by simp [calls])
  exact ⟨by decide, h.2.2⟩

end AgentRemote.Tickets
