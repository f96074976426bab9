import AgentRemote.DeviceRelay.Store
import AgentRemote.EgoBrowser.Records
import AgentRemote.Library.Expiring
import AgentRemote.Library.FixedWindow
import AgentRemote.Runtimes.Records

/-!
# Stores of one-time tokens

The connection tokens of port forwards, the relay tickets and proof challenges of the ego
browser and the relay tickets of device control. In production all of them are strings of one
Redis server that expire; tests keep them in dictionaries.
-/

namespace AgentRemote.Tickets
open Library Runtimes

/-! ### Claims -/

structure PortForwardTokenClaims where
  forwardId : Uuid
  deviceId : Uuid
  sshKeyId : Option Uuid

structure EgoBrowserRelayBinding where
  userId : Uuid
  egoBrowserDeviceId : Uuid
  toolSessionId : Uuid
  bindingId : Uuid
  nodeId : Uuid
  generation : ℤ

structure EgoBrowserRelayTicketClaims where
  binding : EgoBrowserRelayBinding
  role : EgoBrowserRelayRole

structure EgoBrowserProofChallengeClaims where
  userId : Uuid
  egoBrowserDeviceId : Uuid
  operation : Text
  generation : ℤ
  bindingId : Option Uuid

structure DeviceRelayTicketClaims where
  binding : DeviceRelay.DeviceRelayBinding
  role : DeviceRelay.DeviceRelayRole
  credentialId : Option Uuid

/-! ### Payloads -/

/-- `str(UUID)` and `UUID(text)`, where no identifier has an empty text. -/
structure UuidForm extends UuidText where
  str_ne_nil : ∀ id, str id ≠ []

/-- `str(n)`. -/
def decimal : ℤ → Text
  | .ofNat n => (Nat.repr n).toList
  | .negSucc n => '-' :: (Nat.repr (n + 1)).toList

/-- `int(text)` of decimal digits. -/
def parseDigits (text : Text) : Option ℕ :=
  if text ≠ [] ∧ text.all Char.isDigit then some (Nat.ofDigitChars 10 text 0) else none

/-- `int(text)`. -/
def parseDecimal : Text → Option ℤ
  | '-' :: digits => (parseDigits digits).map fun n => -n
  | digits => (parseDigits digits).map fun n => n

/-- `int(value)` of a decoded value. -/
def intOf : JsonValue → Option ℤ
  | .int n => some n
  | .bool b => some (if b then 1 else 0)
  | .string text => parseDecimal text
  | _ => none

/-- `bool(value)`. -/
def truthy : JsonValue → Bool
  | .null => false
  | .bool b => b
  | .int n => n ≠ 0
  | .float text => text ≠ "0.0".toList ∧ text ≠ "-0.0".toList
  | .string text => text ≠ []
  | .array items => !items.isEmpty
  | .object members => !members.isEmpty

section

variable (uuid : UuidForm) (values : JsonObject) (key : String)

/-- `values[key]`. -/
def member : Option JsonValue := values.get key.toList

/-- `UUID(values[key])`. -/
def uuidAt : Option Uuid := ((member values key).bind JsonValue.text?).bind uuid.parse

/-- `int(values[key])`. -/
def intAt : Option ℤ := (member values key).bind intOf

/-- `UUID(values[key]) if values.get(key) else None`. -/
def uuidIfSet : Option (Option Uuid) :=
  if ((member values key).any truthy) = true then (uuidAt uuid values key).map some else some none

/-- `None if values[key] is None else UUID(values[key])`. -/
def nullableUuid : Option (Option Uuid) :=
  match member values key with
  | none => none
  | some .null => some none
  | some _ => (uuidAt uuid values key).map some

/-- A text or `null`. -/
def optionalUuid (id : Option Uuid) : JsonValue := (id.map fun id => .string (uuid.str id)).getD .null

end

/-- The literals of the roles. -/
def relayRoleName : EgoBrowserRelayRole → String
  | .bridge => "bridge"
  | .wrapper => "wrapper"

def relayRole? (text : Text) : Option EgoBrowserRelayRole :=
  [.bridge, .wrapper].find? fun role => (relayRoleName role).toList = text

def deviceRoleName : DeviceRelay.DeviceRelayRole → String
  | .device => "device"
  | .proxy => "proxy"

def deviceRole? (text : Text) : Option DeviceRelay.DeviceRelayRole :=
  [.device, .proxy].find? fun role => (deviceRoleName role).toList = text

/-- An object whose names are literals. -/
def named (members : List (String × JsonValue)) : JsonObject :=
  members.map fun (name, value) => (name.toList, value)

/-- How a store keeps the claims of its tokens. -/
structure TokenFormat (C : Type) where
  keyPrefix : String
  encode : C → JsonObject
  decode : JsonObject → StoreAnswer C

section

variable (uuid : UuidForm)

def portForwardToken : TokenFormat PortForwardTokenClaims where
  keyPrefix := "agent-remote:port-forward-token:"
  encode claims :=
    named [("forward_id", .string (uuid.str claims.forwardId)),
      ("device_id", .string (uuid.str claims.deviceId)),
      ("ssh_key_id", optionalUuid uuid claims.sshKeyId)]
  decode values :=
    match (do
      let forwardId ← uuidAt uuid values "forward_id"
      let deviceId ← uuidAt uuid values "device_id"
      let sshKeyId ← uuidIfSet uuid values "ssh_key_id"
      return (⟨forwardId, deviceId, sshKeyId⟩ : PortForwardTokenClaims)) with
    | some claims => .redeemed (some claims)
    | none => .failed

/-- A payload that is not understood counts as no ticket. -/
def relayTicket : TokenFormat EgoBrowserRelayTicketClaims where
  keyPrefix := "agent-remote:ego-browser:relay-ticket:"
  encode claims :=
    named [("binding", .object <| named
        [("user_id", .string (uuid.str claims.binding.userId)),
          ("ego_browser_device_id", .string (uuid.str claims.binding.egoBrowserDeviceId)),
          ("tool_session_id", .string (uuid.str claims.binding.toolSessionId)),
          ("binding_id", .string (uuid.str claims.binding.bindingId)),
          ("node_id", .string (uuid.str claims.binding.nodeId)),
          ("generation", .string (decimal claims.binding.generation))]),
      ("role", .string (relayRoleName claims.role).toList)]
  decode values := .redeemed do
    let binding ← (member values "binding").bind JsonValue.object?
    let role ← ((member values "role").bind JsonValue.text?).bind relayRole?
    let userId ← uuidAt uuid binding "user_id"
    let deviceId ← uuidAt uuid binding "ego_browser_device_id"
    let toolSessionId ← uuidAt uuid binding "tool_session_id"
    let bindingId ← uuidAt uuid binding "binding_id"
    let nodeId ← uuidAt uuid binding "node_id"
    let generation ← intAt binding "generation"
    return ⟨⟨userId, deviceId, toolSessionId, bindingId, nodeId, generation⟩, role⟩

def proofChallenge : TokenFormat EgoBrowserProofChallengeClaims where
  keyPrefix := "agent-remote:ego-browser:pop-challenge:"
  encode claims :=
    named [("user_id", .string (uuid.str claims.userId)),
      ("ego_browser_device_id", .string (uuid.str claims.egoBrowserDeviceId)),
      ("operation", .string claims.operation),
      ("generation", .int claims.generation),
      ("binding_id", optionalUuid uuid claims.bindingId)]
  decode values := .redeemed do
    let bindingId ← nullableUuid uuid values "binding_id"
    let userId ← uuidAt uuid values "user_id"
    let deviceId ← uuidAt uuid values "ego_browser_device_id"
    let operation ← (member values "operation").bind JsonValue.text?
    let generation ← intAt values "generation"
    return ⟨userId, deviceId, operation, generation, bindingId⟩

def deviceTicket : TokenFormat DeviceRelayTicketClaims where
  keyPrefix := "agent-remote:device-relay-ticket:"
  encode claims :=
    named [("binding", .object <| named
        [("user_id", .string (uuid.str claims.binding.userId)),
          ("device_id", .string (uuid.str claims.binding.deviceId)),
          ("tool_session_id", .string (uuid.str claims.binding.toolSessionId)),
          ("device_session_id", .string (uuid.str claims.binding.deviceSessionId)),
          ("node_id", .string (uuid.str claims.binding.nodeId)),
          ("generation", .string (decimal claims.binding.generation))]),
      ("role", .string (deviceRoleName claims.role).toList),
      ("credential_id", optionalUuid uuid claims.credentialId)]
  decode values :=
    match (do
      let binding ← (member values "binding").bind JsonValue.object?
      let userId ← uuidAt uuid binding "user_id"
      let deviceId ← uuidAt uuid binding "device_id"
      let toolSessionId ← uuidAt uuid binding "tool_session_id"
      let deviceSessionId ← uuidAt uuid binding "device_session_id"
      let nodeId ← uuidAt uuid binding "node_id"
      let generation ← intAt binding "generation"
      let role ← ((member values "role").bind JsonValue.text?).bind deviceRole?
      let credentialId ← uuidIfSet uuid values "credential_id"
      return (⟨⟨userId, deviceId, toolSessionId, deviceSessionId, nodeId, generation⟩, role,
        credentialId⟩ : DeviceRelayTicketClaims)) with
    | some claims => .redeemed (some claims)
    | none => .failed

end

/-! ### Redis -/

/-- The string keys of the Redis server. -/
abbrev TokenRedis := ExpiringStore Text JsonObject

section

variable {C : Type} (format : TokenFormat C) (redis : TokenRedis) (now : Instant)

def TokenFormat.key (tokenHash : Text) : Text := format.keyPrefix.toList ++ tokenHash

/-- `SET key payload EX ttl NX`. -/
def issueToken (tokenHash : Text) (claims : C) (ttl : ℕ) : TokenRedis × StoreAnswer C :=
  match redis.putNew now (format.key tokenHash) (format.encode claims) (now + seconds ttl) with
  | (redis, true) => (redis, .issued)
  | (redis, false) => (redis, .collision)

/-- `GETDEL key`. -/
def consumeToken (tokenHash : Text) : TokenRedis × StoreAnswer C :=
  match redis.take now (format.key tokenHash) with
  | (redis, none) => (redis, .redeemed none)
  | (redis, some payload) => (redis, format.decode payload)

def redisServe : StoreOp Text C → TokenRedis × StoreAnswer C
  | .issue tokenHash claims ttl => issueToken format redis now tokenHash claims ttl
  | .redeem tokenHash => consumeToken format redis now tokenHash

end

/-- The four kinds of tokens that share the server. -/
inductive TokenKind where
  | connection
  | relayTicket
  | proofChallenge
  | deviceTicket
  deriving DecidableEq

abbrev TokenKind.Claims : TokenKind → Type
  | connection => PortForwardTokenClaims
  | relayTicket => EgoBrowserRelayTicketClaims
  | proofChallenge => EgoBrowserProofChallengeClaims
  | deviceTicket => DeviceRelayTicketClaims

/-- `RedisPortForwardTokenStore`, `RedisEgoBrowserRelayStore` and `RedisDeviceRelayStore`. -/
def TokenKind.format (uuid : UuidForm) : (kind : TokenKind) → TokenFormat kind.Claims
  | connection => portForwardToken uuid
  | relayTicket => Tickets.relayTicket uuid
  | proofChallenge => Tickets.proofChallenge uuid
  | deviceTicket => Tickets.deviceTicket uuid

/-- A call of one of the stores. -/
structure TokenCall where
  kind : TokenKind
  now : Instant
  op : StoreOp Text kind.Claims

/-- A call of one of the stores with its answer. -/
structure ServedToken where
  kind : TokenKind
  served : Served Text kind.Claims

/-- The calls of all processes, latest first. -/
def redisRun (uuid : UuidForm) : List TokenCall → TokenRedis × List ServedToken
  | [] => (ExpiringStore.empty, [])
  | call :: past =>
    let (redis, served) := redisRun uuid past
    let (redis, answer) := redisServe (call.kind.format uuid) redis call.now call.op
    (redis, ⟨call.kind, call.now, call.op, answer⟩ :: served)

/-! ### Memory -/

section

variable {C : Type} (store : ExpiringStore Text C) (now : Instant) (tokenHash : Text)

/-- `InMemoryEgoBrowserRelayStore.issue_ticket` and `issue_proof_challenge`. -/
def memoryIssue (claims : C) (ttl : ℕ) : ExpiringStore Text C × StoreAnswer C :=
  match store tokenHash with
  | some existing =>
    if now < existing.expiresAt then (store, .collision)
    else (Function.update store tokenHash (some ⟨claims, now + seconds ttl⟩), .issued)
  | none => (Function.update store tokenHash (some ⟨claims, now + seconds ttl⟩), .issued)

/-- `issue` of `InMemoryPortForwardTokenStore` and `issue_ticket` of `InMemoryDeviceRelayStore`:
a token whose time is over still stands in the way. -/
def memoryIssueOnce (claims : C) (ttl : ℕ) : ExpiringStore Text C × StoreAnswer C :=
  match store tokenHash with
  | some _ => (store, .collision)
  | none => (Function.update store tokenHash (some ⟨claims, now + seconds ttl⟩), .issued)

/-- `dict.pop` and the check of the deadline. -/
def memoryConsume : ExpiringStore Text C × StoreAnswer C :=
  (Function.update store tokenHash none, .redeemed <|
    match store tokenHash with
    | some token => if token.expiresAt ≤ now then none else some token.value
    | none => none)

def memoryServe : (kind : TokenKind) → ExpiringStore Text C → Instant → StoreOp Text C →
    ExpiringStore Text C × StoreAnswer C
  | .relayTicket, store, now, .issue tokenHash claims ttl
  | .proofChallenge, store, now, .issue tokenHash claims ttl =>
    memoryIssue store now tokenHash claims ttl
  | .connection, store, now, .issue tokenHash claims ttl
  | .deviceTicket, store, now, .issue tokenHash claims ttl =>
    memoryIssueOnce store now tokenHash claims ttl
  | _, store, now, .redeem tokenHash => memoryConsume store now tokenHash

end

/-! ### Rate limits -/

/-- A counter of Redis, and the time it expires at. -/
structure RedisCounter where
  count : ℤ
  expireAt : Option Instant

/-- The rate keys, by scope. -/
abbrev RateRedis := Text → Option RedisCounter

section

variable (redis : RateRedis) (now : Instant) (scope : Text)

/-- The counter, unless it has expired. -/
def liveCounter : Option RedisCounter :=
  (redis scope).bind fun c => if ∃ t ∈ c.expireAt, t ≤ now then none else some c

/-- `INCR`. A new counter does not expire. -/
def incr : RateRedis :=
  let counter := (liveCounter redis now scope).getD ⟨0, none⟩
  Function.update redis scope (some { counter with count := counter.count + 1 })

/-- `EXPIRE key window NX`. -/
def expireNx (windowSeconds : ℕ) : RateRedis :=
  match liveCounter redis now scope with
  | some ⟨count, none⟩ =>
    if windowSeconds = 0 then Function.update redis scope none
    else Function.update redis scope (some ⟨count, some (now + seconds windowSeconds)⟩)
  | _ => redis

/-- `RedisPortForwardTokenStore.allow`: one transaction. -/
def allow (limit windowSeconds : ℕ) : RateRedis × Bool :=
  let counted := incr redis now scope
  let value := ((liveCounter counted now scope).map RedisCounter.count).getD 0
  (expireNx counted now scope windowSeconds, value ≤ limit)

end

/-- `InMemoryPortForwardTokenStore.allow`. -/
def memoryAllow (rates : Text → Option (ℤ × Instant)) (now : Instant) (scope : Text)
    (limit windowSeconds : ℕ) : (Text → Option (ℤ × Instant)) × Bool :=
  let (count, expiresAt) := (rates scope).getD (0, now)
  let (count, expiresAt) :=
    if expiresAt ≤ now then (0, now + seconds windowSeconds) else (count, expiresAt)
  (Function.update rates scope (some (count + 1, expiresAt)), count + 1 ≤ limit)

/-- A call of `allow`. -/
structure RateCall where
  now : Instant
  scope : Text

/-- The answers to calls with one limit and one window, latest first, and the counters after. -/
def rateRun (limit windowSeconds : ℕ) : List RateCall → RateRedis × List (RateCall × Bool)
  | [] => (fun _ => none, [])
  | call :: past =>
    let (redis, answered) := rateRun limit windowSeconds past
    let (redis, allowed) := allow redis call.now call.scope limit windowSeconds
    (redis, (call, allowed) :: answered)

def memoryRateRun (limit windowSeconds : ℕ) :
    List RateCall → (Text → Option (ℤ × Instant)) × List (RateCall × Bool)
  | [] => (fun _ => none, [])
  | call :: past =>
    let (rates, answered) := memoryRateRun limit windowSeconds past
    let (rates, allowed) := memoryAllow rates call.now call.scope limit windowSeconds
    (rates, (call, allowed) :: answered)

end AgentRemote.Tickets
