import AgentRemote.Library.Exchange
import AgentRemote.Text
import AgentRemote.Values

/-!
# The key exchange of the device relay

The two stores of `device_control/relay_store.py`: a Lua script over a Redis hash that expires, and
a Python record that is kept with its expiry.
-/

namespace AgentRemote.DeviceRelay
open Library

inductive DeviceRelayRole where
  | device
  | proxy
  deriving DecidableEq

namespace DeviceRelayRole

/-- `"proxy" if role == "device" else "device"`. -/
def peer : DeviceRelayRole → DeviceRelayRole
  | device => proxy
  | proxy => device

def text : DeviceRelayRole → Text
  | device => "device".toList
  | proxy => "proxy".toList

end DeviceRelayRole

structure DeviceRelayBinding where
  userId : Uuid
  deviceId : Uuid
  toolSessionId : Uuid
  deviceSessionId : Uuid
  nodeId : Uuid
  generation : ℤ

inductive ExchangeStatus where
  | waiting
  | ready
  | alreadyIssued
  deriving DecidableEq

/-- `DeviceRelayExchangeResult`. -/
structure ExchangeResult where
  status : ExchangeStatus
  peerSpkiSha256 : Option Text := none
  exporterContext : Option Text := none
  deriving DecidableEq

/-- The `ValueError` of a changed pin and the `RuntimeError` of an empty answer. -/
inductive ExchangeError where
  | spkiChanged
  | emptyResult
  deriving DecidableEq

/-- A call of `exchange` at the clock reading of the store. -/
structure ExchangeCall where
  binding : DeviceRelayBinding
  role : DeviceRelayRole
  spkiSha256 : Text
  exporterContext : Text
  ttl : ℤ
  now : Instant

/-- The session and the generation of a binding. -/
def DeviceRelayBinding.key (binding : DeviceRelayBinding) : Uuid × ℤ :=
  (binding.deviceSessionId, binding.generation)

/-! ### Redis -/

/-- A hash and the time it expires at. -/
structure RedisHash where
  fields : Text → Option Text
  expireAt : Option Instant

/-- The exchange keys of a Redis server: one for each session and generation. -/
abbrev RedisDb := Uuid × ℤ → Option RedisHash

namespace RedisDb

variable (db : RedisDb) (now : Instant) (key : Uuid × ℤ)

/-- The hash, unless it has expired. -/
def live : Option RedisHash :=
  match db key with
  | some hash => if ∃ t ∈ hash.expireAt, t ≤ now then none else some hash
  | none => none

/-- `HGET`. -/
def hget (field : Text) : Option Text := (db.live now key).bind fun hash => hash.fields field

/-- `HEXISTS`. -/
def hexists (field : Text) : Bool := (db.hget now key field).isSome

/-- `HSET`. A new hash does not expire. -/
def hset (field value : Text) : RedisDb :=
  let hash := (db.live now key).getD { fields := fun _ => none, expireAt := none }
  Function.update db key
    (some { hash with fields := Function.update hash.fields field (some value) })

/-- `EXPIRE`. A key whose time is over is deleted. -/
def expire (ttl : ℤ) : RedisDb :=
  match db.live now key with
  | none => db
  | some hash =>
    if ttl ≤ 0 then Function.update db key none
    else Function.update db key (some { hash with expireAt := some (now + 1000000 * ttl) })

end RedisDb

/-- The field of a role's pin. -/
def spkiField (role : Text) : Text := role ++ "_spki".toList

/-- The field that tells that a role got its material. -/
def issuedField (role : Text) : Text := role ++ "_issued".toList

def secretField : Text := "exporter_context".toList

/-- The script's registration of a pin. -/
def registerPin (db : RedisDb) (now : Instant) (key : Uuid × ℤ) (role pin : Text) (ttl : ℤ) :
    RedisDb :=
  (db.hset now key (spkiField role) pin).expire now key ttl

/-- The script's issue of the material to a role. -/
def issueTo (db : RedisDb) (now : Instant) (key : Uuid × ℤ) (role peerPin secret : Text) :
    RedisDb × List Text :=
  (db.hset now key (issuedField role) "1".toList, ["ready".toList, peerPin, secret])

/-- `_EXCHANGE_SCRIPT`: the database after it and the array it returns. -/
def exchangeScript (db : RedisDb) (now : Instant) (key : Uuid × ℤ) (role peer pin context : Text)
    (ttl : ℤ) : RedisDb × List Text :=
  if ∃ existing ∈ db.hget now key (spkiField role), existing ≠ pin then (db, ["mismatch".toList])
  else
    let db := registerPin db now key role pin ttl
    match db.hget now key (spkiField peer) with
    | none => (db, ["waiting".toList])
    | some peerPin =>
      if db.hexists now key (issuedField role) = true then (db, ["already_issued".toList])
      else
        match db.hget now key secretField with
        | some secret => issueTo db now key role peerPin secret
        | none => issueTo (db.hset now key secretField context) now key role peerPin context

/-- What `exchange` makes of the script's array. -/
def readValues : List Text → Except ExchangeError ExchangeResult
  | [] => .error .emptyResult
  | head :: values =>
    if head = "mismatch".toList then .error .spkiChanged
    else if head = "ready".toList then
      .ok { status := .ready, peerSpkiSha256 := values[0]?, exporterContext := values[1]? }
    else if head = "already_issued".toList then .ok { status := .alreadyIssued }
    else .ok { status := .waiting }

/-- `RedisDeviceRelayStore.exchange`. -/
def redisExchange (db : RedisDb) (call : ExchangeCall) :
    RedisDb × Except ExchangeError ExchangeResult :=
  let (db, values) := exchangeScript db call.now call.binding.key call.role.text
    call.role.peer.text call.spkiSha256 call.exporterContext call.ttl
  (db, readValues values)

/-! ### Memory -/

/-- A record of the in-memory store. -/
structure MemoryEntry where
  pins : DeviceRelayRole → Option Text
  secret : Text
  issued : DeviceRelayRole → Bool
  expiresAt : Instant

/-- The exchanges, by the kind-independent identity of a binding. -/
abbrev MemoryStore := Uuid × ℤ → Option MemoryEntry

/-- A record without a pin. -/
def MemoryEntry.fresh (call : ExchangeCall) : MemoryEntry where
  pins _ := none
  secret := call.exporterContext
  issued _ := false
  expiresAt := call.now + 1000000 * call.ttl

/-- The record that a call finds: a new one where none is stored or the stored one has expired. -/
def MemoryStore.current (store : MemoryStore) (call : ExchangeCall) : MemoryEntry :=
  match store call.binding.key with
  | none => .fresh call
  | some entry => if entry.expiresAt ≤ call.now then .fresh call else entry

/-- `InMemoryDeviceRelayStore.exchange`. -/
def memoryExchange (store : MemoryStore) (call : ExchangeCall) :
    MemoryStore × Except ExchangeError ExchangeResult :=
  let entry := store.current call
  if ∃ existing ∈ entry.pins call.role, existing ≠ call.spkiSha256 then
    (store, .error .spkiChanged)
  else
    let entry := { entry with
      pins := Function.update entry.pins call.role (some call.spkiSha256) }
    let stored := Function.update store call.binding.key (some entry)
    match entry.pins call.role.peer with
    | none => (stored, .ok { status := .waiting })
    | some peerPin =>
      if entry.issued call.role = true then (stored, .ok { status := .alreadyIssued })
      else
        let told := { entry with issued := Function.update entry.issued call.role true }
        (Function.update store call.binding.key (some told),
          .ok { status := .ready, peerSpkiSha256 := some peerPin
                exporterContext := some entry.secret })

/-! ### Runs -/

/-- The calls of a run, latest first, with their answers, and the store after it. -/
def answers {Store : Type}
    (exchange : Store → ExchangeCall → Store × Except ExchangeError ExchangeResult) (init : Store) :
    List ExchangeCall → Store × List (ExchangeCall × Except ExchangeError ExchangeResult)
  | [] => (init, [])
  | call :: past =>
    let (store, answered) := answers exchange init past
    let (store, result) := exchange store call
    (store, (call, result) :: answered)

def redisRun : List ExchangeCall →
    RedisDb × List (ExchangeCall × Except ExchangeError ExchangeResult) :=
  answers redisExchange fun _ => none

def memoryRun : List ExchangeCall →
    MemoryStore × List (ExchangeCall × Except ExchangeError ExchangeResult) :=
  answers memoryExchange fun _ => none

end AgentRemote.DeviceRelay
