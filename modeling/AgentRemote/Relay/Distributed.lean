import AgentRemote.EgoBrowser.Records
import AgentRemote.Library.Machine
import AgentRemote.Relay.Envelope

/-!
# Relaying over several processes

The ends of one binding generation may connect at different processes. Each end registers its
presence in Redis, polls for the other and then publishes its frames to the channel of the end it
found. A call of `_connect_distributed` takes turns with everything else at each command it awaits,
and the steps below are what runs between two such points.
-/

namespace AgentRemote.Relay.Distributed
open Library

/-- The other role of a pair. -/
def peerRole : EgoBrowserRelayRole → EgoBrowserRelayRole
  | .bridge => .wrapper
  | .wrapper => .bridge

/-! ### Redis -/

/-- `_DISTRIBUTED_PRESENCE_TTL_SECONDS`. -/
def presenceTtl : ℚ := 5

/-- `_DISTRIBUTED_REVOCATION_TTL_SECONDS`. -/
def revocationTtl : ℚ := 1200

structure Presence where
  endpointId : ℕ
  expiresAt : ℚ

/-- The keys of one generation: the presence of each role and the revocation marker. -/
structure Redis where
  now : ℚ
  presences : EgoBrowserRelayRole → Option Presence
  revokedUntil : Option ℚ

namespace Redis

variable (redis : Redis)

/-- `EXISTS` of the revocation key. -/
def revoked : Bool := redis.revokedUntil.any fun t => redis.now < t

/-- `GET` of a presence key. -/
def presence (role : EgoBrowserRelayRole) : Option ℕ :=
  ((redis.presences role).filter fun p => redis.now < p.expiresAt).map (·.endpointId)

/-- `SET` of a presence key with an expiry. -/
def setPresence (role : EgoBrowserRelayRole) (endpointId : ℕ) : Redis :=
  { redis with
    presences := Function.update redis.presences role
      (some ⟨endpointId, redis.now + presenceTtl⟩) }

/-- `_REGISTER_PRESENCE`. -/
def registerPresence (role : EgoBrowserRelayRole) (endpointId : ℕ) : ℤ × Redis :=
  if redis.revoked then (-1, redis)
  else if redis.presence role = none then (1, redis.setPresence role endpointId)
  else (0, redis)

/-- `_REFRESH_PRESENCE`. -/
def refreshPresence (role : EgoBrowserRelayRole) (endpointId : ℕ) : Bool × Redis :=
  if redis.presence role = some endpointId then (true, redis.setPresence role endpointId)
  else (false, redis)

/-- `_DELETE_PRESENCE`. -/
def deletePresence (role : EgoBrowserRelayRole) (endpointId : ℕ) : Redis :=
  if redis.presence role = some endpointId then
    { redis with presences := Function.update redis.presences role none }
  else redis

/-- `_distributed_peer_state`. -/
def distributedPeerState (role : EgoBrowserRelayRole) : Bool × Option ℕ :=
  (redis.revoked, redis.presence role)

/-- What `EgoBrowserRevocationBus.publish` sets. -/
def setRevoked : Redis := { redis with revokedUntil := some (redis.now + revocationTtl) }

end Redis

/-! ### Packets -/

def distributedFrame : ℕ := 1

def distributedClose : ℕ := 2

/-- A message on a channel. Its sender is not part of it, and nothing reads it. -/
structure Message where
  sender : ℕ
  payload : List ℕ

def framePayload (data : List ℕ) : List ℕ := distributedFrame :: data

/-- The close code in two bytes. -/
def closePayload (code : ℕ) : List ℕ := [distributedClose, code / 256 % 256, code % 256]

/-- What `_redis_to_websocket` makes of a payload. -/
inductive Reading where
  | sends (frame : List ℕ)
  | returns (code : ℕ)

def readPayload (maximumFrameBytes : ℕ) : List ℕ → Reading
  | 1 :: frame =>
    if frame = [] ∨ maximumFrameBytes < frame.length then .returns 1011 else .sends frame
  | [2, high, low] =>
    let closeCode := 256 * high + low
    .returns (if 1000 ≤ closeCode ∧ closeCode ≤ 4999 then closeCode else 1011)
  | _ => .returns 1011

/-! ### Endpoints -/

/-- The settings of the hubs, the stack that their parser has room for, and the check of a frame
with its envelope that the handshake gives them. -/
structure HubSettings where
  maximumFrameBytes : ℕ
  pairTimeout : ℚ
  maximumConnection : ℚ
  depth : ℕ
  validator : List ℕ → Envelope.Members → Bool

/-- How a task of `_serve_distributed` is done. -/
inductive TaskResult where
  | returned (code : ℕ)
  | raised
  deriving DecidableEq

def TaskResult.code : TaskResult → ℕ
  | returned code => code
  | raised => 1011

/-- The tasks of `_serve_distributed`, with the results of those that are done. -/
structure Serve where
  deadline : ℚ
  nextRefresh : ℚ
  refreshing : Bool
  websocketToRedis : Option TaskResult
  redisToWebsocket : Option TaskResult
  keepDistributedPair : Option TaskResult
  waitForShutdown : Option TaskResult

/-- The tasks as they start. -/
def Serve.start (settings : HubSettings) (now : ℚ) : Serve :=
  ⟨now + settings.maximumConnection, now + presenceTtl / 3, false, none, none, none, none⟩

/-- Where a call of `_connect_distributed` stands. A waiting call is about to look whether it still
may wait, and a polling one to look for its peer. -/
inductive Stage where
  | subscribing
  | registering
  | waiting (deadline nextRefresh : ℚ)
  | polling (deadline nextRefresh : ℚ)
  | serving (peer : ℕ) (serve : Serve)
  | parting (peer code : ℕ)
  | withdrawing (code : ℕ)
  | leaving (code : ℕ)
  | removing (code : ℕ)
  | closed (code : ℕ)

/-- `_DistributedEndpoint`, with the messages that its subscription has not been asked for. -/
structure Endpoint where
  process : ℕ
  role : EgoBrowserRelayRole
  stage : Stage
  subscribed : Bool
  messages : List Message
  shutdown : Bool
  closeCode : ℕ

/-- The peer of an endpoint that serves. -/
def Endpoint.peer? (endpoint : Endpoint) : Option ℕ :=
  match endpoint.stage with
  | .serving peer _ => some peer
  | _ => none

/-- A frame as it was written to the socket of an endpoint, with the peer the endpoint had then. -/
structure Written where
  endpointId : ℕ
  peer : ℕ
  sender : ℕ
  frame : List ℕ
  deriving DecidableEq

/-- What the hub of a process holds of the generation. -/
structure ProcessHub where
  endpoints : EgoBrowserRelayRole → Option ℕ
  closedGeneration : Bool
  closing : Bool

structure World where
  redis : Redis
  hubs : ℕ → ProcessHub
  endpoints : ℕ → Option Endpoint
  written : List Written

/-- What a client sends. -/
inductive ClientMessage where
  | disconnect
  | text
  | bytes (data : List ℕ)

inductive Event where
  | elapse (time : ℚ)
  | connect (endpointId process : ℕ) (role : EgoBrowserRelayRole)
  | subscribe (endpointId : ℕ)
  | register (endpointId : ℕ)
  | wait (endpointId : ℕ)
  | poll (endpointId : ℕ)
  | forward (endpointId : ℕ) (message : ClientMessage) (paced : Bool)
  | deliver (endpointId : ℕ) (socketOpen : Bool)
  | keep (endpointId : ℕ)
  | refresh (endpointId : ℕ)
  | noticeShutdown (endpointId : ℕ)
  | endServe (endpointId : ℕ)
  | publishClose (endpointId : ℕ)
  | withdraw (endpointId : ℕ)
  | unsubscribe (endpointId : ℕ)
  | remove (endpointId : ℕ)
  | redisError (endpointId : ℕ)
  | setRevoked
  | closeBinding (process code : ℕ)
  | close (process : ℕ)

namespace World

def empty : World where
  redis := ⟨0, fun _ => none, none⟩
  hubs _ := ⟨fun _ => none, false, false⟩
  endpoints _ := none
  written := []

variable (settings : HubSettings) (w : World) (id : ℕ)

def put (endpoint : Endpoint) : World :=
  { w with endpoints := Function.update w.endpoints id (some endpoint) }

def setHub (process : ℕ) (hub : ProcessHub) : World :=
  { w with hubs := Function.update w.hubs process hub }

/-- `redis.publish` to the channel of an endpoint, with the number of its subscribers. -/
def publish (sender : ℕ) (payload : List ℕ) : ℕ × World :=
  match w.endpoints id with
  | some endpoint =>
    if endpoint.subscribed then
      (1, w.put id { endpoint with messages := endpoint.messages ++ [⟨sender, payload⟩] })
    else (0, w)
  | none => (0, w)

/-- The critical section of `_connect_distributed`, under an id that was not given before. -/
def connect (process : ℕ) (role : EgoBrowserRelayRole) : Option World :=
  let hub := w.hubs process
  let endpoint : Endpoint := ⟨process, role, .subscribing, false, [], false, 1008⟩
  if (w.endpoints id).isSome then none
  else if hub.closing ∨ hub.closedGeneration ∨ (hub.endpoints role).isSome then
    some (w.put id { endpoint with stage := .closed 1008 })
  else
    some ((w.setHub process
      { hub with endpoints := Function.update hub.endpoints role (some id) }).put id endpoint)

/-- The call subscribes to its channel, and looks whether it was closed meanwhile. -/
def subscribe : Option World := do
  let endpoint ← w.endpoints id
  match endpoint.stage with
  | .subscribing =>
    let stage : Stage := if endpoint.shutdown then .leaving endpoint.closeCode else .registering
    some (w.put id { endpoint with subscribed := true, stage := stage })
  | _ => none

/-- `_register_presence`. A call that is registered begins to wait for its peer. -/
def register : Option World := do
  let endpoint ← w.endpoints id
  match endpoint.stage with
  | .registering =>
    let (registration, redis) := w.redis.registerPresence endpoint.role id
    let stage : Stage :=
      if registration ≠ 1 then .leaving 1008
      else .waiting (w.redis.now + settings.pairTimeout) (w.redis.now + presenceTtl / 3)
    some ({ w with redis := redis }.put id { endpoint with stage := stage })
  | _ => none

/-- The loop of `_wait_for_distributed_peer` up to its poll. -/
def wait : Option World := do
  let endpoint ← w.endpoints id
  match endpoint.stage with
  | .waiting deadline nextRefresh =>
    let now := w.redis.now
    if endpoint.shutdown ∨ deadline ≤ now then
      some (w.put id { endpoint with stage := .withdrawing endpoint.closeCode })
    else if nextRefresh ≤ now then
      let (refreshed, redis) := w.redis.refreshPresence endpoint.role id
      let stage : Stage :=
        if refreshed then .polling deadline (now + presenceTtl / 3) else .withdrawing 1011
      some ({ w with redis := redis }.put id { endpoint with stage := stage })
    else
      some (w.put id { endpoint with stage := .polling deadline nextRefresh })
  | _ => none

/-- The peer that the poll of a call finds. -/
def finds : Option ℕ := do
  let endpoint ← w.endpoints id
  match endpoint.stage with
  | .polling _ _ =>
    if w.redis.revoked then none else w.redis.presence (peerRole endpoint.role)
  | _ => none

/-- The poll of `_wait_for_distributed_peer`, and the start of `_serve_distributed`. -/
def poll : Option World := do
  let endpoint ← w.endpoints id
  match endpoint.stage with
  | .polling deadline nextRefresh =>
    let (revoked, peer) := w.redis.distributedPeerState (peerRole endpoint.role)
    if revoked then
      some (w.put id { endpoint with closeCode := 1008, stage := .withdrawing 1008 })
    else
      match peer with
      | none => some (w.put id { endpoint with stage := .waiting deadline nextRefresh })
      | some peer =>
        some (w.put id { endpoint with stage := .serving peer (.start settings w.redis.now) })
  | _ => none

/-- The frame in a message of the client, or how `_websocket_to_redis` ends. The rate limit is left
open. -/
def frameOf (paced : Bool) : ClientMessage → Except TaskResult (List ℕ)
  | .disconnect => throw (.returned 1011)
  | .text => throw (.returned 1009)
  | .bytes data =>
    if settings.maximumFrameBytes < data.length then throw (.returned 1009)
    else
      match Envelope.parseOuterEnvelope settings.depth settings.maximumFrameBytes data with
      | .error (.valueError _) => throw (.returned 1008)
      | .error _ => throw .raised
      | .ok envelope =>
        if settings.validator data envelope = false then throw (.returned 1008)
        else if paced = false then throw (.returned 1008)
        else pure data

/-- One message of the client in `_websocket_to_redis`. -/
def forward (message : ClientMessage) (paced : Bool) : Option World := do
  let endpoint ← w.endpoints id
  match endpoint.stage with
  | .serving peer serve =>
    let ends (result : TaskResult) :=
      w.put id { endpoint with
        stage := .serving peer { serve with websocketToRedis := some result } }
    if serve.websocketToRedis.isSome then none
    else
      match frameOf settings paced message with
      | .error result => some (ends result)
      | .ok data =>
        let (subscribers, published) := w.publish peer id (framePayload data)
        some (if subscribers < 1 then ends (.returned 1011) else published)
  | _ => none

/-- One message of the channel in `_redis_to_websocket`. A socket that is closed ends it. -/
def deliver (socketOpen : Bool) : Option World := do
  let endpoint ← w.endpoints id
  match endpoint.stage, endpoint.messages with
  | .serving peer serve, message :: rest =>
    let returns (code : ℕ) :=
      w.put id { endpoint with
        messages := rest
        stage := .serving peer { serve with redisToWebsocket := some (.returned code) } }
    if serve.redisToWebsocket.isSome then none
    else
      match readPayload settings.maximumFrameBytes message.payload with
      | .returns code => some (returns code)
      | .sends frame =>
        if socketOpen then
          some { w.put id { endpoint with messages := rest } with
            written := ⟨id, peer, message.sender, frame⟩ :: w.written }
        else some (returns 1011)
  | _, _ => none

/-- The poll of `_keep_distributed_pair`, after which a refresh may be due. -/
def keep : Option World := do
  let endpoint ← w.endpoints id
  match endpoint.stage with
  | .serving peer serve =>
    let returns (code : ℕ) :=
      { endpoint with
        stage := .serving peer { serve with keepDistributedPair := some (.returned code) } }
    if serve.keepDistributedPair.isSome ∨ serve.refreshing then none
    else if endpoint.shutdown then some (w.put id (returns endpoint.closeCode))
    else
      let (revoked, current) := w.redis.distributedPeerState (peerRole endpoint.role)
      if revoked then some (w.put id (returns 1008))
      else if current ≠ some peer then some (w.put id (returns 1011))
      else if serve.nextRefresh ≤ w.redis.now then
        let serve := { serve with
          refreshing := true, nextRefresh := w.redis.now + presenceTtl / 3 }
        some (w.put id { endpoint with stage := .serving peer serve })
      else some w
  | _ => none

/-- The refresh of `_keep_distributed_pair`. -/
def refresh : Option World := do
  let endpoint ← w.endpoints id
  match endpoint.stage with
  | .serving peer serve =>
    if serve.refreshing then
      let (refreshed, redis) := w.redis.refreshPresence endpoint.role id
      let result := if refreshed then none else some (.returned 1011)
      let serve := { serve with refreshing := false, keepDistributedPair := result }
      some ({ w with redis := redis }.put id { endpoint with stage := .serving peer serve })
    else none
  | _ => none

/-- `_wait_for_shutdown`. -/
def noticeShutdown : Option World := do
  let endpoint ← w.endpoints id
  match endpoint.stage with
  | .serving peer serve =>
    if endpoint.shutdown then
      let serve := { serve with waitForShutdown := some (.returned endpoint.closeCode) }
      some (w.put id { endpoint with stage := .serving peer serve })
    else none
  | _ => none

/-- The close code by the tasks that are done: an error of one of them, the code of the shutdown,
or a code that is preferred. -/
def closeCodeOf (endpoint : Endpoint) (done : List TaskResult) : ℕ :=
  let closeCodes := done.map TaskResult.code
  if .raised ∈ done then 1011
  else if endpoint.shutdown then endpoint.closeCode
  else (([1009, 1008, 1011].find? (· ∈ closeCodes)).or closeCodes.head?).getD 1011

/-- `_serve_distributed` returns, as a task is done or the time is over. -/
def endServe : Option World := do
  let endpoint ← w.endpoints id
  match endpoint.stage with
  | .serving peer serve =>
    let done := [serve.websocketToRedis, serve.redisToWebsocket, serve.keepDistributedPair,
      serve.waitForShutdown].reduceOption
    if done = [] then
      if serve.deadline ≤ w.redis.now then
        some (w.put id { endpoint with stage := .parting peer 1008 })
      else none
    else some (w.put id { endpoint with stage := .parting peer (closeCodeOf endpoint done) })
  | _ => none

/-- The call publishes its close code to its peer. -/
def publishClose : Option World := do
  let endpoint ← w.endpoints id
  match endpoint.stage with
  | .parting peer code =>
    let parted := w.put id { endpoint with stage := .withdrawing code }
    some (parted.publish peer id (closePayload code)).2
  | _ => none

/-- The call deletes its presence. -/
def withdraw : Option World := do
  let endpoint ← w.endpoints id
  match endpoint.stage with
  | .withdrawing code =>
    some ({ w with redis := w.redis.deletePresence endpoint.role id }.put id
      { endpoint with stage := .leaving code })
  | _ => none

/-- The call unsubscribes and closes its socket. -/
def unsubscribe : Option World := do
  let endpoint ← w.endpoints id
  match endpoint.stage with
  | .leaving code =>
    some (w.put id { endpoint with subscribed := false, messages := [], stage := .removing code })
  | _ => none

/-- `_remove_distributed`. -/
def remove : Option World := do
  let endpoint ← w.endpoints id
  match endpoint.stage with
  | .removing code =>
    let hub := w.hubs endpoint.process
    let left := w.put id { endpoint with stage := .closed code }
    some (if hub.endpoints endpoint.role = some id then
      left.setHub endpoint.process
        { hub with endpoints := Function.update hub.endpoints endpoint.role none }
      else left)
  | _ => none

/-- A command of the call fails and is not executed. Once the call ends it does not care. -/
def redisError : Option World := do
  let endpoint ← w.endpoints id
  let goes (stage : Stage) := some (w.put id { endpoint with stage := stage })
  match endpoint.stage with
  | .subscribing | .registering => goes (.leaving 1011)
  | .waiting _ _ | .polling _ _ => goes (.withdrawing 1011)
  | .serving peer _ => goes (.parting peer 1011)
  | .parting _ code => goes (.withdrawing code)
  | .withdrawing code => goes (.leaving code)
  | _ => none

/-- The critical section of `close_binding`. -/
def closeBinding (process code : ℕ) : World where
  redis := w.redis
  hubs := Function.update w.hubs process
    { w.hubs process with endpoints := fun _ => none, closedGeneration := true }
  endpoints id := (w.endpoints id).map fun endpoint =>
    if (w.hubs process).endpoints endpoint.role = some id then
      { endpoint with closeCode := code, shutdown := true }
    else endpoint
  written := w.written

def step : World → Event → Option World
  | w, .elapse time =>
    if 0 ≤ time then some { w with redis := { w.redis with now := w.redis.now + time } } else none
  | w, .connect id process role => w.connect id process role
  | w, .subscribe id => w.subscribe id
  | w, .register id => w.register settings id
  | w, .wait id => w.wait id
  | w, .poll id => w.poll settings id
  | w, .forward id message paced => w.forward settings id message paced
  | w, .deliver id socketOpen => w.deliver settings id socketOpen
  | w, .keep id => w.keep id
  | w, .refresh id => w.refresh id
  | w, .noticeShutdown id => w.noticeShutdown id
  | w, .endServe id => w.endServe id
  | w, .publishClose id => w.publishClose id
  | w, .withdraw id => w.withdraw id
  | w, .unsubscribe id => w.unsubscribe id
  | w, .remove id => w.remove id
  | w, .redisError id => w.redisError id
  | w, .setRevoked => some { w with redis := w.redis.setRevoked }
  | w, .closeBinding process code => some (w.closeBinding process code)
  | w, .close process => some (w.setHub process { w.hubs process with closing := true })

end World

/-- The processes of a server as they run. -/
def relay (settings : HubSettings) : Machine World Event := ⟨.empty, World.step settings⟩

end AgentRemote.Relay.Distributed
