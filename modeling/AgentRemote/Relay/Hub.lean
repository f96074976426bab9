import AgentRemote.Library.Machine
import AgentRemote.Values

/-!
# Relay hubs

A hub pairs the two ends of a relayed connection and forwards their frames. Each end is a call of
`connect` that runs until its end leaves. The calls and `close_binding` take turns wherever they
await, and the steps below are what runs between two such points.
-/

namespace AgentRemote.Relay
open Library

/-- The device and browser hubs, which differ in what they remember and in how a call ends. -/
inductive HubKind where
  | deviceRelay
  | egoBrowserRelay
  deriving DecidableEq

/-- The ends of a relay. The browser hub calls them bridge and wrapper. -/
inductive RelayRole where
  | device
  | proxy
  deriving DecidableEq

/-- The other role of a pair. -/
def RelayRole.peer : RelayRole → RelayRole
  | device => proxy
  | proxy => device

structure RelayBinding where
  bindingId : Uuid
  generation : ℕ
  deriving DecidableEq

/-- The future on which a call waits for the socket of its peer. Sockets are named by the calls
that serve them. -/
inductive PeerFuture where
  | pending
  | socket (call : ℕ)
  | bindingClosed
  deriving DecidableEq

/-- Where a call of `connect` stands. A call that ends still has its sockets to close, and one
that leaves its endpoint to remove. Either may be on its way to raise an error. -/
inductive Stage where
  | accepted
  | waiting
  | forwarding (peer : ℕ)
  | ending (peer : Option ℕ) (raises : Bool)
  | leaving (raises : Bool)
  | returned
  | raised
  deriving DecidableEq

/-- `finished` after the last step of a call. -/
def Stage.done (raises : Bool) : Stage := if raises then raised else returned

/-- The call has not ended. -/
def Stage.running : Stage → Bool
  | returned | raised => false
  | _ => true

/-- A call of `connect` with the endpoint it makes. A socket is open until the server closes it. -/
structure Connection where
  key : RelayBinding
  role : RelayRole
  stage : Stage
  peer : PeerFuture
  socketOpen : Bool

/-- The state of a hub in local mode: its calls, the endpoint of each role of each binding, and the
sockets that running calls of `close_binding` are closing. -/
structure Hub where
  connections : ℕ → Option Connection
  pairs : RelayBinding → RelayRole → Option ℕ
  closedGenerations : List RelayBinding
  shuttingDown : Bool
  closing : List (RelayBinding × List ℕ)

namespace Hub

def empty : Hub := ⟨fun _ => none, fun _ _ => none, [], false, []⟩

variable (kind : HubKind) (hub : Hub)

def put (call : ℕ) (c : Connection) : Hub :=
  { hub with connections := Function.update hub.connections call (some c) }

/-- `pair[role] = endpoint`, or its deletion. -/
def setPair (key : RelayBinding) (role : RelayRole) (endpoint : Option ℕ) : Hub :=
  { hub with
    pairs := Function.update hub.pairs key (Function.update (hub.pairs key) role endpoint) }

/-- The server closes the socket of a call. -/
def closeSocket (call : ℕ) : Hub :=
  { hub with
    connections := Function.update hub.connections call
      ((hub.connections call).map fun c => { c with socketOpen := false }) }

/-- Whether a call finds the place of its role taken, or its binding closed at the browser hub. -/
def refuses (key : RelayBinding) (role : RelayRole) : Bool :=
  (hub.pairs key role).isSome ∨
    kind = .egoBrowserRelay ∧ (hub.shuttingDown ∨ key ∈ hub.closedGenerations)

/-- The call in a stage. -/
def callAt (call : ℕ) (stage : Stage) : Option Connection :=
  (hub.connections call).filter (·.stage = stage)

def accept (call : ℕ) (key : RelayBinding) (role : RelayRole) : Option Hub :=
  if (hub.connections call).isSome then none
  else some (hub.put call ⟨key, role, .accepted, .pending, true⟩)

/-- The critical section of `connect`. A refused call closes its socket, which may raise. -/
def connect (call : ℕ) (closeRaises : Bool) : Option Hub := do
  let c ← hub.callAt call .accepted
  if refuses kind hub c.key c.role then
    some (hub.put call { c with stage := .done closeRaises, socketOpen := false })
  else
    match hub.pairs c.key c.role.peer with
    | none => some ((hub.setPair c.key c.role (some call)).put call { c with stage := .waiting })
    | some other => do
      let d ← hub.connections other
      let registered := hub.setPair c.key c.role (some call)
      if d.peer = .pending then
        some ((registered.put call { c with stage := .waiting, peer := .socket other }).put other
          { d with peer := .socket call })
      else
        -- `set_result` of a future that is settled raises, with the endpoint in the table
        some (registered.put call { c with stage := .raised, peer := .socket other })

/-- The call finds its future settled. -/
def wake (call : ℕ) : Option Hub := do
  let c ← hub.callAt call .waiting
  match c.peer with
  | .pending => none
  | .socket other => some (hub.put call { c with stage := .forwarding other })
  | .bindingClosed => some (hub.put call { c with stage := .ending none false })

/-- The call waits for its peer no longer. -/
def timeOut (call : ℕ) : Option Hub := do
  let c ← hub.callAt call .waiting
  some (hub.put call { c with stage := .ending none false })

/-- The socket that a frame of the call reaches. -/
def delivers (call : ℕ) : Option ℕ := do
  let c ← hub.connections call
  match c.stage with
  | .forwarding other => ((hub.connections other).filter (·.socketOpen)).map fun _ => other
  | _ => none

/-- The call forwards a frame, or finds the socket of its peer closed. -/
def forward (call : ℕ) : Option Hub := do
  let c ← hub.connections call
  match c.stage with
  | .forwarding other =>
    if (hub.delivers call).isSome then some hub
    else some (hub.put call { c with stage := .ending (some other) false })
  | _ => none

/-- The call forwards no longer: the client has gone, sent what it may not send, or has been
connected for long enough. A socket that is closed for it may raise. -/
def finish (call : ℕ) (closeRaises : Bool) : Option Hub := do
  let c ← hub.connections call
  match c.stage with
  | .forwarding other => some (hub.put call { c with stage := .ending (some other) closeRaises })
  | _ => none

/-- The call closes its sockets. Alone it lets an error of the only socket pass, after which the
browser hub does not remove the endpoint. -/
def endCall (call : ℕ) (closeRaises : Bool) : Option Hub := do
  let c ← hub.connections call
  match c.stage with
  | .ending (some other) raises =>
    some ((hub.put call { c with stage := .leaving raises, socketOpen := false }).closeSocket other)
  | .ending none raises =>
    let stage : Stage :=
      if closeRaises ∧ kind = .egoBrowserRelay then .raised else .leaving (raises ∨ closeRaises)
    some (hub.put call { c with stage := stage, socketOpen := false })
  | _ => none

/-- `_remove`. -/
def remove (call : ℕ) : Option Hub := do
  let c ← hub.connections call
  match c.stage with
  | .leaving raises =>
    let left := hub.put call { c with stage := .done raises }
    some (if hub.pairs c.key c.role = some call then left.setPair c.key c.role none else left)
  | _ => none

/-- The endpoints of a pair. -/
def endpoints (key : RelayBinding) : List ℕ :=
  (hub.pairs key .device).toList ++ (hub.pairs key .proxy).toList

/-- The critical section of `close_binding`. -/
def popBinding (key : RelayBinding) : Hub where
  connections call :=
    (hub.connections call).map fun c =>
      if call ∈ hub.endpoints key ∧ c.peer = .pending then { c with peer := .bindingClosed } else c
  pairs := Function.update hub.pairs key fun _ => none
  closedGenerations :=
    if kind = .egoBrowserRelay then key :: hub.closedGenerations else hub.closedGenerations
  shuttingDown := hub.shuttingDown
  closing := (key, hub.endpoints key) :: hub.closing

/-- The sockets that calls of `close_binding` of a binding are closing. -/
def closingSockets (key : RelayBinding) : List ℕ :=
  (hub.closing.filter (·.1 = key)).flatMap Prod.snd

/-- The calls of `close_binding` of a binding have closed its sockets. The closes of each call are
scheduled as soon as it has left its critical section, so that no frame comes between them. -/
def closedBinding (key : RelayBinding) : Option Hub :=
  if ∃ entry ∈ hub.closing, entry.1 = key then
    some { hub with
      connections := fun call => (hub.connections call).map fun c =>
        if call ∈ hub.closingSockets key then { c with socketOpen := false } else c
      closing := hub.closing.filter (·.1 ≠ key) }
  else none

end Hub

/-- What can happen at a hub. -/
inductive HubEvent where
  | accept (call : ℕ) (key : RelayBinding) (role : RelayRole)
  | connect (call : ℕ) (closeRaises : Bool)
  | wake (call : ℕ)
  | timeOut (call : ℕ)
  | forward (call : ℕ)
  | finish (call : ℕ) (closeRaises : Bool)
  | endCall (call : ℕ) (closeRaises : Bool)
  | remove (call : ℕ)
  | popBinding (key : RelayBinding)
  | closedBinding (key : RelayBinding)
  | shutDown

def Hub.step (kind : HubKind) (hub : Hub) : HubEvent → Option Hub
  | .accept call key role => hub.accept call key role
  | .connect call closeRaises => hub.connect kind call closeRaises
  | .wake call => hub.wake call
  | .timeOut call => hub.timeOut call
  | .forward call => hub.forward call
  | .finish call closeRaises => hub.finish call closeRaises
  | .endCall call closeRaises => hub.endCall kind call closeRaises
  | .remove call => hub.remove call
  | .popBinding key => some (hub.popBinding kind key)
  | .closedBinding key => hub.closedBinding key
  | .shutDown => some { hub with shuttingDown := true }

/-- The runs of a hub. -/
def relayHub (kind : HubKind) : Machine Hub HubEvent := ⟨.empty, Hub.step kind⟩

end AgentRemote.Relay
