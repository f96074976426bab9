import AgentRemote.DeviceControl.Tasks
import AgentRemote.Relay.Moves

/-!
# Revocation of device relays

A relay handshake spends its ticket, finds its claims current in the database and only then
enters the hub of its process. A generation that the database revokes in between is closed at
every process. What must hold of a closed generation, and when it does: as long as no handshake
that has checked its claims enters the hub after its generation is closed there.
-/

namespace AgentRemote.Relay
open Library

/-! ### Currency of claims -/

structure DeviceRelayBinding where
  userId : Uuid
  deviceId : Uuid
  toolSessionId : Uuid
  deviceSessionId : Uuid
  nodeId : Uuid
  generation : ℕ

def DeviceRelayBinding.relayBinding (binding : DeviceRelayBinding) : RelayBinding :=
  ⟨binding.deviceSessionId, binding.generation⟩

structure DeviceRelayTicketClaims where
  binding : DeviceRelayBinding
  role : RelayRole
  credentialId : Option Uuid

/-- A token as the check reads it. -/
structure RelayCredential where
  active : Bool
  tokenType : TokenType
  userDeviceId : Option Uuid
  expiresAt : Instant

/-- The rows of other services and the time when claims are checked. -/
structure RelaySurroundings where
  world : DeviceControlWorld
  credential : Uuid → Option RelayCredential
  now : Instant

/-- `_relay_claims_are_current`. -/
def relayClaimsAreCurrent (db : DeviceControlTables) (around : RelaySurroundings)
    (claims : DeviceRelayTicketClaims) : Bool :=
  let binding := claims.binding
  match db.get binding.deviceSessionId with
  | none => false
  | some deviceSession =>
    let exactBinding := deviceSession.userId = binding.userId ∧
      deviceSession.deviceId = binding.deviceId ∧
      deviceSession.toolSessionReferenceId = binding.toolSessionId ∧
      deviceSession.nodeId = binding.nodeId ∧ deviceSession.generation = binding.generation
    if ¬exactBinding ∨ deviceSession.status.reconnectable = false ∨
        deviceSession.expiresAt ≤ around.now then false
    else if ¬(around.world.device binding.deviceId).any (·.active) ∨
        ¬(around.world.node binding.nodeId).any (·.available) ∨
        ¬(around.world.toolSession binding.toolSessionId).any (·.running) then false
    else
      match claims.role, claims.credentialId with
      | .proxy, credentialId => credentialId = none
      | .device, none => false
      | .device, some credentialId =>
        (around.credential credentialId).any fun credential =>
          credential.active ∧ credential.tokenType = .device ∧
            credential.userDeviceId = some binding.deviceId ∧ around.now < credential.expiresAt

/-! ### Handshakes at several processes -/

/-- How far a handshake has come that has spent its ticket. -/
inductive HandshakeStage where
  | consumed
  | current
  | refused
  deriving DecidableEq

structure Handshake where
  claims : DeviceRelayTicketClaims
  stage : HandshakeStage

def Handshake.key (handshake : Handshake) : RelayBinding := handshake.claims.binding.relayBinding

structure RelayWorld where
  db : DeviceControlTables
  handshakes : ℕ → ℕ → Option Handshake
  hubs : ℕ → Hub

/-- What can happen: a call of the service, a step of a handshake or of the hub of a process. -/
inductive RelayEvent where
  | service (call : DeviceCall)
  | consumeTicket (process call : ℕ) (claims : DeviceRelayTicketClaims)
  | checkClaims (process call : ℕ) (around : RelaySurroundings)
  | hub (process : ℕ) (event : HubEvent)

/-- No session is in the generation any more, or ever will be. -/
def Revoked (db : DeviceControlTables) (key : RelayBinding) : Prop :=
  (∃ t ∈ db.tasks, t.taskId.sessionId = key.bindingId) ∧
    ∀ s ∈ db.sessions, s.id = key.bindingId →
      key.generation < s.generation ∨ s.status.terminal = true

instance (db : DeviceControlTables) (key : RelayBinding) : Decidable (Revoked db key) :=
  inferInstanceAs (Decidable (_ ∧ _))

namespace RelayWorld

def empty : RelayWorld := ⟨{}, fun _ _ => none, fun _ => .empty⟩

variable (world : RelayWorld)

def setHandshake (process call : ℕ) (handshake : Handshake) : RelayWorld :=
  { world with
    handshakes := Function.update world.handshakes process
      (Function.update (world.handshakes process) call (some handshake)) }

/-- Whether a process takes a step at its hub: a handshake connects once its claims were found
current, and a generation is closed once the database has revoked it. -/
def admits (process : ℕ) : HubEvent → Bool
  | .accept call key role => (world.handshakes process call).any fun handshake =>
    handshake.stage = .current ∧ handshake.key = key ∧ handshake.claims.role = role
  | .popBinding key => Revoked world.db key
  | _ => true

@[simp] lemma setHandshake_hubs (process call : ℕ) (handshake : Handshake) :
    (world.setHandshake process call handshake).hubs = world.hubs := rfl

@[simp] lemma setHandshake_db (process call : ℕ) (handshake : Handshake) :
    (world.setHandshake process call handshake).db = world.db := rfl

lemma setHandshake_handshakes (process call p i : ℕ) (handshake : Handshake) :
    (world.setHandshake process call handshake).handshakes p i =
      if p = process ∧ i = call then some handshake else world.handshakes p i := by
  simp only [setHandshake, Function.update_apply]
  by_cases hp : p = process
  · subst hp
    by_cases hi : i = call
    · simp [hi]
    · simp [hi]
  · simp [hp]

def step : RelayEvent → Option RelayWorld
  | .service call => some { world with db := (call.perform world.db).db }
  | .consumeTicket process call claims =>
    if (world.handshakes process call).isSome then none
    else some (world.setHandshake process call ⟨claims, .consumed⟩)
  | .checkClaims process call around => do
    let handshake ← (world.handshakes process call).filter (·.stage = .consumed)
    let stage := if relayClaimsAreCurrent world.db around handshake.claims then .current else .refused
    some (world.setHandshake process call { handshake with stage := stage })
  | .hub process event =>
    if world.admits process event then
      ((world.hubs process).step .deviceRelay event).map fun hub =>
        { world with hubs := Function.update world.hubs process hub }
    else none

end RelayWorld

/-- The runs of all processes over one database. -/
def deviceRelays : Machine RelayWorld RelayEvent := ⟨.empty, RelayWorld.step⟩

/-- The event checks the claims of a handshake. -/
def RelayEvent.checks (process call : ℕ) : RelayEvent → Bool
  | .checkClaims p i _ => p = process ∧ i = call
  | _ => false

/-- A handshake that enters the hub finds its generation not closed since its claims were
checked. -/
def Undisturbed (events : List RelayEvent) (world : RelayWorld) : RelayEvent → Prop
  | .hub process (.connect call _) => ∀ handshake, world.handshakes process call = some handshake →
    .hub process (.popBinding handshake.key) ∉ events.takeWhile fun e => !e.checks process call
  | _ => True

/-- Closed generations stay closed: `events` is what has happened so far, latest first. -/
structure RevocationFinal (events : List RelayEvent) (world : RelayWorld) : Prop where
  unregistered : ∀ process key, .hub process (.closedBinding key) ∈ events →
    ∀ role, (world.hubs process).pairs key role = none
  silent : ∀ process key, .hub process (.closedBinding key) ∈ events →
    ∀ call c, (world.hubs process).connections call = some c → c.key = key →
      (world.hubs process).delivers call = none

/-! ### The database -/

section

variable {db db' : DeviceControlTables} {key : RelayBinding}

lemma revoked_evolves (h : Revoked db key) (he : db.Evolves db') : Revoked db' key := by
  obtain ⟨⟨t, ht, htask⟩, hrows⟩ := h
  refine ⟨⟨t, he.tasks ht, htask⟩, fun s' hs' hid => ?_⟩
  rcases he.rows s' hs' with ⟨s, hs, hsame, hfollows⟩ | hnone
  · rcases hrows s hs (hsame.symm.trans hid) with hnewer | hterminal
    · exact .inl (hnewer.trans_le hfollows.generation)
    · right
      rw [hfollows.terminal hterminal]
      exact hterminal
  · exact absurd (htask.trans hid.symm) (hnone t ht)

/-- A revoked generation stays revoked. -/
lemma revoked_perform (hdb : DeviceControlSound db) (call : DeviceCall) (h : Revoked db key) :
    Revoked (call.perform db).db key := by
  have hanswer := DeviceCall.answer (c := call) hdb
  generalize call.perform db = response at hanswer
  cases hanswer with
  | refused => exact h
  | exhausted => exact h
  | repeated => exact h
  | expired hs hlive =>
    exact revoked_evolves h
      (.of_move hdb.tasks (DeviceControlTables.ending_move hdb hs hlive rfl))
  | accepted hmoves => exact revoked_evolves h (.of_moves hdb hmoves)
  | deleted => exact ⟨h.1, fun s hs => h.2 s (List.mem_of_mem_filter hs)⟩

/-- Claims of a revoked generation are not current. -/
lemma not_revoked_of_current {around : RelaySurroundings} {claims : DeviceRelayTicketClaims}
    (h : relayClaimsAreCurrent db around claims = true) :
    ¬Revoked db claims.binding.relayBinding := by
  intro hrevoked
  unfold relayClaimsAreCurrent at h
  dsimp only at h
  cases hget : db.get claims.binding.deviceSessionId with
  | none =>
    rw [hget] at h
    cases h
  | some s =>
    rw [hget] at h
    dsimp only at h
    split_ifs at h with hexact
    push Not at hexact
    obtain ⟨⟨-, -, -, -, hgeneration⟩, hlive, -⟩ := hexact
    have hreconnectable : s.status.reconnectable = true := by
      simpa using hlive
    have hopen := DeviceSessionStatus.terminal_eq_false_of_reconnectable hreconnectable
    rcases hrevoked.2 s (mem_of_lookup hget) (key_of_lookup hget) with hnewer | hterminal
    · have hsame : claims.binding.relayBinding.generation = s.generation := hgeneration.symm
      omega
    · rw [hopen] at hterminal
      cases hterminal

end

/-! ### What hubs keep -/

namespace Hub

/-- The socket of a call is closed, is being closed, or belongs to a registered endpoint. -/
def Held (hub : Hub) (key : RelayBinding) (j : ℕ) : Prop :=
  ∃ d, hub.connections j = some d ∧ d.key = key ∧ (d.socketOpen = false ∨
    j ∈ hub.closingSockets key ∨ hub.pairs key d.role = some j)

/-- What every step keeps, calm or not. -/
structure Tracked (hub : Hub) : Prop where
  listed : ∀ key role i, hub.pairs key role = some i →
    ∃ c, hub.connections i = some c ∧ c.key = key ∧ c.role = role ∧ c.stage ≠ .accepted
  held : ∀ i j c, hub.connections i = some c →
    (c.stage = .waiting ∨ ∃ p, c.stage = .forwarding p) → c.peer = .socket j → hub.Held c.key j
  forwards : ∀ i j c, hub.connections i = some c → c.stage = .forwarding j → c.peer = .socket j
  leaves : ∀ i c raises, hub.connections i = some c → c.stage = .leaving raises →
    c.socketOpen = false
  fresh : ∀ i c, hub.connections i = some c → c.stage = .accepted → c.peer = .pending

lemma tracked_empty : Hub.empty.Tracked where
  listed _ _ _ h := by cases h
  held _ _ _ h := by cases h
  forwards _ _ _ h := by cases h
  leaves _ _ _ h := by cases h
  fresh _ _ h := by cases h

variable {kind : HubKind} {hub hub' : Hub} {call i j : ℕ} {c d : Connection} {calm : Prop}

lemma closingSockets_congr {left : Hub} (h : left.closing = hub.closing) (key : RelayBinding) :
    left.closingSockets key = hub.closingSockets key := by
  unfold closingSockets
  rw [h]

section

variable {left : Hub} {b : Connection} (hc : hub.connections call = some c) (hkey : b.key = c.key)
  (hrole : b.role = c.role) (hsocket : b.socketOpen = true → c.socketOpen = true)
  (hconnections : left.connections = (hub.put call b).connections)
  (hclosing : left.closing = hub.closing)
  (hkept : ∀ k r j, hub.pairs k r = some j →
    left.pairs k r = some j ∨ j = call ∧ b.socketOpen = false)

include hc hkey hrole hsocket hconnections hclosing hkept

/-- What holds a socket still does when one call changes. -/
lemma Held.change {key : RelayBinding} (h : hub.Held key j) : left.Held key j := by
  obtain ⟨d, hd, hdkey, hholds⟩ := h
  unfold Held
  rw [hconnections, put_connections, closingSockets_congr hclosing]
  by_cases hj : j = call
  · rw [if_pos hj]
    subst hj
    obtain rfl := Option.some.inj (hc.symm.trans hd)
    refine ⟨b, rfl, hkey.trans hdkey, ?_⟩
    rcases hholds with hclosed | hcloses | hlisted
    · left
      cases hopen : b.socketOpen with
      | false => rfl
      | true => rw [← hsocket hopen, hclosed]
    · exact .inr (.inl hcloses)
    · rcases hkept _ _ _ hlisted with hlisted | ⟨-, hclosed⟩
      · rw [hrole]
        exact .inr (.inr hlisted)
      · exact .inl hclosed
  · rw [if_neg hj]
    refine ⟨d, hd, hdkey, ?_⟩
    rcases hholds with hclosed | hcloses | hlisted
    · exact .inl hclosed
    · exact .inr (.inl hcloses)
    · rcases hkept _ _ _ hlisted with hlisted | ⟨hsame, -⟩
      · exact .inr (.inr hlisted)
      · exact absurd hsame hj

/-- One call changes, and perhaps its place in the table. -/
lemma Tracked.change (h : hub.Tracked)
    (hnew : ∀ k r j, left.pairs k r = some j →
      hub.pairs k r = some j ∨ j = call ∧ k = c.key ∧ r = c.role)
    (hheld : ∀ j, (b.stage = .waiting ∨ ∃ p, b.stage = .forwarding p) → b.peer = .socket j →
      left.Held b.key j)
    (hforwards : ∀ j, b.stage = .forwarding j → b.peer = .socket j)
    (hleaves : ∀ raises, b.stage = .leaving raises → b.socketOpen = false)
    (haccepted : b.stage ≠ .accepted) : left.Tracked := by
  have hcases : ∀ i d, left.connections i = some d →
      i = call ∧ d = b ∨ i ≠ call ∧ hub.connections i = some d := by
    intro i d hd
    rw [hconnections, put_connections] at hd
    split_ifs at hd with hi
    · exact .inl ⟨hi, (Option.some.inj hd).symm⟩
    · exact .inr ⟨hi, hd⟩
  constructor
  · intro k r i hi
    rw [hconnections, put_connections]
    by_cases hcall : i = call
    · rw [if_pos hcall]
      have hplace : c.key = k ∧ c.role = r := by
        rcases hnew k r i hi with hlisted | ⟨-, hk, hr⟩
        · obtain ⟨d, hd, hdkey, hdrole, -⟩ := h.listed k r i hlisted
          rw [hcall] at hd
          obtain rfl := Option.some.inj (hc.symm.trans hd)
          exact ⟨hdkey, hdrole⟩
        · exact ⟨hk.symm, hr.symm⟩
      exact ⟨b, rfl, hkey.trans hplace.1, hrole.trans hplace.2, haccepted⟩
    · rw [if_neg hcall]
      rcases hnew k r i hi with hlisted | ⟨hsame, -, -⟩
      · exact h.listed k r i hlisted
      · exact absurd hsame hcall
  · intro i j d hd hstage hpeer
    rcases hcases i d hd with ⟨-, rfl⟩ | ⟨-, hold⟩
    · exact hheld j hstage hpeer
    · exact (h.held i j d hold hstage hpeer).change hc hkey hrole hsocket hconnections hclosing hkept
  · intro i j d hd hstage
    rcases hcases i d hd with ⟨-, rfl⟩ | ⟨-, hold⟩
    · exact hforwards j hstage
    · exact h.forwards i j d hold hstage
  · intro i d raises hd hstage
    rcases hcases i d hd with ⟨-, rfl⟩ | ⟨-, hold⟩
    · exact hleaves raises hstage
    · exact h.leaves i d raises hold hstage
  · intro i d hd hstage
    rcases hcases i d hd with ⟨-, rfl⟩ | ⟨-, hold⟩
    · exact absurd hstage haccepted
    · exact h.fresh i d hold hstage

end

lemma Advances.tracked (h : hub.Advances calm hub') (htracked : hub.Tracked) : hub'.Tracked where
  listed key role i hi := by
    rw [h.pairs] at hi
    obtain ⟨c, hc, hkey, hrole, hstage⟩ := htracked.listed key role i hi
    obtain ⟨d, hd, hadvances⟩ := h.new hc
    refine ⟨d, hd, hadvances.key.trans hkey, hadvances.role.trans hrole, ?_⟩
    rcases hadvances.stage with hsame | ⟨-, haccepted, -⟩
    · rw [hsame]
      exact hstage
    · exact haccepted
  held i j d hd hstage hpeer := by
    obtain ⟨c, hc, hadvances⟩ := h.old hd
    have hforwarding : c.stage = .waiting ∨ ∃ p, c.stage = .forwarding p := by
      rcases hadvances.stage with hsame | ⟨-, -, hwaiting, hforwards, -, -⟩
      · rw [← hsame]
        exact hstage
      · rcases hstage with hwaits | ⟨p, hp⟩
        · exact absurd hwaits hwaiting
        · exact .inl (hforwards p hp).1
    obtain ⟨e, he, hekey, hholds⟩ :=
      htracked.held i j c hc hforwarding (hadvances.peer.symm.trans hpeer)
    obtain ⟨e', he', hadvances'⟩ := h.new he
    unfold Held
    rw [hadvances.key, h.pairs]
    refine ⟨e', he', hadvances'.key.trans hekey, ?_⟩
    rw [hadvances'.role]
    rcases hholds with hclosed | hcloses | hlisted
    · left
      cases hopen : e'.socketOpen with
      | false => rfl
      | true => rw [← hadvances'.socket hopen, hclosed]
    · rcases h.closing _ j hcloses with hcloses | hclosed
      · exact .inr (.inl hcloses)
      · exact .inl (hclosed e' he')
    · exact .inr (.inr hlisted)
  forwards i j d hd hstage := by
    obtain ⟨c, hc, hadvances⟩ := h.old hd
    rw [hadvances.peer]
    rcases hadvances.stage with hsame | ⟨-, -, -, hforwards, -, -⟩
    · exact htracked.forwards i j c hc (hsame.symm.trans hstage)
    · exact (hforwards j hstage).2
  leaves i d raises hd hstage := by
    obtain ⟨c, hc, hadvances⟩ := h.old hd
    rcases hadvances.stage with hsame | ⟨-, -, -, -, hleaves, -⟩
    · have hclosed := htracked.leaves i c raises hc (hsame.symm.trans hstage)
      cases hopen : d.socketOpen with
      | false => rfl
      | true => rw [← hadvances.socket hopen, hclosed]
    · exact hleaves raises hstage
  fresh i d hd hstage := by
    obtain ⟨c, hc, hadvances⟩ := h.old hd
    rw [hadvances.peer]
    rcases hadvances.stage with hsame | ⟨-, haccepted, -⟩
    · exact htracked.fresh i c hc (hsame.symm.trans hstage)
    · exact absurd hstage haccepted

end Hub

open Hub

/-- A call that is done neither starts nor forwards. -/
lemma Stage.done_idle (raises : Bool) : Stage.done raises ≠ .accepted ∧
    (∀ p, Stage.done raises ≠ .forwarding p) ∧
    ¬(Stage.done raises = .waiting ∨ ∃ p, Stage.done raises = .forwarding p) := by
  cases raises with
  | true => exact ⟨nofun, nofun, by rintro (h | ⟨p, h⟩) <;> cases h⟩
  | false => exact ⟨nofun, nofun, by rintro (h | ⟨p, h⟩) <;> cases h⟩

lemma free_of_accepts {kind : HubKind} {hub : Hub} {key : RelayBinding} {role : RelayRole}
    (h : refuses kind hub key role = false) : hub.pairs key role = none := by
  cases hpair : hub.pairs key role with
  | none => rfl
  | some i => simp [refuses, hpair] at h

/-- Filling a free place keeps the others. -/
lemma setPair_kept {hub : Hub} {key k : RelayBinding} {role r : RelayRole} {i : ℕ}
    {endpoint : Option ℕ} (hfree : hub.pairs key role = none) (h : hub.pairs k r = some i) :
    (hub.setPair key role endpoint).pairs k r = some i := by
  rw [setPair_pairs]
  split_ifs with hplace
  · obtain ⟨rfl, rfl⟩ := hplace
    rw [hfree] at h
    cases h
  · exact h

lemma setPair_new {hub : Hub} {key k : RelayBinding} {role r : RelayRole} {i call : ℕ}
    (h : (hub.setPair key role (some call)).pairs k r = some i) :
    hub.pairs k r = some i ∨ i = call ∧ k = key ∧ r = role := by
  rw [setPair_pairs] at h
  split_ifs at h with hplace
  · exact .inr ⟨(Option.some.inj h).symm, hplace⟩
  · exact .inl h

/-- The endpoints of a popped binding are being closed, and the other places are as they were. -/
lemma popBinding_held {kind : HubKind} {hub : Hub} {key k : RelayBinding} {j : ℕ}
    (h : hub.Held k j) : (hub.popBinding kind key).Held k j := by
  obtain ⟨d, hd, hkey, hholds⟩ := h
  have hnew : ∃ d', (hub.popBinding kind key).connections j = some d' ∧ d'.key = d.key ∧
      d'.role = d.role ∧ d'.socketOpen = d.socketOpen := by
    unfold popBinding
    dsimp only
    rw [hd, Option.map_some]
    refine ⟨_, rfl, ?_⟩
    split_ifs <;> exact ⟨rfl, rfl, rfl⟩
  obtain ⟨d', hd', hkey', hrole', hsocket'⟩ := hnew
  have hcloses : ∀ k, j ∈ hub.closingSockets k → j ∈ (hub.popBinding kind key).closingSockets k := by
    intro k hj
    obtain ⟨entry, hentry, hjentry⟩ := List.mem_flatMap.mp hj
    obtain ⟨hmem, hentrykey⟩ := List.mem_filter.mp hentry
    exact List.mem_flatMap.mpr
      ⟨entry, List.mem_filter.mpr ⟨List.mem_cons_of_mem _ hmem, hentrykey⟩, hjentry⟩
  refine ⟨d', hd', hkey'.trans hkey, ?_⟩
  rw [hsocket', hrole']
  rcases hholds with hclosed | hclosing | hlisted
  · exact .inl hclosed
  · exact .inr (.inl (hcloses k hclosing))
  · by_cases hk : k = key
    · subst hk
      refine .inr (.inl (List.mem_flatMap.mpr
        ⟨(k, hub.endpoints k), List.mem_filter.mpr ⟨List.mem_cons_self, by simp⟩, ?_⟩))
      unfold endpoints
      cases hrole : d.role with
      | device =>
        rw [hrole] at hlisted
        simp [hlisted]
      | proxy =>
        rw [hrole] at hlisted
        simp [hlisted]
    · refine .inr (.inr ?_)
      unfold popBinding
      simp only [Function.update_apply, if_neg hk]
      exact hlisted

lemma popBinding_tracked {kind : HubKind} {hub : Hub} (h : hub.Tracked) (key : RelayBinding) :
    (hub.popBinding kind key).Tracked := by
  have hold : ∀ i d, (hub.popBinding kind key).connections i = some d →
      ∃ c, hub.connections i = some c ∧ d.key = c.key ∧ d.role = c.role ∧ d.stage = c.stage ∧
        d.socketOpen = c.socketOpen ∧ (∀ j, d.peer = .socket j → c.peer = .socket j) ∧
        (d.peer = c.peer ∨ i ∈ hub.endpoints key) := by
    intro i d hd
    obtain ⟨c, hc, rfl⟩ := Option.map_eq_some_iff.mp hd
    refine ⟨c, hc, ?_⟩
    split_ifs with hclosed
    · exact ⟨rfl, rfl, rfl, rfl, nofun, .inr hclosed.1⟩
    · exact ⟨rfl, rfl, rfl, rfl, fun _ => id, .inl rfl⟩
  have hsocket : ∀ i c j, hub.connections i = some c → c.peer = .socket j →
      ∀ d, (hub.popBinding kind key).connections i = some d → d.peer = .socket j := by
    intro i c j hc hpeer d hd
    unfold popBinding at hd
    dsimp only at hd
    rw [hc, Option.map_some, if_neg (by rw [hpeer]; exact fun h => nomatch h.2)] at hd
    obtain rfl := Option.some.inj hd
    exact hpeer
  constructor
  · intro k r i hi
    have hkept : hub.pairs k r = some i := by
      unfold popBinding at hi
      simp only [Function.update_apply] at hi
      split_ifs at hi
      exact hi
    obtain ⟨c, hc, hkey, hrole, hstage⟩ := h.listed k r i hkept
    unfold popBinding
    dsimp only
    rw [hc, Option.map_some]
    refine ⟨_, rfl, ?_⟩
    split_ifs <;> exact ⟨hkey, hrole, hstage⟩
  · intro i j d hd hstage hpeer
    obtain ⟨c, hc, hkey, -, hsame, -, hback, -⟩ := hold i d hd
    rw [hkey]
    rw [hsame] at hstage
    exact popBinding_held (h.held i j c hc hstage (hback j hpeer))
  · intro i j d hd hstage
    obtain ⟨c, hc, -, -, hsame, -, -⟩ := hold i d hd
    exact hsocket i c j hc (h.forwards i j c hc (hsame.symm.trans hstage)) d hd
  · intro i d raises hd hstage
    obtain ⟨c, hc, -, -, hsame, hopen, -⟩ := hold i d hd
    exact hopen.trans (h.leaves i c raises hc (hsame.symm.trans hstage))
  · intro i d hd hstage
    obtain ⟨c, hc, -, -, hsame, -, -, hfuture⟩ := hold i d hd
    have haccepted := hsame.symm.trans hstage
    rcases hfuture with hkept | hlisted
    · exact hkept.trans (h.fresh i c hc haccepted)
    · have hpair : hub.pairs key .device = some i ∨ hub.pairs key .proxy = some i := by
        simpa [endpoints] using hlisted
      obtain ⟨c', hc', hnot⟩ : ∃ c', hub.connections i = some c' ∧ c'.stage ≠ .accepted := by
        rcases hpair with hpair | hpair
        · obtain ⟨c', hc', -, -, hnot⟩ := h.listed _ _ _ hpair
          exact ⟨c', hc', hnot⟩
        · obtain ⟨c', hc', -, -, hnot⟩ := h.listed _ _ _ hpair
          exact ⟨c', hc', hnot⟩
      obtain rfl := Option.some.inj (hc.symm.trans hc')
      exact absurd haccepted hnot

lemma HubMove.tracked {kind : HubKind} {hub hub' : Hub} {e : HubEvent} (h : HubMove kind hub e hub')
    (htracked : hub.Tracked) : hub'.Tracked := by
  cases h with
  | advanced _ _ hadvances => exact hadvances.tracked htracked
  | accepted call key role hnew =>
    have hother : ∀ i c, hub.connections i = some c → i ≠ call := by
      rintro i c hc rfl
      rw [hnew] at hc
      cases hc
    have hcases : ∀ i d, (hub.put call ⟨key, role, .accepted, .pending, true⟩).connections i =
        some d → d = ⟨key, role, .accepted, .pending, true⟩ ∨ hub.connections i = some d := by
      intro i d hd
      rw [put_connections] at hd
      split_ifs at hd
      · exact .inl (Option.some.inj hd).symm
      · exact .inr hd
    constructor
    · intro k r i hi
      obtain ⟨c, hc, hrest⟩ := htracked.listed k r i hi
      exact ⟨c, by rw [put_connections, if_neg (hother i c hc), hc], hrest⟩
    · intro i j d hd hstage hpeer
      rcases hcases i d hd with rfl | hold
      · cases hpeer
      · obtain ⟨b, hb, hrest⟩ := htracked.held i j d hold hstage hpeer
        exact ⟨b, by rw [put_connections, if_neg (hother j b hb), hb], hrest⟩
    · intro i j d hd hstage
      rcases hcases i d hd with rfl | hold
      · cases hstage
      · exact htracked.forwards i j d hold hstage
    · intro i d raises hd hstage
      rcases hcases i d hd with rfl | hold
      · cases hstage
      · exact htracked.leaves i d raises hold hstage
    · intro i d hd hstage
      rcases hcases i d hd with rfl | hold
      · rfl
      · exact htracked.fresh i d hold hstage
  | @refused call closeRaises c hc hstage hrefuses =>
    obtain ⟨haccepted, hforwards, hidle⟩ := Stage.done_idle closeRaises
    exact htracked.change (b := { c with stage := .done closeRaises, socketOpen := false })
      hc rfl rfl nofun rfl rfl (fun _ _ _ => .inl) (fun _ _ _ => .inl)
      (fun _ h => absurd h hidle) (fun j h => absurd h (hforwards j)) (fun _ _ => rfl) haccepted
  | @lone call closeRaises c hc hstage hrefuses hpair =>
    have hfree := free_of_accepts hrefuses
    refine htracked.change (b := { c with stage := .waiting }) hc rfl rfl id rfl rfl
      (fun _ _ _ h => .inl (setPair_kept hfree h)) (fun _ _ _ h => setPair_new h)
      (fun j _ hpeer => ?_) nofun nofun nofun
    have hpending := htracked.fresh call c hc hstage
    rw [hpending] at hpeer
    cases hpeer
  | @paired call closeRaises other c d hc hstage hrefuses hpair hd hpending =>
    have hfree := free_of_accepts hrefuses
    obtain ⟨d', hd', hkey, hrole, hlisted⟩ := htracked.listed _ _ _ hpair
    obtain rfl := Option.some.inj (hd.symm.trans hd')
    have hne : other ≠ call := by
      rintro rfl
      obtain rfl := Option.some.inj (hc.symm.trans hd)
      exact hlisted hstage
    generalize hmid : (hub.setPair c.key c.role (some call)).put call
      { c with stage := .waiting, peer := .socket other } = mid
    have hother : mid.connections other = some d := by simp [← hmid, hne, hd]
    have hcall : mid.connections call =
        some { c with stage := .waiting, peer := .socket other } := by simp [← hmid]
    have hpairs : mid.pairs = (hub.setPair c.key c.role (some call)).pairs := by
      rw [← hmid]
      rfl
    have hfirst : mid.Tracked := by
      refine htracked.change (b := { c with stage := .waiting, peer := .socket other }) hc rfl rfl
        id (by rw [← hmid]; rfl) (by rw [← hmid]; rfl) (fun _ _ _ h => .inl ?_)
        (fun _ _ _ h => ?_) (fun j _ hpeer => ?_) nofun nofun nofun
      · rw [hpairs]
        exact setPair_kept hfree h
      · rw [hpairs] at h
        exact setPair_new h
      · obtain rfl := PeerFuture.socket.inj hpeer
        refine ⟨d, hother, hkey, .inr (.inr ?_)⟩
        rw [hpairs, hrole]
        exact setPair_kept hfree hpair
    refine hfirst.change (b := { d with peer := .socket call }) hother rfl rfl id rfl rfl
      (fun _ _ _ => .inl) (fun _ _ _ => .inl) (fun j _ hpeer => ?_) (fun j h => ?_)
      (htracked.leaves other d · hd) hlisted
    · obtain rfl := PeerFuture.socket.inj hpeer
      refine ⟨_, (put_connections ..).trans ((if_neg hne.symm).trans hcall), hkey.symm,
        .inr (.inr ?_)⟩
      rw [put_pairs, hpairs, setPair_pairs, if_pos ⟨hkey, rfl⟩]
    · have hpeer := htracked.forwards other j d hd h
      rw [hpending] at hpeer
      cases hpeer
  | @collided call closeRaises other c d hc hstage hrefuses hpair hd hsettled =>
    have hfree := free_of_accepts hrefuses
    refine htracked.change (b := { c with stage := .raised, peer := .socket other }) hc rfl rfl id
      rfl rfl (fun _ _ _ h => .inl (setPair_kept hfree h)) (fun _ _ _ h => setPair_new h)
      (fun j h _ => ?_) nofun nofun nofun
    rcases h with h | ⟨p, h⟩
    · cases h
    · cases h
  | @removed call raises c hc hstage =>
    have hclosed := htracked.leaves call c raises hc hstage
    obtain ⟨haccepted, hforwards, hidle⟩ := Stage.done_idle raises
    split_ifs with hpair
    · refine htracked.change (b := { c with stage := .done raises }) hc rfl rfl id rfl rfl
        (fun k r j h => ?_) (fun k r j h => .inl ?_) (fun _ h => absurd h hidle)
        (fun j h => absurd h (hforwards j)) (fun _ _ => hclosed) haccepted
      · rw [setPair_pairs]
        split_ifs with hplace
        · obtain ⟨rfl, rfl⟩ := hplace
          exact .inr ⟨(Option.some.inj (hpair.symm.trans h)).symm, hclosed⟩
        · exact .inl h
      · rw [setPair_pairs] at h
        split_ifs at h
        exact h
    · exact htracked.change (b := { c with stage := .done raises }) hc rfl rfl id rfl rfl
        (fun _ _ _ => .inl) (fun _ _ _ => .inl) (fun _ h => absurd h hidle)
        (fun j h => absurd h (hforwards j)) (fun _ _ => hclosed) haccepted
  | popped key => exact popBinding_tracked htracked key

section

variable {kind : HubKind} {hub hub' : Hub} {e : HubEvent}

/-- An endpoint that a step puts in the table is that of a call that connects. -/
lemma HubMove.pairs (h : HubMove kind hub e hub') {key : RelayBinding} {role : RelayRole} {i : ℕ}
    (hi : hub'.pairs key role = some i) : hub.pairs key role = some i ∨
      ∃ call closeRaises c, e = .connect call closeRaises ∧ hub.connections call = some c ∧
        c.key = key := by
  cases h with
  | advanced _ _ hadvances =>
    rw [hadvances.pairs] at hi
    exact .inl hi
  | accepted | refused => exact .inl hi
  | lone call closeRaises hc | paired call closeRaises hc | collided call closeRaises hc =>
    rcases setPair_new hi with hlisted | ⟨-, hkey, -⟩
    · exact .inl hlisted
    · exact .inr ⟨call, closeRaises, _, rfl, hc, hkey.symm⟩
  | removed call hc hstage =>
    left
    split_ifs at hi
    · rw [setPair_pairs] at hi
      split_ifs at hi
      exact hi
    · exact hi
  | popped k =>
    left
    unfold popBinding at hi
    simp only [Function.update_apply] at hi
    split_ifs at hi
    exact hi

/-- A call has the binding it was accepted for. -/
lemma HubMove.key (h : HubMove kind hub e hub') {i : ℕ} {d : Connection}
    (hd : hub'.connections i = some d) : (∃ c, hub.connections i = some c ∧ c.key = d.key) ∨
      ∃ role, e = .accept i d.key role := by
  have hput : ∀ (call : ℕ) (b : Connection) {c : Connection},
      hub'.connections = (hub.put call b).connections → hub.connections call = some c →
      b.key = c.key → ∃ c, hub.connections i = some c ∧ c.key = d.key := by
    intro call b c hafter hc hkey
    rw [hafter, put_connections] at hd
    split_ifs at hd with hi
    · obtain rfl := Option.some.inj hd
      exact ⟨c, hi ▸ hc, hkey.symm⟩
    · exact ⟨d, hd, rfl⟩
  cases h with
  | advanced _ _ hadvances =>
    obtain ⟨c, hc, hadvances⟩ := hadvances.old hd
    exact .inl ⟨c, hc, hadvances.key.symm⟩
  | accepted call key role hnew =>
    rw [put_connections] at hd
    split_ifs at hd with hi
    · obtain rfl := Option.some.inj hd
      exact .inr ⟨role, by rw [hi]⟩
    · exact .inl ⟨d, hd, rfl⟩
  | @refused call closeRaises c hc =>
    exact .inl (hput call { c with stage := .done closeRaises, socketOpen := false } rfl hc rfl)
  | @lone call closeRaises c hc =>
    exact .inl (hput call { c with stage := .waiting } rfl hc rfl)
  | @paired call closeRaises other c b hc hstage hrefuses hpair hb hpending =>
    rw [put_connections] at hd
    split_ifs at hd with hi
    · obtain rfl := Option.some.inj hd
      exact .inl ⟨b, hi ▸ hb, rfl⟩
    · rw [put_connections, setPair_connections] at hd
      split_ifs at hd with hcall
      · obtain rfl := Option.some.inj hd
        exact .inl ⟨c, hcall ▸ hc, rfl⟩
      · exact .inl ⟨d, hd, rfl⟩
  | @collided call closeRaises other c b hc =>
    exact .inl (hput call { c with stage := .raised, peer := .socket other } rfl hc rfl)
  | @removed call raises c hc =>
    refine .inl (hput call { c with stage := .done raises } ?_ hc rfl)
    split_ifs <;> rfl
  | popped key =>
    obtain ⟨c, hc, rfl⟩ := Option.map_eq_some_iff.mp hd
    refine .inl ⟨c, hc, ?_⟩
    split_ifs <;> rfl

/-- Only a popped binding has sockets to close that it did not have before. -/
lemma HubMove.entries (h : HubMove kind hub e hub') {entry : RelayBinding × List ℕ}
    (hentry : entry ∈ hub'.closing) : entry ∈ hub.closing ∨
      ∃ key, e = .popBinding key ∧ entry = (key, hub.endpoints key) := by
  cases h with
  | advanced _ _ hadvances => exact .inl (hadvances.entries hentry)
  | accepted | refused | lone | paired | collided => exact .inl hentry
  | removed =>
    split_ifs at hentry
    · exact .inl hentry
    · exact .inl hentry
  | popped key =>
    rcases List.mem_cons.mp hentry with rfl | hold
    · exact .inr ⟨key, rfl, rfl⟩
    · exact .inl hold

end

/-! ### Runs -/

/-- What a run keeps whose handshakes are undisturbed. -/
structure Kept (events : List RelayEvent) (world : RelayWorld) : Prop where
  db : DeviceControlSound world.db
  revoked : ∀ p k, .hub p (.popBinding k) ∈ events → Revoked world.db k
  checked : ∀ p i handshake, world.handshakes p i = some handshake → handshake.stage = .current →
    .hub p (.popBinding handshake.key) ∈ events →
      .hub p (.popBinding handshake.key) ∈ events.takeWhile fun e => !e.checks p i
  accepted : ∀ p i c, (world.hubs p).connections i = some c →
    ∃ handshake, world.handshakes p i = some handshake ∧ handshake.stage = .current ∧
      handshake.key = c.key
  tracked : ∀ p, (world.hubs p).Tracked
  entries : ∀ p, ∀ entry ∈ (world.hubs p).closing, .hub p (.popBinding entry.1) ∈ events
  unregistered : ∀ p k, .hub p (.popBinding k) ∈ events →
    ∀ role, (world.hubs p).pairs k role = none
  closed : ∀ p k, .hub p (.closedBinding k) ∈ events → .hub p (.popBinding k) ∈ events ∧
    ∀ entry ∈ (world.hubs p).closing, entry.1 = k → entry.2 = []

section

variable {events : List RelayEvent} {world world' : RelayWorld} {e x : RelayEvent}
  {process call : ℕ} {key : RelayBinding}

lemma kept_empty : Kept [] .empty where
  db := .empty
  revoked _ _ h := absurd h List.not_mem_nil
  checked _ _ _ h := by cases h
  accepted _ _ _ h := by cases h
  tracked _ := Hub.tracked_empty
  entries _ := List.forall_mem_nil _
  unregistered _ _ h := absurd h List.not_mem_nil
  closed _ _ h := absurd h List.not_mem_nil

/-- Another event puts off the check of a handshake no further. -/
lemma mem_takeWhile_cons (he : e.checks process call = false)
    (h : x = e ∨ x ∈ events.takeWhile fun e => !e.checks process call) :
    x ∈ (e :: events).takeWhile fun e => !e.checks process call := by
  rw [List.takeWhile_cons, he]
  simpa using h

/-- A step elsewhere. -/
lemma Kept.elsewhere (h : Kept events world) (hhubs : world'.hubs = world.hubs)
    (he : ∀ p event, e ≠ .hub p event) (hdb : DeviceControlSound world'.db)
    (hrevoked : ∀ k, Revoked world.db k → Revoked world'.db k)
    (hhandshakes : ∀ p i handshake, world.handshakes p i = some handshake →
      handshake.stage = .current → world'.handshakes p i = some handshake)
    (hchecked : ∀ p i handshake, world'.handshakes p i = some handshake →
      handshake.stage = .current → .hub p (.popBinding handshake.key) ∈ events →
        .hub p (.popBinding handshake.key) ∈ (e :: events).takeWhile fun e => !e.checks p i) :
    Kept (e :: events) world' := by
  have hold : ∀ {p event}, RelayEvent.hub p event ∈ e :: events → .hub p event ∈ events := by
    intro p event hmem
    rcases List.mem_cons.mp hmem with hsame | hmem
    · exact absurd hsame.symm (he p event)
    · exact hmem
  constructor
  · exact hdb
  · exact fun p k hmem => hrevoked k (h.revoked p k (hold hmem))
  · exact fun p i handshake hfound hstage hmem => hchecked p i handshake hfound hstage (hold hmem)
  · intro p i c hc
    rw [hhubs] at hc
    obtain ⟨handshake, hfound, hstage, hkey⟩ := h.accepted p i c hc
    exact ⟨handshake, hhandshakes p i handshake hfound hstage, hstage, hkey⟩
  · rw [hhubs]
    exact h.tracked
  · rw [hhubs]
    exact fun p entry hentry => List.mem_cons_of_mem _ (h.entries p entry hentry)
  · rw [hhubs]
    exact fun p k hmem => h.unregistered p k (hold hmem)
  · rw [hhubs]
    intro p k hmem
    obtain ⟨hpopped, hentries⟩ := h.closed p k (hold hmem)
    exact ⟨List.mem_cons_of_mem _ hpopped, hentries⟩

/-- Claims that are found current belong to a generation that is not closed. -/
lemma Kept.not_popped (h : Kept events world) {around : RelaySurroundings}
    {claims : DeviceRelayTicketClaims} (hcurrent : relayClaimsAreCurrent world.db around claims = true)
    (p : ℕ) : .hub p (.popBinding claims.binding.relayBinding) ∉ events :=
  fun hmem => not_revoked_of_current hcurrent (h.revoked p _ hmem)

/-- The hub of a process takes a step. -/
lemma Kept.hub (h : Kept events world) {event : HubEvent} {hub : Hub}
    (hadmits : world.admits process event = true)
    (hstep : (world.hubs process).step .deviceRelay event = some hub)
    (hundisturbed : Undisturbed events world (.hub process event)) :
    Kept (.hub process event :: events)
      { world with hubs := Function.update world.hubs process hub } := by
  have hmove := step_move hstep
  constructor
  · exact h.db
  · intro p k hmem
    rcases List.mem_cons.mp hmem with hsame | hmem
    · obtain ⟨rfl, rfl⟩ := RelayEvent.hub.inj hsame
      exact of_decide_eq_true hadmits
    · exact h.revoked p k hmem
  · intro p i handshake hfound hstage hmem
    refine mem_takeWhile_cons rfl ?_
    rcases List.mem_cons.mp hmem with hsame | hmem
    · exact .inl hsame
    · exact .inr (h.checked p i handshake hfound hstage hmem)
  · intro p i c hc
    simp only [Function.update_apply] at hc
    split_ifs at hc with hp
    · subst hp
      rcases hmove.key hc with ⟨b, hb, hkey⟩ | ⟨role, rfl⟩
      · obtain ⟨handshake, hfound, hstage, hsame⟩ := h.accepted p i b hb
        exact ⟨handshake, hfound, hstage, hsame.trans hkey⟩
      · obtain ⟨handshake, hfound, hmatches⟩ := (Option.any_eq_true ..).mp hadmits
        obtain ⟨hstage, hkey, -⟩ := of_decide_eq_true hmatches
        exact ⟨handshake, hfound, hstage, hkey⟩
    · exact h.accepted p i c hc
  · intro p
    simp only [Function.update_apply]
    split_ifs
    · exact hmove.tracked (h.tracked process)
    · exact h.tracked p
  · intro p entry hentry
    simp only [Function.update_apply] at hentry
    split_ifs at hentry with hp
    · subst hp
      rcases hmove.entries hentry with hold | ⟨k, rfl, rfl⟩
      · exact List.mem_cons_of_mem _ (h.entries p entry hold)
      · exact List.mem_cons_self
    · exact List.mem_cons_of_mem _ (h.entries p entry hentry)
  · intro p k hmem role
    simp only [Function.update_apply]
    split_ifs with hp
    · subst hp
      cases hpair : hub.pairs k role with
      | none => rfl
      | some i =>
        exfalso
        rcases List.mem_cons.mp hmem with hsame | hpast
        · obtain ⟨-, rfl⟩ := RelayEvent.hub.inj hsame
          cases hmove with
          | advanced _ hpop => exact hpop k rfl
          | popped =>
            unfold popBinding at hpair
            simp only [Function.update_apply, if_pos trivial] at hpair
            cases hpair
        · rcases hmove.pairs hpair with hold | ⟨i', closeRaises, c, rfl, hc, hkey⟩
          · rw [h.unregistered p k hpast role] at hold
            cases hold
          · obtain ⟨handshake, hfound, hstage, hsame⟩ := h.accepted p i' c hc
            rw [← hkey, ← hsame] at hpast
            exact hundisturbed handshake hfound (h.checked p i' handshake hfound hstage hpast)
    · rcases List.mem_cons.mp hmem with hsame | hmem
      · exact absurd (RelayEvent.hub.inj hsame).1 hp
      · exact h.unregistered p k hmem role
  · intro p k hmem
    simp only [Function.update_apply]
    rcases List.mem_cons.mp hmem with hsame | hmem
    · obtain ⟨rfl, rfl⟩ := RelayEvent.hub.inj hsame
      rw [if_pos rfl]
      change (world.hubs p).closedBinding k = some hub at hstep
      unfold Hub.closedBinding at hstep
      split_ifs at hstep with hcloses
      obtain rfl := Option.some.inj hstep
      obtain ⟨entry, hentry, rfl⟩ := hcloses
      refine ⟨List.mem_cons_of_mem _ (h.entries p entry hentry), fun other hother hkey => ?_⟩
      have hne := of_decide_eq_true (List.mem_filter.mp hother).2
      exact absurd hkey hne
    · obtain ⟨hpopped, hentries⟩ := h.closed p k hmem
      refine ⟨List.mem_cons_of_mem _ hpopped, fun entry hentry hkey => ?_⟩
      split_ifs at hentry with hp
      · subst hp
        rcases hmove.entries hentry with hold | ⟨k', rfl, rfl⟩
        · exact hentries entry hold hkey
        · obtain rfl := hkey
          unfold endpoints
          dsimp only
          rw [h.unregistered p k' hpopped, h.unregistered p k' hpopped]
          rfl
      · exact hentries entry hentry hkey

lemma kept_step (h : Kept events world) (hundisturbed : Undisturbed events world e)
    (hstep : world.step e = some world') : Kept (e :: events) world' := by
  cases e with
  | service call =>
    obtain rfl := Option.some.inj hstep
    refine h.elsewhere rfl nofun ((DeviceCall.answer h.db).sound h.db)
      (fun k => revoked_perform h.db call) (fun _ _ _ hfound _ => hfound)
      fun p i handshake hfound hstage hmem => ?_
    exact mem_takeWhile_cons rfl (.inr (h.checked p i handshake hfound hstage hmem))
  | consumeTicket process call claims =>
    unfold RelayWorld.step at hstep
    dsimp only at hstep
    split_ifs at hstep with hnew
    obtain rfl := Option.some.inj hstep
    refine h.elsewhere rfl nofun h.db (fun _ => id) (fun p i handshake hfound hstage => ?_)
      fun p i handshake hfound hstage hmem => ?_
    · rw [RelayWorld.setHandshake_handshakes]
      split_ifs with hplace
      · obtain ⟨rfl, rfl⟩ := hplace
        rw [hfound] at hnew
        exact absurd rfl hnew
      · exact hfound
    · rw [RelayWorld.setHandshake_handshakes] at hfound
      split_ifs at hfound with hplace
      · obtain rfl := Option.some.inj hfound
        cases hstage
      · exact mem_takeWhile_cons rfl (.inr (h.checked p i handshake hfound hstage hmem))
  | checkClaims process call around =>
    obtain ⟨consumed, hconsumed, hstep⟩ := Option.bind_eq_some_iff.mp hstep
    obtain ⟨hbefore, hunchecked⟩ := Option.filter_eq_some_iff.mp hconsumed
    obtain rfl := Option.some.inj hstep
    have hwaits : consumed.stage = .consumed := of_decide_eq_true hunchecked
    refine h.elsewhere rfl nofun h.db (fun _ => id) (fun p i handshake hfound hstage => ?_)
      fun p i handshake hfound hstage hmem => ?_
    · rw [RelayWorld.setHandshake_handshakes]
      by_cases hplace : p = process ∧ i = call
      · obtain ⟨rfl, rfl⟩ := hplace
        obtain rfl := Option.some.inj (hfound.symm.trans hbefore)
        rw [hwaits] at hstage
        cases hstage
      · rw [if_neg hplace]
        exact hfound
    · rw [RelayWorld.setHandshake_handshakes] at hfound
      by_cases hplace : p = process ∧ i = call
      · rw [if_pos hplace] at hfound
        obtain rfl := Option.some.inj hfound
        cases hcurrent : relayClaimsAreCurrent world.db around consumed.claims with
        | false =>
          rw [hcurrent] at hstage
          cases hstage
        | true => exact absurd hmem (h.not_popped hcurrent p)
      · rw [if_neg hplace] at hfound
        refine mem_takeWhile_cons ?_ (.inr (h.checked p i handshake hfound hstage hmem))
        refine decide_eq_false fun hsame => hplace ⟨hsame.1.symm, hsame.2.symm⟩
  | hub process event =>
    unfold RelayWorld.step at hstep
    dsimp only at hstep
    split_ifs at hstep with hadmits
    obtain ⟨hub, hhub, rfl⟩ := Option.map_eq_some_iff.mp hstep
    exact h.hub hadmits hhub hundisturbed

/-- No endpoint of a closed generation is registered, and none of its frames delivered. -/
lemma Kept.final (h : Kept events world) : RevocationFinal events world where
  unregistered p k hmem := h.unregistered p k (h.closed p k hmem).1
  silent p k hmem i c hc hkey := by
    obtain ⟨hpopped, hentries⟩ := h.closed p k hmem
    unfold Hub.delivers
    rw [hc]
    cases hstage : c.stage with
    | forwarding j =>
      have hpeer := (h.tracked p).forwards i j c hc hstage
      obtain ⟨d, hd, hdkey, hholds⟩ := (h.tracked p).held i j c hc (.inr ⟨j, hstage⟩) hpeer
      rw [hkey] at hholds
      have hsocket : d.socketOpen = false := by
        rcases hholds with hclosed | hclosing | hlisted
        · exact hclosed
        · obtain ⟨entry, hentry, hj⟩ := List.mem_flatMap.mp hclosing
          obtain ⟨hmem', hentrykey⟩ := List.mem_filter.mp hentry
          rw [hentries entry hmem' (of_decide_eq_true hentrykey)] at hj
          cases hj
        · rw [h.unregistered p k hpopped] at hlisted
          cases hlisted
      simp [hstage, hd, hsocket]
    | accepted | waiting | ending | leaving | returned | raised => simp [hstage]

end

/-! ### Result -/

/-- When no generation is closed at a process between the check of a handshake and its entry,
closed generations stay closed in every state. -/
theorem revocation_final (events : List RelayEvent)
    (h : deviceRelays.Permitted Undisturbed events) :
    ∀ earlier, earlier <:+ events → ∀ world, deviceRelays.run earlier = some world →
      RevocationFinal earlier world := by
  intro earlier hearlier world hrun
  have hkept := Machine.run_induction (P := Kept) kept_empty
    (fun _ _ _ _ _ hkept hok hstep => kept_step hkept hok hstep) (h.suffix hearlier) hrun
  exact hkept.final

/-- The claims of the sample device for the first generation of its session. -/
def sampleRelayClaims : DeviceRelayTicketClaims := ⟨⟨1, 5, 7, 11, 3, 1⟩, .device, some 9⟩

def sampleSurroundings : RelaySurroundings where
  world := sampleDeviceWorld
  credential _ := some ⟨true, .device, some 5, seconds 100⟩
  now := seconds 1

/-- The device claims its session, spends a ticket and has its claims checked. -/
def checkedHandshake : List RelayEvent :=
  [.checkClaims 0 1 sampleSurroundings, .consumeTicket 0 1 sampleRelayClaims,
    .service (sampleDeviceCall 0 (.claim 11 sampleDeviceToken 7 []))]

/-- The user stops the session, and its generation is closed. -/
def closedGeneration : List RelayEvent :=
  [.hub 0 (.closedBinding ⟨11, 1⟩), .hub 0 (.popBinding ⟨11, 1⟩),
    .service (sampleDeviceCall 2 (.stopByDevice sampleDeviceToken 11 "user".toList))]

def enteredHub : List RelayEvent :=
  [.hub 0 (.connect 1 false), .hub 0 (.accept 1 ⟨11, 1⟩ .device)]

/-- A session that is closed after its device has entered the hub. -/
theorem revocation_final_closed : ∃ world,
    deviceRelays.run (closedGeneration ++ enteredHub ++ checkedHandshake) = some world ∧
      RevocationFinal (closedGeneration ++ enteredHub ++ checkedHandshake) world := by
  have hpossible :
      (deviceRelays.run (closedGeneration ++ enteredHub ++ checkedHandshake)).isSome := by
    decide +kernel
  obtain ⟨world, hrun⟩ := Option.isSome_iff_exists.mp hpossible
  refine ⟨world, hrun, revocation_final _ ?_ _ (List.suffix_refl _) world hrun⟩
  refine ⟨⟨⟨⟨⟨⟨⟨⟨trivial, ?_⟩, ?_⟩, ?_⟩, ?_⟩, fun _ _ handshake _ => ?_⟩, ?_⟩, ?_⟩, ?_⟩
  all_goals first | exact fun _ _ => trivial | skip
  simp [checkedHandshake, RelayEvent.checks]

/-- A generation is closed before a handshake enters that was checked before. -/
theorem handshake_outlives_revocation : ¬∀ events world, deviceRelays.run events = some world →
    RevocationFinal events world := by
  intro h
  have hentered : (deviceRelays.run (enteredHub ++ closedGeneration ++ checkedHandshake)).map
      (fun world => (world.hubs 0).pairs ⟨11, 1⟩ .device) = some (some 1) := by decide +kernel
  obtain ⟨world, hrun, hpair⟩ := Option.map_eq_some_iff.mp hentered
  have hclosed : RelayEvent.hub 0 (.closedBinding ⟨11, 1⟩) ∈
      enteredHub ++ closedGeneration ++ checkedHandshake := by
    simp [closedGeneration]
  rw [(h _ world hrun).unregistered 0 ⟨11, 1⟩ hclosed] at hpair
  cases hpair

end AgentRemote.Relay
