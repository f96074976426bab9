import AgentRemote.Relay.Moves

/-!
# Pairing of relay ends

What must hold of the calls and the table of a hub whatever order its steps come in, and when it
does: as long as no call is registered beside one that already has its peer, and no socket that
is closed alone raises.
-/

namespace AgentRemote.Relay
open Library

namespace Hub

/-- The hub after some events. -/
def steps (kind : HubKind) (hub : Hub) (events : List HubEvent) : Option Hub :=
  events.foldlM (Hub.step kind) hub

/-- The calls are linked: none fails, and futures that are settled with sockets name each other. -/
structure Linked (hub : Hub) : Prop where
  quiet : ∀ i c, hub.connections i = some c → c.stage.failing = false
  facing : ∀ i j c, hub.connections i = some c → c.peer = .socket j →
    ∃ d, hub.connections j = some d ∧ d.peer = .socket i ∧ d.key = c.key ∧ d.role = c.role.peer
  forwards : ∀ i j c, hub.connections i = some c → c.stage = .forwarding j → c.peer = .socket j
  fresh : ∀ i c, hub.connections i = some c → c.stage = .accepted → c.peer = .pending

/-- The endpoints in the table are those of engaged calls. -/
def Registered (hub : Hub) : Prop :=
  ∀ key role i, hub.pairs key role = some i → ∃ c, hub.connections i = some c ∧ c.key = key ∧
    c.role = role ∧ c.stage.engaged = true

variable {kind : HubKind} {hub hub' : Hub} {call i j : ℕ} {c d : Connection} {calm : Prop}

lemma Advances.linked (h : hub.Advances calm hub') (hcalm : calm) (hlinked : hub.Linked) :
    hub'.Linked where
  quiet i d hd := by
    obtain ⟨c, hc, hadvances⟩ := h.old hd
    have hquiet := hlinked.quiet i c hc
    rcases hadvances.stage with hsame | ⟨-, -, -, -, -, hkept⟩
    · rw [hsame]
      exact hquiet
    · exact (hkept hcalm hquiet).2
  facing i j d hd hpeer := by
    obtain ⟨c, hc, hadvances⟩ := h.old hd
    obtain ⟨e, he, hepeer, hkey, hrole⟩ := hlinked.facing i j c hc (hadvances.peer.symm.trans hpeer)
    obtain ⟨e', he', hadvances'⟩ := h.new he
    refine ⟨e', he', hadvances'.peer.trans hepeer, ?_, ?_⟩
    · rw [hadvances'.key, hkey, hadvances.key]
    · rw [hadvances'.role, hrole, hadvances.role]
  forwards i j d hd hstage := by
    obtain ⟨c, hc, hadvances⟩ := h.old hd
    rw [hadvances.peer]
    rcases hadvances.stage with hsame | ⟨-, -, -, hforwards, -, -⟩
    · exact hlinked.forwards i j c hc (hsame.symm.trans hstage)
    · exact (hforwards j hstage).2
  fresh i d hd hstage := by
    obtain ⟨c, hc, hadvances⟩ := h.old hd
    rw [hadvances.peer]
    rcases hadvances.stage with hsame | ⟨-, haccepted, -⟩
    · exact hlinked.fresh i c hc (hsame.symm.trans hstage)
    · exact absurd hstage haccepted

lemma Advances.registered (h : hub.Advances calm hub') (hcalm : calm) (hlinked : hub.Linked)
    (hregistered : hub.Registered) : hub'.Registered := by
  intro key role i hi
  rw [h.pairs] at hi
  obtain ⟨c, hc, hkey, hrole, hengaged⟩ := hregistered key role i hi
  obtain ⟨d, hd, hadvances⟩ := h.new hc
  refine ⟨d, hd, hadvances.key.trans hkey, hadvances.role.trans hrole, ?_⟩
  rcases hadvances.stage with hsame | ⟨-, -, -, -, -, hkept⟩
  · rw [hsame]
    exact hengaged
  · exact (hkept hcalm (hlinked.quiet i c hc)).1

/-- A call enters a stage in which it does not forward. -/
lemma Linked.restage (h : hub.Linked) (hc : hub.connections call = some c) {s : Stage} {b : Bool}
    (hquiet : s.failing = false) (haccepted : s ≠ .accepted) (hforwards : ∀ j, s ≠ .forwarding j) :
    (hub.put call { c with stage := s, socketOpen := b }).Linked where
  quiet i d hd := by
    rw [put_connections] at hd
    split_ifs at hd with hi
    · obtain rfl := Option.some.inj hd
      exact hquiet
    · exact h.quiet i d hd
  facing i j d hd hpeer := by
    have hold : ∃ e, hub.connections i = some e ∧ e.peer = d.peer ∧ e.key = d.key ∧
        e.role = d.role := by
      rw [put_connections] at hd
      split_ifs at hd with hi
      · obtain rfl := Option.some.inj hd
        exact ⟨c, hi ▸ hc, rfl, rfl, rfl⟩
      · exact ⟨d, hd, rfl, rfl, rfl⟩
    obtain ⟨e, he, hepeer, hekey, herole⟩ := hold
    obtain ⟨p, hp, hppeer, hpkey, hprole⟩ := h.facing i j e he (hepeer.trans hpeer)
    rw [hekey] at hpkey
    rw [herole] at hprole
    rw [put_connections]
    by_cases hj : j = call
    · rw [if_pos hj]
      rw [hj, hc] at hp
      obtain rfl := Option.some.inj hp
      exact ⟨_, rfl, hppeer, hpkey, hprole⟩
    · rw [if_neg hj]
      exact ⟨p, hp, hppeer, hpkey, hprole⟩
  forwards i j d hd hstage := by
    rw [put_connections] at hd
    split_ifs at hd with hi
    · obtain rfl := Option.some.inj hd
      exact absurd hstage (hforwards j)
    · exact h.forwards i j d hd hstage
  fresh i d hd hstage := by
    rw [put_connections] at hd
    split_ifs at hd with hi
    · obtain rfl := Option.some.inj hd
      exact absurd hstage haccepted
    · exact h.fresh i d hd hstage

/-- An engaged call stays registered in another engaged stage. -/
lemma Registered.unlisted (h : hub.Registered) (hc : hub.connections call = some c)
    (hstage : c.stage.engaged = false) (key : RelayBinding) (role : RelayRole) :
    hub.pairs key role ≠ some call := by
  intro hpair
  obtain ⟨d, hd, -, -, hengaged⟩ := h key role call hpair
  obtain rfl := Option.some.inj (hc.symm.trans hd)
  rw [hstage] at hengaged
  cases hengaged

/-- A call that is not in the table may change as it likes. -/
lemma Registered.put (h : hub.Registered)
    (hunlisted : ∀ key role, hub.pairs key role ≠ some call) (d : Connection) :
    (hub.put call d).Registered := by
  intro key role i hi
  rw [put_pairs] at hi
  have hne : i ≠ call := by
    rintro rfl
    exact hunlisted key role hi
  rw [put_connections, if_neg hne]
  exact h key role i hi

/-- Links are a matter of the calls. -/
lemma Linked.of_connections (h : hub.Linked) (hsame : hub'.connections = hub.connections) :
    hub'.Linked := by
  constructor
  · rw [hsame]
    exact h.quiet
  · rw [hsame]
    exact h.facing
  · rw [hsame]
    exact h.forwards
  · rw [hsame]
    exact h.fresh

lemma Linked.accept (h : hub.Linked) (hnew : hub.connections call = none) (key : RelayBinding)
    (role : RelayRole) : (hub.put call ⟨key, role, .accepted, .pending, true⟩).Linked where
  quiet i d hd := by
    rw [put_connections] at hd
    split_ifs at hd
    · obtain rfl := Option.some.inj hd
      rfl
    · exact h.quiet i d hd
  facing i j d hd hpeer := by
    rw [put_connections] at hd
    split_ifs at hd
    · obtain rfl := Option.some.inj hd
      cases hpeer
    · obtain ⟨e, he, hrest⟩ := h.facing i j d hd hpeer
      have hj : j ≠ call := by
        rintro rfl
        rw [hnew] at he
        cases he
      rw [put_connections, if_neg hj]
      exact ⟨e, he, hrest⟩
  forwards i j d hd hstage := by
    rw [put_connections] at hd
    split_ifs at hd
    · obtain rfl := Option.some.inj hd
      cases hstage
    · exact h.forwards i j d hd hstage
  fresh i d hd hstage := by
    rw [put_connections] at hd
    split_ifs at hd
    · obtain rfl := Option.some.inj hd
      rfl
    · exact h.fresh i d hd hstage

/-- Two calls whose futures are pending name each other. -/
lemma Linked.pair (h : hub.Linked) {other : ℕ} (hc : hub.connections call = some c)
    (hstage : c.stage = .accepted) (hd : hub.connections other = some d) (hpending : d.peer = .pending)
    (hkey : d.key = c.key) (hrole : d.role = c.role.peer) (hstage' : d.stage ≠ .accepted) :
    ((hub.put call { c with stage := .waiting, peer := .socket other }).put other
      { d with peer := .socket call }).Linked := by
  have hne : call ≠ other := by
    rintro rfl
    rw [hc] at hd
    obtain rfl := Option.some.inj hd
    exact hstage' hstage
  have hunnamed : ∀ i e, hub.connections i = some e → ∀ k, e.peer = .socket k →
      k ≠ call ∧ k ≠ other := by
    intro i e he k hk
    obtain ⟨p, hp, hppeer, -⟩ := h.facing i k e he hk
    constructor
    · rintro rfl
      rw [hc] at hp
      obtain rfl := Option.some.inj hp
      rw [h.fresh _ _ hc hstage] at hppeer
      cases hppeer
    · rintro rfl
      rw [hd] at hp
      obtain rfl := Option.some.inj hp
      rw [hpending] at hppeer
      cases hppeer
  have hforwards : ∀ j, d.stage ≠ .forwarding j := by
    intro j hj
    have hpeer := h.forwards other j d hd hj
    rw [hpending] at hpeer
    cases hpeer
  constructor
  · intro i e he
    simp only [put_connections] at he
    split_ifs at he
    · obtain rfl := Option.some.inj he
      exact h.quiet other d hd
    · obtain rfl := Option.some.inj he
      rfl
    · exact h.quiet i e he
  · intro i j e he hpeer
    simp only [put_connections] at he ⊢
    split_ifs at he with hi hi'
    · obtain rfl := Option.some.inj he
      obtain rfl := PeerFuture.socket.inj hpeer
      rw [if_neg hne, if_pos rfl]
      refine ⟨_, rfl, by rw [hi], hkey.symm, ?_⟩
      dsimp only
      rw [hrole, RelayRole.peer_peer]
    · obtain rfl := Option.some.inj he
      obtain rfl := PeerFuture.socket.inj hpeer
      rw [if_pos rfl]
      exact ⟨_, rfl, by rw [hi'], hkey, hrole⟩
    · obtain ⟨hj, hj'⟩ := hunnamed i e he j hpeer
      rw [if_neg hj', if_neg hj]
      exact h.facing i j e he hpeer
  · intro i j e he hforward
    simp only [put_connections] at he
    split_ifs at he
    · obtain rfl := Option.some.inj he
      exact absurd hforward (hforwards j)
    · obtain rfl := Option.some.inj he
      cases hforward
    · exact h.forwards i j e he hforward
  · intro i e he haccepted
    simp only [put_connections] at he
    split_ifs at he
    · obtain rfl := Option.some.inj he
      exact absurd haccepted hstage'
    · obtain rfl := Option.some.inj he
      cases haccepted
    · exact h.fresh i e he haccepted

/-- Futures that `close_binding` settles name nobody. -/
lemma Linked.pop (h : hub.Linked) (hregistered : hub.Registered) (key : RelayBinding) :
    (hub.popBinding kind key).Linked := by
  have hold : ∀ i d, (hub.popBinding kind key).connections i = some d →
      ∃ c, hub.connections i = some c ∧ d.key = c.key ∧ d.role = c.role ∧ d.stage = c.stage ∧
        (d.peer = c.peer ∨ c.peer = .pending ∧ d.peer = .bindingClosed ∧ c.stage ≠ .accepted) := by
    intro i d hd
    obtain ⟨c, hc, rfl⟩ := Option.map_eq_some_iff.mp hd
    refine ⟨c, hc, ?_⟩
    split_ifs with hclosed
    · refine ⟨rfl, rfl, rfl, .inr ⟨hclosed.2, rfl, fun haccepted => ?_⟩⟩
      have hlisted : hub.pairs key .device = some i ∨ hub.pairs key .proxy = some i := by
        simpa [endpoints] using hclosed.1
      have hunlisted := hregistered.unlisted hc (by rw [haccepted]; rfl) key
      exact hlisted.elim (hunlisted .device) (hunlisted .proxy)
    · exact ⟨rfl, rfl, rfl, .inl rfl⟩
  constructor
  · intro i d hd
    obtain ⟨c, hc, -, -, hstage, -⟩ := hold i d hd
    rw [hstage]
    exact h.quiet i c hc
  · intro i j d hd hpeer
    obtain ⟨c, hc, hkey, hrole, -, hfuture⟩ := hold i d hd
    rcases hfuture with hsame | ⟨-, hclosed, -⟩
    · obtain ⟨e, he, hepeer, hekey, herole⟩ := h.facing i j c hc (hsame.symm.trans hpeer)
      refine ⟨e, ?_, hepeer, hekey.trans hkey.symm, by rw [herole, hrole]⟩
      unfold popBinding
      dsimp only
      rw [he, Option.map_some, if_neg (by rw [hepeer]; exact fun h => nomatch h.2)]
    · rw [hclosed] at hpeer
      cases hpeer
  · intro i j d hd hstage
    obtain ⟨c, hc, -, -, hsame, hfuture⟩ := hold i d hd
    have hpeer := h.forwards i j c hc (hsame.symm.trans hstage)
    rcases hfuture with hkept | ⟨hpending, -⟩
    · exact hkept.trans hpeer
    · rw [hpending] at hpeer
      cases hpeer
  · intro i d hd hstage
    obtain ⟨c, hc, -, -, hsame, hfuture⟩ := hold i d hd
    have haccepted := hsame.symm.trans hstage
    rcases hfuture with hkept | ⟨-, -, hnot⟩
    · exact hkept.trans (h.fresh i c hc haccepted)
    · exact absurd haccepted hnot

/-- The table gets one more endpoint. -/
lemma Registered.register {left : Hub} (h : hub.Registered) {role : RelayRole} {key : RelayBinding}
    (hpairs : left.pairs = (hub.setPair key role (some call)).pairs)
    (hc : ∃ c, left.connections call = some c ∧ c.key = key ∧ c.role = role ∧ c.stage.engaged = true)
    (hkept : ∀ i c, i ≠ call → hub.connections i = some c → c.stage.engaged = true →
      ∃ d, left.connections i = some d ∧ d.key = c.key ∧ d.role = c.role ∧ d.stage = c.stage)
    (hunlisted : ∀ k r, hub.pairs k r ≠ some call) : left.Registered := by
  intro k r i hi
  rw [hpairs, setPair_pairs] at hi
  split_ifs at hi with hplace
  · obtain rfl := Option.some.inj hi
    obtain ⟨rfl, rfl⟩ := hplace
    exact hc
  · have hne : i ≠ call := by
      rintro rfl
      exact hunlisted k r hi
    obtain ⟨c, hc', hkey, hrole, hengaged⟩ := h k r i hi
    obtain ⟨d, hd, hdkey, hdrole, hdstage⟩ := hkept i c hne hc' hengaged
    exact ⟨d, hd, hdkey.trans hkey, hdrole.trans hrole, by rw [hdstage, hengaged]⟩

end Hub

open Hub

/-- Calm steps keep calls linked and the table to those that run. -/
lemma HubMove.keeps {kind : HubKind} {hub hub' : Hub} {e : HubEvent} (h : HubMove kind hub e hub')
    (hcalm : hub.Calm kind e) (hlinked : hub.Linked) (hregistered : hub.Registered) :
    hub'.Linked ∧ hub'.Registered := by
  cases h with
  | advanced _ _ hadvances =>
    exact ⟨hadvances.linked hcalm hlinked, hadvances.registered hcalm hlinked hregistered⟩
  | accepted call key role hnew =>
    refine ⟨hlinked.accept hnew key role, hregistered.put (fun k r hpair => ?_) _⟩
    obtain ⟨c, hc, -⟩ := hregistered k r call hpair
    rw [hnew] at hc
    cases hc
  | @refused call closeRaises c hc hstage hrefuses =>
    have hraises := (hcalm c (callAt_eq_some.mpr ⟨hc, hstage⟩)).1 hrefuses
    have hidle : c.stage.engaged = false := by
      rw [hstage]
      rfl
    subst hraises
    exact ⟨hlinked.restage hc rfl nofun nofun, hregistered.put (hregistered.unlisted hc hidle) _⟩
  | @lone call closeRaises c hc hstage hrefuses hpair =>
    have hidle : c.stage.engaged = false := by
      rw [hstage]
      rfl
    have hwaits : (hub.put call { c with stage := .waiting }).Linked :=
      hlinked.restage hc rfl nofun nofun
    refine ⟨hwaits.of_connections rfl, ?_⟩
    refine hregistered.register rfl ⟨_, (put_connections ..).trans (if_pos rfl), rfl, rfl, rfl⟩
      (fun i d hi hd _ => ?_) (hregistered.unlisted hc hidle)
    exact ⟨d, by simp [hi, hd], rfl, rfl, rfl⟩
  | @paired call closeRaises other c d hc hstage hrefuses hpair hd hpending =>
    have hidle : c.stage.engaged = false := by
      rw [hstage]
      rfl
    obtain ⟨d', hd', hkey, hrole, hengaged⟩ := hregistered _ _ _ hpair
    obtain rfl := Option.some.inj (hd.symm.trans hd')
    have hnotaccepted : d.stage ≠ .accepted := by
      intro haccepted
      rw [haccepted] at hengaged
      cases hengaged
    have hne : call ≠ other := by
      rintro rfl
      rw [hc] at hd
      obtain rfl := Option.some.inj hd
      exact hnotaccepted hstage
    have hpaired := hlinked.pair hc hstage hd hpending hkey hrole hnotaccepted
    refine ⟨hpaired.of_connections rfl, ?_⟩
    refine hregistered.register rfl
      ⟨_, ((put_connections ..).trans (if_neg hne)).trans ((put_connections ..).trans (if_pos rfl)),
        rfl, rfl, rfl⟩
      (fun i b hi hb _ => ?_) (hregistered.unlisted hc hidle)
    by_cases hother : i = other
    · subst hother
      obtain rfl := Option.some.inj (hd.symm.trans hb)
      exact ⟨_, (put_connections ..).trans (if_pos rfl), rfl, rfl, rfl⟩
    · exact ⟨b, by simp [hi, hother, hb], rfl, rfl, rfl⟩
  | @collided call closeRaises other c d hc hstage hrefuses hpair hd hsettled =>
    exact absurd ((hcalm c (callAt_eq_some.mpr ⟨hc, hstage⟩)).2 hrefuses other d hpair hd) hsettled
  | @removed call raises c hc hstage =>
    have hquiet : raises = false := by
      have hquiet := hlinked.quiet call c hc
      rwa [hstage] at hquiet
    subst hquiet
    have hleft : (hub.put call { c with stage := .done false }).Linked :=
      hlinked.restage hc rfl nofun nofun
    split_ifs with hpair
    · refine ⟨⟨hleft.quiet, hleft.facing, hleft.forwards, hleft.fresh⟩, fun k r i hi => ?_⟩
      rw [setPair_pairs] at hi
      split_ifs at hi with hplace
      obtain ⟨d, hd, hkey, hrole, hengaged⟩ := hregistered k r i hi
      have hne : i ≠ call := by
        rintro rfl
        obtain rfl := Option.some.inj (hc.symm.trans hd)
        exact hplace ⟨hkey.symm, hrole.symm⟩
      exact ⟨d, by simp [hne, hd], hkey, hrole, hengaged⟩
    · refine ⟨hleft, hregistered.put (fun k r hlisted => ?_) _⟩
      obtain ⟨d, hd, hkey, hrole, -⟩ := hregistered k r call hlisted
      obtain rfl := Option.some.inj (hc.symm.trans hd)
      subst hkey hrole
      exact hpair hlisted
  | popped key =>
    refine ⟨hlinked.pop hregistered key, fun k r i hi => ?_⟩
    have hkept : hub.pairs k r = some i := by
      unfold popBinding at hi
      simp only [Function.update_apply] at hi
      split_ifs at hi
      exact hi
    obtain ⟨c, hc, hkey, hrole, hengaged⟩ := hregistered k r i hkept
    unfold popBinding
    dsimp only
    rw [hc, Option.map_some]
    refine ⟨_, rfl, ?_⟩
    split_ifs <;> exact ⟨hkey, hrole, hengaged⟩

/-! ### Runs -/

section

variable {kind : HubKind} {hub : Hub} {events : List HubEvent}

end

end AgentRemote.Relay
