import AgentRemote.Relay.Hub

/-!
# What a step does to a hub

Every step lets calls advance, or takes one of seven ways to change the table of endpoints.
-/

namespace AgentRemote.Relay
open Library

@[simp] lemma RelayRole.peer_peer (role : RelayRole) : role.peer.peer = role := by
  cases role <;> rfl

namespace Stage

/-- The call has been registered and not yet ended. -/
def engaged : Stage → Bool
  | waiting | forwarding _ | ending .. | leaving _ => true
  | _ => false

/-- The call has raised an error or is going to. -/
def failing : Stage → Bool
  | ending _ raises | leaving raises => raises
  | raised => true
  | _ => false

end Stage

/-- How a call advances after its registration. It does not fail when it is `calm`. -/
structure Connection.Advances (calm : Prop) (c c' : Connection) : Prop where
  key : c'.key = c.key
  role : c'.role = c.role
  peer : c'.peer = c.peer
  socket : c'.socketOpen = true → c.socketOpen = true
  stage : c'.stage = c.stage ∨ c.stage.engaged = true ∧ c'.stage ≠ .accepted ∧
    c'.stage ≠ .waiting ∧
    (∀ j, c'.stage = .forwarding j → c.stage = .waiting ∧ c.peer = .socket j) ∧
    (∀ raises, c'.stage = .leaving raises → c'.socketOpen = false) ∧
    (calm → c.stage.failing = false → c'.stage.engaged = true ∧ c'.stage.failing = false)

lemma Connection.Advances.refl {calm : Prop} (c : Connection) : c.Advances calm c :=
  ⟨rfl, rfl, rfl, id, .inl rfl⟩

namespace Hub

variable {kind : HubKind} {hub hub' : Hub} {call : ℕ} {c : Connection} {calm : Prop}

@[simp] lemma put_connections (hub : Hub) (call j : ℕ) (c : Connection) :
    (hub.put call c).connections j = if j = call then some c else hub.connections j := by
  simp only [put, Function.update_apply]

@[simp] lemma put_pairs (hub : Hub) (call : ℕ) (c : Connection) :
    (hub.put call c).pairs = hub.pairs := rfl

@[simp] lemma put_closing (hub : Hub) (call : ℕ) (c : Connection) (key : RelayBinding) :
    (hub.put call c).closingSockets key = hub.closingSockets key := rfl

@[simp] lemma setPair_connections (hub : Hub) (key : RelayBinding) (role : RelayRole)
    (endpoint : Option ℕ) : (hub.setPair key role endpoint).connections = hub.connections := rfl

@[simp] lemma setPair_closing (hub : Hub) (key k : RelayBinding) (role : RelayRole)
    (endpoint : Option ℕ) :
    (hub.setPair key role endpoint).closingSockets k = hub.closingSockets k := rfl

lemma setPair_pairs (hub : Hub) (key k : RelayBinding) (role r : RelayRole)
    (endpoint : Option ℕ) : (hub.setPair key role endpoint).pairs k r =
      if k = key ∧ r = role then endpoint else hub.pairs k r := by
  simp only [setPair, Function.update_apply]
  by_cases hk : k = key
  · subst hk
    by_cases hr : r = role
    · simp [hr]
    · simp [hr]
  · simp [hk]

@[simp] lemma closeSocket_pairs (hub : Hub) (call : ℕ) : (hub.closeSocket call).pairs = hub.pairs :=
  rfl

@[simp] lemma closeSocket_closing (hub : Hub) (call : ℕ) (key : RelayBinding) :
    (hub.closeSocket call).closingSockets key = hub.closingSockets key := rfl

lemma closeSocket_connections (hub : Hub) (call j : ℕ) : (hub.closeSocket call).connections j =
    (hub.connections j).map fun c => if j = call then { c with socketOpen := false } else c := by
  simp only [closeSocket, Function.update_apply]
  by_cases h : j = call
  · simp [h]
  · simp [h]

lemma callAt_eq_some {stage : Stage} :
    hub.callAt call stage = some c ↔ hub.connections call = some c ∧ c.stage = stage := by
  simp [callAt, Option.filter_eq_some_iff]

/-- All calls advance, and sockets that were being closed still are or have been. -/
structure Advances (calm : Prop) (hub hub' : Hub) : Prop where
  pairs : hub'.pairs = hub.pairs
  connections : ∀ i, Option.Rel (Connection.Advances calm) (hub.connections i) (hub'.connections i)
  closing : ∀ key, ∀ j ∈ hub.closingSockets key, j ∈ hub'.closingSockets key ∨
    ∀ d, hub'.connections j = some d → d.socketOpen = false
  entries : hub'.closing ⊆ hub.closing

lemma Advances.old (h : hub.Advances calm hub') {i : ℕ} {d : Connection}
    (hd : hub'.connections i = some d) :
    ∃ c, hub.connections i = some c ∧ c.Advances calm d := by
  have hi := h.connections i
  rw [hd] at hi
  cases hold : hub.connections i with
  | none =>
    rw [hold] at hi
    cases hi
  | some c =>
    rw [hold] at hi
    cases hi with
    | some hadvances => exact ⟨c, rfl, hadvances⟩

lemma Advances.new (h : hub.Advances calm hub') {i : ℕ}
    (hc : hub.connections i = some c) : ∃ d, hub'.connections i = some d ∧ c.Advances calm d := by
  have hi := h.connections i
  rw [hc] at hi
  cases hnew : hub'.connections i with
  | none =>
    rw [hnew] at hi
    cases hi
  | some d =>
    rw [hnew] at hi
    cases hi with
    | some hadvances => exact ⟨d, rfl, hadvances⟩

variable (kind hub) in
/-- The step makes no call fail: no socket that is closed alone raises, and no call is registered
beside one that has its peer. -/
def Calm : HubEvent → Prop
  | .connect call closeRaises => ∀ c, hub.callAt call .accepted = some c →
    (refuses kind hub c.key c.role = true → closeRaises = false) ∧
    (refuses kind hub c.key c.role = false → ∀ other d,
      hub.pairs c.key c.role.peer = some other → hub.connections other = some d →
        d.peer = .pending)
  | .finish _ closeRaises => closeRaises = false
  | .endCall call closeRaises => ∀ c raises, hub.connections call = some c →
    c.stage = .ending none raises → closeRaises = false
  | _ => True

/-- One call advances, and perhaps sockets are closed. -/
lemma advances_put {c' : Connection} (hc : hub.connections call = some c)
    (h : c.Advances calm c') : hub.Advances calm (hub.put call c') where
  pairs := rfl
  connections i := by
    rw [put_connections]
    by_cases hi : i = call
    · rw [if_pos hi, hi, hc]
      exact .some h
    · rw [if_neg hi]
      cases hub.connections i with
      | none => exact .none
      | some d => exact .some (.refl d)
  closing key j hj := .inl hj
  entries := List.Subset.refl _

lemma Advances.closeSocket (h : hub.Advances calm hub') (other : ℕ) :
    hub.Advances calm (hub'.closeSocket other) where
  pairs := h.pairs
  connections i := by
    have hi := h.connections i
    rw [closeSocket_connections]
    cases hnew : hub'.connections i with
    | none =>
      rw [hnew] at hi
      exact hi
    | some d =>
      rw [hnew] at hi
      cases hold : hub.connections i with
      | none =>
        rw [hold] at hi
        cases hi
      | some b =>
        rw [hold] at hi
        obtain ⟨hi⟩ := hi
        rw [Option.map_some]
        split_ifs
        · refine .some ⟨hi.key, hi.role, hi.peer, nofun, ?_⟩
          rcases hi.stage with hsame | ⟨hengaged, haccepted, hwaiting, hforwards, -, hcalm⟩
          · exact .inl hsame
          · exact .inr ⟨hengaged, haccepted, hwaiting, hforwards, fun _ _ => rfl, hcalm⟩
        · exact .some hi
  closing key j hj := by
    rcases h.closing key j hj with hkept | hclosed
    · exact .inl hkept
    · refine .inr fun d hd => ?_
      rw [closeSocket_connections, Option.map_eq_some_iff] at hd
      obtain ⟨b, hb, rfl⟩ := hd
      split_ifs
      · rfl
      · exact hclosed b hb
  entries := h.entries

end Hub

open Hub

/-- The ways in which a step changes a hub. -/
inductive HubMove (kind : HubKind) (hub : Hub) : HubEvent → Hub → Prop
  | advanced {e : HubEvent} {hub' : Hub} : (∀ call closeRaises, e ≠ .connect call closeRaises) →
      (∀ key, e ≠ .popBinding key) → hub.Advances (hub.Calm kind e) hub' → HubMove kind hub e hub'
  | accepted (call : ℕ) (key : RelayBinding) (role : RelayRole) :
      hub.connections call = none →
      HubMove kind hub (.accept call key role) (hub.put call ⟨key, role, .accepted, .pending, true⟩)
  | refused (call : ℕ) (closeRaises : Bool) {c : Connection} :
      hub.connections call = some c → c.stage = .accepted → refuses kind hub c.key c.role = true →
      HubMove kind hub (.connect call closeRaises)
        (hub.put call { c with stage := .done closeRaises, socketOpen := false })
  | lone (call : ℕ) (closeRaises : Bool) {c : Connection} :
      hub.connections call = some c → c.stage = .accepted → refuses kind hub c.key c.role = false →
      hub.pairs c.key c.role.peer = none →
      HubMove kind hub (.connect call closeRaises)
        ((hub.setPair c.key c.role (some call)).put call { c with stage := .waiting })
  | paired (call : ℕ) (closeRaises : Bool) {other : ℕ} {c d : Connection} :
      hub.connections call = some c → c.stage = .accepted → refuses kind hub c.key c.role = false →
      hub.pairs c.key c.role.peer = some other → hub.connections other = some d →
      d.peer = .pending →
      HubMove kind hub (.connect call closeRaises)
        (((hub.setPair c.key c.role (some call)).put call
          { c with stage := .waiting, peer := .socket other }).put other
            { d with peer := .socket call })
  | collided (call : ℕ) (closeRaises : Bool) {other : ℕ} {c d : Connection} :
      hub.connections call = some c → c.stage = .accepted → refuses kind hub c.key c.role = false →
      hub.pairs c.key c.role.peer = some other → hub.connections other = some d →
      d.peer ≠ .pending →
      HubMove kind hub (.connect call closeRaises)
        ((hub.setPair c.key c.role (some call)).put call
          { c with stage := .raised, peer := .socket other })
  | removed (call : ℕ) {raises : Bool} {c : Connection} : hub.connections call = some c →
      c.stage = .leaving raises →
      HubMove kind hub (.remove call)
        (if hub.pairs c.key c.role = some call then
          (hub.put call { c with stage := .done raises }).setPair c.key c.role none
        else hub.put call { c with stage := .done raises })
  | popped (key : RelayBinding) : HubMove kind hub (.popBinding key) (hub.popBinding kind key)

section

variable {kind : HubKind} {hub hub' : Hub} {call : ℕ} {closeRaises : Bool} {key : RelayBinding}

lemma connect_move (h : hub.connect kind call closeRaises = some hub') :
    HubMove kind hub (.connect call closeRaises) hub' := by
  unfold Hub.connect at h
  obtain ⟨c, hcall, h⟩ := Option.bind_eq_some_iff.mp h
  obtain ⟨hc, hstage⟩ := callAt_eq_some.mp hcall
  cases hrefuses : refuses kind hub c.key c.role with
  | true =>
    simp only [hrefuses, if_true, Option.some.injEq] at h
    subst h
    exact .refused call closeRaises hc hstage hrefuses
  | false =>
    simp only [hrefuses, Bool.false_eq_true, if_false] at h
    cases hpair : hub.pairs c.key c.role.peer with
    | none =>
      simp only [hpair, Option.some.injEq] at h
      subst h
      exact .lone call closeRaises hc hstage hrefuses hpair
    | some other =>
      simp only [hpair] at h
      obtain ⟨d, hd, h⟩ := Option.bind_eq_some_iff.mp h
      split_ifs at h with hpending
      · obtain rfl := Option.some.inj h
        exact .paired call closeRaises hc hstage hrefuses hpair hd hpending
      · obtain rfl := Option.some.inj h
        exact .collided call closeRaises hc hstage hrefuses hpair hd hpending

section

variable {c d : Connection} {other : ℕ} (hc : hub.connections call = some c)
  (hstage : c.stage = .accepted) (hrefuses : refuses kind hub c.key c.role = false)

include hc hstage hrefuses

end

lemma wake_advances {calm : Prop} (h : hub.wake call = some hub') : hub.Advances calm hub' := by
  unfold Hub.wake at h
  obtain ⟨c, hcall, h⟩ := Option.bind_eq_some_iff.mp h
  obtain ⟨hc, hstage⟩ := callAt_eq_some.mp hcall
  have hengaged : c.stage.engaged = true := by
    rw [hstage]
    rfl
  cases hpeer : c.peer with
  | pending =>
    rw [hpeer] at h
    cases h
  | socket other =>
    simp only [hpeer, Option.some.injEq] at h
    subst h
    refine advances_put hc ⟨rfl, rfl, hpeer.symm, id, .inr ⟨hengaged, nofun, nofun, ?_, nofun, ?_⟩⟩
    · intro j hj
      rw [hpeer, Stage.forwarding.inj hj]
      exact ⟨hstage, rfl⟩
    · exact fun _ _ => ⟨rfl, rfl⟩
  | bindingClosed =>
    simp only [hpeer, Option.some.injEq] at h
    subst h
    exact advances_put hc ⟨rfl, rfl, hpeer.symm, id,
      .inr ⟨hengaged, nofun, nofun, nofun, nofun, fun _ _ => ⟨rfl, rfl⟩⟩⟩

lemma timeOut_advances {calm : Prop} (h : hub.timeOut call = some hub') :
    hub.Advances calm hub' := by
  unfold Hub.timeOut at h
  obtain ⟨c, hcall, h⟩ := Option.bind_eq_some_iff.mp h
  obtain ⟨hc, hstage⟩ := callAt_eq_some.mp hcall
  have hengaged : c.stage.engaged = true := by
    rw [hstage]
    rfl
  obtain rfl := Option.some.inj h
  exact advances_put hc ⟨rfl, rfl, rfl, id,
    .inr ⟨hengaged, nofun, nofun, nofun, nofun, fun _ _ => ⟨rfl, rfl⟩⟩⟩

lemma advances_refl {calm : Prop} (hub : Hub) : hub.Advances calm hub where
  pairs := rfl
  connections i := by
    cases hub.connections i with
    | none => exact .none
    | some c => exact .some (.refl c)
  closing key j hj := .inl hj
  entries := List.Subset.refl _

lemma forward_advances {calm : Prop} (h : hub.forward call = some hub') :
    hub.Advances calm hub' := by
  unfold Hub.forward at h
  obtain ⟨c, hc, h⟩ := Option.bind_eq_some_iff.mp h
  cases hstage : c.stage with
  | forwarding other =>
    simp only [hstage] at h
    split_ifs at h
    · obtain rfl := Option.some.inj h
      exact advances_refl hub
    · have hengaged : c.stage.engaged = true := by
        rw [hstage]
        rfl
      obtain rfl := Option.some.inj h
      exact advances_put hc ⟨rfl, rfl, rfl, id,
        .inr ⟨hengaged, nofun, nofun, nofun, nofun, fun _ _ => ⟨rfl, rfl⟩⟩⟩
  | accepted | waiting | ending | leaving | returned | raised =>
    rw [hstage] at h
    cases h

lemma finish_advances (h : hub.finish call closeRaises = some hub') :
    hub.Advances (closeRaises = false) hub' := by
  unfold Hub.finish at h
  obtain ⟨c, hc, h⟩ := Option.bind_eq_some_iff.mp h
  cases hstage : c.stage with
  | forwarding other =>
    simp only [hstage, Option.some.injEq] at h
    subst h
    have hengaged : c.stage.engaged = true := by
      rw [hstage]
      rfl
    exact advances_put hc ⟨rfl, rfl, rfl, id,
      .inr ⟨hengaged, nofun, nofun, nofun, nofun, fun hcalm _ => ⟨rfl, hcalm⟩⟩⟩
  | accepted | waiting | ending | leaving | returned | raised =>
    rw [hstage] at h
    cases h

lemma endCall_advances (h : hub.endCall kind call closeRaises = some hub') :
    hub.Advances (hub.Calm kind (.endCall call closeRaises)) hub' := by
  unfold Hub.endCall at h
  obtain ⟨c, hc, h⟩ := Option.bind_eq_some_iff.mp h
  cases hstage : c.stage with
  | ending peer raises =>
    have hengaged : c.stage.engaged = true := by
      rw [hstage]
      rfl
    cases peer with
    | some other =>
      simp only [hstage, Option.some.injEq] at h
      subst h
      have hleaves : c.Advances (hub.Calm kind (.endCall call closeRaises))
          { c with stage := .leaving raises, socketOpen := false } :=
        ⟨rfl, rfl, rfl, nofun, .inr ⟨hengaged, nofun, nofun, nofun, fun _ _ => rfl,
          fun _ hquiet => ⟨rfl, by rwa [hstage] at hquiet⟩⟩⟩
      exact (advances_put hc hleaves).closeSocket other
    | none =>
      simp only [hstage, Option.some.injEq] at h
      subst h
      refine advances_put hc ⟨rfl, rfl, rfl, nofun, .inr ⟨hengaged, ?_, ?_, ?_, fun _ _ => rfl,
        fun hcalm hfailing => ?_⟩⟩
      · split_ifs <;> exact nofun
      · split_ifs <;> exact nofun
      · split_ifs <;> exact nofun
      · have hquiet := hcalm c raises hc hstage
        rw [hstage] at hfailing
        have hraises : raises = false := hfailing
        simp [hquiet, hraises, Stage.engaged, Stage.failing]
  | accepted | waiting | forwarding | leaving | returned | raised =>
    rw [hstage] at h
    cases h

lemma closedBinding_advances {calm : Prop} (h : hub.closedBinding key = some hub') :
    hub.Advances calm hub' := by
  unfold Hub.closedBinding at h
  split_ifs at h
  obtain rfl := Option.some.inj h
  refine ⟨rfl, fun i => ?_, fun k j hj => ?_, List.filter_sublist.subset⟩
  · dsimp only
    cases hub.connections i with
    | none => exact .none
    | some c =>
      rw [Option.map_some]
      split_ifs
      · exact .some ⟨rfl, rfl, rfl, nofun, .inl rfl⟩
      · exact .some (.refl c)
  · by_cases hk : k = key
    · subst hk
      refine .inr fun d hd => ?_
      obtain ⟨c, -, rfl⟩ := Option.map_eq_some_iff.mp hd
      rw [if_pos hj]
    · left
      unfold closingSockets at hj ⊢
      rw [List.filter_filter]
      obtain ⟨entry, hentry, hjentry⟩ := List.mem_flatMap.mp hj
      obtain ⟨hmem, hkey⟩ := List.mem_filter.mp hentry
      have hkey' : entry.1 = k := of_decide_eq_true hkey
      refine List.mem_flatMap.mpr ⟨entry, List.mem_filter.mpr ⟨hmem, ?_⟩, hjentry⟩
      simp [hkey', hk]

theorem step_move {e : HubEvent} (h : hub.step kind e = some hub') : HubMove kind hub e hub' := by
  cases e with
  | accept call key role =>
    change hub.accept call key role = some hub' at h
    unfold Hub.accept at h
    split_ifs at h with hnew
    obtain rfl := Option.some.inj h
    exact .accepted call key role (Option.not_isSome_iff_eq_none.mp hnew)
  | connect call closeRaises => exact connect_move h
  | wake call => exact .advanced nofun nofun (wake_advances h)
  | timeOut call => exact .advanced nofun nofun (timeOut_advances h)
  | forward call => exact .advanced nofun nofun (forward_advances h)
  | finish call closeRaises => exact .advanced nofun nofun (finish_advances h)
  | endCall call closeRaises => exact .advanced nofun nofun (endCall_advances h)
  | remove call =>
    unfold Hub.step Hub.remove at h
    obtain ⟨c, hc, h⟩ := Option.bind_eq_some_iff.mp h
    cases hstage : c.stage with
    | leaving raises =>
      simp only [hstage, Option.some.injEq] at h
      subst h
      exact .removed call hc hstage
    | accepted | waiting | forwarding | ending | returned | raised =>
      rw [hstage] at h
      cases h
  | popBinding key =>
    obtain rfl := Option.some.inj h
    exact .popped key
  | closedBinding key => exact .advanced nofun nofun (closedBinding_advances h)
  | shutDown =>
    obtain rfl := Option.some.inj h
    exact .advanced nofun nofun
      ⟨rfl, (advances_refl hub).connections, fun _ _ => .inl, List.Subset.refl _⟩

end

end AgentRemote.Relay
