import AgentRemote.EgoBrowser.Moves

/-!
# The operations as moves

The operations of the service as actions on the tables, with the events they show, and the
proof that each of them is a sequence of moves.
-/

namespace AgentRemote
open Library EgoBrowserFailure EgoBrowserTables

inductive EgoBrowserAction where
  | claim (id : Uuid) (user : EgoBrowserUser) (payload : EgoBrowserBindingClaimRequest)
      (deviceId : Option Uuid) (toolSession : Option EgoBrowserToolSession)
      (node : Option EgoBrowserNode)
  | connected (user : EgoBrowserUser) (bindingId : Uuid) (payload : EgoBrowserConnectedRequest)
      (deviceId : Option Uuid)
  | renew (user : EgoBrowserUser) (bindingId : Uuid) (payload : EgoBrowserRenewRequest)
      (deviceId : Option Uuid)
  | renewForNode (node : EgoBrowserNode) (bindingId : Uuid) (payload : EgoBrowserRenewRequest)
  | markRenewalFailed (bindingId : Uuid) (generation : ℕ)
  | pause (user : EgoBrowserUser) (bindingId : Uuid) (payload : EgoBrowserLifecycleRequest)
      (deviceId : Option Uuid)
  | pauseByUser (user : EgoBrowserUser) (bindingId : Uuid) (generation : ℕ)
  | resume (user : EgoBrowserUser) (bindingId : Uuid) (payload : EgoBrowserResumeRequest)
      (deviceId : Option Uuid)
  | stop (user : EgoBrowserUser) (bindingId : Uuid) (payload : EgoBrowserLifecycleRequest)
      (revoke : Bool) (deviceId : Option Uuid)
  | stopByUser (user : EgoBrowserUser) (bindingId : Uuid) (generation : ℕ) (reason : String)
      (revoke : Bool)
  | confirmAllowlist (user : EgoBrowserUser) (bindingId : Uuid)
      (payload : EgoBrowserAllowlistConfirmRequest) (deviceId : Option Uuid)
  | registerDevice (user : EgoBrowserUser) (payload : EgoBrowserDeviceRegisterRequest)
      (proofOperation : EgoBrowserProofOperation) (requireRotation strictIdentity : Bool)
  | revokeDevice (user : EgoBrowserUser) (deviceId : Uuid)
      (payload : EgoBrowserDeviceRevokeRequest) (authenticatedDeviceId : Option Uuid)
  | revokeForToolSession (toolSessionId : Uuid) (reason : String)
  | revokeForDevice (deviceId : Uuid) (reason : String)
  | revokeForUser (userId : Uuid) (reason : String)
  | revokeForNode (nodeId : Uuid) (reason : String)
  | expireDue
  | admitOuterEnvelope (id : Uuid) (claims : EgoBrowserRelayTicketClaims)
      (envelope : OuterEnvelope)
  | cancelRequest (user : EgoBrowserUser) (bindingId : Uuid) (requestId : Text)
      (payload : EgoBrowserCancelRequest)
  | reconcileCancelTask (task : CancelTaskIdentity) (result : JsonObject) (succeeded : Bool)
  | publishRevocation (bindingId : Uuid) (generation : ℕ) (returned : Bool)

/-- The place of an admitted frame. -/
def frameKey (claims : EgoBrowserRelayTicketClaims) (envelope : OuterEnvelope) : FrameKey :=
  ⟨claims.binding.bindingId, claims.binding.generation, envelope.requestId, envelope.sequence⟩

/-- The event of a frame that was admitted. A forwarded cancel is none. -/
def admittedEvents (claims : EgoBrowserRelayTicketClaims) (envelope : OuterEnvelope)
    (result : Except EgoBrowserFailure Unit) : List EgoBrowserEvent :=
  match result, envelope.messageType with
  | .ok _, .execute => [.accepted (frameKey claims envelope)]
  | .ok _, .executeResult => [.answered (frameKey claims envelope)]
  | _, _ => []

/-- The tables and the events of the system so far. -/
structure EgoBrowserRun where
  db : EgoBrowserTables := {}
  events : List EgoBrowserEvent := []

section

variable [Sha256] (service : EgoBrowserService)

/-- The tables after an action, and what it shows. -/
def EgoBrowserService.perform (db : EgoBrowserTables) (now : Instant) :
    EgoBrowserAction → EgoBrowserTables × List EgoBrowserEvent
  | .claim id user payload deviceId toolSession node =>
    ((service.claim db now id user payload deviceId toolSession node).db, [])
  | .connected user bindingId payload deviceId =>
    ((service.connected db now user bindingId payload deviceId).db, [])
  | .renew user bindingId payload deviceId =>
    ((service.renew db now user bindingId payload deviceId).db, [])
  | .renewForNode node bindingId payload =>
    ((service.renewForNode db now node bindingId payload).db, [])
  | .markRenewalFailed bindingId generation =>
    ((service.markRenewalFailed db now bindingId generation).db, [])
  | .pause user bindingId payload deviceId =>
    ((service.pause db user bindingId payload deviceId).db, [])
  | .pauseByUser user bindingId generation =>
    ((EgoBrowserService.pauseByUser db user bindingId generation).db, [])
  | .resume user bindingId payload deviceId =>
    ((service.resume db now user bindingId payload deviceId).db, [])
  | .stop user bindingId payload revoke deviceId =>
    ((service.stop db now user bindingId payload revoke deviceId).db, [])
  | .stopByUser user bindingId generation reason revoke =>
    ((EgoBrowserService.stopByUser db now user bindingId generation reason revoke).db, [])
  | .confirmAllowlist user bindingId payload deviceId =>
    ((service.confirmAllowlist db user bindingId payload deviceId).db, [])
  | .registerDevice user payload proofOperation requireRotation strictIdentity =>
    ((service.registerDevice db now user payload proofOperation requireRotation
      strictIdentity).db, [])
  | .revokeDevice user deviceId payload authenticatedDeviceId =>
    ((service.revokeDevice db now user deviceId payload authenticatedDeviceId).db, [])
  | .revokeForToolSession toolSessionId reason =>
    ((EgoBrowserService.revokeForToolSession db now toolSessionId reason).db, [])
  | .revokeForDevice deviceId reason =>
    ((EgoBrowserService.revokeForDevice db now deviceId reason).db, [])
  | .revokeForUser userId reason =>
    ((EgoBrowserService.revokeForUser db now userId reason).db, [])
  | .revokeForNode nodeId reason =>
    ((EgoBrowserService.revokeForNode db now nodeId reason).db, [])
  | .expireDue => ((service.expireDue db now).db, [])
  | .admitOuterEnvelope id claims envelope =>
    let response := service.admitOuterEnvelope db now id claims envelope
    (response.db, admittedEvents claims envelope response.result)
  | .cancelRequest user bindingId requestId payload =>
    ((service.cancelRequest db user bindingId requestId payload).db, [])
  | .reconcileCancelTask task result succeeded =>
    ((AgentRemote.reconcileCancelTask db task result succeeded).db, [])
  | .publishRevocation bindingId generation returned =>
    (db.publishRevocation bindingId generation returned now,
      if db.publishes bindingId generation ∧ returned then [.published bindingId generation]
      else [])

/-- One transaction of the system. -/
def EgoBrowserService.step (s : EgoBrowserRun) (action : Instant × EgoBrowserAction) :
    EgoBrowserRun :=
  let r := service.perform s.db action.1 action.2
  { db := r.1, events := s.events ++ r.2 }

/-- The run of a list of timed actions from empty tables. -/
def EgoBrowserService.run (actions : List (Instant × EgoBrowserAction)) : EgoBrowserRun :=
  actions.foldl service.step {}

end

/-! ### Each operation -/

variable {db db' : EgoBrowserTables} {service : EgoBrowserService} {now : Instant}
  {mayMark : EgoBrowserBinding → Prop}

/-- A transaction that shows events when it succeeds moves the tables when its successes do. -/
lemma ofExcept_shows {α : Type} {f : Except EgoBrowserFailure α → List EgoBrowserEvent}
    {x : Except EgoBrowserFailure (EgoBrowserTables × List (Uuid × ℕ) × α)}
    (hf : ∀ e, f (.error e) = [])
    (h : ∀ db' publish a, x = .ok (db', publish, a) → Moves service now mayMark db (f (.ok a)) db') :
    Moves service now mayMark db (f (EgoBrowserResponse.ofExcept db x).result)
      (EgoBrowserResponse.ofExcept db x).db := by
  cases hx : x with
  | error e =>
    show Moves service now mayMark db (f (.error e)) db
    rw [hf e]
    exact .refl
  | ok r => exact h r.1 r.2.1 r.2.2 hx

lemma ofExcept_moves {α : Type}
    {x : Except EgoBrowserFailure (EgoBrowserTables × List (Uuid × ℕ) × α)}
    (h : ∀ db' publish a, x = .ok (db', publish, a) → Moves service now mayMark db [] db') :
    Moves service now mayMark db [] (EgoBrowserResponse.ofExcept db x).db :=
  ofExcept_shows (f := fun _ => []) (fun _ => rfl) h

lemma nodup_filter {p : EgoBrowserBinding → Bool}
    (hn : (db.bindings.map EgoBrowserBinding.id).Nodup) :
    ((db.bindings.filter p).map EgoBrowserBinding.id).Nodup :=
  hn.sublist (List.filter_sublist.map _)

section

variable {user : EgoBrowserUser} {id : Uuid} {deviceId : Option Uuid}

lemma connected_moves {payload : EgoBrowserConnectedRequest} :
    Moves service now mayMark db [] (service.connected db now user id payload deviceId).db := by
  apply ofExcept_moves
  intro db' publish a h
  simp only [bind_eq_ok, reject_eq_ok, exists_const, Prod.exists] at h
  obtain ⟨_, -, binding, device, hown, _, -, _, -, _, -, -, hstatus, -, _, -, -, _, -, h⟩ := h
  obtain ⟨rfl, -⟩ := Prod.mk.inj (Except.ok.inj h)
  apply Moves.setDevice
  have hawaits : binding.status.awaitsBridge = true := by simpa using hstatus
  have hmem := mem_of_ownedBindingDevice hown
  exact Moves.touch hmem ⟨rfl, rfl, rfl, rfl, rfl⟩ rfl (.inr ⟨hawaits, rfl⟩)
    (.granted rfl rfl)

lemma finishRenewal_moves {binding : EgoBrowserBinding} {device : EgoBrowserDevice}
    (hb : binding ∈ db.bindings) :
    Moves service now mayMark db [] (service.finishRenewal db now binding device).db := by
  unfold EgoBrowserService.finishRenewal
  cases service.rejectExpiredRenewal binding now with
  | proceed =>
    apply Moves.setDevice
    exact Moves.touch hb ⟨rfl, rfl, rfl, rfl, rfl⟩ rfl (.inl rfl) (.granted rfl rfl)
  | expire reason =>
    dsimp only
    cases h : db.invalidateBinding binding .expired reason now with
    | error e => exact .refl
    | ok r => exact (invalidateBinding_sweeps hb h).1

/-- A renewal that passed its checks is one of an active binding. -/
lemma checkRenewal_eq_ok {payload : EgoBrowserRenewRequest} {binding : EgoBrowserBinding}
    {device : EgoBrowserDevice}
    (h : service.checkRenewal db user id payload deviceId = .ok (binding, device)) :
    db.getBinding id = some binding ∧
      EgoBrowserService.validateRenewal binding payload = .ok () := by
  simp only [EgoBrowserService.checkRenewal, bind_eq_ok, Prod.exists] at h
  obtain ⟨_, -, b, d, hown, _, -, _, hrenewal, _, -, h⟩ := h
  obtain ⟨rfl, -⟩ := Prod.mk.inj (Except.ok.inj h)
  exact ⟨getBinding_of_ownedBindingDevice hown, hrenewal⟩

lemma checkNodeRenewal_eq_ok {node : EgoBrowserNode} {payload : EgoBrowserRenewRequest}
    {binding : EgoBrowserBinding} {device : EgoBrowserDevice}
    (h : service.checkNodeRenewal db node id payload = .ok (binding, device)) :
    db.getBinding id = some binding ∧
      EgoBrowserService.validateRenewal binding payload = .ok () := by
  unfold EgoBrowserService.checkNodeRenewal at h
  rw [bind_eq_ok] at h
  obtain ⟨_, -, h⟩ := h
  cases hb : db.getBinding id with
  | none => simp [hb] at h
  | some b =>
    simp only [hb, bind_eq_ok, reject_eq_ok, exists_const] at h
    obtain ⟨-, _, -, h⟩ := h
    cases hd : db.getDevice b.egoBrowserDeviceId with
    | none => simp [hd] at h
    | some d =>
      simp only [hd, bind_eq_ok, reject_eq_ok, exists_const] at h
      obtain ⟨-, _, -, _, hrenewal, h⟩ := h
      obtain ⟨rfl, -⟩ := Prod.mk.inj (Except.ok.inj h)
      exact ⟨rfl, hrenewal⟩

lemma renew_moves {payload : EgoBrowserRenewRequest} :
    Moves service now mayMark db [] (service.renew db now user id payload deviceId).db := by
  unfold EgoBrowserService.renew
  cases h : service.checkRenewal db user id payload deviceId with
  | error e => exact .refl
  | ok r => exact finishRenewal_moves (mem_of_lookup (checkRenewal_eq_ok h).1)

lemma renewForNode_moves {node : EgoBrowserNode} {payload : EgoBrowserRenewRequest} :
    Moves service now mayMark db [] (service.renewForNode db now node id payload).db := by
  unfold EgoBrowserService.renewForNode
  cases h : service.checkNodeRenewal db node id payload with
  | error e => exact .refl
  | ok r => exact finishRenewal_moves (mem_of_lookup (checkNodeRenewal_eq_ok h).1)

lemma markRenewalFailed_moves {generation : ℕ}
    (hmay : ∀ b, db.getBinding id = some b → b.generation = generation → b.status = .active →
      mayMark b) :
    Moves service now mayMark db [] (service.markRenewalFailed db now id generation).db := by
  unfold EgoBrowserService.markRenewalFailed
  cases hb : db.getBinding id with
  | none => exact .refl
  | some binding =>
    have hmem := mem_of_lookup hb
    by_cases hother : binding.generation ≠ generation ∨ binding.status ≠ .active
    · simp only [if_pos hother]
      exact .refl
    · simp only [if_neg hother]
      rw [not_or, not_not, not_not] at hother
      apply ofExcept_moves
      intro db' publish a h
      by_cases hended : binding.absoluteTtlUntil ≤ now ∨ service.failureGrace binding now ≤ now
      · simp only [if_pos hended, bind_eq_ok, Prod.exists] at h
        obtain ⟨db₁, left, hinvalid, h⟩ := h
        obtain ⟨rfl, -⟩ := Prod.mk.inj (Except.ok.inj h)
        exact (invalidateBinding_sweeps hmem hinvalid).1
      · rw [if_neg hended] at h
        by_cases hmark : binding.leaseHealth ≠ .renewalGrace
        · rw [if_pos hmark] at h
          obtain ⟨rfl, -⟩ := Prod.mk.inj (Except.ok.inj h)
          rw [not_or, not_le] at hended
          exact Moves.touch hmem ⟨rfl, rfl, rfl, rfl, rfl⟩ rfl (.inl rfl)
            (.marked (hmay binding hb hother.1 hother.2) hmark hother.2 hended.1 rfl rfl rfl rfl)
        · rw [if_neg hmark] at h
          obtain ⟨rfl, -⟩ := Prod.mk.inj (Except.ok.inj h)
          exact .refl

lemma live_of_pausable {s : EgoBrowserBindingStatus}
    (h : EgoBrowserService.pausable s = true) : s.live = true := by
  cases s <;> first | rfl | cases h

lemma pause_moves {payload : EgoBrowserLifecycleRequest} :
    Moves service now mayMark db [] (service.pause db user id payload deviceId).db := by
  apply ofExcept_moves
  intro db' publish a h
  simp only [bind_eq_ok, reject_eq_ok, exists_const, Prod.exists] at h
  obtain ⟨binding, device, hown, -, hstatus, _, -, _, -, db₁, hpause, h⟩ := h
  obtain ⟨rfl, -⟩ := Prod.mk.inj (Except.ok.inj h)
  apply Moves.setDevice
  have hlive := live_of_pausable (by simpa using hstatus)
  exact (pauseGeneration_sweeps (mem_of_ownedBindingDevice hown) ⟨rfl, rfl, rfl, rfl, rfl⟩ rfl
    hlive hpause).1

lemma pauseByUser_moves {generation : ℕ} :
    Moves service now mayMark db [] (EgoBrowserService.pauseByUser db user id generation).db := by
  apply ofExcept_moves
  intro db' publish a h
  simp only [bind_eq_ok, reject_eq_ok, exists_const, Prod.exists] at h
  obtain ⟨binding, device, hown, -, hstatus, db₁, hpause, h⟩ := h
  obtain ⟨rfl, -⟩ := Prod.mk.inj (Except.ok.inj h)
  have hlive := live_of_pausable (by simpa using hstatus)
  exact (pauseGeneration_sweeps (mem_of_ownedBindingDevice hown) ⟨rfl, rfl, rfl, rfl, rfl⟩ rfl
    hlive hpause).1

lemma resume_moves {payload : EgoBrowserResumeRequest} :
    Moves service now mayMark db [] (service.resume db now user id payload deviceId).db := by
  apply ofExcept_moves
  intro db' publish a h
  simp only [bind_eq_ok, reject_eq_ok, exists_const, Prod.exists] at h
  obtain ⟨_, -, binding, device, hown, _, -, hpaused, -, capabilities, -, _, -, advanced,
    hadvanced, h⟩ := h
  obtain ⟨rfl, -⟩ := Prod.mk.inj (Except.ok.inj h)
  obtain ⟨-, rfl⟩ := advanceGeneration_eq_ok hadvanced
  apply Moves.setDevice
  have hstatus : binding.status = .paused := by
    by_contra hne
    exact hpaused (.inl hne)
  have hmem := mem_of_ownedBindingDevice hown
  have hlive : binding.status.live = true := by
    rw [hstatus]
    rfl
  have hconnecting : EgoBrowserBindingStatus.connecting ≠ .active := by decide
  exact Moves.leave hmem ⟨rfl, rfl, rfl, rfl, rfl⟩ rfl hconnecting (.inr hlive) (.granted rfl rfl)

lemma stop_moves {payload : EgoBrowserLifecycleRequest} {revoke : Bool} :
    Moves service now mayMark db [] (service.stop db now user id payload revoke deviceId).db := by
  apply ofExcept_moves
  intro db' publish a h
  simp only [bind_eq_ok, Prod.exists] at h
  obtain ⟨binding, device, hown, h⟩ := h
  split_ifs at h with hended hrevoke
  · obtain ⟨rfl, -⟩ := Prod.mk.inj (Except.ok.inj h)
    exact .refl
  all_goals
    simp only [bind_eq_ok, reject_eq_ok, exists_const, Prod.exists] at h
    obtain ⟨_, -, -, _, -, db₁, left, hinvalid, h⟩ := h
    obtain ⟨rfl, -⟩ := Prod.mk.inj (Except.ok.inj h)
    apply Moves.setDevice
    exact (invalidateBinding_sweeps (mem_of_ownedBindingDevice hown) hinvalid).1

lemma stopByUser_moves {generation : ℕ} {reason : String} {revoke : Bool} :
    Moves service now mayMark db [] (EgoBrowserService.stopByUser db now user id generation reason revoke).db := by
  apply ofExcept_moves
  intro db' publish a h
  simp only [bind_eq_ok, Prod.exists] at h
  obtain ⟨binding, device, hown, h⟩ := h
  split_ifs at h with hended
  · obtain ⟨rfl, -⟩ := Prod.mk.inj (Except.ok.inj h)
    exact .refl
  · simp only [bind_eq_ok, reject_eq_ok, exists_const, Prod.exists] at h
    obtain ⟨-, db₁, left, hinvalid, h⟩ := h
    obtain ⟨rfl, -⟩ := Prod.mk.inj (Except.ok.inj h)
    exact (invalidateBinding_sweeps (mem_of_ownedBindingDevice hown) hinvalid).1

lemma confirmAllowlist_moves {payload : EgoBrowserAllowlistConfirmRequest} :
    Moves service now mayMark db [] (service.confirmAllowlist db user id payload deviceId).db := by
  apply ofExcept_moves
  intro db' publish a h
  simp only [bind_eq_ok, reject_eq_ok, exists_const, Prod.exists] at h
  obtain ⟨_, -, binding, device, hown, _, -, -, hstatus, -, _, -, capabilities, -, db₁, hpause,
    h⟩ := h
  obtain ⟨rfl, -⟩ := Prod.mk.inj (Except.ok.inj h)
  apply Moves.setDevice
  have hlive : binding.status.live = true := by simpa using hstatus
  have hmem := mem_of_ownedBindingDevice hown
  refine (pauseGeneration_sweeps hmem ?_ ?_ hlive hpause).1
  · exact ⟨rfl, rfl, rfl, rfl, rfl⟩
  · rfl

lemma expireDueBinding_sweeps {b : EgoBrowserBinding} {left : List (Uuid × ℕ)}
    (hb : b ∈ db.bindings) (h : service.expireDueBinding db b now = .ok (db', left)) :
    Sweeps service now mayMark db b db' := by
  unfold EgoBrowserService.expireDueBinding at h
  split_ifs at h with hended
  · exact invalidateBinding_sweeps hb h
  · dsimp only at h
    split at h
    next leaseUntil hhealthy hlease =>
      split_ifs at h
      · obtain ⟨rfl, -⟩ := Prod.mk.inj (Except.ok.inj h)
        exact sweeps_touch hb ⟨rfl, rfl, rfl, rfl, rfl⟩ rfl rfl
          (.graced hhealthy hlease rfl rfl rfl rfl)
      · exact invalidateBinding_sweeps hb h
    · exact invalidateBinding_sweeps hb h

lemma expireDue_moves (hn : (db.bindings.map EgoBrowserBinding.id).Nodup) :
    Moves service now mayMark db [] (service.expireDue db now).db := by
  apply ofExcept_moves
  intro db' publish a h
  simp only [bind_eq_ok, Prod.exists] at h
  obtain ⟨db₁, left, hfold, h⟩ := h
  obtain ⟨rfl, -⟩ := Prod.mk.inj (Except.ok.inj h)
  have hmem : ∀ b ∈ db.listDueBindings now, b ∈ db.bindings := by
    intro b hb
    exact (List.mem_filter.mp hb).1
  have hnodup : ((db.listDueBindings now).map EgoBrowserBinding.id).Nodup := nodup_filter hn
  exact foldlM_sweeps (f := fun db b => service.expireDueBinding db b now)
    (fun _ _ _ _ _ hb hstep => expireDueBinding_sweeps hb hstep) hnodup hmem hfold

lemma revokeListed_moves {p : EgoBrowserBinding → Bool} {reason : String}
    (hn : (db.bindings.map EgoBrowserBinding.id).Nodup) :
    Moves service now mayMark db [] (EgoBrowserService.revokeListed db now (db.bindings.filter p) reason).db := by
  apply ofExcept_moves
  intro db' publish a h
  rw [bind_eq_ok] at h
  obtain ⟨⟨db₁, left⟩, hinvalid, h⟩ := h
  obtain ⟨rfl, -⟩ := Prod.mk.inj (Except.ok.inj h)
  exact invalidateBindings_moves (nodup_filter hn) (fun b hb => (List.mem_filter.mp hb).1)
    hinvalid

lemma revokeDevice_moves {payload : EgoBrowserDeviceRevokeRequest}
    (hn : (db.bindings.map EgoBrowserBinding.id).Nodup) :
    Moves service now mayMark db [] (service.revokeDevice db now user id payload deviceId).db := by
  apply ofExcept_moves
  intro db' publish a h
  cases hd : db.getDevice id with
  | none => simp [hd] at h
  | some device =>
    simp only [hd, reject_bind_eq_ok] at h
    obtain ⟨-, h⟩ := h
    by_cases hrevoked : device.status = .revoked
    · rw [if_pos hrevoked] at h
      obtain ⟨rfl, -⟩ := Prod.mk.inj (Except.ok.inj h)
      exact .refl
    · rw [if_neg hrevoked] at h
      simp only [bind_eq_ok, Prod.exists] at h
      obtain ⟨_, -, db₁, left, hinvalid, h⟩ := h
      obtain ⟨rfl, -⟩ := Prod.mk.inj (Except.ok.inj h)
      apply Moves.setDevice
      have hmoves : Moves service now mayMark db [] db₁ :=
        invalidateBindings_moves (nodup_filter hn) (fun b hb => (List.mem_filter.mp hb).1) hinvalid
      exact hmoves.silent (.other rfl rfl rfl)

lemma not_live_of_filter_nil {p : EgoBrowserBinding → Prop} [DecidablePred p]
    (h : ¬db.bindings.filter (fun b => p b ∧ b.status.live) ≠ []) {c : EgoBrowserBinding}
    (hc : c ∈ db.bindings) (hlive : c.status.live = true) : ¬p c := by
  intro hp
  have hmem : c ∈ db.bindings.filter (fun b => p b ∧ b.status.live) := by
    simp [hc, hp, hlive]
  rw [not_not.mp h] at hmem
  cases hmem

lemma addBinding_eq_ok {b : EgoBrowserBinding} (h : db.addBinding b = .ok db') :
    (∀ c ∈ db.bindings, c.id ≠ b.id) ∧ db' = { db with bindings := db.bindings ++ [b] } := by
  unfold addBinding at h
  rw [reject_bind_eq_ok] at h
  refine ⟨fun c hc hid => h.1 ⟨c, hc, .inl hid⟩, ?_⟩
  exact (Except.ok.inj h.2).symm

lemma claim_moves {newId : Uuid} {payload : EgoBrowserBindingClaimRequest}
    {toolSession : Option EgoBrowserToolSession} {node : Option EgoBrowserNode} :
    Moves service now mayMark db [] (service.claim db now newId user payload deviceId toolSession node).db := by
  apply ofExcept_moves
  intro db' publish a h
  simp only [bind_eq_ok, reject_eq_ok, exists_const] at h
  obtain ⟨_, -, _, -, -, h⟩ := h
  cases hd : db.getDevice payload.egoBrowserDeviceId with
  | none => simp [hd] at h
  | some device =>
    simp only [hd, bind_eq_ok, reject_eq_ok, exists_const] at h
    obtain ⟨-, _, -, _, -, -, -, -, _, -, _, -, -, -, -, capabilities, -, -, _, -, -, h⟩ := h
    cases toolSession with
    | none => simp at h
    | some toolSession =>
      simp only [bind_eq_ok, reject_eq_ok, exists_const] at h
      obtain ⟨-, -, -, h⟩ := h
      cases node with
      | none => simp at h
      | some node =>
        simp only [bind_eq_ok, reject_eq_ok, exists_const] at h
        obtain ⟨-, _, -, hfree, h⟩ := h
        rw [not_or] at hfree
        set binding := service.claimedBinding newId now user payload device toolSession node
          capabilities with hbinding
        cases hadd : (db.setDevice (service.bindLegacyDeviceOrigin device)).addBinding binding with
        | error e => simp [hadd] at h
        | ok db₁ =>
          simp only [hadd] at h
          obtain ⟨rfl, -⟩ := Prod.mk.inj (Except.ok.inj h)
          obtain ⟨hnew, rfl⟩ := addBinding_eq_ok hadd
          have hm : Move service now mayMark db none { db with bindings := db.bindings ++ [binding] } := by
            have hpending : binding.status ≠ .active := by
              simp [hbinding, EgoBrowserService.claimedBinding]
            refine .claim hnew rfl hpending rfl rfl rfl ?_
            rintro c hc hlive (hdevice | hreference | ⟨-, hsession⟩)
            · exact not_live_of_filter_nil hfree.1 hc hlive hdevice
            · exact not_live_of_filter_nil hfree.2 hc hlive (.inr hreference)
            · exact not_live_of_filter_nil hfree.2 hc hlive (.inl hsession)
          exact (Moves.single hm).setDevice _

section

variable [Sha256] {payload : EgoBrowserDeviceRegisterRequest} {capabilities : List Text}
  {publicKey : Text} {encryptionPublicKey : Option Text} {requireRotation strictIdentity : Bool}

omit [Sha256] in
lemma updateRegistered_moves {existing device : EgoBrowserDevice} {left : List (Uuid × ℕ)}
    (hn : (db.bindings.map EgoBrowserBinding.id).Nodup)
    (h : service.updateRegistered db now user payload requireRotation strictIdentity capabilities
      publicKey encryptionPublicKey existing = .ok (db', left, device)) : Moves service now mayMark db [] db' := by
  unfold EgoBrowserService.updateRegistered at h
  simp only [bind_eq_ok, reject_eq_ok, exists_const] at h
  obtain ⟨-, _, -, -, -, -, -, _, -, -, -, -, h⟩ := h
  have hmem : ∀ b ∈ db.listLiveForDevice existing.id, b ∈ db.bindings := by
    intro b hb
    exact (List.mem_filter.mp hb).1
  have hnodup : ((db.listLiveForDevice existing.id).map EgoBrowserBinding.id).Nodup :=
    nodup_filter hn
  split_ifs at h with hsame hkey hpolicy
  · obtain ⟨rfl, -⟩ := Prod.mk.inj (Except.ok.inj h)
    exact Moves.refl.setDevice _
  · simp only [bind_eq_ok, reject_eq_ok, exists_const, Prod.exists] at h
    obtain ⟨-, -, db₁, left₁, hinvalid, h⟩ := h
    obtain ⟨rfl, -⟩ := Prod.mk.inj (Except.ok.inj h)
    exact (invalidateBindings_moves hnodup hmem hinvalid).setDevice _
  · simp only [bind_eq_ok, reject_eq_ok, exists_const, Prod.exists] at h
    obtain ⟨-, db₁, left₁, hpause, h⟩ := h
    obtain ⟨rfl, -⟩ := Prod.mk.inj (Except.ok.inj h)
    have hlive : ∀ b ∈ db.listLiveForDevice existing.id, b.status.live = true := by
      intro b hb
      have hb := (List.mem_filter.mp hb).2
      simp only [decide_eq_true_eq] at hb
      exact hb.2
    exact (pauseListed_moves hnodup hmem hlive hpause).setDevice _
  · obtain ⟨rfl, -⟩ := Prod.mk.inj (Except.ok.inj (reject_bind_eq_ok.mp h).2)
    exact Moves.refl.setDevice _

lemma registerDevice_moves {proofOperation : EgoBrowserProofOperation}
    (hn : (db.bindings.map EgoBrowserBinding.id).Nodup) :
    Moves service now mayMark db [] (service.registerDevice db now user payload proofOperation requireRotation
      strictIdentity).db := by
  apply ofExcept_moves
  intro db' publish a h
  simp only [bind_eq_ok, reject_eq_ok, exists_const] at h
  obtain ⟨_, -, -, _, -, _, -, capabilities, -, _, -, _, -, publicKey, -, encryptionKey, -, _, -,
    -, -, h⟩ := h
  cases hd : db.getDevice payload.deviceId with
  | some existing =>
    simp only [hd, bind_eq_ok, reject_eq_ok, exists_const] at h
    exact updateRegistered_moves hn h.2
  | none =>
    simp only [hd] at h
    cases encryptionKey with
    | none => simp at h
    | some encryptionKey =>
      dsimp only at h
      cases hadd : db.addDevice (service.registeredDevice now user payload capabilities publicKey
          encryptionKey) with
      | error e => simp [hadd] at h
      | ok db₁ =>
        simp only [hadd] at h
        obtain ⟨rfl, -⟩ := Prod.mk.inj (Except.ok.inj h)
        unfold addDevice at hadd
        rw [reject_bind_eq_ok] at hadd
        obtain rfl := Except.ok.inj hadd.2
        exact Moves.other rfl rfl rfl

end

end

/-! ### Frames and cancellations -/

section

variable {id : Uuid} {binding : EgoBrowserBinding} {envelope : OuterEnvelope}

lemma mem_of_getLedger {bindingId : Uuid} {generation : ℕ} {direction : LedgerDirection}
    {requestId : Text} {sequence : ℤ} {r : EgoBrowserRequestLedger}
    (h : db.getLedger bindingId generation direction requestId sequence = some r) :
    r ∈ db.ledger ∧ r.direction = direction ∧ r.key = ⟨bindingId, generation, requestId, sequence⟩ := by
  have hr := List.find?_some h
  simp only [decide_eq_true_eq] at hr
  obtain ⟨hid, hgen, hdir, hreq, hseq⟩ := hr
  refine ⟨List.mem_of_find?_eq_some h, hdir, ?_⟩
  unfold EgoBrowserRequestLedger.key
  rw [hid, hgen, hreq, hseq]

lemma recordFrame_eq_ok {row : EgoBrowserRequestLedger} (h : db.recordFrame row = .ok db') :
    db.addLedger row = .ok db' := by
  unfold recordFrame at h
  split at h
  · simp at h
  · exact h

lemma active_of_admitLease {messageType : LedgerMessageType}
    (h : service.admitLease binding now messageType = .ok ()) : binding.status = .active := by
  unfold EgoBrowserService.admitLease at h
  rw [reject_bind_eq_ok] at h
  exact not_not.mp h.1

lemma admitCancel_moves (h : db.admitCancel binding envelope = .ok db') : Moves service now mayMark db [] db' := by
  unfold admitCancel at h
  cases hr : db.getLedger binding.id binding.generation .request envelope.requestId
      envelope.sequence with
  | none => simp [hr] at h
  | some request =>
    obtain ⟨hmem, hdir, -⟩ := mem_of_getLedger hr
    simp only [hr, reject_bind_eq_ok] at h
    obtain ⟨-, h⟩ := h
    split_ifs at h with hcompleted
    · obtain rfl := Except.ok.inj h
      exact .refl
    · simp only [reject_bind_eq_ok] at h
      obtain ⟨-, hstatus, h⟩ := h
      obtain rfl := Except.ok.inj h
      have hunfinished : request.status.unfinished = true := by simpa using hstatus
      exact Moves.single (.settle hmem hdir (.cancelled hunfinished))

lemma mem_addLedger {row : EgoBrowserRequestLedger} (h : db.addLedger row = .ok db') :
    db'.ledger = db.ledger ++ [row] ∧ db'.bindings = db.bindings ∧ db'.outbox = db.outbox := by
  unfold addLedger at h
  simp only [reject_bind_eq_ok] at h
  obtain ⟨-, -, h⟩ := h
  obtain rfl := Except.ok.inj h
  exact ⟨rfl, rfl, rfl⟩

lemma admitResponse_moves (hdir : envelope.direction = .response)
    (htype : envelope.messageType = .executeResult)
    (h : db.admitResponse id binding envelope = .ok db') :
    Moves service now mayMark db [.answered ⟨binding.id, binding.generation, envelope.requestId, envelope.sequence⟩]
      db' := by
  unfold admitResponse at h
  cases hr : db.getLedger binding.id binding.generation .request envelope.requestId
      envelope.sequence with
  | none => simp [hr] at h
  | some request =>
    obtain ⟨hmem, hreqdir, hkey⟩ := mem_of_getLedger hr
    simp only [hr, bind_eq_ok, reject_eq_ok, exists_const] at h
    obtain ⟨-, db₁, hrecord, h⟩ := h
    have hadd := recordFrame_eq_ok hrecord
    have hrow : (ledgerRow id binding envelope).key = request.key := hkey.symm
    have hanswer : Moves service now mayMark db [.answered (ledgerRow id binding envelope).key] db₁ :=
      Moves.single (.answer hmem hreqdir hrow hdir htype (by simp [ledgerRow, hdir]) hadd)
    obtain rfl := Except.ok.inj h
    split_ifs with hcancelled
    · exact hanswer
    · have hmem' : request ∈ db₁.ledger := by
        rw [(mem_addLedger hadd).1]
        exact List.mem_append_left _ hmem
      exact hanswer.tail (.settle hmem' hreqdir (.completed hcancelled))

lemma admitExecute_moves (hb : binding ∈ db.bindings) (hactive : binding.status = .active)
    (hdir : envelope.direction = .request) (htype : envelope.messageType = .execute)
    (h : db.admitExecute id binding envelope = .ok db') :
    Moves service now mayMark db [.accepted ⟨binding.id, binding.generation, envelope.requestId, envelope.sequence⟩]
      db' := by
  unfold admitExecute at h
  rw [reject_bind_eq_ok] at h
  obtain ⟨hseq, h⟩ := h
  have hlt : ∀ s ∈ db.sequences binding.id binding.generation .request,
      s < (ledgerRow id binding envelope).sequence := by
    intro s hs
    cases hmax : db.maxSequence binding.id binding.generation .request with
    | none =>
      rw [maxSequence, List.max?_eq_none_iff] at hmax
      rw [hmax] at hs
      cases hs
    | some maximum =>
      have hle : s ≤ maximum := (List.max?_le_iff hmax).mp le_rfl s hs
      have hfresh : ¬envelope.sequence ≤ maximum := fun hle => hseq ⟨maximum, hmax, hle⟩
      show s < envelope.sequence
      omega
  exact Moves.single (.accept hb hactive rfl rfl hdir htype (by simp [ledgerRow, hdir]) hlt
    (recordFrame_eq_ok h))

lemma admitOuterEnvelope_moves {claims : EgoBrowserRelayTicketClaims} :
    Moves service now mayMark db (admittedEvents claims envelope
        (service.admitOuterEnvelope db now id claims envelope).result)
      (service.admitOuterEnvelope db now id claims envelope).db := by
  apply ofExcept_shows (f := admittedEvents claims envelope) (fun _ => rfl)
  intro db' publish a h
  obtain ⟨binding, device, db₁, hb, -, hgen, htype, hlease, hledger, hr⟩ :=
    EgoBrowserService.admission_eq_ok h
  obtain ⟨rfl, -⟩ := Prod.mk.inj hr
  apply Moves.setDevice
  have hkey : frameKey claims envelope =
      ⟨binding.id, binding.generation, envelope.requestId, envelope.sequence⟩ := by
    have hid : binding.id = claims.binding.bindingId := key_of_lookup hb
    rw [frameKey, hid, hgen]
  have hactive := active_of_admitLease hlease
  unfold admitLedger at hledger
  cases hmessage : envelope.messageType with
  | execute =>
    rw [hmessage] at hledger
    have hdir : envelope.direction = .request := by
      cases hdir : envelope.direction with
      | request => rfl
      | response => simp [hdir, hmessage] at htype
    simp only [admittedEvents, hmessage, hkey]
    exact admitExecute_moves (mem_of_lookup hb) hactive hdir hmessage hledger
  | executeResult =>
    rw [hmessage] at hledger
    have hdir : envelope.direction = .response := by
      cases hdir : envelope.direction with
      | request => simp [hdir, hmessage] at htype
      | response => rfl
    simp only [admittedEvents, hmessage, hkey]
    exact admitResponse_moves hdir hmessage hledger
  | cancel =>
    rw [hmessage] at hledger
    simp only [admittedEvents, hmessage]
    exact admitCancel_moves hledger

lemma cancelRequest_moves {user : EgoBrowserUser} {requestId : Text}
    {payload : EgoBrowserCancelRequest} :
    Moves service now mayMark db [] (service.cancelRequest db user id requestId payload).db := by
  apply ofExcept_moves
  intro db' publish a h
  rw [bind_eq_ok] at h
  obtain ⟨_, -, h⟩ := h
  cases hb : db.getBinding id with
  | none => simp [hb] at h
  | some binding =>
    simp only [hb, reject_bind_eq_ok] at h
    obtain ⟨-, h⟩ := h
    cases hr : db.getLedger binding.id payload.generation .request requestId payload.sequence with
    | none => simp [hr] at h
    | some request =>
      simp only [hr, reject_bind_eq_ok] at h
      obtain ⟨-, h⟩ := h
      obtain ⟨hmem, hdir, hkey⟩ := mem_of_getLedger hr
      by_cases hfinished : request.status.unfinished = false
      · rw [if_pos hfinished] at h
        obtain ⟨rfl, -⟩ := Prod.mk.inj (Except.ok.inj h)
        exact .refl
      · rw [if_neg hfinished, reject_bind_eq_ok] at h
        obtain ⟨hstale, h⟩ := h
        rw [not_or, not_not, not_not] at hstale
        by_cases haccepted : request.status = .accepted
        · rw [if_pos haccepted, bind_eq_ok] at h
          obtain ⟨db₁, hadd, h⟩ := h
          obtain ⟨rfl, -⟩ := Prod.mk.inj (Except.ok.inj h)
          have hask : Moves service now mayMark db [] (db.setLedger { request with status := .cancelRequested }) :=
            Moves.single (.ask (mem_of_lookup hb) hstale.2 hmem hdir
              (congrArg FrameKey.bindingId hkey) hstale.1.symm haccepted)
          unfold addTask at hadd
          rw [reject_bind_eq_ok] at hadd
          obtain rfl := Except.ok.inj hadd.2
          exact hask.silent (.other rfl rfl rfl)
        · rw [if_neg haccepted] at h
          obtain ⟨rfl, -⟩ := Prod.mk.inj (Except.ok.inj h)
          exact .refl

lemma reconcileCancelTask_moves {task : CancelTaskIdentity} {result : JsonObject}
    {succeeded : Bool} : Moves service now mayMark db [] (reconcileCancelTask db task result succeeded).db := by
  apply ofExcept_moves
  intro db' publish a h
  cases hb : db.getBinding task.bindingId with
  | none =>
    simp only [hb] at h
    obtain ⟨rfl, -⟩ := Prod.mk.inj (Except.ok.inj h)
    exact .refl
  | some binding =>
    cases hr : db.getLedger task.bindingId task.generation .request task.requestId
        task.sequence with
    | none =>
      simp only [hb, hr] at h
      obtain ⟨rfl, -⟩ := Prod.mk.inj (Except.ok.inj h)
      exact .refl
    | some request =>
      obtain ⟨hmem, hdir, -⟩ := mem_of_getLedger hr
      simp only [hb, hr] at h
      by_cases hfinished : request.messageType ≠ .execute ∨ request.status.unfinished = false
      · rw [if_pos hfinished] at h
        obtain ⟨rfl, -⟩ := Prod.mk.inj (Except.ok.inj h)
        exact .refl
      rw [if_neg hfinished] at h
      have hunfinished : request.status.unfinished = true := by
        simpa using fun hstatus => hfinished (.inr hstatus)
      have hcancel : Moves service now mayMark db [] (db.setLedger { request with status := .cancelled }) :=
        Moves.single (.settle hmem hdir (.cancelled hunfinished))
      by_cases hconfirmed : cancellationConfirmed result succeeded = true
      · rw [if_pos hconfirmed] at h
        obtain ⟨rfl, -⟩ := Prod.mk.inj (Except.ok.inj h)
        exact hcancel
      rw [if_neg hconfirmed] at h
      by_cases hstale : binding.generation ≠ task.generation ∨ binding.status ≠ .active
      · rw [if_pos hstale] at h
        obtain ⟨rfl, -⟩ := Prod.mk.inj (Except.ok.inj h)
        exact hcancel
      · rw [if_neg hstale, bind_eq_ok] at h
        obtain ⟨db₁, hpause, h⟩ := h
        obtain ⟨rfl, -⟩ := Prod.mk.inj (Except.ok.inj h)
        rw [not_or, not_not, not_not] at hstale
        have hlive : binding.status.live = true := by
          rw [hstale.2]
          rfl
        exact (pauseGeneration_sweeps (mem_of_lookup hb) ⟨rfl, rfl, rfl, rfl, rfl⟩ rfl hlive hpause).1

end

/-- Every action is a sequence of moves that shows its events. -/
theorem perform_moves [Sha256] (hn : (db.bindings.map EgoBrowserBinding.id).Nodup)
    (action : EgoBrowserAction)
    (hmay : ∀ id generation, action = .markRenewalFailed id generation →
      ∀ b, db.getBinding id = some b → b.generation = generation → b.status = .active →
        mayMark b) :
    Moves service now mayMark db (service.perform db now action).2 (service.perform db now action).1 := by
  cases action with
  | claim => exact claim_moves
  | connected => exact connected_moves
  | renew => exact renew_moves
  | renewForNode => exact renewForNode_moves
  | markRenewalFailed => exact markRenewalFailed_moves (hmay _ _ rfl)
  | pause => exact pause_moves
  | pauseByUser => exact pauseByUser_moves
  | resume => exact resume_moves
  | stop => exact stop_moves
  | stopByUser => exact stopByUser_moves
  | confirmAllowlist => exact confirmAllowlist_moves
  | registerDevice => exact registerDevice_moves hn
  | revokeDevice => exact revokeDevice_moves hn
  | revokeForToolSession => exact revokeListed_moves hn
  | revokeForDevice => exact revokeListed_moves hn
  | revokeForUser => exact revokeListed_moves hn
  | revokeForNode => exact revokeListed_moves hn
  | expireDue => exact expireDue_moves hn
  | admitOuterEnvelope => exact admitOuterEnvelope_moves
  | cancelRequest => exact cancelRequest_moves
  | reconcileCancelTask => exact reconcileCancelTask_moves
  | publishRevocation bindingId generation returned =>
    simp only [EgoBrowserService.perform, publishRevocation]
    by_cases h : db.publishes bindingId generation = true ∧ returned = true
    · rw [if_pos h, if_pos h]
      exact Moves.single .deliver
    · rw [if_neg h, if_neg h]
      exact .refl

end AgentRemote
