import AgentRemote.EgoBrowser.Lease

/-!
# Leases that lapse

A lease that nobody renews before its grace deadline stays lapsed. The cleanup sweep and the
renewal guard compute that deadline from the end of the lease, the report of a failed renewal
from its own time, so the property needs these reports to come in time.
-/

namespace AgentRemote
open Library EgoBrowserTables

variable {db : EgoBrowserTables} {b b' : EgoBrowserBinding} {service : EgoBrowserService}
  {now : Instant}

/-! ### A lapsed lease -/

lemma not_lapsed {leaseUntil : Instant} (httl : now < b.absoluteTtlUntil)
    (hlease : b.leaseUntil = some leaseUntil) (hearly : now < leaseUntil) :
    ¬service.lapsed now b := by
  rintro ⟨leaseUntil', hlease', hdeadline⟩
  obtain rfl := Option.some.inj (hlease.symm.trans hlease')
  have hgrace : 0 ≤ service.renewalGrace := seconds_nonneg _
  unfold EgoBrowserService.graceDeadline at hdeadline
  rw [min_le_iff] at hdeadline
  obtain hdeadline | hdeadline := hdeadline
  · linarith
  · exact absurd httl (not_lt.mpr hdeadline)

lemma LeaseSound.rejectExpiredRenewal (h : LeaseSound service b) (hactive : b.status = .active)
    (hlapsed : service.lapsed now b) : service.rejectExpiredRenewal b now ≠ .proceed := by
  have hlapsed' := hlapsed
  obtain ⟨leaseUntil, hlease, hdeadline⟩ := hlapsed
  unfold EgoBrowserService.rejectExpiredRenewal
  by_cases httl : b.absoluteTtlUntil ≤ now
  · simp [httl]
  rw [if_neg httl]
  cases hhealth : b.leaseHealth with
  | healthy =>
    have hlate : ¬now < leaseUntil := fun hearly =>
      not_lapsed (not_le.mp httl) hlease hearly hlapsed'
    simp [hlease, hlate, not_lt.mpr hdeadline]
  | renewalGrace =>
    obtain ⟨leaseUntil', hlease', hgrace⟩ := h.agrees hhealth
    obtain rfl := Option.some.inj (hlease.symm.trans hlease')
    simp [hgrace, hdeadline]
  | expired => exact absurd hhealth (h.unexpired hactive)

/-- A frame is only admitted under a lease that is not lapsed, an execute frame only before
its end. -/
lemma admitLease_healthy {messageType : LedgerMessageType}
    (h : service.admitLease b now messageType = .ok ()) :
    (b.leaseHealth = .healthy →
      now < b.absoluteTtlUntil ∧ ∃ leaseUntil, b.leaseUntil = some leaseUntil ∧ now < leaseUntil) ∧
    (messageType = .execute → b.leaseHealth = .healthy) := by
  unfold EgoBrowserService.admitLease at h
  simp only [bind_eq_ok, reject_eq_ok, exists_const] at h
  obtain ⟨-, httl, h⟩ := h
  by_cases hhealthy : b.leaseHealth = .healthy
  · rw [if_pos hhealthy] at h
    simp only [bind_eq_ok, reject_eq_ok, exists_const] at h
    obtain ⟨hlease, -⟩ := h
    refine ⟨fun _ => ⟨not_le.mp httl, ?_⟩, fun _ => hhealthy⟩
    push Not at hlease
    obtain ⟨leaseUntil, hmem, hlt⟩ := hlease
    exact ⟨leaseUntil, hmem, hlt⟩
  · refine ⟨fun h => absurd h hhealthy, fun hexecute => ?_⟩
    rw [if_neg hhealthy] at h
    by_cases hgrace : b.leaseHealth = .renewalGrace ∧ messageType ≠ .execute
    · exact absurd hexecute hgrace.2
    · rw [if_neg hgrace] at h
      simp at h

/-- A renewal that returned went through the renewal guard. -/
lemma proceed_of_renews (hn : (db.bindings.map EgoBrowserBinding.id).Nodup) (hb : b ∈ db.bindings)
    {action : EgoBrowserAction} (h : service.renews db now b.id action = true) :
    service.rejectExpiredRenewal b now = .proceed := by
  have hfinish : ∀ {device : EgoBrowserDevice},
      (service.finishRenewal db now b device).result.isOk = true →
      service.rejectExpiredRenewal b now = .proceed := by
    intro device hok
    unfold EgoBrowserService.finishRenewal at hok
    cases hguard : service.rejectExpiredRenewal b now with
    | proceed => rfl
    | expire reason =>
      cases hinvalid : db.invalidateBinding b .expired reason now with
      | error e =>
        simp only [hguard, hinvalid] at hok
        cases hok
      | ok r =>
        simp only [hguard, hinvalid] at hok
        cases hok
  cases action with
  | renew user id payload deviceId =>
    simp only [EgoBrowserService.renews, decide_eq_true_eq] at h
    obtain ⟨rfl, hok⟩ := h
    unfold EgoBrowserService.renew at hok
    cases hcheck : service.checkRenewal db user b.id payload deviceId with
    | error e =>
      simp only [hcheck] at hok
      cases hok
    | ok r =>
      have hget := (checkRenewal_eq_ok hcheck).1
      rw [getBinding_of_mem hn hb] at hget
      simp only [hcheck, ← Option.some.inj hget] at hok
      exact hfinish hok
  | renewForNode node id payload =>
    simp only [EgoBrowserService.renews, decide_eq_true_eq] at h
    obtain ⟨rfl, hok⟩ := h
    unfold EgoBrowserService.renewForNode at hok
    cases hcheck : service.checkNodeRenewal db node b.id payload with
    | error e =>
      simp only [hcheck] at hok
      cases hok
    | ok r =>
      have hget := (checkNodeRenewal_eq_ok hcheck).1
      rw [getBinding_of_mem hn hb] at hget
      simp only [hcheck, ← Option.some.inj hget] at hok
      exact hfinish hok
  | _ => cases h

/-- A report that returned the binding left it in renewal grace or expired. -/
lemma unhealthy_of_markRenewalFailed {generation : ℕ}
    (hn : (db.bindings.map EgoBrowserBinding.id).Nodup) (hb : b ∈ db.bindings)
    (h : service.returns db now b.id (.markRenewalFailed b.id generation) = true)
    (hb' : b' ∈ (service.markRenewalFailed db now b.id generation).db.bindings)
    (hid : b'.id = b.id) : b'.status ≠ .active ∨ b'.leaseHealth ≠ .healthy := by
  simp only [EgoBrowserService.returns, true_and, decide_eq_true_eq] at h
  unfold EgoBrowserService.markRenewalFailed at h hb'
  simp only [getBinding_of_mem hn hb] at h hb'
  by_cases hother : b.generation ≠ generation ∨ b.status ≠ .active
  · rw [if_pos hother] at h
    cases h
  simp only [if_neg hother] at h hb'
  by_cases hended : b.absoluteTtlUntil ≤ now ∨ service.failureGrace b now ≤ now
  · simp only [if_pos hended] at h hb'
    generalize hreason : (if b.absoluteTtlUntil ≤ now then "absolute_ttl"
      else "renewal_grace_expired") = reason at h hb'
    cases hinvalid : db.invalidateBinding b .expired reason now with
    | error e =>
      simp only [hinvalid, error_bind] at h
      cases h
    | ok r =>
      simp only [hinvalid, ok_bind] at hb'
      obtain ⟨-, hterminal⟩ | ⟨new, hnewid, hstatus, hnew⟩ := invalidateBinding_bindings hinvalid
      · have hactive : b.status = .active := by
          by_contra hne
          exact hother (.inr hne)
        rw [hactive] at hterminal
        cases hterminal
      · have hmem : b' ∈ replace EgoBrowserBinding.id db.bindings new := hnew ▸ hb'
        rw [mem_replace] at hmem
        obtain ⟨-, hne⟩ | ⟨rfl, -⟩ := hmem
        · exact absurd (hid.trans hnewid.symm) hne
        · rw [hstatus]
          exact .inl (by decide)
  · by_cases hmark : b.leaseHealth ≠ .renewalGrace
    · simp only [if_neg hended, if_pos hmark] at hb'
      have hmem : b' ∈ replace EgoBrowserBinding.id db.bindings _ := hb'
      rw [mem_replace] at hmem
      obtain ⟨-, hne⟩ | ⟨rfl, -⟩ := hmem
      · exact absurd hid hne
      · exact .inr (fun h => by cases h)
    · simp only [if_neg hended, if_neg hmark] at hb'
      obtain rfl := row_eq hn hb hb' hid
      exact .inr fun hhealthy => hmark (by rw [hhealthy]; decide)

/-- A lease call on a lapsed lease that leaves the binding active and healthy neither touched
the row nor returned normally. -/
lemma lapsed_stays [Sha256] {action : EgoBrowserAction} (hcall : action.leaseCall = true)
    (hn : (db.bindings.map EgoBrowserBinding.id).Nodup) (hsound : LeaseSound service b)
    (hb : b ∈ db.bindings) (hlapsed : service.lapsed now b)
    (hb' : b' ∈ (service.perform db now action).1.bindings) (hid : b'.id = b.id)
    (hactive : b'.status = .active) (hhealthy : b'.leaseHealth = .healthy) :
    b' = b ∧ service.returns db now b.id action = false := by
  have hrow : b' = b := by
    cases leaseCall_effect hcall hn hb hb' hid with
    | untouched hrow => exact hrow
    | expired hexpired =>
      rw [hactive] at hexpired
      cases hexpired
    | graced hgrace =>
      rw [hhealthy] at hgrace
      cases hgrace
    | renewed _ hold _ hguard => exact absurd hguard (hsound.rejectExpiredRenewal hold hlapsed)
  refine ⟨hrow, ?_⟩
  rw [Bool.eq_false_iff]
  intro hreturns
  cases action with
  | expireDue =>
    obtain ⟨-, hdue⟩ | hexpired | ⟨hgrace, -⟩ := expireDue_row hn hreturns hb hb' hid
    · rw [hrow] at hactive hhealthy
      obtain ⟨leaseUntil, hlease, hdeadline⟩ := hlapsed
      have hlive : b.status.live = true := by
        rw [hactive]
        rfl
      have hended : b.absoluteTtlUntil ≤ now ∨ leaseUntil ≤ now := by
        by_contra hearly
        rw [not_or, not_le, not_le] at hearly
        exact not_lapsed hearly.1 hlease hearly.2 ⟨leaseUntil, hlease, hdeadline⟩
      simp only [due, hlive, hhealthy, hlease, decide_eq_false_iff_not] at hdue
      apply hdue
      refine ⟨trivial, ?_⟩
      obtain httl | hend := hended
      · exact .inl httl
      · exact .inr (.inl ⟨trivial, leaseUntil, rfl, hend⟩)
    · rw [hactive] at hexpired
      cases hexpired
    · rw [hhealthy] at hgrace
      cases hgrace
  | renew user id payload deviceId =>
    have hrenews : service.renews db now b.id (.renew user id payload deviceId) = true := hreturns
    rw [hrow] at hactive
    exact hsound.rejectExpiredRenewal hactive hlapsed (proceed_of_renews hn hb hrenews)
  | renewForNode node id payload =>
    have hrenews : service.renews db now b.id (.renewForNode node id payload) = true := hreturns
    rw [hrow] at hactive
    exact hsound.rejectExpiredRenewal hactive hlapsed (proceed_of_renews hn hb hrenews)
  | markRenewalFailed id generation =>
    obtain rfl : id = b.id := by
      simp only [EgoBrowserService.returns, decide_eq_true_eq] at hreturns
      exact hreturns.1
    obtain hinactive | hunhealthy := unhealthy_of_markRenewalFailed hn hb hreturns hb' hid
    · exact hinactive hactive
    · exact hunhealthy hhealthy
  | admitOuterEnvelope id claims envelope =>
    have hreturned : claims.binding.bindingId = b.id ∧
        (service.admitOuterEnvelope db now id claims envelope).result.isOk = true := by
      simpa [EgoBrowserService.returns] using hreturns
    obtain ⟨hclaims, hok⟩ := hreturned
    unfold EgoBrowserService.admitOuterEnvelope at hok
    cases hx : service.admission db now id claims envelope with
    | error e =>
      rw [hx] at hok
      cases hok
    | ok r =>
      obtain ⟨binding, _, _, hget, -, -, -, hadmit, -⟩ := EgoBrowserService.admission_eq_ok hx
      rw [hclaims, getBinding_of_mem hn hb] at hget
      obtain rfl := Option.some.inj hget
      rw [hrow] at hhealthy
      obtain ⟨httl, leaseUntil, hlease, hearly⟩ := (admitLease_healthy hadmit).1 hhealthy
      exact not_lapsed httl hlease hearly hlapsed
  | _ => cases hcall

/-! ### Runs -/

section

variable [Sha256]

/-- An accepted execute frame finds an active binding before the end of its lease. -/
lemma lease_of_accepted {action : EgoBrowserAction} {k : FrameKey}
    (h : .accepted k ∈ (service.perform db now action).2) :
    ∃ c ∈ db.bindings, c.id = k.bindingId ∧ c.status = .active ∧
      ∃ leaseUntil, c.leaseUntil = some leaseUntil ∧ now < leaseUntil := by
  cases action with
  | admitOuterEnvelope id claims envelope =>
    simp only [EgoBrowserService.perform, EgoBrowserService.admitOuterEnvelope] at h
    cases hx : service.admission db now id claims envelope with
    | error e =>
      rw [hx] at h
      cases h
    | ok r =>
      obtain ⟨binding, _, _, hget, -, -, -, hadmit, -⟩ := EgoBrowserService.admission_eq_ok hx
      rw [hx] at h
      cases hmessage : envelope.messageType with
      | execute =>
        simp only [admittedEvents, EgoBrowserResponse.ofExcept, hmessage,
          List.mem_singleton] at h
        obtain rfl := EgoBrowserEvent.accepted.inj h
        obtain ⟨hhealthy, hexecute⟩ := admitLease_healthy hadmit
        exact ⟨binding, mem_of_lookup hget, key_of_lookup hget, active_of_admitLease hadmit,
          (hhealthy (hexecute hmessage)).2⟩
      | executeResult => simp [admittedEvents, EgoBrowserResponse.ofExcept, hmessage] at h
      | cancel => simp [admittedEvents, EgoBrowserResponse.ofExcept, hmessage] at h
  | publishRevocation =>
    simp only [EgoBrowserService.perform] at h
    split_ifs at h
    · simp at h
    · cases h
  | _ => cases h

variable (service)

/-- Every report of a failed renewal in a run comes in time for the lease it finds. -/
def EgoBrowserService.InTime : EgoBrowserRun → List (Instant × EgoBrowserAction) → Prop
  | _, [] => True
  | s, action :: actions =>
    (∀ id generation, action.2 = .markRenewalFailed id generation →
      ∀ b, s.db.getBinding id = some b → b.generation = generation → b.status = .active →
        service.MarkInTime action.1 b) ∧ InTime (service.step s action) actions

/-- Leases that lapse stay lapsed: `before` is any history of the system, `calls` are lease
calls after it. -/
structure LapsesForGood (before calls : List (Instant × EgoBrowserAction)) : Prop where
  /-- When nobody renewed an active binding before its grace deadline, a call at or after the
  deadline that finds or leaves it active and healthy neither changes it nor returns. -/
  revived : ∀ b ∈ (service.run before).db.bindings, b.status = .active →
    ∀ leaseUntil, b.leaseUntil = some leaseUntil →
    (∀ xs t call ys, calls = xs ++ (t, call) :: ys →
      t < service.graceDeadline leaseUntil b.absoluteTtlUntil →
      service.renews (service.run (before ++ xs)).db t b.id call = false) →
    ∀ xs t call ys, calls = xs ++ (t, call) :: ys →
      service.graceDeadline leaseUntil b.absoluteTtlUntil ≤ t →
      ∀ b' ∈ (service.run (before ++ xs ++ [(t, call)])).db.bindings, b'.id = b.id →
        b'.status = .active → b'.leaseHealth = .healthy →
        b' ∈ (service.run (before ++ xs)).db.bindings ∧
          service.returns (service.run (before ++ xs)).db t b.id call = false
  /-- From the end of the lease no execute frame is admitted until a renewal succeeds. -/
  admitted : ∀ b ∈ (service.run before).db.bindings, b.status = .active →
    ∀ leaseUntil, b.leaseUntil = some leaseUntil →
    ∀ xs t call ys, calls = xs ++ (t, call) :: ys → leaseUntil ≤ t →
    (∀ us t' call' vs, xs = us ++ (t', call') :: vs →
      service.renews (service.run (before ++ us)).db t' b.id call' = false) →
    ∀ k, .accepted k ∈ (service.perform (service.run (before ++ xs)).db t call).2 →
      k.bindingId ≠ b.id
  /-- A stored lease ends before the binding does. -/
  capped : ∀ xs ys, calls = xs ++ ys → ∀ b ∈ (service.run (before ++ xs)).db.bindings,
    b.status = .active ∨ service.settings.leaseSeconds ≤ service.settings.absoluteTtlSeconds →
    ∀ leaseUntil ∈ b.leaseUntil, leaseUntil ≤ b.absoluteTtlUntil
  /-- The three places agree on the deadline. -/
  agrees : ∀ xs ys, calls = xs ++ ys → ∀ b ∈ (service.run (before ++ xs)).db.bindings,
    b.leaseHealth = .renewalGrace → b.leaseGraceUntil =
      b.leaseUntil.map fun leaseUntil => service.graceDeadline leaseUntil b.absoluteTtlUntil

variable {service}

/-- A state whose bindings are fenced and whose leases are sound. -/
structure LeaseState (service : EgoBrowserService) (s : EgoBrowserRun) : Prop where
  fenced : Fenced s.db s.events
  sound : ∀ c ∈ s.db.bindings, LeaseSound service c

lemma EgoBrowserService.InTime.append {s : EgoBrowserRun}
    {xs ys : List (Instant × EgoBrowserAction)} (h : service.InTime s (xs ++ ys)) :
    service.InTime s xs ∧ service.InTime (xs.foldl service.step s) ys := by
  induction xs generalizing s with
  | nil => exact ⟨trivial, h⟩
  | cons x xs ih =>
    obtain ⟨hx, h⟩ := h
    obtain ⟨hxs, hys⟩ := ih h
    exact ⟨⟨hx, hxs⟩, hys⟩

lemma LeaseState.foldl {s : EgoBrowserRun} (h : LeaseState service s)
    {actions : List (Instant × EgoBrowserAction)} (htime : service.InTime s actions) :
    LeaseState service (actions.foldl service.step s) := by
  induction actions generalizing s with
  | nil => exact h
  | cons action actions ih =>
    obtain ⟨hmay, htime⟩ := htime
    refine ih ⟨h.fenced.step action, ?_⟩ htime
    exact LeaseSound.moves h.sound (perform_moves h.fenced.ids action.2 hmay)

lemma LeaseState.run {actions : List (Instant × EgoBrowserAction)}
    (htime : service.InTime {} actions) : LeaseState service (service.run actions) :=
  LeaseState.foldl ⟨Fenced.empty, fun c hc => by cases hc⟩ htime

/-- The row of a binding after a lease call comes from its row before. -/
lemma row_before {s : EgoBrowserRun} {call : Instant × EgoBrowserAction}
    (hcall : call.2.leaseCall = true) (h : LeaseState service s) (hb : b ∈ s.db.bindings)
    (hb' : b' ∈ (service.step s call).db.bindings) (hid : b'.id = b.id)
    (hactive : b'.status = .active)
    (hrenews : service.renews s.db call.1 b.id call.2 = false ∨ service.lapsed call.1 b) :
    b.status = .active ∧ b'.leaseUntil = b.leaseUntil ∧
      b'.absoluteTtlUntil = b.absoluteTtlUntil := by
  cases leaseCall_effect hcall h.fenced.ids hb hb' hid with
  | untouched hrow =>
    rw [hrow] at hactive ⊢
    exact ⟨hactive, rfl, rfl⟩
  | expired hexpired =>
    rw [hactive] at hexpired
    cases hexpired
  | graced _ hstatus hlease httl => exact ⟨hstatus ▸ hactive, hlease, httl⟩
  | renewed hr hold _ hguard =>
    obtain hrenews | hlapsed := hrenews
    · rw [hrenews] at hr
      cases hr
    · exact absurd hguard ((h.sound b hb).rejectExpiredRenewal hold hlapsed)

/-- Every active row of the binding still has the lease of `b`. -/
def SameLease (b : EgoBrowserBinding) (s : EgoBrowserRun) : Prop :=
  ∃ c ∈ s.db.bindings, c.id = b.id ∧
    (c.status = .active → c.leaseUntil = b.leaseUntil ∧ c.absoluteTtlUntil = b.absoluteTtlUntil)

/-- Calls without a renewal before the grace deadline keep the lease. -/
lemma SameLease.foldl {s : EgoBrowserRun} {leaseUntil : Instant}
    (hlease : b.leaseUntil = some leaseUntil) (h : SameLease b s) (hs : LeaseState service s)
    {calls : List (Instant × EgoBrowserAction)} (htime : service.InTime s calls)
    (hcalls : ∀ call ∈ calls, call.2.leaseCall = true)
    (hrenews : ∀ xs t call ys, calls = xs ++ (t, call) :: ys →
      t < service.graceDeadline leaseUntil b.absoluteTtlUntil →
      service.renews (xs.foldl service.step s).db t b.id call = false) :
    SameLease b (calls.foldl service.step s) := by
  induction calls generalizing s with
  | nil => exact h
  | cons call calls ih =>
    obtain ⟨c, hc, hid, hsame⟩ := h
    have hone : service.InTime s [call] := ⟨htime.1, trivial⟩
    have hs' : LeaseState service (service.step s call) := hs.foldl hone
    refine ih ?_ hs' htime.2 (fun call hmem => hcalls call (List.mem_cons_of_mem _ hmem)) ?_
    · obtain ⟨c', hc', hid', -⟩ : ∃ c' ∈ (service.step s call).db.bindings, c'.id = c.id ∧ _ :=
        Progress.of_moves hs.fenced (hs.fenced.perform_moves call) c hc
      refine ⟨c', hc', hid'.trans hid, fun hactive => ?_⟩
      have hcall := hcalls call List.mem_cons_self
      by_cases hearly : call.1 < service.graceDeadline leaseUntil b.absoluteTtlUntil
      · have hnone := hrenews [] call.1 call.2 calls rfl hearly
        rw [← hid] at hnone
        obtain ⟨hold, hl, ht⟩ := row_before hcall hs hc hc' hid' hactive (.inl hnone)
        obtain ⟨hl', ht'⟩ := hsame hold
        exact ⟨hl.trans hl', ht.trans ht'⟩
      · by_cases hold : c.status = .active
        · obtain ⟨hl', ht'⟩ := hsame hold
          have hlapsed : service.lapsed call.1 c := by
            refine ⟨leaseUntil, hl'.trans hlease, ?_⟩
            rw [ht']
            exact not_lt.mp hearly
          obtain ⟨-, hl, ht⟩ := row_before hcall hs hc hc' hid' hactive (.inr hlapsed)
          exact ⟨hl.trans hl', ht.trans ht'⟩
        · exfalso
          cases leaseCall_effect hcall hs.fenced.ids hc hc' hid' with
          | untouched hrow => exact hold (hrow ▸ hactive)
          | expired hexpired =>
            rw [hactive] at hexpired
            cases hexpired
          | graced _ hstatus => exact hold (hstatus ▸ hactive)
          | renewed _ hactive' => exact hold hactive'
    · intro xs t call' ys hsplit
      exact hrenews (call :: xs) t call' ys (by rw [hsplit]; rfl)

lemma run_append (xs ys : List (Instant × EgoBrowserAction)) :
    service.run (xs ++ ys) = ys.foldl service.step (service.run xs) :=
  List.foldl_append

/-- In a run whose reports of failed renewals all come in time, leases lapse for good. -/
theorem leases_lapse_for_good {before calls : List (Instant × EgoBrowserAction)}
    (hcalls : ∀ call ∈ calls, call.2.leaseCall = true)
    (htime : service.InTime {} (before ++ calls)) : LapsesForGood service before calls := by
  obtain ⟨hbefore, hafter⟩ := htime.append
  have hstate : LeaseState service (service.run before) := .run hbefore
  have hstates : ∀ xs ys, calls = xs ++ ys → LeaseState service (service.run (before ++ xs)) := by
    rintro xs ys rfl
    rw [run_append]
    exact hstate.foldl hafter.append.1
  -- the lease of `b` after the calls `xs`
  have hkept : ∀ b ∈ (service.run before).db.bindings, ∀ leaseUntil,
      b.leaseUntil = some leaseUntil → ∀ xs ys, calls = xs ++ ys →
      (∀ us t call vs, xs = us ++ (t, call) :: vs →
        t < service.graceDeadline leaseUntil b.absoluteTtlUntil →
        service.renews (service.run (before ++ us)).db t b.id call = false) →
      SameLease b (service.run (before ++ xs)) := by
    rintro b hb leaseUntil hlease xs ys rfl hrenews
    rw [run_append]
    refine SameLease.foldl hlease ⟨b, hb, rfl, fun _ => ⟨rfl, rfl⟩⟩ hstate hafter.append.1
      (fun call hmem => hcalls call (List.mem_append_left _ hmem)) ?_
    intro us t call vs hsplit hearly
    rw [← run_append]
    exact hrenews us t call vs hsplit hearly
  refine ⟨?_, ?_, ?_, ?_⟩
  · intro b hb hactive leaseUntil hlease hrenews xs t call ys hsplit hdeadline b' hb' hid hactive'
      hhealthy
    have hs := hstates xs _ hsplit
    have hcall : call.leaseCall = true := hcalls (t, call) (by rw [hsplit]; simp)
    obtain ⟨c, hc, hcid, hsame⟩ := hkept b hb leaseUntil hlease xs _ hsplit
      fun us t' call' vs hxs hearly => hrenews us t' call' (vs ++ (t, call) :: ys)
        (by rw [hsplit, hxs]; simp) hearly
    rw [run_append] at hb'
    have hb'' : b' ∈ (service.perform (service.run (before ++ xs)).db t call).1.bindings := hb'
    by_cases hold : c.status = .active
    · have hlapsed : service.lapsed t c := by
        refine ⟨leaseUntil, (hsame hold).1.trans hlease, ?_⟩
        rw [(hsame hold).2]
        exact hdeadline
      obtain ⟨rfl, hreturns⟩ := lapsed_stays hcall hs.fenced.ids (hs.sound c hc) hc hlapsed hb''
        (hid.trans hcid.symm) hactive' hhealthy
      exact ⟨hc, by rwa [← hcid]⟩
    · exfalso
      cases leaseCall_effect hcall hs.fenced.ids hc hb'' (hid.trans hcid.symm) with
      | untouched hrow => exact hold (hrow ▸ hactive')
      | expired hexpired =>
        rw [hactive'] at hexpired
        cases hexpired
      | graced _ hstatus => exact hold (hstatus ▸ hactive')
      | renewed _ hactive'' => exact hold hactive''
  · intro b hb hactive leaseUntil hlease xs t call ys hsplit hlate hrenews k hk hid
    have hs := hstates xs _ hsplit
    obtain ⟨c, hc, hcid, hsame⟩ := hkept b hb leaseUntil hlease xs _ hsplit
      fun us t' call' vs hxs _ => hrenews us t' call' vs hxs
    obtain ⟨d, hd, hdid, hdactive, leaseUntil', hlease', hearly⟩ := lease_of_accepted hk
    obtain rfl : d = c := eq_of_key_eq hs.fenced.ids hd hc (hdid.trans (hid.trans hcid.symm))
    rw [(hsame hdactive).1, hlease] at hlease'
    obtain rfl := Option.some.inj hlease'
    exact absurd hearly (not_lt.mpr hlate)
  · intro xs ys hsplit b hb
    exact ((hstates xs ys hsplit).sound b hb).capped
  · intro xs ys hsplit b hb hgrace
    obtain ⟨leaseUntil, hlease, hdeadline⟩ := ((hstates xs ys hsplit).sound b hb).agrees hgrace
    rw [hdeadline, hlease]
    rfl

end

/-! ### A late report -/

/-- A service with a lease of 60 seconds, a grace of 10 and no proof of possession. -/
def sampleService : EgoBrowserService where
  settings :=
    { bridgeEnabled := true, enrollmentEnabled := true, requireDevicePop := false
      leaseSeconds := 60, leaseRenewIntervalSeconds := 20, leaseRenewFailureGraceSeconds := 10
      leaseAdmissionMinRemainingSeconds := 5, absoluteTtlSeconds := 3600
      maxParallelRequests := 1, production := false, expectedReleaseProfile := .developmentLocal
      expectedSignerCertificateSha256 := [], expectedWrapperVersion := []
      expectedSkillVersion := [], expectedSkillTreeSha256 := []
      expectedLocalRuntimeVersion := [], expectedProtocolVersion := egoBrowserProtocol
      publicOrigin := "https://server".toList, serverHost := "server".toList
      lease_bounds := by decide
      interval_bounds := by decide
      grace_bounds := by decide
      admission_bounds := by decide
      ttl_bounds := by decide
      parallel_bounds := by decide
      admission_lt_lease := by decide
      interval_lt_lease := by decide }
  relayStore := false
  verifyPop _ _ _ := false

def sampleUser : EgoBrowserUser := { id := 1, admin := false }

def sampleKey : Text := List.replicate 43 'A'

/-- The capability document of a node. -/
def sampleCapability : JsonObject :=
  [("ego_browser_bridge".toList, .object [
    ("supported".toList, .bool true),
    ("protocol_versions".toList, .array [.string egoBrowserProtocol]),
    ("backends".toList, .array [.string "native".toList]),
    ("wrapper_version".toList, .string []), ("skill_version".toList, .string []),
    ("skill_tree_sha256".toList, .string []), ("remote_platform".toList, .string "linux".toList),
    ("local_platform".toList, .string "macos".toList),
    ("max_script_bytes".toList, .int 1024), ("max_execute_timeout_ms".toList, .int 1000)])]

/-- Registration, claim and connection at time zero. -/
def sampleHistory : List (Instant × EgoBrowserAction) :=
  [(0, .registerDevice sampleUser
      { deviceId := 2, publicKey := sampleKey, encryptionPublicKey := some sampleKey
        generation := 1, enrollmentMode := .initial, releaseProfile := .developmentLocal
        credentialProfile := .communityFile, platform := "macos".toList
        bridgeProtocolVersion := egoBrowserProtocol, bridgeVersion := none
        localEgoBrowserRuntimeVersion := some [], egoLiteRuntimeVersion := some []
        skillVersion := some [], signerCertificateSha256 := "development".toList
        allowlistRevision := 1, allowlistRootsDigest := none, learningBundleDigest := none
        capabilities := requiredCapabilities, policyDigest := none, capabilityDigest := none
        proof := {} } .registerDevice false false),
    (0, .claim 3 sampleUser
      { toolSessionId := 4, egoBrowserDeviceId := 2, encryptionPublicKey := none
        authorizationPolicyVersion := 1, releaseProfile := .developmentLocal
        credentialProfile := .communityFile, deviceCapabilities := requiredCapabilities
        allowlistRevision := 1, learningBundleDigest := none, taskSpaceLabel := none
        concurrencyMode := .binding, proof := {} } (some 2)
      (some { id := 4, userId := 1, nodeId := 5, toolType := "claude".toList, running := true
              runtimeBackend := "native".toList })
      (some { id := 5, healthy := true, runtimeCapabilities := sampleCapability })),
    (0, .connected sampleUser 3
      { generation := 1, encryptionPublicKey := some sampleKey
        bridgeProtocolVersion := egoBrowserProtocol, bridgeVersion := none
        localEgoBrowserRuntimeVersion := [], egoLiteRuntimeVersion := [], skillVersion := []
        releaseProfile := .developmentLocal, signerCertificateSha256 := "development".toList
        credentialProfile := .communityFile, allowlistRevision := 1
        allowlistRootsDigest := none, learningBundleDigest := none, maxParallelRequests := 1
        capabilities := requiredCapabilities, localBrowserReady := true, proof := {} } (some 2))]

def sampleRenewal : EgoBrowserAction :=
  .renew sampleUser 3 { generation := 1, allowlistRevision := 1, learningBundleDigest := none }
    (some 2)

/-- A failure reported nine seconds after the end of the lease, and a renewal five seconds after
its grace deadline. -/
def lateReport : List (Instant × EgoBrowserAction) :=
  [(69000000, .markRenewalFailed 3 1), (75000000, sampleRenewal)]

/-- The binding of the sample, before the late report and after it. -/
lemma sample_runs :
    (∃ b ∈ (@EgoBrowserService.run ⟨fun _ => []⟩ sampleService sampleHistory).db.getBinding 3,
      b.status = .active ∧ b.generation = 1 ∧ b.leaseUntil = some 60000000 ∧
        b.absoluteTtlUntil = 3600000000) ∧
    ∃ b ∈ (@EgoBrowserService.run ⟨fun _ => []⟩ sampleService
        (sampleHistory ++ lateReport)).db.getBinding 3,
      b.status = .active ∧ b.leaseHealth = .healthy ∧
        b ∉ (@EgoBrowserService.run ⟨fun _ => []⟩ sampleService
          (sampleHistory ++ [(69000000, .markRenewalFailed 3 1)])).db.bindings := by
  decide +kernel

/-- The late report moves the deadline, and the renewal revives the lease. -/
theorem late_report_revives :
    ¬@LapsesForGood sampleService ⟨fun _ => []⟩ sampleHistory lateReport := by
  let hash : Sha256 := ⟨fun _ => []⟩
  intro (h : LapsesForGood sampleService sampleHistory lateReport)
  obtain ⟨⟨b, hb, hactive, -, hlease, httl⟩, b', hb', hactive', hhealthy, hchanged⟩ := sample_runs
  rw [Option.mem_def] at hb hb'
  have hid : b.id = 3 := key_of_lookup hb
  have hid' : b'.id = 3 := key_of_lookup hb'
  have hrenews : ∀ xs t call ys, lateReport = xs ++ (t, call) :: ys → t < 70000000 →
      sampleService.renews (sampleService.run (sampleHistory ++ xs)).db t 3 call = false := by
    intro xs t call ys hsplit hearly
    have hmem : (t, call) ∈ lateReport := by
      rw [hsplit]
      simp
    simp only [lateReport, List.mem_cons, List.not_mem_nil, or_false, Prod.mk.injEq] at hmem
    obtain ⟨rfl, rfl⟩ | ⟨rfl, rfl⟩ := hmem
    · rfl
    · exact absurd hearly (by decide)
  have hdeadline : sampleService.graceDeadline 60000000 b.absoluteTtlUntil = 70000000 := by
    rw [httl]
    decide
  have hrow := h.revived b (mem_of_lookup hb) hactive 60000000 hlease
    (by rw [hdeadline, hid]; exact hrenews) [(69000000, .markRenewalFailed 3 1)] 75000000
    sampleRenewal [] rfl (by rw [hdeadline]; decide) b' (mem_of_lookup hb')
    (hid'.trans hid.symm) hactive' hhealthy
  exact hchanged hrow.1

/-- A failure reported at the end of the lease, a sweep and a renewal after the deadline. -/
def timelyReport : List (Instant × EgoBrowserAction) :=
  [(60000000, .markRenewalFailed 3 1), (65000000, .expireDue), (75000000, sampleRenewal)]

theorem timely_report_lapses :
    @LapsesForGood sampleService ⟨fun _ => []⟩ sampleHistory timelyReport := by
  let hash : Sha256 := ⟨fun _ => []⟩
  obtain ⟨⟨b₀, hb₀, -, -, hlease, -⟩, -⟩ := sample_runs
  have hcalls : ∀ call ∈ timelyReport, call.2.leaseCall = true := by decide
  refine leases_lapse_for_good hcalls ⟨fun _ _ h => ?_, fun _ _ h => ?_, fun _ _ h => ?_,
    fun id generation h b hb _ _ _ _ leaseUntil hmem => .inl ?_, fun _ _ h => ?_,
    fun _ _ h => ?_, trivial⟩
  · cases h
  · cases h
  · cases h
  · obtain ⟨rfl, rfl⟩ := EgoBrowserAction.markRenewalFailed.inj h
    rw [Option.mem_unique hb hb₀, hlease] at hmem
    exact Option.some.inj hmem
  · cases h
  · cases h

end AgentRemote
