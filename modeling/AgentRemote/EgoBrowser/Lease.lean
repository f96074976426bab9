import AgentRemote.EgoBrowser.Revocation

/-!
# Leases

What every row of a binding says about its lease, and what the sweep, a renewal, the report of
a failed renewal and a frame do to a row.
-/

namespace AgentRemote
open Library EgoBrowserTables

variable {db db' : EgoBrowserTables} {b b' old new : EgoBrowserBinding}
  {service : EgoBrowserService} {now : Instant}

/-! ### The leases of a state -/

/-- A report of a failed renewal finds a healthy lease exactly at its end, or at a time when
the deadlines from both times are the absolute one. -/
def EgoBrowserService.MarkInTime (service : EgoBrowserService) (now : Instant)
    (b : EgoBrowserBinding) : Prop :=
  b.leaseHealth = .healthy → now < b.absoluteTtlUntil → ∀ leaseUntil ∈ b.leaseUntil,
    now = leaseUntil ∨ (b.absoluteTtlUntil ≤ now + service.renewalGrace ∧
      b.absoluteTtlUntil ≤ leaseUntil + service.renewalGrace)

/-- The three places agree on the deadline exactly when a report is in time. -/
lemma failureGrace_eq_iff {leaseUntil : Instant} (hhealthy : b.leaseHealth = .healthy) :
    service.failureGrace b now = service.graceDeadline leaseUntil b.absoluteTtlUntil ↔
      now = leaseUntil ∨ (b.absoluteTtlUntil ≤ now + service.renewalGrace ∧
        b.absoluteTtlUntil ≤ leaseUntil + service.renewalGrace) := by
  have hmin : ∀ t l g u : ℤ, min (t + g) u = min (l + g) u ↔ t = l ∨ u ≤ t + g ∧ u ≤ l + g := by
    omega
  simp only [EgoBrowserService.failureGrace, hhealthy, EgoBrowserService.graceDeadline]
  exact hmin _ _ _ _

/-- What every row of a binding says about its lease. -/
structure LeaseSound (service : EgoBrowserService) (b : EgoBrowserBinding) : Prop where
  capped : b.status = .active ∨
      service.settings.leaseSeconds ≤ service.settings.absoluteTtlSeconds →
    ∀ leaseUntil ∈ b.leaseUntil, leaseUntil ≤ b.absoluteTtlUntil
  agrees : b.leaseHealth = .renewalGrace → ∃ leaseUntil, b.leaseUntil = some leaseUntil ∧
    b.leaseGraceUntil = some (service.graceDeadline leaseUntil b.absoluteTtlUntil)
  held : b.status = .active → ∃ leaseUntil, b.leaseUntil = some leaseUntil
  unexpired : b.status = .active → b.leaseHealth ≠ .expired

namespace LeaseSound

lemma of_claim (hpending : b.status ≠ .active) (hhealthy : b.leaseHealth = .healthy)
    (hlease : b.leaseUntil = some (now + seconds service.settings.leaseSeconds))
    (httl : b.absoluteTtlUntil = now + seconds service.settings.absoluteTtlSeconds) :
    LeaseSound service b where
  capped := by
    rintro (hactive | hsettings) leaseUntil hmem
    · exact absurd hactive hpending
    · rw [hlease] at hmem
      obtain rfl := Option.some.inj hmem
      have hseconds := seconds_le.mpr hsettings
      linarith
  agrees hgrace := by
    rw [hhealthy] at hgrace
    cases hgrace
  held hactive := absurd hactive hpending
  unexpired hactive := absurd hactive hpending

lemma of_write (h : LeaseSound service old) (httl : new.absoluteTtlUntil = old.absoluteTtlUntil)
    (hw : LeaseWrite service now (service.MarkInTime now) old new) : LeaseSound service new := by
  cases hw with
  | granted hlease hhealthy =>
    refine ⟨fun _ leaseUntil hmem => ?_, fun hgrace => ?_, fun _ => ⟨_, hlease⟩, fun _ => ?_⟩
    · rw [hlease] at hmem
      obtain rfl := Option.some.inj hmem
      rw [httl]
      exact min_le_right _ _
    · rw [hhealthy] at hgrace
      cases hgrace
    · rw [hhealthy]
      decide
  | cleared hlease hexpired hinactive =>
    refine ⟨fun _ leaseUntil hmem => ?_, fun hgrace => ?_, fun hactive => absurd hactive hinactive,
      fun hactive => absurd hactive hinactive⟩
    · rw [hlease] at hmem
      cases hmem
    · rw [hexpired] at hgrace
      cases hgrace
  | graced hhealthy hold hlease hstatus hgrace hdeadline =>
    refine ⟨?_, fun _ => ⟨_, hlease.trans hold, by rw [hdeadline, httl]⟩,
      fun _ => ⟨_, hlease.trans hold⟩, fun _ => ?_⟩
    · rw [hlease, httl, hstatus]
      exact h.capped
    · rw [hgrace]
      decide
  | marked hmay hne hactive httlnow hlease hstatus hgrace hdeadline =>
    obtain ⟨leaseUntil, hold⟩ := h.held hactive
    have hhealthy : old.leaseHealth = .healthy := by
      cases hhealth : old.leaseHealth with
      | healthy => rfl
      | renewalGrace => exact absurd hhealth hne
      | expired => exact absurd hhealth (h.unexpired hactive)
    have hdeadlines := (failureGrace_eq_iff hhealthy).mpr
      (hmay hhealthy httlnow leaseUntil hold)
    refine ⟨?_, fun _ => ⟨leaseUntil, hlease.trans hold, by rw [hdeadline, hdeadlines, httl]⟩,
      fun _ => ⟨leaseUntil, hlease.trans hold⟩, fun _ => ?_⟩
    · rw [hlease, httl, hstatus]
      exact h.capped
    · rw [hgrace]
      decide

lemma of_replace (h : ∀ c ∈ db.bindings, LeaseSound service c) (hold : old ∈ db.bindings)
    (httl : new.absoluteTtlUntil = old.absoluteTtlUntil)
    (hw : LeaseWrite service now (service.MarkInTime now) old new) :
    ∀ c ∈ replace EgoBrowserBinding.id db.bindings new, LeaseSound service c := by
  intro c hc
  rw [mem_replace] at hc
  obtain ⟨hc, -⟩ | ⟨rfl, -⟩ := hc
  · exact h c hc
  · exact (h old hold).of_write httl hw

/-- No move that marks leases in time breaks a lease. -/
lemma move (h : ∀ c ∈ db.bindings, LeaseSound service c) {e : Option EgoBrowserEvent}
    (hm : Move service now (service.MarkInTime now) db e db') :
    ∀ c ∈ db'.bindings, LeaseSound service c := by
  cases hm with
  | other hbindings =>
    rw [hbindings]
    exact h
  | claim _ _ hpending hhealthy hlease httl =>
    intro c hc
    rw [List.mem_append, List.mem_singleton] at hc
    obtain hc | rfl := hc
    · exact h c hc
    · exact of_claim hpending hhealthy hlease httl
  | touch hold hsame _ _ hw => exact of_replace h hold hsame.ttl hw
  | leave hold hsame _ _ _ hw =>
    rw [bindings_supersede]
    exact of_replace h hold hsame.ttl hw
  | accept _ _ _ _ _ _ _ _ hadd =>
    rw [(mem_addLedger hadd).2.1]
    exact h
  | answer _ _ _ _ _ _ hadd =>
    rw [(mem_addLedger hadd).2.1]
    exact h
  | settle | ask | deliver => exact h

lemma moves (h : ∀ c ∈ db.bindings, LeaseSound service c) {es : List EgoBrowserEvent}
    (hm : Moves service now (service.MarkInTime now) db es db') :
    ∀ c ∈ db'.bindings, LeaseSound service c := by
  induction hm with
  | refl => exact h
  | tail _ hm ih => exact move ih hm

end LeaseSound

/-! ### The calls of a lease -/

/-- The sweep, the renewals, the report of a failed renewal and the relay admission. -/
def EgoBrowserAction.leaseCall : EgoBrowserAction → Bool
  | .expireDue | .renew .. | .renewForNode .. | .markRenewalFailed .. | .admitOuterEnvelope .. =>
    true
  | _ => false

section

variable (service)

/-- Whether a call renews a binding. -/
def EgoBrowserService.renews (db : EgoBrowserTables) (now : Instant) (id : Uuid) :
    EgoBrowserAction → Bool
  | .renew user bindingId payload deviceId =>
    bindingId = id ∧ (service.renew db now user bindingId payload deviceId).result.isOk
  | .renewForNode node bindingId payload =>
    bindingId = id ∧ (service.renewForNode db now node bindingId payload).result.isOk
  | _ => false

/-- Whether a lease call that concerns a binding returns normally. A report whose generation
is stale returns nothing. -/
def EgoBrowserService.returns (db : EgoBrowserTables) (now : Instant) (id : Uuid) :
    EgoBrowserAction → Bool
  | .expireDue => (service.expireDue db now).result.isOk
  | .markRenewalFailed bindingId generation =>
    bindingId = id ∧
      ((service.markRenewalFailed db now bindingId generation).result.toOption.bind
        fun b => b).isSome
  | .admitOuterEnvelope ledgerId claims envelope =>
    claims.binding.bindingId = id ∧
      (service.admitOuterEnvelope db now ledgerId claims envelope).result.isOk
  | action => service.renews db now id action

/-- An unrenewed lease is past its grace deadline. -/
def EgoBrowserService.lapsed (now : Instant) (b : EgoBrowserBinding) : Prop :=
  ∃ leaseUntil, b.leaseUntil = some leaseUntil ∧
    service.graceDeadline leaseUntil b.absoluteTtlUntil ≤ now

end

/-- What a lease call does to the row of a binding. -/
inductive LeaseEffect (service : EgoBrowserService) (now : Instant) (renews : Prop)
    (b b' : EgoBrowserBinding) : Prop
  | untouched : b' = b → LeaseEffect service now renews b b'
  | expired : b'.status = .expired → LeaseEffect service now renews b b'
  | graced : b'.leaseHealth = .renewalGrace → b'.status = b.status →
      b'.leaseUntil = b.leaseUntil → b'.absoluteTtlUntil = b.absoluteTtlUntil →
      LeaseEffect service now renews b b'
  | renewed : renews → b.status = .active → b.leaseHealth ≠ .expired →
      service.rejectExpiredRenewal b now = .proceed → b' = service.renewedBinding b now →
      LeaseEffect service now renews b b'

lemma row_replace (hn : (db.bindings.map EgoBrowserBinding.id).Nodup) (hb : b ∈ db.bindings)
    (hb' : b' ∈ replace EgoBrowserBinding.id db.bindings new) (hid : b'.id = b.id) :
    b' = b ∨ (b' = new ∧ new.id = b.id) := by
  rw [mem_replace] at hb'
  obtain ⟨hb', -⟩ | ⟨rfl, -⟩ := hb'
  · exact .inl (eq_of_key_eq hn hb' hb hid)
  · exact .inr ⟨rfl, hid⟩

lemma row_eq (hn : (db.bindings.map EgoBrowserBinding.id).Nodup) (hb : b ∈ db.bindings)
    (hb' : b' ∈ db.bindings) (hid : b'.id = b.id) : b' = b :=
  eq_of_key_eq hn hb' hb hid

/-- The row that an invalidation writes. -/
lemma invalidateBinding_bindings {status : EgoBrowserTerminalStatus} {reason : String}
    {left : List (Uuid × ℕ)} (h : db.invalidateBinding b status reason now = .ok (db', left)) :
    db'.bindings = db.bindings ∧ b.status.terminal = true ∨
      ∃ new, new.id = b.id ∧ new.status = status.status ∧
        db'.bindings = replace EgoBrowserBinding.id db.bindings new := by
  unfold invalidateBinding at h
  by_cases hdone : b.status.terminal ∧ (status ≠ .revoked ∨ b.status = .revoked)
  · rw [if_pos hdone] at h
    obtain ⟨rfl, -⟩ := Prod.mk.inj (Except.ok.inj h)
    exact .inl ⟨rfl, hdone.1⟩
  · rw [if_neg hdone, bind_eq_ok] at h
    obtain ⟨advanced, hadvanced, h⟩ := h
    obtain ⟨-, rfl⟩ := advanceGeneration_eq_ok hadvanced
    obtain ⟨rfl, -⟩ := Prod.mk.inj (Except.ok.inj h)
    refine .inr ⟨_, ?_, ?_, bindings_supersede ..⟩
    · rfl
    · rfl

lemma invalidateBinding_effect {renews : Prop} {reason : String} {left : List (Uuid × ℕ)}
    (hn : (db.bindings.map EgoBrowserBinding.id).Nodup)
    (h : db.invalidateBinding old .expired reason now = .ok (db', left)) (hb : b ∈ db.bindings)
    (hb' : b' ∈ db'.bindings) (hid : b'.id = b.id) : LeaseEffect service now renews b b' := by
  obtain ⟨hsame, -⟩ | ⟨new, -, hstatus, hnew⟩ := invalidateBinding_bindings h
  · rw [hsame] at hb'
    exact .untouched (row_eq hn hb hb' hid)
  · rw [hnew] at hb'
    obtain hrow | ⟨rfl, -⟩ := row_replace hn hb hb' hid
    · exact .untouched hrow
    · exact .expired hstatus

/-! ### Renewals -/

lemma active_of_validateRenewal {payload : EgoBrowserRenewRequest}
    (h : EgoBrowserService.validateRenewal b payload = .ok ()) :
    b.status = .active ∧ b.leaseHealth ≠ .expired := by
  simp only [EgoBrowserService.validateRenewal, bind_eq_ok, reject_eq_ok, exists_const] at h
  obtain ⟨_, -, -, hactive, -⟩ := h
  rwa [not_or, not_not] at hactive

/-- What the end of a renewal does to a row. -/
lemma finishRenewal_effect {renews : Prop} {device : EgoBrowserDevice}
    (hn : (db.bindings.map EgoBrowserBinding.id).Nodup) (hold : old ∈ db.bindings)
    (hactive : old.status = .active ∧ old.leaseHealth ≠ .expired)
    (hrenews : old.id = b.id → (service.finishRenewal db now old device).result.isOk → renews)
    (hb : b ∈ db.bindings) (hb' : b' ∈ (service.finishRenewal db now old device).db.bindings)
    (hid : b'.id = b.id) : LeaseEffect service now renews b b' := by
  unfold EgoBrowserService.finishRenewal at hb' hrenews
  cases hguard : service.rejectExpiredRenewal old now with
  | proceed =>
    simp only [hguard] at hb' hrenews
    obtain hrow | ⟨rfl, hnew⟩ := row_replace hn hb hb' hid
    · exact .untouched hrow
    · obtain rfl : old = b := eq_of_key_eq hn hold hb hnew
      exact .renewed (hrenews rfl rfl) hactive.1 hactive.2 hguard rfl
  | expire reason =>
    simp only [hguard] at hb'
    cases hinvalid : db.invalidateBinding old .expired reason now with
    | error e =>
      simp only [hinvalid] at hb'
      exact .untouched (row_eq hn hb hb' hid)
    | ok r =>
      simp only [hinvalid] at hb'
      exact invalidateBinding_effect hn hinvalid hb hb' hid

lemma renew_effect {user : EgoBrowserUser} {id : Uuid} {payload : EgoBrowserRenewRequest}
    {deviceId : Option Uuid} (hn : (db.bindings.map EgoBrowserBinding.id).Nodup)
    (hb : b ∈ db.bindings)
    (hb' : b' ∈ (service.renew db now user id payload deviceId).db.bindings)
    (hid : b'.id = b.id) :
    LeaseEffect service now (service.renews db now b.id (.renew user id payload deviceId)) b b' := by
  unfold EgoBrowserService.renew at hb'
  cases hcheck : service.checkRenewal db user id payload deviceId with
  | error e =>
    simp only [hcheck] at hb'
    exact .untouched (row_eq hn hb hb' hid)
  | ok r =>
    obtain ⟨hget, hrenewal⟩ := checkRenewal_eq_ok hcheck
    simp only [hcheck] at hb'
    refine finishRenewal_effect hn (mem_of_lookup hget) (active_of_validateRenewal hrenewal)
      (fun heq hok => ?_) hb hb' hid
    obtain rfl : id = b.id := (key_of_lookup hget).symm.trans heq
    simp [EgoBrowserService.renews, EgoBrowserService.renew, hcheck, hok]

lemma renewForNode_effect {node : EgoBrowserNode} {id : Uuid} {payload : EgoBrowserRenewRequest}
    (hn : (db.bindings.map EgoBrowserBinding.id).Nodup) (hb : b ∈ db.bindings)
    (hb' : b' ∈ (service.renewForNode db now node id payload).db.bindings)
    (hid : b'.id = b.id) :
    LeaseEffect service now (service.renews db now b.id (.renewForNode node id payload)) b b' := by
  unfold EgoBrowserService.renewForNode at hb'
  cases hcheck : service.checkNodeRenewal db node id payload with
  | error e =>
    simp only [hcheck] at hb'
    exact .untouched (row_eq hn hb hb' hid)
  | ok r =>
    obtain ⟨hget, hrenewal⟩ := checkNodeRenewal_eq_ok hcheck
    simp only [hcheck] at hb'
    refine finishRenewal_effect hn (mem_of_lookup hget) (active_of_validateRenewal hrenewal)
      (fun heq hok => ?_) hb hb' hid
    obtain rfl : id = b.id := (key_of_lookup hget).symm.trans heq
    simp [EgoBrowserService.renews, EgoBrowserService.renewForNode, hcheck, hok]

/-! ### Reports, the sweep and frames -/

lemma markRenewalFailed_effect {id : Uuid} {generation : ℕ} {renews : Prop}
    (hn : (db.bindings.map EgoBrowserBinding.id).Nodup) (hb : b ∈ db.bindings)
    (hb' : b' ∈ (service.markRenewalFailed db now id generation).db.bindings)
    (hid : b'.id = b.id) : LeaseEffect service now renews b b' := by
  unfold EgoBrowserService.markRenewalFailed at hb'
  cases hget : db.getBinding id with
  | none =>
    simp only [hget] at hb'
    exact .untouched (row_eq hn hb hb' hid)
  | some binding =>
    by_cases hother : binding.generation ≠ generation ∨ binding.status ≠ .active
    · simp only [hget, if_pos hother] at hb'
      exact .untouched (row_eq hn hb hb' hid)
    simp only [hget, if_neg hother] at hb'
    by_cases hended : binding.absoluteTtlUntil ≤ now ∨ service.failureGrace binding now ≤ now
    · simp only [if_pos hended] at hb'
      generalize hreason : (if binding.absoluteTtlUntil ≤ now then "absolute_ttl"
        else "renewal_grace_expired") = reason at hb'
      cases hinvalid : db.invalidateBinding binding .expired reason now with
      | error e =>
        simp only [hinvalid, error_bind] at hb'
        exact .untouched (row_eq hn hb hb' hid)
      | ok r =>
        simp only [hinvalid, ok_bind] at hb'
        exact invalidateBinding_effect hn hinvalid hb hb' hid
    · by_cases hmark : binding.leaseHealth ≠ .renewalGrace
      · simp only [if_neg hended, if_pos hmark] at hb'
        obtain hrow | ⟨rfl, hnew⟩ := row_replace hn hb hb' hid
        · exact .untouched hrow
        · obtain rfl : binding = b := eq_of_key_eq hn (mem_of_lookup hget) hb hnew
          exact .graced rfl rfl rfl rfl
      · simp only [if_neg hended, if_neg hmark] at hb'
        exact .untouched (row_eq hn hb hb' hid)

/-- The row that the sweep writes for a due binding. -/
lemma expireDueBinding_bindings {left : List (Uuid × ℕ)} (hlive : old.status.live = true)
    (h : service.expireDueBinding db old now = .ok (db', left)) :
    ∃ new, new.id = old.id ∧ db'.bindings = replace EgoBrowserBinding.id db.bindings new ∧
      (new.status = .expired ∨ new.leaseHealth = .renewalGrace ∧ new.status = old.status ∧
        new.leaseUntil = old.leaseUntil ∧ new.absoluteTtlUntil = old.absoluteTtlUntil) := by
  have hinvalid : ∀ reason, db.invalidateBinding old .expired reason now = .ok (db', left) →
      ∃ new, new.id = old.id ∧ db'.bindings = replace EgoBrowserBinding.id db.bindings new ∧
        (new.status = .expired ∨ new.leaseHealth = .renewalGrace ∧ new.status = old.status ∧
          new.leaseUntil = old.leaseUntil ∧ new.absoluteTtlUntil = old.absoluteTtlUntil) := by
    intro reason h
    obtain ⟨-, hterminal⟩ | ⟨new, hid, hstatus, hnew⟩ := invalidateBinding_bindings h
    · rw [EgoBrowserBindingStatus.terminal_eq_false_of_live hlive] at hterminal
      cases hterminal
    · exact ⟨new, hid, hnew, .inl hstatus⟩
  unfold EgoBrowserService.expireDueBinding at h
  split_ifs at h
  · exact hinvalid _ h
  · dsimp only at h
    split at h
    · split_ifs at h
      · obtain ⟨rfl, -⟩ := Prod.mk.inj (Except.ok.inj h)
        refine ⟨_, ?_, rfl, .inr ⟨?_, ?_, ?_, ?_⟩⟩ <;> rfl
      · exact hinvalid _ h
    · exact hinvalid _ h

/-- Every row after the sweep is an unlisted row or was written for a listed one. -/
lemma foldlM_expireDueBinding {bs : List EgoBrowserBinding} {acc left : List (Uuid × ℕ)}
    (hlive : ∀ c ∈ bs, c.status.live = true) (hn : (bs.map EgoBrowserBinding.id).Nodup)
    (h : bs.foldlM (fun (acc : EgoBrowserTables × List (Uuid × ℕ)) binding => do
      let (db', left) ← service.expireDueBinding acc.1 binding now
      pure (db', acc.2 ++ left)) (db, acc) = .ok (db', left)) :
    ∀ c' ∈ db'.bindings,
      (c' ∈ db.bindings ∧ ∀ c ∈ bs, c.id ≠ c'.id) ∨
        ∃ c ∈ bs, c'.id = c.id ∧ (c'.status = .expired ∨
          c'.leaseHealth = .renewalGrace ∧ c'.status = c.status ∧
            c'.leaseUntil = c.leaseUntil ∧ c'.absoluteTtlUntil = c.absoluteTtlUntil) := by
  induction bs generalizing db acc with
  | nil =>
    obtain ⟨rfl, -⟩ := Prod.mk.inj (Except.ok.inj h)
    exact fun c' hc' => .inl ⟨hc', fun c hc => by cases hc⟩
  | cons d bs ih =>
    rw [List.foldlM_cons, bind_eq_ok] at h
    obtain ⟨⟨db₁, acc₁⟩, hstep, h⟩ := h
    rw [bind_eq_ok] at hstep
    obtain ⟨⟨db₂, left₂⟩, hstep, heq⟩ := hstep
    obtain ⟨rfl, -⟩ := Prod.mk.inj (Except.ok.inj heq)
    rw [List.map_cons, List.nodup_cons] at hn
    obtain ⟨new, hid, hbindings, hnew⟩ :=
      expireDueBinding_bindings (hlive d List.mem_cons_self) hstep
    intro c' hc'
    obtain ⟨hmem, hunlisted⟩ | ⟨c, hc, hrow⟩ :=
      ih (fun c hc => hlive c (List.mem_cons_of_mem _ hc)) hn.2 h c' hc'
    · rw [hbindings, mem_replace] at hmem
      obtain ⟨hmem, hne⟩ | ⟨rfl, -⟩ := hmem
      · refine .inl ⟨hmem, fun c hc => ?_⟩
        obtain rfl | hc := List.mem_cons.mp hc
        · exact fun heq => hne (heq.symm.trans hid.symm)
        · exact hunlisted c hc
      · exact .inr ⟨d, List.mem_cons_self, hid, hnew⟩
    · exact .inr ⟨c, List.mem_cons_of_mem _ hc, hrow⟩

/-- After a sweep that returned, a row is one that was not due or was written for a due one. -/
lemma expireDue_row (hn : (db.bindings.map EgoBrowserBinding.id).Nodup)
    (hok : (service.expireDue db now).result.isOk = true) (hb : b ∈ db.bindings)
    (hb' : b' ∈ (service.expireDue db now).db.bindings) (hid : b'.id = b.id) :
    (b' = b ∧ due now b = false) ∨ b'.status = .expired ∨
      b'.leaseHealth = .renewalGrace ∧ b'.status = b.status ∧
        b'.leaseUntil = b.leaseUntil ∧ b'.absoluteTtlUntil = b.absoluteTtlUntil := by
  unfold EgoBrowserService.expireDue at hok hb'
  cases hfold : (db.listDueBindings now).foldlM
      (fun (acc : EgoBrowserTables × List (Uuid × ℕ)) binding => do
        let (db', left) ← service.expireDueBinding acc.1 binding now
        pure (db', acc.2 ++ left)) (db, []) with
  | error e =>
    rw [hfold] at hok
    cases hok
  | ok r =>
    rw [hfold] at hb'
    have hnodup : ((db.listDueBindings now).map EgoBrowserBinding.id).Nodup := nodup_filter hn
    have hlive : ∀ c ∈ db.listDueBindings now, c.status.live = true := by
      intro c hc
      have hdue := (List.mem_filter.mp hc).2
      simp only [due, decide_eq_true_eq] at hdue
      exact hdue.1
    obtain ⟨hmem, hunlisted⟩ | ⟨c, hc, hcid, hrow⟩ :=
      foldlM_expireDueBinding hlive hnodup hfold b' hb'
    · obtain rfl := row_eq hn hb hmem hid
      refine .inl ⟨rfl, ?_⟩
      by_contra hdue
      exact hunlisted b' (List.mem_filter.mpr ⟨hmem, by simpa using hdue⟩) rfl
    · obtain rfl : c = b := eq_of_key_eq hn (List.mem_filter.mp hc).1 hb (hcid.symm.trans hid)
      exact .inr hrow

lemma expireDue_effect {renews : Prop} (hn : (db.bindings.map EgoBrowserBinding.id).Nodup)
    (hb : b ∈ db.bindings) (hb' : b' ∈ (service.expireDue db now).db.bindings)
    (hid : b'.id = b.id) : LeaseEffect service now renews b b' := by
  by_cases hok : (service.expireDue db now).result.isOk = true
  · obtain ⟨hrow, -⟩ | hexpired | ⟨hgrace, hstatus, hlease, httl⟩ :=
      expireDue_row hn hok hb hb' hid
    · exact .untouched hrow
    · exact .expired hexpired
    · exact .graced hgrace hstatus hlease httl
  · have hdb : (service.expireDue db now).db = db := by
      unfold EgoBrowserService.expireDue at hok ⊢
      obtain ⟨e, -, hdb⟩ | ⟨db₁, publish, a, hx, -⟩ := EgoBrowserResponse.ofExcept_db db _
      · exact hdb
      · rw [hx] at hok
        exact absurd rfl hok
    rw [hdb] at hb'
    exact .untouched (row_eq hn hb hb' hid)

lemma bindings_admitLedger {id : Uuid} {envelope : OuterEnvelope}
    (h : db.admitLedger id b envelope = .ok db') : db'.bindings = db.bindings := by
  have hrecord : ∀ {db₁ : EgoBrowserTables} {row : EgoBrowserRequestLedger},
      db.recordFrame row = .ok db₁ → db₁.bindings = db.bindings := fun h =>
    (mem_addLedger (recordFrame_eq_ok h)).2.1
  unfold admitLedger at h
  cases hmessage : envelope.messageType with
  | execute =>
    simp only [hmessage, admitExecute, reject_bind_eq_ok] at h
    exact hrecord h.2
  | executeResult =>
    simp only [hmessage, admitResponse] at h
    cases hr : db.getLedger b.id b.generation .request envelope.requestId envelope.sequence with
    | none => simp [hr] at h
    | some request =>
      simp only [hr, bind_eq_ok, reject_eq_ok, exists_const] at h
      obtain ⟨-, db₁, hadd, h⟩ := h
      obtain rfl := Except.ok.inj h
      have hbindings := hrecord hadd
      split_ifs
      · exact hbindings
      · exact hbindings
  | cancel =>
    simp only [hmessage, admitCancel] at h
    cases hr : db.getLedger b.id b.generation .request envelope.requestId envelope.sequence with
    | none => simp [hr] at h
    | some request =>
      simp only [hr, reject_bind_eq_ok] at h
      obtain ⟨-, h⟩ := h
      split_ifs at h
      · obtain rfl := Except.ok.inj h
        rfl
      · simp only [reject_bind_eq_ok] at h
        obtain rfl := Except.ok.inj h.2.2
        rfl

lemma bindings_admitOuterEnvelope {id : Uuid} {claims : EgoBrowserRelayTicketClaims}
    {envelope : OuterEnvelope} :
    (service.admitOuterEnvelope db now id claims envelope).db.bindings = db.bindings := by
  unfold EgoBrowserService.admitOuterEnvelope
  obtain ⟨e, -, hdb⟩ | ⟨db', publish, a, hx, hdb⟩ := EgoBrowserResponse.ofExcept_db db
    (service.admission db now id claims envelope)
  · rw [hdb]
  · obtain ⟨binding, device, db₁, -, -, -, -, -, hledger, hr⟩ :=
      EgoBrowserService.admission_eq_ok hx
    obtain ⟨rfl, -⟩ := Prod.mk.inj hr
    have hbindings := bindings_admitLedger hledger
    rw [hdb]
    exact hbindings

/-- Every lease call has one of the effects on each row. -/
lemma leaseCall_effect [Sha256] {action : EgoBrowserAction} (hcall : action.leaseCall = true)
    (hn : (db.bindings.map EgoBrowserBinding.id).Nodup) (hb : b ∈ db.bindings)
    (hb' : b' ∈ (service.perform db now action).1.bindings) (hid : b'.id = b.id) :
    LeaseEffect service now (service.renews db now b.id action) b b' := by
  cases action with
  | expireDue => exact expireDue_effect hn hb hb' hid
  | renew => exact renew_effect hn hb hb' hid
  | renewForNode => exact renewForNode_effect hn hb hb' hid
  | markRenewalFailed => exact markRenewalFailed_effect hn hb hb' hid
  | admitOuterEnvelope =>
    have hb' : b' ∈ db.bindings := by
      rw [← bindings_admitOuterEnvelope]
      exact hb'
    exact .untouched (row_eq hn hb hb' hid)
  | _ => cases hcall

end AgentRemote
