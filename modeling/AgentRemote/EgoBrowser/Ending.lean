import AgentRemote.EgoBrowser.Lapse

/-!
# The end of a binding

Every operation that ends a binding advances its generation first, with the bound that the
tables set for live bindings. So a binding at that bound cannot be ended, and one such binding
that is due keeps the whole sweep from expiring any.
-/

namespace AgentRemote
open Library EgoBrowserFailure EgoBrowserTables

variable {db db' : EgoBrowserTables} {b c : EgoBrowserBinding} {service : EgoBrowserService}
  {now : Instant} {id : Uuid}

/-- The error of a generation that cannot be advanced. -/
def generationExhausted : EgoBrowserFailure :=
  apiError "EGO_BROWSER_GENERATION_EXHAUSTED" "The binding generation is exhausted." 409

/-- The binding has a terminal status. -/
def EndedIn (db : EgoBrowserTables) (id : Uuid) : Prop :=
  ∃ b, db.getBinding id = some b ∧ b.status.terminal = true

/-- The sweep leaves the binding in the grace of its lease. -/
def EgoBrowserService.graced (service : EgoBrowserService) (b : EgoBrowserBinding)
    (now : Instant) : Prop :=
  now < b.absoluteTtlUntil ∧ b.leaseHealth = .healthy ∧
    ∃ leaseUntil, b.leaseUntil = some leaseUntil ∧
      now < service.graceDeadline leaseUntil b.absoluteTtlUntil

/-- What the tables keep of bindings and devices: keys, foreign keys and the owner. -/
structure BindingsSound (db : EgoBrowserTables) : Prop where
  ids : (db.bindings.map EgoBrowserBinding.id).Nodup
  device : ∀ b ∈ db.bindings, ∃ d, db.getDevice b.egoBrowserDeviceId = some d ∧ d.userId = b.userId
  range : ∀ b ∈ db.bindings, 1 ≤ b.generation ∧ b.generation ≤ maxEgoBrowserGeneration
  liveRange : ∀ b ∈ db.bindings, b.status.terminal = false →
    b.generation ≤ maxActiveEgoBrowserGeneration

/-! ### One binding -/

lemma advanceGeneration_of_lt (h : b.generation < maxActiveEgoBrowserGeneration) :
    advanceGeneration b = .ok { b with generation := b.generation + 1 } := by
  unfold advanceGeneration
  rw [reject_of_not (not_le.mpr h)]
  rfl

lemma advanceGeneration_of_le (h : maxActiveEgoBrowserGeneration ≤ b.generation) :
    advanceGeneration b = .error generationExhausted := by
  unfold advanceGeneration
  rw [reject_of h]
  rfl

lemma getBinding_replace {new : EgoBrowserBinding}
    (h : db'.bindings = replace EgoBrowserBinding.id db.bindings new) (id : Uuid) :
    db'.getBinding id =
      if id = new.id then (db.getBinding id).map fun _ => new else db.getBinding id := by
  unfold getBinding
  rw [h, lookup_replace]

/-- A binding below the bound can be ended. -/
lemma exists_invalidateBinding (db : EgoBrowserTables) (now : Instant)
    (status : EgoBrowserTerminalStatus) (reason : String)
    (hgen : b.status.terminal = true ∧ (status ≠ .revoked ∨ b.status = .revoked) ∨
      b.generation < maxActiveEgoBrowserGeneration) :
    ∃ db' left, db.invalidateBinding b status reason now = .ok (db', left) := by
  unfold invalidateBinding
  by_cases hdone : b.status.terminal ∧ (status ≠ .revoked ∨ b.status = .revoked)
  · rw [if_pos hdone]
    exact ⟨_, _, rfl⟩
  · rw [if_neg hdone, advanceGeneration_of_lt (hgen.resolve_left hdone)]
    exact ⟨_, _, rfl⟩

lemma invalidateBinding_of_le {status : EgoBrowserTerminalStatus} (db : EgoBrowserTables)
    (reason : String) (now : Instant)
    (hdone : ¬(b.status.terminal ∧ (status ≠ .revoked ∨ b.status = .revoked)))
    (hgen : maxActiveEgoBrowserGeneration ≤ b.generation) :
    db.invalidateBinding b status reason now = .error generationExhausted := by
  unfold invalidateBinding
  rw [if_neg hdone, advanceGeneration_of_le hgen]
  rfl

/-- Ending a binding leaves the other rows alone. -/
lemma invalidateBinding_other {status : EgoBrowserTerminalStatus} {reason : String}
    {left : List (Uuid × ℕ)} (h : db.invalidateBinding b status reason now = .ok (db', left))
    (hid : id ≠ b.id) : db'.getBinding id = db.getBinding id := by
  obtain ⟨hsame, -⟩ | ⟨new, hnew, -, hbindings⟩ := invalidateBinding_bindings h
  · unfold getBinding
    rw [hsame]
  · rw [getBinding_replace hbindings, if_neg (hnew ▸ hid)]

lemma ended_of_invalidateBinding {status : EgoBrowserTerminalStatus} {reason : String}
    {left : List (Uuid × ℕ)} (hb : db.getBinding b.id = some b)
    (h : db.invalidateBinding b status reason now = .ok (db', left)) : EndedIn db' b.id := by
  obtain ⟨hsame, hended⟩ | ⟨new, hid, hstatus, hbindings⟩ := invalidateBinding_bindings h
  · refine ⟨b, ?_, hended⟩
    unfold getBinding at hb ⊢
    rwa [hsame]
  · refine ⟨new, ?_, hstatus ▸ status.terminal_status⟩
    rw [getBinding_replace hbindings, if_pos hid.symm, hb, Option.map_some]

/-! ### Many bindings -/

/-- A step over one binding succeeds, leaves the other rows alone and ends the binding when it
should. -/
def EndsOne (f : EgoBrowserTables → EgoBrowserBinding →
      Except EgoBrowserFailure (EgoBrowserTables × List (Uuid × ℕ)))
    (should : EgoBrowserBinding → Prop) (b : EgoBrowserBinding) : Prop :=
  ∀ db : EgoBrowserTables, db.getBinding b.id = some b → ∃ db' left, f db b = .ok (db', left) ∧
    (∀ id, id ≠ b.id → db'.getBinding id = db.getBinding id) ∧ (should b → EndedIn db' b.id)

/-- A fold of such steps over distinct bindings succeeds and ends each that should be. -/
lemma foldlM_ends {f : EgoBrowserTables → EgoBrowserBinding →
      Except EgoBrowserFailure (EgoBrowserTables × List (Uuid × ℕ))}
    {should : EgoBrowserBinding → Prop} {bs : List EgoBrowserBinding}
    (hf : ∀ b ∈ bs, EndsOne f should b) (hn : (bs.map EgoBrowserBinding.id).Nodup)
    (hbs : ∀ b ∈ bs, db.getBinding b.id = some b) (acc : List (Uuid × ℕ)) :
    ∃ db' left, bs.foldlM (fun (acc : EgoBrowserTables × List (Uuid × ℕ)) b => do
        let (db', left) ← f acc.1 b
        pure (db', acc.2 ++ left)) (db, acc) = .ok (db', left) ∧
      (∀ id, id ∉ bs.map EgoBrowserBinding.id → db'.getBinding id = db.getBinding id) ∧
      ∀ b ∈ bs, should b → EndedIn db' b.id := by
  induction bs generalizing db acc with
  | nil => exact ⟨db, acc, rfl, fun _ _ => rfl, fun _ hb => by simp at hb⟩
  | cons b bs ih =>
    rw [List.map_cons, List.nodup_cons] at hn
    obtain ⟨db₁, left₁, hstep, hother, hended⟩ :=
      hf b List.mem_cons_self db (hbs b List.mem_cons_self)
    have hrest : ∀ c ∈ bs, db₁.getBinding c.id = some c := by
      intro c hc
      have hne : c.id ≠ b.id := fun he => hn.1 (he ▸ List.mem_map_of_mem hc)
      rw [hother c.id hne]
      exact hbs c (List.mem_cons_of_mem _ hc)
    obtain ⟨db', left, hfold, hkept, hall⟩ :=
      ih (fun c hc => hf c (List.mem_cons_of_mem _ hc)) hn.2 hrest (acc ++ left₁)
    refine ⟨db', left, ?_, ?_, ?_⟩
    · rw [List.foldlM_cons, hstep]
      exact hfold
    · intro id hid
      rw [List.map_cons, List.mem_cons, not_or] at hid
      rw [hkept id hid.2, hother id hid.1]
    · intro c hc hshould
      rcases List.mem_cons.mp hc with rfl | hc
      · obtain ⟨d, hd, hterm⟩ := hended hshould
        exact ⟨d, by rw [hkept _ hn.1, hd], hterm⟩
      · exact hall c hc hshould

/-- A fold with a step that always fails at one of the bindings fails. -/
lemma foldlM_fails {f : EgoBrowserTables → EgoBrowserBinding →
      Except EgoBrowserFailure (EgoBrowserTables × List (Uuid × ℕ))}
    {bs : List EgoBrowserBinding} (hb : b ∈ bs) (hf : ∀ db, ∃ e, f db b = .error e)
    (start : EgoBrowserTables × List (Uuid × ℕ)) :
    ∃ e, bs.foldlM (fun (acc : EgoBrowserTables × List (Uuid × ℕ)) b => do
        let (db', left) ← f acc.1 b
        pure (db', acc.2 ++ left)) start = .error e := by
  induction bs generalizing start with
  | nil => simp at hb
  | cons c bs ih =>
    rw [List.foldlM_cons]
    rcases List.mem_cons.mp hb with rfl | hb
    · obtain ⟨e, he⟩ := hf start.1
      exact ⟨e, by rw [he]; rfl⟩
    · cases hc : f start.1 c with
      | error e => exact ⟨e, rfl⟩
      | ok r => exact ih hb (r.1, start.2 ++ r.2)

lemma live_not_done {status : EgoBrowserTerminalStatus} (h : b.status.live = true) :
    ¬(b.status.terminal ∧ (status ≠ .revoked ∨ b.status = .revoked)) := by
  intro hdone
  rw [EgoBrowserBindingStatus.terminal_eq_false_of_live h] at hdone
  exact absurd hdone.1 Bool.false_ne_true

lemma endsOne_invalidate (status : EgoBrowserTerminalStatus) (reason : String) (now : Instant)
    (hgen : b.generation < maxActiveEgoBrowserGeneration) :
    EndsOne (fun db b => db.invalidateBinding b status reason now) (fun _ => True) b := by
  intro db hb
  obtain ⟨db', left, h⟩ := exists_invalidateBinding db now status reason (Or.inr hgen)
  exact ⟨db', left, h, fun _ hid => invalidateBinding_other h hid,
    fun _ => ended_of_invalidateBinding hb h⟩

/-- One binding of the sweep: it is marked in its grace or ended. -/
lemma expireDueBinding_eq (service : EgoBrowserService) (db : EgoBrowserTables)
    (b : EgoBrowserBinding) (now : Instant) :
    (service.graced b now ∧ ∃ graceUntil, service.expireDueBinding db b now =
        .ok (db.setBinding
          { b with leaseHealth := .renewalGrace, leaseGraceUntil := some graceUntil }, [])) ∨
      ¬service.graced b now ∧ ∃ reason,
        service.expireDueBinding db b now = db.invalidateBinding b .expired reason now := by
  unfold EgoBrowserService.expireDueBinding EgoBrowserService.graced
  by_cases hended : b.absoluteTtlUntil ≤ now
  · rw [if_pos hended]
    exact Or.inr ⟨fun h => absurd h.1 (not_lt.mpr hended), _, rfl⟩
  · rw [if_neg hended]
    dsimp only
    split
    next leaseUntil hhealthy hlease =>
      by_cases hgrace : now < service.graceDeadline leaseUntil b.absoluteTtlUntil
      · rw [if_pos hgrace]
        exact Or.inl ⟨⟨not_le.mp hended, hhealthy, leaseUntil, hlease, hgrace⟩, _, rfl⟩
      · rw [if_neg hgrace]
        refine Or.inr ⟨?_, _, rfl⟩
        rintro ⟨-, -, l, hl, hlt⟩
        rw [hlease] at hl
        exact hgrace (Option.some.inj hl ▸ hlt)
    next hnot =>
      refine Or.inr ⟨?_, _, rfl⟩
      rintro ⟨-, hhealthy, l, hl, -⟩
      exact hnot l hhealthy hl

lemma endsOne_expireDue
    (hgen : service.graced b now ∨ b.generation < maxActiveEgoBrowserGeneration) :
    EndsOne (fun db b => service.expireDueBinding db b now) (fun b => ¬service.graced b now) b := by
  intro db hb
  obtain ⟨hgraced, graceUntil, heq⟩ | ⟨hgraced, reason, heq⟩ :=
    expireDueBinding_eq service db b now
  · refine ⟨_, _, heq, fun id hne => ?_, fun h => absurd hgraced h⟩
    let new := { b with leaseHealth := .renewalGrace, leaseGraceUntil := some graceUntil }
    have hbindings : (db.setBinding new).bindings =
        replace EgoBrowserBinding.id db.bindings new := rfl
    have hne' : ¬id = new.id := hne
    rw [getBinding_replace hbindings, if_neg hne']
  · obtain ⟨db', left, h, hother, hended⟩ :=
      endsOne_invalidate .expired reason now (hgen.resolve_left hgraced) db hb
    exact ⟨db', left, heq.trans h, hother, fun _ => hended trivial⟩

/-! ### Requests -/

section

variable {user : EgoBrowserUser} {deviceId : Option Uuid} {device : EgoBrowserDevice}

lemma ownedBindingDevice_fails {allowAdmin : Bool} :
    FailsWith (· ≠ generationExhausted) (db.ownedBindingDevice user id deviceId allowAdmin) := by
  unfold ownedBindingDevice
  cases db.getBinding id with
  | none => exact failsWith_error.mpr (by decide)
  | some binding =>
    refine FailsWith.reject_bind (by decide) fun _ => FailsWith.reject_bind (by decide) fun _ => ?_
    cases db.getDevice binding.egoBrowserDeviceId with
    | none => exact failsWith_error.mpr (by decide)
    | some device => exact FailsWith.reject_bind (by decide) fun _ => failsWith_ok _

lemma validateDevicePop_fails {n : ℕ} {operation : EgoBrowserProofOperation}
    {bindingId : Option Uuid} {proof : SubmittedProof} :
    FailsWith (· ≠ generationExhausted)
      (service.validateDevicePop device n operation bindingId proof) := by
  unfold EgoBrowserService.validateDevicePop
  apply FailsWith.bind
  · exact FailsWith.reject_bind (by decide) fun _ => FailsWith.reject_bind (by decide) fun _ =>
      failsWith_ok _
  · intro key _
    unfold EgoBrowserService.validatePop
    split_ifs
    · exact failsWith_ok _
    · split
      · refine FailsWith.reject_bind (by decide) fun _ => FailsWith.reject_bind (by decide) fun _ => ?_
        exact failsWith_reject.mpr fun _ => by decide
      · exact failsWith_error.mpr (by decide)

/-- What a request to end one binding gives. -/
structure EndsBinding (response : EgoBrowserResponse Unit) (id : Uuid) : Prop where
  notExhausted : response.result ≠ .error generationExhausted
  ended : response.result = .ok () → EndedIn response.db id

/-- The bound that ending a binding needs. -/
def BelowBound (b : EgoBrowserBinding) : Prop := b.generation < maxActiveEgoBrowserGeneration

lemma endsBinding_of_ofExcept
    {x : Except EgoBrowserFailure (EgoBrowserTables × List (Uuid × ℕ) × Unit)}
    (hfails : FailsWith (· ≠ generationExhausted) x)
    (hok : ∀ db' left, x = .ok (db', left, ()) → EndedIn db' id) :
    EndsBinding (.ofExcept db x) id := by
  cases x with
  | error e =>
    refine ⟨fun h => failsWith_error.mp hfails (Except.error.inj h), fun h => ?_⟩
    cases h
  | ok r =>
    obtain ⟨db', left, u⟩ := r
    exact ⟨fun h => (nomatch h), fun _ => hok db' left rfl⟩

lemma id_of_ownedBindingDevice {allowAdmin : Bool} {binding : EgoBrowserBinding}
    (h : db.ownedBindingDevice user id deviceId allowAdmin = .ok (binding, device)) :
    binding.id = id ∧ db.getBinding binding.id = some binding := by
  have hget := getBinding_of_ownedBindingDevice h
  have hid := key_of_lookup hget
  exact ⟨hid, hid ▸ hget⟩

lemma ended_of_alreadyEnded {binding : EgoBrowserBinding} {revoke : Bool}
    (h : EgoBrowserService.alreadyEnded binding revoke = true)
    (hget : db.getBinding binding.id = some binding) : EndedIn db binding.id := by
  simp only [EgoBrowserService.alreadyEnded, decide_eq_true_eq] at h
  exact ⟨binding, hget, h.1⟩

lemma not_done_of_not_alreadyEnded {binding : EgoBrowserBinding} {revoke : Bool}
    (h : ¬EgoBrowserService.alreadyEnded binding revoke = true) :
    ¬(binding.status.terminal ∧ (EgoBrowserService.stopStatus revoke ≠ .revoked ∨
      binding.status = .revoked)) := by
  cases revoke <;> simpa [EgoBrowserService.alreadyEnded, EgoBrowserService.stopStatus] using h

/-- A binding that a stop does not find ended is not revoked. -/
lemma ne_revoked_of_not_alreadyEnded {binding : EgoBrowserBinding} {revoke : Bool}
    (h : ¬EgoBrowserService.alreadyEnded binding revoke = true) : binding.status ≠ .revoked := by
  intro hrevoked
  apply h
  simp [EgoBrowserService.alreadyEnded, hrevoked, EgoBrowserBindingStatus.terminal]

lemma stop_ends {payload : EgoBrowserLifecycleRequest} {revoke : Bool}
    (hbound : ∀ b ∈ db.bindings, b.status ≠ .revoked → BelowBound b) :
    EndsBinding (service.stop db now user id payload revoke deviceId) id := by
  apply endsBinding_of_ofExcept
  · apply ownedBindingDevice_fails.bind
    rintro ⟨binding, device⟩ hown
    dsimp only
    by_cases hended : EgoBrowserService.alreadyEnded binding revoke = true
    · rw [if_pos hended]
      exact failsWith_ok _
    · rw [if_neg hended]
      refine FailsWith.bind (failsWith_reject.mpr fun _ => by decide) fun _ _ => ?_
      refine FailsWith.reject_bind (by decide) fun _ => ?_
      refine FailsWith.bind validateDevicePop_fails fun _ _ => ?_
      have hgen := hbound binding (mem_of_ownedBindingDevice hown)
        (ne_revoked_of_not_alreadyEnded hended)
      obtain ⟨db', left, hinvalid⟩ := exists_invalidateBinding db now
        (EgoBrowserService.stopStatus revoke) payload.reason (Or.inr hgen)
      rw [hinvalid]
      exact failsWith_ok _
  · intro db' left h
    simp only [bind_eq_ok, Prod.exists] at h
    obtain ⟨binding, device, hown, h⟩ := h
    obtain ⟨rfl, hget⟩ := id_of_ownedBindingDevice hown
    by_cases hended : EgoBrowserService.alreadyEnded binding revoke = true
    · rw [if_pos hended] at h
      obtain ⟨rfl, -⟩ := Prod.mk.inj (Except.ok.inj h)
      exact ended_of_alreadyEnded hended hget
    · rw [if_neg hended] at h
      simp only [bind_eq_ok, Prod.exists] at h
      obtain ⟨_, -, _, -, _, -, db₁, left₁, hinvalid, h⟩ := h
      obtain ⟨rfl, -⟩ := Prod.mk.inj (Except.ok.inj h)
      obtain ⟨c, hc, hstatus⟩ := ended_of_invalidateBinding hget hinvalid
      exact ⟨c, hc, hstatus⟩

lemma stopByUser_ends {n : ℕ} {reason : String} {revoke : Bool}
    (hbound : ∀ b ∈ db.bindings, b.status ≠ .revoked → BelowBound b) :
    EndsBinding (EgoBrowserService.stopByUser db now user id n reason revoke) id := by
  apply endsBinding_of_ofExcept
  · apply ownedBindingDevice_fails.bind
    rintro ⟨binding, device⟩ hown
    dsimp only
    by_cases hended : EgoBrowserService.alreadyEnded binding revoke = true
    · rw [if_pos hended]
      exact failsWith_ok _
    · rw [if_neg hended]
      refine FailsWith.reject_bind (by decide) fun _ => ?_
      have hgen := hbound binding (mem_of_ownedBindingDevice hown)
        (ne_revoked_of_not_alreadyEnded hended)
      obtain ⟨db', left, hinvalid⟩ := exists_invalidateBinding db now
        (EgoBrowserService.stopStatus revoke) reason (Or.inr hgen)
      rw [hinvalid]
      exact failsWith_ok _
  · intro db' left h
    simp only [bind_eq_ok, Prod.exists] at h
    obtain ⟨binding, device, hown, h⟩ := h
    obtain ⟨rfl, hget⟩ := id_of_ownedBindingDevice hown
    by_cases hended : EgoBrowserService.alreadyEnded binding revoke = true
    · rw [if_pos hended] at h
      obtain ⟨rfl, -⟩ := Prod.mk.inj (Except.ok.inj h)
      exact ended_of_alreadyEnded hended hget
    · rw [if_neg hended] at h
      simp only [bind_eq_ok, Prod.exists] at h
      obtain ⟨_, -, db₁, left₁, hinvalid, h⟩ := h
      obtain ⟨rfl, -⟩ := Prod.mk.inj (Except.ok.inj h)
      exact ended_of_invalidateBinding hget hinvalid

/-- The owner's request to revoke a binding at the bound fails. -/
lemma stopByUser_exhausted (hsound : BindingsSound db) (hb : b ∈ db.bindings)
    (hrevoked : b.status ≠ .revoked) (hgen : maxActiveEgoBrowserGeneration ≤ b.generation) :
    (EgoBrowserService.stopByUser db now ⟨b.userId, false⟩ b.id b.generation "user_revoke" true).result =
      .error generationExhausted := by
  obtain ⟨d, hd, howner⟩ := hsound.device b hb
  have hget : db.getBinding b.id = some b := lookup_of_mem hsound.ids hb
  have hown : db.ownedBindingDevice ⟨b.userId, false⟩ b.id none true = .ok (b, d) := by
    simp [ownedBindingDevice, hget, hd, howner, reject]
  have hended : ¬EgoBrowserService.alreadyEnded b true = true := by
    simp [EgoBrowserService.alreadyEnded, hrevoked]
  have hinvalid := invalidateBinding_of_le db "user_revoke" now
    (not_done_of_not_alreadyEnded hended) hgen
  simp only [EgoBrowserService.stopByUser, hown, ok_bind]
  rw [if_neg hended]
  simp only [reject_of_not (not_not.mpr rfl), ok_bind, hinvalid, error_bind]
  rfl

end

/-! ### Batches -/

/-- Ending all listed bindings gives no error of the bound and ends each. -/
structure EndsListed (response : EgoBrowserResponse ℕ) (bindings : List EgoBrowserBinding) : Prop where
  notExhausted : response.result ≠ .error generationExhausted
  ended : ∀ b ∈ bindings, EndedIn response.db b.id

lemma nodup_filter_ids (hn : (db.bindings.map EgoBrowserBinding.id).Nodup)
    (p : EgoBrowserBinding → Bool) :
    ((db.bindings.filter p).map EgoBrowserBinding.id).Nodup :=
  (List.filter_sublist.map _).nodup hn

lemma revokeListed_ends {p : EgoBrowserBinding → Bool} {reason : String}
    (hn : (db.bindings.map EgoBrowserBinding.id).Nodup)
    (hbound : ∀ b ∈ db.bindings.filter p, BelowBound b) :
    EndsListed (EgoBrowserService.revokeListed db now (db.bindings.filter p) reason)
      (db.bindings.filter p) := by
  obtain ⟨db', left, hfold, -, hended⟩ := foldlM_ends
    (fun b hb => endsOne_invalidate .revoked reason now (hbound b hb)) (nodup_filter_ids hn p)
    (fun b hb => lookup_of_mem hn (List.mem_of_mem_filter hb)) []
  have hinvalid : db.invalidateBindings (db.bindings.filter p) .revoked reason now =
      .ok (db', left) := hfold
  have hresponse : EgoBrowserService.revokeListed db now (db.bindings.filter p) reason =
      { db := db', publish := left, result := .ok left.length } := by
    unfold EgoBrowserService.revokeListed
    rw [hinvalid]
    rfl
  rw [hresponse]
  exact ⟨fun h => (nomatch h), fun b hb => hended b hb trivial⟩

/-- The sweep has to end the binding: it is due and past the grace of its lease. -/
def EgoBrowserService.mustExpire (service : EgoBrowserService) (db : EgoBrowserTables)
    (now : Instant) (b : EgoBrowserBinding) : Prop :=
  b ∈ db.listDueBindings now ∧ ¬service.graced b now

/-- The sweep gives no error of the bound and ends every binding that it has to. -/
structure SweepEnds (service : EgoBrowserService) (db : EgoBrowserTables) (now : Instant) :
    Prop where
  notExhausted : (service.expireDue db now).result ≠ .error generationExhausted
  ended : ∀ b, service.mustExpire db now b → EndedIn (service.expireDue db now).db b.id

lemma expireDue_ends (hn : (db.bindings.map EgoBrowserBinding.id).Nodup)
    (hbound : ∀ b, service.mustExpire db now b → BelowBound b) : SweepEnds service db now := by
  have hstep : ∀ b ∈ db.listDueBindings now, EndsOne
      (fun db b => service.expireDueBinding db b now) (fun b => ¬service.graced b now) b := by
    intro b hb
    apply endsOne_expireDue
    by_cases hgraced : service.graced b now
    · exact Or.inl hgraced
    · exact Or.inr (hbound b ⟨hb, hgraced⟩)
  obtain ⟨db', left, hfold, -, hended⟩ := foldlM_ends hstep (nodup_filter_ids hn (due now))
    (fun b hb => lookup_of_mem hn (List.mem_of_mem_filter hb)) []
  have hresponse : service.expireDue db now =
      { db := db', publish := left, result := .ok left.length } := by
    unfold EgoBrowserService.expireDue
    rw [hfold]
    rfl
  have hresult : (service.expireDue db now).result = .ok left.length := by
    rw [hresponse]
  have hdb : (service.expireDue db now).db = db' := by
    rw [hresponse]
  refine ⟨?_, fun b hb => ?_⟩
  · rw [hresult]
    exact fun h => (nomatch h)
  · rw [hdb]
    exact hended b hb.1 hb.2

/-- A sweep that fails expires no binding. -/
lemma expireDue_fails (hb : service.mustExpire db now b)
    (hgen : maxActiveEgoBrowserGeneration ≤ b.generation) :
    (service.expireDue db now).db = db := by
  have hlive : b.status.live = true := by
    have hdue := (List.mem_filter.mp hb.1).2
    simp only [due, decide_eq_true_eq] at hdue
    exact hdue.1
  have hf : ∀ db' : EgoBrowserTables, ∃ e, service.expireDueBinding db' b now = .error e := by
    intro db'
    obtain ⟨hgraced, -⟩ | ⟨-, reason, heq⟩ := expireDueBinding_eq service db' b now
    · exact absurd hgraced hb.2
    · exact ⟨_, heq.trans (invalidateBinding_of_le db' reason now (live_not_done hlive) hgen)⟩
  obtain ⟨e, he⟩ :=
    foldlM_fails (f := fun db b => service.expireDueBinding db b now) hb.1 hf (db, [])
  unfold EgoBrowserService.expireDue
  rw [he]
  rfl

/-! ### When a binding can always be ended -/

/-- Every operation that ends bindings does so. -/
structure EndsAlways (service : EgoBrowserService) (db : EgoBrowserTables) (now : Instant) :
    Prop where
  stop : ∀ user id payload revoke deviceId,
    EndsBinding (service.stop db now user id payload revoke deviceId) id
  stopByUser : ∀ user id n reason revoke,
    EndsBinding (EgoBrowserService.stopByUser db now user id n reason revoke) id
  revokeForToolSession : ∀ id reason,
    EndsListed (EgoBrowserService.revokeForToolSession db now id reason) (db.listLiveForSession id)
  revokeForDevice : ∀ id reason,
    EndsListed (EgoBrowserService.revokeForDevice db now id reason) (db.listLiveForDevice id)
  revokeForUser : ∀ id reason,
    EndsListed (EgoBrowserService.revokeForUser db now id reason) (db.listLiveForUser id)
  revokeForNode : ∀ id reason,
    EndsListed (EgoBrowserService.revokeForNode db now id reason) (db.listLiveForNode id)
  expireDue : SweepEnds service db now

lemma belowBound_of_live (hbound : ∀ b ∈ db.bindings, b.status ≠ .revoked → BelowBound b)
    (hb : b ∈ db.bindings) (hlive : b.status.live = true) : BelowBound b := by
  apply hbound b hb
  intro hrevoked
  rw [hrevoked] at hlive
  cases hlive

/-- Every ending operation succeeds exactly while every binding that is not revoked is below
the bound. -/
theorem ends_always_iff (hsound : BindingsSound db) :
    EndsAlways service db now ↔ ∀ b ∈ db.bindings, b.status ≠ .revoked → BelowBound b := by
  constructor
  · intro h b hb hrevoked
    by_contra hgen
    exact (h.stopByUser _ b.id _ _ _).notExhausted
      (stopByUser_exhausted hsound hb hrevoked (not_lt.mp hgen))
  · intro hbound
    have hlisted : ∀ (p : EgoBrowserBinding → Prop) [DecidablePred p],
        ∀ b ∈ db.bindings.filter fun b => p b ∧ b.status.live, BelowBound b := by
      intro p _ b hb
      obtain ⟨hmem, hp⟩ := List.mem_filter.mp hb
      simp only [decide_eq_true_eq] at hp
      exact belowBound_of_live hbound hmem hp.2
    exact
      { stop := fun _ _ _ _ _ => stop_ends hbound
        stopByUser := fun _ _ _ _ _ => stopByUser_ends hbound
        revokeForToolSession := fun _ _ => revokeListed_ends hsound.ids (hlisted _)
        revokeForDevice := fun _ _ => revokeListed_ends hsound.ids (hlisted _)
        revokeForUser := fun _ _ => revokeListed_ends hsound.ids (hlisted _)
        revokeForNode := fun _ _ => revokeListed_ends hsound.ids (hlisted _)
        expireDue := expireDue_ends hsound.ids fun b hb =>
          belowBound_of_live hbound (List.mem_of_mem_filter hb.1) (by
            have hdue := (List.mem_filter.mp hb.1).2
            simp only [due, decide_eq_true_eq] at hdue
            exact hdue.1) }

/-! ### A binding at the bound -/

/-- An active device of the sample user. -/
def boundDevice (id : Uuid) : EgoBrowserDevice where
  id := id
  userId := 1
  publicKey := sampleKey
  encryptionPublicKey := some sampleKey
  generation := 1
  status := .active
  platform := "macos".toList
  serverOrigin := none
  releaseProfile := .developmentLocal
  signerCertificateSha256 := "development".toList
  credentialProfile := .communityFile
  bridgeProtocolVersion := egoBrowserProtocol
  bridgeVersion := none
  localEgoBrowserRuntimeVersion := none
  egoLiteRuntimeVersion := none
  skillVersion := none
  capabilities := requiredCapabilities
  allowlistRevision := 1
  allowlistRootsDigest := none
  learningBundleDigest := none
  lastSeenAt := none
  revokedAt := none

/-- An active binding with a lease of 60 seconds and an absolute deadline of an hour. -/
def boundBinding (id deviceId sessionId : Uuid) (generation : ℕ) : EgoBrowserBinding where
  id := id
  userId := 1
  egoBrowserDeviceId := deviceId
  toolSessionId := some sessionId
  toolSessionReferenceId := sessionId
  nodeId := 5
  status := .active
  authorizedAt := 0
  releaseProfile := .developmentLocal
  signerCertificateSha256 := "development".toList
  credentialProfile := .communityFile
  localRuntimeVersion := none
  egoLiteRuntimeVersion := none
  skillVersion := none
  bridgeProtocolVersion := egoBrowserProtocol
  taskSpaceLabel := none
  allowlistRevision := 1
  allowlistRootsDigest := none
  learningBundleDigest := none
  concurrencyMode := .binding
  maxParallelRequests := 1
  capabilities := requiredCapabilities
  leaseUntil := some 60000000
  leaseHealth := .healthy
  leaseGraceUntil := none
  leaseRenewIntervalSeconds := 20
  leaseRenewFailureGraceSeconds := 10
  absoluteTtlUntil := 3600000000
  generation := generation
  connectedAt := some 0
  stoppedAt := none
  stopReason := none
  revokedAt := none

/-- Two live bindings of two devices, the first at the given generation. -/
def boundTables (generation : ℕ) : EgoBrowserTables where
  devices := [boundDevice 2, boundDevice 6]
  bindings := [boundBinding 3 2 4 generation, boundBinding 7 6 8 1]

lemma boundTables_sound {generation : ℕ} (hpos : 1 ≤ generation)
    (hlive : generation ≤ maxActiveEgoBrowserGeneration) :
    BindingsSound (boundTables generation) := by
  have hmax : maxActiveEgoBrowserGeneration < maxEgoBrowserGeneration := by decide
  have hone : 1 ≤ maxActiveEgoBrowserGeneration := by decide
  refine ⟨?_, ?_, ?_, ?_⟩
  · simp [boundTables, boundBinding]
  · intro b hb
    simp only [boundTables, List.mem_cons, List.not_mem_nil, or_false] at hb
    rcases hb with rfl | rfl
    · exact ⟨boundDevice 2, rfl, rfl⟩
    · exact ⟨boundDevice 6, rfl, rfl⟩
  · intro b hb
    simp only [boundTables, List.mem_cons, List.not_mem_nil, or_false] at hb
    rcases hb with rfl | rfl
    · exact ⟨hpos, by change generation ≤ _; omega⟩
    · exact ⟨le_refl 1, by change 1 ≤ _; omega⟩
  · intro b hb _
    simp only [boundTables, List.mem_cons, List.not_mem_nil, or_false] at hb
    rcases hb with rfl | rfl
    · exact hlive
    · exact hone

/-- With a binding at the bound past its deadline the sweep fails and expires neither that
binding nor the other one, and the owner cannot revoke it. -/
theorem binding_at_bound_blocks :
    BindingsSound (boundTables maxActiveEgoBrowserGeneration) ∧
      ¬EndsAlways sampleService (boundTables maxActiveEgoBrowserGeneration) 3600000000 ∧
      (sampleService.expireDue (boundTables maxActiveEgoBrowserGeneration) 3600000000).result =
        .error generationExhausted ∧
      sampleService.mustExpire (boundTables maxActiveEgoBrowserGeneration) 3600000000
        (boundBinding 7 6 8 1) ∧
      ¬EndedIn (sampleService.expireDue (boundTables maxActiveEgoBrowserGeneration)
        3600000000).db 7 ∧
      (EgoBrowserService.stopByUser (boundTables maxActiveEgoBrowserGeneration) 0 sampleUser 3
        maxActiveEgoBrowserGeneration "user_revoke" true).result = .error generationExhausted := by
  have hsweep : (sampleService.expireDue (boundTables maxActiveEgoBrowserGeneration)
      3600000000).result = .error generationExhausted := by decide +kernel
  have hother : ∀ b ∈ (sampleService.expireDue (boundTables maxActiveEgoBrowserGeneration)
      3600000000).db.getBinding 7, b.status.terminal = false := by decide +kernel
  refine ⟨boundTables_sound (by decide) (le_refl _), fun h => h.expireDue.notExhausted hsweep,
    hsweep, ⟨by decide +kernel, fun h => absurd h.1 (by decide)⟩, ?_, by decide +kernel⟩
  rintro ⟨b, hb, hended⟩
  rw [hother b hb] at hended
  cases hended

/-- Below the bound the same two bindings can be ended. -/
theorem bindings_below_bound_end :
    EndsAlways sampleService (boundTables (maxActiveEgoBrowserGeneration - 1)) 3600000000 := by
  apply (ends_always_iff (boundTables_sound (by decide) (by decide))).mpr
  intro b hb _
  simp only [boundTables, List.mem_cons, List.not_mem_nil, or_false] at hb
  rcases hb with rfl | rfl
  · change maxActiveEgoBrowserGeneration - 1 < maxActiveEgoBrowserGeneration
    decide
  · change 1 < maxActiveEgoBrowserGeneration
    decide

end AgentRemote
