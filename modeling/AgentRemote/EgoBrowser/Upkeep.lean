import AgentRemote.EgoBrowser.Agreement

/-!
# Operations that keep the agreement

The agreement survives every operation that writes both rows of a binding and its device. It is
lost when a connection reports versions that are not pinned, and when a registration changes a
device under a live binding.
-/

namespace AgentRemote
open Library EgoBrowserTables

variable {db db' : EgoBrowserTables} {b new : EgoBrowserBinding} {d d' : EgoBrowserDevice}
  {service : EgoBrowserService} {now : Instant}

/-! ### Steps that keep the agreement -/

/-- A live binding can take two more generations. -/
def RoomToResume (db : EgoBrowserTables) (id : Uuid) : Prop :=
  ∀ b, db.getBinding id = some b → b.status.live = true →
    b.generation + 1 < maxActiveEgoBrowserGeneration

/-- A registration brings a new key. -/
def BringsKey (d : EgoBrowserDevice) (payload : EgoBrowserDeviceRegisterRequest) : Prop :=
  d.publicKey ≠ payload.publicKey ∨
    payload.encryptionPublicKey ≠ none ∧ d.encryptionPublicKey ≠ payload.encryptionPublicKey

/-- A registration repeats the release identity and the policy of the device. -/
structure RepeatsProfile (d : EgoBrowserDevice) (payload : EgoBrowserDeviceRegisterRequest) :
    Prop where
  release : payload.releaseProfile = d.releaseProfile
  signer : payload.signerCertificateSha256 = d.signerCertificateSha256
  credential : payload.credentialProfile = d.credentialProfile
  protocol : payload.bridgeProtocolVersion = d.bridgeProtocolVersion
  runtime : payload.localEgoBrowserRuntimeVersion = d.localEgoBrowserRuntimeVersion
  egoLite : payload.egoLiteRuntimeVersion = d.egoLiteRuntimeVersion
  skill : payload.skillVersion = d.skillVersion
  revision : payload.allowlistRevision = d.allowlistRevision
  roots : payload.allowlistRootsDigest = d.allowlistRootsDigest
  learning : payload.learningBundleDigest = d.learningBundleDigest
  capabilities : canonicalCapabilities payload.capabilities = canonicalCapabilities d.capabilities

/-- A registration leaves no live binding of the device behind: it brings a new key, which
revokes them, it repeats the profile, or the binding still awaits its first connection and the
policy stays. -/
def RegistersKeeping (db : EgoBrowserTables) (payload : EgoBrowserDeviceRegisterRequest) : Prop :=
  ∀ d, db.getDevice payload.deviceId = some d → ∀ b ∈ db.listLiveForDevice d.id,
    BringsKey d payload ∨ RepeatsProfile d payload ∨
      b.status = .pendingDevice ∧
        policyChanged d payload (canonicalCapabilities payload.capabilities) = false

/-- What a step must meet for paused bindings to stay resumable. -/
def KeepsAgreement (service : EgoBrowserService) (db : EgoBrowserTables) :
    EgoBrowserAction → Prop
  | .connected _ _ payload _ => service.ReportsPinned payload
  | .pause _ bindingId _ _ => RoomToResume db bindingId
  | .pauseByUser _ bindingId _ => RoomToResume db bindingId
  | .confirmAllowlist _ bindingId _ _ => RoomToResume db bindingId
  | .reconcileCancelTask task _ _ => RoomToResume db task.bindingId
  | .registerDevice _ payload _ _ _ => RegistersKeeping db payload
  | _ => True

/-! ### Each operation -/

lemma ofExcept_agreed {α : Type} (hagreed : Agreed service db)
    {x : Except EgoBrowserFailure (EgoBrowserTables × List (Uuid × ℕ) × α)}
    (h : ∀ db' publish a, x = .ok (db', publish, a) → Agreed service db') :
    Agreed service (EgoBrowserResponse.ofExcept db x).db := by
  cases x with
  | error e => exact hagreed
  | ok r => exact h r.1 r.2.1 r.2.2 rfl

/-- A refused request changes nothing. -/
lemma db_of_error {α : Type} {e : EgoBrowserFailure}
    {x : Except EgoBrowserFailure (EgoBrowserTables × List (Uuid × ℕ) × α)}
    (h : (EgoBrowserResponse.ofExcept db x).result = .error e) :
    (EgoBrowserResponse.ofExcept db x).db = db := by
  cases x with
  | error e => rfl
  | ok r => cases h

/-- A binding changes its lease only. -/
lemma Agreed.touch (h : Agreed service db) (hb : b ∈ db.bindings) (hsame : SameClaim b new)
    (hstatus : new.status = b.status) (hgen : new.generation = b.generation) :
    Agreed service (db.setBinding new) := by
  have hbindings : (db.setBinding new).bindings =
      Library.replace EgoBrowserBinding.id db.bindings new := rfl
  apply h.replace hbindings rfl
  intro hchecked
  have hagrees := h.agrees b hb (hstatus ▸ hchecked)
  apply hagrees.sameClaim hsame
  intro hpaused
  obtain ⟨d, -, hd⟩ := hagrees
  rw [hgen]
  exact hd.resumable (hstatus ▸ hpaused)

section

variable {user : EgoBrowserUser} {id : Uuid} {deviceId : Option Uuid}

lemma owner_of_ownedBindingDevice {allowAdmin : Bool}
    (h : db.ownedBindingDevice user id deviceId allowAdmin = .ok (b, d)) :
    d.userId = b.userId := by
  unfold ownedBindingDevice at h
  cases hb : db.getBinding id with
  | none => simp [hb] at h
  | some c =>
    simp only [hb, reject_bind_eq_ok] at h
    obtain ⟨-, -, h⟩ := h
    cases hd : db.getDevice c.egoBrowserDeviceId with
    | none => simp [hd] at h
    | some e =>
      simp only [hd, reject_bind_eq_ok, not_not] at h
      obtain ⟨rfl, rfl⟩ := Prod.mk.inj (Except.ok.inj h.2)
      exact h.1

/-- No other live binding has the device of a live binding. -/
lemma Fenced.alone {events : List EgoBrowserEvent} (h : Fenced db events) (hb : b ∈ db.bindings)
    (hlive : b.status.live = true) : ∀ c ∈ db.bindings, c.status.live = true →
      c.egoBrowserDeviceId = b.egoBrowserDeviceId → c = b := by
  intro c hc hcl hdevice
  exact h.live c hc b hb hcl hlive (Or.inl hdevice)

lemma connected_agreed {events : List EgoBrowserEvent} (hagreed : Agreed service db)
    (hfenced : Fenced db events) {payload : EgoBrowserConnectedRequest}
    (hreports : service.ReportsPinned payload) :
    Agreed service (service.connected db now user id payload deviceId).db := by
  cases hresult : (service.connected db now user id payload deviceId).result with
  | error e =>
    have hdb : (service.connected db now user id payload deviceId).db = db := db_of_error hresult
    rw [hdb]
    exact hagreed
  | ok active =>
    obtain ⟨b, d, hown, hconnects, rfl, hdb⟩ := connected_eq_ok hresult
    have hb := mem_of_ownedBindingDevice hown
    have hlive := EgoBrowserBindingStatus.live_of_awaitsBridge hconnects.awaits
    have hcurrent : service.bindingProfileIsCurrent (service.activated b payload now)
        (service.reported d payload now) = true := hconnects.current_iff.mpr hreports
    obtain ⟨-, hmirrors, hreleased, -, hpinned⟩ := bindingProfileIsCurrent_iff.mp hcurrent
    have hbound : SameDevice service
        (EgoBrowserService.updateDeviceFromConnected { d with lastSeenAt := some now } payload)
        (service.reported d payload now) := SameDevice.bindOrigin _
    have howner : d.userId = b.userId := owner_of_ownedBindingDevice hown
    have hagrees : ClaimAgrees service (service.activated b payload now)
        (service.reported d payload now) :=
      ⟨hmirrors, hreleased, hpinned, hbound.user.trans howner, fun h => by cases h⟩
    rw [hdb]
    exact hagreed.both hagrees hb (hfenced.alone hb hlive) rfl rfl
      (getDevice_of_ownedBindingDevice hown) hbound.id rfl rfl

/-- The end of a renewal. -/
lemma finishRenewal_agreed (hagreed : Agreed service db) (hb : b ∈ db.bindings)
    (hd : db.getDevice b.egoBrowserDeviceId = some d) :
    Agreed service (service.finishRenewal db now b d).db := by
  unfold EgoBrowserService.finishRenewal
  cases service.rejectExpiredRenewal b now with
  | proceed =>
    have hrenewed : Agreed service (db.setBinding (service.renewedBinding b now)) := by
      refine hagreed.touch hb ?_ rfl rfl
      exact ⟨rfl, rfl, rfl, rfl, rfl, rfl, rfl, rfl, rfl, rfl, rfl, rfl, rfl⟩
    have hseen : SameDevice service d { d with lastSeenAt := some now } := SameDevice.restate d
    exact hrenewed.sameDevice hd (hseen.trans (SameDevice.bindOrigin _))
  | expire reason =>
    dsimp only
    cases h : db.invalidateBinding b .expired reason now with
    | error e => exact hagreed
    | ok r => exact hagreed.invalidateBinding h

lemma renew_agreed (hagreed : Agreed service db) {payload : EgoBrowserRenewRequest} :
    Agreed service (service.renew db now user id payload deviceId).db := by
  unfold EgoBrowserService.renew
  cases h : service.checkRenewal db user id payload deviceId with
  | error e => exact hagreed
  | ok r =>
    obtain ⟨b, d⟩ := r
    simp only [EgoBrowserService.checkRenewal, bind_eq_ok, Prod.exists] at h
    obtain ⟨_, -, b₁, d₁, hown, _, -, _, -, _, -, h⟩ := h
    obtain ⟨rfl, rfl⟩ := Prod.mk.inj (Except.ok.inj h)
    exact finishRenewal_agreed hagreed (mem_of_ownedBindingDevice hown)
      (getDevice_of_ownedBindingDevice hown)

lemma renewForNode_agreed (hagreed : Agreed service db) {node : EgoBrowserNode}
    {payload : EgoBrowserRenewRequest} :
    Agreed service (service.renewForNode db now node id payload).db := by
  unfold EgoBrowserService.renewForNode
  cases h : service.checkNodeRenewal db node id payload with
  | error e => exact hagreed
  | ok r =>
    obtain ⟨b, d⟩ := r
    unfold EgoBrowserService.checkNodeRenewal at h
    rw [bind_eq_ok] at h
    obtain ⟨_, -, h⟩ := h
    cases hb : db.getBinding id with
    | none => simp [hb] at h
    | some b₁ =>
      simp only [hb, bind_eq_ok, reject_eq_ok, exists_const] at h
      obtain ⟨-, _, -, h⟩ := h
      cases hd : db.getDevice b₁.egoBrowserDeviceId with
      | none => simp [hd] at h
      | some d₁ =>
        simp only [hd, bind_eq_ok, reject_eq_ok, exists_const] at h
        obtain ⟨-, _, -, _, -, h⟩ := h
        obtain ⟨rfl, rfl⟩ := Prod.mk.inj (Except.ok.inj h)
        exact finishRenewal_agreed hagreed (mem_of_lookup hb) hd

lemma markRenewalFailed_agreed (hagreed : Agreed service db) {generation : ℕ} :
    Agreed service (service.markRenewalFailed db now id generation).db := by
  unfold EgoBrowserService.markRenewalFailed
  cases hb : db.getBinding id with
  | none => exact hagreed
  | some b =>
    by_cases hother : b.generation ≠ generation ∨ b.status ≠ .active
    · simp only [if_pos hother]
      exact hagreed
    · simp only [if_neg hother]
      apply ofExcept_agreed hagreed
      intro db' publish a h
      by_cases hended : b.absoluteTtlUntil ≤ now ∨ service.failureGrace b now ≤ now
      · simp only [if_pos hended, bind_eq_ok, Prod.exists] at h
        obtain ⟨db₁, left, hinvalid, h⟩ := h
        obtain ⟨rfl, -⟩ := Prod.mk.inj (Except.ok.inj h)
        exact hagreed.invalidateBinding hinvalid
      · rw [if_neg hended] at h
        by_cases hmark : b.leaseHealth ≠ .renewalGrace
        · rw [if_pos hmark] at h
          obtain ⟨rfl, -⟩ := Prod.mk.inj (Except.ok.inj h)
          refine hagreed.touch (mem_of_lookup hb) ?_ rfl rfl
          exact ⟨rfl, rfl, rfl, rfl, rfl, rfl, rfl, rfl, rfl, rfl, rfl, rfl, rfl⟩
        · rw [if_neg hmark] at h
          obtain ⟨rfl, -⟩ := Prod.mk.inj (Except.ok.inj h)
          exact hagreed

/-- A pausable binding was checked. -/
lemma checked_of_pausable {s : EgoBrowserBindingStatus}
    (h : EgoBrowserService.pausable s = true) : s.checked = true := by
  cases s <;> first | rfl | cases h

lemma pause_agreed (hagreed : Agreed service db) (hroom : RoomToResume db id)
    {payload : EgoBrowserLifecycleRequest} :
    Agreed service (service.pause db user id payload deviceId).db := by
  apply ofExcept_agreed hagreed
  intro db' publish a h
  simp only [bind_eq_ok, reject_eq_ok, exists_const, Prod.exists] at h
  obtain ⟨b, d, hown, -, hstatus, _, -, _, -, db₁, hpause, h⟩ := h
  obtain ⟨rfl, -⟩ := Prod.mk.inj (Except.ok.inj h)
  have hchecked := checked_of_pausable (by simpa using hstatus)
  obtain ⟨hpaused, hdevices⟩ := hagreed.pauseGeneration
    (hagreed.agrees b (mem_of_ownedBindingDevice hown) hchecked)
    (hroom b (getBinding_of_ownedBindingDevice hown)
      (EgoBrowserBindingStatus.live_of_checked hchecked)) hpause
  have hd : db₁.getDevice b.egoBrowserDeviceId = some d := by
    unfold getDevice
    rw [hdevices]
    exact getDevice_of_ownedBindingDevice hown
  exact hpaused.sameDevice hd (SameDevice.bindOrigin d)

lemma pauseByUser_agreed (hagreed : Agreed service db) (hroom : RoomToResume db id)
    {generation : ℕ} :
    Agreed service (EgoBrowserService.pauseByUser db user id generation).db := by
  apply ofExcept_agreed hagreed
  intro db' publish a h
  simp only [bind_eq_ok, reject_eq_ok, exists_const, Prod.exists] at h
  obtain ⟨b, d, hown, -, hstatus, db₁, hpause, h⟩ := h
  obtain ⟨rfl, -⟩ := Prod.mk.inj (Except.ok.inj h)
  have hchecked := checked_of_pausable (by simpa using hstatus)
  exact (hagreed.pauseGeneration (hagreed.agrees b (mem_of_ownedBindingDevice hown) hchecked)
    (hroom b (getBinding_of_ownedBindingDevice hown)
      (EgoBrowserBindingStatus.live_of_checked hchecked)) hpause).1

/-- The binding that an accepted resumption leaves. -/
def EgoBrowserService.resumed (service : EgoBrowserService) (b : EgoBrowserBinding)
    (d : EgoBrowserDevice) (now : Instant) : EgoBrowserBinding :=
  { b with
    generation := b.generation + 1
    status := .connecting
    leaseHealth := .healthy
    leaseUntil := some (service.grantedLease b now)
    leaseGraceUntil := none
    stopReason := none
    allowlistRevision := d.allowlistRevision
    allowlistRootsDigest := d.allowlistRootsDigest
    learningBundleDigest := d.learningBundleDigest
    capabilities := canonicalCapabilities d.capabilities }

lemma Mirrors.resumed (h : Mirrors b d) : Mirrors (service.resumed b d now) d where
  release := h.release
  signer := h.signer
  credential := h.credential
  protocol := h.protocol
  runtime := h.runtime
  egoLite := h.egoLite
  skill := h.skill
  revision := rfl
  roots := rfl
  learning := rfl
  listed := congrArg List.length (canonicalCapabilities_canonical d.capabilities).symm
  capabilities := canonicalCapabilities_canonical d.capabilities

lemma resume_agreed (hagreed : Agreed service db) {payload : EgoBrowserResumeRequest} :
    Agreed service (service.resume db now user id payload deviceId).db := by
  apply ofExcept_agreed hagreed
  intro db' publish a h
  simp only [bind_eq_ok, reject_eq_ok, exists_const, Prod.exists] at h
  obtain ⟨_, -, b, d, hown, _, hcurrent, -, -, capabilities, hpolicy, _, -, advanced,
    hadvanced, h⟩ := h
  obtain ⟨rfl, -⟩ := Prod.mk.inj (Except.ok.inj h)
  obtain ⟨-, rfl⟩ := advanceGeneration_eq_ok hadvanced
  obtain ⟨-, hmirrors, hreleased, -, hpinned⟩ :=
    bindingProfileIsCurrent_iff.mp (validateBindingProfile_eq_ok hcurrent)
  obtain ⟨rfl, -⟩ := validatePolicyCapabilities_eq_ok hpolicy
  have hd := getDevice_of_ownedBindingDevice hown
  have howner : d.userId = b.userId := owner_of_ownedBindingDevice hown
  have hagrees : ClaimAgrees service (service.resumed b d now) d :=
    ⟨hmirrors.resumed, hreleased, hpinned, howner, fun h => by cases h⟩
  have hresumed : Agreed service
      (db.supersede b (service.resumed b d now) "resume_generation_change") :=
    hagreed.replace (bindings_supersede ..) (devices_supersede ..) fun _ => ⟨d, hd, hagrees⟩
  have hd' : (db.supersede b (service.resumed b d now) "resume_generation_change").getDevice
      b.egoBrowserDeviceId = some d := by
    unfold getDevice
    rw [devices_supersede]
    exact hd
  exact hresumed.sameDevice hd' (SameDevice.bindOrigin d)

lemma stop_agreed (hagreed : Agreed service db) {payload : EgoBrowserLifecycleRequest}
    {revoke : Bool} : Agreed service (service.stop db now user id payload revoke deviceId).db := by
  apply ofExcept_agreed hagreed
  intro db' publish a h
  simp only [bind_eq_ok, Prod.exists] at h
  obtain ⟨b, d, hown, h⟩ := h
  by_cases hended : EgoBrowserService.alreadyEnded b revoke = true
  · rw [if_pos hended] at h
    obtain ⟨rfl, -⟩ := Prod.mk.inj (Except.ok.inj h)
    exact hagreed
  · rw [if_neg hended] at h
    simp only [bind_eq_ok, Prod.exists] at h
    obtain ⟨_, -, _, -, _, -, db₁, left, hinvalid, h⟩ := h
    obtain ⟨rfl, -⟩ := Prod.mk.inj (Except.ok.inj h)
    have hd : db₁.getDevice b.egoBrowserDeviceId = some d := by
      unfold getDevice
      rw [devices_invalidateBinding hinvalid]
      exact getDevice_of_ownedBindingDevice hown
    exact (hagreed.invalidateBinding hinvalid).sameDevice hd (SameDevice.bindOrigin d)

lemma stopByUser_agreed (hagreed : Agreed service db) {generation : ℕ} {reason : String}
    {revoke : Bool} :
    Agreed service (EgoBrowserService.stopByUser db now user id generation reason revoke).db := by
  apply ofExcept_agreed hagreed
  intro db' publish a h
  simp only [bind_eq_ok, Prod.exists] at h
  obtain ⟨b, d, hown, h⟩ := h
  by_cases hended : EgoBrowserService.alreadyEnded b revoke = true
  · rw [if_pos hended] at h
    obtain ⟨rfl, -⟩ := Prod.mk.inj (Except.ok.inj h)
    exact hagreed
  · rw [if_neg hended] at h
    simp only [bind_eq_ok, Prod.exists] at h
    obtain ⟨_, -, db₁, left, hinvalid, h⟩ := h
    obtain ⟨rfl, -⟩ := Prod.mk.inj (Except.ok.inj h)
    exact hagreed.invalidateBinding hinvalid

lemma revokeListed_agreed (hagreed : Agreed service db) {bs : List EgoBrowserBinding}
    {reason : String} : Agreed service (EgoBrowserService.revokeListed db now bs reason).db := by
  apply ofExcept_agreed hagreed
  intro db' publish a h
  rw [bind_eq_ok] at h
  obtain ⟨⟨db₁, left⟩, hinvalid, h⟩ := h
  obtain ⟨rfl, -⟩ := Prod.mk.inj (Except.ok.inj h)
  exact (hagreed.invalidateBindings hinvalid).1

lemma expireDueBinding_agreed {db₁ db₂ : EgoBrowserTables} {left : List (Uuid × ℕ)}
    (hagreed : Agreed service db) (hb : b ∈ db.bindings) (hagreed₁ : Agreed service db₁)
    (hdevices : db₁.devices = db.devices)
    (h : service.expireDueBinding db₁ b now = .ok (db₂, left)) :
    Agreed service db₂ ∧ db₂.devices = db₁.devices := by
  obtain ⟨-, graceUntil, heq⟩ | ⟨-, reason, heq⟩ := expireDueBinding_eq service db₁ b now
  · obtain ⟨rfl, -⟩ := Prod.mk.inj (Except.ok.inj (heq.symm.trans h))
    refine ⟨?_, rfl⟩
    let new := { b with leaseHealth := .renewalGrace, leaseGraceUntil := some graceUntil }
    have hbindings : (db₁.setBinding new).bindings =
        Library.replace EgoBrowserBinding.id db₁.bindings new := rfl
    apply hagreed₁.replace hbindings rfl
    intro hchecked
    obtain ⟨d, hd, hagrees⟩ := hagreed.agrees b hb hchecked
    have hsame : SameClaim b new :=
      ⟨rfl, rfl, rfl, rfl, rfl, rfl, rfl, rfl, rfl, rfl, rfl, rfl, rfl⟩
    have hin : AgreesIn service db₁ b := by
      refine ⟨d, ?_, hagrees⟩
      unfold getDevice
      rw [hdevices]
      exact hd
    exact hin.sameClaim hsame hagrees.resumable
  · rw [heq] at h
    exact ⟨hagreed₁.invalidateBinding h, devices_invalidateBinding h⟩

lemma expireDue_agreed (hagreed : Agreed service db) :
    Agreed service (service.expireDue db now).db := by
  apply ofExcept_agreed hagreed
  intro db' publish a h
  simp only [bind_eq_ok, Prod.exists] at h
  obtain ⟨db₁, left, hfold, h⟩ := h
  obtain ⟨rfl, -⟩ := Prod.mk.inj (Except.ok.inj h)
  have hfold' := hagreed.foldlM (f := fun db b => service.expireDueBinding db b now)
    (fun _ _ _ _ hb hs hdevices hstep =>
      expireDueBinding_agreed hagreed (List.mem_of_mem_filter hb) hs hdevices hstep) hfold
  exact hfold'.1

/-- A new binding that still awaits its device. -/
lemma Agreed.addBinding (h : Agreed service db)
    (henabled : service.settings.bridgeEnabled = true) (hpending : b.status = .pendingDevice)
    (hadd : db.addBinding b = .ok db') : Agreed service db' := by
  obtain ⟨-, rfl⟩ := addBinding_eq_ok hadd
  constructor
  · exact fun c _ => henabled
  · intro c hc hchecked
    rcases List.mem_append.mp hc with hc | hc
    · exact h.agrees c hc hchecked
    · rw [List.mem_singleton.mp hc, hpending] at hchecked
      cases hchecked

lemma claim_agreed (hagreed : Agreed service db) {newId : Uuid}
    {payload : EgoBrowserBindingClaimRequest} {toolSession : Option EgoBrowserToolSession}
    {node : Option EgoBrowserNode} :
    Agreed service (service.claim db now newId user payload deviceId toolSession node).db := by
  apply ofExcept_agreed hagreed
  intro db' publish a h
  simp only [bind_eq_ok, reject_eq_ok, exists_const] at h
  obtain ⟨_, henabled, _, -, -, h⟩ := h
  have henabled : service.settings.bridgeEnabled = true := by
    simpa [EgoBrowserService.requireExecution] using henabled
  cases hd : db.getDevice payload.egoBrowserDeviceId with
  | none => simp [hd] at h
  | some device =>
    simp only [hd, bind_eq_ok, reject_eq_ok, exists_const] at h
    obtain ⟨-, _, -, _, -, -, -, -, _, -, _, -, -, -, -, capabilities, -, -, _, -, -, h⟩ := h
    cases toolSession with
    | none => simp at h
    | some toolSession =>
      simp only [bind_eq_ok, reject_eq_ok, exists_const] at h
      obtain ⟨-, -, -, h⟩ := h
      cases node with
      | none => simp at h
      | some node =>
        simp only [bind_eq_ok, reject_eq_ok, exists_const] at h
        obtain ⟨-, _, -, -, h⟩ := h
        cases hadd : (db.setDevice (service.bindLegacyDeviceOrigin device)).addBinding
            (service.claimedBinding newId now user payload device toolSession node
              capabilities) with
        | error e => simp [hadd] at h
        | ok db₁ =>
          simp only [hadd] at h
          obtain ⟨rfl, -⟩ := Prod.mk.inj (Except.ok.inj h)
          exact (hagreed.sameDevice hd (SameDevice.bindOrigin device)).addBinding henabled rfl hadd

/-! ### Both rows change -/

lemma confirmAllowlist_agreed {events : List EgoBrowserEvent} (hagreed : Agreed service db)
    (hfenced : Fenced db events) (hroom : RoomToResume db id)
    {payload : EgoBrowserAllowlistConfirmRequest} :
    Agreed service (service.confirmAllowlist db user id payload deviceId).db := by
  apply ofExcept_agreed hagreed
  intro db' publish a h
  simp only [bind_eq_ok, reject_eq_ok, exists_const, Prod.exists] at h
  obtain ⟨_, -, b, d, hown, _, hcurrent, -, hstatus, -, _, -, capabilities, hpolicy, db₁, hpause,
    h⟩ := h
  obtain ⟨rfl, -⟩ := Prod.mk.inj (Except.ok.inj h)
  obtain ⟨-, hmirrors, hreleased, -, hpinned⟩ :=
    bindingProfileIsCurrent_iff.mp (validateBindingProfile_eq_ok hcurrent)
  obtain ⟨rfl, hagain⟩ := validatePolicyCapabilities_eq_ok hpolicy
  obtain ⟨new, hid, hsame, hpaused, hgen, hbindings, hdevices⟩ := pauseGeneration_eq_ok hpause
  let confirmed := { d with
    allowlistRevision := d.allowlistRevision + 1
    allowlistRootsDigest := some payload.rootsDigest
    capabilities := canonicalCapabilities (allowlistCapabilities d) }
  have hcanonical : canonicalCapabilities (canonicalCapabilities (allowlistCapabilities d)) =
      canonicalCapabilities (allowlistCapabilities d) := canonicalCapabilities_canonical _
  have hconfirmed : Released service confirmed :=
    { hreleased with
      revision := by
        have hrevision := hreleased.revision
        change (1 : ℤ) ≤ d.allowlistRevision + 1
        omega
      listed := congrArg List.length hcanonical.symm
      policy := by
        change (service.validatePolicyCapabilities (canonicalCapabilities (canonicalCapabilities
          (allowlistCapabilities d))) (some payload.rootsDigest) d.learningBundleDigest).isOk = true
        rw [hcanonical, hagain]
        rfl }
  have hmirror : Mirrors new confirmed :=
    { release := hsame.release.trans hmirrors.release
      signer := hsame.signer.trans hmirrors.signer
      credential := hsame.credential.trans hmirrors.credential
      protocol := hsame.protocol.trans hmirrors.protocol
      runtime := hsame.runtime.trans hmirrors.runtime
      egoLite := hsame.egoLite.trans hmirrors.egoLite
      skill := hsame.skill.trans hmirrors.skill
      revision := hsame.revision
      roots := hsame.roots
      learning := hsame.learning.trans hmirrors.learning
      listed := hsame.capabilities ▸ congrArg List.length hcanonical.symm
      capabilities := hsame.capabilities ▸ rfl }
  have hb := mem_of_ownedBindingDevice hown
  have hlive : b.status.live = true := by simpa using hstatus
  have howner : d.userId = b.userId := owner_of_ownedBindingDevice hown
  have hbound : SameDevice service confirmed (service.bindLegacyDeviceOrigin confirmed) :=
    SameDevice.bindOrigin _
  have hagrees : ClaimAgrees service new (service.bindLegacyDeviceOrigin confirmed) :=
    ClaimAgrees.sameDevice ⟨hmirror, hconfirmed, hpinned, howner.trans hsame.user.symm,
      fun _ => hgen ▸ hroom b (getBinding_of_ownedBindingDevice hown) hlive⟩ hbound
  have hbindings' : (db₁.setDevice (service.bindLegacyDeviceOrigin confirmed)).bindings =
      Library.replace EgoBrowserBinding.id db.bindings new := hbindings
  have hdevices' : (db₁.setDevice (service.bindLegacyDeviceOrigin confirmed)).devices =
      Library.replace EgoBrowserDevice.id db.devices
        (service.bindLegacyDeviceOrigin confirmed) := by
    rw [← hdevices]
    rfl
  exact hagreed.both hagrees hb (hfenced.alone hb hlive) hid hsame.device
    (getDevice_of_ownedBindingDevice hown) hbound.id hbindings' hdevices'

/-! ### Frames and cancellations -/

lemma devices_addLedger {row : EgoBrowserRequestLedger} (h : db.recordFrame row = .ok db') :
    db'.bindings = db.bindings ∧ db'.devices = db.devices := by
  have hadd := recordFrame_eq_ok h
  unfold addLedger at hadd
  simp only [reject_bind_eq_ok] at hadd
  obtain ⟨-, -, hadd⟩ := hadd
  obtain rfl := Except.ok.inj hadd
  exact ⟨rfl, rfl⟩

/-- The ledger part of an admission leaves bindings and devices alone. -/
lemma devices_admitLedger {envelope : OuterEnvelope} {rowId : Uuid}
    (h : db.admitLedger rowId b envelope = .ok db') :
    db'.bindings = db.bindings ∧ db'.devices = db.devices := by
  unfold admitLedger at h
  cases htype : envelope.messageType with
  | execute =>
    rw [htype] at h
    unfold admitExecute at h
    rw [reject_bind_eq_ok] at h
    exact devices_addLedger h.2
  | executeResult =>
    rw [htype] at h
    unfold admitResponse at h
    cases hr : db.getLedger b.id b.generation .request envelope.requestId envelope.sequence with
    | none => simp [hr] at h
    | some request =>
      simp only [hr, bind_eq_ok, reject_eq_ok, exists_const] at h
      obtain ⟨-, db₁, hrecord, h⟩ := h
      obtain rfl := Except.ok.inj h
      have hframe := devices_addLedger hrecord
      split_ifs
      · exact hframe
      · exact hframe
  | cancel =>
    rw [htype] at h
    unfold admitCancel at h
    cases hr : db.getLedger b.id b.generation .request envelope.requestId envelope.sequence with
    | none => simp [hr] at h
    | some request =>
      simp only [hr, reject_bind_eq_ok] at h
      obtain ⟨-, h⟩ := h
      split_ifs at h with hcompleted
      · obtain rfl := Except.ok.inj h
        exact ⟨rfl, rfl⟩
      · simp only [reject_bind_eq_ok] at h
        obtain ⟨-, -, h⟩ := h
        obtain rfl := Except.ok.inj h
        exact ⟨rfl, rfl⟩

lemma admitOuterEnvelope_agreed (hagreed : Agreed service db)
    {claims : EgoBrowserRelayTicketClaims} {envelope : OuterEnvelope} :
    Agreed service (service.admitOuterEnvelope db now id claims envelope).db := by
  apply ofExcept_agreed hagreed
  intro db' publish a h
  obtain ⟨b, d, db₁, hb, hd, -, -, -, hledger, hr⟩ := EgoBrowserService.admission_eq_ok h
  obtain ⟨rfl, -⟩ := Prod.mk.inj hr
  obtain ⟨hbindings, hdevices⟩ := devices_admitLedger hledger
  have hd' : db₁.getDevice b.egoBrowserDeviceId = some d := by
    unfold getDevice
    rw [hdevices]
    exact hd
  exact (hagreed.congr hbindings hdevices).sameDevice hd' (SameDevice.bindOrigin d)

lemma cancelRequest_agreed (hagreed : Agreed service db) {requestId : Text}
    {payload : EgoBrowserCancelRequest} :
    Agreed service (service.cancelRequest db user id requestId payload).db := by
  apply ofExcept_agreed hagreed
  intro db' publish a h
  rw [bind_eq_ok] at h
  obtain ⟨_, -, h⟩ := h
  cases hb : db.getBinding id with
  | none => simp [hb] at h
  | some b =>
    simp only [hb, reject_bind_eq_ok] at h
    obtain ⟨-, h⟩ := h
    cases hr : db.getLedger b.id payload.generation .request requestId payload.sequence with
    | none => simp [hr] at h
    | some request =>
      simp only [hr, reject_bind_eq_ok] at h
      obtain ⟨-, h⟩ := h
      by_cases hfinished : request.status.unfinished = false
      · rw [if_pos hfinished] at h
        obtain ⟨rfl, -⟩ := Prod.mk.inj (Except.ok.inj h)
        exact hagreed
      · rw [if_neg hfinished, reject_bind_eq_ok] at h
        obtain ⟨-, h⟩ := h
        by_cases haccepted : request.status = .accepted
        · rw [if_pos haccepted, bind_eq_ok] at h
          obtain ⟨db₁, hadd, h⟩ := h
          obtain ⟨rfl, -⟩ := Prod.mk.inj (Except.ok.inj h)
          unfold addTask at hadd
          rw [reject_bind_eq_ok] at hadd
          obtain rfl := Except.ok.inj hadd.2
          exact hagreed.congr rfl rfl
        · rw [if_neg haccepted] at h
          obtain ⟨rfl, -⟩ := Prod.mk.inj (Except.ok.inj h)
          exact hagreed

lemma reconcileCancelTask_agreed (hagreed : Agreed service db) {task : CancelTaskIdentity}
    (hroom : RoomToResume db task.bindingId) {result : JsonObject} {succeeded : Bool} :
    Agreed service (reconcileCancelTask db task result succeeded).db := by
  apply ofExcept_agreed hagreed
  intro db' publish a h
  cases hb : db.getBinding task.bindingId with
  | none =>
    simp only [hb] at h
    obtain ⟨rfl, -⟩ := Prod.mk.inj (Except.ok.inj h)
    exact hagreed
  | some b =>
    cases hr : db.getLedger task.bindingId task.generation .request task.requestId
        task.sequence with
    | none =>
      simp only [hb, hr] at h
      obtain ⟨rfl, -⟩ := Prod.mk.inj (Except.ok.inj h)
      exact hagreed
    | some request =>
      simp only [hb, hr] at h
      by_cases hfinished : request.messageType ≠ .execute ∨ request.status.unfinished = false
      · rw [if_pos hfinished] at h
        obtain ⟨rfl, -⟩ := Prod.mk.inj (Except.ok.inj h)
        exact hagreed
      rw [if_neg hfinished] at h
      by_cases hconfirmed : cancellationConfirmed result succeeded = true
      · rw [if_pos hconfirmed] at h
        obtain ⟨rfl, -⟩ := Prod.mk.inj (Except.ok.inj h)
        exact hagreed.congr rfl rfl
      rw [if_neg hconfirmed] at h
      by_cases hstale : b.generation ≠ task.generation ∨ b.status ≠ .active
      · rw [if_pos hstale] at h
        obtain ⟨rfl, -⟩ := Prod.mk.inj (Except.ok.inj h)
        exact hagreed.congr rfl rfl
      · rw [if_neg hstale, bind_eq_ok] at h
        obtain ⟨db₁, hpause, h⟩ := h
        obtain ⟨rfl, -⟩ := Prod.mk.inj (Except.ok.inj h)
        rw [not_or, not_not, not_not] at hstale
        have hchecked : b.status.checked = true := by
          rw [hstale.2]
          rfl
        exact (hagreed.pauseGeneration (hagreed.agrees b (mem_of_lookup hb) hchecked)
          (hroom b hb (EgoBrowserBindingStatus.live_of_checked hchecked)) hpause).1

end

/-! ### Devices -/

lemma revokeDevice_agreed (hagreed : Agreed service db) {user : EgoBrowserUser} {id : Uuid}
    {deviceId : Option Uuid} {payload : EgoBrowserDeviceRevokeRequest} :
    Agreed service (service.revokeDevice db now user id payload deviceId).db := by
  apply ofExcept_agreed hagreed
  intro db' publish a h
  cases hd : db.getDevice id with
  | none => simp [hd] at h
  | some d =>
    simp only [hd, reject_bind_eq_ok] at h
    obtain ⟨-, h⟩ := h
    by_cases hrevoked : d.status = .revoked
    · rw [if_pos hrevoked] at h
      obtain ⟨rfl, -⟩ := Prod.mk.inj (Except.ok.inj h)
      exact hagreed
    · rw [if_neg hrevoked] at h
      simp only [bind_eq_ok, Prod.exists] at h
      obtain ⟨_, -, db₁, left, hinvalid, h⟩ := h
      obtain ⟨rfl, -⟩ := Prod.mk.inj (Except.ok.inj h)
      obtain ⟨hended, hdevices⟩ := hagreed.invalidateBindings hinvalid
      have hd₁ : db₁.getDevice id = some d := by
        unfold getDevice
        rw [hdevices]
        exact hd
      have hrevoked : ∀ e, SameDevice service d e → SameDevice service d
          { e with status := .revoked, revokedAt := some now } :=
        fun e he => he.trans (SameDevice.restate e)
      have hbound : SameDevice service d
          (if deviceId.isSome = true then service.bindLegacyDeviceOrigin d else d) := by
        split_ifs
        · exact SameDevice.bindOrigin d
        · exact SameDevice.refl d
      refine @Agreed.sameDevice _ _ _ _ ?_ id ?_ (hrevoked _ hbound)
      · exact hended.congr rfl rfl
      · exact hd₁

section

variable {user : EgoBrowserUser} {payload : EgoBrowserDeviceRegisterRequest}
  {encryptionPublicKey : Option Text}

lemma bringsKey_iff : BringsKey d payload ↔ d.publicKey ≠ payload.publicKey ∨
    d.encryptionPublicKey ≠
      (payload.encryptionPublicKey.orElse fun _ => d.encryptionPublicKey) := by
  unfold BringsKey
  cases payload.encryptionPublicKey with
  | none => simp
  | some key => simp

/-- The row of a known device that registers again. -/
def EgoBrowserService.registeredAgain (service : EgoBrowserService) (d : EgoBrowserDevice)
    (payload : EgoBrowserDeviceRegisterRequest) (key : Option Text) (now : Instant) :
    EgoBrowserDevice :=
  EgoBrowserService.reactivated (updateDeviceMetadata (service.bindLegacyDeviceOrigin d) payload key)
    now

lemma RepeatsProfile.sameDevice (h : RepeatsProfile d payload) (key : Option Text) :
    SameDevice service d (service.registeredAgain d payload key now) where
  profile :=
    { release := h.release
      signer := h.signer
      credential := h.credential
      protocol := h.protocol
      runtime := h.runtime
      egoLite := h.egoLite
      skill := h.skill
      revision := h.revision
      roots := h.roots
      learning := h.learning
      capabilities := by
        change canonicalCapabilities (canonicalCapabilities payload.capabilities) = _
        rw [canonicalCapabilities_canonical, h.capabilities] }
  id := by
    have hbound : SameDevice service d (service.bindLegacyDeviceOrigin d) := SameDevice.bindOrigin d
    exact hbound.id
  user := by
    have hbound : SameDevice service d (service.bindLegacyDeviceOrigin d) := SameDevice.bindOrigin d
    exact hbound.user
  platform := by
    have hbound : SameDevice service d (service.bindLegacyDeviceOrigin d) := SameDevice.bindOrigin d
    exact hbound.platform
  origin := by
    have hbound : SameDevice service d (service.bindLegacyDeviceOrigin d) := SameDevice.bindOrigin d
    exact hbound.origin
  listed _ := congrArg List.length (canonicalCapabilities_canonical payload.capabilities).symm

lemma RepeatsProfile.policy_kept (h : RepeatsProfile d payload) :
    policyChanged d payload (canonicalCapabilities payload.capabilities) = false := by
  simp [policyChanged, h.revision, h.roots, h.learning, h.capabilities]

/-- A device without checked bindings is written. -/
lemma Agreed.unused (h : Agreed service db)
    (hnone : ∀ b ∈ db.bindings, b.status.live = true → b.egoBrowserDeviceId ≠ d'.id) :
    Agreed service (db.setDevice d') := by
  apply h.setDevice
  intro b hb hchecked hid
  exact absurd hid (hnone b hb (EgoBrowserBindingStatus.live_of_checked hchecked))

lemma updateRegistered_agreed (hagreed : Agreed service db) {existing device : EgoBrowserDevice}
    (hd : db.getDevice payload.deviceId = some existing) (hkeeps : RegistersKeeping db payload)
    {requireRotation strictIdentity : Bool} {left : List (Uuid × ℕ)}
    (h : service.updateRegistered db now user payload requireRotation strictIdentity
      (canonicalCapabilities payload.capabilities) payload.publicKey payload.encryptionPublicKey
      existing = .ok (db', left, device)) : Agreed service db' := by
  unfold EgoBrowserService.updateRegistered at h
  simp only [bind_eq_ok, reject_eq_ok, exists_const] at h
  obtain ⟨-, _, -, -, -, -, -, _, -, -, -, -, h⟩ := h
  have hdid : existing.id = payload.deviceId := key_of_lookup hd
  have hbound : SameDevice service existing (service.bindLegacyDeviceOrigin existing) :=
    SameDevice.bindOrigin existing
  -- a live binding of the device is listed
  have hlisted : ∀ b ∈ db.bindings, b.status.live = true → b.egoBrowserDeviceId = existing.id →
      b ∈ db.listLiveForDevice existing.id := by
    intro b hb hlive hdevice
    exact List.mem_filter.mpr ⟨hb, decide_eq_true ⟨hdevice, hlive⟩⟩
  by_cases hunchanged : strictIdentity = true ∧ metadataMatches existing payload
      (canonicalCapabilities payload.capabilities) = true
  · rw [if_pos hunchanged] at h
    obtain ⟨rfl, -⟩ := Prod.mk.inj (Except.ok.inj h)
    exact hagreed.sameDevice hd (hbound.trans (SameDevice.restate _))
  rw [if_neg hunchanged] at h
  simp only [bind_eq_ok, reject_eq_ok, exists_const] at h
  obtain ⟨-, h⟩ := h
  by_cases hkey : existing.publicKey ≠ payload.publicKey ∨ existing.encryptionPublicKey ≠
      payload.encryptionPublicKey.orElse fun _ => existing.encryptionPublicKey
  · rw [if_pos (by simpa using hkey)] at h
    simp only [bind_eq_ok, reject_eq_ok, exists_const, Prod.exists] at h
    obtain ⟨-, db₁, left₁, hinvalid, h⟩ := h
    obtain ⟨rfl, -⟩ := Prod.mk.inj (Except.ok.inj h)
    have hlive : ∀ b ∈ db.listLiveForDevice existing.id, b.status.live = true := by
      intro b hb
      have hb := (List.mem_filter.mp hb).2
      simp only [decide_eq_true_eq] at hb
      exact hb.2
    apply (hagreed.invalidateBindings hinvalid).1.unused
    intro b hb hblive hdevice
    obtain ⟨hold, hother⟩ := live_of_invalidateBindings hlive hinvalid hb hblive
    have hid : b.egoBrowserDeviceId = existing.id := hdevice.trans bindLegacyDeviceOrigin_id
    exact hother b (hlisted b hold hblive hid) rfl
  rw [if_neg (by simpa using hkey)] at h
  have hnokey : ¬BringsKey existing payload := fun hbrings => hkey (bringsKey_iff.mp hbrings)
  by_cases hpolicy : policyChanged existing payload
      (canonicalCapabilities payload.capabilities) = true
  · rw [if_pos hpolicy] at h
    -- a policy change is only allowed when there is nothing to pause
    have hnone : db.listLiveForDevice existing.id = [] := by
      apply List.eq_nil_iff_forall_not_mem.mpr
      intro b hb
      rcases hkeeps existing hd b hb with hbrings | hrepeats | ⟨-, hkept⟩
      · exact hnokey hbrings
      · rw [hrepeats.policy_kept] at hpolicy
        cases hpolicy
      · rw [hkept] at hpolicy
        cases hpolicy
    rw [hnone] at h
    obtain ⟨rfl, -⟩ := Prod.mk.inj (Except.ok.inj h)
    apply hagreed.unused
    intro b hb hblive hdevice
    have hmem := hlisted b hb hblive (hdevice.trans bindLegacyDeviceOrigin_id)
    rw [hnone] at hmem
    cases hmem
  · rw [if_neg hpolicy] at h
    obtain ⟨rfl, -⟩ := Prod.mk.inj (Except.ok.inj h)
    apply hagreed.setDevice
    intro b hb hchecked hdevice e he hagrees
    have hid : b.egoBrowserDeviceId = existing.id := hdevice.trans bindLegacyDeviceOrigin_id
    have hsome : db.getDevice b.egoBrowserDeviceId = some existing := by
      rw [hid, hdid]
      exact hd
    rw [← hdevice, hsome] at he
    obtain rfl := Option.some.inj he
    have hlive := EgoBrowserBindingStatus.live_of_checked hchecked
    rcases hkeeps existing hd b (hlisted b hb hlive hid) with hbrings | hrepeats | ⟨hpending, -⟩
    · exact absurd hbrings hnokey
    · exact hagrees.sameDevice (hrepeats.sameDevice _)
    · rw [hpending] at hchecked
      cases hchecked

lemma decodeFixedKey_eq_ok {value key : Text} {code : String}
    (h : decodeFixedKey value code = .ok key) : key = value := by
  simp only [decodeFixedKey, reject_bind_eq_ok] at h
  exact (Except.ok.inj h.2.2).symm

lemma decodeEncryptionPublicKey_eq_ok {value key : Option Text}
    (h : decodeEncryptionPublicKey value = .ok key) : key = value := by
  cases value with
  | none => exact (Except.ok.inj h).symm
  | some value =>
    cases hkey : decodeFixedKey value "EGO_BROWSER_ENCRYPTION_KEY_INVALID" with
    | error e =>
      simp only [decodeEncryptionPublicKey, hkey] at h
      cases h
    | ok decoded =>
      simp only [decodeEncryptionPublicKey, hkey] at h
      rw [← Except.ok.inj h, decodeFixedKey_eq_ok hkey]

/-- A device that registers for the first time has no checked binding. -/
lemma Agreed.addDevice (h : Agreed service db) (hadd : db.addDevice d = .ok db') :
    Agreed service db' := by
  unfold EgoBrowserTables.addDevice at hadd
  rw [reject_bind_eq_ok] at hadd
  obtain rfl := Except.ok.inj hadd.2
  constructor
  · exact h.enabled
  · intro b hb hchecked
    obtain ⟨e, he, hagrees⟩ := h.agrees b hb hchecked
    refine ⟨e, ?_, hagrees⟩
    change lookup EgoBrowserDevice.id (db.devices ++ [d]) _ = _
    rw [lookup_append]
    change (db.getDevice b.egoBrowserDeviceId).or _ = _
    rw [he, Option.some_or]

lemma registerDevice_agreed [Sha256] (hagreed : Agreed service db)
    (hkeeps : RegistersKeeping db payload) {proofOperation : EgoBrowserProofOperation}
    {requireRotation strictIdentity : Bool} :
    Agreed service (service.registerDevice db now user payload proofOperation requireRotation
      strictIdentity).db := by
  apply ofExcept_agreed hagreed
  intro db' publish a h
  simp only [bind_eq_ok, reject_eq_ok, exists_const] at h
  obtain ⟨_, -, -, _, -, _, -, capabilities, hpolicy, _, -, _, -, publicKey, hpublic,
    encryptionKey, hencryption, _, -, -, -, h⟩ := h
  obtain ⟨rfl, -⟩ := validatePolicyCapabilities_eq_ok hpolicy
  obtain rfl := decodeFixedKey_eq_ok hpublic
  obtain rfl := decodeEncryptionPublicKey_eq_ok hencryption
  cases hd : db.getDevice payload.deviceId with
  | some existing =>
    simp only [hd, bind_eq_ok, reject_eq_ok, exists_const] at h
    exact updateRegistered_agreed hagreed hd hkeeps h.2
  | none =>
    simp only [hd] at h
    cases hkey : payload.encryptionPublicKey with
    | none => simp [hkey] at h
    | some key =>
      simp only [hkey] at h
      cases hadd : db.addDevice (service.registeredDevice now user payload
          (canonicalCapabilities payload.capabilities) payload.publicKey key) with
      | error e => simp [hadd] at h
      | ok db₁ =>
        simp only [hadd] at h
        obtain ⟨rfl, -⟩ := Prod.mk.inj (Except.ok.inj h)
        exact hagreed.addDevice hadd

end

end AgentRemote
