import AgentRemote.EgoBrowser.Activation

/-!
# Agreement of bindings and devices

A checked binding repeats what its device says of itself. What writes to the two tables keep
that agreement.
-/

namespace AgentRemote
open Library EgoBrowserTables

variable {db db' : EgoBrowserTables} {b new : EgoBrowserBinding} {d d' : EgoBrowserDevice}
  {service : EgoBrowserService} {now : Instant}

/-! ### Agreement of a binding with its device -/

namespace EgoBrowserBindingStatus

/-- A live status that a binding reaches only after its profile was checked. -/
def checked : EgoBrowserBindingStatus → Bool
  | connecting | probingLocalBrowser | active | paused => true
  | _ => false

lemma live_of_checked {s : EgoBrowserBindingStatus} (h : s.checked = true) : s.live = true := by
  cases s <;> first | rfl | cases h

end EgoBrowserBindingStatus

/-- A binding that was checked against its device and has a generation left. -/
structure ClaimAgrees (service : EgoBrowserService) (b : EgoBrowserBinding) (d : EgoBrowserDevice) :
    Prop where
  mirrors : Mirrors b d
  released : Released service d
  pinned : service.Pinned d
  owner : d.userId = b.userId
  resumable : b.status = .paused → b.generation < maxActiveEgoBrowserGeneration

/-- The binding agrees with its device in these tables. -/
def AgreesIn (service : EgoBrowserService) (db : EgoBrowserTables) (b : EgoBrowserBinding) : Prop :=
  ∃ d, db.getDevice b.egoBrowserDeviceId = some d ∧ ClaimAgrees service b d

/-- Every checked binding agrees with its device. -/
structure Agreed (service : EgoBrowserService) (db : EgoBrowserTables) : Prop where
  enabled : ∀ b ∈ db.bindings, service.settings.bridgeEnabled = true
  agrees : ∀ b ∈ db.bindings, b.status.checked = true → AgreesIn service db b

/-- The fields of a binding that the agreement is about, besides its generation. -/
structure SameClaim (b new : EgoBrowserBinding) : Prop where
  device : new.egoBrowserDeviceId = b.egoBrowserDeviceId
  user : new.userId = b.userId
  release : new.releaseProfile = b.releaseProfile
  signer : new.signerCertificateSha256 = b.signerCertificateSha256
  credential : new.credentialProfile = b.credentialProfile
  protocol : new.bridgeProtocolVersion = b.bridgeProtocolVersion
  runtime : new.localRuntimeVersion = b.localRuntimeVersion
  egoLite : new.egoLiteRuntimeVersion = b.egoLiteRuntimeVersion
  skill : new.skillVersion = b.skillVersion
  revision : new.allowlistRevision = b.allowlistRevision
  roots : new.allowlistRootsDigest = b.allowlistRootsDigest
  learning : new.learningBundleDigest = b.learningBundleDigest
  capabilities : new.capabilities = b.capabilities

lemma Mirrors.sameClaim (h : Mirrors b d) (hb : SameClaim b new) : Mirrors new d where
  release := hb.release.trans h.release
  signer := hb.signer.trans h.signer
  credential := hb.credential.trans h.credential
  protocol := hb.protocol.trans h.protocol
  runtime := hb.runtime.trans h.runtime
  egoLite := hb.egoLite.trans h.egoLite
  skill := hb.skill.trans h.skill
  revision := hb.revision.trans h.revision
  roots := hb.roots.trans h.roots
  learning := hb.learning.trans h.learning
  listed := hb.capabilities ▸ h.listed
  capabilities := hb.capabilities ▸ h.capabilities

lemma AgreesIn.sameClaim (h : AgreesIn service db b) (hb : SameClaim b new)
    (hgen : new.status = .paused → new.generation < maxActiveEgoBrowserGeneration) :
    AgreesIn service db new := by
  obtain ⟨d, hd, hagrees⟩ := h
  refine ⟨d, ?_, hagrees.mirrors.sameClaim hb, hagrees.released, hagrees.pinned, ?_, hgen⟩
  · rw [hb.device, hd]
  · rw [hagrees.owner, hb.user]

/-- A write to a device row that keeps what the check reads of it. -/
structure SameDevice (service : EgoBrowserService) (d d' : EgoBrowserDevice) : Prop where
  profile : SameProfile d d'
  id : d'.id = d.id
  user : d'.userId = d.userId
  platform : d'.platform = d.platform
  origin : ∀ origin ∈ d'.serverOrigin,
    d.serverOrigin = some origin ∨ origin = service.settings.publicOrigin
  listed : d.capabilities.length = (canonicalCapabilities d.capabilities).length →
    d'.capabilities.length = (canonicalCapabilities d'.capabilities).length

lemma Released.sameDevice (h : Released service d) (hd : SameDevice service d d') :
    Released service d' where
  origin := by
    intro origin hmem
    rcases hd.origin origin hmem with hold | hnew
    · exact h.origin origin hold
    · exact hnew
  platform := hd.platform.trans h.platform
  credential := hd.profile.credential.trans h.credential
  release hproduction := hd.profile.release.trans (h.release hproduction)
  signer hpinned := hd.profile.signer.trans (h.signer hpinned)
  protocol := hd.profile.protocol.trans h.protocol
  expectedProtocol := hd.profile.protocol.trans h.expectedProtocol
  revision := hd.profile.revision ▸ h.revision
  listed := hd.listed h.listed
  profile := by
    rw [hd.profile.release, hd.profile.credential, hd.profile.signer]
    exact h.profile
  policy := by
    rw [hd.profile.capabilities, hd.profile.roots, hd.profile.learning]
    exact h.policy

lemma ClaimAgrees.sameDevice (h : ClaimAgrees service b d) (hd : SameDevice service d d') :
    ClaimAgrees service b d' where
  mirrors := h.mirrors.sameProfile hd.profile
  released := h.released.sameDevice hd
  pinned := (pinned_congr hd.profile).mpr h.pinned
  owner := hd.user.trans h.owner
  resumable := h.resumable

lemma SameDevice.bindOrigin (d : EgoBrowserDevice) :
    SameDevice service d (service.bindLegacyDeviceOrigin d) := by
  refine ⟨SameProfile.bindOrigin d, bindLegacyDeviceOrigin_id, ?_, ?_, ?_, ?_⟩
  all_goals
    unfold EgoBrowserService.bindLegacyDeviceOrigin
    split_ifs
  · rfl
  · rfl
  · rfl
  · rfl
  · exact fun origin hmem => Or.inl hmem
  · exact fun origin hmem => Or.inr (Option.some.inj hmem).symm
  · exact fun h => h
  · exact fun h => h

lemma SameDevice.refl (d : EgoBrowserDevice) : SameDevice service d d :=
  ⟨⟨rfl, rfl, rfl, rfl, rfl, rfl, rfl, rfl, rfl, rfl, rfl⟩, rfl, rfl, rfl, fun _ h => Or.inl h,
    fun h => h⟩

/-- The status and the times of a device are not part of its profile. -/
lemma SameDevice.restate (d : EgoBrowserDevice) {status : EgoBrowserDeviceStatus}
    {lastSeenAt revokedAt : Option Instant} :
    SameDevice service d
      { d with status := status, lastSeenAt := lastSeenAt, revokedAt := revokedAt } :=
  ⟨⟨rfl, rfl, rfl, rfl, rfl, rfl, rfl, rfl, rfl, rfl, rfl⟩, rfl, rfl, rfl, fun _ h => Or.inl h,
    fun h => h⟩

lemma SameDevice.trans {d'' : EgoBrowserDevice} (h : SameDevice service d d')
    (h' : SameDevice service d' d'') : SameDevice service d d'' where
  profile :=
    { release := h'.profile.release.trans h.profile.release
      signer := h'.profile.signer.trans h.profile.signer
      credential := h'.profile.credential.trans h.profile.credential
      protocol := h'.profile.protocol.trans h.profile.protocol
      runtime := h'.profile.runtime.trans h.profile.runtime
      egoLite := h'.profile.egoLite.trans h.profile.egoLite
      skill := h'.profile.skill.trans h.profile.skill
      revision := h'.profile.revision.trans h.profile.revision
      roots := h'.profile.roots.trans h.profile.roots
      learning := h'.profile.learning.trans h.profile.learning
      capabilities := h'.profile.capabilities.trans h.profile.capabilities }
  id := h'.id.trans h.id
  user := h'.user.trans h.user
  platform := h'.platform.trans h.platform
  origin := by
    intro origin hmem
    rcases h'.origin origin hmem with hold | hnew
    · exact h.origin origin hold
    · exact Or.inr hnew
  listed hlisted := h'.listed (h.listed hlisted)

/-! ### Writes -/

namespace Agreed

/-- Writes to other tables. -/
lemma congr (h : Agreed service db) (hbindings : db'.bindings = db.bindings)
    (hdevices : db'.devices = db.devices) : Agreed service db' where
  enabled b hb := h.enabled b (hbindings ▸ hb)
  agrees b hb hchecked := by
    obtain ⟨d, hd, hagrees⟩ := h.agrees b (hbindings ▸ hb) hchecked
    refine ⟨d, ?_, hagrees⟩
    unfold getDevice
    rw [hdevices]
    exact hd

/-- The row of one binding is replaced. -/
lemma replace (h : Agreed service db)
    (hbindings : db'.bindings = Library.replace EgoBrowserBinding.id db.bindings new)
    (hdevices : db'.devices = db.devices)
    (hnew : new.status.checked = true → AgreesIn service db new) : Agreed service db' := by
  have hget : ∀ id, db'.getDevice id = db.getDevice id := by
    intro id
    unfold getDevice
    rw [hdevices]
  constructor
  · intro c hc
    rw [hbindings] at hc
    rcases mem_replace.mp hc with ⟨hc, -⟩ | ⟨-, c', hc', -⟩
    · exact h.enabled c hc
    · exact h.enabled c' hc'
  · intro c hc hchecked
    rw [hbindings] at hc
    have hagrees : AgreesIn service db c := by
      rcases mem_replace.mp hc with ⟨hc, -⟩ | ⟨rfl, -⟩
      · exact h.agrees c hc hchecked
      · exact hnew hchecked
    obtain ⟨d, hd, hagrees⟩ := hagrees
    exact ⟨d, (hget _).trans hd, hagrees⟩

/-- The row of a device is replaced. -/
lemma setDevice (h : Agreed service db)
    (hnew : ∀ b ∈ db.bindings, b.status.checked = true → b.egoBrowserDeviceId = d'.id →
      ∀ d, db.getDevice d'.id = some d → ClaimAgrees service b d → ClaimAgrees service b d') :
    Agreed service (db.setDevice d') where
  enabled := h.enabled
  agrees b hb hchecked := by
    obtain ⟨d, hd, hagrees⟩ := h.agrees b hb hchecked
    by_cases hid : b.egoBrowserDeviceId = d'.id
    · refine ⟨d', ?_, hnew b hb hchecked hid d (hid ▸ hd) hagrees⟩
      rw [getDevice_setDevice, if_pos hid, hd, Option.map_some]
    · refine ⟨d, ?_, hagrees⟩
      rw [getDevice_setDevice, if_neg hid, hd]

/-- A device is written that keeps its profile. -/
lemma sameDevice (h : Agreed service db) {id : Uuid} (hd : db.getDevice id = some d)
    (hsame : SameDevice service d d') : Agreed service (db.setDevice d') := by
  apply h.setDevice
  intro b hb _ _ e he hagrees
  have hid : d'.id = id := hsame.id.trans (key_of_lookup hd)
  rw [hid, hd] at he
  exact (Option.some.inj he ▸ hagrees).sameDevice hsame

end Agreed

/-! ### Frames -/

section

@[simp] lemma devices_enqueueRevocation (id : Uuid) (n : ℕ) (reason : String) :
    (db.enqueueRevocation id n reason).devices = db.devices := by
  unfold enqueueRevocation addOutbox reject
  split_ifs <;> rfl

@[simp] lemma devices_supersede (old new : EgoBrowserBinding) (reason : String) :
    (db.supersede old new reason).devices = db.devices := by
  simp [supersede, setBinding, cancelGenerationRequests]

lemma devices_invalidateBinding {status : EgoBrowserTerminalStatus} {reason : String}
    {left : List (Uuid × ℕ)} (h : db.invalidateBinding b status reason now = .ok (db', left)) :
    db'.devices = db.devices := by
  unfold invalidateBinding at h
  by_cases hdone : b.status.terminal ∧ (status ≠ .revoked ∨ b.status = .revoked)
  · rw [if_pos hdone] at h
    obtain ⟨rfl, -⟩ := Prod.mk.inj (Except.ok.inj h)
    rfl
  · rw [if_neg hdone, bind_eq_ok] at h
    obtain ⟨advanced, -, h⟩ := h
    obtain ⟨rfl, -⟩ := Prod.mk.inj (Except.ok.inj h)
    exact devices_supersede ..

lemma not_checked_of_terminal {s : EgoBrowserBindingStatus} (h : s.terminal = true) :
    ¬s.checked = true := by
  intro hchecked
  rw [EgoBrowserBindingStatus.terminal_eq_false_of_live
    (EgoBrowserBindingStatus.live_of_checked hchecked)] at h
  cases h

/-- Ending a binding keeps the agreement of the others. -/
lemma Agreed.invalidateBinding (hagreed : Agreed service db) {status : EgoBrowserTerminalStatus}
    {reason : String} {left : List (Uuid × ℕ)}
    (h : db.invalidateBinding b status reason now = .ok (db', left)) : Agreed service db' := by
  have hdevices := devices_invalidateBinding h
  obtain ⟨hsame, -⟩ | ⟨new, -, hstatus, hbindings⟩ := invalidateBinding_bindings h
  · exact hagreed.congr hsame hdevices
  · apply hagreed.replace hbindings hdevices
    intro hchecked
    exact absurd hchecked (not_checked_of_terminal (hstatus ▸ status.terminal_status))

/-- A fold of steps that keep the agreement and the devices keeps both. -/
lemma Agreed.foldlM {f : EgoBrowserTables → EgoBrowserBinding →
      Except EgoBrowserFailure (EgoBrowserTables × List (Uuid × ℕ))}
    {bs : List EgoBrowserBinding} (hagreed : Agreed service db)
    (hf : ∀ db₁ b db₂ left, b ∈ bs → Agreed service db₁ → db₁.devices = db.devices →
      f db₁ b = .ok (db₂, left) → Agreed service db₂ ∧ db₂.devices = db₁.devices)
    {acc left : List (Uuid × ℕ)}
    (h : bs.foldlM (fun (acc : EgoBrowserTables × List (Uuid × ℕ)) b => do
      let (db', left) ← f acc.1 b
      pure (db', acc.2 ++ left)) (db, acc) = .ok (db', left)) :
    Agreed service db' ∧ db'.devices = db.devices := by
  refine foldlM_ok_induction
    (P := fun s : EgoBrowserTables × List (Uuid × ℕ) =>
      Agreed service s.1 ∧ s.1.devices = db.devices) ?_ ⟨hagreed, rfl⟩ h
  intro s b s' hb hs hstep
  rw [bind_eq_ok] at hstep
  obtain ⟨⟨db₂, left₂⟩, hstep, heq⟩ := hstep
  obtain rfl := Except.ok.inj heq
  obtain ⟨hnext, hdevices⟩ := hf s.1 b db₂ left₂ hb hs.1 hs.2 hstep
  exact ⟨hnext, hdevices.trans hs.2⟩

lemma Agreed.invalidateBindings (hagreed : Agreed service db) {bs : List EgoBrowserBinding}
    {status : EgoBrowserTerminalStatus} {reason : String} {left : List (Uuid × ℕ)}
    (h : db.invalidateBindings bs status reason now = .ok (db', left)) :
    Agreed service db' ∧ db'.devices = db.devices :=
  hagreed.foldlM (f := fun db b => db.invalidateBinding b status reason now)
    (fun _ _ _ _ _ hs _ hstep => ⟨hs.invalidateBinding hstep, devices_invalidateBinding hstep⟩) h

/-- After live bindings were ended, each live row is an old one that was not listed. -/
lemma live_of_invalidateBindings {bs : List EgoBrowserBinding}
    {status : EgoBrowserTerminalStatus} {reason : String} {left : List (Uuid × ℕ)}
    (hlive : ∀ b ∈ bs, b.status.live = true)
    (h : db.invalidateBindings bs status reason now = .ok (db', left)) {c : EgoBrowserBinding}
    (hc : c ∈ db'.bindings) (hcl : c.status.live = true) :
    c ∈ db.bindings ∧ ∀ b ∈ bs, c.id ≠ b.id := by
  unfold EgoBrowserTables.invalidateBindings at h
  generalize hacc : ([] : List (Uuid × ℕ)) = acc at h
  clear hacc
  induction bs generalizing db acc with
  | nil =>
    obtain ⟨rfl, -⟩ := Prod.mk.inj (Except.ok.inj h)
    exact ⟨hc, fun b hb => by simp at hb⟩
  | cons b bs ih =>
    rw [List.foldlM_cons, bind_eq_ok] at h
    obtain ⟨⟨db₁, acc₁⟩, hstep, h⟩ := h
    rw [bind_eq_ok] at hstep
    obtain ⟨⟨db₂, left₂⟩, hstep, heq⟩ := hstep
    obtain ⟨rfl, -⟩ := Prod.mk.inj (Except.ok.inj heq)
    obtain ⟨hmem, hne⟩ := ih (fun b hb => hlive b (List.mem_cons_of_mem _ hb)) acc₁ h
    have hbl := hlive b List.mem_cons_self
    obtain ⟨-, hended⟩ | ⟨new, hid, hstatus, hbindings⟩ := invalidateBinding_bindings hstep
    · rw [EgoBrowserBindingStatus.terminal_eq_false_of_live hbl] at hended
      cases hended
    · rw [hbindings] at hmem
      rcases mem_replace.mp hmem with ⟨hold, hkey⟩ | ⟨rfl, -⟩
      · refine ⟨hold, fun b' hb' => ?_⟩
        rcases List.mem_cons.mp hb' with rfl | hb'
        · exact fun heq => hkey (heq.trans hid.symm)
        · exact hne b' hb'
      · have hterm := status.terminal_status
        rw [← hstatus, EgoBrowserBindingStatus.terminal_eq_false_of_live hcl] at hterm
        cases hterm

/-- A binding and its device are written together. No other live binding has the device. -/
lemma Agreed.both (h : Agreed service db) (hagrees : ClaimAgrees service new d')
    {old : EgoBrowserBinding} (hold : old ∈ db.bindings)
    (halone : ∀ c ∈ db.bindings, c.status.live = true →
      c.egoBrowserDeviceId = old.egoBrowserDeviceId → c = old)
    (hid : new.id = old.id) (hdevice : new.egoBrowserDeviceId = old.egoBrowserDeviceId)
    (hd : db.getDevice old.egoBrowserDeviceId = some d) (hdid : d'.id = d.id)
    (hbindings : db'.bindings = Library.replace EgoBrowserBinding.id db.bindings new)
    (hdevices : db'.devices = Library.replace EgoBrowserDevice.id db.devices d') :
    Agreed service db' := by
  have hget : ∀ k, db'.getDevice k =
      if k = d'.id then (db.getDevice k).map fun _ => d' else db.getDevice k := by
    intro k
    unfold getDevice
    rw [hdevices, lookup_replace]
  have hkey : old.egoBrowserDeviceId = d'.id := (key_of_lookup hd).symm.trans hdid.symm
  constructor
  · intro c hc
    exact h.enabled old hold
  · intro c hc hchecked
    rw [hbindings] at hc
    rcases mem_replace.mp hc with ⟨hc, hne⟩ | ⟨rfl, -⟩
    · have hother : c.egoBrowserDeviceId ≠ d'.id := by
        intro heq
        have hlive := EgoBrowserBindingStatus.live_of_checked hchecked
        have hsame := halone c hc hlive (heq.trans hkey.symm)
        exact hne (by rw [hsame, hid])
      obtain ⟨e, he, hagreed⟩ := h.agrees c hc hchecked
      exact ⟨e, by rw [hget, if_neg hother, he], hagreed⟩
    · refine ⟨d', ?_, hagrees⟩
      rw [hget, if_pos (hdevice.trans hkey), hdevice, hd, Option.map_some]

/-- A pause leaves a paused binding with the old claim and the next generation. -/
lemma pauseGeneration_eq_ok {stopReason reason : String}
    (h : db.pauseGeneration b stopReason reason = .ok db') :
    ∃ new, new.id = b.id ∧ SameClaim b new ∧ new.status = .paused ∧
      new.generation = b.generation + 1 ∧
      db'.bindings = Library.replace EgoBrowserBinding.id db.bindings new ∧
      db'.devices = db.devices := by
  unfold pauseGeneration at h
  rw [bind_eq_ok] at h
  obtain ⟨advanced, hadvanced, h⟩ := h
  obtain ⟨-, rfl⟩ := advanceGeneration_eq_ok hadvanced
  obtain rfl := Except.ok.inj h
  refine ⟨_, ?_, ?_, ?_, ?_, bindings_supersede .., devices_supersede ..⟩
  · rfl
  · exact ⟨rfl, rfl, rfl, rfl, rfl, rfl, rfl, rfl, rfl, rfl, rfl, rfl, rfl⟩
  · rfl
  · rfl

lemma Agreed.pauseGeneration (hagreed : Agreed service db) (hb : AgreesIn service db b)
    (hroom : b.generation + 1 < maxActiveEgoBrowserGeneration) {stopReason reason : String}
    (h : db.pauseGeneration b stopReason reason = .ok db') :
    Agreed service db' ∧ db'.devices = db.devices := by
  obtain ⟨new, -, hsame, -, hgen, hbindings, hdevices⟩ := pauseGeneration_eq_ok h
  refine ⟨hagreed.replace hbindings hdevices fun _ => ?_, hdevices⟩
  exact hb.sameClaim hsame fun _ => hgen ▸ hroom

end

end AgentRemote
