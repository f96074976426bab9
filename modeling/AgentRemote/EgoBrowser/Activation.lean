import AgentRemote.EgoBrowser.Ending

/-!
# What an activation establishes

The profile check splits into what the device says of itself and what the binding repeats of
it. A connection checks the old rows and then writes the reported versions into both, so the
rows it commits pass the check exactly when the versions are the pinned ones.
-/

namespace AgentRemote
open Library EgoBrowserTables

variable {db db' : EgoBrowserTables} {b : EgoBrowserBinding} {d : EgoBrowserDevice}
  {service : EgoBrowserService} {now : Instant} {user : EgoBrowserUser} {id : Uuid}
  {deviceId : Option Uuid}

/-- An accepted request and what it committed. -/
lemma ofExcept_eq_ok {α : Type} {a : α}
    {x : Except EgoBrowserFailure (EgoBrowserTables × List (Uuid × ℕ) × α)}
    (h : (EgoBrowserResponse.ofExcept db x).result = .ok a) :
    ∃ db' publish, x = .ok (db', publish, a) ∧ (EgoBrowserResponse.ofExcept db x).db = db' := by
  cases x with
  | error e => cases h
  | ok r =>
    obtain ⟨db', publish, a'⟩ := r
    obtain rfl := Except.ok.inj h
    exact ⟨db', publish, rfl, rfl⟩

/-! ### Canonical capabilities -/

lemma canonicalCapabilities_canonical (values : List Text) :
    canonicalCapabilities (canonicalCapabilities values) = canonicalCapabilities values := by
  let kept := (values.filter fun v => v ≠ [] ∧ v.length ≤ 128).dedup.insertionSort (· ≤ ·)
  have hkept : ∀ v ∈ kept.take 32, v ≠ [] ∧ v.length ≤ 128 := by
    intro v hv
    have hmem := (List.mem_insertionSort _).mp (List.mem_of_mem_take hv)
    simpa using (List.mem_filter.mp (List.mem_dedup.mp hmem)).2
  have hnodup : (kept.take 32).Nodup := by
    apply List.Nodup.sublist (List.take_sublist 32 kept)
    exact (List.perm_insertionSort _ _).nodup_iff.mpr (List.nodup_dedup _)
  have hsorted : (kept.take 32).Pairwise (· ≤ ·) :=
    (List.pairwise_insertionSort _ _).sublist (List.take_sublist 32 kept)
  have hfilter : (kept.take 32).filter (fun v => v ≠ [] ∧ v.length ≤ 128) = kept.take 32 := by
    apply List.filter_eq_self.mpr
    intro v hv
    exact decide_eq_true (hkept v hv)
  change (((kept.take 32).filter fun v => v ≠ [] ∧ v.length ≤ 128).dedup.insertionSort
    (· ≤ ·)).take 32 = kept.take 32
  rw [hfilter, hnodup.dedup, hsorted.insertionSort_eq, List.take_take, min_self]

/-- Checked capabilities are the canonical ones, and pass the check again. -/
lemma validatePolicyCapabilities_eq_ok {values capabilities : List Text}
    {roots learning : Option Text}
    (h : service.validatePolicyCapabilities values roots learning = .ok capabilities) :
    capabilities = canonicalCapabilities values ∧
      service.validatePolicyCapabilities (canonicalCapabilities values) roots learning =
        .ok capabilities := by
  unfold EgoBrowserService.validatePolicyCapabilities at h ⊢
  simp only [reject_bind_eq_ok, pure_eq_ok] at h
  obtain ⟨hknown, hrequired, hdigests, hproduction, h⟩ := h
  obtain rfl := Except.ok.inj h
  rw [not_or] at hknown
  refine ⟨rfl, ?_⟩
  simp only [canonicalCapabilities_canonical, reject_bind_eq_ok, pure_eq_ok]
  refine ⟨?_, hrequired, hdigests, hproduction, trivial⟩
  rw [not_or]
  exact ⟨not_not.mpr rfl, hknown.2⟩

/-! ### The two halves of the profile check -/

/-- A binding repeats the release identity and the policy of its device. -/
structure Mirrors (b : EgoBrowserBinding) (d : EgoBrowserDevice) : Prop where
  release : b.releaseProfile = d.releaseProfile
  signer : b.signerCertificateSha256 = d.signerCertificateSha256
  credential : b.credentialProfile = d.credentialProfile
  protocol : b.bridgeProtocolVersion = d.bridgeProtocolVersion
  runtime : b.localRuntimeVersion = d.localEgoBrowserRuntimeVersion
  egoLite : b.egoLiteRuntimeVersion = d.egoLiteRuntimeVersion
  skill : b.skillVersion = d.skillVersion
  revision : b.allowlistRevision = d.allowlistRevision
  roots : b.allowlistRootsDigest = d.allowlistRootsDigest
  learning : b.learningBundleDigest = d.learningBundleDigest
  listed : b.capabilities.length = (canonicalCapabilities b.capabilities).length
  capabilities : canonicalCapabilities b.capabilities = canonicalCapabilities d.capabilities

/-- The versions of a production release are the pinned ones. -/
def EgoBrowserService.Pinned (service : EgoBrowserService) (d : EgoBrowserDevice) : Prop :=
  EgoBrowserService.productionProfile d.releaseProfile = true →
    (∀ v ∈ d.localEgoBrowserRuntimeVersion,
        v = service.settings.expectedLocalRuntimeVersion) ∧
      (∀ v ∈ d.egoLiteRuntimeVersion, v = service.settings.expectedLocalRuntimeVersion) ∧
      (∀ v ∈ d.skillVersion, v = service.settings.expectedSkillVersion)

/-- What the check asks of a device beyond its status, its digests and its pinned versions. -/
structure Released (service : EgoBrowserService) (d : EgoBrowserDevice) : Prop where
  origin : ∀ origin ∈ d.serverOrigin, origin = service.settings.publicOrigin
  platform : d.platform = "macos".toList
  credential : d.credentialProfile = .communityFile
  release : service.settings.production = true →
    d.releaseProfile = service.settings.expectedReleaseProfile
  signer : service.settings.expectedSignerCertificateSha256 ≠ [] →
    d.signerCertificateSha256 = service.settings.expectedSignerCertificateSha256
  protocol : d.bridgeProtocolVersion = egoBrowserProtocol
  expectedProtocol : d.bridgeProtocolVersion = service.settings.expectedProtocolVersion
  revision : 1 ≤ d.allowlistRevision
  listed : d.capabilities.length = (canonicalCapabilities d.capabilities).length
  profile : (service.validateProfile d.releaseProfile d.credentialProfile
    d.signerCertificateSha256).isOk = true
  policy : (service.validatePolicyCapabilities (canonicalCapabilities d.capabilities)
    d.allowlistRootsDigest d.learningBundleDigest).isOk = true

/-- The digests of a device are well formed. -/
def DigestsSafe (d : EgoBrowserDevice) : Prop :=
  (∀ digest ∈ d.allowlistRootsDigest, isSafeDigest digest = true) ∧
    ∀ digest ∈ d.learningBundleDigest, isSafeDigest digest = true

/-- The check is about the device alone, and about the binding as a copy of it. -/
lemma bindingProfileIsCurrent_iff :
    service.bindingProfileIsCurrent b d = true ↔
      d.status = .active ∧ Mirrors b d ∧ Released service d ∧ DigestsSafe d ∧
        service.Pinned d := by
  unfold EgoBrowserService.bindingProfileIsCurrent
  simp only [decide_eq_true_eq]
  constructor
  · rintro ⟨h1, h2, h3, h4, h5, h6, h7, h8, h9, h10, h11, h12, h13, h14, h15, h16, h17, h18, h19,
      h20, -, h22, h23, h24, h25, h26, h27, h28⟩
    exact ⟨h1, ⟨h4, h5, h6, h12, h13, h14, h15, h16, h17, h18, h25, h28⟩,
      ⟨h2, h3, h7, h8, h9, h10, h11, h20, h24, h26, h27⟩, ⟨h22, h23⟩, h19⟩
  · rintro ⟨hactive, hb, hd, hdigests, hpinned⟩
    exact ⟨hactive, hd.origin, hd.platform, hb.release, hb.signer, hb.credential,
      hd.credential, hd.release, hd.signer, hd.protocol, hd.expectedProtocol, hb.protocol,
      hb.runtime, hb.egoLite, hb.skill, hb.revision, hb.roots, hb.learning, hpinned, hd.revision,
      hb.revision ▸ hd.revision, hdigests.1, hdigests.2, hd.listed, hb.listed, hd.profile,
      hd.policy, hb.capabilities⟩

lemma validateBindingProfile_eq_ok {u : Unit} (h : service.validateBindingProfile b d = .ok u) :
    service.bindingProfileIsCurrent b d = true := by
  simp only [EgoBrowserService.validateBindingProfile, bind_eq_ok, reject_eq_ok,
    Bool.not_eq_false] at h
  obtain ⟨_, -, _, -, h⟩ := h
  exact h

/-- The full check of the operations is the predicate. -/
lemma validateBindingProfile_of_current (h : service.bindingProfileIsCurrent b d = true) :
    service.validateBindingProfile b d = .ok () := by
  obtain ⟨-, -, hd, -, -⟩ := bindingProfileIsCurrent_iff.mp h
  have horigin : service.validateDeviceOrigin d = .ok () := by
    apply reject_of_not
    rintro ⟨origin, hmem, hne⟩
    exact hne (hd.origin origin hmem)
  have hprofile : service.validateProfile d.releaseProfile d.credentialProfile
      d.signerCertificateSha256 = .ok () := by
    cases hv : service.validateProfile d.releaseProfile d.credentialProfile
        d.signerCertificateSha256 with
    | ok u => rfl
    | error e =>
      have hok := hd.profile
      rw [hv] at hok
      cases hok
  unfold EgoBrowserService.validateBindingProfile
  rw [horigin, ok_bind, hprofile, ok_bind]
  exact reject_of_not (by simp [h])

@[simp] lemma bindLegacyDeviceOrigin_id :
    (service.bindLegacyDeviceOrigin d).id = d.id := by
  unfold EgoBrowserService.bindLegacyDeviceOrigin
  split_ifs <;> rfl

lemma bindLegacyDeviceOrigin_status (d : EgoBrowserDevice) :
    (service.bindLegacyDeviceOrigin d).status = d.status := by
  unfold EgoBrowserService.bindLegacyDeviceOrigin
  split_ifs <;> rfl

/-- What the check asks of a device does not depend on when it was seen, nor on an origin that
was missing. -/
lemma Released.bindOrigin (h : Released service d) :
    Released service (service.bindLegacyDeviceOrigin d) := by
  unfold EgoBrowserService.bindLegacyDeviceOrigin
  by_cases horigin : d.serverOrigin.isSome = true
  · rw [if_pos horigin]
    exact h
  · rw [if_neg horigin]
    refine { h with origin := ?_ }
    intro origin hmem
    exact (Option.some.inj hmem).symm

/-- The fields of a device that a check reads. -/
structure SameProfile (d d' : EgoBrowserDevice) : Prop where
  release : d'.releaseProfile = d.releaseProfile
  signer : d'.signerCertificateSha256 = d.signerCertificateSha256
  credential : d'.credentialProfile = d.credentialProfile
  protocol : d'.bridgeProtocolVersion = d.bridgeProtocolVersion
  runtime : d'.localEgoBrowserRuntimeVersion = d.localEgoBrowserRuntimeVersion
  egoLite : d'.egoLiteRuntimeVersion = d.egoLiteRuntimeVersion
  skill : d'.skillVersion = d.skillVersion
  revision : d'.allowlistRevision = d.allowlistRevision
  roots : d'.allowlistRootsDigest = d.allowlistRootsDigest
  learning : d'.learningBundleDigest = d.learningBundleDigest
  capabilities : canonicalCapabilities d'.capabilities = canonicalCapabilities d.capabilities

lemma SameProfile.bindOrigin (d : EgoBrowserDevice) :
    SameProfile d (service.bindLegacyDeviceOrigin d) := by
  unfold EgoBrowserService.bindLegacyDeviceOrigin
  split_ifs
  · exact ⟨rfl, rfl, rfl, rfl, rfl, rfl, rfl, rfl, rfl, rfl, rfl⟩
  · exact ⟨rfl, rfl, rfl, rfl, rfl, rfl, rfl, rfl, rfl, rfl, rfl⟩

lemma Mirrors.sameProfile {d' : EgoBrowserDevice} (h : Mirrors b d) (hd : SameProfile d d') :
    Mirrors b d' where
  release := h.release.trans hd.release.symm
  signer := h.signer.trans hd.signer.symm
  credential := h.credential.trans hd.credential.symm
  protocol := h.protocol.trans hd.protocol.symm
  runtime := h.runtime.trans hd.runtime.symm
  egoLite := h.egoLite.trans hd.egoLite.symm
  skill := h.skill.trans hd.skill.symm
  revision := h.revision.trans hd.revision.symm
  roots := h.roots.trans hd.roots.symm
  learning := h.learning.trans hd.learning.symm
  listed := h.listed
  capabilities := h.capabilities.trans hd.capabilities.symm

/-! ### Activation -/

/-- The binding that an accepted connection leaves. -/
def EgoBrowserService.activated (service : EgoBrowserService) (b : EgoBrowserBinding)
    (payload : EgoBrowserConnectedRequest) (now : Instant) : EgoBrowserBinding :=
  { b with
    status := .active
    leaseHealth := .healthy
    leaseUntil := some (service.grantedLease b now)
    leaseGraceUntil := none
    connectedAt := some now
    localRuntimeVersion := some payload.localEgoBrowserRuntimeVersion
    egoLiteRuntimeVersion := some payload.egoLiteRuntimeVersion
    skillVersion := some payload.skillVersion
    bridgeProtocolVersion := payload.bridgeProtocolVersion
    capabilities := canonicalCapabilities payload.capabilities }

/-- The device that an accepted connection leaves. -/
def EgoBrowserService.reported (service : EgoBrowserService) (d : EgoBrowserDevice)
    (payload : EgoBrowserConnectedRequest) (now : Instant) : EgoBrowserDevice :=
  service.bindLegacyDeviceOrigin
    (EgoBrowserService.updateDeviceFromConnected { d with lastSeenAt := some now } payload)

/-- What a connection has checked when it is accepted. -/
structure Connects (service : EgoBrowserService) (b : EgoBrowserBinding) (d : EgoBrowserDevice)
    (payload : EgoBrowserConnectedRequest) : Prop where
  current : service.bindingProfileIsCurrent b d = true
  awaits : b.status.awaitsBridge = true
  protocol : payload.bridgeProtocolVersion = egoBrowserProtocol
  release : payload.releaseProfile = d.releaseProfile
  roots : payload.allowlistRootsDigest = d.allowlistRootsDigest
  learning : payload.learningBundleDigest = d.learningBundleDigest
  policy : ∃ capabilities, service.validatePolicyCapabilities payload.capabilities
    payload.allowlistRootsDigest payload.learningBundleDigest = .ok capabilities
  capabilities : canonicalCapabilities payload.capabilities = canonicalCapabilities b.capabilities

lemma validateCapabilityPayload_eq_ok {payload : EgoBrowserConnectedRequest} {u : Unit}
    (h : service.validateCapabilityPayload d payload = .ok u) :
    payload.bridgeProtocolVersion = egoBrowserProtocol ∧
      payload.releaseProfile = d.releaseProfile ∧
      payload.allowlistRootsDigest = d.allowlistRootsDigest ∧
      payload.learningBundleDigest = d.learningBundleDigest ∧
      ∃ capabilities, service.validatePolicyCapabilities payload.capabilities
        payload.allowlistRootsDigest payload.learningBundleDigest = .ok capabilities := by
  simp only [EgoBrowserService.validateCapabilityPayload, bind_eq_ok, reject_eq_ok, exists_const,
    not_or, not_not] at h
  obtain ⟨-, _, -, _, -, -, hprotocol, ⟨hrelease, -⟩, -, ⟨-, hroots, hlearning⟩, capabilities,
    hpolicy, -⟩ := h
  exact ⟨hprotocol, hrelease, hroots, hlearning, capabilities, hpolicy⟩

/-- An accepted connection: what it checked and what it commits. -/
lemma connected_eq_ok {payload : EgoBrowserConnectedRequest} {active : EgoBrowserBinding}
    (h : (service.connected db now user id payload deviceId).result = .ok active) :
    ∃ b d, db.ownedBindingDevice user id deviceId false = .ok (b, d) ∧
      Connects service b d payload ∧ active = service.activated b payload now ∧
      (service.connected db now user id payload deviceId).db =
        (db.setBinding active).setDevice (service.reported d payload now) := by
  obtain ⟨db', publish, hx, hdb⟩ := ofExcept_eq_ok h
  simp only [bind_eq_ok, reject_eq_ok, exists_const, Prod.exists, not_or, not_not] at hx
  obtain ⟨_, -, b, d, hown, _, hcurrent, _, -, _, -, -, hawaits, -, _, hpayload,
    ⟨-, -, -, hcapabilities⟩, _, -, hx⟩ := hx
  obtain ⟨hdb', hx⟩ := Prod.mk.inj (Except.ok.inj hx)
  obtain ⟨-, rfl⟩ := Prod.mk.inj hx
  obtain ⟨hprotocol, hrelease, hroots, hlearning, hpolicy⟩ := validateCapabilityPayload_eq_ok hpayload
  have hconnects : Connects service b d payload :=
    { current := validateBindingProfile_eq_ok hcurrent
      awaits := by simpa using hawaits
      protocol := hprotocol
      release := hrelease
      roots := hroots
      learning := hlearning
      policy := hpolicy
      capabilities := hcapabilities }
  exact ⟨b, d, hown, hconnects, rfl, hdb.trans hdb'.symm⟩

lemma DigestsSafe.sameProfile {d' : EgoBrowserDevice} (h : DigestsSafe d)
    (hd : SameProfile d d') : DigestsSafe d' := by
  unfold DigestsSafe
  rw [hd.roots, hd.learning]
  exact h

lemma pinned_congr {d' : EgoBrowserDevice} (hd : SameProfile d d') :
    service.Pinned d' ↔ service.Pinned d := by
  unfold EgoBrowserService.Pinned
  rw [hd.release, hd.runtime, hd.egoLite, hd.skill]

section

variable {payload : EgoBrowserConnectedRequest}

/-- A production release reports the pinned versions. -/
def EgoBrowserService.ReportsPinned (service : EgoBrowserService)
    (payload : EgoBrowserConnectedRequest) : Prop :=
  EgoBrowserService.productionProfile payload.releaseProfile = true →
    payload.localEgoBrowserRuntimeVersion = service.settings.expectedLocalRuntimeVersion ∧
      payload.egoLiteRuntimeVersion = service.settings.expectedLocalRuntimeVersion ∧
      payload.skillVersion = service.settings.expectedSkillVersion

lemma Connects.mirrors (h : Connects service b d payload) :
    Mirrors (service.activated b payload now)
      (EgoBrowserService.updateDeviceFromConnected { d with lastSeenAt := some now } payload) := by
  obtain ⟨-, hb, -, -, -⟩ := bindingProfileIsCurrent_iff.mp h.current
  exact
    { release := hb.release
      signer := hb.signer
      credential := hb.credential
      protocol := rfl
      runtime := rfl
      egoLite := rfl
      skill := rfl
      revision := hb.revision
      roots := hb.roots
      learning := hb.learning
      listed := congrArg List.length (canonicalCapabilities_canonical payload.capabilities).symm
      capabilities := rfl }

lemma Connects.released (h : Connects service b d payload) :
    Released service
      (EgoBrowserService.updateDeviceFromConnected { d with lastSeenAt := some now } payload) := by
  obtain ⟨-, -, hd, -, -⟩ := bindingProfileIsCurrent_iff.mp h.current
  obtain ⟨capabilities, hpolicy⟩ := h.policy
  rw [h.roots, h.learning] at hpolicy
  obtain ⟨-, hagain⟩ := validatePolicyCapabilities_eq_ok hpolicy
  exact
    { origin := hd.origin
      platform := hd.platform
      credential := hd.credential
      release := hd.release
      signer := hd.signer
      protocol := h.protocol
      expectedProtocol := h.protocol.trans (hd.protocol.symm.trans hd.expectedProtocol)
      revision := hd.revision
      listed := congrArg List.length (canonicalCapabilities_canonical payload.capabilities).symm
      profile := hd.profile
      policy := by
        change (service.validatePolicyCapabilities (canonicalCapabilities
          (canonicalCapabilities payload.capabilities)) d.allowlistRootsDigest
          d.learningBundleDigest).isOk = true
        rw [canonicalCapabilities_canonical, hagain]
        rfl }

/-- The rows after a connection pass the check exactly when the reported versions are the
pinned ones; every other condition carries over. -/
lemma Connects.current_iff (h : Connects service b d payload) :
    service.bindingProfileIsCurrent (service.activated b payload now)
      (service.reported d payload now) = true ↔ service.ReportsPinned payload := by
  obtain ⟨hactive, -, -, hdigests, -⟩ := bindingProfileIsCurrent_iff.mp h.current
  have hsame : SameProfile
      (EgoBrowserService.updateDeviceFromConnected { d with lastSeenAt := some now } payload)
      (service.reported d payload now) := SameProfile.bindOrigin _
  have hsafe : DigestsSafe
      (EgoBrowserService.updateDeviceFromConnected { d with lastSeenAt := some now } payload) :=
    hdigests
  have hpinned : service.Pinned
      (EgoBrowserService.updateDeviceFromConnected { d with lastSeenAt := some now } payload) ↔
        service.ReportsPinned payload := by
    unfold EgoBrowserService.Pinned EgoBrowserService.ReportsPinned
    rw [h.release]
    simp [EgoBrowserService.updateDeviceFromConnected]
  rw [bindingProfileIsCurrent_iff, pinned_congr hsame, hpinned]
  constructor
  · rintro ⟨-, -, -, -, hreports⟩
    exact hreports
  · intro hreports
    exact ⟨(bindLegacyDeviceOrigin_status _).trans hactive,
      h.mirrors.sameProfile hsame, h.released.bindOrigin, hsafe.sameProfile hsame, hreports⟩

/-- The rows of a binding and its device pass the check in these tables. -/
def CurrentIn (service : EgoBrowserService) (db : EgoBrowserTables) (id : Uuid) : Prop :=
  ∃ b d, db.getBinding id = some b ∧ db.getDevice b.egoBrowserDeviceId = some d ∧
    service.bindingProfileIsCurrent b d = true

lemma getDevice_of_ownedBindingDevice {allowAdmin : Bool}
    (h : db.ownedBindingDevice user id deviceId allowAdmin = .ok (b, d)) :
    db.getDevice b.egoBrowserDeviceId = some d := by
  unfold ownedBindingDevice at h
  cases hb : db.getBinding id with
  | none => simp [hb] at h
  | some c =>
    simp only [hb, reject_bind_eq_ok] at h
    obtain ⟨-, -, h⟩ := h
    cases hd : db.getDevice c.egoBrowserDeviceId with
    | none => simp [hd] at h
    | some e =>
      simp only [hd, reject_bind_eq_ok] at h
      obtain ⟨rfl, rfl⟩ := Prod.mk.inj (Except.ok.inj h.2)
      exact hd

lemma getDevice_setDevice (new : EgoBrowserDevice) (k : Uuid) :
    (db.setDevice new).getDevice k =
      if k = new.id then (db.getDevice k).map fun _ => new else db.getDevice k := by
  exact lookup_replace new

/-- After an accepted connection the committed rows pass the profile check exactly when a
production release reported the pinned versions. -/
theorem connected_current_iff {active : EgoBrowserBinding}
    (h : (service.connected db now user id payload deviceId).result = .ok active) :
    CurrentIn service (service.connected db now user id payload deviceId).db id ↔
      service.ReportsPinned payload := by
  obtain ⟨b, d, hown, hconnects, rfl, hdb⟩ := connected_eq_ok h
  have hb := getBinding_of_ownedBindingDevice hown
  have hd := getDevice_of_ownedBindingDevice hown
  have hid := key_of_lookup hb
  have hdid := key_of_lookup hd
  have hbinding : (service.connected db now user id payload deviceId).db.getBinding id =
      some (service.activated b payload now) := by
    rw [hdb]
    change (db.setBinding (service.activated b payload now)).getBinding id = _
    have hbindings : (db.setBinding (service.activated b payload now)).bindings =
        replace EgoBrowserBinding.id db.bindings (service.activated b payload now) := rfl
    have hactivated : id = (service.activated b payload now).id := hid.symm
    rw [getBinding_replace hbindings, if_pos hactivated, hb, Option.map_some]
  have hdevice : (service.connected db now user id payload deviceId).db.getDevice
      b.egoBrowserDeviceId = some (service.reported d payload now) := by
    have hreported : (service.reported d payload now).id = d.id := bindLegacyDeviceOrigin_id
    rw [hdb, getDevice_setDevice, if_pos (hdid.symm.trans hreported.symm)]
    change (db.getDevice b.egoBrowserDeviceId).map _ = _
    rw [hd, Option.map_some]
  rw [← hconnects.current_iff]
  constructor
  · rintro ⟨b', d', hb', hd', hcurrent⟩
    obtain rfl := Option.some.inj (hbinding.symm.trans hb')
    obtain rfl := Option.some.inj (hdevice.symm.trans hd')
    exact hcurrent
  · intro hcurrent
    exact ⟨_, _, hbinding, hdevice, hcurrent⟩

end

/-! ### A connection with another runtime -/

/-- The sample service with pinned versions. -/
def pinnedService : EgoBrowserService :=
  { sampleService with
    settings := { sampleService.settings with
      expectedLocalRuntimeVersion := "1.0".toList, expectedSkillVersion := "2.0".toList } }

/-- The digest of a signer certificate. -/
def sampleSigner : Text := List.replicate 64 '0'

/-- A registered production device and a claimed binding that waits for it. -/
def claimedTables : EgoBrowserTables where
  devices := [{ boundDevice 2 with
    releaseProfile := .communityLocalTrust, signerCertificateSha256 := sampleSigner
    localEgoBrowserRuntimeVersion := some "1.0".toList
    egoLiteRuntimeVersion := some "1.0".toList, skillVersion := some "2.0".toList }]
  bindings := [{ boundBinding 3 2 4 1 with
    status := .pendingDevice, connectedAt := none
    releaseProfile := .communityLocalTrust, signerCertificateSha256 := sampleSigner
    localRuntimeVersion := some "1.0".toList
    egoLiteRuntimeVersion := some "1.0".toList, skillVersion := some "2.0".toList }]

/-- The report of the device, with the version of its runtime. -/
def sampleReport (runtime : Text) : EgoBrowserConnectedRequest where
  generation := 1
  encryptionPublicKey := some sampleKey
  bridgeProtocolVersion := egoBrowserProtocol
  bridgeVersion := none
  localEgoBrowserRuntimeVersion := runtime
  egoLiteRuntimeVersion := "1.0".toList
  skillVersion := "2.0".toList
  releaseProfile := .communityLocalTrust
  signerCertificateSha256 := sampleSigner
  credentialProfile := .communityFile
  allowlistRevision := 1
  allowlistRootsDigest := none
  learningBundleDigest := none
  maxParallelRequests := 1
  capabilities := requiredCapabilities
  localBrowserReady := true
  proof := {}

/-- The device connects with a runtime that is not the pinned one: the binding becomes active,
and its first renewal is refused for the profile that the activation wrote. -/
theorem connected_writes_unpinned :
    let response := pinnedService.connected claimedTables 0 sampleUser 3
      (sampleReport "0.9".toList) (some 2)
    (∃ active, response.result = .ok active ∧ active.status = .active) ∧
      ¬CurrentIn pinnedService response.db 3 ∧
      (pinnedService.renew response.db 20000000 sampleUser 3
        { generation := 1, allowlistRevision := 1, learningBundleDigest := none } (some 2)).result =
          .error (EgoBrowserFailure.apiError "EGO_BROWSER_PROFILE_MISMATCH"
            "The binding release identity no longer matches the registered device." 409) := by
  intro response
  have hrun : (∃ active ∈ response.result.toOption, active.status = .active) ∧
      (∀ b ∈ response.db.getBinding 3, b.egoBrowserDeviceId = 2 ∧
        ∀ d ∈ response.db.getDevice 2, pinnedService.bindingProfileIsCurrent b d = false) ∧
      (pinnedService.renew response.db 20000000 sampleUser 3
        { generation := 1, allowlistRevision := 1, learningBundleDigest := none } (some 2)).result =
          .error (EgoBrowserFailure.apiError "EGO_BROWSER_PROFILE_MISMATCH"
            "The binding release identity no longer matches the registered device." 409) := by
    decide +kernel
  obtain ⟨⟨active, hresult, hactive⟩, hcurrent, hrefused⟩ := hrun
  refine ⟨⟨active, toOption_eq_some.mp hresult, hactive⟩, ?_, hrefused⟩
  rintro ⟨b, d, hb, hd, h⟩
  obtain ⟨hdevice, hprofile⟩ := hcurrent b hb
  rw [hdevice] at hd
  rw [hprofile d hd] at h
  cases h

/-- With the pinned runtime the rows of the same connection are current. -/
theorem connected_current_pinned :
    CurrentIn pinnedService (pinnedService.connected claimedTables 0 sampleUser 3
      (sampleReport "1.0".toList) (some 2)).db 3 := by
  have hactive : (pinnedService.connected claimedTables 0 sampleUser 3
      (sampleReport "1.0".toList) (some 2)).result.toOption.isSome = true := by decide +kernel
  obtain ⟨active, hresult⟩ := Option.isSome_iff_exists.mp hactive
  exact (connected_current_iff (toOption_eq_some.mp hresult)).mpr fun _ => ⟨rfl, rfl, rfl⟩

end AgentRemote
