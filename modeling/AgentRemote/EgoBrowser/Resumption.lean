import AgentRemote.EgoBrowser.Upkeep

/-!
# Resuming a paused binding

A resumption first asks that binding and device agree and then copies the device's policy. So a
registration that pauses a binding because it changes the policy leaves it paused for good.
-/

namespace AgentRemote
open Library EgoBrowserTables

variable {db db' : EgoBrowserTables} {b : EgoBrowserBinding} {d : EgoBrowserDevice}
  {service : EgoBrowserService} {now : Instant}

/-! ### Runs -/

section

variable [Sha256]

/-- A step that meets its condition keeps the agreement. -/
lemma Agreed.perform {events : List EgoBrowserEvent} (hagreed : Agreed service db) (now : Instant)
    (hfenced : Fenced db events) {action : EgoBrowserAction}
    (hkeeps : KeepsAgreement service db action) :
    Agreed service (service.perform db now action).1 := by
  cases action with
  | claim => exact claim_agreed hagreed
  | connected => exact connected_agreed hagreed hfenced hkeeps
  | renew => exact renew_agreed hagreed
  | renewForNode => exact renewForNode_agreed hagreed
  | markRenewalFailed => exact markRenewalFailed_agreed hagreed
  | pause => exact pause_agreed hagreed hkeeps
  | pauseByUser => exact pauseByUser_agreed hagreed hkeeps
  | resume => exact resume_agreed hagreed
  | stop => exact stop_agreed hagreed
  | stopByUser => exact stopByUser_agreed hagreed
  | confirmAllowlist => exact confirmAllowlist_agreed hagreed hfenced hkeeps
  | registerDevice => exact registerDevice_agreed hagreed hkeeps
  | revokeDevice => exact revokeDevice_agreed hagreed
  | revokeForToolSession => exact revokeListed_agreed hagreed
  | revokeForDevice => exact revokeListed_agreed hagreed
  | revokeForUser => exact revokeListed_agreed hagreed
  | revokeForNode => exact revokeListed_agreed hagreed
  | expireDue => exact expireDue_agreed hagreed
  | admitOuterEnvelope => exact admitOuterEnvelope_agreed hagreed
  | cancelRequest => exact cancelRequest_agreed hagreed
  | reconcileCancelTask => exact reconcileCancelTask_agreed hagreed hkeeps
  | publishRevocation bindingId generation returned =>
    apply hagreed.congr
    · simp only [EgoBrowserService.perform, publishRevocation]
      split_ifs <;> rfl
    · simp only [EgoBrowserService.perform, publishRevocation]
      split_ifs <;> rfl

/-- Every step of a run meets its condition in the state it is taken in. -/
def StepsKeep (service : EgoBrowserService) (actions : List (Instant × EgoBrowserAction)) : Prop :=
  ∀ before now action after, actions = before ++ (now, action) :: after →
    KeepsAgreement service (service.run before).db action

/-- Induction on the run from its end. -/
lemma Agreed.run {actions : List (Instant × EgoBrowserAction)} (h : StepsKeep service actions) :
    Agreed service (service.run actions).db := by
  induction actions using List.reverseRecOn with
  | nil => exact ⟨fun b hb => (nomatch hb), fun b hb => (nomatch hb)⟩
  | append_singleton before last ih =>
    have hbefore : StepsKeep service before := by
      intro xs now action ys hsplit
      exact h xs now action (ys ++ [last]) (by rw [hsplit]; simp)
    have hstep := (ih hbefore).perform last.1 (Fenced.run before)
      (h before last.1 last.2 [] rfl)
    rw [EgoBrowserService.run, List.foldl_append, List.foldl_cons, List.foldl_nil]
    exact hstep

end

/-! ### Resumption -/

/-- The device is active, of a valid release, and its policy is valid. -/
structure ValidDevice (service : EgoBrowserService) (d : EgoBrowserDevice) : Prop where
  active : d.status = .active
  profile : (service.validateProfile d.releaseProfile d.credentialProfile
    d.signerCertificateSha256).isOk = true
  policy : (service.validatePolicyCapabilities d.capabilities d.allowlistRootsDigest
    d.learningBundleDigest).isOk = true
  digests : DigestsSafe d

/-- The request names the binding's generation and the device's policy, and proves the device. -/
structure ResumesBinding (service : EgoBrowserService) (b : EgoBrowserBinding)
    (d : EgoBrowserDevice) (user : EgoBrowserUser) (payload : EgoBrowserResumeRequest)
    (deviceId : Option Uuid) : Prop where
  user : user.id = b.userId
  device : ∀ id ∈ deviceId, id = b.egoBrowserDeviceId
  generation : payload.generation = b.generation
  revision : payload.allowlistRevision = d.allowlistRevision
  learning : payload.learningBundleDigest = d.learningBundleDigest
  proof : service.validateDevicePop d b.generation .resumeBinding (some b.id) payload.proof = .ok ()

/-- Every paused binding of a valid device can be resumed: the generation advances and the row
carries the device's policy. -/
def PausedResume (service : EgoBrowserService) (db : EgoBrowserTables) : Prop :=
  ∀ b ∈ db.bindings, b.status = .paused → ∀ d, db.getDevice b.egoBrowserDeviceId = some d →
    ValidDevice service d → ∀ now user payload deviceId,
      ResumesBinding service b d user payload deviceId →
      ∃ resumed, (service.resume db now user b.id payload deviceId).result = .ok resumed ∧
        (service.resume db now user b.id payload deviceId).db.getBinding b.id = some resumed ∧
        resumed.generation = b.generation + 1 ∧
        resumed.allowlistRevision = d.allowlistRevision ∧
        resumed.allowlistRootsDigest = d.allowlistRootsDigest ∧
        resumed.learningBundleDigest = d.learningBundleDigest ∧
        resumed.capabilities = canonicalCapabilities d.capabilities

lemma ownedBindingDevice_of_mem {user : EgoBrowserUser} {deviceId : Option Uuid}
    (hn : (db.bindings.map EgoBrowserBinding.id).Nodup) (hb : b ∈ db.bindings)
    (hd : db.getDevice b.egoBrowserDeviceId = some d) (howner : d.userId = b.userId)
    (huser : user.id = b.userId) (hdevice : ∀ id ∈ deviceId, id = b.egoBrowserDeviceId) :
    db.ownedBindingDevice user b.id deviceId false = .ok (b, d) := by
  have hget : db.getBinding b.id = some b := lookup_of_mem hn hb
  have howned : ¬(b.userId ≠ user.id ∧ ¬(false = true ∧ user.admin = true)) :=
    fun h => h.1 huser.symm
  have hsame : ¬∃ id ∈ deviceId, b.egoBrowserDeviceId ≠ id := by
    rintro ⟨id, hid, hne⟩
    exact hne (hdevice id hid).symm
  unfold ownedBindingDevice
  simp only [hget, hd, reject_of_not howned, reject_of_not hsame, ok_bind,
    reject_of_not (not_not.mpr howner)]
  rfl

/-- A paused binding that agrees with its device is resumed by a valid request. -/
lemma resume_of_agrees {user : EgoBrowserUser} {payload : EgoBrowserResumeRequest}
    {deviceId : Option Uuid} (now : Instant) (hn : (db.bindings.map EgoBrowserBinding.id).Nodup)
    (hb : b ∈ db.bindings) (hd : db.getDevice b.egoBrowserDeviceId = some d)
    (henabled : service.settings.bridgeEnabled = true) (hpaused : b.status = .paused)
    (hagrees : ClaimAgrees service b d) (hvalid : ValidDevice service d)
    (hrequest : ResumesBinding service b d user payload deviceId) :
    service.resume db now user b.id payload deviceId =
      { db := (db.supersede b (service.resumed b d now) "resume_generation_change").setDevice
          (service.bindLegacyDeviceOrigin d)
        publish := [(b.id, b.generation)]
        result := .ok (service.resumed b d now) } := by
  have hexecution : service.requireExecution = .ok () := reject_of_not (by simp [henabled])
  have hown : db.ownedBindingDevice user b.id deviceId false = .ok (b, d) :=
    ownedBindingDevice_of_mem hn hb hd hagrees.owner hrequest.user hrequest.device
  have hcurrent : service.bindingProfileIsCurrent b d = true :=
    bindingProfileIsCurrent_iff.mpr ⟨hvalid.active, hagrees.mirrors, hagrees.released,
      hvalid.digests, hagrees.pinned⟩
  have hprofile := validateBindingProfile_of_current hcurrent
  have hstate : ¬(b.status ≠ .paused ∨ b.generation ≠ payload.generation) := by
    rw [not_or, not_not, not_not]
    exact ⟨hpaused, hrequest.generation.symm⟩
  have hrevision : ¬(d.allowlistRevision ≠ payload.allowlistRevision ∨
      d.learningBundleDigest ≠ payload.learningBundleDigest) := by
    rw [not_or, not_not, not_not]
    exact ⟨hrequest.revision.symm, hrequest.learning.symm⟩
  have hpolicy : service.validatePolicyCapabilities d.capabilities d.allowlistRootsDigest
      d.learningBundleDigest = .ok (canonicalCapabilities d.capabilities) := by
    cases h : service.validatePolicyCapabilities d.capabilities d.allowlistRootsDigest
        d.learningBundleDigest with
    | error e =>
      have hok := hvalid.policy
      rw [h] at hok
      cases hok
    | ok capabilities => rw [(validatePolicyCapabilities_eq_ok h).1]
  have hadvance := advanceGeneration_of_lt (hagrees.resumable hpaused)
  unfold EgoBrowserService.resume
  simp only [hexecution, hown, hprofile, reject_of_not hstate, reject_of_not hrevision, hpolicy,
    hrequest.proof, hadvance, ok_bind]
  rfl

/-- In every state of a run whose steps meet their condition, each paused binding of a valid
device can be resumed. -/
theorem paused_resume_of_steps [Sha256] {actions : List (Instant × EgoBrowserAction)}
    (h : StepsKeep service actions) : PausedResume service (service.run actions).db := by
  have hagreed := Agreed.run h
  have hfenced : Fenced (service.run actions).db (service.run actions).events :=
    Fenced.run actions
  intro b hb hpaused d hd hvalid now user payload deviceId hrequest
  have hchecked : b.status.checked = true := by
    rw [hpaused]
    rfl
  obtain ⟨e, he, hagrees⟩ := hagreed.agrees b hb hchecked
  obtain rfl := Option.some.inj (hd.symm.trans he)
  have hresume := resume_of_agrees now hfenced.ids hb hd (hagreed.enabled b hb) hpaused
    hagrees hvalid hrequest
  have hget : (service.resume (service.run actions).db now user b.id payload deviceId).db.getBinding
      b.id = some (service.resumed b d now) := by
    rw [hresume]
    change ((service.run actions).db.supersede b (service.resumed b d now)
      "resume_generation_change").getBinding b.id = _
    have hsame : b.id = (service.resumed b d now).id := rfl
    rw [getBinding_replace (bindings_supersede ..), if_pos hsame]
    have hold : (service.run actions).db.getBinding b.id = some b := lookup_of_mem hfenced.ids hb
    rw [hold, Option.map_some]
  refine ⟨service.resumed b d now, ?_, hget, rfl, rfl, rfl, rfl, rfl⟩
  rw [hresume]

/-! ### A policy change under a live binding -/

/-- The registered device comes again with the next revision of its allowlist. -/
def sampleRegistration : EgoBrowserAction :=
  .registerDevice sampleUser
    { deviceId := 2, publicKey := sampleKey, encryptionPublicKey := some sampleKey
      generation := 1, enrollmentMode := .initial, releaseProfile := .developmentLocal
      credentialProfile := .communityFile, platform := "macos".toList
      bridgeProtocolVersion := egoBrowserProtocol, bridgeVersion := none
      localEgoBrowserRuntimeVersion := some [], egoLiteRuntimeVersion := some []
      skillVersion := some [], signerCertificateSha256 := "development".toList
      allowlistRevision := 2, allowlistRootsDigest := none, learningBundleDigest := none
      capabilities := requiredCapabilities, policyDigest := none, capabilityDigest := none
      proof := {} } .registerDevice false false

/-- The current generation and the device's revision and digest. -/
def sampleResume : EgoBrowserResumeRequest where
  generation := 2
  allowlistRevision := 2
  learningBundleDigest := none
  proof := {}

/-- The registration pauses the active binding and writes the device only, so the resumption
that names the device's policy is refused. -/
theorem policy_change_strands :
    let db := (@EgoBrowserService.run ⟨fun _ => []⟩ sampleService
      (sampleHistory ++ [(1000000, sampleRegistration)])).db
    (∃ b ∈ db.bindings, b.id = 3 ∧ b.status = .paused ∧
        b.stopReason = some "local_policy_changed") ∧
      ¬PausedResume sampleService db ∧
      (sampleService.resume db 2000000 sampleUser 3 sampleResume (some 2)).result =
        .error (EgoBrowserFailure.apiError "EGO_BROWSER_PROFILE_MISMATCH"
          "The binding release identity no longer matches the registered device." 409) := by
  let hash : Sha256 := ⟨fun _ => []⟩
  intro db
  have hrun : (∃ b ∈ db.getBinding 3, b.status = .paused ∧ b.generation = 2 ∧ b.userId = 1 ∧
        b.egoBrowserDeviceId = 2 ∧ b.stopReason = some "local_policy_changed") ∧
      (∃ d ∈ db.getDevice 2, d.status = .active ∧ d.allowlistRevision = 2 ∧
        d.allowlistRootsDigest = none ∧ d.learningBundleDigest = none ∧
        (sampleService.validateProfile d.releaseProfile d.credentialProfile
          d.signerCertificateSha256).isOk = true ∧
        (sampleService.validatePolicyCapabilities d.capabilities d.allowlistRootsDigest
          d.learningBundleDigest).isOk = true ∧
        sampleService.validateDevicePop d 2 .resumeBinding (some 3) {} = .ok ()) ∧
      (sampleService.resume db 2000000 sampleUser 3 sampleResume (some 2)).result =
        .error (EgoBrowserFailure.apiError "EGO_BROWSER_PROFILE_MISMATCH"
          "The binding release identity no longer matches the registered device." 409) := by
    decide +kernel
  obtain ⟨⟨b, hb, hpaused, hgen, huser, hdid, hreason⟩, ⟨d, hd, hactive, hrevision, hroots,
    hlearning, hprofile, hpolicy, hproof⟩, hrefused⟩ := hrun
  have hid : b.id = 3 := key_of_lookup hb
  refine ⟨⟨b, mem_of_lookup hb, hid, hpaused, hreason⟩, fun h => ?_, hrefused⟩
  have hvalid : ValidDevice sampleService d := by
    refine ⟨hactive, hprofile, hpolicy, ?_, ?_⟩
    · rw [hroots]
      exact fun _ hmem => (nomatch hmem)
    · rw [hlearning]
      exact fun _ hmem => (nomatch hmem)
  have hrequest : ResumesBinding sampleService b d sampleUser sampleResume (some 2) :=
    { user := huser.symm
      device := fun id hmem => (Option.some.inj hmem).symm.trans hdid.symm
      generation := hgen.symm
      revision := hrevision.symm
      learning := hlearning.symm
      proof := by
        rw [hgen, hid]
        exact hproof }
  obtain ⟨resumed, hresumed, -⟩ :=
    h b (mem_of_lookup hb) hpaused d (by rw [hdid]; exact hd) hvalid 2000000 sampleUser
      sampleResume (some 2) hrequest
  rw [hid, hrefused] at hresumed
  cases hresumed

section

variable [Sha256] {actions : List (Instant × EgoBrowserAction)}

lemma StepsKeep.append (h : StepsKeep service actions) {action : EgoBrowserAction}
    (hkeeps : KeepsAgreement service (service.run actions).db action) :
    StepsKeep service (actions ++ [(now, action)]) := by
  intro before time other after hsplit
  rcases List.eq_nil_or_concat after with rfl | ⟨after', last, rfl⟩
  · obtain ⟨rfl, hlast⟩ := List.append_inj' hsplit rfl
    obtain ⟨-, rfl⟩ := Prod.mk.inj (List.singleton_inj.mp hlast)
    exact hkeeps
  · have hsplit' : actions ++ [(now, action)] = (before ++ (time, other) :: after') ++ [last] := by
      rw [hsplit]
      simp
    exact h before time other after' (List.append_inj' hsplit' rfl).1

end

/-- The user pauses the active binding of the sample, and it can be resumed. -/
theorem paused_resume_sample :
    PausedResume sampleService (@EgoBrowserService.run ⟨fun _ => []⟩ sampleService
      (sampleHistory ++ [(1000000, .pauseByUser sampleUser 3 1)])).db := by
  let hash : Sha256 := ⟨fun _ => []⟩
  have hroom : ∀ b ∈ (sampleService.run sampleHistory).db.getBinding 3,
      b.status.live = true → b.generation + 1 < maxActiveEgoBrowserGeneration := by
    obtain ⟨⟨b₀, hb₀, -, hgeneration, -⟩, -⟩ := sample_runs
    intro b hb _
    rw [Option.mem_unique hb hb₀, hgeneration]
    decide
  have hempty : StepsKeep sampleService [] := by
    intro before now action after h
    cases before <;> cases h
  have hsample : StepsKeep sampleService sampleHistory := by
    change StepsKeep sampleService ((([] ++ [_]) ++ [_]) ++ [_])
    apply StepsKeep.append
    · apply StepsKeep.append
      · apply StepsKeep.append hempty
        intro d hd
        cases hd
      · trivial
    · intro hproduction
      cases hproduction
  exact paused_resume_of_steps (hsample.append hroom)

end AgentRemote
