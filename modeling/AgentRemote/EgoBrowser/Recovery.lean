import AgentRemote.EgoBrowser.Activation
import AgentRemote.EgoBrowser.Enrollment

/-!
# Replays of an enrolment

What a request whose key is recorded does. The device proves itself by a one-time challenge
before the cache is read, so a request whose cache has run out and that is not a recoverable
rotation registers again with a challenge that is gone.
-/

namespace AgentRemote.DeviceEnrollment
open Library EgoBrowserFailure EnrollmentService EnrollmentTables Pop

variable {e : EnrollmentService} {s : EnrollmentTables} {now : Instant} {user : EgoBrowserUser}
  {call : EnsureCall} {options : EnsureOptions} {fresh : FreshCredential} {keyHash : Text}
  {request : EgoBrowserEnsureRequest} {device : EgoBrowserDevice}

/-- The error of a challenge that was used before. -/
def challengeInvalid : EgoBrowserFailure :=
  apiError "EGO_BROWSER_POP_CHALLENGE_INVALID"
    "The proof-of-possession challenge is expired, replayed, or mismatched." 403

/-! ### The cache of a record -/

/-- The cached credential and token of a record, complete and of its device. -/
structure Cached (e : EnrollmentService) (s : EnrollmentTables)
    (request : EgoBrowserEnsureRequest) (device : EgoBrowserDevice)
    (credential : DeviceCredential) (rawToken : Text) : Prop where
  columns : ∃ id token revision, cachedColumns request =
      some (id, token, revision, credential.expiresAt) ∧ s.getCredential id = some credential ∧
    cacheMatches request revision credential device = true ∧ e.decryptText token = some rawToken
  hash : e.hashToken rawToken = credential.tokenHash

/-- The cached result and credential are live. -/
structure Live (e : EnrollmentService) (s : EnrollmentTables) (now : Instant)
    (request : EgoBrowserEnsureRequest) (device : EgoBrowserDevice)
    (credential : DeviceCredential) (rawToken : Text) : Prop where
  cached : Cached e s request device credential rawToken
  window : resultExpired request now = false
  unexpired : now < credential.expiresAt
  active : credential.status = .active

/-- The cached result or the cached credential has expired. -/
def Expired (e : EnrollmentService) (s : EnrollmentTables) (now : Instant)
    (request : EgoBrowserEnsureRequest) (device : EgoBrowserDevice) : Prop :=
  resultExpired request now = true ∨ ∃ credential rawToken,
    Cached e s request device credential rawToken ∧ credential.expiresAt ≤ now ∧
      (credential.status = .active ∨ credential.status = .expired)

/-- What a replay returns for a live cache. -/
def cachedIssue (now : Instant) (credential : DeviceCredential) (rawToken : Text) :
    DeviceCredentialIssue where
  credential := credential
  rawToken := rawToken
  expiresIn := max 1 ((credential.expiresAt - now) / 1000000)

/-- The replay in its three outcomes. -/
lemma replayEnsureRequest_eq_ok (hd : s.tables.getDevice request.egoBrowserDeviceId = some device)
    {found : Option (EgoBrowserDevice × DeviceCredentialIssue)}
    (h : e.replayEnsureRequest s now request = .ok found) :
    (found = none ∧ Expired e s now request device) ∨
      ∃ credential rawToken, found = some (device, cachedIssue now credential rawToken) ∧
        Live e s now request device credential rawToken := by
  unfold EnrollmentService.replayEnsureRequest at h
  by_cases hwindow : resultExpired request now = true
  · rw [if_pos hwindow] at h
    exact Or.inl ⟨(Except.ok.inj h).symm, Or.inl hwindow⟩
  rw [if_neg hwindow] at h
  cases hcolumns : cachedColumns request with
  | none => simp [hcolumns] at h
  | some columns =>
    obtain ⟨id, token, revision, expiresAt⟩ := columns
    cases hcredential : s.getCredential id with
    | none => simp [hcolumns, hcredential] at h
    | some credential =>
      simp only [hcolumns, hcredential, hd, reject_bind_eq_ok, not_not, Bool.not_eq_false] at h
      obtain ⟨hmatches, hexpiry, h⟩ := h
      cases htoken : e.decryptText token with
      | none => simp [htoken] at h
      | some rawToken =>
        simp only [htoken, reject_bind_eq_ok, not_not] at h
        obtain ⟨hhash, h⟩ := h
        have hcached : Cached e s request device credential rawToken :=
          ⟨⟨id, token, revision, hexpiry ▸ hcolumns, hcredential, hmatches, htoken⟩, hhash⟩
        by_cases hended : credential.expiresAt ≤ now
        · rw [if_pos hended, reject_bind_eq_ok] at h
          obtain ⟨hstatus, h⟩ := h
          refine Or.inl ⟨(Except.ok.inj h).symm, Or.inr ⟨credential, rawToken, hcached, hended, ?_⟩⟩
          by_contra hother
          exact hstatus (not_or.mp hother)
        · rw [if_neg hended, reject_bind_eq_ok] at h
          obtain ⟨hstatus, h⟩ := h
          have hlive : Live e s now request device credential rawToken :=
            ⟨hcached, by simpa using hwindow, not_le.mp hended, not_not.mp hstatus⟩
          exact Or.inr ⟨credential, rawToken, (Except.ok.inj h).symm, hlive⟩

lemma replay_of_cached (hd : s.tables.getDevice request.egoBrowserDeviceId = some device)
    {credential : DeviceCredential} {rawToken : Text}
    (hcached : Cached e s request device credential rawToken)
    (hwindow : resultExpired request now = false) :
    e.replayEnsureRequest s now request =
      if credential.expiresAt ≤ now then
        (do reject (credential.status ≠ .active ∧ credential.status ≠ .expired)
              (resultInvalid "The cached ensure credential has an invalid status.")
            pure none)
      else
        (do reject (credential.status ≠ .active)
              (resultInvalid "The cached ensure credential has an invalid status.")
            pure (some (device, cachedIssue now credential rawToken))) := by
  obtain ⟨⟨id, token, revision, hcolumns, hcredential, hmatches, htoken⟩, hhash⟩ := hcached
  have hopen : ¬resultExpired request now = true := by simp [hwindow]
  have hsame : ¬cacheMatches request revision credential device = false := by simp [hmatches]
  unfold EnrollmentService.replayEnsureRequest
  rw [if_neg hopen]
  simp only [hcolumns, hcredential, hd, reject_of_not hsame, htoken, ok_bind,
    reject_of_not (not_not.mpr rfl), reject_of_not (not_not.mpr hhash)]
  rfl

lemma replay_of_live (hd : s.tables.getDevice request.egoBrowserDeviceId = some device)
    {credential : DeviceCredential} {rawToken : Text}
    (h : Live e s now request device credential rawToken) :
    e.replayEnsureRequest s now request =
      .ok (some (device, cachedIssue now credential rawToken)) := by
  rw [replay_of_cached hd h.cached h.window, if_neg (not_le.mpr h.unexpired),
    reject_of_not (not_not.mpr h.active)]
  rfl

lemma replay_of_expired (hd : s.tables.getDevice request.egoBrowserDeviceId = some device)
    (h : Expired e s now request device) : e.replayEnsureRequest s now request = .ok none := by
  by_cases hwindow : resultExpired request now = true
  · unfold EnrollmentService.replayEnsureRequest
    rw [if_pos hwindow]
    rfl
  · obtain hexpired | ⟨credential, rawToken, hcached, hended, hstatus⟩ := h
    · exact absurd hexpired hwindow
    · have hallowed : ¬(credential.status ≠ .active ∧ credential.status ≠ .expired) := by
        rintro ⟨hactive, hexpired⟩
        rcases hstatus with h | h
        · exact hactive h
        · exact hexpired h
      rw [replay_of_cached hd hcached (by simpa using hwindow), if_pos hended,
        reject_of_not hallowed]
      rfl

/-- A cache is live or expired, never both. -/
lemma not_expired_of_live (hd : s.tables.getDevice request.egoBrowserDeviceId = some device)
    {credential : DeviceCredential} {rawToken : Text}
    (h : Live e s now request device credential rawToken) :
    ¬Expired e s now request device := by
  intro hexpired
  have hlive := replay_of_live hd h
  rw [replay_of_expired hd hexpired] at hlive
  cases hlive

/-- A replay never fails for its challenge. -/
lemma replay_fails : FailsWith (· ≠ challengeInvalid) (e.replayEnsureRequest s now request) := by
  have hinvalid : ∀ message, resultInvalid message ≠ challengeInvalid := by
    intro message h
    exact absurd (EgoBrowserFailure.apiError.inj h).1 (by decide)
  unfold EnrollmentService.replayEnsureRequest
  split_ifs
  · exact failsWith_ok _
  split
  next => exact failsWith_error.mpr (hinvalid _)
  next credentialId token revision expiresAt _ =>
    split
    next credential device _ _ =>
      refine FailsWith.reject_bind (hinvalid _) fun _ => ?_
      refine FailsWith.reject_bind (hinvalid _) fun _ => ?_
      split
      next => exact failsWith_error.mpr (hinvalid _)
      next rawToken _ =>
        refine FailsWith.reject_bind (hinvalid _) fun _ => ?_
        split_ifs
        · exact FailsWith.reject_bind (hinvalid _) fun _ => failsWith_ok _
        · exact FailsWith.reject_bind (hinvalid _) fun _ => failsWith_ok _
    next => exact failsWith_error.mpr (hinvalid _)

/-! ### The issue of a credential -/

lemma validateDeviceOrigin_eq_ok_iff {service : EgoBrowserService} {u : Unit} :
    service.validateDeviceOrigin device = .ok u ↔
      ∀ origin ∈ device.serverOrigin, origin = service.settings.publicOrigin := by
  unfold EgoBrowserService.validateDeviceOrigin
  rw [reject_eq_ok]
  constructor
  · intro h origin hmem
    by_contra hne
    exact h ⟨origin, hmem, hne⟩
  · rintro h ⟨origin, hmem, hne⟩
    exact hne (h origin hmem)

/-- Retired credentials are not active. -/
lemma not_active_of_retire {deviceId : Uuid} {c : DeviceCredential}
    (hc : (EnrollmentService.retire deviceId now c).egoBrowserDeviceId = deviceId) :
    (EnrollmentService.retire deviceId now c).status ≠ .active := by
  unfold EnrollmentService.retire at hc ⊢
  split_ifs at hc ⊢ with h
  · simp
  · exact fun hactive => h ⟨hc, hactive⟩

/-- What an issued credential found and left. -/
lemma issueDeviceCredential_eq_ok {s' : EnrollmentTables} {issue : DeviceCredentialIssue}
    {deviceId : Uuid} (hd : s.tables.getDevice deviceId = some device)
    (h : e.issueDeviceCredential s now user deviceId fresh = .ok (s', issue)) :
    device.userId = user.id := by
  unfold EnrollmentService.issueDeviceCredential at h
  simp only [hd, bind_eq_ok, reject_eq_ok, exists_const, not_or, not_not] at h
  obtain ⟨_, -, ⟨howner, -⟩, -⟩ := h
  exact howner

/-- The tables after a credential was issued. -/
def issuedTables (e : EnrollmentService) (s : EnrollmentTables) (now : Instant)
    (user : EgoBrowserUser) (device : EgoBrowserDevice) (fresh : FreshCredential) :
    EnrollmentTables where
  tables := s.tables.setDevice (e.service.bindLegacyDeviceOrigin device)
  credentials := s.credentials.map (EnrollmentService.retire device.id now) ++
    [e.newCredential s now user device fresh]
  requests := s.requests

lemma addCredential_of_fresh {new : DeviceCredential}
    (h : ∀ c ∈ s.credentials, c.id ≠ new.id ∧ c.tokenHash ≠ new.tokenHash) :
    s.addCredential new = .ok { s with credentials := s.credentials ++ [new] } := by
  have hnew : ¬∃ c ∈ s.credentials, c.id = new.id ∨ c.tokenHash = new.tokenHash := by
    rintro ⟨c, hc, hid | hhash⟩
    · exact (h c hc).1 hid
    · exact (h c hc).2 hhash
  unfold EnrollmentTables.addCredential
  rw [reject_of_not hnew]
  rfl

lemma issueDeviceCredential_of_valid {deviceId : Uuid}
    (henabled : e.service.settings.enrollmentEnabled = true)
    (hd : s.tables.getDevice deviceId = some device) (howner : device.userId = user.id)
    (hactive : device.status = .active)
    (horigin : ∀ origin ∈ device.serverOrigin, origin = e.service.settings.publicOrigin)
    (hfresh : ∀ c ∈ s.credentials, c.id ≠ fresh.id ∧ c.tokenHash ≠ e.hashToken fresh.rawToken) :
    e.issueDeviceCredential s now user deviceId fresh = .ok (issuedTables e s now user device fresh,
      { credential := e.newCredential s now user device fresh
        rawToken := fresh.rawToken, expiresIn := e.credentialTtlSeconds }) := by
  have henrollment : e.service.requireEnrollment = .ok () := reject_of_not (by simp [henabled])
  have hvalid : ¬(device.userId ≠ user.id ∨ device.status ≠ .active) := by
    rw [not_or, not_not, not_not]
    exact ⟨howner, hactive⟩
  have horigin' : e.service.validateDeviceOrigin device = .ok () :=
    validateDeviceOrigin_eq_ok_iff.mpr horigin
  have hnew : ∀ c ∈ s.credentials.map (EnrollmentService.retire device.id now),
      c.id ≠ (e.newCredential s now user device fresh).id ∧
        c.tokenHash ≠ (e.newCredential s now user device fresh).tokenHash := by
    intro c hc
    obtain ⟨c, hmem, rfl⟩ := List.mem_map.mp hc
    have hid : (EnrollmentService.retire device.id now c).id = c.id := by
      unfold EnrollmentService.retire
      split_ifs <;> rfl
    have hhash : (EnrollmentService.retire device.id now c).tokenHash = c.tokenHash := by
      unfold EnrollmentService.retire
      split_ifs <;> rfl
    rw [hid, hhash]
    exact hfresh c hmem
  have hadd : (({ s with
      credentials := s.credentials.map (EnrollmentService.retire device.id now) } :
      EnrollmentTables).setDevice (e.service.bindLegacyDeviceOrigin device)).addCredential
        (e.newCredential s now user device fresh) =
      .ok (issuedTables e s now user device fresh) := addCredential_of_fresh hnew
  unfold EnrollmentService.issueDeviceCredential
  simp only [henrollment, hd, reject_of_not hvalid, horigin', hadd, ok_bind]
  rfl

/-! ### The device of a replay -/

lemma setDevice_self (hn : (s.tables.devices.map EgoBrowserDevice.id).Nodup)
    (hd : device ∈ s.tables.devices) : s.setDevice device = s := by
  have hsame : replace EgoBrowserDevice.id s.tables.devices device = s.tables.devices := by
    unfold replace
    conv_rhs => rw [← List.map_id s.tables.devices]
    apply List.map_congr_left
    intro d hmem
    by_cases hid : d.id = device.id
    · rw [if_pos hid]
      exact (eq_of_key_eq hn hmem hd hid).symm
    · rw [if_neg hid]
      rfl
  unfold EnrollmentTables.setDevice EgoBrowserTables.setDevice
  rw [hsame]

lemma bindLegacyDeviceOrigin_of_isSome {service : EgoBrowserService}
    (h : device.serverOrigin.isSome = true) :
    service.bindLegacyDeviceOrigin device = device := by
  unfold EgoBrowserService.bindLegacyDeviceOrigin
  rw [if_pos h]

/-- A device that gets its origin is written. -/
lemma setDevice_ne (hd : s.tables.getDevice request.egoBrowserDeviceId = some device)
    (hnone : device.serverOrigin = none) {service : EgoBrowserService} :
    s.setDevice (service.bindLegacyDeviceOrigin device) ≠ s := by
  intro hsame
  have hid := key_of_lookup hd
  have hbound : (service.bindLegacyDeviceOrigin device).id = device.id := bindLegacyDeviceOrigin_id
  have hget : (s.setDevice (service.bindLegacyDeviceOrigin device)).tables.getDevice
      request.egoBrowserDeviceId = some (service.bindLegacyDeviceOrigin device) := by
    have hkey : request.egoBrowserDeviceId = (service.bindLegacyDeviceOrigin device).id :=
      hid.symm.trans hbound.symm
    have hset := @getDevice_setDevice s.tables (service.bindLegacyDeviceOrigin device)
      request.egoBrowserDeviceId
    rw [if_pos hkey, hd, Option.map_some] at hset
    exact hset
  rw [hsame, hd] at hget
  have horigin := congrArg EgoBrowserDevice.serverOrigin (Option.some.inj hget)
  unfold EgoBrowserService.bindLegacyDeviceOrigin at horigin
  rw [if_neg (by simp [hnone]), hnone] at horigin
  cases horigin

/-- A recovered rotation finds its device active. -/
lemma active_of_recoversRotation (h : recoversRotation s (some device) call options = .ok true) :
    device.status = .active := by
  unfold recoversRotation at h
  split_ifs at h with hrequired
  · simp only [bind_eq_ok, pure_eq_ok] at h
    obtain ⟨same, hsame, h⟩ := h
    have hboth := of_decide_eq_true (Except.ok.inj h)
    unfold rotationRecoveryMatches at hsame
    simp only [bind_eq_ok, pure_eq_ok] at hsame
    obtain ⟨publicKey, -, encryptionKey, -, hsame⟩ := hsame
    have hfields := of_decide_eq_true ((Except.ok.inj hsame).trans hboth.1)
    exact hfields.2.1
  · cases h

/-! ### A challenge that is gone -/

lemma validatePop_consumed {service : EgoBrowserService} {publicKey : Text} {userId deviceId : Uuid}
    {deviceGeneration operationGeneration : ℕ} {releaseProfile : EgoBrowserReleaseProfile}
    {credentialProfile : EgoBrowserCredentialProfile} {operation : EgoBrowserProofOperation}
    {bindingId : Option Uuid} {proof : SubmittedProof} {u : Unit}
    (hrequired : service.settings.requireDevicePop = true) :
    service.validatePop publicKey userId deviceId deviceGeneration operationGeneration
      releaseProfile credentialProfile operation bindingId (consumed service proof) ≠ .ok u := by
  intro h
  have hgone : (consumed service proof).claims = none := by
    unfold consumed
    rw [if_pos hrequired]
  unfold EgoBrowserService.validatePop at h
  rw [if_neg (by simp [hrequired])] at h
  split at h
  · simp only [reject_bind_eq_ok, reject_eq_ok, hgone] at h
    exact h.2.2 (by simp)
  · cases h

/-- A registration with a consumed challenge is refused. -/
lemma enroll_consumed [Sha256] {fingerprint : Text} {recorded : Option EgoBrowserEnsureRequest}
    {proof : SubmittedProof} (hrequired : e.service.settings.requireDevicePop = true) :
    ∃ failure, e.enroll s now user call options fresh keyHash fingerprint recorded
      (consumed e.service proof) = .error failure := by
  cases h : e.enroll s now user call options fresh keyHash fingerprint recorded
      (consumed e.service proof) with
  | error failure => exact ⟨failure, rfl⟩
  | ok r =>
    unfold EnrollmentService.enroll at h
    rw [bind_eq_ok] at h
    obtain ⟨registered, hregistered, -⟩ := h
    obtain ⟨db', publish, hx, -⟩ := ofExcept_eq_ok hregistered
    simp only [bind_eq_ok, reject_eq_ok, exists_const] at hx
    obtain ⟨_, -, -, _, -, _, -, _, -, _, -, _, -, _, -, _, -, _, hpop, -⟩ := hx
    exact absurd hpop (validatePop_consumed hrequired)

/-! ### A request whose key is recorded -/

/-- What the answer to such a request should be. -/
structure Idempotent (e : EnrollmentService) (s : EnrollmentTables) (now : Instant)
    (fresh : FreshCredential) (request : EgoBrowserEnsureRequest) (device : EgoBrowserDevice)
    (response : EnrollmentResponse) : Prop where
  /-- It does not fail for a challenge that it consumed itself. -/
  challenge : response.result ≠ .error challengeInvalid
  /-- A live cache is returned and nothing changes. -/
  live : ∀ credential rawToken, Live e s now request device credential rawToken →
    response.state = s ∧ response.result = .ok (device, cachedIssue now credential rawToken)
  /-- For an expired cache the device gets one new credential of its generation. -/
  expired : Expired e s now request device → ∃ registered issue,
    response.result = .ok (registered, issue) ∧ issue.rawToken = fresh.rawToken ∧
      registered.id = device.id ∧ registered.generation = device.generation ∧
      response.state.tables.getDevice device.id = some registered ∧
      response.state.credentials =
        s.credentials.map (EnrollmentService.retire device.id now) ++ [issue.credential] ∧
      issue.credential.egoBrowserDeviceId = device.id ∧
      issue.credential.generation = device.generation ∧ issue.credential.status = .active ∧
      ∀ c ∈ response.state.credentials, c.egoBrowserDeviceId = device.id →
        c.status = .active → c = issue.credential

/-- The cache is live and its device has the origin of the server, or the request recovers a
rotation of its user's device. -/
structure Recoverable (e : EnrollmentService) (s : EnrollmentTables) (now : Instant)
    (user : EgoBrowserUser) (call : EnsureCall) (options : EnsureOptions)
    (request : EgoBrowserEnsureRequest) (device : EgoBrowserDevice) : Prop where
  live : ∀ credential rawToken, Live e s now request device credential rawToken →
    device.serverOrigin = some e.service.settings.publicOrigin
  expired : Expired e s now request device →
    recoversRotation s (some device) call options = .ok true ∧ device.userId = user.id ∧
      ∀ origin ∈ device.serverOrigin, origin = e.service.settings.publicOrigin

/-- The device of an answered replay has its origin written. -/
lemma live_iff (hd : s.tables.getDevice request.egoBrowserDeviceId = some device)
    (hn : (s.tables.devices.map EgoBrowserDevice.id).Nodup)
    (horigin : ∀ origin ∈ device.serverOrigin, origin = e.service.settings.publicOrigin)
    {credential : DeviceCredential} {rawToken : Text}
    (hlive : Live e s now request device credential rawToken) :
    Idempotent e s now fresh request device
      { state := s.setDevice (e.service.bindLegacyDeviceOrigin device)
        result := .ok (e.service.bindLegacyDeviceOrigin device,
          cachedIssue now credential rawToken) } ↔
      Recoverable e s now user call options request device := by
  have hunexpired := not_expired_of_live hd hlive
  constructor
  · intro hi
    constructor
    · intro _ _ _
      have hstate := (hi.live credential rawToken hlive).1
      cases hserver : device.serverOrigin with
      | none => exact absurd hstate (setDevice_ne hd hserver)
      | some origin =>
        rw [hserver] at horigin
        rw [horigin origin rfl]
    · exact fun hexpired => absurd hexpired hunexpired
  · intro hr
    have hsome : device.serverOrigin.isSome = true := by
      rw [hr.live credential rawToken hlive]
      rfl
    rw [bindLegacyDeviceOrigin_of_isSome hsome, setDevice_self hn (mem_of_lookup hd)]
    constructor
    · intro h
      cases h
    · intro credential' rawToken' hlive'
      have hsame := (replay_of_live hd hlive).symm.trans (replay_of_live hd hlive')
      have hissue := congrArg Prod.snd (Option.some.inj (Except.ok.inj hsame))
      exact ⟨rfl, congrArg (fun issue => Except.ok (device, issue)) hissue⟩
    · exact fun hexpired => absurd hexpired hunexpired

/-- The answer of a recovered rotation. -/
def recoveredResponse (e : EnrollmentService) (s : EnrollmentTables) (now : Instant)
    (user : EgoBrowserUser) (fresh : FreshCredential) (request : EgoBrowserEnsureRequest)
    (device : EgoBrowserDevice) : EnrollmentResponse :=
  let issue : DeviceCredentialIssue :=
    { credential := e.newCredential s now user device fresh
      rawToken := fresh.rawToken, expiresIn := e.credentialTtlSeconds }
  { state := (issuedTables e s now user device fresh).setRequest (e.withResult request now issue)
    result := .ok (e.service.bindLegacyDeviceOrigin device, issue) }

/-- A recovered rotation leaves one active credential, of the same generation. -/
lemma idempotent_of_recovered (hd : s.tables.getDevice request.egoBrowserDeviceId = some device)
    (hexpired : Expired e s now request device) :
    Idempotent e s now fresh request device
      (recoveredResponse e s now user fresh request device) := by
  constructor
  · intro h
    cases h
  · intro credential rawToken hlive
    exact absurd hexpired (not_expired_of_live hd hlive)
  · intro _
    have hid : (e.service.bindLegacyDeviceOrigin device).id = device.id := bindLegacyDeviceOrigin_id
    have hgeneration : (e.service.bindLegacyDeviceOrigin device).generation =
        device.generation := by
      unfold EgoBrowserService.bindLegacyDeviceOrigin
      split_ifs <;> rfl
    have hwritten : (recoveredResponse e s now user fresh request device).state.tables.getDevice
        device.id = some (e.service.bindLegacyDeviceOrigin device) := by
      have hset := @getDevice_setDevice s.tables (e.service.bindLegacyDeviceOrigin device) device.id
      have hfound : s.tables.getDevice device.id = some device := by
        rw [key_of_lookup hd]
        exact hd
      rw [if_pos hid.symm, hfound, Option.map_some] at hset
      exact hset
    refine ⟨_, _, rfl, rfl, hid, hgeneration, hwritten, rfl, rfl, rfl, rfl, ?_⟩
    intro c hc hdevice hactive
    rcases List.mem_append.mp hc with hold | hnew
    · obtain ⟨old, -, rfl⟩ := List.mem_map.mp hold
      exact absurd hactive (not_active_of_retire hdevice)
    · exact List.mem_singleton.mp hnew

/-- A device of another origin has no live cache and recovers nothing. -/
lemma foreign_iff
    (horigin : ¬∀ origin ∈ device.serverOrigin, origin = e.service.settings.publicOrigin)
    {response : EnrollmentResponse} {failure : EgoBrowserFailure}
    (hother : failure ≠ challengeInvalid)
    (hfailed : response.result = .error failure) :
    Idempotent e s now fresh request device response ↔
      Recoverable e s now user call options request device := by
  constructor
  · intro hi
    constructor
    · intro credential rawToken hlive
      have hresult := (hi.live credential rawToken hlive).2
      rw [hfailed] at hresult
      cases hresult
    · intro hexpired
      obtain ⟨registered, issue, hresult, -⟩ := hi.expired hexpired
      rw [hfailed] at hresult
      cases hresult
  · intro hr
    constructor
    · rw [hfailed]
      exact fun heq => hother (Except.error.inj heq)
    · intro credential rawToken hlive
      refine absurd ?_ horigin
      intro origin hmem
      rw [hr.live credential rawToken hlive] at hmem
      exact (Option.some.inj hmem).symm
    · intro hexpired
      exact absurd (hr.expired hexpired).2.2 horigin

/-- A request that gets no credential is idempotent only without a live or expired cache. -/
lemma idempotent_of_error {response : EnrollmentResponse} {failure : EgoBrowserFailure}
    (hresult : response.result = .error failure)
    (hi : Idempotent e s now fresh request device response) :
    ¬Expired e s now request device := by
  intro hexpired
  obtain ⟨registered, issue, hissued, -⟩ := hi.expired hexpired
  rw [hresult] at hissued
  cases hissued

/-- A request with an expired cache that fails is not idempotent. -/
lemma refused_iff {response : EnrollmentResponse} {failure : EgoBrowserFailure}
    (hexpired : Expired e s now request device)
    (hlost : ¬(recoversRotation s (some device) call options = .ok true ∧ device.userId = user.id ∧
      ∀ origin ∈ device.serverOrigin, origin = e.service.settings.publicOrigin))
    (hresult : response.result = .error failure) :
    Idempotent e s now fresh request device response ↔
      Recoverable e s now user call options request device := by
  constructor
  · intro hi
    exact absurd hexpired (idempotent_of_error hresult hi)
  · intro hr
    exact absurd (hr.expired hexpired) hlost

/-- Without a live or an expired cache the answer only has to name another error. -/
lemma lost_iff {failure : EgoBrowserFailure} (hother : failure ≠ challengeInvalid)
    (hdead : ∀ credential rawToken, ¬Live e s now request device credential rawToken)
    (hunexpired : ¬Expired e s now request device) :
    Idempotent e s now fresh request device { state := s, result := .error failure } ↔
      Recoverable e s now user call options request device := by
  constructor
  · intro _
    constructor
    · intro credential rawToken hlive
      exact absurd hlive (hdead credential rawToken)
    · exact fun hexpired => absurd hexpired hunexpired
  · intro _
    constructor
    · exact fun heq => hother (Except.error.inj heq)
    · intro credential rawToken hlive
      exact absurd hlive (hdead credential rawToken)
    · exact fun hexpired => absurd hexpired hunexpired

section

variable [Sha256]

/-- The request repeats a recorded one, and its device proves itself by an unused challenge. -/
structure Repeats (e : EnrollmentService) (s : EnrollmentTables) (user : EgoBrowserUser)
    (call : EnsureCall) (options : EnsureOptions) (fresh : FreshCredential)
    (request : EgoBrowserEnsureRequest) (device : EgoBrowserDevice) : Prop where
  enabled : e.service.settings.enrollmentEnabled = true
  recorded : ∃ key, e.ensureKey call options.idempotencyKey (options.strict call) = .ok key ∧
    s.getEnsureRequest user.id options.logicalOperation (e.hashToken key) = some request
  fingerprint : ensureFingerprint call = .ok request.requestFingerprint
  known : s.tables.getDevice request.egoBrowserDeviceId = some device
  ids : (s.tables.devices.map EgoBrowserDevice.id).Nodup
  required : e.service.settings.requireDevicePop = true
  proof : e.service.validateDevicePop device device.generation options.proofOperation none
    call.payload.proof = .ok ()
  fresh : ∀ c ∈ s.credentials, c.id ≠ fresh.id ∧ c.tokenHash ≠ e.hashToken fresh.rawToken

lemma Repeats.ensureDevice_eq (h : Repeats e s user call options fresh request device) :
    ∃ keyHash, e.ensureDevice s now user call options fresh = .ofExcept s
      (e.replayed s now user call options fresh keyHash request.requestFingerprint request) := by
  obtain ⟨key, hkey, hrecorded⟩ := h.recorded
  have henrollment : e.service.requireEnrollment = .ok () :=
    reject_of_not (by simp [h.enabled])
  refine ⟨e.hashToken key, ?_⟩
  unfold EnrollmentService.ensureDevice
  simp only [henrollment, hkey, h.fingerprint, hrecorded, ok_bind]

/-- A device of another origin is refused before anything else. -/
lemma Repeats.replayed_foreign (h : Repeats e s user call options fresh request device)
    (horigin : ¬∀ origin ∈ device.serverOrigin, origin = e.service.settings.publicOrigin) :
    ∃ failure, failure ≠ challengeInvalid ∧
      e.replayed s now user call options fresh keyHash request.requestFingerprint request =
        .error failure := by
  have hforeign : ∃ origin ∈ device.serverOrigin, origin ≠ e.service.settings.publicOrigin := by
    push Not at horigin
    exact horigin
  refine ⟨apiError "EGO_BROWSER_IDENTITY_ORIGIN_CONFLICT"
    "The device identity belongs to a different Server origin." 409, by decide, ?_⟩
  have hrefused : e.service.validateDeviceOrigin device = .error
      (apiError "EGO_BROWSER_IDENTITY_ORIGIN_CONFLICT"
        "The device identity belongs to a different Server origin." 409) := reject_of hforeign
  unfold EnrollmentService.replayed EnrollmentService.authenticateReplay
  simp only [reject_of_not (not_not.mpr rfl), ok_bind, h.known, hrefused, error_bind]

/-- The answer of an authenticated replay, by what the cache holds. -/
lemma Repeats.replayed_eq (h : Repeats e s user call options fresh request device)
    (horigin : ∀ origin ∈ device.serverOrigin, origin = e.service.settings.publicOrigin) :
    e.replayed s now user call options fresh keyHash request.requestFingerprint request =
      e.replayEnsureRequest s now request >>= fun found =>
        match found with
        | some (found, issue) =>
          pure (s.setDevice (e.service.bindLegacyDeviceOrigin found),
            e.service.bindLegacyDeviceOrigin found, issue)
        | none => recoversRotation s (some device) call options >>= fun recovers =>
          match some device, recovers with
          | some device, true => do
            let (issued, issue) ← e.issueDeviceCredential s now user device.id fresh
            pure (issued.setRequest (e.withResult request now issue),
              e.service.bindLegacyDeviceOrigin device, issue)
          | _, _ => e.enroll s now user call options fresh keyHash request.requestFingerprint
              (some request) (consumed e.service call.payload.proof) := by
  have horigin' : e.service.validateDeviceOrigin device = .ok () :=
    validateDeviceOrigin_eq_ok_iff.mpr horigin
  unfold EnrollmentService.replayed EnrollmentService.authenticateReplay
  simp only [reject_of_not (not_not.mpr rfl), ok_bind, h.known, horigin', h.proof, pure_eq_ok]
  all_goals rfl

/-- A recovered rotation of the user's own device succeeds, of another's it does not. -/
lemma Repeats.recovers_iff (h : Repeats e s user call options fresh request device)
    (horigin : ∀ origin ∈ device.serverOrigin, origin = e.service.settings.publicOrigin)
    (hexpired : Expired e s now request device)
    (hrecovers : recoversRotation s (some device) call options = .ok true) :
    Idempotent e s now fresh request device
      (.ofExcept s (e.issueDeviceCredential s now user device.id fresh >>= fun issued =>
        pure (issued.1.setRequest (e.withResult request now issued.2),
          e.service.bindLegacyDeviceOrigin device, issued.2))) ↔
      Recoverable e s now user call options request device := by
  have hid : device.id = request.egoBrowserDeviceId := key_of_lookup h.known
  have hd : s.tables.getDevice device.id = some device := hid.symm ▸ h.known
  by_cases howner : device.userId = user.id
  · have hactive := active_of_recoversRotation hrecovers
    have hissue : e.issueDeviceCredential s now user device.id fresh = _ :=
      issueDeviceCredential_of_valid h.enabled hd howner hactive horigin h.fresh
    have hidempotent : Idempotent e s now fresh request device
        (recoveredResponse e s now user fresh request device) :=
      idempotent_of_recovered h.known hexpired
    rw [hissue]
    constructor
    · intro _
      constructor
      · intro credential rawToken hlive
        exact absurd hexpired (not_expired_of_live h.known hlive)
      · exact fun _ => ⟨hrecovers, howner, horigin⟩
    · exact fun _ => hidempotent
  · cases hissue : e.issueDeviceCredential s now user device.id fresh with
    | ok issued => exact absurd (issueDeviceCredential_eq_ok hd hissue) howner
    | error failure => exact refused_iff hexpired (fun hr => howner hr.2.1) rfl

/-- A repeated request is answered idempotently exactly when its live cache is of a device with
the server's origin, or its expired cache is that of a recoverable rotation. -/
theorem ensure_idempotent_iff (h : Repeats e s user call options fresh request device) :
    Idempotent e s now fresh request device (e.ensureDevice s now user call options fresh) ↔
      Recoverable e s now user call options request device := by
  have hd := h.known
  obtain ⟨keyHash, hensure⟩ : ∃ keyHash, e.ensureDevice s now user call options fresh =
      .ofExcept s (e.replayed s now user call options fresh keyHash request.requestFingerprint
        request) := h.ensureDevice_eq
  rw [hensure]
  by_cases horigin : ∀ origin ∈ device.serverOrigin, origin = e.service.settings.publicOrigin
  case neg =>
    obtain ⟨failure, hother, hrefused⟩ := h.replayed_foreign horigin
    exact foreign_iff horigin hother (by rw [hrefused]; rfl)
  rw [h.replayed_eq horigin]
  cases hfound : e.replayEnsureRequest s now request with
  | error failure =>
    apply lost_iff (replay_fails failure hfound)
    · intro credential rawToken hlive
      rw [replay_of_live hd hlive] at hfound
      cases hfound
    · intro hexpired
      rw [replay_of_expired hd hexpired] at hfound
      cases hfound
  | ok found =>
    rw [ok_bind]
    obtain ⟨rfl, hexpired⟩ | ⟨credential, rawToken, rfl, hlive⟩ :=
      replayEnsureRequest_eq_ok hd hfound
    · cases hrecovers : recoversRotation s (some device) call options with
      | error failure =>
        have hlost : ¬recoversRotation s (some device) call options = .ok true := by
          rw [hrecovers]
          exact nofun
        exact refused_iff hexpired (fun hr => hlost hr.1) rfl
      | ok recovers =>
        cases recovers with
        | false =>
          -- the challenge was consumed before the cache was read
          obtain ⟨failure, henroll⟩ : ∃ failure, e.enroll s now user call options fresh keyHash
              request.requestFingerprint (some request)
              (consumed e.service call.payload.proof) = .error failure :=
            enroll_consumed h.required
          have hlost : ¬recoversRotation s (some device) call options = .ok true := by
            rw [hrecovers]
            exact nofun
          have hanswer : (EnrollmentResponse.ofExcept s (e.enroll s now user call options fresh
              keyHash request.requestFingerprint (some request)
              (consumed e.service call.payload.proof))).result = .error failure := by
            rw [henroll]
            rfl
          exact refused_iff hexpired (fun hr => hlost hr.1) hanswer
        | true => exact h.recovers_iff horigin hexpired hrecovers
    · exact live_iff hd h.ids horigin hlive

end

/-! ### A repeated request after the recovery window -/

/-- The sample service with proof of possession. -/
def provingService : EnrollmentService where
  service :=
    { sampleService with
      settings := { sampleService.settings with requireDevicePop := true }
      relayStore := true
      verifyPop := fun _ _ signature => signature = "signed".toList }
  hashToken token := '#' :: token
  encryptText text := '!' :: text
  decryptText
    | '!' :: text => some text
    | _ => none
  isPrintable c := 32 ≤ c.toNat ∧ c.toNat < 127
  credentialTtlSeconds := 900
  ensureResultRetentionSeconds := 300

def sampleIdempotencyKey : Text := "ensure-0000000000000001".toList

/-- The submitted body of the registered device. -/
def sampleBody (mode : EgoBrowserEnrollmentMode) : List (Text × PopValue) :=
  let modeText : String := match mode with
    | .initial => "initial"
    | .ensure => "ensure"
    | .reEnroll => "re_enroll"
    | .rotate => "rotate"
  let text (value : String) : PopValue := .string value.toList
  let fields : List (String × PopValue) :=
    [("device_id", text "00000000-0000-0000-0000-000000000002"),
      ("public_key", .string sampleKey), ("encryption_public_key", .string sampleKey),
      ("signing_public_key", .null), ("generation", .int 1), ("device_generation", .null),
      ("enrollment_mode", text modeText), ("release_profile", text "development-local"),
      ("credential_profile", text "community_file"), ("platform", text "macos"),
      ("bridge_protocol_version", .string egoBrowserProtocol), ("bridge_version", .null),
      ("local_ego_browser_runtime_version", .null), ("ego_lite_runtime_version", .null),
      ("skill_version", .null), ("signer_certificate_sha256", text "development"),
      ("allowlist_revision", .int 1), ("allowlist_roots_digest", .null),
      ("learning_bundle_digest", .null),
      ("capabilities", .list (requiredCapabilities.map .string)), ("policy_digest", .null),
      ("capability_digest", .null)]
  fields.map fun (name, value) => (name.toList, value)

/-- The request of the registered device, with an unused challenge for the operation. -/
def sampleCall (mode : EgoBrowserEnrollmentMode) (operation : EgoBrowserProofOperation) :
    EnsureCall where
  payload :=
    { deviceId := 2, publicKey := sampleKey, encryptionPublicKey := some sampleKey
      generation := 1, enrollmentMode := mode, releaseProfile := .developmentLocal
      credentialProfile := .communityFile, platform := "macos".toList
      bridgeProtocolVersion := egoBrowserProtocol, bridgeVersion := none
      localEgoBrowserRuntimeVersion := none, egoLiteRuntimeVersion := none, skillVersion := none
      signerCertificateSha256 := "development".toList, allowlistRevision := 1
      allowlistRootsDigest := none, learningBundleDigest := none
      capabilities := requiredCapabilities, policyDigest := none, capabilityDigest := none
      proof :=
        { challenge := some "challenge".toList, signature := some "signed".toList
          claims := some
            { userId := 1, egoBrowserDeviceId := 2, operation, generation := 1
              bindingId := none } } }
  body := sampleBody mode
  modeSet := true

def ensureOptions : EnsureOptions := { idempotencyKey := some sampleIdempotencyKey }

/-- The credential that the first request got. -/
def sampleCredential : DeviceCredential where
  id := 7
  userId := 1
  egoBrowserDeviceId := 2
  tokenHash := "#token".toList
  credentialProfile := .communityFile
  generation := 1
  revision := 1
  status := .active
  expiresAt := 900000000
  revokedAt := none

/-- The record of the first request. -/
def sampleRecord (operation : LogicalOperation) : EgoBrowserEnsureRequest where
  userId := 1
  egoBrowserDeviceId := 2
  logicalOperation := operation
  idempotencyKeyHash := '#' :: sampleIdempotencyKey
  requestFingerprint := List.replicate 64 '0'
  credentialId := some 7
  encryptedAccessToken := some "!token".toList
  credentialRevision := some 1
  credentialExpiresAt := some 900000000
  resultExpiresAt := some 300000000
  consumedAt := some 0

/-- The registered device of this server. -/
def enrolledDevice : EgoBrowserDevice :=
  { boundDevice 2 with serverOrigin := some "https://server".toList }

def enrolledTables (operation : LogicalOperation) : EnrollmentTables where
  tables := { devices := [enrolledDevice], bindings := [] }
  credentials := [sampleCredential]
  requests := [sampleRecord operation]

def sampleFresh : FreshCredential := { id := 8, rawToken := "other".toList }

/-- Six minutes after its first answer the same request is refused for the challenge that it
consumed itself. -/
theorem repeated_ensure_refused :
    let _ : Sha256 := ⟨fun _ => List.replicate 64 '0'⟩
    let s := enrolledTables .deviceEnsure
    let call := sampleCall .ensure .registerDevice
    let response := provingService.ensureDevice s 360000000 sampleUser call ensureOptions
      sampleFresh
    Repeats provingService s sampleUser call ensureOptions sampleFresh
        (sampleRecord .deviceEnsure) enrolledDevice ∧
      Expired provingService s 360000000 (sampleRecord .deviceEnsure) enrolledDevice ∧
      response.result = .error challengeInvalid ∧
      ¬Idempotent provingService s 360000000 sampleFresh (sampleRecord .deviceEnsure)
        enrolledDevice response := by
  intro _ s call response
  have hresult : response.result = .error challengeInvalid := by decide +kernel
  refine ⟨?_, Or.inl (by decide +kernel), hresult, fun h => h.challenge hresult⟩
  exact ⟨by decide, ⟨sampleIdempotencyKey, by decide +kernel, by decide +kernel⟩,
    by decide +kernel, by decide +kernel, by decide, by decide, by decide +kernel,
    by decide +kernel⟩

/-- A rotation that is repeated after its recovery window is recovered. -/
theorem repeated_rotation_recovers :
    let _ : Sha256 := ⟨fun _ => List.replicate 64 '0'⟩
    let options := rotateOptions sampleIdempotencyKey
    Idempotent provingService (enrolledTables .deviceRotate) 360000000 sampleFresh
      (sampleRecord .deviceRotate) enrolledDevice
      (provingService.ensureDevice (enrolledTables .deviceRotate) 360000000 sampleUser
        (sampleCall .rotate .deviceRotate) options sampleFresh) := by
  intro _ options
  have hrepeats : Repeats provingService (enrolledTables .deviceRotate) sampleUser
      (sampleCall .rotate .deviceRotate) options sampleFresh (sampleRecord .deviceRotate)
      enrolledDevice :=
    ⟨by decide, ⟨sampleIdempotencyKey, by decide +kernel, by decide +kernel⟩,
      by decide +kernel, by decide +kernel, by decide, by decide, by decide +kernel,
      by decide +kernel⟩
  exact (ensure_idempotent_iff hrepeats).mpr
    ⟨fun _ _ _ => rfl, fun _ => ⟨by decide +kernel, rfl, by decide +kernel⟩⟩

end AgentRemote.DeviceEnrollment
