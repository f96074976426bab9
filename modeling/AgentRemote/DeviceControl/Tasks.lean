import AgentRemote.DeviceControl.Lifecycle

/-!
# The identifiers of the node tasks

Activations and deactivations follow a fresh generation, and a first lease is the first of its
generation. A renewal can offer the lease that the node has been told of, and then fails on the
unique index.
-/

namespace AgentRemote
open Library DeviceControlTables DeviceSessionService

section

variable {db : DeviceControlTables} {s : DeviceSession} {c : DeviceCall}

/-- The node knows the lease a session holds. -/
lemma told_lease (h : DeviceControlSound db) (hs : s ∈ db.sessions) {leaseUntil : Instant}
    (hl : leaseUntil ∈ s.leaseUntil) : Told db s leaseUntil := by
  obtain ⟨t, ht, htid⟩ := h.tasks.leased s hs leaseUntil hl
  rw [h.tasks.payload t ht] at htid
  refine ⟨t, ht, ?_⟩
  cases hpayload : t.payload with
  | context session told caps =>
    rw [hpayload] at htid
    simp only [DeviceControlTaskPayload.taskId, DeviceControlTaskId.updateContext.injEq] at htid
    exact ⟨session, told, caps, rfl, htid⟩
  | activation => simp [hpayload, DeviceControlTaskPayload.taskId] at htid
  | deactivation => simp [hpayload, DeviceControlTaskPayload.taskId] at htid

lemma DeviceCall.integrityError_iff (h : DeviceControlSound db) :
    (c.perform db).result = .error .integrityError ↔ c.RepeatsLease db := by
  have hanswer := answer (c := c) h
  generalize c.perform db = r at hanswer
  cases hanswer with
  | refused hplain hn =>
    refine iff_of_false (fun he => ?_) hn
    obtain rfl := Except.error.inj he
    cases hplain
  | exhausted _ hn => exact iff_of_false nofun hn
  | repeated hr => exact iff_of_true rfl hr
  | expired _ _ hplain hn =>
    refine iff_of_false (fun he => ?_) hn
    obtain rfl := Except.error.inj he
    cases hplain
  | accepted _ hn => exact iff_of_false nofun hn
  | deleted _ _ hn => exact iff_of_false nofun hn

end

/-- A renewal that passes the checks of the service. -/
def DeviceCall.Renews (c : DeviceCall) (db : DeviceControlTables) : Prop :=
  ∃ token id s, c.action = .renew token id s.generation ∧ db.requireDevice token id = .ok s ∧
    s.overdue c.now = false ∧ s.status = .active ∧ Leased s c.now

namespace DeviceCall

variable {db : DeviceControlTables} {c : DeviceCall}

/-- Such a renewal is carried out or finds its task. -/
lemma Renews.result (h : DeviceControlSound db) (hr : c.Renews db) :
    (c.perform db).result = .ok () ∨ (c.perform db).result = .error .integrityError := by
  obtain ⟨service, world, now, action⟩ := c
  obtain ⟨token, id, s, haction, hget, hover, hactive, hleased⟩ := hr
  dsimp only at haction hover hleased
  subst haction
  have hs := (requireDevice_eq_ok hget).1
  suffices hrenew : ∀ r, service.renew db world now token id s.generation = r →
      (∃ a, r.result = .ok a) ∨ r.result = .error .integrityError by
    rcases hrenew _ rfl with ⟨a, ha⟩ | he
    · exact .inl (by simp [perform, DeviceSessionResponse.void, ha, Except.map])
    · exact .inr (by simp [perform, DeviceSessionResponse.void, he, Except.map])
  rintro _ rfl
  unfold renew forDevice
  rw [hget]
  refine requireActiveGeneration_cases (P := fun r : DeviceSessionResponse DeviceSession =>
    (∃ a, r.result = .ok a) ∨ r.result = .error .integrityError) h hs
    (fun hne => absurd rfl hne) (fun _ ho => absurd (hover.symm.trans ho) (by decide))
    (fun _ _ he => absurd (hactive.symm.trans he) (by decide)) (fun _ _ hne => absurd hactive hne)
    (fun _ _ _ hlapsed => absurd hleased hlapsed) fun _ _ _ _ => ?_
  by_cases htold : Told db s (service.grantedLease s now)
  · rw [activate_told h htold]
    exact .inr rfl
  · obtain ⟨db', active, heq, -⟩ := activate_eq service world now true h hs
      (by simp [hactive, DeviceSessionStatus.reconnectable]) htold
    rw [heq]
    exact .inl ⟨_, rfl⟩

end DeviceCall

/-- No call of a run fails on a task that exists, and every renewal that passes its checks is
carried out. -/
def DistinctTasks (calls : List DeviceCall) : Prop :=
  ((DeviceCall.run calls).tasks.map (·.taskId)).Nodup ∧
    ∀ earlier c later, calls = earlier ++ c :: later →
      (c.perform (DeviceCall.run earlier)).result ≠ .error .integrityError ∧
        (c.Renews (DeviceCall.run earlier) →
          (c.perform (DeviceCall.run earlier)).result = .ok ())

/-- The identifiers of a run collide exactly where a renewal offers a lease that the node has
been told of in the same generation. -/
theorem distinctTasks_iff (calls : List DeviceCall) :
    DistinctTasks calls ↔ ∀ earlier c later, calls = earlier ++ c :: later →
      ¬c.RepeatsLease (DeviceCall.run earlier) := by
  constructor
  · intro h earlier c later hcalls hrepeats
    have hsound := DeviceCall.run_sound earlier
    exact (h.2 earlier c later hcalls).1 ((DeviceCall.integrityError_iff hsound).mpr hrepeats)
  · intro h
    refine ⟨(DeviceCall.run_sound calls).tasks.ids, fun earlier c later hcalls => ?_⟩
    have hsound := DeviceCall.run_sound earlier
    have hne := (DeviceCall.integrityError_iff hsound).not.mpr (h earlier c later hcalls)
    exact ⟨hne, fun hrenews => (hrenews.result hsound).resolve_right hne⟩

/-- A lease that ends with the session cannot be renewed: the next one ends there too. -/
theorem capped_renewal_fails (calls : List DeviceCall) (c : DeviceCall) {token : AuthToken}
    {id : Uuid} {s : DeviceSession} (haction : c.action = .renew token id s.generation)
    (hget : (DeviceCall.run calls).requireDevice token id = .ok s)
    (hactive : s.status = .active) (hlease : s.leaseUntil = some s.expiresAt)
    (hnow : c.now < s.expiresAt)
    (hcapped : s.expiresAt ≤ c.now + seconds c.service.settings.leaseSeconds) :
    (c.perform (DeviceCall.run calls)).result = .error .integrityError := by
  have h := DeviceCall.run_sound calls
  have hs := (requireDevice_eq_ok hget).1
  refine (DeviceCall.integrityError_iff h).mpr ?_
  unfold DeviceCall.RepeatsLease
  rw [haction]
  refine ⟨s, hget, rfl, ?_, hactive, ⟨s.expiresAt, hlease, hnow⟩, ?_⟩
  · simp [DeviceSession.overdue, hnow.not_ge]
  · have hgranted : c.service.grantedLease s c.now = s.expiresAt := min_eq_right hcapped
    rw [hgranted]
    exact told_lease h hs hlease

/-! ### A run with a capped lease -/

/-- A lease of a minute is within the bounds of the settings. -/
lemma minute_bounds : 10 ≤ 60 ∧ 60 ≤ 300 := by decide

def sampleDeviceService : DeviceSessionService where
  settings :=
    { deviceControlEnabled := true, deviceControlV2Enabled := true,
      authorizationMode := .perApplicationApproval, leaseSeconds := 60, maxTtlSeconds := 120,
      lease_bounds := minute_bounds, ttl_bounds := by decide }
  relayHub := false

def sampleToolSession : ToolSession where
  id := 7
  userId := 1
  nodeId := 3
  toolType := "claude".toList
  running := true
  deviceControlProtocolVersion := some 1
  runtimeBackend := "docker".toList
  runtimeResourceId := none

/-- A world with one Claude session, one device and one node that supports device control. -/
def sampleDeviceWorld : DeviceControlWorld where
  toolSession id := if id = 7 then some sampleToolSession else none
  device id := if id = 5 then
    some { id := 5, userId := 1, active := true, platform := "macos".toList } else none
  node id := if id = 3 then
    some
      { id := 3, available := true,
        runtimeCapabilities := [("device_control".toList, .object
          [("supported".toList, .bool true), ("protocol_versions".toList, .array [.int 1]),
            ("platforms".toList, .array [.string "macos".toList]),
            ("backends".toList, .array [.string "docker".toList])])] } else none

def sampleDeviceToken : AuthToken := { tokenType := .device, userId := 1, userDeviceId := some 5 }

/-- A call of the sample device some seconds after the epoch. -/
def sampleDeviceCall (time : ℕ) (action : DeviceAction) : DeviceCall :=
  ⟨sampleDeviceService, sampleDeviceWorld, seconds time, action⟩

/-- The device claims the session, connects and approves an application. -/
def sampleApproved : List DeviceCall :=
  [sampleDeviceCall 0 (.claim 11 sampleDeviceToken 7 []),
    sampleDeviceCall 1 (.markDeviceConnected sampleDeviceToken 11 1),
    sampleDeviceCall 2 (.approve sampleDeviceToken 11 1
      [{ applicationDigest := "d".toList, controlLevel := "full".toList, allowed := true,
         clipboardAllowed := false }])]

/-- The second renewal of a capped lease fails on the task of the first. -/
theorem capped_renewals_collide :
    ¬DistinctTasks (sampleApproved ++ [sampleDeviceCall 61 (.renew sampleDeviceToken 11 1),
      sampleDeviceCall 62 (.renew sampleDeviceToken 11 1)]) := by
  intro h
  refine (h.2 (sampleApproved ++ [sampleDeviceCall 61 (.renew sampleDeviceToken 11 1)]) _ []
    rfl).1 ?_
  decide +kernel

end AgentRemote
