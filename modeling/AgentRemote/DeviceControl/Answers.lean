import AgentRemote.DeviceControl.Operations

/-!
# What the operations answer

An operation refuses and changes nothing, expires the session it was asked about, or carries
out its moves. Only a renewal can run into a task that exists, and only a new connection can
use up the generations.
-/

namespace AgentRemote
open Library DeviceControlTables

/-- An error for the caller other than the one of a used-up generation. -/
def DeviceControlFailure.plain : DeviceControlFailure → Bool
  | apiError code _ _ => code ≠ "DEVICE_CONTROL_GENERATION_EXHAUSTED"
  | _ => false

/-- What a call can answer, and what it leaves. -/
inductive DeviceAnswer (deletes exhausts repeats : Prop) (db : DeviceControlTables) {α : Type} :
    DeviceSessionResponse α → Prop
  | refused {e : DeviceControlFailure} : e.plain = true → ¬repeats →
      DeviceAnswer deletes exhausts repeats db (.fail db e)
  | exhausted : exhausts → ¬repeats →
      DeviceAnswer deletes exhausts repeats db (.fail db .generationExhausted)
  | repeated : repeats → DeviceAnswer deletes exhausts repeats db (.fail db .integrityError)
  | expired {s : DeviceSession} {reason : Text} {now : Instant} {closed : List (Uuid × ℕ)}
      {e : DeviceControlFailure} : s ∈ db.sessions → s.status.terminal = false →
      e.plain = true → ¬repeats → DeviceAnswer deletes exhausts repeats db
        { db := db.ending s .expired reason now, closed, result := .error e }
  | accepted {db' : DeviceControlTables} {closed : List (Uuid × ℕ)} {a : α} :
      DeviceMoves db db' → ¬repeats →
      DeviceAnswer deletes exhausts repeats db { db := db', closed, result := .ok a }
  | deleted {p : DeviceSession → Prop} [DecidablePred p] {a : α} : deletes →
      (∀ s ∈ db.sessions, p s → s.status.terminal = true) → ¬repeats →
      DeviceAnswer deletes exhausts repeats db { db := db.deleteSessions p, result := .ok a }

namespace DeviceAnswer

variable {α : Type} {deletes exhausts repeats : Prop} {db : DeviceControlTables}
  {r : DeviceSessionResponse α}

lemma void (h : DeviceAnswer deletes exhausts repeats db r) :
    DeviceAnswer deletes exhausts repeats db r.void := by
  cases h with
  | refused he hr => exact .refused he hr
  | exhausted he hr => exact .exhausted he hr
  | repeated hr => exact .repeated hr
  | expired hs hlive he hr => exact .expired hs hlive he hr
  | accepted hm hr => exact .accepted hm hr
  | deleted hd hp hr => exact .deleted hd hp hr

/-- A transaction that can only be refused or carried out. -/
lemma ofExcept {x : Except DeviceControlFailure (DeviceControlTables × List (Uuid × ℕ) × α)}
    (hok : ∀ db' closed a, x = .ok (db', closed, a) → DeviceMoves db db')
    (herror : FailsWith (fun e => e.plain = true) x) (hr : ¬repeats) :
    DeviceAnswer deletes exhausts repeats db (.ofExcept db x) := by
  cases x with
  | error e => exact .refused (herror e rfl) hr
  | ok a => exact .accepted (hok _ _ _ rfl) hr

end DeviceAnswer

namespace DeviceControlTables

variable {db : DeviceControlTables} {s : DeviceSession} {token : AuthToken} {id : Uuid}

lemma require_eq_ok (h : db.require id = .ok s) : s ∈ db.sessions ∧ s.id = id := by
  unfold require at h
  cases hget : db.get id with
  | none => simp [hget] at h
  | some t =>
    rw [hget] at h
    obtain rfl := Except.ok.inj h
    exact ⟨mem_of_lookup hget, key_of_lookup hget⟩

lemma require_plain : FailsWith (fun e => e.plain = true) (db.require id) := by
  unfold require
  cases db.get id <;> simp [DeviceControlFailure.plain, DeviceControlFailure.notFound]

lemma requireDevice_eq_ok (h : db.requireDevice token id = .ok s) : s ∈ db.sessions ∧ s.id = id := by
  unfold requireDevice at h
  simp only [bind_eq_ok, reject_eq_ok] at h
  obtain ⟨t, ht, -, -, h⟩ := h
  obtain rfl := Except.ok.inj h
  exact require_eq_ok ht

lemma requireDevice_plain : FailsWith (fun e => e.plain = true) (db.requireDevice token id) := by
  refine require_plain.bind fun t _ => ?_
  exact .reject_bind (by decide) fun _ => failsWith_ok _

end DeviceControlTables

/-! ### Opening and deleting -/

section

variable {db db' : DeviceControlTables} {s : DeviceSession}
  {toolSession : ToolSession}

lemma not_admits_iff : ¬db.Admits s ↔ ∃ t ∈ db.sessions, t.id = s.id ∨
    t.status.terminal = false ∧
      (t.toolSessionId ≠ none ∧ t.toolSessionId = s.toolSessionId ∨ t.deviceId = s.deviceId) := by
  unfold Admits
  push Not
  refine exists_congr fun t => and_congr_right fun _ => ?_
  constructor
  · intro h
    by_cases hid : t.id = s.id
    · exact .inl hid
    · obtain ⟨hlive, h⟩ := h hid
      by_cases hdevice : t.deviceId = s.deviceId
      · exact .inr ⟨hlive, .inr hdevice⟩
      · exact .inr ⟨hlive, .inl (h hdevice)⟩
  · rintro (hid | ⟨hlive, h⟩) hne
    · exact absurd hid hne
    · exact ⟨hlive, fun hdevice => h.resolve_right hdevice⟩

namespace DeviceSessionService

/-- The insertion of a session succeeds or breaks a unique index. -/
lemma addActivated_cases (db : DeviceControlTables) (s : DeviceSession)
    (toolSession : ToolSession) :
    (db.Admits s ∧ db.Unused (s.activationTask toolSession) ∧
      addActivated db s toolSession = .ok { db with
        sessions := db.sessions ++ [s], tasks := db.tasks ++ [s.activationTask toolSession] }) ∨
      addActivated db s toolSession = .error .integrityError := by
  unfold addActivated addSession enqueueActivation
  by_cases ha : db.Admits s
  · rw [reject_of_not (not_admits_iff.not.mp (not_not.mpr ha))]
    by_cases hu : db.Unused (s.activationTask toolSession)
    · exact .inl ⟨ha, hu, addTask_of_unused { db with sessions := db.sessions ++ [s] } hu⟩
    · exact .inr (addTask_of_used { db with sessions := db.sessions ++ [s] } hu)
  · rw [reject_of (not_admits_iff.mp ha)]
    exact .inr rfl

lemma insertSession_eq_ok {conflict : DeviceControlFailure}
    (h : insertSession db s toolSession conflict = .ok db') :
    db.Admits s ∧ db.Unused (s.activationTask toolSession) ∧ db' = { db with
      sessions := db.sessions ++ [s], tasks := db.tasks ++ [s.activationTask toolSession] } := by
  unfold insertSession at h
  rcases addActivated_cases db s toolSession with
    ⟨ha, hu, heq⟩ | herror
  · rw [heq] at h
    obtain rfl := Except.ok.inj h
    exact ⟨ha, hu, rfl⟩
  · rw [herror] at h
    cases h

lemma insertSession_move {conflict : DeviceControlFailure} (hnew : s.New)
    (h : insertSession db s toolSession conflict = .ok db') : DeviceMove db db' := by
  obtain ⟨ha, hu, rfl⟩ := insertSession_eq_ok h
  exact .opened s toolSession hnew ha hu

lemma insertSession_plain {conflict : DeviceControlFailure} (hconflict : conflict.plain = true) :
    FailsWith (fun e => e.plain = true) (insertSession db s toolSession conflict) := by
  unfold insertSession
  rcases addActivated_cases db s toolSession with
    ⟨-, -, heq⟩ | herror
  · rw [heq]
    exact failsWith_ok _
  · rw [herror]
    exact failsWith_error.mpr hconflict

variable {service : DeviceSessionService} {world : DeviceControlWorld} {now : Instant}
  {id deviceId toolSessionId : Uuid} {user : User} {token : AuthToken}

lemma newSession_new (userId : Uuid) (mode : AuthorizationMode) :
    (service.newSession id now userId deviceId toolSession mode).New :=
  ⟨rfl, rfl, rfl, rfl⟩

lemma requireOwnDevice_plain {userId : Uuid} :
    FailsWith (fun e => e.plain = true) (requireOwnDevice world userId deviceId) := by
  unfold requireOwnDevice
  cases world.device deviceId with
  | none => simp [DeviceControlFailure.plain, DeviceControlFailure.deviceNotFound]
  | some d =>
    exact .reject_bind (by decide) fun _ => failsWith_ok _

lemma checkCreate_plain : FailsWith (fun e => e.plain = true)
    (service.checkCreate world user token deviceId toolSessionId) := by
  unfold checkCreate
  refine .reject_bind (by decide) fun _ => ?_
  refine .reject_bind (by decide) fun _ => ?_
  refine .reject_bind (by decide) fun _ => ?_
  refine .reject_bind (by decide) fun _ => ?_
  refine requireOwnDevice_plain.bind fun _ _ => ?_
  refine .reject_bind (by decide) fun _ => ?_
  cases world.toolSession toolSessionId with
  | none => exact failsWith_error.mpr (by decide)
  | some ts =>
    refine .reject_bind (by decide) fun _ => ?_
    refine .reject_bind (by decide) fun _ => ?_
    refine .reject_bind (by decide) fun _ => ?_
    cases world.node ts.nodeId with
    | none => exact failsWith_error.mpr (by decide)
    | some node =>
      exact .reject_bind (by decide) fun _ => failsWith_ok _

lemma validateClaimableToolSession_plain :
    FailsWith (fun e => e.plain = true) (validateClaimableToolSession toolSession) :=
  .reject_bind (by decide) fun _ => .reject_bind (by decide) fun _ =>
    failsWith_reject.mpr fun _ => by decide

lemma requireDeviceToken_plain : FailsWith (fun e => e.plain = true) (requireDeviceToken token) := by
  unfold requireDeviceToken
  split
  · exact failsWith_ok _
  · exact failsWith_error.mpr (by decide)

lemma checkClaim_plain {deviceCapabilities : List Text} : FailsWith (fun e => e.plain = true)
    (service.checkClaim world token toolSessionId deviceCapabilities) := by
  unfold checkClaim
  refine .reject_bind (by decide) fun _ => .reject_bind (by decide) fun _ => ?_
  refine requireDeviceToken_plain.bind fun _ _ => ?_
  cases world.toolSession toolSessionId with
  | none => exact failsWith_error.mpr (by decide)
  | some ts =>
    refine .reject_bind (by decide) fun _ => requireOwnDevice_plain.bind fun _ _ => ?_
    refine .reject_bind (by decide) fun _ => validateClaimableToolSession_plain.bind fun _ _ => ?_
    cases world.node ts.nodeId with
    | none => exact failsWith_error.mpr (by decide)
    | some node =>
      exact .reject_bind (by decide) fun _ => .reject_bind (by decide) fun _ => failsWith_ok _

lemma create_answer : DeviceAnswer False False False db
    (service.create db world now id user token deviceId toolSessionId) := by
  refine .ofExcept ?_ ?_ not_false
  · intro db' closed a h
    simp only [bind_eq_ok, Prod.exists] at h
    obtain ⟨device, ts, -, db₁, hdb₁, h⟩ := h
    obtain ⟨rfl, -, -⟩ := Prod.mk.inj (Except.ok.inj h)
    exact .single (insertSession_move (newSession_new _ _) hdb₁)
  · refine checkCreate_plain.bind fun ⟨device, ts⟩ _ => ?_
    exact (insertSession_plain (by decide)).bind fun _ _ => failsWith_ok _

/-! ### Claims -/

lemma insertSession_revokes (h : DeviceControlSound db) {conflict : DeviceControlFailure}
    (hi : insertSession db s toolSession conflict = .ok db') : Revokes db db' [] := by
  obtain ⟨ha, -, rfl⟩ := insertSession_eq_ok hi
  intro old hold new hnew hid
  rcases List.mem_append.mp hnew with hnew | hnew
  · exact .inl (h.sessions.eq_of_id hnew hold hid)
  · obtain rfl := List.mem_singleton.mp hnew
    exact absurd hid.symm (ha old hold).1

lemma mem_listLiveForBinding :
    s ∈ db.listLiveForBinding toolSessionId deviceId ↔ s ∈ db.sessions ∧
      (s.toolSessionId = some toolSessionId ∨ s.deviceId = deviceId) ∧
      s.status.terminal = false :=
  mem_listLive

/-- A live session of both the tool session and the device is the only one of either. -/
lemma eq_of_binding (h : DeviceControlSound db) {t : DeviceSession}
    (ht : t ∈ db.listLiveForBinding toolSessionId deviceId)
    (htool : t.toolSessionId = some toolSessionId) (hdevice : t.deviceId = deviceId)
    (hs : s ∈ db.listLiveForBinding toolSessionId deviceId) : s = t := by
  obtain ⟨hs, hplace, hslive⟩ := mem_listLiveForBinding.mp hs
  obtain ⟨ht, -, htlive⟩ := mem_listLiveForBinding.mp ht
  rcases hplace with hplace | hplace
  · exact h.sessions.toolSession s hs t ht hslive htlive (by simp [hplace])
      (hplace.trans htool.symm)
  · exact h.sessions.device s hs t ht hslive htlive (hplace.trans hdevice.symm)

section

variable {device : UserDevice} {bindings : List DeviceSession}
  {target current : Option DeviceSession} {expired : List (Uuid × ℕ)}

lemma rebound_plain (h : DeviceControlSound db) (hl : LiveList db bindings) :
    FailsWith (fun e => e.plain = true)
      (service.rebound db now id token device toolSession bindings target current expired) := by
  obtain ⟨db₂, heq, -⟩ := terminateAll_spec h
    (hl.filter fun s => (∃ t ∈ target, t.id = s.id) ∨ ∃ c ∈ current, c.id = s.id)
    .stopped "rebound".toList now rfl
  unfold rebound
  rw [heq, ok_bind]
  exact (insertSession_plain (by decide)).bind fun _ _ => failsWith_ok _

lemma rebound_eq_ok {closed : List (Uuid × ℕ)} (h : DeviceControlSound db)
    (hl : LiveList db bindings)
    (hok : service.rebound db now id token device toolSession bindings target current expired =
      .ok (db', closed, s)) :
    DeviceMoves db db' ∧ ∃ stopped, closed = service.closeRelay (expired ++ stopped) ∧
      Revokes db db' stopped := by
  have hl' := hl.filter fun s => (∃ t ∈ target, t.id = s.id) ∨ ∃ c ∈ current, c.id = s.id
  obtain ⟨db₂, heq, he⟩ := terminateAll_spec h hl' .stopped "rebound".toList now rfl
  unfold rebound at hok
  rw [heq, ok_bind] at hok
  obtain ⟨db₃, hinsert, hok⟩ := bind_eq_ok.mp hok
  simp only [pure_eq_ok, Except.ok.injEq, Prod.mk.injEq] at hok
  obtain ⟨rfl, rfl, -⟩ := hok
  have hr := Revokes.trans he.moves (he.revokes h hl')
    (insertSession_revokes (h.moves he.moves) hinsert)
  rw [List.append_nil] at hr
  exact ⟨he.moves.tail (insertSession_move (newSession_new _ _) hinsert), _, rfl, hr⟩

end

/-- The bindings that are not overdue keep their rows while the others expire. -/
lemma liveList_kept (h : DeviceControlSound db) {l : List DeviceSession} (hl : LiveList db l)
    {p : DeviceSession → Prop} [DecidablePred p] {status : DeviceSessionStatus} {reason : Text}
    (he : Endings db (l.filter fun s => p s) status reason now db') :
    LiveList db' (l.filter fun s => ¬p s) := by
  refine ⟨fun s hs => (he.rows s).mpr (.inl ?_), (hl.filter _).live, (hl.filter _).ids⟩
  have hmem := (hl.filter _).mem s hs
  refine ⟨hmem, fun t ht hid => ?_⟩
  obtain rfl := h.sessions.eq_of_id ((hl.filter _).mem t ht) hmem hid
  have hp := (List.mem_filter.mp ht).2
  have hnp := (List.mem_filter.mp hs).2
  simp only [decide_eq_true_eq] at hp hnp
  exact hnp hp

lemma rebind_plain {device : UserDevice} (h : DeviceControlSound db) :
    FailsWith (fun e => e.plain = true) (service.rebind db now id token device toolSession) := by
  have hl : LiveList db (db.listLiveForBinding toolSession.id device.id) := liveList_listLive h _
  obtain ⟨db₁, heq, he⟩ := terminateAll_spec h (hl.filter fun s => s.expiresAt ≤ now) .expired
    "session_expired".toList now rfl
  have hrest : ∀ {target current : Option DeviceSession} {expired : List (Uuid × ℕ)},
      FailsWith (fun e => e.plain = true) (service.rebound db₁ now id token device toolSession
        ((db.listLiveForBinding toolSession.id device.id).filter fun s => ¬s.expiresAt ≤ now)
        target current expired) :=
    rebound_plain (h.moves he.moves) (liveList_kept h hl he)
  unfold rebind
  dsimp only
  rw [heq, ok_bind]
  dsimp only
  split
  · split_ifs
    · exact failsWith_ok _
    · exact hrest
  · exact hrest

/-- A claim with a hub closes every generation it ends: a claim that changes nothing has no
overdue binding to expire. -/
lemma rebind_eq_ok {device : UserDevice} {closed : List (Uuid × ℕ)} (h : DeviceControlSound db)
    (hok : service.rebind db now id token device toolSession = .ok (db', closed, s)) :
    DeviceMoves db db' ∧ (service.relayHub = true → Revokes db db' closed) := by
  have hl : LiveList db (db.listLiveForBinding toolSession.id device.id) := liveList_listLive h _
  have hl' := hl.filter fun s => s.expiresAt ≤ now
  obtain ⟨db₁, heq, he⟩ := terminateAll_spec h hl' .expired "session_expired".toList now rfl
  have hrest : ∀ {target current : Option DeviceSession}, service.rebound db₁ now id token device
      toolSession
      ((db.listLiveForBinding toolSession.id device.id).filter fun s => ¬s.expiresAt ≤ now)
      target current
      (((db.listLiveForBinding toolSession.id device.id).filter fun s => s.expiresAt ≤ now).map
        fun s => (s.id, s.generation)) = .ok (db', closed, s) →
      DeviceMoves db db' ∧ (service.relayHub = true → Revokes db db' closed) := by
    intro target current hok
    obtain ⟨hm, stopped, rfl, hr⟩ := rebound_eq_ok (h.moves he.moves) (liveList_kept h hl he) hok
    refine ⟨he.moves.trans hm, fun hhub => ?_⟩
    rw [closeRelay, if_pos hhub]
    exact Revokes.trans he.moves (he.revokes h hl') hr
  unfold rebind at hok
  dsimp only at hok
  rw [heq, ok_bind] at hok
  dsimp only at hok
  split at hok
  · rename_i t c htarget hcurrent
    split_ifs at hok with hid
    · simp only [pure_eq_ok, Except.ok.injEq, Prod.mk.injEq] at hok
      obtain ⟨rfl, rfl, rfl⟩ := hok
      refine ⟨he.moves, fun _ => ?_⟩
      have hmem := List.mem_of_find?_eq_some htarget
      have htool := List.find?_some htarget
      have hdevice := List.find?_some hcurrent
      have hc := List.mem_of_find?_eq_some hcurrent
      simp only [List.mem_filter, decide_eq_true_eq] at hmem hc htool hdevice
      obtain rfl := h.sessions.eq_of_id (hl.mem t hmem.1) (hl.mem c hc.1) hid
      have hnone : (db.listLiveForBinding toolSession.id device.id).filter
          (fun s => decide (s.expiresAt ≤ now)) = [] := by
        refine List.filter_eq_nil_iff.mpr fun x hx hover => ?_
        obtain rfl := eq_of_binding h hmem.1 htool hdevice hx
        exact hmem.2 (decide_eq_true_eq.mp hover)
      have hr := he.revokes h hl'
      rwa [hnone] at hr
    · exact hrest hok
  · exact hrest hok

lemma claim_eq_ok {deviceCapabilities : List Text} {closed : List (Uuid × ℕ)}
    (h : DeviceControlSound db)
    (hok : (do
      let (device, toolSession) ← service.checkClaim world token toolSessionId deviceCapabilities
      service.rebind db now id token device toolSession) = .ok (db', closed, s)) :
    DeviceMoves db db' ∧ (service.relayHub = true → Revokes db db' closed) := by
  simp only [bind_eq_ok, Prod.exists] at hok
  obtain ⟨device, ts, -, hok⟩ := hok
  exact rebind_eq_ok h hok

lemma claim_answer {deviceCapabilities : List Text} (h : DeviceControlSound db) :
    DeviceAnswer False False False db
      (service.claim db world now id token toolSessionId deviceCapabilities) := by
  refine .ofExcept (fun db' closed s hok => (claim_eq_ok h hok).1) ?_ not_false
  exact checkClaim_plain.bind fun _ _ => rebind_plain h

/-! ### Deletions and expiries -/

lemma deleteForUser_answer (h : DeviceControlSound db) :
    DeviceAnswer True False False db (deleteForUser db user id) := by
  unfold deleteForUser
  cases hs : db.require id with
  | error e => exact .refused (require_plain e hs) not_false
  | ok s =>
    rw [ok_bind]
    by_cases huser : s.userId ≠ user.id ∧ user.admin = false
    · rw [reject_of huser]
      exact .refused rfl not_false
    · rw [reject_of_not huser, ok_bind]
      by_cases hlive : s.status.terminal = false
      · rw [reject_of hlive]
        exact .refused rfl not_false
      · rw [reject_of_not hlive]
        refine .deleted trivial (fun t ht hid => ?_) not_false
        obtain rfl := h.sessions.eq_of_id ht (require_eq_ok hs).1 hid
        simpa using hlive

lemma deleteTerminalSessions_answer :
    DeviceAnswer True False False db (deleteTerminalSessions db user) :=
  .deleted trivial (fun _ _ h => h.2) not_false

lemma deleteTerminalBefore_answer {cutoff : Instant} {limit : ℕ} :
    DeviceAnswer True False False db (deleteTerminalBefore db cutoff limit) := by
  refine .deleted trivial (fun s _ hs => ?_) not_false
  have hmem := List.mem_of_mem_take hs
  rw [List.mem_insertionSort, List.mem_filter, decide_eq_true_eq] at hmem
  exact hmem.2.1

lemma closeRelay_cons (key : Uuid × ℕ) (revoked : List (Uuid × ℕ)) :
    service.closeRelay (key :: revoked) =
      service.closeRelay [key] ++ service.closeRelay revoked := by
  unfold closeRelay
  split_ifs <;> rfl

/-- The overdue sessions of a list expire one by one. -/
lemma expireListed_spec (service : DeviceSessionService) (now : Instant)
    {l : List DeviceSession} (h : DeviceControlSound db) (hl : LiveList db l)
    (closed : List (Uuid × ℕ)) :
    ∃ db', service.expireListed now l db closed =
        { db := db',
          closed := closed ++ service.closeRelay
            ((l.filter fun s => s.overdue now).map fun s => (s.id, s.generation)),
          result := .ok () } ∧
      Endings db (l.filter fun s => s.overdue now) .expired "session_expired".toList now db' := by
  induction l generalizing db closed with
  | nil =>
    refine ⟨db, ?_, .refl, by simp⟩
    have hnil : service.closeRelay [] = [] := by
      unfold closeRelay
      split_ifs <;> rfl
    simp [expireListed, hnil]
  | cons s l ih =>
    by_cases hover : s.overdue now = true
    · obtain ⟨hs, hlive, hother, hl'⟩ := hl.ending .expired
        "session_expired".toList now
      have hm : DeviceMove db (db.ending s .expired "session_expired".toList now) :=
        ending_move h hs hlive rfl
      obtain ⟨db', heq, he⟩ := ih (h.move hm) hl'
        (closed ++ service.closeRelay [(s.id, s.generation)])
      rw [List.filter_cons_of_pos (by simpa using hover)]
      refine ⟨db', ?_, .cons hs hm (fun t ht => hother t (List.mem_of_mem_filter ht)) he⟩
      rw [expireListed, if_pos hover, terminate_eq h hs hlive]
      refine heq.trans ?_
      rw [List.map_cons, closeRelay_cons _ (List.map _ _), List.append_assoc]
    · rw [expireListed, if_neg hover, List.filter_cons_of_neg (by simpa using hover)]
      exact ih h ⟨(List.forall_mem_cons.mp hl.mem).2, (List.forall_mem_cons.mp hl.live).2,
        (List.nodup_cons.mp hl.ids).2⟩ closed

lemma liveList_listForDevice (h : DeviceControlSound db) (deviceId : Uuid) :
    LiveList db (db.listForDevice deviceId) := by
  have hmem : ∀ s ∈ db.listForDevice deviceId, s ∈ db.sessions ∧ s.deviceId = deviceId ∧
      s.status.reconnectable = true := by
    intro s hs
    simpa [DeviceControlTables.listForDevice] using hs
  exact ⟨fun s hs => (hmem s hs).1,
    fun s hs => DeviceSessionStatus.terminal_eq_false_of_reconnectable (hmem s hs).2.2,
    h.sessions.ids.sublist (List.filter_sublist.map _)⟩

lemma listForDevice_answer (h : DeviceControlSound db) :
    DeviceAnswer False False False db (service.listForDevice db now token) := by
  unfold listForDevice
  cases htoken : requireDeviceToken token with
  | error e => exact .refused (requireDeviceToken_plain e htoken) not_false
  | ok deviceId =>
    obtain ⟨db', heq, he⟩ := expireListed_spec service now h
      (liveList_listForDevice h deviceId) []
    simp only [heq]
    exact .accepted he.moves not_false

lemma expireDue_spec (service : DeviceSessionService) (now : Instant)
    (h : DeviceControlSound db) :
    ∃ db', service.expireDue db now =
        { db := db',
          closed := service.closeRelay ((db.listDue now).map fun s => (s.id, s.generation)),
          result := .ok (db.listDue now).length } ∧
      Endings db (db.listDue now) .expired "session_expired".toList now db' := by
  obtain ⟨db', heq, he⟩ := terminateAll_spec h (liveList_listDue h now) .expired
    "session_expired".toList now rfl
  refine ⟨db', ?_, he⟩
  unfold expireDue
  dsimp only
  rw [heq]
  rfl

lemma checkCandidates_plain :
    FailsWith (fun e => e.plain = true) (service.checkCandidates world token) := by
  refine .reject_bind (by decide) fun _ => requireDeviceToken_plain.bind fun deviceId _ => ?_
  cases world.device deviceId with
  | none => exact failsWith_error.mpr (by decide)
  | some device => exact failsWith_reject.mpr fun _ => by decide

lemma listCandidates_answer {toolSessions : List ToolSession} (h : DeviceControlSound db) :
    DeviceAnswer False False False db
      (service.listCandidates db world now token toolSessions) := by
  unfold listCandidates
  cases hchecked : service.checkCandidates world token with
  | error e => exact .refused (checkCandidates_plain e hchecked) not_false
  | ok _ =>
    obtain ⟨db', heq, he⟩ := expireDue_spec service now h
    dsimp only
    rw [heq]
    exact .accepted he.moves not_false

lemma expireDue_answer (h : DeviceControlSound db) :
    DeviceAnswer False False False db (service.expireDue db now) := by
  obtain ⟨db', heq, he⟩ := expireDue_spec service now h
  rw [heq]
  exact .accepted he.moves not_false

lemma overdue_live (h : s.overdue now = true) : s.status.terminal = false := by
  simp only [DeviceSession.overdue, decide_eq_true_eq] at h
  exact h.1

lemma getForUser_answer (h : DeviceControlSound db) :
    DeviceAnswer False False False db (service.getForUser db now user id) := by
  unfold getForUser
  cases hs : db.require id with
  | error e => exact .refused (require_plain e hs) not_false
  | ok s =>
    dsimp only
    split_ifs with huser hover
    · exact .refused rfl not_false
    · have hmem := (require_eq_ok hs).1
      have hlive := overdue_live hover
      have hm : DeviceMove db (db.ending s .expired "session_expired".toList now) :=
        ending_move h hmem hlive rfl
      rw [terminate_eq h hmem hlive]
      dsimp only
      cases hr : (db.ending s .expired "session_expired".toList now).require id with
      | error e => exact .expired hmem hlive (require_plain e hr) not_false
      | ok t => exact .accepted (.single hm) not_false
    · exact .accepted .refl not_false

/-! ### Checks before an operation -/

section

variable {α : Type} {rest : DeviceSessionResponse α} {generation : ℕ}

lemma expireAndRaise_eq (h : DeviceControlSound db) (hs : s ∈ db.sessions)
    (hlive : s.status.terminal = false) (reason : String) (e : DeviceControlFailure) :
    (service.expireAndRaise db now s reason e : DeviceSessionResponse α) =
      { db := db.ending s .expired reason.toList now,
        closed := service.closeRelay [(s.id, s.generation)], result := .error e } := by
  unfold expireAndRaise
  rw [terminate_eq h hs hlive]

/-- The cases of `_require_generation` and `_require_not_expired`. -/
lemma requireCurrent_cases {P : DeviceSessionResponse α → Prop} (h : DeviceControlSound db)
    (hs : s ∈ db.sessions)
    (hmismatch : generation ≠ s.generation → P (.fail db .generationMismatch))
    (hover : generation = s.generation → s.overdue now = true →
      P { db := db.ending s .expired "session_expired".toList now,
          closed := service.closeRelay [(s.id, s.generation)],
          result := .error .sessionExpired })
    (hexpired : generation = s.generation → s.overdue now = false → s.status = .expired →
      P (.fail db .sessionExpired))
    (hrest : generation = s.generation → s.overdue now = false → s.status ≠ .expired → P rest) :
    P (service.requireCurrent db now s generation rest) := by
  unfold requireCurrent requireNotExpired
  split_ifs with hgeneration hoverdue hstatus
  · exact hmismatch hgeneration
  · rw [expireAndRaise_eq h hs (overdue_live hoverdue)]
    exact hover (not_not.mp hgeneration) hoverdue
  · exact hexpired (not_not.mp hgeneration) (by simpa using hoverdue) hstatus
  · exact hrest (not_not.mp hgeneration) (by simpa using hoverdue) hstatus

/-- The lease of a session has not run out. -/
def Leased (s : DeviceSession) (now : Instant) : Prop := ∃ leaseUntil ∈ s.leaseUntil, now < leaseUntil

/-- The cases of `_require_active_generation`. -/
lemma requireActiveGeneration_cases {P : DeviceSessionResponse α → Prop}
    (h : DeviceControlSound db) (hs : s ∈ db.sessions)
    (hmismatch : generation ≠ s.generation → P (.fail db .generationMismatch))
    (hover : generation = s.generation → s.overdue now = true →
      P { db := db.ending s .expired "session_expired".toList now,
          closed := service.closeRelay [(s.id, s.generation)],
          result := .error .sessionExpired })
    (hexpired : generation = s.generation → s.overdue now = false → s.status = .expired →
      P (.fail db .sessionExpired))
    (hstate : generation = s.generation → s.overdue now = false → s.status ≠ .active →
      P (.fail db .stateConflict))
    (hlapsed : generation = s.generation → s.overdue now = false → s.status = .active →
      ¬Leased s now →
      P { db := db.ending s .expired "lease_expired".toList now,
          closed := service.closeRelay [(s.id, s.generation)], result := .error .leaseExpired })
    (hrest : generation = s.generation → s.overdue now = false → s.status = .active →
      Leased s now → P rest) :
    P (service.requireActiveGeneration db now s generation rest) := by
  refine requireCurrent_cases h hs hmismatch hover hexpired fun hgeneration hoverdue hstatus => ?_
  split_ifs with hactive hlease
  · exact hstate hgeneration hoverdue hactive
  · have hactive := not_not.mp hactive
    rw [expireAndRaise_eq h hs (by simp [hactive, DeviceSessionStatus.terminal])]
    refine hlapsed hgeneration hoverdue hactive ?_
    rintro ⟨leaseUntil, hmem, hlt⟩
    exact hlt.not_ge (hlease leaseUntil hmem)
  · push Not at hlease
    exact hrest hgeneration hoverdue (not_not.mp hactive) hlease

end

/-! ### Leases -/

/-- The node was told, in the generation of the session, of a lease with this identity. -/
def Told (db : DeviceControlTables) (s : DeviceSession) (leaseUntil : Instant) : Prop :=
  ∃ t ∈ db.tasks, ∃ session told capabilities, t.payload = .context session told capabilities ∧
    session.deviceSessionId = s.id ∧ session.generation = s.generation ∧
    leaseIdentity told = leaseIdentity leaseUntil

lemma unused_contextTask (h : DeviceControlSound db) {leaseUntil : Instant}
    {capabilities : List Text} :
    db.Unused (s.contextTask leaseUntil capabilities) ↔ ¬Told db s leaseUntil := by
  constructor
  · rintro hu ⟨t, ht, session, told, caps, hpayload, hid, hgeneration, hidentity⟩
    refine hu t ht ?_
    rw [h.tasks.payload t ht, hpayload]
    simp only [DeviceControlTaskPayload.taskId, DeviceSession.contextTask, hid, hgeneration,
      hidentity]
  · intro hnot t ht hid
    refine hnot ⟨t, ht, ?_⟩
    rw [h.tasks.payload t ht] at hid
    cases hpayload : t.payload with
    | context session told caps =>
      rw [hpayload] at hid
      simp only [DeviceControlTaskPayload.taskId, DeviceSession.contextTask,
        DeviceControlTaskId.updateContext.injEq] at hid
      exact ⟨session, told, caps, rfl, hid⟩
    | activation => simp [hpayload, DeviceControlTaskPayload.taskId, DeviceSession.contextTask] at hid
    | deactivation =>
      simp [hpayload, DeviceControlTaskPayload.taskId, DeviceSession.contextTask] at hid

/-- A generation without a lease has told its node of none. -/
lemma not_told (h : DeviceControlSound db) (hs : s ∈ db.sessions)
    (hlive : s.status.terminal = false) (hlease : s.leaseUntil = none) (leaseUntil : Instant) :
    ¬Told db s leaseUntil := by
  rintro ⟨t, ht, session, told, caps, hpayload, hid, hgeneration, -⟩
  have htid : t.taskId = .updateContext s.id s.generation (leaseIdentity told) := by
    rw [h.tasks.payload t ht, hpayload]
    simp only [DeviceControlTaskPayload.taskId, hid, hgeneration]
  have hfits := h.tasks.fits s hs t ht (by rw [htid]; rfl)
  rw [htid] at hfits
  exact (hfits.2 hlive hlease).false

lemma leaseUntil_of_pending (h : DeviceControlSound db) (hs : s ∈ db.sessions)
    (hstatus : s.status ≠ .active) : s.leaseUntil = none := by
  have hlease := (h.sessions.rows s hs).lease.not.mpr hstatus
  simpa using hlease

lemma activate_told (h : DeviceControlSound db) {v2Enabled : Bool}
    (htold : Told db s (service.grantedLease s now)) :
    service.activate db world now s v2Enabled = .error .integrityError := by
  have hused : ¬db.Unused (s.contextTask (service.grantedLease s now) (negotiatedV2Capabilities
    (((world.node s.nodeId).map (·.runtimeCapabilities)).getD []) s.authorizationMode
      v2Enabled)) :=
    (unused_contextTask h).not.mpr (not_not.mpr htold)
  unfold activate enqueueContextUpdate
  exact congrArg (· >>= _) (addTask_of_used (db.setSession _) hused)

lemma activate_eq (service : DeviceSessionService) (world : DeviceControlWorld) (now : Instant)
    (v2Enabled : Bool) (h : DeviceControlSound db) (hs : s ∈ db.sessions)
    (hstatus : s.status.reconnectable = true)
    (htold : ¬Told db s (service.grantedLease s now)) :
    ∃ db' active, service.activate db world now s v2Enabled = .ok (db', active) ∧
      DeviceMove db db' ∧ db'.sessions = (db.setSession active).sessions ∧
      active.id = s.id ∧ active.generation = s.generation := by
  have hunused : db.Unused (s.contextTask (service.grantedLease s now) (negotiatedV2Capabilities
    (((world.node s.nodeId).map (·.runtimeCapabilities)).getD []) s.authorizationMode
      v2Enabled)) :=
    (unused_contextTask h).mpr htold
  refine ⟨_, s.leased (service.grantedLease s now),
    congrArg (· >>= _) (addTask_of_unused (db.setSession _) hunused),
    .changed hs (.granted _ _ hstatus (min_le_right _ _)) (by simpa using hunused) ?_, rfl, rfl, rfl⟩
  intro hlock hnone
  exact absurd hnone hlock

/-! ### Operations of the device -/

section

variable {α : Type} {rest : DeviceSession → DeviceSessionResponse α} {generation : ℕ}

lemma forDevice_cases {P : DeviceSessionResponse α → Prop}
    (herror : ∀ e, db.requireDevice token id = .error e → P (.fail db e))
    (hok : ∀ s, db.requireDevice token id = .ok s → s ∈ db.sessions → P (rest s)) :
    P (forDevice db token id rest) := by
  unfold forDevice
  cases hs : db.requireDevice token id with
  | error e => exact herror e hs
  | ok s => exact hok s hs (requireDevice_eq_ok hs).1

end

lemma require_ending (db : DeviceControlTables) (h : DeviceControlSound db) (hs : s ∈ db.sessions)
    {status : DeviceSessionStatus} {reason : Text} :
    (db.ending s status reason now).require s.id = .ok (s.ended status reason now) := by
  have hget : (db.ending s status reason now).get s.id = some (s.ended status reason now) := by
    refine (lookup_replace (s.ended status reason now)).trans ?_
    rw [if_pos (show s.id = (s.ended status reason now).id from rfl),
      lookup_of_mem h.sessions.ids hs]
    rfl
  unfold require
  rw [hget]
  rfl

variable {generation : ℕ}

lemma checkFullTrust_plain :
    FailsWith (fun e => e.plain = true) (service.checkFullTrust world s) := by
  refine FailsWith.bind ?_ fun ts _ => validateClaimableToolSession_plain.bind fun _ _ => ?_
  · unfold requireToolSession
    cases world.toolSession s.toolSessionReferenceId with
    | none => exact failsWith_error.mpr (by decide)
    | some ts => exact failsWith_ok _
  · dsimp only
    cases world.node s.nodeId with
    | none => exact failsWith_error.mpr (by decide)
    | some node => exact failsWith_reject.mpr fun _ => by decide

lemma markDeviceConnected_answer (h : DeviceControlSound db) :
    DeviceAnswer False False False db
      (service.markDeviceConnected db world now token id generation) := by
  refine forDevice_cases (fun e he => .refused (requireDevice_plain e he) not_false) fun s _ hs => ?_
  refine requireCurrent_cases h hs (fun _ => .refused rfl not_false)
    (fun _ hover => .expired hs (overdue_live hover) rfl not_false)
    (fun _ _ _ => .refused rfl not_false) fun _ _ _ => ?_
  by_cases hstatus : s.status = .pendingDevice
  · rw [reject_of_not (not_not.mpr hstatus), ok_bind]
    have hlive : s.status.terminal = false := by simp [hstatus, DeviceSessionStatus.terminal]
    have htold := not_told h hs hlive (leaseUntil_of_pending h hs (by simp [hstatus]))
    split
    · obtain ⟨db', active, heq, hm, -⟩ := activate_eq service world now
        service.settings.deviceControlV2Enabled h hs
        (by simp [hstatus, DeviceSessionStatus.reconnectable]) (htold _)
      rw [heq]
      cases hcheck : service.checkFullTrust world s with
      | error e => exact .refused (checkFullTrust_plain e hcheck) not_false
      | ok u => exact .accepted (.single hm) not_false
    · exact .accepted (.single (.silent hs (.awaited hstatus) fun hl hn => absurd hn hl)) not_false
  · rw [reject_of hstatus]
    exact .refused rfl not_false

lemma approve_answer {approvals : List DeviceApprovalItem} (h : DeviceControlSound db) :
    DeviceAnswer False False False db
      (service.approve db world now token id generation approvals) := by
  refine forDevice_cases (fun e he => .refused (requireDevice_plain e he) not_false) fun s _ hs => ?_
  refine requireCurrent_cases h hs (fun _ => .refused rfl not_false)
    (fun _ hover => .expired hs (overdue_live hover) rfl not_false)
    (fun _ _ _ => .refused rfl not_false) fun _ _ _ => ?_
  have happroved : DeviceMove db (db.replaceApprovals s.id approvals) := .approved _ _
  have h₁ := h.move happroved
  by_cases hmode : s.authorizationMode = .perApplicationApproval
  · by_cases hstatus : s.status = .pendingUserApproval
    · by_cases hunique : (approvals.map (·.applicationDigest)).Nodup
      · rw [reject_of_not (not_not.mpr hmode), reject_of_not (not_not.mpr hstatus),
          reject_of_not (not_not.mpr hunique)]
        simp only [ok_bind]
        have hlive : s.status.terminal = false := by simp [hstatus, DeviceSessionStatus.terminal]
        split_ifs with hdenied
        · rw [endSession_eq (db.replaceApprovals s.id approvals) h₁ hs hlive, ok_bind,
            require_ending (db.replaceApprovals s.id approvals) h₁ hs]
          exact .accepted (.tail (.single happroved) (ending_move h₁ hs hlive rfl)) not_false
        · have htold := not_told h₁ hs hlive (leaseUntil_of_pending h hs (by simp [hstatus]))
          obtain ⟨db', active, heq, hm, -⟩ := activate_eq service world now
            service.settings.deviceControlV2Enabled h₁ hs
            (by simp [hstatus, DeviceSessionStatus.reconnectable]) (htold _)
          rw [heq]
          exact .accepted (.tail (.single happroved) hm) not_false
      · rw [reject_of_not (not_not.mpr hmode), reject_of_not (not_not.mpr hstatus),
          reject_of hunique]
        exact .refused rfl not_false
    · rw [reject_of_not (not_not.mpr hmode), reject_of hstatus]
      exact .refused rfl not_false
  · rw [reject_of hmode]
    exact .refused rfl not_false

lemma acquireLock_answer (h : DeviceControlSound db) :
    DeviceAnswer False False False db (service.acquireLock db now token id generation) := by
  refine forDevice_cases (fun e he => .refused (requireDevice_plain e he) not_false) fun s _ hs => ?_
  refine requireActiveGeneration_cases h hs (fun _ => .refused rfl not_false)
    (fun _ hover => .expired hs (overdue_live hover) rfl not_false)
    (fun _ _ _ => .refused rfl not_false) (fun _ _ _ => .refused rfl not_false)
    (fun _ _ hactive _ => .expired hs (by simp [hactive, DeviceSessionStatus.terminal]) rfl
      not_false) fun _ _ hactive _ => ?_
  by_cases hlock : s.lockAcquiredAt = none
  · rw [if_neg (not_not.mpr hlock)]
    by_cases hmachine : db.findMachineLock s.deviceId s.id = none
    · rw [reject_of_not (not_not.mpr hmachine), ok_bind]
      by_cases hfree : db.LockFree s
      · have hnone : ¬∃ t ∈ db.sessions, t.id ≠ s.id ∧ t.deviceId = s.deviceId ∧
            t.lockAcquiredAt ≠ none := by
          rintro ⟨t, ht, hid, hdevice, hl⟩
          exact hl (hfree t ht hid hdevice)
        dsimp only [lockSession]
        rw [reject_of_not hnone]
        exact .accepted (.single (.silent hs (.locked now hactive hlock) fun _ _ => hfree))
          not_false
      · have hsome : ∃ t ∈ db.sessions, t.id ≠ s.id ∧ t.deviceId = s.deviceId ∧
            t.lockAcquiredAt ≠ none := by
          unfold LockFree at hfree
          push Not at hfree
          exact hfree
        dsimp only [lockSession]
        rw [reject_of hsome]
        exact .refused rfl not_false
    · rw [reject_of hmachine]
      exact .refused rfl not_false
  · rw [if_pos hlock]
    exact .accepted .refl not_false

/-- A renewal that passes its checks and offers a lease the node has been told of. -/
def RepeatsLease (service : DeviceSessionService) (db : DeviceControlTables) (now : Instant)
    (token : AuthToken) (id : Uuid) (generation : ℕ) : Prop :=
  ∃ s, db.requireDevice token id = .ok s ∧ generation = s.generation ∧ s.overdue now = false ∧
    s.status = .active ∧ Leased s now ∧ Told db s (service.grantedLease s now)

lemma renew_answer (h : DeviceControlSound db) :
    DeviceAnswer False False (service.RepeatsLease db now token id generation) db
      (service.renew db world now token id generation) := by
  refine forDevice_cases (fun e he => .refused (requireDevice_plain e he) ?_) fun s hget hs => ?_
  · rintro ⟨s, hs, -⟩
    cases he.symm.trans hs
  have hrepeats : service.RepeatsLease db now token id generation ↔
      generation = s.generation ∧ s.overdue now = false ∧ s.status = .active ∧ Leased s now ∧
        Told db s (service.grantedLease s now) := by
    constructor
    · rintro ⟨t, ht, h⟩
      obtain rfl := Except.ok.inj (hget.symm.trans ht)
      exact h
    · exact fun h => ⟨s, hget, h⟩
  rw [hrepeats]
  refine requireActiveGeneration_cases h hs (fun hne => .refused rfl fun h => hne h.1)
    (fun _ hover => .expired hs (overdue_live hover) rfl fun h => ?_)
    (fun _ _ hexpired => .refused rfl fun h => ?_)
    (fun _ _ hne => .refused rfl fun h => hne h.2.2.1)
    (fun _ _ hactive hlapsed => .expired hs (by simp [hactive, DeviceSessionStatus.terminal]) rfl
      fun h => hlapsed h.2.2.2.1) fun hgeneration hover hactive hleased => ?_
  · exact absurd (h.2.1.symm.trans hover) (by decide)
  · exact absurd (h.2.2.1.symm.trans hexpired) (by decide)
  · by_cases htold : Told db s (service.grantedLease s now)
    · rw [activate_told h htold]
      exact .repeated ⟨hgeneration, hover, hactive, hleased, htold⟩
    · obtain ⟨db', active, heq, hm, -⟩ := activate_eq service world now true h hs
        (by simp [hactive, DeviceSessionStatus.reconnectable]) htold
      rw [heq]
      exact .accepted (.single hm) fun h => htold h.2.2.2.2

/-- A live session in its last generation. -/
def Exhausted (db : DeviceControlTables) (now : Instant) (token : AuthToken) (id : Uuid)
    (generation : ℕ) : Prop :=
  ∃ s, db.requireDevice token id = .ok s ∧ generation = s.generation ∧ s.overdue now = false ∧
    s.status.reconnectable = true ∧ s.generation = maxActiveDeviceSessionGeneration

/-- The next generation opens, unless it is the last or the tool session is gone. -/
lemma reopen_cases (world : DeviceControlWorld) (h : DeviceControlSound db) (hs : s ∈ db.sessions)
    (hstatus : s.status.reconnectable = true) :
    (s.generation = maxActiveDeviceSessionGeneration ∧
      reopen db world s = .error .generationExhausted) ∨
    (s.generation < maxActiveDeviceSessionGeneration ∧
      world.toolSession s.toolSessionReferenceId = none ∧
      reopen db world s = .error .toolSessionInactive) ∨
    ∃ toolSession, world.toolSession s.toolSessionReferenceId = some toolSession ∧
      s.generation < maxActiveDeviceSessionGeneration ∧
      reopen db world s = .ok ((db.setSession s.reopened).addTasks
        [s.reopened.activationTask toolSession], [], s.reopened) ∧
      DeviceMove db ((db.setSession s.reopened).addTasks
        [s.reopened.activationTask toolSession]) := by
  have hlive := DeviceSessionStatus.terminal_eq_false_of_reconnectable hstatus
  have hle := (h.sessions.rows s hs).live hlive
  unfold reopen incrementGeneration
  simp only [Bool.false_eq_true, if_false]
  rcases hle.eq_or_lt with hmax | hlt
  · rw [reject_of hmax.ge]
    exact .inl ⟨hmax, rfl⟩
  · rw [reject_of_not hlt.not_ge]
    simp only [ok_bind, pure_eq_ok]
    unfold requireToolSession
    cases htool : world.toolSession s.toolSessionReferenceId with
    | none => exact .inr (.inl ⟨hlt, rfl, rfl⟩)
    | some ts =>
      have hunused : db.Unused (s.reopened.activationTask ts) := by
        intro t ht hid
        have hfits := h.tasks.fits s hs t ht (by rw [hid]; rfl)
        rw [hid] at hfits
        exact absurd hfits (Nat.not_succ_le_self _)
      refine .inr (.inr ⟨ts, rfl, hlt, ?_, ?_⟩)
      · exact congrArg (fun x => x >>= fun db' => Except.ok (db', [], s.reopened))
          (addTask_of_unused (db.setSession s.reopened) hunused)
      · refine .changed hs (.reopened ts hstatus hlt) (by simpa using hunused) ?_
        intro hlock hnone
        exact absurd hnone hlock

lemma reopen_answer (h : DeviceControlSound db) (hget : db.requireDevice token id = .ok s)
    (hgeneration : generation = s.generation) (hover : s.overdue now = false)
    (hstatus : s.status.reconnectable = true) :
    DeviceAnswer False (Exhausted db now token id generation) False db
      (.ofExcept db (reopen db world s)) := by
  have hs := (requireDevice_eq_ok hget).1
  rcases reopen_cases world h hs hstatus with
    ⟨hmax, heq⟩ | ⟨-, -, heq⟩ | ⟨ts, -, -, heq, hm⟩
  · rw [heq]
    exact .exhausted ⟨s, hget, hgeneration, hover, hstatus, hmax⟩ not_false
  · rw [heq]
    exact .refused rfl not_false
  · rw [heq]
    exact .accepted (.single hm) not_false

lemma reconnect_answer (h : DeviceControlSound db) :
    DeviceAnswer False (Exhausted db now token id generation) False db
      (service.reconnect db world now token id generation) := by
  refine forDevice_cases (fun e he => .refused (requireDevice_plain e he) not_false)
    fun s hget hs => ?_
  refine requireCurrent_cases h hs (fun _ => .refused rfl not_false)
    (fun _ hover => .expired hs (overdue_live hover) rfl not_false)
    (fun _ _ _ => .refused rfl not_false) fun hgeneration hover _ => ?_
  by_cases hstatus : s.status.reconnectable = true
  · rw [reject_of_not (by simp [hstatus])]
    exact reopen_answer h hget hgeneration hover hstatus
  · rw [reject_of (by simpa using hstatus)]
    exact .refused rfl not_false

lemma abortAction_answer (h : DeviceControlSound db) :
    DeviceAnswer False (Exhausted db now token id generation) False db
      (service.abortAction db world now token id generation) := by
  refine forDevice_cases (fun e he => .refused (requireDevice_plain e he) not_false)
    fun s hget hs => ?_
  refine requireCurrent_cases h hs (fun _ => .refused rfl not_false)
    (fun _ hover => .expired hs (overdue_live hover) rfl not_false)
    (fun _ _ _ => .refused rfl not_false) fun hgeneration hover _ => ?_
  by_cases hstatus : s.status = .active
  · rw [reject_of_not (not_not.mpr hstatus)]
    exact reopen_answer h hget hgeneration hover
      (by simp [hstatus, DeviceSessionStatus.reconnectable])
  · rw [reject_of hstatus]
    exact .refused rfl not_false

/-! ### Stops -/

/-- A stop ends a live session and leaves an ended one alone. -/
lemma stop_cases (service : DeviceSessionService) (now : Instant) (reason : Text)
    (h : DeviceControlSound db) (hs : s ∈ db.sessions) :
    (s.status.terminal = false ∧ service.stop db now s reason =
      { db := db.ending s .stopped reason now,
        closed := service.closeRelay [(s.id, s.generation)],
        result := .ok (s.ended .stopped reason now) }) ∨
    (s.status.terminal = true ∧ service.stop db now s reason =
      { db := db, closed := service.closeRelay [], result := .ok s }) := by
  unfold stop
  by_cases hlive : s.status.terminal = false
  · rw [terminate_eq h hs hlive, ok_bind]
    dsimp only
    rw [require_ending db h hs]
    exact .inl ⟨hlive, rfl⟩
  · have hterminal : s.status.terminal = true := by simpa using hlive
    have hrequire : db.require s.id = .ok s := by
      have hget : db.get s.id = some s := lookup_of_mem h.sessions.ids hs
      unfold require
      rw [hget]
      rfl
    unfold terminate
    rw [if_pos hterminal]
    simp only [pure_eq_ok, ok_bind, hrequire]
    exact .inr ⟨hterminal, rfl⟩

lemma stop_answer (h : DeviceControlSound db) (hs : s ∈ db.sessions) {reason : Text} :
    DeviceAnswer False False False db (service.stop db now s reason) := by
  rcases stop_cases service now reason h hs with
    ⟨hlive, heq⟩ | ⟨-, heq⟩
  · rw [heq]
    exact .accepted (.single (ending_move h hs hlive rfl)) not_false
  · rw [heq]
    exact .accepted .refl not_false

lemma stopByUser_answer (h : DeviceControlSound db) {reason : Text} :
    DeviceAnswer False False False db (service.stopByUser db now user id reason) := by
  unfold stopByUser
  cases hs : db.require id with
  | error e => exact .refused (require_plain e hs) not_false
  | ok s =>
    dsimp only
    split_ifs
    · exact .refused rfl not_false
    · exact stop_answer h (require_eq_ok hs).1

lemma stopByDevice_answer (h : DeviceControlSound db) {reason : Text} :
    DeviceAnswer False False False db (service.stopByDevice db now token id reason) :=
  forDevice_cases (fun e he => .refused (requireDevice_plain e he) not_false)
    fun _ _ hs => stop_answer h hs

lemma stopByAdmin_answer (h : DeviceControlSound db) {reason : Text} :
    DeviceAnswer False False False db (service.stopByAdmin db now user id reason) := by
  unfold stopByAdmin
  split_ifs
  · exact .refused rfl not_false
  · cases hs : db.require id with
    | error e => exact .refused (require_plain e hs) not_false
    | ok s => exact stop_answer h (require_eq_ok hs).1

lemma stopListed_answer (h : DeviceControlSound db) {l : List DeviceSession}
    (hl : LiveList db l) {reason : Text} {commit : Bool} :
    DeviceAnswer False False False db (service.stopListed db now l reason commit) := by
  obtain ⟨db', heq, he⟩ := terminateAll_spec h hl .stopped reason now rfl
  unfold stopListed
  rw [heq]
  exact .accepted he.moves not_false

end DeviceSessionService

end

end AgentRemote
