import AgentRemote.DeviceControl.Tasks

/-!
# The endpoints and the relay

Each endpoint builds the service anew. Only `claim` and `stop` hand it the relay hub, so only
they close the relay of a generation they end.
-/

namespace AgentRemote
open Library DeviceControlTables DeviceSessionService

/-- The device-session endpoints. -/
inductive DeviceSessionRequest where
  | create (id : Uuid) (user : User) (token : AuthToken) (deviceId toolSessionId : Uuid)
  | claim (id : Uuid) (token : AuthToken) (toolSessionId : Uuid) (deviceCapabilities : List Text)
  | deleteTerminal (user : User)
  | inbox (token : AuthToken)
  | candidates (token : AuthToken) (toolSessions : List ToolSession)
  | get (user : User) (id : Uuid)
  | delete (user : User) (id : Uuid)
  | deviceConnected (token : AuthToken) (id : Uuid) (generation : ℕ)
  | approve (token : AuthToken) (id : Uuid) (generation : ℕ) (approvals : List DeviceApprovalItem)
  | lock (token : AuthToken) (id : Uuid) (generation : ℕ)
  | renew (token : AuthToken) (id : Uuid) (generation : ℕ)
  | reconnect (token : AuthToken) (id : Uuid) (generation : ℕ)
  | abort (token : AuthToken) (id : Uuid) (generation : ℕ)
  | stop (user : User) (token : AuthToken) (id : Uuid) (reason : Text)

namespace DeviceSessionRequest

/-- The endpoints that hand the hub to the service. -/
def withHub : DeviceSessionRequest → Bool
  | claim .. | stop .. => true
  | _ => false

/-- The operation of an endpoint. A stop is refused to a token of another type. -/
def action : DeviceSessionRequest → Option DeviceAction
  | create id user token deviceId toolSessionId =>
    some (.create id user token deviceId toolSessionId)
  | claim id token toolSessionId deviceCapabilities =>
    some (.claim id token toolSessionId deviceCapabilities)
  | deleteTerminal user => some (.deleteTerminalSessions user)
  | inbox token => some (.listForDevice token)
  | candidates token toolSessions => some (.listCandidates token toolSessions)
  | get user id => some (.getForUser user id)
  | delete user id => some (.deleteForUser user id)
  | deviceConnected token id generation => some (.markDeviceConnected token id generation)
  | approve token id generation approvals => some (.approve token id generation approvals)
  | lock token id generation => some (.acquireLock token id generation)
  | renew token id generation => some (.renew token id generation)
  | reconnect token id generation => some (.reconnect token id generation)
  | abort token id generation => some (.abortAction token id generation)
  | stop user token id reason =>
    match token.tokenType with
    | .device => some (.stopByDevice token id reason)
    | .user => some (if user.admin then .stopByAdmin user id reason else .stopByUser user id reason)
    | .other => none

end DeviceSessionRequest

/-- A request with the settings of its process and the rows of the other services. -/
structure DeviceSessionApiCall where
  settings : DeviceControlSettings
  world : DeviceControlWorld
  now : Instant
  request : DeviceSessionRequest

namespace DeviceSessionApiCall

def service (c : DeviceSessionApiCall) : DeviceSessionService := ⟨c.settings, c.request.withHub⟩

def perform (c : DeviceSessionApiCall) (db : DeviceControlTables) : DeviceSessionResponse Unit :=
  match c.request.action with
  | none => .fail db (.apiError "COMMON_FORBIDDEN" "Unsupported token type." 403)
  | some action => DeviceCall.perform ⟨c.service, c.world, c.now, action⟩ db

/-- The tables after some requests. -/
def run (requests : List DeviceSessionApiCall) : DeviceControlTables :=
  requests.foldl (fun db c => (c.perform db).db) {}

lemma sound {c : DeviceSessionApiCall} {db : DeviceControlTables} (h : DeviceControlSound db) :
    DeviceControlSound (c.perform db).db := by
  unfold perform
  cases c.request.action with
  | none => exact h
  | some action => exact (DeviceCall.answer h).sound h

lemma run_sound (requests : List DeviceSessionApiCall) : DeviceControlSound (run requests) := by
  suffices h : ∀ db, DeviceControlSound db →
      DeviceControlSound (requests.foldl (fun db c => (c.perform db).db) db) from h _ .empty
  induction requests with
  | nil => exact fun _ h => h
  | cons c requests ih => exact fun db h => ih _ (sound h)

end DeviceSessionApiCall

/-- Whenever a generation of a session was left, its relay was closed. -/
def ClosesRelays {α : Type} (db : DeviceControlTables) (r : DeviceSessionResponse α) : Prop :=
  ∀ s ∈ db.sessions, ∀ s' ∈ r.db.sessions, s'.id = s.id → s.generation < s'.generation →
    (s.id, s.generation) ∈ r.closed

section

variable {α : Type} {db : DeviceControlTables} {r : DeviceSessionResponse α} {s : DeviceSession}

lemma closesRelays_same (h : DeviceControlSound db)
    (hsub : ∀ s ∈ r.db.sessions, s ∈ db.sessions) : ClosesRelays db r := by
  intro s hs s' hs' hid hlt
  rw [h.sessions.eq_of_id (hsub s' hs') hs hid] at hlt
  exact absurd hlt (lt_irrefl _)

/-- The new row of one session leaves the other generations alone. -/
lemma closesRelays_setSession (new : DeviceSession) (h : DeviceControlSound db) (hs : s ∈ db.sessions) (hid : new.id = s.id) (hgeneration : new.generation = s.generation)
    (hr : r.db.sessions = (db.setSession new).sessions) : ClosesRelays db r := by
  intro t ht t' ht' htid hlt
  rw [hr, mem_setSession hs hid] at ht'
  rcases ht' with ⟨ht', -⟩ | rfl
  · rw [h.sessions.eq_of_id ht' ht htid] at hlt
    exact absurd hlt (lt_irrefl _)
  · obtain rfl := h.sessions.eq_of_id hs ht (hid.symm.trans htid)
    exact absurd hlt hgeneration.not_gt

lemma not_closesRelays {s' : DeviceSession} (hs : s ∈ db.sessions) (hs' : s' ∈ r.db.sessions)
    (hid : s'.id = s.id) (hlt : s.generation < s'.generation) (hclosed : r.closed = []) :
    ¬ClosesRelays db r := by
  intro h
  have hmem := h s hs s' hs' hid hlt
  rw [hclosed] at hmem
  cases hmem

lemma not_closesRelays_ending (hs : s ∈ db.sessions) {status : DeviceSessionStatus}
    {reason : Text} {now : Instant} (hr : r.db = db.ending s status reason now)
    (hclosed : r.closed = []) : ¬ClosesRelays db r := by
  have hmem : s.ended status reason now ∈ r.db.sessions := by
    rw [hr]
    exact (mem_ending hs).mpr (.inr rfl)
  exact not_closesRelays hs hmem rfl (Nat.lt_succ_self _) hclosed

/-- The ends of a list of sessions without a hub. -/
lemma closesRelays_endings_iff (h : DeviceControlSound db) {l : List DeviceSession}
    (hl : LiveList db l) {status : DeviceSessionStatus} {reason : Text} {now : Instant}
    (he : Endings db l status reason now r.db) (hclosed : r.closed = []) :
    ClosesRelays db r ↔ l = [] := by
  constructor
  · intro hc
    refine List.eq_nil_iff_forall_not_mem.mpr fun s hs => ?_
    exact not_closesRelays (hl.mem s hs) ((he.rows _).mpr (.inr ⟨s, hs, rfl⟩)) rfl
      (Nat.lt_succ_self _) hclosed hc
  · rintro rfl
    refine closesRelays_same h fun s hs => ?_
    simpa using (he.rows s).mp hs

lemma closesRelays_of_revokes (h : Revokes db r.db r.closed) : ClosesRelays db r := by
  intro s hs s' hs' hid hlt
  rcases h s hs s' hs' hid with rfl | hin
  · exact absurd hlt (lt_irrefl _)
  · exact hin

/-- A transaction that fails changes nothing, and one that commits closes what it revoked. -/
lemma closesRelays_ofExcept
    {x : Except DeviceControlFailure (DeviceControlTables × List (Uuid × ℕ) × α)}
    (h : DeviceControlSound db)
    (hok : ∀ db' closed a, x = .ok (db', closed, a) → Revokes db db' closed) :
    ClosesRelays db (DeviceSessionResponse.ofExcept db x) := by
  cases hx : x with
  | error e => exact closesRelays_same h fun _ hs => hs
  | ok y => exact closesRelays_of_revokes (hok y.1 y.2.1 y.2.2 hx)

end

namespace DeviceSessionService

variable {db db' : DeviceControlTables} {service : DeviceSessionService}
  {world : DeviceControlWorld} {now : Instant} {token : AuthToken} {user : User} {id : Uuid}
  {generation : ℕ} {s : DeviceSession}

lemma closeRelay_hubless (hhub : service.relayHub = false) (revoked : List (Uuid × ℕ)) :
    service.closeRelay revoked = [] := by
  unfold closeRelay
  rw [hhub]
  rfl

/-- The session of a device token whose current generation is named. -/
def Current (db : DeviceControlTables) (token : AuthToken) (id : Uuid) (generation : ℕ)
    (p : DeviceSession → Prop) : Prop :=
  ∃ s, db.requireDevice token id = .ok s ∧ generation = s.generation ∧ p s

lemma current_iff (hget : db.requireDevice token id = .ok s) {p : DeviceSession → Prop} :
    Current db token id generation p ↔ generation = s.generation ∧ p s := by
  constructor
  · rintro ⟨t, ht, h⟩
    obtain rfl := Except.ok.inj (hget.symm.trans ht)
    exact h
  · exact fun h => ⟨s, hget, h⟩

lemma not_current (h : ∃ e, db.requireDevice token id = .error e) {p : DeviceSession → Prop} :
    ¬Current db token id generation p := by
  rintro ⟨s, hs, -⟩
  obtain ⟨e, he⟩ := h
  cases he.symm.trans hs

/-- An operation of the device that first expires what is overdue: it closes its relays when
neither that happens nor the rest leaves a generation. -/
lemma forDevice_closesRelays {α : Type} {rest : DeviceSession → DeviceSessionResponse α}
    {p : DeviceSession → Prop} (h : DeviceControlSound db) (hhub : service.relayHub = false)
    (hexpired : ∀ s, s.status = .expired → ¬p s)
    (hrest : ∀ s ∈ db.sessions, s.overdue now = false → (ClosesRelays db (rest s) ↔ ¬p s)) :
    ClosesRelays db (forDevice db token id fun s =>
        service.requireCurrent db now s generation (rest s)) ↔
      ¬Current db token id generation fun s => s.overdue now = true ∨ p s := by
  refine forDevice_cases (P := fun r => ClosesRelays db r ↔ _)
    (fun e he => iff_of_true (closesRelays_same h fun _ hs => hs) (not_current ⟨e, he⟩))
    fun s hget hs => ?_
  rw [current_iff hget]
  refine requireCurrent_cases (P := fun r => ClosesRelays db r ↔ _) h hs ?_ ?_ ?_ ?_
  · exact fun hne => iff_of_true (closesRelays_same h fun _ hs => hs) fun h => hne h.1
  · intro hgeneration hover
    exact iff_of_false (not_closesRelays_ending hs rfl (closeRelay_hubless hhub _))
      fun hn => hn ⟨hgeneration, .inl hover⟩
  · intro _ hover hstatus
    refine iff_of_true (closesRelays_same h fun _ hs => hs) ?_
    rintro ⟨-, ho | hp⟩
    · exact absurd (hover.symm.trans ho) (by decide)
    · exact hexpired s hstatus hp
  · intro hgeneration hover _
    rw [hrest s hs hover]
    simp [hgeneration, hover]

/-- The same for an operation that needs an unlapsed lease and keeps the generation. -/
lemma forDevice_active_closesRelays {α : Type} {rest : DeviceSession → DeviceSessionResponse α}
    (h : DeviceControlSound db) (hhub : service.relayHub = false)
    (hrest : ∀ s ∈ db.sessions, s.status = .active → ClosesRelays db (rest s)) :
    ClosesRelays db (forDevice db token id fun s =>
        service.requireActiveGeneration db now s generation (rest s)) ↔
      ¬Current db token id generation fun s =>
        s.overdue now = true ∨ s.status = .active ∧ ¬Leased s now := by
  refine forDevice_cases (P := fun r => ClosesRelays db r ↔ _)
    (fun e he => iff_of_true (closesRelays_same h fun _ hs => hs) (not_current ⟨e, he⟩))
    fun s hget hs => ?_
  have hsame : ∀ {r : DeviceSessionResponse α}, r.db = db → ClosesRelays db r :=
    fun hr => closesRelays_same h fun _ hs => hr ▸ hs
  rw [current_iff hget]
  refine requireActiveGeneration_cases (P := fun r => ClosesRelays db r ↔ _) h hs ?_ ?_ ?_ ?_ ?_ ?_
  · exact fun hne => iff_of_true (hsame rfl) fun h => hne h.1
  · intro hgeneration hover
    exact iff_of_false (not_closesRelays_ending hs rfl (closeRelay_hubless hhub _))
      fun hn => hn ⟨hgeneration, .inl hover⟩
  · intro _ hover hstatus
    refine iff_of_true (hsame rfl) ?_
    rintro ⟨-, ho | ⟨hactive, -⟩⟩
    · exact absurd (hover.symm.trans ho) (by decide)
    · exact absurd (hactive.symm.trans hstatus) (by decide)
  · intro _ hover hstatus
    refine iff_of_true (hsame rfl) ?_
    rintro ⟨-, ho | ⟨hactive, -⟩⟩
    · exact absurd (hover.symm.trans ho) (by decide)
    · exact hstatus hactive
  · intro hgeneration _ hactive hlapsed
    exact iff_of_false (not_closesRelays_ending hs rfl (closeRelay_hubless hhub _))
      fun hn => hn ⟨hgeneration, .inr ⟨hactive, hlapsed⟩⟩
  · intro _ hover hactive hleased
    refine iff_of_true (hrest s hs hactive) ?_
    rintro ⟨-, ho | ⟨-, hlapsed⟩⟩
    · exact absurd (hover.symm.trans ho) (by decide)
    · exact hlapsed hleased

/-- Activation keeps the generation. -/
lemma activate_closesRelays (service : DeviceSessionService) (world : DeviceControlWorld)
    (now : Instant) (v2Enabled : Bool) (h : DeviceControlSound db) (hs : s ∈ db.sessions)
    (hstatus : s.status.reconnectable = true) :
    ClosesRelays db (.ofExcept db (do
      let (db', active) ← service.activate db world now s v2Enabled
      pure (db', [], active))) := by
  by_cases htold : Told db s (service.grantedLease s now)
  · rw [activate_told h htold]
    exact closesRelays_same h fun _ hs => hs
  · obtain ⟨db', active, heq, -, hrows, hid, hgeneration⟩ := activate_eq service world now
      v2Enabled h hs hstatus htold
    rw [heq]
    exact closesRelays_setSession active h hs hid hgeneration hrows

lemma markDeviceConnected_closesRelays (h : DeviceControlSound db)
    (hhub : service.relayHub = false) :
    ClosesRelays db (service.markDeviceConnected db world now token id generation) ↔
      ¬Current db token id generation fun s => s.overdue now = true := by
  refine (forDevice_closesRelays (p := fun _ => False) h hhub (fun _ _ => not_false) ?_).trans ?_
  · refine fun s hs _ => iff_of_true ?_ not_false
    by_cases hstatus : s.status = .pendingDevice
    · rw [reject_of_not (not_not.mpr hstatus), ok_bind]
      split
      · cases hcheck : service.checkFullTrust world s with
        | error e => exact closesRelays_same h fun _ hs => hs
        | ok _ =>
          exact activate_closesRelays _ _ _ _ h hs
            (by simp [hstatus, DeviceSessionStatus.reconnectable])
      · exact closesRelays_setSession { s with status := .pendingUserApproval } h hs rfl
          rfl rfl
    · rw [reject_of hstatus]
      exact closesRelays_same h fun _ hs => hs
  · simp only [or_false]

/-- The user denies every application of a session that waits for the approval. -/
def Denies (approvals : List DeviceApprovalItem) (s : DeviceSession) : Prop :=
  s.authorizationMode = .perApplicationApproval ∧ s.status = .pendingUserApproval ∧
    (approvals.map (·.applicationDigest)).Nodup ∧ ∀ item ∈ approvals, item.allowed = false

lemma approve_closesRelays {approvals : List DeviceApprovalItem} (h : DeviceControlSound db)
    (hhub : service.relayHub = false) :
    ClosesRelays db (service.approve db world now token id generation approvals) ↔
      ¬Current db token id generation fun s => s.overdue now = true ∨ Denies approvals s := by
  refine forDevice_closesRelays h hhub ?_ fun s hs hover => ?_
  · rintro s hexpired ⟨-, hstatus, -⟩
    exact absurd (hstatus.symm.trans hexpired) (by decide)
  have h₁ := h.move (.approved s.id approvals)
  have hsame : ∀ {r : DeviceSessionResponse DeviceSession}, r.db = db → ClosesRelays db r :=
    fun hr => closesRelays_same h fun _ hs => hr ▸ hs
  by_cases hmode : s.authorizationMode = .perApplicationApproval
  · by_cases hstatus : s.status = .pendingUserApproval
    · by_cases hunique : (approvals.map (·.applicationDigest)).Nodup
      · rw [reject_of_not (not_not.mpr hmode), reject_of_not (not_not.mpr hstatus),
          reject_of_not (not_not.mpr hunique)]
        simp only [ok_bind]
        have hlive : s.status.terminal = false := by simp [hstatus, DeviceSessionStatus.terminal]
        split_ifs with hdenied
        · rw [endSession_eq (db.replaceApprovals s.id approvals) h₁ hs hlive, ok_bind,
            require_ending (db.replaceApprovals s.id approvals) h₁ hs]
          refine iff_of_false (fun hc => ?_) fun hn => hn ⟨hmode, hstatus, hunique, hdenied⟩
          have hmem : s ∈ (db.replaceApprovals s.id approvals).sessions := hs
          exact not_closesRelays_ending hmem rfl (closeRelay_hubless hhub _) hc
        · refine iff_of_true ?_ fun hd => hdenied hd.2.2.2
          have hactive := activate_closesRelays service world now
            service.settings.deviceControlV2Enabled h₁ hs
            (by simp [hstatus, DeviceSessionStatus.reconnectable])
          cases hx : service.activate (db.replaceApprovals s.id approvals) world now s
              service.settings.deviceControlV2Enabled with
          | error e => exact hsame rfl
          | ok a =>
            rw [hx] at hactive
            exact hactive
      · rw [reject_of_not (not_not.mpr hmode), reject_of_not (not_not.mpr hstatus),
          reject_of hunique]
        exact iff_of_true (hsame rfl) fun hd => hunique hd.2.2.1
    · rw [reject_of_not (not_not.mpr hmode), reject_of hstatus]
      exact iff_of_true (hsame rfl) fun hd => hstatus hd.2.1
  · rw [reject_of hmode]
    exact iff_of_true (hsame rfl) fun hd => hmode hd.1

lemma acquireLock_closesRelays (h : DeviceControlSound db) (hhub : service.relayHub = false) :
    ClosesRelays db (service.acquireLock db now token id generation) ↔
      ¬Current db token id generation fun s =>
        s.overdue now = true ∨ s.status = .active ∧ ¬Leased s now := by
  refine forDevice_active_closesRelays h hhub fun s hs _ => ?_
  have hsame : ∀ {r : DeviceSessionResponse DeviceSession}, r.db = db → ClosesRelays db r :=
    fun hr => closesRelays_same h fun _ hs => hr ▸ hs
  by_cases hlock : s.lockAcquiredAt = none
  · rw [if_neg (not_not.mpr hlock)]
    by_cases hmachine : db.findMachineLock s.deviceId s.id = none
    · rw [reject_of_not (not_not.mpr hmachine), ok_bind]
      dsimp only
      cases hx : db.lockSession { s with lockAcquiredAt := some now } with
      | error e => exact hsame rfl
      | ok db' =>
        obtain ⟨-, -, hdb'⟩ := bind_eq_ok.mp hx
        obtain rfl := Except.ok.inj hdb'
        exact closesRelays_setSession { s with lockAcquiredAt := some now } h hs rfl rfl
          rfl
    · rw [reject_of hmachine]
      exact hsame rfl
  · rw [if_pos hlock]
    exact hsame rfl

lemma renew_closesRelays (h : DeviceControlSound db) (hhub : service.relayHub = false) :
    ClosesRelays db (service.renew db world now token id generation) ↔
      ¬Current db token id generation fun s =>
        s.overdue now = true ∨ s.status = .active ∧ ¬Leased s now :=
  forDevice_active_closesRelays h hhub fun _ hs hactive =>
    activate_closesRelays _ _ _ _ h hs (by simp [hactive, DeviceSessionStatus.reconnectable])

/-- A session with a further generation whose tool session still exists. -/
def Reopens (world : DeviceControlWorld) (s : DeviceSession) : Prop :=
  s.generation < maxActiveDeviceSessionGeneration ∧
    world.toolSession s.toolSessionReferenceId ≠ none

lemma reopen_closesRelays (h : DeviceControlSound db) (hs : s ∈ db.sessions)
    (hstatus : s.status.reconnectable = true) :
    ClosesRelays db (.ofExcept db (reopen db world s)) ↔ ¬Reopens world s := by
  have hsame : ∀ {r : DeviceSessionResponse DeviceSession}, r.db = db → ClosesRelays db r :=
    fun hr => closesRelays_same h fun _ hs => hr ▸ hs
  rcases reopen_cases world h hs hstatus with
    ⟨hmax, heq⟩ | ⟨-, htool, heq⟩ | ⟨ts, htool, hlt, heq, -⟩
  · rw [heq]
    exact iff_of_true (hsame rfl) fun hr => hr.1.ne hmax
  · rw [heq]
    exact iff_of_true (hsame rfl) fun hr => hr.2 htool
  · rw [heq]
    refine iff_of_false ?_ fun hn => hn ⟨hlt, by simp [htool]⟩
    have hid : s.reopened.id = s.id := rfl
    have hmem : s.reopened ∈ (db.setSession s.reopened).sessions :=
      (mem_setSession hs hid).mpr (.inr rfl)
    exact not_closesRelays hs hmem rfl (Nat.lt_succ_self _) rfl

lemma reconnect_closesRelays (h : DeviceControlSound db) (hhub : service.relayHub = false) :
    ClosesRelays db (service.reconnect db world now token id generation) ↔
      ¬Current db token id generation fun s =>
        s.overdue now = true ∨ s.status.reconnectable = true ∧ Reopens world s := by
  refine forDevice_closesRelays h hhub (fun s hexpired hp => ?_) fun s hs _ => ?_
  · rw [hexpired] at hp
    exact absurd hp.1 (by decide)
  · by_cases hstatus : s.status.reconnectable = true
    · rw [reject_of_not (by simp [hstatus])]
      refine (reopen_closesRelays h hs hstatus).trans ?_
      simp [hstatus]
    · rw [reject_of (by simpa using hstatus)]
      exact iff_of_true (closesRelays_same h fun _ hs => hs) fun hp => hstatus hp.1

lemma abortAction_closesRelays (h : DeviceControlSound db) (hhub : service.relayHub = false) :
    ClosesRelays db (service.abortAction db world now token id generation) ↔
      ¬Current db token id generation fun s =>
        s.overdue now = true ∨ s.status = .active ∧ Reopens world s := by
  refine forDevice_closesRelays h hhub (fun s hexpired hp => ?_) fun s hs _ => ?_
  · exact absurd (hp.1.symm.trans hexpired) (by decide)
  · by_cases hstatus : s.status = .active
    · rw [reject_of_not (not_not.mpr hstatus)]
      refine (reopen_closesRelays h hs
        (by simp [hstatus, DeviceSessionStatus.reconnectable])).trans ?_
      simp [hstatus]
    · rw [reject_of hstatus]
      exact iff_of_true (closesRelays_same h fun _ hs => hs) fun hp => hstatus hp.1

lemma listForDevice_closesRelays (h : DeviceControlSound db) (hhub : service.relayHub = false) :
    ClosesRelays db (service.listForDevice db now token) ↔
      ¬∃ deviceId, requireDeviceToken token = .ok deviceId ∧
        ∃ s ∈ db.listForDevice deviceId, s.overdue now = true := by
  unfold listForDevice
  cases htoken : requireDeviceToken token with
  | error e => exact iff_of_true (closesRelays_same h fun _ hs => hs) (by simp)
  | ok deviceId =>
    have hl := liveList_listForDevice h deviceId
    obtain ⟨db', heq, he⟩ := expireListed_spec service now h hl []
    dsimp only
    rw [heq]
    refine (closesRelays_endings_iff h (hl.filter _) he (closeRelay_hubless hhub _)).trans ?_
    rw [List.filter_eq_nil_iff]
    simp

lemma listCandidates_closesRelays {toolSessions : List ToolSession} (h : DeviceControlSound db)
    (hhub : service.relayHub = false) :
    ClosesRelays db (service.listCandidates db world now token toolSessions) ↔
      ¬(service.checkCandidates world token = .ok () ∧ ∃ s ∈ db.sessions, s.overdue now = true) := by
  unfold listCandidates
  cases hchecked : service.checkCandidates world token with
  | error e => exact iff_of_true (closesRelays_same h fun _ hs => hs) (by simp)
  | ok _ =>
    obtain ⟨db', heq, he⟩ := expireDue_spec service now h
    dsimp only
    rw [heq]
    refine (closesRelays_endings_iff h (liveList_listDue h now) he (closeRelay_hubless hhub _)).trans ?_
    rw [List.eq_nil_iff_forall_not_mem]
    simp [mem_listDue, DeviceSession.overdue]

lemma getForUser_closesRelays (h : DeviceControlSound db) (hhub : service.relayHub = false) :
    ClosesRelays db (service.getForUser db now user id) ↔
      ¬∃ s, db.require id = .ok s ∧ s.userId = user.id ∧ s.overdue now = true := by
  unfold getForUser
  cases hs : db.require id with
  | error e => exact iff_of_true (closesRelays_same h fun _ hs => hs) (by simp)
  | ok s =>
    have hmem := (require_eq_ok hs).1
    dsimp only
    split_ifs with huser hover
    · refine iff_of_true (closesRelays_same h fun _ hs => hs) ?_
      rintro ⟨t, ht, hn, -⟩
      obtain rfl := Except.ok.inj ht
      exact huser hn
    · rw [terminate_eq h hmem (overdue_live hover)]
      exact iff_of_false (not_closesRelays_ending hmem rfl (closeRelay_hubless hhub _))
        fun hn => hn ⟨s, rfl, not_not.mp huser, hover⟩
    · refine iff_of_true (closesRelays_same h fun _ hs => hs) ?_
      rintro ⟨t, ht, -, hn⟩
      obtain rfl := Except.ok.inj ht
      exact hover hn

lemma claim_closesRelays {toolSessionId : Uuid} {deviceCapabilities : List Text}
    (h : DeviceControlSound db) (hhub : service.relayHub = true) :
    ClosesRelays db (service.claim db world now id token toolSessionId deviceCapabilities) := by
  unfold claim
  exact closesRelays_ofExcept h fun db' closed s hx => (claim_eq_ok h hx).2 hhub

lemma stop_closesRelays (h : DeviceControlSound db) (hs : s ∈ db.sessions) {reason : Text}
    (hhub : service.relayHub = true) : ClosesRelays db (service.stop db now s reason) := by
  rcases stop_cases service now reason h hs with
    ⟨-, heq⟩ | ⟨-, heq⟩
  · rw [heq]
    unfold closeRelay
    rw [hhub, if_pos rfl]
    intro t ht t' ht' hid hlt
    rcases (mem_ending hs).mp ht' with ⟨ht', -⟩ | rfl
    · rw [h.sessions.eq_of_id ht' ht hid] at hlt
      exact absurd hlt (lt_irrefl _)
    · obtain rfl := h.sessions.eq_of_id hs ht hid
      exact List.mem_singleton_self _
  · rw [heq]
    exact closesRelays_same h fun _ hs => hs

lemma create_closesRelays {deviceId toolSessionId : Uuid} (h : DeviceControlSound db) :
    ClosesRelays db (service.create db world now id user token deviceId toolSessionId) := by
  unfold create
  refine closesRelays_ofExcept h fun db' closed s hx => ?_
  simp only [bind_eq_ok, Prod.exists] at hx
  obtain ⟨device, ts, -, db₁, hinsert, hx⟩ := hx
  cases hx
  exact insertSession_revokes h hinsert

lemma deleteForUser_closesRelays (h : DeviceControlSound db) :
    ClosesRelays db (deleteForUser db user id) := by
  refine closesRelays_same h ?_
  unfold deleteForUser
  cases hs : db.require id with
  | error e => exact fun _ hs => hs
  | ok s =>
    rw [ok_bind]
    by_cases huser : s.userId ≠ user.id ∧ user.admin = false
    · rw [reject_of huser]
      exact fun _ hs => hs
    · rw [reject_of_not huser, ok_bind]
      by_cases hlive : s.status.terminal = false
      · rw [reject_of hlive]
        exact fun _ hs => hs
      · rw [reject_of_not hlive]
        exact fun _ hs => List.mem_of_mem_filter hs

lemma stopRequest_closesRelays (service : DeviceSessionService) (now : Instant) (user : User)
    (token : AuthToken) (id : Uuid) (reason : Text) (h : DeviceControlSound db) (hhub : service.relayHub = true) :
    ClosesRelays db (service.stopByUser db now user id reason) ∧
      ClosesRelays db (service.stopByAdmin db now user id reason) ∧
      ClosesRelays db (service.stopByDevice db now token id reason) := by
  have hsame : ∀ e, ClosesRelays db (.fail db e : DeviceSessionResponse DeviceSession) :=
    fun _ => closesRelays_same h fun _ hs => hs
  refine ⟨?_, ?_, ?_⟩
  · unfold stopByUser
    cases hs : db.require id with
    | error e => exact hsame e
    | ok s =>
      dsimp only
      split_ifs
      · exact hsame _
      · exact stop_closesRelays h (require_eq_ok hs).1 hhub
  · unfold stopByAdmin
    split_ifs
    · exact hsame _
    · cases hs : db.require id with
      | error e => exact hsame e
      | ok s => exact stop_closesRelays h (require_eq_ok hs).1 hhub
  · exact forDevice_cases (fun e _ => hsame e) fun _ _ hs => stop_closesRelays h hs hhub

end DeviceSessionService

open DeviceSessionService

/-- The request leaves a generation without closing its relay. -/
def DeviceSessionApiCall.LeavesOpen (c : DeviceSessionApiCall) (db : DeviceControlTables) : Prop :=
  match c.request with
  | .inbox token => ∃ deviceId, requireDeviceToken token = .ok deviceId ∧
      ∃ s ∈ db.listForDevice deviceId, s.overdue c.now = true
  | .candidates token _ => c.service.checkCandidates c.world token = .ok () ∧
      ∃ s ∈ db.sessions, s.overdue c.now = true
  | .get user id => ∃ s, db.require id = .ok s ∧ s.userId = user.id ∧ s.overdue c.now = true
  | .deviceConnected token id generation =>
    Current db token id generation fun s => s.overdue c.now = true
  | .approve token id generation approvals =>
    Current db token id generation fun s => s.overdue c.now = true ∨ Denies approvals s
  | .lock token id generation | .renew token id generation =>
    Current db token id generation fun s =>
      s.overdue c.now = true ∨ s.status = .active ∧ ¬Leased s c.now
  | .reconnect token id generation =>
    Current db token id generation fun s =>
      s.overdue c.now = true ∨ s.status.reconnectable = true ∧ Reopens c.world s
  | .abort token id generation =>
    Current db token id generation fun s =>
      s.overdue c.now = true ∨ s.status = .active ∧ Reopens c.world s
  | .create .. | .claim .. | .deleteTerminal .. | .delete .. | .stop .. => False

lemma DeviceSessionApiCall.closesRelays_iff {c : DeviceSessionApiCall} {db : DeviceControlTables}
    (h : DeviceControlSound db) : ClosesRelays db (c.perform db) ↔ ¬c.LeavesOpen db := by
  obtain ⟨settings, world, now, request⟩ := c
  have hsame : ∀ {r : DeviceSessionResponse Unit}, (∀ s ∈ r.db.sessions, s ∈ db.sessions) →
      ClosesRelays db r := closesRelays_same h
  cases request with
  | create => exact iff_of_true (create_closesRelays h) not_false
  | claim => exact iff_of_true (claim_closesRelays h rfl) not_false
  | deleteTerminal => exact iff_of_true (hsame fun _ hs => List.mem_of_mem_filter hs) not_false
  | inbox => exact listForDevice_closesRelays h rfl
  | candidates => exact listCandidates_closesRelays h rfl
  | get => exact getForUser_closesRelays h rfl
  | delete => exact iff_of_true (deleteForUser_closesRelays h) not_false
  | deviceConnected => exact markDeviceConnected_closesRelays h rfl
  | approve => exact approve_closesRelays h rfl
  | lock => exact acquireLock_closesRelays h rfl
  | renew => exact renew_closesRelays h rfl
  | reconnect => exact reconnect_closesRelays h rfl
  | abort => exact abortAction_closesRelays h rfl
  | stop user token id reason =>
    refine iff_of_true ?_ not_false
    obtain ⟨huser, hadmin, hdevice⟩ := stopRequest_closesRelays ⟨settings, true⟩ now user token
      id reason h rfl
    unfold perform DeviceSessionRequest.action
    dsimp only
    cases token.tokenType with
    | device => exact hdevice
    | user =>
      cases user.admin with
      | true => exact hadmin
      | false => exact huser
    | other => exact hsame fun _ hs => hs

/-- Every request of a run closes the relays of the generations it leaves, exactly when none
of them leaves one through an endpoint that has no hub. -/
theorem relays_closed_iff (requests : List DeviceSessionApiCall) :
    (∀ earlier c later, requests = earlier ++ c :: later →
        ClosesRelays (DeviceSessionApiCall.run earlier)
          (c.perform (DeviceSessionApiCall.run earlier))) ↔
      ∀ earlier c later, requests = earlier ++ c :: later →
        ¬c.LeavesOpen (DeviceSessionApiCall.run earlier) := by
  refine forall_congr' fun earlier => forall_congr' fun c => forall_congr' fun later =>
    imp_congr_right fun _ => ?_
  exact DeviceSessionApiCall.closesRelays_iff (DeviceSessionApiCall.run_sound earlier)

/-- A request of the sample device some seconds after the epoch. -/
def sampleDeviceRequest (time : ℕ) (request : DeviceSessionRequest) : DeviceSessionApiCall :=
  ⟨sampleDeviceService.settings, sampleDeviceWorld, seconds time, request⟩

/-- The device claims the session, connects and approves an application. -/
def sampleApprovedRequests : List DeviceSessionApiCall :=
  [sampleDeviceRequest 0 (.claim 11 sampleDeviceToken 7 []),
    sampleDeviceRequest 1 (.deviceConnected sampleDeviceToken 11 1),
    sampleDeviceRequest 2 (.approve sampleDeviceToken 11 1
      [{ applicationDigest := "d".toList, controlLevel := "full".toList, allowed := true,
         clipboardAllowed := false }])]

/-- The device aborts an action, and the relay of the generation it leaves stays open. -/
theorem abort_leaves_relay_open :
    ¬∀ earlier c later, sampleApprovedRequests ++
        [sampleDeviceRequest 3 (.abort sampleDeviceToken 11 1)] = earlier ++ c :: later →
      ClosesRelays (DeviceSessionApiCall.run earlier)
        (c.perform (DeviceSessionApiCall.run earlier)) := by
  intro h
  have hclosed := h sampleApprovedRequests _ [] rfl
  revert hclosed
  unfold ClosesRelays
  decide +kernel

end AgentRemote
