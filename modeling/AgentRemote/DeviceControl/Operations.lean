import AgentRemote.DeviceControl.Moves

/-!
# The operations as calls

The operations of the service as calls on the tables, and what the end of one or of several
sessions does to them.
-/

namespace AgentRemote
open Library

inductive DeviceAction where
  | create (id : Uuid) (user : User) (token : AuthToken) (deviceId toolSessionId : Uuid)
  | claim (id : Uuid) (token : AuthToken) (toolSessionId : Uuid) (deviceCapabilities : List Text)
  | deleteForUser (user : User) (id : Uuid)
  | deleteTerminalSessions (user : User)
  | deleteTerminalBefore (cutoff : Instant) (limit : ℕ)
  | listForDevice (token : AuthToken)
  | listCandidates (token : AuthToken) (toolSessions : List ToolSession)
  | getForUser (user : User) (id : Uuid)
  | markDeviceConnected (token : AuthToken) (id : Uuid) (generation : ℕ)
  | approve (token : AuthToken) (id : Uuid) (generation : ℕ) (approvals : List DeviceApprovalItem)
  | acquireLock (token : AuthToken) (id : Uuid) (generation : ℕ)
  | renew (token : AuthToken) (id : Uuid) (generation : ℕ)
  | reconnect (token : AuthToken) (id : Uuid) (generation : ℕ)
  | abortAction (token : AuthToken) (id : Uuid) (generation : ℕ)
  | stopByUser (user : User) (id : Uuid) (reason : Text)
  | stopByDevice (token : AuthToken) (id : Uuid) (reason : Text)
  | stopByAdmin (user : User) (id : Uuid) (reason : Text)
  | stopForToolSession (toolSessionId : Uuid) (reason : Text) (commit : Bool)
  | stopForDevice (deviceId : Uuid) (reason : Text) (commit : Bool)
  | expireDue

/-- Whether an action may delete rows. -/
def DeviceAction.deletes : DeviceAction → Bool
  | deleteForUser .. | deleteTerminalSessions .. | deleteTerminalBefore .. => true
  | _ => false

/-- A call of the service, with the rows of the other services at its time. -/
structure DeviceCall where
  service : DeviceSessionService
  world : DeviceControlWorld
  now : Instant
  action : DeviceAction

/-- An answer without its data. -/
def DeviceSessionResponse.void {α : Type} (r : DeviceSessionResponse α) :
    DeviceSessionResponse Unit where
  db := r.db
  closed := r.closed
  result := r.result.map fun _ => ()

namespace DeviceCall

def perform (c : DeviceCall) (db : DeviceControlTables) : DeviceSessionResponse Unit :=
  match c.action with
  | .create id user token deviceId toolSessionId =>
    (c.service.create db c.world c.now id user token deviceId toolSessionId).void
  | .claim id token toolSessionId deviceCapabilities =>
    (c.service.claim db c.world c.now id token toolSessionId deviceCapabilities).void
  | .deleteForUser user id => DeviceSessionService.deleteForUser db user id
  | .deleteTerminalSessions user => (DeviceSessionService.deleteTerminalSessions db user).void
  | .deleteTerminalBefore cutoff limit =>
    (DeviceSessionService.deleteTerminalBefore db cutoff limit).void
  | .listForDevice token => (c.service.listForDevice db c.now token).void
  | .listCandidates token toolSessions =>
    (c.service.listCandidates db c.world c.now token toolSessions).void
  | .getForUser user id => (c.service.getForUser db c.now user id).void
  | .markDeviceConnected token id generation =>
    (c.service.markDeviceConnected db c.world c.now token id generation).void
  | .approve token id generation approvals =>
    (c.service.approve db c.world c.now token id generation approvals).void
  | .acquireLock token id generation =>
    (c.service.acquireLock db c.now token id generation).void
  | .renew token id generation => (c.service.renew db c.world c.now token id generation).void
  | .reconnect token id generation =>
    (c.service.reconnect db c.world c.now token id generation).void
  | .abortAction token id generation =>
    (c.service.abortAction db c.world c.now token id generation).void
  | .stopByUser user id reason => (c.service.stopByUser db c.now user id reason).void
  | .stopByDevice token id reason => (c.service.stopByDevice db c.now token id reason).void
  | .stopByAdmin user id reason => (c.service.stopByAdmin db c.now user id reason).void
  | .stopForToolSession toolSessionId reason commit =>
    (c.service.stopForToolSession db c.now toolSessionId reason commit).void
  | .stopForDevice deviceId reason commit =>
    (c.service.stopForDevice db c.now deviceId reason commit).void
  | .expireDue => (c.service.expireDue db c.now).void

/-- The tables after a run from empty ones. -/
def run (calls : List DeviceCall) : DeviceControlTables :=
  calls.foldl (fun db c => (c.perform db).db) {}

end DeviceCall

/-! ### The end of sessions -/

namespace DeviceControlTables

/-- The tables after the end of one session. -/
def ending (db : DeviceControlTables) (s : DeviceSession) (status : DeviceSessionStatus)
    (reason : Text) (now : Instant) : DeviceControlTables :=
  (db.setSession (s.ended status reason now)).addTasks
    [(s.ended status reason now).deactivationTask]

variable {db db' : DeviceControlTables} {s : DeviceSession}
  {status : DeviceSessionStatus} {reason : Text} {now : Instant} {t : DeviceControlTask}

lemma addTask_of_unused (db : DeviceControlTables) (h : db.Unused t) : db.addTask t = .ok (db.addTasks [t]) := by
  unfold addTask
  rw [reject_of_not fun ⟨u, hu, he⟩ => h u hu he]
  rfl

lemma addTask_of_used (db : DeviceControlTables) (h : ¬db.Unused t) : db.addTask t = .error .integrityError := by
  unfold Unused at h
  push Not at h
  unfold addTask
  rw [reject_of h]
  rfl

/-- The node of a live session has not been told of its end. -/
lemma deactivation_unused (h : DeviceControlSound db) (hs : s ∈ db.sessions)
    (hlive : s.status.terminal = false) :
    db.Unused (s.ended status reason now).deactivationTask := by
  intro u hu hid
  have hfits := h.tasks.fits s hs u hu (by rw [hid]; rfl)
  rw [hid] at hfits
  exact absurd (hfits.symm.trans hlive) (by decide)

/-- A live session has a generation left to end in. -/
lemma generation_lt (h : DeviceControlSound db) (hs : s ∈ db.sessions)
    (hlive : s.status.terminal = false) : s.generation < maxDeviceSessionGeneration :=
  ((h.sessions.rows s hs).live hlive).trans_lt (by decide)

lemma ending_move (h : DeviceControlSound db) (hs : s ∈ db.sessions)
    (hlive : s.status.terminal = false) (hstatus : status.terminal = true) :
    DeviceMove db (db.ending s status reason now) := by
  refine .changed hs (.ended reason now hlive hstatus (generation_lt h hs hlive)) ?_
    fun hne => absurd rfl hne
  simp only [List.mem_singleton, forall_eq]
  exact deactivation_unused h hs hlive

lemma endSession_eq (db : DeviceControlTables) (h : DeviceControlSound db) (hs : s ∈ db.sessions)
    (hlive : s.status.terminal = false) :
    db.endSession s status reason now = .ok (db.ending s status reason now) := by
  have hadvance : incrementGeneration s true = .ok { s with generation := s.generation + 1 } := by
    unfold incrementGeneration
    dsimp only
    rw [if_pos rfl, reject_of_not (generation_lt h hs hlive).not_ge]
    rfl
  unfold endSession
  rw [hadvance, ok_bind]
  exact addTask_of_unused _ (deactivation_unused h hs hlive)

lemma terminate_eq (h : DeviceControlSound db) (hs : s ∈ db.sessions)
    (hlive : s.status.terminal = false) :
    db.terminate s status reason now =
      .ok (db.ending s status reason now, [(s.id, s.generation)]) := by
  unfold terminate
  rw [if_neg (by simp [hlive]), endSession_eq db h hs hlive]
  rfl

lemma mem_ending (hs : s ∈ db.sessions) {x : DeviceSession} :
    x ∈ (db.ending s status reason now).sessions ↔
      (x ∈ db.sessions ∧ x.id ≠ s.id) ∨ x = s.ended status reason now :=
  mem_setSession hs rfl

/-- A list of distinct live sessions of the tables. -/
structure LiveList (db : DeviceControlTables) (l : List DeviceSession) : Prop where
  mem : ∀ s ∈ l, s ∈ db.sessions
  live : ∀ s ∈ l, s.status.terminal = false
  ids : (l.map (·.id)).Nodup

lemma LiveList.filter {l : List DeviceSession} (h : LiveList db l) (p : DeviceSession → Bool) :
    LiveList db (l.filter p) where
  mem s hs := h.mem s (List.mem_of_mem_filter hs)
  live s hs := h.live s (List.mem_of_mem_filter hs)
  ids := h.ids.sublist (List.filter_sublist.map _)

/-- The tables after the end of some sessions. -/
structure Endings (db : DeviceControlTables) (l : List DeviceSession)
    (status : DeviceSessionStatus) (reason : Text) (now : Instant) (db' : DeviceControlTables) :
    Prop where
  moves : DeviceMoves db db'
  rows : ∀ x, x ∈ db'.sessions ↔ (x ∈ db.sessions ∧ ∀ s ∈ l, s.id ≠ x.id) ∨
    ∃ s ∈ l, x = s.ended status reason now

/-- The end of one session before those of a list. -/
lemma Endings.cons {l : List DeviceSession} (hs : s ∈ db.sessions)
    (hmove : DeviceMove db (db.ending s status reason now)) (hother : ∀ t ∈ l, t.id ≠ s.id)
    (h : Endings (db.ending s status reason now) l status reason now db') :
    Endings db (s :: l) status reason now db' where
  moves := .head hmove h.moves
  rows x := by
    rw [h.rows, mem_ending hs]
    simp only [List.forall_mem_cons, List.exists_mem_cons_iff]
    constructor
    · rintro (⟨⟨hx, hxs⟩ | rfl, hxl⟩ | hx)
      · exact .inl ⟨hx, Ne.symm hxs, hxl⟩
      · exact .inr (.inl rfl)
      · exact .inr (.inr hx)
    · rintro (⟨hx, hxs, hxl⟩ | rfl | hx)
      · exact .inl ⟨.inl ⟨hx, Ne.symm hxs⟩, hxl⟩
      · exact .inl ⟨.inr rfl, hother⟩
      · exact .inr hx

/-- The first of a list of live sessions ends, and the others stay a list of live sessions. -/
lemma LiveList.ending {l : List DeviceSession} (hl : LiveList db (s :: l))
    (status : DeviceSessionStatus) (reason : Text) (now : Instant) :
    s ∈ db.sessions ∧ s.status.terminal = false ∧ (∀ t ∈ l, t.id ≠ s.id) ∧
      LiveList (db.ending s status reason now) l := by
  obtain ⟨hs, hmem⟩ := List.forall_mem_cons.mp hl.mem
  obtain ⟨hlive, hlives⟩ := List.forall_mem_cons.mp hl.live
  obtain ⟨hne, hids⟩ := List.nodup_cons.mp hl.ids
  have hother : ∀ t ∈ l, t.id ≠ s.id := fun t ht he => hne (List.mem_map.mpr ⟨t, ht, he⟩)
  exact ⟨hs, hlive, hother,
    fun t ht => (mem_ending hs).mpr (.inl ⟨hmem t ht, hother t ht⟩), hlives, hids⟩

lemma terminateAll_spec {l : List DeviceSession} (h : DeviceControlSound db) (hl : LiveList db l)
    (status : DeviceSessionStatus) (reason : Text) (now : Instant) (hstatus : status.terminal = true) :
    ∃ db', db.terminateAll l status reason now =
        .ok (db', l.map fun s => (s.id, s.generation)) ∧
      Endings db l status reason now db' := by
  have hacc : ∀ (revoked : List (Uuid × ℕ)), ∃ db',
      l.foldlM (fun (acc : DeviceControlTables × List (Uuid × ℕ)) s => do
        let r ← acc.1.terminate s status reason now
        pure (r.1, acc.2 ++ r.2)) (db, revoked) =
        (.ok (db', revoked ++ l.map fun s => (s.id, s.generation)) :
          Except DeviceControlFailure _) ∧
      Endings db l status reason now db' := by
    induction l generalizing db with
    | nil =>
      intro revoked
      exact ⟨db, by simp, .refl, by simp⟩
    | cons s l ih =>
      intro revoked
      obtain ⟨hs, hlive, hother, hl'⟩ := hl.ending status reason now
      have hm : DeviceMove db (db.ending s status reason now) := ending_move h hs hlive hstatus
      obtain ⟨db', hfold, hend⟩ := ih (h.move hm) hl' (revoked ++ [(s.id, s.generation)])
      refine ⟨db', ?_, .cons hs hm hother hend⟩
      rw [List.foldlM_cons, terminate_eq h hs hlive]
      exact hfold.trans (by simp)
  obtain ⟨db', hfold, hend⟩ := hacc []
  exact ⟨db', hfold, hend⟩

lemma mem_listLive {p : DeviceSession → Prop} [DecidablePred p] :
    s ∈ db.listLive p ↔ s ∈ db.sessions ∧ p s ∧ s.status.terminal = false := by
  unfold listLive
  rw [List.mem_insertionSort, List.mem_filter, decide_eq_true_eq]

lemma nodup_sorted_filter (h : DeviceControlSound db) {r : DeviceSession → DeviceSession → Prop}
    [DecidableRel r] (p : DeviceSession → Bool) :
    (((db.sessions.filter p).insertionSort r).map (·.id)).Nodup := by
  have hperm := (List.perm_insertionSort r (db.sessions.filter p)).map (·.id)
  exact hperm.nodup_iff.mpr (h.sessions.ids.sublist (List.filter_sublist.map _))

lemma liveList_listLive (h : DeviceControlSound db) (p : DeviceSession → Prop) [DecidablePred p] :
    LiveList db (db.listLive p) where
  mem _ hs := (mem_listLive.mp hs).1
  live _ hs := (mem_listLive.mp hs).2.2
  ids := nodup_sorted_filter h _

lemma mem_listDue :
    s ∈ db.listDue now ↔ s ∈ db.sessions ∧ s.status.terminal = false ∧ s.expiresAt ≤ now := by
  unfold listDue
  rw [List.mem_insertionSort, List.mem_filter, decide_eq_true_eq]

lemma liveList_listDue (h : DeviceControlSound db) (now : Instant) : LiveList db (db.listDue now) where
  mem _ hs := (mem_listDue.mp hs).1
  live _ hs := (mem_listDue.mp hs).2.1
  ids := nodup_sorted_filter h _

/-! ### The generations an operation ends -/

/-- Every session keeps its row, or the list names its generation. -/
def Revokes (db db' : DeviceControlTables) (revoked : List (Uuid × ℕ)) : Prop :=
  ∀ old ∈ db.sessions, ∀ new ∈ db'.sessions, new.id = old.id →
    new = old ∨ (old.id, old.generation) ∈ revoked

lemma Revokes.trans {db'' : DeviceControlTables} {revoked revoked' : List (Uuid × ℕ)}
    (hm : DeviceMoves db db') (hr : Revokes db db' revoked)
    (hr' : Revokes db' db'' revoked') : Revokes db db'' (revoked ++ revoked') := by
  intro old hold new hnew hid
  obtain ⟨mid, hmid, hmidid⟩ := exists_row_of_moves hm hold
  rcases hr old hold mid hmid hmidid with rfl | hin
  · exact (hr' mid hmid new hnew hid).imp_right (List.mem_append_right _)
  · exact .inr (List.mem_append_left _ hin)

lemma Endings.revokes (h : DeviceControlSound db) {l : List DeviceSession} (hl : LiveList db l)
    {status : DeviceSessionStatus} {reason : Text} (he : Endings db l status reason now db') :
    Revokes db db' (l.map fun s => (s.id, s.generation)) := by
  intro old hold new hnew hid
  rcases (he.rows new).mp hnew with ⟨hnew, -⟩ | ⟨s, hs, rfl⟩
  · exact .inl (h.sessions.eq_of_id hnew hold hid)
  · obtain rfl := h.sessions.eq_of_id (hl.mem s hs) hold hid
    exact .inr (List.mem_map.mpr ⟨s, hs, rfl⟩)

end DeviceControlTables

end AgentRemote
