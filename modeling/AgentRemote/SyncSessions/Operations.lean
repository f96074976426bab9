import AgentRemote.SyncSessions.Moves

/-!
# The moves of each operation

What every operation does, when what it found at its commit is as it read it.
-/

namespace AgentRemote.SyncSessions
open Library PortForwards Runtimes

variable {uuid : UuidText} {shown : Uuid → Prop} {seen : ℕ → SyncDb} {db db' : SyncDb}
  {s s' : SyncSession} {w : Workspace} {t copy : NodeTask}

/-! ### Checks -/

section

variable {view : SyncDb} {userId id : Uuid} {node : Option Node}
  {expected : Option SyncSessionExpectedTarget}

lemma requireWorkspace_eq_ok (h : requireWorkspace view userId id = .ok w) :
    w ∈ view.workspaces ∧ w.id = id ∧ w.userId = userId := by
  unfold requireWorkspace at h
  split at h
  · cases h
  · next w' hfind =>
    obtain rfl := Except.ok.inj h
    obtain ⟨hlookup, huser⟩ := Option.filter_eq_some_iff.mp hfind
    exact ⟨mem_of_lookup hlookup, key_of_lookup hlookup, of_decide_eq_true huser⟩

lemma requireSyncSession_eq_ok (h : requireSyncSession view userId id = .ok s) :
    view.getSyncSession id = some s ∧ s.userId = userId := by
  unfold requireSyncSession at h
  split at h
  · cases h
  · next s' hfind =>
    obtain rfl := Except.ok.inj h
    obtain ⟨hlookup, huser⟩ := Option.filter_eq_some_iff.mp hfind
    exact ⟨hlookup, of_decide_eq_true huser⟩

lemma lockSyncTarget_eq_ok (h : lockSyncTarget db userId id expected = .ok (s, node)) :
    db.getSyncSession id = some s ∧ s.userId = userId ∧ node = s.nodeId.bind db.getNode := by
  unfold lockSyncTarget at h
  obtain ⟨sync, hsync, h⟩ := bind_eq_ok.mp h
  rw [reject_bind_eq_ok] at h
  obtain ⟨hlookup, huser⟩ := requireSyncSession_eq_ok hsync
  obtain ⟨rfl, rfl⟩ := Prod.mk.inj (Except.ok.inj h.2)
  exact ⟨hlookup, huser, rfl⟩

/-- The node of a session is there. -/
lemma SyncDb.Sound.hasNode (hdb : db.Sound uuid) (hs : s ∈ db.syncSessions) :
    ∃ n, s.nodeId.bind db.getNode = some n := by
  obtain ⟨w, -, t, -, hbacking, hnode⟩ := hdb.backed s hs
  rw [hbacking.nodeId]
  exact Option.isSome_iff_exists.mp hnode

lemma selectNode_eq_ok {nodeId : Option Uuid} {n : Node} (h : selectNode view nodeId = .ok n) :
    (view.getNode n.id).isSome := by
  unfold selectNode at h
  split at h
  · split at h
    · cases h
    · next node hnode =>
      rw [reject_bind_eq_ok] at h
      obtain rfl := Except.ok.inj h.2
      rw [key_of_lookup hnode, hnode]
      rfl
  · split at h
    · cases h
    · next node rest hlist =>
      obtain rfl := Except.ok.inj h
      have hmem : node ∈ view.listConnectableNodes := hlist ▸ List.mem_cons_self
      have hnode := List.mem_of_mem_filter ((List.mem_insertionSort _).mp hmem)
      exact lookup_isSome_iff.mpr ⟨node, hnode, rfl⟩

end

/-! ### Rewriting -/

/-- Nothing happens to sessions and tasks. -/
lemma rewrites_same (hdb : db.Sound uuid) (hworkspaces : db'.workspaces = db.workspaces)
    (hnodes : ∀ id, (db.getNode id).isSome → (db'.getNode id).isSome)
    (hnextId : db'.nextId = db.nextId) (hsessions : db'.syncSessions = db.syncSessions)
    (htasks : db'.tasks = db.tasks) : Rewrites uuid shown id id db db' where
  workspaces := hworkspaces
  nodes := hnodes
  nextId := hnextId
  sessions := by rw [hsessions, List.map_id]
  tasks := by rw [htasks, List.map_id]
  session s _ := .refl s
  task t _ := .refl t
  active _ _ := .inl
  succeeded _ _ := .inl
  starting := hdb.deliverable

/-- Only tasks are rewritten, and those that are end up deliverable. -/
lemma rewrites_tasks (hdb : db.Sound uuid) {g : NodeTask → NodeTask}
    (htasks : db' = { db with tasks := db.tasks.map g })
    (hkept : ∀ t ∈ db.tasks, TaskKept uuid t (g t))
    (hopen : ∀ t ∈ db.tasks, g t = t ∨ (g t).status.terminal = false) :
    Rewrites uuid shown id g db db' where
  workspaces := by rw [htasks]
  nodes := by
    rw [htasks]
    exact fun _ h => h
  nextId := by rw [htasks]
  sessions := by rw [htasks, List.map_id]
  tasks := by rw [htasks]
  session s _ := .refl s
  task := hkept
  active _ _ := .inl
  succeeded t ht h := by
    rcases hopen t ht with hsame | hterminal
    · exact .inl (hsame ▸ h)
    · rw [h] at hterminal
      cases hterminal
  starting s hs hstarting t ht hid := by
    rcases hopen t ht with hsame | hterminal
    · rw [hsame]
      exact hdb.deliverable s hs hstarting t ht hid
    · exact hterminal

/-- The session that `s'` replaces. -/
def replaced (s' s : SyncSession) : SyncSession := if s.id = s'.id then s' else s

lemma replaced_cases (hdb : db.Sound uuid) (hs : s ∈ db.syncSessions) (hid : s'.id = s.id)
    {r : SyncSession} (hr : r ∈ db.syncSessions) :
    r = s ∧ replaced s' r = s' ∨ r.id ≠ s.id ∧ replaced s' r = r := by
  unfold replaced
  rw [hid]
  split_ifs with h
  · exact .inl ⟨eq_of_key_eq hdb.sessionIds hr hs h, rfl⟩
  · exact .inr ⟨h, rfl⟩

/-- One session is rewritten, and tasks that are rewritten end up deliverable. -/
lemma rewrites_session_tasks (hdb : db.Sound uuid) (hs : s ∈ db.syncSessions)
    (hkept : SessionKept s s') {g : NodeTask → NodeTask}
    (htasks : ∀ t ∈ db.tasks, TaskKept uuid t (g t))
    (hopen : ∀ t ∈ db.tasks, g t = t ∨ (g t).status.terminal = false)
    (hactive : s'.status = .active → s.status = .active ∨ shown s.id)
    (hstarting : s'.status = .starting → ∀ t ∈ db.tasks, t.taskId = prepareTaskId uuid s.id →
      (g t).status.terminal = false) :
    Rewrites uuid shown (replaced s') g db
      { setSyncSession db s' with tasks := db.tasks.map g } where
  workspaces := rfl
  nodes _ h := h
  nextId := rfl
  sessions := rfl
  tasks := rfl
  session r hr := by
    rcases replaced_cases hdb hs hkept.id hr with ⟨rfl, hr'⟩ | ⟨-, hr'⟩
    · rw [hr']
      exact hkept
    · rw [hr']
      exact .refl r
  task := htasks
  active r hr h := by
    rcases replaced_cases hdb hs hkept.id hr with ⟨rfl, hr'⟩ | ⟨-, hr'⟩
    · exact hactive (hr' ▸ h)
    · exact .inl (hr' ▸ h)
  succeeded := (rewrites_tasks hdb rfl htasks hopen :
    Rewrites uuid shown _ g db { db with tasks := db.tasks.map g }).succeeded
  starting r hr h := by
    rcases replaced_cases hdb hs hkept.id hr with ⟨rfl, hr'⟩ | ⟨-, hr'⟩
    · exact hstarting (hr' ▸ h)
    · exact (rewrites_tasks hdb rfl htasks hopen :
        Rewrites uuid shown _ g db { db with tasks := db.tasks.map g }).starting r hr (hr' ▸ h)

/-- One session is rewritten. -/
lemma rewrites_session (hdb : db.Sound uuid) (hs : s ∈ db.syncSessions) (hkept : SessionKept s s')
    (hactive : s'.status = .active → s.status = .active ∨ shown s.id)
    (hstarting : s'.status = .starting → ∀ t ∈ db.tasks, t.taskId = prepareTaskId uuid s.id →
      t.status.terminal = false) :
    Rewrites uuid shown (replaced s') id db (setSyncSession db s') := by
  have h := rewrites_session_tasks hdb hs hkept (fun t _ => .refl t) (fun t _ => .inl rfl) hactive
    hstarting
  rw [List.map_id'] at h
  exact h

lemma pauseSyncSession_rewrites (hdb : db.Sound uuid) {r : SyncActionRequest}
    (h : pauseSyncSession db r = .ok db') : ∃ f, Rewrites uuid shown f id db db' := by
  unfold pauseSyncSession at h
  obtain ⟨⟨s, node⟩, hlock, h⟩ := bind_eq_ok.mp h
  obtain rfl := Except.ok.inj h
  have hs := mem_of_lookup (lockSyncTarget_eq_ok hlock).1
  refine ⟨_, rewrites_session hdb hs ⟨rfl, rfl, rfl, rfl, rfl, ?_, ?_⟩ ?_ ?_⟩
  all_goals exact nofun

lemma resolveSyncSession_rewrites (hdb : db.Sound uuid) {r : SyncActionRequest}
    (h : resolveSyncSession db r = .ok db') : ∃ f, Rewrites uuid shown f id db db' := by
  unfold resolveSyncSession at h
  obtain ⟨⟨s, node⟩, hlock, h⟩ := bind_eq_ok.mp h
  obtain rfl := Except.ok.inj h
  have hs := mem_of_lookup (lockSyncTarget_eq_ok hlock).1
  have hhealthy := hdb.notHealthy s hs
  rw [if_neg hhealthy]
  exact ⟨_, rewrites_session hdb hs ⟨rfl, rfl, rfl, rfl, rfl, fun h => h, fun h => h⟩ .inl
    (hdb.deliverable s hs)⟩

/-! ### Nodes -/

lemma pollTasks_rewrites (hdb : db.Sound uuid) (leaseSeconds : ℕ) (nodeId : Uuid) (limit : ℕ)
    (held : List Uuid) :
    ∃ g, Rewrites uuid shown id g db (pollTasks seen db leaseSeconds nodeId limit held) := by
  refine ⟨_, rewrites_tasks hdb rfl (fun t _ => ?_) fun t _ => ?_⟩
  · split_ifs
    · exact ⟨rfl, rfl, rfl⟩
    · exact .refl t
  · split_ifs
    · exact .inr rfl
    · exact .inl rfl

lemma statusWritten_kept (status : TaskStatus) (t : NodeTask) :
    TaskKept uuid t (statusWritten copy status t) := by
  rcases statusWritten_cases copy status t with h | ⟨-, -, h⟩
  · rw [h]
    exact .refl t
  · rw [h]
    exact ⟨rfl, rfl, rfl⟩

lemma startTask_rewrites (hdb : db.Sound uuid) {nodeId : Uuid} {taskId : Text}
    (h : startTask seen db nodeId taskId = .ok db') : ∃ g, Rewrites uuid shown id g db db' := by
  unfold startTask at h
  obtain ⟨copy, -, h⟩ := bind_eq_ok.mp h
  rw [reject_bind_eq_ok] at h
  obtain rfl := Except.ok.inj h.2
  refine ⟨_, rewrites_tasks hdb rfl (fun t _ => statusWritten_kept _ t) fun t _ => ?_⟩
  rcases statusWritten_cases copy .running t with h | ⟨-, -, h⟩
  · exact .inl h
  · rw [h]
    exact .inr rfl

section

variable (hdb : db.Sound uuid) (hseen : ∀ i, (seen i).Sound uuid)
  (hcurrent : ∀ i, (seen i).Follows uuid db)

include hdb hseen hcurrent

/-- A session that waits at the commit and waited when the update ran is hit by it. -/
lemma published_hit (hcopy : copy ∈ (seen 0).tasks) (hs : s ∈ db.syncSessions)
    (hid : copy.taskId = prepareTaskId uuid s.id) (hstarting : s.status = .starting)
    (hview : (seen 2).starting s.id) (status : SyncStatus) :
    published uuid (seen 2) copy status s = { s with status := status } := by
  obtain ⟨s', hs', hstarting'⟩ := (Option.any_eq_true ..).mp hview
  obtain ⟨w, hw, hbacking⟩ := hdb.backing (hcurrent 0) (.refl db) hdb hcopy hs hid
  obtain ⟨w', hw', hbacking'⟩ := hdb.backing (hcurrent 0) (hcurrent 2) (hseen 2) hcopy
    (mem_of_lookup hs') (hid.trans (congrArg _ (key_of_lookup hs').symm))
  have hawaits := hbacking'.awaits hw' (of_decide_eq_true hstarting')
  have htarget := hbacking.target.symm.trans hbacking'.target
  rw [← Option.some.inj htarget] at hawaits
  unfold published
  rw [hbacking.target]
  dsimp only
  rw [if_pos]
  refine ⟨by rw [hs']; exact hawaits, ?_⟩
  obtain ⟨-, -, -, -, -, -, hworkspace⟩ := of_decide_eq_true hawaits
  exact decide_eq_true ⟨rfl, hstarting, rfl, rfl, hbacking.nodeId, rfl, hworkspace⟩

/-- A report writes the status of its task and, if it publishes, that of the session that waits
for it. -/
lemma report_rewrites (publishes : Bool) (outcome : TaskOutcome) {status : SyncStatus}
    (hcopy : copy ∈ (seen 0).tasks) (hstatus : status = .active ∨ status = .failed)
    (hoffered : publishes → status = .active → ∀ id, copy.taskId = prepareTaskId uuid id → shown id)
    (hsettled : publishes → outcome = .succeeded → status = .active)
    (hmet : copy.status ≠ outcome.status → publishes ∧
      ∀ id, copy.taskId = prepareTaskId uuid id → db.starting id → (seen 2).starting id)
    (results : List NodeTaskResult) :
    Rewrites uuid shown
      (fun s => if publishes then published uuid (seen 2) copy status s else s)
      (statusWritten copy outcome.status) db
      { db with
        syncSessions := db.syncSessions.map fun s =>
          if publishes then published uuid (seen 2) copy status s else s
        tasks := db.tasks.map (statusWritten copy outcome.status)
        results := results } where
  workspaces := rfl
  nodes _ h := h
  nextId := rfl
  sessions := rfl
  tasks := rfl
  session s _ := by
    split_ifs
    · rcases published_cases uuid (seen 2) copy status s with h | ⟨-, -, h⟩
      · rw [h]
        exact .refl s
      · rw [h]
        refine ⟨rfl, rfl, rfl, rfl, rfl, ?_, ?_⟩
        all_goals
          rintro rfl
          rcases hstatus with hs | hs
        all_goals cases hs
    · exact .refl s
  task t _ := statusWritten_kept _ t
  active s _ h := by
    split_ifs at h with hpublishes
    · rcases published_cases uuid (seen 2) copy status s with hs | ⟨-, hid, hs⟩
      · exact .inl (hs ▸ h)
      · rw [hs] at h
        exact .inr (hoffered hpublishes h s.id hid)
    · exact .inl h
  succeeded t _ h := by
    rcases statusWritten_cases copy outcome.status t with ht | ⟨hne, hid, ht⟩
    · exact .inl (ht ▸ h)
    · rw [ht] at h
      have hpublishes := (hmet hne).1
      have houtcome : outcome = .succeeded := by
        cases outcome with
        | succeeded => rfl
        | failed => cases h
      obtain ⟨target, htarget, -⟩ := (hseen 0).targets copy hcopy
      have hnames := (prepareTarget_eq_some htarget).2
      exact .inr ⟨target.syncId, hid.trans hnames,
        hoffered hpublishes (hsettled hpublishes houtcome) _ hnames⟩
  starting s hs h t ht hid := by
    have hwaits : s.status = .starting := by
      split_ifs at h
      · rcases published_cases uuid (seen 2) copy status s with hs' | ⟨hstarting, -, -⟩
        · exact hs' ▸ h
        · exact hstarting
      · exact h
    rcases statusWritten_cases copy outcome.status t with ht' | ⟨hne, hsame, -⟩
    · rw [ht']
      exact hdb.deliverable s hs hwaits t ht hid
    · obtain ⟨hpublishes, hview⟩ := hmet hne
      have hnames := hsame.symm.trans hid
      have hfind : db.starting s.id := (Option.any_eq_true ..).mpr
        ⟨s, lookup_of_mem hdb.sessionIds hs, decide_eq_true hwaits⟩
      rw [if_pos hpublishes, published_hit hdb hseen hcurrent hcopy hs hnames hwaits
        (hview s.id hnames hfind)] at h
      rcases hstatus with rfl | rfl
      all_goals cases h

lemma completeTask_rewrites {nodeId : Uuid} {taskId : Text} {result : JsonObject}
    (h : completeTask uuid seen db nodeId taskId result = .ok db')
    (hoffered : reportsPrepared result → ∀ id, taskId = prepareTaskId uuid id → shown id)
    (hmet : ∀ t, requireNodeTask seen nodeId taskId = .ok t → t.status ≠ .succeeded →
      reportsPrepared result ∧
        ∀ id, taskId = prepareTaskId uuid id → db.starting id → (seen 2).starting id) :
    ∃ f g, Rewrites uuid shown f g db db' := by
  unfold completeTask at h
  obtain ⟨copy, hfound, hrest⟩ := bind_eq_ok.mp h
  obtain rfl := Except.ok.inj hrest
  obtain ⟨hcopy, rfl, -⟩ := requireTask_eq_ok hfound
  have hrewrites := report_rewrites hdb hseen hcurrent (reportsPrepared result) .succeeded hcopy
    (.inl rfl) (fun hp _ => hoffered hp) (fun _ _ => rfl) (hmet copy hfound)
    (addTaskResult seen db copy .succeeded (some result) none).results
  rw [publishSyncPreparation_eq]
  cases hp : reportsPrepared result with
  | true =>
    simp only [hp, if_true] at hrewrites ⊢
    exact ⟨_, _, hrewrites⟩
  | false =>
    simp only [hp, Bool.false_eq_true, if_false, List.map_id'] at hrewrites ⊢
    exact ⟨_, _, hrewrites⟩

lemma failTask_rewrites {nodeId : Uuid} {taskId : Text} {error : JsonObject}
    (h : failTask uuid seen db nodeId taskId error = .ok db')
    (hmet : ∀ t, requireNodeTask seen nodeId taskId = .ok t → t.status ≠ .failed →
      ∀ id, taskId = prepareTaskId uuid id → db.starting id → (seen 2).starting id) :
    ∃ f g, Rewrites uuid shown f g db db' := by
  unfold failTask at h
  obtain ⟨copy, hfound, hrest⟩ := bind_eq_ok.mp h
  obtain rfl := Except.ok.inj hrest
  obtain ⟨hcopy, rfl, -⟩ := requireTask_eq_ok hfound
  rw [publishSyncPreparation_eq]
  exact ⟨_, _, report_rewrites hdb hseen hcurrent true .failed hcopy (.inr rfl) (fun _ => nofun)
    (fun _ => nofun) (fun hne => ⟨rfl, hmet copy hfound hne⟩) _⟩

end

/-! ### Users -/

/-- What `_ensure_prepare_workspace_task` leaves is one of four states. -/
lemma ensurePrepareWorkspaceTask_cases {P : SyncDb → Prop} {task keys view : SyncDb} {node : Node}
    (h : ensurePrepareWorkspaceTask uuid task keys view db node w s = .ok db')
    (hnone : ∀ payload, task.getTaskByTaskId (prepareTaskId uuid s.id) = none →
      payload = preparePayload uuid w s (keys.listActiveSshKeys w.deviceId) →
        P (addTask db (prepareTask uuid db node s payload)))
    (hsucceeded : ∀ t, task.getTaskByTaskId (prepareTaskId uuid s.id) = some t →
      t.status = .succeeded → P (publishSyncPreparation uuid view db t .active))
    (hrequeued : ∀ t payload, task.getTaskByTaskId (prepareTaskId uuid s.id) = some t →
      payload = preparePayload uuid w s (keys.listActiveSshKeys w.deviceId) →
        P (requeue db t payload))
    (hopen : ∀ t, task.getTaskByTaskId (prepareTaskId uuid s.id) = some t →
      t.status.terminal = false → P db) : P db' := by
  unfold ensurePrepareWorkspaceTask at h
  rw [reject_bind_eq_ok] at h
  obtain ⟨-, h⟩ := h
  cases hfind : task.getTaskByTaskId (prepareTaskId uuid s.id) with
  | none =>
    simp only [hfind, reject_bind_eq_ok] at h
    obtain rfl := Except.ok.inj h.2
    exact hnone _ hfind rfl
  | some t =>
    simp only [hfind] at h
    cases hstatus : t.status with
    | succeeded =>
      simp only [hstatus] at h
      obtain rfl := Except.ok.inj h
      exact hsucceeded t hfind hstatus
    | failed | cancelled | expired =>
      simp only [hstatus] at h
      obtain rfl := Except.ok.inj h
      exact hrequeued t _ hfind rfl
    | pending | leased | running =>
      simp only [hstatus] at h
      obtain rfl := Except.ok.inj h
      exact hopen t hfind (by rw [hstatus]; rfl)

lemma lockedRead_session (id : Uuid) (i : ℕ) :
    (lockedRead seen db id i).getSyncSession id = db.getSyncSession id := by
  unfold lockedRead
  split_ifs with h
  · exact h
  · rfl

lemma lockedRead_of {P : SyncDb → Prop} (hdb : P db) (hseen : ∀ i, P (seen i)) (id : Uuid)
    (i : ℕ) : P (lockedRead seen db id i) := by
  unfold lockedRead
  split_ifs
  · exact hseen i
  · exact hdb

lemma restarted_kept (s : SyncSession) (conflict : Option ConflictStatus) :
    SessionKept s (s.restarted conflict) :=
  ⟨rfl, rfl, rfl, rfl, rfl, nofun, nofun⟩

/-- The update of a restart hits the session it has locked. -/
lemma published_restarted {view : SyncDb} (conflict : Option ConflictStatus)
    (hs : s ∈ view.syncSessions) (hview : view.Sound uuid) (hw : w ∈ view.workspaces)
    (hbacking : Backing uuid s w t) :
    published uuid (setSyncSession view (s.restarted conflict)) t .active (s.restarted conflict) =
      { s.restarted conflict with status := .active } := by
  have hbacking' : Backing uuid (s.restarted conflict) w t :=
    ⟨hbacking.workspaceId, hbacking.userId, hbacking.remotePath, hbacking.nodeId, hbacking.target⟩
  have hawaits : awaits (setSyncSession view (s.restarted conflict)) t.nodeId _ _ = true :=
    hbacking'.awaits hw rfl
  have hfind : (setSyncSession view (s.restarted conflict)).getSyncSession s.id =
      some (s.restarted conflict) := by
    have hlookup : lookup SyncSession.id view.syncSessions s.id = some s :=
      lookup_of_mem hview.sessionIds hs
    have hid : s.id = (s.restarted conflict).id := rfl
    unfold setSyncSession SyncDb.getSyncSession
    dsimp only
    rw [lookup_replace, if_pos hid, hlookup]
    rfl
  unfold published
  rw [hbacking.target]
  dsimp only
  rw [if_pos]
  refine ⟨?_, hawaits⟩
  have hid : (s.restarted conflict).id = s.id := rfl
  rw [hid, hfind]
  exact hawaits

section

variable (hdb : db.Sound uuid) (hseen : ∀ i, (seen i).Sound uuid)
  (hcurrent : ∀ i, (seen i).Follows uuid db)

include hdb hseen hcurrent

omit hseen hcurrent in
/-- The payload that a restart writes names the session as the task did before. -/
lemma requeued_kept {view : SyncDb} {payload : JsonObject} {keys : List SshKey}
    {conflict : Option ConflictStatus} (hview : view.Follows uuid db) (hs : s ∈ db.syncSessions)
    (hw : w ∈ view.workspaces) (hid : w.id = s.workspaceId)
    (hpayload : payload = preparePayload uuid w (s.restarted conflict) keys) (ht : t ∈ db.tasks)
    (hnames : t.taskId = prepareTaskId uuid s.id) (lease : Option Instant) :
    TaskKept uuid t { t with status := .pending, payload := payload, leaseUntil := lease } := by
  obtain ⟨w₁, hw₁, hbacking⟩ := hdb.backing (.refl db) (.refl db) hdb ht hs hnames
  obtain ⟨w₂, hw₂, hid₂, huser₂, hdevice₂, -⟩ := hview.workspaces w hw
  have hsame : w₂ = w₁ :=
    eq_of_key_eq hdb.workspaceIds hw₂ hw₁ (hid₂.trans (hid.trans hbacking.workspaceId.symm))
  subst hsame
  have htype := (prepareTarget_eq_some hbacking.target).1
  have hpath : s.remotePath ≠ [] := hdb.path_ne_nil hs
  have htarget : prepareTarget uuid
      { t with status := .pending, payload := payload, leaseUntil := lease } = _ :=
    prepareTarget_payload htype hnames hpayload hpath
  refine ⟨rfl, rfl, ?_⟩
  rw [htarget, hbacking.target, hdevice₂]
  have huser : w.userId = s.userId := huser₂.symm.trans hbacking.userId
  rw [hid, huser]

/-- A restart leaves the session to a task that is deliverable, or activates it when the task was
seen to have succeeded. -/
lemma restartSyncSession_rewrites {r : SyncActionRequest} {conflict : Option ConflictStatus}
    (h : restartSyncSession uuid seen db r conflict = .ok db')
    (hshown : ∀ id i, ∀ t ∈ (lockedRead seen db r.syncSessionId i).tasks,
      t.taskId = prepareTaskId uuid id → t.status = .succeeded → shown id)
    (hopen : ∀ t, (lockedRead seen db r.syncSessionId 1).getTaskByTaskId
        (prepareTaskId uuid r.syncSessionId) = some t → t.status.terminal = false →
      ∀ t' ∈ db.tasks, t'.taskId = prepareTaskId uuid r.syncSessionId →
        t'.status.terminal = false) :
    ∃ f g, Rewrites uuid shown f g db db' := by
  unfold restartSyncSession at h
  obtain ⟨⟨s, node⟩, hlock, hrest⟩ := bind_eq_ok.mp h
  obtain ⟨w, hworkspace, hensure⟩ := bind_eq_ok.mp hrest
  obtain ⟨hfind, huser, hnode⟩ := lockSyncTarget_eq_ok hlock
  have hs := mem_of_lookup hfind
  have hid : s.id = r.syncSessionId := key_of_lookup hfind
  obtain ⟨n, hn⟩ := hdb.hasNode hs
  rw [hn] at hnode
  subst hnode
  dsimp only at hensure
  have hsound := lockedRead_of hdb hseen r.syncSessionId
  have hfollows := lockedRead_of (P := fun view => view.Follows uuid db) (.refl db) hcurrent
    r.syncSessionId
  have hmem : ∀ i, s ∈ (lockedRead seen db r.syncSessionId i).syncSessions := fun i =>
    mem_of_lookup ((lockedRead_session r.syncSessionId i).trans hfind)
  obtain ⟨hw, hwid, hwuser⟩ := requireWorkspace_eq_ok hworkspace
  have hkept := restarted_kept s conflict
  refine ensurePrepareWorkspaceTask_cases
    (P := fun after => ∃ f g, Rewrites uuid shown f g db after) hensure ?_ ?_ ?_ ?_
  · intro payload hnone _
    obtain ⟨w', -, t, ht, hbacking, -⟩ := (hsound 1).backed s (hmem 1)
    exact absurd (prepareTarget_eq_some hbacking.target).2 (lookup_eq_none_iff.mp hnone t ht)
  · intro t hfound hsucceeded
    have ht := mem_of_lookup hfound
    have hnames : t.taskId = prepareTaskId uuid s.id := key_of_lookup hfound
    obtain ⟨w', hw', hbacking⟩ :=
      hdb.backing (hfollows 1) (hfollows 3) (hsound 3) ht (hmem 3) hnames
    have hhit := published_restarted conflict (hmem 3) (hsound 3) hw' hbacking
    have hactive : SessionKept s { s.restarted conflict with status := .active } :=
      ⟨rfl, rfl, rfl, rfl, rfl, nofun, nofun⟩
    have hsessions : (setSyncSession db (s.restarted conflict)).syncSessions.map (published uuid
          (setSyncSession (lockedRead seen db r.syncSessionId 3) (s.restarted conflict)) t .active) =
        (setSyncSession db { s.restarted conflict with status := .active }).syncSessions := by
      unfold setSyncSession replace
      dsimp only
      rw [List.map_map]
      refine List.map_congr_left fun x _ => ?_
      dsimp only [Function.comp]
      split_ifs with hx
      · exact hhit
      · rcases published_cases uuid (setSyncSession (lockedRead seen db r.syncSessionId 3)
          (s.restarted conflict)) t .active x with hsame | ⟨-, hother, -⟩
        · exact hsame
        · exact absurd (prepareTaskId_inj (hother.symm.trans hnames)) hx
    rw [publishSyncPreparation_eq, hsessions]
    exact ⟨_, _, rewrites_session hdb hs hactive
      (fun _ => .inr (hshown s.id 1 t ht hnames hsucceeded)) nofun⟩
  · intro t payload hfound hpayload
    have hnames : t.taskId = prepareTaskId uuid s.id := key_of_lookup hfound
    refine ⟨_, _, rewrites_session_tasks hdb hs hkept ?_ ?_ nofun ?_⟩
    · intro t' ht'
      rcases requeued_cases t payload t' with ⟨-, hsame⟩ | ⟨hid', lease, hqueued⟩
      · rw [hsame]
        exact .refl t'
      · rw [hqueued]
        exact requeued_kept hdb (hfollows 0) hs hw hwid hpayload ht' (hid'.trans hnames) lease
    · intro t' _
      rcases requeued_cases t payload t' with ⟨-, hsame⟩ | ⟨-, lease, hqueued⟩
      · exact .inl hsame
      · rw [hqueued]
        exact .inr rfl
    · intro _ t' _ hid'
      rcases requeued_cases t payload t' with ⟨hother, -⟩ | ⟨-, lease, hqueued⟩
      · exact absurd (hid'.trans hnames.symm) hother
      · rw [hqueued]
        rfl
  · intro t hfound hterminal
    exact ⟨_, _, rewrites_session hdb hs hkept nofun fun _ t' ht' hnames =>
      hopen t (hid ▸ hfound) hterminal t' ht' (hid ▸ hnames)⟩

/-- The workspace after a session is created for it. -/
def pathed (workspace row : Workspace) (path : Text) : Workspace :=
  if workspace.remotePath = none then { row with remotePath := some path } else row

omit hdb hseen hcurrent in
lemma pathed_columns (w row : Workspace) (path : Text) : (pathed w row path).id = row.id ∧
    (pathed w row path).userId = row.userId ∧ (pathed w row path).deviceId = row.deviceId := by
  unfold pathed
  split_ifs
  · exact ⟨rfl, rfl, rfl⟩
  · exact ⟨rfl, rfl, rfl⟩

omit hseen hcurrent in
/-- A workspace has its path once a session is created for it, and no other than before. -/
lemma pathed_path {view : SyncDb} {row : Workspace} (hview : view.Sound uuid)
    (hw : w ∈ view.workspaces) (hrow : row ∈ db.workspaces) (hid : row.id = w.id)
    (huser : row.userId = w.userId) (hkept : ∀ p, w.remotePath = some p → row.remotePath = some p)
    {path : Text} (hpath : path = w.remotePath.getD (remoteWorkspacePath uuid w.userId w.id)) :
    (pathed w row path).remotePath = some path ∧ path = remoteWorkspacePath uuid w.userId w.id ∧
      ∀ p, row.remotePath = some p → (pathed w row path).remotePath = some p := by
  unfold pathed
  rcases hview.paths w hw with hnone | hsome
  · rw [if_pos hnone]
    rw [hnone, Option.getD_none] at hpath
    refine ⟨rfl, hpath, fun p hp => ?_⟩
    rcases hdb.paths row hrow with hrownone | hrowsome
    · cases hrownone.symm.trans hp
    · rw [hpath, ← hid, ← huser, ← hrowsome, hp]
  · rw [hsome, Option.getD_some] at hpath
    rw [if_neg (by rw [hsome]; exact Option.some_ne_none _), hpath]
    exact ⟨hkept _ hsome, rfl, fun _ hp => hp⟩

omit hseen hcurrent in
/-- A workspace without a current session has no session at all. -/
lemma no_session {workspaceId : Uuid} (h : db.getCurrentSyncSession workspaceId = none) :
    ∀ s ∈ db.syncSessions, s.workspaceId ≠ workspaceId := by
  intro s hs hsame
  have hnone := List.filter_eq_nil_iff.mp (List.getLast?_eq_none_iff.mp h) s hs
  exact hnone (decide_eq_true ⟨hsame, decide_eq_true (hdb.notStopped s hs)⟩)

lemma createSyncSession_creates {userId : Uuid} {r : CreateSyncRequest}
    (h : createSyncSession uuid seen db userId r = .ok db')
    (hfree : (seen 1).getCurrentSyncSession r.workspaceId = none →
      db.getCurrentSyncSession r.workspaceId = none) :
    db' = db ∨ ∃ s w t, Creates uuid s w t db db' := by
  unfold createSyncSession at h
  rw [reject_bind_eq_ok] at h
  obtain ⟨w, hworkspace, hrest⟩ := bind_eq_ok.mp h.2
  obtain ⟨hw, hwid, hwuser⟩ := requireWorkspace_eq_ok hworkspace
  cases hexisting : (seen 1).getCurrentSyncSession w.id with
  | some existing =>
    simp only [hexisting] at hrest
    exact .inl (Except.ok.inj hrest).symm
  | none =>
    simp only [hexisting] at hrest
    obtain ⟨node, hnode, hensure⟩ := bind_eq_ok.mp hrest
    right
    obtain ⟨row, hrow, hid, huser, hdevice, hkept⟩ := (hcurrent 0).workspaces w hw
    generalize hpath : w.remotePath.getD (remoteWorkspacePath uuid userId w.id) = path at hensure
    subst hwuser
    obtain ⟨hset, hremote, hgrown⟩ :=
      pathed_path hdb (hseen 0) hw hrow hid huser hkept hpath.symm
    obtain ⟨hpid, hpuser, hpdevice⟩ := pathed_columns w row path
    generalize hsync : createdSyncSession uuid db w.userId r w node path = sync at hensure
    have hsyncPath : sync.remotePath = path := by rw [← hsync]; rfl
    have hsyncWorkspace : sync.workspaceId = w.id := by rw [← hsync]; rfl
    have hsyncId : sync.id = db.nextId := by rw [← hsync]; rfl
    have hnew : (seen 3).getTaskByTaskId (prepareTaskId uuid sync.id) = none :=
      lookup_eq_none_iff.mpr ((hseen 3).fresh (hsyncId ▸ (hcurrent 3).nextId))
    have hfound : ∀ t, (seen 3).getTaskByTaskId (prepareTaskId uuid sync.id) ≠ some t := by
      intro t ht
      cases hnew.symm.trans ht
    refine ensurePrepareWorkspaceTask_cases (P := fun after => ∃ s w t, Creates uuid s w t db after)
      hensure ?_ (fun t ht => absurd ht (hfound t)) (fun t _ ht => absurd ht (hfound t))
      (fun t ht => absurd ht (hfound t))
    intro payload _ hpayload
    refine ⟨sync, pathed w row path,
      prepareTask uuid (insertSyncSession db w sync) node sync payload, ?_⟩
    have htarget : prepareTarget uuid
        (prepareTask uuid (insertSyncSession db w sync) node sync payload) = _ :=
      prepareTarget_payload rfl rfl hpayload
        (hsyncPath ▸ hremote ▸ remoteWorkspacePath_ne_nil _ _)
    constructor
    · refine List.map_congr_left fun x hx => ?_
      rw [hpid, hid]
      by_cases hsame : x.id = w.id
      · have heq : x = row := eq_of_key_eq hdb.workspaceIds hx hrow (hsame.trans hid.symm)
        unfold pathed
        rw [if_pos hsame, hsyncPath, heq]
        simp only [hid, true_and]
      · rw [if_neg hsame, if_neg fun hboth => hsame hboth.1]
    · rfl
    · exact Nat.lt_add_of_pos_right (by omega : 0 < 1 + 1)
    · rfl
    · rfl
    · exact ⟨row, hrow, hpid, hpuser, hpdevice, hgrown⟩
    · rw [hset, hpuser, hpid, hid, huser, hremote]
    · exact hsyncId
    · constructor
      · rw [hpid, hid, hsyncWorkspace]
      · rw [hpuser, huser, ← hsync]
        rfl
      · rw [hset, hsyncPath]
      · rw [← hsync]
        rfl
      · have hsyncUser : sync.userId = w.userId := by rw [← hsync]; rfl
        rw [htarget, hsyncWorkspace, hsyncUser, hpdevice, hdevice]
    · exact (hcurrent 2).nodes _ (selectNode_eq_ok hnode)
    · rw [hsyncWorkspace, hwid]
      exact no_session hdb (hfree (hwid ▸ hexisting))
    · rw [← hsync]
      rfl
    · rfl

end

end AgentRemote.SyncSessions
