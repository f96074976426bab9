import AgentRemote.SyncSessions.Service

/-!
# What every state of the sync sessions keeps

Each session has its workspace, its node and one preparation task that names it. The columns
these are matched on never change, so a task read at any time still names its session.
-/

namespace AgentRemote.SyncSessions
open Library PortForwards Runtimes

variable {uuid : UuidText}

lemma prepareTaskId_inj {a b : Uuid} (h : prepareTaskId uuid a = prepareTaskId uuid b) : a = b :=
  uuid.str_inj (List.append_cancel_left h)

lemma remoteWorkspacePath_ne_nil (userId workspaceId : Uuid) :
    remoteWorkspacePath uuid userId workspaceId ≠ [] := by
  unfold remoteWorkspacePath
  simp

/-! ### Preparation tasks -/

section

variable {task t t' t'' : NodeTask} {target : PrepareTarget} {view db : SyncDb} {s : SyncSession}
  {status : SyncStatus}

lemma prepareTarget_eq_some (h : prepareTarget uuid task = some target) :
    task.taskType = .prepareWorkspace ∧ task.taskId = prepareTaskId uuid target.syncId := by
  unfold prepareTarget at h
  simp only [Option.bind_eq_bind, Option.pure_def, Option.bind_eq_some_iff,
    Option.guard_eq_some'] at h
  obtain ⟨-, htype, syncId, -, workspaceId, -, userId, -, deviceId, -, path, -, -, hid, h⟩ := h
  obtain rfl := Option.some.inj h
  exact ⟨htype, hid⟩

/-- The payload of a task names the session it was made for. -/
lemma prepareTarget_payload {workspace : Workspace} {keys : List SshKey}
    (htype : task.taskType = .prepareWorkspace) (hid : task.taskId = prepareTaskId uuid s.id)
    (hpayload : task.payload = preparePayload uuid workspace s keys) (hpath : s.remotePath ≠ []) :
    prepareTarget uuid task =
      some ⟨s.id, workspace.id, workspace.userId, workspace.deviceId, s.remotePath⟩ := by
  have hsync : (task.payload.text? "sync_session_id".toList).bind uuid.parse = some s.id := by
    rw [hpayload]
    exact uuid.parse_str _
  have hworkspace : (task.payload.text? "workspace_id".toList).bind uuid.parse =
      some workspace.id := by
    rw [hpayload]
    exact uuid.parse_str _
  have huser : (task.payload.text? "user_id".toList).bind uuid.parse = some workspace.userId := by
    rw [hpayload]
    exact uuid.parse_str _
  have hdevice : (task.payload.text? "device_id".toList).bind uuid.parse =
      some workspace.deviceId := by
    rw [hpayload]
    exact uuid.parse_str _
  have hremote : nonempty (task.payload.text? "remote_path".toList) = some s.remotePath := by
    rw [hpayload]
    exact Option.filter_some_pos (decide_eq_true hpath)
  unfold prepareTarget
  simp only [hsync, hworkspace, huser, hdevice, hremote, hid, htype, guard_true,
    Option.bind_eq_bind, Option.bind_some, Option.pure_def]

/-- A task still names what it named. -/
structure TaskKept (uuid : UuidText) (t t' : NodeTask) : Prop where
  taskId : t'.taskId = t.taskId
  nodeId : t'.nodeId = t.nodeId
  target : prepareTarget uuid t' = prepareTarget uuid t

lemma TaskKept.refl (t : NodeTask) : TaskKept uuid t t := ⟨rfl, rfl, rfl⟩

lemma TaskKept.trans (h : TaskKept uuid t t') (h' : TaskKept uuid t' t'') :
    TaskKept uuid t t'' where
  taskId := h'.taskId.trans h.taskId
  nodeId := h'.nodeId.trans h.nodeId
  target := h'.target.trans h.target

lemma TaskKept.symm (h : TaskKept uuid t t') : TaskKept uuid t' t :=
  ⟨h.taskId.symm, h.nodeId.symm, h.target.symm⟩

/-- The session after `publish_sync_preparation`. -/
def published (uuid : UuidText) (view : SyncDb) (task : NodeTask) (status : SyncStatus)
    (s : SyncSession) : SyncSession :=
  match prepareTarget uuid task with
  | none => s
  | some target =>
    if (view.getSyncSession s.id).any (awaits view task.nodeId target) ∧
        awaits view task.nodeId target s then
      { s with status := status }
    else s

lemma publishSyncPreparation_eq :
    publishSyncPreparation uuid view db task status =
      { db with syncSessions := db.syncSessions.map (published uuid view task status) } := by
  unfold publishSyncPreparation published
  cases prepareTarget uuid task with
  | none =>
    dsimp only
    rw [List.map_id']
  | some target => rfl

/-- Only a session that starts and that the task names is touched. -/
lemma published_cases (uuid : UuidText) (view : SyncDb) (task : NodeTask) (status : SyncStatus)
    (s : SyncSession) : published uuid view task status s = s ∨
      s.status = .starting ∧ task.taskId = prepareTaskId uuid s.id ∧
        published uuid view task status s = { s with status := status } := by
  unfold published
  split
  · exact .inl rfl
  · next target htarget =>
    split_ifs with h
    · obtain ⟨hid, hstarting, -⟩ := of_decide_eq_true h.2
      refine .inr ⟨hstarting, ?_, rfl⟩
      rw [hid]
      exact (prepareTarget_eq_some htarget).2
    · exact .inl rfl

end

/-! ### States -/

/-- A session as far as its task can match it. -/
structure SessionKept (s s' : SyncSession) : Prop where
  id : s'.id = s.id
  userId : s'.userId = s.userId
  workspaceId : s'.workspaceId = s.workspaceId
  nodeId : s'.nodeId = s.nodeId
  remotePath : s'.remotePath = s.remotePath
  stopped : s'.status = .stopped → s.status = .stopped
  healthy : s'.status = .healthy → s.status = .healthy

lemma SessionKept.refl (s : SyncSession) : SessionKept s s :=
  ⟨rfl, rfl, rfl, rfl, rfl, fun h => h, fun h => h⟩

/-- The workspace and the task of a session. -/
structure Backing (uuid : UuidText) (s : SyncSession) (w : Workspace) (t : NodeTask) :
    Prop where
  workspaceId : w.id = s.workspaceId
  userId : w.userId = s.userId
  remotePath : w.remotePath = some s.remotePath
  nodeId : s.nodeId = some t.nodeId
  target : prepareTarget uuid t =
    some ⟨s.id, s.workspaceId, s.userId, w.deviceId, s.remotePath⟩

structure SyncDb.Sound (uuid : UuidText) (db : SyncDb) : Prop where
  workspaceIds : (db.workspaces.map Workspace.id).Nodup
  sessionIds : (db.syncSessions.map SyncSession.id).Nodup
  taskIds : (db.tasks.map NodeTask.taskId).Nodup
  sessionsBelow : ∀ s ∈ db.syncSessions, s.id < db.nextId
  targets : ∀ t ∈ db.tasks, ∃ target, prepareTarget uuid t = some target ∧
    target.syncId < db.nextId
  paths : ∀ w ∈ db.workspaces, w.remotePath = none ∨
    w.remotePath = some (remoteWorkspacePath uuid w.userId w.id)
  backed : ∀ s ∈ db.syncSessions, ∃ w ∈ db.workspaces, ∃ t ∈ db.tasks, Backing uuid s w t ∧
    (db.getNode t.nodeId).isSome
  alone : ∀ s ∈ db.syncSessions, ∀ s' ∈ db.syncSessions, s.workspaceId = s'.workspaceId → s = s'
  notStopped : ∀ s ∈ db.syncSessions, s.status ≠ .stopped
  notHealthy : ∀ s ∈ db.syncSessions, s.status ≠ .healthy
  deliverable : ∀ s ∈ db.syncSessions, s.status = .starting → ∀ t ∈ db.tasks,
    t.taskId = prepareTaskId uuid s.id → t.status.terminal = false

/-- What does not change from a state to a later one. -/
structure SyncDb.Follows (uuid : UuidText) (db db' : SyncDb) : Prop where
  nextId : db.nextId ≤ db'.nextId
  tasks : ∀ t ∈ db.tasks, ∃ t' ∈ db'.tasks, TaskKept uuid t t'
  workspaces : ∀ w ∈ db.workspaces, ∃ w' ∈ db'.workspaces, w'.id = w.id ∧ w'.userId = w.userId ∧
    w'.deviceId = w.deviceId ∧ ∀ p, w.remotePath = some p → w'.remotePath = some p
  nodes : ∀ id, (db.getNode id).isSome → (db'.getNode id).isSome

lemma SyncDb.Follows.refl (db : SyncDb) : db.Follows uuid db where
  nextId := le_rfl
  tasks t ht := ⟨t, ht, .refl t⟩
  workspaces w hw := ⟨w, hw, rfl, rfl, rfl, fun _ => id⟩
  nodes _ := id

lemma SyncDb.Follows.trans {a b c : SyncDb} (hab : a.Follows uuid b) (hbc : b.Follows uuid c) :
    a.Follows uuid c where
  nextId := hab.nextId.trans hbc.nextId
  tasks t ht := by
    obtain ⟨t', ht', hkept⟩ := hab.tasks t ht
    obtain ⟨t'', ht'', hkept'⟩ := hbc.tasks t' ht'
    exact ⟨t'', ht'', hkept.trans hkept'⟩
  workspaces w hw := by
    obtain ⟨w', hw', hid, huser, hdevice, hpath⟩ := hab.workspaces w hw
    obtain ⟨w'', hw'', hid', huser', hdevice', hpath'⟩ := hbc.workspaces w' hw'
    exact ⟨w'', hw'', hid'.trans hid, huser'.trans huser, hdevice'.trans hdevice,
      fun p hp => hpath' p (hpath p hp)⟩
  nodes id h := hbc.nodes id (hab.nodes id h)

section

variable {db a b : SyncDb} {s : SyncSession} {t t' : NodeTask} {w : Workspace}

/-- The path of a session is that of its workspace. -/
lemma SyncDb.Sound.path_ne_nil (hdb : db.Sound uuid) (hs : s ∈ db.syncSessions) :
    s.remotePath ≠ [] := by
  obtain ⟨w, hw, t, -, hbacking, -⟩ := hdb.backed s hs
  rcases hdb.paths w hw with hnone | hpath
  · rw [hbacking.remotePath] at hnone
    cases hnone
  · rw [hbacking.remotePath] at hpath
    rw [Option.some.inj hpath]
    exact remoteWorkspacePath_ne_nil _ _

/-- Two readings of a task name the same. -/
lemma SyncDb.Sound.same_task (hdb : db.Sound uuid) (ha : a.Follows uuid db)
    (hb : b.Follows uuid db) (ht : t ∈ a.tasks) (ht' : t' ∈ b.tasks)
    (heq : t.taskId = t'.taskId) : TaskKept uuid t t' := by
  obtain ⟨u, hu, hkept⟩ := ha.tasks t ht
  obtain ⟨u', hu', hkept'⟩ := hb.tasks t' ht'
  have hsame : u = u' := eq_of_key_eq hdb.taskIds hu hu'
    (hkept.taskId.trans (heq.trans hkept'.taskId.symm))
  subst hsame
  exact hkept.trans hkept'.symm

/-- A reading of the task of a session names it. -/
lemma SyncDb.Sound.backing (hdb : db.Sound uuid) (ha : a.Follows uuid db)
    (hb : b.Follows uuid db) (hsound : b.Sound uuid) (ht : t ∈ a.tasks)
    (hs : s ∈ b.syncSessions) (hid : t.taskId = prepareTaskId uuid s.id) :
    ∃ w ∈ b.workspaces, Backing uuid s w t := by
  obtain ⟨w, hw, t', ht', hbacking, -⟩ := hsound.backed s hs
  have hkept := hdb.same_task ha hb ht ht'
    (hid.trans (prepareTarget_eq_some hbacking.target).2.symm)
  refine ⟨w, hw, hbacking.workspaceId, hbacking.userId, hbacking.remotePath, ?_, ?_⟩
  · rw [hbacking.nodeId, hkept.nodeId]
  · rw [← hkept.target, hbacking.target]

lemma Backing.awaits (hbacking : Backing uuid s w t) (hw : w ∈ db.workspaces)
    (hstarting : s.status = .starting) :
    awaits db t.nodeId ⟨s.id, s.workspaceId, s.userId, w.deviceId, s.remotePath⟩ s = true := by
  refine decide_eq_true ⟨rfl, hstarting, rfl, rfl, hbacking.nodeId, rfl, ?_⟩
  exact List.any_eq_true.mpr ⟨w, hw, decide_eq_true
    ⟨hbacking.workspaceId, hbacking.userId, rfl, hbacking.remotePath⟩⟩

end

end AgentRemote.SyncSessions
