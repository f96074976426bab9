import AgentRemote.SyncSessions.Invariant

/-!
# What a transaction does to the sync sessions

Every transaction rewrites sessions and tasks in place, adds one session with its task, or
deletes a session.
-/

namespace AgentRemote.SyncSessions
open Library PortForwards Runtimes

variable {uuid : UuidText}

/-- Sessions and tasks are rewritten in place. `shown id` says that the session `id` was seen
prepared. -/
structure Rewrites (uuid : UuidText) (shown : Uuid → Prop) (f : SyncSession → SyncSession)
    (g : NodeTask → NodeTask) (db db' : SyncDb) : Prop where
  workspaces : db'.workspaces = db.workspaces
  nodes : ∀ id, (db.getNode id).isSome → (db'.getNode id).isSome
  nextId : db'.nextId = db.nextId
  sessions : db'.syncSessions = db.syncSessions.map f
  tasks : db'.tasks = db.tasks.map g
  session : ∀ s ∈ db.syncSessions, SessionKept s (f s)
  task : ∀ t ∈ db.tasks, TaskKept uuid t (g t)
  active : ∀ s ∈ db.syncSessions, (f s).status = .active → s.status = .active ∨ shown s.id
  succeeded : ∀ t ∈ db.tasks, (g t).status = .succeeded → t.status = .succeeded ∨
    ∃ id, t.taskId = prepareTaskId uuid id ∧ shown id
  starting : ∀ s ∈ db.syncSessions, (f s).status = .starting → ∀ t ∈ db.tasks,
    t.taskId = prepareTaskId uuid s.id → (g t).status.terminal = false

/-- A session is added for a workspace that has none, with its task. -/
structure Creates (uuid : UuidText) (s : SyncSession) (w : Workspace) (t : NodeTask)
    (db db' : SyncDb) : Prop where
  workspaces : db'.workspaces = db.workspaces.map fun w' =>
    if w'.id = w.id then w else w'
  nodes : db'.nodes = db.nodes
  nextId : db.nextId < db'.nextId
  sessions : db'.syncSessions = db.syncSessions ++ [s]
  tasks : db'.tasks = db.tasks ++ [t]
  path : ∃ w₀ ∈ db.workspaces, w.id = w₀.id ∧ w.userId = w₀.userId ∧ w.deviceId = w₀.deviceId ∧
    ∀ p, w₀.remotePath = some p → w.remotePath = some p
  remotePath : w.remotePath = some (remoteWorkspacePath uuid w.userId w.id)
  id : s.id = db.nextId
  backing : Backing uuid s w t
  node : (db.getNode t.nodeId).isSome
  alone : ∀ s' ∈ db.syncSessions, s'.workspaceId ≠ s.workspaceId
  status : s.status = .starting
  taskStatus : t.status = .pending

inductive Move (uuid : UuidText) (shown : Uuid → Prop) (db db' : SyncDb) : Prop where
  | rewrites (f : SyncSession → SyncSession) (g : NodeTask → NodeTask)
    (h : Rewrites uuid shown f g db db')
  | creates (s : SyncSession) (w : Workspace) (t : NodeTask) (h : Creates uuid s w t db db')
  | deletes (id : Uuid) (h : db' = { db with syncSessions := db.syncSessions.filter (·.id ≠ id) })

section

variable {shown : Uuid → Prop} {f : SyncSession → SyncSession} {g : NodeTask → NodeTask}
  {db db' : SyncDb} {s : SyncSession} {w : Workspace} {t : NodeTask}

lemma Rewrites.follows (h : Rewrites uuid shown f g db db') : db.Follows uuid db' where
  nextId := h.nextId.ge
  tasks t ht := ⟨g t, h.tasks ▸ List.mem_map_of_mem ht, h.task t ht⟩
  workspaces w hw := ⟨w, h.workspaces ▸ hw, rfl, rfl, rfl, fun _ => id⟩
  nodes := h.nodes

/-- Rewriting keys as they are keeps them distinct. -/
lemma nodup_map_of_eq {α κ : Type*} {key : α → κ} {rows : List α} {f : α → α}
    (hn : (rows.map key).Nodup) (hf : ∀ r ∈ rows, key (f r) = key r) :
    ((rows.map f).map key).Nodup := by
  have hkeys : (rows.map f).map key = rows.map key := by
    rw [List.map_map]
    exact List.map_congr_left hf
  rwa [hkeys]

lemma Rewrites.sound (hdb : db.Sound uuid) (h : Rewrites uuid shown f g db db') :
    db'.Sound uuid where
  workspaceIds := h.workspaces ▸ hdb.workspaceIds
  sessionIds := h.sessions ▸ nodup_map_of_eq hdb.sessionIds fun s hs => (h.session s hs).id
  taskIds := h.tasks ▸ nodup_map_of_eq hdb.taskIds fun t ht => (h.task t ht).taskId
  sessionsBelow s' hs' := by
    rw [h.sessions] at hs'
    obtain ⟨s, hs, rfl⟩ := List.mem_map.mp hs'
    rw [(h.session s hs).id, h.nextId]
    exact hdb.sessionsBelow s hs
  targets t' ht' := by
    rw [h.tasks] at ht'
    obtain ⟨t, ht, rfl⟩ := List.mem_map.mp ht'
    rw [(h.task t ht).target, h.nextId]
    exact hdb.targets t ht
  paths := h.workspaces ▸ hdb.paths
  backed s' hs' := by
    rw [h.sessions] at hs'
    obtain ⟨s, hs, rfl⟩ := List.mem_map.mp hs'
    obtain ⟨w, hw, t, ht, hbacking, hnode⟩ := hdb.backed s hs
    have hs := h.session s hs
    have htask := h.task t ht
    refine ⟨w, h.workspaces ▸ hw, g t, h.tasks ▸ List.mem_map_of_mem ht, ?_, ?_⟩
    · constructor
      · rw [hs.workspaceId, hbacking.workspaceId]
      · rw [hs.userId, hbacking.userId]
      · rw [hs.remotePath, hbacking.remotePath]
      · rw [hs.nodeId, htask.nodeId, hbacking.nodeId]
      · rw [htask.target, hs.id, hs.workspaceId, hs.userId, hs.remotePath, hbacking.target]
    · rw [htask.nodeId]
      exact h.nodes _ hnode
  alone s₁ hs₁ s₂ hs₂ heq := by
    rw [h.sessions] at hs₁ hs₂
    obtain ⟨s, hs, rfl⟩ := List.mem_map.mp hs₁
    obtain ⟨s', hs', rfl⟩ := List.mem_map.mp hs₂
    rw [(h.session s hs).workspaceId, (h.session s' hs').workspaceId] at heq
    rw [hdb.alone s hs s' hs' heq]
  notStopped s' hs' := by
    rw [h.sessions] at hs'
    obtain ⟨s, hs, rfl⟩ := List.mem_map.mp hs'
    exact fun hstopped => hdb.notStopped s hs ((h.session s hs).stopped hstopped)
  notHealthy s' hs' := by
    rw [h.sessions] at hs'
    obtain ⟨s, hs, rfl⟩ := List.mem_map.mp hs'
    exact fun hhealthy => hdb.notHealthy s hs ((h.session s hs).healthy hhealthy)
  deliverable s' hs' hstarting t' ht' hid := by
    rw [h.sessions] at hs'
    rw [h.tasks] at ht'
    obtain ⟨s, hs, rfl⟩ := List.mem_map.mp hs'
    obtain ⟨t, ht, rfl⟩ := List.mem_map.mp ht'
    rw [(h.task t ht).taskId, (h.session s hs).id] at hid
    exact h.starting s hs hstarting t ht hid

lemma Creates.follows (hdb : db.Sound uuid) (h : Creates uuid s w t db db') :
    db.Follows uuid db' where
  nextId := h.nextId.le
  tasks t ht := ⟨t, h.tasks ▸ List.mem_append_left _ ht, .refl t⟩
  workspaces w' hw' := by
    obtain ⟨w₀, hw₀, hid, huser, hdevice, hpath⟩ := h.path
    rw [h.workspaces]
    refine ⟨_, List.mem_map_of_mem hw', ?_⟩
    split_ifs with hsame
    · have heq : w' = w₀ := eq_of_key_eq hdb.workspaceIds hw' hw₀ (hsame.trans hid)
      subst heq
      exact ⟨hid, huser, hdevice, hpath⟩
    · exact ⟨rfl, rfl, rfl, fun _ hp => hp⟩
  nodes id := by
    unfold SyncDb.getNode
    rw [h.nodes]
    exact fun hnode => hnode

/-- No task names a session that is still to come. -/
lemma SyncDb.Sound.fresh (hdb : db.Sound uuid) {id : Uuid} (hid : db.nextId ≤ id) :
    ∀ t ∈ db.tasks, t.taskId ≠ prepareTaskId uuid id := by
  intro t ht heq
  obtain ⟨target, htarget, hbelow⟩ := hdb.targets t ht
  have hsame := prepareTaskId_inj ((prepareTarget_eq_some htarget).2.symm.trans heq)
  have hle : db.nextId ≤ target.syncId := hsame ▸ hid
  exact absurd hbelow hle.not_gt

lemma Creates.sound (hdb : db.Sound uuid) (h : Creates uuid s w t db db') : db'.Sound uuid := by
  obtain ⟨w₀, hw₀, hwid, hwuser, hwdevice, hwpath⟩ := h.path
  have hidT : t.taskId = prepareTaskId uuid s.id := (prepareTarget_eq_some h.backing.target).2
  have hnode : ∀ id, db'.getNode id = db.getNode id := fun id => by
    unfold SyncDb.getNode
    rw [h.nodes]
  have hsession : ∀ s' ∈ db'.syncSessions, s' ∈ db.syncSessions ∨ s' = s := fun s' hs' => by
    rw [h.sessions] at hs'
    exact (List.mem_append.mp hs').imp_right List.mem_singleton.mp
  have htask : ∀ t' ∈ db'.tasks, t' ∈ db.tasks ∨ t' = t := fun t' ht' => by
    rw [h.tasks] at ht'
    exact (List.mem_append.mp ht').imp_right List.mem_singleton.mp
  constructor
  · rw [h.workspaces]
    refine nodup_map_of_eq hdb.workspaceIds fun w' _ => ?_
    split_ifs with hsame
    · exact hsame.symm
    · rfl
  · rw [h.sessions, List.map_append]
    refine List.Nodup.append hdb.sessionIds (List.nodup_singleton _) ?_
    intro id hid hnew
    obtain ⟨s', hs', rfl⟩ := List.mem_map.mp hid
    have heq : s'.id = s.id := List.mem_singleton.mp hnew
    have hbelow := hdb.sessionsBelow s' hs'
    rw [heq, h.id] at hbelow
    exact lt_irrefl _ hbelow
  · rw [h.tasks, List.map_append]
    refine List.Nodup.append hdb.taskIds (List.nodup_singleton _) ?_
    intro id hid hnew
    obtain ⟨t', ht', rfl⟩ := List.mem_map.mp hid
    have heq : t'.taskId = t.taskId := List.mem_singleton.mp hnew
    exact hdb.fresh h.id.ge t' ht' (heq.trans hidT)
  · intro s' hs'
    rcases hsession s' hs' with hold | rfl
    · exact (hdb.sessionsBelow s' hold).trans h.nextId
    · exact h.id ▸ h.nextId
  · intro t' ht'
    rcases htask t' ht' with hold | rfl
    · obtain ⟨target, htarget, hbelow⟩ := hdb.targets t' hold
      exact ⟨target, htarget, hbelow.trans h.nextId⟩
    · exact ⟨_, h.backing.target, h.id ▸ h.nextId⟩
  · intro w' hw'
    rw [h.workspaces] at hw'
    obtain ⟨w'', hw'', rfl⟩ := List.mem_map.mp hw'
    split_ifs
    · exact .inr h.remotePath
    · exact hdb.paths w'' hw''
  · intro s' hs'
    rcases hsession s' hs' with hold | rfl
    · obtain ⟨w', hw', t', ht', hbacking, hnodes⟩ := hdb.backed s' hold
      obtain ⟨w'', hw'', hid, huser, hdevice, hpath⟩ := (h.follows hdb).workspaces w' hw'
      refine ⟨w'', hw'', t', h.tasks ▸ List.mem_append_left _ ht', ?_, (hnode _).symm ▸ hnodes⟩
      constructor
      · rw [hid, hbacking.workspaceId]
      · rw [huser, hbacking.userId]
      · exact hpath _ hbacking.remotePath
      · exact hbacking.nodeId
      · rw [hdevice, hbacking.target]
    · refine ⟨w, ?_, t, ?_, h.backing, (hnode _).symm ▸ h.node⟩
      · rw [h.workspaces]
        exact List.mem_map.mpr ⟨w₀, hw₀, if_pos hwid.symm⟩
      · rw [h.tasks]
        exact List.mem_append_right _ (List.mem_singleton_self t)
  · intro s₁ hs₁ s₂ hs₂ heq
    rcases hsession s₁ hs₁ with hold₁ | hnew₁
    · rcases hsession s₂ hs₂ with hold₂ | hnew₂
      · exact hdb.alone s₁ hold₁ s₂ hold₂ heq
      · exact absurd (hnew₂ ▸ heq) (h.alone s₁ hold₁)
    · rcases hsession s₂ hs₂ with hold₂ | hnew₂
      · exact absurd (hnew₁ ▸ heq.symm) (h.alone s₂ hold₂)
      · exact hnew₁.trans hnew₂.symm
  · intro s' hs'
    rcases hsession s' hs' with hold | rfl
    · exact hdb.notStopped s' hold
    · rw [h.status]
      exact nofun
  · intro s' hs'
    rcases hsession s' hs' with hold | rfl
    · exact hdb.notHealthy s' hold
    · rw [h.status]
      exact nofun
  · intro s' hs' hstarting t' ht' hid
    rcases htask t' ht' with hold | rfl
    · rcases hsession s' hs' with hold' | rfl
      · exact hdb.deliverable s' hold' hstarting t' hold hid
      · exact absurd hid (hdb.fresh h.id.ge t' hold)
    · rw [h.taskStatus]
      rfl

lemma deletes_follows {id : Uuid} :
    db.Follows uuid { db with syncSessions := db.syncSessions.filter (·.id ≠ id) } where
  nextId := le_rfl
  tasks t ht := ⟨t, ht, .refl t⟩
  workspaces w hw := ⟨w, hw, rfl, rfl, rfl, fun _ h => h⟩
  nodes _ h := h

lemma deletes_sound {id : Uuid} (hdb : db.Sound uuid) :
    SyncDb.Sound uuid { db with syncSessions := db.syncSessions.filter (·.id ≠ id) } where
  workspaceIds := hdb.workspaceIds
  sessionIds := hdb.sessionIds.sublist (List.filter_sublist.map _)
  taskIds := hdb.taskIds
  sessionsBelow s hs := hdb.sessionsBelow s (List.mem_of_mem_filter hs)
  targets := hdb.targets
  paths := hdb.paths
  backed s hs := hdb.backed s (List.mem_of_mem_filter hs)
  alone s hs s' hs' := hdb.alone s (List.mem_of_mem_filter hs) s' (List.mem_of_mem_filter hs')
  notStopped s hs := hdb.notStopped s (List.mem_of_mem_filter hs)
  notHealthy s hs := hdb.notHealthy s (List.mem_of_mem_filter hs)
  deliverable s hs := hdb.deliverable s (List.mem_of_mem_filter hs)

lemma Move.sound_follows (hdb : db.Sound uuid) (h : Move uuid shown db db') :
    db'.Sound uuid ∧ db.Follows uuid db' := by
  cases h with
  | rewrites f g h => exact ⟨h.sound hdb, h.follows⟩
  | creates s w t h => exact ⟨h.sound hdb, h.follows hdb⟩
  | deletes id h =>
    subst h
    exact ⟨deletes_sound hdb, deletes_follows⟩

end

end AgentRemote.SyncSessions
