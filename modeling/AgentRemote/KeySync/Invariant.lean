import AgentRemote.KeySync.Service

/-!
# What every state of the key synchronisation keeps

A task names its node, its device and whether it carries keys. A task without keys is there only
for a device that is revoked. What one transaction does to devices and tasks is a move.
-/

namespace AgentRemote.KeySync
open Library PortForwards Runtimes

variable {names : KeyNames}

/-! ### Names of tasks -/

/-- A text before the first colon is determined by the whole. -/
lemma append_colon_inj {a a' b b' : Text} (ha : ':' ∉ a) (ha' : ':' ∉ a')
    (h : a ++ ':' :: b = a' ++ ':' :: b') : a = a' ∧ b = b' := by
  induction a generalizing a' with
  | nil =>
    cases a' with
    | nil =>
      simp only [List.nil_append, List.cons.injEq, true_and] at h
      exact ⟨rfl, h⟩
    | cons c a' =>
      simp only [List.nil_append, List.cons_append, List.cons.injEq] at h
      exact absurd List.mem_cons_self (h.1 ▸ ha')
  | cons c a ih =>
    cases a' with
    | nil =>
      simp only [List.nil_append, List.cons_append, List.cons.injEq] at h
      exact absurd List.mem_cons_self (h.1 ▸ ha)
    | cons c' a' =>
      simp only [List.cons_append, List.cons.injEq] at h
      have hrest := ih (fun hmem => ha (List.mem_cons_of_mem _ hmem))
        (fun hmem => ha' (List.mem_cons_of_mem _ hmem)) h.2
      exact ⟨by rw [h.1, hrest.1], hrest.2⟩

lemma syncTaskName_inj {n n' d d' : Uuid} {s s' : Text}
    (h : syncTaskName names n d s = syncTaskName names n' d' s') :
    n = n' ∧ d = d' ∧ names.revision s = names.revision s' := by
  unfold syncTaskName at h
  rw [List.append_assoc, List.append_assoc] at h
  obtain ⟨hnode, hrest⟩ :=
    append_colon_inj (names.plain n) (names.plain n') (List.append_cancel_left h)
  obtain ⟨hdevice, hrevision⟩ := append_colon_inj (names.plain d) (names.plain d') hrest
  exact ⟨names.uuid.str_inj hnode, names.uuid.str_inj hdevice, hrevision⟩

lemma keyRevision_eq_nil {keys : List SshKey} : keyRevision names keys = [] ↔ keys = [] := by
  refine ⟨fun h => ?_, fun h => by rw [h]; rfl⟩
  unfold keyRevision at h
  rw [List.flatMap_eq_nil_iff] at h
  apply List.eq_nil_iff_forall_not_mem.mpr
  intro k hk
  have hnil := h k ((List.mem_insertionSort _).mpr hk)
  simp at hnil

/-- What a task is about. -/
structure Named (names : KeyNames) (t : NodeTask) (n d : Uuid) (digested : Text) : Prop where
  taskId : t.taskId = syncTaskName names n d digested
  nodeId : t.nodeId = n
  device : taskDevice names t = some d
  taskType : t.taskType = .syncSshKeys
  keys : carriedKeys t = [] ↔ digested = []

lemma carriedKeys_payload (t : NodeTask) {deviceId : Uuid} {sshUser : Text} {keys : List SshKey}
    (h : t.payload = sshKeySyncPayload names deviceId sshUser keys) :
    carriedKeys t = [] ↔ keys = [] := by
  have hget : (t.payload.get "ssh_keys".toList).bind JsonValue.array? =
      some (keys.map (trustedKey names deviceId)) := by
    rw [h]
    rfl
  unfold carriedKeys
  rw [hget, Option.getD_some, List.map_eq_nil_iff]

lemma taskDevice_payload (t : NodeTask) {deviceId : Uuid} {sshUser : Text} {keys : List SshKey}
    (h : t.payload = sshKeySyncPayload names deviceId sshUser keys) :
    taskDevice names t = some deviceId := by
  unfold taskDevice
  rw [h]
  exact names.uuid.parse_str deviceId

lemma keyTask_named (id : Uuid) (node : Node) (deviceId : Uuid) (keys : List SshKey) :
    Named names (keyTask names id node deviceId keys) node.id deviceId (keyRevision names keys) where
  taskId := rfl
  nodeId := rfl
  device := taskDevice_payload _ rfl
  taskType := rfl
  keys := (carriedKeys_payload _ rfl).trans keyRevision_eq_nil.symm

/-- A task is the empty-set task of a node and a device when it has its name. -/
lemma Named.empty {t : NodeTask} {n d n' d' : Uuid} {digested : Text}
    (h : Named names t n d digested) (hid : t.taskId = sshKeySyncTaskId names n' d' []) :
    n = n' ∧ d = d' ∧ carriedKeys t = [] := by
  have hname : syncTaskName names n d digested = syncTaskName names n' d' [] :=
    h.taskId.symm.trans hid
  obtain ⟨hnode, hdevice, hrevision⟩ := syncTaskName_inj hname
  exact ⟨hnode, hdevice, h.keys.mpr (names.revision_nil _ hrevision)⟩

/-- A rewritten task is about what it was about. -/
structure TaskKept (names : KeyNames) (t t' : NodeTask) : Prop where
  id : t'.id = t.id
  taskId : t'.taskId = t.taskId
  nodeId : t'.nodeId = t.nodeId
  taskType : t'.taskType = t.taskType
  device : taskDevice names t' = taskDevice names t
  keys : carriedKeys t' = [] ↔ carriedKeys t = []

lemma TaskKept.refl (t : NodeTask) : TaskKept names t t := ⟨rfl, rfl, rfl, rfl, rfl, Iff.rfl⟩

lemma TaskKept.named {t t' : NodeTask} {n d : Uuid} {digested : Text}
    (h : TaskKept names t t') (hn : Named names t n d digested) : Named names t' n d digested where
  taskId := h.taskId.trans hn.taskId
  nodeId := h.nodeId.trans hn.nodeId
  device := h.device.trans hn.device
  taskType := h.taskType.trans hn.taskType
  keys := h.keys.trans hn.keys

/-! ### States -/

/-- The task will still be delivered, or has succeeded. -/
def delivers (status : TaskStatus) : Prop := status.terminal = false ∨ status = .succeeded

namespace KeyDb

/-- The device is revoked. -/
def Revoked (db : KeyDb) (deviceId : Uuid) : Prop :=
  ∃ d ∈ db.devices, d.id = deviceId ∧ d.status = .revoked

/-- Every node has the empty-set task of the device. -/
def Withdrawn (names : KeyNames) (db : KeyDb) (deviceId : Uuid) : Prop :=
  ∀ nodeId ∈ db.nodes.map Node.id, ∃ t ∈ db.tasks, t.taskId = sshKeySyncTaskId names nodeId deviceId []

/-- The device is revoked, and no task with a key of it is left for the node. -/
def Closed (names : KeyNames) (db : KeyDb) (nodeId deviceId : Uuid) : Prop :=
  db.Revoked deviceId ∧ ∀ t ∈ db.tasks, t.nodeId = nodeId → taskDevice names t = some deviceId →
    carriedKeys t ≠ [] → t.status.terminal = true

structure Sound (names : KeyNames) (db : KeyDb) : Prop where
  nodeIds : (db.nodes.map Node.id).Nodup
  ids : (db.tasks.map NodeTask.id).Nodup
  taskIds : (db.tasks.map NodeTask.taskId).Nodup
  below : ∀ t ∈ db.tasks, t.id < db.nextId
  named : ∀ t ∈ db.tasks, ∃ n ∈ db.nodes.map Node.id, ∃ d digested, Named names t n d digested
  empty : ∀ t ∈ db.tasks, carriedKeys t = [] → delivers t.status ∧
    ∀ d, taskDevice names t = some d → db.Revoked d

/-- What does not change from a state to a later one. -/
structure Follows (names : KeyNames) (db db' : KeyDb) : Prop where
  nextId : db.nextId ≤ db'.nextId
  nodes : db'.nodes.map Node.id = db.nodes.map Node.id
  devices : ∀ d ∈ db.devices, ∃ d' ∈ db'.devices, d'.id = d.id
  revoked : ∀ d, db.Revoked d → db'.Revoked d
  tasks : ∀ t ∈ db.tasks, ∃ t' ∈ db'.tasks, t'.taskId = t.taskId
  closed : ∀ n d, db.Closed names n d → db'.Closed names n d

lemma Follows.refl (db : KeyDb) : db.Follows names db where
  nextId := le_rfl
  nodes := rfl
  devices d hd := ⟨d, hd, rfl⟩
  revoked _ h := h
  tasks t ht := ⟨t, ht, rfl⟩
  closed _ _ h := h

lemma Follows.trans {a b c : KeyDb} (hab : a.Follows names b) (hbc : b.Follows names c) :
    a.Follows names c where
  nextId := hab.nextId.trans hbc.nextId
  nodes := hbc.nodes.trans hab.nodes
  devices d hd := by
    obtain ⟨d', hd', hid⟩ := hab.devices d hd
    obtain ⟨d'', hd'', hid'⟩ := hbc.devices d' hd'
    exact ⟨d'', hd'', hid'.trans hid⟩
  revoked d h := hbc.revoked d (hab.revoked d h)
  tasks t ht := by
    obtain ⟨t', ht', hid⟩ := hab.tasks t ht
    obtain ⟨t'', ht'', hid'⟩ := hbc.tasks t' ht'
    exact ⟨t'', ht'', hid'.trans hid⟩
  closed n d h := hbc.closed n d (hab.closed n d h)

lemma Follows.withdrawn {a b : KeyDb} (h : a.Follows names b) {d : Uuid}
    (hw : a.Withdrawn names d) : b.Withdrawn names d := by
  intro n hn
  rw [h.nodes] at hn
  obtain ⟨t, ht, hid⟩ := hw n hn
  obtain ⟨t', ht', hid'⟩ := h.tasks t ht
  exact ⟨t', ht', hid'.trans hid⟩

end KeyDb

/-! ### Moves -/

/-- Tasks are rewritten in place and added. A settled task with keys is settled still unless its
device is not revoked, and a task without keys delivers still. -/
structure KeyMove (names : KeyNames) (g : NodeTask → NodeTask) (news : List NodeTask)
    (db db' : KeyDb) : Prop where
  nodes : db'.nodes.map Node.id = db.nodes.map Node.id
  nextId : db.nextId ≤ db'.nextId
  devices : ∀ d ∈ db.devices, ∃ d' ∈ db'.devices,
    d'.id = d.id ∧ (d.status = .revoked → d'.status = .revoked)
  tasks : db'.tasks = db.tasks.map g ++ news
  kept : ∀ t ∈ db.tasks, TaskKept names t (g t)
  settled : ∀ t ∈ db.tasks, carriedKeys t ≠ [] → t.status.terminal = true →
    (g t).status.terminal = true ∨ ∀ d, taskDevice names t = some d → ¬db.Revoked d
  empty : ∀ t ∈ db.tasks, carriedKeys t = [] → delivers t.status → delivers (g t).status
  newIds : (news.map NodeTask.id).Nodup
  newTaskIds : (news.map NodeTask.taskId).Nodup
  fresh : ∀ t ∈ news, db.nextId ≤ t.id ∧ t.id < db'.nextId ∧ ∀ t' ∈ db.tasks, t'.taskId ≠ t.taskId
  newNamed : ∀ t ∈ news, ∃ n ∈ db.nodes.map Node.id, ∃ d digested, Named names t n d digested ∧
    t.status = .pending ∧ (carriedKeys t = [] → db'.Revoked d) ∧ (carriedKeys t ≠ [] → ¬db.Revoked d)

section

variable {g : NodeTask → NodeTask} {news : List NodeTask} {db db' : KeyDb}

/-- A task after a move is an old one rewritten or a new one. -/
lemma KeyMove.mem_tasks (h : KeyMove names g news db db') {t' : NodeTask} (ht' : t' ∈ db'.tasks) :
    (∃ t ∈ db.tasks, t' = g t) ∨ t' ∈ news := by
  rw [h.tasks] at ht'
  rcases List.mem_append.mp ht' with hold | hnew
  · obtain ⟨t, ht, rfl⟩ := List.mem_map.mp hold
    exact .inl ⟨t, ht, rfl⟩
  · exact .inr hnew

lemma KeyMove.revoked (h : KeyMove names g news db db') {id : Uuid} (hid : db.Revoked id) :
    db'.Revoked id := by
  obtain ⟨d, hd, rfl, hrevoked⟩ := hid
  obtain ⟨d', hd', hsame, hkept⟩ := h.devices d hd
  exact ⟨d', hd', hsame, hkept hrevoked⟩

lemma KeyMove.sound (hdb : db.Sound names) (h : KeyMove names g news db db') :
    db'.Sound names where
  nodeIds := h.nodes ▸ hdb.nodeIds
  ids := by
    have hold : (db.tasks.map g).map NodeTask.id = db.tasks.map NodeTask.id := by
      rw [List.map_map]
      exact List.map_congr_left fun t ht => (h.kept t ht).id
    rw [h.tasks, List.map_append, hold]
    refine List.Nodup.append hdb.ids h.newIds fun id hid hnew => ?_
    obtain ⟨t, ht, rfl⟩ := List.mem_map.mp hid
    obtain ⟨t', ht', heq⟩ := List.mem_map.mp hnew
    have hle := (h.fresh t' ht').1
    rw [heq] at hle
    exact absurd (hdb.below t ht) hle.not_gt
  taskIds := by
    have hold : (db.tasks.map g).map NodeTask.taskId = db.tasks.map NodeTask.taskId := by
      rw [List.map_map]
      exact List.map_congr_left fun t ht => (h.kept t ht).taskId
    rw [h.tasks, List.map_append, hold]
    refine List.Nodup.append hdb.taskIds h.newTaskIds fun id hid hnew => ?_
    obtain ⟨t, ht, rfl⟩ := List.mem_map.mp hid
    obtain ⟨t', ht', heq⟩ := List.mem_map.mp hnew
    exact (h.fresh t' ht').2.2 t ht heq.symm
  below t' ht' := by
    rcases h.mem_tasks ht' with ⟨t, ht, rfl⟩ | hnew
    · rw [(h.kept t ht).id]
      exact (hdb.below t ht).trans_le h.nextId
    · exact (h.fresh t' hnew).2.1
  named t' ht' := by
    rw [h.nodes]
    rcases h.mem_tasks ht' with ⟨t, ht, rfl⟩ | hnew
    · obtain ⟨n, hn, d, digested, hnamed⟩ := hdb.named t ht
      exact ⟨n, hn, d, digested, (h.kept t ht).named hnamed⟩
    · obtain ⟨n, hn, d, digested, hnamed, -⟩ := h.newNamed t' hnew
      exact ⟨n, hn, d, digested, hnamed⟩
  empty t' ht' hempty := by
    rcases h.mem_tasks ht' with ⟨t, ht, rfl⟩ | hnew
    · have hold := (h.kept t ht).keys.mp hempty
      obtain ⟨hdelivers, hrevoked⟩ := hdb.empty t ht hold
      refine ⟨h.empty t ht hold hdelivers, fun d hd => h.revoked (hrevoked d ?_)⟩
      rw [← (h.kept t ht).device, hd]
    · obtain ⟨n, -, d, digested, hnamed, hpending, hrevoked, -⟩ := h.newNamed t' hnew
      refine ⟨.inl (by rw [hpending]; rfl), fun d' hd' => ?_⟩
      have hsame : d = d' := Option.some.inj (hnamed.device.symm.trans hd')
      exact hsame ▸ hrevoked hempty

lemma KeyMove.follows (h : KeyMove names g news db db') : db.Follows names db' where
  nextId := h.nextId
  nodes := h.nodes
  devices d hd := by
    obtain ⟨d', hd', hid, -⟩ := h.devices d hd
    exact ⟨d', hd', hid⟩
  revoked _ hd := h.revoked hd
  tasks t ht :=
    ⟨g t, h.tasks ▸ List.mem_append_left _ (List.mem_map_of_mem ht), (h.kept t ht).taskId⟩
  closed n d hclosed := by
    refine ⟨h.revoked hclosed.1, fun t' ht' hnode hdevice hkeys => ?_⟩
    rcases h.mem_tasks ht' with ⟨t, ht, rfl⟩ | hnew
    · have hkept := h.kept t ht
      have hold : carriedKeys t ≠ [] := fun hnil => hkeys (hkept.keys.mpr hnil)
      have hdevice' : taskDevice names t = some d := hkept.device.symm.trans hdevice
      have hsettled := hclosed.2 t ht (hkept.nodeId.symm.trans hnode) hdevice' hold
      rcases h.settled t ht hold hsettled with hstill | hlive
      · exact hstill
      · exact absurd hclosed.1 (hlive d hdevice')
    · obtain ⟨n', -, d', digested, hnamed, -, -, hlive⟩ := h.newNamed t' hnew
      have hsame : d' = d := Option.some.inj (hnamed.device.symm.trans hdevice)
      exact absurd hclosed.1 (hsame ▸ hlive hkeys)

/-- A move that adds no task. -/
lemma keyMove_rewrites (hnodes : db'.nodes.map Node.id = db.nodes.map Node.id)
    (hnextId : db.nextId ≤ db'.nextId) (hdevices : db'.devices = db.devices)
    (htasks : db'.tasks = db.tasks.map g) (hkept : ∀ t ∈ db.tasks, TaskKept names t (g t))
    (hsettled : ∀ t ∈ db.tasks, carriedKeys t ≠ [] → t.status.terminal = true →
      (g t).status.terminal = true ∨ ∀ d, taskDevice names t = some d → ¬db.Revoked d)
    (hempty : ∀ t ∈ db.tasks, carriedKeys t = [] → delivers t.status → delivers (g t).status) :
    KeyMove names g [] db db' where
  nodes := hnodes
  nextId := hnextId
  devices d hd := ⟨d, hdevices ▸ hd, rfl, fun h => h⟩
  tasks := by rw [htasks, List.append_nil]
  kept := hkept
  settled := hsettled
  empty := hempty
  newIds := List.nodup_nil
  newTaskIds := List.nodup_nil
  fresh := List.forall_mem_nil _
  newNamed := List.forall_mem_nil _

/-- Nothing happens to tasks, and devices stay. -/
lemma keyMove_same (hnodes : db'.nodes.map Node.id = db.nodes.map Node.id)
    (hnextId : db.nextId ≤ db'.nextId) (hdevices : ∀ d ∈ db.devices, d ∈ db'.devices)
    (htasks : db'.tasks = db.tasks) : KeyMove names id [] db db' where
  nodes := hnodes
  nextId := hnextId
  devices d hd := ⟨d, hdevices d hd, rfl, fun h => h⟩
  tasks := by rw [htasks, List.map_id, List.append_nil]
  kept t _ := .refl t
  settled _ _ _ h := .inl h
  empty _ _ _ h := h
  newIds := List.nodup_nil
  newTaskIds := List.nodup_nil
  fresh := List.forall_mem_nil _
  newNamed := List.forall_mem_nil _

end

end AgentRemote.KeySync
