import AgentRemote.DeviceControl.Sessions

/-!
# What an operation does to the sessions

An operation of the service that deletes nothing is a sequence of moves: a session is opened,
or changes its row with the tasks that go with the change. The invariants of sessions and tasks
are kept by every move.
-/

namespace AgentRemote
open Library

/-- The row of a session that ends. -/
def DeviceSession.ended (s : DeviceSession) (status : DeviceSessionStatus) (reason : Text)
    (now : Instant) : DeviceSession :=
  { s with
    generation := s.generation + 1, status, leaseUntil := none, lockAcquiredAt := none,
    stoppedAt := some now, stopReason := some reason }

/-- The row of a session that waits for its device again. -/
def DeviceSession.reopened (s : DeviceSession) : DeviceSession :=
  { s with generation := s.generation + 1, status := .pendingDevice, leaseUntil := none }

/-- The row of a session that holds a lease. -/
def DeviceSession.leased (s : DeviceSession) (leaseUntil : Instant) : DeviceSession :=
  { s with status := .active, leaseUntil := some leaseUntil }

/-- A row of a new session. -/
structure DeviceSession.New (s : DeviceSession) : Prop where
  status : s.status = .pendingDevice
  generation : s.generation = 1
  leaseUntil : s.leaseUntil = none
  lockAcquiredAt : s.lockAcquiredAt = none

/-- The changes of a row, with the tasks they enqueue. -/
inductive DeviceSession.Change (s : DeviceSession) :
    DeviceSession → List DeviceControlTask → Prop
  | awaited : s.status = .pendingDevice → s.Change { s with status := .pendingUserApproval } []
  | granted (leaseUntil : Instant) (capabilities : List Text) : s.status.reconnectable = true →
      leaseUntil ≤ s.expiresAt →
      s.Change (s.leased leaseUntil) [s.contextTask leaseUntil capabilities]
  | locked (now : Instant) : s.status = .active → s.lockAcquiredAt = none →
      s.Change { s with lockAcquiredAt := some now } []
  | reopened (toolSession : ToolSession) : s.status.reconnectable = true →
      s.generation < maxActiveDeviceSessionGeneration →
      s.Change s.reopened [s.reopened.activationTask toolSession]
  | ended {status : DeviceSessionStatus} (reason : Text) (now : Instant) :
      s.status.terminal = false → status.terminal = true →
      s.generation < maxDeviceSessionGeneration →
      s.Change (s.ended status reason now) [(s.ended status reason now).deactivationTask]

namespace DeviceControlTables

variable (db : DeviceControlTables)

def Unused (t : DeviceControlTask) : Prop := ∀ u ∈ db.tasks, u.taskId ≠ t.taskId

/-- No live session holds the place of a new one. -/
def Admits (s : DeviceSession) : Prop :=
  ∀ t ∈ db.sessions, t.id ≠ s.id ∧ (t.status.terminal = false →
    t.deviceId ≠ s.deviceId ∧ (t.toolSessionId ≠ none → t.toolSessionId ≠ s.toolSessionId))

/-- No other session holds the machine lock of the device. -/
def LockFree (s : DeviceSession) : Prop :=
  ∀ t ∈ db.sessions, t.id ≠ s.id → t.deviceId = s.deviceId → t.lockAcquiredAt = none

def addTasks (tasks : List DeviceControlTask) : DeviceControlTables :=
  { db with tasks := db.tasks ++ tasks }

end DeviceControlTables

inductive DeviceMove (db : DeviceControlTables) : DeviceControlTables → Prop
  | opened (s : DeviceSession) (toolSession : ToolSession) : s.New → db.Admits s →
      db.Unused (s.activationTask toolSession) →
      DeviceMove db { db with
        sessions := db.sessions ++ [s], tasks := db.tasks ++ [s.activationTask toolSession] }
  | changed {s s' : DeviceSession} {tasks : List DeviceControlTask} : s ∈ db.sessions →
      s.Change s' tasks → (∀ t ∈ tasks, db.Unused t) →
      (s'.lockAcquiredAt ≠ none → s.lockAcquiredAt = none → db.LockFree s) →
      DeviceMove db ((db.setSession s').addTasks tasks)
  | approved (id : Uuid) (items : List DeviceApprovalItem) :
      DeviceMove db (db.replaceApprovals id items)

/-- A change without tasks. -/
lemma DeviceMove.silent {db : DeviceControlTables} {s s' : DeviceSession}
    (hs : s ∈ db.sessions) (hc : s.Change s' [])
    (hlock : s'.lockAcquiredAt ≠ none → s.lockAcquiredAt = none → db.LockFree s) :
    DeviceMove db (db.setSession s') := by
  have hm := DeviceMove.changed hs hc (by simp) hlock
  simpa [DeviceControlTables.addTasks] using hm

/-- The moves of an operation. -/
abbrev DeviceMoves : DeviceControlTables → DeviceControlTables → Prop :=
  Relation.ReflTransGen DeviceMove

/-! ### Invariants -/

/-- What holds of the row of a session. -/
structure DeviceSession.Sound (s : DeviceSession) : Prop where
  lease : s.leaseUntil.isSome = true ↔ s.status = .active
  lease_le : ∀ leaseUntil ∈ s.leaseUntil, leaseUntil ≤ s.expiresAt
  terminal : s.status.terminal = true → s.leaseUntil = none ∧ s.lockAcquiredAt = none
  generation : 1 ≤ s.generation ∧ s.generation ≤ maxDeviceSessionGeneration
  live : s.status.terminal = false → s.generation ≤ maxActiveDeviceSessionGeneration

structure DeviceSessionsSound (db : DeviceControlTables) : Prop where
  ids : (db.sessions.map (·.id)).Nodup
  rows : ∀ s ∈ db.sessions, s.Sound
  device : ∀ s ∈ db.sessions, ∀ t ∈ db.sessions, s.status.terminal = false →
    t.status.terminal = false → s.deviceId = t.deviceId → s = t
  toolSession : ∀ s ∈ db.sessions, ∀ t ∈ db.sessions, s.status.terminal = false →
    t.status.terminal = false → s.toolSessionId ≠ none → s.toolSessionId = t.toolSessionId → s = t
  lock : ∀ s ∈ db.sessions, ∀ t ∈ db.sessions, s.lockAcquiredAt ≠ none →
    t.lockAcquiredAt ≠ none → s.deviceId = t.deviceId → s = t

/-- The id that the payload of a task determines. -/
def DeviceControlTaskPayload.taskId : DeviceControlTaskPayload → DeviceControlTaskId
  | .activation session _ _ _ => .activate session.deviceSessionId session.generation
  | .deactivation deviceSessionId _ generation => .deactivate deviceSessionId generation
  | .context session leaseUntil _ =>
    .updateContext session.deviceSessionId session.generation (leaseIdentity leaseUntil)

def DeviceControlTaskId.sessionId : DeviceControlTaskId → Uuid
  | .activate sessionId _ | .deactivate sessionId _ | .updateContext sessionId _ _ => sessionId

/-- What the task of a session says about its row. -/
def DeviceControlTaskId.Fits (s : DeviceSession) : DeviceControlTaskId → Prop
  | .activate _ generation => generation ≤ s.generation
  | .deactivate _ _ => s.status.terminal = true
  | .updateContext _ generation _ => generation ≤ s.generation ∧
      (s.status.terminal = false → s.leaseUntil = none → generation < s.generation)

structure DeviceTasksSound (db : DeviceControlTables) : Prop where
  ids : (db.tasks.map (·.taskId)).Nodup
  payload : ∀ t ∈ db.tasks, t.taskId = t.payload.taskId
  known : ∀ t ∈ db.tasks, ∃ u ∈ db.tasks, u.taskId = .activate t.taskId.sessionId 1
  opened : ∀ s ∈ db.sessions, ∃ t ∈ db.tasks, t.taskId = .activate s.id 1
  fits : ∀ s ∈ db.sessions, ∀ t ∈ db.tasks, t.taskId.sessionId = s.id → t.taskId.Fits s
  leased : ∀ s ∈ db.sessions, ∀ leaseUntil ∈ s.leaseUntil, ∃ t ∈ db.tasks,
    t.taskId = .updateContext s.id s.generation (leaseIdentity leaseUntil)

structure DeviceControlSound (db : DeviceControlTables) : Prop where
  sessions : DeviceSessionsSound db
  tasks : DeviceTasksSound db

/-- What can become of the row of a session. -/
structure DeviceSession.Follows (s s' : DeviceSession) : Prop where
  generation : s.generation ≤ s'.generation
  lease : s.leaseUntil ≠ none → s'.leaseUntil = none → s.generation < s'.generation
  terminal : s.status.terminal = true → s' = s

namespace DeviceSession

variable {s s' s'' : DeviceSession} {tasks : List DeviceControlTask}

lemma Follows.refl (s : DeviceSession) : s.Follows s where
  generation := le_rfl
  lease h h' := absurd h' h
  terminal _ := rfl

lemma Follows.trans (h : s.Follows s') (h' : s'.Follows s'') : s.Follows s'' where
  generation := h.generation.trans h'.generation
  lease hsome hnone := by
    by_cases hmid : s'.leaseUntil = none
    · exact (h.lease hsome hmid).trans_le h'.generation
    · exact h.generation.trans_lt (h'.lease hmid hnone)
  terminal hs := by
    have hmid := h.terminal hs
    exact (h'.terminal (hmid ▸ hs)).trans hmid

namespace Change

lemma id (h : s.Change s' tasks) : s'.id = s.id := by
  cases h <;> rfl

lemma deviceId (h : s.Change s' tasks) : s'.deviceId = s.deviceId := by
  cases h <;> rfl

lemma toolSessionId (h : s.Change s' tasks) : s'.toolSessionId = s.toolSessionId := by
  cases h <;> rfl

/-- Only live sessions change. -/
lemma live (h : s.Change s' tasks) : s.status.terminal = false := by
  cases h with
  | awaited h => rw [h]; rfl
  | granted _ _ h => exact DeviceSessionStatus.terminal_eq_false_of_reconnectable h
  | locked _ h => rw [h]; rfl
  | reopened _ h => exact DeviceSessionStatus.terminal_eq_false_of_reconnectable h
  | ended _ _ h => exact h

lemma follows (h : s.Change s' tasks) : s.Follows s' := by
  have hlive := h.live
  have hterminal : s.status.terminal = true → s' = s := by simp [hlive]
  cases h with
  | awaited => exact ⟨le_rfl, fun h h' => absurd h' h, hterminal⟩
  | granted => exact ⟨le_rfl, fun _ => nofun, hterminal⟩
  | locked => exact ⟨le_rfl, fun h h' => absurd h' h, hterminal⟩
  | reopened => exact ⟨Nat.le_succ _, fun _ _ => Nat.lt_succ_self _, hterminal⟩
  | ended => exact ⟨Nat.le_succ _, fun _ _ => Nat.lt_succ_self _, hterminal⟩

lemma sound (h : s.Change s' tasks) (hs : s.Sound) : s'.Sound := by
  have hlive := hs.live h.live
  obtain ⟨hpos, hmax⟩ := hs.generation
  cases h with
  | awaited hstatus =>
    have hlease : s.leaseUntil = none := by
      have := hs.lease
      rw [hstatus] at this
      simpa using this
    exact ⟨by simp [hlease], hs.lease_le, nofun, hs.generation, fun _ => hlive⟩
  | granted leaseUntil _ _ hle =>
    refine ⟨by simp [DeviceSession.leased], ?_, nofun, hs.generation, fun _ => hlive⟩
    intro t ht
    obtain rfl := Option.mem_some_iff.mp ht
    exact hle
  | locked _ hstatus =>
    exact ⟨hs.lease, hs.lease_le, by simp [hstatus, DeviceSessionStatus.terminal],
      hs.generation, fun _ => hlive⟩
  | reopened _ _ hlt =>
    have hle : s.generation + 1 ≤ maxActiveDeviceSessionGeneration := hlt
    exact ⟨by simp [DeviceSession.reopened], nofun, nofun,
      ⟨Nat.le_add_left 1 _, hle.trans (Nat.sub_le _ _)⟩, fun _ => hle⟩
  | @ended status _ _ _ hstatus hlt =>
    refine ⟨?_, nofun, fun _ => ⟨rfl, rfl⟩, ⟨Nat.le_add_left 1 _, hlt⟩, ?_⟩
    · have hactive : status ≠ .active := by
        rintro rfl
        cases hstatus
      simpa [DeviceSession.ended] using hactive
    · intro h
      exact absurd (hstatus.symm.trans h) (by decide)

/-- A row with a lease has it from before, in the same generation, or tells its node. -/
lemma lease_cases (h : s.Change s' tasks) {leaseUntil : Instant}
    (hl : leaseUntil ∈ s'.leaseUntil) :
    s'.leaseUntil = s.leaseUntil ∧ s'.generation = s.generation ∨
      ∃ t ∈ tasks, t.taskId = .updateContext s'.id s'.generation (leaseIdentity leaseUntil) := by
  cases h with
  | awaited => exact .inl ⟨rfl, rfl⟩
  | granted l capabilities =>
    obtain rfl := Option.mem_some_iff.mp hl
    exact .inr ⟨_, List.mem_singleton_self _, rfl⟩
  | locked => exact .inl ⟨rfl, rfl⟩
  | reopened => cases hl
  | ended => cases hl

lemma sessionId_tasks (h : s.Change s' tasks) : ∀ t ∈ tasks, t.taskId.sessionId = s.id := by
  cases h <;> simp [contextTask, activationTask, deactivationTask,
    DeviceControlTaskId.sessionId, DeviceSession.reopened, DeviceSession.ended]

lemma payload_tasks (h : s.Change s' tasks) : ∀ t ∈ tasks, t.taskId = t.payload.taskId := by
  cases h <;> simp [contextTask, activationTask, deactivationTask, payload,
    DeviceControlTaskPayload.taskId]

/-- The tasks of a change fit the new row. -/
lemma fits_tasks (h : s.Change s' tasks) : ∀ t ∈ tasks, t.taskId.Fits s' := by
  cases h with
  | ended _ _ _ hstatus =>
    simpa [deactivationTask, DeviceControlTaskId.Fits, DeviceSession.ended] using hstatus
  | _ => simp [contextTask, activationTask, DeviceControlTaskId.Fits, DeviceSession.reopened,
      DeviceSession.leased]

/-- A task that fits a row fits what becomes of it. -/
lemma fits (h : s.Change s' tasks) {i : DeviceControlTaskId} (hi : i.Fits s) : i.Fits s' := by
  have hlive := h.live
  cases i with
  | activate _ g => exact hi.trans h.follows.generation
  | deactivate => exact absurd (hi.symm.trans hlive) (by decide)
  | updateContext _ g _ =>
    obtain ⟨hle, hlt⟩ := hi
    refine ⟨hle.trans h.follows.generation, fun hlive' hnone => ?_⟩
    by_cases hlease : s.leaseUntil = none
    · exact (hlt hlive hlease).trans_le h.follows.generation
    · exact hle.trans_lt (h.follows.lease hlease hnone)

end Change

end DeviceSession

/-! ### Moves keep the invariants -/

namespace DeviceControlTables

variable {db : DeviceControlTables} {s s' x : DeviceSession} {tasks : List DeviceControlTask}

@[simp] lemma setSession_tasks : (db.setSession s).tasks = db.tasks := rfl

@[simp] lemma addTasks_tasks : (db.addTasks tasks).tasks = db.tasks ++ tasks := rfl

@[simp] lemma addTasks_sessions : (db.addTasks tasks).sessions = db.sessions := rfl

lemma mem_setSession (hs : s ∈ db.sessions) (hid : s'.id = s.id) :
    x ∈ (db.setSession s').sessions ↔ (x ∈ db.sessions ∧ x.id ≠ s.id) ∨ x = s' := by
  have hkey : ∃ q ∈ db.sessions, q.id = s'.id := ⟨s, hs, hid.symm⟩
  unfold setSession
  rw [mem_replace, hid]
  rw [hid] at hkey
  simp only [hkey, and_true]

lemma map_id_setSession : (db.setSession s).sessions.map (·.id) = db.sessions.map (·.id) :=
  map_key_replace _ _

end DeviceControlTables

section

open DeviceControlTables

variable {db db' : DeviceControlTables} {s s' : DeviceSession} {tasks : List DeviceControlTask}

lemma DeviceSessionsSound.eq_of_id (h : DeviceSessionsSound db) {t : DeviceSession}
    (hs : s ∈ db.sessions) (ht : t ∈ db.sessions) (hid : s.id = t.id) : s = t :=
  eq_of_key_eq h.ids hs ht hid

/-- A pairwise property of rows is kept by a change of one row that looks the same to it. -/
lemma pairwise_changed {R : DeviceSession → DeviceSession → Prop}
    (hold : ∀ a ∈ db.sessions, ∀ b ∈ db.sessions, R a b → a = b) (hs : s ∈ db.sessions)
    (hid : s'.id = s.id) (hleft : ∀ b ∈ db.sessions, b.id ≠ s.id → ¬R s' b)
    (hright : ∀ a ∈ db.sessions, a.id ≠ s.id → ¬R a s') :
    ∀ a ∈ (db.setSession s').sessions, ∀ b ∈ (db.setSession s').sessions, R a b → a = b := by
  intro a ha b hb hab
  rcases (mem_setSession hs hid).mp ha with ⟨ha', hane⟩ | rfl <;>
    rcases (mem_setSession hs hid).mp hb with ⟨hb', hbne⟩ | rfl
  · exact hold a ha' b hb' hab
  · exact absurd hab (hright a ha' hane)
  · exact absurd hab (hleft b hb' hbne)
  · rfl

lemma DeviceSessionsSound.changed (h : DeviceSessionsSound db) (hs : s ∈ db.sessions)
    (hc : s.Change s' tasks)
    (hlock : s'.lockAcquiredAt ≠ none → s.lockAcquiredAt = none → db.LockFree s) :
    DeviceSessionsSound ((db.setSession s').addTasks tasks) := by
  have hlive := hc.live
  have hne : ∀ {t : DeviceSession}, t.id ≠ s.id → t ≠ s := fun h e => h (e ▸ rfl)
  refine ⟨?_, ?_, ?_, ?_, ?_⟩
  · exact (congrArg List.Nodup map_id_setSession).mpr h.ids
  · intro x hx
    rcases (mem_setSession hs hc.id).mp hx with ⟨hx, -⟩ | rfl
    · exact h.rows x hx
    · exact hc.sound (h.rows s hs)
  · intro a ha b hb hal hbl hab
    refine pairwise_changed (R := fun a b => a.status.terminal = false ∧
      b.status.terminal = false ∧ a.deviceId = b.deviceId) ?_ hs hc.id ?_ ?_ a ha b hb
      ⟨hal, hbl, hab⟩
    · exact fun a ha b hb ⟨hal, hbl, hab⟩ => h.device a ha b hb hal hbl hab
    · exact fun b hb hbne ⟨_, hbl, hab⟩ =>
        hne hbne (h.device s hs b hb hlive hbl (hc.deviceId ▸ hab)).symm
    · exact fun a ha hane ⟨hal, _, hab⟩ =>
        hne hane (h.device a ha s hs hal hlive (hc.deviceId ▸ hab))
  · intro a ha b hb hal hbl hsome hab
    refine pairwise_changed (R := fun a b => a.status.terminal = false ∧
      b.status.terminal = false ∧ a.toolSessionId ≠ none ∧ a.toolSessionId = b.toolSessionId)
      ?_ hs hc.id ?_ ?_ a ha b hb ⟨hal, hbl, hsome, hab⟩
    · exact fun a ha b hb ⟨hal, hbl, hsome, hab⟩ => h.toolSession a ha b hb hal hbl hsome hab
    · exact fun b hb hbne ⟨_, hbl, hsome, hab⟩ => hne hbne (h.toolSession s hs b hb hlive hbl
        (hc.toolSessionId ▸ hsome) (hc.toolSessionId ▸ hab)).symm
    · exact fun a ha hane ⟨hal, _, hsome, hab⟩ => hne hane (h.toolSession a ha s hs hal hlive
        hsome (hc.toolSessionId ▸ hab))
  · intro a ha b hb hal hbl hab
    have hother : ∀ t ∈ db.sessions, t.id ≠ s.id → t.deviceId = s.deviceId →
        t.lockAcquiredAt ≠ none → s'.lockAcquiredAt ≠ none → False := by
      intro t ht htne hdev htl hs'
      by_cases hsl : s.lockAcquiredAt = none
      · exact htl (hlock hs' hsl t ht htne hdev)
      · exact hne htne (h.lock t ht s hs htl hsl hdev)
    refine pairwise_changed (R := fun a b => a.lockAcquiredAt ≠ none ∧
      b.lockAcquiredAt ≠ none ∧ a.deviceId = b.deviceId) ?_ hs hc.id ?_ ?_ a ha b hb
      ⟨hal, hbl, hab⟩
    · exact fun a ha b hb ⟨hal, hbl, hab⟩ => h.lock a ha b hb hal hbl hab
    · exact fun b hb hbne ⟨hs', hbl, hab⟩ =>
        hother b hb hbne (hab.symm.trans hc.deviceId) hbl hs'
    · exact fun a ha hane ⟨hal, hs', hab⟩ => hother a ha hane (hab.trans hc.deviceId) hal hs'

/-- Rows of a table from which some went. -/
lemma DeviceSessionsSound.of_sublist (h : DeviceSessionsSound db)
    (hsub : db'.sessions.Sublist db.sessions) : DeviceSessionsSound db' where
  ids := h.ids.sublist (hsub.map _)
  rows s hs := h.rows s (hsub.subset hs)
  device s hs t ht := h.device s (hsub.subset hs) t (hsub.subset ht)
  toolSession s hs t ht := h.toolSession s (hsub.subset hs) t (hsub.subset ht)
  lock s hs t ht := h.lock s (hsub.subset hs) t (hsub.subset ht)

lemma DeviceSession.New.sound (h : s.New) : s.Sound where
  lease := by simp [h.leaseUntil, h.status]
  lease_le := by simp [h.leaseUntil]
  terminal _ := ⟨h.leaseUntil, h.lockAcquiredAt⟩
  generation := by simp [h.generation, maxDeviceSessionGeneration]
  live _ := by simp [h.generation, maxActiveDeviceSessionGeneration, maxDeviceSessionGeneration]

lemma DeviceSessionsSound.opened (h : DeviceSessionsSound db) (hnew : s.New) (ha : db.Admits s) :
    DeviceSessionsSound { db with sessions := db.sessions ++ [s], tasks := tasks } := by
  have hmem : ∀ {x}, x ∈ db.sessions ++ [s] ↔ x ∈ db.sessions ∨ x = s := by simp
  have hpair : ∀ {R : DeviceSession → DeviceSession → Prop},
      (∀ a ∈ db.sessions, ∀ b ∈ db.sessions, R a b → a = b) →
      (∀ b ∈ db.sessions, ¬R s b ∧ ¬R b s) →
      ∀ a ∈ db.sessions ++ [s], ∀ b ∈ db.sessions ++ [s], R a b → a = b := by
    intro R hold hnew a ha b hb hab
    rcases hmem.mp ha with ha' | rfl <;> rcases hmem.mp hb with hb' | rfl
    · exact hold a ha' b hb' hab
    · exact absurd hab (hnew a ha').2
    · exact absurd hab (hnew b hb').1
    · rfl
  refine ⟨?_, ?_, ?_, ?_, ?_⟩
  · rw [List.map_append, List.map_singleton]
    refine List.nodup_append.mpr ⟨h.ids, List.nodup_singleton _, ?_⟩
    simp only [List.mem_map, List.mem_singleton]
    rintro _ ⟨t, ht, rfl⟩ _ rfl
    exact (ha t ht).1
  · intro x hx
    rcases hmem.mp hx with hx | rfl
    · exact h.rows x hx
    · exact hnew.sound
  · intro a ha' b hb hal hbl hab
    refine hpair (R := fun a b => a.status.terminal = false ∧ b.status.terminal = false ∧
      a.deviceId = b.deviceId) ?_ ?_ a ha' b hb ⟨hal, hbl, hab⟩
    · exact fun a ha b hb ⟨hal, hbl, hab⟩ => h.device a ha b hb hal hbl hab
    · exact fun b hb => ⟨fun ⟨_, hbl, hab⟩ => ((ha b hb).2 hbl).1 hab.symm,
        fun ⟨hbl, _, hab⟩ => ((ha b hb).2 hbl).1 hab⟩
  · intro a ha' b hb hal hbl hsome hab
    refine hpair (R := fun a b => a.status.terminal = false ∧ b.status.terminal = false ∧
      a.toolSessionId ≠ none ∧ a.toolSessionId = b.toolSessionId) ?_ ?_ a ha' b hb
      ⟨hal, hbl, hsome, hab⟩
    · exact fun a ha b hb ⟨hal, hbl, hsome, hab⟩ => h.toolSession a ha b hb hal hbl hsome hab
    · exact fun b hb => ⟨fun ⟨_, hbl, hsome, hab⟩ => ((ha b hb).2 hbl).2 (hab ▸ hsome) hab.symm,
        fun ⟨hbl, _, hsome, hab⟩ => ((ha b hb).2 hbl).2 hsome hab⟩
  · intro a ha' b hb hal hbl hab
    refine hpair (R := fun a b => a.lockAcquiredAt ≠ none ∧ b.lockAcquiredAt ≠ none ∧
      a.deviceId = b.deviceId) ?_ ?_ a ha' b hb ⟨hal, hbl, hab⟩
    · exact fun a ha b hb ⟨hal, hbl, hab⟩ => h.lock a ha b hb hal hbl hab
    · exact fun b _ => ⟨fun ⟨h, _⟩ => h hnew.lockAcquiredAt, fun ⟨_, h, _⟩ => h hnew.lockAcquiredAt⟩

lemma DeviceSessionsSound.move (h : DeviceSessionsSound db) (hm : DeviceMove db db') :
    DeviceSessionsSound db' := by
  cases hm with
  | opened s ts hnew ha _ => exact h.opened hnew ha
  | changed hs hc _ hlock => exact h.changed hs hc hlock
  | approved id items => exact h.of_sublist (List.Sublist.refl _)

lemma nodup_taskIds (db : DeviceControlTables) (h : DeviceTasksSound db) (hnew : (tasks.map (·.taskId)).Nodup)
    (hu : ∀ t ∈ tasks, db.Unused t) : ((db.tasks ++ tasks).map (·.taskId)).Nodup := by
  rw [List.map_append]
  refine List.nodup_append.mpr ⟨h.ids, hnew, ?_⟩
  simp only [List.mem_map]
  rintro _ ⟨u, hu', rfl⟩ _ ⟨t, ht, rfl⟩
  exact hu t ht u hu'

/-- The tables know no task of a session that has not been opened. -/
lemma DeviceTasksSound.no_task (h : DeviceTasksSound db) {t u : DeviceControlTask}
    (hu : db.Unused t) (ht : t.taskId = .activate s.id 1) (hmem : u ∈ db.tasks) :
    u.taskId.sessionId ≠ s.id := by
  intro hid
  obtain ⟨v, hv, hvid⟩ := h.known u hmem
  exact hu v hv (by rw [hvid, hid, ht])

lemma DeviceTasksSound.opening (h : DeviceTasksSound db) (hnew : s.New) (ha : db.Admits s)
    (toolSession : ToolSession) (hu : db.Unused (s.activationTask toolSession)) :
    DeviceTasksSound { db with
      sessions := db.sessions ++ [s], tasks := db.tasks ++ [s.activationTask toolSession] } := by
  have hid : (s.activationTask toolSession).taskId = .activate s.id 1 := by
    simp [DeviceSession.activationTask, hnew.generation]
  have hmem : ∀ {t}, t ∈ db.tasks ++ [s.activationTask toolSession] ↔
      t ∈ db.tasks ∨ t = s.activationTask toolSession := by simp
  refine ⟨nodup_taskIds db h (List.nodup_singleton _) (by simpa using hu), ?_, ?_, ?_, ?_, ?_⟩
  · intro t ht
    rcases hmem.mp ht with ht | rfl
    · exact h.payload t ht
    · rfl
  · intro t ht
    rcases hmem.mp ht with ht | rfl
    · obtain ⟨u, hu, huid⟩ := h.known t ht
      exact ⟨u, hmem.mpr (.inl hu), huid⟩
    · exact ⟨_, hmem.mpr (.inr rfl), by rw [hid]; rfl⟩
  · intro r hr
    rcases List.mem_append.mp hr with hr | hr
    · obtain ⟨t, ht, htid⟩ := h.opened r hr
      exact ⟨t, hmem.mpr (.inl ht), htid⟩
    · obtain rfl := List.mem_singleton.mp hr
      exact ⟨_, hmem.mpr (.inr rfl), hid⟩
  · intro r hr t ht hrt
    rcases List.mem_append.mp hr with hr' | hr' <;> rcases hmem.mp ht with ht' | rfl
    · exact h.fits r hr' t ht' hrt
    · exact absurd hrt.symm (ha r hr').1
    · obtain rfl := List.mem_singleton.mp hr'
      exact absurd hrt (h.no_task hu hid ht')
    · obtain rfl := List.mem_singleton.mp hr'
      rw [hid, hnew.generation.symm]
      exact le_rfl
  · intro r hr l hl
    rcases List.mem_append.mp hr with hr | hr
    · obtain ⟨t, ht, htid⟩ := h.leased r hr l hl
      exact ⟨t, hmem.mpr (.inl ht), htid⟩
    · obtain rfl := List.mem_singleton.mp hr
      rw [hnew.leaseUntil] at hl
      cases hl

lemma DeviceTasksSound.changed (h : DeviceTasksSound db) (hs : s ∈ db.sessions)
    (hc : s.Change s' tasks) (hu : ∀ t ∈ tasks, db.Unused t) :
    DeviceTasksSound ((db.setSession s').addTasks tasks) := by
  have hmem : ∀ {t}, t ∈ db.tasks ++ tasks ↔ t ∈ db.tasks ∨ t ∈ tasks := List.mem_append
  obtain ⟨a, ha, haid⟩ := h.opened s hs
  refine ⟨nodup_taskIds db h ?_ hu, ?_, ?_, ?_, ?_, ?_⟩
  · cases hc <;> simp
  · intro t ht
    rcases hmem.mp ht with ht | ht
    · exact h.payload t ht
    · exact hc.payload_tasks t ht
  · intro t ht
    rcases hmem.mp ht with ht | ht
    · obtain ⟨u, hu, huid⟩ := h.known t ht
      exact ⟨u, hmem.mpr (.inl hu), huid⟩
    · exact ⟨a, hmem.mpr (.inl ha), by rw [haid, hc.sessionId_tasks t ht]⟩
  · intro r hr
    rcases (mem_setSession hs hc.id).mp hr with ⟨hr, -⟩ | rfl
    · obtain ⟨t, ht, htid⟩ := h.opened r hr
      exact ⟨t, hmem.mpr (.inl ht), htid⟩
    · exact ⟨a, hmem.mpr (.inl ha), by rw [haid, hc.id]⟩
  · intro r hr t ht hrt
    rcases (mem_setSession hs hc.id).mp hr with ⟨hr, hne⟩ | rfl <;> rcases hmem.mp ht with ht | ht
    · exact h.fits r hr t ht hrt
    · exact absurd (hrt.symm.trans (hc.sessionId_tasks t ht)) hne
    · exact hc.fits (h.fits s hs t ht (hrt.trans hc.id))
    · exact hc.fits_tasks t ht
  · intro r hr l hl
    rcases (mem_setSession hs hc.id).mp hr with ⟨hr, -⟩ | rfl
    · obtain ⟨t, ht, htid⟩ := h.leased r hr l hl
      exact ⟨t, hmem.mpr (.inl ht), htid⟩
    · rcases hc.lease_cases hl with ⟨hlease, hgeneration⟩ | ⟨t, ht, htid⟩
      · obtain ⟨t, ht, htid⟩ := h.leased s hs l (hlease ▸ hl)
        exact ⟨t, hmem.mpr (.inl ht), by rw [htid, hc.id, hgeneration]⟩
      · exact ⟨t, hmem.mpr (.inr ht), htid⟩

lemma DeviceTasksSound.of_subset (h : DeviceTasksSound db)
    (hsub : ∀ s ∈ db'.sessions, s ∈ db.sessions) (htasks : db'.tasks = db.tasks) :
    DeviceTasksSound db' where
  ids := htasks ▸ h.ids
  payload := htasks ▸ h.payload
  known := htasks ▸ h.known
  opened s hs := htasks ▸ h.opened s (hsub s hs)
  fits s hs := htasks ▸ h.fits s (hsub s hs)
  leased s hs := htasks ▸ h.leased s (hsub s hs)

lemma DeviceTasksSound.move (h : DeviceTasksSound db) (hm : DeviceMove db db') :
    DeviceTasksSound db' := by
  cases hm with
  | opened s ts hnew ha hu => exact h.opening hnew ha ts hu
  | changed hs hc hu _ => exact h.changed hs hc hu
  | approved id items => exact h.of_subset (fun s hs => hs) rfl

lemma DeviceControlSound.move (h : DeviceControlSound db) (hm : DeviceMove db db') :
    DeviceControlSound db' :=
  ⟨h.sessions.move hm, h.tasks.move hm⟩

lemma DeviceControlSound.moves (h : DeviceControlSound db) (hm : DeviceMoves db db') :
    DeviceControlSound db' := by
  induction hm with
  | refl => exact h
  | tail _ hm ih => exact ih.move hm

/-! ### What becomes of a row -/

/-- The tables after some moves: every row goes back to one that was there, or belongs to a
session that no task has named. -/
structure DeviceControlTables.Evolves (db db' : DeviceControlTables) : Prop where
  tasks : db.tasks ⊆ db'.tasks
  rows : ∀ s' ∈ db'.sessions, (∃ s ∈ db.sessions, s'.id = s.id ∧ s.Follows s') ∨
    ∀ t ∈ db.tasks, t.taskId.sessionId ≠ s'.id

namespace DeviceControlTables.Evolves

variable {db'' : DeviceControlTables}

lemma refl (db : DeviceControlTables) : db.Evolves db where
  tasks := List.Subset.refl _
  rows s hs := .inl ⟨s, hs, rfl, .refl s⟩

lemma trans (h : db.Evolves db') (h' : db'.Evolves db'') : db.Evolves db'' where
  tasks := List.Subset.trans h.tasks h'.tasks
  rows s'' hs'' := by
    rcases h'.rows s'' hs'' with ⟨s', hs', hid', hf'⟩ | hnone
    · rcases h.rows s' hs' with ⟨s, hs, hid, hf⟩ | hnone
      · exact .inl ⟨s, hs, hid'.trans hid, hf.trans hf'⟩
      · exact .inr (hid' ▸ hnone)
    · exact .inr fun t ht => hnone t (h.tasks ht)

lemma of_move (h : DeviceTasksSound db) (hm : DeviceMove db db') : db.Evolves db' := by
  cases hm with
  | opened s ts hnew ha hu =>
    refine ⟨List.subset_append_left _ _, fun r hr => ?_⟩
    rcases List.mem_append.mp hr with hr | hr
    · exact .inl ⟨r, hr, rfl, .refl r⟩
    · obtain rfl := List.mem_singleton.mp hr
      refine .inr fun t ht => h.no_task hu ?_ ht
      simp [DeviceSession.activationTask, hnew.generation]
  | @changed s s' tasks hs hc hu _ =>
    refine ⟨List.subset_append_left _ _, fun r hr => ?_⟩
    rcases (mem_setSession hs hc.id).mp hr with ⟨hr, -⟩ | rfl
    · exact .inl ⟨r, hr, rfl, .refl r⟩
    · exact .inl ⟨s, hs, hc.id, hc.follows⟩
  | approved id items => exact ⟨List.Subset.refl _, fun r hr => .inl ⟨r, hr, rfl, .refl r⟩⟩

lemma of_moves (h : DeviceControlSound db) (hm : DeviceMoves db db') :
    db.Evolves db' := by
  induction hm with
  | refl => exact .refl _
  | tail hms hm ih => exact ih.trans (of_move (h.moves hms).tasks hm)

/-- A row that shares its id with an older one has become of it. -/
lemma follows (h : DeviceControlSound db) (he : db.Evolves db') (hs : s ∈ db.sessions)
    (hs' : s' ∈ db'.sessions) (hid : s'.id = s.id) : s.Follows s' := by
  rcases he.rows s' hs' with ⟨r, hr, hrid, hf⟩ | hnone
  · rwa [h.sessions.eq_of_id hs hr (hid.symm.trans hrid)]
  · obtain ⟨t, ht, htid⟩ := h.tasks.opened s hs
    exact absurd (by rw [htid, hid]; rfl) (hnone t ht)

end DeviceControlTables.Evolves

/-- Every session keeps a row. -/
lemma exists_row_of_moves (hm : DeviceMoves db db') (hs : s ∈ db.sessions) :
    ∃ s' ∈ db'.sessions, s'.id = s.id := by
  induction hm with
  | refl => exact ⟨s, hs, rfl⟩
  | tail _ hm ih =>
    obtain ⟨r, hr, hrid⟩ := ih
    cases hm with
    | opened t _ => exact ⟨r, List.mem_append_left _ hr, hrid⟩
    | @changed t t' tasks ht hc _ _ =>
      by_cases hid : r.id = t.id
      · exact ⟨t', (mem_setSession ht hc.id).mpr (.inr rfl), hc.id.trans (hid.symm.trans hrid)⟩
      · exact ⟨r, (mem_setSession ht hc.id).mpr (.inl ⟨hr, hid⟩), hrid⟩
    | approved => exact ⟨r, hr, hrid⟩

/-- A deletion of rows, whose tasks stay. -/
lemma DeviceControlSound.deleteSessions (h : DeviceControlSound db) (p : DeviceSession → Prop)
    [DecidablePred p] : DeviceControlSound (db.deleteSessions p) :=
  ⟨h.sessions.of_sublist List.filter_sublist,
    h.tasks.of_subset (fun _ hs => List.mem_of_mem_filter hs) rfl⟩

lemma DeviceControlSound.empty : DeviceControlSound {} :=
  ⟨by constructor <;> simp, by constructor <;> simp⟩

end

end AgentRemote
