import AgentRemote.SyncSessions.Operations

/-!
# Activation of sync sessions

A workspace has one sync session, a session is active only after a node has reported its
workspace prepared, a late report never undoes a pause, and a session that starts has a task that
is still to be delivered. This holds of runs in which every operation finds at its commit what it
has read, and a completed preparation says that the workspace is prepared.
-/

namespace AgentRemote.SyncSessions
open Library PortForwards Runtimes

variable {uuid : UuidText}

/-! ### Statement -/

/-- The task that the transaction reports prepared. -/
def SyncTx.preparedTask : SyncTx → Option Text
  | .complete _ taskId result => if reportsPrepared result then some taskId else none
  | _ => none

/-- The transaction reports the end of a task. -/
def SyncTx.reports : SyncTx → Bool
  | .complete .. | .fail .. => true
  | _ => false

section

variable (leaseSeconds : ℕ) (world : SyncWorld uuid) (schedule : List (Scheduled SyncTx))

/-- The commit completes the preparation of the session with a result that says so. -/
def Prepares (c : Commit SyncDb SyncTx) (id : Uuid) : Prop :=
  c.tx.preparedTask = some (prepareTaskId uuid id) ∧
    (syncing leaseSeconds world).answer c = .ok ()

/-- What holds after the schedule. -/
structure SyncActivation : Prop where
  oneCurrent : ∀ s ∈ ((syncing leaseSeconds world).state schedule).syncSessions,
    ∀ s' ∈ ((syncing leaseSeconds world).state schedule).syncSessions,
      s.current → s'.current → s.workspaceId = s'.workspaceId → s = s'
  prepared : ∀ s ∈ ((syncing leaseSeconds world).state schedule).syncSessions,
    s.status = .active →
      ∃ c ∈ (syncing leaseSeconds world).commits schedule, Prepares leaseSeconds world c s.id
  paused : ∀ c ∈ (syncing leaseSeconds world).commits schedule, c.tx.reports →
    ∀ s ∈ c.before.syncSessions, s.status = .paused →
      s ∈ ((syncing leaseSeconds world).after c).syncSessions
  deliverable : ∀ s ∈ ((syncing leaseSeconds world).state schedule).syncSessions,
    s.status = .starting →
      ∃ t ∈ ((syncing leaseSeconds world).state schedule).tasks,
        t.taskId = prepareTaskId uuid s.id ∧ t.status.terminal = false

end

/-- A task of the session is still to be delivered. -/
def SyncDb.awaited (uuid : UuidText) (db : SyncDb) (id : Uuid) : Prop :=
  ∀ t ∈ db.tasks, t.taskId = prepareTaskId uuid id → t.status.terminal = false

/-- Every session that waits for the task at the commit waited for it when the report's update
ran. -/
def Commit.Waited (uuid : UuidText) (c : Commit SyncDb SyncTx) (taskId : Text) : Prop :=
  ∀ id, taskId = prepareTaskId uuid id → c.before.starting id → (c.seen 2).starting id

/-- What an operation has read still holds at its commit, and a task that completes was
prepared. A report that repeats the status of its task changes nothing and is exempt. -/
def Evidenced (uuid : UuidText) (c : Commit SyncDb SyncTx) : Prop :=
  match c.tx with
  | .create _ r => (c.seen 1).getCurrentSyncSession r.workspaceId = none →
      c.before.getCurrentSyncSession r.workspaceId = none
  | .resume r | .reset r => ∀ t, (lockedRead c.seen c.before r.syncSessionId 1).getTaskByTaskId
      (prepareTaskId uuid r.syncSessionId) = some t → t.status.terminal = false →
        c.before.awaited uuid r.syncSessionId
  | .complete nodeId taskId result => ∀ t, requireNodeTask c.seen nodeId taskId = .ok t →
      t.status ≠ .succeeded → reportsPrepared result ∧ Commit.Waited uuid c taskId
  | .fail nodeId taskId _ => ∀ t, requireNodeTask c.seen nodeId taskId = .ok t →
      t.status ≠ .failed → Commit.Waited uuid c taskId
  | _ => True

/-! ### Steps -/

section

variable {leaseSeconds : ℕ} {world : SyncWorld uuid} {c : Commit SyncDb SyncTx}
  {schedule : List (Scheduled SyncTx)}

variable (leaseSeconds world c) in
/-- The session was reported prepared by the commit, or its task was seen to have succeeded. -/
def Shown (id : Uuid) : Prop :=
  Prepares leaseSeconds world c id ∨ ∃ view, (view = c.before ∨ ∃ i, view = c.seen i) ∧
    ∃ t ∈ view.tasks, t.taskId = prepareTaskId uuid id ∧ t.status = .succeeded

/-- An operation that fails leaves the state alone. -/
lemma settled_move {shown : Uuid → Prop} {db : SyncDb} {r : Except RuntimeFailure SyncDb}
    (hdb : db.Sound uuid) (h : ∀ db', r = .ok db' → Move uuid shown db db') :
    Move uuid shown db (settled db r).1 := by
  cases r with
  | ok db' => exact h db' rfl
  | error e => exact .rewrites _ _ (rewrites_same hdb rfl (fun _ h => h) rfl rfl rfl)

lemma shown_of_locked {r : SyncActionRequest} (id : Uuid) (i : ℕ) :
    ∀ t ∈ (lockedRead c.seen c.before r.syncSessionId i).tasks, t.taskId = prepareTaskId uuid id →
      t.status = .succeeded → Shown leaseSeconds world c id := by
  intro t ht hnames hsucceeded
  refine .inr ⟨_, ?_, t, ht, hnames, hsucceeded⟩
  unfold lockedRead
  split_ifs
  · exact .inr ⟨i, rfl⟩
  · exact .inl rfl

theorem commit_move (hsees : Transactions.Sees (SyncDb.Sound uuid) (SyncDb.Follows uuid) c)
    (hok : Evidenced uuid c) : Move uuid (Shown leaseSeconds world c) c.before
      ((syncing leaseSeconds world).after c) := by
  have hdb := hsees.before
  have hsame : ∀ db', db'.workspaces = c.before.workspaces →
      (∀ id, (c.before.getNode id).isSome → (db'.getNode id).isSome) →
      db'.nextId = c.before.nextId → db'.syncSessions = c.before.syncSessions →
      db'.tasks = c.before.tasks → Move uuid (Shown leaseSeconds world c) c.before db' :=
    fun db' hw hn hid hs ht => .rewrites _ _ (rewrites_same hdb hw hn hid hs ht)
  unfold Transactions.after
  unfold Evidenced at hok
  obtain ⟨tx, seen, db⟩ := c
  cases tx with
  | create userId r =>
    refine settled_move hdb fun db' h => ?_
    rcases createSyncSession_creates hdb hsees.seen hsees.current h hok with rfl | ⟨s, w, t, h⟩
    · exact hsame _ rfl (fun _ h => h) rfl rfl rfl
    · exact .creates s w t h
  | pause r =>
    refine settled_move hdb fun db' h => ?_
    obtain ⟨f, h⟩ := pauseSyncSession_rewrites hdb h
    exact .rewrites _ _ h
  | resume r =>
    refine settled_move hdb fun db' h => ?_
    obtain ⟨f, g, h⟩ :=
      restartSyncSession_rewrites hdb hsees.seen hsees.current h shown_of_locked hok
    exact .rewrites _ _ h
  | reset r =>
    refine settled_move hdb fun db' h => ?_
    obtain ⟨f, g, h⟩ :=
      restartSyncSession_rewrites hdb hsees.seen hsees.current h shown_of_locked hok
    exact .rewrites _ _ h
  | resolve r =>
    refine settled_move hdb fun db' h => ?_
    obtain ⟨f, h⟩ := resolveSyncSession_rewrites hdb h
    exact .rewrites _ _ h
  | delete userId id =>
    refine settled_move hdb fun db' h => ?_
    unfold deleteSyncSession at h
    obtain ⟨s, -, h⟩ := bind_eq_ok.mp h
    rw [reject_bind_eq_ok] at h
    exact .deletes id (Except.ok.inj h.2).symm
  | poll nodeId limit held =>
    obtain ⟨g, h⟩ := pollTasks_rewrites hdb leaseSeconds nodeId limit held
    exact .rewrites _ _ h
  | start nodeId taskId =>
    refine settled_move hdb fun db' h => ?_
    obtain ⟨g, h⟩ := startTask_rewrites hdb h
    exact .rewrites _ _ h
  | complete nodeId taskId result =>
    refine settled_move hdb fun db' h => ?_
    have hoffered : reportsPrepared result → ∀ id, taskId = prepareTaskId uuid id →
        Shown leaseSeconds world ⟨.complete nodeId taskId result, seen, db⟩ id := by
      intro hp id hid
      refine .inl ⟨?_, ?_⟩
      · unfold SyncTx.preparedTask
        dsimp only
        rw [if_pos hp, hid]
      · have hanswer : (settled db (completeTask uuid seen db nodeId taskId result)).2 = .ok () := by
          rw [h]
          rfl
        exact hanswer
    obtain ⟨f, g, h⟩ := completeTask_rewrites hdb hsees.seen hsees.current h hoffered hok
    exact .rewrites _ _ h
  | fail nodeId taskId error =>
    refine settled_move hdb fun db' h => ?_
    obtain ⟨f, g, h⟩ := failTask_rewrites hdb hsees.seen hsees.current h hok
    exact .rewrites _ _ h
  | reportNode node =>
    refine hsame _ rfl (fun id h => ?_) rfl rfl rfl
    have hreplaced : (lookup Node.id (replace Node.id db.nodes node) id).isSome := by
      rw [lookup_replace]
      split_ifs
      · rw [Option.isSome_map]
        exact h
      · exact h
    exact hreplaced
  | replaceKeys sshKeys => exact hsame _ rfl (fun _ h => h) rfl rfl rfl
  | tick elapsed => exact hsame _ rfl (fun _ h => h) rfl rfl rfl

lemma emptySyncDb_sound (world : SyncWorld uuid) : (emptySyncDb world).Sound uuid := by
  constructor
  · exact world.workspaceIds
  · exact List.nodup_nil
  · exact List.nodup_nil
  · exact List.forall_mem_nil _
  · exact List.forall_mem_nil _
  · exact world.paths
  · exact List.forall_mem_nil _
  · exact List.forall_mem_nil _
  · exact List.forall_mem_nil _
  · exact List.forall_mem_nil _
  · exact List.forall_mem_nil _

lemma syncing_ran (h : ∀ c ∈ (syncing leaseSeconds world).commits schedule, Evidenced uuid c) :
    (syncing leaseSeconds world).Ran (SyncDb.Sound uuid) (SyncDb.Follows uuid) schedule :=
  Transactions.ran_of_step SyncDb.Follows.refl SyncDb.Follows.trans (emptySyncDb_sound world)
    (fun c hsees hok =>
      have hmove : Move uuid (Shown leaseSeconds world c) _ _ := commit_move hsees hok
      hmove.sound_follows hsees.before) h

/-! ### Evidence -/

variable (leaseSeconds world schedule) in
/-- Every active session and every task that succeeded was reported prepared. -/
structure Proven : Prop where
  active : ∀ s ∈ ((syncing leaseSeconds world).state schedule).syncSessions, s.status = .active →
    ∃ c ∈ (syncing leaseSeconds world).commits schedule, Prepares leaseSeconds world c s.id
  succeeded : ∀ t ∈ ((syncing leaseSeconds world).state schedule).tasks, t.status = .succeeded →
    ∀ id, t.taskId = prepareTaskId uuid id →
      ∃ c ∈ (syncing leaseSeconds world).commits schedule, Prepares leaseSeconds world c id

/-- What a commit shows was reported by then. -/
lemma proven_shown {s : Scheduled SyncTx} {earlier : List (Scheduled SyncTx)} {id : Uuid}
    (h : ∀ past, past <:+ earlier → Proven leaseSeconds world past)
    (hshown : Shown leaseSeconds world ((syncing leaseSeconds world).next earlier s) id) :
    ∃ c ∈ (syncing leaseSeconds world).commits (s :: earlier), Prepares leaseSeconds world c id := by
  rw [Transactions.commits_cons]
  rcases hshown with hprepares | ⟨view, hview, t, ht, hnames, hsucceeded⟩
  · exact ⟨_, List.mem_cons_self, hprepares⟩
  · have hpast : ∃ past, past <:+ earlier ∧ view = (syncing leaseSeconds world).state past := by
      rcases hview with rfl | ⟨i, rfl⟩
      · exact ⟨earlier, List.suffix_refl _, rfl⟩
      · exact ⟨_, List.drop_suffix (s.age i) earlier, rfl⟩
    obtain ⟨past, hsuffix, rfl⟩ := hpast
    obtain ⟨c, hc, hprepares⟩ := (h past hsuffix).succeeded t ht hsucceeded id hnames
    exact ⟨c, List.mem_cons_of_mem _ ((Transactions.commits_suffix _ hsuffix).subset hc), hprepares⟩

/-- A commit of a run activates no session without evidence. -/
lemma proven_next {s : Scheduled SyncTx} {earlier : List (Scheduled SyncTx)}
    (h : ∀ past, past <:+ earlier → Proven leaseSeconds world past)
    (hmove : Move uuid (Shown leaseSeconds world ((syncing leaseSeconds world).next earlier s))
      ((syncing leaseSeconds world).state earlier)
      ((syncing leaseSeconds world).state (s :: earlier))) :
    Proven leaseSeconds world (s :: earlier) := by
  have hnow := h earlier (List.suffix_refl _)
  have hkept : ∀ {id}, (∃ c ∈ (syncing leaseSeconds world).commits earlier,
      Prepares leaseSeconds world c id) → ∃ c ∈ (syncing leaseSeconds world).commits (s :: earlier),
        Prepares leaseSeconds world c id := by
    rintro id ⟨c, hc, hprepares⟩
    rw [Transactions.commits_cons]
    exact ⟨c, List.mem_cons_of_mem _ hc, hprepares⟩
  cases hmove with
  | rewrites f g hrewrites =>
    constructor
    · rw [hrewrites.sessions]
      intro s' hs' hactive
      obtain ⟨r, hr, rfl⟩ := List.mem_map.mp hs'
      rw [(hrewrites.session r hr).id]
      rcases hrewrites.active r hr hactive with hbefore | hshown
      · exact hkept (hnow.active r hr hbefore)
      · exact proven_shown h hshown
    · rw [hrewrites.tasks]
      intro t' ht' hsucceeded id hid
      obtain ⟨t, ht, rfl⟩ := List.mem_map.mp ht'
      rw [(hrewrites.task t ht).taskId] at hid
      rcases hrewrites.succeeded t ht hsucceeded with hbefore | ⟨id', hid', hshown⟩
      · exact hkept (hnow.succeeded t ht hbefore id hid)
      · obtain rfl := prepareTaskId_inj (hid.symm.trans hid')
        exact proven_shown h hshown
  | creates r w t hcreates =>
    constructor
    · rw [hcreates.sessions]
      intro s' hs' hactive
      rcases List.mem_append.mp hs' with hold | hnew
      · exact hkept (hnow.active s' hold hactive)
      · rw [List.mem_singleton.mp hnew, hcreates.status] at hactive
        cases hactive
    · rw [hcreates.tasks]
      intro t' ht' hsucceeded
      rcases List.mem_append.mp ht' with hold | hnew
      · exact fun id hid => hkept (hnow.succeeded t' hold hsucceeded id hid)
      · rw [List.mem_singleton.mp hnew, hcreates.taskStatus] at hsucceeded
        cases hsucceeded
  | deletes id hdeletes =>
    constructor
    · rw [hdeletes]
      intro s' hs' hactive
      exact hkept (hnow.active s' (List.mem_of_mem_filter hs') hactive)
    · rw [hdeletes]
      exact fun t ht hsucceeded id hid => hkept (hnow.succeeded t ht hsucceeded id hid)

lemma proven_run (h : ∀ c ∈ (syncing leaseSeconds world).commits schedule, Evidenced uuid c) :
    ∀ past, past <:+ schedule → Proven leaseSeconds world past := by
  induction schedule with
  | nil =>
    intro past hpast
    rw [List.suffix_nil.mp hpast]
    exact ⟨List.forall_mem_nil _, List.forall_mem_nil _⟩
  | cons s earlier ih =>
    have hran := (syncing_ran h).suffix (List.suffix_cons s earlier)
    rw [Transactions.commits_cons] at h
    have hearlier := ih fun c hc => h c (List.mem_cons_of_mem _ hc)
    intro past hpast
    rcases List.suffix_cons_iff.mp hpast with rfl | hpast
    · apply proven_next hearlier
      rw [Transactions.state_cons]
      exact commit_move (hran.sees s) (h _ List.mem_cons_self)
    · exact hearlier past hpast

/-! ### Reports -/

/-- What a report publishes leaves a paused session alone. -/
lemma mem_published {view db : SyncDb} {task : NodeTask} {status : SyncStatus} {s : SyncSession}
    (hs : s ∈ db.syncSessions) (hpaused : s.status = .paused) :
    s ∈ db.syncSessions.map (published uuid view task status) := by
  refine List.mem_map.mpr ⟨s, hs, ?_⟩
  rcases published_cases uuid view task status s with h | ⟨hstarting, -, -⟩
  · exact h
  · rw [hpaused] at hstarting
    cases hstarting

lemma report_paused (hreport : c.tx.reports) {s : SyncSession} (hs : s ∈ c.before.syncSessions)
    (hpaused : s.status = .paused) : s ∈ ((syncing leaseSeconds world).after c).syncSessions := by
  obtain ⟨tx, seen, db⟩ := c
  unfold Transactions.after
  cases tx with
  | complete nodeId taskId result =>
    have hafter :
        s ∈ (settled db (completeTask uuid seen db nodeId taskId result)).1.syncSessions := by
      cases h : completeTask uuid seen db nodeId taskId result with
      | error e => exact hs
      | ok db' =>
        unfold completeTask at h
        obtain ⟨copy, -, h⟩ := bind_eq_ok.mp h
        obtain rfl := Except.ok.inj h
        rw [publishSyncPreparation_eq]
        unfold settled
        dsimp only
        split_ifs
        · exact mem_published hs hpaused
        · exact hs
    exact hafter
  | fail nodeId taskId error =>
    have hafter : s ∈ (settled db (failTask uuid seen db nodeId taskId error)).1.syncSessions := by
      cases h : failTask uuid seen db nodeId taskId error with
      | error e => exact hs
      | ok db' =>
        unfold failTask at h
        obtain ⟨copy, -, h⟩ := bind_eq_ok.mp h
        obtain rfl := Except.ok.inj h
        rw [publishSyncPreparation_eq]
        exact mem_published hs hpaused
    exact hafter
  | create | pause | resume | reset | resolve | delete | poll | start | reportNode | replaceKeys
  | tick => cases hreport

end

/-! ### Results -/

/-- In a run whose operations find at their commits what they have read, and in which every
preparation that completes says so, sync sessions are activated on evidence in every state. -/
theorem syncSessions_activate (leaseSeconds : ℕ) (world : SyncWorld uuid)
    (schedule : List (Scheduled SyncTx))
    (h : ∀ c ∈ (syncing leaseSeconds world).commits schedule, Evidenced uuid c) :
    ∀ earlier, earlier <:+ schedule → SyncActivation leaseSeconds world earlier := by
  intro earlier hearlier
  have hsound := ((syncing_ran h).suffix hearlier).sound 0
  rw [List.drop_zero] at hsound
  exact {
    oneCurrent := fun s hs s' hs' _ _ => hsound.alone s hs s' hs'
    prepared := (proven_run h earlier hearlier).active
    paused := fun c _ hreport s hs => report_paused hreport hs
    deliverable := fun s hs hstarting => by
      obtain ⟨w, -, t, ht, hbacking, -⟩ := hsound.backed s hs
      have hnames := (prepareTarget_eq_some hbacking.target).2
      exact ⟨t, ht, hnames, hsound.deliverable s hs hstarting t ht hnames⟩ }

/-- Identifiers as texts of as many digits. -/
def unaryUuid : UuidText := ⟨fun id => List.replicate id '0', fun s => some s.length, UuidText.unary⟩

def sampleWorld : SyncWorld unaryUuid where
  workspaces := [⟨1, 2, 3, "/home/dev/app".toList, none, []⟩]
  nodes := [⟨4, .healthy, some "node".toList, none, none, none, 1⟩]
  sshKeys := [⟨5, 3, "ssh-ed25519 key".toList, .active⟩]
  clock := 0
  workspaceIds := by decide
  nodeIds := by decide
  paths := by decide

def sampleCreation : SyncTx := .create 2 ⟨1, none, none, "two_way".toList, true, []⟩

def sampleReport (status : String) : SyncTx :=
  .complete 4 (prepareTaskId unaryUuid 1) [("status".toList, .string status.toList)]

/-- A node completes a preparation with another result. The user resumes the session, which
activates it, for its task has succeeded. -/
def unpreparedRun : List (Scheduled SyncTx) :=
  [.fresh (.resume ⟨2, 1, none⟩), .fresh (sampleReport "skipped"), .fresh (.poll 4 1 []),
    .fresh sampleCreation]

/-- A session is activated although no node has reported its workspace prepared. -/
theorem resume_activates_unprepared : ¬∀ uuid leaseSeconds (world : SyncWorld uuid) schedule,
    SyncActivation leaseSeconds world schedule := by
  intro h
  have hactive : ∃ s ∈ ((syncing 60 sampleWorld).state unpreparedRun).syncSessions,
      s.status = .active := by decide +kernel
  obtain ⟨s, hs, hstatus⟩ := hactive
  obtain ⟨c, hc, hprepares, -⟩ := (h _ 60 sampleWorld unpreparedRun).prepared s hs hstatus
  have hnone : ∀ tx ∈ ((syncing 60 sampleWorld).commits unpreparedRun).map Commit.tx,
      tx.preparedTask = none := by decide +kernel
  rw [hnone _ (List.mem_map_of_mem hc)] at hprepares
  cases hprepares

/-- Two creations that overlap give the workspace two sessions. -/
example : ((syncing 60 sampleWorld).state
    [.stale sampleCreation 5 1, .fresh sampleCreation]).syncSessions.map
      (fun s => (s.workspaceId, s.status)) = [(1, .starting), (1, .starting)] := by decide +kernel

/-- A session whose workspace a node has prepared. -/
theorem syncSessions_activate_prepared : SyncActivation 60 sampleWorld
    [.fresh (sampleReport "prepared"), .fresh (.poll 4 1 []), .fresh sampleCreation] := by
  refine syncSessions_activate 60 sampleWorld _ ?_ _ (List.suffix_refl _)
  intro c hc
  rw [Transactions.commits_cons, Transactions.commits_cons, Transactions.commits_cons,
    Transactions.commits_nil, List.mem_cons, List.mem_cons, List.mem_singleton] at hc
  rcases hc with rfl | rfl | rfl
  · exact fun _ _ _ => ⟨by decide, fun _ _ hstarting => hstarting⟩
  · exact trivial
  · exact fun hnone => hnone

end AgentRemote.SyncSessions
