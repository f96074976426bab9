import AgentRemote.AccountRuntime.Placement

/-!
# What each operation does to a migration

Most operations leave the migration of the profile and the tasks of recoveries as they are. The
others start a migration, ask for a recovery or take a result.
-/

namespace AgentRemote.AccountRuntime
open Library PortForwards Runtimes AccountDb

variable {settings : AccountSettings} {seen : ℕ → AccountDb} {a b c db db' : AccountDb}

/-! ### Recoveries -/

/-- The tasks of recoveries. -/
def TaskName.ofRecovery : TaskName → Bool
  | recoverToolAccountRuntime _ => true
  | _ => false

lemma runtime_of_ofRecovery {name : TaskName} (h : name.ofRecovery) : name.ofRuntime = true := by
  cases name with
  | recoverToolAccountRuntime _ => rfl
  | _ => cases h

lemma recovery_of_name {w : Work} (h : w.taskId.ofRecovery) :
    ∃ requestId binding, w = .recoverToolAccountRuntime requestId binding := by
  cases w with
  | recoverToolAccountRuntime requestId binding => exact ⟨requestId, binding, rfl⟩
  | stopToolSession id preserve =>
    cases preserve
    · cases h
    · cases h
  | _ => cases h

lemma name_of_recovery {w : Work} {binding : RuntimeRecoveryBinding} (h : binding ∈ w.recovery?) :
    w.taskId.ofRecovery = true := by
  cases w with
  | recoverToolAccountRuntime requestId binding => rfl
  | _ => cases h

/-- The recorded results of migrations and of their recoveries. -/
def AccountDb.runtimeResults (db : AccountDb) : List NodeTaskResult :=
  db.receipts.filter (·.taskId.ofRuntime)

lemma mem_runtimeResults {r : NodeTaskResult} :
    r ∈ db.runtimeResults ↔ r ∈ db.receipts ∧ r.taskId.ofRuntime = true := by
  unfold runtimeResults
  rw [List.mem_filter]

/-- What leaves migrations and recoveries as they are, but for clocks and leases. -/
structure Quiet (a b : AccountDb) : Prop where
  migration : b.profile.runtimeMigration = a.profile.runtimeMigration
  results : b.runtimeResults = a.runtimeResults
  works : ∀ w ∈ b.works, w.taskId.ofRuntime → w ∈ a.works
  opened : ∀ t ∈ b.tasks, t.taskId.ofRecovery → t.status.terminal = false →
    ∃ t' ∈ a.tasks, t'.work = t.work ∧ t'.status.terminal = false

lemma Quiet.trans (hab : Quiet a b) (hbc : Quiet b c) : Quiet a c where
  migration := hbc.migration.trans hab.migration
  results := hbc.results.trans hab.results
  works w hw hof := hab.works w (hbc.works w hw hof) hof
  opened t ht hof hopen := by
    obtain ⟨t', ht', hwork', hopen'⟩ := hbc.opened t ht hof hopen
    have hof' : t'.taskId.ofRecovery = true := by
      unfold NodeTask.taskId
      rwa [hwork']
    obtain ⟨t'', ht'', hwork'', hopen''⟩ := hab.opened t' ht' hof' hopen'
    exact ⟨t'', ht'', hwork''.trans hwork', hopen''⟩

lemma Quiet.of_same (hprofile : b.profile.runtimeMigration = a.profile.runtimeMigration)
    (htasks : b.tasks = a.tasks) (hreceipts : b.receipts = a.receipts) : Quiet a b where
  migration := hprofile
  results := by
    unfold runtimeResults
    rw [hreceipts]
  works w hw _ := by
    unfold AccountDb.works at hw ⊢
    rwa [htasks] at hw
  opened t ht _ hopen := ⟨t, htasks ▸ ht, rfl, hopen⟩

/-- Tasks that are rewritten in place. A recovery that is over stays so. -/
lemma Quiet.of_map {g : NodeTask → NodeTask}
    (hprofile : b.profile.runtimeMigration = a.profile.runtimeMigration)
    (htasks : b.tasks = a.tasks.map g) (hwork : ∀ t ∈ a.tasks, (g t).work = t.work)
    (hresults : b.runtimeResults = a.runtimeResults)
    (hopen : ∀ t ∈ a.tasks, t.taskId.ofRecovery → t.status.terminal → (g t).status.terminal) :
    Quiet a b where
  migration := hprofile
  results := hresults
  works w hw _ := by
    unfold AccountDb.works at hw ⊢
    have hsame : (a.tasks.map g).map NodeTask.work = a.tasks.map NodeTask.work := by
      rw [List.map_map]
      exact List.map_congr_left hwork
    rwa [htasks, hsame] at hw
  opened t ht hof hterminal := by
    rw [htasks] at ht
    obtain ⟨t', ht', rfl⟩ := List.mem_map.mp ht
    refine ⟨t', ht', (hwork t' ht').symm, ?_⟩
    have hof' : t'.taskId.ofRecovery = true := by
      unfold NodeTask.taskId at hof ⊢
      rwa [hwork t' ht'] at hof
    by_contra hne
    rw [Bool.not_eq_false] at hne
    rw [hopen t' ht' hof' hne] at hterminal
    cases hterminal

lemma Quiet.of_addTask {nodeId : Uuid} {w : Work} (hw : w.taskId.ofRuntime = false)
    (hprofile : b.profile.runtimeMigration = a.profile.runtimeMigration)
    (htasks : b.tasks = a.tasks ++ [newTask a nodeId w]) (hreceipts : b.receipts = a.receipts) :
    Quiet a b where
  migration := hprofile
  results := by
    unfold runtimeResults
    rw [hreceipts]
  works w' hw' hof := by
    unfold AccountDb.works at hw' ⊢
    rw [htasks, List.map_append] at hw'
    rcases List.mem_append.mp hw' with hold | hnew
    · exact hold
    · obtain rfl : w' = w := List.mem_singleton.mp hnew
      rw [hof] at hw
      cases hw
  opened t ht hof hopen := by
    rw [htasks] at ht
    rcases List.mem_append.mp ht with hold | hnew
    · exact ⟨t, hold, rfl, hopen⟩
    · obtain rfl := List.mem_singleton.mp hnew
      exact absurd ((runtime_of_ofRecovery hof).symm.trans hw) nofun

/-! ### Sessions and bindings -/

lemma addStopTask_quiet (db : AccountDb) (s : Session) (preserve : Bool) :
    Quiet db (addStopTask db s preserve) := by
  unfold addStopTask
  dsimp only
  split_ifs
  · exact .of_same rfl rfl rfl
  · refine .of_addTask (w := .stopToolSession s.id preserve) ?_ rfl rfl rfl
    cases preserve <;> rfl

lemma foldl_quiet {α : Type} (step : AccountDb → α → AccountDb) (xs : List α)
    (hstep : ∀ db x, Quiet db (step db x)) (db : AccountDb) : Quiet db (xs.foldl step db) := by
  induction xs generalizing db with
  | nil => exact .of_same rfl rfl rfl
  | cons x xs ih => exact (hstep db x).trans (ih (step db x))

lemma stopSession_quiet {userId sessionId : Uuid}
    (h : stopSession db userId sessionId = .ok db') : Quiet db db' := by
  unfold stopSession at h
  split at h
  · cases h
  · split_ifs at h
    · obtain rfl := Except.ok.inj h
      exact .of_same rfl rfl rfl
    · obtain rfl := Except.ok.inj h
      exact (addStopTask_quiet db _ false).trans (.of_same rfl rfl rfl)

lemma reconcile_quiet (nodeId : Uuid) (reports : List RuntimeReport) :
    Quiet db (reconcile seen db nodeId reports) := by
  unfold reconcile
  dsimp only
  have hcleaned := fun (exited : List Session) =>
    foldl_quiet (fun db s => addStopTask db s true) exited
      (fun db s => addStopTask_quiet db s true) db
  have hinterrupted := fun (interrupted : List Session) => foldl_quiet
    (fun db (s : Session) => setSessionStatus db s.id .interrupted) interrupted
    (fun db s => .of_same rfl rfl rfl)
  exact ((hcleaned _).trans (hinterrupted _ _)).trans (.of_same rfl rfl rfl)

lemma finishTask_quiet {task : NodeTask} (htask : task.taskId.ofRuntime = false) (r : Report) :
    Quiet db (finishTask db task r) := by
  refine .of_map (g := finished task.taskId r.outcome) rfl rfl (fun t _ => ?_) ?_
    (fun t _ hof hterminal => ?_)
  · unfold finished
    split_ifs <;> rfl
  · unfold runtimeResults finishTask
    dsimp only
    rw [List.filter_append, List.filter_singleton, htask]
    exact List.append_nil _
  · unfold finished
    split_ifs with hname
    · rw [hname] at hof
      exact absurd ((runtime_of_ofRecovery hof).symm.trans htask) nofun
    · exact hterminal

lemma reportSession_quiet {task : NodeTask} {sessionId : Uuid} {r : Report}
    (hruntime : task.taskId.ofRuntime = false)
    (h : reportSession db task sessionId r = .ok db') : Quiet db db' := by
  rcases reportSession_cases h with rfl | ⟨locked, hlocked, -, rfl⟩
  · exact .of_same rfl rfl rfl
  · have hname : locked.taskId.ofRuntime = false := by
      rwa [(getTask_eq_some hlocked).2]
    exact (finishTask_quiet hname r).trans (.of_same rfl rfl rfl)

lemma settleTask_quiet (db : AccountDb) {copy : NodeTask} (hbinding : copy.taskId.ofBinding) (view : AccountDb)
    (r : Report) : Quiet db (settleTask db view copy r) := by
  have hruntime : copy.taskId.ofRuntime = false := by
    by_contra hne
    rw [Bool.not_eq_false] at hne
    rw [guarded_of_runtime hne] at hbinding
    cases hbinding
  have hstatus : Quiet db (setTaskStatus db copy r.outcome.status) := by
    refine .of_map (g := statusWritten copy r.outcome.status) rfl rfl
      (fun t _ => statusWritten_work _ _ t) rfl (fun t _ hof hterminal => ?_)
    rcases statusWritten_cases copy r.outcome.status t with hsame | ⟨hname, -⟩
    · rwa [hsame]
    · rw [hname] at hof
      exact absurd ((runtime_of_ofRecovery hof).symm.trans hruntime) nofun
  refine hstatus.trans ?_
  unfold settleTask
  dsimp only
  by_cases hseen : (view.receipt copy.taskId).isSome
  · rw [if_pos hseen]
    exact .of_same rfl rfl rfl
  · rw [if_neg hseen]
    refine ⟨rfl, ?_, fun w hw _ => hw, fun t ht _ hopen => ⟨t, ht, rfl, hopen⟩⟩
    unfold runtimeResults
    dsimp only
    rw [List.filter_append, List.filter_singleton, hruntime]
    exact List.append_nil _

/-! ### The queue -/

lemma pollTasks_quiet (nodeId : Uuid) (limit : ℕ) (held : List Uuid) :
    Quiet db (pollTasks settings seen db nodeId limit held) := by
  refine .of_map rfl rfl (fun t _ => ?_) rfl (fun t ht _ hterminal => ?_)
  · split_ifs <;> rfl
  · split_ifs with hpolled
    · have hpollable := (List.mem_filter.mp (List.mem_of_mem_take hpolled)).2
      obtain ⟨-, hnow, -⟩ := of_decide_eq_true hpollable
      rcases (of_decide_eq_true hnow).2 with hs | ⟨hs | hs, -⟩
      all_goals
        rw [hs] at hterminal
        cases hterminal
    · exact hterminal

/-- Names tell tasks apart. -/
lemma AccountDb.Books.task_unique (h : db.Books) {t t' : NodeTask} (ht : t ∈ db.tasks)
    (ht' : t' ∈ db.tasks) (hname : t.taskId = t'.taskId) : t = t' := by
  have hnames : (db.tasks.map NodeTask.taskId).Nodup := by
    have hworks := h.names
    unfold AccountDb.works at hworks
    rwa [List.map_map] at hworks
  exact eq_of_key_eq hnames ht ht' hname

lemma requireLease_open {task : NodeTask} {now : Instant} (h : requireLease task now = .ok ()) :
    (task.status = .leased ∨ task.status = .running) ∧ task.leaseUntil.any (now < ·) = true := by
  unfold requireLease at h
  rw [reject_eq_ok] at h
  push Not at h
  exact ⟨by
    by_cases hleased : task.status = .leased
    · exact .inl hleased
    · exact .inr (h.1 hleased), h.2.2⟩

lemma open_of_leased {task : NodeTask} (h : task.status = .leased ∨ task.status = .running) :
    task.status.terminal = false := by
  rcases h with h | h
  · rw [h]
    rfl
  · rw [h]
    rfl

lemma startTask_quiet (hdb : db.Books) {around : Surroundings} {nodeId : Uuid} {taskId : TaskName}
    (h : startTask seen db around nodeId taskId = .ok db') : Quiet db db' := by
  have hstart : ∀ copy : NodeTask, (copy.taskId.ofRecovery →
      ∀ t ∈ db.tasks, t.taskId = copy.taskId → t.status.terminal = false) →
      Quiet db (setTaskStatus db copy .running) := fun copy hopen => by
    refine .of_map (g := statusWritten copy .running) rfl rfl
      (fun t _ => statusWritten_work _ _ t) rfl (fun t ht hof hterminal => ?_)
    rcases statusWritten_cases copy .running t with hsame | ⟨hname, -⟩
    · rwa [hsame]
    · rw [hopen (hname ▸ hof) t ht hname] at hterminal
      cases hterminal
  unfold startTask at h
  obtain ⟨task, -, h⟩ := bind_eq_ok.mp h
  rw [reject_bind_eq_ok] at h
  replace h := h.2
  split at h
  · obtain ⟨⟨copy, binding⟩, hauthorized, h⟩ := bind_eq_ok.mp h
    obtain rfl := Except.ok.inj h
    obtain ⟨hlookup, -, hlease, -⟩ := authorizeRecovery_eq_ok hauthorized
    refine .trans (hstart copy fun _ t ht hname => ?_) (.of_same rfl rfl rfl)
    rw [hdb.task_unique ht (getTask_eq_some hlookup).1 hname]
    exact open_of_leased (requireLease_open hlease).1
  · next hother =>
    obtain rfl := Except.ok.inj h
    refine hstart task fun hof => ?_
    obtain ⟨requestId, binding, hwork⟩ := recovery_of_name hof
    exact absurd hwork (hother requestId binding)

lemma renewRecovery_quiet {around : Surroundings} {nodeId : Uuid} {taskId : TaskName}
    {expected : RuntimeRecoveryBinding × ℕ} {leaseSeconds : ℕ}
    (h : renewRecovery seen db around nodeId taskId expected leaseSeconds = .ok db') :
    Quiet db db' := by
  unfold renewRecovery at h
  obtain ⟨⟨task, binding⟩, -, h⟩ := bind_eq_ok.mp h
  dsimp only at h
  rw [reject_bind_eq_ok] at h
  obtain ⟨-, -, hrest⟩ := bind_eq_ok.mp h.2
  obtain rfl := Except.ok.inj hrest
  refine .of_map rfl rfl (fun t _ => ?_) rfl (fun t _ _ hterminal => ?_)
  · split_ifs <;> rfl
  · split_ifs <;> exact hterminal

/-! ### Careful commits -/

/-- What the owner of an account does to its status. -/
def AccountTx.byUser : AccountTx → Bool
  | startBinding _ | verifyBinding .. | disableAccount .. | updateAccount _ => true
  | _ => false

/-- Reports of bindings and of their verifications. -/
def AccountTx.byBinding : AccountTx → Bool
  | report r => r.taskId.ofBinding
  | _ => false

/-- The task of a binding whose result a report brings, when it is applied. -/
def appliedBinding (seen : ℕ → AccountDb) (db : AccountDb) (r : Report) : Option NodeTask :=
  (requireNodeTask seen r.nodeId r.taskId).toOption.filter fun task =>
    task.taskId.ofBinding ∧ db.account.status ≠ .disabled ∧
      awaited (accountLocked seen db 2).profile task.work = some task.taskId

/-- The task of a migration or a recovery whose first result a report brings. -/
def firstResult (seen : ℕ → AccountDb) (db : AccountDb) (r : Report) : Option NodeTask :=
  (requireNodeTask seen r.nodeId r.taskId).toOption.filter fun task =>
    task.taskId.ofRuntime ∧ (db.receipt task.taskId).isNone

/-- A migration that starts finds the backend and the status of the account as it has read them,
and so does its result the status, which is that of a migration or disabled when it failed. What
writes the profile of a binding finds its migration as it has read it. A result of a binding that
is applied during a migration changes neither the backend nor the status of one. -/
def Careful (settings : AccountSettings) (c : Commit AccountDb AccountTx) : Prop :=
  match c.tx with
  | .migrateRuntime r => ∀ after, migrateRuntime c.seen c.before r = .ok after →
    (userLocked c.seen c.before 1).account.runtimeBackend = c.before.account.runtimeBackend ∧
      (userLocked c.seen c.before 1).account.status = c.before.account.status
  | .verifyBinding userId accountId =>
    ∀ after, verifyBinding c.seen c.before userId accountId = .ok after →
      (accountLocked c.seen c.before 0).profile.runtimeMigration =
        c.before.profile.runtimeMigration
  | .report r =>
    (∀ task ∈ appliedBinding c.seen c.before r,
      (accountLocked c.seen c.before 2).profile.runtimeMigration =
          c.before.profile.runtimeMigration ∧
        (c.before.profile.settled = false → c.before.account.status ≠ .migrating ∧
          (bindingApplied task.work r c.before.account).runtimeBackend =
            c.before.account.runtimeBackend)) ∧
    ∀ task ∈ firstResult c.seen c.before r,
      ∀ after, reportTask settings c.seen c.before r = .ok after →
        (userLocked c.seen c.before 3).account.status = c.before.account.status ∧
          (r.outcome = .failed → task.work.migration?.isSome →
            c.before.account.status = .migrating ∨ c.before.account.status = .disabled)
  | _ => True

/-! ### Effects -/

/-- The migration that a task is about. -/
def Work.about : Work → Option TaskName
  | migrateToolAccountRuntime attempt _ => some (.migrateToolAccountRuntime attempt)
  | recoverToolAccountRuntime _ binding => some binding.originalTaskId
  | _ => none

/-- A task whose success leaves the account on the source of its migration. -/
def Work.restores : Work → Bool
  | recoverToolAccountRuntime _ binding => binding.action.isSome
  | _ => false

/-- The first result of a migration or a recovery, and what it leaves. -/
structure Verdict (db : AccountDb) (task : NodeTask) (r : Report) (copy new : ToolAccount)
    (m m' : RuntimeMigration) : Prop where
  known : task.work ∈ db.works
  runtime : task.taskId.ofRuntime = true
  first : ¬db.reported task.taskId
  opened : task.taskId.ofRecovery → ∃ t ∈ db.tasks, t.work = task.work ∧ t.status.terminal = false
  profile : db.profile.runtimeMigration = some m
  about : task.work.about = some m.taskId
  unsettled : m.status.settled = false
  taskId : m'.taskId = m.taskId
  previous : m'.previousStatus = m.previousStatus
  recovery : m'.recoveryTaskId = m.recoveryTaskId
  pending : r.outcome = .failed → m'.status.settled = false
  status : copy.status = db.account.status
  statusAfter : new.status =
    if r.outcome = .succeeded ∧ copy.status = .migrating then m.previousStatus else copy.status
  backend : copy.runtimeBackend = some m.sourceRuntimeBackend
  backendAfter : new.runtimeBackend = some (if r.outcome = .succeeded ∧ task.work.restores = false
    then m.targetRuntimeBackend else m.sourceRuntimeBackend)

/-- A result of a recovery comes during a lease of its task, and is that of this lease. -/
def Accepted (settings : AccountSettings) (seen : ℕ → AccountDb) (db : AccountDb) (r : Report)
    (taskId : TaskName) : Prop :=
  ∃ t ∈ db.tasks, ∃ binding ∈ t.work.recovery?, t.taskId = taskId ∧
    (t.status = .leased ∨ t.status = .running) ∧
    (∃ i, t.leaseUntil.any ((seen i).clock < ·) = true) ∧
    sameJson r.value (expectedRecoveryValue settings.uuid binding t.retryCount r.outcome) = true

/-- What a commit does to the migration of the account. -/
inductive Effect (settings : AccountSettings) (seen : ℕ → AccountDb) (db : AccountDb)
    (t : AccountTx) : AccountDb → Prop
  | aside {after : AccountDb} (quiet : Quiet db after)
    (backend : ∀ w, db.Outstanding w → after.account.runtimeBackend = db.account.runtimeBackend)
    (status : ∀ w, db.Outstanding w → after.account.status = db.account.status ∨
      t.byUser = true ∨ t.byBinding = true ∧ db.account.status ≠ .migrating) :
    Effect settings seen db t after
  | starts {copy : ToolAccount} {profile : Profile} {node : Node} {payload : MigrationPayload}
    (none : ∀ w, ¬db.Outstanding w) (settled : db.profile.settled = true)
    (status : copy.status = db.account.status)
    (backend : db.account.runtimeBackend = some payload.sourceRuntimeBackend) :
    Effect settings seen db t (withMigration db copy profile node payload)
  | recovers {profile : Profile} {m : RuntimeMigration} {r : RecoveryRequest} {nodeId : Uuid}
    {binding : RuntimeRecoveryBinding}
    (migration : db.profile.runtimeMigration = some m)
    (original : m.taskId = binding.originalTaskId) (unsettled : m.status.settled = false)
    (fresh : TaskName.recoverToolAccountRuntime r.requestId ∉ db.works.map Work.taskId)
    (prior : ∀ previous ∈ m.recoveryTaskId, db.reported previous) :
    Effect settings seen db t (withRecovery db profile m r nodeId binding)
  | settles {task : NodeTask} {r : Report} {copy new : ToolAccount} {profile : Profile}
    {m m' : RuntimeMigration} (verdict : Verdict db task r copy new m m')
    (report : t = .report r)
    (accepted : task.taskId.ofRecovery → Accepted settings seen db r task.taskId) :
    Effect settings seen db t (writeMigration (finishTask db task r) copy new profile m')

/-! ### Careful runs -/

/-- The account stays on the source of a migration, and the profile knows the recovery that is
open. -/
structure AccountDb.Tracked (db : AccountDb) : Prop where
  backend : ∀ w, db.Outstanding w → ∀ payload ∈ w.migration?,
    db.account.runtimeBackend = some payload.sourceRuntimeBackend
  opened : ∀ t ∈ db.tasks, ∀ binding ∈ t.work.recovery?, t.status.terminal = false →
    ∃ m ∈ db.profile.runtimeMigration, m.recoveryTaskId = some t.taskId ∧
      m.taskId = binding.originalTaskId ∧ m.status.settled = false
  named : ∀ m ∈ db.profile.runtimeMigration, ∀ previous ∈ m.recoveryTaskId,
    previous.ofRecovery = true

/-- Results of migrations and recoveries are recorded once, and end their tasks. -/
structure AccountDb.Recorded (db : AccountDb) : Prop where
  once : (db.runtimeResults.map NodeTaskResult.taskId).Nodup
  closed : ∀ t ∈ db.tasks, t.taskId.ofRecovery → db.reported t.taskId → t.status.terminal = true

/-- Only those write the migration who have the lock of the usage row. -/
structure AccountDb.Tracks (a b : AccountDb) : Prop extends Follows a b where
  migration : a.userTurns = b.userTurns → b.profile.runtimeMigration = a.profile.runtimeMigration

lemma AccountDb.Tracks.refl (db : AccountDb) : db.Tracks db := ⟨.refl db, fun _ => rfl⟩

lemma AccountDb.Tracks.trans (hab : a.Tracks b) (hbc : b.Tracks c) : a.Tracks c := by
  refine ⟨hab.toFollows.trans hbc.toFollows, fun h => ?_⟩
  have hab' := hab.userTurns
  have hbc' := hbc.userTurns
  rw [hbc.migration (by omega), hab.migration (by omega)]

section

variable (hdb : db.Sound) (hseen : ∀ i, (seen i).Sound) (hcurrent : ∀ i, (seen i).Tracks db)

lemma userLocked_migration (hcurrent : ∀ i, (seen i).Tracks db) (i : ℕ) :
    (userLocked seen db i).profile.runtimeMigration = db.profile.runtimeMigration := by
  unfold userLocked
  split_ifs with h
  · exact ((hcurrent i).migration h).symm
  · rfl

lemma settled_of_migration {profile profile' : Profile}
    (h : profile.runtimeMigration = profile'.runtimeMigration) :
    profile.settled = profile'.settled := by
  unfold Profile.settled
  rw [h]

include hdb hseen hcurrent

lemma none_outstanding {i : ℕ} (hsettled : (userLocked seen db i).profile.settled = true) :
    ∀ w, ¬db.Outstanding w :=
  (userLocked_view hdb hseen (fun i => (hcurrent i).toFollows) i).none_outstanding hsettled

lemma createSession_effect {r : CreateSession} (h : createSession settings seen db r = .ok db') :
    Effect settings seen db (.createSession r) db' := by
  obtain ⟨node, managed, hsettled, -, rfl⟩ := createSession_eq_ok h
  have hnone := none_outstanding hdb hseen hcurrent hsettled
  refine .aside ?_ (fun w hw => absurd hw (hnone w)) (fun w hw => absurd hw (hnone w))
  exact Quiet.trans (b := { db with nextId := db.nextId + 1 }) (.of_same rfl rfl rfl)
    (.of_addTask (w := .createToolSession db.nextId) rfl rfl rfl rfl)

lemma startBinding_effect {r : StartBinding} (h : startBinding settings seen db r = .ok db') :
    Effect settings seen db (.startBinding r) db' := by
  obtain ⟨node, hsettled, rfl⟩ := startBinding_eq_ok h
  have hnone := none_outstanding hdb hseen hcurrent hsettled
  refine .aside ?_ (fun w hw => absurd hw (hnone w)) (fun w hw => absurd hw (hnone w))
  exact .of_addTask (w := .createBindingSession db.nextId) rfl
    (userLocked_migration hcurrent 1) rfl rfl

lemma migrateRuntime_effect {r : MigrateRuntime}
    (hcareful : (userLocked seen db 1).account.runtimeBackend = db.account.runtimeBackend ∧
      (userLocked seen db 1).account.status = db.account.status)
    (h : migrateRuntime seen db r = .ok db') :
    Effect settings seen db (.migrateRuntime r) db' := by
  obtain ⟨source, node, hsettled, hsource, -, -, rfl⟩ := migrateRuntime_eq_ok h
  exact .starts (none_outstanding hdb hseen hcurrent hsettled)
    (settled_of_migration (userLocked_migration hcurrent 2) ▸ hsettled) hcareful.2
    (hcareful.1.symm.trans hsource)

lemma submitRecovery_effect (htracked : db.Tracked)
    {accountId : Uuid} {r : RecoveryRequest}
    {expectedOriginal : Option RuntimeRecoveryOriginal} {around : Surroundings}
    (h : submitRecovery seen db accountId r expectedOriginal around = .ok db') :
    Effect settings seen db (.submitRecovery accountId r expectedOriginal around) db' := by
  have hfollows : ∀ i, (seen i).Follows db := fun i => (hcurrent i).toFollows
  rcases submitRecovery_cases h with
    rfl | ⟨binding, m, nodeId, hnone, -, hcurrently, hprior, rfl⟩
  · exact .aside (.of_same rfl rfl rfl) (fun _ _ => rfl) (fun _ _ => .inl rfl)
  · have hmigration := (userLocked_migration hcurrent 5).symm.trans hcurrently.profile
    refine .recovers hmigration hcurrently.taskId hcurrently.unsettled
      (not_mem_names hdb hseen hfollows rfl hnone) fun previous hprevious => ?_
    obtain ⟨t, ht, rfl, hterminal⟩ := hprior previous hprevious
    have hview := userLocked_view hdb hseen hfollows 7
    have hof := htracked.named m (Option.mem_def.mpr hmigration) _ hprevious
    exact hview.follows.reported (hview.sound.books.reported t ht
      (guarded_of_runtime (runtime_of_ofRecovery hof)) hterminal)

lemma reportMigration_effect {task : NodeTask} {payload : MigrationPayload} {r : Report}
    (hwork : task.work.migration? = some payload)
    (hcareful : (db.receipt task.taskId).isNone →
      (userLocked seen db 3).account.status = db.account.status ∧ (r.outcome = .failed →
        db.account.status = .migrating ∨ db.account.status = .disabled))
    (h : reportMigration settings seen db task payload r = .ok db') :
    Effect settings seen db (.report r) db' := by
  have hfollows : ∀ i, (seen i).Follows db := fun i => (hcurrent i).toFollows
  rcases reportMigration_cases h with rfl | ⟨copy, m, hcopy, hsame, hnone, horiginal, -, rfl⟩
  · exact .aside (.of_same rfl rfl rfl) (fun _ _ => rfl) (fun _ _ => .inl rfl)
  · have hname : copy.taskId = task.taskId := congrArg Work.taskId hsame
    obtain ⟨attempt, hattempt⟩ : ∃ attempt, copy.work = .migrateToolAccountRuntime attempt payload := by
      rw [hsame]
      cases hw : task.work with
      | migrateToolAccountRuntime attempt payload' =>
        rw [hw] at hwork
        obtain rfl := Option.some.inj hwork
        exact ⟨attempt, rfl⟩
      | _ =>
        rw [hw] at hwork
        cases hwork
    have hcopyId : copy.taskId = .migrateToolAccountRuntime attempt := congrArg Work.taskId hattempt
    have hruntime : copy.taskId.ofRuntime = true := hcopyId ▸ rfl
    have hreported : ¬db.reported copy.taskId :=
      (userLocked_view hdb hseen hfollows 2).not_reported hruntime (hname ▸ hnone)
    have hreceipt : db.receipt task.taskId = none := lookup_eq_none_iff.mpr fun result hr hid =>
      hreported ⟨result, hr, hid.trans hname.symm⟩
    obtain ⟨hstatus, hfailed⟩ := hcareful (Option.isNone_iff_eq_none.mpr hreceipt)
    have hmigration := (userLocked_migration hcurrent 4).symm.trans horiginal.profile
    have habout : copy.work.about = some m.taskId := by
      rw [horiginal.taskId, hcopyId, hattempt]
      rfl
    have hsource : (userLocked seen db 3).account.runtimeBackend = some m.sourceRuntimeBackend := by
      rw [horiginal.source]
      exact horiginal.backend
    have hknown : copy.work ∈ db.works :=
      (userLocked_view hdb hseen hfollows 1).follows.works.subset (mem_works hcopy)
    have hother : ¬copy.taskId.ofRecovery = true := by
      rw [hcopyId]
      exact nofun
    have hunsettled : m.status.settled = false := by
      rw [horiginal.status]
      rfl
    refine .settles (m := m) ?_ rfl (fun hof => absurd hof hother)
    cases houtcome : r.outcome with
    | succeeded =>
      refine ⟨hknown, hruntime, hreported, fun hof => absurd hof hother, hmigration, habout,
        hunsettled, rfl, rfl, rfl, fun hf => (nomatch houtcome.symm.trans hf), hstatus, ?_,
        hsource, ?_⟩
      · rw [houtcome]
        simp only [true_and]
        rfl
      · rw [if_pos ⟨houtcome, hattempt ▸ rfl⟩, horiginal.target]
        rfl
    | failed =>
      refine ⟨hknown, hruntime, hreported, fun hof => absurd hof hother, hmigration, habout,
        hunsettled, rfl, rfl, rfl, fun _ => rfl, hstatus, ?_, hsource, ?_⟩
      · rw [houtcome, if_neg (fun hs => nomatch hs.1), hstatus]
        rcases hfailed houtcome with hs | hs
        all_goals
          unfold migrationApplied
          dsimp only
          rw [hstatus, hs]
          rfl
      · have hne : ¬(r.outcome = .succeeded ∧ copy.work.restores = false) := fun hs =>
          nomatch houtcome.symm.trans hs.1
        rw [if_neg hne, horiginal.source]
        rfl

omit hseen in
lemma reportRecovery_effect {task : NodeTask} {r : Report} (htask : task.work ∈ db.works)
    (hcareful : (db.receipt task.taskId).isNone →
      (userLocked seen db 3).account.status = db.account.status)
    (h : reportRecovery settings seen db task r = .ok db') :
    Effect settings seen db (.report r) db' := by
  rcases reportRecovery_cases h with
    rfl | ⟨current, binding, m, hwork, hlookup, hnone, hlease, hvalue, hpending, hcurrently, rfl⟩
  · exact .aside (.of_same rfl rfl rfl) (fun _ _ => rfl) (fun _ _ => .inl rfl)
  · obtain ⟨hmem, hname⟩ := getTask_eq_some hlookup
    have hsame : current.work = task.work := hdb.books.work_unique (mem_works hmem) htask hname
    have hstatus := hcareful (Option.isNone_iff_eq_none.mpr hnone)
    have hmigration := (userLocked_migration hcurrent 9).symm.trans hcurrently.profile
    obtain ⟨hleased, hunexpired⟩ := requireLease_open hlease
    have hsource : (userLocked seen db 3).account.runtimeBackend = some m.sourceRuntimeBackend := by
      rw [hcurrently.source]
      exact hcurrently.backend
    obtain ⟨requestId, hrecover⟩ : ∃ requestId,
        task.work = .recoverToolAccountRuntime requestId binding := by
      obtain ⟨requestId, binding', hw⟩ := recovery_of_name (name_of_recovery hwork)
      rw [hw] at hwork
      obtain rfl := Option.some.inj hwork
      exact ⟨requestId, hw⟩
    have habout : task.work.about = some m.taskId := by
      rw [hcurrently.taskId, hrecover]
      rfl
    have hopened : ∃ t ∈ db.tasks, t.work = task.work ∧ t.status.terminal = false :=
      ⟨current, hmem, hsame, open_of_leased hleased⟩
    refine .settles (m := m) ?_ rfl (fun _ => ⟨current, hmem, binding, ?_, hname, hleased,
      ⟨4, hunexpired⟩, hvalue⟩)
    · cases houtcome : r.outcome with
      | succeeded =>
        refine ⟨htask, runtime_of_recovery hwork, receipt_eq_none hnone, fun _ => hopened,
          hmigration, habout, hcurrently.unsettled, rfl, rfl, rfl,
          fun hf => (nomatch houtcome.symm.trans hf), hstatus, ?_, hsource, ?_⟩
        · rw [houtcome]
          simp only [true_and]
          rfl
        · have hafter : (recoveryApplied .succeeded (userLocked seen db 3).account m
              binding).1.runtimeBackend = some binding.confirmed := rfl
          have hrestores : task.work.restores = binding.action.isSome := by
            rw [hrecover]
            rfl
          rw [hafter, hcurrently.source, hcurrently.target, hrestores]
          unfold RuntimeRecoveryBinding.confirmed
          cases hsome : binding.action.isSome
          · rw [if_neg nofun, if_pos ⟨houtcome, rfl⟩]
          · have hne : ¬(r.outcome = .succeeded ∧ true = false) := fun hs => nomatch hs.2
            rw [if_pos rfl, if_neg hne]
      | failed =>
        refine ⟨htask, runtime_of_recovery hwork, receipt_eq_none hnone, fun _ => hopened,
          hmigration, habout, hcurrently.unsettled, rfl, rfl, rfl,
          fun _ => hcurrently.unsettled, hstatus, ?_, hsource, ?_⟩
        · rw [houtcome, if_neg (fun hs => nomatch hs.1)]
          rfl
        · have hne : ¬(r.outcome = .succeeded ∧ task.work.restores = false) := fun hs =>
            nomatch houtcome.symm.trans hs.1
          rw [if_neg hne]
          exact hsource
    · rwa [hsame]

omit hseen hcurrent in
lemma reportBinding_effect {task : NodeTask} {r : Report} (hbinding : task.taskId.ofBinding)
    (hname : task.taskId = r.taskId)
    (hcareful : db.account.status ≠ .disabled →
      awaited (accountLocked seen db 2).profile task.work = some task.taskId →
      (accountLocked seen db 2).profile.runtimeMigration = db.profile.runtimeMigration ∧
        (db.profile.settled = false → db.account.status ≠ .migrating ∧
          (bindingApplied task.work r db.account).runtimeBackend = db.account.runtimeBackend)) :
    Effect settings seen db (.report r) (reportBinding seen db task r) := by
  have hquiet := settleTask_quiet db hbinding (seen 1) r
  have haccount : (settleTask db (seen 1) task r).account = db.account := by
    unfold settleTask
    dsimp only
    by_cases hseen : ((seen 1).receipt task.taskId).isSome
    · rw [if_pos hseen]
      rfl
    · rw [if_neg hseen]
      rfl
  unfold reportBinding
  dsimp only
  split_ifs with hskip
  · refine .aside (hquiet.trans (.of_same rfl rfl rfl)) (fun _ _ => ?_) (fun _ _ => .inl ?_)
    · exact congrArg ToolAccount.runtimeBackend haccount
    · exact congrArg ToolAccount.status haccount
  · push Not at hskip
    obtain ⟨hmigration, hduring⟩ := hcareful hskip.1 hskip.2
    have hunsettled : ∀ w, db.Outstanding w → db.profile.settled = false := fun w hw =>
      holds_unsettled (hdb.held w hw)
    refine .aside (hquiet.trans (.of_same (hmigration.trans hquiet.migration.symm) rfl rfl))
      (fun w hw => (hduring (hunsettled w hw)).2)
      (fun w hw => .inr (.inr ⟨?_, (hduring (hunsettled w hw)).1⟩))
    unfold AccountTx.byBinding
    rwa [hname] at hbinding

lemma reportTask_effect {r : Report} (hcareful : Careful settings ⟨.report r, seen, db⟩)
    (h : reportTask settings seen db r = .ok db') : Effect settings seen db (.report r) db' := by
  obtain ⟨happlied, hfirst⟩ := hcareful
  have hknown : ∀ task, requireNodeTask seen r.nodeId r.taskId = .ok task → task.work ∈ db.works :=
    fun task htask => (hcurrent 0).works.subset (mem_works (requireNodeTask_eq_ok htask).1)
  have hresult : ∀ task, requireNodeTask seen r.nodeId r.taskId = .ok task →
      task.taskId.ofRuntime → (db.receipt task.taskId).isNone →
        task ∈ firstResult seen db r := fun task htask hruntime hnone => by
    unfold firstResult
    rw [toOption_eq_some.mpr htask]
    exact Option.filter_eq_some_iff.mpr ⟨rfl, decide_eq_true ⟨hruntime, hnone⟩⟩
  refine reportTask_cases h (fun task sessionId _ hruntime hreport => ?_)
    (fun task htask hbinding hreport => ?_) (fun task payload htask hwork hreport => ?_)
    (fun task htask hreport => ?_)
  · have haccount : db'.account = db.account := by
      rcases reportSession_cases hreport with rfl | ⟨locked, -, -, rfl⟩
      · rfl
      · rfl
    exact .aside (reportSession_quiet hruntime hreport) (fun _ _ => by rw [haccount])
      (fun _ _ => .inl (by rw [haccount]))
  · rw [hreport]
    refine reportBinding_effect hdb hbinding (requireNodeTask_eq_ok htask).2
      fun henabled hawaited => happlied task ?_
    unfold appliedBinding
    rw [toOption_eq_some.mpr htask]
    exact Option.filter_eq_some_iff.mpr ⟨rfl, decide_eq_true ⟨hbinding, henabled, hawaited⟩⟩
  · have hmigration : task.work.migration?.isSome := by
      rw [hwork]
      rfl
    refine reportMigration_effect hdb hseen hcurrent hwork (fun hnone => ?_) hreport
    obtain ⟨hstatus, hfailed⟩ := hfirst task
      (hresult task htask (runtime_of_migration hmigration) hnone) db' h
    exact ⟨hstatus, fun hf => hfailed hf hmigration⟩
  · refine reportRecovery_effect hdb hcurrent (hknown task htask) (fun hnone => ?_) hreport
    have hrecovery : ∃ binding, task.work.recovery? = some binding := by
      unfold reportRecovery at hreport
      obtain ⟨binding, hbinding, -⟩ := bind_eq_ok.mp hreport
      exact ⟨binding, (recoveryBinding_eq_ok hbinding).1⟩
    obtain ⟨binding, hbinding⟩ := hrecovery
    exact (hfirst task (hresult task htask (runtime_of_recovery hbinding) hnone) db' h).1

/-- What a careful commit does to the migration of the account. -/
theorem outcome_effect (htracked : db.Tracked) {t : AccountTx}
    (hcareful : Careful settings ⟨t, seen, db⟩) (h : t.outcome settings seen db = .ok db') :
    Effect settings seen db t db' := by
  cases t with
  | createSession r => exact createSession_effect hdb hseen hcurrent h
  | stopSession userId sessionId =>
    obtain ⟨b, hends, rfl⟩ := stopSession_ends h
    have haccount : (releaseUser b).account = db.account := hends.account
    exact .aside (stopSession_quiet h) (fun _ _ => by rw [haccount])
      (fun _ _ => .inl (by rw [haccount]))
  | reconcile nodeId reports =>
    obtain ⟨b, hends, hafter⟩ := reconcile_ends seen db nodeId reports
    obtain rfl := Except.ok.inj h
    have haccount : (reconcile seen db nodeId reports).account = db.account := by
      rw [hafter]
      exact hends.account
    exact .aside (reconcile_quiet nodeId reports) (fun _ _ => by rw [haccount])
      (fun _ _ => .inl (by rw [haccount]))
  | startBinding r => exact startBinding_effect hdb hseen hcurrent h
  | verifyBinding userId accountId =>
    have hmigration := hcareful db' h
    obtain ⟨node, rfl⟩ := verifyBinding_eq_ok h
    exact .aside (.of_addTask (w := .verifyToolAccount db.nextId) rfl hmigration rfl rfl)
      (fun _ _ => rfl) (fun _ _ => .inr (.inl rfl))
  | disableAccount userId accountId =>
    obtain rfl := disableAccount_eq_ok h
    exact .aside (.of_same rfl rfl rfl) (fun _ _ => rfl) (fun _ _ => .inr (.inl rfl))
  | updateAccount r =>
    obtain ⟨-, rfl⟩ := updateAccount_eq_ok h
    exact .aside (.of_same rfl rfl rfl) (fun _ _ => flushColumn_self _ _)
      (fun _ _ => .inr (.inl rfl))
  | migrateRuntime r => exact migrateRuntime_effect hdb hseen hcurrent (hcareful db' h) h
  | submitRecovery accountId r expected around =>
    exact submitRecovery_effect hdb hseen hcurrent htracked h
  | authorizeRecovery around nodeId taskId =>
    obtain ⟨-, -, h⟩ := bind_eq_ok.mp h
    obtain rfl := Except.ok.inj h
    exact .aside (.of_same rfl rfl rfl) (fun _ _ => rfl) (fun _ _ => .inl rfl)
  | renewRecovery around nodeId taskId expected leaseSeconds =>
    have haccount := (renewRecovery_rest h).2
    exact .aside (renewRecovery_quiet h) (fun _ _ => by rw [haccount])
      (fun _ _ => .inl (by rw [haccount]))
  | poll nodeId limit held =>
    obtain rfl := Except.ok.inj h
    exact .aside (pollTasks_quiet nodeId limit held) (fun _ _ => rfl) (fun _ _ => .inl rfl)
  | start around nodeId taskId =>
    have haccount := (startTask_rest h).2
    exact .aside (startTask_quiet hdb.books h) (fun _ _ => by rw [haccount])
      (fun _ _ => .inl (by rw [haccount]))
  | report r => exact reportTask_effect hdb hseen hcurrent hcareful h
  | reportNode node =>
    obtain rfl := Except.ok.inj h
    exact .aside (.of_same rfl rfl rfl) (fun _ _ => rfl) (fun _ _ => .inl rfl)
  | tick elapsed =>
    obtain rfl := Except.ok.inj h
    exact .aside (.of_same rfl rfl rfl) (fun _ _ => rfl) (fun _ _ => .inl rfl)

end

end AgentRemote.AccountRuntime
