import AgentRemote.AccountRuntime.Invariant

/-!
# What each operation keeps

Every operation leaves a sound state that follows from the one it commits on. The operations
that start or end migrations come last.
-/

namespace AgentRemote.AccountRuntime
open Library PortForwards Runtimes AccountDb

variable {settings : AccountSettings} {seen : ℕ → AccountDb} {a b c db db' : AccountDb}

/-- A commit leaves a sound state that follows from the one before. -/
structure Kept (a b : AccountDb) : Prop where
  sound : b.Sound
  follows : a.Follows b

/-- The sessions that are started were started before, on their nodes and backends. -/
def Calm (a b : AccountDb) : Prop :=
  ∀ s' ∈ b.activeSessions, ∃ s ∈ a.activeSessions, s'.nodeId = s.nodeId ∧
    s'.runtimeBackend = s.runtimeBackend

lemma Calm.of_eq (h : b.sessions = a.sessions) : Calm a b := by
  intro s hs
  have hactive : b.activeSessions = a.activeSessions := by
    unfold activeSessions
    rw [h]
  exact ⟨s, hactive ▸ hs, rfl, rfl⟩

lemma Calm.trans (hab : Calm a b) (hbc : Calm b c) : Calm a c := by
  intro s'' hs''
  obtain ⟨s', hs', hnode', hbackend'⟩ := hbc s'' hs''
  obtain ⟨s, hs, hnode, hbackend⟩ := hab s' hs'
  exact ⟨s, hs, hnode'.trans hnode, hbackend'.trans hbackend⟩

lemma Calm.empty (h : Calm a b) (hempty : a.activeSessions = []) : b.activeSessions = [] := by
  rw [List.eq_nil_iff_forall_not_mem]
  intro s' hs'
  obtain ⟨s, hs, -⟩ := h s' hs'
  rw [hempty] at hs
  cases hs

/-- Soundness when no migration starts. -/
lemma AccountDb.Grows.sound (hgrows : a.Grows b) (hbooks : b.Books)
    (hmigrations : ∀ w ∈ b.works, w.migration?.isSome → w ∈ a.works)
    (hheld : ∀ w, b.Outstanding w → a.Outstanding w → b.holds w)
    (hstill : ∀ w, a.Outstanding w → b.activeSessions = [])
    (hmigrating : b.account.status = .migrating → ∃ w, b.Outstanding w)
    (hprevious : ∀ m ∈ b.profile.runtimeMigration, m.previousStatus ≠ .migrating) : b.Sound := by
  have hback : ∀ w, b.Outstanding w → a.Outstanding w := fun w hw =>
    hgrows.outstanding (hmigrations w hw.mem hw.migration) hw
  exact ⟨hbooks, fun w hw => hheld w hw (hback w hw), fun w hw => hstill w (hback w hw),
    hmigrating, hprevious⟩

/-- Soundness when the migration of the profile, the status and the sessions stay. -/
lemma AccountDb.Grows.sound_of_same (hgrows : a.Grows b) (ha : a.Sound) (hbooks : b.Books)
    (hworks : ∀ w ∈ b.works, w.taskId.ofRuntime → w ∈ a.works)
    (hreceipts : ∀ r ∈ b.receipts, r.taskId.ofRuntime → r ∈ a.receipts)
    (hprofile : b.profile.runtimeMigration = a.profile.runtimeMigration)
    (hstatus : b.account.status = .migrating → a.account.status = .migrating)
    (hcalm : Calm a b) : b.Sound := by
  refine hgrows.sound hbooks (fun w hw h => hworks w hw (runtime_of_migration h))
    (fun w _ hw => ?_) (fun w hw => hcalm.empty (ha.still w hw)) (fun h => ?_) ?_
  · have hheld := ha.held w hw
    unfold holds at hheld ⊢
    rwa [hprofile]
  · obtain ⟨w, hw⟩ := ha.migrating (hstatus h)
    exact ⟨w, hgrows.outstanding_of_aside (fun w hw hof => .inl (hworks w hw hof))
      (fun r hr hof _ => hreceipts r hr hof) hw⟩
  · rw [hprofile]
    exact ha.previous

/-! ### The queue -/

/-- Tasks are rewritten, and nothing else but clocks, nodes and turns. -/
lemma AccountDb.Rewrites.kept {g : NodeTask → NodeTask} (h : Rewrites g [] a b) (ha : a.Sound)
    (haccount : b.account = a.account) (hprofile : b.profile = a.profile)
    (hsessions : b.sessions = a.sessions) (huser : a.userTurns ≤ b.userTurns)
    (hturns : b.accountTurns = a.accountTurns) : Kept a b := by
  have hreceipts : b.receipts = a.receipts := by rw [h.receipts, List.append_nil]
  refine ⟨?_, ?_⟩
  · exact h.grows.sound_of_same ha (h.books ha.books) (fun w hw _ => h.works ▸ hw)
      (fun r hr _ => hreceipts ▸ hr) (by rw [hprofile]) (fun hs => by rwa [haccount] at hs)
      (.of_eq hsessions)
  · exact
      { toGrows := h.grows
        userTurns := huser
        accountTurns := hturns.ge
        account := fun _ => haccount
        migrations := fun _ w hw _ => h.works ▸ hw
        sessions := fun _ => hsessions
        guarded := fun _ w hw _ => h.works ▸ hw
        results := fun _ r hr _ => hreceipts ▸ hr
        migrating := fun _ hs => by rwa [haccount] at hs }

lemma rewrites_refl (htasks : b.tasks = a.tasks) (hreceipts : b.receipts = a.receipts)
    (hnextId : b.nextId = a.nextId) : Rewrites (fun t => t) [] a b where
  tasks := by rw [htasks, List.map_id']
  receipts := by rw [hreceipts, List.append_nil]
  nextId := hnextId
  work _ _ := rfl
  ended _ _ _ h := .inl h
  named := List.forall_mem_nil _

lemma kept_refl (ha : a.Sound) : Kept a a := ⟨ha, .refl a⟩

lemma releaseUser_kept (hdb : db.Sound) : Kept db (releaseUser db) :=
  Rewrites.kept (b := releaseUser db) (rewrites_refl rfl rfl rfl) hdb rfl rfl rfl
    (Nat.le_succ _) rfl

/-- Tasks of a kind of their own, rewritten in place. -/
lemma rewrites_tasks {g : NodeTask → NodeTask} (hwork : ∀ t ∈ db.tasks, (g t).work = t.work)
    (hopen : ∀ t ∈ db.tasks, (g t).status.terminal → t.status.terminal) :
    Rewrites g [] db { db with tasks := db.tasks.map g } where
  tasks := rfl
  receipts := by rw [List.append_nil]
  nextId := rfl
  work := hwork
  ended t ht _ h := .inl (hopen t ht h)
  named := List.forall_mem_nil _

lemma pollTasks_kept (hdb : db.Sound) (nodeId : Uuid) (limit : ℕ) (held : List Uuid) :
    Kept db (pollTasks settings seen db nodeId limit held) := by
  have hrewrites : Rewrites _ [] db _ := rewrites_tasks (g := fun t =>
    if t ∈ (db.tasks.filter fun t =>
        ((seen 0).getTask t.taskId).any (pollable nodeId (seen 0).clock) ∧
          pollable nodeId (seen 0).clock t ∧ t.id ∉ held).take limit then
      { t with
        status := .leased
        leaseUntil := some ((seen 0).clock + seconds settings.nodeTaskLeaseSeconds)
        retryCount := t.retryCount + 1 }
    else t) (fun t _ => by split_ifs <;> rfl) (fun t _ h => by
      split_ifs at h
      · cases h
      · exact h)
  exact hrewrites.kept hdb rfl rfl rfl le_rfl rfl

lemma statusWritten_cases (copy : NodeTask) (status : TaskStatus) (t : NodeTask) :
    statusWritten copy status t = t ∨ t.taskId = copy.taskId ∧
      statusWritten copy status t = { t with status := status } := by
  unfold statusWritten
  split_ifs with hsame hid
  · exact .inl rfl
  · exact .inr ⟨hid, rfl⟩
  · exact .inl rfl

lemma statusWritten_work (copy : NodeTask) (status : TaskStatus) (t : NodeTask) :
    (statusWritten copy status t).work = t.work := by
  rcases statusWritten_cases copy status t with h | ⟨-, h⟩
  · rw [h]
  · rw [h]

/-- A task that starts is not over. -/
lemma setTaskStatus_rewrites (db : AccountDb) (copy : NodeTask) :
    Rewrites (statusWritten copy .running) [] db (setTaskStatus db copy .running) :=
  rewrites_tasks (fun t _ => statusWritten_work copy .running t) fun t _ h => by
    rcases statusWritten_cases copy .running t with hsame | ⟨-, hsame⟩
    · rwa [hsame] at h
    · rw [hsame] at h
      cases h

lemma startTask_kept (hdb : db.Sound) {around : Surroundings} {nodeId : Uuid} {taskId : TaskName}
    (h : startTask seen db around nodeId taskId = .ok db') : Kept db db' := by
  unfold startTask at h
  obtain ⟨task, -, h⟩ := bind_eq_ok.mp h
  rw [reject_bind_eq_ok] at h
  replace h := h.2
  split at h
  · obtain ⟨⟨copy, binding⟩, -, h⟩ := bind_eq_ok.mp h
    obtain rfl := Except.ok.inj h
    have hrewrites := setTaskStatus_rewrites db copy
    exact Rewrites.kept (b := releaseUser _)
      ⟨hrewrites.tasks, hrewrites.receipts, hrewrites.nextId, hrewrites.work, hrewrites.ended,
        hrewrites.named⟩ hdb rfl rfl rfl (Nat.le_succ _) rfl
  · obtain rfl := Except.ok.inj h
    exact (setTaskStatus_rewrites db task).kept hdb rfl rfl rfl le_rfl rfl

lemma renewRecovery_kept (hdb : db.Sound) {around : Surroundings} {nodeId : Uuid}
    {taskId : TaskName} {expected : RuntimeRecoveryBinding × ℕ} {leaseSeconds : ℕ}
    (h : renewRecovery seen db around nodeId taskId expected leaseSeconds = .ok db') :
    Kept db db' := by
  unfold renewRecovery at h
  obtain ⟨⟨task, binding⟩, -, h⟩ := bind_eq_ok.mp h
  dsimp only at h
  rw [reject_bind_eq_ok] at h
  obtain ⟨-, -, hrest⟩ := bind_eq_ok.mp h.2
  obtain rfl := Except.ok.inj hrest
  have hrewrites : Rewrites _ [] db _ := rewrites_tasks (g := fun t =>
    if t.taskId = taskId then
      { t with leaseUntil := some ((seen 7).clock + seconds (min leaseSeconds 300)) } else t)
    (fun t _ => by split_ifs <;> rfl) (fun t _ h => by split_ifs at h <;> exact h)
  exact Rewrites.kept (b := releaseUser _)
    ⟨hrewrites.tasks, hrewrites.receipts, hrewrites.nextId, hrewrites.work, hrewrites.ended,
      hrewrites.named⟩ hdb rfl rfl rfl (Nat.le_succ _) rfl

/-- A task that starts or is renewed changes neither the sessions nor the account. -/
lemma startTask_rest {around : Surroundings} {nodeId : Uuid} {taskId : TaskName}
    (h : startTask seen db around nodeId taskId = .ok db') :
    db'.sessions = db.sessions ∧ db'.account = db.account := by
  unfold startTask at h
  obtain ⟨task, -, h⟩ := bind_eq_ok.mp h
  rw [reject_bind_eq_ok] at h
  replace h := h.2
  split at h
  · obtain ⟨⟨copy, binding⟩, -, h⟩ := bind_eq_ok.mp h
    obtain rfl := Except.ok.inj h
    exact ⟨rfl, rfl⟩
  · obtain rfl := Except.ok.inj h
    exact ⟨rfl, rfl⟩

lemma renewRecovery_rest {around : Surroundings} {nodeId : Uuid} {taskId : TaskName}
    {expected : RuntimeRecoveryBinding × ℕ} {leaseSeconds : ℕ}
    (h : renewRecovery seen db around nodeId taskId expected leaseSeconds = .ok db') :
    db'.sessions = db.sessions ∧ db'.account = db.account := by
  unfold renewRecovery at h
  obtain ⟨⟨task, binding⟩, -, h⟩ := bind_eq_ok.mp h
  dsimp only at h
  rw [reject_bind_eq_ok] at h
  obtain ⟨-, -, hrest⟩ := bind_eq_ok.mp h.2
  obtain rfl := Except.ok.inj hrest
  exact ⟨rfl, rfl⟩

/-! ### Sessions that end -/

/-- Sessions end, with stop tasks for some of them. -/
structure Ends (a b : AccountDb) : Prop extends Grows a b where
  books : a.Books → b.Books
  account : b.account = a.account
  profile : b.profile = a.profile
  userTurns : b.userTurns = a.userTurns
  accountTurns : b.accountTurns = a.accountTurns
  works' : ∀ w ∈ b.works, w.taskId.ofRuntime → w ∈ a.works
  receipts' : b.receipts = a.receipts
  calm : Calm a b

lemma Ends.refl (a : AccountDb) : Ends a a where
  toGrows := .refl a
  books h := h
  account := rfl
  profile := rfl
  userTurns := rfl
  accountTurns := rfl
  works' _ h _ := h
  receipts' := rfl
  calm := .of_eq rfl

lemma Ends.trans (hab : Ends a b) (hbc : Ends b c) : Ends a c where
  toGrows := hab.toGrows.trans hbc.toGrows
  books h := hbc.books (hab.books h)
  account := hbc.account.trans hab.account
  profile := hbc.profile.trans hab.profile
  userTurns := hbc.userTurns.trans hab.userTurns
  accountTurns := hbc.accountTurns.trans hab.accountTurns
  works' w hw hruntime := hab.works' w (hbc.works' w hw hruntime) hruntime
  receipts' := hbc.receipts'.trans hab.receipts'
  calm := hab.calm.trans hbc.calm

lemma Ends.foldl {α : Type} {step : AccountDb → α → AccountDb} {xs : List α}
    (h : ∀ db x, Ends db (step db x)) (a : AccountDb) : Ends a (xs.foldl step a) := by
  induction xs generalizing a with
  | nil => exact .refl a
  | cons x xs ih => exact (h a x).trans (ih (step a x))

lemma addTask_grows (db : AccountDb) (nodeId : Uuid) (w : Work) : db.Grows (addTask db nodeId w) where
  nextId := Nat.le_succ _
  works := by
    unfold addTask works
    rw [List.map_append]
    exact List.prefix_append _ _
  receipts := List.prefix_refl _

lemma mem_addTask_works {nodeId : Uuid} {w w' : Work} (h : w' ∈ (addTask db nodeId w).works) :
    w' ∈ db.works ∨ w' = w := by
  unfold addTask works at h
  rw [List.map_append] at h
  exact (List.mem_append.mp h).imp_right List.mem_singleton.mp

lemma addStopTask_ends (db : AccountDb) (s : Session) (preserve : Bool) :
    Ends db (addStopTask db s preserve) := by
  unfold addStopTask
  dsimp only
  split_ifs with h
  · exact .refl db
  · have hnone := Option.not_isSome_iff_eq_none.mp h
    have hname : (Work.stopToolSession s.id preserve).taskId.drawn = none := by
      cases preserve <;> rfl
    refine
      { toGrows := addTask_grows db s.nodeId _
        books := fun hbooks => hbooks.addTask s.nodeId (getTask_eq_none hnone) ?_ ?_
        account := rfl
        profile := rfl
        userTurns := rfl
        accountTurns := rfl
        works' := ?_
        receipts' := rfl
        calm := .of_eq rfl }
    · rw [hname]
      exact nofun
    · exact nofun
    · intro w hw hruntime
      rcases mem_addTask_works hw with hold | rfl
      · exact hold
      · cases preserve <;> cases hruntime

/-- A session that is rewritten is not started anew. -/
lemma map_calm {f : Session → Session} (hnode : ∀ s, (f s).nodeId = s.nodeId)
    (hbackend : ∀ s, (f s).runtimeBackend = s.runtimeBackend)
    (hstarted : ∀ s, started (f s).status → started s.status) (h : b.sessions = a.sessions.map f) :
    Calm a b := by
  intro s' hs'
  obtain ⟨hmem, hs⟩ := List.mem_filter.mp hs'
  rw [h] at hmem
  obtain ⟨s, hsession, rfl⟩ := List.mem_map.mp hmem
  exact ⟨s, List.mem_filter.mpr ⟨hsession, hstarted s hs⟩, hnode s, hbackend s⟩

lemma sessions_ends {f : Session → Session} (hnode : ∀ s, (f s).nodeId = s.nodeId)
    (hbackend : ∀ s, (f s).runtimeBackend = s.runtimeBackend)
    (hstarted : ∀ s, started (f s).status → started s.status) :
    Ends db { db with sessions := db.sessions.map f } where
  toGrows := ⟨le_rfl, List.prefix_refl _, List.prefix_refl _⟩
  books h := h.congr rfl rfl le_rfl
  account := rfl
  profile := rfl
  userTurns := rfl
  accountTurns := rfl
  works' _ h _ := h
  receipts' := rfl
  calm := map_calm hnode hbackend hstarted rfl

lemma setSessionStatus_ends (db : AccountDb) (id : Uuid) {status : ToolSessionStatus}
    (h : started status = false) : Ends db (setSessionStatus db id status) := by
  refine sessions_ends (fun s => ?_) (fun s => ?_) (fun s hs => ?_)
  · split_ifs <;> rfl
  · split_ifs <;> rfl
  · split_ifs at hs
    · rw [h] at hs
      cases hs
    · exact hs

lemma Ends.grows (h : Ends a b) : a.Grows (releaseUser b) := ⟨h.nextId, h.works, h.receipts⟩

/-- What only the holder of the usage row may do is done by one that releases it. -/
lemma turn_ne (h : b.userTurns = a.userTurns) {P : Prop}
    (hsame : a.userTurns = (releaseUser b).userTurns) : P :=
  absurd (hsame.trans (congrArg Nat.succ h)) (Nat.succ_ne_self _).symm

/-- Sessions that end do so under the usage row. -/
lemma Ends.kept (h : Ends a b) (ha : a.Sound) : Kept a (releaseUser b) where
  sound := h.grows.sound_of_same ha ((h.books ha.books).congr rfl rfl le_rfl) h.works'
    (fun _ hr _ => h.receipts' ▸ hr) (congrArg Profile.runtimeMigration h.profile)
    (fun hs => (congrArg ToolAccount.status h.account).symm.trans hs) h.calm
  follows :=
    { toGrows := h.grows
      userTurns := h.userTurns.ge.trans (Nat.le_succ _)
      accountTurns := h.accountTurns.ge
      account := fun _ => h.account
      migrations := fun _ w hw hmigration => h.works' w hw (runtime_of_migration hmigration)
      sessions := turn_ne h.userTurns
      guarded := turn_ne h.userTurns
      results := turn_ne h.userTurns
      migrating := turn_ne h.userTurns }

lemma stopSession_ends {userId sessionId : Uuid} (h : stopSession db userId sessionId = .ok db') :
    ∃ b, Ends db b ∧ db' = releaseUser b := by
  unfold stopSession at h
  split at h
  · cases h
  · next session _ =>
    split_ifs at h
    · exact ⟨db, .refl db, (Except.ok.inj h).symm⟩
    · exact ⟨_, (addStopTask_ends db session false).trans (setSessionStatus_ends _ _ rfl),
        (Except.ok.inj h).symm⟩

lemma reconcile_ends (seen : ℕ → AccountDb) (db : AccountDb) (nodeId : Uuid)
    (reports : List RuntimeReport) :
    ∃ b, Ends db b ∧ reconcile seen db nodeId reports = releaseUser b :=
  ⟨_, (Ends.foldl (fun db (s : Session) => addStopTask_ends db s true) db).trans
    (Ends.foldl (fun db (s : Session) => setSessionStatus_ends db s.id rfl) _), rfl⟩

/-! ### Results for sessions -/

lemma finishTask_rewrites {task : NodeTask} (htask : task.work ∈ db.works) (r : Report) :
    ∃ rs, Rewrites (finished task.taskId r.outcome) rs db (finishTask db task r) ∧
      ∀ result ∈ rs, result.taskId = task.taskId ∧ result.status = r.outcome := by
  refine ⟨_, ⟨rfl, rfl, rfl, fun t _ => ?_, fun t _ _ h => ?_, fun result hresult => ?_⟩,
    fun result hresult => ?_⟩
  · unfold finished
    split_ifs <;> rfl
  · unfold finished at h
    split_ifs at h with hname
    · exact .inr ⟨_, List.mem_singleton_self _, hname.symm⟩
    · exact .inl h
  · rw [List.mem_singleton.mp hresult]
    exact List.mem_map_of_mem htask
  · rw [List.mem_singleton.mp hresult]
    exact ⟨rfl, rfl⟩

/-- A session that is started after a result was started before. -/
lemma sessionStatusAfter_started {work : Work} {r : Report} {status : ToolSessionStatus}
    (h : started (sessionStatusAfter work r status)) : started status := by
  unfold sessionStatusAfter at h
  split at h
  · split_ifs at h with hstarting
    · rw [hstarting]
      rfl
    · exact h
  · split_ifs at h with hstarting
    · cases h
    · exact h
  · split_ifs at h
    all_goals cases h
  · split_ifs at h
    all_goals cases h
  · exact h

lemma applySessionTask_calm (work : Work) (r : Report) (sessionId : Uuid)
    (hsessions : b.sessions = a.sessions) : Calm a (applySessionTask b work r sessionId) := by
  refine map_calm (f := fun s =>
      if s.id = sessionId then { s with status := sessionStatusAfter work r s.status } else s)
    (fun s => ?_) (fun s => ?_) (fun s hs => ?_) (congrArg (List.map _) hsessions)
  · split_ifs <;> rfl
  · split_ifs <;> rfl
  · split_ifs at hs
    · exact sessionStatusAfter_started hs
    · exact hs

lemma reportSession_cases {task : NodeTask} {sessionId : Uuid} {r : Report}
    (h : reportSession db task sessionId r = .ok db') : db' = releaseUser db ∨
      ∃ locked, db.getTask task.taskId = some locked ∧ db.receipt task.taskId = none ∧
        db' = releaseUser (applySessionTask (finishTask db locked r) task.work r sessionId) := by
  unfold reportSession at h
  rw [reject_bind_eq_ok] at h
  replace h := h.2
  split at h
  · cases h
  · next locked hlocked =>
    have hfound := (Option.filter_eq_some_iff.mp hlocked).1
    split at h
    · rw [reject_bind_eq_ok] at h
      exact .inl (Except.ok.inj h.2).symm
    · next hnone =>
      rw [reject_bind_eq_ok] at h
      exact .inr ⟨locked, hfound, hnone, (Except.ok.inj h.2).symm⟩

lemma reportSession_kept (hdb : db.Sound) {task : NodeTask} {sessionId : Uuid} {r : Report}
    (hruntime : task.taskId.ofRuntime = false)
    (h : reportSession db task sessionId r = .ok db') : Kept db db' ∧ Calm db db' := by
  rcases reportSession_cases h with rfl | ⟨locked, hlocked, -, rfl⟩
  · exact ⟨releaseUser_kept hdb, .of_eq rfl⟩
  · obtain ⟨hmem, hname⟩ := getTask_eq_some hlocked
    obtain ⟨rs, hrewrites, hrs⟩ := finishTask_rewrites (mem_works hmem) r
    have hcalm := applySessionTask_calm (a := db) (b := finishTask db locked r) task.work r
      sessionId rfl
    have hgrows := hrewrites.grows
    refine ⟨⟨?_, ?_⟩, hcalm⟩
    · refine AccountDb.Grows.sound_of_same (a := db) (b := releaseUser _)
        ⟨hgrows.nextId, hgrows.works, hgrows.receipts⟩ hdb
        ((hrewrites.books hdb.books).congr rfl rfl le_rfl)
        (fun w hw _ => hrewrites.works ▸ hw) (fun result hresult hof => ?_) rfl (fun hs => hs) hcalm
      have hmem : result ∈ (finishTask db locked r).receipts := hresult
      rw [hrewrites.receipts] at hmem
      rcases List.mem_append.mp hmem with hold | hnew
      · exact hold
      · rw [(hrs result hnew).1, hname, hruntime] at hof
        cases hof
    · exact
        { nextId := hgrows.nextId
          works := hgrows.works
          receipts := hgrows.receipts
          userTurns := Nat.le_succ _
          accountTurns := le_rfl
          account := fun _ => rfl
          migrations := fun _ w hw _ => hrewrites.works ▸ hw
          sessions := turn_ne rfl
          guarded := turn_ne rfl
          results := turn_ne rfl
          migrating := turn_ne rfl }

/-! ### Creations -/

lemma AccountDb.holds_unsettled {w : Work} (h : db.holds w) : db.profile.settled = false := by
  obtain ⟨m, hm, -, hstatus, -⟩ := h
  unfold Profile.settled
  rw [Option.mem_def.mp hm]
  exact hstatus

/-- Under the usage row, a settled profile tells that no migration is outstanding. -/
lemma UserView.none_outstanding {v : AccountDb} (hview : UserView v db)
    (hsettled : v.profile.settled = true) (w : Work) : ¬db.Outstanding w := by
  intro hout
  have hunsettled := holds_unsettled <|
    hview.sound.held w (hview.follows.outstanding_user hview.turns hout)
  rw [hsettled] at hunsettled
  cases hunsettled

lemma requireRuntimeMigrationSettled_eq_ok {profile : Profile}
    (h : requireRuntimeMigrationSettled profile = .ok ()) : profile.settled = true := by
  have hsettled := reject_eq_ok.mp h
  rwa [Bool.not_eq_false] at hsettled

lemma requireActiveAccount_eq_ok {account : ToolAccount} {profile : Profile} {r : CreateSession}
    (h : requireActiveAccount account profile r = .ok ()) :
    profile.settled = true ∧ account.status = .active := by
  unfold requireActiveAccount at h
  obtain ⟨-, -, h⟩ := bind_eq_ok.mp h
  rw [reject_bind_eq_ok] at h
  obtain ⟨⟨⟩, hsettled, hactive⟩ := bind_eq_ok.mp h.2
  exact ⟨requireRuntimeMigrationSettled_eq_ok hsettled, not_not.mp (reject_eq_ok.mp hactive)⟩

/-- What `createSession` leaves. -/
def withSession (db : AccountDb) (account : ToolAccount) (r : CreateSession) (node : Node) :
    AccountDb :=
  let runtimeBackend := account.runtimeBackend.getD node.defaultRuntimeBackend
  let created := createdSession db r node runtimeBackend
  let db := flushAccount db account { account with
    runtimeBackend := some runtimeBackend
    affinityNodeId := some node.id }
  let db := { db with sessions := db.sessions ++ [created], nextId := db.nextId + 1 }
  releaseUser (releaseAccount (addTask db node.id (.createToolSession created.id)))

lemma createSession_eq_ok {r : CreateSession} (h : createSession settings seen db r = .ok db') :
    ∃ node managed, (userLocked seen db 2).profile.settled = true ∧
      chooseSessionNode settings (userLocked seen db 7) (userLocked seen db 8)
        (userLocked seen db 9) (userLocked seen db 5).account managed = .ok node ∧
      db' = withSession db (userLocked seen db 5).account r node := by
  unfold createSession at h
  obtain ⟨-, -, h⟩ := bind_eq_ok.mp h
  obtain ⟨⟨⟩, hactive, h⟩ := bind_eq_ok.mp h
  obtain ⟨-, -, h⟩ := bind_eq_ok.mp h
  obtain ⟨-, -, h⟩ := bind_eq_ok.mp h
  rw [reject_bind_eq_ok] at h
  obtain ⟨⟨⟩, -, h⟩ := bind_eq_ok.mp h.2
  obtain ⟨node, hnode, h⟩ := bind_eq_ok.mp h
  rw [reject_bind_eq_ok] at h
  replace h := h.2
  rw [reject_bind_eq_ok] at h
  exact ⟨node, _, (requireActiveAccount_eq_ok hactive).1, hnode, (Except.ok.inj h.2).symm⟩

lemma withSession_kept (hdb : db.Sound) (hout : ∀ w, ¬db.Outstanding w) (account : ToolAccount)
    (r : CreateSession) (node : Node) : Kept db (withSession db account r node) := by
  have hworks : ∀ w ∈ (withSession db account r node).works,
      w ∈ db.works ∨ w = .createToolSession db.nextId := by
    intro w hw
    have hadd : w ∈ (addTask { db with nextId := db.nextId + 1 } node.id
      (.createToolSession db.nextId)).works := hw
    rcases mem_addTask_works hadd with hold | rfl
    · exact .inl hold
    · exact .inr rfl
  have hgrows : db.Grows (withSession db account r node) := by
    have hadd := addTask_grows { db with nextId := db.nextId + 1 } node.id
      (.createToolSession db.nextId)
    exact ⟨(Nat.le_succ _).trans hadd.nextId, hadd.works, hadd.receipts⟩
  have hbooks : (withSession db account r node).Books := by
    have hadd := (hdb.books.congr rfl rfl (Nat.le_succ _) :
      Books { db with nextId := db.nextId + 1 }).addTask node.id
        (w := .createToolSession db.nextId) (hdb.books.fresh rfl) ?_ (fun _ h => by cases h)
    · exact hadd.congr rfl rfl le_rfl
    · rintro id hid
      obtain rfl := Option.mem_some_iff.mp hid
      exact Nat.le_succ _
  have hstatus : (withSession db account r node).account.status = db.account.status :=
    flushColumn_self _ _
  have hmigrations : ∀ w ∈ (withSession db account r node).works, w.migration?.isSome →
      w ∈ db.works := by
    intro w hw hmigration
    rcases hworks w hw with hold | rfl
    · exact hold
    · cases hmigration
  have hturns : db.accountTurns ≠ (withSession db account r node).accountTurns := by
    have hle : db.accountTurns ≤
        if { account with
              runtimeBackend := some (account.runtimeBackend.getD node.defaultRuntimeBackend)
              affinityNodeId := some node.id } = account then db.accountTurns
        else db.accountTurns + 1 := by
      split_ifs
      · exact le_rfl
      · exact Nat.le_succ _
    exact (Nat.lt_succ_of_le hle).ne
  refine ⟨?_, ?_⟩
  · exact hgrows.sound hbooks hmigrations (fun w _ hw => absurd hw (hout w))
      (fun w hw => absurd hw (hout w))
      (fun hs => by
        obtain ⟨w, hw⟩ := hdb.migrating (hstatus.symm.trans hs)
        exact absurd hw (hout w)) hdb.previous
  · exact
      { toGrows := hgrows
        userTurns := Nat.le_succ _
        accountTurns := by
          unfold withSession releaseUser releaseAccount addTask flushAccount
          dsimp only
          split_ifs <;> omega
        account := fun h => absurd h hturns
        migrations := fun h => absurd h hturns
        sessions := turn_ne rfl
        guarded := turn_ne rfl
        results := turn_ne rfl
        migrating := turn_ne rfl }

section

variable (hdb : db.Sound) (hseen : ∀ i, (seen i).Sound) (hcurrent : ∀ i, (seen i).Follows db)

include hdb hseen hcurrent

lemma createSession_kept {r : CreateSession} (h : createSession settings seen db r = .ok db') :
    Kept db db' := by
  obtain ⟨node, managed, hsettled, -, rfl⟩ := createSession_eq_ok h
  exact withSession_kept hdb
    ((userLocked_view hdb hseen hcurrent 2).none_outstanding hsettled) _ r node

end

/-! ### Accounts and bindings -/

lemma AccountView.refl (hdb : db.Sound) : AccountView db db := ⟨hdb, .refl db, rfl⟩

/-- A commit under the account row that writes the profile as it was read under that row. -/
lemma AccountView.kept {v : AccountDb} (hview : AccountView v a) (hgrows : a.Grows b)
    (hbooks : b.Books) (hworks : ∀ w ∈ b.works, w.taskId.ofBinding = false → w ∈ a.works)
    (hreceipts : ∀ r ∈ b.receipts, r.taskId.ofBinding = false → r ∈ a.receipts)
    (hsessions : b.sessions = a.sessions) (huser : b.userTurns = a.userTurns)
    (hturns : b.accountTurns = a.accountTurns + 1)
    (hprofile : b.profile.runtimeMigration = v.profile.runtimeMigration)
    (hstatus : b.account.status = .migrating → a.account.status = .migrating)
    (ha : a.Sound) : Kept a b := by
  have hne : ∀ {P : Prop}, a.accountTurns = b.accountTurns → P := fun h =>
    absurd (h.trans hturns) (Nat.succ_ne_self _).symm
  refine ⟨hgrows.sound hbooks (fun w hw h => hworks w hw (guarded_of_migration h))
    (fun w _ hw => ?_) (fun w hw => (Calm.of_eq hsessions).empty (ha.still w hw)) (fun hs => ?_) ?_,
    ?_⟩
  · have hheld := hview.sound.held w (hview.follows.outstanding_account hview.turns hw)
    unfold holds at hheld ⊢
    rwa [hprofile]
  · obtain ⟨w, hw⟩ := ha.migrating (hstatus hs)
    exact ⟨w, hgrows.outstanding_of_aside
      (fun w hw hruntime => .inl (hworks w hw (guarded_of_runtime hruntime)))
      (fun r hr hruntime _ => hreceipts r hr (guarded_of_runtime hruntime)) hw⟩
  · rw [hprofile]
    exact hview.sound.previous
  · exact
      { toGrows := hgrows
        userTurns := huser.ge
        accountTurns := hturns ▸ Nat.le_succ _
        account := hne
        migrations := hne
        sessions := fun _ => hsessions
        guarded := fun _ => hworks
        results := fun _ => hreceipts
        migrating := fun _ => hstatus }

lemma disableAccount_eq_ok {userId accountId : Uuid}
    (h : disableAccount db userId accountId = .ok db') :
    db' = releaseAccount { db with account := { db.account with status := .disabled } } := by
  unfold disableAccount at h
  obtain ⟨-, -, h⟩ := bind_eq_ok.mp h
  exact (Except.ok.inj h).symm

lemma disableAccount_kept (hdb : db.Sound) {userId accountId : Uuid}
    (h : disableAccount db userId accountId = .ok db') : Kept db db' := by
  rw [disableAccount_eq_ok h]
  exact (AccountView.refl hdb).kept ⟨le_rfl, List.prefix_refl _, List.prefix_refl _⟩
    (hdb.books.congr rfl rfl le_rfl) (fun _ hw _ => hw) (fun _ hr _ => hr) rfl rfl rfl rfl
    (fun h => by cases h) hdb

lemma updateAccount_eq_ok {r : UpdateAccount} (h : updateAccount seen db r = .ok db') :
    (∀ status ∈ r.status, status ∈ manualStatuses) ∧
      db' = flushAccount db (seen 0).account { (seen 0).account with
        status := r.status.getD (seen 0).account.status
        regionCode := r.regionCode.getD (seen 0).account.regionCode
        preferredNodeTags := r.preferredNodeTags.getD (seen 0).account.preferredNodeTags } := by
  unfold updateAccount at h
  obtain ⟨-, -, h⟩ := bind_eq_ok.mp h
  rw [reject_bind_eq_ok] at h
  obtain ⟨hstatus, h⟩ := h
  exact ⟨fun status hs => by_contra fun hne => hstatus ⟨status, hs, hne⟩,
    (Except.ok.inj h).symm⟩

/-- A status that users set is not that of a migration. -/
lemma manual_ne_migrating {status : AccountStatus} (h : status ∈ manualStatuses) :
    status ≠ .migrating := by
  rintro rfl
  revert h
  decide

/-- A commit that writes columns of the account. -/
lemma flushAccount_kept (hdb : db.Sound) {copy new : ToolAccount}
    (hstatus : new.status = copy.status ∨ new.status ≠ .migrating) :
    Kept db (flushAccount db copy new) := by
  have hkept : (flushAccount db copy new).account.status = .migrating →
      db.account.status = .migrating := by
    intro h
    rcases flushColumn_cases copy.status new.status db.account.status with hs | ⟨hne, hs⟩
    · exact hs.symm.trans h
    · exact absurd (hs.symm.trans h) (hstatus.resolve_left hne)
  have hsame : db.accountTurns = (flushAccount db copy new).accountTurns → new = copy := by
    unfold flushAccount
    dsimp only
    intro h
    split_ifs at h with hnew
    · exact hnew
    · omega
  refine ⟨?_, ?_⟩
  · exact AccountDb.Grows.sound_of_same (a := db) (b := flushAccount db copy new)
      ⟨le_rfl, List.prefix_refl _, List.prefix_refl _⟩ hdb (hdb.books.congr rfl rfl le_rfl)
      (fun _ hw _ => hw) (fun _ hr _ => hr) rfl hkept (.of_eq rfl)
  · exact
      { nextId := le_rfl
        works := List.prefix_refl _
        receipts := List.prefix_refl _
        userTurns := le_rfl
        accountTurns := by
          unfold flushAccount
          dsimp only
          split_ifs <;> omega
        account := fun h => by
          obtain rfl := hsame h
          exact flushed_self _ _
        migrations := fun _ _ hw _ => hw
        sessions := fun _ => rfl
        guarded := fun _ _ hw _ => hw
        results := fun _ _ hr _ => hr
        migrating := fun _ => hkept }

lemma updateAccount_kept (hdb : db.Sound) {r : UpdateAccount}
    (h : updateAccount seen db r = .ok db') : Kept db db' := by
  obtain ⟨hmanual, rfl⟩ := updateAccount_eq_ok h
  refine flushAccount_kept hdb ?_
  cases hs : r.status with
  | none => exact .inl rfl
  | some status => exact .inr (manual_ne_migrating (hmanual status hs))

/-- What `startBinding` leaves. -/
def withBinding (db : AccountDb) (profile : Profile) (node : Node) : AccountDb :=
  let runtimeBackend := db.account.runtimeBackend.getD node.defaultRuntimeBackend
  let work := Work.createBindingSession db.nextId
  let db := { db with
    account := { db.account with
      affinityNodeId := some node.id
      runtimeBackend := some runtimeBackend
      status := .bindingSessionStarting }
    profile := { profile with bindingTaskId := some work.taskId, verificationTaskId := none } }
  releaseUser (releaseAccount (addTask db node.id work))

lemma requireLegacyAccountWriter_eq_ok {around : Surroundings} {profile : Profile}
    (h : requireLegacyAccountWriter around profile = .ok ()) : profile.settled = true := by
  unfold requireLegacyAccountWriter at h
  rw [reject_bind_eq_ok] at h
  exact requireRuntimeMigrationSettled_eq_ok h.2

lemma startBinding_eq_ok {r : StartBinding} (h : startBinding settings seen db r = .ok db') :
    ∃ node, (userLocked seen db 1).profile.settled = true ∧
      db' = withBinding db (userLocked seen db 1).profile node := by
  unfold startBinding at h
  obtain ⟨-, -, h⟩ := bind_eq_ok.mp h
  obtain ⟨⟨⟩, hlegacy, h⟩ := bind_eq_ok.mp h
  obtain ⟨-, -, h⟩ := bind_eq_ok.mp h
  obtain ⟨node, -, h⟩ := bind_eq_ok.mp h
  rw [reject_bind_eq_ok] at h
  exact ⟨node, requireLegacyAccountWriter_eq_ok hlegacy, (Except.ok.inj h.2).symm⟩

lemma withBinding_kept (hdb : db.Sound) (hout : ∀ w, ¬db.Outstanding w) {v : AccountDb}
    (hv : v.Sound) (node : Node) : Kept db (withBinding db v.profile node) := by
  have hworks : ∀ w ∈ (withBinding db v.profile node).works,
      w ∈ db.works ∨ w = .createBindingSession db.nextId := by
    intro w hw
    have hadd : w ∈ (addTask db node.id (.createBindingSession db.nextId)).works := hw
    exact mem_addTask_works hadd
  have hgrows : db.Grows (withBinding db v.profile node) := by
    have hadd := addTask_grows db node.id (.createBindingSession db.nextId)
    exact ⟨hadd.nextId, hadd.works, hadd.receipts⟩
  have hbooks : (withBinding db v.profile node).Books := by
    have hadd := hdb.books.addTask node.id (w := .createBindingSession db.nextId)
      (hdb.books.fresh rfl) ?_ (fun _ h => by cases h)
    · exact hadd.congr rfl rfl le_rfl
    · rintro id hid
      obtain rfl := Option.mem_some_iff.mp hid
      exact le_rfl
  have hmigrations : ∀ w ∈ (withBinding db v.profile node).works, w.migration?.isSome →
      w ∈ db.works := by
    intro w hw hmigration
    rcases hworks w hw with hold | rfl
    · exact hold
    · cases hmigration
  have hne : ∀ {P : Prop}, db.accountTurns = (withBinding db v.profile node).accountTurns → P :=
    fun h => absurd h (Nat.succ_ne_self _).symm
  refine ⟨?_, ?_⟩
  · exact hgrows.sound hbooks hmigrations (fun w _ hw => absurd hw (hout w))
      (fun w hw => absurd hw (hout w)) (fun h => by cases h) hv.previous
  · exact
      { toGrows := hgrows
        userTurns := Nat.le_succ _
        accountTurns := Nat.le_succ _
        account := hne
        migrations := hne
        sessions := turn_ne rfl
        guarded := turn_ne rfl
        results := turn_ne rfl
        migrating := turn_ne rfl }

/-- What `verifyBinding` leaves. -/
def withVerification (db : AccountDb) (profile : Profile) (node : Node) : AccountDb :=
  let work := Work.verifyToolAccount db.nextId
  let db := { db with
    account := { db.account with status := .bindingVerifying }
    profile := { profile with verificationTaskId := some work.taskId } }
  releaseAccount (addTask db node.id work)

lemma verifyBinding_eq_ok {userId accountId : Uuid}
    (h : verifyBinding seen db userId accountId = .ok db') :
    ∃ node, db' = withVerification db (accountLocked seen db 0).profile node := by
  unfold verifyBinding at h
  obtain ⟨-, -, h⟩ := bind_eq_ok.mp h
  rw [reject_bind_eq_ok] at h
  replace h := h.2
  dsimp only at h
  split at h
  · cases h
  · next node _ => exact ⟨node, (Except.ok.inj h).symm⟩

lemma withVerification_kept (hdb : db.Sound) {v : AccountDb} (hview : AccountView v db)
    (node : Node) : Kept db (withVerification db v.profile node) := by
  have hadd := addTask_grows db node.id (.verifyToolAccount db.nextId)
  refine AccountView.kept (b := withVerification db v.profile node) hview
    ⟨hadd.nextId, hadd.works, hadd.receipts⟩ ?_ (fun w hw hguarded => ?_) (fun _ hr _ => hr) rfl
    rfl rfl rfl (fun h => by cases h) hdb
  · have hbooks := hdb.books.addTask node.id (w := .verifyToolAccount db.nextId)
      (hdb.books.fresh rfl) ?_ (fun _ h => by cases h)
    · exact hbooks.congr rfl rfl le_rfl
    · rintro id hid
      obtain rfl := Option.mem_some_iff.mp hid
      exact le_rfl
  · have hmem : w ∈ (addTask db node.id (.verifyToolAccount db.nextId)).works := hw
    rcases mem_addTask_works hmem with hold | rfl
    · exact hold
    · cases hguarded

/-! ### Results for bindings -/

/-- The receipts that `settleTask` adds. -/
lemma settleTask_rewrites {copy : NodeTask} {r : Report} (hbinding : copy.taskId.ofBinding)
    (hcopy : copy.work ∈ db.works) (view : AccountDb) :
    ∃ rs, Rewrites (statusWritten copy r.outcome.status) rs db
      (settleTask db view copy r) ∧ ∀ result ∈ rs, result.taskId.ofBinding := by
  have hended : ∀ rs : List NodeTaskResult, ∀ t ∈ db.tasks, t.taskId.ofBinding = false →
      (statusWritten copy r.outcome.status t).status.terminal →
        t.status.terminal ∨ ∃ r ∈ rs, r.taskId = t.taskId := by
    intro rs t _ hguarded hterminal
    rcases statusWritten_cases copy r.outcome.status t with hsame | ⟨hid, -⟩
    · rw [hsame] at hterminal
      exact .inl hterminal
    · rw [hid, hbinding] at hguarded
      cases hguarded
  unfold settleTask
  dsimp only
  by_cases hseen : (view.receipt copy.taskId).isSome
  · rw [if_pos hseen]
    exact ⟨[], ⟨rfl, (List.append_nil _).symm, rfl, fun t _ => statusWritten_work _ _ t,
      hended _, List.forall_mem_nil _⟩, List.forall_mem_nil _⟩
  · rw [if_neg hseen]
    refine ⟨_, ⟨rfl, rfl, rfl, fun t _ => statusWritten_work _ _ t, hended _, fun result h => ?_⟩,
      fun result h => ?_⟩
    · rw [List.mem_singleton.mp h]
      exact List.mem_map_of_mem hcopy
    · rw [List.mem_singleton.mp h]
      exact hbinding

lemma bindingApplied_status (work : Work) (r : Report) (account : ToolAccount) :
    (bindingApplied work r account).status ≠ .migrating := by
  unfold bindingApplied
  split
  · dsimp only
    split_ifs <;> simp
  · dsimp only
    split_ifs <;> simp
  · simp

lemma reportBinding_kept (hdb : db.Sound) (hview : AccountView (accountLocked seen db 2) db)
    {task : NodeTask} {r : Report} (hbinding : task.taskId.ofBinding) (htask : task.work ∈ db.works) :
    Kept db (reportBinding seen db task r) := by
  obtain ⟨rs, hrewrites, hrs⟩ := settleTask_rewrites (r := r) hbinding htask (seen 1)
  have hgrows := hrewrites.grows
  have hbooks := hrewrites.books hdb.books
  have hworks : ∀ w ∈ (settleTask db (seen 1) task r).works, w.taskId.ofBinding = false →
      w ∈ db.works := fun w hw _ => hrewrites.works ▸ hw
  have hreceipts : ∀ result ∈ (settleTask db (seen 1) task r).receipts,
      result.taskId.ofBinding = false → result ∈ db.receipts := by
    intro result h hguarded
    rw [hrewrites.receipts] at h
    rcases List.mem_append.mp h with hold | hnew
    · exact hold
    · rw [hrs result hnew] at hguarded
      cases hguarded
  have hrest : (settleTask db (seen 1) task r).sessions = db.sessions ∧
      (settleTask db (seen 1) task r).userTurns = db.userTurns ∧
      (settleTask db (seen 1) task r).accountTurns = db.accountTurns ∧
      (settleTask db (seen 1) task r).account = db.account ∧
      (settleTask db (seen 1) task r).profile = db.profile := by
    unfold settleTask
    dsimp only
    by_cases hseen : ((seen 1).receipt task.taskId).isSome
    · rw [if_pos hseen]
      exact ⟨rfl, rfl, rfl, rfl, rfl⟩
    · rw [if_neg hseen]
      exact ⟨rfl, rfl, rfl, rfl, rfl⟩
  obtain ⟨hsessions, huser, hturns, haccount, hprofile⟩ := hrest
  unfold reportBinding
  dsimp only
  split_ifs with hskip
  · exact AccountView.kept (b := releaseAccount _) (AccountView.refl hdb)
      ⟨hgrows.nextId, hgrows.works, hgrows.receipts⟩ (hbooks.congr rfl rfl le_rfl) hworks hreceipts
      hsessions huser (congrArg Nat.succ hturns) (congrArg Profile.runtimeMigration hprofile)
      (fun hs => (congrArg ToolAccount.status haccount).symm.trans hs) hdb
  · exact AccountView.kept (b := releaseAccount _) hview
      ⟨hgrows.nextId, hgrows.works, hgrows.receipts⟩ (hbooks.congr rfl rfl le_rfl) hworks hreceipts
      hsessions huser (congrArg Nat.succ hturns) rfl
      (fun hs => absurd hs (bindingApplied_status _ _ _)) hdb

end AgentRemote.AccountRuntime
