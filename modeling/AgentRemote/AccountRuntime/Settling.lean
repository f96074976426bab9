import AgentRemote.AccountRuntime.Operations

/-!
# Starting and settling migrations

The operations that start a migration, ask for a recovery and take their results. Each finds,
under the usage row, that no other migration is outstanding.
-/

namespace AgentRemote.AccountRuntime
open Library PortForwards Runtimes AccountDb

variable {settings : AccountSettings} {seen : ℕ → AccountDb} {a b db db' : AccountDb}

/-! ### Starting -/

/-- What `migrateRuntime` leaves. -/
def withMigration (db : AccountDb) (copy : ToolAccount) (profile : Profile) (node : Node)
    (payload : MigrationPayload) : AccountDb :=
  let work := Work.migrateToolAccountRuntime db.nextId payload
  let db := flushAccount db copy { copy with status := .migrating }
  let migration := startedMigration work.taskId payload copy.status
  let db := { db with profile := { profile with runtimeMigration := some migration } }
  releaseUser (addTask db node.id work)

lemma migrateRuntime_eq_ok {r : MigrateRuntime} (h : migrateRuntime seen db r = .ok db') :
    ∃ source node, (userLocked seen db 2).profile.settled = true ∧
      (userLocked seen db 1).account.runtimeBackend = some source ∧ r.targetBackend ≠ source ∧
      (userLocked seen db 3).unfinishedSessions = [] ∧
      db' = withMigration db (userLocked seen db 1).account (userLocked seen db 2).profile node
        ⟨(userLocked seen db 1).account.id, (userLocked seen db 1).account.userId,
          (userLocked seen db 1).account.toolType, source, r.targetBackend⟩ := by
  unfold migrateRuntime at h
  rw [reject_bind_eq_ok] at h
  obtain ⟨⟨⟩, hlegacy, h⟩ := bind_eq_ok.mp h.2
  dsimp only at h
  split at h
  · cases h
  · next source hsource =>
    rw [reject_bind_eq_ok] at h
    obtain ⟨htarget, h⟩ := h
    rw [reject_bind_eq_ok] at h
    obtain ⟨hsessions, h⟩ := h
    obtain ⟨node, -, h⟩ := bind_eq_ok.mp h
    exact ⟨source, node, requireLegacyAccountWriter_eq_ok hlegacy,
      (Option.filter_eq_some_iff.mp hsource).1, fun hsame => htarget (.inr hsame),
      not_not.mp hsessions, (Except.ok.inj h).symm⟩

/-- A new migration is outstanding. -/
lemma withMigration_outstanding (hdb : db.Sound) (copy : ToolAccount) (profile : Profile)
    (node : Node) (payload : MigrationPayload) :
    (withMigration db copy profile node payload).Outstanding
      (.migrateToolAccountRuntime db.nextId payload) := by
  have hfresh : TaskName.migrateToolAccountRuntime db.nextId ∉ db.works.map Work.taskId :=
    hdb.books.fresh rfl
  constructor
  · have hadd : Work.migrateToolAccountRuntime db.nextId payload ∈
        (addTask db node.id (.migrateToolAccountRuntime db.nextId payload)).works := by
      unfold addTask works
      rw [List.map_append]
      exact List.mem_append_right _ (List.mem_singleton_self _)
    exact hadd
  · rfl
  · rintro ⟨r, hr, hname, -⟩
    have hknown := hdb.books.known r hr
    rw [hname] at hknown
    exact hfresh hknown
  · intro w hw binding hbinding horiginal _
    have hadd : w ∈ (addTask db node.id (.migrateToolAccountRuntime db.nextId payload)).works := hw
    rcases mem_addTask_works hadd with hold | rfl
    · obtain ⟨r, hr, hname⟩ := hdb.books.original w hold binding hbinding
      have hknown := hdb.books.known r hr
      rw [hname, horiginal] at hknown
      exact hfresh hknown
    · cases hbinding

lemma withMigration_kept (hdb : db.Sound) (hout : ∀ w, ¬db.Outstanding w)
    (hsessions : db.activeSessions = []) {copy : ToolAccount} (hcopy : copy.status ≠ .migrating)
    (profile : Profile) (node : Node) (payload : MigrationPayload) :
    Kept db (withMigration db copy profile node payload) := by
  have hadd := addTask_grows db node.id (.migrateToolAccountRuntime db.nextId payload)
  have hgrows : db.Grows (withMigration db copy profile node payload) :=
    ⟨hadd.nextId, hadd.works, hadd.receipts⟩
  have hturns : (withMigration db copy profile node payload).accountTurns = db.accountTurns + 1 := by
    refine if_neg fun hsame => hcopy ?_
    exact (congrArg ToolAccount.status hsame).symm
  have hne : ∀ {P : Prop},
      db.accountTurns = (withMigration db copy profile node payload).accountTurns → P := fun h =>
    absurd (h.trans hturns) (Nat.succ_ne_self _).symm
  refine ⟨⟨?_, fun w hw => ?_, fun _ _ => hsessions, fun _ => ?_, fun m hm => ?_⟩, ?_⟩
  · have hbooks := hdb.books.addTask node.id
      (w := .migrateToolAccountRuntime db.nextId payload) (hdb.books.fresh rfl) ?_ (fun _ h => by cases h)
    · exact hbooks.congr rfl rfl le_rfl
    · rintro id hid
      obtain rfl := Option.mem_some_iff.mp hid
      exact le_rfl
  · have hmem : w ∈ (addTask db node.id (.migrateToolAccountRuntime db.nextId payload)).works :=
      hw.mem
    rcases mem_addTask_works hmem with hold | rfl
    · exact absurd (hgrows.outstanding hold hw) (hout w)
    · refine ⟨_, rfl, rfl, rfl, fun payload' hpayload => ?_⟩
      obtain rfl := Option.mem_some_iff.mp hpayload
      exact ⟨rfl, rfl⟩
  · exact ⟨_, withMigration_outstanding hdb copy profile node payload⟩
  · obtain rfl := Option.mem_some_iff.mp hm
    exact hcopy
  · exact
      { toGrows := hgrows
        userTurns := Nat.le_succ _
        accountTurns := hturns ▸ Nat.le_succ _
        account := hne
        migrations := hne
        sessions := turn_ne rfl
        guarded := turn_ne rfl
        results := turn_ne rfl
        migrating := turn_ne rfl }

lemma activeSessions_of_unfinished (h : db.unfinishedSessions = []) : db.activeSessions = [] := by
  rw [List.eq_nil_iff_forall_not_mem]
  intro s hs
  obtain ⟨hmem, hstarted⟩ := List.mem_filter.mp hs
  have hunfinished : s ∈ db.unfinishedSessions :=
    List.mem_filter.mpr ⟨hmem, decide_eq_true (.inl hstarted)⟩
  rw [h] at hunfinished
  cases hunfinished

lemma UserView.activeSessions {v : AccountDb} (hview : UserView v db) :
    db.activeSessions = v.activeSessions := by
  unfold AccountDb.activeSessions
  rw [hview.follows.sessions hview.turns]

section

variable (hdb : db.Sound) (hseen : ∀ i, (seen i).Sound) (hcurrent : ∀ i, (seen i).Follows db)

include hdb hseen hcurrent

/-- When the profile tells that migrations are settled, the account read before is not in one. -/
lemma copy_ne_migrating (i : ℕ) {j : ℕ} (hsettled : (userLocked seen db j).profile.settled = true) :
    (userLocked seen db i).account.status ≠ .migrating := by
  intro hstatus
  have hview := userLocked_view hdb hseen hcurrent i
  obtain ⟨w, hw⟩ := hview.sound.migrating hstatus
  exact (userLocked_view hdb hseen hcurrent j).none_outstanding hsettled w
    (hview.follows.outstanding_of_user hview.turns hw)

lemma migrateRuntime_kept {r : MigrateRuntime} (h : migrateRuntime seen db r = .ok db') :
    Kept db db' := by
  obtain ⟨source, node, hsettled, -, -, hsessions, rfl⟩ := migrateRuntime_eq_ok h
  refine withMigration_kept hdb
    ((userLocked_view hdb hseen hcurrent 2).none_outstanding hsettled) ?_
    (copy_ne_migrating hdb hseen hcurrent 1 hsettled) _ node _
  rw [(userLocked_view hdb hseen hcurrent 3).activeSessions]
  exact activeSessions_of_unfinished hsessions

end

/-! ### Results of migrations -/

/-- A column that was not that of a migration, or no longer is. -/
lemma flushed_ne_migrating {copy new current : ToolAccount}
    (hcopy : current.status = .migrating → copy.status = .migrating)
    (hnew : new.status ≠ .migrating) : (flushed copy new current).status ≠ .migrating := by
  have hcolumn : flushColumn copy.status new.status current.status ≠ .migrating := by
    unfold flushColumn
    split_ifs with hsame
    · exact fun hcurrent => hnew (hsame.trans (hcopy hcurrent))
    · exact hnew
  exact hcolumn

/-- A result of a migration or a recovery, with what it leaves of the account and the profile. -/
structure Settles (db : AccountDb) (task : NodeTask) (r : Report) (copy new : ToolAccount)
    (profile : Profile) (m m' : RuntimeMigration) : Prop where
  known : task.work ∈ db.works
  runtime : task.taskId.ofRuntime = true
  profile : profile.runtimeMigration = some m
  taskId : m'.taskId = m.taskId
  source : m'.sourceRuntimeBackend = m.sourceRuntimeBackend
  target : m'.targetRuntimeBackend = m.targetRuntimeBackend
  previous : m'.previousStatus = m.previousStatus
  unsettled : r.outcome = .failed → m'.status.settled = false
  statusKept : r.outcome = .succeeded → new.status =
    if copy.status = .migrating then m.previousStatus else copy.status

/-- What a result of a migration or a recovery leaves is sound. -/
lemma Settles.kept {task : NodeTask} {r : Report} {copy new : ToolAccount} {v : AccountDb}
    {m m' : RuntimeMigration} (h : Settles db task r copy new v.profile m m') (hdb : db.Sound)
    (hview : UserView v db)
    (hcopy : db.account.status = .migrating → copy.status = .migrating)
    (hsettled : r.outcome = .succeeded →
      ∀ w, w.taskId = m.taskId →
        ¬(writeMigration (finishTask db task r) copy new v.profile m').Outstanding w)
    (hfailed : r.outcome = .failed → (flushed copy new db.account).status = .migrating →
      ∃ w, (writeMigration (finishTask db task r) copy new v.profile m').Outstanding w) :
    Kept db (writeMigration (finishTask db task r) copy new v.profile m') := by
  obtain ⟨rs, hrewrites, hrs⟩ := finishTask_rewrites h.known r
  have hgrows : db.Grows (writeMigration (finishTask db task r) copy new v.profile m') :=
    ⟨hrewrites.grows.nextId, hrewrites.grows.works, hrewrites.grows.receipts⟩
  have hworks : ∀ w ∈ (writeMigration (finishTask db task r) copy new v.profile m').works,
      w ∈ db.works := fun w hw => by
    have hmem : w ∈ (finishTask db task r).works := hw
    rwa [hrewrites.works] at hmem
  have hm : m.previousStatus ≠ .migrating := hview.sound.previous m h.profile
  refine ⟨⟨(hrewrites.books hdb.books).congr rfl rfl le_rfl, fun w hw => ?_, fun w hw => ?_,
    fun hs => ?_, fun m'' hm'' => ?_⟩, ?_⟩
  · have hout := hgrows.outstanding (hworks w hw.mem) hw
    obtain ⟨m₀, hm₀, htaskId, -, hpayload⟩ :=
      hview.sound.held w (hview.follows.outstanding_user hview.turns hout)
    rw [h.profile] at hm₀
    obtain rfl := Option.mem_some_iff.mp hm₀
    cases houtcome : r.outcome with
    | succeeded => exact absurd hw (hsettled houtcome w htaskId.symm)
    | failed =>
      refine ⟨m', rfl, h.taskId.trans htaskId, h.unsettled houtcome, fun payload hp => ?_⟩
      rw [h.source, h.target]
      exact hpayload payload hp
  · exact hdb.still w (hgrows.outstanding (hworks w hw.mem) hw)
  · cases houtcome : r.outcome with
    | succeeded =>
      refine absurd hs (flushed_ne_migrating hcopy ?_)
      rw [h.statusKept houtcome]
      split_ifs with hc
      · exact hm
      · exact hc
    | failed => exact hfailed houtcome hs
  · obtain rfl := Option.mem_some_iff.mp hm''
    rw [h.previous]
    exact hm
  · have hsame : db.accountTurns =
        (writeMigration (finishTask db task r) copy new v.profile m').accountTurns → new = copy := by
      unfold writeMigration flushAccount releaseUser finishTask
      dsimp only
      intro hturns
      split_ifs at hturns with hnew
      · exact hnew
      · omega
    exact
      { toGrows := hgrows
        userTurns := Nat.le_succ _
        accountTurns := by
          unfold writeMigration flushAccount releaseUser finishTask
          dsimp only
          split_ifs <;> omega
        account := fun hturns => by
          obtain rfl := hsame hturns
          exact flushed_self _ _
        migrations := fun _ w hw _ => hworks w hw
        sessions := turn_ne rfl
        guarded := turn_ne rfl
        results := turn_ne rfl
        migrating := turn_ne rfl }

/-- A migration task still finds its migration in the profile. -/
structure Original (task : NodeTask) (payload : MigrationPayload) (account : ToolAccount)
    (profile : Profile) (m : RuntimeMigration) : Prop where
  profile : profile.runtimeMigration = some m
  taskId : m.taskId = task.taskId
  source : m.sourceRuntimeBackend = payload.sourceRuntimeBackend
  target : m.targetRuntimeBackend = payload.targetRuntimeBackend
  status : m.status = .pending
  backend : account.runtimeBackend = some payload.sourceRuntimeBackend
  differ : payload.sourceRuntimeBackend ≠ payload.targetRuntimeBackend

lemma originalMigration_eq_ok {task : NodeTask} {payload : MigrationPayload} {account : ToolAccount}
    {profile : Profile} {m : RuntimeMigration}
    (h : originalMigration task payload account profile = .ok m) :
    Original task payload account profile m := by
  unfold originalMigration at h
  rw [reject_bind_eq_ok] at h
  obtain ⟨hchecks, h⟩ := h
  rw [reject_bind_eq_ok] at h
  obtain ⟨hbackends, h⟩ := h
  push Not at hchecks hbackends
  split at h
  · cases h
  · next m' hm =>
    obtain rfl := Except.ok.inj h
    obtain ⟨hprofile, hof⟩ := Option.filter_eq_some_iff.mp hm
    obtain ⟨hisOf, hstatus⟩ := of_decide_eq_true hof
    obtain ⟨htaskId, hsource, htarget⟩ := of_decide_eq_true hisOf
    exact ⟨hprofile, htaskId, hsource, htarget, hstatus, hchecks.2.2.2.2.1, hbackends.2.2⟩

/-- What a report of a migration finds, and leaves when it is the first. -/
lemma reportMigration_cases {task : NodeTask} {payload : MigrationPayload} {r : Report}
    (h : reportMigration settings seen db task payload r = .ok db') : db' = releaseUser db ∨
      ∃ copy m, copy ∈ (userLocked seen db 1).tasks ∧ copy.work = task.work ∧
        (userLocked seen db 2).receipt task.taskId = none ∧
        Original copy payload (userLocked seen db 3).account (userLocked seen db 4).profile m ∧
        (r.outcome = .succeeded → provesTarget settings.uuid payload r.value = true) ∧
        db' = writeMigration (finishTask db copy r) (userLocked seen db 3).account
          (migrationApplied r.outcome (userLocked seen db 3).account m payload).1
          (userLocked seen db 4).profile
          (migrationApplied r.outcome (userLocked seen db 3).account m payload).2 := by
  unfold reportMigration at h
  dsimp only at h
  split at h
  · cases h
  · next copy hcopy =>
    obtain ⟨hlookup, hsame⟩ := Option.filter_eq_some_iff.mp hcopy
    have hwork : copy.work = task.work := (of_decide_eq_true hsame).2
    have hname : copy.taskId = task.taskId := congrArg Work.taskId hwork
    split at h
    · rw [reject_bind_eq_ok] at h
      exact .inl (Except.ok.inj h.2).symm
    · next hnone =>
      obtain ⟨m, hm, h⟩ := bind_eq_ok.mp h
      rw [reject_bind_eq_ok] at h
      obtain ⟨hproves, h⟩ := h
      refine .inr ⟨copy, m, (getTask_eq_some hlookup).1, hwork, hname ▸ hnone,
        originalMigration_eq_ok hm, fun hs => ?_, (Except.ok.inj h).symm⟩
      by_contra hne
      exact hproves ⟨hs, by rwa [Bool.not_eq_true] at hne⟩

/-- A task that has no receipt under the usage row has none at the commit. -/
lemma UserView.not_reported {v : AccountDb} (hview : UserView v db) {name : TaskName}
    (hruntime : name.ofRuntime = true) (h : v.receipt name = none) : ¬db.reported name := by
  rintro ⟨r, hr, hname⟩
  refine receipt_eq_none h ⟨r, hview.follows.results hview.turns r hr ?_, hname⟩
  rw [hname]
  exact guarded_of_runtime hruntime

lemma finishTask_receipts {task : NodeTask} {r : Report} {result : NodeTaskResult}
    (h : result ∈ (finishTask db task r).receipts) :
    result ∈ db.receipts ∨ result.taskId = task.taskId ∧ result.status = r.outcome := by
  rcases List.mem_append.mp h with hold | hnew
  · exact .inl hold
  · rw [List.mem_singleton.mp hnew]
    exact .inr ⟨rfl, rfl⟩

lemma finishTask_works (db : AccountDb) (task : NodeTask) (r : Report) :
    (finishTask db task r).works = db.works := by
  unfold finishTask works
  rw [List.map_map]
  refine List.map_congr_left fun t _ => ?_
  unfold finished
  dsimp only [Function.comp]
  split_ifs <;> rfl

/-- A migration without a receipt is outstanding. -/
lemma AccountDb.Sound.outstanding (hdb : db.Sound) {w : Work} (hw : w ∈ db.works)
    (hmigration : w.migration?.isSome) (hreported : ¬db.reported w.taskId) : db.Outstanding w where
  mem := hw
  migration := hmigration
  unproved := by
    rintro ⟨r, hr, hname, -⟩
    exact hreported ⟨r, hr, hname⟩
  unrecovered := by
    intro w' hw' binding hbinding horiginal _
    exact hreported (horiginal ▸ hdb.books.original w' hw' binding hbinding)

/-- A failed result of a migration or a recovery leaves migrations outstanding. -/
lemma outstanding_of_failed {task : NodeTask} {r : Report} (htask : task.work ∈ db.works)
    (hfailed : r.outcome = .failed) {w : Work} (hw : db.Outstanding w) (copy new : ToolAccount)
    (profile : Profile) (m : RuntimeMigration) :
    (writeMigration (finishTask db task r) copy new profile m).Outstanding w := by
  obtain ⟨rs, hrewrites, -⟩ := finishTask_rewrites htask r
  have hgrows : db.Grows (writeMigration (finishTask db task r) copy new profile m) :=
    ⟨hrewrites.grows.nextId, hrewrites.grows.works, hrewrites.grows.receipts⟩
  refine hgrows.outstanding_of_aside (fun w hw _ => .inl ?_) (fun result hresult _ hs => ?_) hw
  · have hmem : w ∈ (finishTask db task r).works := hw
    rwa [finishTask_works] at hmem
  · rcases finishTask_receipts hresult with hold | ⟨-, hstatus⟩
    · exact hold
    · rw [hstatus, hfailed] at hs
      cases hs

section

variable (hdb : db.Sound) (hseen : ∀ i, (seen i).Sound) (hcurrent : ∀ i, (seen i).Follows db)

include hdb hseen hcurrent

lemma reportMigration_kept {task : NodeTask} {payload : MigrationPayload} {r : Report}
    (hwork : task.work.migration? = some payload)
    (h : reportMigration settings seen db task payload r = .ok db') : Kept db db' := by
  rcases reportMigration_cases h with rfl | ⟨copy, m, hcopy, hsame, hnone, horiginal, -, rfl⟩
  · exact releaseUser_kept hdb
  · have hview := userLocked_view hdb hseen hcurrent 4
    have hname : copy.taskId = task.taskId := congrArg Work.taskId hsame
    have hmigration : copy.work.migration?.isSome := by
      rw [hsame, hwork]
      rfl
    have hmem : copy.work ∈ db.works :=
      (userLocked_view hdb hseen hcurrent 1).follows.works.subset (mem_works hcopy)
    have hruntime : copy.taskId.ofRuntime = true := runtime_of_migration hmigration
    have hreported : ¬db.reported copy.taskId :=
      (userLocked_view hdb hseen hcurrent 2).not_reported hruntime (hname ▸ hnone)
    have hstatus : db.account.status = .migrating →
        (userLocked seen db 3).account.status = .migrating :=
      (userLocked_view hdb hseen hcurrent 3).follows.migrating
        (userLocked_view hdb hseen hcurrent 3).turns
    refine Settles.kept (m := m) ?_ hdb hview hstatus (fun hs w hw hout => ?_) (fun hf _ => ?_)
    · cases houtcome : r.outcome with
      | succeeded =>
        exact ⟨hmem, hruntime, horiginal.profile, rfl, rfl, rfl, rfl,
          fun hf => (nomatch houtcome.symm.trans hf), fun _ => rfl⟩
      | failed =>
        exact ⟨hmem, hruntime, horiginal.profile, rfl, rfl, rfl, rfl, fun _ => rfl,
          fun hs => nomatch houtcome.symm.trans hs⟩
    · refine hout.unproved ⟨_, List.mem_append_right _ (List.mem_singleton_self _), ?_, hs⟩
      exact (hw.trans horiginal.taskId).symm
    · exact ⟨copy.work, outstanding_of_failed hmem hf (hdb.outstanding hmem hmigration hreported)
        _ _ _ _⟩

end

/-! ### Recoveries -/

/-- A recovery still finds its migration in the profile. -/
structure Current (original sessions : AccountDb) (binding : RuntimeRecoveryBinding)
    (account : ToolAccount) (profile : Profile) (m : RuntimeMigration) : Prop where
  original : ∃ t ∈ original.tasks, t.taskId = binding.originalTaskId ∧ t.status.terminal ∧
    t.work.migration? = some binding.payload
  profile : profile.runtimeMigration = some m
  taskId : m.taskId = binding.originalTaskId
  source : m.sourceRuntimeBackend = binding.payload.sourceRuntimeBackend
  target : m.targetRuntimeBackend = binding.payload.targetRuntimeBackend
  unsettled : m.status.settled = false
  backend : account.runtimeBackend = some binding.payload.sourceRuntimeBackend
  differ : binding.payload.sourceRuntimeBackend ≠ binding.payload.targetRuntimeBackend
  sessions : sessions.unfinishedSessions = []

lemma currentMigration_eq_ok {around : Surroundings} {original profile sessions : AccountDb}
    {binding : RuntimeRecoveryBinding} {account : ToolAccount} {m : RuntimeMigration}
    (h : currentMigration around original profile sessions binding account = .ok m) :
    Current original sessions binding account profile.profile m := by
  unfold currentMigration at h
  rw [reject_bind_eq_ok] at h
  obtain ⟨horiginal, h⟩ := h
  rw [reject_bind_eq_ok] at h
  obtain ⟨hchecks, h⟩ := h
  push Not at horiginal hchecks
  split at h
  · cases h
  · next m' hm =>
    rw [reject_bind_eq_ok] at h
    obtain ⟨-, h⟩ := h
    rw [reject_bind_eq_ok] at h
    obtain ⟨hsessions, h⟩ := h
    obtain rfl := Except.ok.inj h
    obtain ⟨hprofile, hof⟩ := Option.filter_eq_some_iff.mp hm
    obtain ⟨hisOf, hstatus⟩ := of_decide_eq_true hof
    obtain ⟨htaskId, hsource, htarget⟩ := of_decide_eq_true hisOf
    obtain ⟨t, ht, hsame⟩ := (Option.any_eq_true ..).mp horiginal
    obtain ⟨-, -, hended, hpayload⟩ := of_decide_eq_true hsame
    refine ⟨⟨t, (getTask_eq_some ht).1, (getTask_eq_some ht).2, ?_, hpayload⟩, hprofile, htaskId,
      hsource, htarget, hstatus, hchecks.2.2.2.2.1, hchecks.2.2.2.2.2, not_not.mp hsessions⟩
    rcases hended with hs | hs | hs
    all_goals
      rw [hs]
      rfl

lemma recoveryBinding_eq_ok {task : NodeTask} {binding : RuntimeRecoveryBinding}
    (h : recoveryBinding task = .ok binding) :
    task.work.recovery? = some binding ∧ binding.taskId = task.taskId ∧
      binding.nodeId = task.nodeId := by
  unfold recoveryBinding at h
  split at h
  · next requestId binding' hwork =>
    rw [reject_bind_eq_ok] at h
    obtain ⟨hchecks, h⟩ := h
    obtain rfl := Except.ok.inj h
    push Not at hchecks
    rw [hwork]
    exact ⟨rfl, hchecks.1, hchecks.2.2⟩
  · cases h

/-- What a recovery that is authorized finds. -/
lemma authorizeRecovery_eq_ok {around : Surroundings} {nodeId : Uuid} {taskId : TaskName}
    {task : NodeTask} {binding : RuntimeRecoveryBinding}
    (h : authorizeRecovery seen db around nodeId taskId = .ok (task, binding)) :
    db.getTask taskId = some task ∧ task.work.recovery? = some binding ∧
      requireLease task (seen 2).clock = .ok () ∧
      ∃ m, Current (userLocked seen db 3) (userLocked seen db 5) binding
          (userLocked seen db 1).account (userLocked seen db 4).profile m ∧
        m.recoveryTaskId = some taskId ∧ m.recoveryStatus = some .pending := by
  unfold authorizeRecovery at h
  dsimp only at h
  split at h
  · cases h
  · next observed hobserved =>
    obtain ⟨binding', hbinding, h⟩ := bind_eq_ok.mp h
    obtain ⟨-, -, h⟩ := bind_eq_ok.mp h
    split at h
    · cases h
    · next task' htask =>
      obtain ⟨⟨⟩, hlease, h⟩ := bind_eq_ok.mp h
      obtain ⟨m, hm, h⟩ := bind_eq_ok.mp h
      rw [reject_bind_eq_ok] at h
      obtain ⟨hpending, hrest⟩ := h
      push Not at hpending
      obtain ⟨rfl, rfl⟩ := Prod.mk.inj (Except.ok.inj hrest)
      obtain ⟨hlookup, hsame⟩ := Option.filter_eq_some_iff.mp htask
      have hwork := (of_decide_eq_true hsame).2
      refine ⟨hlookup, ?_, hlease, m, currentMigration_eq_ok hm, hpending⟩
      rw [hwork]
      exact (recoveryBinding_eq_ok hbinding).1

/-- What `submitRecovery` leaves when it adds a task. -/
def withRecovery (db : AccountDb) (profile : Profile) (m : RuntimeMigration) (r : RecoveryRequest)
    (nodeId : Uuid) (binding : RuntimeRecoveryBinding) : AccountDb :=
  let m := { m with
    recoveryTaskId := some (.recoverToolAccountRuntime r.requestId)
    recoveryStatus := some .pending }
  let db := { db with profile := { profile with runtimeMigration := some m } }
  releaseUser (addTask db nodeId (.recoverToolAccountRuntime r.requestId binding))

lemma submitRecovery_cases {accountId : Uuid} {r : RecoveryRequest}
    {expectedOriginal : Option RuntimeRecoveryOriginal} {around : Surroundings}
    (h : submitRecovery seen db accountId r expectedOriginal around = .ok db') :
    db' = releaseUser db ∨ ∃ binding m nodeId,
      (userLocked seen db 2).getTask (.recoverToolAccountRuntime r.requestId) = none ∧
      binding.originalTaskId = r.originalTaskId ∧
      Current (userLocked seen db 4) (userLocked seen db 6) binding (userLocked seen db 1).account
        (userLocked seen db 5).profile m ∧
      (∀ previous ∈ m.recoveryTaskId, ∃ t ∈ (userLocked seen db 7).tasks, t.taskId = previous ∧
        t.status.terminal) ∧
      db' = withRecovery db (userLocked seen db 5).profile m r nodeId binding := by
  unfold submitRecovery at h
  obtain ⟨-, -, h⟩ := bind_eq_ok.mp h
  dsimp only at h
  split at h
  · obtain ⟨binding, -, h⟩ := bind_eq_ok.mp h
    rw [reject_bind_eq_ok] at h
    exact .inl (Except.ok.inj h.2).symm
  · next hnone =>
    split at h
    · split_ifs at h
    · next original horiginal =>
      rw [reject_bind_eq_ok] at h
      replace h := h.2
      obtain ⟨payload, -, h⟩ := bind_eq_ok.mp h
      rw [reject_bind_eq_ok] at h
      replace h := h.2
      rw [reject_bind_eq_ok] at h
      obtain ⟨m, hm, h⟩ := bind_eq_ok.mp h.2
      rw [reject_bind_eq_ok] at h
      obtain ⟨hprior, h⟩ := h
      refine .inr ⟨_, m, _, hnone, (getTask_eq_some horiginal).2, currentMigration_eq_ok hm, ?_,
        (Except.ok.inj h).symm⟩
      intro previous hprevious
      rw [Option.mem_def.mp hprevious] at hprior
      have hany := not_not.mp fun hne => hprior (decide_eq_true hne)
      obtain ⟨t, ht, hterminal⟩ := (Option.any_eq_true ..).mp hany
      exact ⟨t, (getTask_eq_some ht).1, (getTask_eq_some ht).2, hterminal⟩

/-- A name that is not taken has no receipt. -/
lemma AccountDb.Sound.not_succeeded (hdb : db.Sound) {name : TaskName}
    (h : name ∉ db.works.map Work.taskId) : ¬db.succeeded name := by
  rintro ⟨r, hr, rfl, -⟩
  exact h (hdb.books.known r hr)

lemma withRecovery_kept (hdb : db.Sound) {v : AccountDb} (hview : UserView v db)
    {m : RuntimeMigration} {r : RecoveryRequest} (nodeId : Uuid) {binding : RuntimeRecoveryBinding}
    (hprofile : v.profile.runtimeMigration = some m) (hunsettled : m.status.settled = false)
    (hnew : TaskName.recoverToolAccountRuntime r.requestId ∉ db.works.map Work.taskId)
    (horiginal : db.reported binding.originalTaskId) :
    Kept db (withRecovery db v.profile m r nodeId binding) := by
  have hadd := addTask_grows db nodeId (.recoverToolAccountRuntime r.requestId binding)
  have hgrows : db.Grows (withRecovery db v.profile m r nodeId binding) :=
    ⟨hadd.nextId, hadd.works, hadd.receipts⟩
  have hworks : ∀ w ∈ (withRecovery db v.profile m r nodeId binding).works,
      w ∈ db.works ∨ w = .recoverToolAccountRuntime r.requestId binding := by
    intro w hw
    have hmem : w ∈ (addTask db nodeId (.recoverToolAccountRuntime r.requestId binding)).works := hw
    exact mem_addTask_works hmem
  have hmigrations : ∀ w ∈ (withRecovery db v.profile m r nodeId binding).works,
      w.migration?.isSome → w ∈ db.works := by
    intro w hw hmigration
    rcases hworks w hw with hold | rfl
    · exact hold
    · cases hmigration
  refine ⟨hgrows.sound ?_ hmigrations (fun w _ hw => ?_) (fun w hw => hdb.still w hw)
    (fun hs => ?_) (fun m' hm' => ?_), ?_⟩
  · have hbooks := hdb.books.addTask nodeId
      (w := .recoverToolAccountRuntime r.requestId binding) hnew nofun fun binding' hbinding => by
        obtain rfl := Option.mem_some_iff.mp hbinding
        exact horiginal
    exact hbooks.congr rfl rfl le_rfl
  · obtain ⟨m₀, hm₀, htaskId, -, hpayload⟩ :=
      hview.sound.held w (hview.follows.outstanding_user hview.turns hw)
    rw [hprofile] at hm₀
    obtain rfl := Option.mem_some_iff.mp hm₀
    exact ⟨_, rfl, htaskId, hunsettled, hpayload⟩
  · obtain ⟨w, hw⟩ := hdb.migrating hs
    refine ⟨w, hgrows.outstanding_of_aside (fun w' hw' _ => ?_) (fun _ hr _ _ => hr) hw⟩
    rcases hworks w' hw' with hold | rfl
    · exact .inl hold
    · exact .inr (hdb.not_succeeded hnew)
  · obtain rfl := Option.mem_some_iff.mp hm'
    exact hview.sound.previous m hprofile
  · exact
      { toGrows := hgrows
        userTurns := Nat.le_succ _
        accountTurns := le_rfl
        account := fun _ => rfl
        migrations := fun _ => hmigrations
        sessions := turn_ne rfl
        guarded := turn_ne rfl
        results := turn_ne rfl
        migrating := turn_ne rfl }

section

variable (hdb : db.Sound) (hseen : ∀ i, (seen i).Sound) (hcurrent : ∀ i, (seen i).Follows db)

include hdb hseen hcurrent

/-- A migration that a recovery is about has a result. -/
lemma Current.reported {i : ℕ} {sessions : AccountDb} {binding : RuntimeRecoveryBinding}
    {account : ToolAccount} {profile : Profile} {m : RuntimeMigration}
    (h : Current (userLocked seen db i) sessions binding account profile m) :
    db.reported binding.originalTaskId := by
  obtain ⟨t, ht, hname, hterminal, hpayload⟩ := h.original
  have hview := userLocked_view hdb hseen hcurrent i
  have hmigration : t.work.migration?.isSome := by
    rw [hpayload]
    rfl
  rw [← hname]
  exact hview.follows.reported
    (hview.sound.books.reported t ht (guarded_of_migration hmigration) hterminal)

/-- A name that is free under the usage row is free at the commit. -/
lemma not_mem_names {i : ℕ} {name : TaskName} (hname : name.ofBinding = false)
    (h : (userLocked seen db i).getTask name = none) : name ∉ db.works.map Work.taskId := by
  intro hmem
  obtain ⟨w, hw, rfl⟩ := List.mem_map.mp hmem
  have hview := userLocked_view hdb hseen hcurrent i
  exact getTask_eq_none h
    (List.mem_map_of_mem (hview.follows.guarded hview.turns w hw hname))

lemma submitRecovery_kept {accountId : Uuid} {r : RecoveryRequest}
    {expectedOriginal : Option RuntimeRecoveryOriginal} {around : Surroundings}
    (h : submitRecovery seen db accountId r expectedOriginal around = .ok db') : Kept db db' := by
  rcases submitRecovery_cases h with rfl | ⟨binding, m, nodeId, hnone, -, hcurrently, -, rfl⟩
  · exact releaseUser_kept hdb
  · exact withRecovery_kept hdb (userLocked_view hdb hseen hcurrent 5) nodeId hcurrently.profile
      hcurrently.unsettled (not_mem_names hdb hseen hcurrent rfl hnone)
      (hcurrently.reported hdb hseen hcurrent)

end

/-- What a report of a recovery finds, and leaves when it is the first. -/
lemma reportRecovery_cases {task : NodeTask} {r : Report}
    (h : reportRecovery settings seen db task r = .ok db') : db' = releaseUser db ∨
      ∃ current binding m, task.work.recovery? = some binding ∧
        db.getTask task.taskId = some current ∧ db.receipt task.taskId = none ∧
        requireLease current (seen 4).clock = .ok () ∧
        sameJson r.value
          (expectedRecoveryValue settings.uuid binding current.retryCount r.outcome) = true ∧
        (∃ m, Current (userLocked seen db 5) (userLocked seen db 7) binding
          (userLocked seen db 3).account (userLocked seen db 6).profile m ∧
          m.recoveryTaskId = some task.taskId ∧ m.recoveryStatus = some .pending) ∧
        Current (userLocked seen db 8) (userLocked seen db 10) binding
          (userLocked seen db 3).account (userLocked seen db 9).profile m ∧
        db' = writeMigration (finishTask db task r) (userLocked seen db 3).account
          (recoveryApplied r.outcome (userLocked seen db 3).account m binding).1
          (userLocked seen db 9).profile
          (recoveryApplied r.outcome (userLocked seen db 3).account m binding).2 := by
  unfold reportRecovery at h
  obtain ⟨binding, hbinding, h⟩ := bind_eq_ok.mp h
  obtain ⟨hwork, hname, -⟩ := recoveryBinding_eq_ok hbinding
  obtain ⟨-, -, h⟩ := bind_eq_ok.mp h
  dsimp only at h
  split at h
  · cases h
  · next current hcurrent =>
    split at h
    · rw [reject_bind_eq_ok] at h
      exact .inl (Except.ok.inj h.2).symm
    · next hnone =>
      obtain ⟨⟨current', binding'⟩, hauthorized, h⟩ := bind_eq_ok.mp h
      dsimp only at h
      rw [reject_bind_eq_ok] at h
      obtain ⟨hvalue, h⟩ := h
      obtain ⟨m, hm, h⟩ := bind_eq_ok.mp h
      obtain ⟨hlookup, hwork', hlease, hmigration⟩ := authorizeRecovery_eq_ok hauthorized
      rw [hname] at hlookup hmigration
      obtain rfl := Option.some.inj
        ((Option.filter_eq_some_iff.mp hcurrent).1.symm.trans hlookup)
      have hsame : current.work = task.work :=
        of_decide_eq_true (Option.filter_eq_some_iff.mp hcurrent).2
      rw [hsame, hwork] at hwork'
      obtain rfl := Option.some.inj hwork'
      exact .inr ⟨current, binding, m, hwork, hlookup, hnone, hlease, by
        rwa [Bool.not_eq_false] at hvalue, hmigration, currentMigration_eq_ok hm,
        (Except.ok.inj h).symm⟩

section

variable (hdb : db.Sound) (hseen : ∀ i, (seen i).Sound) (hcurrent : ∀ i, (seen i).Follows db)

include hdb hseen hcurrent

lemma reportRecovery_kept {task : NodeTask} {r : Report} (htask : task.work ∈ db.works)
    (h : reportRecovery settings seen db task r = .ok db') : Kept db db' := by
  rcases reportRecovery_cases h with
    rfl | ⟨current, binding, m, hwork, -, -, -, -, -, hcurrently, rfl⟩
  · exact releaseUser_kept hdb
  · have hview := userLocked_view hdb hseen hcurrent 9
    have hruntime : task.taskId.ofRuntime = true := runtime_of_recovery hwork
    have hstatus : db.account.status = .migrating →
        (userLocked seen db 3).account.status = .migrating :=
      (userLocked_view hdb hseen hcurrent 3).follows.migrating
        (userLocked_view hdb hseen hcurrent 3).turns
    refine Settles.kept (m := m) ?_ hdb hview hstatus (fun hs w hw hout => ?_) (fun hf hs => ?_)
    · cases houtcome : r.outcome with
      | succeeded =>
        exact ⟨htask, hruntime, hcurrently.profile, rfl, rfl, rfl, rfl,
          fun hf => (nomatch houtcome.symm.trans hf), fun _ => rfl⟩
      | failed =>
        exact ⟨htask, hruntime, hcurrently.profile, rfl, rfl, rfl, rfl,
          fun _ => hcurrently.unsettled, fun hs => (nomatch houtcome.symm.trans hs)⟩
    · have hmem : task.work ∈ (finishTask db task r).works := by
        rwa [finishTask_works]
      exact hout.unrecovered task.work hmem binding hwork (hw.trans hcurrently.taskId).symm
        ⟨_, List.mem_append_right _ (List.mem_singleton_self _), rfl, hs⟩
    · rw [hf] at hs
      have hmigrating : db.account.status = .migrating :=
        (congrArg ToolAccount.status (flushed_self _ _)).symm.trans hs
      obtain ⟨w, hw⟩ := hdb.migrating hmigrating
      exact ⟨w, outstanding_of_failed htask hf hw _ _ _ _⟩

end

end AgentRemote.AccountRuntime
