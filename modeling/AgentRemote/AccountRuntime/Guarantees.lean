import AgentRemote.AccountRuntime.Tracking

/-!
# Safe migrations

In a run of careful commits an account stays on the source of a migration until the migration is
settled, one recovery is open at a time, and the account gets back the status it had.
-/

namespace AgentRemote.AccountRuntime
open Library PortForwards Runtimes AccountDb

variable {settings : AccountSettings} {seen : ℕ → AccountDb} {a b db db' after : AccountDb}
  {t : AccountTx} {w : Work}

/-! ### What leaves migrations alone -/

lemma Quiet.receipts (h : Quiet a b) {r : NodeTaskResult} (hr : r ∈ b.receipts)
    (hof : r.taskId.ofRuntime = true) : r ∈ a.receipts := by
  have hmem := mem_runtimeResults.mpr ⟨hr, hof⟩
  rw [h.results] at hmem
  exact (mem_runtimeResults.mp hmem).1

lemma Quiet.outstanding (h : Quiet a b) (hgrows : a.Grows b) (hout : a.Outstanding w) :
    b.Outstanding w :=
  hgrows.outstanding_of_aside (fun w hw hof => .inl (h.works w hw hof))
    (fun _ hr hof _ => h.receipts hr hof) hout

lemma Quiet.of_outstanding (h : Quiet a b) (hgrows : a.Grows b) (hout : b.Outstanding w) :
    a.Outstanding w :=
  hgrows.outstanding (h.works w hout.mem (runtime_of_migration hout.migration)) hout

lemma Quiet.recorded (h : Quiet a b) (ha : a.Recorded) : b.Recorded := by
  refine ⟨h.results ▸ ha.once, fun t ht hof hreported => ?_⟩
  by_contra hne
  rw [Bool.not_eq_true] at hne
  obtain ⟨t', ht', hwork, hopen⟩ := h.opened t ht hof hne
  have hname : t'.taskId = t.taskId := congrArg Work.taskId hwork
  obtain ⟨r, hr, hid⟩ := hreported
  have hold := h.receipts hr (hid ▸ runtime_of_ofRecovery hof)
  have hclosed := ha.closed t' ht' (hname ▸ hof) ⟨r, hold, hid.trans hname.symm⟩
  rw [hopen] at hclosed
  cases hclosed

lemma Quiet.tracked (h : Quiet a b) (hgrows : a.Grows b) (ha : a.Tracked)
    (hbackend : ∀ w, a.Outstanding w → b.account.runtimeBackend = a.account.runtimeBackend) :
    b.Tracked := by
  refine ⟨fun w hw payload hpayload => ?_, fun t ht binding hbinding hopen => ?_, ?_⟩
  · have hout := h.of_outstanding hgrows hw
    rw [hbackend w hout]
    exact ha.backend w hout payload hpayload
  · obtain ⟨t', ht', hwork, hopen'⟩ := h.opened t ht (name_of_recovery hbinding) hopen
    obtain ⟨m, hm, hrecovery, hrest⟩ := ha.opened t' ht' binding (hwork ▸ hbinding) hopen'
    rw [h.migration]
    exact ⟨m, hm, hrecovery.trans (congrArg some (congrArg Work.taskId hwork)), hrest⟩
  · rw [h.migration]
    exact ha.named

/-! ### Migrations that start -/

section

variable {copy : ToolAccount} {profile : Profile} {node : Node} {payload : MigrationPayload}

lemma mem_withMigration {task : NodeTask}
    (h : task ∈ (withMigration db copy profile node payload).tasks) :
    task ∈ db.tasks ∨ task.work = .migrateToolAccountRuntime db.nextId payload := by
  have hmem : task ∈ db.tasks ++
      [newTask db node.id (.migrateToolAccountRuntime db.nextId payload)] := h
  rcases List.mem_append.mp hmem with hold | hnew
  · exact .inl hold
  · rw [List.mem_singleton.mp hnew]
    exact .inr rfl

lemma withMigration_recorded (h : db.Recorded) :
    (withMigration db copy profile node payload).Recorded := by
  refine ⟨h.once, fun task htask hof hreported => ?_⟩
  rcases mem_withMigration htask with hold | hnew
  · exact h.closed task hold hof hreported
  · unfold NodeTask.taskId at hof
    rw [hnew] at hof
    cases hof

lemma withMigration_tracked (h : db.Tracked)
    (hgrows : db.Grows (withMigration db copy profile node payload))
    (hnone : ∀ w, ¬db.Outstanding w) (hsettled : db.profile.settled = true)
    (hbackend : db.account.runtimeBackend = some payload.sourceRuntimeBackend) :
    (withMigration db copy profile node payload).Tracked := by
  refine ⟨fun w hw payload' hpayload => ?_, fun task htask binding hbinding hopen => ?_,
    fun m hm previous hprevious => ?_⟩
  · obtain ⟨task, htask, rfl⟩ := List.mem_map.mp hw.mem
    rcases mem_withMigration htask with hold | hnew
    · exact absurd (hgrows.outstanding (mem_works hold) hw) (hnone _)
    · rw [hnew] at hpayload
      obtain rfl := Option.some.inj hpayload
      have hsame : (withMigration db copy profile node payload).account.runtimeBackend =
          db.account.runtimeBackend := flushColumn_self _ _
      rw [hsame, hbackend]
  · rcases mem_withMigration htask with hold | hnew
    · obtain ⟨m, hm, -, -, hunsettled⟩ := h.opened task hold binding hbinding hopen
      unfold Profile.settled at hsettled
      rw [Option.mem_def.mp hm] at hsettled
      exact absurd (hsettled.symm.trans hunsettled) nofun
    · rw [hnew] at hbinding
      cases hbinding
  · obtain rfl := Option.mem_some_iff.mp hm
    cases hprevious

end

/-! ### Recoveries that are asked for -/

section

variable {profile : Profile} {m : RuntimeMigration} {r : RecoveryRequest} {nodeId : Uuid}
  {binding : RuntimeRecoveryBinding}

lemma mem_withRecovery {task : NodeTask}
    (h : task ∈ (withRecovery db profile m r nodeId binding).tasks) :
    task ∈ db.tasks ∨ task.status.terminal = false ∧
      task.work = .recoverToolAccountRuntime r.requestId binding := by
  have hmem : task ∈ db.tasks ++
      [newTask db nodeId (.recoverToolAccountRuntime r.requestId binding)] := h
  rcases List.mem_append.mp hmem with hold | hnew
  · exact .inl hold
  · rw [List.mem_singleton.mp hnew]
    exact .inr ⟨rfl, rfl⟩

lemma withRecovery_recorded (h : db.Recorded) (hbooks : db.Books)
    (hfresh : TaskName.recoverToolAccountRuntime r.requestId ∉ db.works.map Work.taskId) :
    (withRecovery db profile m r nodeId binding).Recorded := by
  refine ⟨h.once, fun task htask hof hreported => ?_⟩
  rcases mem_withRecovery htask with hold | ⟨-, hwork⟩
  · exact h.closed task hold hof hreported
  · obtain ⟨result, hresult, hname⟩ := hreported
    have hid : task.taskId = .recoverToolAccountRuntime r.requestId := congrArg Work.taskId hwork
    have hknown := hbooks.known result hresult
    rw [hname, hid] at hknown
    exact absurd hknown hfresh

lemma withRecovery_tracked (h : db.Tracked) (hrecorded : db.Recorded)
    (hgrows : db.Grows (withRecovery db profile m r nodeId binding))
    (hm : db.profile.runtimeMigration = some m) (horiginal : m.taskId = binding.originalTaskId)
    (hunsettled : m.status.settled = false)
    (hprior : ∀ previous ∈ m.recoveryTaskId, db.reported previous) :
    (withRecovery db profile m r nodeId binding).Tracked := by
  refine ⟨fun w hw payload hpayload => ?_, fun task htask binding' hbinding hopen => ?_,
    fun m' hm' previous hprevious => ?_⟩
  · obtain ⟨task, htask, rfl⟩ := List.mem_map.mp hw.mem
    rcases mem_withRecovery htask with hold | ⟨-, hwork⟩
    · exact h.backend _ (hgrows.outstanding (mem_works hold) hw) payload hpayload
    · rw [hwork] at hpayload
      cases hpayload
  · rcases mem_withRecovery htask with hold | ⟨-, hwork⟩
    · obtain ⟨m', hm', hrecovery, -⟩ := h.opened task hold binding' hbinding hopen
      rw [hm] at hm'
      obtain rfl := Option.mem_some_iff.mp hm'
      have hclosed := hrecorded.closed task hold (name_of_recovery hbinding) (hprior _ hrecovery)
      rw [hopen] at hclosed
      cases hclosed
    · rw [hwork] at hbinding
      obtain rfl := Option.some.inj hbinding
      exact ⟨_, rfl, congrArg some (congrArg Work.taskId hwork).symm, horiginal, hunsettled⟩
  · obtain rfl := Option.mem_some_iff.mp hm'
    obtain rfl := Option.mem_some_iff.mp hprevious
    rfl

/-- A recovery that is asked for leaves migrations outstanding. -/
lemma withRecovery_outstanding (hdb : db.Sound)
    (hgrows : db.Grows (withRecovery db profile m r nodeId binding))
    (hfresh : TaskName.recoverToolAccountRuntime r.requestId ∉ db.works.map Work.taskId)
    (hw : db.Outstanding w) : (withRecovery db profile m r nodeId binding).Outstanding w := by
  refine hgrows.outstanding_of_aside (fun w' hw' _ => ?_) (fun _ hr _ _ => hr) hw
  obtain ⟨task, htask, rfl⟩ := List.mem_map.mp hw'
  rcases mem_withRecovery htask with hold | ⟨-, hwork⟩
  · exact .inl (mem_works hold)
  · rw [hwork]
    exact .inr (hdb.not_succeeded hfresh)

end

/-! ### Results -/

section

variable {task : NodeTask} {r : Report} {copy new : ToolAccount} {profile : Profile}
  {m m' : RuntimeMigration}

lemma mem_finished {result : NodeTask} (h : result ∈ (finishTask db task r).tasks) :
    ∃ old ∈ db.tasks, old.work = result.work ∧
      ((old.taskId = task.taskId ∧ result.status = r.outcome.status) ∨
        (old.taskId ≠ task.taskId ∧ result = old)) := by
  obtain ⟨old, hold, rfl⟩ := List.mem_map.mp h
  unfold finished
  split_ifs with hname
  · exact ⟨old, hold, rfl, .inl ⟨hname, rfl⟩⟩
  · exact ⟨old, hold, rfl, .inr ⟨hname, rfl⟩⟩

lemma terminal_of_outcome (outcome : TaskOutcome) : outcome.status.terminal = true := by
  cases outcome <;> rfl

namespace Verdict

variable (h : Verdict db task r copy new m m')

include h

lemma runtimeResults (profile : Profile) : ∃ result : NodeTaskResult, result.taskId = task.taskId ∧
    result.status = r.outcome ∧
    (writeMigration (finishTask db task r) copy new profile m').runtimeResults =
      db.runtimeResults ++ [result] := by
  refine ⟨⟨task.id, task.taskId, r.outcome, if r.outcome = .succeeded then some r.value else none,
    if r.outcome = .failed then some r.value else none⟩, rfl, rfl, ?_⟩
  unfold AccountDb.runtimeResults writeMigration flushAccount releaseUser finishTask
  dsimp only
  rw [List.filter_append, List.filter_singleton, h.runtime]
  rfl

lemma recorded (hdb : db.Recorded) :
    (writeMigration (finishTask db task r) copy new profile m').Recorded := by
  constructor
  · obtain ⟨result, hname, -, hresults⟩ := h.runtimeResults profile
    rw [hresults, List.map_append]
    refine List.Nodup.append hdb.once (List.nodup_singleton _) fun name hold hnew => ?_
    rw [List.mem_singleton.mp hnew, hname] at hold
    obtain ⟨result', hresult', hid⟩ := List.mem_map.mp hold
    exact h.first ⟨result', (mem_runtimeResults.mp hresult').1, hid⟩
  · intro t ht hof hreported
    obtain ⟨old, hold, hwork, ⟨-, hstatus⟩ | ⟨hname, rfl⟩⟩ := mem_finished ht
    · rw [hstatus]
      exact terminal_of_outcome _
    · obtain ⟨result, hresult, hid⟩ := hreported
      rcases finishTask_receipts hresult with hbefore | ⟨hsame, -⟩
      · exact hdb.closed t hold hof ⟨result, hbefore, hid⟩
      · exact absurd (hid.symm.trans hsame) hname

/-- The migration that is outstanding is the one that the result is about. -/
lemma about_outstanding (hdb : db.Sound) (hw : db.Outstanding w) :
    task.work.about = some w.taskId ∧ ∀ payload ∈ w.migration?,
      m.sourceRuntimeBackend = payload.sourceRuntimeBackend ∧
        m.targetRuntimeBackend = payload.targetRuntimeBackend := by
  obtain ⟨m₀, hm₀, htaskId, -, hpayload⟩ := hdb.held w hw
  rw [h.profile] at hm₀
  obtain rfl := Option.mem_some_iff.mp hm₀
  exact ⟨htaskId ▸ h.about, hpayload⟩

/-- The result of a success is that of the migration or of one of its recoveries. -/
lemma settled_iff (hdb : db.Sound) (hw : db.Outstanding w) :
    (writeMigration (finishTask db task r) copy new profile m').Outstanding w ↔
      r.outcome = .failed := by
  constructor
  · intro hout
    by_contra hne
    have hsucceeded : r.outcome = .succeeded := by
      cases houtcome : r.outcome with
      | succeeded => rfl
      | failed => exact absurd houtcome hne
    have hproved : (writeMigration (finishTask db task r) copy new profile m').succeeded
        task.taskId :=
      ⟨_, List.mem_append_right _ (List.mem_singleton_self _), rfl, hsucceeded⟩
    have habout := (h.about_outstanding hdb hw).1
    cases hwork : task.work with
    | migrateToolAccountRuntime attempt payload =>
      rw [hwork] at habout
      have hname : task.taskId = w.taskId :=
        (congrArg Work.taskId hwork).trans (Option.some.inj habout)
      exact hout.unproved (hname ▸ hproved)
    | recoverToolAccountRuntime requestId binding =>
      rw [hwork] at habout
      have hmem : task.work ∈ (finishTask db task r).works := by
        rw [finishTask_works]
        exact h.known
      refine hout.unrecovered task.work hmem binding ?_ (Option.some.inj habout) hproved
      rw [hwork]
      rfl
    | _ =>
      rw [hwork] at habout
      cases habout
  · intro hfailed
    exact outstanding_of_failed h.known hfailed hw copy new profile m'

lemma tracked (hdb : db.Sound) (htracked : db.Tracked)
    (hgrows : db.Grows (writeMigration (finishTask db task r) copy new profile m')) :
    (writeMigration (finishTask db task r) copy new profile m').Tracked := by
  refine ⟨fun w hw payload hpayload => ?_, fun t ht binding hbinding hopen => ?_,
    fun m₀ hm₀ => ?_⟩
  · have hmem : w ∈ (finishTask db task r).works := hw.mem
    rw [finishTask_works] at hmem
    have hout := hgrows.outstanding hmem hw
    have hfailed := (h.settled_iff hdb hout).mp hw
    have hne : ¬(r.outcome = .succeeded ∧ task.work.restores = false) := fun hs =>
      nomatch hfailed.symm.trans hs.1
    have hsame : new.runtimeBackend = copy.runtimeBackend := by
      rw [h.backendAfter, h.backend, if_neg hne]
    have hcolumn : (writeMigration (finishTask db task r) copy new profile
        m').account.runtimeBackend =
          flushColumn copy.runtimeBackend new.runtimeBackend db.account.runtimeBackend := rfl
    rw [hcolumn, hsame, flushColumn_self]
    exact htracked.backend w hout payload hpayload
  · obtain ⟨old, hold, hwork, ⟨-, hstatus⟩ | ⟨hname, rfl⟩⟩ := mem_finished ht
    · rw [hstatus, terminal_of_outcome] at hopen
      cases hopen
    · obtain ⟨m₀, hm₀, hrecovery, horiginal, -⟩ := htracked.opened t hold binding hbinding hopen
      rw [h.profile] at hm₀
      obtain rfl := Option.mem_some_iff.mp hm₀
      have habout := h.about
      cases hkind : task.work with
      | migrateToolAccountRuntime attempt payload =>
        rw [hkind] at habout
        have hid : task.taskId = binding.originalTaskId :=
          ((congrArg Work.taskId hkind).trans (Option.some.inj habout)).trans horiginal
        exact absurd (hdb.books.original _ (mem_works hold) binding hbinding) (hid ▸ h.first)
      | recoverToolAccountRuntime requestId binding' =>
        have hrecover : binding' ∈ task.work.recovery? := by
          rw [hkind]
          rfl
        obtain ⟨t', ht', hwork', hopen'⟩ := h.opened (name_of_recovery hrecover)
        obtain ⟨m₁, hm₁, hrecovery', -⟩ := htracked.opened t' ht' binding' (hwork' ▸ hrecover) hopen'
        rw [h.profile] at hm₁
        obtain rfl := Option.mem_some_iff.mp hm₁
        have hid : t.taskId = t'.taskId := Option.some.inj (hrecovery.symm.trans hrecovery')
        exact absurd (hid.trans (congrArg Work.taskId hwork')) hname
      | _ =>
        rw [hkind] at habout
        cases habout
  · obtain rfl := Option.mem_some_iff.mp hm₀
    rw [h.recovery]
    exact htracked.named m h.profile

/-- The status after a result. -/
lemma status_eq : (writeMigration (finishTask db task r) copy new profile m').account.status =
    if r.outcome = .succeeded ∧ db.account.status = .migrating then m.previousStatus
    else db.account.status := by
  have hcolumn : (writeMigration (finishTask db task r) copy new profile m').account.status =
      flushColumn copy.status new.status db.account.status := rfl
  have hafter := h.statusAfter
  rw [h.status] at hafter
  rw [hcolumn, h.status, ← hafter]
  unfold flushColumn
  split_ifs with hsame
  · exact hsame.symm
  · rfl

/-- The backend after a success. -/
lemma backend_eq (hbackend : db.account.runtimeBackend = some m.sourceRuntimeBackend)
    (hsucceeded : r.outcome = .succeeded) :
    (writeMigration (finishTask db task r) copy new profile m').account.runtimeBackend =
      some (if task.work.restores then m.sourceRuntimeBackend else m.targetRuntimeBackend) := by
  have hcolumn : (writeMigration (finishTask db task r) copy new profile m').account.runtimeBackend =
      flushColumn copy.runtimeBackend new.runtimeBackend db.account.runtimeBackend := rfl
  have hafter : new.runtimeBackend =
      some (if task.work.restores then m.sourceRuntimeBackend else m.targetRuntimeBackend) := by
    rw [h.backendAfter]
    cases hrestores : task.work.restores
    · rw [if_pos ⟨hsucceeded, rfl⟩, if_neg nofun]
    · have hne : ¬(r.outcome = .succeeded ∧ true = false) := fun hs => nomatch hs.2
      rw [if_neg hne, if_pos rfl]
  rw [hcolumn, ← hafter]
  unfold flushColumn
  split_ifs with hsame
  · rw [hsame, hbackend, h.backend]
  · rfl

end Verdict

end

/-! ### Effects -/

namespace Effect

variable (h : Effect settings seen db t after) (hdb : db.Sound) (htracked : db.Tracked)
  (hgrows : db.Grows after)

include h

lemma recorded (hdb : db.Sound) (hrecorded : db.Recorded) : after.Recorded := by
  cases h with
  | aside quiet _ _ => exact quiet.recorded hrecorded
  | starts _ _ _ _ => exact withMigration_recorded hrecorded
  | recovers _ _ _ fresh _ => exact withRecovery_recorded hrecorded hdb.books fresh
  | settles verdict _ _ => exact verdict.recorded hrecorded

lemma migration (hturns : db.userTurns = after.userTurns) :
    after.profile.runtimeMigration = db.profile.runtimeMigration := by
  cases h with
  | aside quiet _ _ => exact quiet.migration
  | starts _ _ _ _ => exact absurd hturns.symm (Nat.succ_ne_self _)
  | recovers _ _ _ _ _ => exact absurd hturns.symm (Nat.succ_ne_self _)
  | settles _ _ _ => exact absurd hturns.symm (Nat.succ_ne_self _)

/-- A commit adds at most one result, and that of a recovery only during its lease. -/
lemma results : after.runtimeResults = db.runtimeResults ∨
    ∃ result r, t = .report r ∧ result.status = r.outcome ∧
      after.runtimeResults = db.runtimeResults ++ [result] ∧
      (result.taskId.ofRecovery → Accepted settings seen db r result.taskId) := by
  cases h with
  | aside quiet _ _ => exact .inl quiet.results
  | starts _ _ _ _ => exact .inl rfl
  | recovers _ _ _ _ _ => exact .inl rfl
  | @settles task r copy new profile m m' verdict report accepted =>
    obtain ⟨result, hname, hstatus, hresults⟩ := verdict.runtimeResults profile
    exact .inr ⟨result, r, report, hstatus, hresults, hname ▸ accepted⟩

/-- A migration that starts, with the status from before it. -/
lemma started (hgrows : db.Grows after) (hbefore : ¬db.Outstanding w) (hafter : after.Outstanding w) :
    after.account.status = .migrating ∧ ∃ m ∈ after.profile.runtimeMigration,
      m.previousStatus = db.account.status := by
  cases h with
  | aside quiet _ _ => exact absurd (quiet.of_outstanding hgrows hafter) hbefore
  | @starts copy profile node payload _ _ status _ =>
    refine ⟨?_, _, rfl, status⟩
    have hcolumn : (withMigration db copy profile node payload).account.status =
        flushColumn copy.status .migrating db.account.status := rfl
    rw [hcolumn, status]
    unfold flushColumn
    split_ifs with hsame
    · exact hsame.symm
    · rfl
  | recovers _ _ _ _ _ =>
    refine absurd (hgrows.outstanding ?_ hafter) hbefore
    obtain ⟨task, htask, rfl⟩ := List.mem_map.mp hafter.mem
    rcases mem_withRecovery htask with hold | ⟨-, hwork⟩
    · exact mem_works hold
    · have hmigration := hafter.migration
      rw [hwork] at hmigration
      cases hmigration
  | @settles task r _ _ _ _ _ _ _ _ =>
    have hmem : w ∈ (finishTask db task r).works := hafter.mem
    rw [finishTask_works] at hmem
    exact absurd (hgrows.outstanding hmem hafter) hbefore

/-- The profile keeps the status from before the migration. -/
lemma previous (hw : db.Outstanding w) {m : RuntimeMigration}
    (hm : m ∈ db.profile.runtimeMigration) :
    ∃ m' ∈ after.profile.runtimeMigration, m'.previousStatus = m.previousStatus := by
  cases h with
  | aside quiet _ _ => exact ⟨m, quiet.migration ▸ hm, rfl⟩
  | starts none _ _ _ => exact absurd hw (none w)
  | recovers migration _ _ _ _ =>
    rw [migration] at hm
    obtain rfl := Option.mem_some_iff.mp hm
    exact ⟨_, rfl, rfl⟩
  | settles verdict _ _ =>
    rw [verdict.profile] at hm
    obtain rfl := Option.mem_some_iff.mp hm
    exact ⟨_, rfl, verdict.previous⟩

include hdb hgrows

lemma tracked (htracked : db.Tracked) (hrecorded : db.Recorded) : after.Tracked := by
  cases h with
  | aside quiet backend _ => exact quiet.tracked hgrows htracked backend
  | starts none settled _ backend =>
    exact withMigration_tracked htracked hgrows none settled backend
  | recovers migration original unsettled _ prior =>
    exact withRecovery_tracked htracked hrecorded hgrows migration original unsettled prior
  | settles verdict _ _ => exact verdict.tracked hdb htracked hgrows

/-- The status during a migration. -/
lemma status (hw : db.Outstanding w) (hafter : after.Outstanding w)
    (hothers : t.byUser = true ∨ t.byBinding = true ∧ db.account.status ≠ .migrating →
      after.account.status = db.account.status) :
    after.account.status = db.account.status := by
  cases h with
  | aside _ _ status => exact (status w hw).elim (fun hs => hs) hothers
  | starts none _ _ _ => exact absurd hw (none w)
  | recovers _ _ _ _ _ => rfl
  | settles verdict _ _ =>
    have hfailed := (verdict.settled_iff hdb hw).mp hafter
    have hne : ¬(TaskOutcome.failed = .succeeded ∧ db.account.status = .migrating) := fun hs =>
      nomatch hs.1
    rw [verdict.status_eq, hfailed, if_neg hne]

/-- A migration that is settled, with the result that settles it. -/
lemma settled (hw : db.Outstanding w) (hafter : ¬after.Outstanding w) :
    ∃ task r copy new profile m m', Verdict db task r copy new m m' ∧
      after = writeMigration (finishTask db task r) copy new profile m' ∧
      r.outcome = .succeeded := by
  cases h with
  | aside quiet _ _ => exact absurd (quiet.outstanding hgrows hw) hafter
  | starts none _ _ _ => exact absurd hw (none w)
  | recovers _ _ _ fresh _ =>
    exact absurd (withRecovery_outstanding hdb hgrows fresh hw) hafter
  | @settles task r copy new profile m m' verdict _ _ =>
    refine ⟨task, r, copy, new, profile, m, m', verdict, rfl, ?_⟩
    cases houtcome : r.outcome with
    | succeeded => rfl
    | failed => exact absurd ((verdict.settled_iff hdb hw).mpr houtcome) hafter

/-- The status when a migration is settled. -/
lemma restored (hw : db.Outstanding w) (hafter : ¬after.Outstanding w) {m : RuntimeMigration}
    (hm : m ∈ db.profile.runtimeMigration) : after.account.status =
      if db.account.status = .migrating then m.previousStatus else db.account.status := by
  obtain ⟨task, r, copy, new, profile, m₀, m', hverdict, rfl, hsucceeded⟩ :=
    h.settled hdb hgrows hw hafter
  rw [hverdict.profile] at hm
  obtain rfl := Option.mem_some_iff.mp hm
  rw [hverdict.status_eq, hsucceeded]
  simp only [true_and]

include htracked

/-- The backend when a migration is settled. -/
lemma backend (hw : db.Outstanding w) (hafter : ¬after.Outstanding w) {payload : MigrationPayload}
    (hpayload : payload ∈ w.migration?) :
    (after.succeeded w.taskId →
      after.account.runtimeBackend = some payload.targetRuntimeBackend) ∧
    ∀ r ∈ after.works, ∀ binding ∈ r.recovery?, binding.originalTaskId = w.taskId →
      after.succeeded r.taskId → after.account.runtimeBackend =
        some (if binding.action.isSome then payload.sourceRuntimeBackend
          else payload.targetRuntimeBackend) := by
  obtain ⟨task, r, copy, new, profile, m, m', hverdict, rfl, hsucceeded⟩ :=
    h.settled hdb hgrows hw hafter
  obtain ⟨hsource, htarget⟩ := (hverdict.about_outstanding hdb hw).2 payload hpayload
  have hbackend := htracked.backend w hw payload hpayload
  rw [← hsource] at hbackend
  rw [hverdict.backend_eq hbackend hsucceeded, ← hsource, ← htarget]
  -- the only new success is that of the task
  have hnew : ∀ {name : TaskName}, ¬db.succeeded name →
      (writeMigration (finishTask db task r) copy new profile m').succeeded name →
        name = task.taskId := by
    rintro name hold ⟨result, hresult, rfl, hstatus⟩
    rcases finishTask_receipts hresult with hbefore | ⟨hsame, -⟩
    · exact absurd ⟨result, hbefore, rfl, hstatus⟩ hold
    · exact hsame
  constructor
  · intro hproved
    have hsame := hdb.books.work_unique hw.mem hverdict.known (hnew hw.unproved hproved)
    have hrestores : task.work.restores = false := by
      rw [← hsame]
      cases hwork : w with
      | migrateToolAccountRuntime attempt payload' => rfl
      | _ =>
        rw [hwork] at hpayload
        cases hpayload
    rw [hrestores, if_neg nofun]
  · intro work hwork binding hbinding horiginal hproved
    have hmem : work ∈ (finishTask db task r).works := hwork
    rw [finishTask_works] at hmem
    have hsame := hdb.books.work_unique hmem hverdict.known
      (hnew (hw.unrecovered work hmem binding hbinding horiginal) hproved)
    have hrestores : task.work.restores = binding.action.isSome := by
      rw [← hsame]
      obtain ⟨requestId, binding', hkind⟩ := recovery_of_name (name_of_recovery hbinding)
      rw [hkind] at hbinding ⊢
      obtain rfl := Option.some.inj hbinding
      rfl
    rw [hrestores]

end Effect

/-! ### Safe runs -/

/-- While a migration is not settled no session is started and the account is on its source. At
most one recovery is open, and none has been recorded twice. -/
structure AccountDb.Safe (db : AccountDb) : Prop where
  still : ∀ w, db.Outstanding w → db.activeSessions = []
  source : ∀ w, db.Outstanding w → ∀ payload ∈ w.migration?,
    db.account.runtimeBackend = some payload.sourceRuntimeBackend
  oneRecovery : ∀ t ∈ db.tasks, ∀ t' ∈ db.tasks, t.taskId.ofRecovery → t'.taskId.ofRecovery →
    t.status.terminal = false → t'.status.terminal = false → t = t'
  once : ((db.receipts.filter (·.taskId.ofRecovery)).map NodeTaskResult.taskId).Nodup

section

variable (settings : AccountSettings) (world : AccountWorld)

/-- A commit refuses sessions during a migration, leaves the backend that settles it, and accepts
a result of a recovery only during the lease that the result is of. -/
structure SafeCommit (c : Commit AccountDb AccountTx) : Prop where
  refused : ∀ r w, c.tx = .createSession r → c.before.Outstanding w →
    ∃ e, (accountRuntime settings world).answer c = .error e
  migrated : ∀ w, c.before.Outstanding w → ∀ payload ∈ w.migration?,
    ((accountRuntime settings world).after c).succeeded w.taskId →
      ((accountRuntime settings world).after c).account.runtimeBackend =
        some payload.targetRuntimeBackend
  recovered : ∀ w, c.before.Outstanding w → ∀ payload ∈ w.migration?,
    ∀ r ∈ ((accountRuntime settings world).after c).works, ∀ binding ∈ r.recovery?,
      binding.originalTaskId = w.taskId →
        ((accountRuntime settings world).after c).succeeded r.taskId →
          ((accountRuntime settings world).after c).account.runtimeBackend =
            some (if binding.action.isSome then payload.sourceRuntimeBackend
              else payload.targetRuntimeBackend)
  accepted : ((accountRuntime settings world).after c).runtimeResults = c.before.runtimeResults ∨
    ∃ result r, c.tx = .report r ∧ result.status = r.outcome ∧
      ((accountRuntime settings world).after c).runtimeResults =
        c.before.runtimeResults ++ [result] ∧
      (result.taskId.ofRecovery → Accepted settings c.seen c.before r result.taskId)

/-- The states and commits of a run are safe. What settles a migration restores the status that
the account had before, unless its owner has changed it, and keeps one that is no longer that of
a migration. -/
structure SafeRun (schedule : List (Scheduled AccountTx)) : Prop where
  states : ∀ earlier, earlier <:+ schedule → ((accountRuntime settings world).state earlier).Safe
  commits : ∀ c ∈ (accountRuntime settings world).commits schedule, SafeCommit settings world c
  restored : ∀ later settle between start earlier w,
    (accountRuntime settings world).commits schedule =
        later ++ settle :: (between ++ start :: earlier) →
      ¬start.before.Outstanding w → ((accountRuntime settings world).after start).Outstanding w →
      settle.before.Outstanding w → ¬((accountRuntime settings world).after settle).Outstanding w →
      (∀ c ∈ between, c.tx.byUser = true →
        ((accountRuntime settings world).after c).account.status = c.before.account.status) →
      ((accountRuntime settings world).after settle).account.status = start.before.account.status
  kept : ∀ later settle between change earlier w,
    (accountRuntime settings world).commits schedule =
        later ++ settle :: (between ++ change :: earlier) →
      ((accountRuntime settings world).after change).Outstanding w →
      ((accountRuntime settings world).after change).account.status ≠ .migrating →
      settle.before.Outstanding w → ¬((accountRuntime settings world).after settle).Outstanding w →
      (∀ c ∈ between, c.tx.byUser = true ∨ c.tx.byBinding = true →
        ((accountRuntime settings world).after c).account.status = c.before.account.status) →
      ((accountRuntime settings world).after settle).account.status =
        ((accountRuntime settings world).after change).account.status

end

section

variable {world : AccountWorld} {schedule : List (Scheduled AccountTx)}

/-- What every state of a careful run keeps. -/
structure AccountDb.Guarded (db : AccountDb) : Prop where
  sound : db.Sound
  tracked : db.Tracked
  recorded : db.Recorded

/-- A careful commit is refused, or has one of the effects. -/
lemma commit_effect (world : AccountWorld) {c : Commit AccountDb AccountTx}
    (hsees : Transactions.Sees Guarded Tracks c) (hcareful : Careful settings c) :
    (∃ e, (accountRuntime settings world).answer c = .error e) ∧
        (accountRuntime settings world).after c = c.before ∨
      Effect settings c.seen c.before c.tx ((accountRuntime settings world).after c) := by
  unfold Transactions.after Transactions.answer
  cases houtcome : c.tx.outcome settings c.seen c.before with
  | ok after =>
    refine .inr ?_
    have hcommit : (accountRuntime settings world).commit c.tx c.seen c.before =
        (after, .ok ()) := by
      unfold accountRuntime AccountTx.commit
      dsimp only
      rw [houtcome]
    rw [hcommit]
    exact outcome_effect hsees.before.sound (fun i => (hsees.seen i).sound) hsees.current
      hsees.before.tracked hcareful houtcome
  | error e =>
    refine .inl ?_
    have hcommit : (accountRuntime settings world).commit c.tx c.seen c.before =
        (c.before, .error e) := by
      unfold accountRuntime AccountTx.commit
      dsimp only
      rw [houtcome]
    rw [hcommit]
    exact ⟨⟨e, rfl⟩, rfl⟩

lemma commit_grows {c : Commit AccountDb AccountTx} (hsees : Transactions.Sees Guarded Tracks c) :
    Kept c.before ((accountRuntime settings world).after c) :=
  commit_kept ⟨hsees.before.sound, fun i => (hsees.seen i).sound,
    fun i => (hsees.current i).toFollows⟩

lemma newAccountDb_guarded (world : AccountWorld) : (newAccountDb world).Guarded := by
  have htasks : (newAccountDb world).tasks = [] := rfl
  have hmigration : (newAccountDb world).profile.runtimeMigration = none := rfl
  refine ⟨newAccountDb_sound world, ⟨fun w hw => ?_, fun t ht => ?_, fun m hm => ?_⟩,
    ⟨List.nodup_nil, fun t ht => ?_⟩⟩
  · exact absurd hw.mem List.not_mem_nil
  · rw [htasks] at ht
    cases ht
  · rw [hmigration] at hm
    cases hm
  · rw [htasks] at ht
    cases ht

lemma accountRuntime_guarded
    (h : ∀ c ∈ (accountRuntime settings world).commits schedule, Careful settings c) :
    (accountRuntime settings world).Ran Guarded Tracks schedule := by
  refine Transactions.ran_of_step Tracks.refl Tracks.trans (newAccountDb_guarded world)
    (fun c hsees hcareful => ?_) h
  have hkept : Kept c.before ((accountRuntime settings world).after c) := commit_grows hsees
  rcases commit_effect world hsees hcareful with ⟨-, hsame⟩ | heffect
  · rw [hsame]
    exact ⟨hsees.before, .refl _⟩
  · have hgrows := hkept.follows.toGrows
    have hrecorded := heffect.recorded hsees.before.sound hsees.before.recorded
    have htracked := heffect.tracked hsees.before.sound hgrows hsees.before.tracked
      hsees.before.recorded
    exact ⟨⟨hkept.sound, htracked, hrecorded⟩, hkept.follows, heffect.migration⟩

lemma AccountDb.Guarded.safe (h : db.Guarded) : db.Safe := by
  refine ⟨h.sound.still, h.tracked.backend, fun t ht t' ht' hof hof' hopen hopen' => ?_, ?_⟩
  · obtain ⟨requestId, binding, hwork⟩ := recovery_of_name hof
    obtain ⟨requestId', binding', hwork'⟩ := recovery_of_name hof'
    obtain ⟨m, hm, hrecovery, -⟩ := h.tracked.opened t ht binding (by rw [hwork]; rfl) hopen
    obtain ⟨m', hm', hrecovery', -⟩ := h.tracked.opened t' ht' binding' (by rw [hwork']; rfl) hopen'
    rw [Option.mem_def.mp hm] at hm'
    obtain rfl := Option.mem_some_iff.mp hm'
    exact h.sound.books.task_unique ht ht' (Option.some.inj (hrecovery.symm.trans hrecovery'))
  · refine h.recorded.once.sublist (List.Sublist.map _ ?_)
    unfold runtimeResults
    exact List.monotone_filter_right _ fun r hr => runtime_of_ofRecovery hr

/-- No session is created during a migration. -/
lemma commit_refused {c : Commit AccountDb AccountTx} (hsees : Transactions.Sees Guarded Tracks c)
    {r : CreateSession} (htx : c.tx = .createSession r) (hw : c.before.Outstanding w) :
    ∃ e, (accountRuntime settings world).answer c = .error e := by
  have hanswer : (accountRuntime settings world).answer c =
      (c.tx.commit settings c.seen c.before).2 := rfl
  rw [hanswer]
  unfold AccountTx.commit
  cases houtcome : c.tx.outcome settings c.seen c.before with
  | ok after =>
    rw [htx] at houtcome
    obtain ⟨node, managed, hsettled, -, -⟩ := createSession_eq_ok houtcome
    exact absurd hw (none_outstanding hsees.before.sound (fun i => (hsees.seen i).sound)
      hsees.current hsettled w)
  | error e => exact ⟨e, rfl⟩

lemma commit_safe {c : Commit AccountDb AccountTx} (hsees : Transactions.Sees Guarded Tracks c)
    (hcareful : Careful settings c) : SafeCommit settings world c := by
  have hkept : Kept c.before ((accountRuntime settings world).after c) := commit_grows hsees
  have hgrows := hkept.follows.toGrows
  refine ⟨fun r w htx hw => commit_refused hsees htx hw, fun w hw payload hpayload hproved => ?_,
    fun w hw payload hpayload r hr binding hbinding horiginal hproved => ?_, ?_⟩
  · rcases commit_effect world hsees hcareful with ⟨-, hsame⟩ | heffect
    · rw [hsame] at hproved
      exact absurd hproved hw.unproved
    · exact (heffect.backend hsees.before.sound hsees.before.tracked hgrows hw
        (fun hout => hout.unproved hproved) hpayload).1 hproved
  · rcases commit_effect world hsees hcareful with ⟨-, hsame⟩ | heffect
    · rw [hsame] at hproved hr
      exact absurd hproved (hw.unrecovered r hr binding hbinding horiginal)
    · exact (heffect.backend hsees.before.sound hsees.before.tracked hgrows hw
        (fun hout => hout.unrecovered r hr binding hbinding horiginal hproved) hpayload).2 r hr
        binding hbinding horiginal hproved
  · rcases commit_effect world hsees hcareful with ⟨-, hsame⟩ | heffect
    · exact .inl (by rw [hsame])
    · exact heffect.results

/-- What holds once a migration is outstanding and is kept while it is. -/
lemma held_between (hran : (accountRuntime settings world).Ran Guarded Tracks schedule)
    {between earlier : List (Commit AccountDb AccountTx)} {start : Commit AccountDb AccountTx}
    (hcommits : (accountRuntime settings world).commits schedule = between ++ start :: earlier)
    (hstart : ((accountRuntime settings world).after start).Outstanding w) {P : AccountDb → Prop}
    (hinit : P ((accountRuntime settings world).after start))
    (hstep : ∀ c ∈ between, Transactions.Sees Guarded Tracks c → c.before.Outstanding w →
      ((accountRuntime settings world).after c).Outstanding w → P c.before →
        P ((accountRuntime settings world).after c))
    (hw : ((accountRuntime settings world).state schedule).Outstanding w) :
    P ((accountRuntime settings world).state schedule) := by
  induction between generalizing schedule with
  | nil =>
    unfold Transactions.state at hw ⊢
    rw [hcommits]
    exact hinit
  | cons c between ih =>
    cases schedule with
    | nil => cases hcommits
    | cons s rest =>
      rw [Transactions.commits_cons, List.cons_append, List.cons.injEq] at hcommits
      obtain ⟨rfl, hrest⟩ := hcommits
      have hearlier := hran.suffix (List.suffix_cons s rest)
      have hmem : start ∈ (accountRuntime settings world).commits rest := by
        rw [hrest]
        exact List.mem_append_right _ List.mem_cons_self
      have hsees := hearlier.sees s
      have hkept : Kept _ ((accountRuntime settings world).after
        ((accountRuntime settings world).next rest s)) := commit_grows hsees
      rw [Transactions.state_cons] at hw ⊢
      have hbefore : ((accountRuntime settings world).state rest).Outstanding w :=
        hkept.follows.toGrows.outstanding
          ((hearlier.after_of_mem hmem).2.works.subset hstart.mem) hw
      refine hstep _ List.mem_cons_self hsees hbefore hw ?_
      exact ih hearlier hrest (fun c hc => hstep c (List.mem_cons_of_mem _ hc)) hbefore

/-- The account is migrating, and its profile holds the status it goes back to. -/
def AccountDb.GoesBackTo (db : AccountDb) (status : AccountStatus) : Prop :=
  db.account.status = .migrating ∧
    ∃ m ∈ db.profile.runtimeMigration, m.previousStatus = status

section

variable (h : ∀ c ∈ (accountRuntime settings world).commits schedule, Careful settings c)
  {later between earlier : List (Commit AccountDb AccountTx)}
  {settle start : Commit AccountDb AccountTx}
  (hcommits : (accountRuntime settings world).commits schedule =
    later ++ settle :: (between ++ start :: earlier))
  (hstarted : ((accountRuntime settings world).after start).Outstanding w)
  (hw : settle.before.Outstanding w)
  (hsettled : ¬((accountRuntime settings world).after settle).Outstanding w)

include h hcommits hstarted hw hsettled

lemma status_restored (hbefore : ¬start.before.Outstanding w)
    (huser : ∀ c ∈ between, c.tx.byUser = true →
      ((accountRuntime settings world).after c).account.status = c.before.account.status) :
    ((accountRuntime settings world).after settle).account.status =
      start.before.account.status := by
  have hran := accountRuntime_guarded h
  have hmem : ∀ c ∈ settle :: (between ++ start :: earlier),
      c ∈ (accountRuntime settings world).commits schedule := fun c hc => by
    rw [hcommits]
    exact List.mem_append_right _ hc
  have hstart := hmem start (List.mem_cons_of_mem _ (List.mem_append_right _ List.mem_cons_self))
  have hinit : ((accountRuntime settings world).after start).GoesBackTo
      start.before.account.status := by
    have hsees := hran.sees_of_mem hstart
    have hkept : Kept _ ((accountRuntime settings world).after start) := commit_grows hsees
    rcases commit_effect world hsees (h start hstart) with ⟨-, hsame⟩ | heffect
    · exact absurd (hsame ▸ hstarted) hbefore
    · exact heffect.started hkept.follows.toGrows hbefore hstarted
  obtain ⟨s, rest, hsuffix, rfl, hrest⟩ := Transactions.exists_next_of_commits _ hcommits
  have hrun := hran.suffix ((List.suffix_cons s rest).trans hsuffix)
  have hheld : ((accountRuntime settings world).state rest).GoesBackTo
      start.before.account.status := by
    refine held_between (P := fun db => db.GoesBackTo start.before.account.status) hrun hrest.symm
      hstarted hinit (fun c hc hsees hout hafter hold => ?_) hw
    obtain ⟨hmigrating, m, hm, hprevious⟩ := hold
    have hkept : Kept _ ((accountRuntime settings world).after c) := commit_grows hsees
    have hcareful := h c (hmem c (List.mem_cons_of_mem _ (List.mem_append_left _ hc)))
    rcases commit_effect world hsees hcareful with ⟨-, hsame⟩ | heffect
    · rw [hsame]
      exact ⟨hmigrating, m, hm, hprevious⟩
    · obtain ⟨m', hm', hsame⟩ := heffect.previous hout hm
      refine ⟨?_, m', hm', hsame.trans hprevious⟩
      rw [heffect.status hsees.before.sound hkept.follows.toGrows hout hafter, hmigrating]
      rintro (hby | ⟨-, hne⟩)
      · exact huser c hc hby
      · exact absurd hmigrating hne
  obtain ⟨hmigrating, m, hm, hprevious⟩ := hheld
  have hsees := hrun.sees s
  have hkept : Kept _ ((accountRuntime settings world).after
    ((accountRuntime settings world).next rest s)) := commit_grows hsees
  rcases commit_effect world hsees (h _ (hmem _ List.mem_cons_self)) with ⟨-, hsame⟩ | heffect
  · exact absurd (hsame ▸ hw) hsettled
  · rw [heffect.restored hsees.before.sound hkept.follows.toGrows hw hsettled hm]
    exact (if_pos hmigrating).trans hprevious

lemma status_kept
    (hstatus : ((accountRuntime settings world).after start).account.status ≠ .migrating)
    (hothers : ∀ c ∈ between, c.tx.byUser = true ∨ c.tx.byBinding = true →
      ((accountRuntime settings world).after c).account.status = c.before.account.status) :
    ((accountRuntime settings world).after settle).account.status =
      ((accountRuntime settings world).after start).account.status := by
  have hran := accountRuntime_guarded h
  have hmem : ∀ c ∈ settle :: (between ++ start :: earlier),
      c ∈ (accountRuntime settings world).commits schedule := fun c hc => by
    rw [hcommits]
    exact List.mem_append_right _ hc
  obtain ⟨s, rest, hsuffix, rfl, hrest⟩ := Transactions.exists_next_of_commits _ hcommits
  have hrun := hran.suffix ((List.suffix_cons s rest).trans hsuffix)
  have hheld : ((accountRuntime settings world).state rest).account.status =
      ((accountRuntime settings world).after start).account.status := by
    refine held_between (P := fun db => db.account.status =
        ((accountRuntime settings world).after start).account.status) hrun hrest.symm hstarted rfl
      (fun c hc hsees hout hafter hold => ?_) hw
    have hkept : Kept _ ((accountRuntime settings world).after c) := commit_grows hsees
    have hcareful := h c (hmem c (List.mem_cons_of_mem _ (List.mem_append_left _ hc)))
    rcases commit_effect world hsees hcareful with ⟨-, hsame⟩ | heffect
    · rw [hsame]
      exact hold
    · rw [heffect.status hsees.before.sound hkept.follows.toGrows hout hafter, hold]
      rintro (hby | ⟨hby, -⟩)
      · exact hothers c hc (.inl hby)
      · exact hothers c hc (.inr hby)
  have hsees := hrun.sees s
  have hkept : Kept _ ((accountRuntime settings world).after
    ((accountRuntime settings world).next rest s)) := commit_grows hsees
  rcases commit_effect world hsees (h _ (hmem _ List.mem_cons_self)) with ⟨-, hsame⟩ | heffect
  · exact absurd (hsame ▸ hw) hsettled
  · obtain ⟨m, hm, -⟩ := hsees.before.sound.held w hw
    have hne : ((accountRuntime settings world).state rest).account.status ≠ .migrating :=
      hheld ▸ hstatus
    rw [heffect.restored hsees.before.sound hkept.follows.toGrows hw hsettled hm]
    exact (if_neg hne).trans hheld

end

end

/-- In a careful run migrations are safe. -/
theorem migrations_safe (settings : AccountSettings) (world : AccountWorld)
    (schedule : List (Scheduled AccountTx))
    (h : ∀ c ∈ (accountRuntime settings world).commits schedule, Careful settings c) :
    SafeRun settings world schedule := by
  have hran := accountRuntime_guarded h
  constructor
  · intro earlier hearlier
    have hguarded := (hran.suffix hearlier).sound 0
    rw [List.drop_zero] at hguarded
    exact hguarded.safe
  · exact fun c hc => commit_safe (hran.sees_of_mem hc) (h c hc)
  · intro later settle between start earlier w hcommits hbefore hstarted hw hsettled huser
    exact status_restored h hcommits hstarted hw hsettled hbefore huser
  · intro later settle between change earlier w hcommits hchanged hstatus hw hsettled hothers
    exact status_kept h hcommits hchanged hw hsettled hstatus hothers

/-! ### Samples -/

def migratedReport : AccountTx :=
  sampleReport (.migrateToolAccountRuntime 3) .succeeded
    [("migrated".toList, .bool true), ("runtime_backend".toList, .string "native".toList)]

/-- The bound account is migrated to the native backend. -/
def migratedRun : List (Scheduled AccountTx) :=
  [.fresh migratedReport, .fresh (.poll 4 1 []), .fresh (.migrateRuntime ⟨1, "native".toList, plain⟩)]
    ++ boundRun

/-- The account is migrated back, and the node sends its report of the binding again. -/
def reboundMigration : List (Scheduled AccountTx) :=
  [.fresh boundReport, .fresh (.migrateRuntime ⟨1, "docker_sandbox".toList, plain⟩)] ++ migratedRun

/-- The second migration of the account. -/
def backMigration : Work :=
  .migrateToolAccountRuntime 4
    ⟨1, 2, "claude".toList, "native".toList, "docker_sandbox".toList⟩

/-- A report of an old binding that comes again moves an account off the source of its
migration. -/
theorem rebinding_moves_source : ¬∀ settings world schedule, SafeRun settings world schedule := by
  intro h
  have hsafe := (h sampleSettings sampleWorld reboundMigration).states _ (List.suffix_refl _)
  have hout : ((accountRuntime sampleSettings sampleWorld).state reboundMigration).Outstanding
      backMigration := by
    refine ⟨by decide +kernel, rfl, ?_, ?_⟩
    · unfold succeeded
      decide +kernel
    · unfold succeeded
      decide +kernel
  have hsource := hsafe.source _ hout _ rfl
  revert hsource
  decide +kernel

/-- A migration of a bound account. -/
theorem migrations_safe_migrated : SafeRun sampleSettings sampleWorld migratedRun := by
  refine migrations_safe sampleSettings sampleWorld migratedRun fun c hc => ?_
  unfold migratedRun boundRun at hc
  simp only [List.cons_append, List.nil_append, Transactions.commits_cons, Transactions.commits_nil,
    List.mem_cons, List.not_mem_nil, or_false] at hc
  rcases hc with rfl | rfl | rfl | rfl | rfl | rfl | rfl | rfl | rfl
  · refine ⟨?_, fun _ _ _ _ => ⟨by decide +kernel, nofun⟩⟩
    decide +kernel
  · exact trivial
  · exact fun _ _ => ⟨by decide +kernel, by decide +kernel⟩
  · refine ⟨?_, fun _ _ _ _ => ⟨by decide +kernel, nofun⟩⟩
    decide +kernel
  · exact trivial
  · exact fun _ _ => by decide +kernel
  · refine ⟨?_, fun _ _ _ _ => ⟨by decide +kernel, nofun⟩⟩
    decide +kernel
  · exact trivial
  · exact trivial

end AgentRemote.AccountRuntime
