import AgentRemote.AccountRuntime.Settling

/-!
# Where the sessions of an account run

All started sessions of an account are on one node and use one backend, in runs in which no
report of a binding changes the backend of an account that has started sessions, or of one that
a creation has read and not yet written.
-/

namespace AgentRemote.AccountRuntime
open Library PortForwards Runtimes AccountDb

variable {settings : AccountSettings} {seen : ℕ → AccountDb} {a b db db' : AccountDb}

/-! ### Every commit -/

lemma requireNodeTask_eq_ok {nodeId : Uuid} {taskId : TaskName} {task : NodeTask}
    (h : requireNodeTask seen nodeId taskId = .ok task) :
    task ∈ (seen 0).tasks ∧ task.taskId = taskId := by
  unfold requireNodeTask at h
  split at h
  · cases h
  · next task' hfind =>
    obtain rfl := Except.ok.inj h
    exact getTask_eq_some (Option.filter_eq_some_iff.mp hfind).1

/-- The report of a task, by the type of the task. -/
lemma reportTask_cases {r : Report} {P : Prop} (h : reportTask settings seen db r = .ok db')
    (hsession : ∀ task sessionId, requireNodeTask seen r.nodeId r.taskId = .ok task →
      task.taskId.ofRuntime = false → reportSession db task sessionId r = .ok db' → P)
    (hbinding : ∀ task, requireNodeTask seen r.nodeId r.taskId = .ok task →
      task.taskId.ofBinding → db' = reportBinding seen db task r → P)
    (hmigration : ∀ task payload, requireNodeTask seen r.nodeId r.taskId = .ok task →
      task.work.migration? = some payload →
      reportMigration settings seen db task payload r = .ok db' → P)
    (hrecovery : ∀ task, requireNodeTask seen r.nodeId r.taskId = .ok task →
      reportRecovery settings seen db task r = .ok db' → P) : P := by
  unfold reportTask at h
  obtain ⟨task, htask, h⟩ := bind_eq_ok.mp h
  split at h
  · next sessionId hwork =>
    refine hsession task sessionId htask ?_ h
    unfold NodeTask.taskId
    rw [hwork]
    rfl
  · next sessionId preserve hwork =>
    refine hsession task sessionId htask ?_ h
    unfold NodeTask.taskId
    rw [hwork]
    cases preserve <;> rfl
  · next attempt hwork =>
    refine hbinding task htask ?_ (Except.ok.inj h).symm
    unfold NodeTask.taskId
    rw [hwork]
    rfl
  · next attempt hwork =>
    refine hbinding task htask ?_ (Except.ok.inj h).symm
    unfold NodeTask.taskId
    rw [hwork]
    rfl
  · next attempt payload hwork =>
    refine hmigration task payload htask ?_ h
    rw [hwork]
    rfl
  · exact hrecovery task htask h

section

variable (hdb : db.Sound) (hseen : ∀ i, (seen i).Sound) (hcurrent : ∀ i, (seen i).Follows db)

include hdb hseen hcurrent

lemma reportTask_kept {r : Report} (h : reportTask settings seen db r = .ok db') :
    Kept db db' := by
  have hknown : ∀ task, requireNodeTask seen r.nodeId r.taskId = .ok task → task.work ∈ db.works :=
    fun task htask => (hcurrent 0).works.subset (mem_works (requireNodeTask_eq_ok htask).1)
  refine reportTask_cases h (fun task sessionId _ hruntime h => ?_)
    (fun task htask hbinding h => ?_) (fun task payload _ hwork h => ?_) (fun task htask h => ?_)
  · exact (reportSession_kept hdb hruntime h).1
  · rw [h]
    exact reportBinding_kept hdb (accountLocked_view hdb hseen hcurrent 2) hbinding
      (hknown task htask)
  · exact reportMigration_kept hdb hseen hcurrent hwork h
  · exact reportRecovery_kept hdb hseen hcurrent (hknown task htask) h

/-- Every operation that takes effect keeps the state sound. -/
theorem outcome_kept {t : AccountTx} (h : t.outcome settings seen db = .ok db') : Kept db db' := by
  cases t with
  | createSession r => exact createSession_kept hdb hseen hcurrent h
  | stopSession userId sessionId =>
    obtain ⟨b, hends, rfl⟩ := stopSession_ends h
    exact hends.kept hdb
  | reconcile nodeId reports =>
    obtain ⟨b, hends, hafter⟩ := reconcile_ends seen db nodeId reports
    obtain rfl := Except.ok.inj h
    rw [hafter]
    exact hends.kept hdb
  | startBinding r =>
    obtain ⟨node, hsettled, rfl⟩ := startBinding_eq_ok h
    have hview := userLocked_view hdb hseen hcurrent 1
    exact withBinding_kept hdb (hview.none_outstanding hsettled) hview.sound node
  | verifyBinding userId accountId =>
    obtain ⟨node, rfl⟩ := verifyBinding_eq_ok h
    exact withVerification_kept hdb (accountLocked_view hdb hseen hcurrent 0) node
  | disableAccount userId accountId => exact disableAccount_kept hdb h
  | updateAccount r => exact updateAccount_kept hdb h
  | migrateRuntime r => exact migrateRuntime_kept hdb hseen hcurrent h
  | submitRecovery accountId r expected around =>
    exact submitRecovery_kept hdb hseen hcurrent h
  | authorizeRecovery around nodeId taskId =>
    obtain ⟨-, -, h⟩ := bind_eq_ok.mp h
    obtain rfl := Except.ok.inj h
    exact releaseUser_kept hdb
  | renewRecovery around nodeId taskId expected leaseSeconds => exact renewRecovery_kept hdb h
  | poll nodeId limit held =>
    obtain rfl := Except.ok.inj h
    exact pollTasks_kept hdb nodeId limit held
  | start around nodeId taskId => exact startTask_kept hdb h
  | report r => exact reportTask_kept hdb hseen hcurrent h
  | reportNode node =>
    obtain rfl := Except.ok.inj h
    exact Rewrites.kept (b := { db with nodes := put Node.id db.nodes node })
      (rewrites_refl rfl rfl rfl) hdb rfl rfl rfl le_rfl rfl
  | tick elapsed =>
    obtain rfl := Except.ok.inj h
    exact Rewrites.kept (b := { db with clock := db.clock + elapsed })
      (rewrites_refl rfl rfl rfl) hdb rfl rfl rfl le_rfl rfl

end

/-- A commit that takes effect, or leaves the state as it was. -/
lemma commit_cases (settings : AccountSettings) (t : AccountTx) (seen : ℕ → AccountDb)
    (db : AccountDb) :
    t.outcome settings seen db = .ok (t.commit settings seen db).1 ∨
      (t.commit settings seen db).1 = db ∧ ∃ e, t.outcome settings seen db = .error e := by
  unfold AccountTx.commit
  cases t.outcome settings seen db with
  | ok after => exact .inl rfl
  | error e => exact .inr ⟨rfl, e, rfl⟩

lemma commit_kept {world : AccountWorld} {c : Commit AccountDb AccountTx}
    (hsees : Transactions.Sees Sound Follows c) :
    Kept c.before ((accountRuntime settings world).after c) := by
  rcases commit_cases settings c.tx c.seen c.before with h | ⟨h, -⟩
  · exact outcome_kept hsees.before hsees.seen hsees.current h
  · unfold Transactions.after
    exact (congrArg (Kept c.before) h).mpr (kept_refl hsees.before)

lemma newAccountDb_sound (world : AccountWorld) : (newAccountDb world).Sound := by
  have hworks : ∀ w, w ∉ (newAccountDb world).works := fun w => List.not_mem_nil
  have hreceipts : ∀ r, r ∉ (newAccountDb world).receipts := fun r => List.not_mem_nil
  refine ⟨⟨List.nodup_nil, fun w hw => ?_, fun t ht => ?_, fun w hw => ?_, fun r hr => ?_⟩,
    fun w hw => ?_, fun _ _ => rfl, fun h => ?_, fun m hm => ?_⟩
  · exact absurd hw (hworks w)
  · exact absurd (mem_works ht) (hworks t.work)
  · exact absurd hw (hworks w)
  · exact absurd hr (hreceipts r)
  · exact absurd hw.mem (hworks w)
  · unfold newAccountDb at h
    cases h
  · unfold newAccountDb at hm
    cases hm

/-! ### One place -/

/-- All started sessions of the account are on one node and use one backend. -/
def AccountDb.OnePlace (db : AccountDb) : Prop :=
  ∀ s ∈ db.activeSessions, ∀ s' ∈ db.activeSessions,
    s.nodeId = s'.nodeId ∧ s.runtimeBackend = s'.runtimeBackend

/-- The sessions are in one place, on the backend of the account. -/
structure AccountDb.Pinned (db : AccountDb) : Prop where
  onePlace : db.OnePlace
  backend : ∀ s ∈ db.activeSessions, db.account.runtimeBackend = some s.runtimeBackend

/-- The backend that a report of a binding writes. -/
def reboundTo (seen : ℕ → AccountDb) (db : AccountDb) (r : Report) : Option Text :=
  match (requireNodeTask seen r.nodeId r.taskId).toOption with
  | none => none
  | some task =>
    let profile := (accountLocked seen db 2).profile
    match task.work, r.outcome with
    | .createBindingSession _, .succeeded =>
      if db.account.status = .disabled ∨ awaited profile task.work ≠ some task.taskId then none
      else textResult r.value "runtime_backend"
    | _, _ => none

/-- A creation that takes effect finds the backend of the account as it has read it, unless it
read none. A report of a binding that writes a backend writes the one there is, or finds no
started session. -/
def Steady (settings : AccountSettings) (c : Commit AccountDb AccountTx) : Prop :=
  match c.tx with
  | .createSession r => ∀ after, createSession settings c.seen c.before r = .ok after →
    (userLocked c.seen c.before 5).account.runtimeBackend = none ∨
      (userLocked c.seen c.before 5).account.runtimeBackend = c.before.account.runtimeBackend
  | .report r => ∀ backend ∈ reboundTo c.seen c.before r,
    c.before.account.runtimeBackend = some backend ∨ c.before.activeSessions = []
  | _ => True

lemma AccountDb.Pinned.of_empty {b : AccountDb} (h : b.activeSessions = []) : b.Pinned := by
  constructor
  · intro s hs
    rw [h] at hs
    cases hs
  · intro s hs
    rw [h] at hs
    cases hs

lemma AccountDb.Pinned.of_calm (h : a.Pinned) (hcalm : Calm a b)
    (hbackend : b.account.runtimeBackend = a.account.runtimeBackend) : b.Pinned := by
  constructor
  · intro s hs s' hs'
    obtain ⟨r, hr, hnode, hruntime⟩ := hcalm s hs
    obtain ⟨r', hr', hnode', hruntime'⟩ := hcalm s' hs'
    rw [hnode, hruntime, hnode', hruntime']
    exact h.onePlace r hr r' hr'
  · intro s hs
    obtain ⟨r, hr, -, hruntime⟩ := hcalm s hs
    rw [hbackend, hruntime]
    exact h.backend r hr

/-- A session is created on the node of those that are started. -/
lemma chooseSessionNode_pinned {pinned affinity candidates : AccountDb} {account : ToolAccount}
    {managed : Bool} {node : Node}
    (h : chooseSessionNode settings pinned affinity candidates account managed = .ok node) :
    pinned.activeSessions = [] ∨ ∃ s ∈ pinned.activeSessions, node.id = s.nodeId := by
  unfold chooseSessionNode at h
  dsimp only at h
  split at h
  · next s rest hactive =>
    split at h
    · next node' hnode =>
      obtain rfl := Except.ok.inj h
      exact .inr ⟨s, hactive ▸ List.mem_cons_self,
        key_of_lookup (Option.filter_eq_some_iff.mp hnode).1⟩
    · cases h
  · next hactive => exact .inl hactive

lemma withSession_pinned {copy : ToolAccount} {r : CreateSession} {node : Node}
    (hnode : ∀ s ∈ db.activeSessions, s.nodeId = node.id)
    (hcopied : ∀ s ∈ db.activeSessions, copy.runtimeBackend = some s.runtimeBackend)
    (hcopy : copy.runtimeBackend = none ∨ copy.runtimeBackend = db.account.runtimeBackend) :
    (withSession db copy r node).Pinned := by
  have hactive : (withSession db copy r node).activeSessions = db.activeSessions ++
      [createdSession db r node (copy.runtimeBackend.getD node.defaultRuntimeBackend)] :=
    List.filter_append ..
  have hbackend : (withSession db copy r node).account.runtimeBackend =
      some (copy.runtimeBackend.getD node.defaultRuntimeBackend) := by
    have hcolumn : flushColumn copy.runtimeBackend
        (some (copy.runtimeBackend.getD node.defaultRuntimeBackend)) db.account.runtimeBackend =
          some (copy.runtimeBackend.getD node.defaultRuntimeBackend) := by
      unfold flushColumn
      cases hread : copy.runtimeBackend with
      | none => exact if_neg nofun
      | some backend =>
        rw [hread] at hcopy
        rw [Option.getD_some, if_pos rfl]
        exact (hcopy.resolve_left nofun).symm
    exact hcolumn
  have hmem : ∀ s ∈ (withSession db copy r node).activeSessions,
      s.nodeId = node.id ∧
        s.runtimeBackend = copy.runtimeBackend.getD node.defaultRuntimeBackend := by
    intro s hs
    rw [hactive] at hs
    rcases List.mem_append.mp hs with hold | hnew
    · rw [hcopied s hold]
      exact ⟨hnode s hold, rfl⟩
    · rw [List.mem_singleton.mp hnew]
      exact ⟨rfl, rfl⟩
  constructor
  · intro s hs s' hs'
    rw [(hmem s hs).1, (hmem s hs).2, (hmem s' hs').1, (hmem s' hs').2]
    exact ⟨rfl, rfl⟩
  · intro s hs
    rw [hbackend, (hmem s hs).2]

section

variable (hdb : db.Sound) (hseen : ∀ i, (seen i).Sound) (hcurrent : ∀ i, (seen i).Follows db)
  (hpinned : db.Pinned)

include hdb hseen hcurrent hpinned

lemma createSession_pinned (hseen' : ∀ i, (seen i).Pinned) {r : CreateSession}
    (h : createSession settings seen db r = .ok db')
    (hcopy : (userLocked seen db 5).account.runtimeBackend = none ∨
      (userLocked seen db 5).account.runtimeBackend = db.account.runtimeBackend) :
    db'.Pinned := by
  obtain ⟨node, managed, -, hnode, rfl⟩ := createSession_eq_ok h
  have hactive := fun i => (userLocked_view hdb hseen hcurrent i).activeSessions
  refine withSession_pinned (fun s hs => ?_) (fun s hs => ?_) hcopy
  · rcases chooseSessionNode_pinned hnode with hempty | ⟨s', hs', hid⟩
    · rw [hactive 7, hempty] at hs
      cases hs
    · rw [hid]
      rw [← hactive 7] at hs'
      exact (hpinned.onePlace s hs s' hs').1
  · have hview : (userLocked seen db 5).Pinned := by
      unfold userLocked
      split_ifs
      · exact hseen' 5
      · exact hpinned
    rw [hactive 5] at hs
    exact hview.backend s hs

omit hdb hseen hcurrent in
lemma reportSession_pinned {task : NodeTask} {sessionId : Uuid} {r : Report}
    (h : reportSession db task sessionId r = .ok db') : db'.Pinned := by
  rcases reportSession_cases h with rfl | ⟨locked, -, -, rfl⟩
  · exact hpinned.of_calm (.of_eq rfl) rfl
  · exact hpinned.of_calm (b := releaseUser _)
      (applySessionTask_calm (a := db) (b := finishTask db locked r) task.work r sessionId rfl) rfl

omit hdb hseen hcurrent in
/-- A report of a binding that keeps the backend keeps the sessions in their place. -/
lemma reportBinding_pinned {task : NodeTask} {r : Report}
    (htask : requireNodeTask seen r.nodeId r.taskId = .ok task)
    (hsteady : ∀ backend ∈ reboundTo seen db r,
      db.account.runtimeBackend = some backend ∨ db.activeSessions = []) :
    (reportBinding seen db task r).Pinned := by
  have hrest : (settleTask db (seen 1) task r).sessions = db.sessions ∧
      (settleTask db (seen 1) task r).account = db.account := by
    unfold settleTask
    dsimp only
    by_cases hseen : ((seen 1).receipt task.taskId).isSome
    · rw [if_pos hseen]
      exact ⟨rfl, rfl⟩
    · rw [if_neg hseen]
      exact ⟨rfl, rfl⟩
  obtain ⟨hsessions, haccount⟩ := hrest
  unfold reportBinding
  dsimp only
  split_ifs with hskip
  · exact hpinned.of_calm (b := releaseAccount _) (.of_eq hsessions)
      (congrArg ToolAccount.runtimeBackend haccount)
  · by_cases hempty : db.activeSessions = []
    · exact .of_empty (b := releaseAccount _) <|
        Calm.empty (a := db) (b := releaseAccount _) (.of_eq hsessions) hempty
    · refine hpinned.of_calm (b := releaseAccount _) (.of_eq hsessions) ?_
      have hkept : (bindingApplied task.work r db.account).runtimeBackend =
          db.account.runtimeBackend := by
        unfold reboundTo at hsteady
        rw [toOption_eq_some.mpr htask] at hsteady
        unfold bindingApplied
        split
        · next attempt hwork houtcome =>
          simp only [hwork, houtcome] at hsteady hskip
          rw [if_neg hskip] at hsteady
          dsimp only
          cases hvalue : textResult r.value "runtime_backend" with
          | none => rfl
          | some backend => exact ((hsteady backend hvalue).resolve_right hempty).symm
        · rfl
        · rfl
      exact hkept

lemma reportTask_pinned {r : Report} (h : reportTask settings seen db r = .ok db')
    (hsteady : ∀ backend ∈ reboundTo seen db r,
      db.account.runtimeBackend = some backend ∨ db.activeSessions = []) : db'.Pinned := by
  refine reportTask_cases h (fun task sessionId _ _ h => reportSession_pinned hpinned h)
    (fun task htask _ h => ?_) (fun task payload _ hwork h => ?_) (fun task _ h => ?_)
  · rw [h]
    exact reportBinding_pinned hpinned htask hsteady
  · rcases reportMigration_cases h with rfl | ⟨copy, m, hcopy, hsame, hnone, -, -, rfl⟩
    · exact hpinned.of_calm (.of_eq rfl) rfl
    · have hmigration : task.work.migration?.isSome := by
        rw [hwork]
        rfl
      have hmem : task.work ∈ db.works := by
        rw [← hsame]
        exact (userLocked_view hdb hseen hcurrent 1).follows.works.subset (mem_works hcopy)
      have hreported : ¬db.reported task.taskId :=
        (userLocked_view hdb hseen hcurrent 2).not_reported (runtime_of_migration hmigration) hnone
      have hempty := hdb.still _ (hdb.outstanding hmem hmigration hreported)
      exact .of_empty (b := writeMigration _ _ _ _ _) hempty
  · rcases reportRecovery_cases h with
      rfl | ⟨current, binding, m, -, -, -, -, -, -, hcurrently, rfl⟩
    · exact hpinned.of_calm (.of_eq rfl) rfl
    · have hempty := activeSessions_of_unfinished hcurrently.sessions
      rw [← (userLocked_view hdb hseen hcurrent 10).activeSessions] at hempty
      exact .of_empty (b := writeMigration _ _ _ _ _) hempty

/-- What takes effect steadily keeps the sessions in their place. -/
lemma outcome_pinned (hseen' : ∀ i, (seen i).Pinned) {t : AccountTx}
    (hsteady : Steady settings ⟨t, seen, db⟩) (h : t.outcome settings seen db = .ok db') :
    db'.Pinned := by
  unfold Steady at hsteady
  cases t with
  | createSession r =>
    exact createSession_pinned hdb hseen hcurrent hpinned hseen' h (hsteady db' h)
  | stopSession userId sessionId =>
    obtain ⟨b, hends, rfl⟩ := stopSession_ends h
    exact hpinned.of_calm (b := releaseUser b) hends.calm
      (congrArg ToolAccount.runtimeBackend hends.account)
  | reconcile nodeId reports =>
    obtain ⟨b, hends, hafter⟩ := reconcile_ends seen db nodeId reports
    obtain rfl := Except.ok.inj h
    rw [hafter]
    exact hpinned.of_calm (b := releaseUser b) hends.calm
      (congrArg ToolAccount.runtimeBackend hends.account)
  | startBinding r =>
    obtain ⟨node, -, rfl⟩ := startBinding_eq_ok h
    by_cases hempty : db.activeSessions = []
    · exact .of_empty (b := withBinding db _ node) hempty
    · obtain ⟨s, hs⟩ := List.exists_mem_of_ne_nil _ hempty
      refine hpinned.of_calm (b := withBinding db _ node) (.of_eq rfl) ?_
      have hbackend : some (db.account.runtimeBackend.getD node.defaultRuntimeBackend) =
          db.account.runtimeBackend := by
        rw [hpinned.backend s hs]
        rfl
      exact hbackend
  | verifyBinding userId accountId =>
    obtain ⟨node, rfl⟩ := verifyBinding_eq_ok h
    exact hpinned.of_calm (b := withVerification db _ node) (.of_eq rfl) rfl
  | disableAccount userId accountId =>
    rw [disableAccount_eq_ok h]
    exact hpinned.of_calm (b := releaseAccount _) (.of_eq rfl) rfl
  | updateAccount r =>
    obtain ⟨-, rfl⟩ := updateAccount_eq_ok h
    exact hpinned.of_calm (b := flushAccount db _ _) (.of_eq rfl) (flushColumn_self _ _)
  | migrateRuntime r =>
    obtain ⟨source, node, -, -, -, hsessions, rfl⟩ := migrateRuntime_eq_ok h
    have hempty := activeSessions_of_unfinished hsessions
    rw [← (userLocked_view hdb hseen hcurrent 3).activeSessions] at hempty
    exact .of_empty (b := withMigration db _ _ _ _) hempty
  | submitRecovery accountId r expected around =>
    rcases submitRecovery_cases h with rfl | ⟨binding, m, nodeId, -, -, -, -, rfl⟩
    · exact hpinned.of_calm (.of_eq rfl) rfl
    · exact hpinned.of_calm (b := withRecovery db _ m r nodeId binding) (.of_eq rfl) rfl
  | authorizeRecovery around nodeId taskId =>
    obtain ⟨-, -, h⟩ := bind_eq_ok.mp h
    obtain rfl := Except.ok.inj h
    exact hpinned.of_calm (.of_eq rfl) rfl
  | renewRecovery around nodeId taskId expected leaseSeconds =>
    obtain ⟨hsessions, haccount⟩ := renewRecovery_rest h
    exact hpinned.of_calm (.of_eq hsessions) (congrArg ToolAccount.runtimeBackend haccount)
  | poll nodeId limit held =>
    obtain rfl := Except.ok.inj h
    exact hpinned.of_calm (.of_eq rfl) rfl
  | start around nodeId taskId =>
    obtain ⟨hsessions, haccount⟩ := startTask_rest h
    exact hpinned.of_calm (.of_eq hsessions) (congrArg ToolAccount.runtimeBackend haccount)
  | report r => exact reportTask_pinned hdb hseen hcurrent hpinned h hsteady
  | reportNode node =>
    obtain rfl := Except.ok.inj h
    exact hpinned.of_calm (.of_eq rfl) rfl
  | tick elapsed =>
    obtain rfl := Except.ok.inj h
    exact hpinned.of_calm (.of_eq rfl) rfl

end

/-! ### Runs -/

section

variable {world : AccountWorld} {schedule : List (Scheduled AccountTx)}

lemma commit_pinned {c : Commit AccountDb AccountTx}
    (hsees : Transactions.Sees (fun db => db.Sound ∧ db.Pinned) Follows c)
    (hsteady : Steady settings c) : ((accountRuntime settings world).after c).Pinned := by
  rcases commit_cases settings c.tx c.seen c.before with h | ⟨h, -⟩
  · exact outcome_pinned hsees.before.1 (fun i => (hsees.seen i).1) hsees.current hsees.before.2
      (fun i => (hsees.seen i).2) hsteady h
  · unfold Transactions.after
    exact (congrArg Pinned h).mpr hsees.before.2

lemma accountRuntime_pinned
    (h : ∀ c ∈ (accountRuntime settings world).commits schedule, Steady settings c) :
    (accountRuntime settings world).Ran (fun db => db.Sound ∧ db.Pinned) Follows schedule := by
  refine Transactions.ran_of_step Follows.refl Follows.trans
    ⟨newAccountDb_sound world, .of_empty rfl⟩ (fun c hsees hsteady => ?_) h
  have hsound : Transactions.Sees Sound Follows c :=
    ⟨hsees.before.1, fun i => (hsees.seen i).1, hsees.current⟩
  have hkept : Kept c.before ((accountRuntime settings world).after c) := commit_kept hsound
  exact ⟨⟨hkept.sound, commit_pinned hsees hsteady⟩, hkept.follows⟩

end

/-- In a steady run all started sessions of the account are on one node and use one backend, in
every state. -/
theorem sessions_onePlace (settings : AccountSettings) (world : AccountWorld)
    (schedule : List (Scheduled AccountTx))
    (h : ∀ c ∈ (accountRuntime settings world).commits schedule, Steady settings c) :
    ∀ earlier, earlier <:+ schedule →
      ((accountRuntime settings world).state earlier).OnePlace := by
  intro earlier hearlier
  have hsound := ((accountRuntime_pinned h).suffix hearlier).sound 0
  rw [List.drop_zero] at hsound
  exact hsound.2.onePlace

/-! ### Samples -/

/-- Identifiers as texts of as many digits. -/
def unaryUuid : UuidText := ⟨fun id => List.replicate id '0', fun s => some s.length, UuidText.unary⟩

def sampleSettings : AccountSettings := ⟨unaryUuid, 60, 60⟩

def sampleNode : Node where
  id := 4
  status := .healthy
  regionCode := "eu".toList
  tags := []
  weight := 100
  supportedToolTypes := ["claude".toList]
  allowedRuntimeBackends := runtimeBackends
  defaultRuntimeBackend := "docker_sandbox".toList
  runtimeCapabilities := [("backends".toList, .array (runtimeBackends.map .string))]
  lastHeartbeatAt := none

def sampleWorld : AccountWorld where
  accountId := 1
  userId := 2
  toolType := "claude".toList
  regionCode := "eu".toList
  preferredNodeTags := []
  workspaces := [⟨3, 2, "app".toList, some "/home/app".toList⟩]
  nodes := [sampleNode]
  clock := 0
  nodeIds := by decide

def plain : Surroundings := ⟨true, true⟩

def sampleReport (taskId : TaskName) (outcome : TaskOutcome) (value : JsonObject) : AccountTx :=
  .report ⟨4, taskId, outcome, value, true, true, plain⟩

def sampleCreation : AccountTx :=
  .createSession ⟨2, "claude".toList, 1, 3, "app".toList, none, .unmanaged⟩

def boundReport : AccountTx :=
  sampleReport (.createBindingSession 1) .succeeded
    [("status".toList, .string "ready".toList),
      ("runtime_backend".toList, .string "docker_sandbox".toList)]

def verifiedReport : AccountTx :=
  sampleReport (.verifyToolAccount 2) .succeeded [("verified".toList, .bool true)]

/-- The account is bound and verified. -/
def boundRun : List (Scheduled AccountTx) :=
  [.fresh verifiedReport, .fresh (.poll 4 1 []), .fresh (.verifyBinding 2 1), .fresh boundReport,
    .fresh (.poll 4 1 []), .fresh (.startBinding ⟨2, 1, true, plain⟩)]

/-- The bound account is migrated, gets a session, and gets another one after the node has sent
its reports of the binding and of the verification again. -/
def reboundRun : List (Scheduled AccountTx) :=
  [.fresh sampleCreation, .fresh verifiedReport, .fresh boundReport, .fresh sampleCreation,
    .fresh (sampleReport (.migrateToolAccountRuntime 3) .succeeded
      [("migrated".toList, .bool true), ("runtime_backend".toList, .string "native".toList)]),
    .fresh (.poll 4 1 []), .fresh (.migrateRuntime ⟨1, "native".toList, plain⟩)] ++ boundRun

/-- A report of an old binding that comes again moves an account with a session to the backend
it had before. -/
theorem rebinding_splits_sessions : ¬∀ settings world schedule,
    ((accountRuntime settings world).state schedule).OnePlace := by
  intro h
  have hbackends : (((accountRuntime sampleSettings sampleWorld).state reboundRun).activeSessions.map
      Session.runtimeBackend) = ["native".toList, "docker_sandbox".toList] := by decide +kernel
  have hsame := h sampleSettings sampleWorld reboundRun
  unfold OnePlace at hsame
  have hall : ∀ b ∈ ((accountRuntime sampleSettings sampleWorld).state reboundRun).activeSessions.map
      Session.runtimeBackend, ∀ b' ∈ ((accountRuntime sampleSettings sampleWorld).state
        reboundRun).activeSessions.map Session.runtimeBackend, b = b' := by
    intro b hb b' hb'
    obtain ⟨s, hs, rfl⟩ := List.mem_map.mp hb
    obtain ⟨s', hs', rfl⟩ := List.mem_map.mp hb'
    exact (hsame s hs s' hs').2
  rw [hbackends] at hall
  revert hall
  decide

/-- Two sessions of a bound account. -/
theorem sessions_onePlace_bound :
    ((accountRuntime sampleSettings sampleWorld).state
      (.fresh sampleCreation :: .fresh sampleCreation :: boundRun)).OnePlace := by
  refine sessions_onePlace sampleSettings sampleWorld _ (fun c hc => ?_) _ (List.suffix_refl _)
  unfold boundRun at hc
  simp only [Transactions.commits_cons, Transactions.commits_nil, List.mem_cons, List.not_mem_nil,
    or_false] at hc
  rcases hc with rfl | rfl | rfl | rfl | rfl | rfl | rfl | rfl
  · exact fun _ _ => .inr (by decide +kernel)
  · exact fun _ _ => .inr (by decide +kernel)
  · intro backend hbackend
    revert backend
    decide +kernel
  · exact trivial
  · exact trivial
  · intro backend hbackend
    revert backend
    decide +kernel
  · exact trivial
  · exact trivial

end AgentRemote.AccountRuntime
