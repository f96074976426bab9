import AgentRemote.AccountRuntime.Service

/-!
# Migrating the backend of a tool account

A migration and the recovery tasks that check how one ended, each under the usage row of the
owner, as far as the account that is read there goes.
-/

namespace AgentRemote.AccountRuntime
open Library PortForwards Runtimes

variable (settings : AccountSettings) (seen : ℕ → AccountDb) (db : AccountDb)

/-- The backends there are. -/
def runtimeBackends : List Text := ["docker_sandbox".toList, "native".toList]

structure MigrateRuntime where
  accountId : Uuid
  targetBackend : Text
  around : Surroundings

/-- The node of a migration, when it offers the target. -/
def requireMigrationNode (view : AccountDb) (account : ToolAccount) (target : Text) :
    Except RuntimeFailure Node := do
  reject (account.affinityNodeId = none) <|
    apiError "RUNTIME_MIGRATION_NODE_MISSING" "Tool account has no affinity node." 409
  match (account.affinityNodeId.bind view.getNode).filter (target ∈ ·.allowedRuntimeBackends) with
  | none =>
    .error <| apiError "RUNTIME_BACKEND_UNAVAILABLE"
      "Target runtime is not allowed on the account node." 409
  | some node => do
    reject (¬node.reportedBackends.any (some target ∈ ·)) <| apiError "RUNTIME_BACKEND_UNAVAILABLE"
      "Target runtime capability is unavailable on the account node." 409
    return node

/-- The migration that a profile holds from its start. -/
def startedMigration (taskId : TaskName) (payload : MigrationPayload) (previous : AccountStatus) :
    RuntimeMigration where
  taskId := taskId
  sourceRuntimeBackend := payload.sourceRuntimeBackend
  targetRuntimeBackend := payload.targetRuntimeBackend
  previousStatus := previous
  status := .pending
  recoveryTaskId := none
  recoveryStatus := none

/-- `migrate_runtime`. -/
def migrateRuntime (r : MigrateRuntime) : Except RuntimeFailure AccountDb := do
  let view := userLocked seen db
  reject ((seen 0).account.id ≠ r.accountId) accountNotFound
  let account := (view 1).account
  let profile := (view 2).profile
  requireLegacyAccountWriter r.around profile
  match account.runtimeBackend.filter (· ∈ runtimeBackends) with
  | none =>
    .error <| apiError "RUNTIME_BACKEND_NOT_PINNED"
      "Tool account does not have a pinned runtime backend." 409
  | some source => do
    reject (r.targetBackend ∉ runtimeBackends ∨ r.targetBackend = source) <|
      apiError "RUNTIME_MIGRATION_INVALID_TARGET"
        "Target runtime backend is invalid or unchanged." 409
    reject ((view 3).unfinishedSessions ≠ []) <| apiError "RUNTIME_MIGRATION_ACTIVE_SESSIONS"
      "Stop all active sessions before migrating the account." 409
    let node ← requireMigrationNode (view 4) account r.targetBackend
    let payload : MigrationPayload :=
      ⟨account.id, account.userId, account.toolType, source, r.targetBackend⟩
    let work := Work.migrateToolAccountRuntime db.nextId payload
    let db := flushAccount db account { account with status := .migrating }
    let migration := startedMigration work.taskId payload account.status
    let db := { db with profile := { profile with runtimeMigration := some migration } }
    return releaseUser (addTask db node.id work)

/-! ### Results of migrations -/

/-- A report of a node. `agrees` says whether the guards of managed sessions and of the form of
a stop let it through, `sameValue` whether it equals what was recorded. -/
structure Report where
  nodeId : Uuid
  taskId : TaskName
  outcome : TaskOutcome
  value : JsonObject
  agrees : Bool
  sameValue : Bool
  around : Surroundings

def conflict (code message : String) : RuntimeFailure := apiError code message 409

def migrationResultConflict : RuntimeFailure := conflict "RUNTIME_MIGRATION_RESULT_CONFLICT"
  "Backend migration result differs from the original operation or saved result."

/-- `_text_result`. -/
def textResult (value : JsonObject) (key : String) : Option Text :=
  (value.text? key.toList).filter (· ≠ [])

/-- A successful report proves that the target is ready. -/
def provesTarget (uuid : UuidText) (payload : MigrationPayload) (value : JsonObject) : Bool :=
  isTrue (value.get "migrated".toList) ∧
    textResult value "runtime_backend" = some payload.targetRuntimeBackend ∧
    ((value.get "tool_account_id".toList).isNone ∨
      value.text? "tool_account_id".toList = some (uuid.str payload.toolAccountId))

/-- Whether a receipt repeats a report. -/
def replays (saved : NodeTaskResult) (task : NodeTask) (r : Report) (same : Bool) : Bool :=
  saved.nodeTaskId = task.id ∧ saved.status = r.outcome ∧ task.status = r.outcome.status ∧ same

/-- The state once the account and its profile are written and the usage row is released. -/
def writeMigration (db : AccountDb) (copy new : ToolAccount) (profile : Profile)
    (migration : RuntimeMigration) : AccountDb :=
  let db := flushAccount db copy new
  releaseUser { db with profile := { profile with runtimeMigration := some migration } }

/-- The task once its end is written. -/
def finished (name : TaskName) (outcome : TaskOutcome) (t : NodeTask) : NodeTask :=
  if t.taskId = name then { t with status := outcome.status } else t

/-- The receipt and the status of a task that ends. -/
def finishTask (db : AccountDb) (task : NodeTask) (r : Report) : AccountDb :=
  { db with
    tasks := db.tasks.map (finished task.taskId r.outcome)
    receipts := db.receipts ++ [⟨task.id, task.taskId, r.outcome,
      if r.outcome = .succeeded then some r.value else none,
      if r.outcome = .failed then some r.value else none⟩] }

/-- The migration of a profile is that of `task`, with the backends of its payload. -/
def RuntimeMigration.isOf (migration : RuntimeMigration) (taskId : TaskName)
    (payload : MigrationPayload) : Bool :=
  migration.taskId = taskId ∧
    migration.sourceRuntimeBackend = payload.sourceRuntimeBackend ∧
    migration.targetRuntimeBackend = payload.targetRuntimeBackend

/-- What a migration task must still find when its first result arrives. -/
def originalMigration (task : NodeTask) (payload : MigrationPayload) (account : ToolAccount)
    (profile : Profile) : Except RuntimeFailure RuntimeMigration := do
  reject (account.id ≠ payload.toolAccountId ∨ account.userId ≠ payload.userId ∨
    account.affinityNodeId ≠ some task.nodeId ∨
    (task.status ≠ .leased ∧ task.status ≠ .running) ∨
    account.runtimeBackend ≠ some payload.sourceRuntimeBackend ∨
    payload.toolType ≠ account.toolType) migrationResultConflict
  reject (payload.sourceRuntimeBackend ∉ runtimeBackends ∨
    payload.targetRuntimeBackend ∉ runtimeBackends ∨
    payload.sourceRuntimeBackend = payload.targetRuntimeBackend) migrationResultConflict
  match profile.runtimeMigration.filter fun m => m.isOf task.taskId payload ∧ m.status = .pending with
  | none => .error migrationResultConflict
  | some migration => .ok migration

/-- The account and the migration that the result of a migration leaves. -/
def migrationApplied (outcome : TaskOutcome) (account : ToolAccount) (migration : RuntimeMigration)
    (payload : MigrationPayload) : ToolAccount × RuntimeMigration :=
  match outcome with
  | .succeeded =>
    ({ account with
        runtimeBackend := some payload.targetRuntimeBackend
        status := if account.status = .migrating then migration.previousStatus else account.status },
      { migration with status := .succeeded })
  | .failed =>
    ({ account with
        runtimeBackend := some payload.sourceRuntimeBackend
        status := if account.status = .disabled then .disabled else .migrating },
      { migration with status := .recoveryRequired })

/-- A report of a migration task, whose row is read again under the lock. -/
def reportMigration (task : NodeTask) (payload : MigrationPayload) (r : Report) :
    Except RuntimeFailure AccountDb := do
  let view := userLocked seen db
  match ((view 1).getTask task.taskId).filter fun t => t.nodeId = task.nodeId ∧ t.work = task.work with
  | none => .error migrationResultConflict
  | some task =>
    match (view 2).receipt task.taskId with
    | some saved => do
      reject (replays saved task r r.sameValue = false) migrationResultConflict
      return releaseUser db
    | none => do
      let account := (view 3).account
      let profile := (view 4).profile
      let migration ← originalMigration task payload account profile
      reject (r.outcome = .succeeded ∧ provesTarget settings.uuid payload r.value = false)
        migrationResultConflict
      let applied := migrationApplied r.outcome account migration payload
      return writeMigration (finishTask db task r) account applied.1 profile applied.2

/-! ### Recovery -/

def recoveryConflict : RuntimeFailure := conflict "RUNTIME_MIGRATION_RECOVERY_CONFLICT"
  "Original migration is not eligible for this recovery check."

def recoveryNotFound : RuntimeFailure :=
  apiError "COMMON_NOT_FOUND" "Migration recovery task was not found." 404

/-- `_account`, of the account it reads under the lock. -/
def recoveryAccount (around : Surroundings) (account : ToolAccount) (accountId : Uuid) :
    Except RuntimeFailure Unit :=
  reject (account.id ≠ accountId ∨ around.ownerActive = false) recoveryNotFound

/-- `_binding`. -/
def recoveryBinding (task : NodeTask) : Except RuntimeFailure RuntimeRecoveryBinding :=
  match task.work with
  | .recoverToolAccountRuntime _ binding => do
    reject (binding.taskId ≠ task.taskId ∨ binding.taskRecordId ≠ task.id ∨
      binding.nodeId ≠ task.nodeId) recoveryConflict
    return binding
  | _ => .error recoveryConflict

/-- The payload of a migration. -/
def Work.migration? : Work → Option MigrationPayload
  | .migrateToolAccountRuntime _ payload => some payload
  | _ => none

/-- A migration task as a recovery expects it. -/
def isOriginal (binding : RuntimeRecoveryBinding) (task : NodeTask) : Bool :=
  task.id = binding.originalTaskRecordId ∧ task.nodeId = binding.nodeId ∧
    (task.status = .failed ∨ task.status = .cancelled ∨ task.status = .expired) ∧
    task.work.migration? = some binding.payload

/-- `_current`, of the states its statements read. -/
def currentMigration (around : Surroundings) (original profile sessions : AccountDb)
    (binding : RuntimeRecoveryBinding) (account : ToolAccount) :
    Except RuntimeFailure RuntimeMigration := do
  reject (¬(original.getTask binding.originalTaskId).any (isOriginal binding)) recoveryConflict
  reject (account.id ≠ binding.payload.toolAccountId ∨ account.userId ≠ binding.payload.userId ∨
    account.affinityNodeId ≠ some binding.nodeId ∨
    account.toolType ≠ binding.payload.toolType ∨
    account.runtimeBackend ≠ some binding.payload.sourceRuntimeBackend ∨
    binding.payload.sourceRuntimeBackend = binding.payload.targetRuntimeBackend) recoveryConflict
  match profile.profile.runtimeMigration.filter fun m =>
      m.isOf binding.originalTaskId binding.payload ∧ m.status.settled = false with
  | none => .error recoveryConflict
  | some migration => do
    reject (around.legacyDirectory = false) recoveryConflict
    reject (sessions.unfinishedSessions ≠ []) recoveryConflict
    return migration

structure RecoveryRequest where
  originalTaskId : TaskName
  requestId : Uuid
  action : Option RecoveryAction

/-- The binding that a request gives its task. -/
def requestedBinding (recordId : Uuid) (r : RecoveryRequest) (original : NodeTask)
    (payload : MigrationPayload) : RuntimeRecoveryBinding where
  action := r.action
  taskId := .recoverToolAccountRuntime r.requestId
  taskRecordId := recordId
  originalTaskId := original.taskId
  originalTaskRecordId := original.id
  nodeId := original.nodeId
  payload := payload

/-- `RuntimeRecoveryOriginal`: a migration task as it was reviewed. -/
structure RuntimeRecoveryOriginal where
  taskId : TaskName
  taskRecordId : Uuid
  nodeId : Uuid
  payload : MigrationPayload
  deriving DecidableEq

/-- `RuntimeRecoveryOriginal.from_binding`. -/
def RuntimeRecoveryBinding.original (binding : RuntimeRecoveryBinding) :
    RuntimeRecoveryOriginal :=
  ⟨binding.originalTaskId, binding.originalTaskRecordId, binding.nodeId, binding.payload⟩

def reviewChanged : RuntimeFailure := conflict "RUNTIME_MIGRATION_RECOVERY_REVIEW_CHANGED"
  "The reviewed original migration identity has changed."

/-- `submit`. -/
def submitRecovery (accountId : Uuid) (r : RecoveryRequest)
    (expectedOriginal : Option RuntimeRecoveryOriginal) (around : Surroundings) :
    Except RuntimeFailure AccountDb := do
  let view := userLocked seen db
  let account := (view 1).account
  recoveryAccount around account accountId
  let name := TaskName.recoverToolAccountRuntime r.requestId
  let invalid := if expectedOriginal.isSome then reviewChanged else recoveryConflict
  match (view 2).getTask name with
  | some saved => do
    let binding ← recoveryBinding saved
    reject (binding.originalTaskId ≠ r.originalTaskId ∨ binding.action ≠ r.action ∨
      binding.payload.userId ≠ account.userId ∨ binding.payload.toolAccountId ≠ account.id ∨
      expectedOriginal.any (· ≠ binding.original)) recoveryConflict
    return releaseUser db
  | none =>
    match (view 3).getTask r.originalTaskId with
    | none => .error invalid
    | some original => do
      reject (r.requestId = 0) recoveryConflict
      let payload ← (original.work.migration?.filter (·.toolType = "claude".toList)).elim
        (.error invalid) .ok
      let binding := requestedBinding db.nextId r original payload
      reject (expectedOriginal.any (· ≠ binding.original)) reviewChanged
      reject (payload.toolAccountId ≠ account.id ∨ payload.userId ≠ account.userId) recoveryConflict
      let migration ← currentMigration around (view 4) (view 5) (view 6) binding account
      reject (migration.recoveryTaskId.any fun previous =>
        ¬((view 7).getTask previous).any (·.status.terminal)) recoveryConflict
      let migration := { migration with
        recoveryTaskId := some name
        recoveryStatus := some .pending }
      let db := { db with profile := { (view 5).profile with runtimeMigration := some migration } }
      return releaseUser (addTask db original.nodeId (.recoverToolAccountRuntime r.requestId binding))

/-- `_lease`. -/
def requireLease (task : NodeTask) (now : Instant) : Except RuntimeFailure Unit :=
  reject ((task.status ≠ .leased ∧ task.status ≠ .running) ∨ task.retryCount = 0 ∨
    ¬task.leaseUntil.any (now < ·)) recoveryNotFound

/-- `authorize`, which locks the task. It gives the task, its binding and the migration. -/
def authorizeRecovery (around : Surroundings) (nodeId : Uuid) (taskId : TaskName) :
    Except RuntimeFailure (NodeTask × RuntimeRecoveryBinding) :=
  let view := userLocked seen db
  match ((seen 0).getTask taskId).filter (·.nodeId = nodeId) with
  | none => .error recoveryNotFound
  | some observed => do
    let binding ← recoveryBinding observed
    let account := (view 1).account
    recoveryAccount around account binding.payload.toolAccountId
    match (db.getTask taskId).filter fun t => t.nodeId = nodeId ∧ t.work = observed.work with
    | none => .error recoveryNotFound
    | some task => do
      requireLease task (seen 2).clock
      let migration ← currentMigration around (view 3) (view 4) (view 5) binding account
      reject (migration.recoveryTaskId ≠ some taskId ∨ migration.recoveryStatus ≠ some .pending)
        recoveryConflict
      return (task, binding)

/-- `renew`. -/
def renewRecovery (around : Surroundings) (nodeId : Uuid) (taskId : TaskName)
    (expected : RuntimeRecoveryBinding × ℕ) (leaseSeconds : ℕ) :
    Except RuntimeFailure AccountDb := do
  let (task, binding) ← authorizeRecovery seen db around nodeId taskId
  reject ((binding, task.retryCount) ≠ expected ∨ leaseSeconds = 0) recoveryConflict
  requireLease task (seen 6).clock
  let until_ := (seen 7).clock + seconds (min leaseSeconds 300)
  return releaseUser { db with
    tasks := db.tasks.map fun t => if t.taskId = taskId then { t with leaseUntil := some until_ }
      else t }

/-! ### Results of recoveries -/

section

variable (uuid : UuidText)

/-- The text of a logical identity. -/
def TaskName.text (accountId : Uuid) : TaskName → Text
  | createToolSession id => "create_tool_session:".toList ++ uuid.str id
  | stopToolSession id => "stop_tool_session:".toList ++ uuid.str id
  | cleanupToolSession id => "cleanup_tool_session:".toList ++ uuid.str id
  | createBindingSession id => named "create_binding_session" id
  | verifyToolAccount id => named "verify_tool_account" id
  | migrateToolAccountRuntime id => named "migrate_tool_account_runtime" id
  | recoverToolAccountRuntime id => named "recover_tool_account_runtime" id
where
  named (kind : String) (id : Uuid) : Text :=
    kind.toList ++ ':' :: uuid.str accountId ++ ':' :: uuid.str id

/-- The version of a binding, and its action as a member. -/
def actionMembers (action : Option RecoveryAction) : JsonObject :=
  match action with
  | none => [("version".toList, .int 1)]
  | some .verifySource =>
    [("version".toList, .int 2), ("action".toList, .string "verify_source".toList)]
  | some .repairSource =>
    [("version".toList, .int 3), ("action".toList, .string "repair_source".toList)]

/-- A binding as a node is given it. -/
def bindingJson (binding : RuntimeRecoveryBinding) : JsonObject :=
  let payload := binding.payload
  let name (taskId : TaskName) := JsonValue.string (taskId.text uuid payload.toolAccountId)
  actionMembers binding.action ++
    [("task_id".toList, name binding.taskId),
      ("task_record_id".toList, .string (uuid.str binding.taskRecordId)),
      ("original_task_id".toList, name binding.originalTaskId),
      ("original_task_record_id".toList, .string (uuid.str binding.originalTaskRecordId)),
      ("node_id".toList, .string (uuid.str binding.nodeId)),
      ("user_id".toList, .string (uuid.str payload.userId)),
      ("tool_account_id".toList, .string (uuid.str payload.toolAccountId)),
      ("tool_type".toList, .string payload.toolType),
      ("source_runtime_backend".toList, .string payload.sourceRuntimeBackend),
      ("target_runtime_backend".toList, .string payload.targetRuntimeBackend)]

/-- The only value that a result of a recovery may have. -/
def expectedRecoveryValue (binding : RuntimeRecoveryBinding) (leaseAttempt : ℕ)
    (outcome : TaskOutcome) : JsonObject :=
  match outcome with
  | .succeeded =>
    [("recovered".toList, .bool true),
      ("authorization".toList, .object [("binding".toList, .object (bindingJson uuid binding)),
        ("lease_attempt".toList, .int leaseAttempt)])]
  | .failed =>
    [("code".toList, .string "RUNTIME_MIGRATION_RECOVERY_REQUIRED".toList),
      ("message".toList, .string <| if binding.action = some .repairSource then
        ("Original backend migration still requires recovery; " ++
          "source restoration is not confirmed.").toList
        else
          ("Original backend migration still requires recovery; " ++
            "no account work was restarted.").toList),
      ("lease_attempt".toList, .int leaseAttempt)]

end

/-- The backend a successful recovery settles on. -/
def RuntimeRecoveryBinding.confirmed (binding : RuntimeRecoveryBinding) : Text :=
  if binding.action.isSome then binding.payload.sourceRuntimeBackend
  else binding.payload.targetRuntimeBackend

/-- The account and the migration that the result of a recovery leaves. -/
def recoveryApplied (outcome : TaskOutcome) (account : ToolAccount) (migration : RuntimeMigration)
    (binding : RuntimeRecoveryBinding) : ToolAccount × RuntimeMigration :=
  match outcome with
  | .succeeded =>
    ({ account with
        runtimeBackend := some binding.confirmed
        status := if account.status = .migrating then migration.previousStatus else account.status },
      { migration with
        recoveryStatus := some (.reported .succeeded)
        status := if binding.action.isSome then .rolledBack else .succeeded })
  | .failed => (account, { migration with recoveryStatus := some (.reported .failed) })

/-- `result`, the report of a recovery task. It reads the account again when it authorizes. -/
def reportRecovery (task : NodeTask) (r : Report) : Except RuntimeFailure AccountDb := do
  let view := userLocked seen db
  let binding ← recoveryBinding task
  recoveryAccount r.around (view 1).account binding.payload.toolAccountId
  match (db.getTask task.taskId).filter (·.work = task.work) with
  | none => .error recoveryConflict
  | some current =>
    match db.receipt task.taskId with
    | some saved => do
      reject (replays saved current r ((saved.result.or saved.error).any (sameJson r.value)) = false)
        recoveryConflict
      return releaseUser db
    | none => do
      let later := fun i => seen (i + 2)
      let (current, _) ← authorizeRecovery later db r.around binding.nodeId binding.taskId
      reject (sameJson r.value
        (expectedRecoveryValue settings.uuid binding current.retryCount r.outcome) = false)
        recoveryConflict
      let account := (view 3).account
      let migration ← currentMigration r.around (view 8) (view 9) (view 10) binding account
      let applied := recoveryApplied r.outcome account migration binding
      return writeMigration (finishTask db task r) account applied.1 (view 9).profile applied.2

end AgentRemote.AccountRuntime
