import AgentRemote.AccountRuntime.Migration

/-!
# Runs of a tool account

The tasks that nodes poll, start and report, and all transactions on an account.
-/

namespace AgentRemote.AccountRuntime
open Library PortForwards Runtimes

variable (settings : AccountSettings) (seen : ℕ → AccountDb) (db : AccountDb)

/-! ### Tasks -/

def taskNotFound : RuntimeFailure := apiError "COMMON_NOT_FOUND" "Task was not found." 404

/-- `_require_node_task`. -/
def requireNodeTask (nodeId : Uuid) (taskId : TaskName) : Except RuntimeFailure NodeTask :=
  match ((seen 0).getTask taskId).filter (·.nodeId = nodeId) with
  | none => .error taskNotFound
  | some task => .ok task

/-- A row of `list_pollable_tasks`. -/
def pollable (nodeId : Uuid) (now : Instant) (t : NodeTask) : Bool :=
  t.nodeId = nodeId ∧ (t.status = .pending ∨
    (t.status = .leased ∨ t.status = .running) ∧ t.leaseUntil.any (· ≤ now))

/-- `poll_tasks`, which tests the rows it finds again once it has locked them. Rows in `held` are
locked by others and skipped. -/
def pollTasks (nodeId : Uuid) (limit : ℕ) (held : List Uuid) : AccountDb :=
  let now := (seen 0).clock
  let polled := (db.tasks.filter fun t => ((seen 0).getTask t.taskId).any (pollable nodeId now) ∧
    pollable nodeId now t ∧ t.id ∉ held).take limit
  { db with tasks := db.tasks.map fun t =>
      if t ∈ polled then
        { t with
          status := .leased
          leaseUntil := some (now + seconds settings.nodeTaskLeaseSeconds)
          retryCount := t.retryCount + 1 }
      else t }

/-- The task once a status is written that changes the copy it was read as. -/
def statusWritten (copy : NodeTask) (status : TaskStatus) (t : NodeTask) : NodeTask :=
  if copy.status = status then t
  else if t.taskId = copy.taskId then { t with status := status } else t

def setTaskStatus (db : AccountDb) (copy : NodeTask) (status : TaskStatus) : AccountDb :=
  { db with tasks := db.tasks.map (statusWritten copy status) }

/-- `start_task`. A recovery is authorized, so that its task is locked and read again. -/
def startTask (around : Surroundings) (nodeId : Uuid) (taskId : TaskName) :
    Except RuntimeFailure AccountDb := do
  let task ← requireNodeTask seen nodeId taskId
  reject task.status.terminal (apiError "COMMON_CONFLICT" "Task is already terminal." 409)
  match task.work with
  | .recoverToolAccountRuntime .. => do
    let (task, _) ← authorizeRecovery (fun i => seen (i + 1)) db around nodeId taskId
    return releaseUser (setTaskStatus db task .running)
  | _ => return setTaskStatus db task .running

/-! ### Results for sessions -/

def sessionResultConflict : RuntimeFailure := conflict "SESSION_TASK_RESULT_CONFLICT"
  "Session task result conflicts with its original receipt."

/-- A creation that is reported ready, as the status of its session. -/
def readySession (value : JsonObject) : Option ToolSessionStatus :=
  let status := value.text? "status".toList
  if status = some "running".toList then some .running
  else if status = some "active".toList ∨ status = some "ready".toList then some .active
  else none

/-- The status of a session after the result of its task. -/
def sessionStatusAfter (work : Work) (r : Report) (status : ToolSessionStatus) :
    ToolSessionStatus :=
  match work, r.outcome with
  | .createToolSession _, .succeeded =>
    if status = .starting then (readySession r.value).getD .failed else status
  | .createToolSession _, .failed => if status = .starting then .failed else status
  | .stopToolSession _ preserve, .succeeded =>
    if preserve ∨ isTrue (r.value.get "unclean".toList) then .interrupted else .stopped
  | .stopToolSession _ preserve, .failed => if preserve then .interrupted else .stopping
  | _, _ => status

/-- `_apply_tool_session_task_result` and `_apply_tool_session_task_failure`. -/
def applySessionTask (db : AccountDb) (work : Work) (r : Report) (sessionId : Uuid) : AccountDb :=
  { db with sessions := db.sessions.map fun s =>
      if s.id = sessionId then { s with status := sessionStatusAfter work r s.status } else s }

/-- A report of the task of a session, which locks the session and the task. -/
def reportSession (task : NodeTask) (sessionId : Uuid) (r : Report) :
    Except RuntimeFailure AccountDb := do
  reject (r.agrees = false) sessionResultConflict
  match (db.getTask task.taskId).filter fun t => t.id = task.id ∧ t.nodeId = task.nodeId with
  | none => .error sessionResultConflict
  | some locked =>
    match db.receipt task.taskId with
    | some saved => do
      let recorded := if r.outcome = .succeeded then saved.result else saved.error
      let other := if r.outcome = .succeeded then saved.error else saved.result
      reject (replays saved locked r (other.isNone ∧ recorded.any (sameJson r.value)) = false)
        sessionResultConflict
      return releaseUser db
    | none => do
      reject locked.status.terminal sessionResultConflict
      return releaseUser (applySessionTask (finishTask db locked r) task.work r sessionId)

/-! ### Results for bindings -/

/-- The receipt of a report, unless there is one. The status is written to the task as it was
read. -/
def settleTask (db : AccountDb) (view : AccountDb) (task : NodeTask) (r : Report) : AccountDb :=
  let db := setTaskStatus db task r.outcome.status
  if (view.receipt task.taskId).isSome then db
  else
    { db with receipts := db.receipts ++ [⟨task.id, task.taskId, r.outcome,
        if r.outcome = .succeeded then some r.value else none,
        if r.outcome = .failed then some r.value else none⟩] }

/-- The task whose result `profile` waits for. -/
def awaited (profile : Profile) : Work → Option TaskName
  | .createBindingSession _ => profile.bindingTaskId
  | _ => profile.verificationTaskId

/-- A binding waits for the login of its user. -/
def reportsLogin (value : JsonObject) : Bool :=
  let status := value.text? "status".toList
  status = some "waiting_user_login".toList ∨ status = some "ready".toList

/-- The account after the result of a binding or of its verification. -/
def bindingApplied (work : Work) (r : Report) (account : ToolAccount) : ToolAccount :=
  match work, r.outcome with
  | .createBindingSession _, .succeeded =>
    { account with
      runtimeBackend := (textResult r.value "runtime_backend").or account.runtimeBackend
      status := if reportsLogin r.value then .bindingWaitingUserLogin else .failed }
  | .verifyToolAccount _, .succeeded =>
    { account with status := if isTrue (r.value.get "verified".toList) then .active else .failed }
  | _, _ => { account with status := .failed }

/-- A report of a binding or of its verification. It locks the account, and writes the profile
that it then reads. -/
def reportBinding (task : NodeTask) (r : Report) : AccountDb :=
  let settled := settleTask db (seen 1) task r
  let profile := (accountLocked seen db 2).profile
  if db.account.status = .disabled ∨ awaited profile task.work ≠ some task.taskId then
    releaseAccount settled
  else
    releaseAccount { settled with
      account := bindingApplied task.work r db.account
      profile := profile }

/-! ### Reports -/

/-- `complete_task` and `fail_task`. -/
def reportTask (r : Report) : Except RuntimeFailure AccountDb := do
  let task ← requireNodeTask seen r.nodeId r.taskId
  match task.work with
  | .createToolSession sessionId | .stopToolSession sessionId _ => reportSession db task sessionId r
  | .createBindingSession _ | .verifyToolAccount _ => return reportBinding seen db task r
  | .migrateToolAccountRuntime _ payload => reportMigration settings seen db task payload r
  | .recoverToolAccountRuntime .. => reportRecovery settings seen db task r

/-! ### Transactions -/

inductive AccountTx where
  | createSession (request : CreateSession)
  | stopSession (userId sessionId : Uuid)
  | reconcile (nodeId : Uuid) (reports : List RuntimeReport)
  | startBinding (request : StartBinding)
  | verifyBinding (userId accountId : Uuid)
  | disableAccount (userId accountId : Uuid)
  | updateAccount (request : UpdateAccount)
  | migrateRuntime (request : MigrateRuntime)
  | submitRecovery (accountId : Uuid) (request : RecoveryRequest)
    (expectedOriginal : Option RuntimeRecoveryOriginal) (around : Surroundings)
  | authorizeRecovery (around : Surroundings) (nodeId : Uuid) (taskId : TaskName)
  | renewRecovery (around : Surroundings) (nodeId : Uuid) (taskId : TaskName)
    (expected : RuntimeRecoveryBinding × ℕ) (leaseSeconds : ℕ)
  | poll (nodeId : Uuid) (limit : ℕ) (held : List Uuid)
  | start (around : Surroundings) (nodeId : Uuid) (taskId : TaskName)
  | report (report : Report)
  | reportNode (node : Node)
  | tick (elapsed : ℕ)

/-- What an operation leaves, if it takes effect. -/
def AccountTx.outcome (t : AccountTx) : Except RuntimeFailure AccountDb :=
  match t with
  | .createSession r => AccountRuntime.createSession settings seen db r
  | .stopSession userId sessionId => AccountRuntime.stopSession db userId sessionId
  | .reconcile nodeId reports => .ok (AccountRuntime.reconcile seen db nodeId reports)
  | .startBinding r => AccountRuntime.startBinding settings seen db r
  | .verifyBinding userId accountId => AccountRuntime.verifyBinding seen db userId accountId
  | .disableAccount userId accountId => AccountRuntime.disableAccount db userId accountId
  | .updateAccount r => AccountRuntime.updateAccount seen db r
  | .migrateRuntime r => AccountRuntime.migrateRuntime seen db r
  | .submitRecovery accountId r expected around =>
    AccountRuntime.submitRecovery seen db accountId r expected around
  | .authorizeRecovery around nodeId taskId => do
    let _ ← AccountRuntime.authorizeRecovery seen db around nodeId taskId
    return releaseUser db
  | .renewRecovery around nodeId taskId expected leaseSeconds =>
    AccountRuntime.renewRecovery seen db around nodeId taskId expected leaseSeconds
  | .poll nodeId limit held => .ok (pollTasks settings seen db nodeId limit held)
  | .start around nodeId taskId => startTask seen db around nodeId taskId
  | .report r => reportTask settings seen db r
  | .reportNode node => .ok { db with nodes := put Node.id db.nodes node }
  | .tick elapsed => .ok { db with clock := db.clock + elapsed }

/-- `reportNode` stands for what adds or changes a node. -/
def AccountTx.commit (t : AccountTx) (seen : ℕ → AccountDb) (db : AccountDb) :
    AccountDb × Except RuntimeFailure Unit :=
  match t.outcome settings seen db with
  | .ok after => (after, .ok ())
  | .error e => (db, .error e)

/-- A new account and the rows around it. -/
structure AccountWorld where
  accountId : Uuid
  userId : Uuid
  toolType : Text
  regionCode : Text
  preferredNodeTags : List Text
  workspaces : List Workspace
  nodes : List Node
  clock : Instant
  nodeIds : (nodes.map Node.id).Nodup

/-- The state in which `create_account` leaves an account. -/
def newAccountDb (world : AccountWorld) : AccountDb where
  account := ⟨world.accountId, world.userId, world.toolType, .bindingRequested, world.regionCode,
    world.preferredNodeTags, none, none⟩
  profile := ⟨none, none, none⟩
  workspaces := world.workspaces
  nodes := world.nodes
  sessions := []
  tasks := []
  receipts := []
  nextId := 1
  clock := world.clock
  userTurns := 0
  accountTurns := 0

/-- The transactions on an account. -/
def accountRuntime (world : AccountWorld) :
    Transactions AccountDb AccountTx (Except RuntimeFailure Unit) :=
  ⟨newAccountDb world, AccountTx.commit settings⟩

end AgentRemote.AccountRuntime
