import AgentRemote.AccountRuntime.Records
import AgentRemote.Runtimes.Queue
import AgentRemote.Library.History

/-!
# Sessions, bindings and nodes of a tool account

Each operation as one transaction. `seen i` is the state its `i`-th statement reads, `db` the one
it commits on. Rows that an operation locks before it reads them come from `db`.
-/

namespace AgentRemote.AccountRuntime
open Library PortForwards Runtimes

/-- The texts of identifiers, and how long leases and heartbeats last. -/
structure AccountSettings where
  uuid : UuidText
  nodeTaskLeaseSeconds : ℕ
  nodeOfflineAfterSeconds : ℕ

variable (settings : AccountSettings) (seen : ℕ → AccountDb) (db : AccountDb)

def apiError (code message : String) (statusCode : ℕ) : RuntimeFailure :=
  .apiError code message statusCode

/-! ### Locks and writes -/

/-- A state read while the usage row of the owner is locked. -/
def userLocked (i : ℕ) : AccountDb := if (seen i).userTurns = db.userTurns then seen i else db

/-- A state read while the row of the account is locked. -/
def accountLocked (i : ℕ) : AccountDb :=
  if (seen i).accountTurns = db.accountTurns then seen i else db

/-- The state once a transaction that has locked the usage row commits. -/
def releaseUser : AccountDb := { db with userTurns := db.userTurns + 1 }

/-- The state once a transaction that has locked the account row commits. -/
def releaseAccount : AccountDb := { db with accountTurns := db.accountTurns + 1 }

/-- A column is written when it differs from the copy that was read. -/
def flushColumn {α : Type} [DecidableEq α] (copy new current : α) : α :=
  if new = copy then current else new

/-- The row once the columns in which `new` differs from the copy that was read are written. -/
def flushed (copy new current : ToolAccount) : ToolAccount :=
  { current with
    status := flushColumn copy.status new.status current.status
    regionCode := flushColumn copy.regionCode new.regionCode current.regionCode
    preferredNodeTags := flushColumn copy.preferredNodeTags new.preferredNodeTags
      current.preferredNodeTags
    affinityNodeId := flushColumn copy.affinityNodeId new.affinityNodeId current.affinityNodeId
    runtimeBackend := flushColumn copy.runtimeBackend new.runtimeBackend current.runtimeBackend }

/-- Writes the account, which locks its row unless nothing differs. -/
def flushAccount (copy new : ToolAccount) : AccountDb :=
  { db with
    account := flushed copy new db.account
    accountTurns := if new = copy then db.accountTurns else db.accountTurns + 1 }

/-- A task as it is added. -/
def newTask (nodeId : Uuid) (work : Work) : NodeTask := ⟨db.nextId, nodeId, work, .pending, none, 0⟩

/-- `add_task`. -/
def addTask (nodeId : Uuid) (work : Work) : AccountDb :=
  { db with tasks := db.tasks ++ [newTask db nodeId work], nextId := db.nextId + 1 }

/-! ### Accounts -/

def accountNotFound : RuntimeFailure :=
  apiError "COMMON_NOT_FOUND" "Tool account was not found." 404

/-- `_require_account`, of the account that is read. -/
def requireAccount (account : ToolAccount) (userId accountId : Uuid) : Except RuntimeFailure Unit :=
  reject (account.id ≠ accountId ∨ account.userId ≠ userId) accountNotFound

/-- The migration that `profile` holds is over. -/
def Profile.settled (profile : Profile) : Bool := profile.runtimeMigration.all (·.status.settled)

/-- `require_runtime_migration_settled`, of the profile it reads. -/
def requireRuntimeMigrationSettled (profile : Profile) : Except RuntimeFailure Unit :=
  reject (profile.settled = false) <| apiError "RUNTIME_MIGRATION_PENDING"
    "Retained backend migration requires recovery before new account writes." 409

/-- What an operation finds in the tables of users and skills: whether the owner is active and
whether the skills of the account are still its own. -/
structure Surroundings where
  ownerActive : Bool
  legacyDirectory : Bool

/-- `require_legacy_account_writer`, of the profile it reads. -/
def requireLegacyAccountWriter (around : Surroundings) (profile : Profile) :
    Except RuntimeFailure Unit := do
  reject (around.legacyDirectory = false) <| apiError "MIGRATION_PENDING"
    "Account skill migration prevents legacy binding or backend changes." 409
  requireRuntimeMigrationSettled profile

/-- `list[str]` of the backends that a node reports. -/
def Node.reportedBackends (node : Node) : Option (List (Option Text)) :=
  ((node.runtimeCapabilities.get "backends".toList).bind JsonValue.array?).map fun backends =>
    backends.map JsonValue.text?

/-- `valid_backend_report`. -/
def validBackendReport (report : JsonObject) : Bool :=
  report.int? "protocol_version".toList = some 1 ∧ report.int? "manifest_version".toList = some 1 ∧
    isTrue (report.get "writable_copies".toList) ∧ isTrue (report.get "finalization".toList) ∧
    isTrue (report.get "recovery".toList)

/-- The report of a backend on the skills it manages. -/
def skillReport (node : Node) (backend : Text) : Option JsonObject :=
  match node.runtimeCapabilities.get "skill_manager".toList with
  | some (.object reports) =>
    match JsonObject.get reports backend with
    | some (.object report) => some report
    | _ => none
  | _ => none

/-- `supports_managed_skills`. -/
def supportsManagedSkills (node : Node) (backend : Text) (now : Instant) : Bool :=
  node.lastHeartbeatAt.any (fun heartbeat =>
    heartbeat ≤ now ∧ now < heartbeat + seconds settings.nodeOfflineAfterSeconds) ∧
    (skillReport node backend).any validBackendReport

/-- The backend that an account would use on a node. -/
def backendOn (account : ToolAccount) (node : Node) : Text :=
  (account.runtimeBackend.filter (· ≠ [])).getD node.defaultRuntimeBackend

/-- A node reports a backend, or reports nothing and its account uses no other than the usual. -/
def backendReported (node : Node) (backend : Text) (managed : Bool) : Bool :=
  match node.reportedBackends with
  | some available => some backend ∈ available
  | none => managed = false ∧ backend = "docker_sandbox".toList

/-- `_node_can_host`. `managed` is the time at which managed skills are required. -/
def nodeCanHost (account : ToolAccount) (managed : Option Instant) (node : Node) : Bool :=
  let backend := backendOn account node
  node.status.available ∧ account.toolType ∈ node.supportedToolTypes ∧
    node.regionCode = account.regionCode ∧ backend ∈ node.allowedRuntimeBackends ∧
    managed.all (supportsManagedSkills settings node backend) ∧
    backendReported node backend managed.isSome

/-! ### Sessions -/

/-- What the skills of the account make of a creation. -/
inductive Admission where
  | unmanaged
  | managed
  | pending
  | refused
  deriving DecidableEq

structure CreateSession where
  userId : Uuid
  toolType : Text
  toolAccountId : Uuid
  workspaceId : Uuid
  projectKey : Text
  replacesSessionId : Option Uuid
  admission : Admission

/-- `_require_active_account`, of the account and the profile it reads under the lock. -/
def requireActiveAccount (account : ToolAccount) (profile : Profile) (r : CreateSession) :
    Except RuntimeFailure Unit := do
  requireAccount account r.userId r.toolAccountId
  reject (account.toolType ≠ r.toolType) <| apiError "TOOL_ACCOUNT_MISMATCH"
    "Tool account type does not match requested tool." 409
  requireRuntimeMigrationSettled profile
  reject (account.status ≠ .active) <| apiError "TOOL_ACCOUNT_NOT_ACTIVE"
    "Tool account is not active." 409

/-- The workspace of a session. -/
def requireWorkspace (view : AccountDb) (r : CreateSession) : Except RuntimeFailure Unit :=
  match (view.getWorkspace r.workspaceId).filter (·.userId = r.userId) with
  | none => .error (apiError "COMMON_NOT_FOUND" "Workspace was not found." 404)
  | some workspace => do
    reject (workspace.projectKey ≠ r.projectKey) <| apiError "PROJECT_KEY_MISMATCH"
      "Workspace project key does not match request." 409
    reject ((workspace.remotePath.filter (· ≠ [])).isNone) <| apiError "WORKSPACE_NOT_PREPARED"
      "Workspace has no remote path." 409

/-- The session that a creation replaces. -/
def requireReplaced (view : AccountDb) (r : CreateSession) : Except RuntimeFailure Unit :=
  match r.replacesSessionId with
  | none => .ok ()
  | some id =>
    reject (¬(view.getSession id).any fun s => s.status = .interrupted ∧
        s.workspaceId = r.workspaceId ∧ s.projectKey = r.projectKey) <|
      apiError "SESSION_REPLACEMENT_INVALID" "Only a matching interrupted session can be replaced."
        409

/-- `_choose_session_node`, with the states its statements read. -/
def chooseSessionNode (pinned affinity candidates : AccountDb) (account : ToolAccount)
    (managed : Bool) : Except RuntimeFailure Node :=
  let unavailable := if managed then "SKILL_MANAGER_UNSUPPORTED" else "NODE_UNAVAILABLE"
  let canHost (view : AccountDb) :=
    nodeCanHost settings account (if managed then some view.clock else none)
  match pinned.activeSessions with
  | session :: _ =>
    match (pinned.getNode session.nodeId).filter (canHost pinned) with
    | some node => .ok node
    | none => .error <| apiError unavailable
        "Active sessions for this account are pinned to an unavailable node." 409
  | [] =>
    let remembered := (account.affinityNodeId.bind affinity.getNode).filter (canHost affinity)
    match remembered.or ((candidates.listCandidateNodes account).find? (canHost candidates)) with
    | some node => .ok node
    | none =>
      .error (apiError unavailable "No available node can host this tool session." 409)

/-- The session that `_create_session` adds. -/
def createdSession (r : CreateSession) (node : Node) (runtimeBackend : Text) : Session where
  id := db.nextId
  workspaceId := r.workspaceId
  nodeId := node.id
  projectKey := r.projectKey
  status := .starting
  runtimeBackend := runtimeBackend
  replacesSessionId := r.replacesSessionId
  managed := r.admission = .managed

/-- `_create_session`. What it leaves when it waits for the skills is not in these tables. -/
def createSession (r : CreateSession) : Except RuntimeFailure AccountDb := do
  let view := userLocked seen db
  requireAccount (seen 0).account r.userId r.toolAccountId
  requireActiveAccount (view 1).account (view 2).profile r
  requireWorkspace (view 3) r
  requireReplaced (view 4) r
  reject (r.admission = .refused) <| apiError "SKILL_MANAGER_DISABLED"
    "Managed skill admission is disabled." 409
  let managed : Bool := r.admission ≠ .unmanaged
  let account := (view 5).account
  requireActiveAccount account (view 6).profile r
  let node ← chooseSessionNode settings (view 7) (view 8) (view 9) account managed
  let unsupported := apiError "SKILL_MANAGER_UNSUPPORTED"
    "Runtime skill capability changed during preparation." 409
  reject (managed ∧ ¬((view 10).getNode node.id).any
    (nodeCanHost settings account (some (view 10).clock))) unsupported
  reject (r.admission = .pending) <| apiError "STATE_MIGRATION_REQUIRED"
    "Resolve the retained skill migrations before starting this account." 409
  let runtimeBackend := account.runtimeBackend.getD node.defaultRuntimeBackend
  let created := createdSession db r node runtimeBackend
  let db := flushAccount db account { account with
    runtimeBackend := some runtimeBackend
    affinityNodeId := some node.id }
  let db := { db with sessions := db.sessions ++ [created], nextId := db.nextId + 1 }
  return releaseUser (releaseAccount (addTask db node.id (.createToolSession created.id)))

/-- The sessions once one has another status. -/
def setSessionStatus (db : AccountDb) (id : Uuid) (status : ToolSessionStatus) : AccountDb :=
  { db with
    sessions := db.sessions.map fun s => if s.id = id then { s with status := status } else s }

/-- Adds a stop task unless there is one. Stop tasks are only added under the usage row. -/
def addStopTask (db : AccountDb) (session : Session) (preserve : Bool) : AccountDb :=
  let work := Work.stopToolSession session.id preserve
  if (db.getTask work.taskId).isSome then db else addTask db session.nodeId work

/-- `stop_session`. -/
def stopSession (userId sessionId : Uuid) : Except RuntimeFailure AccountDb :=
  match (db.getSession sessionId).filter fun _ => db.account.userId = userId with
  | none => .error (apiError "COMMON_NOT_FOUND" "Session was not found." 404)
  | some session =>
    if session.status = .stopped ∨ session.status = .failed then .ok (releaseUser db)
    else .ok (releaseUser (setSessionStatus (addStopTask db session false) sessionId .stopping))

/-- What a node reports of a runtime session. -/
structure RuntimeReport where
  sessionId : Uuid
  active : Bool
  processExited : Bool

/-- Whether a report, or that there is none, tells that a session is gone. -/
def reportedLost (report : Option RuntimeReport) (runtimeBackend : Text) : Bool :=
  match report with
  | none => runtimeBackend ≠ "docker_sandbox".toList
  | some report => report.active = false

/-- A session that a reconciliation interrupts. -/
def lost (reports : List RuntimeReport) (nodeId : Uuid) (s : Session) : Bool :=
  s.nodeId = nodeId ∧ s.status.live ∧ s.managed = false ∧
    (s.runtimeBackend = "native".toList ∨ s.runtimeBackend = "docker_sandbox".toList) ∧
    reportedLost (lookup RuntimeReport.sessionId reports s.id) s.runtimeBackend

/-- `reconcile`. Its candidates are the live sessions it first reads. -/
def reconcile (nodeId : Uuid) (reports : List RuntimeReport) : AccountDb :=
  let interrupted := db.sessions.filter fun s =>
    ((seen 0).getSession s.id).any (fun s' => s'.nodeId = nodeId ∧ s'.status.live) ∧
      lost reports nodeId s
  let exited := interrupted.filter fun s =>
    (lookup RuntimeReport.sessionId reports s.id).any (·.processExited)
  let cleaned := exited.foldl (fun db s => addStopTask db s true) db
  releaseUser <|
    interrupted.foldl (fun db s => setSessionStatus db s.id .interrupted) cleaned

/-! ### Bindings -/

structure StartBinding where
  userId : Uuid
  accountId : Uuid
  deviceReady : Bool
  around : Surroundings

def nodeUnavailable (message : String) : RuntimeFailure := apiError "NODE_UNAVAILABLE" message 409

/-- `_choose_binding_node`. -/
def chooseBindingNode (affinity candidates : AccountDb) (account : ToolAccount) :
    Except RuntimeFailure Node :=
  let remembered := (account.affinityNodeId.bind affinity.getNode).filter
    (nodeCanHost settings account none)
  match remembered.or ((candidates.listCandidateNodes account).find?
      (nodeCanHost settings account none)) with
  | some node => .ok node
  | none => .error (nodeUnavailable "No available node can host this tool account.")

/-- `start_binding`. It writes the profile it has read before it locks the account. -/
def startBinding (r : StartBinding) : Except RuntimeFailure AccountDb := do
  let view := userLocked seen db
  requireAccount (seen 0).account r.userId r.accountId
  let profile := (view 1).profile
  requireLegacyAccountWriter r.around profile
  let account := db.account
  requireAccount account r.userId r.accountId
  let node ← chooseBindingNode settings (view 2) (view 3) account
  let runtimeBackend := account.runtimeBackend.getD node.defaultRuntimeBackend
  reject (runtimeBackend = "native".toList ∧ r.deviceReady = false) <|
    apiError "DEVICE_REQUIRED" "Native account binding requires a device token." 403
  let work := Work.createBindingSession db.nextId
  let db := { db with
    account := { account with
      affinityNodeId := some node.id
      runtimeBackend := some runtimeBackend
      status := .bindingSessionStarting }
    profile := { profile with bindingTaskId := some work.taskId, verificationTaskId := none } }
  return releaseUser (releaseAccount (addTask db node.id work))

/-- `verify_binding`. -/
def verifyBinding (userId accountId : Uuid) : Except RuntimeFailure AccountDb := do
  let view := accountLocked seen db
  let account := db.account
  requireAccount account userId accountId
  reject (account.status = .disabled) <|
    apiError "ACCOUNT_DISABLED" "Disabled accounts cannot be verified." 409
  let profile := (view 0).profile
  match (account.affinityNodeId.bind (view 1).getNode).filter (·.status.available) with
  | none =>
    .error (nodeUnavailable "Tool account does not have an available affinity node.")
  | some node =>
    let work := Work.verifyToolAccount db.nextId
    let db := { db with
      account := { account with status := .bindingVerifying }
      profile := { profile with verificationTaskId := some work.taskId } }
    return releaseAccount (addTask db node.id work)

/-! ### Accounts under their owners -/

/-- `disable_account`. -/
def disableAccount (userId accountId : Uuid) : Except RuntimeFailure AccountDb := do
  requireAccount db.account userId accountId
  return releaseAccount { db with account := { db.account with status := .disabled } }

structure UpdateAccount where
  userId : Uuid
  accountId : Uuid
  status : Option AccountStatus
  regionCode : Option Text
  preferredNodeTags : Option (List Text)

/-- `_validate_manual_status`. -/
def manualStatuses : List AccountStatus := [.bindingRequested, .expired, .disabled]

/-- `update_account`, which locks nothing. -/
def updateAccount (r : UpdateAccount) : Except RuntimeFailure AccountDb := do
  let account := (seen 0).account
  requireAccount account r.userId r.accountId
  reject (∃ status ∈ r.status, status ∉ manualStatuses) <|
    apiError "COMMON_BAD_REQUEST" "Status cannot be set manually." 400
  return flushAccount db account { account with
    status := r.status.getD account.status
    regionCode := r.regionCode.getD account.regionCode
    preferredNodeTags := r.preferredNodeTags.getD account.preferredNodeTags }

end AgentRemote.AccountRuntime
