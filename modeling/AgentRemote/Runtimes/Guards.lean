import AgentRemote.Runtimes.Records
import Mathlib.Data.List.Sort

/-!
# Guards of task results

What a reported result must satisfy before it is recorded. Each guard either refuses the
report, finds that it repeats the recorded one, or lets it through. A guard locks the rows it
decides on, so that it reads them in the state the report commits on.
-/

namespace AgentRemote.Runtimes
open Library PortForwards

/-! ### Reported values -/

/-- Four hexadecimal digits of `n`. -/
def hex4 (n : ℕ) : Text :=
  [4096, 256, 16, 1].map fun unit => Nat.digitChar (n / unit % 16)

/-- A character of a text in `json.dumps`. -/
def escapeAscii (c : Char) : Text :=
  let unit (n : ℕ) : Text := '\\' :: 'u' :: hex4 n
  match c with
  | '"' => ['\\', '"']
  | '\\' => ['\\', '\\']
  | '\n' => ['\\', 'n']
  | '\r' => ['\\', 'r']
  | '\t' => ['\\', 't']
  | '\x08' => ['\\', 'b']
  | '\x0c' => ['\\', 'f']
  | c =>
    if 32 ≤ c.toNat ∧ c.toNat < 127 then [c]
    else if c.toNat < 65536 then unit c.toNat
    else
      let rest := c.toNat - 65536
      unit (55296 + rest / 1024) ++ unit (56320 + rest % 1024)

def dumpsText (s : Text) : Text := '"' :: s.flatMap escapeAscii ++ ['"']

/-- An object from the texts of its members. -/
def dumpsMembers (members : List (Text × Text)) : Text :=
  let sorted := members.insertionSort fun a b => a.1 ≤ b.1
  '\x7b' :: List.intercalate ", ".toList
    (sorted.map fun m => dumpsText m.1 ++ ": ".toList ++ m.2) ++ ['\x7d']

mutual

/-- `json.dumps(value, sort_keys=True)`. -/
def dumps : JsonValue → Text
  | .null => "null".toList
  | .bool true => "true".toList
  | .bool false => "false".toList
  | .int n => (toString n).toList
  | .float text => text
  | .string s => dumpsText s
  | .array items => '[' :: List.intercalate ", ".toList (dumpsEach items) ++ [']']
  | .object members => dumpsMembers (dumpsValues members)

def dumpsEach : List JsonValue → List Text
  | [] => []
  | item :: items => dumps item :: dumpsEach items

def dumpsValues : List (Text × JsonValue) → List (Text × Text)
  | [] => []
  | (key, value) :: members => (key, dumps value) :: dumpsValues members

end

/-- Whether two objects have one text. -/
def sameJson (a b : JsonObject) : Bool := dumps (.object a) = dumps (.object b)

def isTrue (value : Option JsonValue) : Bool :=
  match value with
  | some (.bool true) => true
  | _ => false

/-- `value is None`. -/
def isNone (value : Option JsonValue) : Bool :=
  match value with
  | none | some .null => true
  | _ => false

/-! ### The guards -/

/-- Texts of UUIDs, case folding and the length of a task lease. -/
structure RuntimeSettings where
  uuid : UuidText
  casefold : Text → Text
  nodeTaskLeaseSeconds : ℕ

/-- What a guard finds outside the tables of the model: whether its other checks pass, whether
the reported value equals the recorded one, the lease attempt that a start names, and the owner
of a takeover that holds the task. -/
structure Evidence where
  agrees : Bool
  sameValue : Bool
  leaseAttempt : ℕ
  takeoverUser : Option Uuid

variable (settings : RuntimeSettings) (db : RuntimeDb)

def conflict (code message : String) : RuntimeFailure := .apiError code message 409

/-- Whether a receipt repeats the report. A receipt that differs from it is a conflict. -/
def replayReceipt (locked : NodeTask) (saved : Option NodeTaskResult) (outcome : TaskOutcome)
    (same : NodeTaskResult → Bool) (failure : RuntimeFailure) : Except RuntimeFailure Bool :=
  match saved with
  | none => .ok false
  | some saved => do
    reject (saved.nodeTaskId ≠ locked.id ∨ saved.status ≠ outcome ∨
      locked.status ≠ outcome.status ∨ same saved = false) failure
    .ok true

/-- The side of a receipt that an outcome is recorded on, and the other one. -/
def NodeTaskResult.sides (saved : NodeTaskResult) : TaskOutcome → Option JsonObject × Option JsonObject
  | .succeeded => (saved.result, saved.error)
  | .failed => (saved.error, saved.result)

/-- The row of a task in the state the report commits on. -/
def lockedTask (task : NodeTask) : Option NodeTask :=
  db.tasks.find? fun row => row.id = task.id ∧ row.nodeId = task.nodeId

def hasKey (key : String) (payload : JsonObject) : Bool :=
  payload.any fun member => settings.casefold member.1 = key.toList

def managedStartTask (task : NodeTask) : Bool :=
  task.taskType = .createToolSession ∧ hasKey settings "skill_manager" task.payload

/-- `ManagedStartResultGuard.authorize`. -/
def managedStartResultGuard (evidence : Evidence) (task : NodeTask) (outcome : TaskOutcome) :
    Except RuntimeFailure Bool :=
  let prepared := db.snapshots.find? fun n => n.nodeId = task.nodeId ∧ n.prepareTaskId = task.id
  if managedStartTask settings task = false ∧ prepared.isNone then .ok false
  else do
    let notFound := conflict "SNAPSHOT_NOT_FOUND" "snapshot not found"
    let changed := conflict "SKILL_START_AUTHORITY_CHANGED" "managed startup authority changed"
    reject (evidence.agrees = false) <|
      conflict "SKILL_START_RESULT_INVALID" "invalid managed startup result"
    match prepared, lockedTask db task with
    | none, _ => .error notFound
    | some _, none => .error changed
    | some snapshot, some locked => do
      reject (db.hasUsage snapshot.userId = false) notFound
      reject (managedStartTask settings locked = false) changed
      let replayed ← replayReceipt locked (db.receipt locked.taskId) outcome
        (fun _ => evidence.sameValue) <|
        conflict "SKILL_START_RESULT_CONFLICT" "managed startup result already differs"
      if replayed then
        .ok true
      else
        let runtime := db.userSession snapshot.sessionReferenceId snapshot.userId
        reject (runtime.map Session.status ≠ some .starting ∨
            runtime.map Session.nodeId ≠ some snapshot.nodeId ∨
            runtime.map Session.toolAccountId ≠ some snapshot.accountId ∨
            (locked.status ≠ .leased ∧ locked.status ≠ .running) ∨
            locked.retryCount ≠ evidence.leaseAttempt ∨
            ¬∃ deadline ∈ locked.leaseUntil, db.clock < deadline) <|
          conflict "SKILL_START_LEASE_LOST" "managed startup lease is no longer valid"
        .ok false

/-- `str.removeprefix`. -/
def removeStart (start text : Text) : Text :=
  if start.isPrefixOf text then text.drop start.length else text

def stopTaskName : Text := "stop_tool_session:".toList

/-- `ManagedStopResultGuard.authorize`. -/
def managedStopResultGuard (evidence : Evidence) (task : NodeTask) (outcome : TaskOutcome)
    (value : JsonObject) : Except RuntimeFailure Bool :=
  if task.taskType ≠ .stopToolSession then .ok false
  else
    let sessionId := settings.uuid.parse (removeStart stopTaskName task.taskId)
    let payloadSession := (task.payload.text? "session_id".toList).bind settings.uuid.parse
    let invalid := conflict "SKILL_STOP_RESULT_INVALID" "managed stop requires original identity"
    match db.snapshots.filter fun n => n.nodeId = task.nodeId ∧
        (sessionId = some n.sessionReferenceId ∨ payloadSession = some n.sessionReferenceId) with
    | [] => do
      reject (hasKey settings "skill_finalization" task.payload) <|
        conflict "SKILL_STOP_RESULT_INVALID" "invalid managed stop"
      .ok false
    | [_] => do
      reject (sessionId = none ∨ payloadSession ≠ sessionId ∨
        (∃ id ∈ sessionId, task.payload.text? "session_id".toList ≠ some (settings.uuid.str id) ∨
          task.taskId ≠ stopTaskName ++ settings.uuid.str id) ∨ outcome ≠ .succeeded) invalid
      match lockedTask db task with
      | none => .error (conflict "SKILL_STOP_RESULT_INVALID" "managed stop task is unavailable")
      | some locked => do
        reject (evidence.agrees = false) <|
          conflict "STATE_PENDING" "original termination is not yet confirmed"
        let failure := conflict "SKILL_STOP_RESULT_CONFLICT" "managed stop result changed"
        let replayed ← replayReceipt locked (db.receipt task.taskId) .succeeded
          (fun saved => saved.error.isNone ∧ saved.result.any (sameJson value)) failure
        if replayed then
          .ok true
        else
          reject locked.status.terminal <|
            conflict "SKILL_STOP_RESULT_CONFLICT" "managed stop task is terminal"
          .ok false
    | _ => .error invalid

/-- `TakeoverResultGuard.authorize`. -/
def takeoverResultGuard (evidence : Evidence) (task : NodeTask) (outcome : TaskOutcome) :
    Except RuntimeFailure Bool :=
  match evidence.takeoverUser with
  | none => do
    reject (task.taskType = .takeoverToolAccountSkills) <|
      conflict "TAKEOVER_RESULT_INVALID" "takeover reservation is absent"
    .ok false
  | some _ =>
    match lockedTask db task with
    | none => .error (conflict "TAKEOVER_RESULT_INVALID" "takeover result identity changed")
    | some locked => do
      reject (evidence.agrees = false ∨ locked.taskType ≠ .takeoverToolAccountSkills ∨
          outcome ≠ .succeeded) <|
        conflict "TAKEOVER_RESULT_INVALID" "takeover result identity changed"
      let replayed ← replayReceipt locked (db.receipt locked.taskId) .succeeded
        (fun saved => evidence.sameValue ∧ saved.error.isNone) <|
        conflict "TAKEOVER_RESULT_CONFLICT" "takeover result changed"
      if replayed then
        .ok true
      else
        reject (locked.status ≠ .leased ∧ locked.status ≠ .running) <|
          conflict "TAKEOVER_RESULT_CONFLICT" "takeover task is not active"
        .ok false

/-- `SessionStopResultGuard.authorize`. -/
def sessionStopResultGuard (task : NodeTask) (result : JsonObject) :
    Except RuntimeFailure Unit := do
  let invalid := conflict "SESSION_STOP_RESULT_INVALID"
    "Session stop result does not match its original runtime identity."
  if task.taskType = .stopToolSession then
    let expectedSession := task.payload.text? "session_id".toList
    let expectedBackend := task.payload.text? "runtime_backend".toList
    let differs (key : String) : Bool :=
      isNone (result.get key.toList) = false ∧
        (result.text? key.toList = none ∨
          result.text? key.toList ≠ task.payload.text? key.toList)
    reject (expectedSession = none ∨ expectedSession.bind settings.uuid.parse = none) invalid
    reject (result.text? "status".toList ≠ some "stopped".toList ∨
      result.text? "session_id".toList ≠ expectedSession) invalid
    reject (expectedBackend ≠ some "native".toList ∧
      expectedBackend ≠ some "docker_sandbox".toList) invalid
    reject (differs "runtime_backend") invalid
    reject (differs "runtime_resource_id") invalid
    reject (isNone (result.get "unclean".toList) = false ∧
      result.bool? "unclean".toList = none) invalid

/-- `SessionTaskResultGuard.replay`. -/
def sessionTaskResultGuard (task : NodeTask) (outcome : TaskOutcome) (value : JsonObject) :
    Except RuntimeFailure Bool :=
  let failure := conflict "SESSION_TASK_RESULT_CONFLICT"
    "Session task result conflicts with its original receipt."
  if task.taskType ≠ .createToolSession ∧ task.taskType ≠ .stopToolSession then .ok false
  else if ((task.payload.text? "session_id".toList).bind settings.uuid.parse).isNone then
    .error failure
  else
    match lockedTask db task with
    | none => .error failure
    | some locked => do
      let replayed ← replayReceipt locked (db.receipt task.taskId) outcome
        (fun saved => (saved.sides outcome).2.isNone ∧
          (saved.sides outcome).1.any (sameJson value)) failure
      if replayed then
        .ok true
      else
        reject locked.status.terminal failure
        .ok false

end AgentRemote.Runtimes
