import AgentRemote.DeviceControl.Records
import Mathlib.Data.Int.Log

/-!
# The device-session service

Authorization and lifecycle of the device-control sessions. An operation reads the clock once.
A call that expires a session commits the expiry before it raises.
-/

namespace AgentRemote
open Library

structure DeviceControlSettings where
  deviceControlEnabled : Bool
  deviceControlV2Enabled : Bool
  authorizationMode : AuthorizationMode
  leaseSeconds : ℕ
  maxTtlSeconds : ℕ
  lease_bounds : 10 ≤ leaseSeconds ∧ leaseSeconds ≤ 300
  ttl_bounds : 60 ≤ maxTtlSeconds ∧ maxTtlSeconds ≤ 28800

/-- The service, built with or without the relay hub of the process. -/
structure DeviceSessionService where
  settings : DeviceControlSettings
  relayHub : Bool

/-- What a call leaves in the database, the relay bindings it closed and its answer. -/
structure DeviceSessionResponse (α : Type) where
  db : DeviceControlTables
  closed : List (Uuid × ℕ) := []
  result : Except DeviceControlFailure α

namespace DeviceControlFailure

def notFound : DeviceControlFailure :=
  apiError "COMMON_NOT_FOUND" "Device session was not found." 404

def deviceNotFound : DeviceControlFailure :=
  apiError "COMMON_NOT_FOUND" "Device was not found." 404

def controlDisabled : DeviceControlFailure :=
  apiError "DEVICE_CONTROL_DISABLED" "Device control is disabled by deployment policy." 503

def platformUnsupported : DeviceControlFailure :=
  apiError "DEVICE_CONTROL_PLATFORM_UNSUPPORTED" "Device control requires macOS." 409

def toolSessionNotFound : DeviceControlFailure :=
  apiError "COMMON_NOT_FOUND" "Tool session was not found." 404

def toolSessionInactive : DeviceControlFailure :=
  apiError "DEVICE_CONTROL_TOOL_SESSION_INACTIVE" "Tool session is not active." 409

def toolSessionNotConfigured : DeviceControlFailure :=
  apiError "DEVICE_CONTROL_TOOL_SESSION_NOT_CONFIGURED"
    "Tool session was not started with managed device control." 409

def nodeIncompatible : DeviceControlFailure :=
  apiError "DEVICE_CONTROL_NODE_UNAVAILABLE"
    "The assigned node has not reported a compatible device proxy." 409

def stateConflict : DeviceControlFailure :=
  apiError "DEVICE_CONTROL_STATE_CONFLICT"
    "Device session state does not permit this operation." 409

def generationMismatch : DeviceControlFailure :=
  apiError "DEVICE_CONTROL_GENERATION_MISMATCH" "Device session generation does not match." 409

def generationExhausted : DeviceControlFailure :=
  apiError "DEVICE_CONTROL_GENERATION_EXHAUSTED" "Device session generation is exhausted." 409

def sessionExpired : DeviceControlFailure :=
  apiError "DEVICE_CONTROL_SESSION_EXPIRED" "Device session has expired." 409

def leaseExpired : DeviceControlFailure :=
  apiError "DEVICE_CONTROL_LEASE_EXPIRED" "Device session lease has expired." 409

def machineLocked : DeviceControlFailure :=
  apiError "DEVICE_CONTROL_MACHINE_LOCKED" "The device is controlled by another session." 409

def deviceTokenRequired : DeviceControlFailure :=
  apiError "COMMON_FORBIDDEN" "A device token is required." 403

end DeviceControlFailure

namespace DeviceSessionResponse

variable {α : Type}

def fail (db : DeviceControlTables) (e : DeviceControlFailure) : DeviceSessionResponse α :=
  { db, result := .error e }

/-- A transaction commits what it computed and closes the relays it revoked; an error rolls it
back. -/
def ofExcept (db : DeviceControlTables)
    (x : Except DeviceControlFailure (DeviceControlTables × List (Uuid × ℕ) × α)) :
    DeviceSessionResponse α :=
  match x with
  | .ok (db', closed, a) => { db := db', closed, result := .ok a }
  | .error e => .fail db e

end DeviceSessionResponse

/-! ### Capabilities -/

def requiredDeviceControlV2Capabilities : List Text :=
  ["adaptive_settle_v2".toList, "ax_state_v2".toList, "observation_mode_v2".toList]

def deviceControlV2Capabilities : List Text :=
  ["adaptive_settle_v2".toList, "application_launch_v1".toList, "ax_state_v2".toList,
    "clipboard_payload_v2".toList, "global_clipboard_v1".toList, "observation_mode_v2".toList,
    "session_full_trust_v1".toList]

def legacyDeviceControlV2Capabilities : List Text :=
  ["adaptive_settle_v2".toList, "ax_state_v2".toList, "clipboard_payload_v2".toList,
    "observation_mode_v2".toList]

def fullTrustDeviceCapabilities : List Text := ["session_full_trust_v1".toList]

namespace DeviceSessionService

variable (service : DeviceSessionService)

/-- `_negotiated_v2_capabilities`. -/
def negotiatedV2Capabilities (runtimeCapabilities : JsonObject)
    (authorizationMode : AuthorizationMode) (v2Enabled : Bool) : List Text :=
  if v2Enabled = false then []
  else match (runtimeCapabilities.get "device_control".toList).bind JsonValue.object? with
    | none => []
    | some capability =>
      match (JsonObject.get capability "capabilities".toList).bind JsonValue.array? with
      | none => []
      | some advertised =>
        match advertised.mapM JsonValue.text? with
        | none => []
        | some values =>
          let required := if authorizationMode = .sessionFullTrust
            then deviceControlV2Capabilities else requiredDeviceControlV2Capabilities
          let allowed := if authorizationMode = .sessionFullTrust
            then deviceControlV2Capabilities else legacyDeviceControlV2Capabilities
          if ¬values.Nodup ∨ (∃ v ∈ values, v ∉ deviceControlV2Capabilities) ∨
            ∃ c ∈ required, c ∉ values then []
          else allowed.filter fun c => c ∈ values

/-- `_supports_device_control`. -/
def supportsDeviceControl (runtimeCapabilities : JsonObject) (runtimeBackend : Text)
    (authorizationMode : AuthorizationMode) : Bool :=
  match (runtimeCapabilities.get "device_control".toList).bind JsonValue.object? with
  | none => false
  | some capability =>
    JsonObject.bool? capability "supported".toList = some true ∧
    holdsOne (JsonObject.get capability "protocol_versions".toList) ∧
    holdsText (JsonObject.get capability "platforms".toList) "macos".toList ∧
    holdsText (JsonObject.get capability "backends".toList) runtimeBackend ∧
    (authorizationMode = .sessionFullTrust →
      negotiatedV2Capabilities runtimeCapabilities authorizationMode
        service.settings.deviceControlV2Enabled = deviceControlV2Capabilities)

/-- The close calls for revoked bindings: without a hub there are none. -/
def closeRelay (revoked : List (Uuid × ℕ)) : List (Uuid × ℕ) :=
  if service.relayHub then revoked else []

end DeviceSessionService

/-! ### Lease identities -/

/-- The nearest integer, a tie going to the even one. -/
def roundHalfEven (q : ℚ) : ℤ :=
  let r := q - ⌊q⌋
  if r < 1 / 2 then ⌊q⌋
  else if 1 / 2 < r then ⌊q⌋ + 1
  else if ⌊q⌋ % 2 = 0 then ⌊q⌋ else ⌊q⌋ + 1

/-- The double nearest to a rational: 53 significant bits. -/
def roundDouble (q : ℚ) : ℚ :=
  if q = 0 then 0
  else
    let ulp : ℚ := 2 ^ (Int.log 2 |q| - 52)
    roundHalfEven (q / ulp) * ulp

/-- `int(lease_until.timestamp() * 1_000_000)`. -/
def leaseIdentity (leaseUntil : Instant) : ℤ :=
  let product := roundDouble (roundDouble (leaseUntil / 1000000) * 1000000)
  product.num.tdiv product.den

/-! ### Tasks -/

def DeviceSession.payload (s : DeviceSession) : DeviceControlPayload where
  authorizationMode := s.authorizationMode
  userId := s.userId
  deviceId := s.deviceId
  toolSessionId := s.toolSessionReferenceId
  deviceSessionId := s.id
  nodeId := s.nodeId
  generation := s.generation

def DeviceSession.activationTask (s : DeviceSession) (toolSession : ToolSession) :
    DeviceControlTask where
  taskId := .activate s.id s.generation
  nodeId := s.nodeId
  payload := .activation s.payload s.expiresAt toolSession.runtimeBackend
    toolSession.runtimeResourceId

def DeviceSession.deactivationTask (s : DeviceSession) : DeviceControlTask where
  taskId := .deactivate s.id s.generation
  nodeId := s.nodeId
  payload := .deactivation s.id s.toolSessionReferenceId s.generation

def DeviceSession.contextTask (s : DeviceSession) (leaseUntil : Instant)
    (capabilities : List Text) : DeviceControlTask where
  taskId := .updateContext s.id s.generation (leaseIdentity leaseUntil)
  nodeId := s.nodeId
  payload := .context s.payload leaseUntil capabilities

namespace DeviceControlTables

/-- `_enqueue_activation`. -/
def enqueueActivation (db : DeviceControlTables) (s : DeviceSession) (toolSession : ToolSession) :
    Except DeviceControlFailure DeviceControlTables :=
  db.addTask (s.activationTask toolSession)

/-- `_enqueue_deactivation`. -/
def enqueueDeactivation (db : DeviceControlTables) (s : DeviceSession) :
    Except DeviceControlFailure DeviceControlTables :=
  db.addTask s.deactivationTask

/-- `_enqueue_context_update`. -/
def enqueueContextUpdate (db : DeviceControlTables) (world : DeviceControlWorld)
    (s : DeviceSession) (v2Enabled : Bool) : Except DeviceControlFailure DeviceControlTables :=
  match s.leaseUntil with
  | none => throw (.runtimeError "active device session omitted its lease")
  | some leaseUntil =>
    let runtimeCapabilities := ((world.node s.nodeId).map (·.runtimeCapabilities)).getD []
    db.addTask (s.contextTask leaseUntil (DeviceSessionService.negotiatedV2Capabilities
      runtimeCapabilities s.authorizationMode v2Enabled))

end DeviceControlTables

/-! ### Shared steps -/

/-- `_increment_generation`. -/
def incrementGeneration (s : DeviceSession) (terminal : Bool) :
    Except DeviceControlFailure DeviceSession := do
  let maximum := if terminal then maxDeviceSessionGeneration else maxActiveDeviceSessionGeneration
  reject (maximum ≤ s.generation) .generationExhausted
  pure { s with generation := s.generation + 1 }

namespace DeviceControlTables

variable (db : DeviceControlTables)

/-- The end of a session: the generation advances, lease and lock go, and the node is told. -/
def endSession (s : DeviceSession) (status : DeviceSessionStatus) (reason : Text)
    (now : Instant) : Except DeviceControlFailure DeviceControlTables := do
  let advanced ← incrementGeneration s true
  let ended := { advanced with
    status, leaseUntil := none, lockAcquiredAt := none, stoppedAt := some now,
    stopReason := some reason }
  (db.setSession ended).enqueueDeactivation ended

/-- The body of `_stop` and `_expire_binding`: a session that has ended is left alone. -/
def terminate (s : DeviceSession) (status : DeviceSessionStatus) (reason : Text)
    (now : Instant) : Except DeviceControlFailure (DeviceControlTables × List (Uuid × ℕ)) :=
  if s.status.terminal then pure (db, [])
  else do
    let db' ← db.endSession s status reason now
    pure (db', [(s.id, s.generation)])

/-- Terminates the listed sessions in one transaction. -/
def terminateAll (sessions : List DeviceSession) (status : DeviceSessionStatus) (reason : Text)
    (now : Instant) : Except DeviceControlFailure (DeviceControlTables × List (Uuid × ℕ)) :=
  sessions.foldlM (fun (acc : DeviceControlTables × List (Uuid × ℕ)) s => do
    let (db', revoked) ← acc.1.terminate s status reason now
    pure (db', acc.2 ++ revoked)) (db, [])

/-- `_require`. -/
def require (id : Uuid) : Except DeviceControlFailure DeviceSession :=
  match db.get id with
  | none => throw .notFound
  | some s => pure s

/-- `_require_device`. -/
def requireDevice (token : AuthToken) (id : Uuid) : Except DeviceControlFailure DeviceSession := do
  let s ← db.require id
  reject (token.tokenType ≠ .device ∨ token.userDeviceId ≠ some s.deviceId) .notFound
  pure s

end DeviceControlTables

/-- A live session past its end. -/
def DeviceSession.overdue (s : DeviceSession) (now : Instant) : Bool :=
  s.status.terminal = false ∧ s.expiresAt ≤ now

namespace DeviceSessionService

variable (service : DeviceSessionService) {α : Type}

/-- The lease granted at `now`. -/
def grantedLease (s : DeviceSession) (now : Instant) : Instant :=
  min (now + seconds service.settings.leaseSeconds) s.expiresAt

/-- `_expire_binding` with its commit, after which the call raises `e`. -/
def expireAndRaise (db : DeviceControlTables) (now : Instant) (s : DeviceSession)
    (reason : String) (e : DeviceControlFailure) : DeviceSessionResponse α :=
  match db.terminate s .expired reason.toList now with
  | .error f => .fail db f
  | .ok (db', revoked) => { db := db', closed := service.closeRelay revoked, result := .error e }

/-- `_require_not_expired`, before the rest of an operation. -/
def requireNotExpired (db : DeviceControlTables) (now : Instant) (s : DeviceSession)
    (rest : DeviceSessionResponse α) : DeviceSessionResponse α :=
  if s.overdue now then service.expireAndRaise db now s "session_expired" .sessionExpired
  else if s.status = .expired then .fail db .sessionExpired
  else rest

/-- `_require_generation` and `_require_not_expired`. -/
def requireCurrent (db : DeviceControlTables) (now : Instant) (s : DeviceSession)
    (generation : ℕ) (rest : DeviceSessionResponse α) : DeviceSessionResponse α :=
  if generation ≠ s.generation then .fail db .generationMismatch
  else service.requireNotExpired db now s rest

/-- `_require_active_generation`. -/
def requireActiveGeneration (db : DeviceControlTables) (now : Instant) (s : DeviceSession)
    (generation : ℕ) (rest : DeviceSessionResponse α) : DeviceSessionResponse α :=
  service.requireCurrent db now s generation <|
    if s.status ≠ .active then .fail db .stateConflict
    else if ∀ leaseUntil ∈ s.leaseUntil, leaseUntil ≤ now then
      service.expireAndRaise db now s "lease_expired" .leaseExpired
    else rest

/-- Runs the rest of an operation on the session of a device token. -/
def forDevice (db : DeviceControlTables) (token : AuthToken) (id : Uuid)
    (rest : DeviceSession → DeviceSessionResponse α) : DeviceSessionResponse α :=
  match db.requireDevice token id with
  | .error e => .fail db e
  | .ok s => rest s

/-- `_require_device_token`. -/
def requireDeviceToken (token : AuthToken) : Except DeviceControlFailure Uuid :=
  match token.tokenType, token.userDeviceId with
  | .device, some deviceId => pure deviceId
  | _, _ => throw .deviceTokenRequired

/-- `_validate_claimable_tool_session`. -/
def validateClaimableToolSession (toolSession : ToolSession) :
    Except DeviceControlFailure Unit := do
  reject (toolSession.toolType ≠ "claude".toList)
    (.apiError "DEVICE_CONTROL_TOOL_UNSUPPORTED"
      "Only Claude sessions can be controlled by a device." 409)
  reject (toolSession.running = false) .toolSessionInactive
  reject (toolSession.deviceControlProtocolVersion ≠ some 1) .toolSessionNotConfigured

/-- `_require_tool_session`. -/
def requireToolSession (world : DeviceControlWorld) (id : Uuid) :
    Except DeviceControlFailure ToolSession :=
  match world.toolSession id with
  | none => throw .toolSessionInactive
  | some toolSession => pure toolSession

/-- The device of an owner that can be controlled. -/
def requireOwnDevice (world : DeviceControlWorld) (userId deviceId : Uuid) :
    Except DeviceControlFailure UserDevice :=
  match world.device deviceId with
  | none => throw .deviceNotFound
  | some device => do
    reject (device.userId ≠ userId ∨ device.active = false) .deviceNotFound
    pure device

/-! ### Creation and claim -/

/-- The row of a new session. -/
def newSession (id : Uuid) (now : Instant) (userId deviceId : Uuid) (toolSession : ToolSession)
    (mode : AuthorizationMode) : DeviceSession where
  id := id
  userId := userId
  deviceId := deviceId
  toolSessionId := some toolSession.id
  toolSessionReferenceId := toolSession.id
  nodeId := toolSession.nodeId
  status := .pendingDevice
  generation := 1
  authorizationMode := mode
  authorizedAt := if mode = .sessionFullTrust then some now else none
  leaseUntil := none
  expiresAt := now + seconds service.settings.maxTtlSeconds
  lockAcquiredAt := none
  stoppedAt := none
  stopReason := none

/-- Adds a session and its activation task. -/
def addActivated (db : DeviceControlTables) (s : DeviceSession) (toolSession : ToolSession) :
    Except DeviceControlFailure DeviceControlTables := do
  let db' ← db.addSession s
  db'.enqueueActivation s toolSession

/-- The insertion of a session, with the answer to a broken unique index. -/
def insertSession (db : DeviceControlTables) (s : DeviceSession) (toolSession : ToolSession)
    (conflict : DeviceControlFailure) : Except DeviceControlFailure DeviceControlTables :=
  match addActivated db s toolSession with
  | .error .integrityError => throw conflict
  | .error e => throw e
  | .ok db' => pure db'

/-- What `create` checks before it inserts. -/
def checkCreate (world : DeviceControlWorld) (user : User) (token : AuthToken)
    (deviceId toolSessionId : Uuid) :
    Except DeviceControlFailure (UserDevice × ToolSession) := do
  reject (service.settings.deviceControlEnabled = false) .controlDisabled
  reject (token.tokenType ≠ .user)
    (.apiError "COMMON_FORBIDDEN" "A user token is required." 403)
  reject (user.admin = false)
    (.apiError "DEVICE_CONTROL_LEGACY_CREATE_RESTRICTED"
      "Legacy device-session creation is restricted to administrators." 403)
  reject (service.settings.authorizationMode ≠ .perApplicationApproval)
    (.apiError "DEVICE_CONTROL_CLAIM_REQUIRED"
      "Session full trust must be granted by selection in the Device app." 409)
  let device ← requireOwnDevice world user.id deviceId
  reject (device.platform ≠ "macos".toList) .platformUnsupported
  match world.toolSession toolSessionId with
  | none => throw .toolSessionNotFound
  | some toolSession =>
    reject (toolSession.userId ≠ user.id) .toolSessionNotFound
    reject (toolSession.running = false) .toolSessionInactive
    reject (toolSession.deviceControlProtocolVersion ≠ some 1) .toolSessionNotConfigured
    match world.node toolSession.nodeId with
    | none => throw .nodeIncompatible
    | some node =>
      reject (service.supportsDeviceControl node.runtimeCapabilities toolSession.runtimeBackend
        service.settings.authorizationMode = false) .nodeIncompatible
      pure (device, toolSession)

/-- `create`, with the id of the new row. -/
def create (db : DeviceControlTables) (world : DeviceControlWorld) (now : Instant) (id : Uuid)
    (user : User) (token : AuthToken) (deviceId toolSessionId : Uuid) :
    DeviceSessionResponse DeviceSession :=
  .ofExcept db do
    let (device, toolSession) ← service.checkCreate world user token deviceId toolSessionId
    let s := service.newSession id now user.id device.id toolSession .perApplicationApproval
    let db' ← insertSession db s toolSession (.apiError "DEVICE_CONTROL_SESSION_EXISTS"
      "This tool session already has a device session." 409)
    pure (db', [], s)

/-- What `claim` checks before it looks at the bindings. -/
def checkClaim (world : DeviceControlWorld) (token : AuthToken) (toolSessionId : Uuid)
    (deviceCapabilities : List Text) :
    Except DeviceControlFailure (UserDevice × ToolSession) := do
  reject (service.settings.deviceControlEnabled = false) .controlDisabled
  reject (service.settings.authorizationMode = .sessionFullTrust ∧
      deviceCapabilities ≠ fullTrustDeviceCapabilities)
    (.apiError "DEVICE_CONTROL_DEVICE_UPGRADE_REQUIRED"
      "The Device app does not support session full trust." 409)
  let deviceId ← requireDeviceToken token
  match world.toolSession toolSessionId with
  | none => throw .toolSessionNotFound
  | some toolSession =>
    reject (toolSession.userId ≠ token.userId) .toolSessionNotFound
    let device ← requireOwnDevice world token.userId deviceId
    reject (device.platform ≠ "macos".toList) .platformUnsupported
    validateClaimableToolSession toolSession
    match world.node toolSession.nodeId with
    | none => throw (.apiError "DEVICE_CONTROL_NODE_UNAVAILABLE"
        "The assigned node is not currently available." 409)
    | some node =>
      reject (node.available = false) (.apiError "DEVICE_CONTROL_NODE_UNAVAILABLE"
        "The assigned node is not currently available." 409)
      reject (service.supportsDeviceControl node.runtimeCapabilities toolSession.runtimeBackend
        service.settings.authorizationMode = false) .nodeIncompatible
      pure (device, toolSession)

/-- Stops the bindings of the tool session and of the device and inserts the new one. -/
def rebound (db : DeviceControlTables) (now : Instant) (id : Uuid) (token : AuthToken)
    (device : UserDevice) (toolSession : ToolSession) (bindings : List DeviceSession)
    (target current : Option DeviceSession) (expired : List (Uuid × ℕ)) :
    Except DeviceControlFailure (DeviceControlTables × List (Uuid × ℕ) × DeviceSession) := do
  let (db₂, stopped) ← db.terminateAll
    (bindings.filter fun s => (∃ t ∈ target, t.id = s.id) ∨ ∃ c ∈ current, c.id = s.id)
    .stopped "rebound".toList now
  let s := service.newSession id now token.userId device.id toolSession
    service.settings.authorizationMode
  let db' ← insertSession db₂ s toolSession (.apiError "DEVICE_CONTROL_BINDING_CONFLICT"
    "The selected Claude session or device is already bound." 409)
  pure (db', service.closeRelay (expired ++ stopped), s)

/-- The transaction of `claim` after its checks: overdue bindings expire, then the binding of
the session and the one of the device make room for a new one, unless they are one. -/
def rebind (db : DeviceControlTables) (now : Instant) (id : Uuid) (token : AuthToken)
    (device : UserDevice) (toolSession : ToolSession) :
    Except DeviceControlFailure (DeviceControlTables × List (Uuid × ℕ) × DeviceSession) := do
  let bindings := db.listLiveForBinding toolSession.id device.id
  let (db₁, expired) ← db.terminateAll (bindings.filter fun s => s.expiresAt ≤ now) .expired
    "session_expired".toList now
  let bindings := bindings.filter fun s => ¬s.expiresAt ≤ now
  let target := bindings.find? fun s => s.toolSessionId = some toolSession.id
  let current := bindings.find? fun s => s.deviceId = device.id
  match target, current with
  | some t, some c =>
    if t.id = c.id then pure (db₁, [], t)
    else service.rebound db₁ now id token device toolSession bindings target current expired
  | _, _ => service.rebound db₁ now id token device toolSession bindings target current expired

/-- `claim`, with the id of the new row. -/
def claim (db : DeviceControlTables) (world : DeviceControlWorld) (now : Instant) (id : Uuid)
    (token : AuthToken) (toolSessionId : Uuid) (deviceCapabilities : List Text) :
    DeviceSessionResponse DeviceSession :=
  .ofExcept db do
    let (device, toolSession) ← service.checkClaim world token toolSessionId deviceCapabilities
    service.rebind db now id token device toolSession

/-! ### Reading and deleting -/

/-- `delete_for_user`. -/
def deleteForUser (db : DeviceControlTables) (user : User) (id : Uuid) :
    DeviceSessionResponse Unit :=
  .ofExcept db do
    let s ← db.require id
    reject (s.userId ≠ user.id ∧ user.admin = false) .notFound
    reject (s.status.terminal = false)
      (.apiError "DEVICE_SESSION_NOT_TERMINAL" "Only ended device sessions can be deleted." 409)
    pure (db.deleteSessions (fun t => t.id = s.id), [], ())

/-- `delete_terminal_sessions`. -/
def deleteTerminalSessions (db : DeviceControlTables) (user : User) : DeviceSessionResponse ℕ :=
  let visible (s : DeviceSession) : Prop := (user.admin = true ∨ s.userId = user.id) ∧
    s.status.terminal = true
  { db := db.deleteSessions visible
    result := .ok (db.sessions.filter fun s => visible s).length }

/-- `delete_terminal_before`: the retention drops the oldest ended sessions. -/
def deleteTerminalBefore (db : DeviceControlTables) (cutoff : Instant) (limit : ℕ) :
    DeviceSessionResponse ℕ :=
  let old := ((db.sessions.filter fun s => s.status.terminal = true ∧
      ∃ t ∈ s.stoppedAt, t < cutoff).insertionSort fun s t =>
    s.stoppedAt.getD 0 < t.stoppedAt.getD 0 ∨ s.stoppedAt = t.stoppedAt ∧ s.id ≤ t.id).take limit
  { db := db.deleteSessions fun s => s ∈ old
    result := .ok old.length }

/-- `list_for_device`: the expiry of each listed session is committed on its own. -/
def expireListed (now : Instant) :
    List DeviceSession → DeviceControlTables → List (Uuid × ℕ) → DeviceSessionResponse Unit
  | [], db, closed => { db, closed, result := .ok () }
  | s :: rest, db, closed =>
    if s.overdue now then
      match db.terminate s .expired "session_expired".toList now with
      | .error e => { db, closed, result := .error e }
      | .ok (db', revoked) => expireListed now rest db' (closed ++ service.closeRelay revoked)
    else expireListed now rest db closed

def listForDevice (db : DeviceControlTables) (now : Instant) (token : AuthToken) :
    DeviceSessionResponse (List DeviceSession) :=
  match requireDeviceToken token with
  | .error e => .fail db e
  | .ok deviceId =>
    let items := db.listForDevice deviceId
    let swept := service.expireListed now items db []
    { db := swept.db, closed := swept.closed,
      result := swept.result.map fun _ => items.filter fun s => s.overdue now = false }

/-- `expire_due`. -/
def expireDue (db : DeviceControlTables) (now : Instant) : DeviceSessionResponse ℕ :=
  .ofExcept db do
    let due := db.listDue now
    let (db', revoked) ← db.terminateAll due .expired "session_expired".toList now
    pure (db', service.closeRelay revoked, due.length)

/-- A row of the candidate list; the names a user sees are left out. -/
structure Candidate where
  toolSessionId : Uuid
  nodeId : Uuid
  currentDeviceId : Option Uuid
  deviceSessionId : Option Uuid

/-- What `list_candidates` checks. -/
def checkCandidates (world : DeviceControlWorld) (token : AuthToken) :
    Except DeviceControlFailure Unit := do
  reject (service.settings.deviceControlEnabled = false) .controlDisabled
  let deviceId ← requireDeviceToken token
  match world.device deviceId with
  | none => throw .deviceNotFound
  | some device =>
    reject (device.active = false ∨ device.platform ≠ "macos".toList) .deviceNotFound

/-- `list_candidates`, over the tool sessions that the query finds for the user. -/
def listCandidates (db : DeviceControlTables) (world : DeviceControlWorld) (now : Instant)
    (token : AuthToken) (toolSessions : List ToolSession) :
    DeviceSessionResponse (List Candidate) :=
  match service.checkCandidates world token with
  | .error e => .fail db e
  | .ok _ =>
    let swept := service.expireDue db now
    { db := swept.db, closed := swept.closed,
      result := swept.result.map fun _ => toolSessions.filterMap fun toolSession => do
        let node ← world.node toolSession.nodeId
        guard (node.available ∧ service.supportsDeviceControl node.runtimeCapabilities
          toolSession.runtimeBackend service.settings.authorizationMode)
        let binding := swept.db.sessions.find? fun s =>
          s.toolSessionId = some toolSession.id ∧ s.status.terminal = false
        pure { toolSessionId := toolSession.id, nodeId := toolSession.nodeId,
               currentDeviceId := binding.map (·.deviceId),
               deviceSessionId := binding.map (·.id) } }

/-- `get_for_user`. -/
def getForUser (db : DeviceControlTables) (now : Instant) (user : User) (id : Uuid) :
    DeviceSessionResponse DeviceSession :=
  match db.require id with
  | .error e => .fail db e
  | .ok s =>
    if s.userId ≠ user.id then .fail db .notFound
    else if s.overdue now then
      match db.terminate s .expired "session_expired".toList now with
      | .error e => .fail db e
      | .ok (db', revoked) =>
        { db := db', closed := service.closeRelay revoked, result := db'.require id }
    else { db, result := .ok s }

/-! ### Connection, approval, lock and lease -/

/-- A session that becomes active takes a lease and tells its node. -/
def activate (db : DeviceControlTables) (world : DeviceControlWorld) (now : Instant)
    (s : DeviceSession) (v2Enabled : Bool) :
    Except DeviceControlFailure (DeviceControlTables × DeviceSession) := do
  let active := { s with status := .active, leaseUntil := some (service.grantedLease s now) }
  let db' ← (db.setSession active).enqueueContextUpdate world active v2Enabled
  pure (db', active)

/-- What the full-trust mode checks of the tool session and its node at connection. -/
def checkFullTrust (world : DeviceControlWorld) (s : DeviceSession) :
    Except DeviceControlFailure Unit := do
  let toolSession ← requireToolSession world s.toolSessionReferenceId
  validateClaimableToolSession toolSession
  let unavailable := .apiError "DEVICE_CONTROL_NODE_UNAVAILABLE"
    "The assigned node lacks the complete full-trust capability set." 409
  match world.node s.nodeId with
  | none => throw unavailable
  | some node =>
    reject (node.available = false ∨ service.supportsDeviceControl node.runtimeCapabilities
      toolSession.runtimeBackend s.authorizationMode = false) unavailable

/-- `mark_device_connected`. -/
def markDeviceConnected (db : DeviceControlTables) (world : DeviceControlWorld) (now : Instant)
    (token : AuthToken) (id : Uuid) (generation : ℕ) : DeviceSessionResponse DeviceSession :=
  forDevice db token id fun s => service.requireCurrent db now s generation <| .ofExcept db do
    reject (s.status ≠ .pendingDevice) .stateConflict
    match s.authorizationMode with
    | .sessionFullTrust => do
      service.checkFullTrust world s
      let (db', active) ← service.activate db world now s service.settings.deviceControlV2Enabled
      pure (db', [], active)
    | .perApplicationApproval =>
      let waiting := { s with status := .pendingUserApproval }
      pure (db.setSession waiting, [], waiting)

/-- `approve`. -/
def approve (db : DeviceControlTables) (world : DeviceControlWorld) (now : Instant)
    (token : AuthToken) (id : Uuid) (generation : ℕ) (approvals : List DeviceApprovalItem) :
    DeviceSessionResponse DeviceSession :=
  forDevice db token id fun s => service.requireCurrent db now s generation <| .ofExcept db do
    reject (s.authorizationMode ≠ .perApplicationApproval)
      (.apiError "DEVICE_CONTROL_AUTHORIZATION_MODE_CONFLICT"
        "Full-trust device sessions do not accept application approvals." 409)
    reject (s.status ≠ .pendingUserApproval) .stateConflict
    reject (¬(approvals.map (·.applicationDigest)).Nodup)
      (.apiError "DEVICE_CONTROL_DUPLICATE_APPLICATION" "Application approvals must be unique." 422)
    let db₁ := db.replaceApprovals s.id approvals
    if ∀ item ∈ approvals, item.allowed = false then do
      let db' ← db₁.endSession s .denied "user_denied".toList now
      let denied ← db'.require s.id
      pure (db', service.closeRelay [(s.id, s.generation)], denied)
    else do
      let (db', active) ← service.activate db₁ world now s
        service.settings.deviceControlV2Enabled
      pure (db', [], active)

/-- `acquire_lock`. -/
def acquireLock (db : DeviceControlTables) (now : Instant) (token : AuthToken) (id : Uuid)
    (generation : ℕ) : DeviceSessionResponse DeviceSession :=
  forDevice db token id fun s =>
    service.requireActiveGeneration db now s generation <| .ofExcept db do
      if s.lockAcquiredAt ≠ none then pure (db, [], s)
      else do
        reject (db.findMachineLock s.deviceId s.id ≠ none) .machineLocked
        let locked := { s with lockAcquiredAt := some now }
        match db.lockSession locked with
        | .error _ => throw .machineLocked
        | .ok db' => pure (db', [], locked)

/-- `renew`. -/
def renew (db : DeviceControlTables) (world : DeviceControlWorld) (now : Instant)
    (token : AuthToken) (id : Uuid) (generation : ℕ) : DeviceSessionResponse DeviceSession :=
  forDevice db token id fun s =>
    service.requireActiveGeneration db now s generation <| .ofExcept db do
      let (db', renewed) ← service.activate db world now s true
      pure (db', [], renewed)

/-- The next generation of a session waits for its device. -/
def reopen (db : DeviceControlTables) (world : DeviceControlWorld) (s : DeviceSession) :
    Except DeviceControlFailure (DeviceControlTables × List (Uuid × ℕ) × DeviceSession) := do
  let advanced ← incrementGeneration s false
  let waiting := { advanced with status := .pendingDevice, leaseUntil := none }
  let toolSession ← requireToolSession world s.toolSessionReferenceId
  let db' ← (db.setSession waiting).enqueueActivation waiting toolSession
  pure (db', [], waiting)

/-- `reconnect`. -/
def reconnect (db : DeviceControlTables) (world : DeviceControlWorld) (now : Instant)
    (token : AuthToken) (id : Uuid) (generation : ℕ) : DeviceSessionResponse DeviceSession :=
  forDevice db token id fun s => service.requireCurrent db now s generation <| .ofExcept db do
    reject (s.status.reconnectable = false) .stateConflict
    reopen db world s

/-- `abort_action`. -/
def abortAction (db : DeviceControlTables) (world : DeviceControlWorld) (now : Instant)
    (token : AuthToken) (id : Uuid) (generation : ℕ) : DeviceSessionResponse DeviceSession :=
  forDevice db token id fun s => service.requireCurrent db now s generation <| .ofExcept db do
    reject (s.status ≠ .active) .stateConflict
    reopen db world s

/-! ### Stops -/

/-- `_stop` with its commit. -/
def stop (db : DeviceControlTables) (now : Instant) (s : DeviceSession) (reason : Text) :
    DeviceSessionResponse DeviceSession :=
  .ofExcept db do
    let (db', revoked) ← db.terminate s .stopped reason now
    let stopped ← db'.require s.id
    pure (db', service.closeRelay revoked, stopped)

def stopByUser (db : DeviceControlTables) (now : Instant) (user : User) (id : Uuid)
    (reason : Text) : DeviceSessionResponse DeviceSession :=
  match db.require id with
  | .error e => .fail db e
  | .ok s => if s.userId ≠ user.id then .fail db .notFound else service.stop db now s reason

def stopByDevice (db : DeviceControlTables) (now : Instant) (token : AuthToken) (id : Uuid)
    (reason : Text) : DeviceSessionResponse DeviceSession :=
  forDevice db token id fun s => service.stop db now s reason

def stopByAdmin (db : DeviceControlTables) (now : Instant) (user : User) (id : Uuid)
    (reason : Text) : DeviceSessionResponse DeviceSession :=
  if user.admin = false then .fail db (.apiError "COMMON_FORBIDDEN" "Admin role required." 403)
  else match db.require id with
    | .error e => .fail db e
    | .ok s => service.stop db now s reason

/-- Stops the listed sessions; a caller that commits later closes their relays itself. -/
def stopListed (db : DeviceControlTables) (now : Instant) (bindings : List DeviceSession)
    (reason : Text) (commit : Bool) : DeviceSessionResponse (List (Uuid × ℕ)) :=
  .ofExcept db do
    let (db', revoked) ← db.terminateAll bindings .stopped reason now
    pure (db', if commit then service.closeRelay revoked else [], revoked)

def stopForToolSession (db : DeviceControlTables) (now : Instant) (toolSessionId : Uuid)
    (reason : Text) (commit : Bool) : DeviceSessionResponse (List (Uuid × ℕ)) :=
  service.stopListed db now (db.listLiveForToolSession toolSessionId) reason commit

def stopForDevice (db : DeviceControlTables) (now : Instant) (deviceId : Uuid)
    (reason : Text) (commit : Bool) : DeviceSessionResponse (List (Uuid × ℕ)) :=
  service.stopListed db now (db.listLiveForDevice deviceId) reason commit

end DeviceSessionService

end AgentRemote
