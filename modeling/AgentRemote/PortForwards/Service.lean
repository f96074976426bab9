import AgentRemote.Library.History
import AgentRemote.PortForwards.Policy

/-!
# The port-forward service

Each operation as one transaction. `seen i` is the state its `i`-th statement reads, `db` the
one it commits on. A forward that is locked before it is read comes from `db`; `stop`, `get`,
`list` and `issueConnection` decide on an unlocked copy. An update names the columns in which
the row differs from its copy. The user row that `create` locks orders the creations of a
user, so that their counts are those of `db`.
-/

namespace AgentRemote.PortForwards
open Library

variable (settings : PortForwardSettings) (seen : ℕ → ForwardDb) (db : ForwardDb)

/-- A column after an update: the row keeps its value unless the transaction changed its copy. -/
def column {α : Type} [DecidableEq α] (copy new row : α) : α := if new = copy then row else new

/-- The row after an update that changed `copy` to `new`. -/
def PortForward.updated (row copy new : PortForward) : PortForward where
  id := row.id
  userId := row.userId
  deviceId := row.deviceId
  sshKeyId := column copy.sshKeyId new.sshKeyId row.sshKeyId
  sessionId := row.sessionId
  nodeId := row.nodeId
  remotePort := row.remotePort
  requestedLocalPort := row.requestedLocalPort
  clientInstanceId := row.clientInstanceId
  callerRequestId := row.callerRequestId
  callerIntentDigest := row.callerIntentDigest
  status := column copy.status new.status row.status
  bytesUp := column copy.bytesUp new.bytesUp row.bytesUp
  bytesDown := column copy.bytesDown new.bytesDown row.bytesDown
  connectionCount := column copy.connectionCount new.connectionCount row.connectionCount
  connectionGeneration :=
    column copy.connectionGeneration new.connectionGeneration row.connectionGeneration
  generationBytesUp := column copy.generationBytesUp new.generationBytesUp row.generationBytesUp
  generationBytesDown :=
    column copy.generationBytesDown new.generationBytesDown row.generationBytesDown
  generationConnectionCount := column copy.generationConnectionCount
    new.generationConnectionCount row.generationConnectionCount
  lastConnectedAt := column copy.lastConnectedAt new.lastConnectedAt row.lastConnectedAt
  leaseExpiresAt := column copy.leaseExpiresAt new.leaseExpiresAt row.leaseExpiresAt
  expiresAt := row.expiresAt
  stoppedAt := column copy.stoppedAt new.stoppedAt row.stoppedAt
  stopReason := column copy.stopReason new.stopReason row.stopReason

/-- An update of a row that is gone fails. -/
def ForwardDb.update (copy new : PortForward) : Except ForwardFailure ForwardDb :=
  if db.forwards.any (·.id = copy.id) then
    .ok { db with forwards := db.forwards.map fun row =>
      if row.id = copy.id then row.updated copy new else row }
  else .error .staleDataError

/-- An error, and the forward as it is committed before the error is raised. -/
structure Refusal where
  failure : ForwardFailure
  settled : Option PortForward

def Refusal.of (failure : ForwardFailure) : Refusal := ⟨failure, none⟩

/-- The answer to a request that is refused. -/
def ForwardDb.refuse {α : Type} (copy : PortForward) (r : Refusal) :
    ForwardDb × Except ForwardFailure α :=
  match r.settled with
  | none => (db, .error r.failure)
  | some new =>
    match db.update copy new with
    | .ok after => (after, .error r.failure)
    | .error e => (db, .error e)

/-- The forward once it has ended. -/
def PortForward.ended (f : PortForward) (status : ForwardStatus) (reason : String)
    (now : Instant) : PortForward :=
  { f with status := status, stoppedAt := some now, stopReason := some reason.toList,
           leaseExpiresAt := none }

/-- The condition of `_expire_if_needed`. -/
def PortForward.overdue (f : PortForward) (now : Instant) : Bool :=
  f.status.terminal = false ∧ f.expiresAt ≤ now

def PortForward.expired (f : PortForward) (now : Instant) : PortForward :=
  f.ended .expired "ttl_expired" now

/-- `_ensure_non_terminal`. -/
def ensureNonTerminal (f : PortForward) (now : Instant) : Except Refusal Unit :=
  if f.overdue now then
    .error ⟨.plain "AUTH_EXPIRED" "Port forward has expired." 410, some (f.expired now)⟩
  else if f.status.terminal then
    .error (.of (.plain "TUNNEL_EXPIRED" "Port forward is no longer active." 409))
  else .ok ()

def notFound (what : String) : ForwardFailure :=
  .plain "COMMON_NOT_FOUND" (what ++ " was not found.") 404

/-- `_require_node`. -/
def requireNode (world : ForwardWorld) (id : Uuid) : Except ForwardFailure Node :=
  match world.getNode id with
  | none => .error (notFound "Node")
  | some node =>
    if node.status.available then .ok node
    else .error (.plain "NODE_UNHEALTHY" "Node is not available." 409)

def ToolSession.hasRuntime (s : ToolSession) : Bool :=
  s.status.live ∧ s.runtimeResourceId.any (· ≠ [])

/-- `_require_runtime_authorization`, whose first statement is the `i`-th of its caller. -/
def requireRuntimeAuthorization (i : ℕ) (f : PortForward) :
    Except Refusal (ToolSession × PortForwardPolicy) := do
  ensureNonTerminal f (seen i).clock
  let revoke (j : ℕ) (reason : String) (failure : ForwardFailure) : Refusal :=
    ⟨failure, some (f.ended .revoked reason (seen j).clock)⟩
  reject ((seen (i + 1)).world.getActiveUser f.userId = none) <|
    revoke (i + 1) "user_revoked" (.plain "USER_REVOKED" "User is not active." 403)
  let sshKey := match f.sshKeyId with
    | some id => (seen (i + 3)).world.getActiveSshKey f.deviceId id
    | none => (seen (i + 3)).world.firstActiveSshKey f.deviceId
  reject ((seen (i + 2)).world.getActiveDevice f.userId f.deviceId = none ∨ sshKey = none) <|
    revoke (i + 3) "device_revoked" (.plain "DEVICE_REVOKED" "Device is not active." 403)
  let notRunning := revoke (i + 4) "session_not_running"
    (.plain "SESSION_NOT_RUNNING" "Session is not running." 409)
  match (seen (i + 4)).world.getSession f.sessionId with
  | none => .error notRunning
  | some toolSession => do
    reject (toolSession.hasRuntime = false) notRunning
    reject ((seen (i + 5)).world.getActiveToolAccount toolSession.toolAccountId = none) <|
      revoke (i + 5) "tool_account_revoked"
        (.plain "TOOL_ACCOUNT_REVOKED" "Tool account is not active." 403)
    let node ← (requireNode (seen (i + 6)).world f.nodeId).mapError .of
    let policy := settings.policy node
    (requireCapability node toolSession).mapError .of
    (validateRemotePort policy f.remotePort).mapError .of
    .ok (toolSession, policy)

/-! ### Connection tokens -/

/-- A connection token and when it ends. -/
structure IssuedConnection where
  token : Uuid
  expiresAt : Instant

def controlPlaneUnavailable (message : String) : ForwardFailure :=
  .plain "CONTROL_PLANE_UNAVAILABLE" message 503

/-- `_issue_connection`. The store may be down. -/
def issueConnection (storeUp : Bool) (now : Instant) (f : PortForward) :
    Except ForwardFailure (ForwardDb × IssuedConnection) :=
  if storeUp then
    let expiresAt := now + seconds settings.connectionTokenTtlSeconds
    .ok ({ db with
           connectionTokens :=
             ⟨db.nextId, f.id, f.deviceId, f.sshKeyId, expiresAt⟩ :: db.connectionTokens
           nextId := db.nextId + 1 }, ⟨db.nextId, expiresAt⟩)
  else .error (controlPlaneUnavailable "Unable to issue a port forward connection token.")

/-- What the rate limit of the token store answers; nothing when it is down. -/
abbrev RateLimit := Option Bool

/-- `_require_rate_limit`. -/
def requireRateLimit : RateLimit → Except ForwardFailure Unit
  | none => .error (controlPlaneUnavailable "Unable to enforce port forward rate limits.")
  | some false => .error (.plain "RATE_LIMITED" "Port forward request rate limit exceeded." 429)
  | some true => .ok ()

/-! ### Operations of the owner -/

structure CreateForward where
  userId : Uuid
  tokenDeviceId : Option Uuid
  intent : ForwardIntent
  callerRequestId : Option Uuid
  rateLimit : RateLimit
  storeUp : Bool

structure CreatedPortForward where
  portForward : PortForward
  node : Node
  connection : IssuedConnection

def ForwardDb.countActive (p : PortForward → Bool) : ℕ :=
  (db.forwards.filter fun f => f.status.terminal = false ∧ p f).length

/-- `_validate_quotas`. -/
def validateQuotas (policy : PortForwardPolicy) (userId deviceId sessionId : Uuid) :
    Except ForwardFailure Unit := do
  let check (current : ℕ) (maximum : ℤ) (scope : String) : Except ForwardFailure Unit :=
    reject (maximum ≤ current) <| .apiError "POLICY_LIMIT" "Port forward quota has been reached."
      409 (.quota scope maximum)
  check (db.countActive (·.userId = userId)) policy.maxPerUser "user"
  check (db.countActive (·.deviceId = deviceId)) policy.maxPerDevice "device"
  check (db.countActive (·.sessionId = sessionId)) policy.maxPerSession "session"

/-- `_require_device_token`. -/
def requireDeviceToken : Option Uuid → Except ForwardFailure Uuid
  | some id => .ok id
  | none => .error (.plain "DEVICE_REQUIRED" "A registered device token is required." 403)

/-- `_require_running_session`. -/
def requireRunningSession (world : ForwardWorld) (userId sessionId : Uuid) :
    Except ForwardFailure ToolSession :=
  match world.getSession sessionId with
  | none => .error (notFound "Session")
  | some s => do
    reject (s.userId ≠ userId) (notFound "Session")
    reject (s.hasRuntime = false) <|
      .plain "SESSION_NOT_RUNNING" "Session runtime is not ready." 409
    .ok s

/-- The forward of an earlier request under the same key. -/
def ForwardDb.getByCaller (r : CreateForward) : Option PortForward :=
  r.callerRequestId.bind fun key =>
    db.forwards.find? fun f => f.userId = r.userId ∧ f.callerRequestId = some key

/-- `ttl_seconds or policy.default_ttl_seconds`. -/
def requestedTtl (policy : PortForwardPolicy) (ttl : Option ℤ) : ℤ :=
  match ttl with
  | some n => if n = 0 then policy.defaultTtlSeconds else n
  | none => policy.defaultTtlSeconds

def newForward (id deviceId : Uuid) (r : CreateForward) (toolSession : ToolSession)
    (expiresAt : Instant) : PortForward where
  id := id
  userId := r.userId
  deviceId := deviceId
  sshKeyId := none
  sessionId := toolSession.id
  nodeId := toolSession.nodeId
  remotePort := r.intent.remotePort
  requestedLocalPort := r.intent.localPort
  clientInstanceId := r.intent.clientInstanceId
  callerRequestId := r.callerRequestId
  callerIntentDigest := if r.callerRequestId.isSome then some r.intent else none
  status := .pending
  bytesUp := 0
  bytesDown := 0
  connectionCount := 0
  connectionGeneration := 0
  generationBytesUp := 0
  generationBytesDown := 0
  generationConnectionCount := 0
  lastConnectedAt := none
  leaseExpiresAt := none
  expiresAt := expiresAt
  stoppedAt := none
  stopReason := none

/-- The checks of `create` before it inserts, with the device, the tool session and the node
it found. -/
def checkCreate (r : CreateForward) (deviceId : Uuid) :
    Except ForwardFailure (UserDevice × ToolSession × Node) := do
  requireRateLimit r.rateLimit
  match (seen 0).world.getActiveDevice r.userId deviceId with
  | none => .error (.plain "DEVICE_REVOKED" "Device is not active." 403)
  | some device => do
    reject ((seen 1).world.firstActiveSshKey device.id = none) <|
      .plain "SSH_KEY_MISSING" "Current device has no active SSH key." 409
    let toolSession ← requireRunningSession (seen 2).world r.userId r.intent.sessionId
    let node ← requireNode (seen 3).world toolSession.nodeId
    let policy := settings.policy node
    requireCapability node toolSession
    validateRemotePort policy r.intent.remotePort
    validateQuotas db policy r.userId device.id toolSession.id
    reject (requestedTtl policy r.intent.ttlSeconds > policy.maxTtlSeconds) <|
      .apiError "POLICY_LIMIT" "Requested port forward TTL exceeds policy." 409
        (.ttl policy.maxTtlSeconds)
    .ok (device, toolSession, node)

/-- The part of `create` that makes a new forward. -/
def createNew (r : CreateForward) (deviceId : Uuid) :
    Except ForwardFailure (ForwardDb × CreatedPortForward) := do
  let (device, toolSession, node) ← checkCreate settings seen db r deviceId
  let expiresAt := (seen 4).clock +
    timedelta (requestedTtl (settings.policy node) r.intent.ttlSeconds)
  let f := newForward db.nextId device.id r toolSession expiresAt
  reject (¬db.world.Parents f) .integrityError
  let (after, connection) ← issueConnection settings
    { db with forwards := db.forwards ++ [f], nextId := db.nextId + 1 } r.storeUp (seen 5).clock f
  .ok (after, ⟨f, node, connection⟩)

/-- The part of `create` that answers a repeated request. -/
def createAgain (r : CreateForward) (deviceId : Uuid) (prior : PortForward) :
    Except Refusal (ForwardDb × CreatedPortForward) := do
  reject (prior.callerIntentDigest ≠ some r.intent) <| .of <|
    .plain "PORT_FORWARD_REQUEST_CONFLICT"
      "Request identity is already bound to a different port forward." 409
  reject (prior.deviceId ≠ deviceId) <| .of <| .plain "PORT_FORWARD_REQUEST_DEVICE_MISMATCH"
    "The original request belongs to another device." 403
  reject (prior.status.terminal = true) <| .of <| .apiError "PORT_FORWARD_REQUEST_SETTLED"
    "The original port forward is already settled." 409 (.settled prior.status prior.id)
  ensureNonTerminal prior (seen 0).clock
  let node ← (requireNode (seen 1).world prior.nodeId).mapError .of
  let _ ← requireRuntimeAuthorization settings seen 2 prior
  let (after, connection) ←
    (issueConnection settings db r.storeUp (seen 9).clock prior).mapError .of
  .ok (after, ⟨prior, node, connection⟩)

def create (r : CreateForward) : ForwardDb × Except ForwardFailure CreatedPortForward :=
  match requireDeviceToken r.tokenDeviceId with
  | .error e => (db, .error e)
  | .ok deviceId =>
    match db.getByCaller r with
    | some prior =>
      match createAgain settings seen db r deviceId prior with
      | .error refusal => db.refuse prior refusal
      | .ok (after, created) => (after, .ok created)
    | none =>
      match createNew settings seen db r deviceId with
      | .error e => (db, .error e)
      | .ok (after, created) => (after, .ok created)

/-- The forward of a copy in a list, once it has expired. -/
def PortForward.settledAt (f : PortForward) (now : Instant) : PortForward :=
  if f.overdue now then f.expired now else f

def ForwardDb.updateAll (copies : List (PortForward × PortForward)) :
    Except ForwardFailure ForwardDb :=
  copies.foldlM (fun db c => db.update c.1 c.2) db

/-- `list`. -/
def listForwards (user : User) (allUsers : Bool) :
    ForwardDb × Except ForwardFailure (List PortForward) :=
  if allUsers ∧ user.role ≠ .admin then
    (db, .error (.plain "COMMON_FORBIDDEN" "Administrator role is required." 403))
  else
    let values := ((seen 0).forwards.filter fun f => allUsers ∨ f.userId = user.id).reverse
    let overdue := values.filter (·.overdue (seen 1).clock)
    match db.updateAll (overdue.map fun f => (f, f.expired (seen 1).clock)) with
    | .ok after => (after, .ok (values.map (·.settledAt (seen 1).clock)))
    | .error e => (db, .error e)

/-- `_require_visible`. -/
def requireVisible (user : User) (id : Uuid) : Except ForwardFailure PortForward :=
  match lookup PortForward.id (seen 0).forwards id with
  | none => .error (notFound "Port forward")
  | some f => do
    reject (f.userId ≠ user.id ∧ user.role ≠ .admin) (notFound "Port forward")
    .ok f

def get (user : User) (id : Uuid) : ForwardDb × Except ForwardFailure PortForward :=
  match requireVisible seen user id with
  | .error e => (db, .error e)
  | .ok f =>
    if f.overdue (seen 1).clock then
      match db.update f (f.expired (seen 1).clock) with
      | .ok after => (after, .ok (f.expired (seen 1).clock))
      | .error e => (db, .error e)
    else (db, .ok f)

/-- The part of `issue_connection` after the owner's copy is found. -/
def reconnect (deviceId : Uuid) (storeUp : Bool) (f : PortForward) :
    Except Refusal (ForwardDb × IssuedConnection) := do
  ensureNonTerminal f (seen 1).clock
  reject (f.deviceId ≠ deviceId) <| .of <|
    .plain "COMMON_FORBIDDEN" "Port forward belongs to another device." 403
  let _ ← requireRuntimeAuthorization settings seen 2 f
  let _ ← (requireNode (seen 9).world f.nodeId).mapError .of
  (issueConnection settings db storeUp (seen 10).clock f).mapError .of

/-- `issue_connection`. -/
def issueConnectionFor (userId : Uuid) (tokenDeviceId : Option Uuid) (storeUp : Bool) (id : Uuid) :
    ForwardDb × Except ForwardFailure IssuedConnection :=
  match requireDeviceToken tokenDeviceId with
  | .error e => (db, .error e)
  | .ok deviceId =>
    match (lookup PortForward.id (seen 0).forwards id).filter (·.userId = userId) with
    | none => (db, .error (notFound "Port forward"))
    | some f =>
      match reconnect settings seen db deviceId storeUp f with
      | .error refusal => db.refuse f refusal
      | .ok (after, connection) => (after, .ok connection)

def stopReason (f : PortForward) (user : User) : String :=
  if f.userId = user.id then "user_stopped" else "admin_stopped"

def stop (user : User) (id : Uuid) : ForwardDb × Except ForwardFailure PortForward :=
  match requireVisible seen user id with
  | .error e => (db, .error e)
  | .ok f =>
    if f.status.terminal then (db, .ok f)
    else
      let stopped := f.ended .stopped (stopReason f user) (seen 1).clock
      match db.update f stopped with
      | .ok after => (after, .ok stopped)
      | .error e => (db, .error e)

/-! ### Operations of the node -/

structure RedeemForward where
  nodeId : Uuid
  forwardId : Uuid
  deviceId : Uuid
  sshKeyId : Uuid
  connectToken : Uuid
  rateLimit : RateLimit
  storeUp : Bool

structure RedeemedPortForward where
  portForward : PortForward
  toolSession : ToolSession
  policy : PortForwardPolicy

def sshIdentityMismatch (message : String) : ForwardFailure :=
  .plain "COMMON_FORBIDDEN" message 403

/-- The checks of `redeem` before it consumes the token. -/
def checkRedeem (r : RedeemForward) (f : PortForward) : Except Refusal Unit := do
  ensureNonTerminal f (seen 0).clock
  reject (f.deviceId ≠ r.deviceId ∨ ∃ id ∈ f.sshKeyId, id ≠ r.sshKeyId) <| .of <|
    sshIdentityMismatch "SSH identity does not match port forward."
  reject ((seen 1).world.getActiveSshKey r.deviceId r.sshKeyId = none) <| .of <|
    sshIdentityMismatch "SSH identity does not match an active device key."
  (requireRateLimit r.rateLimit).mapError .of
  reject (r.storeUp = false) <| .of <|
    controlPlaneUnavailable "Unable to validate the port forward connection token."

/-- `consume` returns the claims of a token that has not ended. -/
def ForwardDb.claims (token : Uuid) (now : Instant) : Option ConnectionToken :=
  (lookup ConnectionToken.token db.connectionTokens token).filter fun t => now < t.expiresAt

def ForwardDb.consume (token : Uuid) : ForwardDb :=
  { db with connectionTokens := db.connectionTokens.filter (·.token ≠ token) }

/-- The row of an accepted connection. -/
def PortForward.connected (f : PortForward) (now leaseNow : Instant)
    (policy : PortForwardPolicy) : PortForward :=
  { f with
    connectionGeneration := f.connectionGeneration + 1
    generationBytesUp := 0
    generationBytesDown := 0
    generationConnectionCount := 0
    status := .active
    lastConnectedAt := some now
    leaseExpiresAt := some (leaseNow + timedelta policy.leaseSeconds) }

/-- The part of `redeem` after the token is consumed. -/
def redeemClaims (r : RedeemForward) (f : PortForward) (claims : Option ConnectionToken) :
    Except Refusal RedeemedPortForward :=
  let invalid := Refusal.of (.plain "AUTH_INVALID" "Connection token is invalid." 401)
  match claims with
  | none => .error invalid
  | some claims => do
    reject (claims.forwardId ≠ f.id ∨ claims.deviceId ≠ r.deviceId ∨
      ∃ id ∈ claims.sshKeyId, id ≠ r.sshKeyId) invalid
    let f := { f with sshKeyId := some (f.sshKeyId.getD r.sshKeyId) }
    let (toolSession, policy) ← requireRuntimeAuthorization settings seen 3 f
    .ok ⟨f.connected (seen 10).clock (seen 11).clock policy, toolSession, policy⟩

def redeem (r : RedeemForward) : ForwardDb × Except ForwardFailure RedeemedPortForward :=
  match (lookup PortForward.id db.forwards r.forwardId).filter (·.nodeId = r.nodeId) with
  | none => (db, .error (notFound "Port forward"))
  | some f =>
    match checkRedeem seen r f with
    | .error refusal => db.refuse f refusal
    | .ok () =>
      let consumed := db.consume r.connectToken
      match redeemClaims settings seen r f (db.claims r.connectToken (seen 2).clock) with
      | .error refusal => consumed.refuse f refusal
      | .ok redeemed =>
        match consumed.update f redeemed.portForward with
        | .ok after => (after, .ok redeemed)
        | .error e => (consumed, .error e)

/-- The totals a node reports for its connection. -/
structure ForwardReport where
  nodeId : Uuid
  forwardId : Uuid
  generation : ℕ
  bytesUpTotal : ℤ
  bytesDownTotal : ℤ
  connectionCountTotal : ℤ

/-- `_require_node_generation`. -/
def requireNodeGeneration (r : ForwardReport) : Except ForwardFailure PortForward :=
  match (lookup PortForward.id db.forwards r.forwardId).filter (·.nodeId = r.nodeId) with
  | none => .error (notFound "Port forward")
  | some f => do
    reject (f.connectionGeneration ≠ r.generation ∨ f.status ≠ .active) <|
      .plain "TUNNEL_EXPIRED" "Port forward connection generation is no longer active." 409
    .ok f

/-- `_apply_counters`. -/
def PortForward.counted (f : PortForward) (r : ForwardReport) : PortForward :=
  let nextBytesUp := max f.generationBytesUp r.bytesUpTotal
  let nextBytesDown := max f.generationBytesDown r.bytesDownTotal
  let nextConnectionCount := max f.generationConnectionCount r.connectionCountTotal
  { f with
    bytesUp := f.bytesUp + (nextBytesUp - f.generationBytesUp)
    bytesDown := f.bytesDown + (nextBytesDown - f.generationBytesDown)
    connectionCount := f.connectionCount + (nextConnectionCount - f.generationConnectionCount)
    generationBytesUp := nextBytesUp
    generationBytesDown := nextBytesDown
    generationConnectionCount := nextConnectionCount }

def renew (r : ForwardReport) : ForwardDb × Except ForwardFailure RedeemedPortForward :=
  match requireNodeGeneration db r with
  | .error e => (db, .error e)
  | .ok f =>
    match requireRuntimeAuthorization settings seen 0 f with
    | .error refusal => db.refuse f refusal
    | .ok (toolSession, policy) =>
      let renewed := { f.counted r with
        leaseExpiresAt := some ((seen 7).clock + timedelta policy.leaseSeconds) }
      match db.update f renewed with
      | .ok after => (after, .ok ⟨renewed, toolSession, policy⟩)
      | .error e => (db, .error e)

def release (r : ForwardReport) : ForwardDb × Except ForwardFailure PortForward :=
  match requireNodeGeneration db r with
  | .error e => (db, .error e)
  | .ok f =>
    let released := { f.counted r with status := .disconnected, leaseExpiresAt := none }
    match db.update f released with
    | .ok after => (after, .ok released)
    | .error e => (db, .error e)

/-! ### Cleanup and revocation -/

/-- The errors after which `cleanup` revokes the forward itself. -/
def authorizationChanged : ForwardFailure → Bool
  | .apiError code _ _ _ => code = "COMMON_NOT_FOUND" ∨ code = "NODE_UNHEALTHY" ∨
      code = "PORT_FORWARD_DISABLED" ∨ code = "PORT_FORWARD_UNSUPPORTED" ∨
      code = "PORT_NOT_ALLOWED" ∨ code = "PROTOCOL_UNSUPPORTED"
  | _ => false

/-- What `cleanup` makes of a forward it has locked, if it does not leave it, and whether it
counts it. A forward that expires between its two checks is not counted. -/
def cleanedUp (f : PortForward) : Option (PortForward × ℕ) :=
  if f.status.terminal then none
  else match ensureNonTerminal f (seen 0).clock with
    | .error refusal => refusal.settled.map (·, 1)
    | .ok () =>
      match requireRuntimeAuthorization settings seen 1 f with
      | .error refusal =>
        match refusal.settled with
        | some new => some (new, if new.status = .revoked then 1 else 0)
        | none =>
          if authorizationChanged refusal.failure then
            some (f.ended .revoked "authorization_changed" (seen 8).clock, 1)
          else none
      | .ok _ =>
        if f.status = .active ∧ ∃ lease ∈ f.leaseExpiresAt, lease ≤ (seen 8).clock then
          some ({ f with status := .disconnected, leaseExpiresAt := none }, 1)
        else none

/-- One round of the loop in `cleanup`. Its answer is what the round adds to `changed`. -/
def cleanup (id : Uuid) : ForwardDb × Except ForwardFailure ℕ :=
  match lookup PortForward.id db.forwards id with
  | none => (db, .ok 0)
  | some f =>
    match cleanedUp settings seen f with
    | none => (db, .ok 0)
    | some (new, changed) =>
      match db.update f new with
      | .ok after => (after, .ok changed)
      | .error e => (db, .error e)

/-- The owner of the forwards that `revoke_port_forwards` ends. -/
structure RevokedOwner where
  userId : Option Uuid
  deviceId : Option Uuid
  sessionId : Option Uuid
  nodeId : Option Uuid
  toolAccountId : Option Uuid

/-- The conditions of the query in `revoke_port_forwards`. -/
def RevokedOwner.owns (owner : RevokedOwner) (world : ForwardWorld) (f : PortForward) : Prop :=
  f.status.terminal = false ∧ (∀ id ∈ owner.userId, f.userId = id) ∧
    (∀ id ∈ owner.deviceId, f.deviceId = id) ∧ (∀ id ∈ owner.sessionId, f.sessionId = id) ∧
    (∀ id ∈ owner.nodeId, f.nodeId = id) ∧
    ∀ id ∈ owner.toolAccountId, ∃ s ∈ world.sessions, s.id = f.sessionId ∧ s.toolAccountId = id

instance (owner : RevokedOwner) (world : ForwardWorld) :
    DecidablePred (owner.owns world) := fun _ => inferInstanceAs (Decidable (_ ∧ _))

/-- `revoke_port_forwards`, whose rows are locked as they are read. -/
def revokePortForwards (owner : RevokedOwner) (reason : String) : ForwardDb × ℕ :=
  ({ db with forwards := db.forwards.map fun f =>
       if owner.owns db.world f then f.ended .revoked reason (seen 0).clock else f },
    (db.forwards.filter fun f => owner.owns db.world f).length)

end AgentRemote.PortForwards
