import AgentRemote.Signed.Tokens

/-!
# Exporting a frozen snapshot

A user is granted, for one device and one key of it, to read a frozen snapshot from the node
that keeps it. The node has every read verified against the rows of the day and may have a
grant renewed while it is still good.
-/

namespace AgentRemote.NodeExport
open Library Signed

/-! ### Records -/

structure NodeExportBinding where
  snapshotId : Text
  sessionId : Text
  userId : Text
  accountId : Text
  nodeId : Text
  taskId : Text
  libraryGeneration : ℕ
  directoryEpoch : ℕ
  initialTreeDigest : Text
  deriving DecidableEq

structure NodeExportGrant where
  grantId : Text
  tokenId : Text
  deviceId : Text
  sshKeyId : Text
  binding : NodeExportBinding
  issuedAt : ℤ
  expiresAt : ℤ

structure AuthToken where
  id : Text
  userId : Text
  isUser : Bool
  active : Bool
  revoked : Bool
  expiresAt : ℤ

structure UserDevice where
  id : Text
  userId : Text
  active : Bool

structure SshKey where
  id : Text
  userDeviceId : Text
  active : Bool
  revoked : Bool

structure SessionSkillSnapshot where
  id : Text
  sessionReferenceId : Text
  userId : Text
  accountId : Text
  nodeId : Text
  isNative : Bool
  prepareTaskId : Option Text
  contentRetired : Bool
  libraryGeneration : ℕ
  directoryEpoch : ℕ
  treeDigest : Text

/-- What a termination or a finalization observed. -/
structure Observation where
  snapshotId : Text
  incomingDigest : Option Text
  unclean : Bool

structure Node where
  id : Text
  serves : Bool
  wireguardIp : Option Text
  sshHost : Option Text
  sshUser : Option Text
  sshPort : Option ℤ

structure ExportTables where
  activeUsers : List Text
  tokens : List AuthToken
  devices : List UserDevice
  sshKeys : List SshKey
  snapshots : List SessionSkillSnapshot
  terminations : List Observation
  finalizations : List Observation
  nodes : List Node
  storageUsers : List Text

structure ExportFailure where
  code : String
  message : String

def denied : ExportFailure := ⟨"STATE_EXPORT_DENIED", "frozen export authorization denied"⟩

def unavailable (message : String) : ExportFailure := ⟨"STATE_EXPORT_UNAVAILABLE", message⟩

/-! ### Rows of the day -/

section

variable (tables : ExportTables)

/-- `NodeExportRepository.identity`. -/
def identity (userId tokenId deviceId keyId : Text) (now : ℤ) : Option AuthToken :=
  tables.tokens.find? fun token =>
    userId ∈ tables.activeUsers ∧ token.id = tokenId ∧ token.userId = userId ∧ token.isUser ∧
      token.active ∧ ¬token.revoked ∧ now < token.expiresAt ∧
      (∃ d ∈ tables.devices, d.id = deviceId ∧ d.userId = userId ∧ d.active) ∧
      ∃ k ∈ tables.sshKeys, k.id = keyId ∧ k.userDeviceId = deviceId ∧ k.active ∧ ¬k.revoked

structure ExportRows where
  snapshot : SessionSkillSnapshot
  termination : Option Observation
  finalization : Option Observation

/-- `NodeExportRepository.snapshot`. -/
def snapshotRows (userId snapshotId : Text) : Option ExportRows := do
  let snapshot ← tables.snapshots.find? fun s => s.userId = userId ∧ s.id = snapshotId
  return ⟨snapshot, tables.terminations.find? (·.snapshotId = snapshotId),
    tables.finalizations.find? (·.snapshotId = snapshotId)⟩

end

/-- `export_binding`. -/
def exportBinding (rows : Option ExportRows) : Except ExportFailure NodeExportBinding :=
  match rows with
  | none => .error denied
  | some rows =>
    match rows.snapshot.isNative, rows.snapshot.prepareTaskId with
    | true, some taskId =>
      if rows.snapshot.contentRetired then
        .error ⟨"STATE_EXPIRED", "original snapshot metadata is retired"⟩
      else
        .ok
          { snapshotId := rows.snapshot.id
            sessionId := rows.snapshot.sessionReferenceId
            userId := rows.snapshot.userId
            accountId := rows.snapshot.accountId
            nodeId := rows.snapshot.nodeId
            taskId := taskId
            libraryGeneration := rows.snapshot.libraryGeneration
            directoryEpoch := rows.snapshot.directoryEpoch
            initialTreeDigest := rows.snapshot.treeDigest }
    | _, _ => .error (unavailable "original snapshot cannot be exported")

/-! ### Tokens -/

/-- What the service depends on: its switch, the JSON of a grant and the secret. -/
structure ExportSettings where
  enabled : Bool
  dump : NodeExportGrant → Text
  parse : List ℕ → Option NodeExportGrant
  secret : Text

/-- The longest life of a grant, in seconds. -/
def grantSeconds : ℤ := 900

/-- `int(datetime.timestamp())`. -/
def timestamp (now : ℤ) : ℤ := now / 1000000

section

variable [HmacSha256] (settings : ExportSettings)

/-- `NodeExportTokens`. -/
def ExportSettings.tokens : TokenScheme NodeExportGrant where
  domain := "agent-remote:frozen-node-export:v1\x00"
  dump := settings.dump
  parse := settings.parse

/-- `NodeExportTokens.sign`. -/
def signGrant (grant : NodeExportGrant) : Except ExportFailure Text :=
  match settings.tokens.sign settings.secret grant with
  | some token => .ok token
  | none => .error ⟨"", "node export grant exceeds protocol bound"⟩

/-- `NodeExportTokens.verify`. -/
def verifyGrant (value : Text) (now : ℤ) : Except ExportFailure NodeExportGrant :=
  match settings.tokens.opened settings.secret value with
  | some grant =>
    if grant.issuedAt ≤ now ∧ now < grant.expiresAt ∧
        grant.expiresAt ≤ grant.issuedAt + grantSeconds then .ok grant
    else .error denied
  | none => .error denied

end

/-! ### The service -/

structure NodeExportRequest where
  deviceId : Text
  sshKeyId : Text

structure NodeExportVerification extends NodeExportRequest where
  grant : Text

structure NodeExportAuthorization where
  binding : NodeExportBinding
  deviceId : Text
  sshKeyId : Text
  grant : Text
  expiresAt : ℤ
  sshHost : Text
  sshPort : ℤ
  sshUser : Text
  authorizationTask : Text

structure NodeExportPermission where
  binding : NodeExportBinding
  deviceId : Text
  sshKeyId : Text
  expiresAt : ℤ
  incomingDigest : Option Text
  unclean : Option Bool

structure NodeExportRenewal where
  previousGrantDigest : Text
  grant : Text
  permission : NodeExportPermission

/-- The rows that a request reads, the two times at which it reads the clock, the identity that
it draws, and the task that hands the key to a node. -/
structure ExportSurroundings where
  tables : ExportTables
  now : ℤ
  later : ℤ
  grantId : Text
  synchronizeKey : Text → Text → Text → Except ExportFailure Text

def isAlphanumeric (c : Char) : Bool := c.isDigit ∨ ('a' ≤ c ∧ c ≤ 'z') ∨ ('A' ≤ c ∧ c ≤ 'Z')

/-- `re.fullmatch(r"[A-Za-z0-9][A-Za-z0-9.:-]{0,254}", host)`. -/
def isHost : Text → Bool
  | [] => false
  | c :: rest => isAlphanumeric c && rest.length ≤ 254 &&
      rest.all fun c => isAlphanumeric c || c = '.' || c = ':' || c = '-'

/-- `re.fullmatch(r"[a-z_][a-z0-9_-]{0,63}", username)`. -/
def isUsername : Text → Bool
  | [] => false
  | c :: rest => (('a' ≤ c ∧ c ≤ 'z') || c = '_') && rest.length ≤ 63 &&
      rest.all fun c => ('a' ≤ c ∧ c ≤ 'z') || c.isDigit || c = '_' || c = '-'

/-- `value or other` of texts. -/
def orElse (value other : Option Text) : Option Text :=
  if ∃ text ∈ value, text ≠ [] then value else other

/-- The host, the port and the user to connect to. -/
def connection (node : Option Node) : Except ExportFailure (Text × ℤ × Text) := do
  match node with
  | none => throw (unavailable "source Node is unavailable")
  | some node =>
    reject (¬node.serves) (unavailable "source Node is unavailable")
    let username := (orElse node.sshUser none).getD "agent-remote".toList
    let port := if node.sshPort.getD 0 = 0 then 22 else node.sshPort.getD 0
    match orElse node.wireguardIp node.sshHost with
    | none => throw (unavailable "source Node connection is unavailable")
    | some host =>
      reject (¬isHost host ∨ ¬isUsername username ∨ ¬(1 ≤ port ∧ port ≤ 65535))
        (unavailable "source Node connection is unavailable")
      return (host, port, username)

section

variable [HmacSha256] (settings : ExportSettings) (world : ExportSurroundings)

def checkEnabled : Except ExportFailure Unit :=
  reject (¬settings.enabled) ⟨"SKILL_MANAGER_DISABLED", "skill management API is not enabled"⟩

/-- The end of a grant that is issued now. -/
def deadlineAt (now expiry : ℤ) : ℤ := min (timestamp now + grantSeconds) (timestamp expiry)

/-- `authorize`: the grant and the answer that carries it. -/
def authorize (userId tokenId snapshotId : Text) (request : NodeExportRequest) :
    Except ExportFailure (NodeExportGrant × NodeExportAuthorization) := do
  checkEnabled settings
  reject (identity world.tables userId tokenId request.deviceId request.sshKeyId world.now = none)
    denied
  reject (userId ∉ world.tables.storageUsers) denied
  match identity world.tables userId tokenId request.deviceId request.sshKeyId world.later with
  | none => throw denied
  | some token =>
    let binding ← exportBinding (snapshotRows world.tables userId snapshotId)
    let (host, port, username) ← connection (world.tables.nodes.find? (·.id = binding.nodeId))
    let task ← world.synchronizeKey binding.nodeId request.deviceId username
    let deadline := deadlineAt world.later token.expiresAt
    reject (deadline ≤ timestamp world.later) denied
    let grant : NodeExportGrant := ⟨world.grantId, token.id, request.deviceId, request.sshKeyId,
      binding, timestamp world.later, deadline⟩
    let signed ← signGrant settings grant
    return (grant, ⟨binding, request.deviceId, request.sshKeyId, signed, deadline, host, port,
      username, task⟩)

/-- `_verify`. -/
def checkGrant (nodeId snapshotId : Text) (request : NodeExportVerification) :
    Except ExportFailure (NodeExportGrant × NodeExportPermission × ℤ) := do
  checkEnabled settings
  let grant ← verifyGrant settings request.grant (timestamp world.now)
  reject (grant.binding.nodeId ≠ nodeId ∨ grant.binding.snapshotId ≠ snapshotId ∨
    grant.deviceId ≠ request.deviceId ∨ grant.sshKeyId ≠ request.sshKeyId) denied
  match identity world.tables grant.binding.userId grant.tokenId grant.deviceId grant.sshKeyId
      world.now with
  | none => throw denied
  | some token =>
    let rows := snapshotRows world.tables grant.binding.userId snapshotId
    let binding ← exportBinding rows
    reject (binding ≠ grant.binding) denied
    let termination := rows.bind (·.termination)
    let finalization := rows.bind (·.finalization)
    reject (∃ t ∈ termination, ∃ f ∈ finalization,
      (t.incomingDigest ≠ none ∧ t.incomingDigest ≠ f.incomingDigest) ∨ t.unclean ≠ f.unclean)
      denied
    let observation := finalization <|> termination
    return (grant, ⟨binding, grant.deviceId, grant.sshKeyId, grant.expiresAt,
      observation.bind (·.incomingDigest), observation.map (·.unclean)⟩, token.expiresAt)

/-- `verify`. -/
def verify (nodeId snapshotId : Text) (request : NodeExportVerification) :
    Except ExportFailure NodeExportPermission := do
  let (_, permission, _) ← checkGrant settings world nodeId snapshotId request
  return permission

/-- `renew`: the new grant and the answer that carries it. -/
def renew [Sha256] (nodeId snapshotId : Text) (request : NodeExportVerification) :
    Except ExportFailure (NodeExportGrant × NodeExportRenewal) := do
  let (grant, permission, expiry) ← checkGrant settings world nodeId snapshotId request
  -- the database may have been read past the end of the old grant
  let _ ← verifyGrant settings request.grant (timestamp world.later)
  let deadline := deadlineAt world.later expiry
  reject (deadline ≤ timestamp world.later) denied
  let successor := { grant with issuedAt := timestamp world.later, expiresAt := deadline }
  let signed ← signGrant settings successor
  return (successor, ⟨Sha256.hexdigest (Text.encode request.grant), signed,
    { permission with expiresAt := deadline }⟩)

end

end AgentRemote.NodeExport
