import AgentRemote.Prune.Disclosure
import AgentRemote.Prune.Encoding
import AgentRemote.Signed.Tokens

/-!
# Previewing, confirming and executing a prune

A preview hands out the rows of a plan page by page. Each page carries a signed cursor to the
next and the last one, if the plan can be carried out, a signed confirmation. A command
repeats the plan of its confirmation and keeps a receipt under the key of the command.
-/

namespace AgentRemote.Prune
open Library Rendering Signed

/-! ### Tokens -/

inductive PruneStage where
  | page
  | confirm
  deriving DecidableEq

structure PruneEnvelope where
  userId : Text
  binding : PruneBinding
  offset : ℕ
  total : ℕ
  stage : PruneStage

/-- A `SkillContentError` with its code, or any other `ValueError`. -/
inductive PruneFailure where
  | content (code message : String)
  | value (message : String)

def invalidRequest (message : String) : PruneFailure := .content "INVALID_REQUEST" message

def headChanged (message : String) : PruneFailure := .content "HEAD_CHANGED" message

/-- The most rows that an envelope can count. -/
def maxRows : ℕ := 10000000

/-- What the commands depend on: the JSON of an envelope, the secret of the deployment and the
digest of a plan. -/
structure PruneSettings where
  dump : PruneEnvelope → Text
  parse : List ℕ → Option PruneEnvelope
  secret : Text
  planDigest : PrunePlan → Text

section

variable [HmacSha256] (settings : PruneSettings)

/-- `PruneTokens`. -/
def PruneSettings.tokens : TokenScheme PruneEnvelope where
  domain := "agent-remote:prune-confirmation:v1\x00"
  dump := settings.dump
  parse := settings.parse

/-- `PruneTokens.sign` of a new envelope. -/
def signEnvelope (envelope : PruneEnvelope) : Except PruneFailure Text := do
  reject (maxRows < envelope.offset ∨ maxRows < envelope.total) (.value "invalid envelope")
  match settings.tokens.sign settings.secret envelope with
  | some token => return token
  | none => throw (.value "prune confirmation exceeds protocol bound")

/-- The conditions of `PruneTokens.verify` on a signed envelope. -/
def PruneEnvelope.Fits (envelope : PruneEnvelope) (userId : Text) (stage : PruneStage) : Prop :=
  envelope.userId = userId ∧ envelope.stage = stage ∧ envelope.binding.cutoff.offset ≠ none ∧
    match stage with
    | .confirm => envelope.offset = envelope.total
    | .page => 0 < envelope.offset ∧ envelope.offset < envelope.total

instance (envelope : PruneEnvelope) (userId : Text) (stage : PruneStage) :
    Decidable (envelope.Fits userId stage) := by
  unfold PruneEnvelope.Fits
  cases stage <;> exact inferInstance

/-- `PruneTokens.verify`. -/
def verify (token userId : Text) (stage : PruneStage) : Except PruneFailure PruneEnvelope :=
  match settings.tokens.opened settings.secret token with
  | some envelope =>
    if envelope.Fits userId stage then .ok envelope
    else .error (invalidRequest "invalid prune confirmation or cursor")
  | none => .error (invalidRequest "invalid prune confirmation or cursor")

end

/-! ### Plans -/

/-- What a request reads and writes beside the receipts. -/
structure PruneSurroundings where
  now : Datetime
  sourceOf : Text → SkillStateSelector → Except PruneFailure (Option Text)
  buildPrune : PruneScope → Datetime → Bool → Except PruneFailure PruneAnalysis
  carryOut : PrunePlan → Except PruneFailure PruneResult
  operationId : Text

section

variable (world : PruneSurroundings) (userId : Text)

/-- `SkillPruneService.preview`. -/
def planOf (selector : SkillStateSelector) (allUnreferenced : Bool) (cutoff : Option Datetime) :
    Except PruneFailure PrunePlan := do
  reject (∃ c ∈ cutoff, c.offset = none ∨ world.now.instant < c.instant)
    (invalidRequest "invalid prune cutoff")
  let now := cutoff.getD world.now
  let source ← world.sourceOf userId selector
  let scope : PruneScope := ⟨userId, selector.accountId, source⟩
  let analysis ← world.buildPrune scope now allUnreferenced
  return { analysis with scope, cutoff := now, allUnreferenced }

/-- `SkillPruneService.apply`. -/
def applyPlan (expected : PrunePlan) : Except PruneFailure PruneResult := do
  reject (expected.scope.userId ≠ userId) (.content "ACCOUNT_NOT_FOUND" "prune account not found")
  let actual ← planOf world userId expected.scope.selector expected.allUnreferenced expected.cutoff
  reject (actual ≠ expected) (headChanged "prune candidate plan has changed")
  reject (¬actual.content.ready) (.content "CONTENT_REFERENCED" "prune content has blockers")
  world.carryOut actual

end

/-! ### Commands -/

structure PrunePreviewRequest where
  selector : SkillStateSelector
  allUnreferenced : Bool
  cursor : Option Text
  limit : ℕ

structure PrunePreviewPage where
  summary : PruneSummary
  offset : ℕ
  total : ℕ
  rows : List PruneDisclosure
  nextCursor : Option Text
  confirmation : Option Text

structure PruneCommand where
  idempotencyKey : Text
  confirmation : Text

structure PruneReceipt where
  operationId : Text
  idempotencyKey : Text
  confirmationFingerprint : Text
  summary : PruneSummary
  disclosureRows : ℕ

/-- A row of `skill_prune_operations` with its entries and deletions. -/
structure SkillPruneOperation where
  id : Text
  userId : Text
  accountId : Text
  idempotencyKey : Text
  requestDigest : Text
  planDigest : Text
  response : PruneReceipt
  entries : List PruneDisclosure
  deletionIds : List Text

section

variable [Sha256] [HmacSha256] (settings : PruneSettings) (world : PruneSurroundings)
  (userId : Text)

/-- The envelope of the cursor of a request, which must be of the same scope. -/
def cursorEnvelope (request : PrunePreviewRequest) : Except PruneFailure (Option PruneEnvelope) :=
  match request.cursor with
  | none => .ok none
  | some cursor => do
    let envelope ← verify settings cursor userId .page
    reject (request.selector ≠ envelope.binding.selector ∨
      request.allUnreferenced ≠ envelope.binding.allUnreferenced)
      (invalidRequest "prune cursor scope does not match")
    return some envelope

/-- `preview_page`. -/
def previewPage (request : PrunePreviewRequest) : Except PruneFailure PrunePreviewPage := do
  let envelope ← cursorEnvelope settings userId request
  let plan ← planOf world userId request.selector request.allUnreferenced
    (envelope.map (·.binding.cutoff))
  let view := summary settings.planDigest plan
  let total := (disclosures plan none).length
  reject (∃ e ∈ envelope, e.binding.equals view.binding = false ∨ e.total ≠ total)
    (headChanged "prune preview changed; start a new preview")
  let offset := (envelope.map (·.offset)).getD 0
  let rows := ((disclosures plan none).drop offset).take request.limit
  let following := offset + rows.length < total
  let credential ←
    if following ∨ view.ready then
      some <$> signEnvelope settings
        ⟨userId, view.binding, offset + rows.length, total, if following then .page else .confirm⟩
    else pure none
  return ⟨view, offset, total, rows, if following then credential else none,
    if following then none else credential⟩

/-- `digest` of a command, which has texts only. -/
def requestDigest (command : PruneCommand) : Text :=
  (digest (.record "agent_remote_server.schemas.skill_prune.PruneCommand".toList false
    [("idempotency_key".toList, .str command.idempotencyKey),
      ("confirmation".toList, .str command.confirmation)])).toOption.getD []

/-- `SkillPruneOperationRepository.operation`. -/
def operationByKey (operations : List SkillPruneOperation) (key : Text) :
    Option SkillPruneOperation :=
  operations.find? fun row => row.userId = userId ∧ row.idempotencyKey = key

/-- `SkillPruneOperationRepository.operation_by_id`. -/
def operationById (operations : List SkillPruneOperation) (operationId : Text) :
    Option SkillPruneOperation :=
  operations.find? fun row => row.userId = userId ∧ row.id = operationId

/-- The new operation of a command that is not yet known. -/
def newOperation (command : PruneCommand) : Except PruneFailure SkillPruneOperation := do
  let envelope ← verify settings command.confirmation userId .confirm
  let plan ← planOf world userId envelope.binding.selector envelope.binding.allUnreferenced
    (some envelope.binding.cutoff)
  let view := summary settings.planDigest plan
  let total := (disclosures plan none).length
  reject (view.binding.equals envelope.binding = false ∨ total ≠ envelope.total)
    (headChanged "confirmed prune plan has changed")
  let result ← applyPlan world userId plan
  let receipt : PruneReceipt := ⟨world.operationId, command.idempotencyKey,
    Sha256.hexdigest (Text.encode command.confirmation), view, total⟩
  return ⟨world.operationId, userId, plan.scope.accountId, command.idempotencyKey,
    requestDigest command, view.binding.planDigest, receipt, disclosures plan (some result),
    result.deletionIds⟩

/-- `SkillPruneCommandService.execute`: a known key is answered from its receipt. -/
def execute (operations : List SkillPruneOperation) (command : PruneCommand) :
    Except PruneFailure (List SkillPruneOperation × PruneReceipt) :=
  match operationByKey userId operations command.idempotencyKey with
  | some previous => do
    reject (previous.requestDigest ≠ requestDigest command)
      (.content "IDEMPOTENCY_CONFLICT" "key belongs to another prune request")
    return (operations, previous.response)
  | none => do
    let operation ← newOperation settings world userId command
    -- the identity of an operation is its primary key
    reject (∃ row ∈ operations, row.id = operation.id) (.value "duplicate operation")
    return (operations ++ [operation], operation.response)

end

/-! ### Receipts -/

section

variable (userId : Text) (operations : List SkillPruneOperation)

structure PruneReceiptPage where
  rows : List PruneDisclosure
  nextOffset : Option ℕ

/-- `PruneQueries.by_key`. -/
def receiptByKey (key : Text) : Except PruneFailure PruneReceipt :=
  match operationByKey userId operations key with
  | some row => .ok row.response
  | none => .error (.content "OPERATION_NOT_FOUND" "prune operation not found")

/-- `PruneQueries.by_id`. -/
def receiptById (operationId : Text) : Except PruneFailure PruneReceipt :=
  match operationById userId operations operationId with
  | some row => .ok row.response
  | none => .error (.content "OPERATION_NOT_FOUND" "prune operation not found")

/-- `PruneQueries.entries`. -/
def receiptEntries (operationId : Text) (offset limit : ℕ) :
    Except PruneFailure PruneReceiptPage := do
  let receipt ← receiptById userId operations operationId
  reject (receipt.disclosureRows < offset ∨ limit < 1 ∨ 100 < limit)
    (invalidRequest "invalid prune receipt page")
  let entries := ((operationById userId operations operationId).map (·.entries)).getD []
  let rows := (entries.drop offset).take limit
  reject (rows.length ≠ min limit (receipt.disclosureRows - offset))
    (.value "incomplete persisted prune disclosure")
  let stop := offset + rows.length
  return ⟨rows, if stop < receipt.disclosureRows then some stop else none⟩

end

end AgentRemote.Prune
