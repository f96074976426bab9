import AgentRemote.Retention.Roots

/-!
# Deployments in the analysis

Pending or retryable library operations keep the exact revisions they were accepted with,
and tasks that may still run keep their input directory. How a saved plan is read back and
how its attempt chain is checked is left to a `PlanReaders`: both only look at deployment
rows, which no history service writes.
-/

namespace AgentRemote
open Library

inductive SourceOrigin where
  | library
  | accountLocal

structure DeploymentSource where
  origin : SourceOrigin
  sourceId : Text
  revisionId : Text
  contentDigest : Text
  name : Text
  enabled : Bool
  installationEpoch : Option ℕ

structure SkillDeploymentPlan where
  userId : Text
  operationId : Text
  generation : ℕ
  accountId : Text
  nodeId : Option Text
  toolType : Text
  runtimeBackend : Option Text
  sources : List DeploymentSource

/-- The validators of saved deployment rows. -/
structure PlanReaders where
  savedPlans : SkillOperation → List SkillDeploymentTarget → List SkillDeploymentEntry →
    Except HistoryFailure (List SkillDeploymentPlan)
  resolvedPlans : List SkillDeploymentPlan → List SkillDeploymentDiscovery →
    List SkillDeploymentDiscoveredSource → List SkillAccountTakeover →
    Except HistoryFailure (List SkillDeploymentPlan)
  /-- The current attempt of every target account. -/
  currentAttempts : SkillOperation → List SkillDeploymentAttempt →
    Except HistoryFailure (List (Text × SkillDeploymentAttempt))
  validateReplacement : SkillOperation → List SkillDeploymentPlan → Option SkillOperation →
    List SkillDeploymentPlan → Except HistoryFailure Unit

variable (readers : PlanReaders) (t : RetentionTables)

/-! ### Discovered sources -/

/-- A discovered source is the first local version of its recorded takeover. -/
def sourceMatches (source : SkillDeploymentDiscoveredSource) (receipt : SkillAccountTakeover)
    (item : AccountLocalSkill) (revision : AccountLocalSkillRevision) : Prop :=
  (item.userId = source.userId ∧ item.accountId = source.accountId ∧
      receipt.checkpointId = some item.sourceCheckpointId ∧ item.name = source.name) ∧
    (revision.localSkillId = source.sourceId ∧ revision.accountId = source.accountId ∧
      revision.number = 1 ∧ revision.contentDigest = source.contentDigest ∧
      revision.subtreePrefix = source.name)

instance (source : SkillDeploymentDiscoveredSource) (receipt : SkillAccountTakeover)
    (item : AccountLocalSkill) (revision : AccountLocalSkillRevision) :
    Decidable (sourceMatches source receipt item revision) :=
  inferInstanceAs (Decidable (_ ∧ _))

def checkDiscoveredSource (boundaries : List SkillDeploymentDiscovery)
    (source : SkillDeploymentDiscoveredSource) : Except HistoryFailure Unit :=
  match indexed (·.accountId) boundaries source.accountId with
  | none => .error .keyError
  | some boundary =>
    match boundary.takeoverId.bind (indexed (·.id) t.takeovers),
      indexed (·.id) t.locals source.sourceId, indexed (·.id) t.localRevisions source.revisionId with
    | some receipt, some item, some revision =>
      reject (¬sourceMatches source receipt item revision)
        (.valueError "discovered source differs from original takeover metadata")
    | _, _, _ => .error (.valueError "discovered source differs from original takeover metadata")

def discoveredPlans (plans : List SkillDeploymentPlan) :
    Except HistoryFailure (List SkillDeploymentPlan) :=
  match plans with
  | [] => .ok []
  | first :: _ => do
    let boundaries := t.deploymentDiscoveries.filter (·.operationId = first.operationId)
    let sources := t.deploymentDiscoveredSources.filter (·.operationId = first.operationId)
    let result ← readers.resolvedPlans plans boundaries sources t.takeovers
    sources.forM (checkDiscoveredSource t boundaries)
    return result

def discoveryActions (boundary : SkillDeploymentDiscovery) : List GraphAction :=
  match indexed (fun row => (row.operationId, row.accountId)) t.deploymentTargets
      (boundary.operationId, boundary.accountId) with
  | none => [.error (.valueError "discovery boundary lacks original target")]
  | some target =>
    if target.userId ≠ boundary.userId then
      [.error (.valueError "discovery boundary lacks original target")]
    else
      (t.takeovers.filter fun receipt =>
        receipt.userId = boundary.userId ∧ receipt.accountId = boundary.accountId ∧
          target.nodeId = some receipt.nodeId ∧
          target.runtimeBackend = some receipt.runtimeBackend ∧
          receipt.directoryEpoch = boundary.directoryEpoch).map fun receipt =>
        edge .operation boundary.operationId .takeover (some receipt.id)

def discoveryRoots : List GraphAction := t.deploymentDiscoveries.flatMap (discoveryActions t)

/-! ### Library operations -/

def OperationStatus.isPending : OperationStatus → Bool
  | .accepted | .preparing | .pending | .needsResolution => true
  | _ => false

def TargetReadiness.isActive : TargetReadiness → Bool
  | .pending | .needsResolution => true
  | _ => false

def operationAttempts (operation : SkillOperation) : List SkillDeploymentAttempt :=
  t.deploymentAttempts.filter (·.operationId = operation.id)

def operationPlans (operation : SkillOperation) :
    Except HistoryFailure (List SkillDeploymentPlan) := do
  let plans ← readers.savedPlans operation
    (t.deploymentTargets.filter (·.operationId = operation.id))
    (t.deploymentEntries.filter (·.operationId = operation.id))
  discoveredPlans readers t plans

/-- The stored receipt of an operation with its plans, once everything about it checks. -/
def reviewOperation (operation : SkillOperation) :
    Except HistoryFailure (SkillMutationData × List SkillDeploymentPlan) := do
  match operation.status with
  | .unclassified _ => throw (.valueError "unclassified skill operation retention state")
  | _ => pure ()
  let data ← match operation.resultJson with
    | none => throw (.valueError "skill mutation data does not validate")
    | some data => pure data
  let plans ← operationPlans readers t operation
  let _ ← readers.currentAttempts operation (operationAttempts t operation)
  match operation.replacementId with
  | some replacementId =>
    if operation.attemptsVersion = some 1 then
      match indexed (·.id) t.libraryOperations replacementId with
      | none => readers.validateReplacement operation plans none []
      | some replacement =>
        let newer ← operationPlans readers t replacement
        readers.validateReplacement operation plans (some replacement) newer
  | none => pure ()
  return (data, plans)

/-- Whether an operation has neither unfinished targets nor a way to run again. -/
def operationSettled (operation : SkillOperation) (data : SkillMutationData) : Bool :=
  let activeTargets := data.targets.any (·.readiness.isActive)
  (operation.status = .superseded && !activeTargets) ||
    (!operation.status.isPending && !activeTargets && !operation.retryable)

def revisionAction (operation : SkillOperation) (revision : Text) : GraphAction :=
  if revision ∈ t.revisions.map (·.id) then
    edge .operation operation.id .revision (some revision)
  else if revision ∈ t.localRevisions.map (·.id) then
    edge .operation operation.id .localRevision (some revision)
  else .error (.valueError "pending skill operation revision is outside owner index")

def packageAvailable (source : DeploymentSource) (package : SkillRevision) : Bool :=
  package.installationId = source.sourceId && package.contentDigest = source.contentDigest &&
    package.retained && package.treeDigest.isSome

def localAvailable (plan : SkillDeploymentPlan) (source : DeploymentSource)
    (revision : AccountLocalSkillRevision) : Bool :=
  revision.localSkillId = source.sourceId && revision.accountId = plan.accountId &&
    revision.contentDigest = source.contentDigest && revision.retained &&
    revision.treeDigest.isSome

def sourceAction (operation : SkillOperation) (plan : SkillDeploymentPlan)
    (source : DeploymentSource) : GraphAction :=
  match source.origin with
  | .library =>
    if (indexed (·.id) t.revisions source.revisionId).any (packageAvailable source) then
      edge .operation operation.id .revision (some source.revisionId)
    else .error (.valueError "deployment package reference is unavailable or mismatched")
  | .accountLocal =>
    if (indexed (·.id) t.localRevisions source.revisionId).any (localAvailable plan source) then
      edge .operation operation.id .localRevision (some source.revisionId)
    else .error (.valueError "deployment local reference is unavailable or mismatched")

def operationActions (operation : SkillOperation) : List GraphAction :=
  match reviewOperation readers t operation with
  | .error e => [.error e]
  | .ok (data, plans) =>
    if operationSettled operation data then []
    else if data.revisionIds = [] ∧ operation.planVersion = none then
      [.error (.valueError "pending skill operation has no fixed retention revisions")]
    else
      root .operation operation.id .pendingOperation ::
        data.revisionIds.map (revisionAction t operation) ++
        plans.flatMap fun plan => plan.sources.map (sourceAction t operation plan)

/-- Rows that name an operation the user does not own. -/
def foreignRows {β : Type} (rows : List β) (operationId : β → Text) (message : String) :
    List GraphAction :=
  (rows.filter fun row => operationId row ∉ t.libraryOperations.map (·.id)).map fun _ =>
    .error (.valueError message)

def libraryOperations : List GraphAction :=
  foreignRows t t.deploymentAttempts (·.operationId) "deployment attempt has no owned operation" ++
    foreignRows t t.deploymentTargets (·.operationId) "deployment target has no owned operation" ++
    foreignRows t t.deploymentEntries (·.operationId) "deployment entry has no owned operation" ++
    t.libraryOperations.flatMap (operationActions readers t)

/-! ### Deployment tasks -/

def NodeTaskStatus.isClassified : NodeTaskStatus → Bool
  | .unclassified _ => false
  | _ => true

/-- A task that a node may still run or report. -/
def NodeTaskStatus.isOpen : NodeTaskStatus → Bool
  | .pending | .leased | .running | .expired => true
  | _ => false

def AttemptStatus.isActive : AttemptStatus → Bool
  | .pending | .running | .needsResolution => true
  | _ => false

/-- The rows behind a task binding agree about who owns its input. -/
def bindingMatches (binding : SkillDeploymentTask) (task : DeploymentTaskState)
    (target : SkillDeploymentTarget) (attempt : SkillDeploymentAttempt)
    (checkpoint : SkillCheckpoint) : Prop :=
  let resolution := (indexed (fun row => (row.operationId, row.accountId)) t.deploymentDiscoveries
    (binding.operationId, binding.accountId)).bind (·.resolvedDigest)
  (task.nodeId = binding.nodeId ∧ task.taskType = "prepare_account_skills".toList ∧
      task.taskId = "prepare_account_skills:".toList ++ binding.attemptId ∧
      task.status.isClassified = true) ∧
    (target.nodeId = some binding.nodeId ∧
      ((resolution.filter (· ≠ [])).getD target.planDigest) = binding.planDigest) ∧
    (attempt.userId = binding.userId ∧ attempt.operationId = binding.operationId ∧
      attempt.accountId = binding.accountId ∧ attempt.planDigest = target.planDigest) ∧
    (checkpoint.accountId = binding.accountId ∧ checkpoint.scope = .directory ∧
      checkpoint.contentDigest = binding.contentDigest)

instance (binding : SkillDeploymentTask) (task : DeploymentTaskState)
    (target : SkillDeploymentTarget) (attempt : SkillDeploymentAttempt)
    (checkpoint : SkillCheckpoint) :
    Decidable (bindingMatches t binding task target attempt checkpoint) := by
  unfold bindingMatches
  infer_instance

/-- The input directory stays while the task is open, or its attempt or the latest attempt of
its target is active, or the latest attempt may be retried. -/
def taskRetained (task : DeploymentTaskState) (attempt latest : SkillDeploymentAttempt)
    (operation : SkillOperation) : Bool :=
  task.status.isOpen || attempt.status.isActive || latest.status.isActive ||
    (latest.retryable && operation.replacementId.isNone && operation.status ≠ .superseded)

def bindingActions (current : Text → List (Text × SkillDeploymentAttempt))
    (binding : SkillDeploymentTask) : List GraphAction :=
  match indexed (·.id) t.deploymentNodeTasks binding.taskId,
    indexed (fun row => (row.operationId, row.accountId)) t.deploymentTargets
      (binding.operationId, binding.accountId),
    indexed (·.id) t.deploymentAttempts binding.attemptId,
    indexed (·.id) t.checkpoints binding.checkpointId with
  | some task, some target, some attempt, some checkpoint =>
    if ¬bindingMatches t binding task target attempt checkpoint then
      [.error (.valueError "deployment task input has inconsistent ownership")]
    -- the first binding of a target fixes the input that its retries must share
    else if (lookup (fun row => (row.operationId, row.accountId)) t.deploymentTasks
        (binding.operationId, binding.accountId)).any (·.checkpointId ≠ binding.checkpointId) then
      [.error (.valueError "deployment retries changed their original input")]
    else
      match indexed (·.id) t.libraryOperations binding.operationId,
        indexed (·.1) (current binding.operationId) binding.accountId with
      | some operation, some (_, latest) =>
        if taskRetained task attempt latest operation then
          [root .directoryContext binding.checkpointId .pendingOperation]
        else []
      | _, _ => [.error .keyError]
  | _, _, _, _ => [.error (.valueError "deployment task input has inconsistent ownership")]

/-- The current attempts of every operation, or the first failure to read them. -/
def allAttempts : Except HistoryFailure (List (Text × List (Text × SkillDeploymentAttempt))) :=
  t.libraryOperations.mapM fun operation => do
    let current ← readers.currentAttempts operation (operationAttempts t operation)
    return (operation.id, current)

def deployments : List GraphAction :=
  discoveryRoots t ++
    if t.deploymentTasks = [] then []
    else
      match allAttempts readers t with
      | .error e => [.error e]
      | .ok current =>
        t.deploymentTasks.flatMap (bindingActions t fun operationId =>
          ((indexed (·.1) current operationId).map (·.2)).getD [])

end AgentRemote
