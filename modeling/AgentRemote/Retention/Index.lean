import AgentRemote.Library.Keyed
import AgentRemote.Retention.Graph
import AgentRemote.Storage.Records

/-!
# The retention index

The rows of one user that take part in the reference analysis, as one consistent read. The
tables are plain data; an index is tables that satisfy the constraints the database checks
when a session flushes.
-/

namespace AgentRemote
open Library

/-! ### Accounts, sessions and the skill library -/

structure ToolAccount where
  id : Text
  toolType : Text

inductive SessionStatus where
  | starting
  | running
  | active
  | stopping
  | stopped
  | interrupted
  | failed

structure SessionRecord where
  id : Text
  status : SessionStatus

structure SkillInstallation where
  id : Text
  epoch : ℕ
  removed : Bool := false
  defaultRevisionId : Option Text

structure SkillRevision where
  id : Text
  installationId : Text
  contentDigest : Text
  treeDigest : Option Text
  retained : Bool := true
  retentionReleasedAt : Option ℤ := none

structure SkillToolOverride where
  installationId : Text
  toolType : Text
  revisionId : Option Text

structure SkillAccountOverride where
  installationId : Text
  accountId : Text
  revisionId : Option Text

inductive LocalStatus where
  | staged
  | active
  | removed
  deriving DecidableEq

structure AccountLocalSkill where
  id : Text
  userId : Text
  accountId : Text
  name : Text
  status : LocalStatus
  sourceCheckpointId : Text
  defaultRevisionId : Option Text

structure AccountLocalSkillRevision where
  id : Text
  accountId : Text
  localSkillId : Text
  number : ℕ
  contentDigest : Text
  treeDigest : Option Text
  subtreePrefix : Text
  retained : Bool := true
  retentionReleasedAt : Option ℤ := none

/-! ### Account directories, branches and checkpoints -/

structure AccountSkillDirectoryState where
  accountId : Text
  epoch : ℕ
  headCheckpointId : Option Text

structure AccountSkillState where
  id : Text
  accountId : Text
  installationId : Option Text
  installationEpoch : ℕ
  baseRevisionId : Option Text
  localSkillId : Option Text
  localRevisionId : Option Text
  epoch : ℕ
  headCheckpointId : Option Text
  expired : Bool := false

inductive CheckpointScope where
  | directory
  | item
  deriving DecidableEq

structure SkillCheckpoint where
  id : Text
  accountId : Text
  scope : CheckpointScope
  stateId : Option Text
  contentDigest : Text
  treeDigest : Option Text
  subtreePrefix : Text
  sourceSessionReferenceId : Option Text
  backingDirectoryId : Option Text
  retained : Bool := true
  retentionReleasedAt : Option ℤ := none

structure SkillDirectoryMember where
  directoryCheckpointId : Text
  entryName : Text
  accountId : Text
  stateId : Text
  checkpointId : Text

/-! ### Session snapshots and what became of them -/

inductive SnapshotStatus where
  | reserved
  | started
  | finalizing
  | retained
  | cancelled
  deriving DecidableEq

structure SessionSkillSnapshot where
  id : Text
  accountId : Text
  sessionId : Option Text
  sessionReferenceId : Text
  startingCheckpointId : Option Text
  treeDigest : Text
  status : SnapshotStatus
  contentRetiredAt : Option ℤ := none
  retentionReleasedAt : Option ℤ := none

structure SessionSkillSnapshotItem where
  snapshotId : Text
  stateId : Text
  checkpointId : Text

inductive FinalizationStatus where
  | uploadPending
  | persisted
  | persistedUnclean
  | published
  | conflicted
  | detached
  deriving DecidableEq

structure SkillFinalization where
  id : Text
  accountId : Text
  snapshotId : Text
  treeDigest : Option Text
  checkpointId : Option Text
  status : FinalizationStatus
  contentRetiredAt : Option ℤ := none
  retentionReleasedAt : Option ℤ := none

inductive PublicationStatus where
  | published
  | conflicted
  | detached
  | superseded
  deriving DecidableEq

structure SkillPublication where
  id : Text
  accountId : Text
  finalizationId : Text
  status : PublicationStatus
  expectedDirectoryId : Option Text
  resultCheckpointId : Option Text
  currentTreeDigest : Option Text
  contentRetiredAt : Option ℤ := none
  retentionReleasedAt : Option ℤ := none

structure SkillPublicationBranch where
  publicationId : Text
  stateId : Text
  expectedCheckpointId : Option Text

/-- A stored conflict choice, of which only the reference to its tree matters here. -/
structure ResolutionChoiceRecord where
  publicationId : Text
  selectorKey : Text
  treeDigest : Option Text
  contentRetiredAt : Option ℤ := none

inductive PreparationStatus where
  | ready
  | conflicted
  | superseded
  deriving DecidableEq

structure SkillBranchPreparation where
  id : Text
  accountId : Text
  sourceStateId : Option Text
  sourceEpoch : Option ℕ
  targetStateId : Text
  targetEpoch : ℕ
  directoryEpoch : ℕ
  baseCheckpointId : Option Text
  currentCheckpointId : Option Text
  sourceCheckpointId : Option Text
  directoryCheckpointId : Text
  resultCheckpointId : Option Text
  resultDirectoryId : Option Text
  baseDigest : Text
  currentDigest : Text
  incomingDigest : Text
  migrationSequence : Option ℕ
  status : PreparationStatus
  contentRetiredAt : Option ℤ := none
  retentionReleasedAt : Option ℤ := none

structure MigrationResolutionContent where
  migrationId : Text
  treeDigest : Text
  contentRetiredAt : Option ℤ := none

structure MigrationResolutionUpload where
  uploadId : Text
  migrationId : Text

/-! ### Takeovers, uploads and stored trees -/

inductive TakeoverStatus where
  | reserved
  | uploading
  | committed
  deriving DecidableEq

structure SkillAccountTakeover where
  id : Text
  userId : Text
  accountId : Text
  nodeId : Text
  runtimeBackend : Text
  directoryEpoch : ℕ
  status : TakeoverStatus
  captureDigest : Option Text
  uploadId : Option Text
  checkpointId : Option Text

/-- An upload as the index reads it. Its manifest is loaded for the old format only, and is
`none` when the stored text does not validate. -/
structure UploadRecord where
  id : Text
  scope : ContentScope
  status : UploadStatus
  expiresAt : ℤ
  objectIndexVersion : ℕ
  manifestEntries : Option (List SkillTreeEntry) := none

structure UploadObjectReference where
  uploadId : Text
  digest : Text

structure StoredTreeRecord where
  category : StorageCategory
  digest : Text
  retentionReleasedAt : Option ℤ := none

/-! ### Deployments -/

inductive TargetReadiness where
  | stored
  | pending
  | unsupported
  | ready
  | needsResolution
  | failed

structure SkillOperationTarget where
  accountId : Text
  nodeId : Option Text
  readiness : TargetReadiness
  deployOnFirstUse : Bool
  errorCode : Option Text := none
  planDigest : Option Text := none
  attemptId : Option Text := none
  attemptNumber : Option ℕ := none
  retryable : Bool := false

structure SkillMutationData where
  generation : ℕ
  skillIds : List Text
  revisionIds : List Text
  changed : Bool
  warnings : List Text
  targets : List SkillOperationTarget
  replacementId : Option Text := none

inductive OperationStatus where
  | accepted
  | preparing
  | pending
  | needsResolution
  | stored
  | ready
  | failed
  | superseded
  | partialFailure
  | unclassified (status : Text)
  deriving DecidableEq

/-- A library operation, whose `resultJson` is `none` when the stored text does not validate. -/
structure SkillOperation where
  id : Text
  userId : Text
  resultJson : Option SkillMutationData
  generation : ℕ
  status : OperationStatus
  committed : Bool
  retryable : Bool
  replacementId : Option Text
  planVersion : Option ℕ
  attemptsVersion : Option ℕ

structure SkillDeploymentTarget where
  userId : Text
  operationId : Text
  accountId : Text
  nodeId : Option Text
  toolType : Text
  runtimeBackend : Option Text
  planDigest : Text

structure SkillDeploymentEntry where
  userId : Text
  operationId : Text
  accountId : Text
  origin : Text
  sourceId : Text
  name : Text
  enabled : Bool
  contentDigest : Text
  installationId : Option Text
  installationEpoch : Option ℕ
  packageRevisionId : Option Text
  localSkillId : Option Text
  localRevisionId : Option Text

inductive AttemptStatus where
  | stored
  | unsupported
  | pending
  | running
  | ready
  | needsResolution
  | failed
  | superseded

structure SkillDeploymentAttempt where
  id : Text
  userId : Text
  operationId : Text
  accountId : Text
  number : ℕ
  predecessorId : Option Text
  planDigest : Text
  status : AttemptStatus
  retryable : Bool
  errorCode : Option Text

structure SkillDeploymentTask where
  attemptId : Text
  userId : Text
  operationId : Text
  accountId : Text
  nodeId : Text
  taskId : Text
  checkpointId : Text
  contentDigest : Text
  planDigest : Text

inductive NodeTaskStatus where
  | pending
  | leased
  | running
  | succeeded
  | failed
  | cancelled
  | expired
  | unclassified (status : Text)

structure DeploymentTaskState where
  id : Text
  nodeId : Text
  taskId : Text
  taskType : Text
  status : NodeTaskStatus

structure SkillDeploymentDiscovery where
  userId : Text
  operationId : Text
  accountId : Text
  originalDigest : Text
  directoryEpoch : ℕ
  takeoverId : Option Text
  resolvedDigest : Option Text

structure SkillDeploymentDiscoveredSource where
  userId : Text
  operationId : Text
  accountId : Text
  sourceId : Text
  revisionId : Text
  name : Text
  contentDigest : Text

/-! ### The index -/

structure RetentionTables where
  userId : Text
  accounts : List ToolAccount := []
  sessions : List SessionRecord := []
  installations : List SkillInstallation := []
  libraryOperations : List SkillOperation := []
  deploymentTargets : List SkillDeploymentTarget := []
  deploymentEntries : List SkillDeploymentEntry := []
  deploymentAttempts : List SkillDeploymentAttempt := []
  deploymentTasks : List SkillDeploymentTask := []
  deploymentDiscoveries : List SkillDeploymentDiscovery := []
  deploymentDiscoveredSources : List SkillDeploymentDiscoveredSource := []
  deploymentNodeTasks : List DeploymentTaskState := []
  revisions : List SkillRevision := []
  tools : List SkillToolOverride := []
  overrides : List SkillAccountOverride := []
  locals : List AccountLocalSkill := []
  localRevisions : List AccountLocalSkillRevision := []
  directories : List AccountSkillDirectoryState := []
  branches : List AccountSkillState := []
  checkpoints : List SkillCheckpoint := []
  members : List SkillDirectoryMember := []
  snapshots : List SessionSkillSnapshot := []
  snapshotItems : List SessionSkillSnapshotItem := []
  finalizations : List SkillFinalization := []
  publications : List SkillPublication := []
  publicationBranches : List SkillPublicationBranch := []
  choices : List ResolutionChoiceRecord := []
  migrations : List SkillBranchPreparation := []
  migrationContent : List MigrationResolutionContent := []
  migrationUploads : List MigrationResolutionUpload := []
  takeovers : List SkillAccountTakeover := []
  uploads : List UploadRecord := []
  uploadObjects : List UploadObjectReference := []
  treeObjects : List SkillTreeObjectReference := []
  trees : List StoredTreeRecord := []

/-- `skill_checkpoint_retention_ck`. -/
def SkillCheckpoint.RetentionCheck (row : SkillCheckpoint) : Prop :=
  row.treeDigest = if row.retained then some row.contentDigest else none

/-- `skill_checkpoint_view_ck`. -/
def SkillCheckpoint.ViewCheck (row : SkillCheckpoint) : Prop :=
  (row.scope = .directory ∧ row.stateId = none ∧ row.subtreePrefix = []) ∨
    (row.scope = .item ∧ row.stateId ≠ none ∧ row.subtreePrefix ≠ [])

/-- `skill_snapshot_retired_ck`. -/
def SessionSkillSnapshot.RetiredCheck (row : SessionSkillSnapshot) : Prop :=
  row.contentRetiredAt = none ∨ row.status = .retained ∨ row.status = .cancelled

/-- `skill_finalization_retired_ck`. -/
def SkillFinalization.RetiredCheck (row : SkillFinalization) : Prop :=
  row.contentRetiredAt = none ∨
    row.status = .published ∨ row.status = .conflicted ∨ row.status = .detached

/-- `skill_publication_retired_ck`. -/
def SkillPublication.RetiredCheck (row : SkillPublication) : Prop :=
  row.contentRetiredAt = none ∨ row.status ≠ .conflicted

/-- `skill_preparation_retired_ck`. -/
def SkillBranchPreparation.RetiredCheck (row : SkillBranchPreparation) : Prop :=
  row.contentRetiredAt = none ∨ row.status ≠ .conflicted

instance (row : SkillCheckpoint) : Decidable row.RetentionCheck := inferInstanceAs (Decidable (_ = _))
instance (row : SkillCheckpoint) : Decidable row.ViewCheck := inferInstanceAs (Decidable (_ ∨ _))
instance (row : SessionSkillSnapshot) : Decidable row.RetiredCheck :=
  inferInstanceAs (Decidable (_ ∨ _))
instance (row : SkillFinalization) : Decidable row.RetiredCheck :=
  inferInstanceAs (Decidable (_ ∨ _))
instance (row : SkillPublication) : Decidable row.RetiredCheck := inferInstanceAs (Decidable (_ ∨ _))
instance (row : SkillBranchPreparation) : Decidable row.RetiredCheck :=
  inferInstanceAs (Decidable (_ ∨ _))

/-- What the database checks of the history tables: their primary keys and the check
constraints on the columns that retirement writes. -/
structure Constraints (t : RetentionTables) : Prop where
  revision_ids : (t.revisions.map (·.id)).Nodup
  localRevision_ids : (t.localRevisions.map (·.id)).Nodup
  checkpoint_ids : (t.checkpoints.map (·.id)).Nodup
  snapshot_ids : (t.snapshots.map (·.id)).Nodup
  finalization_ids : (t.finalizations.map (·.id)).Nodup
  publication_ids : (t.publications.map (·.id)).Nodup
  migration_ids : (t.migrations.map (·.id)).Nodup
  branch_ids : (t.branches.map (·.id)).Nodup
  checkpoint_retention : ∀ row ∈ t.checkpoints, row.RetentionCheck
  checkpoint_view : ∀ row ∈ t.checkpoints, row.ViewCheck
  snapshot_retired : ∀ row ∈ t.snapshots, row.RetiredCheck
  finalization_retired : ∀ row ∈ t.finalizations, row.RetiredCheck
  publication_retired : ∀ row ∈ t.publications, row.RetiredCheck
  migration_retired : ∀ row ∈ t.migrations, row.RetiredCheck

/-- The checks by their name in the database. -/
def checks (t : RetentionTables) : List (Bool × String) :=
  [(decide (t.revisions.map (·.id)).Nodup, "skill_revisions_pkey"),
    (decide (t.localRevisions.map (·.id)).Nodup, "account_local_skill_revisions_pkey"),
    (decide (t.checkpoints.map (·.id)).Nodup, "skill_checkpoints_pkey"),
    (decide (t.snapshots.map (·.id)).Nodup, "session_skill_snapshots_pkey"),
    (decide (t.finalizations.map (·.id)).Nodup, "skill_finalizations_pkey"),
    (decide (t.publications.map (·.id)).Nodup, "skill_publications_pkey"),
    (decide (t.migrations.map (·.id)).Nodup, "skill_branch_preparations_pkey"),
    (decide (t.branches.map (·.id)).Nodup, "account_skill_states_pkey"),
    (decide (∀ row ∈ t.checkpoints, row.RetentionCheck), "skill_checkpoint_retention_ck"),
    (decide (∀ row ∈ t.checkpoints, row.ViewCheck), "skill_checkpoint_view_ck"),
    (decide (∀ row ∈ t.snapshots, row.RetiredCheck), "skill_snapshot_retired_ck"),
    (decide (∀ row ∈ t.finalizations, row.RetiredCheck), "skill_finalization_retired_ck"),
    (decide (∀ row ∈ t.publications, row.RetiredCheck), "skill_publication_retired_ck"),
    (decide (∀ row ∈ t.migrations, row.RetiredCheck), "skill_preparation_retired_ck")]

/-- The first check a flush of these tables would fail. -/
def brokenConstraint (t : RetentionTables) : Option String :=
  ((checks t).find? fun c => !c.1).map (·.2)

theorem brokenConstraint_eq_none {t : RetentionTables} :
    brokenConstraint t = none ↔ Constraints t := by
  simp only [brokenConstraint, Option.map_eq_none_iff, List.find?_eq_none, Bool.not_eq_true',
    Bool.not_eq_false, checks, List.forall_mem_cons, decide_eq_true_eq]
  constructor
  · rintro ⟨h1, h2, h3, h4, h5, h6, h7, h8, h9, h10, h11, h12, h13, h14, -⟩
    exact ⟨h1, h2, h3, h4, h5, h6, h7, h8, h9, h10, h11, h12, h13, h14⟩
  · rintro ⟨h1, h2, h3, h4, h5, h6, h7, h8, h9, h10, h11, h12, h13, h14⟩
    exact ⟨h1, h2, h3, h4, h5, h6, h7, h8, h9, h10, h11, h12, h13, h14, by simp⟩

/-- The committed rows of one user. -/
structure RetentionIndex extends RetentionTables where
  constraints : Constraints toRetentionTables

/-- `session.flush()`: the database takes the rows or refuses them. -/
def flush (t : RetentionTables) : Except HistoryFailure RetentionIndex :=
  match h : brokenConstraint t with
  | some name => .error (.integrityError name)
  | none => .ok ⟨t, brokenConstraint_eq_none.mp h⟩

lemma flush_ok {t : RetentionTables} (h : Constraints t) : flush t = .ok ⟨t, h⟩ := by
  unfold flush
  split
  · rename_i h'
    rw [brokenConstraint_eq_none.mpr h] at h'
    cases h'
  · rfl

/-- `{key(row): row for row in rows}[k]`, where a later row replaces an earlier one. -/
def indexed {κ β : Type} [DecidableEq κ] (key : β → κ) (rows : List β) (k : κ) : Option β :=
  lookup key rows.reverse k

section

variable {κ β : Type} [DecidableEq κ] {key : β → κ} {rows : List β} {k : κ} {row : β}

lemma indexed_map (f : β → β) (hf : ∀ r, key (f r) = key r) :
    indexed key (rows.map f) k = (indexed key rows k).map f := by
  rw [indexed, indexed, ← List.map_reverse, lookup_map f hf]

lemma mem_of_indexed (h : indexed key rows k = some row) : row ∈ rows :=
  List.mem_reverse.mp (mem_of_lookup h)

lemma key_of_indexed (h : indexed key rows k = some row) : key row = k :=
  key_of_lookup h

lemma indexed_of_mem (hn : (rows.map key).Nodup) (h : row ∈ rows) :
    indexed key rows (key row) = some row := by
  have hr : (rows.reverse.map key).Nodup := by
    rw [List.map_reverse]
    exact List.nodup_reverse.mpr hn
  exact lookup_of_mem hr (List.mem_reverse.mpr h)

end

end AgentRemote
