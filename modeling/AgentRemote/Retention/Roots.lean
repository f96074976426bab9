import AgentRemote.Retention.Index
import AgentRemote.Storage.Reclamation

/-!
# Roots and edges of the analysis

Which rows protect content and what they depend on, table by table: branches and pins,
stored content with its leases, unfinished operations and migration baselines. A builder is
the list of its calls, and a failed dictionary access stands as an error in its place.
-/

namespace AgentRemote
open Library

def root (kind : RetentionKind) (identity : Text) (reason : ProtectionReason) : GraphAction :=
  .ok (.root kind identity reason)

def edge (sourceKind : RetentionKind) (source : Text) (targetKind : RetentionKind)
    (target : Option Text) : GraphAction :=
  .ok (.edge sourceKind source targetKind target)

/-- A view that a planned rewrite will create. -/
structure ProjectedCheckpoint where
  id : Text
  originalId : Text
  stateId : Option Text
  treeDigest : Text
  backingDirectoryId : Option Text

/-- A read-only overlay over the rows of one user. -/
structure RetentionProjection where
  branchHeads : List (Text × Text)
  directoryHeads : List (Text × Text)
  checkpoints : List ProjectedCheckpoint
  members : List DirectoryReference
  treeObjects : List (Text × Text)

/-- `dict(pairs).get(k)`. -/
def override (pairs : List (Text × Text)) (k : Text) : Option Text :=
  (indexed (·.1) pairs k).map (·.2)

variable (t : RetentionTables) (projection : Option RetentionProjection)

/-! ### Branches -/

def activeInstallations : List SkillInstallation := t.installations.filter (!·.removed)

def activeLocals : List AccountLocalSkill := t.locals.filter (·.status = .active)

/-- The revisions pinned for the branch's tool and for its account. -/
def branchPins (item : SkillInstallation) (account : ToolAccount) : Option Text × Option Text :=
  ((indexed (fun row => (row.installationId, row.toolType)) t.tools
      (item.id, account.toolType)).bind (·.revisionId),
    (indexed (fun row => (row.installationId, row.accountId)) t.overrides
      (item.id, account.id)).bind (·.revisionId))

/-- Roots of a branch of an installed skill in its current epoch. -/
def installedRoots (branch : AccountSkillState) : List GraphAction :=
  match branch.installationId.bind (indexed (·.id) (activeInstallations t)) with
  | none => []
  | some item =>
    match indexed (·.id) t.accounts branch.accountId with
    | none => [.error .keyError]
    | some account =>
      if branch.installationEpoch ≠ item.epoch then []
      else
        let (tool, pinned) := branchPins t item account
        let selected := (pinned.or tool).or item.defaultRevisionId
        (if branch.baseRevisionId = selected then [root .branch branch.id .currentBranch] else []) ++
          if branch.baseRevisionId ≠ none ∧ (branch.baseRevisionId = tool ∨
            branch.baseRevisionId = pinned) then [root .branch branch.id .pin] else []

def localRoots (branch : AccountSkillState) : List GraphAction :=
  match branch.localSkillId.bind (indexed (·.id) (activeLocals t)) with
  | none => []
  | some source =>
    if branch.localRevisionId = source.defaultRevisionId then
      [root .branch branch.id .currentBranch]
    else []

/-- The head edge of a branch, unless its content has expired. -/
def headEdge (heads : List (Text × Text)) (branch : AccountSkillState) : List GraphAction :=
  if branch.expired then []
  else [edge .branch branch.id .checkpoint ((override heads branch.id).or branch.headCheckpointId)]

def branchActions (heads : List (Text × Text)) (branch : AccountSkillState) : List GraphAction :=
  headEdge heads branch ++
    [edge .branch branch.id .revision branch.baseRevisionId,
      edge .branch branch.id .localRevision branch.localRevisionId] ++
    localRoots t branch ++ installedRoots t branch

def branches : List GraphAction :=
  (activeInstallations t).flatMap (fun library =>
      (library.defaultRevisionId.map fun r => root .revision r .libraryDefault).toList) ++
    (t.tools.map (·.revisionId) ++ t.overrides.map (·.revisionId)).flatMap (fun revision =>
      (revision.map fun r => root .revision r .pin).toList) ++
    (activeLocals t).flatMap (fun source =>
      (source.defaultRevisionId.map fun r => root .localRevision r .localOriginal).toList ++
        [root .directoryContext source.sourceCheckpointId .localOriginal]) ++
    t.branches.flatMap (branchActions t ((projection.map (·.branchHeads)).getD []))

/-! ### Stored content -/

/-- Edges to the revisions that the branch of a view was made from. -/
def originEdges (checkpointId stateId : Text) : List GraphAction :=
  match indexed (·.id) t.branches stateId with
  | none => [.error .keyError]
  | some branch =>
    [edge .checkpoint checkpointId .revision branch.baseRevisionId,
      edge .checkpoint checkpointId .localRevision branch.localRevisionId]

def checkpointActions (row : SkillCheckpoint) : List GraphAction :=
  edge .checkpoint row.id .stateTree row.treeDigest ::
    edge .checkpoint row.id .checkpoint row.backingDirectoryId ::
      (row.stateId.map (originEdges t row.id)).getD []

def treeObjectActions (ref : SkillTreeObjectReference) : List GraphAction :=
  [edge (treeKind ref.category) ref.treeDigest (objectKind ref.category) (some ref.objectDigest),
    edge (objectKind ref.category) ref.objectDigest .blob (some ref.objectDigest)]

def activeUploads (now : ℤ) : List UploadRecord :=
  t.uploads.filter fun upload => upload.status = .staged ∧ now < upload.expiresAt

/-- The file digests of one upload in the old format. -/
def legacyFileReferences (upload : UploadRecord) :
    List (Except HistoryFailure (Text × Text)) :=
  if upload.objectIndexVersion = 0 then
    match upload.manifestEntries with
    | none => [.error (.valueError "skill tree manifest does not validate")]
    | some entries =>
      (((entries.filter (·.kind = .file)).map (·.sha256)).dedup).map fun d => .ok (upload.id, d)
  else []

def uploadFileReferences (uploads : List UploadRecord) :
    List (Except HistoryFailure (Text × Text)) :=
  uploads.flatMap legacyFileReferences ++
    (t.uploadObjects.filter fun ref => ref.uploadId ∈ uploads.map (·.id)).map fun ref =>
      .ok (ref.uploadId, ref.digest)

def uploadFileActions (uploads : List UploadRecord) :
    Except HistoryFailure (Text × Text) → List GraphAction
  | .error e => [.error e]
  | .ok (uploadId, digest) =>
    match indexed (·.id) uploads uploadId with
    | none => [.error .keyError]
    | some upload =>
      let obj := objectKind (category upload.scope)
      [edge .upload uploadId obj (some digest), edge obj digest .blob (some digest)]

def memberActions (member : SkillDirectoryMember) : List GraphAction :=
  [edge .directoryContext member.directoryCheckpointId .checkpoint
      (some member.directoryCheckpointId),
    edge .directoryContext member.directoryCheckpointId .checkpoint (some member.checkpointId)]

def contextActions (row : SkillCheckpoint) : List GraphAction :=
  if row.scope = .directory then [edge .directoryContext row.id .checkpoint (some row.id)] else []

def projectedActions (projection : RetentionProjection) : List GraphAction :=
  projection.checkpoints.flatMap (fun row =>
      [edge .checkpoint row.id .stateTree (some row.treeDigest),
        edge .checkpoint row.id .checkpoint row.backingDirectoryId] ++
      match row.stateId with
      | none => [edge .directoryContext row.id .checkpoint (some row.id)]
      | some stateId => originEdges t row.id stateId) ++
    projection.treeObjects.flatMap (fun (treeDigest, objectDigest) =>
      [edge .stateTree treeDigest .stateObject (some objectDigest),
        edge .stateObject objectDigest .blob (some objectDigest)]) ++
    projection.members.map fun member =>
      edge .directoryContext member.directoryCheckpointId .checkpoint (some member.checkpointId)

/-- The checkpoints the accounts' directories show, after the planned replacements. -/
def currentHeads : List Text :=
  (t.directories.filterMap fun row => row.headCheckpointId.map fun head =>
    (override ((projection.map (·.directoryHeads)).getD []) row.accountId).getD head).dedup

/-- The order of the returned obligations. -/
def ReferenceLe (a b : DirectoryReference) : Prop :=
  toLex (a.accountId, a.entryName) ≤ toLex (b.accountId, b.entryName)

instance : DecidableRel ReferenceLe := fun _ _ => inferInstanceAs (Decidable (_ ≤ _))

def SkillDirectoryMember.reference (row : SkillDirectoryMember) : DirectoryReference :=
  ⟨row.accountId, row.directoryCheckpointId, row.entryName, row.stateId, row.checkpointId⟩

/-- Members of the current directories. -/
def directoryReferences : List DirectoryReference :=
  ((t.members.map (·.reference) ++ (projection.map (·.members)).getD []).filter fun row =>
    row.directoryCheckpointId ∈ currentHeads t projection).insertionSort ReferenceLe

def content (now : ℤ) : List GraphAction :=
  t.revisions.map (fun row => edge .revision row.id .packageTree row.treeDigest) ++
    t.localRevisions.map (fun row => edge .localRevision row.id .stateTree row.treeDigest) ++
    t.checkpoints.flatMap (checkpointActions t) ++
    t.treeObjects.flatMap treeObjectActions ++
    (activeUploads t now).map (fun upload => root .upload upload.id .uploadLease) ++
    (uploadFileReferences t (activeUploads t now)).flatMap
      (uploadFileActions (activeUploads t now)) ++
    t.members.flatMap memberActions ++
    t.checkpoints.flatMap contextActions ++
    (projection.map (projectedActions t)).getD [] ++
    (currentHeads t projection).map fun head => root .checkpoint head .currentDirectory

/-! ### Unfinished operations -/

/-- The statuses of a session that no longer runs. -/
def SessionStatus.ended : SessionStatus → Bool
  | .stopped | .interrupted | .failed => true
  | _ => false

def SnapshotStatus.unfinished : SnapshotStatus → Bool
  | .reserved | .started | .finalizing => true
  | _ => false

def FinalizationStatus.pending : FinalizationStatus → Bool
  | .uploadPending | .persisted | .persistedUnclean => true
  | _ => false

def snapshotRoots (row : SessionSkillSnapshot) : List GraphAction :=
  if row.status.unfinished ∨
      ((row.sessionId.bind (indexed (·.id) t.sessions)).any fun s => !s.status.ended) then
    [root .snapshot row.id .activeSnapshot]
  else []

def snapshotActions (row : SessionSkillSnapshot) : List GraphAction :=
  snapshotRoots t row ++
    if row.contentRetiredAt.isSome then []
    else [edge .snapshot row.id .directoryContext row.startingCheckpointId,
      edge .snapshot row.id .stateTree (some row.treeDigest)]

def finalizationActions (row : SkillFinalization) : List GraphAction :=
  (if row.status.pending then [root .finalization row.id .pendingFinalization] else []) ++
    if row.contentRetiredAt.isSome then []
    else [edge .finalization row.id .snapshot (some row.snapshotId),
      edge .finalization row.id .directoryContext row.checkpointId,
      edge .finalization row.id .stateTree row.treeDigest]

def publicationActions (row : SkillPublication) : List GraphAction :=
  (if row.status = .conflicted then [root .publication row.id .publicationConflict] else []) ++
    if row.contentRetiredAt.isSome then []
    else [edge .publication row.id .finalization (some row.finalizationId),
      edge .publication row.id .directoryContext row.expectedDirectoryId,
      edge .publication row.id .directoryContext row.resultCheckpointId,
      edge .publication row.id .stateTree row.currentTreeDigest]

def choiceActions (row : ResolutionChoiceRecord) : List GraphAction :=
  if row.contentRetiredAt.isSome then []
  else [edge .publication row.publicationId .stateTree row.treeDigest]

def takeoverActions (row : SkillAccountTakeover) : List GraphAction :=
  (if row.status ≠ .committed then [root .takeover row.id .pendingTakeover] else []) ++
    [edge .takeover row.id .upload row.uploadId,
      edge .takeover row.id .directoryContext row.checkpointId,
      edge .takeover row.id .stateTree row.captureDigest]

def operations : List GraphAction :=
  t.snapshots.flatMap (snapshotActions t) ++
    t.snapshotItems.flatMap (fun member =>
      [edge .snapshot member.snapshotId .branch (some member.stateId),
        edge .snapshot member.snapshotId .checkpoint (some member.checkpointId)]) ++
    t.finalizations.flatMap finalizationActions ++
    t.publications.flatMap publicationActions ++
    t.publicationBranches.flatMap (fun branch =>
      [edge .publication branch.publicationId .branch (some branch.stateId),
        edge .publication branch.publicationId .checkpoint branch.expectedCheckpointId]) ++
    t.choices.flatMap choiceActions ++
    t.takeovers.flatMap takeoverActions

/-! ### Migrations -/

/-- The pair of branches whose incremental baseline a migration may be. -/
def baselinePair (row : SkillBranchPreparation) : Except HistoryFailure (Option (Text × Text)) :=
  match row.sourceStateId with
  | none => .ok none
  | some sourceId =>
    if row.status ≠ .ready ∨ row.migrationSequence = none then .ok none
    else
      match indexed (·.id) t.branches sourceId, indexed (·.id) t.branches row.targetStateId,
        indexed (·.accountId) t.directories row.accountId with
      | some source, some target, some directory =>
        if some source.epoch = row.sourceEpoch ∧ target.epoch = row.targetEpoch ∧
            directory.epoch = row.directoryEpoch then .ok (some (source.id, target.id))
        else .ok none
      | _, _, _ => .error .keyError

def migrationActions (row : SkillBranchPreparation) : List GraphAction :=
  (if row.status = .conflicted then [root .migration row.id .migrationConflict] else []) ++
    (if row.contentRetiredAt.isSome then []
    else [edge .migration row.id .branch row.sourceStateId,
        edge .migration row.id .branch (some row.targetStateId)] ++
      [row.baseCheckpointId, row.currentCheckpointId, row.sourceCheckpointId,
        some row.directoryCheckpointId, row.resultCheckpointId, row.resultDirectoryId].map
        (edge .migration row.id .checkpoint) ++
      [some row.directoryCheckpointId, row.resultDirectoryId].map
        (edge .migration row.id .directoryContext) ++
      [row.baseDigest, row.currentDigest, row.incomingDigest].map fun digest =>
        edge .migration row.id .stateTree (some digest)) ++
    match baselinePair t row with
    | .error e => [.error e]
    | .ok _ => []

/-- Keeps the later of two ready migrations between the same branches. -/
def keepLatest (latest : List ((Text × Text) × SkillBranchPreparation))
    (row : SkillBranchPreparation) : List ((Text × Text) × SkillBranchPreparation) :=
  match baselinePair t row with
  | .ok (some pair) =>
    match lookup (·.1) latest pair with
    | none => put (·.1) latest (pair, row)
    | some old =>
      if old.2.migrationSequence.getD 0 < row.migrationSequence.getD 0 then
        put (·.1) latest (pair, row)
      else latest
  | _ => latest

def baselineActions (row : SkillBranchPreparation) : List GraphAction :=
  [edge .branch row.targetStateId .migrationBaseline (some row.id),
    edge .migrationBaseline row.id .checkpoint row.sourceCheckpointId]

def customActions (custom : MigrationResolutionContent) : List GraphAction :=
  if custom.contentRetiredAt.isSome then []
  else [edge .migration custom.migrationId .stateTree (some custom.treeDigest)]

def migrations : List GraphAction :=
  t.migrations.flatMap (migrationActions t) ++
    (t.migrations.foldl (keepLatest t) []).flatMap (fun row => baselineActions row.2) ++
    t.migrationContent.flatMap customActions

end AgentRemote
