import AgentRemote.Retention.History

/-!
# Retirement of history

A preview expands a selection to every retained consumer and lists what blocks each of
them. Retirement takes exact identities, checks them one by one and clears their content.
The two are written separately, down to their eligibility tests.
-/

namespace AgentRemote
open Library

inductive RetirementBlocker where
  | «protected»
  | waiting
  | unknownRelease
  | originalVersion
  | accountScope
  | activeUpload
  | replacementReference
  deriving DecidableEq

structure RetirementEntry where
  key : RetentionKey
  retained : Bool
  contentDigests : List Text
  retention : Option HistoryRetention
  blockers : List RetirementBlocker
  deriving DecidableEq

structure HistoryRetirementPlan where
  userId : Text
  accountId : Text
  requested : List RetentionKey
  allUnreferenced : Bool
  entries : List RetirementEntry
  dependencies : List HistoryDependency
  expiringBranches : List (Text × Text × ℕ)
  deriving DecidableEq

/-- Only a plan without any blocker may be applied. -/
def HistoryRetirementPlan.ready (plan : HistoryRetirementPlan) : Bool :=
  plan.entries.all (·.blockers.isEmpty)

variable (readers : PlanReaders)

/-! ### Uploads of migration inputs -/

/-- Rows that one index read may return. -/
def maxRows : ℕ := 1000000

/-- Those of the migrations that still have an unexpired input upload. -/
def activeMigrationIds (t : RetentionTables) (migrationIds : List Text) (now : ℤ) :
    Except HistoryFailure (List Text) := do
  reject (maxRows < migrationIds.length)
    (HistoryFailure.valueError "retention migration identity limit exceeded")
  return ((t.migrationUploads.filter fun row =>
    row.migrationId ∈ migrationIds ∧ row.uploadId ∈ (activeUploads t now).map (·.id)).map
      (·.migrationId)).dedup

/-! ### The preview -/

section

variable (t : RetentionTables) (accountId : Text) (histories : List HistoryRetention)
  (activeMigrations : List Text) (now : ℤ) (allUnreferenced : Bool)

def virtualKeys (projection : Option RetentionProjection) : List RetentionKey :=
  (projection.map fun p => p.checkpoints.map fun row => ⟨.checkpoint, row.id⟩).getD []

/-- What keeps one retained record from being retired. -/
def retirementBlockers (record : HistoryRecord) (view : HistoryRetention) :
    List RetirementBlocker :=
  (if !record.stateHistory then [.originalVersion]
    else if record.accountId ≠ some accountId then [.accountScope] else []) ++
  (if view.reasons ≠ ∅ then [.protected] else []) ++
  (if record.key.kind = .migration ∧ record.id ∈ activeMigrations then [.activeUpload] else []) ++
  (if allUnreferenced then []
    else match view.releasedAt, view.expiresAt with
      | none, _ => [.unknownRelease]
      | some _, none => [.waiting]
      | some _, some expires => if now < expires then [.waiting] else [])

def retirementEntry (projection : Option RetentionProjection) (key : RetentionKey) :
    Except HistoryFailure RetirementEntry :=
  if key ∈ virtualKeys projection then .ok ⟨key, true, [], none, [.replacementReference]⟩
  else
    match recordAt t key, indexed (·.key) histories key with
    | some record, some view =>
      .ok ⟨key, record.retained, record.digests, some view,
        if record.retained then
          retirementBlockers accountId activeMigrations now allUnreferenced record view
        else []⟩
    | _, _ => .error .keyError

/-- A requested identity names state history of the account. -/
def checkRequested (key : RetentionKey) : Except HistoryFailure Unit :=
  match recordAt t key with
  | none => .error (.contentError "HISTORY_NOT_FOUND" "history not found in this account")
  | some record =>
    reject (¬(record.stateHistory ∧ record.accountId = some accountId))
      (.contentError "HISTORY_NOT_FOUND" "history not found in this account")

/-- The order of the expiring branches. -/
def ExpiryLe (a b : Text × Text × ℕ) : Prop :=
  toLex (a.1, toLex (a.2.1, a.2.2)) ≤ toLex (b.1, toLex (b.2.1, b.2.2))

instance : DecidableRel ExpiryLe := fun _ _ => inferInstanceAs (Decidable (_ ≤ _))

/-- Branches that lose their head, each with the head and the branch's epoch. -/
def expiringBranches (projection : Option RetentionProjection) (lost : List RetentionKey) :
    List (Text × Text × ℕ) :=
  ((t.branches.filter fun row =>
    !row.expired && (projection.bind fun p => override p.branchHeads row.id).isNone).filterMap
      fun row => row.headCheckpointId.bind fun head =>
        if ⟨.checkpoint, head⟩ ∈ lost then some (row.id, head, row.epoch) else none).insertionSort
    ExpiryLe

/-- A selection is a non-empty list of distinct identities within the bound. -/
def checkSelection (keys : List RetentionKey) : Except HistoryFailure Unit :=
  reject (keys = [] ∨ maxRetirementIdentities < keys.length ∨ ¬keys.Nodup)
    (.contentError "INVALID_REQUEST"
      "select distinct history identities within the retention index limit")

def retirementPlan (requested : List RetentionKey) (projection : Option RetentionProjection) :
    Except HistoryFailure HistoryRetirementPlan := do
  checkSelection requested
  requested.forM (checkRequested t accountId)
  let retained := retainedKeys t ++ virtualKeys projection
  let dependencies ← historyDependencies t projection
  let closure ← (dependentClosure requested dependencies retained maxRetirementIdentities
    maxHistoryEdges).mapError HistoryFailure.valueError
  let entries ← closure.required.mapM
    (retirementEntry t accountId histories activeMigrations now allUnreferenced projection)
  return {
    userId := t.userId
    accountId := accountId
    requested := requested.insertionSort (· ≤ ·)
    allUnreferenced := allUnreferenced
    entries := entries
    dependencies := closure.dependencies
    expiringBranches :=
      expiringBranches t projection (closure.required.filter (· ∈ retained)) }

end

/-- `SkillHistoryRetirementPlanner.preview` at one instant. -/
def preview (index : RetentionIndex) (policy : SkillStoragePolicy) (now : ℤ) (accountId : Text)
    (requested : List RetentionKey) (allUnreferenced : Bool) :
    Except HistoryFailure HistoryRetirementPlan := do
  let t := index.toRetentionTables
  let active ← activeMigrationIds t (t.migrations.map (·.id)) now
  let protection ← protection readers t now none
  let histories ← historyRetention t protection policy
  retirementPlan t accountId histories active now allUnreferenced requested none

/-! ### Retiring -/

/-- The record behind a selected key when it is to be retired now; a record that is already
retired is skipped. -/
def retirable (t : RetentionTables) (histories : List HistoryRetention) (accountId : Text)
    (now : ℤ) (allUnreferenced : Bool) (key : RetentionKey) :
    Except HistoryFailure (Option HistoryRecord) :=
  match recordAt t key with
  | none => .error (.contentError "HISTORY_NOT_FOUND" "history not found in this account")
  | some record =>
    if !record.stateHistory ∨ record.accountId ≠ some accountId then
      .error (.contentError "HISTORY_NOT_FOUND" "history not found in this account")
    else if !record.retained then .ok none
    else
      match indexed (·.key) histories key with
      | none => .error .keyError
      | some view =>
        if view.reasons ≠ ∅ then
          .error (.contentError "STATE_PROTECTED" "history has active protection")
        else if !allUnreferenced ∧ view.expiresAt.all (now < ·) then
          .error (.contentError "HISTORY_NOT_EXPIRED" "history waiting period has not expired")
        else .ok (some record)

section

variable (selected : List RetentionKey) (now : ℤ)

def SkillCheckpoint.retire (row : SkillCheckpoint) : SkillCheckpoint :=
  if ⟨.checkpoint, row.id⟩ ∈ selected then { row with retained := false, treeDigest := none } else row

def SessionSkillSnapshot.retire (row : SessionSkillSnapshot) : SessionSkillSnapshot :=
  if ⟨.snapshot, row.id⟩ ∈ selected then { row with contentRetiredAt := some now } else row

def SkillFinalization.retire (row : SkillFinalization) : SkillFinalization :=
  if ⟨.finalization, row.id⟩ ∈ selected then { row with contentRetiredAt := some now } else row

def SkillPublication.retire (row : SkillPublication) : SkillPublication :=
  if ⟨.publication, row.id⟩ ∈ selected then { row with contentRetiredAt := some now } else row

def SkillBranchPreparation.retire (row : SkillBranchPreparation) : SkillBranchPreparation :=
  if ⟨.migration, row.id⟩ ∈ selected then { row with contentRetiredAt := some now } else row

/-- A branch whose head is retired expires. -/
def AccountSkillState.expire (row : AccountSkillState) : AccountSkillState :=
  if row.headCheckpointId.any (⟨.checkpoint, ·⟩ ∈ selected) then { row with expired := true } else row

def ResolutionChoiceRecord.retire (row : ResolutionChoiceRecord) : ResolutionChoiceRecord :=
  if ⟨.publication, row.publicationId⟩ ∈ selected then { row with contentRetiredAt := some now }
  else row

def MigrationResolutionContent.retire (row : MigrationResolutionContent) :
    MigrationResolutionContent :=
  if ⟨.migration, row.migrationId⟩ ∈ selected then { row with contentRetiredAt := some now } else row

/-- The rows after the selected records are retired. -/
def retiredTables (t : RetentionTables) : RetentionTables :=
  { t with
    checkpoints := t.checkpoints.map (·.retire selected)
    snapshots := t.snapshots.map (·.retire selected now)
    finalizations := t.finalizations.map (·.retire selected now)
    publications := t.publications.map (·.retire selected now)
    migrations := t.migrations.map (·.retire selected now)
    branches := t.branches.map (·.expire selected)
    choices := t.choices.map (·.retire selected now)
    migrationContent := t.migrationContent.map (·.retire selected now) }

end

/-! ### Clocks -/

/-- The clock of one object after a mutation: it stops while the object is protected, and
starts when the object loses its protection or appears without one. -/
def stamp (known : List RetentionKey) (before after : RetentionProtection) (now : ℤ)
    (key : RetentionKey) (clock : Option ℤ) : Option ℤ :=
  if after.reasons key ≠ ∅ then none
  else if before.reasons key ≠ ∅ ∨ key ∉ known then some now
  else clock

/-- Identities that carry a clock. -/
def clockKeys (t : RetentionTables) : List RetentionKey :=
  (historyRecords t).map (·.key) ++ t.trees.map fun row => treeKey row.category row.digest

def stampClocks (clock : RetentionKey → Option ℤ → Option ℤ) (t : RetentionTables) :
    RetentionTables :=
  { t with
    revisions := t.revisions.map fun row =>
      { row with retentionReleasedAt := clock ⟨.revision, row.id⟩ row.retentionReleasedAt }
    localRevisions := t.localRevisions.map fun row =>
      { row with retentionReleasedAt := clock ⟨.localRevision, row.id⟩ row.retentionReleasedAt }
    checkpoints := t.checkpoints.map fun row =>
      { row with retentionReleasedAt := clock ⟨.checkpoint, row.id⟩ row.retentionReleasedAt }
    snapshots := t.snapshots.map fun row =>
      { row with retentionReleasedAt := clock ⟨.snapshot, row.id⟩ row.retentionReleasedAt }
    finalizations := t.finalizations.map fun row =>
      { row with retentionReleasedAt := clock ⟨.finalization, row.id⟩ row.retentionReleasedAt }
    publications := t.publications.map fun row =>
      { row with retentionReleasedAt := clock ⟨.publication, row.id⟩ row.retentionReleasedAt }
    migrations := t.migrations.map fun row =>
      { row with retentionReleasedAt := clock ⟨.migration, row.id⟩ row.retentionReleasedAt }
    trees := t.trees.map fun row =>
      { row with
        retentionReleasedAt := clock (treeKey row.category row.digest) row.retentionReleasedAt } }

/-- `retention_mutation` around a change of the rows, at one instant. -/
def retentionMutation {α : Type} (index : RetentionIndex) (now : ℤ)
    (change : RetentionIndex → Except HistoryFailure (α × RetentionIndex)) :
    Except HistoryFailure (α × RetentionIndex) := do
  let before ← protection readers index.toRetentionTables now none
  let (result, changed) ← change index
  let after ← protection readers changed.toRetentionTables now none
  let stamped ← flush (stampClocks (stamp (clockKeys index.toRetentionTables) before after now)
    changed.toRetentionTables)
  return (result, stamped)

/-- The body of `retire` inside its savepoint. -/
def retireSelected (policy : SkillStoragePolicy) (now : ℤ) (accountId : Text)
    (keys : List RetentionKey) (allUnreferenced : Bool) (index : RetentionIndex) :
    Except HistoryFailure (List RetentionKey × RetentionIndex) := do
  let t := index.toRetentionTables
  let protection ← protection readers t now none
  let histories ← historyRetention t protection policy
  let records ← keys.mapM (retirable t histories accountId now allUnreferenced)
  let selected := (records.filterMap id).map (·.key)
  let dependencies ← historyDependencies t none
  requireHistoryDependencies dependencies selected
  let migrationIds := (selected.filter (·.kind = .migration)).map (·.identity)
  let active ← activeMigrationIds t migrationIds now
  reject (active ≠ [])
    (HistoryFailure.contentError "STATE_PROTECTED" "history still has an active input upload")
  let after ← flush (retiredTables selected now t)
  return (sortedSet selected, after)

/-- `SkillHistoryRetirementService.retire`. -/
def retire (index : RetentionIndex) (policy : SkillStoragePolicy) (now : ℤ) (accountId : Text)
    (keys : List RetentionKey) (allUnreferenced : Bool) :
    Except HistoryFailure (List RetentionKey × RetentionIndex) := do
  checkSelection keys
  retentionMutation readers index now
    (retireSelected readers policy now accountId keys allUnreferenced)

/-- `SkillHistoryRetirementPlanner.apply`, for a plan of the same user. -/
def applyRetirement (index : RetentionIndex) (policy : SkillStoragePolicy) (now : ℤ)
    (expected : HistoryRetirementPlan) :
    Except HistoryFailure (List RetentionKey × RetentionIndex) := do
  reject (expected.userId ≠ index.userId)
    (HistoryFailure.contentError "HISTORY_NOT_FOUND" "history not found in this account")
  retentionMutation readers index now fun index => do
    let actual ← preview readers index policy now expected.accountId expected.requested
      expected.allUnreferenced
    reject (actual ≠ expected)
      (HistoryFailure.contentError "HEAD_CHANGED" "history retirement preview has changed")
    reject (actual.ready = false)
      (HistoryFailure.contentError "HISTORY_REFERENCED" "history retirement plan has blockers")
    let keys := actual.entries.map (·.key)
    checkSelection keys
    retireSelected readers policy now actual.accountId keys actual.allUnreferenced index

end AgentRemote
