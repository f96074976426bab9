import AgentRemote.Retention.Groups
import AgentRemote.Retention.Protection

/-!
# Retained history

The records whose content can be retired, how long each has waited since it lost its
protection, and which records must stay because another retained one was made from them.
-/

namespace AgentRemote
open Library

/-! ### Records -/

inductive HistoryRecord where
  | revision (row : SkillRevision)
  | localRevision (row : AccountLocalSkillRevision)
  | checkpoint (row : SkillCheckpoint)
  | snapshot (row : SessionSkillSnapshot)
  | finalization (row : SkillFinalization)
  | publication (row : SkillPublication)
  | migration (row : SkillBranchPreparation)

namespace HistoryRecord

def id : HistoryRecord → Text
  | revision row => row.id
  | localRevision row => row.id
  | checkpoint row => row.id
  | snapshot row => row.id
  | finalization row => row.id
  | publication row => row.id
  | migration row => row.id

def kind : HistoryRecord → RetentionKind
  | revision _ => .revision
  | localRevision _ => .localRevision
  | checkpoint _ => .checkpoint
  | snapshot _ => .snapshot
  | finalization _ => .finalization
  | publication _ => .publication
  | migration _ => .migration

def key (record : HistoryRecord) : RetentionKey := ⟨record.kind, record.id⟩

/-- Packages belong to no account. -/
def accountId : HistoryRecord → Option Text
  | revision _ => none
  | localRevision row => some row.accountId
  | checkpoint row => some row.accountId
  | snapshot row => some row.accountId
  | finalization row => some row.accountId
  | publication row => some row.accountId
  | migration row => some row.accountId

/-- `state_history`: packages and first local versions are never pruned with state. -/
def stateHistory : HistoryRecord → Bool
  | revision _ | localRevision _ => false
  | _ => true

/-- `retained_history`: the content is still promised. -/
def retained : HistoryRecord → Bool
  | revision row => row.retained
  | localRevision row => row.retained
  | checkpoint row => row.retained
  | snapshot row => row.contentRetiredAt.isNone
  | finalization row => row.contentRetiredAt.isNone
  | publication row => row.contentRetiredAt.isNone
  | migration row => row.contentRetiredAt.isNone

def retentionReleasedAt : HistoryRecord → Option ℤ
  | revision row => row.retentionReleasedAt
  | localRevision row => row.retentionReleasedAt
  | checkpoint row => row.retentionReleasedAt
  | snapshot row => row.retentionReleasedAt
  | finalization row => row.retentionReleasedAt
  | publication row => row.retentionReleasedAt
  | migration row => row.retentionReleasedAt

/-- `_digests`: the content a reviewed record had. -/
def digests : HistoryRecord → List Text
  | revision row => row.treeDigest.toList
  | localRevision row => row.treeDigest.toList
  | checkpoint row => [row.contentDigest]
  | snapshot row => [row.treeDigest]
  | finalization row => row.treeDigest.toList
  | publication row => row.currentTreeDigest.toList
  | migration row => [row.baseDigest, row.currentDigest, row.incomingDigest]

end HistoryRecord

def historyRecords (t : RetentionTables) : List HistoryRecord :=
  t.revisions.map .revision ++ t.localRevisions.map .localRevision ++
    t.checkpoints.map .checkpoint ++ t.snapshots.map .snapshot ++
    t.finalizations.map .finalization ++ t.publications.map .publication ++
    t.migrations.map .migration

/-- `history_records(index)[key]`. -/
def recordAt (t : RetentionTables) (key : RetentionKey) : Option HistoryRecord :=
  indexed HistoryRecord.key (historyRecords t) key

/-- The identities that still promise content. -/
def retainedKeys (t : RetentionTables) : List RetentionKey :=
  ((historyRecords t).filter (·.retained)).map (·.key)

lemma nodup_historyRecords (index : RetentionIndex) :
    ((historyRecords index.toRetentionTables).map (·.key)).Nodup := by
  have hmap : ∀ {β : Type} (rows : List β) (id : β → Text) (kind : RetentionKind),
      (rows.map id).Nodup → (rows.map fun row => (⟨kind, id row⟩ : RetentionKey)).Nodup := by
    intro β rows id kind h
    have := h.map (f := fun i => (⟨kind, i⟩ : RetentionKey)) fun a b hab => by simpa using hab
    simpa [List.map_map, Function.comp_def] using this
  have c := index.constraints
  simp only [historyRecords, List.map_append, List.map_map, List.nodup_append']
  refine ⟨⟨⟨⟨⟨⟨hmap _ _ _ c.revision_ids, hmap _ _ _ c.localRevision_ids, ?_⟩,
    hmap _ _ _ c.checkpoint_ids, ?_⟩, hmap _ _ _ c.snapshot_ids, ?_⟩,
    hmap _ _ _ c.finalization_ids, ?_⟩, hmap _ _ _ c.publication_ids, ?_⟩,
    hmap _ _ _ c.migration_ids, ?_⟩ <;>
  · intro key h h'
    simp only [List.mem_append, List.mem_map, Function.comp_apply] at h h'
    obtain ⟨row', -, rfl⟩ := h'
    simp [HistoryRecord.key, HistoryRecord.kind] at h

lemma recordAt_eq_some (index : RetentionIndex) {key : RetentionKey} {record : HistoryRecord} :
    recordAt index.toRetentionTables key = some record ↔
      record ∈ historyRecords index.toRetentionTables ∧ record.key = key := by
  constructor
  · intro h
    exact ⟨mem_of_indexed h, key_of_indexed h⟩
  · rintro ⟨h, rfl⟩
    exact indexed_of_mem (nodup_historyRecords index) h

lemma mem_retainedKeys {t : RetentionTables} {key : RetentionKey} :
    key ∈ retainedKeys t ↔ ∃ record ∈ historyRecords t, record.retained ∧ record.key = key := by
  simp [retainedKeys, and_assoc]

/-! ### Dependencies of retained consumers -/

section

variable (t : RetentionTables) (projection : Option RetentionProjection)

/-- One optional obligation, with the relation that names its column. -/
def depends (kind : RetentionKind) (identity : Text) (targetKind : RetentionKind)
    (target : Option Text) (relation : String) : List (Except HistoryFailure HistoryDependency) :=
  (target.map fun target => .ok ⟨⟨kind, identity⟩, ⟨targetKind, target⟩, relation.toList⟩).toList

def backingDependency (row : SkillCheckpoint) : List (Except HistoryFailure HistoryDependency) :=
  if row.retained then
    depends .checkpoint row.id .checkpoint row.backingDirectoryId "backing_directory"
  else []

def memberDependency (member : SkillDirectoryMember) :
    List (Except HistoryFailure HistoryDependency) :=
  match indexed (·.id) t.checkpoints member.directoryCheckpointId with
  | none => [.error .keyError]
  | some directory =>
    if directory.retained then
      depends .checkpoint member.directoryCheckpointId .checkpoint (some member.checkpointId)
        "directory_member"
    else []

def originalDependency (revision : AccountLocalSkillRevision) :
    List (Except HistoryFailure HistoryDependency) :=
  if revision.retained ∧ revision.number = 1 then
    match indexed (·.id) t.locals revision.localSkillId with
    | none => [.error .keyError]
    | some source =>
      depends .localRevision revision.id .checkpoint (some source.sourceCheckpointId)
        "local_original"
  else []

def retainedSnapshots : List SessionSkillSnapshot :=
  t.snapshots.filter (·.contentRetiredAt.isNone)

def retainedPublications : List SkillPublication :=
  t.publications.filter (·.contentRetiredAt.isNone)

def finalizationDependencies (row : SkillFinalization) :
    List (Except HistoryFailure HistoryDependency) :=
  if row.contentRetiredAt.isNone then
    depends .finalization row.id .snapshot (some row.snapshotId) "finalization_snapshot" ++
      depends .finalization row.id .checkpoint row.checkpointId "finalization_checkpoint"
  else []

def publicationDependencies (row : SkillPublication) :
    List (Except HistoryFailure HistoryDependency) :=
  depends .publication row.id .finalization (some row.finalizationId) "publication_finalization" ++
    depends .publication row.id .checkpoint row.expectedDirectoryId
      "publication_expected_directory" ++
    depends .publication row.id .checkpoint row.resultCheckpointId "publication_result"

def migrationDependencies (row : SkillBranchPreparation) :
    List (Except HistoryFailure HistoryDependency) :=
  if row.contentRetiredAt.isNone then
    depends .migration row.id .checkpoint row.baseCheckpointId "migration_base" ++
      depends .migration row.id .checkpoint row.currentCheckpointId "migration_current" ++
      depends .migration row.id .checkpoint row.sourceCheckpointId "migration_source" ++
      depends .migration row.id .checkpoint (some row.directoryCheckpointId) "migration_directory" ++
      depends .migration row.id .checkpoint row.resultCheckpointId "migration_result" ++
      depends .migration row.id .checkpoint row.resultDirectoryId "migration_result_directory"
  else []

def projectedDependencies (projection : RetentionProjection) :
    List (Except HistoryFailure HistoryDependency) :=
  projection.checkpoints.flatMap (fun row =>
      depends .checkpoint row.id .checkpoint row.backingDirectoryId "replacement_backing") ++
    projection.members.flatMap fun member =>
      depends .checkpoint member.directoryCheckpointId .checkpoint (some member.checkpointId)
        "replacement_member"

/-- Every obligation in the order the index is read. -/
def dependencyList : List (Except HistoryFailure HistoryDependency) :=
  t.checkpoints.flatMap backingDependency ++ t.members.flatMap (memberDependency t) ++
    t.localRevisions.flatMap (originalDependency t) ++
    (retainedSnapshots t).flatMap (fun row =>
      depends .snapshot row.id .checkpoint row.startingCheckpointId "snapshot_directory") ++
    (t.snapshotItems.filter fun item => item.snapshotId ∈ (retainedSnapshots t).map (·.id)).flatMap
      (fun item =>
        depends .snapshot item.snapshotId .checkpoint (some item.checkpointId) "snapshot_item") ++
    t.finalizations.flatMap finalizationDependencies ++
    (retainedPublications t).flatMap publicationDependencies ++
    (t.publicationBranches.filter fun branch =>
      branch.publicationId ∈ (retainedPublications t).map (·.id)).flatMap (fun branch =>
        depends .publication branch.publicationId .checkpoint branch.expectedCheckpointId
          "publication_branch") ++
    t.migrations.flatMap migrationDependencies ++
    (projection.map projectedDependencies).getD []

/-- Adds one obligation to the set and refuses a set that is too large. -/
def addDependency (edges : List HistoryDependency)
    (dependency : Except HistoryFailure HistoryDependency) :
    Except HistoryFailure (List HistoryDependency) := do
  let dependency ← dependency
  let edges := if dependency ∈ edges then edges else edges ++ [dependency]
  reject (maxHistoryEdges < edges.length) (.valueError edgeLimitError)
  return edges

def historyDependencies : Except HistoryFailure (List HistoryDependency) := do
  let edges ← (dependencyList t projection).foldlM addDependency []
  return sortedSet edges

def requireHistoryDependencies (dependencies : List HistoryDependency)
    (selected : List RetentionKey) : Except HistoryFailure Unit :=
  match dependencies.find? fun edge => edge.dependency ∈ selected ∧ edge.consumer ∉ selected with
  | none => .ok ()
  | some edge =>
    .error (.contentError "HISTORY_REFERENCED"
      ("history has a retained " ++ String.ofList edge.consumer.kind.label ++ " dependency"))

end

lemma mem_historyDependencies {t : RetentionTables} {projection : Option RetentionProjection}
    {deps : List HistoryDependency} (h : historyDependencies t projection = .ok deps)
    {d : HistoryDependency} (hd : d ∈ deps) : .ok d ∈ dependencyList t projection := by
  simp only [historyDependencies, bind_eq_ok] at h
  obtain ⟨edges, he, h⟩ := h
  obtain rfl := Except.ok.inj h
  have hall : ∀ d ∈ edges, .ok d ∈ dependencyList t projection := by
    refine foldlM_ok_induction (fun edges => ∀ d ∈ edges, .ok d ∈ dependencyList t projection)
      ?_ (by simp) he
    intro s a s' ha hs hstep
    simp only [addDependency, bind_eq_ok, reject_eq_ok] at hstep
    obtain ⟨new, rfl, _, -, hstep⟩ := hstep
    obtain rfl := Except.ok.inj hstep
    intro d hd
    split_ifs at hd with hmem
    · exact hs d hd
    · rcases List.mem_append.mp hd with hd | hd
      · exact hs d hd
      · exact List.mem_singleton.mp hd ▸ ha
  exact hall d (mem_sortedSet.mp hd)

lemma mem_depends {kind targetKind : RetentionKind} {identity : Text} {target : Option Text}
    {relation : String} {d : HistoryDependency}
    (h : .ok d ∈ depends kind identity targetKind target relation) :
    d.consumer = ⟨kind, identity⟩ := by
  simp only [depends, Option.mem_toList, Option.map_eq_some_iff] at h
  obtain ⟨x, -, hx⟩ := h
  obtain rfl := Except.ok.inj hx
  rfl

/-- Only history that still promises content has obligations. -/
theorem consumer_retained {t : RetentionTables} {deps : List HistoryDependency}
    (h : historyDependencies t none = .ok deps) {d : HistoryDependency} (hd : d ∈ deps) :
    d.consumer ∈ retainedKeys t := by
  have hmem := mem_historyDependencies h hd
  rw [mem_retainedKeys]
  simp only [dependencyList, Option.map_none, Option.getD_none, List.append_nil, List.mem_append,
    List.mem_flatMap, or_assoc] at hmem
  rcases hmem with ⟨row, hrow, hx⟩ | ⟨row, hrow, hx⟩ | ⟨row, hrow, hx⟩ | ⟨row, hrow, hx⟩ |
    ⟨row, hrow, hx⟩ | ⟨row, hrow, hx⟩ | ⟨row, hrow, hx⟩ | ⟨row, hrow, hx⟩ | ⟨row, hrow, hx⟩
  · unfold backingDependency at hx
    split_ifs at hx with hr
    · refine ⟨.checkpoint row, ?_, hr, (mem_depends hx).symm⟩
      simp [historyRecords, hrow]
    · simp at hx
  · unfold memberDependency at hx
    split at hx
    · simp at hx
    · rename_i directory hdir
      split_ifs at hx with hr
      · refine ⟨.checkpoint directory, ?_, hr, ?_⟩
        · simp [historyRecords, mem_of_indexed hdir]
        · rw [mem_depends hx]
          simp [HistoryRecord.key, HistoryRecord.kind, HistoryRecord.id, ← key_of_indexed hdir]
      · simp at hx
  · unfold originalDependency at hx
    split_ifs at hx with hr
    · split at hx
      · simp at hx
      · refine ⟨.localRevision row, ?_, hr.1, (mem_depends hx).symm⟩
        simp [historyRecords, hrow]
    · simp at hx
  · have hrow' := List.mem_filter.mp hrow
    refine ⟨.snapshot row, ?_, hrow'.2, (mem_depends hx).symm⟩
    simp [historyRecords, hrow'.1]
  · have hrow' := List.mem_filter.mp hrow
    obtain ⟨snapshot, hs, hid⟩ := List.mem_map.mp (of_decide_eq_true hrow'.2)
    have hs' := List.mem_filter.mp hs
    refine ⟨.snapshot snapshot, ?_, hs'.2, ?_⟩
    · simp [historyRecords, hs'.1]
    · rw [mem_depends hx, ← hid]
      rfl
  · unfold finalizationDependencies at hx
    split_ifs at hx with hr
    · have hc : d.consumer = ⟨.finalization, row.id⟩ := by
        rcases List.mem_append.mp hx with hx | hx <;> exact mem_depends hx
      refine ⟨.finalization row, ?_, hr, hc.symm⟩
      simp [historyRecords, hrow]
    · simp at hx
  · have hrow' := List.mem_filter.mp hrow
    have hc : d.consumer = ⟨.publication, row.id⟩ := by
      simp only [publicationDependencies, List.mem_append, or_assoc] at hx
      rcases hx with hx | hx | hx <;> exact mem_depends hx
    refine ⟨.publication row, ?_, hrow'.2, hc.symm⟩
    simp [historyRecords, hrow'.1]
  · have hrow' := List.mem_filter.mp hrow
    obtain ⟨publication, hs, hid⟩ := List.mem_map.mp (of_decide_eq_true hrow'.2)
    have hs' := List.mem_filter.mp hs
    refine ⟨.publication publication, ?_, hs'.2, ?_⟩
    · simp [historyRecords, hs'.1]
    · rw [mem_depends hx, ← hid]
      rfl
  · unfold migrationDependencies at hx
    split_ifs at hx with hr
    · have hc : d.consumer = ⟨.migration, row.id⟩ := by
        simp only [List.mem_append, or_assoc] at hx
        rcases hx with hx | hx | hx | hx | hx | hx <;> exact mem_depends hx
      refine ⟨.migration row, ?_, hr, hc.symm⟩
      simp [historyRecords, hrow]
    · simp at hx

/-! ### Waiting periods -/

/-- The wait of one record. A deadline alone permits no deletion. -/
structure HistoryRetention where
  key : RetentionKey
  reasons : Finset ProtectionReason
  archived : Bool
  releasedAt : Option ℤ
  expiresAt : Option ℤ
  deriving DecidableEq

section

variable (t : RetentionTables)

/-- A branch of an uninstalled skill, of an earlier installation or of a removed local skill. -/
def branchArchived (branch : AccountSkillState) : Except HistoryFailure Bool := do
  let gone ← match branch.installationId with
    | none => pure false
    | some installationId =>
      match indexed (·.id) t.installations installationId with
      | none => throw HistoryFailure.keyError
      | some item => pure (item.removed || item.epoch ≠ branch.installationEpoch)
  match gone, branch.localSkillId with
  | true, _ => return true
  | false, none => return false
  | false, some localSkillId =>
    match indexed (·.id) t.locals localSkillId with
    | none => throw .keyError
    | some source => return source.status = .removed

def archivedRevision (row : SkillRevision) : Except HistoryFailure Bool :=
  match indexed (·.id) t.installations row.installationId with
  | none => .error .keyError
  | some item => .ok item.removed

def archivedLocalRevision (row : AccountLocalSkillRevision) : Except HistoryFailure Bool :=
  match indexed (·.id) t.locals row.localSkillId with
  | none => .error .keyError
  | some source => .ok (source.status = .removed)

/-- `[row.id for row in rows if test(row)]` for a test that can fail. -/
def idsWhere {β : Type} (id : β → Text) (test : β → Except HistoryFailure Bool) (rows : List β) :
    Except HistoryFailure (List Text) := do
  let kept ← rows.filterM test
  return kept.map id

def archivedIdentities : Except HistoryFailure (List RetentionKey) := do
  let branches ← idsWhere (·.id) (branchArchived t) t.branches
  let directories := (t.members.filter (·.stateId ∈ branches)).map (·.directoryCheckpointId)
  let exposed := (t.snapshotItems.filter (·.stateId ∈ branches)).map (·.snapshotId)
  let snapshots := exposed ++ (t.snapshots.filter fun row =>
    row.startingCheckpointId.any (· ∈ directories)).map (·.id)
  let sessions := (t.snapshots.filter (·.id ∈ snapshots)).map (·.sessionReferenceId)
  let finalizations := (t.finalizations.filter (·.snapshotId ∈ snapshots)).map (·.id)
  let checkpoints := (t.checkpoints.filter fun row =>
    row.stateId.any (· ∈ branches) ∨ row.id ∈ directories ∨
      row.sourceSessionReferenceId.any (· ∈ sessions)).map (·.id)
  let revisions ← idsWhere (·.id) (archivedRevision t) t.revisions
  let localRevisions ← idsWhere (·.id) (archivedLocalRevision t) t.localRevisions
  let publications := (t.publications.filter (·.finalizationId ∈ finalizations)).map (·.id)
  let migrations := (t.migrations.filter fun row =>
    row.sourceStateId.any (· ∈ branches) ∨ row.targetStateId ∈ branches).map (·.id)
  return revisions.map (⟨.revision, ·⟩) ++ localRevisions.map (⟨.localRevision, ·⟩) ++
    checkpoints.map (⟨.checkpoint, ·⟩) ++ snapshots.map (⟨.snapshot, ·⟩) ++
    finalizations.map (⟨.finalization, ·⟩) ++ publications.map (⟨.publication, ·⟩) ++
    migrations.map (⟨.migration, ·⟩)

/-- Seconds of one day. -/
def dayLength : ℤ := 86400

def retentionOf (p : RetentionProtection) (policy : SkillStoragePolicy)
    (archived : List RetentionKey) (record : HistoryRecord) : HistoryRetention :=
  let days := if record.key ∈ archived then policy.archiveDays else policy.historyDays
  { key := record.key
    reasons := p.reasons record.key
    archived := record.key ∈ archived
    releasedAt := record.retentionReleasedAt
    expiresAt :=
      if p.reasons record.key = ∅ then
        record.retentionReleasedAt.map (· + days * dayLength)
      else none }

def historyRetention (p : RetentionProtection) (policy : SkillStoragePolicy) :
    Except HistoryFailure (List HistoryRetention) := do
  let archived ← archivedIdentities t
  return ((historyRecords t).insertionSort (·.key ≤ ·.key)).map (retentionOf p policy archived)

end

/-- Every record has its view, which repeats the reasons of the closure. -/
theorem historyRetention_view {t : RetentionTables} {p : RetentionProtection}
    {policy : SkillStoragePolicy} {histories : List HistoryRetention}
    (h : historyRetention t p policy = .ok histories) {key : RetentionKey} :
    (indexed (·.key) histories key = none ↔ ∀ record ∈ historyRecords t, record.key ≠ key) ∧
      ∀ view, indexed (·.key) histories key = some view → view.reasons = p.reasons key := by
  simp only [historyRetention, bind_eq_ok] at h
  obtain ⟨archived, -, h⟩ := h
  obtain rfl := Except.ok.inj h
  constructor
  · simp only [indexed, lookup_eq_none_iff, List.mem_reverse, List.mem_map,
      List.mem_insertionSort, forall_exists_index, and_imp, forall_apply_eq_imp_iff₂]
    rfl
  · intro view hv
    have hmem := mem_of_indexed hv
    obtain ⟨record, -, rfl⟩ := List.mem_map.mp hmem
    have hkey := key_of_indexed hv
    rw [← hkey]
    rfl

end AgentRemote
