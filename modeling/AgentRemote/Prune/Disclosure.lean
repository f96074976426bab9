import AgentRemote.Merge.Compaction
import AgentRemote.Prune.Values
import AgentRemote.Retention.Groups
import AgentRemote.Retention.Retirement

/-!
# What a prune discloses

The plan of a prune, its summary, and the rows that list every history, dependency, replaced
head and directory member of it. The rows of a carried out plan are those of its preview, with
the identities of the replacements filled in.
-/

namespace AgentRemote.Prune
open Library Rendering

/-! ### Plans -/

/-- The exact view of a protected branch. -/
structure CompactionHead where
  stateId : ℕ
  checkpointId : ℕ
  stateEpoch : ℕ
  treeDigest : Text
  backingDirectoryId : Option ℕ
  deriving DecidableEq

structure CompactionDirectory where
  checkpointId : ℕ
  directoryEpoch : Option ℕ
  treeDigest : Text
  members : List CompactionMember
  original : SkillTreeManifest
  result : SkillTreeManifest
  removed : List CompactionMember
  blocked : List CompactionMember
  deriving DecidableEq

structure CompactionPlan where
  heads : List CompactionHead
  directories : List CompactionDirectory
  deriving DecidableEq

namespace CompactionPlan

variable (plan : CompactionPlan)

/-- The directories that hold a head which another directory backs. -/
def consumersOf (directoryId : ℕ) : List ℕ :=
  (plan.heads.filter fun head => head.backingDirectoryId = some directoryId).flatMap fun head =>
    (plan.directories.filter fun directory =>
      directory.members.any fun member => member.checkpointId = head.checkpointId).map
        (·.checkpointId)

/-- `changed_directories`. -/
def changedDirectories : List ℕ :=
  let changed := (plan.directories.filter fun d => d.original ≠ d.result).map (·.checkpointId)
  explore plan.consumersOf (plan.directories.map (·.checkpointId)) changed changed

/-- A directory is changed by itself or because it holds a head of one that is. -/
lemma mem_changedDirectories {directoryId : ℕ} : directoryId ∈ plan.changedDirectories ↔
    ∃ d ∈ plan.directories, d.original ≠ d.result ∧
      Relation.ReflTransGen (Step plan.consumersOf) d.checkpointId directoryId := by
  have htargets : ∀ x, plan.consumersOf x ⊆ plan.directories.map (·.checkpointId) := by
    intro x y hy
    obtain ⟨head, -, hy⟩ := List.mem_flatMap.mp hy
    obtain ⟨d, hd, rfl⟩ := List.mem_map.mp hy
    exact List.mem_map_of_mem (List.mem_of_mem_filter hd)
  unfold changedDirectories
  rw [mem_explore_seeds htargets]
  constructor
  · rintro ⟨s, hs, hreach⟩
    obtain ⟨d, hd, rfl⟩ := List.mem_map.mp hs
    have hchanged := List.mem_filter.mp hd
    exact ⟨d, hchanged.1, by simpa using hchanged.2, hreach⟩
  · rintro ⟨d, hd, hne, hreach⟩
    refine ⟨d.checkpointId, List.mem_map_of_mem ?_, hreach⟩
    exact List.mem_filter.mpr ⟨hd, by simpa using hne⟩

end CompactionPlan

structure PruneScope where
  userId : Text
  accountId : Text
  sourceId : Option Text
  deriving DecidableEq

/-- The contents that a plan releases. -/
structure ContentReclamationPlan where
  requestedTrees : List RetentionKey
  blockers : List (RetentionKey × List Text)
  packageBytes : ℕ
  stateBytes : ℕ
  pendingFileBytes : ℕ
  deriving DecidableEq

def ContentReclamationPlan.ready (plan : ContentReclamationPlan) : Bool := plan.blockers.isEmpty

/-- What `build_prune` finds out. -/
structure PruneAnalysis where
  compaction : Option CompactionPlan
  candidates : Option HistoryRetirementPlan
  selection : HistoryGroups
  content : ContentReclamationPlan
  deriving DecidableEq

structure PrunePlan extends PruneAnalysis where
  scope : PruneScope
  cutoff : Datetime
  allUnreferenced : Bool
  deriving DecidableEq

/-- What a carried out plan did. -/
structure PruneResult where
  directoryReplacements : List (ℕ × ℕ)
  headReplacements : List (ℕ × ℕ)
  deletionIds : List Text

/-! ### Summaries -/

inductive SelectorScope where
  | item
  | accountDirectory
  deriving DecidableEq

structure SkillStateSelector where
  accountId : Text
  scope : SelectorScope
  skill : Option Text
  deriving DecidableEq

structure PruneBinding where
  selector : SkillStateSelector
  cutoff : Datetime
  allUnreferenced : Bool
  planDigest : Text

/-- `binding == other`. -/
def PruneBinding.equals (binding other : PruneBinding) : Bool :=
  binding.selector = other.selector ∧ datetimeEquals binding.cutoff other.cutoff ∧
    binding.allUnreferenced = other.allUnreferenced ∧ binding.planDigest = other.planDigest

structure PruneSummary where
  binding : PruneBinding
  ready : Bool
  historyLosses : ℕ
  groups : ℕ
  blockedHistories : ℕ
  compactedDirectories : ℕ
  compactedItems : ℕ
  trees : ℕ
  packageBytes : ℕ
  stateBytes : ℕ
  pendingFileBytes : ℕ

/-- The selector that names the scope by its stable identity. -/
def PruneScope.selector (scope : PruneScope) : SkillStateSelector where
  accountId := scope.accountId
  scope := if scope.sourceId.isSome then .item else .accountDirectory
  skill := scope.sourceId

/-- `changed_directories` of the compaction, if there is one. -/
def PrunePlan.changed (plan : PrunePlan) : List ℕ :=
  (plan.compaction.map (·.changedDirectories)).getD []

def isChanged (changed : List ℕ) (head : CompactionHead) : Bool :=
  head.backingDirectoryId.any (· ∈ changed)

/-- `summary`, where `digest` is the digest of the complete plan. -/
def summary (digest : PrunePlan → Text) (plan : PrunePlan) : PruneSummary where
  binding := ⟨plan.scope.selector, plan.cutoff, plan.allUnreferenced, digest plan⟩
  ready := plan.content.ready
  historyLosses := (plan.selection.groups.map List.length).sum
  groups := plan.selection.groups.length
  blockedHistories := plan.selection.blocked.length
  compactedDirectories := plan.changed.length
  compactedItems :=
    (plan.compaction.map fun compact => compact.heads.countP (isChanged plan.changed)).getD 0
  trees := plan.content.requestedTrees.length
  packageBytes := plan.content.packageBytes
  stateBytes := plan.content.stateBytes
  pendingFileBytes := plan.content.pendingFileBytes

/-! ### Rows -/

structure PruneHistoryRow where
  history : RetentionKey
  retained : Bool
  selected : Bool
  group : Option ℕ
  blockers : List RetirementBlocker
  dependencyBlocked : Bool
  protectedBy : List ProtectionReason
  releasedAt : Option ℤ
  expiresAt : Option ℤ
  archived : Bool
  contentDigests : List Text

structure PruneCompactionRow where
  scope : SelectorScope
  checkpointId : ℕ
  stateId : Option ℕ
  epoch : Option ℕ
  originalDigest : Text
  resultDigest : Text
  replacementId : Option ℕ

inductive MemberAction where
  | removed
  | blocked

structure PruneMemberRow where
  directoryId : ℕ
  checkpointId : ℕ
  stateId : ℕ
  name : Text
  action : MemberAction

inductive PruneDisclosure where
  | history (row : PruneHistoryRow)
  | dependency (row : HistoryDependency)
  | compaction (row : PruneCompactionRow)
  | member (row : PruneMemberRow)

/-- All reasons in the order of their names. -/
def sortedReasons : List ProtectionReason :=
  [.activeSnapshot, .currentBranch, .currentDirectory, .libraryDefault, .localOriginal,
    .migrationConflict, .pendingFinalization, .pendingOperation, .pendingTakeover, .pin,
    .publicationConflict, .uploadLease]

/-- The number of the group of a key, where the last group counts. -/
def groupNumber (groups : List (List RetentionKey)) (key : RetentionKey) : Option ℕ :=
  ((groups.zipIdx 1).reverse.find? fun group => key ∈ group.1).map Prod.snd

section

variable [Sha256] (plan : PrunePlan)

def historyRow (row : RetirementEntry) : PruneDisclosure :=
  let group := groupNumber plan.selection.groups row.key
  .history
    { history := row.key
      retained := row.retained
      selected := group.isSome
      group := group
      blockers := row.blockers
      dependencyBlocked := row.key ∈ plan.selection.blocked
      protectedBy := sortedReasons.filter fun reason => ∃ r ∈ row.retention, reason ∈ r.reasons
      releasedAt := row.retention.bind (·.releasedAt)
      expiresAt := row.retention.bind (·.expiresAt)
      archived := row.retention.any (·.archived)
      contentDigests := row.contentDigests }

def memberRow (directory : CompactionDirectory) (action : MemberAction)
    (member : CompactionMember) : PruneDisclosure :=
  .member ⟨directory.checkpointId, member.checkpointId, member.stateId, member.entryName, action⟩

/-- The digest that a directory has after its compaction. -/
def resultDigest (compact : CompactionPlan) (directoryId : ℕ) : Text :=
  ((compact.directories.reverse.find? fun d => d.checkpointId = directoryId).map
    fun d => manifestDigest d.result).getD []

/-- `dict(pairs).get(key)`. -/
def lookupLast (pairs : List (ℕ × ℕ)) (key : ℕ) : Option ℕ :=
  (pairs.reverse.find? fun pair => pair.1 = key).map Prod.snd

def directoryRows (compact : CompactionPlan) (replacements : List (ℕ × ℕ))
    (directory : CompactionDirectory) : List PruneDisclosure :=
  (if directory.checkpointId ∈ plan.changed then
    [.compaction ⟨.accountDirectory, directory.checkpointId, none, directory.directoryEpoch,
      directory.treeDigest, resultDigest compact directory.checkpointId,
      lookupLast replacements directory.checkpointId⟩]
  else []) ++
    directory.removed.map (memberRow directory .removed) ++
    directory.blocked.map (memberRow directory .blocked)

def headRow (compact : CompactionPlan) (replacements : List (ℕ × ℕ)) (head : CompactionHead) :
    Option PruneDisclosure :=
  if isChanged plan.changed head then
    some (.compaction ⟨.item, head.checkpointId, some head.stateId, some head.stateEpoch,
      head.treeDigest, (head.backingDirectoryId.map (resultDigest compact)).getD [],
      lookupLast replacements head.checkpointId⟩)
  else none

/-- `disclosures`: a preview has no result. -/
def disclosures (result : Option PruneResult) : List PruneDisclosure :=
  (match plan.candidates with
    | some candidates =>
      candidates.entries.map (historyRow plan) ++ candidates.dependencies.map .dependency
    | none => []) ++
  match plan.compaction with
  | some compact =>
    compact.directories.flatMap
      (directoryRows plan compact ((result.map (·.directoryReplacements)).getD [])) ++
    compact.heads.filterMap (headRow plan compact ((result.map (·.headReplacements)).getD []))
  | none => []

/-- A row without the identity of the replacement. -/
def PruneDisclosure.planned : PruneDisclosure → PruneDisclosure
  | .compaction row => .compaction { row with replacementId := none }
  | row => row

/-- Carrying out a plan only fills in the replacements. -/
lemma disclosures_planned (result : Option PruneResult) :
    (disclosures plan result).map PruneDisclosure.planned = disclosures plan none := by
  have hdirectory : ∀ compact replacements directory,
      (directoryRows plan compact replacements directory).map PruneDisclosure.planned =
        directoryRows plan compact [] directory := by
    intro compact replacements directory
    unfold directoryRows
    rw [List.map_append, List.map_append, List.map_map, List.map_map]
    congr 2
    split_ifs <;> rfl
  have hhead : ∀ compact replacements head,
      (headRow plan compact replacements head).map PruneDisclosure.planned =
        headRow plan compact [] head := by
    intro compact replacements head
    unfold headRow
    split_ifs <;> rfl
  unfold disclosures
  rw [List.map_append]
  congr 1
  · cases plan.candidates with
    | none => rfl
    | some candidates =>
      simp only [List.map_append, List.map_map]
      rfl
  · cases plan.compaction with
    | none => rfl
    | some compact =>
      simp only [List.map_append, List.map_flatMap, hdirectory, List.map_filterMap, hhead,
        Option.map_none, Option.getD_none]

end

end AgentRemote.Prune
