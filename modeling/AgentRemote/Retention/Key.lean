import AgentRemote.Text
import Mathlib.Data.Prod.Lex

/-!
# Identities of the retention analysis

A `RetentionKey` names one logical object of a user by its kind and its identity text.
Keys are ordered as the pair of the kind's label and the identity.
-/

namespace AgentRemote

inductive RetentionKind where
  | operation
  | directoryContext
  | branch
  | checkpoint
  | revision
  | localRevision
  | snapshot
  | finalization
  | publication
  | migration
  | migrationBaseline
  | takeover
  | upload
  | packageTree
  | stateTree
  | packageObject
  | stateObject
  | blob
  deriving DecidableEq

def RetentionKind.label : RetentionKind → Text
  | operation => "operation".toList
  | directoryContext => "directory_context".toList
  | branch => "branch".toList
  | checkpoint => "checkpoint".toList
  | revision => "revision".toList
  | localRevision => "local_revision".toList
  | snapshot => "snapshot".toList
  | finalization => "finalization".toList
  | publication => "publication".toList
  | migration => "migration".toList
  | migrationBaseline => "migration_baseline".toList
  | takeover => "takeover".toList
  | upload => "upload".toList
  | packageTree => "package_tree".toList
  | stateTree => "state_tree".toList
  | packageObject => "package_object".toList
  | stateObject => "state_object".toList
  | blob => "blob".toList

/-- Reads a kind back from its label. -/
def RetentionKind.ofLabel (label : Text) : Option RetentionKind :=
  [operation, directoryContext, branch, checkpoint, revision, localRevision, snapshot,
    finalization, publication, migration, migrationBaseline, takeover, upload, packageTree,
    stateTree, packageObject, stateObject, blob].find? (·.label = label)

lemma RetentionKind.ofLabel_label (k : RetentionKind) : ofLabel k.label = some k := by
  cases k <;> decide

lemma RetentionKind.label_injective : Function.Injective RetentionKind.label := by
  intro a b h
  have hab : some a = some b := by rw [← ofLabel_label, h, ofLabel_label]
  exact Option.some.inj hab

@[ext] structure RetentionKey where
  kind : RetentionKind
  identity : Text
  deriving DecidableEq

namespace RetentionKey

/-- The comparison key of the ordered dataclass. -/
def sortKey (k : RetentionKey) : Text ×ₗ Text := toLex (k.kind.label, k.identity)

lemma sortKey_injective : Function.Injective sortKey := by
  intro a b h
  have h' : (a.kind.label, a.identity) = (b.kind.label, b.identity) := toLex.injective h
  simp only [Prod.mk.injEq] at h'
  exact RetentionKey.ext (RetentionKind.label_injective h'.1) h'.2

instance : LinearOrder RetentionKey := LinearOrder.lift' sortKey sortKey_injective

end RetentionKey

/-- Why an object must be kept. -/
inductive ProtectionReason where
  | pendingOperation
  | libraryDefault
  | pin
  | currentBranch
  | localOriginal
  | activeSnapshot
  | pendingFinalization
  | publicationConflict
  | migrationConflict
  | pendingTakeover
  | uploadLease
  | currentDirectory
  deriving DecidableEq

/-- An obligation of a retained consumer to keep the exact input it was made from. -/
@[ext] structure HistoryDependency where
  consumer : RetentionKey
  dependency : RetentionKey
  relation : Text
  deriving DecidableEq

namespace HistoryDependency

def sortKey (d : HistoryDependency) : RetentionKey ×ₗ (RetentionKey ×ₗ Text) :=
  toLex (d.consumer, toLex (d.dependency, d.relation))

lemma sortKey_injective : Function.Injective sortKey := by
  intro a b h
  have h' : (a.consumer, toLex (a.dependency, a.relation)) =
      (b.consumer, toLex (b.dependency, b.relation)) := toLex.injective h
  simp only [Prod.mk.injEq, EmbeddingLike.apply_eq_iff_eq] at h'
  exact HistoryDependency.ext h'.1 h'.2.1 h'.2.2

instance : LinearOrder HistoryDependency := LinearOrder.lift' sortKey sortKey_injective

end HistoryDependency

/-- `tuple(sorted(set(..)))`: the distinct elements in increasing order. -/
def sortedSet {α : Type*} [LinearOrder α] (xs : List α) : List α :=
  xs.dedup.insertionSort (· ≤ ·)

@[simp] lemma mem_sortedSet {α : Type*} [LinearOrder α] {xs : List α} {x : α} :
    x ∈ sortedSet xs ↔ x ∈ xs := by
  simp [sortedSet]

lemma nodup_sortedSet {α : Type*} [LinearOrder α] (xs : List α) : (sortedSet xs).Nodup :=
  (List.perm_insertionSort (· ≤ ·) xs.dedup).nodup_iff.mpr xs.nodup_dedup

lemma sortedSet_eq_self {α : Type*} [LinearOrder α] {xs : List α} (hn : xs.Nodup)
    (hs : xs.Pairwise (· ≤ ·)) : sortedSet xs = xs := by
  rw [sortedSet, List.dedup_eq_self.mpr hn]
  exact hs.insertionSort_eq

lemma length_sortedSet_le {α : Type*} [LinearOrder α] (xs : List α) :
    (sortedSet xs).length ≤ xs.length := by
  rw [sortedSet, List.length_insertionSort]
  exact (List.dedup_sublist xs).length_le

lemma pairwise_sortedSet {α : Type*} [LinearOrder α] (xs : List α) :
    (sortedSet xs).Pairwise (· ≤ ·) :=
  List.pairwise_insertionSort (· ≤ ·) xs.dedup

end AgentRemote
