import AgentRemote.Storage.Uploads

/-!
# Reclamation

An owner reviews a plan that names the trees to drop and, for each shared file they touch,
what becomes of its object in each category. Applying a plan rebuilds it under the lock and
compares. A file whose objects are all released and which no live upload declares is marked
for deletion; otherwise only the accounting of the released category ends.
-/

namespace AgentRemote
open Library

/-- A live upload that declares a file, also when it reserved nothing for it. -/
@[ext] structure ContentUploadLease where
  id : Text
  category : StorageCategory
  expiresAt : ℤ
  deriving DecidableEq

/-- A retained history that still names a tree. -/
structure StoredTreeReference where
  table : String
  identity : List Text
  column : String
  accountId : Option Text
  deriving DecidableEq

/-- What the retention analysis says about one stored tree. -/
structure StoredTreeRetention where
  key : RetentionKey
  reasons : Finset ProtectionReason
  releasedAt : Option ℤ
  expiresAt : Option ℤ
  references : List StoredTreeReference
  deriving DecidableEq

structure ContentObjectRelease where
  key : RetentionKey
  size : ℕ
  contentKind : ContentKind
  status : ObjectStatus
  createdAt : ℤ
  treeKeys : List RetentionKey
  selected : Bool
  release : Bool
  deriving DecidableEq

/-- One shared file with its objects and its live uploads. -/
structure ContentBlobRelease where
  digest : Text
  objects : List ContentObjectRelease
  leases : List ContentUploadLease
  deriving DecidableEq

/-- The file goes when no category keeps it and no upload may still need it. -/
def ContentBlobRelease.deleteFile (blob : ContentBlobRelease) : Bool :=
  blob.objects ≠ [] ∧ (∀ row ∈ blob.objects, row.release) ∧ blob.leases = []

structure ContentReclamationPlan where
  requestedTrees : List RetentionKey
  requestedObjects : List RetentionKey
  allUnreferenced : Bool
  trees : List StoredTreeRetention
  blockers : List (RetentionKey × List String)
  blobs : List ContentBlobRelease
  deriving DecidableEq

def StorageCategory.label : StorageCategory → Text
  | .package => "package".toList
  | .state => "state".toList

def objectKind : StorageCategory → RetentionKind
  | .package => .packageObject
  | .state => .stateObject

def treeKind : StorageCategory → RetentionKind
  | .package => .packageTree
  | .state => .stateTree

def objectKey (c : StorageCategory) (digest : Text) : RetentionKey := ⟨objectKind c, digest⟩

def treeKey (c : StorageCategory) (digest : Text) : RetentionKey := ⟨treeKind c, digest⟩

def SkillContentObject.retentionKey (object : SkillContentObject) : RetentionKey :=
  objectKey object.category object.digest

namespace ContentReclamationPlan

def ready (plan : ContentReclamationPlan) : Bool := plan.blockers = []

/-- All released objects, file by file. -/
def released (plan : ContentReclamationPlan) : List ContentObjectRelease :=
  plan.blobs.flatMap fun blob => blob.objects.filter (·.release)

/-- `_released`, which `package_bytes` and `state_bytes` read. -/
def releasedBytes (plan : ContentReclamationPlan) (c : StorageCategory) : ℕ :=
  if plan.ready then
    ((plan.released.filter fun row => row.key.kind = objectKind c).map (·.size)).sum
  else 0

end ContentReclamationPlan

namespace ContentUploadLease

/-- The comparison key of the ordered dataclass. -/
def sortKey (lease : ContentUploadLease) : Text ×ₗ (Text ×ₗ ℤ) :=
  toLex (lease.id, toLex (lease.category.label, lease.expiresAt))

lemma sortKey_injective : Function.Injective sortKey := by
  intro a b h
  have h' : (a.id, toLex (a.category.label, a.expiresAt)) =
      (b.id, toLex (b.category.label, b.expiresAt)) := toLex.injective h
  simp only [Prod.mk.injEq, EmbeddingLike.apply_eq_iff_eq] at h'
  apply ContentUploadLease.ext h'.1 _ h'.2.2
  have hlabel := h'.2.1
  cases ha : a.category <;> cases hb : b.category <;> rw [ha, hb] at hlabel <;>
    first | rfl | exact absurd hlabel (by decide)

instance : LinearOrder ContentUploadLease := LinearOrder.lift' sortKey sortKey_injective

end ContentUploadLease

def maxReclamation : ℕ := 1000000

def scopeError : ContentFailure :=
  .contentError "INVALID_RECLAMATION_SCOPE" "invalid content reclamation scope"

/-- `requested_keys`: only trees or only objects, sorted and without repetition. -/
def requestedKeys (keys : List RetentionKey) (kindOf : StorageCategory → RetentionKind) :
    Except ContentFailure (List RetentionKey) := do
  reject (maxReclamation < keys.length ∨
      ∃ key ∈ keys, key.kind ≠ kindOf .package ∧ key.kind ≠ kindOf .state) scopeError
  return sortedSet keys

namespace ContentStore

section Plan

variable (db : ContentStore)

/-- `affected_objects`: what the selected trees refer to, each within its own category. -/
def affectedObjects (trees : List RetentionKey) : List RetentionKey :=
  (db.treeObjects.filter fun r => treeKey r.category r.treeDigest ∈ trees).map fun r =>
    objectKey r.category r.objectDigest

/-- `upload_leases` for one file. -/
def uploadLeases (references : List (Text × Text)) (now : ℤ) (digest : Text) :
    List ContentUploadLease :=
  let active := references.filterMap fun r =>
    if r.2 = digest then lookup SkillContentUpload.id (db.activeUploads now) r.1 else none
  (active.map fun u => ⟨u.id, category u.scope, u.expiresAt⟩).insertionSort (· ≤ ·)

/-- The trees that refer to an object. -/
def objectTrees (key : RetentionKey) : List RetentionKey :=
  sortedSet ((db.treeObjects.filter fun r => objectKey r.category r.objectDigest = key).map
    fun r => treeKey r.category r.treeDigest)

/-- Why a selected tree must stay. -/
def treeBlockers (view : StoredTreeRetention) (now : ℤ) (allUnreferenced : Bool) : List String :=
  (if view.reasons = ∅ then [] else ["protected"]) ++
    (if view.references = [] then [] else ["retained_history"]) ++
      if allUnreferenced then [] else
        match view.expiresAt with
        | none => ["unknown_clock"]
        | some expiresAt => if now < expiresAt then ["waiting"] else []

/-- The decision about one object. -/
def objectRelease (trees selected : List RetentionKey) (leases : List ContentUploadLease)
    (object : SkillContentObject) : ContentObjectRelease :=
  let key := object.retentionKey
  let treeKeys := db.objectTrees key
  { key := key, size := object.size, contentKind := object.contentKind, status := object.status,
    createdAt := object.createdAt, treeKeys := treeKeys, selected := key ∈ selected,
    release := key ∈ selected ∧ object.status = .available ∧ (∀ t ∈ treeKeys, t ∈ trees) ∧
      ∀ lease ∈ leases, lease.category ≠ object.category }

/-- The objects of one file must agree on its metadata. -/
def blobRelease (references : List (Text × Text)) (now : ℤ) (trees selected : List RetentionKey)
    (objects : List SkillContentObject) (digest : Text) :
    Except ContentFailure ContentBlobRelease := do
  let rows := objects.filter (·.digest = digest)
  reject ((rows.map fun o => (o.size, o.contentKind)).dedup.length ≠ 1)
    (ContentFailure.contentError "CONTENT_INVALID" "shared content metadata differs")
  let leases := db.uploadLeases references now digest
  return ⟨digest, (rows.map (db.objectRelease trees selected leases)).insertionSort
    (·.key ≤ ·.key), leases⟩

/-- `reclamation_plan`. -/
def reclamationPlan (references : List (Text × Text)) (views : List StoredTreeRetention)
    (objects : List SkillContentObject) (trees objectKeys : List RetentionKey) (now : ℤ)
    (allUnreferenced : Bool) : Except ContentFailure ContentReclamationPlan := do
  let selectedViews := trees.filterMap (lookup StoredTreeRetention.key views)
  reject (selectedViews.length ≠ trees.length)
    (ContentFailure.contentError "CONTENT_NOT_FOUND" "selected tree is not retained by this user")
  let selected := db.affectedObjects trees ++ objectKeys
  reject (∃ key ∈ selected, key ∉ objects.map (·.retentionKey))
    (ContentFailure.contentError "CONTENT_NOT_FOUND"
      "selected object is not retained by this user")
  let blocked := selectedViews.filterMap fun view =>
    let reasons := treeBlockers view now allUnreferenced
    if reasons = [] then none else some (view.key, reasons)
  let unavailable := (objects.filter (·.status ≠ .available)).map fun object =>
    (object.retentionKey, ["content_unavailable"])
  let blobs ← (sortedSet (objects.map (·.digest))).mapM
    (db.blobRelease references now trees selected objects)
  return ⟨trees, objectKeys, allUnreferenced, selectedViews,
    (blocked ++ unavailable).insertionSort (·.1 ≤ ·.1), blobs⟩

/-- `_plan` for keys that passed `requested_keys`. The views come from the analysis of the
user's references, which reads more tables than these. -/
def planReclamation (views : List StoredTreeRetention) (trees objectKeys : List RetentionKey)
    (now : ℤ) (allUnreferenced : Bool) : Except ContentFailure ContentReclamationPlan := do
  let trees ← requestedKeys trees treeKind
  let objectKeys ← requestedKeys objectKeys objectKind
  reject (maxReclamation < trees.length + objectKeys.length)
    (ContentFailure.valueError "content reclamation identity limit exceeded")
  reject db.usage.isNone
    (ContentFailure.contentError "CONTENT_NOT_FOUND" "user has no retained content")
  let references ← db.uploadReferences
  let selected := db.affectedObjects trees ++ objectKeys
  let objects := db.objects.filter fun o => o.digest ∈ selected.map (·.identity)
  db.reclamationPlan references views objects trees objectKeys now allUnreferenced

end Plan

/-! ### Applying a plan -/

/-- The rows of a file's objects that lose their accounting. -/
def releaseObject (deleteFile : Bool) (db : ContentStore) (row : ContentObjectRelease) :
    ContentStore :=
  { db with objects := db.objects.filterMap fun o =>
      if o.retentionKey ≠ row.key then some o
      else if deleteFile then some { o with status := .deleting } else none }

/-- The order to delete one file, under a fresh identity. -/
def addTask (db : ContentStore) (task : SkillContentDeletion) : Except ContentFailure ContentStore := do
  reject (task.id ∈ db.deletions.map (·.id) ∨
      ∃ t ∈ db.deletions, t.digest = task.digest ∧ t.status = .pending)
    (ContentFailure.valueError "skill_deletion_pending_uq")
  return { db with deletions := db.deletions ++ [task] }

def categoryMask (kinds : List RetentionKind) : ℕ :=
  (kinds.map fun kind => if kind = .packageObject then 1 else 2).sum

def newTask (taskId : Text → Text) (issuedAt : ℤ) (blob : ContentBlobRelease) :
    SkillContentDeletion :=
  { id := taskId blob.digest, digest := blob.digest, size := (blob.objects.map (·.size)).headD 0,
    categoryMask := categoryMask (blob.objects.map (·.key.kind)), nextAttemptAt := issuedAt }

def releaseBlob (taskId : Text → Text) (issuedAt : ℤ) (db : ContentStore)
    (blob : ContentBlobRelease) : Except ContentFailure ContentStore := do
  let db ← if blob.deleteFile then db.addTask (newTask taskId issuedAt blob) else pure db
  return (blob.objects.filter (·.release)).foldl (releaseObject blob.deleteFile) db

/-- Drops the selected trees and what they refer to. -/
def removeTrees (db : ContentStore) (trees : List RetentionKey) : ContentStore :=
  { db with
    trees := db.trees.filter fun t => treeKey t.category t.digest ∉ trees
    treeObjects := db.treeObjects.filter fun r => treeKey r.category r.treeDigest ∉ trees }

/-- `_release`. -/
def releasePlan (taskId : Text → Text) (issuedAt : ℤ) (db : ContentStore)
    (plan : ContentReclamationPlan) : Except ContentFailure ContentStore := do
  let package : ℤ := plan.releasedBytes .package
  let state : ℤ := plan.releasedBytes .state
  reject (db.counters.packageBytes < package ∨ db.counters.stateBytes < state)
    (ContentFailure.contentError "CONTENT_ACCOUNTING_INVALID" "content usage is inconsistent")
  let usage := (db.counters.addBytes (-package) .package).addBytes (-state) .state
  plan.blobs.foldlM (releaseBlob taskId issuedAt)
    ({ db with usage := some usage }.removeTrees plan.requestedTrees)

/-- `SkillContentReclamationService.apply`. -/
def applyReclamation (db : ContentStore) (views : List StoredTreeRetention) (now issuedAt : ℤ)
    (taskId : Text → Text) (expected : ContentReclamationPlan) (analysed : Bool) :
    Except ContentFailure ContentStore := do
  let (db, _) ← db.lockUsage.retentionMutation analysed do
    let actual ← db.lockUsage.planReclamation views expected.requestedTrees
      expected.requestedObjects now expected.allUnreferenced
    reject (actual ≠ expected)
      (ContentFailure.contentError "HEAD_CHANGED" "content reclamation preview has changed")
    reject (actual.ready = false)
      (ContentFailure.contentError "CONTENT_REFERENCED" "content reclamation plan has blockers")
    let after ← db.lockUsage.releasePlan taskId issuedAt actual
    return (after, ())
  return db

end ContentStore

end AgentRemote
