import AgentRemote.Manifest.Tree
import AgentRemote.Retention.Key

/-!
# Records of the content store

The rows of one user's content tables, the deployment's quotas and the queries the content
services ask. Byte counters are integers, so that a counter below zero could be seen.
-/

namespace AgentRemote
open Library

/-- The two errors a content service raises. -/
inductive ContentFailure where
  | valueError (message : String)
  | contentError (code message : String)

inductive ContentScope where
  | package
  | state
  | accountDirectory
  deriving DecidableEq

/-- The category whose quota a scope is charged to. -/
inductive StorageCategory where
  | package
  | state
  deriving DecidableEq

def category : ContentScope → StorageCategory
  | .package => .package
  | .state => .state
  | .accountDirectory => .state

structure SkillStoragePolicy where
  packageFileBytes : ℕ := 10 * 1024 ^ 2
  packageBytes : ℕ := 50 * 1024 ^ 2
  packageEntries : ℕ := 5000
  checkpointBytes : ℕ := 1024 ^ 3
  directoryBytes : ℕ := 10 * 1024 ^ 3
  stateEntries : ℕ := 100000
  userPackageBytes : ℕ := 2 * 1024 ^ 3
  userStagingBytes : ℕ := 2 * 1024 ^ 3
  userStateBytes : ℕ := 20 * 1024 ^ 3
  historyDays : ℕ := 30
  archiveDays : ℕ := 90
  stagingHours : ℕ := 24

namespace SkillStoragePolicy

/-- The quota of one category. -/
def quota (policy : SkillStoragePolicy) : StorageCategory → ℕ
  | .package => policy.userPackageBytes
  | .state => policy.userStateBytes

def validateManifest (policy : SkillStoragePolicy) (manifest : SkillTreeManifest)
    (scope : ContentScope) : Except ContentFailure Unit := do
  let (byteLimit, entryLimit) ← match scope with
    | .package => do
      reject (∃ e ∈ manifest.entries, e.kind = .runtimeLink)
        (ContentFailure.valueError "installation package cannot include runtime dependencies")
      reject (∃ e ∈ manifest.entries, policy.packageFileBytes < e.size)
        (ContentFailure.valueError "package file quota exceeded")
      pure (policy.packageBytes, policy.packageEntries)
    | .accountDirectory => pure (policy.directoryBytes, policy.stateEntries)
    | .state => pure (policy.checkpointBytes, policy.stateEntries)
  reject (byteLimit < totalBytes manifest.entries ∨ entryLimit < manifest.entries.length)
    (.valueError "skill tree quota exceeded")

end SkillStoragePolicy

structure SkillStorageUsage where
  packageBytes : ℤ := 0
  stateBytes : ℤ := 0
  packageReserved : ℤ := 0
  stateReserved : ℤ := 0

inductive ObjectStatus where
  | available
  | deleting
  deriving DecidableEq

/-- One file of one category. Both categories share the file on disk. -/
structure SkillContentObject where
  category : StorageCategory
  digest : Text
  size : ℕ
  contentKind : ContentKind
  status : ObjectStatus := .available
  createdAt : ℤ

/-- The primary key of an object within its user. -/
def SkillContentObject.key (object : SkillContentObject) : StorageCategory × Text :=
  (object.category, object.digest)

structure SkillStoredTree where
  category : StorageCategory
  digest : Text
  manifest : SkillTreeManifest
  totalBytes : ℕ

structure SkillTreeObjectReference where
  category : StorageCategory
  treeDigest : Text
  objectDigest : Text

inductive UploadStatus where
  | staged
  | committed
  | expired
  deriving DecidableEq

structure SkillContentUpload where
  id : Text
  idempotencyKey : Text
  scope : ContentScope
  treeDigest : Text
  manifest : SkillTreeManifest
  reservedBytes : ℕ
  status : UploadStatus
  expiresAt : ℤ
  objectIndexCount : ℕ

/-- A file that an upload declares. -/
structure SkillUploadObject where
  uploadId : Text
  digest : Text
  entry : SkillTreeEntry

inductive DeletionStatus where
  | pending
  | complete
  deriving DecidableEq

/-- A committed order to delete one shared file. -/
structure SkillContentDeletion where
  id : Text
  digest : Text
  size : ℕ
  categoryMask : ℕ
  status : DeletionStatus := .pending
  attempts : ℕ := 0
  nextAttemptAt : ℤ
  lastErrorCode : Option String := none
  completedAt : Option ℤ := none

/-- The content tables of one user. -/
structure ContentStore where
  usage : Option SkillStorageUsage := none
  objects : List SkillContentObject := []
  trees : List SkillStoredTree := []
  treeObjects : List SkillTreeObjectReference := []
  uploads : List SkillContentUpload := []
  uploadObjects : List SkillUploadObject := []
  deletions : List SkillContentDeletion := []

/-! ### Counters of one category -/

namespace SkillStorageUsage

def bytes (usage : SkillStorageUsage) : StorageCategory → ℤ
  | .package => usage.packageBytes
  | .state => usage.stateBytes

def reserved (usage : SkillStorageUsage) : StorageCategory → ℤ
  | .package => usage.packageReserved
  | .state => usage.stateReserved

def addBytes (usage : SkillStorageUsage) (amount : ℤ) : StorageCategory → SkillStorageUsage
  | .package => { usage with packageBytes := usage.packageBytes + amount }
  | .state => { usage with stateBytes := usage.stateBytes + amount }

/-- `_release`. -/
def release (usage : SkillStorageUsage) (amount : ℤ) : StorageCategory → SkillStorageUsage
  | .package => { usage with packageReserved := usage.packageReserved - amount }
  | .state => { usage with stateReserved := usage.stateReserved - amount }

/-- `_reserve`: a package is bound by the staging quota as well. -/
def reserve (usage : SkillStorageUsage) (policy : SkillStoragePolicy) (required : ℤ) :
    StorageCategory → Except ContentFailure SkillStorageUsage
  | .package => do
    let reserved := usage.packageReserved + required
    reject ((policy.userStagingBytes : ℤ) < reserved ∨
        (policy.userPackageBytes : ℤ) < usage.packageBytes + reserved)
      (ContentFailure.contentError "QUOTA_EXCEEDED" "package storage or upload quota exceeded")
    return { usage with packageReserved := reserved }
  | .state => do
    let reserved := usage.stateReserved + required
    reject ((policy.userStateBytes : ℤ) < usage.stateBytes + reserved)
      (ContentFailure.contentError "QUOTA_EXCEEDED" "runtime state storage quota exceeded")
    return { usage with stateReserved := reserved }

variable (usage : SkillStorageUsage) (amount : ℤ) (c c' : StorageCategory)

@[simp] lemma bytes_addBytes :
    (usage.addBytes amount c).bytes c' = usage.bytes c' + if c = c' then amount else 0 := by
  cases c <;> cases c' <;> simp [addBytes, bytes]

@[simp] lemma reserved_addBytes : (usage.addBytes amount c).reserved c' = usage.reserved c' := by
  cases c <;> cases c' <;> rfl

@[simp] lemma bytes_release : (usage.release amount c).bytes c' = usage.bytes c' := by
  cases c <;> cases c' <;> rfl

@[simp] lemma reserved_release :
    (usage.release amount c).reserved c' = usage.reserved c' - if c = c' then amount else 0 := by
  cases c <;> cases c' <;> simp [release, reserved]

/-- A granted reservation raises one counter and stays within its quota. -/
lemma reserve_eq_ok {usage usage' : SkillStorageUsage} {policy : SkillStoragePolicy} {required : ℤ}
    (h : usage.reserve policy required c = .ok usage') :
    (∀ c', usage'.bytes c' = usage.bytes c') ∧
      (∀ c', usage'.reserved c' = usage.reserved c' + if c = c' then required else 0) ∧
        usage'.bytes c + usage'.reserved c ≤ policy.quota c := by
  cases c <;> simp only [reserve, reject_bind_eq_ok, pure_eq_ok, Except.ok.injEq] at h <;>
    obtain ⟨hlimit, rfl⟩ := h
  · simp only [not_or, not_lt] at hlimit
    refine ⟨fun c' => ?_, fun c' => ?_, hlimit.2⟩ <;> cases c' <;> simp [bytes, reserved]
  · simp only [not_lt] at hlimit
    refine ⟨fun c' => ?_, fun c' => ?_, hlimit⟩ <;> cases c' <;> simp [bytes, reserved]

end SkillStorageUsage

/-! ### Queries -/

/-- `unique_files`: the files of a tree by digest. One digest has one size and one kind. -/
def addUniqueFile (files : List SkillTreeEntry) (entry : SkillTreeEntry) :
    Except ContentFailure (List SkillTreeEntry) := do
  if entry.kind ≠ .file then return files
  reject (∃ previous ∈ lookup SkillTreeEntry.sha256 files entry.sha256,
      (previous.size, previous.contentKind) ≠ (entry.size, entry.contentKind))
    (ContentFailure.contentError "CONTENT_METADATA_CONFLICT" "one digest has inconsistent metadata")
  return put SkillTreeEntry.sha256 files entry

def uniqueFiles (manifest : SkillTreeManifest) : Except ContentFailure (List SkillTreeEntry) :=
  manifest.entries.foldlM addUniqueFile []

/-- The digests of unique files. -/
abbrev digests (files : List SkillTreeEntry) : List Text := files.map (·.sha256)

namespace ContentStore

variable (db : ContentStore)

/-- The counters, all zero before the first write. -/
def counters : SkillStorageUsage := db.usage.getD {}

/-- `lock_usage`: creates the counters of a new user. -/
def lockUsage : ContentStore := { db with usage := some db.counters }

def upload (id : Text) : Option SkillContentUpload := lookup SkillContentUpload.id db.uploads id

def uploadByKey (key : Text) : Option SkillContentUpload :=
  lookup SkillContentUpload.idempotencyKey db.uploads key

def expiredUploads (now : ℤ) : List SkillContentUpload :=
  db.uploads.filter fun u => u.status = .staged ∧ u.expiresAt ≤ now

def activeUploads (now : ℤ) : List SkillContentUpload :=
  db.uploads.filter fun u => u.status = .staged ∧ now < u.expiresAt

def retainedDigests : List Text := db.objects.map (·.digest)

/-- The declared files of staged uploads, which must be as many as each upload recorded. -/
def uploadReferences : Except ContentFailure (List (Text × Text)) := do
  let staged := db.uploads.filter (·.status = .staged)
  let rows := db.uploadObjects.filter fun d => ∃ u ∈ staged, u.id = d.uploadId
  reject (∃ d ∈ rows, isDigest d.digest = false)
    (ContentFailure.valueError "invalid upload retention reference")
  reject (∃ u ∈ staged, (rows.filter (·.uploadId = u.id)).length ≠ u.objectIndexCount)
    (ContentFailure.valueError "incomplete upload retention index")
  return rows.map fun d => (d.uploadId, d.digest)

def object (c : StorageCategory) (digest : Text) : Option SkillContentObject :=
  lookup SkillContentObject.key db.objects (c, digest)

/-- `has_unavailable_objects`, in any category. -/
def hasUnavailableObjects (files : List Text) : Bool :=
  ∃ object ∈ db.objects, object.digest ∈ files ∧ object.status ≠ .available

def tree (c : StorageCategory) (digest : Text) : Option SkillStoredTree :=
  lookup (fun t : SkillStoredTree => (t.category, t.digest)) db.trees (c, digest)

/-- `require_available_files`. -/
def requireAvailableFiles (files : List Text) : Except ContentFailure Unit :=
  reject (db.hasUnavailableObjects files)
    (.contentError "CONTENT_UNAVAILABLE" "shared content is being retired")

/-- `_validate_stored` for the objects of one category. -/
def validateStored (c : StorageCategory) : List SkillTreeEntry → Except ContentFailure Unit
  | [] => .ok ()
  | entry :: rest => do
    match db.object c entry.sha256 with
    | none => pure ()
    | some object => do
      reject (object.status ≠ .available)
        (ContentFailure.contentError "CONTENT_UNAVAILABLE" "content is being retired")
      reject ((object.size, object.contentKind) ≠ (entry.size, entry.contentKind))
        (ContentFailure.contentError "CONTENT_METADATA_CONFLICT"
          "content metadata differs from stored object")
    validateStored c rest

/-- The files that have no object in the category. -/
def missingFiles (c : StorageCategory) (files : List SkillTreeEntry) : List SkillTreeEntry :=
  files.filter fun entry => (db.object c entry.sha256).isNone

/-- The bytes of the files that have no object in the category. -/
def missingBytes (c : StorageCategory) (files : List SkillTreeEntry) : ℕ :=
  totalBytes (db.missingFiles c files)

end ContentStore

end AgentRemote
