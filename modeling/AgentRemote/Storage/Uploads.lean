import AgentRemote.Storage.Records

/-!
# Uploads

The database side of an upload, from its reservation to its completion. Every operation
runs under the user lock and either returns the tables to commit or fails, in which case the
caller rolls back. The file actions that an operation needs are listed beside it.
-/

namespace AgentRemote
open Library

/-- What a collection of files without a live reference may remove: no protected file, an
expired one at any age and any other from before the cutoff. -/
structure CollectRequest where
  protectedDigests : List Text
  expiredDigests : List Text
  cutoff : ℤ

def invalidKeyError : ContentFailure :=
  .contentError "INVALID_IDEMPOTENCY_KEY" "invalid idempotency key"

/-- `str.isascii() and str.isprintable()` with the length bound of a key. -/
def isIdempotencyKey (key : Text) : Bool :=
  key ≠ [] ∧ key.length ≤ 128 ∧ key.all fun c => 0x20 ≤ c.toNat ∧ c.toNat ≤ 0x7e

/-- `_require_active`. -/
def requireActive (upload : SkillContentUpload) (now : ℤ) : Except ContentFailure Unit :=
  reject (upload.status ≠ .staged ∨ upload.expiresAt ≤ now)
    (.contentError "UPLOAD_NOT_ACTIVE" "upload is no longer active")

/-- Staging hours in the unit of the clock. -/
def stagingTime (policy : SkillStoragePolicy) : ℤ := policy.stagingHours * 3600

namespace ContentStore

/-- Removes the declarations of an upload. -/
def clearDeclarations (db : ContentStore) (id : Text) : ContentStore :=
  { db with uploadObjects := db.uploadObjects.filter (·.uploadId ≠ id) }

def updateUpload (db : ContentStore) (upload : SkillContentUpload) : ContentStore :=
  { db with uploads := db.uploads.map fun u => if u.id = upload.id then upload else u }

/-- Ends one expired lease and returns its reservation. -/
def expireUpload (db : ContentStore) (upload : SkillContentUpload) : ContentStore :=
  let db := { db with
    usage := some (db.counters.release upload.reservedBytes (category upload.scope)) }
  (db.clearDeclarations upload.id).updateUpload { upload with reservedBytes := 0, status := .expired }

/-- The database side of `_expire`. -/
def expire (db : ContentStore) (now : ℤ) : ContentStore :=
  (db.expiredUploads now).foldl expireUpload db

/-- The files of an upload; a stored manifest is always consistent. -/
def declaredDigests (upload : SkillContentUpload) : List Text :=
  match uniqueFiles upload.manifest with
  | .ok files => digests files
  | .error _ => []

/-- The file side of `_expire`. -/
def collectRequest (db : ContentStore) (policy : SkillStoragePolicy) (now : ℤ) : CollectRequest where
  protectedDigests := db.retainedDigests ++ (db.activeUploads now).flatMap declaredDigests
  expiredDigests := (db.expiredUploads now).flatMap declaredDigests
  cutoff := now - stagingTime policy

/-- The upload and its declarations, as a new lease writes them. -/
def addUpload (db : ContentStore) (upload : SkillContentUpload) (files : List SkillTreeEntry) :
    ContentStore :=
  { db with
    uploads := db.uploads ++ [upload]
    uploadObjects := db.uploadObjects ++ files.map fun e => ⟨upload.id, e.sha256, e⟩ }

/-- `begin` after `_expire`. The clock is read again for the end of the lease. -/
def beginLocked [Sha256] (db : ContentStore) (policy : SkillStoragePolicy) (issuedAt : ℤ)
    (id key : Text) (manifest : SkillTreeManifest) (scope : ContentScope)
    (files : List SkillTreeEntry) : Except ContentFailure (ContentStore × SkillContentUpload) := do
  let digest := manifestDigest manifest
  match db.uploadByKey key with
  | some existing => do
    reject (existing.treeDigest ≠ digest ∨ existing.scope ≠ scope)
      (ContentFailure.contentError "IDEMPOTENCY_CONFLICT" "key already belongs to another request")
    return (db, existing)
  | none => do
    let c := category scope
    db.requireAvailableFiles (digests files)
    db.validateStored c files
    let required := db.missingBytes c files
    let usage ← db.counters.reserve policy required c
    reject (db.upload id).isSome (ContentFailure.valueError "upload identity is taken")
    let upload : SkillContentUpload :=
      { id := id, idempotencyKey := key, scope := scope, treeDigest := digest,
        manifest := manifest, reservedBytes := required, status := .staged,
        expiresAt := issuedAt + stagingTime policy, objectIndexCount := files.length }
    return ({ db with usage := some usage }.addUpload upload files, upload)

/-- `SkillContentService.begin`. -/
def beginUpload [Sha256] (db : ContentStore) (policy : SkillStoragePolicy) (now issuedAt : ℤ)
    (id key : Text) (manifest : SkillTreeManifest) (scope : ContentScope) :
    Except ContentFailure (ContentStore × SkillContentUpload) := do
  reject (isIdempotencyKey key = false) invalidKeyError
  policy.validateManifest manifest scope
  let files ← uniqueFiles manifest
  (db.lockUsage.expire now).beginLocked policy issuedAt id key manifest scope files

/-- `inspect_upload` and `_require_upload`. -/
def requireUpload (db : ContentStore) (id : Text) : Except ContentFailure SkillContentUpload :=
  match db.upload id with
  | some upload => .ok upload
  | none => .error (.contentError "UPLOAD_NOT_FOUND" "upload not found")

/-- `SkillContentService.get`. -/
def getUpload (db : ContentStore) (now : ℤ) (id : Text) :
    Except ContentFailure (ContentStore × SkillContentUpload) := do
  let db := db.lockUsage.expire now
  let upload ← db.requireUpload id
  return (db, upload)

/-- The database side of `put_file`: the file to store, or nothing when it is stored. -/
def putFile (db : ContentStore) (now : ℤ) (id digest : Text) :
    Except ContentFailure (ContentStore × Option SkillTreeEntry) := do
  let db := db.lockUsage
  let upload ← db.requireUpload id
  requireActive upload now
  match db.uploadObjects.find? fun d => d.uploadId = id ∧ d.digest = digest with
  | none => throw (.contentError "CONTENT_NOT_DECLARED" "file is absent from upload manifest")
  | some declared => do
    reject (declared.entry.kind ≠ .file ∨ declared.entry.sha256 ≠ digest)
      (ContentFailure.contentError "CONTENT_INVALID" "upload declaration is invalid")
    db.requireAvailableFiles [digest]
    db.validateStored (category upload.scope) [declared.entry]
    if (db.object (category upload.scope) digest).isSome then return (db, none)
    return (db, some declared.entry)

/-- `retention_mutation`: a change of the tables between two analyses of the user's references.
The analyses read more tables than these; `analysed` tells whether they raise no error there. -/
def retentionMutation {α : Type} (db : ContentStore) (analysed : Bool)
    (body : Except ContentFailure (ContentStore × α)) : Except ContentFailure (ContentStore × α) := do
  reject (analysed = false) (ContentFailure.valueError "retention analysis failed")
  let _ ← db.uploadReferences
  let (after, result) ← body
  let _ ← after.uploadReferences
  return (after, result)

lemma retentionMutation_eq_ok {α : Type} {db : ContentStore} {analysed : Bool}
    {body : Except ContentFailure (ContentStore × α)} {r : ContentStore × α}
    (h : db.retentionMutation analysed body = .ok r) : body = .ok r := by
  rw [retentionMutation, reject_bind_eq_ok, bind_eq_ok] at h
  obtain ⟨-, _, -, h⟩ := h
  rw [bind_eq_ok] at h
  obtain ⟨r', hbody, h⟩ := h
  rw [bind_eq_ok] at h
  obtain ⟨_, -, h⟩ := h
  rw [hbody]
  exact h

/-- The object of a file that a completed upload registers. -/
def newObject (c : StorageCategory) (now : ℤ) (entry : SkillTreeEntry) : SkillContentObject :=
  ⟨c, entry.sha256, entry.size, entry.contentKind, .available, now⟩

/-- Registers the tree of an upload and its references, unless the tree is there already. -/
def registerTree (db : ContentStore) (c : StorageCategory) (upload : SkillContentUpload)
    (files : List SkillTreeEntry) : ContentStore :=
  if (db.tree c upload.treeDigest).isSome then db
  else { db with
    trees := db.trees ++
      [⟨c, upload.treeDigest, upload.manifest, totalBytes upload.manifest.entries⟩]
    treeObjects := db.treeObjects ++ files.map fun e => ⟨c, upload.treeDigest, e.sha256⟩ }

/-- The rows and counters that completing an upload writes. -/
def commitUpload (db : ContentStore) (now : ℤ) (upload : SkillContentUpload)
    (files : List SkillTreeEntry) : ContentStore :=
  let c := category upload.scope
  let added := db.missingBytes c files
  let db := { db with objects := db.objects ++ (db.missingFiles c files).map (newObject c now) }
  let db := db.registerTree c upload files
  let db := { db with
    usage := some ((db.counters.release upload.reservedBytes c).addBytes added c) }
  (db.clearDeclarations upload.id).updateUpload
    { upload with reservedBytes := 0, status := .committed }

/-- `_complete_active`, without the verification of the files on disk, which comes with the
files to verify. -/
def completeActive [Sha256] (db : ContentStore) (now : ℤ) (upload : SkillContentUpload) :
    Except ContentFailure (ContentStore × List SkillTreeEntry) := do
  requireActive upload now
  reject (manifestDigest upload.manifest ≠ upload.treeDigest)
    (ContentFailure.contentError "CONTENT_INVALID" "original upload manifest is invalid")
  let files ← uniqueFiles upload.manifest
  db.requireAvailableFiles (digests files)
  db.validateStored (category upload.scope) files
  return (db.commitUpload now upload files, files)

/-- A repeated completion returns the tree that is still retained. -/
def completeAgain (db : ContentStore) (upload : SkillContentUpload) :
    Except ContentFailure (ContentStore × List SkillTreeEntry) :=
  match db.tree (category upload.scope) upload.treeDigest with
  | none => .error (.contentError "CONTENT_EXPIRED" "committed tree is no longer retained")
  | some tree => do
    let files ← uniqueFiles tree.manifest
    db.requireAvailableFiles (digests files)
    return (db, [])

/-- `SkillContentService.complete`: the tables to commit once the files are verified. -/
def completeUpload [Sha256] (db : ContentStore) (now : ℤ) (id : Text) (analysed : Bool) :
    Except ContentFailure (ContentStore × List SkillTreeEntry) := do
  let db := db.lockUsage
  let upload ← db.requireUpload id
  if upload.status = .committed then db.completeAgain upload
  else db.retentionMutation analysed (db.completeActive now upload)

end ContentStore

end AgentRemote
