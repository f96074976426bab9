import AgentRemote.Storage.Runs

/-!
# Content on disk

The tables, the private volume and everything that runs between them, step by step. A
request holds the user lock for its whole transaction, its work on disk included. A deletion
worker runs its disk action in a thread: when its connection is lost the transaction is
rolled back and the lock is free, but the thread goes on. Threads exclude each other by the
lock on the owner's directory and leave a receipt for a task they finished.
-/

namespace AgentRemote
open Library

/-- A published file, of which the collector reads the age and a deletion the length. -/
structure ContentFile where
  size : ℕ
  modifiedAt : ℤ

/-- The name of the receipt of a task. -/
structure Receipt where
  taskId : Text
  digest : Text
  size : ℕ
  deriving DecidableEq

def SkillContentDeletion.receipt (task : SkillContentDeletion) : Receipt :=
  ⟨task.id, task.digest, task.size⟩

/-- The private directory of one user. -/
structure Volume where
  files : Text → Option ContentFile
  receipts : Receipt → Bool

namespace Volume

def unlink (volume : Volume) (digest : Text) : Volume :=
  { volume with files := Function.update volume.files digest none }

/-- `publish` never replaces a file. -/
def publish (volume : Volume) (entry : SkillTreeEntry) (now : ℤ) : Volume :=
  match volume.files entry.sha256 with
  | some _ => volume
  | none => { volume with files := Function.update volume.files entry.sha256 (some ⟨entry.size, now⟩) }

def writeReceipt (volume : Volume) (receipt : Receipt) : Volume :=
  { volume with receipts := Function.update volume.receipts receipt true }

end Volume

/-- How far a thread has come in `delete_with_receipt`. -/
inductive DeletionStage where
  | waiting
  | locked
  | cleared
  | unlinked
  | done (removed : Bool)

/-- Between taking and leaving the lock on the owner's directory. -/
def DeletionStage.holdsLock : DeletionStage → Bool
  | .locked | .cleared | .unlinked => true
  | .waiting | .done _ => false

structure DeletionThread where
  task : SkillContentDeletion
  stage : DeletionStage

/-- The transaction that holds the user lock, with the tables it is going to commit. -/
inductive UserSession where
  | collecting (request : CollectRequest) (outcome : Except ContentFailure ContentStore)
  | storing (entry : SkillTreeEntry) (after : ContentStore)
  | verifying (remaining : List SkillTreeEntry) (after : ContentStore)
  | ready (after : ContentStore)
  | deleting (task : SkillContentDeletion) (now : ℤ) (thread : ℕ)

/-- Everything there is of one user. -/
structure ContentSystem where
  db : ContentStore := {}
  volume : Volume
  session : Option UserSession := none
  threads : ℕ → Option DeletionThread := fun _ => none
  fileLock : Option ℕ := none

namespace ContentSystem

/-- A new transaction takes the user lock. -/
def start (s : ContentSystem) (session : UserSession) : ContentSystem :=
  { s with session := some session }

def commit (s : ContentSystem) (after : ContentStore) : ContentSystem :=
  { s with db := after, session := none }

def rollback (s : ContentSystem) : ContentSystem := { s with session := none }

def setThread (s : ContentSystem) (i : ℕ) (thread : Option DeletionThread) : ContentSystem :=
  { s with threads := Function.update s.threads i thread }

/-- A thread leaves the lock on the owner's directory. -/
def leaveLock (s : ContentSystem) (i : ℕ) : ContentSystem :=
  { s with fileLock := if s.fileLock = some i then none else s.fileLock }

/-- The transaction of a worker that died is gone with it. -/
def dropSession (s : ContentSystem) (i : ℕ) : ContentSystem :=
  match s.session with
  | some (.deleting _ _ j) => if i = j then s.rollback else s
  | _ => s

section

variable (s : ContentSystem) (i : ℕ) (thread : Option DeletionThread)

@[simp] lemma db_setThread : (s.setThread i thread).db = s.db := rfl

@[simp] lemma volume_setThread : (s.setThread i thread).volume = s.volume := rfl

@[simp] lemma fileLock_setThread : (s.setThread i thread).fileLock = s.fileLock := rfl

@[simp] lemma db_leaveLock : (s.leaveLock i).db = s.db := rfl

@[simp] lemma volume_leaveLock : (s.leaveLock i).volume = s.volume := rfl

@[simp] lemma session_leaveLock : (s.leaveLock i).session = s.session := rfl

@[simp] lemma threads_leaveLock : (s.leaveLock i).threads = s.threads := rfl

/-- Another thread keeps the lock on the owner's directory. -/
lemma fileLock_leaveLock {s : ContentSystem} {i j : ℕ} (hne : j ≠ i) (h : s.fileLock = some j) :
    (s.leaveLock i).fileLock = some j := by
  rw [leaveLock, h]
  exact if_neg fun he => hne (Option.some.inj he)

@[simp] lemma db_dropSession : (s.dropSession i).db = s.db := by
  unfold dropSession
  split
  · split_ifs <;> rfl
  · rfl

@[simp] lemma volume_dropSession : (s.dropSession i).volume = s.volume := by
  unfold dropSession
  split
  · split_ifs <;> rfl
  · rfl

@[simp] lemma threads_dropSession : (s.dropSession i).threads = s.threads := by
  unfold dropSession
  split
  · split_ifs <;> rfl
  · rfl

@[simp] lemma fileLock_dropSession : (s.dropSession i).fileLock = s.fileLock := by
  unfold dropSession
  split
  · split_ifs <;> rfl
  · rfl

/-- What survives the death of a worker is the transaction of another. -/
lemma session_dropSession {s : ContentSystem} {i : ℕ} {session : UserSession}
    (h : session ∈ (s.dropSession i).session) :
    session ∈ s.session ∧ ∀ task now j, session = .deleting task now j → j ≠ i := by
  unfold dropSession at h
  split at h
  · rename_i task now j hsession
    split_ifs at h with hij
    · exact absurd h (by simp [rollback])
    · refine ⟨h, ?_⟩
      rintro task' now' j' rfl he
      rw [hsession] at h
      obtain ⟨-, -, rfl⟩ := UserSession.deleting.inj (Option.some.inj h)
      exact hij he.symm
  · rename_i hother
    refine ⟨h, ?_⟩
    rintro task now j rfl
    exact absurd h (hother task now j)

/-- A thread of the new state is the one that was set or an old one. -/
lemma threads_setThread {s : ContentSystem} {i j : ℕ} {thread : Option DeletionThread}
    {found : DeletionThread} (h : (s.setThread i thread).threads j = some found) :
    j = i ∧ thread = some found ∨ j ≠ i ∧ s.threads j = some found := by
  have hupdate : Function.update s.threads i thread j = some found := h
  by_cases hj : j = i
  · left
    rw [hj, Function.update_self] at hupdate
    exact ⟨hj, hupdate⟩
  · right
    rw [Function.update_of_ne hj] at hupdate
    exact ⟨hj, hupdate⟩

end

/-! ### Steps -/

/-- A request takes the user lock. -/
inductive Request [Sha256] (policy : SkillStoragePolicy) : ContentSystem → ContentSystem → Prop
  | begin {s : ContentSystem} (now issuedAt : ℤ) (id key : Text) (manifest : SkillTreeManifest)
    (scope : ContentScope) (files : List SkillTreeEntry) (hfree : s.session = none)
    (hkey : isIdempotencyKey key) (hvalid : policy.validateManifest manifest scope = .ok ())
    (hfiles : uniqueFiles manifest = .ok files) :
    Request policy s (s.start (.collecting (s.db.lockUsage.collectRequest policy now)
      (((s.db.lockUsage.expire now).beginLocked policy issuedAt id key manifest scope files).map
        Prod.fst)))
  | get {s : ContentSystem} (now : ℤ) (id : Text) (hfree : s.session = none) :
    Request policy s (s.start (.collecting (s.db.lockUsage.collectRequest policy now)
      ((s.db.getUpload now id).map Prod.fst)))
  | putFile {s : ContentSystem} (now : ℤ) (id digest : Text) (entry : Option SkillTreeEntry)
    (after : ContentStore) (hfree : s.session = none)
    (hput : s.db.putFile now id digest = .ok (after, entry)) :
    Request policy s (s.start (entry.elim (.ready after) (.storing · after)))
  | complete {s : ContentSystem} (now : ℤ) (id : Text) (analysed : Bool)
    (files : List SkillTreeEntry) (after : ContentStore) (hfree : s.session = none)
    (hcomplete : s.db.completeUpload now id analysed = .ok (after, files)) :
    Request policy s (s.start (.verifying files after))
  | apply {s : ContentSystem} (views : List StoredTreeRetention) (now issuedAt : ℤ)
    (taskId : Text → Text) (expected : ContentReclamationPlan) (analysed : Bool)
    (after : ContentStore) (hfree : s.session = none)
    (happly : s.db.applyReclamation views now issuedAt taskId expected analysed = .ok after) :
    Request policy s (s.start (.ready after))
  | refuse {s : ContentSystem} (now : ℤ) (id : Text) (indexed : Bool)
    (task : SkillContentDeletion) (error : String) (hfree : s.session = none)
    (hclaim : s.db.claimTask now id indexed = .refused task error) :
    Request policy s (s.start (.ready (s.db.postponeTask task now error)))
  | process {s : ContentSystem} (now : ℤ) (id : Text) (indexed : Bool)
    (task : SkillContentDeletion) (i : ℕ) (hfree : s.session = none)
    (hclaim : s.db.claimTask now id indexed = .cleared task) (hnew : s.threads i = none) :
    Request policy s ((s.start (.deleting task now i)).setThread i (some ⟨task, .waiting⟩))

/-- The transaction that holds the user lock goes on. -/
inductive SessionStep : ContentSystem → ContentSystem → Prop
  | collect {s : ContentSystem} (request : CollectRequest)
    (outcome : Except ContentFailure ContentStore) (digest : Text) (file : ContentFile)
    (hsession : s.session = some (.collecting request outcome))
    (hfile : s.volume.files digest = some file) (hunprotected : digest ∉ request.protectedDigests)
    (hold : digest ∈ request.expiredDigests ∨ file.modifiedAt ≤ request.cutoff) :
    SessionStep s { s with volume := s.volume.unlink digest }
  | collected {s : ContentSystem} (request : CollectRequest) (after : ContentStore)
    (hsession : s.session = some (.collecting request (.ok after))) :
    SessionStep s (s.start (.ready after))
  | store {s : ContentSystem} (entry : SkillTreeEntry) (after : ContentStore) (now : ℤ)
    (hsession : s.session = some (.storing entry after)) :
    SessionStep s ({ s with volume := s.volume.publish entry now }.start (.ready after))
  | verify {s : ContentSystem} (entry : SkillTreeEntry) (remaining : List SkillTreeEntry)
    (after : ContentStore) (file : ContentFile)
    (hsession : s.session = some (.verifying (entry :: remaining) after))
    (hfile : s.volume.files entry.sha256 = some file) (hsize : file.size = entry.size) :
    SessionStep s (s.start (.verifying remaining after))
  | verified {s : ContentSystem} (after : ContentStore)
    (hsession : s.session = some (.verifying [] after)) : SessionStep s (s.start (.ready after))
  | commit {s : ContentSystem} (after : ContentStore)
    (hsession : s.session = some (.ready after)) : SessionStep s (s.commit after)
  | complete {s : ContentSystem} (task thread : SkillContentDeletion) (now finishedAt : ℤ) (i : ℕ)
    (hsession : s.session = some (.deleting task now i))
    (hthread : s.threads i = some ⟨thread, .done true⟩) :
    SessionStep s ((s.commit (s.db.completeTask task finishedAt)).setThread i none)
  | postpone {s : ContentSystem} (task thread : SkillContentDeletion) (now : ℤ) (i : ℕ)
    (hsession : s.session = some (.deleting task now i))
    (hthread : s.threads i = some ⟨thread, .done false⟩) :
    SessionStep s ((s.commit (s.db.postponeTask task now "content_io_error")).setThread i none)
  /- An error, a cancellation or a lost connection; the thread of a worker goes on. -/
  | rollback {s : ContentSystem} : SessionStep s s.rollback

/-- A thread goes on in `delete_with_receipt`, whether its transaction still lives or not. -/
inductive ThreadStep : ContentSystem → ContentSystem → Prop
  | lock {s : ContentSystem} (i : ℕ) (task : SkillContentDeletion)
    (hthread : s.threads i = some ⟨task, .waiting⟩) (hfree : s.fileLock = none) :
    ThreadStep s ({ s with fileLock := some i }.setThread i (some ⟨task, .locked⟩))
  | finished {s : ContentSystem} (i : ℕ) (task : SkillContentDeletion)
    (hthread : s.threads i = some ⟨task, .locked⟩) (hreceipt : s.volume.receipts task.receipt) :
    ThreadStep s ((s.leaveLock i).setThread i (some ⟨task, .done true⟩))
  | clear {s : ContentSystem} (i : ℕ) (task : SkillContentDeletion)
    (hthread : s.threads i = some ⟨task, .locked⟩)
    (hreceipt : s.volume.receipts task.receipt = false) :
    ThreadStep s (s.setThread i (some ⟨task, .cleared⟩))
  | unlink {s : ContentSystem} (i : ℕ) (task : SkillContentDeletion)
    (hthread : s.threads i = some ⟨task, .cleared⟩)
    (hsize : ∀ file ∈ s.volume.files task.digest, file.size = task.size) :
    ThreadStep s ({ s with volume := s.volume.unlink task.digest }.setThread i
      (some ⟨task, .unlinked⟩))
  | receipt {s : ContentSystem} (i : ℕ) (task : SkillContentDeletion)
    (hthread : s.threads i = some ⟨task, .unlinked⟩) :
    ThreadStep s (({ s with volume := s.volume.writeReceipt task.receipt }.leaveLock i).setThread i
      (some ⟨task, .done true⟩))
  /- A length that differs, or any error of the volume. -/
  | fail {s : ContentSystem} (i : ℕ) (thread : DeletionThread) (hthread : s.threads i = some thread)
    (hrunning : ∀ removed, thread.stage ≠ .done removed) :
    ThreadStep s ((s.leaveLock i).setThread i (some ⟨thread.task, .done false⟩))
  /- The worker dies, which frees both of its locks. -/
  | die {s : ContentSystem} (i : ℕ) :
    ThreadStep s (((s.dropSession i).leaveLock i).setThread i none)

inductive Step [Sha256] (policy : SkillStoragePolicy) (s s' : ContentSystem) : Prop
  | request (h : Request policy s s')
  | session (h : SessionStep s s')
  | thread (h : ThreadStep s s')

end ContentSystem

end AgentRemote
