import AgentRemote.Storage.Reclamation

/-!
# Deletion tasks

A committed task is executed by a worker that checks it again under the user lock, removes
the file and then the rows of the file. The removal happens on disk between `claimTask` and
`completeTask` or `postponeTask`.
-/

namespace AgentRemote
open Library

inductive DeletionOutcome where
  | missing
  | notDue
  | pending
  | complete

namespace ContentStore

def task (db : ContentStore) (id : Text) : Option SkillContentDeletion :=
  lookup SkillContentDeletion.id db.deletions id

/-- All rows of a file, in both categories. -/
def fileObjects (db : ContentStore) (digest : Text) : List SkillContentObject :=
  db.objects.filter (·.digest = digest)

def updateTask (db : ContentStore) (task : SkillContentDeletion) : ContentStore :=
  { db with deletions := db.deletions.map fun t => if t.id = task.id then task else t }

/-- `_preflight`: the marks, the references and the live uploads must allow the removal.
`indexed` tells whether the rest of the reference index could be read. -/
def preflight (db : ContentStore) (task : SkillContentDeletion) (now : ℤ) (indexed : Bool) :
    Option String :=
  let rows := db.fileObjects task.digest
  if categoryMask (rows.map (·.retentionKey.kind)) ≠ task.categoryMask ∨
      ∃ row ∈ rows, row.status ≠ .deleting ∨ row.size ≠ task.size then
    some "deletion_marker_changed"
  else match db.uploadReferences with
    | .error _ => some "content_index_invalid"
    | .ok references =>
      if indexed = false then some "content_index_invalid"
      else if ∃ r ∈ db.treeObjects, r.objectDigest = task.digest then some "content_referenced"
      else if db.uploadLeases references now task.digest ≠ [] then some "content_upload_active"
      else none

/-- What the worker does with its task before it touches the disk. -/
inductive TaskClaim where
  | settled (outcome : DeletionOutcome)
  | refused (task : SkillContentDeletion) (error : String)
  | cleared (task : SkillContentDeletion)

/-- `process` up to the removal on disk. -/
def claimTask (db : ContentStore) (now : ℤ) (id : Text) (indexed : Bool) : TaskClaim :=
  match db.task id with
  | none => .settled .missing
  | some task =>
    if db.usage.isNone then .settled .pending
    else if task.status = .complete then .settled .complete
    else if now < task.nextAttemptAt then .settled .notDue
    else
      let task := { task with attempts := task.attempts + 1 }
      match db.preflight task now indexed with
      | some error => .refused task error
      | none => .cleared task

/-- Keeps a task for a later attempt. -/
def postponeTask (db : ContentStore) (task : SkillContentDeletion) (now : ℤ) (error : String) :
    ContentStore :=
  db.updateTask { task with
    lastErrorCode := some error
    nextAttemptAt := now + min 3600 (2 ^ min task.attempts 12) }

/-- The rows of a removed file go, and its task is done. -/
def completeTask (db : ContentStore) (task : SkillContentDeletion) (finishedAt : ℤ) :
    ContentStore :=
  { db with objects := db.objects.filter (·.digest ≠ task.digest) }.updateTask
    { task with status := .complete, completedAt := some finishedAt, lastErrorCode := none }

/-- `SkillContentDeletionWorker.process`; `removed` tells whether the disk action succeeded. -/
def processTask (db : ContentStore) (now finishedAt : ℤ) (id : Text) (indexed removed : Bool) :
    ContentStore × DeletionOutcome :=
  match db.claimTask now id indexed with
  | .settled outcome => (db, outcome)
  | .refused task error => (db.postponeTask task now error, .pending)
  | .cleared task =>
    if removed then (db.completeTask task finishedAt, .complete)
    else (db.postponeTask task now "content_io_error", .pending)

end ContentStore

end AgentRemote
