import AgentRemote.Storage.Disk

/-!
# No live content is deleted

While a task is pending all rows of its file are marked and nothing can become available
under its digest; once it is complete its receipt is on disk. A thread that found no receipt
therefore removes the file of a pending task, however late it runs, and every available
object keeps its file.
-/

namespace AgentRemote
open Library

/-! ### Tasks -/

/-- Two tasks that stand for the same order. -/
structure SameOrder (t t' : SkillContentDeletion) : Prop where
  id : t.id = t'.id
  digest : t.digest = t'.digest
  size : t.size = t'.size

lemma SameOrder.receipt {t t' : SkillContentDeletion} (h : SameOrder t t') :
    t.receipt = t'.receipt := by
  simp [SkillContentDeletion.receipt, h.id, h.digest, h.size]

namespace ContentStore

variable {db after : ContentStore} {task : SkillContentDeletion}

/-- The file of every pending task is marked in all categories that still have it. -/
structure Marked (db : ContentStore) (task : SkillContentDeletion) : Prop where
  exists_row : ∃ o ∈ db.objects, o.digest = task.digest
  deleting : ∀ o ∈ db.objects, o.digest = task.digest → o.status = .deleting

/-- The tables agree with themselves about deletions. -/
structure Consistent (db : ContentStore) : Prop where
  objectKeys : (db.objects.map (·.retentionKey)).Nodup
  tasks : TasksValid db.deletions
  marked : ∀ t ∈ db.deletions, t.status = .pending → db.Marked t

/-- Changes that leave objects and tasks alone. -/
structure SameContent (db after : ContentStore) : Prop where
  objects : after.objects = db.objects
  deletions : after.deletions = db.deletions

lemma SameContent.trans {db db' after : ContentStore} (h : SameContent db db')
    (h' : SameContent db' after) : SameContent db after :=
  ⟨h'.objects.trans h.objects, h'.deletions.trans h.deletions⟩

lemma Marked.of_objects {db after : ContentStore} {task : SkillContentDeletion} (h : db.Marked task)
    (hobjects : after.objects = db.objects) : after.Marked task :=
  ⟨hobjects ▸ h.exists_row, hobjects ▸ h.deleting⟩

/-- Every available object has its file. -/
def Stored (files : Text → Option ContentFile) (db : ContentStore) : Prop :=
  ∀ o ∈ db.objects, o.status = .available → (files o.digest).isSome

/-! ### Releasing a plan -/

section Release

variable {references : List (Text × Text)} {now issuedAt : ℤ} {plan : ContentReclamationPlan}
  {taskId : Text → Text}

/-- An object that is being deleted is not released again. -/
lemma not_released_of_deleting (hkeys : (db.objects.map (·.retentionKey)).Nodup)
    (hplanned : db.Planned references now plan) {o : SkillContentObject} (ho : o ∈ db.objects)
    (hdeleting : o.status = .deleting) : o.retentionKey ∉ plan.released.map (·.key) := by
  intro hreleased
  obtain ⟨row, hrow, hkey⟩ := List.mem_map.mp hreleased
  obtain ⟨o', ho', hkey', -, havailable, -⟩ := hplanned.released hrow
  obtain rfl : o' = o := eq_of_key_eq hkeys ho' ho (hkey'.trans hkey)
  rw [havailable] at hdeleting
  exact absurd hdeleting (by decide)

lemma mem_of_not_released {o : SkillContentObject} (ho : o ∈ db.objects)
    (hkept : o.retentionKey ∉ plan.released.map (·.key)) :
    o ∈ (db.releasedTables taskId issuedAt plan).objects := by
  rw [mem_released_iff, not_or] at hkept
  exact mem_settleObjects.mpr ⟨o, ho, hkept.1, (if_neg hkept.2).symm⟩

/-- The file of an older task stays marked. -/
lemma Marked.releasedTables {task : SkillContentDeletion} (h : db.Marked task)
    (hkeys : (db.objects.map (·.retentionKey)).Nodup)
    (hplanned : db.Planned references now plan) :
    (db.releasedTables taskId issuedAt plan).Marked task := by
  constructor
  · obtain ⟨o, ho, hdigest⟩ := h.exists_row
    have hkept := not_released_of_deleting hkeys hplanned ho (h.deleting o ho hdigest)
    exact ⟨o, mem_of_not_released ho hkept, hdigest⟩
  · intro o' ho' hdigest
    obtain ⟨o, ho, -, rfl⟩ := mem_settleObjects.mp ho'
    split_ifs at hdigest ⊢
    · rfl
    · exact h.deleting o ho hdigest

/-- The file of a new task is marked in every category. -/
lemma marked_newTask (hplanned : db.Planned references now plan) {blob : ContentBlobRelease}
    (hblob : blob ∈ plan.blobs) (hdelete : blob.deleteFile) :
    (db.releasedTables taskId issuedAt plan).Marked (newTask taskId issuedAt blob) := by
  have hrows : blob.objects ≠ [] ∧ (∀ row ∈ blob.objects, row.release) := by
    simp only [ContentBlobRelease.deleteFile, decide_eq_true_eq] at hdelete
    exact ⟨hdelete.1, hdelete.2.1⟩
  have hmarkedKeys : markedKeys blob = blob.objects.map (·.key) := by
    rw [markedKeys, if_pos hdelete, List.filter_eq_self.mpr hrows.2]
  have hmarked : ∀ o ∈ db.objects, o.digest = blob.digest →
      o.retentionKey ∈ plan.blobs.flatMap markedKeys := by
    intro o ho hdigest
    rw [List.mem_flatMap]
    exact ⟨blob, hblob, hmarkedKeys ▸ hplanned.complete blob hblob o ho hdigest⟩
  have hkept : ∀ o ∈ db.objects, o.digest = blob.digest →
      o.retentionKey ∉ plan.blobs.flatMap removedKeys := by
    intro o ho hdigest hremoved
    obtain ⟨blob', hblob', hkey⟩ := List.mem_flatMap.mp hremoved
    unfold removedKeys at hkey
    split_ifs at hkey with hdelete'
    · exact absurd hkey List.not_mem_nil
    · obtain ⟨row, hrow, hsame⟩ := List.mem_map.mp hkey
      obtain ⟨o', ho'⟩ := hplanned.describes blob' hblob' row (List.mem_of_mem_filter hrow)
      have hdigest' : blob'.digest = blob.digest := by
        rw [← ho'.digest, ← hdigest]
        exact congrArg RetentionKey.identity (ho'.key.trans hsame)
      exact hdelete' (eq_of_key_eq hplanned.digests hblob' hblob hdigest' ▸ hdelete)
  constructor
  · obtain ⟨row, hrow⟩ := List.exists_mem_of_ne_nil _ hrows.1
    obtain ⟨o, ho⟩ := hplanned.describes blob hblob row hrow
    refine ⟨{ o with status := .deleting }, ?_, ho.digest⟩
    exact mem_settleObjects.mpr ⟨o, ho.mem, hkept o ho.mem ho.digest,
      (if_pos (hmarked o ho.mem ho.digest)).symm⟩
  · intro o' ho' hdigest
    obtain ⟨o, ho, -, rfl⟩ := mem_settleObjects.mp ho'
    split_ifs at hdigest ⊢ with hm
    · rfl
    · exact absurd (hmarked o ho hdigest) hm

lemma Consistent.releasedTables (h : db.Consistent) (hplanned : db.Planned references now plan)
    (htasks : TasksValid (db.releasedTables taskId issuedAt plan).deletions) :
    (db.releasedTables taskId issuedAt plan).Consistent := by
  refine ⟨?_, htasks, ?_⟩
  · rw [ContentStore.releasedTables, map_retentionKey_settleObjects]
    exact h.objectKeys.filter _
  · intro t ht hpending
    rcases List.mem_append.mp ht with hold | hnew
    · exact (h.marked t hold hpending).releasedTables h.objectKeys hplanned
    · obtain ⟨blob, hblob, rfl⟩ := List.mem_map.mp hnew
      rw [List.mem_filter] at hblob
      exact marked_newTask hplanned hblob.1 hblob.2

lemma Stored.releasedTables {files : Text → Option ContentFile} (h : Stored files db) :
    Stored files (db.releasedTables taskId issuedAt plan) := by
  intro o' ho' havailable
  obtain ⟨o, ho, -, rfl⟩ := mem_settleObjects.mp ho'
  split_ifs at havailable ⊢
  exact h o ho havailable

end Release

/-! ### Ending a task -/

lemma mem_updateTask {t : SkillContentDeletion} (ht : t ∈ (db.updateTask task).deletions) :
    t = task ∨ t ∈ db.deletions ∧ t.id ≠ task.id := by
  obtain ⟨v, hv, rfl⟩ := List.mem_map.mp ht
  by_cases h : v.id = task.id
  · simp [h]
  · simp [h, hv]

/-- Rewriting a task that is still the same order, and pending only if it was. -/
lemma tasksValid_updateTask (h : TasksValid db.deletions) {old : SkillContentDeletion}
    (hold : old ∈ db.deletions) (hsame : SameOrder task old)
    (hpending : task.status = .pending → old.status = .pending) :
    TasksValid (db.updateTask task).deletions := by
  constructor
  · have hids : (db.updateTask task).deletions.map (·.id) = db.deletions.map (·.id) := by
      simp only [ContentStore.updateTask, List.map_map]
      apply List.map_congr_left
      intro t _
      simp only [Function.comp_apply]
      split_ifs with hid
      · exact hid.symm
      · rfl
    rw [hids]
    exact h.ids
  · intro t ht t' ht' hp hp' hdigest
    rcases mem_updateTask ht with rfl | ⟨hmem, -⟩ <;> rcases mem_updateTask ht' with rfl | ⟨hmem', -⟩
    · rfl
    · rw [hsame.id]
      exact h.pending old hold t' hmem' (hpending hp) hp' (hsame.digest ▸ hdigest)
    · rw [hsame.id]
      exact h.pending t hmem old hold hp (hpending hp') (hsame.digest ▸ hdigest)
    · exact h.pending t hmem t' hmem' hp hp' hdigest

lemma Consistent.postponeTask (h : db.Consistent) {old : SkillContentDeletion}
    (hold : old ∈ db.deletions) (hsame : SameOrder task old) (hpending : old.status = .pending)
    (now : ℤ) (error : String) : (db.postponeTask task now error).Consistent := by
  refine ⟨h.objectKeys, tasksValid_updateTask h.tasks hold ⟨hsame.id, hsame.digest, hsame.size⟩
    fun _ => hpending, ?_⟩
  intro t ht htpending
  rcases mem_updateTask ht with rfl | ⟨hmem, -⟩
  · have hmarked := h.marked old hold hpending
    constructor
    · obtain ⟨o, ho, hdigest⟩ := hmarked.exists_row
      exact ⟨o, ho, hdigest.trans hsame.digest.symm⟩
    · intro o ho hdigest
      exact hmarked.deleting o ho (Eq.trans hdigest hsame.digest)
  · exact (h.marked t hmem htpending).of_objects rfl

lemma Consistent.completeTask (h : db.Consistent) {old : SkillContentDeletion}
    (hold : old ∈ db.deletions) (hsame : SameOrder task old) (hpending : old.status = .pending)
    (finishedAt : ℤ) : (db.completeTask task finishedAt).Consistent := by
  refine ⟨h.objectKeys.sublist (List.filter_sublist.map _), tasksValid_updateTask h.tasks hold
    ⟨hsame.id, hsame.digest, hsame.size⟩ fun _ => hpending, ?_⟩
  · intro t ht htpending
    rcases mem_updateTask ht with rfl | ⟨hmem, hne⟩
    · exact absurd htpending (by simp)
    · have hdigest : t.digest ≠ task.digest := by
        intro he
        exact hne ((h.tasks.pending t hmem old hold htpending hpending
          (he.trans hsame.digest)).trans hsame.id.symm)
      have hmarked := h.marked t hmem htpending
      constructor
      · obtain ⟨o, ho, hd⟩ := hmarked.exists_row
        refine ⟨o, ?_, hd⟩
        rw [ContentStore.completeTask, ContentStore.updateTask, List.mem_filter, decide_eq_true_eq]
        exact ⟨ho, by rw [hd]; exact hdigest⟩
      · intro o ho hd
        exact hmarked.deleting o (List.mem_of_mem_filter ho) hd

end ContentStore

end AgentRemote
