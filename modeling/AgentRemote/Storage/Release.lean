import AgentRemote.Storage.Deletion

/-!
# What a reclamation changes

Every released row of a plan is an available object of its category that no live upload of
that category declares, each object is released at most once, and a file whose deletion is
ordered has all of its objects marked. Applying the plan removes or marks exactly these.
-/

namespace AgentRemote
open Library

/-! ### Keys -/

lemma objectKind_injective : Function.Injective objectKind := by
  intro c c' h
  cases c <;> cases c' <;> first | rfl | exact absurd h (by decide)

lemma objectKey_inj {c c' : StorageCategory} {d d' : Text} :
    objectKey c d = objectKey c' d' ↔ c = c' ∧ d = d' := by
  simp [objectKey, objectKind_injective.eq_iff]

lemma SkillContentObject.retentionKey_eq_iff {o : SkillContentObject} {c : StorageCategory}
    {d : Text} : o.retentionKey = objectKey c d ↔ o.category = c ∧ o.digest = d :=
  objectKey_inj

/-- Tasks differ in identity, and no file has two pending ones. -/
structure TasksValid (tasks : List SkillContentDeletion) : Prop where
  ids : (tasks.map (·.id)).Nodup
  pending : ∀ t ∈ tasks, ∀ t' ∈ tasks, t.status = .pending → t'.status = .pending →
    t.digest = t'.digest → t.id = t'.id

namespace ContentStore

variable {db : ContentStore} {references : List (Text × Text)} {now : ℤ}

lemma object_isSome_iff {c : StorageCategory} {d : Text} :
    (db.object c d).isSome ↔ ∃ o ∈ db.objects, o.retentionKey = objectKey c d := by
  simp [object, lookup_isSome_iff, SkillContentObject.key, SkillContentObject.retentionKey_eq_iff]

/-! ### Leases -/

/-- Every declaration of a staged upload is a reference. -/
lemma reference_mem (h : db.uploadReferences = .ok references) {u : SkillContentUpload}
    (hu : u ∈ db.uploads) (hstaged : u.status = .staged) {row : SkillUploadObject}
    (hrow : row ∈ db.uploadObjects) (hid : row.uploadId = u.id) :
    (u.id, row.digest) ∈ references := by
  rw [uploadReferences, reject_bind_eq_ok, reject_bind_eq_ok] at h
  obtain rfl := Except.ok.inj h.2.2
  rw [List.mem_map]
  refine ⟨row, ?_, by rw [hid]⟩
  simp only [List.mem_filter, decide_eq_true_eq]
  exact ⟨hrow, u, ⟨hu, hstaged⟩, hid.symm⟩

/-- A live upload has a lease on each file it declares. -/
lemma lease_mem (hids : (db.uploads.map (·.id)).Nodup)
    (h : db.uploadReferences = .ok references) {u : SkillContentUpload} (hu : u ∈ db.uploads)
    (hstaged : u.status = .staged) (hlive : now < u.expiresAt) {row : SkillUploadObject}
    (hrow : row ∈ db.uploadObjects) (hid : row.uploadId = u.id) :
    ⟨u.id, category u.scope, u.expiresAt⟩ ∈ db.uploadLeases references now row.digest := by
  have hactive : u ∈ db.activeUploads now := by
    simp [activeUploads, hu, hstaged, hlive]
  have hnodup : ((db.activeUploads now).map (·.id)).Nodup :=
    hids.sublist (List.filter_sublist.map _)
  simp only [uploadLeases, List.mem_insertionSort, List.mem_map, List.mem_filterMap]
  refine ⟨u, ⟨(u.id, row.digest), reference_mem h hu hstaged hrow hid, ?_⟩, rfl⟩
  rw [if_pos rfl]
  exact lookup_of_mem hnodup hactive

/-! ### The rows of a plan -/

/-- The object a plan's row speaks of. -/
structure Describes (db : ContentStore) (references : List (Text × Text)) (now : ℤ)
    (blob : ContentBlobRelease) (row : ContentObjectRelease) (o : SkillContentObject) : Prop where
  mem : o ∈ db.objects
  key : o.retentionKey = row.key
  digest : o.digest = blob.digest
  size : o.size = row.size
  available : row.release → o.status = .available
  unleased : row.release →
    ∀ lease ∈ db.uploadLeases references now o.digest, lease.category ≠ o.category

variable {trees selected : List RetentionKey} {objects : List SkillContentObject} {digest : Text}
  {blob : ContentBlobRelease}

lemma blobRelease_eq_ok
    (h : db.blobRelease references now trees selected objects digest = .ok blob) :
    blob.digest = digest ∧ blob.leases = db.uploadLeases references now digest ∧
      blob.objects.Perm ((objects.filter (·.digest = digest)).map
        (db.objectRelease trees selected (db.uploadLeases references now digest))) := by
  rw [blobRelease, reject_bind_eq_ok] at h
  obtain rfl := Except.ok.inj h.2
  exact ⟨rfl, rfl, List.perm_insertionSort _ _⟩

/-- The rows of a file are its objects. -/
lemma blobRelease_describes
    (h : db.blobRelease references now trees selected objects digest = .ok blob)
    (hobjects : objects ⊆ db.objects) {row : ContentObjectRelease} (hrow : row ∈ blob.objects) :
    ∃ o, db.Describes references now blob row o := by
  obtain ⟨hdigest, -, hperm⟩ := blobRelease_eq_ok h
  rw [hperm.mem_iff, List.mem_map] at hrow
  obtain ⟨o, ho, rfl⟩ := hrow
  simp only [List.mem_filter, decide_eq_true_eq] at ho
  refine ⟨o, hobjects ho.1, rfl, ho.2.trans hdigest.symm, rfl, ?_, ?_⟩
  · intro hrelease
    simp only [objectRelease, decide_eq_true_eq] at hrelease
    exact hrelease.2.1
  · intro hrelease
    simp only [objectRelease, decide_eq_true_eq] at hrelease
    rw [ho.2]
    exact hrelease.2.2.2

/-- A plan made from the tables: its files differ, and the rows of a file are all of the
file's objects, once each. -/
structure Planned (db : ContentStore) (references : List (Text × Text)) (now : ℤ)
    (plan : ContentReclamationPlan) : Prop where
  digests : (plan.blobs.map (·.digest)).Nodup
  keys : ∀ blob ∈ plan.blobs, (blob.objects.map (·.key)).Nodup
  describes : ∀ blob ∈ plan.blobs, ∀ row ∈ blob.objects, ∃ o,
    db.Describes references now blob row o
  complete : ∀ blob ∈ plan.blobs, ∀ o ∈ db.objects, o.digest = blob.digest →
    o.retentionKey ∈ blob.objects.map (·.key)

lemma mapM_blobRelease_planned {digests : List Text} {blobs : List ContentBlobRelease}
    (h : digests.mapM (db.blobRelease references now trees selected objects) = .ok blobs) :
    blobs.map (·.digest) = digests ∧
      ∀ blob ∈ blobs, db.blobRelease references now trees selected objects blob.digest = .ok blob := by
  have hall := mapM_eq_ok h
  clear h
  induction hall with
  | nil => simp
  | @cons digest blob digests blobs hblob _ ih =>
    have hdigest := (blobRelease_eq_ok hblob).1
    rw [List.map_cons, hdigest, ih.1]
    refine ⟨rfl, ?_⟩
    intro blob' hblob'
    rcases List.mem_cons.mp hblob' with rfl | hmem
    · rw [hdigest]
      exact hblob
    · exact ih.2 blob' hmem

/-- What the planner promises. -/
theorem planReclamation_planned {views : List StoredTreeRetention} {objectKeys : List RetentionKey}
    {allUnreferenced : Bool} {plan : ContentReclamationPlan}
    (hkeys : (db.objects.map (·.retentionKey)).Nodup)
    (h : db.planReclamation views trees objectKeys now allUnreferenced = .ok plan) :
    ∃ references, db.uploadReferences = .ok references ∧ db.Planned references now plan := by
  rw [planReclamation, bind_eq_ok] at h
  obtain ⟨trees, -, h⟩ := h
  rw [bind_eq_ok] at h
  obtain ⟨objectKeys, -, h⟩ := h
  rw [reject_bind_eq_ok, reject_bind_eq_ok, bind_eq_ok] at h
  obtain ⟨-, -, references, hreferences, h⟩ := h
  refine ⟨references, hreferences, ?_⟩
  simp only [reclamationPlan, reject_bind_eq_ok] at h
  rw [bind_eq_ok] at h
  obtain ⟨-, -, blobs, hblobs, h⟩ := h
  obtain rfl := Except.ok.inj h
  obtain ⟨hdigests, hblob⟩ := mapM_blobRelease_planned hblobs
  refine ⟨?_, ?_, ?_, ?_⟩
  · rw [hdigests]
    exact nodup_sortedSet _
  · intro blob hmem
    have hperm := ((blobRelease_eq_ok (hblob blob hmem)).2.2.map (·.key)).nodup_iff
    rw [hperm, List.map_map]
    exact hkeys.sublist ((List.filter_sublist.trans List.filter_sublist).map _)
  · intro blob hmem row hrow
    exact blobRelease_describes (hblob blob hmem) (List.filter_subset_self _) hrow
  · intro blob hmem o ho hdigest
    have hperm := (blobRelease_eq_ok (hblob blob hmem)).2.2.map (·.key)
    have hselected : blob.digest ∈ sortedSet ((db.objects.filter fun o =>
        o.digest ∈ (db.affectedObjects trees ++ objectKeys).map (·.identity)).map (·.digest)) := by
      rw [← hdigests]
      exact List.mem_map_of_mem hmem
    simp only [mem_sortedSet, List.mem_map, List.mem_filter, decide_eq_true_eq] at hselected
    obtain ⟨o', ⟨-, key, hkey, hidentity⟩, hdigest'⟩ := hselected
    rw [hperm.mem_iff, List.map_map, List.mem_map]
    refine ⟨o, ?_, rfl⟩
    simp only [List.mem_filter, List.mem_map, decide_eq_true_eq]
    exact ⟨⟨ho, key, hkey, by rw [hidentity, hdigest', hdigest]⟩, hdigest⟩

/-! ### The rows after a release -/

/-- The objects after some keys lost their object and others had it marked. -/
def settleObjects (removed marked : List RetentionKey) (objects : List SkillContentObject) :
    List SkillContentObject :=
  objects.filterMap fun o =>
    if o.retentionKey ∈ removed then none
    else if o.retentionKey ∈ marked then some { o with status := .deleting } else some o

lemma settleObjects_nil (objects : List SkillContentObject) : settleObjects [] [] objects = objects := by
  simp [settleObjects]

lemma settleObjects_settleObjects (r m r' m' : List RetentionKey) (objects : List SkillContentObject) :
    settleObjects r' m' (settleObjects r m objects) =
      settleObjects (r ++ r') (m ++ m') objects := by
  simp only [settleObjects, List.filterMap_filterMap]
  apply List.filterMap_congr
  intro o _
  by_cases hr : o.retentionKey ∈ r
  · simp [hr]
  · by_cases hm : o.retentionKey ∈ m
    · have hkey : ({ o with status := ObjectStatus.deleting } : SkillContentObject).retentionKey =
          o.retentionKey := rfl
      by_cases hr' : o.retentionKey ∈ r' <;> simp [hr, hm, hr', hkey]
    · by_cases hr' : o.retentionKey ∈ r' <;> by_cases hm' : o.retentionKey ∈ m' <;>
        simp [hr, hm, hr', hm']

/-- Keys whose object a file's rows remove. -/
def removedKeys (blob : ContentBlobRelease) : List RetentionKey :=
  if blob.deleteFile then [] else (blob.objects.filter (·.release)).map (·.key)

/-- Keys whose object a file's rows mark. -/
def markedKeys (blob : ContentBlobRelease) : List RetentionKey :=
  if blob.deleteFile then (blob.objects.filter (·.release)).map (·.key) else []

lemma foldl_releaseObject (deleteFile : Bool) (rows : List ContentObjectRelease)
    (db : ContentStore) :
    rows.foldl (releaseObject deleteFile) db = { db with
      objects := settleObjects (if deleteFile then [] else rows.map (·.key))
        (if deleteFile then rows.map (·.key) else []) db.objects } := by
  induction rows generalizing db with
  | nil => cases deleteFile <;> simp [settleObjects_nil]
  | cons row rows ih =>
    have hone : releaseObject deleteFile db row = { db with
        objects := settleObjects (if deleteFile then [] else [row.key])
          (if deleteFile then [row.key] else []) db.objects } := by
      cases deleteFile <;> simp [releaseObject, settleObjects, ite_not]
    rw [List.foldl_cons, ih, hone]
    cases deleteFile <;> simp [settleObjects_settleObjects]

lemma map_retentionKey_settleObjects (removed marked : List RetentionKey)
    (objects : List SkillContentObject) :
    (settleObjects removed marked objects).map (·.retentionKey) =
      (objects.map (·.retentionKey)).filter (· ∉ removed) := by
  induction objects with
  | nil => rfl
  | cons o objects ih =>
    unfold settleObjects at ih ⊢
    by_cases hr : o.retentionKey ∈ removed
    · simpa [hr] using ih
    · by_cases hm : o.retentionKey ∈ marked
      · have hkey : ({ o with status := ObjectStatus.deleting } : SkillContentObject).retentionKey =
            o.retentionKey := rfl
        simpa [hr, hm, hkey] using ih
      · simpa [hr, hm] using ih

lemma mem_settleObjects {removed marked : List RetentionKey} {objects : List SkillContentObject}
    {o' : SkillContentObject} : o' ∈ settleObjects removed marked objects ↔
      ∃ o ∈ objects, o.retentionKey ∉ removed ∧
        o' = if o.retentionKey ∈ marked then { o with status := .deleting } else o := by
  simp only [settleObjects, List.mem_filterMap]
  constructor
  · rintro ⟨o, ho, h⟩
    by_cases hr : o.retentionKey ∈ removed
    · simp [hr] at h
    · refine ⟨o, ho, hr, ?_⟩
      by_cases hm : o.retentionKey ∈ marked <;> simpa [hr, hm, eq_comm] using h
  · rintro ⟨o, ho, hr, rfl⟩
    refine ⟨o, ho, ?_⟩
    by_cases hm : o.retentionKey ∈ marked <;> simp [hr, hm]

/-- A plan's released keys are those it removes or marks. -/
lemma mem_released_iff {plan : ContentReclamationPlan} {key : RetentionKey} :
    key ∈ plan.released.map (·.key) ↔
      key ∈ plan.blobs.flatMap removedKeys ∨ key ∈ plan.blobs.flatMap markedKeys := by
  simp only [ContentReclamationPlan.released, List.mem_map, List.mem_flatMap]
  constructor
  · rintro ⟨row, ⟨blob, hblob, hrow⟩, rfl⟩
    have hkey := List.mem_map_of_mem (f := (·.key)) hrow
    by_cases hdelete : blob.deleteFile
    · exact Or.inr ⟨blob, hblob, by rw [markedKeys, if_pos hdelete]; exact hkey⟩
    · exact Or.inl ⟨blob, hblob, by rw [removedKeys, if_neg hdelete]; exact hkey⟩
  · rintro (⟨blob, hblob, hkey⟩ | ⟨blob, hblob, hkey⟩)
    · unfold removedKeys at hkey
      split_ifs at hkey
      · exact absurd hkey List.not_mem_nil
      · obtain ⟨row, hrow, rfl⟩ := List.mem_map.mp hkey
        exact ⟨row, ⟨blob, hblob, hrow⟩, rfl⟩
    · unfold markedKeys at hkey
      split_ifs at hkey
      · obtain ⟨row, hrow, rfl⟩ := List.mem_map.mp hkey
        exact ⟨row, ⟨blob, hblob, hrow⟩, rfl⟩
      · exact absurd hkey List.not_mem_nil

section Planned

variable {plan : ContentReclamationPlan} (hplanned : db.Planned references now plan)

include hplanned

/-- A released row speaks of an available object without a lease in its category. -/
lemma Planned.released {row : ContentObjectRelease} (hrow : row ∈ plan.released) :
    ∃ o ∈ db.objects, o.retentionKey = row.key ∧ o.size = row.size ∧ o.status = .available ∧
      ∀ lease ∈ db.uploadLeases references now o.digest, lease.category ≠ o.category := by
  simp only [ContentReclamationPlan.released, List.mem_flatMap, List.mem_filter] at hrow
  obtain ⟨blob, hblob, hrow, hrelease⟩ := hrow
  obtain ⟨o, ho⟩ := hplanned.describes blob hblob row hrow
  exact ⟨o, ho.mem, ho.key, ho.size, ho.available hrelease, ho.unleased hrelease⟩

/-- No object is released twice. -/
lemma Planned.nodup_released : (plan.released.map (·.key)).Nodup := by
  rw [ContentReclamationPlan.released, List.map_flatMap, List.nodup_flatMap]
  constructor
  · intro blob hblob
    exact (hplanned.keys blob hblob).sublist (List.filter_sublist.map _)
  · have hdigests : plan.blobs.Pairwise fun a b => a.digest ≠ b.digest := by
      have h := hplanned.digests
      rwa [List.Nodup, List.pairwise_map] at h
    apply hdigests.imp_of_mem
    intro a b ha hb hne
    rw [Function.onFun, List.disjoint_left]
    intro key hka hkb
    obtain ⟨ra, hra, rfl⟩ := List.mem_map.mp hka
    obtain ⟨rb, hrb, hsame⟩ := List.mem_map.mp hkb
    obtain ⟨oa, hoa⟩ := hplanned.describes a ha ra (List.mem_of_mem_filter hra)
    obtain ⟨ob, hob⟩ := hplanned.describes b hb rb (List.mem_of_mem_filter hrb)
    have hkeys : oa.retentionKey = ob.retentionKey := by rw [hoa.key, hob.key, hsame]
    apply hne
    rw [← hoa.digest, ← hob.digest]
    exact congrArg RetentionKey.identity hkeys

end Planned

/-- The orders a plan's files give. -/
def newTasks (taskId : Text → Text) (issuedAt : ℤ) (blobs : List ContentBlobRelease) :
    List SkillContentDeletion :=
  (blobs.filter (·.deleteFile)).map (newTask taskId issuedAt)

variable {taskId : Text → Text} {issuedAt : ℤ} {after : ContentStore}

lemma releaseBlob_eq_ok (h : releaseBlob taskId issuedAt db blob = .ok after) :
    after = { db with
      objects := settleObjects (removedKeys blob) (markedKeys blob) db.objects
      deletions := db.deletions ++ newTasks taskId issuedAt [blob] } := by
  unfold releaseBlob at h
  cases hdelete : blob.deleteFile with
  | false =>
    simp only [hdelete, Bool.false_eq_true, if_false, pure_eq_ok, ok_bind, Except.ok.injEq] at h
    rw [← h, foldl_releaseObject]
    simp [removedKeys, markedKeys, newTasks, hdelete]
  | true =>
    simp only [hdelete, if_true] at h
    rw [bind_eq_ok] at h
    obtain ⟨marked, hmarked, h⟩ := h
    rw [addTask, reject_bind_eq_ok] at hmarked
    obtain rfl := Except.ok.inj hmarked.2
    obtain rfl := Except.ok.inj h
    rw [foldl_releaseObject]
    simp [removedKeys, markedKeys, newTasks, hdelete]

lemma foldlM_releaseBlob_eq_ok {blobs : List ContentBlobRelease}
    (h : blobs.foldlM (releaseBlob taskId issuedAt) db = .ok after) :
    after = { db with
      objects := settleObjects (blobs.flatMap removedKeys) (blobs.flatMap markedKeys) db.objects
      deletions := db.deletions ++ newTasks taskId issuedAt blobs } := by
  induction blobs generalizing db with
  | nil =>
    obtain rfl := Except.ok.inj h
    simp [settleObjects_nil, newTasks]
  | cons blob blobs ih =>
    rw [List.foldlM_cons, bind_eq_ok] at h
    obtain ⟨db', hblob, h⟩ := h
    rw [ih h, releaseBlob_eq_ok hblob]
    simp only [List.flatMap_cons, settleObjects_settleObjects, newTasks, List.append_assoc]
    rw [← List.map_append, ← List.filter_append, List.singleton_append]

/-! ### The tasks after a release -/

lemma addTask_tasksValid {task : SkillContentDeletion} (h : TasksValid db.deletions)
    (hadd : db.addTask task = .ok after) : TasksValid after.deletions := by
  rw [addTask, reject_bind_eq_ok] at hadd
  obtain ⟨hnew, hadd⟩ := hadd
  obtain rfl := Except.ok.inj hadd
  rw [not_or] at hnew
  constructor
  · simpa [List.nodup_append, h.ids] using hnew.1
  · intro t ht t' ht' hpending hpending' hdigest
    rcases List.mem_append.mp ht with hold | hlast <;>
      rcases List.mem_append.mp ht' with hold' | hlast'
    · exact h.pending t hold t' hold' hpending hpending' hdigest
    · obtain rfl := List.mem_singleton.mp hlast'
      exact absurd ⟨t, hold, hdigest, hpending⟩ hnew.2
    · obtain rfl := List.mem_singleton.mp hlast
      exact absurd ⟨t', hold', hdigest.symm, hpending'⟩ hnew.2
    · rw [List.mem_singleton.mp hlast, List.mem_singleton.mp hlast']

lemma releaseBlob_tasksValid (h : TasksValid db.deletions)
    (hrelease : releaseBlob taskId issuedAt db blob = .ok after) : TasksValid after.deletions := by
  unfold releaseBlob at hrelease
  cases hdelete : blob.deleteFile with
  | false =>
    simp only [hdelete, Bool.false_eq_true, if_false, pure_eq_ok, ok_bind, Except.ok.injEq]
      at hrelease
    rw [← hrelease, foldl_releaseObject]
    exact h
  | true =>
    simp only [hdelete, if_true] at hrelease
    rw [bind_eq_ok] at hrelease
    obtain ⟨marked, hmarked, hrelease⟩ := hrelease
    obtain rfl := Except.ok.inj hrelease
    rw [foldl_releaseObject]
    have hvalid : TasksValid marked.deletions := addTask_tasksValid h hmarked
    exact hvalid

/-- The tables after a plan was applied. -/
def releasedTables (db : ContentStore) (taskId : Text → Text) (issuedAt : ℤ)
    (plan : ContentReclamationPlan) : ContentStore :=
  { db.removeTrees plan.requestedTrees with
    usage := some ((db.counters.addBytes (-(plan.releasedBytes .package : ℤ)) .package).addBytes
      (-(plan.releasedBytes .state : ℤ)) .state)
    objects := settleObjects (plan.blobs.flatMap removedKeys) (plan.blobs.flatMap markedKeys)
      db.objects
    deletions := db.deletions ++ newTasks taskId issuedAt plan.blobs }

/-- A plan that was applied was made from the tables it changed. -/
theorem applyReclamation_eq_ok {views : List StoredTreeRetention} {plan : ContentReclamationPlan}
    {analysed : Bool} (hkeys : (db.objects.map (·.retentionKey)).Nodup)
    (h : db.applyReclamation views now issuedAt taskId plan analysed = .ok after) :
    plan.ready ∧ after = db.lockUsage.releasedTables taskId issuedAt plan ∧
      (TasksValid db.deletions → TasksValid after.deletions) ∧ ∃ references,
        db.lockUsage.uploadReferences = .ok references ∧
          db.lockUsage.Planned references now plan := by
  rw [applyReclamation, bind_eq_ok] at h
  obtain ⟨⟨after', _⟩, hmutation, h⟩ := h
  obtain rfl := Except.ok.inj h
  have hbody := retentionMutation_eq_ok hmutation
  rw [bind_eq_ok] at hbody
  obtain ⟨actual, hplan, hbody⟩ := hbody
  rw [reject_bind_eq_ok, reject_bind_eq_ok, bind_eq_ok] at hbody
  obtain ⟨hsame, hready, released, hrelease, hbody⟩ := hbody
  obtain rfl := not_not.mp hsame
  obtain rfl := congrArg Prod.fst (Except.ok.inj hbody)
  rw [releasePlan, reject_bind_eq_ok] at hrelease
  refine ⟨by simpa using hready, foldlM_releaseBlob_eq_ok hrelease.2, ?_,
    planReclamation_planned hkeys hplan⟩
  intro htasks
  apply foldlM_ok_induction (fun db : ContentStore => TasksValid db.deletions) _ _ hrelease.2
  · exact fun _ _ _ _ hvalid hstep => releaseBlob_tasksValid hvalid hstep
  · exact htasks

end ContentStore

end AgentRemote
