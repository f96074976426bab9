import AgentRemote.Retention.Roots
import AgentRemote.Storage.Release

/-!
# Reclamation over the retention index

The planner of reclamations as it reads an index: uploads in the old and the new format
both lease files, and a rewrite that is only planned already holds the objects of its new
trees. A released object is one that no tree outside the selection and no live upload of
its category needs, and a shared file goes when nothing at all needs it.
-/

namespace AgentRemote
open Library

namespace RetentionTables

variable (t : RetentionTables)

/-- `affected_objects`: what the selected trees refer to, each within its own category. -/
def affectedObjects (trees : List RetentionKey) : List RetentionKey :=
  (t.treeObjects.filter fun r => treeKey r.category r.treeDigest ∈ trees).map fun r =>
    objectKey r.category r.objectDigest

/-- `refs.get(key)`: the stored trees and the planned state trees that hold an object. -/
def objectTrees (projected : List (Text × Text)) (key : RetentionKey) : List RetentionKey :=
  sortedSet
    (((t.treeObjects.filter fun r => objectKey r.category r.objectDigest = key).map
        fun r => treeKey r.category r.treeDigest) ++
      ((projected.filter fun e => objectKey .state e.2 = key).map fun e => treeKey .state e.1))

def uploadLease (upload : UploadRecord) : ContentUploadLease :=
  ⟨upload.id, category upload.scope, upload.expiresAt⟩

/-- `upload_leases` for one file. -/
def uploadLeases (references : List (Text × Text)) (now : ℤ) (digest : Text) :
    List ContentUploadLease :=
  (((references.filter (·.2 = digest)).filterMap fun r =>
    indexed (·.id) (activeUploads t now) r.1).map uploadLease).insertionSort (· ≤ ·)

/-- The decision about one object. -/
def objectRelease (projected : List (Text × Text)) (trees selected : List RetentionKey)
    (leases : List ContentUploadLease) (object : SkillContentObject) : ContentObjectRelease :=
  let key := object.retentionKey
  let treeKeys := t.objectTrees projected key
  { key := key, size := object.size, contentKind := object.contentKind, status := object.status,
    createdAt := object.createdAt, treeKeys := treeKeys, selected := key ∈ selected,
    release := key ∈ selected ∧ object.status = .available ∧ (∀ tree ∈ treeKeys, tree ∈ trees) ∧
      ∀ lease ∈ leases, lease.category ≠ object.category }

/-- The objects of one file must agree on its metadata. -/
def blobRelease (references projected : List (Text × Text)) (now : ℤ)
    (trees selected : List RetentionKey) (objects : List SkillContentObject) (digest : Text) :
    Except HistoryFailure ContentBlobRelease := do
  let rows := objects.filter (·.digest = digest)
  reject ((rows.map fun o => (o.size, o.contentKind)).dedup.length ≠ 1)
    (HistoryFailure.contentError "CONTENT_INVALID" "shared content metadata differs")
  let leases := t.uploadLeases references now digest
  return ⟨digest, (rows.map (t.objectRelease projected trees selected leases)).insertionSort
    (·.key ≤ ·.key), leases⟩

/-- `reclamation_plan`. -/
def reclamationPlan (views : List StoredTreeRetention) (objects : List SkillContentObject)
    (trees objectKeys : List RetentionKey) (now : ℤ) (allUnreferenced : Bool)
    (projected : List (Text × Text)) : Except HistoryFailure ContentReclamationPlan := do
  let selectedViews := trees.filterMap (indexed StoredTreeRetention.key views)
  reject (selectedViews.length ≠ trees.length)
    (HistoryFailure.contentError "CONTENT_NOT_FOUND"
      "selected tree is not retained by this user")
  let selected := t.affectedObjects trees ++ objectKeys
  reject (∃ key ∈ selected, key ∉ objects.map (·.retentionKey))
    (HistoryFailure.contentError "CONTENT_NOT_FOUND"
      "selected object is not retained by this user")
  let blocked := selectedViews.filterMap fun view =>
    let reasons := ContentStore.treeBlockers view now allUnreferenced
    if reasons = [] then none else some (view.key, reasons)
  let references ← (uploadFileReferences t (activeUploads t now)).mapM id
  let unavailable := (objects.filter (·.status ≠ .available)).map fun object =>
    (object.retentionKey, ["content_unavailable"])
  let blobs ← (sortedSet (objects.map (·.digest))).mapM
    (t.blobRelease references projected now trees selected objects)
  return ⟨trees, objectKeys, allUnreferenced, selectedViews,
    (blocked ++ unavailable).insertionSort (·.1 ≤ ·.1), blobs⟩

/-! ### What a plan is for -/

/-- The upload's manifest in the old format, or its index rows, name the file. -/
def Declares (upload : UploadRecord) (digest : Text) : Prop :=
  (upload.objectIndexVersion = 0 ∧ ∃ entries, upload.manifestEntries = some entries ∧
    ∃ e ∈ entries, e.kind = .file ∧ e.sha256 = digest) ∨
  ∃ ref ∈ t.uploadObjects, ref.uploadId = upload.id ∧ ref.digest = digest

/-- A live upload of the category names the file. -/
def Leased (now : ℤ) (c : StorageCategory) (digest : Text) : Prop :=
  ∃ upload ∈ t.uploads, upload.status = .staged ∧ now < upload.expiresAt ∧
    category upload.scope = c ∧ t.Declares upload digest

/-- What may be released: a planned tree holds objects but selects none. -/
structure Releasable (projected : List (Text × Text)) (trees objectKeys : List RetentionKey)
    (now : ℤ) (object : SkillContentObject) : Prop where
  selected : object.retentionKey ∈ objectKeys ∨ ∃ r ∈ t.treeObjects,
    r.category = object.category ∧ r.objectDigest = object.digest ∧
      treeKey object.category r.treeDigest ∈ trees
  available : object.status = .available
  unreferenced : ∀ r ∈ t.treeObjects, r.category = object.category →
    r.objectDigest = object.digest → treeKey object.category r.treeDigest ∈ trees
  unprojected : object.category = .state → ∀ e ∈ projected, e.2 = object.digest →
    treeKey .state e.1 ∈ trees
  unleased : ¬t.Leased now object.category object.digest

/-! ### Leases -/

section

variable {t} {references projected : List (Text × Text)}
  {trees selected objectKeys : List RetentionKey} {now : ℤ} {object : SkillContentObject} {digest : Text}

lemma mem_mapM_id {α : Type} {xs : List (Except HistoryFailure α)} {ys : List α}
    (h : xs.mapM id = .ok ys) {y : α} : y ∈ ys ↔ .ok y ∈ xs := by
  have hall := mapM_eq_ok h
  clear h
  induction hall with
  | nil => simp
  | cons hx _ ih =>
    obtain rfl := hx
    simp [ih]

lemma mem_legacyFileReferences {upload : UploadRecord} {id : Text} :
    .ok (id, digest) ∈ legacyFileReferences upload ↔ upload.id = id ∧
      upload.objectIndexVersion = 0 ∧ ∃ entries, upload.manifestEntries = some entries ∧
        ∃ e ∈ entries, e.kind = .file ∧ e.sha256 = digest := by
  unfold legacyFileReferences
  by_cases hversion : upload.objectIndexVersion = 0
  · cases hentries : upload.manifestEntries with
    | none => simp [hversion]
    | some entries =>
      simp only [hversion, if_true, List.mem_map, List.mem_dedup, List.mem_filter,
        decide_eq_true_eq, Except.ok.injEq, Prod.mk.injEq, true_and, Option.some.injEq,
        exists_eq_left']
      constructor
      · rintro ⟨_, ⟨e, ⟨he, hfile⟩, rfl⟩, rfl, rfl⟩
        exact ⟨rfl, e, he, hfile, rfl⟩
      · rintro ⟨rfl, e, he, hfile, rfl⟩
        exact ⟨e.sha256, ⟨e, ⟨he, hfile⟩, rfl⟩, rfl, rfl⟩
  · simp [hversion]

/-- The references are the declarations of the live uploads. -/
lemma mem_references (h : (uploadFileReferences t (activeUploads t now)).mapM id = .ok references)
    {id : Text} : (id, digest) ∈ references ↔
      (∃ upload ∈ activeUploads t now, upload.id = id ∧ upload.objectIndexVersion = 0 ∧
        ∃ entries, upload.manifestEntries = some entries ∧
          ∃ e ∈ entries, e.kind = .file ∧ e.sha256 = digest) ∨
      id ∈ (activeUploads t now).map (·.id) ∧
        ∃ ref ∈ t.uploadObjects, ref.uploadId = id ∧ ref.digest = digest := by
  rw [mem_mapM_id h, uploadFileReferences, List.mem_append, List.mem_flatMap]
  apply or_congr
  · simp only [mem_legacyFileReferences]
  · simp only [List.mem_map (l := List.filter _ _), List.mem_filter, decide_eq_true_eq,
      Except.ok.injEq, Prod.mk.injEq]
    constructor
    · rintro ⟨ref, ⟨hmem, hactive⟩, rfl, rfl⟩
      exact ⟨hactive, ref, hmem, rfl, rfl⟩
    · rintro ⟨hactive, ref, hmem, rfl, rfl⟩
      exact ⟨ref, ⟨hmem, hactive⟩, rfl, rfl⟩

lemma mem_activeUploads {upload : UploadRecord} : upload ∈ activeUploads t now ↔
    upload ∈ t.uploads ∧ upload.status = .staged ∧ now < upload.expiresAt := by
  simp [activeUploads]

/-- A file has a lease of a category exactly if a live upload of it names the file. -/
lemma exists_lease_iff (hids : (t.uploads.map (·.id)).Nodup)
    (h : (uploadFileReferences t (activeUploads t now)).mapM id = .ok references)
    {c : StorageCategory} :
    (∃ lease ∈ t.uploadLeases references now digest, lease.category = c) ↔
      t.Leased now c digest := by
  have hactive : ((activeUploads t now).map (·.id)).Nodup :=
    hids.sublist (List.filter_sublist.map _)
  simp only [uploadLeases, List.mem_insertionSort, List.mem_map, List.mem_filterMap,
    List.mem_filter, decide_eq_true_eq]
  constructor
  · rintro ⟨_, ⟨upload, ⟨⟨id, d⟩, ⟨href, rfl⟩, hfound⟩, rfl⟩, rfl⟩
    have hmem := mem_of_indexed hfound
    have hid : upload.id = id := key_of_indexed hfound
    obtain ⟨hupload, hstaged, hlive⟩ := mem_activeUploads.mp hmem
    refine ⟨upload, hupload, hstaged, hlive, rfl, ?_⟩
    cases (mem_references h).mp href with
    | inl hlegacy =>
      obtain ⟨upload', hmem', hid', hdeclared⟩ := hlegacy
      have hsame : upload' = upload := eq_of_key_eq hactive hmem' hmem (hid'.trans hid.symm)
      exact .inl (hsame ▸ hdeclared)
    | inr hindexed =>
      obtain ⟨-, ref, href, hrefId, hdigest⟩ := hindexed
      exact .inr ⟨ref, href, hrefId.trans hid.symm, hdigest⟩
  · rintro ⟨upload, hupload, hstaged, hlive, rfl, hdeclares⟩
    have hmem := mem_activeUploads.mpr ⟨hupload, hstaged, hlive⟩
    have href : (upload.id, digest) ∈ references := by
      rw [mem_references h]
      cases hdeclares with
      | inl hlegacy => exact .inl ⟨upload, hmem, rfl, hlegacy⟩
      | inr hindexed => exact .inr ⟨List.mem_map_of_mem hmem, hindexed⟩
    exact ⟨uploadLease upload, ⟨upload, ⟨_, ⟨href, rfl⟩, indexed_of_mem hactive hmem⟩, rfl⟩, rfl⟩

/-! ### Objects -/

lemma mem_affectedObjects : object.retentionKey ∈ t.affectedObjects trees ↔
    ∃ r ∈ t.treeObjects, r.category = object.category ∧ r.objectDigest = object.digest ∧
      treeKey object.category r.treeDigest ∈ trees := by
  simp only [affectedObjects, List.mem_map, List.mem_filter, decide_eq_true_eq]
  constructor
  · rintro ⟨r, ⟨hr, htree⟩, hkey⟩
    obtain ⟨hcategory, hdigest⟩ := objectKey_inj.mp hkey
    exact ⟨r, hr, hcategory, hdigest, hcategory ▸ htree⟩
  · rintro ⟨r, hr, hcategory, hdigest, htree⟩
    exact ⟨r, ⟨hr, hcategory.symm ▸ htree⟩, objectKey_inj.mpr ⟨hcategory, hdigest⟩⟩

lemma objectTrees_subset_iff : (∀ tree ∈ t.objectTrees projected object.retentionKey, tree ∈ trees) ↔
    (∀ r ∈ t.treeObjects, r.category = object.category → r.objectDigest = object.digest →
      treeKey object.category r.treeDigest ∈ trees) ∧
    (object.category = .state → ∀ e ∈ projected, e.2 = object.digest →
      treeKey .state e.1 ∈ trees) := by
  simp only [objectTrees, mem_sortedSet, List.mem_append, List.mem_map, List.mem_filter,
    decide_eq_true_eq, SkillContentObject.retentionKey, objectKey_inj]
  constructor
  · intro h
    constructor
    · intro r hr hcategory hdigest
      exact hcategory ▸ h _ (.inl ⟨r, ⟨hr, hcategory, hdigest⟩, rfl⟩)
    · intro hstate e he hdigest
      exact h _ (.inr ⟨e, ⟨he, hstate.symm, hdigest⟩, rfl⟩)
  · rintro ⟨hstored, hprojected⟩ _
      (⟨r, ⟨hr, hcategory, hdigest⟩, rfl⟩ | ⟨e, ⟨he, hstate, hdigest⟩, rfl⟩)
    · exact hcategory.symm ▸ hstored r hr hcategory hdigest
    · exact hprojected hstate.symm e he hdigest

/-- The planner releases exactly what may be released. -/
lemma objectRelease_iff (hids : (t.uploads.map (·.id)).Nodup)
    (h : (uploadFileReferences t (activeUploads t now)).mapM id = .ok references) :
    (t.objectRelease projected trees (t.affectedObjects trees ++ objectKeys)
      (t.uploadLeases references now object.digest) object).release ↔
        t.Releasable projected trees objectKeys now object := by
  have hlease : (∀ lease ∈ t.uploadLeases references now object.digest,
      lease.category ≠ object.category) ↔ ¬t.Leased now object.category object.digest := by
    rw [← exists_lease_iff hids h]
    push Not
    rfl
  simp only [objectRelease, decide_eq_true_eq, List.mem_append, mem_affectedObjects,
    objectTrees_subset_iff, hlease]
  constructor
  · rintro ⟨hselected, havailable, ⟨hstored, hprojected⟩, hunleased⟩
    exact ⟨hselected.symm, havailable, hstored, hprojected, hunleased⟩
  · rintro ⟨hselected, havailable, hstored, hprojected, hunleased⟩
    exact ⟨hselected.symm, havailable, ⟨hstored, hprojected⟩, hunleased⟩

/-! ### Files -/

variable {objects : List SkillContentObject} {blob : ContentBlobRelease}

lemma blobRelease_eq_ok
    (h : t.blobRelease references projected now trees selected objects digest = .ok blob) :
    blob.digest = digest ∧ blob.leases = t.uploadLeases references now digest ∧
      blob.objects.Perm ((objects.filter (·.digest = digest)).map
        (t.objectRelease projected trees selected (t.uploadLeases references now digest))) := by
  rw [blobRelease, reject_bind_eq_ok] at h
  obtain rfl := Except.ok.inj h.2
  exact ⟨rfl, rfl, List.perm_insertionSort _ _⟩

lemma leases_eq_nil_iff (hids : (t.uploads.map (·.id)).Nodup)
    (h : (uploadFileReferences t (activeUploads t now)).mapM id = .ok references) :
    t.uploadLeases references now digest = [] ↔ ∀ c, ¬t.Leased now c digest := by
  rw [List.eq_nil_iff_forall_not_mem]
  constructor
  · intro hnone c hleased
    obtain ⟨lease, hlease, -⟩ := (exists_lease_iff hids h).mpr hleased
    exact hnone lease hlease
  · intro hnone lease hlease
    exact hnone lease.category ((exists_lease_iff hids h).mp ⟨lease, hlease, rfl⟩)

lemma mem_of_mapM {α β : Type} {f : α → Except HistoryFailure β} {xs : List α} {ys : List β}
    (h : xs.mapM f = .ok ys) :
    (∀ x ∈ xs, ∃ y ∈ ys, f x = .ok y) ∧ ∀ y ∈ ys, ∃ x ∈ xs, f x = .ok y := by
  have hall := mapM_eq_ok h
  clear h
  induction hall with
  | nil => simp
  | cons hx _ ih =>
    constructor
    · exact List.forall_mem_cons.mpr ⟨⟨_, List.mem_cons_self, hx⟩, fun x hmem =>
        (ih.1 x hmem).imp fun y hy => ⟨List.mem_cons_of_mem _ hy.1, hy.2⟩⟩
    · exact List.forall_mem_cons.mpr ⟨⟨_, List.mem_cons_self, hx⟩, fun y hmem =>
        (ih.2 y hmem).imp fun x hx => ⟨List.mem_cons_of_mem _ hx.1, hx.2⟩⟩

/-- A plan's rows: one for each object given, each under its file, released as the object
may be. -/
structure Plans (projected : List (Text × Text)) (trees objectKeys : List RetentionKey) (now : ℤ)
    (objects : List SkillContentObject) (plan : ContentReclamationPlan) : Prop where
  requested : plan.requestedTrees = trees
  files : ∀ o ∈ objects, ∃ blob ∈ plan.blobs, o.digest = blob.digest
  nonempty : ∀ blob ∈ plan.blobs, ∃ o ∈ objects, o.digest = blob.digest
  rows : ∀ blob ∈ plan.blobs, ∀ o ∈ objects, o.digest = blob.digest → ∃ row ∈ blob.objects,
    row.key = o.retentionKey ∧ (row.release ↔ t.Releasable projected trees objectKeys now o)
  described : ∀ blob ∈ plan.blobs, ∀ row ∈ blob.objects, ∃ o ∈ objects, o.digest = blob.digest ∧
    row.key = o.retentionKey ∧ (row.release ↔ t.Releasable projected trees objectKeys now o)
  leases : ∀ blob ∈ plan.blobs, blob.leases = [] ↔ ∀ c, ¬t.Leased now c blob.digest

/-- What the planner promises. -/
lemma reclamationPlan_plans (hids : (t.uploads.map (·.id)).Nodup)
    {views : List StoredTreeRetention} {allUnreferenced : Bool} {plan : ContentReclamationPlan}
    (h : t.reclamationPlan views objects trees objectKeys now allUnreferenced projected =
      .ok plan) : t.Plans projected trees objectKeys now objects plan := by
  simp only [reclamationPlan, reject_bind_eq_ok] at h
  obtain ⟨-, -, h⟩ := h
  rw [bind_eq_ok] at h
  obtain ⟨references, hreferences, h⟩ := h
  rw [bind_eq_ok] at h
  obtain ⟨blobs, hblobs, h⟩ := h
  obtain rfl := Except.ok.inj h
  obtain ⟨hgiven, hmade⟩ := mem_of_mapM hblobs
  refine ⟨rfl, ?_, ?_, ?_, ?_, ?_⟩
  · intro o ho
    obtain ⟨blob, hblob, hrelease⟩ := hgiven o.digest (mem_sortedSet.mpr (List.mem_map_of_mem ho))
    exact ⟨blob, hblob, (blobRelease_eq_ok hrelease).1.symm⟩
  · intro blob hblob
    obtain ⟨digest, hmem, hrelease⟩ := hmade blob hblob
    obtain ⟨o, ho, rfl⟩ := List.mem_map.mp (mem_sortedSet.mp hmem)
    exact ⟨o, ho, (blobRelease_eq_ok hrelease).1.symm⟩
  · intro blob hblob o ho heq
    obtain ⟨digest, -, hrelease⟩ := hmade blob hblob
    obtain ⟨rfl, -, hperm⟩ := blobRelease_eq_ok hrelease
    refine ⟨_, hperm.mem_iff.mpr (List.mem_map_of_mem (a := o) (by simp [ho, heq])), rfl, ?_⟩
    rw [← heq]
    exact objectRelease_iff hids hreferences
  · intro blob hblob row hrow
    obtain ⟨digest, -, hrelease⟩ := hmade blob hblob
    obtain ⟨rfl, -, hperm⟩ := blobRelease_eq_ok hrelease
    obtain ⟨o, ho, rfl⟩ := List.mem_map.mp (hperm.mem_iff.mp hrow)
    obtain ⟨ho, heq⟩ := List.mem_filter.mp ho
    refine ⟨o, ho, by simpa using heq, rfl, ?_⟩
    rw [← of_decide_eq_true heq]
    exact objectRelease_iff hids hreferences
  · intro blob hblob
    obtain ⟨digest, -, hrelease⟩ := hmade blob hblob
    obtain ⟨rfl, hleases, -⟩ := blobRelease_eq_ok hrelease
    rw [hleases, leases_eq_nil_iff hids hreferences]

/-- A file goes when all of its objects do and no upload names it. -/
lemma Plans.deleteFile_iff {plan : ContentReclamationPlan}
    (h : t.Plans projected trees objectKeys now objects plan) (hblob : blob ∈ plan.blobs) :
    blob.deleteFile ↔ (∀ o ∈ objects, o.digest = blob.digest →
      t.Releasable projected trees objectKeys now o) ∧ ∀ c, ¬t.Leased now c blob.digest := by
  have hrows : blob.objects ≠ [] := by
    obtain ⟨o, ho, heq⟩ := h.nonempty blob hblob
    obtain ⟨row, hrow, -⟩ := h.rows blob hblob o ho heq
    exact List.ne_nil_of_mem hrow
  simp only [ContentBlobRelease.deleteFile, decide_eq_true_eq, h.leases blob hblob]
  constructor
  · rintro ⟨-, hall, hleases⟩
    refine ⟨?_, hleases⟩
    intro o ho heq
    obtain ⟨row, hrow, -, hiff⟩ := h.rows blob hblob o ho heq
    exact hiff.mp (hall row hrow)
  · rintro ⟨hall, hleases⟩
    refine ⟨hrows, ?_, hleases⟩
    intro row hrow
    obtain ⟨o, ho, heq, -, hiff⟩ := h.described blob hblob row hrow
    exact hiff.mpr (hall o ho heq)

/-- The object that a released row stands for. -/
lemma Plans.of_released {plan : ContentReclamationPlan} {key : RetentionKey}
    (h : t.Plans projected trees objectKeys now objects plan)
    (hkey : key ∈ plan.released.map (·.key)) :
    ∃ o ∈ objects, key = o.retentionKey ∧ t.Releasable projected trees objectKeys now o := by
  obtain ⟨row, hrow, rfl⟩ := List.mem_map.mp hkey
  simp only [ContentReclamationPlan.released, List.mem_flatMap, List.mem_filter] at hrow
  obtain ⟨blob, hblob, hrow, hrelease⟩ := hrow
  obtain ⟨o, ho, -, hkey, hiff⟩ := h.described blob hblob row hrow
  exact ⟨o, ho, hkey, hiff.mp hrelease⟩

end

end RetentionTables

/-! ### The planner of the content store -/

/-- The same error, as the retention services name it. -/
def ContentFailure.toHistory : ContentFailure → HistoryFailure
  | .valueError message => .valueError message
  | .contentError code message => .contentError code message

/-- An upload in the new format, whose manifest the index does not load. -/
def SkillContentUpload.record (upload : SkillContentUpload) : UploadRecord :=
  ⟨upload.id, upload.scope, upload.status, upload.expiresAt, 1, none⟩

/-- What the index reads of a store whose uploads are all in the new format. -/
def ContentStore.retentionTables (db : ContentStore) (userId : Text)
    (references : List (Text × Text)) : RetentionTables :=
  { userId := userId, treeObjects := db.treeObjects, uploads := db.uploads.map (·.record)
    uploadObjects := references.map fun r => ⟨r.1, r.2⟩ }

section

variable {db : ContentStore} {userId : Text} {references : List (Text × Text)} {now : ℤ}

lemma activeUploads_retentionTables :
    activeUploads (db.retentionTables userId references) now =
      (db.activeUploads now).map (·.record) := by
  simp only [activeUploads, ContentStore.retentionTables, ContentStore.activeUploads,
    List.filter_map]
  rfl

lemma indexed_record (hids : (db.uploads.map (·.id)).Nodup) (id : Text) :
    indexed (·.id) ((db.activeUploads now).map (·.record)) id =
      (lookup SkillContentUpload.id (db.activeUploads now) id).map (·.record) := by
  have hactive : ((db.activeUploads now).map (·.id)).Nodup :=
    hids.sublist (List.filter_sublist.map _)
  rw [← lookup_perm hactive (List.reverse_perm _), indexed, ← List.map_reverse, lookup, lookup,
    List.find?_map]
  rfl

lemma mapM_references_retentionTables :
    (uploadFileReferences (db.retentionTables userId references)
      (activeUploads (db.retentionTables userId references) now)).mapM id =
        .ok (references.filter (·.1 ∈ (db.activeUploads now).map (·.id))) := by
  have hlegacy : ((db.activeUploads now).map (·.record)).flatMap legacyFileReferences = [] := by
    rw [List.flatMap_eq_nil_iff]
    intro upload hupload
    obtain ⟨u, -, rfl⟩ := List.mem_map.mp hupload
    rfl
  have hids : ((db.activeUploads now).map (·.record)).map (·.id) =
      (db.activeUploads now).map (·.id) := by
    rw [List.map_map]
    rfl
  rw [uploadFileReferences, activeUploads_retentionTables, hlegacy, List.nil_append, hids,
    List.mapM_map]
  refine (mapM_ok_of_forall (g := fun ref : UploadObjectReference =>
    (ref.uploadId, ref.digest)) fun _ _ => rfl).trans ?_
  simp [ContentStore.retentionTables, List.filter_map, Function.comp_def]

lemma uploadLeases_retentionTables (hids : (db.uploads.map (·.id)).Nodup) (digest : Text) :
    (db.retentionTables userId references).uploadLeases
        (references.filter (·.1 ∈ (db.activeUploads now).map (·.id))) now digest =
      db.uploadLeases references now digest := by
  unfold RetentionTables.uploadLeases ContentStore.uploadLeases
  dsimp only
  rw [activeUploads_retentionTables, List.filterMap_filter, List.filterMap_filter,
    List.map_filterMap, List.map_filterMap]
  congr 1
  apply List.filterMap_congr
  intro r _
  rw [indexed_record hids]
  by_cases hdigest : r.2 = digest
  · cases hfound : lookup SkillContentUpload.id (db.activeUploads now) r.1 with
    | none => simp [hdigest]
    | some upload =>
      have hactive : r.1 ∈ (db.activeUploads now).map (·.id) :=
        List.mem_map.mpr ⟨upload, mem_of_lookup hfound, key_of_lookup hfound⟩
      simp only [hactive, hdigest, decide_true, if_true, Option.map_some]
      rfl
  · simp [hdigest]

private lemma mapError_reject_bind {α : Type} {p : Prop} [Decidable p] {e : ContentFailure}
    {f : Unit → Except ContentFailure α} :
    (reject p e >>= f).mapError ContentFailure.toHistory =
      reject p e.toHistory >>= fun u => (f u).mapError ContentFailure.toHistory := by
  by_cases hp : p
  · simp [reject, hp, Except.mapError]
  · simp [reject, hp]

private lemma mapError_mapM {α β : Type} {f : α → Except ContentFailure β} (xs : List α) :
    (xs.mapM f).mapError ContentFailure.toHistory =
      xs.mapM fun x => (f x).mapError ContentFailure.toHistory := by
  induction xs with
  | nil => rfl
  | cons x xs ih =>
    rw [List.mapM_cons, List.mapM_cons, ← ih]
    cases f x with
    | error e => rfl
    | ok y => cases xs.mapM f <;> rfl

variable {trees selected : List RetentionKey} {objects : List SkillContentObject}

lemma blobRelease_retentionTables (hids : (db.uploads.map (·.id)).Nodup) (digest : Text) :
    (db.retentionTables userId references).blobRelease
        (references.filter (·.1 ∈ (db.activeUploads now).map (·.id))) [] now trees selected objects
        digest =
      (db.blobRelease references now trees selected objects digest).mapError
        ContentFailure.toHistory := by
  rw [ContentStore.blobRelease, mapError_reject_bind, RetentionTables.blobRelease,
    uploadLeases_retentionTables hids]
  have hrelease : (db.retentionTables userId references).objectRelease [] trees selected =
      db.objectRelease trees selected := by
    funext leases object
    simp only [RetentionTables.objectRelease, ContentStore.objectRelease,
      RetentionTables.objectTrees, ContentStore.objectTrees, List.filter_nil, List.map_nil,
      List.append_nil]
    rfl
  rw [hrelease]
  rfl

/-- On a store without old uploads and without a planned rewrite, the planner of the index
is the planner of the store. -/
theorem reclamationPlan_retentionTables (hids : (db.uploads.map (·.id)).Nodup)
    {views : List StoredTreeRetention} (hviews : (views.map (·.key)).Nodup)
    (objectKeys : List RetentionKey) (allUnreferenced : Bool) :
    (db.retentionTables userId references).reclamationPlan views objects trees objectKeys now
        allUnreferenced [] =
      (db.reclamationPlan references views objects trees objectKeys now allUnreferenced).mapError
        ContentFailure.toHistory := by
  have hview : ∀ key, indexed StoredTreeRetention.key views key =
      lookup StoredTreeRetention.key views key :=
    lookup_perm hviews (List.reverse_perm _)
  have haffected : (db.retentionTables userId references).affectedObjects trees =
      db.affectedObjects trees := rfl
  have hblobs : ∀ selected, ∀ digests : List Text, digests.mapM
      ((db.retentionTables userId references).blobRelease
      (references.filter (·.1 ∈ (db.activeUploads now).map (·.id))) [] now trees selected objects) =
      (digests.mapM (db.blobRelease references now trees selected objects)).mapError
        ContentFailure.toHistory := by
    intro selected digests
    rw [mapError_mapM, funext (blobRelease_retentionTables hids)]
  rw [ContentStore.reclamationPlan, RetentionTables.reclamationPlan]
  simp only [mapError_reject_bind, funext hview, haffected, mapM_references_retentionTables,
    ok_bind, hblobs]
  congr 2
  funext _
  congr 1
  funext _
  cases (sortedSet (objects.map (·.digest))).mapM (db.blobRelease references now trees
    (db.affectedObjects trees ++ objectKeys) objects) <;> rfl

end

/-! ### After a release -/

/-- The index of a user with the rows that a release writes. Uploads have a primary key. -/
structure ContentTables extends RetentionTables where
  usage : Option SkillStorageUsage := none
  objects : List SkillContentObject := []
  deletions : List SkillContentDeletion := []
  upload_ids : (uploads.map (·.id)).Nodup

namespace ContentTables

/-- The part of the rows that a release reads and writes. -/
def store (db : ContentTables) : ContentStore :=
  { usage := db.usage, objects := db.objects, treeObjects := db.treeObjects,
    deletions := db.deletions }

/-- `_release`, and with the trees go their references. -/
def release (db : ContentTables) (taskId : Text → Text) (issuedAt : ℤ)
    (plan : ContentReclamationPlan) : Except ContentFailure ContentTables := do
  let after ← db.store.releasePlan taskId issuedAt plan
  return { db with
    usage := after.usage, objects := after.objects, deletions := after.deletions
    treeObjects := after.treeObjects
    trees := db.trees.filter fun t => treeKey t.category t.digest ∉ plan.requestedTrees }

variable {db after : ContentTables} {taskId : Text → Text} {issuedAt : ℤ}
  {plan : ContentReclamationPlan}

/-- What a release leaves: uploads stay, the trees' references go, released objects are
gone or marked. -/
lemma release_eq_ok (h : db.release taskId issuedAt plan = .ok after) :
    after.uploads = db.uploads ∧ after.uploadObjects = db.uploadObjects ∧
      after.treeObjects = db.treeObjects.filter
        (fun r => treeKey r.category r.treeDigest ∉ plan.requestedTrees) ∧
      after.objects = ContentStore.settleObjects (plan.blobs.flatMap ContentStore.removedKeys)
        (plan.blobs.flatMap ContentStore.markedKeys) db.objects := by
  rw [release, bind_eq_ok] at h
  obtain ⟨store, hstore, h⟩ := h
  obtain rfl := Except.ok.inj h
  rw [ContentStore.releasePlan, reject_bind_eq_ok] at hstore
  rw [ContentStore.foldlM_releaseBlob_eq_ok hstore.2]
  exact ⟨rfl, rfl, rfl, rfl⟩

lemma leased_release (h : db.release taskId issuedAt plan = .ok after) {now : ℤ}
    {c : StorageCategory} {digest : Text} :
    after.Leased now c digest ↔ db.Leased now c digest := by
  obtain ⟨huploads, hobjects, -⟩ := release_eq_ok h
  simp only [RetentionTables.Leased, RetentionTables.Declares, huploads, hobjects]

/-- An object that is left under a released key is marked for deletion. -/
lemma deleting_of_released (h : db.release taskId issuedAt plan = .ok after)
    {o : SkillContentObject} (ho : o ∈ after.objects)
    (hkey : o.retentionKey ∈ plan.released.map (·.key)) : o.status = .deleting := by
  rw [(release_eq_ok h).2.2.2] at ho
  obtain ⟨old, -, hkept, rfl⟩ := ContentStore.mem_settleObjects.mp ho
  have hsame : (if old.retentionKey ∈ plan.blobs.flatMap ContentStore.markedKeys then
      { old with status := ObjectStatus.deleting } else old).retentionKey = old.retentionKey := by
    split_ifs <;> rfl
  rw [hsame, ContentStore.mem_released_iff] at hkey
  rw [if_pos (hkey.resolve_left hkept)]

variable {views : List StoredTreeRetention} {objects : List SkillContentObject}
  {trees objectKeys : List RetentionKey} {now : ℤ} {allUnreferenced : Bool}
  {projected : List (Text × Text)}

/-- A plan releases an object exactly if it may, deletes a file exactly if nothing keeps it,
and its release leaves no reference and no lease to a released object. -/
theorem reclamationPlan_spec (h : db.reclamationPlan views objects trees objectKeys now
      allUnreferenced projected = .ok plan) :
    (∀ o ∈ objects, ∃ blob ∈ plan.blobs, o.digest = blob.digest) ∧
    (∀ blob ∈ plan.blobs, ∀ o ∈ objects, o.digest = blob.digest → ∃ row ∈ blob.objects,
      row.key = o.retentionKey ∧
        (row.release ↔ db.Releasable projected trees objectKeys now o)) ∧
    (∀ blob ∈ plan.blobs, ∀ row ∈ blob.objects, ∃ o ∈ objects, o.digest = blob.digest ∧
      row.key = o.retentionKey ∧
        (row.release ↔ db.Releasable projected trees objectKeys now o)) ∧
    (∀ blob ∈ plan.blobs, blob.deleteFile ↔
      (∀ o ∈ objects, o.digest = blob.digest →
        db.Releasable projected trees objectKeys now o) ∧
          ∀ c, ¬db.Leased now c blob.digest) ∧
    ∀ (taskId : Text → Text) (issuedAt : ℤ) (after : ContentTables), plan.ready →
      db.release taskId issuedAt plan = .ok after → ∀ key ∈ plan.released.map (·.key),
        (∀ r ∈ after.treeObjects, objectKey r.category r.objectDigest ≠ key) ∧
        (∀ c digest, after.Leased now c digest → objectKey c digest ≠ key) ∧
        ∀ o ∈ after.objects, o.retentionKey = key → o.status = .deleting := by
  have hplans := RetentionTables.reclamationPlan_plans db.upload_ids h
  refine ⟨hplans.files, hplans.rows, hplans.described, fun _ => hplans.deleteFile_iff, ?_⟩
  intro taskId issuedAt after _ hrelease key hkey
  obtain ⟨o, -, hreleased, hmay⟩ := hplans.of_released hkey
  refine ⟨?_, ?_, ?_⟩
  · intro r hr hsame
    obtain ⟨hcategory, hdigest⟩ := objectKey_inj.mp (hsame.trans hreleased)
    rw [(release_eq_ok hrelease).2.2.1, hplans.requested] at hr
    simp only [List.mem_filter, decide_eq_true_eq] at hr
    exact hr.2 (hcategory ▸ hmay.unreferenced r hr.1 hcategory hdigest)
  · intro c digest hleased hsame
    obtain ⟨rfl, rfl⟩ := objectKey_inj.mp (hsame.trans hreleased)
    exact hmay.unleased ((leased_release hrelease).mp hleased)
  · intro o' ho' hsame
    exact deleting_of_released hrelease ho' (hsame ▸ hkey)

/-- A tree of packages goes and a state upload in the old format still names its file. -/
def leasedTables : ContentTables where
  userId := ['o']
  trees := [⟨.package, ['t'], some 0⟩]
  treeObjects := [⟨.package, ['t'], ['d']⟩]
  uploads := [⟨['u'], .state, .staged, 9, 0, some [.textFile ['f'] 1 ['d']]⟩]
  usage := some { packageBytes := 1, stateBytes := 1 }
  objects := [⟨.package, ['d'], 1, .text, .available, 0⟩, ⟨.state, ['d'], 1, .text, .available, 0⟩]
  upload_ids := by decide

theorem reclamationPlan_spec_leased :
    let plan : ContentReclamationPlan :=
      ((leasedTables.reclamationPlan [⟨treeKey .package ['t'], ∅, some 0, some 3, []⟩]
        leasedTables.objects [treeKey .package ['t']] [objectKey .state ['d']] 5 false
        []).toOption.getD ⟨[], [], false, [], [], []⟩)
    plan.ready ∧ plan.released.map (·.key) = [objectKey .package ['d']] ∧
      (∀ blob ∈ plan.blobs, ¬blob.deleteFile) ∧
      ∃ after, leasedTables.release id 6 plan = .ok after ∧
        ∀ r ∈ after.treeObjects, objectKey r.category r.objectDigest ≠ objectKey .package ['d'] := by
  intro plan
  have hplan := eq_ok_getD (x := leasedTables.reclamationPlan
    [⟨treeKey .package ['t'], ∅, some 0, some 3, []⟩] leasedTables.objects
    [treeKey .package ['t']] [objectKey .state ['d']] 5 false []) (by decide +kernel)
    ⟨[], [], false, [], [], []⟩
  have hready : plan.ready := by decide +kernel
  have hreleased : plan.released.map (·.key) = [objectKey .package ['d']] := by decide +kernel
  have hafter := eq_ok_getD (x := leasedTables.release id 6 plan) (by decide +kernel) leasedTables
  have hspec := reclamationPlan_spec hplan
  refine ⟨hready, hreleased, by decide +kernel, _, hafter, ?_⟩
  apply (hspec.2.2.2.2 id 6 _ hready hafter _ ?_).1
  rw [hreleased]
  exact List.mem_singleton_self _

end ContentTables

end AgentRemote
