import AgentRemote.Library.Tally
import AgentRemote.Storage.Release

/-!
# The accounting invariant

Per category the counters are the sizes of the available objects and the reservations of the
staged uploads. Every live upload has declared its files and reserved at least what is
missing of them, which is why a completion never exceeds the quota.
-/

namespace AgentRemote
open Library

/-- What an object counts for in a category. -/
def availableSize (c : StorageCategory) (o : SkillContentObject) : ℕ :=
  if o.category = c ∧ o.status = .available then o.size else 0

/-- What an upload holds in a category. -/
def stagedReserve (c : StorageCategory) (u : SkillContentUpload) : ℕ :=
  if u.status = .staged ∧ category u.scope = c then u.reservedBytes else 0

namespace ContentStore

def storedBytes (db : ContentStore) (c : StorageCategory) : ℕ := tally (availableSize c) db.objects

def reservedBytes (db : ContentStore) (c : StorageCategory) : ℕ := tally (stagedReserve c) db.uploads

/-- A live upload can be completed within its reservation. -/
def Covered (db : ContentStore) (u : SkillContentUpload) : Prop :=
  ∃ files, uniqueFiles u.manifest = .ok files ∧
    (∀ e ∈ files, (⟨u.id, e.sha256, e⟩ : SkillUploadObject) ∈ db.uploadObjects) ∧
      db.missingBytes (category u.scope) files ≤ u.reservedBytes

/-- The accounting of a user at a time. -/
structure Accounted (policy : SkillStoragePolicy) (now : ℤ) (db : ContentStore) : Prop where
  objectKeys : (db.objects.map (·.retentionKey)).Nodup
  uploadIds : (db.uploads.map (·.id)).Nodup
  bytes_eq : ∀ c, db.counters.bytes c = db.storedBytes c
  reserved_eq : ∀ c, db.counters.reserved c = db.reservedBytes c
  covered : ∀ u ∈ db.uploads, u.status = .staged → now < u.expiresAt → db.Covered u
  quota : ∀ c, db.counters.bytes c + db.counters.reserved c ≤ policy.quota c

variable {policy : SkillStoragePolicy} {now : ℤ} {db db' : ContentStore}

lemma accounted_empty : Accounted policy now {} where
  objectKeys := by simp
  uploadIds := by simp
  bytes_eq c := by cases c <;> rfl
  reserved_eq c := by cases c <;> rfl
  covered := by simp
  quota c := by
    have hzero : ({} : ContentStore).counters.bytes c + ({} : ContentStore).counters.reserved c = 0 := by
      cases c <;> rfl
    rw [hzero]
    exact Int.natCast_nonneg _

/-- Leases only end as time passes. -/
lemma Accounted.later (h : Accounted policy now db) {later : ℤ} (hle : now ≤ later) :
    Accounted policy later db :=
  { h with covered := fun u hu hstaged hlive => h.covered u hu hstaged (hle.trans_lt hlive) }

lemma Accounted.lockUsage (h : Accounted policy now db) : Accounted policy now db.lockUsage :=
  ⟨h.objectKeys, h.uploadIds, h.bytes_eq, h.reserved_eq, h.covered, h.quota⟩

/-- Fewer files are missing when more files have an object. -/
lemma missingBytes_le {c : StorageCategory} {files : List SkillTreeEntry}
    (h : ∀ e ∈ files, (db.object c e.sha256).isSome → (db'.object c e.sha256).isSome) :
    db'.missingBytes c files ≤ db.missingBytes c files := by
  apply tally_filter_le
  intro e he hnone
  rw [Option.isNone_iff_eq_none] at hnone ⊢
  cases hdb : db.object c e.sha256 with
  | none => rfl
  | some o =>
    have hsome := h e he (by rw [hdb]; rfl)
    rw [hnone] at hsome
    exact absurd hsome (by simp)

/-- A lease stays covered while its declarations and the objects it counts on stay. -/
lemma Covered.mono {u : SkillContentUpload} (h : db.Covered u)
    (hrows : ∀ row ∈ db.uploadObjects, row.uploadId = u.id → row ∈ db'.uploadObjects)
    (hobjects : ∀ row ∈ db.uploadObjects, row.uploadId = u.id →
      (db.object (category u.scope) row.digest).isSome →
        (db'.object (category u.scope) row.digest).isSome) : db'.Covered u := by
  obtain ⟨files, hfiles, hdeclared, hmissing⟩ := h
  refine ⟨files, hfiles, fun e he => hrows _ (hdeclared e he) rfl, le_trans ?_ hmissing⟩
  apply missingBytes_le
  intro e he
  exact hobjects _ (hdeclared e he) rfl

/-! ### Ending a lease -/

lemma mem_updateUpload {upload u : SkillContentUpload} (hu : u ∈ (db.updateUpload upload).uploads) :
    u = upload ∨ u ∈ db.uploads ∧ u.id ≠ upload.id := by
  simp only [updateUpload, List.mem_map] at hu
  obtain ⟨v, hv, rfl⟩ := hu
  by_cases h : v.id = upload.id
  · simp [h]
  · simp [h, hv]

lemma map_id_updateUpload (upload : SkillContentUpload) :
    (db.updateUpload upload).uploads.map (·.id) = db.uploads.map (·.id) := by
  simp only [updateUpload, List.map_map]
  apply List.map_congr_left
  intro u _
  simp only [Function.comp_apply]
  split_ifs with h
  · exact h.symm
  · rfl

lemma reservedBytes_updateUpload (hids : (db.uploads.map (·.id)).Nodup) {old new : SkillContentUpload}
    (hold : old ∈ db.uploads) (hid : new.id = old.id) (c : StorageCategory) :
    (db.updateUpload new).reservedBytes c + stagedReserve c old =
      db.reservedBytes c + stagedReserve c new :=
  tally_replace hids hold hid

/-- Ending a staged upload whose objects are `objects` afterwards: its reservation is returned
and `added` bytes are charged instead. -/
lemma Accounted.finishUpload (h : Accounted policy now db) {u new : SkillContentUpload}
    (hu : u ∈ db.uploads) (hstaged : u.status = .staged) (hid : new.id = u.id)
    (hended : new.status ≠ .staged) {added : ℕ} (hadded : added ≤ u.reservedBytes)
    (hstored : ∀ c, db'.storedBytes c =
      db.storedBytes c + if category u.scope = c then added else 0)
    (hkeys : (db'.objects.map (·.retentionKey)).Nodup)
    (hobjects : ∀ c d, (db.object c d).isSome → (db'.object c d).isSome)
    (hcounters : db'.counters =
      (db.counters.release u.reservedBytes (category u.scope)).addBytes added (category u.scope))
    (huploads : db'.uploads = (db.updateUpload new).uploads)
    (hrows : db'.uploadObjects = (db.clearDeclarations u.id).uploadObjects) :
    Accounted policy now db' := by
  have hreserved : ∀ c, (db'.reservedBytes c : ℤ) =
      db.reservedBytes c - if category u.scope = c then (u.reservedBytes : ℤ) else 0 := by
    intro c
    have hbalance := reservedBytes_updateUpload h.uploadIds hu hid c
    have hnew : stagedReserve c new = 0 := by simp [stagedReserve, hended]
    have hold : stagedReserve c u = if category u.scope = c then u.reservedBytes else 0 := by
      simp [stagedReserve, hstaged]
    have hsame : db'.reservedBytes c = (db.updateUpload new).reservedBytes c := by
      simp only [reservedBytes, huploads]
    rw [hsame]
    rw [hnew, hold] at hbalance
    split_ifs at hbalance ⊢ <;> omega
  refine ⟨hkeys, ?_, ?_, ?_, ?_, ?_⟩
  · rw [huploads, map_id_updateUpload]
    exact h.uploadIds
  · intro c
    rw [hcounters, hstored]
    simp only [SkillStorageUsage.bytes_addBytes, SkillStorageUsage.bytes_release, h.bytes_eq c]
    split_ifs <;> simp
  · intro c
    rw [hcounters, hreserved]
    simp only [SkillStorageUsage.reserved_addBytes, SkillStorageUsage.reserved_release,
      h.reserved_eq c]
  · intro v hv hvstaged hlive
    rw [huploads] at hv
    rcases mem_updateUpload hv with rfl | ⟨hv, hne⟩
    · exact absurd hvstaged hended
    · apply (h.covered v hv hvstaged hlive).mono
      · intro row hrow hrowid
        rw [hrows]
        simp only [clearDeclarations, List.mem_filter, decide_eq_true_eq]
        exact ⟨hrow, by rw [hrowid, ← hid]; exact hne⟩
      · intro row _ _
        exact hobjects _ _
  · intro c
    have hquota := h.quota c
    rw [hcounters]
    simp only [SkillStorageUsage.bytes_addBytes, SkillStorageUsage.bytes_release,
      SkillStorageUsage.reserved_addBytes, SkillStorageUsage.reserved_release]
    split_ifs <;> omega

lemma Accounted.expireUpload (h : Accounted policy now db) {u : SkillContentUpload}
    (hu : u ∈ db.uploads) (hstaged : u.status = .staged) :
    Accounted policy now (db.expireUpload u) := by
  have hid : ({ u with reservedBytes := 0, status := .expired } : SkillContentUpload).id = u.id := rfl
  apply h.finishUpload hu hstaged hid (by simp) (Nat.zero_le _)
  · intro c
    rw [ite_self, add_zero]
    rfl
  · exact h.objectKeys
  · exact fun c d hd => hd
  · cases hc : category u.scope <;>
      simp [ContentStore.expireUpload, counters, hc, SkillStorageUsage.addBytes, updateUpload,
        clearDeclarations]
  · rfl
  · rfl

/-- `_expire` ends leases one by one. -/
lemma Accounted.expire (h : Accounted policy now db) : Accounted policy now (db.expire now) := by
  have hall : ∀ (ended : List SkillContentUpload) (db : ContentStore), Accounted policy now db →
      (ended.map (·.id)).Nodup → (∀ u ∈ ended, u ∈ db.uploads ∧ u.status = .staged) →
        Accounted policy now (ended.foldl ContentStore.expireUpload db) := by
    intro ended
    induction ended with
    | nil => exact fun db hdb _ _ => hdb
    | cons u ended ih =>
      intro db hdb hids hmem
      rw [List.map_cons, List.nodup_cons] at hids
      obtain ⟨hu, hstaged⟩ := hmem u List.mem_cons_self
      apply ih _ (hdb.expireUpload hu hstaged) hids.2
      intro v hv
      obtain ⟨hvmem, hvstaged⟩ := hmem v (List.mem_cons_of_mem _ hv)
      refine ⟨?_, hvstaged⟩
      simp only [ContentStore.expireUpload, updateUpload, clearDeclarations, List.mem_map]
      refine ⟨v, hvmem, if_neg ?_⟩
      intro he
      exact hids.1 (he ▸ List.mem_map_of_mem hv)
  apply hall _ db h
  · exact h.uploadIds.sublist (List.filter_sublist.map _)
  · intro u hu
    simp only [expiredUploads, List.mem_filter, decide_eq_true_eq] at hu
    exact ⟨hu.1, hu.2.1⟩

/-! ### Beginning an upload -/

variable [Sha256] {key id : Text} {manifest : SkillTreeManifest} {scope : ContentScope}
  {files : List SkillTreeEntry} {upload : SkillContentUpload} {issuedAt : ℤ}

lemma Accounted.beginLocked (h : Accounted policy now db) (hfiles : uniqueFiles manifest = .ok files)
    (hbegin : db.beginLocked policy issuedAt id key manifest scope files = .ok (db', upload)) :
    Accounted policy now db' := by
  unfold ContentStore.beginLocked at hbegin
  split at hbegin
  · rw [reject_bind_eq_ok] at hbegin
    obtain ⟨rfl, _⟩ := Prod.mk.inj (Except.ok.inj hbegin.2)
    exact h
  · rw [bind_eq_ok] at hbegin
    obtain ⟨_, _, hbegin⟩ := hbegin
    rw [bind_eq_ok] at hbegin
    obtain ⟨_, _, hbegin⟩ := hbegin
    rw [bind_eq_ok] at hbegin
    obtain ⟨usage, hreserve, hbegin⟩ := hbegin
    rw [reject_bind_eq_ok] at hbegin
    obtain ⟨hfresh, hbegin⟩ := hbegin
    obtain ⟨rfl, rfl⟩ := Prod.mk.inj (Except.ok.inj hbegin)
    obtain ⟨hbytes, hreserved, hlimit⟩ := SkillStorageUsage.reserve_eq_ok _ hreserve
    have hid : id ∉ db.uploads.map (·.id) := by
      intro hid
      obtain ⟨u, hu, he⟩ := List.mem_map.mp hid
      exact hfresh (lookup_isSome_iff.mpr ⟨u, hu, he⟩)
    refine ⟨h.objectKeys, ?_, ?_, ?_, ?_, ?_⟩
    · simpa [addUpload, List.nodup_append, h.uploadIds] using hid
    · intro c
      exact (hbytes c).trans (h.bytes_eq c)
    · intro c
      refine (hreserved c).trans ?_
      rw [h.reserved_eq c]
      simp only [reservedBytes, addUpload, tally_append, tally_cons, tally_nil, stagedReserve]
      split_ifs <;> simp_all
    · intro u hu hstaged hlive
      simp only [addUpload, List.mem_append, List.mem_singleton] at hu
      rcases hu with hu | rfl
      · apply (h.covered u hu hstaged hlive).mono
        · exact fun row hrow _ => List.mem_append_left _ hrow
        · exact fun row _ _ hsome => hsome
      · refine ⟨files, hfiles, ?_, le_rfl⟩
        intro e he
        exact List.mem_append_right _ (List.mem_map_of_mem he)
    · intro c
      have hquota := h.quota c
      by_cases hc : category scope = c
      · subst hc
        exact hlimit
      · refine le_trans (le_of_eq ?_) hquota
        rw [show (ContentStore.addUpload _ _ _).counters = usage from rfl, hbytes, hreserved,
          if_neg hc, add_zero]

lemma Accounted.beginUpload {now issuedAt : ℤ} (h : Accounted policy now db)
    (hbegin : db.beginUpload policy now issuedAt id key manifest scope = .ok (db', upload)) :
    Accounted policy now db' := by
  rw [ContentStore.beginUpload, reject_bind_eq_ok, bind_eq_ok] at hbegin
  obtain ⟨_, _, _, hbegin⟩ := hbegin
  rw [bind_eq_ok] at hbegin
  obtain ⟨files, hfiles, hbegin⟩ := hbegin
  exact h.lockUsage.expire.beginLocked hfiles hbegin

/-! ### Completing an upload -/

section Register

variable (c : StorageCategory) (upload : SkillContentUpload) (files : List SkillTreeEntry)

omit [Sha256]

@[simp] lemma objects_registerTree : (db.registerTree c upload files).objects = db.objects := by
  unfold registerTree
  split_ifs <;> rfl

@[simp] lemma usage_registerTree : (db.registerTree c upload files).usage = db.usage := by
  unfold registerTree
  split_ifs <;> rfl

@[simp] lemma uploads_registerTree : (db.registerTree c upload files).uploads = db.uploads := by
  unfold registerTree
  split_ifs <;> rfl

@[simp] lemma uploadObjects_registerTree :
    (db.registerTree c upload files).uploadObjects = db.uploadObjects := by
  unfold registerTree
  split_ifs <;> rfl

@[simp] lemma deletions_registerTree :
    (db.registerTree c upload files).deletions = db.deletions := by
  unfold registerTree
  split_ifs <;> rfl

lemma objects_commitUpload : (db.commitUpload now upload files).objects = db.objects ++
    (db.missingFiles (category upload.scope) files).map (newObject (category upload.scope) now) := by
  simp [commitUpload, updateUpload, clearDeclarations]

end Register

omit [Sha256] in
/-- The digests of unique files do not repeat. -/
lemma nodup_digests (h : uniqueFiles manifest = .ok files) : (digests files).Nodup := by
  apply foldlM_ok_induction (fun files : List SkillTreeEntry => (digests files).Nodup) _ _ h
  · intro s e s' _ hs hstep
    unfold addUniqueFile at hstep
    split_ifs at hstep
    · obtain rfl := Except.ok.inj hstep
      exact hs
    · rw [reject_bind_eq_ok] at hstep
      obtain rfl := Except.ok.inj hstep.2
      exact nodup_put hs e
  · exact List.nodup_nil

omit [Sha256] in
/-- New objects do not repeat a key. -/
lemma nodup_commitUpload (hkeys : (db.objects.map (·.retentionKey)).Nodup)
    (hfiles : uniqueFiles upload.manifest = .ok files) :
    ((db.commitUpload now upload files).objects.map (·.retentionKey)).Nodup := by
  rw [objects_commitUpload, List.map_append, List.nodup_append]
  refine ⟨hkeys, ?_, ?_⟩
  · rw [List.map_map]
    have hdigests : ((db.missingFiles (category upload.scope) files).map (·.sha256)).Nodup :=
      (nodup_digests hfiles).sublist (List.filter_sublist.map _)
    apply List.Nodup.of_map (·.identity)
    rw [List.map_map]
    exact hdigests
  · rintro key hold _ hnew rfl
    simp only [List.map_map, List.mem_map, missingFiles, List.mem_filter] at hnew
    obtain ⟨e, ⟨-, hnone⟩, rfl⟩ := hnew
    obtain ⟨o, ho, hkey⟩ := List.mem_map.mp hold
    have hsome : (db.object (category upload.scope) e.sha256).isSome :=
      object_isSome_iff.mpr ⟨o, ho, hkey⟩
    rw [Option.isNone_iff_eq_none.mp hnone] at hsome
    exact absurd hsome (by simp)

omit [Sha256] in
lemma Accounted.commitUpload (h : Accounted policy now db) (hu : upload ∈ db.uploads)
    (hstaged : upload.status = .staged) (hlive : now < upload.expiresAt)
    (hfiles : uniqueFiles upload.manifest = .ok files) :
    Accounted policy now (db.commitUpload now upload files) := by
  obtain ⟨files', hfiles', -, hmissing⟩ := h.covered upload hu hstaged hlive
  obtain rfl : files = files' := Except.ok.inj (hfiles.symm.trans hfiles')
  have hid : ({ upload with reservedBytes := 0, status := .committed } : SkillContentUpload).id =
    upload.id := rfl
  apply h.finishUpload hu hstaged hid (by simp) hmissing
  · intro c
    rw [storedBytes, objects_commitUpload, tally_append]
    congr 1
    by_cases hc : category upload.scope = c
    · subst hc
      simp [missingBytes, totalBytes, tally, availableSize, newObject, Function.comp_def]
    · rw [if_neg hc]
      apply tally_eq_zero
      intro o ho
      obtain ⟨e, -, rfl⟩ := List.mem_map.mp ho
      exact if_neg fun he => hc he.1
  · exact nodup_commitUpload h.objectKeys hfiles
  · intro c d hd
    rw [object_isSome_iff] at hd ⊢
    rw [objects_commitUpload]
    obtain ⟨o, ho, hkey⟩ := hd
    exact ⟨o, List.mem_append_left _ ho, hkey⟩
  · simp [ContentStore.commitUpload, counters, updateUpload, clearDeclarations]
  · simp [ContentStore.commitUpload, updateUpload, clearDeclarations]
  · simp [ContentStore.commitUpload, updateUpload, clearDeclarations]

/-- The tables a completion commits are those of an active upload, or the same as before. -/
lemma completeUpload_eq_ok {analysed : Bool}
    (h : db.completeUpload now id analysed = .ok (db', files)) :
    db' = db.lockUsage ∧ files = [] ∨
      ∃ u ∈ db.uploads, u.status = .staged ∧ now < u.expiresAt ∧
        uniqueFiles u.manifest = .ok files ∧
          db.requireAvailableFiles (digests files) = .ok () ∧
            db' = db.lockUsage.commitUpload now u files := by
  simp only [completeUpload] at h
  rw [bind_eq_ok] at h
  obtain ⟨u, hu, h⟩ := h
  have hmem : u ∈ db.uploads := by
    unfold requireUpload at hu
    split at hu
    · rename_i found hfound
      obtain rfl := Except.ok.inj hu
      exact mem_of_lookup hfound
    · exact absurd hu (by simp)
  split_ifs at h with hcommitted
  · left
    unfold completeAgain at h
    split at h
    · exact absurd h (by simp)
    · rw [bind_eq_ok] at h
      obtain ⟨_, _, h⟩ := h
      rw [bind_eq_ok] at h
      obtain ⟨_, _, h⟩ := h
      obtain ⟨rfl, rfl⟩ := Prod.mk.inj (Except.ok.inj h)
      exact ⟨rfl, rfl⟩
  · right
    have h := retentionMutation_eq_ok h
    rw [completeActive, bind_eq_ok] at h
    obtain ⟨_, hactive, h⟩ := h
    rw [reject_bind_eq_ok, bind_eq_ok] at h
    obtain ⟨_, entries, hentries, h⟩ := h
    rw [bind_eq_ok] at h
    obtain ⟨_, havailable, h⟩ := h
    rw [bind_eq_ok] at h
    obtain ⟨_, _, h⟩ := h
    obtain ⟨rfl, rfl⟩ := Prod.mk.inj (Except.ok.inj h)
    simp only [requireActive, reject_eq_ok, not_or, not_not, not_le] at hactive
    exact ⟨u, hmem, hactive.1, hactive.2, hentries, havailable, rfl⟩

lemma Accounted.completeUpload {analysed : Bool} (h : Accounted policy now db)
    (hcomplete : db.completeUpload now id analysed = .ok (db', files)) :
    Accounted policy now db' := by
  rcases completeUpload_eq_ok hcomplete with ⟨rfl, -⟩ | ⟨u, hu, hstaged, hlive, hfiles, -, rfl⟩
  · exact h.lockUsage
  · exact h.lockUsage.commitUpload hu hstaged hlive hfiles

/-! ### Releasing a plan -/

section Release

variable {references : List (Text × Text)} {plan : ContentReclamationPlan} {taskId : Text → Text}

omit [Sha256]

lemma availableSize_of_kind {c : StorageCategory} {o : SkillContentObject}
    (h : o.retentionKey.kind ≠ objectKind c) : availableSize c o = 0 :=
  if_neg fun hc => h (congrArg objectKind hc.1)

/-- Settled objects no longer count. -/
lemma tally_settleObjects (removed marked : List RetentionKey) (objects : List SkillContentObject)
    (c : StorageCategory) : tally (availableSize c) (settleObjects removed marked objects) =
      tally (fun o => if o.retentionKey ∈ removed ∨ o.retentionKey ∈ marked then 0
        else availableSize c o) objects := by
  rw [settleObjects, tally_filterMap]
  apply tally_congr
  intro o _
  by_cases hr : o.retentionKey ∈ removed
  · simp [hr]
  · by_cases hm : o.retentionKey ∈ marked
    · simp [hr, hm, availableSize]
    · simp [hr, hm]

/-- The bytes a plan says it releases are those of the objects it settles. -/
lemma storedBytes_releasedTables (taskId : Text → Text) (issuedAt : ℤ) (hkeys : (db.objects.map (·.retentionKey)).Nodup)
    (hplanned : db.Planned references now plan) (hready : plan.ready) (c : StorageCategory) :
    (db.releasedTables taskId issuedAt plan).storedBytes c + plan.releasedBytes c =
      db.storedBytes c := by
  let picked := plan.released.filter fun row => row.key.kind = objectKind c
  have hpicked : tally (fun o => if o.retentionKey ∈ picked.map (·.key) then availableSize c o
      else 0) db.objects = tally (·.size) picked := by
    apply tally_picked hkeys
    · exact hplanned.nodup_released.sublist (List.filter_sublist.map _)
    · intro row hrow
      simp only [picked, List.mem_filter, decide_eq_true_eq] at hrow
      obtain ⟨o, ho, hkey, hsize, havailable, -⟩ := hplanned.released hrow.1
      have hcategory : o.category = c := by
        apply objectKind_injective
        rw [← hrow.2, ← hkey]
        rfl
      exact ⟨o, ho, hkey, by simp [availableSize, hcategory, havailable, hsize]⟩
  have hreleased : plan.releasedBytes c = tally (·.size) picked := by
    rw [ContentReclamationPlan.releasedBytes, if_pos hready]
    rfl
  have hsplit : ∀ o ∈ db.objects, availableSize c o =
      (if o.retentionKey ∈ plan.blobs.flatMap removedKeys ∨
          o.retentionKey ∈ plan.blobs.flatMap markedKeys then 0 else availableSize c o) +
        if o.retentionKey ∈ picked.map (·.key) then availableSize c o else 0 := by
    intro o _
    simp only [← mem_released_iff]
    by_cases hkind : o.retentionKey.kind = objectKind c
    · have hiff : o.retentionKey ∈ picked.map (·.key) ↔
          o.retentionKey ∈ plan.released.map (·.key) := by
        simp only [picked, List.mem_map, List.mem_filter, decide_eq_true_eq]
        constructor
        · rintro ⟨row, ⟨hrow, -⟩, hkey⟩
          exact ⟨row, hrow, hkey⟩
        · rintro ⟨row, hrow, hkey⟩
          exact ⟨row, ⟨hrow, by rw [hkey, hkind]⟩, hkey⟩
      simp only [hiff]
      split_ifs <;> simp
    · simp [availableSize_of_kind hkind]
  rw [hreleased, ← hpicked, storedBytes, storedBytes, tally_congr hsplit, tally_add]
  congr 1
  exact tally_settleObjects _ _ _ _

/-- An object that a live upload declares keeps its row. -/
lemma object_releasedTables (h : Accounted policy now db)
    (hreferences : db.uploadReferences = .ok references)
    (hplanned : db.Planned references now plan) {u : SkillContentUpload} (hu : u ∈ db.uploads)
    (hstaged : u.status = .staged) (hlive : now < u.expiresAt) {row : SkillUploadObject}
    (hrow : row ∈ db.uploadObjects) (hid : row.uploadId = u.id)
    (hsome : (db.object (category u.scope) row.digest).isSome) :
    ((db.releasedTables taskId issuedAt plan).object (category u.scope) row.digest).isSome := by
  rw [object_isSome_iff] at hsome ⊢
  obtain ⟨o, ho, hkey⟩ := hsome
  suffices hkept : objectKey (category u.scope) row.digest ∈
      (db.releasedTables taskId issuedAt plan).objects.map (·.retentionKey) from List.mem_map.mp hkept
  rw [releasedTables, map_retentionKey_settleObjects, List.mem_filter]
  refine ⟨List.mem_map.mpr ⟨o, ho, hkey⟩, ?_⟩
  rw [decide_eq_true_eq]
  intro hremoved
  obtain ⟨released, hreleased, hsame⟩ := List.mem_map.mp (mem_released_iff.mpr (Or.inl hremoved))
  obtain ⟨o', ho', hkey', -, -, hunleased⟩ := hplanned.released hreleased
  obtain rfl : o' = o := eq_of_key_eq h.objectKeys ho' ho (by rw [hkey', hsame, hkey])
  obtain ⟨hcategory, hdigest⟩ := SkillContentObject.retentionKey_eq_iff.mp hkey
  have hlease := lease_mem h.uploadIds hreferences hu hstaged hlive hrow hid
  rw [← hdigest] at hlease
  exact hunleased _ hlease hcategory.symm

lemma Accounted.releasedTables (h : Accounted policy now db)
    (hreferences : db.uploadReferences = .ok references)
    (hplanned : db.Planned references now plan) (hready : plan.ready) :
    Accounted policy now (db.releasedTables taskId issuedAt plan) := by
  have hcounters : ∀ c, (db.releasedTables taskId issuedAt plan).counters.bytes c =
      db.counters.bytes c - plan.releasedBytes c := by
    intro c
    simp only [ContentStore.releasedTables, counters, Option.getD_some,
      SkillStorageUsage.bytes_addBytes]
    cases c <;> simp [sub_eq_add_neg]
  have hreserved : ∀ c, (db.releasedTables taskId issuedAt plan).counters.reserved c =
      db.counters.reserved c := by
    intro c
    simp [ContentStore.releasedTables, counters]
  refine ⟨?_, h.uploadIds, ?_, ?_, ?_, ?_⟩
  · rw [ContentStore.releasedTables, map_retentionKey_settleObjects]
    exact h.objectKeys.filter _
  · intro c
    have hstored := storedBytes_releasedTables taskId issuedAt h.objectKeys hplanned hready c
    rw [hcounters, h.bytes_eq, ← hstored]
    push_cast
    omega
  · intro c
    rw [hreserved]
    exact h.reserved_eq c
  · intro u hu hstaged hlive
    apply (h.covered u hu hstaged hlive).mono
    · exact fun row hrow _ => hrow
    · intro row hrow hid
      exact object_releasedTables h hreferences hplanned hu hstaged hlive hrow hid
  · intro c
    have hquota := h.quota c
    rw [hcounters, hreserved]
    omega

lemma Accounted.applyReclamation {views : List StoredTreeRetention} {analysed : Bool}
    (h : Accounted policy now db)
    (happly : db.applyReclamation views now issuedAt taskId plan analysed = .ok db') :
    Accounted policy now db' := by
  obtain ⟨hready, rfl, -, references, hreferences, hplanned⟩ :=
    applyReclamation_eq_ok h.objectKeys happly
  exact h.lockUsage.releasedTables hreferences hplanned hready

end Release

/-! ### Deleting a file -/

section Deletion

variable {task : SkillContentDeletion} {indexed : Bool}

omit [Sha256]

lemma Accounted.postponeTask (h : Accounted policy now db) (error : String) :
    Accounted policy now (db.postponeTask task now error) :=
  ⟨h.objectKeys, h.uploadIds, h.bytes_eq, h.reserved_eq, h.covered, h.quota⟩

/-- What a passed preflight knows. -/
lemma preflight_eq_none (h : db.preflight task now indexed = none) :
    (∀ o ∈ db.objects, o.digest = task.digest → o.status = .deleting) ∧
      ∃ references, db.uploadReferences = .ok references ∧
        db.uploadLeases references now task.digest = [] := by
  cases hreferences : db.uploadReferences with
  | error _ =>
    simp only [preflight, hreferences] at h
    split_ifs at h
  | ok references =>
    simp only [preflight, hreferences] at h
    split_ifs at h with hmarker _ _ hleases
    refine ⟨?_, references, rfl, not_not.mp hleases⟩
    intro o ho hdigest
    by_contra hne
    apply hmarker
    right
    exact ⟨o, by simp [fileObjects, ho, hdigest], Or.inl hne⟩

lemma Accounted.completeTask {finishedAt : ℤ} (h : Accounted policy now db)
    (hpreflight : db.preflight task now indexed = none) :
    Accounted policy now (db.completeTask task finishedAt) := by
  obtain ⟨hdeleting, references, hreferences, hleases⟩ := preflight_eq_none hpreflight
  have hstored : ∀ c, (db.completeTask task finishedAt).storedBytes c = db.storedBytes c := by
    intro c
    rw [storedBytes, storedBytes, ContentStore.completeTask, updateTask, tally_filter]
    apply tally_congr
    intro o ho
    by_cases hdigest : o.digest = task.digest
    · simp [hdigest, availableSize, hdeleting o ho hdigest]
    · simp [hdigest]
  refine ⟨?_, h.uploadIds, ?_, h.reserved_eq, ?_, h.quota⟩
  · exact h.objectKeys.sublist (List.filter_sublist.map _)
  · intro c
    rw [hstored]
    exact h.bytes_eq c
  · intro u hu hstaged hlive
    apply (h.covered u hu hstaged hlive).mono
    · exact fun row hrow _ => hrow
    · intro row hrow hid hsome
      have hne : row.digest ≠ task.digest := by
        intro he
        have hlease := lease_mem h.uploadIds hreferences hu hstaged hlive hrow hid
        rw [he, hleases] at hlease
        exact absurd hlease List.not_mem_nil
      rw [object_isSome_iff] at hsome ⊢
      obtain ⟨o, ho, hkey⟩ := hsome
      refine ⟨o, ?_, hkey⟩
      simp only [ContentStore.completeTask, updateTask, List.mem_filter, decide_eq_true_eq]
      exact ⟨ho, by rw [(SkillContentObject.retentionKey_eq_iff.mp hkey).2]; exact hne⟩

end Deletion

end ContentStore

end AgentRemote
