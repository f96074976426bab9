import AgentRemote.Storage.Safety

/-!
# Every interleaving keeps live content

The invariant of the whole system: what a thread may assume of the receipts, what the
transaction that holds the user lock may commit, and that available objects have their files.
Each step keeps it, so it holds in every reachable state.
-/

namespace AgentRemote
open Library ContentStore

/-- What tables may replace `db` once the files under `missing` were seen on disk. -/
structure Commits (files : Text → Option ContentFile) (db : ContentStore) (missing : List Text)
    (after : ContentStore) : Prop where
  consistent : after.Consistent
  known : ∀ t ∈ db.deletions, ∃ t' ∈ after.deletions, SameOrder t t'
  complete : ∀ t' ∈ after.deletions, t'.status = .complete →
    ∃ t ∈ db.deletions, t.status = .complete ∧ SameOrder t' t
  stored : ∀ o ∈ after.objects, o.status = .available →
    (files o.digest).isSome ∨ o.digest ∈ missing
  unmarked : ∀ o ∈ after.objects, o.status = .available →
    ∀ t ∈ db.deletions, t.status = .pending → t.digest ≠ o.digest

/-- What a thread relies on. -/
structure ThreadSafe (db : ContentStore) (volume : Volume) (fileLock : Option ℕ) (i : ℕ)
    (thread : DeletionThread) : Prop where
  known : ∃ t ∈ db.deletions, SameOrder thread.task t
  lock : thread.stage.holdsLock → fileLock = some i
  cleared : thread.stage = .cleared ∨ thread.stage = .unlinked →
    volume.receipts thread.task.receipt = false
  done : thread.stage = .done true → volume.receipts thread.task.receipt = true

/-- What the transaction that holds the user lock relies on. -/
def SessionSafe (db : ContentStore) (volume : Volume) (threads : ℕ → Option DeletionThread) :
    UserSession → Prop
  | .collecting request outcome => (∀ o ∈ db.objects, o.digest ∈ request.protectedDigests) ∧
      ∀ after, outcome = .ok after → SameContent db after
  | .storing _ after => SameContent db after
  | .verifying remaining after => Commits volume.files db (digests remaining) after
  | .ready after => Commits volume.files db [] after
  | .deleting task _ i => (∃ thread, threads i = some thread ∧ SameOrder thread.task task) ∧
      task.status = .pending ∧ ∃ t ∈ db.deletions, SameOrder task t ∧ t.status = .pending

structure Safe (s : ContentSystem) : Prop where
  consistent : s.db.Consistent
  stored : Stored s.volume.files s.db
  receipts : ∀ t ∈ s.db.deletions, t.status = .complete → s.volume.receipts t.receipt = true
  threads : ∀ i thread, s.threads i = some thread →
    ThreadSafe s.db s.volume s.fileLock i thread
  session : ∀ session ∈ s.session, SessionSafe s.db s.volume s.threads session

section

variable {s : ContentSystem} {db after : ContentStore} {files : Text → Option ContentFile}
  {missing : List Text}

lemma SameOrder.refl (t : SkillContentDeletion) : SameOrder t t := ⟨rfl, rfl, rfl⟩

lemma SameOrder.symm {t t' : SkillContentDeletion} (h : SameOrder t t') : SameOrder t' t :=
  ⟨h.id.symm, h.digest.symm, h.size.symm⟩

lemma SameOrder.trans {t t' t'' : SkillContentDeletion} (h : SameOrder t t')
    (h' : SameOrder t' t'') : SameOrder t t'' :=
  ⟨h.id.trans h'.id, h.digest.trans h'.digest, h.size.trans h'.size⟩

/-- An available object is not under the digest of a pending task. -/
lemma digest_ne_of_pending (h : db.Consistent) {o : SkillContentObject} (ho : o ∈ db.objects)
    (havailable : o.status = .available) {t : SkillContentDeletion} (ht : t ∈ db.deletions)
    (hpending : t.status = .pending) : t.digest ≠ o.digest := by
  intro he
  have hdeleting := (h.marked t ht hpending).deleting o ho he.symm
  rw [havailable] at hdeleting
  exact absurd hdeleting (by decide)

/-! ### What a request may commit -/

lemma Safe.start (h : Safe s) {session : UserSession}
    (hsession : SessionSafe s.db s.volume s.threads session) : Safe (s.start session) where
  consistent := h.consistent
  stored := h.stored
  receipts := h.receipts
  threads := h.threads
  session _ hmem := Option.some.inj hmem ▸ hsession

lemma Safe.rollback (h : Safe s) : Safe s.rollback where
  consistent := h.consistent
  stored := h.stored
  receipts := h.receipts
  threads := h.threads
  session := by simp [ContentSystem.rollback]

/-- New tables that know all orders and complete none without its receipt. -/
lemma Safe.commit (h : Safe s) (hconsistent : after.Consistent)
    (hstored : Stored s.volume.files after)
    (hknown : ∀ t ∈ s.db.deletions, ∃ t' ∈ after.deletions, SameOrder t t')
    (hreceipts : ∀ t ∈ after.deletions, t.status = .complete →
      s.volume.receipts t.receipt = true) : Safe (s.commit after) where
  consistent := hconsistent
  stored := hstored
  receipts := hreceipts
  threads i thread hthread := by
    have hsafe := h.threads i thread hthread
    obtain ⟨t, ht, hsame⟩ := hsafe.known
    obtain ⟨t', ht', hsame'⟩ := hknown t ht
    exact { hsafe with known := ⟨t', ht', hsame.trans hsame'⟩ }
  session := by simp [ContentSystem.commit]

/-- Files other than those under one digest stay, and receipts do. -/
lemma Safe.withFiles (h : Safe s) {volume : Volume}
    (hreceipts : volume.receipts = s.volume.receipts)
    (hstored : Stored volume.files s.db)
    (hsession : ∀ session ∈ s.session, SessionSafe s.db volume s.threads session) :
    Safe { s with volume := volume } where
  consistent := h.consistent
  stored := hstored
  receipts t ht hcomplete := by
    rw [hreceipts]
    exact h.receipts t ht hcomplete
  threads i thread hthread := by
    have hsafe := h.threads i thread hthread
    refine ⟨hsafe.known, hsafe.lock, ?_, ?_⟩
    · rw [hreceipts]
      exact hsafe.cleared
    · rw [hreceipts]
      exact hsafe.done
  session := hsession

lemma files_unlink_of_ne {volume : Volume} {d d' : Text} (h : d' ≠ d) :
    (volume.unlink d).files d' = volume.files d' :=
  Function.update_of_ne h _ _

/-- Removing the file of a pending task takes no file from an available object, nor from one
that the transaction is about to add. -/
lemma Safe.unlink (h : Safe s) {t : SkillContentDeletion} (ht : t ∈ s.db.deletions)
    (hpending : t.status = .pending) :
    Safe { s with volume := s.volume.unlink t.digest } := by
  have hcommits : ∀ {missing after}, Commits s.volume.files s.db missing after →
      Commits (s.volume.unlink t.digest).files s.db missing after := by
    intro missing after hc
    refine { hc with stored := fun o ho havailable => ?_ }
    rw [files_unlink_of_ne (hc.unmarked o ho havailable t ht hpending).symm]
    exact hc.stored o ho havailable
  have hreceipts : (s.volume.unlink t.digest).receipts = s.volume.receipts := rfl
  apply h.withFiles hreceipts
  · intro o ho havailable
    rw [files_unlink_of_ne (digest_ne_of_pending h.consistent ho havailable ht hpending).symm]
    exact h.stored o ho havailable
  · intro session hmem
    have hsafe := h.session session hmem
    cases session with
    | collecting request outcome => exact hsafe
    | storing entry after => exact hsafe
    | verifying remaining after => exact hcommits hsafe
    | ready after => exact hcommits hsafe
    | deleting task now i => exact hsafe

/-- A worker that dies takes its transaction with it. -/
lemma Safe.die (h : Safe s) (i : ℕ) :
    Safe (((s.dropSession i).leaveLock i).setThread i none) where
  consistent := by simpa using h.consistent
  stored := by simpa using h.stored
  receipts := by simpa using h.receipts
  threads j thread hthread := by
    rcases ContentSystem.threads_setThread hthread with ⟨-, hnone⟩ | ⟨hne, hold⟩
    · exact absurd hnone (by simp)
    · rw [ContentSystem.threads_leaveLock, ContentSystem.threads_dropSession] at hold
      have hsafe := h.threads j thread hold
      refine ⟨by simpa using hsafe.known, ?_, by simpa using hsafe.cleared,
        by simpa using hsafe.done⟩
      intro hholds
      apply ContentSystem.fileLock_leaveLock hne
      rw [ContentSystem.fileLock_dropSession]
      exact hsafe.lock hholds
  session session hmem := by
    obtain ⟨hold, hother⟩ := ContentSystem.session_dropSession hmem
    have hsafe := h.session session hold
    simp only [ContentSystem.db_setThread, ContentSystem.volume_setThread,
      ContentSystem.db_leaveLock, ContentSystem.volume_leaveLock, ContentSystem.db_dropSession,
      ContentSystem.volume_dropSession]
    cases session with
    | deleting task now j =>
      obtain ⟨⟨thread, hthread, hsame⟩, hrest⟩ := hsafe
      refine ⟨⟨thread, ?_, hsame⟩, hrest⟩
      have hne := hother task now j rfl
      refine (Function.update_of_ne hne _ _).trans ?_
      simpa using hthread
    | collecting request outcome => exact hsafe
    | storing entry after => exact hsafe
    | verifying remaining after => exact hsafe
    | ready after => exact hsafe

end

end AgentRemote
