import AgentRemote.Merge.Guarantees
import AgentRemote.Storage.Accounting

/-!
# Runs of the content services

Every request runs under the user lock at the time the clock shows, and a request that fails
is rolled back. What happens on disk is given with the request. The accounting of a user
holds after every run.
-/

namespace AgentRemote
open Library

/-- A request to one of the content services. `failure` is the error of its work on disk. -/
inductive ContentOperation where
  | begin (id key : Text) (manifest : SkillTreeManifest) (scope : ContentScope) (issuedAt : ℤ)
    (failure : Option ContentFailure)
  | putFile (id digest : Text) (failure : Option ContentFailure)
  | complete (id : Text) (analysed : Bool) (failure : Option ContentFailure)
  | get (id : Text) (failure : Option ContentFailure)
  | apply (views : List StoredTreeRetention) (expected : ContentReclamationPlan)
    (taskId : Text → Text) (issuedAt : ℤ) (analysed : Bool)
  | process (id : Text) (finishedAt : ℤ) (indexed removed : Bool)

namespace ContentStore

/-- The tables to commit, unless the disk failed. -/
def unlessFailed (failure : Option ContentFailure) (db : ContentStore) :
    Except ContentFailure ContentStore :=
  match failure with
  | some error => .error error
  | none => .ok db

lemma unlessFailed_eq_ok {failure : Option ContentFailure} {db after : ContentStore}
    (h : unlessFailed failure db = .ok after) : db = after := by
  cases failure with
  | some error => exact absurd h (by simp [unlessFailed])
  | none => exact Except.ok.inj h

/-- The tables that a request commits. -/
def perform [Sha256] (policy : SkillStoragePolicy) (now : ℤ) (db : ContentStore) :
    ContentOperation → Except ContentFailure ContentStore
  | .begin id key manifest scope issuedAt failure => do
    let (db, _) ← db.beginUpload policy now issuedAt id key manifest scope
    unlessFailed failure db
  | .putFile id digest failure => do
    let (db, entry) ← db.putFile now id digest
    if entry.isSome then unlessFailed failure db else return db
  | .complete id analysed failure => do
    let (db, files) ← db.completeUpload now id analysed
    if files = [] then return db else unlessFailed failure db
  | .get id failure => do
    let (db, _) ← db.getUpload now id
    unlessFailed failure db
  | .apply views expected taskId issuedAt analysed =>
    db.applyReclamation views now issuedAt taskId expected analysed
  | .process id finishedAt indexed removed =>
    .ok (db.processTask now finishedAt id indexed removed).1

/-- A request in its own transaction. -/
def transact [Sha256] (policy : SkillStoragePolicy) (db : ContentStore)
    (step : ℤ × ContentOperation) : ContentStore :=
  match db.perform policy step.1 step.2 with
  | .ok after => after
  | .error _ => db

/-- The tables of a user after a run of requests. -/
def run [Sha256] (policy : SkillStoragePolicy) (steps : List (ℤ × ContentOperation)) :
    ContentStore :=
  steps.foldl (transact policy) {}

variable {policy : SkillStoragePolicy} {now : ℤ} {db after : ContentStore}

lemma Accounted.processTask {finishedAt : ℤ} {id : Text} {indexed removed : Bool}
    (h : Accounted policy now db) :
    Accounted policy now (db.processTask now finishedAt id indexed removed).1 := by
  unfold ContentStore.processTask
  split
  · exact h
  · exact h.postponeTask _
  · rename_i task hclaim
    have hpreflight : db.preflight task now indexed = none := by
      unfold claimTask at hclaim
      split at hclaim
      · exact absurd hclaim (by simp)
      · split_ifs at hclaim
        simp only at hclaim
        split at hclaim
        · exact absurd hclaim (by simp)
        · rename_i hnone
          obtain rfl := TaskClaim.cleared.inj hclaim
          exact hnone
    split_ifs
    · exact h.completeTask hpreflight
    · exact h.postponeTask _

lemma putFile_eq_ok {id digest : Text} {entry : Option SkillTreeEntry}
    (h : db.putFile now id digest = .ok (after, entry)) :
    after = db.lockUsage ∧ db.requireAvailableFiles [digest] = .ok () ∧
      ∀ e ∈ entry, e.sha256 = digest := by
  simp only [putFile] at h
  rw [bind_eq_ok] at h
  obtain ⟨upload, hupload, h⟩ := h
  rw [bind_eq_ok] at h
  obtain ⟨_, hactive, h⟩ := h
  split at h
  · exact absurd h (by simp)
  · rename_i declared hdeclared
    rw [reject_bind_eq_ok, bind_eq_ok] at h
    obtain ⟨hvalid, _, havailable, h⟩ := h
    rw [bind_eq_ok] at h
    obtain ⟨_, _, h⟩ := h
    rw [not_or, not_not, not_not] at hvalid
    split_ifs at h <;> obtain ⟨rfl, rfl⟩ := Prod.mk.inj (Except.ok.inj h)
    · exact ⟨rfl, havailable, by simp⟩
    · exact ⟨rfl, havailable, by simpa using hvalid.2⟩

lemma getUpload_eq_ok {id : Text} {upload : SkillContentUpload}
    (h : db.getUpload now id = .ok (after, upload)) : after = db.lockUsage.expire now := by
  rw [getUpload, bind_eq_ok] at h
  obtain ⟨_, _, h⟩ := h
  exact (congrArg Prod.fst (Except.ok.inj h)).symm

/-- One request keeps the accounting. -/
lemma Accounted.perform [Sha256] (h : Accounted policy now db) {operation : ContentOperation}
    (hperform : db.perform policy now operation = .ok after) : Accounted policy now after := by
  cases operation with
  | begin id key manifest scope issuedAt failure =>
    rw [ContentStore.perform, bind_eq_ok] at hperform
    obtain ⟨⟨db', upload⟩, hbegin, hperform⟩ := hperform
    obtain rfl := unlessFailed_eq_ok hperform
    exact h.beginUpload hbegin
  | putFile id digest failure =>
    rw [ContentStore.perform, bind_eq_ok] at hperform
    obtain ⟨⟨db', entry⟩, hput, hperform⟩ := hperform
    obtain ⟨rfl, -⟩ := putFile_eq_ok hput
    simp only at hperform
    split_ifs at hperform
    · obtain rfl := unlessFailed_eq_ok hperform
      exact h.lockUsage
    · obtain rfl := Except.ok.inj hperform
      exact h.lockUsage
  | complete id analysed failure =>
    rw [ContentStore.perform, bind_eq_ok] at hperform
    obtain ⟨⟨db', files⟩, hcomplete, hperform⟩ := hperform
    simp only at hperform
    split_ifs at hperform
    · obtain rfl := Except.ok.inj hperform
      exact h.completeUpload hcomplete
    · obtain rfl := unlessFailed_eq_ok hperform
      exact h.completeUpload hcomplete
  | get id failure =>
    rw [ContentStore.perform, bind_eq_ok] at hperform
    obtain ⟨⟨db', upload⟩, hget, hperform⟩ := hperform
    obtain rfl := unlessFailed_eq_ok hperform
    obtain rfl := getUpload_eq_ok hget
    exact h.lockUsage.expire
  | apply views expected taskId issuedAt analysed => exact h.applyReclamation hperform
  | process id finishedAt indexed removed =>
    obtain rfl := Except.ok.inj hperform
    exact h.processTask

/-- A failed request changes nothing. -/
lemma Accounted.transact [Sha256] (h : Accounted policy now db) {step : ℤ × ContentOperation}
    (hle : now ≤ step.1) : Accounted policy step.1 (transact policy db step) := by
  unfold ContentStore.transact
  split
  · rename_i hperform
    exact (h.later hle).perform hperform
  · exact h.later hle

/-- The accounting holds after every run whose clock does not go back. -/
lemma accounted_foldl [Sha256] {steps : List (ℤ × ContentOperation)} (h : Accounted policy now db)
    (htimes : (now :: steps.map Prod.fst).Pairwise (· ≤ ·)) :
    ∃ later, Accounted policy later (steps.foldl (ContentStore.transact policy) db) := by
  induction steps generalizing now db with
  | nil => exact ⟨now, h⟩
  | cons step steps ih =>
    rw [List.map_cons, List.pairwise_cons] at htimes
    exact ih (h.transact (htimes.1 _ List.mem_cons_self)) htimes.2

theorem run_accounting [Sha256] (policy : SkillStoragePolicy) (steps : List (ℤ × ContentOperation))
    (htimes : (steps.map Prod.fst).Pairwise (· ≤ ·)) (c : StorageCategory) :
    let db := run policy steps
    db.counters.bytes c = db.storedBytes c ∧ db.counters.reserved c = db.reservedBytes c ∧
      0 ≤ db.counters.bytes c ∧ 0 ≤ db.counters.reserved c ∧
        db.counters.bytes c + db.counters.reserved c ≤ policy.quota c := by
  intro db
  obtain ⟨later, h⟩ : ∃ later, Accounted policy later db := by
    cases steps with
    | nil => exact ⟨0, accounted_empty⟩
    | cons step steps =>
      apply accounted_foldl (@accounted_empty policy step.1)
      rw [List.map_cons] at htimes ⊢
      refine List.pairwise_cons.mpr ⟨?_, htimes⟩
      intro time htime
      rcases List.mem_cons.mp htime with rfl | hlater
      · exact le_rfl
      · exact (List.pairwise_cons.mp htimes).1 time hlater
  refine ⟨h.bytes_eq c, h.reserved_eq c, ?_, ?_, h.quota c⟩
  · rw [h.bytes_eq c]
    exact Int.natCast_nonneg _
  · rw [h.reserved_eq c]
    exact Int.natCast_nonneg _

/-- A member of one byte that is uploaded, stored and completed counts as one byte of state. -/
theorem run_accounting_upload :
    let hash : Sha256 :=
      ⟨fun _ => "5780e5a63a1dfe8805dbd2603c42499ae2c338d071f64db06dd89bdf8c992ab0".toList⟩
    let steps : List (ℤ × ContentOperation) :=
      [(0, .begin ['u'] ['k'] ⟨memberEntries ['a'] 1, by decide⟩ .state 0 none),
        (5, .putFile ['u'] (List.replicate 64 '0') none), (7, .complete ['u'] true none)]
    let db := @run hash {} steps
    db.storedBytes .state = 1 ∧ db.counters.bytes .state = db.storedBytes .state ∧
      db.counters.reserved .state = db.reservedBytes .state ∧ 0 ≤ db.counters.bytes .state ∧
        0 ≤ db.counters.reserved .state ∧
          db.counters.bytes .state + db.counters.reserved .state ≤
            SkillStoragePolicy.quota {} .state := by
  intro hash steps db
  have hstored : db.storedBytes .state = 1 := by decide +kernel
  exact ⟨hstored, @run_accounting hash {} steps (by decide) .state⟩

end ContentStore

end AgentRemote
