import AgentRemote.AccountRuntime.System

/-!
# What every state of a tool account keeps

A migration that is not over keeps the account from sessions, whatever overlaps it: what writes
the profile from an old copy has held the account row since it read it, and a migration that
starts writes that row.
-/

namespace AgentRemote.AccountRuntime
open Library PortForwards Runtimes

/-! ### Tasks and receipts -/

/-- The tasks of bindings, whose reports do not lock the usage row. -/
def TaskName.ofBinding : TaskName → Bool
  | createBindingSession _ | verifyToolAccount _ => true
  | _ => false

/-- The tasks of migrations and of their recoveries. -/
def TaskName.ofRuntime : TaskName → Bool
  | migrateToolAccountRuntime _ | recoverToolAccountRuntime _ => true
  | _ => false

/-- The identifier that was drawn for a name. -/
def TaskName.drawn : TaskName → Option Uuid
  | createToolSession id | createBindingSession id | verifyToolAccount id
  | migrateToolAccountRuntime id => some id
  | _ => none

/-- The binding of a recovery. -/
def Work.recovery? : Work → Option RuntimeRecoveryBinding
  | .recoverToolAccountRuntime _ binding => some binding
  | _ => none

namespace AccountDb

def works (db : AccountDb) : List Work := db.tasks.map NodeTask.work

/-- A result of the task is recorded. -/
def reported (db : AccountDb) (name : TaskName) : Prop := ∃ r ∈ db.receipts, r.taskId = name

/-- The task is recorded as successful. -/
def succeeded (db : AccountDb) (name : TaskName) : Prop :=
  ∃ r ∈ db.receipts, r.taskId = name ∧ r.status = .succeeded

/-- A migration that has neither succeeded nor been recovered. -/
structure Outstanding (db : AccountDb) (w : Work) : Prop where
  mem : w ∈ db.works
  migration : w.migration?.isSome
  unproved : ¬db.succeeded w.taskId
  unrecovered : ∀ r ∈ db.works, ∀ binding ∈ r.recovery?, binding.originalTaskId = w.taskId →
    ¬db.succeeded r.taskId

/-- The profile still holds the migration. -/
def holds (db : AccountDb) (w : Work) : Prop :=
  ∃ m ∈ db.profile.runtimeMigration, m.taskId = w.taskId ∧ m.status.settled = false ∧
    ∀ payload ∈ w.migration?, m.sourceRuntimeBackend = payload.sourceRuntimeBackend ∧
      m.targetRuntimeBackend = payload.targetRuntimeBackend

/-- The tasks of a state, their names and their receipts. -/
structure Books (db : AccountDb) : Prop where
  names : (db.works.map Work.taskId).Nodup
  below : ∀ w ∈ db.works, ∀ id ∈ w.taskId.drawn, id < db.nextId
  reported : ∀ t ∈ db.tasks, t.taskId.ofBinding = false → t.status.terminal →
    db.reported t.taskId
  original : ∀ w ∈ db.works, ∀ binding ∈ w.recovery?, db.reported binding.originalTaskId
  known : ∀ r ∈ db.receipts, r.taskId ∈ db.works.map Work.taskId

structure Sound (db : AccountDb) : Prop where
  books : db.Books
  held : ∀ w, db.Outstanding w → db.holds w
  still : ∀ w, db.Outstanding w → db.activeSessions = []
  migrating : db.account.status = .migrating → ∃ w, db.Outstanding w
  previous : ∀ m ∈ db.profile.runtimeMigration, m.previousStatus ≠ .migrating

/-- Tasks and receipts are only added. -/
structure Grows (a b : AccountDb) : Prop where
  nextId : a.nextId ≤ b.nextId
  works : a.works <+: b.works
  receipts : a.receipts <+: b.receipts

/-- What does not change from a state to a later one, and what does not change while no other
transaction has had a lock. -/
structure Follows (a b : AccountDb) : Prop extends Grows a b where
  userTurns : a.userTurns ≤ b.userTurns
  accountTurns : a.accountTurns ≤ b.accountTurns
  account : a.accountTurns = b.accountTurns → b.account = a.account
  migrations : a.accountTurns = b.accountTurns → ∀ w ∈ b.works, w.migration?.isSome → w ∈ a.works
  sessions : a.userTurns = b.userTurns → b.sessions = a.sessions
  guarded : a.userTurns = b.userTurns → ∀ w ∈ b.works, w.taskId.ofBinding = false → w ∈ a.works
  results : a.userTurns = b.userTurns → ∀ r ∈ b.receipts, r.taskId.ofBinding = false →
    r ∈ a.receipts
  migrating : a.userTurns = b.userTurns → b.account.status = .migrating →
    a.account.status = .migrating

section

variable {a b c db : AccountDb} {w : Work} {name : TaskName}

lemma Grows.refl (db : AccountDb) : db.Grows db := ⟨le_rfl, List.prefix_refl _, List.prefix_refl _⟩

lemma Grows.trans (hab : a.Grows b) (hbc : b.Grows c) : a.Grows c where
  nextId := hab.nextId.trans hbc.nextId
  works := hab.works.trans hbc.works
  receipts := hab.receipts.trans hbc.receipts

lemma Follows.refl (db : AccountDb) : db.Follows db where
  toGrows := .refl db
  userTurns := le_rfl
  accountTurns := le_rfl
  account _ := rfl
  migrations _ _ h _ := h
  sessions _ := rfl
  guarded _ _ h _ := h
  results _ _ h _ := h
  migrating _ h := h

lemma Follows.trans (hab : a.Follows b) (hbc : b.Follows c) : a.Follows c := by
  have huser : a.userTurns = c.userTurns → a.userTurns = b.userTurns ∧ b.userTurns = c.userTurns :=
    fun h => by
      have := hab.userTurns
      have := hbc.userTurns
      omega
  have haccount : a.accountTurns = c.accountTurns →
      a.accountTurns = b.accountTurns ∧ b.accountTurns = c.accountTurns := fun h => by
    have := hab.accountTurns
    have := hbc.accountTurns
    omega
  constructor
  · exact hab.toGrows.trans hbc.toGrows
  · exact hab.userTurns.trans hbc.userTurns
  · exact hab.accountTurns.trans hbc.accountTurns
  · intro h
    rw [hbc.account (haccount h).2, hab.account (haccount h).1]
  · intro h w hw hmigration
    exact hab.migrations (haccount h).1 w (hbc.migrations (haccount h).2 w hw hmigration) hmigration
  · intro h
    rw [hbc.sessions (huser h).2, hab.sessions (huser h).1]
  · intro h w hw hguarded
    exact hab.guarded (huser h).1 w (hbc.guarded (huser h).2 w hw hguarded) hguarded
  · intro h r hr hguarded
    exact hab.results (huser h).1 r (hbc.results (huser h).2 r hr hguarded) hguarded
  · intro h hmigrating
    exact hab.migrating (huser h).1 (hbc.migrating (huser h).2 hmigrating)

lemma Grows.reported (h : a.Grows b) (hreported : a.reported name) : b.reported name := by
  obtain ⟨r, hr, hname⟩ := hreported
  exact ⟨r, h.receipts.subset hr, hname⟩

lemma Grows.succeeded (h : a.Grows b) (hsucceeded : a.succeeded name) : b.succeeded name := by
  obtain ⟨r, hr, hname, hstatus⟩ := hsucceeded
  exact ⟨r, h.receipts.subset hr, hname, hstatus⟩

/-- A migration that is not over now was not over before. -/
lemma Grows.outstanding (h : a.Grows b) (hw : w ∈ a.works) (hout : b.Outstanding w) :
    a.Outstanding w where
  mem := hw
  migration := hout.migration
  unproved hsucceeded := hout.unproved (h.succeeded hsucceeded)
  unrecovered r hr binding hbinding horiginal hsucceeded :=
    hout.unrecovered r (h.works.subset hr) binding hbinding horiginal (h.succeeded hsucceeded)

lemma runtime_of_migration (h : w.migration?.isSome) : w.taskId.ofRuntime = true := by
  cases w with
  | migrateToolAccountRuntime attempt payload => rfl
  | _ => cases h

lemma runtime_of_recovery {binding : RuntimeRecoveryBinding} (h : binding ∈ w.recovery?) :
    w.taskId.ofRuntime = true := by
  cases w with
  | recoverToolAccountRuntime requestId binding => rfl
  | _ => cases h

/-- A runtime task is not one of a binding. -/
lemma guarded_of_runtime (h : name.ofRuntime) : name.ofBinding = false := by
  cases name with
  | migrateToolAccountRuntime _ | recoverToolAccountRuntime _ => rfl
  | _ => cases h

/-- A migration that was not over is not over unless a result tells that it succeeded. -/
lemma Grows.outstanding_of_aside (h : a.Grows b)
    (hworks : ∀ w ∈ b.works, w.taskId.ofRuntime → w ∈ a.works ∨ ¬b.succeeded w.taskId)
    (hreceipts : ∀ r ∈ b.receipts, r.taskId.ofRuntime → r.status = .succeeded → r ∈ a.receipts)
    (hout : a.Outstanding w) : b.Outstanding w where
  mem := h.works.subset hout.mem
  migration := hout.migration
  unproved := by
    rintro ⟨r, hr, hname, hstatus⟩
    refine hout.unproved ⟨r, hreceipts r hr ?_ hstatus, hname, hstatus⟩
    rw [hname]
    exact runtime_of_migration hout.migration
  unrecovered := by
    intro w' hw' binding hbinding horiginal hsucceeded
    have hruntime := runtime_of_recovery hbinding
    have hold := (hworks w' hw' hruntime).resolve_right (not_not.mpr hsucceeded)
    obtain ⟨r, hr, hname, hstatus⟩ := hsucceeded
    exact hout.unrecovered w' hold binding hbinding horiginal
      ⟨r, hreceipts r hr (hname ▸ hruntime) hstatus, hname, hstatus⟩

lemma guarded_of_migration (h : w.migration?.isSome) : w.taskId.ofBinding = false :=
  guarded_of_runtime (runtime_of_migration h)

/-- A migration that was not over when the usage row was locked is not over now. -/
lemma Follows.outstanding_of_user (h : a.Follows b) (hturns : a.userTurns = b.userTurns)
    (hout : a.Outstanding w) : b.Outstanding w :=
  h.toGrows.outstanding_of_aside
    (fun w hw hruntime => .inl (h.guarded hturns w hw (guarded_of_runtime hruntime)))
    (fun r hr hruntime _ => h.results hturns r hr (guarded_of_runtime hruntime)) hout

/-- A migration that is not over was not over when the usage row was locked. -/
lemma Follows.outstanding_user (h : a.Follows b) (hturns : a.userTurns = b.userTurns)
    (hout : b.Outstanding w) : a.Outstanding w :=
  h.toGrows.outstanding
    (h.guarded hturns w hout.mem (guarded_of_migration hout.migration)) hout

/-- A migration that is not over was not over when the account row was locked. -/
lemma Follows.outstanding_account (h : a.Follows b) (hturns : a.accountTurns = b.accountTurns)
    (hout : b.Outstanding w) : a.Outstanding w :=
  h.toGrows.outstanding (h.migrations hturns w hout.mem hout.migration) hout

lemma mem_works {t : NodeTask} (h : t ∈ db.tasks) : t.work ∈ db.works := List.mem_map_of_mem h

lemma getTask_eq_some {t : NodeTask} (h : db.getTask name = some t) :
    t ∈ db.tasks ∧ t.taskId = name :=
  ⟨mem_of_lookup h, key_of_lookup h⟩

lemma getTask_eq_none (h : db.getTask name = none) : name ∉ db.works.map Work.taskId := by
  unfold works
  rw [List.map_map]
  intro hmem
  obtain ⟨t, ht, hname⟩ := List.mem_map.mp hmem
  exact lookup_eq_none_iff.mp h t ht hname

lemma Books.work_unique (h : db.Books) {w' : Work} (hw : w ∈ db.works) (hw' : w' ∈ db.works)
    (hname : w.taskId = w'.taskId) : w = w' :=
  eq_of_key_eq h.names hw hw' hname

lemma receipt_eq_none (h : db.receipt name = none) : ¬db.reported name := by
  rintro ⟨r, hr, hname⟩
  exact lookup_eq_none_iff.mp h r hr hname

/-! ### Adding and rewriting tasks -/

/-- The names of old tasks are not drawn again. -/
lemma Books.fresh (h : db.Books) (hdrawn : name.drawn = some db.nextId) :
    name ∉ db.works.map Work.taskId := by
  intro hmem
  obtain ⟨w', hw', hname⟩ := List.mem_map.mp hmem
  have hbelow := h.below w' hw' db.nextId (hname ▸ hdrawn)
  exact lt_irrefl _ hbelow

lemma Books.addTask (h : db.Books) (nodeId : Uuid) (hnew : w.taskId ∉ db.works.map Work.taskId)
    (hdrawn : ∀ id ∈ w.taskId.drawn, id ≤ db.nextId)
    (horiginal : ∀ binding ∈ w.recovery?, db.reported binding.originalTaskId) :
    (addTask db nodeId w).Books := by
  have hworks : (AccountRuntime.addTask db nodeId w).works = db.works ++ [w] := by
    unfold AccountRuntime.addTask works
    rw [List.map_append]
    rfl
  have hmem : ∀ w' ∈ (AccountRuntime.addTask db nodeId w).works, w' ∈ db.works ∨ w' = w := by
    intro w' hw'
    rw [hworks] at hw'
    exact (List.mem_append.mp hw').imp_right List.mem_singleton.mp
  constructor
  · rw [hworks, List.map_append]
    refine List.Nodup.append h.names (List.nodup_singleton _) ?_
    intro name hname hsame
    rw [List.mem_singleton.mp hsame] at hname
    exact hnew hname
  · intro w' hw' id hid
    rcases hmem w' hw' with hold | rfl
    · exact Nat.lt_succ_of_lt (h.below w' hold id hid)
    · exact Nat.lt_succ_of_le (hdrawn id hid)
  · intro t ht hguarded hterminal
    rcases List.mem_append.mp ht with hold | hlast
    · exact h.reported t hold hguarded hterminal
    · rw [List.mem_singleton.mp hlast] at hterminal
      cases hterminal
  · intro w' hw' binding hbinding
    rcases hmem w' hw' with hold | rfl
    · exact h.original w' hold binding hbinding
    · exact horiginal binding hbinding
  · intro r hr
    rw [hworks, List.map_append]
    exact List.mem_append_left _ (h.known r hr)

/-- Tasks are rewritten and receipts added. -/
structure Rewrites (g : NodeTask → NodeTask) (rs : List NodeTaskResult) (a b : AccountDb) :
    Prop where
  tasks : b.tasks = a.tasks.map g
  receipts : b.receipts = a.receipts ++ rs
  nextId : b.nextId = a.nextId
  work : ∀ t ∈ a.tasks, (g t).work = t.work
  ended : ∀ t ∈ a.tasks, t.taskId.ofBinding = false → (g t).status.terminal →
    t.status.terminal ∨ ∃ r ∈ rs, r.taskId = t.taskId
  named : ∀ r ∈ rs, r.taskId ∈ a.works.map Work.taskId

lemma Rewrites.works {g : NodeTask → NodeTask} {rs : List NodeTaskResult}
    (h : Rewrites g rs a b) : b.works = a.works := by
  unfold AccountDb.works
  rw [h.tasks, List.map_map]
  exact List.map_congr_left h.work

lemma Rewrites.grows {g : NodeTask → NodeTask} {rs : List NodeTaskResult}
    (h : Rewrites g rs a b) : a.Grows b where
  nextId := h.nextId.ge
  works := by rw [h.works]
  receipts := h.receipts ▸ List.prefix_append _ _

lemma Rewrites.books {g : NodeTask → NodeTask} {rs : List NodeTaskResult}
    (h : Rewrites g rs a b) (ha : a.Books) : b.Books where
  names := h.works ▸ ha.names
  below := by
    rw [h.works, h.nextId]
    exact ha.below
  reported t' ht' hguarded hterminal := by
    rw [h.tasks] at ht'
    obtain ⟨t, ht, rfl⟩ := List.mem_map.mp ht'
    have hname : (g t).taskId = t.taskId := congrArg Work.taskId (h.work t ht)
    rw [hname] at hguarded ⊢
    rcases h.ended t ht hguarded hterminal with hbefore | ⟨r, hr, hsame⟩
    · exact h.grows.reported (ha.reported t ht hguarded hbefore)
    · exact ⟨r, h.receipts ▸ List.mem_append_right _ hr, hsame⟩
  original w hw binding hbinding := by
    rw [h.works] at hw
    exact h.grows.reported (ha.original w hw binding hbinding)
  known r hr := by
    rw [h.receipts] at hr
    rw [h.works]
    rcases List.mem_append.mp hr with hold | hnew
    · exact ha.known r hold
    · exact h.named r hnew

/-- Books do not depend on the other tables. -/
lemma Books.congr (h : a.Books) (htasks : b.tasks = a.tasks) (hreceipts : b.receipts = a.receipts)
    (hnextId : a.nextId ≤ b.nextId) : b.Books := by
  have hworks : b.works = a.works := congrArg (List.map NodeTask.work) htasks
  constructor
  · exact hworks ▸ h.names
  · intro w hw id hid
    exact (h.below w (hworks ▸ hw) id hid).trans_le hnextId
  · unfold AccountDb.reported
    rw [htasks, hreceipts]
    exact h.reported
  · unfold AccountDb.reported
    rw [hworks, hreceipts]
    exact h.original
  · rw [hworks, hreceipts]
    exact h.known

end

end AccountDb

/-! ### Reads under a lock -/

/-- A state that was read while the usage row was locked. -/
structure UserView (v db : AccountDb) : Prop where
  sound : v.Sound
  follows : v.Follows db
  turns : v.userTurns = db.userTurns

/-- A state that was read while the account row was locked. -/
structure AccountView (v db : AccountDb) : Prop where
  sound : v.Sound
  follows : v.Follows db
  turns : v.accountTurns = db.accountTurns

section

variable {seen : ℕ → AccountDb} {db : AccountDb} (hdb : db.Sound) (hseen : ∀ i, (seen i).Sound)
  (hcurrent : ∀ i, (seen i).Follows db)

include hdb hseen hcurrent

lemma userLocked_view (i : ℕ) : UserView (userLocked seen db i) db := by
  unfold userLocked
  split_ifs with h
  · exact ⟨hseen i, hcurrent i, h⟩
  · exact ⟨hdb, .refl db, rfl⟩

lemma accountLocked_view (i : ℕ) : AccountView (accountLocked seen db i) db := by
  unfold accountLocked
  split_ifs with h
  · exact ⟨hseen i, hcurrent i, h⟩
  · exact ⟨hdb, .refl db, rfl⟩

end

/-! ### Columns -/

section

variable {α : Type} [DecidableEq α]

@[simp] lemma flushColumn_self (copy current : α) : flushColumn copy copy current = current :=
  if_pos rfl

lemma flushColumn_cases (copy new current : α) :
    flushColumn copy new current = current ∨
      new ≠ copy ∧ flushColumn copy new current = new := by
  unfold flushColumn
  split_ifs with h
  · exact .inl rfl
  · exact .inr ⟨h, rfl⟩

lemma flushed_self (copy current : ToolAccount) : flushed copy copy current = current := by
  unfold flushed
  simp only [flushColumn_self]

end

end AgentRemote.AccountRuntime
