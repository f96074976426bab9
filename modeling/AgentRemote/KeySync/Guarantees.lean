import AgentRemote.KeySync.Operations

/-!
# Withdrawing revoked keys

Once a device is revoked, every node has a task that withdraws its keys and that is delivered in
the end, and a node that was handed this task is handed none with a key of the device again. This
holds of runs in which no such task fails, no task with keys is left when it is handed out, and
authorisations and starts find at their commits what they have read.
-/

namespace AgentRemote.KeySync
open Library PortForwards Runtimes

variable (names : KeyNames) (leaseSeconds : ℕ) (world : KeyWorld)

/-! ### Statement -/

/-- The commit hands the task to the node that polls. -/
def Hands (c : Commit KeyDb KeyTx) (t : NodeTask) : Prop :=
  t ∈ ((keySyncing names leaseSeconds world).answer c).tasks

/-- The commit revokes the device. -/
def RevokesDevice (c : Commit KeyDb KeyTx) (deviceId : Uuid) : Prop :=
  (∃ actorId admin, c.tx = .revokeDevice actorId admin deviceId) ∧
    ((keySyncing names leaseSeconds world).answer c).isDone

/-- The task is the one that withdraws the keys of the device from the node. -/
structure WithdrawalTask (t : NodeTask) (nodeId deviceId : Uuid) : Prop where
  taskId : t.taskId = sshKeySyncTaskId names nodeId deviceId []
  nodeId : t.nodeId = nodeId
  device : taskDevice names t = some deviceId
  empty : carriedKeys t = []

/-- What holds after the schedule. -/
structure KeysWithdrawn (schedule : List (Scheduled KeyTx)) : Prop where
  withdrawn : ∀ c ∈ (keySyncing names leaseSeconds world).commits schedule, ∀ d,
    RevokesDevice names leaseSeconds world c d →
      ∀ c' ∈ (keySyncing names leaseSeconds world).commits schedule, ∀ t,
        Hands names leaseSeconds world c' t → taskDevice names t = some d →
          ∃ t' ∈ ((keySyncing names leaseSeconds world).state schedule).tasks,
            WithdrawalTask names t' t.nodeId d ∧ delivers t'.status
  final : ((keySyncing names leaseSeconds world).commits schedule).Pairwise fun later earlier =>
    ∀ t, Hands names leaseSeconds world earlier t → ∀ d, WithdrawalTask names t t.nodeId d →
      ∀ t', Hands names leaseSeconds world later t' → t'.nodeId = t.nodeId →
        taskDevice names t' = some d → carriedKeys t' = []

/-- The device of an authorisation is not revoked at its commit, the tasks with keys of a device
are settled when the node is handed the task without, and a start of a task with keys finds it
open still. No report says that a task without keys has failed. -/
def Orderly (names : KeyNames) (c : Commit KeyDb KeyTx) : Prop :=
  match c.tx with
  | .authorizeAttach r | .bindingAttach r | .sessionAttach r | .startBinding r =>
      ∀ d, r.deviceId = some d → ((c.seen 0).activeDevice r.userId d).isSome → ¬c.before.Revoked d
  | .poll nodeId limit held =>
      ∀ t ∈ listPollableTasks (c.seen 0).tasks c.before.tasks nodeId (c.seen 0).clock limit held,
        carriedKeys t = [] → ∀ t' ∈ c.before.tasks, t'.nodeId = nodeId →
          taskDevice names t' = taskDevice names t → carriedKeys t' ≠ [] →
            t'.status.terminal = true
  | .start nodeId taskId => ∀ copy, requireTask (c.seen 0).tasks nodeId taskId = .ok copy →
      copy.status.terminal = false → copy.status ≠ .running → carriedKeys copy ≠ [] →
        ∀ t ∈ c.before.tasks, t.taskId = taskId → t.status.terminal = false
  | .fail nodeId taskId _ => ∀ copy, requireTask (c.seen 0).tasks nodeId taskId = .ok copy →
      copy.status ≠ .failed → carriedKeys copy ≠ []
  | _ => True

/-! ### Steps -/

section

variable {names leaseSeconds world} {c : Commit KeyDb KeyTx} {schedule : List (Scheduled KeyTx)}

/-- An operation that fails leaves the state alone. -/
lemma settled_move {db : KeyDb} {r : Except RuntimeFailure KeyDb}
    (h : ∀ db', r = .ok db' → ∃ g news, KeyMove names g news db db') :
    ∃ g news, KeyMove names g news db (settled db r).1 := by
  cases r with
  | ok db' => exact h db' rfl
  | error e => exact ⟨_, _, keyMove_same rfl le_rfl (fun _ hd => hd) rfl⟩

theorem commit_move (hsees : Transactions.Sees (KeyDb.Sound names) (KeyDb.Follows names) c)
    (hok : Orderly names c) :
    ∃ g news, KeyMove names g news c.before ((keySyncing names leaseSeconds world).after c) := by
  obtain ⟨hdb, hseen, hcurrent⟩ := hsees
  unfold Transactions.after
  unfold Orderly at hok
  obtain ⟨tx, seen, db⟩ := c
  cases tx with
  | registerDevice r =>
    exact settled_move fun db' h => ⟨_, _, registerDevice_move h⟩
  | revokeDevice actorId admin id =>
    refine settled_move fun db' h => ?_
    obtain ⟨⟨news, hmove⟩, -⟩ := revokeDevice_move hseen hcurrent h
    exact ⟨_, _, hmove⟩
  | authorizeAttach r =>
    exact settled_move fun db' h => authorizeAttach_move hdb hcurrent hok h
  | bindingAttach r =>
    exact settled_move fun db' h => exactAttach_move hdb hcurrent hok h
  | sessionAttach r =>
    exact settled_move fun db' h => exactAttach_move hdb hcurrent hok h
  | startBinding r =>
    exact settled_move fun db' h => startBinding_move hdb hcurrent hok h
  | poll nodeId limit held =>
    have hpoll : ∃ g, KeyMove names g [] db
        (pollTasks seen db leaseSeconds nodeId limit held).1 := pollTasks_move hdb _ _ _ _
    obtain ⟨g, hmove⟩ := hpoll
    exact ⟨_, _, hmove⟩
  | start nodeId taskId =>
    refine settled_move fun db' h => ?_
    obtain ⟨g, hmove⟩ := startTask_move hdb hseen h hok
    exact ⟨_, _, hmove⟩
  | complete nodeId taskId result =>
    refine settled_move fun db' h => ?_
    obtain ⟨g, hmove⟩ := reportTask_move hdb hseen h nofun
    exact ⟨_, _, hmove⟩
  | fail nodeId taskId error =>
    refine settled_move fun db' h => ?_
    obtain ⟨g, hmove⟩ := reportTask_move hdb hseen h fun _ => hok
    exact ⟨_, _, hmove⟩
  | reportNode node =>
    have hids : (replace Node.id db.nodes node).map Node.id = db.nodes.map Node.id :=
      map_key_replace db.nodes node
    exact ⟨_, _, keyMove_same hids le_rfl (fun _ hd => hd) rfl⟩
  | tick elapsed => exact ⟨_, _, keyMove_same rfl le_rfl (fun _ hd => hd) rfl⟩

lemma emptyKeyDb_sound (world : KeyWorld) : (emptyKeyDb world).Sound names where
  nodeIds := world.nodeIds
  ids := List.nodup_nil
  taskIds := List.nodup_nil
  below := List.forall_mem_nil _
  named := List.forall_mem_nil _
  empty := List.forall_mem_nil _

lemma keySyncing_ran
    (h : ∀ c ∈ (keySyncing names leaseSeconds world).commits schedule, Orderly names c) :
    (keySyncing names leaseSeconds world).Ran (KeyDb.Sound names) (KeyDb.Follows names) schedule := by
  refine Transactions.ran_of_step KeyDb.Follows.refl KeyDb.Follows.trans (emptyKeyDb_sound world)
    (fun c hsees hok => ?_) h
  have hstep : ∃ g news, KeyMove names g news c.before
      ((keySyncing names leaseSeconds world).after c) := commit_move hsees hok
  obtain ⟨g, news, hmove⟩ := hstep
  exact ⟨hmove.sound hsees.before, hmove.follows⟩

/-! ### Handing out -/

lemma settled_tasks {db : KeyDb} {r : Except RuntimeFailure KeyDb} : (settled db r).2.tasks = [] := by
  cases r with
  | ok db' => rfl
  | error e => rfl

/-- A task that is handed out was polled in the state the poll committed on. -/
lemma handed_polled {t : NodeTask} (h : Hands names leaseSeconds world c t) :
    ∃ nodeId limit held, c.tx = .poll nodeId limit held ∧
      ∃ t₀ ∈ listPollableTasks (c.seen 0).tasks c.before.tasks nodeId (c.seen 0).clock limit held,
        TaskKept names t₀ t := by
  unfold Hands Transactions.answer at h
  obtain ⟨tx, seen, db⟩ := c
  cases tx with
  | poll nodeId limit held =>
    obtain ⟨t₀, ht₀, rfl⟩ := List.mem_map.mp h
    exact ⟨nodeId, limit, held, rfl, t₀, ht₀, leasedUntil_kept t₀ _⟩
  | registerDevice | revokeDevice | authorizeAttach | bindingAttach | sessionAttach | startBinding
  | start | complete | fail => exact absurd (settled_tasks ▸ h) List.not_mem_nil
  | reportNode | tick => exact absurd h List.not_mem_nil

/-- A task that is handed out is one of the node that polls and is not settled. -/
lemma handed_open {t : NodeTask} (h : Hands names leaseSeconds world c t) :
    ∃ t₀ ∈ c.before.tasks, TaskKept names t₀ t ∧ t₀.status.terminal = false := by
  obtain ⟨nodeId, limit, held, -, t₀, ht₀, hkept⟩ := handed_polled h
  obtain ⟨hmem, hpollable⟩ := mem_listPollableTasks ht₀
  exact ⟨t₀, hmem, hkept, (pollable_open hpollable).2⟩

/-- When the task that withdraws keys is handed out, the node is closed to the device. -/
lemma closed_of_handed (hdb : c.before.Sound names) (hok : Orderly names c) {t : NodeTask}
    {d : Uuid} (h : Hands names leaseSeconds world c t)
    (hwithdraws : WithdrawalTask names t t.nodeId d) : c.before.Closed names t.nodeId d := by
  obtain ⟨nodeId, limit, held, htx, t₀, ht₀, hkept⟩ := handed_polled h
  unfold Orderly at hok
  rw [htx] at hok
  obtain ⟨hmem, hpollable⟩ := mem_listPollableTasks ht₀
  have hnode : t.nodeId = nodeId := hkept.nodeId.trans (pollable_open hpollable).1
  have hempty : carriedKeys t₀ = [] := hkept.keys.mp hwithdraws.empty
  have hdevice : taskDevice names t₀ = some d := hkept.device.symm.trans hwithdraws.device
  refine ⟨(hdb.empty t₀ hmem hempty).2 d hdevice, fun t' ht' hnode' hdevice' hkeys => ?_⟩
  exact hok t₀ ht₀ hempty t' ht' (hnode'.trans hnode) (hdevice'.trans hdevice.symm) hkeys

/-- A revocation leaves every node with the task that withdraws the keys. -/
lemma withdrawn_of_revokes
    (hsees : Transactions.Sees (KeyDb.Sound names) (KeyDb.Follows names) c) {d : Uuid}
    (h : RevokesDevice names leaseSeconds world c d) :
    ((keySyncing names leaseSeconds world).after c).Withdrawn names d := by
  obtain ⟨⟨actorId, admin, htx⟩, hanswer⟩ := h
  obtain ⟨hdb, hseen, hcurrent⟩ := hsees
  obtain ⟨tx, seen, db⟩ := c
  dsimp only at htx
  subst htx
  unfold Transactions.answer at hanswer
  unfold Transactions.after
  have hrevoked : ∀ r : Except RuntimeFailure KeyDb, (settled db r).2.isDone →
      r = .ok (settled db r).1 := by
    intro r hr
    cases r with
    | ok db' => rfl
    | error e => cases hr
  exact (revokeDevice_move hseen hcurrent (hrevoked _ hanswer)).2

end

/-! ### Results -/

/-- In a run of orderly transactions the keys of revoked devices are withdrawn, and stay so. -/
theorem revokedKeys_withdrawn (names : KeyNames) (leaseSeconds : ℕ) (world : KeyWorld)
    (schedule : List (Scheduled KeyTx))
    (h : ∀ c ∈ (keySyncing names leaseSeconds world).commits schedule, Orderly names c) :
    ∀ earlier, earlier <:+ schedule → KeysWithdrawn names leaseSeconds world earlier := by
  intro earlier hearlier
  have hran := (keySyncing_ran h).suffix hearlier
  have hsuffix := Transactions.commits_suffix (keySyncing names leaseSeconds world) hearlier
  constructor
  · intro c hc d hrevokes c' hc' t hhands hdevice
    have hwithdrawn := withdrawn_of_revokes (hran.sees_of_mem hc) hrevokes
    obtain ⟨-, hfollows⟩ := hran.after_of_mem hc
    have hsound := hran.sound 0
    rw [List.drop_zero] at hsound
    obtain ⟨t₀, ht₀, hkept, -⟩ := handed_open hhands
    have hnode : t.nodeId ∈
        (((keySyncing names leaseSeconds world).state earlier).nodes.map Node.id) := by
      obtain ⟨n, hn, _, _, hnamed⟩ := (hran.sees_of_mem hc').before.named t₀ ht₀
      obtain ⟨s, rest, hrest, rfl⟩ := Transactions.exists_next_of_mem _ hc'
      rw [(hran.moved_of_suffix ((List.suffix_cons s rest).trans hrest)).nodes, hkept.nodeId,
        hnamed.nodeId]
      exact hn
    obtain ⟨t', ht', hid⟩ := hfollows.withdrawn hwithdrawn _ hnode
    obtain ⟨n, -, d', digested, hnamed⟩ := hsound.named t' ht'
    obtain ⟨hn, hd, hempty⟩ := hnamed.empty hid
    have hdevice' : taskDevice names t' = some d := hd ▸ hnamed.device
    exact ⟨t', ht', ⟨hid, hnamed.nodeId.trans hn, hdevice', hempty⟩, (hsound.empty t' ht' hempty).1⟩
  · refine hran.pairwise.imp_of_mem fun {later previous} hlater hprevious hmoved => ?_
    intro t hhands d hwithdraws t' hhands' hnode hdevice
    obtain ⟨-, hfollows⟩ := hmoved
    have hclosed := closed_of_handed (hran.sees_of_mem hprevious).before
      (h previous (hsuffix.subset hprevious)) hhands hwithdraws
    have hstep : ∃ g news, KeyMove names g news previous.before
        ((keySyncing names leaseSeconds world).after previous) :=
      commit_move (hran.sees_of_mem hprevious) (h previous (hsuffix.subset hprevious))
    obtain ⟨g, news, hmove⟩ := hstep
    have hstill := hfollows.closed _ _ (hmove.follows.closed _ _ hclosed)
    obtain ⟨t₀, ht₀, hkept, hopen⟩ := handed_open hhands'
    by_contra hkeys
    have hsettled := hstill.2 t₀ ht₀ (hkept.nodeId.symm.trans hnode)
      (hkept.device.symm.trans hdevice) fun hnil => hkeys (hkept.keys.mpr hnil)
    rw [hopen] at hsettled
    cases hsettled

/-- Identifiers as texts of as many digits, and the digested text as its own digest. -/
def unaryNames : KeyNames where
  uuid := ⟨fun id => List.replicate id '0', fun s => some s.length, UuidText.unary⟩
  plain id := by simp
  revision s := s
  revision_nil _ h := h

def sampleNode : Node where
  id := 1
  status := .healthy
  sshHost := some "node".toList
  wireguardIp := none
  sshUser := none
  runtimeCapabilities := []

/-- A device with a key, and a node. -/
def sampleWorld : KeyWorld where
  devices := [⟨2, 3, .active⟩]
  sshKeys := [⟨4, 2, "ssh-ed25519 key".toList, "fingerprint".toList, .active⟩]
  nodes := [sampleNode]
  clock := 0
  nextId := 5
  nodeIds := by decide

def sampleAttach : KeyTx := .authorizeAttach ⟨3, some 2, 1, .ok ()⟩

/-- The device is revoked, and the node fails the task that withdraws its keys. -/
def failedRun : List (Scheduled KeyTx) :=
  [.fresh (.fail 1 (sshKeySyncTaskId unaryNames 1 2 []) []), .fresh (.poll 1 1 []),
    .fresh (.revokeDevice 3 false 2)]

/-- The node has received the task once, and no one queues it again. -/
theorem failed_withdrawal_is_lost : ¬∀ names leaseSeconds world schedule,
    KeysWithdrawn names leaseSeconds world schedule := by
  intro h
  have hwithdrawn := (h unaryNames 60 sampleWorld failedRun).withdrawn
  have hrevokes : ∃ c ∈ (keySyncing unaryNames 60 sampleWorld).commits failedRun,
      RevokesDevice unaryNames 60 sampleWorld c 2 := by
    refine ⟨_, List.mem_cons_of_mem _ (List.mem_cons_of_mem _ List.mem_cons_self),
      ⟨3, false, rfl⟩, ?_⟩
    decide +kernel
  have hhands : ∃ c ∈ (keySyncing unaryNames 60 sampleWorld).commits failedRun,
      ∃ t, Hands unaryNames 60 sampleWorld c t ∧ taskDevice unaryNames t = some 2 := by
    have hpoll : ∃ c ∈ (keySyncing unaryNames 60 sampleWorld).commits failedRun,
        ∃ t ∈ ((keySyncing unaryNames 60 sampleWorld).answer c).tasks,
          taskDevice unaryNames t = some 2 := by decide +kernel
    exact hpoll
  obtain ⟨c, hc, hrevokes⟩ := hrevokes
  obtain ⟨c', hc', t, hhands, hdevice⟩ := hhands
  obtain ⟨t', ht', -, hdelivers⟩ := hwithdrawn c hc 2 hrevokes c' hc' t hhands hdevice
  have hfailed : ∀ t' ∈ ((keySyncing unaryNames 60 sampleWorld).state failedRun).tasks,
      t'.status = .failed := by decide +kernel
  rcases hdelivers with hopen | hsucceeded
  · rw [hfailed t' ht'] at hopen
    cases hopen
  · cases (hfailed t' ht').symm.trans hsucceeded

/-- A task with a key whose lease has lapsed is handed out after the task that withdraws it. -/
example : ((keySyncing unaryNames 60 sampleWorld).commits
    [.fresh (.poll 1 1 []), .fresh (.tick 61000000), .fresh (.poll 1 1 []),
      .fresh (.revokeDevice 3 false 2), .fresh (.poll 1 1 []), .fresh sampleAttach]).map
        (fun c => ((keySyncing unaryNames 60 sampleWorld).answer c).tasks.map
          fun t => (carriedKeys t).length) = [[1], [], [0], [], [1], []] := by decide +kernel

/-- The node carries the withdrawal out. -/
def withdrawnRun : List (Scheduled KeyTx) :=
  [.fresh (.complete 1 (sshKeySyncTaskId unaryNames 1 2 []) []), .fresh (.poll 1 1 []),
    .fresh (.revokeDevice 3 false 2)]

theorem revokedKeys_withdrawn_sample : KeysWithdrawn unaryNames 60 sampleWorld withdrawnRun := by
  refine revokedKeys_withdrawn unaryNames 60 sampleWorld _ ?_ _ (List.suffix_refl _)
  intro c hc
  unfold withdrawnRun at hc
  rw [Transactions.commits_cons, Transactions.commits_cons, Transactions.commits_cons,
    Transactions.commits_nil, List.mem_cons, List.mem_cons, List.mem_singleton] at hc
  rcases hc with rfl | rfl | rfl
  · exact trivial
  · have hempty : ∀ t ∈ ((keySyncing unaryNames 60 sampleWorld).state
        [.fresh (.revokeDevice 3 false 2)]).tasks, (carriedKeys t).length = 0 := by decide +kernel
    intro t _ _ t' ht' _ _ hkeys
    exact absurd (List.length_eq_zero_iff.mp (hempty t' ht')) hkeys
  · exact trivial

end AgentRemote.KeySync
