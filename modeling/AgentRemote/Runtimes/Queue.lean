import AgentRemote.Runtimes.Records
import AgentRemote.Library.Outcome

/-!
# The task queue of a node

A node polls for its tasks, starts them and reports how they ended. A poll locks the rows that it
leases. A start and a report write the status of a task they have read unlocked.
-/

namespace AgentRemote.Runtimes
open Library PortForwards

/-- `get_task_by_task_id`. -/
def taskByTaskId (tasks : List NodeTask) (taskId : Text) : Option NodeTask :=
  lookup NodeTask.taskId tasks taskId

/-- `_require_node_task`, of the tasks it reads. -/
def requireTask (tasks : List NodeTask) (nodeId : Uuid) (taskId : Text) :
    Except RuntimeFailure NodeTask :=
  match (taskByTaskId tasks taskId).filter (·.nodeId = nodeId) with
  | none => .error (.apiError "COMMON_NOT_FOUND" "Task was not found." 404)
  | some task => .ok task

/-! ### Polls -/

/-- A row of `list_pollable_tasks`. -/
def pollable (nodeId : Uuid) (now : Instant) (t : NodeTask) : Bool :=
  t.nodeId = nodeId ∧ (t.status = .pending ∨
    (t.status = .leased ∨ t.status = .running) ∧ t.leaseUntil.any (· ≤ now))

/-- `list_pollable_tasks`, which finds its rows in `seen` and tests them again once it has locked
them. Rows in `held` are locked by others and skipped. -/
def listPollableTasks (seen tasks : List NodeTask) (nodeId : Uuid) (now : Instant) (limit : ℕ)
    (held : List Uuid) : List NodeTask :=
  (tasks.filter fun t => (taskByTaskId seen t.taskId).any (pollable nodeId now) ∧
    pollable nodeId now t ∧ t.id ∉ held).take limit

/-- The task that `poll_tasks` hands out. -/
def NodeTask.leasedUntil (t : NodeTask) (until_ : Instant) : NodeTask :=
  { t with status := .leased, leaseUntil := some until_, retryCount := t.retryCount + 1 }

/-- The tasks after `poll_tasks`. -/
def leaseTasks (tasks polled : List NodeTask) (until_ : Instant) : List NodeTask :=
  tasks.map fun t => if t.id ∈ polled.map NodeTask.id then t.leasedUntil until_ else t

/-! ### Reports -/

/-- The task once a status is written that changes the copy it was read as. -/
def statusWritten (copy : NodeTask) (status : TaskStatus) (t : NodeTask) : NodeTask :=
  if copy.status = status then t
  else if t.taskId = copy.taskId then { t with status := status } else t

/-- The task once it is queued again, when it was read as `copy`. -/
def requeued (copy : NodeTask) (payload : JsonObject) (t : NodeTask) : NodeTask :=
  if t.taskId = copy.taskId then
    { t with status := .pending, payload := payload,
             leaseUntil := if copy.leaseUntil = none then t.leaseUntil else none }
  else t

/-- The results after a report of `task`, which had no receipt in `seen` or writes none. -/
def recordResult (seen results : List NodeTaskResult) (task : NodeTask) (outcome : TaskOutcome)
    (result error : Option JsonObject) (now : Instant) : List NodeTaskResult :=
  if lookup NodeTaskResult.taskId seen task.taskId = none then
    results ++ [⟨task.id, task.taskId, outcome, result, error, some now⟩]
  else results

section

variable {tasks seen : List NodeTask} {t copy : NodeTask} {nodeId : Uuid} {taskId : Text}

lemma requireTask_eq_ok (h : requireTask tasks nodeId taskId = .ok t) :
    t ∈ tasks ∧ t.taskId = taskId ∧ t.nodeId = nodeId := by
  unfold requireTask at h
  split at h
  · cases h
  · next t' hfind =>
    obtain rfl := Except.ok.inj h
    obtain ⟨hlookup, hnode⟩ := Option.filter_eq_some_iff.mp hfind
    exact ⟨mem_of_lookup hlookup, key_of_lookup hlookup, of_decide_eq_true hnode⟩

/-- What can be polled is not settled. -/
lemma pollable_open {now : Instant} (h : pollable nodeId now t = true) :
    t.nodeId = nodeId ∧ t.status.terminal = false := by
  obtain ⟨hnode, hstatus⟩ := of_decide_eq_true h
  refine ⟨hnode, ?_⟩
  rcases hstatus with hpending | ⟨hleased | hrunning, -⟩
  · rw [hpending]
    rfl
  · rw [hleased]
    rfl
  · rw [hrunning]
    rfl

lemma mem_listPollableTasks {now : Instant} {limit : ℕ} {held : List Uuid}
    (h : t ∈ listPollableTasks seen tasks nodeId now limit held) :
    t ∈ tasks ∧ pollable nodeId now t = true := by
  obtain ⟨hmem, hpolled⟩ := List.mem_filter.mp (List.mem_of_mem_take h)
  exact ⟨hmem, (of_decide_eq_true hpolled).2.1⟩

lemma statusWritten_cases (copy : NodeTask) (status : TaskStatus) (t : NodeTask) :
    statusWritten copy status t = t ∨ copy.status ≠ status ∧ t.taskId = copy.taskId ∧
      statusWritten copy status t = { t with status := status } := by
  unfold statusWritten
  split_ifs with hsame hid
  · exact .inl rfl
  · exact .inr ⟨hsame, hid, rfl⟩
  · exact .inl rfl

lemma requeued_cases (copy : NodeTask) (payload : JsonObject) (t : NodeTask) :
    t.taskId ≠ copy.taskId ∧ requeued copy payload t = t ∨
      t.taskId = copy.taskId ∧ ∃ lease, requeued copy payload t =
        { t with status := .pending, payload := payload, leaseUntil := lease } := by
  unfold requeued
  by_cases h : t.taskId = copy.taskId
  · rw [if_pos h]
    exact .inr ⟨h, _, rfl⟩
  · rw [if_neg h]
    exact .inl ⟨h, rfl⟩

end

end AgentRemote.Runtimes
