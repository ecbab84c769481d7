import FuturesAgentOs.PyModel.Dict
import FuturesAgentOs.PyModel.Exception
import Mathlib.Data.List.Sort

namespace FuturesAgentOs

open PyModel

/-!
# The task queue of the gateway

`channel_gateway/durable.py`: the rows of `fao.agent_task` and `fao.task_lease`, and the methods of
`PostgresGatewayStore` on them.  Each method is one transaction.  A time is a number of
microseconds, and each method is given the time of the clock that it reads.

* `TaskQueue.Completed` — what only a completion with success makes true.
-/

inductive TaskState where
  | QUEUED
  | RUNNING
  | RETRY
  | COMPLETED
  | FAILED
  deriving DecidableEq

/-- A row of `fao.task_lease`. -/
structure TaskLease where
  workerId : Text
  fencingToken : ℕ
  leaseExpiresAt : ℤ
  deriving DecidableEq

/-- A row of `fao.agent_task`, with its lease. -/
structure AgentTask (ε : Type) where
  assignedRoleId : Text
  state : TaskState
  envelope : ε
  requestedAt : ℤ
  lease : Option TaskLease := none
  deriving DecidableEq

structure GatewayTask (ε : Type) where
  taskId : Text
  envelope : ε
  fencingToken : ℕ
  workerId : Text
  deriving DecidableEq

/-- Microseconds in a second. -/
def microsPerSecond : ℤ := 1000000

namespace AgentTask

variable {ε : Type} (t : AgentTask ε)

/-- The task may be claimed: it waits, and no lease on it runs. -/
def Claimable (rolePrefix : Option Text) (now : ℤ) : Prop :=
  t.state ∈ [TaskState.QUEUED, .RETRY] ∧ t.requestedAt ≤ now
    ∧ (∀ p ∈ rolePrefix, p.isPrefixOf t.assignedRoleId = true)
    ∧ ∀ lease ∈ t.lease, lease.leaseExpiresAt ≤ now

instance (rolePrefix : Option Text) (now : ℤ) : Decidable (t.Claimable rolePrefix now) :=
  inferInstanceAs (Decidable (_ ∧ _))

/-- `COALESCE(l.fencing_token,0)+1` -/
def nextToken : ℕ := (t.lease.elim 0 TaskLease.fencingToken) + 1

/-- The task, claimed. -/
def claimed (workerId : Text) (now leaseSeconds : ℤ) : AgentTask ε :=
  { t with
    state := .RUNNING
    lease := some ⟨workerId, t.nextToken, now + leaseSeconds * microsPerSecond⟩ }

/-- The lease of the task is this worker's, under this token. -/
def HeldBy (workerId : Text) (fencingToken : ℕ) : Prop :=
  ∃ lease ∈ t.lease, lease.workerId = workerId ∧ lease.fencingToken = fencingToken

instance (workerId : Text) (fencingToken : ℕ) : Decidable (t.HeldBy workerId fencingToken) :=
  inferInstanceAs (Decidable (∃ lease ∈ t.lease, _))

/-- The lease of the task has run out. -/
def Expired (now : ℤ) : Prop :=
  t.state = .RUNNING ∧ ∃ lease ∈ t.lease, lease.leaseExpiresAt ≤ now

instance (now : ℤ) : Decidable (t.Expired now) := inferInstanceAs (Decidable (_ ∧ _))

end AgentTask

/-- The tasks, by `task_id`. -/
abbrev TaskQueue (ε : Type) := Dict Text (AgentTask ε)

namespace TaskQueue

variable {ε : Type} (q : TaskQueue ε)

/-- The rows that `claim_tasks` takes, the oldest request first. -/
def candidates (rolePrefix : Option Text) (limit now : ℤ) : List (Text × AgentTask ε) :=
  ((q.items.filter (fun p => p.2.Claimable rolePrefix now)).insertionSort
    (fun left right => left.2.requestedAt ≤ right.2.requestedAt)).take limit.toNat

/-- `claim_tasks`.  The prefix contains no wildcard of `LIKE`. -/
def claimTasks (workerId : Text) (limit leaseSeconds : ℤ) (rolePrefix : Option Text) (now : ℤ) :
    Py (List (GatewayTask ε) × TaskQueue ε) := do
  require (workerId.strip ≠ [] ∧ 1 ≤ limit ∧ 1 ≤ leaseSeconds)
    (valueError "worker_id, limit, and lease_seconds must be positive")
  whenSome rolePrefix (fun p => require (p.strip ≠ [])
    (valueError "assigned_role_prefix must be non-empty when provided"))
  let taken := q.candidates rolePrefix limit now
  .ok (taken.map (fun p => ⟨p.1, p.2.envelope, p.2.nextToken, workerId⟩),
    q.mapValues (fun taskId task =>
      if taskId ∈ taken.map Prod.fst then task.claimed workerId now leaseSeconds else task))

/-- The `UPDATE` of the task with an id, where it meets a condition; whether a row was changed. -/
def updateWhere (taskId : Text) (c : AgentTask ε → Prop) [DecidablePred c]
    (f : AgentTask ε → AgentTask ε) : Bool × TaskQueue ε :=
  ((q.get? taskId).any (fun task => c task),
    q.mapValues (fun k task => if k = taskId ∧ c task then f task else task))

def completeTask (taskId workerId : Text) (fencingToken : ℕ) (success : Bool) :
    Bool × TaskQueue ε :=
  q.updateWhere taskId (fun task => task.HeldBy workerId fencingToken) (fun task =>
    { task with state := if success then .COMPLETED else .FAILED, lease := none })

def retryTask (taskId workerId : Text) (fencingToken : ℕ) (backoffSeconds now : ℤ) :
    Py (Bool × TaskQueue ε) := do
  require (0 ≤ backoffSeconds) (valueError "backoff_seconds must be non-negative")
  .ok (q.updateWhere taskId (fun task => task.state = .RUNNING ∧ task.HeldBy workerId fencingToken)
    (fun task => { task with
      state := .RETRY
      requestedAt := now + backoffSeconds * microsPerSecond
      lease := none }))

/-- The tasks of `recover_expired`, and how many there were; their leases stay. -/
def recoverExpired (now : ℤ) : ℕ × TaskQueue ε :=
  (q.values.countP (fun task => task.Expired now),
    q.mapValues (fun _ task => if task.Expired now then { task with state := .QUEUED } else task))

/-! ### Which tasks there are, and which of them are completed -/

/-- A task is there, with an envelope. -/
def Names (taskId : Text) (envelope : ε) : Prop :=
  ∃ task, q.get? taskId = some task ∧ task.envelope = envelope

/-- A task is completed. -/
def Completed (taskId : Text) : Prop :=
  ∃ task, q.get? taskId = some task ∧ task.state = .COMPLETED

variable {q}

theorem Names.unique {taskId : Text} {e e' : ε} (h : q.Names taskId e) (h' : q.Names taskId e') :
    e = e' := by
  obtain ⟨task, hget, rfl⟩ := h
  obtain ⟨task', hget', rfl⟩ := h'
  rw [hget] at hget'
  rw [Option.some.inj hget']

section

variable {f : Text → AgentTask ε → AgentTask ε}

theorem get?_mapValues_eq_some {taskId : Text} {task : AgentTask ε} :
    (q.mapValues f).get? taskId = some task
      ↔ ∃ before, q.get? taskId = some before ∧ f taskId before = task := by
  rw [Dict.get?_mapValues, Option.map_eq_some_iff]

/-- Methods that keep the envelopes keep the names. -/
theorem names_mapValues (hf : ∀ k task, (f k task).envelope = task.envelope) {taskId : Text}
    {envelope : ε} : TaskQueue.Names (q.mapValues f) taskId envelope ↔ q.Names taskId envelope := by
  constructor
  · rintro ⟨task, hget, rfl⟩
    obtain ⟨before, hbefore, rfl⟩ := get?_mapValues_eq_some.mp hget
    exact ⟨before, hbefore, (hf taskId before).symm⟩
  · rintro ⟨task, hget, rfl⟩
    exact ⟨f taskId task, get?_mapValues_eq_some.mpr ⟨task, hget, rfl⟩, hf taskId task⟩

/-- A method completes no task but those that it turns into completed ones. -/
theorem completed_of_mapValues {P : Text → Prop}
    (hf : ∀ k task, (f k task).state = .COMPLETED → task.state = .COMPLETED ∨ P k) {taskId : Text}
    (h : TaskQueue.Completed (q.mapValues f) taskId) : q.Completed taskId ∨ P taskId := by
  obtain ⟨task, hget, hstate⟩ := h
  obtain ⟨before, hbefore, rfl⟩ := get?_mapValues_eq_some.mp hget
  exact (hf taskId before hstate).imp_left fun hcompleted => ⟨before, hbefore, hcompleted⟩

/-- A method that turns no task into a completed one. -/
theorem completed_of_mapValues_keeping
    (hf : ∀ k task, (f k task).state = .COMPLETED → task.state = .COMPLETED) {taskId : Text}
    (h : TaskQueue.Completed (q.mapValues f) taskId) : q.Completed taskId :=
  (completed_of_mapValues (P := fun _ => False) (fun k task hstate => Or.inl (hf k task hstate))
    h).resolve_right id

end

variable {taskId workerId : Text} {fencingToken : ℕ} {success : Bool} {limit leaseSeconds now : ℤ}
  {rolePrefix : Option Text} {claims : List (GatewayTask ε)} {after : TaskQueue ε}

/-- An `UPDATE` that meets no row. -/
theorem updateWhere_of_not {c : AgentTask ε → Prop} [DecidablePred c]
    {f : AgentTask ε → AgentTask ε} (h : ∀ task, q.get? taskId = some task → ¬ c task) :
    q.updateWhere taskId c f = (false, q) := by
  have hnone : (q.get? taskId).any (fun task => c task) = false := by
    rcases hget : q.get? taskId with _ | task
    · rfl
    · exact decide_eq_false (h task hget)
  have hkeeps : q.mapValues (fun k task => if k = taskId ∧ c task then f task else task) = q :=
    Dict.mapValues_eq_self fun k task hget =>
      if_neg fun hc : k = taskId ∧ c task => h task (hc.1 ▸ hget) hc.2
  rw [updateWhere, hnone, hkeeps]

/-- A row that a claim takes is there and claimable. -/
theorem mem_candidates {p : Text × AgentTask ε} (h : p ∈ q.candidates rolePrefix limit now) :
    q.get? p.1 = some p.2 ∧ p.2.Claimable rolePrefix now := by
  have hsorted := List.mem_of_mem_take h
  rw [List.mem_insertionSort, List.mem_filter] at hsorted
  exact ⟨Dict.mem_items_iff.mp hsorted.1, of_decide_eq_true hsorted.2⟩

/-- A claim takes a row once. -/
theorem nodup_candidates (q : TaskQueue ε) (rolePrefix : Option Text) (limit now : ℤ) :
    ((q.candidates rolePrefix limit now).map Prod.fst).Nodup := by
  refine (List.Sublist.nodup ((List.take_sublist _ _).map Prod.fst)) ?_
  rw [((List.perm_insertionSort _ _).map Prod.fst).nodup_iff]
  exact q.nodup.sublist (List.filter_sublist.map Prod.fst)

theorem claimTasks_eq_ok :
    q.claimTasks workerId limit leaseSeconds rolePrefix now = .ok (claims, after) ↔
      (workerId.strip ≠ [] ∧ 1 ≤ limit ∧ 1 ≤ leaseSeconds) ∧ (∀ p ∈ rolePrefix, p.strip ≠ [])
        ∧ claims = (q.candidates rolePrefix limit now).map
            (fun p => ⟨p.1, p.2.envelope, p.2.nextToken, workerId⟩)
        ∧ after = q.mapValues (fun taskId task =>
            if taskId ∈ (q.candidates rolePrefix limit now).map Prod.fst
            then task.claimed workerId now leaseSeconds else task) := by
  rw [claimTasks, require_bind_eq_ok, Py.bind_eq_ok]
  refine and_congr_right fun _ => ?_
  constructor
  · rintro ⟨_, hguards, h⟩
    obtain ⟨rfl, rfl⟩ := Prod.mk.inj (Except.ok.inj h)
    exact ⟨fun p hp => require_eq_ok.mp (whenSome_eq_ok.mp hguards p hp), rfl, rfl⟩
  · rintro ⟨hguards, rfl, rfl⟩
    exact ⟨(), whenSome_eq_ok.mpr fun p hp => require_of_pos (hguards p hp), rfl⟩

/-- **A claim** is of tasks that are there; it changes no envelope and completes nothing. -/
theorem claimTasks_facts
    (h : q.claimTasks workerId limit leaseSeconds rolePrefix now = .ok (claims, after)) :
    (∀ claim ∈ claims, q.Names claim.taskId claim.envelope)
      ∧ (∀ k e, after.Names k e ↔ q.Names k e) ∧ ∀ k, after.Completed k → q.Completed k := by
  obtain ⟨-, -, rfl, rfl⟩ := claimTasks_eq_ok.mp h
  refine ⟨fun claim hclaim => ?_, fun k e => names_mapValues fun k task => ?_, fun k hk => ?_⟩
  · obtain ⟨p, hp, rfl⟩ := List.mem_map.mp hclaim
    exact ⟨p.2, (mem_candidates hp).1, rfl⟩
  · split <;> rfl
  · refine completed_of_mapValues_keeping (fun k task hstate => ?_) hk
    split at hstate
    · cases hstate
    · exact hstate

theorem names_completeTask {k : Text} {e : ε} :
    (q.completeTask taskId workerId fencingToken success).2.Names k e ↔ q.Names k e :=
  names_mapValues fun k task => by split <;> rfl

theorem completed_of_completeTask {k : Text}
    (h : (q.completeTask taskId workerId fencingToken success).2.Completed k) :
    q.Completed k ∨ k = taskId ∧ success = true := by
  refine completed_of_mapValues (P := fun k => k = taskId ∧ success = true)
    (fun k task hstate => ?_) h
  split at hstate
  · rename_i hc
    rcases success
    · cases hstate
    · exact Or.inr ⟨hc.1, rfl⟩
  · exact Or.inl hstate

/-- **A retry** keeps the tasks and completes none. -/
theorem retryTask_facts {backoffSeconds : ℤ} {changed : Bool}
    (h : q.retryTask taskId workerId fencingToken backoffSeconds now = .ok (changed, after)) :
    (∀ k e, after.Names k e ↔ q.Names k e) ∧ ∀ k, after.Completed k → q.Completed k := by
  simp only [retryTask, require_bind_eq_ok] at h
  obtain ⟨rfl, rfl⟩ := Prod.mk.inj (Except.ok.inj h.2)
  refine ⟨fun k e => names_mapValues fun k task => ?_, fun k hk => ?_⟩
  · split <;> rfl
  · refine completed_of_mapValues_keeping (fun k task hstate => ?_) hk
    split at hstate
    · cases hstate
    · exact hstate

/-- **A recovery** keeps the tasks and completes none. -/
theorem recoverExpired_facts (q : TaskQueue ε) (now : ℤ) :
    (∀ k e, (q.recoverExpired now).2.Names k e ↔ q.Names k e)
      ∧ ∀ k, (q.recoverExpired now).2.Completed k → q.Completed k := by
  refine ⟨fun k e => names_mapValues fun k task => ?_, fun k hk => ?_⟩
  · split <;> rfl
  · refine completed_of_mapValues_keeping (fun k task hstate => ?_) hk
    split at hstate
    · cases hstate
    · exact hstate

/-- A new task is there besides the others, and not completed. -/
theorem set_facts (task : AgentTask ε) (hnew : q.get? taskId = none)
    (hstate : task.state ≠ .COMPLETED) :
    (∀ k e, q.Names k e → TaskQueue.Names (q.set taskId task) k e)
      ∧ ∀ k, TaskQueue.Completed (q.set taskId task) k → q.Completed k := by
  constructor
  · rintro k e ⟨found, hget, henvelope⟩
    refine ⟨found, ?_, henvelope⟩
    rw [Dict.get?_set_of_ne q task (fun heq => by rw [heq, hnew] at hget; cases hget), hget]
  · rintro k ⟨found, hget, hcompleted⟩
    rw [Dict.get?_set] at hget
    split at hget
    · exact absurd (Option.some.inj hget ▸ hcompleted) hstate
    · exact ⟨found, hget, hcompleted⟩

end TaskQueue

end FuturesAgentOs
