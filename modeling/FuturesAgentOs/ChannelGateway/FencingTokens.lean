import FuturesAgentOs.ChannelGateway.TaskQueue
import FuturesAgentOs.PyModel.Machine

namespace FuturesAgentOs

open PyModel

/-!
# The fencing tokens of the task queue

Runs of `claim_tasks`, `complete_task`, `retry_task` and `recover_expired` over a growing queue, by
any workers.  The next token of a task is read from its lease row: `recover_expired` keeps that row,
`retry_task` deletes it.

* `handedOut_increasing_iff` — the tokens increase exactly in the runs without such a claim.
-/

/-- A call of the store, by any worker. -/
inductive QueueCall (ε : Type) where
  /-- an event comes in, with its task -/
  | enqueue (taskId assignedRoleId : Text) (envelope : ε) (requestedAt : ℤ)
  | claimTasks (workerId : Text) (limit leaseSeconds : ℤ) (rolePrefix : Option Text) (now : ℤ)
  | completeTask (taskId workerId : Text) (fencingToken : ℕ) (success : Bool)
  | retryTask (taskId workerId : Text) (fencingToken : ℕ) (backoffSeconds now : ℤ)
  | recoverExpired (now : ℤ)

/-- What a call answers. -/
inductive QueueAnswer (ε : Type) where
  | inserted (isNew : Bool)
  | claims (claims : Py (List (GatewayTask ε)))
  | changed (changed : Py Bool)
  | recovered (count : ℕ)

namespace TaskQueue

variable {ε : Type}

/-- The transaction of a call; one that raises is rolled back. -/
def call (q : TaskQueue ε) : QueueCall ε → QueueAnswer ε × TaskQueue ε
  | .enqueue taskId assignedRoleId envelope requestedAt =>
    match q.get? taskId with
    | some _ => (.inserted false, q)
    | none => (.inserted true, q.set taskId
        { assignedRoleId, state := .QUEUED, envelope, requestedAt })
  | .claimTasks workerId limit leaseSeconds rolePrefix now =>
    match q.claimTasks workerId limit leaseSeconds rolePrefix now with
    | .ok (claims, after) => (.claims (.ok claims), after)
    | .error e => (.claims (.error e), q)
  | .completeTask taskId workerId fencingToken success =>
    let (changed, after) := q.completeTask taskId workerId fencingToken success
    (.changed (.ok changed), after)
  | .retryTask taskId workerId fencingToken backoffSeconds now =>
    match q.retryTask taskId workerId fencingToken backoffSeconds now with
    | .ok (changed, after) => (.changed (.ok changed), after)
    | .error e => (.changed (.error e), q)
  | .recoverExpired now =>
    let (count, after) := q.recoverExpired now
    (.recovered count, after)

/-- The store, as a machine of its calls. -/
def machine (ε : Type) : Machine (TaskQueue ε) (QueueCall ε) (QueueAnswer ε) := ⟨TaskQueue.call⟩

end TaskQueue

section

variable {ε : Type}

/-- The tokens of the claims of a task. -/
def tokensFor (taskId : Text) (claims : List (GatewayTask ε)) : List ℕ :=
  (claims.filter (fun claim => claim.taskId = taskId)).map GatewayTask.fencingToken

/-- The tokens that an answer hands out for a task. -/
def QueueAnswer.tokensFor (taskId : Text) : QueueAnswer ε → List ℕ
  | .claims (.ok taken) => FuturesAgentOs.tokensFor taskId taken
  | _ => []

/-- The tokens handed out for a task, in order. -/
def handedOut (taskId : Text) (history : List (TaskQueue ε × QueueCall ε × QueueAnswer ε)) :
    List ℕ :=
  history.flatMap (fun event => event.2.2.tokensFor taskId)

/-- The call is a claim that does not raise, and takes a task that `retry_task` gave back. -/
def QueueCall.TakesRetried (q : TaskQueue ε) : QueueCall ε → Prop
  | .claimTasks workerId limit leaseSeconds rolePrefix now =>
    (workerId.strip ≠ [] ∧ 1 ≤ limit ∧ 1 ≤ leaseSeconds) ∧ (∀ p ∈ rolePrefix, p.strip ≠ [])
      ∧ ∃ p ∈ q.candidates rolePrefix limit now, p.2.state = .RETRY
  | _ => False

/-- The tokens that a run hands out for a task increase, and no completion or retry under a token
of an earlier claim changes anything. -/
def TokensFence (calls : List (QueueCall ε)) (taskId : Text) : Prop :=
  (handedOut taskId ((TaskQueue.machine ε).trace .empty calls)).Pairwise (· < ·)
    ∧ ∀ earlier later,
      handedOut taskId ((TaskQueue.machine ε).trace .empty calls) = earlier ++ later → later ≠ [] →
      ∀ token ∈ earlier, ∀ workerId,
        (∀ success, ((TaskQueue.machine ε).exec .empty calls).completeTask taskId workerId token
          success = (false, (TaskQueue.machine ε).exec .empty calls))
        ∧ ∀ backoffSeconds now,
          (TaskQueue.machine ε).next ((TaskQueue.machine ε).exec .empty calls)
            (.retryTask taskId workerId token backoffSeconds now)
            = (TaskQueue.machine ε).exec .empty calls

@[simp] theorem handedOut_nil (taskId : Text) :
    handedOut taskId ([] : List (TaskQueue ε × QueueCall ε × QueueAnswer ε)) = [] := rfl

theorem handedOut_concat (taskId : Text)
    (history : List (TaskQueue ε × QueueCall ε × QueueAnswer ε))
    (event : TaskQueue ε × QueueCall ε × QueueAnswer ε) :
    handedOut taskId (history ++ [event])
      = handedOut taskId history ++ event.2.2.tokensFor taskId := by
  simp [handedOut]

/-! ### What a row knows of its tokens -/

/-- A row and the tokens that were handed out for its task. -/
structure AgentTask.Fenced (task : AgentTask ε) (tokens : List ℕ) : Prop where
  positive : ∀ token ∈ tokens, 0 < token
  increasing : tokens.Pairwise (· < ·)
  /-- the lease row holds the last token -/
  last : ∀ lease ∈ task.lease, tokens.getLast? = some lease.fencingToken
  /-- a task that waits without a lease row was never claimed -/
  fresh : task.state = .QUEUED → task.lease = none → tokens = []
  /-- but for a task that was given back -/
  retried : task.state = .RETRY → task.lease = none ∧ tokens ≠ []

namespace AgentTask.Fenced

variable {task : AgentTask ε} {tokens : List ℕ}

variable {token : ℕ}

theorem lt_of_mem_earlier (h : task.Fenced tokens) {lease : TaskLease} (hlease : lease ∈ task.lease)
    {earlier later : List ℕ} (htokens : tokens = earlier ++ later) (hlater : later ≠ []) (hmem : token ∈ earlier) : token < lease.fencingToken := by
  have hlast := h.last lease hlease
  have hincreasing := h.increasing
  rw [htokens, List.pairwise_append] at hincreasing
  rw [htokens, List.getLast?_append_of_ne_nil _ hlater] at hlast
  exact hincreasing.2.2 token hmem _ (List.mem_of_getLast? hlast)

theorem not_heldBy_earlier (h : task.Fenced tokens) {earlier later : List ℕ}
    (htokens : tokens = earlier ++ later) (hlater : later ≠ [])
    (hmem : token ∈ earlier) (workerId : Text) : ¬ task.HeldBy workerId token := by
  rintro ⟨lease, hlease, -, htoken⟩
  have hlt := h.lt_of_mem_earlier hlease htokens hlater hmem
  omega

/-- **A claim** of a task that was not given back hands out a greater token. -/
theorem claimed (h : task.Fenced tokens) (hwaits : task.state ∈ [TaskState.QUEUED, .RETRY])
    (hnot : task.state ≠ .RETRY) (workerId : Text) (now leaseSeconds : ℤ) :
    (task.claimed workerId now leaseSeconds).Fenced (tokens ++ [task.nextToken]) := by
  have hqueued : task.state = .QUEUED := by
    simpa [hnot] using hwaits
  have hbelow : ∀ token ∈ tokens, token < task.nextToken := by
    intro token hmem
    rcases hlease : task.lease with _ | lease
    · rw [h.fresh hqueued hlease] at hmem
      cases hmem
    · obtain ⟨front, rfl⟩ := List.getLast?_eq_some_iff.mp (h.last lease hlease)
      have hincreasing := (List.pairwise_append.mp h.increasing).2.2
      have hnext : task.nextToken = lease.fencingToken + 1 := by rw [nextToken, hlease]; rfl
      rcases List.mem_append.mp hmem with hfront | hend
      · have := hincreasing token hfront lease.fencingToken List.mem_cons_self
        omega
      · rw [List.mem_singleton.mp hend]
        omega
  constructor
  · intro token hmem
    rcases List.mem_append.mp hmem with hold | hnew
    · exact h.positive token hold
    · rw [List.mem_singleton.mp hnew, nextToken]
      omega
  · rw [List.pairwise_append]
    refine ⟨h.increasing, List.pairwise_singleton _ _, fun token hmem next hnext => ?_⟩
    rw [List.mem_singleton.mp hnext]
    exact hbelow token hmem
  · rintro lease hlease
    obtain rfl := Option.some.inj hlease
    exact List.getLast?_concat
  · intro hstate
    cases hstate
  · intro hstate
    cases hstate

/-- **A completion** under the lease ends it. -/
theorem completed (h : task.Fenced tokens) (success : Bool) :
    AgentTask.Fenced
      { task with state := if success then .COMPLETED else .FAILED, lease := none } tokens := by
  refine ⟨h.positive, h.increasing, ?_, ?_, ?_⟩
  · intro lease hlease
    cases hlease
  · intro hstate
    rcases success <;> cases hstate
  · intro hstate
    rcases success <;> cases hstate

/-- **A retry** under the lease forgets it. -/
theorem gaveBack (h : task.Fenced tokens) {workerId : Text}
    (hheld : task.HeldBy workerId token) (requestedAt : ℤ) :
    AgentTask.Fenced { task with state := .RETRY, requestedAt, lease := none } tokens := by
  obtain ⟨held, hheld, -⟩ := hheld
  refine ⟨h.positive, h.increasing, ?_, ?_, ?_⟩
  · intro lease hlease
    cases hlease
  · intro hstate
    cases hstate
  · rintro -
    refine ⟨rfl, fun hnone => ?_⟩
    have hlast := h.last held hheld
    rw [hnone] at hlast
    cases hlast

/-- **A recovery** keeps the lease row, and with it the last token. -/
theorem recovered (h : task.Fenced tokens) {now : ℤ} (hexpired : task.Expired now) :
    AgentTask.Fenced { task with state := .QUEUED } tokens := by
  obtain ⟨-, lease, hlease, -⟩ := hexpired
  refine ⟨h.positive, h.increasing, h.last, ?_, ?_⟩
  · intro hstate hnone
    rw [show task.lease = none from hnone] at hlease
    cases hlease
  · intro hstate
    cases hstate

end AgentTask.Fenced

/-! ### What a call does to the rows and the tokens -/

theorem tokensFor_of_not_mem {taskId : Text} {taken : List (Text × AgentTask ε)}
    (h : taskId ∉ taken.map Prod.fst) (workerId : Text) :
    tokensFor taskId (taken.map (fun p =>
      (⟨p.1, p.2.envelope, p.2.nextToken, workerId⟩ : GatewayTask ε))) = [] := by
  rw [tokensFor, List.filter_eq_nil_iff.mpr, List.map_nil]
  intro claim hclaim heq
  obtain ⟨p, hp, rfl⟩ := List.mem_map.mp hclaim
  exact h (List.mem_map.mpr ⟨p, hp, of_decide_eq_true heq⟩)

/-- A claim hands out one token for each task that it takes. -/
theorem tokensFor_of_mem {taskId workerId : Text} {task : AgentTask ε}
    {taken : List (Text × AgentTask ε)} (hnodup : (taken.map Prod.fst).Nodup)
    (h : (taskId, task) ∈ taken) :
    tokensFor taskId (taken.map (fun p =>
      (⟨p.1, p.2.envelope, p.2.nextToken, workerId⟩ : GatewayTask ε))) = [task.nextToken] := by
  induction taken with
  | nil => cases h
  | cons p taken ih =>
    rw [List.map_cons, List.nodup_cons] at hnodup
    rcases List.mem_cons.mp h with rfl | hrest
    · have hnil := tokensFor_of_not_mem hnodup.1 workerId
      rw [tokensFor] at hnil ⊢
      rw [List.map_cons, List.filter_cons_of_pos (by simp), List.map_cons, hnil]
    · have hne : p.1 ≠ taskId := by
        rintro rfl
        exact hnodup.1 (List.mem_map.mpr ⟨_, hrest, rfl⟩)
      have ih := ih hnodup.2 hrest
      rw [tokensFor] at ih ⊢
      rw [List.map_cons, List.filter_cons_of_neg (by simpa using hne), ih]

/-- Every row is fenced; a task that is not there was never claimed. -/
def TaskQueue.Fenced (q : TaskQueue ε) (tokens : Text → List ℕ) : Prop :=
  ∀ taskId, (q.get? taskId).elim (tokens taskId = []) (fun task => task.Fenced (tokens taskId))

namespace TaskQueue.Fenced

variable {q : TaskQueue ε} {tokens : Text → List ℕ}

theorem of_get? (h : q.Fenced tokens) {taskId : Text} {task : AgentTask ε}
    (hget : q.get? taskId = some task) : task.Fenced (tokens taskId) := by
  have hrow := h taskId
  rw [hget] at hrow
  exact hrow

/-- Rows rewritten in place. -/
theorem mapValues (h : q.Fenced tokens) {f : Text → AgentTask ε → AgentTask ε}
    {more : Text → List ℕ}
    (habsent : ∀ taskId, q.get? taskId = none → more taskId = [])
    (hrow : ∀ taskId task, q.get? taskId = some task → task.Fenced (tokens taskId) →
      (f taskId task).Fenced (tokens taskId ++ more taskId)) :
    TaskQueue.Fenced (q.mapValues f) (fun taskId => tokens taskId ++ more taskId) := by
  intro taskId
  rw [Dict.get?_mapValues]
  rcases hget : q.get? taskId with _ | task
  · have hnil := h taskId
    rw [hget] at hnil
    show tokens taskId ++ more taskId = []
    rw [habsent taskId hget, List.append_nil]
    exact hnil
  · exact hrow taskId task hget (h.of_get? hget)

/-- Rows rewritten in place by a call that hands out no token. -/
theorem mapValues_keeping (h : q.Fenced tokens) {f : Text → AgentTask ε → AgentTask ε}
    (hrow : ∀ taskId task, task.Fenced (tokens taskId) → (f taskId task).Fenced (tokens taskId)) :
    TaskQueue.Fenced (q.mapValues f) (fun taskId => tokens taskId ++ []) := by
  refine h.mapValues (fun _ _ => rfl) fun taskId task _ hfenced => ?_
  rw [List.append_nil]
  exact hrow taskId task hfenced

theorem append_nil (h : q.Fenced tokens) : q.Fenced (fun taskId => tokens taskId ++ []) := by
  simpa only [List.append_nil] using h

/-- **A new task** was never claimed. -/
theorem enqueue (h : q.Fenced tokens) {taskId assignedRoleId : Text} {envelope : ε}
    {requestedAt : ℤ} (hnew : q.get? taskId = none) :
    TaskQueue.Fenced (q.set taskId { assignedRoleId, state := .QUEUED, envelope, requestedAt })
      tokens := by
  intro k
  rw [Dict.get?_set]
  split
  · rename_i heq
    subst heq
    have hnil := h k
    rw [hnew, Option.elim_none] at hnil
    rw [Option.elim_some, hnil]
    exact ⟨by simp, List.Pairwise.nil, by simp, fun _ _ => rfl, fun hstate => by cases hstate⟩
  · exact h k

/-- **A claim** that takes no task given back. -/
theorem claimTasks (h : q.Fenced tokens) {workerId : Text} {limit leaseSeconds now : ℤ}
    {rolePrefix : Option Text} {claims : List (GatewayTask ε)} {after : TaskQueue ε}
    (hcall : q.claimTasks workerId limit leaseSeconds rolePrefix now = .ok (claims, after))
    (hnot : ∀ p ∈ q.candidates rolePrefix limit now, p.2.state ≠ .RETRY) :
    after.Fenced (fun taskId => tokens taskId ++ tokensFor taskId claims) := by
  obtain ⟨-, -, rfl, rfl⟩ := claimTasks_eq_ok.mp hcall
  refine h.mapValues (fun taskId habsent => ?_) fun taskId task hget hfenced => ?_
  · refine tokensFor_of_not_mem (fun hmem => ?_) _
    obtain ⟨p, hp, rfl⟩ := List.mem_map.mp hmem
    rw [(mem_candidates hp).1] at habsent
    cases habsent
  · split
    · rename_i hmem
      obtain ⟨p, hp, rfl⟩ := List.mem_map.mp hmem
      obtain ⟨hthere, hclaimable⟩ := mem_candidates hp
      obtain rfl : p.2 = task := Option.some.inj (hthere.symm.trans hget)
      rw [tokensFor_of_mem (q.nodup_candidates rolePrefix limit now) hp]
      exact hfenced.claimed hclaimable.1 (hnot p hp) workerId now leaseSeconds
    · rename_i hmem
      rw [tokensFor_of_not_mem hmem _, List.append_nil]
      exact hfenced

/-- **Every call** but a claim of a task given back keeps the rows fenced. -/
theorem call (h : q.Fenced tokens) (c : QueueCall ε) (hnot : ¬ c.TakesRetried q) :
    (q.call c).2.Fenced (fun taskId => tokens taskId ++ (q.call c).1.tokensFor taskId) := by
  cases c with
  | enqueue taskId assignedRoleId envelope requestedAt =>
    simp only [TaskQueue.call]
    split
    · exact h.append_nil
    · rename_i hnew
      exact (h.enqueue hnew).append_nil
  | claimTasks workerId limit leaseSeconds rolePrefix now =>
    simp only [TaskQueue.call]
    split
    · rename_i claims after hcall
      obtain ⟨hargs, hguards, -⟩ := claimTasks_eq_ok.mp hcall
      exact h.claimTasks hcall fun p hp hstate => hnot ⟨hargs, hguards, p, hp, hstate⟩
    · exact h.append_nil
  | completeTask taskId workerId fencingToken success =>
    refine h.mapValues_keeping fun k task hfenced => ?_
    split
    · exact hfenced.completed success
    · exact hfenced
  | retryTask taskId workerId fencingToken backoffSeconds now =>
    simp only [TaskQueue.call]
    split
    · rename_i changed after hcall
      simp only [TaskQueue.retryTask, require_bind_eq_ok] at hcall
      obtain ⟨-, rfl⟩ := Prod.mk.inj (Except.ok.inj hcall.2)
      refine h.mapValues_keeping fun k task hfenced => ?_
      split
      · rename_i hc
        exact hfenced.gaveBack hc.2.2 _
      · exact hfenced
    · exact h.append_nil
  | recoverExpired now =>
    refine h.mapValues_keeping fun k task hfenced => ?_
    split
    · rename_i hexpired
      exact hfenced.recovered hexpired
    · exact hfenced

/-- **A claim of a task given back** hands out a token that is not greater than the last. -/
theorem not_increasing (h : q.Fenced tokens) {c : QueueCall ε} (hc : c.TakesRetried q) :
    ∃ taskId, ¬ (tokens taskId ++ (q.call c).1.tokensFor taskId).Pairwise (· < ·) := by
  cases c with
  | claimTasks workerId limit leaseSeconds rolePrefix now =>
    obtain ⟨hargs, hguards, p, hp, hretry⟩ := hc
    have hcall : q.claimTasks workerId limit leaseSeconds rolePrefix now = .ok (_, _) :=
      claimTasks_eq_ok.mpr ⟨hargs, hguards, rfl, rfl⟩
    have hfenced := h.of_get? (mem_candidates hp).1
    obtain ⟨hnone, hne⟩ := hfenced.retried hretry
    obtain ⟨token, hmem⟩ := List.exists_mem_of_ne_nil _ hne
    have hnext : p.2.nextToken = 1 := by rw [AgentTask.nextToken, hnone]; rfl
    have hanswer : (q.call (.claimTasks workerId limit leaseSeconds rolePrefix now)).1.tokensFor p.1
        = [1] := by
      simp only [TaskQueue.call, hcall]
      rw [← hnext]
      exact tokensFor_of_mem (q.nodup_candidates rolePrefix limit now) hp
    refine ⟨p.1, fun hincreasing => ?_⟩
    rw [hanswer, List.pairwise_append] at hincreasing
    have hlt := hincreasing.2.2 token hmem 1 List.mem_cons_self
    have hpos := hfenced.positive token hmem
    omega
  | enqueue => exact hc.elim
  | completeTask => exact hc.elim
  | retryTask => exact hc.elim
  | recoverExpired => exact hc.elim

end TaskQueue.Fenced

/-! ### Runs -/

/-- **A run** without a claim of a task given back keeps the rows fenced. -/
theorem fenced_exec {calls : List (QueueCall ε)}
    (h : (TaskQueue.machine ε).Meets (fun q c => ¬ c.TakesRetried q) .empty calls) :
    TaskQueue.Fenced ((TaskQueue.machine ε).exec .empty calls)
      (fun taskId => handedOut taskId ((TaskQueue.machine ε).trace .empty calls)) := by
  refine (TaskQueue.machine ε).trace_invariant_of_meets
    (I := fun history q => TaskQueue.Fenced q (fun taskId => handedOut taskId history))
    (fun history q c hnot hfenced => ?_) (fun taskId => ?_) h
  · simp only [handedOut_concat]
    exact hfenced.call c hnot
  · exact handedOut_nil taskId

/-- A run whose tokens increase has no claim of a task given back. -/
theorem meets_of_increasing {calls : List (QueueCall ε)}
    (h : ∀ taskId,
      (handedOut taskId ((TaskQueue.machine ε).trace .empty calls)).Pairwise (· < ·)) :
    (TaskQueue.machine ε).Meets (fun q c => ¬ c.TakesRetried q) .empty calls := by
  induction calls using List.reverseRecOn with
  | nil => trivial
  | append_singleton calls c ih =>
    simp only [Machine.trace_concat, handedOut_concat] at h
    have hmeets := ih fun taskId => (List.pairwise_append.mp (h taskId)).1
    rw [Machine.meets_append]
    refine ⟨hmeets, fun htakes => ?_, trivial⟩
    obtain ⟨taskId, hnot⟩ := (fenced_exec hmeets).not_increasing htakes
    exact hnot (h taskId)

/-- **The tokens of every task increase, and earlier ones change nothing, exactly in the runs in
which no claim takes a task that `retry_task` gave back.** -/
theorem handedOut_increasing_iff (calls : List (QueueCall ε)) :
    (∀ taskId, TokensFence calls taskId)
      ↔ (TaskQueue.machine ε).Meets (fun q c => ¬ c.TakesRetried q) .empty calls := by
  constructor
  · intro h
    exact meets_of_increasing fun taskId => (h taskId).1
  · intro h taskId
    have hfenced := fenced_exec h
    set q := (TaskQueue.machine ε).exec .empty calls with hq
    -- a row whose lease is not the worker's is not rewritten
    have hsame : ∀ {earlier later : List ℕ}, later ≠ [] →
        handedOut taskId ((TaskQueue.machine ε).trace .empty calls) = earlier ++ later →
        ∀ token ∈ earlier, ∀ workerId task, q.get? taskId = some task →
          ¬ task.HeldBy workerId token :=
      fun hlater htokens token hmem workerId task hget =>
        (hfenced.of_get? hget).not_heldBy_earlier htokens hlater hmem workerId
    refine ⟨?_, fun earlier later htokens hlater token hmem workerId => ⟨?_, ?_⟩⟩
    · rcases hget : q.get? taskId with _ | task
      · have hnil : handedOut taskId ((TaskQueue.machine ε).trace .empty calls) = [] := by
          have hrow := hfenced taskId
          rwa [hget] at hrow
        rw [hnil]
        exact List.Pairwise.nil
      · exact (hfenced.of_get? hget).increasing
    · intro success
      exact TaskQueue.updateWhere_of_not fun task hget =>
        hsame hlater htokens token hmem workerId task hget
    · intro backoffSeconds now
      show (q.call _).2 = q
      simp only [TaskQueue.call]
      split
      · rename_i changed after hcall
        simp only [TaskQueue.retryTask, require_bind_eq_ok] at hcall
        rw [TaskQueue.updateWhere_of_not fun task hget hheld =>
          hsame hlater htokens token hmem workerId task hget hheld.2] at hcall
        exact (Prod.mk.inj (Except.ok.inj hcall.2)).2.symm
      · rfl

/-- A task is claimed, given back, and claimed again: both claims have token 1. -/
def retriedCalls : List (QueueCall Unit) :=
  [.enqueue "task" "worker" () 0, .claimTasks "w1" 1 30 none 0, .retryTask "task" "w1" 1 0 1,
    .claimTasks "w1" 1 30 none 1]

/-- Not every run's tokens increase. -/
theorem tokens_repeat_after_retry : ¬ ∀ calls : List (QueueCall Unit), ∀ taskId,
    TokensFence calls taskId := by
  intro h
  have hincreasing := (h retriedCalls "task").1
  have htokens :
      handedOut "task" ((TaskQueue.machine Unit).trace .empty retriedCalls) = [1, 1] := by
    decide +kernel
  rw [htokens] at hincreasing
  exact absurd hincreasing (by decide)

end

end FuturesAgentOs
