import FuturesAgentOs.AgentOrchestration.Watch
import FuturesAgentOs.ChannelGateway.TaskQueue
import FuturesAgentOs.PyModel.Machine

namespace FuturesAgentOs

open PyModel

/-!
# Workers on the watch queue

`DurableWatchWorker.run_once` of any number of workers over one queue, cut at every point where
another worker may act: the claim, each call of an owner, the call of the reduction handler, and the
write of the verdict.  Workers may share a coordinator.

* `served_of_completed` — then a completed task was served, in every run.
-/

/-- What `run_once` writes about a task. -/
inductive WatchVerdict where
  | COMPLETED
  | RETRY
  | FAILED
  deriving DecidableEq

/-- An event with the task that carries it, as `claim_watch_events` returns them. -/
structure Delivery where
  event : WatchEvent
  task : GatewayTask WatchEvent
  deriving DecidableEq

/-- The event is read back from the envelope. -/
def Delivery.ofTask (task : GatewayTask WatchEvent) : Delivery := ⟨task.envelope, task⟩

/-- Where `run_once` is. -/
inductive WorkerPhase where
  /-- before the next delivery -/
  | ready
  /-- in the owner's call, with the attempts that are left -/
  | calling (delivery : Delivery) (attempts : ℕ)
  /-- in the call of the reduction handler -/
  | reducing (delivery : Delivery) (request : RiskReductionRequest)
  /-- before the write of the verdict -/
  | settling (delivery : Delivery) (verdict : WatchVerdict)
  deriving DecidableEq

/-- A `DurableWatchWorker` of the coordinator with an index, inside `run_once` or before it. -/
structure DurableWatchWorker (κ : Type) where
  workerId : Text
  coordinator : κ
  maxAttempts : ℤ := 2
  pending : List Delivery := []
  phase : WorkerPhase := .ready

namespace DurableWatchWorker

variable {κ : Type} (d : DurableWatchWorker κ)

/-- `run_once` is left, whatever was not delivered yet. -/
def left : DurableWatchWorker κ := { d with pending := [], phase := .ready }

/-- The deliveries that `run_once` is at or has still to come to. -/
def deliveries : List Delivery :=
  match d.phase with
  | .ready => d.pending
  | .calling delivery _ => delivery :: d.pending
  | .reducing delivery _ => delivery :: d.pending
  | .settling delivery _ => delivery :: d.pending

end DurableWatchWorker

/-- The queue, the coordinators, the workers, and what owners and handlers have done so far. -/
structure WatchSystem (ω κ : Type) where
  queue : TaskQueue WatchEvent
  coordinators : κ → WatchCoordinator
  workers : ω → DurableWatchWorker κ
  /-- what the owners have returned, for which event -/
  returned : List (WatchEvent × Option RiskReductionRequest)
  /-- the requests that the handlers have accepted, for which event -/
  accepted : List (WatchEvent × RiskReductionRequest)

/-- What may happen next. -/
inductive WatchAction (ω κ : Type) where
  /-- `enqueue_watch_event` -/
  | enqueue (event : WatchEvent)
  /-- `run_once` of a worker starts, with its claim -/
  | runOnce (worker : ω) (limit maxAttempts now : ℤ)
  /-- the next delivery is taken up -/
  | deliver (worker : ω)
  /-- the owner that the worker has called answers -/
  | ownerAnswers (worker : ω) (answer : OwnerAnswer)
  /-- the handler that the worker has called answers -/
  | handlerAnswers (worker : ω) (answer : Py Unit)
  /-- the verdict is written -/
  | settle (worker : ω) (now : ℤ)
  /-- `recover_expired` -/
  | recover (now : ℤ)
  /-- the worker is lost, or the queue raises -/
  | lose (worker : ω)
  /-- the process of a coordinator and its workers starts again -/
  | restart (coordinator : κ) (maxInflight cooldownSeconds : ℤ) (triggers : List WatchTrigger)

namespace WatchSystem

variable {ω κ : Type} (s : WatchSystem ω κ)

/-- The coordinator of a worker. -/
def coordinatorOf (w : ω) : WatchCoordinator := s.coordinators (s.workers w).coordinator

section

variable [DecidableEq ω] [DecidableEq κ]

/-- A worker is replaced. -/
def withWorker (w : ω) (d : DurableWatchWorker κ) : WatchSystem ω κ :=
  { s with workers := Function.update s.workers w d }

/-- A worker is in another phase. -/
def inPhase (w : ω) (phase : WorkerPhase) : WatchSystem ω κ :=
  s.withWorker w { s.workers w with phase }

/-- The coordinator of a worker is replaced. -/
def withCoordinatorOf (w : ω) (c : WatchCoordinator) : WatchSystem ω κ :=
  { s with coordinators := Function.update s.coordinators (s.workers w).coordinator c }

/-- The task of an event. -/
def watchTask (event : WatchEvent) : AgentTask WatchEvent where
  assignedRoleId := Text.ofString "watch." ++ event.fields.trigger.lower
  state := .QUEUED
  envelope := event
  requestedAt := event.fields.occurredAt

/-- `enqueue_watch_event`, whether a task was inserted.  The event's id names the task, of which
`task_id` is a digest. -/
def enqueue (event : WatchEvent) : Py Bool × WatchSystem ω κ :=
  match s.queue.get? event.fields.eventId with
  | none =>
    (.ok true, { s with queue := s.queue.set event.fields.eventId (watchTask event) })
  | some prior =>
    if prior.envelope ≠ event then (.error (valueError "conflicting replay for watch event"), s)
    else (.ok false, s)

/-- The claim of `run_once`; the events are read back from the envelopes. -/
def runOnce (w : ω) (limit maxAttempts now : ℤ) : WatchSystem ω κ :=
  if (s.workers w).phase = .ready ∧ (s.workers w).pending = [] then
    match s.queue.claimTasks (s.workers w).workerId limit 30 (some "watch.") now with
    | .error _ => s
    | .ok (claims, queue) =>
      { s with queue }.withWorker w { s.workers w with
        maxAttempts
        pending := claims.map Delivery.ofTask }
  else s

/-- How `run_once` goes on from what `process_with_retry` of the coordinator came to. -/
def proceed (w : ω) (delivery : Delivery) : WatchProgress → WatchSystem ω κ
  | .calling attempts => s.inPhase w (.calling delivery attempts)
  | .returned (some request) => s.inPhase w (.reducing delivery request)
  | .returned none => s.inPhase w (.settling delivery .COMPLETED)
  | .raised => s.withWorker w (s.workers w).left

/-- The next delivery. -/
def deliver (w : ω) : WatchSystem ω κ :=
  match (s.workers w).phase, (s.workers w).pending with
  | .ready, delivery :: rest =>
    let came := (s.coordinatorOf w).processWithRetry delivery.event (s.workers w).maxAttempts
    ((s.withCoordinatorOf w came.2).withWorker w { s.workers w with pending := rest }).proceed w
      delivery came.1
  | _, _ => s

/-- What the owner has returned with an answer. -/
def answered (event : WatchEvent) : OwnerAnswer → List (WatchEvent × Option RiskReductionRequest)
  | .ok result => [(event, result)]
  | .error _ => []

/-- The owner's answer. -/
def ownerAnswers (w : ω) (answer : OwnerAnswer) : WatchSystem ω κ :=
  match (s.workers w).phase with
  | .calling delivery attempts =>
    let came := (s.coordinatorOf w).answer delivery.event attempts answer
    ({ s with returned := s.returned ++ answered delivery.event answer }.withCoordinatorOf w
      came.2).proceed w delivery came.1
  | _ => s

/-- The handler's answer, and the clauses of `run_once` that catch it. -/
def handlerAnswers (w : ω) (answer : Py Unit) : WatchSystem ω κ :=
  match (s.workers w).phase with
  | .reducing delivery request =>
    match answer with
    | .ok () =>
      { s with accepted := s.accepted ++ [(delivery.event, request)] }.inPhase w
        (.settling delivery .COMPLETED)
    | .error e =>
      if IsTransientError e then s.inPhase w (.settling delivery .RETRY)
      else if IsTypeOrValueError e then s.inPhase w (.settling delivery .FAILED)
      else s.withWorker w (s.workers w).left
  | _ => s

/-- The write of the verdict. -/
def settle (w : ω) (now : ℤ) : WatchSystem ω κ :=
  match (s.workers w).phase with
  | .settling delivery verdict =>
    let task := delivery.task
    let workerId := (s.workers w).workerId
    match verdict with
    | .COMPLETED =>
      { s with
        queue := (s.queue.completeTask task.taskId workerId task.fencingToken true).2 }.inPhase w
        .ready
    | .FAILED =>
      { s with
        queue := (s.queue.completeTask task.taskId workerId task.fencingToken false).2 }.inPhase w
        .ready
    | .RETRY =>
      match s.queue.retryTask task.taskId workerId task.fencingToken 1 now with
      | .error _ => s.withWorker w (s.workers w).left
      | .ok (_, queue) => { s with queue }.inPhase w .ready
  | _ => s

/-- The process of a coordinator starts again: a new coordinator, and its workers before
`run_once`. -/
def restart (k : κ) (maxInflight cooldownSeconds : ℤ) (triggers : List WatchTrigger) :
    WatchSystem ω κ :=
  match WatchCoordinator.started maxInflight cooldownSeconds triggers with
  | .error _ => s
  | .ok c =>
    { s with
      coordinators := Function.update s.coordinators k c
      workers := fun w =>
        if (s.workers w).coordinator = k then (s.workers w).left else s.workers w }

/-- One step. -/
def step : WatchAction ω κ → WatchSystem ω κ
  | .enqueue event => (s.enqueue event).2
  | .runOnce w limit maxAttempts now => s.runOnce w limit maxAttempts now
  | .deliver w => s.deliver w
  | .ownerAnswers w answer => s.ownerAnswers w answer
  | .handlerAnswers w answer => s.handlerAnswers w answer
  | .settle w now => s.settle w now
  | .recover now => { s with queue := (s.queue.recoverExpired now).2 }
  | .lose w => s.withWorker w (s.workers w).left
  | .restart k maxInflight cooldownSeconds triggers =>
    s.restart k maxInflight cooldownSeconds triggers

/-- Runs of the system. -/
def machine : Machine (WatchSystem ω κ) (WatchAction ω κ) Unit :=
  ⟨fun s action => ((), s.step action)⟩

end

/-- An empty queue, and coordinators and workers before their first `run_once`. -/
def new (coordinators : κ → WatchCoordinator) (workers : ω → DurableWatchWorker κ) :
    WatchSystem ω κ where
  queue := Dict.empty
  coordinators := coordinators
  workers := fun w => (workers w).left
  returned := []
  accepted := []

/-! ### What a completed task promises -/

/-- An owner has returned normally for the event, and its request, if any, was accepted. -/
def Served (event : WatchEvent) : Prop :=
  ∃ result, (event, result) ∈ s.returned
    ∧ ∀ request, result = some request → (event, request) ∈ s.accepted

/-- The step does not drop an event that was not served: a delivery finds a watch that lets the
event through to the owner, and an exception of the owner is neither a `TypeError` nor a
`ValueError`, nor a transient one on the last attempt or when the event is not let through again. -/
def Heard : WatchAction ω κ → Prop
  | .deliver w => ∀ delivery ∈ (s.workers w).pending.head?, (s.workers w).phase = .ready →
    s.Served delivery.event
      ∨ 1 ≤ (s.workers w).maxAttempts ∧ (s.coordinatorOf w).Admits delivery.event
  | .ownerAnswers w (.error e) => ∀ delivery attempts,
    (s.workers w).phase = .calling delivery attempts →
    s.Served delivery.event
      ∨ ¬ IsTypeOrValueError e
        ∧ (IsTransientError e →
          1 ≤ attempts ∧ ((s.coordinatorOf w).released delivery.event).Admits delivery.event)
  | _ => True

/-! ### The invariant -/

/-- What holds of a worker. -/
structure Follows (d : DurableWatchWorker κ) : Prop where
  /-- its deliveries are of tasks of the queue -/
  named : ∀ delivery ∈ d.deliveries, s.queue.Names delivery.task.taskId delivery.event
  /-- a request that it hands to the handler was returned by an owner -/
  returned : ∀ delivery request, d.phase = .reducing delivery request →
    (delivery.event, some request) ∈ s.returned
  /-- an event whose task it is about to complete was served -/
  settling : ∀ delivery, d.phase = .settling delivery .COMPLETED → s.Served delivery.event

/-- The invariant. -/
structure Safe : Prop where
  workers : ∀ w, s.Follows (s.workers w)
  completed : ∀ taskId event, s.queue.Completed taskId → s.queue.Names taskId event → s.Served event

/-- What a step keeps: tasks with their events, and what owners and handlers have done. -/
structure Grows (s t : WatchSystem ω κ) : Prop where
  names : ∀ taskId event, s.queue.Names taskId event → t.queue.Names taskId event
  returned : s.returned ⊆ t.returned
  accepted : s.accepted ⊆ t.accepted

variable {s} {t : WatchSystem ω κ} {w : ω} {d : DurableWatchWorker κ}

theorem Served.mono {event : WatchEvent} (h : s.Served event) (hreturned : s.returned ⊆ t.returned)
    (haccepted : s.accepted ⊆ t.accepted) : t.Served event := by
  obtain ⟨result, hresult, hrequest⟩ := h
  exact ⟨result, hreturned hresult, fun request heq => haccepted (hrequest request heq)⟩

theorem Follows.mono (h : s.Follows d) (hgrows : Grows s t) : t.Follows d where
  named delivery hdelivery := hgrows.names _ _ (h.named delivery hdelivery)
  returned delivery request hphase := hgrows.returned (h.returned delivery request hphase)
  settling delivery hphase := (h.settling delivery hphase).mono hgrows.returned hgrows.accepted

theorem pending_subset (d : DurableWatchWorker κ) : d.pending ⊆ d.deliveries := by
  intro delivery h
  simp only [DurableWatchWorker.deliveries]
  split
  · exact h
  all_goals exact List.mem_cons_of_mem _ h

/-- A worker before the next delivery promises nothing new. -/
theorem Follows.of_ready (hphase : d.phase = .ready)
    (hnamed : ∀ delivery ∈ d.pending, s.queue.Names delivery.task.taskId delivery.event) :
    s.Follows d where
  named := by
    rw [DurableWatchWorker.deliveries, hphase]
    exact hnamed
  returned delivery request h := by
    rw [hphase] at h
    cases h
  settling delivery h := by
    rw [hphase] at h
    cases h

theorem follows_left (d : DurableWatchWorker κ) : s.Follows d.left :=
  .of_ready rfl (fun delivery h => by cases h)

/-- **Another queue** with the same tasks and no more of them completed. -/
theorem Safe.of_queue (h : s.Safe) {queue : TaskQueue WatchEvent}
    (hnames : ∀ taskId event, s.queue.Names taskId event → queue.Names taskId event)
    (hcompleted : ∀ taskId, queue.Completed taskId → s.queue.Completed taskId) :
    ({ s with queue } : WatchSystem ω κ).Safe where
  workers w := (h.workers w).mono ⟨hnames, fun _ h => h, fun _ h => h⟩
  completed taskId event hdone hname := by
    have hdone' := hcompleted taskId hdone
    obtain ⟨task, hget, -⟩ := hdone'
    have hname' : s.queue.Names taskId task.envelope := ⟨task, hget, rfl⟩
    obtain rfl := hname.unique (hnames taskId task.envelope hname')
    exact h.completed taskId _ (hcompleted taskId hdone) hname'

/-- Owners and handlers have done more. -/
theorem Safe.of_logs (h : s.Safe) {returned : List (WatchEvent × Option RiskReductionRequest)}
    {accepted : List (WatchEvent × RiskReductionRequest)} (hreturned : s.returned ⊆ returned)
    (haccepted : s.accepted ⊆ accepted) :
    ({ s with returned, accepted } : WatchSystem ω κ).Safe where
  workers w := (h.workers w).mono ⟨fun _ _ h => h, hreturned, haccepted⟩
  completed taskId event hdone hname :=
    (h.completed taskId event hdone hname).mono hreturned haccepted

/-! ### The steps -/

/-- Coordinators may change without harm. -/
theorem Safe.withCoordinatorOf [DecidableEq κ] (h : s.Safe) (c : WatchCoordinator) :
    (s.withCoordinatorOf w c).Safe where
  workers v := (h.workers v).mono ⟨fun _ _ h => h, fun _ h => h, fun _ h => h⟩
  completed := h.completed

theorem safe_enqueue (h : s.Safe) (event : WatchEvent) : (s.enqueue event).2.Safe := by
  unfold enqueue
  split
  · rename_i hnew
    obtain ⟨hnames, hcompleted⟩ := TaskQueue.set_facts (watchTask event) hnew
      (fun h => by cases h)
    exact h.of_queue hnames hcompleted
  · split
    · exact h
    · exact h

theorem answer_served {answer : OwnerAnswer} (hheard : s.Heard (.ownerAnswers w answer))
    {delivery : Delivery} {attempts : ℕ} (hphase : (s.workers w).phase = .calling delivery attempts)
    {result : Option RiskReductionRequest}
    (h : ((s.coordinatorOf w).answer delivery.event attempts answer).1 = .returned result) :
    (delivery.event, result) ∈ answered delivery.event answer
      ∨ result = none ∧ s.Served delivery.event := by
  rcases WatchCoordinator.answer_cases h with rfl | ⟨e, rfl, rfl, hcaught⟩
  · exact Or.inl (List.mem_singleton_self _)
  · refine Or.inr ⟨rfl, ?_⟩
    rcases hheard delivery attempts hphase with hserved | ⟨huncaught, hretried⟩
    · exact hserved
    · rcases hcaught with hcaught | ⟨htransient, hattempt⟩
      · exact absurd hcaught huncaught
      · -- there is another turn, and it calls the owner again
        obtain ⟨hpos, hadmits⟩ := hretried htransient
        obtain ⟨left, rfl⟩ : ∃ n, attempts = n + 1 := ⟨attempts - 1, by omega⟩
        rw [WatchCoordinator.attempt_of_admits hadmits] at hattempt
        cases hattempt

section

variable [DecidableEq ω]

@[simp] theorem workers_withWorker_self : (s.withWorker w d).workers w = d :=
  Function.update_self ..

theorem workers_withWorker_of_ne {v : ω} (h : v ≠ w) :
    (s.withWorker w d).workers v = s.workers v := Function.update_of_ne h _ _

/-- One worker changes, and nothing else that the invariant reads. -/
theorem Safe.withWorker (h : s.Safe) (hworker : s.Follows d) : (s.withWorker w d).Safe where
  workers v := by
    have hsame : Grows s (s.withWorker w d) := ⟨fun _ _ h => h, fun _ h => h, fun _ h => h⟩
    by_cases hv : v = w
    · rw [hv, workers_withWorker_self]
      exact hworker.mono hsame
    · rw [workers_withWorker_of_ne hv]
      exact (h.workers v).mono hsame
  completed := h.completed

/-- **Going on** after `process_with_retry`: a request was returned by the owner, and `None` stands
for an event that was served. -/
theorem Safe.proceed (h : s.Safe) {delivery : Delivery} {progress : WatchProgress}
    (hnamed : s.queue.Names delivery.task.taskId delivery.event)
    (hrequest : ∀ request, progress = .returned (some request) →
      (delivery.event, some request) ∈ s.returned)
    (hnone : progress = .returned none → s.Served delivery.event) :
    (s.proceed w delivery progress).Safe := by
  have hpending : ∀ x ∈ (s.workers w).pending, s.queue.Names x.task.taskId x.event :=
    fun x hx => (h.workers w).named x (pending_subset _ hx)
  have hcons : ∀ x ∈ delivery :: (s.workers w).pending, s.queue.Names x.task.taskId x.event :=
    List.forall_mem_cons.mpr ⟨hnamed, hpending⟩
  rcases progress with attempts | (_ | request) | _
  · refine h.withWorker ⟨hcons, fun x request hphase => ?_, fun x hphase => ?_⟩ <;> cases hphase
  · refine h.withWorker ⟨hcons, fun x request hphase => ?_, fun x hphase => ?_⟩
    · cases hphase
    · cases hphase
      exact hnone rfl
  · refine h.withWorker ⟨hcons, fun x found hphase => ?_, fun x hphase => ?_⟩
    · cases hphase
      exact hrequest request rfl
    · cases hphase
  · exact h.withWorker (follows_left _)

theorem safe_runOnce (h : s.Safe) (limit maxAttempts now : ℤ) :
    (s.runOnce w limit maxAttempts now).Safe := by
  unfold runOnce
  split
  · rename_i hidle
    split
    · exact h
    · rename_i claims queue hclaim
      obtain ⟨hclaims, hnames, hcompleted⟩ := TaskQueue.claimTasks_facts hclaim
      refine (h.of_queue (fun k e => (hnames k e).mpr) hcompleted).withWorker
        (.of_ready hidle.1 fun delivery hdelivery => ?_)
      obtain ⟨task, htask, rfl⟩ := List.mem_map.mp hdelivery
      exact (hnames _ _).mpr (hclaims task htask)
  · exact h

/-- **An answer of the handler**: the request that it accepts was returned by the owner. -/
theorem safe_handlerAnswers (h : s.Safe) (answer : Py Unit) : (s.handlerAnswers w answer).Safe := by
  unfold handlerAnswers
  split
  · rename_i delivery request hphase
    have hreturned := (h.workers w).returned delivery request hphase
    have hnamed : ∀ x ∈ delivery :: (s.workers w).pending, s.queue.Names x.task.taskId x.event := by
      have hall := (h.workers w).named
      rwa [DurableWatchWorker.deliveries, hphase] at hall
    split
    · -- accepted
      have hlogs : ({ s with accepted := s.accepted ++ [(delivery.event, request)] } :
          WatchSystem ω κ).Safe :=
        h.of_logs (fun _ h => h) (List.subset_append_left _ _)
      refine hlogs.withWorker ⟨hnamed, fun x found heq => ?_, fun x heq => ?_⟩
      · cases heq
      · cases heq
        refine ⟨some request, hreturned, fun found hfound => ?_⟩
        obtain rfl := Option.some.inj hfound
        exact List.mem_append_right _ (List.mem_singleton_self _)
    · split
      · refine h.withWorker ⟨hnamed, fun x found heq => ?_, fun x heq => ?_⟩ <;> cases heq
      · split
        · refine h.withWorker ⟨hnamed, fun x found heq => ?_, fun x heq => ?_⟩ <;> cases heq
        · exact h.withWorker (follows_left _)
  · exact h

/-- **The write of the verdict** completes only a task whose event was served. -/
theorem safe_settle (h : s.Safe) (now : ℤ) : (s.settle w now).Safe := by
  unfold settle
  split
  · rename_i delivery verdict hphase
    obtain ⟨hfirst, hrest⟩ : s.queue.Names delivery.task.taskId delivery.event
        ∧ ∀ x ∈ (s.workers w).pending, s.queue.Names x.task.taskId x.event := by
      have hall := (h.workers w).named
      rw [DurableWatchWorker.deliveries, hphase] at hall
      exact List.forall_mem_cons.mp hall
    rcases verdict
    · -- completed
      have hserved := (h.workers w).settling delivery hphase
      have hqueue : ({ s with queue := (s.queue.completeTask delivery.task.taskId
          (s.workers w).workerId delivery.task.fencingToken true).2 } : WatchSystem ω κ).Safe :=
        { workers := fun v => (h.workers v).mono
            ⟨fun _ _ => TaskQueue.names_completeTask.mpr, fun _ h => h, fun _ h => h⟩
          completed := by
            intro taskId event hdone hname
            rw [TaskQueue.names_completeTask] at hname
            rcases TaskQueue.completed_of_completeTask hdone with hbefore | ⟨rfl, -⟩
            · exact h.completed taskId event hbefore hname
            · exact hname.unique hfirst ▸ hserved }
      exact hqueue.withWorker
        (.of_ready rfl fun x hx => TaskQueue.names_completeTask.mpr (hrest x hx))
    · -- retried
      dsimp only
      split
      · exact h.withWorker (follows_left _)
      · rename_i changed queue hretry
        obtain ⟨hnames, hcompleted⟩ := TaskQueue.retryTask_facts hretry
        exact (h.of_queue (fun k e => (hnames k e).mpr) hcompleted).withWorker
          (.of_ready rfl fun x hx => (hnames _ _).mpr (hrest x hx))
    · -- failed
      refine (h.of_queue (fun k e => TaskQueue.names_completeTask.mpr) fun k hdone => ?_).withWorker
        (.of_ready rfl fun x hx => TaskQueue.names_completeTask.mpr (hrest x hx))
      rcases TaskQueue.completed_of_completeTask hdone with hbefore | ⟨-, hfalse⟩
      · exact hbefore
      · cases hfalse
  · exact h

variable [DecidableEq κ]

/-- **A delivery** that is heard leads to `None` only for an event that was served. -/
theorem safe_deliver (h : s.Safe) (hheard : s.Heard (.deliver w)) : (s.deliver w).Safe := by
  unfold deliver
  split
  · rename_i delivery rest hphase hpending
    have hnamed : ∀ x ∈ delivery :: rest, s.queue.Names x.task.taskId x.event := by
      intro x hx
      exact (h.workers w).named x (pending_subset _ (hpending ▸ hx))
    obtain ⟨hfirst, hrest⟩ := List.forall_mem_cons.mp hnamed
    have hserved := hheard delivery (by rw [hpending]; rfl) hphase
    refine ((h.withCoordinatorOf _).withWorker
      (.of_ready (d := { s.workers w with pending := rest })
      hphase hrest)).proceed hfirst (fun request hrequest => ?_) (fun hnone => ?_)
    · exact absurd hrequest ((s.coordinatorOf w).processWithRetry_ne_request _ _ request)
    · rcases hserved with hserved | ⟨hpos, hadmits⟩
      · exact hserved
      · exact absurd hnone (WatchCoordinator.processWithRetry_of_admits hadmits hpos)
  · exact h

theorem safe_ownerAnswers (h : s.Safe) {answer : OwnerAnswer}
    (hheard : s.Heard (.ownerAnswers w answer)) : (s.ownerAnswers w answer).Safe := by
  unfold ownerAnswers
  split
  · rename_i delivery attempts hphase
    have hnamed : s.queue.Names delivery.task.taskId delivery.event := by
      apply (h.workers w).named
      rw [DurableWatchWorker.deliveries, hphase]
      exact List.mem_cons_self
    have hlogs : ({ s with returned := s.returned ++ answered delivery.event answer } :
        WatchSystem ω κ).Safe :=
      h.of_logs (List.subset_append_left _ _) (fun _ h => h)
    refine (hlogs.withCoordinatorOf _).proceed hnamed (fun request hrequest => ?_) (fun hnone => ?_)
    · rcases answer_served hheard hphase hrequest with hmem | ⟨hnone, -⟩
      · exact List.mem_append_right _ hmem
      · cases hnone
    · rcases answer_served hheard hphase hnone with hmem | ⟨-, hserved⟩
      · exact ⟨none, List.mem_append_right _ hmem, fun request heq => by cases heq⟩
      · exact hserved.mono (List.subset_append_left _ _) (fun _ h => h)
  · exact h

omit [DecidableEq ω] in
theorem safe_restart (h : s.Safe) (k : κ) (maxInflight cooldownSeconds : ℤ)
    (triggers : List WatchTrigger) : (s.restart k maxInflight cooldownSeconds triggers).Safe := by
  unfold restart
  split
  · exact h
  · rename_i c hstarted
    refine ⟨fun v => ?_, h.completed⟩
    have hsame : ({ s with coordinators := Function.update s.coordinators k c } :
        WatchSystem ω κ).Follows (s.workers v) :=
      (h.workers v).mono ⟨fun _ _ h => h, fun _ h => h, fun _ h => h⟩
    show WatchSystem.Follows _
      (if (s.workers v).coordinator = k then (s.workers v).left else s.workers v)
    split
    · exact follows_left _
    · exact (h.workers v).mono ⟨fun _ _ h => h, fun _ h => h, fun _ h => h⟩

/-- **Every step that is heard** keeps the invariant. -/
theorem safe_step (h : s.Safe) {action : WatchAction ω κ} (hheard : s.Heard action) :
    (s.step action).Safe := by
  cases action with
  | enqueue event => exact safe_enqueue h event
  | runOnce w limit maxAttempts now => exact safe_runOnce h limit maxAttempts now
  | deliver w => exact safe_deliver h hheard
  | ownerAnswers w answer => exact safe_ownerAnswers h hheard
  | handlerAnswers w answer => exact safe_handlerAnswers h answer
  | settle w now => exact safe_settle h now
  | recover now =>
    obtain ⟨hnames, hcompleted⟩ := s.queue.recoverExpired_facts now
    exact h.of_queue (fun k e => (hnames k e).mpr) hcompleted
  | lose w => exact h.withWorker (follows_left _)
  | restart k maxInflight cooldownSeconds triggers =>
    exact safe_restart h k maxInflight cooldownSeconds triggers

end

/-- **No lost protection.** From an empty queue and workers before their first `run_once`, in every
run whose steps are all heard, a task is completed only when its event was served. -/
theorem served_of_completed [DecidableEq ω] [DecidableEq κ] (coordinators : κ → WatchCoordinator)
    (workers : ω → DurableWatchWorker κ) (actions : List (WatchAction ω κ))
    (hheard : machine.Meets Heard (new coordinators workers) actions) :
    ∀ taskId event, (machine.exec (new coordinators workers) actions).queue.Completed taskId →
      (machine.exec (new coordinators workers) actions).queue.Names taskId event →
      (machine.exec (new coordinators workers) actions).Served event := by
  have hnew : (new coordinators workers).Safe :=
    ⟨fun w => follows_left (workers w), fun taskId event hdone _ => by
      obtain ⟨task, hget, -⟩ := hdone
      cases hget⟩
  exact (machine.exec_invariant_of_meets (fun _ _ hheard h => safe_step h hheard) hheard
    hnew).completed

/-! ### An owner and a handler that fail once -/

/-- A coordinator with a watch for positions. -/
def positionCoordinator : WatchCoordinator :=
  { watches := Dict.empty.set .POSITION { maxInflight := 1, cooldownSeconds := 0 } }

/-- One worker with it. -/
def oneWorker : WatchSystem Unit Unit :=
  new (fun _ => positionCoordinator) (fun _ => { workerId := "watch-worker", coordinator := () })

/-- An event on a position. -/
def positionEvent : WatchEvent := ⟨⟨"position-1", .POSITION, 0, "position:1"⟩, by decide⟩

/-- The reduction that the owner asks for. -/
def reduction : RiskReductionRequest :=
  ⟨{ requestId := .epoch "reduction_request" 0 0 (Eq.refl true)
     positionId := .epoch "position_lot" 0 0 (Eq.refl true)
     expectedPositionVersion := 1
     targetQuantity := Decimal.ofNat 0
     targetStopPrice := none
     trigger := .KILL_SWITCH
     idempotencyKey := "position-1"
     requestedAt := ⟨.of 2026 9 9 (Eq.refl true), 8, 0, 0, 0⟩ },
       by decide +kernel⟩

/-- A transient failure. -/
def offline : PyException := ⟨.connectionError, "offline"⟩

/-- The owner fails once, and the handler accepts. -/
def ownerRecovers : List (WatchAction Unit Unit) :=
  [.enqueue positionEvent, .runOnce () 10 2 0, .deliver (), .ownerAnswers () (.error offline),
    .ownerAnswers () (.ok (some reduction)), .handlerAnswers () (.ok ()), .settle () 0]

theorem admits_positionEvent {c : WatchCoordinator} {watch : DeterministicWatch}
    (hwatch : c.watches.get? .POSITION = some watch)
    (hfresh : watch = { maxInflight := 1, cooldownSeconds := 0 }) : c.Admits positionEvent := by
  subst hfresh
  refine ⟨_, hwatch, List.not_mem_nil, List.not_mem_nil, by decide, ?_⟩
  rintro ⟨prior, hprior, -⟩
  cases hprior

/-- After a failure of the owner the task is completed when the handler has accepted. -/
theorem served_of_completed_retried :
    (machine.exec oneWorker ownerRecovers).queue.Completed "position-1"
      ∧ (machine.exec oneWorker ownerRecovers).Served positionEvent := by
  have hdone : (machine.exec oneWorker ownerRecovers).queue.Completed "position-1" := ⟨_, rfl, rfl⟩
  have hname : (machine.exec oneWorker ownerRecovers).queue.Names "position-1" positionEvent :=
    ⟨_, rfl, rfl⟩
  refine ⟨hdone, served_of_completed _ _ ownerRecovers ?_ "position-1" positionEvent hdone hname⟩
  refine ⟨trivial, trivial, fun delivery hdelivery _ => ?_,
    fun delivery attempts hphase => ?_, trivial,
    trivial, trivial, trivial⟩
  · obtain rfl := Option.some.inj hdelivery
    exact Or.inr ⟨by decide, admits_positionEvent rfl rfl⟩
  · obtain ⟨rfl, rfl⟩ := WorkerPhase.calling.inj hphase
    exact Or.inr ⟨by decide, fun _ => ⟨le_refl 1, admits_positionEvent rfl rfl⟩⟩

/-- The handler fails once, and the event is delivered again. -/
def handlerFails : List (WatchAction Unit Unit) :=
  [.enqueue positionEvent, .runOnce () 10 2 0, .deliver (), .ownerAnswers () (.ok (some reduction)),
    .handlerAnswers () (.error offline), .settle () 0, .runOnce () 10 2 2000000, .deliver (),
    .settle () 2000000]

/-- **A lost reduction.** The handler fails, the task is retried, and the second delivery completes
it, though no request was ever accepted. -/
theorem completed_unserved :
    ¬ ∀ (actions : List (WatchAction Unit Unit)) (taskId : Text) (event : WatchEvent),
      (machine.exec oneWorker actions).queue.Completed taskId →
      (machine.exec oneWorker actions).queue.Names taskId event →
      (machine.exec oneWorker actions).Served event := by
  intro h
  have hdone : (machine.exec oneWorker handlerFails).queue.Completed "position-1" :=
    ⟨_, rfl, rfl⟩
  have hname : (machine.exec oneWorker handlerFails).queue.Names "position-1" positionEvent :=
    ⟨_, rfl, rfl⟩
  obtain ⟨result, hresult, hrequest⟩ := h handlerFails "position-1" positionEvent hdone hname
  have hreturned : (machine.exec oneWorker handlerFails).returned
    = [(positionEvent, some reduction)] :=
    rfl
  rw [hreturned, List.mem_singleton] at hresult
  have haccepted := hrequest reduction (congrArg Prod.snd hresult)
  cases haccepted

end WatchSystem

end FuturesAgentOs
