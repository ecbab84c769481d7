import FuturesAgentOs.AgentOrchestration.DelegationPlan
import FuturesAgentOs.PyModel.Calls
import FuturesAgentOs.PyModel.Machine

namespace FuturesAgentOs

open PyModel

/-!
# The workflow orchestrator

`WorkflowOrchestrator` of `agent_orchestration/workflow.py`, with all its calls.  `by_key` is read
anew where it is used: the code writes every change of a task to both.

* `WorkflowCall`, `WorkflowOrchestrator.call`, `WorkflowOrchestrator.machine` — their runs.
-/

/-- `WorkflowOrchestrator`; `κ` is the type of pairs of a critic's artifact and critique. -/
structure WorkflowOrchestrator (κ : Type) where
  cyclesByDedup : Dict Text AutonomyCycle := .empty
  cycles : Dict ℕ AutonomyCycle := .empty
  episodes : Dict ℕ DecisionEpisode := .empty
  episodesByKey : Dict (ℕ × Text) ℕ := .empty
  plans : Dict ℕ DelegationPlan := .empty
  tasks : Dict ℕ WorkflowTask := .empty
  taskResults : Dict ℕ WorkflowTaskResult := .empty
  criticCompletions : Dict ℕ κ := .empty
  /-- how many ids were drawn -/
  drawn : ℕ := 0

/-- `KeyError(key)` -/
def keyError (key : ℕ) : PyException := ⟨.keyError, Text.ofNat key⟩

/-- `datetime.max` -/
def lastInstant : ℤ := 253402300799999999

/-- The deadline of the task of a step. -/
def DelegationPlan.deadlineOf (plan : DelegationPlan) (step : DelegationStep) : Py ℤ := do
  let end_ := plan.fields.asOf + step.fields.budget.fields.timeoutSeconds * 1000000
  require (end_ ≤ lastInstant) ⟨.overflowError, "date value out of range"⟩
  .ok (min plan.fields.expiresAt end_)

/-- The tasks of some steps, with ids from one on. -/
def DelegationPlan.newTasks (plan : DelegationPlan) :
    ℕ → List DelegationStep → Py (List WorkflowTask)
  | _, [] => .ok []
  | taskId, step :: rest => do
    let deadlineAt ← plan.deadlineOf step
    let task ← Frozen.make
      { taskId
        episodeId := plan.fields.episodeId
        stepKey := step.stepKey
        roleId := step.fields.roleId
        deadlineAt
        inputArtifacts := step.fields.inputArtifacts }
    let more ← plan.newTasks (taskId + 1) rest
    .ok (task :: more)

/-- A completion by a critic: the artifact and its critique, and what the checks of these against
the sources and the revision store give for the task. -/
structure CriticCompletion (κ : Type) where
  record : κ
  artifactRef : ArtifactRef
  status : CritiqueStatus
  checks : WorkflowTask → ℤ → Py Unit

/-- The result of a critic. -/
def CriticCompletion.result {κ : Type} (completion : CriticCompletion κ) (taskId : ℕ) :
    WorkflowTaskResultFields where
  taskId
  status := criticTaskStatus completion.status
  artifacts :=
    if completion.status ∈ [CritiqueStatus.PASS, .REJECT] then [completion.artifactRef] else []
  unknowns :=
    if completion.status ∈ [CritiqueStatus.REVISE, .DEFER] then
      [Text.ofString "critique:" ++ completion.status.value]
    else []
  warnings := []
  critiqueStatus := some completion.status

namespace WorkflowOrchestrator

variable {κ : Type} (o : WorkflowOrchestrator κ)

/-- The tasks of an episode. -/
def tasksOf (episodeId : ℕ) : List WorkflowTask :=
  o.tasks.values.filter (fun task => task.episodeId = episodeId)

/-- `by_key.get(key)` -/
def byKey (episodeId : ℕ) (key : Text) : Option WorkflowTask :=
  (o.tasksOf episodeId).reverse.find? (fun task => task.stepKey = key)

/-- The task is stored. -/
def setTask (task : WorkflowTask) : WorkflowOrchestrator κ :=
  { o with tasks := o.tasks.set task.taskId task }

/-- A dependency of the step ended without being completed. -/
def IsBlocked (episodeId : ℕ) (step : DelegationStep) : Prop :=
  ∃ name ∈ step.dependsOn, ∃ task ∈ o.byKey episodeId name,
    task.status.IsTerminal ∧ task.status ≠ .COMPLETED

instance (episodeId : ℕ) (step : DelegationStep) : Decidable (o.IsBlocked episodeId step) :=
  inferInstanceAs (Decidable (∃ name ∈ step.dependsOn, ∃ task ∈ o.byKey episodeId name, _ ∧ _))

/-- All dependencies of the step are completed. -/
def DependenciesCompleted (episodeId : ℕ) (step : DelegationStep) : Prop :=
  ∀ name ∈ step.dependsOn, ∃ task ∈ o.byKey episodeId name, task.status = .COMPLETED

instance (episodeId : ℕ) (step : DelegationStep) :
    Decidable (o.DependenciesCompleted episodeId step) :=
  inferInstanceAs (Decidable (∀ name ∈ step.dependsOn, ∃ task ∈ o.byKey episodeId name, _ = _))

/-- `self._episodes[episode_id].status is EpisodeStatus.RUNNING` -/
def IsRunning (episodeId : ℕ) : Prop :=
  ∃ episode ∈ o.episodes.get? episodeId, episode.fields.status = .RUNNING

instance (episodeId : ℕ) : Decidable (o.IsRunning episodeId) :=
  inferInstanceAs (Decidable (∃ episode ∈ o.episodes.get? episodeId, _ = _))

/-! ### The shared routines -/

/-- `_close_cycle_if_done` -/
def closeCycle (cycleId : ℕ) : WorkflowOrchestrator κ :=
  match o.cycles.get? cycleId with
  | none => o
  | some cycle =>
    let episodes := o.episodes.values.filter (fun episode => episode.fields.cycleId = cycleId)
    if episodes ≠ [] ∧ cycle.fields.status = .RUNNING
        ∧ ∀ episode ∈ episodes, episode.fields.status.IsTerminal then
      let status := if ∀ episode ∈ episodes, episode.fields.status = .COMPLETED then
        CycleStatus.COMPLETED else .DEFERRED
      { o with cycles := o.cycles.set cycleId (cycle.withStatus status) }
    else o

/-- The episode is stored with a terminal status, and its cycle is closed if done. -/
def endEpisode (episode ended : DecisionEpisode) : WorkflowOrchestrator κ :=
  ({ o with episodes := o.episodes.set episode.fields.episodeId ended }
    : WorkflowOrchestrator κ).closeCycle episode.fields.cycleId

def CriticRejected (episodeId : ℕ) : Prop :=
  ∃ task ∈ o.tasksOf episodeId, task.fields.roleId = .preTradeCritic
    ∧ ∃ result ∈ o.taskResults.get? task.taskId,
      result.fields.critiqueStatus = some CritiqueStatus.REJECT

instance (episodeId : ℕ) : Decidable (o.CriticRejected episodeId) :=
  inferInstanceAs (Decidable (∃ task ∈ o.tasksOf episodeId, _ ∧ ∃ result ∈ _, _ = _))

/-- The status that an episode with terminal tasks ends in. -/
def finalStatus (episodeId : ℕ) : EpisodeStatus :=
  if ¬ o.CriticRejected episodeId ∧ ∀ task ∈ o.tasksOf episodeId, task.status = .COMPLETED then
    .COMPLETED
  else .DEFERRED

theorem isTerminal_finalStatus (episodeId : ℕ) : (o.finalStatus episodeId).IsTerminal := by
  unfold finalStatus
  split <;> decide

/-- `_close_episode_if_terminal` -/
def closeEpisode (episodeId : ℕ) : WorkflowOrchestrator κ :=
  match o.episodes.get? episodeId with
  | none => o
  | some episode =>
    if episode.fields.status = .RUNNING ∧ o.tasksOf episodeId ≠ []
        ∧ ∀ task ∈ o.tasksOf episodeId, task.status.IsTerminal then
      o.endEpisode episode (episode.ended (o.finalStatus episodeId) "all_tasks_terminal"
        (o.isTerminal_finalStatus episodeId) (by decide))
    else o

/-- One step of a pass of `_propagate_terminal_dependencies`, and whether anything was skipped. -/
def skipStep (episodeId : ℕ) (pass : WorkflowOrchestrator κ × Bool) (step : DelegationStep) :
    WorkflowOrchestrator κ × Bool :=
  match pass.1.byKey episodeId step.stepKey with
  | none => pass
  | some task =>
    if task.status = .PENDING ∧ pass.1.IsBlocked episodeId step then
      (pass.1.setTask (task.withStatus .SKIPPED), true)
    else pass

/-- The passes of `_propagate_terminal_dependencies`.  A pass that skips anything leaves fewer
pending tasks, so one more than the number of steps bounds them. -/
def propagateLoop (episodeId : ℕ) (plan : DelegationPlan) :
    ℕ → WorkflowOrchestrator κ → WorkflowOrchestrator κ
  | 0, o => o
  | passes + 1, o =>
    let pass := plan.steps.foldl (skipStep episodeId) (o, false)
    if pass.2 = true then propagateLoop episodeId plan passes pass.1 else pass.1

/-- Every step has a task, which `by_key[step.step_key]` relies on. -/
def HasTasks (episodeId : ℕ) (plan : DelegationPlan) : Prop :=
  ∀ step ∈ plan.steps, (o.byKey episodeId step.stepKey).isSome = true

instance (episodeId : ℕ) (plan : DelegationPlan) : Decidable (o.HasTasks episodeId plan) :=
  inferInstanceAs (Decidable (∀ step ∈ plan.steps, _))

/-- `_propagate_terminal_dependencies` -/
def propagate (episodeId : ℕ) (plan : DelegationPlan) :
    Outcome (WorkflowOrchestrator κ) Unit :=
  if o.HasTasks episodeId plan then
    (.ok (), propagateLoop episodeId plan (plan.steps.length + 1) o)
  else (.error ⟨.keyError, "step_key"⟩, o)

/-- The tasks of an episode that meet a condition end with a status. -/
def stopTasks (episodeId : ℕ) (P : WorkflowTask → Prop) [DecidablePred P]
    (status : WorkflowTaskStatus) : WorkflowOrchestrator κ :=
  { o with
    tasks := o.tasks.sweep fun _ task =>
      if task.episodeId = episodeId ∧ ¬ task.status.IsTerminal ∧ P task then
        some (task.withStatus status)
      else none }

/-- The end of `_timeout`: the episode itself. -/
def expireEpisode (episodeId : ℕ) (now : ℤ) : WorkflowOrchestrator κ :=
  match o.episodes.get? episodeId with
  | none => o
  | some episode =>
    if episode.fields.status = .RUNNING ∧ episode.fields.expiresAt ≤ now then
      (o.stopTasks episodeId (fun _ => True) .TIMED_OUT).endEpisode episode
        (episode.ended .TIMED_OUT "deadline_exceeded" (by decide) (by decide))
    else o

/-- The middle of `_timeout`: what the timed out tasks of a running episode lead to. -/
def settleTimeouts (episodeId : ℕ) (episode : DecisionEpisode) :
    Outcome (WorkflowOrchestrator κ) Unit :=
  match o.plans.get? episodeId with
  | none => (.ok (), o)
  | some plan =>
    if episode.fields.status = .RUNNING then
      andThen (o.propagate episodeId plan) fun _ o => (.ok (), o.closeEpisode episodeId)
    else (.ok (), o)

def timeout (episodeId : ℕ) (now : ℤ) : Outcome (WorkflowOrchestrator κ) Unit :=
  match o.episodes.get? episodeId with
  | none => (.error (keyError episodeId), o)
  | some episode =>
    let expired := o.stopTasks episodeId (fun task => task.fields.deadlineAt ≤ now) .TIMED_OUT
    andThen (expired.settleTimeouts episodeId episode) fun _ o =>
      (.ok (), o.expireEpisode episodeId now)

/-! ### Cycles, episodes and plans -/

/-- A new cycle is stored. -/
def storeCycle (dedup : Text) : Py AutonomyCycle → Outcome (WorkflowOrchestrator κ) AutonomyCycle
  | .ok cycle => (.ok cycle,
      { o with
        cyclesByDedup := o.cyclesByDedup.set dedup cycle
        cycles := o.cycles.set cycle.fields.cycleId cycle
        drawn := o.drawn + 1 })
  | .error e => (.error e, o)

def startCycle [Hashlib] (trigger : CycleTrigger) (expiresAt : ℤ) :
    Outcome (WorkflowOrchestrator κ) AutonomyCycle :=
  match trigger.deduplicationHash with
  | .error e => (.error e, o)
  | .ok dedup =>
    match o.cyclesByDedup.get? dedup with
    | some prior =>
      if prior.fields.trigger = trigger then (.ok prior, o)
      else (.error (valueError
        "cycle idempotency key conflicts with a different trigger fact"), o)
    | none => o.storeCycle dedup (Frozen.make
        { cycleId := o.drawn
          trigger
          startedAt := trigger.fields.occurredAt
          expiresAt })

/-- A new episode is stored. -/
def storeEpisode : Py DecisionEpisode → Outcome (WorkflowOrchestrator κ) DecisionEpisode
  | .ok episode => (.ok episode,
      { o with
        episodes := o.episodes.set episode.fields.episodeId episode
        episodesByKey := o.episodesByKey.set
          (episode.fields.cycleId, episode.fields.candidateKey) episode.fields.episodeId
        drawn := o.drawn + 1 })
  | .error e => (.error e, o)

/-- `self._episodes[episode_id]` -/
def episode (episodeId : ℕ) : Py DecisionEpisode :=
  match o.episodes.get? episodeId with
  | some episode => .ok episode
  | none => .error (keyError episodeId)

def startEpisode (cycleId : ℕ) (candidateKey : Text) (expiresAt : ℤ) :
    Outcome (WorkflowOrchestrator κ) DecisionEpisode :=
  match o.cycles.get? cycleId with
  | none => (.error (keyError cycleId), o)
  | some cycle =>
    if cycle.fields.status ≠ .RUNNING then
      (.error (valueError "decision episode requires a running autonomy cycle"), o)
    else if cycle.fields.expiresAt < expiresAt then
      (.error (valueError "episode cannot outlive its autonomy cycle"), o)
    else
      match o.episodesByKey.get? (cycleId, candidateKey) with
      | some existing => (o.episode existing, o)
      | none => o.storeEpisode (Frozen.make
          { episodeId := o.drawn
            cycleId
            candidateKey
            startedAt := cycle.fields.startedAt
            expiresAt })

/-- The new tasks of a plan are stored. -/
def storeTasks : Py (List WorkflowTask) → Outcome (WorkflowOrchestrator κ) (List WorkflowTask)
  | .ok tasks => (.ok tasks,
      { o with
        tasks := o.tasks.update (tasks.map (fun task => (task.taskId, task)))
        drawn := o.drawn + tasks.length })
  | .error e => (.error e, o)

/-- `accept_delegation_plan`.  The plan is stored before its tasks are built. -/
def acceptDelegationPlan (plan : DelegationPlan) :
    Outcome (WorkflowOrchestrator κ) (List WorkflowTask) :=
  match (o.episodes.get? plan.fields.episodeId).filter (fun episode =>
      episode.fields.cycleId = plan.fields.cycleId ∧ episode.fields.status = .RUNNING) with
  | none => (.error (valueError
      "delegation plan must target a running episode in its cycle"), o)
  | some episode =>
    if episode.fields.expiresAt < plan.fields.expiresAt then
      (.error (valueError "delegation plan cannot outlive its decision episode"), o)
    else
      match o.plans.get? plan.fields.episodeId with
      | some existing =>
        if existing = plan then (.ok (o.tasksOf plan.fields.episodeId), o)
        else (.error (valueError "running episode already has a different delegation plan"), o)
      | none =>
        ({ o with plans := o.plans.set plan.fields.episodeId plan }
          : WorkflowOrchestrator κ).storeTasks (plan.newTasks o.drawn plan.steps)

/-! ### Polling and claiming -/

/-- The artifacts of a dependency. -/
def dependencyArtifacts (episodeId : ℕ) (name : Text) : Py (List ArtifactRef) :=
  match o.byKey episodeId name with
  | none => .error ⟨.keyError, name⟩
  | some dependency =>
    match o.taskResults.get? dependency.taskId with
    | none => .error (valueError "fan-in dependency has no completed immutable result")
    | some result => do
      require (dependency.status = .COMPLETED)
        (valueError "fan-in dependency has no completed immutable result")
      require (result.fields.taskId = dependency.taskId ∧ result.fields.status = .COMPLETED)
        (valueError "fan-in result identity is inconsistent with its dependency task")
      .ok result.fields.artifacts

def resolvedInputArtifacts (episodeId : ℕ) (step : DelegationStep) : Py (List ArtifactRef) := do
  let artifacts ← step.dependsOn.mapM (o.dependencyArtifacts episodeId)
  let resolved := step.fields.inputArtifacts ++ artifacts.flatten
  require resolved.Nodup (valueError "fan-in input artifacts must remain unique")
  validateRoleContract step.fields.roleId resolved []
  .ok resolved

def readyTask (episodeId : ℕ) (step : DelegationStep) (task : WorkflowTask) : Py WorkflowTask := do
  let resolved ← o.resolvedInputArtifacts episodeId step
  task.replace fun f => { f with inputArtifacts := resolved }

/-- The task of a step is stored with its resolved inputs. -/
def storeReady : Py WorkflowTask → Outcome (WorkflowOrchestrator κ) WorkflowTask
  | .ok task => (.ok task, o.setTask task)
  | .error e => (.error e, o)

/-- The loop of `ready_tasks`. -/
def pollSteps (episodeId : ℕ) :
    List DelegationStep → WorkflowOrchestrator κ →
      Outcome (WorkflowOrchestrator κ) (List WorkflowTask)
  | [], o => (.ok [], o)
  | step :: rest, o =>
    match o.byKey episodeId step.stepKey with
    | none => (.error ⟨.keyError, step.stepKey⟩, o)
    | some task =>
      if task.status = .PENDING ∧ o.DependenciesCompleted episodeId step then
        andThen (o.storeReady (o.readyTask episodeId step task)) fun ready o =>
        andThen (pollSteps episodeId rest o) fun more o => (.ok (ready :: more), o)
      else pollSteps episodeId rest o

/-- How many tasks of the episode are running. -/
def running (episodeId : ℕ) : ℕ :=
  (o.tasksOf episodeId).countP (fun task => task.status = .RUNNING)

def slots (episodeId : ℕ) (plan : DelegationPlan) : ℕ :=
  (plan.fields.cycleBudget.fields.maxParallelTasks - o.running episodeId).toNat

/-- The end of `ready_tasks`, once the episode is brought up to date. -/
def pollEpisode (episodeId : ℕ) (plan : DelegationPlan) :
    Outcome (WorkflowOrchestrator κ) (List WorkflowTask) :=
  if o.IsRunning episodeId then
    andThen (pollSteps episodeId plan.steps o) fun ready after =>
      (.ok (ready.take (o.slots episodeId plan)), after)
  else (.ok [], o)

def readyTasks (episodeId : ℕ) (now : ℤ) : Outcome (WorkflowOrchestrator κ) (List WorkflowTask) :=
  andThen (o.timeout episodeId now) fun _ o =>
    if o.IsRunning episodeId then
      match o.plans.get? episodeId with
      | none => (.ok [], o)
      | some plan =>
        andThen (o.propagate episodeId plan) fun _ o =>
          (o.closeEpisode episodeId).pollEpisode episodeId plan
    else (.ok [], o)

/-- Ready tasks are stored as running. -/
def claim (tasks : List WorkflowTask) : Outcome (WorkflowOrchestrator κ) (List WorkflowTask) :=
  let result := tasks.map (fun task => task.withStatus .RUNNING)
  (.ok result, { o with tasks := o.tasks.update (result.map (fun task => (task.taskId, task))) })

def claimReadyTasks (episodeId : ℕ) (now : ℤ) (limit : Option ℤ) :
    Outcome (WorkflowOrchestrator κ) (List WorkflowTask) :=
  if ∃ n ∈ limit, n < 1 then
    (.error (valueError "claim limit must be a positive integer"), o)
  else
    andThen (o.readyTasks episodeId now) fun ready o =>
      o.claim (match limit with
        | none => ready
        | some n => ready.take n.toNat)

/-! ### Completion, cancellation and recovery -/

/-- The checks of `_complete_task` on a result. -/
def checkResult (episodeId : ℕ) (task : WorkflowTask) (result : WorkflowTaskResult) : Py Unit := do
  match (o.plans.get? episodeId).bind (fun plan =>
      plan.steps.find? (fun step => step.stepKey = task.stepKey)) with
  | none => .error ⟨.keyError, "episode_id"⟩
  | some expected => do
    require (task.fields.roleId = .preTradeCritic → result.fields.critiqueStatus ≠ none)
      (valueError "critic completion requires its canonical Critique verdict")
    require (task.fields.roleId = .preTradeCritic →
        ∀ verdict ∈ result.fields.critiqueStatus, result.fields.status = criticTaskStatus verdict)
      (valueError "caller cannot override the deterministic Critique workflow outcome")
    require (task.fields.roleId ≠ .preTradeCritic → result.fields.critiqueStatus = none)
      (valueError "only the Critic task may carry a Critique verdict")
    require (result.fields.status = .COMPLETED →
        result.fields.artifacts.map ArtifactRef.artifactKind = expected.fields.requiredOutputs)
      (valueError "task result does not match required typed outputs")

/-- `self._tasks[task_id]` -/
def task (taskId : ℕ) : Py WorkflowTask :=
  match o.tasks.get? taskId with
  | some task => .ok task
  | none => .error (keyError taskId)

/-- The result of a task is stored. -/
def withResult (task : WorkflowTask) (result : WorkflowTaskResult) : WorkflowOrchestrator κ :=
  { o.setTask (task.withStatus result.fields.status) with
    taskResults := o.taskResults.set task.taskId result }

/-- The result of a task is stored, and what follows from it. -/
def storeResult (episodeId : ℕ) (task : WorkflowTask) (result : WorkflowTaskResult) :
    Outcome (WorkflowOrchestrator κ) WorkflowTask :=
  match o.plans.get? episodeId with
  | none => (.error (keyError episodeId), o.withResult task result)
  | some plan =>
    andThen ((o.withResult task result).propagate episodeId plan) fun _ o =>
      let closed := o.closeEpisode episodeId
      (closed.task result.fields.taskId, closed)

/-- `_complete_task`, for a task that is not terminal. -/
def completeOpen (episodeId : ℕ) (task : WorkflowTask) (result : WorkflowTaskResult) :
    Outcome (WorkflowOrchestrator κ) WorkflowTask :=
  match o.checkResult episodeId task result with
  | .error e => (.error e, o)
  | .ok () => o.storeResult episodeId task result

/-- `_complete_task`, once the episode is brought up to date. -/
def completeFound (episodeId : ℕ) (task : WorkflowTask) (result : WorkflowTaskResult) (now : ℤ) :
    Outcome (WorkflowOrchestrator κ) WorkflowTask :=
  if task.episodeId ≠ episodeId ∨ ¬ o.IsRunning episodeId then
    (.error (valueError "cannot complete a task outside a running episode"), o)
  else if task.status.IsTerminal then
    if o.taskResults.get? task.taskId = some result then (.ok task, o)
    else (.error (valueError "task terminal result conflicts with immutable prior result"), o)
  else if task.status = .PENDING then
    andThen (o.readyTasks episodeId now) fun ready o =>
      if ∀ candidate ∈ ready, candidate.taskId ≠ task.taskId then
        (.error (valueError "task dependencies are not ready for deterministic fan-in"), o)
      else o.completeOpen episodeId task result
  else o.completeOpen episodeId task result

/-- `_complete_task` -/
def completeAny (episodeId : ℕ) (result : WorkflowTaskResult) (now : ℤ) :
    Outcome (WorkflowOrchestrator κ) WorkflowTask :=
  andThen (o.timeout episodeId now) fun _ o =>
    match o.tasks.get? result.fields.taskId with
    | none => (.error (keyError result.fields.taskId), o)
    | some task => o.completeFound episodeId task result now

def completeTask (episodeId : ℕ) (result : WorkflowTaskResult) (now : ℤ) :
    Outcome (WorkflowOrchestrator κ) WorkflowTask :=
  if ∃ task ∈ o.tasks.get? result.fields.taskId, task.fields.roleId = .preTradeCritic then
    (.error (valueError "generic completion cannot complete a Critic task"), o)
  else o.completeAny episodeId result now

def completeCriticTask [DecidableEq κ] (episodeId taskId : ℕ) (completion : CriticCompletion κ)
    (now : ℤ) : Outcome (WorkflowOrchestrator κ) WorkflowTask :=
  match (o.tasks.get? taskId).filter (fun task =>
      task.episodeId = episodeId ∧ task.fields.roleId = .preTradeCritic) with
  | none => (.error (valueError "critic completion requires the episode's Critic task"), o)
  | some task =>
    if task.status.IsTerminal then
      if o.criticCompletions.get? taskId = some completion.record then (.ok task, o)
      else (.error (valueError
        "critic exact retry conflicts with immutable canonical completion"), o)
    else
      match completion.checks task now, Frozen.make (completion.result taskId) with
      | .error e, _ => (.error e, o)
      | .ok (), .error e => (.error e, o)
      | .ok (), .ok result =>
        andThen (o.completeAny episodeId result now) fun completed o =>
          (.ok completed,
            { o with criticCompletions := o.criticCompletions.set taskId completion.record })

def cancelEpisode (episodeId : ℕ) (reason : Text) (now : ℤ) :
    Outcome (WorkflowOrchestrator κ) DecisionEpisode :=
  andThen (o.timeout episodeId now) fun _ o =>
    match o.episodes.get? episodeId with
    | none => (.error (keyError episodeId), o)
    | some episode =>
      if episode.fields.status.IsTerminal then (.ok episode, o)
      else if h : reason.strip = [] then (.error (valueError "cancellation needs a reason"), o)
      else
        let terminal := episode.ended .CANCELLED reason (by decide) (by rintro rfl; exact h rfl)
        (.ok terminal,
          (o.stopTasks episodeId (fun _ => True) .CANCELLED).endEpisode episode terminal)

/-- The first loop of `recover`. -/
def timeoutAll (now : ℤ) :
    List ℕ → WorkflowOrchestrator κ → Outcome (WorkflowOrchestrator κ) Unit
  | [], o => (.ok (), o)
  | episodeId :: rest, o => andThen (o.timeout episodeId now) fun _ o => timeoutAll now rest o

/-- The second loop of `recover`: cycles without episodes. -/
def expireCycles (now : ℤ) : WorkflowOrchestrator κ :=
  { o with
    cycles := o.cycles.sweep fun cycleId cycle =>
      if cycle.fields.status = .RUNNING
          ∧ (∀ episode ∈ o.episodes.values, episode.fields.cycleId ≠ cycleId)
          ∧ cycle.fields.expiresAt ≤ now then
        some (cycle.withStatus .TIMED_OUT)
      else none }

def recover (now : ℤ) : Outcome (WorkflowOrchestrator κ) (List AutonomyCycle) :=
  andThen (timeoutAll now o.episodes.keys o) fun _ o =>
    let expired := o.expireCycles now
    (.ok (expired.cycles.values.filter (fun cycle => cycle.fields.status = .RUNNING)), expired)

end WorkflowOrchestrator

/-! ### Runs -/

/-- A call of the orchestrator. -/
inductive WorkflowCall (κ : Type) where
  | startCycle (trigger : CycleTrigger) (expiresAt : ℤ)
  | startEpisode (cycleId : ℕ) (candidateKey : Text) (expiresAt : ℤ)
  | acceptDelegationPlan (plan : DelegationPlan)
  | readyTasks (episodeId : ℕ) (now : ℤ)
  | claimReadyTasks (episodeId : ℕ) (now : ℤ) (limit : Option ℤ)
  | completeTask (episodeId : ℕ) (result : WorkflowTaskResult) (now : ℤ)
  | completeCriticTask (episodeId taskId : ℕ) (completion : CriticCompletion κ) (now : ℤ)
  | cancelEpisode (episodeId : ℕ) (reason : Text) (now : ℤ)
  | recover (now : ℤ)

/-- What a call returns. -/
inductive WorkflowAnswer where
  | cycle (cycle : AutonomyCycle)
  | episode (episode : DecisionEpisode)
  | task (task : WorkflowTask)
  | tasks (tasks : List WorkflowTask)
  | cycles (cycles : List AutonomyCycle)
  deriving DecidableEq

namespace WorkflowOrchestrator

variable {κ : Type} [DecidableEq κ]

/-- What the call answers, and what it leaves. -/
def call [Hashlib] (o : WorkflowOrchestrator κ) :
    WorkflowCall κ → Outcome (WorkflowOrchestrator κ) WorkflowAnswer
  | .startCycle trigger expiresAt =>
    Prod.map (Except.map .cycle) id (o.startCycle trigger expiresAt)
  | .startEpisode cycleId candidateKey expiresAt =>
    Prod.map (Except.map .episode) id (o.startEpisode cycleId candidateKey expiresAt)
  | .acceptDelegationPlan plan => Prod.map (Except.map .tasks) id (o.acceptDelegationPlan plan)
  | .readyTasks episodeId now => Prod.map (Except.map .tasks) id (o.readyTasks episodeId now)
  | .claimReadyTasks episodeId now limit =>
    Prod.map (Except.map .tasks) id (o.claimReadyTasks episodeId now limit)
  | .completeTask episodeId result now =>
    Prod.map (Except.map .task) id (o.completeTask episodeId result now)
  | .completeCriticTask episodeId taskId completion now =>
    Prod.map (Except.map .task) id (o.completeCriticTask episodeId taskId completion now)
  | .cancelEpisode episodeId reason now =>
    Prod.map (Except.map .episode) id (o.cancelEpisode episodeId reason now)
  | .recover now => Prod.map (Except.map .cycles) id (o.recover now)

/-- The orchestrator as a machine. -/
def machine (κ : Type) [DecidableEq κ] [Hashlib] :
    Machine (WorkflowOrchestrator κ) (WorkflowCall κ) (Py WorkflowAnswer) := ⟨call⟩

end WorkflowOrchestrator

end FuturesAgentOs
