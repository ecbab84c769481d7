import FuturesAgentOs.AgentOrchestration.CollaborationPlan

namespace FuturesAgentOs

open PyModel

/-!
# The structured parallel orchestrator

`agent_orchestration/v3_parallel.py`: the outputs of specialists, the meters of their budgets,
and the loop that runs a plan in rounds.  What a worker does when it is called, and how long it
takes, is a value (`WorkerRun`): a worker is called once at most in a run.
-/

inductive ParallelTaskStatus where
  | completed
  | partialResult
  | deferred
  | failed
  | timedOut
  | budgetExhausted
  | cancelled
  | skipped
  deriving DecidableEq

inductive ConflictRule where
  | ownerRecheck
  | criticBlocksOrDefer
  | portfolioMayOnlyReduce
  | riskEngineWins
  | pmSynthesisOrDefer
  deriving DecidableEq

structure StructuredClaimFields where
  subject : Text
  value : Text
  scope : Text
  evidenceRefs : List ArtifactRef
  deriving DecidableEq

namespace StructuredClaimFields

def postInit (f : StructuredClaimFields) : Py Unit := do
  require (∀ value ∈ [f.subject, f.value, f.scope], value.strip ≠ [])
    (valueError "structured claim requires subject, value and scope")
  require (f.evidenceRefs ≠ [])
    (valueError "structured claim requires immutable evidence references")

instance : Dataclass StructuredClaimFields := ⟨postInit⟩

end StructuredClaimFields

/-- A claim of a specialist. -/
abbrev StructuredClaim := Frozen StructuredClaimFields

structure SpecialistOutputFields where
  taskKey : Text
  role : AgentRoleId
  status : ParallelTaskStatus
  artifact : Option ArtifactRef
  conclusion : Text
  claims : List StructuredClaim
  evidenceRefs : List ArtifactRef
  counterEvidenceRefs : List ArtifactRef
  unknowns : List Text
  warnings : List Text
  confidence : Decimal
  expiresAt : RecordedAt
  deriving DecidableEq

namespace SpecialistOutputFields

def postInit (f : SpecialistOutputFields) : Py Unit := do
  require (f.taskKey ≠ []) (valueError "specialist output requires task and role identity")
  require (f.status ∈ [ParallelTaskStatus.completed, .partialResult, .deferred, .failed])
    (valueError "worker output may only report a normal terminal status")
  require (f.conclusion.strip ≠ []) (valueError "specialist output requires a conclusion")
  require (f.status ∈ [ParallelTaskStatus.completed, .partialResult] → f.artifact ≠ none)
    (valueError "completed or partial specialist output requires an artifact")
  require (f.status ∈ [ParallelTaskStatus.deferred, .failed] → f.artifact = none)
    (valueError "deferred or failed specialist output cannot publish an artifact")
  require (∀ text ∈ f.unknowns ++ f.warnings, text.strip ≠ [])
    (valueError "specialist uncertainty must use immutable canonical text")
  require (f.status ∈ [ParallelTaskStatus.deferred, .failed] → f.unknowns ≠ [] ∨ f.warnings ≠ [])
    (valueError "deferred or failed output requires an unknown or warning")
  require (Decimal.ofNat 0 ≤ f.confidence ∧ f.confidence ≤ Decimal.ofNat 1)
    (valueError "specialist confidence must be a finite Decimal in [0, 1]")

instance : Dataclass SpecialistOutputFields := ⟨postInit⟩

end SpecialistOutputFields

/-- What a specialist returns. -/
abbrev SpecialistOutput := Frozen SpecialistOutputFields

/-! ### Meters -/

structure TaskUsage where
  tokens : ℤ
  toolCalls : ℤ
  computeUnits : ℤ
  wallMillis : ℤ
  deriving DecidableEq

/-- One call `meter.consume(tokens=…, tool_calls=…, compute_units=…)`. -/
structure TaskConsumption where
  tokens : ℤ
  toolCalls : ℤ
  computeUnits : ℤ
  deriving DecidableEq

/-- A `TaskBudgetMeter`: the limits, and what was consumed so far. -/
structure TaskBudgetMeter where
  limits : SpecialistTaskLimit
  tokens : ℤ
  tools : ℤ
  compute : ℤ

namespace TaskBudgetMeter

/-- `TaskBudgetMeter(limits)` -/
def new (limits : SpecialistTaskLimit) : TaskBudgetMeter := ⟨limits, 0, 0, 0⟩

def consume (meter : TaskBudgetMeter) (c : TaskConsumption) : Py TaskBudgetMeter := do
  require (∀ value ∈ [c.tokens, c.toolCalls, c.computeUnits], 0 ≤ value)
    (valueError "budget consumption must be non-negative integers")
  require (meter.tokens + c.tokens ≤ meter.limits.fields.maxTokens
      ∧ meter.tools + c.toolCalls ≤ meter.limits.fields.maxToolCalls
      ∧ meter.compute + c.computeUnits ≤ meter.limits.fields.maxComputeUnits)
    ⟨.budgetExceeded, "specialist token, tool, or compute hard limit exceeded"⟩
  .ok { meter with
    tokens := meter.tokens + c.tokens
    tools := meter.tools + c.toolCalls
    compute := meter.compute + c.computeUnits }

/-- The meter after a list of calls, those that raise leaving it as it is. -/
def consumeAll (meter : TaskBudgetMeter) (calls : List TaskConsumption) : TaskBudgetMeter :=
  calls.foldl (fun meter c => match meter.consume c with
    | .ok after => after
    | .error _ => meter) meter

def usage (meter : TaskBudgetMeter) (wallMillis : ℤ) : TaskUsage :=
  ⟨meter.tokens, meter.tools, meter.compute, wallMillis⟩

/-- A meter never passes its limits. -/
def WithinLimits (meter : TaskBudgetMeter) : Prop :=
  meter.tokens ≤ meter.limits.fields.maxTokens ∧ meter.tools ≤ meter.limits.fields.maxToolCalls
    ∧ meter.compute ≤ meter.limits.fields.maxComputeUnits

theorem withinLimits_new (limits : SpecialistTaskLimit) : (new limits).WithinLimits := by
  have hlimits := require_eq_ok.mp limits.valid
  have htokens := hlimits.1 limits.fields.maxTokens (by simp)
  have hcompute := hlimits.1 limits.fields.maxComputeUnits (by simp)
  exact ⟨by exact le_of_lt htokens, hlimits.2, by exact le_of_lt hcompute⟩

theorem withinLimits_consumeAll {meter : TaskBudgetMeter} (calls : List TaskConsumption)
    (h : meter.WithinLimits) :
    (meter.consumeAll calls).WithinLimits ∧ (meter.consumeAll calls).limits = meter.limits := by
  induction calls generalizing meter with
  | nil => exact ⟨h, rfl⟩
  | cons c calls ih =>
    rw [consumeAll, List.foldl_cons]
    rcases hconsume : meter.consume c with e | after
    · exact ih h
    · obtain ⟨-, hrest⟩ := of_require hconsume
      obtain ⟨hlimits, hafter⟩ := of_require hrest
      injection hafter with hafter
      subst hafter
      have hafter : WithinLimits { meter with
          tokens := meter.tokens + c.tokens
          tools := meter.tools + c.toolCalls
          compute := meter.compute + c.computeUnits } := hlimits
      exact ih hafter

end TaskBudgetMeter

/-! ### A worker and its execution -/

/-- An exception of a worker. -/
inductive WorkerError where
  | budgetExceeded (message : Text)
  | timeout (message : Text)
  | other (typeName message : Text)
  deriving DecidableEq

/-- What the call of a worker does: it ends within the time of the collaboration, with the
cancellation token and the clock read afterwards, or it does not, possibly because the executor
never came to call it. -/
inductive WorkerRun where
  | done (calls : List TaskConsumption) (outcome : Except WorkerError SpecialistOutput)
      (cancelled : Bool) (elapsed : ℕ)
  | notDone (started : Bool) (calls : List TaskConsumption) (elapsed : ℕ)

structure TaskExecution where
  task : CollaborationTask
  status : ParallelTaskStatus
  output : Option SpecialistOutput
  usage : TaskUsage
  reason : Option Text
  deriving DecidableEq

/-- The statuses that dependants may build on. -/
def ParallelTaskStatus.IsUsable (status : ParallelTaskStatus) : Prop :=
  status ∈ [ParallelTaskStatus.completed, .partialResult]

instance (status : ParallelTaskStatus) : Decidable status.IsUsable :=
  inferInstanceAs (Decidable (_ ∈ _))

namespace WorkerRun

/-- The worker was called. -/
def isStarted : WorkerRun → Bool
  | done _ _ _ _ => true
  | notDone started _ _ => started

def validateOutput (plan : CollaborationPlan) (task : CollaborationTask)
    (output : SpecialistOutput) : Py Unit := do
  require (output.fields.taskKey = task.taskKey ∧ output.fields.role = task.fields.role)
    (valueError "specialist output identity does not match its deterministic task")
  require (plan.fields.asOf < output.fields.expiresAt
      ∧ output.fields.expiresAt ≤ plan.fields.expiresAt)
    (valueError "specialist output expiry is outside the collaboration window")
  whenSome output.fields.artifact fun artifact =>
    require (artifact.fields.artifactKind = task.fields.outputKind
        ∧ artifact.fields.asOf = plan.fields.asOf
        ∧ artifact.fields.createdAt ≤ plan.fields.asOf)
      (valueError "specialist output artifact kind or PIT lineage is invalid")
  require (∀ ref ∈ output.fields.evidenceRefs ++ output.fields.counterEvidenceRefs
        ++ output.fields.claims.flatMap (fun claim => claim.fields.evidenceRefs),
      ref.fields.asOf = plan.fields.asOf ∧ ref.fields.createdAt ≤ plan.fields.asOf)
    (valueError "specialist evidence is outside the collaboration PIT cutoff")

/-- The handlers of `_run_batch` for an exception. -/
def failure (task : CollaborationTask) (usage : TaskUsage) : WorkerError → TaskExecution
  | .budgetExceeded message => ⟨task, .budgetExhausted, none, usage, some message⟩
  | .timeout message => ⟨task, .timedOut, none, usage, some message⟩
  | .other typeName message =>
    ⟨task, .failed, none, usage, some (typeName ++ Text.ofChar ':' :: message)⟩

/-- The execution that `_run_batch` records for a task. -/
def execution (plan : CollaborationPlan) (task : CollaborationTask) : WorkerRun → TaskExecution
  | done calls outcome cancelled elapsed =>
    let usage := ((TaskBudgetMeter.new task.fields.limits).consumeAll calls).usage elapsed
    match outcome with
    | .error e => failure task usage e
    | .ok output =>
      match validateOutput plan task output with
      | .error e => failure task usage (.other "ValueError" e.message)
      | .ok () =>
        if cancelled = true ∨ task.fields.limits.fields.maxWallMillis < elapsed then
          ⟨task, .timedOut, none, usage, some "specialist wall-time limit exceeded"⟩
        else ⟨task, output.fields.status, some output, usage, none⟩
  | notDone _ calls elapsed =>
    ⟨task, .timedOut, none,
      ((TaskBudgetMeter.new task.fields.limits).consumeAll calls).usage elapsed,
      some "collaboration wall-time limit exceeded"⟩

end WorkerRun

/-! ### The orchestrator -/

/-- `workers`: a mapping, by its keys and by what the worker of a key does. -/
structure Workers where
  keys : List Text
  run : Text → WorkerRun

/-- The locals of `run`, with the keys of the tasks whose worker was called. -/
structure Collaboration where
  executions : Dict Text TaskExecution
  pending : List CollaborationTask
  rounds : ℕ
  /-- The calls of workers, in order. -/
  called : List Text

namespace Collaboration

/-- The locals before the first round. -/
def start (plan : CollaborationPlan) : Collaboration := ⟨Dict.empty, plan.tasks, 0, []⟩

/-- `dependency in executions` -/
def HasExecution (c : Collaboration) (key : Text) : Prop := (c.executions.get? key).isSome = true

instance (c : Collaboration) (key : Text) : Decidable (c.HasExecution key) :=
  inferInstanceAs (Decidable (_ = _))

/-- The dependency finished with something to build on. -/
def IsUsable (c : Collaboration) (key : Text) : Prop :=
  ∃ e ∈ c.executions.get? key, e.status.IsUsable

instance (c : Collaboration) (key : Text) : Decidable (c.IsUsable key) :=
  match h : c.executions.get? key with
  | none => isFalse (by simp [IsUsable, h])
  | some e => decidable_of_iff e.status.IsUsable (by simp [IsUsable, h])

/-- The condition of the list `blocked`. -/
def IsBlocked (c : Collaboration) (task : CollaborationTask) : Prop :=
  task.dependencies ≠ [] ∧ (∀ dependency ∈ task.dependencies, c.HasExecution dependency)
    ∧ ∃ dependency ∈ task.dependencies, ¬ c.IsUsable dependency

instance (c : Collaboration) (task : CollaborationTask) : Decidable (c.IsBlocked task) :=
  inferInstanceAs (Decidable (_ ∧ _))

/-- The condition of the list `ready`. -/
def IsReady (c : Collaboration) (task : CollaborationTask) : Prop :=
  ∀ dependency ∈ task.dependencies, c.HasExecution dependency

instance (c : Collaboration) (task : CollaborationTask) : Decidable (c.IsReady task) :=
  inferInstanceAs (Decidable (∀ _ ∈ _, _))

/-- The execution of a blocked task. -/
def skippedExecution (task : CollaborationTask) : TaskExecution :=
  ⟨task, .skipped, none, ⟨0, 0, 0, 0⟩, some "dependency did not produce a usable artifact"⟩

/-- The first half of a round: it is counted, and the blocked tasks are skipped. -/
def skipBlocked (c : Collaboration) : Collaboration :=
  let blocked := c.pending.filter (fun task => c.IsBlocked task)
  { c with
    executions := c.executions.update
      (blocked.map (fun task => (task.taskKey, skippedExecution task)))
    pending := c.pending.filter (fun task => ¬ c.IsBlocked task)
    rounds := c.rounds + 1 }

def ready (c : Collaboration) : List CollaborationTask :=
  c.pending.filter (fun task => c.IsReady task)

/-- The second half of a round: the ready tasks are run as a batch. -/
def runReady (plan : CollaborationPlan) (workers : Workers) (c : Collaboration) :
    Collaboration :=
  { c with
    executions := c.executions.update
      (c.ready.map (fun task =>
        (task.taskKey, (workers.run task.taskKey).execution plan task)))
    pending := c.pending.filter (fun task => ¬ c.IsReady task)
    called := c.called ++ (c.ready.map CollaborationTask.taskKey).filter
      (fun key => (workers.run key).isStarted) }

/-- The loop of `run`, with the number of rounds that are left. -/
def loop (plan : CollaborationPlan) (workers : Workers) :
    ℕ → Collaboration → Py Unit × Collaboration
  | 0, c =>
    if c.pending = [] then (.ok (), c)
    else (.error ⟨.budgetExceeded, "collaboration loop hard limit exceeded"⟩, c)
  | left + 1, c =>
    if c.pending = [] then (.ok (), c)
    else
      let skipped := c.skipBlocked
      if skipped.ready = [] then
        if skipped.pending = [] then (.ok (), skipped)
        else (.error ⟨.runtimeError, "collaboration graph made no progress"⟩, skipped)
      else loop plan workers left (skipped.runReady plan workers)

end Collaboration

/-! ### Fan-in -/

structure ConflictPosition where
  role : AgentRoleId
  value : Text
  scope : Text
  evidenceRefs : List ArtifactRef
  asOf : RecordedAt
  confidence : Decimal
  unknowns : List Text
  deriving DecidableEq

structure ConflictRecord where
  subject : Text
  positions : List ConflictPosition
  rule : ConflictRule
  deriving DecidableEq

structure FanInResult where
  executions : List TaskExecution
  conflicts : List ConflictRecord
  rounds : ℕ
  totalUsage : TaskUsage
  deriving DecidableEq

namespace StructuredParallelOrchestrator

/-- The claims of the executions, each with the output that makes it. -/
def claimsOf (executions : List TaskExecution) : List (SpecialistOutput × StructuredClaim) :=
  executions.flatMap fun execution =>
    match execution.output with
    | some output => output.fields.claims.map (fun claim => (output, claim))
    | none => []

/-- The rule of a conflict on a subject between some roles. -/
def conflictRule (subject : Text) (roles : List AgentRoleId) : ConflictRule :=
  if AgentRoleId.preTradeCritic ∈ roles then .criticBlocksOrDefer
  else if AgentRoleId.portfolio ∈ roles ∧ AgentRoleId.strategy ∈ roles then
    .portfolioMayOnlyReduce
  else if AgentRoleId.riskAnalyst ∈ roles ∧ subject.take 12 = ("risk_engine:" : Text) then
    .riskEngineWins
  else if subject.take 5 = ("fact:" : Text) then .ownerRecheck
  else .pmSynthesisOrDefer

def conflicts (plan : CollaborationPlan) (executions : List TaskExecution) :
    List ConflictRecord :=
  let claims := claimsOf executions
  let subjects := (claims.map (fun pair => pair.2.fields.subject)).dedup.mergeSort Text.le
  subjects.filterMap fun subject =>
    let grouped := claims.filter (fun pair => pair.2.fields.subject = subject)
    if (grouped.map (fun pair => pair.2.fields.value)).dedup.length < 2 then none
    else
      let order (pair : SpecialistOutput × StructuredClaim) : ℕ :=
        plan.fields.keys.idxOf pair.1.fields.taskKey
      let sorted := grouped.mergeSort (fun p q => order p ≤ order q)
      some ⟨subject,
        sorted.map (fun pair => ⟨pair.1.fields.role, pair.2.fields.value, pair.2.fields.scope,
          pair.2.fields.evidenceRefs, plan.fields.asOf, pair.1.fields.confidence,
          pair.1.fields.unknowns⟩),
        conflictRule subject (grouped.map (fun pair => pair.1.fields.role))⟩

/-- `total` -/
def totalUsage (plan : CollaborationPlan) (ordered : List TaskExecution) (elapsed : ℕ) :
    TaskUsage where
  tokens := (ordered.map (fun item => item.usage.tokens)).sum
  toolCalls := (ordered.map (fun item => item.usage.toolCalls)).sum
  computeUnits := (ordered.map (fun item => item.usage.computeUnits)).sum
  wallMillis := min plan.fields.budget.fields.maxWallMillis elapsed

/-- `set(workers) == {task.task_key for task in plan.tasks}` -/
def MatchesTasks (plan : CollaborationPlan) (workers : Workers) : Prop :=
  (∀ key ∈ workers.keys, key ∈ plan.fields.keys) ∧ ∀ key ∈ plan.fields.keys, key ∈ workers.keys

instance (plan : CollaborationPlan) (workers : Workers) : Decidable (MatchesTasks plan workers) :=
  inferInstanceAs (Decidable (_ ∧ _))

/-- `StructuredParallelOrchestrator.run`, with the locals it ends in; `elapsed` is the time it
took in milliseconds. -/
def run (plan : CollaborationPlan) (workers : Workers)
    (elapsed : ℕ) : Py FanInResult × Collaboration :=
  if ¬ MatchesTasks plan workers then
    (.error (valueError "workers must exactly match collaboration tasks"), .start plan)
  else
    let budget := plan.fields.budget.fields
    match Collaboration.loop plan workers budget.maxRounds.toNat (.start plan) with
    | (.error e, c) => (.error e, c)
    | (.ok (), c) =>
      match plan.tasks.mapM (fun task => c.executions.get? task.taskKey) with
      | none => (.error ⟨.keyError, "task_key"⟩, c)
      | some ordered =>
        let total := totalUsage plan ordered elapsed
        if budget.maxTokens < total.tokens ∨ budget.maxToolCalls < total.toolCalls
            ∨ budget.maxComputeUnits < total.computeUnits
            ∨ budget.maxWallMillis < total.wallMillis then
          (.error ⟨.budgetExceeded, "collaboration aggregate hard limit exceeded"⟩, c)
        else
          (.ok ⟨ordered, conflicts plan ordered, c.rounds, total⟩, c)

end StructuredParallelOrchestrator

end FuturesAgentOs
