import FuturesAgentOs.AgentOrchestration.Artifacts
import FuturesAgentOs.SharedKernel.Observability

namespace FuturesAgentOs

open PyModel

/-!
# Delegation plans and workflow tasks

The dataclasses of `agent_orchestration/workflow.py`, with their checks.  Times are microseconds
since the epoch.  An id is the number of its `EntityId.new`, which draws no id twice.

* `CycleTrigger`, `AutonomyCycle`, `DecisionEpisode` — what episodes with a plan belong to.
-/

inductive TriggerSource where
  | USER
  | SCHEDULE
  | MARKET
  | DATA
  | ACCOUNT
  | SYSTEM
  deriving DecidableEq

def TriggerSource.value : TriggerSource → Text
  | USER => "USER"
  | SCHEDULE => "SCHEDULE"
  | MARKET => "MARKET"
  | DATA => "DATA"
  | ACCOUNT => "ACCOUNT"
  | SYSTEM => "SYSTEM"

inductive CycleStatus where
  | RUNNING
  | COMPLETED
  | DEFERRED
  | CANCELLED
  | TIMED_OUT
  deriving DecidableEq

inductive EpisodeStatus where
  | RUNNING
  | COMPLETED
  | DEFERRED
  | CANCELLED
  | TIMED_OUT
  deriving DecidableEq

/-- `_TERMINAL_EPISODES` -/
def EpisodeStatus.IsTerminal (s : EpisodeStatus) : Prop :=
  s ∈ [COMPLETED, DEFERRED, CANCELLED, TIMED_OUT]

instance EpisodeStatus.decidableIsTerminal (s : EpisodeStatus) : Decidable s.IsTerminal :=
  inferInstanceAs (Decidable (_ ∈ _))

theorem EpisodeStatus.isTerminal_iff {s : EpisodeStatus} : s.IsTerminal ↔ s ≠ .RUNNING := by
  cases s <;> decide

inductive WorkflowTaskStatus where
  | PENDING
  | RUNNING
  | COMPLETED
  | DEFERRED
  | FAILED
  | CANCELLED
  | TIMED_OUT
  | SKIPPED
  deriving DecidableEq

/-- `_TERMINAL_TASKS` -/
def WorkflowTaskStatus.IsTerminal (s : WorkflowTaskStatus) : Prop :=
  s ∈ [COMPLETED, DEFERRED, FAILED, CANCELLED, TIMED_OUT, SKIPPED]

instance WorkflowTaskStatus.decidableIsTerminal (s : WorkflowTaskStatus) :
    Decidable s.IsTerminal :=
  inferInstanceAs (Decidable (_ ∈ _))

inductive CritiqueStatus where
  | PASS
  | REVISE
  | REJECT
  | DEFER
  deriving DecidableEq

def CritiqueStatus.value : CritiqueStatus → Text
  | PASS => "PASS"
  | REVISE => "REVISE"
  | REJECT => "REJECT"
  | DEFER => "DEFER"

structure AgentBudgetFields where
  maxTurns : ℤ
  maxToolCalls : ℤ
  maxTokens : ℤ
  timeoutSeconds : ℤ
  maxParallelTasks : ℤ := 1
  deriving DecidableEq

instance : Dataclass AgentBudgetFields where
  postInit f := require
    (∀ value ∈ [f.maxTurns, f.maxToolCalls, f.maxTokens, f.timeoutSeconds, f.maxParallelTasks],
      0 < value)
    (valueError "agent budget limits must be positive integers")

abbrev AgentBudget := Frozen AgentBudgetFields

/-! ### Role contracts -/

namespace AgentRoleId

/-- `_READ_ONLY_ROLES` -/
def IsReadOnly (role : AgentRoleId) : Prop := role ∈ [marketRegime, research, preTradeCritic]

instance (role : AgentRoleId) : Decidable role.IsReadOnly := inferInstanceAs (Decidable (_ ∈ _))

/-- `definition_for(role_id, CATALOG_VERSION).input_kinds`, for the roles that are enabled. -/
def inputKinds : AgentRoleId → List ArtifactKind
  | marketRegime => [.researchBrief, .marketSnapshot, .featureObservation, .regimeAssessment]
  | research => [.marketStateAssessment]
  | preTradeCritic =>
    [.marketSnapshot, .hypothesis, .evidenceSynthesis, .experimentRequest, .researchDiagnostic]
  | _ => []

/-- `definition_for(role_id, CATALOG_VERSION).output_kinds`, for the roles that are enabled. -/
def outputKinds : AgentRoleId → List ArtifactKind
  | marketRegime => [.marketStateAssessment]
  | research => [.hypothesis, .evidenceSynthesis, .experimentRequest]
  | preTradeCritic => [.critique]
  | _ => []

end AgentRoleId

def ArtifactRef.artifactKind (ref : ArtifactRef) : ArtifactKind := ref.fields.artifactKind

def criticInputKinds : List ArtifactKind := [.hypothesis, .evidenceSynthesis, .experimentRequest]

def validateRoleContract (role : AgentRoleId) (directInputs : List ArtifactRef)
    (requiredOutputs : List ArtifactKind) (dependencyOutputKinds : List ArtifactKind := []) :
    Py Unit := do
  let effectiveKinds := directInputs.map ArtifactRef.artifactKind ++ dependencyOutputKinds
  require role.IsReadOnly (valueError "future role is not enabled in V1 observe workflow")
  require (∀ kind ∈ effectiveKinds, kind ∈ role.inputKinds)
    (valueError "delegation input artifact is outside the role contract")
  require (∀ kind ∈ requiredOutputs, kind ∈ role.outputKinds)
    (valueError "delegation output artifact is outside the role contract")
  require (¬ (role = .research ∧ dependencyOutputKinds ≠ [] ∧ directInputs ≠ [])) (valueError
    "research fan-in must consume dependency artifacts rather than direct substitutes")
  require (role = .preTradeCritic → requiredOutputs ≠ [] → requiredOutputs = [.critique])
    (valueError "critic delegation must produce exactly one critique")
  require (¬ (role = .preTradeCritic ∧ dependencyOutputKinds ≠ [] ∧ directInputs ≠ []))
    (valueError "critic fan-in must consume dependency artifacts rather than direct substitutes")
  require (role = .preTradeCritic → effectiveKinds ≠ [] → effectiveKinds = criticInputKinds)
    (valueError "critic delegation requires exact Research artifact fan-in")

/-! ### Steps and plans -/

structure DelegationStepFields where
  stepKey : Text
  roleId : AgentRoleId
  inputArtifacts : List ArtifactRef
  requiredOutputs : List ArtifactKind
  budget : AgentBudget
  dependsOn : List Text
  deriving DecidableEq

instance : Dataclass DelegationStepFields where
  postInit f := do
    require f.stepKey.IsStripped (valueError "delegation step requires a stable key and role")
    require f.roleId.IsReadOnly (valueError "future role is not enabled in V1 observe workflow")
    require (¬ (f.inputArtifacts = [] ∧ f.dependsOn = []) ∧ f.requiredOutputs ≠ [])
      (valueError "delegation step requires inputs and typed outputs")
    require (f.inputArtifacts.Nodup ∧ f.requiredOutputs.Nodup ∧ f.dependsOn.Nodup
        ∧ f.stepKey ∉ f.dependsOn ∧ ∀ name ∈ f.dependsOn, name ≠ [])
      (valueError "delegation dependencies must be unique and non-cyclic")
    validateRoleContract f.roleId f.inputArtifacts f.requiredOutputs

abbrev DelegationStep := Frozen DelegationStepFields

namespace DelegationStep

def stepKey (step : DelegationStep) : Text := step.fields.stepKey

def dependsOn (step : DelegationStep) : List Text := step.fields.dependsOn

end DelegationStep

/-- The loop of `_assert_acyclic`: the steps left with their dependencies, and those resolved.
Every turn resolves a step, so the number of steps bounds the turns. -/
def acyclicLoop : ℕ → List (Text × List Text) → List Text → Py Unit
  | 0, dependencies, _ =>
    require (dependencies = []) (valueError "delegation plan dependencies are cyclic")
  | turns + 1, dependencies, resolved =>
    let ready := dependencies.filter (fun entry => ∀ ref ∈ entry.2, ref ∈ resolved)
    if dependencies = [] then .ok ()
    else if ready = [] then .error (valueError "delegation plan dependencies are cyclic")
    else acyclicLoop turns
      (dependencies.filter (fun entry => ¬ ∀ ref ∈ entry.2, ref ∈ resolved))
      (resolved ++ ready.map Prod.fst)

def assertAcyclic (steps : List DelegationStep) : Py Unit :=
  acyclicLoop steps.length (steps.map (fun step => (step.stepKey, step.dependsOn))) []

structure DelegationPlanFields where
  planId : ℕ
  cycleId : ℕ
  episodeId : ℕ
  asOf : ℤ
  expiresAt : ℤ
  steps : List DelegationStep
  cycleBudget : AgentBudget
  deriving DecidableEq

namespace DelegationPlanFields

/-- `by_key[name]` -/
def stepOf (f : DelegationPlanFields) (name : Text) : Option DelegationStep :=
  f.steps.find? (fun step => step.stepKey = name)

def dependentOutputs (f : DelegationPlanFields) (step : DelegationStep) : List ArtifactKind :=
  step.dependsOn.flatMap fun name =>
    ((f.stepOf name).map (fun dependency => dependency.fields.requiredOutputs)).getD []

/-- The step of a critic depends on one complete Research result. -/
def CriticDependsOnResearch (f : DelegationPlanFields) (step : DelegationStep) : Prop :=
  step.dependsOn.length = 1
    ∧ (∀ name ∈ step.dependsOn, ∃ dependency ∈ f.stepOf name,
      dependency.fields.roleId = .research)
    ∧ f.dependentOutputs step = criticInputKinds

instance (f : DelegationPlanFields) (step : DelegationStep) :
    Decidable (f.CriticDependsOnResearch step) :=
  inferInstanceAs (Decidable (_ ∧ (∀ name ∈ step.dependsOn, ∃ dependency ∈ f.stepOf name, _) ∧ _))

/-- The checks of `DelegationPlan.__post_init__` on one step. -/
def checkStep (f : DelegationPlanFields) (step : DelegationStep) : Py Unit := do
  require (step.fields.roleId = .preTradeCritic → f.CriticDependsOnResearch step)
    (valueError "critic delegation must depend on one complete Research result")
  validateRoleContract step.fields.roleId step.fields.inputArtifacts step.fields.requiredOutputs
    (f.dependentOutputs step)

/-- A limit of the steps together is within that of the cycle. -/
def WithinLimit (f : DelegationPlanFields) (limit : AgentBudgetFields → ℤ) : Prop :=
  (f.steps.map (fun step => limit step.fields.budget.fields)).sum ≤ limit f.cycleBudget.fields

instance (f : DelegationPlanFields) (limit : AgentBudgetFields → ℤ) :
    Decidable (f.WithinLimit limit) := inferInstanceAs (Decidable (_ ≤ _))

def postInit (f : DelegationPlanFields) : Py Unit := do
  require (f.asOf < f.expiresAt) (valueError "delegation plan must expire in the future")
  require (f.steps ≠ [] ∧ (f.steps.map DelegationStep.stepKey).Nodup)
    (valueError "delegation plan requires unique steps")
  require (∀ step ∈ f.steps, ∀ name ∈ step.dependsOn, name ∈ f.steps.map DelegationStep.stepKey)
    (valueError "delegation plan references an unknown dependency")
  assertAcyclic f.steps
  f.steps.forM f.checkStep
  require (∀ limit ∈ [AgentBudgetFields.maxTurns, AgentBudgetFields.maxToolCalls,
      AgentBudgetFields.maxTokens, AgentBudgetFields.timeoutSeconds], f.WithinLimit limit)
    (valueError "delegation plan budget exceeds cycle budget")

instance : Dataclass DelegationPlanFields := ⟨postInit⟩

end DelegationPlanFields

abbrev DelegationPlan := Frozen DelegationPlanFields

def DelegationPlan.steps (plan : DelegationPlan) : List DelegationStep := plan.fields.steps

/-! ### Tasks -/

structure WorkflowTaskFields where
  taskId : ℕ
  episodeId : ℕ
  stepKey : Text
  roleId : AgentRoleId
  deadlineAt : ℤ
  status : WorkflowTaskStatus := .PENDING
  inputArtifacts : List ArtifactRef := []
  deriving DecidableEq

instance : Dataclass WorkflowTaskFields where
  postInit f := do
    require (f.stepKey ≠ [] ∧ f.roleId.IsReadOnly)
      (typeError "workflow task requires exact typed values")
    validateRoleContract f.roleId f.inputArtifacts []

abbrev WorkflowTask := Frozen WorkflowTaskFields

namespace WorkflowTask

def taskId (task : WorkflowTask) : ℕ := task.fields.taskId

def episodeId (task : WorkflowTask) : ℕ := task.fields.episodeId

def stepKey (task : WorkflowTask) : Text := task.fields.stepKey

def status (task : WorkflowTask) : WorkflowTaskStatus := task.fields.status

/-- The task built again with another status, which no check reads. -/
def withStatus (task : WorkflowTask) (status : WorkflowTaskStatus) : WorkflowTask where
  fields := { task.fields with status }
  valid := task.valid

end WorkflowTask

structure WorkflowTaskResultFields where
  taskId : ℕ
  status : WorkflowTaskStatus
  artifacts : List ArtifactRef
  unknowns : List Text
  warnings : List Text
  critiqueStatus : Option CritiqueStatus := none
  deriving DecidableEq

instance : Dataclass WorkflowTaskResultFields where
  postInit f := do
    require (f.status ∈ [WorkflowTaskStatus.COMPLETED, .DEFERRED, .FAILED, .SKIPPED]) (valueError
      "workflow result must be a completed, deferred, or failed terminal result")
    require (f.status = .COMPLETED → f.artifacts ≠ [])
      (valueError "completed workflow result requires immutable artifacts")
    require (f.status ≠ .COMPLETED → ¬ (f.unknowns = [] ∧ f.warnings = []))
      (valueError "non-completed workflow result requires a reason")
    require (f.artifacts.Nodup ∧ ∀ text ∈ f.unknowns ++ f.warnings, text.strip ≠ [])
      (valueError "workflow result must preserve unique artifacts and non-empty reasons")

abbrev WorkflowTaskResult := Frozen WorkflowTaskResultFields

def criticTaskStatus (status : CritiqueStatus) : WorkflowTaskStatus :=
  if status ∈ [CritiqueStatus.PASS, .REJECT] then .COMPLETED else .DEFERRED

/-! ### Cycles and episodes -/

structure CycleTriggerFields where
  source : TriggerSource
  idempotencyKey : Text
  occurredAt : ℤ
  inputArtifacts : List ArtifactRef
  deriving DecidableEq

instance : Dataclass CycleTriggerFields where
  postInit f := do
    require f.idempotencyKey.IsStripped
      (valueError "cycle trigger requires a stable idempotency key")
    require (f.inputArtifacts ≠ []) (valueError "cycle trigger requires immutable input artifacts")

abbrev CycleTrigger := Frozen CycleTriggerFields

def CycleTrigger.deduplicationHash [Hashlib] (trigger : CycleTrigger) : Py Text :=
  canonicalSha256 (.obj [
    ("source", .str trigger.fields.source.value),
    ("idempotency_key", .str trigger.fields.idempotencyKey)])

structure AutonomyCycleFields where
  cycleId : ℕ
  trigger : CycleTrigger
  startedAt : ℤ
  expiresAt : ℤ
  status : CycleStatus := .RUNNING
  deriving DecidableEq

instance : Dataclass AutonomyCycleFields where
  postInit f := require (f.startedAt < f.expiresAt) (valueError "cycle expiry must follow start")

abbrev AutonomyCycle := Frozen AutonomyCycleFields

/-- The cycle built again with another status, which no check reads. -/
def AutonomyCycle.withStatus (cycle : AutonomyCycle) (status : CycleStatus) : AutonomyCycle where
  fields := { cycle.fields with status }
  valid := cycle.valid

structure DecisionEpisodeFields where
  episodeId : ℕ
  cycleId : ℕ
  candidateKey : Text
  startedAt : ℤ
  expiresAt : ℤ
  status : EpisodeStatus := .RUNNING
  terminalReason : Option Text := none
  deriving DecidableEq

instance : Dataclass DecisionEpisodeFields where
  postInit f := do
    require f.candidateKey.IsStripped
      (valueError "decision episode requires a stable candidate key")
    require (f.startedAt < f.expiresAt) (valueError "episode expiry must follow start")
    require (f.status.IsTerminal → ∃ reason ∈ f.terminalReason, reason ≠ [])
      (valueError "terminal episode requires an immutable reason")
    require (¬ f.status.IsTerminal → f.terminalReason = none)
      (valueError "non-terminal episode cannot have a terminal reason")

abbrev DecisionEpisode := Frozen DecisionEpisodeFields

/-- The episode built again with a terminal status and a reason, which its checks accept. -/
def DecisionEpisode.ended (episode : DecisionEpisode) (status : EpisodeStatus) (reason : Text)
    (hstatus : status.IsTerminal) (hreason : reason ≠ []) : DecisionEpisode where
  fields := { episode.fields with status, terminalReason := some reason }
  valid := by
    have hvalid := episode.valid
    simp only [postInit, require_bind_eq_ok] at hvalid ⊢
    exact ⟨hvalid.1, hvalid.2.1, fun _ => ⟨reason, rfl, hreason⟩,
      require_of_pos fun hnot => absurd hstatus hnot⟩

end FuturesAgentOs
