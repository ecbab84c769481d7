import FuturesAgentOs.PyModel.Machine
import FuturesAgentOs.SharedKernel.Contracts
import FuturesAgentOs.SharedKernel.Ids
import FuturesAgentOs.SharedKernel.Time

namespace FuturesAgentOs

open PyModel

/-!
# The experiment manager

`research_experiment/experiment_manager.py`: registration and life of research jobs.  A job is named
by the number of its `EntityId.new`, which draws no id twice.

* `register`, `start`, `checkpoint`, `complete`, `fail`, `cancel`, `recover` — the calls.
-/

inductive ResearchJobStatus where
  | QUEUED
  | RUNNING
  | PARTIAL
  | SUCCEEDED
  | FAILED
  | CANCELLED
  | TIMED_OUT
  deriving DecidableEq

/-- `_TERMINAL` -/
def ResearchJobStatus.IsTerminal (s : ResearchJobStatus) : Prop :=
  s ∈ [SUCCEEDED, FAILED, CANCELLED, TIMED_OUT]

instance (s : ResearchJobStatus) : Decidable s.IsTerminal := inferInstanceAs (Decidable (_ ∈ _))

structure ResearchBudgetFields where
  maxTokens : ℤ
  maxToolCalls : ℤ
  timeoutSeconds : ℤ
  deriving DecidableEq

instance : Dataclass ResearchBudgetFields where
  postInit f := require (0 < f.maxTokens ∧ 0 < f.maxToolCalls ∧ 0 < f.timeoutSeconds)
    (valueError "research budget limits must be positive integers")

abbrev ResearchBudget := Frozen ResearchBudgetFields

structure ExperimentPlanFields where
  experimentId : EntityId
  version : ℤ
  schemaVersion : SchemaVersion
  requestRef : EntityId
  originalConversationId : EntityId
  asOf : RecordedAt
  expiresAt : RecordedAt
  budget : ResearchBudget
  priority : ℤ := 0
  deriving DecidableEq

instance : Dataclass ExperimentPlanFields where
  postInit f := do
    require (f.experimentId.nspace = "experiment" ∧ f.requestRef.nspace = "experiment_request")
      (valueError "experiment plan has invalid research identities")
    require (f.originalConversationId.nspace = "conversation")
      (valueError "experiment plan requires its originating conversation")
    require (1 ≤ f.version ∧ 0 ≤ f.priority)
      (valueError "experiment version and priority must be non-negative integers")
    require (f.asOf < f.expiresAt) (valueError "experiment plan expiry must follow as_of")

abbrev ExperimentPlan := Frozen ExperimentPlanFields

structure ResearchJobFields where
  jobId : ℕ
  experiment : ExperimentPlan
  status : ResearchJobStatus
  createdAt : RecordedAt
  updatedAt : RecordedAt
  attempt : ℤ := 1
  resultRef : Option EntityId := none
  failureCode : Option Text := none
  failureDetail : Option Text := none
  consumedTokens : ℤ := 0
  consumedToolCalls : ℤ := 0
  deriving DecidableEq

instance : Dataclass ResearchJobFields where
  postInit f := do
    require (f.createdAt ≤ f.updatedAt ∧ 1 ≤ f.attempt)
      (valueError "research job timestamps/attempt are invalid")
    require (0 ≤ f.consumedTokens ∧ 0 ≤ f.consumedToolCalls)
      (valueError "research usage counters must be non-negative integers")
    require (f.consumedTokens ≤ f.experiment.fields.budget.fields.maxTokens
        ∧ f.consumedToolCalls ≤ f.experiment.fields.budget.fields.maxToolCalls)
      (valueError "research job usage exceeds its pre-registered budget")
    require (f.status = .SUCCEEDED → f.resultRef ≠ none)
      (valueError "successful research job requires an immutable result reference")
    require (f.status = .FAILED → ∃ code ∈ f.failureCode, code ≠ [])
      (valueError "failed research job requires a failure code")
    require (f.status.IsTerminal → f.status ≠ .SUCCEEDED → f.resultRef = none)
      (valueError "non-success terminal job cannot publish a result")

abbrev ResearchJob := Frozen ResearchJobFields

def ResearchJobFields.IsTerminal (f : ResearchJobFields) : Prop := f.status.IsTerminal

instance (f : ResearchJobFields) : Decidable f.IsTerminal :=
  inferInstanceAs (Decidable f.status.IsTerminal)

structure ExperimentManager where
  jobs : Dict ℕ ResearchJob := .empty
  byExperiment : Dict EntityId ℕ := .empty
  /-- how many job ids were drawn -/
  drawn : ℕ := 0

namespace ExperimentManager

variable (m : ExperimentManager)

def get (jobId : ℕ) : Py ResearchJob :=
  match m.jobs.get? jobId with
  | some job => .ok job
  | none => .error ⟨.keyError, Text.ofString "unknown research job: " ++ Text.ofNat jobId⟩

/-- What a call answers, and the manager after it. -/
abbrev Answered := Py ResearchJob × ExperimentManager

/-- A call on a job that is there. -/
def onJob (jobId : ℕ) (f : ResearchJob → Answered) : Answered :=
  match m.get jobId with
  | .ok job => f job
  | .error e => (.error e, m)

/-- A check of a call. -/
def checked (c : Prop) [Decidable c] (message : Text) (next : Answered) : Answered :=
  if c then next else (.error (valueError message), m)

/-- A job that was built is stored under an id. -/
def store (jobId : ℕ) : Py ResearchJob → Answered
  | .ok job => (.ok job, { m with jobs := m.jobs.set jobId job })
  | .error e => (.error e, m)

def transition (job : ResearchJob) (change : ResearchJobFields → ResearchJobFields) : Answered :=
  m.store job.fields.jobId (job.replace change)

/-- `_transition(job, TIMED_OUT, now, failure_code=…)` -/
def timeOut (job : ResearchJob) (now : RecordedAt) (failureCode : Text) : Answered :=
  m.transition job (fun f =>
    { f with status := .TIMED_OUT, updatedAt := now, failureCode := some failureCode })

/-- A job that was built for an experiment is stored, and the experiment is registered. -/
def enroll (experimentId : EntityId) : Py ResearchJob → Answered
  | .ok job => (.ok job,
      { jobs := m.jobs.set m.drawn job
        byExperiment := m.byExperiment.set experimentId m.drawn
        drawn := m.drawn + 1 })
  | .error e => (.error e, { m with drawn := m.drawn + 1 })

def register (plan : ExperimentPlan) : Answered :=
  match m.byExperiment.get? plan.fields.experimentId with
  | some _ => (.error (valueError "experiment is already registered"), m)
  | none => m.enroll plan.fields.experimentId (Frozen.make
      { jobId := m.drawn
        experiment := plan
        status := .QUEUED
        createdAt := plan.fields.asOf
        updatedAt := plan.fields.asOf })

def start (jobId : ℕ) (now : RecordedAt) : Answered :=
  m.onJob jobId fun job =>
    m.checked (job.fields.status = .QUEUED) "only queued research jobs can start" <|
      if job.fields.experiment.fields.expiresAt ≤ now then m.timeOut job now "DEADLINE_EXCEEDED"
      else m.transition job (fun f => { f with status := .RUNNING, updatedAt := now })

/-- The usage of a checkpoint is over the budget. -/
def OverBudget (job : ResearchJob) (tokens toolCalls : ℤ) : Prop :=
  job.fields.experiment.fields.budget.fields.maxTokens < job.fields.consumedTokens + tokens
    ∨ job.fields.experiment.fields.budget.fields.maxToolCalls
        < job.fields.consumedToolCalls + toolCalls

instance (job : ResearchJob) (tokens toolCalls : ℤ) : Decidable (OverBudget job tokens toolCalls) :=
  inferInstanceAs (Decidable (_ ∨ _))

/-- What `checkpoint` changes of a job. -/
def checkpointed (now : RecordedAt) (tokens toolCalls : ℤ) (isPartial : Bool)
    (f : ResearchJobFields) : ResearchJobFields :=
  { f with
    status := if isPartial then .PARTIAL else .RUNNING
    updatedAt := now
    consumedTokens := f.consumedTokens + tokens
    consumedToolCalls := f.consumedToolCalls + toolCalls }

def checkpoint (jobId : ℕ) (now : RecordedAt) (tokens toolCalls : ℤ) (isPartial : Bool) :
    Answered :=
  m.onJob jobId fun job =>
    m.checked (job.fields.status = .RUNNING) "only running research jobs accept checkpoints" <|
    m.checked (0 ≤ tokens ∧ 0 ≤ toolCalls) "checkpoint usage must be non-negative integers" <|
      if OverBudget job tokens toolCalls then m.timeOut job now "BUDGET_EXCEEDED"
      -- `replace` alone: the new job is returned and not stored
      else (job.replace (checkpointed now tokens toolCalls isPartial), m)

def complete (jobId : ℕ) (now : RecordedAt) (resultRef : EntityId) : Answered :=
  m.onJob jobId fun job =>
    m.checked (job.fields.status ∈ [ResearchJobStatus.RUNNING, .PARTIAL])
      "only running or partial research jobs can complete" <|
    m.checked (resultRef.nspace = "research_result")
      "research results must use the research_result namespace" <|
      if job.fields.experiment.fields.expiresAt ≤ now then m.timeOut job now "DEADLINE_EXCEEDED"
      else m.transition job (fun f =>
        { f with status := .SUCCEEDED, updatedAt := now, resultRef := some resultRef })

/-- `detail or None` -/
def detailOrNone (detail : Text) : Option Text := if detail = [] then none else some detail

def fail (jobId : ℕ) (now : RecordedAt) (code detail : Text) : Answered :=
  m.checked code.IsStripped "failure code is required" <|
    m.onJob jobId fun job =>
      m.checked (¬ job.fields.IsTerminal) "terminal research jobs cannot transition" <|
        m.transition job (fun f =>
          { f with
            status := .FAILED
            updatedAt := now
            failureCode := some code
            failureDetail := detailOrNone detail })

def cancel (jobId : ℕ) (now : RecordedAt) (reason : Text) : Answered :=
  m.onJob jobId fun job =>
    m.checked (¬ job.fields.IsTerminal) "terminal research jobs cannot transition" <|
      m.transition job (fun f =>
        { f with status := .CANCELLED, updatedAt := now, failureCode := some reason })

/-- What `recover` changes of a job. -/
def requeued (now : RecordedAt) (f : ResearchJobFields) : ResearchJobFields :=
  { f with status := .QUEUED, updatedAt := now, attempt := f.attempt + 1 }

def recover (jobId : ℕ) (now : RecordedAt) : Answered :=
  m.onJob jobId fun job =>
    m.checked (job.fields.status ∈ [ResearchJobStatus.RUNNING, .PARTIAL])
      "only interrupted running jobs can recover" <|
      if job.fields.experiment.fields.expiresAt ≤ now then m.timeOut job now "DEADLINE_EXCEEDED"
      -- as in `checkpoint`
      else (job.replace (requeued now), m)

end ExperimentManager

/-- A call of the manager. -/
inductive ManagerCall where
  | register (plan : ExperimentPlan)
  | start (jobId : ℕ) (now : RecordedAt)
  | checkpoint (jobId : ℕ) (now : RecordedAt) (tokens toolCalls : ℤ) (isPartial : Bool)
  | complete (jobId : ℕ) (now : RecordedAt) (resultRef : EntityId)
  | fail (jobId : ℕ) (now : RecordedAt) (code detail : Text)
  | cancel (jobId : ℕ) (now : RecordedAt) (reason : Text)
  | recover (jobId : ℕ) (now : RecordedAt)

namespace ExperimentManager

/-- A call of the manager. -/
def call (m : ExperimentManager) : ManagerCall → Answered
  | .register plan => m.register plan
  | .start jobId now => m.start jobId now
  | .checkpoint jobId now tokens toolCalls isPartial =>
    m.checkpoint jobId now tokens toolCalls isPartial
  | .complete jobId now resultRef => m.complete jobId now resultRef
  | .fail jobId now code detail => m.fail jobId now code detail
  | .cancel jobId now reason => m.cancel jobId now reason
  | .recover jobId now => m.recover jobId now

/-- The manager, as a machine of its calls. -/
def machine : Machine ExperimentManager ManagerCall (Py ResearchJob) := ⟨call⟩

end ExperimentManager

end FuturesAgentOs
