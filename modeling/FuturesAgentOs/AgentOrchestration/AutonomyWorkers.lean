import FuturesAgentOs.AgentOrchestration.AutonomyWorkflow
import FuturesAgentOs.PyModel.Machine
import Mathlib.Logic.Function.Basic

namespace FuturesAgentOs

open PyModel

/-!
# Workers on one autonomy run

`AutonomyWorkflowOrchestrator.run` of any number of workers on one stored run, cut at every point
where another worker may act: the load, the claim, each command of the owner, and each write.

* `inv_exec` — the invariant, after every run of steps.
-/

/-- What the owner's `execute` does. -/
inductive ExecuteAnswer where
  /-- it raises, described by `f"{type(error).__name__}:{error}"` -/
  | raised (description : Text)
  /-- it returns something that is not a `StageResult` -/
  | other
  | result (r : StageResult)
  deriving DecidableEq

/-- Where `run` is. -/
inductive RunPhase where
  /-- outside `run` -/
  | idle
  /-- before the claim -/
  | loaded
  /-- at the head of the loop -/
  | working (run : AutonomyWorkflowRun)
  /-- before the write of what the owner answered -/
  | answered (run : AutonomyWorkflowRun) (target : WorkflowStage) (answer : ExecuteAnswer)
  /-- in the handler of an exception, before its write -/
  | failing (run : AutonomyWorkflowRun) (reason : Text)
  deriving DecidableEq

/-- The worker's copy of the run. -/
def RunPhase.copy : RunPhase → Option AutonomyWorkflowRun
  | idle => none
  | loaded => none
  | working run => some run
  | answered run _ _ => some run
  | failing run _ => some run

/-- The stored run, the workers, and the commands and checkpoints so far. -/
structure WorkflowSystem (ω : Type) where
  stored : AutonomyWorkflowRun
  phases : ω → RunPhase := fun _ => .idle
  /-- the commands that the owners were given -/
  commands : List StageCommand := []
  /-- whose result was checkpointed for which stage -/
  checkpoints : List (ω × WorkflowStage) := []

/-- What may happen next. -/
inductive WorkflowAction (ω : Type) where
  /-- `run` starts; the owner's `revalidate` answers -/
  | load (worker : ω) (revalidate : ReferenceKind → Py Bool)
  | claim (worker : ω) (leaseSeconds now : ℤ)
  /-- the owner's `execute` answers -/
  | execute (worker : ω) (answer : ExecuteAnswer)
  /-- the answer is written -/
  | settle (worker : ω) (now : ℤ)
  /-- the exception is written -/
  | handle (worker : ω)
  /-- the run is finished after its last stage -/
  | complete (worker : ω)
  /-- the worker is lost -/
  | lose (worker : ω)

/-- Whose action it is. -/
def WorkflowAction.worker {ω : Type} : WorkflowAction ω → ω
  | load w _ => w
  | claim w _ _ => w
  | execute w _ => w
  | settle w _ => w
  | handle w => w
  | complete w => w
  | lose w => w

/-- What a step of `run` gives. -/
inductive RunOutput where
  | goesOn
  | ends (result : Py AutonomyWorkflowRun)
  deriving DecidableEq

/-- `type(error).__name__` -/
def exceptionTypeName : ExceptionKind → Text
  | .assertionError => "AssertionError"
  | .attributeError => "AttributeError"
  | .budgetExceeded => "BudgetExceeded"
  | .connectionError => "ConnectionError"
  | .decimalOverflow => "Overflow"
  | .divisionByZero => "DivisionByZero"
  | .fileExistsError => "FileExistsError"
  | .fileNotFoundError => "FileNotFoundError"
  | .indexError => "IndexError"
  | .invalidOperation => "InvalidOperation"
  | .jsonDecodeError => "JSONDecodeError"
  | .keyError => "KeyError"
  | .osError => "OSError"
  | .overflowError => "OverflowError"
  | .permissionError => "PermissionError"
  | .recursionError => "RecursionError"
  | .runtimeError => "RuntimeError"
  | .stopIteration => "StopIteration"
  | .timeoutError => "TimeoutError"
  | .typeError => "TypeError"
  | .unicodeEncodeError => "UnicodeEncodeError"
  | .valueError => "ValueError"

/-- `f"{type(error).__name__}:{error}"` -/
def describeError (e : PyException) : Text :=
  exceptionTypeName e.kind ++ Text.ofChar ':' :: e.message

/-- `reason or default` -/
def reasonOr (reason : Option Text) (default : Text) : Text :=
  match reason with
  | none => default
  | some text => if text = [] then default else text

/-- `_revalidate`, of a run past its trigger. -/
def AutonomyWorkflowRun.revalidated (run : AutonomyWorkflowRun)
    (revalidate : ReferenceKind → Py Bool) : Py Unit := do
  require (∀ kind ∈ run.requiredKinds, kind ∈ run.kinds)
    (valueError "checkpoint is missing completed-stage references")
  (ReferenceKind.recoveryTruth.filter (· ∈ run.requiredKinds)).forM fun kind => do
    let valid ← revalidate kind
    require (valid = true)
      (valueError (Text.ofString "stale " ++ kind.value ++ Text.ofString " prevents recovery"))

namespace WorkflowSystem

variable {ω : Type} [DecidableEq ω]

/-- A worker is in another phase. -/
def inPhase (s : WorkflowSystem ω) (w : ω) (phase : RunPhase) : WorkflowSystem ω :=
  { s with phases := Function.update s.phases w phase }

/-- A worker leaves `run`. -/
def leave (s : WorkflowSystem ω) (w : ω) (result : Py AutonomyWorkflowRun) :
    RunOutput × WorkflowSystem ω := (.ends result, s.inPhase w .idle)

/-- The run is written, and the worker leaves `run` with it. -/
def left (s : WorkflowSystem ω) (w : ω) (run : AutonomyWorkflowRun) :
    RunOutput × WorkflowSystem ω := ({ s with stored := run } : WorkflowSystem ω).leave w (.ok run)

/-- A write, after which `run` returns or raises. -/
def finished (s : WorkflowSystem ω) (w : ω) :
    Py AutonomyWorkflowRun → RunOutput × WorkflowSystem ω
  | .ok run => s.left w run
  | .error e => s.leave w (.error e)

/-- A write inside the `try`, after which `run` returns. -/
def finishedOrFailing (s : WorkflowSystem ω) (w : ω) (copy : AutonomyWorkflowRun) :
    Py AutonomyWorkflowRun → RunOutput × WorkflowSystem ω
  | .ok run => s.left w run
  | .error e => (.goesOn, s.inPhase w (.failing copy (describeError e)))

/-- The load of `run`. -/
def load (s : WorkflowSystem ω) (w : ω) (revalidate : ReferenceKind → Py Bool) :
    RunOutput × WorkflowSystem ω :=
  if s.stored.status.IsOver then s.leave w (.ok s.stored)
  else if s.stored.stage = .TRIGGERED then (.goesOn, s.inPhase w .loaded)
  else match s.stored.revalidated revalidate with
    | .ok () => (.goesOn, s.inPhase w .loaded)
    | .error e => s.leave w (.error e)

/-- The claim of `run`. -/
def claimedBy (s : WorkflowSystem ω) (w : ω) :
    Py AutonomyWorkflowRun → RunOutput × WorkflowSystem ω
  | .ok run => (.goesOn, ({ s with stored := run } : WorkflowSystem ω).inPhase w (.working run))
  | .error e => s.leave w (.error e)

/-- The checkpoint of `run`. -/
def checkpointedBy (s : WorkflowSystem ω) (w : ω) (copy : AutonomyWorkflowRun)
    (target : WorkflowStage) : Py AutonomyWorkflowRun → RunOutput × WorkflowSystem ω
  | .ok run => (.goesOn,
      ({ s with stored := run, checkpoints := s.checkpoints ++ [(w, target)] }
        : WorkflowSystem ω).inPhase w (.working run))
  | .error e => (.goesOn, s.inPhase w (.failing copy (describeError e)))

/-- The references of an `ADVANCE`, merged with those of the run. -/
def advanced (run : AutonomyWorkflowRun) (target : WorkflowStage) (r : StageResult) :
    Py (List StateReference) := do
  require (ExactOutputs target r.references) (valueError
    (Text.ofString "stage " ++ target.value ++ Text.ofString " owner references are not exact"))
  mergeReferences run.references r.references

/-- The write of a result of the owner. -/
def settleResult (s : WorkflowSystem ω) (kind : RepositoryKind) (w : ω) (workerId : Text)
    (run : AutonomyWorkflowRun) (target : WorkflowStage) (r : StageResult) (now : ℤ) :
    RunOutput × WorkflowSystem ω :=
  let finish status default :=
    s.finishedOrFailing w run
      (s.stored.finish kind run workerId status (some (reasonOr r.reason default)))
  match r.disposition with
  | .INTERRUPT => finish .INTERRUPTED "OWNER_INTERRUPT"
  | .DEFER => finish .DEFERRED "DEFERRED"
  | .FAIL => finish .FAILED "FAILED"
  | .ADVANCE => s.checkpointedBy w run target (do
      let references ← advanced run target r
      s.stored.checkpoint kind run workerId target references now)

/-- What happens at a step. -/
def act (kind : RepositoryKind) (workerId : ω → Text) (s : WorkflowSystem ω) :
    WorkflowAction ω → RunOutput × WorkflowSystem ω
  | .load w revalidate =>
    if s.phases w = .idle then s.load w revalidate else (.goesOn, s)
  | .claim w leaseSeconds now =>
    if s.phases w = .loaded then
      s.claimedBy w (s.stored.claim kind (workerId w) leaseSeconds now)
    else (.goesOn, s)
  | .execute w answer =>
    match s.phases w with
    | .working run =>
      match run.stage.successor with
      | some target => (.goesOn,
          ({ s with commands := s.commands ++ [run.command target] } : WorkflowSystem ω).inPhase w
            (.answered run target answer))
      | none => (.goesOn, s)
    | _ => (.goesOn, s)
  | .settle w now =>
    match s.phases w with
    | .answered run target answer =>
      match answer with
      | .raised description => (.goesOn, s.inPhase w (.failing run description))
      | .other => (.goesOn,
          s.inPhase w (.failing run (describeError
            (typeError "owner command must return StageResult"))))
      | .result r => s.settleResult kind w (workerId w) run target r now
    | _ => (.goesOn, s)
  | .handle w =>
    match s.phases w with
    | .failing run reason =>
      s.finished w (s.stored.finish kind run (workerId w) .INTERRUPTED (some reason))
    | _ => (.goesOn, s)
  | .complete w =>
    match s.phases w with
    | .working run =>
      if run.stage.successor = none then
        s.finished w (s.stored.finish kind run (workerId w) .COMPLETED none)
      else (.goesOn, s)
    | _ => (.goesOn, s)
  | .lose w => (.goesOn, s.inPhase w .idle)

/-- The workers on a run, as a machine. -/
def machine (kind : RepositoryKind) (workerId : ω → Text) :
    Machine (WorkflowSystem ω) (WorkflowAction ω) RunOutput := ⟨act kind workerId⟩

/-- The system of a run that was created. -/
def created (runId : Uuid) (origin : TriggerOrigin) (idempotencyKey payloadSha256 : Text) :
    WorkflowSystem ω where
  stored :=
    { runId
      triggerOrigin := origin
      triggerIdempotencyKey := idempotencyKey
      triggerSha256 := payloadSha256 }

end WorkflowSystem

/-! ### What a write does -/

namespace AutonomyWorkflowRun

/-- The run, checkpointed. -/
def checkpointed (run : AutonomyWorkflowRun) (stage : WorkflowStage)
    (references : List StateReference) : AutonomyWorkflowRun :=
  { run with stage, references, version := run.version + 1 }

/-- The run, finished. -/
def ended (run : AutonomyWorkflowRun) (status : WorkflowRunStatus) (reason : Option Text) :
    AutonomyWorkflowRun :=
  { run with
    status
    lastError := reason
    leaseOwner := none
    leaseExpiresAt := none
    version := run.version + 1 }

variable {kind : RepositoryKind} {stored run written : AutonomyWorkflowRun} {workerId : Text}

theorem claim_eq_ok {leaseSeconds now : ℤ} :
    stored.claim kind workerId leaseSeconds now = .ok written
      ↔ ClaimArguments kind workerId leaseSeconds ∧ ¬ stored.LeasedByAnother workerId now
        ∧ stored.claimed workerId leaseSeconds now = written := by
  rw [claim, require_bind_eq_ok, require_bind_eq_ok, Except.ok.injEq]

theorem checkpoint_eq_ok {stage : WorkflowStage} {references : List StateReference} {now : ℤ}
    (hsame : run.version = stored.version → run = stored)
    (h : stored.checkpoint kind run workerId stage references now = .ok written) :
    stored.Current run workerId ∧ stage.index = stored.stage.index + 1
      ∧ written = stored.checkpointed stage references := by
  rcases kind with _ | _
  · simp only [checkpoint, checkTransition, require_bind_eq_ok] at h
    obtain ⟨hcurrent, hstage, h⟩ := h
    obtain rfl := hsame hcurrent.1.symm
    exact ⟨hcurrent, hstage, (Except.ok.inj h).symm⟩
  · simp only [checkpoint, checkTransition, require_bind_eq_ok] at h
    obtain ⟨hstage, ⟨hcurrent, -⟩, h⟩ := h
    obtain rfl := hsame hcurrent.1.symm
    exact ⟨hcurrent, hstage, (Except.ok.inj h).symm⟩

theorem finish_eq_ok {status : WorkflowRunStatus} {reason : Option Text}
    (hsame : run.version = stored.version → run = stored)
    (h : stored.finish kind run workerId status reason = .ok written) :
    stored.Current run workerId ∧ written = stored.ended status reason := by
  simp only [finish, require_bind_eq_ok] at h
  obtain ⟨-, hcurrent, h⟩ := h
  obtain rfl := hsame hcurrent.1.symm
  rcases kind with _ | _
  · exact ⟨hcurrent, (Except.ok.inj h).symm⟩
  · exact ⟨hcurrent, (Except.ok.inj h).symm⟩

end AutonomyWorkflowRun

/-! ### What holds of a run and of a copy of it -/

namespace AutonomyWorkflowRun

/-- A copy of a run that was claimed: not newer than the stored run, and equal to it when it has
its version. -/
structure CopyOf (run stored : AutonomyWorkflowRun) : Prop where
  active : run.status = .ACTIVE
  token_le : run.fencingToken ≤ stored.fencingToken
  version_le : run.version ≤ stored.version
  eq_stored : run.version = stored.version → run = stored

/-- One reference of each kind that the completed stages give, and no lease once it is over. -/
structure Exact (run : AutonomyWorkflowRun) : Prop where
  nodup : run.kinds.Nodup
  mem_kinds : ∀ kind, kind ∈ run.kinds ↔ kind ∈ run.requiredKinds
  unleased : run.status ≠ .ACTIVE → run.leaseExpiresAt = none

variable {run stored written : AutonomyWorkflowRun}

theorem copyOf_self (h : run.status = .ACTIVE) : run.CopyOf run :=
  ⟨h, le_refl _, le_refl _, fun _ => rfl⟩

theorem CopyOf.of_written (h : run.CopyOf stored) (hversion : written.version = stored.version + 1)
    (htoken : stored.fencingToken ≤ written.fencingToken) : run.CopyOf written := by
  have hlt : run.version < written.version := by
    have hle := h.version_le
    omega
  exact ⟨h.active, h.token_le.trans htoken, hlt.le, fun heq => absurd heq hlt.ne⟩

theorem mem_requiredKinds_checkpointed {target : WorkflowStage}
    (htarget : run.stage.successor = some target) (references : List StateReference)
    (kind : ReferenceKind) :
    kind ∈ (run.checkpointed target references).requiredKinds
      ↔ kind ∈ run.requiredKinds ∨ kind ∈ target.requiredOutputs := by
  simp only [requiredKinds, checkpointed, WorkflowStage.take_of_successor htarget,
    List.flatMap_append, List.mem_append, List.flatMap_singleton]

theorem Exact.checkpointed (h : run.Exact) {target : WorkflowStage}
    (htarget : run.stage.successor = some target) (hactive : run.status = .ACTIVE)
    {r : StageResult} {references : List StateReference}
    (hadvanced : WorkflowSystem.advanced run target r = .ok references) :
    (run.checkpointed target references).Exact ∧ ∀ item ∈ run.references, item ∈ references := by
  obtain ⟨⟨-, honly, hall⟩, hmerge⟩ := of_require hadvanced
  have hmerged := merged_of_mergeReferences h.nodup hmerge
  refine ⟨⟨hmerged.nodup, fun kind => ?_, fun hover => absurd hactive hover⟩, hmerged.keeps⟩
  rw [mem_requiredKinds_checkpointed htarget, ← h.mem_kinds]
  exact (hmerged.mem_kinds kind).trans (or_congr_right ⟨honly kind, hall kind⟩)

end AutonomyWorkflowRun

/-! ### What a step does -/

variable {ω : Type} [DecidableEq ω]

/-- What a step of the workers does to the system. -/
inductive WorkflowStep (kind : RepositoryKind) (workerId : ω → Text) (s : WorkflowSystem ω) :
    WorkflowAction ω → WorkflowSystem ω → Prop where
  | same (a : WorkflowAction ω) : WorkflowStep kind workerId s a s
  | moved (a : WorkflowAction ω) (phase : RunPhase)
      (hcopy : ∀ run ∈ phase.copy, run ∈ (s.phases a.worker).copy)
      (hphase : ∀ run target answer, phase ≠ .answered run target answer) :
      WorkflowStep kind workerId s a (s.inPhase a.worker phase)
  | claimed (w : ω) (leaseSeconds now : ℤ) (hloaded : s.phases w = .loaded)
      (hclaim : AutonomyWorkflowRun.ClaimArguments kind (workerId w) leaseSeconds) :
      WorkflowStep kind workerId s (.claim w leaseSeconds now)
        (({ s with stored := s.stored.claimed (workerId w) leaseSeconds now }
          : WorkflowSystem ω).inPhase w
            (.working (s.stored.claimed (workerId w) leaseSeconds now)))
  | executed (w : ω) (answer : ExecuteAnswer) {run : AutonomyWorkflowRun} {target : WorkflowStage}
      (hworking : s.phases w = .working run) (htarget : run.stage.successor = some target) :
      WorkflowStep kind workerId s (.execute w answer)
        (({ s with commands := s.commands ++ [run.command target] }
          : WorkflowSystem ω).inPhase w (.answered run target answer))
  | checkpointed (w : ω) (now : ℤ) {run : AutonomyWorkflowRun} {target : WorkflowStage}
      {r : StageResult} {references : List StateReference}
      (hanswered : s.phases w = .answered run target (.result r))
      (hcurrent : s.stored.Current run (workerId w))
      (hadvanced : WorkflowSystem.advanced run target r = .ok references) :
      WorkflowStep kind workerId s (.settle w now)
        (({ s with
            stored := s.stored.checkpointed target references
            checkpoints := s.checkpoints ++ [(w, target)] } : WorkflowSystem ω).inPhase w
          (.working (s.stored.checkpointed target references)))
  | finished (a : WorkflowAction ω) {run : AutonomyWorkflowRun} (status : WorkflowRunStatus)
      (reason : Option Text) (hcopy : run ∈ (s.phases a.worker).copy)
      (hcurrent : s.stored.Current run (workerId a.worker)) :
      WorkflowStep kind workerId s a
        (({ s with stored := s.stored.ended status reason } : WorkflowSystem ω).inPhase a.worker
          .idle)

namespace WorkflowSystem

/-- **The invariant of the workers.** -/
structure Inv (s : WorkflowSystem ω) : Prop where
  copies : ∀ w, ∀ run ∈ (s.phases w).copy, run.CopyOf s.stored
  target : ∀ w run target answer, s.phases w = .answered run target answer →
    run.stage.successor = some target
  exact : s.stored.Exact
  /-- the stages before the stored one were checkpointed, in their order -/
  checkpointed : .TRIGGERED :: s.checkpoints.map Prod.snd
    = WorkflowStage.order.take (s.stored.stage.index + 1)

section Steps

variable {s : WorkflowSystem ω} {kind : RepositoryKind} {workerId : ω → Text}

theorem step_leave (a : WorkflowAction ω) (result : Py AutonomyWorkflowRun) :
    WorkflowStep kind workerId s a (s.leave a.worker result).2 :=
  .moved a .idle (fun _ h => by cases h) (fun _ _ _ h => by cases h)

variable {run : AutonomyWorkflowRun} {w : ω}

theorem step_failing (a : WorkflowAction ω) (reason : Text)
    (hcopy : run ∈ (s.phases a.worker).copy) :
    WorkflowStep kind workerId s a (s.inPhase a.worker (.failing run reason)) := by
  refine .moved a _ (fun run' h => ?_) (fun _ _ _ h => by cases h)
  obtain rfl := Option.some.inj h
  exact hcopy

theorem step_left (hinv : s.Inv) (a : WorkflowAction ω) {written : AutonomyWorkflowRun}
    (hcopy : run ∈ (s.phases a.worker).copy) {status : WorkflowRunStatus} {reason : Option Text}
    (h : s.stored.finish kind run (workerId a.worker) status reason = .ok written) :
    WorkflowStep kind workerId s a (s.left a.worker written).2 := by
  have hsame := (hinv.copies a.worker run hcopy).eq_stored
  obtain ⟨hcurrent, rfl⟩ := AutonomyWorkflowRun.finish_eq_ok hsame h
  exact .finished a status reason hcopy hcurrent

theorem step_finished (hinv : s.Inv) (a : WorkflowAction ω)
    (hcopy : run ∈ (s.phases a.worker).copy) (status : WorkflowRunStatus) (reason : Option Text) :
    WorkflowStep kind workerId s a (s.finished a.worker
      (s.stored.finish kind run (workerId a.worker) status reason)).2 := by
  rcases h : s.stored.finish kind run (workerId a.worker) status reason with e | written
  · exact step_leave a _
  · exact step_left hinv a hcopy h

theorem step_finishedOrFailing (hinv : s.Inv) (a : WorkflowAction ω)
    (hcopy : run ∈ (s.phases a.worker).copy) (status : WorkflowRunStatus) (reason : Option Text) :
    WorkflowStep kind workerId s a (s.finishedOrFailing a.worker run
      (s.stored.finish kind run (workerId a.worker) status reason)).2 := by
  rcases h : s.stored.finish kind run (workerId a.worker) status reason with e | written
  · exact step_failing a _ hcopy
  · exact step_left hinv a hcopy h

theorem step_load (w : ω) (revalidate : ReferenceKind → Py Bool) :
    WorkflowStep kind workerId s (.load w revalidate) (s.load w revalidate).2 := by
  have hloaded : WorkflowStep kind workerId s (.load w revalidate) (s.inPhase w .loaded) :=
    .moved (.load w revalidate) .loaded (fun _ h => by cases h) (fun _ _ _ h => by cases h)
  unfold load
  split
  · exact step_leave (.load w revalidate) _
  · split
    · exact hloaded
    · split
      · exact hloaded
      · exact step_leave (.load w revalidate) _

theorem step_claim (hloaded : s.phases w = .loaded) (leaseSeconds now : ℤ) :
    WorkflowStep kind workerId s (.claim w leaseSeconds now)
      (s.claimedBy w (s.stored.claim kind (workerId w) leaseSeconds now)).2 := by
  rcases h : s.stored.claim kind (workerId w) leaseSeconds now with e | written
  · exact step_leave (.claim w leaseSeconds now) _
  · obtain ⟨harguments, -, rfl⟩ := AutonomyWorkflowRun.claim_eq_ok.mp h
    exact .claimed w leaseSeconds now hloaded harguments

/-- The write of a result: a finish, or the checkpoint of an `ADVANCE`. -/
theorem step_settleResult (hinv : s.Inv) {target : WorkflowStage} {r : StageResult}
    (hanswered : s.phases w = .answered run target (.result r)) (now : ℤ) :
    WorkflowStep kind workerId s (.settle w now)
      (s.settleResult kind w (workerId w) run target r now).2 := by
  have hcopy : run ∈ (s.phases w).copy := by rw [hanswered]; rfl
  rw [settleResult]
  split
  · exact step_finishedOrFailing hinv (.settle w now) hcopy _ _
  · exact step_finishedOrFailing hinv (.settle w now) hcopy _ _
  · exact step_finishedOrFailing hinv (.settle w now) hcopy _ _
  · generalize hwrite : (advanced run target r >>= fun references =>
      s.stored.checkpoint kind run (workerId w) target references now) = write
    rcases write with e | written
    · exact step_failing (.settle w now) _ hcopy
    · obtain ⟨references, hadvanced, hcheckpoint⟩ := Py.of_bind hwrite
      obtain ⟨hcurrent, -, rfl⟩ :=
        AutonomyWorkflowRun.checkpoint_eq_ok (hinv.copies w run hcopy).eq_stored hcheckpoint
      exact .checkpointed w now hanswered hcurrent hadvanced

/-- **Every step is one of the above.** -/
theorem step_act (hinv : s.Inv) (a : WorkflowAction ω) :
    WorkflowStep kind workerId s a (act kind workerId s a).2 := by
  cases a with
  | load w revalidate =>
    simp only [act]
    split
    · exact step_load w revalidate
    · exact .same _
  | claim w leaseSeconds now =>
    simp only [act]
    split
    · rename_i hloaded
      exact step_claim hloaded leaseSeconds now
    · exact .same _
  | execute w answer =>
    simp only [act]
    split
    · rename_i run hworking
      split
      · rename_i target htarget
        exact .executed w answer hworking htarget
      · exact .same _
    · exact .same _
  | settle w now =>
    simp only [act]
    split
    · rename_i run target answer hanswered
      have hcopy : run ∈ (s.phases w).copy := by rw [hanswered]; rfl
      split
      · exact step_failing (.settle w now) _ hcopy
      · exact step_failing (.settle w now) _ hcopy
      · exact step_settleResult hinv hanswered now
    · exact .same _
  | handle w =>
    simp only [act]
    split
    · rename_i run reason hfailing
      exact step_finished hinv (.handle w) (show _ ∈ (s.phases w).copy by rw [hfailing]; rfl) _ _
    · exact .same _
  | complete w =>
    simp only [act]
    split
    · rename_i run hworking
      split
      · exact step_finished hinv (.complete w) (show _ ∈ (s.phases w).copy by rw [hworking]; rfl) _ _
      · exact .same _
    · exact .same _
  | lose w => exact .moved (.lose w) .idle (fun _ h => by cases h) (fun _ _ _ h => by cases h)

/-! ### What a step keeps -/

theorem copies_inPhase {stored : AutonomyWorkflowRun} {phase : RunPhase}
    (hothers : ∀ w, ∀ run ∈ (s.phases w).copy, run.CopyOf stored)
    (hphase : ∀ run ∈ phase.copy, run.CopyOf stored) (w' : ω) :
    ∀ run ∈ ((Function.update s.phases w phase) w').copy, run.CopyOf stored := by
  rw [Function.update_apply]
  split
  · exact hphase
  · exact hothers w'

theorem target_inPhase {phase : RunPhase}
    (hothers : ∀ w run target answer, s.phases w = .answered run target answer →
      run.stage.successor = some target)
    (hphase : ∀ run target answer, phase = .answered run target answer →
      run.stage.successor = some target) (w' : ω) (run : AutonomyWorkflowRun)
    (target : WorkflowStage) (answer : ExecuteAnswer)
    (h : (Function.update s.phases w phase) w' = .answered run target answer) :
    run.stage.successor = some target := by
  rw [Function.update_apply] at h
  split at h
  · exact hphase run target answer h
  · exact hothers w' run target answer h

/-- **The step lemma.** -/
theorem inv_step (hinv : s.Inv) {a : WorkflowAction ω} {s' : WorkflowSystem ω}
    (h : WorkflowStep kind workerId s a s') : s'.Inv := by
  cases h with
  | same => exact hinv
  | moved _ phase hcopy hphase =>
    exact ⟨copies_inPhase hinv.copies fun run h => hinv.copies _ run (hcopy run h),
      target_inPhase hinv.target fun run target answer h => absurd h (hphase run target answer),
      hinv.exact, hinv.checkpointed⟩
  | claimed w leaseSeconds now hloaded hclaim =>
    refine ⟨copies_inPhase (fun w run h => (hinv.copies w run h).of_written rfl (Nat.le_succ _)) ?_,
      target_inPhase hinv.target (fun _ _ _ h => by cases h),
      ⟨hinv.exact.nodup, hinv.exact.mem_kinds, fun h => absurd rfl h⟩, hinv.checkpointed⟩
    intro run hrun
    obtain rfl := Option.some.inj hrun
    exact AutonomyWorkflowRun.copyOf_self rfl
  | executed w answer hworking htarget =>
    refine ⟨copies_inPhase hinv.copies ?_, target_inPhase hinv.target ?_, hinv.exact, hinv.checkpointed⟩
    · intro run hrun
      obtain rfl := Option.some.inj hrun
      exact hinv.copies w _ (by rw [hworking]; rfl)
    · rintro run target answer ⟨⟩
      exact htarget
  | @checkpointed w now run target r references hanswered hcurrent hadvanced =>
    have hcopy := hinv.copies w run (by rw [hanswered]; rfl)
    obtain rfl := hcopy.eq_stored hcurrent.1.symm
    have htarget := hinv.target w _ target _ hanswered
    refine ⟨copies_inPhase (fun w run h => (hinv.copies w run h).of_written rfl (le_refl _)) ?_,
      target_inPhase hinv.target (fun _ _ _ h => by cases h),
      (hinv.exact.checkpointed htarget hcopy.active hadvanced).1, ?_⟩
    · intro run hrun
      obtain rfl := Option.some.inj hrun
      exact AutonomyWorkflowRun.copyOf_self hcopy.active
    · show _ = WorkflowStage.order.take (target.index + 1)
      rw [WorkflowStage.take_of_successor htarget, ← hinv.checkpointed]
      simp [inPhase]
  | finished _ status reason hcopy hcurrent =>
    exact ⟨copies_inPhase (fun w run h => (hinv.copies w run h).of_written rfl (le_refl _))
        (fun _ h => by cases h),
      target_inPhase hinv.target (fun _ _ _ h => by cases h),
      ⟨hinv.exact.nodup, hinv.exact.mem_kinds, fun _ => rfl⟩, hinv.checkpointed⟩

omit [DecidableEq ω] in
theorem inv_created (runId : Uuid) (origin : TriggerOrigin) (idempotencyKey payloadSha256 : Text) :
    (created runId origin idempotencyKey payloadSha256 : WorkflowSystem ω).Inv :=
  ⟨fun _ _ h => (by cases h), fun _ _ _ _ h => (by cases h),
    ⟨List.nodup_nil, fun _ => Iff.rfl, fun _ => rfl⟩, rfl⟩

theorem step_next (hinv : s.Inv) (a : WorkflowAction ω) :
    WorkflowStep kind workerId s a ((machine kind workerId).next s a) := step_act hinv a

/-- **The run lemma.** -/
theorem inv_exec (hinv : s.Inv) (actions : List (WorkflowAction ω)) :
    ((machine kind workerId).exec s actions).Inv := by
  refine (machine kind workerId).exec_invariant (fun s a hinv => ?_) hinv actions
  exact inv_step hinv (step_next hinv a)

end Steps

end WorkflowSystem

end FuturesAgentOs
