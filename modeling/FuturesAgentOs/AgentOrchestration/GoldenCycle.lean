import FuturesAgentOs.LearningReview.DecisionJournal
import FuturesAgentOs.SharedKernel.Observability
import Mathlib.Data.Rat.Defs

namespace FuturesAgentOs

open PyModel

/-!
# The autonomy cycle

`agent_orchestration/v3_cycle.py`: a cycle calls its owners one after the other, and journals the
references that they return.  `str.lower`, a table of the runtime, is a parameter.

* `AutonomyGoldenCycle.runFull` — the whole cycle.
-/

inductive CycleOutcome where
  | NO_TRADE
  | TRADE
  | DEFER
  | REJECT
  deriving DecidableEq

structure CycleBudgetFields where
  maxSteps : ℤ := 16
  maxToolCalls : ℤ := 32
  timeoutSeconds : ℤ := 60
  deriving DecidableEq

def CycleBudgetFields.postInit (f : CycleBudgetFields) : Py Unit :=
  require (0 < f.maxSteps ∧ 0 < f.maxToolCalls ∧ 0 < f.timeoutSeconds)
    (valueError "cycle budgets must be positive integers")

instance : Dataclass CycleBudgetFields := ⟨CycleBudgetFields.postInit⟩

/-- What a cycle may take. -/
abbrev CycleBudget := Frozen CycleBudgetFields

structure CycleResult where
  outcome : CycleOutcome
  steps : List Text
  artifactRefs : List Text
  reason : Text
  deriving DecidableEq

/-! ### The appender -/

/-- `DecisionJournalAppender`, apart from its journal. -/
structure DecisionJournalAppender where
  now : RecordedAt
  correlationId : EntityId
  deriving DecidableEq

namespace DecisionJournalAppender

variable [Hashlib] (lower : Text → Text) (a : DecisionJournalAppender) (reference : Text)

/-- `reference.split(":", 1)[0].lower() if ":" in reference else "cycle"` -/
def eventType : Text :=
  if Text.ofChar ':' ∈ reference then lower (reference.takeWhile (· ≠ Text.ofChar ':')) else "cycle"

/-- The fact that a reference stands for. -/
def sourceEvent : Py SourceEvent := do
  let eventId ← EntityId.deterministic "source_event" reference
  let payloadHash ← canonicalSha256 (.obj [("reference", .str reference)])
  Frozen.make
    { eventId
      sourceContext := "autonomy_cycle"
      sourceVersion := 1
      eventType := eventType lower reference
      occurredAt := a.now
      availableAt := a.now
      payloadHash
      correlationId := a.correlationId }

/-- How the appender projects a fact. -/
def projection (source : SourceEvent) : DecisionJournal.Projection where
  source
  phase := .POST_HOC
  projectedAt := a.now

def call (j : DecisionJournal) : Outcome DecisionJournal Bool :=
  if reference.strip = [] then (.ok false, j)
  else
    match a.sourceEvent lower reference with
    | .error e => (.error e, j)
    | .ok source =>
      match j.append (a.projection source) with
      | (.ok _, j) => (.ok true, j)
      | (.error e, j) => (if IsTypeOrValueError e then .ok false else .error e, j)

end DecisionJournalAppender

/-! ### The cycle -/

/-- The owners that a cycle calls; `execute` may return something that is no `CycleOutcome`. -/
structure CycleOwners where
  snapshot : Py Text
  opportunityScan : Text → Py Text
  strategy : Text → Py Text
  critic : Text → Py Text
  authorize : Text → Text → Py Text
  risk : Text → Text → Py Text
  execute : Text → Py (Option CycleOutcome)
  protect : Text → Py Text
  notify : Text → Py Text
  review : Text → Py Text

namespace AutonomyGoldenCycle

/-- `steps` in `run_full`. -/
def steps : List Text :=
  ["SNAPSHOT", "OPPORTUNITY_SCAN", "STRATEGY_DELIBERATION", "PRE_TRADE_CRITIQUE",
    "AUTHORIZATION_BASIS", "RISK_DECISION", "SIMULATED_EXECUTION", "POSITION_PROTECTION",
    "IMPORTANT_NOTIFICATION", "POST_TRADE_REVIEW"]

/-- A call of an owner that is skipped without its argument. -/
def orSkip (given : Text) (call : Py Text) : Py Text := if given = [] then .ok [] else call

/-- What the owners say of a candidate before it is executed. -/
structure Evidence where
  draft : Text
  critique : Text
  basis : Text
  riskResult : Text
  deriving DecidableEq

/-- The calls from `strategy` to `risk`. -/
def deliberate (owners : CycleOwners) (candidate : Text) : Py Evidence := do
  let draft ← owners.strategy candidate
  let critique ← orSkip draft (owners.critic draft)
  let basis ← orSkip critique (owners.authorize draft critique)
  let riskResult ← orSkip basis (owners.risk draft basis)
  .ok ⟨draft, critique, basis, riskResult⟩

/-- What the owners say after the execution. -/
structure Aftermath where
  protection : Text
  notification : Text
  reflection : Text
  deriving DecidableEq

/-- The calls of `protect`, `notify` and `review`. -/
def conclude (owners : CycleOwners) (riskResult : Text) : Py Aftermath := do
  let protection ← owners.protect riskResult
  let notification ← owners.notify riskResult
  let reflection ← owners.review riskResult
  .ok ⟨protection, notification, reflection⟩

section

variable {σ : Type} (journalAppend : Option (Text → σ → Outcome σ Bool))

/-- `journal_append is None or journal_append(reference)` -/
def journaled (reference : Text) (s : σ) : Outcome σ Bool :=
  match journalAppend with
  | none => (.ok true, s)
  | some append => append reference s

/-- The loop that journals the artifacts of a cycle, up to the first that fails. -/
def journalAll : List Text → σ → Outcome σ Bool
  | [], s => (.ok true, s)
  | artifact :: rest, s =>
    andThen (journaled journalAppend artifact s) fun appended s =>
      if appended then journalAll rest s else (.ok false, s)

variable (budget : CycleBudget) (owners : CycleOwners) (elapsed : ℚ)

/-- `run_full` once the scan has found a candidate. -/
def pursue (snap candidate : Text) (s : σ) : Outcome σ CycleResult :=
  andThen (deliberate owners candidate, s) fun ev s =>
  if ev.draft = [] ∨ ev.critique = [] ∨ ev.basis = [] ∨ ev.riskResult = [] then
    (.ok ⟨.DEFER, steps.take 5, [snap, candidate, ev.draft, ev.critique],
      "incomplete owner evidence"⟩, s)
  else
    let refs := [snap, candidate, ev.draft, ev.critique, ev.basis, ev.riskResult]
    andThen (owners.execute ev.riskResult, s) fun outcome s =>
    match outcome with
    | none => (.ok ⟨.REJECT, steps.take 7, refs, "invalid execution outcome"⟩, s)
    | some outcome =>
      andThen (conclude owners ev.riskResult, s) fun after s =>
      if after.protection = [] ∨ after.notification = [] ∨ after.reflection = [] then
        (.ok ⟨.DEFER, steps.take 8, refs, "incomplete post-trade owner evidence"⟩, s)
      else
        andThen (journalAll journalAppend [candidate, ev.draft, ev.critique, ev.basis, ev.riskResult,
          after.protection, after.notification, after.reflection] s) fun appended s =>
        if appended = false then (.ok ⟨.DEFER, steps, [], "journal append failed"⟩, s)
        else if budget.fields.timeoutSeconds < elapsed then
          (.ok ⟨.DEFER, steps, refs, "cycle timeout"⟩, s)
        else
          (.ok ⟨outcome, steps, refs ++ [after.protection, after.notification, after.reflection],
            "completed"⟩, s)

/-- `run_full`, with the time that passes until its last line. -/
def runFull (s : σ) : Outcome σ CycleResult :=
  if budget.fields.maxSteps < steps.length ∨ budget.fields.maxToolCalls < steps.length then
    (.ok ⟨.DEFER, steps, [], "cycle budget exceeded"⟩, s)
  else
    andThen (owners.snapshot, s) fun snap s =>
    if snap = [] then (.ok ⟨.DEFER, steps.take 1, [], "missing snapshot"⟩, s)
    else
      andThen (journaled journalAppend snap s) fun appended s =>
      if appended = false then (.ok ⟨.DEFER, steps.take 1, [snap], "journal append failed"⟩, s)
      else
        andThen (owners.opportunityScan snap, s) fun candidate s =>
        if candidate = [] then
          andThen (journaled journalAppend "NO_TRADE" s) fun appended s =>
          if appended = false then
            (.ok ⟨.DEFER, steps.take 2, [snap], "journal append failed"⟩, s)
          else (.ok ⟨.NO_TRADE, steps.take 2, [snap], "no opportunity"⟩, s)
        else pursue journalAppend budget owners elapsed snap candidate s

end

end AutonomyGoldenCycle

end FuturesAgentOs
