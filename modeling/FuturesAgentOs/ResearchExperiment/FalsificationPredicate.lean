import FuturesAgentOs.SharedKernel.JsonObject

namespace FuturesAgentOs

open PyModel

/-!
# Falsification predicates

`research_experiment/mvp_r_005/predicate.py`: a hypothesis is rejected unless all the clauses of
its predicate hold.  The metrics of an experiment are texts under their names; what a name has no
value for is missing.

* `evaluateClause`, `evaluateFalsificationPredicate` — the evaluation over a map of metrics.
-/

/-! ### Clauses -/

inductive PredicateClauseKind where
  | aggregatePrimaryBeatsControl
  | primaryPositiveAndBeatsControl
  | eachOosFoldPrimaryBeatsControl
  | atLeastNOosFoldsAboveThreshold
  | minimumFullWindowSignalCount
  | requiredOosFoldCount
  deriving DecidableEq

namespace PredicateClauseKind

def value : PredicateClauseKind → Text
  | aggregatePrimaryBeatsControl => "aggregate_primary_beats_control"
  | primaryPositiveAndBeatsControl => "primary_positive_and_beats_control"
  | eachOosFoldPrimaryBeatsControl => "each_oos_fold_primary_beats_control"
  | atLeastNOosFoldsAboveThreshold => "at_least_n_oos_folds_above_threshold"
  | minimumFullWindowSignalCount => "minimum_full_window_signal_count"
  | requiredOosFoldCount => "required_oos_fold_count"

/-- The kinds, in the order of the enumeration. -/
def all : List PredicateClauseKind :=
  [aggregatePrimaryBeatsControl, primaryPositiveAndBeatsControl, eachOosFoldPrimaryBeatsControl,
    atLeastNOosFoldsAboveThreshold, minimumFullWindowSignalCount, requiredOosFoldCount]

end PredicateClauseKind

def controlByPrimary : List (Text × Text) := [
  ("signal_accuracy", "counterfactual_signal_accuracy"),
  ("proxy_net_return", "counterfactual_net_return"),
  ("stressed_net_return", "counterfactual_stressed_net_return"),
  ("positive_fold_ratio", "counterfactual_positive_fold_ratio")]

/-- `FOLD_METRIC_FIELDS`: what follows the number of the fold in the names of the two fields. -/
def foldMetricFields : List (Text × Text × Text) := [
  ("signal_accuracy", "_signal_accuracy", "_counterfactual_signal_accuracy"),
  ("proxy_net_return", "_proxy_net_return", "_counterfactual_net_return")]

/-- The name of a field of a fold. -/
def foldField (index suffix : Text) : Text := ("fold_" : Text) ++ index ++ suffix

/-- `str(value)` of a text or none. -/
def strOrNone (value : Option Text) : Text := value.getD "None"

/-- `str(value)` of an integer or none. -/
def intOrNone (value : Option ℤ) : Text := strOrNone (value.map Text.ofInt)

structure PredicateClauseFields where
  kind : PredicateClauseKind
  metric : Option Text
  threshold : Option Text
  foldN : Option ℤ
  minimumCount : Option ℤ
  deriving DecidableEq

/-! ### Decimal numbers with infinities and NaN -/

/-- A value of `Decimal`. -/
inductive DecimalNumber where
  | finite (d : Decimal)
  | infinite (neg : Bool)
  | nan
  deriving DecidableEq

namespace DecimalNumber

/-- `Decimal(t)` -/
def ofText (t : Text) : Py DecimalNumber :=
  let (neg, body) := Decimal.parseSign (Decimal.normalized t)
  let word := body.map Decimal.lower
  if word = ("inf" : Text) ∨ word = ("infinity" : Text) then .ok (.infinite neg)
  else if Decimal.isSpecial body = true then .ok .nan
  else
    match Decimal.parseNumber neg body with
    | some d => .ok (.finite d)
    | none => .error ⟨.invalidOperation, "[<class 'decimal.ConversionSyntax'>]"⟩

/-- `a < b` of numbers. -/
def Less : DecimalNumber → DecimalNumber → Prop
  | finite a, finite b => a < b
  | finite _, infinite neg => neg = false
  | infinite neg, finite _ => neg = true
  | infinite neg, infinite neg' => neg = true ∧ neg' = false
  | _, _ => False

instance (a b : DecimalNumber) : Decidable (Less a b) := by
  cases a <;> cases b <;> unfold Less <;> infer_instance

/-- A comparison, which NaN has none of. -/
def compare (a b : DecimalNumber) (answer : Prop) [Decidable answer] : Py Bool :=
  if a = nan ∨ b = nan then .error ⟨.invalidOperation, "[<class 'decimal.InvalidOperation'>]"⟩
  else .ok (decide answer)

/-- `a > b` -/
def greater (a b : DecimalNumber) : Py Bool := compare a b (Less b a)

/-- `a <= b` -/
def lessEqual (a b : DecimalNumber) : Py Bool := compare a b (¬ Less b a)

/-- `a < b` -/
def less (a b : DecimalNumber) : Py Bool := compare a b (Less a b)

end DecimalNumber

namespace PredicateClauseFields

open PredicateClauseKind

/-- The check of the metric. -/
def checkMetric (f : PredicateClauseFields) : Py Unit :=
  match f.kind with
  | aggregatePrimaryBeatsControl | primaryPositiveAndBeatsControl =>
    require (∃ metric ∈ f.metric, metric ∈ controlByPrimary.map Prod.fst)
      (valueError "predicate clause metric must be a registered primary")
  | eachOosFoldPrimaryBeatsControl | atLeastNOosFoldsAboveThreshold =>
    require (∃ metric ∈ f.metric, metric ∈ foldMetricFields.map Prod.fst)
      (valueError (("fold predicate metric must have registered per-fold ResultPacket fields; " : Text)
        ++ strOrNone f.metric ++ (" cannot be used" : Text)))
  | kind => require (f.metric = none) (valueError (kind.value ++ (" must not set a metric" : Text)))

/-- The check of the threshold. -/
def checkThreshold (f : PredicateClauseFields) : Py Unit :=
  if f.kind = atLeastNOosFoldsAboveThreshold then
    match f.threshold, f.foldN with
    | some threshold, some _ => do
      let _ ← DecimalNumber.ofText threshold
      .ok ()
    | _, _ => .error (valueError "at-least-N clause requires threshold and fold_n")
  else
    require (f.threshold = none)
      (valueError (f.kind.value ++ (" must not set a threshold" : Text)))

/-- The check of the number of folds. -/
def checkFoldN (f : PredicateClauseFields) : Py Unit :=
  if f.kind = requiredOosFoldCount then
    require (f.foldN ≠ none) (valueError "required OOS fold count requires fold_n")
  else
    require (f.kind = atLeastNOosFoldsAboveThreshold ∨ f.foldN = none)
      (valueError (f.kind.value ++ (" must not set fold_n" : Text)))

/-- The check of the minimum count. -/
def checkMinimumCount (f : PredicateClauseFields) : Py Unit :=
  if f.kind = minimumFullWindowSignalCount then
    require (f.minimumCount ≠ none) (valueError "minimum sample clause requires minimum_count")
  else
    require (f.minimumCount = none)
      (valueError (f.kind.value ++ (" must not set minimum_count" : Text)))

def postInit (f : PredicateClauseFields) : Py Unit := do
  f.checkMetric
  f.checkThreshold
  f.checkFoldN
  f.checkMinimumCount

end PredicateClauseFields

instance : Dataclass PredicateClauseFields := ⟨PredicateClauseFields.postInit⟩

abbrev PredicateClause := Frozen PredicateClauseFields

namespace PredicateClause

open PredicateClauseKind

/-- The members of `payload`. -/
def payloadItems (f : PredicateClauseFields) : List (Text × Json) := [
  ("kind", .str f.kind.value),
  ("metric", jsonText? f.metric),
  ("threshold", jsonText? f.threshold),
  ("fold_n", jsonInt? f.foldN),
  ("minimum_count", jsonInt? f.minimumCount)]

def payload (c : PredicateClause) : Json := .obj (payloadItems c.fields)

/-- `", ".join(…)` of the names of the first folds. -/
def foldNames (suffix : Text) (count : ℕ) : Text :=
  Json.commaSpaces ((List.range' 1 count).map fun index => foldField (Text.ofNat index) suffix)

/-- `render`.  A metric of a clause is registered, so that the lookups find something. -/
def render (c : PredicateClause) : Text :=
  let f := c.fields
  let metric := f.metric.getD []
  let control := (controlByPrimary.lookup metric).getD []
  let fields := (foldMetricFields.lookup metric).getD ([], [])
  match f.kind with
  | aggregatePrimaryBeatsControl => metric ++ (" > " : Text) ++ control
  | primaryPositiveAndBeatsControl =>
    metric ++ (" > 0 and " : Text) ++ metric ++ (" > " : Text) ++ control
  | eachOosFoldPrimaryBeatsControl =>
    ("each evaluated OOS " : Text) ++ foldField "N" fields.1 ++ (" > " : Text)
      ++ foldField "N" fields.2 ++ (" (registered metric " : Text) ++ metric
      ++ ("); positive_fold_ratio must not substitute the registered per-fold metric" : Text)
  | atLeastNOosFoldsAboveThreshold =>
    ("at least " : Text) ++ intOrNone f.foldN ++ (" OOS folds have " : Text) ++ metric
      ++ (" > " : Text) ++ strOrNone f.threshold ++ (" using " : Text)
      ++ foldNames fields.1 (f.foldN.getD 0).toNat
  | minimumFullWindowSignalCount =>
    ("full-window signal_count >= " : Text) ++ intOrNone f.minimumCount
      ++ (" (minimum_samples constrains train_bars/full-window eligibility, not OOS sample count)" :
        Text)
  | requiredOosFoldCount =>
    ("required authentic OOS fold_count is " : Text) ++ intOrNone f.foldN
      ++ ("; do not synthesize missing folds" : Text)

end PredicateClause

structure FalsificationPredicateFields where
  clauses : List PredicateClause
  deriving DecidableEq

def FalsificationPredicateFields.postInit (f : FalsificationPredicateFields) : Py Unit :=
  require (f.clauses ≠ []) (valueError "falsification predicate requires at least one clause")

instance : Dataclass FalsificationPredicateFields := ⟨FalsificationPredicateFields.postInit⟩

abbrev FalsificationPredicate := Frozen FalsificationPredicateFields

namespace FalsificationPredicate

/-- `PREDICATE_SCHEMA_VERSION` -/
def schemaVersion : Text := "mvp-r-005.falsification-predicate.v1"

def payload (p : FalsificationPredicate) : Json := .obj [
  ("schema_version", .str schemaVersion),
  ("clauses", .arr (p.fields.clauses.map PredicateClause.payload))]

/-- `"; ".join(…)` -/
def semicolons : List Text → Text
  | [] => []
  | [t] => t
  | t :: ts => t ++ ("; " : Text) ++ semicolons ts

def render (p : FalsificationPredicate) : Text :=
  ("REJECT unless all of: " : Text) ++ semicolons (p.fields.clauses.map PredicateClause.render)
    ++ (". positive_fold_ratio is OOS net-positive fold share and must not substitute the " : Text)
    ++ ("registered per-fold metric. Any FAIL clause yields REJECT. INSUFFICIENT yields " : Text)
    ++ ("NEED_MORE_DATA only when no clause FAILed and missing data could still change the " : Text)
    ++ ("conclusion." : Text)

end FalsificationPredicate

/-! ### Evaluation -/

inductive ClauseOutcome where
  | PASS | FAIL | INSUFFICIENT
  deriving DecidableEq

inductive FinalVerdict where
  | ACCEPT | REJECT | MODIFY | NEED_MORE_DATA
  deriving DecidableEq

structure PredicateEvaluation where
  outcome : FinalVerdict
  clauseResults : List (PredicateClauseKind × ClauseOutcome)
  missingMetrics : List Text
  deriving DecidableEq

/-- The metrics of an experiment. -/
abbrev Metrics := Dict Text Text

/-- What one fold says to a clause. -/
inductive FoldStatus where
  | passed
  | failed
  /-- the names without a value -/
  | missing (names : List Text)
  deriving DecidableEq

namespace FoldStatus

/-- The names that a fold is missing. -/
def missingNames : FoldStatus → List Text
  | missing names => names
  | _ => []

end FoldStatus

namespace Metrics

/-- `name not in metrics` -/
def lacks (metrics : Metrics) (name : Text) : Bool := (metrics.get? name).isNone

/-- `Decimal(metrics[name])` of a name with a value. -/
def decimal (metrics : Metrics) (name : Text) : Py DecimalNumber :=
  match metrics.get? name with
  | some value => DecimalNumber.ofText value
  | none => .error ⟨.keyError, name⟩

/-- `int(metrics[name])` of a name with a value. -/
def int (metrics : Metrics) (name : Text) : Py ℤ :=
  match metrics.get? name with
  | some value => intOfStr value
  | none => .error ⟨.keyError, name⟩

def beatsControl (metrics : Metrics) (metric control : Text) : Py (ClauseOutcome × List Text) :=
  let missing := [metric, control].filter metrics.lacks
  if missing ≠ [] then .ok (.INSUFFICIENT, missing)
  else do
    let value ← metrics.decimal metric
    let control ← metrics.decimal control
    let beats ← value.greater control
    .ok (if beats = true then .PASS else .FAIL, [])

/-- One turn of the loop of `_each_fold_beats_control`. -/
def foldBeatsControl (metrics : Metrics) (fields : Text × Text) (index : ℕ) : Py FoldStatus :=
  let primary := foldField (Text.ofNat index) fields.1
  let control := foldField (Text.ofNat index) fields.2
  if metrics.lacks primary = true ∨ metrics.lacks control = true then
    .ok (.missing ([primary, control].filter metrics.lacks))
  else do
    let value ← metrics.decimal primary
    let control ← metrics.decimal control
    let beaten ← value.lessEqual control
    .ok (if beaten = true then .failed else .passed)

def eachFoldBeatsControl (metrics : Metrics) (fields : Text × Text) :
    Py (ClauseOutcome × List Text) :=
  if metrics.lacks "fold_count" = true then .ok (.INSUFFICIENT, ["fold_count"])
  else do
    let foldCount ← metrics.int "fold_count"
    if foldCount < 1 then .ok (.INSUFFICIENT, [foldField (Text.ofNat 1) fields.1])
    else do
      let statuses ← (List.range' 1 foldCount.toNat).mapM (metrics.foldBeatsControl fields)
      let missing := statuses.flatMap FoldStatus.missingNames
      if FoldStatus.failed ∈ statuses then .ok (.FAIL, [])
      else if missing ≠ [] then .ok (.INSUFFICIENT, missing)
      else .ok (.PASS, [])

/-- The fold has a signal count below one. -/
def hasNoSignals (metrics : Metrics) (index : ℕ) : Py Bool :=
  let countName := foldField (Text.ofNat index) "_signal_count"
  if metrics.lacks countName = true then .ok false
  else do
    let count ← metrics.decimal countName
    count.less (.finite (Decimal.ofNat 1))

/-- One turn of the loop of `_at_least_n_folds`. -/
def foldAboveThreshold (metrics : Metrics) (suffix : Text) (threshold : DecimalNumber)
    (index : ℕ) : Py FoldStatus :=
  let name := foldField (Text.ofNat index) suffix
  if metrics.lacks name = true then .ok (.missing [name])
  else do
    let skipped ← metrics.hasNoSignals index
    if skipped = true then .ok .failed
    else do
      let value ← metrics.decimal name
      let above ← value.greater threshold
      .ok (if above = true then .passed else .failed)

def stoppedEarly (metrics : Metrics) : Bool := metrics.get? "stopped_early" = some "true"

/-- How many folds may still pass. -/
def remaining (metrics : Metrics) (foldCount planned foldN : ℤ) (missing : ℕ) : ℤ :=
  if metrics.stoppedEarly = true then 0
  else
    let planned' := max 0 (planned - foldCount) + missing
    if metrics.lacks "planned_fold_count" = true then
      max planned' (max 0 (foldN - foldCount) + missing)
    else planned'

/-- `planned_fold_count`, which is the number of folds where there is none. -/
def plannedFoldCount (metrics : Metrics) (foldCount : ℤ) : Py ℤ :=
  if metrics.lacks "planned_fold_count" = true then .ok foldCount
  else metrics.int "planned_fold_count"

/-- The names of folds to come, from the one after `first` to `last`. -/
def laterFolds (first last : ℤ) (suffix : Text) : List Text :=
  (List.range (last - first).toNat).map fun k => foldField (Text.ofInt (first + 1 + k)) suffix

def atLeastNFolds (metrics : Metrics) (suffix threshold : Text) (foldN : ℤ) :
    Py (ClauseOutcome × List Text) :=
  if metrics.lacks "fold_count" = true then .ok (.INSUFFICIENT, ["fold_count"])
  else do
    let foldCount ← metrics.int "fold_count"
    let planned ← metrics.plannedFoldCount foldCount
    let threshold ← DecimalNumber.ofText threshold
    let statuses ← (List.range' 1 foldCount.toNat).mapM
      (metrics.foldAboveThreshold suffix threshold)
    let missing := statuses.flatMap FoldStatus.missingNames
    let passed := statuses.count .passed
    if foldN ≤ passed then .ok (.PASS, [])
    else if passed + metrics.remaining foldCount planned foldN missing.length < foldN then
      .ok (.FAIL, [])
    else
      .ok (.INSUFFICIENT,
        if missing ≠ [] then missing else laterFolds foldCount (max foldN planned) suffix)

def fullWindowSignalCount (metrics : Metrics) : Py (Option ℤ) :=
  if metrics.lacks "full_window_signal_count" = false then
    (metrics.int "full_window_signal_count").map some
  else if metrics.lacks "signal_count" = false then (metrics.int "signal_count").map some
  else .ok none

/-- The clause on the number of signals. -/
def minimumSignals (metrics : Metrics) (minimumCount : ℤ) : Py (ClauseOutcome × List Text) := do
  let count ← metrics.fullWindowSignalCount
  match count with
  | none => .ok (.INSUFFICIENT, ["signal_count"])
  | some count => .ok (if minimumCount ≤ count then .PASS else .FAIL, [])

/-- The clause on the number of folds. -/
def requiredFolds (metrics : Metrics) (foldN : ℤ) : Py (ClauseOutcome × List Text) :=
  if metrics.lacks "fold_count" = true then .ok (.INSUFFICIENT, ["fold_count"])
  else do
    let actual ← metrics.int "fold_count"
    if foldN ≤ actual then .ok (.PASS, [])
    else if metrics.stoppedEarly = true then .ok (.FAIL, [])
    else .ok (.INSUFFICIENT, laterFolds actual foldN "_signal_accuracy")

/-- The clause on a positive metric. -/
def positiveAndBeatsControl (metrics : Metrics) (metric control : Text) :
    Py (ClauseOutcome × List Text) :=
  if metrics.lacks metric = true then .ok (.INSUFFICIENT, [metric])
  else do
    let value ← metrics.decimal metric
    let negative ← value.lessEqual (.finite (Decimal.ofNat 0))
    if negative = true then .ok (.FAIL, []) else metrics.beatsControl metric control

end Metrics

/-- An assertion of `_evaluate_clause`, or a lookup that cannot fail for a clause. -/
def orAssert {α : Type} (value : Option α) : Py α :=
  match value with
  | some a => .ok a
  | none => .error ⟨.assertionError, ""⟩

def evaluateClause (c : PredicateClause) (metrics : Metrics) : Py (ClauseOutcome × List Text) :=
  match c.fields.kind with
  | .minimumFullWindowSignalCount => do
    let minimumCount ← orAssert c.fields.minimumCount
    metrics.minimumSignals minimumCount
  | .requiredOosFoldCount => do
    let foldN ← orAssert c.fields.foldN
    metrics.requiredFolds foldN
  | .aggregatePrimaryBeatsControl => do
    let metric ← orAssert c.fields.metric
    let control ← orAssert (controlByPrimary.lookup metric)
    metrics.beatsControl metric control
  | .primaryPositiveAndBeatsControl => do
    let metric ← orAssert c.fields.metric
    let control ← orAssert (controlByPrimary.lookup metric)
    metrics.positiveAndBeatsControl metric control
  | .eachOosFoldPrimaryBeatsControl => do
    let metric ← orAssert c.fields.metric
    let fields ← orAssert (foldMetricFields.lookup metric)
    metrics.eachFoldBeatsControl fields
  | .atLeastNOosFoldsAboveThreshold => do
    let foldN ← orAssert c.fields.foldN
    let threshold ← orAssert c.fields.threshold
    let metric ← orAssert c.fields.metric
    let fields ← orAssert (foldMetricFields.lookup metric)
    metrics.atLeastNFolds fields.1 threshold foldN

/-- The verdict on the outcomes of the clauses. -/
def verdictOf (outcomes : List ClauseOutcome) : FinalVerdict :=
  if ClauseOutcome.FAIL ∈ outcomes then .REJECT
  else if ClauseOutcome.INSUFFICIENT ∈ outcomes then .NEED_MORE_DATA
  else .ACCEPT

def evaluateFalsificationPredicate (p : FalsificationPredicate) (metrics : Metrics) :
    Py PredicateEvaluation := do
  let results ← p.fields.clauses.mapM fun clause => evaluateClause clause metrics
  .ok {
    outcome := verdictOf (results.map Prod.fst)
    clauseResults := (p.fields.clauses.map fun clause => clause.fields.kind).zip
      (results.map Prod.fst)
    missingMetrics := (results.flatMap Prod.snd).eraseDups }

/-! ### Maps with more metrics -/

/-- The name of a metric of one fold. -/
def IsFoldMetric (name : Text) : Prop :=
  ∃ index : ℕ, ∃ fields ∈ foldMetricFields.map Prod.snd,
    name = foldField (Text.ofNat index) fields.1 ∨ name = foldField (Text.ofNat index) fields.2

/-- `m'` has values for more metrics of single folds, and is `m` otherwise. -/
structure Metrics.Extends (m m' : Metrics) : Prop where
  keeps : ∀ name value, m.get? name = some value → m'.get? name = some value
  adds : ∀ name, m.get? name = none → m'.get? name ≠ none → IsFoldMetric name

/-- All values are decimal numbers, the flag apart. -/
def Metrics.AllDecimal (m : Metrics) : Prop :=
  ∀ name value, m.get? name = some value → name ≠ "stopped_early" →
    ∃ number, DecimalNumber.ofText value = .ok number ∧ number ≠ .nan

variable {name : Text} {α : Type}

section

variable {m m' : Metrics}

variable {name : Text}

theorem Metrics.AllDecimal.decimal (h : m.AllDecimal) (hname : m.lacks name = false)
    (hflag : name ≠ "stopped_early") : ∃ number, m.decimal name = .ok number ∧ number ≠ .nan := by
  rw [Metrics.lacks, Option.isNone_eq_false_iff, Option.isSome_iff_exists] at hname
  obtain ⟨value, hget⟩ := hname
  rw [Metrics.decimal, hget]
  exact h name value hget hflag

end

/-! ### One fold -/

namespace FoldStatus

/-- One for a fold that passed. -/
def score (s : FoldStatus) : ℕ := if s = passed then 1 else 0

/-- With more metrics a fold says what it said, unless it was missing some; a missing name makes
for one pass at most. -/
structure Settles (s s' : FoldStatus) : Prop where
  stays : s.missingNames = [] → s' = s
  weight : s'.score + s'.missingNames.length ≤ s.score + s.missingNames.length

theorem Settles.refl (s : FoldStatus) : Settles s s := ⟨fun _ => rfl, Nat.le_refl _⟩

variable {ss ss' : List FoldStatus}

end FoldStatus

section

variable {m m' : Metrics} {fields : Text × Text} {index : ℕ}

end

/-! ### One clause -/

section

variable {m m' : Metrics} {fields : Text × Text} {suffix threshold : Text} {foldN : ℤ}
  {o o' : ClauseOutcome} {ms ms' : List Text}

end

/-! ### Clauses of a predicate -/

section

variable {c : PredicateClause} {m m' : Metrics} {foldN : ℤ} {suffix threshold : Text}
  {o : ClauseOutcome} {ms : List Text}

end

/-! ### Predicates -/

section

variable {p : FalsificationPredicate} {m m' : Metrics} {ev : PredicateEvaluation}

theorem verdictOf_cases (outcomes : List ClauseOutcome) :
    (verdictOf outcomes = .REJECT ↔ ClauseOutcome.FAIL ∈ outcomes)
      ∧ (verdictOf outcomes = .ACCEPT ↔ ∀ o ∈ outcomes, o = .PASS)
      ∧ (verdictOf outcomes = .REJECT ∨ verdictOf outcomes = .ACCEPT
        ∨ verdictOf outcomes = .NEED_MORE_DATA) := by
  unfold verdictOf
  by_cases hfail : ClauseOutcome.FAIL ∈ outcomes
  · rw [if_pos hfail]
    exact ⟨by simp [hfail], ⟨by rintro ⟨⟩, fun h => absurd (h _ hfail) (by decide)⟩, .inl rfl⟩
  · rw [if_neg hfail]
    by_cases hopen : ClauseOutcome.INSUFFICIENT ∈ outcomes
    · rw [if_pos hopen]
      exact ⟨by simp [hfail], ⟨by rintro ⟨⟩, fun h => absurd (h _ hopen) (by decide)⟩,
        .inr (.inr rfl)⟩
    · rw [if_neg hopen]
      refine ⟨by simp [hfail], ⟨fun _ o ho => ?_, fun _ => rfl⟩, .inr (.inl rfl)⟩
      cases o with
      | PASS => rfl
      | FAIL => exact absurd ho hfail
      | INSUFFICIENT => exact absurd ho hopen

/-- The verdict in terms of the clauses. -/
theorem evaluate_eq_ok (h : evaluateFalsificationPredicate p m = .ok ev) :
    (ev.outcome = .REJECT ↔ ∃ c ∈ p.fields.clauses, ∃ ms, evaluateClause c m = .ok (.FAIL, ms))
      ∧ (ev.outcome = .ACCEPT
        ↔ ∀ c ∈ p.fields.clauses, ∃ ms, evaluateClause c m = .ok (.PASS, ms))
      ∧ (ev.outcome = .REJECT ∨ ev.outcome = .ACCEPT ∨ ev.outcome = .NEED_MORE_DATA)
      ∧ ∀ c ∈ p.fields.clauses, ∃ answer, evaluateClause c m = .ok answer := by
  obtain ⟨results, hresults, h⟩ := Py.of_bind h
  obtain rfl := Except.ok.inj h
  have hall := Py.mem_of_mapM hresults
  obtain ⟨hreject, haccept, hthree⟩ := verdictOf_cases (results.map Prod.fst)
  have hback := Py.exists_of_mem_mapM hresults
  refine ⟨hreject.trans ⟨fun hmem => ?_, ?_⟩, haccept.trans ⟨fun hpass c hc => ?_, ?_⟩, hthree,
    fun c hc => (hall c hc).imp fun answer h => h.2⟩
  · obtain ⟨answer, hanswer, hfail⟩ := List.mem_map.mp hmem
    obtain ⟨c, hc, heq⟩ := hback answer hanswer
    exact ⟨c, hc, answer.2, by rw [heq, ← hfail]⟩
  · rintro ⟨c, hc, ms, heq⟩
    obtain ⟨answer, hanswer, heq'⟩ := hall c hc
    rw [heq, Except.ok.injEq] at heq'
    exact List.mem_map.mpr ⟨answer, hanswer, by rw [← heq']⟩
  · obtain ⟨answer, hanswer, heq⟩ := hall c hc
    have hfst := hpass answer.1 (List.mem_map_of_mem hanswer)
    exact ⟨answer.2, by rw [heq, ← hfst]⟩
  · intro hpass o ho
    obtain ⟨answer, hanswer, rfl⟩ := List.mem_map.mp ho
    obtain ⟨c, hc, heq⟩ := hback answer hanswer
    obtain ⟨ms, heq'⟩ := hpass c hc
    rw [heq, Except.ok.injEq] at heq'
    rw [heq']

end

/-! ### A run that was stopped -/

theorem Metrics.Extends.set {m : Metrics} (value : Text) (hnew : m.get? name = none)
    (hname : IsFoldMetric name) : m.Extends (m.set name value) where
  keeps := fun name' value' h => by
    have hne : name' ≠ name := by
      rintro rfl
      rw [hnew] at h
      cases h
    rw [Dict.get?_set_of_ne _ _ hne, h]
  adds := fun name' hnone hsome => by
    by_cases heq : name' = name
    · exact heq ▸ hname
    · rw [Dict.get?_set_of_ne _ _ heq] at hsome
      exact absurd hnone hsome

theorem Metrics.AllDecimal.set {m : Metrics} (h : m.AllDecimal) {value : Text}
    {number : DecimalNumber} (hvalue : DecimalNumber.ofText value = .ok number)
    (hnan : number ≠ .nan) : Metrics.AllDecimal (m.set name value) := by
  intro name' value' hget hflag
  rw [Dict.get?_set] at hget
  split at hget
  · rw [← Option.some.inj hget]
    exact ⟨number, hvalue, hnan⟩
  · exact h name' value' hget hflag

/-- At least one fold with an accuracy above one half. -/
def halfAccurate : PredicateClause :=
  ⟨⟨.atLeastNOosFoldsAboveThreshold, some "signal_accuracy", some "0.50", some 1, none⟩, by decide⟩

def halfAccuratePredicate : FalsificationPredicate := ⟨⟨[halfAccurate]⟩, by decide⟩

end FuturesAgentOs
