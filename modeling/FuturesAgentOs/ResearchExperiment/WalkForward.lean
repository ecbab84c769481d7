import FuturesAgentOs.PyModel.DecimalFormat
import FuturesAgentOs.PyModel.TextOrder

namespace FuturesAgentOs

open PyModel

/-!
# Walk-forward folds

`research_experiment/walk_forward.py` plans the folds of an out-of-sample evaluation: a training
window, an embargo gap and a test window, which move through the samples in steps.
`ScaleValidationRunner._walk_forward` in `v4_003.py` moves through its samples in the same way.

* `walk_forward_windows` — the plan has exactly these folds, the plan and the evaluation of fewer
  samples are the beginning of those of more, and the runner has the same test windows.
-/

/-! ### A cursor that moves in steps -/

/-- How often a cursor is at most `last` that starts at `start` and moves by `step`. -/
def cursorCount (start last step : ℤ) : ℕ := ((last - start) / step + 1).toNat

section

variable {start last step : ℤ}

theorem lt_cursorCount_iff (hstep : 1 ≤ step) (k : ℕ) :
    k < cursorCount start last step ↔ start + k * step ≤ last := by
  have hdiv : (k : ℤ) ≤ (last - start) / step ↔ k * step ≤ last - start :=
    Int.le_ediv_iff_mul_le (by omega)
  rw [cursorCount]
  omega

/-- The cursor moves once more when it is at most `last`. -/
theorem cursorCount_of_le (hstep : 1 ≤ step) (h : start ≤ last) :
    cursorCount start last step = cursorCount (start + step) last step + 1 := by
  have hnext : (last - (start + step)) / step = (last - start) / step - 1 := by
    rw [show last - (start + step) = last - start + -1 * step by ring,
      Int.add_mul_ediv_right _ _ (by omega)]
    omega
  have hpos : 0 ≤ (last - start) / step := Int.ediv_nonneg (by omega) (by omega)
  rw [cursorCount, cursorCount, hnext]
  omega

theorem cursorCount_mono (hstep : 1 ≤ step) {last' : ℤ} (h : last ≤ last') :
    cursorCount start last step ≤ cursorCount start last' step := by
  have hdiv : (last - start) / step ≤ (last' - start) / step :=
    Int.ediv_le_ediv (by omega) (by omega)
  rw [cursorCount, cursorCount]
  omega

end

/-! ### Windows -/

/-- The lengths of the windows and the step between folds, in samples. -/
structure FoldLengths where
  trainBars : ℤ
  testBars : ℤ
  stepBars : ℤ
  embargoBars : ℤ
  deriving DecidableEq

structure WalkForwardFoldWindowFields where
  foldIndex : ℤ
  trainStart : ℤ
  trainEnd : ℤ
  embargoStart : ℤ
  embargoEnd : ℤ
  testStart : ℤ
  testEnd : ℤ
  deriving DecidableEq

def WalkForwardFoldWindowFields.postInit (f : WalkForwardFoldWindowFields) : Py Unit := do
  require (1 ≤ f.foldIndex ∧ 0 ≤ f.trainStart)
    (valueError "walk-forward window indices are invalid")
  require (f.trainStart < f.trainEnd ∧ f.trainEnd = f.embargoStart ∧ f.embargoStart < f.embargoEnd
      ∧ f.embargoEnd = f.testStart ∧ f.testStart < f.testEnd)
    (valueError "walk-forward train, embargo and test windows must be contiguous")

instance : Dataclass WalkForwardFoldWindowFields := ⟨WalkForwardFoldWindowFields.postInit⟩

abbrev WalkForwardFoldWindow := Frozen WalkForwardFoldWindowFields

/-- The loop of `plan_walk_forward_fold_windows`. -/
def planLoop (l : FoldLengths) (hstep : 1 ≤ l.stepBars) (sampleCount cursor foldIndex : ℤ) :
    Py (List WalkForwardFoldWindow) :=
  if _h : cursor + l.testBars ≤ sampleCount then do
    let trainEnd := cursor - l.embargoBars
    let trainStart := trainEnd - l.trainBars
    require (0 ≤ trainStart) (valueError "walk-forward train window underflow")
    let window ← Frozen.make
      ⟨foldIndex, trainStart, trainEnd, trainEnd, cursor, cursor, cursor + l.testBars⟩
    let rest ← planLoop l hstep sampleCount (cursor + l.stepBars) (foldIndex + 1)
    .ok (window :: rest)
  else .ok []
-- the cursor moves on by at least one sample
termination_by (sampleCount - l.testBars + 1 - cursor).toNat
decreasing_by omega

def planWalkForwardFoldWindows (sampleCount : ℤ) (l : FoldLengths) :
    Py (List WalkForwardFoldWindow) :=
  if h : 1 ≤ l.trainBars ∧ 1 ≤ l.testBars ∧ 1 ≤ l.stepBars ∧ 1 ≤ l.embargoBars then do
    require (0 ≤ sampleCount ∧ 1 ≤ l.testBars ∧ l.testBars ≤ l.stepBars)
      (valueError "walk-forward planner requires non-overlapping chronological tests")
    planLoop l h.2.2.1 sampleCount (l.trainBars + l.embargoBars) 1
  else .error (valueError "walk-forward planner requires positive integer bounds")

/-! ### Evaluation -/

/-- `range(first, last)` -/
def indexRange (first last : ℤ) : List ℤ :=
  (List.range (last - first).toNat).map fun k : ℕ => first + k

/-- `xs[index]` -/
def sequenceItem {α : Type} (xs : List α) (index : ℤ) : Py α :=
  let place := if index < 0 then index + xs.length else index
  if place < 0 then .error ⟨.indexError, "tuple index out of range"⟩
  else
    match xs[place.toNat]? with
    | some x => .ok x
    | none => .error ⟨.indexError, "tuple index out of range"⟩

/-- The samples of an evaluation, as columns. -/
structure OosSamples where
  signals : List ℤ
  labels : List ℤ
  forwardReturns : List Decimal
  signalTimes : List Text
  labelTimes : List Text
  deriving DecidableEq

/-- What an evaluation reads of one sample of a test window. -/
structure OosRow where
  signal : ℤ
  label : ℤ
  forwardReturn : Decimal

/-- The row of a sample. -/
def OosSamples.row (samples : OosSamples) (index : ℤ) : Py OosRow := do
  let signal ← sequenceItem samples.signals index
  let label ← sequenceItem samples.labels index
  let forwardReturn ← sequenceItem samples.forwardReturns index
  .ok ⟨signal, label, forwardReturn⟩

structure OosFoldEvaluation where
  window : WalkForwardFoldWindow
  signalCount : ℕ
  followAccuracy : Decimal
  invertAccuracy : Decimal
  followNet : Decimal
  invertNet : Decimal
  trainStart : Text
  trainEnd : Text
  testStart : Text
  testEnd : Text
  configSha256 : Text
  embargoBars : ℤ
  deriving DecidableEq

/-- The arguments of `evaluate_oos_folds` besides its samples. -/
structure OosSettings where
  perSignalCost : Decimal
  lengths : FoldLengths
  configSha256 : Text

section

variable (ctx : DecimalContext)

def ratio (numerator denominator : ℕ) : Py Decimal :=
  if denominator = 0 then .ok (Decimal.ofNat 0)
  else ctx.div (Decimal.ofNat numerator) (Decimal.ofNat denominator)

/-- `sum((Decimal(signal) * forward_return …), Decimal(0))` -/
def grossReturn (rows : List OosRow) : Py Decimal :=
  rows.foldlM (fun total row => do
    let term ← ctx.mul (Decimal.ofInt row.signal) row.forwardReturn
    ctx.add total term) (Decimal.ofNat 0)

/-- One turn of the loop of `evaluate_oos_folds`. -/
def evaluateFold (settings : OosSettings) (samples : OosSamples) (window : WalkForwardFoldWindow) :
    Py OosFoldEvaluation := do
  let w := window.fields
  let rows ← (indexRange w.testStart w.testEnd).mapM samples.row
  require ((rows.length : ℤ) ≤ settings.lengths.testBars)
    (valueError "OOS test window exceeded test_bars")
  let signalled := rows.filter fun row => row.signal ≠ 0
  require ((signalled.length : ℤ) ≤ settings.lengths.testBars)
    (valueError "OOS fold signal_count cannot exceed test_bars")
  let followHits := signalled.countP fun row => row.signal = row.label
  let invertHits := signalled.countP fun row => -row.signal = row.label
  let gross ← grossReturn ctx signalled
  let count := signalled.length
  let followAccuracy ← ratio ctx followHits count
  let invertAccuracy ← ratio ctx invertHits count
  let cost ← ctx.mul settings.perSignalCost (Decimal.ofNat count)
  let followNet ← ctx.sub gross cost
  let inverted ← ctx.minus gross
  let invertNet ← ctx.sub inverted cost
  let trainStart ← sequenceItem samples.signalTimes w.trainStart
  let trainEnd ← sequenceItem samples.labelTimes (w.trainEnd - 1)
  let testStart ← sequenceItem samples.signalTimes w.testStart
  let testEnd ← sequenceItem samples.labelTimes (w.testEnd - 1)
  .ok ⟨window, count, followAccuracy, invertAccuracy, followNet, invertNet, trainStart, trainEnd,
    testStart, testEnd, settings.configSha256, settings.lengths.embargoBars⟩

def evaluateOosFolds (settings : OosSettings) (samples : OosSamples) :
    Py (List OosFoldEvaluation) := do
  require (samples.signals.length = samples.labels.length
      ∧ samples.signals.length = samples.forwardReturns.length)
    (valueError "OOS fold evaluation requires aligned signals, labels and forward returns")
  require (samples.signalTimes.length = samples.signals.length
      ∧ samples.labelTimes.length = samples.signals.length)
    (valueError "OOS fold evaluation requires per-sample signal and label times")
  require (settings.configSha256.strip ≠ [])
    (typeError "OOS fold evaluation requires a Decimal cost and config digest")
  let windows ← planWalkForwardFoldWindows samples.signals.length settings.lengths
  windows.mapM (evaluateFold ctx settings samples)

end

/-! ### The runner -/

inductive ArtifactStatus where
  | COMPLETE | INCOMPLETE | FAILED
  deriving DecidableEq

inductive StrategyDirection where
  | FOLLOW | INVERT
  deriving DecidableEq

/-- What the runner reads of a `StrategyDefinition`. -/
structure StrategyDefinitionFields where
  threshold : Decimal
  direction : StrategyDirection

instance : Dataclass StrategyDefinitionFields where
  postInit f := require (0 ≤ f.threshold.val) (valueError "strategy threshold requires a finite Decimal")

abbrev StrategyDefinition := Frozen StrategyDefinitionFields

/-- The observations of a `FrozenValidationDataset`. -/
structure FrozenValidationDatasetFields where
  features : List Decimal
  forwardReturns : List Decimal
  eventTimes : List Text

instance : Dataclass FrozenValidationDatasetFields where
  postInit f := do
    require (f.features ≠ [] ∧ f.features.length = f.forwardReturns.length)
      (valueError "features and forward returns must be non-empty and aligned")
    require (f.eventTimes.length = f.features.length ∧ f.eventTimes.Nodup)
      (valueError "validation event times must be unique and aligned")
    require (f.eventTimes.Pairwise (fun s t => Text.le s t = true))
      (valueError "validation event times must be chronological")

abbrev FrozenValidationDataset := Frozen FrozenValidationDatasetFields

/-- What the walk-forward validation reads of a `ScaleValidationConfig`. -/
structure ScaleValidationConfigFields where
  trainSize : ℤ
  testSize : ℤ
  stepSize : ℤ
  embargoSize : ℤ
  baseCost : Decimal

instance : Dataclass ScaleValidationConfigFields where
  postInit f := do
    require (1 ≤ f.trainSize ∧ 1 ≤ f.testSize ∧ 1 ≤ f.stepSize)
      (valueError "validation sizes and iterations must be positive integers")
    require (0 ≤ f.embargoSize ∧ f.testSize ≤ f.stepSize)
      (valueError "validation embargo/step bounds are invalid")
    require (0 ≤ f.baseCost.val) (valueError "base cost requires a finite Decimal")

abbrev ScaleValidationConfig := Frozen ScaleValidationConfigFields

/-- The summary of a window, with the texts of its numbers. -/
structure ReturnSummary where
  sampleCount : ℕ
  netReturn : Text
  positiveRatio : Text
  maxDrawdown : Text
  deriving DecidableEq

/-- An entry of `folds`. -/
structure WalkForwardFold where
  start : ℤ
  stop : ℤ
  summary : ReturnSummary
  deriving DecidableEq

/-- What `_walk_forward` returns; `folds` is missing in the result of an incomplete validation. -/
structure WalkForwardOutcome where
  status : ArtifactStatus
  folds : Option (List WalkForwardFold)
  warnings : List Text
  deriving DecidableEq

namespace ScaleValidationRunner

section

variable (ctx : DecimalContext)

/-- The signal of one feature in `_signals`. -/
def signalOf (strategy : StrategyDefinition) (value : Decimal) : Py ℤ := do
  let direction : ℤ := if strategy.fields.direction = .FOLLOW then 1 else -1
  let threshold := strategy.fields.threshold
  if value > threshold then .ok direction
  else do
    let floor ← ctx.minus threshold
    .ok (if value < floor then direction * -1 else 0)

/-- `_trade_returns` of one sample, without slippage. -/
def tradeReturn (cost : Decimal) (signal : ℤ) (outcome : Decimal) : Py Decimal := do
  let gross ← ctx.mul (Decimal.ofInt signal) outcome
  if signal = 0 then ctx.sub gross (Decimal.ofNat 0)
  else do
    let total ← ctx.add cost (Decimal.ofNat 0)
    ctx.sub gross total

def tradeReturns (dataset : FrozenValidationDataset) (strategy : StrategyDefinition)
    (cost : Decimal) : Py (List Decimal) := do
  let signals ← dataset.fields.features.mapM (signalOf ctx strategy)
  (signals.zip dataset.fields.forwardReturns).mapM fun (signal, outcome) =>
    tradeReturn ctx cost signal outcome

/-- The running equity, its peak and the drawdown. -/
structure Drawdown where
  equity : Decimal
  peak : Decimal
  drawdown : Decimal

/-- One turn of the loop of `_summary`. -/
def Drawdown.next (d : Drawdown) (value : Decimal) : Py Drawdown := do
  let equity ← ctx.add d.equity value
  let peak := d.peak.max' equity
  let fall ← ctx.sub equity peak
  .ok ⟨equity, peak, d.drawdown.min' fall⟩

def summary (values : List Decimal) : Py ReturnSummary :=
  if values = [] then .ok ⟨0, "0", "0", "0"⟩
  else do
    let total ← ctx.sum values
    let positive ← ctx.div (Decimal.ofNat (values.countP fun value => value > Decimal.ofNat 0))
      (Decimal.ofNat values.length)
    let zero := Decimal.ofNat 0
    let last ← values.foldlM (Drawdown.next ctx) ⟨zero, zero, zero⟩
    .ok ⟨values.length, total.formatF, positive.formatF, last.drawdown.formatF⟩

/-- `values[start : start + size]` of a start that is not negative. -/
def slice (values : List Decimal) (start size : ℤ) : List Decimal :=
  (values.drop start.toNat).take size.toNat

theorem one_le_stepSize (config : ScaleValidationConfig) : 1 ≤ config.fields.stepSize := by
  obtain ⟨hsizes, -⟩ := of_require config.valid
  exact hsizes.2.2

/-- The loop of `_walk_forward`. -/
def walkForwardLoop (config : ScaleValidationConfig) (values : List Decimal) (start : ℤ) :
    Py (List WalkForwardFold) :=
  if _h : start + config.fields.testSize ≤ values.length then do
    let window := slice values start config.fields.testSize
    let summary ← summary ctx window
    let rest ← walkForwardLoop config values (start + config.fields.stepSize)
    .ok (⟨start, start + config.fields.testSize, summary⟩ :: rest)
  else .ok []
termination_by (values.length - config.fields.testSize + 1 - start).toNat
decreasing_by
  have := one_le_stepSize config
  omega

def walkForward (dataset : FrozenValidationDataset) (strategy : StrategyDefinition)
    (config : ScaleValidationConfig) : Py WalkForwardOutcome := do
  let values ← tradeReturns ctx dataset strategy config.fields.baseCost
  let folds ← walkForwardLoop ctx config values
    (config.fields.trainSize + config.fields.embargoSize)
  .ok (if folds = [] then
      ⟨.INCOMPLETE, none, ["insufficient samples for one chronological OOS fold"]⟩
    else ⟨.COMPLETE, some folds, []⟩)

end

end ScaleValidationRunner

/-! ### The folds of a plan -/

namespace FoldLengths

/-- The lengths that the planner takes. -/
def Plannable (l : FoldLengths) : Prop :=
  (1 ≤ l.trainBars ∧ 1 ≤ l.testBars ∧ 1 ≤ l.stepBars ∧ 1 ≤ l.embargoBars)
    ∧ l.testBars ≤ l.stepBars

instance (l : FoldLengths) : Decidable l.Plannable := inferInstanceAs (Decidable (_ ∧ _))

/-- Where the test window of a fold begins, the first fold being number 0. -/
def cursor (l : FoldLengths) (k : ℕ) : ℤ := l.trainBars + l.embargoBars + k * l.stepBars

/-- The fields of a fold. -/
def windowFields (l : FoldLengths) (k : ℕ) : WalkForwardFoldWindowFields :=
  ⟨k + 1, k * l.stepBars, k * l.stepBars + l.trainBars, k * l.stepBars + l.trainBars, l.cursor k,
    l.cursor k, l.cursor k + l.testBars⟩

/-- A fold, whose windows are contiguous. -/
def window (l : FoldLengths) (h : l.Plannable) (k : ℕ) : WalkForwardFoldWindow :=
  ⟨l.windowFields k, by
    obtain ⟨⟨htrain, htest, hstep, hembargo⟩, -⟩ := h
    have hstart : 0 ≤ (k : ℤ) * l.stepBars := by positivity
    refine check_bind_eq_ok.mpr ⟨require_eq_ok.mpr ⟨?_, hstart⟩, require_eq_ok.mpr ?_⟩
    · show (1 : ℤ) ≤ k + 1
      omega
    · simp only [windowFields, cursor, true_and]
      omega⟩

/-- The number of folds in so many samples. -/
def foldCount (l : FoldLengths) (sampleCount : ℤ) (k : ℕ) : ℕ :=
  cursorCount (l.cursor k) (sampleCount - l.testBars) l.stepBars

variable {l : FoldLengths}

theorem cursor_succ (k : ℕ) : l.cursor (k + 1) = l.cursor k + l.stepBars := by
  simp only [cursor]
  push_cast
  ring

/-- The folds of a plan: one wherever its test window fits into the samples, each behind its own
training window and embargo gap, and no test window reaching into the next. -/
structure Plans (l : FoldLengths) (sampleCount : ℤ) (windows : List WalkForwardFoldWindow) :
    Prop where
  fits : ∀ k : ℕ, k < windows.length ↔ l.cursor k + l.testBars ≤ sampleCount
  test : ∀ (k : ℕ) w, windows[k]? = some w → w.fields.foldIndex = k + 1
    ∧ w.fields.testStart = l.cursor k ∧ w.fields.testEnd = l.cursor k + l.testBars
  apart : windows.Pairwise fun w w' =>
    w.fields.testStart < w.fields.testEnd ∧ w.fields.testEnd ≤ w'.fields.testStart
  training : ∀ w ∈ windows, 0 ≤ w.fields.trainStart
    ∧ w.fields.trainEnd = w.fields.trainStart + l.trainBars
    ∧ w.fields.embargoStart = w.fields.trainEnd
    ∧ w.fields.embargoEnd = w.fields.embargoStart + l.embargoBars
    ∧ w.fields.testStart = w.fields.embargoEnd

/-- The folds that begin with number `k`. -/
def windowsFrom (l : FoldLengths) (h : l.Plannable) (sampleCount : ℤ) (k : ℕ) :
    List WalkForwardFoldWindow :=
  (List.range (l.foldCount sampleCount k)).map fun j => l.window h (k + j)

variable {k : ℕ} {sampleCount : ℤ}

theorem foldCount_of_fits (h : l.Plannable) (hfits : l.cursor k + l.testBars ≤ sampleCount) :
    l.foldCount sampleCount k = l.foldCount sampleCount (k + 1) + 1 := by
  rw [foldCount, foldCount, cursor_succ]
  exact cursorCount_of_le h.1.2.2.1 (by omega)

theorem foldCount_of_not_fits (h : l.Plannable)
    (hfits : ¬ l.cursor k + l.testBars ≤ sampleCount) : l.foldCount sampleCount k = 0 := by
  by_contra hpos
  have hfirst := (lt_cursorCount_iff h.1.2.2.1 0).mp (Nat.pos_of_ne_zero hpos)
  push_cast at hfirst
  omega

theorem fits_of_foldCount (h : l.Plannable) {m : ℕ} (hcount : l.foldCount sampleCount k = m + 1) :
    l.cursor k + l.testBars ≤ sampleCount ∧ l.foldCount sampleCount (k + 1) = m := by
  have hfits : l.cursor k + l.testBars ≤ sampleCount := by
    by_contra hnot
    rw [foldCount_of_not_fits h hnot] at hcount
    cases hcount
  rw [foldCount_of_fits h hfits] at hcount
  exact ⟨hfits, Nat.succ.inj hcount⟩

theorem not_fits_of_foldCount (h : l.Plannable)
    (hcount : l.foldCount sampleCount k = 0) : ¬ l.cursor k + l.testBars ≤ sampleCount := by
  intro hfits
  rw [foldCount_of_fits h hfits] at hcount
  cases hcount

theorem windowsFrom_of_fits (h : l.Plannable) (hfits : l.cursor k + l.testBars ≤ sampleCount) :
    l.windowsFrom h sampleCount k = l.window h k :: l.windowsFrom h sampleCount (k + 1) := by
  rw [windowsFrom, windowsFrom, foldCount_of_fits h hfits, List.range_succ_eq_map, List.map_cons,
    List.map_map]
  congr 1
  refine List.map_congr_left fun j _ => ?_
  show l.window h (k + (j + 1)) = l.window h (k + 1 + j)
  rw [Nat.add_comm j 1, Nat.add_assoc]

theorem windowsFrom_of_not_fits (h : l.Plannable)
    (hfits : ¬ l.cursor k + l.testBars ≤ sampleCount) : l.windowsFrom h sampleCount k = [] := by
  rw [windowsFrom, foldCount_of_not_fits h hfits]
  rfl

/-- **The loop.**  The planner appends the folds one by one. -/
theorem planLoop_eq (h : l.Plannable) (sampleCount : ℤ) (k : ℕ) :
    planLoop l h.1.2.2.1 sampleCount (l.cursor k) (k + 1)
      = .ok (l.windowsFrom h sampleCount k) := by
  -- on the number of folds that are still to come
  induction hcount : l.foldCount sampleCount k generalizing k with
  | zero =>
    have hfits := not_fits_of_foldCount h hcount
    rw [planLoop, dif_neg hfits, windowsFrom_of_not_fits h hfits]
  | succ m ih =>
    obtain ⟨hfits, hnext⟩ := fits_of_foldCount h hcount
    have hend : l.cursor k - l.embargoBars = k * l.stepBars + l.trainBars := by
      rw [cursor]
      ring
    have hstart : k * l.stepBars + l.trainBars - l.trainBars = k * l.stepBars := by ring
    have hpos : 0 ≤ (k : ℤ) * l.stepBars :=
      Int.mul_nonneg (by omega) (by have := h.1.2.2.1; omega)
    have hmake : Frozen.make ⟨k + 1, k * l.stepBars, k * l.stepBars + l.trainBars,
        k * l.stepBars + l.trainBars, l.cursor k, l.cursor k, l.cursor k + l.testBars⟩
          = .ok (l.window h k) := Frozen.make_eq_ok.mpr rfl
    have hrest := ih (k + 1) hnext
    rw [cursor_succ] at hrest
    push_cast at hrest
    rw [planLoop, dif_pos hfits, windowsFrom_of_fits h hfits]
    simp only [hend, hstart, require_of_pos hpos, hmake, hrest, Py.ok_bind]

theorem plan_eq (h : l.Plannable) (hcount : 0 ≤ sampleCount) :
    planWalkForwardFoldWindows sampleCount l = .ok (l.windowsFrom h sampleCount 0) := by
  have hloop := planLoop_eq h sampleCount 0
  have hcursor : l.cursor 0 = l.trainBars + l.embargoBars := by
    rw [cursor]
    push_cast
    ring
  rw [hcursor] at hloop
  push_cast at hloop
  rw [planWalkForwardFoldWindows, dif_pos h.1,
    require_of_pos ⟨hcount, h.1.2.1, h.2⟩, Py.ok_bind]
  exact hloop

theorem getElem?_windowsFrom (h : l.Plannable)
    {w : WalkForwardFoldWindow} (hw : (l.windowsFrom h sampleCount 0)[k]? = some w) :
    w = l.window h k := by
  rw [windowsFrom, List.getElem?_map] at hw
  obtain ⟨j, hj, rfl⟩ := Option.map_eq_some_iff.mp hw
  obtain ⟨_, rfl⟩ := List.getElem?_eq_some_iff.mp hj
  rw [List.getElem_range, Nat.zero_add]

/-- **The folds.** -/
theorem plans_windowsFrom (h : l.Plannable) (sampleCount : ℤ) :
    l.Plans sampleCount (l.windowsFrom h sampleCount 0) where
  fits := fun k => by
    have hcursor : l.cursor k = l.cursor 0 + k * l.stepBars := by
      simp only [cursor]
      push_cast
      ring
    rw [windowsFrom, List.length_map, List.length_range, foldCount,
      lt_cursorCount_iff h.1.2.2.1, hcursor]
    omega
  test := fun k w hw => by
    rw [getElem?_windowsFrom h hw]
    exact ⟨rfl, rfl, rfl⟩
  apart := by
    rw [windowsFrom, List.pairwise_map]
    refine List.pairwise_lt_range.imp fun {i j} hij => ?_
    simp only [window, windowFields, Nat.zero_add]
    -- the next test window is a whole step further, which is no less than the window
    have hstep : ((i : ℤ) + 1) * l.stepBars ≤ j * l.stepBars :=
      Int.mul_le_mul_of_nonneg_right (by omega) (by have := h.1.2.2.1; omega)
    have htest := h.2
    have hpos := h.1.2.1
    rw [add_mul, one_mul] at hstep
    simp only [cursor]
    omega
  training := fun w hw => by
    obtain ⟨k, -, rfl⟩ := List.mem_map.mp hw
    have hpos : 0 ≤ ((0 + k : ℕ) : ℤ) * l.stepBars :=
      Int.mul_nonneg (by omega) (by have := h.1.2.2.1; omega)
    simp only [window, windowFields, cursor, true_and, and_true]
    omega

/-- Fewer samples have the first folds of more. -/
theorem windowsFrom_prefix (h : l.Plannable) {sampleCount' : ℤ} (hle : sampleCount ≤ sampleCount') :
    l.windowsFrom h sampleCount 0 <+: l.windowsFrom h sampleCount' 0 := by
  have hcount : l.foldCount sampleCount 0 ≤ l.foldCount sampleCount' 0 :=
    cursorCount_mono h.1.2.2.1 (by omega)
  obtain ⟨d, hd⟩ := Nat.exists_eq_add_of_le hcount
  rw [windowsFrom, windowsFrom, hd, List.range_add, List.map_append]
  exact List.prefix_append _ _

end FoldLengths

/-! ### The folds of an evaluation -/

/-- A sample that comes in later. -/
structure OosSample where
  signal : ℤ
  label : ℤ
  forwardReturn : Decimal
  signalTime : Text
  labelTime : Text

namespace OosSamples

/-- The samples with later ones after them. -/
def append (samples : OosSamples) (later : List OosSample) : OosSamples where
  signals := samples.signals ++ later.map OosSample.signal
  labels := samples.labels ++ later.map OosSample.label
  forwardReturns := samples.forwardReturns ++ later.map OosSample.forwardReturn
  signalTimes := samples.signalTimes ++ later.map OosSample.signalTime
  labelTimes := samples.labelTimes ++ later.map OosSample.labelTime

/-- The columns have the same length. -/
structure Aligned (samples : OosSamples) : Prop where
  labels : samples.signals.length = samples.labels.length
  forwardReturns : samples.signals.length = samples.forwardReturns.length
  signalTimes : samples.signalTimes.length = samples.signals.length
  labelTimes : samples.labelTimes.length = samples.signals.length

end OosSamples

theorem sequenceItem_append {α : Type} {xs : List α} (ys : List α) {index : ℤ} (h : 0 ≤ index)
    (hlt : index < xs.length) : sequenceItem (xs ++ ys) index = sequenceItem xs index := by
  have hplace : index.toNat < xs.length := by omega
  simp only [sequenceItem, if_neg (not_lt.mpr h), List.getElem?_append_left hplace]

theorem mem_indexRange {first last index : ℤ} (h : index ∈ indexRange first last) :
    first ≤ index ∧ index < last := by
  obtain ⟨k, hk, rfl⟩ := List.mem_map.mp h
  rw [List.mem_range] at hk
  omega

section

variable (ctx : DecimalContext) {settings : OosSettings} {samples : OosSamples}

theorem evaluateFold_append (later : List OosSample) (haligned : samples.Aligned)
    {w : WalkForwardFoldWindow} (hend : w.fields.testEnd ≤ samples.signals.length) :
    evaluateFold ctx settings (samples.append later) w = evaluateFold ctx settings samples w := by
  obtain ⟨hstart, hbounds⟩ := check_bind_eq_ok.mp w.valid
  have hstart := require_eq_ok.mp hstart
  have hbounds := require_eq_ok.mp hbounds
  obtain ⟨hlabels, hreturns, hsignalTimes, hlabelTimes⟩ := haligned
  have hrow : ∀ index ∈ indexRange w.fields.testStart w.fields.testEnd,
      (samples.append later).row index = samples.row index := by
    intro index hindex
    have hrange := mem_indexRange hindex
    simp only [OosSamples.row, OosSamples.append]
    rw [sequenceItem_append _ (by omega) (by omega), sequenceItem_append _ (by omega) (by omega),
      sequenceItem_append _ (by omega) (by omega)]
  have htrainStart : sequenceItem (samples.append later).signalTimes w.fields.trainStart
      = sequenceItem samples.signalTimes w.fields.trainStart :=
    sequenceItem_append _ hstart.2 (by omega)
  have htrainEnd : sequenceItem (samples.append later).labelTimes (w.fields.trainEnd - 1)
      = sequenceItem samples.labelTimes (w.fields.trainEnd - 1) :=
    sequenceItem_append _ (by omega) (by omega)
  have htestStart : sequenceItem (samples.append later).signalTimes w.fields.testStart
      = sequenceItem samples.signalTimes w.fields.testStart :=
    sequenceItem_append _ (by omega) (by omega)
  have htestEnd : sequenceItem (samples.append later).labelTimes (w.fields.testEnd - 1)
      = sequenceItem samples.labelTimes (w.fields.testEnd - 1) :=
    sequenceItem_append _ (by omega) (by omega)
  simp only [evaluateFold, Py.mapM_congr_left hrow, htrainStart, htrainEnd, htestStart, htestEnd]

theorem FoldLengths.Plans.testEnd_le {l : FoldLengths} {n : ℤ} {windows : List WalkForwardFoldWindow}
    (h : l.Plans n windows) : ∀ w ∈ windows, w.fields.testEnd ≤ n := by
  intro w hw
  obtain ⟨k, hk⟩ := List.getElem?_of_mem hw
  obtain ⟨-, -, hend⟩ := h.test k w hk
  rw [hend]
  exact (h.fits k).mp (List.getElem?_eq_some_iff.mp hk).1

/-- **Later samples.**  The evaluation of more samples begins with that of fewer. -/
theorem evaluateOosFolds_append (h : settings.lengths.Plannable) (later : List OosSample) :
    ∃ rest : Py (List OosFoldEvaluation),
      evaluateOosFolds ctx settings (samples.append later)
        = evaluateOosFolds ctx settings samples >>= fun folds =>
            rest >>= fun more => .ok (folds ++ more) := by
  by_cases haligned : samples.Aligned
  · -- the later windows are evaluated after those of the earlier samples
    obtain ⟨hlabels, hreturns, hsignalTimes, hlabelTimes⟩ := haligned
    have haligned' : (samples.append later).Aligned := by
      constructor <;> simp only [OosSamples.append, List.length_append, List.length_map] <;> omega
    have hchecks : ∀ s : OosSamples, s.Aligned → evaluateOosFolds ctx settings s
        = require (settings.configSha256.strip ≠ [])
            (typeError "OOS fold evaluation requires a Decimal cost and config digest") >>= fun _ =>
          (settings.lengths.windowsFrom h s.signals.length 0).mapM
            (evaluateFold ctx settings s) := by
      intro s hs
      rw [evaluateOosFolds, require_of_pos ⟨hs.labels, hs.forwardReturns⟩, Py.ok_bind,
        require_of_pos ⟨hs.signalTimes, hs.labelTimes⟩, Py.ok_bind,
        FoldLengths.plan_eq h (Int.natCast_nonneg _), Py.ok_bind]
    have hle : (samples.signals.length : ℤ) ≤ (samples.append later).signals.length := by
      simp [OosSamples.append]
    obtain ⟨windows, hwindows⟩ := FoldLengths.windowsFrom_prefix h hle
    have hsame : (settings.lengths.windowsFrom h samples.signals.length 0).mapM
        (evaluateFold ctx settings (samples.append later))
          = (settings.lengths.windowsFrom h samples.signals.length 0).mapM
              (evaluateFold ctx settings samples) :=
      Py.mapM_congr_left fun w hw => evaluateFold_append ctx later
        ⟨hlabels, hreturns, hsignalTimes, hlabelTimes⟩
        ((FoldLengths.plans_windowsFrom h _).testEnd_le w hw)
    refine ⟨windows.mapM (evaluateFold ctx settings (samples.append later)), ?_⟩
    rw [hchecks samples ⟨hlabels, hreturns, hsignalTimes, hlabelTimes⟩, hchecks _ haligned',
      ← hwindows, List.mapM_append, hsame, bind_assoc]
    rfl
  · -- columns that do not fit raise the same error with the later samples
    have hcolumns : ((samples.append later).signals.length = (samples.append later).labels.length
        ∧ (samples.append later).signals.length = (samples.append later).forwardReturns.length)
          ↔ samples.signals.length = samples.labels.length
            ∧ samples.signals.length = samples.forwardReturns.length := by
      simp [OosSamples.append]
    have htimes : ((samples.append later).signalTimes.length = (samples.append later).signals.length
        ∧ (samples.append later).labelTimes.length = (samples.append later).signals.length)
          ↔ samples.signalTimes.length = samples.signals.length
            ∧ samples.labelTimes.length = samples.signals.length := by
      simp [OosSamples.append]
    refine ⟨.ok [], ?_⟩
    rw [evaluateOosFolds, evaluateOosFolds]
    by_cases hfit : samples.signals.length = samples.labels.length
        ∧ samples.signals.length = samples.forwardReturns.length
    · have hunfit : ¬ (samples.signalTimes.length = samples.signals.length
          ∧ samples.labelTimes.length = samples.signals.length) :=
        fun hfit' => haligned ⟨hfit.1, hfit.2, hfit'.1, hfit'.2⟩
      rw [require_of_pos (hcolumns.mpr hfit), require_of_pos hfit, Py.ok_bind, Py.ok_bind,
        require_of_neg (htimes.not.mpr hunfit), require_of_neg hunfit]
      rfl
    · rw [require_of_neg (hcolumns.not.mpr hfit), require_of_neg hfit]
      rfl

end

/-! ### The folds of the runner -/

namespace ScaleValidationRunner

variable (ctx : DecimalContext) {config : ScaleValidationConfig} {values : List Decimal}

/-- The lengths of a configuration. -/
def lengths (config : ScaleValidationConfig) : FoldLengths :=
  ⟨config.fields.trainSize, config.fields.testSize, config.fields.stepSize,
    config.fields.embargoSize⟩

/-- Where the test window of a fold of the runner lies. -/
def span (fold : WalkForwardFold) : ℤ × ℤ := (fold.start, fold.stop)

/-- Where the test window of a fold of the plan lies. -/
def testSpan (window : WalkForwardFoldWindow) : ℤ × ℤ :=
  (window.fields.testStart, window.fields.testEnd)

theorem span_walkForwardLoop (h : (lengths config).Plannable) {k : ℕ}
    {folds : List WalkForwardFold}
    (hloop : walkForwardLoop ctx config values ((lengths config).cursor k) = .ok folds) :
    folds.map span = ((lengths config).windowsFrom h values.length k).map testSpan := by
  induction hcount : (lengths config).foldCount values.length k generalizing k folds with
  | zero =>
    have hfits := FoldLengths.not_fits_of_foldCount h hcount
    rw [walkForwardLoop, dif_neg (show ¬ _ + config.fields.testSize ≤ _ from hfits)] at hloop
    obtain rfl := Except.ok.inj hloop
    rw [FoldLengths.windowsFrom_of_not_fits h hfits]
    rfl
  | succ m ih =>
    obtain ⟨hfits, hnext⟩ := FoldLengths.fits_of_foldCount h hcount
    rw [walkForwardLoop, dif_pos (show _ + config.fields.testSize ≤ _ from hfits)] at hloop
    obtain ⟨summary, -, hloop⟩ := Py.of_bind hloop
    obtain ⟨rest, hrest, hloop⟩ := Py.of_bind hloop
    obtain rfl := Except.ok.inj hloop
    rw [FoldLengths.windowsFrom_of_fits h hfits, List.map_cons, List.map_cons,
      ih (k := k + 1) (by rw [FoldLengths.cursor_succ]; exact hrest) hnext]
    rfl

theorem length_tradeReturns {dataset : FrozenValidationDataset} {strategy : StrategyDefinition}
    {cost : Decimal} (h : tradeReturns ctx dataset strategy cost = .ok values) :
    values.length = dataset.fields.features.length := by
  obtain ⟨hcolumns, -⟩ := of_require dataset.valid
  obtain ⟨signals, hsignals, h⟩ := Py.of_bind h
  rw [← (Py.forall₂_of_mapM h).length_eq, List.length_zip,
    ← (Py.forall₂_of_mapM hsignals).length_eq, ← hcolumns.2, Nat.min_self]

/-- The runner reports the test windows of the plan. -/
theorem span_walkForward (h : (lengths config).Plannable) {dataset : FrozenValidationDataset}
    {strategy : StrategyDefinition} {outcome : WalkForwardOutcome}
    (hrun : walkForward ctx dataset strategy config = .ok outcome) :
    let windows := (lengths config).windowsFrom h dataset.fields.features.length 0
    (outcome.folds.getD []).map span = windows.map testSpan
      ∧ (outcome.status = .COMPLETE ↔ windows ≠ []) := by
  obtain ⟨values, hvalues, hrun⟩ := Py.of_bind hrun
  obtain ⟨folds, hfolds, hrun⟩ := Py.of_bind hrun
  have hcursor : (lengths config).cursor 0 = config.fields.trainSize + config.fields.embargoSize := by
    simp [FoldLengths.cursor, lengths]
  rw [← hcursor] at hfolds
  have hspans := span_walkForwardLoop ctx h hfolds
  rw [length_tradeReturns ctx hvalues] at hspans
  have hempty : folds = [] ↔ (lengths config).windowsFrom h dataset.fields.features.length 0 = [] := by
    rw [← List.map_eq_nil_iff (f := span), hspans, List.map_eq_nil_iff]
  obtain rfl := Except.ok.inj hrun
  by_cases hnone : folds = []
  · rw [if_pos hnone]
    refine ⟨?_, by rintro ⟨⟩, fun hne => absurd (hempty.mp hnone) hne⟩
    rw [hempty.mp hnone]
    rfl
  · rw [if_neg hnone]
    exact ⟨hspans, fun _ => hempty.not.mp hnone, fun _ => rfl⟩

end ScaleValidationRunner

/-- **Walk-forward.**  The plan has exactly the folds whose test windows fit into the samples, and
begins the plan of any more samples; the evaluation of more samples begins with that of fewer; and
the runner reports the test windows of the plan. -/
theorem walk_forward_windows (l : FoldLengths) (h : l.Plannable) (sampleCount : ℤ) :
    (sampleCount < 0 → planWalkForwardFoldWindows sampleCount l
        = .error (valueError "walk-forward planner requires non-overlapping chronological tests"))
      ∧ (0 ≤ sampleCount → ∃ windows, planWalkForwardFoldWindows sampleCount l = .ok windows
          ∧ l.Plans sampleCount windows
          ∧ ∀ sampleCount' ≥ sampleCount, ∃ windows',
              planWalkForwardFoldWindows sampleCount' l = .ok windows' ∧ windows <+: windows')
      ∧ (∀ ctx settings samples later, settings.lengths = l →
          ∃ rest : Py (List OosFoldEvaluation),
            evaluateOosFolds ctx settings (samples.append later)
              = evaluateOosFolds ctx settings samples >>= fun folds =>
                  rest >>= fun more => .ok (folds ++ more))
      ∧ ∀ ctx dataset strategy config outcome, ScaleValidationRunner.lengths config = l →
          ScaleValidationRunner.walkForward ctx dataset strategy config = .ok outcome →
            ∃ windows,
              planWalkForwardFoldWindows dataset.fields.features.length l = .ok windows
                ∧ (outcome.folds.getD []).map ScaleValidationRunner.span
                    = windows.map ScaleValidationRunner.testSpan
                ∧ (outcome.status = .COMPLETE ↔ windows ≠ []) := by
  refine ⟨fun hneg => ?_, fun hcount => ?_, ?_, ?_⟩
  · rw [planWalkForwardFoldWindows, dif_pos h.1, require_of_neg (by omega)]
    rfl
  · refine ⟨_, FoldLengths.plan_eq h hcount, FoldLengths.plans_windowsFrom h sampleCount,
      fun sampleCount' hle => ?_⟩
    exact ⟨_, FoldLengths.plan_eq h (by omega), FoldLengths.windowsFrom_prefix h hle⟩
  · rintro ctx settings samples later rfl
    exact evaluateOosFolds_append ctx h later
  · rintro ctx dataset strategy config outcome rfl hrun
    exact ⟨_, FoldLengths.plan_eq h (Int.natCast_nonneg _),
      ScaleValidationRunner.span_walkForward ctx h hrun⟩

theorem walk_forward_windows_forty : ∃ windows,
    planWalkForwardFoldWindows 40 ⟨20, 5, 5, 2⟩ = .ok windows
      ∧ (⟨20, 5, 5, 2⟩ : FoldLengths).Plans 40 windows
      ∧ ∀ sampleCount' ≥ 40, ∃ windows',
          planWalkForwardFoldWindows sampleCount' ⟨20, 5, 5, 2⟩ = .ok windows'
            ∧ windows <+: windows' :=
  (walk_forward_windows ⟨20, 5, 5, 2⟩ (by decide) 40).2.1 (by decide)

end FuturesAgentOs
