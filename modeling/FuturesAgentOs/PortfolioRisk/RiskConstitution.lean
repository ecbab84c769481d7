import FuturesAgentOs.Decision.RiskDecision
import FuturesAgentOs.PyModel.DecimalContext

namespace FuturesAgentOs

open PyModel

/-!
# The risk constitution

`portfolio_risk/risk_constitution.py`: the limits of a constitution, the size that they leave of a
plan, and the decision about it.
-/

inductive RiskRuleCode where
  | KILL_SWITCH
  | DATA_QUALITY_UNAVAILABLE
  | DATA_QUALITY_INSUFFICIENT
  | CONCENTRATION_UNAVAILABLE
  | CONCENTRATION_LIMIT
  | INSTRUMENT_CONCENTRATION_UNAVAILABLE
  | INSTRUMENT_CONCENTRATION_LIMIT
  | DIRECTION_CONCENTRATION_UNAVAILABLE
  | DIRECTION_CONCENTRATION_LIMIT
  | PORTFOLIO_CONCENTRATION_UNAVAILABLE
  | PORTFOLIO_CONCENTRATION_LIMIT
  | DAILY_DRAWDOWN_UNAVAILABLE
  | DAILY_DRAWDOWN_LIMIT
  | MARGIN_HEADROOM_UNAVAILABLE
  | MARGIN_BUFFER_LIMIT
  | DELIVERY_HORIZON_UNAVAILABLE
  | DELIVERY_TOO_NEAR
  | RISK_NOT_COMPUTABLE
  | MAX_SINGLE_LOSS
  | MAX_MARGIN
  | RISK_WITHIN_LIMITS
  deriving DecidableEq

def RiskRuleCode.value : RiskRuleCode → Text
  | KILL_SWITCH => "KILL_SWITCH"
  | DATA_QUALITY_UNAVAILABLE => "DATA_QUALITY_UNAVAILABLE"
  | DATA_QUALITY_INSUFFICIENT => "DATA_QUALITY_INSUFFICIENT"
  | CONCENTRATION_UNAVAILABLE => "CONCENTRATION_UNAVAILABLE"
  | CONCENTRATION_LIMIT => "CONCENTRATION_LIMIT"
  | INSTRUMENT_CONCENTRATION_UNAVAILABLE => "INSTRUMENT_CONCENTRATION_UNAVAILABLE"
  | INSTRUMENT_CONCENTRATION_LIMIT => "INSTRUMENT_CONCENTRATION_LIMIT"
  | DIRECTION_CONCENTRATION_UNAVAILABLE => "DIRECTION_CONCENTRATION_UNAVAILABLE"
  | DIRECTION_CONCENTRATION_LIMIT => "DIRECTION_CONCENTRATION_LIMIT"
  | PORTFOLIO_CONCENTRATION_UNAVAILABLE => "PORTFOLIO_CONCENTRATION_UNAVAILABLE"
  | PORTFOLIO_CONCENTRATION_LIMIT => "PORTFOLIO_CONCENTRATION_LIMIT"
  | DAILY_DRAWDOWN_UNAVAILABLE => "DAILY_DRAWDOWN_UNAVAILABLE"
  | DAILY_DRAWDOWN_LIMIT => "DAILY_DRAWDOWN_LIMIT"
  | MARGIN_HEADROOM_UNAVAILABLE => "MARGIN_HEADROOM_UNAVAILABLE"
  | MARGIN_BUFFER_LIMIT => "MARGIN_BUFFER_LIMIT"
  | DELIVERY_HORIZON_UNAVAILABLE => "DELIVERY_HORIZON_UNAVAILABLE"
  | DELIVERY_TOO_NEAR => "DELIVERY_TOO_NEAR"
  | RISK_NOT_COMPUTABLE => "RISK_NOT_COMPUTABLE"
  | MAX_SINGLE_LOSS => "MAX_SINGLE_LOSS"
  | MAX_MARGIN => "MAX_MARGIN"
  | RISK_WITHIN_LIMITS => "RISK_WITHIN_LIMITS"

/-! ### The constitution -/

structure RiskConstitutionFields where
  ref : Text
  version : ℤ
  contentHash : Text
  maxSingleLoss : Decimal
  maxMargin : Decimal
  maxQuantity : Decimal
  marginRate : Decimal
  maxConcentration : Option Decimal := none
  killSwitch : Bool := false
  minDataQuality : Decimal := Decimal.ofNat 0
  deliveryHorizonDays : Option ℤ := none
  maxInstrumentConcentration : Option Decimal := none
  maxDirectionConcentration : Option Decimal := none
  maxPortfolioConcentration : Option Decimal := none
  /-- A ratio below 1, an amount from 1 on. -/
  marginBuffer : Decimal := Decimal.ofNat 0
  marginBufferRatio : Option Decimal := none
  maxDailyDrawdown : Option Decimal := none
  deriving DecidableEq

def RiskConstitutionFields.postInit (f : RiskConstitutionFields) : Py Unit := do
  let checkCeiling (ceiling : Option Decimal) (label : Text) : Py Unit :=
    whenSome ceiling (fun ceiling => require (Decimal.ofNat 0 < ceiling)
      (valueError (label ++ Text.ofString " must be positive when provided")))
  require (IsCanonicalText f.ref) (valueError "constitution ref must be canonical")
  require (1 ≤ f.version) (valueError "constitution version must be positive")
  require f.contentHash.IsHexDigest (valueError "constitution hash must be SHA-256")
  [f.maxSingleLoss, f.maxMargin, f.maxQuantity, f.marginRate].forM (fun value =>
    require (Decimal.ofNat 0 < value)
      (valueError "constitution limits must be positive finite decimals"))
  checkCeiling f.maxConcentration "max_concentration"
  checkCeiling f.maxInstrumentConcentration "max_instrument_concentration"
  checkCeiling f.maxDirectionConcentration "max_direction_concentration"
  checkCeiling f.maxPortfolioConcentration "max_portfolio_concentration"
  checkCeiling f.maxDailyDrawdown "max_daily_drawdown"
  require (Decimal.ofNat 0 ≤ f.marginBuffer ∧ f.marginBuffer ≤ f.maxMargin)
    (valueError "margin_buffer must be a finite non-negative amount within max_margin")
  whenSome f.marginBufferRatio (fun ratio =>
    require (Decimal.ofNat 0 ≤ ratio ∧ ratio < Decimal.ofNat 1)
      (valueError "margin_buffer_ratio must be a finite Decimal in [0, 1)"))
  require (f.marginBuffer.coeff = 0 ∨ f.marginBufferRatio = none)
    (valueError "specify margin_buffer or margin_buffer_ratio, not both")
  require (Decimal.ofNat 0 ≤ f.minDataQuality ∧ f.minDataQuality ≤ Decimal.ofNat 1)
    (valueError "invalid risk quality settings")
  whenSome f.deliveryHorizonDays (fun days =>
    require (0 ≤ days) (valueError "delivery horizon must be non-negative"))

instance : Dataclass RiskConstitutionFields := ⟨RiskConstitutionFields.postInit⟩

/-- The limits that risk enforces. -/
abbrev RiskConstitution := Frozen RiskConstitutionFields

/-! ### What is observed -/

/-- Any `Decimal`, also one that is no number. -/
inductive Reading where
  | finite (value : Decimal)
  | infinite (neg : Bool)
  | nan
  | signaling
  deriving DecidableEq

/-- `a != b`, which a signaling NaN does not let pass. -/
def Reading.differs : Reading → Reading → Py Bool
  | signaling, _ => .error ⟨.invalidOperation, "[<class 'decimal.InvalidOperation'>]"⟩
  | _, signaling => .error ⟨.invalidOperation, "[<class 'decimal.InvalidOperation'>]"⟩
  | finite a, finite b => .ok (decide (¬ a.numEq b))
  | infinite a, infinite b => .ok (decide (a ≠ b))
  | _, _ => .ok true

/-- The observations that `decide` is given. -/
structure RiskObservations where
  dataQuality : Option Reading := none
  concentration : Option Reading := none
  daysToDelivery : Option ℤ := none
  instrumentConcentration : Option Reading := none
  directionConcentration : Option Reading := none
  portfolioConcentration : Option Reading := none
  dailyDrawdown : Option Reading := none
  currentMargin : Option Reading := none
  marginUsed : Option Reading := none
  dailyLoss : Option Reading := none
  instrumentExposure : Option Reading := none
  directionExposure : Option Reading := none
  portfolioExposure : Option Reading := none
  deriving DecidableEq

namespace RiskObservations

/-- Two names of one observation have different values. -/
def conflicts : Option Reading → Option Reading → Py Bool
  | some a, some b => a.differs b
  | _, _ => .ok false

variable (o : RiskObservations)

/-- The observations that have two names, in the order of the checks. -/
def pairs : List (Option Reading × Option Reading) := [
  (o.currentMargin, o.marginUsed),
  (o.dailyDrawdown, o.dailyLoss),
  (o.instrumentConcentration, o.instrumentExposure),
  (o.directionConcentration, o.directionExposure),
  (o.portfolioConcentration, o.portfolioExposure)]

/-- The observations with one name each, if those with two agree. -/
def resolve : Py (Option RiskObservations) := do
  if ← o.pairs.anyM (fun pair => conflicts pair.1 pair.2) then .ok none
  else .ok (some { o with
    currentMargin := o.marginUsed <|> o.currentMargin
    dailyDrawdown := o.dailyLoss <|> o.dailyDrawdown
    instrumentConcentration := o.instrumentConcentration <|> o.instrumentExposure
    directionConcentration := o.directionConcentration <|> o.directionExposure
    portfolioConcentration := o.portfolioConcentration <|> o.portfolioExposure })

end RiskObservations

/-- The observations that are numbers. -/
structure RiskFacts where
  dataQuality : Option Decimal
  concentration : Option Decimal
  daysToDelivery : Option ℤ
  instrumentConcentration : Option Decimal
  directionConcentration : Option Decimal
  portfolioConcentration : Option Decimal
  dailyDrawdown : Option Decimal
  currentMargin : Option Decimal
  deriving DecidableEq

/-- An observation is a number that a check accepts, if it is there. -/
def readable (accepts : Decimal → Bool) (code : RiskRuleCode) :
    Option Reading → Except RiskRuleCode (Option Decimal)
  | none => .ok none
  | some (.finite value) => if accepts value then .ok (some value) else .error code
  | some _ => .error code

/-- The numbers that were observed, or the code of the first that is none. -/
def RiskObservations.facts (o : RiskObservations) : Except RiskRuleCode RiskFacts := do
  let nonNegative (value : Decimal) : Bool := decide (Decimal.ofNat 0 ≤ value)
  let dataQuality ← readable
    (fun value => decide (Decimal.ofNat 0 ≤ value ∧ value ≤ Decimal.ofNat 1))
    .DATA_QUALITY_UNAVAILABLE o.dataQuality
  let concentration ← readable nonNegative .CONCENTRATION_UNAVAILABLE o.concentration
  if o.daysToDelivery.any (· < 0) then .error .DELIVERY_HORIZON_UNAVAILABLE
  else do
    let instrument ← readable nonNegative .RISK_NOT_COMPUTABLE o.instrumentConcentration
    let direction ← readable nonNegative .RISK_NOT_COMPUTABLE o.directionConcentration
    let portfolio ← readable nonNegative .RISK_NOT_COMPUTABLE o.portfolioConcentration
    let drawdown ← readable nonNegative .RISK_NOT_COMPUTABLE o.dailyDrawdown
    let margin ← readable nonNegative .RISK_NOT_COMPUTABLE o.currentMargin
    .ok ⟨dataQuality, concentration, o.daysToDelivery, instrument, direction, portfolio, drawdown,
      margin⟩

/-- A limit that is configured is observed, and holds of what is observed. -/
def checkLimit {α : Type} (within : α → α → Bool) (unavailable exceeded : RiskRuleCode) :
    Option α → Option α → Except RiskRuleCode Unit
  | none, _ => .ok ()
  | some _, none => .error unavailable
  | some limit, some observed => if within observed limit then .ok () else .error exceeded

/-! ### The engine -/

namespace RiskConstitution

variable (c : RiskConstitution)

/-- The quality of the data is observed if it is asked for, and enough if it is observed. -/
def checkQuality (f : RiskFacts) : Except RiskRuleCode Unit :=
  if Decimal.ofNat 0 < c.fields.minDataQuality ∧ f.dataQuality = none then
    .error .DATA_QUALITY_UNAVAILABLE
  else if f.dataQuality.any (· < c.fields.minDataQuality) then .error .DATA_QUALITY_INSUFFICIENT
  else .ok ()

/-- The limits that do not depend on the size of the plan. -/
def checkFacts (f : RiskFacts) : Except RiskRuleCode Unit := do
  let atMost (observed ceiling : Decimal) : Bool := decide (observed ≤ ceiling)
  c.checkQuality f
  checkLimit atMost .CONCENTRATION_UNAVAILABLE .CONCENTRATION_LIMIT
    c.fields.maxConcentration f.concentration
  checkLimit atMost .INSTRUMENT_CONCENTRATION_UNAVAILABLE .INSTRUMENT_CONCENTRATION_LIMIT
    c.fields.maxInstrumentConcentration f.instrumentConcentration
  checkLimit atMost .DIRECTION_CONCENTRATION_UNAVAILABLE .DIRECTION_CONCENTRATION_LIMIT
    c.fields.maxDirectionConcentration f.directionConcentration
  checkLimit atMost .PORTFOLIO_CONCENTRATION_UNAVAILABLE .PORTFOLIO_CONCENTRATION_LIMIT
    c.fields.maxPortfolioConcentration f.portfolioConcentration
  checkLimit atMost .DAILY_DRAWDOWN_UNAVAILABLE .DAILY_DRAWDOWN_LIMIT
    c.fields.maxDailyDrawdown f.dailyDrawdown
  checkLimit (fun days horizon : ℤ => decide (horizon < days)) .DELIVERY_HORIZON_UNAVAILABLE
    .DELIVERY_TOO_NEAR c.fields.deliveryHorizonDays f.daysToDelivery

/-- All that comes before the size: the facts of a plan that may be sized, or the code of the first
check that fails. -/
def gate (o : RiskObservations) : Except RiskRuleCode RiskFacts := do
  if c.fields.killSwitch then .error .KILL_SWITCH
  else do
    let f ← o.facts
    c.checkFacts f
    .ok f

variable (ctx : DecimalContext) (plan : TradePlan)

/-- `abs(plan.entry_price - plan.protection.stop_price)` -/
def stopDistance (ctx : DecimalContext) (plan : TradePlan) : Py Decimal := do
  ctx.abs (← ctx.sub plan.fields.entryPrice plan.fields.protection.fields.stopPrice)

def size : Py Decimal := do
  let distance ← stopDistance ctx plan
  require (Decimal.ofNat 0 < distance) (valueError "risk is not computable")
  let quotient ← ctx.div c.fields.maxSingleLoss distance
  let quantity := plan.fields.quantity.min' quotient
  require (Decimal.ofNat 0 < quantity) (valueError "risk size is zero")
  .ok (quantity.min' c.fields.maxQuantity)

def marginBufferEnabled : Bool :=
  Decimal.ofNat 0 < c.fields.marginBuffer
    || c.fields.marginBufferRatio.any (Decimal.ofNat 0 < ·)

def bufferAmount : Py Decimal :=
  match c.fields.marginBufferRatio with
  | some ratio => ctx.mul c.fields.maxMargin ratio
  | none =>
    if c.fields.marginBuffer < Decimal.ofNat 1 then
      ctx.mul c.fields.maxMargin c.fields.marginBuffer
    else .ok c.fields.marginBuffer

/-- `current_margin or Decimal("0")` -/
def marginOrZero : Option Decimal → Decimal
  | some margin => if margin.coeff = 0 then Decimal.ofNat 0 else margin
  | none => Decimal.ofNat 0

variable [Hashlib] (decisionId : EntityId) (now : RecordedAt)

/-- The decision with an outcome, its amounts and a code. -/
def decision (outcome : RiskDecisionOutcome) (quantity loss margin : Decimal)
    (code : RiskRuleCode) : Py RiskDecision := do
  let planHash ← plan.planHash
  Frozen.make
    { decisionId := decisionId
      planId := plan.fields.planId
      planVersion := plan.fields.version
      outcome := outcome
      approvedQuantity := quantity
      maxLoss := loss
      margin := margin
      ruleRefs := [code.value]
      riskConstitutionRef := c.fields.ref
      issuedAt := now
      planHash := some planHash
      riskConstitutionVersion := c.fields.version
      riskConstitutionHash := some c.fields.contentHash }

def reject (code : RiskRuleCode) : Py RiskDecision :=
  c.decision plan decisionId now .REJECT (Decimal.ofNat 0) (Decimal.ofNat 0) (Decimal.ofNat 0) code

/-- The rest of `decide`, with a quantity that `size` returned. -/
def decideSized (currentMargin : Option Decimal) (quantity : Decimal) : Py RiskDecision := do
  let distance ← stopDistance ctx plan
  let loss ← ctx.mul distance quantity
  let notional ← ctx.mul plan.fields.entryPrice quantity
  let margin ← ctx.mul notional c.fields.marginRate
  if c.fields.maxSingleLoss < loss then
    c.decision plan decisionId now .REJECT (Decimal.ofNat 0) loss margin .MAX_SINGLE_LOSS
  else if c.marginBufferEnabled = true ∧ currentMargin = none then
    c.reject plan decisionId now .MARGIN_HEADROOM_UNAVAILABLE
  else do
    let buffer ← c.bufferAmount ctx
    let effectiveMarginLimit ← ctx.sub c.fields.maxMargin buffer
    let used ← ctx.add margin (marginOrZero currentMargin)
    if effectiveMarginLimit < used then
      c.decision plan decisionId now .REJECT (Decimal.ofNat 0) loss margin
        (if Decimal.ofNat 0 < buffer then .MARGIN_BUFFER_LIMIT else .MAX_MARGIN)
    else
      c.decision plan decisionId now
        (if quantity.numEq plan.fields.quantity then .APPROVE else .MODIFY) quantity loss margin
        .RISK_WITHIN_LIMITS

def decide (o : RiskObservations) : Py RiskDecision := do
  match ← o.resolve with
  | none => c.reject plan decisionId now .RISK_NOT_COMPUTABLE
  | some o =>
    match c.gate o with
    | .error code => c.reject plan decisionId now code
    | .ok facts =>
      match c.size ctx plan with
      | .ok quantity => c.decideSized ctx plan decisionId now facts.currentMargin quantity
      | .error e =>
        -- `except ValueError`; the errors of the arithmetic are none
        if e.kind = .valueError then c.reject plan decisionId now .RISK_NOT_COMPUTABLE
        else .error e

end RiskConstitution

end FuturesAgentOs
