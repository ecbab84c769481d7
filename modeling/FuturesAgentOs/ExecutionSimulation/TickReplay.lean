import FuturesAgentOs.ExecutionSimulation.FillModel
import FuturesAgentOs.ExecutionSimulation.OrderBookReplay
import FuturesAgentOs.SharedKernel.Elapsed

namespace FuturesAgentOs

open PyModel

/-!
# Tick replay

`execution_simulation/l3_tick_replay.py`: an order is replayed against a stream of quotes and
trades.  Quotes offer what an order can take, trades fill a resting limit and trigger a stop.  The
checks of a configuration and of a stream compute with decimals, so both are given with the context
they are built in.

* `replayLoop`, `TickReplay.replay` — tick after tick.
-/

inductive TickKind where
  | QUOTE
  | TRADE
  deriving DecidableEq

def TickKind.value : TickKind → Text
  | QUOTE => "QUOTE"
  | TRADE => "TRADE"

structure TickFields where
  sequence : ℤ
  timestamp : RecordedAt
  kind : TickKind
  price : Decimal
  quantity : Decimal
  bid : Option Decimal := none
  ask : Option Decimal := none
  deriving DecidableEq

def TickFields.postInit (f : TickFields) : Py Unit := do
  require (1 ≤ f.sequence) (valueError "tick sequence must be a positive integer")
  require (Decimal.ofNat 0 < f.price) (valueError "tick price must be positive finite Decimal")
  require (Decimal.ofNat 0 ≤ f.quantity)
    (valueError "tick quantity must be finite and non-negative")
  require (f.kind = .QUOTE → f.bid ≠ none ∧ f.ask ≠ none)
    (valueError "QUOTE ticks require bid and ask")
  whenSome f.bid (fun value => require (Decimal.ofNat 0 < value)
    (valueError "quote prices must be positive finite decimals"))
  whenSome f.ask (fun value => require (Decimal.ofNat 0 < value)
    (valueError "quote prices must be positive finite decimals"))
  require (∀ bid ∈ f.bid, ∀ ask ∈ f.ask, bid ≤ ask) (valueError "bid cannot exceed ask")

instance : Dataclass TickFields := ⟨TickFields.postInit⟩

/-- A quote or a trade. -/
abbrev Tick := Frozen TickFields

def Tick.payload (ctx : DecimalContext) (t : Tick) : Py Json := do
  let price ← decimalText ctx t.fields.price
  let quantity ← decimalText ctx t.fields.quantity
  let bid ← decimalItem ctx t.fields.bid
  let ask ← decimalItem ctx t.fields.ask
  .ok (.obj [
    ("sequence", .int t.fields.sequence),
    ("timestamp", .str t.fields.timestamp.text),
    ("kind", .str t.fields.kind.value),
    ("price", .str price),
    ("quantity", .str quantity),
    ("bid", bid),
    ("ask", ask)])

/-! ### All that a replay depends on -/

structure CalibratedSlippageFields where
  ticks : ℤ
  meanBps : Decimal
  p95Bps : Decimal
  scope : Text
  deriving DecidableEq

def CalibratedSlippageFields.postInit (f : CalibratedSlippageFields) : Py Unit := do
  require (0 < f.ticks) (valueError "calibration ticks must be positive")
  require ((Decimal.ofNat 0 ≤ f.meanBps ∧ Decimal.ofNat 0 ≤ f.p95Bps) ∧ f.meanBps ≤ f.p95Bps
      ∧ f.p95Bps < Decimal.ofNat 10000)
    (valueError "invalid calibration bps")
  require (IsCanonicalText f.scope) (valueError "calibration scope must be canonical text")

instance : Dataclass CalibratedSlippageFields := ⟨CalibratedSlippageFields.postInit⟩

/-- How far prices slip in an instrument. -/
abbrev CalibratedSlippage := Frozen CalibratedSlippageFields

def CalibratedSlippage.payload (ctx : DecimalContext) (c : CalibratedSlippage) : Py Json := do
  let mean ← decimalText ctx c.fields.meanBps
  let p95 ← decimalText ctx c.fields.p95Bps
  .ok (.obj [
    ("ticks", .int c.fields.ticks),
    ("mean_bps", .str mean),
    ("p95_bps", .str p95),
    ("scope", .str c.fields.scope)])

inductive SlippageStatistic where
  | MEAN
  | P95
  deriving DecidableEq

def SlippageStatistic.value : SlippageStatistic → Text
  | MEAN => "MEAN"
  | P95 => "P95"

structure TickReplayConfigFields (ctx : DecimalContext) where
  modelVersion : Text := "l3-tick-replay-v1"
  latencyMs : Decimal := Decimal.ofNat 0
  slippage : Option CalibratedSlippage := none
  slippageStatistic : SlippageStatistic := .MEAN
  maxClockStepSeconds : Option Decimal := none
  expectedFirstSequence : Option ℤ := none
  deriving DecidableEq

variable {ctx : DecimalContext}

/-- `latency_ms * Decimal("1000")` -/
def TickReplayConfigFields.latencyMicros (f : TickReplayConfigFields ctx) : Py Decimal :=
  ctx.mul f.latencyMs (Decimal.ofNat 1000)

def TickReplayConfigFields.postInit (f : TickReplayConfigFields ctx) : Py Unit := do
  require (IsCanonicalText f.modelVersion) (valueError "model_version must be canonical text")
  require (Decimal.ofNat 0 ≤ f.latencyMs)
    (valueError "latency_ms must be a non-negative finite Decimal")
  let micros ← f.latencyMicros
  require micros.IsWhole (valueError "latency_ms must resolve to whole microseconds")
  whenSome f.maxClockStepSeconds (fun step => require (Decimal.ofNat 0 < step)
    (valueError "max_clock_step_seconds must be positive"))
  whenSome f.expectedFirstSequence (fun sequence => require (1 ≤ sequence)
    (valueError "expected_first_sequence must be positive"))

instance : Dataclass (TickReplayConfigFields ctx) := ⟨TickReplayConfigFields.postInit⟩

variable (ctx) in
/-- The choices of a replay. -/
abbrev TickReplayConfig := Frozen (TickReplayConfigFields ctx)

namespace TickReplayConfig

def payload (c : TickReplayConfig ctx) : Py Json := do
  let latency ← decimalText ctx c.fields.latencyMs
  let slippage ← match c.fields.slippage with
    | none => .ok .null
    | some slippage => slippage.payload ctx
  let step ← decimalItem ctx c.fields.maxClockStepSeconds
  .ok (.obj [
    ("model_version", .str c.fields.modelVersion),
    ("latency_ms", .str latency),
    ("slippage", slippage),
    ("slippage_statistic", .str c.fields.slippageStatistic.value),
    ("max_clock_step_seconds", step),
    ("expected_first_sequence", c.fields.expectedFirstSequence.elim .null .int)])

def digest [Hashlib] (c : TickReplayConfig ctx) : Py Text := do
  let payload ← c.payload
  canonicalSha256 payload

def selectedSlippageBps (c : TickReplayConfig ctx) : Decimal :=
  match c.fields.slippage with
  | none => Decimal.ofNat 0
  | some slippage =>
    if c.fields.slippageStatistic = .P95 then slippage.fields.p95Bps else slippage.fields.meanBps

end TickReplayConfig

structure TickReplayFields (ctx : DecimalContext) where
  ticks : List Tick
  config : TickReplayConfig ctx
  deriving DecidableEq

variable (ctx) in
/-- `elapsed` in `_validate`, of a difference that is not negative, in microseconds. -/
def elapsedSeconds (micros : ℕ) : Py Decimal := do
  let part ← ctx.div (Decimal.ofNat (micros % 1000000)) (Decimal.ofNat 1000000)
  ctx.add (Decimal.ofNat (micros / 1000000)) part

variable (ctx) in
/-- The loop of `_validate`, after a tick.  Each message is the code of an anomaly. -/
def validateTicks (maxStep : Option Decimal) : Tick → List Tick → Py Unit
  | _, [] => .ok ()
  | previous, tick :: rest => do
    require (previous.fields.sequence < tick.fields.sequence) (valueError "OUT_OF_ORDER_SEQUENCE")
    require (tick.fields.sequence = previous.fields.sequence + 1) (valueError "SEQUENCE_GAP")
    require (previous.fields.timestamp ≤ tick.fields.timestamp) (valueError "CLOCK_REGRESSION")
    whenSome maxStep fun step => do
      let elapsed ← elapsedSeconds ctx
        (tick.fields.timestamp.micros - previous.fields.timestamp.micros)
      require (elapsed ≤ step) (valueError "CLOCK_GAP")
    validateTicks maxStep tick rest

/-- `_validate` -/
def TickReplayFields.postInit (f : TickReplayFields ctx) : Py Unit :=
  match f.ticks with
  | [] => .ok ()
  | first :: rest => do
    whenSome f.config.fields.expectedFirstSequence fun sequence =>
      require (first.fields.sequence = sequence) (valueError "FIRST_SEQUENCE_GAP")
    validateTicks ctx f.config.fields.maxClockStepSeconds first rest

instance : Dataclass (TickReplayFields ctx) := ⟨TickReplayFields.postInit⟩

variable (ctx) in
/-- A validated stream of ticks, with the choices of its replay. -/
abbrev TickReplay := Frozen (TickReplayFields ctx)

inductive ReplayStatus where
  | COMPLETED
  | PARTIAL
  | UNFILLED
  | REJECTED
  deriving DecidableEq

def ReplayStatus.value : ReplayStatus → Text
  | COMPLETED => "COMPLETED"
  | PARTIAL => "PARTIAL"
  | UNFILLED => "UNFILLED"
  | REJECTED => "REJECTED"

structure TickReplayResult where
  order : Order
  fills : List Fill
  status : ReplayStatus
  reason : Text
  configDigest : Text
  replayDigest : Text
  triggered : Bool := false
  triggerSequence : Option ℤ := none
  deriving DecidableEq

namespace TickReplay

/-! ### Looking at a tick -/

/-- What the loop of `replay` has seen. -/
structure Watch where
  triggered : Bool
  triggerSequence : Option ℤ := none
  sawEligible : Bool := false
  sawZeroLiquidity : Bool := false
  deriving DecidableEq

section

variable (order : Order) (orderType : FillOrderType)

/-- Whether a price is within the limit of the order.  Where `replay` asserts that there is a limit,
it has rejected an order without one. -/
def withinLimit (price : Decimal) : Bool :=
  order.fields.limitPrice.any fun limit =>
    if order.fields.direction = .LONG then price ≤ limit else limit ≤ price

def crossedStop (price : Decimal) : Bool :=
  order.fields.stopPrice.any fun stop =>
    if order.fields.direction = .LONG then stop ≤ price else price ≤ stop

/-- Whether a tick triggers a stop. -/
def triggers (tick : Tick) : Bool :=
  tick.fields.kind = .TRADE ∧ crossedStop order tick.fields.price

/-- `base_price`, of a tick that the order crosses.  A quote has both prices. -/
def basePrice (triggered : Bool) (tick : Tick) : Option Decimal :=
  match tick.fields.kind with
  | .QUOTE =>
    (if order.fields.direction = .LONG then tick.fields.ask else tick.fields.bid).filter
      fun price => orderType = .MARKET ∨ (orderType = .STOP ∧ triggered) ∨ withinLimit order price
  | .TRADE =>
    if orderType = .LIMIT ∧ withinLimit order tick.fields.price then some tick.fields.price
    else none

/-- The loop of `replay` up to the point where it fills: what is seen in a tick, and the price of
its quantity if the order takes it. -/
def look (activation : ℤ) (tick : Tick) (w : Watch) : Watch × Option Decimal :=
  if tick.fields.timestamp.micros < activation then (w, none)
  else
    let w := { w with sawEligible := true }
    if orderType = .STOP ∧ w.triggered = false then
      if triggers order tick then
        ({ w with triggered := true, triggerSequence := some tick.fields.sequence }, none)
      else (w, none)
    else
      match basePrice order orderType w.triggered tick with
      | none => (w, none)
      | some base =>
        let w := { w with triggered := w.triggered || orderType = .LIMIT }
        if tick.fields.quantity ≤ Decimal.ofNat 0 then ({ w with sawZeroLiquidity := true }, none)
        else (w, some base)

end

/-! ### Filling -/

variable (ctx) in
/-- What the price of an order is multiplied with. -/
def slipFactor (direction : TradeDirection) (bps : Decimal) : Py Decimal :=
  if direction = .LONG then ctx.add (Decimal.ofNat 1) bps else ctx.sub (Decimal.ofNat 1) bps

/-- `_price` -/
def slippedPrice (config : TickReplayConfig ctx) (base : Decimal) (direction : TradeDirection)
    (limit : Option Decimal) : Py Decimal := do
  let bps ← ctx.div config.selectedSlippageBps (Decimal.ofNat 10000)
  let factor ← slipFactor ctx direction bps
  let adjusted ← ctx.mul base factor
  .ok (match limit with
    | none => adjusted
    | some limit => if direction = .LONG then adjusted.min' limit else adjusted.max' limit)

variable (ctx) in
def orderPayload (order : Order) : Py Json := do
  let quantity ← decimalText ctx order.fields.quantity
  let filledQuantity ← decimalText ctx order.fields.filledQuantity
  let limitPrice ← decimalItem ctx order.fields.limitPrice
  let stopPrice ← decimalItem ctx order.fields.stopPrice
  .ok (.obj [
    ("order_id", .str order.fields.orderId.str),
    ("execution_plan_id", .str order.fields.executionPlanId.str),
    ("instrument", .str order.fields.instrument),
    ("direction", .str order.fields.direction.value),
    ("quantity", .str quantity),
    ("filled_quantity", .str filledQuantity),
    ("limit_price", limitPrice),
    ("stop_price", stopPrice),
    ("created_at", .str order.fields.createdAt.text)])

section

variable [Hashlib] (config : TickReplayConfig ctx) (order : Order) (orderType : FillOrderType)

def fillSeed (tick : Tick) (quantity price : Decimal) (index : ℕ) : Py Text := do
  let orderItem ← orderPayload ctx order
  let digest ← config.digest
  let tickItem ← tick.payload ctx
  let quantityText ← decimalText ctx quantity
  let priceText ← decimalText ctx price
  canonicalSha256 (.obj [
    ("order", orderItem),
    ("config", .str digest),
    ("tick", tickItem),
    ("fill_index", .int index),
    ("quantity", .str quantityText),
    ("price", .str priceText)])

/-- The fill of a tick. -/
def fill (tick : Tick) (quantity price : Decimal) (index : ℕ) : Py Fill := do
  let seed ← fillSeed config order tick quantity price index
  let identity ← EntityId.deterministic "fill" seed
  let digest ← config.digest
  Frozen.make (FillFields.mk identity order.fields.orderId order.fields.instrument
    order.fields.direction quantity price (Decimal.ofNat 0) tick.fields.timestamp 1
    order.fields.schemaVersion
    (("l3:" : Text) ++ config.fields.modelVersion ++ (":" : Text) ++ digest.take 16))

/-- The state of the loop of `replay`. -/
structure Replaying where
  watch : Watch
  remaining : Decimal
  working : Order
  fills : List Fill := []
  deriving DecidableEq

/-- The rest of the loop of `replay`, at a tick that the order takes. -/
def fillTick (tick : Tick) (base : Decimal) (s : Replaying) : Py Replaying := do
  let quantity := s.remaining.min' tick.fields.quantity
  let price ← slippedPrice config base order.fields.direction
    (if orderType = .LIMIT then order.fields.limitPrice else none)
  let next ← fill config order tick quantity price s.fills.length
  let working ← s.working.applyFill ctx (.decimal quantity)
  let remaining ← ctx.sub s.remaining quantity
  .ok { s with remaining, working, fills := s.fills ++ [next] }

/-- The loop of `replay`. -/
def replayLoop (activation : ℤ) : List Tick → Replaying → Py Replaying
  | [], s => .ok s
  | tick :: rest, s =>
    let (watch, base) := look order orderType activation tick s.watch
    match base with
    | none => replayLoop activation rest { s with watch }
    | some base => do
      let s ← fillTick config order orderType tick base { s with watch }
      if s.remaining.numEq (Decimal.ofNat 0) then .ok s else replayLoop activation rest s

end

/-! ### The whole replay -/

/-- `datetime.max` -/
def lastMoment : RecordedAt :=
  ⟨.of 9999 12 31 (Eq.refl true), 23, 59, 59, 999999⟩

/-- `activation`, in microseconds. -/
def activation (config : TickReplayConfig ctx) (order : Order) : Py ℤ := do
  let micros ← config.fields.latencyMicros
  let moment := order.fields.createdAt.micros + micros.toInt
  require (moment ≤ lastMoment.micros) ⟨.overflowError, "date value out of range"⟩
  .ok moment

/-- The status and the reason of a result. -/
def outcome (orderType : FillOrderType) (s : Replaying) : ReplayStatus × Text :=
  if s.fills ≠ [] then
    if s.remaining.numEq (Decimal.ofNat 0) then (.COMPLETED, "FILLED")
    else (.PARTIAL, "PARTIAL_FILL")
  else if orderType = .STOP ∧ s.watch.triggered then
    (.UNFILLED,
      if s.watch.sawZeroLiquidity then "TRIGGERED_NO_LIQUIDITY" else "TRIGGERED_NO_QUOTE")
  else if s.watch.sawZeroLiquidity then (.UNFILLED, "NO_LIQUIDITY")
  else
    (.UNFILLED,
      if orderType ≠ .MARKET then "NOT_TRIGGERED"
      else if s.watch.sawEligible then "NO_LIQUIDITY" else "NO_ELIGIBLE_QUOTE")

/-- The calibration is for the instrument of the order. -/
def ScopeMatches (config : TickReplayConfig ctx) (order : Order) : Prop :=
  ∀ slippage ∈ config.fields.slippage, slippage.fields.scope = order.fields.instrument

instance (config : TickReplayConfig ctx) (order : Order) : Decidable (ScopeMatches config order) :=
  inferInstanceAs (Decidable (∀ slippage ∈ config.fields.slippage, _))

section

variable [Hashlib] (r : TickReplay ctx) (order : Order) (orderType : FillOrderType)

/-- `_result`, of the given order and what became of it. -/
def result (source working : Order) (fills : List Fill) (status : ReplayStatus) (reason : Text)
    (triggered : Bool := false) (triggerSequence : Option ℤ := none) : Py TickReplayResult := do
  let orderItem ← orderPayload ctx source
  let resultItem ← orderPayload ctx working
  let ticks ← r.fields.ticks.mapM (Tick.payload ctx)
  let config ← r.fields.config.payload
  let replayDigest ← canonicalSha256 (.obj [
    ("order", orderItem),
    ("result_order", resultItem),
    ("ticks", .arr ticks),
    ("config", config),
    ("fills", .arr (fills.map fun fill => .str fill.fields.fillId.str)),
    ("status", .str status.value),
    ("reason", .str reason),
    ("triggered", .bool triggered),
    ("trigger_sequence", triggerSequence.elim .null .int)])
  let configDigest ← r.fields.config.digest
  .ok
    { order := working, fills, status, reason, configDigest, replayDigest, triggered,
      triggerSequence }

/-- The loop of `replay`, over all ticks. -/
def replayTicks (ticks : List Tick) : Py Replaying := do
  let activation ← activation r.fields.config order
  let remaining ← ctx.sub order.fields.quantity order.fields.filledQuantity
  replayLoop r.fields.config order orderType activation ticks
    { watch := { triggered := orderType = .MARKET }, remaining, working := order }

def replay : Py TickReplayResult := do
  require (order.fields.status = .WORKING ∨ order.fields.status = .PARTIALLY_FILLED)
    (valueError "tick replay requires a working order")
  if orderType = .LIMIT ∧ order.fields.limitPrice = none then
    result r order order [] .REJECTED "INVALID_LIMIT"
  else if orderType = .STOP ∧ order.fields.stopPrice = none then
    result r order order [] .REJECTED "INVALID_STOP"
  else if ¬ ScopeMatches r.fields.config order then
    result r order order [] .REJECTED "CALIBRATION_SCOPE_MISMATCH"
  else do
    let s ← replayTicks r order orderType r.fields.ticks
    result r order s.working s.fills (outcome orderType s).1 (outcome orderType s).2
      s.watch.triggered s.watch.triggerSequence

end

end TickReplay

end FuturesAgentOs
