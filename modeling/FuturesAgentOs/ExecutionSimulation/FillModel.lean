import FuturesAgentOs.Decision.Order

namespace FuturesAgentOs

open PyModel

/-!
# Fill models

`execution_simulation/fill_model.py` and `l2_model.py`: how much of a working order a bar or a
stream of book events fills, and at which price.

* `L2EventFillModel.simulate` — events of a book, one after the other.
-/

inductive FillOrderType where
  | MARKET
  | LIMIT
  | STOP
  deriving DecidableEq

structure FillDecision where
  triggered : Bool
  filledQuantity : Decimal
  price : Option Decimal
  reason : Text
  deriving DecidableEq

/-- A decision to fill nothing. -/
def FillDecision.nothing (triggered : Bool) (reason : Text) : FillDecision :=
  ⟨triggered, Decimal.ofNat 0, none, reason⟩

/-- `raise ValueError("fill simulation requires a working order")` -/
def requireWorking (order : Order) : Py Unit :=
  require (order.fields.status = .WORKING ∨ order.fields.status = .PARTIALLY_FILLED)
    (valueError "fill simulation requires a working order")

/-! ### One bar -/

structure L1BarFields where
  /-- `open` -/
  opening : Decimal
  high : Decimal
  low : Decimal
  close : Decimal
  availableQuantity : Decimal
  limitUp : Option Decimal := none
  limitDown : Option Decimal := none
  deriving DecidableEq

def L1BarFields.postInit (f : L1BarFields) : Py Unit := do
  require (∀ value ∈ [f.opening, f.high, f.low, f.close], Decimal.ofNat 0 < value)
    (valueError "bar prices must be positive finite decimals")
  require (f.low ≤ f.high ∧ (f.low ≤ f.opening ∧ f.opening ≤ f.high)
      ∧ f.low ≤ f.close ∧ f.close ≤ f.high)
    (valueError "bar OHLC values are inconsistent")
  require (Decimal.ofNat 0 ≤ f.availableQuantity)
    (valueError "available quantity must be non-negative")
  whenSome f.limitUp (fun value => require (Decimal.ofNat 0 < value)
    (valueError "price limits must be positive when provided"))
  whenSome f.limitDown (fun value => require (Decimal.ofNat 0 < value)
    (valueError "price limits must be positive when provided"))

instance : Dataclass L1BarFields := ⟨L1BarFields.postInit⟩

/-- One bar of prices with what can be traded in it. -/
abbrev L1Bar := Frozen L1BarFields

structure L1FillModelFields where
  slippage : Decimal := Decimal.ofNat 0
  deriving DecidableEq

/-- The check of `L1FillModel.__init__`. -/
def L1FillModelFields.postInit (f : L1FillModelFields) : Py Unit :=
  require (Decimal.ofNat 0 ≤ f.slippage)
    (valueError "slippage must be a non-negative finite Decimal")

instance : Dataclass L1FillModelFields := ⟨L1FillModelFields.postInit⟩

/-- The model of fills in a bar. -/
abbrev L1FillModel := Frozen L1FillModelFields

namespace L1FillModel

/-- `L1FillModel()` -/
def default : L1FillModel := ⟨{}, by decide⟩

def crossed (order : Order) (orderType : FillOrderType) (price : Decimal)
    (trigger limit : Option Decimal) : Bool :=
  match orderType with
  | .MARKET => true
  | .STOP => trigger.any (fun trigger =>
    if order.fields.direction = .LONG then trigger ≤ price else price ≤ trigger)
  | .LIMIT => limit.any (fun limit =>
    if order.fields.direction = .LONG then price ≤ limit else limit ≤ price)

/-- Whether the bar triggers the order and the price it then trades at, or why it cannot. -/
def trigger (order : Order) (bar : L1Bar) (orderType : FillOrderType)
    (limitPrice stopPrice : Option Decimal) : Except FillDecision (Bool × Decimal) :=
  match orderType with
  | .STOP =>
    match stopPrice with
    | none => .error (.nothing false "INVALID_STOP")
    | some stop =>
      if order.fields.direction = .LONG then
        .ok (stop ≤ bar.fields.high, bar.fields.opening.max' stop)
      else .ok (bar.fields.low ≤ stop, bar.fields.opening.min' stop)
  | .LIMIT =>
    match limitPrice with
    | none => .error (.nothing false "INVALID_LIMIT")
    | some limit =>
      if order.fields.direction = .LONG then
        .ok (bar.fields.low ≤ limit, bar.fields.opening.min' limit)
      else .ok (limit ≤ bar.fields.high, bar.fields.opening.max' limit)
  | .MARKET => .ok (true, bar.fields.opening)

def simulate (ctx : DecimalContext) (m : L1FillModel) (order : Order) (bar : L1Bar)
    (orderType : FillOrderType) (limitPrice stopPrice : Option Decimal := none) :
    Py FillDecision := do
  requireWorking order
  match trigger order bar orderType limitPrice stopPrice with
  | .error decision => .ok decision
  | .ok (triggered, triggerPrice) =>
    if triggered = false ∨ crossed order orderType triggerPrice stopPrice limitPrice = false then
      .ok (.nothing false "NOT_TRIGGERED")
    else if bar.fields.availableQuantity ≤ Decimal.ofNat 0 then
      .ok (.nothing true "NO_LIQUIDITY")
    else do
      let remaining ← ctx.sub order.fields.quantity order.fields.filledQuantity
      let quantity := remaining.min' bar.fields.availableQuantity
      let price ← if order.fields.direction = .LONG then ctx.add triggerPrice m.fields.slippage
        else ctx.sub triggerPrice m.fields.slippage
      if order.fields.direction = .LONG ∧ ∃ limitUp ∈ bar.fields.limitUp, limitUp ≤ price then
        .ok (.nothing true "LIMIT_UP_NO_MATCH")
      else if order.fields.direction = .SHORT
          ∧ ∃ limitDown ∈ bar.fields.limitDown, price ≤ limitDown then
        .ok (.nothing true "LIMIT_DOWN_NO_MATCH")
      else
        .ok ⟨true, quantity, some price,
          if quantity.numEq remaining then "FILLED" else "PARTIAL_FILL"⟩

/-- Whether the bar hits the stop and the target of a position in the direction of the order. -/
def bracketHits (order : Order) (bar : L1Bar) (takeProfitPrice stopPrice : Decimal) : Bool × Bool :=
  if order.fields.direction = .LONG then
    (bar.fields.low ≤ stopPrice, takeProfitPrice ≤ bar.fields.high)
  else (stopPrice ≤ bar.fields.high, bar.fields.low ≤ takeProfitPrice)

/-- `simulate_bracket`, under the only policy there is. -/
def simulateBracket (ctx : DecimalContext) (m : L1FillModel) (order : Order) (bar : L1Bar)
    (takeProfitPrice stopPrice : Decimal) : Py FillDecision := do
  require (Decimal.ofNat 0 < takeProfitPrice) (valueError "take_profit_price must be positive")
  require (Decimal.ofNat 0 < stopPrice) (valueError "stop_price must be positive")
  let (hitStop, hitTarget) := bracketHits order bar takeProfitPrice stopPrice
  if hitStop = false ∧ hitTarget = false then .ok (.nothing false "NOT_TRIGGERED")
  else
    let chosen := if hitStop then stopPrice else takeProfitPrice
    simulate ctx m order bar .LIMIT (some chosen) none

end L1FillModel

/-! ### A book -/

structure BookEventFields where
  sequence : ℤ
  bidPrice : Decimal
  bidQuantity : Decimal
  askPrice : Decimal
  askQuantity : Decimal
  deriving DecidableEq

def BookEventFields.postInit (f : BookEventFields) : Py Unit := do
  require (1 ≤ f.sequence) (valueError "sequence must be positive")
  require (Decimal.ofNat 0 < f.bidPrice ∧ Decimal.ofNat 0 < f.askPrice)
    (valueError "book prices must be positive finite decimals")
  require (Decimal.ofNat 0 ≤ f.bidQuantity ∧ Decimal.ofNat 0 ≤ f.askQuantity)
    (valueError "book quantities must be non-negative finite decimals")
  require (f.bidPrice < f.askPrice) (valueError "crossed book")

instance : Dataclass BookEventFields := ⟨BookEventFields.postInit⟩

/-- The best bid and ask at one moment. -/
abbrev BookEvent := Frozen BookEventFields

namespace L2EventFillModel

variable (ctx : DecimalContext) (order : Order) (orderType : FillOrderType) (remaining : Decimal)

/-- The price that an event offers the order. -/
def offered (event : BookEvent) : Decimal :=
  if order.fields.direction = .LONG then event.fields.askPrice else event.fields.bidPrice

/-- The quantity that an event offers the order. -/
def depth (event : BookEvent) : Decimal :=
  if order.fields.direction = .LONG then event.fields.askQuantity else event.fields.bidQuantity

/-- How far the loop of `simulate` has come. -/
structure Scan where
  total : Decimal := Decimal.ofNat 0
  lastPrice : Option Decimal := none
  triggered : Bool
  deriving DecidableEq

/-- What the event adds to the total. -/
def take (event : BookEvent) (s : Scan) : Py Scan := do
  let left ← ctx.sub remaining s.total
  let taken := left.min' (depth order event)
  if Decimal.ofNat 0 < taken then do
    let total ← ctx.add s.total taken
    .ok { s with total, lastPrice := some (offered order event) }
  else .ok s

/-- Whether the order trades at the event, and whether it was triggered by then; no answer where a
stop order has no stop. -/
def trades (event : BookEvent) (s : Scan) : Option (Bool × Bool) :=
  match orderType with
  | .MARKET => some (true, s.triggered)
  | .STOP => order.fields.stopPrice.map (fun stop =>
    let crossed : Bool := if order.fields.direction = .LONG then stop ≤ offered order event
      else offered order event ≤ stop
    (s.triggered || crossed, s.triggered || crossed))
  | .LIMIT =>
    let crossed : Bool := order.fields.limitPrice.any (fun limit =>
      if order.fields.direction = .LONG then offered order event ≤ limit
      else limit ≤ offered order event)
    some (crossed, s.triggered || crossed)

/-- The loop of `simulate`. -/
def scan : List BookEvent → Scan → Py (Option Scan)
  | [], s => .ok (some s)
  | event :: rest, s =>
    match trades order orderType event s with
    | none => .ok none
    | some (false, triggered) => scan rest { s with triggered }
    | some (true, triggered) => do
      let s ← take ctx order remaining event { s with triggered }
      if s.total.numEq remaining then .ok (some s) else scan rest s

def simulate (events : List BookEvent) : Py FillDecision := do
  requireWorking order
  if events = [] then .ok (.nothing false "NO_BOOK_EVENTS")
  else do
    let sequences : List ℤ := events.map (·.fields.sequence)
    require ((sequences.zip sequences.tail).all (fun (left, right) => left < right) = true)
      (valueError "book events must be strictly ordered")
    require ((sequences.zip sequences.tail).all (fun (left, right) => right = left + 1) = true)
      (valueError "book events contain a sequence gap")
    if orderType = .LIMIT ∧ order.fields.limitPrice = none then
      .ok (.nothing false "INVALID_LIMIT")
    else do
      let remaining ← ctx.sub order.fields.quantity order.fields.filledQuantity
      match ← scan ctx order orderType remaining events { triggered := orderType = .MARKET } with
      | none => .ok (.nothing false "INVALID_STOP")
      | some s =>
        if s.total ≤ Decimal.ofNat 0 then
          .ok (.nothing s.triggered (if s.triggered then "NO_LIQUIDITY" else "NOT_TRIGGERED"))
        else
          .ok ⟨s.triggered, s.total, s.lastPrice,
            if s.total.numEq remaining then "FILLED" else "PARTIAL_FILL"⟩

end L2EventFillModel

end FuturesAgentOs
