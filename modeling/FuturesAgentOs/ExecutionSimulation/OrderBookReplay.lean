import FuturesAgentOs.Decision.Order
import FuturesAgentOs.Decision.Position
import FuturesAgentOs.PyModel.DecimalFormat
import FuturesAgentOs.SharedKernel.IsoTime
import FuturesAgentOs.SharedKernel.Observability

namespace FuturesAgentOs

open PyModel

/-!
# Order book replay

`execution_simulation/order_book_replay.py`: an order is executed against one frozen book, either
by taking the opposite side of the snapshot or by resting behind the depth displayed at its limit
while later events come in.

* `OrderBookReplay.executeResting` — the queue at the limit price, event after event.
-/

/-- `_decimal` -/
def checkBookDecimal (value : Decimal) (label : Text) (positive : Bool := false) : Py Unit :=
  require (Decimal.ofNat 0 ≤ value ∧ (positive = true → ¬ value.numEq (Decimal.ofNat 0)))
    (valueError (label ++ (" must be a " : Text)
      ++ (if positive then ("positive" : Text) else "non-negative") ++ (" finite Decimal" : Text)))

def decimalText (ctx : DecimalContext) (value : Decimal) : Py Text := do
  let normalized ← ctx.normalize value
  .ok (if normalized.numEq (Decimal.ofNat 0) then "0" else normalized.formatF)

/-- The text of a price that may be missing. -/
def decimalItem (ctx : DecimalContext) : Option Decimal → Py Json
  | none => .ok .null
  | some value => do
    let text ← decimalText ctx value
    .ok (.str text)

inductive BookSide where
  | BID
  | ASK
  deriving DecidableEq

def BookSide.value : BookSide → Text
  | BID => "BID"
  | ASK => "ASK"

/-! ### Taking from levels -/

structure BookLevelFields where
  price : Decimal
  quantity : Decimal
  deriving DecidableEq

def BookLevelFields.postInit (f : BookLevelFields) : Py Unit := do
  checkBookDecimal f.price "book price" true
  checkBookDecimal f.quantity "book quantity"

instance : Dataclass BookLevelFields := ⟨BookLevelFields.postInit⟩

/-- A price and what can be traded at it. -/
abbrev BookLevel := Frozen BookLevelFields

/-- One lot at the price 100. -/
def BookLevel.lotAt100 : BookLevel := ⟨⟨Decimal.ofNat 100, Decimal.ofNat 1⟩, by decide⟩

structure DepthConsumption where
  price : Decimal
  availableBefore : Decimal
  quantity : Decimal
  availableAfter : Decimal
  deriving DecidableEq

/-- `DepthConsumption(...)` with its `__post_init__`, which adds two quantities. -/
def DepthConsumption.new (ctx : DecimalContext) (price before quantity after : Decimal) :
    Py DepthConsumption := do
  checkBookDecimal price "consumption price" true
  checkBookDecimal before "depth quantity"
  checkBookDecimal quantity "depth quantity"
  checkBookDecimal after "depth quantity"
  let total ← ctx.add quantity after
  require (before.numEq total) (valueError "depth consumption must conserve quantity")
  .ok ⟨price, before, quantity, after⟩

structure BookFill where
  quantity : Decimal
  notional : Decimal
  remaining : Decimal
  impact : Decimal
  consumedDepth : Decimal := Decimal.ofNat 0
  levels : List DepthConsumption := []
  deriving DecidableEq

/-- How far the loop of `consume` has come. -/
structure Consumed where
  remaining : Decimal
  notional : Decimal := Decimal.ofNat 0
  transitions : List DepthConsumption := []
  deriving DecidableEq

/-- What the loop of `consume` takes from a level. -/
def takeLevel (ctx : DecimalContext) (level : BookLevel) (s : Consumed) : Py Consumed :=
  let take := s.remaining.min' level.fields.quantity
  if take.numEq (Decimal.ofNat 0) then .ok s
  else do
    let after ← ctx.sub level.fields.quantity take
    let transition ← DepthConsumption.new ctx level.fields.price level.fields.quantity take after
    let cost ← ctx.mul take level.fields.price
    let notional ← ctx.add s.notional cost
    let remaining ← ctx.sub s.remaining take
    .ok ⟨remaining, notional, s.transitions ++ [transition]⟩

/-- The loop of `consume`. -/
def consumeLevels (ctx : DecimalContext) : List BookLevel → Consumed → Py Consumed
  | [], s => .ok s
  | level :: rest, s =>
    if s.remaining.numEq (Decimal.ofNat 0) then .ok s
    else do
      let s ← takeLevel ctx level s
      consumeLevels ctx rest s

def consume (ctx : DecimalContext) (levels : List BookLevel) (requested referencePrice : Decimal) :
    Py BookFill := do
  require (levels ≠ []) (valueError "consumption requires book depth")
  require (levels.map (·.fields.price.val)).Nodup
    (valueError "book levels must have unique prices")
  checkBookDecimal requested "requested" true
  checkBookDecimal referencePrice "reference_price" true
  let s ← consumeLevels ctx levels { remaining := requested }
  let filled ← ctx.sub requested s.remaining
  let average ← if filled.numEq (Decimal.ofNat 0) then .ok referencePrice
    else ctx.div s.notional filled
  let impact ← ctx.sub average referencePrice
  .ok ⟨filled, s.notional, s.remaining, impact, filled, s.transitions⟩

/-! ### The frozen book -/

structure BookSnapshotFields where
  sequence : ℤ
  recordedAt : RecordedAt
  bids : List BookLevel
  asks : List BookLevel
  truthSampleRef : Text
  deriving DecidableEq

/-- The best price comes first: the lowest ask, the highest bid. -/
def BookSide.InPriority : BookSide → BookLevel → BookLevel → Prop
  | ASK, a, b => a.fields.price ≤ b.fields.price
  | BID, a, b => b.fields.price ≤ a.fields.price

instance (side : BookSide) : DecidableRel side.InPriority := fun a b => by
  cases side
  · exact inferInstanceAs (Decidable (b.fields.price ≤ a.fields.price))
  · exact inferInstanceAs (Decidable (a.fields.price ≤ b.fields.price))

def validateSide (levels : List BookLevel) (side : BookSide) : Py Unit :=
  require (levels.Pairwise side.InPriority ∧ (levels.map (·.fields.price.val)).Nodup)
    (valueError (side.value ++ (" depth must be unique and price-priority sorted" : Text)))

def BookSnapshotFields.postInit (f : BookSnapshotFields) : Py Unit := do
  require (0 ≤ f.sequence) (valueError "snapshot sequence must be a non-negative integer")
  require f.truthSampleRef.IsScopeText
    (valueError "snapshot requires a canonical truth_sample_ref")
  validateSide f.bids .BID
  validateSide f.asks .ASK
  require (∀ bid ∈ f.bids.head?, ∀ ask ∈ f.asks.head?, bid.fields.price < ask.fields.price)
    (valueError "snapshot book must not be crossed")

instance : Dataclass BookSnapshotFields := ⟨BookSnapshotFields.postInit⟩

/-- A book at one moment. -/
abbrev BookSnapshot := Frozen BookSnapshotFields

/-- `render` in `BookSnapshot.payload`. -/
def renderLevels (ctx : DecimalContext) (levels : List BookLevel) : Py Json := do
  let items ← levels.mapM fun level => do
    let price ← decimalText ctx level.fields.price
    let quantity ← decimalText ctx level.fields.quantity
    Except.ok (Json.obj [("price", .str price), ("quantity", .str quantity)])
  .ok (.arr items)

def BookSnapshot.payload (ctx : DecimalContext) (s : BookSnapshot) : Py Json := do
  let bids ← renderLevels ctx s.fields.bids
  let asks ← renderLevels ctx s.fields.asks
  .ok (.obj [
    ("sequence", .int s.fields.sequence),
    ("recorded_at", .str s.fields.recordedAt.text),
    ("bids", bids),
    ("asks", asks),
    ("truth_sample_ref", .str s.fields.truthSampleRef)])

/-! ### What happens to it -/

inductive BookEventKind where
  | SET_DEPTH
  | TRADE
  deriving DecidableEq

def BookEventKind.value : BookEventKind → Text
  | SET_DEPTH => "SET_DEPTH"
  | TRADE => "TRADE"

structure L4BookEventFields where
  sequence : ℤ
  recordedAt : RecordedAt
  kind : BookEventKind
  side : BookSide
  price : Decimal
  quantity : Decimal
  deriving DecidableEq

def L4BookEventFields.postInit (f : L4BookEventFields) : Py Unit := do
  require (1 ≤ f.sequence) (valueError "event sequence must be a positive integer")
  checkBookDecimal f.price "event price" true
  checkBookDecimal f.quantity "event quantity"

instance : Dataclass L4BookEventFields := ⟨L4BookEventFields.postInit⟩

/-- A new depth at a price, or a trade. -/
abbrev L4BookEvent := Frozen L4BookEventFields

def L4BookEvent.payload (ctx : DecimalContext) (e : L4BookEvent) : Py Json := do
  let price ← decimalText ctx e.fields.price
  let quantity ← decimalText ctx e.fields.quantity
  .ok (.obj [
    ("sequence", .int e.fields.sequence),
    ("recorded_at", .str e.fields.recordedAt.text),
    ("kind", .str e.fields.kind.value),
    ("side", .str e.fields.side.value),
    ("price", .str price),
    ("quantity", .str quantity)])

structure QueueTransition where
  sequence : ℤ
  tradeQuantity : Decimal
  aheadBefore : Decimal
  aheadConsumed : Decimal
  fillQuantity : Decimal
  behindConsumed : Decimal
  unmatched : Decimal
  aheadAfter : Decimal
  behindAfter : Decimal
  deriving DecidableEq

def QueueTransition.postInit (ctx : DecimalContext) (t : QueueTransition) : Py Unit := do
  require (∀ value ∈ [t.tradeQuantity, t.aheadBefore, t.aheadConsumed, t.fillQuantity,
      t.behindConsumed, t.unmatched, t.aheadAfter, t.behindAfter], Decimal.ofNat 0 ≤ value)
    (valueError "queue transition quantity must be a non-negative finite Decimal")
  let consumed ← ctx.add t.aheadConsumed t.fillQuantity
  let consumed ← ctx.add consumed t.behindConsumed
  let total ← ctx.add consumed t.unmatched
  require (t.tradeQuantity.numEq total) (valueError "trade quantity must be conserved")
  let ahead ← ctx.add t.aheadConsumed t.aheadAfter
  require (t.aheadBefore.numEq ahead) (valueError "queue-ahead quantity must be conserved")

inductive L4ReplayStatus where
  | FILLED
  | PARTIAL
  | UNFILLED
  deriving DecidableEq

structure L4ReplayConfigFields where
  modelVersion : Text := "l4-price-time-v1"
  fidelity : Text := "L4_ORDER_BOOK"
  deriving DecidableEq

def L4ReplayConfigFields.postInit (f : L4ReplayConfigFields) : Py Unit := do
  require (IsCanonicalText f.modelVersion) (valueError "model_version must be canonical text")
  require (IsCanonicalText f.fidelity) (valueError "fidelity must be canonical text")
  require (f.fidelity = "L4_ORDER_BOOK") (valueError "L4 replay cannot claim another fidelity")

instance : Dataclass L4ReplayConfigFields := ⟨L4ReplayConfigFields.postInit⟩

/-- The version of the model. -/
abbrev L4ReplayConfig := Frozen L4ReplayConfigFields

/-- `L4ReplayConfig()` -/
def L4ReplayConfig.defaults : L4ReplayConfig := ⟨{}, by decide +kernel⟩

def L4ReplayConfig.digest [Hashlib] (c : L4ReplayConfig) : Py Text :=
  canonicalSha256 (.obj [("model_version", .str c.fields.modelVersion),
    ("fidelity", .str c.fields.fidelity)])

structure L4ReplayResult where
  order : Order
  fills : List Fill
  status : L4ReplayStatus
  reason : Text
  availableLiquidity : Decimal
  consumedLiquidity : Decimal
  remainingQuantity : Decimal
  impact : Decimal
  impactBps : Decimal
  depthTransitions : List DepthConsumption
  queueTransitions : List QueueTransition
  truthSampleRef : Text
  configDigest : Text
  replayDigest : Text
  deriving DecidableEq

/-! ### The replay -/

structure OrderBookReplayFields where
  snapshot : BookSnapshot
  events : List L4BookEvent := []
  config : L4ReplayConfig
  deriving DecidableEq

def validateEvents : List L4BookEvent → ℤ → RecordedAt → Py Unit
  | [], _, _ => .ok ()
  | event :: rest, previousSequence, previousTime => do
    require (previousSequence < event.fields.sequence) (valueError "BOOK_SEQUENCE_ORDER")
    require (event.fields.sequence = previousSequence + 1) (valueError "BOOK_SEQUENCE_GAP")
    require (¬ event.fields.recordedAt < previousTime) (valueError "BOOK_CLOCK_REGRESSION")
    validateEvents rest event.fields.sequence event.fields.recordedAt

/-- The check of `OrderBookReplay.__init__`. -/
def OrderBookReplayFields.postInit (f : OrderBookReplayFields) : Py Unit :=
  validateEvents f.events f.snapshot.fields.sequence f.snapshot.fields.recordedAt

instance : Dataclass OrderBookReplayFields := ⟨OrderBookReplayFields.postInit⟩

/-- A book, and what happens to it, in order. -/
abbrev OrderBookReplay := Frozen OrderBookReplayFields

namespace OrderBookReplay

def validateOrder (order : Order) : Py Unit :=
  require (order.fields.status = .WORKING ∨ order.fields.status = .PARTIALLY_FILLED)
    (valueError "L4 replay requires a working order")

/-- `_levels` -/
def sideLevels (snapshot : BookSnapshot) : BookSide → List BookLevel
  | .BID => snapshot.fields.bids
  | .ASK => snapshot.fields.asks

def opposingSide (direction : TradeDirection) : BookSide :=
  if direction = .LONG then .ASK else .BID

def restingSide (direction : TradeDirection) : BookSide :=
  if direction = .LONG then .BID else .ASK

def orderPayload (ctx : DecimalContext) (order : Order) : Py Json := do
  let quantity ← decimalText ctx order.fields.quantity
  let filledQuantity ← decimalText ctx order.fields.filledQuantity
  let limitPrice ← decimalItem ctx order.fields.limitPrice
  .ok (.obj [
    ("order_id", .str order.fields.orderId.str),
    ("instrument", .str order.fields.instrument),
    ("direction", .str order.fields.direction.value),
    ("quantity", .str quantity),
    ("filled_quantity", .str filledQuantity),
    ("limit_price", limitPrice),
    ("created_at", .str order.fields.createdAt.text)])

variable [Hashlib] (ctx : DecimalContext) (r : OrderBookReplay) (order : Order)

/-- The seed of a fill, `seed` in `_fill`. -/
def fillSeed (quantity price : Decimal) (sequence : ℤ) (index : ℕ) : Py Text := do
  let orderItem ← orderPayload ctx order
  let sample ← r.fields.snapshot.payload ctx
  let events ← r.fields.events.mapM (L4BookEvent.payload ctx)
  let config ← r.fields.config.digest
  let quantityText ← decimalText ctx quantity
  let priceText ← decimalText ctx price
  canonicalSha256 (.obj [
    ("order", orderItem),
    ("sample", sample),
    ("events", .arr events),
    ("config", .str config),
    ("sequence", .int sequence),
    ("index", .int index),
    ("quantity", .str quantityText),
    ("price", .str priceText)])

/-- The identity of a fill. -/
def fillId (quantity price : Decimal) (sequence : ℤ) (index : ℕ) : Py EntityId := do
  let seed ← fillSeed ctx r order quantity price sequence index
  EntityId.deterministic "fill" seed

/-- `_fill`, at the moment of the snapshot where there is no event. -/
def fill (quantity price : Decimal) (event : Option L4BookEvent) (index : ℕ) : Py Fill := do
  let recordedAt := event.elim r.fields.snapshot.fields.recordedAt (·.fields.recordedAt)
  let sequence := event.elim r.fields.snapshot.fields.sequence (·.fields.sequence)
  let identity ← fillId ctx r order quantity price sequence index
  Frozen.make (FillFields.mk identity order.fields.orderId order.fields.instrument
    order.fields.direction quantity price (Decimal.ofNat 0) recordedAt 1
    order.fields.schemaVersion
    (("l4:" : Text) ++ r.fields.config.fields.modelVersion ++ (":" : Text)
      ++ r.fields.snapshot.fields.truthSampleRef))

/-- `_result`, of the given order and what became of it. -/
def result (sourceOrder working : Order) (fills : List Fill)
    (available consumed remaining impact : Decimal) (depthTransitions : List DepthConsumption)
    (queueTransitions : List QueueTransition) (reason : Text)
    (impactBps : Decimal := Decimal.ofNat 0) : Py L4ReplayResult := do
  let status := if remaining.numEq (Decimal.ofNat 0) then L4ReplayStatus.FILLED
    else if fills ≠ [] then .PARTIAL else .UNFILLED
  let orderItem ← orderPayload ctx sourceOrder
  let resultItem ← orderPayload ctx working
  let snapshot ← r.fields.snapshot.payload ctx
  let events ← r.fields.events.mapM (L4BookEvent.payload ctx)
  let config ← r.fields.config.digest
  let availableText ← decimalText ctx available
  let consumedText ← decimalText ctx consumed
  let remainingText ← decimalText ctx remaining
  let impactText ← decimalText ctx impact
  let impactBpsText ← decimalText ctx impactBps
  let digest ← canonicalSha256 (.obj [
    ("order", orderItem),
    ("result_order", resultItem),
    ("snapshot", snapshot),
    ("events", .arr events),
    ("config", .str config),
    ("fills", .arr (fills.map fun fill => .str fill.fields.fillId.str)),
    ("available", .str availableText),
    ("consumed", .str consumedText),
    ("remaining", .str remainingText),
    ("impact", .str impactText),
    ("impact_bps", .str impactBpsText),
    ("reason", .str reason)])
  .ok {
    order := working
    fills
    status
    reason
    availableLiquidity := available
    consumedLiquidity := consumed
    remainingQuantity := remaining
    impact
    impactBps
    depthTransitions
    queueTransitions
    truthSampleRef := r.fields.snapshot.fields.truthSampleRef
    configDigest := config
    replayDigest := digest }

/-! ### Taking the other side -/

/-- Whether a level is within the limit of the order. -/
def isEligible (level : BookLevel) : Bool :=
  order.fields.limitPrice.all fun limit =>
    if order.fields.direction = .LONG then level.fields.price ≤ limit
    else limit ≤ level.fields.price

/-- `eligible` in `execute_aggressive`. -/
def eligibleLevels : List BookLevel :=
  (sideLevels r.fields.snapshot (opposingSide order.fields.direction)).filter (isEligible order)

/-- The fills of the transitions of a sweep, and the order with them. -/
def fillLevels : List DepthConsumption → ℕ → Order → Py (List Fill × Order)
  | [], _, working => .ok ([], working)
  | transition :: rest, index, working => do
    let first ← fill ctx r order transition.quantity transition.price none index
    let working ← working.applyFill ctx (.decimal transition.quantity)
    let (fills, working) ← fillLevels rest (index + 1) working
    .ok (first :: fills, working)

/-- The result where there is nothing to take. -/
def noLiquidity (available remaining : Decimal) : Py L4ReplayResult :=
  result ctx r order order [] available (Decimal.ofNat 0) remaining (Decimal.ofNat 0) [] []
    "NO_LIQUIDITY"

def executeAggressive : Py L4ReplayResult := do
  validateOrder order
  let remaining ← ctx.sub order.fields.quantity order.fields.filledQuantity
  let eligible := eligibleLevels r order
  let available ← ctx.sum (eligible.map (·.fields.quantity))
  match eligible with
  | [] => noLiquidity ctx r order available remaining
  | best :: _ =>
    if available.numEq (Decimal.ofNat 0) then noLiquidity ctx r order available remaining
    else do
      let consumed ← consume ctx eligible remaining best.fields.price
      let (fills, working) ← fillLevels ctx r order consumed.levels 0 order
      let vwap ← ctx.div consumed.notional consumed.quantity
      let impact ← if order.fields.direction = .LONG then ctx.sub vwap best.fields.price
        else ctx.sub best.fields.price vwap
      let share ← ctx.div impact best.fields.price
      let impactBps ← ctx.mul share (Decimal.ofNat 10000)
      result ctx r order working fills available consumed.quantity consumed.remaining impact
        consumed.levels []
        (if consumed.remaining.numEq (Decimal.ofNat 0) then "FILLED" else "PARTIAL_FILL") impactBps

/-! ### Resting behind the displayed depth -/

/-- The state of the loop of `execute_resting`. -/
structure Resting where
  ahead : Decimal
  behind : Decimal := Decimal.ofNat 0
  remaining : Decimal
  working : Order
  fills : List Fill := []
  transitions : List QueueTransition := []
  tradeFlow : Decimal := Decimal.ofNat 0
  deriving DecidableEq

/-- What a new depth at the price does: additions join behind, reductions cancel from behind. -/
def setDepth (quantity : Decimal) (s : Resting) : Py Resting := do
  let current ← ctx.add s.ahead s.behind
  if current ≤ quantity then do
    let added ← ctx.sub quantity current
    let behind ← ctx.add s.behind added
    .ok { s with behind }
  else do
    let reduction ← ctx.sub current quantity
    let cancelledBehind := s.behind.min' reduction
    let behind ← ctx.sub s.behind cancelledBehind
    let left ← ctx.sub reduction cancelledBehind
    let ahead ← ctx.sub s.ahead (s.ahead.min' left)
    .ok { s with ahead, behind }

/-- The fill of what a trade leaves for the order, if it leaves anything. -/
def tradeFill (price : Decimal) (event : L4BookEvent) (fillQuantity : Decimal) (s : Resting) :
    Py (List Fill × Order) :=
  if Decimal.ofNat 0 < fillQuantity then do
    let next ← fill ctx r order fillQuantity price (some event) s.fills.length
    let working ← s.working.applyFill ctx (.decimal fillQuantity)
    .ok (s.fills ++ [next], working)
  else .ok (s.fills, s.working)

/-- What a trade at the price does: it consumes what is ahead, then the order, then what is
behind. -/
def trade (price : Decimal) (event : L4BookEvent) (s : Resting) : Py Resting := do
  let tradeFlow ← ctx.add s.tradeFlow event.fields.quantity
  let aheadConsumed := s.ahead.min' event.fields.quantity
  let ahead ← ctx.sub s.ahead aheadConsumed
  let afterAhead ← ctx.sub event.fields.quantity aheadConsumed
  let fillQuantity := s.remaining.min' afterAhead
  let remaining ← ctx.sub s.remaining fillQuantity
  let (fills, working) ← tradeFill ctx r order price event fillQuantity s
  let afterFill ← ctx.sub afterAhead fillQuantity
  let behindConsumed := s.behind.min' afterFill
  let behind ← ctx.sub s.behind behindConsumed
  let unmatched ← ctx.sub afterFill behindConsumed
  let transition : QueueTransition := ⟨event.fields.sequence, event.fields.quantity, s.ahead,
    aheadConsumed, fillQuantity, behindConsumed, unmatched, ahead, behind⟩
  transition.postInit ctx
  .ok ⟨ahead, behind, remaining, working, fills, s.transitions ++ [transition], tradeFlow⟩

/-- The loop of `execute_resting`. -/
def restingLoop (price : Decimal) : List L4BookEvent → Resting → Py Resting
  | [], s => .ok s
  | event :: rest, s =>
    if event.fields.side ≠ restingSide order.fields.direction ∨ ¬ event.fields.price.numEq price then
      restingLoop price rest s
    else
      match event.fields.kind with
      | .SET_DEPTH => do
        let s ← setDepth ctx event.fields.quantity s
        restingLoop price rest s
      | .TRADE => do
        let s ← trade ctx r order price event s
        if s.remaining.numEq (Decimal.ofNat 0) then .ok s else restingLoop price rest s

/-- The depth displayed at the price when the order comes to rest there. -/
def displayedAhead (price : Decimal) : Decimal :=
  (((sideLevels r.fields.snapshot (restingSide order.fields.direction)).find?
    (fun level => level.fields.price.numEq price)).map (·.fields.quantity)).getD (Decimal.ofNat 0)

def executeResting : Py L4ReplayResult := do
  validateOrder order
  match order.fields.limitPrice with
  | none => .error (valueError "resting L4 replay requires limit_price")
  | some price => do
    let remaining ← ctx.sub order.fields.quantity order.fields.filledQuantity
    let s ← restingLoop ctx r order price r.fields.events
      { ahead := displayedAhead r order price, remaining, working := order }
    let consumed ← ctx.sum (s.fills.map (·.fields.quantity))
    result ctx r order s.working s.fills s.tradeFlow consumed s.remaining (Decimal.ofNat 0) []
      s.transitions
      (if s.remaining.numEq (Decimal.ofNat 0) then "FILLED"
        else if s.fills ≠ [] then "PARTIAL_FILL" else "QUEUE_NOT_REACHED")

end OrderBookReplay

end FuturesAgentOs
