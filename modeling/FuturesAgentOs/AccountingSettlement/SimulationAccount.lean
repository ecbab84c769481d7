import FuturesAgentOs.Decision.Position
import FuturesAgentOs.PyModel.DecimalContext
import FuturesAgentOs.PyModel.Machine

namespace FuturesAgentOs

open PyModel

/-!
# The simulation account

`accounting_settlement/ledger.py`.  A method takes the account to its answer and the account it
leaves behind; amounts are added and multiplied in a decimal context, `ctx`.

* `AccountOp`, `machine` — one call of any of them.
-/

/-- The cash, margin, accumulators and lots of an account. -/
structure AccountState where
  cash : Decimal
  margin : Decimal := Decimal.ofNat 0
  realizedPnl : Decimal := Decimal.ofNat 0
  fees : Decimal := Decimal.ofNat 0
  lots : List PositionLot := []
  deriving DecidableEq

/-- The arguments of `SimulationAccount(…)`. -/
structure AccountConfigFields where
  initialCash : Decimal
  contractMultiplier : Decimal := Decimal.ofNat 1
  accountId : Option EntityId := none
  deriving DecidableEq

namespace AccountConfigFields

/-- The checks of `SimulationAccount.__init__`. -/
def postInit (f : AccountConfigFields) : Py Unit := do
  require (Decimal.ofNat 0 ≤ f.initialCash) (valueError "initial cash must be non-negative")
  require (Decimal.ofNat 0 < f.contractMultiplier)
    (valueError "contract multiplier must be positive")

instance : Dataclass AccountConfigFields := ⟨postInit⟩

end AccountConfigFields

/-- A set of identities that were already applied, in the order they were. -/
abbrev AppliedSet (α : Type) := Dict α Unit

namespace AppliedSet

variable {α : Type} [DecidableEq α]

/-- `x in s` -/
def Has (s : AppliedSet α) (x : α) : Prop := s.get? x = some ()

instance (s : AppliedSet α) (x : α) : Decidable (s.Has x) :=
  inferInstanceAs (Decidable (_ = _))

/-- `s.add(x)` -/
def add (s : AppliedSet α) (x : α) : AppliedSet α := s.set x ()

/-- `set(xs)` -/
def ofList (xs : List α) : AppliedSet α := xs.foldl add .empty

end AppliedSet

/-- A deterministic single-writer account projection. -/
structure SimulationAccount where
  config : Frozen AccountConfigFields
  state : AccountState
  appliedFills : AppliedSet EntityId
  appliedSettlements : AppliedSet EntityId
  settlementDates : AppliedSet Text
  /-- `_settlement_cash_adjustment`: the part of settlement cash that is not realized pnl. -/
  settlementCashAdjustment : Decimal
  deriving DecidableEq

structure SimulationAccountSnapshot where
  initialCash : Decimal
  contractMultiplier : Decimal
  accountId : Option EntityId
  state : AccountState
  appliedFills : List EntityId
  appliedSettlements : List EntityId
  settlementDates : List Text
  settlementCashAdjustment : Decimal
  deriving DecidableEq

/-- `Decimal("1") if direction is LONG else Decimal("-1")` -/
def TradeDirection.sign : TradeDirection → Decimal
  | LONG => Decimal.ofNat 1
  | SHORT => ⟨true, 1, 0⟩

namespace SimulationAccount

variable (ctx : DecimalContext)

/-- `SimulationAccount(…)` with checked arguments. -/
def new (config : Frozen AccountConfigFields) : SimulationAccount where
  config := config
  state := { cash := config.fields.initialCash }
  appliedFills := .empty
  appliedSettlements := .empty
  settlementDates := .empty
  settlementCashAdjustment := Decimal.ofNat 0

def multiplier (a : SimulationAccount) : Decimal := a.config.fields.contractMultiplier

def accountId (a : SimulationAccount) : Option EntityId := a.config.fields.accountId

/-- `(price - lot.average_price) * quantity * sign * multiplier` -/
def lotPnl (multiplier price : Decimal) (lot : PositionLot) (quantity : Decimal) : Py Decimal := do
  let move ← ctx.sub price lot.fields.averagePrice
  let amount ← ctx.mul move quantity
  let signed ← ctx.mul amount lot.fields.direction.sign
  ctx.mul signed multiplier

/-- The pnl of all lots at a price, summed from `total`. -/
def lotsPnl (multiplier price : Decimal) (lots : List PositionLot) (total : Decimal) :
    Py Decimal :=
  lots.foldlM (fun total lot => do
    let pnl ← lotPnl ctx multiplier price lot lot.fields.quantity
    ctx.add total pnl) total

/-- `unrealized_pnl`; `none` is an argument that is not a finite `Decimal`. -/
def unrealizedPnl (a : SimulationAccount) (markPrice : Option Decimal) : Py Decimal :=
  match markPrice with
  | none => .error (valueError "mark price must be positive")
  | some mark => do
    require (Decimal.ofNat 0 < mark) (valueError "mark price must be positive")
    lotsPnl ctx a.multiplier mark a.state.lots (Decimal.ofNat 0)

/-- The account with another state, and the state as the answer. -/
def answer (a : SimulationAccount) (state : Py AccountState) :
    Py AccountState × SimulationAccount :=
  match state with
  | .error e => (.error e, a)
  | .ok state => (.ok state, { a with state := state })

/-- `reserve_margin`; `none` is an argument that is not a finite `Decimal`. -/
def reserveMargin (a : SimulationAccount) (amount : Option Decimal) :
    Py AccountState × SimulationAccount :=
  a.answer (do
    match amount with
    | none => .error (valueError "margin reservation must be positive")
    | some amount =>
      require (Decimal.ofNat 0 < amount) (valueError "margin reservation must be positive")
      let available ← ctx.sub a.state.cash a.state.margin
      require (amount ≤ available) (valueError "insufficient available cash for margin")
      let margin ← ctx.add a.state.margin amount
      .ok { a.state with margin := margin })

/-- `release_margin`; `none` is an argument that is not a finite `Decimal`. -/
def releaseMargin (a : SimulationAccount) (amount : Option Decimal) :
    Py AccountState × SimulationAccount :=
  a.answer (do
    match amount with
    | none => .error (valueError "margin release exceeds frozen margin")
    | some amount =>
      require (Decimal.ofNat 0 < amount ∧ amount ≤ a.state.margin)
        (valueError "margin release exceeds frozen margin")
      let margin ← ctx.sub a.state.margin amount
      .ok { a.state with margin := margin })

/-- The account that a settlement of `mark_to_market` names. -/
def settlementAccount [Hashlib] (a : SimulationAccount) : Py EntityId :=
  match a.accountId with
  | some id => .ok id
  | none => EntityId.deterministic "simulation_account" "anonymous"

/-- `mark_to_market`; a `none` is an argument of another type, or not a finite `Decimal`. -/
def markToMarket [Hashlib] (a : SimulationAccount) (settlementId : Option EntityId)
    (tradingDate : Text) (settlementPrice : Option Decimal) (now : Option RecordedAt) :
    Py Settlement :=
  match settlementPrice with
  | none => .error (valueError "settlement price must be positive")
  | some price => do
    require (Decimal.ofNat 0 < price) (valueError "settlement price must be positive")
    match settlementId with
    | none => .error (valueError "mark-to-market requires a settlement id")
    | some settlementId =>
      require (settlementId.nspace = "settlement")
        (valueError "mark-to-market requires a settlement id")
      match now with
      | none => .error (typeError "mark-to-market requires a RecordedAt")
      | some now =>
        let pnl ← lotsPnl ctx a.multiplier price a.state.lots (Decimal.ofNat 0)
        let account ← a.settlementAccount
        Frozen.make
          { settlementId := settlementId
            accountId := account
            tradingDate := tradingDate
            cashDelta := pnl
            realizedPnl := pnl
            fees := Decimal.ofNat 0
            recordedAt := now
            settlementPrice := some price }

/-- The checks of `apply_fill` on its identifiers. -/
def checkFillIds (a : SimulationAccount) (lotId accountId : Option EntityId) :
    Py (EntityId × EntityId) := do
  match accountId with
  | none => .error (valueError "fill account must be a simulation_account id")
  | some accountId =>
    require (accountId.nspace = "simulation_account")
      (valueError "fill account must be a simulation_account id")
    require (a.accountId = none ∨ a.accountId = some accountId) (valueError "fill account mismatch")
    match lotId with
    | none => .error (valueError "fill lot must be a position_lot id")
    | some lotId =>
      require (lotId.nspace = "position_lot") (valueError "fill lot must be a position_lot id")
      require (lotId ∉ a.state.lots.map (·.fields.lotId)) (valueError "lot id already exists")
      .ok (lotId, accountId)

/-- The fields of the lot that an opening fill adds. -/
def openedLot (fill : Fill) (lotId accountId : EntityId) : PositionLotFields where
  lotId := lotId
  accountId := accountId
  instrument := fill.fields.instrument
  direction := fill.fields.direction
  quantity := fill.fields.quantity
  averagePrice := fill.fields.price
  openedAt := fill.fields.filledAt
  sourceFillId := some fill.fields.fillId

/-- The state that `apply_fill` builds. -/
def filledState (a : SimulationAccount) (fill : Fill) (lotId accountId : Option EntityId) :
    Py AccountState := do
  let (lotId, accountId) ← a.checkFillIds lotId accountId
  let cash ← ctx.sub a.state.cash fill.fields.fee
  let lot ← Frozen.make (openedLot fill lotId accountId)
  let fees ← ctx.add a.state.fees fill.fields.fee
  .ok { a.state with cash := cash, fees := fees, lots := a.state.lots ++ [lot] }

/-- `apply_fill`; a `none` is an argument that is not an `EntityId`. -/
def applyFill (a : SimulationAccount) (fill : Fill) (lotId accountId : Option EntityId) :
    Py AccountState × SimulationAccount :=
  if a.appliedFills.Has fill.fields.fillId then (.ok a.state, a)
  else
    match a.filledState ctx fill lotId accountId with
    | .error e => (.error e, a)
    | .ok state =>
      (.ok state, { a with state, appliedFills := a.appliedFills.add fill.fields.fillId })

/-- The fields of a lot that carries a new cost basis. -/
def repricedLot (price : Decimal) (f : PositionLotFields) : PositionLotFields :=
  { f with averagePrice := price, version := f.version + 1 }

/-- The checks of `settle` and the state it builds. -/
def settledState (a : SimulationAccount) (s : Settlement) : Py AccountState := do
  require (¬ a.settlementDates.Has s.fields.tradingDate)
    (valueError "duplicate settlement trading date")
  require (a.accountId = none ∨ a.accountId = some s.fields.accountId)
    (valueError "settlement account mismatch")
  -- An end-of-day mark becomes the next day's cost basis.
  let lots ← match s.fields.settlementPrice with
    | none => .ok a.state.lots
    | some price =>
      a.state.lots.mapM (fun lot => lot.replace (repricedLot price))
  let cash ← ctx.add a.state.cash s.fields.cashDelta
  let realized ← ctx.add a.state.realizedPnl s.fields.realizedPnl
  let fees ← ctx.add a.state.fees s.fields.fees
  .ok { cash, margin := a.state.margin, realizedPnl := realized, fees, lots }

/-- The new `_settlement_cash_adjustment`. -/
def settledAdjustment (a : SimulationAccount) (s : Settlement) : Py Decimal := do
  let other ← ctx.sub s.fields.cashDelta s.fields.realizedPnl
  let withFees ← ctx.add other s.fields.fees
  ctx.add a.settlementCashAdjustment withFees

def settle (a : SimulationAccount) (s : Settlement) : Py AccountState × SimulationAccount :=
  if a.appliedSettlements.Has s.fields.settlementId then (.ok a.state, a)
  else
    match a.settledState ctx s with
    | .error e => (.error e, a)
    | .ok state =>
      -- the state is assigned before the adjustment is computed
      match a.settledAdjustment ctx s with
      | .error e => (.error e, { a with state })
      | .ok adjustment =>
        (.ok state,
          { a with
            state
            settlementCashAdjustment := adjustment
            appliedSettlements := a.appliedSettlements.add s.fields.settlementId
            settlementDates := a.settlementDates.add s.fields.tradingDate })

/-- A lot that a closing fill may reduce. -/
def IsCandidate (fill : Fill) (closeToday : Bool) (lot : PositionLot) : Prop :=
  lot.fields.instrument = fill.fields.instrument ∧ lot.fields.direction ≠ fill.fields.direction
    ∧ (closeToday = false ∨ lot.fields.openedAt.date = fill.fields.filledAt.date)

instance (fill : Fill) (closeToday : Bool) (lot : PositionLot) :
    Decidable (IsCandidate fill closeToday lot) :=
  inferInstanceAs (Decidable (_ ∧ _))

/-- The fields of the lot that a partial close leaves. -/
def reducedLot (lot : PositionLot) (quantity : Decimal) : PositionLotFields where
  lotId := lot.fields.lotId
  accountId := lot.fields.accountId
  instrument := lot.fields.instrument
  direction := lot.fields.direction
  quantity := quantity
  averagePrice := lot.fields.averagePrice
  openedAt := lot.fields.openedAt
  sourceFillId := lot.fields.sourceFillId
  version := lot.fields.version + 1

/-- The loop of `close` over the lots, with `remaining` and `realized` so far.  It returns the
lots that stay and the realized pnl. -/
def closeLots (multiplier : Decimal) (fill : Fill) (candidates : List PositionLot) :
    (lots : List PositionLot) → (remaining realized : Decimal) →
      Py (List PositionLot × Decimal)
  | [], _, realized => .ok ([], realized)
  | lot :: lots, remaining, realized =>
    if ¬ candidates.any (fun c => lot.SameAs c) ∨ remaining ≤ Decimal.ofNat 0 then do
      let (kept, realized) ← closeLots multiplier fill candidates lots remaining realized
      .ok (lot :: kept, realized)
    else do
      let matched := Decimal.min' lot.fields.quantity remaining
      let pnl ← lotPnl ctx multiplier fill.fields.price lot matched
      let realized ← ctx.add realized pnl
      let remaining ← ctx.sub remaining matched
      if matched < lot.fields.quantity then
        let quantity ← ctx.sub lot.fields.quantity matched
        let reduced ← Frozen.make (reducedLot lot quantity)
        let (kept, realized) ← closeLots multiplier fill candidates lots remaining realized
        .ok (reduced :: kept, realized)
      else closeLots multiplier fill candidates lots remaining realized

/-- The checks of `_close_locked` and the state it builds. -/
def closedState (a : SimulationAccount) (fill : Fill) (closeToday : Bool) : Py AccountState := do
  require (a.accountId = none ∨ fill.fields.orderId.nspace = "order")
    (valueError "close fill requires an order id")
  let candidates := a.state.lots.filter (fun lot => IsCandidate fill closeToday lot)
  let available ← ctx.sum (candidates.map (·.fields.quantity))
  require (fill.fields.quantity ≤ available) (valueError "close quantity exceeds position")
  let (lots, realized) ← closeLots ctx a.multiplier fill candidates a.state.lots
    fill.fields.quantity (Decimal.ofNat 0)
  let gained ← ctx.add a.state.cash realized
  let cash ← ctx.sub gained fill.fields.fee
  let realizedPnl ← ctx.add a.state.realizedPnl realized
  let fees ← ctx.add a.state.fees fill.fields.fee
  .ok { cash, margin := a.state.margin, realizedPnl, fees, lots }

def close (a : SimulationAccount) (fill : Fill) (closeToday : Bool) :
    Py AccountState × SimulationAccount :=
  if a.appliedFills.Has fill.fields.fillId then (.ok a.state, a)
  else
    match a.closedState ctx fill closeToday with
    | .error e => (.error e, a)
    | .ok state =>
      (.ok state, { a with state, appliedFills := a.appliedFills.add fill.fields.fillId })

def conservationResidual (a : SimulationAccount) : Py Decimal := do
  let earned ← ctx.add a.config.fields.initialCash a.state.realizedPnl
  let adjusted ← ctx.add earned a.settlementCashAdjustment
  let expected ← ctx.sub adjusted a.state.fees
  ctx.sub a.state.cash expected

def assertConservation (a : SimulationAccount) : Py Unit := do
  let residual ← a.conservationResidual ctx
  require (residual.numEq (Decimal.ofNat 0))
    (valueError "account cash conservation violated")

/-- `sorted(xs, key=str)` -/
def sortedIds (xs : List EntityId) : List EntityId := xs.mergeSort (fun a b => Text.le a.str b.str)

def snapshot (a : SimulationAccount) : Py SimulationAccountSnapshot := do
  a.assertConservation ctx
  .ok
    { initialCash := a.config.fields.initialCash
      contractMultiplier := a.multiplier
      accountId := a.accountId
      state := a.state
      appliedFills := sortedIds a.appliedFills.keys
      appliedSettlements := sortedIds a.appliedSettlements.keys
      settlementDates := a.settlementDates.keys.mergeSort Text.le
      settlementCashAdjustment := a.settlementCashAdjustment }

def restore (s : SimulationAccountSnapshot) : Py SimulationAccount := do
  let config ← Frozen.make
    { initialCash := s.initialCash
      contractMultiplier := s.contractMultiplier
      accountId := s.accountId : AccountConfigFields }
  require (s.appliedFills.Nodup ∧ s.appliedFills.all (fun id => id.nspace = "fill"))
    (valueError "snapshot contains invalid or duplicate fill identities")
  require (s.appliedSettlements.Nodup
      ∧ s.appliedSettlements.all (fun id => id.nspace = "settlement"))
    (valueError "snapshot contains invalid or duplicate settlement identities")
  require (s.settlementDates.Nodup ∧ s.settlementDates.all (fun date => date ≠ []))
    (valueError "snapshot contains invalid or duplicate settlement dates")
  require ((s.state.lots.map (·.fields.lotId)).Nodup
      ∧ s.state.lots.all (fun lot =>
        s.accountId = none ∨ s.accountId = some lot.fields.accountId))
    (valueError "snapshot contains invalid or duplicate lots")
  let account : SimulationAccount :=
    { config
      state := s.state
      appliedFills := .ofList s.appliedFills
      appliedSettlements := .ofList s.appliedSettlements
      settlementDates := .ofList s.settlementDates
      settlementCashAdjustment := s.settlementCashAdjustment }
  account.assertConservation ctx
  .ok account

end SimulationAccount

/-! ### The frozen margin -/

namespace SimulationAccount

variable (ctx : DecimalContext) (a : SimulationAccount)

/-- The account with another frozen margin. -/
def withMargin (margin : Decimal) : SimulationAccount :=
  { a with state := { a.state with margin := margin } }

theorem answer_eq_withMargin {state : Py AccountState}
    (hstate : ∀ s, state = .ok s → ∃ margin, s = { a.state with margin := margin }) :
    ∃ margin, (a.answer state).2 = a.withMargin margin := by
  rcases state with e | s
  · exact ⟨a.state.margin, rfl⟩
  · obtain ⟨margin, rfl⟩ := hstate s rfl
    exact ⟨margin, rfl⟩

theorem reserveMargin_eq_withMargin (amount : Option Decimal) :
    ∃ margin, (a.reserveMargin ctx amount).2 = a.withMargin margin := by
  apply answer_eq_withMargin
  intro s hs
  rcases amount with _ | amount
  · cases hs
  · obtain ⟨-, hs⟩ := of_require hs
    obtain ⟨available, -, hs⟩ := Py.of_bind hs
    obtain ⟨-, hs⟩ := of_require hs
    obtain ⟨margin, -, hs⟩ := Py.of_bind hs
    injection hs with hs
    exact ⟨margin, hs.symm⟩

theorem releaseMargin_eq_withMargin (amount : Option Decimal) :
    ∃ margin, (a.releaseMargin ctx amount).2 = a.withMargin margin := by
  apply answer_eq_withMargin
  intro s hs
  rcases amount with _ | amount
  · cases hs
  · obtain ⟨-, hs⟩ := of_require hs
    obtain ⟨margin, -, hs⟩ := Py.of_bind hs
    injection hs with hs
    exact ⟨margin, hs.symm⟩

end SimulationAccount

/-! ### The machine of all calls -/

/-- One call that may move an account, or replace it by one restored from a snapshot. -/
inductive AccountOp where
  | reserveMargin (amount : Option Decimal)
  | releaseMargin (amount : Option Decimal)
  | applyFill (fill : Fill) (lotId accountId : Option EntityId)
  | settle (settlement : Settlement)
  | close (fill : Fill) (closeToday : Bool)
  | restore (snapshot : SimulationAccountSnapshot)

namespace SimulationAccount

variable (ctx : DecimalContext)

/-- One call. -/
def step (a : SimulationAccount) : AccountOp → Py AccountState × SimulationAccount
  | .reserveMargin amount => a.reserveMargin ctx amount
  | .releaseMargin amount => a.releaseMargin ctx amount
  | .applyFill fill lotId accountId => a.applyFill ctx fill lotId accountId
  | .settle settlement => a.settle ctx settlement
  | .close fill closeToday => a.close ctx fill closeToday
  | .restore snapshot =>
    match restore ctx snapshot with
    | .error e => (.error e, a)
    | .ok restored => (.ok restored.state, restored)

/-- The machine of all calls on an account. -/
def machine : Machine SimulationAccount AccountOp (Py AccountState) := ⟨step ctx⟩

/-- The account after a sequence of calls on a new one. -/
def run (config : Frozen AccountConfigFields) (ops : List AccountOp) : SimulationAccount :=
  (machine ctx).exec (new config) ops

end SimulationAccount

end FuturesAgentOs
