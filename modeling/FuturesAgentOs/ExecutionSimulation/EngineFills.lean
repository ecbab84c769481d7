import FuturesAgentOs.ExecutionSimulation.BarFills
import FuturesAgentOs.ExecutionSimulation.SimulationEngine

namespace FuturesAgentOs

open PyModel

/-!
# Limit and stop orders in the simulation engine

`execute_l1` asks the fill model without a limit price or a stop price, also for an order that
carries one.

* `fillsAsModel_iff` — of a limit or a stop order this holds exactly when the fill model fills
  nothing of it either (`OwnFill`, `ownFill_iff`).
-/

/-- The price and the quantity that a decision of the fill model fills. -/
def modelFill : Py FillDecision → Option (Decimal × Decimal)
  | .error _ => none
  | .ok decision => decision.price.bind fun price =>
    if Decimal.ofNat 0 < decision.filledQuantity then some (price, decision.filledQuantity)
    else none

/-- The price and the quantity of the fill of a result. -/
def engineFill : Py EngineResult → Option (Decimal × Decimal)
  | .error _ => none
  | .ok result => result.fill.map fun fill => (fill.fields.price, fill.fields.quantity)

/-- The account and the order record a fill of the order. -/
structure RecordsFill (ctx : DecimalContext) (order : Order) (account : SimulationAccount)
    (fill : Fill) (result : EngineResult) (account' : SimulationAccount) : Prop where
  order : order.applyFill ctx (.decimal fill.fields.quantity) = .ok result.order
  lot : ∃ lot : PositionLot, lot.fields.quantity = fill.fields.quantity
    ∧ lot.fields.sourceFillId = some fill.fields.fillId
    ∧ account'.state.lots = account.state.lots ++ [lot]

section

variable [Hashlib] (ctx : DecimalContext) (order : Order) (bar : L1Bar)
  (account : SimulationAccount) (now : RecordedAt) (orderType : FillOrderType) (newId : EntityId)

/-- **The engine fills an order as the fill model** with the prices of the order. -/
structure FillsAsModel : Prop where
  same : engineFill (executeL1 ctx order bar account now orderType newId).1
    = modelFill (L1FillModel.default.simulate ctx order bar orderType order.fields.limitPrice
      order.fields.stopPrice)
  recorded : ∀ result fill, (executeL1 ctx order bar account now orderType newId).1 = .ok result →
    result.fill = some fill → RecordsFill ctx order account fill result
      (executeL1 ctx order bar account now orderType newId).2

end

section

variable (ctx : DecimalContext) (order : Order) (bar : L1Bar)

/-- The price, before slippage, at which the bar triggers the order by its own price. -/
def ownLevel : FillOrderType → Option Decimal
  | .MARKET => some bar.fields.opening
  | .LIMIT => order.fields.limitPrice.bind fun limit =>
    if order.fields.direction = .LONG then
      if bar.fields.low ≤ limit then some (bar.fields.opening.min' limit) else none
    else if limit ≤ bar.fields.high then some (bar.fields.opening.max' limit) else none
  | .STOP => order.fields.stopPrice.bind fun stop =>
    if order.fields.direction = .LONG then
      if stop ≤ bar.fields.high then some (bar.fields.opening.max' stop) else none
    else if bar.fields.low ≤ stop then some (bar.fields.opening.min' stop) else none

/-- The bar is locked at its price limit against the order. -/
def Locked (price : Decimal) : Prop :=
  order.fields.direction = .LONG ∧ (∃ limitUp ∈ bar.fields.limitUp, limitUp ≤ price)
    ∨ order.fields.direction = .SHORT ∧ ∃ limitDown ∈ bar.fields.limitDown, price ≤ limitDown

/-- The bar has a fill for the order at its own price: the order works, the bar triggers it and is
not locked, and there is something to trade and something left of the order. -/
structure OwnFill (orderType : FillOrderType) (price remaining : Decimal) : Prop where
  working : order.fields.status = .WORKING ∨ order.fields.status = .PARTIALLY_FILLED
  triggered : ∃ level, ownLevel order bar orderType = some level
    ∧ L1FillModel.Moved ctx .default order level price
  liquid : Decimal.ofNat 0 < bar.fields.availableQuantity
  left : ctx.sub order.fields.quantity order.fields.filledQuantity = .ok remaining
    ∧ Decimal.ofNat 0 < remaining
  unlocked : ¬ Locked order bar price

end

/-! ### What the fill model fills -/

section

variable {ctx : DecimalContext} {order : Order} {bar : L1Bar} {orderType : FillOrderType}
  {price remaining : Decimal}

theorem trigger_own (order : Order) (bar : L1Bar) (orderType : FillOrderType) :
    (∃ level, ownLevel order bar orderType = some level
      ∧ L1FillModel.trigger order bar orderType order.fields.limitPrice order.fields.stopPrice
        = .ok (true, level)
      ∧ L1FillModel.crossed order orderType level order.fields.stopPrice order.fields.limitPrice
        = true)
    ∨ ownLevel order bar orderType = none
      ∧ ((∃ reason, L1FillModel.trigger order bar orderType order.fields.limitPrice
          order.fields.stopPrice = .error (.nothing false reason))
        ∨ ∃ level, L1FillModel.trigger order bar orderType order.fields.limitPrice
          order.fields.stopPrice = .ok (false, level)) := by
  cases orderType with
  | MARKET => exact Or.inl ⟨_, rfl, rfl, rfl⟩
  | LIMIT =>
    rcases hlimit : order.fields.limitPrice with _ | limit
    · exact Or.inr ⟨by simp [ownLevel, hlimit], Or.inl ⟨_, rfl⟩⟩
    · by_cases hreach : L1FillModel.Reaches order bar limit
      · refine Or.inl ⟨L1FillModel.limitLevel order bar limit, ?_, ?_,
          L1FillModel.crossed_limitLevel order bar limit _⟩
        · unfold L1FillModel.Reaches at hreach
          unfold ownLevel L1FillModel.limitLevel
          by_cases hside : order.fields.direction = .LONG
          · simp_all
          · simp_all
        · rw [L1FillModel.trigger_limit, decide_eq_true hreach]
      · refine Or.inr ⟨?_, Or.inr ⟨L1FillModel.limitLevel order bar limit, ?_⟩⟩
        · unfold L1FillModel.Reaches at hreach
          unfold ownLevel
          by_cases hside : order.fields.direction = .LONG
          · simp_all
          · simp_all
        · rw [L1FillModel.trigger_limit, decide_eq_false hreach]
  | STOP =>
    rcases hstop : order.fields.stopPrice with _ | stop
    · exact Or.inr ⟨by simp [ownLevel, hstop], Or.inl ⟨_, rfl⟩⟩
    · unfold ownLevel L1FillModel.trigger L1FillModel.crossed
      by_cases hside : order.fields.direction = .LONG
      · by_cases hreach : stop ≤ bar.fields.high
        · exact Or.inl ⟨bar.fields.opening.max' stop, by simp [hstop, hside, hreach],
            by simp [hside, hreach], by simp [hside, Decimal.le_def, Decimal.val_max']⟩
        · exact Or.inr ⟨by simp [hstop, hside, hreach],
            Or.inr ⟨bar.fields.opening.max' stop, by simp [hside, hreach]⟩⟩
      · by_cases hreach : bar.fields.low ≤ stop
        · exact Or.inl ⟨bar.fields.opening.min' stop, by simp [hstop, hside, hreach],
            by simp [hside, hreach], by simp [hside, Decimal.le_def, Decimal.val_min']⟩
        · exact Or.inr ⟨by simp [hstop, hside, hreach],
            Or.inr ⟨bar.fields.opening.min' stop, by simp [hside, hreach]⟩⟩

theorem OwnFill.simulate_eq (h : OwnFill ctx order bar orderType price remaining) :
    ∃ reason, L1FillModel.default.simulate ctx order bar orderType order.fields.limitPrice
        order.fields.stopPrice
      = .ok ⟨true, remaining.min' bar.fields.availableQuantity, some price, reason⟩ := by
  obtain ⟨hworking, ⟨level, hlevel, hmoved⟩, hliquid, ⟨hleft, -⟩, hlocked⟩ := h
  rcases trigger_own order bar orderType with ⟨level', hlevel', htrigger, hcrossed⟩ | ⟨hnone, -⟩
  · obtain rfl : level' = level := Option.some.inj (hlevel'.symm.trans hlevel)
    unfold Locked at hlocked
    rw [not_or] at hlocked
    refine ⟨if (remaining.min' bar.fields.availableQuantity).numEq remaining then "FILLED"
      else "PARTIAL_FILL", ?_⟩
    unfold L1FillModel.simulate requireWorking
    rw [require_of_pos hworking, Py.ok_bind, htrigger]
    simp only [hcrossed, Bool.true_eq_false, or_self, if_false,
      if_neg (Decimal.not_le.mpr hliquid), hleft, Py.ok_bind]
    refine L1FillModel.moved_bind_eq_ok.mpr ⟨price, hmoved, ?_⟩
    rw [if_neg hlocked.1, if_neg hlocked.2]
  · rw [hnone] at hlevel
    cases hlevel

theorem ownFill_of_simulate {d : FillDecision}
    (h : L1FillModel.default.simulate ctx order bar orderType order.fields.limitPrice
      order.fields.stopPrice = .ok d)
    (hprice : d.price = some price) (hquantity : Decimal.ofNat 0 < d.filledQuantity) :
    ∃ remaining, OwnFill ctx order bar orderType price remaining
      ∧ d.filledQuantity = remaining.min' bar.fields.availableQuantity := by
  unfold L1FillModel.simulate at h
  obtain ⟨hworking, h⟩ := of_require h
  have hnothing : ∀ {triggered reason}, FillDecision.nothing triggered reason ≠ d := by
    rintro triggered reason rfl
    cases hprice
  rcases trigger_own order bar orderType with ⟨level, hlevel, htrigger, hcrossed⟩ |
    ⟨-, ⟨reason, htrigger⟩ | ⟨level, htrigger⟩⟩
  · rw [htrigger] at h
    simp only [hcrossed, Bool.true_eq_false, or_self, if_false] at h
    by_cases hliquid : bar.fields.availableQuantity ≤ Decimal.ofNat 0
    · rw [if_pos hliquid] at h
      exact absurd (Except.ok.inj h) hnothing
    rw [if_neg hliquid] at h
    obtain ⟨remaining, hleft, h⟩ := Py.of_bind h
    obtain ⟨p, hmoved, h⟩ := L1FillModel.moved_bind_eq_ok.mp h
    -- a bar locked against the order fills nothing
    split at h
    · exact absurd (Except.ok.inj h) hnothing
    rename_i hup
    split at h
    · exact absurd (Except.ok.inj h) hnothing
    rename_i hdown
    obtain rfl := Except.ok.inj h
    obtain rfl := Option.some.inj hprice
    have hpos : Decimal.ofNat 0 < remaining := by
      rw [Decimal.lt_def, Decimal.val_min', lt_min_iff] at hquantity
      exact hquantity.1
    refine ⟨remaining, ⟨hworking, ⟨level, hlevel, hmoved⟩, Decimal.not_le.mp hliquid,
      ⟨hleft, hpos⟩, ?_⟩, rfl⟩
    rintro (hlocked | hlocked)
    · exact hup hlocked
    · exact hdown hlocked
  · rw [htrigger] at h
    exact absurd (Except.ok.inj h) hnothing
  · rw [htrigger] at h
    exact absurd (Except.ok.inj h) hnothing

/-- **What the fill model fills at the price of the order**: what is left of it, as far as the bar
has it. -/
theorem modelFill_eq_some {quantity : Decimal} :
    modelFill (L1FillModel.default.simulate ctx order bar orderType order.fields.limitPrice
        order.fields.stopPrice) = some (price, quantity)
      ↔ ∃ remaining, OwnFill ctx order bar orderType price remaining
        ∧ quantity = remaining.min' bar.fields.availableQuantity := by
  constructor
  · intro h
    rcases hsimulate : L1FillModel.default.simulate ctx order bar orderType
        order.fields.limitPrice order.fields.stopPrice with e | d
    · rw [hsimulate] at h
      cases h
    rw [hsimulate] at h
    obtain ⟨p, hprice, h⟩ := Option.bind_eq_some_iff.mp h
    by_cases hquantity : Decimal.ofNat 0 < d.filledQuantity
    · rw [if_pos hquantity] at h
      obtain ⟨rfl, rfl⟩ := Prod.mk.inj (Option.some.inj h)
      exact ownFill_of_simulate hsimulate hprice hquantity
    · rw [if_neg hquantity] at h
      cases h
  · rintro ⟨remaining, hown, rfl⟩
    obtain ⟨reason, hsimulate⟩ := hown.simulate_eq
    have hpos : Decimal.ofNat 0 < remaining.min' bar.fields.availableQuantity := by
      rw [Decimal.lt_def, Decimal.val_min', lt_min_iff]
      exact ⟨hown.left.2, hown.liquid⟩
    rw [hsimulate]
    show (if Decimal.ofNat 0 < remaining.min' bar.fields.availableQuantity then
      some (price, remaining.min' bar.fields.availableQuantity) else none) = _
    rw [if_pos hpos]

end

/-! ### What the engine fills -/

section

variable [Hashlib] {ctx : DecimalContext} {order : Order} {bar : L1Bar}
  {account : SimulationAccount} {now : RecordedAt} {orderType : FillOrderType} {newId : EntityId}

omit [Hashlib] in
variable (ctx order bar) in
/-- Without a price the model fills no limit or stop order. -/
theorem simulate_unpriced (hkind : orderType ≠ .MARKET) :
    (∃ e, L1FillModel.default.simulate ctx order bar orderType = .error e)
      ∨ ∃ reason, L1FillModel.default.simulate ctx order bar orderType
        = .ok (.nothing false reason) := by
  unfold L1FillModel.simulate requireWorking
  by_cases hworking : order.fields.status = .WORKING ∨ order.fields.status = .PARTIALLY_FILLED
  · rw [require_of_pos hworking, Py.ok_bind]
    cases orderType with
    | MARKET => exact absurd rfl hkind
    | LIMIT => exact Or.inr ⟨_, rfl⟩
    | STOP => exact Or.inr ⟨_, rfl⟩
  · rw [require_of_neg hworking]
    exact Or.inl ⟨_, rfl⟩

variable (ctx order bar account now newId) in
/-- The engine fills no limit or stop order. -/
theorem executeL1_unpriced (hkind : orderType ≠ .MARKET) :
    (∃ e, (executeL1 ctx order bar account now orderType newId).1 = .error e)
      ∨ ∃ result, (executeL1 ctx order bar account now orderType newId).1 = .ok result
        ∧ result.fill = none := by
  unfold executeL1
  rcases simulate_unpriced ctx order bar hkind with ⟨e, h⟩ | ⟨reason, h⟩
  · rw [h]
    exact Or.inl ⟨e, rfl⟩
  · rw [h]
    exact Or.inr ⟨_, rfl, rfl⟩

/-- **The engine fills a limit or stop order as the fill model exactly when** the bar has no fill
for the order at its own price. -/
theorem fillsAsModel_iff (hkind : orderType ≠ .MARKET) :
    FillsAsModel ctx order bar account now orderType newId
      ↔ ¬ ∃ price remaining, OwnFill ctx order bar orderType price remaining := by
  have hengine : engineFill (executeL1 ctx order bar account now orderType newId).1 = none := by
    rcases executeL1_unpriced ctx order bar account now newId hkind with
      ⟨e, h⟩ | ⟨result, h, hfill⟩
    · rw [h]
      rfl
    · rw [h, engineFill, hfill]
      rfl
  constructor
  · rintro ⟨hsame, -⟩ ⟨price, remaining, hown⟩
    rw [hengine, modelFill_eq_some.mpr ⟨remaining, hown, rfl⟩] at hsame
    cases hsame
  · intro hno
    refine ⟨?_, fun result fill hresult hfill => ?_⟩
    · rw [hengine, eq_comm, Option.eq_none_iff_forall_ne_some]
      rintro ⟨price, quantity⟩ hfill
      obtain ⟨remaining, hown, -⟩ := modelFill_eq_some.mp hfill
      exact hno ⟨price, remaining, hown⟩
    · rw [hresult, engineFill, hfill] at hengine
      cases hengine

end

/-- An order without a price of its own is filled by neither. -/
theorem fillsAsModel_oneLong :
    FillsAsModel defaultContext Order.oneLong L1FillModel.lowBar EngineRun.emptyAccount
        EngineRun.nineOClock .LIMIT (.epoch "simulation_account" 0 1 (Eq.refl true))
      ↔ ¬ ∃ price remaining,
        OwnFill defaultContext Order.oneLong L1FillModel.lowBar .LIMIT price remaining :=
  fillsAsModel_iff (by decide)

/-- A bar below the limit of an order is not traded by the engine. -/
theorem limit_not_filled :
    ¬ ∀ (order : Order) (bar : L1Bar) (account : SimulationAccount) (now : RecordedAt)
        (orderType : FillOrderType) (newId : EntityId), orderType ≠ .MARKET →
      (order.fields.limitPrice.isSome ∨ order.fields.stopPrice.isSome) →
      FillsAsModel defaultContext order bar account now orderType newId := by
  intro h
  have hsame := (h .limitAt100 L1FillModel.lowBar EngineRun.emptyAccount EngineRun.nineOClock .LIMIT
    (.epoch "simulation_account" 0 1 (Eq.refl true)) (by decide) (Or.inl rfl)).same
  revert hsame
  decide +kernel

end FuturesAgentOs
