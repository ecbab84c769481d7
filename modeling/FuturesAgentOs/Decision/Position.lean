import FuturesAgentOs.Decision.Common

namespace FuturesAgentOs

open PyModel

/-!
# Fills, position lots and settlements

`decision/trade_contracts.py`, the records an account is projected from.  Each record is the
list of its fields, the checks of its `__post_init__` in order, and the frozen instances.
-/

/-! ### Fills -/

structure FillFields where
  fillId : EntityId
  orderId : EntityId
  instrument : Text
  direction : TradeDirection
  quantity : Decimal
  price : Decimal
  fee : Decimal
  filledAt : RecordedAt
  version : ℤ := 1
  schemaVersion : SchemaVersion := v2ContractSchema
  sourceRef : Text := "source:v2"
  deriving DecidableEq

def FillFields.postInit (f : FillFields) : Py Unit := do
  checkNamespace f.fillId "fill" "fill_id"
  checkNamespace f.orderId "order" "order_id"
  checkVersion f.version "fill"
  checkText f.sourceRef "source_ref"
  checkText f.instrument "instrument"
  checkPositive f.quantity "quantity"
  checkPositive f.price "price"
  require (Decimal.ofNat 0 ≤ f.fee) (valueError "fee must be non-negative")

instance : Dataclass FillFields := ⟨FillFields.postInit⟩

/-- An executed quantity of an order. -/
abbrev Fill := Frozen FillFields

namespace Fill

theorem price_pos (f : Fill) : Decimal.ofNat 0 < f.fields.price := by
  have h : f.fields.postInit = .ok () := f.valid
  simp only [FillFields.postInit, check_bind_eq_ok, checkPositive_eq_ok] at h
  exact h.2.2.2.2.2.2.1

end Fill

/-! ### Position lots -/

structure PositionLotFields where
  lotId : EntityId
  accountId : EntityId
  instrument : Text
  direction : TradeDirection
  quantity : Decimal
  averagePrice : Decimal
  openedAt : RecordedAt
  sourceFillId : Option EntityId := none
  version : ℤ := 1
  schemaVersion : SchemaVersion := v2ContractSchema
  sourceRef : Text := "source:v2"
  deriving DecidableEq

def PositionLotFields.postInit (f : PositionLotFields) : Py Unit := do
  checkNamespace f.lotId "position_lot" "lot_id"
  checkNamespace f.accountId "simulation_account" "account_id"
  whenSome f.sourceFillId (fun id => checkNamespace id "fill" "source_fill_id")
  checkVersion f.version "position lot"
  checkText f.sourceRef "source_ref"
  checkText f.instrument "instrument"
  checkPositive f.quantity "quantity"
  checkPositive f.averagePrice "average_price"

instance : Dataclass PositionLotFields := ⟨PositionLotFields.postInit⟩

/-- An open quantity with its cost basis. -/
abbrev PositionLot := Frozen PositionLotFields

namespace PositionLot

/-- Python's `==` on lots: every field equal, amounts as numbers. -/
def SameAs (a b : PositionLot) : Prop :=
  { a.fields with quantity := b.fields.quantity, averagePrice := b.fields.averagePrice } = b.fields
    ∧ a.fields.quantity.numEq b.fields.quantity ∧ a.fields.averagePrice.numEq b.fields.averagePrice

instance (a b : PositionLot) : Decidable (a.SameAs b) := inferInstanceAs (Decidable (_ ∧ _))

/-- What the checks of a lot amount to. -/
theorem postInit_eq_ok {f : PositionLotFields} :
    f.postInit = .ok () ↔
      f.lotId.nspace = "position_lot" ∧ f.accountId.nspace = "simulation_account"
        ∧ (∀ id ∈ f.sourceFillId, id.nspace = "fill") ∧ 1 ≤ f.version
        ∧ f.sourceRef.IsScopeText ∧ f.instrument.IsScopeText
        ∧ Decimal.ofNat 0 < f.quantity ∧ Decimal.ofNat 0 < f.averagePrice := by
  simp only [PositionLotFields.postInit, check_bind_eq_ok, whenSome_eq_ok, checkNamespace_eq_ok,
    checkVersion_eq_ok, checkText_eq_ok, checkPositive_eq_ok]

theorem quantity_pos (lot : PositionLot) : Decimal.ofNat 0 < lot.fields.quantity :=
  (postInit_eq_ok.mp lot.valid).2.2.2.2.2.2.1

end PositionLot

/-! ### Settlements -/

structure SettlementFields where
  settlementId : EntityId
  accountId : EntityId
  tradingDate : Text
  cashDelta : Decimal
  realizedPnl : Decimal
  fees : Decimal
  recordedAt : RecordedAt
  sourceRef : Text := "source:v2"
  version : ℤ := 1
  schemaVersion : SchemaVersion := v2ContractSchema
  settlementPrice : Option Decimal := none
  deriving DecidableEq

def SettlementFields.postInit (f : SettlementFields) : Py Unit := do
  checkNamespace f.settlementId "settlement" "settlement_id"
  checkNamespace f.accountId "simulation_account" "account_id"
  checkVersion f.version "settlement"
  checkText f.sourceRef "source_ref"
  checkText f.tradingDate "trading_date"
  require ((Date.fromIsoFormat f.tradingDate).isSome = true)
    (valueError "trading_date must be ISO-8601 YYYY-MM-DD")
  require (Decimal.ofNat 0 ≤ f.fees) (valueError "fees must be non-negative")
  whenSome f.settlementPrice (fun price => require (Decimal.ofNat 0 < price)
    (valueError "settlement_price must be positive when provided"))

instance : Dataclass SettlementFields := ⟨SettlementFields.postInit⟩

/-- A daily cash movement, with the end-of-day mark that becomes the next cost basis. -/
abbrev Settlement := Frozen SettlementFields

theorem Settlement.settlementPrice_pos (s : Settlement) {price : Decimal}
    (h : s.fields.settlementPrice = some price) : Decimal.ofNat 0 < price := by
  have hvalid : s.fields.postInit = .ok () := s.valid
  simp only [SettlementFields.postInit, check_bind_eq_ok, whenSome_eq_ok, require_eq_ok] at hvalid
  exact hvalid.2.2.2.2.2.2.2 price h

end FuturesAgentOs
