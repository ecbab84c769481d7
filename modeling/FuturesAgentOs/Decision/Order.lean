import FuturesAgentOs.Decision.Common
import FuturesAgentOs.PyModel.DecimalUnits

namespace FuturesAgentOs

open PyModel

/-!
# Orders

`decision/trade_contracts.py`: an order, its lifecycle and its fills.  `_now_recorded`, the
default of `created_at`, is always replaced by a given time here.
-/

/-- The states of an order. -/
inductive OrderStatus where
  | CREATED
  | ACCEPTED
  | WORKING
  | PARTIALLY_FILLED
  | FILLED
  | CANCELLED
  | EXPIRED
  | REJECTED
  deriving DecidableEq

namespace OrderStatus

def value : OrderStatus → Text
  | CREATED => "CREATED"
  | ACCEPTED => "ACCEPTED"
  | WORKING => "WORKING"
  | PARTIALLY_FILLED => "PARTIALLY_FILLED"
  | FILLED => "FILLED"
  | CANCELLED => "CANCELLED"
  | EXPIRED => "EXPIRED"
  | REJECTED => "REJECTED"

/-- The states that `Order.transition` allows after a state. -/
def allowed : OrderStatus → List OrderStatus
  | CREATED => [ACCEPTED, REJECTED]
  | ACCEPTED => [WORKING, EXPIRED]
  | WORKING => [PARTIALLY_FILLED, FILLED, CANCELLED, EXPIRED]
  | PARTIALLY_FILLED => [PARTIALLY_FILLED, FILLED, CANCELLED, EXPIRED]
  | _ => []

/-- The order is in no state that another may follow. -/
def IsTerminal (s : OrderStatus) : Prop := s.allowed = []

instance (s : OrderStatus) : Decidable s.IsTerminal := inferInstanceAs (Decidable (_ = _))

end OrderStatus

structure OrderFields where
  orderId : EntityId
  executionPlanId : EntityId
  instrument : Text
  direction : TradeDirection
  quantity : Decimal
  status : OrderStatus := .CREATED
  filledQuantity : Decimal := Decimal.ofNat 0
  limitPrice : Option Decimal := none
  stopPrice : Option Decimal := none
  createdAt : RecordedAt
  version : ℤ := 1
  schemaVersion : SchemaVersion := v2ContractSchema
  sourceRef : Text := "source:v2"
  deriving DecidableEq

def OrderFields.postInit (f : OrderFields) : Py Unit := do
  checkNamespace f.orderId "order" "order_id"
  checkNamespace f.executionPlanId "execution_plan" "execution_plan_id"
  checkVersion f.version "order"
  checkText f.sourceRef "source_ref"
  checkText f.instrument "instrument"
  require (Decimal.ofNat 0 ≤ f.quantity) (valueError "quantity must be finite and non-negative")
  require (Decimal.ofNat 0 ≤ f.filledQuantity)
    (valueError "filled_quantity must be finite and non-negative")
  require (Decimal.ofNat 0 < f.quantity ∧ f.filledQuantity ≤ f.quantity)
    (valueError "order quantity must be positive and fills cannot exceed it")
  require (f.status ∉ [OrderStatus.CREATED, .ACCEPTED, .WORKING]
      ∨ f.filledQuantity.numEq (Decimal.ofNat 0))
    (valueError "unfilled order states cannot carry filled quantity")
  require (f.status ≠ .PARTIALLY_FILLED
      ∨ (Decimal.ofNat 0 < f.filledQuantity ∧ f.filledQuantity < f.quantity))
    (valueError "partial order state requires a partial positive fill")
  require (f.status ≠ .FILLED ∨ f.filledQuantity.numEq f.quantity)
    (valueError "filled order state requires complete quantity")
  whenSome f.limitPrice (fun price => require (Decimal.ofNat 0 < price)
    (valueError "limit_price must be positive when provided"))
  whenSome f.stopPrice (fun price => require (Decimal.ofNat 0 < price)
    (valueError "stop_price must be positive when provided"))

instance : Dataclass OrderFields := ⟨OrderFields.postInit⟩

/-- An order for one instrument. -/
abbrev Order := Frozen OrderFields

/-- The quantity argument of a fill: a finite `Decimal`, or any other object with what `repr`
does on it. -/
inductive FillQuantity where
  | decimal (d : Decimal)
  | object (repr : Py Text)
  deriving DecidableEq

/-- `repr(quantity)` -/
def FillQuantity.repr : FillQuantity → Py Text
  | decimal d => .ok d.repr
  | object repr => repr

namespace Order

/-- `order.transition(target)` -/
def transition (o : Order) (target : OrderStatus) : Py Order := do
  require (target ∈ o.fields.status.allowed)
    (valueError (("invalid order transition " : Text) ++ o.fields.status.value
      ++ (" -> " : Text) ++ target.value))
  o.replace (fun f => { f with status := target })

/-- `order.apply_fill(quantity)` -/
def applyFill (ctx : DecimalContext) (o : Order) (quantity : FillQuantity) : Py Order := do
  require (o.fields.status = .WORKING ∨ o.fields.status = .PARTIALLY_FILLED)
    (valueError "fills require a working order")
  match quantity with
  | .object _ => .error (valueError "fill quantity must be positive")
  | .decimal quantity =>
    require (Decimal.ofNat 0 < quantity) (valueError "fill quantity must be positive")
    let newFilled ← ctx.add o.fields.filledQuantity quantity
    require (newFilled ≤ o.fields.quantity) (valueError "fills cannot exceed order quantity")
    let target := if newFilled.numEq o.fields.quantity then OrderStatus.FILLED
      else .PARTIALLY_FILLED
    o.replace (fun f => { f with filledQuantity := newFilled, status := target })

/-! ### What the checks of an order amount to -/

/-- The filled quantity suits the state, in an order of the given quantity. -/
structure FillSuits (quantity filled : Decimal) (status : OrderStatus) : Prop where
  nonneg : Decimal.ofNat 0 ≤ filled
  le : filled ≤ quantity
  unfilled : status ∈ [OrderStatus.CREATED, .ACCEPTED, .WORKING] → filled.numEq (Decimal.ofNat 0)
  partly : status = .PARTIALLY_FILLED → Decimal.ofNat 0 < filled ∧ filled < quantity
  full : status = .FILLED → filled.numEq quantity

theorem fillSuits (o : Order) :
    FillSuits o.fields.quantity o.fields.filledQuantity o.fields.status := by
  have h : o.fields.postInit = .ok () := o.valid
  simp only [OrderFields.postInit, check_bind_eq_ok, require_eq_ok] at h
  obtain ⟨-, -, -, -, -, -, hnonneg, ⟨-, hle⟩, hunfilled, hpartly, hfull, -⟩ := h
  refine ⟨hnonneg, hle, ?_, ?_, ?_⟩
  · intro hs
    exact hunfilled.resolve_left (not_not.mpr hs)
  · intro hs
    exact hpartly.resolve_left (not_not.mpr hs)
  · intro hs
    exact hfull.resolve_left (not_not.mpr hs)

theorem quantity_pos (o : Order) : Decimal.ofNat 0 < o.fields.quantity := by
  have h : o.fields.postInit = .ok () := o.valid
  simp only [OrderFields.postInit, check_bind_eq_ok, require_eq_ok] at h
  exact h.2.2.2.2.2.2.2.1.1

theorem filled_nonneg (o : Order) : 0 ≤ o.fields.filledQuantity.val := by
  have h := o.fillSuits.nonneg
  rwa [Decimal.le_def, Decimal.val_ofNat, Nat.cast_zero] at h

/-- Another fill or state is accepted exactly when they suit each other. -/
theorem postInit_update (o : Order) (filled : Decimal) (status : OrderStatus) :
    ({ o.fields with filledQuantity := filled, status := status } : OrderFields).postInit = .ok ()
      ↔ FillSuits o.fields.quantity filled status := by
  have h : o.fields.postInit = .ok () := o.valid
  simp only [OrderFields.postInit, check_bind_eq_ok, require_eq_ok] at h ⊢
  obtain ⟨h1, h2, h3, h4, h5, h6, -, ⟨h8, -⟩, -, -, -, h12, h13⟩ := h
  constructor
  · rintro ⟨-, -, -, -, -, -, hnonneg, ⟨-, hle⟩, hunfilled, hpartly, hfull, -, -⟩
    exact ⟨hnonneg, hle, fun hs => hunfilled.resolve_left (not_not.mpr hs),
      fun hs => hpartly.resolve_left (not_not.mpr hs),
      fun hs => hfull.resolve_left (not_not.mpr hs)⟩
  · intro hs
    exact ⟨h1, h2, h3, h4, h5, h6, hs.nonneg, ⟨h8, hs.le⟩, imp_iff_not_or.mp hs.unfilled,
      imp_iff_not_or.mp hs.partly, imp_iff_not_or.mp hs.full, h12, h13⟩

/-! ### Transitions -/

/-- The state that the fills of an order rule out, among those allowed after its state. -/
def Unsuited (status target : OrderStatus) : Prop :=
  status = .WORKING ∧ (target = .PARTIALLY_FILLED ∨ target = .FILLED)
    ∨ status = .PARTIALLY_FILLED ∧ target = .FILLED

instance (status target : OrderStatus) : Decidable (Unsuited status target) :=
  inferInstanceAs (Decidable (_ ∨ _))

theorem not_numEq_zero_of_pos {a : Decimal} (h : Decimal.ofNat 0 < a) :
    ¬ a.numEq (Decimal.ofNat 0) := fun heq => (ne_of_gt ((Decimal.lt_def _ _).mp h)) heq

variable {target : OrderStatus}

theorem fillSuits_target_iff (o : Order) (h : target ∈ o.fields.status.allowed) :
    FillSuits o.fields.quantity o.fields.filledQuantity target
      ↔ ¬ Unsuited o.fields.status target := by
  have hs := o.fillSuits
  have hq := o.quantity_pos
  constructor
  · rintro ht (⟨hstatus, htarget⟩ | ⟨hstatus, htarget⟩)
    · have hzero := hs.unfilled (by rw [hstatus]; simp)
      rcases htarget with htarget | htarget
      · exact not_numEq_zero_of_pos (ht.partly htarget).1 hzero
      · exact not_numEq_zero_of_pos hq ((ht.full htarget).symm.trans hzero)
    · exact ne_of_lt ((Decimal.lt_def _ _).mp (hs.partly hstatus).2) (ht.full htarget)
  · intro hun
    refine ⟨hs.nonneg, hs.le, ?_, ?_, ?_⟩
    · -- an unfilled target is reached from an unfilled state only
      intro htarget
      apply hs.unfilled
      revert h htarget
      rcases o.fields.status <;> rcases target <;> decide
    · intro htarget
      apply hs.partly
      revert h hun
      rw [htarget]
      rcases o.fields.status <;> decide
    · intro htarget
      exfalso
      revert h hun
      rw [htarget]
      rcases o.fields.status <;> decide

/-- **A transition** to an allowed state replaces the state, or raises because the fills of the
order rule it out. -/
theorem transition_cases (o : Order) (h : target ∈ o.fields.status.allowed) :
    (Unsuited o.fields.status target ∧ ∃ e, o.transition target = .error e) ∨
      (¬ Unsuited o.fields.status target ∧
        ∃ o', o.transition target = .ok o' ∧ o'.fields = { o.fields with status := target }) := by
  have htransition : o.transition target = Frozen.make { o.fields with status := target } := by
    rw [transition, require_of_pos h]; rfl
  have hsuits := o.fillSuits_target_iff h
  rw [← postInit_update] at hsuits
  by_cases hun : Unsuited o.fields.status target
  · refine Or.inl ⟨hun, ?_⟩
    rcases hmake : o.transition target with e | o'
    · exact ⟨e, rfl⟩
    · refine absurd hun (hsuits.mp ?_)
      exact Frozen.exists_make_iff.mp ⟨o', htransition.symm.trans hmake⟩
  · have hvalid := hsuits.mpr hun
    exact Or.inr ⟨hun, ⟨_, hvalid⟩, htransition.trans (Frozen.make_of_valid hvalid), rfl⟩

/-! ### Fills -/

/-- A `ValueError` with a text of ASCII characters. -/
def IsAsciiValueError (e : PyException) : Prop := e.kind = .valueError ∧ e.message.IsAscii

instance (e : PyException) : Decidable (IsAsciiValueError e) :=
  inferInstanceAs (Decidable (_ ∧ _))

theorem onlyRaises_postInit (f : OrderFields) : Py.OnlyRaises IsAsciiValueError f.postInit := by
  unfold OrderFields.postInit checkNamespace checkVersion checkText
  -- eleven plain checks, then the two optional prices
  iterate 11
    refine Py.OnlyRaises.bind (Py.OnlyRaises.require (by decide +kernel)) (fun _ => ?_)
  refine Py.OnlyRaises.bind
    (Py.OnlyRaises.whenSome (fun _ => Py.OnlyRaises.require (by decide +kernel))) ?_
  exact fun _ => Py.OnlyRaises.whenSome (fun _ => Py.OnlyRaises.require (by decide +kernel))

/-- The fill would be added, but the sum is out of the exponent range of the context. -/
def FillOverflows (ctx : DecimalContext) (o : Order) (quantity : FillQuantity) : Prop :=
  (o.fields.status = .WORKING ∨ o.fields.status = .PARTIALLY_FILLED) ∧
    ∃ d, quantity = .decimal d ∧ Decimal.ofNat 0 < d ∧
      ctx.Overflows (o.fields.filledQuantity.val + d.val)

/-- The state of an order filled to a quantity. -/
def filledStatus (quantity filled : Decimal) : OrderStatus :=
  if filled.numEq quantity then .FILLED else .PARTIALLY_FILLED

theorem applyFill_cases (ctx : DecimalContext) (o : Order) (quantity : FillQuantity) :
    (¬ FillOverflows ctx o quantity ∧
        ∃ e, o.applyFill ctx quantity = .error e ∧ IsAsciiValueError e) ∨
      (FillOverflows ctx o quantity ∧ o.applyFill ctx quantity = .error decimalOverflow) ∨
      (¬ FillOverflows ctx o quantity ∧ ∃ o' d filled, quantity = .decimal d ∧
        Decimal.ofNat 0 < d ∧ ctx.add o.fields.filledQuantity d = .ok filled ∧
        o.applyFill ctx quantity = .ok o' ∧
        o'.fields = { o.fields with
          filledQuantity := filled, status := filledStatus o.fields.quantity filled }) := by
  unfold applyFill
  by_cases hstatus : o.fields.status = .WORKING ∨ o.fields.status = .PARTIALLY_FILLED
  swap
  · rw [require_of_neg hstatus]
    exact Or.inl ⟨fun h => hstatus h.1, _, rfl, by decide +kernel⟩
  rw [require_of_pos hstatus, Py.ok_bind]
  rcases quantity with d | r
  swap
  · refine Or.inl ⟨?_, _, rfl, by decide +kernel⟩
    rintro ⟨-, d, hd, -⟩
    cases hd
  simp only
  by_cases hpos : Decimal.ofNat 0 < d
  swap
  · rw [require_of_neg hpos]
    refine Or.inl ⟨?_, _, rfl, by decide +kernel⟩
    rintro ⟨-, d', hd, hpos', -⟩
    injection hd with hd
    exact hpos (hd ▸ hpos')
  rw [require_of_pos hpos, Py.ok_bind]
  have hdpos : 0 < d.val := by rwa [Decimal.lt_def, Decimal.val_ofNat, Nat.cast_zero] at hpos
  have hsum : 0 ≤ (o.fields.filledQuantity.add d).val := by
    rw [Decimal.val_add]
    exact add_nonneg o.filled_nonneg hdpos.le
  obtain ⟨hover, hadd⟩ | ⟨hover, filled, hadd, hval⟩ := ctx.fix_nonneg hsum
  · have hadd : ctx.add o.fields.filledQuantity d = .error decimalOverflow := hadd
    rw [Decimal.val_add] at hover
    rw [hadd]
    exact Or.inr (Or.inl ⟨⟨hstatus, d, rfl, hpos, hover⟩, rfl⟩)
  have hadd : ctx.add o.fields.filledQuantity d = .ok filled := hadd
  have hno : ¬ FillOverflows ctx o (.decimal d) := by
    rintro ⟨-, d', hd, -, hover'⟩
    injection hd with hd
    rw [Decimal.val_add, hd] at hover
    exact hover hover'
  rw [hadd, Py.ok_bind]
  by_cases hle : filled ≤ o.fields.quantity
  swap
  · rw [require_of_neg hle]
    exact Or.inl ⟨hno, _, rfl, by decide +kernel⟩
  rw [require_of_pos hle, Py.ok_bind]
  -- the sum may have underflowed to zero, which the checks of the new order refuse
  rcases hmake : o.replace (fun f => { f with
      filledQuantity := filled, status := filledStatus o.fields.quantity filled }) with e | o'
  · have hkind := onlyRaises_postInit _ e (Frozen.make_eq_error.mp hmake)
    exact Or.inl ⟨hno, e, hmake, hkind⟩
  · exact Or.inr (Or.inr ⟨hno, o', d, filled, rfl, hpos, hadd, hmake, Frozen.make_eq_ok.mp hmake⟩)

/-- **What a transition did.** -/
theorem transition_ok {o o' : Order} (h : o.transition target = .ok o') :
    target ∈ o.fields.status.allowed ∧ o'.fields = { o.fields with status := target } := by
  obtain ⟨hallowed, h⟩ := of_require h
  exact ⟨hallowed, Frozen.replace_eq_ok.mp h⟩

/-- **What a fill did.** -/
theorem applyFill_ok {ctx : DecimalContext} {o o' : Order} {quantity : FillQuantity}
    (h : o.applyFill ctx quantity = .ok o') :
    (o.fields.status = .WORKING ∨ o.fields.status = .PARTIALLY_FILLED) ∧
      ∃ d filled, quantity = .decimal d ∧ Decimal.ofNat 0 < d ∧
        ctx.add o.fields.filledQuantity d = .ok filled ∧
        o'.fields = { o.fields with
          filledQuantity := filled, status := filledStatus o.fields.quantity filled } := by
  refine ⟨(of_require h).1, ?_⟩
  obtain ⟨-, e, herr, -⟩ | ⟨-, herr⟩ | ⟨-, o'', d, filled, hd, hpos, hadd, hok, hfields⟩ :=
    o.applyFill_cases ctx quantity
  · rw [herr] at h
    cases h
  · rw [herr] at h
    cases h
  · rw [hok] at h
    injection h with h
    subst h
    exact ⟨d, filled, hd, hpos, hadd, hfields⟩

end Order

/-!
## What is left of an order

`Order.left` — the quantity not filled yet; on quantities of one grid it falls by exactly what is
filled (`Order.applyFill_units`).
-/

namespace Order

/-- What an order has left. -/
def left (order : Order) : ℚ := order.fields.quantity.val - order.fields.filledQuantity.val

theorem filled_le (order : Order) : order.fields.filledQuantity.val ≤ order.fields.quantity.val :=
  (Decimal.le_def _ _).mp order.fillSuits.le

theorem left_nonneg (order : Order) : 0 ≤ order.left := sub_nonneg.mpr order.filled_le

variable {ctx : DecimalContext} {order order' : Order} {unit : ℤ} {bound : ℕ}

/-- `order.quantity - order.filled_quantity`, computed by the context. -/
theorem sub_units (hkeeps : ctx.Keeps unit bound)
    (hquantity : order.fields.quantity.IsUnits unit bound)
    (hfilled : order.fields.filledQuantity.IsUnits unit bound) {remaining : Decimal}
    (h : ctx.sub order.fields.quantity order.fields.filledQuantity = .ok remaining) :
    remaining.val = order.left ∧ remaining.IsUnits unit bound :=
  hkeeps.of_sub hquantity hfilled order.filled_le h

/-- **A fill is recorded exactly**, when it does not exceed what is left. -/
theorem applyFill_units (hkeeps : ctx.Keeps unit bound)
    (hquantity : order.fields.quantity.IsUnits unit bound)
    (hfilled : order.fields.filledQuantity.IsUnits unit bound) {quantity : Decimal}
    (hunits : quantity.IsUnits unit bound) (hle : quantity.val ≤ order.left)
    (h : order.applyFill ctx (.decimal quantity) = .ok order') :
    order'.fields.filledQuantity.val = order.fields.filledQuantity.val + quantity.val
      ∧ order'.fields.filledQuantity.IsUnits unit bound
      ∧ order'.fields.quantity = order.fields.quantity
      ∧ order'.left = order.left - quantity.val := by
  obtain ⟨-, d, filled, hd, -, hadd, hfields⟩ := applyFill_ok h
  obtain rfl : quantity = d := by injection hd
  have hsum : order.fields.filledQuantity.val + quantity.val ≤ bound * 10 ^ unit := by
    unfold left at hle
    have hbound := hquantity.le
    linarith
  obtain ⟨hval, hfilled'⟩ := hkeeps.of_add hfilled hunits hsum hadd
  have hleft : order'.left = order.left - quantity.val := by
    unfold left
    rw [hfields, hval]
    ring
  rw [hfields]
  exact ⟨hval, hfilled', rfl, hleft⟩

/-! ### Sample orders -/

/-- A long order for one lot. -/
def oneLong : Order :=
  ⟨{ orderId := .epoch "order" 0 0 (Eq.refl true)
     executionPlanId := .epoch "execution_plan" 0 0 (Eq.refl true)
     instrument := "SHFE:AG"
     direction := .LONG
     quantity := Decimal.ofNat 1
     status := .WORKING
     createdAt := ⟨.of 2026 7 13 (Eq.refl true), 9, 0, 0, 0⟩ },
    by decide +kernel⟩

/-- A long order for two lots. -/
def twoLong : Order :=
  ⟨{ oneLong.fields with quantity := Decimal.ofNat 2 }, by decide +kernel⟩

/-- An order to buy a lot at 100 at most. -/
def limitAt100 : Order :=
  ⟨{ oneLong.fields with limitPrice := some (Decimal.ofNat 100) }, by decide +kernel⟩

end Order

end FuturesAgentOs
