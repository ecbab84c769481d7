import FuturesAgentOs.AccountingSettlement.AccountingFacts
import FuturesAgentOs.ExecutionSimulation.FillModel
import FuturesAgentOs.SharedKernel.IsoTime
import FuturesAgentOs.SharedKernel.Observability

namespace FuturesAgentOs

open PyModel

/-!
# The simulation engine

`execution_simulation/engine.py`: a bar or a stream of book events fills an order, and the fill is
booked in an account.  The order that a call returns is the order of the next call; a call that
raises returns none, and the order stays.

* `filled_of_fresh` — then the lots of the calls add up to what the order says was filled.
-/

structure EngineResult where
  order : Order
  accountCash : Decimal
  fill : Option Fill := none
  deriving DecidableEq

/-- The members of the seed of a fill that an L1 fill and an L2 fill share. -/
def fillSeedItems (order : Order) (quantity price : Decimal) (now : RecordedAt) :
    List (Text × Json) := [
  ("order_id", .str order.fields.orderId.str),
  ("quantity", .str quantity.str),
  ("price", .str price.str),
  ("filled_at", .str now.text)]

/-- A call of the engine, with what `EntityId.new("simulation_account")` returns in it. -/
inductive EngineCall where
  | l1 (bar : L1Bar) (now : RecordedAt) (orderType : FillOrderType) (newId : EntityId)
  | l2 (events : List BookEvent) (now : RecordedAt) (orderType : FillOrderType) (newId : EntityId)

section

variable [Hashlib] (ctx : DecimalContext)

/-- `EntityId.deterministic("fill", canonical_sha256(seed))` -/
def fillIdentity (seed : List (Text × Json)) : Py EntityId := do
  let fillSeed ← canonicalSha256 (.obj seed)
  EntityId.deterministic "fill" fillSeed

/-- The order and the fill of a decision, and the id of the lot it opens. -/
def executedFill (order : Order) (quantity price : Decimal) (now : RecordedAt)
    (seed : List (Text × Json)) : Py (Order × Fill × EntityId) := do
  let filled ← order.applyFill ctx (.decimal quantity)
  let fillId ← fillIdentity seed
  let fill ← Frozen.make (FillFields.mk fillId order.fields.orderId order.fields.instrument
    order.fields.direction quantity price (Decimal.ofNat 0) now 1 v2ContractSchema "source:v2")
  let lotId ← EntityId.deterministic "position_lot" fill.fields.fillId.str
  .ok (filled, fill, lotId)

/-- The part that both calls share: what a decision does to the order and the account. -/
def execute (order : Order) (account : SimulationAccount) (decision : FillDecision)
    (now : RecordedAt) (newId : EntityId) (events : List (Text × Json)) :
    Py EngineResult × SimulationAccount :=
  match decision.price with
  | none => (.ok { order, accountCash := account.state.cash }, account)
  | some price =>
    if decision.filledQuantity ≤ Decimal.ofNat 0 then
      (.ok { order, accountCash := account.state.cash }, account)
    else
      match executedFill ctx order decision.filledQuantity price now
        (fillSeedItems order decision.filledQuantity price now ++ events) with
      | .error e => (.error e, account)
      | .ok (filled, fill, lotId) =>
        match account.applyFill ctx fill (some lotId) (some (account.accountId.getD newId)) with
        | (.error e, account) => (.error e, account)
        | (.ok state, account) =>
          (.ok { order := filled, accountCash := state.cash, fill := some fill }, account)

def executeL1 (order : Order) (bar : L1Bar) (account : SimulationAccount) (now : RecordedAt)
    (orderType : FillOrderType) (newId : EntityId) : Py EngineResult × SimulationAccount :=
  match L1FillModel.default.simulate ctx order bar orderType with
  | .error e => (.error e, account)
  | .ok decision => execute ctx order account decision now newId []

/-- The `events` of the seed of an L2 fill. -/
def eventItems (events : List BookEvent) : List (Text × Json) :=
  [("events", .arr (events.map (fun event => .int event.fields.sequence)))]

def executeL2 (order : Order) (events : List BookEvent) (account : SimulationAccount)
    (now : RecordedAt) (orderType : FillOrderType) (newId : EntityId) :
    Py EngineResult × SimulationAccount :=
  match L2EventFillModel.simulate ctx order orderType events with
  | .error e => (.error e, account)
  | .ok decision => execute ctx order account decision now newId (eventItems events)

end

namespace EngineCall

/-- What the fill model decides on an order. -/
def decision (ctx : DecimalContext) (order : Order) : EngineCall → Py FillDecision
  | l1 bar _ orderType _ => L1FillModel.default.simulate ctx order bar orderType
  | l2 events _ orderType _ => L2EventFillModel.simulate ctx order orderType events

def now : EngineCall → RecordedAt
  | l1 _ now _ _ => now
  | l2 _ now _ _ => now

/-- What the seed of an L2 fill has besides. -/
def seedEvents : EngineCall → List (Text × Json)
  | l1 _ _ _ _ => []
  | l2 events _ _ _ => eventItems events

end EngineCall

/-! ### What an executed fill is -/

section

variable {ctx : DecimalContext}

theorem filledQuantity_of_applyFill {o filled : Order} {quantity : Decimal}
    (h : o.applyFill ctx (.decimal quantity) = .ok filled) :
    ctx.add o.fields.filledQuantity quantity = .ok filled.fields.filledQuantity := by
  simp only [Order.applyFill, require_bind_eq_ok] at h
  obtain ⟨-, -, h⟩ := h
  obtain ⟨newFilled, hadd, h⟩ := Py.of_bind h
  rw [require_bind_eq_ok, Frozen.replace_eq_ok] at h
  rw [hadd, h.2]

theorem lots_of_filledState {a : SimulationAccount} {fill : Fill}
    {lotId accountId : Option EntityId}
    {state : AccountState} (h : a.filledState ctx fill lotId accountId = .ok state) :
    ∃ lot : PositionLot, lot.fields.quantity = fill.fields.quantity
      ∧ lot.fields.sourceFillId = some fill.fields.fillId ∧ state.lots = a.state.lots ++ [lot] := by
  simp only [SimulationAccount.filledState, Py.bind_eq_ok, Frozen.make_eq_ok] at h
  obtain ⟨ids, -, cash, -, lot, hlot, fees, -, h⟩ := h
  refine ⟨lot, by rw [hlot]; rfl, by rw [hlot]; rfl, ?_⟩
  rw [← Except.ok.inj h]

variable [Hashlib]

theorem executedFill_facts {order filled : Order} {quantity price : Decimal} {now : RecordedAt}
    {seed : List (Text × Json)} {fill : Fill} {lotId : EntityId}
    (h : executedFill ctx order quantity price now seed = .ok (filled, fill, lotId)) :
    order.applyFill ctx (.decimal quantity) = .ok filled
      ∧ fillIdentity seed = .ok fill.fields.fillId
      ∧ fill.fields.quantity = quantity := by
  simp only [executedFill, Py.bind_eq_ok, Frozen.make_eq_ok] at h
  obtain ⟨found, hfound, fillId, hfillId, made, hmade, lot, -, h⟩ := h
  obtain ⟨rfl, rfl, rfl⟩ : found = filled ∧ made = fill ∧ lot = lotId := by
    simpa using Except.ok.inj h
  exact ⟨hfound, by rw [hmade, hfillId], by rw [hmade]⟩

end

/-- An order and the account it is executed for. -/
structure EngineRun where
  order : Order
  account : SimulationAccount

namespace EngineRun

section

variable [Hashlib] (ctx : DecimalContext)

/-- A call. -/
def call (s : EngineRun) : EngineCall → Py EngineResult × SimulationAccount
  | .l1 bar now orderType newId => executeL1 ctx s.order bar s.account now orderType newId
  | .l2 events now orderType newId => executeL2 ctx s.order events s.account now orderType newId

/-- A call, and the order that is handed on. -/
def step (s : EngineRun) (c : EngineCall) : Py EngineResult × EngineRun :=
  match s.call ctx c with
  | (.ok result, account) => (.ok result, ⟨result.order, account⟩)
  | (.error e, account) => (.error e, ⟨s.order, account⟩)

/-- Calls that hand the order on. -/
def machine : Machine EngineRun EngineCall (Py EngineResult) := ⟨step ctx⟩

/-- The fill that the call makes, if any, has an identity that the account has not applied. -/
def Fresh (s : EngineRun) (c : EngineCall) : Prop :=
  ∀ decision, c.decision ctx s.order = .ok decision → ∀ price, decision.price = some price →
    Decimal.ofNat 0 < decision.filledQuantity →
    ∀ fillId, fillIdentity (fillSeedItems s.order decision.filledQuantity price c.now
      ++ c.seedEvents)
      = .ok fillId →
    ¬ s.account.appliedFills.Has fillId

instance (s : EngineRun) (c : EngineCall) : Decidable (Fresh ctx s c) :=
  match hdecision : c.decision ctx s.order with
  | .error _ => .isTrue (by simp [Fresh, hdecision])
  | .ok decision =>
    match hprice : decision.price with
    | none => .isTrue (by simp [Fresh, hdecision, hprice])
    | some price =>
      match hidentity : fillIdentity
        (fillSeedItems s.order decision.filledQuantity price c.now ++ c.seedEvents) with
      | .error _ => .isTrue (by simp [Fresh, hdecision, hprice, hidentity])
      | .ok fillId =>
        decidable_of_iff
          (Decimal.ofNat 0 < decision.filledQuantity → ¬ s.account.appliedFills.Has fillId)
          (by simp [Fresh, hdecision, hprice, hidentity])

variable {ctx} {s : EngineRun} {c : EngineCall}

/-! ### What a call does -/

/-- A call is `execute` on what the fill model decides. -/
theorem call_eq (ctx : DecimalContext) (s : EngineRun) (c : EngineCall) : ∃ newId, s.call ctx c =
    match c.decision ctx s.order with
    | .error e => (.error e, s.account)
    | .ok decision => execute ctx s.order s.account decision c.now newId c.seedEvents := by
  rcases c with ⟨bar, now, orderType, newId⟩ | ⟨events, now, orderType, newId⟩
  · exact ⟨newId, rfl⟩
  · exact ⟨newId, rfl⟩

/-- **What a call does**: nothing to the order and the account, or it fills the order and books a
lot of the quantity.  Only a fill that was applied before is not booked. -/
theorem step_cases (s : EngineRun) (c : EngineCall) :
    (s.step ctx c).2 = s
      ∨ ∃ quantity, ctx.add s.order.fields.filledQuantity quantity
          = .ok (s.step ctx c).2.order.fields.filledQuantity
        ∧ ((∃ lot : PositionLot, lot.fields.quantity = quantity
            ∧ (s.step ctx c).2.account.state.lots = s.account.state.lots ++ [lot])
          ∨ ¬ s.Fresh ctx c ∧ (s.step ctx c).2.account = s.account) := by
  obtain ⟨newId, hcall⟩ := call_eq ctx s c
  simp only [step, hcall]
  rcases hdecision : c.decision ctx s.order with e | decision
  · exact Or.inl rfl
  simp only [execute]
  rcases hprice : decision.price with _ | price
  · exact Or.inl rfl
  simp only
  by_cases hquantity : decision.filledQuantity ≤ Decimal.ofNat 0
  · rw [if_pos hquantity]
    exact Or.inl rfl
  rw [if_neg hquantity]
  rcases hexecuted : executedFill ctx s.order decision.filledQuantity price c.now
    (fillSeedItems s.order decision.filledQuantity price c.now ++ c.seedEvents) with
    e | ⟨filled, fill, lotId⟩
  · exact Or.inl rfl
  obtain ⟨hfilled, hidentity, hsame⟩ := executedFill_facts hexecuted
  have hadd := filledQuantity_of_applyFill hfilled
  rcases s.account.applyFill_cases ctx fill (some lotId)
      (some (s.account.accountId.getD newId)) with
    ⟨hseen, hcall⟩ | ⟨-, ⟨e, -, hcall⟩ | ⟨state, hstate, hcall⟩⟩
  · -- applied before: the account stays, the order grows
    simp only [hcall]
    refine Or.inr ⟨_, hadd, Or.inr ⟨fun hfresh => ?_, trivial⟩⟩
    exact hfresh decision hdecision price hprice (Decimal.not_le.mp hquantity) _ hidentity hseen
  · simp only [hcall]
    exact Or.inl trivial
  · obtain ⟨lot, hlot, -, hlots⟩ := lots_of_filledState hstate
    simp only [hcall]
    exact Or.inr ⟨_, hadd, Or.inl ⟨lot, hlot.trans hsame, hlots⟩⟩

/-! ### Runs -/

/-- The quantities of lots, added to a quantity one after the other. -/
def addLots (ctx : DecimalContext) (start : Decimal) (lots : List PositionLot) : Py Decimal :=
  lots.foldlM (fun total lot => ctx.add total lot.fields.quantity) start

omit [Hashlib] in
theorem quantity_nonneg (lot : PositionLot) : 0 ≤ lot.fields.quantity.val := by
  have hpos : Decimal.ofNat 0 < lot.fields.quantity :=
    (PositionLot.postInit_eq_ok.mp lot.valid).2.2.2.2.2.2.1
  rw [Decimal.lt_def, Decimal.val_ofNat] at hpos
  exact_mod_cast hpos.le

omit [Hashlib] in
/-- Adding to another zero gives the same number. -/
theorem addLots_congr {start start' total : Decimal} {lots : List PositionLot}
    (hstart : start.numEq start') (hnonneg : 0 ≤ start.val)
    (h : addLots ctx start lots = .ok total) :
    ∃ total', addLots ctx start' lots = .ok total' ∧ total.numEq total' := by
  induction lots generalizing start start' with
  | nil =>
    obtain rfl : start = total := Except.ok.inj h
    exact ⟨start', rfl, hstart⟩
  | cons lot lots ih =>
    obtain ⟨next, hnext, hrest⟩ := Py.of_bind h
    have hquantity := quantity_nonneg lot
    obtain ⟨next', hnext', -⟩ :=
      DecimalContext.add_mono (hstart ▸ hnonneg : 0 ≤ start'.val) hquantity
      (le_of_eq hstart.symm) (le_refl _) hnext
    have hsame : next.numEq next' := by
      rw [Decimal.numEq, DecimalContext.val_add hnonneg hquantity hnext,
        DecimalContext.val_add (hstart ▸ hnonneg : 0 ≤ start'.val) hquantity hnext', hstart]
    obtain ⟨total', htotal', heq⟩ :=
      ih hsame (DecimalContext.add_nonneg_of_ok hnonneg hquantity hnext)
      hrest
    refine ⟨total', ?_, heq⟩
    rw [addLots, List.foldlM_cons, hnext', Py.ok_bind]
    exact htotal'

/-- **No fill is lost.** Of calls on one account that hand the order on, each of which makes no fill
or one under a new identity, the lots are added behind those that were there, and they add up to the
filled quantity: from what was filled at first, and from zero when nothing was. -/
theorem filled_of_fresh (ctx : DecimalContext) (order : Order) (account : SimulationAccount)
    (calls : List EngineCall) (hfresh : (machine ctx).Meets (Fresh ctx) ⟨order, account⟩ calls) :
    ∃ lots, ((machine ctx).exec ⟨order, account⟩ calls).account.state.lots
      = account.state.lots ++ lots
      ∧ addLots ctx order.fields.filledQuantity lots
        = .ok ((machine ctx).exec ⟨order, account⟩ calls).order.fields.filledQuantity
      ∧ (order.fields.filledQuantity.numEq (Decimal.ofNat 0) →
        ∃ total, ctx.sum (lots.map (·.fields.quantity)) = .ok total
          ∧ total.numEq ((machine ctx).exec ⟨order, account⟩
            calls).order.fields.filledQuantity) := by
  have hstep : ∀ s c, Fresh ctx s c →
      (∃ lots, s.account.state.lots = account.state.lots ++ lots
        ∧ addLots ctx order.fields.filledQuantity lots = .ok s.order.fields.filledQuantity) →
      ∃ lots, ((machine ctx).next s c).account.state.lots = account.state.lots ++ lots
        ∧ addLots ctx order.fields.filledQuantity lots
          = .ok ((machine ctx).next s c).order.fields.filledQuantity := by
    rintro s c hfresh ⟨lots, hlots, htotal⟩
    show ∃ lots, (s.step ctx c).2.account.state.lots = _
      ∧ addLots ctx _ lots = .ok (s.step ctx c).2.order.fields.filledQuantity
    rcases s.step_cases c with hsame | ⟨quantity, hadd, ⟨lot, rfl, hnext⟩ | ⟨hstale, -⟩⟩
    · rw [hsame]
      exact ⟨lots, hlots, htotal⟩
    · refine ⟨lots ++ [lot], by rw [hnext, hlots, List.append_assoc], ?_⟩
      rw [addLots, List.foldlM_append, ← addLots, htotal]
      show (ctx.add s.order.fields.filledQuantity lot.fields.quantity
        >>= fun total => .ok total) = _
      rw [hadd, Py.ok_bind]
    · exact absurd hfresh hstale
  obtain ⟨lots, hlots, htotal⟩ := (machine ctx).exec_invariant_of_meets hstep hfresh
    ⟨[], (List.append_nil _).symm, rfl⟩
  refine ⟨lots, hlots, htotal, fun hzero => ?_⟩
  obtain ⟨total, hsum, hsame⟩ := addLots_congr hzero (le_of_eq (by rw [hzero]; simp)) htotal
  refine ⟨total, ?_, hsame.symm⟩
  rw [DecimalContext.sum, List.foldlM_map]
  exact hsum

end

/-! ### Two lots, one at a time -/

/-- The time of the first call. -/
def nineOClock : RecordedAt := ⟨.of 2026 7 13 (Eq.refl true), 9, 0, 0, 0⟩

/-- The time of a later call. -/
def oneMinuteLater : RecordedAt := ⟨.of 2026 7 13 (Eq.refl true), 9, 1, 0, 0⟩

/-- An order for two lots. -/
def twoLots : Order :=
  ⟨{ orderId := .epoch "order" 0 0 (Eq.refl true)
     executionPlanId := .epoch "execution_plan" 0 0 (Eq.refl true)
     instrument := "SHFE:AG"
     direction := .LONG
     quantity := Decimal.ofNat 2
     status := .WORKING
     createdAt := nineOClock }, by decide +kernel⟩

/-- An account without lots. -/
def emptyAccount : SimulationAccount :=
  .new ⟨⟨Decimal.ofNat 1000, Decimal.ofNat 1, some (.epoch "simulation_account" 0 0 (Eq.refl true))⟩,
    by decide +kernel⟩

/-- A bar in which one lot can be traded. -/
def oneLotBar : L1Bar :=
  ⟨⟨Decimal.ofNat 10, Decimal.ofNat 10, Decimal.ofNat 10, Decimal.ofNat 10, Decimal.ofNat 1, none,
    none⟩, by decide +kernel⟩

/-- A call on the bar. -/
def oneLot (now : RecordedAt) : EngineCall :=
  .l1 oneLotBar now .MARKET (.epoch "simulation_account" 0 1 (Eq.refl true))

/-- The second lot a minute later: two fills, two lots. -/
theorem filled_of_fresh_minutes :
    ∃ lots, ((machine defaultContext).exec ⟨twoLots, emptyAccount⟩
        [oneLot nineOClock, oneLot oneMinuteLater]).account.state.lots
          = emptyAccount.state.lots ++ lots
      ∧ addLots defaultContext twoLots.fields.filledQuantity lots
        = .ok ((machine defaultContext).exec ⟨twoLots, emptyAccount⟩
          [oneLot nineOClock, oneLot oneMinuteLater]).order.fields.filledQuantity
      ∧ (twoLots.fields.filledQuantity.numEq (Decimal.ofNat 0) →
        ∃ total, defaultContext.sum (lots.map (·.fields.quantity)) = .ok total
          ∧ total.numEq ((machine defaultContext).exec ⟨twoLots, emptyAccount⟩
            [oneLot nineOClock, oneLot oneMinuteLater]).order.fields.filledQuantity) :=
  filled_of_fresh defaultContext twoLots emptyAccount [oneLot nineOClock, oneLot oneMinuteLater]
    ⟨by decide +kernel, by decide +kernel, trivial⟩

/-- The second lot at the same time is on the order and not in the account: its fill has the
identity of the first. -/
theorem filled_lot_dropped :
    ¬ ∀ calls : List EngineCall, ∃ total,
      defaultContext.sum (((machine defaultContext).exec ⟨twoLots, emptyAccount⟩
        calls).account.state.lots.map (·.fields.quantity)) = .ok total
      ∧ total.numEq ((machine defaultContext).exec ⟨twoLots, emptyAccount⟩
        calls).order.fields.filledQuantity := by
  intro hall
  obtain ⟨total, hsum, hsame⟩ := hall [oneLot nineOClock, oneLot nineOClock]
  have hrun : ((machine defaultContext).exec ⟨twoLots, emptyAccount⟩
        [oneLot nineOClock, oneLot nineOClock]).account.state.lots.map (·.fields.quantity)
          = [Decimal.ofNat 1]
      ∧ ((machine defaultContext).exec ⟨twoLots, emptyAccount⟩
        [oneLot nineOClock, oneLot nineOClock]).order.fields.filledQuantity.numEq
          (Decimal.ofNat 2) := by
    decide +kernel
  rw [hrun.1] at hsum
  obtain rfl : Decimal.ofNat 1 = total := Except.ok.inj hsum
  have hone : (1 : ℚ) = 2 := by simpa [Decimal.numEq] using hsame.trans hrun.2
  norm_num at hone

end EngineRun

end FuturesAgentOs
