import FuturesAgentOs.AccountingSettlement.BookValue

namespace FuturesAgentOs

open PyModel

/-!
# Marking to market is neutral

A settlement of what `mark_to_market(p)` returns moves `p * exposure - costBasis` into cash and
makes `p` the cost basis of every lot, so `cash - costBasis` — the `bookValue` — stays, and with
it cash plus unrealized pnl at any mark.  Fills and closes move the book value by an amount that
does not depend on the cost basis.  Two histories that differ only in such settlements therefore
keep the same book value and the same lots up to their cost basis (`SameBook`), and the same cash
once no lot is left.

* `mark_to_market_neutral` — both halves.
-/

namespace SimulationAccount

variable {n : ℕ} {a b c : SimulationAccount}

/-- Cash less the cost basis of the lots. -/
def bookValue (a : SimulationAccount) : ℚ := a.state.cash.val - costBasis a.multiplier a.state.lots

theorem unrealizedPnl_exact (n : ℕ) (a : SimulationAccount) {mark : Decimal}
    (hmark : Decimal.ofNat 0 < mark) :
    ∃ pnl, a.unrealizedPnl (.exact n) (some mark) = .ok pnl ∧
      a.state.cash.val + pnl.val
        = a.bookValue + mark.val * exposure a.multiplier a.state.lots := by
  obtain ⟨pnl, hpnl, hval⟩ := lotsPnl_exact n a.multiplier mark a.state.lots (Decimal.ofNat 0)
  refine ⟨pnl, ?_, ?_⟩
  · simp only [unrealizedPnl, require_of_pos hmark, Py.ok_bind, hpnl]
  · rw [hval, bookValue, Decimal.val_ofNat]
    push_cast
    ring

/-! ### The settlement of a mark -/

section

variable [Hashlib]

/-- What `mark_to_market` returns. -/
theorem markToMarket_exact {settlementId : Option EntityId} {tradingDate : Text}
    {settlementPrice : Option Decimal} {now : Option RecordedAt} {s : Settlement}
    (h : a.markToMarket (.exact n) settlementId tradingDate settlementPrice now = .ok s) :
    ∃ id price, settlementId = some id ∧ settlementPrice = some price ∧
      s.fields.settlementId = id ∧ s.fields.tradingDate = tradingDate ∧
      s.fields.settlementPrice = some price ∧
      (∀ account, a.accountId = some account → s.fields.accountId = account) ∧
      s.fields.cashDelta.val
        = price.val * exposure a.multiplier a.state.lots - costBasis a.multiplier a.state.lots := by
  rcases settlementPrice with _ | price
  · cases h
  obtain ⟨-, h⟩ := of_require h
  rcases settlementId with _ | id
  · cases h
  obtain ⟨-, h⟩ := of_require h
  rcases now with _ | now
  · cases h
  obtain ⟨pnl, hpnl, h⟩ := Py.of_bind h
  obtain ⟨pnl', hpnl', hval⟩ :=
    lotsPnl_exact n a.multiplier price a.state.lots (Decimal.ofNat 0)
  rw [hpnl'] at hpnl
  injection hpnl with hpnl
  subst hpnl
  obtain ⟨account, haccount, h⟩ := Py.of_bind h
  rw [Frozen.make_eq_ok] at h
  refine ⟨id, price, rfl, rfl, ?_, ?_, ?_, ?_, ?_⟩
  · rw [h]
  · rw [h]
  · rw [h]
  · intro own hown
    rw [settlementAccount, hown] at haccount
    injection haccount with haccount
    rw [h, ← haccount]
  · rw [h, hval, Decimal.val_ofNat]
    push_cast
    ring

end

/-- A settlement at a mark `price` whose cash delta is the pnl at that mark. -/
structure IsMark (a : SimulationAccount) (s : Settlement) (price : Decimal) : Prop where
  price_eq : s.fields.settlementPrice = some price
  cash_eq : s.fields.cashDelta.val
    = price.val * exposure a.multiplier a.state.lots - costBasis a.multiplier a.state.lots

variable {state : AccountState} {lot lot' : PositionLot} {lots lots' : List PositionLot}

/-- The account after `settle` when it is not a replay and is not refused. -/
theorem settle_of_state {s : Settlement} (hfresh : ¬ a.appliedSettlements.Has s.fields.settlementId)
    (hstate : a.settledState (.exact n) s = .ok state) :
    ∃ a', a.settle (.exact n) s = (.ok state, a') ∧ a'.config = a.config ∧ a'.state = state ∧
      a'.appliedFills = a.appliedFills := by
  have hadjust : ∃ adjustment, a.settledAdjustment (.exact n) s = .ok adjustment := ⟨_, rfl⟩
  obtain ⟨adjustment, hadjust⟩ := hadjust
  refine ⟨{ a with
    state := state
    settlementCashAdjustment := adjustment
    appliedSettlements := a.appliedSettlements.add s.fields.settlementId
    settlementDates := a.settlementDates.add s.fields.tradingDate }, ?_, rfl, rfl, rfl⟩
  unfold settle
  rw [if_neg hfresh, hstate, hadjust]

theorem settledState_mark {s : Settlement} {price : Decimal}
    (hmark : a.IsMark s price) (hstate : a.settledState (.exact n) s = .ok state) :
    state.cash.val - costBasis a.multiplier state.lots = a.bookValue ∧
      exposure a.multiplier state.lots = exposure a.multiplier a.state.lots ∧
      List.Forall₂ (fun lot r => r.fields = repricedLot price lot.fields) a.state.lots
        state.lots := by
  obtain ⟨e, herr⟩ | ⟨lots, hlots, hok⟩ := a.settledState_exact n s
  · rw [herr] at hstate
    cases hstate
  · rw [hok] at hstate
    injection hstate with hstate
    subst hstate
    rw [hmark.price_eq] at hlots
    obtain ⟨hexposure, hbasis⟩ := exposure_repriced a.multiplier hlots
    refine ⟨?_, hexposure, hlots⟩
    simp only [Decimal.val_add, hbasis, hmark.cash_eq, bookValue]
    ring

/-! ### Two accounts with the same book -/

/-- A lot apart from its cost basis and version. -/
def lotShape (lot : PositionLot) : PositionLotFields :=
  { lot.fields with averagePrice := Decimal.ofNat 0, version := 0 }

/-- The two accounts differ at most in their settlements: the lots are the same up to their cost
basis, and the book value is the same. -/
structure SameBook (a b : SimulationAccount) : Prop where
  config : a.config = b.config
  fills : a.appliedFills = b.appliedFills
  shapes : a.state.lots.map lotShape = b.state.lots.map lotShape
  value : a.bookValue = b.bookValue

namespace SameBook

theorem refl (a : SimulationAccount) : SameBook a a := ⟨rfl, rfl, rfl, rfl⟩

theorem symm (h : SameBook a b) : SameBook b a :=
  ⟨h.config.symm, h.fills.symm, h.shapes.symm, h.value.symm⟩

theorem trans (h : SameBook a b) (h' : SameBook b c) : SameBook a c :=
  ⟨h.config.trans h'.config, h.fills.trans h'.fills, h.shapes.trans h'.shapes,
    h.value.trans h'.value⟩

theorem multiplier (h : SameBook a b) : a.multiplier = b.multiplier := by
  rw [SimulationAccount.multiplier, h.config]; rfl

theorem cash (h : SameBook a b) (ha : a.state.lots = []) :
    b.state.lots = [] ∧ b.state.cash.val = a.state.cash.val := by
  have hshapes := h.shapes
  rw [ha, List.map_nil, eq_comm, List.map_eq_nil_iff] at hshapes
  have hvalue := h.value
  rw [bookValue, bookValue, ha, hshapes, costBasis_nil, costBasis_nil, sub_zero, sub_zero] at hvalue
  exact ⟨hshapes, hvalue.symm⟩

end SameBook

theorem shape_field {α : Type} (h : lotShape lot = lotShape lot')
    (f : PositionLotFields → α) (hf : ∀ l : PositionLot, f (lotShape l) = f l.fields) :
    f lot.fields = f lot'.fields := by
  rw [← hf, ← hf, h]

theorem quantity_of_shape (h : lotShape lot = lotShape lot') :
    lot.fields.quantity = lot'.fields.quantity := shape_field h (·.quantity) (fun _ => rfl)

theorem direction_of_shape (h : lotShape lot = lotShape lot') :
    lot.fields.direction = lot'.fields.direction := shape_field h (·.direction) (fun _ => rfl)

theorem isCandidate_of_shape (fill : Fill) (closeToday : Bool) (h : lotShape lot = lotShape lot') :
    IsCandidate fill closeToday lot ↔ IsCandidate fill closeToday lot' := by
  unfold IsCandidate
  rw [shape_field h (·.instrument) (fun _ => rfl), direction_of_shape h,
    shape_field h (·.openedAt) (fun _ => rfl)]

/-- The lots of two lists have the same shapes, in order. -/
abbrev SameShapes (lots lots' : List PositionLot) : Prop :=
  List.Forall₂ (fun lot lot' => lotShape lot = lotShape lot') lots lots'

theorem sameShapes_iff : SameShapes lots lots' ↔ lots.map lotShape = lots'.map lotShape := by
  rw [← List.forall₂_eq_eq_eq, List.forall₂_map_left_iff, List.forall₂_map_right_iff]

theorem exposure_of_shapes (multiplier : Decimal)
    (h : SameShapes lots lots') : exposure multiplier lots = exposure multiplier lots' := by
  induction h with
  | nil => rfl
  | cons hlot _ ih =>
    rw [exposure_cons, exposure_cons, ih, lotExposure, lotExposure, quantity_of_shape hlot,
      direction_of_shape hlot]

theorem candidates_of_shapes (fill : Fill) (closeToday : Bool) (h : SameShapes lots lots') :
    SameShapes (lots.filter (fun lot => IsCandidate fill closeToday lot))
      (lots'.filter (fun lot => IsCandidate fill closeToday lot)) := by
  induction h with
  | nil => exact .nil
  | @cons lot lot' lots lots' hlot _ ih =>
    have hcand := isCandidate_of_shape fill closeToday hlot
    by_cases h : IsCandidate fill closeToday lot
    · have h' : IsCandidate fill closeToday lot' := hcand.mp h
      rw [List.filter_cons_of_pos (by simpa using h), List.filter_cons_of_pos (by simpa using h')]
      exact .cons hlot ih
    · have h' : ¬ IsCandidate fill closeToday lot' := fun h' => h (hcand.mpr h')
      rw [List.filter_cons_of_neg (by simpa using h), List.filter_cons_of_neg (by simpa using h')]
      exact ih

/-- A lot of the account is found among the candidates exactly when it is one. -/
theorem mem_candidates_iff {fill : Fill} {closeToday : Bool} (hlot : lot ∈ lots) :
    (lots.filter (fun l => IsCandidate fill closeToday l)).any (fun c => lot.SameAs c) = true
      ↔ IsCandidate fill closeToday lot := by
  rw [List.any_eq_true]
  constructor
  · rintro ⟨c, hc, hsame⟩
    obtain ⟨-, hcand⟩ := List.mem_filter.mp hc
    have hfields := (of_decide_eq_true hsame).1
    have hi := congrArg PositionLotFields.instrument hfields
    have hd := congrArg PositionLotFields.direction hfields
    have ho := congrArg PositionLotFields.openedAt hfields
    simp only at hi hd ho
    have hcand := of_decide_eq_true hcand
    unfold IsCandidate at hcand ⊢
    rw [hi, hd, ho]
    exact hcand
  · intro hcand
    refine ⟨lot, List.mem_filter.mpr ⟨hlot, decide_eq_true hcand⟩, decide_eq_true ?_⟩
    exact ⟨rfl, rfl, rfl⟩

/-- **The closing loop on two books.**  Which lots it keeps, and their shapes, do not depend on
the cost basis. -/
theorem closeLots_shapes (multiplier : Decimal) (fill : Fill) (closeToday : Bool)
    {candidates candidates' : List PositionLot} (h : SameShapes lots lots')
    (hc : ∀ lot ∈ lots, candidates.any (fun c => lot.SameAs c) = true
      ↔ IsCandidate fill closeToday lot)
    (hc' : ∀ lot ∈ lots', candidates'.any (fun c => lot.SameAs c) = true
      ↔ IsCandidate fill closeToday lot) :
    ∀ {remaining realized realized' : Decimal} {r r' : List PositionLot × Decimal},
      closeLots (.exact n) multiplier fill candidates lots remaining realized = .ok r →
      closeLots (.exact n) multiplier fill candidates' lots' remaining realized' = .ok r' →
      SameShapes r.1 r'.1 := by
  induction h with
  | nil =>
    intro remaining realized realized' r r' hr hr'
    cases hr
    cases hr'
    exact .nil
  | @cons lot lot' lots lots' hlot _ ih =>
    replace ih := @ih (fun l hl => hc l (List.mem_cons_of_mem _ hl))
      (fun l hl => hc' l (List.mem_cons_of_mem _ hl))
    intro remaining realized realized' r r' hr hr'
    rw [closeLots] at hr hr'
    have hany : (¬ candidates.any (fun c => lot.SameAs c) = true)
        ↔ ¬ candidates'.any (fun c => lot'.SameAs c) = true := by
      rw [hc lot List.mem_cons_self, hc' lot' List.mem_cons_self,
        isCandidate_of_shape fill closeToday hlot]
    by_cases hskip : ¬ candidates.any (fun c => lot.SameAs c) ∨ remaining ≤ Decimal.ofNat 0
    · rw [if_pos hskip] at hr
      rw [if_pos (hskip.imp_left hany.mp)] at hr'
      obtain ⟨q, hq, hr⟩ := Py.of_bind hr
      obtain ⟨q', hq', hr'⟩ := Py.of_bind hr'
      cases hr
      cases hr'
      exact .cons hlot (ih hq hq')
    · have hskip' : ¬ (¬ candidates'.any (fun c => lot'.SameAs c) ∨ remaining ≤ Decimal.ofNat 0) :=
        fun h => hskip (h.imp_left hany.mpr)
      rw [if_neg hskip] at hr
      rw [if_neg hskip', ← quantity_of_shape hlot] at hr'
      obtain ⟨pnl, -, hr⟩ := Py.of_bind hr
      obtain ⟨pnl', -, hr'⟩ := Py.of_bind hr'
      simp only [DecimalContext.exact_add, DecimalContext.exact_sub, Py.ok_bind] at hr hr'
      by_cases hpart : Decimal.min' lot.fields.quantity remaining < lot.fields.quantity
      · -- both keep the same part of the lot
        rw [if_pos hpart] at hr hr'
        obtain ⟨reduced, hreduced, hr⟩ := Py.of_bind hr
        obtain ⟨reduced', hreduced', hr'⟩ := Py.of_bind hr'
        obtain ⟨q, hq, hr⟩ := Py.of_bind hr
        obtain ⟨q', hq', hr'⟩ := Py.of_bind hr'
        cases hr
        cases hr'
        refine .cons ?_ (ih hq hq')
        rw [lotShape, lotShape, Frozen.make_eq_ok.mp hreduced, Frozen.make_eq_ok.mp hreduced']
        simp only [reducedLot]
        rw [shape_field hlot (·.lotId) (fun _ => rfl), shape_field hlot (·.accountId)
          (fun _ => rfl),
          shape_field hlot (·.instrument) (fun _ => rfl), direction_of_shape hlot,
          shape_field hlot (·.openedAt) (fun _ => rfl),
          shape_field hlot (·.sourceFillId) (fun _ => rfl)]
      · rw [if_neg hpart] at hr hr'
        exact ih hr hr'

theorem closedState_ok_iff (a : SimulationAccount) (fill : Fill) (closeToday : Bool) :
    (∃ state, a.closedState (.exact n) fill closeToday = .ok state) ↔
      (a.accountId = none ∨ fill.fields.orderId.nspace = "order") ∧
      ∃ available,
        (DecimalContext.exact n).sum ((a.state.lots.filter
          (fun lot => IsCandidate fill closeToday lot)).map (·.fields.quantity)) = .ok available ∧
        fill.fields.quantity ≤ available := by
  constructor
  · rintro ⟨state, h⟩
    obtain ⟨horder, h⟩ := of_require h
    obtain ⟨available, hsum, h⟩ := Py.of_bind h
    obtain ⟨hle, -⟩ := of_require h
    exact ⟨horder, available, hsum, hle⟩
  · rintro ⟨horder, available, hsum, hle⟩
    obtain ⟨kept, realized, hrun, -⟩ := closeLots_exact n a.multiplier fill
      (a.state.lots.filter (fun lot => IsCandidate fill closeToday lot)) a.state.lots
      fill.fields.quantity (Decimal.ofNat 0)
    refine ⟨{ cash := (a.state.cash.add realized).sub fill.fields.fee
              margin := a.state.margin
              realizedPnl := a.state.realizedPnl.add realized
              fees := a.state.fees.add fill.fields.fee
              lots := kept }, ?_⟩
    simp only [closedState, require_of_pos horder, hsum, Py.ok_bind, require_of_pos hle, hrun,
      DecimalContext.exact_add, DecimalContext.exact_sub]

theorem closedState_value {fill : Fill} {closeToday : Bool}
    (h : a.closedState (.exact n) fill closeToday = .ok state) :
    state.cash.val - costBasis a.multiplier state.lots = a.bookValue - fill.fields.fee.val
      + fill.fields.price.val
        * (exposure a.multiplier a.state.lots - exposure a.multiplier state.lots) := by
  obtain ⟨e, herr⟩ | ⟨kept, realized, hrun, hok⟩ := a.closedState_exact n fill closeToday
  · rw [herr] at h
    cases h
  · rw [hok] at h
    injection h with h
    obtain ⟨kept', realized', hrun', hval⟩ := closeLots_exact n a.multiplier fill
      (a.state.lots.filter (fun lot => IsCandidate fill closeToday lot)) a.state.lots
      fill.fields.quantity (Decimal.ofNat 0)
    rw [hrun] at hrun'
    injection hrun' with hrun'
    injection hrun' with hkept hrealized
    subst hkept hrealized h
    simp only [Decimal.val_sub, Decimal.val_add, hval, bookValue, Decimal.val_ofNat]
    push_cast
    ring

namespace SameBook

theorem sameShapes (h : SameBook a b) : SameShapes a.state.lots b.state.lots :=
  sameShapes_iff.mpr h.shapes

theorem accountId (h : SameBook a b) : a.accountId = b.accountId := by
  rw [SimulationAccount.accountId, h.config]; rfl

theorem candidate_quantities (h : SameBook a b) (fill : Fill) (closeToday : Bool) :
    (a.state.lots.filter (fun lot => IsCandidate fill closeToday lot)).map (·.fields.quantity)
      = (b.state.lots.filter (fun lot => IsCandidate fill closeToday lot)).map
          (·.fields.quantity) := by
  rw [← List.forall₂_eq_eq_eq, List.forall₂_map_left_iff, List.forall₂_map_right_iff]
  exact (candidates_of_shapes fill closeToday h.sameShapes).imp (fun _ _ => quantity_of_shape)

/-- **A closing fill** on both accounts. -/
theorem close (h : SameBook a b) (fill : Fill) (closeToday : Bool) :
    SameBook (a.close (.exact n) fill closeToday).2 (b.close (.exact n) fill closeToday).2 := by
  unfold SimulationAccount.close
  rw [h.fills]
  by_cases hseen : b.appliedFills.Has fill.fields.fillId
  · rw [if_pos hseen, if_pos hseen]
    exact h
  rw [if_neg hseen, if_neg hseen]
  have hiff : (∃ state, a.closedState (.exact n) fill closeToday = .ok state) ↔
      ∃ state, b.closedState (.exact n) fill closeToday = .ok state := by
    rw [closedState_ok_iff, closedState_ok_iff, h.accountId, h.candidate_quantities]
  rcases ha : a.closedState (.exact n) fill closeToday with e | state
  · rcases hb : b.closedState (.exact n) fill closeToday with e' | state'
    · exact h
    · obtain ⟨state, ha'⟩ := hiff.mpr ⟨state', hb⟩
      rw [ha] at ha'
      cases ha'
  obtain ⟨state', hb⟩ := hiff.mp ⟨state, ha⟩
  rw [hb]
  -- the loop keeps lots of the same shapes
  have hlots : SameShapes state.lots state'.lots := by
    obtain ⟨e, herr⟩ | ⟨kept, realized, hrun, hok⟩ := a.closedState_exact n fill closeToday
    · rw [herr] at ha
      cases ha
    obtain ⟨e, herr⟩ | ⟨kept', realized', hrun', hok'⟩ := b.closedState_exact n fill closeToday
    · rw [herr] at hb
      cases hb
    rw [hok] at ha
    rw [hok'] at hb
    injection ha with ha
    injection hb with hb
    subst ha hb
    rw [← h.multiplier] at hrun'
    exact closeLots_shapes a.multiplier fill closeToday h.sameShapes
      (fun lot hlot => mem_candidates_iff hlot) (fun lot hlot => mem_candidates_iff hlot)
      hrun hrun'
  refine ⟨h.config, rfl, sameShapes_iff.mp hlots, ?_⟩
  show state.cash.val - costBasis a.multiplier state.lots
    = state'.cash.val - costBasis b.multiplier state'.lots
  rw [closedState_value ha, closedState_value hb, ← h.multiplier, h.value,
    exposure_of_shapes a.multiplier h.sameShapes, exposure_of_shapes a.multiplier hlots]

/-- **An opening fill** on both accounts. -/
theorem applyFill (h : SameBook a b) (fill : Fill) (lotId accountId : Option EntityId) :
    SameBook (a.applyFill (.exact n) fill lotId accountId).2
      (b.applyFill (.exact n) fill lotId accountId).2 := by
  unfold SimulationAccount.applyFill
  rw [h.fills]
  by_cases hseen : b.appliedFills.Has fill.fields.fillId
  · rw [if_pos hseen, if_pos hseen]
    exact h
  rw [if_neg hseen, if_neg hseen]
  have hlotIds : a.state.lots.map (·.fields.lotId) = b.state.lots.map (·.fields.lotId) := by
    rw [← List.forall₂_eq_eq_eq, List.forall₂_map_left_iff, List.forall₂_map_right_iff]
    exact h.sameShapes.imp (fun _ _ hlot => shape_field hlot (·.lotId) (fun _ => rfl))
  have hids : a.checkFillIds lotId accountId = b.checkFillIds lotId accountId := by
    unfold checkFillIds
    rw [h.accountId, hlotIds]
  obtain ⟨e, ha, hra⟩ | ⟨ids, lot, ha, hlot, hra⟩ := a.filledState_exact n fill lotId accountId
  · obtain ⟨e', -, hrb⟩ | ⟨ids, lot, hb, -, -⟩ := b.filledState_exact n fill lotId accountId
    · rw [hra, hrb]
      exact h
    · rw [hids, hb] at ha
      cases ha
  obtain ⟨e', hb, -⟩ | ⟨ids', lot', hb, hlot', hrb⟩ := b.filledState_exact n fill lotId accountId
  · rw [hids, hb] at ha
    cases ha
  rw [hids, hb] at ha
  injection ha with ha
  subst ha
  rw [hra, hrb]
  have hsame : lot = lot' := Frozen.ext (hlot.trans hlot'.symm)
  subst hsame
  refine ⟨h.config, rfl, ?_, ?_⟩
  · show (a.state.lots ++ [lot]).map lotShape = (b.state.lots ++ [lot]).map lotShape
    rw [List.map_append, List.map_append, h.shapes]
  · show (a.state.cash.sub fill.fields.fee).val - costBasis a.multiplier (a.state.lots ++ [lot])
      = (b.state.cash.sub fill.fields.fee).val - costBasis b.multiplier (b.state.lots ++ [lot])
    have hvalue := h.value
    rw [bookValue, bookValue] at hvalue
    rw [← h.multiplier] at hvalue ⊢
    rw [costBasis_concat, costBasis_concat, Decimal.val_sub, Decimal.val_sub]
    linarith

end SameBook

/-! ### Histories -/

/-- A fill, a close, a margin call, or a settlement of what `mark_to_market` returns. -/
inductive BookEvent where
  | fill (fill : Fill) (lotId accountId : Option EntityId)
  | close (fill : Fill) (closeToday : Bool)
  | mark (settlementId : Option EntityId) (tradingDate : Text) (price : Option Decimal)
      (now : Option RecordedAt)
  | reserveMargin (amount : Option Decimal)
  | releaseMargin (amount : Option Decimal)

/-- The event is a fill or a close. -/
def BookEvent.isTrade : BookEvent → Bool
  | .fill .. => true
  | .close .. => true
  | _ => false

/-- The fills and closes of a history, in order. -/
def trades (history : List BookEvent) : List BookEvent := history.filter BookEvent.isTrade

section

variable [Hashlib]

/-- `mark_to_market`, and the settlement of what it returns at once. -/
def markAndSettle (ctx : DecimalContext) (a : SimulationAccount) (settlementId : Option EntityId)
    (tradingDate : Text) (price : Option Decimal) (now : Option RecordedAt) :
    Py AccountState × SimulationAccount :=
  match a.markToMarket ctx settlementId tradingDate price now with
  | .error e => (.error e, a)
  | .ok s => a.settle ctx s

/-- One event of a history. -/
def bookStep (ctx : DecimalContext) (a : SimulationAccount) :
    BookEvent → Py AccountState × SimulationAccount
  | .fill fill lotId accountId => a.applyFill ctx fill lotId accountId
  | .close fill closeToday => a.close ctx fill closeToday
  | .mark settlementId tradingDate price now =>
    a.markAndSettle ctx settlementId tradingDate price now
  | .reserveMargin amount => a.reserveMargin ctx amount
  | .releaseMargin amount => a.releaseMargin ctx amount

/-- The machine of a history. -/
def bookMachine (ctx : DecimalContext) : Machine SimulationAccount BookEvent (Py AccountState) :=
  ⟨bookStep ctx⟩

theorem isMark_of_markToMarket {settlementId : Option EntityId} {tradingDate : Text}
    {settlementPrice : Option Decimal} {now : Option RecordedAt} {s : Settlement}
    (h : a.markToMarket (.exact n) settlementId tradingDate settlementPrice now = .ok s) :
    ∃ price, a.IsMark s price ∧ Decimal.ofNat 0 < price := by
  obtain ⟨_, price, -, -, -, -, hprice, -, hcash⟩ := markToMarket_exact h
  exact ⟨price, ⟨hprice, hcash⟩, s.settlementPrice_pos hprice⟩

theorem settledState_of_markToMarket {settlementId : Option EntityId} {tradingDate : Text}
    {settlementPrice : Option Decimal} {now : Option RecordedAt} {s : Settlement}
    (h : a.markToMarket (.exact n) settlementId tradingDate settlementPrice now = .ok s)
    (hdate : ¬ a.settlementDates.Has s.fields.tradingDate) :
    ∃ state, a.settledState (.exact n) s = .ok state := by
  obtain ⟨_, price, -, -, -, -, hprice, haccount, -⟩ := markToMarket_exact h
  have hown : a.accountId = none ∨ a.accountId = some s.fields.accountId := by
    rcases hid : a.accountId with _ | id
    · exact Or.inl rfl
    · rw [haccount id hid]
      exact Or.inr rfl
  obtain ⟨repriced, hrun, -⟩ := mapM_repriced (s.settlementPrice_pos hprice) a.state.lots
  refine ⟨{ cash := a.state.cash.add s.fields.cashDelta
            margin := a.state.margin
            realizedPnl := a.state.realizedPnl.add s.fields.realizedPnl
            fees := a.state.fees.add s.fields.fees
            lots := repriced }, ?_⟩
  simp only [settledState, require_of_pos hdate, require_of_pos hown, Py.ok_bind, hprice, hrun,
    DecimalContext.exact_add]

theorem SameBook.mark (a : SimulationAccount) (settlementId : Option EntityId)
    (tradingDate : Text) (price : Option Decimal) (now : Option RecordedAt) :
    SameBook a (a.markAndSettle (.exact n) settlementId tradingDate price now).2 := by
  unfold markAndSettle
  rcases hm : a.markToMarket (.exact n) settlementId tradingDate price now with e | s
  · exact SameBook.refl a
  obtain ⟨p, hmark, -⟩ := isMark_of_markToMarket hm
  by_cases hseen : a.appliedSettlements.Has s.fields.settlementId
  · simp only [settle, if_pos hseen]
    exact SameBook.refl a
  rcases hstate : a.settledState (.exact n) s with e | state
  · simp only [settle, if_neg hseen, hstate]
    exact SameBook.refl a
  obtain ⟨a', hsettle, hconfig, hstate', hfills⟩ := settle_of_state hseen hstate
  obtain ⟨hvalue, -, hlots⟩ := settledState_mark hmark hstate
  simp only [hsettle]
  have hshapes : SameShapes a.state.lots state.lots :=
    hlots.imp (fun lot r hr => by rw [lotShape, lotShape, hr]; rfl)
  refine ⟨hconfig.symm, hfills.symm, ?_, ?_⟩
  · rw [hstate']
    exact sameShapes_iff.mp hshapes
  · rw [bookValue, bookValue, SimulationAccount.multiplier, SimulationAccount.multiplier, hconfig,
      hstate']
    exact hvalue.symm

omit [Hashlib] in
theorem SameBook.margin (a : SimulationAccount) (margin : Decimal) :
    SameBook a (a.withMargin margin) := ⟨rfl, rfl, rfl, rfl⟩

theorem sameBook_next_of_not_trade (a : SimulationAccount) {event : BookEvent}
    (h : event.isTrade = false) : SameBook a ((bookMachine (.exact n)).next a event) := by
  rcases event with _ | _ | ⟨settlementId, tradingDate, price, now⟩ | amount | amount
  · cases h
  · cases h
  · exact SameBook.mark a settlementId tradingDate price now
  · obtain ⟨margin, heq⟩ := a.reserveMargin_eq_withMargin (.exact n) amount
    show SameBook a (a.reserveMargin (.exact n) amount).2
    rw [heq]
    exact SameBook.margin a margin
  · obtain ⟨margin, heq⟩ := a.releaseMargin_eq_withMargin (.exact n) amount
    show SameBook a (a.releaseMargin (.exact n) amount).2
    rw [heq]
    exact SameBook.margin a margin

theorem sameBook_next_of_trade {event : BookEvent} (h : SameBook a b)
    (htrade : event.isTrade = true) :
    SameBook ((bookMachine (.exact n)).next a event) ((bookMachine (.exact n)).next b event) := by
  rcases event with ⟨fill, lotId, accountId⟩ | ⟨fill, closeToday⟩ | _ | _ | _
  · exact h.applyFill fill lotId accountId
  · exact h.close fill closeToday
  all_goals cases htrade

/-- **A history and its trades** end in the same book. -/
theorem sameBook_exec_trades (history : List BookEvent) :
    ∀ {a b : SimulationAccount}, SameBook a b →
      SameBook ((bookMachine (.exact n)).exec a history)
        ((bookMachine (.exact n)).exec b (trades history)) := by
  induction history with
  | nil =>
    intro a b h
    exact h
  | cons event history ih =>
    intro a b h
    by_cases htrade : event.isTrade = true
    · rw [trades, List.filter_cons_of_pos htrade]
      exact ih (sameBook_next_of_trade h htrade)
    · have hevent := Bool.eq_false_iff.mpr htrade
      rw [trades, List.filter_cons_of_neg htrade]
      exact ih ((sameBook_next_of_not_trade a hevent).symm.trans h)

/-- **Mark-to-market is neutral.** -/
theorem mark_to_market_neutral (n : ℕ) (config : Frozen AccountConfigFields)
    (ops : List AccountOp) :
    (∀ settlementId tradingDate price now s mark,
      (run (.exact n) config ops).markToMarket (.exact n) settlementId tradingDate price now
          = .ok s →
      ¬ (run (.exact n) config ops).appliedSettlements.Has s.fields.settlementId →
      ¬ (run (.exact n) config ops).settlementDates.Has s.fields.tradingDate →
      Decimal.ofNat 0 < mark →
      ∃ state a' before after,
        (run (.exact n) config ops).settle (.exact n) s = (.ok state, a') ∧
        (run (.exact n) config ops).unrealizedPnl (.exact n) (some mark) = .ok before ∧
        a'.unrealizedPnl (.exact n) (some mark) = .ok after ∧
        a'.state.cash.val + after.val = (run (.exact n) config ops).state.cash.val + before.val) ∧
    (∀ history history' : List BookEvent, trades history = trades history' →
      ((bookMachine (.exact n)).exec (run (.exact n) config ops) history).state.lots = [] →
      ((bookMachine (.exact n)).exec (run (.exact n) config ops) history').state.lots = [] ∧
        ((bookMachine (.exact n)).exec (run (.exact n) config ops) history').state.cash.val
          = ((bookMachine (.exact n)).exec (run (.exact n) config ops)
            history).state.cash.val) := by
  generalize run (.exact n) config ops = a
  constructor
  · intro settlementId tradingDate price now s mark hm hid hdate hmark
    obtain ⟨p, hismark, -⟩ := isMark_of_markToMarket hm
    obtain ⟨state, hstate⟩ := settledState_of_markToMarket hm hdate
    obtain ⟨a', hsettle, hconfig, hstate', -⟩ := settle_of_state hid hstate
    obtain ⟨hvalue, hexposure, -⟩ := settledState_mark hismark hstate
    obtain ⟨before, hbefore, hb⟩ := unrealizedPnl_exact n a hmark
    obtain ⟨after, hafter, ha⟩ := unrealizedPnl_exact n a' hmark
    refine ⟨state, a', before, after, hsettle, hbefore, hafter, ?_⟩
    have hmultiplier : a'.multiplier = a.multiplier := by
      rw [SimulationAccount.multiplier, hconfig]; rfl
    rw [ha, hb, bookValue, hmultiplier, hstate', hvalue, hexposure]
  · intro history history' htrades hlots
    have h := sameBook_exec_trades (n := n) history (SameBook.refl a)
    have h' := sameBook_exec_trades (n := n) history' (SameBook.refl a)
    rw [← htrades] at h'
    exact (h.trans h'.symm).cash hlots

end

/-- An account with a thousand in cash. -/
def sampleConfig : Frozen AccountConfigFields where
  fields :=
    { initialCash := Decimal.ofNat 1000
      contractMultiplier := Decimal.ofNat 10
      accountId := some (.epoch "simulation_account" 0 0 (Eq.refl true)) }
  valid := by decide +kernel

/-- A time in the sample history. -/
def sampleNow : RecordedAt := ⟨.of 2026 7 13 (Eq.refl true), 15, 0, 0, 0⟩

/-- The fields of a fill of two contracts. -/
def sampleFillFields (n : Fin 0x1000) (direction : TradeDirection) (price : ℕ) : FillFields where
  fillId := .epoch "fill" n 0 (Eq.refl true)
  orderId := .epoch "order" n 0 (Eq.refl true)
  instrument := "rb2610"
  direction := direction
  quantity := Decimal.ofNat 2
  price := Decimal.ofNat price
  fee := Decimal.ofNat 1
  filledAt := sampleNow

/-- Opens two contracts at 30. -/
def openingFill : Fill := ⟨sampleFillFields 1 .LONG 30, by decide +kernel⟩

/-- Closes them at 34. -/
def closingFill : Fill := ⟨sampleFillFields 2 .SHORT 34, by decide +kernel⟩

/-- The opening fill, as an event. -/
def opening : BookEvent :=
  .fill openingFill (some (.epoch "position_lot" 0 0 (Eq.refl true))) sampleConfig.fields.accountId

/-- A mark at 33. -/
def sampleMark : BookEvent :=
  .mark (some (.epoch "settlement" 0 0 (Eq.refl true))) "2026-07-13" (some (Decimal.ofNat 33))
    (some sampleNow)

/-- The settlement that a mark of the opened account at 33 returns. -/
def sampleSettlement : Settlement where
  fields :=
    { settlementId := .epoch "settlement" 0 0 (Eq.refl true)
      accountId := .epoch "simulation_account" 0 0 (Eq.refl true)
      tradingDate := "2026-07-13"
      cashDelta := Decimal.ofNat 60
      realizedPnl := Decimal.ofNat 60
      fees := Decimal.ofNat 0
      recordedAt := sampleNow
      settlementPrice := some (Decimal.ofNat 33) }
  valid := by decide +kernel

/-- The calls that open the account. -/
def openingOps : List AccountOp :=
  [.applyFill openingFill (some (.epoch "position_lot" 0 0 (Eq.refl true)))
    sampleConfig.fields.accountId]

/-- The opened account settles the mark at 33 without changing its value at 40, and a close at
34 leaves the same cash with and without the mark. -/
theorem mark_to_market_neutral_of_samples :
    (∃ state a' before after,
      (run (.exact 0) sampleConfig openingOps).settle (.exact 0) sampleSettlement
        = (.ok state, a') ∧
      (run (.exact 0) sampleConfig openingOps).unrealizedPnl (.exact 0) (some (Decimal.ofNat 40))
        = .ok before ∧
      a'.unrealizedPnl (.exact 0) (some (Decimal.ofNat 40)) = .ok after ∧
      a'.state.cash.val + after.val
        = (run (.exact 0) sampleConfig openingOps).state.cash.val + before.val) ∧
    ((bookMachine (.exact 0)).exec (run (.exact 0) sampleConfig [])
        [opening, sampleMark, .close closingFill false]).state.cash.val
      = ((bookMachine (.exact 0)).exec (run (.exact 0) sampleConfig [])
        [opening, .close closingFill false]).state.cash.val := by
  constructor
  · exact (mark_to_market_neutral 0 sampleConfig openingOps).1
      (some (.epoch "settlement" 0 0 (Eq.refl true)))
      "2026-07-13" (some (Decimal.ofNat 33)) (some sampleNow) sampleSettlement (Decimal.ofNat 40)
      (by decide +kernel) (by decide +kernel) (by decide +kernel) (by decide +kernel)
  · exact ((mark_to_market_neutral 0 sampleConfig []).2 [opening, .close closingFill false]
      [opening, sampleMark, .close closingFill false] rfl (by decide +kernel)).2

end SimulationAccount

end FuturesAgentOs
