import FuturesAgentOs.AccountingSettlement.SimulationAccount

namespace FuturesAgentOs

open PyModel

/-!
# What the account's methods do to its value

The value layer of the account, in exact arithmetic.  A list of lots has an `exposure` (signed
quantity times multiplier) and a `costBasis` (the same, each lot at its average price); the
pnl of the lots at a price `p` is `p * exposure - costBasis`.

* `filledState_exact`, `closeLots_exact`, `closedState_exact`, `settledState_exact` — for each
  method that moves the account, when it succeeds and what it then does.
-/

namespace SimulationAccount

/-! ### Exposure and cost basis -/

/-- The signed quantity of a lot times the multiplier. -/
def lotExposure (multiplier : Decimal) (lot : PositionLot) : ℚ :=
  lot.fields.quantity.val * lot.fields.direction.sign.val * multiplier.val

/-- The exposure of a list of lots. -/
def exposure (multiplier : Decimal) (lots : List PositionLot) : ℚ :=
  (lots.map (lotExposure multiplier)).sum

/-- The exposure of a list of lots, each at its average price. -/
def costBasis (multiplier : Decimal) (lots : List PositionLot) : ℚ :=
  (lots.map (fun lot => lot.fields.averagePrice.val * lotExposure multiplier lot)).sum

section

variable (multiplier : Decimal) (lot : PositionLot) (lots : List PositionLot)

@[simp] theorem exposure_nil : exposure multiplier [] = 0 := rfl

@[simp] theorem costBasis_nil : costBasis multiplier [] = 0 := rfl

@[simp] theorem exposure_cons :
    exposure multiplier (lot :: lots) = lotExposure multiplier lot + exposure multiplier lots := by
  simp [exposure]

@[simp] theorem costBasis_cons :
    costBasis multiplier (lot :: lots)
      = lot.fields.averagePrice.val * lotExposure multiplier lot + costBasis multiplier lots := by
  simp [costBasis]

@[simp] theorem costBasis_concat :
    costBasis multiplier (lots ++ [lot])
      = costBasis multiplier lots + lot.fields.averagePrice.val * lotExposure multiplier lot := by
  simp [costBasis]

end

/-! ### Pnl -/

variable (n : ℕ)

theorem lotPnl_exact (multiplier price : Decimal) (lot : PositionLot) (quantity : Decimal) :
    ∃ pnl, lotPnl (.exact n) multiplier price lot quantity = .ok pnl ∧
      pnl.val = (price.val - lot.fields.averagePrice.val)
        * (quantity.val * lot.fields.direction.sign.val * multiplier.val) := by
  refine ⟨_, rfl, ?_⟩
  simp only [Decimal.val_mul, Decimal.val_sub]
  ring

theorem lotsPnl_exact (multiplier price : Decimal) (lots : List PositionLot) :
    ∀ total, ∃ pnl, lotsPnl (.exact n) multiplier price lots total = .ok pnl ∧
      pnl.val = total.val + price.val * exposure multiplier lots - costBasis multiplier lots := by
  induction lots with
  | nil =>
    intro total
    exact ⟨total, rfl, by simp⟩
  | cons lot lots ih =>
    intro total
    obtain ⟨pnl, hpnl, hval⟩ := lotPnl_exact n multiplier price lot lot.fields.quantity
    obtain ⟨sum, hsum, hsumval⟩ := ih (total.add pnl)
    refine ⟨sum, ?_, ?_⟩
    · rw [lotsPnl, List.foldlM_cons, hpnl]
      exact hsum
    · rw [hsumval, Decimal.val_add, hval, exposure_cons, costBasis_cons, lotExposure]
      ring

/-! ### Opening fills -/

theorem postInit_openedLot (fill : Fill) {lotId accountId : EntityId}
    (hlot : lotId.nspace = "position_lot") (haccount : accountId.nspace = "simulation_account") :
    (openedLot fill lotId accountId).postInit = .ok () := by
  have h : fill.fields.postInit = .ok () := fill.valid
  simp only [FillFields.postInit, check_bind_eq_ok, checkNamespace_eq_ok, checkText_eq_ok,
    checkPositive_eq_ok] at h
  obtain ⟨hfill, -, -, -, hinstrument, hquantity, hprice, -⟩ := h
  rw [PositionLot.postInit_eq_ok]
  have hsource : (openedLot fill lotId accountId).sourceRef.IsScopeText := by
    show Text.IsScopeText ("source:v2" : Text)
    decide +kernel
  refine ⟨hlot, haccount, ?_, le_rfl, hsource, hinstrument, hquantity, hprice⟩
  intro id hid
  obtain rfl := Option.mem_some.mp hid
  exact hfill

/-- The identifiers that `apply_fill` accepts. -/
theorem checkFillIds_eq_ok {a : SimulationAccount} {lotId accountId : Option EntityId}
    {ids : EntityId × EntityId} (h : a.checkFillIds lotId accountId = .ok ids) :
    ids.1.nspace = "position_lot" ∧ ids.2.nspace = "simulation_account" := by
  rcases accountId with _ | aid
  · cases h
  rcases lotId with _ | lid
  · obtain ⟨-, h⟩ := of_require h
    obtain ⟨-, h⟩ := of_require h
    cases h
  · obtain ⟨haccount, h⟩ := of_require h
    obtain ⟨-, h⟩ := of_require h
    obtain ⟨hlot, h⟩ := of_require h
    obtain ⟨-, h⟩ := of_require h
    injection h with h
    subst h
    exact ⟨hlot, haccount⟩

/-- **An opening fill** whose identifiers are accepted pays the fee and appends its lot. -/
theorem filledState_exact (a : SimulationAccount) (fill : Fill)
    (lotId accountId : Option EntityId) :
    (∃ e, a.checkFillIds lotId accountId = .error e ∧
        a.filledState (.exact n) fill lotId accountId = .error e) ∨
      ∃ ids lot, a.checkFillIds lotId accountId = .ok ids ∧
        lot.fields = openedLot fill ids.1 ids.2 ∧
        a.filledState (.exact n) fill lotId accountId = .ok { a.state with
          cash := a.state.cash.sub fill.fields.fee
          fees := a.state.fees.add fill.fields.fee
          lots := a.state.lots ++ [lot] } := by
  unfold filledState
  rcases h : a.checkFillIds lotId accountId with e | ids
  · exact Or.inl ⟨e, rfl, rfl⟩
  · obtain ⟨hlot, haccount⟩ := checkFillIds_eq_ok h
    have hvalid := postInit_openedLot fill hlot haccount
    have hmake := Frozen.make_of_valid (f := openedLot fill ids.1 ids.2) hvalid
    refine Or.inr ⟨ids, ⟨_, hvalid⟩, rfl, rfl, ?_⟩
    simp only [Py.ok_bind, DecimalContext.exact_sub, DecimalContext.exact_add, hmake]

/-! ### Closing fills -/

theorem postInit_reducedLot (lot : PositionLot) {quantity : Decimal}
    (hquantity : Decimal.ofNat 0 < quantity) : (reducedLot lot quantity).postInit = .ok () := by
  obtain ⟨h1, h2, h3, h4, -, h6, -, h8⟩ := PositionLot.postInit_eq_ok.mp lot.valid
  rw [PositionLot.postInit_eq_ok]
  have hversion : 1 ≤ lot.fields.version + 1 := by omega
  have hsource : (reducedLot lot quantity).sourceRef.IsScopeText := by
    show Text.IsScopeText ("source:v2" : Text)
    decide +kernel
  exact ⟨h1, h2, h3, hversion, hsource, h6, hquantity, h8⟩

/-- **The closing loop** never raises.  What it realizes is the value, at the price of the fill,
of the exposure it takes off the book, less the cost basis it takes off. -/
theorem closeLots_exact (multiplier : Decimal) (fill : Fill) (candidates : List PositionLot)
    (lots : List PositionLot) :
    ∀ remaining realized, ∃ kept realized',
      closeLots (.exact n) multiplier fill candidates lots remaining realized
        = .ok (kept, realized')
        ∧ realized'.val = realized.val
          + fill.fields.price.val * (exposure multiplier lots - exposure multiplier kept)
          - (costBasis multiplier lots - costBasis multiplier kept) := by
  induction lots with
  | nil =>
    intro remaining realized
    exact ⟨[], realized, rfl, by simp⟩
  | cons lot lots ih =>
    intro remaining realized
    rw [closeLots]
    by_cases hskip : ¬ candidates.any (fun c => lot.SameAs c) ∨ remaining ≤ Decimal.ofNat 0
    · -- the lot stays as it is
      obtain ⟨kept, realized', hrun, hval⟩ := ih remaining realized
      refine ⟨lot :: kept, realized', ?_, ?_⟩
      · rw [if_pos hskip, hrun]
        rfl
      · rw [hval]
        simp only [exposure_cons, costBasis_cons]
        ring
    · rw [if_neg hskip]
      set matched := Decimal.min' lot.fields.quantity remaining
      obtain ⟨pnl, hpnl, hpnlval⟩ := lotPnl_exact n multiplier fill.fields.price lot matched
      obtain ⟨kept, realized', hrun, hval⟩ := ih (remaining.sub matched) (realized.add pnl)
      rw [Decimal.val_add, hpnlval] at hval
      by_cases hpart : matched < lot.fields.quantity
      · -- a part of the lot stays
        have hpos : Decimal.ofNat 0 < lot.fields.quantity.sub matched := by
          rw [Decimal.lt_def] at hpart ⊢
          simpa using hpart
        have hvalid := postInit_reducedLot lot hpos
        have hmake := Frozen.make_of_valid (f := reducedLot lot (lot.fields.quantity.sub matched))
          hvalid
        refine ⟨⟨_, hvalid⟩ :: kept, realized', ?_, ?_⟩
        · simp only [hpnl, Py.ok_bind, DecimalContext.exact_add, DecimalContext.exact_sub,
            if_pos hpart, hmake, hrun]
        · rw [hval]
          simp only [exposure_cons, costBasis_cons, lotExposure, reducedLot, Decimal.val_sub]
          ring
      · -- the whole lot goes
        have hwhole : matched.val = lot.fields.quantity.val := by
          have hle : matched.val ≤ lot.fields.quantity.val := by
            rw [Decimal.val_min']
            exact min_le_left _ _
          exact le_antisymm hle (Decimal.not_lt.mp hpart)
        refine ⟨kept, realized', ?_, ?_⟩
        · simp only [hpnl, Py.ok_bind, DecimalContext.exact_add, DecimalContext.exact_sub,
            if_neg hpart, hrun]
        · rw [hval, hwhole]
          simp only [exposure_cons, costBasis_cons, lotExposure]
          ring

/-- **A closing fill** is refused, or settles what the closing loop realized and pays the fee. -/
theorem closedState_exact (a : SimulationAccount) (fill : Fill) (closeToday : Bool) :
    (∃ e, a.closedState (.exact n) fill closeToday = .error e) ∨
      ∃ kept realized,
        closeLots (.exact n) a.multiplier fill
            (a.state.lots.filter (fun lot => IsCandidate fill closeToday lot)) a.state.lots
            fill.fields.quantity (Decimal.ofNat 0) = .ok (kept, realized) ∧
        a.closedState (.exact n) fill closeToday = .ok
          { cash := (a.state.cash.add realized).sub fill.fields.fee
            margin := a.state.margin
            realizedPnl := a.state.realizedPnl.add realized
            fees := a.state.fees.add fill.fields.fee
            lots := kept } := by
  rcases h : a.closedState (.exact n) fill closeToday with e | state
  · exact Or.inl ⟨e, rfl⟩
  · right
    obtain ⟨-, h⟩ := of_require h
    obtain ⟨available, -, h⟩ := Py.of_bind h
    obtain ⟨-, h⟩ := of_require h
    obtain ⟨⟨kept, realized⟩, hrun, h⟩ := Py.of_bind h
    injection h with h
    exact ⟨kept, realized, hrun, by rw [← h]⟩

/-! ### Settlements -/

variable {price : Decimal}

theorem postInit_repricedLot (lot : PositionLot)
    (hprice : Decimal.ofNat 0 < price) : (repricedLot price lot.fields).postInit = .ok () := by
  obtain ⟨h1, h2, h3, h4, h5, h6, h7, -⟩ := PositionLot.postInit_eq_ok.mp lot.valid
  rw [PositionLot.postInit_eq_ok]
  have hversion : 1 ≤ lot.fields.version + 1 := by omega
  exact ⟨h1, h2, h3, hversion, h5, h6, h7, hprice⟩

/-- Resetting the cost basis of lots never raises. -/
theorem mapM_repriced (hprice : Decimal.ofNat 0 < price) (lots : List PositionLot) :
    ∃ repriced, lots.mapM (fun lot => lot.replace (repricedLot price)) = .ok repriced ∧
      List.Forall₂ (fun lot r => r.fields = repricedLot price lot.fields) lots repriced := by
  induction lots with
  | nil => exact ⟨[], rfl, .nil⟩
  | cons lot lots ih =>
    obtain ⟨repriced, hrun, hall⟩ := ih
    have hvalid := postInit_repricedLot lot hprice
    have hmake : lot.replace (repricedLot price) = .ok ⟨_, hvalid⟩ := Frozen.make_of_valid hvalid
    refine ⟨⟨_, hvalid⟩ :: repriced, ?_, .cons rfl hall⟩
    rw [List.mapM_cons, hmake, hrun]
    rfl

theorem exposure_repriced (multiplier : Decimal) {lots repriced : List PositionLot}
    (h : List.Forall₂ (fun lot r => r.fields = repricedLot price lot.fields) lots repriced) :
    exposure multiplier repriced = exposure multiplier lots ∧
      costBasis multiplier repriced = price.val * exposure multiplier lots := by
  induction h with
  | nil => simp
  | @cons lot r lots repriced hr _ ih =>
    have hexposure : lotExposure multiplier r = lotExposure multiplier lot := by
      rw [lotExposure, lotExposure, hr]; rfl
    have hprice : r.fields.averagePrice = price := by rw [hr]; rfl
    simp only [exposure_cons, costBasis_cons, hexposure, hprice, ih]
    exact ⟨trivial, by ring⟩

/-- **A settlement** is refused, or moves cash, pnl and fees by its amounts and, when it carries
a mark, resets the cost basis of every lot to it. -/
theorem settledState_exact (a : SimulationAccount) (s : Settlement) :
    (∃ e, a.settledState (.exact n) s = .error e) ∨
      ∃ lots,
        (match s.fields.settlementPrice with
          | none => lots = a.state.lots
          | some price => List.Forall₂ (fun lot r => r.fields = repricedLot price lot.fields)
              a.state.lots lots) ∧
        a.settledState (.exact n) s = .ok
          { cash := a.state.cash.add s.fields.cashDelta
            margin := a.state.margin
            realizedPnl := a.state.realizedPnl.add s.fields.realizedPnl
            fees := a.state.fees.add s.fields.fees
            lots := lots } := by
  unfold settledState
  by_cases hdate : ¬ a.settlementDates.Has s.fields.tradingDate
  swap
  · exact Or.inl ⟨_, by rw [require_of_neg hdate]; rfl⟩
  by_cases haccount : a.accountId = none ∨ a.accountId = some s.fields.accountId
  swap
  · exact Or.inl ⟨_, by rw [require_of_pos hdate, Py.ok_bind, require_of_neg haccount]; rfl⟩
  right
  rcases hprice : s.fields.settlementPrice with _ | price
  · refine ⟨a.state.lots, rfl, ?_⟩
    rw [require_of_pos hdate, Py.ok_bind, require_of_pos haccount]
    rfl
  · obtain ⟨repriced, hrun, hall⟩ := mapM_repriced (s.settlementPrice_pos hprice) a.state.lots
    refine ⟨repriced, hall, ?_⟩
    simp only [require_of_pos hdate, Py.ok_bind, require_of_pos haccount, hrun,
      DecimalContext.exact_add]

end SimulationAccount

/-!
## Conservation of cash

Every call moves cash and the accumulators by the same amount, so in exact arithmetic the
conservation residual of an account is always zero.

* `cash_conserved` — every run, restarts included.
-/

namespace SimulationAccount

/-- Cash is the initial cash, plus the realized pnl and the settlement adjustments, less the
fees. -/
def Conserved (a : SimulationAccount) : Prop :=
  a.state.cash.val = a.config.fields.initialCash.val + a.state.realizedPnl.val
    + a.settlementCashAdjustment.val - a.state.fees.val

variable {n : ℕ} {a : SimulationAccount}

theorem conserved_new (config : Frozen AccountConfigFields) : (new config).Conserved := by
  simp [Conserved, new]

/-- The residual is the difference of the two sides. -/
theorem conservationResidual_exact (n : ℕ) (a : SimulationAccount) :
    ∃ residual, a.conservationResidual (.exact n) = .ok residual ∧
      residual.val = a.state.cash.val - (a.config.fields.initialCash.val + a.state.realizedPnl.val
        + a.settlementCashAdjustment.val - a.state.fees.val) := by
  refine ⟨_, rfl, ?_⟩
  simp only [Decimal.val_sub, Decimal.val_add]

/-- `assert_conservation` passes exactly when cash is conserved. -/
theorem assertConservation_eq_ok (n : ℕ) (a : SimulationAccount) :
    a.assertConservation (.exact n) = .ok () ↔ a.Conserved := by
  obtain ⟨residual, hresidual, hval⟩ := a.conservationResidual_exact n
  rw [assertConservation, hresidual, Py.ok_bind, require_eq_ok, Decimal.numEq, hval,
    Decimal.val_ofNat, Nat.cast_zero, sub_eq_zero]
  rfl

/-! ### One lemma a method -/

theorem Conserved.reserveMargin (h : a.Conserved) (amount : Option Decimal) :
    (a.reserveMargin (.exact n) amount).2.Conserved := by
  obtain ⟨margin, heq⟩ := a.reserveMargin_eq_withMargin (.exact n) amount
  rw [heq]
  exact h

theorem Conserved.releaseMargin (h : a.Conserved) (amount : Option Decimal) :
    (a.releaseMargin (.exact n) amount).2.Conserved := by
  obtain ⟨margin, heq⟩ := a.releaseMargin_eq_withMargin (.exact n) amount
  rw [heq]
  exact h

/-- An opening fill takes its fee from cash and adds it to the fees. -/
theorem Conserved.applyFill (h : a.Conserved) (fill : Fill) (lotId accountId : Option EntityId) :
    (a.applyFill (.exact n) fill lotId accountId).2.Conserved := by
  unfold SimulationAccount.applyFill
  by_cases hdone : a.appliedFills.Has fill.fields.fillId
  · rw [if_pos hdone]
    exact h
  rw [if_neg hdone]
  obtain ⟨e, -, hstate⟩ | ⟨ids, lot, -, -, hstate⟩ := a.filledState_exact n fill lotId accountId
  · rw [hstate]
    exact h
  · rw [hstate]
    unfold Conserved at h ⊢
    simp only [Decimal.val_sub, Decimal.val_add]
    rw [h]
    ring

/-- A closing fill adds what it realizes to cash and to the realized pnl, and pays its fee. -/
theorem Conserved.close (h : a.Conserved) (fill : Fill) (closeToday : Bool) :
    (a.close (.exact n) fill closeToday).2.Conserved := by
  unfold SimulationAccount.close
  by_cases hdone : a.appliedFills.Has fill.fields.fillId
  · rw [if_pos hdone]
    exact h
  rw [if_neg hdone]
  obtain ⟨e, hstate⟩ | ⟨kept, realized, -, hstate⟩ := a.closedState_exact n fill closeToday
  · rw [hstate]
    exact h
  · rw [hstate]
    unfold Conserved at h ⊢
    simp only [Decimal.val_sub, Decimal.val_add]
    rw [h]
    ring

/-- A settlement moves cash by its delta; what of it is not pnl or fees is the adjustment. -/
theorem Conserved.settle (h : a.Conserved) (s : Settlement) :
    (a.settle (.exact n) s).2.Conserved := by
  unfold SimulationAccount.settle
  by_cases hdone : a.appliedSettlements.Has s.fields.settlementId
  · rw [if_pos hdone]
    exact h
  rw [if_neg hdone]
  obtain ⟨e, hstate⟩ | ⟨lots, -, hstate⟩ := a.settledState_exact n s
  · rw [hstate]
    exact h
  · have hadjust : a.settledAdjustment (.exact n) s = .ok (a.settlementCashAdjustment.add
        ((s.fields.cashDelta.sub s.fields.realizedPnl).add s.fields.fees)) := rfl
    rw [hstate, hadjust]
    unfold Conserved at h ⊢
    simp only [Decimal.val_sub, Decimal.val_add]
    rw [h]
    ring

theorem conserved_restore {s : SimulationAccountSnapshot} (h : restore (.exact n) s = .ok a) :
    a.Conserved := by
  obtain ⟨config, -, h⟩ := Py.of_bind h
  obtain ⟨-, h⟩ := of_require h
  obtain ⟨-, h⟩ := of_require h
  obtain ⟨-, h⟩ := of_require h
  obtain ⟨-, h⟩ := of_require h
  obtain ⟨u, hassert, h⟩ := Py.of_bind h
  injection h with h
  subst h
  exact (assertConservation_eq_ok n _).mp hassert

/-- **Every call conserves cash.** -/
theorem Conserved.step (h : a.Conserved) (op : AccountOp) : (a.step (.exact n) op).2.Conserved := by
  rcases op with amount | amount | ⟨fill, lotId, accountId⟩ | s | ⟨fill, closeToday⟩ | s
  · exact h.reserveMargin amount
  · exact h.releaseMargin amount
  · exact h.applyFill fill lotId accountId
  · exact h.settle s
  · exact h.close fill closeToday
  · rw [SimulationAccount.step]
    rcases hrestore : restore (.exact n) s with e | restored
    · exact h
    · exact conserved_restore hrestore

/-- **Cash conservation.**  In exact arithmetic, after every sequence of successful or rejected
calls, cash is the initial cash plus realized pnl plus settlement adjustments less fees: the
residual is zero, and neither `assert_conservation` nor `snapshot` raises. -/
theorem cash_conserved (n : ℕ) (config : Frozen AccountConfigFields) (ops : List AccountOp) :
    let a := run (.exact n) config ops
    a.state.cash.val = a.config.fields.initialCash.val + a.state.realizedPnl.val
        + a.settlementCashAdjustment.val - a.state.fees.val
      ∧ (∃ residual, a.conservationResidual (.exact n) = .ok residual ∧ residual.val = 0)
      ∧ a.assertConservation (.exact n) = .ok ()
      ∧ ∃ s, a.snapshot (.exact n) = .ok s := by
  intro a
  have h : a.Conserved :=
    (machine (.exact n)).exec_invariant (fun a op h => h.step op) (conserved_new config) ops
  have hassert := (assertConservation_eq_ok n a).mpr h
  refine ⟨h, ?_, hassert, ?_⟩
  · obtain ⟨residual, hresidual, hval⟩ := a.conservationResidual_exact n
    refine ⟨residual, hresidual, ?_⟩
    rw [hval, sub_eq_zero]
    exact h
  · rw [snapshot, hassert]
    exact ⟨_, rfl⟩

end SimulationAccount

end FuturesAgentOs
