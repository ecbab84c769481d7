import FuturesAgentOs.AccountingSettlement.MarkToMarket

namespace FuturesAgentOs

open PyModel

/-!
# Settlements that are applied late

`mark_to_market` computes the cash of a settlement and `settle` rewrites the cost basis of the
lots that are there when it is called.  Between the two calls lots may be opened, closed and
settled.

* `settlesNeutrally_iff` — a late settlement is neutral exactly when the lots that are there have
  the pnl that was marked, at the price of the mark.
-/

namespace SimulationAccount

variable {n : ℕ} {a : SimulationAccount} {s : Settlement}

/-- `settle(s)` raises and leaves the account, or leaves cash plus unrealized pnl as it was at
every mark. -/
def SettlesNeutrally (n : ℕ) (a : SimulationAccount) (s : Settlement) : Prop :=
  (∃ e, a.settle (.exact n) s = (.error e, a)) ∨
    ∃ state a', a.settle (.exact n) s = (.ok state, a') ∧
      ∀ mark, Decimal.ofNat 0 < mark → ∃ before after,
        a.unrealizedPnl (.exact n) (some mark) = .ok before ∧
        a'.unrealizedPnl (.exact n) (some mark) = .ok after ∧
        a'.state.cash.val + after.val = a.state.cash.val + before.val

/-- The settlement was applied before, or its trading date was settled, or it is of another
account. -/
def Ignores (a : SimulationAccount) (s : Settlement) : Prop :=
  a.appliedSettlements.Has s.fields.settlementId ∨ a.settlementDates.Has s.fields.tradingDate ∨
    ¬ (a.accountId = none ∨ a.accountId = some s.fields.accountId)

/-- The lots have, at the price of the settlement, the pnl that the settlement moves. -/
def HasPnl (n : ℕ) (a : SimulationAccount) (s : Settlement) : Prop :=
  ∃ pnl, a.unrealizedPnl (.exact n) s.fields.settlementPrice = .ok pnl ∧
    pnl.val = s.fields.cashDelta.val

theorem settlesNeutrally_of_ignores (h : a.Ignores s) : a.SettlesNeutrally n s := by
  by_cases hseen : a.appliedSettlements.Has s.fields.settlementId
  · refine Or.inr ⟨a.state, a, by rw [settle, if_pos hseen], ?_⟩
    intro mark hmark
    obtain ⟨pnl, hpnl, -⟩ := unrealizedPnl_exact n a hmark
    exact ⟨pnl, pnl, hpnl, hpnl, rfl⟩
  · have hrefused : ∃ e, a.settledState (.exact n) s = .error e := by
      rcases h with hid | hdate | haccount
      · exact absurd hid hseen
      · exact ⟨_, by rw [settledState, require_of_neg (not_not_intro hdate), Py.error_bind]⟩
      · by_cases hdate : a.settlementDates.Has s.fields.tradingDate
        · exact ⟨_, by rw [settledState, require_of_neg (not_not_intro hdate), Py.error_bind]⟩
        · exact ⟨_, by rw [settledState, require_of_pos hdate, Py.ok_bind,
            require_of_neg haccount, Py.error_bind]⟩
    obtain ⟨e, he⟩ := hrefused
    refine Or.inl ⟨e, ?_⟩
    unfold settle
    rw [if_neg hseen, he]

variable {price : Decimal}

/-- **A settlement that takes effect** moves the book value by the difference of its cash and of
the pnl that the lots have at its price. -/
theorem bookValue_settle (h : ¬ a.Ignores s) (hprice : s.fields.settlementPrice = some price) :
    ∃ state a', a.settle (.exact n) s = (.ok state, a') ∧
      exposure a'.multiplier a'.state.lots = exposure a.multiplier a.state.lots ∧
      a'.bookValue = a.bookValue + s.fields.cashDelta.val
        - (price.val * exposure a.multiplier a.state.lots
          - costBasis a.multiplier a.state.lots) := by
  obtain ⟨hid, hrest⟩ := not_or.mp h
  obtain ⟨hdate, haccount⟩ := not_or.mp hrest
  obtain ⟨lots, hrun, hlots⟩ := mapM_repriced (s.settlementPrice_pos hprice) a.state.lots
  have hstate : a.settledState (.exact n) s = .ok
      { cash := a.state.cash.add s.fields.cashDelta
        margin := a.state.margin
        realizedPnl := a.state.realizedPnl.add s.fields.realizedPnl
        fees := a.state.fees.add s.fields.fees
        lots := lots } := by
    simp only [settledState, require_of_pos hdate, require_of_pos (not_not.mp haccount),
      Py.ok_bind, hprice, hrun, DecimalContext.exact_add]
  obtain ⟨a', hsettle, hconfig, hstate', -⟩ := settle_of_state hid hstate
  obtain ⟨hexposure, hbasis⟩ := exposure_repriced a.multiplier hlots
  have hmultiplier : a'.multiplier = a.multiplier := by
    rw [SimulationAccount.multiplier, hconfig]
    rfl
  refine ⟨_, a', hsettle, ?_, ?_⟩
  · rw [hmultiplier, hstate']
    exact hexposure
  · rw [bookValue, bookValue, hmultiplier, hstate']
    simp only [Decimal.val_add, hbasis]
    ring

theorem hasPnl_iff (hprice : s.fields.settlementPrice = some price) :
    a.HasPnl n s ↔ s.fields.cashDelta.val
      = price.val * exposure a.multiplier a.state.lots - costBasis a.multiplier a.state.lots := by
  obtain ⟨pnl, hpnl, hval⟩ := unrealizedPnl_exact n a (s.settlementPrice_pos hprice)
  have hpnlVal : pnl.val
      = price.val * exposure a.multiplier a.state.lots - costBasis a.multiplier a.state.lots := by
    rw [bookValue] at hval
    linarith
  rw [HasPnl, hprice]
  constructor
  · rintro ⟨pnl', hpnl', heq⟩
    rw [hpnl] at hpnl'
    injection hpnl' with hpnl'
    rw [← heq, ← hpnl', hpnlVal]
  · intro heq
    exact ⟨pnl, hpnl, hpnlVal.trans heq.symm⟩

/-- **A settlement at a price is neutral** exactly when it is ignored, or moves the pnl that the
lots have. -/
theorem settlesNeutrally_iff_hasPnl (hprice : s.fields.settlementPrice = some price) :
    a.SettlesNeutrally n s ↔ a.Ignores s ∨ a.HasPnl n s := by
  constructor
  · intro hneutral
    by_cases hignores : a.Ignores s
    · exact Or.inl hignores
    refine Or.inr ((hasPnl_iff hprice).mpr ?_)
    obtain ⟨state, a', hsettle, hexposure, hvalue⟩ := bookValue_settle (n := n) hignores hprice
    rcases hneutral with ⟨e, hraised⟩ | ⟨state₂, a₂, hsettle₂, hmarks⟩
    · rw [hsettle] at hraised
      cases hraised
    rw [hsettle] at hsettle₂
    cases hsettle₂
    -- one mark is enough
    obtain ⟨before, after, hbefore, hafter, heq⟩ := hmarks price (s.settlementPrice_pos hprice)
    obtain ⟨before', hbefore', hb⟩ := unrealizedPnl_exact n a (s.settlementPrice_pos hprice)
    obtain ⟨after', hafter', ha⟩ := unrealizedPnl_exact n a' (s.settlementPrice_pos hprice)
    rw [hbefore] at hbefore'
    injection hbefore' with hbefore'
    rw [hafter] at hafter'
    injection hafter' with hafter'
    rw [← hbefore'] at hb
    rw [← hafter', hexposure] at ha
    linarith
  · rintro (hignores | hpnl)
    · exact settlesNeutrally_of_ignores hignores
    by_cases hignores : a.Ignores s
    · exact settlesNeutrally_of_ignores hignores
    obtain ⟨state, a', hsettle, hexposure, hvalue⟩ := bookValue_settle (n := n) hignores hprice
    refine Or.inr ⟨state, a', hsettle, ?_⟩
    intro mark hmark
    obtain ⟨before, hbefore, hb⟩ := unrealizedPnl_exact n a hmark
    obtain ⟨after, hafter, ha⟩ := unrealizedPnl_exact n a' hmark
    have hcash := (hasPnl_iff hprice).mp hpnl
    refine ⟨before, after, hbefore, hafter, ?_⟩
    rw [ha, hb, hexposure, hvalue, hcash]
    ring

section

variable [Hashlib]

/-- **A mark that is settled late.** Whatever calls are made between `mark_to_market` and
`settle`, `settle` raises and changes nothing or leaves cash plus unrealized pnl as it was at
every mark, exactly when the settlement is ignored or the lots that are there have, at the price
of the mark, the pnl that was marked. -/
theorem settle_late_neutral_iff (n : ℕ) (config : Frozen AccountConfigFields)
    (ops later : List AccountOp) (settlementId : Option EntityId) (tradingDate : Text)
    (price : Option Decimal) (now : Option RecordedAt) (s : Settlement)
    (h : (run (.exact n) config ops).markToMarket (.exact n) settlementId tradingDate price now
      = .ok s) :
    ((machine (.exact n)).exec (run (.exact n) config ops) later).SettlesNeutrally n s ↔
      ((machine (.exact n)).exec (run (.exact n) config ops) later).Ignores s ∨
      ((machine (.exact n)).exec (run (.exact n) config ops) later).HasPnl n s := by
  obtain ⟨p, hmark, -⟩ := isMark_of_markToMarket h
  exact settlesNeutrally_iff_hasPnl hmark.price_eq

end

/-! ### A lot that is opened in between -/

/-- Opens two more contracts at 30. -/
def laterFill : Fill := ⟨sampleFillFields 3 .LONG 30, by decide +kernel⟩

/-- The call that opens them. -/
def laterOps : List AccountOp :=
  [.applyFill laterFill (some (.epoch "position_lot" 1 0 (Eq.refl true)))
    sampleConfig.fields.accountId]

theorem markToMarket_sample :
    (run (.exact 0) sampleConfig openingOps).markToMarket (.exact 0)
      (some (.epoch "settlement" 0 0 (Eq.refl true))) "2026-07-13" (some (Decimal.ofNat 33))
      (some sampleNow) = .ok sampleSettlement := by
  decide +kernel

/-- The mark settled with nothing in between. -/
theorem settle_late_neutral_at_once :
    ((machine (.exact 0)).exec (run (.exact 0) sampleConfig openingOps) []).SettlesNeutrally 0
      sampleSettlement :=
  (settle_late_neutral_iff 0 sampleConfig openingOps [] _ _ _ _ sampleSettlement
    markToMarket_sample).mpr
    (Or.inr ⟨Decimal.ofNat 60, by decide +kernel, rfl⟩)

/-- The gain of a lot that is opened between the mark and its settlement is lost. -/
theorem settle_late_loses_gain :
    (run (.exact 0) sampleConfig openingOps).markToMarket (.exact 0)
        (some (.epoch "settlement" 0 0 (Eq.refl true))) "2026-07-13" (some (Decimal.ofNat 33))
        (some sampleNow) = .ok sampleSettlement ∧
      ¬ ((machine (.exact 0)).exec (run (.exact 0) sampleConfig openingOps)
        laterOps).SettlesNeutrally 0 sampleSettlement := by
  have hprice : sampleSettlement.fields.settlementPrice = some (Decimal.ofNat 33) := rfl
  refine ⟨markToMarket_sample, ?_⟩
  rw [settlesNeutrally_iff_hasPnl hprice]
  rintro ((hid | hdate | haccount) | ⟨pnl, hpnl, hval⟩)
  · revert hid
    decide +kernel
  · revert hdate
    decide +kernel
  · revert haccount
    decide +kernel
  · have hvalue : ((machine (.exact 0)).exec (run (.exact 0) sampleConfig openingOps)
        laterOps).unrealizedPnl (.exact 0) (some (Decimal.ofNat 33)) = .ok (Decimal.ofNat 120) := by
      decide +kernel
    rw [hprice, hvalue] at hpnl
    injection hpnl with hpnl
    rw [← hpnl, show sampleSettlement.fields.cashDelta = Decimal.ofNat 60 from rfl,
      Decimal.val_ofNat, Decimal.val_ofNat] at hval
    norm_num at hval

end SimulationAccount

end FuturesAgentOs
