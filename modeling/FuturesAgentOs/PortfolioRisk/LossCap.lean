import FuturesAgentOs.PortfolioRisk.RiskCeilings
import FuturesAgentOs.PyModel.Quotients

namespace FuturesAgentOs

open PyModel

/-!
# The size at the largest loss

`size` divides the largest loss by the distance to the stop, and `decide` multiplies the two again.
Both results are rounded, so the product can be above the loss that was divided.

* `not_maxSingleLoss_iff` — when a size at the largest loss is not.
-/

/-- The error of the quotient of a limit, times the divisor, together with the digits of the limit
that are not kept, is less than half a unit of the last place that is kept of the limit, or exactly
that where the digit there is even. -/
def LossReturns (p : Precision) (limit distance : ℚ) : Prop :=
  let excess := distance * (p.rnd (limit / distance) - limit / distance)
    + (limit - p.units limit * p.unit limit)
  excess < p.unit limit / 2 ∨ excess = p.unit limit / 2 ∧ Even (p.units limit)

/-- **A rounded quotient, multiplied again**, is not above the limit if and only if the rounding does
not show. -/
theorem rnd_mul_rnd_div_le_iff {p : Precision} {limit distance : ℚ} (hlimit : 0 < limit)
    (hdistance : 0 < distance) :
    p.rnd (distance * p.rnd (limit / distance)) ≤ limit ↔ LossReturns p limit distance := by
  have hquotient : 0 ≤ p.rnd (limit / distance) := p.rnd_nonneg (div_pos hlimit hdistance).le
  have hexact : distance * (limit / distance) = limit := mul_div_cancel₀ _ hdistance.ne'
  rw [Precision.rnd_le_iff (mul_nonneg hdistance.le hquotient) hlimit, LossReturns]
  refine or_congr ?_ (and_congr_left fun _ => ?_)
  · constructor <;> intro h <;> linarith
  · constructor <;> intro h <;> linarith

namespace RiskConstitution

section

variable [Hashlib] {c : RiskConstitution} {plan : TradePlan} {o o' : RiskObservations}
  {facts : RiskFacts} {decisionId : EntityId} {now : RecordedAt} {r : RiskDecision}

/-- **When a quantity is rejected for its loss.** -/
theorem ruleRefs_of_decideSized {ctx : DecimalContext} {current : Option Decimal}
    {quantity distance : Decimal} (hdistance : stopDistance ctx plan = .ok distance)
    (h : c.decideSized ctx plan decisionId now current quantity = .ok r) :
    ∃ loss, ctx.mul distance quantity = .ok loss
      ∧ (r.fields.ruleRefs = [RiskRuleCode.MAX_SINGLE_LOSS.value]
        ↔ c.fields.maxSingleLoss < loss) := by
  rw [decideSized, hdistance, Py.ok_bind] at h
  obtain ⟨loss, hloss, h⟩ := Py.of_bind h
  obtain ⟨notional, -, h⟩ := Py.of_bind h
  obtain ⟨margin, -, h⟩ := Py.of_bind h
  refine ⟨loss, hloss, ?_⟩
  by_cases hsingle : c.fields.maxSingleLoss < loss
  · rw [if_pos hsingle] at h
    exact iff_of_true (decision_fields h).2.2 hsingle
  rw [if_neg hsingle] at h
  refine iff_of_false ?_ hsingle
  by_cases hheadroom : c.marginBufferEnabled = true ∧ current = none
  · rw [if_pos hheadroom] at h
    rw [(decision_fields h).2.2]
    decide
  rw [if_neg hheadroom] at h
  obtain ⟨buffer, -, h⟩ := Py.of_bind h
  obtain ⟨limit, -, h⟩ := Py.of_bind h
  obtain ⟨used, -, h⟩ := Py.of_bind h
  by_cases hover : limit < used
  · rw [if_pos hover] at h
    rw [(decision_fields h).2.2]
    split_ifs <;> decide
  · rw [if_neg hover] at h
    rw [(decision_fields h).2.2]
    decide

/-- **When a size at the largest loss is not rejected for its loss.**  All that comes before the size
passes, and the size is the quotient of the largest loss and the distance to the stop. -/
theorem not_maxSingleLoss_iff (c : RiskConstitution) (plan : TradePlan) (decisionId : EntityId)
    (now : RecordedAt) (o o' : RiskObservations) (facts : RiskFacts)
    (quantity distance quotient : Decimal) (r : RiskDecision)
    (hresolve : o.resolve = .ok (some o')) (hgate : c.gate o' = .ok facts)
    (hsize : c.size defaultContext plan = .ok quantity)
    (hdistance : stopDistance defaultContext plan = .ok distance)
    (hquotient : defaultContext.div c.fields.maxSingleLoss distance = .ok quotient)
    (hcapped : quantity.numEq quotient)
    (hr : c.decide defaultContext plan decisionId now o = .ok r) :
    r.fields.ruleRefs ≠ [RiskRuleCode.MAX_SINGLE_LOSS.value]
      ↔ LossReturns defaultPrecision c.fields.maxSingleLoss.val distance.val := by
  have hlimit : 0 < c.fields.maxSingleLoss.val := c.limits_pos _ List.mem_cons_self
  have hdistance' : 0 < distance.val := by
    obtain ⟨distance', hdistance', h⟩ := Py.of_bind hsize
    obtain rfl := Except.ok.inj (hdistance.symm.trans hdistance')
    have hpos := (of_require h).1
    rw [Decimal.lt_def, Decimal.val_ofNat, Nat.cast_zero] at hpos
    exact hpos
  rw [decide_of_gate hresolve hgate hsize] at hr
  obtain ⟨loss, hloss, hrefs⟩ := ruleRefs_of_decideSized hdistance hr
  have hvalue : quantity.val = defaultPrecision.rnd (c.fields.maxSingleLoss.val / distance.val) :=
    hcapped.trans (DecimalContext.val_div hlimit hdistance' hquotient)
  have hlossval : loss.val = defaultPrecision.rnd (distance.val * quantity.val) := by
    rw [← Decimal.val_mul]
    refine DecimalContext.val_fix ?_ hloss
    rw [Decimal.val_mul, hvalue]
    exact mul_nonneg hdistance'.le (Precision.rnd_nonneg _ (div_pos hlimit hdistance').le)
  rw [ne_eq, hrefs, Decimal.lt_def, not_lt, hlossval, hvalue]
  exact rnd_mul_rnd_div_le_iff hlimit hdistance'

end

/-! ### The largest losses 9 and 10 at a distance of 7 -/

/-- A largest loss of 9. -/
def limitNine : RiskConstitution := ⟨sampleLimits 9, by decide +kernel⟩

/-- A largest loss of 10. -/
def limitTen : RiskConstitution := ⟨sampleLimits 10, by decide +kernel⟩

/-- Nine sevenths. -/
def nineSevenths : Decimal := ⟨false, 1285714285714285714285714286, -27⟩

/-- Ten sevenths. -/
def tenSevenths : Decimal := ⟨false, 1428571428571428571428571429, -27⟩

theorem sample_stopDistance : stopDistance defaultContext samplePlan = .ok (Decimal.ofNat 7) := by
  decide +kernel

theorem sample_gate {c : RiskConstitution} {n : ℕ} (hc : c.fields = sampleLimits n) :
    c.gate {} = .ok ⟨none, none, none, none, none, none, none, none⟩ := by
  simp only [gate, checkFacts, checkQuality, hc]
  rfl

theorem size_limitNine : limitNine.size defaultContext samplePlan = .ok nineSevenths := by
  decide +kernel

theorem size_limitTen : limitTen.size defaultContext samplePlan = .ok tenSevenths := by
  decide +kernel

theorem exists_rejected [Hashlib] :
    ∃ r, limitNine.decide defaultContext samplePlan sampleDecisionId samplePlan.fields.createdAt {}
        = .ok r
      ∧ r.fields.ruleRefs = [RiskRuleCode.MAX_SINGLE_LOSS.value] := by
  obtain ⟨digest, hhash, hhex⟩ := exists_planHash
  obtain ⟨r, hr⟩ : ∃ r, limitNine.decision samplePlan sampleDecisionId
      samplePlan.fields.createdAt .REJECT (Decimal.ofNat 0) ⟨false, 9000000000000000000000000002, -27⟩
      ⟨false, 1285714285714285714285714286, -26⟩ .MAX_SINGLE_LOSS = .ok r :=
    exists_decision hhash hhex rfl (by decide +kernel) (by decide) (by decide +kernel)
  refine ⟨r, ?_, (decision_fields hr).2.2⟩
  have hloss : defaultContext.mul (Decimal.ofNat 7) nineSevenths
      = .ok ⟨false, 9000000000000000000000000002, -27⟩ := by decide +kernel
  have hnotional : defaultContext.mul samplePlan.fields.entryPrice nineSevenths
      = .ok ⟨false, 1285714285714285714285714286, -25⟩ := by decide +kernel
  have hmargin : defaultContext.mul ⟨false, 1285714285714285714285714286, -25⟩
      limitNine.fields.marginRate = .ok ⟨false, 1285714285714285714285714286, -26⟩ := by
    decide +kernel
  rw [decide_of_gate rfl (sample_gate rfl) size_limitNine, decideSized, sample_stopDistance,
    Py.ok_bind, hloss, Py.ok_bind, hnotional, Py.ok_bind, hmargin, Py.ok_bind,
    if_pos (by decide +kernel)]
  exact hr

/-- With a largest loss of 10 it is not. -/
theorem exists_modified [Hashlib] :
    ∃ r, limitTen.decide defaultContext samplePlan sampleDecisionId samplePlan.fields.createdAt {}
        = .ok r
      ∧ r.fields.ruleRefs = [RiskRuleCode.RISK_WITHIN_LIMITS.value] := by
  obtain ⟨digest, hhash, hhex⟩ := exists_planHash
  obtain ⟨r, hr⟩ : ∃ r, limitTen.decision samplePlan sampleDecisionId
      samplePlan.fields.createdAt .MODIFY tenSevenths ⟨false, 1000000000000000000000000000, -26⟩
      ⟨false, 1428571428571428571428571429, -26⟩ .RISK_WITHIN_LIMITS = .ok r :=
    exists_decision hhash hhex rfl (by decide +kernel) (by decide +kernel) (by decide)
  refine ⟨r, ?_, (decision_fields hr).2.2⟩
  have hloss : defaultContext.mul (Decimal.ofNat 7) tenSevenths
      = .ok ⟨false, 1000000000000000000000000000, -26⟩ := by decide +kernel
  have hnotional : defaultContext.mul samplePlan.fields.entryPrice tenSevenths
      = .ok ⟨false, 1428571428571428571428571429, -25⟩ := by decide +kernel
  have hmargin : defaultContext.mul ⟨false, 1428571428571428571428571429, -25⟩
      limitTen.fields.marginRate = .ok ⟨false, 1428571428571428571428571429, -26⟩ := by
    decide +kernel
  have hbuffer : limitTen.bufferAmount defaultContext = .ok (Decimal.ofNat 0) := by decide +kernel
  have hlimit : defaultContext.sub limitTen.fields.maxMargin (Decimal.ofNat 0)
      = .ok (Decimal.ofNat 1000) := by decide +kernel
  have hused : defaultContext.add ⟨false, 1428571428571428571428571429, -26⟩ (marginOrZero none)
      = .ok ⟨false, 1428571428571428571428571429, -26⟩ := by decide +kernel
  rw [decide_of_gate rfl (sample_gate rfl) size_limitTen, decideSized, sample_stopDistance,
    Py.ok_bind, hloss, Py.ok_bind, hnotional, Py.ok_bind, hmargin, Py.ok_bind,
    if_neg (by decide +kernel), if_neg (by decide +kernel), hbuffer, Py.ok_bind, hlimit, Py.ok_bind,
    hused, Py.ok_bind, if_neg (by decide +kernel), if_neg (by decide +kernel)]
  exact hr

/-- The rounding of ten sevenths does not show at a distance of 7. -/
theorem lossReturns_ten : LossReturns defaultPrecision (limitTen.fields.maxSingleLoss.val)
    (Decimal.ofNat 7).val := by
  obtain ⟨r, hr, hrefs⟩ := exists_modified
  refine (not_maxSingleLoss_iff limitTen samplePlan sampleDecisionId samplePlan.fields.createdAt {}
    {} _ tenSevenths (Decimal.ofNat 7) tenSevenths r rfl (sample_gate rfl) size_limitTen
    sample_stopDistance (by decide +kernel) (by decide +kernel) hr).mp ?_
  rw [hrefs]
  decide

/-- **That of nine sevenths does.** -/
theorem maxSingleLoss_of_size : ¬ ∀ (c : RiskConstitution) (plan : TradePlan)
    (decisionId : EntityId) (now : RecordedAt) (o o' : RiskObservations) (facts : RiskFacts)
    (quantity distance quotient : Decimal) (r : RiskDecision),
    o.resolve = .ok (some o') → c.gate o' = .ok facts →
      c.size defaultContext plan = .ok quantity → stopDistance defaultContext plan = .ok distance →
        defaultContext.div c.fields.maxSingleLoss distance = .ok quotient →
          quantity.numEq quotient → c.decide defaultContext plan decisionId now o = .ok r →
            r.fields.ruleRefs ≠ [RiskRuleCode.MAX_SINGLE_LOSS.value] := by
  intro hall
  obtain ⟨r, hr, hrefs⟩ := exists_rejected
  exact hall limitNine samplePlan sampleDecisionId samplePlan.fields.createdAt {} {} _ nineSevenths
    (Decimal.ofNat 7) nineSevenths r rfl (sample_gate rfl) size_limitNine sample_stopDistance
    (by decide +kernel) (by decide +kernel) hr hrefs

end RiskConstitution

end FuturesAgentOs
