import FuturesAgentOs.PortfolioRisk.RiskConstitution
import Mathlib.Tactic.SplitIfs

namespace FuturesAgentOs

open PyModel

/-!
# What a decision on risk has checked

A plan that risk approves or modifies passed every check that its constitution configures.

* `decide_sound` — what is not rejected is within the ceilings.
-/

/-! ### The ceilings -/

/-- A ceiling that is configured is observed, and whatever name gives the observation, it is a
number that is at most the ceiling. -/
def Observed (limit : Option Decimal) (names : List (Option Reading)) : Prop :=
  ∀ ceiling, limit = some ceiling → (∃ name ∈ names, name ≠ none)
    ∧ ∀ reading, some reading ∈ names →
      ∃ value, reading = .finite value ∧ 0 ≤ value.val ∧ value.val ≤ ceiling.val

namespace RiskConstitution

variable (c : RiskConstitution)

/-- The part of the margin that is kept free: a ratio of it below 1, an amount from 1 on. -/
def bufferValue : ℚ :=
  match c.fields.marginBufferRatio with
  | some ratio => c.fields.maxMargin.val * ratio.val
  | none =>
    if c.fields.marginBuffer.val < 1 then c.fields.maxMargin.val * c.fields.marginBuffer.val
    else c.fields.marginBuffer.val

/-- A configured limit whose observation is missing.  The margin that is used counts among them where
a part of the margin is to be kept free. -/
def Missing (o : RiskObservations) : Prop :=
  (Decimal.ofNat 0 < c.fields.minDataQuality ∧ o.dataQuality = none)
    ∨ (c.fields.maxConcentration ≠ none ∧ o.concentration = none)
    ∨ (c.fields.maxInstrumentConcentration ≠ none
      ∧ o.instrumentConcentration = none ∧ o.instrumentExposure = none)
    ∨ (c.fields.maxDirectionConcentration ≠ none
      ∧ o.directionConcentration = none ∧ o.directionExposure = none)
    ∨ (c.fields.maxPortfolioConcentration ≠ none
      ∧ o.portfolioConcentration = none ∧ o.portfolioExposure = none)
    ∨ (c.fields.maxDailyDrawdown ≠ none ∧ o.dailyDrawdown = none ∧ o.dailyLoss = none)
    ∨ (c.fields.deliveryHorizonDays ≠ none ∧ o.daysToDelivery = none)
    ∨ (c.marginBufferEnabled = true ∧ o.currentMargin = none ∧ o.marginUsed = none)

end RiskConstitution

/-- Every ceiling of a constitution holds for a quantity of a plan. -/
structure WithinCeilings (c : RiskConstitution) (plan : TradePlan) (o : RiskObservations)
    (quantity : ℚ) : Prop where
  quality_observed : Decimal.ofNat 0 < c.fields.minDataQuality → o.dataQuality ≠ none
  quality : ∀ reading, o.dataQuality = some reading →
    ∃ value, reading = .finite value ∧ c.fields.minDataQuality.val ≤ value.val
  concentration : Observed c.fields.maxConcentration [o.concentration]
  instrument : Observed c.fields.maxInstrumentConcentration
    [o.instrumentConcentration, o.instrumentExposure]
  direction : Observed c.fields.maxDirectionConcentration
    [o.directionConcentration, o.directionExposure]
  portfolio : Observed c.fields.maxPortfolioConcentration
    [o.portfolioConcentration, o.portfolioExposure]
  drawdown : Observed c.fields.maxDailyDrawdown [o.dailyLoss, o.dailyDrawdown]
  delivery : ∀ horizon, c.fields.deliveryHorizonDays = some horizon →
    ∃ days, o.daysToDelivery = some days ∧ horizon < days
  margin_observed : c.marginBufferEnabled = true → o.currentMargin ≠ none ∨ o.marginUsed ≠ none
  /-- A margin that is not observed counts as none that is used. -/
  margin : ∃ current : ℚ, (o.currentMargin = none → o.marginUsed = none → current = 0)
    ∧ (∀ reading, some reading ∈ [o.marginUsed, o.currentMargin] →
      ∃ value, reading = .finite value ∧ value.val = current)
    ∧ current + plan.fields.entryPrice.val * quantity * c.fields.marginRate.val
      ≤ c.fields.maxMargin.val - c.bufferValue
  loss : |plan.fields.entryPrice.val - plan.fields.protection.fields.stopPrice.val| * quantity
    ≤ c.fields.maxSingleLoss.val
  quantity_pos : 0 < quantity
  quantity_le_plan : quantity ≤ plan.fields.quantity.val
  quantity_le_max : quantity ≤ c.fields.maxQuantity.val

theorem WithinCeilings.not_missing {c : RiskConstitution} {plan : TradePlan} {o : RiskObservations}
    {quantity : ℚ} (h : WithinCeilings c plan o quantity) : ¬ c.Missing o := by
  have hobserved : ∀ {limit names}, Observed limit names → limit ≠ none →
      ∃ name ∈ names, name ≠ none := by
    intro limit names ho hlimit
    obtain ⟨ceiling, hceiling⟩ := Option.ne_none_iff_exists'.mp hlimit
    exact (ho ceiling hceiling).1
  rintro (⟨hl, hn⟩ | ⟨hl, hn⟩ | ⟨hl, hn⟩ | ⟨hl, hn⟩ | ⟨hl, hn⟩ | ⟨hl, hn⟩ | ⟨hl, hn⟩ | ⟨hl, hn⟩)
  · exact h.quality_observed hl hn
  · simpa [hn] using hobserved h.concentration hl
  · simpa [hn.1, hn.2] using hobserved h.instrument hl
  · simpa [hn.1, hn.2] using hobserved h.direction hl
  · simpa [hn.1, hn.2] using hobserved h.portfolio hl
  · simpa [hn.1, hn.2] using hobserved h.drawdown hl
  · obtain ⟨horizon, hhorizon⟩ := Option.ne_none_iff_exists'.mp hl
    obtain ⟨days, hdays, -⟩ := h.delivery horizon hhorizon
    rw [hn] at hdays
    cases hdays
  · rcases h.margin_observed hl with hm | hm
    · exact hm hn.1
    · exact hm hn.2

/-! ### Two names of one observation -/

theorem Reading.differs_comm (a b : Reading) : a.differs b = b.differs a := by
  rcases a with x | m | - | - <;> rcases b with y | n | - | - <;> try rfl
  · exact congrArg Except.ok (decide_eq_decide.mpr (not_congr eq_comm))
  · exact congrArg Except.ok (decide_eq_decide.mpr (not_congr eq_comm))

namespace RiskObservations

variable {o o' : RiskObservations} {a b : Option Reading}

theorem conflicts_comm (a b : Option Reading) : conflicts a b = conflicts b a := by
  rcases a with _ | a <;> rcases b with _ | b <;> try rfl
  exact Reading.differs_comm a b

/-- Names that agree give one number. -/
theorem value_of_agree (h : conflicts a b = .ok false) {value : Decimal}
    (hvalue : (a <|> b) = some (.finite value)) {reading : Reading}
    (hreading : some reading ∈ [a, b]) :
    ∃ v, reading = .finite v ∧ v.val = value.val := by
  simp only [List.mem_cons, List.not_mem_nil, or_false] at hreading
  rcases a with _ | a
  · rcases hreading with hreading | rfl
    · cases hreading
    · obtain rfl := Option.some.inj hvalue
      exact ⟨value, rfl, rfl⟩
  · obtain rfl : a = .finite value := Option.some.inj hvalue
    rcases hreading with hreading | rfl
    · exact ⟨value, Option.some.inj hreading, rfl⟩
    · rcases reading with v | m | - | -
      · have hdiffers : decide (¬ value.numEq v) = false := Except.ok.inj h
        exact ⟨v, rfl, (not_not.mp (of_decide_eq_false hdiffers)).symm⟩
      · cases h
      · cases h
      · cases h

/-- **The observations with one name each.** -/
theorem resolve_eq_some (h : o.resolve = .ok (some o')) :
    (∀ pair ∈ o.pairs, conflicts pair.1 pair.2 = .ok false)
      ∧ o' = { o with
        currentMargin := o.marginUsed <|> o.currentMargin
        dailyDrawdown := o.dailyLoss <|> o.dailyDrawdown
        instrumentConcentration := o.instrumentConcentration <|> o.instrumentExposure
        directionConcentration := o.directionConcentration <|> o.directionExposure
        portfolioConcentration := o.portfolioConcentration <|> o.portfolioExposure } := by
  obtain ⟨conflict, hconflict, h⟩ := Py.of_bind h
  rcases conflict with _ | _
  · refine ⟨?_, (Option.some.inj (Except.ok.inj h)).symm⟩
    generalize o.pairs = pairs at hconflict ⊢
    induction pairs with
    | nil => exact fun pair hpair => absurd hpair List.not_mem_nil
    | cons pair pairs ih =>
      rw [List.anyM_cons] at hconflict
      obtain ⟨first, hfirst, hrest⟩ := Py.of_bind hconflict
      rcases first with _ | _
      · exact List.forall_mem_cons.mpr ⟨hfirst, ih hrest⟩
      · cases hrest
  · cases h

end RiskObservations

/-- A text of no spaces has none around it. -/
theorem IsCanonicalText.isScopeText {t : Text} (h : IsCanonicalText t) :
    t.IsScopeText := by
  have hspaces : ∀ c ∈ t, Text.isSpace c = false := fun c hc => by
    simpa using List.all_eq_true.mp h.2 c hc
  have hstrip := Decimal.strip_of_forall hspaces
  refine ⟨⟨?_, hstrip.symm⟩, h.2⟩
  rw [← hstrip]
  exact h.1

/-! ### The checks -/

variable {value : Option Decimal}

theorem readable_eq_ok {accepts : Decimal → Bool} {code : RiskRuleCode} {reading : Option Reading} : readable accepts code reading = .ok value
      ↔ reading = value.map .finite ∧ ∀ v, value = some v → accepts v = true := by
  rcases reading with _ | (v | m | - | -)
  · rcases value with _ | w <;> simp [readable]
  · rcases value with _ | w
    · simp only [readable]
      split_ifs <;> simp
    · simp only [readable, Option.map_some, Option.some.injEq, Reading.finite.injEq]
      split_ifs with hv
      · simp only [Except.ok.injEq, Option.some.injEq]
        constructor
        · rintro rfl
          exact ⟨rfl, fun _ hw => hw ▸ hv⟩
        · exact And.left
      · refine iff_of_false (by simp) ?_
        rintro ⟨rfl, hall⟩
        exact hv (hall v rfl)
  all_goals rcases value with _ | w <;> simp [readable]

theorem checkLimit_eq_ok {α : Type} {within : α → α → Bool} {unavailable exceeded : RiskRuleCode}
    {limit observed : Option α} {u : Unit} :
    checkLimit within unavailable exceeded limit observed = .ok u
      ↔ ∀ l, limit = some l → ∃ v, observed = some v ∧ within v l = true := by
  rcases limit with _ | l
  · simp [checkLimit]
  · rcases observed with _ | v
    · simp [checkLimit]
    · simp only [checkLimit, Option.some.injEq, exists_eq_left', forall_eq']
      split_ifs with h <;> simp [h]

/-- A number that was observed, under every name that it was given. -/
def ReadAs (names : List (Option Reading)) (value : Option Decimal) : Prop :=
  ∀ v, value = some v → (∃ name ∈ names, name ≠ none)
    ∧ ∀ reading, some reading ∈ names → ∃ w, reading = .finite w ∧ w.val = v.val

theorem readAs_single {reading : Option Reading}
    (h : reading = value.map .finite) : ReadAs [reading] value := by
  rintro v rfl
  subst h
  refine ⟨⟨_, List.mem_cons_self, by simp⟩, fun reading hreading => ⟨v, ?_, rfl⟩⟩
  simpa using hreading

theorem readAs_pair {a b : Option Reading}
    (hagree : RiskObservations.conflicts a b = .ok false) (h : (a <|> b) = value.map .finite) :
    ReadAs [a, b] value := by
  rintro v rfl
  refine ⟨?_, fun reading hreading => RiskObservations.value_of_agree hagree h hreading⟩
  rcases a with _ | a
  · refine ⟨b, List.mem_cons_of_mem _ List.mem_cons_self, ?_⟩
    rintro rfl
    cases h
  · exact ⟨some a, List.mem_cons_self, by simp⟩

/-- A ceiling that was checked. -/
theorem observed_of_limit {limit : Option Decimal}
    (hlimit : ∀ l, limit = some l → ∃ v, value = some v ∧ decide (v ≤ l) = true)
    (hvalue : ∀ v, value = some v → decide (Decimal.ofNat 0 ≤ v) = true)
    {names : List (Option Reading)} (hnames : ReadAs names value) : Observed limit names := by
  intro ceiling hceiling
  obtain ⟨v, hv, hle⟩ := hlimit ceiling hceiling
  have hle' : v ≤ ceiling := of_decide_eq_true hle
  have hpos := of_decide_eq_true (hvalue v hv)
  rw [Decimal.le_def, Decimal.val_ofNat, Nat.cast_zero] at hpos
  refine ⟨(hnames v hv).1, fun reading hreading => ?_⟩
  obtain ⟨w, rfl, hw⟩ := (hnames v hv).2 reading hreading
  exact ⟨w, rfl, hw ▸ hpos, hw ▸ hle'⟩

namespace RiskConstitution

variable {c : RiskConstitution} {plan : TradePlan} {o o' : RiskObservations} {facts : RiskFacts}

theorem checkQuality_eq_ok {u : Unit} : c.checkQuality facts = .ok u
    ↔ (Decimal.ofNat 0 < c.fields.minDataQuality → facts.dataQuality ≠ none)
      ∧ ∀ v, facts.dataQuality = some v → c.fields.minDataQuality ≤ v := by
  have hnot : ∀ v : Decimal, ¬ v < c.fields.minDataQuality ↔ c.fields.minDataQuality ≤ v :=
    fun v => by rw [Decimal.lt_def, Decimal.le_def, not_lt]
  unfold checkQuality
  rcases facts.dataQuality with _ | v
  · by_cases hpos : Decimal.ofNat 0 < c.fields.minDataQuality <;> simp [hpos]
  · rw [if_neg (by simp)]
    by_cases hlow : v < c.fields.minDataQuality
    · simp [hlow, ← hnot]
    · simp [hlow, ← hnot]

/-- **What has passed before the size.** -/
structure Passed (c : RiskConstitution) (o : RiskObservations) (facts : RiskFacts) : Prop where
  quality_observed : Decimal.ofNat 0 < c.fields.minDataQuality → o.dataQuality ≠ none
  quality : ∀ reading, o.dataQuality = some reading →
    ∃ value, reading = .finite value ∧ c.fields.minDataQuality.val ≤ value.val
  concentration : Observed c.fields.maxConcentration [o.concentration]
  instrument : Observed c.fields.maxInstrumentConcentration
    [o.instrumentConcentration, o.instrumentExposure]
  direction : Observed c.fields.maxDirectionConcentration
    [o.directionConcentration, o.directionExposure]
  portfolio : Observed c.fields.maxPortfolioConcentration
    [o.portfolioConcentration, o.portfolioExposure]
  drawdown : Observed c.fields.maxDailyDrawdown [o.dailyLoss, o.dailyDrawdown]
  delivery : ∀ horizon, c.fields.deliveryHorizonDays = some horizon →
    ∃ days, o.daysToDelivery = some days ∧ horizon < days
  currentMargin : ReadAs [o.marginUsed, o.currentMargin] facts.currentMargin
  noMargin : facts.currentMargin = none → o.currentMargin = none ∧ o.marginUsed = none
  margin_nonneg : ∀ v, facts.currentMargin = some v → 0 ≤ v.val
  killSwitch : c.fields.killSwitch = false

theorem passed_of_gate (hresolve : o.resolve = .ok (some o')) (hgate : c.gate o' = .ok facts) :
    c.Passed o facts := by
  obtain ⟨hagree, rfl⟩ := RiskObservations.resolve_eq_some hresolve
  simp only [RiskObservations.pairs, List.forall_mem_cons] at hagree
  obtain ⟨hmargin, hdaily, hinstrument, hdirection, hportfolio, -⟩ := hagree
  rw [RiskObservations.conflicts_comm] at hmargin hdaily
  unfold gate at hgate
  split_ifs at hgate with hkill
  obtain ⟨f, hfacts, hgate⟩ := except_bind_eq_ok.mp hgate
  obtain ⟨⟨⟩, hchecks, hgate⟩ := except_bind_eq_ok.mp hgate
  obtain rfl := Except.ok.inj hgate
  simp only [checkFacts, except_bind_eq_ok, checkQuality_eq_ok, checkLimit_eq_ok] at hchecks
  obtain ⟨-, ⟨hobserved, hquality⟩, -, hconcentration, -, hceiling₁, -, hceiling₂, -, hceiling₃, -,
    hdrawdown, hdelivery⟩ := hchecks
  simp only [RiskObservations.facts, except_bind_eq_ok, readable_eq_ok] at hfacts
  obtain ⟨quality, ⟨hreads, hunit⟩, concentration, ⟨hreads₀, hnonneg₀⟩, hfacts⟩ := hfacts
  split_ifs at hfacts with hdays
  simp only [except_bind_eq_ok, readable_eq_ok] at hfacts
  obtain ⟨instrument, ⟨hreads₁, hnonneg₁⟩, direction, ⟨hreads₂, hnonneg₂⟩, portfolio,
    ⟨hreads₃, hnonneg₃⟩, drawdown, ⟨hreads₄, hnonneg₄⟩, margin, ⟨hreads₅, hnonneg₅⟩, hf⟩ := hfacts
  obtain rfl := Except.ok.inj hf
  refine
    { quality_observed := fun hpos hnone => ?_
      quality := fun reading hreading => ?_
      concentration := observed_of_limit hconcentration hnonneg₀ (readAs_single hreads₀)
      instrument := observed_of_limit hceiling₁ hnonneg₁ (readAs_pair hinstrument hreads₁)
      direction := observed_of_limit hceiling₂ hnonneg₂ (readAs_pair hdirection hreads₂)
      portfolio := observed_of_limit hceiling₃ hnonneg₃ (readAs_pair hportfolio hreads₃)
      drawdown := observed_of_limit hdrawdown hnonneg₄ (readAs_pair hdaily hreads₄)
      delivery := fun horizon hhorizon => ?_
      currentMargin := readAs_pair hmargin hreads₅
      noMargin := ?_
      margin_nonneg := fun v hv => ?_
      killSwitch := Bool.eq_false_iff.mpr hkill }
  · rw [hnone] at hreads
    exact hobserved hpos (Option.map_eq_none_iff.mp hreads.symm)
  · rw [hreading] at hreads
    obtain ⟨v, rfl, rfl⟩ := Option.map_eq_some_iff.mp hreads.symm
    exact ⟨v, rfl, hquality v rfl⟩
  · obtain ⟨days, hobs, hlt⟩ := hdelivery horizon hhorizon
    exact ⟨days, hobs, of_decide_eq_true hlt⟩
  · rintro rfl
    rcases hused : o.marginUsed with _ | used
    · rw [hused] at hreads₅
      exact ⟨hreads₅, rfl⟩
    · rw [hused] at hreads₅
      cases hreads₅
  · have hpos := of_decide_eq_true (hnonneg₅ v hv)
    rw [Decimal.le_def, Decimal.val_ofNat, Nat.cast_zero] at hpos
    exact hpos

/-! ### The decision -/

section

variable [Hashlib] {ctx : DecimalContext} {decisionId : EntityId} {now : RecordedAt}
  {r : RiskDecision}

theorem decision_fields {outcome : RiskDecisionOutcome} {quantity loss margin : Decimal}
    {code : RiskRuleCode}
    (h : c.decision plan decisionId now outcome quantity loss margin code = .ok r) :
    r.fields.outcome = outcome ∧ r.fields.approvedQuantity = quantity
      ∧ r.fields.ruleRefs = [code.value] := by
  obtain ⟨hash, -, hmake⟩ := Py.of_bind h
  rw [Frozen.make_eq_ok.mp hmake]
  exact ⟨rfl, rfl, rfl⟩

theorem exists_decision {outcome : RiskDecisionOutcome} {quantity loss margin : Decimal}
    {code : RiskRuleCode} {digest : Text} (hhash : plan.planHash = .ok digest)
    (hdigest : digest.IsHexDigest) (hid : decisionId.nspace = "risk_decision")
    (hamounts : ∀ value ∈ [quantity, loss, margin], Decimal.ofNat 0 ≤ value)
    (happroved : outcome ∈ [.APPROVE, .MODIFY] → Decimal.ofNat 0 < quantity)
    (hrejected : outcome ∈ [.REJECT, .PROTECT_ONLY, .HALT] →
      quantity.numEq (Decimal.ofNat 0)) :
    ∃ r, c.decision plan decisionId now outcome quantity loss margin code = .ok r := by
  have hc : RiskConstitutionFields.postInit c.fields = .ok () := c.valid
  simp only [RiskConstitutionFields.postInit, require_bind_eq_ok] at hc
  have hp : TradePlanFields.postInit plan.fields = .ok () := plan.valid
  simp only [TradePlanFields.postInit, checkNamespace, check_bind_eq_ok, require_eq_ok] at hp
  obtain ⟨hplan, -, -, -, -, -, -, -, -, -, -, -, -, -, hversion, -⟩ := hp
  simp only [List.forall_mem_cons] at hamounts
  rw [decision, hhash, Py.ok_bind]
  refine ⟨_, Frozen.make_of_valid ?_⟩
  show RiskDecisionFields.postInit _ = _
  simp only [RiskDecisionFields.postInit, checkNamespace, checkText, checkVersion, checkHash,
    whenSome, check_bind_eq_ok, require_eq_ok]
  refine ⟨hid, hplan, by simp, hdigest, by decide, by decide, hc.2.1, hc.2.2.1, hversion,
    hamounts.1, hamounts.2.1, hamounts.2.2.1, ?_, hc.1.isScopeText, happroved, hrejected⟩
  rcases code with _ | _ <;> decide

/-- A plan that passes the first checks and has a size is decided by its amounts. -/
theorem decide_of_gate {quantity : Decimal} (hresolve : o.resolve = .ok (some o'))
    (hgate : c.gate o' = .ok facts) (hsize : c.size ctx plan = .ok quantity) :
    c.decide ctx plan decisionId now o
      = c.decideSized ctx plan decisionId now facts.currentMargin quantity := by
  rw [decide, hresolve, Py.ok_bind]
  simp only [hgate, hsize]

/-- **Every decision rejects, or comes at the end of all checks.** -/
theorem decide_cases (h : c.decide ctx plan decisionId now o = .ok r) :
    r.fields.outcome = .REJECT
      ∨ ∃ facts quantity distance loss notional margin buffer limit used,
        c.Passed o facts ∧ c.size ctx plan = .ok quantity ∧ stopDistance ctx plan = .ok distance
          ∧ ctx.mul distance quantity = .ok loss
          ∧ ctx.mul plan.fields.entryPrice quantity = .ok notional
          ∧ ctx.mul notional c.fields.marginRate = .ok margin ∧ ¬ c.fields.maxSingleLoss < loss
          ∧ ¬ (c.marginBufferEnabled = true ∧ facts.currentMargin = none)
          ∧ c.bufferAmount ctx = .ok buffer ∧ ctx.sub c.fields.maxMargin buffer = .ok limit
          ∧ ctx.add margin (marginOrZero facts.currentMargin) = .ok used ∧ ¬ limit < used
          ∧ r.fields.approvedQuantity = quantity
          ∧ r.fields.outcome
            = if quantity.numEq plan.fields.quantity then .APPROVE else .MODIFY := by
  obtain ⟨resolved, hresolve, h⟩ := Py.of_bind h
  rcases resolved with _ | o'
  · exact Or.inl (decision_fields h).1
  dsimp only at h
  rcases hgate : c.gate o' with code | facts
  · rw [hgate] at h
    exact Or.inl (decision_fields h).1
  rw [hgate] at h
  dsimp only at h
  rcases hsize : c.size ctx plan with e | quantity
  · rw [hsize] at h
    dsimp only at h
    split_ifs at h
    exact Or.inl (decision_fields h).1
  rw [hsize] at h
  obtain ⟨distance, hdistance, h⟩ := Py.of_bind h
  obtain ⟨loss, hloss, h⟩ := Py.of_bind h
  obtain ⟨notional, hnotional, h⟩ := Py.of_bind h
  obtain ⟨margin, hmargin, h⟩ := Py.of_bind h
  by_cases hsingle : c.fields.maxSingleLoss < loss
  · rw [if_pos hsingle] at h
    exact Or.inl (decision_fields h).1
  rw [if_neg hsingle] at h
  by_cases hheadroom : c.marginBufferEnabled = true ∧ facts.currentMargin = none
  · rw [if_pos hheadroom] at h
    exact Or.inl (decision_fields h).1
  rw [if_neg hheadroom] at h
  obtain ⟨buffer, hbuffer, h⟩ := Py.of_bind h
  obtain ⟨limit, hlimit, h⟩ := Py.of_bind h
  obtain ⟨used, hused, h⟩ := Py.of_bind h
  by_cases hover : limit < used
  · rw [if_pos hover] at h
    exact Or.inl (decision_fields h).1
  · rw [if_neg hover] at h
    exact Or.inr ⟨facts, quantity, distance, loss, notional, margin, buffer, limit, used,
      passed_of_gate hresolve hgate, rfl, hdistance, hloss, hnotional, hmargin, hsingle, hheadroom,
      hbuffer, hlimit, hused, hover, (decision_fields h).2.1, (decision_fields h).1⟩

end

/-! ### The arithmetic without rounding -/

theorem limits_pos (c : RiskConstitution) : ∀ value ∈ [c.fields.maxSingleLoss, c.fields.maxMargin,
    c.fields.maxQuantity, c.fields.marginRate], 0 < value.val := by
  have hvalid : RiskConstitutionFields.postInit c.fields = .ok () := c.valid
  simp only [RiskConstitutionFields.postInit, require_bind_eq_ok] at hvalid
  obtain ⟨⟨⟩, hlimits, -⟩ := Py.of_bind hvalid.2.2.2
  intro value hvalue
  have hpos := require_eq_ok.mp (Py.forM_eq_ok.mp hlimits value hvalue)
  rw [Decimal.lt_def, Decimal.val_ofNat, Nat.cast_zero] at hpos
  exact hpos

/-- The size of a plan is positive and neither above its quantity nor the largest one. -/
theorem size_bounds {ctx : DecimalContext} {quantity : Decimal}
    (h : c.size ctx plan = .ok quantity) : 0 < quantity.val
      ∧ quantity.val ≤ plan.fields.quantity.val ∧ quantity.val ≤ c.fields.maxQuantity.val := by
  obtain ⟨distance, -, h⟩ := Py.of_bind h
  obtain ⟨-, h⟩ := of_require h
  obtain ⟨quotient, -, h⟩ := Py.of_bind h
  obtain ⟨hpos, h⟩ := of_require h
  obtain rfl := Except.ok.inj h
  rw [Decimal.lt_def, Decimal.val_ofNat, Nat.cast_zero] at hpos
  rw [Decimal.val_min']
  refine ⟨lt_min hpos (c.limits_pos _ (by simp)), (min_le_left _ _).trans ?_, min_le_right _ _⟩
  rw [Decimal.val_min']
  exact min_le_left _ _

theorem exact_stopDistance {n : ℕ} {distance : Decimal}
    (h : stopDistance (.exact n) plan = .ok distance) : distance.val
      = |plan.fields.entryPrice.val - plan.fields.protection.fields.stopPrice.val| := by
  obtain rfl := Except.ok.inj h
  rw [Decimal.val_abs, Decimal.val_sub]

theorem exact_bufferAmount {n : ℕ} {buffer : Decimal}
    (h : c.bufferAmount (.exact n) = .ok buffer) : buffer.val = c.bufferValue := by
  have hone : c.fields.marginBuffer < Decimal.ofNat 1 ↔ c.fields.marginBuffer.val < 1 := by
    rw [Decimal.lt_def, Decimal.val_ofNat, Nat.cast_one]
  unfold bufferAmount at h
  unfold bufferValue
  rcases hratio : c.fields.marginBufferRatio with _ | ratio <;> simp only [hratio] at h ⊢
  · simp only [hone] at h
    split_ifs at h ⊢
    · obtain rfl := Except.ok.inj h
      exact Decimal.val_mul _ _
    · obtain rfl := Except.ok.inj h
      rfl
  · obtain rfl := Except.ok.inj h
    exact Decimal.val_mul _ _

theorem marginOrZero_val (margin : Option Decimal) :
    (marginOrZero margin).val = (margin.map Decimal.val).getD 0 := by
  rcases margin with _ | margin
  · simp [marginOrZero]
  · simp only [marginOrZero, Option.map_some, Option.getD_some]
    split_ifs with hzero
    · rw [(Decimal.val_eq_zero_iff _).mpr hzero, Decimal.val_ofNat, Nat.cast_zero]
    · rfl

/-- **What is not rejected is within the ceilings.**  A decision that approves or modifies a plan is
within every ceiling, one that approves leaves the quantity as it is, and what the kill switch or a
missing observation stops is rejected. -/
theorem decide_sound [Hashlib] (n : ℕ) (c : RiskConstitution) (plan : TradePlan)
    (decisionId : EntityId) (now : RecordedAt) (o : RiskObservations) (r : RiskDecision)
    (h : c.decide (.exact n) plan decisionId now o = .ok r) :
    (r.fields.outcome ∈ [.APPROVE, .MODIFY] →
        WithinCeilings c plan o r.fields.approvedQuantity.val)
      ∧ (r.fields.outcome = .APPROVE →
        r.fields.approvedQuantity.val = plan.fields.quantity.val)
      ∧ (c.fields.killSwitch = true → r.fields.outcome = .REJECT)
      ∧ (c.Missing o → r.fields.outcome = .REJECT) := by
  rcases decide_cases h with hreject | ⟨facts, quantity, distance, loss, notional, margin, buffer,
    limit, used, hpassed, hsize, hdistance, hloss, hnotional, hmargin, hsingle, hheadroom, hbuffer,
    hlimit, hused, hover, hquantity, houtcome⟩
  · rw [hreject]
    exact ⟨by simp, by simp, fun _ => rfl, fun _ => rfl⟩
  obtain rfl := Except.ok.inj hloss
  obtain rfl := Except.ok.inj hnotional
  obtain rfl := Except.ok.inj hmargin
  obtain rfl := Except.ok.inj hlimit
  obtain rfl := Except.ok.inj hused
  rw [Decimal.lt_def, Decimal.val_mul, exact_stopDistance hdistance, not_lt] at hsingle
  simp only [Decimal.lt_def, Decimal.val_add, Decimal.val_mul, Decimal.val_sub, marginOrZero_val,
    exact_bufferAmount hbuffer, not_lt] at hover
  obtain ⟨hpos, hplan, hmax⟩ := size_bounds hsize
  have hwithin : WithinCeilings c plan o r.fields.approvedQuantity.val := by
    rw [hquantity]
    refine
      { hpassed with
        margin_observed := fun henabled => ?_
        margin := ⟨(facts.currentMargin.map Decimal.val).getD 0, ?_, ?_, by linarith⟩
        loss := hsingle
        quantity_pos := hpos
        quantity_le_plan := hplan
        quantity_le_max := hmax }
    · obtain ⟨v, hv⟩ := Option.ne_none_iff_exists'.mp fun hnone => hheadroom ⟨henabled, hnone⟩
      obtain ⟨name, hname, hne⟩ := (hpassed.currentMargin v hv).1
      simp only [List.mem_cons, List.not_mem_nil, or_false] at hname
      rcases hname with rfl | rfl
      · exact Or.inr hne
      · exact Or.inl hne
    · intro hcurrent hmarginUsed
      rcases hv : facts.currentMargin with _ | v
      · rfl
      · obtain ⟨name, hname, hne⟩ := (hpassed.currentMargin v hv).1
        rw [hcurrent, hmarginUsed] at hname
        simp only [List.mem_cons, List.not_mem_nil, or_false, or_self] at hname
        exact absurd hname hne
    · intro reading hreading
      rcases hv : facts.currentMargin with _ | v
      · obtain ⟨hcurrent, hmarginUsed⟩ := hpassed.noMargin hv
        rw [hcurrent, hmarginUsed] at hreading
        simp at hreading
      · exact (hpassed.currentMargin v hv).2 reading hreading
  refine ⟨fun _ => hwithin, fun happrove => ?_, fun hkill => ?_, fun hmissing => ?_⟩
  · rw [hquantity]
    rw [houtcome] at happrove
    split_ifs at happrove with hsame
    exact hsame
  · rw [hpassed.killSwitch] at hkill
    cases hkill
  · exact absurd hmissing hwithin.not_missing

/-! ### A plan without an observed margin -/

/-- A plan of two contracts at 100 with a stop at 93. -/
def samplePlan : TradePlan where
  fields :=
    { planId := .epoch "trade_plan" 0 0 (Eq.refl true)
      accountId := .epoch "simulation_account" 0 0 (Eq.refl true)
      instrument := "rb2610"
      strategyRef := "strategy:trend"
      action := .OPEN
      direction := .LONG
      quantity := Decimal.ofNat 2
      entryPrice := Decimal.ofNat 100
      protection :=
        { fields :=
            { stopPrice := Decimal.ofNat 93
              maxLoss := Decimal.ofNat 14
              intentId := .epoch "protection_intent" 0 0 (Eq.refl true)
              createdAt := ⟨.of 2026 7 13 (Eq.refl true), 9, 0, 0, 0⟩ }
          valid := by decide +kernel }
      thesis := "support holds"
      invalidation := "support breaks"
      evidenceRefs := [List.replicate 64 (Text.ofChar 'a')]
      snapshotRef := "snapshot:1"
      expiresAt := ⟨.of 2026 7 13 (Eq.refl true), 15, 0, 0, 0⟩
      createdAt := ⟨.of 2026 7 13 (Eq.refl true), 9, 0, 0, 0⟩ }
  valid := by decide +kernel

/-- Limits of a thousand for the margin and of ten for the quantity. -/
def sampleLimits (maxSingleLoss : ℕ) : RiskConstitutionFields where
  ref := "risk:sample"
  version := 1
  contentHash := List.replicate 64 (Text.ofChar 'b')
  maxSingleLoss := Decimal.ofNat maxSingleLoss
  maxMargin := Decimal.ofNat 1000
  maxQuantity := Decimal.ofNat 10
  marginRate := ⟨false, 1, -1⟩

/-- A constitution that keeps no margin free. -/
def sampleConstitution : RiskConstitution := ⟨sampleLimits 20, by decide +kernel⟩

theorem exists_planHash [Hashlib] :
    ∃ digest, samplePlan.planHash = .ok digest ∧ digest.IsHexDigest := by
  obtain ⟨value, hvalue, hwritable⟩ : ∃ value, samplePlan.hashedValue = .ok value
      ∧ value.isWritable = true := ⟨_, rfl, by decide +kernel⟩
  obtain ⟨digest, hdigest, hhex⟩ := exists_canonicalSha256_of_isWritable hwritable
  refine ⟨digest, ?_, hhex⟩
  rw [TradePlan.planHash, hvalue, Py.ok_bind, hdigest]

/-- The identity of a sample decision. -/
def sampleDecisionId : EntityId := .epoch "risk_decision" 0 0 (Eq.refl true)

theorem exists_sampleDecision [Hashlib] :
    ∃ r, sampleConstitution.decide (.exact 28) samplePlan sampleDecisionId
        samplePlan.fields.createdAt {} = .ok r
      ∧ r.fields.outcome = .APPROVE := by
  obtain ⟨digest, hhash, hhex⟩ := exists_planHash
  obtain ⟨r, hr⟩ : ∃ r, sampleConstitution.decision samplePlan sampleDecisionId
      samplePlan.fields.createdAt .APPROVE (Decimal.ofNat 2) (Decimal.ofNat 14) ⟨false, 200, -1⟩
      .RISK_WITHIN_LIMITS = .ok r :=
    exists_decision hhash hhex rfl (by decide +kernel) (by decide +kernel) (by decide)
  refine ⟨r, ?_, (decision_fields hr).1⟩
  have hgate : sampleConstitution.gate {}
      = .ok ⟨none, none, none, none, none, none, none, none⟩ := by
    decide +kernel
  have hsize : sampleConstitution.size (.exact 28) samplePlan = .ok (Decimal.ofNat 2) := by
    decide +kernel
  have hdistance : stopDistance (.exact 28) samplePlan = .ok (Decimal.ofNat 7) := by
    decide +kernel
  have hbuffer : sampleConstitution.bufferAmount (.exact 28) = .ok (Decimal.ofNat 0) := by
    decide +kernel
  rw [decide_of_gate rfl hgate hsize, decideSized, hdistance, Py.ok_bind]
  simp only [DecimalContext.exact_mul, DecimalContext.exact_sub, DecimalContext.exact_add,
    Py.ok_bind, hbuffer]
  rw [if_neg (by decide +kernel), if_neg (by decide +kernel), if_neg (by decide +kernel),
    if_pos (by decide +kernel)]
  exact hr

/-- The decision on the sample plan is within the ceilings. -/
theorem decide_sound_sample :
    ∃ r, sampleConstitution.decide (.exact 28) samplePlan sampleDecisionId
        samplePlan.fields.createdAt {} = .ok r
      ∧ WithinCeilings sampleConstitution samplePlan {} r.fields.approvedQuantity.val := by
  obtain ⟨r, hr, happrove⟩ := exists_sampleDecision
  exact ⟨r, hr, (decide_sound _ _ _ _ _ _ _ hr).1 (by rw [happrove]; decide)⟩

/-- **A limit of the margin alone** does not make a missing margin reject. -/
theorem margin_not_observed : ¬ ∀ (n : ℕ) (c : RiskConstitution) (plan : TradePlan)
    (decisionId : EntityId) (now : RecordedAt) (o : RiskObservations) (r : RiskDecision),
    c.decide (.exact n) plan decisionId now o = .ok r → o.currentMargin = none →
      o.marginUsed = none → r.fields.outcome = .REJECT := by
  intro hall
  obtain ⟨r, hr, happrove⟩ := exists_sampleDecision
  have hreject := hall _ _ _ _ _ _ r hr rfl rfl
  rw [happrove] at hreject
  cases hreject

end RiskConstitution

end FuturesAgentOs
