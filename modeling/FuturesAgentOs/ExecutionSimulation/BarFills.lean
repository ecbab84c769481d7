import FuturesAgentOs.ExecutionSimulation.FillModel

namespace FuturesAgentOs

open PyModel

/-!
# The prices of fills in a bar

`L1FillModel` moves the price at which a bar triggers an order by the slippage, also that of a limit
order, and exits a bracket through the rule of a limit order on the side of the position.

* `limit_kept_iff` — a limit fill is within the limit exactly when the slippage is covered by what
  the bar opens better than the limit;
* `bracketLaw_iff` — a bracket exits as it should exactly when the bar does not touch the target
  alone, or opens beyond it and comes back to it.
-/

namespace L1FillModel

variable {ctx : DecimalContext} {m : L1FillModel} {order : Order} {bar : L1Bar}
  {limit : Decimal} {stopPrice : Option Decimal} {d : FillDecision}

/-! ### Limit orders -/

/-- The bar comes to the limit. -/
def Reaches (order : Order) (bar : L1Bar) (limit : Decimal) : Prop :=
  if order.fields.direction = .LONG then bar.fields.low ≤ limit else limit ≤ bar.fields.high

instance (order : Order) (bar : L1Bar) (limit : Decimal) : Decidable (Reaches order bar limit) := by
  unfold Reaches
  infer_instance

/-- The price at which a limit order trades before slippage. -/
def limitLevel (order : Order) (bar : L1Bar) (limit : Decimal) : Decimal :=
  if order.fields.direction = .LONG then bar.fields.opening.min' limit
  else bar.fields.opening.max' limit

theorem trigger_limit (order : Order) (bar : L1Bar) (limit : Decimal)
    (stopPrice : Option Decimal) :
    trigger order bar .LIMIT (some limit) stopPrice
      = .ok (decide (Reaches order bar limit), limitLevel order bar limit) := by
  unfold trigger Reaches limitLevel
  by_cases hside : order.fields.direction = .LONG
  · simp [hside]
  · simp [hside]

theorem crossed_limitLevel (order : Order) (bar : L1Bar) (limit : Decimal)
    (stopPrice : Option Decimal) :
    crossed order .LIMIT (limitLevel order bar limit) stopPrice (some limit) = true := by
  unfold crossed limitLevel
  by_cases hside : order.fields.direction = .LONG
  · simp [hside, Decimal.le_def, Decimal.val_min']
  · simp [hside, Decimal.le_def, Decimal.val_max']

/-- The price of a fill: the level, moved by the slippage. -/
def Moved (ctx : DecimalContext) (m : L1FillModel) (order : Order) (level price : Decimal) : Prop :=
  (if order.fields.direction = .LONG then ctx.add level m.fields.slippage
    else ctx.sub level m.fields.slippage) = .ok price

theorem moved_bind_eq_ok {level : Decimal} {α : Type} {f : Decimal → Py α} {a : α} :
    (if order.fields.direction = .LONG then ctx.add level m.fields.slippage >>= f
      else ctx.sub level m.fields.slippage >>= f) = .ok a
      ↔ ∃ price, Moved ctx m order level price ∧ f price = .ok a := by
  unfold Moved
  by_cases hside : order.fields.direction = .LONG
  · simp only [if_pos hside, Py.bind_eq_ok]
  · simp only [if_neg hside, Py.bind_eq_ok]

/-- **What a limit order gets of a bar**: nothing when the bar does not come to the limit, and
otherwise, if it has a price, the level moved by the slippage. -/
theorem simulate_limit (h : simulate ctx m order bar .LIMIT (some limit) stopPrice = .ok d) :
    (d.triggered = true ↔ Reaches order bar limit)
      ∧ ∀ price, d.price = some price → Moved ctx m order (limitLevel order bar limit) price := by
  unfold simulate at h
  obtain ⟨-, h⟩ := of_require h
  rw [trigger_limit] at h
  dsimp only at h
  rw [crossed_limitLevel] at h
  simp only [Bool.true_eq_false, or_false, decide_eq_false_iff_not] at h
  by_cases hreach : Reaches order bar limit
  · rw [if_neg (not_not.mpr hreach)] at h
    split at h
    · obtain rfl := Except.ok.inj h
      exact ⟨iff_of_true rfl hreach, by simp [FillDecision.nothing]⟩
    · obtain ⟨remaining, -, h⟩ := Py.of_bind h
      -- both sides go on with the moved price
      obtain ⟨price, hprice, h⟩ := moved_bind_eq_ok.mp h
      split at h
      · obtain rfl := Except.ok.inj h
        exact ⟨iff_of_true rfl hreach, by simp [FillDecision.nothing]⟩
      · split at h
        · obtain rfl := Except.ok.inj h
          exact ⟨iff_of_true rfl hreach, by simp [FillDecision.nothing]⟩
        · obtain rfl := Except.ok.inj h
          refine ⟨iff_of_true rfl hreach, fun p hp => ?_⟩
          obtain rfl := Option.some.inj hp
          exact hprice
  · rw [if_pos hreach] at h
    obtain rfl := Except.ok.inj h
    exact ⟨iff_of_false (by simp [FillDecision.nothing]) hreach, by simp [FillDecision.nothing]⟩

/-- The price of a fill, as a number. -/
theorem Moved.val {level price : Decimal} (h : Moved ctx m order level price) :
    price.val = if order.fields.direction = .LONG
      then ctx.round (level.val + m.fields.slippage.val)
      else ctx.round (level.val - m.fields.slippage.val) := by
  unfold Moved at h
  by_cases hside : order.fields.direction = .LONG
  · rw [if_pos hside] at h ⊢
    rw [DecimalContext.val_eq_round h, Decimal.val_add]
  · rw [if_neg hside] at h ⊢
    rw [DecimalContext.val_eq_round h, Decimal.val_sub]

/-- The price is not worse than the limit, for the side of the order. -/
def Within (order : Order) (limit price : Decimal) : Prop :=
  if order.fields.direction = .LONG then price ≤ limit else limit ≤ price

/-- By how much the bar opens better than the limit. -/
def improvement (order : Order) (bar : L1Bar) (limit : Decimal) : ℚ :=
  if order.fields.direction = .LONG then max 0 (limit.val - bar.fields.opening.val)
  else max 0 (bar.fields.opening.val - limit.val)

/-- The slippage is covered by the improvement, up to the rounding of the context. -/
def Covered (ctx : DecimalContext) (m : L1FillModel) (order : Order) (bar : L1Bar)
    (limit : Decimal) : Prop :=
  if order.fields.direction = .LONG then
    ctx.round (limit.val - improvement order bar limit + m.fields.slippage.val) ≤ limit.val
  else limit.val ≤ ctx.round (limit.val + improvement order bar limit - m.fields.slippage.val)

theorem val_limitLevel (order : Order) (bar : L1Bar) (limit : Decimal) :
    (limitLevel order bar limit).val = if order.fields.direction = .LONG
      then limit.val - improvement order bar limit
      else limit.val + improvement order bar limit := by
  unfold limitLevel improvement
  by_cases hside : order.fields.direction = .LONG
  · rw [if_pos hside, if_pos hside, if_pos hside, Decimal.val_min']
    rcases le_total bar.fields.opening.val limit.val with hle | hle
    · rw [min_eq_left hle, max_eq_right (sub_nonneg.mpr hle)]
      ring
    · rw [min_eq_right hle, max_eq_left (sub_nonpos.mpr hle), sub_zero]
  · rw [if_neg hside, if_neg hside, if_neg hside, Decimal.val_max']
    rcases le_total limit.val bar.fields.opening.val with hle | hle
    · rw [max_eq_left hle, max_eq_right (sub_nonneg.mpr hle)]
      ring
    · rw [max_eq_right hle, max_eq_left (sub_nonpos.mpr hle), add_zero]

/-- **A limit fill is within the limit exactly when the slippage is covered** by what the bar opens
better than the limit. -/
theorem limit_kept_iff (h : simulate ctx m order bar .LIMIT (some limit) stopPrice = .ok d)
    {price : Decimal} (hprice : d.price = some price) :
    Within order limit price ↔ Covered ctx m order bar limit := by
  have hval := ((simulate_limit h).2 price hprice).val
  rw [val_limitLevel] at hval
  unfold Within Covered
  by_cases hside : order.fields.direction = .LONG
  · rw [if_pos hside] at hval ⊢
    rw [if_pos hside, Decimal.le_def, hval, if_pos hside]
  · rw [if_neg hside] at hval ⊢
    rw [if_neg hside, Decimal.le_def, hval, if_neg hside]

/-- Every trade is one tick worse. -/
def oneTick : L1FillModel := ⟨⟨Decimal.ofNat 1⟩, by decide⟩

/-- A bar that opens above 100 and falls through it. -/
def fallingBar : L1Bar :=
  ⟨⟨Decimal.ofNat 101, Decimal.ofNat 101, Decimal.ofNat 99, Decimal.ofNat 99, Decimal.ofNat 5, none,
    none⟩, by decide⟩

/-- A bar that opens below 100. -/
def lowBar : L1Bar :=
  ⟨⟨Decimal.ofNat 97, Decimal.ofNat 99, Decimal.ofNat 96, Decimal.ofNat 98, Decimal.ofNat 5, none,
    none⟩, by decide⟩

/-- One tick is covered by an opening three ticks below the limit. -/
theorem limit_kept_lowBar :
    Within .oneLong (Decimal.ofNat 100) (Decimal.ofNat 98)
      ↔ Covered defaultContext oneTick .oneLong lowBar (Decimal.ofNat 100) := by
  have hrun : simulate defaultContext oneTick .oneLong lowBar .LIMIT (some (Decimal.ofNat 100)) none
      = .ok ⟨true, Decimal.ofNat 1, some (Decimal.ofNat 98), "FILLED"⟩ := by
    decide +kernel
  exact limit_kept_iff hrun rfl

/-- A bar that falls to the limit covers nothing: the fill is one tick above the limit. -/
theorem limit_exceeded :
    ¬ ∀ (m : L1FillModel) (order : Order) (bar : L1Bar) (limit : Decimal) (d : FillDecision),
      simulate defaultContext m order bar .LIMIT (some limit) = .ok d →
      ∀ price, d.price = some price → Within order limit price := by
  intro h
  have habove := h oneTick .oneLong fallingBar (Decimal.ofNat 100)
    ⟨true, Decimal.ofNat 1, some (Decimal.ofNat 101), "FILLED"⟩ (by decide +kernel)
    (Decimal.ofNat 101) rfl
  revert habove
  unfold Within
  decide +kernel

/-! ### Bracket exits -/

variable {takeProfit stop : Decimal}

/-- The price is not worse than the target, for the holder of a position. -/
def NotWorse (order : Order) (target price : Decimal) : Prop :=
  if order.fields.direction = .LONG then target ≤ price else price ≤ target

/-- **How a bracket exits**: when the bar touches a level, at the stop when it touches the stop, and
otherwise at a price, before slippage, that is not worse than the target. -/
structure BracketLaw (ctx : DecimalContext) (m : L1FillModel) (order : Order) (bar : L1Bar)
    (takeProfit stop : Decimal) (d : FillDecision) : Prop where
  exits : d.triggered = true ↔ (bracketHits order bar takeProfit stop).1 = true
    ∨ (bracketHits order bar takeProfit stop).2 = true
  stopFirst : (bracketHits order bar takeProfit stop).1 = true →
    simulate ctx m order bar .LIMIT (some stop) = .ok d
  target : (bracketHits order bar takeProfit stop).1 = false →
    (bracketHits order bar takeProfit stop).2 = true →
    (∀ price, d.price = some price → Moved ctx m order (limitLevel order bar takeProfit) price)
      ∧ NotWorse order takeProfit (limitLevel order bar takeProfit)

/-- The bar opens on the better side of the target and comes back to it. -/
def ComesBack (order : Order) (bar : L1Bar) (takeProfit : Decimal) : Prop :=
  if order.fields.direction = .LONG then
    bar.fields.low ≤ takeProfit ∧ takeProfit ≤ bar.fields.opening
  else bar.fields.opening ≤ takeProfit ∧ takeProfit ≤ bar.fields.high

/-- The decision of a bracket whose bar touches a level is that of the level. -/
theorem simulateBracket_cases (h : simulateBracket ctx m order bar takeProfit stop = .ok d) :
    ((bracketHits order bar takeProfit stop).1 = true
        ∧ simulate ctx m order bar .LIMIT (some stop) = .ok d)
      ∨ ((bracketHits order bar takeProfit stop).1 = false
        ∧ (bracketHits order bar takeProfit stop).2 = true
        ∧ simulate ctx m order bar .LIMIT (some takeProfit) = .ok d)
      ∨ ((bracketHits order bar takeProfit stop).1 = false
        ∧ (bracketHits order bar takeProfit stop).2 = false ∧ d.triggered = false) := by
  unfold simulateBracket at h
  obtain ⟨-, h⟩ := of_require h
  obtain ⟨-, h⟩ := of_require h
  rcases hhits : bracketHits order bar takeProfit stop with ⟨hitStop, hitTarget⟩
  rw [hhits] at h
  cases hitStop with
  | true => exact Or.inl ⟨rfl, by simpa using h⟩
  | false =>
    cases hitTarget with
    | true => exact Or.inr (Or.inl ⟨rfl, rfl, by simpa using h⟩)
    | false =>
      obtain rfl : FillDecision.nothing false "NOT_TRIGGERED" = d := by simpa using h
      exact Or.inr (Or.inr ⟨rfl, rfl, rfl⟩)

/-- A stop that the bar touches is a limit that it comes to. -/
theorem reaches_of_hitStop (h : (bracketHits order bar takeProfit stop).1 = true) :
    Reaches order bar stop := by
  unfold bracketHits at h
  unfold Reaches
  by_cases hside : order.fields.direction = .LONG
  · simpa [hside] using h
  · simpa [hside] using h

theorem comesBack_iff :
    ComesBack order bar takeProfit ↔ Reaches order bar takeProfit
      ∧ NotWorse order takeProfit (limitLevel order bar takeProfit) := by
  unfold ComesBack Reaches NotWorse limitLevel
  by_cases hside : order.fields.direction = .LONG
  · simp [hside, Decimal.le_def, Decimal.val_min']
  · simp [hside, Decimal.le_def, Decimal.val_max', and_comm]

/-- **A bracket exits as it should exactly when** the bar touches the stop, or not the target
either, or opens beyond the target and comes back to it. -/
theorem bracketLaw_iff (h : simulateBracket ctx m order bar takeProfit stop = .ok d) :
    BracketLaw ctx m order bar takeProfit stop d
      ↔ (bracketHits order bar takeProfit stop).1 = true
        ∨ (bracketHits order bar takeProfit stop).2 = false
        ∨ ComesBack order bar takeProfit := by
  rcases simulateBracket_cases h with ⟨hstop, hd⟩ | ⟨hstop, htarget, hd⟩ | ⟨hstop, htarget, hd⟩
  · -- the stop is touched: the law holds
    refine iff_of_true ⟨?_, fun _ => hd, fun hno => ?_⟩ (Or.inl hstop)
    · exact iff_of_true ((simulate_limit hd).1.mpr (reaches_of_hitStop hstop)) (Or.inl hstop)
    · rw [hstop] at hno
      cases hno
  · -- the target alone is touched: everything hangs on the price of the limit order
    obtain ⟨htriggered, hprice⟩ := simulate_limit hd
    rw [comesBack_iff]
    constructor
    · rintro ⟨hexits, -, hlaw⟩
      exact Or.inr (Or.inr ⟨htriggered.mp (hexits.mpr (Or.inr htarget)),
        (hlaw hstop htarget).2⟩)
    · rintro (hno | hno | ⟨hreach, hbetter⟩)
      · rw [hstop] at hno
        cases hno
      · rw [htarget] at hno
        cases hno
      · refine ⟨iff_of_true (htriggered.mpr hreach) (Or.inr htarget), fun hno => ?_,
          fun _ _ => ⟨hprice, hbetter⟩⟩
        rw [hstop] at hno
        cases hno
  · -- nothing is touched: nothing is done
    refine iff_of_true ⟨?_, fun hno => ?_, fun _ hno => ?_⟩ (Or.inr (Or.inl htarget))
    · simp [hd, hstop, htarget]
    · rw [hstop] at hno
      cases hno
    · rw [htarget] at hno
      cases hno

/-- A bar that rises through 110. -/
def risingBar : L1Bar :=
  ⟨⟨Decimal.ofNat 100, Decimal.ofNat 112, Decimal.ofNat 98, Decimal.ofNat 111, Decimal.ofNat 5, none,
    none⟩, by decide⟩

/-- A bar that touches neither 90 nor 120 does not exit. -/
theorem bracketLaw_untouched :
    BracketLaw defaultContext oneTick .oneLong risingBar (Decimal.ofNat 120) (Decimal.ofNat 90)
        (.nothing false "NOT_TRIGGERED")
      ↔ (bracketHits .oneLong risingBar (Decimal.ofNat 120) (Decimal.ofNat 90)).1 = true
        ∨ (bracketHits .oneLong risingBar (Decimal.ofNat 120) (Decimal.ofNat 90)).2 = false
        ∨ ComesBack .oneLong risingBar (Decimal.ofNat 120) :=
  bracketLaw_iff (by decide +kernel)

/-- A bar that rises to the target from below exits where it opened, ten ticks worse. -/
theorem target_missed :
    ¬ ∀ (m : L1FillModel) (order : Order) (bar : L1Bar) (takeProfit stop : Decimal)
        (d : FillDecision), simulateBracket defaultContext m order bar takeProfit stop = .ok d →
      BracketLaw defaultContext m order bar takeProfit stop d := by
  intro h
  have hlaw := h .default .oneLong risingBar (Decimal.ofNat 110) (Decimal.ofNat 90)
    ⟨true, Decimal.ofNat 1, some (Decimal.ofNat 100), "FILLED"⟩ (by decide +kernel)
  have hworse := (hlaw.target (by decide +kernel) (by decide +kernel)).2
  revert hworse
  unfold NotWorse
  decide +kernel

end L1FillModel

end FuturesAgentOs
