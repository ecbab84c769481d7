import FuturesAgentOs.ExecutionSimulation.TickFills

namespace FuturesAgentOs

open PyModel

/-!
# What a tick replay knows of the future

Nothing: what it fills is a beginning of what it fills when the stream goes on.  On quantities of
one grid it fills as much of the order as the usable ticks have.

* `NoLookAhead`, `noLookAhead_of_extends` — the two statements on a stream and a longer one.
-/

namespace TickReplay

open OrderBookReplay (filledTotal)

variable {ctx : DecimalContext}

/-- The stream goes on, under the same choices. -/
structure Extends (r r' : TickReplay ctx) (later : List Tick) : Prop where
  ticks : r'.fields.ticks = r.fields.ticks ++ later
  config : r'.fields.config = r.fields.config

/-- The quantities of the order and of the usable ticks. -/
def tickQuantities (r : TickReplay ctx) (order : Order) (orderType : FillOrderType) :
    List Decimal :=
  order.fields.quantity :: order.fields.filledQuantity
    :: (usableTicks r.fields.config order orderType r.fields.ticks).map (·.fields.quantity)

/-- A limit order without a limit, or a stop without a stop price. -/
def LacksPrice (order : Order) (orderType : FillOrderType) : Prop :=
  orderType = .LIMIT ∧ order.fields.limitPrice = none
    ∨ orderType = .STOP ∧ order.fields.stopPrice = none

variable {order : Order}

theorem usableTicks_of_lacksPrice {config : TickReplayConfig ctx}
    {orderType : FillOrderType} (h : LacksPrice order orderType) (ticks : List Tick) :
    usableTicks config order orderType ticks = [] := by
  rcases h with ⟨rfl, hlimit⟩ | ⟨rfl, hstop⟩
  · unfold usableTicks usableFrom
    rw [List.filter_eq_nil_iff]
    intro tick _
    simp [IsUsable, withinLimit, hlimit]
  · have hnever : ∀ ticks, afterTrigger order ticks = [] := by
      intro ticks
      induction ticks with
      | nil => rfl
      | cons tick rest ih => simp [afterTrigger, triggers, crossedStop, hstop, ih]
    simp [usableTicks, usableFrom, hnever]

section

variable {order : Order} {orderType : FillOrderType}

/-- The loop before its first tick. -/
def beforeTicks (order : Order) (orderType : FillOrderType) (remaining : Decimal) : Replaying :=
  { watch := { triggered := orderType = .MARKET }, remaining, working := order }

/-- The loop is ready from its start, unless it waits for a trigger. -/
theorem usableFrom_start (config : TickReplayConfig ctx) (order : Order)
    (orderType : FillOrderType) (remaining : Decimal) (ticks : List Tick) :
    usableFrom config order orderType (beforeTicks order orderType remaining).watch.triggered ticks
      = usableTicks config order orderType ticks := by
  cases orderType with
  | STOP => rfl
  | MARKET => exact usableFrom_of_ready _ _ (fun h => by cases h) (fun h => by cases h) ticks
  | LIMIT => exact usableFrom_of_ready _ _ (fun h => by cases h) (fun h => by cases h) ticks

theorem onGrid_start (orderType : FillOrderType) {unit : ℤ} {bound : ℕ} (hkeeps : ctx.Keeps unit bound)
    (hquantity : order.fields.quantity.IsUnits unit bound)
    (hfilled : order.fields.filledQuantity.IsUnits unit bound) {remaining : Decimal}
    (h : ctx.sub order.fields.quantity order.fields.filledQuantity = .ok remaining) :
    OnGrid unit bound order (beforeTicks order orderType remaining)
      ∧ remaining.val = order.left := by
  obtain ⟨hval, hunits⟩ := Order.sub_units hkeeps hquantity hfilled h
  refine ⟨⟨hunits, hquantity, hfilled, hval.symm, ?_, ?_⟩, hval⟩
  · show filledTotal [] + remaining.val = order.left
    rw [hval]
    simp [filledTotal]
  · show order.fields.filledQuantity.val = order.fields.filledQuantity.val + filledTotal []
    simp [filledTotal]

end

section

variable [Hashlib] {r r' : TickReplay ctx} {order : Order} {orderType : FillOrderType}
  {res res' : TickReplayResult}

theorem result_facts {source working : Order} {fills : List Fill} {status : ReplayStatus}
    {reason : Text} {triggered : Bool} {sequence : Option ℤ}
    (h : result r source working fills status reason triggered sequence = .ok res) :
    res.order = working ∧ res.fills = fills ∧ res.status = status
      ∧ res.triggerSequence = sequence := by
  unfold result at h
  obtain ⟨orderItem, -, h⟩ := Py.of_bind h
  obtain ⟨resultItem, -, h⟩ := Py.of_bind h
  obtain ⟨ticks, -, h⟩ := Py.of_bind h
  obtain ⟨config, -, h⟩ := Py.of_bind h
  obtain ⟨replayDigest, -, h⟩ := Py.of_bind h
  obtain ⟨configDigest, -, h⟩ := Py.of_bind h
  obtain rfl := Except.ok.inj h
  exact ⟨rfl, rfl, rfl, rfl⟩

theorem replay_cases (h : replay r order orderType = .ok res) :
    ((LacksPrice order orderType ∨ ¬ ScopeMatches r.fields.config order)
        ∧ res.order = order ∧ res.fills = [] ∧ res.status = .REJECTED)
      ∨ (¬ LacksPrice order orderType ∧ ScopeMatches r.fields.config order)
        ∧ ∃ s, replayTicks r order orderType r.fields.ticks = .ok s ∧ res.order = s.working
          ∧ res.fills = s.fills ∧ res.triggerSequence = s.watch.triggerSequence := by
  unfold replay at h
  obtain ⟨-, h⟩ := of_require h
  by_cases hlimit : orderType = .LIMIT ∧ order.fields.limitPrice = none
  · rw [if_pos hlimit] at h
    obtain ⟨horder, hfills, hstatus, -⟩ := result_facts h
    exact Or.inl ⟨Or.inl (Or.inl hlimit), horder, hfills, hstatus⟩
  rw [if_neg hlimit] at h
  by_cases hstop : orderType = .STOP ∧ order.fields.stopPrice = none
  · rw [if_pos hstop] at h
    obtain ⟨horder, hfills, hstatus, -⟩ := result_facts h
    exact Or.inl ⟨Or.inl (Or.inr hstop), horder, hfills, hstatus⟩
  rw [if_neg hstop] at h
  by_cases hscope : ScopeMatches r.fields.config order
  · rw [if_neg (not_not.mpr hscope)] at h
    obtain ⟨s, hs, h⟩ := Py.of_bind h
    obtain ⟨horder, hfills, -, hsequence⟩ := result_facts h
    exact Or.inr ⟨⟨not_or.mpr ⟨hlimit, hstop⟩, hscope⟩, s, hs, horder, hfills, hsequence⟩
  · rw [if_pos hscope] at h
    obtain ⟨horder, hfills, hstatus, -⟩ := result_facts h
    exact Or.inl ⟨Or.inr hscope, horder, hfills, hstatus⟩

theorem replayTicks_eq_ok {ticks : List Tick} {s : Replaying}
    (h : replayTicks r order orderType ticks = .ok s) :
    ∃ moment remaining, activation r.fields.config order = .ok moment
      ∧ ctx.sub order.fields.quantity order.fields.filledQuantity = .ok remaining
      ∧ replayLoop r.fields.config order orderType moment ticks
          (beforeTicks order orderType remaining) = .ok s := by
  unfold replayTicks at h
  obtain ⟨moment, hmoment, h⟩ := Py.of_bind h
  obtain ⟨remaining, hremaining, h⟩ := Py.of_bind h
  exact ⟨moment, remaining, hmoment, hremaining, h⟩

/-- **The loop fills what the usable ticks have**, up to what is left of the order. -/
theorem replayTicks_units {s : Replaying}
    (hgrid : ctx.OneGrid (tickQuantities r order orderType))
    (h : replayTicks r order orderType r.fields.ticks = .ok s) :
    filledTotal s.fills = min order.left
        (quantities (usableTicks r.fields.config order orderType r.fields.ticks)).sum
      ∧ s.working.fields.filledQuantity.val
        = order.fields.filledQuantity.val + filledTotal s.fills := by
  obtain ⟨unit, bound, hkeeps, hunits⟩ := hgrid
  unfold tickQuantities at hunits
  rw [List.forall_mem_cons, List.forall_mem_cons, List.forall_mem_map] at hunits
  obtain ⟨hquantity, hfilled, hticks⟩ := hunits
  obtain ⟨moment, remaining, hmoment, hsub, hloop⟩ := replayTicks_eq_ok h
  obtain ⟨hstart, hval⟩ := onGrid_start orderType hkeeps hquantity hfilled hsub
  have husable := usableFrom_start r.fields.config order orderType remaining r.fields.ticks
  obtain ⟨hs, hremaining⟩ :=
    replayLoop_units hkeeps hstart hmoment (by rw [husable]; exact hticks) hloop
  have hleft : (beforeTicks order orderType remaining).remaining.val = order.left := hval
  refine ⟨?_, hs.recorded⟩
  rw [husable, hleft, GreedySweep.sum_takes order.left_nonneg (quantities_nonneg _)] at hremaining
  have htotal := hs.total
  linarith

/-- **What a replay knows of the future**: its fills are a beginning of the later ones, and those of
an order in the scope of the calibration are as much as there is, on quantities of one grid. -/
structure NoLookAhead (r : TickReplay ctx) (order : Order) (orderType : FillOrderType)
    (res res' : TickReplayResult) : Prop where
  beginning : res.fills <+: res'.fills
  total : ScopeMatches r.fields.config order → ctx.OneGrid (tickQuantities r order orderType) →
    filledTotal res.fills = min order.left
      (quantities (usableTicks r.fields.config order orderType r.fields.ticks)).sum

/-- **No look-ahead.** -/
theorem noLookAhead_of_extends {later : List Tick} (hext : Extends r r' later)
    (h : replay r order orderType = .ok res) (h' : replay r' order orderType = .ok res') :
    NoLookAhead r order orderType res res' := by
  constructor
  · rcases replay_cases h with ⟨-, -, hnone, -⟩ | ⟨-, s, hs, -, hfills, -⟩
    · rw [hnone]
      exact List.nil_prefix
    rcases replay_cases h' with ⟨hno, -⟩ | ⟨-, s', hs', -, hfills', -⟩
    · -- the longer replay rejects no order that the shorter one replays
      rw [hext.config] at hno
      rcases replay_cases h with ⟨-, -, hnone, -⟩ | ⟨⟨hprice, hscope⟩, -⟩
      · rw [hnone]
        exact List.nil_prefix
      · exact absurd (hno.resolve_left hprice) (not_not.mpr hscope)
    obtain ⟨moment, remaining, hmoment, hsub, hloop⟩ := replayTicks_eq_ok hs
    obtain ⟨moment', remaining', hmoment', hsub', hloop'⟩ := replayTicks_eq_ok hs'
    rw [hext.config] at hmoment' hloop'
    obtain rfl : moment = moment' := Except.ok.inj (hmoment.symm.trans hmoment')
    obtain rfl : remaining = remaining' := Except.ok.inj (hsub.symm.trans hsub')
    rw [hext.ticks] at hloop'
    rw [hfills, hfills']
    exact fills_mono hmoment hloop hloop'
  · intro hscope hgrid
    rcases replay_cases h with ⟨hno, -, hnone, -⟩ | ⟨-, s, hs, -, hfills, -⟩
    · have hlacks := hno.resolve_right (not_not.mpr hscope)
      rw [hnone, usableTicks_of_lacksPrice hlacks]
      simp [filledTotal, order.left_nonneg]
    · rw [hfills]
      exact (replayTicks_units hgrid hs).1

end

/-! ### Sample streams -/

/-- The second after which the first quote comes. -/
def tickTime : RecordedAt := ⟨.of 2026 7 13 (Eq.refl true), 9, 0, 1, 0⟩

/-- A lot quoted at 99 and 100. -/
def firstQuote : Tick :=
  ⟨{ sequence := 1
     timestamp := tickTime
     kind := .QUOTE
     price := Decimal.ofNat 100
     quantity := Decimal.ofNat 1
     bid := some (Decimal.ofNat 99)
     ask := some (Decimal.ofNat 100) }, by decide +kernel⟩

/-- The same again. -/
def secondQuote : Tick := ⟨{ firstQuote.fields with sequence := 2 }, by decide +kernel⟩

/-- A quantity of the thirtieth decimal place. -/
def tinyQuote : Tick :=
  ⟨{ firstQuote.fields with quantity := ⟨false, 1, -30⟩ }, by decide +kernel⟩

/-- The first quote alone. -/
def oneQuote : TickReplay defaultContext :=
  ⟨{ ticks := [firstQuote], config := ⟨{}, by decide +kernel⟩ }, by decide +kernel⟩

/-- Both quotes. -/
def twoQuotes : TickReplay defaultContext :=
  ⟨{ oneQuote.fields with ticks := [firstQuote, secondQuote] }, by decide +kernel⟩

/-- A lot behind a tiny quantity. -/
def tinyFirst : TickReplay defaultContext :=
  ⟨{ oneQuote.fields with ticks := [tinyQuote, secondQuote] }, by decide +kernel⟩

/-- A calibration for another instrument. -/
def otherScope : TickReplay defaultContext :=
  ⟨{ oneQuote.fields with
      config := ⟨{ slippage := some ⟨⟨1, Decimal.ofNat 0, Decimal.ofNat 0, "DCE:I"⟩,
        by decide +kernel⟩ }, by decide +kernel⟩ }, by decide +kernel⟩

/-- An order of which a lot of two is left. -/
def oneLeft : Order :=
  ⟨{ Order.twoLong.fields with status := .PARTIALLY_FILLED, filledQuantity := Decimal.ofNat 1 },
    by decide +kernel⟩

theorem extends_oneQuote : Extends oneQuote twoQuotes [secondQuote] := ⟨rfl, rfl⟩

theorem usableTicks_firstQuote {config : TickReplayConfig defaultContext}
    (hactive : IsActive config order firstQuote) :
    usableTicks config order .MARKET [firstQuote] = [firstQuote] := by
  have husable : IsUsable order .MARKET firstQuote := by
    simp [IsUsable, firstQuote]
  simp [usableTicks, usableFrom, hactive, husable]

theorem oneGrid_firstQuote {r : TickReplay defaultContext} {n : ℕ} (hn : n < 10)
    (hquantity : order.fields.quantity = Decimal.ofNat n) (hpos : 1 ≤ n)
    (hfilled : order.fields.filledQuantity = Decimal.ofNat 0)
    (hticks : r.fields.ticks = [firstQuote]) (hactive : IsActive r.fields.config order firstQuote) :
    defaultContext.OneGrid (tickQuantities r order .MARKET) := by
  refine ⟨0, n, DecimalContext.keeps_default (by decide) (by decide) (by omega), ?_⟩
  unfold tickQuantities
  rw [hquantity, hfilled, hticks, usableTicks_firstQuote hactive, List.forall_mem_cons,
    List.forall_mem_cons, List.map_singleton, List.forall_mem_singleton]
  exact ⟨Decimal.isUnits_ofNat le_rfl, Decimal.isUnits_zero, Decimal.isUnits_ofNat hpos⟩

/-- The order takes the first quote, and then the second as well. -/
theorem noLookAhead_oneQuote :
    ∃ res res', replay oneQuote .twoLong .MARKET = .ok res
      ∧ replay twoQuotes .twoLong .MARKET = .ok res' ∧ res.fills <+: res'.fills
      ∧ filledTotal res.fills = min Order.twoLong.left
        (quantities (usableTicks oneQuote.fields.config .twoLong .MARKET oneQuote.fields.ticks)).sum
      := by
  obtain ⟨hok, hok'⟩ : (replay oneQuote .twoLong .MARKET).toOption.isSome = true
      ∧ (replay twoQuotes .twoLong .MARKET).toOption.isSome = true := by decide +kernel
  rcases hrun : replay oneQuote .twoLong .MARKET with e | res
  · rw [hrun] at hok
    cases hok
  rcases hrun' : replay twoQuotes .twoLong .MARKET with e | res'
  · rw [hrun'] at hok'
    cases hok'
  have hlaw := noLookAhead_of_extends extends_oneQuote hrun hrun'
  have hactive : IsActive oneQuote.fields.config .twoLong firstQuote := by decide +kernel
  refine ⟨res, res', rfl, rfl, hlaw.beginning, hlaw.total (by decide +kernel) ?_⟩
  exact oneGrid_firstQuote (by decide) rfl (by decide) rfl rfl hactive

/-- More than an order has left is filled when a quantity is rounded away, and nothing of it when
the calibration is for another instrument. -/
theorem total_differs :
    (¬ ∀ (r : TickReplay defaultContext) (order : Order) (orderType : FillOrderType)
      (res : TickReplayResult), replay r order orderType = .ok res →
      ScopeMatches r.fields.config order → filledTotal res.fills = min order.left
        (quantities (usableTicks r.fields.config order orderType r.fields.ticks)).sum)
    ∧ ¬ ∀ (r : TickReplay defaultContext) (order : Order) (orderType : FillOrderType)
      (res : TickReplayResult), replay r order orderType = .ok res →
      defaultContext.OneGrid (tickQuantities r order orderType) →
      filledTotal res.fills = min order.left
        (quantities (usableTicks r.fields.config order orderType r.fields.ticks)).sum := by
  constructor
  · intro h
    have htotal : (replay tinyFirst oneLeft .MARKET).toOption.map
        (fun res => filledTotal res.fills) = some (1 + 1 / 10 ^ 30) := by
      decide +kernel
    rcases hrun : replay tinyFirst oneLeft .MARKET with e | res
    · rw [hrun] at htotal
      cases htotal
    · have hmin := h tinyFirst oneLeft .MARKET res hrun (by decide +kernel)
      rw [hrun] at htotal
      have hfilled : filledTotal res.fills = 1 + 1 / 10 ^ 30 := Option.some.inj htotal
      have hleft : oneLeft.left = 1 := by decide +kernel
      have hless := min_le_left oneLeft.left (quantities
        (usableTicks tinyFirst.fields.config oneLeft .MARKET tinyFirst.fields.ticks)).sum
      rw [← hmin, hfilled, hleft] at hless
      norm_num at hless
  · intro h
    have htotal : (replay otherScope .oneLong .MARKET).toOption.map
        (fun res => filledTotal res.fills) = some 0 := by
      decide +kernel
    have hactive : IsActive otherScope.fields.config .oneLong firstQuote := by decide +kernel
    rcases hrun : replay otherScope .oneLong .MARKET with e | res
    · rw [hrun] at htotal
      cases htotal
    · have hgrid := oneGrid_firstQuote (r := otherScope) (by decide) rfl (by decide) rfl rfl hactive
      have hmin := h otherScope .oneLong .MARKET res hrun hgrid
      rw [hrun] at htotal
      have hfilled : filledTotal res.fills = 0 := Option.some.inj htotal
      have hleft : Order.oneLong.left = 1 := by decide +kernel
      have husable := usableTicks_firstQuote hactive
      rw [hfilled, hleft] at hmin
      have hone : quantities (usableTicks otherScope.fields.config .oneLong .MARKET
          otherScope.fields.ticks) = [1] := by
        show quantities (usableTicks otherScope.fields.config .oneLong .MARKET [firstQuote]) = _
        rw [husable]
        simp [firstQuote]
      rw [hone] at hmin
      norm_num at hmin

end TickReplay

end FuturesAgentOs
