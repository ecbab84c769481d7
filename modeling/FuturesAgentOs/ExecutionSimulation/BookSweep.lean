import FuturesAgentOs.ExecutionSimulation.OrderBookReplay
import FuturesAgentOs.PyModel.GreedySweep

namespace FuturesAgentOs

open PyModel

/-!
# The sweep of a snapshot

On quantities of one grid, `execute_aggressive` is a sweep of the levels within the limit, in price
priority.

* `OptimalSweep`, `optimalSweep_of_oneGrid` — no level is touched before a better one is exhausted,
  and no other way of taking the quantity is cheaper for a buyer or dearer for a seller.
-/

namespace OrderBookReplay

variable {ctx : DecimalContext} {order : Order} {unit : ℤ} {bound : ℕ}

/-- The quantities of levels. -/
def depths (levels : List BookLevel) : List ℚ := levels.map (·.fields.quantity.val)

/-- The prices of levels. -/
def prices (levels : List BookLevel) : List ℚ := levels.map (·.fields.price.val)

/-- The price and the quantity of each level that is touched. -/
def touched (prices amounts : List ℚ) : List (ℚ × ℚ) :=
  (prices.zip amounts).filter fun touch => touch.2 ≠ 0

theorem touched_cons (p t : ℚ) (ps ts : List ℚ) :
    touched (p :: ps) (t :: ts) = if t = 0 then touched ps ts else (p, t) :: touched ps ts := by
  unfold touched
  rw [List.zip_cons_cons, List.filter_cons]
  by_cases hzero : t = 0
  · simp [hzero]
  · simp [hzero]

/-- What is paid in fills. -/
def notional (fills : List Fill) : ℚ :=
  (fills.map fun fill => fill.fields.price.val * fill.fields.quantity.val).sum

/-- What is taken in fills. -/
def filledTotal (fills : List Fill) : ℚ := (fills.map (·.fields.quantity.val)).sum

/-- One notional is as good as another: as low for a buyer, as high for a seller. -/
def AsGood (order : Order) (mine other : ℚ) : Prop :=
  if order.fields.direction = .LONG then mine ≤ other else other ≤ mine

/-- **The optimal sweep** of levels: how much is taken of each of them, and what the result makes
of it. -/
structure OptimalSweep (order : Order) (levels : List BookLevel) (result : L4ReplayResult)
    (amounts : List ℚ) : Prop where
  allocation : GreedySweep.IsAllocation amounts (depths levels)
  fills : result.fills.map (fun fill => (fill.fields.price.val, fill.fields.quantity.val))
    = touched (prices levels) amounts
  filled : filledTotal result.fills = min order.left (depths levels).sum
  exhausted : (amounts.zip (depths levels)).Pairwise fun better worse =>
    0 < worse.1 → better.1 = better.2
  optimal : ∀ other, GreedySweep.IsAllocation other (depths levels) →
    other.sum = filledTotal result.fills →
    AsGood order (notional result.fills) (GreedySweep.cost (prices levels) other)
  withinLimit : ∀ fill ∈ result.fills, ∀ limit ∈ order.fields.limitPrice,
    if order.fields.direction = .LONG then fill.fields.price ≤ limit else limit ≤ fill.fields.price
  recorded : result.order.fields.filledQuantity.val
    = order.fields.filledQuantity.val + result.consumedLiquidity.val
  consumed : result.consumedLiquidity.val = filledTotal result.fills

/-! ### The loop of `consume` -/

theorem quantity_nonneg (level : BookLevel) : 0 ≤ level.fields.quantity.val := by
  have h : level.fields.postInit = .ok () := level.valid
  simp only [BookLevelFields.postInit, checkBookDecimal, require_bind_eq_ok, require_eq_ok,
    Decimal.le_def, Decimal.val_ofNat, Nat.cast_zero] at h
  exact h.2.1

theorem depths_nonneg (levels : List BookLevel) : ∀ q ∈ depths levels, 0 ≤ q := by
  intro q hq
  obtain ⟨level, -, rfl⟩ := List.mem_map.mp hq
  exact quantity_nonneg level

/-- The price and the quantity of a transition. -/
def taken (t : DepthConsumption) : ℚ × ℚ := (t.price.val, t.quantity.val)

theorem new_eq_ok {price before quantity after : Decimal} {t : DepthConsumption}
    (h : DepthConsumption.new ctx price before quantity after = .ok t) :
    t = ⟨price, before, quantity, after⟩ := by
  simp only [DepthConsumption.new, Py.bind_eq_ok] at h
  obtain ⟨_, -, _, -, _, -, _, -, total, -, _, -, h⟩ := h
  exact (Except.ok.inj h).symm

/-- What a loop of `consume` has done when it has swept levels. -/
structure Swept (unit : ℤ) (bound : ℕ) (levels : List BookLevel) (s s' : Consumed) : Prop where
  remaining : s'.remaining.val
    = s.remaining.val - (GreedySweep.takes s.remaining.val (depths levels)).sum
  transitions : ∃ ts, s'.transitions = s.transitions ++ ts
    ∧ (∀ t ∈ ts, t.quantity.IsUnits unit bound)
    ∧ ts.map taken = touched (prices levels) (GreedySweep.takes s.remaining.val (depths levels))

/-- Nothing is touched for a request for nothing. -/
theorem touched_zero (levels : List BookLevel) :
    touched (prices levels) (GreedySweep.takes 0 (depths levels)) = [] := by
  unfold touched
  rw [List.filter_eq_nil_iff]
  intro touch htouch
  have hzero := GreedySweep.takes_of_mem (depths_nonneg levels) (List.of_mem_zip htouch).2
  simp [hzero]

variable {levels : List BookLevel} {s s' : Consumed}

theorem swept_of_done (hdone : s.remaining.val = 0) : Swept unit bound levels s s := by
  refine ⟨?_, [], (List.append_nil _).symm, by simp, ?_⟩
  · rw [hdone, GreedySweep.sum_takes_zero (depths_nonneg levels), sub_zero]
  · rw [hdone, touched_zero]
    rfl

/-- **What a level gives**: what it has, up to what remains. -/
theorem takeLevel_spec (hkeeps : ctx.Keeps unit bound) {level : BookLevel}
    (hlevel : level.fields.quantity.IsUnits unit bound)
    (hremaining : s.remaining.IsUnits unit bound) (h : takeLevel ctx level s = .ok s') :
    Swept unit bound [level] s s' ∧ s'.remaining.IsUnits unit bound := by
  have hmin : (s.remaining.min' level.fields.quantity).val
      = min s.remaining.val level.fields.quantity.val := Decimal.val_min' _ _
  unfold takeLevel at h
  by_cases hzero : (s.remaining.min' level.fields.quantity).numEq (Decimal.ofNat 0)
  · -- nothing is taken
    rw [if_pos hzero] at h
    obtain rfl := Except.ok.inj h
    rw [Decimal.numEq, hmin, Decimal.val_ofNat, Nat.cast_zero] at hzero
    refine ⟨⟨?_, [], (List.append_nil _).symm, by simp, ?_⟩, hremaining⟩
    · simp [depths, hzero]
    · simp [depths, prices, touched, hzero]
  · rw [if_neg hzero] at h
    obtain ⟨after, -, h⟩ := Py.of_bind h
    obtain ⟨transition, htransition, h⟩ := Py.of_bind h
    obtain ⟨paid, -, h⟩ := Py.of_bind h
    obtain ⟨total, -, h⟩ := Py.of_bind h
    obtain ⟨remaining, hsub, h⟩ := Py.of_bind h
    obtain rfl := Except.ok.inj h
    obtain rfl := new_eq_ok htransition
    have hle : (s.remaining.min' level.fields.quantity).val ≤ s.remaining.val := by
      rw [hmin]
      exact min_le_left _ _
    obtain ⟨hval, hunits⟩ := hkeeps.of_sub hremaining (hremaining.min' hlevel) hle hsub
    rw [Decimal.numEq, hmin, Decimal.val_ofNat, Nat.cast_zero] at hzero
    refine ⟨⟨?_, _, rfl, ?_, ?_⟩, hunits⟩
    · rw [hval, hmin]
      simp [depths]
    · rw [List.forall_mem_singleton]
      exact hremaining.min' hlevel
    · simp [depths, prices, touched, taken, hzero, hmin]

theorem Swept.cons {level : BookLevel} {s'' : Consumed}
    (h : Swept unit bound [level] s s') (hrest : Swept unit bound levels s' s'') : Swept unit bound (level :: levels) s s'' := by
  have hleft : s'.remaining.val
      = s.remaining.val - min s.remaining.val level.fields.quantity.val := by
    simpa [depths] using h.remaining
  obtain ⟨ts, hts, hunits, htaken⟩ := h.transitions
  obtain ⟨ts', hts', hunits', htaken'⟩ := hrest.transitions
  refine ⟨?_, ts ++ ts', by rw [hts', hts, List.append_assoc],
    List.forall_mem_append.mpr ⟨hunits, hunits'⟩, ?_⟩
  · rw [hrest.remaining, hleft]
    simp only [depths, List.map_cons, GreedySweep.takes_cons, List.sum_cons]
    ring
  · rw [List.map_append, htaken, htaken', hleft]
    simp only [prices, depths, List.map_cons, List.map_nil, GreedySweep.takes_cons,
      GreedySweep.takes_nil, touched_cons]
    split <;> rfl

/-- **The loop of `consume` is the sweep**, on quantities of one grid. -/
theorem consumeLevels_spec (hkeeps : ctx.Keeps unit bound) (hlevels : ∀ level ∈ levels, level.fields.quantity.IsUnits unit bound)
    (hremaining : s.remaining.IsUnits unit bound) (h : consumeLevels ctx levels s = .ok s') :
    Swept unit bound levels s s' ∧ s'.remaining.IsUnits unit bound := by
  induction levels generalizing s with
  | nil =>
    obtain rfl := Except.ok.inj h
    exact ⟨⟨by simp [depths], [], by simp, by simp, by simp [touched, prices]⟩, hremaining⟩
  | cons level rest ih =>
    rw [List.forall_mem_cons] at hlevels
    rw [consumeLevels] at h
    by_cases hdone : s.remaining.numEq (Decimal.ofNat 0)
    · rw [if_pos hdone] at h
      obtain rfl := Except.ok.inj h
      rw [Decimal.numEq, Decimal.val_ofNat, Nat.cast_zero] at hdone
      exact ⟨swept_of_done hdone, hremaining⟩
    · rw [if_neg hdone] at h
      obtain ⟨s₁, htake, h⟩ := Py.of_bind h
      obtain ⟨hswept, hunits⟩ := takeLevel_spec hkeeps hlevels.1 hremaining htake
      obtain ⟨hrest, hunits'⟩ := ih hlevels.2 hunits h
      exact ⟨hswept.cons hrest, hunits'⟩

/-- What `consume` says it took. -/
theorem consume_spec (hkeeps : ctx.Keeps unit bound)
    {requested reference : Decimal} {filled : BookFill}
    (hlevels : ∀ level ∈ levels, level.fields.quantity.IsUnits unit bound)
    (hrequested : requested.IsUnits unit bound)
    (h : consume ctx levels requested reference = .ok filled) :
    filled.quantity.val = (GreedySweep.takes requested.val (depths levels)).sum
      ∧ (∀ t ∈ filled.levels, t.quantity.IsUnits unit bound)
      ∧ filled.levels.map taken
        = touched (prices levels) (GreedySweep.takes requested.val (depths levels)) := by
  unfold consume at h
  obtain ⟨-, h⟩ := of_require h
  obtain ⟨-, h⟩ := of_require h
  obtain ⟨-, h⟩ := of_require h
  obtain ⟨-, h⟩ := of_require h
  obtain ⟨s, hloop, h⟩ := Py.of_bind h
  obtain ⟨total, hsub, h⟩ := Py.of_bind h
  obtain ⟨hswept, hunits⟩ := consumeLevels_spec hkeeps hlevels hrequested hloop
  obtain ⟨ts, hts, htsUnits, htaken⟩ := hswept.transitions
  rw [List.nil_append] at hts
  have hsum := GreedySweep.sum_takes hrequested.nonneg (depths_nonneg levels)
  have hle : s.remaining.val ≤ requested.val := by
    have hnonneg := le_min hrequested.nonneg (List.sum_nonneg (depths_nonneg levels))
    rw [hswept.remaining, hsum]
    linarith
  obtain ⟨hval, -⟩ := hkeeps.of_sub hrequested hunits hle hsub
  have hfilled : filled.quantity = total ∧ filled.levels = s.transitions := by
    split at h
    · obtain ⟨average, -, h⟩ := Py.of_bind h
      obtain ⟨impact, -, h⟩ := Py.of_bind h
      obtain rfl := Except.ok.inj h
      exact ⟨rfl, rfl⟩
    · obtain ⟨average, -, h⟩ := Py.of_bind h
      obtain ⟨impact, -, h⟩ := Py.of_bind h
      obtain rfl := Except.ok.inj h
      exact ⟨rfl, rfl⟩
  refine ⟨?_, ?_, ?_⟩
  · rw [hfilled.1, hval, hswept.remaining]
    ring
  · rw [hfilled.2, hts]
    exact htsUnits
  · rw [hfilled.2, hts]
    exact htaken

/-! ### The fills -/

section

variable [Hashlib] {r : OrderBookReplay}

/-- **What a fill is made of.** -/
theorem fill_facts {quantity price : Decimal} {event : Option L4BookEvent} {index : ℕ} {f : Fill}
    (h : fill ctx r order quantity price event index = .ok f) :
    f.fields.quantity = quantity ∧ f.fields.price = price
      ∧ f.fields.filledAt = event.elim r.fields.snapshot.fields.recordedAt (·.fields.recordedAt)
      ∧ fillId ctx r order quantity price
          (event.elim r.fields.snapshot.fields.sequence (·.fields.sequence)) index
        = .ok f.fields.fillId := by
  unfold fill at h
  obtain ⟨identity, hidentity, h⟩ := Py.of_bind h
  rw [Frozen.make_eq_ok] at h
  rw [h]
  exact ⟨rfl, rfl, rfl, hidentity⟩

/-- **Each transition is a fill** that the order records. -/
theorem fillLevels_spec (hkeeps : ctx.Keeps unit bound) {ts : List DepthConsumption} {index : ℕ}
    {working working' : Order} {fills : List Fill}
    (hquantity : working.fields.quantity.IsUnits unit bound)
    (hfilled : working.fields.filledQuantity.IsUnits unit bound)
    (hunits : ∀ t ∈ ts, t.quantity.IsUnits unit bound)
    (hleft : (ts.map (·.quantity.val)).sum ≤ working.left)
    (h : fillLevels ctx r order ts index working = .ok (fills, working')) :
    fills.map (fun f => (f.fields.price, f.fields.quantity)) = ts.map (fun t => (t.price, t.quantity))
      ∧ working'.fields.filledQuantity.val
        = working.fields.filledQuantity.val + (ts.map (·.quantity.val)).sum := by
  induction ts generalizing index working fills with
  | nil =>
    obtain ⟨rfl, rfl⟩ := Prod.mk.inj (Except.ok.inj h)
    exact ⟨rfl, by simp⟩
  | cons t ts ih =>
    rw [List.forall_mem_cons] at hunits
    rw [List.map_cons, List.sum_cons] at hleft
    have hrest : 0 ≤ (ts.map (·.quantity.val)).sum := by
      apply List.sum_nonneg
      intro q hq
      obtain ⟨t', ht', rfl⟩ := List.mem_map.mp hq
      exact (hunits.2 t' ht').nonneg
    rw [fillLevels] at h
    obtain ⟨first, hfirst, h⟩ := Py.of_bind h
    obtain ⟨next, hnext, h⟩ := Py.of_bind h
    obtain ⟨⟨others, last⟩, hothers, h⟩ := Py.of_bind h
    obtain ⟨rfl, rfl⟩ := Prod.mk.inj (Except.ok.inj h)
    obtain ⟨hq, hp, -, -⟩ := fill_facts hfirst
    obtain ⟨hval, hnextUnits, hsame, hnextLeft⟩ :=
      Order.applyFill_units hkeeps hquantity hfilled hunits.1 (by linarith) hnext
    obtain ⟨hfills, htotal⟩ := ih (hsame ▸ hquantity) hnextUnits hunits.2 (by linarith) hothers
    refine ⟨by rw [List.map_cons, List.map_cons, hfills, hq, hp], ?_⟩
    rw [htotal, hval, List.map_cons, List.sum_cons]
    ring

theorem result_facts {source working : Order} {fills : List Fill}
    {available consumed remaining impact impactBps : Decimal} {depth : List DepthConsumption}
    {queue : List QueueTransition} {reason : Text} {res : L4ReplayResult}
    (h : result ctx r source working fills available consumed remaining impact depth queue reason
      impactBps = .ok res) :
    res.order = working ∧ res.fills = fills ∧ res.consumedLiquidity = consumed
      ∧ res.availableLiquidity = available ∧ res.remainingQuantity = remaining
      ∧ res.queueTransitions = queue := by
  simp only [result, Py.bind_eq_ok] at h
  obtain ⟨_, -, _, -, _, -, _, -, _, -, _, -, _, -, _, -, _, -, _, -, _, -, h⟩ := h
  obtain rfl := Except.ok.inj h
  exact ⟨rfl, rfl, rfl, rfl, rfl, rfl⟩

end

/-! ### The sweep is optimal -/

/-- Untouched levels count for nothing. -/
theorem sum_touched {prices amounts : List ℚ} (hlength : prices.length = amounts.length) :
    ((touched prices amounts).map Prod.snd).sum = amounts.sum := by
  induction prices generalizing amounts with
  | nil =>
    obtain rfl : amounts = [] := List.length_eq_zero_iff.mp hlength.symm
    rfl
  | cons p ps ih =>
    rcases amounts with _ | ⟨t, ts⟩
    · cases hlength
    · have hrest := ih (Nat.succ.inj hlength)
      rw [touched_cons]
      by_cases hzero : t = 0
      · simp [hzero, hrest]
      · simp [hzero, hrest]

/-- Untouched levels cost nothing. -/
theorem cost_touched {prices amounts : List ℚ} (hlength : prices.length = amounts.length) :
    ((touched prices amounts).map fun touch => touch.1 * touch.2).sum
      = GreedySweep.cost prices amounts := by
  induction prices generalizing amounts with
  | nil =>
    obtain rfl : amounts = [] := List.length_eq_zero_iff.mp hlength.symm
    rfl
  | cons p ps ih =>
    rcases amounts with _ | ⟨t, ts⟩
    · cases hlength
    · have hrest := ih (Nat.succ.inj hlength)
      rw [touched_cons, GreedySweep.cost_cons]
      by_cases hzero : t = 0
      · simp [hzero, hrest]
      · simp [hzero, hrest]

variable {r : OrderBookReplay}

theorem inPriority_sideLevels (snapshot : BookSnapshot) (side : BookSide) :
    (sideLevels snapshot side).Pairwise side.InPriority := by
  have h : snapshot.fields.postInit = .ok () := snapshot.valid
  simp only [BookSnapshotFields.postInit, validateSide, require_bind_eq_ok, require_eq_ok] at h
  cases side with
  | BID => exact h.2.2.1.1
  | ASK => exact h.2.2.2.1.1

theorem inPriority_eligibleLevels (r : OrderBookReplay) (order : Order) :
    (eligibleLevels r order).Pairwise (opposingSide order.fields.direction).InPriority :=
  (inPriority_sideLevels _ _).filter _

theorem asGood_takes {q : ℚ} (hq : 0 ≤ q) {other : List ℚ}
    (hother : GreedySweep.IsAllocation other (depths (eligibleLevels r order)))
    (hsum : other.sum = (GreedySweep.takes q (depths (eligibleLevels r order))).sum) :
    AsGood order
      (GreedySweep.cost (prices (eligibleLevels r order))
        (GreedySweep.takes q (depths (eligibleLevels r order))))
      (GreedySweep.cost (prices (eligibleLevels r order)) other) := by
  have hsorted := inPriority_eligibleLevels r order
  have hlength : (prices (eligibleLevels r order)).length
      = (depths (eligibleLevels r order)).length := by
    rw [prices, depths, List.length_map, List.length_map]
  unfold AsGood
  unfold opposingSide at hsorted
  by_cases hside : order.fields.direction = .LONG
  · rw [if_pos hside] at hsorted ⊢
    exact GreedySweep.cost_takes_le hlength (List.pairwise_map.mpr hsorted) hq (depths_nonneg _)
      hother hsum
  · rw [if_neg hside] at hsorted ⊢
    exact GreedySweep.le_cost_takes hlength (List.pairwise_map.mpr hsorted) hq (depths_nonneg _)
      hother hsum

theorem optimalSweep_of_fills {res : L4ReplayResult}
    (hfills : res.fills.map (fun fill => (fill.fields.price.val, fill.fields.quantity.val))
      = touched (prices (eligibleLevels r order))
        (GreedySweep.takes order.left (depths (eligibleLevels r order))))
    (hconsumed : res.consumedLiquidity.val
      = (GreedySweep.takes order.left (depths (eligibleLevels r order))).sum)
    (hrecorded : res.order.fields.filledQuantity.val
      = order.fields.filledQuantity.val + res.consumedLiquidity.val) :
    OptimalSweep order (eligibleLevels r order) res
      (GreedySweep.takes order.left (depths (eligibleLevels r order))) := by
  have hnonneg := depths_nonneg (eligibleLevels r order)
  have hlength : (prices (eligibleLevels r order)).length
      = (GreedySweep.takes order.left (depths (eligibleLevels r order))).length := by
    rw [GreedySweep.length_takes, prices, depths, List.length_map, List.length_map]
  have htotal : filledTotal res.fills
      = (GreedySweep.takes order.left (depths (eligibleLevels r order))).sum := by
    rw [← sum_touched hlength, ← hfills, List.map_map]
    rfl
  have hnotional : notional res.fills = GreedySweep.cost (prices (eligibleLevels r order))
      (GreedySweep.takes order.left (depths (eligibleLevels r order))) := by
    rw [← cost_touched hlength, ← hfills, List.map_map]
    rfl
  refine ⟨GreedySweep.isAllocation_takes order.left_nonneg hnonneg, hfills, ?_,
    GreedySweep.exhausted_takes hnonneg, fun other hother hsum => ?_, ?_, hrecorded,
    hconsumed.trans htotal.symm⟩
  · rw [htotal, GreedySweep.sum_takes order.left_nonneg hnonneg]
  · rw [hnotional]
    exact asGood_takes order.left_nonneg hother (hsum.trans htotal)
  · intro fill hfill limit hlimit
    -- the price of a fill is that of a level within the limit
    have htouch : (fill.fields.price.val, fill.fields.quantity.val) ∈ touched
        (prices (eligibleLevels r order))
        (GreedySweep.takes order.left (depths (eligibleLevels r order))) := by
      rw [← hfills]
      exact List.mem_map_of_mem hfill
    have hprice := (List.of_mem_zip (List.mem_of_mem_filter htouch)).1
    obtain ⟨level, hlevel, heq⟩ := List.mem_map.mp hprice
    have heligible := (List.mem_filter.mp hlevel).2
    obtain hlimit : order.fields.limitPrice = some limit := hlimit
    rw [isEligible, hlimit, Option.all_some] at heligible
    by_cases hside : order.fields.direction = .LONG
    · rw [if_pos hside]
      rw [if_pos hside, decide_eq_true_eq, Decimal.le_def, heq] at heligible
      exact heligible
    · rw [if_neg hside]
      rw [if_neg hside, decide_eq_true_eq, Decimal.le_def, heq] at heligible
      exact heligible

/-! ### The whole execution -/

section

variable [Hashlib]

/-- The quantities of the order and of the levels within its limit. -/
def sweepQuantities (r : OrderBookReplay) (order : Order) : List Decimal :=
  order.fields.quantity :: order.fields.filledQuantity
    :: (eligibleLevels r order).map (·.fields.quantity)

/-- Without anything to take, doing nothing is the optimal sweep. -/
theorem optimalSweep_of_empty {available remaining : Decimal} {res : L4ReplayResult}
    (hempty : ∀ q ∈ depths (eligibleLevels r order), q = 0)
    (h : noLiquidity ctx r order available remaining = .ok res) :
    OptimalSweep order (eligibleLevels r order) res
      (GreedySweep.takes order.left (depths (eligibleLevels r order))) := by
  obtain ⟨horder, hfills, hconsumed, -⟩ := result_facts h
  have hnonneg := depths_nonneg (eligibleLevels r order)
  have hsum : (GreedySweep.takes order.left (depths (eligibleLevels r order))).sum = 0 := by
    have hzero : (depths (eligibleLevels r order)).sum = 0 := by
      exact List.sum_eq_zero hempty
    rw [GreedySweep.sum_takes order.left_nonneg hnonneg, hzero, min_eq_right order.left_nonneg]
  apply optimalSweep_of_fills
  · -- what is taken of a level is at most what it has
    have hallocation := GreedySweep.isAllocation_takes order.left_nonneg hnonneg
    have hamounts : ∀ t ∈ GreedySweep.takes order.left (depths (eligibleLevels r order)), t = 0 := by
      intro t ht
      obtain ⟨i, hi, rfl⟩ := List.getElem_of_mem ht
      have hi' : i < (depths (eligibleLevels r order)).length := hallocation.length_eq ▸ hi
      have hbounds := List.Forall₂.get hallocation hi hi'
      have hq := hempty _ (List.getElem_mem hi')
      simp only [List.get_eq_getElem, hq] at hbounds
      exact le_antisymm hbounds.2 hbounds.1
    have htouched : touched (prices (eligibleLevels r order))
        (GreedySweep.takes order.left (depths (eligibleLevels r order))) = [] := by
      unfold touched
      rw [List.filter_eq_nil_iff]
      intro touch htouch
      have hzero := hamounts _ (List.of_mem_zip htouch).2
      simp [hzero]
    rw [hfills, htouched]
    rfl
  · rw [hconsumed, hsum, Decimal.val_ofNat, Nat.cast_zero]
  · rw [horder, hconsumed, Decimal.val_ofNat, Nat.cast_zero, add_zero]

/-- **Taking the other side is the optimal sweep** of the levels within the limit, on quantities of
one grid. -/
theorem optimalSweep_of_oneGrid {res : L4ReplayResult}
    (hgrid : ctx.OneGrid (sweepQuantities r order))
    (h : executeAggressive ctx r order = .ok res) :
    ∃ amounts, OptimalSweep order (eligibleLevels r order) res amounts := by
  obtain ⟨unit, bound, hkeeps, hunits⟩ := hgrid
  unfold sweepQuantities at hunits
  rw [List.forall_mem_cons, List.forall_mem_cons, List.forall_mem_map] at hunits
  obtain ⟨hquantity, hfilled, hlevels⟩ := hunits
  refine ⟨GreedySweep.takes order.left (depths (eligibleLevels r order)), ?_⟩
  unfold executeAggressive at h
  obtain ⟨-, h⟩ := of_require h
  obtain ⟨remaining, hsub, h⟩ := Py.of_bind h
  obtain ⟨available, havailable, h⟩ := Py.of_bind h
  obtain ⟨hremaining, hremainingUnits⟩ := Order.sub_units hkeeps hquantity hfilled hsub
  rcases hbest : eligibleLevels r order with _ | ⟨best, rest⟩
  · rw [hbest] at h
    rw [← hbest]
    refine optimalSweep_of_empty (fun q hq => ?_) h
    rw [hbest] at hq
    cases hq
  rw [hbest] at h
  dsimp only at h
  by_cases hnone : available.numEq (Decimal.ofNat 0)
  · rw [if_pos hnone] at h
    rw [← hbest]
    refine optimalSweep_of_empty (fun q hq => ?_) h
    rw [Decimal.numEq, Decimal.val_ofNat, Nat.cast_zero] at hnone
    obtain ⟨level, hlevel, rfl⟩ := List.mem_map.mp hq
    have hunits : ∀ d ∈ (eligibleLevels r order).map (·.fields.quantity),
        d.IsUnits unit bound := List.forall_mem_map.mpr hlevels
    exact hkeeps.eq_zero_of_sum hunits havailable hnone _ (List.mem_map_of_mem hlevel)
  · rw [if_neg hnone, ← hbest] at h
    rw [← hbest]
    obtain ⟨consumed, hconsume, h⟩ := Py.of_bind h
    obtain ⟨⟨fills, working⟩, hfills, h⟩ := Py.of_bind h
    obtain ⟨hamount, hts, htaken⟩ := consume_spec hkeeps hlevels hremainingUnits hconsume
    rw [hremaining] at hamount htaken
    have hlength : (prices (eligibleLevels r order)).length
        = (GreedySweep.takes order.left (depths (eligibleLevels r order))).length := by
      rw [GreedySweep.length_takes, prices, depths, List.length_map, List.length_map]
    have hsum : (consumed.levels.map (·.quantity.val)).sum
        = (GreedySweep.takes order.left (depths (eligibleLevels r order))).sum := by
      rw [← sum_touched hlength, ← htaken, List.map_map]
      rfl
    have hless : (consumed.levels.map (·.quantity.val)).sum ≤ order.left := by
      rw [hsum, GreedySweep.sum_takes order.left_nonneg (depths_nonneg _)]
      exact min_le_left _ _
    obtain ⟨hmade, hrecorded⟩ := fillLevels_spec hkeeps hquantity hfilled hts hless hfills
    obtain ⟨vwap, -, h⟩ := Py.of_bind h
    -- the impact is computed on either side, and says nothing of the fills
    have hresult : ∃ impact impactBps reason, result ctx r order working fills available
        consumed.quantity consumed.remaining impact consumed.levels [] reason impactBps
        = .ok res := by
      split at h
      · obtain ⟨impact, -, h⟩ := Py.of_bind h
        obtain ⟨share, -, h⟩ := Py.of_bind h
        obtain ⟨impactBps, -, h⟩ := Py.of_bind h
        exact ⟨impact, impactBps, _, h⟩
      · obtain ⟨impact, -, h⟩ := Py.of_bind h
        obtain ⟨share, -, h⟩ := Py.of_bind h
        obtain ⟨impactBps, -, h⟩ := Py.of_bind h
        exact ⟨impact, impactBps, _, h⟩
    obtain ⟨impact, impactBps, reason, hresult⟩ := hresult
    obtain ⟨horder, hfillsEq, hconsumed, -⟩ := result_facts hresult
    apply optimalSweep_of_fills
    · rw [hfillsEq, ← htaken]
      have hvalues := congrArg (List.map fun x : Decimal × Decimal => (x.1.val, x.2.val)) hmade
      rwa [List.map_map, List.map_map] at hvalues
    · rw [hconsumed, hamount]
    · rw [horder, hrecorded, hconsumed, hamount, hsum]

end

/-- One lot offered at 100. -/
def oneAsk : OrderBookReplay :=
  ⟨{ snapshot := ⟨⟨0, ⟨.of 2026 7 13 (Eq.refl true), 9, 0, 0, 0⟩, [], [.lotAt100],
        "sample"⟩, by decide +kernel⟩
     config := .defaults }, by decide +kernel⟩

/-- A lot offered at 101 behind a quantity of the thirtieth decimal place at 100. -/
def tinyAsk : OrderBookReplay :=
  ⟨{ snapshot := ⟨⟨0, ⟨.of 2026 7 13 (Eq.refl true), 9, 0, 0, 0⟩, [],
        [⟨⟨Decimal.ofNat 100, ⟨false, 1, -30⟩⟩, by decide⟩,
          ⟨⟨Decimal.ofNat 101, Decimal.ofNat 1⟩, by decide⟩], "sample"⟩, by decide +kernel⟩
     config := .defaults }, by decide +kernel⟩

theorem oneGrid_oneAsk : defaultContext.OneGrid (sweepQuantities oneAsk .oneLong) := by
  refine ⟨0, 1, DecimalContext.keeps_default (by decide) (by decide) (by decide), ?_⟩
  intro d hd
  have hcases : d = Decimal.ofNat 1 ∨ d = Decimal.ofNat 0 ∨ d = Decimal.ofNat 1 := by
    simpa [sweepQuantities, eligibleLevels, isEligible, sideLevels, opposingSide, Order.oneLong,
      oneAsk, BookLevel.lotAt100] using hd
  rcases hcases with rfl | rfl | rfl
  · exact Decimal.isUnits_ofNat (by decide)
  · exact Decimal.isUnits_ofNat (by decide)
  · exact Decimal.isUnits_ofNat (by decide)

/-- One level gives one fill. -/
theorem optimalSweep_oneAsk :
    ∃ res, executeAggressive defaultContext oneAsk .oneLong = .ok res
      ∧ ∃ amounts, OptimalSweep .oneLong (eligibleLevels oneAsk .oneLong) res amounts := by
  have hok : (executeAggressive defaultContext oneAsk .oneLong).toOption.isSome = true := by
    decide +kernel
  rcases hrun : executeAggressive defaultContext oneAsk .oneLong with e | res
  · rw [hrun] at hok
    cases hok
  · exact ⟨res, rfl, optimalSweep_of_oneGrid oneGrid_oneAsk hrun⟩

/-- A quantity that does not fit beside the others is rounded away: more than the order is
filled. -/
theorem sweep_rounded :
    ¬ ∀ (r : OrderBookReplay) (order : Order) (res : L4ReplayResult),
      executeAggressive defaultContext r order = .ok res →
      ∃ amounts, OptimalSweep order (eligibleLevels r order) res amounts := by
  intro h
  have hfills : (executeAggressive defaultContext tinyAsk .oneLong).toOption.map
      (fun res => filledTotal res.fills) = some (1 + 1 / 10 ^ 30) := by
    decide +kernel
  rcases hrun : executeAggressive defaultContext tinyAsk .oneLong with e | res
  · rw [hrun] at hfills
    cases hfills
  · obtain ⟨amounts, hsweep⟩ := h tinyAsk .oneLong res hrun
    have hfilled := hsweep.filled
    have hless := min_le_left Order.oneLong.left (depths (eligibleLevels tinyAsk .oneLong)).sum
    have hleft : Order.oneLong.left = 1 := by decide +kernel
    rw [hrun] at hfills
    have htotal : filledTotal res.fills = 1 + 1 / 10 ^ 30 := Option.some.inj hfills
    rw [← hfilled, htotal, hleft] at hless
    norm_num at hless

end OrderBookReplay

end FuturesAgentOs
