import FuturesAgentOs.ExecutionSimulation.BookSweep
import FuturesAgentOs.PyModel.QueueLaw

namespace FuturesAgentOs

open PyModel

/-!
# The queue of a resting order

On quantities of one grid, `execute_resting` follows the law of a place in a queue.

* `RestingLaw`, `restingLaw_of_oneGrid` — what this says of the result, and of two replays that
  differ in the depth displayed ahead.
-/

namespace OrderBookReplay

variable {ctx : DecimalContext} {order : Order} {price : Decimal} {unit : ℤ} {bound : ℕ}
  {s s' : Resting}

/-- Where the order stands. -/
def position (s : Resting) : QueueLaw.Position ℚ := ⟨s.ahead.val, s.behind.val, s.remaining.val⟩

/-- The event is at the price of the order, on its side. -/
def AtPrice (order : Order) (price : Decimal) (event : L4BookEvent) : Prop :=
  event.fields.side = restingSide order.fields.direction ∧ event.fields.price.numEq price

instance (order : Order) (price : Decimal) : DecidablePred (AtPrice order price) :=
  fun _ => inferInstanceAs (Decidable (_ ∧ _))

/-- What an event is to the queue. -/
def queueEvent (event : L4BookEvent) : QueueLaw.Event ℚ :=
  match event.fields.kind with
  | .SET_DEPTH => .depth event.fields.quantity.val
  | .TRADE => .trade event.fields.quantity.val

/-- What happens to the queue. -/
def queueEvents (order : Order) (price : Decimal) (events : List L4BookEvent) :
    List (QueueLaw.Event ℚ) :=
  (events.filter (AtPrice order price)).map queueEvent

/-- Where a trade went. -/
def passageOf (t : QueueTransition) : QueueLaw.Passage ℚ :=
  ⟨t.tradeQuantity.val, t.aheadBefore.val, t.aheadConsumed.val, t.fillQuantity.val,
    t.behindConsumed.val, t.unmatched.val, t.aheadAfter.val, t.behindAfter.val⟩

/-- The state of the loop is exact: its quantities are numbers of one unit, the queue has room for
its sum, and the order records what was filled. -/
structure OnGrid (unit : ℤ) (bound : ℕ) (order : Order) (s : Resting) : Prop where
  ahead : s.ahead.IsUnits unit bound
  behind : s.behind.IsUnits unit bound
  remaining : s.remaining.IsUnits unit bound
  room : s.ahead.val + s.behind.val ≤ bound * 10 ^ unit
  quantity : s.working.fields.quantity.IsUnits unit bound
  filled : s.working.fields.filledQuantity.IsUnits unit bound
  left : s.working.left = s.remaining.val
  total : filledTotal s.fills + s.remaining.val = order.left

theorem OnGrid.valid (h : OnGrid unit bound order s) : (position s).Valid :=
  ⟨h.ahead.nonneg, h.behind.nonneg, h.remaining.nonneg⟩

/-- **A new depth** moves the queue as the law says, and fills nothing. -/
theorem setDepth_spec (hkeeps : ctx.Keeps unit bound) (hs : OnGrid unit bound order s)
    {quantity : Decimal} (hq : quantity.IsUnits unit bound)
    (h : setDepth ctx quantity s = .ok s') :
    OnGrid unit bound order s' ∧ position s' = (position s).depth quantity.val
      ∧ s'.fills = s.fills ∧ s'.transitions = s.transitions := by
  unfold setDepth at h
  obtain ⟨current, hcurrent, h⟩ := Py.of_bind h
  obtain ⟨hval, hunits⟩ := hkeeps.of_add hs.ahead hs.behind hs.room hcurrent
  by_cases hgrow : current ≤ quantity
  · rw [if_pos hgrow] at h
    rw [Decimal.le_def, hval] at hgrow
    obtain ⟨added, hadded, h⟩ := Py.of_bind h
    obtain ⟨behind, hbehind, h⟩ := Py.of_bind h
    obtain rfl := Except.ok.inj h
    obtain ⟨haddedVal, haddedUnits⟩ := hkeeps.of_sub hq hunits (by rw [hval]; exact hgrow) hadded
    have hroom : s.behind.val + added.val ≤ bound * 10 ^ unit := by
      have hless := hq.le
      have hahead := hs.ahead.nonneg
      rw [haddedVal, hval]
      linarith
    obtain ⟨hbehindVal, hbehindUnits⟩ := hkeeps.of_add hs.behind haddedUnits hroom hbehind
    refine ⟨⟨hs.ahead, hbehindUnits, hs.remaining, ?_, hs.quantity, hs.filled, hs.left, hs.total⟩,
      ?_, rfl, rfl⟩
    · have hless := hq.le
      rw [hbehindVal, haddedVal, hval]
      linarith
    · unfold QueueLaw.Position.depth position
      rw [if_pos hgrow, hbehindVal, haddedVal, hval]
  · rw [if_neg hgrow] at h
    rw [Decimal.le_def, hval] at hgrow
    have hless : quantity.val ≤ s.ahead.val + s.behind.val := (not_le.mp hgrow).le
    obtain ⟨reduction, hreduction, h⟩ := Py.of_bind h
    obtain ⟨behind, hbehind, h⟩ := Py.of_bind h
    obtain ⟨rest, hrest, h⟩ := Py.of_bind h
    obtain ⟨ahead, hahead, h⟩ := Py.of_bind h
    obtain rfl := Except.ok.inj h
    obtain ⟨hreductionVal, hreductionUnits⟩ :=
      hkeeps.of_sub hunits hq (by rw [hval]; exact hless) hreduction
    have hcancelled : (s.behind.min' reduction).val
        = min s.behind.val (s.ahead.val + s.behind.val - quantity.val) := by
      rw [Decimal.val_min', hreductionVal, hval]
    obtain ⟨hbehindVal, hbehindUnits⟩ := hkeeps.of_sub hs.behind
      (hs.behind.min' hreductionUnits) (by rw [Decimal.val_min']; exact min_le_left _ _) hbehind
    obtain ⟨hrestVal, hrestUnits⟩ := hkeeps.of_sub hreductionUnits
      (hs.behind.min' hreductionUnits) (by rw [Decimal.val_min']; exact min_le_right _ _) hrest
    obtain ⟨haheadVal, haheadUnits⟩ := hkeeps.of_sub hs.ahead
      (hs.ahead.min' hrestUnits) (by rw [Decimal.val_min']; exact min_le_left _ _) hahead
    have hposition : position { s with ahead, behind } = (position s).depth quantity.val := by
      unfold QueueLaw.Position.depth position
      rw [if_neg hgrow]
      simp only [haheadVal, Decimal.val_min', hrestVal, hreductionVal, hval, hbehindVal]
    refine ⟨⟨haheadUnits, hbehindUnits, hs.remaining, ?_, hs.quantity, hs.filled, hs.left,
      hs.total⟩, hposition, rfl, rfl⟩
    -- the queue shrinks to the new depth
    have htotal := QueueLaw.Position.total_depth hs.valid hq.nonneg
    rw [← hposition] at htotal
    exact htotal.le.trans hq.le

section

variable [Hashlib] {r : OrderBookReplay} {event : L4BookEvent} {events : List L4BookEvent}

theorem trade_eq_ok (h : trade ctx r order price event s = .ok s') :
    ∃ afterAhead afterFill unmatched,
      ctx.sub s.ahead (s.ahead.min' event.fields.quantity) = .ok s'.ahead
      ∧ ctx.sub event.fields.quantity (s.ahead.min' event.fields.quantity) = .ok afterAhead
      ∧ ctx.sub s.remaining (s.remaining.min' afterAhead) = .ok s'.remaining
      ∧ tradeFill ctx r order price event (s.remaining.min' afterAhead) s
        = .ok (s'.fills, s'.working)
      ∧ ctx.sub afterAhead (s.remaining.min' afterAhead) = .ok afterFill
      ∧ ctx.sub s.behind (s.behind.min' afterFill) = .ok s'.behind
      ∧ ctx.sub afterFill (s.behind.min' afterFill) = .ok unmatched
      ∧ s'.transitions = s.transitions ++ [⟨event.fields.sequence, event.fields.quantity, s.ahead,
          s.ahead.min' event.fields.quantity, s.remaining.min' afterAhead, s.behind.min' afterFill,
          unmatched, s'.ahead, s'.behind⟩] := by
  unfold trade at h
  obtain ⟨flow, -, h⟩ := Py.of_bind h
  obtain ⟨ahead, hahead, h⟩ := Py.of_bind h
  obtain ⟨afterAhead, hafterAhead, h⟩ := Py.of_bind h
  obtain ⟨remaining, hremaining, h⟩ := Py.of_bind h
  obtain ⟨⟨fills, working⟩, hfill, h⟩ := Py.of_bind h
  obtain ⟨afterFill, hafterFill, h⟩ := Py.of_bind h
  obtain ⟨behind, hbehind, h⟩ := Py.of_bind h
  obtain ⟨unmatched, hunmatched, h⟩ := Py.of_bind h
  obtain ⟨-, -, h⟩ := Py.of_bind h
  obtain rfl := Except.ok.inj h
  exact ⟨afterAhead, afterFill, unmatched, hahead, hafterAhead, hremaining, hfill, hafterFill,
    hbehind, hunmatched, rfl⟩

/-- **A fill of a trade**: the order records it, or there is nothing to fill. -/
theorem tradeFill_cases {quantity : Decimal} {fills : List Fill} {working : Order}
    (h : tradeFill ctx r order price event quantity s = .ok (fills, working)) :
    (Decimal.ofNat 0 < quantity ∧ ∃ next,
        fill ctx r order quantity price (some event) s.fills.length = .ok next
        ∧ s.working.applyFill ctx (.decimal quantity) = .ok working ∧ fills = s.fills ++ [next])
      ∨ quantity ≤ Decimal.ofNat 0 ∧ working = s.working ∧ fills = s.fills := by
  unfold tradeFill at h
  by_cases hpos : Decimal.ofNat 0 < quantity
  · rw [if_pos hpos] at h
    obtain ⟨next, hnext, h⟩ := Py.of_bind h
    obtain ⟨filled, hfilled, h⟩ := Py.of_bind h
    obtain ⟨rfl, rfl⟩ := Prod.mk.inj (Except.ok.inj h)
    exact Or.inl ⟨hpos, next, hnext, hfilled, rfl⟩
  · rw [if_neg hpos] at h
    obtain ⟨rfl, rfl⟩ := Prod.mk.inj (Except.ok.inj h)
    exact Or.inr ⟨Decimal.not_lt.mp hpos, rfl, rfl⟩

/-- **A trade** goes where the law says, and fills the order with what the law gives it. -/
theorem trade_spec (hkeeps : ctx.Keeps unit bound) (hs : OnGrid unit bound order s)
    (hq : event.fields.quantity.IsUnits unit bound)
    (h : trade ctx r order price event s = .ok s') :
    OnGrid unit bound order s' ∧ position s' = (position s).trade event.fields.quantity.val
      ∧ (∃ t, s'.transitions = s.transitions ++ [t]
        ∧ passageOf t = (position s).passage event.fields.quantity.val)
      ∧ s'.fills.map (·.fields.quantity.val) = s.fills.map (·.fields.quantity.val)
        ++ [((position s).passage event.fields.quantity.val).fill].filter (0 < ·) := by
  obtain ⟨afterAhead, afterFill, unmatched, hahead, hafterAhead, hremaining, hfill, hafterFill,
    hbehind, hunmatched, htransitions⟩ := trade_eq_ok h
  obtain ⟨haheadVal, haheadUnits⟩ := hkeeps.of_sub hs.ahead (hs.ahead.min' hq)
    (by rw [Decimal.val_min']; exact min_le_left _ _) hahead
  obtain ⟨hafterAheadVal, hafterAheadUnits⟩ := hkeeps.of_sub hq (hs.ahead.min' hq)
    (by rw [Decimal.val_min']; exact min_le_right _ _) hafterAhead
  have hfillUnits := hs.remaining.min' hafterAheadUnits
  obtain ⟨hremainingVal, hremainingUnits⟩ := hkeeps.of_sub hs.remaining hfillUnits
    (by rw [Decimal.val_min']; exact min_le_left _ _) hremaining
  obtain ⟨hafterFillVal, hafterFillUnits⟩ := hkeeps.of_sub hafterAheadUnits hfillUnits
    (by rw [Decimal.val_min']; exact min_le_right _ _) hafterFill
  obtain ⟨hbehindVal, hbehindUnits⟩ := hkeeps.of_sub hs.behind (hs.behind.min' hafterFillUnits)
    (by rw [Decimal.val_min']; exact min_le_left _ _) hbehind
  obtain ⟨hunmatchedVal, -⟩ := hkeeps.of_sub hafterFillUnits (hs.behind.min' hafterFillUnits)
    (by rw [Decimal.val_min']; exact min_le_right _ _) hunmatched
  rw [Decimal.val_min'] at haheadVal hafterAheadVal hremainingVal hafterFillVal hbehindVal
  rw [Decimal.val_min'] at hunmatchedVal
  have hroom : s'.ahead.val + s'.behind.val ≤ bound * 10 ^ unit := by
    have hless : s'.ahead.val ≤ s.ahead.val := by
      rw [haheadVal]
      exact sub_le_self _ (le_min hs.ahead.nonneg hq.nonneg)
    have hless' : s'.behind.val ≤ s.behind.val := by
      rw [hbehindVal]
      exact sub_le_self _ (le_min hs.behind.nonneg hafterFillUnits.nonneg)
    have hbound := hs.room
    linarith
  have hpassage : passageOf ⟨event.fields.sequence, event.fields.quantity, s.ahead,
      s.ahead.min' event.fields.quantity, s.remaining.min' afterAhead, s.behind.min' afterFill,
      unmatched, s'.ahead, s'.behind⟩ = (position s).passage event.fields.quantity.val := by
    simp only [passageOf, QueueLaw.Position.passage, position, Decimal.val_min', haheadVal,
      hafterAheadVal, hafterFillVal, hbehindVal, hunmatchedVal]
  have hfillVal : (s.remaining.min' afterAhead).val
      = ((position s).passage event.fields.quantity.val).fill := by
    rw [← hpassage]
    rfl
  have hposition : position s' = (position s).trade event.fields.quantity.val := by
    unfold QueueLaw.Position.trade
    rw [← hfillVal, ← hpassage]
    simp only [position, passageOf, hremainingVal, Decimal.val_min']
  rcases tradeFill_cases hfill with ⟨hpos, next, hnext, hworking, hfills⟩ |
    ⟨hnone, hworking, hfills⟩
  · -- the order is filled
    have hle : (s.remaining.min' afterAhead).val ≤ s.working.left := by
      rw [hs.left, Decimal.val_min']
      exact min_le_left _ _
    obtain ⟨-, hfilledUnits, hsame, hleft⟩ :=
      Order.applyFill_units hkeeps hs.quantity hs.filled hfillUnits hle hworking
    have hquantity := (fill_facts hnext).1
    rw [Decimal.lt_def, Decimal.val_ofNat, Nat.cast_zero, hfillVal] at hpos
    refine ⟨⟨haheadUnits, hbehindUnits, hremainingUnits, hroom, hsame ▸ hs.quantity, hfilledUnits,
      ?_, ?_⟩, hposition, ⟨_, htransitions, hpassage⟩, ?_⟩
    · rw [hleft, hs.left, hremainingVal, Decimal.val_min']
    · have htotal := hs.total
      unfold filledTotal at htotal ⊢
      rw [hfills, List.map_append, List.sum_append, List.map_singleton, List.sum_singleton,
        hquantity, hremainingVal, Decimal.val_min']
      linarith
    · rw [hfills, List.map_append, List.map_singleton, hquantity, hfillVal,
        List.filter_singleton]
      simp [hpos]
  · -- nothing is left of the trade for the order
    rw [Decimal.le_def, Decimal.val_ofNat, Nat.cast_zero, hfillVal] at hnone
    have hzero : s'.remaining.val = s.remaining.val := by
      have hfillNonneg := QueueLaw.fill_nonneg hs.valid event.fields.quantity.val
      rw [← Decimal.val_min', hfillVal] at hremainingVal
      linarith
    refine ⟨⟨haheadUnits, hbehindUnits, hremainingUnits, hroom, ?_, ?_, ?_, ?_⟩, hposition,
      ⟨_, htransitions, hpassage⟩, ?_⟩
    · rw [hworking]
      exact hs.quantity
    · rw [hworking]
      exact hs.filled
    · rw [hworking, hs.left, hzero]
    · rw [hfills, hzero]
      exact hs.total
    · rw [hfills, List.filter_singleton]
      simp [not_lt.mpr hnone]

/-! ### The loop -/

omit [Hashlib] in
theorem queueEvents_cons (order : Order) (price : Decimal) (event : L4BookEvent)
    (events : List L4BookEvent) :
    queueEvents order price (event :: events) = if AtPrice order price event
      then queueEvent event :: queueEvents order price events else queueEvents order price events := by
  unfold queueEvents
  rw [List.filter_cons]
  by_cases hat : AtPrice order price event
  · simp [hat]
  · simp [hat]

theorem restingLoop_spec (hkeeps : ctx.Keeps unit bound) (hs : OnGrid unit bound order s)
    (hevents : ∀ event ∈ events, AtPrice order price event →
      event.fields.quantity.IsUnits unit bound)
    (h : restingLoop ctx r order price events s = .ok s') :
    OnGrid unit bound order s'
      ∧ position s' = QueueLaw.run (queueEvents order price events) (position s)
      ∧ (∃ ts, s'.transitions = s.transitions ++ ts
        ∧ ts.map passageOf = QueueLaw.passages (queueEvents order price events) (position s))
      ∧ s'.fills.map (·.fields.quantity.val) = s.fills.map (·.fields.quantity.val)
        ++ ((QueueLaw.passages (queueEvents order price events) (position s)).map
          (·.fill)).filter (0 < ·) := by
  induction events generalizing s with
  | nil =>
    obtain rfl := Except.ok.inj h
    exact ⟨hs, rfl, ⟨[], (List.append_nil _).symm, rfl⟩, (List.append_nil _).symm⟩
  | cons event rest ih =>
    rw [List.forall_mem_cons] at hevents
    rw [restingLoop] at h
    rw [queueEvents_cons]
    by_cases hat : AtPrice order price event
    swap
    · -- the event is not at the price of the order
      rw [if_pos (by unfold AtPrice at hat; tauto)] at h
      rw [if_neg hat]
      exact ih hs hevents.2 h
    have hunits := hevents.1 hat
    rw [if_neg (by unfold AtPrice at hat; tauto)] at h
    rw [if_pos hat]
    cases hkind : event.fields.kind with
    | SET_DEPTH =>
      rw [hkind] at h
      obtain ⟨s₁, hstep, h⟩ := Py.of_bind h
      obtain ⟨hs₁, hposition, hfills, htransitions⟩ := setDepth_spec hkeeps hs hunits hstep
      have hrest := ih hs₁ hevents.2 h
      rw [hposition, hfills, htransitions] at hrest
      simpa only [queueEvent, hkind, QueueLaw.run, QueueLaw.passages] using hrest
    | TRADE =>
      rw [hkind] at h
      obtain ⟨s₁, hstep, h⟩ := Py.of_bind h
      obtain ⟨hs₁, hposition, ⟨t, htransitions, hpassage⟩, hfills⟩ :=
        trade_spec hkeeps hs hunits hstep
      have hleft : s₁.remaining.val
          = ((position s).trade event.fields.quantity.val).left := by
        rw [← hposition]
        rfl
      simp only [queueEvent, hkind, QueueLaw.run, QueueLaw.passages]
      by_cases hdone : s₁.remaining.numEq (Decimal.ofNat 0)
      · -- the order is filled, and leaves the queue
        rw [if_pos hdone] at h
        obtain rfl := Except.ok.inj h
        rw [Decimal.numEq_zero_iff, hleft] at hdone
        rw [if_pos hdone, if_pos hdone]
        exact ⟨hs₁, hposition, ⟨[t], htransitions, by rw [List.map_singleton, hpassage]⟩,
          by rw [hfills, List.map_singleton]⟩
      · rw [if_neg hdone] at h
        rw [Decimal.numEq_zero_iff, hleft] at hdone
        rw [if_neg hdone, if_neg hdone]
        obtain ⟨hs', hrun, ⟨ts, hts, hpassages⟩, hrest⟩ := ih hs₁ hevents.2 h
        rw [hposition] at hrun hpassages hrest
        refine ⟨hs', hrun, ⟨t :: ts, ?_, ?_⟩, ?_⟩
        · rw [hts, htransitions, List.append_assoc, List.singleton_append]
        · rw [List.map_cons, hpassage, hpassages]
        · rw [hrest, hfills, List.append_assoc, List.map_cons, ← List.filter_append]
          rfl

/-- Having come through all events, the loop has come through the first of them; it goes on with the
others unless it is done. -/
theorem restingLoop_append {later : List L4BookEvent} {s'' : Resting}
    (h : restingLoop ctx r order price (events ++ later) s = .ok s'') :
    ∃ s', restingLoop ctx r order price events s = .ok s'
      ∧ (s'' = s' ∨ restingLoop ctx r order price later s' = .ok s'') := by
  induction events generalizing s with
  | nil => exact ⟨s, rfl, Or.inr h⟩
  | cons event rest ih =>
    rw [List.cons_append, restingLoop] at h
    rw [restingLoop]
    by_cases helse : event.fields.side ≠ restingSide order.fields.direction
        ∨ ¬ event.fields.price.numEq price
    · rw [if_pos helse] at h ⊢
      exact ih h
    rw [if_neg helse] at h ⊢
    cases hkind : event.fields.kind with
    | SET_DEPTH =>
      rw [hkind] at h
      obtain ⟨s₁, hstep, h⟩ := Py.of_bind h
      obtain ⟨s', hloop, hrest⟩ := ih h
      exact ⟨s', by simp only [hstep, Py.ok_bind, hloop], hrest⟩
    | TRADE =>
      rw [hkind] at h
      obtain ⟨s₁, hstep, h⟩ := Py.of_bind h
      by_cases hdone : s₁.remaining.numEq (Decimal.ofNat 0)
      · rw [if_pos hdone] at h
        obtain rfl := Except.ok.inj h
        exact ⟨s₁, by simp only [hstep, Py.ok_bind, if_pos hdone], Or.inl rfl⟩
      · rw [if_neg hdone] at h
        obtain ⟨s', hloop, hrest⟩ := ih h
        exact ⟨s', by simp only [hstep, Py.ok_bind, if_neg hdone, hloop], hrest⟩

/-! ### The whole execution -/

/-- The loop before its first event. -/
def atRest (r : OrderBookReplay) (order : Order) (price remaining : Decimal) : Resting :=
  { ahead := displayedAhead r order price, remaining, working := order }

/-- The loop after the first `n` events. -/
def restingAfter (ctx : DecimalContext) (r : OrderBookReplay) (order : Order) (price : Decimal)
    (n : ℕ) : Py Resting := do
  let remaining ← ctx.sub order.fields.quantity order.fields.filledQuantity
  restingLoop ctx r order price (r.fields.events.take n) (atRest r order price remaining)

/-- Where the order comes to rest: behind what is displayed, before anything else. -/
def restingPlace (r : OrderBookReplay) (order : Order) (price : Decimal) : QueueLaw.Position ℚ :=
  ⟨(displayedAhead r order price).val, 0, order.left⟩

/-- The quantities of the order, of the depth displayed at its price and of the events there. -/
def restingQuantities (r : OrderBookReplay) (order : Order) (price : Decimal) : List Decimal :=
  order.fields.quantity :: order.fields.filledQuantity :: displayedAhead r order price
    :: (r.fields.events.filter (AtPrice order price)).map (·.fields.quantity)

/-- **The law of a resting order**: what the result of a replay says, and what the loop has done
after each of its events. -/
structure RestingLaw (ctx : DecimalContext) (r : OrderBookReplay) (order : Order) (price : Decimal)
    (res : L4ReplayResult) : Prop where
  transitions : res.queueTransitions.map passageOf
    = QueueLaw.passages (queueEvents order price r.fields.events) (restingPlace r order price)
  fills : res.fills.map (·.fields.quantity.val)
    = ((QueueLaw.passages (queueEvents order price r.fields.events)
      (restingPlace r order price)).map (·.fill)).filter (0 < ·)
  remaining : res.remainingQuantity.val
    = (QueueLaw.run (queueEvents order price r.fields.events) (restingPlace r order price)).left
  recorded : filledTotal res.fills = order.left - res.remainingQuantity.val
    ∧ res.order.left = res.remainingQuantity.val
  /-- After each event the queue is where the law says. -/
  states : ∀ n, ∃ s, restingAfter ctx r order price n = .ok s ∧ position s
    = QueueLaw.run (queueEvents order price (r.fields.events.take n)) (restingPlace r order price)
  aheadFalls : ∀ m n s s', m ≤ n → restingAfter ctx r order price m = .ok s →
    restingAfter ctx r order price n = .ok s' → s'.ahead ≤ s.ahead
  total : filledTotal res.fills ≤ min order.left ((QueueLaw.passages
    (queueEvents order price r.fields.events) (restingPlace r order price)).map (·.quantity)).sum
  /-- An order that stands further ahead has got as much, after each event. -/
  nearer : ∀ r' : OrderBookReplay, r'.fields.events = r.fields.events →
    displayedAhead r order price ≤ displayedAhead r' order price →
    ctx.OneGrid (restingQuantities r' order price) →
    ∀ n s s', restingAfter ctx r order price n = .ok s →
      restingAfter ctx r' order price n = .ok s' → filledTotal s'.fills ≤ filledTotal s.fills

omit [Hashlib] in
theorem queueEvents_nonneg (order : Order) (price : Decimal) (events : List L4BookEvent) :
    ∀ e ∈ queueEvents order price events, 0 ≤ e.quantity := by
  intro e he
  obtain ⟨event, -, rfl⟩ := List.mem_map.mp he
  have h : event.fields.postInit = .ok () := event.valid
  simp only [L4BookEventFields.postInit, checkBookDecimal, require_bind_eq_ok, require_eq_ok,
    Decimal.le_def, Decimal.val_ofNat, Nat.cast_zero] at h
  unfold queueEvent
  cases event.fields.kind with
  | SET_DEPTH => exact h.2.2.1
  | TRADE => exact h.2.2.1

omit [Hashlib] in
theorem valid_restingPlace (r : OrderBookReplay) (order : Order) (price : Decimal)
    (hahead : 0 ≤ (displayedAhead r order price).val) : (restingPlace r order price).Valid :=
  ⟨hahead, le_rfl, order.left_nonneg⟩

/-- **After each event** the loop is where the law says. -/
theorem restingAfter_spec (hgrid : ctx.OneGrid (restingQuantities r order price)) {n : ℕ}
    (h : restingAfter ctx r order price n = .ok s) :
    (restingPlace r order price).Valid
      ∧ position s = QueueLaw.run (queueEvents order price (r.fields.events.take n))
        (restingPlace r order price)
      ∧ s.transitions.map passageOf = QueueLaw.passages
        (queueEvents order price (r.fields.events.take n)) (restingPlace r order price)
      ∧ s.fills.map (·.fields.quantity.val) = ((QueueLaw.passages
        (queueEvents order price (r.fields.events.take n)) (restingPlace r order price)).map
          (·.fill)).filter (0 < ·)
      ∧ filledTotal s.fills = order.left - s.remaining.val ∧ s.working.left = s.remaining.val := by
  obtain ⟨unit, bound, hkeeps, hunits⟩ := hgrid
  unfold restingQuantities at hunits
  rw [List.forall_mem_cons, List.forall_mem_cons, List.forall_mem_cons,
    List.forall_mem_map] at hunits
  obtain ⟨hquantity, hfilled, hahead, hevents⟩ := hunits
  obtain ⟨remaining, hsub, h⟩ := Py.of_bind h
  obtain ⟨hremaining, hremainingUnits⟩ := Order.sub_units hkeeps hquantity hfilled hsub
  have hstart : OnGrid unit bound order (atRest r order price remaining) := by
    refine ⟨hahead, Decimal.isUnits_zero, hremainingUnits, ?_, hquantity, hfilled,
      hremaining.symm, ?_⟩
    · show (displayedAhead r order price).val + (Decimal.ofNat 0).val ≤ _
      rw [Decimal.val_ofNat, Nat.cast_zero, add_zero]
      exact hahead.le
    · show (0 : ℚ) + remaining.val = _
      rw [hremaining, zero_add]
  have hplace : position (atRest r order price remaining) = restingPlace r order price := by
    simp [position, atRest, restingPlace, hremaining]
  have htake : ∀ event ∈ r.fields.events.take n, AtPrice order price event →
      event.fields.quantity.IsUnits unit bound := by
    intro event hevent hat
    exact hevents event (List.mem_filter.mpr ⟨List.mem_of_mem_take hevent, by simpa using hat⟩)
  obtain ⟨hs, hrun, ⟨ts, hts, hpassages⟩, hfills⟩ := restingLoop_spec hkeeps hstart htake h
  rw [hplace] at hrun hpassages hfills
  have hts : s.transitions = ts := hts
  refine ⟨valid_restingPlace r order price hahead.nonneg, hrun, by rw [hts, hpassages], hfills, ?_,
    hs.left⟩
  have htotal := hs.total
  linarith

/-- What an execution that returned says of its loop. -/
theorem executeResting_eq_ok {res : L4ReplayResult} (h : executeResting ctx r order = .ok res) :
    ∃ price s, order.fields.limitPrice = some price
      ∧ restingAfter ctx r order price r.fields.events.length = .ok s
      ∧ res.order = s.working ∧ res.fills = s.fills ∧ res.remainingQuantity = s.remaining
      ∧ res.queueTransitions = s.transitions := by
  unfold executeResting at h
  obtain ⟨-, h⟩ := of_require h
  rcases hlimit : order.fields.limitPrice with _ | price
  · rw [hlimit] at h
    cases h
  rw [hlimit] at h
  obtain ⟨remaining, hsub, h⟩ := Py.of_bind h
  obtain ⟨s, hloop, h⟩ := Py.of_bind h
  obtain ⟨consumed, -, h⟩ := Py.of_bind h
  obtain ⟨horder, hfills, -, -, hremaining, hqueue⟩ := result_facts h
  refine ⟨price, s, rfl, ?_, horder, hfills, hremaining, hqueue⟩
  rw [restingAfter, hsub, Py.ok_bind, List.take_length]
  exact hloop

/-- The loop comes through the first events. -/
theorem restingAfter_of_le {m n : ℕ} (hle : m ≤ n) {s'' : Resting}
    (h : restingAfter ctx r order price n = .ok s'') :
    ∃ s', restingAfter ctx r order price m = .ok s' := by
  obtain ⟨remaining, hsub, h⟩ := Py.of_bind h
  rw [← Nat.add_sub_cancel' hle, List.take_add] at h
  obtain ⟨s', hloop, -⟩ := restingLoop_append h
  exact ⟨s', by rw [restingAfter, hsub, Py.ok_bind, hloop]⟩

/-- **A resting order follows the law of its queue**, on quantities of one grid. -/
theorem restingLaw_of_oneGrid {res : L4ReplayResult}
    (hgrid : ∀ price ∈ order.fields.limitPrice, ctx.OneGrid (restingQuantities r order price))
    (h : executeResting ctx r order = .ok res) :
    ∃ price ∈ order.fields.limitPrice, RestingLaw ctx r order price res := by
  obtain ⟨price, s, hlimit, hloop, horder, hfills, hremaining, hqueue⟩ := executeResting_eq_ok h
  have hgrid := hgrid price hlimit
  obtain ⟨hvalid, hrun, hpassages, hfilled, htotal, hleft⟩ := restingAfter_spec hgrid hloop
  rw [List.take_length] at hrun hpassages hfilled
  have hnonneg := queueEvents_nonneg order price r.fields.events
  have hleftRun : s.remaining.val = (QueueLaw.run (queueEvents order price r.fields.events)
      (restingPlace r order price)).left := by
    rw [← hrun]
    rfl
  refine ⟨price, hlimit, ?_⟩
  constructor
  case transitions => rw [hqueue, hpassages]
  case fills => rw [hfills, hfilled]
  case remaining => rw [hremaining, hleftRun]
  case recorded =>
    rw [hfills, hremaining, horder]
    exact ⟨htotal, hleft⟩
  case states =>
    intro n
    have hafter : ∃ s', restingAfter ctx r order price n = .ok s' := by
      by_cases hn : n ≤ r.fields.events.length
      · exact restingAfter_of_le hn hloop
      · refine ⟨s, ?_⟩
        rw [restingAfter, List.take_of_length_le (not_le.mp hn).le]
        rw [restingAfter, List.take_length] at hloop
        exact hloop
    obtain ⟨s', hs'⟩ := hafter
    exact ⟨s', hs', (restingAfter_spec hgrid hs').2.1⟩
  case aheadFalls =>
    intro m n s₁ s₂ hle h₁ h₂
    have hahead₁ := congrArg QueueLaw.Position.ahead (restingAfter_spec hgrid h₁).2.1
    have hahead₂ := congrArg QueueLaw.Position.ahead (restingAfter_spec hgrid h₂).2.1
    rw [← Nat.add_sub_cancel' hle, List.take_add, queueEvents, List.filter_append,
      List.map_append] at hahead₂
    rw [Decimal.le_def]
    calc s₂.ahead.val = _ := hahead₂
      _ ≤ _ := QueueLaw.ahead_run_append_le hvalid (queueEvents_nonneg order price _)
          (queueEvents_nonneg order price _)
      _ = s₁.ahead.val := hahead₁.symm
  case total =>
    rw [hfills, htotal, hleftRun]
    exact QueueLaw.filled_le hvalid hnonneg
  case nearer =>
    intro r' hevents hnearer hgrid' n s₁ s₂ h₁ h₂
    obtain ⟨-, hrun₁, -, -, htotal₁, -⟩ := restingAfter_spec hgrid h₁
    obtain ⟨hvalid', hrun₂, -, -, htotal₂, -⟩ := restingAfter_spec hgrid' h₂
    rw [hevents] at hrun₂
    have hmono := QueueLaw.left_run_mono hvalid hvalid' ((Decimal.le_def _ _).mp hnearer) le_rfl
      (queueEvents_nonneg order price (r.fields.events.take n))
    rw [← hrun₁, ← hrun₂] at hmono
    rw [htotal₁, htotal₂]
    exact sub_le_sub_left hmono _

end

/-- The time of a sample. -/
def sampleTime : RecordedAt := ⟨.of 2026 7 13 (Eq.refl true), 9, 0, 0, 0⟩

/-- One lot displayed at the bid of 100, and a trade of two lots there. -/
def oneTrade : OrderBookReplay :=
  ⟨{ snapshot := ⟨⟨0, sampleTime, [.lotAt100], [], "sample"⟩, by decide +kernel⟩
     events := [⟨⟨1, sampleTime, .TRADE, .BID, Decimal.ofNat 100, Decimal.ofNat 2⟩, by decide⟩]
     config := .defaults }, by decide +kernel⟩

/-- A displayed quantity of 29 digits, a larger depth, and a smaller one. -/
def longDepth : OrderBookReplay :=
  ⟨{ snapshot := ⟨⟨0, sampleTime, [⟨⟨Decimal.ofNat 100, Decimal.ofNat (10 ^ 28 + 6)⟩, by decide⟩],
        [], "sample"⟩, by decide +kernel⟩
     events := [
        ⟨⟨1, sampleTime, .SET_DEPTH, .BID, Decimal.ofNat 100, Decimal.ofNat (10 ^ 28 + 1000)⟩,
          by decide⟩,
        ⟨⟨2, sampleTime, .SET_DEPTH, .BID, Decimal.ofNat 100, Decimal.ofNat (10 ^ 28 + 900)⟩,
          by decide⟩]
     config := .defaults }, by decide +kernel⟩

theorem oneGrid_oneTrade :
    defaultContext.OneGrid (restingQuantities oneTrade .limitAt100 (Decimal.ofNat 100)) := by
  refine ⟨0, 2, DecimalContext.keeps_default (by decide) (by decide) (by decide), ?_⟩
  have hquantities : restingQuantities oneTrade .limitAt100 (Decimal.ofNat 100)
      = [Decimal.ofNat 1, Decimal.ofNat 0, Decimal.ofNat 1, Decimal.ofNat 2] := by
    decide +kernel
  rw [hquantities]
  intro d hd
  rcases (by simpa using hd : d = Decimal.ofNat 1 ∨ d = Decimal.ofNat 0 ∨ d = Decimal.ofNat 1
    ∨ d = Decimal.ofNat 2) with rfl | rfl | rfl | rfl
  · exact Decimal.isUnits_ofNat (by decide)
  · exact Decimal.isUnits_ofNat (by decide)
  · exact Decimal.isUnits_ofNat (by decide)
  · exact Decimal.isUnits_ofNat (by decide)

/-- A lot is ahead, and the second one of the trade fills the order. -/
theorem restingLaw_oneTrade :
    ∃ res, executeResting defaultContext oneTrade .limitAt100 = .ok res
      ∧ ∃ price ∈ Order.limitAt100.fields.limitPrice,
        RestingLaw defaultContext oneTrade .limitAt100 price res := by
  have hok : (executeResting defaultContext oneTrade .limitAt100).toOption.isSome = true := by
    decide +kernel
  rcases hrun : executeResting defaultContext oneTrade .limitAt100 with e | res
  · rw [hrun] at hok
    cases hok
  · refine ⟨res, rfl, restingLaw_of_oneGrid ?_ hrun⟩
    rintro price ⟨⟩
    exact oneGrid_oneTrade

/-- What is ahead grows by four, when a queue of 29 digits is rounded. -/
theorem ahead_rounded :
    ¬ ∀ (r : OrderBookReplay) (order : Order) (res : L4ReplayResult),
      executeResting defaultContext r order = .ok res →
      ∃ price ∈ order.fields.limitPrice, RestingLaw defaultContext r order price res := by
  intro h
  have hok : (executeResting defaultContext longDepth .limitAt100).toOption.isSome = true := by
    decide +kernel
  have hahead : (restingAfter defaultContext longDepth .limitAt100 (Decimal.ofNat 100) 1).toOption.map
        (·.ahead.val) = some (10 ^ 28 + 6)
      ∧ (restingAfter defaultContext longDepth .limitAt100 (Decimal.ofNat 100) 2).toOption.map
        (·.ahead.val) = some (10 ^ 28 + 10) := by
    decide +kernel
  rcases hrun : executeResting defaultContext longDepth .limitAt100 with e | res
  · rw [hrun] at hok
    cases hok
  obtain ⟨price, hprice, hlaw⟩ := h longDepth .limitAt100 res hrun
  obtain rfl : Decimal.ofNat 100 = price := Option.some.inj hprice
  obtain ⟨s₁, hs₁, -⟩ := hlaw.states 1
  obtain ⟨s₂, hs₂, -⟩ := hlaw.states 2
  have hfalls := hlaw.aheadFalls 1 2 s₁ s₂ (by decide) hs₁ hs₂
  rw [hs₁, hs₂] at hahead
  have h₁ : s₁.ahead.val = 10 ^ 28 + 6 := Option.some.inj hahead.1
  have h₂ : s₂.ahead.val = 10 ^ 28 + 10 := Option.some.inj hahead.2
  rw [Decimal.le_def, h₁, h₂] at hfalls
  norm_num at hfalls

end OrderBookReplay

end FuturesAgentOs
