import FuturesAgentOs.ExecutionSimulation.TickForesight

namespace FuturesAgentOs

open PyModel

/-!
# The price and time of tick fills

What holds of every fill of a tick replay, whatever the order, the slippage, the latency and the
stream.

* `PriceTimeLaw`, `priceTimeLaw_of_replay` — the law of a result.
-/

namespace TickReplay

open OrderBookReplay (filledTotal)

variable {ctx : DecimalContext}

/-- One tick comes before another. -/
structure Precedes (tick later : Tick) : Prop where
  sequence : tick.fields.sequence < later.fields.sequence
  timestamp : tick.fields.timestamp ≤ later.fields.timestamp

theorem Precedes.trans {a b c : Tick} (h : Precedes a b) (h' : Precedes b c) : Precedes a c := by
  refine ⟨h.sequence.trans h'.sequence, ?_⟩
  have hab := RecordedAt.le_def.mp h.timestamp
  have hbc := RecordedAt.le_def.mp h'.timestamp
  rw [RecordedAt.le_def]
  omega

theorem isChain_of_validateTicks {maxStep : Option Decimal} {ticks : List Tick} {previous : Tick}
    (h : validateTicks ctx maxStep previous ticks = .ok ()) :
    List.IsChain Precedes (previous :: ticks) := by
  induction ticks generalizing previous with
  | nil => exact List.IsChain.singleton previous
  | cons tick rest ih =>
    rw [validateTicks] at h
    obtain ⟨hsequence, h⟩ := of_require h
    obtain ⟨-, h⟩ := of_require h
    obtain ⟨htime, h⟩ := of_require h
    obtain ⟨-, -, h⟩ := Py.of_bind h
    exact List.IsChain.cons_cons ⟨hsequence, htime⟩ (ih h)

/-- **A validated stream is in order.** -/
theorem ordered (r : TickReplay ctx) : r.fields.ticks.Pairwise Precedes := by
  have h : r.fields.postInit = .ok () := r.valid
  unfold TickReplayFields.postInit at h
  rcases hticks : r.fields.ticks with _ | ⟨first, rest⟩
  · exact List.Pairwise.nil
  · rw [hticks] at h
    obtain ⟨-, -, h⟩ := Py.of_bind h
    have hchain := isChain_of_validateTicks h
    have : IsTrans Tick Precedes := ⟨fun _ _ _ => Precedes.trans⟩
    exact List.isChain_iff_pairwise.mp hchain

/-- The tick triggers the stop of an order that has arrived. -/
def Releases (config : TickReplayConfig ctx) (order : Order) (tick : Tick) : Prop :=
  IsActive config order tick ∧ triggers order tick = true

section

variable [Hashlib] {config : TickReplayConfig ctx} {order : Order} {orderType : FillOrderType}
  {ticks : List Tick} {moment : ℤ} {s s' : Replaying}

theorem replayLoop_triggered (hmoment : activation config order = .ok moment)
    (hready : s.watch.triggered = true)
    (h : replayLoop config order .STOP moment ticks s = .ok s') :
    s'.watch.triggerSequence = s.watch.triggerSequence := by
  induction ticks generalizing s with
  | nil =>
    obtain rfl := Except.ok.inj h
    rfl
  | cons tick rest ih =>
    have hlook : ∀ {watch base}, look order .STOP moment tick s.watch = (watch, base) →
        watch.triggered = true ∧ watch.triggerSequence = s.watch.triggerSequence := by
      intro watch base hlook
      rcases look_cases hmoment hlook with ⟨-, rfl, -⟩ | ⟨-, -, hwaits, -⟩ |
        ⟨-, -, hready', hsame, -⟩
      · exact ⟨hready, rfl⟩
      · rw [hready] at hwaits
        cases hwaits
      · exact ⟨hready' rfl, hsame⟩
    rcases replayLoop_cons_eq_ok hmoment h with ⟨watch, hstep, h⟩ |
      ⟨watch, base, s₁, hstep, hprice, hfill, hrest⟩
    · obtain ⟨htriggered, hsequence⟩ := hlook hstep
      exact (ih (s := { s with watch }) htriggered h).trans hsequence
    · obtain ⟨htriggered, hsequence⟩ := hlook hstep
      obtain ⟨-, -, -, -, -, -, hwatch⟩ := fillTick_eq_ok hprice hfill
      rcases hrest with ⟨-, rfl⟩ | ⟨-, hloop⟩
      · rw [hwatch]
        exact hsequence
      · rw [ih (by rw [hwatch]; exact htriggered) hloop, hwatch]
        exact hsequence

/-- **A stop that waits** goes on waiting, or is released by the first tick that releases it; what
it fills comes after. -/
theorem replayLoop_stop (hmoment : activation config order = .ok moment)
    (hwaits : s.watch.triggered = false)
    (h : replayLoop config order .STOP moment ticks s = .ok s') :
    s'.fills = s.fills
      ∨ ∃ before trigger after new used, ticks = before ++ trigger :: after
        ∧ (∀ tick ∈ before, ¬ Releases config order tick) ∧ Releases config order trigger
        ∧ s'.watch.triggerSequence = some trigger.fields.sequence
        ∧ s'.fills = s.fills ++ new ∧ used.Sublist after
        ∧ List.Forall₂ (IsFillOf config order .STOP) used new := by
  induction ticks generalizing s with
  | nil =>
    obtain rfl := Except.ok.inj h
    exact Or.inl rfl
  | cons tick rest ih =>
    rcases replayLoop_cons_eq_ok hmoment h with ⟨watch, hlook, h⟩ |
      ⟨watch, base, s₁, hlook, hprice, hfill, -⟩
    · -- nothing is filled while the stop waits, so the tick releases it or not
      have hstep : Releases config order tick ∧ watch.triggered = true
            ∧ watch.triggerSequence = some tick.fields.sequence
          ∨ ¬ Releases config order tick ∧ watch.triggered = false := by
        rcases look_cases hmoment hlook with ⟨hinactive, rfl, -⟩ |
          ⟨hactive, -, -, htriggered, -, hsequence⟩ | ⟨-, hready, -⟩
        · exact Or.inr ⟨fun hrelease => hinactive hrelease.1, hwaits⟩
        · by_cases htrigger : triggers order tick = true
          · rw [if_pos htrigger] at hsequence
            exact Or.inl ⟨⟨hactive, htrigger⟩, htriggered.trans htrigger, hsequence⟩
          · exact Or.inr ⟨fun hrelease => htrigger hrelease.2,
              htriggered.trans (Bool.eq_false_of_not_eq_true htrigger)⟩
        · rw [hready rfl] at hwaits
          cases hwaits
      rcases hstep with ⟨hrelease, htriggered, hsequence⟩ | ⟨hno, hstill⟩
      · obtain ⟨new, used, hnew, hused, hfills⟩ := replayLoop_fills hmoment h
        refine Or.inr
          ⟨[], tick, rest, new, used, rfl, fun t ht => ?_, hrelease, ?_, hnew, ?_, hfills⟩
        · cases ht
        · exact (replayLoop_triggered hmoment (s := { s with watch }) htriggered h).trans hsequence
        · exact (hused.trans (usableFrom_sublist _ _)).trans List.filter_sublist
      · rcases ih (s := { s with watch }) hstill h with hsame |
          ⟨before, trigger, after, new, used, rfl, hbefore, hrest⟩
        · exact Or.inl hsame
        · refine Or.inr ⟨tick :: before, trigger, after, new, used, rfl, ?_, hrest⟩
          rw [List.forall_mem_cons]
          exact ⟨hno, hbefore⟩
    · -- a stop that waits takes nothing
      rcases look_spec hmoment hlook with ⟨hnone, -⟩ | ⟨_, -, -, -, hready, -⟩
      · cases hnone
      · rw [(hready rfl).1] at hwaits
        cases hwaits

theorem limit_of_isFillOf {tick : Tick} {f : Fill} (h : IsFillOf config order .LIMIT tick f)
    {limit : Decimal} (hlimit : order.fields.limitPrice = some limit) :
    if order.fields.direction = .LONG then f.fields.price ≤ limit else limit ≤ f.fields.price := by
  obtain ⟨base, index, -, hslipped, -⟩ := h
  rw [if_pos rfl, hlimit] at hslipped
  unfold slippedPrice at hslipped
  obtain ⟨bps, -, h⟩ := Py.of_bind hslipped
  obtain ⟨factor, -, h⟩ := Py.of_bind h
  obtain ⟨adjusted, -, h⟩ := Py.of_bind h
  have hprice := Except.ok.inj h
  by_cases hside : order.fields.direction = .LONG
  · simp only [if_pos hside] at hprice ⊢
    rw [← hprice, Decimal.le_def, Decimal.val_min']
    exact min_le_right _ _
  · simp only [if_neg hside] at hprice ⊢
    rw [← hprice, Decimal.le_def, Decimal.val_max']
    exact le_max_right _ _

end

/-- **The price and time law** of the result of a replay. -/
structure PriceTimeLaw [Hashlib] (r : TickReplay ctx) (order : Order) (orderType : FillOrderType)
    (res : TickReplayResult) : Prop where
  limit : orderType = .LIMIT → ∀ limit ∈ order.fields.limitPrice, ∀ f ∈ res.fills,
    if order.fields.direction = .LONG then f.fields.price ≤ limit else limit ≤ f.fields.price
  positive : ∀ f ∈ res.fills, 0 < f.fields.price.val
  time : ∀ f ∈ res.fills, arrival r.fields.config order ≤ f.fields.filledAt.micros
  stop : orderType = .STOP → res.fills ≠ [] →
    ∃ before trigger after used, r.fields.ticks = before ++ trigger :: after
      ∧ (∀ tick ∈ before, ¬ Releases r.fields.config order tick)
      ∧ Releases r.fields.config order trigger
      ∧ res.triggerSequence = some trigger.fields.sequence
      ∧ used.Sublist after ∧ (∀ tick ∈ used, Precedes trigger tick)
      ∧ List.Forall₂ (IsFillOf r.fields.config order orderType) used res.fills
  exactTime : ctx.Fits (r.fields.config.fields.latencyMs.mul (Decimal.ofNat 1000)) →
    ∀ f ∈ res.fills,
      (order.fields.createdAt.micros : ℚ) + r.fields.config.fields.latencyMs.val * 1000
        ≤ f.fields.filledAt.micros
  recorded : ctx.OneGrid (tickQuantities r order orderType) →
    filledTotal res.fills
      = res.order.fields.filledQuantity.val - order.fields.filledQuantity.val

section

variable [Hashlib] {r : TickReplay ctx} {order : Order} {orderType : FillOrderType}
  {res : TickReplayResult}

theorem isFillOf_of_mem (h : replay r order orderType = .ok res) {f : Fill} (hf : f ∈ res.fills) :
    ∃ tick, IsActive r.fields.config order tick
      ∧ IsFillOf r.fields.config order orderType tick f := by
  rcases replay_cases h with ⟨-, -, hnone, -⟩ | ⟨-, s, hs, -, hfills, -⟩
  · rw [hnone] at hf
    cases hf
  · obtain ⟨moment, remaining, hmoment, -, hloop⟩ := replayTicks_eq_ok hs
    obtain ⟨new, used, hnew, hused, hall⟩ := replayLoop_fills hmoment hloop
    have hsame : res.fills = new := by
      rw [hfills, hnew]
      rfl
    rw [hsame] at hf
    obtain ⟨i, hi, rfl⟩ := List.getElem_of_mem hf
    have hi' : i < used.length := hall.length_eq ▸ hi
    exact ⟨used[i], active_of_usable (hused.subset (List.getElem_mem hi')),
      List.Forall₂.get hall hi' hi⟩

omit [Hashlib] in
/-- The latency is kept when the context keeps its microseconds. -/
theorem arrival_of_fits {config : TickReplayConfig ctx}
    (h : ctx.Fits (config.fields.latencyMs.mul (Decimal.ofNat 1000))) (order : Order) :
    arrival config order
      = order.fields.createdAt.micros + config.fields.latencyMs.val * 1000 := by
  have hvalid : config.fields.postInit = .ok () := config.valid
  unfold TickReplayConfigFields.postInit at hvalid
  obtain ⟨-, hvalid⟩ := of_require hvalid
  obtain ⟨hnonneg, -⟩ := of_require hvalid
  rw [Decimal.le_def, Decimal.val_ofNat, Nat.cast_zero] at hnonneg
  rw [DecimalContext.Fits, Decimal.val_mul, Decimal.val_ofNat] at h
  have hmicros : ¬ config.fields.latencyMs.val * 1000 < 0 :=
    not_lt.mpr (mul_nonneg hnonneg (by norm_num))
  rw [arrival, DecimalContext.round, if_neg hmicros]
  exact congrArg _ h

/-- **The price and time law holds of every replay.** -/
theorem priceTimeLaw_of_replay (h : replay r order orderType = .ok res) :
    PriceTimeLaw r order orderType res := by
  have htime : ∀ f ∈ res.fills, arrival r.fields.config order ≤ f.fields.filledAt.micros := by
    intro f hf
    obtain ⟨tick, hactive, _, _, -, -, hfill⟩ := isFillOf_of_mem h hf
    rw [(fill_facts hfill).2.2]
    exact hactive
  refine ⟨?_, fun f _ => ?_, htime, ?_, fun hfits f hf => ?_, fun hgrid => ?_⟩
  · rintro rfl limit hlimit f hf
    obtain ⟨tick, -, hfill⟩ := isFillOf_of_mem h hf
    exact limit_of_isFillOf hfill hlimit
  · have hpos := f.price_pos
    rwa [Decimal.lt_def, Decimal.val_ofNat, Nat.cast_zero] at hpos
  · rintro rfl hsome
    rcases replay_cases h with ⟨-, -, hnone, -⟩ | ⟨-, s, hs, -, hfills, hsequence⟩
    · exact absurd hnone hsome
    obtain ⟨moment, remaining, hmoment, -, hloop⟩ := replayTicks_eq_ok hs
    rcases replayLoop_stop hmoment rfl hloop with hsame |
      ⟨before, trigger, after, new, used, hticks, hbefore, hrelease, htrigger, hnew, hused, hall⟩
    · exact absurd (hfills.trans hsame) hsome
    · have hordered := ordered r
      rw [hticks, List.pairwise_append, List.pairwise_cons] at hordered
      refine ⟨before, trigger, after, used, hticks, hbefore, hrelease, hsequence.trans htrigger,
        hused, fun tick htick => hordered.2.1.1 tick (hused.subset htick), ?_⟩
      rw [hfills, hnew]
      exact hall
  · rw [← arrival_of_fits hfits]
    exact htime f hf
  · rcases replay_cases h with ⟨-, horder, hnone, -⟩ | ⟨-, s, hs, horder, hfills, -⟩
    · rw [horder, hnone, sub_self]
      rfl
    · rw [horder, hfills, (replayTicks_units hgrid hs).2]
      ring

end

/-- A trade at 100. -/
def firstTrade : Tick :=
  ⟨{ sequence := 1
     timestamp := tickTime
     kind := .TRADE
     price := Decimal.ofNat 100
     quantity := Decimal.ofNat 1 }, by decide +kernel⟩

/-- A quote after the trade. -/
def tradeAndQuote : TickReplay defaultContext :=
  ⟨{ oneQuote.fields with ticks := [firstTrade, secondQuote] }, by decide +kernel⟩

/-- An order to buy a lot once 100 is paid. -/
def stopAt100 : Order :=
  ⟨{ Order.oneLong.fields with stopPrice := some (Decimal.ofNat 100) }, by decide +kernel⟩

/-- The stop is released by the trade and takes the quote. -/
theorem priceTimeLaw_tradeAndQuote :
    ∃ res, replay tradeAndQuote stopAt100 .STOP = .ok res ∧ res.fills ≠ []
      ∧ PriceTimeLaw tradeAndQuote stopAt100 .STOP res := by
  have hok : (replay tradeAndQuote stopAt100 .STOP).toOption.any
      (fun res => res.fills ≠ []) = true := by
    decide +kernel
  rcases hrun : replay tradeAndQuote stopAt100 .STOP with e | res
  · rw [hrun] at hok
    cases hok
  · rw [hrun] at hok
    exact ⟨res, rfl, of_decide_eq_true hok, priceTimeLaw_of_replay hrun⟩

/-- A tiny quantity quoted a millisecond after the order, of which the latency is a little more. -/
def tooEarly : TickReplay defaultContext :=
  ⟨{ ticks := [⟨{ tinyQuote.fields with
        timestamp := ⟨.of 2026 7 13 (Eq.refl true), 9, 0, 0, 1000⟩ },
        by decide +kernel⟩]
     config := ⟨{ latencyMs := ⟨false, 100000000000000000000000000001, -29⟩ },
        by decide +kernel⟩ }, by decide +kernel⟩

/-- What is rounded away is missed: a fill comes a little before the latency is over, and the order
does not record its quantity. -/
theorem law_rounded :
    (¬ ∀ (r : TickReplay defaultContext) (order : Order) (orderType : FillOrderType)
      (res : TickReplayResult), replay r order orderType = .ok res → ∀ f ∈ res.fills,
        (order.fields.createdAt.micros : ℚ) + r.fields.config.fields.latencyMs.val * 1000
          ≤ f.fields.filledAt.micros)
    ∧ ¬ ∀ (r : TickReplay defaultContext) (order : Order) (orderType : FillOrderType)
      (res : TickReplayResult), replay r order orderType = .ok res →
        filledTotal res.fills
          = res.order.fields.filledQuantity.val - order.fields.filledQuantity.val := by
  have hvalues : (replay tooEarly oneLeft .MARKET).toOption.map (fun res =>
      (res.fills.map (·.fields.filledAt.micros), filledTotal res.fills,
        res.order.fields.filledQuantity.val))
      = some ([oneLeft.fields.createdAt.micros + 1000], 1 / 10 ^ 30, 1) := by
    decide +kernel
  rcases hrun : replay tooEarly oneLeft .MARKET with e | res
  · rw [hrun] at hvalues
    cases hvalues
  rw [hrun] at hvalues
  obtain ⟨htimes, hvalues⟩ := Prod.mk.inj (Option.some.inj hvalues)
  obtain ⟨htotal, hrecorded⟩ := Prod.mk.inj hvalues
  constructor
  · intro h
    have htime := h tooEarly oneLeft .MARKET res hrun
    obtain ⟨f, hfills⟩ : ∃ f, res.fills = [f] := by
      rw [← List.length_eq_one_iff, ← List.length_map, htimes]
      rfl
    rw [hfills, List.map_singleton] at htimes
    rw [hfills, List.forall_mem_singleton, List.singleton_inj.mp htimes] at htime
    have hlatency : tooEarly.fields.config.fields.latencyMs.val = 1 + 1 / 10 ^ 29 := by
      decide +kernel
    rw [hlatency] at htime
    push_cast at htime
    norm_num at htime
  · intro h
    have hsum := h tooEarly oneLeft .MARKET res hrun
    have hfilled : oneLeft.fields.filledQuantity.val = 1 := by decide +kernel
    rw [htotal, hrecorded, hfilled] at hsum
    norm_num at hsum

end TickReplay

end FuturesAgentOs
