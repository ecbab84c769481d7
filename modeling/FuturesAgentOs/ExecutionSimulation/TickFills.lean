import FuturesAgentOs.ExecutionSimulation.BookSweep
import FuturesAgentOs.ExecutionSimulation.TickReplay

namespace FuturesAgentOs

open PyModel

/-!
# The fills of a tick replay

A tick replay fills the usable ticks of the stream in turn: those after activation, for a stop after
its trigger, that trade at a price the order accepts.

* `replayLoop_units` — on quantities of one grid the loop takes of the usable ticks in turn.
-/

namespace TickReplay

open OrderBookReplay (filledTotal)

variable {ctx : DecimalContext}

/-! ### Which ticks are usable -/

section

variable (config : TickReplayConfig ctx) (order : Order) (orderType : FillOrderType)

/-- The moment the order arrives: its creation and the latency, of which the context keeps what it
can. -/
def arrival : ℚ :=
  order.fields.createdAt.micros + ctx.round (config.fields.latencyMs.val * 1000)

/-- The tick is not before the order arrives. -/
def IsActive (tick : Tick) : Prop := arrival config order ≤ tick.fields.timestamp.micros

instance : DecidablePred (IsActive config order) := fun _ => inferInstanceAs (Decidable (_ ≤ _))

/-- The price at which the tick trades against the order. -/
def tickPrice (tick : Tick) : Option Decimal :=
  match tick.fields.kind with
  | .QUOTE => if order.fields.direction = .LONG then tick.fields.ask else tick.fields.bid
  | .TRADE => some tick.fields.price

/-- The order takes what the tick has: any quote, and a limit order takes trades as well, but both
only within the limit. -/
def IsUsable (tick : Tick) : Prop :=
  if orderType = .LIMIT then ∃ price ∈ tickPrice order tick, withinLimit order price
  else tick.fields.kind = .QUOTE

instance : DecidablePred (IsUsable order orderType) := fun tick => by
  unfold IsUsable
  infer_instance

/-- The ticks after the first one that triggers the stop. -/
def afterTrigger : List Tick → List Tick
  | [] => []
  | tick :: rest => if triggers order tick then rest else afterTrigger rest

/-- The usable ticks, of an order that may have been triggered. -/
def usableFrom (triggered : Bool) (ticks : List Tick) : List Tick :=
  let active := ticks.filter (IsActive config order)
  (if orderType = .STOP ∧ triggered = false then afterTrigger order active else active).filter
    (IsUsable order orderType)

/-- **The usable ticks of a stream.** -/
def usableTicks (ticks : List Tick) : List Tick := usableFrom config order orderType false ticks

/-- What the ticks have. -/
def quantities (ticks : List Tick) : List ℚ := ticks.map (·.fields.quantity.val)

end

section

variable {config : TickReplayConfig ctx} {order : Order} {orderType : FillOrderType}
  {triggered : Bool} {tick : Tick} {rest ticks : List Tick}

theorem afterTrigger_sublist (ticks : List Tick) : (afterTrigger order ticks).Sublist ticks := by
  induction ticks with
  | nil => exact List.Sublist.refl _
  | cons tick rest ih =>
    rw [afterTrigger]
    split
    · exact List.sublist_cons_self tick rest
    · exact ih.cons tick

theorem usableFrom_sublist (triggered : Bool) (ticks : List Tick) :
    (usableFrom config order orderType triggered ticks).Sublist
      (ticks.filter (IsActive config order)) := by
  unfold usableFrom
  refine List.filter_sublist.trans ?_
  split
  · exact afterTrigger_sublist _
  · exact List.Sublist.refl _

theorem active_of_usable (h : tick ∈ usableFrom config order orderType triggered ticks) :
    IsActive config order tick :=
  of_decide_eq_true (List.mem_filter.mp ((usableFrom_sublist triggered ticks).subset h)).2

/-- A tick before activation does not count. -/
theorem usableFrom_inactive (h : ¬ IsActive config order tick) :
    usableFrom config order orderType triggered (tick :: rest)
      = usableFrom config order orderType triggered rest := by
  simp [usableFrom, h]

theorem usableFrom_waiting (hactive : IsActive config order tick) (hstop : orderType = .STOP) :
    usableFrom config order orderType false (tick :: rest)
      = usableFrom config order orderType (triggers order tick) rest := by
  by_cases htrigger : triggers order tick = true
  · simp [usableFrom, hactive, hstop, afterTrigger, htrigger]
  · simp [usableFrom, hactive, hstop, afterTrigger, htrigger]

/-- The order waits for nothing. -/
theorem usableFrom_taking (hactive : IsActive config order tick)
    (hready : orderType = .STOP → triggered = true) :
    usableFrom config order orderType triggered (tick :: rest)
      = if IsUsable order orderType tick
        then tick :: usableFrom config order orderType triggered rest
        else usableFrom config order orderType triggered rest := by
  have hno : ¬ (orderType = .STOP ∧ triggered = false) := by
    rintro ⟨hstop, hfalse⟩
    rw [hready hstop] at hfalse
    cases hfalse
  by_cases husable : IsUsable order orderType tick
  · simp [usableFrom, hactive, hno, husable]
  · simp [usableFrom, hactive, hno, husable]

variable (config order) in
theorem usableFrom_of_ready (hready : orderType = .STOP → triggered = true) {triggered' : Bool}
    (hready' : orderType = .STOP → triggered' = true) (ticks : List Tick) :
    usableFrom config order orderType triggered ticks
      = usableFrom config order orderType triggered' ticks := by
  by_cases hstop : orderType = .STOP
  · rw [hready hstop, hready' hstop]
  · simp [usableFrom, hstop]

theorem tickPrice_isSome (order : Order) (tick : Tick) : (tickPrice order tick).isSome := by
  have h : tick.fields.postInit = .ok () := tick.valid
  simp only [TickFields.postInit, require_bind_eq_ok] at h
  obtain ⟨hbid, hask⟩ | hkind : (tick.fields.bid ≠ none ∧ tick.fields.ask ≠ none)
      ∨ tick.fields.kind = .TRADE := by
    cases hkind : tick.fields.kind with
    | QUOTE => exact Or.inl (h.2.2.2.1 hkind)
    | TRADE => exact Or.inr rfl
  · unfold tickPrice
    split
    · split
      · exact Option.isSome_iff_ne_none.mpr hask
      · exact Option.isSome_iff_ne_none.mpr hbid
    · rfl
  · simp [tickPrice, hkind]

theorem basePrice_eq (hready : orderType = .STOP → triggered = true) :
    basePrice order orderType triggered tick
      = if IsUsable order orderType tick then tickPrice order tick else none := by
  have hsome := tickPrice_isSome order tick
  obtain ⟨price, hprice⟩ := Option.isSome_iff_exists.mp hsome
  have husable : IsUsable order orderType tick ↔ if orderType = .LIMIT
      then withinLimit order price = true else tick.fields.kind = .QUOTE := by
    simp [IsUsable, hprice]
  simp only [husable, hprice]
  unfold basePrice
  unfold tickPrice at hprice
  cases hkind : tick.fields.kind with
  | QUOTE =>
    rw [hkind] at hprice
    dsimp only at hprice ⊢
    rw [hprice, Option.filter_some]
    cases orderType with
    | MARKET => simp
    | LIMIT => simp
    | STOP => simp [hready rfl]
  | TRADE =>
    rw [hkind] at hprice
    obtain rfl := Option.some.inj hprice
    cases orderType with
    | MARKET => simp
    | LIMIT => simp
    | STOP => simp

/-! ### One tick -/

variable {moment : ℤ}

theorem isActive_iff (h : activation config order = .ok moment) (tick : Tick) :
    IsActive config order tick ↔ ¬ (tick.fields.timestamp.micros : ℤ) < moment := by
  unfold activation at h
  obtain ⟨micros, hmicros, h⟩ := Py.of_bind h
  obtain ⟨-, h⟩ := of_require h
  obtain rfl := Except.ok.inj h
  have hwhole : micros.IsWhole := by
    have hvalid : config.fields.postInit = .ok () := config.valid
    unfold TickReplayConfigFields.postInit at hvalid
    rw [hmicros] at hvalid
    simp only [require_bind_eq_ok, Py.ok_bind] at hvalid
    exact hvalid.2.2.1
  have hval : micros.val = ctx.round (config.fields.latencyMs.val * 1000) := by
    rw [DecimalContext.val_eq_round hmicros, Decimal.val_mul, Decimal.val_ofNat]
    rfl
  rw [IsActive, arrival, ← hval, ← Decimal.val_toInt hwhole, not_lt]
  exact_mod_cast Iff.rfl

theorem look_cases {w w' : Watch} {base : Option Decimal}
    (hmoment : activation config order = .ok moment)
    (h : look order orderType moment tick w = (w', base)) :
    (¬ IsActive config order tick ∧ w' = w ∧ base = none)
    ∨ (IsActive config order tick ∧ orderType = .STOP ∧ w.triggered = false
      ∧ w'.triggered = triggers order tick ∧ base = none
      ∧ w'.triggerSequence = if triggers order tick then some tick.fields.sequence
        else w.triggerSequence)
    ∨ (IsActive config order tick ∧ (orderType = .STOP → w.triggered = true)
      ∧ (orderType = .STOP → w'.triggered = true) ∧ w'.triggerSequence = w.triggerSequence
      ∧ base = if IsUsable order orderType tick ∧ Decimal.ofNat 0 < tick.fields.quantity
        then tickPrice order tick else none) := by
  unfold look at h
  by_cases hbefore : (tick.fields.timestamp.micros : ℤ) < moment
  · rw [if_pos hbefore] at h
    obtain ⟨rfl, rfl⟩ := Prod.mk.inj h
    exact Or.inl ⟨fun hactive => (isActive_iff hmoment tick).mp hactive hbefore, rfl, rfl⟩
  have hactive := (isActive_iff hmoment tick).mpr hbefore
  rw [if_neg hbefore] at h
  dsimp only at h
  by_cases hwaits : orderType = .STOP ∧ w.triggered = false
  · -- a stop that waits for its trigger
    rw [if_pos hwaits] at h
    refine Or.inr (Or.inl ⟨hactive, hwaits.1, hwaits.2, ?_⟩)
    by_cases htrigger : triggers order tick = true
    · rw [if_pos htrigger] at h
      obtain ⟨rfl, rfl⟩ := Prod.mk.inj h
      simp [htrigger]
    · rw [if_neg htrigger] at h
      obtain ⟨rfl, rfl⟩ := Prod.mk.inj h
      simp [htrigger, hwaits.2]
  · have hready : orderType = .STOP → w.triggered = true := fun hstop =>
      Bool.eq_true_of_not_eq_false fun hfalse => hwaits ⟨hstop, hfalse⟩
    rw [if_neg hwaits, basePrice_eq hready] at h
    refine Or.inr (Or.inr ⟨hactive, hready, ?_⟩)
    by_cases husable : IsUsable order orderType tick
    · obtain ⟨price, hprice⟩ := Option.isSome_iff_exists.mp (tickPrice_isSome order tick)
      rw [if_pos husable, hprice] at h
      dsimp only at h
      by_cases hnone : tick.fields.quantity ≤ Decimal.ofNat 0
      · rw [if_pos hnone] at h
        obtain ⟨rfl, rfl⟩ := Prod.mk.inj h
        have hno : ¬ Decimal.ofNat 0 < tick.fields.quantity := Decimal.not_lt.mpr hnone
        exact ⟨fun hstop => by simp [hready hstop], rfl, by simp [hno]⟩
      · rw [if_neg hnone] at h
        obtain ⟨rfl, rfl⟩ := Prod.mk.inj h
        have hpos : Decimal.ofNat 0 < tick.fields.quantity := Decimal.not_le.mp hnone
        exact ⟨fun hstop => by simp [hready hstop], rfl, by simp [husable, hpos, hprice]⟩
    · rw [if_neg husable] at h
      obtain ⟨rfl, rfl⟩ := Prod.mk.inj h
      exact ⟨hready, rfl, by simp [husable]⟩

theorem quantity_nonneg (tick : Tick) : 0 ≤ tick.fields.quantity.val := by
  have h : tick.fields.postInit = .ok () := tick.valid
  simp only [TickFields.postInit, require_bind_eq_ok, Decimal.le_def, Decimal.val_ofNat,
    Nat.cast_zero] at h
  exact h.2.2.1

@[simp] theorem quantities_nil : quantities [] = [] := rfl

@[simp] theorem quantities_cons (tick : Tick) (ticks : List Tick) :
    quantities (tick :: ticks) = tick.fields.quantity.val :: quantities ticks := rfl

theorem quantities_nonneg (ticks : List Tick) : ∀ q ∈ quantities ticks, 0 ≤ q := by
  intro q hq
  obtain ⟨tick, -, rfl⟩ := List.mem_map.mp hq
  exact quantity_nonneg tick

/-- **A tick is passed over or taken.**  One that is passed over is not usable or has nothing. -/
theorem look_spec {w w' : Watch} {base : Option Decimal}
    (hmoment : activation config order = .ok moment)
    (h : look order orderType moment tick w = (w', base)) : (base = none ∧ ∀ rest,
      usableFrom config order orderType w.triggered (tick :: rest)
          = usableFrom config order orderType w'.triggered rest
        ∨ usableFrom config order orderType w.triggered (tick :: rest)
          = tick :: usableFrom config order orderType w'.triggered rest
          ∧ tick.fields.quantity.val = 0)
    ∨ ∃ price, base = some price ∧ tickPrice order tick = some price
      ∧ IsUsable order orderType tick
      ∧ (orderType = .STOP → w.triggered = true ∧ w'.triggered = true)
      ∧ w'.triggerSequence = w.triggerSequence
      ∧ ∀ rest, usableFrom config order orderType w.triggered (tick :: rest)
        = tick :: usableFrom config order orderType w'.triggered rest := by
  rcases look_cases hmoment h with ⟨hinactive, rfl, hbase⟩ |
    ⟨hactive, hstop, hwaits, htriggered, hbase, -⟩ | ⟨hactive, hready, hready', hsequence, hbase⟩
  · exact Or.inl ⟨hbase, fun rest => Or.inl (usableFrom_inactive hinactive)⟩
  · refine Or.inl ⟨hbase, fun rest => Or.inl ?_⟩
    rw [hwaits, htriggered]
    exact usableFrom_waiting hactive hstop
  · have hsame := usableFrom_of_ready config order hready hready'
    by_cases husable : IsUsable order orderType tick
    · by_cases hpos : Decimal.ofNat 0 < tick.fields.quantity
      · rw [if_pos ⟨husable, hpos⟩] at hbase
        obtain ⟨price, hprice⟩ := Option.isSome_iff_exists.mp
          (tickPrice_isSome order tick)
        refine Or.inr ⟨price, hbase.trans hprice, hprice, husable,
          fun hstop => ⟨hready hstop, hready' hstop⟩, hsequence, fun rest => ?_⟩
        rw [usableFrom_taking hactive hready, if_pos husable, hsame]
      · rw [if_neg (fun hboth => hpos hboth.2)] at hbase
        refine Or.inl ⟨hbase, fun rest => Or.inr ⟨?_, ?_⟩⟩
        · rw [usableFrom_taking hactive hready, if_pos husable, hsame]
        · rw [Decimal.not_lt, Decimal.le_def, Decimal.val_ofNat, Nat.cast_zero] at hpos
          exact le_antisymm hpos (quantity_nonneg tick)
    · rw [if_neg (fun hboth => husable hboth.1)] at hbase
      refine Or.inl ⟨hbase, fun rest => Or.inl ?_⟩
      rw [usableFrom_taking hactive hready, if_neg husable, hsame]

end

/-! ### The loop -/

/-- What holds of the state of the loop on quantities of one grid: the order records what was
filled, and has the rest left. -/
structure OnGrid (unit : ℤ) (bound : ℕ) (order : Order) (s : Replaying) : Prop where
  remaining : s.remaining.IsUnits unit bound
  quantity : s.working.fields.quantity.IsUnits unit bound
  filled : s.working.fields.filledQuantity.IsUnits unit bound
  left : s.working.left = s.remaining.val
  total : filledTotal s.fills + s.remaining.val = order.left
  recorded : s.working.fields.filledQuantity.val
    = order.fields.filledQuantity.val + filledTotal s.fills

section

variable [Hashlib]

/-- The fill is one of the tick, at its price after slippage and limit. -/
def IsFillOf (config : TickReplayConfig ctx) (order : Order) (orderType : FillOrderType)
    (tick : Tick) (f : Fill) : Prop :=
  ∃ base index, tickPrice order tick = some base
    ∧ slippedPrice config base order.fields.direction
        (if orderType = .LIMIT then order.fields.limitPrice else none) = .ok f.fields.price
    ∧ fill config order tick f.fields.quantity f.fields.price index = .ok f

variable {config : TickReplayConfig ctx} {order : Order} {orderType : FillOrderType} {tick : Tick}
  {ticks : List Tick} {moment : ℤ} {unit : ℤ} {bound : ℕ} {s s' : Replaying}

theorem fill_facts {quantity price : Decimal} {index : ℕ} {f : Fill}
    (h : fill config order tick quantity price index = .ok f) :
    f.fields.quantity = quantity ∧ f.fields.price = price
      ∧ f.fields.filledAt = tick.fields.timestamp := by
  unfold fill at h
  obtain ⟨seed, -, h⟩ := Py.of_bind h
  obtain ⟨identity, -, h⟩ := Py.of_bind h
  obtain ⟨digest, -, h⟩ := Py.of_bind h
  rw [Frozen.make_eq_ok] at h
  rw [h]
  exact ⟨rfl, rfl, rfl⟩

theorem fillTick_eq_ok {base : Decimal} (hprice : tickPrice order tick = some base)
    (h : fillTick config order orderType tick base s = .ok s') :
    ∃ next, IsFillOf config order orderType tick next
      ∧ next.fields.quantity = s.remaining.min' tick.fields.quantity
      ∧ s.working.applyFill ctx (.decimal (s.remaining.min' tick.fields.quantity)) = .ok s'.working
      ∧ ctx.sub s.remaining (s.remaining.min' tick.fields.quantity) = .ok s'.remaining
      ∧ s'.fills = s.fills ++ [next] ∧ s'.watch = s.watch := by
  unfold fillTick at h
  obtain ⟨price, hslipped, h⟩ := Py.of_bind h
  obtain ⟨next, hnext, h⟩ := Py.of_bind h
  obtain ⟨working, hworking, h⟩ := Py.of_bind h
  obtain ⟨remaining, hremaining, h⟩ := Py.of_bind h
  obtain rfl := Except.ok.inj h
  obtain ⟨hquantity, hsame, -⟩ := fill_facts hnext
  refine ⟨next, ⟨base, s.fills.length, hprice, ?_, ?_⟩, hquantity, hworking, hremaining, rfl, rfl⟩
  · rw [hsame]
    exact hslipped
  · rw [hquantity, hsame]
    exact hnext

/-- **The step of the loop**: a tick is passed over, or filled, and then the loop may be done. -/
theorem replayLoop_cons_eq_ok (hmoment : activation config order = .ok moment)
    (h : replayLoop config order orderType moment (tick :: ticks) s = .ok s') :
    (∃ watch, look order orderType moment tick s.watch = (watch, none)
      ∧ replayLoop config order orderType moment ticks { s with watch } = .ok s')
    ∨ ∃ watch base s₁, look order orderType moment tick s.watch = (watch, some base)
      ∧ tickPrice order tick = some base
      ∧ fillTick config order orderType tick base { s with watch } = .ok s₁
      ∧ (s₁.remaining.val = 0 ∧ s' = s₁ ∨ s₁.remaining.val ≠ 0
        ∧ replayLoop config order orderType moment ticks s₁ = .ok s') := by
  rw [replayLoop] at h
  rcases hlook : look order orderType moment tick s.watch with ⟨watch, _ | base⟩
  · rw [hlook] at h
    exact Or.inl ⟨watch, rfl, h⟩
  · rw [hlook] at h
    obtain ⟨s₁, hfill, h⟩ := Py.of_bind h
    have hprice : tickPrice order tick = some base := by
      rcases look_spec hmoment hlook with ⟨hnone, -⟩ | ⟨price, hbase, hprice, -⟩
      · cases hnone
      · rw [hbase]
        exact hprice
    refine Or.inr ⟨watch, base, s₁, rfl, hprice, hfill, ?_⟩
    rw [Ne, ← Decimal.numEq_zero_iff]
    by_cases hdone : s₁.remaining.numEq (Decimal.ofNat 0)
    · rw [if_pos hdone] at h
      exact Or.inl ⟨hdone, (Except.ok.inj h).symm⟩
    · rw [if_neg hdone] at h
      exact Or.inr ⟨hdone, h⟩

theorem replayLoop_fills (hmoment : activation config order = .ok moment)
    (h : replayLoop config order orderType moment ticks s = .ok s') :
    ∃ new used, s'.fills = s.fills ++ new
      ∧ used.Sublist (usableFrom config order orderType s.watch.triggered ticks)
      ∧ List.Forall₂ (IsFillOf config order orderType) used new := by
  induction ticks generalizing s with
  | nil =>
    obtain rfl := Except.ok.inj h
    exact ⟨[], [], (List.append_nil _).symm, List.nil_sublist _, List.Forall₂.nil⟩
  | cons tick rest ih =>
    rcases replayLoop_cons_eq_ok hmoment h with ⟨watch, hlook, h⟩ |
      ⟨watch, base, s₁, hlook, hprice, hfill, hrest⟩
    · obtain ⟨new, used, hnew, hused, hfills⟩ := ih h
      refine ⟨new, used, hnew, hused.trans ?_, hfills⟩
      rcases look_spec hmoment hlook with ⟨-, hsame⟩ | ⟨price, hbase, -⟩
      · rcases hsame rest with hsame | ⟨hsame, -⟩
        · rw [hsame]
        · rw [hsame]
          exact List.sublist_cons_self tick _
      · cases hbase
    · obtain ⟨next, hnext, -, -, -, hfills, hwatch⟩ := fillTick_eq_ok hprice hfill
      have husable : usableFrom config order orderType s.watch.triggered (tick :: rest)
          = tick :: usableFrom config order orderType watch.triggered rest := by
        rcases look_spec hmoment hlook with ⟨hnone, -⟩ | ⟨_, -, -, -, -, -, hsame⟩
        · cases hnone
        · exact hsame rest
      rw [husable]
      rcases hrest with ⟨-, rfl⟩ | ⟨-, hloop⟩
      · exact ⟨[next], [tick], hfills, List.singleton_sublist.mpr List.mem_cons_self,
          List.Forall₂.cons hnext List.Forall₂.nil⟩
      · obtain ⟨new, used, hnew, hused, hmore⟩ := ih hloop
        rw [hwatch] at hused
        refine ⟨next :: new, tick :: used, ?_, hused.cons_cons tick, List.Forall₂.cons hnext hmore⟩
        rw [hnew, hfills, List.append_assoc, List.singleton_append]

/-- Having come through all ticks, the loop has come through the first of them; it goes on with the
others unless it is done. -/
theorem replayLoop_append (hmoment : activation config order = .ok moment) {later : List Tick}
    {s'' : Replaying} (h : replayLoop config order orderType moment (ticks ++ later) s = .ok s'') :
    ∃ s', replayLoop config order orderType moment ticks s = .ok s'
      ∧ (s'' = s' ∨ replayLoop config order orderType moment later s' = .ok s'') := by
  induction ticks generalizing s with
  | nil => exact ⟨s, rfl, Or.inr h⟩
  | cons tick rest ih =>
    rw [List.cons_append] at h
    rw [replayLoop]
    rcases replayLoop_cons_eq_ok hmoment h with ⟨watch, hlook, h⟩ |
      ⟨watch, base, s₁, hlook, -, hfill, hrest⟩
    · rw [hlook]
      exact ih h
    · simp only [hlook, hfill, Py.ok_bind, Decimal.numEq_zero_iff]
      rcases hrest with ⟨hzero, rfl⟩ | ⟨hleft, hloop⟩
      · exact ⟨s'', by rw [if_pos hzero], Or.inl rfl⟩
      · obtain ⟨s', hs', hlater⟩ := ih hloop
        exact ⟨s', by rw [if_neg hleft, hs'], hlater⟩

/-- **Later ticks only add fills.** -/
theorem fills_mono (hmoment : activation config order = .ok moment) {later : List Tick}
    {s'' : Replaying} (h : replayLoop config order orderType moment ticks s = .ok s')
    (h' : replayLoop config order orderType moment (ticks ++ later) s = .ok s'') :
    s'.fills <+: s''.fills := by
  obtain ⟨s₁, hs₁, hlater⟩ := replayLoop_append hmoment h'
  obtain rfl : s' = s₁ := Except.ok.inj (h.symm.trans hs₁)
  rcases hlater with rfl | hloop
  · exact List.prefix_rfl
  · obtain ⟨new, -, hnew, -⟩ := replayLoop_fills hmoment hloop
    exact ⟨new, hnew.symm⟩

/-- **A tick gives what it has**, up to what remains. -/
theorem fillTick_units (hkeeps : ctx.Keeps unit bound) (hs : OnGrid unit bound order s)
    (htick : tick.fields.quantity.IsUnits unit bound) {base : Decimal}
    (hprice : tickPrice order tick = some base)
    (h : fillTick config order orderType tick base s = .ok s') :
    OnGrid unit bound order s'
      ∧ s'.remaining.val = s.remaining.val - min s.remaining.val tick.fields.quantity.val := by
  obtain ⟨next, -, hquantity, hworking, hremaining, hfills, -⟩ := fillTick_eq_ok hprice h
  have hmin := Decimal.val_min' s.remaining tick.fields.quantity
  have hunits := hs.remaining.min' htick
  have hle : (s.remaining.min' tick.fields.quantity).val ≤ s.remaining.val := by
    rw [hmin]
    exact min_le_left _ _
  obtain ⟨hval, hremainingUnits⟩ := hkeeps.of_sub hs.remaining hunits hle hremaining
  obtain ⟨hfilled, hfilledUnits, hsame, hleft⟩ :=
    Order.applyFill_units hkeeps hs.quantity hs.filled hunits (by rw [hs.left]; exact hle) hworking
  have htotal : filledTotal s'.fills
      = filledTotal s.fills + (s.remaining.min' tick.fields.quantity).val := by
    unfold filledTotal
    rw [hfills, List.map_append, List.sum_append, List.map_singleton, List.sum_singleton, hquantity]
  refine ⟨⟨hremainingUnits, hsame ▸ hs.quantity, hfilledUnits, ?_, ?_, ?_⟩, by rw [hval, hmin]⟩
  · rw [hleft, hs.left, hval]
  · rw [htotal, hval, ← hs.total]
    ring
  · rw [hfilled, htotal, hs.recorded]
    ring

theorem replayLoop_units (hkeeps : ctx.Keeps unit bound) (hs : OnGrid unit bound order s)
    (hmoment : activation config order = .ok moment)
    (hticks : ∀ tick ∈ usableFrom config order orderType s.watch.triggered ticks,
      tick.fields.quantity.IsUnits unit bound)
    (h : replayLoop config order orderType moment ticks s = .ok s') :
    OnGrid unit bound order s' ∧ s'.remaining.val = s.remaining.val
      - (GreedySweep.takes s.remaining.val
          (quantities (usableFrom config order orderType s.watch.triggered ticks))).sum := by
  induction ticks generalizing s with
  | nil =>
    obtain rfl := Except.ok.inj h
    have hnone : usableFrom config order orderType s.watch.triggered [] = [] :=
      List.eq_nil_of_sublist_nil (usableFrom_sublist _ _)
    rw [hnone]
    exact ⟨hs, by simp⟩
  | cons tick rest ih =>
    rcases replayLoop_cons_eq_ok hmoment h with ⟨watch, hlook, h⟩ |
      ⟨watch, base, s₁, hlook, hprice, hfill, hrest⟩
    · -- the tick is passed over
      have hs₁ : OnGrid unit bound order { s with watch } :=
        ⟨hs.remaining, hs.quantity, hs.filled, hs.left, hs.total, hs.recorded⟩
      rcases look_spec hmoment hlook with ⟨-, hsame⟩ | ⟨price, hbase, -⟩
      · rcases hsame rest with hsame | ⟨hsame, hzero⟩
        · rw [hsame] at hticks ⊢
          exact ih hs₁ hticks h
        · rw [hsame, List.forall_mem_cons] at hticks
          obtain ⟨hs', hremaining⟩ := ih hs₁ hticks.2 h
          refine ⟨hs', ?_⟩
          rw [hremaining, hsame, quantities_cons, GreedySweep.takes_cons, hzero,
            min_eq_right hs.remaining.nonneg, sub_zero, List.sum_cons, zero_add]
      · cases hbase
    · obtain ⟨-, -, -, -, -, -, hwatch⟩ := fillTick_eq_ok hprice hfill
      have husable : usableFrom config order orderType s.watch.triggered (tick :: rest)
          = tick :: usableFrom config order orderType watch.triggered rest := by
        rcases look_spec hmoment hlook with ⟨hnone, -⟩ | ⟨_, -, -, -, -, -, hsame⟩
        · cases hnone
        · exact hsame rest
      rw [husable, List.forall_mem_cons] at hticks
      have hs₀ : OnGrid unit bound order { s with watch } :=
        ⟨hs.remaining, hs.quantity, hs.filled, hs.left, hs.total, hs.recorded⟩
      obtain ⟨hs₁, hval⟩ := fillTick_units hkeeps hs₀ hticks.1 hprice hfill
      dsimp only at hval hwatch
      rw [husable, quantities_cons, GreedySweep.takes_cons, List.sum_cons]
      rcases hrest with ⟨hzero, rfl⟩ | ⟨-, hloop⟩
      · -- nothing is left for the other ticks
        refine ⟨hs₁, ?_⟩
        have hnone := GreedySweep.sum_takes_zero
          (quantities_nonneg (usableFrom config order orderType watch.triggered rest))
        rw [← hval, hzero, hnone, add_zero]
        linarith
      · rw [← hwatch] at hticks
        obtain ⟨hs', hremaining⟩ := ih hs₁ hticks.2 hloop
        refine ⟨hs', ?_⟩
        rw [hremaining, hwatch, hval]
        ring

end

end TickReplay

end FuturesAgentOs
