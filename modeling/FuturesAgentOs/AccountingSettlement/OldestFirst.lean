import FuturesAgentOs.AccountingSettlement.AccountRestart
import FuturesAgentOs.PyModel.DecimalUnits

namespace FuturesAgentOs

open PyModel

/-!
# In which order a closing fill consumes lots

The loop of `close` walks the lots in the order they are stored, which is the order they were booked
in, and not that of `opened_at`.

* `close_oldest_iff` — when the oldest lots are consumed first.
-/

namespace SimulationAccount

/-- What the lots with an identity hold. -/
def held (id : EntityId) : List PositionLot → ℚ
  | [] => 0
  | lot :: lots => (if lot.fields.lotId = id then lot.fields.quantity.val else 0) + held id lots

/-- A lot of the instrument of a fill, in the direction that the fill reduces. -/
def IsReduced (fill : Fill) (lot : PositionLot) : Prop :=
  lot.fields.instrument = fill.fields.instrument ∧ lot.fields.direction ≠ fill.fields.direction

instance (fill : Fill) (lot : PositionLot) : Decidable (IsReduced fill lot) :=
  inferInstanceAs (Decidable (_ ∧ _))

/-- What the lots of the instrument of a fill hold, in the direction that it reduces. -/
def position (fill : Fill) : List PositionLot → ℚ
  | [] => 0
  | lot :: lots => (if IsReduced fill lot then lot.fields.quantity.val else 0) + position fill lots

section

variable (fill : Fill) (closeToday : Bool)

/-- What the candidates hold. -/
def available : List PositionLot → ℚ
  | [] => 0
  | lot :: lots =>
    (if IsCandidate fill closeToday lot then lot.fields.quantity.val else 0) + available lots

/-- What the candidates hold that stand before a lot. -/
def ahead (id : EntityId) : List PositionLot → ℚ
  | [] => 0
  | lot :: lots =>
    if lot.fields.lotId = id then 0
    else (if IsCandidate fill closeToday lot then lot.fields.quantity.val else 0) + ahead id lots

/-- The oldest candidates are consumed first: none is reduced while an older one still holds
something. -/
def OldestFirst (before after : List PositionLot) : Prop :=
  ∀ lot ∈ before, IsCandidate fill closeToday lot →
    ∀ older ∈ before, IsCandidate fill closeToday older →
      older.fields.openedAt < lot.fields.openedAt →
      held lot.fields.lotId after < lot.fields.quantity.val → held older.fields.lotId after = 0

/-- Every candidate that is older than one the quantity of the fill reaches is used up by it, in the
order in which the lots stand. -/
def StandsInOrder (lots : List PositionLot) : Prop :=
  ∀ lot ∈ lots, IsCandidate fill closeToday lot →
    ∀ older ∈ lots, IsCandidate fill closeToday older →
      older.fields.openedAt < lot.fields.openedAt →
      ahead fill closeToday lot.fields.lotId lots < fill.fields.quantity.val →
      ahead fill closeToday older.fields.lotId lots + older.fields.quantity.val
        ≤ fill.fields.quantity.val

end

section

variable {fill : Fill} {closeToday : Bool} {lots : List PositionLot}

theorem quantity_val_pos (lot : PositionLot) : 0 < lot.fields.quantity.val := by
  have h := lot.quantity_pos
  rw [Decimal.lt_def, Decimal.val_ofNat, Nat.cast_zero] at h
  exact h

theorem ahead_nonneg (id : EntityId) : 0 ≤ ahead fill closeToday id lots := by
  induction lots with
  | nil => exact le_rfl
  | cons lot lots ih =>
    have hpos := quantity_val_pos lot
    unfold ahead
    split_ifs <;> linarith

theorem available_nonneg : 0 ≤ available fill closeToday lots := by
  induction lots with
  | nil => exact le_rfl
  | cons lot lots ih =>
    have hpos := quantity_val_pos lot
    unfold available
    split_ifs <;> linarith

theorem held_of_not_mem {id : EntityId} (h : id ∉ lots.map (·.fields.lotId)) : held id lots = 0 := by
  induction lots with
  | nil => rfl
  | cons lot lots ih =>
    rw [List.map_cons, List.mem_cons, not_or] at h
    rw [held, if_neg (Ne.symm h.1), ih h.2, add_zero]

theorem IsCandidate.isReduced {lot : PositionLot} (h : IsCandidate fill closeToday lot) :
    IsReduced fill lot :=
  ⟨h.1, h.2.1⟩

/-! ### The loop -/

variable {ctx : DecimalContext} {unit : ℤ} {bound : ℕ} {multiplier : Decimal}
  {candidates kept : List PositionLot} {lot : PositionLot} {remaining realized realized' : Decimal}

/-- The fields of a lot that a partial close leaves. -/
structure Reduces (lot reduced : PositionLot) : Prop where
  lotId : reduced.fields.lotId = lot.fields.lotId
  instrument : reduced.fields.instrument = lot.fields.instrument
  direction : reduced.fields.direction = lot.fields.direction

/-- **One round of the loop**, when no quantity is rounded: the lot stays, is used up, or is reduced
by all that remains. -/
theorem closeLots_cons (hkeeps : ctx.Keeps unit bound)
    (hcandidate : candidates.any (fun c => lot.SameAs c) = true ↔ IsCandidate fill closeToday lot)
    (hquantity : IsCandidate fill closeToday lot → lot.fields.quantity.IsUnits unit bound)
    (hremaining : remaining.IsUnits unit bound)
    (h : closeLots ctx multiplier fill candidates (lot :: lots) remaining realized
      = .ok (kept, realized')) :
    ∃ rest realized₁ left, closeLots ctx multiplier fill candidates lots left realized₁
        = .ok (rest, realized') ∧ left.IsUnits unit bound
      ∧ ((¬ IsCandidate fill closeToday lot ∨ remaining.val = 0) ∧ left.val = remaining.val
          ∧ kept = lot :: rest
        ∨ IsCandidate fill closeToday lot ∧ lot.fields.quantity.val ≤ remaining.val
          ∧ left.val = remaining.val - lot.fields.quantity.val ∧ kept = rest
        ∨ IsCandidate fill closeToday lot ∧ remaining.val < lot.fields.quantity.val ∧ left.val = 0
          ∧ ∃ reduced, Reduces lot reduced ∧ kept = reduced :: rest
            ∧ reduced.fields.quantity.val = lot.fields.quantity.val - remaining.val) := by
  rw [closeLots] at h
  split at h
  · rename_i hskip
    obtain ⟨⟨rest, realized₁⟩, hrest, h⟩ := Py.of_bind h
    cases h
    refine ⟨rest, realized, remaining, hrest, hremaining, Or.inl ⟨?_, rfl, rfl⟩⟩
    refine hskip.imp (fun hnot hcand => hnot (hcandidate.mpr hcand)) fun hle => ?_
    rw [Decimal.le_def, Decimal.val_ofNat, Nat.cast_zero] at hle
    exact le_antisymm hle hremaining.nonneg
  · rename_i hskip
    rw [not_or, not_not] at hskip
    have hcand := hcandidate.mp hskip.1
    have hunits := hquantity hcand
    have hmatched := hunits.min' hremaining
    have hmin := Decimal.val_min' lot.fields.quantity remaining
    obtain ⟨pnl, -, h⟩ := Py.of_bind h
    obtain ⟨total, -, h⟩ := Py.of_bind h
    obtain ⟨left, hleft, h⟩ := Py.of_bind h
    obtain ⟨hleftval, hleftunits⟩ :=
      hkeeps.of_sub hremaining hmatched (by rw [hmin]; exact min_le_right _ _) hleft
    split at h
    · -- a part of the lot stays
      rename_i hpart
      rw [Decimal.lt_def, hmin, inf_lt_left, not_le] at hpart
      rw [min_eq_right hpart.le] at hmin
      obtain ⟨quantity, hsub, h⟩ := Py.of_bind h
      obtain ⟨hquantityval, -⟩ := hkeeps.of_sub hunits hmatched (by rw [hmin]; exact hpart.le) hsub
      obtain ⟨reduced, hreduced, h⟩ := Py.of_bind h
      obtain ⟨⟨rest, realized₁⟩, hrest, h⟩ := Py.of_bind h
      cases h
      have hfields := Frozen.make_eq_ok.mp hreduced
      refine ⟨rest, total, left, hrest, hleftunits, Or.inr (Or.inr ⟨hcand, hpart, ?_, reduced, ?_, rfl, ?_⟩)⟩
      · rw [hleftval, hmin, sub_self]
      · exact ⟨by rw [hfields]; rfl, by rw [hfields]; rfl, by rw [hfields]; rfl⟩
      · rw [hfields, ← hmin]
        exact hquantityval
    · -- the whole lot goes
      rename_i hwhole
      rw [Decimal.lt_def, hmin, inf_lt_left, not_not] at hwhole
      rw [min_eq_left hwhole] at hmin
      exact ⟨kept, total, left, h, hleftunits, Or.inr (Or.inl ⟨hcand, hwhole, by rw [hleftval, hmin], rfl⟩)⟩

theorem held_closeLots_of_not_mem
    (h : closeLots ctx multiplier fill candidates lots remaining realized = .ok (kept, realized'))
    {id : EntityId} (hid : id ∉ lots.map (·.fields.lotId)) : held id kept = 0 := by
  apply held_of_not_mem
  have hids := (keys_closeLots h).map Prod.fst
  rw [List.map_map, List.map_map] at hids
  exact fun hmem => hid (hids.subset hmem)

/-- **What the loop leaves of each lot.** -/
theorem held_closeLots (hkeeps : ctx.Keeps unit bound)
    (hcandidates : ∀ lot ∈ lots,
      (candidates.any (fun c => lot.SameAs c) = true ↔ IsCandidate fill closeToday lot))
    (hquantities : ∀ lot ∈ lots, IsCandidate fill closeToday lot →
      lot.fields.quantity.IsUnits unit bound)
    (hremaining : remaining.IsUnits unit bound) (hnodup : (lots.map (·.fields.lotId)).Nodup)
    (h : closeLots ctx multiplier fill candidates lots remaining realized = .ok (kept, realized')) :
    ∀ lot ∈ lots, held lot.fields.lotId kept =
      if IsCandidate fill closeToday lot then lot.fields.quantity.val - min lot.fields.quantity.val
        (max (remaining.val - ahead fill closeToday lot.fields.lotId lots) 0)
      else lot.fields.quantity.val := by
  induction lots generalizing kept remaining realized with
  | nil =>
    intro lot hlot
    cases hlot
  | cons first lots ih =>
    rw [List.forall_mem_cons] at hcandidates hquantities
    rw [List.map_cons, List.nodup_cons] at hnodup
    have hpos := quantity_val_pos first
    obtain ⟨rest, realized₁, left, hrest, hleft, hround⟩ :=
      closeLots_cons hkeeps hcandidates.1 hquantities.1 hremaining h
    have hnone := held_closeLots_of_not_mem hrest hnodup.1
    have hnonneg := hremaining.nonneg
    rw [List.forall_mem_cons]
    constructor
    · -- the first lot, before which nothing stands
      rw [ahead, if_pos rfl, sub_zero, max_eq_left hnonneg]
      rcases hround with ⟨hstays, -, rfl⟩ | ⟨hcand, hle, -, rfl⟩ |
        ⟨hcand, hlt, -, reduced, hreduced, rfl, hquantity⟩
      · rw [held, if_pos rfl, hnone, add_zero]
        split
        · rename_i hcand
          rw [hstays.resolve_left (not_not.mpr hcand), min_eq_right hpos.le, sub_zero]
        · rfl
      · rw [hnone, if_pos hcand, min_eq_left hle, sub_self]
      · rw [held, if_pos hreduced.lotId, hnone, add_zero, if_pos hcand, min_eq_right hlt.le, hquantity]
    · -- a later lot
      intro lot hlot
      have hne : first.fields.lotId ≠ lot.fields.lotId := by
        intro hsame
        exact hnodup.1 (hsame ▸ List.mem_map_of_mem hlot)
      have hrec := ih hcandidates.2 hquantities.2 hleft hnodup.2 hrest lot hlot
      have hkept : held lot.fields.lotId kept = held lot.fields.lotId rest := by
        rcases hround with ⟨-, -, rfl⟩ | ⟨-, -, -, rfl⟩ | ⟨-, -, -, reduced, hreduced, rfl, -⟩
        · rw [held, if_neg hne, zero_add]
        · rfl
        · rw [held, hreduced.lotId, if_neg hne, zero_add]
      have hahead : 0 ≤ ahead fill closeToday lot.fields.lotId lots := ahead_nonneg _
      rw [hkept, hrec, ahead, if_neg hne]
      have htakes : max (left.val - ahead fill closeToday lot.fields.lotId lots) 0
          = max (remaining.val - ((if IsCandidate fill closeToday first then
            first.fields.quantity.val else 0) + ahead fill closeToday lot.fields.lotId lots)) 0 := by
        rcases hround with ⟨hstays, hval, -⟩ | ⟨hcand, -, hval, -⟩ | ⟨hcand, hlt, hval, -⟩
        · rw [hval]
          split
          · rename_i hcand
            rw [hstays.resolve_left (not_not.mpr hcand), max_eq_right (by linarith),
              max_eq_right (by linarith)]
          · rw [zero_add]
        · rw [hval, if_pos hcand, sub_sub]
        · rw [hval, if_pos hcand, max_eq_right (by linarith), max_eq_right (by linarith)]
      rw [htakes]

/-- **What the loop takes in all.** -/
theorem position_closeLots (hkeeps : ctx.Keeps unit bound)
    (hcandidates : ∀ lot ∈ lots,
      (candidates.any (fun c => lot.SameAs c) = true ↔ IsCandidate fill closeToday lot))
    (hquantities : ∀ lot ∈ lots, IsCandidate fill closeToday lot →
      lot.fields.quantity.IsUnits unit bound)
    (hremaining : remaining.IsUnits unit bound)
    (h : closeLots ctx multiplier fill candidates lots remaining realized = .ok (kept, realized')) :
    position fill lots - position fill kept
      = min remaining.val (available fill closeToday lots) := by
  induction lots generalizing kept remaining realized with
  | nil =>
    cases h
    rw [available, min_eq_right hremaining.nonneg, sub_self]
  | cons first lots ih =>
    rw [List.forall_mem_cons] at hcandidates hquantities
    have hpos := quantity_val_pos first
    have havailable : 0 ≤ available fill closeToday lots := available_nonneg
    have hnonneg := hremaining.nonneg
    obtain ⟨rest, realized₁, left, hrest, hleft, hround⟩ :=
      closeLots_cons hkeeps hcandidates.1 hquantities.1 hremaining h
    have hrec := ih hcandidates.2 hquantities.2 hleft hrest
    rcases hround with ⟨hstays, hval, rfl⟩ | ⟨hcand, hle, hval, rfl⟩ |
      ⟨hcand, hlt, hval, reduced, hreduced, rfl, hquantity⟩
    · rw [position, position, add_sub_add_left_eq_sub, hrec, hval, available]
      split
      · rename_i hcand
        have hzero := hstays.resolve_left (not_not.mpr hcand)
        rw [hzero, min_eq_left havailable, min_eq_left (by linarith)]
      · rw [zero_add]
    · rw [position, if_pos hcand.isReduced, available, if_pos hcand, add_sub_assoc, hrec, hval,
        ← min_add_add_left, add_sub_cancel]
    · have hreduces : IsReduced fill reduced := by
        rw [IsReduced, hreduced.instrument, hreduced.direction]
        exact hcand.isReduced
      rw [hval, min_eq_left havailable] at hrec
      rw [position, position, if_pos hcand.isReduced, if_pos hreduces, hquantity, available,
        if_pos hcand, min_eq_left (by linarith)]
      linarith

theorem sum_candidates :
    (((lots.filter (fun lot => IsCandidate fill closeToday lot)).map (·.fields.quantity)).map
      Decimal.val).sum = available fill closeToday lots := by
  induction lots with
  | nil => rfl
  | cons lot lots ih =>
    by_cases hcand : IsCandidate fill closeToday lot
    · rw [List.filter_cons_of_pos (by simpa using hcand), List.map_cons, List.map_cons, List.sum_cons,
        ih, available, if_pos hcand]
    · rw [List.filter_cons_of_neg (by simpa using hcand), ih, available, if_neg hcand, zero_add]

/-! ### The call -/

/-- What a closing fill that is not refused does to the lots. -/
structure Consumes (fill : Fill) (closeToday : Bool) (before after : List PositionLot) : Prop where
  oldest : OldestFirst fill closeToday before after
  /-- the closed quantity is the total reduction -/
  reduction : position fill before - position fill after = fill.fields.quantity.val
  positive : ∀ lot ∈ after, 0 < lot.fields.quantity.val

theorem held_closedState {a : SimulationAccount} {state : AccountState} (ha : Restorable a)
    (hgrid : ctx.OneGrid (fill.fields.quantity :: (a.state.lots.filter
      (fun lot => IsCandidate fill closeToday lot)).map (·.fields.quantity)))
    (h : a.closedState ctx fill closeToday = .ok state) :
    (∀ lot ∈ a.state.lots, IsCandidate fill closeToday lot → held lot.fields.lotId state.lots
      = lot.fields.quantity.val - min lot.fields.quantity.val
        (max (fill.fields.quantity.val - ahead fill closeToday lot.fields.lotId a.state.lots) 0))
      ∧ position fill a.state.lots - position fill state.lots = fill.fields.quantity.val := by
  obtain ⟨unit, bound, hkeeps, hunits⟩ := hgrid
  rw [List.forall_mem_cons] at hunits
  obtain ⟨-, h⟩ := of_require h
  obtain ⟨total, htotal, h⟩ := Py.of_bind h
  obtain ⟨hle, h⟩ := of_require h
  obtain ⟨⟨kept, realized⟩, hlots, h⟩ := Py.of_bind h
  obtain ⟨gained, -, h⟩ := Py.of_bind h
  obtain ⟨cash, -, h⟩ := Py.of_bind h
  obtain ⟨realizedPnl, -, h⟩ := Py.of_bind h
  obtain ⟨fees, -, h⟩ := Py.of_bind h
  cases h
  have hcandidates := fun lot (hlot : lot ∈ a.state.lots) =>
    (mem_candidates_iff hlot :
      _ ↔ IsCandidate fill closeToday lot)
  have hquantities : ∀ lot ∈ a.state.lots, IsCandidate fill closeToday lot →
      lot.fields.quantity.IsUnits unit bound := by
    intro lot hlot hcand
    exact hunits.2 _ (List.mem_map_of_mem (List.mem_filter.mpr ⟨hlot, decide_eq_true hcand⟩))
  constructor
  · intro lot hlot hcand
    have hheld := held_closeLots hkeeps hcandidates hquantities hunits.1 ha.lotIds hlots lot hlot
    rw [hheld, if_pos hcand]
  · have henough := hkeeps.le_of_le_sum hunits.2 htotal hunits.1 ((Decimal.le_def _ _).mp hle)
    rw [sum_candidates] at henough
    rw [position_closeLots hkeeps hcandidates hquantities hunits.1 hlots, min_eq_left henough]

/-- **When the oldest lots are consumed first.**  A call that raises leaves the account, and so does
one with a fill that was applied.  Otherwise the lots are consumed as they should be exactly when
every candidate that is older than one the quantity reaches is used up in the order of the lots. -/
theorem close_oldest_iff (ctx : DecimalContext) (config : Frozen AccountConfigFields)
    (ops : List AccountOp) (fill : Fill) (closeToday : Bool) :
    let a := run ctx config ops
    (∀ e a', a.close ctx fill closeToday = (.error e, a') → a' = a)
      ∧ (a.appliedFills.Has fill.fields.fillId →
        a.close ctx fill closeToday = (.ok a.state, a))
      ∧ ∀ state a', ¬ a.appliedFills.Has fill.fields.fillId →
        ctx.OneGrid (fill.fields.quantity :: (a.state.lots.filter
          (fun lot => IsCandidate fill closeToday lot)).map (·.fields.quantity)) →
        a.close ctx fill closeToday = (.ok state, a') →
        (Consumes fill closeToday a.state.lots a'.state.lots
          ↔ StandsInOrder fill closeToday a.state.lots) := by
  intro a
  refine ⟨?_, fun hdone => if_pos hdone, ?_⟩
  · intro e a' h
    obtain ⟨-, heq⟩ | ⟨-, ⟨e', -, heq⟩ | ⟨state, -, heq⟩⟩ := a.close_cases ctx fill closeToday
    · rw [heq] at h
      cases congrArg Prod.fst h
    · rw [heq] at h
      exact (congrArg Prod.snd h).symm
    · rw [heq] at h
      cases congrArg Prod.fst h
  intro state a' hnew hgrid h
  have hstate : a.closedState ctx fill closeToday = .ok state ∧ a'.state = state := by
    obtain ⟨hhas, -⟩ | ⟨-, ⟨e', -, heq⟩ | ⟨state', hstate, heq⟩⟩ := a.close_cases ctx fill closeToday
    · exact absurd hhas hnew
    · rw [heq] at h
      cases congrArg Prod.fst h
    · rw [heq] at h
      cases h
      exact ⟨hstate, rfl⟩
  obtain ⟨hclosed, hafter⟩ := hstate
  rw [hafter]
  obtain ⟨hheld, hposition⟩ := held_closedState (restorable_run ctx config ops) hgrid hclosed
  -- a candidate is reduced when the quantity reaches it, and used up when it reaches beyond it
  have hreached : ∀ lot ∈ a.state.lots, IsCandidate fill closeToday lot →
      (held lot.fields.lotId state.lots < lot.fields.quantity.val
        ↔ ahead fill closeToday lot.fields.lotId a.state.lots < fill.fields.quantity.val) := by
    intro lot hlot hcand
    have hpos := quantity_val_pos lot
    rw [hheld lot hlot hcand, sub_lt_self_iff, lt_min_iff, lt_max_iff, sub_pos,
      or_iff_left (lt_irrefl _), and_iff_right hpos]
  have hused : ∀ lot ∈ a.state.lots, IsCandidate fill closeToday lot →
      (held lot.fields.lotId state.lots = 0
        ↔ ahead fill closeToday lot.fields.lotId a.state.lots + lot.fields.quantity.val
          ≤ fill.fields.quantity.val) := by
    intro lot hlot hcand
    have hpos := quantity_val_pos lot
    rw [hheld lot hlot hcand, sub_eq_zero, eq_comm, min_eq_left_iff, le_max_iff,
      or_iff_left (not_le.mpr hpos), le_sub_iff_add_le']
  constructor
  · intro hconsumes lot hlot hcand older holder hcand' hage hreach
    exact (hused older holder hcand').mp
      (hconsumes.oldest lot hlot hcand older holder hcand' hage ((hreached lot hlot hcand).mpr hreach))
  · intro horder
    refine ⟨fun lot hlot hcand older holder hcand' hage hless => ?_, hposition,
      fun lot _ => quantity_val_pos lot⟩
    exact (hused older holder hcand').mpr
      (horder lot hlot hcand older holder hcand' hage ((hreached lot hlot hcand).mp hless))

end

/-! ### Two lots that are booked out of the order of their times -/

/-- Opens two contracts at 30, an hour before the sample fill. -/
def earlierFill : Fill :=
  ⟨{ sampleFillFields 3 .LONG 30 with filledAt := { sampleNow with hour := 14 } }, by decide +kernel⟩

/-- Books the earlier fill. -/
def bookEarlier : AccountOp :=
  .applyFill earlierFill (some (.epoch "position_lot" 3 0 (Eq.refl true)))
    sampleConfig.fields.accountId

/-- The two fills, booked in the order of their times. -/
def inOrderOps : List AccountOp := bookEarlier :: openingOps

/-- The two fills, the earlier one booked last. -/
def outOfOrderOps : List AccountOp := openingOps ++ [bookEarlier]

/-- The lots of the fills booked in the order of their times are closed as they should. -/
theorem close_oldest_of_inOrder :
    ∃ state a', (run (.exact 0) sampleConfig inOrderOps).close (.exact 0) closingFill false
        = (.ok state, a')
      ∧ Consumes closingFill false (run (.exact 0) sampleConfig inOrderOps).state.lots
          a'.state.lots := by
  have hsome : ((run (.exact 0) sampleConfig inOrderOps).close (.exact 0) closingFill
      false).1.toOption.isSome = true := by decide +kernel
  rcases h : (run (.exact 0) sampleConfig inOrderOps).close (.exact 0) closingFill false
    with ⟨_ | state, a'⟩
  · rw [h] at hsome
    cases hsome
  · refine ⟨state, a', rfl, ?_⟩
    refine ((close_oldest_iff (.exact 0) sampleConfig inOrderOps closingFill false).2.2 state a'
      (by decide +kernel) (DecimalContext.oneGrid_exact 0 (by decide +kernel)) h).mpr ?_
    unfold StandsInOrder
    decide +kernel

/-- **A younger lot is closed before an older one** that was booked after it. -/
theorem close_younger_first :
    ¬ ∀ (config : Frozen AccountConfigFields) (ops : List AccountOp) (fill : Fill) (state : AccountState)
        (a' : SimulationAccount),
      (run defaultContext config ops).close defaultContext fill false = (.ok state, a') →
        OldestFirst fill false (run defaultContext config ops).state.lots a'.state.lots := by
  intro hall
  have hsome : ((run defaultContext sampleConfig outOfOrderOps).close defaultContext closingFill
      false).1.toOption.isSome = true := by decide +kernel
  have hnot : ¬ OldestFirst closingFill false
      (run defaultContext sampleConfig outOfOrderOps).state.lots
      ((run defaultContext sampleConfig outOfOrderOps).close defaultContext closingFill
        false).2.state.lots := by
    unfold OldestFirst
    decide +kernel
  rcases h : (run defaultContext sampleConfig outOfOrderOps).close defaultContext closingFill false
    with ⟨_ | state, a'⟩
  · rw [h] at hsome
    cases hsome
  · rw [h] at hnot
    exact hnot (hall sampleConfig outOfOrderOps closingFill state a' h)

end SimulationAccount

end FuturesAgentOs
