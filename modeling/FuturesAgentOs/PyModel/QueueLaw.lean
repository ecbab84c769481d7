import Mathlib.Algebra.BigOperators.Group.List.Basic
import Mathlib.Algebra.Order.BigOperators.Group.List
import Mathlib.Algebra.Order.Field.Basic
import Mathlib.Algebra.Order.Group.MinMax
import Mathlib.Tactic.Linarith
import Mathlib.Tactic.Ring

namespace PyModel

/-!
# A place in a queue

An order rests in a queue of quantities.  A trade consumes what is ahead, then the order, then what
is behind; a new depth adds behind, or cancels from behind and only then from ahead.  Over any
ordered field:

* `filled_le` — the order gets at most what it wants and what is traded;
* `left_run_mono` — the further ahead an order stands, the more it has got, after any events.
-/

namespace QueueLaw

variable {R : Type*} [Field R] [LinearOrder R]

/-- Where an order stands, and what it still wants. -/
structure Position (R : Type*) where
  ahead : R
  behind : R
  left : R

/-- What happens at the price of the queue. -/
inductive Event (R : Type*) where
  | depth (quantity : R)
  | trade (quantity : R)

/-- Where a trade goes. -/
structure Passage (R : Type*) where
  quantity : R
  aheadBefore : R
  ahead : R
  fill : R
  behind : R
  unmatched : R
  aheadAfter : R
  behindAfter : R

namespace Position

/-- What a trade consumes. -/
def passage (p : Position R) (q : R) : Passage R :=
  let ahead := min p.ahead q
  let fill := min p.left (q - ahead)
  let behind := min p.behind (q - ahead - fill)
  ⟨q, p.ahead, ahead, fill, behind, q - ahead - fill - behind, p.ahead - ahead, p.behind - behind⟩

/-- A trade. -/
def trade (p : Position R) (q : R) : Position R :=
  ⟨(p.passage q).aheadAfter, (p.passage q).behindAfter, p.left - (p.passage q).fill⟩

/-- A new depth. -/
def depth (p : Position R) (q : R) : Position R :=
  if p.ahead + p.behind ≤ q then { p with behind := p.behind + (q - (p.ahead + p.behind)) }
  else
    let reduction := p.ahead + p.behind - q
    let cancelled := min p.behind reduction
    { p with ahead := p.ahead - min p.ahead (reduction - cancelled), behind := p.behind - cancelled }

/-- Nothing is negative. -/
structure Valid (p : Position R) : Prop where
  ahead : 0 ≤ p.ahead
  behind : 0 ≤ p.behind
  left : 0 ≤ p.left

end Position

/-- The quantity of an event. -/
def Event.quantity : Event R → R
  | .depth q => q
  | .trade q => q

/-- One event after the other, until the order is filled. -/
def run : List (Event R) → Position R → Position R
  | [], p => p
  | .depth q :: rest, p => run rest (p.depth q)
  | .trade q :: rest, p => if (p.trade q).left = 0 then p.trade q else run rest (p.trade q)

/-- Where the trades of a run go. -/
def passages : List (Event R) → Position R → List (Passage R)
  | [], _ => []
  | .depth q :: rest, p => passages rest (p.depth q)
  | .trade q :: rest, p => p.passage q
    :: if (p.trade q).left = 0 then [] else passages rest (p.trade q)

/-! ### One event -/

theorem Position.left_depth (p : Position R) (q : R) : (p.depth q).left = p.left := by
  unfold depth
  split <;> rfl

variable [IsStrictOrderedRing R] {p p' : Position R} {q : R} {events : List (Event R)}

theorem Position.ahead_trade (p : Position R) (q : R) : (p.trade q).ahead = max (p.ahead - q) 0 := by
  simp only [trade, passage]
  rcases le_total p.ahead q with h | h
  · rw [min_eq_left h, sub_self, max_eq_right (sub_nonpos.mpr h)]
  · rw [min_eq_right h, max_eq_left (sub_nonneg.mpr h)]

theorem Position.left_trade (p : Position R) (q : R) :
    (p.trade q).left = max (p.left - max (q - p.ahead) 0) 0 := by
  have hrest : q - min p.ahead q = max (q - p.ahead) 0 := by
    rcases le_total p.ahead q with h | h
    · rw [min_eq_left h, max_eq_left (sub_nonneg.mpr h)]
    · rw [min_eq_right h, sub_self, max_eq_right (sub_nonpos.mpr h)]
  simp only [trade, passage]
  rw [hrest]
  rcases le_total p.left (max (q - p.ahead) 0) with h | h
  · rw [min_eq_left h, sub_self, max_eq_right (sub_nonpos.mpr h)]
  · rw [min_eq_right h, max_eq_left (sub_nonneg.mpr h)]

/-- **A new depth** is cancelled from behind, and what is still too much ahead. -/
theorem Position.depth_eq (hp : p.Valid) (hq : 0 ≤ q) :
    p.depth q = { p with ahead := min p.ahead q, behind := q - min p.ahead q } := by
  obtain ⟨hahead, hbehind, -⟩ := hp
  unfold depth
  by_cases hgrow : p.ahead + p.behind ≤ q
  · rw [if_pos hgrow, min_eq_left (by linarith)]
    congr 1
    ring
  · rw [if_neg hgrow]
    dsimp only
    rcases le_total p.behind (p.ahead + p.behind - q) with h | h
    · have hcut : p.ahead + p.behind - q - p.behind = p.ahead - q := by ring
      rw [min_eq_left h, hcut, min_eq_right (by linarith : p.ahead - q ≤ p.ahead),
        min_eq_right (by linarith : q ≤ p.ahead)]
      congr 1 <;> ring
    · rw [min_eq_right h, sub_self, min_eq_right hahead, sub_zero,
        min_eq_left (by linarith : p.ahead ≤ q)]
      congr 1
      ring

theorem Position.ahead_depth (hp : p.Valid) (hq : 0 ≤ q) : (p.depth q).ahead = min p.ahead q := by
  rw [depth_eq hp hq]

/-- After a new depth the queue has it. -/
theorem Position.total_depth (hp : p.Valid) (hq : 0 ≤ q) :
    (p.depth q).ahead + (p.depth q).behind = q := by
  rw [depth_eq hp hq]
  exact add_sub_cancel _ _

theorem Position.valid_trade (p : Position R) (q : R) : (p.trade q).Valid := by
  refine ⟨?_, ?_, ?_⟩
  · rw [Position.ahead_trade]
    exact le_max_right _ _
  · simp only [Position.trade, Position.passage]
    exact sub_nonneg.mpr (min_le_left _ _)
  · rw [Position.left_trade]
    exact le_max_right _ _

theorem Position.Valid.depth (hp : p.Valid) (hq : 0 ≤ q) : (p.depth q).Valid := by
  refine ⟨?_, ?_, ?_⟩
  · rw [Position.ahead_depth hp hq]
    exact le_min hp.ahead hq
  · have htotal := Position.total_depth hp hq
    have hless : (p.depth q).ahead ≤ q := by
      rw [Position.ahead_depth hp hq]
      exact min_le_right _ _
    linarith
  · rw [Position.left_depth]
    exact hp.left

/-! ### Runs -/

/-- **What is ahead never grows.** -/
theorem ahead_run_le (hp : p.Valid) (hevents : ∀ e ∈ events, 0 ≤ e.quantity) :
    (run events p).ahead ≤ p.ahead := by
  induction events generalizing p with
  | nil => exact le_rfl
  | cons e rest ih =>
    rw [List.forall_mem_cons] at hevents
    cases e with
    | depth q =>
      have hq : 0 ≤ q := hevents.1
      refine (ih (hp.depth hq) hevents.2).trans ?_
      rw [Position.ahead_depth hp hq]
      exact min_le_left _ _
    | trade q =>
      have hstep : (p.trade q).ahead ≤ p.ahead := by
        rw [Position.ahead_trade]
        exact max_le (sub_le_self _ hevents.1) hp.ahead
      rw [run]
      split
      · exact hstep
      · exact (ih (p.valid_trade q) hevents.2).trans hstep

/-- What is ahead after more events is no more than after fewer. -/
theorem ahead_run_append_le {later : List (Event R)} (hp : p.Valid)
    (hevents : ∀ e ∈ events, 0 ≤ e.quantity) (hlater : ∀ e ∈ later, 0 ≤ e.quantity) :
    (run (events ++ later) p).ahead ≤ (run events p).ahead := by
  induction events generalizing p with
  | nil => exact ahead_run_le hp hlater
  | cons e rest ih =>
    rw [List.forall_mem_cons] at hevents
    cases e with
    | depth q => exact ih (hp.depth hevents.1) hevents.2
    | trade q =>
      rw [List.cons_append, run, run]
      by_cases hdone : (p.trade q).left = 0
      · rw [if_pos hdone, if_pos hdone]
      · rw [if_neg hdone, if_neg hdone]
        exact ih (p.valid_trade q) hevents.2

omit [IsStrictOrderedRing R] in
/-- What the trades of a run give the order is what it has got. -/
theorem sum_fill_passages (events : List (Event R)) (p : Position R) :
    ((passages events p).map (·.fill)).sum = p.left - (run events p).left := by
  induction events generalizing p with
  | nil => simp [passages, run]
  | cons e rest ih =>
    cases e with
    | depth q => rw [passages, run, ih, Position.left_depth]
    | trade q =>
      rw [passages, run, List.map_cons, List.sum_cons]
      have hstep : p.left - (p.trade q).left = (p.passage q).fill := by
        simp only [Position.trade]
        ring
      split
      · rw [List.map_nil, List.sum_nil, hstep, add_zero]
      · rw [ih, ← hstep]
        ring

theorem fill_nonneg (hp : p.Valid) (q : R) : 0 ≤ (p.passage q).fill :=
  le_min hp.left (sub_nonneg.mpr (min_le_right _ _))

theorem fill_le (hp : p.Valid) (hq : 0 ≤ q) : (p.passage q).fill ≤ q := by
  have hahead : 0 ≤ min p.ahead q := le_min hp.ahead hq
  exact (min_le_right _ _).trans (sub_le_self _ hahead)

theorem left_run_nonneg (hp : p.Valid) (hevents : ∀ e ∈ events, 0 ≤ e.quantity) :
    0 ≤ (run events p).left := by
  induction events generalizing p with
  | nil => exact hp.left
  | cons e rest ih =>
    rw [List.forall_mem_cons] at hevents
    cases e with
    | depth q => exact ih (hp.depth hevents.1) hevents.2
    | trade q =>
      rw [run]
      split
      · exact (p.valid_trade q).left
      · exact ih (p.valid_trade q) hevents.2

/-- **The order gets at most what it wants, and at most what is traded.** -/
theorem filled_le (hp : p.Valid) (hevents : ∀ e ∈ events, 0 ≤ e.quantity) :
    p.left - (run events p).left ≤ min p.left ((passages events p).map (·.quantity)).sum := by
  refine le_min (sub_le_self _ (left_run_nonneg hp hevents)) ?_
  rw [← sum_fill_passages]
  induction events generalizing p with
  | nil => exact le_rfl
  | cons e rest ih =>
    rw [List.forall_mem_cons] at hevents
    cases e with
    | depth q => exact ih (hp.depth hevents.1) hevents.2
    | trade q =>
      rw [passages, List.map_cons, List.map_cons, List.sum_cons, List.sum_cons]
      have hfill : (p.passage q).fill ≤ (p.passage q).quantity := fill_le hp hevents.1
      split
      · simpa using hfill
      · exact add_le_add hfill (ih (p.valid_trade q) hevents.2)

/-- **The further ahead an order stands, the more it has got**, after the same events. -/
theorem left_run_mono (hp : p.Valid) (hp' : p'.Valid) (hahead : p.ahead ≤ p'.ahead)
    (hleft : p.left ≤ p'.left) (hevents : ∀ e ∈ events, 0 ≤ e.quantity) :
    (run events p).left ≤ (run events p').left := by
  induction events generalizing p p' with
  | nil => exact hleft
  | cons e rest ih =>
    rw [List.forall_mem_cons] at hevents
    cases e with
    | depth q =>
      have hq : 0 ≤ q := hevents.1
      refine ih (hp.depth hq) (hp'.depth hq) ?_ ?_ hevents.2
      · rw [Position.ahead_depth hp hq, Position.ahead_depth hp' hq]
        exact min_le_min_right q hahead
      · rw [Position.left_depth, Position.left_depth]
        exact hleft
    | trade q =>
      have hstepAhead : (p.trade q).ahead ≤ (p'.trade q).ahead := by
        rw [Position.ahead_trade, Position.ahead_trade]
        exact max_le_max_right 0 (sub_le_sub_right hahead q)
      have hstepLeft : (p.trade q).left ≤ (p'.trade q).left := by
        rw [Position.left_trade, Position.left_trade]
        apply max_le_max_right
        exact sub_le_sub hleft (max_le_max_right 0 (sub_le_sub_left hahead q))
      have hvalid := p.valid_trade q
      have hvalid' := p'.valid_trade q
      rw [run, run]
      by_cases hdone : (p.trade q).left = 0
      · rw [if_pos hdone, hdone]
        split
        · exact hvalid'.left
        · exact left_run_nonneg hvalid' hevents.2
      · -- the order behind is not filled before the one ahead
        have hdone' : (p'.trade q).left ≠ 0 := by
          intro hzero
          rw [hzero] at hstepLeft
          exact hdone (le_antisymm hstepLeft hvalid.left)
        rw [if_neg hdone, if_neg hdone']
        exact ih hvalid hvalid' hstepAhead hstepLeft hevents.2

end QueueLaw

end PyModel
