import Mathlib.Algebra.BigOperators.Group.List.Basic
import Mathlib.Algebra.Order.Ring.Defs
import Mathlib.Tactic.Linarith
import Mathlib.Tactic.Ring

namespace PyModel

/-!
# Token buckets that are refilled lazily

A bucket of at most `burst` tokens gains `rate` tokens in a unit of time, but only when it is
looked at.  What is admitted takes its cost from the bucket.

* `TokenBucket.Conforms` — the bucket against its history, with the bound over every window;
* `refill_conforms`, `spend_conforms` — the operations keep it.

The bound over the windows alone is not inductive.  It is carried by `since`: what was spent since
a time, and what may still be spent now.
-/

variable {K : Type*} [CommRing K] [LinearOrder K] [IsStrictOrderedRing K]

/-- A bucket: its tokens, and when it was looked at last. -/
structure TokenBucket (K : Type*) where
  tokens : K
  lastSeen : K

namespace TokenBucket

/-- The bucket at a later time. -/
def refill (burst rate : K) (b : TokenBucket K) (now : K) : TokenBucket K :=
  ⟨min burst (b.tokens + rate * (now - b.lastSeen)), now⟩

/-- The bucket without the cost of an admission. -/
def spend (b : TokenBucket K) (cost : K) : TokenBucket K := { b with tokens := b.tokens - cost }

end TokenBucket

/-- The cost of the admissions, each with its time, from a time on. -/
def costSince (admitted : List (K × K)) (a : K) : K :=
  ((admitted.filter (fun e => a ≤ e.1)).map Prod.snd).sum

/-- The cost of the admissions in a window. -/
def costIn (admitted : List (K × K)) (a z : K) : K :=
  ((admitted.filter (fun e => a ≤ e.1 ∧ e.1 ≤ z)).map Prod.snd).sum

section

variable {admitted : List (K × K)} {a z now cost : K}

omit [IsStrictOrderedRing K] in
theorem costSince_concat :
    costSince (admitted ++ [(now, cost)]) a
      = costSince admitted a + if a ≤ now then cost else 0 := by
  rw [costSince, List.filter_append, List.map_append, List.sum_append, costSince]
  by_cases h : a ≤ now <;> simp [h]

omit [IsStrictOrderedRing K] in
theorem costIn_concat :
    costIn (admitted ++ [(now, cost)]) a z
      = costIn admitted a z + if a ≤ now ∧ now ≤ z then cost else 0 := by
  rw [costIn, List.filter_append, List.map_append, List.sum_append, costIn]
  by_cases h : a ≤ now ∧ now ≤ z <;> simp [h]

omit [IsStrictOrderedRing K] in
/-- Nothing was admitted after the last time. -/
theorem costSince_eq_zero (h : ∀ e ∈ admitted, e.1 < a) : costSince admitted a = 0 := by
  rw [costSince, List.filter_eq_nil_iff.mpr, List.map_nil, List.sum_nil]
  intro e he
  simpa using h e he

omit [IsStrictOrderedRing K] in
/-- A window that ends after the last time. -/
theorem costIn_eq_costSince (h : ∀ e ∈ admitted, e.1 ≤ z) :
    costIn admitted a z = costSince admitted a := by
  rw [costIn, costSince]
  congr 2
  refine List.filter_congr fun e he => ?_
  simp [h e he]

end

namespace TokenBucket

/-- A bucket and what was admitted so far. -/
structure Conforms (burst rate : K) (b : TokenBucket K) (admitted : List (K × K)) : Prop where
  nonneg : 0 ≤ b.tokens
  le_burst : b.tokens ≤ burst
  /-- nothing was admitted later than the bucket was looked at -/
  seen : ∀ e ∈ admitted, e.1 ≤ b.lastSeen
  /-- what was spent since a time, and what is left -/
  since : ∀ a ≤ b.lastSeen, costSince admitted a + b.tokens ≤ burst + rate * (b.lastSeen - a)
  /-- what was spent in a window -/
  window : ∀ a z, a ≤ z → costIn admitted a z ≤ burst + rate * (z - a)

variable {burst rate now cost : K} {b : TokenBucket K} {admitted : List (K × K)}

/-- A full bucket, nothing admitted. -/
theorem conforms_full (hburst : 0 ≤ burst) (hrate : 0 ≤ rate) (start : K) :
    Conforms burst rate ⟨burst, start⟩ [] where
  nonneg := hburst
  le_burst := le_refl burst
  seen e he := by cases he
  since a ha := by
    have hgain := mul_nonneg hrate (sub_nonneg.mpr ha)
    show 0 + burst ≤ burst + rate * (start - a)
    linarith
  window a z haz := by
    have hgain := mul_nonneg hrate (sub_nonneg.mpr haz)
    show 0 ≤ burst + rate * (z - a)
    linarith

theorem Conforms.refill (h : Conforms burst rate b admitted) (hrate : 0 ≤ rate)
    (hnow : b.lastSeen ≤ now) : Conforms burst rate (b.refill burst rate now) admitted := by
  have hgain := mul_nonneg hrate (sub_nonneg.mpr hnow)
  have hnonneg := h.nonneg
  have hburst := h.le_burst
  refine ⟨?_, min_le_left _ _, fun e he => (h.seen e he).trans hnow, fun a ha => ?_, h.window⟩
  · exact le_min (by linarith) (by linarith)
  · show costSince admitted a + min burst (b.tokens + rate * (now - b.lastSeen))
      ≤ burst + rate * (now - a)
    rcases le_or_gt a b.lastSeen with hle | hgt
    · have hsince := h.since a hle
      have hmin := min_le_right burst (b.tokens + rate * (now - b.lastSeen))
      have hsplit : rate * (now - a) = rate * (b.lastSeen - a) + rate * (now - b.lastSeen) := by
        ring
      linarith
    · rw [costSince_eq_zero fun e he => (h.seen e he).trans_lt hgt]
      have hmin := min_le_left burst (b.tokens + rate * (now - b.lastSeen))
      have hlater := mul_nonneg hrate (sub_nonneg.mpr (show a ≤ now from ha))
      linarith

/-- **An admission**, of a cost that the bucket holds. -/
theorem Conforms.spend (h : Conforms burst rate b admitted) (hrate : 0 ≤ rate) (hcost : 0 ≤ cost)
    (hholds : cost ≤ b.tokens) :
    Conforms burst rate (b.spend cost) (admitted ++ [(b.lastSeen, cost)]) := by
  have hburst := h.le_burst
  refine ⟨sub_nonneg.mpr hholds, ?_, fun e he => ?_, fun a ha => ?_, fun a z haz => ?_⟩
  · show b.tokens - cost ≤ burst
    linarith
  · rcases List.mem_append.mp he with hold | hnew
    · exact h.seen e hold
    · rw [List.mem_singleton.mp hnew]
      exact le_refl b.lastSeen
  · have hsince := h.since a ha
    rw [costSince_concat, if_pos (show a ≤ b.lastSeen from ha)]
    show costSince admitted a + cost + (b.tokens - cost) ≤ burst + rate * (b.lastSeen - a)
    linarith
  · rw [costIn_concat]
    split
    · rename_i hin
      -- the window holds the new admission, so it ends after all of them
      rw [costIn_eq_costSince fun e he => (h.seen e he).trans hin.2]
      have hsince := h.since a hin.1
      have hlater := mul_le_mul_of_nonneg_left (sub_le_sub_right hin.2 a) hrate
      linarith
    · rw [add_zero]
      exact h.window a z haz

end TokenBucket

end PyModel
