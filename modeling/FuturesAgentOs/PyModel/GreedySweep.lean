import Mathlib.Algebra.BigOperators.Group.List.Basic
import Mathlib.Algebra.Order.BigOperators.Group.List
import Mathlib.Algebra.Order.Ring.Defs
import Mathlib.Tactic.Linarith
import Mathlib.Tactic.Ring

namespace PyModel

/-!
# Taking from a list of levels, front to back

A request takes what it can from each level in turn.  This is the general fact behind a sweep of an
order book, over any ordered ring:

* `IsAllocation` — any way of taking from the levels;
* `cost_takes_le`, `le_cost_takes` — when the levels are sorted by price, no other way of taking the
  same amount is cheaper (or dearer, when they are sorted downwards).
-/

namespace GreedySweep

variable {R : Type*} [CommRing R] [LinearOrder R]

/-- What a request for `r` takes of each level. -/
def takes : R → List R → List R
  | _, [] => []
  | r, q :: qs => min r q :: takes (r - min r q) qs

/-- The amounts paid at their prices. -/
def cost (prices amounts : List R) : R := (List.zipWith (· * ·) prices amounts).sum

/-- A way of taking from the levels. -/
def IsAllocation (amounts quantities : List R) : Prop :=
  List.Forall₂ (fun t q => 0 ≤ t ∧ t ≤ q) amounts quantities

@[simp] theorem takes_nil (r : R) : takes r [] = [] := rfl

@[simp] theorem takes_cons (r q : R) (qs : List R) :
    takes r (q :: qs) = min r q :: takes (r - min r q) qs := rfl

omit [LinearOrder R] in
@[simp] theorem cost_nil (amounts : List R) : cost [] amounts = 0 := rfl

omit [LinearOrder R] in
@[simp] theorem cost_cons (p t : R) (ps ts : List R) :
    cost (p :: ps) (t :: ts) = p * t + cost ps ts := by
  simp [cost]

theorem length_takes (r : R) (qs : List R) : (takes r qs).length = qs.length := by
  induction qs generalizing r with
  | nil => rfl
  | cons q qs ih => rw [takes_cons, List.length_cons, ih, List.length_cons]

variable [IsStrictOrderedRing R] {r : R} {qs : List R}

theorem isAllocation_takes (hr : 0 ≤ r) (hqs : ∀ q ∈ qs, 0 ≤ q) : IsAllocation (takes r qs) qs := by
  induction qs generalizing r with
  | nil => exact List.Forall₂.nil
  | cons q qs ih =>
    rw [List.forall_mem_cons] at hqs
    have hrest : 0 ≤ r - min r q := sub_nonneg.mpr (min_le_left r q)
    exact List.Forall₂.cons ⟨le_min hr hqs.1, min_le_right r q⟩ (ih hrest hqs.2)

/-- **The request is met as far as the levels reach.** -/
theorem sum_takes (hr : 0 ≤ r) (hqs : ∀ q ∈ qs, 0 ≤ q) : (takes r qs).sum = min r qs.sum := by
  induction qs generalizing r with
  | nil => simp [hr]
  | cons q qs ih =>
    rw [List.forall_mem_cons] at hqs
    have hsum : 0 ≤ qs.sum := List.sum_nonneg hqs.2
    have hrest : 0 ≤ r - min r q := sub_nonneg.mpr (min_le_left r q)
    rw [takes_cons, List.sum_cons, ih hrest hqs.2, List.sum_cons]
    rcases le_total r q with h | h
    · rw [min_eq_left h, sub_self, min_eq_left hsum, min_eq_left (by linarith), add_zero]
    · rw [min_eq_right h, ← min_add_add_left]
      congr 1
      ring

/-- Nothing is taken for a request for nothing. -/
theorem sum_takes_zero (hqs : ∀ q ∈ qs, 0 ≤ q) : (takes 0 qs).sum = 0 := by
  rw [sum_takes le_rfl hqs, min_eq_left (List.sum_nonneg hqs)]

omit [IsStrictOrderedRing R] in
theorem takes_of_mem {t : R} {qs : List R} (hqs : ∀ q ∈ qs, 0 ≤ q) (h : t ∈ takes 0 qs) :
    t = 0 := by
  induction qs with
  | nil => cases h
  | cons q qs ih =>
    rw [List.forall_mem_cons] at hqs
    rw [takes_cons, min_eq_left hqs.1, sub_self] at h
    rcases List.mem_cons.mp h with rfl | h
    · rfl
    · exact ih hqs.2 h

omit [IsStrictOrderedRing R] in
/-- **A level is touched only when every level before it is exhausted.** -/
theorem exhausted_takes {r : R} {qs : List R} (hqs : ∀ q ∈ qs, 0 ≤ q) :
    ((takes r qs).zip qs).Pairwise fun x y => 0 < y.1 → x.1 = x.2 := by
  induction qs generalizing r with
  | nil => exact List.Pairwise.nil
  | cons q qs ih =>
    rw [List.forall_mem_cons] at hqs
    rw [takes_cons, List.zip_cons_cons, List.pairwise_cons]
    refine ⟨fun y hy hpos => ?_, ih hqs.2⟩
    -- were the level not exhausted, nothing would be left to take
    by_contra hne
    have hlt : r < q := by
      by_contra hge
      exact hne (min_eq_right (not_lt.mp hge))
    rw [min_eq_left hlt.le, sub_self] at hy
    have hzero := takes_of_mem hqs.2 (List.of_mem_zip hy).1
    rw [hzero] at hpos
    exact lt_irrefl _ hpos

variable {amounts prices quantities : List R}

/-- What another way of taking pays beyond the sweep, for what it takes beyond the sweep. -/
theorem cost_takes_add_le {p₀ : R}
    (hlength : prices.length = quantities.length) (hbase : ∀ p ∈ prices, p₀ ≤ p)
    (hsorted : prices.Pairwise (· ≤ ·)) (hr : 0 ≤ r) (hqs : ∀ q ∈ quantities, 0 ≤ q)
    (hamounts : IsAllocation amounts quantities) (hsum : (takes r quantities).sum ≤ amounts.sum) :
    cost prices (takes r quantities) + (amounts.sum - (takes r quantities).sum) * p₀
      ≤ cost prices amounts := by
  induction prices generalizing r quantities amounts p₀ with
  | nil =>
    obtain rfl : quantities = [] := List.length_eq_zero_iff.mp hlength.symm
    cases hamounts
    simp
  | cons p ps ih =>
    rcases quantities with _ | ⟨q, qs⟩
    · cases hlength
    rcases amounts with _ | ⟨t, ts⟩
    · cases hamounts
    obtain ⟨ht, hts⟩ := List.forall₂_cons.mp hamounts
    rw [List.forall_mem_cons] at hbase hqs
    rw [List.pairwise_cons] at hsorted
    rw [takes_cons, List.sum_cons, List.sum_cons] at hsum
    have hrest : 0 ≤ r - min r q := sub_nonneg.mpr (min_le_left r q)
    have hts0 : 0 ≤ ts.sum := by
      apply List.sum_nonneg
      intro x hx
      obtain ⟨i, hi, rfl⟩ := List.getElem_of_mem hx
      exact (List.Forall₂.get hts hi (hts.length_eq ▸ hi)).1
    -- the rest takes at least what the sweep takes of it
    have hless : (takes (r - min r q) qs).sum ≤ ts.sum := by
      rcases le_or_gt t (min r q) with hle | hgt
      · linarith
      · have hrq : r ≤ q := by
          by_contra hqr
          rw [min_eq_right (not_le.mp hqr).le] at hgt
          exact absurd ht.2 hgt.not_ge
        rw [min_eq_left hrq, sub_self, sum_takes_zero hqs.2]
        exact hts0
    have hcost := ih (Nat.succ.inj hlength) hsorted.1 hsorted.2 hrest hqs.2 hts hless
    have hextra : 0 ≤ t + ts.sum - (min r q + (takes (r - min r q) qs).sum) := sub_nonneg.mpr hsum
    have hprice := mul_le_mul_of_nonneg_left hbase.1 hextra
    rw [takes_cons, cost_cons, cost_cons, List.sum_cons, List.sum_cons]
    linarith

/-- **A sweep of levels sorted upwards is the cheapest way** of taking what it takes. -/
theorem cost_takes_le
    (hlength : prices.length = quantities.length) (hsorted : prices.Pairwise (· ≤ ·)) (hr : 0 ≤ r)
    (hqs : ∀ q ∈ quantities, 0 ≤ q) (hamounts : IsAllocation amounts quantities)
    (hsum : amounts.sum = (takes r quantities).sum) :
    cost prices (takes r quantities) ≤ cost prices amounts := by
  rcases prices with _ | ⟨p, ps⟩
  · simp
  have hbase : ∀ x ∈ p :: ps, p ≤ x := by
    rw [List.forall_mem_cons]
    exact ⟨le_rfl, (List.pairwise_cons.mp hsorted).1⟩
  have h := cost_takes_add_le hlength hbase hsorted hr hqs hamounts hsum.ge
  rwa [hsum, sub_self, zero_mul, add_zero] at h

omit [LinearOrder R] [IsStrictOrderedRing R] in
theorem cost_neg (prices amounts : List R) : cost (prices.map (- ·)) amounts = -cost prices amounts := by
  induction prices generalizing amounts with
  | nil => simp [cost]
  | cons p ps ih =>
    rcases amounts with _ | ⟨t, ts⟩
    · simp [cost]
    · rw [List.map_cons, cost_cons, cost_cons, ih]
      ring

/-- **A sweep of levels sorted downwards is the dearest way** of taking what it takes. -/
theorem le_cost_takes
    (hlength : prices.length = quantities.length) (hsorted : prices.Pairwise (· ≥ ·)) (hr : 0 ≤ r)
    (hqs : ∀ q ∈ quantities, 0 ≤ q) (hamounts : IsAllocation amounts quantities)
    (hsum : amounts.sum = (takes r quantities).sum) :
    cost prices amounts ≤ cost prices (takes r quantities) := by
  have hneg : (prices.map (- ·)).Pairwise (· ≤ ·) := by
    rw [List.pairwise_map]
    exact hsorted.imp fun h => neg_le_neg h
  have hlength' : (prices.map (- ·)).length = quantities.length := by rw [List.length_map, hlength]
  have h := cost_takes_le hlength' hneg hr hqs hamounts hsum
  rw [cost_neg, cost_neg] at h
  exact neg_le_neg_iff.mp h

end GreedySweep

end PyModel
