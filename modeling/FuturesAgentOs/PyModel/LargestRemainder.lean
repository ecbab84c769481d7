import Mathlib.Algebra.BigOperators.Ring.Finset
import Mathlib.Algebra.Order.BigOperators.Group.Finset
import Mathlib.Algebra.Order.Floor.Ring
import Mathlib.Data.List.Sort
import Mathlib.Data.Rat.Floor
import Mathlib.Tactic.Linarith

namespace PyModel

/-!
# Largest remainders

Shares that add up to a whole number are rounded down, and what is left goes in units to the largest
remainders, one unit each.

* `sum_allocation`, `abs_sub_lt`, `allocation_mono` — nothing is lost, no share is missed by a unit,
  and a larger share never gets less;
* `isRaised_take` — the members that a sorted list has first.
-/

namespace LargestRemainder

variable {ι : Type} [Fintype ι] [DecidableEq ι] (share : ι → ℚ) (raised : Finset ι)

/-- The units of a share: its floor, and one more where it is raised. -/
def allocation (i : ι) : ℤ := ⌊share i⌋ + if i ∈ raised then 1 else 0

/-- As many members are raised as units are left, and none has a smaller remainder than one that is
not raised. -/
structure IsRaised : Prop where
  card : (raised.card : ℚ) = ∑ i, Int.fract (share i)
  largest : ∀ i ∈ raised, ∀ j ∉ raised, Int.fract (share j) ≤ Int.fract (share i)

variable {share raised}

/-- **Nothing is lost.** -/
theorem sum_allocation (h : IsRaised share raised) :
    ∑ i, (allocation share raised i : ℚ) = ∑ i, share i := by
  have hraised : ∑ i, (if i ∈ raised then (1 : ℚ) else 0) = raised.card := by
    rw [Finset.sum_ite_mem, Finset.univ_inter, Finset.sum_const, nsmul_eq_mul, mul_one]
  calc ∑ i, (allocation share raised i : ℚ)
      = ∑ i, ((⌊share i⌋ : ℚ) + if i ∈ raised then 1 else 0) := by
        refine Finset.sum_congr rfl fun i _ => ?_
        rw [allocation]
        push_cast
        split <;> rfl
    _ = ∑ i, (⌊share i⌋ : ℚ) + ∑ i, Int.fract (share i) := by
        rw [Finset.sum_add_distrib, hraised, h.card]
    _ = ∑ i, share i := by
        rw [← Finset.sum_add_distrib]
        exact Finset.sum_congr rfl fun i _ => Int.floor_add_fract (share i)

/-- A member that is raised has a remainder. -/
theorem fract_pos (h : IsRaised share raised) {i : ι} (hi : i ∈ raised) :
    0 < Int.fract (share i) := by
  by_contra hle
  have hzero : Int.fract (share i) = 0 := le_antisymm (not_lt.mp hle) (Int.fract_nonneg _)
  -- then nothing is left to the members that are not raised
  have hrest : ∑ j ∈ Finset.univ \ raised, Int.fract (share j) = 0 := by
    refine Finset.sum_eq_zero fun j hj => ?_
    have hle := h.largest i hi j (Finset.mem_sdiff.mp hj).2
    rw [hzero] at hle
    exact le_antisymm hle (Int.fract_nonneg _)
  have hraised : ∑ j ∈ raised, Int.fract (share j) < raised.card := by
    have hlt := Finset.sum_lt_sum_of_nonempty ⟨i, hi⟩ fun j (_ : j ∈ raised) =>
      Int.fract_lt_one (share j)
    rwa [Finset.sum_const, nsmul_eq_mul, mul_one] at hlt
  have hsplit := Finset.sum_sdiff (f := fun j => Int.fract (share j)) (Finset.subset_univ raised)
  have hcard := h.card
  linarith

/-- **No share is missed by a unit.** -/
theorem abs_sub_lt (h : IsRaised share raised) (i : ι) :
    |(allocation share raised i : ℚ) - share i| < 1 := by
  have hfloor := Int.floor_add_fract (share i)
  have hlt := Int.fract_lt_one (share i)
  have hnonneg := Int.fract_nonneg (share i)
  rw [abs_lt, allocation]
  by_cases hi : i ∈ raised
  · have hpos := fract_pos h hi
    rw [if_pos hi]
    push_cast
    constructor <;> linarith
  · rw [if_neg hi]
    push_cast
    constructor <;> linarith

/-- **A larger share never gets less.** -/
theorem allocation_mono (h : IsRaised share raised) {i j : ι} (hlt : share i < share j) :
    allocation share raised i ≤ allocation share raised j := by
  have hfloor : ⌊share i⌋ ≤ ⌊share j⌋ := Int.floor_le_floor hlt.le
  have hone : ∀ k : ι, 0 ≤ (if k ∈ raised then (1 : ℤ) else 0)
      ∧ (if k ∈ raised then (1 : ℤ) else 0) ≤ 1 := fun k => by split <;> decide
  rw [allocation, allocation]
  rcases hfloor.lt_or_eq with hfloor | hfloor
  · have := hone i
    have := hone j
    omega
  · rw [hfloor]
    by_cases hi : i ∈ raised
    · have hj : j ∈ raised := by
        by_contra hj
        have hle := h.largest i hi j hj
        rw [Int.fract, Int.fract, hfloor] at hle
        linarith
      rw [if_pos hi, if_pos hj]
    · rw [if_neg hi]
      have := hone j
      omega

omit [Fintype ι] in
theorem allocation_nonneg {i : ι} (h : 0 ≤ share i) : 0 ≤ allocation share raised i := by
  have hfloor : 0 ≤ ⌊share i⌋ := Int.floor_nonneg.mpr h
  rw [allocation]
  split <;> omega

omit [DecidableEq ι] in
/-- There are fewer units left than members, so that there is one for each. -/
theorem sum_fract_le (share : ι → ℚ) : ∑ i, Int.fract (share i) ≤ Fintype.card ι := by
  calc ∑ i, Int.fract (share i) ≤ ∑ _i : ι, (1 : ℚ) :=
        Finset.sum_le_sum fun i _ => (Int.fract_lt_one (share i)).le
    _ = Fintype.card ι := by simp

/-- **The first members of a sorted list** are raised. -/
theorem isRaised_take {priority : List ι} {k : ℕ} (hperm : priority.Perm Finset.univ.toList)
    (hsorted : priority.Pairwise fun i j => Int.fract (share j) ≤ Int.fract (share i))
    (hk : (k : ℚ) = ∑ i, Int.fract (share i)) : IsRaised share (priority.take k).toFinset := by
  have hnodup : priority.Nodup := hperm.nodup_iff.mpr (Finset.nodup_toList _)
  have hlength : priority.length = Fintype.card ι := by
    rw [hperm.length_eq, Finset.length_toList, Finset.card_univ]
  have hkle : k ≤ priority.length := by
    have hle := sum_fract_le share
    rw [← hk, ← hlength] at hle
    exact_mod_cast hle
  constructor
  · rw [List.toFinset_card_of_nodup (hnodup.sublist (List.take_sublist k priority)),
      List.length_take, Nat.min_eq_left hkle, hk]
  · intro i hi j hj
    rw [List.mem_toFinset] at hi hj
    have hmem : j ∈ priority := hperm.mem_iff.mpr (Finset.mem_toList.mpr (Finset.mem_univ j))
    rw [← List.take_append_drop k priority] at hsorted hmem
    exact (List.pairwise_append.mp hsorted).2.2 i hi j
      ((List.mem_append.mp hmem).resolve_left hj)

end LargestRemainder

end PyModel
