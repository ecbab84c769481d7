import Mathlib.Algebra.Order.Field.Power
import Mathlib.Data.Int.Log
import Mathlib.Data.Rat.Floor
import Mathlib.Tactic.FieldSimp
import Mathlib.Tactic.Linarith
import Mathlib.Tactic.Positivity
import Mathlib.Tactic.Ring

namespace PyModel

/-!
# Decimal numbers

Python's `Decimal`, without infinities and NaNs: a sign, a coefficient and an exponent.
Several triples stand for one number (`1`, `1.0`, `-0` and `0` are all different triples),
so two equalities matter.  Lean's `=` compares triples, which is what a rendered text shows;
`numEq` compares numbers, which is what Python's `==` does.

Arithmetic here is exact; `DecimalContext` adds the rounding of a context.  The `val_*`
lemmas push every operation down to `ℚ`.
-/

/-- A finite decimal `± coeff · 10 ^ exp`. -/
structure Decimal where
  /-- The sign bit. -/
  neg : Bool
  /-- The coefficient. -/
  coeff : ℕ
  /-- The exponent. -/
  exp : ℤ
  deriving DecidableEq

namespace Decimal

/-- The coefficient with its sign. -/
def signed (d : Decimal) : ℤ := if d.neg then -(d.coeff : ℤ) else d.coeff

/-- The number a triple stands for. -/
def val (d : Decimal) : ℚ := d.signed * (10 : ℚ) ^ d.exp

/-- The whole number `n`. -/
def ofNat (n : ℕ) : Decimal := ⟨false, n, 0⟩

/-- `Decimal(n)` of an integer. -/
def ofInt (n : ℤ) : Decimal := ⟨decide (n < 0), n.natAbs, 0⟩

/-- The signed coefficient of `d` written with exponent `e ≤ d.exp`. -/
def scaled (d : Decimal) (e : ℤ) : ℤ := d.signed * 10 ^ (d.exp - e).toNat

theorem scaled_mul (d : Decimal) {e : ℤ} (he : e ≤ d.exp) :
    (d.scaled e : ℚ) * (10 : ℚ) ^ e = d.val := by
  have hpow : (10 : ℚ) ^ (d.exp - e).toNat * (10 : ℚ) ^ e = (10 : ℚ) ^ d.exp := by
    rw [← zpow_natCast, ← zpow_add₀ (by norm_num)]
    congr 1; omega
  rw [scaled, val, Int.cast_mul, Int.cast_pow, mul_assoc]
  push_cast
  rw [hpow]

@[simp] theorem val_ofNat (n : ℕ) : (ofNat n).val = n := by
  simp [ofNat, val, signed]

theorem val_eq_zero_iff (d : Decimal) : d.val = 0 ↔ d.coeff = 0 := by
  have hpow : (10 : ℚ) ^ d.exp ≠ 0 := zpow_ne_zero _ (by norm_num)
  rw [val, mul_eq_zero, or_iff_left hpow]
  unfold signed
  split <;> simp

theorem val_of_neg_eq_false {d : Decimal} (h : d.neg = false) : d.val = d.coeff * 10 ^ d.exp := by
  simp [val, signed, h]

/-- A number that is not negative, and not a zero, has no sign. -/
theorem neg_eq_false_of_nonneg {d : Decimal} (hc : d.coeff ≠ 0) (h : 0 ≤ d.val) :
    d.neg = false := by
  have hpow : (0 : ℚ) < 10 ^ d.exp := zpow_pos (by norm_num) _
  have hcoeff : (0 : ℚ) < d.coeff := by exact_mod_cast Nat.pos_of_ne_zero hc
  by_contra hneg
  rw [Bool.not_eq_false] at hneg
  have hval : d.val = -((d.coeff : ℚ) * 10 ^ d.exp) := by simp [val, signed, hneg]
  have := mul_pos hcoeff hpow
  linarith

/-- The decimal logarithm of a number in terms of its digits. -/
theorem log_coeff_mul {c : ℕ} (hc : c ≠ 0) (e : ℤ) :
    Int.log 10 ((c : ℚ) * 10 ^ e) = Nat.log 10 c + e := by
  have hpow : (0 : ℚ) < 10 ^ e := zpow_pos (by norm_num) _
  have hcpos : (0 : ℚ) < c := by exact_mod_cast Nat.pos_of_ne_zero hc
  have hpos : 0 < (c : ℚ) * 10 ^ e := mul_pos hcpos hpow
  have hlower : (10 : ℚ) ^ Nat.log 10 c ≤ c := by exact_mod_cast Nat.pow_log_le_self 10 hc
  have hupper : (c : ℚ) < 10 ^ (Nat.log 10 c + 1) := by
    exact_mod_cast Nat.lt_pow_succ_log_self (by norm_num) c
  apply le_antisymm
  · rw [← Int.lt_add_one_iff, ← Int.lt_zpow_iff_log_lt (by norm_num) hpos]
    push_cast
    rw [add_right_comm, zpow_add₀ (by norm_num)]
    exact mul_lt_mul_of_pos_right (by exact_mod_cast hupper) hpow
  · rw [← Int.zpow_le_iff_le_log (by norm_num) hpos]
    push_cast
    rw [zpow_add₀ (by norm_num), zpow_natCast]
    exact mul_le_mul_of_nonneg_right hlower hpow.le

/-! ### Comparison -/

/-- Decimals are ordered by value.  The order is total, but not antisymmetric. -/
instance : Preorder Decimal := Preorder.lift val

/-- Python's `==` on decimals: the same number. -/
def numEq (a b : Decimal) : Prop := a.val = b.val

theorem le_def (a b : Decimal) : a ≤ b ↔ a.val ≤ b.val := Iff.rfl

theorem lt_def (a b : Decimal) : a < b ↔ a.val < b.val := Iff.rfl

protected theorem not_lt {a b : Decimal} : ¬ a < b ↔ b ≤ a := not_lt (a := a.val)

protected theorem not_le {a b : Decimal} : ¬ a ≤ b ↔ b < a := not_le (a := a.val)

/-- The two coefficients on the smaller exponent compare as the numbers do. -/
theorem scaled_le_iff (a b : Decimal) :
    a.scaled (min a.exp b.exp) ≤ b.scaled (min a.exp b.exp) ↔ a.val ≤ b.val := by
  have hpow : (0 : ℚ) < (10 : ℚ) ^ min a.exp b.exp := zpow_pos (by norm_num) _
  rw [← scaled_mul a (min_le_left _ _), ← scaled_mul b (min_le_right _ _),
    mul_le_mul_iff_left₀ hpow, Int.cast_le]

instance decidableLE (a b : Decimal) : Decidable (a ≤ b) :=
  decidable_of_iff _ (scaled_le_iff a b)

instance decidableLT (a b : Decimal) : Decidable (a < b) :=
  decidable_of_iff (¬ b ≤ a) (show ¬ b.val ≤ a.val ↔ a.val < b.val from not_le)

instance decidableNumEq (a b : Decimal) : Decidable (numEq a b) :=
  decidable_of_iff (a ≤ b ∧ b ≤ a)
    (show a.val ≤ b.val ∧ b.val ≤ a.val ↔ a.val = b.val from le_antisymm_iff.symm)

@[simp] theorem numEq_refl (a : Decimal) : numEq a a := rfl

/-- Python's `min(a, b)`: the first argument unless the second is smaller. -/
def min' (a b : Decimal) : Decimal := if b < a then b else a

theorem val_min' (a b : Decimal) : (min' a b).val = min a.val b.val := by
  unfold min'
  split
  · rename_i h; exact (min_eq_right (le_of_lt h)).symm
  · rename_i h; exact (min_eq_left (not_lt.mp h)).symm

/-- Python's `max(a, b)`: the first argument unless the second is greater. -/
def max' (a b : Decimal) : Decimal := if a < b then b else a

theorem val_max' (a b : Decimal) : (max' a b).val = max a.val b.val := by
  unfold max'
  split
  · rename_i h; exact (max_eq_right (le_of_lt h)).symm
  · rename_i h; exact (max_eq_left (not_lt.mp h)).symm

/-! ### Exact arithmetic -/

/-- `copy_negate` -/
def negate (a : Decimal) : Decimal := { a with neg := !a.neg }

/-- `copy_abs` -/
def abs (a : Decimal) : Decimal := { a with neg := false }

/-- The exact sum, on the smaller exponent.  A sum that cancels is `+0`; the sum of two
negative zeros is `-0`. -/
def add (a b : Decimal) : Decimal :=
  let e := min a.exp b.exp
  let n := a.scaled e + b.scaled e
  ⟨if n = 0 then a.neg && b.neg else decide (n < 0), n.natAbs, e⟩

/-- The exact difference. -/
def sub (a b : Decimal) : Decimal := a.add b.negate

/-- The exact product. -/
def mul (a b : Decimal) : Decimal := ⟨xor a.neg b.neg, a.coeff * b.coeff, a.exp + b.exp⟩

theorem signed_mk (n : ℤ) (z : Bool) (e : ℤ) :
    (Decimal.mk (if n = 0 then z else decide (n < 0)) n.natAbs e).signed = n := by
  rcases lt_trichotomy n 0 with hn | rfl | hn
  · simp only [signed, if_neg hn.ne, decide_eq_true hn, if_true]
    omega
  · simp [signed]
  · simp only [signed, if_neg hn.ne', decide_eq_false hn.not_gt, Bool.false_eq_true, if_false]
    omega

theorem signed_add (a b : Decimal) :
    (a.add b).signed = a.scaled (min a.exp b.exp) + b.scaled (min a.exp b.exp) :=
  signed_mk _ _ _

@[simp] theorem val_add (a b : Decimal) : (a.add b).val = a.val + b.val := by
  have hexp : (a.add b).exp = min a.exp b.exp := rfl
  rw [val, signed_add, hexp, Int.cast_add, add_mul, scaled_mul a (min_le_left _ _),
    scaled_mul b (min_le_right _ _)]

@[simp] theorem val_negate (a : Decimal) : a.negate.val = -a.val := by
  obtain ⟨n, c, e⟩ := a
  cases n <;> simp [val, negate, signed]

@[simp] theorem val_sub (a b : Decimal) : (a.sub b).val = a.val - b.val := by
  rw [sub, val_add, val_negate, sub_eq_add_neg]

@[simp] theorem val_abs (a : Decimal) : a.abs.val = |a.val| := by
  obtain ⟨n, c, e⟩ := a
  have hpow : |(10 : ℚ) ^ e| = (10 : ℚ) ^ e := abs_of_pos (zpow_pos (by norm_num) _)
  cases n <;> simp [val, abs, signed, abs_mul, hpow]

theorem signed_mul (a b : Decimal) : (a.mul b).signed = a.signed * b.signed := by
  obtain ⟨m, c, _⟩ := a
  obtain ⟨n, d, _⟩ := b
  cases m <;> cases n <;> simp [mul, signed]

@[simp] theorem val_mul (a b : Decimal) : (a.mul b).val = a.val * b.val := by
  have hpow : (10 : ℚ) ^ (a.exp + b.exp) = (10 : ℚ) ^ a.exp * (10 : ℚ) ^ b.exp :=
    zpow_add₀ (by norm_num) _ _
  have hexp : (a.mul b).exp = a.exp + b.exp := rfl
  rw [val, signed_mul, hexp, hpow, val, val]
  push_cast
  ring

end Decimal

end PyModel
