import FuturesAgentOs.PyModel.DecimalContext
import FuturesAgentOs.PyModel.DecimalText

namespace PyModel

/-!
# Plain decimal notation

`d.normalize()`, which rounds to the context and drops trailing zeros, `format(d, "f")`, which
writes a decimal without an exponent, and `int(d)`.
-/

/-- `d.normalize()` -/
def DecimalContext.normalize (ctx : DecimalContext) (d : Decimal) : Py Decimal := do
  let r ← ctx.fix d
  if r.coeff = 0 then .ok ⟨r.neg, 0, 0⟩
  else
    let (coeff, exp) := DecimalContext.dropZeros (numDigits r.coeff) r.coeff r.exp
    .ok ⟨r.neg, coeff, exp⟩

/-- `format(d, "f")` -/
def Decimal.formatF (d : Decimal) : Text :=
  let digits := Text.ofNat d.coeff
  let digits := if d.coeff = 0 ∧ 0 < d.exp then [Text.ofChar '0'] else digits
  let place := if d.coeff = 0 ∧ 0 < d.exp then 1 else d.exp + digits.length
  (if d.neg then [Text.ofChar '-'] else []) ++ pointed digits place

/-- `d == d.to_integral_value()` -/
def Decimal.IsWhole (d : Decimal) : Prop := d.coeff % 10 ^ (-d.exp).toNat = 0

instance (d : Decimal) : Decidable d.IsWhole := inferInstanceAs (Decidable (_ = _))

/-- `int(d)` -/
def Decimal.toInt (d : Decimal) : ℤ :=
  if d.neg then -(d.coeff * 10 ^ d.exp.toNat / 10 ^ (-d.exp).toNat : ℕ)
  else (d.coeff * 10 ^ d.exp.toNat / 10 ^ (-d.exp).toNat : ℕ)

/-- A whole number is its integer part. -/
theorem Decimal.val_toInt {d : Decimal} (h : d.IsWhole) : (d.toInt : ℚ) = d.val := by
  obtain ⟨q, hq⟩ := Nat.dvd_of_mod_eq_zero h
  have hpow : (10 : ℚ) ^ d.exp = 10 ^ d.exp.toNat / 10 ^ (-d.exp).toNat := by
    rw [← zpow_natCast, ← zpow_natCast, ← zpow_sub₀ (by norm_num)]
    congr 1
    omega
  have hdiv : (d.coeff * 10 ^ d.exp.toNat / 10 ^ (-d.exp).toNat : ℕ) = q * 10 ^ d.exp.toNat := by
    rw [hq, Nat.mul_assoc, Nat.mul_div_cancel_left _ (by positivity)]
  have hcoeff : (d.coeff : ℚ) * 10 ^ d.exp = q * 10 ^ d.exp.toNat := by
    rw [hpow, hq]
    push_cast
    field_simp
  unfold toInt val signed
  rw [hdiv]
  cases d.neg with
  | false =>
    push_cast
    exact hcoeff.symm
  | true =>
    simp only [if_true]
    push_cast
    rw [neg_mul, hcoeff]

end PyModel
