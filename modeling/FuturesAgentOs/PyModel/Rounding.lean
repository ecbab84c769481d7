import Mathlib.Algebra.Order.Field.Power
import Mathlib.Data.Int.Log
import Mathlib.Data.Rat.Floor
import Mathlib.Tactic.FieldSimp
import Mathlib.Tactic.Linarith
import Mathlib.Tactic.NormNum
import Mathlib.Tactic.Positivity
import Mathlib.Tactic.Ring

namespace PyModel

/-!
# Rounding to a decimal grid

What a decimal context does to the *value* of a result, apart from any representation.  A
`Precision` fixes the number of significant digits and the exponent range; a positive number
`x` is rounded half-even to a multiple of `10 ^ grid x`.

* `Precision.rnd_mono` — rounding is monotone, also across powers of ten;
* `Precision.rnd_of_grid` — what is on the grid is not moved, hence `rnd_rnd`.
-/

/-! ### Half-even rounding to an integer -/

/-- The integer nearest to `x`, the even one of two. -/
def halfEven (x : ℚ) : ℤ :=
  if x - ⌊x⌋ < 1 / 2 then ⌊x⌋
  else if 1 / 2 < x - ⌊x⌋ then ⌊x⌋ + 1
  else ⌊x⌋ + ⌊x⌋ % 2

theorem floor_le_halfEven (x : ℚ) : ⌊x⌋ ≤ halfEven x := by
  unfold halfEven
  split_ifs <;> omega

theorem halfEven_le_floor_add_one (x : ℚ) : halfEven x ≤ ⌊x⌋ + 1 := by
  unfold halfEven
  split_ifs <;> omega

@[simp] theorem halfEven_intCast (n : ℤ) : halfEven n = n := by
  simp [halfEven]

/-- **Half-even rounding is monotone.** -/
theorem halfEven_mono {x y : ℚ} (h : x ≤ y) : halfEven x ≤ halfEven y := by
  rcases (Int.floor_le_floor h).lt_or_eq with hlt | heq
  · calc halfEven x ≤ ⌊x⌋ + 1 := halfEven_le_floor_add_one x
      _ ≤ ⌊y⌋ := hlt
      _ ≤ halfEven y := floor_le_halfEven y
  · unfold halfEven
    rw [heq]
    split_ifs <;> first | omega | (exfalso; linarith)

theorem halfEven_le_of_le {x : ℚ} {n : ℤ} (h : x ≤ n) : halfEven x ≤ n := by
  simpa using halfEven_mono h

theorem le_halfEven_of_le {x : ℚ} {n : ℤ} (h : (n : ℚ) ≤ x) : n ≤ halfEven x := by
  simpa using halfEven_mono h

/-! ### Rounding to a number of digits -/

/-- Significant digits and exponent range of a context. -/
structure Precision where
  /-- `prec` -/
  prec : ℕ
  /-- `Emin` -/
  emin : ℤ
  /-- `Emax` -/
  emax : ℤ
  prec_pos : 0 < prec
  emin_nonpos : emin ≤ 0
  emax_nonneg : 0 ≤ emax

namespace Precision

variable (p : Precision)

/-- `Etiny()`, the exponent of the smallest subnormal. -/
def etiny : ℤ := p.emin - p.prec + 1

/-- `Etop()`, the largest exponent of a result with all its digits. -/
def etop : ℤ := p.emax - p.prec + 1

theorem etiny_le_etop : p.etiny ≤ p.etop := by
  have := p.emin_nonpos
  have := p.emax_nonneg
  unfold etiny etop
  omega

/-- The exponent of the last digit kept of a positive `x`. -/
def grid (x : ℚ) : ℤ := max (Int.log 10 x + 1 - p.prec) p.etiny

/-- The value of a result `x ≥ 0` after rounding, no upper bound on the exponent. -/
def rnd (x : ℚ) : ℚ := halfEven (x / 10 ^ p.grid x) * 10 ^ p.grid x

@[simp] theorem rnd_zero : p.rnd 0 = 0 := by simp [rnd, halfEven]

theorem etiny_le_grid (x : ℚ) : p.etiny ≤ p.grid x := le_max_right _ _

variable {x y : ℚ} {g : ℤ}

theorem grid_mono (hx : 0 < x) (h : x ≤ y) : p.grid x ≤ p.grid y := by
  have := Int.log_mono_right (b := 10) hx h
  unfold grid
  omega

theorem lt_pow_grid (x : ℚ) : x < 10 ^ (p.prec + p.grid x) := by
  refine (Int.lt_zpow_succ_log_self (b := 10) (by norm_num) x).trans_le ?_
  push_cast
  refine zpow_le_zpow_right₀ (by norm_num) ?_
  have : Int.log 10 x + 1 - p.prec ≤ p.grid x := le_max_left _ _
  omega

theorem zpow_pos10 (e : ℤ) : (0 : ℚ) < 10 ^ e := zpow_pos (by norm_num) e

theorem rnd_nonneg (hx : 0 ≤ x) : 0 ≤ p.rnd x := by
  have hq : ((0 : ℤ) : ℚ) ≤ x / 10 ^ p.grid x := by
    simpa using div_nonneg hx (zpow_pos10 _).le
  have hn : 0 ≤ halfEven (x / 10 ^ p.grid x) := le_halfEven_of_le hq
  exact mul_nonneg (by exact_mod_cast hn) (zpow_pos10 _).le

/-- A multiple of `10 ^ g` rounds to itself on every grid at most `g`. -/
private theorem halfEven_div_mul {m e : ℤ} (h : e ≤ g) :
    (halfEven ((m : ℚ) * 10 ^ g / 10 ^ e) : ℚ) * 10 ^ e = (m : ℚ) * 10 ^ g := by
  have hquot : (m : ℚ) * 10 ^ g / 10 ^ e = ((m * 10 ^ (g - e).toNat : ℤ) : ℚ) := by
    rw [mul_div_assoc, ← zpow_sub₀ (by norm_num)]
    push_cast
    rw [← zpow_natCast, Int.toNat_of_nonneg (by omega)]
  rw [hquot, halfEven_intCast, ← hquot, div_mul_cancel₀ _ (zpow_pos10 e).ne']

/-- A multiple of a power of ten at or above the last digit kept is not moved. -/
theorem rnd_of_grid_le {m : ℕ} (h : p.grid (m * 10 ^ g) ≤ g) : p.rnd (m * 10 ^ g) = m * 10 ^ g := by
  simpa [rnd] using halfEven_div_mul (m := (m : ℤ)) h

/-- **What is on the grid stays.**  A number of at most `prec` digits, or `10 ^ prec` units of
its last place, is not moved. -/
theorem rnd_of_grid {m : ℕ} (hg : p.etiny ≤ g) (hm : m ≤ 10 ^ p.prec) :
    p.rnd (m * 10 ^ g) = m * 10 ^ g := by
  rcases Nat.eq_zero_or_pos m with rfl | hpos
  · simp
  have hmq : (0 : ℚ) < m := by exact_mod_cast hpos
  have hx : (0 : ℚ) < m * 10 ^ g := mul_pos hmq (zpow_pos10 g)
  rcases hm.lt_or_eq with hlt | rfl
  · have hgrid : p.grid (m * 10 ^ g) ≤ g := by
      have hlog : Int.log 10 ((m : ℚ) * 10 ^ g) < p.prec + g := by
        rw [← Int.lt_zpow_iff_log_lt (by norm_num) hx]
        push_cast
        rw [zpow_add₀ (by norm_num), zpow_natCast]
        have : (m : ℚ) < 10 ^ p.prec := by exact_mod_cast hlt
        exact mul_lt_mul_of_pos_right this (zpow_pos10 g)
      unfold grid
      omega
    exact p.rnd_of_grid_le hgrid
  · -- the carry: the value is `1` at exponent `prec + g`
    have hval : ((10 ^ p.prec : ℕ) : ℚ) * 10 ^ g = ((1 : ℤ) : ℚ) * 10 ^ (p.prec + g : ℤ) := by
      rw [zpow_add₀ (by norm_num), zpow_natCast]
      push_cast
      ring
    have hlog : Int.log 10 ((10 : ℚ) ^ (p.prec + g : ℤ)) = p.prec + g := by
      have := Int.log_zpow (R := ℚ) (b := 10) (by norm_num) (p.prec + g)
      simpa using this
    have hgrid : p.grid ((1 : ℤ) * 10 ^ (p.prec + g : ℤ)) ≤ p.prec + g := by
      have := p.prec_pos
      unfold grid
      rw [Int.cast_one, one_mul, hlog]
      omega
    rw [hval, rnd, halfEven_div_mul hgrid]

/-- A power of ten in the exponent range stays. -/
theorem rnd_zpow {e : ℤ} (he : p.etiny ≤ e) : p.rnd (10 ^ e) = 10 ^ e := by
  have := p.rnd_of_grid (m := 1) he (Nat.one_le_pow _ _ (by norm_num))
  simpa using this

theorem halfEven_grid_le : halfEven (x / 10 ^ p.grid x) ≤ (10 ^ p.prec : ℕ) := by
  refine halfEven_le_of_le ?_
  rw [div_le_iff₀ (zpow_pos10 _)]
  have h := (p.lt_pow_grid x).le
  rw [zpow_add₀ (by norm_num), zpow_natCast] at h
  exact_mod_cast h

/-- **Rounding is idempotent.** -/
theorem rnd_rnd (hx : 0 ≤ x) : p.rnd (p.rnd x) = p.rnd x := by
  have hn : 0 ≤ halfEven (x / 10 ^ p.grid x) :=
    le_halfEven_of_le (by simpa using div_nonneg hx (zpow_pos10 _).le)
  obtain ⟨m, hm⟩ := Int.eq_ofNat_of_zero_le hn
  have hle : m ≤ 10 ^ p.prec := by
    have := p.halfEven_grid_le (x := x)
    omega
  have hrnd : p.rnd x = m * 10 ^ p.grid x := by rw [rnd, hm]; rfl
  rw [hrnd, p.rnd_of_grid (p.etiny_le_grid x) hle]

/-- **Rounding is monotone.** -/
theorem rnd_mono (hx : 0 ≤ x) (h : x ≤ y) : p.rnd x ≤ p.rnd y := by
  rcases hx.eq_or_lt with rfl | hpos
  · rw [rnd_zero]; exact p.rnd_nonneg h
  rcases (p.grid_mono hpos h).lt_or_eq with hlt | heq
  · -- a coarser grid for `y`: a power of ten lies between
    have hlogy : p.grid y = Int.log 10 y + 1 - p.prec := by
      have := p.etiny_le_grid x
      unfold grid at hlt this ⊢
      omega
    have hy : 0 < y := hpos.trans_le h
    have hprec := p.prec_pos
    have hupper : p.rnd x ≤ 10 ^ (p.prec + p.grid x : ℤ) := by
      rw [zpow_add₀ (by norm_num), zpow_natCast, rnd]
      refine mul_le_mul_of_nonneg_right ?_ (zpow_pos10 _).le
      exact_mod_cast p.halfEven_grid_le (x := x)
    have hmid : (10 : ℚ) ^ (p.prec + p.grid x : ℤ) ≤ 10 ^ Int.log 10 y :=
      zpow_le_zpow_right₀ (by norm_num) (by omega)
    have hlower : (10 : ℚ) ^ Int.log 10 y ≤ p.rnd y := by
      have hle : (10 : ℚ) ^ Int.log 10 y ≤ y := by
        simpa using Int.zpow_log_le_self (b := 10) (by norm_num) hy
      have hquot : (((10 ^ (p.prec - 1) : ℕ) : ℤ) : ℚ) ≤ y / 10 ^ p.grid y := by
        rw [le_div_iff₀ (zpow_pos10 _)]
        refine le_trans (le_of_eq ?_) hle
        push_cast
        rw [← zpow_natCast, ← zpow_add₀ (by norm_num)]
        congr 1
        omega
      have := le_halfEven_of_le hquot
      calc (10 : ℚ) ^ Int.log 10 y = ((10 ^ (p.prec - 1) : ℕ) : ℚ) * 10 ^ p.grid y := by
            push_cast
            rw [← zpow_natCast, ← zpow_add₀ (by norm_num)]
            congr 1
            omega
        _ ≤ p.rnd y := by
            refine mul_le_mul_of_nonneg_right ?_ (zpow_pos10 _).le
            exact_mod_cast this
    exact hupper.trans (hmid.trans hlower)
  · unfold rnd
    rw [heq]
    refine mul_le_mul_of_nonneg_right ?_ (zpow_pos10 _).le
    have : halfEven (x / 10 ^ p.grid y) ≤ halfEven (y / 10 ^ p.grid y) :=
      halfEven_mono (div_le_div_of_nonneg_right h (zpow_pos10 _).le)
    exact_mod_cast this

/-- The result is too large for the exponent range. -/
def Overflows (x : ℚ) : Prop := 10 ^ (p.emax + 1) ≤ p.rnd x

/-- A number beyond the exponent range overflows. -/
theorem overflows_of_emax_lt_log (hx : 0 < x) (h : p.emax < Int.log 10 x) : p.Overflows x := by
  have hle : (10 : ℚ) ^ (p.emax + 1) ≤ x := by
    have := (Int.zpow_le_iff_le_log (b := 10) (by norm_num) hx).mpr (show p.emax + 1 ≤ _ by omega)
    simpa using this
  have hetiny : p.etiny ≤ p.emax + 1 := by
    have := p.etiny_le_etop
    unfold etop at this
    omega
  rw [Overflows, ← p.rnd_zpow hetiny]
  exact p.rnd_mono (zpow_pos10 _).le hle

/-- A larger number overflows too. -/
theorem Overflows.mono {p : Precision} (hx : 0 ≤ x) (h : x ≤ y) (ho : p.Overflows x) :
    p.Overflows y :=
  le_trans ho (p.rnd_mono hx h)

end Precision

end PyModel
