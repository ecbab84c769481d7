import FuturesAgentOs.PyModel.DecimalContext
import Mathlib.Data.Nat.Cast.Field

namespace PyModel

/-!
# Rounded quotients

`a / b` in a rounding context: one digit more than the precision is computed, the last digit is made
sticky, and the result is rounded.  The value is that of the quotient rounded once.

* `Decimal.val_div` — the value of a quotient;
* `Precision.rnd_le_iff` — the numbers that are not rounded above a bound.
-/

/-! ### The sticky digit -/

section

variable {q h : ℕ} {x : ℚ}

/-- What stands for a number that is no integer: its integer part, one more if that ends in 0 or
5. -/
def sticky (q : ℕ) : ℕ := if q % 5 = 0 then q + 1 else q

/-- The sticky number is on the same side of every multiple of five. -/
theorem sticky_lt_iff (hq : (q : ℚ) < x) (hx : x < q + 1) (hh : h % 5 = 0) :
    ((sticky q : ℚ) < h ↔ x < h) ∧ ((h : ℚ) < sticky q ↔ h < x) := by
  have hlt : x < h ↔ q + 1 ≤ h := by
    constructor
    · intro hlt
      have : (q : ℚ) < h := hq.trans hlt
      exact_mod_cast this
    · intro hle
      have : (q + 1 : ℚ) ≤ h := by exact_mod_cast hle
      exact hx.trans_le this
  have hgt : h < x ↔ h ≤ q := by
    constructor
    · intro hgt
      have : (h : ℚ) < q + 1 := hgt.trans hx
      have : h < q + 1 := by exact_mod_cast this
      omega
    · intro hle
      have : (h : ℚ) ≤ q := by exact_mod_cast hle
      exact this.trans_lt hq
  rw [hlt, hgt, Nat.cast_lt, Nat.cast_lt, sticky]
  split_ifs <;> omega

theorem halfEven_eq_of_sides {y z : ℚ}
    (hfloor : ∀ n : ℤ, (n : ℚ) ≤ y ↔ (n : ℚ) ≤ z)
    (hbelow : ∀ n : ℤ, y < n + 1 / 2 ↔ z < n + 1 / 2)
    (habove : ∀ n : ℤ, n + 1 / 2 < y ↔ n + 1 / 2 < z) : halfEven y = halfEven z := by
  have hsame : ⌊y⌋ = ⌊z⌋ := by
    refine le_antisymm ?_ ?_
    · exact Int.le_floor.mpr ((hfloor _).mp (Int.floor_le y))
    · exact Int.le_floor.mpr ((hfloor _).mpr (Int.floor_le z))
  have hlow : y - ⌊y⌋ < 1 / 2 ↔ z - ⌊z⌋ < 1 / 2 := by
    rw [sub_lt_iff_lt_add', sub_lt_iff_lt_add', ← hsame]
    exact hbelow _
  have hhigh : 1 / 2 < y - ⌊y⌋ ↔ 1 / 2 < z - ⌊z⌋ := by
    rw [lt_sub_iff_add_lt', lt_sub_iff_add_lt', ← hsame]
    exact habove _
  rw [hsame] at hlow hhigh
  unfold halfEven
  rw [hsame]
  simp only [hlow, hhigh]

/-- **The sticky digit is enough.**  A number that is no integer and its sticky integer are rounded
alike at every later digit. -/
theorem halfEven_sticky (hq : (q : ℚ) < x) (hx : x < q + 1) {m : ℕ} (hm : 0 < m) :
    halfEven (x / (10 * m : ℕ)) = halfEven ((sticky q : ℚ) / (10 * m : ℕ)) := by
  have hpos : (0 : ℚ) < (10 * m : ℕ) := by
    exact_mod_cast Nat.mul_pos (by norm_num) hm
  have hxpos : (0 : ℚ) < x := (Nat.cast_nonneg q).trans_lt hq
  have hspos : (0 : ℚ) ≤ sticky q := Nat.cast_nonneg _
  -- the numbers against a multiple of five that is not negative
  have hside : ∀ k : ℤ, ((sticky q : ℚ) < 5 * k ↔ x < 5 * k) ∧ ((5 * k : ℚ) < sticky q ↔ 5 * k < x)
      ∧ ((5 * k : ℚ) ≤ sticky q ↔ 5 * k ≤ x) := by
    intro k
    have hlt : ((sticky q : ℚ) < 5 * k ↔ x < 5 * k) ∧ ((5 * k : ℚ) < sticky q ↔ 5 * k < x) := by
      rcases le_or_gt 0 k with hk | hk
      · obtain ⟨n, rfl⟩ := Int.eq_ofNat_of_zero_le hk
        have h5 := sticky_lt_iff hq hx (show 5 * n % 5 = 0 by omega)
        push_cast at h5 ⊢
        exact h5
      · have hneg : (5 * k : ℚ) < 0 := by
          have : (k : ℚ) < 0 := by exact_mod_cast hk
          linarith
        constructor
        · constructor <;> intro h <;> linarith
        · constructor <;> intro <;> linarith
    refine ⟨hlt.1, hlt.2, ?_⟩
    rw [← not_lt, ← not_lt, hlt.1]
  refine halfEven_eq_of_sides (fun n => ?_) (fun n => ?_) fun n => ?_
  · rw [le_div_iff₀ hpos, le_div_iff₀ hpos]
    have h5 := (hside (2 * m * n)).2.2
    push_cast at h5 ⊢
    rw [show (n : ℚ) * (10 * m) = 5 * (2 * m * n) by ring]
    exact h5.symm
  · rw [div_lt_iff₀ hpos, div_lt_iff₀ hpos]
    have h5 := (hside (m * (2 * n + 1))).1
    push_cast at h5 ⊢
    rw [show ((n : ℚ) + 1 / 2) * (10 * m) = 5 * (m * (2 * n + 1)) by ring]
    exact h5.symm
  · rw [lt_div_iff₀ hpos, lt_div_iff₀ hpos]
    have h5 := (hside (m * (2 * n + 1))).2.1
    push_cast at h5 ⊢
    rw [show ((n : ℚ) + 1 / 2) * (10 * m) = 5 * (m * (2 * n + 1)) by ring]
    exact h5.symm

end

/-! ### The value of a quotient -/

section

variable {p : Precision} {a b r : Decimal}

/-- Dropping trailing zeros keeps the value. -/
theorem DecimalContext.dropZeros_val (k c : ℕ) (e : ℤ) :
    ((DecimalContext.dropZeros k c e).1 : ℚ) * 10 ^ (DecimalContext.dropZeros k c e).2
      = c * 10 ^ e := by
  induction k generalizing c e with
  | zero => rfl
  | succ k ih =>
    rw [DecimalContext.dropZeros]
    split_ifs with hc
    · rw [ih, zpow_add_one₀ (by norm_num)]
      have hten : (c : ℚ) = (c / 10 : ℕ) * 10 := by
        exact_mod_cast (Nat.div_mul_cancel (Nat.dvd_of_mod_eq_zero hc)).symm
      rw [hten]
      ring
    · rfl

/-- The logarithm of a number with a known number of digits. -/
theorem log_eq_of_digits {x : ℚ} {k : ℕ} (hlow : (10 ^ k : ℕ) ≤ x) (hhigh : x < (10 ^ (k + 1) : ℕ))
    (e : ℤ) : Int.log 10 (x * 10 ^ e) = k + e := by
  have hx : 0 < x * 10 ^ e := by
    refine mul_pos ?_ (Precision.zpow_pos10 e)
    refine lt_of_lt_of_le ?_ hlow
    exact_mod_cast Nat.pow_pos (by norm_num)
  refine le_antisymm ?_ ?_
  · rw [← Int.lt_add_one_iff, ← Int.lt_zpow_iff_log_lt (by norm_num) hx]
    push_cast at hhigh ⊢
    rw [show (k : ℤ) + e + 1 = (k + 1 : ℕ) + e by push_cast; ring, zpow_add₀ (by norm_num),
      zpow_natCast]
    exact mul_lt_mul_of_pos_right hhigh (Precision.zpow_pos10 e)
  · rw [← Int.zpow_le_iff_le_log (by norm_num) hx]
    push_cast at hlow ⊢
    rw [zpow_add₀ (by norm_num), zpow_natCast]
    exact mul_le_mul_of_nonneg_right hlow (Precision.zpow_pos10 e).le

/-- A number and what stands for it are rounded alike, if enough digits come before. -/
theorem rnd_sticky {q : ℕ} {x : ℚ} (hq : (q : ℚ) < x) (hx : x < q + 1) (hdigits : 10 ^ p.prec ≤ q)
    (e : ℤ) : p.rnd (sticky q * 10 ^ e) = p.rnd (x * 10 ^ e) := by
  set k := Nat.log 10 q with hk
  have hqpos : q ≠ 0 := by
    have := Nat.pow_pos (n := p.prec) (show 0 < 10 by norm_num)
    omega
  have hlow : 10 ^ k ≤ q := Nat.pow_log_le_self 10 hqpos
  have hhigh : q + 1 ≤ 10 ^ (k + 1) := Nat.lt_pow_succ_log_self (by norm_num) q
  have hprec : p.prec ≤ k := (Nat.le_log_iff_pow_le (by norm_num) hqpos).mpr hdigits
  have hxhigh : x < (10 ^ (k + 1) : ℕ) := hx.trans_le (by exact_mod_cast hhigh)
  have hfive : 10 ^ (k + 1) % 5 = 0 := by
    rw [pow_succ, Nat.mul_mod]
    norm_num
  have hlogx := log_eq_of_digits ((show ((10 ^ k : ℕ) : ℚ) ≤ q by exact_mod_cast hlow).trans hq.le)
    hxhigh e
  have hlogs : Int.log 10 ((sticky q : ℚ) * 10 ^ e) = k + e := by
    refine log_eq_of_digits ?_ ((sticky_lt_iff hq hx hfive).1.mpr hxhigh) e
    have : 10 ^ k ≤ sticky q := by
      unfold sticky
      split_ifs <;> omega
    exact_mod_cast this
  have hgrid : p.grid (sticky q * 10 ^ e) = p.grid (x * 10 ^ e) := by
    rw [Precision.grid, Precision.grid, hlogs, hlogx]
  -- the digit that is kept is a later one than the sticky one
  have hlater : e + 1 ≤ p.grid (x * 10 ^ e) := by
    rw [Precision.grid, hlogx]
    omega
  obtain ⟨m, hm⟩ : ∃ m : ℕ, p.grid (x * 10 ^ e) = e + (m + 1 : ℕ) :=
    ⟨(p.grid (x * 10 ^ e) - e - 1).toNat, by omega⟩
  have hscale : ∀ y : ℚ, y * 10 ^ e / 10 ^ p.grid (x * 10 ^ e) = y / (10 * 10 ^ m : ℕ) := by
    intro y
    rw [hm, zpow_add₀ (by norm_num), zpow_natCast, pow_succ]
    have := (Precision.zpow_pos10 e).ne'
    push_cast
    field_simp
  rw [Precision.rnd, Precision.rnd, hgrid, hscale, hscale,
    halfEven_sticky hq hx (Nat.pow_pos (by norm_num))]

theorem floor_lt_div {n d : ℕ} (hd : 0 < d) (h : n % d ≠ 0) : ((n / d : ℕ) : ℚ) < (n : ℚ) / d := by
  rw [lt_div_iff₀ (by exact_mod_cast hd)]
  have hrem := Nat.div_add_mod' n d
  exact_mod_cast (show n / d * d < n by omega)

theorem div_lt_floor_add_one {n d : ℕ} (hd : 0 < d) : (n : ℚ) / d < (n / d : ℕ) + 1 := by
  rw [div_lt_iff₀ (by exact_mod_cast hd)]
  have hlt : n < (n / d + 1) * d := Nat.lt_mul_of_div_lt (Nat.lt_succ_self _) hd
  exact_mod_cast hlt

/-- The exact quotient, with the coefficients brought to one number of digits. -/
theorem div_val_eq (ha : a.neg = false) (hb : b.neg = false) (hcb : b.coeff ≠ 0) (shift : ℤ) :
    a.val / b.val = ((a.coeff * 10 ^ shift.toNat : ℕ) : ℚ) / (b.coeff * 10 ^ (-shift).toNat : ℕ)
      * 10 ^ (a.exp - b.exp - shift) := by
  have hscale : (10 : ℚ) ^ shift.toNat = 10 ^ shift * 10 ^ (-shift).toNat := by
    rw [← zpow_natCast, ← zpow_natCast, ← zpow_add₀ (by norm_num)]
    congr 1
    omega
  have hcbq : (b.coeff : ℚ) ≠ 0 := by exact_mod_cast hcb
  rw [Decimal.val_of_neg_eq_false ha, Decimal.val_of_neg_eq_false hb, sub_sub, zpow_sub₀ (by norm_num),
    zpow_add₀ (by norm_num)]
  push_cast
  rw [hscale]
  have := (Precision.zpow_pos10 b.exp).ne'
  have := (Precision.zpow_pos10 shift).ne'
  field_simp

/-- How many digits the dividend is given. -/
def quotientShift (p : Precision) (a b : Decimal) : ℤ :=
  numDigits b.coeff - numDigits a.coeff + p.prec + 1

/-- The quotient has more digits than the precision. -/
theorem pow_prec_le_quotient (hca : a.coeff ≠ 0) (hcb : b.coeff ≠ 0) :
    10 ^ p.prec ≤ a.coeff * 10 ^ (quotientShift p a b).toNat
      / (b.coeff * 10 ^ (-quotientShift p a b).toNat) := by
  have hlow : 10 ^ Nat.log 10 a.coeff ≤ a.coeff := Nat.pow_log_le_self 10 hca
  have hhigh : b.coeff ≤ 10 ^ (Nat.log 10 b.coeff + 1) :=
    (Nat.lt_pow_succ_log_self (by norm_num) _).le
  rw [Nat.le_div_iff_mul_le (Nat.mul_pos (Nat.pos_of_ne_zero hcb) (Nat.pow_pos (by norm_num)))]
  calc 10 ^ p.prec * (b.coeff * 10 ^ (-quotientShift p a b).toNat)
      ≤ 10 ^ p.prec * (10 ^ (Nat.log 10 b.coeff + 1) * 10 ^ (-quotientShift p a b).toNat) := by
        gcongr
    _ = 10 ^ Nat.log 10 a.coeff * 10 ^ (quotientShift p a b).toNat := by
        rw [← pow_add, ← pow_add, ← pow_add]
        congr 1
        unfold quotientShift numDigits
        omega
    _ ≤ a.coeff * 10 ^ (quotientShift p a b).toNat := by gcongr

/-- The division of positive numbers: an even one loses its zeros, any other gets a sticky digit. -/
theorem div_eq_fix (ha : a.neg = false) (hb : b.neg = false) (hca : a.coeff ≠ 0)
    (hcb : b.coeff ≠ 0) {n d : ℕ} (hn : n = a.coeff * 10 ^ (quotientShift p a b).toNat)
    (hd : d = b.coeff * 10 ^ (-quotientShift p a b).toNat) :
    ∃ c e, (DecimalContext.rounded p).div a b = (DecimalContext.rounded p).fix ⟨false, c, e⟩
      ∧ (n % d = 0 ∧ (c : ℚ) * 10 ^ e = (n / d : ℕ) * 10 ^ (a.exp - b.exp - quotientShift p a b)
        ∨ n % d ≠ 0 ∧ c = sticky (n / d) ∧ e = a.exp - b.exp - quotientShift p a b) := by
  have hshift : (numDigits b.coeff : ℤ) - numDigits a.coeff
      + (DecimalContext.rounded p).prec + 1 = quotientShift p a b := rfl
  rw [DecimalContext.div, if_neg hcb, if_neg hca, ha, hb]
  simp only [hshift, ← hn, ← hd]
  by_cases hexact : n % d = 0
  · rw [if_pos hexact]
    exact ⟨_, _, rfl, Or.inl ⟨hexact, DecimalContext.dropZeros_val _ _ _⟩⟩
  · rw [if_neg hexact]
    exact ⟨_, _, rfl, Or.inr ⟨hexact, rfl, rfl⟩⟩

/-- **A quotient is the exact one, rounded once.** -/
theorem DecimalContext.val_div (ha : 0 < a.val) (hb : 0 < b.val)
    (h : (DecimalContext.rounded p).div a b = .ok r) : r.val = p.rnd (a.val / b.val) := by
  have hca : a.coeff ≠ 0 := fun hc => ha.ne' (a.val_eq_zero_iff.mpr hc)
  have hcb : b.coeff ≠ 0 := fun hc => hb.ne' (b.val_eq_zero_iff.mpr hc)
  have hna := Decimal.neg_eq_false_of_nonneg hca ha.le
  have hnb := Decimal.neg_eq_false_of_nonneg hcb hb.le
  obtain ⟨n, hn⟩ : ∃ n, n = a.coeff * 10 ^ (quotientShift p a b).toNat := ⟨_, rfl⟩
  obtain ⟨d, hd⟩ : ∃ d, d = b.coeff * 10 ^ (-quotientShift p a b).toNat := ⟨_, rfl⟩
  have hdpos : 0 < d := by
    rw [hd]
    exact Nat.mul_pos (Nat.pos_of_ne_zero hcb) (Nat.pow_pos (by norm_num))
  have hquot : a.val / b.val = (n : ℚ) / d * 10 ^ (a.exp - b.exp - quotientShift p a b) := by
    rw [hn, hd]
    exact div_val_eq hna hnb hcb _
  obtain ⟨c, e, hdiv, hc⟩ := div_eq_fix hna hnb hca hcb hn hd
  have hval : (⟨false, c, e⟩ : Decimal).val = c * 10 ^ e := Decimal.val_of_neg_eq_false rfl
  rw [hdiv] at h
  have hr := DecimalContext.val_fix (hval ▸ mul_nonneg (Nat.cast_nonneg _) (Precision.zpow_pos10 _).le) h
  rw [hr, hval, hquot]
  show p.rnd _ = _
  rcases hc with ⟨heven, hc⟩ | ⟨hodd, rfl, rfl⟩
  · rw [hc, Nat.cast_div (Nat.dvd_of_mod_eq_zero heven) (by exact_mod_cast hdpos.ne')]
  · refine rnd_sticky (floor_lt_div hdpos hodd) (div_lt_floor_add_one hdpos) ?_ _
    rw [hn, hd]
    exact pow_prec_le_quotient hca hcb

end

/-! ### What is rounded to at most a bound -/

namespace Precision

variable (p : Precision)

/-- The last place that is kept of a number. -/
def unit (x : ℚ) : ℚ := 10 ^ p.grid x

/-- How many whole units of its last place a number has. -/
def units (x : ℚ) : ℤ := ⌊x / p.unit x⌋

variable {p} {x y bound : ℚ}

theorem unit_pos : 0 < p.unit x := zpow_pos10 _

theorem units_mul_le : p.units x * p.unit x ≤ x := by
  rw [← le_div_iff₀ unit_pos]
  exact Int.floor_le _

theorem lt_units_add_one_mul : x < (p.units x + 1) * p.unit x := by
  rw [← div_lt_iff₀ unit_pos]
  exact Int.lt_floor_add_one _

theorem units_nonneg (hx : 0 ≤ x) : 0 ≤ p.units x :=
  Int.floor_nonneg.mpr (div_nonneg hx unit_pos.le)

theorem units_lt (x : ℚ) : p.units x < (10 ^ p.prec : ℕ) := by
  rw [units, Int.floor_lt, div_lt_iff₀ unit_pos, unit]
  have hlt := p.lt_pow_grid x
  rw [zpow_add₀ (by norm_num), zpow_natCast] at hlt
  exact_mod_cast hlt

theorem rnd_units {k : ℤ} (h : 0 ≤ k) (hle : k ≤ (10 ^ p.prec : ℕ)) :
    p.rnd (k * p.unit x) = k * p.unit x := by
  obtain ⟨m, rfl⟩ := Int.eq_ofNat_of_zero_le h
  exact p.rnd_of_grid (p.etiny_le_grid x) (by exact_mod_cast hle)

/-- Between two neighbours the last place that is kept is one. -/
theorem grid_eq_of_units (hbound : 0 < bound) (hy : 0 < y) (hlow : p.units bound * p.unit bound ≤ y)
    (hhigh : y < (p.units bound + 1) * p.unit bound) : p.grid y = p.grid bound := by
  have hlog : Int.log 10 y < p.prec + p.grid bound := by
    rw [← Int.lt_zpow_iff_log_lt (by norm_num) hy]
    push_cast
    rw [zpow_add₀ (by norm_num), zpow_natCast]
    refine hhigh.trans_le (mul_le_mul_of_nonneg_right ?_ unit_pos.le)
    exact_mod_cast Int.add_one_le_iff.mpr (p.units_lt bound)
  have hge : Int.log 10 bound + 1 - p.prec = p.grid bound → Int.log 10 bound ≤ Int.log 10 y := by
    intro hgrid
    -- the first digit of the bound is not below its last place
    have hfirst : ((10 ^ (p.prec - 1) : ℕ) : ℤ) ≤ p.units bound := by
      rw [units, Int.le_floor, le_div_iff₀ unit_pos, unit, ← hgrid]
      refine le_trans (le_of_eq ?_) (Int.zpow_log_le_self (by norm_num : 1 < 10) hbound)
      have := p.prec_pos
      push_cast
      rw [← zpow_natCast, ← zpow_add₀ (by norm_num)]
      congr 1
      omega
    rw [← Int.zpow_le_iff_le_log (by norm_num) hy]
    refine le_trans ?_ hlow
    have hfirstq : ((10 ^ (p.prec - 1) : ℕ) : ℚ) ≤ p.units bound := by exact_mod_cast hfirst
    refine le_trans (le_of_eq ?_) (mul_le_mul_of_nonneg_right hfirstq unit_pos.le)
    have := p.prec_pos
    rw [unit, ← hgrid]
    push_cast
    rw [← zpow_natCast, ← zpow_add₀ (by norm_num)]
    congr 1
    omega
  have hbelow := p.etiny_le_grid bound
  unfold grid at hlog hge hbelow ⊢
  omega

/-- **What is rounded to at most a bound**: what is less than half a unit above the whole units of
the bound, or exactly half a unit where their number is even. -/
theorem rnd_le_iff (hx : 0 ≤ x) (hbound : 0 < bound) : p.rnd x ≤ bound
    ↔ x < (p.units bound + 1 / 2) * p.unit bound
      ∨ x = (p.units bound + 1 / 2) * p.unit bound ∧ Even (p.units bound) := by
  have hu : 0 < p.unit bound := unit_pos
  have hk := p.units_nonneg hbound.le
  have hkle := p.units_lt bound
  have hlow : p.units bound * p.unit bound ≤ bound := units_mul_le
  have hhigh : bound < (p.units bound + 1) * p.unit bound := lt_units_add_one_mul
  rcases lt_or_ge x (p.units bound * p.unit bound) with hbelow | hfrom
  · refine iff_of_true ?_ (Or.inl ?_)
    · have := p.rnd_mono hx hbelow.le
      rw [rnd_units hk hkle.le] at this
      exact this.trans hlow
    · nlinarith
  rcases le_or_gt ((p.units bound + 1) * p.unit bound) x with habove | hto
  · refine iff_of_false (not_le.mpr ?_) ?_
    · have hnext := rnd_units (p := p) (x := bound) (k := p.units bound + 1) (by omega) (by omega)
      push_cast at hnext
      have := p.rnd_mono (by nlinarith) habove
      rw [hnext] at this
      exact hhigh.trans_le this
    · rintro (h | ⟨h, -⟩) <;> nlinarith
  rcases hx.eq_or_lt with rfl | hpos
  · refine iff_of_true (by rw [rnd_zero]; exact hbound.le) (Or.inl ?_)
    have : (0 : ℚ) ≤ p.units bound := by exact_mod_cast hk
    positivity
  have hgrid := grid_eq_of_units hbound hpos hfrom hto
  have hfloor : ⌊x / p.unit bound⌋ = p.units bound := by
    rw [Int.floor_eq_iff, le_div_iff₀ hu, div_lt_iff₀ hu]
    exact ⟨hfrom, hto⟩
  have hrnd : p.rnd x = halfEven (x / p.unit bound) * p.unit bound := by
    rw [rnd, hgrid, unit]
  have hlt : x / p.unit bound - p.units bound < 1 / 2
      ↔ x < (p.units bound + 1 / 2) * p.unit bound := by
    rw [sub_lt_iff_lt_add', div_lt_iff₀ hu]
  have hgt : 1 / 2 < x / p.unit bound - p.units bound
      ↔ (p.units bound + 1 / 2) * p.unit bound < x := by
    rw [lt_sub_iff_add_lt', lt_div_iff₀ hu]
  rw [hrnd, halfEven, hfloor]
  simp only [hlt, hgt]
  split_ifs with hless hmore
  · exact iff_of_true hlow (Or.inl hless)
  · refine iff_of_false (not_le.mpr ?_) ?_
    · push_cast
      exact hhigh
    · rintro (h | ⟨h, -⟩)
      · exact hless h
      · exact absurd h hmore.ne'
  · have heq := le_antisymm (not_lt.mp hmore) (not_lt.mp hless)
    rw [or_iff_right hless, and_iff_right heq]
    rcases Int.even_or_odd (p.units bound) with heven | hodd
    · rw [Int.even_iff.mp heven, add_zero]
      exact iff_of_true hlow heven
    · rw [Int.odd_iff.mp hodd]
      refine iff_of_false (not_le.mpr ?_) (Int.not_even_iff_odd.mpr hodd)
      push_cast
      exact hhigh

end Precision

end PyModel
