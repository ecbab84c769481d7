import FuturesAgentOs.PyModel.DecimalUnits
import FuturesAgentOs.PyModel.Quotients
import FuturesAgentOs.PyModel.Sorting

namespace PyModel

/-!
# The nearest rank of a percentile

The member of a sorted list with a given index, in terms of counting alone, and the index that
belongs to a percentile.

* `nearestRank` — the index of a percentile, computed on `Decimal`;
* `nearestRank_eq_ok` — what it is, as long as the count has few digits.
-/

section

variable {α : Type} {le : α → α → Bool} {xs : List α} {i : ℕ} {v : α}

theorem lt_countP_iff_of_pairwise (trans : ∀ a b c, le a b = true → le b c = true → le a c = true)
    (hxs : xs.Pairwise fun a b => le a b = true) (h : i < xs.length) :
    i < xs.countP (le · v) ↔ le xs[i] v = true := by
  induction xs generalizing i with
  | nil => simp at h
  | cons a xs ih =>
    rw [List.pairwise_cons] at hxs
    by_cases hav : le a v = true
    · rw [List.countP_cons_of_pos (p := fun b => le b v) hav]
      cases i with
      | zero => simp [hav]
      | succ i => simpa using ih hxs.2 (i := i) (by simpa using h)
    · -- what comes after `a` is at least `a`
      have hrest : ∀ b ∈ xs, ¬ le b v = true := fun b hb hbv =>
        hav (trans a b v (hxs.1 b hb) hbv)
      rw [List.countP_cons_of_neg (p := fun b => le b v) hav, List.countP_eq_zero.mpr hrest]
      cases i with
      | zero => simp [hav]
      | succ i => simpa using hrest _ (List.getElem_mem _)

/-- **Order statistics by counting.** -/
theorem lt_countP_iff (trans : ∀ a b c, le a b = true → le b c = true → le a c = true)
    (total : ∀ a b, (le a b || le b a) = true) (h : i < (xs.mergeSort le).length) :
    i < xs.countP (le · v) ↔ le (xs.mergeSort le)[i] v = true := by
  rw [← lt_countP_iff_of_pairwise trans (List.pairwise_mergeSort trans total xs) h,
    (List.mergeSort_perm xs le).countP_eq]

end

/-! ### The rank -/

/-- `int((Decimal(p) * Decimal(n) / Decimal(100)).to_integral_value(rounding=ROUND_CEILING))` -/
def nearestRank (ctx : DecimalContext) (p n : ℕ) : Py ℤ := do
  let product ← ctx.mul (Decimal.ofNat p) (Decimal.ofNat n)
  let share ← ctx.div product (Decimal.ofNat 100)
  .ok ⌈share.val⌉

section

variable {p n : ℕ}

/-- A whole number of few digits, divided by a hundred. -/
theorem div_hundred {d : Decimal} (hneg : d.neg = false) (hexp : d.exp = 0) (hc : d.coeff ≠ 0)
    (hlt : d.coeff < 10 ^ 26) :
    ∃ r, defaultContext.div d (Decimal.ofNat 100) = .ok r ∧ r.val = d.coeff / 100 := by
  set p : Precision := ⟨28, -999999, 999999, by norm_num, by norm_num, by norm_num⟩
  -- the coefficient is shifted by more than the two digits of the divisor
  have hshift : (2 : ℤ) ≤ quotientShift p d (Decimal.ofNat 100) := by
    have hdigits : Nat.log 10 d.coeff < 26 := Nat.log_lt_of_lt_pow hc hlt
    have hhundred : Nat.log 10 100 = 2 := by norm_num [Nat.log_eq_iff]
    show (2 : ℤ) ≤ ((Nat.log 10 100 + 1 : ℕ) : ℤ) - ((Nat.log 10 d.coeff + 1 : ℕ) : ℤ) + (28 : ℕ) + 1
    rw [hhundred]
    omega
  obtain ⟨k, hk⟩ : ∃ k : ℕ, quotientShift p d (Decimal.ofNat 100) = k + 2 :=
    ⟨(quotientShift p d (Decimal.ofNat 100) - 2).toNat, by omega⟩
  obtain ⟨c, e, hdiv, hvalue⟩ := div_eq_fix (p := p) hneg (b := Decimal.ofNat 100) rfl hc (by decide)
    rfl rfl
  have hto : (quotientShift p d (Decimal.ofNat 100)).toNat = k + 2 := by omega
  have hfrom : (-quotientShift p d (Decimal.ofNat 100)).toNat = 0 := by omega
  have hn : d.coeff * 10 ^ (k + 2) = d.coeff * 10 ^ k * 100 := by ring
  have hcoeff : (Decimal.ofNat 100).coeff = 100 := rfl
  rw [hto, hfrom, hn, hcoeff, hk, hexp] at hvalue
  have hval : (Decimal.mk false c e).val = d.coeff / 100 := by
    rcases hvalue with ⟨-, hvalue⟩ | ⟨hrem, -⟩
    · rw [Decimal.val_of_neg_eq_false rfl, hvalue]
      have hpow : (10 : ℚ) ^ k * 10 ^ (-(k : ℤ)) = 1 := by
        rw [← zpow_natCast, ← zpow_add₀ (by norm_num)]
        simp
      have hexps : (10 : ℚ) ^ ((0 : ℤ) - (Decimal.ofNat 100).exp - (k + 2)) = 10 ^ (-(k : ℤ)) / 100 := by
        rw [show (0 : ℤ) - (Decimal.ofNat 100).exp - (k + 2) = -k + (-2 : ℤ) from by
          show (0 : ℤ) - 0 - (k + 2) = -k + -2
          ring]
        rw [zpow_add₀ (by norm_num), div_eq_mul_inv]
        norm_num
      rw [pow_zero, mul_one, Nat.mul_div_cancel _ (by norm_num), hexps]
      push_cast
      calc (d.coeff : ℚ) * 10 ^ k * (10 ^ (-(k : ℤ)) / 100)
          = d.coeff * (10 ^ k * 10 ^ (-(k : ℤ))) / 100 := by ring
        _ = d.coeff / 100 := by rw [hpow, mul_one]
    · exact absurd (by simp) hrem
  have hunits : (Decimal.mk false c e).IsUnits (-2) (10 ^ 26) := by
    refine ⟨d.coeff, hlt.le, ?_⟩
    rw [hval, div_eq_mul_inv]
    norm_num
  obtain ⟨r, hr, hrval⟩ :=
    DecimalContext.keeps_default (by norm_num) (by norm_num) (by norm_num) _ hunits
  exact ⟨r, hdiv.trans hr, hrval.trans hval⟩

/-- A coefficient of few digits stays as it is. -/
theorem fix_of_numDigits_le {q : Precision} {d : Decimal} (hc : d.coeff ≠ 0)
    (hdigits : numDigits d.coeff ≤ q.prec) (hlow : q.etiny ≤ d.exp) (hhigh : d.exp ≤ q.etop) :
    (DecimalContext.rounded q).fix d = .ok d := by
  show q.fix d = .ok d
  unfold Precision.fix
  rw [if_neg hc, if_neg (by omega), if_neg]
  rw [not_lt, max_le_iff]
  omega

/-- **The rank** of a percentile is exact, for the counts of fewer than 24 digits. -/
theorem nearestRank_eq_ok (hp : 0 < p) (hp' : p ≤ 100) (hn : 0 < n) (hlt : n < 10 ^ 23) :
    nearestRank defaultContext p n = .ok ⌈((p * n : ℕ) : ℚ) / 100⌉ := by
  have hfew : p * n < 10 ^ 26 := by
    calc p * n ≤ 100 * n := Nat.mul_le_mul_right n hp'
      _ < 10 ^ 26 := by omega
  have hproduct : defaultContext.mul (Decimal.ofNat p) (Decimal.ofNat n)
      = .ok ⟨false, p * n, 0⟩ := by
    have hlog := Nat.log_lt_of_lt_pow (b := 10) (Nat.mul_pos hp hn).ne' hfew
    refine fix_of_numDigits_le (Nat.mul_pos hp hn).ne' ?_ ?_ ?_
    · show Nat.log 10 (p * n) + 1 ≤ 28
      omega
    · show (-999999 : ℤ) - (28 : ℕ) + 1 ≤ 0 + 0
      norm_num
    · show (0 : ℤ) + 0 ≤ 999999 - (28 : ℕ) + 1
      norm_num
  obtain ⟨share, hshare, hval⟩ := div_hundred (d := ⟨false, p * n, 0⟩) rfl rfl
    (Nat.mul_pos hp hn).ne' hfew
  rw [nearestRank, hproduct, Py.ok_bind, hshare, Py.ok_bind, hval]

end

end PyModel
