import FuturesAgentOs.PyModel.Decimal
import FuturesAgentOs.PyModel.Exception
import FuturesAgentOs.PyModel.Rounding
import Mathlib.Data.List.Forall2

namespace PyModel

/-!
# Decimal arithmetic in a context

`a + b` on Python decimals computes the exact sum and then fits it into the current context:
at most `prec` digits, rounded half-even, an exponent in range, `decimal.Overflow` raised when
there is none.  `DecimalContext.exact` is arithmetic without that last step.

* `add`, `sub`, `mul`, `div`, `abs`, `sum` — the operators and `sum(…, Decimal())`;
* `add_mono`, `le_add`, `sum_of_sublist` — order facts about rounded sums of non-negative
  numbers: dropping or lowering summands lowers the sum, and never raises.
-/

/-- The precision and range of a rounding context, or arithmetic without rounding (where a
quotient is still cut at a number of digits). -/
inductive DecimalContext where
  | exact (quotientDigits : ℕ)
  | rounded (precision : Precision)

/-- The number of digits of a coefficient, `len(str(c))`. -/
def numDigits (c : ℕ) : ℕ := Nat.log 10 c + 1

/-- `decimal.Overflow`, trapped by default. -/
def decimalOverflow : PyException := ⟨.decimalOverflow, "[<class 'decimal.Overflow'>]"⟩

/-- `n / d` rounded half-even, on natural numbers. -/
def divHalfEven (n d : ℕ) : ℕ :=
  let q := n / d
  let r := n % d
  if 2 * r < d then q else if d < 2 * r then q + 1 else q + q % 2

theorem divHalfEven_eq (n : ℕ) {d : ℕ} (hd : 0 < d) :
    (divHalfEven n d : ℤ) = halfEven ((n : ℚ) / d) := by
  have hdq : (0 : ℚ) < d := by exact_mod_cast hd
  have hfloor : ⌊(n : ℚ) / d⌋ = ((n / d : ℕ) : ℤ) := by
    rw [Rat.floor_natCast_div_natCast, Int.natCast_div]
  have hrem : (n : ℚ) / d - ((n / d : ℕ) : ℤ) = ((n % d : ℕ) : ℚ) / d := by
    have h : (n : ℚ) = (d : ℚ) * ((n / d : ℕ) : ℚ) + ((n % d : ℕ) : ℚ) := by
      exact_mod_cast (Nat.div_add_mod n d).symm
    rw [sub_eq_iff_eq_add, Int.cast_natCast]
    nth_rewrite 1 [h]
    field_simp
    ring
  have hlt : ((n % d : ℕ) : ℚ) / d < 1 / 2 ↔ 2 * (n % d) < d := by
    rw [div_lt_div_iff₀ hdq two_pos, one_mul, mul_comm]
    exact_mod_cast Iff.rfl
  have hgt : 1 / 2 < ((n % d : ℕ) : ℚ) / d ↔ d < 2 * (n % d) := by
    rw [div_lt_div_iff₀ two_pos hdq, one_mul, mul_comm]
    exact_mod_cast Iff.rfl
  unfold halfEven
  rw [hfloor, hrem]
  simp only [hlt, hgt, divHalfEven]
  split_ifs <;> push_cast <;> rfl

namespace Precision

variable (p : Precision)

def fix (d : Decimal) : Py Decimal :=
  if d.coeff = 0 then .ok { d with exp := min (max d.exp p.etiny) p.emax }
  else
    let expMin := numDigits d.coeff + d.exp - p.prec
    if p.etop < expMin then .error decimalOverflow
    else
      let expMin' := max expMin p.etiny
      if d.exp < expMin' then
        let c := divHalfEven d.coeff (10 ^ (expMin' - d.exp).toNat)
        if p.prec < numDigits c then
          -- rounding carried to `10 ^ prec`: the last zero is dropped
          if p.etop < expMin' + 1 then .error decimalOverflow
          else .ok ⟨d.neg, c / 10, expMin' + 1⟩
        else .ok ⟨d.neg, c, expMin'⟩
      else .ok d

variable {p}

variable {d : Decimal}

theorem grid_val (hc : d.coeff ≠ 0) (hneg : d.neg = false) :
    p.grid d.val = max (numDigits d.coeff + d.exp - p.prec) p.etiny := by
  rw [Decimal.val_of_neg_eq_false hneg, grid, Decimal.log_coeff_mul hc, numDigits]
  congr 1
  push_cast
  ring

/-- The coefficient `fix` rounds to. -/
theorem divHalfEven_grid (hneg : d.neg = false) {g : ℤ} (hg : d.exp ≤ g) :
    ((divHalfEven d.coeff (10 ^ (g - d.exp).toNat) : ℕ) : ℤ) = halfEven (d.val / 10 ^ g) := by
  rw [divHalfEven_eq _ (by positivity), Decimal.val_of_neg_eq_false hneg, mul_div_assoc,
    ← zpow_sub₀ (by norm_num), Nat.cast_pow, ← zpow_natCast, Int.toNat_of_nonneg (by omega),
    div_eq_mul_inv, ← zpow_neg, neg_sub]
  rfl

/-- **What `fix` does to a positive number.**  It raises exactly when the rounded value is out
of range, and otherwise returns a decimal of that value. -/
theorem fix_pos (hc : d.coeff ≠ 0) (hneg : d.neg = false) :
    (p.Overflows d.val ∧ p.fix d = .error decimalOverflow) ∨
      (¬ p.Overflows d.val ∧ ∃ r, p.fix d = .ok r ∧ r.val = p.rnd d.val) := by
  have hcpos : (0 : ℚ) < d.coeff := by exact_mod_cast Nat.pos_of_ne_zero hc
  have hx : 0 < d.val := by
    rw [Decimal.val_of_neg_eq_false hneg]; exact mul_pos hcpos (zpow_pos10 _)
  have hlog : Int.log 10 d.val = Nat.log 10 d.coeff + d.exp := by
    rw [Decimal.val_of_neg_eq_false hneg, Decimal.log_coeff_mul hc]
  have hgrid := p.grid_val hc hneg
  have hdig : (numDigits d.coeff : ℤ) = Nat.log 10 d.coeff + 1 := by simp [numDigits]
  have hprec := p.prec_pos
  have hetop : p.etop = p.emax - p.prec + 1 := rfl
  rw [fix, if_neg hc]
  by_cases hbig : p.etop < numDigits d.coeff + d.exp - p.prec
  · exact Or.inl ⟨p.overflows_of_emax_lt_log hx (by omega), if_pos hbig⟩
  rw [if_neg hbig]
  have hle : p.grid d.val ≤ p.etop := by
    rw [hgrid]; exact max_le (not_lt.mp hbig) p.etiny_le_etop
  rw [← hgrid]
  by_cases hexp : d.exp < p.grid d.val
  · -- digits are dropped
    simp only [if_pos hexp]
    have hm := divHalfEven_grid hneg hexp.le
    generalize divHalfEven d.coeff (10 ^ (p.grid d.val - d.exp).toNat) = m at hm ⊢
    have hrnd : p.rnd d.val = m * 10 ^ p.grid d.val := by rw [rnd, ← hm]; rfl
    have hmle : m ≤ 10 ^ p.prec := by
      have := p.halfEven_grid_le (x := d.val)
      omega
    by_cases hcarry : p.prec < numDigits m
    · have hmeq : m = 10 ^ p.prec := by
        refine le_antisymm hmle (Nat.pow_le_of_le_log (fun h0 => ?_) (Nat.lt_succ_iff.mp hcarry))
        simp [h0, numDigits] at hcarry
        omega
      have hval : p.rnd d.val = 10 ^ (p.prec + p.grid d.val : ℤ) := by
        rw [hrnd, hmeq, zpow_add₀ (by norm_num), zpow_natCast]; push_cast; rfl
      rw [if_pos hcarry]
      by_cases htop : p.etop < p.grid d.val + 1
      · refine Or.inl ⟨?_, if_pos htop⟩
        rw [Overflows, hval]
        exact zpow_le_zpow_right₀ (by norm_num) (by omega)
      · refine Or.inr ⟨?_, _, if_neg htop, ?_⟩
        · rw [Overflows, hval, not_le]
          exact zpow_lt_zpow_right₀ (by norm_num) (by omega)
        · have hdiv : m / 10 = 10 ^ (p.prec - 1) := by
            rw [hmeq, ← Nat.sub_add_cancel hprec, Nat.pow_succ, Nat.add_sub_cancel,
              Nat.mul_div_cancel _ (by norm_num)]
          rw [hval, hneg, Decimal.val_of_neg_eq_false rfl, hdiv]
          push_cast
          rw [← zpow_natCast, ← zpow_add₀ (by norm_num)]
          congr 1
          omega
    · rw [if_neg hcarry]
      refine Or.inr ⟨?_, _, rfl, ?_⟩
      · have hlt : (m : ℚ) < 10 ^ p.prec := by
          have := Nat.lt_pow_of_log_lt (b := 10) (by norm_num)
            (show Nat.log 10 m < p.prec by unfold numDigits at hcarry; omega)
          exact_mod_cast this
        rw [Overflows, hrnd, not_le]
        calc (m : ℚ) * 10 ^ p.grid d.val < 10 ^ p.prec * 10 ^ p.grid d.val :=
              mul_lt_mul_of_pos_right hlt (zpow_pos10 _)
          _ = 10 ^ (p.prec + p.grid d.val : ℤ) := by
              rw [zpow_add₀ (by norm_num), zpow_natCast]
          _ ≤ 10 ^ (p.emax + 1) := zpow_le_zpow_right₀ (by norm_num) (by omega)
      · rw [hrnd, hneg, Decimal.val_of_neg_eq_false rfl]
  · -- nothing to drop
    have hrnd : p.rnd d.val = d.val := by
      have h := not_lt.mp hexp
      rw [Decimal.val_of_neg_eq_false hneg] at h ⊢
      exact p.rnd_of_grid_le h
    simp only [if_neg hexp]
    refine Or.inr ⟨?_, d, rfl, hrnd.symm⟩
    rw [Overflows, hrnd, not_le]
    have := (Int.lt_zpow_iff_log_lt (b := 10) (by norm_num) hx).mpr
      (show Int.log 10 d.val < p.emax + 1 by omega)
    simpa using this

end Precision

/-- The precision of the default context. -/
def defaultPrecision : Precision := ⟨28, -999999, 999999, by norm_num, by norm_num, by norm_num⟩

/-- The default context of the `decimal` module. -/
def defaultContext : DecimalContext := .rounded defaultPrecision

namespace DecimalContext

/-- Fitting an exact result into the context. -/
def fix : DecimalContext → Decimal → Py Decimal
  | exact _, d => .ok d
  | rounded p, d => p.fix d

/-- The number of digits a quotient is computed to. -/
def prec : DecimalContext → ℕ
  | exact n => n
  | rounded p => p.prec

variable (ctx : DecimalContext)

/-- `a + b` -/
def add (a b : Decimal) : Py Decimal := ctx.fix (a.add b)

/-- `a - b` -/
def sub (a b : Decimal) : Py Decimal := ctx.fix (a.sub b)

/-- `a * b` -/
def mul (a b : Decimal) : Py Decimal := ctx.fix (a.mul b)

/-- `abs(a)` -/
def abs (a : Decimal) : Py Decimal := ctx.fix a.abs

/-- `-a`, which is not the negative zero. -/
def minus (a : Decimal) : Py Decimal := ctx.fix (if a.coeff = 0 then a.abs else a.negate)

/-- Removing trailing zeros of an exact quotient while its exponent is below the ideal one. -/
def dropZeros : ℕ → ℕ → ℤ → ℕ × ℤ
  | 0, c, e => (c, e)
  | k + 1, c, e => if c % 10 = 0 then dropZeros k (c / 10) (e + 1) else (c, e)

/-- `a / b` (`Decimal.__truediv__`): one digit more than the precision, the last one made
sticky, then `fix`. -/
def div (a b : Decimal) : Py Decimal :=
  if b.coeff = 0 then
    if a.coeff = 0 then
      .error ⟨.invalidOperation, "[<class 'decimal.DivisionUndefined'>]"⟩
    else .error ⟨.divisionByZero, "[<class 'decimal.DivisionByZero'>]"⟩
  else if a.coeff = 0 then ctx.fix ⟨xor a.neg b.neg, 0, a.exp - b.exp⟩
  else
    let shift : ℤ := numDigits b.coeff - numDigits a.coeff + ctx.prec + 1
    let exp := a.exp - b.exp - shift
    let n := a.coeff * 10 ^ shift.toNat
    let d := b.coeff * 10 ^ (-shift).toNat
    let (c, e) :=
      if n % d = 0 then dropZeros shift.toNat (n / d) exp
      else (if (n / d) % 5 = 0 then n / d + 1 else n / d, exp)
    ctx.fix ⟨xor a.neg b.neg, c, e⟩

/-- `sum(xs, Decimal())` -/
def sum (xs : List Decimal) : Py Decimal := xs.foldlM ctx.add (Decimal.ofNat 0)

/-! ### Exact arithmetic -/

@[simp] theorem exact_add (n : ℕ) (a b : Decimal) : (exact n).add a b = .ok (a.add b) := rfl

@[simp] theorem exact_sub (n : ℕ) (a b : Decimal) : (exact n).sub a b = .ok (a.sub b) := rfl

@[simp] theorem exact_mul (n : ℕ) (a b : Decimal) : (exact n).mul a b = .ok (a.mul b) := rfl

/-! ### Values of rounded results -/

/-- The value of a result `x ≥ 0` after rounding. -/
def rnd : DecimalContext → ℚ → ℚ
  | exact _, x => x
  | rounded p, x => p.rnd x

/-- A result of value `x ≥ 0` is out of the exponent range. -/
def Overflows : DecimalContext → ℚ → Prop
  | exact _, _ => False
  | rounded p, x => p.Overflows x

/-- The value of `a` survives rounding. -/
def Fits (a : Decimal) : Prop := ctx.rnd a.val = a.val

variable {x : ℚ} {d r s a b : Decimal} {xs : List Decimal}

theorem rnd_mono {y : ℚ} (hx : 0 ≤ x) (h : x ≤ y) : ctx.rnd x ≤ ctx.rnd y := by
  cases ctx with
  | exact _ => exact h
  | rounded p => exact p.rnd_mono hx h

theorem rnd_rnd (hx : 0 ≤ x) : ctx.rnd (ctx.rnd x) = ctx.rnd x := by
  cases ctx with
  | exact _ => rfl
  | rounded p => exact p.rnd_rnd hx

theorem rnd_nonneg (hx : 0 ≤ x) : 0 ≤ ctx.rnd x := by
  cases ctx with
  | exact _ => exact hx
  | rounded p => exact p.rnd_nonneg hx

theorem fits_zero : ctx.Fits (Decimal.ofNat 0) := by
  cases ctx <;> simp [Fits, rnd]

/-- `fix` on a number that is not negative. -/
theorem fix_nonneg (hd : 0 ≤ d.val) : (ctx.Overflows d.val ∧ ctx.fix d = .error decimalOverflow) ∨
      (¬ ctx.Overflows d.val ∧ ∃ r, ctx.fix d = .ok r ∧ r.val = ctx.rnd d.val) := by
  cases ctx with
  | exact _ => exact Or.inr ⟨not_false, d, rfl, rfl⟩
  | rounded p =>
    by_cases hc : d.coeff = 0
    · have hval : d.val = 0 := d.val_eq_zero_iff.mpr hc
      refine Or.inr ⟨?_, _, if_pos hc, ?_⟩
      · rw [Overflows, Precision.Overflows, hval, Precision.rnd_zero, not_le]
        exact Precision.zpow_pos10 _
      · rw [rnd, hval, Precision.rnd_zero]
        exact (Decimal.val_eq_zero_iff _).mpr hc
    · exact Precision.fix_pos hc (Decimal.neg_eq_false_of_nonneg hc hd)

variable {ctx}

theorem val_fix (hd : 0 ≤ d.val) (h : ctx.fix d = .ok r) : r.val = ctx.rnd d.val := by
  obtain ⟨-, he⟩ | ⟨-, r', hr, hv⟩ := ctx.fix_nonneg hd
  · rw [he] at h; cases h
  · rw [hr] at h; cases h; exact hv

variable (ctx) in
/-- The value of any result after rounding, which does not look at the sign. -/
def round (x : ℚ) : ℚ := if x < 0 then -ctx.rnd (-x) else ctx.rnd x

theorem fix_negate (d : Decimal) : ctx.fix d.negate = (ctx.fix d).map Decimal.negate := by
  cases ctx with
  | exact _ => rfl
  | rounded p =>
    show p.fix d.negate = (p.fix d).map Decimal.negate
    have hc : d.negate.coeff = d.coeff := rfl
    have he : d.negate.exp = d.exp := rfl
    unfold Precision.fix
    rw [hc, he]
    dsimp only
    split_ifs <;> rfl

theorem val_eq_round (h : ctx.fix d = .ok r) : r.val = ctx.round d.val := by
  unfold round
  by_cases hneg : d.val < 0
  · rw [if_pos hneg]
    have hpos : 0 ≤ d.negate.val := by
      rw [Decimal.val_negate]
      exact neg_nonneg.mpr hneg.le
    have hfix : ctx.fix d.negate = .ok r.negate := by
      rw [fix_negate, h]
      rfl
    have hval := val_fix hpos hfix
    rw [Decimal.val_negate, Decimal.val_negate] at hval
    rw [← hval, neg_neg]
  · rw [if_neg hneg]
    exact val_fix (not_lt.mp hneg) h

/-- **A smaller result fits when a larger one does**, and stays smaller. -/
theorem fix_mono {e : Decimal} (hd : 0 ≤ d.val) (hle : d.val ≤ e.val) (h : ctx.fix e = .ok s) :
    ∃ r, ctx.fix d = .ok r ∧ r.val ≤ s.val := by
  have hs := val_fix (hd.trans hle) h
  obtain ⟨ho, -⟩ | ⟨-, r, hr, hv⟩ := ctx.fix_nonneg hd
  · exfalso
    obtain ⟨-, he⟩ | ⟨hno, -⟩ := ctx.fix_nonneg (hd.trans hle)
    · rw [he] at h; cases h
    · cases ctx with
      | exact _ => exact ho
      | rounded p => exact hno (Precision.Overflows.mono hd hle ho)
  · exact ⟨r, hr, by rw [hv, hs]; exact ctx.rnd_mono hd hle⟩

theorem val_add (ha : 0 ≤ a.val) (hb : 0 ≤ b.val) (h : ctx.add a b = .ok r) :
    r.val = ctx.rnd (a.val + b.val) := by
  rw [← Decimal.val_add]
  exact val_fix (by rw [Decimal.val_add]; exact add_nonneg ha hb) h

theorem add_nonneg_of_ok (ha : 0 ≤ a.val) (hb : 0 ≤ b.val)
    (h : ctx.add a b = .ok r) : 0 ≤ r.val := by
  rw [val_add ha hb h]
  exact ctx.rnd_nonneg (add_nonneg ha hb)

theorem fits_of_add (ha : 0 ≤ a.val) (hb : 0 ≤ b.val) (h : ctx.add a b = .ok r) : ctx.Fits r := by
  rw [Fits, val_add ha hb h]
  exact ctx.rnd_rnd (add_nonneg ha hb)

/-- **Rounded addition is monotone.** -/
theorem add_mono {a' b' : Decimal} (ha : 0 ≤ a.val) (hb : 0 ≤ b.val)
    (haa : a.val ≤ a'.val) (hbb : b.val ≤ b'.val) (h : ctx.add a' b' = .ok s) :
    ∃ r, ctx.add a b = .ok r ∧ r.val ≤ s.val := by
  refine fix_mono ?_ ?_ h
  · rw [Decimal.val_add]; exact add_nonneg ha hb
  · rw [Decimal.val_add, Decimal.val_add]; exact add_le_add haa hbb

/-- **Adding never lowers an already rounded number.** -/
theorem le_add (ha : 0 ≤ a.val) (hb : 0 ≤ b.val) (hfit : ctx.Fits a)
    (h : ctx.add a b = .ok r) : a.val ≤ r.val := by
  calc a.val = ctx.rnd a.val := hfit.symm
    _ ≤ ctx.rnd (a.val + b.val) := ctx.rnd_mono ha (le_add_of_nonneg_right hb)
    _ = r.val := (val_add ha hb h).symm

/-! ### Rounded sums -/

theorem sum_concat (xs : List Decimal) (x : Decimal) :
    ctx.sum (xs ++ [x]) = ctx.sum xs >>= fun s => ctx.add s x := by
  simp only [sum, List.foldlM_append, List.foldlM_cons, List.foldlM_nil, bind_pure]

/-- The accumulator of a sum of non-negative numbers stays rounded and never falls. -/
private theorem foldlM_add_spec (hxs : ∀ x ∈ xs, 0 ≤ x.val) :
    ∀ {a s : Decimal}, 0 ≤ a.val → ctx.Fits a → xs.foldlM ctx.add a = .ok s →
      a.val ≤ s.val ∧ ctx.Fits s := by
  induction xs with
  | nil => intro a s ha hfit h; cases h; exact ⟨le_rfl, hfit⟩
  | cons x xs ih =>
    intro a s ha hfit h
    obtain ⟨hx, hxs⟩ := List.forall_mem_cons.mp hxs
    rw [List.foldlM_cons, Py.bind_eq_ok] at h
    obtain ⟨a', ha', h⟩ := h
    obtain ⟨hle, hs⟩ := ih hxs (add_nonneg_of_ok ha hx ha') (fits_of_add ha hx ha') h
    exact ⟨(le_add ha hx hfit ha').trans hle, hs⟩

private theorem foldlM_add_of_sublist {ys : List Decimal}
    (hsub : List.SublistForall₂ (fun x y => 0 ≤ x.val ∧ x.val ≤ y.val) xs ys)
    (hys : ∀ y ∈ ys, 0 ≤ y.val) :
    ∀ {a b s : Decimal}, 0 ≤ a.val → ctx.Fits a → a.val ≤ b.val → ctx.Fits b →
      ys.foldlM ctx.add b = .ok s → ∃ r, xs.foldlM ctx.add a = .ok r ∧ r.val ≤ s.val := by
  induction hsub with
  | nil =>
    intro a b s ha _ hab hfitb h
    exact ⟨a, rfl, hab.trans (foldlM_add_spec hys (ha.trans hab) hfitb h).1⟩
  | cons hxy _ ih =>
    intro a b s ha _ hab _ h
    obtain ⟨hy, hys⟩ := List.forall_mem_cons.mp hys
    rw [List.foldlM_cons, Py.bind_eq_ok] at h
    obtain ⟨b', hb', h⟩ := h
    obtain ⟨a', ha', hle⟩ := add_mono ha hxy.1 hab hxy.2 hb'
    obtain ⟨r, hr, hrs⟩ := ih hys (add_nonneg_of_ok ha hxy.1 ha') (fits_of_add ha hxy.1 ha') hle
      (fits_of_add (ha.trans hab) hy hb') h
    exact ⟨r, by rw [List.foldlM_cons, ha']; exact hr, hrs⟩
  | cons_right _ ih =>
    intro a b s ha hfita hab hfitb h
    obtain ⟨hy, hys⟩ := List.forall_mem_cons.mp hys
    rw [List.foldlM_cons, Py.bind_eq_ok] at h
    obtain ⟨b', hb', h⟩ := h
    have hbb' := le_add (ha.trans hab) hy hfitb hb'
    exact ih hys ha hfita (hab.trans hbb') (fits_of_add (ha.trans hab) hy hb') h

/-- **Lowering and dropping summands** of a sum of non-negative numbers never raises, and never
gives a larger sum. -/
theorem sum_of_sublist {ys : List Decimal}
    (hsub : List.SublistForall₂ (fun x y => 0 ≤ x.val ∧ x.val ≤ y.val) xs ys)
    (hys : ∀ y ∈ ys, 0 ≤ y.val) (h : ctx.sum ys = .ok s) :
    ∃ r, ctx.sum xs = .ok r ∧ r.val ≤ s.val :=
  foldlM_add_of_sublist hsub hys (by simp) ctx.fits_zero le_rfl ctx.fits_zero h

theorem exact_sum (n : ℕ) (xs : List Decimal) :
    ∃ s, (exact n).sum xs = .ok s ∧ s.val = (xs.map Decimal.val).sum := by
  induction xs using List.reverseRecOn with
  | nil => exact ⟨_, rfl, by simp⟩
  | append_singleton xs x ih =>
    obtain ⟨s, hs, hv⟩ := ih
    exact ⟨s.add x, by rw [sum_concat, hs]; rfl, by simp [hv]⟩

end DecimalContext

end PyModel
