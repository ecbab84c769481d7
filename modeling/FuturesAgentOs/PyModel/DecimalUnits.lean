import FuturesAgentOs.PyModel.DecimalContext

namespace PyModel

/-!
# Quantities that a context never rounds

A context rounds what has more digits than its precision.  Quantities that are whole numbers of one
decimal unit, and not too many units, are kept as they are, and so are their sums and differences:
on them the context computes exactly.

* `Keeps.sub`, `Keeps.add` — differences and sums;
* `OneGrid` — decimals whose differences and sums the context keeps (`oneGrid_exact`).
-/

/-- The decimal is a number of units `10 ^ unit`, at most `bound` of them. -/
def Decimal.IsUnits (unit : ℤ) (bound : ℕ) (d : Decimal) : Prop :=
  ∃ n : ℕ, n ≤ bound ∧ d.val = n * 10 ^ unit

/-- Every number of at most `bound` units survives the context. -/
def DecimalContext.Keeps (ctx : DecimalContext) (unit : ℤ) (bound : ℕ) : Prop :=
  ∀ d : Decimal, d.IsUnits unit bound → ∃ r, ctx.fix d = .ok r ∧ r.val = d.val

/-- The decimals are numbers of one unit that the context keeps. -/
def DecimalContext.OneGrid (ctx : DecimalContext) (ds : List Decimal) : Prop :=
  ∃ unit bound, ctx.Keeps unit bound ∧ ∀ d ∈ ds, d.IsUnits unit bound

section

variable {unit : ℤ} {bound : ℕ} {a b : Decimal}

namespace Decimal

/-- Whether nothing is left. -/
theorem numEq_zero_iff (d : Decimal) : d.numEq (ofNat 0) ↔ d.val = 0 := by
  rw [numEq, val_ofNat, Nat.cast_zero]

theorem isUnits_zero : (ofNat 0).IsUnits unit bound := ⟨0, Nat.zero_le _, by simp⟩

theorem isUnits_ofNat {n : ℕ} (h : n ≤ bound) : (ofNat n).IsUnits 0 bound := ⟨n, h, by simp⟩

theorem IsUnits.nonneg (h : a.IsUnits unit bound) : 0 ≤ a.val := by
  obtain ⟨n, -, hn⟩ := h
  rw [hn]
  positivity

theorem IsUnits.le (h : a.IsUnits unit bound) : a.val ≤ bound * 10 ^ unit := by
  obtain ⟨n, hle, hn⟩ := h
  rw [hn]
  have : (n : ℚ) ≤ bound := by exact_mod_cast hle
  gcongr

theorem IsUnits.congr (h : a.IsUnits unit bound) (hval : b.val = a.val) : b.IsUnits unit bound := by
  rw [IsUnits, hval]
  exact h

theorem IsUnits.mono {unit' : ℤ} {bound' : ℕ} (h : a.IsUnits unit bound) (hunit : unit' ≤ unit)
    (hbound : bound * 10 ^ (unit - unit').toNat ≤ bound') : a.IsUnits unit' bound' := by
  obtain ⟨n, hle, hn⟩ := h
  refine ⟨n * 10 ^ (unit - unit').toNat, (Nat.mul_le_mul_right _ hle).trans hbound, ?_⟩
  have hpow : (10 : ℚ) ^ (unit - unit').toNat * 10 ^ unit' = 10 ^ unit := by
    rw [← zpow_natCast, ← zpow_add₀ (by norm_num)]
    congr 1
    omega
  rw [hn, Nat.cast_mul, Nat.cast_pow, mul_assoc]
  push_cast
  rw [hpow]

/-- A decimal is a number of its own units. -/
theorem isUnits_self (h : 0 ≤ a.val) : a.IsUnits a.exp a.coeff := by
  refine ⟨a.coeff, le_rfl, ?_⟩
  rcases Nat.eq_zero_or_pos a.coeff with hzero | hpos
  · rw [(val_eq_zero_iff a).mpr hzero, hzero]
    simp
  · rw [val, signed]
    rw [val, signed] at h
    cases hneg : a.neg with
    | false => simp
    | true =>
      have hlt : (a.coeff : ℚ) * 10 ^ a.exp > 0 := by positivity
      rw [hneg, if_pos rfl] at h
      push_cast at h
      linarith

theorem IsUnits.min' (ha : a.IsUnits unit bound) (hb : b.IsUnits unit bound) :
    (a.min' b).IsUnits unit bound := by
  rcases min_choice a.val b.val with hmin | hmin
  · exact ha.congr (by rw [val_min', hmin])
  · exact hb.congr (by rw [val_min', hmin])

/-- The difference of two numbers of units. -/
theorem IsUnits.sub (ha : a.IsUnits unit bound) (hb : b.IsUnits unit bound)
    (hle : b.val ≤ a.val) : (a.sub b).IsUnits unit bound := by
  obtain ⟨m, hm, ha⟩ := ha
  obtain ⟨n, -, hb⟩ := hb
  have hpos : (0 : ℚ) < 10 ^ unit := Precision.zpow_pos10 unit
  have hnm : n ≤ m := by
    rw [ha, hb, mul_le_mul_iff_left₀ hpos] at hle
    exact_mod_cast hle
  refine ⟨m - n, by omega, ?_⟩
  rw [val_sub, ha, hb, Nat.cast_sub hnm]
  ring

/-- The sum of two numbers of units, as long as there are not too many. -/
theorem IsUnits.add (ha : a.IsUnits unit bound) (hb : b.IsUnits unit bound)
    (hle : a.val + b.val ≤ bound * 10 ^ unit) : (a.add b).IsUnits unit bound := by
  obtain ⟨m, -, ha⟩ := ha
  obtain ⟨n, -, hb⟩ := hb
  have hpos : (0 : ℚ) < 10 ^ unit := Precision.zpow_pos10 unit
  have hsum : (m : ℚ) * 10 ^ unit + n * 10 ^ unit = (m + n : ℕ) * 10 ^ unit := by
    push_cast
    ring
  refine ⟨m + n, ?_, by rw [val_add, ha, hb, hsum]⟩
  rw [ha, hb, hsum, mul_le_mul_iff_left₀ hpos] at hle
  exact_mod_cast hle

end Decimal

namespace DecimalContext

theorem keeps_exact (n : ℕ) : (exact n).Keeps unit bound := fun d _ => ⟨d, rfl, rfl⟩

/-- A rounding context keeps what has at most as many digits as its precision. -/
theorem keeps_rounded {p : Precision} (hunit : p.etiny ≤ unit) (hbound : bound < 10 ^ p.prec)
    (hrange : unit + p.prec ≤ p.emax + 1) : (rounded p).Keeps unit bound := by
  rintro d ⟨n, hn, hval⟩
  have hlt : n < 10 ^ p.prec := by omega
  have hrnd : p.rnd d.val = d.val := by
    rw [hval]
    exact p.rnd_of_grid hunit hlt.le
  have hnonneg : 0 ≤ d.val := by
    rw [hval]
    positivity
  rcases (rounded p).fix_nonneg hnonneg with ⟨hover, -⟩ | ⟨-, r, hr, hv⟩
  · -- the number is below the largest power of ten of the context
    have hbig : (10 : ℚ) ^ (p.emax + 1) ≤ d.val := by
      rw [← hrnd]
      exact hover
    have hsmall : d.val < 10 ^ (p.emax + 1) := by
      calc d.val = n * 10 ^ unit := hval
        _ < 10 ^ p.prec * 10 ^ unit := by
            have : (n : ℚ) < 10 ^ p.prec := by exact_mod_cast hlt
            exact mul_lt_mul_of_pos_right this (Precision.zpow_pos10 unit)
        _ = 10 ^ (unit + p.prec : ℤ) := by
            rw [add_comm, zpow_add₀ (by norm_num), zpow_natCast]
        _ ≤ 10 ^ (p.emax + 1) := zpow_le_zpow_right₀ (by norm_num) hrange
    exact absurd hbig hsmall.not_ge
  · exact ⟨r, hr, hv.trans hrnd⟩

theorem keeps_default (hlow : -1000026 ≤ unit) (hhigh : unit ≤ 999972) (hbound : bound < 10 ^ 28) :
    defaultContext.Keeps unit bound :=
  keeps_rounded hlow hbound (by show unit + 28 ≤ 999999 + 1; omega)

variable {ctx : DecimalContext}

namespace Keeps

/-- **Differences are exact.** -/
theorem sub (h : ctx.Keeps unit bound) (ha : a.IsUnits unit bound) (hb : b.IsUnits unit bound)
    (hle : b.val ≤ a.val) :
    ∃ r, ctx.sub a b = .ok r ∧ r.val = a.val - b.val ∧ r.IsUnits unit bound := by
  obtain ⟨r, hr, hval⟩ := h _ (ha.sub hb hle)
  exact ⟨r, hr, by rw [hval, Decimal.val_sub], (ha.sub hb hle).congr hval⟩

/-- **Sums are exact.** -/
theorem add (h : ctx.Keeps unit bound) (ha : a.IsUnits unit bound) (hb : b.IsUnits unit bound)
    (hle : a.val + b.val ≤ bound * 10 ^ unit) :
    ∃ r, ctx.add a b = .ok r ∧ r.val = a.val + b.val ∧ r.IsUnits unit bound := by
  obtain ⟨r, hr, hval⟩ := h _ (ha.add hb hle)
  exact ⟨r, hr, by rw [hval, Decimal.val_add], (ha.add hb hle).congr hval⟩

/-- A difference that the context has computed. -/
theorem of_sub (h : ctx.Keeps unit bound) (ha : a.IsUnits unit bound) (hb : b.IsUnits unit bound)
    (hle : b.val ≤ a.val) {c : Decimal} (hsub : ctx.sub a b = .ok c) :
    c.val = a.val - b.val ∧ c.IsUnits unit bound := by
  obtain ⟨c', h', hval, hunits⟩ := h.sub ha hb hle
  obtain rfl : c' = c := Except.ok.inj (h'.symm.trans hsub)
  exact ⟨hval, hunits⟩

/-- A sum that the context has computed, when there is room for it. -/
theorem of_add (h : ctx.Keeps unit bound) (ha : a.IsUnits unit bound) (hb : b.IsUnits unit bound)
    (hle : a.val + b.val ≤ bound * 10 ^ unit) {c : Decimal} (hadd : ctx.add a b = .ok c) :
    c.val = a.val + b.val ∧ c.IsUnits unit bound := by
  obtain ⟨c', h', hval, hunits⟩ := h.add ha hb hle
  obtain rfl : c' = c := Except.ok.inj (h'.symm.trans hadd)
  exact ⟨hval, hunits⟩

end Keeps

variable {ds : List Decimal} {total : Decimal}

/-- As long as the total has room, adding numbers of units up is exact. -/
theorem Keeps.val_foldlM (h : ctx.Keeps unit bound)
    (hds : ∀ d ∈ ds, d.IsUnits unit bound) {start : Decimal} (hstart : start.IsUnits unit bound)
    (hle : start.val + (ds.map Decimal.val).sum ≤ bound * 10 ^ unit)
    (hsum : ds.foldlM ctx.add start = .ok total) :
    total.val = start.val + (ds.map Decimal.val).sum := by
  induction ds generalizing start with
  | nil =>
    cases hsum
    simp
  | cons d ds ih =>
    rw [List.forall_mem_cons] at hds
    rw [List.map_cons, List.sum_cons, ← add_assoc] at hle ⊢
    have hrest : 0 ≤ (ds.map Decimal.val).sum := by
      apply List.sum_nonneg
      intro x hx
      obtain ⟨y, hy, rfl⟩ := List.mem_map.mp hx
      exact (hds.2 y hy).nonneg
    obtain ⟨next, hnext, hsum⟩ := Py.of_bind hsum
    obtain ⟨hval, hunits⟩ := h.of_add hstart hds.1 (by linarith) hnext
    rw [ih hds.2 hunits (by rw [hval]; exact hle) hsum, hval]

/-- A number of units that is at most a rounded sum is at most the sum itself. -/
theorem Keeps.le_of_le_sum (h : ctx.Keeps unit bound)
    (hds : ∀ d ∈ ds, d.IsUnits unit bound) (hsum : ctx.sum ds = .ok total)
    (ha : a.IsUnits unit bound) (hle : a.val ≤ total.val) : a.val ≤ (ds.map Decimal.val).sum := by
  by_contra hlt
  rw [not_le] at hlt
  have hroom : (Decimal.ofNat 0).val + (ds.map Decimal.val).sum ≤ bound * 10 ^ unit := by
    rw [Decimal.val_ofNat, Nat.cast_zero, zero_add]
    exact hlt.le.trans ha.le
  have htotal := h.val_foldlM hds Decimal.isUnits_zero hroom hsum
  rw [Decimal.val_ofNat, Nat.cast_zero, zero_add] at htotal
  exact absurd (htotal ▸ hle) (not_le.mpr hlt)

theorem Keeps.eq_zero_of_sum (h : ctx.Keeps unit bound)
    (hds : ∀ d ∈ ds, d.IsUnits unit bound) (hsum : ctx.sum ds = .ok total)
    (hzero : total.val = 0) : ∀ d ∈ ds, d.val = 0 := by
  intro d hd
  have hnonneg : ∀ x ∈ ds, 0 ≤ x.val := fun x hx => (hds x hx).nonneg
  -- the one summand alone is a sum that is not larger
  have hsub : List.SublistForall₂ (fun x y : Decimal => 0 ≤ x.val ∧ x.val ≤ y.val) [d] ds := by
    rw [List.sublistForall₂_iff]
    exact ⟨[d], List.Forall₂.cons ⟨hnonneg d hd, le_rfl⟩ List.Forall₂.nil,
      List.singleton_sublist.mpr hd⟩
  obtain ⟨single, hsingle, hle⟩ := sum_of_sublist hsub hnonneg hsum
  have hbound : (Decimal.ofNat 0).val + d.val ≤ bound * 10 ^ unit := by
    rw [Decimal.val_ofNat, Nat.cast_zero, zero_add]
    exact (hds d hd).le
  obtain ⟨r, hr, hval, -⟩ := h.add Decimal.isUnits_zero (hds d hd) hbound
  have hsame : ctx.sum [d] = .ok r := by
    show (ctx.add (Decimal.ofNat 0) d >>= fun s => .ok s) = _
    rw [hr, Py.ok_bind]
  obtain rfl : single = r := Except.ok.inj (hsingle.symm.trans hsame)
  rw [hval, hzero, Decimal.val_ofNat, Nat.cast_zero, zero_add] at hle
  exact le_antisymm hle (hnonneg d hd)

/-- Without rounding there is always such a unit. -/
theorem oneGrid_exact (n : ℕ) (hds : ∀ d ∈ ds, 0 ≤ d.val) : (exact n).OneGrid ds := by
  induction ds with
  | nil =>
    refine ⟨0, 0, keeps_exact n, fun d hd => ?_⟩
    cases hd
  | cons d ds ih =>
    rw [List.forall_mem_cons] at hds
    obtain ⟨unit, bound, -, hunits⟩ := ih hds.2
    -- the smaller of the two units, and room for both
    refine ⟨min d.exp unit, d.coeff * 10 ^ (d.exp - min d.exp unit).toNat
      + bound * 10 ^ (unit - min d.exp unit).toNat, keeps_exact n, ?_⟩
    rw [List.forall_mem_cons]
    constructor
    · exact (Decimal.isUnits_self hds.1).mono (min_le_left _ _) (Nat.le_add_right _ _)
    · intro x hx
      exact (hunits x hx).mono (min_le_right _ _) (Nat.le_add_left _ _)

end DecimalContext

namespace DecimalContext

variable {ctx : DecimalContext}

end DecimalContext

end

end PyModel
