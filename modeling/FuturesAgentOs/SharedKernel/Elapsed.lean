import FuturesAgentOs.PyModel.Decimal
import FuturesAgentOs.SharedKernel.IsoTime

namespace FuturesAgentOs

open PyModel

/-!
# Differences of timestamps

The difference of two datetimes counts microseconds on the calendar, so it needs the days from
one date to another.

* `secondsDecimal` — `Decimal(str(delta.total_seconds()))`.
-/

def daysBeforeYear (year : ℕ) : ℕ :=
  (year - 1) * 365 + (year - 1) / 4 - (year - 1) / 100 + (year - 1) / 400

def daysBeforeMonth (year month : ℕ) : ℕ :=
  ((List.range (month - 1)).map fun m => daysInMonth year (m + 1)).sum

theorem daysBeforeMonth_succ (year : ℕ) {month : ℕ} (h : 1 ≤ month) :
    daysBeforeMonth year (month + 1) = daysBeforeMonth year month + daysInMonth year month := by
  obtain ⟨m, rfl⟩ : ∃ m, month = m + 1 := ⟨month - 1, by omega⟩
  simp [daysBeforeMonth, List.range_succ]

theorem daysBeforeMonth_mono (year : ℕ) {m n : ℕ} (hm : 1 ≤ m) (h : m ≤ n) :
    daysBeforeMonth year m ≤ daysBeforeMonth year n := by
  induction n, h using Nat.le_induction with
  | base => exact le_refl _
  | succ n hn ih =>
    rw [daysBeforeMonth_succ year (le_trans hm hn)]
    omega

theorem daysBeforeYear_succ {year : ℕ} (h : 1 ≤ year) :
    daysBeforeYear (year + 1) = daysBeforeYear year + daysBeforeMonth year 13 := by
  have hmonths : daysBeforeMonth year 13 = 337 + daysInMonth year 2 := by
    simp [daysBeforeMonth, List.range_succ, daysInMonth]
    omega
  obtain ⟨k, rfl⟩ : ∃ k, year = k + 1 := ⟨year - 1, by omega⟩
  have hfebruary : daysInMonth (k + 1) 2
      = if (k + 1) % 4 = 0 ∧ ((k + 1) % 100 ≠ 0 ∨ (k + 1) % 400 = 0) then 29 else 28 := rfl
  have hdiv : ∀ n, (k + 1) / n = k / n + if (k + 1) % n = 0 then 1 else 0 := by
    intro n
    rw [Nat.succ_div]
    simp only [Nat.dvd_iff_mod_eq_zero]
  have hfewer : k / 100 ≤ k / 4 := Nat.div_le_div_left (by norm_num) (by norm_num)
  have h100 : (k + 1) % 100 = 0 → (k + 1) % 4 = 0 := fun h => by omega
  have h400 : (k + 1) % 400 = 0 → (k + 1) % 100 = 0 := fun h => by omega
  rw [hmonths, hfebruary]
  simp only [daysBeforeYear, Nat.add_sub_cancel, hdiv 4, hdiv 100, hdiv 400]
  generalize k / 4 = fours at *
  generalize k / 100 = centuries at *
  generalize k / 400 = fourths at *
  -- a century is divisible by 4, and every fourth one by 400
  by_cases hleap : (k + 1) % 4 = 0
  · by_cases hcentury : (k + 1) % 100 = 0
    · by_cases hfourth : (k + 1) % 400 = 0
      · simp only [hleap, hcentury, hfourth, if_true]
        simp
        omega
      · simp [hleap, hcentury, hfourth]
        omega
    · have hfourth : (k + 1) % 400 ≠ 0 := mt h400 hcentury
      simp [hleap, hcentury, hfourth]
      omega
  · have hcentury : (k + 1) % 100 ≠ 0 := mt h100 hleap
    have hfourth : (k + 1) % 400 ≠ 0 := mt h400 hcentury
    simp [hleap, hcentury, hfourth]
    omega

theorem daysBeforeYear_mono {m n : ℕ} (hm : 1 ≤ m) (h : m ≤ n) :
    daysBeforeYear m ≤ daysBeforeYear n := by
  induction n, h using Nat.le_induction with
  | base => exact le_refl _
  | succ n hn ih =>
    rw [daysBeforeYear_succ (le_trans hm hn)]
    omega

namespace Date

/-- `date.toordinal()` -/
def toordinal (d : Date) : ℕ := daysBeforeYear d.year + daysBeforeMonth d.year d.month + d.day

/-- A later date has a larger ordinal. -/
theorem toordinal_lt {d e : Date} (h : d.ticks < e.ticks) : d.toordinal < e.toordinal := by
  have hd := d.day_range
  have he := e.day_range
  have hmonth := d.month_range
  have hmonth' := e.month_range
  -- a date is before the first day of the next month
  have hnext : d.toordinal ≤ daysBeforeYear d.year + daysBeforeMonth d.year (d.month + 1) := by
    rw [daysBeforeMonth_succ d.year hmonth.1, toordinal]
    omega
  simp only [ticks] at h
  have hday := le_trans hd.2 (daysInMonth_le _ _)
  have hday' := le_trans he.2 (daysInMonth_le _ _)
  rcases lt_trichotomy d.year e.year with hyear | hyear | hyear
  · have hwhole : daysBeforeMonth d.year (d.month + 1) ≤ daysBeforeMonth d.year 13 :=
      daysBeforeMonth_mono d.year (by omega) (by omega)
    have hsucc := daysBeforeYear_succ d.year_range.1
    have hmono : daysBeforeYear (d.year + 1) ≤ daysBeforeYear e.year :=
      daysBeforeYear_mono (by omega) hyear
    rw [toordinal.eq_1 e]
    omega
  · rcases lt_trichotomy d.month e.month with hm | hm | hm
    · have hmono : daysBeforeMonth d.year (d.month + 1) ≤ daysBeforeMonth d.year e.month :=
        daysBeforeMonth_mono d.year (by omega) hm
      rw [toordinal.eq_1 e, ← hyear]
      omega
    · rw [toordinal, toordinal, hyear, hm]
      omega
    · omega
  · omega

end Date

/-- Numbers of two digits are compared by the first digit. -/
theorem lt_of_high_lt {a b x y base : ℕ} (hx : x < base) (h : a < b) :
    a * base + x < b * base + y := by
  have hstep : (a + 1) * base ≤ b * base := Nat.mul_le_mul_right base h
  rw [Nat.succ_mul] at hstep
  omega

namespace RecordedAt

/-- The microseconds of the day. -/
def dayMicros (t : RecordedAt) : ℕ :=
  ((t.hour * 60 + t.minute) * 60 + t.second) * 1000000 + t.microsecond

theorem dayMicros_lt (t : RecordedAt) : t.dayMicros < microsPerDay := by
  have := t.hour.isLt
  have := t.minute.isLt
  have := t.second.isLt
  have := t.microsecond.isLt
  simp only [dayMicros, microsPerDay]
  omega

/-- The microseconds of a timestamp. -/
def micros (t : RecordedAt) : ℕ := t.date.toordinal * microsPerDay + t.dayMicros

theorem ticks_eq (t : RecordedAt) : t.ticks = t.date.ticks * microsPerDay + t.dayMicros := by
  simp only [ticks, dayMicros, microsPerDay]
  omega

variable {s t : RecordedAt}

theorem micros_lt (h : s < t) : s.micros < t.micros := by
  rw [lt_def, ticks_eq, ticks_eq] at h
  rw [micros, micros]
  rcases lt_trichotomy s.date.ticks t.date.ticks with hdate | hdate | hdate
  · exact lt_of_high_lt s.dayMicros_lt (Date.toordinal_lt hdate)
  · rw [Date.ticks_inj hdate] at h ⊢
    omega
  · exact absurd h (not_lt_of_gt (lt_of_high_lt t.dayMicros_lt hdate))

/-- **The order of time** is that of the microseconds. -/
theorem lt_iff_micros : s < t ↔ s.micros < t.micros := by
  refine ⟨micros_lt, fun h => ?_⟩
  by_contra hle
  rw [not_lt] at hle
  rcases Nat.lt_or_eq_of_le (le_def.mp hle) with hlt | heq
  · exact absurd (micros_lt (s := t) (t := s) hlt) (by omega)
  · rw [ticks_inj heq] at h
    omega

theorem le_iff_micros : s ≤ t ↔ s.micros ≤ t.micros := by
  rw [← not_lt, lt_iff_micros, Nat.not_lt]

/-- `s - t`, in microseconds. -/
def since (s t : RecordedAt) : ℤ := (s.micros : ℤ) - t.micros

theorem since_nonneg_iff : 0 ≤ s.since t ↔ t ≤ s := by
  rw [le_iff_micros, since]
  omega

end RecordedAt

/-- Drops zeros at the end of a coefficient, as many as the first argument at most. -/
def trimZeros : ℕ → ℕ → ℤ → ℕ × ℤ
  | 0, coeff, exp => (coeff, exp)
  | k + 1, coeff, exp =>
    if coeff % 10 = 0 then trimZeros k (coeff / 10) (exp + 1) else (coeff, exp)

/-- `Decimal(str(delta.total_seconds()))`, the difference given in microseconds: `str` of a float
writes no zeros at the end but the one after the point. -/
def secondsDecimal (micros : ℤ) : Decimal :=
  let trimmed := trimZeros 5 micros.natAbs (-6)
  ⟨decide (micros < 0), trimmed.1, trimmed.2⟩

/-- Zeros at the end do not change the number. -/
theorem trimZeros_val (k coeff : ℕ) (exp : ℤ) :
    ((trimZeros k coeff exp).1 : ℚ) * (10 : ℚ) ^ (trimZeros k coeff exp).2
      = coeff * (10 : ℚ) ^ exp := by
  induction k generalizing coeff exp with
  | zero => rfl
  | succ k ih =>
    rw [trimZeros]
    split
    · rename_i hzero
      have hcoeff : (coeff : ℚ) = (coeff / 10 : ℕ) * 10 := by
        exact_mod_cast (Nat.div_mul_cancel (Nat.dvd_of_mod_eq_zero hzero)).symm
      rw [ih, hcoeff, zpow_add₀ (by norm_num), zpow_one]
      ring
    · rfl

theorem val_secondsDecimal (micros : ℤ) : (secondsDecimal micros).val = micros / 1000000 := by
  have hval := trimZeros_val 5 micros.natAbs (-6)
  have habs : (micros.natAbs : ℚ) = |(micros : ℚ)| := by
    rw [Nat.cast_natAbs, Int.cast_abs]
  rw [habs] at hval
  have hpow : (10 : ℚ) ^ (-6 : ℤ) = 1 / 1000000 := by norm_num
  rw [hpow] at hval
  by_cases hneg : micros < 0
  · have hneg' : (micros : ℚ) < 0 := by exact_mod_cast hneg
    rw [abs_of_neg hneg'] at hval
    simp only [secondsDecimal, Decimal.val, Decimal.signed, decide_eq_true hneg, if_true]
    push_cast
    linarith
  · have hpos : (0 : ℚ) ≤ micros := by exact_mod_cast Int.not_lt.mp hneg
    rw [abs_of_nonneg hpos] at hval
    simp only [secondsDecimal, Decimal.val, Decimal.signed, decide_eq_false hneg,
      Bool.false_eq_true, if_false]
    push_cast
    linarith

end FuturesAgentOs
