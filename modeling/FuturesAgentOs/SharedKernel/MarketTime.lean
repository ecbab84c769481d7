import FuturesAgentOs.SharedKernel.IsoTime

namespace FuturesAgentOs

open PyModel

/-!
# Market time

`shared_kernel/time.py`: a `TradingDate` is a date; a `ShanghaiTimestamp` is a datetime of the one
zone object `Asia/Shanghai`.  Python compares two datetimes of one zone object by their local
fields, whatever `fold` says, and subtracts from the local fields as well.

* `ShanghaiTimestamp.dateBefore` — the local date of the moment before.
-/

instance : LT Date := ⟨fun d e => d.ticks < e.ticks⟩

instance : LE Date := ⟨fun d e => d.ticks ≤ e.ticks⟩

instance (d e : Date) : Decidable (d < e) := inferInstanceAs (Decidable (d.ticks < e.ticks))

instance (d e : Date) : Decidable (d ≤ e) := inferInstanceAs (Decidable (d.ticks ≤ e.ticks))

structure TradingDate where
  value : Date
  deriving DecidableEq

instance instNeZeroFold : NeZero 2 := ⟨by decide⟩

/-- A `ShanghaiTimestamp`, by its local datetime. -/
structure ShanghaiTimestamp where
  date : Date
  hour : Fin 24
  minute : Fin 60
  second : Fin 60
  microsecond : Fin 1000000
  fold : Fin 2 := 0
  deriving DecidableEq

namespace ShanghaiTimestamp

/-- The microseconds since midnight. -/
def micros (t : ShanghaiTimestamp) : ℕ :=
  ((t.hour * 60 + t.minute) * 60 + t.second) * 1000000 + t.microsecond

theorem micros_lt (t : ShanghaiTimestamp) : t.micros < microsPerDay := by
  simp only [micros, microsPerDay]
  omega

/-- The place of a timestamp in the order of local time. -/
def ticks (t : ShanghaiTimestamp) : ℕ := t.date.ticks * microsPerDay + t.micros

instance : LT ShanghaiTimestamp := ⟨fun s t => s.ticks < t.ticks⟩

instance : LE ShanghaiTimestamp := ⟨fun s t => s.ticks ≤ t.ticks⟩

instance (s t : ShanghaiTimestamp) : Decidable (s < t) :=
  inferInstanceAs (Decidable (s.ticks < t.ticks))

instance (s t : ShanghaiTimestamp) : Decidable (s ≤ t) :=
  inferInstanceAs (Decidable (s.ticks ≤ t.ticks))

variable {s t : ShanghaiTimestamp}

theorem lt_def : s < t ↔ s.ticks < t.ticks := Iff.rfl

theorem le_def : s ≤ t ↔ s.ticks ≤ t.ticks := Iff.rfl

theorem lt_of_le_of_lt {u : ShanghaiTimestamp} (hst : s ≤ t) (htu : t < u) : s < u :=
  Nat.lt_of_le_of_lt hst htu

/-- `(value - datetime.resolution).date()`.  Nothing comes before the first moment of the
calendar, where Python's subtraction raises. -/
def dateBefore (t : ShanghaiTimestamp) : Date :=
  if t.micros = 0 then t.date.previous.getD t.date else t.date

/-- The local fields, as `isoformat` writes them before the offset. -/
def localText (t : ShanghaiTimestamp) : Text :=
  t.date.isoformat ++ Text.ofChar 'T'
    :: RecordedAt.clockText ⟨t.date, t.hour, t.minute, t.second, t.microsecond⟩

/-- `market_time.to_dict()["market_time"]`, with the offset of the zone at each local time. -/
def text (offsetText : ShanghaiTimestamp → Text) (t : ShanghaiTimestamp) : Text :=
  t.localText ++ offsetText t

end ShanghaiTimestamp

/-! ### The day before -/

namespace Date

theorem ofYmd_eq_some_iff {year month day : ℕ} {d : Date} :
    ofYmd year month day = some d ↔ d.year = year ∧ d.month = month ∧ d.day = day := by
  obtain ⟨y, m, n, hy, hm, hn⟩ := d
  constructor
  · intro h
    unfold ofYmd at h
    split_ifs at h
    obtain ⟨rfl, rfl, rfl⟩ := Date.mk.inj (Option.some.inj h)
    exact ⟨rfl, rfl, rfl⟩
  · rintro ⟨rfl, rfl, rfl⟩
    unfold ofYmd
    rw [dif_pos hy, dif_pos hm, dif_pos hn]

theorem le_daysInMonth (year month : ℕ) : 28 ≤ daysInMonth year month := by
  unfold daysInMonth
  split_ifs <;> omega

/-- **The day before** is the last of the earlier days. -/
theorem le_previous {d e : Date} (h : d < e) : ∃ p, e.previous = some p ∧ d ≤ p := by
  obtain ⟨y, m, n, hy, hm, hn⟩ := e
  have hd := d.day_range
  have hdm := d.month_range
  have hdy := d.year_range
  have hlt : d.ticks < ((y * 13 + m) * 32 + n) := h
  have hdays := daysInMonth_le d.year d.month
  have hdays' := daysInMonth_le y m
  simp only [ticks] at hlt
  show ∃ p, ((ofYmd y m (n - 1)).or ((ofYmd y (m - 1) (daysInMonth y (m - 1))).or
    (ofYmd (y - 1) 12 31))) = some p ∧ d.ticks ≤ p.ticks
  -- a later day of the month, the first of a month, or the first of a year
  by_cases hday : 2 ≤ n
  · let p : Date := ⟨y, m, n - 1, hy, hm, by omega, by omega⟩
    have hp : ofYmd y m (n - 1) = some p := ofYmd_eq_some_iff.mpr ⟨rfl, rfl, rfl⟩
    refine ⟨p, by rw [hp, Option.some_or], ?_⟩
    simp only [ticks, p]
    omega
  have hnone : ofYmd y m (n - 1) = none := by
    rw [Option.eq_none_iff_forall_not_mem]
    intro p hp
    have hp' := (ofYmd_eq_some_iff.mp hp).2.2
    have := p.day_range
    omega
  rw [hnone, Option.none_or]
  by_cases hmonth : 2 ≤ m
  · have hlast := le_daysInMonth y (m - 1)
    let p : Date := ⟨y, m - 1, daysInMonth y (m - 1), hy, by omega, by omega, le_rfl⟩
    have hp : ofYmd y (m - 1) (daysInMonth y (m - 1)) = some p :=
      ofYmd_eq_some_iff.mpr ⟨rfl, rfl, rfl⟩
    refine ⟨p, by rw [hp, Option.some_or], ?_⟩
    simp only [ticks, p]
    -- within the month before, the last day bounds the day
    by_cases hsame : d.year = y ∧ d.month = m - 1
    · have hbound := hd.2
      rw [hsame.1, hsame.2] at hbound ⊢
      omega
    · have : d.year < y ∨ d.year = y ∧ d.month < m - 1 := by omega
      omega
  have hnone' : ofYmd y (m - 1) (daysInMonth y (m - 1)) = none := by
    rw [Option.eq_none_iff_forall_not_mem]
    intro p hp
    have hp' := (ofYmd_eq_some_iff.mp hp).2.1
    have := p.month_range
    omega
  rw [hnone', Option.none_or]
  have hyear : 2 ≤ y := by omega
  refine ⟨⟨y - 1, 12, 31, by omega, by omega, by omega, by simp [daysInMonth]⟩, ?_, ?_⟩
  · exact ofYmd_eq_some_iff.mpr ⟨rfl, rfl, rfl⟩
  · simp only [ticks]
    omega

/-- The day before is earlier. -/
theorem previous_lt {p e : Date} (h : e.previous = some p) : p < e := by
  obtain ⟨y, m, n, hy, hm, hn⟩ := e
  have hday := p.day_range
  have hdays := daysInMonth_le p.year p.month
  show p.ticks < (y * 13 + m) * 32 + n
  simp only [previous, Option.or_eq_some_iff] at h
  simp only [ticks]
  rcases h with h | ⟨-, h | ⟨-, h⟩⟩
  · obtain ⟨hyear, hmonth, hday'⟩ := ofYmd_eq_some_iff.mp h
    rw [hyear, hmonth, hday']
    omega
  · obtain ⟨hyear, hmonth, -⟩ := ofYmd_eq_some_iff.mp h
    rw [hyear, hmonth]
    omega
  · obtain ⟨hyear, hmonth, -⟩ := ofYmd_eq_some_iff.mp h
    rw [hyear, hmonth]
    omega

end Date

namespace ShanghaiTimestamp

theorem date_le_of_le {s t : ShanghaiTimestamp} (h : s ≤ t) : s.date ≤ t.date := by
  have hs := s.micros_lt
  have ht := t.micros_lt
  have hle : s.date.ticks * microsPerDay + s.micros ≤ t.date.ticks * microsPerDay + t.micros := h
  show s.date.ticks ≤ t.date.ticks
  simp only [microsPerDay] at *
  omega

/-- **A moment before another** is on its day or on an earlier one, and at midnight on an earlier
one. -/
theorem date_le_dateBefore {s t : ShanghaiTimestamp} (h : s < t) : s.date ≤ t.dateBefore := by
  have hs := s.micros_lt
  have hlt : s.date.ticks * microsPerDay + s.micros < t.date.ticks * microsPerDay + t.micros := h
  rw [dateBefore]
  split
  · rename_i hzero
    have hdate : s.date < t.date := by
      show s.date.ticks < t.date.ticks
      simp only [microsPerDay] at *
      omega
    obtain ⟨p, hp, hle⟩ := Date.le_previous hdate
    rw [hp, Option.getD_some]
    exact hle
  · exact date_le_of_le (Nat.le_of_lt hlt)

theorem dateBefore_le_date (t : ShanghaiTimestamp) : t.dateBefore ≤ t.date := by
  rw [dateBefore]
  split
  · rcases hprevious : t.date.previous with _ | p
    · exact Nat.le_refl _
    · exact Nat.le_of_lt (Date.previous_lt hprevious)
  · exact Nat.le_refl _

end ShanghaiTimestamp

end FuturesAgentOs
