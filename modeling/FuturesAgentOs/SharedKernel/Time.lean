import FuturesAgentOs.PyModel.Digits
import FuturesAgentOs.PyModel.Exception
import Mathlib.Tactic.Linarith

namespace FuturesAgentOs

open PyModel

/-!
# Time

`shared_kernel/time.py`: a `RecordedAt` is a timestamp normalised to UTC.  Timestamps are
compared as Python compares two aware datetimes of one zone, field by field from the year
down; `ticks` packs the fields into one number with that order (`ticks_inj`).
-/

/-- Days in a month of the proleptic Gregorian calendar. -/
def daysInMonth (year month : ℕ) : ℕ :=
  if month = 2 then
    if year % 4 = 0 ∧ (year % 100 ≠ 0 ∨ year % 400 = 0) then 29 else 28
  else if month = 4 ∨ month = 6 ∨ month = 9 ∨ month = 11 then 30
  else 31

/-- A `datetime.date`. -/
structure Date where
  year : ℕ
  month : ℕ
  day : ℕ
  year_range : 1 ≤ year ∧ year ≤ 9999
  month_range : 1 ≤ month ∧ month ≤ 12
  day_range : 1 ≤ day ∧ day ≤ daysInMonth year month
  deriving DecidableEq

/-- The numbers are those of a date. -/
def Date.isDate (year month day : ℕ) : Bool :=
  (1 ≤ year ∧ year ≤ 9999) ∧ (1 ≤ month ∧ month ≤ 12) ∧ 1 ≤ day ∧ day ≤ daysInMonth year month

/-- The date of these numbers. -/
def Date.of (year month day : ℕ) (h : isDate year month day = true) : Date :=
  have hranges := of_decide_eq_true h
  ⟨year, month, day, hranges.1, hranges.2.1, hranges.2.2⟩

instance instNeZeroHour : NeZero 24 := ⟨by decide⟩

instance instNeZeroMinute : NeZero 60 := ⟨by decide⟩

instance instNeZeroMicrosecond : NeZero 1000000 := ⟨by decide⟩

/-- A `RecordedAt`, by its UTC datetime. -/
structure RecordedAt where
  date : Date
  hour : Fin 24
  minute : Fin 60
  second : Fin 60
  microsecond : Fin 1000000
  deriving DecidableEq

theorem daysInMonth_le (year month : ℕ) : daysInMonth year month ≤ 31 := by
  unfold daysInMonth
  split_ifs <;> omega

namespace Date

/-- The place of a date in the calendar order. -/
def ticks (d : Date) : ℕ := (d.year * 13 + d.month) * 32 + d.day

theorem ticks_inj {d e : Date} (h : d.ticks = e.ticks) : d = e := by
  obtain ⟨y, m, d, hy, hm, hd⟩ := d
  obtain ⟨y', m', d', hy', hm', hd'⟩ := e
  have := daysInMonth_le y m
  have := daysInMonth_le y' m'
  simp only [ticks] at h
  obtain ⟨rfl, rfl, rfl⟩ : y = y' ∧ m = m' ∧ d = d' := by omega
  rfl

end Date

namespace RecordedAt

/-- The place of a timestamp in the order of time. -/
def ticks (t : RecordedAt) : ℕ :=
  (((t.date.ticks * 24 + t.hour) * 60 + t.minute) * 60 + t.second) * 1000000 + t.microsecond

instance : LT RecordedAt := ⟨fun s t => s.ticks < t.ticks⟩

instance : LE RecordedAt := ⟨fun s t => s.ticks ≤ t.ticks⟩

instance (s t : RecordedAt) : Decidable (s < t) := inferInstanceAs (Decidable (s.ticks < t.ticks))

instance (s t : RecordedAt) : Decidable (s ≤ t) := inferInstanceAs (Decidable (s.ticks ≤ t.ticks))

variable {s t : RecordedAt}

theorem lt_def : s < t ↔ s.ticks < t.ticks := Iff.rfl

theorem le_def : s ≤ t ↔ s.ticks ≤ t.ticks := Iff.rfl

@[simp] theorem not_lt : ¬ s < t ↔ t ≤ s := Nat.not_lt

theorem not_le : ¬ s ≤ t ↔ t < s := Nat.not_le

theorem not_le_of_lt (h : s < t) : ¬ t ≤ s := Nat.not_le.mpr h

/-- Different timestamps are at different places. -/
theorem ticks_inj (h : s.ticks = t.ticks) : s = t := by
  obtain ⟨d, h₁, m, s, u⟩ := s
  obtain ⟨d', h', m', s', u'⟩ := t
  simp only [ticks] at h
  have hdate : d = d' := Date.ticks_inj (by omega)
  have : h₁ = h' ∧ m = m' ∧ s = s' ∧ u = u' := by
    subst hdate
    refine ⟨Fin.ext ?_, Fin.ext ?_, Fin.ext ?_, Fin.ext ?_⟩ <;> omega
  obtain ⟨rfl, rfl, rfl, rfl⟩ := this
  rw [hdate]

end RecordedAt

/-!
## ISO 8601 dates

`date.fromisoformat`: the calendar forms `YYYY-MM-DD` and `YYYYMMDD` and the week forms
`YYYY-Www[-D]` and `YYYYWww[D]`.
-/

namespace Date

/-- The date of a year, month and day, if there is one. -/
def ofYmd (year month day : ℕ) : Option Date :=
  if hy : 1 ≤ year ∧ year ≤ 9999 then
    if hm : 1 ≤ month ∧ month ≤ 12 then
      if hd : 1 ≤ day ∧ day ≤ daysInMonth year month then some ⟨year, month, day, hy, hm, hd⟩
      else none
    else none
  else none

/-- The date `n ≥ 1` days into a year, searched from `month` on. -/
def ofDayOfYear (year : ℕ) : (fuel month n : ℕ) → Option Date
  | 0, _, _ => none
  | fuel + 1, month, n =>
    if n ≤ daysInMonth year month then ofYmd year month n
    else ofDayOfYear year fuel (month + 1) (n - daysInMonth year month)

/-- Leap years. -/
def isLeap (year : ℕ) : Bool := year % 4 == 0 && (year % 100 != 0 || year % 400 == 0)

/-- Days in a year. -/
def daysInYear (year : ℕ) : ℕ := if isLeap year then 366 else 365

/-- The weekday of January 1st, Monday being 0. -/
def weekdayOfJan1 (year : ℕ) : ℕ :=
  let y := year - 1
  (y * 365 + y / 4 - y / 100 + y / 400) % 7

/-- The date of an ISO week date, if there is one. -/
def ofIsoWeek (year week day : ℕ) : Option Date :=
  let jan1 := weekdayOfJan1 year
  let longYear := jan1 == 3 || (jan1 == 2 && isLeap year)
  if year < 1 ∨ week < 1 ∨ 53 < week ∨ (week = 53 ∧ ¬ longYear) ∨ day < 1 ∨ 7 < day then none
  else
    -- the Monday of week 1 lies up to three days before or after January 1st
    let n : ℤ := (if 3 < jan1 then 7 else 0) - jan1 + (week - 1) * 7 + day
    if n ≤ 0 then ofDayOfYear (year - 1) 12 1 (n + daysInYear (year - 1)).toNat
    else if daysInYear year < n then ofDayOfYear (year + 1) 12 1 (n - daysInYear year).toNat
    else ofDayOfYear year 12 1 n.toNat

end Date

/-- The date after a year has been read. -/
def parseMonthDay (year : ℕ) : Text → Option Date
  | [a, b, c] => if a = Text.ofChar 'W' then weekDate [b, c] [Text.ofChar '1'] else none
  | [a, b, c, d] =>
    if a = Text.ofChar 'W' then weekDate [b, c] [d]
    else if a = Text.ofChar '-' ∧ b = Text.ofChar 'W' then weekDate [c, d] [Text.ofChar '1']
    else monthDate [a, b] [c, d]
  | [a, b, c, d, e, f] =>
    if a = Text.ofChar '-' ∧ b = Text.ofChar 'W' ∧ e = Text.ofChar '-' then weekDate [c, d] [f]
    else if a = Text.ofChar '-' ∧ d = Text.ofChar '-' then monthDate [b, c] [e, f]
    else none
  | _ => none
where
  /-- Month and day digits. -/
  monthDate (month day : Text) : Option Date := do
    Date.ofYmd year (← parseDigits month) (← parseDigits day)
  /-- Week and weekday digits. -/
  weekDate (week day : Text) : Option Date := do
    Date.ofIsoWeek year (← parseDigits week) (← parseDigits day)

/-- `date.fromisoformat`, `none` standing for its `ValueError`. -/
def Date.fromIsoFormat (t : Text) : Option Date := do
  parseMonthDay (← parseDigits (t.take 4)) (t.drop 4)

end FuturesAgentOs
