import FuturesAgentOs.SharedKernel.Time

namespace FuturesAgentOs

open PyModel

/-!
# ISO 8601 timestamps

`RecordedAt.parse` and the text of `RecordedAt.to_dict`.

* `RecordedAt.parse_text` — the round trip.
-/

/-! ### Writing -/

/-- `date.isoformat()` -/
def Date.isoformat (d : Date) : Text :=
  Text.padded 4 d.year ++ Text.ofChar '-' :: Text.padded 2 d.month
    ++ Text.ofChar '-' :: Text.padded 2 d.day

namespace RecordedAt

/-- The time of day, with microseconds only when there are some. -/
def clockText (t : RecordedAt) : Text :=
  Text.padded 2 t.hour ++ Text.ofChar ':' :: Text.padded 2 t.minute
    ++ Text.ofChar ':' :: Text.padded 2 t.second
    ++ if t.microsecond.val = 0 then [] else Text.ofChar '.' :: Text.padded 6 t.microsecond

/-- `recorded_at.to_dict()["recorded_at"]` -/
def text (t : RecordedAt) : Text :=
  t.date.isoformat ++ Text.ofChar 'T' :: (t.clockText ++ [Text.ofChar 'Z'])

end RecordedAt

/-! ### Reading -/

/-- `_find_isoformat_datetime_separator` -/
def separatorPlace (t : Text) : Option ℕ :=
  let dash := Text.ofChar '-'
  let week := Text.ofChar 'W'
  if t.length = 7 then some 7
  else if t[4]? = some dash then
    if t[5]? = some week then
      if t[8]? = some dash then
        if t.length = 9 then none
        else if (t[10]?).any isDigit then some 8
        else some 10
      else some 8
    else some 10
  else if t[4]? = some week then
    let place := 7 + ((t.drop 7).takeWhile isDigit).length
    if place < 9 then some place
    else if place % 2 = 0 then some 7
    else some 8
  else some 8

/-- A time of day, or an offset without its sign, as it was read. -/
structure Clock where
  hour : ℕ
  minute : ℕ
  second : ℕ
  microsecond : ℕ
  deriving DecidableEq

namespace Clock

/-- The microseconds since midnight. -/
def micros (c : Clock) : ℕ :=
  ((c.hour * 60 + c.minute) * 60 + c.second) * 1000000 + c.microsecond

/-- `_check_time_fields` -/
def InRange (c : Clock) : Prop := c.hour < 24 ∧ c.minute < 60 ∧ c.second < 60

instance (c : Clock) : Decidable c.InRange := inferInstanceAs (Decidable (_ ∧ _))

/-- Two digits at the front of a text, and what follows them. -/
def twoDigits : Text → Option (ℕ × Text)
  | a :: b :: rest => (parseDigits [a, b]).map (fun n => (n, rest))
  | _ => none

/-- The microseconds of a fraction; digits after the sixth are dropped. -/
def parseFraction (digits : Text) : Option ℕ :=
  if digits = [] ∨ digits.all isDigit = false then none
  else (parseDigits (digits.take 6)).map (fun n => n * 10 ^ (6 - digits.length))

/-- The seconds of a time of day, and the fraction after them. -/
def parseSeconds (hour minute : ℕ) (t : Text) : Option Clock :=
  match twoDigits t with
  | none => none
  | some (second, []) => some ⟨hour, minute, second, 0⟩
  | some (second, mark :: digits) =>
    if mark = Text.ofChar '.' ∨ mark = Text.ofChar ',' then
      (parseFraction digits).map (fun n => ⟨hour, minute, second, n⟩)
    else none

/-- The minutes of a time of day, and what follows them. -/
def parseMinutes (separated : Bool) (hour : ℕ) (t : Text) : Option Clock :=
  match twoDigits t with
  | none => none
  | some (minute, []) => some ⟨hour, minute, 0, 0⟩
  | some (minute, c :: rest) =>
    if separated then
      if c = Text.ofChar ':' then parseSeconds hour minute rest else none
    else parseSeconds hour minute (c :: rest)

/-- `_parse_hh_mm_ss_ff` -/
def parse (t : Text) : Option Clock :=
  match twoDigits t with
  | none => none
  | some (hour, []) => some ⟨hour, 0, 0, 0⟩
  | some (hour, c :: rest) =>
    if c = Text.ofChar ':' then parseMinutes true hour rest
    else parseMinutes false hour (c :: rest)

end Clock

/-- A character that ends the time of day. -/
def isOffsetSign (c : CodePoint) : Bool := c == Text.ofChar '+' || c == Text.ofChar '-'

/-- An offset from UTC: whether it is negative, and its microseconds. -/
structure Offset where
  negative : Bool
  micros : ℕ
  deriving DecidableEq

/-- `_parse_isoformat_time`, of a text without `Z`. -/
def parseTime (t : Text) : Option (Clock × Option Offset) :=
  match Clock.parse (t.takeWhile (fun c => !isOffsetSign c)) with
  | none => none
  | some clock =>
    match t.dropWhile (fun c => !isOffsetSign c) with
    | [] => some (clock, none)
    | sign :: rest =>
      match Clock.parse rest with
      | none => none
      | some offset =>
        if offset.InRange then some (clock, some ⟨sign == Text.ofChar '-', offset.micros⟩)
        else none

namespace Date

/-- The next day. -/
def next (d : Date) : Option Date :=
  (ofYmd d.year d.month (d.day + 1)).or ((ofYmd d.year (d.month + 1) 1).or (ofYmd (d.year + 1) 1 1))

/-- The day before. -/
def previous (d : Date) : Option Date :=
  (ofYmd d.year d.month (d.day - 1)).or
    ((ofYmd d.year (d.month - 1) (daysInMonth d.year (d.month - 1))).or (ofYmd (d.year - 1) 12 31))

end Date

/-- A `datetime`: its date, the microseconds since midnight and the offset. -/
structure DateTime where
  date : Date
  micros : ℕ
  offset : Option Offset
  deriving DecidableEq

/-- A date and a time of day; 24:00 is midnight of the next day. -/
def combine (date : Date) (clock : Clock) (offset : Option Offset) : Option DateTime :=
  if clock.InRange then some ⟨date, clock.micros, offset⟩
  else if clock = ⟨24, 0, 0, 0⟩ then date.next.map (fun date => ⟨date, 0, offset⟩)
  else none

/-- `datetime.fromisoformat` of a text without `Z`, `none` standing for its `ValueError`. -/
def datetimeFromIsoFormat (t : Text) : Option DateTime :=
  if t.length < 7 then none
  else
    match separatorPlace t with
    | none => none
    | some place =>
      match Date.fromIsoFormat (t.take place), t.drop (place + 1) with
      | none, _ => none
      | some date, [] => some ⟨date, 0, none⟩
      | some date, time =>
        match parseTime time with
        | none => none
        | some (clock, offset) => combine date clock offset

/-- The microseconds of a day. -/
def microsPerDay : ℕ := 86400000000

namespace RecordedAt

/-- The time of a day, by its microseconds since midnight. -/
def ofMicros (date : Date) (n : ℕ) : RecordedAt where
  date := date
  hour := ⟨n / 3600000000 % 24, Nat.mod_lt _ (by norm_num)⟩
  minute := ⟨n / 60000000 % 60, Nat.mod_lt _ (by norm_num)⟩
  second := ⟨n / 1000000 % 60, Nat.mod_lt _ (by norm_num)⟩
  microsecond := ⟨n % 1000000, Nat.mod_lt _ (by norm_num)⟩

/-- `value.astimezone(UTC)`, `none` when it leaves the calendar. -/
def toUtc (date : Date) (micros : ℕ) (offset : Offset) : Option RecordedAt :=
  if offset.negative then
    if micros + offset.micros < microsPerDay then some (ofMicros date (micros + offset.micros))
    else date.next.map (fun date => ofMicros date (micros + offset.micros - microsPerDay))
  else if offset.micros ≤ micros then some (ofMicros date (micros - offset.micros))
  else date.previous.map (fun date => ofMicros date (micros + microsPerDay - offset.micros))

def fromDatetime (t : DateTime) : Py RecordedAt :=
  match t.offset with
  | none => .error (valueError "recorded_at source must be timezone-aware")
  | some offset =>
    match toUtc t.date t.micros offset with
    | none => .error ⟨.overflowError, "date value out of range"⟩
    | some r => .ok r

/-- `text.replace("Z", "+00:00")` -/
def replaceZ (t : Text) : Text :=
  t.flatMap (fun c => if c = Text.ofChar 'Z' then ("+00:00" : Text) else [c])

def parse (t : Text) : Py RecordedAt :=
  match datetimeFromIsoFormat (replaceZ t) with
  | none => .error (valueError "Invalid isoformat string")
  | some t => fromDatetime t

end RecordedAt

/-! ### The round trip -/

theorem padded_two (n : ℕ) : Text.padded 2 n = [digit (n / 10), digit n] := rfl

theorem padded_four (n : ℕ) :
    Text.padded 4 n = [digit (n / 10 / 10 / 10), digit (n / 10 / 10), digit (n / 10), digit n] :=
  rfl

theorem daysInMonth_lt (year month : ℕ) : daysInMonth year month < 10 ^ 2 :=
  lt_of_le_of_lt (daysInMonth_le year month) (by norm_num)

/-- A digit is none of the letters and signs of a timestamp. -/
theorem digit_ne {n : ℕ} {c : CodePoint} (h : isDigit c = false) : digit n ≠ c := by
  rintro rfl
  rw [isDigit_digit] at h
  cases h

/-- **A date is read back.** -/
theorem Date.fromIsoFormat_isoformat (d : Date) : Date.fromIsoFormat d.isoformat = some d := by
  have hyear : parseDigits (Text.padded 4 d.year) = some d.year :=
    parseDigits_padded 4 (by have := d.year_range; omega)
  have hmonth : parseDigits (Text.padded 2 d.month) = some d.month :=
    parseDigits_padded 2 (by have := d.month_range; omega)
  have hday : parseDigits (Text.padded 2 d.day) = some d.day :=
    parseDigits_padded 2 (lt_of_le_of_lt d.day_range.2 (daysInMonth_lt _ _))
  have htake : d.isoformat.take 4 = Text.padded 4 d.year := by
    rw [isoformat, List.append_assoc]
    exact List.take_left' (Text.length_padded 4 _)
  have hdrop : d.isoformat.drop 4 = Text.ofChar '-' :: Text.padded 2 d.month
      ++ Text.ofChar '-' :: Text.padded 2 d.day := by
    rw [isoformat, List.append_assoc]
    exact List.drop_left' (Text.length_padded 4 _)
  have hweek : digit (d.month / 10) ≠ Text.ofChar 'W' := digit_ne (by decide)
  rw [padded_two] at hmonth hday
  rw [Date.fromIsoFormat, htake, hyear, hdrop, padded_two, padded_two]
  simp only [Option.bind_eq_bind, Option.bind_some, List.cons_append, List.nil_append,
    parseMonthDay, hweek, false_and, and_false, if_false, and_self, if_true,
    parseMonthDay.monthDate, hmonth, hday]
  rw [Date.ofYmd, dif_pos d.year_range, dif_pos d.month_range, dif_pos d.day_range]

namespace RecordedAt

variable (t : RecordedAt)

/-- The clock of a timestamp. -/
def clock : Clock := ⟨t.hour, t.minute, t.second, t.microsecond⟩

theorem inRange_clock : t.clock.InRange := ⟨t.hour.isLt, t.minute.isLt, t.second.isLt⟩

theorem ofMicros_clock : ofMicros t.date t.clock.micros = t := by
  obtain ⟨d, ⟨h, hh⟩, ⟨m, hm⟩, ⟨s, hs⟩, ⟨u, hu⟩⟩ := t
  simp only [ofMicros, Clock.micros, clock, mk.injEq, Fin.mk.injEq, true_and]
  refine ⟨?_, ?_, ?_, ?_⟩ <;> omega

theorem twoDigits_padded {n : ℕ} (h : n < 10 ^ 2) (rest : Text) :
    Clock.twoDigits (Text.padded 2 n ++ rest) = some (n, rest) := by
  have hn := parseDigits_padded 2 h
  rw [padded_two] at hn ⊢
  simp only [List.cons_append, List.nil_append, Clock.twoDigits, hn, Option.map_some]

/-- The time of day is read back. -/
theorem parse_clockText : Clock.parse t.clockText = some t.clock := by
  have hhour := t.hour.isLt
  have hminute := t.minute.isLt
  have hsecond := t.second.isLt
  have hmicro := t.microsecond.isLt
  unfold clockText
  rw [List.append_assoc, List.append_assoc]
  simp only [Clock.parse, twoDigits_padded (show t.hour.val < 10 ^ 2 by omega), List.cons_append,
    if_true, Clock.parseMinutes, twoDigits_padded (show t.minute.val < 10 ^ 2 by omega),
    Clock.parseSeconds, twoDigits_padded (show t.second.val < 10 ^ 2 by omega)]
  by_cases hzero : t.microsecond.val = 0
  · simp only [if_pos hzero]
    rw [clock, hzero]
  · have hne : Text.padded 6 t.microsecond.val ≠ [] := by
      intro h
      have hlength := Text.length_padded 6 t.microsecond.val
      rw [h] at hlength
      cases hlength
    have htake : (Text.padded 6 t.microsecond.val).take 6 = Text.padded 6 t.microsecond.val :=
      List.take_of_length_le (by rw [Text.length_padded])
    have hfraction : Clock.parseFraction (Text.padded 6 t.microsecond.val)
        = some t.microsecond.val := by
      rw [Clock.parseFraction, if_neg (by simp [hne, Text.all_isDigit_padded]), htake,
        parseDigits_padded 6 (by omega), Text.length_padded]
      simp
    simp only [if_neg hzero, true_or, if_true, hfraction, Option.map_some]
    rfl

/-- A character of a timestamp before its `Z`: a digit, a separator or a letter of the date. -/
def IsPart (c : CodePoint) : Prop :=
  isDigit c = true ∨ c ∈ [Text.ofChar '-', Text.ofChar ':', Text.ofChar '.', Text.ofChar 'T']

theorem isPart_of_mem_padded {k n : ℕ} : ∀ c ∈ Text.padded k n, IsPart c :=
  fun c hc => Or.inl (List.all_eq_true.mp (Text.all_isDigit_padded k n) c hc)

theorem replaceZ_of_parts {u : Text} (h : ∀ c ∈ u, IsPart c) (v : Text) :
    replaceZ (u ++ v) = u ++ replaceZ v := by
  rw [replaceZ, List.flatMap_append]
  congr 1
  have hsingle : ∀ c ∈ u, (if c = Text.ofChar 'Z' then ("+00:00" : Text) else [c]) = [c] := by
    intro c hc
    apply if_neg
    rintro rfl
    rcases h _ hc with hd | hd
    · exact absurd hd (by decide)
    · exact absurd hd (by decide)
  rw [List.flatMap_congr hsingle]
  exact List.flatMap_singleton' u

theorem isPart_clockText : ∀ c ∈ t.clockText, IsPart c ∧ c ≠ Text.ofChar '-' := by
  have hpadded : ∀ k n, ∀ c ∈ Text.padded k n, IsPart c ∧ c ≠ Text.ofChar '-' := by
    intro k n c hc
    have hd := List.all_eq_true.mp (Text.all_isDigit_padded k n) c hc
    refine ⟨Or.inl hd, ?_⟩
    rintro rfl
    exact absurd hd (by decide)
  have hcolon : IsPart (Text.ofChar ':') ∧ Text.ofChar ':' ≠ Text.ofChar '-' :=
    ⟨Or.inr (by decide), by decide⟩
  unfold clockText
  simp only [List.forall_mem_append, List.forall_mem_cons]
  refine ⟨⟨⟨hpadded _ _, hcolon, hpadded _ _⟩, hcolon, hpadded _ _⟩, ?_⟩
  split
  · simp
  · rw [List.forall_mem_cons]
    exact ⟨⟨Or.inr (by decide), by decide⟩, hpadded _ _⟩

theorem isPart_isoformat (d : Date) : ∀ c ∈ d.isoformat, IsPart c := by
  have hdash : IsPart (Text.ofChar '-') := Or.inr (by decide)
  unfold Date.isoformat
  simp only [List.forall_mem_append, List.forall_mem_cons]
  exact ⟨⟨isPart_of_mem_padded, hdash, isPart_of_mem_padded⟩, hdash, isPart_of_mem_padded⟩

theorem length_isoformat (d : Date) : d.isoformat.length = 10 := by
  simp only [Date.isoformat, List.length_append, List.length_cons, Text.length_padded]

/-- The time of day with the offset zero is read back. -/
theorem parseTime_clockText :
    parseTime (t.clockText ++ ("+00:00" : Text)) = some (t.clock, some ⟨false, 0⟩) := by
  have hsign : ∀ c ∈ t.clockText, (!isOffsetSign c) = true := by
    intro c hc
    obtain ⟨hpart, hdash⟩ := t.isPart_clockText c hc
    have hplus : c ≠ Text.ofChar '+' := by
      rintro rfl
      rcases hpart with hd | hd
      · exact absurd hd (by decide)
      · exact absurd hd (by decide)
    simp [isOffsetSign, hplus, hdash]
  have hoffset : Clock.parse ("00:00" : Text) = some ⟨0, 0, 0, 0⟩ := by decide +kernel
  have htext : ("+00:00" : Text) = Text.ofChar '+' :: ("00:00" : Text) := by decide
  have hzero : Clock.InRange ⟨0, 0, 0, 0⟩ := by decide
  have htake : (t.clockText ++ ("+00:00" : Text)).takeWhile (fun c => !isOffsetSign c)
      = t.clockText := by
    rw [List.takeWhile_append_of_pos hsign, htext, List.takeWhile_cons_of_neg (by decide),
      List.append_nil]
  have hdrop : (t.clockText ++ ("+00:00" : Text)).dropWhile (fun c => !isOffsetSign c)
      = Text.ofChar '+' :: ("00:00" : Text) := by
    rw [List.dropWhile_append_of_pos hsign, htext, List.dropWhile_cons_of_neg (by decide)]
  simp only [parseTime, htake, hdrop, t.parse_clockText, hoffset, if_pos hzero]
  rfl

/-- The date and the time of day are ten characters apart. -/
theorem separatorPlace_isoformat (d : Date) (rest : Text) :
    separatorPlace (d.isoformat ++ rest) = some 10 := by
  have hlength : ¬ (d.isoformat ++ rest).length = 7 := by
    rw [List.length_append, length_isoformat]
    omega
  have hchars : d.isoformat ++ rest = Text.padded 4 d.year ++ Text.ofChar '-'
      :: digit (d.month / 10) ::
        (digit d.month :: Text.ofChar '-' :: (Text.padded 2 d.day ++ rest)) := by
    rw [Date.isoformat, padded_two d.month]
    simp only [List.append_assoc, List.cons_append, List.nil_append]
  have hfour : (d.isoformat ++ rest)[4]? = some (Text.ofChar '-') := by
    rw [hchars, padded_four]
    rfl
  have hfive : (d.isoformat ++ rest)[5]? = some (digit (d.month / 10)) := by
    rw [hchars, padded_four]
    rfl
  have hweek : ¬ some (digit (d.month / 10)) = some (Text.ofChar 'W') := by
    rw [Option.some.injEq]
    exact digit_ne (by decide)
  simp only [separatorPlace, if_neg hlength, hfour, if_true, hfive, if_neg hweek]

theorem replaceZ_text : replaceZ t.text
    = t.date.isoformat ++ Text.ofChar 'T' :: (t.clockText ++ ("+00:00" : Text)) := by
  have hT : ∀ c ∈ [Text.ofChar 'T'], IsPart c := by
    rw [List.forall_mem_singleton]
    exact Or.inr (by decide)
  have hcons : ∀ u : Text, Text.ofChar 'T' :: u = [Text.ofChar 'T'] ++ u := fun u => rfl
  have hZ : replaceZ [Text.ofChar 'Z'] = ("+00:00" : Text) := by decide
  rw [text, replaceZ_of_parts (isPart_isoformat t.date), hcons, replaceZ_of_parts hT,
    replaceZ_of_parts (fun c hc => (t.isPart_clockText c hc).1), hZ]
  rfl

/-- `datetime.fromisoformat` on a date and a time of day at offset zero. -/
theorem datetimeFromIsoFormat_eq {rest : Text}
    (htime : parseTime rest = some (t.clock, some ⟨false, 0⟩))
    (hne : rest ≠ []) :
    datetimeFromIsoFormat (t.date.isoformat ++ Text.ofChar 'T' :: rest)
      = some ⟨t.date, t.clock.micros, some ⟨false, 0⟩⟩ := by
  have hlength := length_isoformat t.date
  have hplace := separatorPlace_isoformat t.date (Text.ofChar 'T' :: rest)
  have htake : (t.date.isoformat ++ Text.ofChar 'T' :: rest).take 10 = t.date.isoformat :=
    List.take_left' hlength
  have hdrop : (t.date.isoformat ++ Text.ofChar 'T' :: rest).drop (10 + 1) = rest := by
    rw [← List.drop_drop, List.drop_left' hlength, List.drop_one, List.tail_cons]
  have h7 : ¬ (t.date.isoformat ++ Text.ofChar 'T' :: rest).length < 7 := by
    rw [List.length_append]
    omega
  rw [datetimeFromIsoFormat, if_neg h7]
  simp only [hplace, htake, hdrop, Date.fromIsoFormat_isoformat]
  rcases rest with _ | ⟨c, rest⟩
  · exact absurd rfl hne
  · simp only [htime, combine, if_pos t.inRange_clock]

/-- The conversion to UTC from offset zero. -/
theorem fromDatetime_zero (d : Date) (n : ℕ) :
    fromDatetime ⟨d, n, some ⟨false, 0⟩⟩ = .ok (ofMicros d n) := by
  have hutc : toUtc d n ⟨false, 0⟩ = some (ofMicros d n) := by
    rw [toUtc, if_neg (by simp), if_pos (Nat.zero_le n), Nat.sub_zero]
  simp only [fromDatetime, hutc]

/-- **A timestamp is read back.** -/
theorem parse_text : parse t.text = .ok t := by
  have hne : t.clockText ++ ("+00:00" : Text) ≠ [] :=
    List.append_ne_nil_of_right_ne_nil _ (by decide)
  rw [parse, replaceZ_text, t.datetimeFromIsoFormat_eq t.parseTime_clockText hne]
  show fromDatetime ⟨t.date, t.clock.micros, some ⟨false, 0⟩⟩ = .ok t
  rw [fromDatetime_zero, t.ofMicros_clock]

/-- Different timestamps have different texts. -/
theorem text_inj {s t : RecordedAt} (h : s.text = t.text) : s = t := by
  have hparse := s.parse_text
  rw [h, t.parse_text] at hparse
  exact (Except.ok.inj hparse).symm

theorem IsPart.lt {c : CodePoint} (h : IsPart c) : c.val < 0x80 := by
  rcases h with h | h
  · have := isDigit_iff.mp h
    omega
  · simp only [List.mem_cons, List.not_mem_nil, or_false] at h
    rcases h with rfl | rfl | rfl | rfl <;> decide

theorem isAscii_text : t.text.IsAscii := by
  rw [text, Text.isAscii_append, Text.isAscii_cons, Text.isAscii_append]
  exact ⟨fun c hc => (isPart_isoformat t.date c hc).lt, by decide,
    fun c hc => (t.isPart_clockText c hc).1.lt, by decide⟩

end RecordedAt

end FuturesAgentOs
