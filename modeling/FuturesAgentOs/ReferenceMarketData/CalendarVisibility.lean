import FuturesAgentOs.ReferenceMarketData.CalendarResolution

namespace FuturesAgentOs

open PyModel

/-!
# The dates of a schedule

A release is checked with two notions of the dates that a schedule affects: the dates on which a
phase starts or ends, `scheduleCalendarDates`, and those that a phase touches,
`touchesCalendarDate`.

* `mem_scheduleCalendarDates_iff` — the dates on which the two notions agree.
-/

/-! ### Phases that do not overlap -/

namespace SessionPhaseOccurrence

/-- One phase has ended when the other starts. -/
def Before (p q : SessionPhaseOccurrence) : Prop := p.fields.endsAt ≤ q.fields.startsAt

variable {p q r : SessionPhaseOccurrence}

theorem startsAt_lt_endsAt (p : SessionPhaseOccurrence) : p.fields.startsAt < p.fields.endsAt :=
  require_eq_ok.mp p.valid

theorem Before.trans (hpq : p.Before q) (hqr : q.Before r) : p.Before r := by
  have hq := ShanghaiTimestamp.lt_def.mp q.startsAt_lt_endsAt
  rw [Before, ShanghaiTimestamp.le_def] at hpq hqr ⊢
  omega

/-- Neither phase starts before the other has ended. -/
def Apart (p q : SessionPhaseOccurrence) : Prop := p.Before q ∨ q.Before p

instance : Std.Symm Apart := ⟨fun _ _ => Or.symm⟩

theorem startsAt_le_dateBefore (p : SessionPhaseOccurrence) :
    p.fields.startsAt.date ≤ p.fields.endsAt.dateBefore :=
  ShanghaiTimestamp.date_le_dateBefore p.startsAt_lt_endsAt

/-- Of two phases, the first touches no date after the other's first, and the other none before the
first's last. -/
theorem Before.dates (h : p.Before q) : p.fields.endsAt.dateBefore ≤ q.fields.startsAt.date :=
  Nat.le_trans (ShanghaiTimestamp.dateBefore_le_date p.fields.endsAt)
    (ShanghaiTimestamp.date_le_of_le h)

end SessionPhaseOccurrence

theorem pairwise_before_of_noneOverlap {phases : List SessionPhaseOccurrence}
    (h : noneOverlap phases = true) : phases.Pairwise SessionPhaseOccurrence.Before := by
  induction phases with
  | nil => exact List.Pairwise.nil
  | cons p rest ih =>
    rcases rest with _ | ⟨q, rest⟩
    · exact List.pairwise_singleton _ p
    · simp only [noneOverlap, List.tail_cons, List.zip_cons_cons, List.all_cons, Bool.and_eq_true,
        decide_eq_true_eq] at h
      obtain ⟨hpq, hrest⟩ := h
      have htail := ih hrest
      refine List.pairwise_cons.mpr ⟨fun r hr => ?_, htail⟩
      rcases List.mem_cons.mp hr with rfl | hr
      · exact hpq
      · exact SessionPhaseOccurrence.Before.trans hpq (List.rel_of_pairwise_cons htail hr)

/-- **Two phases of a schedule** do not overlap. -/
theorem TradingDaySchedule.apart (s : TradingDaySchedule) {p q : SessionPhaseOccurrence}
    (hp : p ∈ s.fields.phases) (hq : q ∈ s.fields.phases) (hne : p ≠ q) : p.Apart q := by
  have hvalid : s.fields.postInit = .ok () := s.valid
  simp only [TradingDayScheduleFields.postInit, check_bind_eq_ok, require_eq_ok] at hvalid
  obtain ⟨-, -, -, -, -, -, hnone⟩ := hvalid
  have hsorted : ∀ {x}, x ∈ s.fields.phases → x ∈ sortedByStart s.fields.phases :=
    fun hx => (List.perm_insertionSort _ _).mem_iff.mpr hx
  have hapart : (sortedByStart s.fields.phases).Pairwise SessionPhaseOccurrence.Apart :=
    (pairwise_before_of_noneOverlap hnone).imp Or.inl
  exact hapart.forall (hsorted hp) (hsorted hq) hne

/-! ### The two notions of a date -/

variable {d : Date} {s : TradingDaySchedule}

theorem mem_scheduleCalendarDates : d ∈ scheduleCalendarDates s ↔ ∃ phase ∈ s.fields.phases,
      d = phase.fields.startsAt.date ∨ d = phase.fields.endsAt.dateBefore := by
  simp [scheduleCalendarDates]

theorem TradingDaySchedule.touchesCalendarDate_iff :
    s.touchesCalendarDate d = true ↔ ∃ phase ∈ s.fields.phases,
      phase.fields.startsAt.date ≤ d ∧ d ≤ phase.fields.endsAt.dateBefore := by
  simp [TradingDaySchedule.touchesCalendarDate, SessionPhaseOccurrence.touchesCalendarDate]

/-- A date strictly between the first and the last that a phase touches. -/
def SessionPhaseOccurrence.SpansOver (p : SessionPhaseOccurrence) (d : Date) : Prop :=
  p.fields.startsAt.date < d ∧ d < p.fields.endsAt.dateBefore

theorem TradingDaySchedule.not_mem_dates_of_spansOver
    {p : SessionPhaseOccurrence} (hp : p ∈ s.fields.phases) (hspans : p.SpansOver d) :
    d ∉ scheduleCalendarDates s := by
  rw [mem_scheduleCalendarDates]
  rintro ⟨q, hq, hd⟩
  obtain ⟨hstart, hend⟩ : p.fields.startsAt.date.ticks < d.ticks
    ∧ d.ticks < p.fields.endsAt.dateBefore.ticks := hspans
  have hqdates : q.fields.startsAt.date.ticks ≤ q.fields.endsAt.dateBefore.ticks :=
    q.startsAt_le_dateBefore
  have hne : p ≠ q := by
    rintro rfl
    rcases hd with rfl | rfl
    · exact Nat.lt_irrefl _ hstart
    · exact Nat.lt_irrefl _ hend
  -- the other phase is over when this one starts, or starts when this one is over
  rcases s.apart hp hq hne with hbefore | hbefore
  · have hdates : p.fields.endsAt.dateBefore.ticks ≤ q.fields.startsAt.date.ticks := hbefore.dates
    rcases hd with rfl | rfl <;> omega
  · have hdates : q.fields.endsAt.dateBefore.ticks ≤ p.fields.startsAt.date.ticks := hbefore.dates
    rcases hd with rfl | rfl <;> omega

/-- **Where the two notions agree**: on every date but those that a phase spans over, which is the
case when a phase touches three dates or more. -/
theorem mem_scheduleCalendarDates_iff (s : TradingDaySchedule) (d : Date) :
    (d ∈ scheduleCalendarDates s ↔ s.touchesCalendarDate d = true)
      ↔ ∀ phase ∈ s.fields.phases, ¬ phase.SpansOver d := by
  constructor
  · intro hagree phase hphase hspans
    refine TradingDaySchedule.not_mem_dates_of_spansOver hphase hspans (hagree.mpr ?_)
    exact TradingDaySchedule.touchesCalendarDate_iff.mpr
      ⟨phase, hphase, Nat.le_of_lt hspans.1, Nat.le_of_lt hspans.2⟩
  · intro hnone
    rw [mem_scheduleCalendarDates, TradingDaySchedule.touchesCalendarDate_iff]
    constructor
    · rintro ⟨phase, hphase, rfl | rfl⟩
      · exact ⟨phase, hphase, Nat.le_refl _, phase.startsAt_le_dateBefore⟩
      · exact ⟨phase, hphase, phase.startsAt_le_dateBefore, Nat.le_refl _⟩
    · rintro ⟨phase, hphase, hstart, hend⟩
      refine ⟨phase, hphase, ?_⟩
      by_contra hneither
      rw [not_or] at hneither
      refine hnone phase hphase ⟨?_, ?_⟩
      · exact Nat.lt_of_le_of_ne hstart fun h => hneither.1 (Date.ticks_inj h).symm
      · exact Nat.lt_of_le_of_ne hend fun h => hneither.2 (Date.ticks_inj h)

/-! ### A closure that no release can hold -/

def TradingCalendarFields.facts (f : TradingCalendarFields) : List CalendarFact :=
  f.schedules.map CalendarFact.schedule ++ f.closures.map CalendarFact.closure

namespace TradingCalendar

variable [Hashlib] {host : CalendarHost} (c : TradingCalendar host)

theorem nodup_revisionId_facts : (c.fields.facts.map (·.revisionId)).Nodup := by
  have h := c.valid
  simp only [TradingCalendarFields.postInit, check_bind_eq_ok] at h
  obtain ⟨-, -, -, hoverlaps, -⟩ := h
  simp only [rejectOverlaps, check_bind_eq_ok, require_eq_ok] at hoverlaps
  exact hoverlaps.1

/-- **A fact of a release and one that it supersedes** pass the checks. -/
theorem checkPredecessor_of_supersedes {successor predecessor : CalendarFact}
    (hs : successor ∈ c.fields.facts) (hp : predecessor ∈ c.fields.facts)
    (hsupersedes : predecessor.revisionId ∈ successor.supersedes) :
    checkScopes successor predecessor = .ok () ∧ predecessor.version < successor.version := by
  have h := c.valid
  simp only [TradingCalendarFields.postInit, check_bind_eq_ok] at h
  obtain ⟨-, -, -, hoverlaps, -⟩ := h
  simp only [rejectOverlaps, check_bind_eq_ok] at hoverlaps
  obtain ⟨-, hchecked, -⟩ := hoverlaps
  have hcheck := Py.forM_eq_ok.mp (Py.forM_eq_ok.mp hchecked successor hs) _ hsupersedes
  -- the fact that is looked up by its revision is the fact itself
  have hfind : c.fields.facts.find? (fun fact => fact.revisionId = predecessor.revisionId)
      = some predecessor := by
    rcases hfound : c.fields.facts.find? (fun fact => fact.revisionId = predecessor.revisionId)
      with _ | found
    · have hnot := List.find?_eq_none.mp hfound predecessor hp
      exact absurd (decide_eq_true rfl) hnot
    · have hid : found.revisionId = predecessor.revisionId := by simpa using List.find?_some hfound
      rw [hfound, List.inj_on_of_nodup_map c.nodup_revisionId_facts
        (List.mem_of_find?_eq_some hfound) hp hid]
  unfold checkPredecessor at hcheck
  rw [show c.fields.schedules.map CalendarFact.schedule ++ c.fields.closures.map CalendarFact.closure
    = c.fields.facts from rfl, hfind] at hcheck
  simp only [require_bind_eq_ok, check_bind_eq_ok] at hcheck
  exact ⟨hcheck.2.1, hcheck.2.2.1⟩

end TradingCalendar

/-! ### A phase over three dates -/

namespace TradingCalendar

/-- The day after the sample. -/
def middleDate : Date := .of 2026 9 4 (Eq.refl true)

/-- A phase from one day to the next but one. -/
def longPhase : SessionPhaseOccurrence :=
  ⟨⟨.CONTINUOUS, sampleTime 9,
    ⟨.of 2026 9 5 (Eq.refl true), 11, 0, 0, 0, 0⟩⟩, by decide⟩

/-- A schedule of that phase. -/
def longSchedule : TradingDaySchedule :=
  ⟨{ exchange := .SHFE, variety := rebar, tradingDate := ⟨sampleDate⟩,
     sessions := [⟨⟨"long", [longPhase]⟩, by decide⟩]
     eventTime := sampleTime 0, version := 1,
     provenance := sampleProvenance 1,
     revisionId := .epoch "trading_calendar_revision" 0 3 (Eq.refl true) }, by decide⟩

/-- **The two notions differ** on the day in the middle. -/
theorem mem_scheduleCalendarDates_middle :
    ¬ ∀ (s : TradingDaySchedule) (d : Date),
      d ∈ scheduleCalendarDates s ↔ s.touchesCalendarDate d = true := by
  intro hall
  exact absurd (hall longSchedule middleDate) (by decide)

end TradingCalendar

/-!
## Sessions that were not acquired

A market time may lie in sessions that are all acquired after `asOf`.  The resolution then has no
match, and tells apart what is missing, closed and not yet visible by the schedules of the variety,
those of other days among them.

* `resolve_notYetVisible_iff` — when it says that a session was not acquired.
-/

namespace TradingCalendarFields

variable {f : TradingCalendarFields} {variety : Variety} {marketTime : ShanghaiTimestamp}
  {asOf : RecordedAt}

/-- The answer when the session was not acquired. -/
def sessionNotYetVisible : Failure :=
  ⟨.REFERENCE_NOT_YET_VISIBLE, some "calendar session was not acquired at as_of"⟩

/-- The answer when the day has sessions, and none contains the time. -/
def outsideSessions : Failure :=
  ⟨.CALENDAR_CLOSED, some "market_time is outside explicit exchange session phases"⟩

/-- The answer when nothing is known of the day. -/
def calendarMissing : Failure :=
  ⟨.CALENDAR_MISSING, some "no explicit calendar fact applies to market_time"⟩

/-- Some session of a variety contains a market time, and all that is known of such a session, or of
a closure of the day, was acquired later. -/
structure Late (f : TradingCalendarFields) (variety : Variety) (marketTime : ShanghaiTimestamp)
    (asOf : RecordedAt) : Prop where
  matched : ∃ s ∈ f.schedules, s.fields.variety = variety ∧ (s.matchingPhase marketTime).isSome = true
  schedules : ∀ s ∈ f.schedules, s.fields.variety = variety →
    (s.matchingPhase marketTime).isSome = true → s.fields.provenance.isVisibleAt asOf = false
  closures : ∀ closure ∈ f.closures, closure.fields.exchange = variety.fields.exchange →
    closure.appliesTo marketTime = true → closure.fields.provenance.isVisibleAt asOf = false

namespace Late

variable (h : f.Late variety marketTime asOf)
include h

theorem activeClosures : f.activeClosures variety marketTime asOf = [] := by
  rw [List.eq_nil_iff_forall_not_mem]
  intro closure hclosure
  obtain ⟨hmem, hexchange, happlies, hvisible⟩ :=
    mem_visibleClosures.mp (mem_baseClosures.mp (mem_activeClosures.mp hclosure).1).1
  rw [h.closures closure hmem hexchange happlies] at hvisible
  cases hvisible

theorem matchingSchedules : f.matchingSchedules variety marketTime asOf = [] := by
  rw [List.eq_nil_iff_forall_not_mem]
  rintro ⟨s, name, phase⟩ hs
  obtain ⟨hactive, hmatching⟩ := mem_matchingSchedules.mp hs
  obtain ⟨hmem, hvariety, hvisible⟩ :=
    mem_visibleSchedules.mp (mem_baseSchedules.mp (mem_activeSchedules.mp hactive).1).1
  rw [h.schedules s hmem hvariety (by rw [hmatching]; rfl)] at hvisible
  cases hvisible

theorem activeSchedules :
    f.activeSchedules variety marketTime asOf = f.baseSchedules variety asOf := by
  rw [TradingCalendarFields.activeSchedules, h.activeClosures]
  exact List.filter_eq_self.mpr fun _ _ => rfl

theorem rawMatches :
    (f.scopedSchedules variety).filter (fun s => (s.matchingPhase marketTime).isSome) ≠ [] := by
  obtain ⟨s, hs, hvariety, hmatching⟩ := h.matched
  exact List.ne_nil_of_mem (List.mem_filter.mpr
    ⟨List.mem_filter.mpr ⟨hs, decide_eq_true hvariety⟩, hmatching⟩)

end Late

end TradingCalendarFields

namespace TradingCalendar

open TradingCalendarFields

variable [Hashlib] {host : CalendarHost} (c : TradingCalendar host) (variety : Variety)
  (marketTime : ShanghaiTimestamp) (asOf : RecordedAt)

/-- **Of visible schedules, one is not superseded**: the one of the highest version. -/
theorem baseSchedules_ne_nil (h : c.fields.visibleSchedules variety asOf ≠ []) :
    c.fields.baseSchedules variety asOf ≠ [] := by
  obtain ⟨s, hs⟩ := List.exists_mem_of_ne_nil _ h
  obtain ⟨latest, hlatest, hmax⟩ := (c.fields.visibleSchedules variety asOf).toFinset.exists_max_image
    (·.fields.version) ⟨s, List.mem_toFinset.mpr hs⟩
  rw [List.mem_toFinset] at hlatest
  have hfact : ∀ t ∈ c.fields.visibleSchedules variety asOf,
      CalendarFact.schedule t ∈ c.fields.facts := fun t ht =>
    List.mem_append_left _ (List.mem_map_of_mem (mem_visibleSchedules.mp ht).1)
  refine List.ne_nil_of_mem (mem_baseSchedules.mpr ⟨hlatest, fun successor hsuccessor hmem => ?_⟩)
  have hversion := (c.checkPredecessor_of_supersedes (hfact successor hsuccessor)
    (hfact latest hlatest) hmem).2
  have hle := hmax successor (List.mem_toFinset.mpr hsuccessor)
  exact absurd hversion (Int.not_lt.mpr hle)

/-- **The answer when all that applies was acquired later.** -/
theorem resolve_of_late (h : c.fields.Late variety marketTime asOf) :
    c.resolve variety marketTime asOf = .ok (.failure
      (if c.fields.visibleSchedules variety asOf = [] then sessionNotYetVisible
      else if (c.fields.baseSchedules variety asOf).filter
        (·.touchesCalendarDate marketTime.date) ≠ [] then outsideSessions
      else calendarMissing)) := by
  rw [resolve, TradingCalendarFields.resolve, h.matchingSchedules, h.activeClosures]
  unfold unmatched
  simp only [h.activeSchedules]
  by_cases hvisible : c.fields.visibleSchedules variety asOf = []
  · rw [if_pos ⟨h.rawMatches, hvisible⟩, if_pos hvisible]
    rfl
  · have hbase := c.baseSchedules_ne_nil variety asOf hvisible
    rw [if_neg fun hnot => hvisible hnot.2, if_neg fun hnot => hbase hnot.2.2,
      if_neg fun hnot => hbase hnot.2.2, if_neg hvisible]
    by_cases houtside : (c.fields.baseSchedules variety asOf).filter
        (·.touchesCalendarDate marketTime.date) = []
    · rw [if_neg (not_not.mpr houtside), if_neg fun hnot => hvisible hnot.2,
        if_neg fun hnot => hbase hnot.2.2, if_neg (not_not.mpr houtside)]
      rfl
    · rw [if_pos houtside, if_pos houtside]
      rfl

/-- **When a session that was not acquired is reported as such.**  A market time lies in sessions
that were all acquired after `asOf`, and no closure of the day is known.  It is reported that a
session was not acquired exactly when no schedule of the variety was, whatever its day. -/
theorem resolve_notYetVisible_iff
    (hmatched : ∃ s ∈ c.fields.schedules, s.fields.variety = variety
      ∧ (s.matchingPhase marketTime).isSome = true)
    (hlate : ∀ s ∈ c.fields.schedules, s.fields.variety = variety →
      (s.matchingPhase marketTime).isSome = true → s.fields.provenance.isVisibleAt asOf = false)
    (hclosures : ∀ closure ∈ c.fields.closures, closure.fields.exchange = variety.fields.exchange →
      closure.appliesTo marketTime = true → closure.fields.provenance.isVisibleAt asOf = false) :
    (∃ message, c.resolve variety marketTime asOf
        = .ok (.failure ⟨.REFERENCE_NOT_YET_VISIBLE, message⟩))
      ↔ ∀ s ∈ c.fields.schedules, s.fields.variety = variety →
        s.fields.provenance.isVisibleAt asOf = false := by
  have hnone : c.fields.visibleSchedules variety asOf = [] ↔ ∀ s ∈ c.fields.schedules,
      s.fields.variety = variety → s.fields.provenance.isVisibleAt asOf = false := by
    simp only [List.eq_nil_iff_forall_not_mem, mem_visibleSchedules, not_and, Bool.not_eq_true]
  rw [← hnone, c.resolve_of_late variety marketTime asOf ⟨hmatched, hlate, hclosures⟩]
  constructor
  · rintro ⟨message, h⟩
    by_contra hvisible
    rw [if_neg hvisible] at h
    split_ifs at h <;> cases congrArg Failure.reasonCode
      (TradingDateOutcome.failure.inj (Except.ok.inj h))
  · intro hvisible
    rw [if_pos hvisible]
    exact ⟨_, rfl⟩

end TradingCalendar

/-! ### The session of a day that is acquired after that of another -/

namespace TradingCalendar

/-- A morning session of the next day, acquired at three o'clock. -/
def nextMorning : TradingDaySchedule :=
  ⟨{ exchange := .SHFE, variety := rebar, tradingDate := ⟨middleDate⟩,
     sessions := [⟨⟨"morning", [⟨⟨.CONTINUOUS, ⟨middleDate, 9, 0, 0, 0, 0⟩,
       ⟨middleDate, 11, 0, 0, 0, 0⟩⟩, by decide⟩]⟩, by decide⟩]
     eventTime := sampleTime 0, version := 1,
     provenance := sampleProvenance 3,
     revisionId := .epoch "trading_calendar_revision" 0 4 (Eq.refl true) }, by decide⟩

theorem exists_twoDayRelease [Hashlib] : ∃ c : TradingCalendar shanghaiHost,
    c.fields.schedules = [morning, nextMorning] ∧ c.fields.closures = [] := by
  obtain ⟨c, digest, hc⟩ := exists_accepted
    (f := { sampleRelease [] [] with schedules := [morning, nextMorning] }) rfl (le_refl 1)
    (List.cons_ne_nil _ _) (by decide +kernel) (by decide +kernel)
  exact ⟨c, by rw [hc], by rw [hc]; rfl⟩

/-- Ten o'clock of the next day. -/
def nextTen : ShanghaiTimestamp := ⟨middleDate, 10, 0, 0, 0, 0⟩

/-- At midnight neither session was acquired, and that is reported. -/
theorem resolve_notYetVisible_atMidnight :
    ∃ c : TradingCalendar shanghaiHost, ∃ message,
      c.resolve rebar nextTen ⟨sampleDate, 0, 0, 0, 0⟩
        = .ok (.failure ⟨.REFERENCE_NOT_YET_VISIBLE, message⟩) := by
  obtain ⟨c, hschedules, hclosures⟩ := exists_twoDayRelease
  refine ⟨c, (c.resolve_notYetVisible_iff rebar nextTen ⟨sampleDate, 0, 0, 0, 0⟩ ?_ ?_ ?_).mpr ?_⟩
  all_goals simp only [hschedules, hclosures]
  · exact ⟨nextMorning, List.mem_cons_of_mem _ List.mem_cons_self, by decide⟩
  all_goals decide

/-- **Another answer at two o'clock**, when the session of the first day was acquired. -/
theorem resolve_missing_atTwo :
    ¬ ∀ (c : TradingCalendar shanghaiHost) (variety : Variety) (marketTime : ShanghaiTimestamp)
        (asOf : RecordedAt),
      (∃ s ∈ c.fields.schedules, s.fields.variety = variety
        ∧ (s.matchingPhase marketTime).isSome = true) →
      (∀ closure ∈ c.fields.closures, closure.appliesTo marketTime = false) →
      (∀ s ∈ c.fields.schedules, s.fields.variety = variety →
        (s.matchingPhase marketTime).isSome = true →
          s.fields.provenance.isVisibleAt asOf = false) →
      ∃ message, c.resolve variety marketTime asOf
        = .ok (.failure ⟨.REFERENCE_NOT_YET_VISIBLE, message⟩) := by
  intro hall
  obtain ⟨c, hschedules, hclosures⟩ := exists_twoDayRelease
  have hlate : c.fields.Late rebar nextTen ⟨sampleDate, 2, 0, 0, 0⟩ := by
    refine ⟨?_, ?_, ?_⟩
    all_goals simp only [hschedules, hclosures]
    · exact ⟨nextMorning, List.mem_cons_of_mem _ List.mem_cons_self, by decide⟩
    all_goals decide
  obtain ⟨message, h⟩ := hall c rebar nextTen ⟨sampleDate, 2, 0, 0, 0⟩ hlate.matched
    (by rw [hclosures]; decide) hlate.schedules
  have hvisible : morning ∈ c.fields.visibleSchedules rebar ⟨sampleDate, 2, 0, 0, 0⟩ :=
    TradingCalendarFields.mem_visibleSchedules.mpr
      ⟨hschedules ▸ List.mem_cons_self, rfl, by decide⟩
  rw [c.resolve_of_late _ _ _ hlate, if_neg (List.ne_nil_of_mem hvisible)] at h
  split_ifs at h <;> cases congrArg Failure.reasonCode
    (TradingDateOutcome.failure.inj (Except.ok.inj h))

end TradingCalendar

end FuturesAgentOs
