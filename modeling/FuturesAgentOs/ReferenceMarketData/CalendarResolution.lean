import FuturesAgentOs.PyModel.Revisions
import FuturesAgentOs.ReferenceMarketData.TradingCalendar

namespace FuturesAgentOs

open PyModel

/-!
# Resolutions are unambiguous

A release is accepted only when two facts that can apply to one market time supersede one another.
Of two visible such facts one is then inactive, whatever else is visible.

* `resolve_unambiguous` — the outcomes of a resolution;
* `resolve_noninterference` — facts that are acquired later change no resolution that succeeds.
-/

/-! ### What an accepted release satisfies -/

theorem CalendarFact.directlySupersedes_comm (left right : CalendarFact) :
    left.directlySupersedes right = right.directlySupersedes left := Bool.or_comm _ _

theorem occurrencesCompete_comm (left right : TradingDaySchedule × SessionPhaseOccurrence) :
    occurrencesCompete left right = occurrencesCompete right left := by
  simp only [occurrencesCompete, CalendarFact.directlySupersedes_comm (.schedule left.1),
    eq_comm (a := left.1.fields.variety), Bool.and_assoc]
  rw [Bool.and_left_comm (decide (left.2.fields.startsAt < right.2.fields.endsAt))]

instance : Std.Symm (fun left right => occurrencesCompete left right = false) :=
  ⟨fun left right h => (occurrencesCompete_comm right left).trans h⟩

theorem closuresCompete_comm (left right : CalendarClosure) :
    closuresCompete left right = closuresCompete right left := by
  simp only [closuresCompete, CalendarFact.directlySupersedes_comm (.closure left),
    eq_comm (a := left.fields.exchange), eq_comm (a := left.fields.calendarDate)]

instance : Std.Symm (fun left right => closuresCompete left right = false) :=
  ⟨fun left right h => (closuresCompete_comm right left).trans h⟩

/-- What the checks of a release leave. -/
structure TradingCalendarFields.Accepted (f : TradingCalendarFields) : Prop where
  /-- revision ids are unique -/
  revisions : (f.schedules.map (·.fields.revisionId) ++ f.closures.map (·.fields.revisionId)).Nodup
  /-- competing occurrences supersede one another -/
  phasesApart : (occurrences f.schedules).Pairwise
    (fun left right => occurrencesCompete left right = false)
  /-- competing closures supersede one another -/
  closuresApart : f.closures.Pairwise (fun left right => closuresCompete left right = false)
  /-- a closure and a schedule on its date supersede one another -/
  closuresAway : ∀ closure ∈ f.closures, ∀ occurrence ∈ occurrences f.schedules,
    closureOverlaps closure occurrence = false

namespace TradingCalendar

variable [Hashlib] {host : CalendarHost} (c : TradingCalendar host)

theorem accepted : c.fields.Accepted := by
  have h := c.valid
  simp only [TradingCalendarFields.postInit, check_bind_eq_ok] at h
  obtain ⟨-, -, -, hoverlaps, -⟩ := h
  simp only [rejectOverlaps, check_bind_eq_ok, require_eq_ok] at hoverlaps
  obtain ⟨hrevisions, -, -, hoccurrences, hclosures, -, hboth⟩ := hoverlaps
  rw [List.map_append, List.map_map, List.map_map] at hrevisions
  exact ⟨hrevisions, hoccurrences, hclosures, hboth⟩

/-- The release has an identity. -/
theorem exists_ref : ∃ ref, c.fields.ref = .ok ref := by
  have h := c.valid
  simp only [TradingCalendarFields.postInit, check_bind_eq_ok, require_eq_ok, requireVersion] at h
  obtain ⟨hnamespace, hversion, -, -, h⟩ := h
  obtain ⟨actual, hactual, h⟩ := Py.of_bind h
  have hdigest : c.fields.expectedContentSha256.IsHexDigest := by
    rw [require_eq_ok.mp h]
    exact isHexDigest_of_canonicalSha256 hactual
  apply Frozen.exists_make_iff.mpr
  show TradingCalendarRefFields.postInit _ = .ok ()
  simp only [TradingCalendarRefFields.postInit, check_bind_eq_ok, requireVersion, requireDigest,
    require_eq_ok]
  exact ⟨hnamespace, hversion, hdigest⟩

end TradingCalendar

/-! ### The facts of a resolution -/

theorem mem_unsuperseded {α : Type} {revisionId : α → EntityId} {supersedes : α → List EntityId}
    {visible : List α} {fact : α} :
    fact ∈ unsuperseded revisionId supersedes visible
      ↔ fact ∈ visible ∧ ∀ successor ∈ visible, revisionId fact ∉ supersedes successor := by
  simp [unsuperseded]

theorem TradingDaySchedule.matchingPhase_eq_some {s : TradingDaySchedule}
    {marketTime : ShanghaiTimestamp} {name : Text} {phase : SessionPhaseOccurrence}
    (h : s.matchingPhase marketTime = some (name, phase)) :
    phase ∈ s.fields.phases ∧ phase.contains marketTime = true := by
  obtain ⟨session, hsession, h⟩ := List.exists_of_findSome?_eq_some h
  obtain ⟨found, hfound, h⟩ := Option.map_eq_some_iff.mp h
  obtain rfl : found = phase := congrArg Prod.snd h
  exact ⟨List.mem_flatMap.mpr ⟨session, hsession, List.mem_of_find?_eq_some hfound⟩,
    List.find?_some (p := fun phase : SessionPhaseOccurrence => phase.contains marketTime) hfound⟩

theorem SessionPhaseOccurrence.touchesCalendarDate_of_contains {p : SessionPhaseOccurrence}
    {marketTime : ShanghaiTimestamp} (h : p.contains marketTime = true) :
    p.touchesCalendarDate marketTime.date = true := by
  rw [contains, Bool.and_eq_true, decide_eq_true_eq, decide_eq_true_eq] at h
  rw [touchesCalendarDate, Bool.and_eq_true, decide_eq_true_eq, decide_eq_true_eq]
  exact ⟨ShanghaiTimestamp.date_le_of_le h.1, ShanghaiTimestamp.date_le_dateBefore h.2⟩

namespace TradingCalendarFields

variable {f : TradingCalendarFields} {variety : Variety} {marketTime : ShanghaiTimestamp}
  {asOf : RecordedAt}

variable {s : TradingDaySchedule} {closure : CalendarClosure}

theorem mem_visibleSchedules :
    s ∈ f.visibleSchedules variety asOf ↔ s ∈ f.schedules ∧ s.fields.variety = variety
      ∧ s.fields.provenance.isVisibleAt asOf = true := by
  simp only [visibleSchedules, scopedSchedules, List.mem_filter, decide_eq_true_eq, and_assoc]

theorem mem_visibleClosures :
    closure ∈ f.visibleClosures variety marketTime asOf ↔ closure ∈ f.closures
      ∧ closure.fields.exchange = variety.fields.exchange ∧ closure.appliesTo marketTime = true
      ∧ closure.fields.provenance.isVisibleAt asOf = true := by
  simp only [visibleClosures, scopedClosures, List.mem_filter, Bool.and_eq_true,
    decide_eq_true_eq, and_assoc]

theorem mem_baseSchedules : s ∈ f.baseSchedules variety asOf ↔ s ∈ f.visibleSchedules variety asOf
      ∧ ∀ successor ∈ f.visibleSchedules variety asOf,
        s.fields.revisionId ∉ successor.fields.supersedes := mem_unsuperseded

theorem mem_baseClosures : closure ∈ f.baseClosures variety marketTime asOf
      ↔ closure ∈ f.visibleClosures variety marketTime asOf
      ∧ ∀ successor ∈ f.visibleClosures variety marketTime asOf,
        closure.fields.revisionId ∉ successor.fields.supersedes := mem_unsuperseded

theorem mem_activeClosures : closure ∈ f.activeClosures variety marketTime asOf
      ↔ closure ∈ f.baseClosures variety marketTime asOf
      ∧ ∀ schedule ∈ f.baseSchedules variety asOf,
        closure.fields.revisionId ∈ schedule.fields.supersedes →
        schedule.matchingPhase marketTime = none := by
  simp [activeClosures]

theorem mem_activeSchedules :
    s ∈ f.activeSchedules variety marketTime asOf ↔ s ∈ f.baseSchedules variety asOf
      ∧ ∀ closure ∈ f.activeClosures variety marketTime asOf,
        s.fields.revisionId ∉ closure.fields.supersedes := by
  simp [activeSchedules]

theorem mem_matchingSchedules {name : Text} {phase : SessionPhaseOccurrence} :
    (s, name, phase) ∈ f.matchingSchedules variety marketTime asOf
      ↔ s ∈ f.activeSchedules variety marketTime asOf
        ∧ s.matchingPhase marketTime = some (name, phase) := by
  simp only [matchingSchedules, List.mem_filterMap, Option.map_eq_some_iff]
  constructor
  · rintro ⟨s', hs', matching, hmatching, heq⟩
    obtain ⟨rfl, rfl⟩ := Prod.mk.inj heq
    exact ⟨hs', hmatching⟩
  · rintro ⟨hs, hmatching⟩
    exact ⟨s, hs, _, hmatching, rfl⟩

theorem mem_schedules_of_active (h : s ∈ f.activeSchedules variety marketTime asOf) :
    s ∈ f.schedules ∧ s.fields.variety = variety :=
  have hvisible := mem_visibleSchedules.mp (mem_baseSchedules.mp (mem_activeSchedules.mp h).1).1
  ⟨hvisible.1, hvisible.2.1⟩

/-! ### The three kinds of conflict -/

/-- **Two schedules** that match one time are one. -/
theorem Accepted.activeSchedule_unique (hf : f.Accepted) {t : TradingDaySchedule}
    (hs : s ∈ f.activeSchedules variety marketTime asOf)
    (ht : t ∈ f.activeSchedules variety marketTime asOf)
    (hsMatches : (s.matchingPhase marketTime).isSome = true)
    (htMatches : (t.matchingPhase marketTime).isSome = true) : s = t := by
  by_contra hne
  obtain ⟨⟨name, p⟩, hp⟩ := Option.isSome_iff_exists.mp hsMatches
  obtain ⟨⟨name', q⟩, hq⟩ := Option.isSome_iff_exists.mp htMatches
  obtain ⟨hpMem, hpContains⟩ := TradingDaySchedule.matchingPhase_eq_some hp
  obtain ⟨hqMem, hqContains⟩ := TradingDaySchedule.matchingPhase_eq_some hq
  obtain ⟨hsMem, hsVariety⟩ := mem_schedules_of_active hs
  obtain ⟨htMem, htVariety⟩ := mem_schedules_of_active ht
  have hsOccurrence : (s, p) ∈ occurrences f.schedules :=
    List.mem_flatMap.mpr ⟨s, hsMem, List.mem_map_of_mem hpMem⟩
  have htOccurrence : (t, q) ∈ occurrences f.schedules :=
    List.mem_flatMap.mpr ⟨t, htMem, List.mem_map_of_mem hqMem⟩
  have hcompete : occurrencesCompete (s, p) (t, q) = false :=
    hf.phasesApart.forall hsOccurrence htOccurrence (fun heq => hne (congrArg Prod.fst heq))
  -- the two phases overlap at the market time
  simp only [SessionPhaseOccurrence.contains, Bool.and_eq_true, decide_eq_true_eq]
    at hpContains hqContains
  have hleft : p.fields.startsAt < q.fields.endsAt :=
    ShanghaiTimestamp.lt_of_le_of_lt hpContains.1 hqContains.2
  have hright : q.fields.startsAt < p.fields.endsAt :=
    ShanghaiTimestamp.lt_of_le_of_lt hqContains.1 hpContains.2
  simp only [occurrencesCompete, hsVariety, htVariety, hleft, hright, decide_true, Bool.true_and,
    Bool.not_eq_false', CalendarFact.directlySupersedes, Bool.or_eq_true, decide_eq_true_eq]
      at hcompete
  have hsBase := mem_baseSchedules.mp (mem_activeSchedules.mp hs).1
  have htBase := mem_baseSchedules.mp (mem_activeSchedules.mp ht).1
  rcases hcompete with hsuperseded | hsuperseded
  · exact hsBase.2 t htBase.1 hsuperseded
  · exact htBase.2 s hsBase.1 hsuperseded

theorem Accepted.not_active_of_matching (hf : f.Accepted)
    (hs : s ∈ f.activeSchedules variety marketTime asOf)
    (hmatches : (s.matchingPhase marketTime).isSome = true) (closure : CalendarClosure) :
    closure ∉ f.activeClosures variety marketTime asOf := by
  intro hclosure
  obtain ⟨⟨name, p⟩, hp⟩ := Option.isSome_iff_exists.mp hmatches
  obtain ⟨hpMem, hpContains⟩ := TradingDaySchedule.matchingPhase_eq_some hp
  obtain ⟨hsMem, hvariety⟩ := mem_schedules_of_active hs
  obtain ⟨hbaseClosure, hactive⟩ := mem_activeClosures.mp hclosure
  obtain ⟨hclosureMem, hexchange, happlies, -⟩ :=
    mem_visibleClosures.mp (mem_baseClosures.mp hbaseClosure).1
  have hsExchange : s.fields.exchange = closure.fields.exchange := by
    have hvalid : s.fields.postInit = .ok () := s.valid
    simp only [TradingDayScheduleFields.postInit, check_bind_eq_ok, require_eq_ok] at hvalid
    rw [← hvalid.1, hvariety, hexchange]
  have htouches := SessionPhaseOccurrence.touchesCalendarDate_of_contains hpContains
  rw [of_decide_eq_true happlies] at htouches
  have hoverlaps := hf.closuresAway closure hclosureMem (s, p)
    (List.mem_flatMap.mpr ⟨s, hsMem, List.mem_map_of_mem hpMem⟩)
  simp only [closureOverlaps, hsExchange, htouches, decide_true, Bool.true_and, Bool.not_eq_false',
    CalendarFact.directlySupersedes, Bool.or_eq_true, decide_eq_true_eq] at hoverlaps
  rcases hoverlaps with hsuperseded | hsuperseded
  · -- the schedule supersedes the closure and matches
    rw [hactive s (mem_activeSchedules.mp hs).1 hsuperseded] at hp
    cases hp
  · exact (mem_activeSchedules.mp hs).2 closure hclosure hsuperseded

/-- **Two closures** that are active are one. -/
theorem Accepted.activeClosure_unique (hf : f.Accepted) {c d : CalendarClosure}
    (hc : c ∈ f.activeClosures variety marketTime asOf)
    (hd : d ∈ f.activeClosures variety marketTime asOf) : c = d := by
  by_contra hne
  obtain ⟨hcVisible, hcBase⟩ := mem_baseClosures.mp (mem_activeClosures.mp hc).1
  obtain ⟨hdVisible, hdBase⟩ := mem_baseClosures.mp (mem_activeClosures.mp hd).1
  obtain ⟨hcMem, hcExchange, hcApplies, -⟩ := mem_visibleClosures.mp hcVisible
  obtain ⟨hdMem, hdExchange, hdApplies, -⟩ := mem_visibleClosures.mp hdVisible
  have hcompete : closuresCompete c d = false :=
    hf.closuresApart.forall hcMem hdMem hne
  have hdate : c.fields.calendarDate = d.fields.calendarDate :=
    (of_decide_eq_true hcApplies).symm.trans (of_decide_eq_true hdApplies)
  simp only [closuresCompete, hcExchange, hdExchange, hdate, decide_true, Bool.true_and,
    Bool.not_eq_false', CalendarFact.directlySupersedes, Bool.or_eq_true, decide_eq_true_eq]
      at hcompete
  rcases hcompete with hsuperseded | hsuperseded
  · exact hcBase d hdVisible hsuperseded
  · exact hdBase c hcVisible hsuperseded

theorem Accepted.nodup_activeSchedules (hf : f.Accepted) :
    (f.activeSchedules variety marketTime asOf).Nodup := by
  have hschedules : f.schedules.Nodup := List.Nodup.of_map _ (List.nodup_append.mp hf.revisions).1
  exact (((hschedules.filter _).filter _).filter _).filter _

theorem Accepted.nodup_activeClosures (hf : f.Accepted) :
    (f.activeClosures variety marketTime asOf).Nodup := by
  have hclosures : f.closures.Nodup := List.Nodup.of_map _ (List.nodup_append.mp hf.revisions).2.1
  exact (((hclosures.filter _).filter _).filter _).filter _

theorem Accepted.length_matchingSchedules (hf : f.Accepted) :
    (f.matchingSchedules variety marketTime asOf).length ≤ 1 := by
  have hmap : f.matchingSchedules variety marketTime asOf
      = ((f.activeSchedules variety marketTime asOf).filter
          (fun schedule => (schedule.matchingPhase marketTime).isSome)).filterMap
        (fun schedule => (schedule.matchingPhase marketTime).map (fun matching =>
          (schedule, matching))) := by
    rw [List.filterMap_filter, matchingSchedules]
    apply List.filterMap_congr
    intro schedule _
    rcases schedule.matchingPhase marketTime with _ | matching <;> rfl
  rw [hmap]
  refine (List.length_filterMap_le _ _).trans (length_le_one_of_forall_eq
    (hf.nodup_activeSchedules.filter _) fun s hs t ht => ?_)
  rw [List.mem_filter] at hs ht
  exact hf.activeSchedule_unique hs.1 ht.1 hs.2 ht.2

theorem Accepted.length_activeClosures (hf : f.Accepted) :
    (f.activeClosures variety marketTime asOf).length ≤ 1 :=
  length_le_one_of_forall_eq hf.nodup_activeClosures
    (fun _ hc _ hd => hf.activeClosure_unique hc hd)

theorem Accepted.activeClosures_of_matching (hf : f.Accepted)
    (h : f.matchingSchedules variety marketTime asOf ≠ []) :
    f.activeClosures variety marketTime asOf = [] := by
  obtain ⟨⟨s, name, phase⟩, hmem⟩ := List.exists_mem_of_ne_nil _ h
  obtain ⟨hs, hmatching⟩ := mem_matchingSchedules.mp hmem
  rw [List.eq_nil_iff_forall_not_mem]
  exact hf.not_active_of_matching hs (by rw [hmatching]; rfl)

/-- The answer under one closure. -/
def closed : Failure :=
  ⟨.CALENDAR_CLOSED, some "exchange is closed by an explicit calendar closure"⟩

theorem unmatched_ne_phaseConflict : f.unmatched variety marketTime asOf ≠ phaseConflict := by
  unfold unmatched
  dsimp only
  split_ifs <;> decide

theorem unmatched_ne_closureConflict : f.unmatched variety marketTime asOf ≠ closureConflict := by
  unfold unmatched
  dsimp only
  split_ifs <;> decide

end TradingCalendarFields

namespace TradingCalendar

open TradingCalendarFields

variable [Hashlib] {host host' : CalendarHost} (c : TradingCalendar host) (variety : Variety)
  (marketTime : ShanghaiTimestamp) (asOf : RecordedAt)

def resolve : Py TradingDateOutcome := c.fields.resolve variety marketTime asOf

/-- **A schedule that matches** is what the resolution answers with. -/
theorem resolve_of_matching {s : TradingDaySchedule} {name : Text} {phase : SessionPhaseOccurrence}
    (h : (s, name, phase) ∈ c.fields.matchingSchedules variety marketTime asOf) :
    ∃ r, c.resolve variety marketTime asOf = .ok (.resolution r)
      ∧ r.fields.tradingDate = s.fields.tradingDate ∧ r.fields.sessionName = name
      ∧ r.fields.phase = phase.fields.phase ∧ r.fields.schedule = s := by
  obtain ⟨hactive, hmatching⟩ := mem_matchingSchedules.mp h
  have hlength : (c.fields.matchingSchedules variety marketTime asOf).length ≤ 1 :=
    c.accepted.length_matchingSchedules
  have hclosures := c.accepted.activeClosures_of_matching (List.ne_nil_of_mem h)
  obtain ⟨ref, href⟩ := c.exists_ref
  have hvariety := (mem_schedules_of_active hactive).2
  have hvalid : s.fields.postInit = .ok () := s.valid
  simp only [TradingDayScheduleFields.postInit, check_bind_eq_ok, require_eq_ok] at hvalid
  obtain ⟨r, hr⟩ : ∃ r, Frozen.make (TradingDateResolutionFields.mk variety.fields.exchange
      s.fields.tradingDate marketTime asOf name phase.fields.phase s ref) = .ok r := by
    apply Frozen.exists_make_iff.mpr
    show TradingDateResolutionFields.postInit _ = .ok ()
    simp only [TradingDateResolutionFields.postInit, check_bind_eq_ok, require_eq_ok]
    refine ⟨⟨?_, trivial⟩, by rw [hmatching]; rfl⟩
    rw [← hvariety]
    exact hvalid.1
  have hfields := Frozen.make_eq_ok.mp hr
  rcases hmatches : c.fields.matchingSchedules variety marketTime asOf with _ | ⟨first, rest⟩
  · rw [hmatches] at h
    cases h
  · rw [hmatches, List.length_cons] at hlength
    obtain rfl : rest = [] := List.length_eq_zero_iff.mp (by omega)
    rw [hmatches, List.mem_singleton] at h
    subst h
    refine ⟨r, ?_, by rw [hfields], by rw [hfields], by rw [hfields], by rw [hfields]⟩
    simp only [resolve, TradingCalendarFields.resolve, hmatches, hclosures, ne_eq,
      not_true_eq_false,
      if_false, href, Py.ok_bind, hr]

/-- **Resolutions are unambiguous.** Whatever a release that was accepted contains, a resolution
returns and is neither the conflict of phases nor that of closures: at most one active schedule
matches the time, no closure is active besides, and at most one closure is active. -/
theorem resolve_unambiguous :
    (∃ outcome, c.resolve variety marketTime asOf = .ok outcome
      ∧ outcome ≠ .failure phaseConflict ∧ outcome ≠ .failure closureConflict)
      ∧ (c.fields.matchingSchedules variety marketTime asOf).length ≤ 1
      ∧ (c.fields.activeClosures variety marketTime asOf).length ≤ 1
      ∧ (c.fields.matchingSchedules variety marketTime asOf ≠ [] →
        c.fields.activeClosures variety marketTime asOf = []) := by
  refine ⟨?_, c.accepted.length_matchingSchedules, c.accepted.length_activeClosures,
    c.accepted.activeClosures_of_matching⟩
  rcases hmatches : c.fields.matchingSchedules variety marketTime asOf with
    _ | ⟨⟨s, name, phase⟩, rest⟩
  · have hlength : (c.fields.activeClosures variety marketTime asOf).length ≤ 1 :=
      c.accepted.length_activeClosures
    rcases hclosures : c.fields.activeClosures variety marketTime asOf with
      _ | ⟨closure, _ | ⟨d, rest⟩⟩
    · refine ⟨.failure (c.fields.unmatched variety marketTime asOf), ?_, ?_, ?_⟩
      · simp only [resolve, TradingCalendarFields.resolve, hmatches, hclosures]
      · exact fun h => unmatched_ne_phaseConflict (TradingDateOutcome.failure.inj h)
      · exact fun h => unmatched_ne_closureConflict (TradingDateOutcome.failure.inj h)
    · refine ⟨.failure closed, ?_, ?_, ?_⟩
      · simp only [resolve, TradingCalendarFields.resolve, hmatches, hclosures, closed]
      · exact fun h => absurd (TradingDateOutcome.failure.inj h) (by decide)
      · exact fun h => absurd (TradingDateOutcome.failure.inj h) (by decide)
    · rw [hclosures, List.length_cons, List.length_cons] at hlength
      omega
  · have hmem : (s, name, phase) ∈ c.fields.matchingSchedules variety marketTime asOf := by
      rw [hmatches]
      exact List.mem_cons_self
    obtain ⟨r, hr, -⟩ := c.resolve_of_matching variety marketTime asOf hmem
    exact ⟨.resolution r, hr, (fun h => by cases h), fun h => by cases h⟩

theorem matching_of_resolve {r : TradingDateResolution}
    (h : c.resolve variety marketTime asOf = .ok (.resolution r)) :
    ∃ phase, (r.fields.schedule, r.fields.sessionName, phase)
        ∈ c.fields.matchingSchedules variety marketTime asOf
      ∧ r.fields.tradingDate = r.fields.schedule.fields.tradingDate
      ∧ r.fields.phase = phase.fields.phase := by
  rcases hmatches : c.fields.matchingSchedules variety marketTime asOf with
    _ | ⟨⟨s, name, phase⟩, rest⟩
  · -- without a match every outcome is a failure
    simp only [resolve, TradingCalendarFields.resolve, hmatches] at h
    split at h <;> cases Except.ok.inj h
  · have hmem : (s, name, phase) ∈ c.fields.matchingSchedules variety marketTime asOf := by
      rw [hmatches]
      exact List.mem_cons_self
    obtain ⟨r', hr', hdate, hname, hphase, hschedule⟩ :=
      c.resolve_of_matching variety marketTime asOf hmem
    obtain rfl : r' = r := by
      rw [hr'] at h
      exact TradingDateOutcome.resolution.inj (Except.ok.inj h)
    subst hschedule hname
    exact ⟨phase, List.mem_cons_self, hdate, hphase⟩

end TradingCalendar

/-! ### What is acquired later -/

/-- Two releases that differ only in facts acquired after a time. -/
structure TradingCalendarFields.SameVisible (f f' : TradingCalendarFields) (asOf : RecordedAt) :
    Prop where
  schedules : ∀ s : TradingDaySchedule, s.fields.provenance.isVisibleAt asOf = true →
    (s ∈ f.schedules ↔ s ∈ f'.schedules)
  closures : ∀ c : CalendarClosure, c.fields.provenance.isVisibleAt asOf = true →
    (c ∈ f.closures ↔ c ∈ f'.closures)

namespace TradingCalendarFields.SameVisible

variable {f f' : TradingCalendarFields} {asOf : RecordedAt} (h : f.SameVisible f' asOf)
  {variety : Variety} {marketTime : ShanghaiTimestamp}
include h

theorem visibleSchedules (s : TradingDaySchedule) :
    s ∈ f.visibleSchedules variety asOf ↔ s ∈ f'.visibleSchedules variety asOf := by
  rw [mem_visibleSchedules, mem_visibleSchedules]
  exact and_congr_left fun hs => h.schedules s hs.2

theorem visibleClosures (closure : CalendarClosure) :
    closure ∈ f.visibleClosures variety marketTime asOf
      ↔ closure ∈ f'.visibleClosures variety marketTime asOf := by
  rw [mem_visibleClosures, mem_visibleClosures]
  exact and_congr_left fun hc => h.closures closure hc.2.2

theorem baseSchedules (s : TradingDaySchedule) :
    s ∈ f.baseSchedules variety asOf ↔ s ∈ f'.baseSchedules variety asOf := by
  simp only [mem_baseSchedules, h.visibleSchedules]

theorem baseClosures (closure : CalendarClosure) :
    closure ∈ f.baseClosures variety marketTime asOf
      ↔ closure ∈ f'.baseClosures variety marketTime asOf := by
  simp only [mem_baseClosures, h.visibleClosures]

theorem activeClosures (closure : CalendarClosure) :
    closure ∈ f.activeClosures variety marketTime asOf
      ↔ closure ∈ f'.activeClosures variety marketTime asOf := by
  simp only [mem_activeClosures, h.baseClosures, h.baseSchedules]

theorem activeSchedules (s : TradingDaySchedule) :
    s ∈ f.activeSchedules variety marketTime asOf
      ↔ s ∈ f'.activeSchedules variety marketTime asOf := by
  simp only [mem_activeSchedules, h.baseSchedules, h.activeClosures]

theorem matchingSchedules (s : TradingDaySchedule) (name : Text) (phase : SessionPhaseOccurrence) :
    (s, name, phase) ∈ f.matchingSchedules variety marketTime asOf
      ↔ (s, name, phase) ∈ f'.matchingSchedules variety marketTime asOf := by
  simp only [mem_matchingSchedules, h.activeSchedules]

end TradingCalendarFields.SameVisible

/-- **Point-in-time noninterference.** Of two accepted releases that differ only in facts acquired
after `asOf`, where one resolves a market time the other does, with the same trading date, session,
phase and schedule. -/
theorem TradingCalendar.resolve_noninterference [Hashlib] {host : CalendarHost}
    (c c' : TradingCalendar host) (variety : Variety) (marketTime : ShanghaiTimestamp)
    (asOf : RecordedAt) (hsame : c.fields.SameVisible c'.fields asOf) (r : TradingDateResolution)
    (h : c.resolve variety marketTime asOf = .ok (.resolution r)) :
    ∃ r', c'.resolve variety marketTime asOf = .ok (.resolution r')
      ∧ r'.fields.tradingDate = r.fields.tradingDate
      ∧ r'.fields.sessionName = r.fields.sessionName ∧ r'.fields.phase = r.fields.phase
      ∧ r'.fields.schedule = r.fields.schedule := by
  obtain ⟨phase, hmem, hdate, hphase⟩ := c.matching_of_resolve variety marketTime asOf h
  obtain ⟨r', hr', hdate', hname', hphase', hschedule'⟩ := c'.resolve_of_matching variety marketTime
    asOf ((hsame.matchingSchedules _ _ _).mp hmem)
  exact ⟨r', hr', hdate'.trans hdate.symm, hname', hphase'.trans hphase.symm, hschedule'⟩

/-! ### A closure that is acquired later -/

namespace TradingCalendar

/-- A host that prints every character, at the offset of Shanghai. -/
def shanghaiHost : CalendarHost := ⟨fun _ => true, fun _ => "+08:00"⟩

/-- The third of September 2026. -/
def sampleDate : Date := .of 2026 9 3 (Eq.refl true)

/-- A time of that day. -/
def sampleTime (hour : Fin 24) : ShanghaiTimestamp := ⟨sampleDate, hour, 0, 0, 0, 0⟩

/-- What was acquired from the exchange at an hour of that day. -/
def sampleProvenance (hour : Fin 24) : ReferenceProvenance :=
  ⟨⟨"exchange", ⟨sampleDate, hour, 0, 0, 0⟩, none, none⟩, rfl⟩

/-- Rebar of the Shanghai exchange. -/
def rebar : Variety := .rebar

/-- The morning phase. -/
def morningPhase : SessionPhaseOccurrence :=
  ⟨⟨.CONTINUOUS, sampleTime 9, sampleTime 11⟩, by decide⟩

/-- A day of one session, acquired at one o'clock. -/
def morning : TradingDaySchedule :=
  ⟨{ exchange := .SHFE, variety := rebar, tradingDate := ⟨sampleDate⟩,
     sessions := [⟨⟨"morning", [morningPhase]⟩, by decide⟩]
     eventTime := sampleTime 0, version := 1,
     provenance := sampleProvenance 1,
     revisionId := .epoch "trading_calendar_revision" 0 1 (Eq.refl true) }, by decide⟩

/-- A closure that supersedes it, acquired at three o'clock. -/
def lateClosure : CalendarClosure :=
  ⟨{ exchange := .SHFE, calendarDate := sampleDate, kind := .SPECIAL_CLOSURE,
     eventTime := sampleTime 0, version := 2, provenance := sampleProvenance 3,
     revisionId := .epoch "trading_calendar_revision" 0 2 (Eq.refl true),
     supersedes := [morning.fields.revisionId] }, by decide⟩

/-- A release of the day with some closures. -/
def sampleRelease (closures : List CalendarClosure) (digest : Text) : TradingCalendarFields where
  calendarId := .epoch "trading_calendar" 0 0 (Eq.refl true)
  releaseVersion := 1
  schedules := [morning]
  closures := closures
  referenceEvents := []
  expectedContentSha256 := digest

theorem exists_accepted [Hashlib] {f : TradingCalendarFields}
    (hid : f.calendarId.nspace = "trading_calendar") (hversion : 1 ≤ f.releaseVersion)
    (hschedules : f.schedules ≠ [])
    (hoverlaps : rejectOverlaps f.schedules f.closures f.referenceEvents = .ok ())
    (hwritable : (tradingCalendarContent shanghaiHost f.schedules f.closures
      f.referenceEvents).isWritable = true) :
    ∃ c : TradingCalendar shanghaiHost, ∃ digest,
      c.fields = { f with expectedContentSha256 := digest } := by
  obtain ⟨digest, hdigest, -⟩ := exists_canonicalSha256_of_isWritable hwritable
  refine ⟨⟨{ f with expectedContentSha256 := digest }, ?_⟩, digest, rfl⟩
  simp only [TradingCalendarFields.postInit, check_bind_eq_ok, require_eq_ok, requireVersion]
  refine ⟨hid, hversion, hschedules, hoverlaps, ?_⟩
  rw [show tradingCalendarContentSha256 shanghaiHost f.schedules f.closures f.referenceEvents
    = .ok digest from hdigest]
  exact require_eq_ok.mpr rfl

theorem exists_release [Hashlib] (closures : List CalendarClosure)
    (hoverlaps : rejectOverlaps [morning] closures [] = .ok ())
    (hwritable : (tradingCalendarContent shanghaiHost [morning] closures []).isWritable = true) :
    ∃ c : TradingCalendar shanghaiHost, ∃ digest, c.fields = sampleRelease closures digest :=
  exists_accepted (f := sampleRelease closures []) rfl (le_refl 1) (List.cons_ne_nil _ _) hoverlaps
    hwritable

/-- At two o'clock the release with the closure answers as the one without it. -/
theorem resolve_noninterference_closure :
    ∃ c c' : TradingCalendar shanghaiHost, c.fields.closures = []
      ∧ c'.fields.closures = [lateClosure]
      ∧ ∃ r, c.resolve rebar (sampleTime 10) ⟨sampleDate, 2, 0, 0, 0⟩ = .ok (.resolution r)
        ∧ ∃ r', c'.resolve rebar (sampleTime 10) ⟨sampleDate, 2, 0, 0, 0⟩ = .ok (.resolution r')
        ∧ r'.fields.tradingDate = r.fields.tradingDate
        ∧ r'.fields.sessionName = r.fields.sessionName ∧ r'.fields.phase = r.fields.phase
        ∧ r'.fields.schedule = r.fields.schedule := by
  obtain ⟨c, digest, hc⟩ := exists_release [] (by decide) (by decide +kernel)
  obtain ⟨c', digest', hc'⟩ := exists_release [lateClosure] (by decide +kernel) (by decide +kernel)
  have hmatching : (morning, Text.ofString "morning", morningPhase)
      ∈ c.fields.matchingSchedules rebar (sampleTime 10) ⟨sampleDate, 2, 0, 0, 0⟩ := by
    rw [hc]
    exact (by decide +kernel : (morning, Text.ofString "morning", morningPhase)
      ∈ (sampleRelease [] []).matchingSchedules
      rebar (sampleTime 10) ⟨sampleDate, 2, 0, 0, 0⟩)
  obtain ⟨r, hr, -⟩ := c.resolve_of_matching rebar (sampleTime 10)
    ⟨sampleDate, 2, 0, 0, 0⟩ hmatching
  refine ⟨c, c', by rw [hc]; rfl, by rw [hc']; rfl, r, hr, ?_⟩
  refine c.resolve_noninterference c' rebar (sampleTime 10) ⟨sampleDate, 2, 0, 0, 0⟩ ?_ r hr
  rw [hc, hc']
  refine ⟨fun s _ => Iff.rfl, fun closure hvisible => ?_⟩
  -- the closure is not visible yet
  refine iff_of_false List.not_mem_nil fun hmem => ?_
  rw [List.mem_singleton.mp hmem] at hvisible
  exact absurd hvisible (by decide)

end TradingCalendar

end FuturesAgentOs
