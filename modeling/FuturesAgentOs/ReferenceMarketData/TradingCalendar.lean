import FuturesAgentOs.SharedKernel.Contracts
import FuturesAgentOs.SharedKernel.Ids
import FuturesAgentOs.SharedKernel.MarketTime
import FuturesAgentOs.SharedKernel.Observability

namespace FuturesAgentOs

open PyModel

/-!
# Reference identifiers

`reference_market_data/instrument_registry.py`: exchanges, varieties, and where a reference fact
comes from.
-/

inductive Exchange where
  | SHFE
  | DCE
  | CZCE
  | CFFEX
  | INE
  deriving DecidableEq

def Exchange.value : Exchange → Text
  | SHFE => "SHFE"
  | DCE => "DCE"
  | CZCE => "CZCE"
  | CFFEX => "CFFEX"
  | INE => "INE"

/-! ### Where a fact comes from -/

structure ReferenceProvenanceFields where
  sourceRef : Text
  acquiredAt : RecordedAt
  sourcePublishedAt : Option RecordedAt := none
  sourceRevision : Option Text := none
  deriving DecidableEq

def ReferenceProvenanceFields.postInit (f : ReferenceProvenanceFields) : Py Unit := do
  require (f.sourceRef.strip ≠ []) (valueError "reference provenance requires source_ref")
  whenSome f.sourceRevision (fun revision => require (revision.strip ≠ [])
    (valueError "reference provenance source_revision must be non-empty text when supplied"))
  whenSome f.sourcePublishedAt (fun published => require (published ≤ f.acquiredAt)
    (valueError "reference source_published_at cannot follow acquired_at"))

instance : Dataclass ReferenceProvenanceFields := ⟨ReferenceProvenanceFields.postInit⟩

/-- The source and the visibility time of a reference fact. -/
abbrev ReferenceProvenance := Frozen ReferenceProvenanceFields

def ReferenceProvenance.isVisibleAt (p : ReferenceProvenance) (asOf : RecordedAt) : Bool :=
  p.fields.acquiredAt ≤ asOf

/-! ### Varieties -/

/-- A character of `_CODE`, `[A-Z]`. -/
def isUpper (c : CodePoint) : Bool := 65 ≤ c.val && c.val ≤ 90

/-- A later character of `_CODE`, `[A-Z0-9_]`. -/
def isUpperSnake (c : CodePoint) : Bool := isUpper c || (48 ≤ c.val && c.val ≤ 57) || c.val == 95

/-- `_CODE.fullmatch(value)` -/
def matchesCode : Text → Bool
  | [] => false
  | c :: rest => isUpper c && rest.all isUpperSnake && rest.length ≤ 31

def requireCode (value label : Text) : Py Unit :=
  require (matchesCode value)
    (valueError (label ++ Text.ofString " must be canonical uppercase text"))

structure VarietyFields where
  exchange : Exchange
  code : Text
  name : Text
  deriving DecidableEq

def VarietyFields.postInit (f : VarietyFields) : Py Unit := do
  requireCode f.code "variety code"
  require (f.name.strip ≠ []) (valueError "variety requires name")

instance : Dataclass VarietyFields := ⟨VarietyFields.postInit⟩

/-- A product family of an exchange. -/
abbrev Variety := Frozen VarietyFields

/-- Steel rebar. -/
def Variety.rebar : Variety := ⟨⟨.SHFE, "RB", "rebar"⟩, by decide⟩

def Variety.referenceId (v : Variety) : Text :=
  v.fields.exchange.value ++ Text.ofChar '.' :: v.fields.code

/-!
## The trading calendar

`reference_market_data/trading_calendar.py`: schedules and closures that supersede one another, an
immutable release of them, and the resolution of a market time at a point in time.

* `TradingCalendar.resolve` — the resolution.

What the interpreter and the time zone add, `CalendarHost`, decides the digest of a release only.
-/

/-- Which characters `repr` prints, and the UTC offset of `Asia/Shanghai` at a local time as
`isoformat` writes it. -/
structure CalendarHost where
  isPrintable : CodePoint → Bool
  offsetText : ShanghaiTimestamp → Text

/-! ### Kinds -/

inductive SessionPhase where
  | CALL_AUCTION
  | CONTINUOUS
  | BREAK
  deriving DecidableEq

def SessionPhase.value : SessionPhase → Text
  | CALL_AUCTION => "CALL_AUCTION"
  | CONTINUOUS => "CONTINUOUS"
  | BREAK => "BREAK"

inductive ClosureKind where
  | HOLIDAY
  | SPECIAL_CLOSURE
  deriving DecidableEq

def ClosureKind.value : ClosureKind → Text
  | HOLIDAY => "HOLIDAY"
  | SPECIAL_CLOSURE => "SPECIAL_CLOSURE"

inductive CalendarReferenceEventKind where
  | DOMINANT_CONTRACT_SWITCH
  | NEAR_DELIVERY_WINDOW
  | CONTRACT_RULE_ADJUSTMENT
  deriving DecidableEq

def CalendarReferenceEventKind.value : CalendarReferenceEventKind → Text
  | DOMINANT_CONTRACT_SWITCH => "DOMINANT_CONTRACT_SWITCH"
  | NEAR_DELIVERY_WINDOW => "NEAR_DELIVERY_WINDOW"
  | CONTRACT_RULE_ADJUSTMENT => "CONTRACT_RULE_ADJUSTMENT"

/-! ### Checks of the facts -/

def requireVersion (value : ℤ) (field : Text) : Py Unit :=
  require (1 ≤ value) (valueError (field ++ Text.ofString " must be a positive integer"))

def requireReference (value field : Text) : Py Unit :=
  require value.IsStripped
    (valueError (field ++ Text.ofString " must be canonical non-whitespace text"))

def requireDigest (value field : Text) : Py Unit :=
  require value.IsHexDigest
    (valueError (field ++ Text.ofString " must be a lowercase SHA-256 digest"))

/-- The namespace of revisions. -/
def revisionNamespace : Text := "trading_calendar_revision"

/-- `_normalized_supersedes`, of which the ids are kept as they are. -/
def checkSupersedes (revisionId : EntityId) (supersedes : List EntityId) : Py Unit := do
  require (revisionId.nspace = revisionNamespace)
    (valueError "calendar fact requires a trading_calendar_revision id")
  require (∀ predecessor ∈ supersedes, predecessor.nspace = revisionNamespace)
    (valueError "calendar supersedes requires trading_calendar_revision ids")
  require (revisionId ∉ supersedes ∧ supersedes.Nodup)
    (valueError "calendar supersedes must be unique and cannot include its own revision")

/-! ### Phases and sessions -/

structure SessionPhaseOccurrenceFields where
  phase : SessionPhase
  startsAt : ShanghaiTimestamp
  endsAt : ShanghaiTimestamp
  deriving DecidableEq

def SessionPhaseOccurrenceFields.postInit (f : SessionPhaseOccurrenceFields) : Py Unit :=
  require (f.startsAt < f.endsAt) (valueError "session phase occurrence must be non-empty")

instance : Dataclass SessionPhaseOccurrenceFields := ⟨SessionPhaseOccurrenceFields.postInit⟩

/-- One half-open phase. -/
abbrev SessionPhaseOccurrence := Frozen SessionPhaseOccurrenceFields

namespace SessionPhaseOccurrence

variable (p : SessionPhaseOccurrence)

def contains (marketTime : ShanghaiTimestamp) : Bool :=
  p.fields.startsAt ≤ marketTime && marketTime < p.fields.endsAt

def touchesCalendarDate (calendarDate : Date) : Bool :=
  p.fields.startsAt.date ≤ calendarDate && calendarDate ≤ p.fields.endsAt.dateBefore

end SessionPhaseOccurrence

/-- `sorted(phases, key=lambda phase: phase.starts_at.value)` -/
def sortedByStart (phases : List SessionPhaseOccurrence) : List SessionPhaseOccurrence :=
  phases.insertionSort (fun left right => left.fields.startsAt ≤ right.fields.startsAt)

/-- No phase starts before the one in front of it has ended. -/
def noneOverlap (phases : List SessionPhaseOccurrence) : Bool :=
  (phases.zip phases.tail).all (fun (left, right) => left.fields.endsAt ≤ right.fields.startsAt)

structure TradingSessionOccurrenceFields where
  name : Text
  phases : List SessionPhaseOccurrence
  deriving DecidableEq

def TradingSessionOccurrenceFields.postInit (f : TradingSessionOccurrenceFields) : Py Unit := do
  requireReference f.name "trading session name"
  require (f.phases ≠ [])
    (typeError "trading session occurrence requires non-empty SessionPhaseOccurrence values")
  require (sortedByStart f.phases = f.phases)
    (valueError "trading session phase occurrences must be chronologically ordered")
  require (noneOverlap f.phases) (valueError "trading session phase occurrences cannot overlap")

instance : Dataclass TradingSessionOccurrenceFields := ⟨TradingSessionOccurrenceFields.postInit⟩

/-- The ordered phases of one named session. -/
abbrev TradingSessionOccurrence := Frozen TradingSessionOccurrenceFields

/-! ### Schedules -/

structure TradingDayScheduleFields where
  exchange : Exchange
  variety : Variety
  tradingDate : TradingDate
  sessions : List TradingSessionOccurrence
  eventTime : ShanghaiTimestamp
  version : ℤ
  provenance : ReferenceProvenance
  revisionId : EntityId
  adjustmentRef : Option Text := none
  supersedes : List EntityId := []
  deriving DecidableEq

/-- `tuple(phase for session in sessions for phase in session.phases)` -/
def TradingDayScheduleFields.phases (f : TradingDayScheduleFields) : List SessionPhaseOccurrence :=
  f.sessions.flatMap (·.fields.phases)

def TradingDayScheduleFields.postInit (f : TradingDayScheduleFields) : Py Unit := do
  require (f.variety.fields.exchange = f.exchange)
    (valueError "trading day schedule exchange must match exact Variety scope")
  require (f.sessions ≠ [])
    (typeError "trading day schedule requires non-empty TradingSessionOccurrence values")
  require ((f.sessions.map (·.fields.name)).Nodup)
    (valueError "trading day schedule session names must be unique")
  checkSupersedes f.revisionId f.supersedes
  requireVersion f.version "version"
  whenSome f.adjustmentRef (fun ref => requireReference ref "adjustment_ref")
  require (noneOverlap (sortedByStart f.phases))
    (valueError "trading day schedule phases cannot overlap")

instance : Dataclass TradingDayScheduleFields := ⟨TradingDayScheduleFields.postInit⟩

/-- The sessions of one trading date of one variety. -/
abbrev TradingDaySchedule := Frozen TradingDayScheduleFields

namespace TradingDaySchedule

variable (s : TradingDaySchedule)

def matchingPhase (marketTime : ShanghaiTimestamp) : Option (Text × SessionPhaseOccurrence) :=
  s.fields.sessions.findSome? (fun session =>
    (session.fields.phases.find? (·.contains marketTime)).map (fun phase =>
      (session.fields.name, phase)))

def touchesCalendarDate (calendarDate : Date) : Bool :=
  s.fields.phases.any (·.touchesCalendarDate calendarDate)

end TradingDaySchedule

/-! ### Closures and events -/

structure CalendarClosureFields where
  exchange : Exchange
  calendarDate : Date
  kind : ClosureKind
  eventTime : ShanghaiTimestamp
  version : ℤ
  provenance : ReferenceProvenance
  revisionId : EntityId
  supersedes : List EntityId := []
  deriving DecidableEq

def CalendarClosureFields.postInit (f : CalendarClosureFields) : Py Unit := do
  checkSupersedes f.revisionId f.supersedes
  requireVersion f.version "version"

instance : Dataclass CalendarClosureFields := ⟨CalendarClosureFields.postInit⟩

/-- A closure of one calendar date. -/
abbrev CalendarClosure := Frozen CalendarClosureFields

def CalendarClosure.appliesTo (c : CalendarClosure) (marketTime : ShanghaiTimestamp) : Bool :=
  marketTime.date = c.fields.calendarDate

structure CalendarReferenceEventFields where
  exchange : Exchange
  tradingDate : TradingDate
  kind : CalendarReferenceEventKind
  referenceRef : Text
  eventTime : ShanghaiTimestamp
  version : ℤ
  provenance : ReferenceProvenance
  deriving DecidableEq

def CalendarReferenceEventFields.postInit (f : CalendarReferenceEventFields) : Py Unit := do
  requireReference f.referenceRef "reference_ref"
  requireVersion f.version "version"

instance : Dataclass CalendarReferenceEventFields := ⟨CalendarReferenceEventFields.postInit⟩

/-- A dated pointer to a fact of another owner. -/
abbrev CalendarReferenceEvent := Frozen CalendarReferenceEventFields

/-! ### What a release may contain -/

/-- A fact that has revisions. -/
inductive CalendarFact where
  | schedule (s : TradingDaySchedule)
  | closure (c : CalendarClosure)

namespace CalendarFact

def revisionId : CalendarFact → EntityId
  | schedule s => s.fields.revisionId
  | closure c => c.fields.revisionId

def supersedes : CalendarFact → List EntityId
  | schedule s => s.fields.supersedes
  | closure c => c.fields.supersedes

def exchange : CalendarFact → Exchange
  | schedule s => s.fields.exchange
  | closure c => c.fields.exchange

def version : CalendarFact → ℤ
  | schedule s => s.fields.version
  | closure c => c.fields.version

def provenance : CalendarFact → ReferenceProvenance
  | schedule s => s.fields.provenance
  | closure c => c.fields.provenance

def directlySupersedes (left right : CalendarFact) : Bool :=
  left.revisionId ∈ right.supersedes || right.revisionId ∈ left.supersedes

end CalendarFact

def scheduleCalendarDates (s : TradingDaySchedule) : List Date :=
  s.fields.phases.flatMap (fun phase =>
    [phase.fields.startsAt.date, phase.fields.endsAt.dateBefore])

def scheduleScopesTouch (left right : TradingDaySchedule) : Bool :=
  left.fields.phases.any (fun leftPhase => right.fields.phases.any (fun rightPhase =>
    leftPhase.fields.startsAt ≤ rightPhase.fields.endsAt
      && rightPhase.fields.startsAt ≤ leftPhase.fields.endsAt))

/-- The scopes of a fact and of one that it supersedes. -/
def checkScopes : CalendarFact → CalendarFact → Py Unit
  | .schedule successor, .schedule predecessor => do
    require (successor.fields.variety = predecessor.fields.variety)
      (valueError "trading day schedule supersedes cannot cross exact Variety scopes")
    require (successor.fields.tradingDate = predecessor.fields.tradingDate
        ∧ scheduleScopesTouch successor predecessor = true)
      (valueError "trading day schedule supersedes must share a touching TradingDate scope")
  | .closure successor, .closure predecessor =>
    require (successor.fields.calendarDate = predecessor.fields.calendarDate)
      (valueError "calendar closure supersedes must share the same calendar date")
  | .closure successor, .schedule predecessor =>
    require (successor.fields.calendarDate ∈ scheduleCalendarDates predecessor)
      (valueError "calendar closure supersedes must share an affected calendar date")
  | .schedule successor, .closure predecessor =>
    require (predecessor.fields.calendarDate ∈ scheduleCalendarDates successor)
      (valueError "trading day schedule supersedes must share an affected calendar date")

/-- One fact and one that it supersedes. -/
def checkPredecessor (facts : List CalendarFact) (successor : CalendarFact)
    (predecessorId : EntityId) : Py Unit :=
  match facts.find? (fun fact => fact.revisionId = predecessorId) with
  | none =>
    .error (valueError "calendar supersedes must reference a fact in the same immutable release")
  | some predecessor => do
    require (predecessor.exchange = successor.exchange)
      (valueError "calendar supersedes cannot cross exchange namespaces")
    checkScopes successor predecessor
    require (predecessor.version < successor.version)
      (valueError "calendar successor version must exceed its predecessor version")
    require (predecessor.provenance.fields.acquiredAt < successor.provenance.fields.acquiredAt)
      (valueError "calendar successor must be acquired after its predecessor")

/-- `has_cycle`; a path that visits no revision twice is no longer than the facts are many. -/
def hasCycle (facts : List CalendarFact) : ℕ → List EntityId → EntityId → Bool
  | 0, _, _ => true
  | fuel + 1, visited, revisionId =>
    if revisionId ∈ visited then true
    else
      match facts.find? (fun fact => fact.revisionId = revisionId) with
      | none => false
      | some fact => fact.supersedes.any (hasCycle facts fuel (revisionId :: visited))

/-- The occurrences of a release, each with its schedule. -/
def occurrences (schedules : List TradingDaySchedule) :
    List (TradingDaySchedule × SessionPhaseOccurrence) :=
  schedules.flatMap (fun schedule => schedule.fields.phases.map (fun phase => (schedule, phase)))

/-- Two occurrences of one variety at one time, of schedules that do not supersede one another. -/
def occurrencesCompete (left right : TradingDaySchedule × SessionPhaseOccurrence) : Bool :=
  decide (left.1.fields.variety = right.1.fields.variety)
    && decide (left.2.fields.startsAt < right.2.fields.endsAt)
    && decide (right.2.fields.startsAt < left.2.fields.endsAt)
    && !(CalendarFact.schedule left.1).directlySupersedes (.schedule right.1)

/-- Two closures of one exchange on one date that do not supersede one another. -/
def closuresCompete (left right : CalendarClosure) : Bool :=
  decide (left.fields.exchange = right.fields.exchange)
    && decide (left.fields.calendarDate = right.fields.calendarDate)
    && !(CalendarFact.closure left).directlySupersedes (.closure right)

/-- A closure and an occurrence on its date, of a schedule that neither supersedes nor is
superseded. -/
def closureOverlaps (closure : CalendarClosure)
    (occurrence : TradingDaySchedule × SessionPhaseOccurrence) : Bool :=
  decide (occurrence.1.fields.exchange = closure.fields.exchange)
    && occurrence.2.touchesCalendarDate closure.fields.calendarDate
    && !(CalendarFact.closure closure).directlySupersedes (.schedule occurrence.1)

/-- The key of a reference event. -/
def CalendarReferenceEvent.key (event : CalendarReferenceEvent) :
    Exchange × TradingDate × CalendarReferenceEventKind :=
  (event.fields.exchange, event.fields.tradingDate, event.fields.kind)

def rejectOverlaps (schedules : List TradingDaySchedule) (closures : List CalendarClosure)
    (events : List CalendarReferenceEvent) : Py Unit := do
  let facts := schedules.map CalendarFact.schedule ++ closures.map CalendarFact.closure
  require ((facts.map (·.revisionId)).Nodup)
    (valueError "trading calendar revision ids must be unique")
  facts.forM (fun successor => successor.supersedes.forM (checkPredecessor facts successor))
  require (facts.all (fun fact => !hasCycle facts (facts.length + 1) [] fact.revisionId) = true)
    (valueError "calendar supersedes cannot contain a cycle")
  require ((occurrences schedules).Pairwise
    (fun left right => occurrencesCompete left right = false))
    (valueError "trading calendar cannot publish overlapping exact-Variety phase occurrences")
  require (closures.Pairwise (fun left right => closuresCompete left right = false))
    (valueError "trading calendar cannot publish competing closures without explicit supersession")
  require ((events.map (·.key)).Nodup)
    (valueError "trading calendar cannot publish duplicate reference event kinds")
  require (∀ closure ∈ closures, ∀ occurrence ∈ occurrences schedules,
      closureOverlaps closure occurrence = false)
    (valueError "calendar closure requires explicit supersession of every overlapping schedule")

/-! ### The digest of a release -/

section

variable (host : CalendarHost)

def phasePayload (p : SessionPhaseOccurrence) : Json := .obj [
  ("phase", .str p.fields.phase.value),
  ("starts_at", .str (p.fields.startsAt.text host.offsetText)),
  ("ends_at", .str (p.fields.endsAt.text host.offsetText))]

/-- A text that may be `None`. -/
def textOrNone : Option Text → Json
  | some t => .str t
  | none => .null

def provenancePayload (p : ReferenceProvenance) : Json := .obj [
  ("source_ref", .str p.fields.sourceRef),
  ("acquired_at", .str p.fields.acquiredAt.text),
  ("source_published_at", textOrNone (p.fields.sourcePublishedAt.map RecordedAt.text)),
  ("source_revision", textOrNone p.fields.sourceRevision)]

def schedulePayload (s : TradingDaySchedule) : Json := .obj [
  ("exchange", .str s.fields.exchange.value),
  ("variety", .str s.fields.variety.referenceId),
  ("trading_date", .str s.fields.tradingDate.value.isoformat),
  ("sessions", .arr (s.fields.sessions.map (fun session => .obj [
    ("name", .str session.fields.name),
    ("phases", .arr (session.fields.phases.map (phasePayload host)))]))),
  ("event_time", .str (s.fields.eventTime.text host.offsetText)),
  ("version", .int s.fields.version),
  ("provenance", provenancePayload s.fields.provenance),
  ("revision_id", .str s.fields.revisionId.str),
  ("adjustment_ref", textOrNone s.fields.adjustmentRef),
  ("supersedes", .arr (s.fields.supersedes.map (fun predecessor => .str predecessor.str)))]

def closurePayload (c : CalendarClosure) : Json := .obj [
  ("exchange", .str c.fields.exchange.value),
  ("calendar_date", .str c.fields.calendarDate.isoformat),
  ("kind", .str c.fields.kind.value),
  ("event_time", .str (c.fields.eventTime.text host.offsetText)),
  ("version", .int c.fields.version),
  ("provenance", provenancePayload c.fields.provenance),
  ("revision_id", .str c.fields.revisionId.str),
  ("supersedes", .arr (c.fields.supersedes.map (fun predecessor => .str predecessor.str)))]

def eventPayload (event : CalendarReferenceEvent) : Json := .obj [
  ("exchange", .str event.fields.exchange.value),
  ("trading_date", .str event.fields.tradingDate.value.isoformat),
  ("kind", .str event.fields.kind.value),
  ("reference_ref", .str event.fields.referenceRef),
  ("event_time", .str (event.fields.eventTime.text host.offsetText)),
  ("version", .int event.fields.version),
  ("provenance", provenancePayload event.fields.provenance)]

/-- `tuple(sorted(payloads, key=repr))` -/
def sortedByRepr (payloads : List Json) : List Json :=
  payloads.insertionSort (fun left right =>
    Text.le (Json.frozenRepr host.isPrintable left) (Json.frozenRepr host.isPrintable right) = true)

/-- The `payload` of a release. -/
def tradingCalendarContent (schedules : List TradingDaySchedule) (closures : List CalendarClosure)
    (events : List CalendarReferenceEvent) : Json := .obj [
  ("schedules", .arr (sortedByRepr host (schedules.map (schedulePayload host)))),
  ("closures", .arr (sortedByRepr host (closures.map (closurePayload host)))),
  ("reference_events", .arr (sortedByRepr host (events.map (eventPayload host))))]

/-- `trading_calendar_content_sha256`.  An integer that is too long for `repr` is too long for the
digest as well, with another message. -/
def tradingCalendarContentSha256 [Hashlib] (schedules : List TradingDaySchedule)
    (closures : List CalendarClosure) (events : List CalendarReferenceEvent) : Py Text :=
  canonicalSha256 (tradingCalendarContent host schedules closures events)

end

/-! ### Releases -/

structure TradingCalendarRefFields where
  calendarId : EntityId
  releaseVersion : ℤ
  contentSha256 : Text
  deriving DecidableEq

def TradingCalendarRefFields.postInit (f : TradingCalendarRefFields) : Py Unit := do
  require (f.calendarId.nspace = "trading_calendar")
    (valueError "trading calendar ref requires a trading_calendar id")
  requireVersion f.releaseVersion "release_version"
  requireDigest f.contentSha256 "content_sha256"

instance : Dataclass TradingCalendarRefFields := ⟨TradingCalendarRefFields.postInit⟩

/-- The identity of a release. -/
abbrev TradingCalendarRef := Frozen TradingCalendarRefFields

structure TradingCalendarFields where
  calendarId : EntityId
  releaseVersion : ℤ
  schedules : List TradingDaySchedule
  closures : List CalendarClosure
  referenceEvents : List CalendarReferenceEvent
  expectedContentSha256 : Text

def TradingCalendarFields.postInit [Hashlib] (host : CalendarHost) (f : TradingCalendarFields) :
    Py Unit := do
  require (f.calendarId.nspace = "trading_calendar")
    (valueError "trading calendar requires a trading_calendar id")
  requireVersion f.releaseVersion "release_version"
  require (f.schedules ≠ []) (valueError "trading calendar requires explicit trading day schedules")
  rejectOverlaps f.schedules f.closures f.referenceEvents
  let actual ← tradingCalendarContentSha256 host f.schedules f.closures f.referenceEvents
  require (f.expectedContentSha256 = actual)
    (valueError "trading calendar expected_content_sha256 does not match contents")

/-- A release that was accepted. -/
structure TradingCalendar [Hashlib] (host : CalendarHost) where
  fields : TradingCalendarFields
  valid : fields.postInit host = .ok ()

/-! ### Resolution -/

structure TradingDateResolutionFields where
  exchange : Exchange
  tradingDate : TradingDate
  marketTime : ShanghaiTimestamp
  asOf : RecordedAt
  sessionName : Text
  phase : SessionPhase
  schedule : TradingDaySchedule
  calendarRef : TradingCalendarRef
  deriving DecidableEq

def TradingDateResolutionFields.postInit (f : TradingDateResolutionFields) : Py Unit := do
  require (f.exchange = f.schedule.fields.exchange ∧ f.tradingDate = f.schedule.fields.tradingDate)
    (valueError "trading date resolution must agree with its schedule scope")
  require ((f.schedule.matchingPhase f.marketTime).map
      (fun (name, occurrence) => (name, occurrence.fields.phase)) = some (f.sessionName, f.phase))
    (valueError "trading date resolution market_time must match its declared schedule phase")

instance : Dataclass TradingDateResolutionFields := ⟨TradingDateResolutionFields.postInit⟩

/-- One visible attribution of a market time. -/
abbrev TradingDateResolution := Frozen TradingDateResolutionFields

inductive TradingDateOutcome where
  | resolution (r : TradingDateResolution)
  | failure (f : Failure)
  deriving DecidableEq

/-- The facts among the visible ones that no visible one supersedes. -/
def unsuperseded {α : Type} (revisionId : α → EntityId) (supersedes : α → List EntityId)
    (visible : List α) : List α :=
  visible.filter (fun fact =>
    !visible.any (fun successor => revisionId fact ∈ supersedes successor))

namespace TradingCalendarFields

variable (f : TradingCalendarFields) (variety : Variety) (marketTime : ShanghaiTimestamp)
  (asOf : RecordedAt)

def scopedSchedules : List TradingDaySchedule :=
  f.schedules.filter (·.fields.variety = variety)

def scopedClosures : List CalendarClosure :=
  f.closures.filter (fun closure =>
    closure.fields.exchange = variety.fields.exchange && closure.appliesTo marketTime)

def visibleSchedules : List TradingDaySchedule :=
  (f.scopedSchedules variety).filter (·.fields.provenance.isVisibleAt asOf)

def visibleClosures : List CalendarClosure :=
  (f.scopedClosures variety marketTime).filter (·.fields.provenance.isVisibleAt asOf)

def baseSchedules : List TradingDaySchedule :=
  unsuperseded (·.fields.revisionId) (·.fields.supersedes) (f.visibleSchedules variety asOf)

def baseClosures : List CalendarClosure :=
  unsuperseded (·.fields.revisionId) (·.fields.supersedes)
    (f.visibleClosures variety marketTime asOf)

def activeClosures : List CalendarClosure :=
  (f.baseClosures variety marketTime asOf).filter (fun closure =>
    !(f.baseSchedules variety asOf).any (fun schedule =>
      closure.fields.revisionId ∈ schedule.fields.supersedes
        && (schedule.matchingPhase marketTime).isSome))

def activeSchedules : List TradingDaySchedule :=
  (f.baseSchedules variety asOf).filter (fun schedule =>
    !(f.activeClosures variety marketTime asOf).any (fun closure =>
      schedule.fields.revisionId ∈ closure.fields.supersedes))

/-- `matches` -/
def matchingSchedules : List (TradingDaySchedule × Text × SessionPhaseOccurrence) :=
  (f.activeSchedules variety marketTime asOf).filterMap (fun schedule =>
    (schedule.matchingPhase marketTime).map (fun matching => (schedule, matching)))

/-- The conflict of phases. -/
def phaseConflict : Failure :=
  ⟨.CALENDAR_CONFLICT, some "multiple visible calendar phases apply to market_time"⟩

/-- The conflict of closures. -/
def closureConflict : Failure :=
  ⟨.CALENDAR_CONFLICT, some "multiple visible calendar closures apply to market_time"⟩

def ref : Py TradingCalendarRef :=
  Frozen.make ⟨f.calendarId, f.releaseVersion, f.expectedContentSha256⟩

/-- What is answered when no phase and no closure applies. -/
def unmatched : Failure :=
  let scopedSchedules := f.scopedSchedules variety
  let scopedClosures := f.scopedClosures variety marketTime
  let visibleSchedules := f.visibleSchedules variety asOf
  let visibleClosures := f.visibleClosures variety marketTime asOf
  let activeSchedules := f.activeSchedules variety marketTime asOf
  let rawMatches := scopedSchedules.filter (fun schedule =>
    (schedule.matchingPhase marketTime).isSome)
  let represented := activeSchedules.filter (·.touchesCalendarDate marketTime.date)
  let rawRepresented := scopedSchedules.filter (·.touchesCalendarDate marketTime.date)
  if rawMatches ≠ [] ∧ visibleSchedules = [] then
    ⟨.REFERENCE_NOT_YET_VISIBLE, some "calendar session was not acquired at as_of"⟩
  else if rawMatches ≠ [] ∧ visibleSchedules ≠ [] ∧ activeSchedules = [] then
    ⟨.CALENDAR_CONFLICT, some "no unique active calendar phase applies to market_time"⟩
  else if scopedClosures ≠ [] ∧ visibleClosures = [] ∧ activeSchedules = [] then
    ⟨.REFERENCE_NOT_YET_VISIBLE, some "calendar closure was not acquired at as_of"⟩
  else if represented ≠ [] then
    ⟨.CALENDAR_CLOSED, some "market_time is outside explicit exchange session phases"⟩
  else if rawRepresented ≠ [] ∧ visibleSchedules = [] then
    ⟨.REFERENCE_NOT_YET_VISIBLE, some "calendar session was not acquired at as_of"⟩
  else if rawRepresented ≠ [] ∧ visibleSchedules ≠ [] ∧ activeSchedules = [] then
    ⟨.CALENDAR_CONFLICT, some "no unique active calendar phase applies to market_time"⟩
  else ⟨.CALENDAR_MISSING, some "no explicit calendar fact applies to market_time"⟩

def resolve : Py TradingDateOutcome :=
  let activeClosures := f.activeClosures variety marketTime asOf
  match f.matchingSchedules variety marketTime asOf with
  | _ :: _ :: _ => .ok (.failure phaseConflict)
  | [(schedule, sessionName, occurrence)] =>
    if activeClosures ≠ [] then .ok (.failure phaseConflict)
    else do
      let calendarRef ← f.ref
      let resolution ← Frozen.make (TradingDateResolutionFields.mk variety.fields.exchange
        schedule.fields.tradingDate marketTime asOf sessionName occurrence.fields.phase schedule
        calendarRef)
      .ok (.resolution resolution)
  | [] =>
    match activeClosures with
    | _ :: _ :: _ => .ok (.failure closureConflict)
    | [_] =>
      .ok (.failure ⟨.CALENDAR_CLOSED, some "exchange is closed by an explicit calendar closure"⟩)
    | [] => .ok (.failure (f.unmatched variety marketTime asOf))

end TradingCalendarFields

end FuturesAgentOs
