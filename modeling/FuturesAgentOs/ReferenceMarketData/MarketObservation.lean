import FuturesAgentOs.ReferenceMarketData.AliasRegistry
import FuturesAgentOs.SharedKernel.Values

namespace FuturesAgentOs

open PyModel

/-!
# Market observations

`reference_market_data/market_snapshots.py`: one fact of a source, with the time of the event and
the times at which the system could use it.  A correction is an observation of the next revision
that supersedes its predecessor.

* `MarketObservation.naturalKey` — what a correction has to preserve.

The dataset record and the schema version of an observation are left out.
-/

/-! ### Kinds -/

inductive ObservationKind where
  | QUOTE
  | BAR
  | TRADE
  | SETTLEMENT
  | OPEN_INTEREST
  deriving DecidableEq

def ObservationKind.value : ObservationKind → Text
  | QUOTE => "QUOTE"
  | BAR => "BAR"
  | TRADE => "TRADE"
  | SETTLEMENT => "SETTLEMENT"
  | OPEN_INTEREST => "OPEN_INTEREST"

inductive SourceTrust where
  | PRIMARY
  | FALLBACK
  | TIMESTAMP_UNTRUSTED
  deriving DecidableEq

inductive BarStatus where
  | FINAL
  | IN_PROGRESS
  | INCOMPLETE
  deriving DecidableEq

/-- The fields of a `BarInterval`, the duration in microseconds. -/
structure BarIntervalFields where
  label : Text
  duration : ℤ
  deriving DecidableEq

def BarIntervalFields.postInit (f : BarIntervalFields) : Py Unit := do
  require (f.label.strip ≠ [] ∧ f.label.length ≤ 32)
    (valueError "bar interval requires a stable non-empty label")
  require (60000000 ≤ f.duration) (valueError "bar interval duration must be at least one minute")
  require (f.duration % 1000000 = 0)
    (valueError "bar interval duration must use whole seconds")

instance : Dataclass BarIntervalFields := ⟨BarIntervalFields.postInit⟩

/-- A cadence of bars. -/
abbrev BarInterval := Frozen BarIntervalFields

inductive MarketReference where
  | instrument (i : Instrument)
  | continuous (s : ContinuousSeries)
  deriving DecidableEq

def MarketReference.referenceId : MarketReference → Text
  | instrument i => i.referenceId
  | continuous s => s.referenceId

/-! ### Observations -/

structure MarketObservationFields where
  observationId : EntityId
  reference : MarketReference
  kind : ObservationKind
  eventTime : RecordedAt
  availableTime : RecordedAt
  ingestedAt : RecordedAt
  source : ReferenceProvenance
  sourceTrust : SourceTrust
  sourceSequence : ℤ
  lastPrice : Option Price := none
  bidPrice : Option Price := none
  askPrice : Option Price := none
  bidSize : Option Quantity := none
  askSize : Option Quantity := none
  openPrice : Option Price := none
  highPrice : Option Price := none
  lowPrice : Option Price := none
  closePrice : Option Price := none
  volume : Option Quantity := none
  openInterest : Option Quantity := none
  barInterval : Option BarInterval := none
  barStatus : Option BarStatus := none
  componentInstrument : Option Instrument := none
  revision : ℤ := 1
  supersedesObservationId : Option EntityId := none
  deriving DecidableEq

namespace MarketObservationFields

variable (f : MarketObservationFields)

/-- The prices of an observation. -/
def prices : List Price :=
  [f.lastPrice, f.bidPrice, f.askPrice, f.openPrice, f.highPrice, f.lowPrice, f.closePrice].filterMap
    id

/-- The quantities of an observation. -/
def quantities : List Quantity :=
  [f.bidSize, f.askSize, f.volume, f.openInterest].filterMap id

/-- The currency, unit and scale of a price. -/
def priceUnit (p : Price) : Text × Text × ℤ := (p.fields.currency, p.fields.unit, p.fields.scale)

/-- The check of a quote with two sides. -/
def checkSpread : Py Unit :=
  match f.bidPrice, f.askPrice with
  | some bid, some ask =>
    require (bid.fields.amount ≤ ask.fields.amount)
      (valueError "market observation bid_price cannot exceed ask_price")
  | _, _ => .ok ()

/-- The check of a bar with all four prices. -/
def checkRange : Py Unit :=
  match f.openPrice, f.highPrice, f.lowPrice, f.closePrice with
  | some first, some high, some low, some last =>
    require (low.fields.amount ≤ Decimal.min' first.fields.amount last.fields.amount
        ∧ Decimal.max' first.fields.amount last.fields.amount ≤ high.fields.amount)
      (valueError "bar high/low must contain open and close")
  | _, _, _, _ => .ok ()

def validatePrices : Py Unit := do
  require (∀ p ∈ f.prices, f.prices.head?.map priceUnit = some (priceUnit p))
    (valueError "market observation prices must share currency, unit, and scale")
  f.checkSpread
  f.checkRange

def validateQuantities : Py Unit :=
  require (∀ q ∈ f.quantities, Decimal.ofNat 0 ≤ q.fields.amount)
    (valueError "market observation quantities must be non-negative")

/-- The checks on the component of a continuous series. -/
def checkComponent : Py Unit :=
  match f.reference with
  | .instrument _ =>
    require (f.componentInstrument = none)
      (valueError "Instrument observation cannot declare a continuous component_instrument")
  | .continuous s =>
    require (f.componentInstrument.map (·.fields.variety) = some s.fields.variety)
      (valueError
        "ContinuousSeries observation requires an explicit same-Variety component_instrument")

/-- The checks on the fields that a kind requires. -/
def checkKind : Py Unit := do
  if f.kind = .BAR then
    require (f.barInterval.isSome = true ∧ f.barStatus.isSome = true)
      (valueError "bar observation requires bar_interval and bar_status")
  else
    require (f.barInterval = none ∧ f.barStatus = none)
      (valueError "non-bar observation cannot declare bar fields")
  require (¬ (f.kind = .TRADE ∧ f.lastPrice = none))
    (valueError "trade observation requires last_price")
  require (¬ (f.kind = .SETTLEMENT ∧ f.lastPrice = none))
    (valueError "settlement observation requires last_price")
  require (¬ (f.kind = .OPEN_INTEREST ∧ f.openInterest = none))
    (valueError "open-interest observation requires open_interest")

/-- The checks on the revision. -/
def checkRevision : Py Unit := do
  require (1 ≤ f.revision) (valueError "market observation revision must be positive")
  require (¬ (f.revision = 1 ∧ f.supersedesObservationId ≠ none))
    (valueError "initial market observation revision cannot supersede another observation")
  if 1 < f.revision then
    require (f.supersedesObservationId.map (·.nspace) = some "market_observation")
      (valueError "revised market observation requires supersedes_observation_id")
    require (f.supersedesObservationId ≠ some f.observationId)
      (valueError "market observation cannot supersede itself")
  else .ok ()

def postInit : Py Unit := do
  require (f.observationId.nspace = "market_observation")
    (valueError "market observation requires a market_observation id")
  f.checkComponent
  require (f.eventTime ≤ f.availableTime ∧ f.availableTime ≤ f.ingestedAt)
    (valueError "market observation requires event_time <= available_time <= ingested_at")
  require (f.source.fields.acquiredAt ≤ f.availableTime)
    (valueError "market observation available_time cannot precede source acquisition")
  require (0 ≤ f.sourceSequence)
    (valueError "market observation source_sequence must be a non-negative integer")
  f.validatePrices
  f.validateQuantities
  f.checkKind
  f.checkRevision

end MarketObservationFields

instance : Dataclass MarketObservationFields := ⟨MarketObservationFields.postInit⟩

/-- One fact of a source. -/
abbrev MarketObservation := Frozen MarketObservationFields

/-- The components of a natural key. -/
structure NaturalKey where
  referenceId : Text
  kind : Text
  eventTime : Text
  sourceRef : Text
  intervalLabel : Option Text
  component : Option Text
  deriving DecidableEq

namespace MarketObservation

variable (o : MarketObservation)

def referenceId : Text := o.fields.reference.referenceId

/-- The label of the bar interval. -/
def intervalLabel : Option Text := o.fields.barInterval.map (·.fields.label)

def naturalKey : NaturalKey where
  referenceId := o.referenceId
  kind := o.fields.kind.value
  eventTime := o.fields.eventTime.text
  sourceRef := o.fields.source.fields.sourceRef
  intervalLabel := o.intervalLabel
  component := o.fields.componentInstrument.map Instrument.referenceId

theorem supersedes_eq_none_iff : o.fields.supersedesObservationId = none ↔ o.fields.revision = 1 := by
  have h : o.fields.postInit = .ok () := o.valid
  simp only [MarketObservationFields.postInit, MarketObservationFields.checkRevision,
    check_bind_eq_ok, require_eq_ok] at h
  obtain ⟨-, -, -, -, -, -, -, -, hpositive, hinitial, hrevised⟩ := h
  constructor
  · intro hnone
    by_contra hne
    rw [if_pos (lt_of_le_of_ne hpositive (Ne.symm hne)), hnone] at hrevised
    cases (of_require hrevised).1
  · intro hone
    by_contra hsome
    exact hinitial ⟨hone, hsome⟩

theorem one_le_revision : 1 ≤ o.fields.revision := by
  have h : o.fields.postInit = .ok () := o.valid
  simp only [MarketObservationFields.postInit, MarketObservationFields.checkRevision,
    check_bind_eq_ok, require_eq_ok] at h
  exact h.2.2.2.2.2.2.2.2.1

end MarketObservation

end FuturesAgentOs
