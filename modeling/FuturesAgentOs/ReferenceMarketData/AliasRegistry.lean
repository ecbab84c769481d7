import FuturesAgentOs.ReferenceMarketData.TradingCalendar

namespace FuturesAgentOs

open PyModel

/-!
# The instrument registry

`reference_market_data/instrument_registry.py`: an immutable release of aliases, each mapped to a
reference target over a half-open interval, and the resolution of an identifier at a point in time.

* `InstrumentRegistryFields.resolve`, `resolveTradeable` — the resolutions.

What the interpreter prints of a character, `CalendarHost`, decides the digest of a release only.
-/

/-! ### Intervals -/

structure EffectiveIntervalFields where
  effectiveFrom : RecordedAt
  effectiveUntil : Option RecordedAt := none
  deriving DecidableEq

def EffectiveIntervalFields.postInit (f : EffectiveIntervalFields) : Py Unit :=
  whenSome f.effectiveUntil (fun effectiveUntil => require (f.effectiveFrom < effectiveUntil)
    (valueError "effective interval must be non-empty"))

instance : Dataclass EffectiveIntervalFields := ⟨EffectiveIntervalFields.postInit⟩

/-- A half-open interval, open-ended where it has no end. -/
abbrev EffectiveInterval := Frozen EffectiveIntervalFields

namespace EffectiveInterval

variable (i : EffectiveInterval) (asOf : RecordedAt)

def contains : Bool :=
  i.fields.effectiveFrom ≤ asOf && i.fields.effectiveUntil.all (asOf < ·)

def expiredAt : Bool := i.fields.effectiveUntil.any (· ≤ asOf)

/-- `_intervals_overlap` -/
def overlaps (left right : EffectiveInterval) : Bool :=
  right.fields.effectiveUntil.all (left.fields.effectiveFrom < ·)
    && left.fields.effectiveUntil.all (right.fields.effectiveFrom < ·)

variable {i asOf} {left right : EffectiveInterval}

/-- **Two intervals with a common moment** overlap. -/
theorem overlaps_of_contains (hleft : left.contains asOf = true)
    (hright : right.contains asOf = true) : left.overlaps right = true := by
  rw [contains, Bool.and_eq_true, decide_eq_true_eq, Option.all_eq_true] at hleft hright
  have hends : ∀ {a b : EffectiveInterval}, a.fields.effectiveFrom ≤ asOf →
      (∀ u ∈ b.fields.effectiveUntil, decide (asOf < u) = true) →
        b.fields.effectiveUntil.all (a.fields.effectiveFrom < ·) = true := by
    intro a b hstart hend
    rw [Option.all_eq_true]
    intro u hu
    exact decide_eq_true (Nat.lt_of_le_of_lt hstart (of_decide_eq_true (hend u hu)))
  rw [overlaps, Bool.and_eq_true]
  exact ⟨hends hleft.1 hright.2, hends hright.1 hleft.2⟩

end EffectiveInterval

/-! ### What an alias stands for -/

/-- `ReferenceKind` of the market data -/
inductive MarketReferenceKind where
  | VARIETY
  | INSTRUMENT
  | DOMINANT_CONTRACT
  | CONTINUOUS_SERIES
  deriving DecidableEq

def MarketReferenceKind.value : MarketReferenceKind → Text
  | VARIETY => "VARIETY"
  | INSTRUMENT => "INSTRUMENT"
  | DOMINANT_CONTRACT => "DOMINANT_CONTRACT"
  | CONTINUOUS_SERIES => "CONTINUOUS_SERIES"

inductive ContinuousAdjustment where
  | UNADJUSTED
  | BACK_ADJUSTED
  | RATIO_ADJUSTED
  deriving DecidableEq

def ContinuousAdjustment.value : ContinuousAdjustment → Text
  | UNADJUSTED => "UNADJUSTED"
  | BACK_ADJUSTED => "BACK_ADJUSTED"
  | RATIO_ADJUSTED => "RATIO_ADJUSTED"

def deliveryLength : Exchange → ℕ
  | .CZCE => 3
  | .SHFE | .DCE | .CFFEX | .INE => 4

structure InstrumentFields where
  variety : Variety
  deliveryCode : Text
  deriving DecidableEq

def InstrumentFields.postInit (f : InstrumentFields) : Py Unit :=
  require (f.deliveryCode.all isDigit = true
      ∧ f.deliveryCode.length = deliveryLength f.variety.fields.exchange)
    (valueError "delivery_code length must match the V1 exchange-specific contract convention")

instance : Dataclass InstrumentFields := ⟨InstrumentFields.postInit⟩

/-- A listed contract. -/
abbrev Instrument := Frozen InstrumentFields

def Instrument.exchange (i : Instrument) : Exchange := i.fields.variety.fields.exchange

def Instrument.referenceId (i : Instrument) : Text :=
  i.fields.variety.referenceId ++ i.fields.deliveryCode

structure DominantContractReferenceFields where
  variety : Variety
  instrument : Instrument
  effective : EffectiveInterval
  version : ℤ
  provenance : ReferenceProvenance
  deriving DecidableEq

def DominantContractReferenceFields.postInit (f : DominantContractReferenceFields) : Py Unit := do
  require (f.instrument.fields.variety = f.variety)
    (valueError "dominant contract must belong to its variety")
  requireVersion f.version "version"

instance : Dataclass DominantContractReferenceFields := ⟨DominantContractReferenceFields.postInit⟩

/-- The assertion that an instrument is the dominant contract of its variety. -/
abbrev DominantContractReference := Frozen DominantContractReferenceFields

structure ContinuousSeriesFields where
  variety : Variety
  seriesCode : Text
  adjustment : ContinuousAdjustment
  rollRuleRef : Text
  deriving DecidableEq

def ContinuousSeriesFields.postInit (f : ContinuousSeriesFields) : Py Unit := do
  requireCode f.seriesCode "continuous series code"
  require (f.rollRuleRef.strip ≠ []) (valueError "continuous series requires roll_rule_ref")

instance : Dataclass ContinuousSeriesFields := ⟨ContinuousSeriesFields.postInit⟩

/-- A series for research only. -/
abbrev ContinuousSeries := Frozen ContinuousSeriesFields

def ContinuousSeries.referenceId (s : ContinuousSeries) : Text :=
  Text.ofString "CONTINUOUS." ++ s.fields.variety.referenceId ++ Text.ofChar '.' :: s.fields.seriesCode

inductive ReferenceTarget where
  | variety (v : Variety)
  | instrument (i : Instrument)
  | dominant (d : DominantContractReference)
  | continuous (s : ContinuousSeries)
  deriving DecidableEq

namespace ReferenceTarget

/-- `_target_is_effective` -/
def isEffective : ReferenceTarget → RecordedAt → Bool
  | dominant d, asOf => d.fields.effective.contains asOf
  | _, _ => true

/-- `_target_is_visible` -/
def isVisible : ReferenceTarget → RecordedAt → Bool
  | dominant d, asOf => d.fields.provenance.isVisibleAt asOf
  | _, _ => true

end ReferenceTarget

/-! ### Aliases -/

/-- A character of `_ALIAS`, `[A-Z0-9._:-]`. -/
def isAliasChar (c : CodePoint) : Bool :=
  isUpper c || isDigit c || c == Text.ofChar '.' || c == Text.ofChar '_' || c == Text.ofChar ':'
    || c == Text.ofChar '-'

/-- A lowercase letter. -/
def isLower (c : CodePoint) : Bool := 97 ≤ c.val && c.val ≤ 122

/-- `_ALIAS.fullmatch(value)` -/
def matchesAlias (value : Text) : Bool :=
  value.all isAliasChar && 1 ≤ value.length && value.length ≤ 64

/-- `_RAW_ALIAS.fullmatch(value)` -/
def matchesRawAlias (value : Text) : Bool :=
  value.all (fun c => isLower c || isAliasChar c) && 1 ≤ value.length && value.length ≤ 64

/-- `value.upper()`, of an alias all of whose characters are ASCII. -/
def upperAlias (value : Text) : Text :=
  value.map (fun c => if isLower c then ⟨c.val - 32, by omega⟩ else c)

def normalizeAlias (value : Text) : Option Text :=
  if value ≠ value.strip ∨ matchesRawAlias value = false then none
  else
    let normalized := upperAlias value
    if matchesAlias normalized then some normalized else none

def requireAlias (value : Text) : Py Unit :=
  require (matchesAlias value = true) (valueError "alias must use canonical uppercase text")

structure AliasMappingFields where
  aliasName : Text
  target : ReferenceTarget
  effective : EffectiveInterval
  version : ℤ
  provenance : ReferenceProvenance
  deriving DecidableEq

def AliasMappingFields.postInit (f : AliasMappingFields) : Py Unit := do
  requireAlias f.aliasName
  requireVersion f.version "version"

instance : Dataclass AliasMappingFields := ⟨AliasMappingFields.postInit⟩

/-- What an alias stands for over an interval. -/
abbrev AliasMapping := Frozen AliasMappingFields

/-- Two mappings of one alias over intervals that overlap. -/
def aliasesOverlap (left right : AliasMapping) : Bool :=
  decide (left.fields.aliasName = right.fields.aliasName)
    && left.fields.effective.overlaps right.fields.effective

def rejectOverlappingAliases (aliases : List AliasMapping) : Py Unit :=
  require (aliases.Pairwise (fun left right => aliasesOverlap left right = false))
    (valueError "instrument registry cannot publish overlapping alias mappings")

/-! ### The digest of a release -/

def intervalPayload (i : EffectiveInterval) : Json := .obj [
  ("effective_from", .str i.fields.effectiveFrom.text),
  ("effective_until", textOrNone (i.fields.effectiveUntil.map RecordedAt.text))]

/-- `_target_payload` of a variety. -/
def varietyPayload (v : Variety) : Json := .obj [
  ("kind", .str MarketReferenceKind.VARIETY.value),
  ("exchange", .str v.fields.exchange.value),
  ("code", .str v.fields.code),
  ("name", .str v.fields.name)]

/-- `_target_payload` of an instrument. -/
def instrumentPayload (i : Instrument) : Json := .obj [
  ("kind", .str MarketReferenceKind.INSTRUMENT.value),
  ("variety", varietyPayload i.fields.variety),
  ("delivery_code", .str i.fields.deliveryCode)]

def targetPayload : ReferenceTarget → Json
  | .variety v => varietyPayload v
  | .instrument i => instrumentPayload i
  | .dominant d => .obj [
      ("kind", .str MarketReferenceKind.DOMINANT_CONTRACT.value),
      ("variety", varietyPayload d.fields.variety),
      ("instrument", instrumentPayload d.fields.instrument),
      ("effective", intervalPayload d.fields.effective),
      ("version", .int d.fields.version),
      ("provenance", provenancePayload d.fields.provenance)]
  | .continuous s => .obj [
      ("kind", .str MarketReferenceKind.CONTINUOUS_SERIES.value),
      ("variety", varietyPayload s.fields.variety),
      ("series_code", .str s.fields.seriesCode),
      ("adjustment", .str s.fields.adjustment.value),
      ("roll_rule_ref", .str s.fields.rollRuleRef)]

def aliasPayload (m : AliasMapping) : Json := .obj [
  ("alias", .str m.fields.aliasName),
  ("target", targetPayload m.fields.target),
  ("effective", intervalPayload m.fields.effective),
  ("version", .int m.fields.version),
  ("provenance", provenancePayload m.fields.provenance)]

def registryContentSha256 [Hashlib] (host : CalendarHost) (aliases : List AliasMapping) : Py Text :=
  canonicalSha256 (.arr (sortedByRepr host (aliases.map aliasPayload)))

/-! ### Releases -/

structure ResolutionFields where
  target : ReferenceTarget
  aliasName : Text
  registryId : EntityId
  releaseVersion : ℤ
  registryContentSha256 : Text
  mappingVersion : ℤ
  provenance : ReferenceProvenance
  deriving DecidableEq

def ResolutionFields.postInit (f : ResolutionFields) : Py Unit := do
  requireAlias f.aliasName
  require (f.registryId.nspace = "instrument_registry")
    (valueError "resolution registry_id must use the instrument_registry namespace")
  requireVersion f.releaseVersion "version"
  requireVersion f.mappingVersion "version"
  requireDigest f.registryContentSha256 "resolution registry_content_sha256"

instance : Dataclass ResolutionFields := ⟨ResolutionFields.postInit⟩

/-- A resolution that succeeded. -/
abbrev Resolution := Frozen ResolutionFields

inductive ResolutionOutcome where
  | resolution (r : Resolution)
  | failure (f : Failure)
  deriving DecidableEq

/-- `Instrument | Failure` -/
inductive TradeableOutcome where
  | instrument (i : Instrument)
  | failure (f : Failure)
  deriving DecidableEq

structure InstrumentRegistryFields where
  registryId : EntityId
  releaseVersion : ℤ
  aliases : List AliasMapping
  expectedContentSha256 : Text

def InstrumentRegistryFields.postInit [Hashlib] (host : CalendarHost)
    (f : InstrumentRegistryFields) : Py Unit := do
  require (f.registryId.nspace = "instrument_registry")
    (valueError "instrument registry_id must use the instrument_registry namespace")
  requireVersion f.releaseVersion "version"
  require (f.aliases ≠ []) (valueError "instrument registry requires explicit alias mappings")
  rejectOverlappingAliases f.aliases
  let actual ← registryContentSha256 host f.aliases
  require (f.expectedContentSha256 = actual)
    (valueError "instrument registry expected_content_sha256 does not match aliases")

/-- A release that was accepted. -/
structure InstrumentRegistry [Hashlib] (host : CalendarHost) where
  fields : InstrumentRegistryFields
  valid : fields.postInit host = .ok ()

/-! ### Resolution -/

namespace InstrumentRegistryFields

variable (f : InstrumentRegistryFields) (normalized : Text) (asOf : RecordedAt)

def candidates : List AliasMapping := f.aliases.filter (·.fields.aliasName = normalized)

def effective : List AliasMapping := (f.candidates normalized).filter (·.fields.effective.contains asOf)

def visible : List AliasMapping :=
  (f.effective normalized asOf).filter (·.fields.provenance.isVisibleAt asOf)

def targetVisible : List AliasMapping :=
  (f.visible normalized asOf).filter (·.fields.target.isVisible asOf)

def active : List AliasMapping :=
  (f.targetVisible normalized asOf).filter (·.fields.target.isEffective asOf)

/-- What is answered unless one mapping is active. -/
def notUnique : Failure :=
  if 1 < (f.active normalized asOf).length then
    ⟨.INSTRUMENT_AMBIGUOUS, some "multiple active mappings for identifier"⟩
  else if f.effective normalized asOf ≠ [] ∧ f.visible normalized asOf = [] then
    ⟨.REFERENCE_NOT_YET_VISIBLE, some "identifier mapping was not acquired at as_of"⟩
  else if f.visible normalized asOf ≠ [] ∧ f.targetVisible normalized asOf = [] then
    ⟨.REFERENCE_NOT_YET_VISIBLE, some "identifier target was not acquired at as_of"⟩
  else if f.targetVisible normalized asOf ≠ []
      ∧ (f.targetVisible normalized asOf).any (fun m => !m.fields.target.isEffective asOf) = true then
    ⟨.REFERENCE_MAPPING_EXPIRED, some "identifier target is not effective at as_of"⟩
  else if f.candidates normalized ≠ []
      ∧ (f.candidates normalized).all (·.fields.effective.expiredAt asOf) = true then
    ⟨.REFERENCE_MAPPING_EXPIRED, some "identifier mapping is no longer effective"⟩
  else ⟨.INSTRUMENT_UNKNOWN, some "identifier has no mapping visible at as_of"⟩

variable (identifier : Text)

def resolve : Py ResolutionOutcome :=
  match normalizeAlias identifier with
  | none =>
    .ok (.failure
      ⟨.INSTRUMENT_MALFORMED, some "identifier must be a canonical non-whitespace alias"⟩)
  | some normalized =>
    match f.active normalized asOf with
    | [m] => do
      let resolution ← Frozen.make (ResolutionFields.mk m.fields.target m.fields.aliasName f.registryId
        f.releaseVersion f.expectedContentSha256 m.fields.version m.fields.provenance)
      .ok (.resolution resolution)
    | _ => .ok (.failure (f.notUnique normalized asOf))

/-- `alias.split(".", 1)[0]` -/
def exchangeOf (aliasName : Text) : Text := aliasName.takeWhile (· ≠ Text.ofChar '.')

/-- What a resolution makes of an order target. -/
def tradeable (r : Resolution) : TradeableOutcome :=
  match r.fields.target with
  | .continuous _ =>
    .failure ⟨.CONTINUOUS_SERIES_NOT_TRADABLE,
      some "continuous series must resolve to an Instrument first"⟩
  | .instrument i =>
    if exchangeOf r.fields.aliasName ≠ i.exchange.value then
      .failure ⟨.INSTRUMENT_NOT_TRADEABLE,
        some "order target exchange does not match Instrument exchange"⟩
    else .instrument i
  | _ =>
    .failure ⟨.INSTRUMENT_NOT_TRADEABLE, some "order target must be a specific Instrument"⟩

def resolveTradeable : Py TradeableOutcome :=
  if (normalizeAlias identifier).any (fun normalized => Text.ofChar '.' ∉ normalized) then
    .ok (.failure ⟨.INSTRUMENT_NOT_TRADEABLE,
      some "order target must use an exchange-qualified Instrument alias"⟩)
  else do
    match ← f.resolve asOf identifier with
    | .failure failure => .ok (.failure failure)
    | .resolution r => .ok (tradeable r)

end InstrumentRegistryFields

end FuturesAgentOs
