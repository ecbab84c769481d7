import FuturesAgentOs.SharedKernel.Contracts
import FuturesAgentOs.SharedKernel.Ids
import FuturesAgentOs.SharedKernel.IsoTime
import FuturesAgentOs.SharedKernel.JsonObject

namespace FuturesAgentOs

open PyModel

/-!
# Dataset manifests

`reference_market_data/data_lake.py`: the descriptor of a dataset, and the JSON that its manifest
file holds.

* `manifestJson`, `manifestFromJson` — the file, as it is written and as it is read.
-/

/-! ### Descriptors -/

inductive DatasetLayer where
  | RAW
  | NORMALIZED_PIT
  | FEATURE_SNAPSHOT
  | DATASET
  | ARTIFACT
  deriving DecidableEq

namespace DatasetLayer

def value : DatasetLayer → Text
  | RAW => "raw"
  | NORMALIZED_PIT => "normalized_pit"
  | FEATURE_SNAPSHOT => "features"
  | DATASET => "datasets"
  | ARTIFACT => "artifacts"

/-- `DatasetLayer(t)` -/
def ofValue (t : Text) : Py DatasetLayer :=
  match [RAW, NORMALIZED_PIT, FEATURE_SNAPSHOT, DATASET, ARTIFACT].find? (fun l => l.value = t) with
  | some layer => .ok layer
  | none => .error (valueError "is not a valid DatasetLayer")

end DatasetLayer

inductive DataQualityLevel where
  | Q0_INVALID
  | Q1_DEGRADED
  | Q2_RESEARCH
  | Q3_DECISION
  | Q4_EXECUTION
  deriving DecidableEq

namespace DataQualityLevel

def value : DataQualityLevel → Text
  | Q0_INVALID => "Q0_INVALID"
  | Q1_DEGRADED => "Q1_DEGRADED"
  | Q2_RESEARCH => "Q2_RESEARCH"
  | Q3_DECISION => "Q3_DECISION"
  | Q4_EXECUTION => "Q4_EXECUTION"

/-- `DataQualityLevel(t)` -/
def ofValue (t : Text) : Py DataQualityLevel :=
  match [Q0_INVALID, Q1_DEGRADED, Q2_RESEARCH, Q3_DECISION, Q4_EXECUTION].find?
      (fun l => l.value = t) with
  | some level => .ok level
  | none => .error (valueError "is not a valid DataQualityLevel")

end DataQualityLevel

structure SourceProvenanceFields where
  sourceName : Text
  sourceUri : Text
  acquiredAt : RecordedAt
  sourcePublishedAt : Option RecordedAt := none
  sourceRevision : Option Text := none
  deriving DecidableEq

instance : Dataclass SourceProvenanceFields where
  postInit f := do
    require (f.sourceName.strip ≠ [] ∧ f.sourceUri.strip ≠ [])
      (valueError "dataset provenance requires source_name and source_uri")
    whenSome f.sourcePublishedAt fun published => require (published ≤ f.acquiredAt)
      (valueError "source_published_at cannot be after acquired_at")

abbrev SourceProvenance := Frozen SourceProvenanceFields

structure LicenseTermsFields where
  licenseName : Text
  allowedUse : Text
  retentionPolicy : Text
  redistributionPolicy : Text
  environmentRestriction : Text
  deriving DecidableEq

instance : Dataclass LicenseTermsFields where
  postInit f := require (∀ value ∈ [f.licenseName, f.allowedUse, f.retentionPolicy,
      f.redistributionPolicy, f.environmentRestriction], value.strip ≠ [])
    (valueError "dataset license requires all use and restriction terms")

abbrev LicenseTerms := Frozen LicenseTermsFields

structure TimeCoverageFields where
  start : RecordedAt
  finish : RecordedAt
  deriving DecidableEq

instance : Dataclass TimeCoverageFields where
  postInit f := require (f.start ≤ f.finish)
    (valueError "dataset coverage end cannot precede coverage start")

abbrev TimeCoverage := Frozen TimeCoverageFields

structure QualityReportFields where
  level : DataQualityLevel
  summary : Text
  checkedAt : RecordedAt
  issues : List Text := []
  deriving DecidableEq

instance : Dataclass QualityReportFields where
  postInit f := require (f.summary.strip ≠ []) (valueError "quality report requires a summary")

abbrev QualityReport := Frozen QualityReportFields

structure RevisionInfoFields where
  revision : ℤ
  reason : Text
  revisedAt : RecordedAt
  supersedesDatasetId : Option EntityId := none
  deriving DecidableEq

instance : Dataclass RevisionInfoFields where
  postInit f := do
    require (1 ≤ f.revision) (valueError "dataset revision must be a positive integer")
    require (f.reason.strip ≠ []) (valueError "dataset revision requires a reason")
    require (¬ (f.revision = 1 ∧ f.supersedesDatasetId ≠ none))
      (valueError "initial dataset revision cannot supersede another dataset")
    require (¬ (1 < f.revision ∧ f.supersedesDatasetId = none))
      (valueError "revised dataset must declare supersedes_dataset_id")

abbrev RevisionInfo := Frozen RevisionInfoFields

/-- `"sha256:"` -/
def hashPrefix : Text := "sha256:"

/-- A canonical `content_hash`. -/
def IsContentHash (t : Text) : Prop :=
  t.take hashPrefix.length = hashPrefix ∧ Text.IsHexDigest (t.drop hashPrefix.length)

instance (t : Text) : Decidable (IsContentHash t) := inferInstanceAs (Decidable (_ ∧ _))

structure DatasetManifestFields where
  datasetId : EntityId
  layer : DatasetLayer
  objectUri : Text
  contentHash : Text
  schemaName : Text
  schemaVersion : SchemaVersion
  coverage : TimeCoverage
  instrumentUniverse : List Text
  provenance : SourceProvenance
  license : LicenseTerms
  asOf : RecordedAt
  ingestedAt : RecordedAt
  quality : QualityReport
  revision : RevisionInfo
  generatedBy : Option Text := none
  upstreamManifestIds : List EntityId := []
  deriving DecidableEq

instance : Dataclass DatasetManifestFields where
  postInit f := do
    require (f.objectUri.strip ≠ [] ∧ f.contentHash.take hashPrefix.length = hashPrefix)
      (valueError "dataset manifest requires object_uri and canonical content_hash")
    require (Text.IsHexDigest (f.contentHash.drop hashPrefix.length))
      (valueError "dataset content_hash must be a lowercase sha256 digest")
    require (f.schemaName.strip ≠ [] ∧ f.instrumentUniverse ≠ [])
      (valueError "dataset manifest requires schema and instrument universe")
    require f.instrumentUniverse.Nodup (valueError "dataset instrument universe must be unique")
    require (f.asOf ≤ f.ingestedAt) (valueError "dataset as_of cannot be after ingestion")
    require (f.coverage.fields.finish ≤ f.asOf)
      (valueError "dataset coverage cannot extend beyond as_of")
    require (f.layer ∈ [.FEATURE_SNAPSHOT, .DATASET, .ARTIFACT] → f.generatedBy.getD [] ≠ [])
      (valueError "derived datasets require generated_by provenance")
    require (f.layer ∈ [.FEATURE_SNAPSHOT, .DATASET] → f.upstreamManifestIds ≠ [])
      (valueError "derived datasets require upstream manifests")

abbrev DatasetManifest := Frozen DatasetManifestFields

theorem DatasetManifest.isContentHash (m : DatasetManifest) :
    IsContentHash m.fields.contentHash := by
  obtain ⟨⟨-, hpre⟩, hrest⟩ := of_require m.valid
  exact ⟨hpre, (of_require hrest).1⟩

/-! ### Writing -/

/-- `_time(value) if value else None`; a timestamp is true. -/
def jsonTime? (t : Option RecordedAt) : Json := jsonText? (t.map RecordedAt.text)

/-- `str(value) if value else None`; an identifier is true. -/
def jsonId? (id : Option EntityId) : Json := jsonText? (id.map EntityId.str)

/-- The member `coverage`. -/
def coverageItems (c : TimeCoverage) : List (Text × Json) :=
  [("start", .str c.fields.start.text), ("end", .str c.fields.finish.text)]

/-- The member `provenance`. -/
def provenanceItems (p : SourceProvenance) : List (Text × Json) := [
  ("source_name", .str p.fields.sourceName),
  ("source_uri", .str p.fields.sourceUri),
  ("acquired_at", .str p.fields.acquiredAt.text),
  ("source_published_at", jsonTime? p.fields.sourcePublishedAt),
  ("source_revision", jsonText? p.fields.sourceRevision)]

/-- `asdict(manifest.license)` -/
def licenseItems (l : LicenseTerms) : List (Text × Json) := [
  ("license_name", .str l.fields.licenseName),
  ("allowed_use", .str l.fields.allowedUse),
  ("retention_policy", .str l.fields.retentionPolicy),
  ("redistribution_policy", .str l.fields.redistributionPolicy),
  ("environment_restriction", .str l.fields.environmentRestriction)]

/-- The member `quality`. -/
def qualityItems (q : QualityReport) : List (Text × Json) := [
  ("level", .str q.fields.level.value),
  ("summary", .str q.fields.summary),
  ("checked_at", .str q.fields.checkedAt.text),
  ("issues", jsonTexts q.fields.issues)]

/-- The member `revision`. -/
def revisionItems (r : RevisionInfo) : List (Text × Json) := [
  ("revision", .int r.fields.revision),
  ("reason", .str r.fields.reason),
  ("revised_at", .str r.fields.revisedAt.text),
  ("supersedes_dataset_id", jsonId? r.fields.supersedesDatasetId)]

/-- `_manifest_dict`, the text of the schema's version given. -/
def manifestItems (m : DatasetManifest) (schemaVersion : Text) : List (Text × Json) := [
  ("dataset_id", .str m.fields.datasetId.str),
  ("layer", .str m.fields.layer.value),
  ("object_uri", .str m.fields.objectUri),
  ("content_hash", .str m.fields.contentHash),
  ("schema_name", .str m.fields.schemaName),
  ("schema_version", .str schemaVersion),
  ("coverage", .obj (coverageItems m.fields.coverage)),
  ("instrument_universe", jsonTexts m.fields.instrumentUniverse),
  ("provenance", .obj (provenanceItems m.fields.provenance)),
  ("license", .obj (licenseItems m.fields.license)),
  ("as_of", .str m.fields.asOf.text),
  ("ingested_at", .str m.fields.ingestedAt.text),
  ("quality", .obj (qualityItems m.fields.quality)),
  ("revision", .obj (revisionItems m.fields.revision)),
  ("generated_by", jsonText? m.fields.generatedBy),
  ("upstream_manifest_ids", .arr (m.fields.upstreamManifestIds.map fun id => .str id.str))]

def manifestJson (m : DatasetManifest) : Py (List Text.Byte) := do
  let schemaVersion ← SchemaVersion.str m.fields.schemaVersion
  match (Json.obj (manifestItems m schemaVersion)).dumps with
  | none => .error (valueError "Exceeds the limit (4300 digits) for integer string conversion")
  | some encoded =>
    match encoded.encodeUtf8 with
    | none => .error ⟨.unicodeEncodeError, "surrogates not allowed"⟩
    | some bytes => .ok bytes

/-! ### Reading -/

/-- The text of ASCII bytes; no file of a store has others. -/
def decodeAscii (bytes : List Text.Byte) : Option Text :=
  bytes.mapM fun b => if b.val < 0x80 then some ⟨b.val, by omega⟩ else none

theorem decodeAscii_encodeUtf8 {t : Text} (h : t.IsAscii) :
    ∃ bytes, t.encodeUtf8 = some bytes ∧ decodeAscii bytes = some t := by
  induction t with
  | nil => exact ⟨[], rfl, rfl⟩
  | cons c t ih =>
    rw [Text.isAscii_cons] at h
    obtain ⟨bytes, hbytes, hdecode⟩ := ih h.2
    obtain ⟨chunks, hchunks, rfl⟩ := Option.map_eq_some_iff.mp hbytes
    refine ⟨⟨c.val, by omega⟩ :: chunks.flatten, ?_, ?_⟩
    · rw [Text.encodeUtf8, List.mapM_cons, hchunks, Text.utf8Bytes, dif_pos h.1]
      rfl
    · rw [decodeAscii, List.mapM_cons, if_pos h.1]
      rw [decodeAscii] at hdecode
      rw [hdecode]
      rfl

/-- A member that is a string. -/
def readText (items : List (Text × Json)) (key : Text) : Py Text :=
  Json.item items key >>= textOf ⟨.attributeError, "strip"⟩

/-- A member that is a string or `None`. -/
def readText? (items : List (Text × Json)) (key : Text) : Py (Option Text) := do
  match ← Json.item items key with
  | .null => .ok none
  | .str t => .ok (some t)
  | _ => .error ⟨.attributeError, "strip"⟩

/-- A member that is a list of strings. -/
def readTexts (items : List (Text × Json)) (key : Text) : Py (List Text) := do
  let values ← Json.item items key >>= arrayItems (typeError "object is not iterable")
  values.mapM (textOf (typeError "unhashable type"))

/-- A member that is an object. -/
def readItems (items : List (Text × Json)) (key : Text) : Py (List (Text × Json)) :=
  Json.item items key >>= objectItems (typeError "object is not subscriptable")

/-- `parse(data[key]) if data[key] else None` -/
def readOptional {α : Type} (parse : Text → Py α) (items : List (Text × Json)) (key : Text) :
    Py (Option α) := do
  match ← readText? items key with
  | none => .ok none
  | some t => if t = [] then .ok none else (parse t).map some

/-- `TimeCoverage(_at(…), _at(…))` -/
def readCoverage (items : List (Text × Json)) : Py TimeCoverage := do
  let start ← readText items "start" >>= RecordedAt.parse
  let finish ← readText items "end" >>= RecordedAt.parse
  Frozen.make { start, finish }

/-- `SourceProvenance(…)` -/
def readProvenance (items : List (Text × Json)) : Py SourceProvenance := do
  let sourceName ← readText items "source_name"
  let sourceUri ← readText items "source_uri"
  let acquiredAt ← readText items "acquired_at" >>= RecordedAt.parse
  let sourcePublishedAt ← readOptional RecordedAt.parse items "source_published_at"
  let sourceRevision ← readText? items "source_revision"
  Frozen.make { sourceName, sourceUri, acquiredAt, sourcePublishedAt, sourceRevision }

/-- The fields of a license. -/
def licenseKeys : List Text :=
  ["license_name", "allowed_use", "retention_policy", "redistribution_policy",
    "environment_restriction"]

/-- `LicenseTerms(**data["license"])` -/
def readLicense (items : List (Text × Json)) : Py LicenseTerms := do
  require (Json.keysAre items licenseKeys)
    (typeError "LicenseTerms.__init__() got an unexpected keyword argument")
  let licenseName ← readText items "license_name"
  let allowedUse ← readText items "allowed_use"
  let retentionPolicy ← readText items "retention_policy"
  let redistributionPolicy ← readText items "redistribution_policy"
  let environmentRestriction ← readText items "environment_restriction"
  Frozen.make
    { licenseName, allowedUse, retentionPolicy, redistributionPolicy, environmentRestriction }

/-- `QualityReport(…)` -/
def readQuality (items : List (Text × Json)) : Py QualityReport := do
  let level ← readText items "level" >>= DataQualityLevel.ofValue
  let summary ← readText items "summary"
  let checkedAt ← readText items "checked_at" >>= RecordedAt.parse
  let issues ← readTexts items "issues"
  Frozen.make { level, summary, checkedAt, issues }

/-- `data["revision"]["revision"]`, an integer. -/
def integerOf : Json → Py ℤ
  | .int n => .ok n
  | _ => .error (valueError "dataset revision must be a positive integer")

/-- `RevisionInfo(…)` -/
def readRevision (items : List (Text × Json)) : Py RevisionInfo := do
  let revision ← Json.item items "revision" >>= integerOf
  let reason ← readText items "reason"
  let revisedAt ← readText items "revised_at" >>= RecordedAt.parse
  let supersedesDatasetId ← readOptional EntityId.parse items "supersedes_dataset_id"
  Frozen.make { revision, reason, revisedAt, supersedesDatasetId }

/-- The manifest of the members of a file. -/
def readManifest (items : List (Text × Json)) : Py DatasetManifest := do
  let provenance ← readItems items "provenance"
  let revision ← readItems items "revision"
  let datasetId ← readText items "dataset_id" >>= EntityId.parse
  let layer ← readText items "layer" >>= DatasetLayer.ofValue
  let objectUri ← readText items "object_uri"
  let contentHash ← readText items "content_hash"
  let schemaName ← readText items "schema_name"
  let schemaVersion ← readText items "schema_version" >>= SchemaVersion.parse
  let coverage ← readItems items "coverage" >>= readCoverage
  let instrumentUniverse ← readTexts items "instrument_universe"
  let provenance ← readProvenance provenance
  let license ← readItems items "license" >>= readLicense
  let asOf ← readText items "as_of" >>= RecordedAt.parse
  let ingestedAt ← readText items "ingested_at" >>= RecordedAt.parse
  let quality ← readItems items "quality" >>= readQuality
  let revision ← readRevision revision
  let generatedBy ← readText? items "generated_by"
  let upstream ← readTexts items "upstream_manifest_ids"
  let upstreamManifestIds ← upstream.mapM EntityId.parse
  Frozen.make
    { datasetId, layer, objectUri, contentHash, schemaName, schemaVersion, coverage,
      instrumentUniverse, provenance, license, asOf, ingestedAt, quality, revision, generatedBy,
      upstreamManifestIds }

def manifestFromJson (content : List Text.Byte) : Py DatasetManifest :=
  match decodeAscii content with
  | none => .error (valueError "'utf-8' codec can't decode")
  | some text =>
    match Json.loads text with
    | none => .error ⟨.jsonDecodeError, "Expecting value"⟩
    | some (.obj items) => readManifest items
    | some _ => .error (typeError "object is not subscriptable")

/-! ### Reading back -/

/-- The texts of the manifest survive JSON, and its numbers are within the limit of `str`. -/
structure DatasetManifest.Storable (m : DatasetManifest) : Prop where
  objectUri : m.fields.objectUri.IsJsonSafe
  schemaName : m.fields.schemaName.IsJsonSafe
  schemaVersion : m.fields.schemaVersion.FitsStr
  instrumentUniverse : ∀ instrument ∈ m.fields.instrumentUniverse, Text.IsJsonSafe instrument
  sourceName : m.fields.provenance.fields.sourceName.IsJsonSafe
  sourceUri : m.fields.provenance.fields.sourceUri.IsJsonSafe
  sourceRevision : ∀ t ∈ m.fields.provenance.fields.sourceRevision, Text.IsJsonSafe t
  licenseName : m.fields.license.fields.licenseName.IsJsonSafe
  allowedUse : m.fields.license.fields.allowedUse.IsJsonSafe
  retentionPolicy : m.fields.license.fields.retentionPolicy.IsJsonSafe
  redistributionPolicy : m.fields.license.fields.redistributionPolicy.IsJsonSafe
  environmentRestriction : m.fields.license.fields.environmentRestriction.IsJsonSafe
  summary : m.fields.quality.fields.summary.IsJsonSafe
  issues : ∀ issue ∈ m.fields.quality.fields.issues, Text.IsJsonSafe issue
  revision : FitsStr m.fields.revision.fields.revision
  reason : m.fields.revision.fields.reason.IsJsonSafe
  generatedBy : ∀ t ∈ m.fields.generatedBy, Text.IsJsonSafe t

section

variable {items : List (Text × Json)} (key : Text)

theorem readText_sorted (h : (items.map Prod.fst).Nodup) {t : Text}
    (ht : Json.lookup key items = some (.str t)) : readText (Json.sorted items) key = .ok t := by
  rw [readText, Json.item_sorted h ht]
  rfl

theorem readText?_sorted (h : (items.map Prod.fst).Nodup) {t : Option Text}
    (ht : Json.lookup key items = some (jsonText? t)) :
    readText? (Json.sorted items) key = .ok t := by
  rw [readText?, Json.item_sorted h ht]
  cases t <;> rfl

theorem readItems_sorted (h : (items.map Prod.fst).Nodup) {members : List (Text × Json)}
    (hm : Json.lookup key items = some (.obj members)) :
    readItems (Json.sorted items) key = .ok (Json.sorted members) := by
  rw [readItems, Json.item_sorted h hm, Json.sortKeys_obj]
  rfl

theorem readTexts_sorted (h : (items.map Prod.fst).Nodup) {texts : List Text}
    (ht : Json.lookup key items = some (jsonTexts texts)) :
    readTexts (Json.sorted items) key = .ok texts := by
  have hread : ((texts.map Json.str).map Json.sortKeys).mapM
      (textOf (typeError "unhashable type")) = .ok texts :=
    Json.mapM_sortKeys fun t _ => rfl
  rw [readTexts, Json.item_sorted h ht, jsonTexts, Json.sortKeys, Json.sortItems_eq]
  exact hread

/-- A value that is written as its text, or as `None`. -/
theorem readOptional_sorted {α : Type} {parse : Text → Py α} {text : α → Text} {x : Option α}
    (h : (items.map Prod.fst).Nodup) (hparse : ∀ a, parse (text a) = .ok a ∧ text a ≠ [])
    (hx : Json.lookup key items = some (jsonText? (x.map text))) :
    readOptional parse (Json.sorted items) key = .ok x := by
  rw [readOptional, readText?_sorted key h hx]
  cases x with
  | none => rfl
  | some a =>
    obtain ⟨hparse, hne⟩ := hparse a
    show (if text a = [] then .ok none else (parse (text a)).map some) = _
    rw [if_neg hne, hparse]
    rfl

/-- A value that is written as its text. -/
theorem readParsed_sorted {α : Type} {parse : Text → Py α} {t : Text} {a : α}
    (h : (items.map Prod.fst).Nodup) (ht : Json.lookup key items = some (.str t))
    (hparse : parse t = .ok a) : (readText (Json.sorted items) key >>= parse) = .ok a := by
  rw [readText_sorted key h ht, Py.ok_bind, hparse]

end

theorem parse_text_ne_nil (t : RecordedAt) : RecordedAt.parse t.text = .ok t ∧ t.text ≠ [] :=
  ⟨t.parse_text, by simp [RecordedAt.text]⟩

theorem parse_str_ne_nil (id : EntityId) : EntityId.parse id.str = .ok id ∧ id.str ≠ [] :=
  ⟨id.parse_str, by simp [EntityId.str]⟩

theorem DatasetLayer.ofValue_value (l : DatasetLayer) : ofValue l.value = .ok l := by
  cases l <;> rfl

theorem DataQualityLevel.ofValue_value (l : DataQualityLevel) : ofValue l.value = .ok l := by
  cases l <;> rfl

theorem readCoverage_sorted (c : TimeCoverage) :
    readCoverage (Json.sorted (coverageItems c)) = .ok c := by
  have h : ((coverageItems c).map Prod.fst).Nodup := by
    show (["start", "end"] : List Text).Nodup
    simp
  rw [readCoverage, readParsed_sorted "start" h rfl c.fields.start.parse_text, Py.ok_bind,
    readParsed_sorted "end" h rfl c.fields.finish.parse_text, Py.ok_bind]
  exact Frozen.make_eq_ok.mpr rfl

theorem readProvenance_sorted (p : SourceProvenance) :
    readProvenance (Json.sorted (provenanceItems p)) = .ok p := by
  have h : ((provenanceItems p).map Prod.fst).Nodup := by
    show (["source_name", "source_uri", "acquired_at", "source_published_at", "source_revision"] :
      List Text).Nodup
    simp
  rw [readProvenance, readText_sorted "source_name" h rfl, Py.ok_bind,
    readText_sorted "source_uri" h rfl, Py.ok_bind,
    readParsed_sorted "acquired_at" h rfl p.fields.acquiredAt.parse_text, Py.ok_bind,
    readOptional_sorted "source_published_at" h parse_text_ne_nil rfl, Py.ok_bind,
    readText?_sorted "source_revision" h rfl, Py.ok_bind]
  exact Frozen.make_eq_ok.mpr rfl

theorem readLicense_sorted (l : LicenseTerms) :
    readLicense (Json.sorted (licenseItems l)) = .ok l := by
  have hkeys : (licenseItems l).map Prod.fst = licenseKeys := rfl
  have h : ((licenseItems l).map Prod.fst).Nodup := by
    rw [hkeys]
    simp [licenseKeys]
  have hexact : Json.keysAre (Json.sorted (licenseItems l)) licenseKeys := by
    apply Json.keysAre_sorted
    exact Json.keysAre_of_eq hkeys
  rw [readLicense, require_of_pos hexact, Py.ok_bind, readText_sorted "license_name" h rfl,
    Py.ok_bind, readText_sorted "allowed_use" h rfl, Py.ok_bind,
    readText_sorted "retention_policy" h rfl, Py.ok_bind,
    readText_sorted "redistribution_policy" h rfl, Py.ok_bind,
    readText_sorted "environment_restriction" h rfl, Py.ok_bind]
  exact Frozen.make_eq_ok.mpr rfl

theorem readQuality_sorted (q : QualityReport) :
    readQuality (Json.sorted (qualityItems q)) = .ok q := by
  have h : ((qualityItems q).map Prod.fst).Nodup := by
    show (["level", "summary", "checked_at", "issues"] : List Text).Nodup
    simp
  rw [readQuality, readParsed_sorted "level" h rfl q.fields.level.ofValue_value, Py.ok_bind,
    readText_sorted "summary" h rfl, Py.ok_bind,
    readParsed_sorted "checked_at" h rfl q.fields.checkedAt.parse_text, Py.ok_bind,
    readTexts_sorted "issues" h rfl, Py.ok_bind]
  exact Frozen.make_eq_ok.mpr rfl

theorem readRevision_sorted (r : RevisionInfo) :
    readRevision (Json.sorted (revisionItems r)) = .ok r := by
  have h : ((revisionItems r).map Prod.fst).Nodup := by
    show (["revision", "reason", "revised_at", "supersedes_dataset_id"] : List Text).Nodup
    simp
  have hrevision : (Json.item (Json.sorted (revisionItems r)) "revision" >>= integerOf)
      = .ok r.fields.revision := by
    have hlookup : Json.lookup "revision" (revisionItems r) = some (.int r.fields.revision) := rfl
    rw [Json.item_sorted h hlookup]
    rfl
  rw [readRevision, hrevision, Py.ok_bind, readText_sorted "reason" h rfl, Py.ok_bind,
    readParsed_sorted "revised_at" h rfl r.fields.revisedAt.parse_text, Py.ok_bind,
    readOptional_sorted "supersedes_dataset_id" h parse_str_ne_nil rfl, Py.ok_bind]
  exact Frozen.make_eq_ok.mpr rfl

namespace DatasetManifest

variable {m : DatasetManifest}

/-- The keys of a manifest file. -/
def manifestKeys : List Text :=
  ["dataset_id", "layer", "object_uri", "content_hash", "schema_name", "schema_version",
    "coverage", "instrument_universe", "provenance", "license", "as_of", "ingested_at", "quality",
    "revision", "generated_by", "upstream_manifest_ids"]

theorem keys_manifestItems (m : DatasetManifest) (version : Text) :
    (manifestItems m version).map Prod.fst = manifestKeys := rfl

/-- **A manifest is read back** from its members. -/
theorem readManifest_sorted (h : m.Storable) :
    readManifest (Json.sorted (manifestItems m m.fields.schemaVersion.text)) = .ok m := by
  have hn : ((manifestItems m m.fields.schemaVersion.text).map Prod.fst).Nodup := by
    rw [keys_manifestItems]
    simp [manifestKeys]
  have hcoverage : (readItems (Json.sorted (manifestItems m m.fields.schemaVersion.text)) "coverage"
      >>= readCoverage) = .ok m.fields.coverage := by
    rw [readItems_sorted "coverage" hn rfl, Py.ok_bind, readCoverage_sorted]
  have hlicense : (readItems (Json.sorted (manifestItems m m.fields.schemaVersion.text)) "license"
      >>= readLicense) = .ok m.fields.license := by
    rw [readItems_sorted "license" hn rfl, Py.ok_bind, readLicense_sorted]
  have hquality : (readItems (Json.sorted (manifestItems m m.fields.schemaVersion.text)) "quality"
      >>= readQuality) = .ok m.fields.quality := by
    rw [readItems_sorted "quality" hn rfl, Py.ok_bind, readQuality_sorted]
  have hupstream : readTexts (Json.sorted (manifestItems m m.fields.schemaVersion.text))
      "upstream_manifest_ids" = .ok (m.fields.upstreamManifestIds.map EntityId.str) := by
    refine readTexts_sorted "upstream_manifest_ids" hn ?_
    show some (Json.arr (m.fields.upstreamManifestIds.map fun id => .str id.str)) = _
    rw [jsonTexts, List.map_map]
    rfl
  have hids : (m.fields.upstreamManifestIds.map EntityId.str).mapM EntityId.parse
      = .ok m.fields.upstreamManifestIds := by
    have hmap := Py.mapM_eq_ok (f := fun id : EntityId => EntityId.parse id.str) (g := id)
      (l := m.fields.upstreamManifestIds) (fun id _ => id.parse_str)
    rw [List.map_id] at hmap
    rw [List.mapM_map]
    exact hmap
  rw [readManifest, readItems_sorted "provenance" hn rfl, Py.ok_bind,
    readItems_sorted "revision" hn rfl, Py.ok_bind,
    readParsed_sorted "dataset_id" hn rfl m.fields.datasetId.parse_str, Py.ok_bind,
    readParsed_sorted "layer" hn rfl m.fields.layer.ofValue_value, Py.ok_bind,
    readText_sorted "object_uri" hn rfl, Py.ok_bind,
    readText_sorted "content_hash" hn rfl, Py.ok_bind,
    readText_sorted "schema_name" hn rfl, Py.ok_bind,
    readParsed_sorted "schema_version" hn rfl (SchemaVersion.parse_text h.schemaVersion),
    Py.ok_bind, hcoverage, Py.ok_bind, readTexts_sorted "instrument_universe" hn rfl, Py.ok_bind,
    readProvenance_sorted, Py.ok_bind, hlicense, Py.ok_bind,
    readParsed_sorted "as_of" hn rfl m.fields.asOf.parse_text, Py.ok_bind,
    readParsed_sorted "ingested_at" hn rfl m.fields.ingestedAt.parse_text, Py.ok_bind, hquality,
    Py.ok_bind, readRevision_sorted, Py.ok_bind, readText?_sorted "generated_by" hn rfl,
    Py.ok_bind, hupstream, Py.ok_bind, hids, Py.ok_bind]
  exact Frozen.make_eq_ok.mpr rfl

end DatasetManifest

/-! ### The file -/

theorem isSafe_jsonTexts {texts : List Text} (h : ∀ t ∈ texts, Text.IsJsonSafe t) :
    (jsonTexts texts).IsSafe :=
  Json.isSafe_arr h

theorem isSafe_jsonText? {t : Option Text} (h : ∀ s ∈ t, Text.IsJsonSafe s) :
    (jsonText? t).IsSafe := by
  cases t with
  | none => trivial
  | some s => exact h s rfl

theorem isSafe_jsonTime? (t : Option RecordedAt) : (jsonTime? t).IsSafe := by
  apply isSafe_jsonText?
  intro s hs
  obtain ⟨time, -, rfl⟩ := Option.map_eq_some_iff.mp hs
  exact time.isAscii_text.isJsonSafe

theorem isSafe_jsonId? (id : Option EntityId) : (jsonId? id).IsSafe := by
  apply isSafe_jsonText?
  intro s hs
  obtain ⟨id, -, rfl⟩ := Option.map_eq_some_iff.mp hs
  exact id.isAscii_str.isJsonSafe

namespace DatasetManifest

variable {m : DatasetManifest}

theorem isSafe_coverageItems (c : TimeCoverage) : (Json.obj (coverageItems c)).IsSafe := by
  have hkeys : (coverageItems c).map Prod.fst = ["start", "end"] := rfl
  apply Json.isSafe_obj hkeys (by simp) (by simp)
  simp only [coverageItems, List.forall_mem_cons, Json.IsSafe]
  exact ⟨c.fields.start.isAscii_text.isJsonSafe, c.fields.finish.isAscii_text.isJsonSafe, by simp⟩

theorem isSafe_provenanceItems (h : m.Storable) :
    (Json.obj (provenanceItems m.fields.provenance)).IsSafe := by
  have hkeys : (provenanceItems m.fields.provenance).map Prod.fst
      = ["source_name", "source_uri", "acquired_at", "source_published_at", "source_revision"] :=
    rfl
  apply Json.isSafe_obj hkeys (by simp) (by simp)
  simp only [provenanceItems, List.forall_mem_cons]
  exact ⟨h.sourceName, h.sourceUri,
    m.fields.provenance.fields.acquiredAt.isAscii_text.isJsonSafe,
    isSafe_jsonTime? _, isSafe_jsonText? h.sourceRevision, by simp⟩

theorem isSafe_licenseItems (h : m.Storable) :
    (Json.obj (licenseItems m.fields.license)).IsSafe := by
  have hkeys : (licenseItems m.fields.license).map Prod.fst = licenseKeys := rfl
  apply Json.isSafe_obj hkeys (by simp [licenseKeys]) (by simp [licenseKeys])
  simp only [licenseItems, List.forall_mem_cons]
  exact ⟨h.licenseName, h.allowedUse, h.retentionPolicy, h.redistributionPolicy,
    h.environmentRestriction, by simp⟩

theorem isSafe_qualityItems (h : m.Storable) :
    (Json.obj (qualityItems m.fields.quality)).IsSafe := by
  have hkeys : (qualityItems m.fields.quality).map Prod.fst
      = ["level", "summary", "checked_at", "issues"] := rfl
  have hlevel : m.fields.quality.fields.level.value.IsAscii := by
    cases m.fields.quality.fields.level <;> decide
  apply Json.isSafe_obj hkeys (by simp) (by simp)
  simp only [qualityItems, List.forall_mem_cons]
  exact ⟨hlevel.isJsonSafe, h.summary, m.fields.quality.fields.checkedAt.isAscii_text.isJsonSafe,
    isSafe_jsonTexts h.issues, by simp⟩

theorem isSafe_revisionItems (h : m.Storable) :
    (Json.obj (revisionItems m.fields.revision)).IsSafe := by
  have hkeys : (revisionItems m.fields.revision).map Prod.fst
      = ["revision", "reason", "revised_at", "supersedes_dataset_id"] := rfl
  apply Json.isSafe_obj hkeys (by simp) (by simp)
  simp only [revisionItems, List.forall_mem_cons]
  exact ⟨h.revision, h.reason, m.fields.revision.fields.revisedAt.isAscii_text.isJsonSafe,
    isSafe_jsonId? _, by simp⟩

theorem isSafe_manifestItems (h : m.Storable) :
    (Json.obj (manifestItems m m.fields.schemaVersion.text)).IsSafe := by
  have hlayer : m.fields.layer.value.IsAscii := by
    cases m.fields.layer <;> decide
  have hhash : m.fields.contentHash.IsJsonSafe := by
    obtain ⟨hpre, hdigest⟩ := m.isContentHash
    rw [← List.take_append_drop hashPrefix.length m.fields.contentHash, hpre]
    exact Text.IsJsonSafe.ascii_append (by decide) hdigest.isAscii.isJsonSafe
  have hupstream : (Json.arr (m.fields.upstreamManifestIds.map fun id => .str id.str)).IsSafe :=
    Json.isSafe_arr fun id _ => id.isAscii_str.isJsonSafe
  apply Json.isSafe_obj (keys_manifestItems m _) (by simp [manifestKeys])
    (by simp [manifestKeys])
  simp only [manifestItems, List.forall_mem_cons]
  exact ⟨m.fields.datasetId.isAscii_str.isJsonSafe, hlayer.isJsonSafe, h.objectUri, hhash,
    h.schemaName, m.fields.schemaVersion.isAscii_text.isJsonSafe, isSafe_coverageItems _,
    isSafe_jsonTexts h.instrumentUniverse, isSafe_provenanceItems h, isSafe_licenseItems h,
    m.fields.asOf.isAscii_text.isJsonSafe, m.fields.ingestedAt.isAscii_text.isJsonSafe,
    isSafe_qualityItems h, isSafe_revisionItems h, isSafe_jsonText? h.generatedBy, hupstream,
    by simp⟩

/-- **The manifest file is read back.** -/
theorem manifestFromJson_manifestJson (h : m.Storable) :
    ∃ bytes, manifestJson m = .ok bytes ∧ manifestFromJson bytes = .ok m := by
  have hsafe := isSafe_manifestItems h
  obtain ⟨hdumps, hloads⟩ := Json.loads_dumps hsafe
  obtain ⟨bytes, hbytes, hdecode⟩ := decodeAscii_encodeUtf8 (Json.isVisible_render hsafe.isWritable).isAscii
  refine ⟨bytes, ?_, ?_⟩
  · rw [manifestJson, SchemaVersion.str_of_fits h.schemaVersion, Py.ok_bind, hdumps]
    dsimp only
    rw [hbytes]
  · rw [manifestFromJson, hdecode]
    dsimp only
    rw [hloads, Json.sortKeys_obj]
    exact readManifest_sorted h

end DatasetManifest

end FuturesAgentOs
