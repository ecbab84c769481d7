import FuturesAgentOs.PyModel.Machine
import FuturesAgentOs.SharedKernel.Elapsed
import FuturesAgentOs.SharedKernel.JsonObject

namespace FuturesAgentOs

open PyModel

/-!
# The journal of a stability run

`operations/stability.py`: heartbeats are written line by line into a file, each bound to the
digest of the last, and the chain is evaluated against the plan of the run.

* `StabilityJournal.loadHeartbeats`, `append` — the journal, and `machine`, its runs.
-/

/-! ### Plans -/

structure StabilityRunPlanFields where
  runId : Text
  startedAt : RecordedAt
  minimumEndAt : RecordedAt
  codeCommit : Text
  environment : Text
  heartbeatIntervalSeconds : ℤ := 900
  maximumSingleGapSeconds : ℤ := 3600
  maximumTotalGapSeconds : ℤ := 21600
  deriving DecidableEq

/-- `_text` -/
def stabilityText (value label : Text) : Py Unit :=
  require value.IsStripped (valueError (label ++ Text.ofString " must be canonical text"))

/-- `_MINIMUM_DURATION`, in microseconds. -/
def minimumDuration : ℤ := 86400000000

instance : Dataclass StabilityRunPlanFields where
  postInit f := do
    stabilityText f.runId "run_id"
    stabilityText f.codeCommit "code_commit"
    stabilityText f.environment "environment"
    require (minimumDuration ≤ f.minimumEndAt.since f.startedAt)
      (valueError "stability plan must cover at least 1 real day")
    require (1 ≤ f.heartbeatIntervalSeconds ∧ 1 ≤ f.maximumSingleGapSeconds
        ∧ 1 ≤ f.maximumTotalGapSeconds)
      (valueError "stability cadence and gap budgets must be positive integers")
    require (f.heartbeatIntervalSeconds < f.maximumSingleGapSeconds)
      (valueError "single-gap threshold must exceed the heartbeat interval")
    require (f.maximumSingleGapSeconds ≤ f.maximumTotalGapSeconds)
      (valueError "total gap budget cannot be below the single-gap threshold")
    require (f.environment ∈ (["local", "test", "staging", "sim-prod"] : List Text))
      (valueError "stability environment must be a simulation environment")

abbrev StabilityRunPlan := Frozen StabilityRunPlanFields

/-- `int((now - started_at).total_seconds() // heartbeat_interval_seconds)` -/
def StabilityRunPlan.bucketAt (p : StabilityRunPlan) (now : RecordedAt) : ℤ :=
  now.since p.fields.startedAt / (p.fields.heartbeatIntervalSeconds * 1000000)

/-! ### Incidents -/

structure StabilityIncidentFields where
  incidentId : Text
  category : Text
  detectedAt : RecordedAt
  recoveredAt : RecordedAt
  reportRef : Text
  downtimeSeconds : Decimal
  deriving DecidableEq

instance : Dataclass StabilityIncidentFields where
  postInit f := do
    stabilityText f.incidentId "incident_id"
    stabilityText f.category "category"
    stabilityText f.reportRef "report_ref"
    require (f.detectedAt < f.recoveredAt) (valueError "incident recovery must follow detection")
    require (Decimal.ofNat 0 < f.downtimeSeconds) (valueError "incident downtime must be positive")

abbrev StabilityIncident := Frozen StabilityIncidentFields

/-- `to_payload` -/
def StabilityIncident.payloadItems (i : StabilityIncident) : List (Text × Json) := [
  ("incident_id", .str i.fields.incidentId),
  ("category", .str i.fields.category),
  ("detected_at", .str i.fields.detectedAt.text),
  ("recovered_at", .str i.fields.recoveredAt.text),
  ("report_ref", .str i.fields.reportRef),
  ("downtime_seconds", .str i.fields.downtimeSeconds.str)]

/-! ### Heartbeats -/

/-- The arguments of `StabilityHeartbeat.issue`. -/
structure HeartbeatBody where
  runId : Text
  sequence : ℤ
  bucket : ℤ
  recordedAt : RecordedAt
  codeCommit : Text
  healthOk : Bool
  simulatedTradeCount : ℤ
  duplicateTradeCount : ℤ
  unprotectedPositionCount : ℤ
  auditChainBreakCount : ℤ
  ledgerDifference : Decimal
  incidents : List StabilityIncident
  previousDigest : Text
  deriving DecidableEq

/-- `hash_payload` -/
def HeartbeatBody.hashItems (b : HeartbeatBody) : List (Text × Json) := [
  ("run_id", .str b.runId),
  ("sequence", .int b.sequence),
  ("bucket", .int b.bucket),
  ("recorded_at", .str b.recordedAt.text),
  ("code_commit", .str b.codeCommit),
  ("health_ok", .bool b.healthOk),
  ("simulated_trade_count", .int b.simulatedTradeCount),
  ("duplicate_trade_count", .int b.duplicateTradeCount),
  ("unprotected_position_count", .int b.unprotectedPositionCount),
  ("audit_chain_break_count", .int b.auditChainBreakCount),
  ("ledger_difference", .str b.ledgerDifference.str),
  ("incidents", .arr (b.incidents.map fun i => .obj i.payloadItems)),
  ("previous_digest", .str b.previousDigest)]

structure StabilityHeartbeatFields where
  body : HeartbeatBody
  digest : Text
  deriving DecidableEq

/-- `_digest` -/
def stabilityDigest (value label : Text) : Py Unit :=
  require value.IsHexDigest
    (valueError (label ++ Text.ofString " must be a lowercase SHA-256 digest"))

/-- The keys of the payload of an incident. -/
def incidentKeys : List Text :=
  ["incident_id", "category", "detected_at", "recovered_at", "report_ref", "downtime_seconds"]

/-- `required` of `StabilityHeartbeat.from_payload` -/
def heartbeatKeys : List Text :=
  ["run_id", "sequence", "bucket", "recorded_at", "code_commit", "health_ok",
    "simulated_trade_count", "duplicate_trade_count", "unprotected_position_count",
    "audit_chain_break_count", "ledger_difference", "incidents", "previous_digest", "digest"]

/-- `_GENESIS` -/
def stabilityGenesis : Text := List.replicate 64 (Text.ofChar '0')

section
variable [Hashlib]

@[irreducible]
def StabilityHeartbeatFields.postInit (f : StabilityHeartbeatFields) : Py Unit := do
  stabilityText f.body.runId "run_id"
  stabilityText f.body.codeCommit "code_commit"
  require (1 ≤ f.body.sequence ∧ 0 ≤ f.body.bucket)
    (valueError "heartbeat sequence must be positive and bucket non-negative")
  require (∀ count ∈ [f.body.simulatedTradeCount, f.body.duplicateTradeCount,
      f.body.unprotectedPositionCount, f.body.auditChainBreakCount], 0 ≤ count)
    (valueError "heartbeat invariant counts must be non-negative integers")
  require (Decimal.ofNat 0 ≤ f.body.ledgerDifference)
    (valueError "heartbeat ledger difference cannot be negative")
  stabilityDigest f.body.previousDigest "previous_digest"
  stabilityDigest f.digest "digest"
  let expected ← canonicalSha256 (.obj f.body.hashItems)
  require (f.digest = expected) (valueError "heartbeat digest does not match its payload")

instance : Dataclass StabilityHeartbeatFields := ⟨StabilityHeartbeatFields.postInit⟩

abbrev StabilityHeartbeat := Frozen StabilityHeartbeatFields

namespace StabilityHeartbeat

def issue (body : HeartbeatBody) : Py StabilityHeartbeat := do
  let digest ← canonicalSha256 (.obj body.hashItems)
  Frozen.make { body, digest }

/-- `to_payload` -/
def payloadItems (h : StabilityHeartbeat) : List (Text × Json) :=
  h.fields.body.hashItems ++ [(("digest" : Text), Json.str h.fields.digest)]

end StabilityHeartbeat

/-! ### Reading -/

variable (isPrintable : CodePoint → Bool)

/-- `StabilityIncident.from_payload` -/
def incidentFromPayload : Json → Py StabilityIncident
  | .obj items => do
    require (Json.keysAre items incidentKeys)
      (valueError "incident payload fields are not exact")
    let incidentId ← strItem isPrintable items "incident_id"
    let category ← strItem isPrintable items "category"
    let detectedAt ← strItem isPrintable items "detected_at" >>= RecordedAt.parse
    let recoveredAt ← strItem isPrintable items "recovered_at" >>= RecordedAt.parse
    let reportRef ← strItem isPrintable items "report_ref"
    let downtime ← strItem isPrintable items "downtime_seconds" >>= decimalOfStr
    -- the checks of an incident raise `ValueError` only, so that it does not matter which is first
    let downtimeSeconds ← finiteDecimal downtime (valueError "incident downtime must be finite")
    Frozen.make { incidentId, category, detectedAt, recoveredAt, reportRef, downtimeSeconds }
  | _ => .error (valueError "incident payload fields are not exact")

/-- `value["health_ok"]`, which the constructor takes only when it is a `bool`. -/
def healthOf : Json → Py Bool
  | .bool b => .ok b
  | _ => .error (typeError "heartbeat requires typed timestamp and health")

/-- The items of `value["incidents"]`. -/
def incidentsOf : Json → Py (List StabilityIncident)
  | .arr items => items.mapM (incidentFromPayload isPrintable)
  | _ => .error (valueError "heartbeat payload fields are not exact")

/-- `StabilityHeartbeat.from_payload`; whatever it raises of a type or a value is caught. -/
def heartbeatFromPayload : Json → Py StabilityHeartbeat
  | .obj items => do
    require (Json.keysAre items heartbeatKeys)
      (valueError "heartbeat payload fields are not exact")
    let runId ← strItem isPrintable items "run_id"
    let sequence ← strItem isPrintable items "sequence" >>= intOfStr
    let bucket ← strItem isPrintable items "bucket" >>= intOfStr
    let recordedAt ← strItem isPrintable items "recorded_at" >>= RecordedAt.parse
    let codeCommit ← strItem isPrintable items "code_commit"
    let health ← Json.item items "health_ok"
    let simulatedTradeCount ← strItem isPrintable items "simulated_trade_count" >>= intOfStr
    let duplicateTradeCount ← strItem isPrintable items "duplicate_trade_count" >>= intOfStr
    let unprotectedPositionCount ← strItem isPrintable items "unprotected_position_count"
      >>= intOfStr
    let auditChainBreakCount ← strItem isPrintable items "audit_chain_break_count" >>= intOfStr
    let ledger ← strItem isPrintable items "ledger_difference" >>= decimalOfStr
    let incidents ← Json.item items "incidents" >>= incidentsOf isPrintable
    let previousDigest ← strItem isPrintable items "previous_digest"
    let digest ← strItem isPrintable items "digest"
    let healthOk ← healthOf health
    let ledgerDifference ← finiteDecimal ledger
      (valueError "heartbeat ledger difference must be finite")
    let body : HeartbeatBody :=
      { runId, sequence, bucket, recordedAt, codeCommit, healthOk, simulatedTradeCount,
        duplicateTradeCount, unprotectedPositionCount, auditChainBreakCount, ledgerDifference,
        incidents, previousDigest }
    Frozen.make { body, digest }
  | _ => .error (valueError "heartbeat payload must be an object")

end

/-! ### Evaluation -/

/-- The reason codes of an evaluation. -/
inductive StabilityReason where
  | INVALID_HEARTBEAT_CHAIN
  | UNREPORTED_HEARTBEAT_GAP
  | SINGLE_GAP_BUDGET_EXCEEDED
  | HEALTH_CHECK_FAILED
  | NO_SIMULATED_TRADE
  | DUPLICATE_TRADE
  | UNPROTECTED_POSITION
  | AUDIT_CHAIN_BREAK
  | LEDGER_DIFFERENCE
  | NO_HEARTBEATS
  | MINIMUM_1_DAY_NOT_ELAPSED
  | TOTAL_GAP_BUDGET_EXCEEDED
  deriving DecidableEq

structure StabilityEvaluation where
  complete : Bool
  reasonCodes : List StabilityReason
  heartbeatCount : ℕ
  elapsedSeconds : Decimal
  totalGapSeconds : Decimal
  incidentCount : ℕ
  finalDigest : Option Text

/-- The variables of the loop of `evaluate_stability_run`. -/
structure ChainScan where
  reasons : List StabilityReason := []
  previousDigest : Text := stabilityGenesis
  previousAt : RecordedAt
  previousBucket : ℤ := -1
  totalGap : Decimal := Decimal.ofNat 0
  incidents : ℕ := 0

/-- `Decimal(n)` of a positive number. -/
def decimalOfInt (n : ℤ) : Decimal := Decimal.ofNat n.toNat

section
variable [Hashlib] (p : StabilityRunPlan) (scan : ChainScan) (h : StabilityHeartbeat)

/-- A heartbeat that is not the next of a chain. -/
def BreaksChain (expectedSequence : ℕ) : Prop :=
  h.fields.body.sequence ≠ expectedSequence ∨ h.fields.body.runId ≠ p.fields.runId
    ∨ h.fields.body.codeCommit ≠ p.fields.codeCommit
    ∨ h.fields.body.previousDigest ≠ scan.previousDigest
    ∨ h.fields.body.bucket ≤ scan.previousBucket
    ∨ h.fields.body.recordedAt < scan.previousAt
    ∨ h.fields.body.bucket ≠ p.bucketAt h.fields.body.recordedAt

instance (expectedSequence : ℕ) : Decidable (BreaksChain p scan h expectedSequence) :=
  inferInstanceAs (Decidable (_ ∨ _))

/-- An incident reports a gap. -/
def ReportsGap (excess : Decimal) (i : StabilityIncident) : Prop :=
  i.fields.category = "HEARTBEAT_GAP" ∧ i.fields.detectedAt = scan.previousAt
    ∧ i.fields.recoveredAt = h.fields.body.recordedAt
    ∧ Decimal.numEq i.fields.downtimeSeconds excess

instance (excess : Decimal) (i : StabilityIncident) : Decidable (ReportsGap scan h excess i) :=
  inferInstanceAs (Decidable (_ ∧ _))

/-- What the gap before a heartbeat adds. -/
def ChainScan.afterGap : ChainScan :=
  let gap := secondsDecimal (h.fields.body.recordedAt.since scan.previousAt)
  let excess := Decimal.max' (Decimal.ofNat 0)
    (gap.sub (decimalOfInt p.fields.heartbeatIntervalSeconds))
  if decimalOfInt (p.fields.heartbeatIntervalSeconds * 2) < gap then
    { scan with
      totalGap := scan.totalGap.add excess
      reasons := scan.reasons
        ++ (if ∃ i ∈ h.fields.body.incidents, ReportsGap scan h excess i then []
            else [.UNREPORTED_HEARTBEAT_GAP])
        ++ (if decimalOfInt p.fields.maximumSingleGapSeconds < gap
            then [.SINGLE_GAP_BUDGET_EXCEEDED] else []) }
  else scan

/-- The reasons of the measurements of a heartbeat. -/
def StabilityHeartbeat.measured : List StabilityReason :=
  let body := h.fields.body
  (if body.healthOk then [] else [.HEALTH_CHECK_FAILED])
    ++ (if body.simulatedTradeCount < 1 then [.NO_SIMULATED_TRADE] else [])
    ++ (if body.duplicateTradeCount ≠ 0 then [.DUPLICATE_TRADE] else [])
    ++ (if body.unprotectedPositionCount ≠ 0 then [.UNPROTECTED_POSITION] else [])
    ++ (if body.auditChainBreakCount ≠ 0 then [.AUDIT_CHAIN_BREAK] else [])
    ++ (if body.ledgerDifference.coeff ≠ 0 then [.LEDGER_DIFFERENCE] else [])

/-- One heartbeat of the loop. -/
def ChainScan.after : ChainScan :=
  let gapped := scan.afterGap p h
  { gapped with
    reasons := gapped.reasons ++ h.measured
    incidents := gapped.incidents + h.fields.body.incidents.length
    previousDigest := h.fields.digest
    previousAt := h.fields.body.recordedAt
    previousBucket := h.fields.body.bucket }

/-- The loop of `evaluate_stability_run`. -/
def ChainScan.run : ℕ → ChainScan → List StabilityHeartbeat → ChainScan
  | _, scan, [] => scan
  | expectedSequence, scan, h :: rest =>
    if BreaksChain p scan h expectedSequence then
      { scan with reasons := scan.reasons ++ [.INVALID_HEARTBEAT_CHAIN] }
    else run (expectedSequence + 1) (scan.after p h) rest

def evaluateStabilityRun (heartbeats : List StabilityHeartbeat) (now : RecordedAt) :
    StabilityEvaluation :=
  let scan := ChainScan.run p 1 { previousAt := p.fields.startedAt } heartbeats
  let last := heartbeats.getLast?
  let ending := match last with
    | none => [.NO_HEARTBEATS]
    | some last =>
      if last.fields.body.recordedAt < p.fields.minimumEndAt ∨ now < p.fields.minimumEndAt
        then [.MINIMUM_1_DAY_NOT_ELAPSED] else []
  let budget :=
    if decimalOfInt p.fields.maximumTotalGapSeconds < scan.totalGap
      then [.TOTAL_GAP_BUDGET_EXCEEDED] else []
  -- `tuple(dict.fromkeys(reasons))`: the first of each reason stays
  let reasons := (scan.reasons ++ ending ++ budget).reverse.dedup.reverse
  { complete := reasons.isEmpty
    reasonCodes := reasons
    heartbeatCount := heartbeats.length
    elapsedSeconds := match last with
      | none => Decimal.ofNat 0
      | some last => secondsDecimal (last.fields.body.recordedAt.since p.fields.startedAt)
    totalGapSeconds := scan.totalGap
    incidentCount := scan.incidents
    finalDigest := last.map fun last => last.fields.digest }

end

/-! ### The journal -/

/-- A plan that was read from a file: `json.loads` joins every surrogate pair. -/
structure LoadedPlan where
  plan : StabilityRunPlan
  runId_safe : plan.fields.runId.IsJsonSafe
  codeCommit_safe : plan.fields.codeCommit.IsJsonSafe

/-- `StabilityJournal`, by its two files. -/
structure StabilityJournal where
  /-- what `load_plan` makes of `plan.json`, which is never written again -/
  plan : Py LoadedPlan
  /-- the lines of `heartbeats.jsonl` -/
  lines : List Text := []

/-- The arguments of `append`. -/
structure AppendHeartbeat where
  now : RecordedAt
  codeCommit : Text
  healthOk : Bool
  simulatedTradeCount : ℤ
  duplicateTradeCount : ℤ
  unprotectedPositionCount : ℤ
  auditChainBreakCount : ℤ
  ledgerDifference : Decimal

namespace StabilityJournal

section
variable [Hashlib] (isPrintable : CodePoint → Bool) (j : StabilityJournal)

/-- `StabilityHeartbeat.from_payload(json.loads(line))` -/
def readLine (line : Text) : Py StabilityHeartbeat :=
  match Json.loads line with
  | none => .error ⟨.jsonDecodeError, "Expecting value"⟩
  | some value => heartbeatFromPayload isPrintable value

/-- The heartbeats of the file. -/
def readLines : Py (List StabilityHeartbeat) :=
  match j.lines.mapM (readLine isPrintable) with
  | .ok heartbeats => .ok heartbeats
  | .error e =>
    if IsTypeOrValueError e then .error (valueError "cannot load stability heartbeat chain")
    else .error e

def loadHeartbeats : Py (List StabilityHeartbeat) := do
  let heartbeats ← j.readLines isPrintable
  let loaded ← j.plan
  require (.INVALID_HEARTBEAT_CHAIN
      ∉ (evaluateStabilityRun loaded.plan heartbeats loaded.plan.fields.startedAt).reasonCodes)
    (valueError "stability heartbeat chain is invalid")
  .ok heartbeats

end

/-- The incident of a gap that ends now, the number of the heartbeat given. -/
def gapIncident (p : StabilityRunPlan) (previousAt now : RecordedAt) (number : ℕ) :
    Py (List StabilityIncident) :=
  let gapSeconds := secondsDecimal (now.since previousAt)
  if decimalOfInt (p.fields.heartbeatIntervalSeconds * 2) < gapSeconds then do
    let incident ← Frozen.make
      { incidentId := Text.ofString "incident:" ++ p.fields.runId
          ++ Text.ofString ":heartbeat-gap:" ++ Text.ofNat number
        category := "HEARTBEAT_GAP"
        detectedAt := previousAt
        recoveredAt := now
        reportRef := Text.ofString "journal://" ++ p.fields.runId
          ++ Text.ofString "/heartbeats#incident-" ++ Text.ofNat number
        downtimeSeconds := gapSeconds.sub (decimalOfInt p.fields.heartbeatIntervalSeconds) }
    .ok [incident]
  else .ok []

section
variable [Hashlib] (isPrintable : CodePoint → Bool) (j : StabilityJournal)

/-- `previous.recorded_at if previous else plan.started_at` -/
def lastAt (p : StabilityRunPlan) (heartbeats : List StabilityHeartbeat) : RecordedAt :=
  match heartbeats.getLast? with
  | some previous => previous.fields.body.recordedAt
  | none => p.fields.startedAt

/-- `previous.digest if previous else _GENESIS` -/
def lastDigest (heartbeats : List StabilityHeartbeat) : Text :=
  match heartbeats.getLast? with
  | some previous => previous.fields.digest
  | none => stabilityGenesis

/-- What the next heartbeat says. -/
def nextBody (p : StabilityRunPlan) (heartbeats : List StabilityHeartbeat)
    (args : AppendHeartbeat) (incidents : List StabilityIncident) : HeartbeatBody where
  runId := p.fields.runId
  sequence := heartbeats.length + 1
  bucket := p.bucketAt args.now
  recordedAt := args.now
  codeCommit := args.codeCommit
  healthOk := args.healthOk
  simulatedTradeCount := args.simulatedTradeCount
  duplicateTradeCount := args.duplicateTradeCount
  unprotectedPositionCount := args.unprotectedPositionCount
  auditChainBreakCount := args.auditChainBreakCount
  ledgerDifference := args.ledgerDifference
  incidents := incidents
  previousDigest := lastDigest heartbeats

/-- The heartbeat that `append` writes after others. -/
def nextHeartbeat (p : StabilityRunPlan) (heartbeats : List StabilityHeartbeat)
    (args : AppendHeartbeat) : Py StabilityHeartbeat := do
  let incidents ← gapIncident p (lastAt p heartbeats) args.now (heartbeats.length + 1)
  StabilityHeartbeat.issue (nextBody p heartbeats args incidents)

/-- `append` up to the write: the heartbeat that it returns, and the line to write, if any. -/
def prepare (args : AppendHeartbeat) : Py (StabilityHeartbeat × Option Text) := do
  let loaded ← j.plan
  let heartbeats ← j.loadHeartbeats isPrintable
  require (args.codeCommit = loaded.plan.fields.codeCommit)
    (valueError "stability heartbeat code commit drifted from frozen plan")
  require (0 ≤ args.now.since loaded.plan.fields.startedAt)
    (valueError "stability heartbeat precedes run start")
  match heartbeats.getLast?.filter fun last =>
      last.fields.body.bucket = loaded.plan.bucketAt args.now with
  | some last => .ok (last, none)
  | none =>
    let heartbeat ← nextHeartbeat loaded.plan heartbeats args
    match (Json.obj heartbeat.payloadItems).dumps with
    | none => .error (valueError "value must be finite JSON-compatible data")
    | some line => .ok (heartbeat, some line)

def append (args : AppendHeartbeat) : Py StabilityHeartbeat × StabilityJournal :=
  match j.prepare isPrintable args with
  | .error e => (.error e, j)
  | .ok (heartbeat, line) => (.ok heartbeat, { j with lines := j.lines ++ line.toList })

/-- The journal, as a machine of its `append` calls. -/
def machine : Machine StabilityJournal AppendHeartbeat (Py StabilityHeartbeat) :=
  ⟨append isPrintable⟩

end

end StabilityJournal

end FuturesAgentOs
