import FuturesAgentOs.PyModel.Machine
import FuturesAgentOs.SharedKernel.Contracts
import FuturesAgentOs.SharedKernel.Ids
import FuturesAgentOs.SharedKernel.JsonObject

namespace FuturesAgentOs

open PyModel

/-!
# The validation funnel

`research_experiment/v4_002.py`: a batch of candidates is validated level by level.  A task is
known by the digest of its input, and the task of the next level binds the evidence of the last.

* `BatchResearchScheduler.machine` — its runs; what the verifier answers is part of a call.
-/

inductive ValidationLevel where
  | L0
  | L1
  | L2
  deriving DecidableEq

namespace ValidationLevel

def value : ValidationLevel → Text
  | L0 => "L0"
  | L1 => "L1"
  | L2 => "L2"

/-- `_LEVEL_ORDER` -/
def order : List ValidationLevel := [L0, L1, L2]

/-- The level below. -/
def below : ValidationLevel → Option ValidationLevel
  | L0 => none
  | L1 => some L0
  | L2 => some L1

end ValidationLevel

inductive GateDecision where
  | PASS
  | FAIL
  deriving DecidableEq

def GateDecision.value : GateDecision → Text
  | PASS => "PASS"
  | FAIL => "FAIL"

inductive TaskStatus where
  | QUEUED
  | PASSED
  | FAILED
  deriving DecidableEq

/-! ### References and contracts -/

structure PinnedRefFields where
  identity : Text
  revision : Text
  contentSha256 : Text
  deriving DecidableEq

instance : Dataclass PinnedRefFields where
  postInit f := do
    require (f.identity.strip ≠ []) (valueError "artifact reference requires an identity")
    require (f.revision.strip ≠ []) (valueError "artifact reference requires a revision")
    require f.contentSha256.IsHexDigest
      (valueError "artifact reference requires a lowercase SHA-256 digest")

abbrev PinnedRef := Frozen PinnedRefFields

def PinnedRef.toDict (r : PinnedRef) : Json :=
  .obj [("kind", .str "artifact"), ("identity", .str r.fields.identity),
    ("revision", .str r.fields.revision), ("content_sha256", .str r.fields.contentSha256)]

structure LevelContractFields where
  level : ValidationLevel
  inputSemantics : Text
  purpose : Text
  limitations : List Text
  requiredArtifacts : List Text
  requiredChecks : List Text
  promotionGateRef : PinnedRef
  deriving DecidableEq

instance : Dataclass LevelContractFields where
  postInit f := do
    require (∀ text ∈ f.inputSemantics :: f.purpose
        :: (f.limitations ++ f.requiredArtifacts ++ f.requiredChecks), text.strip ≠ [])
      (valueError "level contract fields must be explicit")
    require (f.limitations ≠ [] ∧ f.requiredArtifacts ≠ [] ∧ f.requiredChecks ≠ [])
      (valueError "level contract requires limitations, artifacts and checks")
    require (f.requiredArtifacts.Nodup ∧ f.requiredChecks.Nodup)
      (valueError "level contract requirements must be unique")

abbrev LevelContract := Frozen LevelContractFields

def LevelContract.toDict (c : LevelContract) : Json :=
  .obj [("level", .str c.fields.level.value), ("input_semantics", .str c.fields.inputSemantics),
    ("purpose", .str c.fields.purpose), ("limitations", jsonTexts c.fields.limitations),
    ("required_artifacts", jsonTexts c.fields.requiredArtifacts),
    ("required_checks", jsonTexts c.fields.requiredChecks),
    ("promotion_gate_ref", c.fields.promotionGateRef.toDict)]

section
variable [Hashlib]

def makeContract (level : ValidationLevel) (revisionLevel inputs purpose : Text)
    (limitations artifacts checks : List Text) : Py LevelContract := do
  let digest ← canonicalSha256 (.obj [("level", .str level.value),
    ("artifacts", jsonTexts artifacts), ("checks", jsonTexts checks)])
  let gate ← Frozen.make
    { identity := Text.ofString "validation-gate-" ++ revisionLevel
      revision := "v4-002.1"
      contentSha256 := digest }
  Frozen.make
    { level
      inputSemantics := inputs
      purpose
      limitations
      requiredArtifacts := artifacts
      requiredChecks := checks
      promotionGateRef := gate }

def standardLevelContracts : Py (List LevelContract) := do
  let l0 ← makeContract .L0 "l0" "PIT signal observations aligned only with forward labels"
    "direction and label sanity checking"
    ["does not claim tradable returns", "does not model fills, margin or portfolio effects"]
    ["l0_metrics", "lineage"] ["pit_only", "label_alignment", "direction_only"]
  let l1 ← makeContract .L1 "l1" "frozen bar series, rule, costs and chronological split"
    "fast bar-level strategy screening"
    ["fill semantics are approximate",
      "portfolio margin and event ordering are not authoritative"]
    ["l1_metrics", "cost_breakdown", "lineage"]
    ["pit_only", "chronological_split", "costs_applied", "no_fill_claim"]
  let l2 ← makeContract .L2 "l2"
    "frozen event stream executed through the deterministic simulation and accounting owners"
    "event-driven multi-instrument, margin, portfolio and ledger validation"
    ["not tick/queue fidelity", "not paper or forward validation"]
    ["execution_facts", "accounting_replay", "lineage"]
    ["pit_only", "event_driven", "margin_accounting", "ledger_reconciled"]
  .ok [l0, l1, l2]

end

structure ConnectorRefFields where
  connectorId : Text
  version : Text
  implementationSha256 : Text
  inputSchemaSha256 : Text
  outputSchemaSha256 : Text
  levels : List ValidationLevel
  external : Bool := false
  deriving DecidableEq

instance : Dataclass ConnectorRefFields where
  postInit f := do
    require (f.connectorId.strip ≠ [] ∧ f.version.strip ≠ [])
      (valueError "connector identity and version are required")
    require (∀ text ∈ [f.implementationSha256, f.inputSchemaSha256, f.outputSchemaSha256],
        text.IsHexDigest)
      (valueError "connector hashes require lowercase SHA-256")
    require (f.levels ≠ []) (valueError "connector requires typed supported levels")
    require (ValidationLevel.order.filter (· ∈ f.levels) = f.levels)
      (valueError "connector levels must be unique and ordered")

abbrev ConnectorRef := Frozen ConnectorRefFields

def ConnectorRef.toDict (c : ConnectorRef) : Json :=
  .obj [("connector_id", .str c.fields.connectorId), ("version", .str c.fields.version),
    ("implementation_sha256", .str c.fields.implementationSha256),
    ("input_schema_sha256", .str c.fields.inputSchemaSha256),
    ("output_schema_sha256", .str c.fields.outputSchemaSha256),
    ("levels", jsonTexts (c.fields.levels.map ValidationLevel.value)),
    ("external", .bool c.fields.external)]

/-! ### Candidates and plans -/

/-- A digest, as a text. -/
abbrev Sha256Text := {t : Text // t.IsHexDigest}

structure FunnelCandidateFields where
  candidateRef : PinnedRef
  /-- `experiment_plan.content_sha256` -/
  experimentPlanSha256 : Sha256Text
  sourceLineage : List PinnedRef
  levels : List ValidationLevel := ValidationLevel.order
  deriving DecidableEq

instance : Dataclass FunnelCandidateFields where
  postInit f := do
    require (f.sourceLineage ≠ []) (valueError "funnel candidate requires immutable source lineage")
    require (f.levels ∈ [ValidationLevel.order.take 1, ValidationLevel.order.take 2,
        ValidationLevel.order])
      (valueError "validation levels must be a contiguous L0-first prefix")

abbrev FunnelCandidate := Frozen FunnelCandidateFields

section
variable [Hashlib]

def ConnectorRef.contentSha256 (c : ConnectorRef) : Py Text := canonicalSha256 c.toDict

def FunnelCandidate.contentSha256 (c : FunnelCandidate) : Py Text :=
  canonicalSha256 (.obj [("candidate_ref", PinnedRef.toDict c.fields.candidateRef),
    ("experiment_plan_sha256", .str c.fields.experimentPlanSha256.val),
    ("source_lineage", .arr (c.fields.sourceLineage.map PinnedRef.toDict)),
    ("levels", jsonTexts (c.fields.levels.map ValidationLevel.value))])

end

structure BatchResearchPlanFields where
  batchId : EntityId
  schemaVersion : SchemaVersion
  candidates : List FunnelCandidate
  levelContracts : List LevelContract
  deriving DecidableEq

section
variable [Hashlib]

@[irreducible]
def BatchResearchPlanFields.postInit (f : BatchResearchPlanFields) : Py Unit := do
  require (f.batchId.nspace = "research_batch")
    (valueError "batch plan requires research_batch identity and schema version")
  require (f.candidates ≠ []) (valueError "batch plan requires typed candidates")
  let hashes ← f.candidates.mapM FunnelCandidate.contentSha256
  require hashes.Nodup (valueError "batch candidates must be unique")
  let contracts ← standardLevelContracts
  require (f.levelContracts = contracts)
    (valueError "batch plan must use the standard V4-002 level contracts")

instance : Dataclass BatchResearchPlanFields := ⟨BatchResearchPlanFields.postInit⟩

abbrev BatchResearchPlan := Frozen BatchResearchPlanFields

def BatchResearchPlan.contentSha256 (p : BatchResearchPlan) : Py Text := do
  let schemaVersion ← SchemaVersion.str p.fields.schemaVersion
  let hashes ← p.fields.candidates.mapM FunnelCandidate.contentSha256
  canonicalSha256 (.obj [("batch_id", .str p.fields.batchId.str),
    ("schema_version", .str schemaVersion), ("candidates", jsonTexts hashes),
    ("level_contracts", .arr (p.fields.levelContracts.map LevelContract.toDict))])

end

/-! ### Tasks, outputs and evidence -/

structure ValidationTask where
  taskId : EntityId
  batchSha256 : Text
  candidateSha256 : Text
  planSha256 : Text
  level : ValidationLevel
  levelContractSha256 : Text
  connector : ConnectorRef
  predecessorEvidenceSha256 : Option Text := none
  deriving DecidableEq

/-- What the input of a task binds, the digest of its connector given. -/
def ValidationTask.inputItems (t : ValidationTask) (connectorSha256 : Text) : List (Text × Json) :=
  [("batch", .str t.batchSha256), ("candidate", .str t.candidateSha256),
    ("plan", .str t.planSha256), ("level", .str t.level.value),
    ("contract", .str t.levelContractSha256), ("connector", .str connectorSha256),
    ("predecessor", jsonText? t.predecessorEvidenceSha256)]

structure ArtifactEntryFields where
  name : Text
  contentSha256 : Text
  uri : Text
  deriving DecidableEq

instance : Dataclass ArtifactEntryFields where
  postInit f := do
    require (f.name.strip ≠ [] ∧ f.uri.strip ≠ [])
      (valueError "artifact entry requires name and uri")
    require f.contentSha256.IsHexDigest
      (valueError "artifact entry requires a lowercase SHA-256 digest")

abbrev ArtifactEntry := Frozen ArtifactEntryFields

def ArtifactEntry.toDict (e : ArtifactEntry) : Json :=
  .obj [("name", .str e.fields.name), ("content_sha256", .str e.fields.contentSha256),
    ("uri", .str e.fields.uri)]

/-- The names of artifact entries. -/
def artifactNames (entries : List ArtifactEntry) : List Text := entries.map fun e => e.fields.name

structure ArtifactManifestFields where
  entries : List ArtifactEntry
  deriving DecidableEq

instance : Dataclass ArtifactManifestFields where
  postInit f := do
    require (f.entries ≠ []) (valueError "artifact manifest requires typed entries")
    require ((artifactNames f.entries).Pairwise (fun s t => Text.le s t = true)
        ∧ (artifactNames f.entries).Nodup)
      (valueError "artifact entries must be unique and canonically ordered")

abbrev ArtifactManifest := Frozen ArtifactManifestFields

structure ConnectorOutputFields where
  taskInputSha256 : Text
  connectorSha256 : Text
  outputSchemaSha256 : Text
  artifactManifest : ArtifactManifest
  /-- `metrics`, as JSON -/
  metrics : Json
  warnings : List Text := []
  /-- `external_summary`, as JSON -/
  externalSummary : Json := .obj []

instance : Dataclass ConnectorOutputFields where
  postInit f := require (∀ warning ∈ f.warnings, warning.strip ≠ [])
    (valueError "connector warnings must be non-empty strings")

abbrev ConnectorOutput := Frozen ConnectorOutputFields

structure LevelEvidence where
  taskInputSha256 : Text
  connectorOutputSha256 : Text
  verifierRef : PinnedRef
  verifiedArtifactSha256s : List Text
  checks : Dict Text Bool
  decision : GateDecision
  limitations : List Text

section
variable [Hashlib]

def ValidationTask.inputSha256 (t : ValidationTask) : Py Text := do
  let connectorSha256 ← t.connector.contentSha256
  canonicalSha256 (.obj (t.inputItems connectorSha256))

def ConnectorOutput.contentSha256 (o : ConnectorOutput) : Py Text := do
  let manifest ← canonicalSha256
    (.obj [("entries", .arr (o.fields.artifactManifest.fields.entries.map ArtifactEntry.toDict))])
  canonicalSha256 (.obj [("task_input_sha256", .str o.fields.taskInputSha256),
    ("connector_sha256", .str o.fields.connectorSha256),
    ("output_schema_sha256", .str o.fields.outputSchemaSha256),
    ("artifact_manifest_sha256", .str manifest), ("metrics", o.fields.metrics),
    ("warnings", jsonTexts o.fields.warnings), ("external_summary", o.fields.externalSummary)])

def LevelEvidence.contentSha256 (e : LevelEvidence) : Py Text :=
  canonicalSha256 (.obj [("task_input_sha256", .str e.taskInputSha256),
    ("connector_output_sha256", .str e.connectorOutputSha256),
    ("verifier_ref", e.verifierRef.toDict),
    ("verified_artifact_sha256s", jsonTexts e.verifiedArtifactSha256s),
    ("checks", .obj (e.checks.items.map fun p => (p.1, .bool p.2))),
    ("decision", .str e.decision.value), ("limitations", jsonTexts e.limitations)])

/-! ### The scheduler -/

/-- `BatchResearchScheduler`; the verifier answers within a call. -/
structure BatchResearchScheduler where
  plan : BatchResearchPlan
  connectors : List ConnectorRef
  tasks : Dict Text ValidationTask := Dict.empty
  status : Dict Text TaskStatus := Dict.empty
  evidence : Dict Text LevelEvidence := Dict.empty
  /-- not in the source: every task that was queued, in order, also one that is overwritten -/
  queuedTasks : List ValidationTask := []

/-- A call of `accept`, with what the verifier has for its reference and for its answer. -/
structure AcceptCall where
  task : ValidationTask
  output : ConnectorOutput
  verifierRef : PinnedRef
  verified : Py LevelEvidence

namespace BatchResearchScheduler

variable (s : BatchResearchScheduler)

def contract (level : ValidationLevel) : Py LevelContract :=
  match s.plan.fields.levelContracts.find? (fun item => item.fields.level = level) with
  | some item => .ok item
  | none => .error ⟨.stopIteration, ""⟩

def connector (level : ValidationLevel) : Py ConnectorRef :=
  match s.connectors.filter (fun item => level ∈ item.fields.levels) with
  | [item] => .ok item
  | _ => .error (valueError (Text.ofString "level " ++ level.value
      ++ Text.ofString " requires exactly one registered connector"))

/-- The task that `_queue` builds. -/
def buildTask (candidate : FunnelCandidate) (level : ValidationLevel)
    (predecessor : Option LevelEvidence) : Py ValidationTask := do
  let contract ← s.contract level
  let connector ← s.connector level
  let batch ← s.plan.contentSha256
  let candidateSha256 ← candidate.contentSha256
  let predecessorSha256 ← predecessor.mapM LevelEvidence.contentSha256
  let seed ← canonicalSha256 (.obj [("batch", .str batch), ("candidate", .str candidateSha256),
    ("level", .str level.value), ("predecessor", jsonText? predecessorSha256)])
  let taskId ← EntityId.deterministic "research_validation_task" seed
  let levelContractSha256 ← canonicalSha256 contract.toDict
  .ok
    { taskId
      batchSha256 := batch
      candidateSha256
      planSha256 := candidate.fields.experimentPlanSha256.val
      level
      levelContractSha256
      connector
      predecessorEvidenceSha256 := predecessorSha256 }

/-- The task is stored and queued. -/
def store (key : Text) (task : ValidationTask) : BatchResearchScheduler :=
  { s with
    tasks := s.tasks.set key task
    status := s.status.set key .QUEUED
    queuedTasks := s.queuedTasks ++ [task] }

def queue (candidate : FunnelCandidate) (level : ValidationLevel)
    (predecessor : Option LevelEvidence) : Py BatchResearchScheduler := do
  let task ← s.buildTask candidate level predecessor
  let key ← task.inputSha256
  .ok (s.store key task)

/-- The loop of the constructor. -/
def queueAll : List FunnelCandidate → BatchResearchScheduler → Py BatchResearchScheduler
  | [], s => .ok s
  | candidate :: rest, s =>
    match candidate.fields.levels with
    | [] => .error ⟨.indexError, "tuple index out of range"⟩
    | level :: _ => do
      let queued ← s.queue candidate level none
      queueAll rest queued

/-- `BatchResearchScheduler(plan, connectors, verifier)` -/
def new (plan : BatchResearchPlan) (connectors : List ConnectorRef) :
    Py BatchResearchScheduler := do
  require (connectors ≠ []) (valueError "scheduler requires a batch plan and connectors")
  require (connectors.map (fun item => item.fields.connectorId)).Nodup
    (valueError "connector identities must be unique")
  queueAll plan.fields.candidates { plan, connectors }

/-- `PASS` when every required artifact is there and every check holds. -/
def expectedDecision (contract : LevelContract) (output : ConnectorOutput)
    (evidence : LevelEvidence) : GateDecision :=
  if (∀ name ∈ contract.fields.requiredArtifacts,
        name ∈ artifactNames output.fields.artifactManifest.fields.entries)
      ∧ ∀ check ∈ evidence.checks.values, check = true
    then .PASS else .FAIL

/-- The checks of `accept`: the key of the task and the evidence for it. -/
def checkedEvidence (c : AcceptCall) : Py (Text × LevelEvidence) := do
  let key ← c.task.inputSha256
  require (s.tasks.get? key = some c.task ∧ s.status.get? key = some .QUEUED)
    (valueError "only an exact queued task can accept connector output")
  let contract ← s.contract c.task.level
  let evidence ← c.verified
  let failure := valueError "local evidence does not satisfy the registered level contract"
  require (evidence.taskInputSha256 = key) failure
  let outputSha256 ← c.output.contentSha256
  require (evidence.connectorOutputSha256 = outputSha256 ∧ evidence.verifierRef = c.verifierRef
      ∧ evidence.checks.keys = contract.fields.requiredChecks
      ∧ contract.fields.limitations <+: evidence.limitations)
    failure
  require (evidence.decision = expectedDecision contract c.output evidence)
    (valueError "gate decision does not match local contract checks")
  .ok (key, evidence)

/-- The evidence and the status of a task are stored. -/
def settle (key : Text) (evidence : LevelEvidence) : BatchResearchScheduler :=
  { s with
    evidence := s.evidence.set key evidence
    status := s.status.set key (if evidence.decision = .PASS then .PASSED else .FAILED) }

/-- `next(item for item in candidates if item.content_sha256 == digest)` -/
def candidateOf (digest : Text) : List FunnelCandidate → Py FunnelCandidate
  | [] => .error ⟨.stopIteration, ""⟩
  | candidate :: rest => do
    let candidateSha256 ← candidate.contentSha256
    if candidateSha256 = digest then .ok candidate else candidateOf digest rest

/-- The next level of a candidate is queued, if there is one. -/
def advance (task : ValidationTask) (evidence : LevelEvidence) : Py BatchResearchScheduler := do
  let candidate ← candidateOf task.candidateSha256 s.plan.fields.candidates
  require (task.level ∈ candidate.fields.levels) (valueError "tuple.index(x): x not in tuple")
  match candidate.fields.levels[candidate.fields.levels.idxOf task.level + 1]? with
  | none => .ok s
  | some level => s.queue candidate level (some evidence)

def accept (c : AcceptCall) : Py LevelEvidence × BatchResearchScheduler :=
  match s.checkedEvidence c with
  | .error e => (.error e, s)
  | .ok (key, evidence) =>
    let settled := s.settle key evidence
    if evidence.decision = .PASS then
      match settled.advance c.task evidence with
      | .error e => (.error e, settled)
      | .ok after => (.ok evidence, after)
    else (.ok evidence, settled)

/-- The scheduler, as a machine of its `accept` calls. -/
def machine : Machine BatchResearchScheduler AcceptCall (Py LevelEvidence) := ⟨accept⟩

end BatchResearchScheduler

end

end FuturesAgentOs
