import FuturesAgentOs.PyModel.Dict
import FuturesAgentOs.SharedKernel.Ids

namespace FuturesAgentOs

open PyModel

/-!
# The autonomy workflow and its repositories

`agent_orchestration/v3_durable.py`: the stages of a run, the references that its checkpoints hold,
and the stored row of one run with the methods of both repositories on it.  A time is a number of
microseconds.

* `claim`, `checkpoint`, `finish` — the methods, in memory and in PostgreSQL.
-/

inductive TriggerOrigin where
  | USER
  | SCHEDULE
  | MARKET
  | ACCOUNT
  | SYSTEM
  deriving DecidableEq

inductive WorkflowStage where
  | TRIGGERED
  | SNAPSHOT
  | OPPORTUNITY_SCAN
  | DELEGATION_AND_CHALLENGE
  | TRADE_PLAN
  | AUTHORIZATION_PREFLIGHT
  | SIZING_AND_RESERVATION
  | FINAL_RECEIPT_GATE
  | RISK_AND_EXECUTION
  | MONITORING
  | NOTIFICATION_AND_REVIEW
  deriving DecidableEq

namespace WorkflowStage

/-- `STAGE_ORDER` -/
def order : List WorkflowStage :=
  [TRIGGERED, SNAPSHOT, OPPORTUNITY_SCAN, DELEGATION_AND_CHALLENGE, TRADE_PLAN,
    AUTHORIZATION_PREFLIGHT, SIZING_AND_RESERVATION, FINAL_RECEIPT_GATE, RISK_AND_EXECUTION,
    MONITORING, NOTIFICATION_AND_REVIEW]

/-- `STAGE_ORDER.index(stage)` -/
def index (s : WorkflowStage) : ℕ := order.idxOf s

/-- `STAGE_ORDER[index + 1]`, unless the stage is the last. -/
def successor (s : WorkflowStage) : Option WorkflowStage := order[s.index + 1]?

def value : WorkflowStage → Text
  | TRIGGERED => "TRIGGERED"
  | SNAPSHOT => "SNAPSHOT"
  | OPPORTUNITY_SCAN => "OPPORTUNITY_SCAN"
  | DELEGATION_AND_CHALLENGE => "DELEGATION_AND_CHALLENGE"
  | TRADE_PLAN => "TRADE_PLAN"
  | AUTHORIZATION_PREFLIGHT => "AUTHORIZATION_PREFLIGHT"
  | SIZING_AND_RESERVATION => "SIZING_AND_RESERVATION"
  | FINAL_RECEIPT_GATE => "FINAL_RECEIPT_GATE"
  | RISK_AND_EXECUTION => "RISK_AND_EXECUTION"
  | MONITORING => "MONITORING"
  | NOTIFICATION_AND_REVIEW => "NOTIFICATION_AND_REVIEW"

theorem nodup_order : order.Nodup := by decide

variable {s target : WorkflowStage}

theorem index_of_successor (h : s.successor = some target) : target.index = s.index + 1 := by
  obtain ⟨hlt, hget⟩ := List.getElem?_eq_some_iff.mp h
  rw [index, ← hget, nodup_order.idxOf_getElem]

/-- One more stage is completed. -/
theorem take_of_successor (h : s.successor = some target) :
    order.take (target.index + 1) = order.take (s.index + 1) ++ [target] := by
  have hget : order[s.index + 1]? = some target := h
  rw [index_of_successor h, List.take_add_one, hget, Option.toList_some]

end WorkflowStage

inductive WorkflowRunStatus where
  | ACTIVE
  | INTERRUPTED
  | COMPLETED
  | DEFERRED
  | FAILED
  deriving DecidableEq

/-- The run is over. -/
def WorkflowRunStatus.IsOver (s : WorkflowRunStatus) : Prop := s ∈ [COMPLETED, DEFERRED, FAILED]

instance (s : WorkflowRunStatus) : Decidable s.IsOver := inferInstanceAs (Decidable (_ ∈ _))

inductive ReferenceKind where
  | SNAPSHOT
  | OPPORTUNITY_SCAN
  | DELEGATION
  | TRADE_PLAN
  | AUTHORIZATION_BASIS
  | RISK_RESERVATION
  | GATE_RECEIPT
  | RISK_DECISION
  | EXECUTION
  | MONITORING
  | NOTIFICATION
  | REVIEW
  deriving DecidableEq

namespace ReferenceKind

/-- The members of `ReferenceKind`, in their order. -/
def members : List ReferenceKind :=
  [SNAPSHOT, OPPORTUNITY_SCAN, DELEGATION, TRADE_PLAN, AUTHORIZATION_BASIS, RISK_RESERVATION,
    GATE_RECEIPT, RISK_DECISION, EXECUTION, MONITORING, NOTIFICATION, REVIEW]

def value : ReferenceKind → Text
  | SNAPSHOT => "SNAPSHOT"
  | OPPORTUNITY_SCAN => "OPPORTUNITY_SCAN"
  | DELEGATION => "DELEGATION"
  | TRADE_PLAN => "TRADE_PLAN"
  | AUTHORIZATION_BASIS => "AUTHORIZATION_BASIS"
  | RISK_RESERVATION => "RISK_RESERVATION"
  | GATE_RECEIPT => "GATE_RECEIPT"
  | RISK_DECISION => "RISK_DECISION"
  | EXECUTION => "EXECUTION"
  | MONITORING => "MONITORING"
  | NOTIFICATION => "NOTIFICATION"
  | REVIEW => "REVIEW"

def recoveryTruth : List ReferenceKind :=
  [SNAPSHOT, TRADE_PLAN, AUTHORIZATION_BASIS, GATE_RECEIPT, RISK_DECISION]

end ReferenceKind

open ReferenceKind in
/-- `_REQUIRED_OUTPUTS.get(stage, frozenset())` -/
def WorkflowStage.requiredOutputs : WorkflowStage → List ReferenceKind
  | TRIGGERED => []
  | SNAPSHOT => [ReferenceKind.SNAPSHOT]
  | OPPORTUNITY_SCAN => [ReferenceKind.OPPORTUNITY_SCAN]
  | DELEGATION_AND_CHALLENGE => [DELEGATION]
  | TRADE_PLAN => [ReferenceKind.TRADE_PLAN]
  | AUTHORIZATION_PREFLIGHT => [AUTHORIZATION_BASIS]
  | SIZING_AND_RESERVATION => [RISK_RESERVATION]
  | FINAL_RECEIPT_GATE => [GATE_RECEIPT]
  | RISK_AND_EXECUTION => [RISK_DECISION, EXECUTION]
  | MONITORING => [ReferenceKind.MONITORING]
  | NOTIFICATION_AND_REVIEW => [NOTIFICATION, REVIEW]

structure StateReferenceFields where
  kind : ReferenceKind
  objectId : Text
  version : ℤ
  sha256 : Text
  deriving DecidableEq

/-- A character of a lower-case hexadecimal number. -/
def isHexDigit (c : CodePoint) : Bool := (48 ≤ c.val && c.val ≤ 57) || (97 ≤ c.val && c.val ≤ 102)

instance : Dataclass StateReferenceFields where
  postInit f := do
    require f.objectId.IsStripped
      (valueError "reference object_id must be non-empty canonical text")
    require (1 ≤ f.version) (valueError "reference version must be positive")
    require (f.sha256.length = 64 ∧ f.sha256.all isHexDigit = true)
      (valueError "reference sha256 must be lowercase hex")

abbrev StateReference := Frozen StateReferenceFields

/-- The kind of a reference. -/
def StateReference.kind (r : StateReference) : ReferenceKind := r.fields.kind

structure AutonomyWorkflowRun where
  runId : Uuid
  triggerOrigin : TriggerOrigin
  triggerIdempotencyKey : Text
  triggerSha256 : Text
  stage : WorkflowStage := .TRIGGERED
  status : WorkflowRunStatus := .ACTIVE
  references : List StateReference := []
  version : ℕ := 1
  fencingToken : ℕ := 0
  leaseOwner : Option Text := none
  leaseExpiresAt : Option ℤ := none
  lastError : Option Text := none
  deriving DecidableEq

namespace AutonomyWorkflowRun

/-- The kinds of the references. -/
def kinds (r : AutonomyWorkflowRun) : List ReferenceKind := r.references.map StateReference.kind

/-- The kinds that the stages completed so far have to give. -/
def requiredKinds (r : AutonomyWorkflowRun) : List ReferenceKind :=
  (WorkflowStage.order.take (r.stage.index + 1)).flatMap WorkflowStage.requiredOutputs

end AutonomyWorkflowRun

structure StageCommand where
  runId : Uuid
  stage : WorkflowStage
  idempotencyKey : Text
  triggerOrigin : TriggerOrigin
  references : List StateReference
  deriving DecidableEq

/-- The command of a run for its next stage. -/
def AutonomyWorkflowRun.command (r : AutonomyWorkflowRun) (target : WorkflowStage) :
    StageCommand where
  runId := r.runId
  stage := target
  idempotencyKey := Text.ofString "v3-autonomy:" ++ r.runId.str ++ Text.ofChar ':' :: target.value
  triggerOrigin := r.triggerOrigin
  references := r.references

inductive StageDisposition where
  | ADVANCE
  | INTERRUPT
  | DEFER
  | FAIL
  deriving DecidableEq

structure StageResult where
  disposition : StageDisposition
  references : List StateReference := []
  reason : Option Text := none
  deriving DecidableEq

/-! ### Merging the references of a stage -/

/-- One turn of the loop of `_merge_references`. -/
def mergeReference (merged : Dict ReferenceKind StateReference) (item : StateReference) :
    Py (Dict ReferenceKind StateReference) :=
  match merged.get? item.kind with
  | none => .ok (merged.set item.kind item)
  | some existing => do
    require (existing = item)
      (valueError (Text.ofString "owner result attempted to replace immutable "
        ++ item.kind.value ++ Text.ofString " reference"))
    .ok (merged.set item.kind item)

/-- `{item.kind: item for item in prior}` -/
def byKind (references : List StateReference) : Dict ReferenceKind StateReference :=
  Dict.empty.update (references.map (fun item => (item.kind, item)))

def mergeReferences (prior additions : List StateReference) : Py (List StateReference) := do
  let merged ← additions.foldlM mergeReference (byKind prior)
  .ok (ReferenceKind.members.filterMap merged.get?)

/-- Every reference is under its kind. -/
def UnderKind (d : Dict ReferenceKind StateReference) : Prop :=
  ∀ kind r, d.get? kind = some r → r.kind = kind

/-- References were merged into a dictionary. -/
structure MergedInto (d : Dict ReferenceKind StateReference) (additions : List StateReference)
    (after : Dict ReferenceKind StateReference) : Prop where
  underKind : UnderKind d → UnderKind after
  keeps : ∀ kind r, d.get? kind = some r → after.get? kind = some r
  others : ∀ kind ∉ additions.map StateReference.kind, after.get? kind = d.get? kind
  added : ∀ item ∈ additions, after.get? item.kind = some item

variable {d : Dict ReferenceKind StateReference} {references : List StateReference}

theorem mergeReference_eq_ok {after : Dict ReferenceKind StateReference} {item : StateReference}
    (h : mergeReference d item = .ok after) :
    after = d.set item.kind item ∧ ∀ r, d.get? item.kind = some r → r = item := by
  unfold mergeReference at h
  split at h
  · rename_i hnone
    refine ⟨(Except.ok.inj h).symm, fun r hr => ?_⟩
    rw [hnone] at hr
    cases hr
  · rename_i existing hsome
    obtain ⟨heq, hafter⟩ := of_require h
    refine ⟨(Except.ok.inj hafter).symm, fun r hr => ?_⟩
    rw [hsome] at hr
    exact (Option.some.inj hr).symm.trans heq

/-- A loop of `_merge_references` that ends. -/
theorem mergedInto_of_foldlM {after : Dict ReferenceKind StateReference}
    {additions : List StateReference} (h : additions.foldlM mergeReference d = .ok after) :
    MergedInto d additions after := by
  induction additions generalizing d with
  | nil =>
    obtain rfl : d = after := Except.ok.inj h
    exact ⟨id, fun _ _ hr => hr, fun _ _ => rfl, fun item hitem => by cases hitem⟩
  | cons item rest ih =>
    rw [List.foldlM_cons] at h
    obtain ⟨next, hnext, hrest⟩ := Py.of_bind h
    obtain ⟨rfl, hsame⟩ := mergeReference_eq_ok hnext
    have hmerged := ih hrest
    have hkept : ∀ kind r, d.get? kind = some r → (d.set item.kind item).get? kind = some r := by
      intro kind r hr
      rw [Dict.get?_set]
      split
      · rename_i heq
        subst heq
        rw [hsame r hr]
      · exact hr
    refine ⟨fun hunder => hmerged.underKind fun kind r hr => ?_,
      fun kind r hr => hmerged.keeps kind r (hkept kind r hr), fun kind hkind => ?_, ?_⟩
    · rw [Dict.get?_set] at hr
      split at hr
      · rename_i heq
        rw [← Option.some.inj hr, heq]
      · exact hunder kind r hr
    · rw [List.map_cons, List.mem_cons, not_or] at hkind
      rw [hmerged.others kind hkind.2, Dict.get?_set_of_ne _ _ hkind.1]
    · rw [List.forall_mem_cons]
      exact ⟨hmerged.keeps _ _ (Dict.get?_set_self _ _ _), hmerged.added⟩

theorem get?_byKind_of_mem
    (hnodup : (references.map StateReference.kind).Nodup) {item : StateReference}
    (hmem : item ∈ references) : (byKind references).get? item.kind = some item := by
  have hkeys : ((references.map fun item => (item.kind, item)).map Prod.fst).Nodup := by
    rw [List.map_map]
    exact hnodup
  exact Dict.get?_update_of_mem Dict.empty hkeys (p := (item.kind, item))
    (List.mem_map_of_mem hmem)

theorem get?_byKind_of_not_mem {kind : ReferenceKind}
    (hkind : kind ∉ references.map StateReference.kind) : (byKind references).get? kind = none := by
  have hkeys : kind ∉ (references.map fun item => (item.kind, item)).map Prod.fst := by
    rw [List.map_map]
    exact hkind
  exact (Dict.get?_update_of_not_mem Dict.empty hkeys).trans (Dict.get?_empty kind)

theorem underKind_byKind
    (hnodup : (references.map StateReference.kind).Nodup) : UnderKind (byKind references) := by
  intro kind r hr
  by_cases hkind : kind ∈ references.map StateReference.kind
  · obtain ⟨item, hitem, rfl⟩ := List.mem_map.mp hkind
    rw [get?_byKind_of_mem hnodup hitem] at hr
    rw [Option.some.inj hr]
  · rw [get?_byKind_of_not_mem hkind] at hr
    cases hr

theorem kinds_filterMap (hunder : UnderKind d) (kinds : List ReferenceKind) :
    (kinds.filterMap d.get?).map StateReference.kind
      = kinds.filter (fun kind => (d.get? kind).isSome) := by
  induction kinds with
  | nil => rfl
  | cons kind rest ih =>
    rcases hget : d.get? kind with _ | r
    · simp [hget, ih]
    · simp [hget, ih, hunder kind r hget]

theorem ReferenceKind.mem_members (kind : ReferenceKind) : kind ∈ ReferenceKind.members := by
  cases kind <;> decide

/-- **The references of a merge**: those there were, and those of the stage, one of a kind. -/
structure Merged (prior additions references : List StateReference) : Prop where
  nodup : (references.map StateReference.kind).Nodup
  mem_kinds : ∀ kind, kind ∈ references.map StateReference.kind
    ↔ kind ∈ prior.map StateReference.kind ∨ kind ∈ additions.map StateReference.kind
  keeps : ∀ r ∈ prior, r ∈ references

theorem merged_of_mergeReferences {prior additions : List StateReference}
    (hprior : (prior.map StateReference.kind).Nodup)
    (h : mergeReferences prior additions = .ok references) : Merged prior additions references := by
  obtain ⟨after, hfold, hreferences⟩ := Py.of_bind h
  obtain rfl := Except.ok.inj hreferences
  have hinto := mergedInto_of_foldlM hfold
  have hkinds := kinds_filterMap (hinto.underKind (underKind_byKind hprior)) ReferenceKind.members
  refine ⟨?_, fun kind => ?_, fun r hr => ?_⟩
  · rw [hkinds]
    exact List.Nodup.filter _ (by decide)
  · rw [hkinds, List.mem_filter, Option.isSome_iff_exists]
    constructor
    · rintro ⟨-, r, hr⟩
      by_contra hnot
      rw [not_or] at hnot
      rw [hinto.others kind hnot.2, get?_byKind_of_not_mem hnot.1] at hr
      cases hr
    · intro hor
      refine ⟨kind.mem_members, ?_⟩
      rcases hor with hkind | hkind
      · obtain ⟨r, hr, rfl⟩ := List.mem_map.mp hkind
        exact ⟨r, hinto.keeps _ _ (get?_byKind_of_mem hprior hr)⟩
      · obtain ⟨r, hr, rfl⟩ := List.mem_map.mp hkind
        exact ⟨r, hinto.added r hr⟩
  · rw [List.mem_filterMap]
    exact ⟨r.kind, r.kind.mem_members, hinto.keeps _ _ (get?_byKind_of_mem hprior hr)⟩

/-- The references of a stage are exact: one of each required kind. -/
def ExactOutputs (target : WorkflowStage) (references : List StateReference) : Prop :=
  (references.map StateReference.kind).Nodup
    ∧ (∀ kind ∈ references.map StateReference.kind, kind ∈ target.requiredOutputs)
    ∧ ∀ kind ∈ target.requiredOutputs, kind ∈ references.map StateReference.kind

instance (target : WorkflowStage) (references : List StateReference) :
    Decidable (ExactOutputs target references) := inferInstanceAs (Decidable (_ ∧ _ ∧ _))

/-! ### The repositories -/

/-- `InMemoryAutonomyWorkflowRepository` or `PostgresAutonomyWorkflowRepository` -/
inductive RepositoryKind where
  | inMemory
  | postgres
  deriving DecidableEq

/-- `RuntimeError(message)` -/
def runtimeError (message : Text) : PyException := ⟨.runtimeError, message⟩

namespace AutonomyWorkflowRun

/-- Another worker holds the lease of the stored run. -/
def LeasedByAnother (stored : AutonomyWorkflowRun) (workerId : Text) (now : ℤ) : Prop :=
  (∃ expiry ∈ stored.leaseExpiresAt, now < expiry) ∧ stored.leaseOwner ≠ some workerId

instance (stored : AutonomyWorkflowRun) (workerId : Text) (now : ℤ) :
    Decidable (stored.LeasedByAnother workerId now) := inferInstanceAs (Decidable (_ ∧ _))

/-- The arguments of a claim are accepted. -/
def ClaimArguments (kind : RepositoryKind) (workerId : Text) (leaseSeconds : ℤ) : Prop :=
  1 ≤ leaseSeconds ∧ (kind = .postgres → workerId ≠ [])

instance (kind : RepositoryKind) (workerId : Text) (leaseSeconds : ℤ) :
    Decidable (ClaimArguments kind workerId leaseSeconds) := inferInstanceAs (Decidable (_ ∧ _))

/-- The message for other arguments. -/
def claimMessage : RepositoryKind → Text
  | .inMemory => "lease_seconds must be positive"
  | .postgres => "worker and positive lease are required"

/-- The run, claimed. -/
def claimed (stored : AutonomyWorkflowRun) (workerId : Text) (leaseSeconds now : ℤ) :
    AutonomyWorkflowRun :=
  { stored with
    status := .ACTIVE
    fencingToken := stored.fencingToken + 1
    leaseOwner := some workerId
    leaseExpiresAt := some (now + leaseSeconds * 1000000)
    version := stored.version + 1
    lastError := none }

/-- `claim`: the run that is stored and returned. -/
def claim (kind : RepositoryKind) (stored : AutonomyWorkflowRun) (workerId : Text)
    (leaseSeconds now : ℤ) : Py AutonomyWorkflowRun := do
  require (ClaimArguments kind workerId leaseSeconds) (valueError (claimMessage kind))
  require (¬ stored.LeasedByAnother workerId now)
    (runtimeError "workflow lease is held by another worker")
  .ok (stored.claimed workerId leaseSeconds now)

/-- The worker's copy is the stored run, and the lease is the worker's. -/
def Current (stored run : AutonomyWorkflowRun) (workerId : Text) : Prop :=
  stored.version = run.version ∧ stored.fencingToken = run.fencingToken
    ∧ stored.leaseOwner = some workerId

instance (stored run : AutonomyWorkflowRun) (workerId : Text) :
    Decidable (stored.Current run workerId) := inferInstanceAs (Decidable (_ ∧ _))

/-- The stage follows that of the worker's copy. -/
def checkTransition (run : AutonomyWorkflowRun) (stage : WorkflowStage) : Py Unit :=
  require (stage.index = run.stage.index + 1) (valueError "invalid workflow stage transition")

/-- `checkpoint`: the run that is stored and returned.  In memory the worker's copy is written, in
PostgreSQL the row, whose lease must still run. -/
def checkpoint (kind : RepositoryKind) (stored run : AutonomyWorkflowRun) (workerId : Text)
    (stage : WorkflowStage) (references : List StateReference) (now : ℤ) :
    Py AutonomyWorkflowRun :=
  match kind with
  | .inMemory => do
    require (stored.Current run workerId) (runtimeError "stale workflow fencing token")
    checkTransition run stage
    .ok { run with stage, references, version := run.version + 1 }
  | .postgres => do
    checkTransition run stage
    require (stored.Current run workerId ∧ ∃ expiry ∈ stored.leaseExpiresAt, now < expiry)
      (runtimeError "stale or expired workflow fencing token")
    .ok { stored with stage, references, version := stored.version + 1 }

/-- `finish`: the run that is stored and returned, written as by `checkpoint`. -/
def finish (kind : RepositoryKind) (stored run : AutonomyWorkflowRun) (workerId : Text)
    (status : WorkflowRunStatus) (reason : Option Text) : Py AutonomyWorkflowRun := do
  require (kind = .postgres → status ≠ .ACTIVE) (valueError "finish requires a non-active status")
  require (stored.Current run workerId) (runtimeError "stale workflow fencing token")
  let written := match kind with
    | .inMemory => run
    | .postgres => stored
  .ok { written with
    status
    lastError := reason
    leaseOwner := none
    leaseExpiresAt := none
    version := written.version + 1 }

end AutonomyWorkflowRun

end FuturesAgentOs
