import FuturesAgentOs.Decision.GateReceipt
import FuturesAgentOs.PortfolioRisk.RiskBudgetLedger
import FuturesAgentOs.PyModel.Calls

namespace FuturesAgentOs

open PyModel

/-!
# The two-phase gate

`decision/autonomy_contracts.py`, `AutonomyGate`.  `preflight` turns a request into a basis,
`finalGate` revalidates everything after the reservation and issues the receipt.  The final
gate is a row of guards, `finalGuards`; each of them refuses with a reason or lets the request
pass.
-/

inductive PreflightOutcome where
  | AUTHORIZED | ESCALATE | REJECT | PROTECT_ONLY
  deriving DecidableEq

structure PreflightResult where
  outcome : PreflightOutcome
  basis : Option AuthorizationBasis := none
  reason : Text := ""
  deriving DecidableEq

/-- The outcomes of the final gate that carry no receipt. -/
inductive GateRefusal where
  | REJECT | PROTECT_ONLY
  deriving DecidableEq

/-- What the final gate answers: only `PERMIT` comes with a receipt. -/
inductive FinalGateResult where
  | permit (receipt : AutonomyGateReceipt) (reason : Text)
  | refuse (outcome : GateRefusal) (reason : Text)
  deriving DecidableEq

namespace AutonomyGate

variable [Hashlib]

/-- The part of `preflight` that knows its mandate and binding to be effective. -/
def preflightInScope (request : GateRequest) (mandate : SimulationAutonomyMandate)
    (binding : AutonomyModeBinding) (now : RecordedAt) (approvalAllowed : Bool)
    (registry : BasisIssuanceRegistry) : Py PreflightResult × BasisIssuanceRegistry :=
  match mandate.fields.scope.digest with
  | .error e => (.error e, registry)
  | .ok scope =>
    if binding.fields.simulationAccountId
          ≠ some mandate.fields.scope.fields.simulationAccountId
        ∨ binding.fields.simulationAccountId ≠ some request.fields.accountId
        ∨ binding.fields.scopeSnapshotHash ≠ scope then
      (.ok { outcome := .REJECT, reason := "MANDATE_BINDING_MISMATCH" }, registry)
    else if ¬ mandate.fields.scope.MatchesRequest request then
      if approvalAllowed = true
          ∧ mandate.fields.scope.fields.escalationMode = .REQUEST_ONE_OFF then
        (.ok { outcome := .ESCALATE, reason := "SCOPE_MISMATCH" }, registry)
      else (.ok { outcome := .REJECT, reason := "SCOPE_MISMATCH" }, registry)
    else
      match registry.issue request mandate now with
      | (.error e, registry) => (.error e, registry)
      | (.ok none, registry) =>
        (.ok { outcome := .REJECT, reason := "BASIS_ISSUANCE_CONFLICT" }, registry)
      | (.ok (some basis), registry) =>
        (.ok { outcome := .AUTHORIZED, basis := some basis, reason := "MANDATE_AUTHORIZED" },
          registry)

def preflight (request : GateRequest) (mandate : Option SimulationAutonomyMandate)
    (binding : Option AutonomyModeBinding) (qualified healthPermits : Bool) (now : RecordedAt)
    (approvalAllowed : Bool) (registry : BasisIssuanceRegistry) :
    Py PreflightResult × BasisIssuanceRegistry :=
  match request.fields.executionOrigin with
  | .MANUAL_TEST =>
    (.ok { outcome := if approvalAllowed then .ESCALATE else .REJECT
           reason := "MANUAL_REQUIRES_APPROVAL" }, registry)
  | .AUTONOMOUS_AGENT =>
    match EffectiveAutonomy.evaluate mandate binding qualified healthPermits now with
    | .error e => (.error e, registry)
    | .ok effective =>
      match effective.permitted, mandate, binding with
      | true, some mandate, some binding =>
        preflightInScope request mandate binding now approvalAllowed registry
      | _, _, _ =>
        let protect := effective.reason
          ∈ [("HEALTH_BLOCKED" : Text), "MANDATE_PROTECT_ONLY", "MODE_PAUSED"]
        (.ok { outcome := if protect then .PROTECT_ONLY else .REJECT
               reason := effective.reason }, registry)

/-! ### The guards of the final gate -/

/-- A guard: a reason to refuse when the condition holds. -/
def refuseIf (c : Prop) [Decidable c] (reason : Text) : Py (Option FinalGateResult) :=
  .ok (if c then some (.refuse .REJECT reason) else none)

/-- What the final gate reads. -/
structure FinalGateInput where
  request : GateRequest
  basis : AuthorizationBasis
  mandate : Option SimulationAutonomyMandate
  approval : Option PlanApproval
  reservation : RiskBudgetReservation
  binding : Option AutonomyModeBinding
  qualified : Bool
  healthPermits : Bool
  now : RecordedAt
  riskLedger : RiskBudgetLedger

namespace FinalGateInput

variable (i : FinalGateInput)

/-- The basis names the plan, the account and the scope of the request. -/
def BasisNamesPlan : Prop :=
  i.basis.fields.planId = i.request.fields.planId
    ∧ i.basis.fields.planVersion = i.request.fields.planVersion
    ∧ i.basis.fields.planHash = i.request.fields.planHash
    ∧ i.basis.fields.accountId = i.request.fields.accountId
    ∧ i.basis.fields.instrument = i.request.fields.instrument
    ∧ i.basis.fields.strategy = i.request.fields.strategy
    ∧ i.basis.fields.session = i.request.fields.session

instance : Decidable i.BasisNamesPlan := inferInstanceAs (Decidable (_ ∧ _))

/-- The reservation is bound to the request and to the basis with this digest. -/
def ReservationBinds (basisHash : Text) : Prop :=
  i.reservation.fields.planId = i.request.fields.planId
    ∧ i.reservation.fields.planVersion = i.request.fields.planVersion
    ∧ i.reservation.fields.planHash = i.request.fields.planHash
    ∧ i.reservation.fields.accountId = i.request.fields.accountId
    ∧ i.reservation.fields.instrument = i.request.fields.instrument
    ∧ i.reservation.fields.strategy = i.request.fields.strategy
    ∧ i.reservation.fields.session = i.request.fields.session
    ∧ i.reservation.fields.authorizationBasisId = i.basis.fields.basisId
    ∧ i.reservation.fields.authorizationBasisHash = basisHash
    ∧ i.reservation.fields.action.value = i.request.fields.action.value
    ∧ i.reservation.fields.quantity.numEq i.request.fields.quantity

instance (basisHash : Text) : Decidable (i.ReservationBinds basisHash) :=
  inferInstanceAs (Decidable (_ ∧ _))

/-- The source kind that a reservation under a basis of this kind carries. -/
def sourceKind : BasisKind → ReservationSourceKind
  | .MANDATE => .MANDATE
  | .PLAN_APPROVAL => .PLAN_APPROVAL

/-- The guard on the source of a basis under a mandate. -/
def mandateSource : Py (Option FinalGateResult) :=
  let refused : FinalGateResult := .refuse .REJECT "MANDATE_SOURCE_INACTIVE"
  match i.mandate with
  | none => .ok (some refused)
  | some mandate =>
    if ¬ mandate.IsActiveAt i.now then .ok (some refused)
    else do
      let authorizationHash ← mandate.authorizationHash
      .ok (if i.basis.fields.sourceId = mandate.fields.mandateId
          ∧ i.basis.fields.sourceVersion = mandate.fields.version
          ∧ i.basis.fields.sourceHash = authorizationHash
          ∧ mandate.fields.scope.MatchesRequest i.request then none
        else some refused)

/-- The guard on the source of a basis under an approval. -/
def approvalSource : Py (Option FinalGateResult) :=
  let refused : FinalGateResult := .refuse .REJECT "APPROVAL_SOURCE_INACTIVE"
  match i.approval with
  | none => .ok (some refused)
  | some approval =>
    if approval.fields.status ≠ .CONSUMED
        ∨ i.basis.fields.sourceId ≠ approval.fields.approvalId
        ∨ i.basis.fields.planId ≠ approval.fields.planId
        ∨ i.basis.fields.planVersion ≠ approval.fields.planVersion
        ∨ i.basis.fields.planHash ≠ approval.fields.planHash
        ∨ i.basis.fields.accountId ≠ approval.fields.accountId
        ∨ i.basis.fields.sourceVersion ≠ approval.fields.version - 1 then .ok (some refused)
    else do
      let grantedHash ← approval.grantedAuthorizationHash
      if i.basis.fields.sourceHash ≠ grantedHash then .ok (some refused)
      else do
        let scope ← approval.fields.scope.scopeHash
        .ok (if i.basis.fields.scopeSnapshotHash = scope
            ∧ i.basis.fields.approvalToken = some approval.fields.approvalToken
            ∧ i.basis.fields.approvalValidFromAt = some approval.fields.scope.fields.validFromAt
            ∧ i.basis.fields.approvalValidUntilAt = some approval.fields.scope.fields.validUntilAt
            ∧ approval.fields.scope.PermitsRequest i.request i.now then none
          else some refused)

/-- The guards on the mandate and the binding of an autonomous request. -/
def autonomous (mandate : Option SimulationAutonomyMandate)
    (binding : Option AutonomyModeBinding) : Py (Option FinalGateResult) :=
  match mandate, binding with
  | none, _ => .ok (some (.refuse .REJECT "MANDATE_INACTIVE"))
  | some mandate, none =>
    .ok (some (.refuse .REJECT
      (if mandate.IsActiveAt i.now then "MODE_INACTIVE" else "MANDATE_INACTIVE")))
  | some mandate, some binding =>
    Py.firstAnswer [
      refuseIf (¬ mandate.IsActiveAt i.now) "MANDATE_INACTIVE",
      refuseIf (¬ binding.IsActiveAt i.now ∨ binding.fields.mode ≠ .AUTONOMOUS_SIMULATION)
        "MODE_INACTIVE",
      .ok (if i.healthPermits = false then some (.refuse .PROTECT_ONLY "HEALTH_BLOCKED")
        else none),
      refuseIf (i.qualified = false) "RUN_UNQUALIFIED",
      refuseIf (binding.fields.runVersionsHash ≠ i.request.fields.runVersionsHash)
        "RUN_VERSION_DRIFT",
      refuseIf (binding.fields.mandateId ≠ some mandate.fields.mandateId
          ∨ binding.fields.mandateVersion ≠ some mandate.fields.version
          ∨ binding.fields.simulationAccountId
            ≠ some mandate.fields.scope.fields.simulationAccountId
          ∨ binding.fields.simulationAccountId ≠ some i.request.fields.accountId)
        "MANDATE_BINDING_MISMATCH",
      do
        let scope ← mandate.fields.scope.digest
        refuseIf (binding.fields.scopeSnapshotHash ≠ scope) "MANDATE_BINDING_MISMATCH",
      refuseIf (i.basis.fields.kind = .MANDATE
          ∧ ¬ (i.basis.fields.sourceId = mandate.fields.mandateId
            ∧ i.basis.fields.sourceVersion = mandate.fields.version))
        "BASIS_SOURCE_MISMATCH"]

/-- The guards of the final gate, in order. -/
def finalGuards : List (Py (Option FinalGateResult)) := [
  refuseIf (i.request.fields.executionOrigin = .MANUAL_TEST ∧ i.healthPermits = false)
    "HEALTH_BLOCKED",
  refuseIf (i.request.fields.snapshotExpiresAt ≤ i.now) "SNAPSHOT_STALE",
  refuseIf (¬ ((i.riskLedger.row i.reservation.fields.reservationId).any
        (fun row => row.SameAs i.reservation) = true
      ∧ i.reservation.ActiveAt i.now))
    "STALE_AUTHORIZATION_OR_RESERVATION",
  refuseIf (¬ i.basis.ActiveAt i.now) "BASIS_INACTIVE",
  refuseIf (¬ i.BasisNamesPlan) "BASIS_PLAN_MISMATCH",
  refuseIf (i.basis.fields.authorizedAction ≠ i.request.fields.action
      ∨ i.basis.fields.authorizedQuantity < i.request.fields.quantity)
    "BASIS_ACTION_QUANTITY_MISMATCH",
  do
    let basisHash ← i.basis.basisHash
    refuseIf (¬ i.ReservationBinds basisHash) "RESERVATION_BINDING_MISMATCH",
  refuseIf (¬ (i.reservation.fields.sourceKind = sourceKind i.basis.fields.kind
      ∧ i.reservation.fields.sourceRef = some i.basis.fields.sourceId
      ∧ i.reservation.fields.sourceHash = some i.basis.fields.sourceHash))
    "RESERVATION_SOURCE_MISMATCH",
  refuseIf (i.request.fields.executionOrigin = .MANUAL_TEST
      ∧ i.basis.fields.kind ≠ .PLAN_APPROVAL)
    "ORIGIN_BASIS_MISMATCH",
  match i.basis.fields.kind with
  | .MANDATE => i.mandateSource
  | .PLAN_APPROVAL => i.approvalSource,
  match i.request.fields.executionOrigin with
  | .AUTONOMOUS_AGENT => i.autonomous i.mandate i.binding
  | .MANUAL_TEST => .ok none]

/-! ### The receipt -/

/-- The binding that the receipt names: only an autonomous one does. -/
def modeBinding : Option AutonomyModeBinding :=
  match i.request.fields.executionOrigin with
  | .AUTONOMOUS_AGENT => i.binding
  | .MANUAL_TEST => none

/-- The expiry of the receipt, the earliest of those it depends on. -/
def expiry : RecordedAt :=
  PlanApproval.earlier
    (PlanApproval.earlier
      (PlanApproval.earlier i.basis.fields.expiresAt i.reservation.fields.expiresAt)
      i.request.fields.snapshotExpiresAt)
    ((i.binding.map (·.fields.expiresAt)).getD i.basis.fields.expiresAt)

/-- The digest of the binding that the receipt names. -/
def modeBindingHash : Py (Option Text) :=
  match i.modeBinding with
  | none => .ok none
  | some binding => do
    let digest ← binding.bindingHash
    .ok (some digest)

/-- The digest of everything the receipt is bound to. -/
def fingerprint : Py Text := do
  let modeBindingHash ← i.modeBindingHash
  let basisHash ← i.basis.basisHash
  let reservationHash ← i.reservation.reservationHash
  canonicalSha256 (.obj [
    ("basis", .str basisHash),
    ("plan", .str i.request.fields.planHash),
    ("account", .str i.request.fields.accountId.str),
    ("action", .str i.request.fields.action.value),
    ("quantity", .str i.request.fields.quantity.str),
    ("reservation", .str reservationHash),
    ("snapshot", .str i.request.fields.snapshotHash),
    ("runs", .str i.request.fields.runVersionsHash),
    ("mode", Json.optionalText modeBindingHash),
    ("expiry", .str i.expiry.text)])

/-- The factory of the receipt. -/
def newReceipt (registryId : EntityId) (fingerprint : Text) : Py AutonomyGateReceipt := do
  let receiptId ← EntityId.deterministic "autonomy_gate_receipt" fingerprint
  let basisHash ← i.basis.basisHash
  let reservationHash ← i.reservation.reservationHash
  let nonce ← EntityId.deterministic "receipt_nonce" (fingerprint ++ Text.ofString ":nonce")
  let modeBindingHash ← i.modeBindingHash
  Frozen.make {
    receiptId := receiptId
    planId := i.request.fields.planId
    planVersion := i.request.fields.planVersion
    planHash := i.request.fields.planHash
    accountId := i.request.fields.accountId
    instrument := i.request.fields.instrument
    strategy := i.request.fields.strategy
    session := i.request.fields.session
    action := i.request.fields.action
    quantity := i.request.fields.quantity
    basisId := i.basis.fields.basisId
    basisHash := basisHash
    sourceId := i.basis.fields.sourceId
    sourceVersion := i.basis.fields.sourceVersion
    sourceHash := i.basis.fields.sourceHash
    executionOrigin := i.request.fields.executionOrigin
    snapshotHash := i.request.fields.snapshotHash
    runVersionsHash := i.request.fields.runVersionsHash
    reservationId := i.reservation.fields.reservationId
    reservationHash := reservationHash
    expiresAt := i.expiry
    issuedAt := i.now
    nonce := nonce
    issuanceRegistryId := registryId
    modeBindingId := i.modeBinding.map (·.fields.bindingId)
    modeBindingVersion := i.modeBinding.map (·.fields.version)
    modeBindingHash := modeBindingHash
    manualActorRef := match i.request.fields.executionOrigin with
      | .AUTONOMOUS_AGENT => none
      | .MANUAL_TEST => i.approval.bind (·.fields.decidedBy)
    environmentPolicyRef := "environment://simulation-only" }

end FinalGateInput

def finalGate (i : FinalGateInput) (registry : ReceiptIssuanceRegistry) :
    Py FinalGateResult × ReceiptIssuanceRegistry :=
  match Py.firstAnswer i.finalGuards with
  | .error e => (.error e, registry)
  | .ok (some refusal) => (.ok refusal, registry)
  | .ok none =>
    match i.fingerprint with
    | .error e => (.error e, registry)
    | .ok fingerprint =>
      match registry.issue i.basis.fields.basisId fingerprint
          (i.newReceipt registry.registryId fingerprint) with
      | (.error e, registry) => (.error e, registry)
      | (.ok none, registry) => (.ok (.refuse .REJECT "BASIS_ALREADY_ISSUED"), registry)
      | (.ok (some receipt), registry) => (.ok (.permit receipt "PERMITTED"), registry)

/-! ### What the final gate has checked -/

section

omit [Hashlib]

/-- A guard lets the call go on exactly when its condition fails. -/
@[simp] theorem refuseIf_eq_none {c : Prop} [Decidable c] {reason : Text} :
    refuseIf c reason = .ok none ↔ ¬ c := by
  unfold refuseIf
  split <;> simp_all

/-- The guard answers with refusals only. -/
def OnlyRefuses (guard : Py (Option FinalGateResult)) : Prop :=
  ∀ answer, guard = .ok (some answer) → ∃ outcome reason, answer = .refuse outcome reason

theorem onlyRefuses_refuseIf (c : Prop) [Decidable c] (reason : Text) :
    OnlyRefuses (refuseIf c reason) := by
  intro answer h
  unfold refuseIf at h
  split at h
  · cases h
    exact ⟨_, _, rfl⟩
  · cases h

theorem onlyRefuses_refusal {c : Prop} [Decidable c] (outcome : GateRefusal) (reason : Text) :
    OnlyRefuses (.ok (if c then none else some (.refuse outcome reason))) := by
  intro answer h
  split at h
  · cases h
  · cases h
    exact ⟨_, _, rfl⟩

theorem onlyRefuses_some (outcome : GateRefusal) (reason : Text) :
    OnlyRefuses (.ok (some (.refuse outcome reason))) := by
  rintro answer ⟨⟩
  exact ⟨_, _, rfl⟩

theorem onlyRefuses_bind {α : Type} {x : Py α} {f : α → Py (Option FinalGateResult)}
    (h : ∀ a, OnlyRefuses (f a)) : OnlyRefuses (x >>= f) := by
  intro answer hanswer
  obtain ⟨a, -, ha⟩ := Py.of_bind hanswer
  exact h a answer ha

theorem onlyRefuses_firstAnswer {guards : List (Py (Option FinalGateResult))}
    (h : ∀ guard ∈ guards, OnlyRefuses guard) : OnlyRefuses (Py.firstAnswer guards) := by
  intro answer hanswer
  exact h _ (Py.mem_of_firstAnswer hanswer) answer rfl

end

section

variable {i : FinalGateInput}

theorem FinalGateInput.onlyRefuses_mandateSource : OnlyRefuses i.mandateSource := by
  unfold mandateSource
  split
  · exact onlyRefuses_some _ _
  · split
    · exact onlyRefuses_some _ _
    · exact onlyRefuses_bind (fun _ => onlyRefuses_refusal _ _)

theorem FinalGateInput.onlyRefuses_approvalSource : OnlyRefuses i.approvalSource := by
  unfold approvalSource
  split
  · exact onlyRefuses_some _ _
  · split
    · exact onlyRefuses_some _ _
    · apply onlyRefuses_bind
      intro grantedHash
      split
      · exact onlyRefuses_some _ _
      · exact onlyRefuses_bind (fun _ => onlyRefuses_refusal _ _)

theorem FinalGateInput.onlyRefuses_autonomous : OnlyRefuses (i.autonomous i.mandate i.binding) := by
  unfold autonomous
  split
  · exact onlyRefuses_some _ _
  · exact onlyRefuses_some _ _
  · apply onlyRefuses_firstAnswer
    simp only [List.forall_mem_cons]
    refine ⟨onlyRefuses_refuseIf _ _, onlyRefuses_refuseIf _ _, ?_, onlyRefuses_refuseIf _ _,
      onlyRefuses_refuseIf _ _, onlyRefuses_refuseIf _ _,
      onlyRefuses_bind (fun _ => onlyRefuses_refuseIf _ _), onlyRefuses_refuseIf _ _, ?_⟩
    · intro answer h
      split at h
      · cases h
        exact ⟨_, _, rfl⟩
      · cases h
    · intro guard h
      cases h

theorem FinalGateInput.onlyRefuses_finalGuards : OnlyRefuses (Py.firstAnswer i.finalGuards) := by
  apply onlyRefuses_firstAnswer
  simp only [finalGuards, List.forall_mem_cons]
  refine ⟨onlyRefuses_refuseIf _ _, onlyRefuses_refuseIf _ _, onlyRefuses_refuseIf _ _,
    onlyRefuses_refuseIf _ _, onlyRefuses_refuseIf _ _, onlyRefuses_refuseIf _ _,
    onlyRefuses_bind (fun _ => onlyRefuses_refuseIf _ _), onlyRefuses_refuseIf _ _,
    onlyRefuses_refuseIf _ _, ?_, ?_, ?_⟩
  · split
    · exact onlyRefuses_mandateSource
    · exact onlyRefuses_approvalSource
  · split
    · exact onlyRefuses_autonomous
    · intro answer h
      cases h
  · intro guard h
    cases h

namespace FinalGateInput

/-- What the guards of an autonomous request say when they let the call go on. -/
structure AutonomousPassed (i : FinalGateInput) (mandate : SimulationAutonomyMandate)
    (binding : AutonomyModeBinding) : Prop where
  mandateActive : mandate.IsActiveAt i.now
  bindingActive : binding.IsActiveAt i.now
  mode : binding.fields.mode = .AUTONOMOUS_SIMULATION
  healthPermits : i.healthPermits = true
  qualified : i.qualified = true
  runVersions : binding.fields.runVersionsHash = i.request.fields.runVersionsHash
  mandateId : binding.fields.mandateId = some mandate.fields.mandateId
  mandateVersion : binding.fields.mandateVersion = some mandate.fields.version
  scopeAccount : binding.fields.simulationAccountId
    = some mandate.fields.scope.fields.simulationAccountId
  account : binding.fields.simulationAccountId = some i.request.fields.accountId
  scope : mandate.fields.scope.digest = .ok binding.fields.scopeSnapshotHash
  source : i.basis.fields.kind = .MANDATE → i.basis.fields.sourceId = mandate.fields.mandateId
    ∧ i.basis.fields.sourceVersion = mandate.fields.version

/-- What the guards say when they let the call go on. -/
structure Passed (i : FinalGateInput) : Prop where
  manualHealth : i.request.fields.executionOrigin = .MANUAL_TEST → i.healthPermits = true
  snapshot : i.now < i.request.fields.snapshotExpiresAt
  row : (i.riskLedger.row i.reservation.fields.reservationId).any
    (fun row => row.SameAs i.reservation) = true
  reservationActive : i.reservation.ActiveAt i.now
  basisActive : i.basis.ActiveAt i.now
  namesPlan : i.BasisNamesPlan
  action : i.basis.fields.authorizedAction = i.request.fields.action
  quantity : i.request.fields.quantity ≤ i.basis.fields.authorizedQuantity
  binds : ∃ basisHash, i.basis.basisHash = .ok basisHash ∧ i.ReservationBinds basisHash
  sourceKind : i.reservation.fields.sourceKind = FinalGateInput.sourceKind i.basis.fields.kind
  sourceRef : i.reservation.fields.sourceRef = some i.basis.fields.sourceId
  sourceHash : i.reservation.fields.sourceHash = some i.basis.fields.sourceHash
  manualKind : i.request.fields.executionOrigin = .MANUAL_TEST →
    i.basis.fields.kind = .PLAN_APPROVAL
  mandateSource : i.basis.fields.kind = .MANDATE → i.mandateSource = .ok none
  approvalSource : i.basis.fields.kind = .PLAN_APPROVAL → i.approvalSource = .ok none
  autonomous : i.request.fields.executionOrigin = .AUTONOMOUS_AGENT →
    ∃ mandate binding, i.mandate = some mandate ∧ i.binding = some binding
      ∧ i.AutonomousPassed mandate binding

theorem mandateSource_eq_none : i.mandateSource = .ok none ↔ ∃ mandate, i.mandate = some mandate
    ∧ mandate.IsActiveAt i.now ∧ i.basis.fields.sourceId = mandate.fields.mandateId
    ∧ i.basis.fields.sourceVersion = mandate.fields.version
    ∧ mandate.authorizationHash = .ok i.basis.fields.sourceHash
    ∧ mandate.fields.scope.MatchesRequest i.request := by
  cases hmandate : i.mandate with
  | none => simp [FinalGateInput.mandateSource, hmandate]
  | some mandate =>
    by_cases hactive : mandate.IsActiveAt i.now
    · cases hhash : mandate.authorizationHash with
      | error e => simp [FinalGateInput.mandateSource, hmandate, hactive, hhash]
      | ok authorizationHash =>
        simp [FinalGateInput.mandateSource, hmandate, hactive, hhash, eq_comm]
    · simp [FinalGateInput.mandateSource, hmandate, hactive]

theorem approvalSource_eq_none : i.approvalSource = .ok none ↔ ∃ approval,
    i.approval = some approval ∧ approval.fields.status = .CONSUMED
    ∧ i.basis.fields.sourceId = approval.fields.approvalId
    ∧ i.basis.fields.planId = approval.fields.planId
    ∧ i.basis.fields.planVersion = approval.fields.planVersion
    ∧ i.basis.fields.planHash = approval.fields.planHash
    ∧ i.basis.fields.accountId = approval.fields.accountId
    ∧ i.basis.fields.sourceVersion = approval.fields.version - 1
    ∧ approval.grantedAuthorizationHash = .ok i.basis.fields.sourceHash
    ∧ approval.fields.scope.scopeHash = .ok i.basis.fields.scopeSnapshotHash
    ∧ i.basis.fields.approvalToken = some approval.fields.approvalToken
    ∧ i.basis.fields.approvalValidFromAt = some approval.fields.scope.fields.validFromAt
    ∧ i.basis.fields.approvalValidUntilAt = some approval.fields.scope.fields.validUntilAt
    ∧ approval.fields.scope.PermitsRequest i.request i.now := by
  constructor
  · intro h
    unfold FinalGateInput.approvalSource at h
    split at h
    · cases h
    · rename_i approval happroval
      split at h
      · cases h
      · rename_i hfields
        simp only [not_or, not_not] at hfields
        obtain ⟨hstatus, hid, hplan, hversion, hhash, haccount, hsource⟩ := hfields
        obtain ⟨grantedHash, hgranted, h⟩ := Py.of_bind h
        split at h
        · cases h
        · rename_i hsourceHash
          obtain ⟨scope, hscope, h⟩ := Py.of_bind h
          split at h
          · rename_i hrest
            obtain ⟨hsnapshot, htoken, hfrom, huntil, hpermits⟩ := hrest
            rw [not_ne_iff] at hsourceHash
            rw [hsourceHash, hsnapshot]
            exact ⟨approval, happroval, hstatus, hid, hplan, hversion, hhash, haccount, hsource,
              hgranted, hscope, htoken, hfrom, huntil, hpermits⟩
          · cases h
  · rintro ⟨approval, happroval, hstatus, hid, hplan, hversion, hhash, haccount, hsource,
      hgranted, hscope, htoken, hfrom, huntil, hpermits⟩
    have hfields : ¬ (approval.fields.status ≠ .CONSUMED
        ∨ i.basis.fields.sourceId ≠ approval.fields.approvalId
        ∨ i.basis.fields.planId ≠ approval.fields.planId
        ∨ i.basis.fields.planVersion ≠ approval.fields.planVersion
        ∨ i.basis.fields.planHash ≠ approval.fields.planHash
        ∨ i.basis.fields.accountId ≠ approval.fields.accountId
        ∨ i.basis.fields.sourceVersion ≠ approval.fields.version - 1) := by
      simp only [not_or, not_not]
      exact ⟨hstatus, hid, hplan, hversion, hhash, haccount, hsource⟩
    simp only [FinalGateInput.approvalSource, happroval, if_neg hfields, hgranted, Py.ok_bind,
      ne_eq, not_true_eq_false, if_false, hscope, true_and]
    rw [if_pos ⟨htoken, hfrom, huntil, hpermits⟩]

/-- What the guards of an autonomous request check. -/
theorem autonomous_eq_none : i.autonomous i.mandate i.binding = .ok none
    ↔ ∃ mandate binding, i.mandate = some mandate ∧ i.binding = some binding
      ∧ i.AutonomousPassed mandate binding := by
  cases hmandate : i.mandate with
  | none => simp [autonomous]
  | some mandate =>
    cases hbinding : i.binding with
    | none => simp [autonomous]
    | some binding =>
      have hscope : (mandate.fields.scope.digest >>= fun scope =>
            refuseIf (binding.fields.scopeSnapshotHash ≠ scope) "MANDATE_BINDING_MISMATCH")
          = .ok none ↔ mandate.fields.scope.digest = .ok binding.fields.scopeSnapshotHash := by
        rw [Py.bind_eq_ok]
        constructor
        · rintro ⟨scope, hscope, hguard⟩
          rw [refuseIf_eq_none, not_ne_iff] at hguard
          rw [hguard, hscope]
        · intro hscope
          exact ⟨_, hscope, refuseIf_eq_none.mpr (by simp)⟩
      have hhealth : ((.ok (if i.healthPermits = false then
            some (.refuse .PROTECT_ONLY "HEALTH_BLOCKED") else none)
            : Py (Option FinalGateResult)) = .ok none) ↔ i.healthPermits = true := by
        cases i.healthPermits <;> simp
      rw [autonomous, Py.firstAnswer_eq_none]
      simp only [List.forall_mem_cons, refuseIf_eq_none, hscope, hhealth, not_not, not_or,
        Bool.not_eq_false, Option.some.injEq, List.not_mem_nil, false_imp_iff, implies_true,
        and_true]
      constructor
      · rintro ⟨hm, ⟨hb, hmode⟩, hh, hq, hr, ⟨hid, hv, ha, ha'⟩, hs, hsource⟩
        refine ⟨mandate, binding, rfl, rfl, hm, hb, hmode, hh, hq, hr, hid, hv, ha, ha', hs, ?_⟩
        intro hkind
        by_contra hne
        exact hsource ⟨hkind, hne⟩
      · rintro ⟨_, _, rfl, rfl, h⟩
        exact ⟨h.mandateActive, ⟨h.bindingActive, h.mode⟩, h.healthPermits, h.qualified,
          h.runVersions, ⟨h.mandateId, h.mandateVersion, h.scopeAccount, h.account⟩, h.scope,
          fun hne => hne.2 (h.source hne.1)⟩

/-- **What the guards check.** -/
theorem finalGuards_eq_none : (∀ guard ∈ i.finalGuards, guard = .ok none) ↔ i.Passed := by
  have hbinds : (i.basis.basisHash >>= fun basisHash =>
        refuseIf (¬ i.ReservationBinds basisHash) "RESERVATION_BINDING_MISMATCH") = .ok none
      ↔ ∃ basisHash, i.basis.basisHash = .ok basisHash ∧ i.ReservationBinds basisHash := by
    simp only [Py.bind_eq_ok, refuseIf_eq_none, not_not]
  have hhealth : ¬ (i.request.fields.executionOrigin = .MANUAL_TEST ∧ i.healthPermits = false)
      ↔ (i.request.fields.executionOrigin = .MANUAL_TEST → i.healthPermits = true) := by
    rw [not_and, Bool.not_eq_false]
  simp only [finalGuards, List.forall_mem_cons, refuseIf_eq_none, hbinds, hhealth,
    not_and_not_right, not_not, not_or, RecordedAt.not_le, Decimal.not_lt, List.not_mem_nil,
    false_imp_iff, implies_true, and_true]
  constructor
  · rintro ⟨hhealth, hsnapshot, ⟨hrow, hactive⟩, hbasis, hnames, ⟨haction, hquantity⟩, hbound,
      ⟨hkind, href, hhash⟩, hmanual, hsource, horigin⟩
    refine ⟨hhealth, hsnapshot, hrow, hactive, hbasis, hnames, haction, hquantity, hbound, hkind,
      href, hhash, hmanual, ?_, ?_, ?_⟩
    · intro h
      rw [h] at hsource
      exact hsource
    · intro h
      rw [h] at hsource
      exact hsource
    · intro h
      rw [h] at horigin
      exact autonomous_eq_none.mp horigin
  · intro h
    refine ⟨h.manualHealth, h.snapshot, ⟨h.row, h.reservationActive⟩, h.basisActive, h.namesPlan,
      ⟨h.action, h.quantity⟩, h.binds, ⟨h.sourceKind, h.sourceRef, h.sourceHash⟩, h.manualKind,
      ?_, ?_⟩
    · cases hkind : i.basis.fields.kind with
      | MANDATE => exact h.mandateSource hkind
      | PLAN_APPROVAL => exact h.approvalSource hkind
    · cases horigin : i.request.fields.executionOrigin with
      | AUTONOMOUS_AGENT => exact autonomous_eq_none.mpr (h.autonomous horigin)
      | MANUAL_TEST => rfl

end FinalGateInput

variable {receipt : AutonomyGateReceipt}

/-- **What a permission means**: every guard let the call go on, and the receipt is the one that
the registry answers under the fingerprint. -/
theorem finalGate_permit {registry registry' : ReceiptIssuanceRegistry} {reason : Text}
    (h : finalGate i registry = (.ok (.permit receipt reason), registry')) :
    (∀ guard ∈ i.finalGuards, guard = .ok none) ∧ ∃ fingerprint,
      i.fingerprint = .ok fingerprint
        ∧ registry.issue i.basis.fields.basisId fingerprint
            (i.newReceipt registry.registryId fingerprint) = (.ok (some receipt), registry') := by
  unfold finalGate at h
  split at h
  · cases congrArg Prod.fst h
  · rename_i refusal hguards
    obtain ⟨outcome, why, rfl⟩ := FinalGateInput.onlyRefuses_finalGuards refusal hguards
    cases congrArg Prod.fst h
  · rename_i hguards
    refine ⟨Py.firstAnswer_eq_none.mp hguards, ?_⟩
    split at h
    · cases congrArg Prod.fst h
    · rename_i fingerprint hfingerprint
      refine ⟨fingerprint, hfingerprint, ?_⟩
      split at h
      · cases congrArg Prod.fst h
      · cases congrArg Prod.fst h
      · rename_i receipt' registry'' hissue
        rw [hissue]
        obtain ⟨hresult, rfl⟩ := Prod.mk.inj h
        injection hresult with hresult
        injection hresult with hreceipt hreason
        rw [hreceipt]

theorem FinalGateInput.newReceipt_eq_ok {registryId : EntityId} {fingerprint : Text} (h : i.newReceipt registryId fingerprint = .ok receipt) :
    ∃ receiptId basisHash reservationHash nonce modeBindingHash,
      i.basis.basisHash = .ok basisHash ∧ i.reservation.reservationHash = .ok reservationHash
        ∧ i.modeBindingHash = .ok modeBindingHash
        ∧ EntityId.deterministic "autonomy_gate_receipt" fingerprint = .ok receiptId
        ∧ EntityId.deterministic "receipt_nonce" (fingerprint ++ Text.ofString ":nonce")
          = .ok nonce
        ∧ receipt.fields = {
          receiptId := receiptId
          planId := i.request.fields.planId
          planVersion := i.request.fields.planVersion
          planHash := i.request.fields.planHash
          accountId := i.request.fields.accountId
          instrument := i.request.fields.instrument
          strategy := i.request.fields.strategy
          session := i.request.fields.session
          action := i.request.fields.action
          quantity := i.request.fields.quantity
          basisId := i.basis.fields.basisId
          basisHash := basisHash
          sourceId := i.basis.fields.sourceId
          sourceVersion := i.basis.fields.sourceVersion
          sourceHash := i.basis.fields.sourceHash
          executionOrigin := i.request.fields.executionOrigin
          snapshotHash := i.request.fields.snapshotHash
          runVersionsHash := i.request.fields.runVersionsHash
          reservationId := i.reservation.fields.reservationId
          reservationHash := reservationHash
          expiresAt := i.expiry
          issuedAt := i.now
          nonce := nonce
          issuanceRegistryId := registryId
          modeBindingId := i.modeBinding.map (·.fields.bindingId)
          modeBindingVersion := i.modeBinding.map (·.fields.version)
          modeBindingHash := modeBindingHash
          manualActorRef := match i.request.fields.executionOrigin with
            | .AUTONOMOUS_AGENT => none
            | .MANUAL_TEST => i.approval.bind (·.fields.decidedBy)
          environmentPolicyRef := "environment://simulation-only" } := by
  obtain ⟨receiptId, hreceiptId, h⟩ := Py.of_bind h
  obtain ⟨basisHash, hbasis, h⟩ := Py.of_bind h
  obtain ⟨reservationHash, hreservation, h⟩ := Py.of_bind h
  obtain ⟨nonce, hnonce, h⟩ := Py.of_bind h
  obtain ⟨modeBindingHash, hmode, h⟩ := Py.of_bind h
  rw [Frozen.make_eq_ok] at h
  exact ⟨receiptId, basisHash, reservationHash, nonce, modeBindingHash, hbasis, hreservation,
    hmode, hreceiptId, hnonce, h⟩

/-- What every guard having let the call go on leads to. -/
theorem finalGate_of_guards (registry : ReceiptIssuanceRegistry) {fingerprint : Text} (hguards : ∀ guard ∈ i.finalGuards, guard = .ok none)
    (hfingerprint : i.fingerprint = .ok fingerprint) (hdigest : fingerprint.IsHexDigest)
    (hreceipt : i.newReceipt registry.registryId fingerprint = .ok receipt)
    (hvalid : i.basis.fields.basisId ∉ registry.invalidatedBases)
    (hnew : registry.issued.get? i.basis.fields.basisId = none) :
    finalGate i registry = (.ok (.permit receipt "PERMITTED"),
      { registry with
        issued := registry.issued.set i.basis.fields.basisId (fingerprint, receipt) }) := by
  obtain ⟨_, _, _, _, _, -, -, -, -, -, hfields⟩ := FinalGateInput.newReceipt_eq_ok hreceipt
  have hbinds : receipt.fields.basisId = i.basis.fields.basisId
      ∧ receipt.fields.issuanceRegistryId = registry.registryId := by
    rw [hfields]
    exact ⟨rfl, rfl⟩
  simp only [finalGate, Py.firstAnswer_eq_none.mpr hguards, hfingerprint,
    ReceiptIssuanceRegistry.issue, checkSha, require_of_pos hdigest, if_neg hvalid, hnew, hreceipt,
    if_pos hbinds]

namespace FinalGateInput

theorem exists_fingerprint {binding : AutonomyModeBinding}
    {modeHash basisHash reservationHash : Text}
    (horigin : i.request.fields.executionOrigin = .AUTONOMOUS_AGENT)
    (hbinding : i.binding = some binding) (hmode : binding.bindingHash = .ok modeHash)
    (hbasis : i.basis.basisHash = .ok basisHash)
    (hreservation : i.reservation.reservationHash = .ok reservationHash) :
    ∃ fingerprint, i.fingerprint = .ok fingerprint ∧ fingerprint.IsHexDigest := by
  have hmodeHash : i.modeBindingHash = .ok (some modeHash) := by
    simp only [modeBindingHash, modeBinding, horigin, hbinding, hmode, Py.ok_bind]
  rw [fingerprint, hmodeHash, Py.ok_bind, hbasis, Py.ok_bind, hreservation, Py.ok_bind]
  apply exists_canonicalSha256_of_isWritable
  simp [Json.membersWritable]

theorem exists_newReceipt {binding : AutonomyModeBinding}
    {fingerprint modeHash basisHash reservationHash : Text} (registryId : EntityId)
    (horigin : i.request.fields.executionOrigin = .AUTONOMOUS_AGENT)
    (hbinding : i.binding = some binding) (hmode : binding.bindingHash = .ok modeHash)
    (hmodeDigest : modeHash.IsHexDigest) (hbasis : i.basis.basisHash = .ok basisHash)
    (hbasisDigest : basisHash.IsHexDigest)
    (hreservation : i.reservation.reservationHash = .ok reservationHash)
    (hreservationDigest : reservationHash.IsHexDigest) (hdigest : fingerprint.IsHexDigest)
    (hexpiry : i.now < i.expiry) :
    ∃ receipt, i.newReceipt registryId fingerprint = .ok receipt := by
  have hmodeHash : i.modeBindingHash = .ok (some modeHash) := by
    simp only [modeBindingHash, modeBinding, horigin, hbinding, hmode, Py.ok_bind]
  have hne : fingerprint ≠ [] := by
    rintro rfl
    cases hdigest.1
  obtain ⟨receiptId, hreceiptId⟩ := EntityId.exists_deterministic
    (show EntityIdFields.matchesNamespace "autonomy_gate_receipt" = true by decide) hne
    hdigest.isAscii
  obtain ⟨nonce, hnonce⟩ := EntityId.exists_deterministic
    (show EntityIdFields.matchesNamespace "receipt_nonce" = true by decide)
    (List.append_ne_nil_of_left_ne_nil hne (Text.ofString ":nonce"))
    (Text.isAscii_append.mpr ⟨hdigest.isAscii, by decide⟩)
  have hrequest : GateRequestFields.postInit i.request.fields = .ok () := i.request.valid
  have hbasisValid : BasisFields.postInit i.basis.fields = .ok () := i.basis.valid
  have hbindingValid : ModeBindingFields.postInit binding.fields = .ok () := binding.valid
  simp only [GateRequestFields.postInit, BasisFields.postInit, ModeBindingFields.postInit,
    check_bind_eq_ok, checkSha, checkPositiveVersion, require_eq_ok]
    at hrequest hbasisValid hbindingValid
  obtain ⟨hplan, hplanHash, hsnapshot, hruns, htexts, hquantity⟩ := hrequest
  obtain ⟨-, -, hsource, -, hsourceHash, -⟩ := hbasisValid
  rw [newReceipt, hreceiptId, Py.ok_bind, hbasis, Py.ok_bind, hreservation, Py.ok_bind, hnonce,
    Py.ok_bind, hmodeHash, Py.ok_bind]
  apply Frozen.exists_make_iff.mpr
  show ReceiptFields.postInit _ = .ok ()
  simp only [ReceiptFields.postInit, ReceiptFields.checkOrigin, check_bind_eq_ok, checkSha,
    checkPositiveVersion, require_eq_ok, whenSome_eq_ok, modeBinding, horigin, hbinding,
    Option.map_some, Option.mem_def, Option.some.injEq, forall_eq']
  refine ⟨hplan, by decide, hsource, hplanHash, hbasisDigest, hsourceHash, hsnapshot, hruns,
    hreservationDigest, htexts, ⟨hexpiry, hquantity, by decide⟩, ?_, hbindingValid.1, hmodeDigest,
    trivial⟩
  simp

end FinalGateInput

end

end AutonomyGate

end FuturesAgentOs
