import FuturesAgentOs.Decision.Submission
import FuturesAgentOs.PortfolioRisk.RiskConstitution

namespace FuturesAgentOs

open PyModel

/-!
# Submitting a trade plan

`decision/submit_trade_plan.py`, `SubmitTradePlanService` with its registries in memory: a plan is
authorized, sized, reserved for, permitted and bound, and its receipt is consumed.  Each stage may
end the call with a result, and what it has changed by then stays changed.

* `submit` — one call, and `machine`, the calls of one service.
-/

/-- The texts of `outcome`. -/
inductive SubmitOutcome where
  | REJECTED
  | DEFERRED
  | AUTHORIZED
  | SUBMITTED
  deriving DecidableEq

structure SubmitTradePlanResult where
  outcome : SubmitOutcome
  reason : Text
  preflight : Option PreflightResult := none
  basis : Option AuthorizationBasis := none
  reservation : Option RiskBudgetReservation := none
  risk : Option RiskDecision := none
  protection : Option ProtectionMandate := none
  receipt : Option AutonomyGateReceipt := none
  executionPlan : Option ExecutionPlan := none
  order : Option Order := none
  ledger : Option LedgerEntry := none
  deriving DecidableEq

structure SubmitTradePlanService where
  constitution : RiskConstitution
  riskLedger : RiskBudgetLedger
  basisRegistry : BasisIssuanceRegistry
  approvalRegistry : PlanApprovalRegistry
  receiptIssuance : ReceiptIssuanceRegistry
  receiptRegistry : ReceiptRegistry
  /-- what `receipt_registry` was built on, if that is not `receipt_issuance` -/
  otherIssuance : Option ReceiptIssuanceRegistry
  deriving DecidableEq

/-- The arguments of `submit`. -/
structure SubmitArgs where
  plan : TradePlan
  now : RecordedAt
  executionOrigin : ExecutionOrigin
  snapshotHash : Text
  snapshotExpiresAt : RecordedAt
  runVersionsHash : Text
  session : Text := "default"
  mandate : Option SimulationAutonomyMandate := none
  binding : Option AutonomyModeBinding := none
  approval : Option PlanApproval := none
  qualified : Bool := true
  healthPermits : Bool := true
  approvalAllowed : Bool := false
  dataQuality : Option Reading := none
  concentration : Option Reading := none
  daysToDelivery : Option ℤ := none
  orderType : Text := "MARKET"
  issueOrder : Bool := true

def PreflightOutcome.value : PreflightOutcome → Text
  | AUTHORIZED => "AUTHORIZED"
  | ESCALATE => "ESCALATE"
  | REJECT => "REJECT"
  | PROTECT_ONLY => "PROTECT_ONLY"

def GateRefusal.value : GateRefusal → Text
  | REJECT => "REJECT"
  | PROTECT_ONLY => "PROTECT_ONLY"

/-- `reason or outcome.value` -/
def reasonOrOutcome (reason outcome : Text) : Text := if reason = [] then outcome else reason

/-- `ApprovalAction(action.value)` -/
def TradeAction.approval : TradeAction → ApprovalAction
  | OPEN => .OPEN
  | REDUCE => .REDUCE
  | CLOSE => .CLOSE

/-- `ReservationAction(action.value)` -/
def TradeAction.reservation : TradeAction → ReservationAction
  | OPEN => .OPEN
  | REDUCE => .REDUCE
  | CLOSE => .CLOSE

/-- Python's `==` on risk decisions: every field equal, the amounts as numbers. -/
def RiskDecision.SameAs (r s : RiskDecision) : Prop :=
  { r.fields with
      approvedQuantity := s.fields.approvedQuantity
      maxLoss := s.fields.maxLoss
      margin := s.fields.margin } = s.fields
    ∧ r.fields.approvedQuantity.numEq s.fields.approvedQuantity
    ∧ r.fields.maxLoss.numEq s.fields.maxLoss ∧ r.fields.margin.numEq s.fields.margin

instance RiskDecision.decidableSameAs (r s : RiskDecision) : Decidable (r.SameAs s) := inferInstanceAs (Decidable (_ ∧ _))

/-! ### The records that a call makes -/

namespace SubmitArgs

variable [Hashlib] (args : SubmitArgs)

def request : Py GateRequest := do
  let planHash ← args.plan.planHash
  Frozen.make {
    planId := args.plan.fields.planId
    planVersion := args.plan.fields.version
    planHash := planHash
    accountId := args.plan.fields.accountId
    instrument := args.plan.fields.instrument
    strategy := args.plan.fields.strategyRef
    session := args.session
    action := args.plan.fields.action.approval
    quantity := args.plan.fields.quantity
    executionOrigin := args.executionOrigin
    snapshotHash := args.snapshotHash
    snapshotExpiresAt := args.snapshotExpiresAt
    runVersionsHash := args.runVersionsHash }

/-- An identifier of the plan. -/
def planIdentity (nspace : Text) : Py EntityId := do
  let planHash ← args.plan.planHash
  EntityId.deterministic nspace planHash

/-- The command of the consumption of an approval. -/
def consumeCommand (planHash : Text) (request : GateRequest) : ConsumeCommand where
  planId := args.plan.fields.planId
  planVersion := args.plan.fields.version
  planHash := planHash
  accountId := args.plan.fields.accountId
  instrument := args.plan.fields.instrument
  strategy := args.plan.fields.strategyRef
  session := args.session
  action := request.fields.action
  quantity := request.fields.quantity

/-- What the engine is told. -/
def observations : RiskObservations where
  dataQuality := args.dataQuality
  concentration := args.concentration
  daysToDelivery := args.daysToDelivery

/-- The decision of the engine. -/
def decide (ctx : DecimalContext) (constitution : RiskConstitution) : Py RiskDecision := do
  let decisionId ← args.planIdentity "risk_decision"
  constitution.decide ctx args.plan decisionId args.now args.observations

/-- The expiry of the reservation. -/
def expiry (basis : AuthorizationBasis) : RecordedAt :=
  PlanApproval.earlier (PlanApproval.earlier args.plan.fields.expiresAt basis.fields.expiresAt)
    args.snapshotExpiresAt

def reservation (constitution : RiskConstitution) (basis : AuthorizationBasis)
    (risk : RiskDecision) : Py RiskBudgetReservation := do
  let basisHash ← basis.basisHash
  let planHash ← args.plan.planHash
  let seed ← canonicalSha256 (.obj [
    ("plan", .str planHash),
    ("basis", .str basisHash),
    ("quantity", .str risk.fields.approvedQuantity.str),
    ("loss", .str risk.fields.maxLoss.str),
    ("margin", .str risk.fields.margin.str),
    ("expiry", .str (args.expiry basis).text)])
  let reservationId ← EntityId.deterministic "risk_budget_reservation" seed
  Frozen.make {
    reservationId := reservationId
    accountId := args.plan.fields.accountId
    planId := args.plan.fields.planId
    planVersion := args.plan.fields.version
    planHash := planHash
    instrument := args.plan.fields.instrument
    strategy := args.plan.fields.strategyRef
    session := args.session
    authorizationBasisId := basis.fields.basisId
    authorizationBasisHash := basisHash
    riskConstitutionRef := constitution.fields.ref
    riskConstitutionVersion := constitution.fields.version
    riskConstitutionHash := constitution.fields.contentHash
    riskConstitutionCeiling := constitution.fields.maxSingleLoss
    worstCaseLoss := risk.fields.maxLoss
    margin := risk.fields.margin
    expiresAt := args.expiry basis
    riskDimensions := [
      ("action", args.plan.fields.action.value),
      ("direction", args.plan.fields.direction.value),
      ("instrument", args.plan.fields.instrument),
      ("strategy", args.plan.fields.strategyRef)]
    quantity := risk.fields.approvedQuantity
    action := args.plan.fields.action.reservation
    sourceKind := AutonomyGate.FinalGateInput.sourceKind basis.fields.kind
    sourceRef := some basis.fields.sourceId
    sourceHash := some basis.fields.sourceHash }

def protection (risk : RiskDecision) : Py ProtectionMandate := do
  let planHash ← args.plan.planHash
  let seed ← canonicalSha256 (.obj [
    ("plan", .str planHash),
    ("risk", .str risk.fields.decisionId.str),
    ("risk_version", .int risk.fields.version)])
  let mandateId ← EntityId.deterministic "protection_mandate" seed
  Frozen.make {
    mandateId := mandateId
    planId := args.plan.fields.planId
    stopPrice := args.plan.fields.protection.fields.stopPrice
    maxLoss := risk.fields.maxLoss
    issuedAt := args.now
    riskDecisionId := some risk.fields.decisionId
    riskDecisionPlanVersion := some risk.fields.planVersion }

def ledgerEntry (order : Order) (reservation : RiskBudgetReservation) : Py LedgerEntry := do
  let entryId ← EntityId.deterministic "ledger_entry" order.fields.orderId.str
  Frozen.make {
    entryId := entryId
    accountId := args.plan.fields.accountId
    eventRef := order.fields.orderId
    amount := reservation.fields.margin
    currency := "CNY"
    entryType := "MARGIN_RESERVED"
    recordedAt := args.now }

end SubmitArgs

/-! ### The stages -/

/-- A plan with the basis that authorizes it. -/
structure AuthorizedPlan where
  request : GateRequest
  preflight : PreflightResult
  basis : AuthorizationBasis
  /-- the approval that the gate is shown -/
  approval : Option PlanApproval

/-- A plan that risk has sized, with the reservation to make. -/
structure SizedPlan extends AuthorizedPlan where
  risk : RiskDecision
  /-- the request for the approved quantity -/
  sized : GateRequest
  reservation : RiskBudgetReservation

/-- A plan that the gate permits. -/
structure PermittedPlan extends SizedPlan where
  receipt : AutonomyGateReceipt

/-- A plan that is bound to its order. -/
structure BoundPlan extends PermittedPlan where
  protection : ProtectionMandate
  execution : ExecutionPlan
  order : Order
  entry : LedgerEntry

namespace SubmitTradePlanService

/-- The issuance registry that the receipts are consumed from. -/
def registryIssuance (s : SubmitTradePlanService) : ReceiptIssuanceRegistry :=
  s.otherIssuance.getD s.receiptIssuance

/-- The service after a change of that registry. -/
def withRegistryIssuance (s : SubmitTradePlanService) (issuance : ReceiptIssuanceRegistry) :
    SubmitTradePlanService :=
  match s.otherIssuance with
  | none => { s with receiptIssuance := issuance }
  | some _ => { s with otherIssuance := some issuance }

/-- Statements of `submit`. -/
abbrev Statement (α : Type) := Body SubmitTradePlanService SubmitTradePlanResult α

/-- `SubmitTradePlanResult("REJECTED", reason, preflight)` -/
def rejected (reason : Text) (preflight : Option PreflightResult := none) :
    SubmitTradePlanResult where
  outcome := .REJECTED
  reason := reason
  preflight := preflight

/-- A rejection of a sized plan. -/
def rejectedSized (reason : Text) (p : SizedPlan) (risk : RiskDecision) :
    SubmitTradePlanResult where
  outcome := .REJECTED
  reason := reason
  preflight := some p.preflight
  basis := some p.basis
  reservation := some p.reservation
  risk := some risk

variable [Hashlib] (ctx : DecimalContext) (args : SubmitArgs)

/-- The call of `preflight`. -/
def callPreflight (request : GateRequest) : Statement PreflightResult :=
  Body.call fun s =>
    let (answer, registry) := AutonomyGate.preflight request args.mandate args.binding
      args.qualified args.healthPermits args.now args.approvalAllowed s.basisRegistry
    (answer, { s with basisRegistry := registry })

/-- The call of `consume` of the approval registry. -/
def callConsume (approval : PlanApproval) (basisId : EntityId) (command : ConsumeCommand) :
    Statement (PlanApproval × Option AuthorizationBasis) :=
  Body.call fun s =>
    let (answer, registry) := s.approvalRegistry.consume approval args.now basisId command
    (answer, { s with approvalRegistry := registry })

/-- An escalated request is authorized by an approval, once a human gave one. -/
def authorizeByApproval (request : GateRequest) (preflight : PreflightResult) :
    Statement AuthorizedPlan := do
  match args.approval with
  | none => Body.returns {
      outcome := .DEFERRED
      reason := "PLAN_APPROVAL_REQUIRED"
      preflight := some preflight }
  | some approval =>
    let basisId ← Body.lift (args.planIdentity "authorization_basis")
    let planHash ← Body.lift args.plan.planHash
    let (consumed, basis) ← callConsume args approval basisId (args.consumeCommand planHash request)
    match basis with
    | none => Body.returns (rejected "AUTHORIZATION_CONSUMPTION_INVALID" preflight)
    | some basis =>
      Body.returnIf (consumed.fields.status ≠ .CONSUMED)
        (rejected "AUTHORIZATION_CONSUMPTION_INVALID" preflight)
      pure ⟨request, preflight, basis, some consumed⟩

/-- Authorization, before sizing and reservation. -/
def authorize : Statement AuthorizedPlan := do
  let hard := TradePlanSubmitter.validatePlan args.plan args.now
  Body.returnIf (hard ≠ "PLAN_VALID") (rejected hard)
  Body.returnIf (args.snapshotExpiresAt ≤ args.now) (rejected "SNAPSHOT_EXPIRED")
  let request ← Body.lift args.request
  let preflight ← callPreflight args request
  match preflight.outcome, preflight.basis with
  | .ESCALATE, _ => authorizeByApproval args request preflight
  | .AUTHORIZED, some basis => pure ⟨request, preflight, basis, args.approval⟩
  | _, _ =>
    Body.returns (rejected (reasonOrOutcome preflight.reason preflight.outcome.value) preflight)

/-- Sizing, which is deterministic and changes nothing. -/
def size (p : AuthorizedPlan) : Statement SizedPlan := do
  let constitution ← Body.get SubmitTradePlanService.constitution
  let risk ← Body.lift (args.decide ctx constitution)
  Body.returnIf (risk.fields.outcome ∉ [.APPROVE, .MODIFY])
    { outcome := .REJECTED, reason := "RISK_NOT_APPROVED", risk := some risk }
  let sized ← Body.lift (p.request.replace (fun f =>
    { f with quantity := risk.fields.approvedQuantity }))
  let reservation ← Body.lift (args.reservation constitution p.basis risk)
  pure ⟨p, risk, sized, reservation⟩

/-- The call of `reserve`. -/
def callReserve (reservation : RiskBudgetReservation) : Statement Bool :=
  Body.call fun s =>
    let (answer, ledger) := s.riskLedger.reserve ctx reservation args.now
    (answer, { s with riskLedger := ledger })

/-- The reservation. -/
def reserve (p : SizedPlan) : Statement Unit := do
  let reserved ← callReserve ctx args p.reservation
  Body.returnIf (reserved = false) (rejectedSized "RISK_RESERVATION_REJECTED" p p.risk)

/-- `risk_ledger.release(reservation_id)` -/
def release (id : EntityId) : Statement Unit :=
  Body.modify fun s => { s with riskLedger := (s.riskLedger.release id).2 }

/-- `receipt_issuance.invalidate_basis(basis_id)` -/
def invalidateBasis (id : EntityId) : Statement Unit :=
  Body.modify fun s => { s with receiptIssuance := (s.receiptIssuance.invalidateBasis id).2 }

/-- What the final gate is shown. -/
def gateInput (p : SizedPlan) (ledger : RiskBudgetLedger) : AutonomyGate.FinalGateInput where
  request := p.sized
  basis := p.basis
  mandate := args.mandate
  approval := p.approval
  reservation := p.reservation
  binding := args.binding
  qualified := args.qualified
  healthPermits := args.healthPermits
  now := args.now
  riskLedger := ledger

/-- The call of `final_gate`. -/
def callFinalGate (p : SizedPlan) : Statement FinalGateResult :=
  Body.call fun s =>
    let (answer, issuance) :=
      AutonomyGate.finalGate (gateInput args p s.riskLedger) s.receiptIssuance
    (answer, { s with receiptIssuance := issuance })

/-- The permission of the final gate, and the second look at the risk. -/
def permit (p : SizedPlan) : Statement PermittedPlan := do
  match ← callFinalGate args p with
  | .refuse outcome reason =>
    release p.reservation.fields.reservationId
    Body.returns (rejectedSized (reasonOrOutcome reason outcome.value) p p.risk)
  | .permit receipt _ =>
    let constitution ← Body.get SubmitTradePlanService.constitution
    let currentRisk ← Body.lift (args.decide ctx constitution)
    if ¬ currentRisk.SameAs p.risk then
      invalidateBasis p.basis.fields.basisId
      release p.reservation.fields.reservationId
      Body.returns { rejectedSized "RISK_DECISION_STALE" p currentRisk with receipt := some receipt }
    else pure ⟨{ p with risk := currentRisk }, receipt⟩

/-- What the submitter is shown. -/
def submitterInput (p : PermittedPlan) (protection : ProtectionMandate) :
    TradePlanSubmitter.Input where
  plan := args.plan
  risk := p.risk
  protection := protection
  receipt := p.receipt
  reservation := p.reservation
  orderType := args.orderType
  now := args.now

/-- The binding of the plan to its order. -/
def bindOrder (p : PermittedPlan) : Statement BoundPlan := do
  let protection ← Body.lift (args.protection p.risk)
  let submission ← Body.lift (TradePlanSubmitter.submit (submitterInput args p protection))
  match submission.executionPlan with
  | none =>
    release p.reservation.fields.reservationId
    Body.returns { rejectedSized submission.reason p.toSizedPlan p.risk with
      protection := some protection
      receipt := some p.receipt }
  | some execution =>
    let order ← Body.lift (Order.fromExecutionPlan execution args.plan.fields.instrument
      args.plan.fields.direction)
    let entry ← Body.lift (args.ledgerEntry order p.reservation)
    pure ⟨p, protection, execution, order, entry⟩

/-- Everything before the receipt is consumed. -/
def prepare : Statement BoundPlan := do
  let authorized ← authorize args
  let sized ← size ctx args authorized
  reserve ctx args sized
  let permitted ← permit ctx args sized
  bindOrder args permitted

/-- What the receipt registry is shown. -/
def presented (p : BoundPlan) : Consumption where
  receipt := p.receipt
  now := args.now
  request := p.sized
  basis := p.basis
  mandate := args.mandate
  approval := p.approval
  reservation := p.reservation
  binding := args.binding
  qualified := args.qualified
  healthPermits := args.healthPermits

def consumeAuthorizedReceipt (p : BoundPlan) : Statement Bool :=
  Body.call fun s =>
    let (consumed, ledger, receipts, issuance) := s.riskLedger.consumeWithCommit
      (s.receiptRegistry, s.registryIssuance) p.reservation.fields.reservationId args.now
      (some (SubmissionRace.commit (presented args p)))
    (consumed.map Option.isSome,
      { (s.withRegistryIssuance issuance) with riskLedger := ledger, receiptRegistry := receipts })

/-- The results of a bound plan. -/
def resultOf (p : BoundPlan) (outcome : SubmitOutcome) (reason : Text) :
    SubmitTradePlanResult where
  outcome := outcome
  reason := reason
  preflight := some p.preflight
  basis := some p.basis
  reservation := some p.reservation
  risk := some p.risk
  protection := some p.protection
  receipt := some p.receipt

/-- The order. -/
def issueOrder (p : BoundPlan) : Statement SubmitTradePlanResult := do
  Body.returnIf (args.issueOrder = false)
    { resultOf p .AUTHORIZED "EXECUTION_PLAN_CREATED" with executionPlan := some p.execution }
  let consumed ← consumeAuthorizedReceipt args p
  Body.returnIf (consumed = false) (resultOf p .REJECTED "RECEIPT_CONSUME_REJECTED")
  let row ← Body.get fun s => s.riskLedger.row p.reservation.fields.reservationId
  pure { resultOf p .SUBMITTED "ORDER_CREATED" with
    reservation := row
    executionPlan := some p.execution
    order := some p.order
    ledger := some p.entry }

def submit (s : SubmitTradePlanService) : Py SubmitTradePlanResult × SubmitTradePlanService :=
  Body.run (prepare ctx args >>= issueOrder args) s

/-- The calls of one service. -/
def machine : Machine SubmitTradePlanService SubmitArgs (Py SubmitTradePlanResult) :=
  ⟨fun s args => submit ctx args s⟩

end SubmitTradePlanService

end FuturesAgentOs
