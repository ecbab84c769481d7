import FuturesAgentOs.Decision.Order
import FuturesAgentOs.Decision.RiskDecision
import FuturesAgentOs.Decision.SubmissionRace

namespace FuturesAgentOs

open PyModel

/-!
# The final binding check

`decision/submission.py`, `TradePlanSubmitter`: a plan, what risk decided about it, its receipt and
its reservation become an execution plan if they all name each other.  The check is a row of guards
that answer with the reason of a refusal.

* `Order.fromExecutionPlan` — the order of an execution plan.
-/

structure SubmissionResult where
  executionPlan : Option ExecutionPlan
  reason : Text
  deriving DecidableEq

namespace TradePlanSubmitter

def validatePlan (plan : TradePlan) (now : RecordedAt) : Text :=
  if plan.fields.status ∉ [.DRAFT, .VALIDATED] then "PLAN_NOT_SUBMITTABLE"
  else if plan.fields.expiresAt ≤ now then "PLAN_EXPIRED"
  else if plan.fields.protection.fields.maxLoss ≤ Decimal.ofNat 0
      ∨ plan.fields.evidenceRefs = [] then
    "PLAN_PROTECTION_OR_EVIDENCE_MISSING"
  else "PLAN_VALID"

/-- What `submit` reads. -/
structure Input where
  plan : TradePlan
  risk : RiskDecision
  protection : ProtectionMandate
  receipt : AutonomyGateReceipt
  reservation : RiskBudgetReservation
  orderType : Text
  now : RecordedAt

/-- A guard: the reason to refuse when the condition holds. -/
def reasonIf (c : Prop) [Decidable c] (reason : Text) : Py (Option Text) :=
  .ok (if c then some reason else none)

namespace Input

variable (i : Input)

/-- The receipt names the plan with this hash. -/
def ReceiptNamesPlan (planHash : Text) : Prop :=
  i.receipt.fields.planId = i.plan.fields.planId
    ∧ i.receipt.fields.planVersion = i.plan.fields.version
    ∧ i.receipt.fields.planHash = planHash

instance (planHash : Text) : Decidable (i.ReceiptNamesPlan planHash) :=
  inferInstanceAs (Decidable (_ ∧ _))

/-- The receipt names the account and the scope of the plan. -/
def ReceiptNamesScope : Prop :=
  i.receipt.fields.accountId = i.plan.fields.accountId
    ∧ i.receipt.fields.instrument = i.plan.fields.instrument
    ∧ i.receipt.fields.strategy = i.plan.fields.strategyRef

instance : Decidable i.ReceiptNamesScope := inferInstanceAs (Decidable (_ ∧ _))

/-- The quantity is one, and the reservation is about it. -/
def QuantityInScope : Prop :=
  Decimal.ofNat 0 < i.risk.fields.approvedQuantity
    ∧ i.risk.fields.approvedQuantity.numEq i.reservation.fields.quantity
    ∧ i.reservation.fields.action.value = i.plan.fields.action.value
    ∧ i.reservation.fields.instrument = i.plan.fields.instrument
    ∧ i.reservation.fields.strategy = i.plan.fields.strategyRef

instance : Decidable i.QuantityInScope := inferInstanceAs (Decidable (_ ∧ _))

variable [Hashlib]

/-- The checks of `submit`, in order. -/
def guards : List (Py (Option Text)) := [
  reasonIf (validatePlan i.plan i.now ≠ "PLAN_VALID") (validatePlan i.plan i.now),
  reasonIf (i.risk.fields.planId ≠ i.plan.fields.planId
      ∨ i.risk.fields.planVersion ≠ i.plan.fields.version)
    "RISK_PLAN_MISMATCH",
  do
    let planHash ← i.plan.planHash
    reasonIf (i.risk.fields.planHash ≠ some planHash) "RISK_PLAN_HASH_MISMATCH",
  reasonIf (i.risk.fields.outcome ∉ [.APPROVE, .MODIFY]) "RISK_NOT_APPROVED",
  reasonIf (i.protection.fields.planId ≠ i.plan.fields.planId) "PROTECTION_PLAN_MISMATCH",
  reasonIf (i.protection.fields.riskDecisionPlanVersion.any (· ≠ i.risk.fields.planVersion) = true)
    "PROTECTION_RISK_VERSION_MISMATCH",
  reasonIf (i.protection.fields.riskDecisionId.any (· ≠ i.risk.fields.decisionId) = true)
    "PROTECTION_RISK_MISMATCH",
  do
    let planHash ← i.plan.planHash
    reasonIf (¬ i.ReceiptNamesPlan planHash) "RECEIPT_PLAN_MISMATCH",
  reasonIf (¬ i.ReceiptNamesScope) "RECEIPT_SCOPE_MISMATCH",
  reasonIf (i.receipt.fields.action.value ≠ i.plan.fields.action.value
      ∨ ¬ i.receipt.fields.quantity.numEq i.risk.fields.approvedQuantity)
    "RECEIPT_ACTION_QUANTITY_MISMATCH",
  reasonIf (i.reservation.fields.planId ≠ i.plan.fields.planId
      ∨ i.reservation.fields.planVersion ≠ i.plan.fields.version)
    "RESERVATION_PLAN_MISMATCH",
  reasonIf (i.reservation.fields.authorizationBasisId ≠ i.receipt.fields.basisId
      ∨ i.reservation.fields.reservationId ≠ i.receipt.fields.reservationId)
    "RECEIPT_RESERVATION_MISMATCH",
  reasonIf (i.receipt.fields.expiresAt ≤ i.now ∨ i.reservation.fields.expiresAt ≤ i.now)
    "AUTHORIZATION_EXPIRED",
  reasonIf (¬ i.QuantityInScope) "QUANTITY_OUT_OF_SCOPE"]

/-- The value whose digest is the seed of the execution plan. -/
def seedItems (planHash : Text) : List (Text × Json) := [
  ("plan", .str planHash),
  ("plan_version", .int i.plan.fields.version),
  ("risk", .str i.risk.fields.decisionId.str),
  ("quantity", .str i.risk.fields.approvedQuantity.str),
  ("order_type", .str i.orderType),
  ("limit_price", .str i.plan.fields.entryPrice.str),
  ("stop_price", .null),
  ("protection", .str i.protection.fields.mandateId.str),
  ("receipt", .str i.receipt.fields.receiptId.str),
  ("reservation", .str i.reservation.fields.reservationId.str)]

/-- The execution plan of a plan that passed. -/
def execution : Py ExecutionPlan := do
  let planHash ← i.plan.planHash
  let seed ← canonicalSha256 (.obj (i.seedItems planHash))
  let executionPlanId ← EntityId.deterministic "execution_plan" seed
  Frozen.make {
    executionPlanId := executionPlanId
    planId := i.plan.fields.planId
    orderType := i.orderType
    quantity := i.risk.fields.approvedQuantity
    limitPrice := some i.plan.fields.entryPrice
    stopPrice := none
    protectionMandateId := i.protection.fields.mandateId
    createdAt := i.now
    riskDecisionId := some i.risk.fields.decisionId
    riskDecisionPlanVersion := some i.risk.fields.planVersion
    authorizationReceiptId := some i.receipt.fields.receiptId
    reservationId := some i.reservation.fields.reservationId
    planHash := some planHash }

end Input

variable [Hashlib]

def submit (i : Input) : Py SubmissionResult := do
  match ← Py.firstAnswer i.guards with
  | some reason => .ok ⟨none, reason⟩
  | none => do
    let execution ← i.execution
    .ok ⟨some execution, "EXECUTION_PLAN_CREATED"⟩

end TradePlanSubmitter

/-! ### The order -/

namespace Order

variable [Hashlib]

def fromExecutionPlan (execution : ExecutionPlan) (instrument : Text)
    (direction : TradeDirection) : Py Order := do
  let seed ← canonicalSha256 (.obj [
    ("execution_plan", .str execution.fields.executionPlanId.str),
    ("instrument", .str instrument),
    ("direction", .str direction.value),
    ("quantity", .str execution.fields.quantity.str),
    ("created_at", .str execution.fields.createdAt.text)])
  let orderId ← EntityId.deterministic "order" seed
  Frozen.make {
    orderId := orderId
    executionPlanId := execution.fields.executionPlanId
    instrument := instrument
    direction := direction
    quantity := execution.fields.quantity
    limitPrice := execution.fields.limitPrice
    stopPrice := execution.fields.stopPrice
    createdAt := execution.fields.createdAt
    schemaVersion := execution.fields.schemaVersion
    sourceRef := execution.fields.sourceRef }

end Order

end FuturesAgentOs
