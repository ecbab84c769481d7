import FuturesAgentOs.Decision.Position
import FuturesAgentOs.Decision.TradePlan

namespace FuturesAgentOs

open PyModel

/-!
# What risk makes of a plan

`decision/trade_contracts.py`: the risk decision on a plan, the protection mandate and the stop
policy that protect it, the execution plan that carries it out, and the ledger entry.
-/

inductive RiskDecisionOutcome where
  | APPROVE | MODIFY | REJECT | PROTECT_ONLY | HALT
  deriving DecidableEq

structure RiskDecisionFields where
  decisionId : EntityId
  planId : EntityId
  planVersion : ℤ
  outcome : RiskDecisionOutcome
  approvedQuantity : Decimal
  maxLoss : Decimal
  margin : Decimal
  ruleRefs : List Text
  riskConstitutionRef : Text
  issuedAt : RecordedAt
  planHash : Option Text := none
  schemaVersion : SchemaVersion := v2ContractSchema
  sourceRef : Text := "source:v2"
  version : ℤ := 1
  riskConstitutionVersion : ℤ := 1
  riskConstitutionHash : Option Text := none
  deriving DecidableEq

def RiskDecisionFields.postInit (f : RiskDecisionFields) : Py Unit := do
  let checkNonNegative (value : Decimal) (label : Text) : Py Unit :=
    require (Decimal.ofNat 0 ≤ value)
      (valueError (label ++ Text.ofString " must be finite and non-negative"))
  checkNamespace f.decisionId "risk_decision" "decision_id"
  checkNamespace f.planId "trade_plan" "plan_id"
  require (f.planHash ≠ none) (valueError "risk decisions must bind the immutable plan hash")
  whenSome f.planHash (fun hash => checkHash hash "plan_hash")
  checkText f.sourceRef "source_ref"
  checkVersion f.version "risk decision"
  checkVersion f.riskConstitutionVersion "risk constitution"
  whenSome f.riskConstitutionHash (fun hash => checkHash hash "risk_constitution_hash")
  require (1 ≤ f.planVersion) (valueError "plan_version must be positive")
  checkNonNegative f.approvedQuantity "approved_quantity"
  checkNonNegative f.maxLoss "max_loss"
  checkNonNegative f.margin "margin"
  require (f.ruleRefs.all (fun ref => ref ≠ []) = true)
    (valueError "rule_refs must be immutable text references")
  checkText f.riskConstitutionRef "risk_constitution_ref"
  require (f.outcome ∈ [.APPROVE, .MODIFY] → Decimal.ofNat 0 < f.approvedQuantity)
    (valueError "approved risk outcomes require positive quantity")
  require (f.outcome ∈ [.REJECT, .PROTECT_ONLY, .HALT] →
      f.approvedQuantity.numEq (Decimal.ofNat 0))
    (valueError "non-approved risk outcomes cannot authorize quantity")

instance : Dataclass RiskDecisionFields := ⟨RiskDecisionFields.postInit⟩

/-- What risk decided about a plan. -/
abbrev RiskDecision := Frozen RiskDecisionFields

/-- The two checks of a reference to a risk decision: a positive plan version, which is there
exactly when the decision is. -/
def checkDecisionVersion (version : Option ℤ) : Py Unit :=
  whenSome version (fun version => require (1 ≤ version)
    (valueError "risk decision plan version must be positive when present"))

def checkDecisionPair (decisionId : Option EntityId) (version : Option ℤ) : Py Unit :=
  require (decisionId = none ↔ version = none)
    (valueError "risk decision reference must include its plan version")

structure ProtectionMandateFields where
  mandateId : EntityId
  planId : EntityId
  stopPrice : Decimal
  maxLoss : Decimal
  issuedAt : RecordedAt
  version : ℤ := 1
  riskDecisionId : Option EntityId := none
  riskDecisionPlanVersion : Option ℤ := none
  schemaVersion : SchemaVersion := v2ContractSchema
  sourceRef : Text := "source:v2"
  deriving DecidableEq

def ProtectionMandateFields.postInit (f : ProtectionMandateFields) : Py Unit := do
  checkNamespace f.mandateId "protection_mandate" "mandate_id"
  checkNamespace f.planId "trade_plan" "plan_id"
  whenSome f.riskDecisionId (fun id => checkNamespace id "risk_decision" "risk_decision_id")
  checkDecisionVersion f.riskDecisionPlanVersion
  checkText f.sourceRef "source_ref"
  checkPositive f.stopPrice "stop_price"
  checkPositive f.maxLoss "max_loss"
  require (1 ≤ f.version) (valueError "mandate requires timestamp and positive version")
  checkDecisionPair f.riskDecisionId f.riskDecisionPlanVersion

instance : Dataclass ProtectionMandateFields := ⟨ProtectionMandateFields.postInit⟩

/-- The protection that risk enforces for a plan. -/
abbrev ProtectionMandate := Frozen ProtectionMandateFields

structure ExecutionPlanFields where
  executionPlanId : EntityId
  planId : EntityId
  orderType : Text
  quantity : Decimal
  limitPrice : Option Decimal
  stopPrice : Option Decimal
  protectionMandateId : EntityId
  createdAt : RecordedAt
  riskDecisionId : Option EntityId := none
  riskDecisionPlanVersion : Option ℤ := none
  authorizationReceiptId : Option EntityId := none
  reservationId : Option EntityId := none
  planHash : Option Text := none
  schemaVersion : SchemaVersion := v2ContractSchema
  sourceRef : Text := "source:v2"
  version : ℤ := 1
  deriving DecidableEq

def ExecutionPlanFields.postInit (f : ExecutionPlanFields) : Py Unit := do
  let checkPrice (price : Option Decimal) (label : Text) : Py Unit :=
    whenSome price (fun price => require (Decimal.ofNat 0 < price)
      (valueError (label ++ Text.ofString " must be positive when provided")))
  checkNamespace f.executionPlanId "execution_plan" "execution_plan_id"
  checkNamespace f.planId "trade_plan" "plan_id"
  checkNamespace f.protectionMandateId "protection_mandate" "protection_mandate_id"
  whenSome f.planHash (fun hash => checkHash hash "plan_hash")
  checkDecisionVersion f.riskDecisionPlanVersion
  checkDecisionPair f.riskDecisionId f.riskDecisionPlanVersion
  checkText f.sourceRef "source_ref"
  checkVersion f.version "execution plan"
  checkText f.orderType "order_type"
  require (Decimal.ofNat 0 < f.quantity) (valueError "execution quantity must be positive")
  checkPrice f.limitPrice "limit_price"
  checkPrice f.stopPrice "stop_price"

instance : Dataclass ExecutionPlanFields := ⟨ExecutionPlanFields.postInit⟩

/-- How a plan is to be carried out. -/
abbrev ExecutionPlan := Frozen ExecutionPlanFields

structure StopPolicyFields where
  policyId : EntityId
  positionId : EntityId
  stopPrice : Decimal
  maxLoss : Decimal
  active : Bool := true
  protectionMandateId : Option EntityId := none
  createdAt : RecordedAt
  version : ℤ := 1
  schemaVersion : SchemaVersion := v2ContractSchema
  sourceRef : Text := "source:v2"
  deriving DecidableEq

def StopPolicyFields.postInit (f : StopPolicyFields) : Py Unit := do
  checkNamespace f.policyId "stop_policy" "policy_id"
  checkNamespace f.positionId "position_lot" "position_id"
  whenSome f.protectionMandateId
    (fun id => checkNamespace id "protection_mandate" "protection_mandate_id")
  checkVersion f.version "stop policy"
  checkText f.sourceRef "source_ref"
  require (Decimal.ofNat 0 < f.stopPrice) (valueError "stop price must be positive")
  require (Decimal.ofNat 0 < f.maxLoss) (valueError "max loss must be positive")

instance : Dataclass StopPolicyFields := ⟨StopPolicyFields.postInit⟩

/-- The stop of a position. -/
abbrev StopPolicy := Frozen StopPolicyFields

structure LedgerEntryFields where
  entryId : EntityId
  accountId : EntityId
  eventRef : EntityId
  amount : Decimal
  currency : Text
  entryType : Text
  recordedAt : RecordedAt
  version : ℤ := 1
  schemaVersion : SchemaVersion := v2ContractSchema
  sourceRef : Text := "source:v2"
  deriving DecidableEq

def LedgerEntryFields.postInit (f : LedgerEntryFields) : Py Unit := do
  checkNamespace f.entryId "ledger_entry" "entry_id"
  checkNamespace f.accountId "simulation_account" "account_id"
  checkVersion f.version "ledger entry"
  checkText f.sourceRef "source_ref"
  checkText f.currency "currency"
  checkText f.entryType "entry_type"

instance : Dataclass LedgerEntryFields := ⟨LedgerEntryFields.postInit⟩

/-- A movement of money on an account. -/
abbrev LedgerEntry := Frozen LedgerEntryFields

/-!
## Risk reduction requests

`decision/risk_reduction.py`: the intent to reduce an existing exposure, which execution
validates before it issues a protective action.
-/

inductive ProtectionTriggerKind where
  | INITIAL_STOP
  | THESIS_INVALIDATION
  | TRAILING_STOP
  | TIME_STOP
  | PORTFOLIO_STOP
  | KILL_SWITCH
  deriving DecidableEq

structure RiskReductionRequestFields where
  requestId : EntityId
  positionId : EntityId
  expectedPositionVersion : ℤ
  targetQuantity : Decimal
  targetStopPrice : Option Decimal
  trigger : ProtectionTriggerKind
  idempotencyKey : Text
  requestedAt : RecordedAt
  version : ℤ := 1
  schemaVersion : SchemaVersion := v2ContractSchema
  sourceRef : Text := "source:v2"
  deriving DecidableEq

namespace RiskReductionRequestFields

def postInit (f : RiskReductionRequestFields) : Py Unit := do
  require (f.requestId.nspace = ("reduction_request" : Text)
      ∧ f.positionId.nspace = ("position_lot" : Text))
    (valueError "reduction request references must use canonical id namespaces")
  require (1 ≤ f.version) (valueError "reduction request version must be positive")
  require (IsCanonicalText f.sourceRef) (valueError "source_ref must be canonical text")
  require (1 ≤ f.expectedPositionVersion)
    (valueError "expected position version must be positive")
  require (Decimal.ofNat 0 ≤ f.targetQuantity) (valueError "target quantity must be non-negative")
  whenSome f.targetStopPrice (fun price =>
    require (Decimal.ofNat 0 < price) (valueError "target stop price must be positive"))
  require (IsCanonicalText f.idempotencyKey)
    (valueError "idempotency key must be canonical text")

instance : Dataclass RiskReductionRequestFields := ⟨postInit⟩

/-- What the checks of a request amount to. -/
theorem postInit_eq_ok {f : RiskReductionRequestFields} :
    f.postInit = .ok () ↔
      (f.requestId.nspace = ("reduction_request" : Text)
        ∧ f.positionId.nspace = ("position_lot" : Text)) ∧ 1 ≤ f.version
        ∧ IsCanonicalText f.sourceRef ∧ 1 ≤ f.expectedPositionVersion
        ∧ Decimal.ofNat 0 ≤ f.targetQuantity
        ∧ (∀ price ∈ f.targetStopPrice, Decimal.ofNat 0 < price)
        ∧ IsCanonicalText f.idempotencyKey := by
  simp only [postInit, check_bind_eq_ok, require_eq_ok, whenSome_eq_ok]

end RiskReductionRequestFields

/-- A proposal to reduce an exposure. -/
abbrev RiskReductionRequest := Frozen RiskReductionRequestFields

end FuturesAgentOs
