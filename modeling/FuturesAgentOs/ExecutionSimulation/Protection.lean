import FuturesAgentOs.Decision.RiskDecision
import FuturesAgentOs.PyModel.Machine

namespace FuturesAgentOs

open PyModel

/-!
# Protective actions

`execution_simulation/protection.py`: a reduction request is validated against its position lot
and the stop in force, and a validated request is turned into a protective action, once for each
idempotency key.  A validation and the action are made by two calls that are handed separate
objects.
-/

inductive ValidationOutcome where
  | VALIDATED
  | REJECTED
  | STALE
  deriving DecidableEq

structure RiskReductionValidationFields where
  requestId : EntityId
  outcome : ValidationOutcome
  reason : Text
  validatedAt : RecordedAt
  validationId : EntityId
  version : ℤ := 1
  schemaVersion : SchemaVersion := v2ContractSchema
  sourceRef : Text := "source:v2"
  deriving DecidableEq

namespace RiskReductionValidationFields

def postInit (f : RiskReductionValidationFields) : Py Unit := do
  require (f.validationId.nspace = ("reduction_validation" : Text))
    (valueError "validation requires a reduction_validation id")
  require (f.requestId.nspace = ("reduction_request" : Text))
    (valueError "validation must reference a reduction request")
  require (IsCanonicalText f.reason) (valueError "validation reason must be canonical text")
  require (1 ≤ f.version) (valueError "validation version must be positive")
  require (IsCanonicalText f.sourceRef) (valueError "source_ref must be canonical text")

instance : Dataclass RiskReductionValidationFields := ⟨postInit⟩

/-- What the checks of a validation amount to. -/
theorem postInit_eq_ok {f : RiskReductionValidationFields} :
    f.postInit = .ok () ↔
      f.validationId.nspace = ("reduction_validation" : Text)
        ∧ f.requestId.nspace = ("reduction_request" : Text) ∧ IsCanonicalText f.reason
        ∧ 1 ≤ f.version ∧ IsCanonicalText f.sourceRef := by
  simp only [postInit, check_bind_eq_ok, require_eq_ok]

end RiskReductionValidationFields

/-- What the validator says about a request. -/
abbrev RiskReductionValidation := Frozen RiskReductionValidationFields

structure ProtectiveRiskActionFields where
  actionId : EntityId
  requestId : EntityId
  positionId : EntityId
  targetQuantity : Decimal
  targetStopPrice : Option Decimal
  createdAt : RecordedAt
  validationId : Option EntityId := none
  version : ℤ := 1
  schemaVersion : SchemaVersion := v2ContractSchema
  sourceRef : Text := "source:v2"
  deriving DecidableEq

namespace ProtectiveRiskActionFields

def postInit (f : ProtectiveRiskActionFields) : Py Unit := do
  require (f.actionId.nspace = ("protective_action" : Text))
    (valueError "protective action requires a protective_action id")
  require (f.requestId.nspace = ("reduction_request" : Text))
    (valueError "protective action must reference a reduction request")
  require (f.positionId.nspace = ("position_lot" : Text))
    (valueError "protective action must reference a position lot")
  whenSome f.validationId (fun id => require (id.nspace = ("reduction_validation" : Text))
    (valueError "protective action validation must use a reduction_validation id"))
  require (Decimal.ofNat 0 ≤ f.targetQuantity)
    (valueError "protective action quantity must be finite and non-negative")
  whenSome f.targetStopPrice (fun price => require (Decimal.ofNat 0 < price)
    (valueError "protective action stop must be positive"))
  require (1 ≤ f.version) (valueError "protective action version must be positive")
  require (IsCanonicalText f.sourceRef) (valueError "source_ref must be canonical text")

instance : Dataclass ProtectiveRiskActionFields := ⟨postInit⟩

/-- What the checks of an action amount to. -/
theorem postInit_eq_ok {f : ProtectiveRiskActionFields} :
    f.postInit = .ok () ↔
      f.actionId.nspace = ("protective_action" : Text)
        ∧ f.requestId.nspace = ("reduction_request" : Text)
        ∧ f.positionId.nspace = ("position_lot" : Text)
        ∧ (∀ id ∈ f.validationId, id.nspace = ("reduction_validation" : Text))
        ∧ Decimal.ofNat 0 ≤ f.targetQuantity
        ∧ (∀ price ∈ f.targetStopPrice, Decimal.ofNat 0 < price) ∧ 1 ≤ f.version
        ∧ IsCanonicalText f.sourceRef := by
  simp only [postInit, check_bind_eq_ok, require_eq_ok, whenSome_eq_ok]

end ProtectiveRiskActionFields

/-- A reduction that is to be carried out. -/
abbrev ProtectiveRiskAction := Frozen ProtectiveRiskActionFields

/-! ### The validator -/

namespace ProtectionValidator

/-- The stop is not looser than the one in force. -/
def IsTighter (direction : TradeDirection) (target current : Decimal) : Prop :=
  match direction with
  | .LONG => current ≤ target
  | .SHORT => target ≤ current

instance (direction : TradeDirection) (target current : Decimal) :
    Decidable (IsTighter direction target current) :=
  match direction with
  | .LONG => inferInstanceAs (Decidable (current ≤ target))
  | .SHORT => inferInstanceAs (Decidable (target ≤ current))

/-- The outcome and the reason of `ProtectionValidator.validate`. -/
def verdict (request : RiskReductionRequest) (lot : PositionLot) (policy : StopPolicy)
    (positionVersion : ℤ) : ValidationOutcome × Text :=
  if request.fields.positionId ≠ lot.fields.lotId ∨ policy.fields.positionId ≠ lot.fields.lotId then
    (.REJECTED, "POSITION_MISMATCH")
  else if request.fields.expectedPositionVersion ≠ positionVersion then
    (.STALE, "POSITION_VERSION_STALE")
  else if lot.fields.quantity < request.fields.targetQuantity then
    (.REJECTED, "EXPOSURE_INCREASE")
  else
    match request.fields.targetStopPrice with
    | some target =>
      if IsTighter lot.fields.direction target policy.fields.stopPrice then
        (.VALIDATED, "MONOTONIC_REDUCTION")
      else (.REJECTED, "PROTECTION_RELAXATION")
    | none => (.VALIDATED, "MONOTONIC_REDUCTION")

/-- `ProtectionValidator.validate`; `validationId` is the identifier that the validation gets. -/
def validate (request : RiskReductionRequest) (lot : PositionLot) (policy : StopPolicy)
    (positionVersion : ℤ) (now : RecordedAt) (validationId : EntityId) :
    Py RiskReductionValidation :=
  let (outcome, reason) := verdict request lot policy positionVersion
  Frozen.make
    { requestId := request.fields.requestId, outcome, reason, validatedAt := now, validationId }

variable [Hashlib]

/-- The seed of the identifier of an action. -/
def actionSeed (request : RiskReductionRequest) (validation : RiskReductionValidation) : Text :=
  request.fields.idempotencyKey ++ Text.ofChar ':' :: request.fields.requestId.str
    ++ Text.ofChar ':' :: validation.fields.validationId.str

def action (request : RiskReductionRequest) (validation : RiskReductionValidation)
    (now : RecordedAt) : Py ProtectiveRiskAction := do
  require (validation.fields.outcome = .VALIDATED)
    (valueError "only validated requests create protective actions")
  let actionId ← EntityId.deterministic "protective_action" (actionSeed request validation)
  Frozen.make
    { actionId
      requestId := request.fields.requestId
      positionId := request.fields.positionId
      targetQuantity := request.fields.targetQuantity
      targetStopPrice := request.fields.targetStopPrice
      createdAt := now
      validationId := some validation.fields.validationId }

end ProtectionValidator

/-! ### The registry -/

/-- A `ProtectiveActionRegistry`, by `_actions`. -/
structure ProtectiveActionRegistry where
  actions : Dict Text ProtectiveRiskAction
  deriving DecidableEq

/-- The arguments of a call of `issue`. -/
structure IssueCall where
  request : RiskReductionRequest
  validation : RiskReductionValidation
  now : RecordedAt

/-- `request.idempotency_key` -/
def IssueCall.key (call : IssueCall) : Text := call.request.fields.idempotencyKey

namespace ProtectiveActionRegistry

/-- `ProtectiveActionRegistry()` -/
def empty : ProtectiveActionRegistry := ⟨Dict.empty⟩

/-- The action that was issued before is for a request like this one. -/
def Agrees (existing : ProtectiveRiskAction) (request : RiskReductionRequest) : Prop :=
  existing.fields.requestId = request.fields.requestId
    ∧ existing.fields.positionId = request.fields.positionId
    ∧ existing.fields.targetQuantity.numEq request.fields.targetQuantity
    ∧ SamePrice existing.fields.targetStopPrice request.fields.targetStopPrice

instance (existing : ProtectiveRiskAction) (request : RiskReductionRequest) :
    Decidable (Agrees existing request) := inferInstanceAs (Decidable (_ ∧ _))

def snapshot (r : ProtectiveActionRegistry) : List (Text × ProtectiveRiskAction) := r.actions.items

def restore (snapshot : List (Text × ProtectiveRiskAction)) : Py ProtectiveActionRegistry := do
  let actions ← snapshot.foldlM (fun actions item =>
    if (actions.get? item.1).isSome = true then
      .error (valueError "duplicate protective action snapshot key")
    else .ok (actions.set item.1 item.2)) Dict.empty
  .ok ⟨actions⟩

variable [Hashlib]

def issue (r : ProtectiveActionRegistry) (call : IssueCall) :
    Py ProtectiveRiskAction × ProtectiveActionRegistry :=
  match r.actions.get? call.key with
  | some existing =>
    if Agrees existing call.request then (.ok existing, r)
    else (.error (valueError "protective action idempotency key conflict"), r)
  | none =>
    match ProtectionValidator.action call.request call.validation call.now with
    | .ok action => (.ok action, ⟨r.actions.set call.key action⟩)
    | .error e => (.error e, r)

/-- The registry as a machine that takes calls of `issue`. -/
def machine : Machine ProtectiveActionRegistry IssueCall (Py ProtectiveRiskAction) := ⟨issue⟩

/-! ### What a call does -/

variable {a : ProtectiveRiskAction}

/-- What `action` returns. -/
theorem action_ok {request : RiskReductionRequest} {validation : RiskReductionValidation}
    {now : RecordedAt} (h : ProtectionValidator.action request validation now = .ok a) :
    validation.fields.outcome = .VALIDATED
      ∧ (ProtectionValidator.actionSeed request validation).encodeUtf8.isSome = true
      ∧ a.fields.requestId = request.fields.requestId
      ∧ a.fields.positionId = request.fields.positionId
      ∧ a.fields.targetQuantity = request.fields.targetQuantity
      ∧ a.fields.targetStopPrice = request.fields.targetStopPrice
      ∧ a.fields.validationId = some validation.fields.validationId
      ∧ a.fields.version = 1 ∧ a.fields.schemaVersion = v2ContractSchema
      ∧ a.fields.sourceRef = ("source:v2" : Text) := by
  obtain ⟨houtcome, h⟩ := of_require h
  obtain ⟨actionId, hid, h⟩ := Py.of_bind h
  rw [Frozen.make_eq_ok] at h
  rw [h]
  refine ⟨houtcome, ?_, rfl, rfl, rfl, rfl, rfl, rfl, rfl, rfl⟩
  obtain ⟨-, hid⟩ := of_require hid
  split at hid
  · cases hid
  · rename_i bytes hbytes
    rw [hbytes]
    rfl

/-- **The three outcomes of a call**: it raises and changes nothing, it returns an action that was
issued under its key before, or it issues a new action under a new key. -/
theorem issue_cases (r : ProtectiveActionRegistry) (call : IssueCall) :
    (∃ e, r.issue call = (.error e, r))
      ∨ (∃ existing, r.actions.get? call.key = some existing ∧ Agrees existing call.request
          ∧ r.issue call = (.ok existing, r))
      ∨ (∃ a, r.actions.get? call.key = none
          ∧ ProtectionValidator.action call.request call.validation call.now = .ok a
          ∧ r.issue call = (.ok a, ⟨r.actions.set call.key a⟩)) := by
  rcases hget : r.actions.get? call.key with _ | existing
  · rcases haction : ProtectionValidator.action call.request call.validation call.now with e | a
    · exact Or.inl ⟨e, by simp only [issue, hget, haction]⟩
    · exact Or.inr (Or.inr ⟨a, rfl, rfl, by simp only [issue, hget, haction]⟩)
  · by_cases hagrees : Agrees existing call.request
    · exact Or.inr (Or.inl ⟨existing, rfl, hagrees, by simp only [issue, hget, if_pos hagrees]⟩)
    · exact Or.inl ⟨valueError "protective action idempotency key conflict",
        by simp only [issue, hget, if_neg hagrees]⟩

theorem get?_of_issue {r after : ProtectiveActionRegistry} {call : IssueCall} (h : r.issue call = (.ok a, after)) :
    after.actions.get? call.key = some a := by
  rcases r.issue_cases call with ⟨e, hcall⟩ | ⟨existing, hget, -, hcall⟩ | ⟨new, hget, -, hcall⟩
  · rw [hcall] at h
    cases h
  · rw [hcall] at h
    cases h
    exact hget
  · rw [hcall] at h
    cases h
    exact Dict.get?_set_self _ _ _

theorem get?_of_issue_of_get? {r : ProtectiveActionRegistry} (call : IssueCall) {key : Text} (h : r.actions.get? key = some a) :
    (r.issue call).2.actions.get? key = some a := by
  rcases r.issue_cases call with ⟨e, hcall⟩ | ⟨existing, -, -, hcall⟩ | ⟨new, hget, -, hcall⟩
  · rw [hcall]
    exact h
  · rw [hcall]
    exact h
  · rw [hcall]
    have hne : key ≠ call.key := by
      rintro rfl
      rw [hget] at h
      cases h
    exact (Dict.get?_set_of_ne _ _ hne).trans h

end ProtectiveActionRegistry

end FuturesAgentOs
