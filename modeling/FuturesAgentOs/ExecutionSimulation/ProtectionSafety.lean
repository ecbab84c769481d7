import FuturesAgentOs.ExecutionSimulation.Protection

namespace FuturesAgentOs

open PyModel

/-!
# Protective actions only reduce

A validation says that a request reduces a position lot and does not loosen its stop.  The
registry is handed a request and a validation and never compares the two, so an action is known
to reduce only when the validation was made for the very request (`issued_backed`).
-/

/-- A call of the validator that returned. -/
structure ValidatorCall where
  request : RiskReductionRequest
  lot : PositionLot
  policy : StopPolicy
  positionVersion : ℤ
  now : RecordedAt
  validationId : EntityId
  validation : RiskReductionValidation
  /-- The validation is what `validate` returned. -/
  returned : ProtectionValidator.validate request lot policy positionVersion now validationId
    = .ok validation

/-- The action stays within the lot, and its stop is not looser than the one in force. -/
def IsReduction (lot : PositionLot) (policy : StopPolicy) (action : ProtectiveRiskAction) : Prop :=
  action.fields.positionId = lot.fields.lotId ∧ policy.fields.positionId = lot.fields.lotId
    ∧ action.fields.targetQuantity ≤ lot.fields.quantity
    ∧ ∀ target ∈ action.fields.targetStopPrice,
        ProtectionValidator.IsTighter lot.fields.direction target policy.fields.stopPrice

/-- A validated call of the validator stands behind the action, and the action reduces the lot
that this call was about. -/
def IsBacked (validations : List ValidatorCall) (action : ProtectiveRiskAction) : Prop :=
  ∃ v ∈ validations, v.validation.fields.outcome = .VALIDATED
    ∧ action.fields.validationId = some v.validation.fields.validationId
    ∧ action.fields.requestId = v.request.fields.requestId ∧ IsReduction v.lot v.policy action

namespace ProtectionValidator

theorem verdict_validated {request : RiskReductionRequest} {lot : PositionLot}
    {policy : StopPolicy} {positionVersion : ℤ}
    (h : (verdict request lot policy positionVersion).1 = .VALIDATED) :
    request.fields.positionId = lot.fields.lotId ∧ policy.fields.positionId = lot.fields.lotId
      ∧ request.fields.expectedPositionVersion = positionVersion
      ∧ request.fields.targetQuantity ≤ lot.fields.quantity
      ∧ ∀ target ∈ request.fields.targetStopPrice,
          IsTighter lot.fields.direction target policy.fields.stopPrice := by
  unfold verdict at h
  split_ifs at h with hposition hversion hquantity
  obtain ⟨hrequest, hpolicy⟩ := not_or.mp hposition
  refine ⟨not_not.mp hrequest, not_not.mp hpolicy, not_not.mp hversion,
    Decimal.not_lt.mp hquantity, ?_⟩
  intro target htarget
  rw [Option.mem_def] at htarget
  simp only [htarget] at h
  split_ifs at h with htighter
  exact htighter

end ProtectionValidator

theorem ValidatorCall.isReduction (v : ValidatorCall)
    (h : v.validation.fields.outcome = .VALIDATED) :
    v.request.fields.positionId = v.lot.fields.lotId
      ∧ v.policy.fields.positionId = v.lot.fields.lotId
      ∧ v.request.fields.targetQuantity ≤ v.lot.fields.quantity
      ∧ ∀ target ∈ v.request.fields.targetStopPrice,
          ProtectionValidator.IsTighter v.lot.fields.direction target
            v.policy.fields.stopPrice := by
  have hfields := Frozen.make_eq_ok.mp v.returned
  rw [hfields] at h
  obtain ⟨hrequest, hpolicy, -, hquantity, hstop⟩ := ProtectionValidator.verdict_validated h
  exact ⟨hrequest, hpolicy, hquantity, hstop⟩

namespace ProtectiveActionRegistry

/-- The call presents a validation that was made for its very request.  A call that repeats a key,
and one whose validation is not `VALIDATED`, need not: it issues nothing new. -/
def PresentsOwn (validations : List ValidatorCall) (r : ProtectiveActionRegistry)
    (call : IssueCall) : Prop :=
  r.actions.get? call.key = none → call.validation.fields.outcome = .VALIDATED →
    ∃ v ∈ validations, v.request = call.request ∧ v.validation = call.validation

/-- Every action of the registry is backed. -/
def AllBacked (validations : List ValidatorCall) (r : ProtectiveActionRegistry) : Prop :=
  ∀ key a, r.actions.get? key = some a → IsBacked validations a

theorem allBacked_empty (validations : List ValidatorCall) : empty.AllBacked validations := by
  intro key a h
  cases h

variable [Hashlib] {validations : List ValidatorCall}

variable {call : IssueCall}

theorem isBacked_action {a : ProtectiveRiskAction}
    (h : ProtectionValidator.action call.request call.validation call.now = .ok a)
    (hown : ∃ v ∈ validations, v.request = call.request ∧ v.validation = call.validation) :
    IsBacked validations a := by
  obtain ⟨houtcome, -, hrequest, hposition, hquantity, hstop, hvalidation, -⟩ := action_ok h
  obtain ⟨v, hv, hsame, hsameValidation⟩ := hown
  rw [← hsameValidation] at houtcome hvalidation
  obtain ⟨hlot, hpolicy, hle, htighter⟩ := v.isReduction houtcome
  rw [hsame] at hlot hle htighter
  refine ⟨v, hv, houtcome, hvalidation, hrequest.trans (by rw [hsame]), hposition.trans
    hlot, hpolicy,
    hquantity ▸ hle, ?_⟩
  rw [hstop]
  exact htighter

/-- **Step.** A call that presents its own validation keeps every action backed. -/
theorem allBacked_next {r : ProtectiveActionRegistry}
    (hcall : r.PresentsOwn validations call) (h : r.AllBacked validations) :
    (machine.next r call).AllBacked validations := by
  show (r.issue call).2.AllBacked validations
  rcases r.issue_cases call with ⟨e, hissue⟩ | ⟨existing, -, -, hissue⟩ | ⟨a, hnew, ha, hissue⟩
  · rw [hissue]
    exact h
  · rw [hissue]
    exact h
  · rw [hissue]
    intro key b hb
    rw [Dict.get?_set] at hb
    by_cases hkey : key = call.key
    · rw [if_pos hkey, Option.some.injEq] at hb
      exact hb ▸ isBacked_action ha (hcall hnew (action_ok ha).1)
    · rw [if_neg hkey] at hb
      exact h key b hb

/-- **Every issued action only reduces** when each call presents a validation that was made for
its very request: the action targets no more than the lot it protects and no looser stop. -/
theorem issued_backed (validations : List ValidatorCall) (r : ProtectiveActionRegistry)
    (hr : r.AllBacked validations) (calls : List IssueCall)
    (hcalls : machine.Meets (PresentsOwn validations) r calls) (a : ProtectiveRiskAction)
    (ha : .ok a ∈ machine.outputs r calls) : IsBacked validations a := by
  induction calls generalizing r with
  | nil => cases ha
  | cons call calls ih =>
    have hnext := allBacked_next hcalls.1 hr
    rcases List.mem_cons.mp ha with hanswer | ha
    · exact hnext _ a (get?_of_issue (Prod.ext hanswer.symm rfl))
    · exact ih (machine.next r call) hnext hcalls.2 ha

theorem mem_outputs_of_action (calls : List IssueCall) {a : ProtectiveRiskAction}
    (h : ProtectionValidator.action call.request call.validation call.now = .ok a) :
    .ok a ∈ machine.outputs empty (call :: calls) := by
  have hanswer : (empty.issue call).1 = .ok a := by
    simp only [issue, empty, Dict.get?_empty, h]
  exact List.mem_cons.mpr (Or.inl hanswer.symm)

theorem exists_action {request : RiskReductionRequest} {validation : RiskReductionValidation}
    (now : RecordedAt) (houtcome : validation.fields.outcome = .VALIDATED)
    (hkey : request.fields.idempotencyKey.IsAscii) :
    ∃ a, ProtectionValidator.action request validation now = .ok a := by
  have hseed : (ProtectionValidator.actionSeed request validation).IsAscii := by
    simp only [ProtectionValidator.actionSeed, Text.isAscii_append, Text.isAscii_cons]
    exact ⟨⟨hkey, by decide, EntityId.isAscii_str _⟩, by decide, EntityId.isAscii_str _⟩
  have hspace : EntityIdFields.matchesNamespace "protective_action" = true := by decide
  have hne : ProtectionValidator.actionSeed request validation ≠ [] := by
    simp [ProtectionValidator.actionSeed]
  obtain ⟨actionId, hid⟩ := EntityId.exists_deterministic hspace hne hseed
  rw [ProtectionValidator.action, require_of_pos houtcome, Py.ok_bind, hid, Py.ok_bind]
  apply Frozen.exists_make_iff.mpr
  obtain ⟨⟨hrequest, hposition⟩, -, -, -, hquantity, hstop, -⟩ :=
    RiskReductionRequestFields.postInit_eq_ok.mp request.valid
  obtain ⟨hvalidation, -⟩ := RiskReductionValidationFields.postInit_eq_ok.mp validation.valid
  refine ProtectiveRiskActionFields.postInit_eq_ok.mpr
    ⟨EntityId.nspace_of_deterministic hid, hrequest, hposition, ?_, hquantity, hstop, le_refl 1,
      show IsCanonicalText "source:v2" by decide⟩
  intro id hvalidationId
  obtain rfl := Option.some.inj hvalidationId
  exact hvalidation

end ProtectiveActionRegistry

/-! ### A validation of another request -/

namespace ProtectiveActionRegistry

/-- The time of the sample calls. -/
def protectionNow : RecordedAt := ⟨.of 2026 9 5 (Eq.refl true), 8, 0, 0, 0⟩

/-- A long position of five lots. -/
def protectedLot : PositionLot where
  fields :=
    { lotId := .epoch "position_lot" 1 1 (Eq.refl true)
      accountId := .epoch "simulation_account" 1 1 (Eq.refl true)
      instrument := "SHFE_AG_2601"
      direction := .LONG
      quantity := .ofNat 5
      averagePrice := .ofNat 100
      openedAt := protectionNow }
  valid := by decide

/-- Its stop at 95. -/
def protectedPolicy : StopPolicy where
  fields :=
    { policyId := .epoch "stop_policy" 1 1 (Eq.refl true)
      positionId := .epoch "position_lot" 1 1 (Eq.refl true)
      stopPrice := .ofNat 95
      maxLoss := .ofNat 25
      createdAt := protectionNow }
  valid := by decide

/-- A request to bring the position to a quantity with a stop. -/
def requestFields (n : Fin 0x1000) (key : Text) (quantity stop : ℕ) :
    RiskReductionRequestFields where
  requestId := .epoch "reduction_request" n 1 (Eq.refl true)
  positionId := .epoch "position_lot" 1 1 (Eq.refl true)
  expectedPositionVersion := 1
  targetQuantity := .ofNat quantity
  targetStopPrice := some (.ofNat stop)
  trigger := .INITIAL_STOP
  idempotencyKey := key
  requestedAt := protectionNow

/-- A request to reduce the position to two lots with a stop at 97. -/
def reducingRequest : RiskReductionRequest := ⟨requestFields 1 "reduce" 2 97, by decide⟩

/-- A request to bring the position to nine lots with a stop at 50. -/
def increasingRequest : RiskReductionRequest := ⟨requestFields 2 "increase" 9 50, by decide⟩

/-- The validation of the first request. -/
def reducingValidation : RiskReductionValidation where
  fields :=
    { requestId := reducingRequest.fields.requestId
      outcome := .VALIDATED
      reason := "MONOTONIC_REDUCTION"
      validatedAt := protectionNow
      validationId := .epoch "reduction_validation" 1 1 (Eq.refl true) }
  valid := by decide

/-- The call of the validator that made it. -/
def reducingCall : ValidatorCall where
  request := reducingRequest
  lot := protectedLot
  policy := protectedPolicy
  positionVersion := 1
  now := protectionNow
  validationId := .epoch "reduction_validation" 1 1 (Eq.refl true)
  validation := reducingValidation
  returned := by
    have hverdict : ProtectionValidator.verdict reducingRequest protectedLot protectedPolicy 1
        = (.VALIDATED, ("MONOTONIC_REDUCTION" : Text)) := by decide
    rw [ProtectionValidator.validate, hverdict]
    exact Frozen.make_eq_ok.mpr rfl

/-- The call that issues the first request with its own validation. -/
def reducingIssue : IssueCall := ⟨reducingRequest, reducingValidation, protectionNow⟩

/-- The first request is issued twice. -/
theorem reducing_backed :
    ∃ a, .ok a ∈ machine.outputs empty [reducingIssue, reducingIssue]
      ∧ IsBacked [reducingCall] a := by
  have hkey : reducingRequest.fields.idempotencyKey.IsAscii := by decide
  have houtcome : reducingValidation.fields.outcome = .VALIDATED := rfl
  obtain ⟨a, ha⟩ := exists_action protectionNow houtcome hkey
  have hmem : .ok a ∈ machine.outputs empty [reducingIssue, reducingIssue] :=
    mem_outputs_of_action [reducingIssue] ha
  have hown : ∀ r, PresentsOwn [reducingCall] r reducingIssue :=
    fun r _ _ => ⟨reducingCall, List.mem_singleton_self _, rfl, rfl⟩
  exact ⟨a, hmem, issued_backed [reducingCall] empty (allBacked_empty _)
    [reducingIssue, reducingIssue]
    ⟨hown _, hown _, trivial⟩ a hmem⟩

/-- **A validation of another request is accepted.**  The second request was never validated, and
its action targets nine lots of a position of five, with a stop below the one in force. -/
theorem validation_of_other_request :
    ¬ ∀ (validations : List ValidatorCall) (calls : List IssueCall) (a : ProtectiveRiskAction),
      .ok a ∈ machine.outputs empty calls → IsBacked validations a := by
  intro h
  have hkey : increasingRequest.fields.idempotencyKey.IsAscii := by decide
  have houtcome : reducingValidation.fields.outcome = .VALIDATED := rfl
  obtain ⟨a, ha⟩ := exists_action protectionNow houtcome hkey
  obtain ⟨v, hv, -, -, hrequest, -⟩ := h [reducingCall]
    [⟨increasingRequest, reducingValidation, protectionNow⟩] a (mem_outputs_of_action [] ha)
  obtain rfl := List.mem_singleton.mp hv
  rw [(action_ok ha).2.2.1] at hrequest
  exact absurd hrequest (by decide)

end ProtectiveActionRegistry

end FuturesAgentOs
