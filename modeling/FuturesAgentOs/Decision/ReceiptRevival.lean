import FuturesAgentOs.Decision.BindingArtifacts
import Mathlib.Tactic.Lift

namespace FuturesAgentOs

open PyModel

/-!
# Receipts from before a change

A receipt of an autonomous agent is issued under one version of a mandate and one version of a
binding.  `ReceiptRegistry.consume` compares the binding with the receipt, but the mandate only
for a basis under a mandate.

* `not_revived` — which presentations of an old receipt are refused;
-/

/-- The current versions of a mandate and of its binding. -/
structure AutonomyPair where
  mandate : SimulationAutonomyMandate
  binding : AutonomyModeBinding

/-- A change of the pair. -/
inductive PairChange where
  | compositePause (coordinator : BindingArtifactCoordinator) (now : RecordedAt)
      (actor evidenceRef : Text)
  | compositeResume (now : RecordedAt) (actor : Text) (qualified healthPermits : Bool)
      (runVersionsHash evidenceRef : Text)
  /-- a later version of the mandate, by whichever operation -/
  | mandateVersion (mandate : SimulationAutonomyMandate)
  /-- a later version of the binding, by whichever operation -/
  | bindingVersion (binding : AutonomyModeBinding)

namespace AutonomyPair

/-- One change; a call that raises, and a version that is not a later one, change nothing. -/
def change (p : AutonomyPair) : PairChange → AutonomyPair
  | .compositePause coordinator now actor evidenceRef =>
    match (CompositePause.apply coordinator p.mandate p.binding now actor evidenceRef).1 with
    | .ok result => ⟨result.mandate, result.binding⟩
    | .error _ => p
  | .compositeResume now actor qualified healthPermits runVersionsHash evidenceRef =>
    match CompositeResume.apply p.mandate p.binding now actor qualified healthPermits
        runVersionsHash evidenceRef with
    | .ok result => ⟨result.mandate, result.binding⟩
    | .error _ => p
  | .mandateVersion mandate =>
    if mandate.fields.mandateId = p.mandate.fields.mandateId
        ∧ p.mandate.fields.version < mandate.fields.version then { p with mandate := mandate }
    else p
  | .bindingVersion binding =>
    if binding.fields.bindingId = p.binding.fields.bindingId
        ∧ p.binding.fields.version < binding.fields.version then { p with binding := binding }
    else p

/-- The machine of changes. -/
def machine : Machine AutonomyPair PairChange Unit := ⟨fun p change => ((), p.change change)⟩

/-- The pair was left alone, or moved on to later versions. -/
structure Later (p q : AutonomyPair) : Prop where
  mandate : q.mandate = p.mandate ∨ p.mandate.fields.version < q.mandate.fields.version
  binding : q.binding = p.binding ∨ p.binding.fields.version < q.binding.fields.version

theorem Later.refl (p : AutonomyPair) : p.Later p := ⟨Or.inl rfl, Or.inl rfl⟩

variable {p : AutonomyPair}

theorem Later.trans {q r : AutonomyPair} (h : p.Later q) (h' : q.Later r) : p.Later r where
  mandate := by
    obtain heq | hlt := h'.mandate
    · rw [heq]
      exact h.mandate
    · obtain heq | hlt' := h.mandate
      · rw [heq] at hlt
        exact Or.inr hlt
      · exact Or.inr (lt_trans hlt' hlt)
  binding := by
    obtain heq | hlt := h'.binding
    · rw [heq]
      exact h.binding
    · obtain heq | hlt' := h.binding
      · rw [heq] at hlt
        exact Or.inr hlt
      · exact Or.inr (lt_trans hlt' hlt)

theorem Later.binding_le {q : AutonomyPair} (h : p.Later q) :
    p.binding.fields.version ≤ q.binding.fields.version := by
  obtain heq | hlt := h.binding
  · rw [heq]
  · exact le_of_lt hlt

theorem version_of_pause {coordinator : BindingArtifactCoordinator}
    {now : RecordedAt} {actor evidenceRef : Text} {result : CompositePause}
    (h : (CompositePause.apply coordinator p.mandate p.binding now actor evidenceRef).1
      = .ok result) : p.mandate.fields.version < result.mandate.fields.version
      ∧ p.binding.fields.version < result.binding.fields.version := by
  have hpair := CompositePause.apply_eq_ok (Prod.ext h rfl)
  obtain ⟨-, -, hmandate, hbinding⟩ := CompositePause.pausedPair_eq_ok hpair
  have hm := (SimulationAutonomyMandate.transition_eq_ok hmandate).1.version
  obtain ⟨-, -, -, -, hb⟩ := AutonomyModeBinding.pause_eq_ok hbinding
  omega

theorem change_of_pause {coordinator : BindingArtifactCoordinator}
    {now : RecordedAt} {actor evidenceRef : Text} {result : CompositePause}
    (h : (CompositePause.apply coordinator p.mandate p.binding now actor evidenceRef).1
      = .ok result) : p.change (.compositePause coordinator now actor evidenceRef)
      = ⟨result.mandate, result.binding⟩ := by
  simp only [change, h]

/-- **Step lemma.** -/
theorem later_change (p : AutonomyPair) (change : PairChange) : p.Later (p.change change) := by
  unfold AutonomyPair.change
  split
  · split
    · rename_i result h
      obtain ⟨hm, hb⟩ := version_of_pause h
      exact ⟨Or.inr hm, Or.inr hb⟩
    · exact Later.refl p
  · split
    · rename_i result h
      obtain ⟨-, -, hmandate, hbinding⟩ := CompositeResume.apply_eq_ok h
      have hm := (SimulationAutonomyMandate.transition_eq_ok hmandate).1.version
      obtain ⟨-, -, -, hb⟩ := AutonomyModeBinding.resume_eq_ok hbinding
      exact ⟨Or.inr (by show _ < result.mandate.fields.version; omega),
        Or.inr (by show _ < result.binding.fields.version; omega)⟩
    · exact Later.refl p
  · split
    · rename_i hlater
      exact ⟨Or.inr hlater.2, Or.inl rfl⟩
    · exact Later.refl p
  · split
    · rename_i hlater
      exact ⟨Or.inl rfl, Or.inr hlater.2⟩
    · exact Later.refl p

/-- Every run moves on. -/
theorem later_exec (p : AutonomyPair) (changes : List PairChange) :
    p.Later (machine.exec p changes) :=
  machine.exec_related (P := fun _ _ => True) Later.refl Later.trans
    (fun p change _ => later_change p change)
      (machine.meets_of_forall (fun _ _ => trivial) p changes)

/-! ### Receipts of the pair -/

variable [Hashlib]

/-- The final gate issued the receipt for the basis under the pair. -/
def Issued (p : AutonomyPair) (basis : AuthorizationBasis) (receipt : AutonomyGateReceipt) :
    Prop :=
  ∃ (i : AutonomyGate.FinalGateInput) (registry registry' : ReceiptIssuanceRegistry)
      (reason : Text),
    i.mandate = some p.mandate ∧ i.binding = some p.binding ∧ i.basis = basis
      ∧ registry.issued.get? basis.fields.basisId = none
      ∧ AutonomyGate.finalGate i registry = (.ok (.permit receipt reason), registry')

theorem Issued.fields {basis : AuthorizationBasis}
    {receipt : AutonomyGateReceipt} (h : p.Issued basis receipt)
    (horigin : receipt.fields.executionOrigin = .AUTONOMOUS_AGENT) :
    receipt.fields.modeBindingVersion = some p.binding.fields.version
      ∧ (basis.fields.kind = .MANDATE →
        receipt.fields.sourceVersion = p.mandate.fields.version) := by
  obtain ⟨i, registry, registry', reason, hmandate, hbinding, rfl, hnew, hgate⟩ := h
  obtain ⟨hguards, fingerprint, -, hissue⟩ := AutonomyGate.finalGate_permit hgate
  obtain ⟨-, ⟨hold, -⟩ | ⟨-, hreceipt, -⟩⟩ := ReceiptIssuanceRegistry.issue_eq_some hissue
  · rw [hnew] at hold
    cases hold
  obtain ⟨_, _, _, _, _, -, -, -, -, -, hfields⟩ :=
    AutonomyGate.FinalGateInput.newReceipt_eq_ok hreceipt
  have hrequest : i.request.fields.executionOrigin = .AUTONOMOUS_AGENT := by
    rw [hfields] at horigin
    exact horigin
  constructor
  · rw [hfields]
    show i.modeBinding.map (·.fields.version) = _
    rw [AutonomyGate.FinalGateInput.modeBinding, hrequest, hbinding]
    rfl
  · intro hkind
    have hpassed := AutonomyGate.FinalGateInput.finalGuards_eq_none.mp hguards
    obtain ⟨mandate, hm, -, -, hversion, -⟩ :=
      AutonomyGate.FinalGateInput.mandateSource_eq_none.mp (hpassed.mandateSource hkind)
    rw [hmandate, Option.some.injEq] at hm
    rw [hfields, hm]
    exact hversion

/-- A consumption of the receipt that presents a mandate and a binding. -/
def Presents (c : Consumption) (receipt : AutonomyGateReceipt)
    (mandate : SimulationAutonomyMandate) (binding : AutonomyModeBinding) : Prop :=
  c.receipt = receipt ∧ c.mandate = some mandate ∧ c.binding = some binding

theorem Issued.refused {basis : AuthorizationBasis}
    {receipt : AutonomyGateReceipt} (h : p.Issued basis receipt)
    (horigin : receipt.fields.executionOrigin = .AUTONOMOUS_AGENT) {c : Consumption}
    {mandate : SimulationAutonomyMandate} {binding : AutonomyModeBinding}
    (hpresents : Presents c receipt mandate binding)
    (hlater : p.binding.fields.version < binding.fields.version
      ∨ p.mandate.fields.version < mandate.fields.version
        ∧ basis.fields.kind = .MANDATE ∧ c.basis.fields.kind = .MANDATE)
    (s : ReceiptRegistry) (issuance : ReceiptIssuanceRegistry) :
    (s.consume issuance c).1 ≠ .ok true := by
  intro htrue
  obtain ⟨rfl, hmandate, hbinding⟩ := hpresents
  obtain ⟨hnamed, hversion⟩ := h.fields horigin
  obtain ⟨-, hconditions, -, -⟩ := ReceiptRegistry.consume_true (Prod.ext htrue rfl)
  obtain ⟨mandate', binding', hmandate', hbinding', hnames, hsource⟩ :=
    Consumption.autonomous_of_conditions hconditions horigin
  rw [hmandate, Option.some.injEq] at hmandate'
  rw [hbinding, Option.some.injEq] at hbinding'
  subst hmandate' hbinding'
  obtain hlt | ⟨hlt, hissued, hkind⟩ := hlater
  · rw [hnamed, Option.some.injEq] at hnames
    omega
  · have := hversion hissued
    have := hsource hkind
    omega

/-- **No revival.**  A receipt of an autonomous agent was issued for a basis under a pair, the
mandate and the binding then go through any changes, and it is presented with what became of
them.

* Where a later mandate or a later binding is presented, it is refused, if the binding is a later
  one or the basis is one under a mandate.
* After a composite pause it is refused, whichever mandate is presented and whatever comes after
  the pause. -/
theorem not_revived (p : AutonomyPair) (basis : AuthorizationBasis)
    (receipt : AutonomyGateReceipt) (s : ReceiptRegistry) (issuance : ReceiptIssuanceRegistry)
    (c : Consumption) :
    (∀ mandateChanges bindingChanges,
        let mandate := (machine.exec p mandateChanges).mandate
        let binding := (machine.exec p bindingChanges).binding
        p.Issued basis receipt → receipt.fields.executionOrigin = .AUTONOMOUS_AGENT →
        Presents c receipt mandate binding → mandate ≠ p.mandate ∨ binding ≠ p.binding →
        (binding ≠ p.binding ∨ basis.fields.kind = .MANDATE ∧ c.basis.fields.kind = .MANDATE) →
        (s.consume issuance c).1 ≠ .ok true)
      ∧ ∀ before coordinator now actor evidenceRef after mandate,
        let q := machine.exec p before
        let last := machine.exec p
          (before ++ .compositePause coordinator now actor evidenceRef :: after)
        p.Issued basis receipt → receipt.fields.executionOrigin = .AUTONOMOUS_AGENT →
        (∃ result, (CompositePause.apply coordinator q.mandate q.binding now actor
          evidenceRef).1 = .ok result) →
        Presents c receipt mandate last.binding → (s.consume issuance c).1 ≠ .ok true := by
  constructor
  · intro mandateChanges bindingChanges mandate binding hissued horigin hpresents hchanged hwhen
    have hmandate := (later_exec p mandateChanges).mandate
    have hbinding := (later_exec p bindingChanges).binding
    apply hissued.refused horigin hpresents
    by_cases heq : binding = p.binding
    · right
      have hkinds := hwhen.resolve_left (fun hne => hne heq)
      have hne := hchanged.resolve_right (fun hne => hne heq)
      exact ⟨hmandate.resolve_left hne, hkinds⟩
    · exact Or.inl (hbinding.resolve_left heq)
  · intro before coordinator now actor evidenceRef after mandate q last hissued horigin
    rintro ⟨result, hresult⟩ hpresents
    have hbefore : p.binding.fields.version ≤ q.binding.fields.version :=
      (later_exec p before).binding_le
    obtain ⟨-, hpaused⟩ := version_of_pause hresult
    have hlast : last = machine.exec ⟨result.mandate, result.binding⟩ after := by
      show machine.exec p (before ++ _ :: after) = _
      rw [Machine.exec_append, Machine.exec_cons]
      congr 1
      exact change_of_pause hresult
    have hafter : result.binding.fields.version ≤ last.binding.fields.version := by
      rw [hlast]
      exact (later_exec ⟨result.mandate, result.binding⟩ after).binding_le
    apply hissued.refused horigin hpresents
    left
    omega

end AutonomyPair

/-! ### A receipt that is revived -/

namespace Revival

/-- A time in July 2026. -/
def july (day : ℕ) (h : Date.isDate 2026 7 day = true) (hour : Fin 24) : RecordedAt :=
  ⟨.of 2026 7 day h, hour, 0, 0, 0⟩

/-- The account of everything below. -/
def account : EntityId := .epoch "simulation_account" 0 0 (Eq.refl true)

/-- A mandate for at most one lot, under which the agent may ask for an exception. -/
def mandate : SimulationAutonomyMandate where
  fields :=
    { mandateId := .epoch "simulation_autonomy_mandate" 0 0 (Eq.refl true)
      version := 4
      status := .ACTIVE
      scope :=
        { fields :=
            { simulationAccountId := account
              instruments := ["SHFE:AG"]
              strategies := ["trend"]
              sessions := ["day"]
              actions := {.OPEN}
              quantityCeiling := Decimal.ofNat 1
              riskConstitutionRef := "risk:constitution"
              notificationPolicyRef := "policy:notify"
              escalationPolicyRef := "policy:escalate"
              escalationMode := .REQUEST_ONE_OFF }
          valid := by decide +kernel }
      expiresAt := july 20 (Eq.refl true) 0
      recordedAt := july 13 (Eq.refl true) 0
      recordedBy := "user:trader" }
  valid := by decide +kernel

/-- The mandate while it is suspended. -/
def suspended : SimulationAutonomyMandate where
  fields := { mandate.fields with
    version := 5, status := .SUSPENDED, recordedAt := july 14 (Eq.refl true) 11 }
  valid := by decide +kernel

/-- The mandate after it was activated again. -/
def reactivated : SimulationAutonomyMandate where
  fields := { mandate.fields with version := 6, recordedAt := july 14 (Eq.refl true) 12 }
  valid := by decide +kernel

/-- The human approval of two lots. -/
def granted : PlanApproval where
  fields :=
    { approvalId := .epoch "plan_approval" 0 0 (Eq.refl true)
      version := 2
      status := .GRANTED
      planId := .epoch "trade_plan" 0 0 (Eq.refl true)
      planVersion := 1
      planHash := List.replicate 64 (Text.ofChar 'a')
      accountId := account
      scope :=
        { fields :=
            { simulationAccountId := account
              instruments := ["SHFE:AG"]
              strategies := ["trend"]
              sessions := ["day"]
              actions := {.OPEN}
              quantityCeiling := Decimal.ofNat 2
              validFromAt := july 14 (Eq.refl true) 0
              validUntilAt := july 19 (Eq.refl true) 0 }
          valid := by decide +kernel }
      approvalToken := .epoch "approval_token" 0 0 (Eq.refl true)
      requestedBy := "service:agent"
      expiresAt := july 20 (Eq.refl true) 0
      requestedAt := july 13 (Eq.refl true) 0
      decidedAt := some (july 13 (Eq.refl true) 12)
      decidedBy := some "user:trader" }
  valid := by decide +kernel

/-- The approval after the gate consumed it. -/
def consumed : PlanApproval where
  fields := { granted.fields with
    version := 3
    status := .CONSUMED
    consumerBasisId := some (.epoch "authorization_basis" 0 0 (Eq.refl true))
    consumedAt := some (july 14 (Eq.refl true) 9) }
  valid := by decide +kernel

/-- The request for two lots. -/
def request : GateRequest where
  fields :=
    { planId := granted.fields.planId
      planVersion := 1
      planHash := granted.fields.planHash
      accountId := account
      instrument := "SHFE:AG"
      strategy := "trend"
      session := "day"
      action := .OPEN
      quantity := Decimal.ofNat 2
      executionOrigin := .AUTONOMOUS_AGENT
      snapshotHash := List.replicate 64 (Text.ofChar 'b')
      snapshotExpiresAt := july 20 (Eq.refl true) 0
      runVersionsHash := List.replicate 64 (Text.ofChar 'c') }
  valid := by decide +kernel

/-- A digest. -/
abbrev Hash := {t : Text // t.IsHexDigest}

/-- The binding of the account to version 4 of the mandate, with the digest of its scope. -/
def binding (scope : Hash) : AutonomyModeBinding where
  fields :=
    { bindingId := .epoch "autonomy_mode_binding" 0 0 (Eq.refl true)
      version := 1
      mode := .AUTONOMOUS_SIMULATION
      status := .ACTIVE
      simulationAccountId := some account
      mandateId := some mandate.fields.mandateId
      mandateVersion := some 4
      runVersionsHash := request.fields.runVersionsHash
      expiresAt := july 20 (Eq.refl true) 0
      recordedAt := july 13 (Eq.refl true) 0
      scopeSnapshotHash := scope
      scanPolicyRef := "policy:scan"
      universePolicyRef := "policy:universe"
      qualifiedArtifactRef := some "artifact:qualified"
      transitionReason := "BOUND"
      transitionActor := "user:trader"
      evidenceRef := "evidence:binding" }
  valid := by
    show ModeBindingFields.postInit _ = _
    simp only [ModeBindingFields.postInit, ModeBindingFields.checkExpiry,
      ModeBindingFields.checkMode, check_bind_eq_ok, require_eq_ok, reduceCtorEq, if_false]
    simp only [ModeBindingFields.NamesMandate]
    refine ⟨?_, ?_, ?_, require_of_pos scope.property, ?_, ?_, ?_, ?_, ?_, ?_⟩ <;> decide +kernel

/-- The basis that the approval was consumed for, with the digests of the grant and its scope. -/
def basis (source scope : Hash) : AuthorizationBasis where
  fields :=
    { basisId := .epoch "authorization_basis" 0 0 (Eq.refl true)
      kind := .PLAN_APPROVAL
      planId := request.fields.planId
      planVersion := 1
      planHash := request.fields.planHash
      accountId := account
      instrument := "SHFE:AG"
      strategy := "trend"
      session := "day"
      sourceId := granted.fields.approvalId
      sourceVersion := 2
      sourceHash := source
      createdAt := july 14 (Eq.refl true) 9
      expiresAt := july 19 (Eq.refl true) 0
      scopeSnapshotHash := scope
      authorizedAction := .OPEN
      authorizedQuantity := Decimal.ofNat 2
      approvalToken := some granted.fields.approvalToken
      approvalValidFromAt := some (july 14 (Eq.refl true) 0)
      approvalValidUntilAt := some (july 19 (Eq.refl true) 0)
      issuedBy := "system:autonomy-gate"
      actorAuditRef := "audit://plan-approval-consume" }
  valid := by
    show BasisFields.postInit _ = _
    simp only [BasisFields.postInit, check_bind_eq_ok, require_eq_ok]
    simp only [BasisFields.HasWindow]
    refine ⟨?_, ?_, ?_, ?_, require_of_pos source.property, require_of_pos scope.property, ?_, ?_,
      ?_, ?_, ?_, ?_⟩ <;> decide +kernel

/-- The fields of the reservation of the risk, with the digests of the grant and the basis. -/
def reservationFields (source basisHash : Hash) : ReservationFields where
  reservationId := .epoch "risk_budget_reservation" 0 0 (Eq.refl true)
  accountId := account
  planId := request.fields.planId
  planVersion := 1
  planHash := request.fields.planHash
  instrument := "SHFE:AG"
  strategy := "trend"
  session := "day"
  authorizationBasisId := .epoch "authorization_basis" 0 0 (Eq.refl true)
  authorizationBasisHash := basisHash
  riskConstitutionRef := "risk:constitution"
  riskConstitutionVersion := 1
  riskConstitutionHash := List.replicate 64 (Text.ofChar 'd')
  riskConstitutionCeiling := Decimal.ofNat 100
  worstCaseLoss := Decimal.ofNat 10
  margin := Decimal.ofNat 10
  expiresAt := july 19 (Eq.refl true) 0
  quantity := Decimal.ofNat 2
  sourceKind := .PLAN_APPROVAL
  sourceRef := some granted.fields.approvalId
  sourceHash := some source

theorem reservationFields_valid (source basisHash : Hash) :
    (reservationFields source basisHash).postInit = .ok () := by
  unfold reservationFields
  simp only [ReservationFields.postInit, check_bind_eq_ok, require_eq_ok]
  refine ⟨?_, ?_, ?_, ?_, ⟨?_, basisHash.property, ?_⟩, ?_, ?_, ?_, ?_, ?_, by simp,
    decide_eq_true source.property⟩ <;> decide +kernel

def reservation (source basisHash : Hash) : RiskBudgetReservation :=
  ⟨reservationFields source basisHash, reservationFields_valid source basisHash⟩

/-- The authority of the ledger. -/
def authority : Frozen AuthorityFields where
  fields :=
    { totalCeiling := Decimal.ofNat 100
      constitutionRef := "risk:constitution"
      constitutionVersion := 1
      constitutionHash := List.replicate 64 (Text.ofChar 'd') }
  valid := by decide +kernel

/-- What the final gate is given at a time. -/
def input (source scope approvalScope basisHash : Hash) (now : RecordedAt) :
    AutonomyGate.FinalGateInput where
  request := request
  basis := basis source approvalScope
  mandate := some mandate
  approval := some consumed
  reservation := reservation source basisHash
  binding := some (binding scope)
  qualified := true
  healthPermits := true
  now := now
  riskLedger := (RiskBudgetLedger.new authority).insertRow (reservation source basisHash)

variable [Hashlib]

/-- The final gate lets the input pass until the scope of the approval ends. -/
theorem passed_input {source scope approvalScope basisHash : Hash} {now : RecordedAt}
    (hsource : granted.authorizationHash = .ok source.val)
    (hscope : mandate.fields.scope.digest = .ok scope.val)
    (happrovalScope : granted.fields.scope.scopeHash = .ok approvalScope.val)
    (hbasis : (basis source approvalScope).basisHash = .ok basisHash.val)
    (hfrom : july 14 (Eq.refl true) 9 ≤ now) (huntil : now < july 19 (Eq.refl true) 0) :
    (input source scope approvalScope basisHash now).Passed := by
  have hstart : july 14 (Eq.refl true) 0 ≤ now := Nat.le_trans (by decide) hfrom
  have hlast : now < july 20 (Eq.refl true) 0 := Nat.lt_trans huntil (by decide)
  constructor
  case manualHealth =>
    intro h
    cases h
  case snapshot => exact hlast
  case row =>
    have hrow : (input source scope approvalScope basisHash now).riskLedger.row
        (reservation source basisHash).fields.reservationId
        = some (reservation source basisHash) := Dict.get?_set_self _ _ _
    show (RiskBudgetLedger.row _ (reservation source basisHash).fields.reservationId).any _ = true
    rw [hrow, Option.any_some]
    exact decide_eq_true (.refl _)
  case reservationActive => exact ⟨rfl, huntil⟩
  case basisActive => exact ⟨rfl, hfrom, huntil, Or.inr ⟨⟨_, rfl, hstart⟩, ⟨_, rfl, huntil⟩⟩⟩
  case namesPlan => exact ⟨rfl, rfl, rfl, rfl, rfl, rfl, rfl⟩
  case action => rfl
  case quantity => exact le_refl (Decimal.ofNat 2).val
  case binds => exact ⟨_, hbasis, rfl, rfl, rfl, rfl, rfl, rfl, rfl, rfl, rfl, rfl, rfl⟩
  case sourceKind => rfl
  case sourceRef => rfl
  case sourceHash => rfl
  case manualKind =>
    intro h
    cases h
  case mandateSource =>
    intro h
    cases h
  case approvalSource =>
    intro _
    have hgranted : consumed.grantedAuthorizationHash = .ok source.val := by
      rw [PlanApproval.grantedAuthorizationHash_of_consumed granted rfl rfl, hsource]
    have hpermits : granted.fields.scope.PermitsRequest request now := by
      refine ⟨?_, ?_, ?_, ?_, ?_, ?_, ?_, hstart, huntil⟩ <;> decide +kernel
    exact AutonomyGate.FinalGateInput.approvalSource_eq_none.mpr ⟨consumed, rfl, rfl, rfl, rfl, rfl,
      rfl, rfl, rfl, hgranted, happrovalScope, rfl, rfl, rfl, hpermits⟩
  case autonomous =>
    intro _
    have hactive : mandate.IsActiveAt now :=
      if_neg (fun h => RecordedAt.not_le_of_lt hlast h.2)
    refine ⟨mandate, binding scope, rfl, rfl, hactive, ⟨rfl, hlast⟩, rfl, rfl, rfl, rfl, rfl, rfl,
      rfl, rfl, hscope, ?_⟩
    intro h
    cases h

/-- The binding and mandate of the issuance. -/
def pair (scope : Hash) : AutonomyPair := ⟨mandate, binding scope⟩

/-- The suspension and the reactivation. -/
def changes : List PairChange := [.mandateVersion suspended, .mandateVersion reactivated]

/-! The two changes are transitions of the mandate. -/

example : mandate.transition .SUSPENDED (july 14 (Eq.refl true) 11) false none = .ok suspended
    ∧ suspended.transition .ACTIVE (july 14 (Eq.refl true) 12) true none = .ok reactivated := by
  decide +kernel

/-- The registry that issues the receipt. -/
def issuance : ReceiptIssuanceRegistry :=
  .new (.epoch "receipt_issuance_registry" 0 0 (Eq.refl true))

/-- The consumption after the reactivation. -/
def consumption (source scope approvalScope basisHash : Hash) (receipt : AutonomyGateReceipt) :
    Consumption where
  receipt := receipt
  now := july 14 (Eq.refl true) 13
  request := request
  basis := basis source approvalScope
  mandate := some reactivated
  approval := some consumed
  reservation := reservation source basisHash
  binding := some (binding scope)
  qualified := true
  healthPermits := true

theorem revived : ∃ (scope : Hash) (basis : AuthorizationBasis) (receipt : AutonomyGateReceipt)
    (c : Consumption) (issuance : ReceiptIssuanceRegistry),
    (pair scope).Issued basis receipt ∧ receipt.fields.executionOrigin = .AUTONOMOUS_AGENT
      ∧ AutonomyPair.Presents c receipt reactivated (binding scope)
      ∧ (ReceiptRegistry.new.consume issuance c).1 = .ok true := by
  obtain ⟨scope, hscope, hscopeDigest⟩ := mandate.fields.scope.exists_digest
  obtain ⟨approvalScope, happrovalScope, happrovalDigest⟩ := granted.fields.scope.exists_scopeHash
  obtain ⟨source, hsource, hsourceDigest⟩ :=
    granted.exists_authorizationHash (by decide) (by decide) (by decide)
  lift scope to Hash using hscopeDigest
  lift approvalScope to Hash using happrovalDigest
  lift source to Hash using hsourceDigest
  obtain ⟨basisHash, hbasis, hbasisDigest⟩ := (basis source approvalScope).exists_basisHash
    (show FitsStr 1 by decide) (show FitsStr 2 by decide)
    (show v2AuthorizationSchema.FitsStr by decide)
  lift basisHash to Hash using hbasisDigest
  obtain ⟨modeHash, hmode, hmodeDigest⟩ := (binding scope).exists_bindingHash
    (show FitsStr 1 by decide) (by rintro _ ⟨⟩; decide)
    (show v2AuthorizationSchema.FitsStr by decide)
  obtain ⟨reservationHash, hreservation, hreservationDigest⟩ :=
    (reservation source basisHash).exists_reservationHash (show FitsStr 1 by decide)
      (show FitsStr 1 by decide) (show FitsStr 1 by decide) (show FitsStr 1 by decide)
  let i := input source scope approvalScope basisHash (july 14 (Eq.refl true) 10)
  have hpassed : i.Passed :=
    passed_input hsource hscope happrovalScope hbasis (by decide) (by decide)
  obtain ⟨fingerprint, hfingerprint, hdigest⟩ :=
    AutonomyGate.FinalGateInput.exists_fingerprint (i := i) rfl rfl hmode hbasis hreservation
  have hexpiry : i.expiry = july 19 (Eq.refl true) 0 := by
    show PlanApproval.earlier (PlanApproval.earlier (PlanApproval.earlier (july 19 (Eq.refl true) 0)
      (july 19 (Eq.refl true) 0)) (july 20 (Eq.refl true) 0)) (july 20 (Eq.refl true) 0) = _
    decide
  obtain ⟨receipt, hreceipt⟩ := AutonomyGate.FinalGateInput.exists_newReceipt (i := i)
    issuance.registryId rfl rfl hmode hmodeDigest hbasis basisHash.property hreservation
    hreservationDigest hdigest (by rw [hexpiry]; show july 14 _ 10 < july 19 _ 0; decide)
  have hgate := AutonomyGate.finalGate_of_guards issuance
    (AutonomyGate.FinalGateInput.finalGuards_eq_none.mpr hpassed) hfingerprint hdigest hreceipt
    (Finset.notMem_empty _) rfl
  obtain ⟨_, _, _, _, _, -, -, -, -, -, hfields⟩ :=
    AutonomyGate.FinalGateInput.newReceipt_eq_ok hreceipt
  let after : ReceiptIssuanceRegistry := { issuance with
    issued := issuance.issued.set i.basis.fields.basisId (fingerprint, receipt) }
  let c := consumption source scope approvalScope basisHash receipt
  have hlater : (input source scope approvalScope basisHash (july 14 (Eq.refl true) 13)).Passed :=
    passed_input hsource hscope happrovalScope hbasis (by decide) (by decide)
  have hactive : reactivated.IsActiveAt (july 14 (Eq.refl true) 13) := by decide +kernel
  have hconditions : ∀ condition ∈ c.conditions, condition = .ok true :=
    Consumption.conditions_of_passed hlater rfl rfl hreceipt
      ⟨rfl, rfl, rfl, rfl, rfl, rfl, rfl, rfl, rfl⟩ hactive rfl (fun h => by cases h)
  have hexpires : receipt.fields.expiresAt = july 19 (Eq.refl true) 0 := by
    rw [hfields, hexpiry]
  have hbefore : c.now < receipt.fields.expiresAt := by
    rw [hexpires]
    show july 14 _ 13 < july 19 _ 0
    decide
  have hcontains : after.contains receipt := by
    have hbasisId : receipt.fields.basisId = i.basis.fields.basisId := by
      rw [hfields]
    refine ⟨⟨?_, ?_⟩, Finset.notMem_empty _⟩
    · rw [hfields]
    · show ((issuance.issued.set i.basis.fields.basisId _).get? receipt.fields.basisId).any _ = true
      rw [hbasisId, Dict.get?_set_self, Option.any_some]
      exact decide_eq_true (.refl receipt)
  have hsnapshot : c.now < c.request.fields.snapshotExpiresAt := by
    show july 14 _ 13 < july 20 _ 0
    decide
  have hfresh : ReceiptRegistry.new.Fresh after c :=
    ⟨Finset.notMem_empty _, Finset.notMem_empty _, hbefore, hsnapshot, hcontains⟩
  have htrue := ReceiptRegistry.consume_of_conditions hfresh hconditions (Finset.notMem_empty _)
  have horigin : receipt.fields.executionOrigin = .AUTONOMOUS_AGENT := by
    rw [hfields]
    rfl
  exact ⟨scope, basis source approvalScope, receipt, c, after,
    ⟨i, issuance, after, "PERMITTED", rfl, rfl, rfl, rfl, hgate⟩, horigin, ⟨rfl, rfl, rfl⟩,
    congrArg Prod.fst htrue⟩

end Revival

/-- **A revival.**  Under an approval the receipt outlives a suspension and a reactivation of the
mandate, when the binding is left as it was. -/
theorem AutonomyPair.receipt_revived : ¬ ∀ (p : AutonomyPair) (basis : AuthorizationBasis)
    (receipt : AutonomyGateReceipt) (s : ReceiptRegistry) (issuance : ReceiptIssuanceRegistry)
    (c : Consumption) (mandateChanges bindingChanges : List PairChange),
    let mandate := (AutonomyPair.machine.exec p mandateChanges).mandate
    let binding := (AutonomyPair.machine.exec p bindingChanges).binding
    p.Issued basis receipt → receipt.fields.executionOrigin = .AUTONOMOUS_AGENT →
    AutonomyPair.Presents c receipt mandate binding →
    mandate ≠ p.mandate ∨ binding ≠ p.binding → (s.consume issuance c).1 ≠ .ok true := by
  intro h
  obtain ⟨scope, basis, receipt, c, issuance, hissued, horigin, hpresents, htrue⟩ :=
    Revival.revived
  have hmandate : (AutonomyPair.machine.exec (Revival.pair scope) Revival.changes).mandate
      = Revival.reactivated := rfl
  refine h (Revival.pair scope) basis receipt .new issuance c Revival.changes [] hissued horigin ?_
    (Or.inl ?_) htrue
  · rw [hmandate]
    exact hpresents
  · rw [hmandate]
    show Revival.reactivated ≠ Revival.mandate
    decide

end FuturesAgentOs
