import FuturesAgentOs.Decision.ReceiptRegistry

namespace FuturesAgentOs

open PyModel

/-!
# The end of a binding

`decision/autonomy_contracts.py`, `BindingArtifactCoordinator`, `CompositePause`,
`CompositeResume` and `OperationalModePause`.  The coordinator invalidates what was authorized
under a binding when the binding ends.  It holds the issuance registry and the risk ledger, and a
method returns its answer and the coordinator it leaves behind.
-/

namespace AuthorizationBasis

/-- `replace(basis, status=BasisStatus.STALE)` -/
def stale (b : AuthorizationBasis) : AuthorizationBasis :=
  ⟨{ b.fields with status := .STALE }, b.valid⟩

/-- `stale` is what `dataclasses.replace` returns. -/
theorem replace_eq_stale (b : AuthorizationBasis) :
    b.replace (fun f => { f with status := .STALE }) = .ok b.stale := by
  rw [Frozen.replace_eq_ok]
  rfl

end AuthorizationBasis

/-- What the coordinator tracks under the identifier of a basis. -/
structure TrackedArtifact where
  binding : AutonomyModeBinding
  basis : AuthorizationBasis
  reservationId : EntityId
  deriving DecidableEq

/-- What the end of a binding invalidated. -/
structure BindingArtifactInvalidation where
  binding : AutonomyModeBinding
  staleBases : List AuthorizationBasis := []
  invalidatedReceipts : List AutonomyGateReceipt := []
  releasedReservations : List RiskBudgetReservation := []
  deriving DecidableEq

structure BindingArtifactCoordinator where
  /-- `_issuance_registry` -/
  issuanceRegistry : ReceiptIssuanceRegistry
  /-- `_risk_ledger` -/
  riskLedger : RiskBudgetLedger
  /-- `_tracked` -/
  tracked : Dict EntityId TrackedArtifact
  /-- `_basis_states` -/
  basisStates : Dict EntityId AuthorizationBasis
  deriving DecidableEq

namespace BindingArtifactCoordinator

/-- `BindingArtifactCoordinator(…)` -/
def new (issuanceRegistry : ReceiptIssuanceRegistry) (riskLedger : RiskBudgetLedger) :
    BindingArtifactCoordinator := ⟨issuanceRegistry, riskLedger, .empty, .empty⟩

def track (s : BindingArtifactCoordinator) (binding : AutonomyModeBinding)
    (basis : AuthorizationBasis) (reservationId : EntityId) : BindingArtifactCoordinator :=
  { s with
    tracked := s.tracked.set basis.fields.basisId ⟨binding, basis, reservationId⟩
    basisStates := s.basisStates.set basis.fields.basisId basis }

/-- The basis of a tracked artifact that turns stale. -/
def staleBasis (artifact : TrackedArtifact) : Option AuthorizationBasis :=
  if artifact.basis.fields.status = .ACTIVE then some artifact.basis.stale else none

/-- The loop keeps the new state of a basis that turned stale. -/
def markStale (s : BindingArtifactCoordinator) (basisId : EntityId) (artifact : TrackedArtifact) :
    BindingArtifactCoordinator :=
  match staleBasis artifact with
  | some basis => { s with basisStates := s.basisStates.set basisId basis }
  | none => s

/-- A reservation that the loop released: it was `HELD`, and now is `RELEASED`. -/
def released (prior result : Option RiskBudgetReservation) : Option RiskBudgetReservation :=
  match prior, result with
  | some prior, some result =>
    if prior.fields.status = .HELD ∧ result.fields.status = .RELEASED then some result else none
  | _, _ => none

/-- One round of the loop of `_end`. -/
def endBasis (acc : BindingArtifactInvalidation × BindingArtifactCoordinator)
    (item : EntityId × TrackedArtifact) :
    BindingArtifactInvalidation × BindingArtifactCoordinator :=
  let (found, s) := acc
  let (basisId, artifact) := item
  if artifact.binding.fields.bindingId ≠ found.binding.fields.bindingId then (found, s)
  else
    let (receipt, issuanceRegistry) := s.issuanceRegistry.invalidateBasis basisId
    let s := markStale { s with issuanceRegistry := issuanceRegistry } basisId artifact
    let prior := s.riskLedger.row artifact.reservationId
    let (result, riskLedger) := s.riskLedger.release artifact.reservationId
    ({ found with
        staleBases := found.staleBases ++ (staleBasis artifact).toList
        invalidatedReceipts := found.invalidatedReceipts ++ receipt.toList
        releasedReservations := found.releasedReservations ++ (released prior result).toList },
      { s with riskLedger := riskLedger, tracked := s.tracked.erase basisId })

/-- `_end` -/
def endBinding (s : BindingArtifactCoordinator) (ended : AutonomyModeBinding) :
    BindingArtifactInvalidation × BindingArtifactCoordinator :=
  s.tracked.items.foldl endBasis ({ binding := ended }, s)

def pause (s : BindingArtifactCoordinator) (binding : AutonomyModeBinding) :
    Py BindingArtifactInvalidation × BindingArtifactCoordinator :=
  if binding.fields.mode ≠ .PAUSED then
    (.error (valueError "artifact pause requires a paused binding"), s)
  else (.ok (s.endBinding binding).1, (s.endBinding binding).2)

end BindingArtifactCoordinator

/-! ### Pausing and resuming mandate and binding together -/

/-- A mandate and its binding after a human pause. -/
structure CompositePause where
  mandate : SimulationAutonomyMandate
  binding : AutonomyModeBinding
  staleBases : List AuthorizationBasis
  invalidatedReceipts : List AutonomyGateReceipt
  releasedReservations : List RiskBudgetReservation

namespace CompositePause

/-- What `apply` does before it calls the coordinator: the suspended mandate and the paused
binding. -/
def pausedPair (mandate : SimulationAutonomyMandate) (binding : AutonomyModeBinding)
    (now : RecordedAt) (actor evidenceRef : Text) :
    Py (SimulationAutonomyMandate × AutonomyModeBinding) := do
  require (mandate.statusAt now = .ACTIVE ∧ binding.fields.mode = .AUTONOMOUS_SIMULATION)
    (valueError "composite pause requires active autonomous mandate and binding")
  require (binding.fields.simulationAccountId
        = some mandate.fields.scope.fields.simulationAccountId
      ∧ binding.fields.mandateId = some mandate.fields.mandateId
      ∧ binding.fields.mandateVersion = some mandate.fields.version)
    (valueError "composite pause requires a matching mandate and binding account")
  checkActor actor
  require (IsHuman actor) ⟨.permissionError, "composite pause requires a human actor"⟩
  require (evidenceRef ≠ [])
    (valueError "composite pause requires a human audit actor and evidence")
  let suspended ← mandate.transition .SUSPENDED now true (some "USER_PAUSE")
  let paused ← binding.pause now "USER_PAUSE" actor evidenceRef (some suspended.fields.version)
  .ok (suspended, paused)

def apply (coordinator : BindingArtifactCoordinator) (mandate : SimulationAutonomyMandate)
    (binding : AutonomyModeBinding) (now : RecordedAt) (actor evidenceRef : Text) :
    Py CompositePause × BindingArtifactCoordinator :=
  match pausedPair mandate binding now actor evidenceRef with
  | .error e => (.error e, coordinator)
  | .ok (suspended, paused) =>
    match coordinator.pause paused with
    | (.error e, coordinator) => (.error e, coordinator)
    | (.ok invalidation, coordinator) =>
      (.ok ⟨suspended, paused, invalidation.staleBases, invalidation.invalidatedReceipts,
        invalidation.releasedReservations⟩, coordinator)

end CompositePause

/-- A mandate and its binding after a human resumption. -/
structure CompositeResume where
  mandate : SimulationAutonomyMandate
  binding : AutonomyModeBinding
  deriving DecidableEq

namespace CompositeResume

/-- `_actor`, its `ValueError` turned into a `PermissionError`. -/
def checkHumanActor (actor : Text) : Py Unit :=
  let refused : PyException := ⟨.permissionError, "composite resume requires a human actor"⟩
  match checkActor actor with
  | .error _ => .error refused
  | .ok () => require (IsHuman actor) refused

def apply (mandate : SimulationAutonomyMandate) (binding : AutonomyModeBinding)
    (now : RecordedAt) (actor : Text) (qualified healthPermits : Bool)
    (runVersionsHash evidenceRef : Text) : Py CompositeResume := do
  checkHumanActor actor
  require (mandate.statusAt now = .SUSPENDED)
    (valueError "only a non-expired suspended mandate may resume")
  require (binding.fields.mode = .PAUSED
      ∧ binding.fields.previousMode = some .AUTONOMOUS_SIMULATION)
    (valueError "composite resume requires a paused autonomous binding")
  require (binding.fields.mandateId = some mandate.fields.mandateId
      ∧ binding.fields.mandateVersion = some mandate.fields.version)
    (valueError "paused binding does not match current suspended mandate version")
  let reactivated ← mandate.transition .ACTIVE now true (some "USER_RESUME")
  let resumed ← binding.resume now true actor qualified healthPermits (some reactivated)
    runVersionsHash evidenceRef
  .ok ⟨reactivated, resumed⟩

end CompositeResume

namespace OperationalModePause

end OperationalModePause

/-! ### What the operations return -/

section

open SimulationAutonomyMandate

variable {mandate : SimulationAutonomyMandate} {binding : AutonomyModeBinding}
  {now : RecordedAt} {actor evidenceRef : Text}

/-- **What a composite pause checks and returns.** -/
theorem CompositePause.pausedPair_eq_ok {suspended : SimulationAutonomyMandate}
    {paused : AutonomyModeBinding}
    (h : pausedPair mandate binding now actor evidenceRef = .ok (suspended, paused)) :
    IsHuman actor ∧ mandate.statusAt now = .ACTIVE
      ∧ mandate.transition .SUSPENDED now true (some "USER_PAUSE") = .ok suspended
      ∧ binding.pause now "USER_PAUSE" actor evidenceRef (some suspended.fields.version)
        = .ok paused := by
  unfold pausedPair at h
  simp only [require_bind_eq_ok] at h
  obtain ⟨⟨hstatus, -⟩, -, h⟩ := h
  obtain ⟨u, -, h⟩ := Py.of_bind h
  simp only [require_bind_eq_ok] at h
  obtain ⟨hhuman, -, h⟩ := h
  obtain ⟨m, hm, h⟩ := Py.of_bind h
  obtain ⟨b, hb, h⟩ := Py.of_bind h
  injection h with h
  injection h with hmandate hbinding
  subst hmandate hbinding
  exact ⟨hhuman, hstatus, hm, hb⟩

theorem CompositePause.apply_eq_ok {coordinator coordinator' : BindingArtifactCoordinator}
    {result : CompositePause}
    (h : apply coordinator mandate binding now actor evidenceRef = (.ok result, coordinator')) :
    pausedPair mandate binding now actor evidenceRef = .ok (result.mandate, result.binding) := by
  unfold apply at h
  split at h
  · cases congrArg Prod.fst h
  · rename_i suspended paused hpair
    split at h
    · cases congrArg Prod.fst h
    · have hresult := Except.ok.inj (congrArg Prod.fst h)
      rw [hpair, ← hresult]

/-- **What a composite resumption checks and returns.** -/
theorem CompositeResume.apply_eq_ok {qualified healthPermits : Bool} {runVersionsHash : Text}
    {result : CompositeResume}
    (h : apply mandate binding now actor qualified healthPermits runVersionsHash evidenceRef
      = .ok result) :
    IsHuman actor ∧ mandate.statusAt now = .SUSPENDED
      ∧ mandate.transition .ACTIVE now true (some "USER_RESUME") = .ok result.mandate
      ∧ binding.resume now true actor qualified healthPermits (some result.mandate)
        runVersionsHash evidenceRef = .ok result.binding := by
  unfold apply at h
  obtain ⟨u, -, h⟩ := Py.of_bind h
  simp only [require_bind_eq_ok] at h
  obtain ⟨hstatus, -, -, h⟩ := h
  obtain ⟨m, hm, h⟩ := Py.of_bind h
  obtain ⟨b, hb, h⟩ := Py.of_bind h
  injection h with h
  subst h
  exact ⟨(AutonomyModeBinding.resume_eq_ok hb).1, hstatus, hm, hb⟩

end

end FuturesAgentOs
