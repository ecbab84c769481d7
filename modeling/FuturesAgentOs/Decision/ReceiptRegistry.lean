import FuturesAgentOs.Decision.AutonomyGate

namespace FuturesAgentOs

open PyModel

/-!
# Receipt consumption

`decision/autonomy_contracts.py`, `ReceiptRegistry`.  `consume` evaluates a row of conditions,
`Consumption.conditions`, and then marks the receipt in the issuance registry that it shares
with the gate.

* `consume_not_true` — any other answer leaves both registries as they were.
-/

/-- What a consumption reads besides the registries. -/
structure Consumption where
  receipt : AutonomyGateReceipt
  now : RecordedAt
  request : GateRequest
  basis : AuthorizationBasis
  mandate : Option SimulationAutonomyMandate
  approval : Option PlanApproval
  reservation : RiskBudgetReservation
  binding : Option AutonomyModeBinding
  qualified : Bool
  healthPermits : Bool

namespace Consumption

section

variable [Hashlib] (c : Consumption)

/-- The receipt names the request, and the basis and the reservation with these digests. -/
def Names (basisHash reservationHash : Text) : Prop :=
  let r := c.receipt.fields
  let q := c.request.fields
  r.planId = q.planId ∧ r.planVersion = q.planVersion ∧ r.planHash = q.planHash
    ∧ r.accountId = q.accountId ∧ r.instrument = q.instrument ∧ r.strategy = q.strategy
    ∧ r.session = q.session ∧ r.action = q.action ∧ r.quantity.numEq q.quantity
    ∧ r.executionOrigin = q.executionOrigin ∧ r.basisId = c.basis.fields.basisId
    ∧ r.basisHash = basisHash ∧ r.snapshotHash = q.snapshotHash
    ∧ r.runVersionsHash = q.runVersionsHash
    ∧ r.reservationId = c.reservation.fields.reservationId
    ∧ r.reservationHash = reservationHash

instance (basisHash reservationHash : Text) : Decidable (c.Names basisHash reservationHash) :=
  inferInstanceAs (Decidable (_ ∧ _))

/-- The mandate is the one the basis was issued under, and covers the request; asked of bases
under a mandate only. -/
def sourceIsMandate (mandate : SimulationAutonomyMandate) : Py Bool :=
  if c.basis.fields.kind = .MANDATE then do
    let authorizationHash ← mandate.authorizationHash
    .ok (decide (c.receipt.fields.sourceId = mandate.fields.mandateId
      ∧ c.receipt.fields.sourceVersion = mandate.fields.version
      ∧ c.receipt.fields.sourceHash = authorizationHash
      ∧ mandate.fields.scope.MatchesRequest c.request))
  else .ok true

/-- The receipt names exactly this binding. -/
def namesBinding (binding : AutonomyModeBinding) : Py Bool := do
  let bindingHash ← binding.bindingHash
  .ok (decide (c.receipt.fields.modeBindingId = some binding.fields.bindingId
    ∧ c.receipt.fields.modeBindingVersion = some binding.fields.version
    ∧ c.receipt.fields.modeBindingHash = some bindingHash))

/-- The conditions on the mandate and the binding of an autonomous receipt. -/
def autonomousConditions (mandate : SimulationAutonomyMandate) (binding : AutonomyModeBinding) :
    List (Py Bool) := [
  .ok (decide (mandate.IsActiveAt c.now ∧ binding.IsActiveAt c.now
    ∧ binding.fields.mode = .AUTONOMOUS_SIMULATION ∧ c.qualified = true
    ∧ c.healthPermits = true)),
  c.sourceIsMandate mandate,
  .ok (decide (binding.fields.simulationAccountId
      = some mandate.fields.scope.fields.simulationAccountId
    ∧ binding.fields.simulationAccountId = some c.request.fields.accountId)),
  do
    let scope ← mandate.fields.scope.digest
    .ok (decide (binding.fields.scopeSnapshotHash = scope)),
  c.namesBinding binding]

/-- The conditions on the approval of an autonomous receipt, asked of bases under an approval
only. -/
def exceptionConditions : List (Py Bool) :=
  match c.basis.fields.kind with
  | .MANDATE => []
  | .PLAN_APPROVAL =>
    match c.approval with
    | none => [.ok false]
    | some approval => [
      .ok (decide (approval.fields.status = .CONSUMED
        ∧ c.receipt.fields.sourceId = approval.fields.approvalId
        ∧ c.receipt.fields.sourceVersion = approval.fields.version - 1)),
      do
        let grantedHash ← approval.grantedAuthorizationHash
        .ok (decide (c.receipt.fields.sourceHash = grantedHash
          ∧ c.basis.fields.approvalToken = some approval.fields.approvalToken)),
      do
        let scope ← approval.fields.scope.scopeHash
        .ok (decide (c.basis.fields.scopeSnapshotHash = scope
          ∧ approval.fields.scope.PermitsRequest c.request c.now))]

/-- The conditions on the approval of a manual receipt. -/
def manualConditions : List (Py Bool) :=
  match c.approval with
  | none => [.ok false]
  | some approval => [
    .ok (decide (c.basis.fields.kind = .PLAN_APPROVAL ∧ approval.fields.status = .CONSUMED
      ∧ c.receipt.fields.manualActorRef ≠ none
      ∧ c.receipt.fields.manualActorRef = approval.fields.decidedBy ∧ c.healthPermits = true
      ∧ c.receipt.fields.sourceId = approval.fields.approvalId
      ∧ c.receipt.fields.sourceVersion = approval.fields.version - 1)),
    do
      let grantedHash ← approval.grantedAuthorizationHash
      .ok (decide (c.receipt.fields.sourceHash = grantedHash
        ∧ c.basis.fields.approvalToken = some approval.fields.approvalToken
        ∧ c.basis.fields.approvalValidFromAt = some approval.fields.scope.fields.validFromAt
        ∧ c.basis.fields.approvalValidUntilAt = some approval.fields.scope.fields.validUntilAt
        ∧ approval.fields.scope.PermitsRequest c.request c.now))]

/-- The conditions that the origin of the receipt adds. -/
def originConditions : List (Py Bool) :=
  match c.receipt.fields.executionOrigin with
  | .AUTONOMOUS_AGENT =>
    match c.mandate, c.binding with
    | some mandate, some binding =>
      c.autonomousConditions mandate binding ++ c.exceptionConditions
    | _, _ => [.ok false]
  | .MANUAL_TEST => c.manualConditions

/-- The conditions that do not read the registries, in order. -/
def conditions : List (Py Bool) := [
  .ok (decide (c.reservation.ActiveAt c.now)),
  do
    let basisHash ← c.basis.basisHash
    let reservationHash ← c.reservation.reservationHash
    .ok (decide (c.Names basisHash reservationHash)),
  .ok (decide (c.basis.ActiveAt c.now)),
  .ok (decide (c.basis.fields.authorizedAction = c.request.fields.action
    ∧ c.request.fields.quantity ≤ c.basis.fields.authorizedQuantity)),
  .ok (decide (c.reservation.fields.sourceKind
      = AutonomyGate.FinalGateInput.sourceKind c.basis.fields.kind
    ∧ c.reservation.fields.sourceRef = some c.basis.fields.sourceId
    ∧ c.reservation.fields.sourceHash = some c.basis.fields.sourceHash)),
  .ok (decide (c.reservation.fields.action.value = c.request.fields.action.value
    ∧ c.reservation.fields.quantity.numEq c.request.fields.quantity))] ++ c.originConditions

end

end Consumption

variable {c : Consumption}

theorem Consumption.names_of_conditions [Hashlib]
    (h : ∀ condition ∈ c.conditions, condition = .ok true) :
    ∃ basisHash reservationHash, c.basis.basisHash = .ok basisHash
      ∧ c.reservation.reservationHash = .ok reservationHash
      ∧ c.Names basisHash reservationHash := by
  have hnames := h _ (List.mem_append_left _ (List.mem_cons_of_mem _ List.mem_cons_self))
  obtain ⟨basisHash, hbasis, hnames⟩ := Py.of_bind hnames
  obtain ⟨reservationHash, hreservation, hnames⟩ := Py.of_bind hnames
  exact ⟨basisHash, reservationHash, hbasis, hreservation,
    of_decide_eq_true (Except.ok.inj hnames)⟩

theorem Consumption.autonomous_of_conditions [Hashlib]
    (h : ∀ condition ∈ c.conditions, condition = .ok true)
    (horigin : c.receipt.fields.executionOrigin = .AUTONOMOUS_AGENT) :
    ∃ mandate binding, c.mandate = some mandate ∧ c.binding = some binding
      ∧ c.receipt.fields.modeBindingVersion = some binding.fields.version
      ∧ (c.basis.fields.kind = .MANDATE →
        c.receipt.fields.sourceVersion = mandate.fields.version) := by
  have horiginal : ∀ condition ∈ c.originConditions, condition = .ok true :=
    fun condition hmem => h condition (List.mem_append_right _ hmem)
  unfold originConditions at horiginal
  rw [horigin] at horiginal
  cases hmandate : c.mandate with
  | none =>
    rw [hmandate] at horiginal
    cases horiginal (.ok false) List.mem_cons_self
  | some mandate =>
    cases hbinding : c.binding with
    | none =>
      rw [hmandate, hbinding] at horiginal
      cases horiginal (.ok false) List.mem_cons_self
    | some binding =>
      rw [hmandate, hbinding] at horiginal
      refine ⟨mandate, binding, rfl, rfl, ?_, ?_⟩
      · have hnames := horiginal (c.namesBinding binding)
          (List.mem_append_left _ (by simp [autonomousConditions]))
        obtain ⟨bindingHash, -, hnames⟩ := Py.of_bind hnames
        exact (of_decide_eq_true (Except.ok.inj hnames)).2.1
      · intro hkind
        have hsource := horiginal (c.sourceIsMandate mandate)
          (List.mem_append_left _ (by simp [autonomousConditions]))
        rw [sourceIsMandate, if_pos hkind] at hsource
        obtain ⟨authorizationHash, -, hsource⟩ := Py.of_bind hsource
        exact (of_decide_eq_true (Except.ok.inj hsource)).2.1

/-- The consumption presents what the final gate would read, and for the mandate `mandate`. -/
structure Consumption.Follows (c : Consumption) (i : AutonomyGate.FinalGateInput)
    (mandate : SimulationAutonomyMandate) : Prop where
  now : c.now = i.now
  request : c.request = i.request
  basis : c.basis = i.basis
  mandate : c.mandate = some mandate
  approval : c.approval = i.approval
  reservation : c.reservation = i.reservation
  binding : c.binding = i.binding
  qualified : c.qualified = i.qualified
  healthPermits : c.healthPermits = i.healthPermits

/-- **What the final gate lets pass can be consumed**, as long as the gate would let it pass.
Under an approval it can be consumed with any mandate in force that has the scope of the one the
gate read. -/
theorem Consumption.conditions_of_passed [Hashlib] {i : AutonomyGate.FinalGateInput} {mandate mandate' : SimulationAutonomyMandate} {registryId : EntityId}
    {fingerprint : Text} {issuedAt : RecordedAt} (h : i.Passed)
    (horigin : i.request.fields.executionOrigin = .AUTONOMOUS_AGENT)
    (hmandate : i.mandate = some mandate)
    (hreceipt : { i with now := issuedAt }.newReceipt registryId fingerprint = .ok c.receipt)
    (hfollows : c.Follows i mandate') (hactive : mandate'.IsActiveAt i.now)
    (hscope : mandate'.fields.scope = mandate.fields.scope)
    (hsame : i.basis.fields.kind = .MANDATE → mandate' = mandate) :
    ∀ condition ∈ c.conditions, condition = .ok true := by
  obtain ⟨mandate'', binding, hmandate', hbinding, hpassed⟩ := h.autonomous horigin
  rw [hmandate, Option.some.injEq] at hmandate'
  subst hmandate'
  obtain ⟨receiptId, basisHash, reservationHash, nonce, modeHash, hbasis, hreservation, hmode, -, -,
    hfields⟩ := AutonomyGate.FinalGateInput.newReceipt_eq_ok hreceipt
  obtain ⟨basisHash', -, -, -, -, -, -, -, -, -, -, haction, hquantity⟩ := h.binds
  have hnames : c.Names basisHash reservationHash := by
    rw [Names, hfields, hfollows.request, hfollows.basis, hfollows.reservation]
    simp
  have hcommon : ∀ condition ∈ c.originConditions, condition = .ok true := by
    have hmodeHash : ∃ digest, binding.bindingHash = .ok digest ∧ modeHash = some digest := by
      simp only [AutonomyGate.FinalGateInput.modeBindingHash,
        AutonomyGate.FinalGateInput.modeBinding, horigin, hbinding] at hmode
      obtain ⟨digest, hdigest, heq⟩ := Py.of_bind hmode
      exact ⟨digest, hdigest, (Except.ok.inj heq).symm⟩
    obtain ⟨digest, hdigest, rfl⟩ := hmodeHash
    have hnamesBinding : c.namesBinding binding = .ok true := by
      rw [namesBinding, hdigest, Py.ok_bind, hfields]
      simp [AutonomyGate.FinalGateInput.modeBinding, horigin, hbinding]
    have hsource : c.sourceIsMandate mandate' = .ok true := by
      rw [sourceIsMandate, hfollows.basis]
      split
      · rename_i hkind
        obtain ⟨_, hm, -, hid, hversion, hhash, hmatches⟩ :=
          AutonomyGate.FinalGateInput.mandateSource_eq_none.mp (h.mandateSource hkind)
        rw [hmandate, Option.some.injEq] at hm
        rw [hsame hkind, hm, hhash, Py.ok_bind, hfields, hfollows.request]
        simp only [hid, hversion, hmatches, and_self, decide_true]
      · rfl
    have hexception : ∀ condition ∈ c.exceptionConditions, condition = .ok true := by
      unfold exceptionConditions
      rw [hfollows.basis, hfollows.approval]
      cases hkind : i.basis.fields.kind with
      | MANDATE =>
        intro condition hmem
        cases hmem
      | PLAN_APPROVAL =>
        obtain ⟨approval, happroval, hstatus, hid, -, -, -, -, hversion, hgranted, hscopeHash,
          htoken, -, -, hpermits⟩ :=
          AutonomyGate.FinalGateInput.approvalSource_eq_none.mp (h.approvalSource hkind)
        rw [happroval]
        simp only [List.forall_mem_cons, hgranted, hscopeHash, Py.ok_bind, hfields, hstatus, hid,
          hversion, htoken, hfollows.request, hfollows.now, hpermits, and_self, decide_true,
          List.not_mem_nil, false_imp_iff, implies_true]
    unfold originConditions
    have horigin' : c.receipt.fields.executionOrigin = .AUTONOMOUS_AGENT := by
      rw [hfields]
      exact horigin
    rw [horigin', hfollows.mandate, hfollows.binding, hbinding]
    have haccount : some mandate.fields.scope.fields.simulationAccountId
        = some i.request.fields.accountId := hpassed.scopeAccount.symm.trans hpassed.account
    simp only [List.forall_mem_append, autonomousConditions, List.forall_mem_cons, hsource,
      hnamesBinding, hscope, hpassed.scope, hpassed.scopeAccount, hfollows.now, hfollows.request,
      hfollows.qualified, hfollows.healthPermits, hactive, hpassed.bindingActive, hpassed.mode,
      hpassed.qualified, hpassed.healthPermits, haccount, Py.ok_bind, and_self, decide_true,
      List.not_mem_nil, false_imp_iff, implies_true, true_and]
    exact hexception
  unfold conditions
  simp only [List.forall_mem_append, List.forall_mem_cons, hfollows.reservation, hfollows.basis,
    hfollows.request, hfollows.now, h.reservationActive, h.basisActive, h.action, h.quantity,
    h.sourceKind, h.sourceRef, h.sourceHash, haction, hquantity, hbasis, hreservation, Py.ok_bind,
    hnames, and_self, decide_true, List.not_mem_nil, false_imp_iff, implies_true, true_and]
  exact hcommon

/-- The nonces and bases that were used up. -/
structure ReceiptRegistry where
  /-- `_used` -/
  used : Finset EntityId
  /-- `_used_bases` -/
  usedBases : Finset EntityId
  deriving DecidableEq

namespace ReceiptRegistry

/-- `ReceiptRegistry(…)` -/
def new : ReceiptRegistry := ⟨∅, ∅⟩

/-- The conditions of `consume` that read the registries. -/
def Fresh (s : ReceiptRegistry) (issuance : ReceiptIssuanceRegistry) (c : Consumption) : Prop :=
  c.receipt.fields.nonce ∉ s.used ∧ c.receipt.fields.basisId ∉ s.usedBases
    ∧ c.now < c.receipt.fields.expiresAt ∧ c.now < c.request.fields.snapshotExpiresAt
    ∧ issuance.contains c.receipt

instance (s : ReceiptRegistry) (issuance : ReceiptIssuanceRegistry) (c : Consumption) :
    Decidable (s.Fresh issuance c) := inferInstanceAs (Decidable (_ ∧ _))

/-- The two insertions after a successful mark. -/
def use (s : ReceiptRegistry) (receipt : AutonomyGateReceipt) : ReceiptRegistry :=
  ⟨insert receipt.fields.nonce s.used, insert receipt.fields.basisId s.usedBases⟩

section

variable [Hashlib]

/-- Everything that `consume` evaluates before it marks the receipt. -/
def admits (s : ReceiptRegistry) (issuance : ReceiptIssuanceRegistry) (c : Consumption) :
    Py Bool :=
  Py.allHold (.ok (decide (s.Fresh issuance c)) :: c.conditions)

/-- `consume`, with the issuance registry that the receipt registry was built on. -/
def consume (s : ReceiptRegistry) (issuance : ReceiptIssuanceRegistry) (c : Consumption) :
    Py Bool × ReceiptRegistry × ReceiptIssuanceRegistry :=
  match s.admits issuance c with
  | .error e => (.error e, s, issuance)
  | .ok false => (.ok false, s, issuance)
  | .ok true =>
    match issuance.markConsumed c.receipt with
    | (false, issuance) => (.ok false, s, issuance)
    | (true, issuance) => (.ok true, s.use c.receipt, issuance)

variable {c : Consumption} {issuance : ReceiptIssuanceRegistry} {s : ReceiptRegistry}

/-- **What is admitted**: a fresh receipt for which every condition holds. -/
theorem admits_eq_true : s.admits issuance c = .ok true
      ↔ s.Fresh issuance c ∧ ∀ condition ∈ c.conditions, condition = .ok true := by
  rw [admits, Py.allHold_eq_true, List.forall_mem_cons, Except.ok.injEq, decide_eq_true_iff]

/-- **A successful consumption** found the receipt fresh and every condition true; it used the
receipt up and marked its basis. -/
theorem consume_true {s' : ReceiptRegistry} {issuance' : ReceiptIssuanceRegistry} (h : s.consume issuance c = (.ok true, s', issuance')) :
    s.Fresh issuance c ∧ (∀ condition ∈ c.conditions, condition = .ok true)
      ∧ issuance.markConsumed c.receipt = (true, issuance') ∧ s' = s.use c.receipt := by
  unfold consume at h
  split at h
  · cases congrArg Prod.fst h
  · cases congrArg Prod.fst h
  · rename_i hadmits
    obtain ⟨hfresh, hconditions⟩ := admits_eq_true.mp hadmits
    split at h
    · cases congrArg Prod.fst h
    · rename_i issuance'' hmark
      obtain ⟨-, rfl, rfl⟩ : True ∧ s.use c.receipt = s' ∧ issuance'' = issuance' := by
        simpa using h
      exact ⟨hfresh, hconditions, hmark, rfl⟩

theorem consume_of_conditions (hfresh : s.Fresh issuance c)
    (hconditions : ∀ condition ∈ c.conditions, condition = .ok true)
    (hnew : c.receipt.fields.basisId ∉ issuance.consumedBases) :
    s.consume issuance c = (.ok true, s.use c.receipt, (issuance.markConsumed c.receipt).2) := by
  obtain ⟨hissued, hvalid⟩ := hfresh.2.2.2.2
  obtain ⟨issuance', hmark⟩ : ∃ issuance', issuance.markConsumed c.receipt = (true, issuance') := by
    rw [ReceiptIssuanceRegistry.markConsumed, if_pos ⟨hissued, hvalid, hnew⟩]
    exact ⟨_, rfl⟩
  have hadmits := admits_eq_true.mpr ⟨hfresh, hconditions⟩
  unfold consume
  rw [hadmits]
  simp only [hmark]

/-- **A consumption that does not succeed** changes nothing. -/
theorem consume_not_true {s' : ReceiptRegistry} {issuance' : ReceiptIssuanceRegistry} {answer : Py Bool} (h : s.consume issuance c = (answer, s', issuance'))
    (hanswer : answer ≠ .ok true) : s' = s ∧ issuance' = issuance := by
  unfold consume at h
  split at h
  · obtain ⟨-, rfl, rfl⟩ : _ ∧ s = s' ∧ issuance = issuance' := by simpa using h
    exact ⟨rfl, rfl⟩
  · obtain ⟨-, rfl, rfl⟩ : _ ∧ s = s' ∧ issuance = issuance' := by simpa using h
    exact ⟨rfl, rfl⟩
  · split at h
    · rename_i issuance'' hmark
      obtain ⟨-, rfl, rfl⟩ : _ ∧ s = s' ∧ issuance'' = issuance' := by simpa using h
      exact ⟨rfl, ReceiptIssuanceRegistry.markConsumed_eq_false hmark⟩
    · exact absurd (congrArg Prod.fst h).symm hanswer

end

end ReceiptRegistry

end FuturesAgentOs
