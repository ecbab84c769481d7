import FuturesAgentOs.Decision.SubmitTradePlan

namespace FuturesAgentOs

open PyModel

/-!
# Runs of the submit service

The calls of one `SubmitTradePlanService`, one after another, whatever each ends with.

* `backed_once` — over a run, no two submitted orders share any of it.
-/

/-! ### The ledger of a call -/

namespace RiskBudgetLedger

variable (now : RecordedAt)

/-- **The consumption of a receipt** consumes row and receipt, or changes nothing. -/
theorem consumeWithCommit_cases [Hashlib] (l : RiskBudgetLedger) (receipts : ReceiptRegistry)
    (issuance : ReceiptIssuanceRegistry) (id : EntityId) (c : Consumption) :
    let out := l.consumeWithCommit (receipts, issuance) id now (some (SubmissionRace.commit c))
    (∃ row receipts' issuance', l.row id = some row ∧ row.ActiveAt now
        ∧ receipts.consume issuance c = (.ok true, receipts', issuance')
        ∧ out = (.ok (some (row.advance .CONSUMED)), l.putRow id (row.advance .CONSUMED),
          receipts', issuance'))
      ∨ (∀ row, out.1 ≠ .ok (some row)) ∧ out.2 = (l, receipts, issuance)
        ∧ (out.1 = .ok none → (∃ row, l.row id = some row ∧ row.ActiveAt now) →
          (receipts.consume issuance c).1 = .ok false) := by
  dsimp only
  unfold consumeWithCommit
  cases hrow : l.row id with
  | none => exact .inr ⟨by simp, rfl, by simp⟩
  | some row =>
    by_cases hactive : row.ActiveAt now
    · simp only [if_pos hactive, SubmissionRace.commit]
      rcases hconsume : receipts.consume issuance c with ⟨e | answer, receipts', issuance'⟩
      · obtain ⟨rfl, rfl⟩ := ReceiptRegistry.consume_not_true hconsume (by simp)
        exact .inr (by simp)
      · cases answer with
        | false =>
          obtain ⟨rfl, rfl⟩ := ReceiptRegistry.consume_not_true hconsume (by simp)
          exact .inr (by simp)
        | true => exact .inl ⟨row, receipts', issuance', rfl, hactive, rfl, rfl⟩
    · simp only [if_neg hactive]
      refine .inr ⟨by simp, trivial, fun _ h => ?_⟩
      obtain ⟨row', heq, hactive'⟩ := h
      rw [← Option.some.inj heq] at hactive'
      exact absurd hactive' hactive

end RiskBudgetLedger

/-! ### The stages of a call -/

namespace SubmitTradePlanService

/-- What is used up stays so, and rows that are no longer `HELD` stay as they are. -/
structure Grows (s s' : SubmitTradePlanService) : Prop where
  used : s.receiptRegistry.used ⊆ s'.receiptRegistry.used
  usedBases : s.receiptRegistry.usedBases ⊆ s'.receiptRegistry.usedBases
  settled : RiskBudgetLedger.KeepsSettled s.riskLedger s'.riskLedger

instance : Std.Refl Grows where
  refl _ := ⟨Finset.Subset.refl _, Finset.Subset.refl _, .refl _⟩

instance : IsTrans SubmitTradePlanService Grows where
  trans _ _ _ h h' := ⟨h.used.trans h'.used, h.usedBases.trans h'.usedBases,
    h.settled.trans h'.settled⟩

variable {s s' : SubmitTradePlanService}

theorem grows_ledger {l : RiskBudgetLedger}
    (h : RiskBudgetLedger.KeepsSettled s.riskLedger l) : Grows s { s with riskLedger := l } :=
  ⟨Finset.Subset.refl _, Finset.Subset.refl _, h⟩

theorem grows_of_eq
    (hreceipts : s'.receiptRegistry = s.receiptRegistry) (hledger : s'.riskLedger = s.riskLedger) :
    Grows s s' := by
  refine ⟨?_, ?_, ?_⟩
  · rw [hreceipts]
  · rw [hreceipts]
  · rw [hledger]
    exact .refl _

theorem keeps_release (id : EntityId) : (release id).Keeps Grows := fun s =>
  grows_ledger (s.riskLedger.keepsSettled_release id)

/-- What authorization and sizing leave as it is. -/
structure Untouched (s s' : SubmitTradePlanService) : Prop where
  constitution : s'.constitution = s.constitution
  riskLedger : s'.riskLedger = s.riskLedger
  receiptIssuance : s'.receiptIssuance = s.receiptIssuance
  receiptRegistry : s'.receiptRegistry = s.receiptRegistry
  otherIssuance : s'.otherIssuance = s.otherIssuance

instance : Std.Refl Untouched where
  refl _ := ⟨rfl, rfl, rfl, rfl, rfl⟩

instance : IsTrans SubmitTradePlanService Untouched where
  trans _ _ _ h h' :=
    ⟨h'.constitution.trans h.constitution, h'.riskLedger.trans h.riskLedger,
      h'.receiptIssuance.trans h.receiptIssuance, h'.receiptRegistry.trans h.receiptRegistry,
      h'.otherIssuance.trans h.otherIssuance⟩

theorem Untouched.grows (h : Untouched s s') : Grows s s' :=
  grows_of_eq h.receiptRegistry h.riskLedger

variable {ctx : DecimalContext} {args : SubmitArgs}

theorem keeps_reserve (p : SizedPlan) : (reserve ctx args p).Keeps Grows :=
  .bind (.call fun s => grows_ledger (s.riskLedger.keepsSettled_reserve ctx p.reservation args.now))
    fun _ => .returnIf _ _

variable [Hashlib]

theorem untouched_authorize : (authorize args).Keeps Untouched := by
  unfold authorize
  refine .bind (.returnIf _ _) fun _ => .bind (.returnIf _ _) fun _ => .bind (.lift _) fun request =>
    .bind (.call fun s => ⟨rfl, rfl, rfl, rfl, rfl⟩) fun preflight => ?_
  split
  · unfold authorizeByApproval
    split
    · exact .returns _
    · refine .bind (.lift _) fun _ => .bind (.lift _) fun _ =>
        .bind (.call fun s => ⟨rfl, rfl, rfl, rfl, rfl⟩) ?_
      rintro ⟨consumed, basis⟩
      cases basis with
      | none => exact .returns _
      | some basis => exact .bind (.returnIf _ _) fun _ => .pure _
  · exact .pure _
  · exact .returns _

theorem untouched_size (p : AuthorizedPlan) : (size ctx args p).Keeps Untouched :=
  .bind (.get _) fun _ => .bind (.lift _) fun _ => .bind (.returnIf _ _) fun _ =>
    .bind (.lift _) fun _ => .bind (.lift _) fun _ => .pure _

theorem keeps_permit (p : SizedPlan) : (permit ctx args p).Keeps Grows := by
  refine .bind (.call fun s => grows_of_eq rfl rfl) fun answer => ?_
  cases answer with
  | refuse outcome reason => exact .bind (keeps_release _) fun _ => .returns _
  | permit receipt reason =>
    refine .bind (.get _) fun _ => .bind (.lift _) fun currentRisk => ?_
    dsimp only
    split
    · exact .bind (fun s => grows_of_eq rfl rfl) fun _ => .bind (keeps_release _) fun _ => .returns _
    · exact .pure _

theorem keeps_bindOrder (p : PermittedPlan) : (bindOrder args p).Keeps Grows := by
  refine .bind (.lift _) fun protection => .bind (.lift _) fun submission => ?_
  split
  · exact .bind (keeps_release _) fun _ => .returns _
  · exact .bind (.lift _) fun _ => .bind (.lift _) fun _ => .pure _

theorem keeps_prepare : (prepare ctx args).Keeps Grows :=
  .bind (fun s => (untouched_authorize s).grows) fun authorized =>
    .bind (fun s => (untouched_size authorized s).grows) fun sized =>
      .bind (keeps_reserve sized) fun _ => .bind (keeps_permit sized) fun permitted =>
        keeps_bindOrder permitted

/-- **Spec of `consume_authorized_receipt`.** -/
theorem consume_eq_normal {p : BoundPlan} {answer : Bool}
    (h : consumeAuthorizedReceipt args p s = (.normal answer, s')) :
    (∃ row receipts issuance, s.riskLedger.row p.reservation.fields.reservationId = some row
        ∧ row.ActiveAt args.now
        ∧ s.receiptRegistry.consume s.registryIssuance (presented args p)
          = (.ok true, receipts, issuance)
        ∧ answer = true
        ∧ s' = { s.withRegistryIssuance issuance with
            riskLedger := s.riskLedger.putRow p.reservation.fields.reservationId
              (row.advance .CONSUMED)
            receiptRegistry := receipts })
      ∨ answer = false ∧ s' = s := by
  have hcases := RiskBudgetLedger.consumeWithCommit_cases args.now s.riskLedger s.receiptRegistry
    s.registryIssuance p.reservation.fields.reservationId (presented args p)
  have h := Body.call_eq_normal.mp h
  dsimp only at h hcases
  generalize s.riskLedger.consumeWithCommit (s.receiptRegistry, s.registryIssuance)
    p.reservation.fields.reservationId args.now
    (some (SubmissionRace.commit (presented args p))) = out at h hcases
  rcases out with ⟨consumed, ledger, receipts, issuance⟩
  rcases hcases with ⟨row, receipts', issuance', hrow, hactive, hconsume, hout⟩ | ⟨hnone, hout, -⟩
  · cases hout
    obtain ⟨hanswer, rfl⟩ := Prod.mk.inj h
    exact .inl ⟨row, receipts, issuance, hrow, hactive, hconsume, (Except.ok.inj hanswer).symm, rfl⟩
  · cases hout
    obtain ⟨hanswer, rfl⟩ := Prod.mk.inj h
    refine .inr ⟨?_, ?_⟩
    · rcases consumed with e | _ | row
      · cases hanswer
      · exact (Except.ok.inj hanswer).symm
      · exact absurd rfl (hnone row)
    · cases s with
      | mk _ _ _ _ _ _ otherIssuance => cases otherIssuance <;> rfl

theorem keeps_consume (p : BoundPlan) : (consumeAuthorizedReceipt args p).Keeps Grows := by
  refine .call fun s => ?_
  have hcases := RiskBudgetLedger.consumeWithCommit_cases args.now s.riskLedger s.receiptRegistry
    s.registryIssuance p.reservation.fields.reservationId (presented args p)
  generalize s.riskLedger.consumeWithCommit (s.receiptRegistry, s.registryIssuance)
    p.reservation.fields.reservationId args.now
    (some (SubmissionRace.commit (presented args p))) = out at hcases ⊢
  rcases out with ⟨answer, ledger, receipts, issuance⟩
  rcases hcases with ⟨row, receipts', issuance', hrow, hactive, hconsume, hout⟩ | ⟨-, hout, -⟩
  · cases hout
    obtain ⟨-, -, -, rfl⟩ := ReceiptRegistry.consume_true hconsume
    exact ⟨Finset.subset_insert _ _, Finset.subset_insert _ _,
      RiskBudgetLedger.keepsSettled_putRow hrow hactive.1⟩
  · cases hout
    exact grows_of_eq rfl rfl

theorem keeps_issueOrder (p : BoundPlan) : (issueOrder args p).Keeps Grows :=
  .bind (.returnIf _ _) fun _ => .bind (keeps_consume p) fun _ => .bind (.returnIf _ _) fun _ =>
    .bind (.get _) fun _ => .pure _

/-- **Step lemma.** -/
theorem grows_submit (s : SubmitTradePlanService) : Grows s (submit ctx args s).2 := by
  have h : Grows s ((prepare ctx args >>= issueOrder args) s).2 :=
    Body.Keeps.bind keeps_prepare keeps_issueOrder s
  unfold submit Body.run
  rcases heq : (prepare ctx args >>= issueOrder args) s with ⟨a | a | e, s₁⟩ <;>
    rw [heq] at h <;> exact h

/-! ### What a call ends with -/

/-- How a call ends. -/
theorem submit_eq_ok {result : SubmitTradePlanResult} :
    submit ctx args s = (.ok result, s') ↔ prepare ctx args s = (.returned result, s')
      ∨ ∃ p s₁, prepare ctx args s = (.normal p, s₁)
        ∧ (issueOrder args p s₁ = (.returned result, s')
          ∨ issueOrder args p s₁ = (.normal result, s')) := by
  rw [submit, Body.run_eq_ok, Body.bind_eq_returned, Body.bind_eq_normal]
  constructor
  · rintro ((h | ⟨p, s₁, h, hissue⟩) | ⟨p, s₁, h, hissue⟩)
    · exact .inl h
    · exact .inr ⟨p, s₁, h, .inl hissue⟩
    · exact .inr ⟨p, s₁, h, .inr hissue⟩
  · rintro (h | ⟨p, s₁, h, hissue | hissue⟩)
    · exact .inl (.inl h)
    · exact .inl (.inr ⟨p, s₁, h, hissue⟩)
    · exact .inr ⟨p, s₁, h, hissue⟩

/-- The result is none of an order. -/
def GivesNone (result : SubmitTradePlanResult) : Prop :=
  result.outcome = .REJECTED ∨ result.outcome = .DEFERRED

theorem givesNone_authorize : (authorize args).Answers GivesNone := by
  unfold authorize
  refine .bind (.returnIf (.inl rfl)) fun _ => .bind (.returnIf (.inl rfl)) fun _ =>
    .bind .lift fun request => .bind .call fun preflight => ?_
  split
  · unfold authorizeByApproval
    split
    · exact .returns (.inr rfl)
    · refine .bind .lift fun _ => .bind .lift fun _ => .bind .call ?_
      rintro ⟨consumed, basis⟩
      cases basis with
      | none => exact .returns (.inl rfl)
      | some basis => exact .bind (.returnIf (.inl rfl)) fun _ => .pure
  · exact .pure
  · exact .returns (.inl rfl)

theorem givesNone_prepare : (prepare ctx args).Answers GivesNone := by
  refine .bind givesNone_authorize fun authorized => .bind ?_ fun sized => .bind ?_ fun _ =>
    .bind ?_ fun permitted => ?_
  · exact .bind .get fun _ => .bind .lift fun _ => .bind (.returnIf (.inl rfl)) fun _ =>
      .bind .lift fun _ => .bind .lift fun _ => .pure
  · exact .bind .call fun _ => .returnIf (.inl rfl)
  · refine .bind .call fun answer => ?_
    cases answer with
    | refuse outcome reason => exact .bind .modify fun _ => .returns (.inl rfl)
    | permit receipt reason =>
      refine .bind .get fun _ => .bind .lift fun currentRisk => ?_
      dsimp only
      split
      · exact .bind .modify fun _ => .bind .modify fun _ => .returns (.inl rfl)
      · exact .pure
  · refine .bind .lift fun protection => .bind .lift fun submission => ?_
    split
    · exact .bind .modify fun _ => .returns (.inl rfl)
    · exact .bind .lift fun _ => .bind .lift fun _ => .pure

/-- **A submitted call.**  It was prepared, its receipt was consumed with its row, and the result
shows what it was prepared with. -/
theorem submit_submitted {result : SubmitTradePlanResult}
    (h : submit ctx args s = (.ok result, s')) (hout : result.outcome = .SUBMITTED) :
    ∃ p s₁ row receipts issuance, prepare ctx args s = (.normal p, s₁)
      ∧ s₁.riskLedger.row p.reservation.fields.reservationId = some row ∧ row.ActiveAt args.now
      ∧ s₁.receiptRegistry.consume s₁.registryIssuance (presented args p)
        = (.ok true, receipts, issuance)
      ∧ s' = { s₁.withRegistryIssuance issuance with
          riskLedger := s₁.riskLedger.putRow p.reservation.fields.reservationId
            (row.advance .CONSUMED)
          receiptRegistry := receipts }
      ∧ result = { resultOf p .SUBMITTED "ORDER_CREATED" with
          reservation := some (row.advance .CONSUMED)
          executionPlan := some p.execution
          order := some p.order
          ledger := some p.entry } := by
  rcases submit_eq_ok.mp h with hearly | ⟨p, s₁, hprepare, hissue⟩
  · rcases givesNone_prepare _ _ _ hearly with hnone | hnone <;> rw [hout] at hnone <;> cases hnone
  refine ⟨p, s₁, ?_⟩
  have hnormal : issueOrder args p s₁ = (.normal result, s') := by
    refine hissue.resolve_left fun hreturned => ?_
    have hother : (issueOrder args p).Answers fun r => r.outcome ≠ .SUBMITTED :=
      .bind (.returnIf nofun) fun _ => .bind .call fun _ => .bind (.returnIf nofun) fun _ =>
        .bind .get fun _ => .pure
    exact hother _ _ _ hreturned hout
  obtain ⟨_, _, hissuing, hnormal⟩ := Body.bind_eq_normal.mp hnormal
  obtain ⟨-, rfl⟩ := Body.returnIf_eq_normal.mp hissuing
  obtain ⟨answer, s₂, hconsume, hnormal⟩ := Body.bind_eq_normal.mp hnormal
  obtain ⟨_, _, hanswer, hnormal⟩ := Body.bind_eq_normal.mp hnormal
  obtain ⟨htrue, rfl⟩ := Body.returnIf_eq_normal.mp hanswer
  obtain ⟨shown, _, hshown, hnormal⟩ := Body.bind_eq_normal.mp hnormal
  obtain ⟨rfl, rfl⟩ := Body.get_eq_normal.mp hshown
  obtain ⟨rfl, rfl⟩ := Body.pure_eq_normal.mp hnormal
  rcases consume_eq_normal hconsume with
    ⟨row, receipts, issuance, hrow, hactive, hconsumed, -, rfl⟩ | ⟨hfalse, -⟩
  · refine ⟨row, receipts, issuance, hprepare, hrow, hactive, hconsumed, rfl, ?_⟩
    rw [RiskBudgetLedger.row_putRow, if_pos rfl]
  · exact absurd hfalse htrue

end SubmitTradePlanService


/-! ### What a submitted order is backed by -/

/-- What stands behind a submitted order. -/
structure Backing where
  basis : AuthorizationBasis
  receipt : AutonomyGateReceipt
  reservation : RiskBudgetReservation
  order : Order

/-- What stands behind a result `SUBMITTED`. -/
def SubmitTradePlanResult.backing (r : SubmitTradePlanResult) : Option Backing :=
  match r.outcome, r.basis, r.receipt, r.reservation, r.order with
  | .SUBMITTED, some basis, some receipt, some reservation, some order =>
    some ⟨basis, receipt, reservation, order⟩
  | _, _, _, _, _ => none

namespace Backing

/-- The receipt is about the basis and the reservation. -/
structure Wellformed (b : Backing) : Prop where
  basis : b.receipt.fields.basisId = b.basis.fields.basisId

/-- Nothing of it was used up. -/
structure Unspent (b : Backing) (s : SubmitTradePlanService) : Prop where
  nonce : b.receipt.fields.nonce ∉ s.receiptRegistry.used
  basis : b.receipt.fields.basisId ∉ s.receiptRegistry.usedBases
  reservation : ∀ row, s.riskLedger.row b.receipt.fields.reservationId = some row →
    row.fields.status = .HELD

/-- All of it is used up. -/
structure Spent (b : Backing) (s : SubmitTradePlanService) : Prop where
  nonce : b.receipt.fields.nonce ∈ s.receiptRegistry.used
  basis : b.receipt.fields.basisId ∈ s.receiptRegistry.usedBases
  reservation : s.riskLedger.row b.receipt.fields.reservationId = some b.reservation
  consumed : b.reservation.fields.status = .CONSUMED

/-- Two backings have no basis, receipt or reservation in common. -/
structure Apart (b b' : Backing) : Prop where
  basis : b.basis.fields.basisId ≠ b'.basis.fields.basisId
  nonce : b.receipt.fields.nonce ≠ b'.receipt.fields.nonce
  reservation : b.receipt.fields.reservationId ≠ b'.receipt.fields.reservationId

end Backing

namespace SubmitTradePlanService

variable {ctx : DecimalContext} {args : SubmitArgs}

variable {b : Backing} {s s' : SubmitTradePlanService}

theorem Grows.unspent (h : Grows s s') (hb : b.Unspent s') : b.Unspent s := by
  refine ⟨fun hmem => hb.nonce (h.used hmem), fun hmem => hb.basis (h.usedBases hmem),
    fun row hrow => ?_⟩
  by_contra hsettled
  exact hsettled (hb.reservation row (h.settled _ row hrow hsettled))

theorem Grows.spent (h : Grows s s') (hb : b.Spent s) : b.Spent s' := by
  refine ⟨h.used hb.nonce, h.usedBases hb.basis, ?_, hb.consumed⟩
  refine h.settled _ _ hb.reservation ?_
  rw [hb.consumed]
  nofun

/-- What is used up and what is not have nothing in common. -/
theorem apart {b' : Backing} (hwf : b.Wellformed)
    (hwf' : b'.Wellformed) (hb : b.Spent s) (hb' : b'.Unspent s) : b.Apart b' := by
  refine ⟨fun heq => ?_, fun heq => ?_, fun heq => ?_⟩
  · apply hb'.basis
    rw [hwf'.basis, ← heq, ← hwf.basis]
    exact hb.basis
  · apply hb'.nonce
    rw [← heq]
    exact hb.nonce
  · have hheld := hb'.reservation b.reservation (heq ▸ hb.reservation)
    rw [hb.consumed] at hheld
    cases hheld

variable [Hashlib]

/-- **Step lemma.**  A submitted order is backed by what was not used up before, and is after. -/
theorem spends {result : SubmitTradePlanResult}
    (h : submit ctx args s = (.ok result, s')) (hout : result.outcome = .SUBMITTED) :
    ∃ b, result.backing = some b ∧ b.Wellformed ∧ b.Unspent s ∧ b.Spent s' := by
  obtain ⟨p, s₁, row, receipts, issuance, hprepare, hrow, hactive, hconsume, rfl, rfl⟩ :=
    submit_submitted h hout
  obtain ⟨hfresh, hconditions, -, rfl⟩ := ReceiptRegistry.consume_true hconsume
  obtain ⟨_, _, -, -, hnames⟩ := Consumption.names_of_conditions hconditions
  have hbasis : p.receipt.fields.basisId = p.basis.fields.basisId := hnames.2.2.2.2.2.2.2.2.2.2.1
  have hreservation : p.receipt.fields.reservationId = p.reservation.fields.reservationId :=
    hnames.2.2.2.2.2.2.2.2.2.2.2.2.2.2.1
  refine ⟨⟨p.basis, p.receipt, row.advance .CONSUMED, p.order⟩, rfl, ⟨hbasis⟩, ?_, ?_⟩
  · have hgrows : Grows s s₁ := by
      have hkeeps : Grows s (prepare ctx args s).2 := keeps_prepare s
      rwa [hprepare] at hkeeps
    refine hgrows.unspent ⟨hfresh.1, hfresh.2.1, fun row' hrow' => ?_⟩
    rw [hreservation, hrow, Option.some.injEq] at hrow'
    rw [← hrow']
    exact hactive.1
  · refine ⟨Finset.mem_insert_self _ _, Finset.mem_insert_self _ _, ?_, rfl⟩
    show RiskBudgetLedger.row _ p.receipt.fields.reservationId = _
    rw [hreservation, RiskBudgetLedger.row_putRow, if_pos rfl]

/-- The answers of a history that are `SUBMITTED`. -/
def submitted (history : List (SubmitTradePlanService × SubmitArgs × Py SubmitTradePlanResult)) :
    List SubmitTradePlanResult :=
  history.filterMap fun event =>
    match event.2.2 with
    | .ok result => if result.outcome = .SUBMITTED then some result else none
    | .error _ => none

variable (ctx) in
/-- The call uses up the nonce. -/
def Uses (nonce : EntityId)
    (event : SubmitTradePlanService × SubmitArgs × Py SubmitTradePlanResult) : Bool :=
  decide (nonce ∉ event.1.receiptRegistry.used
    ∧ nonce ∈ (submit ctx event.2.1 event.1).2.receiptRegistry.used)

/-- The submitted orders of a history are backed by different things, all unspent in `s₀` and spent
in `s`. -/
def Backed (s₀ : SubmitTradePlanService)
    (history : List (SubmitTradePlanService × SubmitArgs × Py SubmitTradePlanResult))
    (s : SubmitTradePlanService) : Prop :=
  ∃ backings : List Backing,
    (submitted history).map SubmitTradePlanResult.backing = backings.map some
      ∧ backings.Pairwise Backing.Apart
      ∧ ∀ b ∈ backings, b.Wellformed ∧ b.Unspent s₀ ∧ b.Spent s

theorem backed_step {s₀ : SubmitTradePlanService}
    {history : List (SubmitTradePlanService × SubmitArgs × Py SubmitTradePlanResult)}
    (hgrows : Grows s₀ s) (h : Backed s₀ history s) :
    Backed s₀ (history ++ [(s, args, (submit ctx args s).1)]) (submit ctx args s).2 := by
  obtain ⟨backings, hbackings, hapart, hall⟩ := h
  have hkept : ∀ b ∈ backings, b.Wellformed ∧ b.Unspent s₀ ∧ b.Spent (submit ctx args s).2 :=
    fun b hb => ⟨(hall b hb).1, (hall b hb).2.1, (grows_submit s).spent (hall b hb).2.2⟩
  rcases hsubmit : submit ctx args s with ⟨e | result, s'⟩
  · refine ⟨backings, ?_, hapart, fun b hb => hsubmit ▸ hkept b hb⟩
    simpa [submitted] using hbackings
  by_cases hout : result.outcome = .SUBMITTED
  · obtain ⟨b, hbacking, hwf, hunspent, hspent⟩ := spends hsubmit hout
    refine ⟨backings ++ [b], ?_, ?_, ?_⟩
    · simp only [submitted, List.filterMap_append, List.map_append] at hbackings ⊢
      rw [hbackings]
      simp [hout, hbacking]
    · rw [List.pairwise_append]
      refine ⟨hapart, List.pairwise_singleton _ _, fun a ha b' hb' => ?_⟩
      rw [List.mem_singleton.mp hb']
      exact apart (hall a ha).1 hwf (hall a ha).2.2 hunspent
    · intro b' hb'
      rw [List.mem_append, List.mem_singleton] at hb'
      rcases hb' with hb' | rfl
      · exact hsubmit ▸ hkept b' hb'
      · exact ⟨hwf, hgrows.unspent hunspent, hspent⟩
  · refine ⟨backings, ?_, hapart, fun b hb => hsubmit ▸ hkept b hb⟩
    simpa [submitted, hout] using hbackings

/-- **Every submitted order of a run has its own backing.**  No two have a basis, a receipt or a
reservation in common; the reservation of each is `CONSUMED` in the ledger that the run leaves, and
one call of the run used its receipt up. -/
theorem backed_once (s : SubmitTradePlanService) (calls : List SubmitArgs) :
    ∃ backings : List Backing,
      (submitted ((machine ctx).trace s calls)).map SubmitTradePlanResult.backing
          = backings.map some
        ∧ backings.Pairwise Backing.Apart
        ∧ ∀ b ∈ backings, b.Wellformed ∧ b.Spent ((machine ctx).exec s calls)
          ∧ ((machine ctx).trace s calls).countP (Uses ctx b.receipt.fields.nonce) = 1 := by
  have hstep : ∀ s args, Grows s ((machine ctx).next s args) := fun s _ => grows_submit s
  have hrun : Grows s ((machine ctx).exec s calls)
      ∧ Backed s ((machine ctx).trace s calls) ((machine ctx).exec s calls) := by
    refine (machine ctx).trace_invariant (I := fun history s' => Grows s s' ∧ Backed s history s')
      ?_ ⟨refl s, [], rfl, List.Pairwise.nil, fun _ hb => absurd hb List.not_mem_nil⟩ calls
    intro history s' args h
    exact ⟨IsTrans.trans _ _ _ h.1 (hstep s' args), backed_step h.1 h.2⟩
  obtain ⟨-, backings, hbackings, hapart, hall⟩ := hrun
  refine ⟨backings, hbackings, hapart, fun b hb => ?_⟩
  obtain ⟨hwf, hunspent, hspent⟩ := hall b hb
  refine ⟨hwf, hspent, ?_⟩
  exact (machine ctx).countP_trace_crossing
    (Q := fun s => b.receipt.fields.nonce ∈ s.receiptRegistry.used)
    (fun s args hmem => (hstep s args).used hmem) (fun _ => decide_eq_true_iff) hunspent.nonce
    hspent.nonce

end SubmitTradePlanService

end FuturesAgentOs
