import FuturesAgentOs.Decision.GateReceipt
import FuturesAgentOs.Decision.Order
import FuturesAgentOs.Decision.RiskDecision
import FuturesAgentOs.PortfolioRisk.Reservation

namespace FuturesAgentOs

open PyModel

/-!
# Facts and their references

`decision/trade_contracts.py`, `_canonical_value`, `_object_identity`, `_object_version`,
`_object_hash` and `ContractReference`.  The source finds the identity and the hash of a fact by
trying attribute names in order, so which attribute it finds depends on the class.

* `Fact.eq_of_canonical` — a fact without a hash attribute is determined by its canonical value.
-/

/-- A V2 fact. -/
inductive Fact where
  | protectionIntent (x : ProtectionIntent)
  | tradePlan (x : TradePlan)
  | riskDecision (x : RiskDecision)
  | protectionMandate (x : ProtectionMandate)
  | executionPlan (x : ExecutionPlan)
  | stopPolicy (x : StopPolicy)
  | order (x : Order)
  | fill (x : Fill)
  | positionLot (x : PositionLot)
  | ledgerEntry (x : LedgerEntry)
  | settlement (x : Settlement)
  | mandate (x : SimulationAutonomyMandate)
  | modeBinding (x : AutonomyModeBinding)
  | planApproval (x : PlanApproval)
  | authorizationBasis (x : AuthorizationBasis)
  | reservation (x : RiskBudgetReservation)
  | receipt (x : AutonomyGateReceipt)
  | gateRequest (x : GateRequest)
  deriving DecidableEq

/-! ### Canonical values -/

/-- A decimal, or `None`. -/
def Json.optionalDecimal (d : Option Decimal) : Json := Json.optionalText (d.map Decimal.str)

/-- An identifier, or `None`. -/
def Json.optionalId (id : Option EntityId) : Json := Json.optionalText (id.map EntityId.str)

/-- A timestamp, or `None`. -/
def Json.optionalTime (t : Option RecordedAt) : Json := Json.optionalText (t.map RecordedAt.text)

/-- The members of `_canonical_value(intent)`, the schema version given by its text. -/
def ProtectionIntentFields.canonicalItems (f : ProtectionIntentFields) (schemaVersion : Text) :
    List (Text × Json) := [
  ("stop_price", .str f.stopPrice.str),
  ("max_loss", .str f.maxLoss.str),
  ("take_profit_price", Json.optionalDecimal f.takeProfitPrice),
  ("time_limit_at", Json.optionalTime f.timeLimitAt),
  ("intent_id", .str f.intentId.str),
  ("created_at", .str f.createdAt.text),
  ("version", .int f.version),
  ("schema_version", .str schemaVersion),
  ("source_ref", .str f.sourceRef)]

/-- The members of `_canonical_value(mandate)`. -/
def ProtectionMandateFields.canonicalItems (f : ProtectionMandateFields) (schemaVersion : Text) :
    List (Text × Json) := [
  ("mandate_id", .str f.mandateId.str),
  ("plan_id", .str f.planId.str),
  ("stop_price", .str f.stopPrice.str),
  ("max_loss", .str f.maxLoss.str),
  ("issued_at", .str f.issuedAt.text),
  ("version", .int f.version),
  ("risk_decision_id", Json.optionalId f.riskDecisionId),
  ("risk_decision_plan_version", Json.optionalInt f.riskDecisionPlanVersion),
  ("schema_version", .str schemaVersion),
  ("source_ref", .str f.sourceRef)]

/-- The members of `_canonical_value(execution_plan)`. -/
def ExecutionPlanFields.canonicalItems (f : ExecutionPlanFields) (schemaVersion : Text) :
    List (Text × Json) := [
  ("execution_plan_id", .str f.executionPlanId.str),
  ("plan_id", .str f.planId.str),
  ("order_type", .str f.orderType),
  ("quantity", .str f.quantity.str),
  ("limit_price", Json.optionalDecimal f.limitPrice),
  ("stop_price", Json.optionalDecimal f.stopPrice),
  ("protection_mandate_id", .str f.protectionMandateId.str),
  ("created_at", .str f.createdAt.text),
  ("risk_decision_id", Json.optionalId f.riskDecisionId),
  ("risk_decision_plan_version", Json.optionalInt f.riskDecisionPlanVersion),
  ("authorization_receipt_id", Json.optionalId f.authorizationReceiptId),
  ("reservation_id", Json.optionalId f.reservationId),
  ("plan_hash", Json.optionalText f.planHash),
  ("schema_version", .str schemaVersion),
  ("source_ref", .str f.sourceRef),
  ("version", .int f.version)]

/-- The members of `_canonical_value(policy)`. -/
def StopPolicyFields.canonicalItems (f : StopPolicyFields) (schemaVersion : Text) :
    List (Text × Json) := [
  ("policy_id", .str f.policyId.str),
  ("position_id", .str f.positionId.str),
  ("stop_price", .str f.stopPrice.str),
  ("max_loss", .str f.maxLoss.str),
  ("active", .bool f.active),
  ("protection_mandate_id", Json.optionalId f.protectionMandateId),
  ("created_at", .str f.createdAt.text),
  ("version", .int f.version),
  ("schema_version", .str schemaVersion),
  ("source_ref", .str f.sourceRef)]

/-- The members of `_canonical_value(order)`. -/
def OrderFields.canonicalItems (f : OrderFields) (schemaVersion : Text) : List (Text × Json) := [
  ("order_id", .str f.orderId.str),
  ("execution_plan_id", .str f.executionPlanId.str),
  ("instrument", .str f.instrument),
  ("direction", .str f.direction.value),
  ("quantity", .str f.quantity.str),
  ("status", .str f.status.value),
  ("filled_quantity", .str f.filledQuantity.str),
  ("limit_price", Json.optionalDecimal f.limitPrice),
  ("stop_price", Json.optionalDecimal f.stopPrice),
  ("created_at", .str f.createdAt.text),
  ("version", .int f.version),
  ("schema_version", .str schemaVersion),
  ("source_ref", .str f.sourceRef)]

/-- The members of `_canonical_value(fill)`. -/
def FillFields.canonicalItems (f : FillFields) (schemaVersion : Text) : List (Text × Json) := [
  ("fill_id", .str f.fillId.str),
  ("order_id", .str f.orderId.str),
  ("instrument", .str f.instrument),
  ("direction", .str f.direction.value),
  ("quantity", .str f.quantity.str),
  ("price", .str f.price.str),
  ("fee", .str f.fee.str),
  ("filled_at", .str f.filledAt.text),
  ("version", .int f.version),
  ("schema_version", .str schemaVersion),
  ("source_ref", .str f.sourceRef)]

/-- The members of `_canonical_value(lot)`. -/
def PositionLotFields.canonicalItems (f : PositionLotFields) (schemaVersion : Text) :
    List (Text × Json) := [
  ("lot_id", .str f.lotId.str),
  ("account_id", .str f.accountId.str),
  ("instrument", .str f.instrument),
  ("direction", .str f.direction.value),
  ("quantity", .str f.quantity.str),
  ("average_price", .str f.averagePrice.str),
  ("opened_at", .str f.openedAt.text),
  ("source_fill_id", Json.optionalId f.sourceFillId),
  ("version", .int f.version),
  ("schema_version", .str schemaVersion),
  ("source_ref", .str f.sourceRef)]

/-- The members of `_canonical_value(entry)`. -/
def LedgerEntryFields.canonicalItems (f : LedgerEntryFields) (schemaVersion : Text) :
    List (Text × Json) := [
  ("entry_id", .str f.entryId.str),
  ("account_id", .str f.accountId.str),
  ("event_ref", .str f.eventRef.str),
  ("amount", .str f.amount.str),
  ("currency", .str f.currency),
  ("entry_type", .str f.entryType),
  ("recorded_at", .str f.recordedAt.text),
  ("version", .int f.version),
  ("schema_version", .str schemaVersion),
  ("source_ref", .str f.sourceRef)]

/-- The members of `_canonical_value(settlement)`. -/
def SettlementFields.canonicalItems (f : SettlementFields) (schemaVersion : Text) :
    List (Text × Json) := [
  ("settlement_id", .str f.settlementId.str),
  ("account_id", .str f.accountId.str),
  ("trading_date", .str f.tradingDate),
  ("cash_delta", .str f.cashDelta.str),
  ("realized_pnl", .str f.realizedPnl.str),
  ("fees", .str f.fees.str),
  ("recorded_at", .str f.recordedAt.text),
  ("source_ref", .str f.sourceRef),
  ("version", .int f.version),
  ("schema_version", .str schemaVersion),
  ("settlement_price", Json.optionalDecimal f.settlementPrice)]

/-- The members of `_canonical_value(binding)`. -/
def ModeBindingFields.canonicalItems (f : ModeBindingFields) (schemaVersion : Text) :
    List (Text × Json) := [
  ("binding_id", .str f.bindingId.str),
  ("version", .int f.version),
  ("mode", .str f.mode.value),
  ("status", .str f.status.value),
  ("simulation_account_id", Json.optionalId f.simulationAccountId),
  ("mandate_id", Json.optionalId f.mandateId),
  ("mandate_version", Json.optionalInt f.mandateVersion),
  ("run_versions_hash", .str f.runVersionsHash),
  ("expires_at", .str f.expiresAt.text),
  ("recorded_at", .str f.recordedAt.text),
  ("scope_snapshot_hash", .str f.scopeSnapshotHash),
  ("scan_policy_ref", .str f.scanPolicyRef),
  ("universe_policy_ref", .str f.universePolicyRef),
  ("qualified_artifact_ref", Json.optionalText f.qualifiedArtifactRef),
  ("transition_reason", .str f.transitionReason),
  ("transition_actor", .str f.transitionActor),
  ("evidence_ref", .str f.evidenceRef),
  ("previous_mode", Json.optionalText (f.previousMode.map AutonomyMode.value)),
  ("schema_version", .str schemaVersion),
  ("source_ref", .str f.sourceRef)]

/-- An object whose members need the text of a schema version. -/
def canonicalObject (schemaVersion : SchemaVersion) (items : Text → List (Text × Json)) :
    Py Json := do
  let text ← schemaVersion.str
  .ok (.obj (items text))

/-! ### Identity, version and hash -/

/-- Where the hash of a fact comes from. -/
inductive HashSource where
  /-- the attribute `plan_hash` -/
  | planHash (digest : Py Text)
  /-- the attribute `authorization_hash` -/
  | authorizationHash (m : SimulationAutonomyMandate)
  /-- no hash attribute: the digest of the canonical value -/
  | canonical (value : Py Json)

/-- The hash from its source. -/
def HashSource.digest [Hashlib] : HashSource → Py Text
  | planHash digest => digest
  | authorizationHash m => m.authorizationHash
  | canonical value => value >>= canonicalSha256

/-! ### A canonical value determines its fact -/

section

@[simp] theorem EntityId.str_eq_iff {e f : EntityId} : e.str = f.str ↔ e = f :=
  ⟨EntityId.str_inj, congrArg _⟩

@[simp] theorem Decimal.str_eq_iff {d e : Decimal} : d.str = e.str ↔ d = e :=
  ⟨Decimal.str_inj, congrArg _⟩

@[simp] theorem RecordedAt.text_eq_iff {s t : RecordedAt} : s.text = t.text ↔ s = t :=
  ⟨RecordedAt.text_inj, congrArg _⟩

@[simp] theorem TradeDirection.value_eq_iff {d e : TradeDirection} : d.value = e.value ↔ d = e := by
  cases d <;> cases e <;> decide

@[simp] theorem OrderStatus.value_eq_iff {s t : OrderStatus} : s.value = t.value ↔ s = t := by
  cases s <;> cases t <;> decide

@[simp] theorem AutonomyMode.value_eq_iff {m n : AutonomyMode} : m.value = n.value ↔ m = n := by
  cases m <;> cases n <;> decide

@[simp] theorem BindingStatus.value_eq_iff {s t : BindingStatus} : s.value = t.value ↔ s = t := by
  cases s <;> cases t <;> decide

@[simp] theorem Json.optionalText_eq_iff {t u : Option Text} :
    Json.optionalText t = Json.optionalText u ↔ t = u := by
  cases t <;> cases u <;> simp [Json.optionalText]

@[simp] theorem AutonomyMode.map_value_eq_iff {m n : Option AutonomyMode} :
    m.map AutonomyMode.value = n.map AutonomyMode.value ↔ m = n :=
  (Option.map_injective (fun _ _ => AutonomyMode.value_eq_iff.mp)).eq_iff

@[simp] theorem Json.optionalInt_eq_iff {m n : Option ℤ} :
    Json.optionalInt m = Json.optionalInt n ↔ m = n := by
  cases m <;> cases n <;> simp [Json.optionalInt]

@[simp] theorem Json.optionalDecimal_eq_iff {d e : Option Decimal} :
    Json.optionalDecimal d = Json.optionalDecimal e ↔ d = e := by
  rw [Json.optionalDecimal, Json.optionalDecimal, Json.optionalText_eq_iff]
  exact (Option.map_injective (fun _ _ => Decimal.str_inj)).eq_iff

@[simp] theorem Json.optionalId_eq_iff {a b : Option EntityId} :
    Json.optionalId a = Json.optionalId b ↔ a = b := by
  rw [Json.optionalId, Json.optionalId, Json.optionalText_eq_iff]
  exact (Option.map_injective (fun _ _ => EntityId.str_inj)).eq_iff

@[simp] theorem Json.optionalTime_eq_iff {s t : Option RecordedAt} :
    Json.optionalTime s = Json.optionalTime t ↔ s = t := by
  rw [Json.optionalTime, Json.optionalTime, Json.optionalText_eq_iff]
  exact (Option.map_injective (fun _ _ => RecordedAt.text_inj)).eq_iff

/-- The parts of an object that two records share. -/
theorem canonicalObject_eq {v w : SchemaVersion} {items items' : Text → List (Text × Json)}
    {value : Json} (h : canonicalObject v items = .ok value)
    (h' : canonicalObject w items' = .ok value) :
    ∃ s t, v.str = .ok s ∧ w.str = .ok t ∧ items s = items' t := by
  obtain ⟨s, hs, h⟩ := Py.of_bind h
  obtain ⟨t, ht, h'⟩ := Py.of_bind h'
  rw [← Except.ok.inj h', Except.ok.injEq, Json.obj.injEq] at h
  exact ⟨s, t, hs, ht, h⟩

/-- The canonical items of a class show its schema version and, with it, everything else. -/
class Shows {φ : Type} (schemaVersion : φ → SchemaVersion) (items : φ → Text → List (Text × Json)) :
    Prop where
  shown : ∀ f g s t, items f s = items g t → s = t ∧ (schemaVersion f = schemaVersion g → f = g)

/-- **One canonical value, one record.** -/
theorem eq_of_canonicalObject {φ : Type} {items : φ → Text → List (Text × Json)}
    {schemaVersion : φ → SchemaVersion} [Shows schemaVersion items] {f g : φ} {value : Json}
    (hf : canonicalObject (schemaVersion f) (items f) = .ok value)
    (hg : canonicalObject (schemaVersion g) (items g) = .ok value) : f = g := by
  obtain ⟨s, t, hs, ht, hitems⟩ := canonicalObject_eq hf hg
  obtain ⟨rfl, heq⟩ := ‹Shows schemaVersion items›.shown f g s t hitems
  exact heq (SchemaVersion.str_inj hs ht)

instance ProtectionIntentFields.instShows : Shows schemaVersion canonicalItems := ⟨by
  rintro ⟨⟩ ⟨⟩ s t h
  simp_all [canonicalItems]⟩

instance ProtectionMandateFields.instShows : Shows schemaVersion canonicalItems := ⟨by
  rintro ⟨⟩ ⟨⟩ s t h
  simp_all [canonicalItems]⟩

instance ExecutionPlanFields.instShows : Shows schemaVersion canonicalItems := ⟨by
  rintro ⟨⟩ ⟨⟩ s t h
  simp_all [canonicalItems]⟩

instance StopPolicyFields.instShows : Shows schemaVersion canonicalItems := ⟨by
  rintro ⟨⟩ ⟨⟩ s t h
  simp_all [canonicalItems]⟩

instance OrderFields.instShows : Shows schemaVersion canonicalItems := ⟨by
  rintro ⟨⟩ ⟨⟩ s t h
  simp_all [canonicalItems]⟩

instance FillFields.instShows : Shows schemaVersion canonicalItems := ⟨by
  rintro ⟨⟩ ⟨⟩ s t h
  simp_all [canonicalItems]⟩

instance PositionLotFields.instShows : Shows schemaVersion canonicalItems := ⟨by
  rintro ⟨⟩ ⟨⟩ s t h
  simp_all [canonicalItems]⟩

instance LedgerEntryFields.instShows : Shows schemaVersion canonicalItems := ⟨by
  rintro ⟨⟩ ⟨⟩ s t h
  simp_all [canonicalItems]⟩

instance SettlementFields.instShows : Shows schemaVersion canonicalItems := ⟨by
  rintro ⟨⟩ ⟨⟩ s t h
  simp_all [canonicalItems]⟩

instance ModeBindingFields.instShows : Shows schemaVersion canonicalItems := ⟨by
  rintro ⟨⟩ ⟨⟩ s t h
  simp_all [canonicalItems]⟩

end

namespace Fact

/-- `_object_identity` -/
def identity : Fact → Py EntityId
  | protectionIntent x => .ok x.fields.intentId
  | tradePlan x => .ok x.fields.planId
  | riskDecision x => .ok x.fields.planId
  | protectionMandate x => .ok x.fields.planId
  | executionPlan x => .ok x.fields.planId
  | stopPolicy x => .ok x.fields.policyId
  | order x => .ok x.fields.executionPlanId
  | fill x => .ok x.fields.orderId
  | positionLot x => .ok x.fields.lotId
  | ledgerEntry x => .ok x.fields.entryId
  | settlement x => .ok x.fields.settlementId
  | mandate x => .ok x.fields.mandateId
  | modeBinding x =>
    match x.fields.mandateId with
    | some id => .ok id
    | none => .error (typeError "V2 fact has no canonical identity")
  | planApproval x => .ok x.fields.planId
  | authorizationBasis x => .ok x.fields.planId
  | reservation x => .ok x.fields.planId
  | receipt x => .ok x.fields.planId
  | gateRequest x => .ok x.fields.planId

/-- `_object_version`; some records have no attribute `version`. -/
def version : Fact → Py ℤ
  | protectionIntent x => .ok x.fields.version
  | tradePlan x => .ok x.fields.version
  | riskDecision x => .ok x.fields.version
  | protectionMandate x => .ok x.fields.version
  | executionPlan x => .ok x.fields.version
  | stopPolicy x => .ok x.fields.version
  | order x => .ok x.fields.version
  | fill x => .ok x.fields.version
  | positionLot x => .ok x.fields.version
  | ledgerEntry x => .ok x.fields.version
  | settlement x => .ok x.fields.version
  | mandate x => .ok x.fields.version
  | modeBinding x => .ok x.fields.version
  | planApproval x => .ok x.fields.version
  | reservation x => .ok x.fields.version
  | authorizationBasis _ | receipt _ | gateRequest _ =>
    .error (valueError "V2 fact requires a positive version")

/-- The attribute that `_object_hash` finds first. -/
def hashSource [Hashlib] : Fact → HashSource
  | protectionIntent x =>
    .canonical (canonicalObject x.fields.schemaVersion x.fields.canonicalItems)
  | tradePlan x => .planHash x.planHash
  -- the checks of a risk decision ask for a plan hash
  | riskDecision x => .planHash (.ok (x.fields.planHash.getD []))
  | protectionMandate x =>
    .canonical (canonicalObject x.fields.schemaVersion x.fields.canonicalItems)
  | executionPlan x =>
    match x.fields.planHash with
    | some digest => .planHash (.ok digest)
    | none => .canonical (canonicalObject x.fields.schemaVersion x.fields.canonicalItems)
  | stopPolicy x => .canonical (canonicalObject x.fields.schemaVersion x.fields.canonicalItems)
  | order x => .canonical (canonicalObject x.fields.schemaVersion x.fields.canonicalItems)
  | fill x => .canonical (canonicalObject x.fields.schemaVersion x.fields.canonicalItems)
  | positionLot x => .canonical (canonicalObject x.fields.schemaVersion x.fields.canonicalItems)
  | ledgerEntry x => .canonical (canonicalObject x.fields.schemaVersion x.fields.canonicalItems)
  | settlement x => .canonical (canonicalObject x.fields.schemaVersion x.fields.canonicalItems)
  | mandate x => .authorizationHash x
  | modeBinding x => .canonical (canonicalObject x.fields.schemaVersion x.fields.canonicalItems)
  | planApproval x => .planHash (.ok x.fields.planHash)
  | authorizationBasis x => .planHash (.ok x.fields.planHash)
  | reservation x => .planHash (.ok x.fields.planHash)
  | receipt x => .planHash (.ok x.fields.planHash)
  | gateRequest x => .planHash (.ok x.fields.planHash)

def objectHash [Hashlib] (f : Fact) : Py Text := f.hashSource.digest

/-- The first field of the class, for the classes that may have no hash attribute. -/
def firstField : Fact → Text
  | protectionIntent _ => "stop_price"
  | protectionMandate _ => "mandate_id"
  | executionPlan _ => "execution_plan_id"
  | stopPolicy _ => "policy_id"
  | order _ => "order_id"
  | fill _ => "fill_id"
  | positionLot _ => "lot_id"
  | ledgerEntry _ => "entry_id"
  | settlement _ => "settlement_id"
  | modeBinding _ => "binding_id"
  | _ => []

theorem head_of_canonical [Hashlib] {f : Fact} {value : Json}
    (h : f.hashSource = .canonical (.ok value)) :
    ∃ v rest, value = .obj ((f.firstField, v) :: rest) := by
  have hobj : ∀ {schemaVersion : SchemaVersion} {items : Text → List (Text × Json)},
      canonicalObject schemaVersion items = .ok value → ∃ t, value = .obj (items t) := by
    intro schemaVersion items h
    obtain ⟨t, -, h⟩ := Py.of_bind h
    exact ⟨t, (Except.ok.inj h).symm⟩
  cases f with
  | executionPlan x =>
    simp only [hashSource] at h
    split at h
    · cases h
    · obtain ⟨t, rfl⟩ := hobj (HashSource.canonical.inj h)
      exact ⟨_, _, rfl⟩
  | protectionIntent x | protectionMandate x | stopPolicy x | order x | fill x | positionLot x
  | ledgerEntry x | settlement x | modeBinding x =>
    obtain ⟨t, rfl⟩ := hobj (HashSource.canonical.inj h)
    exact ⟨_, _, rfl⟩
  | tradePlan x | riskDecision x | mandate x | planApproval x | authorizationBasis x
  | reservation x | receipt x | gateRequest x => cases h

theorem eq_of_canonical [Hashlib] {f g : Fact} {value : Json}
    (hf : f.hashSource = .canonical (.ok value)) (hg : g.hashSource = .canonical (.ok value)) :
    f = g := by
  have hfirst : f.firstField = g.firstField := by
    obtain ⟨v, rest, rfl⟩ := head_of_canonical hf
    obtain ⟨w, rest', heq⟩ := head_of_canonical hg
    injection heq with heq
    injection heq with heq
    exact congrArg Prod.fst heq
  cases f with
  | executionPlan x =>
    cases g with
    | executionPlan y =>
      simp only [hashSource] at hf hg
      split at hf
      · cases hf
      split at hg
      · cases hg
      exact congrArg _ (Frozen.ext (eq_of_canonicalObject (HashSource.canonical.inj hf)
        (HashSource.canonical.inj hg)))
    | _ =>
      simp only [firstField] at hfirst
      exact absurd hfirst (by decide)
  | protectionIntent x | protectionMandate x | stopPolicy x | order x | fill x | positionLot x
  | ledgerEntry x | settlement x | modeBinding x =>
    -- another class has another first field
    cases g <;> first
      | simp only [firstField] at hfirst
        exact absurd hfirst (by decide)
      | exact congrArg _ (Frozen.ext (eq_of_canonicalObject (HashSource.canonical.inj hf)
          (HashSource.canonical.inj hg)))
  | tradePlan x | riskDecision x | mandate x | planApproval x | authorizationBasis x
  | reservation x | receipt x | gateRequest x => cases hf

end Fact

/-! ### References -/

structure ContractReferenceFields where
  entityId : EntityId
  version : ℤ
  contentHash : Text
  deriving DecidableEq

def ContractReferenceFields.postInit (f : ContractReferenceFields) : Py Unit := do
  checkVersion f.version "reference"
  checkHash f.contentHash "reference content_hash"

instance : Dataclass ContractReferenceFields := ⟨ContractReferenceFields.postInit⟩

/-- A reference to an immutable fact. -/
abbrev ContractReference := Frozen ContractReferenceFields

def ContractReference.forFact [Hashlib] (f : Fact) : Py ContractReference := do
  let entityId ← f.identity
  let version ← f.version
  let contentHash ← f.objectHash
  Frozen.make ⟨entityId, version, contentHash⟩

theorem ContractReference.forFact_eq_ok [Hashlib] {f : Fact} {r : ContractReference} :
    ContractReference.forFact f = .ok r ↔ f.identity = .ok r.fields.entityId
      ∧ f.version = .ok r.fields.version ∧ f.objectHash = .ok r.fields.contentHash := by
  unfold ContractReference.forFact
  constructor
  · intro h
    obtain ⟨entityId, hid, h⟩ := Py.of_bind h
    obtain ⟨version, hversion, h⟩ := Py.of_bind h
    obtain ⟨contentHash, hhash, h⟩ := Py.of_bind h
    rw [Frozen.make_eq_ok] at h
    rw [h]
    exact ⟨hid, hversion, hhash⟩
  · rintro ⟨hid, hversion, hhash⟩
    rw [hid, hversion, hhash]
    exact Frozen.make_eq_ok.mpr rfl

end FuturesAgentOs
