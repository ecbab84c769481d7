import FuturesAgentOs.Decision.Order
import FuturesAgentOs.Decision.Position
import FuturesAgentOs.SharedKernel.Observability

namespace FuturesAgentOs

open PyModel

/-!
# The paper connector

`execution_simulation/paper_adapter.py`: what an external venue reports about one order, and the
comparison of such a report with the order and the fills of this system.

* `PaperTradingAdapter.reconcileState` — the comparison.
-/

/-! ### Kinds -/

inductive ExternalStatus where
  | ACCEPTED
  | WORKING
  | PARTIALLY_FILLED
  | FILLED
  | CANCELED
  | REJECTED
  | UNKNOWN
  deriving DecidableEq

inductive ConnectorHealth where
  | HEALTHY
  | DEGRADED
  | UNKNOWN
  deriving DecidableEq

def ConnectorHealth.value : ConnectorHealth → Text
  | HEALTHY => "HEALTHY"
  | DEGRADED => "DEGRADED"
  | UNKNOWN => "UNKNOWN"

inductive ReconciliationOutcome where
  | MATCHED
  | MISMATCH
  | UNKNOWN
  | DEGRADED
  | UNSUPPORTED
  deriving DecidableEq

def statusMap : ExternalStatus → List OrderStatus
  | .ACCEPTED => [.ACCEPTED, .WORKING]
  | .WORKING => [.WORKING]
  | .PARTIALLY_FILLED => [.PARTIALLY_FILLED]
  | .FILLED => [.FILLED]
  | .CANCELED => [.CANCELLED]
  | .REJECTED => [.REJECTED]
  | .UNKNOWN => []

/-- `_canonical_text` -/
def checkCanonicalText (value label : Text) : Py Unit :=
  require value.IsStripped (valueError (label ++ Text.ofString " must be canonical non-empty text"))

/-- `_quantity` -/
def checkQuantity (value : Decimal) (label : Text) : Py Unit :=
  require (Decimal.ofNat 0 ≤ value)
    (valueError (label ++ Text.ofString " must be a non-negative finite Decimal"))

@[simp] theorem checkQuantity_eq_ok {value : Decimal} {label : Text} {u : Unit} :
    checkQuantity value label = .ok u ↔ Decimal.ofNat 0 ≤ value := require_eq_ok

/-! ### What a connector can do -/

structure AdapterCapabilitiesFields where
  name : Text
  version : Text
  supportsPartialFills : Bool
  supportsCancel : Bool
  limitations : List Text
  fidelity : Text := "L5_PAPER"
  documentationUrl : Text := "local://paper-adapter"
  verifiedAt : Text := "UNVERIFIED"
  deriving DecidableEq

def AdapterCapabilitiesFields.postInit (f : AdapterCapabilitiesFields) : Py Unit := do
  checkCanonicalText f.name "name"
  checkCanonicalText f.version "version"
  checkCanonicalText f.fidelity "fidelity"
  checkCanonicalText f.documentationUrl "documentation_url"
  checkCanonicalText f.verifiedAt "verified_at"
  require (f.fidelity = "L5_PAPER") (valueError "paper connector cannot claim L3/L4 fidelity")
  require (f.limitations ≠ [])
    (valueError "adapter capabilities require explicit limitations")
  require (∀ item ∈ f.limitations, item.strip ≠ [])
    (valueError "adapter limitations must be non-empty text")

instance : Dataclass AdapterCapabilitiesFields := ⟨AdapterCapabilitiesFields.postInit⟩

/-- The manifest of a connector. -/
abbrev AdapterCapabilities := Frozen AdapterCapabilitiesFields

namespace AdapterCapabilities

variable (c : AdapterCapabilities)

/-- What `digest` hashes. -/
def manifest : Json := .obj [
  ("name", .str c.fields.name),
  ("version", .str c.fields.version),
  ("supports_partial_fills", .bool c.fields.supportsPartialFills),
  ("supports_cancel", .bool c.fields.supportsCancel),
  ("limitations", .arr (c.fields.limitations.map Json.str)),
  ("fidelity", .str c.fields.fidelity),
  ("documentation_url", .str c.fields.documentationUrl),
  ("verified_at", .str c.fields.verifiedAt)]

def digest [Hashlib] : Py Text := canonicalSha256 c.manifest

theorem exists_digest [Hashlib] : ∃ t, c.digest = .ok t := by
  have hlimitations : Json.areWritable (c.fields.limitations.map Json.str) = true := by
    rw [Json.areWritable_iff]
    intro v hv
    obtain ⟨t, -, rfl⟩ := List.mem_map.mp hv
    rfl
  have hwritable : c.manifest.isWritable = true := by
    simp only [manifest, Json.isWritable, Json.membersWritable, hlimitations, Bool.and_self]
  obtain ⟨t, ht, -⟩ := exists_canonicalSha256_of_isWritable hwritable
  exact ⟨t, ht⟩

end AdapterCapabilities

/-! ### What a venue reports -/

structure ExternalFillFields where
  externalFillId : Text
  orderId : Text
  instrument : Text
  direction : TradeDirection
  quantity : Decimal
  price : Decimal
  fee : Decimal
  filledAt : RecordedAt
  deriving DecidableEq

def ExternalFillFields.postInit (f : ExternalFillFields) : Py Unit := do
  checkCanonicalText f.externalFillId "external_fill_id"
  checkCanonicalText f.orderId "order_id"
  checkCanonicalText f.instrument "instrument"
  checkQuantity f.quantity "fill quantity"
  require (¬ f.quantity.numEq (Decimal.ofNat 0)) (valueError "fill quantity must be positive")
  checkQuantity f.price "fill price"
  require (¬ f.price.numEq (Decimal.ofNat 0)) (valueError "fill price must be positive")
  checkQuantity f.fee "fill fee"

instance : Dataclass ExternalFillFields := ⟨ExternalFillFields.postInit⟩

/-- A fill as the venue reports it. -/
abbrev ExternalFill := Frozen ExternalFillFields

/-- The fields of an `ExternalExecution`.  A quantity given as an `int` is taken as the `Decimal`
that it is turned into. -/
structure ExternalExecutionFields where
  orderId : Text
  status : ExternalStatus
  filledQuantity : Decimal
  quantity : Option Decimal := none
  fills : List ExternalFill := []
  observedAt : Option RecordedAt := none
  deriving DecidableEq

def ExternalExecutionFields.postInit (f : ExternalExecutionFields) : Py Unit := do
  checkCanonicalText f.orderId "external order_id"
  checkQuantity f.filledQuantity "external filled_quantity"
  whenSome f.quantity (fun quantity => do
    checkQuantity quantity "external quantity"
    require (f.filledQuantity ≤ quantity) (valueError "external fill cannot exceed order quantity"))

instance : Dataclass ExternalExecutionFields := ⟨ExternalExecutionFields.postInit⟩

/-- The state of an order as the venue reports it. -/
abbrev ExternalExecution := Frozen ExternalExecutionFields

/-! ### The answer -/

structure ReconciliationFields where
  orderId : Text
  status : ExternalStatus
  matched : Bool
  reason : Text
  outcome : ReconciliationOutcome := .MATCHED
  discrepancies : List Text := []
  importedFills : List Fill := []
  connectorHealth : ConnectorHealth := .HEALTHY
  canAssumeSuccess : Bool := true
  manifestDigest : Text := []
  deriving DecidableEq

def ReconciliationFields.postInit (f : ReconciliationFields) : Py Unit := do
  require (f.matched = decide (f.outcome = .MATCHED))
    (valueError "matched flag must agree with reconciliation outcome")
  require (f.canAssumeSuccess = f.matched)
    (valueError "only a matched reconciliation may assume success")

instance : Dataclass ReconciliationFields := ⟨ReconciliationFields.postInit⟩

/-- The outcome of a comparison. -/
abbrev Reconciliation := Frozen ReconciliationFields

/-- `if c: discrepancies.append(name)` -/
def appendIf (c : Prop) [Decidable c] (name : Text) : List Text := if c then [name] else []

@[simp] theorem appendIf_eq_nil {c : Prop} [Decidable c] {name : Text} :
    appendIf c name = [] ↔ ¬ c := by
  unfold appendIf
  split <;> simp_all

/-! ### The connector -/

/-- A connector, by its manifest. -/
structure PaperTradingAdapter where
  capabilities : AdapterCapabilities

namespace PaperTradingAdapter

variable [Hashlib] (ctx : DecimalContext) (a : PaperTradingAdapter)

/-- `source_ref` of the fills that are imported. -/
def sourceRef : Text :=
  Text.ofString "l5:" ++ (a.capabilities.fields.name
    ++ (Text.ofString ":" ++ a.capabilities.fields.version))

/-- The fill that one external fill is normalized to. -/
def importedFill (order : Order) (external : ExternalExecution) (fill : ExternalFill) :
    Py Fill := do
  require (fill.fields.orderId = external.fields.orderId
      ∧ fill.fields.instrument = order.fields.instrument
      ∧ fill.fields.direction = order.fields.direction)
    (valueError "EXTERNAL_FILL_CONTRACT_MISMATCH")
  let manifest ← a.capabilities.digest
  let seed ← canonicalSha256 (.obj [
    ("manifest", .str manifest),
    ("external_fill_id", .str fill.fields.externalFillId),
    ("external_order_id", .str external.fields.orderId)])
  let fillId ← EntityId.deterministic "fill" seed
  Frozen.make {
    fillId := fillId
    orderId := order.fields.orderId
    instrument := order.fields.instrument
    direction := order.fields.direction
    quantity := fill.fields.quantity
    price := fill.fields.price
    fee := fill.fields.fee
    filledAt := fill.fields.filledAt
    schemaVersion := order.fields.schemaVersion
    sourceRef := a.sourceRef }

def normalizeExternalFills (order : Order) (external : ExternalExecution) : Py (List Fill) := do
  require (external.fields.status ≠ .UNKNOWN) (valueError "UNKNOWN_EXTERNAL_STATE")
  let total ← ctx.sum (external.fields.fills.map (·.fields.quantity))
  require (total.numEq external.fields.filledQuantity) (valueError "EXTERNAL_FILL_ORDER_MISMATCH")
  require ((external.fields.fills.map (·.fields.externalFillId)).Nodup)
    (valueError "DUPLICATE_EXTERNAL_FILL")
  external.fields.fills.mapM (a.importedFill order external)

def success (orderId : Text) (external : ExternalExecution) (imported : List Fill) :
    Py Reconciliation := do
  let manifestDigest ← a.capabilities.digest
  Frozen.make {
    orderId := orderId
    status := external.fields.status
    matched := true
    reason := "MATCHED"
    importedFills := imported
    manifestDigest := manifestDigest }

def failure (orderId : Text) (external : ExternalExecution) (outcome : ReconciliationOutcome)
    (reason : Text) (discrepancies : List Text := []) (health : ConnectorHealth := .HEALTHY) :
    Py Reconciliation := do
  let manifestDigest ← a.capabilities.digest
  Frozen.make {
    orderId := orderId
    status := external.fields.status
    matched := false
    reason := reason
    outcome := outcome
    discrepancies := if discrepancies = [] then [reason] else discrepancies
    connectorHealth := health
    canAssumeSuccess := false
    manifestDigest := manifestDigest }

/-- The `discrepancies` of an order and a report of a known quantity, in the order in which they
are found. -/
def discrepancies (order : Order) (fills : List Fill) (external : ExternalExecution)
    (quantity : Decimal) : Py (List Text) := do
  let localFillQuantity ← ctx.sum (fills.map (·.fields.quantity))
  let externalFillQuantity ← ctx.sum (external.fields.fills.map (·.fields.quantity))
  .ok (appendIf (¬ quantity.numEq order.fields.quantity) "ORDER_QUANTITY_MISMATCH"
    ++ appendIf (order.fields.status ∉ statusMap external.fields.status) "ORDER_STATUS_MISMATCH"
    ++ appendIf (¬ localFillQuantity.numEq order.fields.filledQuantity) "LOCAL_FILL_ORDER_MISMATCH"
    ++ appendIf (¬ externalFillQuantity.numEq external.fields.filledQuantity)
      "EXTERNAL_FILL_ORDER_MISMATCH"
    ++ appendIf (¬ order.fields.filledQuantity.numEq external.fields.filledQuantity)
      "CROSS_SYSTEM_FILL_MISMATCH"
    ++ appendIf (¬ (fills.map (·.fields.fillId)).Nodup) "DUPLICATE_LOCAL_FILL"
    ++ fills.flatMap (fun fill =>
      appendIf (fill.fields.orderId ≠ order.fields.orderId) "LOCAL_FILL_ORDER_ID_MISMATCH"
      ++ appendIf (fill.fields.instrument ≠ order.fields.instrument
        ∨ fill.fields.direction ≠ order.fields.direction) "LOCAL_FILL_CONTRACT_MISMATCH")
    ++ appendIf (¬ (external.fields.fills.map (·.fields.externalFillId)).Nodup)
      "DUPLICATE_EXTERNAL_FILL"
    ++ external.fields.fills.flatMap (fun fill =>
      appendIf (fill.fields.orderId ≠ external.fields.orderId) "EXTERNAL_FILL_ORDER_ID_MISMATCH"
      ++ appendIf (fill.fields.instrument ≠ order.fields.instrument
        ∨ fill.fields.direction ≠ order.fields.direction) "EXTERNAL_FILL_CONTRACT_MISMATCH"))

def reconcileState (order : Order) (fills : List Fill) (external : ExternalExecution)
    (externalOrderId : Text) (health : ConnectorHealth := .HEALTHY) : Py Reconciliation :=
  let orderId := order.fields.orderId.str
  if health ≠ .HEALTHY then
    a.failure orderId external (if health = .DEGRADED then .DEGRADED else .UNKNOWN)
      (Text.ofString "CONNECTOR_" ++ health.value) [] health
  else if external.fields.status = .UNKNOWN then
    a.failure orderId external .UNKNOWN "UNKNOWN_EXTERNAL_STATE"
  else if external.fields.orderId ≠ externalOrderId then
    a.failure orderId external .MISMATCH "ORDER_ID_MAPPING_MISMATCH"
  else
    match external.fields.quantity with
    | none => a.failure orderId external .UNKNOWN "EXTERNAL_ORDER_QUANTITY_UNKNOWN"
    | some quantity =>
      if a.capabilities.fields.supportsPartialFills = false
          ∧ Decimal.ofNat 0 < external.fields.filledQuantity
          ∧ external.fields.filledQuantity < quantity then
        a.failure orderId external .UNSUPPORTED "UNSUPPORTED_PARTIAL_FILL"
      else do
        let discrepancies ← discrepancies ctx order fills external quantity
        match discrepancies with
        | first :: rest =>
          a.failure orderId external .MISMATCH first (first :: rest).eraseDups
        | [] => do
          let imported ← a.normalizeExternalFills ctx order external
          a.success orderId external imported

end PaperTradingAdapter

end FuturesAgentOs
