import FuturesAgentOs.Decision.Common
import FuturesAgentOs.SharedKernel.IsoTime
import FuturesAgentOs.SharedKernel.Observability

namespace FuturesAgentOs

open PyModel

/-!
# Trade plans

`decision/trade_contracts.py`: a plan and its protection intent.  Identifiers and times that the
source draws by default are given here.
-/

structure ProtectionIntentFields where
  stopPrice : Decimal
  maxLoss : Decimal
  takeProfitPrice : Option Decimal := none
  timeLimitAt : Option RecordedAt := none
  intentId : EntityId
  createdAt : RecordedAt
  version : ℤ := 1
  schemaVersion : SchemaVersion := v2ContractSchema
  sourceRef : Text := "source:v2"
  deriving DecidableEq

/-- A decimal field is a positive finite `Decimal`. -/
def checkPositiveFinite (value : Decimal) (label : Text) : Py Unit :=
  require (Decimal.ofNat 0 < value)
    (valueError (label ++ Text.ofString " must be a positive finite Decimal"))

def ProtectionIntentFields.postInit (f : ProtectionIntentFields) : Py Unit := do
  checkNamespace f.intentId "protection_intent" "intent_id"
  checkVersion f.version "protection intent"
  checkText f.sourceRef "source_ref"
  checkPositiveFinite f.stopPrice "stop_price"
  checkPositiveFinite f.maxLoss "max_loss"
  whenSome f.takeProfitPrice (fun price => checkPositiveFinite price "take_profit_price")
  whenSome f.timeLimitAt (fun limit => require (f.createdAt < limit)
    (valueError "time limit must follow protection intent creation"))

instance : Dataclass ProtectionIntentFields := ⟨ProtectionIntentFields.postInit⟩

/-- How a plan wants to be protected. -/
abbrev ProtectionIntent := Frozen ProtectionIntentFields

inductive TradeAction where
  | OPEN | REDUCE | CLOSE
  deriving DecidableEq

def TradeAction.value : TradeAction → Text
  | OPEN => "OPEN"
  | REDUCE => "REDUCE"
  | CLOSE => "CLOSE"

inductive TradePlanStatus where
  | DRAFT | VALIDATED | REJECTED | STALE
  deriving DecidableEq

structure TradePlanFields where
  planId : EntityId
  accountId : EntityId
  instrument : Text
  strategyRef : Text
  action : TradeAction
  direction : TradeDirection
  quantity : Decimal
  entryPrice : Decimal
  protection : ProtectionIntent
  thesis : Text
  invalidation : Text
  evidenceRefs : List Text
  snapshotRef : Text
  expiresAt : RecordedAt
  version : ℤ := 1
  status : TradePlanStatus := .DRAFT
  createdAt : RecordedAt
  schemaVersion : SchemaVersion := v2ContractSchema
  sourceRef : Text := "source:v2"
  deriving DecidableEq

namespace TradePlanFields

/-- The stop of an opening plan is on the losing side of its entry. -/
def checkStop (f : TradePlanFields) : Py Unit :=
  match f.action, f.direction with
  | .OPEN, .LONG => require (f.protection.fields.stopPrice < f.entryPrice)
      (valueError "long protection stop must be below entry")
  | .OPEN, .SHORT => require (f.entryPrice < f.protection.fields.stopPrice)
      (valueError "short protection stop must be above entry")
  | _, _ => .ok ()

def postInit (f : TradePlanFields) : Py Unit := do
  checkNamespace f.planId "trade_plan" "plan_id"
  checkNamespace f.accountId "simulation_account" "account_id"
  checkText f.sourceRef "source_ref"
  checkText f.instrument "instrument"
  checkText f.strategyRef "strategy_ref"
  checkText f.snapshotRef "snapshot_ref"
  checkPositiveFinite f.quantity "quantity"
  checkPositiveFinite f.entryPrice "entry_price"
  require (f.thesis.strip ≠ []) (valueError "thesis must be non-empty")
  require (f.invalidation.strip ≠ []) (valueError "invalidation must be non-empty")
  require (f.evidenceRefs ≠ []) (valueError "trade plan requires immutable evidence references")
  f.evidenceRefs.forM (fun ref => checkText ref "evidence_ref")
  f.evidenceRefs.forM (fun ref => checkHash ref "evidence_ref")
  require (f.createdAt < f.expiresAt) (valueError "trade plan expiry must be after creation")
  require (1 ≤ f.version) (valueError "version must be positive")
  f.checkStop

instance : Dataclass TradePlanFields := ⟨postInit⟩

end TradePlanFields

/-- A versioned trade intent with no execution authority. -/
abbrev TradePlan := Frozen TradePlanFields

namespace TradePlan

variable (p : TradePlan)

/-- What a plan hash covers; `status`, `created_at` and the identity of the protection intent are
left out. -/
def hashedItems (schemaVersion protectionSchema : Text) : List (Text × Json) := [
  ("plan_id", .str p.fields.planId.str),
  ("account_id", .str p.fields.accountId.str),
  ("instrument", .str p.fields.instrument),
  ("strategy_ref", .str p.fields.strategyRef),
  ("action", .str p.fields.action.value),
  ("direction", .str p.fields.direction.value),
  ("quantity", .str p.fields.quantity.str),
  ("entry_price", .str p.fields.entryPrice.str),
  ("protection", .obj [
    ("stop_price", .str p.fields.protection.fields.stopPrice.str),
    ("max_loss", .str p.fields.protection.fields.maxLoss.str),
    ("take_profit_price",
      ((p.fields.protection.fields.takeProfitPrice.map Decimal.str).map .str).getD .null),
    ("time_limit_at",
      ((p.fields.protection.fields.timeLimitAt.map RecordedAt.text).map .str).getD .null),
    ("schema_version", .str protectionSchema),
    ("source_ref", .str p.fields.protection.fields.sourceRef)]),
  ("thesis", .str p.fields.thesis),
  ("invalidation", .str p.fields.invalidation),
  ("evidence_refs", .arr (p.fields.evidenceRefs.map .str)),
  ("snapshot_ref", .str p.fields.snapshotRef),
  ("expires_at", .str p.fields.expiresAt.text),
  ("version", .int p.fields.version),
  ("schema_version", .str schemaVersion),
  ("source_ref", .str p.fields.sourceRef)]

/-- The value whose digest is the plan hash. -/
def hashedValue : Py Json := do
  let protectionSchema ← p.fields.protection.fields.schemaVersion.str
  let schemaVersion ← p.fields.schemaVersion.str
  .ok (.obj (p.hashedItems schemaVersion protectionSchema))

def planHash [Hashlib] : Py Text := p.hashedValue >>= canonicalSha256

end TradePlan

end FuturesAgentOs
