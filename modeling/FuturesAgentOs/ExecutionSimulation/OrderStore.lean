import FuturesAgentOs.ExecutionSimulation.OrderProcessor
import FuturesAgentOs.SharedKernel.IsoTime
import FuturesAgentOs.SharedKernel.JsonObject

namespace FuturesAgentOs

open PyModel

/-!
# The durable order state

`execution_simulation/order_processor.py`, `DurableOrderCommandProcessor`: the JSON envelope
that `_persist` writes into the file and that `_load` reads.

* `orderFromPayload`, `commandResultFromPayload`, `load` — reading.

The fields are read through `str`, so which characters beyond ASCII are printable is a
parameter.
-/

/-! ### Writing -/

/-- `str(price) if price is not None else None` -/
def priceToPayload : Option Decimal → Json
  | some price => .str price.str
  | none => .null

def orderToPayload (order : Order) : Py Json := do
  let schemaVersion ← order.fields.schemaVersion.str
  .ok (.obj [
    ("order_id", .str order.fields.orderId.str),
    ("execution_plan_id", .str order.fields.executionPlanId.str),
    ("instrument", .str order.fields.instrument),
    ("direction", .str order.fields.direction.value),
    ("quantity", .str order.fields.quantity.str),
    ("status", .str order.fields.status.value),
    ("filled_quantity", .str order.fields.filledQuantity.str),
    ("limit_price", priceToPayload order.fields.limitPrice),
    ("stop_price", priceToPayload order.fields.stopPrice),
    ("created_at", .str order.fields.createdAt.text),
    ("version", .int order.fields.version),
    ("schema_version", .str schemaVersion),
    ("source_ref", .str order.fields.sourceRef)])

/-- A value that may be `None`. -/
def optionToPayload {α : Type} (toPayload : α → Py Json) : Option α → Py Json
  | some a => toPayload a
  | none => .ok .null

def commandResultToPayload (result : OrderCommandResult) : Py Json := do
  let order ← optionToPayload orderToPayload result.order
  let reason ← optionToPayload (fun reason => .ok (.str reason)) result.reason
  let eventSequence ← optionToPayload (fun n => .ok (.int n)) result.eventSequence
  .ok (.obj [
    ("command_id", .str result.commandId),
    ("accepted", .bool result.accepted),
    ("order", order),
    ("reason", reason),
    ("event_sequence", eventSequence)])

/-- A fingerprint of a snapshot as a list of three texts. -/
def fingerprintToPayload (item : Text × Text × Text) : Json :=
  .arr [.str item.1, .str item.2.1, .str item.2.2]

namespace OrderCommandProcessor

def payload (p : OrderCommandProcessor) : Py Json := do
  let snapshot := p.snapshot
  let orders ← snapshot.orders.mapM orderToPayload
  let commands ← snapshot.commands.mapM commandResultToPayload
  .ok (.obj [
    ("orders", .arr orders),
    ("commands", .arr commands),
    ("command_fingerprints", .arr (snapshot.commandFingerprints.map fingerprintToPayload)),
    ("last_event_sequence", .int snapshot.lastEventSequence)])

/-- The envelope of a payload and its digest. -/
def envelope (payload : Json) (digest : Text) : Json :=
  .obj [("schema", .str "v2.order-command.1"), ("payload", payload), ("digest", .str digest)]

/-- `_persist`, the text that it writes into the file. -/
def persist [Hashlib] (p : OrderCommandProcessor) : Py Text := do
  let payload ← p.payload
  let digest ← canonicalSha256 payload
  match (envelope payload digest).dumps with
  | none => .error (valueError "Exceeds the limit (4300 digits) for integer string conversion")
  | some encoded => .ok encoded

end OrderCommandProcessor

/-! ### Reading -/

/-- `OrderStatus(t)` -/
def OrderStatus.ofValue (t : Text) : Py OrderStatus :=
  match [OrderStatus.CREATED, .ACCEPTED, .WORKING, .PARTIALLY_FILLED, .FILLED, .CANCELLED, .EXPIRED,
      .REJECTED].find? (fun status => status.value = t) with
  | some status => .ok status
  | none => .error (valueError "not a valid OrderStatus")

/-- `finiteDecimal` of a price that may be `None`. -/
def finitePrice (d : Option Decimal.Parsed) (e : PyException) : Py (Option Decimal) :=
  match d with
  | some (.finite d) => .ok (some d)
  | some .special => .error e
  | none => .ok none

section

variable (isPrintable : CodePoint → Bool)

/-- `Decimal(str(items[key])) if items[key] is not None else None` -/
def priceFromPayload (items : List (Text × Json)) (key : Text) : Py (Option Decimal.Parsed) := do
  match ← Json.item items key with
  | .null => .ok none
  | v => (decimalOfStr (v.toStr isPrintable)).map some

/-- The fields of an order in a payload. -/
def orderKeys : List Text :=
  ["order_id", "execution_plan_id", "instrument", "direction", "quantity", "status",
    "filled_quantity", "limit_price", "stop_price", "created_at", "version", "schema_version",
    "source_ref"]

/-- An order of the items of a payload. -/
def orderFromItems (items : List (Text × Json)) : Py Order := do
  let orderId ← strItem isPrintable items "order_id" >>= EntityId.parse
  let executionPlanId ← strItem isPrintable items "execution_plan_id" >>= EntityId.parse
  let instrument ← strItem isPrintable items "instrument"
  let direction ← strItem isPrintable items "direction" >>= TradeDirection.ofValue
  let quantity ← strItem isPrintable items "quantity" >>= decimalOfStr
  let status ← strItem isPrintable items "status" >>= OrderStatus.ofValue
  let filledQuantity ← strItem isPrintable items "filled_quantity" >>= decimalOfStr
  let limitPrice ← priceFromPayload isPrintable items "limit_price"
  let stopPrice ← priceFromPayload isPrintable items "stop_price"
  let createdAt ← strItem isPrintable items "created_at" >>= RecordedAt.parse
  let version ← strItem isPrintable items "version" >>= intOfStr
  let schemaVersion ← strItem isPrintable items "schema_version" >>= SchemaVersion.parse
  let sourceRef ← strItem isPrintable items "source_ref"
  -- the checks of an order raise `ValueError` only, so that it does not matter here which is first
  let quantity ← finiteDecimal quantity (valueError "quantity must be finite and non-negative")
  let filledQuantity ← finiteDecimal filledQuantity
    (valueError "filled_quantity must be finite and non-negative")
  let limitPrice ← finitePrice limitPrice (valueError "limit_price must be positive when provided")
  let stopPrice ← finitePrice stopPrice (valueError "stop_price must be positive when provided")
  Frozen.make
    { orderId, executionPlanId, instrument, direction, quantity, status, filledQuantity, limitPrice,
      stopPrice, createdAt, version, schemaVersion, sourceRef }

def orderFromPayload : Json → Py Order
  | .obj items =>
    if Json.keysAre items orderKeys then orderFromItems isPrintable items
    else .error (valueError "durable order fields are not exact")
  | _ => .error (valueError "durable order must be an object")

/-- A value that may be `None`. -/
def optionFromPayload {α : Type} (fromPayload : Json → Py α) : Json → Py (Option α)
  | .null => .ok none
  | v => (fromPayload v).map some

/-- The flag of a command result. -/
def acceptedFromPayload : Json → Py Bool
  | .bool accepted => .ok accepted
  | _ => .error (valueError "durable command accepted flag must be boolean")

/-- The event sequence of a command result. -/
def eventSequenceFromPayload : Json → Py (Option ℤ)
  | .null => .ok none
  | .int n => .ok (some n)
  | _ => .error (valueError "durable command event sequence must be an integer")

/-- The fields of a command result in a payload. -/
def commandResultKeys : List Text := ["command_id", "accepted", "order", "reason", "event_sequence"]

def commandResultFromPayload : Json → Py OrderCommandResult
  | .obj items =>
    if Json.keysAre items commandResultKeys then do
      let accepted ← Json.item items "accepted" >>= acceptedFromPayload
      let eventSequence ← Json.item items "event_sequence" >>= eventSequenceFromPayload
      let commandId ← strItem isPrintable items "command_id"
      let order ← Json.item items "order" >>= optionFromPayload (orderFromPayload isPrintable)
      let reason ← Json.item items "reason"
        >>= optionFromPayload (fun v => .ok (v.toStr isPrintable))
      .ok { commandId, accepted, order, reason, eventSequence }
    else .error (valueError "durable command result fields are not exact")
  | _ => .error (valueError "durable command result must be an object")

/-- A fingerprint of a payload. -/
def fingerprintFromPayload : Json → Py (Text × Text × Text)
  | .arr [.str key, .str kind, .str encoded] => .ok (key, kind, encoded)
  | _ => .error (valueError "durable command fingerprint must contain three text fields")

namespace OrderCommandProcessor

/-- The fields of a payload. -/
def payloadKeys : List Text := ["orders", "commands", "command_fingerprints", "last_event_sequence"]

/-- The snapshot of a payload. -/
def snapshotFromPayload (items : List (Text × Json)) : Py OrderProcessorSnapshot := do
  let invalid := valueError "durable order state payload is invalid"
  require (Json.keysAre items payloadKeys) invalid
  let orders ← Json.item items "orders" >>= arrayItems invalid
  let commands ← Json.item items "commands" >>= arrayItems invalid
  let fingerprints ← Json.item items "command_fingerprints"
    >>= arrayItems (valueError "durable command fingerprints must be a list")
  let commandFingerprints ← fingerprints.mapM fingerprintFromPayload
  let orders ← orders.mapM (orderFromPayload isPrintable)
  let commands ← commands.mapM (commandResultFromPayload isPrintable)
  let lastEventSequence ← strItem isPrintable items "last_event_sequence" >>= intOfStr
  .ok { orders, commands, commandFingerprints, lastEventSequence }

variable [Hashlib]

/-- The fields of an envelope. -/
def envelopeKeys : List Text := ["schema", "payload", "digest"]

/-- The processor of an envelope. -/
def loadEnvelope (envelope : Json) : Py OrderCommandProcessor := do
  let invalid := valueError "durable order state envelope is invalid"
  let wrongSchema := valueError "durable order state schema is invalid"
  let mismatch := valueError "durable order state digest mismatch"
  let items ← objectItems invalid envelope
  require (Json.keysAre items envelopeKeys) invalid
  let schema ← Json.item items "schema" >>= textOf wrongSchema
  require (schema = "v2.order-command.1") wrongSchema
  let payload ← Json.item items "payload"
  let members ← objectItems wrongSchema payload
  let digest ← Json.item items "digest" >>= textOf mismatch
  let expected ← canonicalSha256 payload
  require (digest = expected) mismatch
  let snapshot ← snapshotFromPayload isPrintable members
  restore snapshot

/-- `except (OSError, json.JSONDecodeError, KeyError, TypeError, ValueError)` -/
def IsLoadError (e : PyException) : Prop :=
  e.kind ∈ [ExceptionKind.jsonDecodeError, .keyError, .typeError, .valueError, .unicodeEncodeError]

instance (e : PyException) : Decidable (IsLoadError e) := inferInstanceAs (Decidable (_ ∈ _))

/-- `_load`, of the text of the file. -/
def load (text : Text) : Py OrderCommandProcessor :=
  match Json.loads text with
  | none => .error (valueError "cannot load durable order command state")
  | some envelope =>
    match loadEnvelope isPrintable envelope with
    | .ok p => .ok p
    | .error e =>
      if IsLoadError e then .error (valueError "cannot load durable order command state")
      else .error e

end OrderCommandProcessor

end

end FuturesAgentOs
