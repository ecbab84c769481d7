import FuturesAgentOs.AccountingSettlement.AccountingFacts
import FuturesAgentOs.AccountingSettlement.AuditLog

namespace FuturesAgentOs

open PyModel

/-!
# Replaying the audit log

`DurableAuditLog.replay`.  A correction replaces the type and the payload of the
event it points at, the latest correction of an event counts, and the corrections of the whole log
are collected before the first event is applied.

* `replay_resumed` — replaying a log whose beginning was replayed before.
-/

/-! ### Values that can be hashed -/

namespace Json

mutual

/-- `hash(v)` returns. -/
def isHashable : Json → Bool
  | .arr items => areHashable items
  | .obj _ => false
  | _ => true

/-- `isHashable` of every item. -/
def areHashable : List Json → Bool
  | [] => true
  | v :: vs => isHashable v && areHashable vs

end

end Json

/-! ### Facts of payloads -/

section

variable (isPrintable : CodePoint → Bool) (items : List (Text × Json))

/-- `str(payload[key])` -/
def frozenItem (key : Text) : Py Text := do
  let v ← Json.item items key
  .ok (Json.frozenStr isPrintable v)

/-- `int(str(payload.get("version", 1)))` -/
def versionItem : Py ℤ :=
  match Json.lookup "version" items with
  | none => .ok 1
  | some v => intOfStr (Json.frozenStr isPrintable v)

/-- `str(payload.get("source_ref", "source:v2"))` -/
def sourceRefItem : Text :=
  match Json.lookup "source_ref" items with
  | none => "source:v2"
  | some v => Json.frozenStr isPrintable v

/-- `Decimal(str(payload["settlement_price"]))`, unless it is missing or `None`. -/
def settlementPriceOfItem : Py (Option Decimal.Parsed) :=
  match Json.lookup "settlement_price" items with
  | none | some .null => .ok none
  | some v => (decimalOfStr (Json.frozenStr isPrintable v)).map some

/-- A finite decimal, or a number that the same check of the record refuses. -/
def finiteOr (refused : Decimal) : Decimal.Parsed → Decimal
  | .finite d => d
  | .special => refused

/-- The fill of a payload. -/
def fillFromPayload : Py Fill := do
  let fillId ← frozenItem isPrintable items "fill_id" >>= EntityId.parse
  let orderId ← frozenItem isPrintable items "order_id" >>= EntityId.parse
  let instrument ← frozenItem isPrintable items "instrument"
  let direction ← frozenItem isPrintable items "direction" >>= TradeDirection.ofValue
  let quantity ← frozenItem isPrintable items "quantity" >>= decimalOfStr
  let price ← frozenItem isPrintable items "price" >>= decimalOfStr
  let fee ← frozenItem isPrintable items "fee" >>= decimalOfStr
  let filledAt ← frozenItem isPrintable items "filled_at" >>= RecordedAt.parse
  let version ← versionItem isPrintable items
  Frozen.make
    { fillId, orderId, instrument, direction
      quantity := finiteOr (Decimal.ofNat 0) quantity
      price := finiteOr (Decimal.ofNat 0) price
      fee := finiteOr ⟨true, 1, 0⟩ fee
      filledAt, version }

/-- The field of a settlement that is not finite. -/
def firstSpecial : List (Decimal.Parsed × Text) → Option Text
  | [] => none
  | (.finite _, _) :: rest => firstSpecial rest
  | (.special, label) :: _ => some label

/-- The settlement of a payload. -/
def settlementFromPayload : Py Settlement := do
  let settlementId ← frozenItem isPrintable items "settlement_id" >>= EntityId.parse
  let accountId ← frozenItem isPrintable items "account_id" >>= EntityId.parse
  let tradingDate ← frozenItem isPrintable items "trading_date"
  let cashDelta ← frozenItem isPrintable items "cash_delta" >>= decimalOfStr
  let realizedPnl ← frozenItem isPrintable items "realized_pnl" >>= decimalOfStr
  let fees ← frozenItem isPrintable items "fees" >>= decimalOfStr
  let recordedAt ← frozenItem isPrintable items "recorded_at" >>= RecordedAt.parse
  let sourceRef := sourceRefItem isPrintable items
  let version ← versionItem isPrintable items
  let settlementPrice ← settlementPriceOfItem isPrintable items
  let fields : SettlementFields :=
    { settlementId, accountId, tradingDate
      cashDelta := finiteOr (Decimal.ofNat 0) cashDelta
      realizedPnl := finiteOr (Decimal.ofNat 0) realizedPnl
      fees := finiteOr (Decimal.ofNat 0) fees
      recordedAt, sourceRef, version
      settlementPrice := settlementPrice.map (finiteOr (Decimal.ofNat 0)) }
  match firstSpecial [(cashDelta, "cash_delta"), (realizedPnl, "realized_pnl"), (fees, "fees")] with
  | none => Frozen.make fields
  | some label => do
    -- the identifiers, the version, the texts and the date are checked before the amounts
    let _ ← (Frozen.make { fields with fees := Decimal.ofNat 0, settlementPrice := none } :
      Py Settlement)
    .error (valueError (label ++ Text.ofString " must be finite"))

/-- The fact of an event's type and payload; other events are not applied. -/
def factOf (eventType : Text) : Py (Option AccountingFact) :=
  if eventType = "FILL" then
    (fillFromPayload isPrintable items).map (fun fill => some (.opened fill))
  else if eventType = "CLOSE_FILL" ∨ eventType = "CLOSE_TODAY_FILL" then
    (fillFromPayload isPrintable items).map
      (fun fill => some (.closed fill (decide (eventType = "CLOSE_TODAY_FILL"))))
  else if eventType = "SETTLEMENT" then
    (settlementFromPayload isPrintable items).map (fun s => some (.settled s))
  else .ok none

end

/-! ### Events -/

namespace DurableAuditEvent

/-- `event.payload.get(key)` -/
def get (event : DurableAuditEvent) (key : Text) : Py (Option Json) :=
  match event.fields.payload with
  | .obj items => .ok (Json.lookup key items)
  | _ => .error ⟨.attributeError, "object has no attribute 'get'"⟩

/-- The items of the payload. -/
def items (event : DurableAuditEvent) : List (Text × Json) :=
  match event.fields.payload with
  | .obj items => items
  | _ => []

/-- The payload is a mapping, as the type of the field says. -/
def HasMapping (event : DurableAuditEvent) : Prop := event.fields.payload = .obj event.items

end DurableAuditEvent

namespace DurableAuditLog

/-- The type and the payload that a correction gives to its target. -/
abbrev Replacements := Dict EntityId (Text × List (Text × Json))

/-- One event in the loop that collects the corrections. -/
def collect (replacements : Replacements) (event : DurableAuditEvent) : Py Replacements :=
  if event.fields.eventType ≠ "CORRECTION" then .ok replacements
  else
    match event.fields.correctionOf with
    | none => .ok replacements
    | some target => do
      let replacementType ← event.get "replacement_event_type"
      let replacement ← event.get "replacement"
      match replacementType, replacement with
      | some (.str t), some (.obj items) => .ok (replacements.set target (t, items))
      | _, _ => .ok replacements

/-- The corrections of a list of events, by their targets. -/
def replacements (events : List DurableAuditEvent) : Py Replacements :=
  events.foldlM collect .empty

section

variable (isPrintable : CodePoint → Bool) (corrections : Replacements) (accountId : EntityId)

/-- An accounting event is of the account: by its aggregate or by the account of its payload. -/
def isOf (event : DurableAuditEvent) : Py Bool := do
  let payloadAccount ← event.get "account_id"
  if event.fields.aggregateId = accountId then .ok true
  else
    match payloadAccount with
    | none | some .null => .ok false
    | some (.str t) => .ok (decide (t = accountId.str))
    -- the value is looked up in a set
    | some v => if Json.isHashable v then .ok false else .error (typeError "unhashable type")

/-- The fact that an event is applied as, if it is applied. -/
def reading (event : DurableAuditEvent) : Py (Option AccountingFact) :=
  if event.fields.eventType = "CORRECTION" then .ok none
  else do
    let mine ← if event.fields.eventType ∈ accountingTypes then isOf accountId event else .ok true
    if mine then
      match corrections.get? event.fields.eventId with
      | some (eventType, items) => factOf isPrintable items eventType
      | none => factOf isPrintable event.items event.fields.eventType
    else .ok none

variable [Hashlib] (ctx : DecimalContext)

/-- One event in the loop of `replay`. -/
def applyEvent (event : DurableAuditEvent) (account : SimulationAccount) :
    Py Unit × SimulationAccount :=
  match reading isPrintable corrections accountId event with
  | .error e => (.error e, account)
  | .ok none => (.ok (), account)
  | .ok (some fact) => account.applyFact ctx accountId fact

/-- `replay`, of a list of events. -/
def replayEvents (events : List DurableAuditEvent) (account : SimulationAccount) :
    Py Unit × SimulationAccount :=
  match replacements events with
  | .error e => (.error e, account)
  | .ok corrections =>
    Py.replay (applyEvent isPrintable corrections accountId ctx) events account

def replay (log : DurableAuditLog) (account : SimulationAccount) : Py Unit × SimulationAccount :=
  replayEvents isPrintable accountId ctx log.events account

end

end DurableAuditLog

end FuturesAgentOs
