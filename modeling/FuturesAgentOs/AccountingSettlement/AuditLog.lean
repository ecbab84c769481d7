import FuturesAgentOs.Decision.Position
import FuturesAgentOs.SharedKernel.IsoTime
import FuturesAgentOs.SharedKernel.JsonObject

namespace FuturesAgentOs

open PyModel

/-!
# The durable audit log

`accounting_settlement/durable.py`: the events, how they are chained by their hashes, and the
file that holds them.

* `load`, `verify` — reading the file and checking the chain.

A payload is the value that `_freeze` returned: a `Json` array stands for a tuple.  An event that
was read from a file may hold any value as its payload, so the payload of an event is a `Json`.
-/

/-- What the model leaves open of the interpreter. -/
structure Interpreter where
  /-- `str.isprintable` of a character beyond ASCII -/
  isPrintable : CodePoint → Bool
  /-- `int` of a float, by its literal -/
  intOfFloat : Text → Py ℤ
  /-- the float of the literal is zero -/
  isZeroFloat : Text → Bool

/-! ### Payloads -/

namespace Json

mutual

/-- `_freeze` takes the value. -/
def isFrozen : Json → Bool
  | .float _ => false
  | .arr items => areFrozen items
  | .obj items => membersFrozen items
  | _ => true

/-- `isFrozen` of every item. -/
def areFrozen : List Json → Bool
  | [] => true
  | v :: vs => isFrozen v && areFrozen vs

/-- `isFrozen` of every member. -/
def membersFrozen : List (Text × Json) → Bool
  | [] => true
  | (_, v) :: rest => isFrozen v && membersFrozen rest

end

end Json

def freeze (value : Json) : Py Json := do
  require (Json.isFrozen value = true) (typeError "unsupported audit payload value: float")
  .ok value

/-- The payload that an event is appended with. -/
inductive AuditPayload where
  | fill (fill : Fill)
  | settlement (settlement : Settlement)
  | mapping (items : List (Text × Json))

/-- The items of the payload of a fill. -/
def fillItems (fill : Fill) (schemaVersion : Text) : List (Text × Json) := [
  ("fill_id", .str fill.fields.fillId.str),
  ("order_id", .str fill.fields.orderId.str),
  ("instrument", .str fill.fields.instrument),
  ("direction", .str fill.fields.direction.value),
  ("quantity", .str fill.fields.quantity.str),
  ("price", .str fill.fields.price.str),
  ("fee", .str fill.fields.fee.str),
  ("filled_at", .str fill.fields.filledAt.text),
  ("version", .int fill.fields.version),
  ("schema_version", .str schemaVersion),
  ("source_ref", .str fill.fields.sourceRef)]

/-- `str(price) if price is not None else None` -/
def settlementPriceItem : Option Decimal → Json
  | some price => .str price.str
  | none => .null

/-- The items of the payload of a settlement. -/
def settlementItems (s : Settlement) (schemaVersion : Text) : List (Text × Json) := [
  ("settlement_id", .str s.fields.settlementId.str),
  ("account_id", .str s.fields.accountId.str),
  ("trading_date", .str s.fields.tradingDate),
  ("cash_delta", .str s.fields.cashDelta.str),
  ("realized_pnl", .str s.fields.realizedPnl.str),
  ("fees", .str s.fields.fees.str),
  ("recorded_at", .str s.fields.recordedAt.text),
  ("source_ref", .str s.fields.sourceRef),
  ("version", .int s.fields.version),
  ("schema_version", .str schemaVersion),
  ("settlement_price", settlementPriceItem s.fields.settlementPrice)]

def factPayload : AuditPayload → Py (Text × List (Text × Json))
  | .fill fill => do
    let schemaVersion ← fill.fields.schemaVersion.str
    .ok ("FILL", fillItems fill schemaVersion)
  | .settlement s => do
    let schemaVersion ← s.fields.schemaVersion.str
    .ok ("SETTLEMENT", settlementItems s schemaVersion)
  | .mapping items => do
    let _ ← freeze (.obj items)
    .ok ("GENERIC", items)

/-! ### Events -/

structure DurableAuditEventFields where
  sequence : ℤ
  eventId : EntityId
  eventType : Text
  aggregateId : EntityId
  payload : Json
  recordedAt : RecordedAt
  sourceRef : Text
  previousHash : Text
  eventHash : Text
  correctionOf : Option EntityId

namespace DurableAuditEventFields

variable (f : DurableAuditEventFields)

/-- `DurableAuditEvent.__post_init__`; `checkHash` is its `_digest`. -/
def postInit : Py Unit := do
  require (1 ≤ f.sequence) (valueError "audit sequence must be positive")
  require (f.eventId.nspace = "audit_event")
    (valueError "event_id must belong to audit_event namespace")
  require (IsCanonicalText f.eventType) (valueError "event_type must be canonical text")
  require (IsCanonicalText f.sourceRef) (valueError "source_ref must be canonical text")
  checkHash f.previousHash "previous_hash"
  checkHash f.eventHash "event_hash"
  let _ ← freeze f.payload
  .ok ()

instance : Dataclass DurableAuditEventFields := ⟨postInit⟩

/-- What the checks of an event amount to. -/
theorem postInit_eq_ok {f : DurableAuditEventFields} :
    f.postInit = .ok () ↔
      1 ≤ f.sequence ∧ f.eventId.nspace = "audit_event" ∧ IsCanonicalText f.eventType
        ∧ IsCanonicalText f.sourceRef ∧ f.previousHash.IsHexDigest ∧ f.eventHash.IsHexDigest
        ∧ Json.isFrozen f.payload = true := by
  have hfreeze : (freeze f.payload >>= fun _ => (.ok () : Py Unit)) = .ok ()
      ↔ Json.isFrozen f.payload = true := by
    simp only [freeze, Py.bind_eq_ok, require_eq_ok]
    simp
  simp only [postInit, check_bind_eq_ok, checkHash_eq_ok, require_eq_ok, hfreeze]

/-- The items of `hash_payload`. -/
def hashItems : List (Text × Json) := [
  ("sequence", .int f.sequence),
  ("event_id", .str f.eventId.str),
  ("event_type", .str f.eventType),
  ("aggregate_id", .str f.aggregateId.str),
  ("payload", f.payload),
  ("recorded_at", .str f.recordedAt.text),
  ("source_ref", .str f.sourceRef),
  ("previous_hash", .str f.previousHash),
  ("correction_of", (f.correctionOf.map (fun id => Json.str id.str)).getD .null)]

def hashPayload : Json := .obj f.hashItems

def toDict : Json := .obj (f.hashItems ++ [(("event_hash" : Text), Json.str f.eventHash)])

end DurableAuditEventFields

/-- An immutable event of the chain. -/
abbrev DurableAuditEvent := Frozen DurableAuditEventFields

/-- The events in memory and the text of the file, when there is one. -/
structure DurableAuditLog where
  events : List DurableAuditEvent
  file : Option Text

/-- `_GENESIS` -/
def genesisHash : Text := List.replicate 64 (Text.ofChar '0')

namespace DurableAuditLog

variable [Hashlib] (log : DurableAuditLog)

/-- `DurableAuditLog(path)` of a path where no file is. -/
def new : DurableAuditLog := ⟨[], none⟩

omit [Hashlib] in
/-- The identifiers of the events. -/
def eventIds : List EntityId := log.events.map (·.fields.eventId)

def headHash : Text := (log.events.getLast?.map (·.fields.eventHash)).getD genesisHash

/-- The loop of `verify` over the events that are left. -/
def verifyFrom (expectedPrevious : Text) (sequence : ℤ) : List DurableAuditEvent → Py Bool
  | [] => .ok true
  | event :: events =>
    if event.fields.sequence ≠ sequence ∨ event.fields.previousHash ≠ expectedPrevious then
      .ok false
    else do
      let digest ← canonicalSha256 event.fields.hashPayload
      if event.fields.eventHash ≠ digest then .ok false
      else verifyFrom event.fields.eventHash (sequence + 1) events

def verify : Py Bool := verifyFrom genesisHash 1 log.events

/-- The loop goes on after an event that is chained. -/
theorem verifyFrom_cons {event : DurableAuditEvent} {previous : Text} {sequence : ℤ}
    (hsequence : event.fields.sequence = sequence)
    (hprevious : event.fields.previousHash = previous)
    (hhash : canonicalSha256 event.fields.hashPayload = .ok event.fields.eventHash)
    (events : List DurableAuditEvent) :
    verifyFrom previous sequence (event :: events)
      = verifyFrom event.fields.eventHash (sequence + 1) events := by
  have hchained : ¬ (event.fields.sequence ≠ sequence ∨ event.fields.previousHash ≠ previous) := by
    rw [not_or, not_not, not_not]
    exact ⟨hsequence, hprevious⟩
  rw [verifyFrom, if_neg hchained, hhash, Py.ok_bind, if_neg (not_not.mpr rfl)]

/-- `_persist`, the text that it writes into the file. -/
def persist : Py Text :=
  match (Json.arr (log.events.map (·.fields.toDict))).dumps with
  | none => .error (valueError "value must be finite JSON-compatible data")
  | some data => .ok data

/-! ### Reading the file -/

section

variable (interpreter : Interpreter)

/-- `int(v)` of a value that `json.loads` returned. -/
def intOf : Json → Py ℤ
  | .int n => .ok n
  | .bool b => .ok (if b then 1 else 0)
  | .str t => intOfStr t
  | .float literal => interpreter.intOfFloat literal
  | _ => .error (typeError "int() argument must be a string, a bytes-like object or a real number")

/-- `bool(v)` of a value that `json.loads` returned. -/
def truthy : Json → Bool
  | .null => false
  | .bool b => b
  | .int n => n ≠ 0
  | .float literal => !interpreter.isZeroFloat literal
  | .str t => t ≠ []
  | .arr items => !items.isEmpty
  | .obj items => !items.isEmpty

/-- `EntityId.parse(str(v)) if v else None`, of a member that may be missing. -/
def correctionOfMember (items : List (Text × Json)) : Py (Option EntityId) :=
  match Json.lookup "correction_of" items with
  | none => .ok none
  | some v =>
    if truthy interpreter v then (EntityId.parse (v.toStr interpreter.isPrintable)).map some
    else .ok none

/-- An event of the file. -/
def eventFromItems (items : List (Text × Json)) : Py DurableAuditEvent := do
  let sequence ← Json.item items "sequence" >>= intOf interpreter
  let eventId ← strItem interpreter.isPrintable items "event_id" >>= EntityId.parse
  let eventType ← strItem interpreter.isPrintable items "event_type"
  let aggregateId ← strItem interpreter.isPrintable items "aggregate_id" >>= EntityId.parse
  let payload ← Json.item items "payload"
  let recordedAt ← strItem interpreter.isPrintable items "recorded_at" >>= RecordedAt.parse
  let sourceRef ← strItem interpreter.isPrintable items "source_ref"
  let previousHash ← strItem interpreter.isPrintable items "previous_hash"
  let eventHash ← strItem interpreter.isPrintable items "event_hash"
  let correctionOf ← correctionOfMember interpreter items
  Frozen.make
    { sequence, eventId, eventType, aggregateId, payload, recordedAt, sourceRef, previousHash,
      eventHash, correctionOf }

/-- An event of the file, which must be an object. -/
def eventFromJson : Json → Py DurableAuditEvent
  | .obj items => eventFromItems interpreter items
  | _ => .error (valueError "audit event must be an object")

/-- `except (OSError, KeyError, TypeError, ValueError, json.JSONDecodeError)` -/
def IsLoadError (e : PyException) : Prop :=
  e.kind ∈ [ExceptionKind.jsonDecodeError, .keyError, .typeError, .valueError, .unicodeEncodeError]

instance (e : PyException) : Decidable (IsLoadError e) := inferInstanceAs (Decidable (_ ∈ _))

/-- What `_load` raises. -/
def loadError : PyException := valueError "cannot load durable audit log"

/-- What `_load` makes of an exception. -/
def loadException (e : PyException) : PyException := if IsLoadError e then loadError else e

/-- `_load`; the events are assigned before the chain is verified. -/
def load : Py Unit × DurableAuditLog :=
  match log.file with
  | none => (.error loadError, log)
  | some text =>
    match Json.loads text with
    | some (.arr values) =>
      match values.mapM (eventFromJson interpreter) with
      | .error e => (.error (loadException e), log)
      | .ok events =>
        let loaded := { log with events }
        match loaded.verify with
        | .error e => (.error (loadException e), loaded)
        | .ok false => (.error loadError, loaded)
        | .ok true => (.ok (), loaded)
    | _ => (.error loadError, log)

end

/-! ### Writing -/

/-- The arguments of `append`. -/
structure AppendArgs where
  eventType : Text
  aggregateId : EntityId
  payload : AuditPayload
  recordedAt : RecordedAt
  sourceRef : Text := "source:v2"
  eventId : Option EntityId := none
  correctionOf : Option EntityId := none

/-- The identifier of a new event. -/
def newEventId (args : AppendArgs) (eventType : Text) (frozen : Json) : Py EntityId :=
  match args.eventId with
  | some eventId => .ok eventId
  | none => do
    let seed ← canonicalSha256 (.obj [
      ("sequence", .int (log.events.length + 1)),
      ("kind", .str eventType),
      ("payload", frozen),
      ("previous", .str log.headHash)])
    EntityId.deterministic "audit_event" seed

/-- The event that `_append_unlocked` builds. -/
def newEvent (args : AppendArgs) : Py DurableAuditEvent := do
  let (kind, fact) ← factPayload args.payload
  let eventType := if args.eventType = [] then kind else args.eventType
  let frozen ← freeze (.obj fact)
  let eventId ← log.newEventId args eventType frozen
  require (eventId ∉ log.eventIds) (valueError "audit event ids must be unique")
  require (∀ target ∈ args.correctionOf, target ∈ log.eventIds)
    (valueError "correction_of must reference an existing event")
  let fields : DurableAuditEventFields :=
    { sequence := log.events.length + 1
      eventId
      eventType
      aggregateId := args.aggregateId
      payload := frozen
      recordedAt := args.recordedAt
      sourceRef := args.sourceRef
      previousHash := log.headHash
      eventHash := genesisHash
      correctionOf := args.correctionOf }
  let provisional ← Frozen.make fields
  let digest ← canonicalSha256 provisional.fields.hashPayload
  Frozen.make { fields with eventHash := digest }

def appendUnlocked (args : AppendArgs) : Py DurableAuditEvent × DurableAuditLog :=
  match log.newEvent args with
  | .error e => (.error e, log)
  | .ok event =>
    let appended := { log with events := log.events ++ [event] }
    match appended.persist with
    | .error e => (.error e, appended)
    | .ok data => (.ok event, { appended with file := some data })

section

variable (interpreter : Interpreter)

def append (args : AppendArgs) : Py DurableAuditEvent × DurableAuditLog :=
  match log.file with
  | none => log.appendUnlocked args
  | some _ =>
    -- another process may have appended: the file is read again
    match log.load interpreter with
    | (.error e, loaded) => (.error e, loaded)
    | (.ok (), loaded) => loaded.appendUnlocked args

/-- The items of a correction of a target. -/
def correctionItems (target : DurableAuditEvent) (actorRef : Text) : List (Text × Json) := [
  ("target_event_id", .str target.fields.eventId.str),
  ("target_event_hash", .str target.fields.eventHash),
  ("actor_ref", .str actorRef)]

/-- The types of the accounting events. -/
def accountingTypes : List Text := ["FILL", "CLOSE_FILL", "CLOSE_TODAY_FILL", "SETTLEMENT"]

end

end DurableAuditLog

end FuturesAgentOs
