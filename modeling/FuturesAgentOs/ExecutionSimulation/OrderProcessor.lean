import FuturesAgentOs.Decision.Order
import FuturesAgentOs.PyModel.Machine

namespace FuturesAgentOs

open PyModel

/-!
# The order command processor

`execution_simulation/order_processor.py`, the in-memory processor.  A method takes the
processor to its answer and the processor it leaves behind; fills are added in a decimal
context, `ctx`.

* `OrderCall`, `machine` — one call of any command.
-/

structure OrderCommandResult where
  commandId : Text
  accepted : Bool
  order : Option Order
  reason : Option Text := none
  eventSequence : Option ℤ := none
  deriving DecidableEq

/-- `_CommandFingerprint`: the kind of a command, its order and its payload. -/
structure CommandFingerprint where
  kind : Text
  orderId : Text
  payload : Text
  deriving DecidableEq

structure OrderProcessorSnapshot where
  orders : List Order
  commands : List OrderCommandResult
  commandFingerprints : List (Text × Text × Text)
  lastEventSequence : ℤ := 0
  deriving DecidableEq

/-- An `event_sequence` argument: `None`, an `int`, or an object of another type. -/
inductive EventSequence where
  | absent
  | int (n : ℤ)
  | other
  deriving DecidableEq

/-- `_TRANSITIONS` -/
def orderTransitions : OrderStatus → List OrderStatus
  | .CREATED => [.ACCEPTED, .REJECTED]
  | .ACCEPTED => [.WORKING, .EXPIRED]
  | .WORKING => [.PARTIALLY_FILLED, .FILLED, .CANCELLED, .EXPIRED]
  | .PARTIALLY_FILLED => [.PARTIALLY_FILLED, .FILLED, .CANCELLED, .EXPIRED]
  | .FILLED => []
  | .CANCELLED => []
  | .EXPIRED => []
  | .REJECTED => []

/-- The processor and the order agree on what may follow a state. -/
theorem orderTransitions_eq (s : OrderStatus) : orderTransitions s = s.allowed := by
  rcases s <;> rfl

structure OrderCommandProcessor where
  orders : Dict Text Order
  commands : Dict Text OrderCommandResult
  commandFingerprints : Dict Text CommandFingerprint
  lastEventSequence : ℤ
  deriving DecidableEq

namespace OrderCommandProcessor

/-- `OrderCommandProcessor()` -/
def empty : OrderCommandProcessor := ⟨.empty, .empty, .empty, 0⟩

def register (p : OrderCommandProcessor) (order : Order) : Py Unit × OrderCommandProcessor :=
  let key := order.fields.orderId.str
  if (p.orders.get? key).isSome then (.error (valueError "order already registered"), p)
  else (.ok (), { p with orders := p.orders.set key order })

/-- `_validate_command_id`; `none` is an argument that is not a `str`. -/
def validateCommandId (commandId : Option Text) : Py Text :=
  match commandId with
  | some id => if id.IsScopeText then .ok id
    else .error (valueError "command_id must be canonical text")
  | none => .error (valueError "command_id must be canonical text")

/-- `_validate_event_sequence`, returning the number that was given. -/
def validateEventSequence (eventSequence : EventSequence) : Py (Option ℤ) :=
  match eventSequence with
  | .absent => .ok none
  | .int n => if 1 ≤ n then .ok (some n)
    else .error (valueError "event_sequence must be a positive integer")
  | .other => .error (valueError "event_sequence must be a positive integer")

/-- What `_begin_command` comes to: an answer, or a new command with its sequence reserved. -/
inductive Begun where
  | answered (result : OrderCommandResult)
  | reserved (commandId : Text) (processor : OrderCommandProcessor)

/-- The processor with the next sequence number reserved for a command. -/
def reserve (p : OrderCommandProcessor) (commandId : Text) (fingerprint : CommandFingerprint) :
    OrderCommandProcessor :=
  { p with
    lastEventSequence := p.lastEventSequence + 1
    commandFingerprints := p.commandFingerprints.set commandId fingerprint }

/-- The answer to a command whose id was used before. -/
def replay (p : OrderCommandProcessor) (commandId : Text) (fingerprint : CommandFingerprint)
    (eventSequence : Option ℤ) (existing : OrderCommandResult) : OrderCommandResult :=
  if p.commandFingerprints.get? commandId = some fingerprint then existing
  else if eventSequence = none then existing
  else ⟨commandId, false, existing.order, some "COMMAND_ID_CONFLICT", existing.eventSequence⟩

def beginCommand (p : OrderCommandProcessor) (commandId : Option Text)
    (fingerprint : CommandFingerprint) (eventSequence : EventSequence) : Py Begun := do
  let commandId ← validateCommandId commandId
  let eventSequence ← validateEventSequence eventSequence
  match p.commands.get? commandId with
  | some existing => .ok (.answered (p.replay commandId fingerprint eventSequence existing))
  | none =>
    if eventSequence = none ∨ eventSequence = some (p.lastEventSequence + 1) then
      .ok (.reserved commandId (p.reserve commandId fingerprint))
    else .ok (.answered ⟨commandId, false, none, some "EVENT_SEQUENCE_GAP", eventSequence⟩)

/-- The answer of a command that was not applied, recorded as its outcome. -/
def rejected (p : OrderCommandProcessor) (commandId : Text) (order : Option Order)
    (reason : Text) : Py OrderCommandResult × OrderCommandProcessor :=
  let result := ⟨commandId, false, order, some reason, some p.lastEventSequence⟩
  (.ok result, { p with commands := p.commands.set commandId result })

/-- The answer of a command that was applied, recorded as its outcome. -/
def accepted (p : OrderCommandProcessor) (commandId orderId : Text) (updated : Order) :
    Py OrderCommandResult × OrderCommandProcessor :=
  let result := ⟨commandId, true, some updated, none, some p.lastEventSequence⟩
  (.ok result,
    { p with
      orders := p.orders.set orderId updated
      commands := p.commands.set commandId result })

/-- A transition whose sequence is reserved. -/
def transitionReserved (p : OrderCommandProcessor) (commandId orderId : Text)
    (target : OrderStatus) : Py OrderCommandResult × OrderCommandProcessor :=
  match p.orders.get? orderId with
  | none => p.rejected commandId none "UNKNOWN_ORDER"
  | some current =>
    if target ∉ orderTransitions current.fields.status then
      p.rejected commandId (some current) "INVALID_TRANSITION"
    else
      match current.transition target with
      -- the sequence stays reserved
      | .error e => (.error e, p)
      | .ok updated => p.accepted commandId orderId updated

/-- `transition`; the target is `none` for an argument that is not an `OrderStatus`. -/
def transition (p : OrderCommandProcessor) (commandId : Option Text) (orderId : Text)
    (target : Option OrderStatus) (eventSequence : EventSequence) :
    Py OrderCommandResult × OrderCommandProcessor :=
  match target with
  | none => (.error (typeError "target must be an OrderStatus"), p)
  | some target =>
    match p.beginCommand commandId ⟨"TRANSITION", orderId, target.value⟩ eventSequence with
    | .error e => (.error e, p)
    | .ok (.answered result) => (.ok result, p)
    | .ok (.reserved commandId q) => q.transitionReserved commandId orderId target

variable (ctx : DecimalContext)

/-- A fill whose sequence is reserved. -/
def applyFillReserved (p : OrderCommandProcessor) (commandId orderId : Text)
    (quantity : FillQuantity) : Py OrderCommandResult × OrderCommandProcessor :=
  match p.orders.get? orderId with
  | none => p.rejected commandId none "UNKNOWN_ORDER"
  | some current =>
    match current.applyFill ctx quantity with
    | .error e =>
      if IsTypeOrValueError e then p.rejected commandId (some current) e.message
      -- the sequence stays reserved
      else (.error e, p)
    | .ok updated => p.accepted commandId orderId updated

def applyFill (p : OrderCommandProcessor) (commandId : Option Text) (orderId : Text)
    (quantity : FillQuantity) (eventSequence : EventSequence) :
    Py OrderCommandResult × OrderCommandProcessor :=
  match quantity.repr with
  | .error e => (.error e, p)
  | .ok payload =>
    match p.beginCommand commandId ⟨"FILL", orderId, payload⟩ eventSequence with
    | .error e => (.error e, p)
    | .ok (.answered result) => (.ok result, p)
    | .ok (.reserved commandId q) => q.applyFillReserved ctx commandId orderId quantity

/-! ### Crash recovery -/

/-- The character `"\x00"`. -/
def nul : CodePoint := 0

/-- A fingerprint as the snapshot carries it. -/
def flatten (item : Text × CommandFingerprint) : Text × Text × Text :=
  (item.1, item.2.kind, item.2.orderId ++ nul :: item.2.payload)

def snapshot (p : OrderCommandProcessor) : OrderProcessorSnapshot where
  orders := p.orders.values
  commands := p.commands.values
  commandFingerprints := p.commandFingerprints.items.map flatten
  lastEventSequence := p.lastEventSequence

/-- `encoded.split("\x00", 1)`, `none` without a separator. -/
def splitNul : Text → Option (Text × Text)
  | [] => none
  | c :: rest => if c = nul then some ([], rest)
    else (splitNul rest).map (fun (first, second) => (c :: first, second))

/-- The orders of a snapshot. -/
def restoreOrders (orders : List Order) : Py (Dict Text Order) :=
  orders.foldlM (fun d order =>
    let key := order.fields.orderId.str
    if (d.get? key).isSome then .error (valueError "duplicate order in snapshot")
    else .ok (d.set key order)) Dict.empty

/-- The sequence numbers of recorded outcomes are those from 1 to the last, in any order. -/
def sequencesMatch (sequences : List ℤ) (last : ℤ) : Bool :=
  decide sequences.Nodup && sequences.all (fun n => 1 ≤ n && n ≤ last)
    && (sequences.length : ℤ) == last

/-- The fingerprints of a snapshot. -/
def restoreFingerprints (fingerprints : List (Text × Text × Text)) :
    Py (Dict Text CommandFingerprint) :=
  fingerprints.foldlM (fun d (key, kind, encoded) =>
    match splitNul encoded with
    | none => .error (valueError "snapshot fingerprint encoding is invalid")
    | some (second, third) => .ok (d.set key ⟨kind, second, third⟩)) Dict.empty

def restore (s : OrderProcessorSnapshot) : Py OrderCommandProcessor := do
  require (0 ≤ s.lastEventSequence) (valueError "snapshot event sequence must be non-negative")
  let orders ← restoreOrders s.orders
  require ((s.commands.map (·.commandId)).Nodup) (valueError "duplicate command in snapshot")
  require (s.commands.all (·.eventSequence.isSome) = true)
    (valueError "snapshot command outcomes must carry event sequences")
  require (sequencesMatch (s.commands.filterMap (·.eventSequence)) s.lastEventSequence = true)
    (valueError "snapshot sequence does not match command outcomes")
  let commands := s.commands.foldl (fun d result => d.set result.commandId result) Dict.empty
  require ((s.commandFingerprints.map Prod.fst).Nodup) (valueError "duplicate command fingerprint")
  let fingerprints ← restoreFingerprints s.commandFingerprints
  require (commands.keys.all (· ∈ fingerprints.keys) = true
      ∧ fingerprints.keys.all (· ∈ commands.keys) = true)
    (valueError "snapshot command and fingerprint sets differ")
  .ok ⟨orders, commands, fingerprints, s.lastEventSequence⟩

end OrderCommandProcessor

/-! ### The machine of all commands -/

/-- One command. -/
inductive OrderCall where
  | register (order : Order)
  | transition (commandId : Option Text) (orderId : Text) (target : Option OrderStatus)
      (eventSequence : EventSequence)
  | applyFill (commandId : Option Text) (orderId : Text) (quantity : FillQuantity)
      (eventSequence : EventSequence)
  deriving DecidableEq

namespace OrderCommandProcessor

variable (ctx : DecimalContext)

/-- One command; the answer of `register` is `none`. -/
def step (p : OrderCommandProcessor) : OrderCall →
    Py (Option OrderCommandResult) × OrderCommandProcessor
  | .register order =>
    let (answer, q) := p.register order
    (answer.map (fun _ => none), q)
  | .transition commandId orderId target eventSequence =>
    let (answer, q) := p.transition commandId orderId target eventSequence
    (answer.map some, q)
  | .applyFill commandId orderId quantity eventSequence =>
    let (answer, q) := p.applyFill ctx commandId orderId quantity eventSequence
    (answer.map some, q)

/-- The machine of all commands. -/
def machine : Machine OrderCommandProcessor OrderCall (Py (Option OrderCommandResult)) :=
  ⟨step ctx⟩

/-- The processor after a sequence of commands on a new one. -/
def run (calls : List OrderCall) : OrderCommandProcessor := (machine ctx).exec empty calls

end OrderCommandProcessor

end FuturesAgentOs
