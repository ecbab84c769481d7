import FuturesAgentOs.ChannelGateway.TaskQueue
import FuturesAgentOs.PyModel.Machine

namespace FuturesAgentOs

open PyModel

/-!
# The notification outbox

`channel_gateway/durable.py`: the rows of `fao.outbox`, `fao.outbox_delivery_attempt` and
`fao.dead_letter`, and the methods of `PostgresGatewayStore` on them.  Each method is one
transaction, and is given the time of the clock that it reads.  A row is named by its topic and its
idempotency key, which are unique.

* `Outbox.machine` — the store, as a machine of these calls.
-/

/-- The severities that an `OutboundNotification` accepts. -/
inductive NotificationSeverity where
  | INFO
  | TRADE
  | ACTION_REQUIRED
  | RISK
  | CRITICAL
  deriving DecidableEq

/-- `OutboundNotification`, its severity in upper case; `payload` may hold any values. -/
structure OutboundNotification (π : Type) where
  channel : Text
  conversationId : Text
  severity : NotificationSeverity
  text : Text
  idempotencyKey : Text
  payload : Option π := none
  required : channel.strip ≠ [] ∧ conversationId.strip ≠ [] ∧ idempotencyKey.strip ≠ []
  deriving DecidableEq

namespace OutboundNotification

variable {π : Type} (n : OutboundNotification π)

/-- `f"channel:{notification.channel}"` -/
def topic : Text := Text.ofString "channel:" ++ n.channel

end OutboundNotification

/-- The topic and the idempotency key of a row. -/
abbrev OutboxKey := Text × Text

inductive DeliveryState where
  | PENDING
  | IN_FLIGHT
  | RETRY
  | DELIVERED
  | DEAD
  deriving DecidableEq

/-- A row of `fao.outbox`. -/
structure OutboxRow (π : Type) where
  notification : OutboundNotification π
  payloadSha256 : Text
  availableAt : ℤ
  deliveryState : DeliveryState
  deliveryAttempts : ℕ := 0
  lastAttemptAt : Option ℤ := none
  deliveredAt : Option ℤ := none
  createdAt : ℤ
  leaseOwner : Option Text := none
  leaseExpiresAt : Option ℤ := none
  maxAttempts : ℕ
  lastError : Option Text := none
  deriving DecidableEq

inductive AttemptState where
  | IN_FLIGHT
  | DELIVERED
  | RETRY
  | DEAD
  | LOST_LEASE
  deriving DecidableEq

/-- A row of `fao.outbox_delivery_attempt`, named by its outbox row and its number. -/
structure DeliveryAttempt where
  workerId : Text
  attemptState : AttemptState
  errorCode : Option Text := none
  startedAt : ℤ
  finishedAt : Option ℤ := none
  deriving DecidableEq

/-- A row of `fao.dead_letter`: of source kind `outbox`, for `DELIVERY_EXHAUSTED`. -/
structure DeadLetter (π : Type) where
  sourceId : OutboxKey
  payload : OutboundNotification π
  deriving DecidableEq

structure OutboxRecord (π : Type) where
  outboxId : OutboxKey
  notification : OutboundNotification π
  attempts : ℕ
  maxAttempts : ℕ
  leaseOwner : Text
  deriving DecidableEq

namespace OutboxRow

variable {π : Type} (row : OutboxRow π)

/-- The row waits for a claim. -/
def Waits : Prop := row.deliveryState ∈ [DeliveryState.PENDING, .RETRY]

instance : Decidable row.Waits := inferInstanceAs (Decidable (_ ∈ _))

/-- The row may be claimed. -/
def Claimable (now : ℤ) : Prop :=
  row.Waits ∧ row.availableAt ≤ now ∧ ∀ expiry ∈ row.leaseExpiresAt, expiry ≤ now

instance (now : ℤ) : Decidable (row.Claimable now) := inferInstanceAs (Decidable (_ ∧ _))

/-- The row, claimed. -/
def claimed (workerId : Text) (now expiry : ℤ) : OutboxRow π :=
  { row with
    deliveryState := .IN_FLIGHT
    deliveryAttempts := row.deliveryAttempts + 1
    lastAttemptAt := some now
    leaseOwner := some workerId
    leaseExpiresAt := some expiry }

/-- The row is in flight with this worker. -/
def HeldBy (workerId : Text) : Prop :=
  row.deliveryState = .IN_FLIGHT ∧ row.leaseOwner = some workerId

instance (workerId : Text) : Decidable (row.HeldBy workerId) := inferInstanceAs (Decidable (_ ∧ _))

/-- The row is in flight, and its lease has run out. -/
def LostLease (now : ℤ) : Prop :=
  row.deliveryState = .IN_FLIGHT ∧ ∃ expiry ∈ row.leaseExpiresAt, expiry ≤ now

instance (now : ℤ) : Decidable (row.LostLease now) := inferInstanceAs (Decidable (_ ∧ _))

/-- The row without its lease, in another state. -/
def released (deliveryState : DeliveryState) : OutboxRow π :=
  { row with deliveryState, leaseOwner := none, leaseExpiresAt := none }

/-- `attempts >= max_attempts` -/
def Exhausted : Prop := row.maxAttempts ≤ row.deliveryAttempts

instance : Decidable row.Exhausted := inferInstanceAs (Decidable (_ ≤ _))

end OutboxRow

/-- The tables of the outbox. -/
structure Outbox (π : Type) where
  rows : Dict OutboxKey (OutboxRow π) := .empty
  attempts : Dict (OutboxKey × ℕ) DeliveryAttempt := .empty
  deadLetters : List (DeadLetter π) := []

namespace Outbox

variable {π : Type} (s : Outbox π)

/-- `enqueue_notification`, whether a row was inserted; `sha256` is the digest of the payload's
canonical text. -/
def enqueueNotification (sha256 : OutboundNotification π → Py Text) (n : OutboundNotification π)
    (now : ℤ) : Py (Bool × Outbox π) := do
  let payloadSha256 ← sha256 n
  match s.rows.get? (n.topic, n.idempotencyKey) with
  | none =>
    .ok (true, { s with
      rows := s.rows.set (n.topic, n.idempotencyKey)
        { notification := n
          payloadSha256
          availableAt := now
          deliveryState := .PENDING
          createdAt := now
          maxAttempts := 8 } })
  | some existing => do
    require (existing.payloadSha256 = payloadSha256)
      (valueError "conflicting replay for outbound notification")
    .ok (false, s)

/-- The rows that `claim_outbox` takes, the oldest first. -/
def candidates (limit now : ℤ) : List (OutboxKey × OutboxRow π) :=
  ((s.rows.items.filter (fun p => p.2.Claimable now)).insertionSort
    (fun left right => left.2.createdAt ≤ right.2.createdAt)).take limit.toNat

/-- The `INSERT` of an attempt, unless there is one of its number. -/
def insertAttempt (workerId : Text) (now : ℤ) (attempts : Dict (OutboxKey × ℕ) DeliveryAttempt)
    (p : OutboxKey × OutboxRow π) : Dict (OutboxKey × ℕ) DeliveryAttempt :=
  match attempts.get? (p.1, p.2.deliveryAttempts + 1) with
  | some _ => attempts
  | none => attempts.set (p.1, p.2.deliveryAttempts + 1)
      { workerId, attemptState := .IN_FLIGHT, startedAt := now }

def claimOutbox (workerId : Text) (limit leaseSeconds now : ℤ) :
    Py (List (OutboxRecord π) × Outbox π) := do
  require (workerId.strip ≠ [] ∧ 1 ≤ limit ∧ 1 ≤ leaseSeconds)
    (valueError "worker_id, limit, and lease_seconds must be positive")
  let taken := s.candidates limit now
  .ok (taken.map (fun p =>
      ⟨p.1, p.2.notification, p.2.deliveryAttempts + 1, p.2.maxAttempts, workerId⟩),
    { s with
      rows := s.rows.mapValues (fun key row =>
        if key ∈ taken.map Prod.fst
        then row.claimed workerId now (now + leaseSeconds * microsPerSecond)
        else row)
      attempts := taken.foldl (insertAttempt workerId now) s.attempts })

/-- The `UPDATE` of the attempt that a worker is at. -/
def updateAttempt (key : OutboxKey) (workerId : Text) (number : ℕ)
    (f : DeliveryAttempt → DeliveryAttempt) : Dict (OutboxKey × ℕ) DeliveryAttempt :=
  s.attempts.mapValues (fun k attempt =>
    if k = (key, number) ∧ attempt.workerId = workerId ∧ attempt.attemptState = .IN_FLIGHT
    then f attempt else attempt)

/-- The row of a key, when a worker holds it. -/
def held (key : OutboxKey) (workerId : Text) : Option (OutboxRow π) :=
  (s.rows.get? key).filter (fun row => row.HeldBy workerId)

def markDelivered (key : OutboxKey) (workerId : Text) (now : ℤ) : Bool × Outbox π :=
  match s.held key workerId with
  | none => (false, s)
  | some row =>
    (true, { s with
      rows := s.rows.set key { row.released .DELIVERED with deliveredAt := some now }
      attempts := s.updateAttempt key workerId row.deliveryAttempts (fun attempt =>
        { attempt with attemptState := .DELIVERED, finishedAt := some now }) })

/-- What `mark_failed` answers. -/
inductive FailureVerdict where
  | IGNORED
  | DEAD
  | RETRY
  deriving DecidableEq

/-- `max(1, backoff_seconds) * (2 ** min(attempts - 1, 8))`, of a row that was claimed. -/
def retryDelay (backoffSeconds : ℤ) (attempts : ℕ) : ℤ :=
  max 1 backoffSeconds * 2 ^ min (attempts - 1) 8

def markFailed (key : OutboxKey) (workerId error : Text) (backoffSeconds now : ℤ) :
    Py (FailureVerdict × Outbox π) := do
  require (error.strip ≠ []) (valueError "error is required")
  match s.held key workerId with
  | none => .ok (.IGNORED, s)
  | some row =>
    let reason := error.take 1000
    let failed (state : AttemptState) :=
      s.updateAttempt key workerId row.deliveryAttempts (fun attempt =>
        { attempt with attemptState := state, errorCode := some reason, finishedAt := some now })
    if row.Exhausted then
      .ok (.DEAD, { s with
        rows := s.rows.set key { row.released .DEAD with lastError := some reason }
        attempts := failed .DEAD
        deadLetters := s.deadLetters ++ [⟨key, row.notification⟩] })
    else
      .ok (.RETRY, { s with
        rows := s.rows.set key { row.released .RETRY with
          lastError := some reason
          availableAt := now + retryDelay backoffSeconds row.deliveryAttempts * microsPerSecond }
        attempts := failed .RETRY })

/-- The attempt is the last one of a row that waits again. -/
def LosesAttempt (rows : Dict OutboxKey (OutboxRow π)) (k : OutboxKey × ℕ)
    (attempt : DeliveryAttempt) : Prop :=
  attempt.attemptState = .IN_FLIGHT
    ∧ ∃ row ∈ rows.get? k.1, k.2 = row.deliveryAttempts ∧ row.deliveryState = .RETRY

instance (rows : Dict OutboxKey (OutboxRow π)) (k : OutboxKey × ℕ) (attempt : DeliveryAttempt) :
    Decidable (LosesAttempt rows k attempt) := inferInstanceAs (Decidable (_ ∧ _))

/-- The outbox part of `recover_expired`, and how many rows there were. -/
def recoverExpired (now : ℤ) : ℕ × Outbox π :=
  let rows := s.rows.mapValues (fun _ row => if row.LostLease now then row.released .RETRY else row)
  (s.rows.values.countP (fun row => row.LostLease now),
    { s with
      rows
      attempts := s.attempts.mapValues (fun k attempt =>
        if LosesAttempt rows k attempt
        then { attempt with attemptState := .LOST_LEASE, finishedAt := some now }
        else attempt) })

end Outbox

/-- A call of the store, by any worker. -/
inductive OutboxCall (π : Type) where
  | enqueueNotification (n : OutboundNotification π) (now : ℤ)
  | claimOutbox (workerId : Text) (limit leaseSeconds now : ℤ)
  | markDelivered (key : OutboxKey) (workerId : Text) (now : ℤ)
  | markFailed (key : OutboxKey) (workerId error : Text) (backoffSeconds now : ℤ)
  | recoverExpired (now : ℤ)

/-- What a call answers. -/
inductive OutboxAnswer (π : Type) where
  | inserted (isNew : Py Bool)
  | records (records : Py (List (OutboxRecord π)))
  | delivered (changed : Bool)
  | verdict (verdict : Py Outbox.FailureVerdict)
  | recovered (count : ℕ)

namespace Outbox

variable {π : Type}

/-- The transaction of a call; one that raises is rolled back. -/
def call (sha256 : OutboundNotification π → Py Text) (s : Outbox π) :
    OutboxCall π → OutboxAnswer π × Outbox π
  | .enqueueNotification n now =>
    match s.enqueueNotification sha256 n now with
    | .ok (isNew, after) => (.inserted (.ok isNew), after)
    | .error e => (.inserted (.error e), s)
  | .claimOutbox workerId limit leaseSeconds now =>
    match s.claimOutbox workerId limit leaseSeconds now with
    | .ok (taken, after) => (.records (.ok taken), after)
    | .error e => (.records (.error e), s)
  | .markDelivered key workerId now =>
    let (changed, after) := s.markDelivered key workerId now
    (.delivered changed, after)
  | .markFailed key workerId error backoffSeconds now =>
    match s.markFailed key workerId error backoffSeconds now with
    | .ok (verdict, after) => (.verdict (.ok verdict), after)
    | .error e => (.verdict (.error e), s)
  | .recoverExpired now =>
    let (count, after) := s.recoverExpired now
    (.recovered count, after)

/-- The store, as a machine of its calls. -/
def machine (sha256 : OutboundNotification π → Py Text) :
    Machine (Outbox π) (OutboxCall π) (OutboxAnswer π) := ⟨Outbox.call sha256⟩

end Outbox

end FuturesAgentOs
