import FuturesAgentOs.Decision.RiskDecision

namespace FuturesAgentOs

open PyModel

/-!
# Watches

`agent_orchestration/v3_runtime.py`: a watch hands an event to the owner of its domain, at most once
for an event that the owner answered.  What the owner answers is an input: `process` is cut in two
at the owner's call, `start` and `finish`, and the loop of `process_with_retry` at each of its
turns.

* `WatchCoordinator.attempt`, `WatchCoordinator.answer` — `process_with_retry`, turn by turn.

A time is a number of microseconds.
-/

inductive WatchTrigger where
  | MARKET
  | ORDER
  | POSITION
  | PORTFOLIO
  | SYSTEM
  deriving DecidableEq

/-- `trigger.value.lower()` -/
def WatchTrigger.lower : WatchTrigger → Text
  | MARKET => "market"
  | ORDER => "order"
  | POSITION => "position"
  | PORTFOLIO => "portfolio"
  | SYSTEM => "system"

/-- The fields of a `WatchEvent`, whose time is known with its zone. -/
structure WatchEventFields where
  eventId : Text
  trigger : WatchTrigger
  occurredAt : ℤ
  payloadRef : Text
  deriving DecidableEq

def WatchEventFields.postInit (f : WatchEventFields) : Py Unit :=
  require (f.eventId ≠ [] ∧ f.payloadRef ≠ [])
    (valueError "watch event requires id, timestamp and payload reference")

instance : Dataclass WatchEventFields := ⟨WatchEventFields.postInit⟩

/-- An event of a domain. -/
abbrev WatchEvent := Frozen WatchEventFields

/-- What the owner of a domain does on an event: it returns a request or `None`, or it raises.  The
`TypeError` that `process` raises on another answer is one of the latter. -/
abbrev OwnerAnswer := Py (Option RiskReductionRequest)

/-! ### One domain -/

/-- A `DeterministicWatch` without its owner.  The two sets are lists. -/
structure DeterministicWatch where
  maxInflight : ℤ
  cooldownSeconds : ℤ
  seen : List Text := []
  leases : List Text := []
  lastProcessed : Dict Text ℤ := Dict.empty
  deriving DecidableEq

namespace DeterministicWatch

/-- `DeterministicWatch(owner, max_inflight=…, cooldown_seconds=…)` -/
def new (maxInflight cooldownSeconds : ℤ) : Py DeterministicWatch := do
  require (1 ≤ maxInflight ∧ 0 ≤ cooldownSeconds)
    (valueError "watch bounds must be non-negative and max_inflight must be positive")
  .ok { maxInflight, cooldownSeconds }

variable (w : DeterministicWatch) (event : WatchEvent)

/-- The last event with the payload is less than the cooldown ago. -/
def CoolingDown : Prop :=
  ∃ prior ∈ w.lastProcessed.get? event.fields.payloadRef,
    event.fields.occurredAt - prior < w.cooldownSeconds * 1000000

instance : Decidable (w.CoolingDown event) := inferInstanceAs (Decidable (∃ prior ∈ _, _))

/-- `process` before the owner's call: `None`, or the lease is taken. -/
def start : Option DeterministicWatch :=
  if event.fields.eventId ∈ w.seen then none
  else if event.fields.eventId ∈ w.leases then none
  else if w.maxInflight ≤ w.leases.length then none
  else if w.CoolingDown event then none
  else some { w with leases := event.fields.eventId :: w.leases }

/-- `self._leases.discard(event.event_id)` -/
def released : DeterministicWatch :=
  { w with leases := w.leases.filter (fun eventId => eventId ≠ event.fields.eventId) }

/-- `process` after the owner's call. -/
def finish : OwnerAnswer → DeterministicWatch
  | .ok _ =>
    { w.released event with
      seen := event.fields.eventId :: w.seen
      lastProcessed := w.lastProcessed.set event.fields.payloadRef event.fields.occurredAt }
  | .error _ => w.released event

end DeterministicWatch

/-! ### All domains -/

/-- A `WatchCoordinator`. -/
structure WatchCoordinator where
  maxInflight : ℤ := 1
  cooldownSeconds : ℤ := 0
  watches : Dict WatchTrigger DeterministicWatch := Dict.empty
  degraded : List WatchTrigger := []
  deriving DecidableEq

/-- How far `process_with_retry` of a coordinator has come. -/
inductive WatchProgress where
  /-- the owner is called, and so many attempts are left after this one -/
  | calling (attempts : ℕ)
  /-- it returned -/
  | returned (request : Option RiskReductionRequest)
  /-- it raised -/
  | raised
  deriving DecidableEq

namespace WatchCoordinator

variable (c : WatchCoordinator) (event : WatchEvent)

def register (trigger : WatchTrigger) : Py WatchCoordinator := do
  require (c.watches.get? trigger = none) (valueError "watch trigger already registered")
  let watch ← DeterministicWatch.new c.maxInflight c.cooldownSeconds
  .ok { c with watches := c.watches.set trigger watch }

/-- The coordinator of a process that has just started. -/
def started (maxInflight cooldownSeconds : ℤ) (triggers : List WatchTrigger) :
    Py WatchCoordinator :=
  triggers.foldlM register { maxInflight, cooldownSeconds }

/-- `self._degraded.discard(event.trigger)` -/
def recovered : WatchCoordinator :=
  { c with degraded := c.degraded.filter (fun trigger => trigger ≠ event.fields.trigger) }

/-- `self._degraded.add(event.trigger)` -/
def marked : WatchCoordinator := { c with degraded := event.fields.trigger :: c.degraded }

/-- The watch of the event's domain, replaced. -/
def withWatch (watch : DeterministicWatch) : WatchCoordinator :=
  { c with watches := c.watches.set event.fields.trigger watch }

/-- The next turn of the loop, of the turns that are left. -/
def attempt : ℕ → WatchProgress × WatchCoordinator
  | 0 => (.returned none, c.recovered event)
  | attempts + 1 =>
    match c.watches.get? event.fields.trigger with
    | none => (.returned none, c)
    | some watch =>
      match watch.start event with
      | none => (.returned none, c.recovered event)
      | some leased => (.calling attempts, c.withWatch event leased)

/-- `process_with_retry` up to the first call of the owner.  The coordinator catches the
`ValueError` for a number of attempts that is not positive. -/
def processWithRetry (maxAttempts : ℤ) : WatchProgress × WatchCoordinator :=
  match c.watches.get? event.fields.trigger with
  | none => (.returned none, c)
  | some _ =>
    if maxAttempts < 1 then (.returned none, c.marked event)
    else c.attempt event maxAttempts.toNat

/-- `process_with_retry` after the owner's answer, with the attempts that are left. -/
def answer (attempts : ℕ) (answer : OwnerAnswer) : WatchProgress × WatchCoordinator :=
  match c.watches.get? event.fields.trigger with
  | none => (.raised, c)
  | some watch =>
    let c := c.withWatch event (watch.finish event answer)
    match answer with
    | .ok request => (.returned request, c.recovered event)
    | .error e =>
      if IsTransientError e then c.attempt event attempts
      else if IsTypeOrValueError e then (.returned none, c.marked event)
      else (.raised, c)

/-! ### When the owner is called -/

/-- The watch of the event's domain is there and lets the event through to the owner. -/
def Admits : Prop :=
  ∃ watch, c.watches.get? event.fields.trigger = some watch ∧ event.fields.eventId ∉ watch.seen
    ∧ event.fields.eventId ∉ watch.leases ∧ (watch.leases.length : ℤ) < watch.maxInflight
    ∧ ¬ watch.CoolingDown event

/-- The coordinator without the lease on the event. -/
def released : WatchCoordinator :=
  match c.watches.get? event.fields.trigger with
  | none => c
  | some watch => c.withWatch event (watch.released event)

variable {c event}

/-- **An event that is admitted** is handed to the owner. -/
theorem attempt_of_admits (h : c.Admits event) (attempts : ℕ) :
    (c.attempt event (attempts + 1)).1 = .calling attempts := by
  obtain ⟨watch, hwatch, hseen, hlease, hfull, hcooling⟩ := h
  simp only [attempt, hwatch, DeterministicWatch.start, if_neg hseen, if_neg hlease,
    if_neg (not_le.mpr hfull), if_neg hcooling]

/-- A turn of the loop calls the owner or returns `None`. -/
theorem attempt_ne_request (c : WatchCoordinator) (event : WatchEvent) (attempts : ℕ)
    (request : RiskReductionRequest) : (c.attempt event attempts).1 ≠ .returned (some request) := by
  rcases attempts with _ | attempts
  · exact fun h => by cases h
  simp only [attempt]
  split
  · exact fun h => by cases h
  · split
    · exact fun h => by cases h
    · exact fun h => by cases h

theorem processWithRetry_ne_request (c : WatchCoordinator) (event : WatchEvent) (maxAttempts : ℤ)
    (request : RiskReductionRequest) :
    (c.processWithRetry event maxAttempts).1 ≠ .returned (some request) := by
  simp only [processWithRetry]
  split
  · exact fun h => by cases h
  · split
    · exact fun h => by cases h
    · exact c.attempt_ne_request event _ request

/-- **An event that is admitted** does not come back before the owner was called. -/
theorem processWithRetry_of_admits (h : c.Admits event) {maxAttempts : ℤ} (hpos : 1 ≤ maxAttempts) :
    (c.processWithRetry event maxAttempts).1 ≠ .returned none := by
  obtain ⟨watch, hwatch, -⟩ := id h
  simp only [processWithRetry, hwatch, if_neg (not_lt.mpr hpos)]
  obtain ⟨attempts, hattempts⟩ : ∃ n, maxAttempts.toNat = n + 1 :=
    ⟨maxAttempts.toNat - 1, by omega⟩
  rw [hattempts, attempt_of_admits h]
  exact fun h => by cases h

/-- What an answer of the owner leads to: its own value, or, after an exception, `None` or another
call. -/
theorem answer_cases {answer : OwnerAnswer} {attempts : ℕ} {request : Option RiskReductionRequest}
    (h : (c.answer event attempts answer).1 = .returned request) :
    answer = .ok request ∨ ∃ e, answer = .error e ∧ request = none
      ∧ (IsTypeOrValueError e ∨ IsTransientError e
        ∧ ((c.released event).attempt event attempts).1 = .returned none) := by
  simp only [WatchCoordinator.answer] at h
  split at h
  · cases h
  rename_i watch hwatch
  rcases answer with e | found
  · refine Or.inr ⟨e, rfl, ?_⟩
    have hreleased : c.released event = c.withWatch event (watch.released event) := by
      simp only [released, hwatch]
    by_cases htransient : IsTransientError e
    · simp only [if_pos htransient] at h
      rcases request with _ | request
      · exact ⟨rfl, Or.inr ⟨htransient, by rw [hreleased]; exact h⟩⟩
      · exact absurd h (attempt_ne_request _ event attempts request)
    · simp only [if_neg htransient] at h
      split at h
      · rename_i hcaught
        exact ⟨(WatchProgress.returned.inj h).symm, Or.inl hcaught⟩
      · cases h
  · exact Or.inl (congrArg Except.ok (WatchProgress.returned.inj h))

end WatchCoordinator

end FuturesAgentOs
