import FuturesAgentOs.PyModel.Exception
import FuturesAgentOs.PyModel.Machine
import Mathlib.Data.List.DropRight

namespace FuturesAgentOs

open PyModel

/-!
# The circuit breaker

`operations/reliability.py`: a closed, open and half-open breaker of one dependency.  Calls that
were allowed before may report their outcome late, in any state.

* `protects_exec` — it keeps the promise when no success is recorded while it waits.
-/

inductive CircuitState where
  | CLOSED
  | OPEN
  | HALF_OPEN
  deriving DecidableEq

structure CircuitBreakerPolicyFields where
  dependencyId : Text
  failureThreshold : ℤ
  recoveryTimeoutMs : ℤ
  halfOpenMaxCalls : ℤ
  deriving DecidableEq

instance : Dataclass CircuitBreakerPolicyFields where
  postInit f := do
    require f.dependencyId.IsStripped (valueError "dependency_id must be canonical non-empty text")
    require (1 ≤ f.failureThreshold ∧ 1 ≤ f.recoveryTimeoutMs ∧ 1 ≤ f.halfOpenMaxCalls)
      (valueError "circuit-breaker limits must be positive")

abbrev CircuitBreakerPolicy := Frozen CircuitBreakerPolicyFields

structure CircuitBreaker where
  policy : CircuitBreakerPolicy
  state : CircuitState
  failures : ℤ
  openedAtMs : Option ℤ
  halfOpenCalls : ℤ
  lastSeenMs : ℤ
  deriving DecidableEq

/-- A call of the breaker. -/
inductive CircuitCall where
  | allowCall (nowMs : ℤ)
  | recordSuccess (nowMs : ℤ)
  | recordFailure (nowMs : ℤ)

/-- What a call answers. -/
inductive CircuitAnswer where
  | allowed (result : Py Bool)
  | recorded (result : Py Unit)

namespace CircuitBreaker

/-- `CircuitBreaker(policy)` -/
def new (policy : CircuitBreakerPolicy) : CircuitBreaker where
  policy
  state := .CLOSED
  failures := 0
  openedAtMs := none
  halfOpenCalls := 0
  lastSeenMs := 0

variable (b : CircuitBreaker)

def checkTime (nowMs : ℤ) : Py CircuitBreaker :=
  if nowMs < b.lastSeenMs then
    .error (valueError "circuit-breaker time must be monotonic and non-negative")
  else .ok { b with lastSeenMs := nowMs }

/-- `_open` -/
def opened (nowMs : ℤ) : CircuitBreaker :=
  { b with state := .OPEN, openedAtMs := some nowMs, halfOpenCalls := 0 }

/-- A call that a half-open breaker is asked for. -/
def probe : Py Bool × CircuitBreaker :=
  if b.policy.fields.halfOpenMaxCalls ≤ b.halfOpenCalls then (.ok false, b)
  else (.ok true, { b with halfOpenCalls := b.halfOpenCalls + 1 })

/-- `allow_call`, after the time is checked. -/
def allowAt (nowMs : ℤ) : Py Bool × CircuitBreaker :=
  match b.state, b.openedAtMs with
  | .OPEN, none => (.error ⟨.assertionError, ""⟩, b)
  | .OPEN, some openedAtMs =>
    if nowMs - openedAtMs < b.policy.fields.recoveryTimeoutMs then (.ok false, b)
    else { b with state := .HALF_OPEN, halfOpenCalls := 0 }.probe
  | .HALF_OPEN, _ => b.probe
  | .CLOSED, _ => (.ok true, b)

def allowCall (nowMs : ℤ) : Py Bool × CircuitBreaker :=
  match b.checkTime nowMs with
  | .error e => (.error e, b)
  | .ok seen => seen.allowAt nowMs

def recordSuccess (nowMs : ℤ) : Py Unit × CircuitBreaker :=
  match b.checkTime nowMs with
  | .error e => (.error e, b)
  | .ok seen =>
    (.ok (), { seen with state := .CLOSED, failures := 0, openedAtMs := none, halfOpenCalls := 0 })

/-- `record_failure`, after the time is checked. -/
def failAt (nowMs : ℤ) : CircuitBreaker :=
  if b.state = .HALF_OPEN then b.opened nowMs
  else if b.policy.fields.failureThreshold ≤ b.failures + 1 then
    { b with failures := b.failures + 1 }.opened nowMs
  else { b with failures := b.failures + 1 }

def recordFailure (nowMs : ℤ) : Py Unit × CircuitBreaker :=
  match b.checkTime nowMs with
  | .error e => (.error e, b)
  | .ok seen => (.ok (), seen.failAt nowMs)

/-- A call of the breaker. -/
def call : CircuitCall → CircuitAnswer × CircuitBreaker
  | .allowCall nowMs => Prod.map .allowed id (b.allowCall nowMs)
  | .recordSuccess nowMs => Prod.map .recorded id (b.recordSuccess nowMs)
  | .recordFailure nowMs => Prod.map .recorded id (b.recordFailure nowMs)

/-- The breaker, as a machine of its calls. -/
def machine : Machine CircuitBreaker CircuitCall CircuitAnswer := ⟨call⟩

/-- A step of a run: the breaker before it, the call and the answer. -/
abbrev Event := CircuitBreaker × CircuitCall × CircuitAnswer

namespace Event

/-- The breaker after the step. -/
def after (event : Event) : CircuitBreaker := machine.next event.1 event.2.1

/-- A call that is allowed. -/
def allows : Event → Option ℤ
  | (_, .allowCall nowMs, .allowed (.ok true)) => some nowMs
  | _ => none

/-- A success that is recorded. -/
def succeeds : Event → Option ℤ
  | (_, .recordSuccess nowMs, .recorded (.ok _)) => some nowMs
  | _ => none

/-- A failure that is recorded. -/
def fails : Event → Option ℤ
  | (_, .recordFailure nowMs, .recorded (.ok _)) => some nowMs
  | _ => none

/-- The breaker opens at a time: a failure is recorded and leaves it open. -/
def OpensAt (event : Event) (t : ℤ) : Prop := event.fails = some t ∧ event.after.state = .OPEN

/-- An open breaker half-opens. -/
def HalfOpens (event : Event) : Prop := event.1.state = .OPEN ∧ event.after.state = .HALF_OPEN

/-- An outcome is recorded. -/
def IsOutcome (event : Event) : Prop := event.succeeds.isSome ∨ event.fails.isSome

end Event

/-- The failures recorded since the last success. -/
def failuresSinceSuccess (history : List Event) : ℕ :=
  (history.rtakeWhile (fun event => event.succeeds.isNone)).countP (fun event => event.fails.isSome)

/-- The calls that are allowed. -/
def allowedCalls (history : List Event) : ℕ := history.countP (fun event => event.allows.isSome)

/-- **What the breaker promises of a run.** -/
structure Protects (policy : CircuitBreakerPolicy) (calls : List CircuitCall) : Prop where
  /-- After it opens no call is allowed until the recovery timeout has passed. -/
  waits : (machine.trace (new policy) calls).Pairwise fun (opening later : Event) =>
    ∀ t n, opening.OpensAt t → later.allows = some n → t + policy.fields.recoveryTimeoutMs ≤ n
  /-- Half-open, it allows a bounded number of calls until an outcome is recorded. -/
  probes : ∀ (before : List Event) (opening : Event) (middle rest : List Event),
    machine.trace (new policy) calls = before ++ opening :: middle ++ rest → opening.HalfOpens →
    (∀ event ∈ middle, ¬ Event.IsOutcome event) →
      allowedCalls (opening :: middle) ≤ policy.fields.halfOpenMaxCalls
  /-- Closed, it opens only after enough failures since the last success. -/
  trips : ∀ (before : List Event) (opening : Event) (rest : List Event) (t : ℤ),
    machine.trace (new policy) calls = before ++ opening :: rest → opening.1.state = .CLOSED →
    opening.OpensAt t →
      policy.fields.failureThreshold ≤ failuresSinceSuccess (before ++ [opening])

end CircuitBreaker

/-- The success is recorded while the breaker is open and waits. -/
def CircuitCall.ClosesEarly (b : CircuitBreaker) : CircuitCall → Prop
  | .recordSuccess nowMs => b.state = .OPEN ∧ b.lastSeenMs ≤ nowMs
      ∧ ∃ openedAtMs ∈ b.openedAtMs, nowMs < openedAtMs + b.policy.fields.recoveryTimeoutMs
  | _ => False

instance (b : CircuitBreaker) (c : CircuitCall) : Decidable (c.ClosesEarly b) :=
  match c with
  | .recordSuccess nowMs => inferInstanceAs (Decidable (b.state = .OPEN ∧ b.lastSeenMs ≤ nowMs
      ∧ ∃ openedAtMs ∈ b.openedAtMs, nowMs < openedAtMs + b.policy.fields.recoveryTimeoutMs))
  | .allowCall _ => isFalse id
  | .recordFailure _ => isFalse id

namespace CircuitBreaker

variable {b b' : CircuitBreaker} {c : CircuitCall} {answer : CircuitAnswer}

/-! ### What a call does -/

/-- All that a call does to a breaker. -/
inductive BreakerStep (b : CircuitBreaker) : CircuitCall → CircuitAnswer → CircuitBreaker → Prop where
  /-- The time moves backwards. -/
  | raised {c : CircuitCall} {answer : CircuitAnswer} (hallow : answer ≠ .allowed (.ok true))
      (hrecord : answer ≠ .recorded (.ok ())) : BreakerStep b c answer b
  | refused {nowMs : ℤ} {result : Py Bool} (hlater : b.lastSeenMs ≤ nowMs)
      (hresult : result ≠ .ok true) :
      BreakerStep b (.allowCall nowMs) (.allowed result) { b with lastSeenMs := nowMs }
  | passed {nowMs : ℤ} (hlater : b.lastSeenMs ≤ nowMs) (hstate : b.state = .CLOSED) :
      BreakerStep b (.allowCall nowMs) (.allowed (.ok true)) { b with lastSeenMs := nowMs }
  | halfOpened {nowMs openedAtMs : ℤ} (hlater : b.lastSeenMs ≤ nowMs) (hstate : b.state = .OPEN)
      (hopened : b.openedAtMs = some openedAtMs)
      (hwaited : openedAtMs + b.policy.fields.recoveryTimeoutMs ≤ nowMs) :
      BreakerStep b (.allowCall nowMs) (.allowed (.ok true))
        { b with lastSeenMs := nowMs, state := .HALF_OPEN, halfOpenCalls := 1 }
  | probed {nowMs : ℤ} (hlater : b.lastSeenMs ≤ nowMs) (hstate : b.state = .HALF_OPEN)
      (hroom : b.halfOpenCalls < b.policy.fields.halfOpenMaxCalls) :
      BreakerStep b (.allowCall nowMs) (.allowed (.ok true))
        { b with lastSeenMs := nowMs, halfOpenCalls := b.halfOpenCalls + 1 }
  | succeeded {nowMs : ℤ} (hlater : b.lastSeenMs ≤ nowMs) :
      BreakerStep b (.recordSuccess nowMs) (.recorded (.ok ()))
        { b with
          lastSeenMs := nowMs
          state := .CLOSED
          failures := 0
          openedAtMs := none
          halfOpenCalls := 0 }
  | failed {nowMs : ℤ} (hlater : b.lastSeenMs ≤ nowMs) :
      BreakerStep b (.recordFailure nowMs) (.recorded (.ok ()))
        ({ b with lastSeenMs := nowMs }.failAt nowMs)

theorem checkTime_cases (b : CircuitBreaker) (nowMs : ℤ) :
    (∃ e, b.checkTime nowMs = .error e)
      ∨ b.lastSeenMs ≤ nowMs ∧ b.checkTime nowMs = .ok { b with lastSeenMs := nowMs } := by
  unfold checkTime
  split
  · exact .inl ⟨_, rfl⟩
  · exact .inr ⟨by omega, rfl⟩

theorem halfOpenMaxCalls_pos (policy : CircuitBreakerPolicy) :
    1 ≤ policy.fields.halfOpenMaxCalls := by
  obtain ⟨_, -, h⟩ := Py.of_bind policy.valid
  exact (require_eq_ok.mp h).2.2

theorem step_allowCall (b : CircuitBreaker) (nowMs : ℤ) :
    BreakerStep b (.allowCall nowMs) (.allowed (b.allowCall nowMs).1) (b.allowCall nowMs).2 := by
  unfold allowCall
  rcases b.checkTime_cases nowMs with ⟨e, he⟩ | ⟨hlater, hseen⟩
  · rw [he]
    exact .raised (by simp) (by simp)
  rw [hseen]
  have hmax := halfOpenMaxCalls_pos b.policy
  simp only [allowAt]
  split
  · exact .refused hlater (by simp)
  · rename_i openedAtMs hstate hopened
    split
    · exact .refused hlater (by simp)
    · rename_i hwaited
      have hroom : ¬ b.policy.fields.halfOpenMaxCalls ≤ 0 := by omega
      rw [probe, if_neg hroom]
      exact .halfOpened hlater hstate hopened (by omega)
  · rename_i hstate
    unfold probe
    split
    · exact .refused hlater (by simp)
    · rename_i hroom
      exact .probed hlater hstate (not_le.mp hroom)
  · rename_i hstate
    exact .passed hlater hstate

theorem step_call (b : CircuitBreaker) (c : CircuitCall) :
    BreakerStep b c (machine.out b c) (machine.next b c) := by
  cases c with
  | allowCall nowMs => exact b.step_allowCall nowMs
  | recordSuccess nowMs =>
    rcases b.checkTime_cases nowMs with ⟨e, he⟩ | ⟨hlater, hseen⟩
    · have hsame : b.call (.recordSuccess nowMs) = (.recorded (.error e), b) := by
        simp [call, recordSuccess, he]
      show BreakerStep b _ (b.call _).1 (b.call _).2
      rw [hsame]
      exact .raised (by simp) (by simp)
    · have hdone := BreakerStep.succeeded hlater
      show BreakerStep b _ (b.call _).1 (b.call _).2
      simpa [call, recordSuccess, hseen] using hdone
  | recordFailure nowMs =>
    rcases b.checkTime_cases nowMs with ⟨e, he⟩ | ⟨hlater, hseen⟩
    · have hsame : b.call (.recordFailure nowMs) = (.recorded (.error e), b) := by
        simp [call, recordFailure, he]
      show BreakerStep b _ (b.call _).1 (b.call _).2
      rw [hsame]
      exact .raised (by simp) (by simp)
    · have hdone := BreakerStep.failed hlater
      show BreakerStep b _ (b.call _).1 (b.call _).2
      simpa [call, recordFailure, hseen] using hdone

/-! ### What a run keeps -/

theorem failAt_cases (b : CircuitBreaker) (nowMs : ℤ) :
    ((b.failAt nowMs).state = .OPEN ∧ (b.failAt nowMs).openedAtMs = some nowMs
        ∧ ((b.state = .HALF_OPEN ∧ (b.failAt nowMs).failures = b.failures)
          ∨ (b.failAt nowMs).failures = b.failures + 1
            ∧ b.policy.fields.failureThreshold ≤ b.failures + 1))
      ∨ b.state ≠ .HALF_OPEN ∧ b.failures + 1 < b.policy.fields.failureThreshold
        ∧ b.failAt nowMs = { b with failures := b.failures + 1 } := by
  unfold failAt
  split
  · rename_i hstate
    exact .inl ⟨rfl, rfl, .inl ⟨hstate, rfl⟩⟩
  · split
    · rename_i htrips
      exact .inl ⟨rfl, rfl, .inr ⟨rfl, htrips⟩⟩
    · rename_i hstate hfew
      exact .inr ⟨hstate, not_le.mp hfew, rfl⟩

@[simp] theorem failAt_policy (b : CircuitBreaker) (nowMs : ℤ) :
    (b.failAt nowMs).policy = b.policy := by
  unfold failAt opened
  split <;> [rfl; split <;> rfl]

@[simp] theorem failAt_lastSeenMs (b : CircuitBreaker) (nowMs : ℤ) :
    (b.failAt nowMs).lastSeenMs = b.lastSeenMs := by
  unfold failAt opened
  split <;> [rfl; split <;> rfl]

theorem failuresSinceSuccess_concat (history : List Event) (event : Event) :
    failuresSinceSuccess (history ++ [event])
      = if event.succeeds.isNone then
          failuresSinceSuccess history + if event.fails.isSome then 1 else 0
        else 0 := by
  unfold failuresSinceSuccess
  rw [List.rtakeWhile_concat]
  split
  · rw [List.countP_append, List.countP_singleton]
  · rfl

/-- What every run keeps, late outcomes or not. -/
structure Sound (policy : CircuitBreakerPolicy) (history : List Event) (b : CircuitBreaker) :
    Prop where
  policy : b.policy = policy
  counted : b.failures ≤ failuresSinceSuccess history
  tripped : b.state ≠ .CLOSED → b.policy.fields.failureThreshold ≤ b.failures
  opened : b.state = .OPEN → ∃ openedAtMs ∈ b.openedAtMs, openedAtMs ≤ b.lastSeenMs

variable {policy : CircuitBreakerPolicy} {history : List Event}

theorem Sound.step (h : Sound policy history b) (hstep : BreakerStep b c answer b') :
    Sound policy (history ++ [(b, c, answer)]) b' := by
  have hcounted := h.counted
  have htripped := h.tripped
  have hopened := h.opened
  cases hstep with
  | raised hallow hrecord =>
    refine ⟨h.policy, ?_, htripped, hopened⟩
    rw [failuresSinceSuccess_concat]
    have hnone : Event.succeeds (b, c, answer) = none ∧ Event.fails (b, c, answer) = none := by
      unfold Event.succeeds Event.fails
      constructor
      all_goals
        split
        · rename_i heq
          simp only [Prod.mk.injEq] at heq
          exact absurd heq.2.2 hrecord
        · rfl
    simpa [hnone.1, hnone.2] using hcounted
  | refused hlater hresult =>
    refine ⟨h.policy, ?_, htripped, fun hopen => ?_⟩
    · simpa [failuresSinceSuccess_concat, Event.succeeds, Event.fails] using hcounted
    · obtain ⟨o, ho, hle⟩ := hopened hopen
      exact ⟨o, ho, hle.trans hlater⟩
  | passed hlater hstate =>
    refine ⟨h.policy, ?_, htripped, fun hopen => ?_⟩
    · simpa [failuresSinceSuccess_concat, Event.succeeds, Event.fails] using hcounted
    · obtain ⟨o, ho, hle⟩ := hopened hopen
      exact ⟨o, ho, hle.trans hlater⟩
  | halfOpened hlater hstate hopened hwaited =>
    refine ⟨h.policy, ?_, fun _ => htripped (by rw [hstate]; decide), fun hopen => by cases hopen⟩
    simpa [failuresSinceSuccess_concat, Event.succeeds, Event.fails] using hcounted
  | probed hlater hstate hroom =>
    refine ⟨h.policy, ?_, htripped, fun hopen => ?_⟩
    · simpa [failuresSinceSuccess_concat, Event.succeeds, Event.fails] using hcounted
    · exact absurd (hstate.symm.trans hopen) (by decide)
  | succeeded hlater =>
    exact ⟨h.policy, Int.natCast_nonneg _, fun hne => absurd rfl hne, fun hopen => by cases hopen⟩
  | @failed nowMs hlater =>
    have hsince : failuresSinceSuccess (history ++ [(b, .recordFailure nowMs, .recorded (.ok ()))])
        = failuresSinceSuccess history + 1 := by
      simp [failuresSinceSuccess_concat, Event.succeeds, Event.fails]
    have hcounted' : b.failures + 1 ≤ (failuresSinceSuccess history + 1 : ℕ) := by
      push_cast
      exact add_le_add_left hcounted 1
    rcases failAt_cases { b with lastSeenMs := nowMs } nowMs with
      ⟨hopen, hat, hfailures⟩ | ⟨hstate, hfew, hfail⟩
    · refine ⟨by rw [failAt_policy]; exact h.policy, ?_, fun _ => ?_, fun _ => ⟨nowMs, hat, ?_⟩⟩
      · rw [hsince]
        rcases hfailures with ⟨-, hsame⟩ | ⟨hmore, -⟩
        · rw [hsame]
          exact le_trans (by simp) hcounted'
        · rw [hmore]
          exact hcounted'
      · rw [failAt_policy]
        rcases hfailures with ⟨hhalf, hsame⟩ | ⟨hmore, htrips⟩
        · rw [hsame]
          exact htripped (by rw [show b.state = .HALF_OPEN from hhalf]; decide)
        · rw [hmore]
          exact htrips
      · rw [failAt_lastSeenMs]
    · rw [hfail]
      refine ⟨h.policy, by rw [hsince]; exact hcounted', fun hne => ?_, fun hopen => ?_⟩
      · exact le_trans (htripped hne) (by simp)
      · obtain ⟨o, ho, hle⟩ := hopened hopen
        exact ⟨o, ho, hle.trans hlater⟩

theorem sound_run (policy : CircuitBreakerPolicy) (calls : List CircuitCall) :
    Sound policy (machine.trace (new policy) calls) (machine.exec (new policy) calls) := by
  refine machine.trace_invariant (fun history b c h => h.step (b.step_call c)) ?_ calls
  exact ⟨rfl, le_refl _, fun hne => absurd rfl hne, fun hopen => by cases hopen⟩

/-- The recovery timeout since a time has passed, or the breaker is open and waits at least as
long. -/
def WaitsSince (b : CircuitBreaker) (t : ℤ) : Prop :=
  t + b.policy.fields.recoveryTimeoutMs ≤ b.lastSeenMs
    ∨ b.state = .OPEN ∧ ∃ openedAtMs ∈ b.openedAtMs, t ≤ openedAtMs

variable {t : ℤ} {calls : List CircuitCall}

theorem WaitsSince.later {nowMs : ℤ} (h : b.WaitsSince t) (hlater : b.lastSeenMs ≤ nowMs) :
    WaitsSince { b with lastSeenMs := nowMs } t := by
  rcases h with hpassed | hwaits
  · exact .inl (hpassed.trans hlater)
  · exact .inr hwaits

/-- **A step** that closes nothing early keeps waiting, and allows no call before the timeout. -/
theorem WaitsSince.step (h : b.WaitsSince t) (hsound : Sound policy history b)
    (hstep : BreakerStep b c answer b') (hnot : ¬ c.ClosesEarly b) :
    b'.WaitsSince t ∧ ∀ n, Event.allows (b, c, answer) = some n →
      t + b.policy.fields.recoveryTimeoutMs ≤ n := by
  cases hstep with
  | raised hallow hrecord =>
    refine ⟨h, fun n hn => ?_⟩
    unfold Event.allows at hn
    split at hn
    · rename_i heq
      simp only [Prod.mk.injEq] at heq
      exact absurd heq.2.2 hallow
    · cases hn
  | refused hlater hresult =>
    refine ⟨h.later hlater, fun n hn => ?_⟩
    unfold Event.allows at hn
    split at hn
    · rename_i heq
      simp only [Prod.mk.injEq, CircuitAnswer.allowed.injEq] at heq
      exact absurd heq.2.2 hresult
    · cases hn
  | @passed nowMs hlater hstate =>
    refine ⟨h.later hlater, fun n hn => ?_⟩
    obtain rfl : nowMs = n := Option.some.inj hn
    rcases h with hpassed | ⟨hopen, -⟩
    · exact hpassed.trans hlater
    · exact absurd (hstate.symm.trans hopen) (by decide)
  | @halfOpened nowMs openedAtMs hlater hstate hopened hwaited =>
    have hdue : t + b.policy.fields.recoveryTimeoutMs ≤ nowMs := by
      rcases h with hpassed | ⟨-, o, ho, hle⟩
      · exact hpassed.trans hlater
      · obtain rfl : openedAtMs = o := Option.some.inj (hopened.symm.trans ho)
        omega
    refine ⟨.inl hdue, fun n hn => ?_⟩
    obtain rfl : nowMs = n := Option.some.inj hn
    exact hdue
  | @probed nowMs hlater hstate hroom =>
    have hdue : t + b.policy.fields.recoveryTimeoutMs ≤ nowMs := by
      rcases h with hpassed | ⟨hopen, -⟩
      · exact hpassed.trans hlater
      · exact absurd (hstate.symm.trans hopen) (by decide)
    refine ⟨.inl hdue, fun n hn => ?_⟩
    obtain rfl : nowMs = n := Option.some.inj hn
    exact hdue
  | @succeeded nowMs hlater =>
    refine ⟨.inl ?_, fun n hn => by cases hn⟩
    show t + b.policy.fields.recoveryTimeoutMs ≤ nowMs
    rcases h with hpassed | ⟨hopen, o, ho, hle⟩
    · exact hpassed.trans hlater
    · -- The success comes after the timeout: an earlier one would close the breaker early.
      by_contra hearly
      exact hnot ⟨hopen, hlater, o, ho, by omega⟩
  | @failed nowMs hlater =>
    refine ⟨?_, fun n hn => by cases hn⟩
    rcases failAt_cases { b with lastSeenMs := nowMs } nowMs with
      ⟨hopen, hat, -⟩ | ⟨-, -, hfail⟩
    · rcases h with hpassed | ⟨hwas, o, ho, hle⟩
      · refine .inl ?_
        rw [failAt_policy, failAt_lastSeenMs]
        exact hpassed.trans hlater
      · obtain ⟨o', ho', hseen⟩ := hsound.opened hwas
        obtain rfl : o = o' := Option.some.inj (ho.symm.trans ho')
        exact .inr ⟨hopen, nowMs, hat, by omega⟩
    · rw [hfail]
      exact h.later hlater

theorem waitsSince_of_opensAt (hsound : Sound policy history b)
    (hopens : Event.OpensAt (b, c, machine.out b c) t) : (machine.next b c).WaitsSince t := by
  have hfails := hopens.1
  have hopen : (machine.next b c).state = .OPEN := hopens.2
  have hstep := b.step_call c
  generalize machine.out b c = answer at hstep hfails
  generalize machine.next b c = b' at hstep hopen
  cases hstep with
  | raised hallow hrecord =>
    unfold Event.fails at hfails
    split at hfails
    · rename_i heq
      simp only [Prod.mk.injEq] at heq
      exact absurd heq.2.2 hrecord
    · cases hfails
  | @failed nowMs hlater =>
    obtain rfl : nowMs = t := Option.some.inj hfails
    refine .inr ⟨hopen, nowMs, ?_, le_refl _⟩
    rcases failAt_cases { b with lastSeenMs := nowMs } nowMs with
      ⟨-, hat, -⟩ | ⟨hstate, hfew, hfail⟩
    · exact hat
    · rw [hfail] at hopen
      have htripped := hsound.tripped (by rw [show b.state = .OPEN from hopen]; decide)
      have hfew : b.failures + 1 < b.policy.fields.failureThreshold := hfew
      omega
  | _ => cases hfails

/-! ### The promises -/

theorem waits_exec (policy : CircuitBreakerPolicy)
    (h : machine.Meets (fun b c => ¬ c.ClosesEarly b) (new policy) calls) :
    (machine.trace (new policy) calls).Pairwise fun (opening later : Event) =>
      ∀ t n, opening.OpensAt t → later.allows = some n →
        t + policy.fields.recoveryTimeoutMs ≤ n := by
  have hrun : Sound policy (machine.trace (new policy) calls) (machine.exec (new policy) calls)
      ∧ (machine.trace (new policy) calls).Pairwise (fun (opening later : Event) =>
          ∀ t n, opening.OpensAt t → later.allows = some n →
            t + policy.fields.recoveryTimeoutMs ≤ n)
      ∧ ∀ opening ∈ machine.trace (new policy) calls, ∀ t, Event.OpensAt opening t →
          (machine.exec (new policy) calls).WaitsSince t := by
    refine machine.trace_invariant_of_meets
      (I := fun history b => Sound policy history b
        ∧ history.Pairwise (fun (opening later : Event) =>
            ∀ t n, opening.OpensAt t → later.allows = some n →
              t + policy.fields.recoveryTimeoutMs ≤ n)
        ∧ ∀ opening ∈ history, ∀ t, Event.OpensAt opening t → b.WaitsSince t) ?_ ?_ h
    · rintro history b c hnot ⟨hsound, hpairs, hwaits⟩
      refine ⟨hsound.step (b.step_call c), ?_, fun opening hmem t hopens => ?_⟩
      · refine List.pairwise_append.mpr ⟨hpairs, List.pairwise_singleton _ _, ?_⟩
        intro opening hmem later hlater t n hopens hallows
        obtain rfl := List.mem_singleton.mp hlater
        rw [← hsound.policy]
        exact ((hwaits opening hmem t hopens).step hsound (b.step_call c) hnot).2 n hallows
      · rcases List.mem_append.mp hmem with hold | hnew
        · exact ((hwaits opening hold t hopens).step hsound (b.step_call c) hnot).1
        · obtain rfl := List.mem_singleton.mp hnew
          exact waitsSince_of_opensAt hsound hopens
    · exact ⟨sound_run policy [], List.Pairwise.nil, fun opening hmem => by cases hmem⟩
  exact hrun.2.1

theorem allowedCalls_le (hstate : b.state = .HALF_OPEN)
    (hroom : b.halfOpenCalls ≤ b.policy.fields.halfOpenMaxCalls) (calls : List CircuitCall)
    (hnone : ∀ event ∈ machine.trace b calls, ¬ Event.IsOutcome event) :
    b.halfOpenCalls + allowedCalls (machine.trace b calls)
      ≤ b.policy.fields.halfOpenMaxCalls := by
  induction calls generalizing b with
  | nil => simpa [allowedCalls] using hroom
  | cons c calls ih =>
    rw [machine.trace_cons, List.forall_mem_cons] at hnone
    have hcount : allowedCalls (machine.trace b (c :: calls))
        = allowedCalls (machine.trace (machine.next b c) calls)
          + if (Event.allows (b, c, machine.out b c)).isSome then 1 else 0 := by
      rw [machine.trace_cons, allowedCalls, List.countP_cons]
      rfl
    rw [hcount]
    have hstep := b.step_call c
    obtain ⟨hout, hrest⟩ := hnone
    generalize machine.out b c = answer at hstep hout ⊢
    generalize machine.next b c = b' at hstep hrest ⊢
    cases hstep with
    | raised hallow hrecord =>
      have hnot : (Event.allows (b, c, answer)).isSome = false := by
        unfold Event.allows
        split
        · rename_i heq
          simp only [Prod.mk.injEq] at heq
          exact absurd heq.2.2 hallow
        · rfl
      rw [hnot]
      exact ih hstate hroom hrest
    | @refused nowMs result hlater hresult =>
      have hnot : (Event.allows (b, .allowCall nowMs, .allowed result)).isSome = false := by
        unfold Event.allows
        split
        · rename_i heq
          simp only [Prod.mk.injEq, CircuitAnswer.allowed.injEq] at heq
          exact absurd heq.2.2 hresult
        · rfl
      rw [hnot]
      exact ih (b := { b with lastSeenMs := nowMs }) hstate hroom hrest
    | passed hlater hclosed => exact absurd (hstate.symm.trans hclosed) (by decide)
    | halfOpened hlater hopen hopened hwaited =>
      exact absurd (hstate.symm.trans hopen) (by decide)
    | @probed nowMs hlater hhalf hfree =>
      have hnext := ih (b := { b with lastSeenMs := nowMs, halfOpenCalls := b.halfOpenCalls + 1 })
        hstate hfree hrest
      have hnext : b.halfOpenCalls + 1 + allowedCalls (machine.trace
          { b with lastSeenMs := nowMs, halfOpenCalls := b.halfOpenCalls + 1 } calls)
            ≤ b.policy.fields.halfOpenMaxCalls := hnext
      have hone : (if (Event.allows (b, .allowCall nowMs, .allowed (.ok true))).isSome
          then 1 else 0) = 1 := rfl
      rw [hone]
      push_cast
      omega
    | succeeded hlater => exact absurd (.inl rfl) hout
    | failed hlater => exact absurd (.inr rfl) hout

theorem BreakerStep.halfOpens (hstep : BreakerStep b c answer b') (hopen : b.state = .OPEN)
    (hhalf : b'.state = .HALF_OPEN) : b'.halfOpenCalls = 1 ∧ b'.policy = b.policy := by
  cases hstep with
  | halfOpened hlater hstate hopened hwaited => exact ⟨rfl, rfl⟩
  | succeeded hlater => cases hhalf
  | @failed nowMs hlater =>
    rcases failAt_cases { b with lastSeenMs := nowMs } nowMs with ⟨hafter, -⟩ | ⟨-, -, hfail⟩
    · exact absurd (hhalf.symm.trans hafter) (by decide)
    · rw [hfail] at hhalf
      exact absurd (hhalf.symm.trans hopen) (by decide)
  | _ => exact absurd (hhalf.symm.trans hopen) (by decide)

theorem BreakerStep.trips (hstep : BreakerStep b c answer b') (hclosed : b.state = .CLOSED)
    (hopen : b'.state = .OPEN) : b.policy.fields.failureThreshold ≤ b.failures + 1 := by
  cases hstep with
  | halfOpened hlater hstate hopened hwaited => cases hopen
  | succeeded hlater => cases hopen
  | @failed nowMs hlater =>
    rcases failAt_cases { b with lastSeenMs := nowMs } nowMs with
      ⟨-, -, ⟨hhalf, -⟩ | ⟨-, htrips⟩⟩ | ⟨-, -, hfail⟩
    · exact absurd (hclosed.symm.trans hhalf) (by decide)
    · exact htrips
    · rw [hfail] at hopen
      exact absurd (hclosed.symm.trans hopen) (by decide)
  | _ => exact absurd (hclosed.symm.trans hopen) (by decide)

theorem probes_exec (policy : CircuitBreakerPolicy)
    {before middle rest : List Event} {opening : Event}
    (hsplit : machine.trace (new policy) calls = before ++ opening :: middle ++ rest)
    (hopening : opening.HalfOpens) (hnone : ∀ event ∈ middle, ¬ Event.IsOutcome event) :
    allowedCalls (opening :: middle) ≤ policy.fields.halfOpenMaxCalls := by
  rw [List.append_assoc, List.cons_append] at hsplit
  obtain ⟨js, c, ks, -, -, rfl, hlater⟩ := machine.trace_eq_append_cons hsplit
  obtain ⟨ks, -, -, rfl, -⟩ := machine.trace_eq_append hlater.symm
  have hpolicy := (sound_run policy js).policy
  have hopen : (machine.exec (new policy) js).state = .OPEN := hopening.1
  have hhalf : (machine.next (machine.exec (new policy) js) c).state = .HALF_OPEN := hopening.2
  obtain ⟨hcalls, hkept⟩ := ((machine.exec (new policy) js).step_call c).halfOpens hopen hhalf
  have hroom : (machine.next (machine.exec (new policy) js) c).halfOpenCalls
      ≤ (machine.next (machine.exec (new policy) js) c).policy.fields.halfOpenMaxCalls := by
    rw [hcalls, hkept, hpolicy]
    exact halfOpenMaxCalls_pos policy
  have hbound := allowedCalls_le hhalf hroom ks hnone
  rw [hcalls, hkept, hpolicy] at hbound
  have hfirst : allowedCalls ((machine.exec (new policy) js, c,
        machine.out (machine.exec (new policy) js) c)
          :: machine.trace (machine.next (machine.exec (new policy) js) c) ks)
      ≤ allowedCalls (machine.trace (machine.next (machine.exec (new policy) js) c) ks) + 1 := by
    rw [allowedCalls, List.countP_cons]
    split <;> simp [allowedCalls]
  omega

theorem trips_exec (policy : CircuitBreakerPolicy) {before rest : List Event} {opening : Event}
    (hsplit : machine.trace (new policy) calls = before ++ opening :: rest)
    (hclosed : opening.1.state = .CLOSED) (hopens : opening.OpensAt t) :
    policy.fields.failureThreshold ≤ failuresSinceSuccess (before ++ [opening]) := by
  obtain ⟨js, c, ks, -, rfl, rfl, -⟩ := machine.trace_eq_append_cons hsplit
  have hsound := sound_run policy js
  have htrips := ((machine.exec (new policy) js).step_call c).trips hclosed hopens.2
  rw [hsound.policy] at htrips
  obtain ⟨hfails, -⟩ := hopens
  have hnone : Event.succeeds (machine.exec (new policy) js, c,
      machine.out (machine.exec (new policy) js) c) = none := by
    cases c with
    | recordFailure nowMs => rfl
    | _ => cases hfails
  rw [failuresSinceSuccess_concat, hnone, hfails]
  have hcounted := hsound.counted
  simp only [Option.isNone_none, Option.isSome_some, if_true]
  push_cast
  omega

/-- **A run in which no success is recorded while the breaker is open and waits** keeps what the
breaker promises, however late and in whatever order the outcomes come. -/
theorem protects_exec (policy : CircuitBreakerPolicy) (calls : List CircuitCall)
    (h : machine.Meets (fun b c => ¬ c.ClosesEarly b) (new policy) calls) :
    Protects policy calls where
  waits := waits_exec policy h
  probes _ _ _ _ hsplit hopening hnone := probes_exec policy hsplit hopening hnone
  trips _ _ _ _ hsplit hclosed hopens := trips_exec policy hsplit hclosed hopens

/-! ### A dependency with two calls in flight -/

/-- The policy of a dependency that trips at the first failure. -/
def samplePolicy : CircuitBreakerPolicy := ⟨⟨"model-provider", 1, 10, 1⟩, by decide⟩

/-- A late failure and a late success, the second one after the timeout. -/
theorem protects_late_outcomes :
    Protects samplePolicy [.allowCall 0, .allowCall 0, .recordFailure 1, .recordFailure 2,
      .allowCall 12, .recordFailure 13, .recordSuccess 23, .allowCall 23] :=
  protects_exec samplePolicy _ (by
    simp only [Machine.Meets]
    decide)

/-- **A success that is recorded late** closes the breaker, and a call is allowed at once. -/
theorem late_success_closes :
    ¬ Protects samplePolicy
      [.allowCall 0, .allowCall 0, .recordFailure 1, .recordSuccess 2, .allowCall 3] := by
  intro h
  have hwaits : (1 : ℤ) + 10 ≤ 3 :=
    List.pairwise_iff_getElem.mp h.waits 2 4 (by decide) (by decide) (by decide) 1 3
      ⟨rfl, rfl⟩ rfl
  omega

end CircuitBreaker

end FuturesAgentOs
