import FuturesAgentOs.ExecutionSimulation.OrderProcessor

namespace FuturesAgentOs

open PyModel

/-!
# What one command does

A command is answered without effect, or it *begins*: its id is new, its sequence number is the
next one, and both are recorded before anything else happens.  A begun command is applied,
rejected, or raises.

* `raise_leaves_state_iff` — a raising command leaves the processor as it was exactly when it
  did not begin;
-/

namespace OrderCommandProcessor

variable {ctx : DecimalContext} {p : OrderCommandProcessor}

/-! ### When a command begins -/

/-- The id is canonical and has no recorded outcome, and the sequence number, when given, is the
next one. -/
def Begins (p : OrderCommandProcessor) (commandId : Option Text) (eventSequence : EventSequence)
    (id : Text) : Prop :=
  commandId = some id ∧ id.IsScopeText ∧ p.commands.get? id = none ∧
    (eventSequence = .absent
      ∨ 1 ≤ p.lastEventSequence + 1 ∧ eventSequence = .int (p.lastEventSequence + 1))

/-- An answer that says the command was accepted repeats a recorded outcome. -/
def IsAnswer (p : OrderCommandProcessor) (commandId : Option Text)
    (result : OrderCommandResult) : Prop :=
  result.accepted = true → ∃ id existing, commandId = some id ∧
    p.commands.get? id = some existing ∧ existing.accepted = true

theorem isAnswer_replay {id : Text} {existing : OrderCommandResult}
    (h : p.commands.get? id = some existing) (fingerprint : CommandFingerprint)
    (eventSequence : Option ℤ) :
    p.IsAnswer (some id) (p.replay id fingerprint eventSequence existing) := by
  intro haccepted
  refine ⟨id, existing, rfl, h, ?_⟩
  unfold replay at haccepted
  split at haccepted
  · exact haccepted
  · split at haccepted
    · exact haccepted
    · cases haccepted

theorem validateEventSequence_cases (eventSequence : EventSequence) :
    (∃ e, validateEventSequence eventSequence = .error e ∧ eventSequence ≠ .absent ∧
        ∀ n, eventSequence = .int n → ¬ 1 ≤ n) ∨
      (eventSequence = .absent ∧ validateEventSequence eventSequence = .ok none) ∨
      ∃ n, eventSequence = .int n ∧ 1 ≤ n ∧ validateEventSequence eventSequence = .ok (some n) := by
  rcases eventSequence with _ | n | _
  · exact Or.inr (Or.inl ⟨rfl, rfl⟩)
  · by_cases hn : 1 ≤ n
    · exact Or.inr (Or.inr ⟨n, rfl, hn, if_pos hn⟩)
    · refine Or.inl ⟨_, if_neg hn, by simp, ?_⟩
      intro m hm
      injection hm with hm
      exact hm ▸ hn
  · exact Or.inl ⟨_, rfl, by simp, by simp⟩

/-- **Beginning a command.**  A command that does not begin is refused or answered; one that
does has its sequence reserved. -/
theorem beginCommand_cases (p : OrderCommandProcessor) (commandId : Option Text)
    (fingerprint : CommandFingerprint) (eventSequence : EventSequence) :
    ((∀ id, ¬ p.Begins commandId eventSequence id) ∧
        ∃ e, p.beginCommand commandId fingerprint eventSequence = .error e) ∨
      ((∀ id, ¬ p.Begins commandId eventSequence id) ∧
        ∃ result, p.beginCommand commandId fingerprint eventSequence = .ok (.answered result) ∧
          p.IsAnswer commandId result) ∨
      ∃ id, p.Begins commandId eventSequence id ∧
        p.beginCommand commandId fingerprint eventSequence
          = .ok (.reserved id (p.reserve id fingerprint)) := by
  unfold beginCommand
  rcases commandId with _ | id
  · refine Or.inl ⟨?_, _, rfl⟩
    rintro id ⟨hid, -⟩
    cases hid
  by_cases hcanonical : id.IsScopeText
  swap
  · refine Or.inl ⟨?_, valueError "command_id must be canonical text", ?_⟩
    · rintro id' ⟨hid, hcanonical', -⟩
      injection hid with hid
      exact hcanonical (hid ▸ hcanonical')
    · simp only [validateCommandId, if_neg hcanonical, Py.error_bind]
  have hid : validateCommandId (some id) = .ok id := if_pos hcanonical
  rw [hid, Py.ok_bind]
  obtain ⟨e, herr, habsent, hint⟩ | hvalid := validateEventSequence_cases eventSequence
  · refine Or.inl ⟨?_, e, by rw [herr]; rfl⟩
    rintro id' ⟨-, -, -, hseq | ⟨hpos, hseq⟩⟩
    · exact habsent hseq
    · exact hint _ hseq hpos
  -- the number, if there is one, is positive
  obtain ⟨n, hn, hseq⟩ : ∃ n, validateEventSequence eventSequence = .ok n ∧
      ((eventSequence = .absent ∧ n = none)
        ∨ ∃ m, eventSequence = .int m ∧ 1 ≤ m ∧ n = some m) := by
    rcases hvalid with ⟨habsent, hok⟩ | ⟨m, hint, hpos, hok⟩
    · exact ⟨none, hok, Or.inl ⟨habsent, rfl⟩⟩
    · exact ⟨some m, hok, Or.inr ⟨m, hint, hpos, rfl⟩⟩
  rw [hn, Py.ok_bind]
  rcases hget : p.commands.get? id with _ | existing
  swap
  · refine Or.inr (Or.inl ⟨?_, _, rfl, isAnswer_replay hget fingerprint n⟩)
    rintro id' ⟨hid', -, hnone, -⟩
    injection hid' with hid'
    rw [← hid', hget] at hnone
    cases hnone
  by_cases hnext : n = none ∨ n = some (p.lastEventSequence + 1)
  · refine Or.inr (Or.inr ⟨id, ⟨rfl, hcanonical, hget, ?_⟩, if_pos hnext⟩)
    rcases hseq with ⟨habsent, -⟩ | ⟨m, hint, hpos, rfl⟩
    · exact Or.inl habsent
    · have hm : m = p.lastEventSequence + 1 := by simpa using hnext
      subst hm
      exact Or.inr ⟨hpos, hint⟩
  · refine Or.inr (Or.inl ⟨?_, _, if_neg hnext, fun h => by cases h⟩)
    rintro id' ⟨-, -, -, habsent | ⟨-, hint⟩⟩
    · rcases hseq with ⟨-, hnone⟩ | ⟨m, hint, -⟩
      · exact hnext (Or.inl hnone)
      · rw [habsent] at hint
        cases hint
    · rcases hseq with ⟨habsent, -⟩ | ⟨m, hint', -, hm⟩
      · rw [habsent] at hint
        cases hint
      · rw [hint] at hint'
        injection hint' with hint'
        exact hnext (Or.inr (by rw [hm, hint']))

/-! ### The effect of a command -/

end OrderCommandProcessor

namespace OrderCall

variable (ctx : DecimalContext)

/-- The id argument of a command. -/
def commandId : OrderCall → Option Text
  | register _ => none
  | transition commandId _ _ _ => commandId
  | applyFill commandId _ _ _ => commandId

/-- The call begins a command under an id and a fingerprint. -/
def BeginsAs (p : OrderCommandProcessor) (id : Text) (fingerprint : CommandFingerprint) :
    OrderCall → Prop
  | register _ => False
  | transition commandId orderId target eventSequence =>
    p.Begins commandId eventSequence id ∧
      ∃ status, target = some status ∧ fingerprint = ⟨"TRANSITION", orderId, status.value⟩
  | applyFill commandId orderId quantity eventSequence =>
    p.Begins commandId eventSequence id ∧
      ∃ payload, quantity.repr = .ok payload ∧ fingerprint = ⟨"FILL", orderId, payload⟩

/-- A command begins under an id without a recorded outcome. -/
theorem BeginsAs.get?_eq_none {p : OrderCommandProcessor} {id : Text}
    {fingerprint : CommandFingerprint} {call : OrderCall} (h : call.BeginsAs p id fingerprint) :
    p.commands.get? id = none := by
  rcases call with order | ⟨_, _, _, _⟩ | ⟨_, _, _, _⟩
  · exact h.elim
  · exact h.1.2.2.1
  · exact h.1.2.2.1

/-- The call begins a command. -/
def BeginsIn (p : OrderCommandProcessor) (call : OrderCall) : Prop :=
  ∃ id fingerprint, call.BeginsAs p id fingerprint

/-- What a begun call makes of its order. -/
def update (order : Order) : OrderCall → Py Order
  | register _ => .ok order
  | transition _ _ (some target) _ => order.transition target
  | transition _ _ none _ => .ok order
  | applyFill _ _ quantity _ => order.applyFill ctx quantity

/-- Begun, the call would raise: the fills of its order rule the allowed target out, or adding
the fill overflows. -/
def RaisesWhenBegun (p : OrderCommandProcessor) : OrderCall → Prop
  | register _ => False
  | transition _ orderId target _ =>
    ∃ order status, p.orders.get? orderId = some order ∧ target = some status ∧
      Order.Unsuited order.fields.status status
  | applyFill _ orderId quantity _ =>
    ∃ order, p.orders.get? orderId = some order ∧ Order.FillOverflows ctx order quantity

end OrderCall

namespace OrderCommandProcessor

/-- **The effects of a command.** -/
inductive Effect (ctx : DecimalContext) (p : OrderCommandProcessor) (call : OrderCall) :
    Py (Option OrderCommandResult) → OrderCommandProcessor → Prop where
  /-- refused, without beginning -/
  | refused (e : PyException) (h : ¬ call.BeginsIn p) : Effect ctx p call (.error e) p
  /-- answered, without beginning -/
  | answered (result : OrderCommandResult) (h : ¬ call.BeginsIn p)
      (hanswer : p.IsAnswer call.commandId result) : Effect ctx p call (.ok (some result)) p
  /-- a new order -/
  | registered (order : Order) (hcall : call = .register order)
      (hnew : p.orders.get? order.fields.orderId.str = none) :
      Effect ctx p call (.ok none)
        { p with orders := p.orders.set order.fields.orderId.str order }
  /-- begun, and raised -/
  | raised (id : Text) (fingerprint : CommandFingerprint) (e : PyException)
      (h : call.BeginsAs p id fingerprint) (hraise : call.RaisesWhenBegun ctx p) :
      Effect ctx p call (.error e) (p.reserve id fingerprint)
  /-- begun, and rejected -/
  | rejected (id : Text) (fingerprint : CommandFingerprint) (order : Option Order) (reason : Text)
      (h : call.BeginsAs p id fingerprint) (hno : ¬ call.RaisesWhenBegun ctx p)
      (horder : order = p.orders.get? fingerprint.orderId) (hreason : reason.IsAscii) :
      Effect ctx p call
        (.ok (some ⟨id, false, order, some reason, some (p.lastEventSequence + 1)⟩))
        { p.reserve id fingerprint with
          commands := p.commands.set id
            ⟨id, false, order, some reason, some (p.lastEventSequence + 1)⟩ }
  /-- begun, and applied -/
  | applied (id : Text) (fingerprint : CommandFingerprint) (current updated : Order)
      (h : call.BeginsAs p id fingerprint) (hno : ¬ call.RaisesWhenBegun ctx p)
      (hcurrent : p.orders.get? fingerprint.orderId = some current)
      (hupdate : call.update ctx current = .ok updated) :
      Effect ctx p call
        (.ok (some ⟨id, true, some updated, none, some (p.lastEventSequence + 1)⟩))
        { p.reserve id fingerprint with
          orders := p.orders.set fingerprint.orderId updated
          commands := p.commands.set id
            ⟨id, true, some updated, none, some (p.lastEventSequence + 1)⟩ }

variable (ctx : DecimalContext) (p : OrderCommandProcessor)

private theorem effect_register (order : Order) :
    Effect ctx p (.register order) (p.step ctx (.register order)).1
      (p.step ctx (.register order)).2 := by
  simp only [step, register]
  rcases hget : p.orders.get? order.fields.orderId.str with _ | existing
  · exact .registered order rfl hget
  · exact .refused _ (fun ⟨_, _, h⟩ => h.elim)

private theorem effect_transition (commandId : Option Text) (orderId : Text)
    (target : Option OrderStatus) (eventSequence : EventSequence) :
    Effect ctx p (.transition commandId orderId target eventSequence)
      (p.step ctx (.transition commandId orderId target eventSequence)).1
      (p.step ctx (.transition commandId orderId target eventSequence)).2 := by
  simp only [step, transition]
  rcases target with _ | target
  · exact .refused _ (fun ⟨_, _, _, _, h, _⟩ => by cases h)
  obtain ⟨hno, e, herr⟩ | ⟨hno, result, hok, hanswer⟩ | ⟨id, hbegins, hok⟩ :=
    p.beginCommand_cases commandId ⟨"TRANSITION", orderId, target.value⟩ eventSequence
  · simp only [herr]
    exact .refused e (fun ⟨_, _, h, _⟩ => hno _ h)
  · simp only [hok]
    exact .answered result (fun ⟨_, _, h, _⟩ => hno _ h) hanswer
  simp only [hok]
  have hbegins : OrderCall.BeginsAs p id ⟨"TRANSITION", orderId, target.value⟩
      (.transition commandId orderId (some target) eventSequence) :=
    ⟨hbegins, target, rfl, rfl⟩
  have horders : (p.reserve id ⟨"TRANSITION", orderId, target.value⟩).orders = p.orders := rfl
  rcases hget : p.orders.get? orderId with _ | current
  · simp only [transitionReserved, horders, hget]
    refine .rejected id _ none "UNKNOWN_ORDER" hbegins ?_ hget.symm (by decide)
    rintro ⟨order, status, hget', -⟩
    rw [hget] at hget'
    cases hget'
  by_cases hallowed : target ∈ current.fields.status.allowed
  swap
  · simp only [transitionReserved, horders, hget, orderTransitions_eq, if_pos hallowed]
    refine .rejected id _ (some current) "INVALID_TRANSITION" hbegins ?_ hget.symm (by decide)
    rintro ⟨order, status, hget', hstatus, hun⟩
    rw [hget] at hget'
    cases hget'
    cases hstatus
    apply hallowed
    revert hun
    rcases current.fields.status <;> rcases target <;> decide
  obtain ⟨hun, e, herr⟩ | ⟨hun, updated, hupdate, -⟩ := current.transition_cases hallowed
  · simp only [transitionReserved, horders, hget, orderTransitions_eq, if_neg
      (not_not.mpr hallowed),
      herr]
    exact .raised id _ e hbegins ⟨current, target, hget, rfl, hun⟩
  · simp only [transitionReserved, horders, hget, orderTransitions_eq, if_neg
      (not_not.mpr hallowed),
      hupdate]
    refine .applied id _ current updated hbegins ?_ hget hupdate
    rintro ⟨order, status, hget', hstatus, hun'⟩
    rw [hget] at hget'
    cases hget'
    cases hstatus
    exact hun hun'

private theorem effect_applyFill (commandId : Option Text) (orderId : Text)
    (quantity : FillQuantity) (eventSequence : EventSequence) :
    Effect ctx p (.applyFill commandId orderId quantity eventSequence)
      (p.step ctx (.applyFill commandId orderId quantity eventSequence)).1
      (p.step ctx (.applyFill commandId orderId quantity eventSequence)).2 := by
  simp only [step, applyFill]
  rcases hrepr : quantity.repr with e | payload
  · refine .refused e ?_
    rintro ⟨_, _, _, payload, h, _⟩
    rw [hrepr] at h
    cases h
  obtain ⟨hno, e, herr⟩ | ⟨hno, result, hok, hanswer⟩ | ⟨id, hbegins, hok⟩ :=
    p.beginCommand_cases commandId ⟨"FILL", orderId, payload⟩ eventSequence
  · simp only [herr]
    exact .refused e (fun ⟨_, _, h, _⟩ => hno _ h)
  · simp only [hok]
    exact .answered result (fun ⟨_, _, h, _⟩ => hno _ h) hanswer
  simp only [hok]
  have hbegins : OrderCall.BeginsAs p id ⟨"FILL", orderId, payload⟩
      (.applyFill commandId orderId quantity eventSequence) :=
    ⟨hbegins, payload, hrepr, rfl⟩
  have horders : (p.reserve id ⟨"FILL", orderId, payload⟩).orders = p.orders := rfl
  rcases hget : p.orders.get? orderId with _ | current
  · simp only [applyFillReserved, horders, hget]
    refine .rejected id _ none "UNKNOWN_ORDER" hbegins ?_ hget.symm (by decide)
    rintro ⟨order, hget', -⟩
    rw [hget] at hget'
    cases hget'
  have hraises : OrderCall.RaisesWhenBegun ctx p
      (.applyFill commandId orderId quantity eventSequence)
      ↔ Order.FillOverflows ctx current quantity := by
    constructor
    · rintro ⟨order, hget', hover⟩
      rw [hget] at hget'
      cases hget'
      exact hover
    · intro hover
      exact ⟨current, hget, hover⟩
  obtain ⟨hover, e, herr, hkind⟩ | ⟨hover, herr⟩ | ⟨hover, updated, _, _, -, -, -, hupdate, -⟩ :=
    current.applyFill_cases ctx quantity
  · have hcaught : IsTypeOrValueError e := by
      rw [IsTypeOrValueError, hkind.1]
      simp
    simp only [applyFillReserved, horders, hget, herr, if_pos hcaught]
    exact .rejected id _ (some current) e.message hbegins (hraises.not.mpr hover) hget.symm hkind.2
  · have hescapes : ¬ IsTypeOrValueError decimalOverflow := by decide
    simp only [applyFillReserved, horders, hget, herr, if_neg hescapes]
    exact .raised id _ _ hbegins (hraises.mpr hover)
  · simp only [applyFillReserved, horders, hget, hupdate]
    exact .applied id _ current updated hbegins (hraises.not.mpr hover) hget hupdate

/-- **One command** has one of the effects. -/
theorem step_cases (call : OrderCall) :
    Effect ctx p call (p.step ctx call).1 (p.step ctx call).2 := by
  rcases call with order | ⟨commandId, orderId, target, eventSequence⟩ |
    ⟨commandId, orderId, quantity, eventSequence⟩
  · exact p.effect_register ctx order
  · exact p.effect_transition ctx commandId orderId target eventSequence
  · exact p.effect_applyFill ctx commandId orderId quantity eventSequence

/-! ### What a raising command leaves behind -/

theorem reserve_ne (id : Text) (fingerprint : CommandFingerprint) :
    p.reserve id fingerprint ≠ p := by
  intro h
  have hlast := congrArg OrderCommandProcessor.lastEventSequence h
  simp only [reserve] at hlast
  omega

/-- **A raising command leaves the processor as it was** exactly when it is not one that begins
and then raises. -/
theorem raise_leaves_state_iff (call : OrderCall) :
    ((p.step ctx call).1.Raises → (p.step ctx call).2 = p)
      ↔ ¬ (call.BeginsIn p ∧ call.RaisesWhenBegun ctx p) := by
  have heffect := p.step_cases ctx call
  generalize p.step ctx call = result at heffect ⊢
  obtain ⟨answer, q⟩ := result
  constructor
  · rintro hleaves ⟨hbegins, hraises⟩
    rcases heffect with ⟨e, h⟩ | ⟨answer, h⟩ | ⟨order, hcall⟩ | ⟨id, fingerprint, e⟩ |
      ⟨id, fingerprint, order, reason, h, hno⟩ | ⟨id, fingerprint, current, updated, h, hno⟩
    · exact h hbegins
    · exact h hbegins
    · rw [hcall] at hraises
      exact hraises
    · -- the reserved sequence number shows
      exact p.reserve_ne id fingerprint (hleaves (Py.raises_error e))
    · exact hno hraises
    · exact hno hraises
  · intro hno hraises
    rcases heffect with ⟨e, h⟩ | ⟨answer, h⟩ | ⟨order, hcall⟩ | ⟨id, fingerprint, e, h, hraise⟩ |
      ⟨id, fingerprint, order, reason, h⟩ | ⟨id, fingerprint, current, updated, h⟩
    · rfl
    · exact absurd hraises (Py.not_raises_ok _)
    · exact absurd hraises (Py.not_raises_ok _)
    · exact absurd ⟨⟨id, fingerprint, h⟩, hraise⟩ hno
    · exact absurd hraises (Py.not_raises_ok _)
    · exact absurd hraises (Py.not_raises_ok _)

/-! ### A command lost by a raise -/

/-- An order of one contract. -/
def sampleOrder : Order where
  fields :=
    { orderId := .epoch "order" 0 0 (Eq.refl true)
      executionPlanId := .epoch "execution_plan" 0 0 (Eq.refl true)
      instrument := "SHFE:AG"
      direction := .LONG
      quantity := Decimal.ofNat 1
      createdAt := ⟨.of 2026 7 13 (Eq.refl true), 0, 0, 0, 0⟩ }
  valid := by decide +kernel

/-- A transition of the sample order. -/
def sampleTransition (id : Text) (target : OrderStatus) (n : ℤ) : OrderCall :=
  .transition (some id) sampleOrder.fields.orderId.str (some target) (.int n)

/-- The sample order, working. -/
def workingCalls : List OrderCall :=
  [.register sampleOrder, sampleTransition "accept" .ACCEPTED 1, sampleTransition "work" .WORKING 2]

/-- The transition of the working order to `FILLED` raises and consumes sequence number 3, so
that the corrected command under the same id and number is refused as a gap. -/
theorem sequence_lost_by_raise :
    ((run defaultContext workingCalls).step defaultContext
        (sampleTransition "fill" .FILLED 3)).1.Raises ∧
      ((run defaultContext workingCalls).step defaultContext
        (sampleTransition "fill" .FILLED 3)).2 ≠ run defaultContext workingCalls ∧
      ((run defaultContext (workingCalls ++ [sampleTransition "fill" .FILLED 3])).step
          defaultContext (sampleTransition "fill" .CANCELLED 3)).1
        = .ok (some ⟨"fill", false, none, some "EVENT_SEQUENCE_GAP", some 3⟩) := by
  decide +kernel

end OrderCommandProcessor

end FuturesAgentOs
