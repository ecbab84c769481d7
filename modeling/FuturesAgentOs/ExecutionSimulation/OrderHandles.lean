import FuturesAgentOs.ExecutionSimulation.OrderRecovery
import FuturesAgentOs.PyModel.SharedFile

namespace FuturesAgentOs

open PyModel

/-!
# Several handles on one order file

Each method of `DurableOrderCommandProcessor` holds the lock of the file, reads the file when it
exists, works in memory and writes the file before it returns.  `register` is more lenient than
that of the processor in memory: an order that is registered already is accepted again when it is
equal (`registerOnce`).

* `handles_agree` — so its handles are one processor to their callers.
-/

namespace Order

/-- Python's `==` on orders: `==` of all fields. -/
def SameAs (a b : Order) : Prop :=
  a.fields.orderId = b.fields.orderId ∧ a.fields.executionPlanId = b.fields.executionPlanId
    ∧ a.fields.instrument = b.fields.instrument ∧ a.fields.direction = b.fields.direction
    ∧ a.fields.quantity.numEq b.fields.quantity ∧ a.fields.status = b.fields.status
    ∧ a.fields.filledQuantity.numEq b.fields.filledQuantity
    ∧ SamePrice a.fields.limitPrice b.fields.limitPrice
    ∧ SamePrice a.fields.stopPrice b.fields.stopPrice
    ∧ a.fields.createdAt = b.fields.createdAt ∧ a.fields.version = b.fields.version
    ∧ a.fields.schemaVersion = b.fields.schemaVersion ∧ a.fields.sourceRef = b.fields.sourceRef

instance (a b : Order) : Decidable (a.SameAs b) := inferInstanceAs (Decidable (_ ∧ _))

end Order

namespace OrderCommandProcessor

variable (ctx : DecimalContext) (p : OrderCommandProcessor)

/-- `DurableOrderCommandProcessor.register`, between reading and writing the file. -/
def registerOnce (order : Order) : Py Unit × OrderCommandProcessor :=
  match p.orders.get? order.fields.orderId.str with
  | none => p.register order
  | some existing =>
    if existing.SameAs order then (.ok (), p)
    else (.error (valueError "order already registered with different payload"), p)

/-- A method of `DurableOrderCommandProcessor`, between reading and writing the file. -/
def work : OrderCall → Py (Option OrderCommandResult) × OrderCommandProcessor
  | .register order =>
    let (answer, q) := p.registerOnce order
    (answer.map (fun _ => none), q)
  | call => p.step ctx call

/-- `DurableOrderCommandProcessor` -/
def durable [Hashlib] (isPrintable : CodePoint → Bool) :
    SharedFile OrderCommandProcessor OrderCall (Option OrderCommandResult) Text where
  fresh := empty
  load := load isPrintable
  persist := persist
  work := fun p call => p.work ctx call

theorem work_cases (call : OrderCall) :
    p.work ctx call = p.step ctx call ∨ ∃ order existing, call = .register order ∧
      p.orders.get? order.fields.orderId.str = some existing ∧
      (p.work ctx call = (.ok none, p) ∨ ∃ e, p.work ctx call = (.error e, p)) := by
  rcases call with order | ⟨_, _, _, _⟩ | ⟨_, _, _, _⟩
  · rcases hget : p.orders.get? order.fields.orderId.str with _ | existing
    · left
      simp only [work, registerOnce, hget, step]
    · refine Or.inr ⟨order, existing, rfl, hget, ?_⟩
      by_cases hsame : existing.SameAs order
      · left
        simp only [work, registerOnce, hget, if_pos hsame]
        rfl
      · right
        simp only [work, registerOnce, hget, if_neg hsame]
        exact ⟨_, rfl⟩
  · exact Or.inl rfl
  · exact Or.inl rfl

end OrderCommandProcessor

/-! ### What can be written -/

/-- The numbers of an order are within the limit of `int`. -/
def Order.Fits (o : Order) : Prop := FitsStr o.fields.version ∧ o.fields.schemaVersion.FitsStr

theorem Order.fits_of_payload {o : Order} {v : Json} (hv : orderToPayload o = .ok v)
    (hwritable : v.isWritable = true) : o.Fits := by
  obtain ⟨schemaVersion, hstr, hv⟩ := Py.of_bind hv
  rw [← Except.ok.inj hv, Json.isWritable, Json.membersWritable_iff] at hwritable
  have hversion := hwritable ("version", .int o.fields.version) (by simp)
  exact ⟨of_decide_eq_true hversion, SchemaVersion.fits_of_str hstr⟩

/-- A begun call keeps these numbers. -/
theorem OrderCall.fits_update {ctx : DecimalContext} {current updated : Order} {call : OrderCall}
    (h : call.update ctx current = .ok updated) : updated.Fits ↔ current.Fits := by
  rcases call with order | ⟨_, _, _ | target, _⟩ | ⟨_, _, quantity, _⟩
  · rw [Except.ok.inj h]
  · rw [Except.ok.inj h]
  · obtain ⟨-, hfields⟩ := Order.transition_ok h
    rw [Order.Fits, hfields]
    rfl
  · obtain ⟨-, d, filled, -, -, -, hfields⟩ := Order.applyFill_ok h
    rw [Order.Fits, hfields]
    rfl

namespace OrderCommandProcessor

variable {ctx : DecimalContext} {p : OrderCommandProcessor}

/-- The numbers of orders and outcomes are within the limit of `int`. -/
structure Fits (p : OrderCommandProcessor) : Prop where
  orders : ∀ k o, p.orders.get? k = some o → o.Fits
  lastEventSequence : FitsStr p.lastEventSequence

section

variable [Hashlib]

/-- **What was written** has such numbers. -/
theorem fits_of_persist {text : Text} (h : p.persist = .ok text) : p.Fits := by
  obtain ⟨payload, hpayload, h⟩ := Py.of_bind h
  obtain ⟨digest, hdigest, -⟩ := Py.of_bind h
  have hwritable : payload.isWritable = true := by
    by_contra hnot
    rw [canonicalSha256, Json.dumps, if_neg hnot] at hdigest
    cases hdigest
  obtain ⟨orders, horders, hpayload⟩ := Py.of_bind hpayload
  obtain ⟨commands, -, hpayload⟩ := Py.of_bind hpayload
  rw [← Except.ok.inj hpayload, Json.isWritable, Json.membersWritable_iff] at hwritable
  have harray := hwritable ("orders", .arr orders) (by simp)
  rw [Json.isWritable, Json.areWritable_iff] at harray
  refine ⟨fun k o ho => ?_, ?_⟩
  · obtain ⟨v, hv, hpayload⟩ := Py.mem_of_mapM horders o (Dict.mem_values_iff.mpr ⟨k, ho⟩)
    exact Order.fits_of_payload hpayload (harray v hv)
  · exact of_decide_eq_true
      (hwritable ("last_event_sequence", .int p.snapshot.lastEventSequence) (by simp))

end

theorem isRestorable_of_ok {call : OrderCall} {answer : Option OrderCommandResult}
    {q : OrderCommandProcessor} (hstep : p.step ctx call = (.ok answer, q))
    (hnul : ∀ id fingerprint, call.BeginsAs p id fingerprint → nul ∉ fingerprint.orderId) :
    call.IsRestorable ctx p := by
  refine ⟨?_, hnul⟩
  rintro ⟨hbegins, hraises⟩
  have heffect := p.step_cases ctx call
  rw [hstep] at heffect
  rcases heffect with _ | ⟨_, hno⟩ | ⟨order, hcall⟩ | _ | ⟨_, _, _, _, _, hno⟩ |
    ⟨_, _, _, _, _, hno⟩
  · exact hno hbegins
  · rw [hcall] at hraises
    exact hraises
  · exact hno hraises
  · exact hno hraises

/-- A command that returns and leaves a processor that can be written is storable, when its texts
survive JSON. -/
theorem isStorable_of_fits {call : OrderCall} {answer : Option OrderCommandResult}
    {q : OrderCommandProcessor} (hstep : p.step ctx call = (.ok answer, q)) (hfits : q.Fits)
    (htexts : ∀ id fingerprint, call.BeginsAs p id fingerprint → id.IsJsonSafe ∧
      fingerprint.orderId.IsJsonSafe ∧ fingerprint.payload.IsJsonSafe)
    (horder : ∀ order, call = .register order →
      order.fields.instrument.IsJsonSafe ∧ order.fields.sourceRef.IsJsonSafe) :
    call.IsStorable p := by
  have heffect := p.step_cases ctx call
  rw [hstep] at heffect
  constructor
  · intro id fingerprint hbegins
    obtain ⟨hid, horderId, hpayload⟩ := htexts id fingerprint hbegins
    refine ⟨hid, horderId, hpayload, ?_⟩
    have hlast := hfits.lastEventSequence
    rcases heffect with _ | ⟨_, hno⟩ | ⟨order, hcall⟩ | _ | _ | _
    · exact absurd ⟨id, fingerprint, hbegins⟩ hno
    · rw [hcall] at hbegins
      exact hbegins.elim
    · exact hlast
    · exact hlast
  · rintro order rfl hnew
    have hregister : p.step ctx (.register order)
        = (.ok none, { p with orders := p.orders.set order.fields.orderId.str order }) := by
      simp only [step, register, hnew, Option.isSome_none, Bool.false_eq_true, if_false]
      rfl
    rw [hregister, Prod.mk.injEq] at hstep
    have hget := hfits.orders order.fields.orderId.str order
    rw [← hstep.2] at hget
    obtain ⟨hversion, hschema⟩ := hget (Dict.get?_set_self _ _ _)
    exact ⟨(horder order rfl).1, (horder order rfl).2, hversion, hschema⟩

end OrderCommandProcessor

/-! ### Commands whose texts survive the file -/

/-- The texts of a command survive JSON, and its order id has no NUL. -/
def OrderCall.IsWellFormed : OrderCall → Prop
  | register order => order.fields.instrument.IsJsonSafe ∧ order.fields.sourceRef.IsJsonSafe
  | transition commandId orderId _ _ =>
    (∀ id ∈ commandId, Text.IsJsonSafe id) ∧ orderId.IsJsonSafe
      ∧ OrderCommandProcessor.nul ∉ orderId
  | applyFill commandId orderId quantity _ =>
    ((∀ id ∈ commandId, Text.IsJsonSafe id) ∧ orderId.IsJsonSafe
      ∧ OrderCommandProcessor.nul ∉ orderId) ∧
      ∀ payload, quantity.repr = .ok payload → payload.IsJsonSafe

namespace OrderCommandProcessor

variable {ctx : DecimalContext} {p : OrderCommandProcessor}

variable {call : OrderCall}

theorem texts_of_isWellFormed (h : call.IsWellFormed) {id : Text}
    {fingerprint : CommandFingerprint} (hbegins : call.BeginsAs p id fingerprint) :
    nul ∉ fingerprint.orderId ∧ id.IsJsonSafe ∧ fingerprint.orderId.IsJsonSafe
      ∧ fingerprint.payload.IsJsonSafe := by
  rcases call with order | ⟨commandId, orderId, target, n⟩ | ⟨commandId, orderId, quantity, n⟩
  · exact hbegins.elim
  · obtain ⟨⟨hid, -⟩, status, -, rfl⟩ := hbegins
    obtain ⟨hcommand, horderId, hnul⟩ := h
    have hstatus : status.value.IsJsonSafe := by
      rcases status <;> decide
    exact ⟨hnul, hcommand id hid, horderId, hstatus⟩
  · obtain ⟨⟨hid, -⟩, payload, hrepr, rfl⟩ := hbegins
    obtain ⟨⟨hcommand, horderId, hnul⟩, hpayload⟩ := h
    exact ⟨hnul, hcommand id hid, horderId, hpayload payload hrepr⟩

/-- What the file is known to hold. -/
def Good (p : OrderCommandProcessor) : Prop := p.Recoverable ∧ p.Storable

theorem good_empty : empty.Good := ⟨recoverable_empty, storable_empty⟩

/-- **A returning command** keeps a state good, when the state that it leaves can be written. -/
theorem good_step (hcall : call.IsWellFormed) (h : p.Good)
    {answer : Option OrderCommandResult} {q : OrderCommandProcessor}
    (hstep : p.step ctx call = (.ok answer, q)) (hfits : q.Fits) : q.Good := by
  have hrestorable : call.IsRestorable ctx p :=
    isRestorable_of_ok hstep (fun id fingerprint hbegins =>
      (texts_of_isWellFormed hcall hbegins).1)
  have hstorable : call.IsStorable p := by
    refine isStorable_of_fits hstep hfits
      (fun id fingerprint hbegins => (texts_of_isWellFormed hcall hbegins).2) ?_
    rintro order rfl
    exact hcall
  have hnext : (machine ctx).next p call = q := congrArg Prod.snd hstep
  exact ⟨hnext ▸ recoverable_next call hrestorable h.1,
    hnext ▸ storable_next call hrestorable hstorable h.2⟩

/-! ### Memories that are never written -/

/-- An order of the processor has a number that cannot be written. -/
def Unwritable (p : OrderCommandProcessor) : Prop :=
  ∃ k o, p.orders.get? k = some o ∧ ¬ o.Fits

/-- What the memory of a handle is as long as no call returned. -/
def Idle (p : OrderCommandProcessor) : Prop := p = empty ∨ p.Unwritable

theorem unwritable_step (call : OrderCall) (h : p.Unwritable) :
    (p.step ctx call).2.Unwritable := by
  have heffect := p.step_cases ctx call
  generalize p.step ctx call = result at heffect ⊢
  obtain ⟨answer, q⟩ := result
  obtain ⟨k, o, hget, hfits⟩ := h
  rcases heffect with _ | _ | ⟨order, -, hnew⟩ | _ | _ |
    ⟨id, fingerprint, current, updated, -, -, hcurrent, hupdate⟩
  · exact ⟨k, o, hget, hfits⟩
  · exact ⟨k, o, hget, hfits⟩
  · refine ⟨k, o, ?_, hfits⟩
    have hne : k ≠ order.fields.orderId.str := by
      rintro rfl
      rw [hget] at hnew
      cases hnew
    exact (Dict.get?_set_of_ne _ _ hne).trans hget
  · exact ⟨k, o, hget, hfits⟩
  · exact ⟨k, o, hget, hfits⟩
  · by_cases hk : k = fingerprint.orderId
    · -- the order itself is updated, and keeps its numbers
      rw [← hk, hget] at hcurrent
      obtain rfl := Option.some.inj hcurrent
      refine ⟨k, updated, ?_, fun hu => hfits ((OrderCall.fits_update hupdate).mp hu)⟩
      rw [hk]
      exact Dict.get?_set_self _ _ _
    · exact ⟨k, o, (Dict.get?_set_of_ne _ _ hk).trans hget, hfits⟩

section

variable [Hashlib]

theorem Unwritable.persist_raises (h : p.Unwritable) : p.persist.Raises := by
  obtain ⟨k, o, hget, hfits⟩ := h
  by_contra hno
  obtain ⟨text, htext⟩ := Py.not_raises_iff.mp hno
  exact hfits ((fits_of_persist htext).orders k o hget)

theorem Good.exists_persist (isPrintable : CodePoint → Bool) (h : p.Good) :
    ∃ text, p.persist = .ok text ∧ load isPrintable text = .ok p :=
  load_persist_of_restore isPrintable h.2.snapshot (restore_snapshot h.1)

/-- A call on a new processor that raises, or whose result cannot be written. -/
theorem idle_step_empty {call : OrderCall} (hcall : call.IsWellFormed)
    (h : (empty.step ctx call).1.Raises ∨ (empty.step ctx call).2.persist.Raises) :
    (empty.step ctx call).2.Idle := by
  have heffect := empty.step_cases ctx call
  have hgood : ∀ answer, (empty.step ctx call).1 = .ok answer → (empty.step ctx call).2.Fits →
      ¬ ((empty.step ctx call).1.Raises ∨ (empty.step ctx call).2.persist.Raises) := by
    intro answer hanswer hfits
    obtain ⟨text, htext, -⟩ :=
      (good_step hcall good_empty (Prod.ext hanswer rfl) hfits).exists_persist (fun _ => false)
    rw [hanswer, htext]
    simp
  generalize empty.step ctx call = result at heffect hgood h ⊢
  obtain ⟨answer, q⟩ := result
  rcases heffect with _ | _ | ⟨order, -, hnew⟩ | ⟨id, fingerprint, e, hbegins, hraises⟩ |
    ⟨id, fingerprint, order, reason, -⟩ | ⟨_, _, current, _, -, -, hcurrent⟩
  · exact Or.inl rfl
  · exact Or.inl rfl
  · right
    refine ⟨order.fields.orderId.str, order, Dict.get?_set_self _ _ _, fun hfits => ?_⟩
    have hzero : FitsStr 0 := by decide
    refine hgood none rfl ⟨fun k o hget => ?_, hzero⟩ h
    rw [Dict.get?_set] at hget
    split at hget
    · exact Option.some.inj hget ▸ hfits
    · cases hget
  · -- nothing is registered, so nothing can raise
    rcases call with _ | ⟨_, _, _, _⟩ | ⟨_, _, _, _⟩
    · exact hraises.elim
    · obtain ⟨order, status, hget, -⟩ := hraises
      cases hget
    · obtain ⟨order, hget, -⟩ := hraises
      cases hget
  · have hone : FitsStr 1 := by decide
    refine absurd h (hgood _ rfl ⟨fun k o hget => ?_, hone⟩)
    cases hget
  · cases hcurrent

theorem idle_work {call : OrderCall} (hcall : call.IsWellFormed) (hidle : p.Idle)
    (h : (p.work ctx call).1.Raises ∨ (p.work ctx call).2.persist.Raises) :
    (p.work ctx call).2.Idle := by
  rcases p.work_cases ctx call with hwork | ⟨order, existing, -, -, hwork⟩
  · rw [hwork] at h ⊢
    rcases hidle with rfl | hunwritable
    · exact idle_step_empty hcall h
    · exact Or.inr (unwritable_step call hunwritable)
  · rcases hwork with hwork | ⟨e, hwork⟩
    · rw [hwork]
      exact hidle
    · rw [hwork]
      exact hidle

/-- **The store is faithful.** -/
theorem faithful (ctx : DecimalContext) (isPrintable : CodePoint → Bool) :
    (durable ctx isPrintable).Faithful OrderCall.IsWellFormed Good Idle where
  good_fresh := good_empty
  load := by
    intro s text hgood hpersist
    obtain ⟨text', htext', hload⟩ := hgood.exists_persist isPrintable
    obtain rfl : text' = text := Except.ok.inj (htext'.symm.trans hpersist)
    exact hload
  good_work := by
    intro s call answer after text hcall hgood hwork hpersist
    have hwork : s.work ctx call = (.ok answer, after) := hwork
    rcases s.work_cases ctx call with hstep | ⟨order, existing, -, -, hsame | ⟨e, herror⟩⟩
    · exact good_step hcall hgood (hstep.symm.trans hwork) (fits_of_persist hpersist)
    · rw [hsame, Prod.mk.injEq] at hwork
      exact hwork.2 ▸ hgood
    · rw [herror, Prod.mk.injEq] at hwork
      cases hwork.1
  idle_fresh := Or.inl rfl
  idle_work := by
    intro s call answer after hcall hidle hwork h
    have hwork : s.work ctx call = (answer, after) := hwork
    have hkept : _ → (s.work ctx call).2.Idle := idle_work hcall hidle
    rw [hwork] at hkept
    exact hkept h
  first := by
    intro s call answer after text hcall hidle hwork hpersist
    have hwork : s.work ctx call = (.ok answer, after) := hwork
    rcases hidle with rfl | hunwritable
    · rfl
    · -- a memory that cannot be written makes no file
      have hafter : after.Unwritable := by
        rcases s.work_cases ctx call with hstep | ⟨order, existing, -, -, hsame | ⟨e, herror⟩⟩
        · have hkept : (s.step ctx call).2.Unwritable := unwritable_step call hunwritable
          rwa [← hstep, hwork] at hkept
        · rw [hsame, Prod.mk.injEq] at hwork
          exact hwork.2 ▸ hunwritable
        · rw [herror, Prod.mk.injEq] at hwork
          cases hwork.1
      obtain ⟨e, he⟩ := hafter.persist_raises
      have hpersist : after.persist = .ok text := hpersist
      rw [he] at hpersist
      cases hpersist

/-- **The handles are one processor.** However the commands of any number of handles on one file
are interleaved, those that returned have the answers of one processor that receives them in the
same order, where an order that is registered again and equal is accepted; and the file holds the
state of that processor. -/
theorem handles_agree (ctx : DecimalContext) (isPrintable : CodePoint → Bool)
    (events : List (SharedFile.Event OrderCall))
    (hevents : ∀ handle call, .call handle call ∈ events → call.IsWellFormed) :
    (durable ctx isPrintable).Agrees
      ((durable ctx isPrintable).machine.trace SharedFile.start events)
      ((durable ctx isPrintable).machine.exec SharedFile.start events) :=
  (faithful ctx isPrintable).agrees events hevents

end

/-- Two handles take turns, and the second one registers the sample order again. -/
def takingTurns : List (SharedFile.Event OrderCall) :=
  [.opened, .opened, .call 0 (.register sampleOrder), .call 1
    (sampleTransition "accept" .ACCEPTED 1),
    .call 1 (.register sampleOrder), .call 0 (sampleTransition "work" .WORKING 2)]

theorem isWellFormed_takingTurns {handle : ℕ}
    (h : .call handle call ∈ takingTurns) : call.IsWellFormed := by
  have hregister : (OrderCall.register sampleOrder).IsWellFormed :=
    ⟨by decide +kernel, by decide +kernel⟩
  have htransition : ∀ id target n, Text.IsAscii id →
      (sampleTransition id target n).IsWellFormed := by
    intro id target n hid
    refine ⟨?_, sampleOrder.fields.orderId.isAscii_str.isJsonSafe, by decide +kernel⟩
    intro id' hid'
    exact (Option.some.inj hid') ▸ hid.isJsonSafe
  simp only [takingTurns, List.mem_cons, List.not_mem_nil, or_false, reduceCtorEq, false_or,
    SharedFile.Event.call.injEq] at h
  rcases h with ⟨-, rfl⟩ | ⟨-, rfl⟩ | ⟨-, rfl⟩ | ⟨-, rfl⟩
  · exact hregister
  · exact htransition _ _ _ (by decide)
  · exact hregister
  · exact htransition _ _ _ (by decide)

theorem takingTurns_agree :
    (durable defaultContext (fun _ => false)).Agrees
      ((durable defaultContext (fun _ => false)).machine.trace SharedFile.start takingTurns)
      ((durable defaultContext (fun _ => false)).machine.exec SharedFile.start takingTurns) :=
  handles_agree defaultContext (fun _ => false) takingTurns
    (fun _ _ h => isWellFormed_takingTurns h)

/-! ### Where the handles are not the processor in memory -/

/-- The calls that returned have the answers of an `OrderCommandProcessor` that receives them in
the same order, and the file holds its state. -/
def ActAsOne [Hashlib] (ctx : DecimalContext) (isPrintable : CodePoint → Bool)
    (events : List (SharedFile.Event OrderCall)) : Prop :=
  let store := durable ctx isPrintable
  let calls := SharedFile.returned (store.machine.trace SharedFile.start events)
  (machine ctx).outputs empty (calls.map Prod.fst) = calls.map (fun call => .ok call.2)
    ∧ store.reloaded (store.machine.exec SharedFile.start events) empty
      = .ok ((machine ctx).exec empty (calls.map Prod.fst))

/-- Each of two handles is called once. -/
def oneEach (first second : OrderCall) : List (SharedFile.Event OrderCall) :=
  [.opened, .opened, .call 0 first, .call 1 second]

section

variable [Hashlib] {isPrintable : CodePoint → Bool} {first second : OrderCall}
  {a b : Option OrderCommandResult} {afterFirst read afterSecond : OrderCommandProcessor}
  {text text' : Text}

theorem returned_oneEach (hfirst : empty.work ctx first = (.ok a, afterFirst))
    (hwrite : afterFirst.persist = .ok text) (hread : load isPrintable text = .ok read)
    (hsecond : read.work ctx second = (.ok b, afterSecond))
    (hwrite' : afterSecond.persist = .ok text') :
    SharedFile.returned ((durable ctx isPrintable).machine.trace SharedFile.start
      (oneEach first second)) = [(first, a), (second, b)] := by
  have hopened : (durable ctx isPrintable).machine.next ((durable ctx isPrintable).machine.next
      SharedFile.start .opened) .opened = ⟨none, [empty, empty]⟩ := rfl
  have hcall : (durable ctx isPrintable).machine.step ⟨none, [empty, empty]⟩ (.call 0 first)
      = (.ok (some a), ⟨some text, [afterFirst, empty]⟩) := by
    show (durable ctx isPrintable).callOn ⟨none, [empty, empty]⟩ 0 empty first = _
    have hwork : (durable ctx isPrintable).work empty first = (.ok a, afterFirst) := hfirst
    have hpersist : (durable ctx isPrintable).persist afterFirst = .ok text := hwrite
    simp only [SharedFile.callOn, hwork, hpersist]
    rfl
  have hcall' : (durable ctx isPrintable).machine.out ⟨some text, [afterFirst, empty]⟩
      (.call 1 second) = .ok (some b) := by
    show ((durable ctx isPrintable).call ⟨some text, [afterFirst, empty]⟩ 1 second).1 = _
    have hload : (durable ctx isPrintable).load text = .ok read := hread
    have hwork : (durable ctx isPrintable).work read second = (.ok b, afterSecond) := hsecond
    have hpersist : (durable ctx isPrintable).persist afterSecond = .ok text' := hwrite'
    simp [SharedFile.call, SharedFile.reloaded, hload, SharedFile.callOn, hwork, hpersist]
  have hnext : (durable ctx isPrintable).machine.next ⟨none, [empty, empty]⟩ (.call 0 first)
      = ⟨some text, [afterFirst, empty]⟩ := congrArg Prod.snd hcall
  have hout : (durable ctx isPrintable).machine.out ⟨none, [empty, empty]⟩ (.call 0 first)
      = .ok (some a) := congrArg Prod.fst hcall
  rw [oneEach, Machine.trace_cons, Machine.trace_cons, hopened, Machine.trace_cons, hout, hnext,
    Machine.trace_cons, hcall', Machine.trace_nil]
  rfl

/-- The processor in memory answers the second call otherwise. -/
theorem not_actAsOne (hfirst : empty.work ctx first = (.ok a, afterFirst))
    (hwrite : afterFirst.persist = .ok text) (hread : load isPrintable text = .ok read)
    (hsecond : read.work ctx second = (.ok b, afterSecond))
    (hwrite' : afterSecond.persist = .ok text')
    (hne : ((empty.step ctx first).2.step ctx second).1 ≠ .ok b) :
    ¬ ActAsOne ctx isPrintable (oneEach first second) := by
  rintro ⟨houtputs, -⟩
  rw [returned_oneEach hfirst hwrite hread hsecond hwrite'] at houtputs
  injection houtputs with _ houtputs
  injection houtputs with hanswer
  exact hne hanswer

/-- States that are written alike make the same file. -/
theorem persist_congr {p q : OrderCommandProcessor} {v w : Json} (hv : p.payload = .ok v)
    (hw : q.payload = .ok w) (h : v.dumps = w.dumps) : p.persist = q.persist := by
  have hdigest : canonicalSha256 v = canonicalSha256 w := by
    rw [canonicalSha256, canonicalSha256, h]
  have henvelope : ∀ digest, (envelope v digest).dumps = (envelope w digest).dumps := by
    intro digest
    simp only [Json.dumps, envelope, Json.isWritable, Json.membersWritable, Json.render,
      Json.renderMembers] at h ⊢
    by_cases hwritable : v.isWritable = true
    · rw [if_pos hwritable] at h
      by_cases hwritable' : w.isWritable = true
      · rw [if_pos hwritable'] at h
        rw [hwritable, hwritable', Option.some.inj h]
      · rw [if_neg hwritable'] at h
        cases h
    · rw [if_neg hwritable] at h
      by_cases hwritable' : w.isWritable = true
      · rw [if_pos hwritable'] at h
        cases h
      · simp [hwritable, hwritable']
  rw [persist, persist, hv, hw, Py.ok_bind, Py.ok_bind, hdigest]
  simp only [henvelope]

end

/-! ### The three differences -/

/-- An order id with a NUL in it. -/
def splitOrderId : Text := ("a" : Text) ++ nul :: ("b" : Text)

/-- A command on it. -/
def splitTransition (n : EventSequence) : OrderCall :=
  .transition (some "c") splitOrderId (some .ACCEPTED) n

/-- A character beyond the basic plane. -/
def joinedId : Text := [⟨0x1f600, by decide⟩]

/-- The two surrogates that JSON writes it as. -/
def pairedId : Text := [⟨0xd83d, by decide⟩, ⟨0xde00, by decide⟩]

/-- A command under an id, on an order that is not registered. -/
def unknownTransition (id : Text) : OrderCall := .transition (some id) "x" (some .ACCEPTED) .absent

/-- The processor that the file holds after the command on the split order id. -/
def splitRead : OrderCommandProcessor :=
  { (empty.step defaultContext (splitTransition .absent)).2 with
    commandFingerprints :=
      Dict.empty.set "c" ⟨"TRANSITION", "a", ("b" : Text) ++ nul :: "ACCEPTED"⟩ }

/-- The split order id is read back as two texts. -/
theorem restore_split :
    restore (empty.step defaultContext (splitTransition .absent)).2.snapshot = .ok splitRead := by
  decide +kernel
section

variable [Hashlib] (isPrintable : CodePoint → Bool)

/-- The processor in memory refuses to register an order again. -/
theorem not_actAsOne_register :
    ¬ ActAsOne defaultContext isPrintable
      (oneEach (.register sampleOrder) (.register sampleOrder)) := by
  have hstep : empty.step defaultContext (.register sampleOrder)
      = (.ok none, { empty with
          orders := Dict.empty.set sampleOrder.fields.orderId.str sampleOrder }) := rfl
  have hgood : Good { empty with
      orders := Dict.empty.set sampleOrder.fields.orderId.str sampleOrder } := by
    have hcall : (OrderCall.register sampleOrder).IsWellFormed :=
      ⟨by decide +kernel, by decide +kernel⟩
    refine good_step hcall good_empty hstep ⟨fun k o hget => ?_, by decide +kernel⟩
    rw [Dict.get?_set, Dict.get?_empty] at hget
    split at hget
    · have hfits : sampleOrder.Fits := ⟨by decide, by decide⟩
      exact Option.some.inj hget ▸ hfits
    · cases hget
  obtain ⟨text, hwrite, hread⟩ := hgood.exists_persist isPrintable
  exact not_actAsOne hstep hwrite hread (a := none) (b := none) (by decide +kernel) hwrite
    (by decide +kernel)

/-- After the file was read a command on the split order id is not the command that was sent. -/
theorem not_actAsOne_split :
    ¬ ActAsOne defaultContext isPrintable
      (oneEach (splitTransition .absent) (splitTransition (.int 1))) := by
  have hstorable : (empty.step defaultContext (splitTransition .absent)).2.snapshot.Storable := by
    refine ⟨(fun o ho => by cases ho), ?_, ?_, by decide +kernel⟩
    · show ∀ r ∈ [_], OrderCommandResult.Storable r
      rw [List.forall_mem_singleton]
      exact ⟨by decide +kernel, (fun o ho => by cases ho), by decide +kernel, by decide +kernel⟩
    · show ∀ item ∈ [_], FingerprintStorable item
      rw [List.forall_mem_singleton]
      exact ⟨by decide +kernel, by decide +kernel, by decide +kernel⟩
  obtain ⟨text, hwrite, hread⟩ := load_persist_of_restore isPrintable hstorable restore_split
  -- the two parts are joined again when the file is written
  have hwrite' : splitRead.persist = .ok text := hwrite
  exact not_actAsOne (Prod.ext (by decide +kernel) rfl) hwrite hread
    (a := some ⟨"c", false, none, some "UNKNOWN_ORDER", some 1⟩)
    (b := some ⟨"c", false, none, some "COMMAND_ID_CONFLICT", some 1⟩)
    (Prod.ext (by decide +kernel) (by decide +kernel)) hwrite' (by decide +kernel)

/-- A command id of two surrogates is read back as the character that they stand for. -/
theorem not_actAsOne_paired :
    ¬ ActAsOne defaultContext isPrintable
      (oneEach (unknownTransition pairedId) (unknownTransition joinedId)) := by
  have hgood : (empty.step defaultContext (unknownTransition joinedId)).2.Good := by
    have hstep : empty.step defaultContext (unknownTransition joinedId)
        = (.ok (some ⟨joinedId, false, none, some "UNKNOWN_ORDER", some 1⟩),
          (empty.step defaultContext (unknownTransition joinedId)).2) :=
      Prod.ext (by decide +kernel) rfl
    have hcall : (unknownTransition joinedId).IsWellFormed := by
      refine ⟨?_, by decide +kernel, by decide +kernel⟩
      intro id hid
      exact (Option.some.inj hid) ▸ (by decide +kernel : joinedId.IsJsonSafe)
    exact good_step hcall good_empty hstep ⟨(fun k o hget => by cases hget), by decide +kernel⟩
  obtain ⟨text, hwrite, hread⟩ := hgood.exists_persist isPrintable
  have hsame : (empty.step defaultContext (unknownTransition pairedId)).2.persist
      = (empty.step defaultContext (unknownTransition joinedId)).2.persist :=
    persist_congr rfl rfl (by decide +kernel)
  exact not_actAsOne (Prod.ext (by decide +kernel) rfl) (hsame.trans hwrite) hread
    (a := some ⟨pairedId, false, none, some "UNKNOWN_ORDER", some 1⟩)
    (b := some ⟨joinedId, false, none, some "UNKNOWN_ORDER", some 1⟩)
    (Prod.ext (by decide +kernel) (by decide +kernel)) hwrite (by decide +kernel)

end

/-- **Three differences** between the handles and the processor in memory: an order that is
registered again, an order id with a NUL in it, and an id of two surrogates. -/
theorem handles_differ :
    (¬ ActAsOne defaultContext (fun _ => false)
        (oneEach (.register sampleOrder) (.register sampleOrder)))
      ∧ (¬ ActAsOne defaultContext (fun _ => false)
        (oneEach (splitTransition .absent) (splitTransition (.int 1))))
      ∧ ¬ ActAsOne defaultContext (fun _ => false)
        (oneEach (unknownTransition pairedId) (unknownTransition joinedId)) :=
  ⟨not_actAsOne_register _, not_actAsOne_split _, not_actAsOne_paired _⟩

end OrderCommandProcessor

end FuturesAgentOs
