import FuturesAgentOs.ExecutionSimulation.OrderSteps

namespace FuturesAgentOs

open PyModel

/-!
# Filled quantities over a stream of commands

What the orders of a processor owe to the history of its commands.  The history is read from
outside: a command counts as accepted when its id is answered with `accepted` for the first
time, so that retries of any kind are told apart from the command itself.

* `fills_accounted` — both, for every stream of commands.
-/

namespace OrderCommandProcessor

/-- One step of a history: the processor before a call, the call, and its answer. -/
abbrev Event := OrderCommandProcessor × OrderCall × Py (Option OrderCommandResult)

/-- The id that an event was answered `accepted` for. -/
def acceptedId (e : Event) : Option Text :=
  match e.2.2 with
  | .ok (some result) => if result.accepted = true then e.2.1.commandId else none
  | _ => none

/-- An event noted among the accepted commands, unless its id is there already. -/
def noteAccepted (kept : List (Text × OrderCall)) (e : Event) : List (Text × OrderCall) :=
  match acceptedId e with
  | some id => if id ∈ kept.map Prod.fst then kept else kept ++ [(id, e.2.1)]
  | none => kept

/-- The accepted commands of a history, each id once. -/
def acceptedCommands (history : List Event) : List (Text × OrderCall) :=
  history.foldl noteAccepted []

/-- The quantity of a fill command for an order. -/
def fillOf (orderId : Text) (command : Text × OrderCall) : Option Decimal :=
  match command.2 with
  | .applyFill _ id (.decimal quantity) _ => if id = orderId then some quantity else none
  | _ => none

/-- The quantities of the accepted fills of an order, in order. -/
def fillsOf (orderId : Text) (history : List Event) : List Decimal :=
  (acceptedCommands history).filterMap (fillOf orderId)

/-- The order that an event registered under a key. -/
def registration (orderId : Text) (e : Event) : Option Order :=
  match e.2 with
  | (.register order, .ok none) => if order.fields.orderId.str = orderId then some order else none
  | _ => none

/-- The order as it was registered. -/
def registeredAs (orderId : Text) (history : List Event) : Option Order :=
  (history.filterMap (registration orderId)).head?

/-- The event changed the orders, under a command id. -/
def ChangesOrders (ctx : DecimalContext) (id : Text) (e : Event) : Prop :=
  e.2.1.commandId = some id ∧ ((machine ctx).next e.1 e.2.1).orders ≠ e.1.orders

instance (ctx : DecimalContext) (id : Text) (e : Event) : Decidable (ChangesOrders ctx id e) :=
  inferInstanceAs (Decidable (_ ∧ _))

/-! ### One more event -/

section

variable {history : List Event} {e : Event}

theorem acceptedCommands_concat (history : List Event) (e : Event) :
    acceptedCommands (history ++ [e]) = noteAccepted (acceptedCommands history) e := by
  simp [acceptedCommands, List.foldl_append]

theorem acceptedCommands_of_none (h : acceptedId e = none) :
    acceptedCommands (history ++ [e]) = acceptedCommands history := by
  rw [acceptedCommands_concat, noteAccepted, h]

theorem acceptedCommands_of_seen {id : Text} (h : acceptedId e = some id)
    (hseen : id ∈ (acceptedCommands history).map Prod.fst) :
    acceptedCommands (history ++ [e]) = acceptedCommands history := by
  simp only [acceptedCommands_concat, noteAccepted, h, if_pos hseen]

theorem acceptedCommands_of_new {id : Text} (h : acceptedId e = some id)
    (hnew : id ∉ (acceptedCommands history).map Prod.fst) :
    acceptedCommands (history ++ [e]) = acceptedCommands history ++ [(id, e.2.1)] := by
  simp only [acceptedCommands_concat, noteAccepted, h, if_neg hnew]

theorem registeredAs_concat (orderId : Text) (history : List Event) (e : Event) :
    registeredAs orderId (history ++ [e])
      = (registeredAs orderId history).or (registration orderId e) := by
  rw [registeredAs, registeredAs, List.filterMap_append, List.head?_append]
  rcases h : registration orderId e <;> simp [h]

end

theorem registration_error (p : OrderCommandProcessor) (call : OrderCall) (e : PyException)
    (orderId : Text) : registration orderId (p, call, .error e) = none := by
  rcases call <;> rfl

theorem registration_some (p : OrderCommandProcessor) (call : OrderCall)
    (result : OrderCommandResult) (orderId : Text) :
    registration orderId (p, call, .ok (some result)) = none := by
  rcases call <;> rfl

/-! ### The invariant -/

/-- The state is accounted for by the history. -/
structure Accounts (ctx : DecimalContext) (history : List Event) (p : OrderCommandProcessor) :
    Prop where
  /-- the accepted ids are the recorded ones -/
  ids : ∀ id, id ∈ (acceptedCommands history).map Prod.fst ↔
    ∃ result, p.commands.get? id = some result ∧ result.accepted = true
  /-- an order is what was registered, with its accepted fills added -/
  orders : ∀ orderId order, p.orders.get? orderId = some order →
    ∃ first, registeredAs orderId history = some first ∧
      (fillsOf orderId history).foldlM ctx.add first.fields.filledQuantity
        = .ok order.fields.filledQuantity ∧
      order.fields = { first.fields with
        filledQuantity := order.fields.filledQuantity, status := order.fields.status }
  /-- an order that is not there was never registered and never filled -/
  absent : ∀ orderId, p.orders.get? orderId = none →
    registeredAs orderId history = none ∧ fillsOf orderId history = []
  /-- an id changes the orders once, and is accepted then -/
  changes : ∀ id, (history.filter (ChangesOrders ctx id ·)).length ≤ 1 ∧
    (history.filter (ChangesOrders ctx id ·) ≠ [] → id ∈ (acceptedCommands history).map Prod.fst)

theorem accounts_empty (ctx : DecimalContext) : Accounts ctx [] empty where
  ids := by
    intro id
    constructor
    · intro h
      cases h
    · rintro ⟨result, h, -⟩
      cases h
  orders := by
    intro orderId order h
    cases h
  absent := fun _ _ => ⟨rfl, rfl⟩
  changes := fun _ => ⟨Nat.zero_le _, fun h => absurd rfl h⟩

section

variable {ctx : DecimalContext} {history : List Event} {p q : OrderCommandProcessor}
  {call : OrderCall} {answer : Py (Option OrderCommandResult)}

/-- An event that changes neither the orders nor what counts as accepted. -/
theorem Accounts.quiet (h : Accounts ctx history p) (hnext : (machine ctx).next p call = q)
    (horders : q.orders = p.orders)
    (haccepted : acceptedCommands (history ++ [(p, call, answer)]) = acceptedCommands history)
    (hregister : ∀ orderId, registration orderId (p, call, answer) = none)
    (hids : ∀ id, (∃ result, q.commands.get? id = some result ∧ result.accepted = true) ↔
      ∃ result, p.commands.get? id = some result ∧ result.accepted = true) :
    Accounts ctx (history ++ [(p, call, answer)]) q := by
  have hreg : ∀ orderId, registeredAs orderId (history ++ [(p, call, answer)])
      = registeredAs orderId history := by
    intro orderId
    rw [registeredAs_concat, hregister, Option.or_none]
  have hfills : ∀ orderId, fillsOf orderId (history ++ [(p, call, answer)])
      = fillsOf orderId history := by
    intro orderId
    rw [fillsOf, haccepted, fillsOf]
  have hchanges : ∀ id, (history ++ [(p, call, answer)]).filter (ChangesOrders ctx id ·)
      = history.filter (ChangesOrders ctx id ·) := by
    intro id
    have hno : ¬ ChangesOrders ctx id (p, call, answer) := by
      rintro ⟨-, hne⟩
      exact hne (by rw [hnext, horders])
    rw [List.filter_append, List.filter_cons_of_neg (by simpa using hno), List.filter_nil,
      List.append_nil]
  refine ⟨?_, ?_, ?_, ?_⟩
  · intro id
    rw [haccepted, hids]
    exact h.ids id
  · intro orderId order horder
    rw [horders] at horder
    rw [hreg, hfills]
    exact h.orders orderId order horder
  · intro orderId hnone
    rw [horders] at hnone
    rw [hreg, hfills]
    exact h.absent orderId hnone
  · intro id
    rw [hchanges, haccepted]
    exact h.changes id

theorem Accounts.registered (h : Accounts ctx history p) (order : Order)
    (hnew : p.orders.get? order.fields.orderId.str = none) :
    Accounts ctx (history ++ [(p, .register order, .ok none)])
      { p with orders := p.orders.set order.fields.orderId.str order } := by
  set key := order.fields.orderId.str
  have haccepted : acceptedCommands (history ++ [(p, .register order, .ok none)])
      = acceptedCommands history := acceptedCommands_of_none rfl
  have hfills : ∀ orderId, fillsOf orderId (history ++ [(p, .register order, .ok none)])
      = fillsOf orderId history := by
    intro orderId
    rw [fillsOf, haccepted, fillsOf]
  have hreg : ∀ orderId, orderId ≠ key →
      registeredAs orderId (history ++ [(p, .register order, .ok none)])
        = registeredAs orderId history := by
    intro orderId hne
    rw [registeredAs_concat]
    have hnone : registration orderId (p, .register order, .ok none) = none :=
      if_neg (fun heq => hne heq.symm)
    rw [hnone, Option.or_none]
  refine ⟨?_, ?_, ?_, ?_⟩
  · intro id
    rw [haccepted]
    exact h.ids id
  · intro orderId found hfound
    by_cases hkey : orderId = key
    · subst hkey
      rw [Dict.get?_set_self] at hfound
      injection hfound with hfound
      subst hfound
      obtain ⟨hnone, hempty⟩ := h.absent key hnew
      refine ⟨order, ?_, ?_, rfl⟩
      · rw [registeredAs_concat, hnone, Option.none_or]
        exact if_pos rfl
      · rw [hfills, hempty]
        rfl
    · rw [Dict.get?_set_of_ne _ _ hkey] at hfound
      rw [hreg orderId hkey, hfills]
      exact h.orders orderId found hfound
  · intro orderId hnone
    have hkey : orderId ≠ key := by
      rintro rfl
      rw [Dict.get?_set_self] at hnone
      cases hnone
    rw [Dict.get?_set_of_ne _ _ hkey] at hnone
    rw [hreg orderId hkey, hfills]
    exact h.absent orderId hnone
  · intro id
    have hno : ¬ ChangesOrders ctx id (p, .register order, .ok none) := by
      rintro ⟨hid, -⟩
      cases hid
    rw [List.filter_append, List.filter_cons_of_neg (by simpa using hno), List.filter_nil,
      List.append_nil, haccepted]
    exact h.changes id

/-- **What a begun command did to its order.** -/
theorem update_cases {id : Text} {fingerprint : CommandFingerprint} {current updated : Order}
    (hbegins : call.BeginsAs p id fingerprint) (hupdate : call.update ctx current = .ok updated) :
    call.commandId = some id ∧
      (∀ orderId, orderId ≠ fingerprint.orderId → fillOf orderId (id, call) = none) ∧
      ((∃ target, fillOf fingerprint.orderId (id, call) = none ∧
          target ∈ current.fields.status.allowed ∧
          updated.fields = { current.fields with status := target }) ∨
        (current.fields.status = .WORKING ∨ current.fields.status = .PARTIALLY_FILLED) ∧
          ∃ d filled, fillOf fingerprint.orderId (id, call) = some d ∧ Decimal.ofNat 0 < d ∧
            ctx.add current.fields.filledQuantity d = .ok filled ∧
            updated.fields = { current.fields with
              filledQuantity := filled
              status := Order.filledStatus current.fields.quantity filled }) := by
  rcases call with order | ⟨commandId, orderId, target, eventSequence⟩ |
    ⟨commandId, orderId, quantity, eventSequence⟩
  · exact hbegins.elim
  · obtain ⟨hbegin, status, rfl, rfl⟩ := hbegins
    obtain ⟨hallowed, hfields⟩ := Order.transition_ok hupdate
    exact ⟨hbegin.1, fun _ _ => rfl, Or.inl ⟨status, rfl, hallowed, hfields⟩⟩
  · obtain ⟨hbegin, payload, -, rfl⟩ := hbegins
    obtain ⟨hstatus, d, filled, rfl, hpos, hadd, hfields⟩ := Order.applyFill_ok hupdate
    refine ⟨hbegin.1, ?_, Or.inr ⟨hstatus, d, filled, if_pos rfl, hpos, hadd, hfields⟩⟩
    intro other hne
    exact if_neg (fun heq => hne heq.symm)

theorem Accounts.applied (h : Accounts ctx history p) {id : Text}
    {fingerprint : CommandFingerprint} {current updated : Order} {result : OrderCommandResult}
    (hbegins : call.BeginsAs p id fingerprint) (hresult : result.accepted = true)
    (hcurrent : p.orders.get? fingerprint.orderId = some current)
    (hupdate : call.update ctx current = .ok updated) :
    Accounts ctx (history ++ [(p, call, .ok (some result))])
      { p.reserve id fingerprint with
        orders := p.orders.set fingerprint.orderId updated
        commands := p.commands.set id result } := by
  obtain ⟨hid, hother, hcases⟩ := update_cases hbegins hupdate
  have hnew : p.commands.get? id = none := hbegins.get?_eq_none
  have hunseen : id ∉ (acceptedCommands history).map Prod.fst := by
    rw [h.ids id, hnew]
    rintro ⟨_, hnone, -⟩
    cases hnone
  have hacceptedId : acceptedId (p, call, .ok (some result)) = some id := by
    rw [acceptedId]
    exact (if_pos hresult).trans hid
  have haccepted := acceptedCommands_of_new hacceptedId hunseen
  have hreg : ∀ orderId, registeredAs orderId (history ++ [(p, call, .ok (some result))])
      = registeredAs orderId history := by
    intro orderId
    rw [registeredAs_concat]
    rw [registration_some, Option.or_none]
  have hfills : ∀ orderId, fillsOf orderId (history ++ [(p, call, .ok (some result))])
      = fillsOf orderId history ++ (fillOf orderId (id, call)).toList := by
    intro orderId
    rw [fillsOf, haccepted, List.filterMap_append, fillsOf]
    rcases hfill : fillOf orderId (id, call) with _ | d <;> simp [hfill]
  refine ⟨?_, ?_, ?_, ?_⟩
  · intro id'
    rw [haccepted, List.map_append, List.mem_append, h.ids id']
    show _ ↔ ∃ found, (p.commands.set id result).get? id' = some found ∧ found.accepted = true
    by_cases hsame : id' = id
    · subst hsame
      simp [hresult]
    · rw [Dict.get?_set_of_ne _ _ hsame]
      simp [hsame]
  · intro orderId order horder
    by_cases hkey : orderId = fingerprint.orderId
    · subst hkey
      rw [Dict.get?_set_self] at horder
      injection horder with horder
      subst horder
      obtain ⟨first, hfirst, hsum, hfields⟩ := h.orders _ current hcurrent
      refine ⟨first, by rw [hreg, hfirst], ?_, ?_⟩
      · rw [hfills, List.foldlM_append, hsum, Py.ok_bind]
        obtain ⟨target, hfill, -, hupdated⟩ | ⟨-, d, filled, hfill, -, hadd, hupdated⟩ := hcases
        · rw [hfill, hupdated]
          rfl
        · rw [hfill, hupdated, Option.toList_some, List.foldlM_cons, hadd]
          rfl
      · obtain ⟨target, -, -, hupdated⟩ | ⟨-, d, filled, -, -, -, hupdated⟩ := hcases
        · rw [hupdated, hfields]
        · rw [hupdated, hfields]
    · rw [Dict.get?_set_of_ne _ _ hkey] at horder
      rw [hreg, hfills, hother orderId hkey, Option.toList_none, List.append_nil]
      exact h.orders orderId order horder
  · intro orderId hnone
    have hkey : orderId ≠ fingerprint.orderId := by
      rintro rfl
      rw [Dict.get?_set_self] at hnone
      cases hnone
    rw [Dict.get?_set_of_ne _ _ hkey] at hnone
    rw [hreg, hfills, hother orderId hkey, Option.toList_none, List.append_nil]
    exact h.absent orderId hnone
  · intro id'
    obtain ⟨hle, hseen⟩ := h.changes id'
    by_cases hsame : id' = id
    · -- the id was not accepted before, so it changed nothing before
      subst hsame
      have hempty : history.filter (ChangesOrders ctx id' ·) = [] := by
        by_contra hne
        exact hunseen (hseen hne)
      rw [List.filter_append, hempty, List.nil_append, haccepted]
      refine ⟨List.length_filter_le _ _, ?_⟩
      intro _
      simp
    · have hno : ¬ ChangesOrders ctx id' (p, call, .ok (some result)) := by
        rintro ⟨hid', -⟩
        rw [hid] at hid'
        injection hid' with hid'
        exact hsame hid'.symm
      rw [List.filter_append, List.filter_cons_of_neg (by simpa using hno), List.filter_nil,
        List.append_nil, haccepted]
      refine ⟨hle, ?_⟩
      intro hne
      rw [List.map_append]
      exact List.mem_append_left _ (hseen hne)

/-- **Every command keeps the account.** -/
theorem accounts_next (h : Accounts ctx history p) (call : OrderCall) :
    Accounts ctx (history ++ [(p, call, (machine ctx).out p call)])
      ((machine ctx).next p call) := by
  have hnext : (machine ctx).next p call = (p.step ctx call).2 := rfl
  have hout : (machine ctx).out p call = (p.step ctx call).1 := rfl
  rw [hout, hnext]
  have heffect := p.step_cases ctx call
  rw [← hnext] at heffect ⊢
  generalize hanswer : (p.step ctx call).1 = answer at heffect ⊢
  generalize hq : (machine ctx).next p call = q at heffect ⊢
  rcases heffect with ⟨e, -⟩ | ⟨result, -, hresult⟩ | ⟨order, rfl, hnew⟩ |
    ⟨id, fingerprint, e, -, -⟩ | ⟨id, fingerprint, order, reason, hbegins, -, -⟩ |
    ⟨id, fingerprint, current, updated, hbegins, -, hcurrent, hupdate⟩
  · exact h.quiet hq rfl (acceptedCommands_of_none rfl) (registration_error p call e)
      (fun _ => Iff.rfl)
  · refine h.quiet hq rfl ?_ (registration_some p call result) (fun _ => Iff.rfl)
    -- an accepted answer repeats an outcome whose id is among the accepted ones
    by_cases haccepted : result.accepted = true
    · obtain ⟨id, existing, hid, hget, hexisting⟩ := hresult haccepted
      refine acceptedCommands_of_seen ?_ ((h.ids id).mpr ⟨existing, hget, hexisting⟩)
      rw [acceptedId]
      exact (if_pos haccepted).trans hid
    · exact acceptedCommands_of_none (if_neg haccepted)
  · exact h.registered order hnew
  · exact h.quiet hq rfl (acceptedCommands_of_none rfl) (registration_error p call e)
      (fun _ => Iff.rfl)
  · have hnew : p.commands.get? id = none := hbegins.get?_eq_none
    refine h.quiet hq rfl (acceptedCommands_of_none rfl) (registration_some p call _) ?_
    intro id'
    by_cases hsame : id' = id
    · subst hsame
      simp [hnew]
    · simp [Dict.get?_set_of_ne _ _ hsame]
  · exact h.applied hbegins rfl hcurrent hupdate

end

/-- **Every run keeps the account.** -/
theorem accounts_run (ctx : DecimalContext) (calls : List OrderCall) :
    Accounts ctx ((machine ctx).trace empty calls) (run ctx calls) := by
  have hstep : ∀ history p call, Accounts ctx history p →
      Accounts ctx (history ++ [(p, call, (machine ctx).out p call)])
        ((machine ctx).next p call) := fun _ _ call h => accounts_next h call
  exact (machine ctx).trace_invariant hstep (accounts_empty ctx) calls

/-! ### Orders over time -/

/-- What later commands may do to an order that is there: only its state and filled quantity
move, the quantity never down once it is a number the context holds exactly, and nothing moves
after a terminal state. -/
def Advances (ctx : DecimalContext) (p q : OrderCommandProcessor) : Prop :=
  ∀ orderId order, p.orders.get? orderId = some order →
    ∃ later, q.orders.get? orderId = some later ∧
      later.fields = { order.fields with
        filledQuantity := later.fields.filledQuantity, status := later.fields.status } ∧
      (ctx.Fits order.fields.filledQuantity →
        ctx.Fits later.fields.filledQuantity ∧
          order.fields.filledQuantity ≤ later.fields.filledQuantity) ∧
      (order.fields.status.IsTerminal → later = order)

section

variable {ctx : DecimalContext} {p q r : OrderCommandProcessor}

theorem Advances.refl (p : OrderCommandProcessor) : Advances ctx p p :=
  fun _ order h => ⟨order, h, rfl, fun hfits => ⟨hfits, le_refl _⟩, fun _ => rfl⟩

theorem Advances.trans (h : Advances ctx p q) (h' : Advances ctx q r) : Advances ctx p r := by
  intro orderId order horder
  obtain ⟨later, hlater, hfields, hmoves, hterminal⟩ := h orderId order horder
  obtain ⟨last, hlast, hfields', hmoves', hterminal'⟩ := h' orderId later hlater
  refine ⟨last, hlast, ?_, ?_, ?_⟩
  · rw [hfields', hfields]
  · intro hfits
    obtain ⟨hfits, hle⟩ := hmoves hfits
    obtain ⟨hfits, hle'⟩ := hmoves' hfits
    exact ⟨hfits, hle.trans hle'⟩
  · intro hend
    have hsame := hterminal hend
    rw [hsame] at hterminal'
    exact hterminal' hend

theorem Advances.of_orders_eq (h : q.orders = p.orders) : Advances ctx p q := by
  intro orderId order horder
  exact ⟨order, by rw [h, horder], rfl, fun hfits => ⟨hfits, le_refl _⟩, fun _ => rfl⟩

theorem advances_next (p : OrderCommandProcessor) (call : OrderCall) :
    Advances ctx p ((machine ctx).next p call) := by
  have heffect := p.step_cases ctx call
  have hnext : (machine ctx).next p call = (p.step ctx call).2 := rfl
  rw [hnext]
  generalize p.step ctx call = result at heffect ⊢
  obtain ⟨answer, q⟩ := result
  rcases heffect with ⟨e, -⟩ | ⟨result, -, -⟩ | ⟨order, -, hnew⟩ | ⟨id, fingerprint, e, -, -⟩ |
    ⟨id, fingerprint, order, reason, -, -, -⟩ |
    ⟨id, fingerprint, current, updated, hbegins, -, hcurrent, hupdate⟩
  · exact .refl _
  · exact .refl _
  · intro orderId found hfound
    have hne : orderId ≠ order.fields.orderId.str := by
      rintro rfl
      rw [hnew] at hfound
      cases hfound
    exact ⟨found, by rw [Dict.get?_set_of_ne _ _ hne, hfound], rfl,
      fun hfits => ⟨hfits, le_refl _⟩, fun _ => rfl⟩
  · exact .of_orders_eq rfl
  · exact .of_orders_eq rfl
  · intro orderId order horder
    by_cases hkey : orderId = fingerprint.orderId
    swap
    · exact ⟨order, by rw [Dict.get?_set_of_ne _ _ hkey, horder], rfl,
        fun hfits => ⟨hfits, le_refl _⟩, fun _ => rfl⟩
    subst hkey
    rw [hcurrent] at horder
    injection horder with horder
    subst horder
    refine ⟨updated, Dict.get?_set_self _ _ _, ?_⟩
    obtain ⟨-, -, ⟨target, -, hallowed, hfields⟩ | ⟨hstatus, d, filled, -, hpos, hadd, hfields⟩⟩ :=
      update_cases hbegins hupdate
    · refine ⟨by rw [hfields], ?_, ?_⟩
      · intro hfits
        rw [hfields]
        exact ⟨hfits, le_refl _⟩
      · intro hterminal
        rw [hterminal] at hallowed
        cases hallowed
    · have hd : 0 ≤ d.val := by
        rw [Decimal.lt_def, Decimal.val_ofNat, Nat.cast_zero] at hpos
        exact hpos.le
      refine ⟨by rw [hfields], ?_, ?_⟩
      · intro hfits
        rw [hfields]
        exact ⟨DecimalContext.fits_of_add current.filled_nonneg hd hadd,
          DecimalContext.le_add current.filled_nonneg hd hfits hadd⟩
      · intro hterminal
        exfalso
        rcases hstatus with hstatus | hstatus
        · rw [hstatus] at hterminal
          cases hterminal
        · rw [hstatus] at hterminal
          cases hterminal

end

/-- **The fills of every order are accounted for**, over every stream of commands. -/
theorem fills_accounted (ctx : DecimalContext) (calls : List OrderCall) :
    (∀ orderId order, (run ctx calls).orders.get? orderId = some order →
      order.fields.filledQuantity ≤ order.fields.quantity ∧
      ∃ first, registeredAs orderId ((machine ctx).trace empty calls) = some first ∧
        (fillsOf orderId ((machine ctx).trace empty calls)).foldlM ctx.add
          first.fields.filledQuantity = .ok order.fields.filledQuantity) ∧
    (∀ id, (((machine ctx).trace empty calls).filter (ChangesOrders ctx id ·)).length ≤ 1) ∧
    (∀ more, Advances ctx (run ctx calls) ((machine ctx).exec (run ctx calls) more)) := by
  have haccounts := accounts_run ctx calls
  refine ⟨?_, ?_, ?_⟩
  · intro orderId order horder
    obtain ⟨first, hfirst, hsum, -⟩ := haccounts.orders orderId order horder
    exact ⟨order.fillSuits.le, first, hfirst, hsum⟩
  · intro id
    exact (haccounts.changes id).1
  · intro more
    exact (machine ctx).exec_related (P := fun _ _ => True) Advances.refl Advances.trans
      (fun p call _ => advances_next p call)
        ((machine ctx).meets_of_forall (fun _ _ => trivial) _ _)

/-! ### What the rounding and the registered state do -/

/-- An order of three contracts, registered with a filled quantity. -/
def filledOrderFields (n : Fin 0x1000) (filled : Decimal) : OrderFields where
  orderId := .epoch "order" n 0 (Eq.refl true)
  executionPlanId := .epoch "execution_plan" n 0 (Eq.refl true)
  instrument := "SHFE:AG"
  direction := .LONG
  quantity := Decimal.ofNat 3
  status := .PARTIALLY_FILLED
  filledQuantity := filled
  createdAt := ⟨.of 2026 7 13 (Eq.refl true), 0, 0, 0, 0⟩

/-- Two contracts are filled already. -/
def partlyFilled : Order := ⟨filledOrderFields 1 (Decimal.ofNat 2), by decide +kernel⟩

/-- More digits are filled than the default context keeps. -/
def finelyFilled : Order := ⟨filledOrderFields 2 ⟨false, 10 ^ 31 + 4, -31⟩, by decide +kernel⟩

/-- A fill of 1E-40 for the finely filled order. -/
def tinyFill : OrderCall :=
  .applyFill (some "fill") finelyFilled.fields.orderId.str (.decimal ⟨false, 1, -40⟩) .absent

/-- A transition that raises, given without a sequence number. -/
def raisingTransition : OrderCall :=
  .transition (some "fill") sampleOrder.fields.orderId.str (some .FILLED) .absent

/-- An order registered with two contracts filled has no accepted fill; an accepted fill of 1E-40
lowers a filled quantity of 32 digits; and a command id changes the processor each time it is
retried when it raises. -/
theorem filled_differs_from_sum :
    ((run defaultContext [.register partlyFilled]).orders.get? partlyFilled.fields.orderId.str
          = some partlyFilled ∧
        fillsOf partlyFilled.fields.orderId.str
          ((machine defaultContext).trace empty [.register partlyFilled]) = []) ∧
      ((run defaultContext [.register finelyFilled, tinyFill]).orders.get?
          finelyFilled.fields.orderId.str).any
        (fun later => later.fields.filledQuantity < finelyFilled.fields.filledQuantity) = true ∧
      (run defaultContext (workingCalls ++ [raisingTransition])).lastEventSequence = 3 ∧
      (run defaultContext (workingCalls
        ++ [raisingTransition, raisingTransition])).lastEventSequence
        = 4 := by
  decide +kernel

end OrderCommandProcessor

end FuturesAgentOs
