import FuturesAgentOs.ExecutionSimulation.OrderSteps
import FuturesAgentOs.ExecutionSimulation.OrderStoreRoundTrip

namespace FuturesAgentOs

open PyModel

/-!
# Crash recovery

A snapshot is restored to the processor it was taken of as long as no command began and raised,
and none that began had a NUL in its order id.  The durable file holds it as well when the texts
survive JSON and the numbers are within the limit of `int`.

* `recovers` — the two results over every run of such commands.
-/

theorem isJsonSafe_append_nul {s t : Text} (hs : s.IsJsonSafe) (ht : t.IsJsonSafe) :
    Text.IsJsonSafe (s ++ OrderCommandProcessor.nul :: t) := by
  have hhigh : Json.isHigh OrderCommandProcessor.nul.val = false := by decide
  have hlow : Json.isLow OrderCommandProcessor.nul.val = false := by decide
  refine List.isChain_append.mpr ⟨hs, ?_, ?_⟩
  · rcases t with _ | ⟨c, t⟩
    · exact List.IsChain.singleton _
    · refine List.isChain_cons_cons.mpr ⟨?_, ht⟩
      rintro ⟨h, -⟩
      rw [hhigh] at h
      cases h
  · rintro x - y hy ⟨-, h⟩
    rw [List.head?_cons, Option.mem_some_iff] at hy
    rw [← hy, hlow] at h
    cases h

namespace OrderCommandProcessor

variable {ctx : DecimalContext} {p : OrderCommandProcessor}

theorem splitNul_append {first : Text} (h : nul ∉ first) (second : Text) :
    splitNul (first ++ nul :: second) = some (first, second) := by
  induction first with
  | nil => rw [List.nil_append, splitNul, if_pos rfl]
  | cons c first ih =>
    rw [List.mem_cons, not_or] at h
    rw [List.cons_append, splitNul, if_neg (Ne.symm h.1), ih h.2, Option.map_some]

/-- The event sequences of the outcomes, one for each up to the last. -/
def sequencesUpTo (n : ℕ) : List (Option ℤ) :=
  (List.range n).map (fun i : ℕ => some ((i : ℤ) + 1))

/-- What restoring a snapshot of the processor needs. -/
structure Recoverable (p : OrderCommandProcessor) : Prop where
  orders : ∀ item ∈ p.orders.items, item.2.fields.orderId.str = item.1
  commands : ∀ item ∈ p.commands.items, item.2.commandId = item.1
  sequences : ∃ n : ℕ, p.lastEventSequence = n ∧
    p.commands.values.map (·.eventSequence) = sequencesUpTo n
  fingerprints : p.commandFingerprints.keys = p.commands.keys
  noNul : ∀ item ∈ p.commandFingerprints.items, nul ∉ item.2.orderId

theorem recoverable_empty : empty.Recoverable where
  orders := by simp [empty, Dict.empty]
  commands := by simp [empty, Dict.empty]
  sequences := ⟨0, rfl, rfl⟩
  fingerprints := rfl
  noNul := by simp [empty, Dict.empty]

theorem filterMap_sequencesUpTo (n : ℕ) :
    (sequencesUpTo n).filterMap id = (List.range n).map (fun i : ℕ => (i : ℤ) + 1) := by
  rw [sequencesUpTo, List.filterMap_map, ← List.filterMap_eq_map]
  rfl

theorem sequencesMatch_upTo (n : ℕ) :
    sequencesMatch ((List.range n).map (fun i : ℕ => (i : ℤ) + 1)) n = true := by
  have hnodup : ((List.range n).map (fun i : ℕ => (i : ℤ) + 1)).Nodup := by
    apply List.Nodup.map _ List.nodup_range
    intro i j hij
    have : (i : ℤ) + 1 = (j : ℤ) + 1 := hij
    omega
  simp only [sequencesMatch, Bool.and_eq_true, decide_eq_true_eq, List.all_map, List.all_eq_true,
    List.mem_range, Function.comp_apply, List.length_map, List.length_range, beq_self_eq_true,
    and_true]
  exact ⟨hnodup, fun i hi => by omega⟩

theorem restoreOrders_values (h : p.Recoverable) :
    restoreOrders p.orders.values = .ok p.orders := by
  apply p.orders.foldlM_rebuild
  intro e item hitem hnew
  have hkey := h.orders item hitem
  simp only [hkey, hnew, Option.isSome_none, Bool.false_eq_true, if_false]

theorem restoreFingerprints_flatten (h : p.Recoverable) :
    restoreFingerprints (p.commandFingerprints.items.map flatten) = .ok p.commandFingerprints := by
  apply p.commandFingerprints.foldlM_rebuild
  intro e item hitem hnew
  simp only [flatten, splitNul_append (h.noNul item hitem)]

/-- **A snapshot is restored** to the processor it was taken of. -/
theorem restore_snapshot (h : p.Recoverable) : restore p.snapshot = .ok p := by
  obtain ⟨n, hlast, hsequences⟩ := h.sequences
  have hids : p.commands.values.map (·.commandId) = p.commands.keys := by
    rw [Dict.values, List.map_map]
    exact List.map_congr_left (fun item hitem => h.commands item hitem)
  have hsome : p.commands.values.all (·.eventSequence.isSome) = true := by
    have hall : (p.commands.values.map (·.eventSequence)).all Option.isSome = true := by
      rw [hsequences, sequencesUpTo, List.all_map]
      simp
    rwa [List.all_map] at hall
  have hmatch : sequencesMatch (p.commands.values.filterMap (·.eventSequence)) p.lastEventSequence
      = true := by
    have hfilter : p.commands.values.filterMap (·.eventSequence)
        = (p.commands.values.map (·.eventSequence)).filterMap id := by
      rw [List.filterMap_map]
      rfl
    rw [hfilter, hsequences, filterMap_sequencesUpTo, hlast]
    exact sequencesMatch_upTo n
  have hcommands : p.commands.values.foldl (fun d result => d.set result.commandId result)
      Dict.empty = p.commands := by
    apply p.commands.foldl_rebuild
    intro e item hitem
    rw [h.commands item hitem]
  have hnodup : (p.snapshot.commands.map (·.commandId)).Nodup := hids.symm ▸ p.commands.nodup
  have hfingerprintKeys : (p.snapshot.commandFingerprints.map Prod.fst).Nodup := by
    show ((p.commandFingerprints.items.map flatten).map Prod.fst).Nodup
    rw [List.map_map]
    exact p.commandFingerprints.nodup
  have hsame : p.commands.keys.all (· ∈ p.commandFingerprints.keys) = true
      ∧ p.commandFingerprints.keys.all (· ∈ p.commands.keys) = true := by
    rw [h.fingerprints]
    simp
  have hnonneg : 0 ≤ p.snapshot.lastEventSequence := by
    show 0 ≤ p.lastEventSequence
    rw [hlast]
    exact Int.natCast_nonneg n
  have horders : restoreOrders p.snapshot.orders = .ok p.orders := restoreOrders_values h
  have hfingerprints : restoreFingerprints p.snapshot.commandFingerprints
      = .ok p.commandFingerprints := restoreFingerprints_flatten h
  have hdict : p.snapshot.commands.foldl (fun d result => d.set result.commandId result) Dict.empty
      = p.commands := hcommands
  have hsomeSnapshot : p.snapshot.commands.all (·.eventSequence.isSome) = true := hsome
  have hmatchSnapshot : sequencesMatch (p.snapshot.commands.filterMap (·.eventSequence))
      p.snapshot.lastEventSequence = true := hmatch
  rw [restore, require_of_pos hnonneg, Py.ok_bind, horders, Py.ok_bind, require_of_pos hnodup,
    Py.ok_bind, require_of_pos hsomeSnapshot, Py.ok_bind, require_of_pos hmatchSnapshot, Py.ok_bind,
    hdict, require_of_pos hfingerprintKeys, Py.ok_bind, hfingerprints, Py.ok_bind,
    require_of_pos hsame, Py.ok_bind]
  rfl

end OrderCommandProcessor

/-! ### The conditions on one command -/

namespace OrderCall

variable (ctx : DecimalContext)

/-- The command does not begin and raise, and when it begins its order id has no NUL. -/
def IsRestorable (p : OrderCommandProcessor) (call : OrderCall) : Prop :=
  ¬ (call.BeginsIn p ∧ call.RaisesWhenBegun ctx p) ∧
    ∀ id fingerprint, call.BeginsAs p id fingerprint →
      OrderCommandProcessor.nul ∉ fingerprint.orderId

/-- The texts of a command that begins, and of an order that is registered, survive JSON, and
their numbers are within the limit of `int`. -/
def IsStorable (p : OrderCommandProcessor) (call : OrderCall) : Prop :=
  (∀ id fingerprint, call.BeginsAs p id fingerprint → id.IsJsonSafe ∧
      fingerprint.orderId.IsJsonSafe ∧ fingerprint.payload.IsJsonSafe ∧
      FitsStr (p.lastEventSequence + 1)) ∧
    ∀ order, call = .register order → p.orders.get? order.fields.orderId.str = none →
      order.Storable

theorem BeginsAs.kind {p : OrderCommandProcessor} {id : Text} {fingerprint : CommandFingerprint}
    {call : OrderCall} (h : call.BeginsAs p id fingerprint) : fingerprint.kind.IsAscii := by
  rcases call with order | ⟨_, _, _, _⟩ | ⟨_, _, _, _⟩
  · exact h.elim
  · obtain ⟨-, status, -, rfl⟩ := h
    show Text.IsAscii "TRANSITION"
    decide
  · obtain ⟨-, payload, -, rfl⟩ := h
    show Text.IsAscii "FILL"
    decide

/-- A transition to a state that says nothing about fills is restorable. -/
theorem isRestorable_transition (p : OrderCommandProcessor) (commandId : Option Text)
    {orderId : Text} (hnul : OrderCommandProcessor.nul ∉ orderId) {target : OrderStatus}
    (hpartly : target ≠ .PARTIALLY_FILLED) (hfull : target ≠ .FILLED)
    (eventSequence : EventSequence) :
    (OrderCall.transition commandId orderId (some target) eventSequence).IsRestorable ctx p := by
  refine ⟨?_, ?_⟩
  · rintro ⟨-, order, status, -, hstatus, hun⟩
    injection hstatus with hstatus
    subst hstatus
    rcases hun with ⟨-, h | h⟩ | ⟨-, h⟩
    · exact hpartly h
    · exact hfull h
    · exact hfull h
  · rintro id fingerprint ⟨-, status, -, rfl⟩
    exact hnul

theorem orderId_update {current updated : Order} {call : OrderCall}
    (h : call.update ctx current = .ok updated) :
    updated.fields.orderId = current.fields.orderId ∧ (current.Storable → updated.Storable) := by
  rcases call with order | ⟨_, _, _ | target, _⟩ | ⟨_, _, quantity, _⟩
  · injection h with h
    exact h ▸ ⟨rfl, id⟩
  · injection h with h
    exact h ▸ ⟨rfl, id⟩
  · obtain ⟨-, hfields⟩ := Order.transition_ok h
    rw [hfields]
    exact ⟨rfl, fun hs => ⟨hfields ▸ hs.instrument, hfields ▸ hs.sourceRef, hfields ▸ hs.version,
      hfields ▸ hs.schemaVersion⟩⟩
  · obtain ⟨-, d, filled, -, -, -, hfields⟩ := Order.applyFill_ok h
    rw [hfields]
    exact ⟨rfl, fun hs => ⟨hfields ▸ hs.instrument, hfields ▸ hs.sourceRef, hfields ▸ hs.version,
      hfields ▸ hs.schemaVersion⟩⟩

end OrderCall

namespace OrderCommandProcessor

variable {ctx : DecimalContext} {p : OrderCommandProcessor}

theorem keys_set_of_none {α : Type} {d : Dict Text α} {k : Text} {v : α} (h : d.get? k = none) :
    (d.set k v).keys = d.keys ++ [k] := by
  rw [Dict.keys, Dict.items_set_of_none h, List.map_append]
  rfl

theorem recoverable_record (h : p.Recoverable) {id : Text} {fingerprint : CommandFingerprint}
    (hnew : p.commands.get? id = none) (hnul : nul ∉ fingerprint.orderId)
    {orders : Dict Text Order} (horders : ∀ item ∈ orders.items, item.2.fields.orderId.str = item.1)
    {result : OrderCommandResult} (hid : result.commandId = id)
    (hsequence : result.eventSequence = some (p.lastEventSequence + 1)) :
    Recoverable { p.reserve id fingerprint with
      orders := orders, commands := p.commands.set id result } := by
  have hnewFingerprint : p.commandFingerprints.get? id = none := by
    rw [Dict.get?_eq_none_iff, h.fingerprints, ← Dict.get?_eq_none_iff]
    exact hnew
  refine ⟨horders, ?_, ?_, ?_, ?_⟩
  · show ∀ item ∈ (p.commands.set id result).items, _
    rw [Dict.items_set_of_none hnew, List.forall_mem_append, List.forall_mem_singleton]
    exact ⟨h.commands, hid⟩
  · obtain ⟨n, hlast, hsequences⟩ := h.sequences
    refine ⟨n + 1, ?_, ?_⟩
    · show p.lastEventSequence + 1 = _
      rw [hlast, Nat.cast_succ]
    · show ((p.commands.set id result).items.map Prod.snd).map _ = _
      rw [Dict.items_set_of_none hnew, List.map_append, List.map_append, sequencesUpTo,
        List.range_succ, List.map_append]
      exact congrArg₂ (· ++ ·) hsequences (by simp [hsequence, hlast])
  · show (p.commandFingerprints.set id fingerprint).keys = (p.commands.set id result).keys
    rw [keys_set_of_none hnewFingerprint, keys_set_of_none hnew, h.fingerprints]
  · show ∀ item ∈ (p.commandFingerprints.set id fingerprint).items, _
    rw [Dict.items_set_of_none hnewFingerprint, List.forall_mem_append, List.forall_mem_singleton]
    exact ⟨h.noNul, hnul⟩

/-- An order that takes the place of another with its id. -/
theorem orderKeys_set (h : p.Recoverable) {key : Text} {order : Order}
    (hkey : order.fields.orderId.str = key) :
    ∀ item ∈ (p.orders.set key order).items, item.2.fields.orderId.str = item.1 := by
  rintro ⟨k, o⟩ hitem
  rw [Dict.mem_items_iff, Dict.get?_set] at hitem
  by_cases hk : k = key
  · rw [if_pos hk, Option.some.injEq] at hitem
    rw [← hitem, hk, hkey]
  · rw [if_neg hk, ← Dict.mem_items_iff] at hitem
    exact h.orders _ hitem

/-- **Step.** A restorable command leaves a recoverable processor. -/
theorem recoverable_next (call : OrderCall) (hcall : call.IsRestorable ctx p)
    (h : p.Recoverable) : ((machine ctx).next p call).Recoverable := by
  have heffect := p.step_cases ctx call
  show (p.step ctx call).2.Recoverable
  generalize p.step ctx call = result at heffect ⊢
  obtain ⟨answer, q⟩ := result
  rcases heffect with ⟨e, -⟩ | ⟨answer, -⟩ | ⟨order, -, hnew⟩ |
    ⟨id, fingerprint, e, hbegins, hraises⟩ | ⟨id, fingerprint, order, reason, hbegins, -⟩ |
    ⟨id, fingerprint, current, updated, hbegins, -, hcurrent, hupdate⟩
  · exact h
  · exact h
  · exact ⟨orderKeys_set h rfl, h.commands, h.sequences, h.fingerprints, h.noNul⟩
  · exact absurd ⟨⟨id, fingerprint, hbegins⟩, hraises⟩ hcall.1
  · exact recoverable_record h hbegins.get?_eq_none (hcall.2 id fingerprint hbegins)
      h.orders rfl rfl
  · have hkey : updated.fields.orderId.str = fingerprint.orderId := by
      rw [(OrderCall.orderId_update ctx hupdate).1]
      exact h.orders _ (Dict.mem_items_iff.mpr hcurrent)
    exact recoverable_record h hbegins.get?_eq_none (hcall.2 id fingerprint hbegins)
      (orderKeys_set h hkey) rfl rfl

/-! ### What the file can hold -/

/-- The texts and numbers of the processor are within what the file can hold. -/
structure Storable (p : OrderCommandProcessor) : Prop where
  orders : ∀ k o, p.orders.get? k = some o → Order.Storable o
  commands : ∀ id r, p.commands.get? id = some r → OrderCommandResult.Storable r
  fingerprints : ∀ id f, p.commandFingerprints.get? id = some f →
    FingerprintStorable (flatten (id, f))
  lastEventSequence : FitsStr p.lastEventSequence

theorem storable_empty : empty.Storable where
  orders := by
    intro k o h
    cases h
  commands := by
    intro id r h
    cases h
  fingerprints := by
    intro id f h
    cases h
  lastEventSequence := by decide

theorem Storable.snapshot (h : p.Storable) : p.snapshot.Storable where
  orders := by
    intro o ho
    obtain ⟨k, hk⟩ := Dict.mem_values_iff.mp ho
    exact h.orders k o hk
  commands := by
    intro r hr
    obtain ⟨k, hk⟩ := Dict.mem_values_iff.mp hr
    exact h.commands k r hk
  fingerprints := by
    intro item hitem
    obtain ⟨⟨id, f⟩, hf, rfl⟩ := List.mem_map.mp hitem
    exact h.fingerprints id f (Dict.mem_items_iff.mp hf)
  lastEventSequence := h.lastEventSequence

/-- A property of all values stays when an assigned value has it. -/
theorem forall_get?_set {α : Type} {P : Text → α → Prop} {d : Dict Text α}
    (h : ∀ k v, d.get? k = some v → P k v) {key : Text} {value : α} (hvalue : P key value) :
    ∀ k v, (d.set key value).get? k = some v → P k v := by
  intro k v hk
  rw [Dict.get?_set] at hk
  by_cases heq : k = key
  · rw [if_pos heq, Option.some.injEq] at hk
    rw [heq, ← hk]
    exact hvalue
  · rw [if_neg heq] at hk
    exact h k v hk

theorem storable_record (h : p.Storable) {call : OrderCall} (hcall : call.IsStorable p)
    {id : Text} {fingerprint : CommandFingerprint} (hbegins : call.BeginsAs p id fingerprint)
    {orders : Dict Text Order} (horders : ∀ k o, orders.get? k = some o → Order.Storable o)
    {accepted : Bool} {order : Option Order} (horder : ∀ o ∈ order, Order.Storable o)
    {reason : Option Text} (hreason : ∀ t ∈ reason, Text.IsAscii t) :
    Storable { p.reserve id fingerprint with
      orders := orders
      commands := p.commands.set id
        ⟨id, accepted, order, reason, some (p.lastEventSequence + 1)⟩ } := by
  obtain ⟨hid, horderId, hpayload, hlast⟩ := hcall.1 id fingerprint hbegins
  refine ⟨horders, forall_get?_set h.commands ?_, forall_get?_set h.fingerprints ?_, hlast⟩
  · refine ⟨hid, horder, fun t ht => (hreason t ht).isJsonSafe, ?_⟩
    rintro n hn
    rw [Option.mem_some_iff] at hn
    exact hn ▸ hlast
  · exact ⟨hid, hbegins.kind.isJsonSafe, isJsonSafe_append_nul horderId hpayload⟩

/-- **Step.** A storable command that does not begin and raise leaves a storable processor. -/
theorem storable_next (call : OrderCall) (hrestorable : call.IsRestorable ctx p)
    (hcall : call.IsStorable p) (h : p.Storable) : ((machine ctx).next p call).Storable := by
  have heffect := p.step_cases ctx call
  show (p.step ctx call).2.Storable
  generalize p.step ctx call = result at heffect ⊢
  obtain ⟨answer, q⟩ := result
  rcases heffect with ⟨e, -⟩ | ⟨answer, -⟩ | ⟨order, hregister, hnew⟩ |
    ⟨id, fingerprint, e, hbegins, hraises⟩ |
    ⟨id, fingerprint, order, reason, hbegins, -, horder, hreason⟩ |
    ⟨id, fingerprint, current, updated, hbegins, -, hcurrent, hupdate⟩
  · exact h
  · exact h
  · exact ⟨forall_get?_set h.orders (hcall.2 order hregister hnew), h.commands, h.fingerprints,
      h.lastEventSequence⟩
  · exact absurd ⟨⟨id, fingerprint, hbegins⟩, hraises⟩ hrestorable.1
  · refine storable_record h hcall hbegins h.orders ?_ ?_
    · intro o ho
      rw [horder] at ho
      exact h.orders _ o ho
    · intro t ht
      rw [Option.mem_some_iff] at ht
      exact ht ▸ hreason
  · have hupdated : updated.Storable :=
      (OrderCall.orderId_update ctx hupdate).2 (h.orders _ current hcurrent)
    refine storable_record h hcall hbegins (forall_get?_set h.orders hupdated) ?_ ?_
    · intro o ho
      rw [Option.mem_some_iff] at ho
      exact ho ▸ hupdated
    · intro t ht
      cases ht

/-! ### Recovery after any run -/

/-- The processor that was recovered answers every later stream of commands as the other. -/
def AnswersAs (ctx : DecimalContext) (q p : OrderCommandProcessor) : Prop :=
  ∀ later, (machine ctx).outputs q later = (machine ctx).outputs p later

section

variable [Hashlib]

/-- **Crash recovery.** After any run of commands none of which begins and raises or begins with
a NUL in its order id, the snapshot is restored to a processor that answers all later commands
as this one does; and so is the durable file, when the commands are also storable. -/
theorem recovers (ctx : DecimalContext) (isPrintable : CodePoint → Bool) (calls : List OrderCall) :
    ((machine ctx).Meets (fun p call => call.IsRestorable ctx p) empty calls →
      ∃ q, restore (run ctx calls).snapshot = .ok q ∧ AnswersAs ctx q (run ctx calls)) ∧
    ((machine ctx).Meets (fun p call => call.IsRestorable ctx p ∧ call.IsStorable p) empty calls →
      ∃ text q, (run ctx calls).persist = .ok text ∧ load isPrintable text = .ok q ∧
        AnswersAs ctx q (run ctx calls)) := by
  constructor
  · intro hmeets
    have hrecoverable : (run ctx calls).Recoverable :=
      (machine ctx).exec_invariant_of_meets (fun _ call hcall => recoverable_next call hcall)
        hmeets recoverable_empty
    exact ⟨_, restore_snapshot hrecoverable, fun later => rfl⟩
  · intro hmeets
    have hstep : ∀ p call, (call.IsRestorable ctx p ∧ call.IsStorable p) →
        (p.Recoverable ∧ p.Storable) →
        ((machine ctx).next p call).Recoverable ∧ ((machine ctx).next p call).Storable :=
      fun _ call hcall h => ⟨recoverable_next call hcall.1 h.1,
        storable_next call hcall.1 hcall.2 h.2⟩
    have hboth : (run ctx calls).Recoverable ∧ (run ctx calls).Storable :=
      (machine ctx).exec_invariant_of_meets hstep hmeets ⟨recoverable_empty, storable_empty⟩
    obtain ⟨text, hpersist, hload⟩ := load_persist_of_restore isPrintable hboth.2.snapshot
      (restore_snapshot hboth.1)
    exact ⟨text, _, hpersist, hload, fun later => rfl⟩

end

/-- The sample order is registered, accepted and working, and recovered. -/
theorem recovers_working :
    ∃ text q, (run defaultContext workingCalls).persist = .ok text
      ∧ load (fun _ => false) text = .ok q
      ∧ AnswersAs defaultContext q (run defaultContext workingCalls) := by
  have hnul : nul ∉ sampleOrder.fields.orderId.str := by decide +kernel
  have hrestorable : ∀ p id target n, target ≠ .PARTIALLY_FILLED → target ≠ .FILLED →
      (sampleTransition id target n).IsRestorable defaultContext p :=
    fun p id target n hpartly hfull =>
      OrderCall.isRestorable_transition defaultContext p _ hnul hpartly hfull _
  have hstorable : ∀ p id target n, Text.IsAscii id → FitsStr (p.lastEventSequence + 1) →
      (sampleTransition id target n).IsStorable p := by
    intro p id target n hid hlast
    refine ⟨?_, fun order h => by cases h⟩
    rintro id' fingerprint ⟨⟨hid', -⟩, status, -, rfl⟩
    injection hid' with hid'
    have hvalue : status.value.IsAscii := by
      rcases status <;> decide
    exact ⟨hid' ▸ hid.isJsonSafe, sampleOrder.fields.orderId.isAscii_str.isJsonSafe,
      hvalue.isJsonSafe, hlast⟩
  have hregister : (OrderCall.register sampleOrder).IsRestorable defaultContext empty ∧
      (OrderCall.register sampleOrder).IsStorable empty := by
    refine ⟨⟨fun h => h.2, fun _ _ h => h.elim⟩, fun _ _ h => h.elim, ?_⟩
    intro order h _
    injection h with h
    exact h ▸ (by decide +kernel : sampleOrder.Storable)
  apply (recovers defaultContext (fun _ => false) workingCalls).2
  refine ⟨hregister, ⟨hrestorable _ _ _ _ (by decide) (by decide), hstorable _ _ _ _
    (by decide) ?_⟩,
    ⟨hrestorable _ _ _ _ (by decide) (by decide), hstorable _ _ _ _ (by decide) ?_⟩, trivial⟩
  · decide +kernel
  · decide +kernel

/-- After a command that began and raised the snapshot is refused. -/
theorem snapshot_refused_after_raise :
    restore (run defaultContext (workingCalls ++ [sampleTransition "fill" .FILLED 3])).snapshot
      = .error (valueError "snapshot sequence does not match command outcomes") := by
  decide +kernel

end OrderCommandProcessor

end FuturesAgentOs
