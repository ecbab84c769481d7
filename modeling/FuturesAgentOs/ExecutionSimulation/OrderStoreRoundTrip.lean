import FuturesAgentOs.ExecutionSimulation.OrderStore

namespace FuturesAgentOs

open PyModel

/-!
# Reading back the durable order state

Of a processor whose texts survive JSON and whose numbers are within the limit of `int`, the
payload is read back item by item.

* `load_persist_of_restore` — reading back a file gives what `restore` makes of the snapshot.
-/

/-- The order's texts survive JSON, and its numbers are within the limit of `int`. -/
structure Order.Storable (o : Order) : Prop where
  instrument : o.fields.instrument.IsJsonSafe
  sourceRef : o.fields.sourceRef.IsJsonSafe
  version : FitsStr o.fields.version
  schemaVersion : o.fields.schemaVersion.FitsStr

instance (o : Order) : Decidable o.Storable :=
  decidable_of_iff (o.fields.instrument.IsJsonSafe ∧ o.fields.sourceRef.IsJsonSafe
      ∧ FitsStr o.fields.version ∧ o.fields.schemaVersion.FitsStr)
    ⟨fun ⟨h₁, h₂, h₃, h₄⟩ => ⟨h₁, h₂, h₃, h₄⟩, fun ⟨h₁, h₂, h₃, h₄⟩ => ⟨h₁, h₂, h₃, h₄⟩⟩

/-- The outcome's texts survive JSON, and its numbers are within the limit of `int`. -/
structure OrderCommandResult.Storable (r : OrderCommandResult) : Prop where
  commandId : r.commandId.IsJsonSafe
  order : ∀ o ∈ r.order, Order.Storable o
  reason : ∀ t ∈ r.reason, Text.IsJsonSafe t
  eventSequence : ∀ n ∈ r.eventSequence, FitsStr n

section

variable (isPrintable : CodePoint → Bool)

/-! ### Orders -/

/-- The members of the payload of an order. -/
def orderItems (o : Order) : List (Text × Json) := [
  ("order_id", .str o.fields.orderId.str),
  ("execution_plan_id", .str o.fields.executionPlanId.str),
  ("instrument", .str o.fields.instrument),
  ("direction", .str o.fields.direction.value),
  ("quantity", .str o.fields.quantity.str),
  ("status", .str o.fields.status.value),
  ("filled_quantity", .str o.fields.filledQuantity.str),
  ("limit_price", priceToPayload o.fields.limitPrice),
  ("stop_price", priceToPayload o.fields.stopPrice),
  ("created_at", .str o.fields.createdAt.text),
  ("version", .int o.fields.version),
  ("schema_version", .str o.fields.schemaVersion.text),
  ("source_ref", .str o.fields.sourceRef)]

variable {o : Order}

theorem orderToPayload_eq (h : o.Storable) : orderToPayload o = .ok (.obj (orderItems o)) := by
  rw [orderToPayload, SchemaVersion.str_of_fits h.schemaVersion, Py.ok_bind, orderItems]

theorem keys_orderItems (o : Order) : (orderItems o).map Prod.fst = orderKeys := rfl

theorem nodup_keys_orderItems (o : Order) : ((orderItems o).map Prod.fst).Nodup := by
  rw [keys_orderItems]
  simp [orderKeys]

theorem keysAre_orderItems (o : Order) : Json.keysAre (orderItems o) orderKeys := by
  exact Json.keysAre_of_eq (keys_orderItems o)

theorem isSafe_priceToPayload (price : Option Decimal) : (priceToPayload price).IsSafe := by
  rcases price with _ | d
  · trivial
  · exact d.isAscii_str.isJsonSafe

theorem isSafe_orderItems (h : o.Storable) : (Json.obj (orderItems o)).IsSafe := by
  have hdirection : o.fields.direction.value.IsJsonSafe := by
    rcases o.fields.direction <;> decide
  have hstatus : o.fields.status.value.IsJsonSafe := by
    rcases o.fields.status <;> decide
  apply Json.isSafe_obj (keys_orderItems o) (by simp [orderKeys]) (by simp [orderKeys])
  intro p hp
  simp only [orderItems, List.mem_cons, List.not_mem_nil, or_false] at hp
  rcases hp with rfl | rfl | rfl | rfl | rfl | rfl | rfl | rfl | rfl | rfl | rfl | rfl | rfl
  · exact o.fields.orderId.isAscii_str.isJsonSafe
  · exact o.fields.executionPlanId.isAscii_str.isJsonSafe
  · exact h.instrument
  · exact hdirection
  · exact o.fields.quantity.isAscii_str.isJsonSafe
  · exact hstatus
  · exact o.fields.filledQuantity.isAscii_str.isJsonSafe
  · exact isSafe_priceToPayload _
  · exact isSafe_priceToPayload _
  · exact o.fields.createdAt.isAscii_text.isJsonSafe
  · exact h.version
  · exact o.fields.schemaVersion.isAscii_text.isJsonSafe
  · exact h.sourceRef

theorem OrderStatus.ofValue_value (s : OrderStatus) : ofValue s.value = .ok s := by
  rcases s <;> rfl

theorem priceFromPayload_sorted {items : List (Text × Json)} (h : (items.map Prod.fst).Nodup)
    (key : Text) {price : Option Decimal}
    (hprice : Json.lookup key items = some (priceToPayload price)) :
    priceFromPayload isPrintable (Json.sorted items) key = .ok (price.map .finite) := by
  rw [priceFromPayload, Json.item_sorted h hprice]
  rcases price with _ | d
  · rfl
  · show (decimalOfStr d.str).map some = _
    rw [decimalOfStr_str]
    rfl

theorem finitePrice_finite (price : Option Decimal) (e : PyException) :
    finitePrice (price.map .finite) e = .ok price := by
  rcases price with _ | d <;> rfl

/-- **An order is read back.** -/
theorem orderFromPayload_sortKeys (h : o.Storable) :
    orderFromPayload isPrintable (Json.obj (orderItems o)).sortKeys = .ok o := by
  have hnodup := nodup_keys_orderItems o
  have hversion : strItem isPrintable (Json.sorted (orderItems o)) "version"
      = .ok (Text.ofInt o.fields.version) := by
    have hlookup : Json.lookup "version" (orderItems o) = some (.int o.fields.version) := rfl
    rw [strItem, Json.item_sorted hnodup hlookup]
    rfl
  have hstr : ∀ key t, Json.lookup key (orderItems o) = some (.str t) →
      strItem isPrintable (Json.sorted (orderItems o)) key = .ok t :=
    fun key t => strItem_sorted isPrintable hnodup
  rw [Json.sortKeys_obj, orderFromPayload, if_pos (Json.keysAre_sorted (keysAre_orderItems o)),
    orderFromItems, hstr "order_id" _ rfl, hstr "execution_plan_id" _ rfl, hstr "instrument" _ rfl,
    hstr "direction" _ rfl, hstr "quantity" _ rfl, hstr "status" _ rfl,
    hstr "filled_quantity" _ rfl, priceFromPayload_sorted isPrintable hnodup "limit_price" rfl,
    priceFromPayload_sorted isPrintable hnodup "stop_price" rfl, hstr "created_at" _ rfl,
    hversion, hstr "schema_version" _ rfl, hstr "source_ref" _ rfl]
  simp only [Py.ok_bind, EntityId.parse_str, TradeDirection.ofValue_value,
    OrderStatus.ofValue_value, decimalOfStr_str, RecordedAt.parse_text, intOfStr_ofInt h.version,
    SchemaVersion.parse_text h.schemaVersion, finiteDecimal, finitePrice_finite, Frozen.make_eq_ok]

/-! ### Command results -/

/-- The payload of an order that may be missing. -/
def orderOrNull : Option Order → Json
  | some o => .obj (orderItems o)
  | none => .null

/-- The members of the payload of a command result. -/
def commandResultItems (r : OrderCommandResult) : List (Text × Json) := [
  ("command_id", .str r.commandId),
  ("accepted", .bool r.accepted),
  ("order", orderOrNull r.order),
  ("reason", jsonText? r.reason),
  ("event_sequence", jsonInt? r.eventSequence)]

variable {r : OrderCommandResult}

theorem commandResultToPayload_eq (h : r.Storable) :
    commandResultToPayload r = .ok (.obj (commandResultItems r)) := by
  have horder : optionToPayload orderToPayload r.order = .ok (orderOrNull r.order) := by
    rcases ho : r.order with _ | o
    · rfl
    · exact orderToPayload_eq (h.order o ho)
  have hreason : optionToPayload (fun reason => .ok (.str reason)) r.reason
      = .ok (jsonText? r.reason) := by
    rcases r.reason with _ | t <;> rfl
  have hsequence : optionToPayload (fun n => .ok (.int n)) r.eventSequence
      = .ok (jsonInt? r.eventSequence) := by
    rcases r.eventSequence with _ | n <;> rfl
  rw [commandResultToPayload, horder, Py.ok_bind, hreason, Py.ok_bind, hsequence, Py.ok_bind,
    commandResultItems]

theorem keys_commandResultItems (r : OrderCommandResult) :
    (commandResultItems r).map Prod.fst = commandResultKeys := rfl

theorem nodup_keys_commandResultItems (r : OrderCommandResult) :
    ((commandResultItems r).map Prod.fst).Nodup := by
  rw [keys_commandResultItems]
  simp [commandResultKeys]

theorem keysAre_commandResultItems (r : OrderCommandResult) :
    Json.keysAre (commandResultItems r) commandResultKeys := by
  exact Json.keysAre_of_eq (keys_commandResultItems r)

theorem isSafe_commandResultItems (h : r.Storable) : (Json.obj (commandResultItems r)).IsSafe := by
  apply Json.isSafe_obj (keys_commandResultItems r) (by simp [commandResultKeys]) (by simp [commandResultKeys])
  intro p hp
  simp only [commandResultItems, List.mem_cons, List.not_mem_nil, or_false] at hp
  rcases hp with rfl | rfl | rfl | rfl | rfl
  · exact h.commandId
  · trivial
  · show (orderOrNull r.order).IsSafe
    rcases ho : r.order with _ | o
    · trivial
    · exact isSafe_orderItems (h.order o ho)
  · show (jsonText? r.reason).IsSafe
    rcases ht : r.reason with _ | t
    · trivial
    · exact h.reason t ht
  · show (jsonInt? r.eventSequence).IsSafe
    rcases hn : r.eventSequence with _ | n
    · trivial
    · exact h.eventSequence n hn

/-- **A command result is read back.** -/
theorem commandResultFromPayload_sortKeys (h : r.Storable) :
    commandResultFromPayload isPrintable (Json.obj (commandResultItems r)).sortKeys = .ok r := by
  have hnodup := nodup_keys_commandResultItems r
  have hitem : ∀ key v, Json.lookup key (commandResultItems r) = some v →
      Json.item (Json.sorted (commandResultItems r)) key = .ok v.sortKeys :=
    fun key v => Json.item_sorted hnodup
  have hid : strItem isPrintable (Json.sorted (commandResultItems r)) "command_id"
      = .ok r.commandId := strItem_sorted isPrintable hnodup rfl
  have horder : optionFromPayload (orderFromPayload isPrintable) (orderOrNull r.order).sortKeys
      = .ok r.order := by
    rcases ho : r.order with _ | o
    · rfl
    · have hread := orderFromPayload_sortKeys isPrintable (h.order o ho)
      rw [Json.sortKeys_obj] at hread
      show (orderFromPayload isPrintable (.obj (Json.sorted (orderItems o)))).map some = _
      rw [hread]
      rfl
  have hreason : optionFromPayload (fun v => .ok (v.toStr isPrintable))
    (jsonText? r.reason).sortKeys
      = .ok r.reason := by
    rcases r.reason with _ | t <;> rfl
  have hsequence : eventSequenceFromPayload (jsonInt? r.eventSequence).sortKeys
      = .ok r.eventSequence := by
    rcases r.eventSequence with _ | n <;> rfl
  rw [Json.sortKeys_obj, commandResultFromPayload,
    if_pos (Json.keysAre_sorted (keysAre_commandResultItems r)), hitem "accepted" _ rfl,
    hitem "event_sequence" _ rfl, hid, hitem "order" _ rfl, hitem "reason" _ rfl]
  simp only [Py.ok_bind, hsequence, horder, hreason]
  rfl

/-! ### Fingerprints -/

/-- The three texts of a fingerprint survive JSON. -/
def FingerprintStorable (item : Text × Text × Text) : Prop :=
  item.1.IsJsonSafe ∧ item.2.1.IsJsonSafe ∧ item.2.2.IsJsonSafe

theorem isSafe_fingerprintToPayload {item : Text × Text × Text} (h : FingerprintStorable item) :
    (fingerprintToPayload item).IsSafe := ⟨h.1, h.2.1, h.2.2, trivial⟩

theorem fingerprintFromPayload_sortKeys (item : Text × Text × Text) :
    fingerprintFromPayload (fingerprintToPayload item).sortKeys = .ok item := rfl

/-! ### The whole state -/

/-- The texts and numbers of a snapshot are within what the file can hold. -/
structure OrderProcessorSnapshot.Storable (s : OrderProcessorSnapshot) : Prop where
  orders : ∀ o ∈ s.orders, Order.Storable o
  commands : ∀ r ∈ s.commands, OrderCommandResult.Storable r
  fingerprints : ∀ item ∈ s.commandFingerprints, FingerprintStorable item
  lastEventSequence : FitsStr s.lastEventSequence

namespace OrderCommandProcessor

/-- The members of the payload of a snapshot. -/
def payloadItems (s : OrderProcessorSnapshot) : List (Text × Json) := [
  ("orders", .arr (s.orders.map (fun o => .obj (orderItems o)))),
  ("commands", .arr (s.commands.map (fun r => .obj (commandResultItems r)))),
  ("command_fingerprints", .arr (s.commandFingerprints.map fingerprintToPayload)),
  ("last_event_sequence", .int s.lastEventSequence)]

variable {p : OrderCommandProcessor} {s : OrderProcessorSnapshot}

theorem payload_eq (h : p.snapshot.Storable) :
    p.payload = .ok (.obj (payloadItems p.snapshot)) := by
  have horders : p.snapshot.orders.mapM orderToPayload
      = .ok (p.snapshot.orders.map (fun o => .obj (orderItems o))) :=
    Py.mapM_eq_ok (fun o ho => orderToPayload_eq (h.orders o ho))
  have hcommands : p.snapshot.commands.mapM commandResultToPayload
      = .ok (p.snapshot.commands.map (fun r => .obj (commandResultItems r))) :=
    Py.mapM_eq_ok (fun r hr => commandResultToPayload_eq (h.commands r hr))
  rw [payload, horders, Py.ok_bind, hcommands, Py.ok_bind, payloadItems]

theorem keys_payloadItems (s : OrderProcessorSnapshot) :
    (payloadItems s).map Prod.fst = payloadKeys := rfl

theorem nodup_keys_payloadItems (s : OrderProcessorSnapshot) :
    ((payloadItems s).map Prod.fst).Nodup := by
  rw [keys_payloadItems]
  simp [payloadKeys]

theorem keysAre_payloadItems (s : OrderProcessorSnapshot) :
    Json.keysAre (payloadItems s) payloadKeys := by
  exact Json.keysAre_of_eq (keys_payloadItems s)

theorem isSafe_payloadItems (h : s.Storable) : (Json.obj (payloadItems s)).IsSafe := by
  apply Json.isSafe_obj (keys_payloadItems s) (by simp [payloadKeys]) (by simp [payloadKeys])
  intro p hp
  simp only [payloadItems, List.mem_cons, List.not_mem_nil, or_false] at hp
  rcases hp with rfl | rfl | rfl | rfl
  · exact Json.isSafe_arr (fun o ho => isSafe_orderItems (h.orders o ho))
  · exact Json.isSafe_arr (fun r hr => isSafe_commandResultItems (h.commands r hr))
  · exact Json.isSafe_arr (fun i hi => isSafe_fingerprintToPayload (h.fingerprints i hi))
  · exact h.lastEventSequence

/-- **The payload is read back.** -/
theorem snapshotFromPayload_sorted (h : s.Storable) :
    snapshotFromPayload isPrintable (Json.sorted (payloadItems s)) = .ok s := by
  have hnodup := nodup_keys_payloadItems s
  have hitem : ∀ key items, Json.lookup key (payloadItems s) = some (.arr items) →
      Json.item (Json.sorted (payloadItems s)) key = .ok (.arr (items.map Json.sortKeys)) := by
    intro key items hlookup
    rw [Json.item_sorted hnodup hlookup, Json.sortKeys, Json.sortItems_eq]
  have hlast : strItem isPrintable (Json.sorted (payloadItems s)) "last_event_sequence"
      = .ok (Text.ofInt s.lastEventSequence) := by
    have hlookup : Json.lookup "last_event_sequence" (payloadItems s)
        = some (.int s.lastEventSequence) := rfl
    rw [strItem, Json.item_sorted hnodup hlookup]
    rfl
  have hfingerprints := Json.mapM_sortKeys (l := s.commandFingerprints)
    (fun item _ => fingerprintFromPayload_sortKeys item)
  have horders := Json.mapM_sortKeys (l := s.orders)
    (fun o ho => orderFromPayload_sortKeys isPrintable (h.orders o ho))
  have hcommands := Json.mapM_sortKeys (l := s.commands)
    (fun r hr => commandResultFromPayload_sortKeys isPrintable (h.commands r hr))
  rw [snapshotFromPayload, require_of_pos (Json.keysAre_sorted (keysAre_payloadItems s)),
    Py.ok_bind,
    hitem "orders" _ rfl, hitem "commands" _ rfl, hitem "command_fingerprints" _ rfl, hlast]
  simp only [Py.ok_bind, arrayItems, hfingerprints, horders, hcommands,
    intOfStr_ofInt h.lastEventSequence]

variable [Hashlib]

/-- **Reading back a file** gives what `restore` makes of the snapshot. -/
theorem load_persist_of_restore (h : p.snapshot.Storable) {q : OrderCommandProcessor}
    (hq : restore p.snapshot = .ok q) :
    ∃ text, p.persist = .ok text ∧ load isPrintable text = .ok q := by
  have hschema : Text.IsJsonSafe "v2.order-command.1" :=
    Text.isJsonSafe_ofString _
  obtain ⟨digest, text, members, hdigest, hsorted, hdumps, hloads, hread⟩ :=
    Envelope.exists_written hschema (isSafe_payloadItems h)
  refine ⟨text, ?_, ?_⟩
  · have hdumps : (envelope (.obj (payloadItems p.snapshot)) digest).dumps = some text := hdumps
    rw [persist, payload_eq h, Py.ok_bind, hdigest, Py.ok_bind]
    simp only [hdumps]
  rw [Json.sortKeys_obj] at hsorted
  have hkeysAre : Json.keysAre members envelopeKeys := hread.keysAre
  have hload : loadEnvelope isPrintable (.obj members) = .ok q := by
    simp only [loadEnvelope, objectItems, Py.ok_bind, require_of_pos hkeysAre, hread.schema,
      hread.payload, hread.digest, Json.sortKeys_obj, hsorted, textOf, require_of_pos,
      snapshotFromPayload_sorted isPrintable h, hq]
  rw [load, hloads]
  simp only [hload]

end OrderCommandProcessor

end

end FuturesAgentOs
