import FuturesAgentOs.ExecutionSimulation.OrderStoreRoundTrip
import FuturesAgentOs.ExecutionSimulation.Protection

namespace FuturesAgentOs

open PyModel

/-!
# The durable protective actions

`execution_simulation/protection.py`, `DurableProtectiveActionRegistry`: the JSON envelope that
`_persist` writes and that `_load` reads.  An action that was issued is read back as it was
(`load_persist`).
-/

/-! ### Writing -/

/-- `str(id) if id is not None else None` -/
def idToPayload : Option EntityId → Json
  | some id => .str id.str
  | none => .null

def actionToPayload (action : ProtectiveRiskAction) : Py Json := do
  let schemaVersion ← action.fields.schemaVersion.str
  .ok (.obj [
    ("action_id", .str action.fields.actionId.str),
    ("request_id", .str action.fields.requestId.str),
    ("position_id", .str action.fields.positionId.str),
    ("target_quantity", .str action.fields.targetQuantity.str),
    ("target_stop_price", priceToPayload action.fields.targetStopPrice),
    ("created_at", .str action.fields.createdAt.text),
    ("validation_id", idToPayload action.fields.validationId),
    ("version", .int action.fields.version),
    ("schema_version", .str schemaVersion),
    ("source_ref", .str action.fields.sourceRef)])

namespace ProtectiveActionRegistry

/-- An entry of `_payload`. -/
def entryToPayload (entry : Text × ProtectiveRiskAction) : Py Json := do
  let action ← actionToPayload entry.2
  .ok (.obj [("idempotency_key", .str entry.1), ("action", action)])

def payload (r : ProtectiveActionRegistry) : Py Json := do
  let entries ← r.snapshot.mapM entryToPayload
  .ok (.arr entries)

/-- The schema of the file. -/
def schema : Text := "v2.protection-action.1"

/-- `_persist`, the text that it writes into the file. -/
def persist [Hashlib] (r : ProtectiveActionRegistry) : Py Text := do
  let payload ← r.payload
  let digest ← canonicalSha256 payload
  match (Json.obj (Envelope.items schema payload digest)).dumps with
  | none => .error (valueError "Exceeds the limit (4300 digits) for integer string conversion")
  | some encoded => .ok encoded

end ProtectiveActionRegistry

/-! ### Reading -/

section

variable (isPrintable : CodePoint → Bool)

/-- `EntityId.parse(str(items[key])) if items[key] is not None else None` -/
def idFromPayload (items : List (Text × Json)) (key : Text) : Py (Option EntityId) := do
  match ← Json.item items key with
  | .null => .ok none
  | v => (EntityId.parse (v.toStr isPrintable)).map some

/-- `required` of `_action_from_payload` -/
def actionKeys : List Text :=
  ["action_id", "request_id", "position_id", "target_quantity", "target_stop_price", "created_at",
    "validation_id", "version", "schema_version", "source_ref"]

/-- An action of the items of a payload. -/
def actionFromItems (items : List (Text × Json)) : Py ProtectiveRiskAction := do
  let actionId ← strItem isPrintable items "action_id" >>= EntityId.parse
  let requestId ← strItem isPrintable items "request_id" >>= EntityId.parse
  let positionId ← strItem isPrintable items "position_id" >>= EntityId.parse
  let targetQuantity ← strItem isPrintable items "target_quantity" >>= decimalOfStr
  let targetStopPrice ← priceFromPayload isPrintable items "target_stop_price"
  let createdAt ← strItem isPrintable items "created_at" >>= RecordedAt.parse
  let validationId ← idFromPayload isPrintable items "validation_id"
  let version ← strItem isPrintable items "version" >>= intOfStr
  let schemaVersion ← strItem isPrintable items "schema_version" >>= SchemaVersion.parse
  let sourceRef ← strItem isPrintable items "source_ref"
  -- the checks of an action raise `ValueError` only, so that it does not matter which is first
  let targetQuantity ← finiteDecimal targetQuantity
    (valueError "protective action quantity must be finite and non-negative")
  let targetStopPrice ← finitePrice targetStopPrice
    (valueError "protective action stop must be positive")
  Frozen.make
    { actionId, requestId, positionId, targetQuantity, targetStopPrice, createdAt, validationId,
      version, schemaVersion, sourceRef }

def actionFromPayload : Json → Py ProtectiveRiskAction
  | .obj items =>
    if Json.keysAre items actionKeys then actionFromItems isPrintable items
    else .error (valueError "protective action state fields are not exact")
  | _ => .error (valueError "protective action state must be an object")

namespace ProtectiveActionRegistry

/-- The fields of an entry. -/
def entryKeys : List Text := ["idempotency_key", "action"]

/-- An entry of a payload. -/
def entryFromPayload (value : Json) : Py (Text × ProtectiveRiskAction) := do
  let invalid := valueError "protective action entry is invalid"
  let items ← objectItems invalid value
  require (Json.keysAre items entryKeys) invalid
  let key ← Json.item items "idempotency_key" >>= textOf invalid
  require (key.strip ≠ []) invalid
  let members ← Json.item items "action" >>= objectItems invalid
  let action ← actionFromPayload isPrintable (.obj members)
  .ok (key, action)

variable [Hashlib]

/-- The registry of an envelope. -/
def loadEnvelope (envelope : Json) : Py ProtectiveActionRegistry := do
  let invalid := valueError "protective action envelope is invalid"
  let wrongSchema := valueError "protective action schema is invalid"
  let mismatch := valueError "protective action digest mismatch"
  let items ← objectItems invalid envelope
  require (Json.keysAre items Envelope.keys) invalid
  let payload ← Json.item items "payload"
  let foundSchema ← Json.item items "schema" >>= textOf wrongSchema
  require (foundSchema = schema) wrongSchema
  let entries ← arrayItems wrongSchema payload
  let digest ← Json.item items "digest" >>= textOf mismatch
  let expected ← canonicalSha256 payload
  require (digest = expected) mismatch
  let entries ← entries.mapM (entryFromPayload isPrintable)
  restore entries

/-- `_load`, of the text of the file; it catches what the durable orders catch. -/
def load (text : Text) : Py ProtectiveActionRegistry :=
  let failure := valueError "cannot load durable protective action state"
  match Json.loads text with
  | none => .error failure
  | some envelope =>
    match loadEnvelope isPrintable envelope with
    | .ok r => .ok r
    | .error e => if OrderCommandProcessor.IsLoadError e then .error failure else .error e

end ProtectiveActionRegistry

/-! ### Reading back -/

/-- The action's text survives JSON, and its numbers are within the limit of `int`. -/
structure ProtectiveRiskAction.Storable (a : ProtectiveRiskAction) : Prop where
  sourceRef : a.fields.sourceRef.IsJsonSafe
  version : FitsStr a.fields.version
  schemaVersion : a.fields.schemaVersion.FitsStr

/-- The members of the payload of an action. -/
def actionItems (a : ProtectiveRiskAction) : List (Text × Json) := [
  ("action_id", .str a.fields.actionId.str),
  ("request_id", .str a.fields.requestId.str),
  ("position_id", .str a.fields.positionId.str),
  ("target_quantity", .str a.fields.targetQuantity.str),
  ("target_stop_price", priceToPayload a.fields.targetStopPrice),
  ("created_at", .str a.fields.createdAt.text),
  ("validation_id", idToPayload a.fields.validationId),
  ("version", .int a.fields.version),
  ("schema_version", .str a.fields.schemaVersion.text),
  ("source_ref", .str a.fields.sourceRef)]

variable {a : ProtectiveRiskAction}

theorem actionToPayload_eq (h : ProtectiveRiskAction.Storable a) :
    actionToPayload a = .ok (.obj (actionItems a)) := by
  rw [actionToPayload, SchemaVersion.str_of_fits h.schemaVersion, Py.ok_bind, actionItems]

theorem keys_actionItems (a : ProtectiveRiskAction) : (actionItems a).map Prod.fst = actionKeys :=
  rfl

theorem nodup_keys_actionItems (a : ProtectiveRiskAction) :
    ((actionItems a).map Prod.fst).Nodup := by
  rw [keys_actionItems]
  simp [actionKeys]

theorem keysAre_actionItems (a : ProtectiveRiskAction) :
    Json.keysAre (actionItems a) actionKeys := by
  exact Json.keysAre_of_eq (keys_actionItems a)

theorem isSafe_actionItems (h : ProtectiveRiskAction.Storable a) :
    (Json.obj (actionItems a)).IsSafe := by
  have hvalidation : (idToPayload a.fields.validationId).IsSafe := by
    rcases a.fields.validationId with _ | id
    · trivial
    · exact id.isAscii_str.isJsonSafe
  apply Json.isSafe_obj (keys_actionItems a) (by simp [actionKeys]) (by simp [actionKeys])
  intro p hp
  simp only [actionItems, List.mem_cons, List.not_mem_nil, or_false] at hp
  rcases hp with rfl | rfl | rfl | rfl | rfl | rfl | rfl | rfl | rfl | rfl
  · exact a.fields.actionId.isAscii_str.isJsonSafe
  · exact a.fields.requestId.isAscii_str.isJsonSafe
  · exact a.fields.positionId.isAscii_str.isJsonSafe
  · exact a.fields.targetQuantity.isAscii_str.isJsonSafe
  · exact isSafe_priceToPayload _
  · exact a.fields.createdAt.isAscii_text.isJsonSafe
  · exact hvalidation
  · exact h.version
  · exact a.fields.schemaVersion.isAscii_text.isJsonSafe
  · exact h.sourceRef

/-- **An action is read back.** -/
theorem actionFromPayload_sortKeys (h : ProtectiveRiskAction.Storable a) :
    actionFromPayload isPrintable (Json.obj (actionItems a)).sortKeys = .ok a := by
  have hnodup := nodup_keys_actionItems a
  have hversion : strItem isPrintable (Json.sorted (actionItems a)) "version"
      = .ok (Text.ofInt a.fields.version) := by
    have hlookup : Json.lookup "version" (actionItems a) = some (.int a.fields.version) := rfl
    rw [strItem, Json.item_sorted hnodup hlookup]
    rfl
  have hvalidation : idFromPayload isPrintable (Json.sorted (actionItems a)) "validation_id"
      = .ok a.fields.validationId := by
    have hlookup : Json.lookup "validation_id" (actionItems a)
        = some (idToPayload a.fields.validationId) := rfl
    rw [idFromPayload, Json.item_sorted hnodup hlookup]
    rcases a.fields.validationId with _ | id
    · rfl
    · show (EntityId.parse id.str).map some = _
      rw [EntityId.parse_str]
      rfl
  have hstr : ∀ key t, Json.lookup key (actionItems a) = some (.str t) →
      strItem isPrintable (Json.sorted (actionItems a)) key = .ok t :=
    fun key t => strItem_sorted isPrintable hnodup
  rw [Json.sortKeys_obj, actionFromPayload, if_pos (Json.keysAre_sorted (keysAre_actionItems a)),
    actionFromItems, hstr "action_id" _ rfl, hstr "request_id" _ rfl, hstr "position_id" _ rfl,
    hstr "target_quantity" _ rfl, priceFromPayload_sorted isPrintable hnodup
      "target_stop_price" rfl,
    hstr "created_at" _ rfl, hvalidation, hversion, hstr "schema_version" _ rfl,
    hstr "source_ref" _ rfl]
  simp only [Py.ok_bind, EntityId.parse_str, decimalOfStr_str, RecordedAt.parse_text,
    intOfStr_ofInt h.version, SchemaVersion.parse_text h.schemaVersion, finiteDecimal,
    finitePrice_finite, Frozen.make_eq_ok]

namespace ProtectiveActionRegistry

/-- The keys and actions of the registry can be written into the file. -/
def Storable (r : ProtectiveActionRegistry) : Prop :=
  ∀ key a, r.actions.get? key = some a →
    (key.IsJsonSafe ∧ key.strip ≠ []) ∧ ProtectiveRiskAction.Storable a

theorem storable_empty : empty.Storable := by
  intro key a h
  cases h

/-- The payload of an entry. -/
def entryItems (entry : Text × ProtectiveRiskAction) : List (Text × Json) :=
  [("idempotency_key", .str entry.1), ("action", .obj (actionItems entry.2))]

variable {entry : Text × ProtectiveRiskAction}

theorem isSafe_entryItems (hkey : entry.1.IsJsonSafe)
    (haction : ProtectiveRiskAction.Storable entry.2) : (Json.obj (entryItems entry)).IsSafe := by
  have hkeys : (entryItems entry).map Prod.fst = entryKeys := rfl
  apply Json.isSafe_obj hkeys (by simp [entryKeys]) (by simp [entryKeys])
  intro p hp
  simp only [entryItems, List.mem_cons, List.not_mem_nil, or_false] at hp
  rcases hp with rfl | rfl
  · exact hkey
  · exact isSafe_actionItems haction

/-- **An entry is read back.** -/
theorem entryFromPayload_sortKeys (hkey : entry.1.strip ≠ [])
    (haction : ProtectiveRiskAction.Storable entry.2) :
    entryFromPayload isPrintable (Json.obj (entryItems entry)).sortKeys = .ok entry := by
  have hkeys : (entryItems entry).map Prod.fst = entryKeys := rfl
  have hnodup : ((entryItems entry).map Prod.fst).Nodup := by
    rw [hkeys]
    simp [entryKeys]
  have hkeysAre : Json.keysAre (Json.sorted (entryItems entry)) entryKeys := by
    apply Json.keysAre_sorted
    exact Json.keysAre_of_eq hkeys
  have hitem : ∀ key v, Json.lookup key (entryItems entry) = some v →
      Json.item (Json.sorted (entryItems entry)) key = .ok v.sortKeys :=
    fun key v => Json.item_sorted hnodup
  have hread := actionFromPayload_sortKeys isPrintable haction
  rw [Json.sortKeys_obj] at hread
  have hkeyItem : Json.item (Json.sorted (entryItems entry)) "idempotency_key"
      = .ok (.str entry.1) := hitem "idempotency_key" (.str entry.1) rfl
  have hactionItem := hitem "action" (.obj (actionItems entry.2)) rfl
  rw [Json.sortKeys_obj] at hactionItem
  rw [Json.sortKeys_obj, entryFromPayload, objectItems, Py.ok_bind, require_of_pos hkeysAre,
    Py.ok_bind, hkeyItem, hactionItem]
  simp only [textOf, objectItems, Py.ok_bind, require_of_pos hkey, hread]

theorem restore_snapshot (r : ProtectiveActionRegistry) : restore r.snapshot = .ok r := by
  have hrebuild := r.actions.foldlM_rebuild id
    (fun actions item => if (actions.get? item.1).isSome = true then
      .error (valueError "duplicate protective action snapshot key")
      else .ok (actions.set item.1 item.2))
    (fun e item _ hnew => by simp only [id, hnew, Option.isSome_none, Bool.false_eq_true, if_false])
  rw [List.map_id] at hrebuild
  rw [restore, snapshot, hrebuild]
  rfl

variable [Hashlib] {r : ProtectiveActionRegistry}

/-- **Reading back a file** gives the registry that wrote it. -/
theorem load_persist (h : r.Storable) :
    ∃ text, r.persist = .ok text ∧ load isPrintable text = .ok r := by
  have hstorable : ∀ entry ∈ r.snapshot,
      (entry.1.IsJsonSafe ∧ entry.1.strip ≠ []) ∧ ProtectiveRiskAction.Storable entry.2 :=
    fun entry hentry => h entry.1 entry.2 (Dict.mem_items_iff.mp hentry)
  have hpayload :
      r.payload = .ok (.arr (r.snapshot.map (fun entry => .obj (entryItems entry)))) := by
    have hmap := Py.mapM_eq_ok (f := entryToPayload) (g := fun entry => .obj (entryItems entry))
      (fun entry hentry => by
        rw [entryToPayload, actionToPayload_eq (hstorable entry hentry).2, Py.ok_bind, entryItems])
    rw [payload, hmap, Py.ok_bind]
  have hsafe : (Json.arr (r.snapshot.map (fun entry => .obj (entryItems entry)))).IsSafe :=
    Json.isSafe_arr
      (fun entry hentry => isSafe_entryItems (hstorable entry hentry).1.1
        (hstorable entry hentry).2)
  have hschema : schema.IsJsonSafe := Text.isJsonSafe_ofString _
  obtain ⟨digest, text, members, hdigest, hsorted, hdumps, hloads, hread⟩ :=
    Envelope.exists_written hschema hsafe
  refine ⟨text, ?_, ?_⟩
  · rw [persist, hpayload, Py.ok_bind, hdigest, Py.ok_bind]
    simp only [hdumps]
  have hentries := Json.mapM_sortKeys (l := r.snapshot)
    (fun entry hentry => entryFromPayload_sortKeys isPrintable (hstorable entry hentry).1.2
      (hstorable entry hentry).2)
  rw [Json.sortKeys, Json.sortItems_eq] at hsorted
  have hpayloadItem := hread.payload
  rw [Json.sortKeys, Json.sortItems_eq] at hpayloadItem
  have hload : loadEnvelope isPrintable (.obj members) = .ok r := by
    simp only [loadEnvelope, objectItems, Py.ok_bind, require_of_pos hread.keysAre, hread.schema,
      hpayloadItem, hread.digest, hsorted, textOf, arrayItems, require_of_pos,
      hentries, restore_snapshot]
  rw [load, hloads]
  simp only [hload]

/-- An issued action can be written into the file. -/
theorem storable_issue (call : IssueCall) (h : r.Storable) : (r.issue call).2.Storable := by
  rcases r.issue_cases call with ⟨e, hissue⟩ | ⟨existing, -, -, hissue⟩ | ⟨a, hnew, ha, hissue⟩
  · rw [hissue]
    exact h
  · rw [hissue]
    exact h
  · rw [hissue]
    intro key b hb
    rw [Dict.get?_set] at hb
    by_cases hkey : key = call.key
    · rw [if_pos hkey, Option.some.injEq] at hb
      subst hb hkey
      obtain ⟨-, hseed, -, -, -, -, -, hversion, hschema, hsource⟩ := action_ok ha
      have hrequest := RiskReductionRequestFields.postInit_eq_ok.mp call.request.valid
      refine ⟨⟨?_, hrequest.2.2.2.2.2.2.1⟩, ?_, ?_, ?_⟩
      · -- the key is the start of the seed of an identifier, which has UTF-8 bytes
        have hsafe := Text.isJsonSafe_of_encodeUtf8 hseed
        rw [ProtectionValidator.actionSeed, List.append_assoc] at hsafe
        exact List.IsChain.left_of_append hsafe
      · rw [hsource]
        decide
      · rw [hversion]
        decide
      · rw [hschema]
        decide
    · rw [if_neg hkey] at hb
      exact h key b hb

/-- **Restarts and retries.**  After any run the file is read back as the registry that wrote it,
and a request that was issued gets its action again, whatever validation comes with it. -/
theorem issue_reloaded (calls later : List IssueCall) (call : IssueCall) :
    let r := machine.exec empty (calls ++ call :: later)
    r.persist >>= load isPrintable = .ok r
      ∧ ∀ a, machine.out (machine.exec empty calls) call = .ok a →
        ∀ validation now, r.issue ⟨call.request, validation, now⟩ = (.ok a, r) := by
  refine ⟨?_, fun a h validation now => ?_⟩
  · obtain ⟨text, hpersist, hload⟩ := load_persist isPrintable (machine.exec_invariant
      (fun _ call => storable_issue call) storable_empty (calls ++ call :: later))
    rw [hpersist]
    exact hload
  rw [Machine.exec_append, Machine.exec_cons]
  generalize machine.exec empty calls = r at h
  have hget := machine.exec_invariant (I := fun r => r.actions.get? call.key = some a)
    (fun _ call h => get?_of_issue_of_get? call h) (get?_of_issue (Prod.ext h rfl)) later
  have hagrees : Agrees a call.request := by
    rcases r.issue_cases call with ⟨e, hcall⟩ | ⟨b, -, hb, hcall⟩ | ⟨b, -, hb, hcall⟩ <;>
      cases (congrArg Prod.fst hcall).symm.trans h
    · exact hb
    · obtain ⟨-, -, hid, hposition, hquantity, hstop, -⟩ := action_ok hb
      refine ⟨hid, hposition, congrArg Decimal.val hquantity, ?_⟩
      rw [hstop]
      cases call.request.fields.targetStopPrice <;> trivial
  simp only [issue, IssueCall.key, machine, Machine.next] at hget ⊢
  simp only [hget, if_pos hagrees]

end ProtectiveActionRegistry

end

end FuturesAgentOs
