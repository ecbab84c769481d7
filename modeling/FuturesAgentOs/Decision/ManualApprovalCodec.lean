import FuturesAgentOs.Decision.AuthorizationBasis
import FuturesAgentOs.PyModel.JsonReread
import FuturesAgentOs.SharedKernel.JsonObject

namespace FuturesAgentOs

open PyModel

/-!
# The payload of a plan approval

`decision/manual_test.py`: how an approval is written into the state file of manual tests, and how
it is read from it.

* `exists_readBack` — what is read back of an approval whose terms were read.
-/

/-! ### Writing -/

/-- The member `scope`. -/
def scopeItems (s : ApprovalScope) : List (Text × Json) := [
  ("account", .str s.fields.simulationAccountId.str),
  ("instruments", jsonTexts s.fields.instruments),
  ("strategies", jsonTexts s.fields.strategies),
  ("sessions", jsonTexts s.fields.sessions),
  ("actions", jsonTexts (sortedActions s.fields.actions)),
  ("quantity_ceiling", .str s.fields.quantityCeiling.str),
  ("valid_from", .str s.fields.validFromAt.text),
  ("valid_until", .str s.fields.validUntilAt.text)]

/-- The members of a payload, the text of the schema's version given. -/
def approvalItems (a : PlanApproval) (schemaVersion : Text) : List (Text × Json) := [
  ("approval_id", .str a.fields.approvalId.str),
  ("version", .int a.fields.version),
  ("status", .str a.fields.status.value),
  ("plan_id", .str a.fields.planId.str),
  ("plan_version", .int a.fields.planVersion),
  ("plan_hash", .str a.fields.planHash),
  ("account_id", .str a.fields.accountId.str),
  ("scope", .obj (scopeItems a.fields.scope)),
  ("approval_token", .str a.fields.approvalToken.str),
  ("requested_by", .str a.fields.requestedBy),
  ("expires_at", .str a.fields.expiresAt.text),
  ("requested_at", .str a.fields.requestedAt.text),
  ("consumer_basis_id", jsonText? (a.fields.consumerBasisId.map EntityId.str)),
  ("consumed_at", jsonText? (a.fields.consumedAt.map RecordedAt.text)),
  ("decided_at", jsonText? (a.fields.decidedAt.map RecordedAt.text)),
  ("decided_by", jsonText? a.fields.decidedBy),
  ("schema_version", .str schemaVersion),
  ("source_ref", .str a.fields.sourceRef)]

def approvalToPayload (a : PlanApproval) : Py (List (Text × Json)) := do
  let schemaVersion ← a.fields.schemaVersion.str
  .ok (approvalItems a schemaVersion)

/-! ### Reading -/

/-- `PlanApprovalStatus(t)` -/
def PlanApprovalStatus.ofValue (t : Text) : Py PlanApprovalStatus :=
  match [PlanApprovalStatus.REQUESTED, .GRANTED, .REJECTED, .EXPIRED, .CONSUMED].find?
      (fun status => status.value = t) with
  | some status => .ok status
  | none => .error (valueError "is not a valid PlanApprovalStatus")

theorem PlanApprovalStatus.ofValue_value (status : PlanApprovalStatus) :
    ofValue status.value = .ok status := by
  cases status <;> rfl

/-- `ApprovalAction(t)` -/
def ApprovalAction.ofValue (t : Text) : Py ApprovalAction :=
  match [ApprovalAction.OPEN, .REDUCE, .CLOSE].find? (fun action => action.value = t) with
  | some action => .ok action
  | none => .error (valueError "is not a valid ApprovalAction")

theorem ApprovalAction.ofValue_value (action : ApprovalAction) :
    ofValue action.value = .ok action := by
  cases action <;> rfl

/-- `for v in value` -/
def iterated : Json → Py (List Json)
  | .arr items => .ok items
  | .obj items => .ok (items.map fun p => .str p.1)
  | .str t => .ok (t.map fun c => .str [c])
  | _ => .error (typeError "object is not iterable")

section

variable (isPrintable : CodePoint → Bool)

/-- `tuple(str(v) for v in items[key])` -/
def strItems (items : List (Text × Json)) (key : Text) : Py (List Text) := do
  let values ← Json.item items key >>= iterated
  .ok (values.map (Json.toStr isPrintable))

/-- `str(items[key]) if items.get(key) else None`, where no float is written. -/
def strItem? (items : List (Text × Json)) (key : Text) : Option Text :=
  match Json.lookup key items with
  | none | some .null | some (.bool false) | some (.int 0) | some (.str []) | some (.arr [])
  | some (.obj []) => none
  | some v => some (v.toStr isPrintable)

/-- `parse(str(items[key])) if items.get(key) else None` -/
def parsedItem? {α : Type} (parse : Text → Py α) (items : List (Text × Json)) (key : Text) :
    Py (Option α) :=
  match strItem? isPrintable items key with
  | none => .ok none
  | some t => (parse t).map some

/-- `str(items.get(key, default))` -/
def strItemOr (items : List (Text × Json)) (key default : Text) : Text :=
  match Json.lookup key items with
  | none => default
  | some v => v.toStr isPrintable

/-- `ApprovalScope(…)` -/
def scopeFromItems (items : List (Text × Json)) : Py ApprovalScope := do
  let simulationAccountId ← strItem isPrintable items "account" >>= EntityId.parse
  let instruments ← strItems isPrintable items "instruments"
  let strategies ← strItems isPrintable items "strategies"
  let sessions ← strItems isPrintable items "sessions"
  let actions ← strItems isPrintable items "actions"
  let actions ← actions.mapM ApprovalAction.ofValue
  let ceiling ← strItem isPrintable items "quantity_ceiling" >>= decimalOfStr
  let validFromAt ← strItem isPrintable items "valid_from" >>= RecordedAt.parse
  let validUntilAt ← strItem isPrintable items "valid_until" >>= RecordedAt.parse
  let quantityCeiling ← finiteDecimal ceiling
    (valueError "approval scope quantity ceiling must be a positive finite Decimal")
  Frozen.make
    { simulationAccountId, instruments, strategies, sessions, actions := actions.toFinset,
      quantityCeiling, validFromAt, validUntilAt }

/-- `PlanApproval(…)` -/
def approvalFromItems (items scope : List (Text × Json)) : Py PlanApproval := do
  let approvalId ← strItem isPrintable items "approval_id" >>= EntityId.parse
  let version ← strItem isPrintable items "version" >>= intOfStr
  let status ← strItem isPrintable items "status" >>= PlanApprovalStatus.ofValue
  let planId ← strItem isPrintable items "plan_id" >>= EntityId.parse
  let planVersion ← strItem isPrintable items "plan_version" >>= intOfStr
  let planHash ← strItem isPrintable items "plan_hash"
  let accountId ← strItem isPrintable items "account_id" >>= EntityId.parse
  let scope ← scopeFromItems isPrintable scope
  let approvalToken ← strItem isPrintable items "approval_token" >>= EntityId.parse
  let requestedBy ← strItem isPrintable items "requested_by"
  let expiresAt ← strItem isPrintable items "expires_at" >>= RecordedAt.parse
  let requestedAt ← strItem isPrintable items "requested_at" >>= RecordedAt.parse
  let consumerBasisId ← parsedItem? isPrintable EntityId.parse items "consumer_basis_id"
  let consumedAt ← parsedItem? isPrintable RecordedAt.parse items "consumed_at"
  let decidedAt ← parsedItem? isPrintable RecordedAt.parse items "decided_at"
  let decidedBy := strItem? isPrintable items "decided_by"
  let schemaVersion ← SchemaVersion.parse (strItemOr isPrintable items "schema_version" "1.0")
  let sourceRef := strItemOr isPrintable items "source_ref" "source:v2"
  Frozen.make
    { approvalId, version, status, planId, planVersion, planHash, accountId, scope, approvalToken,
      requestedBy, expiresAt, requestedAt, consumerBasisId, consumedAt, decidedAt, decidedBy,
      schemaVersion, sourceRef }

def approvalFromPayload (payload : List (Text × Json)) : Py PlanApproval :=
  match Json.lookup "scope" payload with
  | some (.obj scope) => approvalFromItems isPrintable payload scope
  | _ => .error (valueError "manual approval payload must be an object")

end

/-! ### What is read back -/

/-- The scope with the pairs of its texts joined. -/
def joinedScope (f : ApprovalScopeFields) : ApprovalScopeFields :=
  { f with
    instruments := f.instruments.map Text.joined
    strategies := f.strategies.map Text.joined
    sessions := f.sessions.map Text.joined }

/-- The approval with the pairs of its texts joined. -/
def joinedApproval (f : PlanApprovalFields) (scope : ApprovalScope) : PlanApprovalFields :=
  { f with
    scope := scope
    requestedBy := f.requestedBy.joined
    decidedBy := f.decidedBy.map Text.joined
    sourceRef := f.sourceRef.joined }

/-- What is read back of an approval. -/
def PlanApproval.readBack (a : PlanApproval) : Py PlanApproval := do
  let scope ← Frozen.make (joinedScope a.fields.scope.fields)
  Frozen.make (joinedApproval a.fields scope)

/-- The numbers of the approval are within the limit of `str`. -/
structure PlanApproval.FitsStr (a : PlanApproval) : Prop where
  version : PyModel.FitsStr a.fields.version
  planVersion : PyModel.FitsStr a.fields.planVersion
  schemaVersion : a.fields.schemaVersion.FitsStr

section

variable {isPrintable : CodePoint → Bool} {items : List (Text × Json)} (key : Text)

theorem strItem_joinMembers (h : (items.map Prod.fst).Nodup) {t : Text}
    (ht : Json.lookup key items = some (.str t)) :
    strItem isPrintable (Json.joinMembers items) key = .ok t.joined := by
  rw [strItem, Json.item, Json.lookup_joinMembers h ht]
  rfl

theorem parsedItem_joinMembers {α : Type} {parse : Text → Py α} {t : Text} {a : α}
    (h : (items.map Prod.fst).Nodup) (ht : Json.lookup key items = some (.str t))
    (hsafe : t.IsJsonSafe) (hparse : parse t = .ok a) :
    (strItem isPrintable (Json.joinMembers items) key >>= parse) = .ok a := by
  rw [strItem_joinMembers key h ht, Py.ok_bind, Text.joined_eq_self hsafe, hparse]

theorem intItem_joinMembers (h : (items.map Prod.fst).Nodup) {n : ℤ}
    (hn : Json.lookup key items = some (.int n)) (hfits : FitsStr n) :
    (strItem isPrintable (Json.joinMembers items) key >>= intOfStr) = .ok n := by
  have hstr : strItem isPrintable (Json.joinMembers items) key = .ok (Text.ofInt n) := by
    rw [strItem, Json.item, Json.lookup_joinMembers h hn]
    rfl
  rw [hstr, Py.ok_bind, intOfStr_ofInt hfits]

theorem strItems_joinMembers (h : (items.map Prod.fst).Nodup) {texts : List Text}
    (ht : Json.lookup key items = some (jsonTexts texts)) :
    strItems isPrintable (Json.joinMembers items) key = .ok (texts.map Text.joined) := by
  have hitem : Json.item (Json.joinMembers items) key
      = .ok (.arr (texts.map fun t => .str t.joined)) := by
    rw [Json.item, Json.lookup_joinMembers h ht, jsonTexts, Json.joinTexts, Json.joinItems_eq,
      List.map_map]
    rfl
  rw [strItems, hitem, Py.ok_bind]
  show Except.ok _ = _
  rw [List.map_map]
  rfl

/-- A text that may be missing and is not empty. -/
theorem strItem?_joinMembers (h : (items.map Prod.fst).Nodup) {t : Option Text}
    (ht : Json.lookup key items = some (jsonText? t)) (hne : ∀ s ∈ t, s ≠ []) :
    strItem? isPrintable (Json.joinMembers items) key = t.map Text.joined := by
  rw [strItem?, Json.lookup_joinMembers h ht]
  cases t with
  | none => rfl
  | some s =>
    rcases hjoined : s.joined with _ | ⟨c, rest⟩
    · exact absurd (Text.joined_eq_nil.mp hjoined) (hne s rfl)
    · rw [Option.map_some, hjoined, jsonText?, Json.joinTexts, hjoined]
      rfl

theorem parsedItem?_joinMembers {α : Type} {parse : Text → Py α} {text : α → Text} {x : Option α}
    (h : (items.map Prod.fst).Nodup) (hx : Json.lookup key items = some (jsonText? (x.map text)))
    (hparse : ∀ a, parse (text a) = .ok a ∧ (text a).IsJsonSafe ∧ text a ≠ []) :
    parsedItem? isPrintable parse (Json.joinMembers items) key = .ok x := by
  have hne : ∀ s ∈ x.map text, s ≠ [] := by
    intro s hs
    obtain ⟨a, -, rfl⟩ := Option.map_eq_some_iff.mp hs
    exact (hparse a).2.2
  rw [parsedItem?, strItem?_joinMembers key h hx hne]
  cases x with
  | none => rfl
  | some a =>
    show (parse (text a).joined).map some = _
    rw [Text.joined_eq_self (hparse a).2.1, (hparse a).1]
    rfl

theorem strItemOr_joinMembers (h : (items.map Prod.fst).Nodup) {t : Text} (default : Text)
    (ht : Json.lookup key items = some (.str t)) :
    strItemOr isPrintable (Json.joinMembers items) key default = t.joined := by
  rw [strItemOr, Json.lookup_joinMembers h ht]
  rfl

end

/-! ### Scopes and approvals -/

theorem isAscii_of_mem_sortedActions {actions : Finset ApprovalAction} {t : Text}
    (h : t ∈ sortedActions actions) : t.IsAscii := by
  obtain ⟨action, -, rfl⟩ := List.mem_map.mp h
  cases action <;> decide

theorem exists_actions (actions : Finset ApprovalAction) :
    ∃ read, (sortedActions actions).mapM ApprovalAction.ofValue = .ok read
      ∧ read.toFinset = actions := by
  refine ⟨[ApprovalAction.CLOSE, .OPEN, .REDUCE].filter (fun action => action ∈ actions), ?_, ?_⟩
  · rw [sortedActions, List.mapM_map]
    have hmap := Py.mapM_eq_ok (f := fun action : ApprovalAction => ApprovalAction.ofValue action.value)
      (g := id) (l := [ApprovalAction.CLOSE, .OPEN, .REDUCE].filter (fun action => action ∈ actions))
      (fun action _ => action.ofValue_value)
    rw [List.map_id] at hmap
    exact hmap
  · ext action
    rw [List.mem_toFinset, List.mem_filter, decide_eq_true_iff]
    constructor
    · exact fun h => h.2
    · intro h
      refine ⟨?_, h⟩
      cases action <;> decide

theorem scopeFromItems_joinMembers (isPrintable : CodePoint → Bool) (s : ApprovalScope) :
    scopeFromItems isPrintable (Json.joinMembers (scopeItems s))
      = Frozen.make (joinedScope s.fields) := by
  have h : ((scopeItems s).map Prod.fst).Nodup := by
    show (["account", "instruments", "strategies", "sessions", "actions", "quantity_ceiling",
      "valid_from", "valid_until"] : List Text).Nodup
    decide +kernel
  obtain ⟨actions, hread, hactions⟩ := exists_actions s.fields.actions
  have hjoined : (sortedActions s.fields.actions).map Text.joined
      = sortedActions s.fields.actions := by
    refine (List.map_congr_left fun t ht => ?_).trans (List.map_id _)
    exact Text.joined_eq_self (isAscii_of_mem_sortedActions ht).isJsonSafe
  rw [scopeFromItems,
    parsedItem_joinMembers "account" h rfl (EntityId.isAscii_str _).isJsonSafe
      (EntityId.parse_str _), Py.ok_bind,
    strItems_joinMembers "instruments" h rfl, Py.ok_bind,
    strItems_joinMembers "strategies" h rfl, Py.ok_bind,
    strItems_joinMembers "sessions" h rfl, Py.ok_bind,
    strItems_joinMembers "actions" h rfl, Py.ok_bind, hjoined, hread, Py.ok_bind,
    parsedItem_joinMembers "quantity_ceiling" h rfl (Decimal.isAscii_str _).isJsonSafe
      (decimalOfStr_str _), Py.ok_bind,
    parsedItem_joinMembers "valid_from" h rfl (RecordedAt.isAscii_text _).isJsonSafe
      (RecordedAt.parse_text _), Py.ok_bind,
    parsedItem_joinMembers "valid_until" h rfl (RecordedAt.isAscii_text _).isJsonSafe
      (RecordedAt.parse_text _), Py.ok_bind, finiteDecimal, Py.ok_bind, hactions]
  rfl

namespace PlanApproval

variable (a : PlanApproval)

/-- The keys of a payload. -/
def payloadKeys : List Text :=
  ["approval_id", "version", "status", "plan_id", "plan_version", "plan_hash", "account_id",
    "scope", "approval_token", "requested_by", "expires_at", "requested_at", "consumer_basis_id",
    "consumed_at", "decided_at", "decided_by", "schema_version", "source_ref"]

theorem keys_approvalItems (schemaVersion : Text) :
    (approvalItems a schemaVersion).map Prod.fst = payloadKeys := rfl

theorem nodup_approvalItems (schemaVersion : Text) :
    ((approvalItems a schemaVersion).map Prod.fst).Nodup := by
  rw [keys_approvalItems]
  decide +kernel

/-- What the checks of an approval say about its texts. -/
theorem checked : a.fields.planHash.IsHexDigest ∧ ∀ actor ∈ a.fields.decidedBy, actor ≠ [] := by
  have hvalid : PlanApprovalFields.postInit a.fields = .ok () := a.valid
  rw [PlanApprovalFields.postInit] at hvalid
  simp only [check_bind_eq_ok] at hvalid
  obtain ⟨-, -, -, hhash, -, -, -, -, -, -, -, hactor, -⟩ := hvalid
  refine ⟨require_eq_ok.mp hhash, ?_⟩
  rintro actor hdecided rfl
  rw [Option.mem_def.mp hdecided, whenSome_eq_ok] at hactor
  have hcolon := (of_require (hactor [] rfl)).1
  cases hcolon.2

/-- **What is read back of an approval** is the approval with the pairs of its texts joined, when
it passes the checks. -/
theorem approvalFromPayload_joinMembers (isPrintable : CodePoint → Bool) (h : a.FitsStr) :
    approvalFromPayload isPrintable
      (Json.joinMembers (approvalItems a a.fields.schemaVersion.text)) = a.readBack := by
  have hn := a.nodup_approvalItems a.fields.schemaVersion.text
  have hscope : Json.lookup "scope"
        (Json.joinMembers (approvalItems a a.fields.schemaVersion.text))
      = some (.obj (Json.joinMembers (scopeItems a.fields.scope))) := by
    rw [Json.lookup_joinMembers hn (v := .obj (scopeItems a.fields.scope)) rfl, Json.joinTexts]
  have hstatus : a.fields.status.value.IsAscii := by
    cases a.fields.status <;> decide
  have hhash := Text.joined_eq_self a.checked.1.isAscii.isJsonSafe
  have htime : ∀ t : RecordedAt,
      RecordedAt.parse t.text = .ok t ∧ t.text.IsJsonSafe ∧ t.text ≠ [] :=
    fun t => ⟨t.parse_text, t.isAscii_text.isJsonSafe, by simp [RecordedAt.text]⟩
  have hid : ∀ id : EntityId, EntityId.parse id.str = .ok id ∧ id.str.IsJsonSafe ∧ id.str ≠ [] :=
    fun id => ⟨id.parse_str, id.isAscii_str.isJsonSafe, by simp [EntityId.str]⟩
  rw [approvalFromPayload, hscope, readBack]
  dsimp only
  rw [approvalFromItems,
    parsedItem_joinMembers "approval_id" hn rfl (EntityId.isAscii_str _).isJsonSafe
      (EntityId.parse_str _), Py.ok_bind,
    intItem_joinMembers "version" hn rfl h.version, Py.ok_bind,
    parsedItem_joinMembers "status" hn rfl hstatus.isJsonSafe
      (PlanApprovalStatus.ofValue_value _), Py.ok_bind,
    parsedItem_joinMembers "plan_id" hn rfl (EntityId.isAscii_str _).isJsonSafe
      (EntityId.parse_str _), Py.ok_bind,
    intItem_joinMembers "plan_version" hn rfl h.planVersion, Py.ok_bind,
    strItem_joinMembers "plan_hash" hn rfl, Py.ok_bind, hhash,
    parsedItem_joinMembers "account_id" hn rfl (EntityId.isAscii_str _).isJsonSafe
      (EntityId.parse_str _), Py.ok_bind, scopeFromItems_joinMembers]
  rcases Frozen.make (joinedScope a.fields.scope.fields) with e | scope
  · rfl
  rw [Py.ok_bind, Py.ok_bind,
    parsedItem_joinMembers "approval_token" hn rfl (EntityId.isAscii_str _).isJsonSafe
      (EntityId.parse_str _), Py.ok_bind,
    strItem_joinMembers "requested_by" hn rfl, Py.ok_bind,
    parsedItem_joinMembers "expires_at" hn rfl (RecordedAt.isAscii_text _).isJsonSafe
      (RecordedAt.parse_text _), Py.ok_bind,
    parsedItem_joinMembers "requested_at" hn rfl (RecordedAt.isAscii_text _).isJsonSafe
      (RecordedAt.parse_text _), Py.ok_bind,
    parsedItem?_joinMembers "consumer_basis_id" hn rfl hid, Py.ok_bind,
    parsedItem?_joinMembers "consumed_at" hn rfl htime, Py.ok_bind,
    parsedItem?_joinMembers "decided_at" hn rfl htime, Py.ok_bind,
    strItem?_joinMembers "decided_by" hn rfl a.checked.2,
    strItemOr_joinMembers "schema_version" hn "1.0" rfl,
    Text.joined_eq_self (SchemaVersion.isAscii_text _).isJsonSafe,
    SchemaVersion.parse_text h.schemaVersion, Py.ok_bind,
    strItemOr_joinMembers "source_ref" hn "source:v2" rfl]
  rfl

end PlanApproval

/-! ### Actors -/

/-- A text is what stands before its first colon, and after it. -/
theorem eq_append_splitColon {value : Text} (h : Text.ofChar ':' ∈ value) :
    value = (splitColon value).1 ++ Text.ofChar ':' :: (splitColon value).2 := by
  induction value with
  | nil => cases h
  | cons c value ih =>
    by_cases hc : c = Text.ofChar ':'
    · subst hc
      simp [splitColon]
    · have htail : Text.ofChar ':' ∈ value := (List.mem_cons.mp h).resolve_left (Ne.symm hc)
      have hsplit : splitColon (c :: value) = (c :: (splitColon value).1, (splitColon value).2) := by
        simp [splitColon, hc]
      rw [hsplit, List.cons_append, ← ih htail]

theorem splitColon_append {kind : Text} (h : Text.ofChar ':' ∉ kind) (subject : Text) :
    splitColon (kind ++ Text.ofChar ':' :: subject) = (kind, subject) := by
  induction kind with
  | nil => simp [splitColon]
  | cons c kind ih =>
    rw [List.mem_cons, not_or] at h
    have hc : c ≠ Text.ofChar ':' := Ne.symm h.1
    have hrest := ih h.2
    simp only [splitColon, Prod.mk.injEq] at hrest ⊢
    rw [List.cons_append, List.takeWhile_cons_of_pos (by simp [hc]),
      List.dropWhile_cons_of_pos (by simp [hc])]
    exact ⟨congrArg (List.cons c) hrest.1, hrest.2⟩

theorem isScopeText_of_forall {t : Text} (hne : t ≠ [])
    (hspace : ∀ c ∈ t, Text.isSpace c = false) : t.IsScopeText := by
  refine ⟨⟨hne, (Decimal.strip_of_forall hspace).symm⟩, ?_⟩
  simpa using hspace

theorem checkActor_eq_ok {actor : Text} : checkActor actor = .ok () ↔
    ∃ kind ∈ [("user" : Text), "service", "system"], ∃ subject : Text, subject.IsScopeText
      ∧ actor = kind ++ Text.ofChar ':' :: subject := by
  constructor
  · intro h
    obtain ⟨⟨-, hcolon⟩, h⟩ := of_require h
    obtain ⟨hkind, hsubject⟩ := require_eq_ok.mp h
    exact ⟨_, hkind, _, hsubject, eq_append_splitColon hcolon⟩
  · rintro ⟨kind, hkind, subject, hsubject, rfl⟩
    have hplain : ∀ kind ∈ [("user" : Text), "service", "system"],
        Text.ofChar ':' ∉ kind ∧ kind.all (fun c => !Text.isSpace c) = true := by decide
    obtain ⟨hnot, hspace⟩ := hplain kind hkind
    have hsplit := splitColon_append hnot subject
    refine require_bind_eq_ok.mpr ⟨⟨?_, by simp⟩, require_eq_ok.mpr ?_⟩
    · have hall : ∀ c ∈ kind ++ Text.ofChar ':' :: subject, Text.isSpace c = false := by
        have hsubject := hsubject.2
        simp only [List.all_eq_true, Bool.not_eq_true'] at hspace hsubject
        simp only [List.mem_append, List.mem_cons]
        rintro c (hc | rfl | hc)
        · exact hspace c hc
        · decide
        · exact hsubject c hc
      exact (Decimal.strip_of_forall hall).symm
    · rw [hsplit]
      exact ⟨hkind, hsubject⟩

/-- What an actor is read back as acts as it did. -/
theorem checkActor_joined {actor : Text} (h : checkActor actor = .ok ()) :
    checkActor actor.joined = .ok () ∧ (IsHuman actor → IsHuman actor.joined)
      ∧ actor.joined ≠ [] := by
  obtain ⟨kind, hkind, subject, hsubject, rfl⟩ := checkActor_eq_ok.mp h
  have hascii : ∀ kind ∈ [("user" : Text), "service", "system"],
      Text.IsAscii (kind ++ [Text.ofChar ':']) := by decide
  have hjoined : Text.joined (kind ++ Text.ofChar ':' :: subject)
      = kind ++ Text.ofChar ':' :: subject.joined := by
    have happend := Text.joined_append_of_isAscii (hascii kind hkind) subject
    simpa using happend
  have hspace : ∀ c : CodePoint, 0x10000 ≤ c.val → Text.isSpace c = false := by
    intro c hc
    simp only [Text.isSpace, Bool.or_eq_false_iff, Bool.and_eq_false_iff,
      decide_eq_false_iff_not, beq_eq_false_iff_ne]
    omega
  have hsubject' : subject.joined.IsScopeText := by
    refine isScopeText_of_forall (fun hnil => hsubject.1.1 (Text.joined_eq_nil.mp hnil)) ?_
    refine Text.forall_mem_joined hspace ?_
    simpa using hsubject.2
  rw [hjoined]
  refine ⟨checkActor_eq_ok.mpr ⟨kind, hkind, _, hsubject', rfl⟩, ?_, by simp⟩
  intro hhuman
  have huser : kind = "user" ∨ ¬ IsHuman (kind ++ Text.ofChar ':' :: subject) := by
    simp only [List.mem_cons, List.not_mem_nil, or_false] at hkind
    rcases hkind with rfl | rfl | rfl
    · exact Or.inl rfl
    all_goals
      refine Or.inr ?_
      rintro ⟨t, ht⟩
      have hhead : some (Text.ofChar 'u') = some (Text.ofChar 's') := congrArg List.head? ht
      exact absurd hhead (by decide)
  rcases huser with rfl | hnot
  · exact List.prefix_append (Text.ofString "user:") subject.joined
  · exact absurd hhuman hnot

/-! ### An approval whose terms were read -/

namespace PlanApproval

theorem postInit_joinedDecider {f : PlanApprovalFields} (h : f.postInit = .ok ()) :
    PlanApprovalFields.postInit { f with decidedBy := f.decidedBy.map Text.joined } = .ok () := by
  rcases hdecided : f.decidedBy with _ | actor
  · rw [Option.map_none, ← hdecided]
    exact h
  · rw [PlanApprovalFields.postInit] at h ⊢
    rw [hdecided] at h
    simp only [check_bind_eq_ok, require_eq_ok, Option.map_some, Option.getD_some] at h ⊢
    obtain ⟨hversion, hsource, hplan, hsha, haccount, hrequested, hfuture, hwindow, hconsumed,
      hunconsumed, hactor, hcheck, hhuman⟩ := h
    obtain ⟨hjoined, hhuman', hne⟩ := checkActor_joined (whenSome_eq_ok.mp hcheck actor rfl)
    exact ⟨hversion, hsource, hplan, hsha, haccount, hrequested, hfuture, hwindow, hconsumed,
      hunconsumed, fun hstatus => ⟨(hactor hstatus).1, hne⟩,
      whenSome_eq_ok.mpr (by rintro _ ⟨⟩; exact hjoined), fun hstatus => hhuman' (hhuman hstatus)⟩

theorem exists_readBack {a b u : PlanApproval} (hread : b.readBack = .ok a)
    (hscope : u.fields.scope = a.fields.scope) (hrequestedBy : u.fields.requestedBy = a.fields.requestedBy)
    (hsourceRef : u.fields.sourceRef = a.fields.sourceRef) :
    ∃ a', u.readBack = .ok a'
      ∧ a'.fields = { u.fields with decidedBy := u.fields.decidedBy.map Text.joined } := by
  obtain ⟨scope, hmake, hread⟩ := Py.of_bind hread
  have hscopeFields := Frozen.make_eq_ok.mp hmake
  have hfields := Frozen.make_eq_ok.mp hread
  have hjoined : joinedScope a.fields.scope.fields = a.fields.scope.fields := by
    rw [hfields]
    simp only [joinedApproval, hscopeFields, joinedScope, List.map_map]
    simp
  have hsame : joinedApproval u.fields u.fields.scope
      = { u.fields with decidedBy := u.fields.decidedBy.map Text.joined } := by
    have hr : u.fields.requestedBy.joined = u.fields.requestedBy := by
      rw [hrequestedBy, hfields]
      exact Text.joined_joined _
    have hs : u.fields.sourceRef.joined = u.fields.sourceRef := by
      rw [hsourceRef, hfields]
      exact Text.joined_joined _
    rw [joinedApproval, hr, hs]
  have hvalid : PlanApprovalFields.postInit (joinedApproval u.fields u.fields.scope) = .ok () :=
    hsame ▸ postInit_joinedDecider u.valid
  have hmakeScope : Frozen.make (joinedScope u.fields.scope.fields) = .ok u.fields.scope := by
    rw [hscope, hjoined]
    exact Frozen.make_eq_ok.mpr rfl
  refine ⟨⟨joinedApproval u.fields u.fields.scope, hvalid⟩, ?_, hsame⟩
  rw [readBack, hmakeScope, Py.ok_bind]
  exact Frozen.make_eq_ok.mpr rfl

end PlanApproval

end FuturesAgentOs
