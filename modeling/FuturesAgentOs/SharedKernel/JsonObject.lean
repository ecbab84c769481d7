import FuturesAgentOs.PyModel.Builtins
import FuturesAgentOs.SharedKernel.Observability

namespace FuturesAgentOs

open PyModel

/-!
# Members of a JSON object

What the readers of durable files do with the object that `json.loads` returned.

* `str_of_sortKeys_eq` — objects that are written alike have the same texts.
-/

namespace Json

/-- `set(items) == required` -/
def keysAre (items : List (Text × Json)) (required : List Text) : Prop :=
  (items.map Prod.fst).all (· ∈ required) = true ∧ required.all (· ∈ items.map Prod.fst) = true

instance (items : List (Text × Json)) (required : List Text) : Decidable (keysAre items required) :=
  inferInstanceAs (Decidable (_ ∧ _))

/-- `items[key]` -/
def item (items : List (Text × Json)) (key : Text) : Py Json :=
  match Json.lookup key items with
  | some v => .ok v
  | none => .error ⟨.keyError, key⟩

end Json

/-- A tuple of strings. -/
def jsonTexts (texts : List Text) : Json := .arr (texts.map .str)

/-- `None`, or a string. -/
def jsonText? : Option Text → Json
  | none => .null
  | some text => .str text

/-- `None`, or an integer. -/
def jsonInt? : Option ℤ → Json
  | none => .null
  | some n => .int n

/-- `Decimal(t)` -/
def decimalOfStr (t : Text) : Py Decimal.Parsed :=
  match Decimal.parse t with
  | some d => .ok d
  | none => .error ⟨.invalidOperation, "[<class 'decimal.ConversionSyntax'>]"⟩

/-- The finite decimal that a check asks for. -/
def finiteDecimal (d : Decimal.Parsed) (e : PyException) : Py Decimal :=
  match d with
  | .finite d => .ok d
  | .special => .error e

/-- The text of a JSON string. -/
def textOf (e : PyException) : Json → Py Text
  | .str t => .ok t
  | _ => .error e

/-- The items of a JSON array. -/
def arrayItems (e : PyException) : Json → Py (List Json)
  | .arr items => .ok items
  | _ => .error e

/-- The members of a JSON object. -/
def objectItems (e : PyException) : Json → Py (List (Text × Json))
  | .obj items => .ok items
  | _ => .error e

section

variable (isPrintable : CodePoint → Bool)

/-- `str(items[key])` -/
def strItem (items : List (Text × Json)) (key : Text) : Py Text := do
  let v ← Json.item items key
  .ok (v.toStr isPrintable)

end

/-! ### Members of a sorted object -/

namespace Json

variable {items : List (Text × Json)}

/-- The members of an object as they are read back. -/
def sorted (items : List (Text × Json)) : List (Text × Json) :=
  (Json.sortMembers items).insertionSort Json.keyLE

theorem sortKeys_obj (items : List (Text × Json)) :
    (Json.obj items).sortKeys = .obj (sorted items) := by
  rw [Json.sortKeys, sorted]

theorem keys_sorted_perm (items : List (Text × Json)) :
    List.Perm ((sorted items).map Prod.fst) (items.map Prod.fst) := by
  have hkeys : (Json.sortMembers items).map Prod.fst = items.map Prod.fst := by
    rw [Json.sortMembers_eq, List.map_map]
    rfl
  rw [← hkeys]
  exact Json.keys_insertionSort_perm _

theorem keysAre_sorted {required : List Text} (h : keysAre items required) :
    keysAre (sorted items) required := by
  have hperm := keys_sorted_perm items
  refine ⟨?_, ?_⟩
  · rw [List.all_eq_true]
    exact fun k hk => List.all_eq_true.mp h.1 k (hperm.mem_iff.mp hk)
  · rw [List.all_eq_true]
    intro k hk
    rw [decide_eq_true_iff, hperm.mem_iff]
    exact of_decide_eq_true (List.all_eq_true.mp h.2 k hk)

/-- A member of the object that was written. -/
theorem item_sorted (h : (items.map Prod.fst).Nodup) {key : Text} {v : Json}
    (hv : Json.lookup key items = some v) : item (sorted items) key = .ok v.sortKeys := by
  rw [item, sorted, Json.lookup_sortKeys h, hv, Option.map_some]

/-- An object with the keys of a table survives writing and reading when its values do. -/
theorem isSafe_obj {keys : List Text} (hkeys : items.map Prod.fst = keys) (hnodup : keys.Nodup)
    (hsafe : ∀ k ∈ keys, Text.IsJsonSafe k) (hvalues : ∀ p ∈ items, p.2.IsSafe) :
    (Json.obj items).IsSafe := by
  refine ⟨hkeys ▸ hnodup, (Json.membersSafe_iff _).mpr ?_⟩
  intro p hp
  exact ⟨hsafe p.1 (hkeys ▸ List.mem_map_of_mem hp), hvalues p hp⟩

/-- An object with exactly the keys of a table. -/
theorem keysAre_of_eq {required : List Text} (h : items.map Prod.fst = required) :
    keysAre items required := by
  rw [keysAre, h, List.all_eq_true]
  exact ⟨fun k hk => decide_eq_true hk, fun k hk => decide_eq_true hk⟩

/-- An array survives writing and reading when its items do. -/
theorem isSafe_arr {α : Type} {l : List α} {f : α → Json} (h : ∀ a ∈ l, (f a).IsSafe) :
    (Json.arr (l.map f)).IsSafe := by
  rw [Json.IsSafe, Json.areSafe_iff, List.forall_mem_map]
  exact h

/-- The items of an array that was written are read back one by one. -/
theorem mapM_sortKeys {α : Type} {read : Json → Py α} {write : α → Json} {l : List α}
    (h : ∀ a ∈ l, read (write a).sortKeys = .ok a) :
    ((l.map write).map Json.sortKeys).mapM read = .ok l := by
  rw [List.map_map, List.mapM_map]
  have hmap := Py.mapM_eq_ok (f := fun a => read (write a).sortKeys) (g := id) h
  rw [List.map_id] at hmap
  exact hmap

/-- Objects that are written alike have the same texts. -/
theorem str_of_sortKeys_eq {items' : List (Text × Json)} (hnodup : (items.map Prod.fst).Nodup)
    (hnodup' : (items'.map Prod.fst).Nodup)
    (heq : (Json.obj items).sortKeys = (Json.obj items').sortKeys) {key t t' : Text}
    (ht : Json.lookup key items = some (.str t)) (ht' : Json.lookup key items' = some (.str t')) :
    t = t' := by
  rw [sortKeys_obj, sortKeys_obj] at heq
  injection heq with heq
  have hitem := item_sorted hnodup ht
  rw [heq, item_sorted hnodup' ht', Json.sortKeys, Json.sortKeys] at hitem
  injection hitem with hitem
  injection hitem with hitem
  exact hitem.symm

end Json

section

variable (isPrintable : CodePoint → Bool)

/-- A text of the object that was written. -/
theorem strItem_sorted {items : List (Text × Json)} (h : (items.map Prod.fst).Nodup) {key t : Text}
    (ht : Json.lookup key items = some (.str t)) :
    strItem isPrintable (Json.sorted items) key = .ok t := by
  rw [strItem, Json.item_sorted h ht]
  rfl

theorem decimalOfStr_str (d : Decimal) : decimalOfStr d.str = .ok (.finite d) := by
  rw [decimalOfStr, Decimal.parse_str]

end

/-!
## Envelopes

The durable state of several components is one JSON object with a schema, a payload and the
digest of the payload.  What is written into such a file is found again under its keys
(`Envelope.exists_written`).
-/

namespace Envelope

/-- The fields of an envelope. -/
def keys : List Text := ["schema", "payload", "digest"]

/-- The members of an envelope. -/
def items (schema : Text) (payload : Json) (digest : Text) : List (Text × Json) :=
  [("schema", .str schema), ("payload", payload), ("digest", .str digest)]

variable {schema digest : Text} {payload : Json}

theorem keys_items : (items schema payload digest).map Prod.fst = keys := rfl

theorem nodup_keys_items : ((items schema payload digest).map Prod.fst).Nodup := by
  rw [keys_items]
  simp [keys]

theorem keysAre_items : Json.keysAre (items schema payload digest) keys := by
  exact Json.keysAre_of_eq keys_items

theorem isSafe_items (hschema : schema.IsJsonSafe) (hpayload : payload.IsSafe)
    (hdigest : digest.IsHexDigest) : (Json.obj (items schema payload digest)).IsSafe := by
  apply Json.isSafe_obj keys_items (by simp [keys]) (by simp [keys])
  intro m hm
  simp only [items, List.mem_cons, List.not_mem_nil, or_false] at hm
  rcases hm with rfl | rfl | rfl
  · exact hschema
  · exact hpayload
  · exact hdigest.isAscii.isJsonSafe

/-- What a reader finds in the text of an envelope. -/
structure IsRead (schema : Text) (payload : Json) (digest : Text)
    (members : List (Text × Json)) : Prop where
  keysAre : Json.keysAre members keys
  schema : Json.item members "schema" = .ok (.str schema)
  payload : Json.item members "payload" = .ok payload.sortKeys
  digest : Json.item members "digest" = .ok (.str digest)

variable [Hashlib]

theorem exists_written (hschema : schema.IsJsonSafe) (hpayload : payload.IsSafe) :
    ∃ digest text members, canonicalSha256 payload = .ok digest
      ∧ canonicalSha256 payload.sortKeys = .ok digest
      ∧ (Json.obj (items schema payload digest)).dumps = some text
      ∧ Json.loads text = some (.obj members) ∧ IsRead schema payload digest members := by
  obtain ⟨digest, hdigest, hhex⟩ := exists_canonicalSha256 hpayload
  obtain ⟨hdumps, hloads⟩ := Json.loads_dumps (isSafe_items hschema hpayload hhex)
  rw [Json.sortKeys_obj] at hloads
  have hsorted : canonicalSha256 payload.sortKeys = .ok digest := by
    rw [canonicalSha256_sortKeys, hdigest]
  have hitem : ∀ key v, Json.lookup key (items schema payload digest) = some v →
      Json.item (Json.sorted (items schema payload digest)) key = .ok v.sortKeys :=
    fun key v => Json.item_sorted nodup_keys_items
  exact ⟨digest, _, _, hdigest, hsorted, hdumps, hloads, Json.keysAre_sorted keysAre_items,
    hitem "schema" _ rfl, hitem "payload" _ rfl, hitem "digest" _ rfl⟩

end Envelope

end FuturesAgentOs
