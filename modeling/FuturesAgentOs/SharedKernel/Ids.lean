import FuturesAgentOs.PyModel.Exception
import FuturesAgentOs.PyModel.Hashlib

namespace FuturesAgentOs

open PyModel

/-!
# Identifiers

`shared_kernel/ids.py`: an `EntityId` is a `lower_snake_case` namespace and a UUIDv7.
-/

/-- A UUID, by its 128-bit integer (`UUID.int`). -/
structure Uuid where
  /-- The integer. -/
  int : Fin 0x100000000000000000000000000000000
  deriving DecidableEq

namespace Uuid

/-- `UUID.version`: the four version bits, for the RFC 4122 variant only. -/
def version (u : Uuid) : Option ℕ :=
  if u.int.val / 2 ^ 62 % 4 = 2 then some (u.int.val / 2 ^ 76 % 16) else none

/-- `str(uuid)`: 32 hexadecimal digits in groups of 8, 4, 4, 4 and 12. -/
def str (u : Uuid) : Text :=
  let dash := Text.ofChar '-'
  let hex := Text.hex 32 u.int.val
  hex.take 8 ++ dash :: (hex.drop 8).take 4 ++ dash :: (hex.drop 12).take 4
    ++ dash :: (hex.drop 16).take 4 ++ dash :: hex.drop 20

end Uuid

structure EntityIdFields where
  /-- `namespace` -/
  nspace : Text
  value : Uuid
  deriving DecidableEq

namespace EntityIdFields

/-- A first character of `_NAMESPACE`, `[a-z]`. -/
def isLower (c : CodePoint) : Bool := 97 ≤ c.val && c.val ≤ 122

/-- A later character of `_NAMESPACE`, `[a-z0-9_]`. -/
def isSnake (c : CodePoint) : Bool := isLower c || (48 ≤ c.val && c.val ≤ 57) || c.val == 95

/-- `_NAMESPACE.fullmatch(namespace)` -/
def matchesNamespace : Text → Bool
  | [] => false
  | c :: rest => isLower c && rest.all isSnake

def postInit (f : EntityIdFields) : Py Unit := do
  require (matchesNamespace f.nspace) (valueError "identifier namespace must be lower_snake_case")
  require (f.value.version = some 7) (valueError "identifier value must be UUIDv7")

instance : Dataclass EntityIdFields := ⟨postInit⟩

end EntityIdFields

/-- A UUIDv7 identifier with a stable namespace. -/
abbrev EntityId := Frozen EntityIdFields

instance instLawfulBEqEntityId : LawfulBEq EntityId := inferInstance

instance instNeZeroRandomA : NeZero 0x1000 := ⟨by decide⟩

instance instNeZeroRandomB : NeZero 0x4000000000000000 := ⟨by decide⟩

namespace Uuid

/-- The UUIDv7 with timestamp 0 and the given random bits. -/
def epoch (randomA : Fin 0x1000) (randomB : Fin 0x4000000000000000) : Uuid :=
  ⟨⟨7 * 2 ^ 76 + randomA * 2 ^ 64 + 2 * 2 ^ 62 + randomB, by omega⟩⟩

theorem version_epoch (randomA : Fin 0x1000) (randomB : Fin 0x4000000000000000) :
    (epoch randomA randomB).version = some 7 := by
  have hvariant : (epoch randomA randomB).int.val / 2 ^ 62 % 4 = 2 := by
    simp only [epoch]; omega
  have hversion : (epoch randomA randomB).int.val / 2 ^ 76 % 16 = 7 := by
    simp only [epoch]; omega
  rw [version, if_pos hvariant, hversion]

end Uuid

namespace EntityId

/-- The namespace of an identifier. -/
def nspace (e : EntityId) : Text := e.fields.nspace

/-- The UUID of an identifier. -/
def value (e : EntityId) : Uuid := e.fields.value

/-- `str(identifier)` -/
def str (e : EntityId) : Text := e.nspace ++ Text.ofChar '_' :: e.value.str

/-- An identifier whose UUID carries no event-time claim. -/
def epoch (nspace : Text) (randomA : Fin 0x1000) (randomB : Fin 0x4000000000000000)
    (h : EntityIdFields.matchesNamespace nspace = true) : EntityId where
  fields := ⟨nspace, .epoch randomA randomB⟩
  valid := by
    show EntityIdFields.postInit _ = _
    rw [EntityIdFields.postInit, require_bind_eq_ok, require_eq_ok]
    exact ⟨h, Uuid.version_epoch _ _⟩

/-- `EntityId.deterministic`: the entropy of the identifier is the seed's digest, its bytes 0 to
1 (12 bits of them) and 2 to 9 (62 bits). -/
def deterministic [Hashlib] (nspace seed : Text) : Py EntityId := do
  require (seed ≠ []) (valueError "deterministic identifier seed must be non-empty")
  match seed.encodeUtf8 with
  | none => .error ⟨.unicodeEncodeError, "surrogates not allowed"⟩
  | some bytes =>
    let digest := sha256 bytes
    Frozen.make ⟨nspace, .epoch ⟨digest / 2 ^ 240 % 0x1000, Nat.mod_lt _ (by norm_num)⟩
      ⟨digest / 2 ^ 176 % 0x4000000000000000, Nat.mod_lt _ (by norm_num)⟩⟩

/-- A deterministic identifier has the namespace it was asked for. -/
theorem nspace_of_deterministic [Hashlib] {nspace seed : Text} {e : EntityId}
    (h : deterministic nspace seed = .ok e) : e.nspace = nspace := by
  obtain ⟨-, h⟩ := of_require h
  split at h
  · cases h
  · rw [Frozen.make_eq_ok] at h
    rw [EntityId.nspace, h]

theorem exists_deterministic [Hashlib] {nspace seed : Text}
    (hspace : EntityIdFields.matchesNamespace nspace = true) (hseed : seed ≠ [])
    (hascii : seed.IsAscii) : ∃ e, deterministic nspace seed = .ok e := by
  obtain ⟨bytes, hbytes⟩ := Text.encodeUtf8_of_isAscii hascii
  rw [deterministic, require_of_pos hseed, Py.ok_bind, hbytes]
  apply Frozen.exists_make_iff.mpr
  exact (epoch nspace _ _ hspace).valid

end EntityId

/-! ### Texts of identifiers -/

namespace Uuid

/-- The UUID of an integer, by its low 128 bits. -/
def ofNat (n : ℕ) : Uuid :=
  ⟨⟨n % 0x100000000000000000000000000000000, Nat.mod_lt _ (by norm_num)⟩⟩

theorem ofNat_int (u : Uuid) : ofNat u.int.val = u := by
  obtain ⟨⟨n, hn⟩⟩ := u
  show (⟨⟨n % _, _⟩⟩ : Uuid) = ⟨⟨n, hn⟩⟩
  simp only [Nat.mod_eq_of_lt hn]

/-- `UUID(text)`.  Of the spellings it accepts only 32 digits with hyphens among them are read:
`EntityId.parse` refuses the others in any case, for they are not canonical. -/
def ofHex (text : Text) : Option Uuid :=
  let digits := text.filter (fun c => c ≠ Text.ofChar '-')
  if digits.length = 32 then (Text.parseHex digits).map ofNat else none

/-- A hexadecimal digit is no hyphen and no underscore. -/
theorem ne_of_mem_hex {k n : ℕ} {c : CodePoint} (h : c ∈ Text.hex k n) :
    c ≠ Text.ofChar '-' ∧ c ≠ Text.ofChar '_' := by
  have hc := List.all_eq_true.mp (Text.all_isHexDigit_hex k n) c h
  constructor
  · rintro rfl
    revert hc
    decide
  · rintro rfl
    revert hc
    decide

/-- The five groups of a text without hyphens are the text again. -/
theorem filter_grouped {t : Text} (h : ∀ c ∈ t, c ≠ Text.ofChar '-') :
    (t.take 8 ++ Text.ofChar '-' :: (t.drop 8).take 4 ++ Text.ofChar '-' :: (t.drop 12).take 4
      ++ Text.ofChar '-' :: (t.drop 16).take 4 ++ Text.ofChar '-' :: t.drop 20).filter
        (fun c => c ≠ Text.ofChar '-') = t := by
  have hhyphen : ∀ r : Text, (Text.ofChar '-' :: r).filter (fun c => c ≠ Text.ofChar '-')
      = r.filter (fun c => c ≠ Text.ofChar '-') := fun r => by simp
  have hjoin : t.take 8 ++ (t.drop 8).take 4 ++ (t.drop 12).take 4 ++ (t.drop 16).take 4
      ++ t.drop 20 = t := by
    rw [show t.drop 12 = (t.drop 8).drop 4 by rw [List.drop_drop],
      show t.drop 16 = ((t.drop 8).drop 4).drop 4 by rw [List.drop_drop, List.drop_drop],
      show t.drop 20 = (((t.drop 8).drop 4).drop 4).drop 4 by
        rw [List.drop_drop, List.drop_drop, List.drop_drop],
      List.append_assoc, List.append_assoc, List.append_assoc, List.take_append_drop,
      List.take_append_drop, List.take_append_drop, List.take_append_drop]
  simp only [List.filter_append, hhyphen]
  simp only [← List.filter_append]
  rw [hjoin]
  exact List.filter_eq_self.mpr (fun c hc => by simpa using h c hc)

/-- A UUID is read back. -/
theorem ofHex_str (u : Uuid) : ofHex u.str = some u := by
  have hdigits : u.str.filter (fun c => c ≠ Text.ofChar '-') = Text.hex 32 u.int.val :=
    filter_grouped (fun c hc => (ne_of_mem_hex hc).1)
  have hlt : u.int.val < 16 ^ 32 := lt_of_lt_of_le u.int.isLt (by norm_num)
  rw [ofHex, hdigits, if_pos (Text.length_hex 32 _), Text.parseHex_hex 32 hlt, Option.map_some,
    ofNat_int]

theorem underscore_notMem_str (u : Uuid) : Text.ofChar '_' ∉ u.str := by
  have hne : ∀ c ∈ Text.hex 32 u.int.val, c ≠ Text.ofChar '_' := fun c hc => (ne_of_mem_hex hc).2
  have hhyphen : Text.ofChar '-' ≠ Text.ofChar '_' := by decide
  have hall : ∀ c ∈ u.str, c ≠ Text.ofChar '_' := by
    unfold str
    generalize Text.hex 32 u.int.val = t at hne ⊢
    have htake : ∀ i j, ∀ c ∈ (t.drop i).take j, c ≠ Text.ofChar '_' :=
      fun i j c hc => hne c (List.mem_of_mem_drop (List.mem_of_mem_take hc))
    simp only [List.forall_mem_append, List.forall_mem_cons]
    exact ⟨⟨⟨⟨fun c hc => hne c (List.mem_of_mem_take hc), hhyphen, htake 8 4⟩,
      hhyphen, htake 12 4⟩,
      hhyphen, htake 16 4⟩, hhyphen, fun c hc => hne c (List.mem_of_mem_drop hc)⟩
  exact fun hmem => hall _ hmem rfl

end Uuid

namespace EntityId

def parse (text : Text) : Py EntityId :=
  match Text.rpartition (Text.ofChar '_') text with
  | none => .error (valueError "identifier must contain a namespace and UUIDv7")
  | some (nspace, uuidText) =>
    match Uuid.ofHex uuidText with
    | none => .error (valueError "badly formed hexadecimal UUID string")
    | some value => do
      let identifier : EntityId ← Frozen.make ⟨nspace, value⟩
      require (identifier.str = text)
        (valueError "identifier must use canonical lowercase form")
      .ok identifier

/-- **An identifier is read back.** -/
theorem parse_str (e : EntityId) : parse e.str = .ok e := by
  have hsplit : Text.rpartition (Text.ofChar '_') e.str = some (e.nspace, e.value.str) :=
    Text.rpartition_append e.nspace e.value.underscore_notMem_str
  have hmake : Frozen.make ⟨e.nspace, e.value⟩ = .ok e := Frozen.make_eq_ok.mpr rfl
  simp only [parse, hsplit, Uuid.ofHex_str, hmake, Py.ok_bind, require_of_pos]

/-- Different identifiers have different texts. -/
theorem str_inj {e f : EntityId} (h : e.str = f.str) : e = f := by
  have hparse := e.parse_str
  rw [h, f.parse_str] at hparse
  exact (Except.ok.inj hparse).symm

theorem isAscii_str (e : EntityId) : e.str.IsAscii := by
  have hvalue : e.value.str.IsAscii := by
    have hhex := Text.isAscii_hex 32 e.value.int.val
    unfold Uuid.str
    generalize Text.hex 32 e.value.int.val = t at hhex ⊢
    have hpart : ∀ i j, Text.IsAscii ((t.drop i).take j) :=
      fun i j c hc => hhex c (List.mem_of_mem_drop (List.mem_of_mem_take hc))
    have hdash : (Text.ofChar '-').val < 0x80 := by decide
    simp only [Text.isAscii_append, Text.isAscii_cons]
    exact ⟨⟨⟨⟨hpart 0 8, hdash, hpart 8 4⟩, hdash, hpart 12 4⟩, hdash, hpart 16 4⟩, hdash,
      fun c hc => hhex c (List.mem_of_mem_drop hc)⟩
  have hspace : e.nspace.IsAscii := by
    have hvalid : EntityIdFields.matchesNamespace e.nspace = true :=
      (of_require e.valid).1
    have hlower : ∀ c, EntityIdFields.isLower c = true → c.val < 0x80 := by
      intro c hc
      simp only [EntityIdFields.isLower, Bool.and_eq_true, decide_eq_true_eq] at hc
      omega
    rcases hn : e.nspace with _ | ⟨c, rest⟩
    · exact fun c hc => by cases hc
    rw [hn, EntityIdFields.matchesNamespace, Bool.and_eq_true] at hvalid
    rw [Text.isAscii_cons]
    refine ⟨hlower c hvalid.1, ?_⟩
    intro d hd
    have hsnake := List.all_eq_true.mp hvalid.2 d hd
    simp only [EntityIdFields.isSnake, Bool.or_eq_true, Bool.and_eq_true, decide_eq_true_eq,
      beq_iff_eq] at hsnake
    rcases hsnake with (hd | hd) | hd
    · exact hlower d hd
    · omega
    · omega
  rw [str, Text.isAscii_append, Text.isAscii_cons]
  exact ⟨hspace, by decide, hvalue⟩

end EntityId

end FuturesAgentOs
