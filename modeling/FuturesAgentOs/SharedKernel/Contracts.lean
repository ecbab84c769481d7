import FuturesAgentOs.PyModel.Builtins

namespace FuturesAgentOs

open PyModel

/-!
# Frozen values

`repr` and `str` of values whose arrays are tuples.
-/

namespace Json

variable (isPrintable : CodePoint → Bool)

/-- A tuple of one item has a comma. -/
def tupleText : List Text → Text
  | [t] => t ++ Text.ofString ","
  | ts => Json.commaSpaces ts

mutual

/-- `repr(v)` of a frozen value, whose arrays are tuples. -/
def frozenRepr : Json → Text
  | .arr items => Text.ofChar '(' :: (tupleText (frozenReprItems items) ++ [Text.ofChar ')'])
  | .obj items =>
    Json.openBrace :: (Json.commaSpaces (frozenReprMembers items) ++ [Json.closeBrace])
  | v => Json.repr isPrintable v

/-- `frozenRepr` of the items of a tuple. -/
def frozenReprItems : List Json → List Text
  | [] => []
  | v :: vs => frozenRepr v :: frozenReprItems vs

/-- `frozenRepr` of the members of a mapping. -/
def frozenReprMembers : List (Text × Json) → List Text
  | [] => []
  | (k, v) :: rest =>
    (Json.reprText isPrintable k ++ Text.ofString ": " ++ frozenRepr v) :: frozenReprMembers rest

end

/-- `str(v)` of a frozen value. -/
def frozenStr : Json → Text
  | .str t => t
  | v => frozenRepr isPrintable v

end Json

/-!
## Shared contracts

`shared_kernel/contracts.py`: the canonical `major.minor` version that contracts carry, and the
failures that services answer with.
-/

/-- The `ReasonCode`s of the modelled services. -/
inductive ReasonCode where
  | INSTRUMENT_UNKNOWN
  | INSTRUMENT_AMBIGUOUS
  | INSTRUMENT_MALFORMED
  | REFERENCE_MAPPING_EXPIRED
  | CONTINUOUS_SERIES_NOT_TRADABLE
  | INSTRUMENT_NOT_TRADEABLE
  | REFERENCE_NOT_YET_VISIBLE
  | CALENDAR_MISSING
  | CALENDAR_CONFLICT
  | CALENDAR_CLOSED
  deriving DecidableEq

structure Failure where
  reasonCode : ReasonCode
  message : Option Text := none
  deriving DecidableEq

structure SchemaVersionFields where
  major : ℤ
  minor : ℤ
  deriving DecidableEq

namespace SchemaVersionFields

def postInit (f : SchemaVersionFields) : Py Unit :=
  require (0 ≤ f.major ∧ 0 ≤ f.minor)
    (valueError "schema version parts must be non-negative integers")

instance : Dataclass SchemaVersionFields := ⟨postInit⟩

end SchemaVersionFields

/-- A canonical major.minor schema version. -/
abbrev SchemaVersion := Frozen SchemaVersionFields

def v2ContractSchema : SchemaVersion := ⟨⟨1, 0⟩, by decide⟩

/-! ### Texts of versions -/

/-- `0|[1-9][0-9]*` -/
def isCanonicalNatural : Text → Bool
  | [] => false
  | [c] => isDigit c
  | c :: rest => isDigit c && c != Text.ofChar '0' && rest.all isDigit

theorem isCanonicalNatural_ofNat (n : ℕ) : isCanonicalNatural (Text.ofNat n) = true := by
  obtain ⟨c, rest, heq, hc, hzero⟩ := Text.ofNat_eq_cons n
  have hall := Text.all_isDigit_ofNat n
  rw [heq] at hall ⊢
  rcases rest with _ | ⟨d, rest⟩
  · exact hc
  have hne : c ≠ Text.ofChar '0' := by
    rintro rfl
    rw [hzero rfl] at heq
    have hlength := congrArg List.length heq
    simp only [Text.length_ofNat, Nat.log_zero_right, List.length_cons] at hlength
    omega
  rw [List.all_cons, Bool.and_eq_true] at hall
  simp only [isCanonicalNatural, hc, Bool.true_and, Bool.and_eq_true, bne_iff_ne]
  exact ⟨hne, hall.2⟩

namespace SchemaVersion

/-- `str(version)` -/
def str (v : SchemaVersion) : Py Text := do
  let major ← intToStr v.fields.major
  let minor ← intToStr v.fields.minor
  .ok (major ++ Text.ofChar '.' :: minor)

def parse (text : Text) : Py SchemaVersion :=
  let failure := valueError "schema version must use canonical major.minor form"
  match spanDigits text with
  | (_, []) => .error failure
  | (major, dot :: minor) =>
    if dot = Text.ofChar '.' ∧ isCanonicalNatural major = true ∧ isCanonicalNatural minor = true
    then do
      let major ← intOfStr major
      let minor ← intOfStr minor
      Frozen.make ⟨major, minor⟩
    else .error failure

/-- Both parts are within the limit of `str`. -/
def FitsStr (v : SchemaVersion) : Prop :=
  PyModel.FitsStr v.fields.major ∧ PyModel.FitsStr v.fields.minor

instance (v : SchemaVersion) : Decidable v.FitsStr := inferInstanceAs (Decidable (_ ∧ _))

/-- The text of a version within the limit. -/
def text (v : SchemaVersion) : Text :=
  Text.ofInt v.fields.major ++ Text.ofChar '.' :: Text.ofInt v.fields.minor

variable {v : SchemaVersion}

theorem str_of_fits (h : v.FitsStr) : v.str = .ok v.text := by
  rw [str, intToStr_of_fits h.1, Py.ok_bind, intToStr_of_fits h.2, Py.ok_bind, text]

theorem fits_of_str {t : Text} (h : v.str = .ok t) : v.FitsStr := by
  obtain ⟨major, hmajor, h⟩ := Py.of_bind h
  obtain ⟨minor, hminor, -⟩ := Py.of_bind h
  exact ⟨(of_require hmajor).1, (of_require hminor).1⟩

theorem isAscii_text (v : SchemaVersion) : v.text.IsAscii := by
  have hint : ∀ n, (Text.ofInt n).IsAscii := by
    intro n c hc
    unfold Text.ofInt at hc
    have hdigit : c ∈ Text.ofNat n.natAbs → c.val < 0x80 := by
      intro h
      have := isDigit_iff.mp (Text.isDigit_of_mem_ofNat h)
      omega
    split at hc
    · rcases List.mem_cons.mp hc with rfl | hc
      · decide
      · exact hdigit hc
    · exact hdigit hc
  rw [text, Text.isAscii_append, Text.isAscii_cons]
  exact ⟨hint _, by decide, hint _⟩

/-- **A version is read back.** -/
theorem parse_text (h : v.FitsStr) : parse v.text = .ok v := by
  have hvalid := require_eq_ok.mp v.valid
  have hnat : ∀ {n : ℤ}, 0 ≤ n → Text.ofInt n = Text.ofNat n.natAbs := fun hn => by
    rw [Text.ofInt, if_neg (by omega)]
  have hspan : spanDigits v.text
      = (Text.ofInt v.fields.major, Text.ofChar '.' :: Text.ofInt v.fields.minor) := by
    rw [text, hnat hvalid.1]
    apply spanDigits_append _ (Text.all_isDigit_ofNat _)
    intro c t heq
    injection heq with hc
    subst hc
    decide
  have hmajor : isCanonicalNatural (Text.ofInt v.fields.major) = true := by
    rw [hnat hvalid.1]
    exact isCanonicalNatural_ofNat _
  have hminor : isCanonicalNatural (Text.ofInt v.fields.minor) = true := by
    rw [hnat hvalid.2]
    exact isCanonicalNatural_ofNat _
  have hmake : Frozen.make ⟨v.fields.major, v.fields.minor⟩ = .ok v := Frozen.make_eq_ok.mpr rfl
  simp only [parse, hspan, hmajor, hminor, and_self, if_true, intOfStr_ofInt h.1,
    intOfStr_ofInt h.2, Py.ok_bind, hmake]

theorem str_inj {w : SchemaVersion} {t : Text} (hv : v.str = .ok t) (hw : w.str = .ok t) :
    v = w := by
  have hread : ∀ {u : SchemaVersion}, u.str = .ok t → parse t = .ok u := by
    intro u hu
    have hfits : u.FitsStr := fits_of_str hu
    rw [str_of_fits hfits] at hu
    rw [← Except.ok.inj hu]
    exact parse_text hfits
  have heq := hread hv
  rw [hread hw] at heq
  exact (Except.ok.inj heq).symm

end SchemaVersion

end FuturesAgentOs
