import FuturesAgentOs.SharedKernel.Contracts
import FuturesAgentOs.SharedKernel.Ids
import FuturesAgentOs.SharedKernel.Time

namespace FuturesAgentOs

open PyModel

/-!
# Checks shared by the trade contracts

`decision/trade_contracts.py`: the field checks that the records of the decision context have
in common, one definition each, with the field's label as a parameter of the error text.
-/

inductive TradeDirection where
  | LONG
  | SHORT
  deriving DecidableEq

def TradeDirection.value : TradeDirection → Text
  | LONG => "LONG"
  | SHORT => "SHORT"

/-- `TradeDirection(t)` -/
def TradeDirection.ofValue (t : Text) : Py TradeDirection :=
  match [TradeDirection.LONG, .SHORT].find? (fun direction => direction.value = t) with
  | some direction => .ok direction
  | none => .error (valueError "not a valid TradeDirection")

theorem TradeDirection.ofValue_value (d : TradeDirection) : ofValue d.value = .ok d := by
  rcases d <;> rfl

/-- `_text` -/
def checkText (value : Text) (label : Text) : Py Unit :=
  require value.IsScopeText
    (valueError (label ++ Text.ofString " must be canonical non-empty text"))

/-- `v.strip()` and no character is a space. -/
def IsCanonicalText (t : Text) : Prop := t.strip ≠ [] ∧ t.all (fun c => !Text.isSpace c) = true

instance (t : Text) : Decidable (IsCanonicalText t) := inferInstanceAs (Decidable (_ ∧ _))

/-- `_hash` -/
def checkHash (value : Text) (label : Text) : Py Unit :=
  require value.IsHexDigest
    (valueError (label ++ Text.ofString " must be a lowercase SHA-256 digest"))

/-- `_namespace` -/
def checkNamespace (value : EntityId) (expected : Text) (label : Text) : Py Unit :=
  require (value.nspace = expected)
    (valueError (label ++ Text.ofString " must use the " ++ expected
      ++ Text.ofString " identifier namespace"))

/-- The version of a record is positive. -/
def checkVersion (version : ℤ) (label : Text) : Py Unit :=
  require (1 ≤ version) (valueError (label ++ Text.ofString " version must be positive"))

/-- A decimal field is positive. -/
def checkPositive (value : Decimal) (label : Text) : Py Unit :=
  require (Decimal.ofNat 0 < value) (valueError (label ++ Text.ofString " must be positive"))

/-- Python's `==` on prices that may be `None`. -/
def SamePrice : Option Decimal → Option Decimal → Prop
  | none, none => True
  | some a, some b => a.numEq b
  | _, _ => False

instance : (a b : Option Decimal) → Decidable (SamePrice a b)
  | none, none => isTrue trivial
  | some a, some b => inferInstanceAs (Decidable (a.numEq b))
  | none, some _ => isFalse id
  | some _, none => isFalse id

variable {label : Text} {u : Unit}

@[simp] theorem checkText_eq_ok {value : Text} :
    checkText value label = .ok u ↔ value.IsScopeText := require_eq_ok

@[simp] theorem checkHash_eq_ok {value : Text} :
    checkHash value label = .ok u ↔ value.IsHexDigest := require_eq_ok

@[simp] theorem checkNamespace_eq_ok {value : EntityId} {expected : Text} :
    checkNamespace value expected label = .ok u ↔ value.nspace = expected := require_eq_ok

@[simp] theorem checkVersion_eq_ok {version : ℤ} :
    checkVersion version label = .ok u ↔ 1 ≤ version := require_eq_ok

@[simp] theorem checkPositive_eq_ok {value : Decimal} :
    checkPositive value label = .ok u ↔ Decimal.ofNat 0 < value := require_eq_ok

end FuturesAgentOs
