import FuturesAgentOs.PyModel.Decimal
import FuturesAgentOs.PyModel.Digits
import FuturesAgentOs.PyModel.Exception

namespace FuturesAgentOs

open PyModel

/-!
# Exact values with units

`shared_kernel/values.py`: prices and quantities.  The constructor replaces the amount by the same
number at the declared scale, so the amount of an instance has the scale as its exponent and no
more digits than the default context keeps.
-/

/-- A letter of `_UNIT`, `[A-Za-z]`. -/
def isUnitLetter (c : CodePoint) : Bool :=
  (65 ≤ c.val && c.val ≤ 90) || (97 ≤ c.val && c.val ≤ 122)

/-- A later character of `_UNIT`: a letter, a digit, an underscore, a dot, a slash or a dash. -/
def isUnitChar (c : CodePoint) : Bool :=
  isUnitLetter c || isDigit c || c == Text.ofChar '_' || c == Text.ofChar '.'
    || c == Text.ofChar '/' || c == Text.ofChar '-'

/-- `_CURRENCY.fullmatch(value)` -/
def matchesCurrency (value : Text) : Bool :=
  value.length == 3 && value.all (fun c => 65 ≤ c.val && c.val ≤ 90)

/-- `_UNIT.fullmatch(value)` -/
def matchesUnit : Text → Bool
  | [] => false
  | c :: rest => isUnitLetter c && rest.all isUnitChar

/-- What `_fixed` leaves of an amount. -/
def checkFixed (amount : Decimal) (scale : ℤ) : Py Unit := do
  require (0 ≤ scale ∧ scale ≤ 18) (valueError "scale must be an integer from 0 through 18")
  require (amount.coeff < 10 ^ 28)
    (valueError "value cannot be represented at the declared fixed-point scale")
  require (amount.exp = -scale) (valueError "value exceeds the declared fixed-point scale")

structure PriceFields where
  amount : Decimal
  currency : Text
  unit : Text
  scale : ℤ
  deriving DecidableEq

def PriceFields.postInit (f : PriceFields) : Py Unit := do
  checkFixed f.amount f.scale
  require (matchesCurrency f.currency = true)
    (valueError "currency must be an ISO 4217 uppercase code")
  require (matchesUnit f.unit = true) (valueError "unit must be a stable non-empty token")

instance : Dataclass PriceFields := ⟨PriceFields.postInit⟩

/-- A quoted price. -/
abbrev Price := Frozen PriceFields

structure QuantityFields where
  amount : Decimal
  unit : Text
  scale : ℤ
  deriving DecidableEq

def QuantityFields.postInit (f : QuantityFields) : Py Unit := do
  checkFixed f.amount f.scale
  require (matchesUnit f.unit = true) (valueError "unit must be a stable non-empty token")

instance : Dataclass QuantityFields := ⟨QuantityFields.postInit⟩

/-- A quantity. -/
abbrev Quantity := Frozen QuantityFields

end FuturesAgentOs
