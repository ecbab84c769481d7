import FuturesAgentOs.PyModel.DecimalText
import FuturesAgentOs.PyModel.Exception
import FuturesAgentOs.PyModel.Json

namespace PyModel

/-!
# `int` and `str`

* `intToStr`, `intOfStr` — `str(n)` and `int(t)`, with the limit on the number of digits;
* `Json.toStr` — `str(v)` of a value that `json.loads` returned.  Which characters beyond ASCII
  are printable is a parameter.
-/

/-- An integer that `str` and `int` accept. -/
def FitsStr (n : ℤ) : Prop := (Text.ofNat n.natAbs).length ≤ maxStrDigits

instance (n : ℤ) : Decidable (FitsStr n) := inferInstanceAs (Decidable (_ ≤ _))

@[simp] theorem Json.isWritable_str (t : Text) : (Json.str t).isWritable = true := rfl

/-- `dumps` writes an integer that `str` accepts. -/
@[simp] theorem Json.isWritable_int (n : ℤ) : (Json.int n).isWritable = true ↔ FitsStr n := by
  rw [Json.isWritable, decide_eq_true_iff, FitsStr]

/-- `dumps` writes an object when it writes its members. -/
@[simp] theorem Json.isWritable_obj (items : List (Text × Json)) :
    (Json.obj items).isWritable = Json.membersWritable items := rfl

/-- `str(n)` -/
def intToStr (n : ℤ) : Py Text := do
  require (FitsStr n)
    (valueError "Exceeds the limit (4300 digits) for integer string conversion")
  .ok (Text.ofInt n)

/-- The digits of an integer literal, the underscores between them taken out. -/
def joinDigits : Text → Option Text
  | [] => none
  | [c] => if isDigit c then some [c] else none
  | c :: d :: rest =>
    if isDigit c then
      if d = Text.ofChar '_' then (joinDigits rest).map (c :: ·)
      else (joinDigits (d :: rest)).map (c :: ·)
    else none

/-- `int(t)` -/
def intOfStr (t : Text) : Py ℤ :=
  let (neg, body) := Decimal.parseSign (t.strip.map asciiDigit)
  match joinDigits body with
  | none => .error (valueError "invalid literal for int() with base 10")
  | some digits =>
    if maxStrDigits < digits.length then
      .error (valueError "Exceeds the limit (4300 digits) for integer string conversion")
    else
      match parseDigits digits with
      | none => .error (valueError "invalid literal for int() with base 10")
      | some n => .ok (if neg then -(n : ℤ) else n)

theorem intToStr_of_fits {n : ℤ} (h : FitsStr n) : intToStr n = .ok (Text.ofInt n) := by
  rw [intToStr, require_of_pos h, Py.ok_bind]

theorem joinDigits_of_all {t : Text} (hne : t ≠ []) (h : t.all isDigit = true) :
    joinDigits t = some t := by
  induction t with
  | nil => exact absurd rfl hne
  | cons c t ih =>
    rw [List.all_cons, Bool.and_eq_true] at h
    rcases t with _ | ⟨d, t⟩
    · rw [joinDigits, if_pos h.1]
    have hd : d ≠ Text.ofChar '_' := by
      rintro rfl
      have := h.2
      rw [List.all_cons, Bool.and_eq_true] at this
      exact absurd this.1 (by decide)
    rw [joinDigits, if_pos h.1, if_neg hd, ih (List.cons_ne_nil _ _) h.2, Option.map_some]

/-- **An integer is read back.** -/
theorem intOfStr_ofInt {n : ℤ} (h : FitsStr n) : intOfStr (Text.ofInt n) = .ok n := by
  have hplain : ∀ c ∈ Text.ofInt n, Decimal.IsPlain c := by
    have hdigits : ∀ c ∈ Text.ofNat n.natAbs, Decimal.IsPlain c :=
      fun c hc => Or.inl (Text.isDigit_of_mem_ofNat hc)
    unfold Text.ofInt
    split
    · rw [List.forall_mem_cons]
      exact ⟨Or.inr (by decide), hdigits⟩
    · exact hdigits
  have hstrip : (Text.ofInt n).strip.map asciiDigit = Text.ofInt n := by
    rw [Decimal.strip_of_forall (fun c hc => (hplain c hc).facts.1)]
    exact (List.map_congr_left (fun c hc => (hplain c hc).facts.2.2)).trans (List.map_id _)
  obtain ⟨c, rest, heq, hc, -⟩ := Text.ofNat_eq_cons n.natAbs
  have hsign : Decimal.parseSign (Text.ofInt n) = (decide (n < 0), Text.ofNat n.natAbs) := by
    unfold Text.ofInt
    by_cases hneg : n < 0
    · rw [if_pos hneg, decide_eq_true hneg]
      simp only [Decimal.parseSign, if_true]
    · have hminus : c ≠ Text.ofChar '-' := by
        rintro rfl
        exact absurd hc (by decide)
      have hplus : c ≠ Text.ofChar '+' := by
        rintro rfl
        exact absurd hc (by decide)
      rw [if_neg hneg, decide_eq_false hneg]
      simp only [heq, Decimal.parseSign, if_neg hminus, if_neg hplus]
  have hjoin := joinDigits_of_all (Text.ofNat_ne_nil n.natAbs) (Text.all_isDigit_ofNat n.natAbs)
  have hfits : ¬ maxStrDigits < (Text.ofNat n.natAbs).length := Nat.not_lt.mpr h
  simp only [intOfStr, hstrip, hsign, hjoin, if_neg hfits, parseDigits_ofNat, decide_eq_true_eq]
  congr 1
  split <;> omega

namespace Json

variable (isPrintable : CodePoint → Bool)

/-- A character of `repr(t)`. -/
def reprChar (quote c : CodePoint) : Text :=
  if c = quote ∨ c = backslash then [backslash, c]
  else if c.val = 9 then [backslash, Text.ofChar 't']
  else if c.val = 10 then [backslash, Text.ofChar 'n']
  else if c.val = 13 then [backslash, Text.ofChar 'r']
  else if (32 ≤ c.val ∧ c.val ≤ 126) ∨ (128 ≤ c.val ∧ isPrintable c = true) then [c]
  else if c.val < 0x100 then backslash :: Text.ofChar 'x' :: Text.hex 2 c.val
  else if c.val < 0x10000 then backslash :: Text.ofChar 'u' :: Text.hex 4 c.val
  else backslash :: Text.ofChar 'U' :: Text.hex 8 c.val

/-- The single quote. -/
def singleQuote : CodePoint := 39

/-- `repr(t)`: in double quotes when it has single ones but no double ones. -/
def reprText (t : Text) : Text :=
  let quote := if singleQuote ∈ t ∧ quoteChar ∉ t then quoteChar else singleQuote
  quote :: (t.flatMap (reprChar isPrintable quote) ++ [quote])

/-- Texts with commas and spaces between them. -/
def commaSpaces : List Text → Text
  | [] => []
  | [t] => t
  | t :: ts => t ++ (", " : Text) ++ commaSpaces ts

mutual

/-- `repr(v)` -/
def repr : Json → Text
  | null => "None"
  | bool true => "True"
  | bool false => "False"
  | int n => Text.ofInt n
  | float literal => literal
  | str t => reprText isPrintable t
  | arr items => Text.ofChar '[' :: (commaSpaces (reprItems items) ++ [Text.ofChar ']'])
  | obj items => openBrace :: (commaSpaces (reprMembers items) ++ [closeBrace])

/-- `repr` of the items of a list. -/
def reprItems : List Json → List Text
  | [] => []
  | v :: vs => repr v :: reprItems vs

/-- `repr` of the items of a dict. -/
def reprMembers : List (Text × Json) → List Text
  | [] => []
  | (k, v) :: rest => (reprText isPrintable k ++ (": " : Text) ++ repr v) :: reprMembers rest

end

/-- `str(v)`.  The literal stands for the text of a float, which no caller asks for. -/
def toStr : Json → Text
  | str t => t
  | v => v.repr isPrintable

end Json

end PyModel
