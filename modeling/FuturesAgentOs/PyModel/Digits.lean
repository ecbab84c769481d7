import FuturesAgentOs.PyModel.Text
import Mathlib.Data.Nat.Log

namespace PyModel

/-!
# Decimal digits

The digits that `str(n)` writes, and what a run of ASCII digits stands for.

* `parseDigits` — the number of a run of digits;
* `parseDigits_ofNat`, `parseDigits_padded` — the round trips.
-/

/-- `sys.get_int_max_str_digits()` -/
def maxStrDigits : ℕ := 4300

/-- The last decimal digit of a number. -/
def digit (n : ℕ) : CodePoint := ⟨48 + n % 10, by omega⟩

/-- The value of an ASCII digit. -/
def digitValue (c : CodePoint) : Option ℕ :=
  if 48 ≤ c.val ∧ c.val ≤ 57 then some (c.val - 48) else none

/-- `c in "0123456789"` -/
def isDigit (c : CodePoint) : Bool := (digitValue c).isSome

/-- The number written by a run of ASCII digits. -/
def parseDigits (t : Text) : Option ℕ :=
  t.foldlM (fun n c => (digitValue c).map (fun d => 10 * n + d)) 0

/-- The digits at the front of a text, and what follows them. -/
def spanDigits (t : Text) : Text × Text := (t.takeWhile isDigit, t.dropWhile isDigit)

/-- The zeros of the decimal digits of Unicode; the other nine digits follow each. -/
def digitZeros : List ℕ := [
  0x30, 0x660, 0x6f0, 0x7c0, 0x966, 0x9e6, 0xa66, 0xae6, 0xb66, 0xbe6, 0xc66, 0xce6, 0xd66, 0xde6,
  0xe50, 0xed0, 0xf20, 0x1040, 0x1090, 0x17e0, 0x1810, 0x1946, 0x19d0, 0x1a80, 0x1a90, 0x1b50,
  0x1bb0, 0x1c40, 0x1c50, 0xa620, 0xa8d0, 0xa900, 0xa9d0, 0xa9f0, 0xaa50, 0xabf0, 0xff10, 0x104a0,
  0x10d30, 0x10d40, 0x11066, 0x110f0, 0x11136, 0x111d0, 0x112f0, 0x11450, 0x114d0, 0x11650,
  0x116c0, 0x116d0, 0x116da, 0x11730, 0x118e0, 0x11950, 0x11bf0, 0x11c50, 0x11d50, 0x11da0,
  0x11f50, 0x16130, 0x16a60, 0x16ac0, 0x16b50, 0x16d70, 0x1ccf0, 0x1d7ce, 0x1d7d8, 0x1d7e2,
  0x1d7ec, 0x1d7f6, 0x1e140, 0x1e2f0, 0x1e4f0, 0x1e5f1, 0x1e950, 0x1fbf0]

/-- A decimal digit of any script as an ASCII digit; other characters stay. -/
def asciiDigit (c : CodePoint) : CodePoint :=
  match digitZeros.find? (fun base => base ≤ c.val && c.val < base + 10) with
  | some base => digit (c.val - base)
  | none => c

/-- The digits of a number, most significant first; `fuel` bounds their count. -/
def digitsAux : (fuel n : ℕ) → Text
  | 0, n => [digit n]
  | fuel + 1, n => if n < 10 then [digit n] else digitsAux fuel (n / 10) ++ [digit n]

namespace Text

/-- `str(n)` of a number that is not negative. -/
def ofNat (n : ℕ) : Text := digitsAux n n

/-- `str(n)` -/
def ofInt (n : ℤ) : Text := if n < 0 then ofChar '-' :: ofNat n.natAbs else ofNat n.natAbs

/-- The last `k` digits of a number, `"%0kd" % n` when there are no more. -/
def padded : (k n : ℕ) → Text
  | 0, _ => []
  | k + 1, n => padded k (n / 10) ++ [digit n]

end Text

/-! ### Digits of a number -/

@[simp] theorem digitValue_digit (n : ℕ) : digitValue (digit n) = some (n % 10) := by
  have h : 48 ≤ (digit n).val ∧ (digit n).val ≤ 57 := by
    simp only [digit]; omega
  rw [digitValue, if_pos h]
  simp only [digit]
  congr 1
  omega

@[simp] theorem isDigit_digit (n : ℕ) : isDigit (digit n) = true := by
  rw [isDigit, digitValue_digit]; rfl

theorem isDigit_iff {c : CodePoint} : isDigit c = true ↔ 48 ≤ c.val ∧ c.val ≤ 57 := by
  unfold isDigit digitValue
  split <;> simp_all

theorem asciiDigit_of_isDigit {c : CodePoint} (h : isDigit c = true) : asciiDigit c = c := by
  rw [isDigit_iff] at h
  have hfind : digitZeros.find? (fun base => base ≤ c.val && c.val < base + 10) = some 0x30 := by
    rw [digitZeros, List.find?_cons_of_pos]
    simp only [Bool.and_eq_true, decide_eq_true_eq]
    omega
  rw [asciiDigit, hfind]
  apply Fin.ext
  simp only [digit]
  omega

theorem spanDigits_append {digits : Text} (rest : Text) (hdigits : digits.all isDigit = true)
    (hrest : ∀ c t, rest = c :: t → isDigit c = false) :
    spanDigits (digits ++ rest) = (digits, rest) := by
  have hall : ∀ c ∈ digits, isDigit c = true := List.all_eq_true.mp hdigits
  unfold spanDigits
  rw [List.takeWhile_append_of_pos hall, List.dropWhile_append_of_pos hall]
  rcases hr : rest with _ | ⟨c, t⟩
  · simp
  · have hc := hrest c t hr
    rw [List.takeWhile_cons_of_neg (by simp [hc]), List.dropWhile_cons_of_neg (by simp [hc]),
      List.append_nil]

theorem digitsAux_eq {fuel n : ℕ} (h : n ≤ fuel) : digitsAux fuel n = digitsAux n n := by
  induction fuel using Nat.strong_induction_on generalizing n with
  | _ fuel ih =>
    rcases fuel with _ | fuel
    · obtain rfl : n = 0 := by omega
      rfl
    rcases n with _ | n
    · rfl
    rw [digitsAux, digitsAux]
    by_cases hn : n + 1 < 10
    · rw [if_pos hn, if_pos hn]
    · rw [if_neg hn, if_neg hn, ih fuel (by omega) (n := (n + 1) / 10) (by omega),
        ih n (by omega) (n := (n + 1) / 10) (by omega)]

namespace Text

theorem ofNat_of_lt {n : ℕ} (h : n < 10) : ofNat n = [digit n] := by
  rcases n with _ | n
  · rfl
  · rw [ofNat, digitsAux, if_pos h]

theorem ofNat_of_le {n : ℕ} (h : 10 ≤ n) : ofNat n = ofNat (n / 10) ++ [digit n] := by
  rcases n with _ | n
  · omega
  · rw [ofNat, digitsAux, if_neg (by omega), digitsAux_eq (by omega), ofNat]

theorem digits_induction {P : ℕ → Prop} (small : ∀ n < 10, P n)
    (step : ∀ n, 10 ≤ n → P (n / 10) → P n) (n : ℕ) : P n := by
  induction n using Nat.strong_induction_on with
  | _ n ih =>
    by_cases h : n < 10
    · exact small n h
    · exact step n (by omega) (ih (n / 10) (by omega))

theorem ofNat_ne_nil (n : ℕ) : ofNat n ≠ [] := by
  by_cases h : n < 10
  · rw [ofNat_of_lt h]
    exact List.cons_ne_nil _ _
  · rw [ofNat_of_le (by omega)]
    exact List.append_ne_nil_of_right_ne_nil _ (List.cons_ne_nil _ _)

theorem all_isDigit_ofNat (n : ℕ) : (ofNat n).all isDigit = true := by
  induction n using digits_induction with
  | small n h => simp [ofNat_of_lt h]
  | step n h ih => simp [ofNat_of_le h, ih]

theorem isDigit_of_mem_ofNat {n : ℕ} {c : CodePoint} (h : c ∈ ofNat n) : isDigit c = true :=
  List.all_eq_true.mp (all_isDigit_ofNat n) c h

/-- `str(n)` has as many characters as `n` has digits. -/
theorem length_ofNat (n : ℕ) : (ofNat n).length = Nat.log 10 n + 1 := by
  induction n using digits_induction with
  | small n h => rw [ofNat_of_lt h, Nat.log_of_lt h]; rfl
  | step n h ih =>
    rw [ofNat_of_le h, List.length_append, ih, Nat.log_of_one_lt_of_le (by norm_num) h]
    rfl

/-- Only zero is written with a leading zero. -/
theorem ofNat_eq_cons (n : ℕ) :
    ∃ c rest, ofNat n = c :: rest ∧ isDigit c = true ∧ (c.val = 48 → n = 0) := by
  induction n using digits_induction with
  | small n h =>
    refine ⟨digit n, [], ofNat_of_lt h, isDigit_digit n, ?_⟩
    simp only [digit]
    omega
  | step n h ih =>
    obtain ⟨c, rest, heq, hc, hzero⟩ := ih
    refine ⟨c, rest ++ [digit n], by rw [ofNat_of_le h, heq, List.cons_append], hc, ?_⟩
    intro hval
    have := hzero hval
    omega

@[simp] theorem length_padded (k n : ℕ) : (padded k n).length = k := by
  induction k generalizing n with
  | zero => rfl
  | succ k ih => rw [padded, List.length_append, ih]; rfl

theorem all_isDigit_padded (k n : ℕ) : (padded k n).all isDigit = true := by
  induction k generalizing n with
  | zero => rfl
  | succ k ih => simp [padded, ih]

end Text

theorem parseDigits_concat (t : Text) (c : CodePoint) :
    parseDigits (t ++ [c]) = (parseDigits t).bind (fun n => (digitValue c).map (10 * n + ·)) := by
  simp [parseDigits, List.foldlM_append, List.foldlM_cons]

theorem parseDigits_zeros (k : ℕ) (t : Text) :
    parseDigits (List.replicate k (digit 0) ++ t) = parseDigits t := by
  induction k with
  | zero => rfl
  | succ k ih =>
    rw [List.replicate_succ, List.cons_append]
    exact ih

/-- **The digits of a number stand for it.** -/
@[simp] theorem parseDigits_ofNat (n : ℕ) : parseDigits (Text.ofNat n) = some n := by
  induction n using Text.digits_induction with
  | small n h =>
    rw [Text.ofNat_of_lt h]
    show ((digitValue (digit n)).map (10 * 0 + ·)).bind some = some n
    rw [digitValue_digit, Nat.mod_eq_of_lt h]
    simp
  | step n h ih =>
    rw [Text.ofNat_of_le h, parseDigits_concat, ih, digitValue_digit, Option.bind_some,
      Option.map_some]
    congr 1
    omega

/-- The digits of a fixed number of places stand for the number. -/
theorem parseDigits_padded (k : ℕ) {n : ℕ} (h : n < 10 ^ k) :
    parseDigits (Text.padded k n) = some n := by
  induction k generalizing n with
  | zero =>
    obtain rfl : n = 0 := by simpa using h
    rfl
  | succ k ih =>
    have hdiv : n / 10 < 10 ^ k := by
      rw [pow_succ] at h
      omega
    rw [Text.padded, parseDigits_concat, ih hdiv, digitValue_digit, Option.bind_some,
      Option.map_some]
    congr 1
    omega

end PyModel
