import Mathlib.Data.List.Basic
import Mathlib.Tactic.Common
import Mathlib.Tactic.NormNum

namespace PyModel

/-!
# Text

Python's `str`: a list of code points, lone surrogates included (so `String`, whose
characters exclude them, would be too small).

* `IsScopeText` — the check `v and v == v.strip() and no character is a space`;
* `IsHexDigest` — 64 characters out of `0123456789abcdef`.
-/

/-- A Unicode code point. -/
abbrev CodePoint := Fin 0x110000

/-- A Python `str`. -/
abbrev Text := List CodePoint

instance instNeZeroCodePoint : NeZero 0x110000 := ⟨by decide⟩

instance instLawfulBEqCodePoint : LawfulBEq CodePoint := inferInstance

instance instLawfulBEqText : LawfulBEq Text := inferInstance

namespace Text

/-- The code point of a character. -/
def ofChar (c : Char) : CodePoint :=
  ⟨c.toNat % 0x110000, Nat.mod_lt _ (by decide)⟩

/-- A string literal. -/
def ofString (s : String) : Text := s.toList.map ofChar

instance : Coe String Text := ⟨ofString⟩

theorem ofChar_val (c : Char) : (ofChar c).val = c.toNat := by
  have hvalid : c.val.toNat < 0xd800 ∨ 0xdfff < c.val.toNat ∧ c.val.toNat < 0x110000 := c.valid
  rw [Char.toNat_val] at hvalid
  exact Nat.mod_eq_of_lt (by omega)

theorem ofChar_inj {c d : Char} : ofChar c = ofChar d ↔ c = d := by
  rw [← Fin.val_inj, ofChar_val, ofChar_val, Char.toNat_inj]

@[simp] theorem ofString_inj {s t : String} : ofString s = ofString t ↔ s = t := by
  rw [ofString, ofString, List.map_inj_right fun _ _ => ofChar_inj.mp, String.toList_inj]

/-- `c.isspace()` -/
def isSpace (c : CodePoint) : Bool :=
  let n := c.val
  (9 ≤ n && n ≤ 13) || (28 ≤ n && n ≤ 32) || n == 0x85 || n == 0xa0 || n == 0x1680
    || (0x2000 ≤ n && n ≤ 0x200a) || n == 0x2028 || n == 0x2029 || n == 0x202f || n == 0x205f
    || n == 0x3000

/-- `t.strip()` -/
def strip (t : Text) : Text := ((t.dropWhile isSpace).reverse.dropWhile isSpace).reverse

/-- `_text`: non-empty and unchanged by `strip`. -/
def IsStripped (t : Text) : Prop := t ≠ [] ∧ t = t.strip

instance (t : Text) : Decidable t.IsStripped := inferInstanceAs (Decidable (_ ∧ _))

/-- `_scope_text`: non-empty, stripped and without any space. -/
def IsScopeText (t : Text) : Prop := t.IsStripped ∧ t.all (fun c => !isSpace c) = true

instance (t : Text) : Decidable t.IsScopeText := inferInstanceAs (Decidable (_ ∧ _))

/-- `c in "0123456789abcdef"` -/
def isHexDigit (c : CodePoint) : Bool :=
  (48 ≤ c.val && c.val ≤ 57) || (97 ≤ c.val && c.val ≤ 102)

/-- A lowercase SHA-256 digest. -/
def IsHexDigest (t : Text) : Prop := t.length = 64 ∧ t.all isHexDigit = true

instance (t : Text) : Decidable t.IsHexDigest := inferInstanceAs (Decidable (_ ∧ _))

/-- A lowercase hexadecimal digit. -/
def hexDigit (n : ℕ) : CodePoint :=
  if h : n < 10 then ⟨48 + n, by omega⟩ else ⟨87 + n % 16, by omega⟩

/-- The last `k` hexadecimal digits of a number, `format(n, "0kx")`. -/
def hex : (k n : ℕ) → Text
  | 0, _ => []
  | k + 1, n => hex k (n / 16) ++ [hexDigit (n % 16)]

@[simp] theorem length_hex (k n : ℕ) : (hex k n).length = k := by
  induction k generalizing n with
  | zero => rfl
  | succ k ih => rw [hex, List.length_append, ih]; rfl

variable {n : ℕ} {c : CodePoint} {t : Text}

theorem isHexDigit_hexDigit (h : n < 16) : isHexDigit (hexDigit n) = true := by
  unfold hexDigit isHexDigit
  split
  · rename_i hn
    simp only [Bool.or_eq_true, Bool.and_eq_true, decide_eq_true_eq]
    omega
  · rename_i hn
    simp only [Bool.or_eq_true, Bool.and_eq_true, decide_eq_true_eq]
    omega

theorem all_isHexDigit_hex (k n : ℕ) : (hex k n).all isHexDigit = true := by
  induction k generalizing n with
  | zero => rfl
  | succ k ih =>
    rw [hex, List.all_append, ih, Bool.true_and, List.all_cons,
      isHexDigit_hexDigit (Nat.mod_lt _ (by norm_num))]
    rfl

/-- The value of a hexadecimal digit of either case. -/
def hexValue (c : CodePoint) : Option ℕ :=
  let n := c.val
  if 48 ≤ n ∧ n ≤ 57 then some (n - 48)
  else if 97 ≤ n ∧ n ≤ 102 then some (n - 87)
  else if 65 ≤ n ∧ n ≤ 70 then some (n - 55)
  else none

/-- The number written by hexadecimal digits. -/
def parseHex (t : Text) : Option ℕ :=
  t.foldlM (fun n c => (hexValue c).map (fun d => 16 * n + d)) 0

theorem hexValue_hexDigit (h : n < 16) : hexValue (hexDigit n) = some n := by
  unfold hexValue hexDigit
  by_cases hn : n < 10
  · simp only [dif_pos hn]
    rw [if_pos (by omega)]
    congr 1
    omega
  · simp only [dif_neg hn]
    rw [if_neg (by omega), if_pos (by omega)]
    congr 1
    omega

/-- The digits of a number are read back. -/
theorem parseHex_hex (k : ℕ) (h : n < 16 ^ k) : parseHex (hex k n) = some n := by
  induction k generalizing n with
  | zero =>
    obtain rfl : n = 0 := by simpa using h
    rfl
  | succ k ih =>
    have hdiv : n / 16 < 16 ^ k := by
      rw [pow_succ] at h
      omega
    have hlast := hexValue_hexDigit (Nat.mod_lt n (by norm_num : 16 > 0))
    have hinit := ih hdiv
    rw [parseHex] at hinit ⊢
    rw [hex, List.foldlM_append, hinit]
    simp only [Option.bind_eq_bind, Option.bind_some, List.foldlM_cons, hlast, Option.map_some,
      List.foldlM_nil]
    show some (16 * (n / 16) + n % 16) = some n
    congr 1
    omega

/-- The last place where a character stands splits a text, `t.rpartition(c)`. -/
def rpartition (c : CodePoint) : Text → Option (Text × Text)
  | [] => none
  | a :: rest =>
    match rpartition c rest with
    | some (before, after) => some (a :: before, after)
    | none => if a = c then some ([], rest) else none

theorem rpartition_of_notMem (h : c ∉ t) : rpartition c t = none := by
  induction t with
  | nil => rfl
  | cons a t ih =>
    rw [List.mem_cons, not_or] at h
    simp only [rpartition, ih h.2, if_neg (Ne.symm h.1)]

theorem rpartition_append (before : Text) {after : Text} (h : c ∉ after) :
    rpartition c (before ++ c :: after) = some (before, after) := by
  induction before with
  | nil => simp only [List.nil_append, rpartition, rpartition_of_notMem h, if_true]
  | cons a before ih => simp only [List.cons_append, rpartition, ih]

/-- `s <= t` on strings: by code points, a prefix first. -/
def le : Text → Text → Bool
  | [], _ => true
  | _ :: _, [] => false
  | a :: s, b :: t => a.val < b.val || (a.val == b.val && le s t)

theorem le_iff {s t : Text} : le s t = true ↔ @LE.le (List CodePoint) List.instLE s t := by
  induction s generalizing t with
  | nil => simp [le]
  | cons a s ih =>
    rcases t with _ | ⟨b, t⟩
    · simp [le]
    · simp only [le, Bool.or_eq_true, Bool.and_eq_true, decide_eq_true_eq, beq_iff_eq, ih,
        List.cons_le_cons_iff, Fin.lt_def, Fin.ext_iff]

theorem le_refl (t : Text) : le t t = true := le_iff.mpr (List.le_refl t)

theorem le_total (s t : Text) : le s t = true ∨ le t s = true := by
  rw [le_iff, le_iff]
  exact List.le_total s t

/-- The order of strings is transitive. -/
theorem le_trans {s u : Text} (h : le s t = true) (h' : le t u = true) : le s u = true :=
  le_iff.mpr (List.le_trans (le_iff.mp h) (le_iff.mp h'))

/-- Strings that are at most one another are one string. -/
theorem le_antisymm {s t : Text} (h : le s t = true) (h' : le t s = true) : s = t :=
  List.le_antisymm (le_iff.mp h) (le_iff.mp h')

/-- A byte. -/
abbrev Byte := Fin 256

instance instNeZeroByte : NeZero 256 := ⟨by decide⟩

/-- The UTF-8 bytes of one code point, `none` for a surrogate. -/
def utf8Bytes (c : CodePoint) : Option (List Byte) :=
  let n := c.val
  let tail (k : ℕ) : Byte := ⟨0x80 + n / 64 ^ k % 64, by omega⟩
  if h₁ : n < 0x80 then some [⟨n, by omega⟩]
  else if h₂ : n < 0x800 then some [⟨0xc0 + n / 64, by omega⟩, tail 0]
  else if 0xd800 ≤ n ∧ n ≤ 0xdfff then none
  else if h₃ : n < 0x10000 then some [⟨0xe0 + n / 64 ^ 2, by omega⟩, tail 1, tail 0]
  else some [⟨0xf0 + n / 64 ^ 3 % 8, by omega⟩, tail 2, tail 1, tail 0]

/-- `t.encode("utf-8")`, `none` standing for its `UnicodeEncodeError`. -/
def encodeUtf8 (t : Text) : Option (List Byte) := (t.mapM utf8Bytes).map List.flatten

theorem isSome_utf8Bytes_of_encodeUtf8 (h : t.encodeUtf8.isSome = true) :
    ∀ c ∈ t, (utf8Bytes c).isSome = true := by
  rw [encodeUtf8, Option.isSome_map] at h
  induction t with
  | nil => simp
  | cons a t ih =>
    rw [List.mapM_cons] at h
    rcases ha : utf8Bytes a with _ | bytes
    · rw [ha] at h
      cases h
    rcases ht : t.mapM utf8Bytes with _ | rest
    · rw [ha, ht] at h
      cases h
    rw [List.forall_mem_cons, ha]
    exact ⟨rfl, ih (by rw [ht]; rfl)⟩

/-- `t.isascii()` -/
def IsAscii (t : Text) : Prop := ∀ c ∈ t, c.val < 0x80

theorem isAscii_iff_all : IsAscii t ↔ t.all (fun c => c.val < 0x80) = true := by
  simp [IsAscii]

instance (t : Text) : Decidable t.IsAscii := decidable_of_iff _ isAscii_iff_all.symm

theorem isAscii_append {s : Text} : IsAscii (s ++ t) ↔ IsAscii s ∧ IsAscii t :=
  List.forall_mem_append

theorem isAscii_cons : IsAscii (c :: t) ↔ c.val < 0x80 ∧ IsAscii t :=
  List.forall_mem_cons

theorem isAscii_hex (k n : ℕ) : IsAscii (hex k n) := by
  intro c hc
  have h := List.all_eq_true.mp (all_isHexDigit_hex k n) c hc
  simp only [isHexDigit, Bool.or_eq_true, Bool.and_eq_true, decide_eq_true_eq] at h
  omega

theorem IsHexDigest.isAscii (h : t.IsHexDigest) : t.IsAscii := by
  intro c hc
  have hdigit := List.all_eq_true.mp h.2 c hc
  simp only [isHexDigit, Bool.or_eq_true, Bool.and_eq_true, decide_eq_true_eq] at hdigit
  omega

theorem encodeUtf8_of_isAscii (h : IsAscii t) : ∃ bytes, t.encodeUtf8 = some bytes := by
  have hmap : ∃ bytes, t.mapM utf8Bytes = some bytes := by
    induction t with
    | nil => exact ⟨[], rfl⟩
    | cons c t ih =>
      rw [isAscii_cons] at h
      obtain ⟨bytes, hbytes⟩ := ih h.2
      refine ⟨[⟨c.val, by omega⟩] :: bytes, ?_⟩
      rw [List.mapM_cons, hbytes, utf8Bytes, dif_pos h.1]
      rfl
  obtain ⟨bytes, hbytes⟩ := hmap
  exact ⟨bytes.flatten, by rw [encodeUtf8, hbytes, Option.map_some]⟩

end Text

end PyModel
