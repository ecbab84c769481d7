import FuturesAgentOs.PyModel.DecimalText
import FuturesAgentOs.PyModel.JsonRoundTrip

namespace PyModel

/-!
# The texts of a JSON value

Whether a Python value survives writing and reading depends on its texts alone, once it can be
written at all: `isSafe_of_texts`.  What is written is one line: `isInline_render`.

The texts of numbers are of this kind: `Decimal.isAscii_of_parseNumber` and
`Decimal.isAscii_of_isSpecial` say that what `Decimal(t)` reads is ASCII.
-/

namespace Json

mutual

/-- The strings and keys of a value. -/
def texts : Json → List Text
  | str t => [t]
  | arr items => itemTexts items
  | obj items => memberTexts items
  | _ => []

/-- The texts of the items of an array. -/
def itemTexts : List Json → List Text
  | [] => []
  | v :: vs => texts v ++ itemTexts vs

/-- The texts of the members of an object, with their keys. -/
def memberTexts : List (Text × Json) → List Text
  | [] => []
  | (k, v) :: rest => k :: (texts v ++ memberTexts rest)

end

mutual

/-- The value is one of Python's without floats: no mapping has a key twice. -/
def isValue : Json → Bool
  | float _ => false
  | arr items => areValues items
  | obj items => decide (items.map Prod.fst).Nodup && membersValues items
  | _ => true

/-- `isValue` of every item. -/
def areValues : List Json → Bool
  | [] => true
  | v :: vs => isValue v && areValues vs

/-- `isValue` of every member. -/
def membersValues : List (Text × Json) → Bool
  | [] => true
  | (_, v) :: rest => isValue v && membersValues rest

end

variable {t : Text}

theorem mem_itemTexts {items : List Json} : t ∈ itemTexts items ↔ ∃ v ∈ items, t ∈ v.texts := by
  induction items with
  | nil => simp [itemTexts]
  | cons v vs ih => simp [itemTexts, ih]

theorem mem_memberTexts {items : List (Text × Json)} :
    t ∈ memberTexts items ↔ ∃ p ∈ items, t = p.1 ∨ t ∈ p.2.texts := by
  induction items with
  | nil => simp [memberTexts]
  | cons p rest ih => simp [memberTexts, ih, or_assoc]

theorem areValues_iff (items : List Json) :
    areValues items = true ↔ ∀ v ∈ items, v.isValue = true := by
  induction items with
  | nil => simp [areValues]
  | cons v vs ih => simp [areValues, ih]

theorem membersValues_iff (items : List (Text × Json)) :
    membersValues items = true ↔ ∀ p ∈ items, p.2.isValue = true := by
  induction items with
  | nil => simp [membersValues]
  | cons p rest ih => simp [membersValues, ih]

/-- **A value that can be written** and whose texts have no surrogate pairs is safe. -/
theorem isSafe_of_texts {v : Json} (hvalue : v.isValue = true) (hwritable : v.isWritable = true)
    (htexts : ∀ t ∈ v.texts, Text.IsJsonSafe t) : v.IsSafe := by
  induction v using Json.induction with
  | null => trivial
  | bool b => trivial
  | int n =>
    have hlength : (Text.ofNat n.natAbs).length ≤ maxStrDigits := of_decide_eq_true hwritable
    exact hlength
  | float t => cases hvalue
  | str t => exact htexts t (List.mem_singleton.mpr rfl)
  | arr items ih =>
    rw [isValue, areValues_iff] at hvalue
    rw [isWritable, areWritable_iff] at hwritable
    rw [IsSafe, areSafe_iff]
    exact fun v hv => ih v hv (hvalue v hv) (hwritable v hv)
      (fun t ht => htexts t (mem_itemTexts.mpr ⟨v, hv, ht⟩))
  | obj items ih =>
    rw [isValue, Bool.and_eq_true, membersValues_iff] at hvalue
    rw [isWritable, membersWritable_iff] at hwritable
    rw [IsSafe, membersSafe_iff]
    refine ⟨of_decide_eq_true hvalue.1, fun p hp => ⟨?_, ?_⟩⟩
    · exact htexts p.1 (mem_memberTexts.mpr ⟨p, hp, Or.inl rfl⟩)
    · exact ih p hp (hvalue.2 p hp) (hwritable p hp)
        (fun t ht => htexts t (mem_memberTexts.mpr ⟨p, hp, Or.inr ht⟩))

end Json

/-! ### The texts of numbers -/

namespace Decimal

variable {t body : Text}

/-- A text that `parseDigits` reads has nothing but digits. -/
theorem all_isDigit_of_parseDigits {n : ℕ} (h : parseDigits t = some n) : t.all isDigit = true := by
  have hfold : ∀ (t : Text) (k : ℕ),
      (t.foldlM (fun n c => (digitValue c).map fun d => 10 * n + d) k).isSome →
        t.all isDigit = true := by
    intro t
    induction t with
    | nil => exact fun _ _ => rfl
    | cons c t ih =>
      intro k hk
      rw [List.foldlM_cons] at hk
      rcases hc : digitValue c with _ | d
      · rw [hc] at hk
        cases hk
      · rw [hc] at hk
        rw [List.all_cons, isDigit, hc]
        exact ih _ hk
  refine hfold t 0 ?_
  rw [parseDigits] at h
  rw [h]
  rfl

theorem isAscii_of_all_isDigit (h : t.all isDigit = true) : t.IsAscii := by
  intro c hc
  have hdigit := isDigit_iff.mp (List.all_eq_true.mp h c hc)
  omega

theorem isAscii_of_parseRun {n : ℕ} (h : parseRun t = some n) : t.IsAscii := by
  unfold parseRun at h
  split at h
  · cases h
  · exact isAscii_of_all_isDigit (all_isDigit_of_parseDigits h)

theorem isAscii_of_parseExponent {n : ℤ} (h : parseExponent t = some n) : t.IsAscii := by
  rcases t with _ | ⟨letter, rest⟩
  · exact fun c hc => by cases hc
  rw [parseExponent.eq_def] at h
  simp only at h
  split_ifs at h with hletter
  rw [Text.isAscii_cons]
  refine ⟨by rcases hletter with rfl | rfl <;> decide, ?_⟩
  rcases rest with _ | ⟨sign, digits⟩
  · cases h
  simp only at h
  split_ifs at h with hminus hplus
  · obtain ⟨k, hk, -⟩ := Option.map_eq_some_iff.mp h
    rw [Text.isAscii_cons, hminus]
    exact ⟨by decide, isAscii_of_parseRun hk⟩
  · obtain ⟨k, hk, -⟩ := Option.map_eq_some_iff.mp h
    rw [Text.isAscii_cons, hplus]
    exact ⟨by decide, isAscii_of_parseRun hk⟩
  · obtain ⟨k, hk, -⟩ := Option.map_eq_some_iff.mp h
    exact isAscii_of_parseRun hk

theorem isAscii_of_parseNumber {neg : Bool} {d : Decimal}
    (h : parseNumber neg body = some d) : body.IsAscii := by
  have hdigits : ∀ t : Text, Text.IsAscii (t.takeWhile isDigit) := fun t =>
    isAscii_of_all_isDigit (List.all_takeWhile)
  have hrest : Text.IsAscii (parseFraction (body.dropWhile isDigit)).2 := by
    unfold parseNumber at h
    split at h
    rename_i whole rest hspan
    obtain ⟨-, rfl⟩ := Prod.mk.inj hspan
    split at h
    rename_i fraction rest' hfraction
    split at h
    · cases h
    · obtain ⟨exponent, hexponent, -⟩ := Option.bind_eq_some_iff.mp h
      rw [hfraction]
      exact isAscii_of_parseExponent hexponent
  rw [← List.takeWhile_append_dropWhile (p := isDigit) (l := body), Text.isAscii_append]
  refine ⟨hdigits body, ?_⟩
  -- what follows the digits: a point with its digits, or the exponent
  rcases hbody : body.dropWhile isDigit with _ | ⟨c, t⟩
  · exact fun c hc => by cases hc
  · rw [hbody, parseFraction] at hrest
    split_ifs at hrest with hdot
    · rw [Text.isAscii_cons, hdot, ← List.takeWhile_append_dropWhile (p := isDigit) (l := t),
        Text.isAscii_append]
      exact ⟨by decide, hdigits t, hrest⟩
    · exact hrest

theorem isAscii_of_lower (h : Text.IsAscii (body.map lower)) : body.IsAscii := by
  intro c hc
  have hlower := h _ (List.mem_map_of_mem hc)
  unfold lower at hlower
  split at hlower
  · omega
  · exact hlower

theorem isAscii_of_isSpecial (h : isSpecial body = true) : body.IsAscii := by
  refine isAscii_of_lower ?_
  have hword : ∀ (word : Text) (k : ℕ), word.IsAscii → word.length = k →
      (word.isPrefixOf (body.map lower) && ((body.map lower).drop k).all isDigit) = true →
        Text.IsAscii (body.map lower) := by
    rintro word k hascii rfl hspecial
    rw [Bool.and_eq_true, List.isPrefixOf_iff_prefix] at hspecial
    obtain ⟨⟨rest, hrest⟩, hdigits⟩ := hspecial
    rw [← hrest, List.drop_left] at hdigits
    rw [← hrest, Text.isAscii_append]
    exact ⟨hascii, isAscii_of_all_isDigit hdigits⟩
  simp only [isSpecial, Bool.or_eq_true, beq_iff_eq] at h
  rcases h with ((h | h) | h) | h
  · rw [h]
    decide
  · rw [h]
    decide
  · exact hword "nan" 3 (by decide) rfl h
  · exact hword "snan" 4 (by decide) rfl h

/-- A character that is no space stays in a text that is stripped. -/
theorem mem_strip {c : CodePoint} (hc : c ∈ t) (hspace : Text.isSpace c = false) : c ∈ t.strip := by
  have hdrop : ∀ u : Text, c ∈ u → c ∈ u.dropWhile Text.isSpace := by
    intro u hu
    rw [← List.takeWhile_append_dropWhile (p := Text.isSpace) (l := u), List.mem_append] at hu
    rcases hu with hu | hu
    · rw [List.all_eq_true.mp List.all_takeWhile c hu] at hspace
      cases hspace
    · exact hu
  rw [Text.strip, List.mem_reverse]
  exact hdrop _ (List.mem_reverse.mpr (hdrop t hc))

theorem asciiDigit_of_isHigh {c : CodePoint} (h : Json.isHigh c.val = true) : asciiDigit c = c := by
  have hzeros : ∀ base ∈ digitZeros, base + 10 ≤ 0xd800 ∨ 0xdbff < base := by decide
  simp only [Json.isHigh, Bool.and_eq_true, decide_eq_true_eq] at h
  unfold asciiDigit
  split
  · rename_i base hbase
    have hmem := List.mem_of_find?_eq_some hbase
    have hrange := List.find?_some hbase
    simp only [Bool.and_eq_true, decide_eq_true_eq] at hrange
    have := hzeros base hmem
    omega
  · rfl

end Decimal

end PyModel
