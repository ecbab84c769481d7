import FuturesAgentOs.PyModel.Decimal
import FuturesAgentOs.PyModel.Digits

namespace PyModel

/-!
# The text of a decimal

`str(d)`, the scientific notation of the decimal specification, `repr(d)`, and `Decimal(t)`.

* `parse` — reading; coefficients and exponents have no bounds here;
* `parse_str` — reading back what `str` wrote.
-/

namespace Decimal

/-- `"%+d" % n` -/
def signedText (n : ℤ) : Text :=
  Text.ofChar (if n < 0 then '-' else '+') :: Text.ofNat n.natAbs

/-- Where the point stands in the digits of `str(d)`, from the left. -/
def dotPlace (d : Decimal) : ℤ :=
  let leftDigits := d.exp + (Text.ofNat d.coeff).length
  if d.exp ≤ 0 ∧ -6 < leftDigits then leftDigits else 1

/-- The digits of `str(d)` with the point among them. -/
def pointed (digits : Text) (place : ℤ) : Text :=
  let zero := Text.ofChar '0'
  let dot := Text.ofChar '.'
  if place ≤ 0 then zero :: dot :: (List.replicate (-place).toNat zero ++ digits)
  else if digits.length ≤ place then digits ++ List.replicate (place - digits.length).toNat zero
  else digits.take place.toNat ++ dot :: digits.drop place.toNat

/-- The exponent of `str(d)`, empty when it is zero. -/
def exponentText (n : ℤ) : Text := if n = 0 then [] else Text.ofChar 'E' :: signedText n

/-- `str(d)` -/
def str (d : Decimal) : Text :=
  let digits := Text.ofNat d.coeff
  (if d.neg then [Text.ofChar '-'] else []) ++ pointed digits d.dotPlace
    ++ exponentText (d.exp + digits.length - d.dotPlace)

/-- `repr(d)` -/
def repr (d : Decimal) : Text := ("Decimal('" : Text) ++ d.str ++ ("')" : Text)

/-! ### Reading -/

/-- What `Decimal(t)` makes of a text: a number, or an infinity or NaN. -/
inductive Parsed where
  | finite (d : Decimal)
  | special
  deriving DecidableEq

/-- ASCII lower case. -/
def lower (c : CodePoint) : CodePoint :=
  if h : 65 ≤ c.val ∧ c.val ≤ 90 then ⟨c.val + 32, by omega⟩ else c

/-- `Infinity`, `Inf`, `NaN` and `sNaN`, the last two with digits after them. -/
def isSpecial (body : Text) : Bool :=
  let body := body.map lower
  body == ("inf" : Text) || body == ("infinity" : Text)
    || (("nan" : Text).isPrefixOf body && (body.drop 3).all isDigit)
    || (("snan" : Text).isPrefixOf body && (body.drop 4).all isDigit)

/-- A run of digits, at least one. -/
def parseRun (t : Text) : Option ℕ := if t = [] then none else parseDigits t

/-- The exponent part of a number. -/
def parseExponent : Text → Option ℤ
  | [] => some 0
  | letter :: rest =>
    if letter = Text.ofChar 'E' ∨ letter = Text.ofChar 'e' then
      match rest with
      | [] => none
      | sign :: digits =>
        if sign = Text.ofChar '-' then (parseRun digits).map (fun n : ℕ => -(n : ℤ))
        else if sign = Text.ofChar '+' then (parseRun digits).map (fun n : ℕ => (n : ℤ))
        else (parseRun rest).map (fun n : ℕ => (n : ℤ))
    else none

/-- The digits after a point, if there is one. -/
def parseFraction (t : Text) : Text × Text :=
  match t with
  | c :: rest => if c = Text.ofChar '.' then spanDigits rest else ([], t)
  | [] => ([], t)

/-- A number without its sign. -/
def parseNumber (neg : Bool) (body : Text) : Option Decimal :=
  let (whole, rest) := spanDigits body
  let (fraction, rest) := parseFraction rest
  if whole ++ fraction = [] then none
  else do
    let exponent ← parseExponent rest
    let coeff ← parseDigits (whole ++ fraction)
    some ⟨neg, coeff, exponent - fraction.length⟩

/-- The sign of a number, and what follows it. -/
def parseSign (t : Text) : Bool × Text :=
  match t with
  | c :: rest =>
    if c = Text.ofChar '-' then (true, rest)
    else if c = Text.ofChar '+' then (false, rest)
    else (false, t)
  | [] => (false, t)

/-- The text that the grammar of numbers is applied to. -/
def normalized (t : Text) : Text :=
  ((t.strip).filter (fun c => c ≠ Text.ofChar '_')).map asciiDigit

/-- `Decimal(t)`, `none` standing for its `InvalidOperation`. -/
def parse (t : Text) : Option Parsed :=
  let (neg, body) := parseSign (normalized t)
  if isSpecial body then some .special else (parseNumber neg body).map .finite

/-! ### The round trip -/

/-- A character of `str(d)`. -/
def IsPlain (c : CodePoint) : Prop :=
  isDigit c = true ∨ c ∈ [Text.ofChar '.', Text.ofChar '-', Text.ofChar '+', Text.ofChar 'E']

variable {c : CodePoint} {t : Text}

theorem IsPlain.facts (h : IsPlain c) :
    Text.isSpace c = false ∧ c ≠ Text.ofChar '_' ∧ asciiDigit c = c := by
  rcases h with h | h
  · refine ⟨?_, ?_, asciiDigit_of_isDigit h⟩
    · rw [isDigit_iff] at h
      simp only [Text.isSpace, Bool.or_eq_false_iff, Bool.and_eq_false_iff, decide_eq_false_iff_not,
        beq_eq_false_iff_ne]
      omega
    · rintro rfl
      revert h
      decide
  · simp only [List.mem_cons, List.not_mem_nil, or_false] at h
    rcases h with rfl | rfl | rfl | rfl <;> decide +kernel

theorem strip_of_forall (h : ∀ c ∈ t, Text.isSpace c = false) : t.strip = t := by
  have hdrop : ∀ u : Text, (∀ c ∈ u, Text.isSpace c = false) → u.dropWhile Text.isSpace = u := by
    intro u hu
    rcases u with _ | ⟨c, u⟩
    · rfl
    · exact List.dropWhile_cons_of_neg (by simp [hu c (by simp)])
  rw [Text.strip, hdrop t h, hdrop t.reverse (fun c hc => h c (List.mem_reverse.mp hc)),
    List.reverse_reverse]

theorem normalized_of_plain (h : ∀ c ∈ t, IsPlain c) : normalized t = t := by
  rw [normalized, strip_of_forall (fun c hc => (h c hc).facts.1),
    List.filter_eq_self.mpr (fun c hc => by simpa using (h c hc).facts.2.1)]
  exact (List.map_congr_left (fun c hc => (h c hc).facts.2.2)).trans (List.map_id t)

theorem parseRun_ofNat (n : ℕ) : parseRun (Text.ofNat n) = some n := by
  rw [parseRun, if_neg (Text.ofNat_ne_nil n), parseDigits_ofNat]

theorem parseExponent_exponentText (n : ℤ) : parseExponent (exponentText n) = some n := by
  unfold exponentText
  by_cases h0 : n = 0
  · rw [if_pos h0, h0]
    rfl
  · have hplus : Text.ofChar '+' ≠ Text.ofChar '-' := by decide
    rw [if_neg h0, signedText]
    by_cases hneg : n < 0
    · simp only [parseExponent, true_or, if_true, if_pos hneg, parseRun_ofNat, Option.map_some]
      congr 1
      omega
    · simp only [parseExponent, true_or, if_true, if_neg hneg, if_neg hplus, parseRun_ofNat,
        Option.map_some]
      congr 1
      omega

theorem head_exponentText {n : ℤ} (h : exponentText n = c :: t) : c = Text.ofChar 'E' := by
  unfold exponentText at h
  split_ifs at h
  injection h with h
  exact h.symm

theorem parseNumber_whole (neg : Bool) {digits : Text} {coeff : ℕ} (n : ℤ)
    (hall : digits.all isDigit = true) (hne : digits ≠ [])
    (hcoeff : parseDigits digits = some coeff) :
    parseNumber neg (digits ++ exponentText n) = some ⟨neg, coeff, n⟩ := by
  have hspan := spanDigits_append (exponentText n) hall (by
    intro c t h
    rw [head_exponentText h]
    decide)
  have hfraction : parseFraction (exponentText n) = ([], exponentText n) := by
    unfold parseFraction
    rcases h : exponentText n with _ | ⟨c, t⟩
    · rfl
    · have hdot : c ≠ Text.ofChar '.' := by
        rw [head_exponentText h]
        decide
      simp only [if_neg hdot]
  simp only [parseNumber, hspan, hfraction, List.append_nil, if_neg hne,
    parseExponent_exponentText, hcoeff, Option.bind_eq_bind, Option.bind_some, List.length_nil,
    Nat.cast_zero, sub_zero]

theorem parseNumber_point (neg : Bool) (whole fraction : Text) {coeff : ℕ} (n : ℤ)
    (hwhole : whole.all isDigit = true) (hfraction : fraction.all isDigit = true)
    (hne : whole ≠ []) (hcoeff : parseDigits (whole ++ fraction) = some coeff) :
    parseNumber neg (whole ++ Text.ofChar '.' :: (fraction ++ exponentText n))
      = some ⟨neg, coeff, n - fraction.length⟩ := by
  have hspan := spanDigits_append (Text.ofChar '.' :: (fraction ++ exponentText n)) hwhole
    (by
      intro c t h
      injection h with h
      rw [← h]
      decide)
  have hspan' := spanDigits_append (exponentText n) hfraction (by
    intro c t h
    rw [head_exponentText h]
    decide)
  have hne' : whole ++ fraction ≠ [] := List.append_ne_nil_of_left_ne_nil hne fraction
  simp only [parseNumber, hspan, parseFraction, if_true, hspan', if_neg hne',
    parseExponent_exponentText, hcoeff, Option.bind_eq_bind, Option.bind_some]

/-- The digits of `str(d)` with the point among them stand for the coefficient. -/
theorem parseNumber_pointed (d : Decimal) :
    parseNumber d.neg (pointed (Text.ofNat d.coeff) d.dotPlace
      ++ exponentText (d.exp + (Text.ofNat d.coeff).length - d.dotPlace)) = some d := by
  have hall := Text.all_isDigit_ofNat d.coeff
  have hne := Text.ofNat_ne_nil d.coeff
  have hparse := parseDigits_ofNat d.coeff
  have hlen : 1 ≤ (Text.ofNat d.coeff).length := List.length_pos_iff.mpr hne
  -- either the exponent is not positive, or the point stands after the first digit
  have hplace : (d.exp ≤ 0 ∧ d.dotPlace = d.exp + (Text.ofNat d.coeff).length)
    ∨ d.dotPlace = 1 := by
    unfold dotPlace
    simp only
    split_ifs with h
    · exact Or.inl ⟨h.1, rfl⟩
    · exact Or.inr rfl
  generalize Text.ofNat d.coeff = digits at *
  obtain ⟨neg, coeff, exp⟩ := d
  simp only at *
  generalize dotPlace ⟨neg, coeff, exp⟩ = place at *
  have hzero : Text.ofChar '0' = digit 0 := by decide
  unfold pointed
  simp only [hzero]
  split_ifs with hle hge
  · -- zeros between the point and the digits
    have hzeros : (digit 0 :: (List.replicate (-place).toNat (digit 0) ++ digits))
        = List.replicate ((-place).toNat + 1) (digit 0) ++ digits := by
      rw [List.replicate_succ, List.cons_append]
    have hnumber := parseNumber_point neg [digit 0]
      (List.replicate (-place).toNat (digit 0) ++ digits) (exp + digits.length - place) (by decide)
        (by simp [hall]) (by simp) (by
        rw [List.singleton_append, hzeros, parseDigits_zeros, hparse])
    rw [List.cons_append, List.cons_append]
    rw [List.singleton_append] at hnumber
    rw [hnumber, List.length_append, List.length_replicate]
    congr 2
    push_cast
    omega
  · -- the point is at the end, and not written
    have hlast : place = digits.length := by omega
    rw [hlast, sub_self, Int.toNat_zero, List.replicate_zero, List.append_nil,
      add_sub_cancel_right]
    exact parseNumber_whole neg exp hall hne hparse
  · have hsplit : digits.take place.toNat ++ digits.drop place.toNat = digits :=
      List.take_append_drop _ _
    have hwhole : digits.take place.toNat ≠ [] := by
      intro h
      have := congrArg List.length h
      rw [List.length_take, List.length_nil] at this
      omega
    have hmem : ∀ c ∈ digits, isDigit c = true := List.all_eq_true.mp hall
    rw [List.append_assoc, List.cons_append]
    rw [parseNumber_point neg _ _ (exp + digits.length - place)
      (List.all_eq_true.mpr (fun c hc => hmem c (List.mem_of_mem_take hc)))
      (List.all_eq_true.mpr (fun c hc => hmem c (List.mem_of_mem_drop hc))) hwhole
      (by rw [hsplit, hparse]), List.length_drop]
    congr 2
    omega

theorem lower_of_isDigit (h : isDigit c = true) : lower c = c := by
  rw [isDigit_iff] at h
  exact dif_neg (by omega)

/-- A text that starts with a digit is no infinity and no NaN. -/
theorem isSpecial_of_isDigit (t : Text) (h : isDigit c = true) : isSpecial (c :: t) = false := by
  have hne : ∀ d : CodePoint, isDigit d = false → c ≠ d := by
    rintro d hd rfl
    rw [h] at hd
    cases hd
  have hi := hne (Text.ofChar 'i') (by decide)
  have hn := hne (Text.ofChar 'n') (by decide)
  have hs := hne (Text.ofChar 's') (by decide)
  simp [isSpecial, List.map_cons, lower_of_isDigit h, Text.ofString, hi, Ne.symm hn, Ne.symm hs]

theorem exists_head_pointed (d : Decimal) :
    ∃ c t, pointed (Text.ofNat d.coeff) d.dotPlace = c :: t ∧ isDigit c = true := by
  obtain ⟨c, t, heq, hc, -⟩ := Text.ofNat_eq_cons d.coeff
  unfold pointed
  simp only
  split_ifs with hle hge
  · exact ⟨_, _, rfl, by decide⟩
  · rw [heq]
    exact ⟨c, _, rfl, hc⟩
  · obtain ⟨n, hn⟩ := Nat.exists_eq_succ_of_ne_zero (show d.dotPlace.toNat ≠ 0 by omega)
    rw [heq, hn]
    exact ⟨c, _, rfl, hc⟩

theorem isPlain_pointed {digits : Text} (h : digits.all isDigit = true) (place : ℤ) :
    ∀ c ∈ pointed digits place, IsPlain c := by
  have hdigits : ∀ c ∈ digits, IsPlain c := fun c hc => Or.inl (List.all_eq_true.mp h c hc)
  have hzeros : ∀ n, ∀ c ∈ List.replicate n (Text.ofChar '0'), IsPlain c := by
    intro n c hc
    rw [List.eq_of_mem_replicate hc]
    exact Or.inl (by decide)
  have hdot : IsPlain (Text.ofChar '.') := Or.inr (by decide)
  unfold pointed
  simp only
  split_ifs
  · rw [List.forall_mem_cons, List.forall_mem_cons, List.forall_mem_append]
    exact ⟨Or.inl (by decide), hdot, hzeros _, hdigits⟩
  · rw [List.forall_mem_append]
    exact ⟨hdigits, hzeros _⟩
  · rw [List.forall_mem_append, List.forall_mem_cons]
    exact ⟨fun c hc => hdigits c (List.mem_of_mem_take hc), hdot,
      fun c hc => hdigits c (List.mem_of_mem_drop hc)⟩

theorem isPlain_exponentText (n : ℤ) : ∀ c ∈ exponentText n, IsPlain c := by
  unfold exponentText
  split_ifs with h0
  · simp
  · rw [List.forall_mem_cons, signedText, List.forall_mem_cons]
    refine ⟨Or.inr (by decide), ?_, fun c hc => Or.inl (Text.isDigit_of_mem_ofNat hc)⟩
    split_ifs
    · exact Or.inr (by decide)
    · exact Or.inr (by decide)

/-- `str(d)` consists of digits, points, signs and an `E`. -/
theorem isPlain_str (d : Decimal) : ∀ c ∈ d.str, IsPlain c := by
  unfold str
  simp only
  rw [List.forall_mem_append, List.forall_mem_append]
  refine ⟨⟨?_, isPlain_pointed (Text.all_isDigit_ofNat _) _⟩, isPlain_exponentText _⟩
  split_ifs
  · simp only [List.forall_mem_singleton]
    exact Or.inr (by decide)
  · simp

theorem isAscii_str (d : Decimal) : d.str.IsAscii := by
  intro c hc
  rcases d.isPlain_str c hc with h | h
  · have := isDigit_iff.mp h
    omega
  · simp only [List.mem_cons, List.not_mem_nil, or_false] at h
    rcases h with rfl | rfl | rfl | rfl <;> decide

/-- **The text of a decimal stands for it**, digit by digit and with its exponent. -/
theorem parse_str (d : Decimal) : parse d.str = some (.finite d) := by
  have hnumber := parseNumber_pointed d
  obtain ⟨c, t, heq, hc⟩ := exists_head_pointed d
  have hsign : parseSign d.str = (d.neg, pointed (Text.ofNat d.coeff) d.dotPlace
      ++ exponentText (d.exp + (Text.ofNat d.coeff).length - d.dotPlace)) := by
    unfold str
    simp only
    rcases hneg : d.neg
    · have hminus : c ≠ Text.ofChar '-' := by
        rintro rfl
        revert hc
        decide
      have hplus : c ≠ Text.ofChar '+' := by
        rintro rfl
        revert hc
        decide
      simp only [Bool.false_eq_true, if_false, List.nil_append, heq, List.cons_append, parseSign,
        if_neg hminus, if_neg hplus]
    · simp only [if_true, List.cons_append, List.nil_append, parseSign]
  rw [parse, normalized_of_plain d.isPlain_str, hsign]
  have hspecial : isSpecial (pointed (Text.ofNat d.coeff) d.dotPlace
      ++ exponentText (d.exp + (Text.ofNat d.coeff).length - d.dotPlace)) = false := by
    rw [heq, List.cons_append]
    exact isSpecial_of_isDigit _ hc
  simp only [hspecial, Bool.false_eq_true, if_false, hnumber, Option.map_some]

/-- Different triples have different texts. -/
theorem str_inj {a b : Decimal} (h : a.str = b.str) : a = b := by
  have hparse := a.parse_str
  rw [h, b.parse_str] at hparse
  injection hparse with hparse
  injection hparse with hparse
  exact hparse.symm

end Decimal

end PyModel
