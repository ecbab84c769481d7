import FuturesAgentOs.PyModel.Json
import Mathlib.Data.List.Chain

namespace PyModel

/-!
# Reading back a JSON string

`ensure_ascii` writes a character beyond the BMP as a surrogate pair, and reading joins every
high surrogate with a low one that follows it.  A Python `str` may hold the two surrogates as
characters of their own; such a text (and only such a text) comes back changed.

* `Text.IsJsonSafe` — no high surrogate stands directly before a low one;
* `scanString_quote` — reading back what `quote` wrote.
-/

/-- No high surrogate stands directly before a low one. -/
def Text.IsJsonSafe (t : Text) : Prop :=
  t.IsChain (fun a b => ¬ (Json.isHigh a.val = true ∧ Json.isLow b.val = true))

instance (t : Text) : Decidable t.IsJsonSafe := inferInstanceAs (Decidable (List.IsChain _ _))

namespace Json

/-! ### Hexadecimal digits -/

theorem hex4_eq (n : ℕ) : Text.hex 4 n = [Text.hexDigit (n / 16 / 16 / 16 % 16),
    Text.hexDigit (n / 16 / 16 % 16), Text.hexDigit (n / 16 % 16), Text.hexDigit (n % 16)] := rfl

variable {n : ℕ} {c : CodePoint}

/-- Four digits are read back. -/
theorem scanHex4_hex (h : n < 0x10000) (rest : Text) :
    scanHex4 (Text.hex 4 n ++ rest) = some (⟨n, h⟩, rest) := by
  have h1 := Text.hexValue_hexDigit (show n / 16 / 16 / 16 % 16 < 16 by omega)
  have h2 := Text.hexValue_hexDigit (show n / 16 / 16 % 16 < 16 by omega)
  have h3 := Text.hexValue_hexDigit (show n / 16 % 16 < 16 by omega)
  have h4 := Text.hexValue_hexDigit (show n % 16 < 16 by omega)
  rw [hex4_eq]
  simp only [List.cons_append, List.nil_append, scanHex4, h1, h2, h3, h4, Option.bind_eq_bind,
    Option.bind_some, Option.some.injEq, Prod.mk.injEq, and_true]
  apply Fin.ext
  show (((n / 16 / 16 / 16 % 16 * 16 + n / 16 / 16 % 16) * 16 + n / 16 % 16) * 16 + n % 16)
    % 0x10000 = n
  omega

/-! ### Escapes -/

/-- An escape at the front of the text is not that of a low surrogate. -/
def NoLow (t : Text) : Prop :=
  ∀ rest, t = backslash :: Text.ofChar 'u' :: rest →
    ∃ m rest', scanHex4 rest = some (m, rest') ∧ isLow m.val = false

theorem noLow_of_head_ne (h : c ≠ backslash) (t : Text) : NoLow (c :: t) := by
  intro rest heq
  injection heq with hc
  exact absurd hc h

theorem noLow_unicodeEscape (h : n < 0x10000) (hlow : isLow n = false) (t : Text) :
    NoLow (unicodeEscape n ++ t) := by
  intro rest heq
  simp only [unicodeEscape, List.cons_append, List.cons.injEq, true_and] at heq
  exact ⟨⟨n, h⟩, t, heq ▸ scanHex4_hex h t, hlow⟩

theorem unescape_escapeLetter {letter : CodePoint} (h : escapeLetter c = some letter) :
    letter ≠ Text.ofChar 'u' ∧ unescapeLetter letter = some c := by
  have hval : ∀ n (hn : n < 0x110000), c.val = n → c = ⟨n, hn⟩ := fun n hn hc => Fin.ext hc
  unfold escapeLetter at h
  split_ifs at h with h1 h2 h3 h4 h5 h6 h7 <;> injection h with h <;> subst h
  · subst h1
    decide
  · subst h2
    decide
  · rw [hval 8 (by decide) h3]
    decide
  · rw [hval 9 (by decide) h4]
    decide
  · rw [hval 10 (by decide) h5]
    decide
  · rw [hval 12 (by decide) h6]
    decide
  · rw [hval 13 (by decide) h7]
    decide

theorem ne_of_escapeLetter (h : escapeLetter c = none) : c ≠ quoteChar ∧ c ≠ backslash := by
  constructor
  · rintro rfl
    cases h
  · rintro rfl
    cases h

theorem noLow_escape (h : isLow c.val = false) (t : Text) : NoLow (escape c ++ t) := by
  unfold escape
  rcases hletter : escapeLetter c with _ | letter
  · simp only
    split_ifs with hascii hbmp
    · exact noLow_of_head_ne (ne_of_escapeLetter hletter).2 t
    · exact noLow_unicodeEscape hbmp h t
    · -- a pair starts with its high surrogate
      rw [List.append_assoc]
      apply noLow_unicodeEscape
      · omega
      · simp only [isLow, Bool.and_eq_false_iff, decide_eq_false_iff_not]
        omega
  · intro rest heq
    simp only [List.cons_append, List.nil_append, List.cons.injEq, true_and] at heq
    exact absurd heq.1 (unescape_escapeLetter hletter).1

/-! ### One character -/

/-- A `\u` escape that is not completed by a low surrogate. -/
theorem scanUnicode_single (h : n < 0x10000) {rest : Text} (hlow : isHigh n = true → NoLow rest) :
    scanUnicode (Text.hex 4 n ++ rest) = some (⟨n, by omega⟩, rest) := by
  unfold scanUnicode
  rw [scanHex4_hex h]
  simp only [Option.bind_eq_bind, Option.bind_some]
  by_cases hhigh : isHigh n = true
  swap
  · rw [if_neg hhigh]
  rw [if_pos hhigh]
  rcases rest with _ | ⟨b, _ | ⟨u, rest⟩⟩
  · rfl
  · rfl
  by_cases hu : b = backslash ∧ u = Text.ofChar 'u'
  · obtain ⟨rfl, rfl⟩ := hu
    obtain ⟨m, rest', hscan, hm⟩ := hlow hhigh rest rfl
    simp [hscan, hm]
  · simp only [if_neg hu]

theorem scanUnicode_pair {high low : ℕ} (hhigh : isHigh high = true) (hlow : isLow low = true)
    (rest : Text) :
    scanUnicode (Text.hex 4 high ++ (unicodeEscape low ++ rest))
      = some (joinSurrogates high low, rest) := by
  simp only [isHigh, isLow, Bool.and_eq_true, decide_eq_true_eq] at hhigh hlow
  unfold scanUnicode
  rw [scanHex4_hex (by omega)]
  simp only [Option.bind_eq_bind, Option.bind_some]
  rw [if_pos (by simp [isHigh]; omega)]
  simp only [unicodeEscape, List.cons_append]
  rw [if_pos ⟨trivial, trivial⟩, scanHex4_hex (by omega)]
  simp only [Option.bind_some]
  rw [if_pos (by simp [isLow]; omega)]

/-- **One character is read back**, unless it is a high surrogate that the text after it
completes. -/
theorem scanChar_escape (c : CodePoint) {rest : Text} (hlow : isHigh c.val = true → NoLow rest) :
    scanChar (escape c ++ rest) = some (some c, rest) := by
  have hbq : backslash ≠ quoteChar := by decide
  unfold escape
  rcases hletter : escapeLetter c with _ | letter
  swap
  · obtain ⟨hu, hback⟩ := unescape_escapeLetter hletter
    simp only [List.cons_append, List.nil_append, scanChar, if_neg hbq, if_true, if_neg hu, hback,
      Option.map_some]
  obtain ⟨hquote, hback⟩ := ne_of_escapeLetter hletter
  simp only
  split_ifs with hascii hbmp
  · have hctrl : ¬ c.val < 32 := by omega
    simp only [List.cons_append, List.nil_append, scanChar, if_neg hquote, if_neg hback,
      if_neg hctrl]
  · have hscan := scanUnicode_single hbmp hlow
    simp only [unicodeEscape, List.cons_append, scanChar, if_neg hbq, if_true, hscan,
      Option.map_some]
  · -- beyond the BMP: the pair is joined again
    have hlt := c.isLt
    have hhigh : isHigh (0xd800 + (c.val - 0x10000) / 0x400) = true := by
      simp only [isHigh, Bool.and_eq_true, decide_eq_true_eq]
      omega
    have hlow' : isLow (0xdc00 + (c.val - 0x10000) % 0x400) = true := by
      simp only [isLow, Bool.and_eq_true, decide_eq_true_eq]
      omega
    have hjoin : joinSurrogates (0xd800 + (c.val - 0x10000) / 0x400)
        (0xdc00 + (c.val - 0x10000) % 0x400) = c := by
      apply Fin.ext
      simp only [joinSurrogates]
      omega
    have hscan := scanUnicode_pair hhigh hlow' rest
    rw [List.append_assoc]
    nth_rewrite 1 [unicodeEscape]
    simp only [List.cons_append, scanChar, if_neg hbq, if_true, hscan, hjoin, Option.map_some]

/-! ### Strings -/

theorem scanChar_quote (rest : Text) : scanChar (quoteChar :: rest) = some (none, rest) := by
  simp only [scanChar, if_true]

theorem length_escape_pos (c : CodePoint) : 0 < (escape c).length := by
  unfold escape
  split
  · simp
  · split_ifs <;> simp [unicodeEscape]

/-- **A string is read back.** -/
theorem scanString_escapes {t : Text} (h : t.IsJsonSafe) (rest : Text) :
    ∀ fuel, t.length < fuel →
      scanString fuel (t.flatMap escape ++ quoteChar :: rest) = some (t, rest) := by
  induction t with
  | nil =>
    intro fuel hfuel
    obtain ⟨fuel, rfl⟩ := Nat.exists_eq_succ_of_ne_zero (show fuel ≠ 0 by omega)
    simp only [List.flatMap_nil, List.nil_append, scanString, scanChar_quote]
  | cons c t ih =>
    intro fuel hfuel
    obtain ⟨fuel, rfl⟩ := Nat.exists_eq_succ_of_ne_zero (show fuel ≠ 0 by omega)
    have hsafe : Text.IsJsonSafe t := List.IsChain.of_cons h
    -- what follows `c` does not complete it
    have hlow : isHigh c.val = true → NoLow (t.flatMap escape ++ quoteChar :: rest) := by
      intro hhigh
      rcases t with _ | ⟨d, t⟩
      · exact noLow_of_head_ne (by decide) rest
      · have hd : isLow d.val = false := by
          by_contra hd
          exact (List.isChain_cons_cons.mp h).1 ⟨hhigh, by simpa using hd⟩
        rw [List.flatMap_cons, List.append_assoc]
        exact noLow_escape hd _
    rw [List.flatMap_cons, List.append_assoc, scanString, scanChar_escape c hlow]
    simp only [List.length_cons] at hfuel
    simp only [ih hsafe fuel (by omega), Option.map_some]

theorem length_le_flatMap_escape (t : Text) : t.length ≤ (t.flatMap escape).length := by
  induction t with
  | nil => exact le_rfl
  | cons c t ih =>
    have := length_escape_pos c
    rw [List.flatMap_cons, List.length_append, List.length_cons]
    omega

/-- **A quoted string is read back**, with the fuel that its text gives. -/
theorem scanString_quote {t : Text} (h : t.IsJsonSafe) (rest : Text) :
    scanString ((t.flatMap escape ++ quoteChar :: rest).length + 1)
      (t.flatMap escape ++ quoteChar :: rest) = some (t, rest) := by
  apply scanString_escapes h
  have := length_le_flatMap_escape t
  rw [List.length_append, List.length_cons]
  omega

/-! ### The characters of a quoted string -/

/-- A text of visible ASCII characters and spaces. -/
def IsVisible (t : Text) : Prop := ∀ c ∈ t, 32 ≤ c.val ∧ c.val < 0x80

instance (t : Text) : Decidable (IsVisible t) :=
  List.decidableBAll (fun c : CodePoint => 32 ≤ c.val ∧ c.val < 0x80) t

section

variable {s t : Text}

theorem isVisible_append : IsVisible (s ++ t) ↔ IsVisible s ∧ IsVisible t :=
  List.forall_mem_append

theorem isVisible_cons {c : CodePoint} :
    IsVisible (c :: t) ↔ (32 ≤ c.val ∧ c.val < 0x80) ∧ IsVisible t :=
  List.forall_mem_cons

theorem IsVisible.isAscii (h : IsVisible t) : t.IsAscii := fun c hc => (h c hc).2

end

theorem isVisible_unicodeEscape (n : ℕ) : IsVisible (unicodeEscape n) := by
  rw [unicodeEscape, isVisible_cons, isVisible_cons]
  refine ⟨by decide, by decide, ?_⟩
  have hdigit : ∀ k < 16, 32 ≤ (Text.hexDigit k).val ∧ (Text.hexDigit k).val < 0x80 := by decide
  rw [hex4_eq]
  simp only [isVisible_cons]
  exact ⟨hdigit _ (Nat.mod_lt _ (by decide)), hdigit _ (Nat.mod_lt _ (by decide)),
    hdigit _ (Nat.mod_lt _ (by decide)), hdigit _ (Nat.mod_lt _ (by decide)), fun c hc => by cases hc⟩

theorem isVisible_escape (c : CodePoint) : IsVisible (escape c) := by
  unfold escape
  rcases hletter : escapeLetter c with _ | letter
  · simp only
    split_ifs with hplain hsmall
    · rw [isVisible_cons]
      exact ⟨by omega, fun c hc => by cases hc⟩
    · exact isVisible_unicodeEscape _
    · rw [isVisible_append]
      exact ⟨isVisible_unicodeEscape _, isVisible_unicodeEscape _⟩
  · have hvisible : 32 ≤ letter.val ∧ letter.val < 0x80 := by
      unfold escapeLetter at hletter
      split_ifs at hletter <;> (injection hletter with hletter; subst hletter; decide)
    simp only [isVisible_cons]
    exact ⟨by decide, hvisible, fun c hc => by cases hc⟩

/-- `ensure_ascii` -/
theorem isVisible_quote (t : Text) : IsVisible (quote t) := by
  rw [quote, isVisible_cons, isVisible_append]
  refine ⟨by decide, ?_, by decide⟩
  intro c hc
  obtain ⟨d, -, hd⟩ := List.mem_flatMap.mp hc
  exact isVisible_escape d c hd

end Json

variable {t : Text}

theorem Text.isJsonSafe_of_no_high (h : ∀ c ∈ t, Json.isHigh c.val = false) : t.IsJsonSafe := by
  induction t with
  | nil => exact List.IsChain.nil
  | cons a t ih =>
    rw [List.forall_mem_cons] at h
    rcases t with _ | ⟨b, t⟩
    · exact List.IsChain.singleton a
    · refine List.isChain_cons_cons.mpr ⟨?_, ih h.2⟩
      rintro ⟨ha, -⟩
      rw [h.1] at ha
      cases ha

theorem Text.isJsonSafe_of_encodeUtf8 (h : t.encodeUtf8.isSome = true) : t.IsJsonSafe := by
  refine Text.isJsonSafe_of_no_high fun c hc => ?_
  have hbytes := Text.isSome_utf8Bytes_of_encodeUtf8 h c hc
  by_contra hhigh
  simp only [Json.isHigh, Bool.not_eq_false, Bool.and_eq_true, decide_eq_true_eq] at hhigh
  have hnone : Text.utf8Bytes c = none := by
    simp only [Text.utf8Bytes]
    rw [dif_neg (by omega), dif_neg (by omega), if_pos (by omega)]
  rw [hnone] at hbytes
  cases hbytes

@[simp] theorem Text.isJsonSafe_ofString (s : String) : (Text.ofString s).IsJsonSafe := by
  refine Text.isJsonSafe_of_no_high fun c hc => ?_
  obtain ⟨a, -, rfl⟩ := List.mem_map.mp hc
  have hvalid : a.val.toNat < 0xd800 ∨ 0xdfff < a.val.toNat ∧ a.val.toNat < 0x110000 := a.valid
  rw [Char.toNat_val] at hvalid
  simp only [Json.isHigh, Text.ofChar_val, Bool.and_eq_false_iff, decide_eq_false_iff_not]
  omega

theorem Text.IsAscii.isJsonSafe (h : t.IsAscii) : t.IsJsonSafe := by
  refine Text.isJsonSafe_of_no_high fun c hc => ?_
  have := h c hc
  simp only [Json.isHigh, Bool.and_eq_false_iff, decide_eq_false_iff_not]
  omega

/-- A pair of surrogates does not begin where ASCII ends. -/
theorem Text.IsJsonSafe.ascii_append {s : Text} (hs : s.IsAscii) (ht : t.IsJsonSafe) :
    Text.IsJsonSafe (s ++ t) := by
  refine List.isChain_append.mpr ⟨hs.isJsonSafe, ht, ?_⟩
  rintro x hx y - ⟨hhigh, -⟩
  have := hs x (List.mem_of_getLast? hx)
  simp only [Json.isHigh, Bool.and_eq_true, decide_eq_true_eq] at hhigh
  omega

/-- A pair of surrogates does not end where ASCII begins. -/
theorem Text.IsJsonSafe.append_ascii {s : Text} (hs : s.IsJsonSafe) (ht : t.IsAscii) :
    Text.IsJsonSafe (s ++ t) := by
  refine List.isChain_append.mpr ⟨hs, ht.isJsonSafe, ?_⟩
  rintro x - y hy ⟨-, hlow⟩
  have := ht y (List.mem_of_head? hy)
  simp only [Json.isLow, Bool.and_eq_true, decide_eq_true_eq] at hlow
  omega

end PyModel
