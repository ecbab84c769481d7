import FuturesAgentOs.PyModel.Digits

namespace PyModel

/-!
# The order of texts of one layout

Texts that consist of fields of fixed width, one after the other, are compared field by field.

* `Text.le_append` — the first fields decide, the rest where they are equal;
* `Text.le_padded_append` — for numbers of a fixed number of digits.
-/

namespace Text

@[simp] theorem le_cons_self (c : CodePoint) (s t : Text) : le (c :: s) (c :: t) = le s t := by
  simp [le]

/-- **Two first fields of one width.** -/
theorem le_append {a b s t : Text} (h : a.length = b.length) :
    le (a ++ s) (b ++ t) = true ↔ le b a = false ∨ a = b ∧ le s t = true := by
  induction a generalizing b with
  | nil =>
    obtain rfl := List.length_eq_zero_iff.mp h.symm
    simp [le]
  | cons c a ih =>
    rcases b with _ | ⟨d, b⟩
    · cases h
    · have ih := ih (Nat.succ_injective h)
      simp only [List.cons_append, le, Bool.or_eq_true, Bool.and_eq_true, decide_eq_true_eq,
        beq_iff_eq, Bool.or_eq_false_iff, Bool.and_eq_false_imp, decide_eq_false_iff_not,
        List.cons.injEq, ih, Fin.ext_iff]
      constructor
      · rintro (hlt | ⟨heq, hrest⟩)
        · exact Or.inl ⟨by omega, fun heq => absurd heq (by omega)⟩
        · exact hrest.imp (fun hfirst => ⟨by omega, fun _ => hfirst⟩) fun hsame =>
            ⟨⟨heq, hsame.1⟩, hsame.2⟩
      · rintro (⟨hle, hfirst⟩ | ⟨⟨heq, hsame⟩, hrest⟩)
        · rcases Nat.lt_or_eq_of_le (Nat.not_lt.mp hle) with hlt | heq
          · exact Or.inl hlt
          · exact Or.inr ⟨heq, Or.inl (hfirst heq.symm)⟩
        · exact Or.inr ⟨heq, Or.inr ⟨hsame, hrest⟩⟩

theorem digit_val (n : ℕ) : (digit n).val = 48 + n % 10 := rfl

variable {k m n : ℕ}

/-- Numbers of a fixed number of digits are compared by their values. -/
theorem le_padded (hm : m < 10 ^ k) (hn : n < 10 ^ k) :
    le (padded k m) (padded k n) = true ↔ m ≤ n := by
  induction k generalizing m n with
  | zero =>
    simp only [pow_zero, Nat.lt_one_iff] at hm hn
    simp [hm, hn, padded, le]
  | succ k ih =>
    rw [pow_succ] at hm hn
    have hm' : m / 10 < 10 ^ k := by omega
    have hn' : n / 10 < 10 ^ k := by omega
    have hlt : le (padded k (n / 10)) (padded k (m / 10)) = false ↔ m / 10 < n / 10 := by
      rw [← Bool.not_eq_true, ih hn' hm', Nat.not_le]
    have hsame : padded k (m / 10) = padded k (n / 10) ↔ m / 10 = n / 10 := by
      refine ⟨fun heq => ?_, fun heq => by rw [heq]⟩
      have hle := (ih hm' hn').mp (heq ▸ le_refl _)
      have hge := (ih hn' hm').mp (heq ▸ le_refl _)
      omega
    have hdigit : le [digit m] [digit n] = true ↔ m % 10 ≤ n % 10 := by
      simp [le, digit_val, Nat.le_iff_lt_or_eq]
    rw [padded, padded, le_append (by simp), hlt, hsame, hdigit]
    omega

theorem padded_inj (hm : m < 10 ^ k) (hn : n < 10 ^ k) : padded k m = padded k n ↔ m = n := by
  refine ⟨fun heq => ?_, fun heq => by rw [heq]⟩
  have hle := (le_padded hm hn).mp (heq ▸ le_refl _)
  have hge := (le_padded hn hm).mp (heq ▸ le_refl _)
  omega

/-- **A number of a fixed number of digits in front.** -/
theorem le_padded_append (hm : m < 10 ^ k) (hn : n < 10 ^ k) {s t : Text} :
    le (padded k m ++ s) (padded k n ++ t) = true ↔ m < n ∨ m = n ∧ le s t = true := by
  rw [le_append (by simp), ← Bool.not_eq_true, le_padded hn hm, Nat.not_le, padded_inj hm hn]

end Text

end PyModel
