import FuturesAgentOs.PyModel.TextOrder
import FuturesAgentOs.SharedKernel.IsoTime

namespace FuturesAgentOs

open PyModel

/-!
# Timestamps in the order of their texts

A timestamp is written with microseconds only when there are some, and `.` comes before `Z`.  So
texts are in the order of time but for those of one second, of which the one without a fraction,
the earliest moment, comes last.

* `RecordedAt.text_le_iff` — the order of the texts.
-/

namespace RecordedAt

/-- The second of a timestamp. -/
def seconds (t : RecordedAt) : ℕ :=
  ((t.date.ticks * 24 + t.hour) * 60 + t.minute) * 60 + t.second

/-- Two timestamps of one second, exactly one of which is written with a fraction. -/
def Mixed (s t : RecordedAt) : Prop :=
  s.seconds = t.seconds ∧ (s.microsecond.val = 0 ↔ t.microsecond.val ≠ 0)

instance (s t : RecordedAt) : Decidable (Mixed s t) := inferInstanceAs (Decidable (_ ∧ _))

variable {s t : RecordedAt}

theorem le_iff_seconds : s ≤ t ↔ s.seconds < t.seconds
    ∨ s.seconds = t.seconds ∧ s.microsecond.val ≤ t.microsecond.val := by
  have hs := s.microsecond.isLt
  have ht := t.microsecond.isLt
  rw [le_def]
  show s.seconds * 1000000 + s.microsecond ≤ t.seconds * 1000000 + t.microsecond ↔ _
  omega

theorem Mixed.symm (h : Mixed s t) : Mixed t s := ⟨h.1.symm, by have := h.2; tauto⟩

theorem Mixed.ne (h : Mixed s t) : s ≠ t := by
  rintro rfl
  have := h.2
  tauto

/-- What follows the second. -/
def fractionText (t : RecordedAt) : Text :=
  (if t.microsecond.val = 0 then [] else Text.ofChar '.' :: Text.padded 6 t.microsecond)
    ++ [Text.ofChar 'Z']

theorem text_eq_fields (t : RecordedAt) : t.text =
    Text.padded 4 t.date.year ++ Text.ofChar '-' :: (Text.padded 2 t.date.month
      ++ Text.ofChar '-' :: (Text.padded 2 t.date.day ++ Text.ofChar 'T' :: (Text.padded 2 t.hour
        ++ Text.ofChar ':' :: (Text.padded 2 t.minute ++ Text.ofChar ':' :: (Text.padded 2 t.second
          ++ t.fractionText))))) := by
  simp only [text, Date.isoformat, clockText, fractionText, List.append_assoc, List.cons_append]

/-- **Within one second** a text without a fraction comes last. -/
theorem fractionText_le_iff : Text.le s.fractionText t.fractionText = true
    ↔ t.microsecond.val = 0 ∨ s.microsecond.val ≠ 0 ∧ s.microsecond.val ≤ t.microsecond.val := by
  have hs : s.microsecond.val < 10 ^ 6 := s.microsecond.isLt
  have ht : t.microsecond.val < 10 ^ 6 := t.microsecond.isLt
  have hdot : (Text.ofChar '.').val = 46 := rfl
  have hz : (Text.ofChar 'Z').val = 90 := rfl
  unfold fractionText
  by_cases hs0 : s.microsecond.val = 0 <;> by_cases ht0 : t.microsecond.val = 0
  · rw [if_pos hs0, if_pos ht0]
    exact iff_of_true (Text.le_refl _) (Or.inl ht0)
  · rw [if_pos hs0, if_neg ht0]
    refine iff_of_false ?_ (by simp [hs0, ht0])
    simp [Text.le, hdot, hz]
  · rw [if_neg hs0, if_pos ht0]
    refine iff_of_true ?_ (Or.inl ht0)
    simp [Text.le, hdot, hz]
  · rw [if_neg hs0, if_neg ht0, List.cons_append, List.cons_append, Text.le_cons_self,
      Text.le_padded_append hs ht]
    simp only [Text.le_refl, and_true, hs0, ht0, false_or, not_false_eq_true, true_and, ne_eq]
    omega

/-- Two timestamps of different seconds are compared by these. -/
theorem text_le_iff_seconds : Text.le s.text t.text = true ↔ s.seconds < t.seconds
    ∨ s.seconds = t.seconds ∧ Text.le s.fractionText t.fractionText = true := by
  have hys := s.date.year_range
  have hyt := t.date.year_range
  have hms := s.date.month_range
  have hmt := t.date.month_range
  have hds := s.date.day_range
  have hdt := t.date.day_range
  have hdays := daysInMonth_le s.date.year s.date.month
  have hdayt := daysInMonth_le t.date.year t.date.month
  have hhs := s.hour.isLt
  have hht := t.hour.isLt
  have hmins := s.minute.isLt
  have hmint := t.minute.isLt
  have hss := s.second.isLt
  have hst := t.second.isLt
  rw [text_eq_fields, text_eq_fields,
    Text.le_padded_append (by omega) (by omega), Text.le_cons_self,
    Text.le_padded_append (by omega) (by omega), Text.le_cons_self,
    Text.le_padded_append (by omega) (by omega), Text.le_cons_self,
    Text.le_padded_append (by omega) (by omega), Text.le_cons_self,
    Text.le_padded_append (by omega) (by omega), Text.le_cons_self,
    Text.le_padded_append (by omega) (by omega)]
  simp only [seconds, Date.ticks]
  rcases Text.le s.fractionText t.fractionText with _ | _
  · simp only [Bool.false_eq_true, and_false, or_false]
    omega
  · simp only [and_true]
    omega

/-- **The order of the texts** is the order of time, but for two timestamps of one second of which
one has no fraction: that one comes last. -/
theorem text_le_iff : Text.le s.text t.text = true
    ↔ if Mixed s t then t.microsecond.val = 0 else s ≤ t := by
  rw [text_le_iff_seconds, fractionText_le_iff]
  split
  · rename_i hmixed
    obtain ⟨hseconds, hfraction⟩ := hmixed
    omega
  · rename_i hmixed
    rw [le_iff_seconds]
    unfold Mixed at hmixed
    omega

/-- Of two timestamps of one second, the one without a fraction is the earlier. -/
theorem Mixed.lt_iff (h : Mixed s t) : s < t ↔ s.microsecond.val = 0 := by
  have hle := le_iff_seconds (s := t) (t := s)
  rw [← not_le, hle]
  obtain ⟨hseconds, hfraction⟩ := h
  omega

/-- **When a text comes before another.** -/
theorem text_lt_iff : Text.le t.text s.text = false ↔ if Mixed s t then ¬ s < t else s < t := by
  rw [← Bool.not_eq_true, text_le_iff]
  by_cases hmixed : Mixed s t
  · rw [if_pos hmixed, if_pos hmixed.symm, hmixed.lt_iff]
  · rw [if_neg hmixed, if_neg fun hsymm => hmixed hsymm.symm, not_le]

/-- Different timestamps are different texts. -/
theorem text_le_antisymm (hst : Text.le s.text t.text = true) (hts : Text.le t.text s.text = true) :
    s = t := by
  rw [text_le_iff] at hst hts
  by_cases hmixed : Mixed s t
  · rw [if_pos hmixed] at hst
    rw [if_pos hmixed.symm] at hts
    exact absurd hst (hmixed.2.mp hts)
  · rw [if_neg hmixed] at hst
    rw [if_neg fun hsymm => hmixed hsymm.symm] at hts
    exact ticks_inj (Nat.le_antisymm hst hts)

end RecordedAt

end FuturesAgentOs
