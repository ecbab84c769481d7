import Mathlib.Data.List.Basic
import Mathlib.Logic.Function.Basic

namespace PyModel

/-!
# Files that are written once

A file is created by one of several writers, the exclusive one, who then writes the content part
by part and may be killed before the end.  The others only read it.

* `IsPart` — a reader finds the file before all of it is written;
* `Extends` — what is written is only ever continued.
-/

namespace WriteOnce

variable {α : Type*} {content : List α} {held : Option (List α)} {rest : ℕ → Option (List α)}

/-- The file holds the beginning of the content, and its writer, if there is one, has the rest.
`held` is what the file holds, `none` when there is no file; `rest i` is what the writer `i` has
not written yet, `none` when `i` is no writer. -/
structure Coherent (content : List α) (held : Option (List α)) (rest : ℕ → Option (List α)) :
    Prop where
  beginning : ∀ written ∈ held, written <+: content
  writer : ∀ i, ∀ unwritten ∈ rest i, ∃ written ∈ held, written ++ unwritten = content
  exclusive : ∀ i j, rest i ≠ none → rest j ≠ none → i = j

/-- What the file held is continued. -/
def Extends (held held' : Option (List α)) : Prop :=
  ∀ written ∈ held, ∃ written' ∈ held', written <+: written'

theorem Extends.refl (held : Option (List α)) : Extends held held :=
  fun written hwritten => ⟨written, hwritten, List.prefix_rfl⟩

/-- A file that holds the whole content still does. -/
theorem Extends.whole {held' : Option (List α)} (h : Extends held held')
    (hheld' : ∀ written ∈ held', written <+: content) (hwhole : held = some content) :
    held' = some content := by
  obtain ⟨written, hwritten, hcontent⟩ := h content hwhole
  have heq : content = written := hcontent.eq_of_length_le (hheld' written hwritten).length_le
  rw [heq]
  exact hwritten

theorem Extends.ne_none {held' : Option (List α)} (h : Extends held held') (hne : held ≠ none) :
    held' ≠ none := by
  obtain ⟨written, hwritten⟩ := Option.ne_none_iff_exists'.mp hne
  obtain ⟨written', hwritten', -⟩ := h written hwritten
  rw [Option.mem_def.mp hwritten']
  exact Option.some_ne_none _

theorem extends_create (content : List α) : Extends none (some content) :=
  fun _ hwritten => nomatch hwritten

theorem extends_append (written chunk : List α) : Extends (some written) (some (written ++ chunk)) := by
  rintro written' ⟨rfl⟩
  exact ⟨written ++ chunk, rfl, List.prefix_append _ _⟩

/-- The file is there, and does not hold the whole content. -/
def IsPart (content : List α) (held : Option (List α)) : Prop :=
  ∃ written ∈ held, written <+: content ∧ written ≠ content

theorem whole_of_not_isPart (hheld : ∀ written ∈ held, written <+: content) (hne : held ≠ none)
    (h : ¬ IsPart content held) : held = some content := by
  obtain ⟨written, hwritten⟩ := Option.ne_none_iff_exists'.mp hne
  have heq : written = content := by
    by_contra hpart
    exact h ⟨written, hwritten, hheld written hwritten, hpart⟩
  rw [hwritten, heq]

/-- A file that nobody writes yet. -/
theorem coherent_of_no_writer (h : ∀ written ∈ held, written <+: content) :
    Coherent content held (fun _ => none) :=
  ⟨h, fun _ _ hrest => (nomatch hrest), fun _ _ hne => absurd rfl hne⟩

namespace Coherent

theorem create (h : Coherent content none rest) (i : ℕ) :
    Coherent content (some []) (Function.update rest i (some content)) := by
  have hnone : ∀ j, rest j = none := by
    intro j
    by_contra hne
    obtain ⟨unwritten, hunwritten⟩ := Option.ne_none_iff_exists'.mp hne
    obtain ⟨written, hwritten, -⟩ := h.writer j unwritten hunwritten
    cases hwritten
  have hwriter : ∀ j, Function.update rest i (some content) j ≠ none → j = i := by
    intro j hj
    by_contra hne
    rw [Function.update_of_ne hne] at hj
    exact hj (hnone j)
  refine ⟨?_, ?_, ?_⟩
  · rintro written ⟨rfl⟩
    exact List.nil_prefix
  · intro j unwritten hunwritten
    obtain rfl : j = i := hwriter j (by rw [hunwritten]; exact Option.some_ne_none _)
    rw [Function.update_self] at hunwritten
    obtain rfl := Option.some.inj hunwritten
    exact ⟨[], rfl, rfl⟩
  · intro j k hj hk
    rw [hwriter j hj, hwriter k hk]

/-- The writer writes a part of what is left. -/
theorem write (h : Coherent content held rest) {i : ℕ} {written chunk unwritten : List α}
    (hheld : held = some written) (hrest : rest i = some (chunk ++ unwritten)) :
    Coherent content (some (written ++ chunk)) (Function.update rest i (some unwritten)) := by
  have hwriter : ∀ j, Function.update rest i (some unwritten) j ≠ none → j = i := by
    intro j hj
    by_contra hne
    rw [Function.update_of_ne hne] at hj
    exact hne (h.exclusive j i hj (by rw [hrest]; exact Option.some_ne_none _))
  have hcontent : written ++ chunk ++ unwritten = content := by
    obtain ⟨written', hwritten', heq⟩ := h.writer i _ hrest
    rw [hheld] at hwritten'
    obtain rfl := Option.some.inj hwritten'
    rw [List.append_assoc, heq]
  refine ⟨?_, ?_, ?_⟩
  · rintro written' ⟨rfl⟩
    exact ⟨unwritten, hcontent⟩
  · intro j left hleft
    obtain rfl : j = i := hwriter j (by rw [hleft]; exact Option.some_ne_none _)
    rw [Function.update_self] at hleft
    obtain rfl := Option.some.inj hleft
    exact ⟨written ++ chunk, rfl, hcontent⟩
  · intro j k hj hk
    rw [hwriter j hj, hwriter k hk]

/-- A writer is done, or is killed; anyone else stays away. -/
theorem leave (h : Coherent content held rest) (i : ℕ) :
    Coherent content held (Function.update rest i none) := by
  have hrest : ∀ j, Function.update rest i none j ≠ none →
      Function.update rest i none j = rest j := by
    intro j hj
    by_cases hji : j = i
    · rw [hji, Function.update_self] at hj
      exact absurd rfl hj
    · exact Function.update_of_ne hji _ _
  refine ⟨h.beginning, ?_, ?_⟩
  · intro j unwritten hunwritten
    refine h.writer j unwritten ?_
    rw [← hrest j (by rw [hunwritten]; exact Option.some_ne_none _)]
    exact hunwritten
  · intro j k hj hk
    refine h.exclusive j k ?_ ?_
    · rw [← hrest j hj]
      exact hj
    · rw [← hrest k hk]
      exact hk

/-- The writer writes all that is left, and is done. -/
theorem finish (h : Coherent content held rest) {i : ℕ} {written chunk : List α}
    (hheld : held = some written) (hrest : rest i = some chunk) :
    written ++ chunk = content ∧
      Coherent content (some (written ++ chunk)) (Function.update rest i none) := by
  refine ⟨?_, ?_⟩
  · obtain ⟨written', hwritten', heq⟩ := h.writer i chunk hrest
    rw [hheld] at hwritten'
    obtain rfl := Option.some.inj hwritten'
    exact heq
  · have hall : rest i = some (chunk ++ []) := by rw [hrest, List.append_nil]
    have hdone := (h.write hheld hall).leave i
    rw [Function.update_idem] at hdone
    exact hdone

/-- The writer has a file. -/
theorem exists_written (h : Coherent content held rest) {i : ℕ} {unwritten : List α}
    (hrest : rest i = some unwritten) :
    ∃ written, held = some written ∧ written ++ unwritten = content :=
  h.writer i unwritten hrest

end Coherent

end WriteOnce

end PyModel
