import FuturesAgentOs.PyModel.Text
import Mathlib.Data.List.Sort

namespace PyModel

/-!
# Sorting by a key

`sorted(…, key=…)` is stable, so in general it depends on the order of its input.  It does not when
no two different members have keys that are equal.

* `lexLe`, `lexLt` — the order of tuples;
* `mergeSort_eq_of_perm` — sorting by such a key is the same for every order of the input.
-/

/-! ### Tuples as keys -/

/-- `key(a) <= key(b)` for a key that is a tuple, each relation comparing one component. -/
def lexLe {α : Type} : List (α → α → Bool) → α → α → Bool
  | [], _, _ => true
  | le :: rest, a, b => le a b && (!le b a || lexLe rest a b)

/-- A component that is a string is compared in a total order. -/
theorem order_text {α : Type} (f : α → Text) :
    (∀ a b c, Text.le (f a) (f b) = true → Text.le (f b) (f c) = true →
      Text.le (f a) (f c) = true) ∧ ∀ a b, (Text.le (f a) (f b) || Text.le (f b) (f a)) = true :=
  ⟨fun _ _ _ => Text.le_trans, fun _ _ => Bool.or_eq_true _ _ ▸ Text.le_total _ _⟩

/-- A component that is an integer is compared in a total order. -/
theorem order_int {α : Type} (f : α → ℤ) :
    (∀ a b c, decide (f a ≤ f b) = true → decide (f b ≤ f c) = true → decide (f a ≤ f c) = true)
      ∧ ∀ a b, (decide (f a ≤ f b) || decide (f b ≤ f a)) = true := by
  constructor
  · intro a b c hab hbc
    rw [decide_eq_true_eq] at *
    omega
  · intro a b
    rw [Bool.or_eq_true, decide_eq_true_eq, decide_eq_true_eq]
    omega

section

variable {α : Type} {les : List (α → α → Bool)}

theorem lexLe_trans (h : ∀ le ∈ les, ∀ a b c, le a b = true → le b c = true → le a c = true)
    (a b c : α) (hab : lexLe les a b = true) (hbc : lexLe les b c = true) : lexLe les a c = true := by
  induction les with
  | nil => rfl
  | cons le rest ih =>
    rw [List.forall_mem_cons] at h
    simp only [lexLe, Bool.and_eq_true, Bool.or_eq_true, Bool.not_eq_true'] at hab hbc ⊢
    refine ⟨h.1 a b c hab.1 hbc.1, ?_⟩
    by_cases hca : le c a = true
    · -- the first component is the same for all three
      refine Or.inr (ih h.2 ?_ ?_)
      · exact hab.2.resolve_left (by rw [h.1 b c a hbc.1 hca]; decide)
      · exact hbc.2.resolve_left (by rw [h.1 c a b hca hab.1]; decide)
    · exact Or.inl (Bool.eq_false_iff.mpr hca)

theorem lexLe_total (h : ∀ le ∈ les, ∀ a b, (le a b || le b a) = true) (a b : α) :
    (lexLe les a b || lexLe les b a) = true := by
  induction les with
  | nil => rfl
  | cons le rest ih =>
    rw [List.forall_mem_cons] at h
    have hfirst := h.1 a b
    have hrest := ih h.2
    simp only [lexLe, Bool.or_eq_true, Bool.and_eq_true, Bool.not_eq_true'] at hfirst hrest ⊢
    rcases hab : le a b with _ | _ <;> rcases hba : le b a with _ | _ <;> simp_all

/-- Members whose keys are equal agree in every component. -/
theorem le_of_lexLe {a b : α} (hab : lexLe les a b = true) (hba : lexLe les b a = true) :
    ∀ le ∈ les, le a b = true ∧ le b a = true := by
  induction les with
  | nil => exact fun le hle => absurd hle List.not_mem_nil
  | cons le rest ih =>
    simp only [lexLe, Bool.and_eq_true, Bool.or_eq_true, Bool.not_eq_true'] at hab hba
    have hrest := ih (hab.2.resolve_left (by rw [hba.1]; decide))
      (hba.2.resolve_left (by rw [hab.1]; decide))
    exact List.forall_mem_cons.mpr ⟨⟨hab.1, hba.1⟩, hrest⟩

end

/-- `key(a) < key(b)` -/
def lexLt {α : Type} (les : List (α → α → Bool)) (a b : α) : Bool :=
  lexLe les a b && !lexLe les b a

section

variable {α : Type} {le : α → α → Bool} {les : List (α → α → Bool)} {a b : α}

@[simp] theorem lexLt_nil : lexLt [] a b = false := rfl

/-- **The first component decides**, the others where it is the same. -/
theorem lexLt_cons : lexLt (le :: les) a b = true
    ↔ le a b = true ∧ (le b a = false ∨ lexLt les a b = true) := by
  simp only [lexLt, lexLe]
  rcases le a b with _ | _ <;> rcases le b a with _ | _ <;> simp

/-- A first component that is a string. -/
theorem lexLt_text {f : α → Text} :
    lexLt ((fun a b => Text.le (f a) (f b)) :: les) a b = true
      ↔ Text.le (f b) (f a) = false ∨ f a = f b ∧ lexLt les a b = true := by
  rw [lexLt_cons]
  constructor
  · rintro ⟨hle, hlt | hrest⟩
    · exact Or.inl hlt
    · rcases hge : Text.le (f b) (f a) with _ | _
      · exact Or.inl rfl
      · exact Or.inr ⟨Text.le_antisymm hle hge, hrest⟩
  · rintro (hlt | ⟨heq, hrest⟩)
    · refine ⟨(Text.le_total _ _).resolve_right ?_, Or.inl hlt⟩
      rw [hlt]
      decide
    · refine ⟨?_, Or.inr hrest⟩
      rw [heq]
      exact (Text.le_total _ _).elim id id

/-- A first component that is an integer. -/
theorem lexLt_int {f : α → ℤ} : lexLt ((fun a b => decide (f a ≤ f b)) :: les) a b = true
    ↔ f a < f b ∨ f a = f b ∧ lexLt les a b = true := by
  rw [lexLt_cons, decide_eq_true_eq, decide_eq_false_iff_not]
  rcases lexLt les a b with _ | _
  · simp only [Bool.false_eq_true, and_false, or_false]
    omega
  · simp only [and_true, or_true]
    omega

end

section

variable {α : Type} {le : α → α → Bool} {xs ys : List α}

/-- **One order of the sorted list.**  The relation is a linear order of the members. -/
theorem mergeSort_eq_of_perm (trans : ∀ a b c, le a b = true → le b c = true → le a c = true)
    (total : ∀ a b, (le a b || le b a) = true)
    (antisymm : ∀ a ∈ xs, ∀ b ∈ xs, le a b = true → le b a = true → a = b) (h : xs.Perm ys) :
    xs.mergeSort le = ys.mergeSort le := by
  refine List.Perm.eq_of_pairwise ?_ (List.pairwise_mergeSort trans total xs)
    (List.pairwise_mergeSort trans total ys) ?_
  · intro a b ha hb hab hba
    refine antisymm a ?_ b ?_ hab hba
    · exact (List.mergeSort_perm xs le).mem_iff.mp ha
    · exact h.mem_iff.mpr ((List.mergeSort_perm ys le).mem_iff.mp hb)
  · exact (List.mergeSort_perm xs le).trans (h.trans (List.mergeSort_perm ys le).symm)

/-- Two lists without repetition and with the same members are sorted alike. -/
theorem mergeSort_eq_of_mem_iff
    (trans : ∀ a b c, le a b = true → le b c = true → le a c = true)
    (total : ∀ a b, (le a b || le b a) = true)
    (antisymm : ∀ a b, le a b = true → le b a = true → a = b) (hxs : xs.Nodup) (hys : ys.Nodup)
    (h : ∀ x, x ∈ xs ↔ x ∈ ys) : xs.mergeSort le = ys.mergeSort le :=
  mergeSort_eq_of_perm trans total (fun a _ b _ => antisymm a b)
    ((List.perm_ext_iff_of_nodup hxs hys).mpr h)

end

end PyModel
