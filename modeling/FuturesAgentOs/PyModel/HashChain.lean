import Mathlib.Data.List.Forall2

namespace PyModel

/-!
# Chains of sealed records

A record continues a state (a digest, a sequence number) and seals the next one.  When a sealed
state says what was sealed, except where two records break the seal, a whole chain is determined
by its length and by the state that it ends in.

* `Linked` — the records lead from one state to another; `linked_concat`: one more record;
* `Linked.compare` — two chains of one length and one end.
-/

variable {σ ε : Type*} {R : σ → ε → σ → Prop}

/-- The records lead from a state to another, one step each. -/
def Linked (R : σ → ε → σ → Prop) : σ → List ε → σ → Prop
  | s, [], t => s = t
  | s, e :: es, t => ∃ m, R s e m ∧ Linked R m es t

variable {es : List ε} {s t : σ}

theorem linked_append {fs : List ε} :
    Linked R s (es ++ fs) t ↔ ∃ m, Linked R s es m ∧ Linked R m fs t := by
  induction es generalizing s with
  | nil =>
    constructor
    · exact fun h => ⟨s, rfl, h⟩
    · rintro ⟨m, rfl, h⟩
      exact h
  | cons e es ih =>
    simp only [List.cons_append, Linked, ih]
    constructor
    · rintro ⟨m, hstep, m', hes, hfs⟩
      exact ⟨m', ⟨m, hstep, hes⟩, hfs⟩
    · rintro ⟨m', ⟨m, hstep, hes⟩, hfs⟩
      exact ⟨m, hstep, m', hes, hfs⟩

theorem linked_concat {e : ε} : Linked R s (es ++ [e]) t ↔ ∃ m, Linked R s es m ∧ R m e t := by
  rw [linked_append]
  constructor
  · rintro ⟨m, hes, m', hstep, rfl⟩
    exact ⟨m, hes, hstep⟩
  · rintro ⟨m, hes, hstep⟩
    exact ⟨m, hes, t, hstep, rfl⟩

/-- **A chain is determined by its length and its end**, unless the seal of some record is broken.
The induction runs back from the end, where the states are known to agree. -/
theorem Linked.compare {Same Broken : ε → ε → Prop}
    (hstep : ∀ {s s' e e' t}, R s e t → R s' e' t → Broken e e' ∨ Same e e' ∧ s = s')
    {es' : List ε} {s' : σ} (h : Linked R s es t) (h' : Linked R s' es' t)
    (hlength : es.length = es'.length) :
    (∃ e ∈ es, ∃ e' ∈ es', Broken e e') ∨ List.Forall₂ Same es es' ∧ s = s' := by
  induction es generalizing es' s s' with
  | nil =>
    obtain rfl : es' = [] := List.length_eq_zero_iff.mp hlength.symm
    exact Or.inr ⟨.nil, h.trans h'.symm⟩
  | cons e es ih =>
    rcases es' with _ | ⟨e', es'⟩
    · cases hlength
    obtain ⟨m, hfirst, hrest⟩ := h
    obtain ⟨m', hfirst', hrest'⟩ := h'
    rcases ih hrest hrest' (Nat.succ.inj hlength) with ⟨b, hb, b', hb', hbroken⟩ | ⟨hsame, rfl⟩
    · exact Or.inl ⟨b, List.mem_cons_of_mem _ hb, b', List.mem_cons_of_mem _ hb', hbroken⟩
    · rcases hstep hfirst hfirst' with hbroken | ⟨hsame', rfl⟩
      · exact Or.inl ⟨e, List.mem_cons_self, e', List.mem_cons_self, hbroken⟩
      · exact Or.inr ⟨.cons hsame' hsame, rfl⟩

end PyModel
