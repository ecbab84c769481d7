import Mathlib.Data.List.Induction

namespace PyModel

/-!
# Deterministic machines and their runs

An object of a single-writer service is a deterministic machine: each call reads its
arguments, answers (possibly by raising) and leaves the object in a next state.  This file
packages once the inductions over a whole run of calls:

* `countP_trace_crossing` — what stays true once it is becomes so in one step;
* `outputs_eq_of_simulation` — two machines in step give the same answers for ever.
-/

/-- A deterministic machine: a step reads an input and gives an output and the next state. -/
structure Machine (σ ι ο : Type*) where
  /-- One step. -/
  step : σ → ι → ο × σ

namespace Machine

variable {σ τ ι ο : Type*} (M : Machine σ ι ο)

/-- The answer of one step. -/
def out (s : σ) (i : ι) : ο := (M.step s i).1

/-- The state after one step. -/
def next (s : σ) (i : ι) : σ := (M.step s i).2

/-- The state after a list of inputs. -/
def exec (s : σ) (is : List ι) : σ := is.foldl M.next s

/-- The answers to a list of inputs, in order. -/
def outputs (s : σ) : List ι → List ο
  | [] => []
  | i :: is => M.out s i :: outputs (M.next s i) is

/-- The history of a run: for each step the state before it, its input and its answer. -/
def trace (s : σ) : List ι → List (σ × ι × ο)
  | [] => []
  | i :: is => (s, i, M.out s i) :: trace (M.next s i) is

/-- Every step of the run meets `P`, a condition on the state before the step and its input. -/
def Meets (P : σ → ι → Prop) (s : σ) : List ι → Prop
  | [] => True
  | i :: is => P s i ∧ Meets P (M.next s i) is

@[simp] theorem exec_nil (s : σ) : M.exec s [] = s := rfl

@[simp] theorem exec_cons (s : σ) (i : ι) (is : List ι) :
    M.exec s (i :: is) = M.exec (M.next s i) is := rfl

theorem exec_append (s : σ) (is js : List ι) :
    M.exec s (is ++ js) = M.exec (M.exec s is) js := by
  simp [exec, List.foldl_append]

@[simp] theorem exec_concat (s : σ) (is : List ι) (i : ι) :
    M.exec s (is ++ [i]) = M.next (M.exec s is) i := by
  rw [exec_append]; rfl

/-- The answers to one more input. -/
theorem outputs_concat (s : σ) (is : List ι) (i : ι) :
    M.outputs s (is ++ [i]) = M.outputs s is ++ [M.out (M.exec s is) i] := by
  induction is generalizing s with
  | nil => rfl
  | cons j is ih =>
    rw [List.cons_append, outputs, outputs, ih, List.cons_append, exec_cons]

@[simp] theorem trace_nil (s : σ) : M.trace s [] = [] := rfl

@[simp] theorem trace_cons (s : σ) (i : ι) (is : List ι) :
    M.trace s (i :: is) = (s, i, M.out s i) :: M.trace (M.next s i) is := rfl

theorem trace_append (s : σ) (is js : List ι) :
    M.trace s (is ++ js) = M.trace s is ++ M.trace (M.exec s is) js := by
  induction is generalizing s with
  | nil => rfl
  | cons i is ih => simp [ih]

/-- The history grows by exactly the last step. -/
theorem trace_concat (s : σ) (is : List ι) (i : ι) :
    M.trace s (is ++ [i])
      = M.trace s is ++ [(M.exec s is, i, M.out (M.exec s is) i)] := by
  rw [trace_append]; rfl

variable {is : List ι} {s : σ}

/-- Every event of the history answers its input in its state. -/
theorem trace_out {e : σ × ι × ο} (he : e ∈ M.trace s is) : e.2.2 = M.out e.1 e.2.1 := by
  induction is generalizing s with
  | nil => simp at he
  | cons i is ih =>
    rw [trace_cons, List.mem_cons] at he
    rcases he with rfl | he
    · rfl
    · exact ih he

/-- A history in two parts is that of a run in two parts. -/
theorem trace_eq_append {xs ys : List (σ × ι × ο)} (h : M.trace s is = xs ++ ys) :
    ∃ js ks, is = js ++ ks ∧ xs = M.trace s js ∧ ys = M.trace (M.exec s js) ks := by
  induction xs generalizing s is with
  | nil => exact ⟨[], is, rfl, rfl, h.symm⟩
  | cons x xs ih =>
    cases is with
    | nil => simp at h
    | cons i is =>
      rw [trace_cons, List.cons_append, List.cons.injEq] at h
      obtain ⟨js, ks, rfl, hxs, hys⟩ := ih h.2
      exact ⟨i :: js, ks, rfl, by rw [trace_cons, h.1, hxs], hys⟩

/-- The events before an event of the history and the events after it. -/
theorem trace_eq_append_cons {xs ys : List (σ × ι × ο)} {e : σ × ι × ο}
    (h : M.trace s is = xs ++ e :: ys) : ∃ js i ks, is = js ++ i :: ks ∧ xs = M.trace s js
      ∧ e = (M.exec s js, i, M.out (M.exec s js) i)
      ∧ ys = M.trace (M.next (M.exec s js) i) ks := by
  obtain ⟨js, ks, rfl, hxs, hrest⟩ := M.trace_eq_append h
  cases ks with
  | nil => simp at hrest
  | cons i ks =>
    rw [trace_cons, List.cons.injEq] at hrest
    exact ⟨js, i, ks, rfl, hxs, hrest.1, hrest.2⟩

theorem meets_append {P : σ → ι → Prop} {js : List ι} :
    M.Meets P s (is ++ js) ↔ M.Meets P s is ∧ M.Meets P (M.exec s is) js := by
  induction is generalizing s with
  | nil => simp [Meets]
  | cons i is ih => simp [Meets, ih, and_assoc]

/-- The steps of a run meet a condition exactly when the events of its history do. -/
theorem meets_iff_trace {P : σ → ι → Prop} : M.Meets P s is ↔ ∀ e ∈ M.trace s is, P e.1 e.2.1 := by
  induction is generalizing s with
  | nil => simp [Meets]
  | cons i is ih => rw [Meets, ih, trace_cons, List.forall_mem_cons]

/-- A condition that every step with one of the inputs meets. -/
theorem meets_of_forall_mem {P : σ → ι → Prop} (h : ∀ i ∈ is, ∀ s, P s i) : M.Meets P s is := by
  induction is generalizing s with
  | nil => trivial
  | cons i is ih =>
    rw [List.forall_mem_cons] at h
    exact ⟨h.1 s, ih h.2⟩

theorem meets_of_forall {P : σ → ι → Prop} (h : ∀ s i, P s i) (s : σ) (is : List ι) :
    M.Meets P s is := M.meets_of_forall_mem (fun i _ s => h s i)

/-! ### The induction rules -/

/-- **Invariant rule under a step condition.** -/
theorem exec_invariant_of_meets {P : σ → ι → Prop} {I : σ → Prop}
    (hstep : ∀ s i, P s i → I s → I (M.next s i))
    (hmeets : M.Meets P s is) (h : I s) : I (M.exec s is) := by
  induction is generalizing s with
  | nil => exact h
  | cons i is ih => exact ih hmeets.2 (hstep s i hmeets.1 h)

/-- **Invariant rule.** What every step keeps holds after every run. -/
theorem exec_invariant {I : σ → Prop} (hstep : ∀ s i, I s → I (M.next s i)) (h : I s) (is : List ι) : I (M.exec s is) :=
  M.exec_invariant_of_meets (P := fun _ _ => True) (fun s i _ => hstep s i)
    (M.meets_of_forall (fun _ _ => trivial) s is) h

/-- **Two-state rule.** A reflexive, transitive relation between the ends of every step that
meets `P` relates the ends of every such run. -/
theorem exec_related {P : σ → ι → Prop} {R : σ → σ → Prop} (hrefl : ∀ s, R s s)
    (htrans : ∀ {a b c}, R a b → R b c → R a c) (hstep : ∀ s i, P s i → R s (M.next s i))
    (hmeets : M.Meets P s is) : R s (M.exec s is) := by
  induction is generalizing s with
  | nil => exact hrefl s
  | cons i is ih => exact htrans (hstep s i hmeets.1) (ih hmeets.2)

/-- **History rule under a step condition.** -/
theorem trace_invariant_of_meets {P : σ → ι → Prop} {I : List (σ × ι × ο) → σ → Prop}
    (hstep : ∀ h s i, P s i → I h s → I (h ++ [(s, i, M.out s i)]) (M.next s i)) (h0 : I [] s) (hmeets : M.Meets P s is) :
    I (M.trace s is) (M.exec s is) := by
  induction is using List.reverseRecOn with
  | nil => exact h0
  | append_singleton is i ih =>
    rw [meets_append] at hmeets
    rw [trace_concat, exec_concat]
    exact hstep _ _ _ hmeets.2.1 (ih hmeets.1)

/-- **History rule.** An invariant of history and state that each step keeps, the step being
recorded, holds of the history and the end of every run. -/
theorem trace_invariant {I : List (σ × ι × ο) → σ → Prop}
    (hstep : ∀ h s i, I h s → I (h ++ [(s, i, M.out s i)]) (M.next s i)) (h0 : I [] s) (is : List ι) : I (M.trace s is) (M.exec s is) :=
  M.trace_invariant_of_meets (P := fun _ _ => True) (fun h s i _ => hstep h s i) h0
    (M.meets_of_forall (fun _ _ => trivial) s is)

section

variable {Q : σ → Prop} {crosses : σ × ι × ο → Bool}

/-- **Crossing rule.**  Of what stays true once it is, one step of a run makes it true. -/
theorem countP_trace_crossing (hkeep : ∀ s i, Q s → Q (M.next s i))
    (hcrosses : ∀ e, crosses e = true ↔ ¬ Q e.1 ∧ Q (M.next e.1 e.2.1)) {s : σ} {is : List ι}
    (h0 : ¬ Q s) (h1 : Q (M.exec s is)) : (M.trace s is).countP crosses = 1 := by
  -- once it holds, no step makes it true
  have hafter : ∀ (is : List ι) (s : σ), Q s → (M.trace s is).countP crosses = 0 := by
    intro is
    induction is with
    | nil => exact fun _ _ => rfl
    | cons i is ih =>
      intro s h
      have hnot : ¬ crosses (s, i, M.out s i) = true := fun hc => ((hcrosses _).mp hc).1 h
      rw [trace_cons, List.countP_cons_of_neg hnot]
      exact ih _ (hkeep s i h)
  induction is generalizing s with
  | nil => exact absurd h1 h0
  | cons i is ih =>
    by_cases hnext : Q (M.next s i)
    · rw [trace_cons, List.countP_cons_of_pos ((hcrosses _).mpr ⟨h0, hnext⟩), hafter _ _ hnext]
    · have hnot : ¬ crosses (s, i, M.out s i) = true := fun hc => hnext ((hcrosses _).mp hc).2
      rw [trace_cons, List.countP_cons_of_neg hnot]
      exact ih hnext h1

end

/-- When related states step to related states, runs keep them related. -/
theorem exec_of_simulation {N : Machine τ ι ο} {R : σ → τ → Prop}
    (hnext : ∀ s t i, R s t → R (M.next s i) (N.next t i)) {t : τ} (h : R s t) (is : List ι) : R (M.exec s is) (N.exec t is) := by
  induction is generalizing s t with
  | nil => exact h
  | cons i is ih => exact ih (hnext s t i h)

/-- **Simulation rule.** When related states answer alike and step to related states, related
states answer every list of inputs alike. -/
theorem outputs_eq_of_simulation {N : Machine τ ι ο} {R : σ → τ → Prop}
    (hout : ∀ s t i, R s t → M.out s i = N.out t i)
    (hnext : ∀ s t i, R s t → R (M.next s i) (N.next t i)) {t : τ} (h : R s t) (is : List ι) : M.outputs s is = N.outputs t is := by
  induction is generalizing s t with
  | nil => rfl
  | cons i is ih => simp only [outputs, hout s t i h, ih (hnext s t i h)]

end Machine

end PyModel
