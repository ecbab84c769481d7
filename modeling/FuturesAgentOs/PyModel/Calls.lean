import FuturesAgentOs.PyModel.Exception
import Mathlib.Order.Defs.Unbundled

namespace PyModel

/-!
# Calls on an object

A method that raises leaves what it changed before.  Its outcome is what it answers together with
the object it leaves, and one call after another goes on from there.

* `andThen` — a call, and what follows when it returns;
* `related_andThen` — a transitive relation between the object before and after.
-/

/-- What a call answers, and the object that it leaves. -/
abbrev Outcome (σ α : Type) := Py α × σ

/-- A call, and the rest of the method, which is not reached when the call raises. -/
def andThen {σ α β : Type} (x : Outcome σ α) (f : α → σ → Outcome σ β) : Outcome σ β :=
  match x with
  | (.ok a, s) => f a s
  | (.error e, s) => (.error e, s)

section

variable {σ α β : Type} {f : α → σ → Outcome σ β}

@[simp] theorem andThen_ok (a : α) (s : σ) : andThen (.ok a, s) f = f a s := rfl

@[simp] theorem andThen_error (e : PyException) (s : σ) :
    andThen ((.error e, s) : Outcome σ α) f = (.error e, s) := rfl

end

/-!
## Guards in a row

A method that starts with a list of guards evaluates them in order, and the first one that
answers ends the call; a guard that raises ends it too.

* `allHold` — conditions joined by `and`.

Both are described by what every guard of the list does (`firstAnswer_eq_none`,
`allHold_eq_true`), so a caller reads one guard off by its membership.
-/

namespace Py

variable {α : Type}

/-- The answer of the first guard that has one. -/
def firstAnswer : List (Py (Option α)) → Py (Option α)
  | [] => .ok none
  | guard :: rest => do
    match ← guard with
    | some answer => .ok (some answer)
    | none => firstAnswer rest

/-- `all` of conditions that may raise, the later ones not evaluated after a false one. -/
def allHold : List (Py Bool) → Py Bool
  | [] => .ok true
  | condition :: rest => do
    match ← condition with
    | false => .ok false
    | true => allHold rest

@[simp] theorem firstAnswer_nil : firstAnswer ([] : List (Py (Option α))) = .ok none := rfl

@[simp] theorem allHold_nil : allHold [] = .ok true := rfl

/-- **No guard answers** exactly when each of them lets the call go on. -/
theorem firstAnswer_eq_none {guards : List (Py (Option α))} :
    firstAnswer guards = .ok none ↔ ∀ guard ∈ guards, guard = .ok none := by
  induction guards with
  | nil => simp
  | cons guard rest ih =>
    rw [List.forall_mem_cons, ← ih]
    rcases guard with e | _ | answer
    · simp [firstAnswer]
    · simp [firstAnswer]
    · simp [firstAnswer]

theorem mem_of_firstAnswer {guards : List (Py (Option α))} {answer : α}
    (h : firstAnswer guards = .ok (some answer)) : .ok (some answer) ∈ guards := by
  induction guards with
  | nil => cases h
  | cons guard rest ih =>
    rcases guard with e | _ | first
    · cases h
    · exact List.mem_cons_of_mem _ (ih h)
    · have heq : first = answer := by simpa [firstAnswer] using h
      rw [heq]
      exact List.mem_cons_self

theorem allHold_eq_true {conditions : List (Py Bool)} :
    allHold conditions = .ok true ↔ ∀ condition ∈ conditions, condition = .ok true := by
  induction conditions with
  | nil => simp
  | cons condition rest ih =>
    rw [List.forall_mem_cons, ← ih]
    rcases condition with e | _ | _
    · simp [allHold]
    · simp [allHold]
    · simp [allHold]

end Py

/-!
## Functions that return early

A method of a service goes through its statements in order, each of which may change the service;
a statement may also return from the method, or raise, and what it has changed by then stays
changed.

* `Answers` — a property of every result that is returned on the way.
-/

/-- How a statement ends: the method goes on, returns, or raises. -/
inductive Completion (ρ α : Type) where
  | normal (a : α)
  | returned (result : ρ)
  | raised (e : PyException)

/-- Statements of a method with results in `ρ`, over the state `σ`. -/
def Body (σ ρ α : Type) : Type := σ → Completion ρ α × σ

namespace Body

variable {σ ρ α β : Type}

/-- A statement, and the one after it. -/
def andThen (x : Body σ ρ α) (f : α → Body σ ρ β) : Body σ ρ β := fun s =>
  match x s with
  | (.normal a, s) => f a s
  | (.returned result, s) => (.returned result, s)
  | (.raised e, s) => (.raised e, s)

instance : Monad (Body σ ρ) where
  pure a := fun s => (.normal a, s)
  bind := andThen

/-- `return result` -/
def returns (result : ρ) : Body σ ρ α := fun s => (.returned result, s)

/-- `if c: return result` -/
def returnIf (c : Prop) [Decidable c] (result : ρ) : Body σ ρ Unit := fun s =>
  if c then (.returned result, s) else (.normal (), s)

/-- A call that reads and changes nothing. -/
def lift (x : Py α) : Body σ ρ α := fun s =>
  match x with
  | .ok a => (.normal a, s)
  | .error e => (.raised e, s)

/-- A call of a method that may change the service. -/
def call (f : σ → Py α × σ) : Body σ ρ α := fun s =>
  match f s with
  | (.ok a, s) => (.normal a, s)
  | (.error e, s) => (.raised e, s)

/-- An attribute of the service. -/
def get (f : σ → α) : Body σ ρ α := fun s => (.normal (f s), s)

/-- A change that cannot fail. -/
def modify (f : σ → σ) : Body σ ρ Unit := fun s => (.normal (), f s)

/-- A call of the method: its result, and the service that it leaves. -/
def run (x : Body σ ρ ρ) (s : σ) : Py ρ × σ :=
  match x s with
  | (.normal result, s) => (.ok result, s)
  | (.returned result, s) => (.ok result, s)
  | (.raised e, s) => (.error e, s)

/-! ### How a sequence ends -/

section

variable {x : Body σ ρ α} {f : α → Body σ ρ β} {s s' : σ}

/-- Statements that go on to the end. -/
theorem bind_eq_normal {b : β} : (x >>= f) s = (.normal b, s')
    ↔ ∃ a s₁, x s = (.normal a, s₁) ∧ f a s₁ = (.normal b, s') := by
  show andThen x f s = _ ↔ _
  unfold andThen
  rcases hx : x s with ⟨a | result | e, s₁⟩
  · constructor
    · exact fun h => ⟨a, s₁, rfl, h⟩
    · rintro ⟨a', s₁', heq, h⟩
      cases heq
      exact h
  · simp
  · simp

variable {result : ρ} {a : α}

/-- Statements that return: the first ones, or the later ones. -/
theorem bind_eq_returned : (x >>= f) s = (.returned result, s')
    ↔ x s = (.returned result, s')
      ∨ ∃ a s₁, x s = (.normal a, s₁) ∧ f a s₁ = (.returned result, s') := by
  show andThen x f s = _ ↔ _
  unfold andThen
  rcases hx : x s with ⟨a | result' | e, s₁⟩
  · constructor
    · exact fun h => .inr ⟨a, s₁, rfl, h⟩
    · rintro (h | ⟨a', s₁', heq, h⟩)
      · cases h
      · cases heq
        exact h
  · simp
  · simp

@[simp] theorem pure_eq_normal {a' : α} :
    (pure a : Body σ ρ α) s = (.normal a', s') ↔ a = a' ∧ s = s' := by
  show ((.normal a, s) : Completion ρ α × σ) = _ ↔ _
  simp

@[simp] theorem pure_eq_returned : (pure a : Body σ ρ α) s ≠ (.returned result, s') := by
  show ((.normal a, s) : Completion ρ α × σ) ≠ _
  simp

@[simp] theorem returns_eq_returned {result' : ρ} :
    (returns result : Body σ ρ α) s = (.returned result', s') ↔ result = result' ∧ s = s' := by
  simp [returns]

@[simp] theorem returnIf_eq_normal {c : Prop} [Decidable c] {u : Unit} :
    (returnIf c result : Body σ ρ Unit) s = (.normal u, s') ↔ ¬ c ∧ s = s' := by
  unfold returnIf
  split <;> simp_all

@[simp] theorem returnIf_eq_returned {c : Prop} [Decidable c] {result' : ρ} :
    (returnIf c result : Body σ ρ Unit) s = (.returned result', s')
      ↔ c ∧ result = result' ∧ s = s' := by
  unfold returnIf
  split <;> simp_all

@[simp] theorem lift_eq_returned {y : Py α} : (lift y : Body σ ρ α) s ≠ (.returned result, s') := by
  unfold lift
  split <;> simp

@[simp] theorem call_eq_normal {g : σ → Py α × σ} :
    (call g : Body σ ρ α) s = (.normal a, s') ↔ g s = (.ok a, s') := by
  unfold call
  split <;> simp_all

@[simp] theorem call_eq_returned {g : σ → Py α × σ} :
    (call g : Body σ ρ α) s ≠ (.returned result, s') := by
  unfold call
  split <;> simp

@[simp] theorem get_eq_normal {g : σ → α} :
    (get g : Body σ ρ α) s = (.normal a, s') ↔ g s = a ∧ s = s' := by
  simp [get]

@[simp] theorem get_eq_returned {g : σ → α} : (get g : Body σ ρ α) s ≠ (.returned result, s') := by
  simp [get]

@[simp] theorem modify_eq_returned {g : σ → σ} :
    (modify g : Body σ ρ Unit) s ≠ (.returned result, s') := by
  simp [modify]

/-- A call that answers returned on the way, or went to the end. -/
theorem run_eq_ok {y : Body σ ρ ρ} : y.run s = (.ok result, s')
    ↔ y s = (.returned result, s') ∨ y s = (.normal result, s') := by
  unfold run
  rcases y s with ⟨a | a | e, s₁⟩ <;> simp

end

/-! ### What a body keeps -/

section

variable (R : σ → σ → Prop)

/-- The states before and after are related, however the statements end. -/
def Keeps (x : Body σ ρ α) : Prop := ∀ s, R s (x s).2

variable {R}

theorem Keeps.bind [IsTrans σ R] {x : Body σ ρ α} {f : α → Body σ ρ β} (hx : x.Keeps R)
    (hf : ∀ a, (f a).Keeps R) : (x >>= f).Keeps R := by
  intro s
  show R s (andThen x f s).2
  have hs := hx s
  unfold andThen
  rcases h : x s with ⟨a | result | e, s₁⟩ <;> rw [h] at hs
  · exact IsTrans.trans _ _ _ hs (hf a s₁)
  · exact hs
  · exact hs

theorem Keeps.call {g : σ → Py α × σ} (h : ∀ s, R s (g s).2) :
    (call g : Body σ ρ α).Keeps R := by
  intro s
  have hs := h s
  unfold Body.call
  rcases hg : g s with ⟨e | a, s₁⟩ <;> rw [hg] at hs <;> exact hs

variable [Std.Refl R]

theorem Keeps.pure (a : α) : (Pure.pure a : Body σ ρ α).Keeps R := fun s => refl s

theorem Keeps.returns (result : ρ) : (Body.returns result : Body σ ρ α).Keeps R := fun s => refl s

theorem Keeps.returnIf (c : Prop) [Decidable c] (result : ρ) :
    (Body.returnIf c result : Body σ ρ Unit).Keeps R := by
  intro s
  unfold Body.returnIf
  split <;> exact refl s

theorem Keeps.lift (y : Py α) : (Body.lift y : Body σ ρ α).Keeps R := by
  intro s
  unfold Body.lift
  split <;> exact refl s

theorem Keeps.get (g : σ → α) : (Body.get g : Body σ ρ α).Keeps R := fun s => refl s

end

/-! ### What a body returns -/

section

variable (P : ρ → Prop)

/-- Every result that the statements return has the property. -/
def Answers (x : Body σ ρ α) : Prop :=
  ∀ s result s', x s = (.returned result, s') → P result

variable {P}

theorem Answers.bind {x : Body σ ρ α} {f : α → Body σ ρ β} (hx : x.Answers P)
    (hf : ∀ a, (f a).Answers P) : (x >>= f).Answers P := by
  intro s result s' h
  rcases bind_eq_returned.mp h with h | ⟨a, s₁, -, h⟩
  · exact hx _ _ _ h
  · exact hf a _ _ _ h

theorem Answers.returns {result : ρ} (h : P result) :
    (Body.returns result : Body σ ρ α).Answers P := by
  intro s result' s' heq
  rw [← (returns_eq_returned.mp heq).1]
  exact h

theorem Answers.returnIf {c : Prop} [Decidable c] {result : ρ} (h : P result) :
    (Body.returnIf c result : Body σ ρ Unit).Answers P := by
  intro s result' s' heq
  rw [← (returnIf_eq_returned.mp heq).2.1]
  exact h

theorem Answers.pure {a : α} : (Pure.pure a : Body σ ρ α).Answers P :=
  fun _ _ _ h => absurd h pure_eq_returned

theorem Answers.lift {y : Py α} : (Body.lift y : Body σ ρ α).Answers P :=
  fun _ _ _ h => absurd h lift_eq_returned

theorem Answers.call {g : σ → Py α × σ} : (Body.call g : Body σ ρ α).Answers P :=
  fun _ _ _ h => absurd h call_eq_returned

theorem Answers.get {g : σ → α} : (Body.get g : Body σ ρ α).Answers P :=
  fun _ _ _ h => absurd h get_eq_returned

theorem Answers.modify {g : σ → σ} : (Body.modify g : Body σ ρ Unit).Answers P :=
  fun _ _ _ h => absurd h modify_eq_returned

end

end Body

end PyModel
