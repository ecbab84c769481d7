import FuturesAgentOs.PyModel.Text
import Mathlib.Data.List.Forall2

namespace PyModel

/-!
# Exceptions, checks and frozen dataclasses

A call that may raise is `Py α := Except PyException α`.  A frozen dataclass is a record of
fields together with what its `__post_init__` checks:

* `Frozen φ` — the instances of a dataclass with fields `φ`.  The check is a field of the
  structure, so an instance that was never validated cannot be written down;
* `Frozen.make`, `Frozen.replace` — the constructor and `dataclasses.replace`, which runs
  `__post_init__` again.
-/

/-- The exception classes raised by the modelled code. -/
inductive ExceptionKind where
  | assertionError
  | attributeError
  | budgetExceeded
  | connectionError
  | decimalOverflow
  | divisionByZero
  | fileExistsError
  | fileNotFoundError
  | indexError
  | invalidOperation
  | jsonDecodeError
  | keyError
  | osError
  | overflowError
  | permissionError
  | recursionError
  | runtimeError
  | stopIteration
  | timeoutError
  | typeError
  | unicodeEncodeError
  | valueError
  deriving DecidableEq

/-- A raised exception: its class and its message. -/
structure PyException where
  /-- The class. -/
  kind : ExceptionKind
  /-- `str(exception)` -/
  message : Text
  deriving DecidableEq

/-- The result of a call: a value, or a raised exception. -/
abbrev Py (α : Type) := Except PyException α

/-- `ValueError(message)` -/
def valueError (message : Text) : PyException := ⟨.valueError, message⟩

/-- `TypeError(message)` -/
def typeError (message : Text) : PyException := ⟨.typeError, message⟩

/-- `except (TypeError, ValueError)`, subclasses included. -/
def IsTypeOrValueError (e : PyException) : Prop :=
  e.kind ∈ [ExceptionKind.typeError, .valueError, .jsonDecodeError, .unicodeEncodeError]

instance (e : PyException) : Decidable (IsTypeOrValueError e) :=
  inferInstanceAs (Decidable (_ ∈ _))

/-- `except RuntimeError, TimeoutError, ConnectionError`, subclasses included. -/
def IsTransientError (e : PyException) : Prop :=
  e.kind ∈ [ExceptionKind.runtimeError, .recursionError, .budgetExceeded, .timeoutError,
    .connectionError]

instance (e : PyException) : Decidable (IsTransientError e) := inferInstanceAs (Decidable (_ ∈ _))

/-- **Sequencing**, whatever the errors are. -/
theorem except_bind_eq_ok {ε α β : Type} {x : Except ε α} {f : α → Except ε β} {b : β} :
    (x >>= f) = .ok b ↔ ∃ a, x = .ok a ∧ f a = .ok b := by
  cases x with
  | error e => simp [bind, Except.bind]
  | ok a => simp [bind, Except.bind]

namespace Py

variable {α β : Type}

/-- The call raised. -/
def Raises (x : Py α) : Prop := ∃ e, x = .error e

@[simp] theorem raises_error (e : PyException) : Raises (.error e : Py α) := ⟨e, rfl⟩

@[simp] theorem not_raises_ok (a : α) : ¬ Raises (.ok a : Py α) := by rintro ⟨e, ⟨⟩⟩

variable {x : Py α} {l : List α} {bs : List β}

theorem not_raises_iff : ¬ x.Raises ↔ ∃ a, x = .ok a := by
  cases x <;> simp

instance (x : Py α) : Decidable x.Raises :=
  match x with
  | .ok a => isFalse (not_raises_ok a)
  | .error e => isTrue (raises_error e)

/-- A sequence of two calls returns exactly when both do. -/
theorem bind_eq_ok {f : α → Py β} {b : β} : (x >>= f) = .ok b ↔ ∃ a, x = .ok a ∧ f a = .ok b :=
  except_bind_eq_ok

/-- What a sequence that returned went through. -/
theorem of_bind {f : α → Py β} {b : β} (h : (x >>= f) = .ok b) : ∃ a, x = .ok a ∧ f a = .ok b :=
  bind_eq_ok.mp h

/-- A sequence of calls that return returns. -/
theorem exists_bind {f : α → Py β} (hx : ∃ a, x = .ok a)
    (hf : ∀ a, x = .ok a → ∃ b, f a = .ok b) : ∃ b, (x >>= f) = .ok b := by
  obtain ⟨a, hx⟩ := hx
  obtain ⟨b, hb⟩ := hf a hx
  exact ⟨b, bind_eq_ok.mpr ⟨a, hx, hb⟩⟩

@[simp] theorem ok_bind (a : α) (f : α → Py β) : ((.ok a : Py α) >>= f) = f a := rfl

@[simp] theorem error_bind (e : PyException) (f : α → Py β) :
    ((.error e : Py α) >>= f) = .error e := rfl

/-- A check passes on a list when it passes on each item. -/
theorem forM_eq_ok {f : α → Py Unit} {u : Unit} : l.forM f = .ok u ↔ ∀ a ∈ l, f a = .ok () := by
  induction l with
  | nil => exact ⟨fun _ a ha => absurd ha List.not_mem_nil, fun _ => rfl⟩
  | cons a l ih =>
    rw [List.forM_eq_forM, List.forM_cons, bind_eq_ok, List.forall_mem_cons, ← ih]
    exact ⟨fun ⟨_, ha, hl⟩ => ⟨ha, hl⟩, fun ⟨ha, hl⟩ => ⟨(), ha, hl⟩⟩

/-- A function of the answer of a sequence is one of the answer of its last call. -/
theorem map_bind {γ : Type} (x : Py α) (f : α → Py β) (g : β → γ) :
    (x >>= f).map g = x >>= fun a => (f a).map g := by
  cases x <;> rfl

/-- The value of a call that returns. -/
def value [Inhabited α] : Py α → α
  | .ok a => a
  | .error _ => default

theorem eq_ok_value [Inhabited α] (h : ∃ a, x = .ok a) : x = .ok x.value := by
  obtain ⟨a, rfl⟩ := h
  rfl

theorem pure_eq_ok (a : α) : (pure a : Py α) = .ok a := rfl

/-- **A call on every item of a list** returns what it returns on each of them. -/
theorem mapM_eq_ok_iff {f : α → Py β} : l.mapM f = .ok bs ↔ l.map f = bs.map .ok := by
  induction l generalizing bs with
  | nil => cases bs <;> simp [pure_eq_ok]
  | cons a l ih =>
    rw [List.mapM_cons, bind_eq_ok, List.map_cons]
    constructor
    · rintro ⟨b, hb, h⟩
      obtain ⟨rest, hrest, h⟩ := bind_eq_ok.mp h
      obtain rfl : b :: rest = bs := Except.ok.inj h
      rw [hb, ih.mp hrest, List.map_cons]
    · intro h
      rcases bs with _ | ⟨b, rest⟩
      · cases h
      obtain ⟨hb, hrest⟩ := List.cons.inj h
      exact ⟨b, hb, by rw [ih.mpr hrest]; rfl⟩

theorem mapM_eq_ok {f : α → Py β} {g : α → β} (h : ∀ a ∈ l, f a = .ok (g a)) :
    l.mapM f = .ok (l.map g) :=
  mapM_eq_ok_iff.mpr ((List.map_congr_left h).trans List.map_map.symm)

/-- A call that returns on each item of a list returns on the list. -/
theorem exists_mapM {f : α → Py β} (h : ∀ a ∈ l, ∃ b, f a = .ok b) : ∃ bs, l.mapM f = .ok bs := by
  induction l with
  | nil => exact ⟨[], rfl⟩
  | cons a l ih =>
    rw [List.forall_mem_cons] at h
    obtain ⟨b, hb⟩ := h.1
    obtain ⟨bs, hbs⟩ := ih h.2
    exact ⟨b :: bs, by rw [List.mapM_cons, hb, ok_bind, hbs, ok_bind]; rfl⟩

/-- Calls that agree on the items of a list agree on the list. -/
theorem mapM_congr_left {f g : α → Py β} (h : ∀ a ∈ l, f a = g a) : l.mapM f = l.mapM g := by
  induction l with
  | nil => rfl
  | cons a l ih =>
    rw [List.forall_mem_cons] at h
    rw [List.mapM_cons, List.mapM_cons, h.1, ih h.2]

/-- When a call on every item of a list returns, it returns on each of them. -/
theorem mem_of_mapM {f : α → Py β} (h : l.mapM f = .ok bs) : ∀ a ∈ l, ∃ b ∈ bs, f a = .ok b := by
  intro a ha
  have hmem : f a ∈ bs.map .ok := mapM_eq_ok_iff.mp h ▸ List.mem_map_of_mem ha
  obtain ⟨b, hb, hf⟩ := List.mem_map.mp hmem
  exact ⟨b, hb, hf.symm⟩

/-- Every answer is the answer for some item. -/
theorem exists_of_mem_mapM {f : α → Py β} (h : l.mapM f = .ok bs) :
    ∀ b ∈ bs, ∃ a ∈ l, f a = .ok b := by
  intro b hb
  have hmem : .ok b ∈ l.map f := mapM_eq_ok_iff.mp h ▸ List.mem_map_of_mem hb
  exact List.mem_map.mp hmem

/-- The answers of a call on every item of a list, item by item. -/
theorem forall₂_of_mapM {f : α → Py β} (h : l.mapM f = .ok bs) :
    List.Forall₂ (fun a b => f a = .ok b) l bs := by
  have heq : List.Forall₂ Eq (l.map f) (bs.map .ok) := by
    rw [List.forall₂_eq_eq_eq, mapM_eq_ok_iff.mp h]
  rwa [List.forall₂_map_left_iff, List.forall₂_map_right_iff] at heq

/-- Calls with different answers are calls on different items. -/
theorem pairwise_of_mapM {f : α → Py β} (h : l.mapM f = .ok bs)
    (hnodup : bs.Nodup) : l.Pairwise fun a a' => ∀ b, f a = .ok b → f a' ≠ .ok b := by
  have hanswers : (l.map f).Nodup :=
    mapM_eq_ok_iff.mp h ▸ List.Pairwise.map _ (fun _ _ hne heq => hne (Except.ok.inj heq)) hnodup
  exact (List.pairwise_map.mp hanswers).imp fun hne b hb hb' => hne (hb.trans hb'.symm)

section

variable {γ δ : Type} {y : Py α} {p : α → γ} {q : β → δ}

/-- Sequences that agree, when what agrees of the first calls settles what agrees of the others. -/
theorem map_bind_congr {f g : α → Py β} (hxy : x.map p = y.map p)
    (hfg : ∀ a a', p a = p a' → (f a).map q = (g a').map q) : (x >>= f).map q = (y >>= g).map q := by
  rcases x with e | a
  · rcases y with e' | a'
    · obtain rfl : e = e' := Except.error.inj hxy
      rfl
    · cases hxy
  · rcases y with e' | a'
    · cases hxy
    · exact hfg a a' (Except.ok.inj hxy)

/-- Calls that agree on something raise alike. -/
theorem agree_of_map_eq (h : x.map p = y.map p) :
    (∀ e, x = .error e ↔ y = .error e) ∧ ∀ a a', x = .ok a → y = .ok a' → p a = p a' := by
  rcases x with e | a <;> rcases y with e' | a'
  · obtain rfl : e = e' := Except.error.inj h
    simp
  · cases h
  · cases h
  · simpa using Except.ok.inj h

/-- Calls that agree on the items of a list agree on the list. -/
theorem map_mapM_congr {f g : α → Py β} (h : ∀ a ∈ l, (f a).map q = (g a).map q) :
    (l.mapM f).map (List.map q) = (l.mapM g).map (List.map q) := by
  induction l with
  | nil => rfl
  | cons a l ih =>
    rw [List.forall_mem_cons] at h
    rw [List.mapM_cons, List.mapM_cons]
    refine map_bind_congr h.1 fun b b' hb => map_bind_congr (ih h.2) fun bs bs' hbs => ?_
    show Except.ok (q b :: bs.map q) = .ok (q b' :: bs'.map q)
    rw [hb, hbs]

end

end Py

/-! ### Checks -/

/-- `if not c: raise e` -/
def require (c : Prop) [Decidable c] (e : PyException) : Py Unit :=
  if c then .ok () else .error e

section

variable {c : Prop} [Decidable c] {e : PyException}

@[simp] theorem require_eq_ok {u : Unit} : require c e = .ok u ↔ c := by
  unfold require; split <;> simp_all

theorem require_bind_eq_ok {α : Type} {f : Unit → Py α} {a : α} :
    (require c e >>= f) = .ok a ↔ c ∧ f () = .ok a := by
  rw [Py.bind_eq_ok]
  exact ⟨fun ⟨u, h, hf⟩ => ⟨require_eq_ok.mp h, hf⟩,
    fun ⟨h, hf⟩ => ⟨(), require_eq_ok.mpr h, hf⟩⟩

theorem of_require {α : Type} {f : Unit → Py α} {a : α} (h : (require c e >>= f) = .ok a) :
    c ∧ f () = .ok a :=
  require_bind_eq_ok.mp h

theorem require_of_pos (h : c) : require c e = .ok () := require_eq_ok.mpr h

theorem require_of_neg (h : ¬ c) : require c e = .error e := if_neg h

/-- A sequence of checks passes exactly when the first and the rest do. -/
theorem check_bind_eq_ok {x : Py Unit} {f : Unit → Py Unit} {u : Unit} :
    (x >>= f) = .ok u ↔ x = .ok () ∧ f () = .ok u := by
  rw [Py.bind_eq_ok]
  constructor
  · rintro ⟨a, hx, hf⟩
    exact ⟨hx, hf⟩
  · rintro ⟨hx, hf⟩
    exact ⟨(), hx, hf⟩

end

/-- `if x is not None: check(x)` -/
def whenSome {α : Type} (x : Option α) (check : α → Py Unit) : Py Unit :=
  match x with
  | some a => check a
  | none => .ok ()

@[simp] theorem whenSome_eq_ok {α : Type} {x : Option α} {check : α → Py Unit} {u : Unit} :
    whenSome x check = .ok u ↔ ∀ a ∈ x, check a = .ok () := by
  cases x <;> simp [whenSome]

/-! ### What a check raises -/

/-- Every exception the call may raise has a property. -/
def Py.OnlyRaises {α : Type} (P : PyException → Prop) (x : Py α) : Prop :=
  ∀ e, x = .error e → P e

namespace Py.OnlyRaises

variable {α β : Type} {P : PyException → Prop}

theorem ok (a : α) : OnlyRaises P (.ok a : Py α) := by
  intro e h
  cases h

theorem bind {x : Py α} {f : α → Py β} (hx : OnlyRaises P x)
    (hf : ∀ a, OnlyRaises P (f a)) : OnlyRaises P (x >>= f) := by
  intro e h
  rcases x with e' | a
  · exact hx e (by simpa using h)
  · exact hf a e h

theorem foldlM {γ : Type} {f : γ → α → Py γ} {l : List α}
    (hf : ∀ c a, OnlyRaises P (f c a)) {c : γ} : OnlyRaises P (l.foldlM f c) := by
  induction l generalizing c with
  | nil => exact ok c
  | cons a l ih =>
    rw [List.foldlM_cons]
    exact bind (hf c a) fun c' => ih

theorem require {c : Prop} [Decidable c] {e : PyException} (h : P e) :
    OnlyRaises P (PyModel.require c e) := by
  intro e' h'
  unfold PyModel.require at h'
  split at h'
  · cases h'
  · injection h' with h'
    exact h' ▸ h

theorem whenSome {x : Option α} {check : α → Py Unit} (h : ∀ a, OnlyRaises P (check a)) :
    OnlyRaises P (PyModel.whenSome x check) := by
  rcases x with _ | a
  · exact ok ()
  · exact h a

end Py.OnlyRaises

/-! ### Frozen dataclasses -/

/-- A record type with the checks of its dataclass. -/
class Dataclass (φ : Type) where
  /-- `__post_init__` -/
  postInit : φ → Py Unit

export Dataclass (postInit)

/-- An instance of the dataclass with fields `φ`: its checks passed. -/
structure Frozen (φ : Type) [Dataclass φ] where
  /-- The fields. -/
  fields : φ
  /-- `__post_init__` did not raise. -/
  valid : postInit fields = .ok ()

namespace Frozen

variable {φ : Type} [Dataclass φ]

variable {r : Frozen φ} {f : φ}

@[ext] theorem ext {s : Frozen φ} (h : r.fields = s.fields) : r = s := by
  cases r; cases s; cases h; rfl

instance [DecidableEq φ] : DecidableEq (Frozen φ) := fun r s =>
  decidable_of_iff (r.fields = s.fields) ⟨Frozen.ext, fun h => h ▸ rfl⟩

/-- The constructor. -/
def make (f : φ) : Py (Frozen φ) :=
  match h : postInit f with
  | .ok () => .ok ⟨f, h⟩
  | .error e => .error e

/-- `dataclasses.replace(r, …)`, the changes given as a function on the fields. -/
def replace (r : Frozen φ) (g : φ → φ) : Py (Frozen φ) := make (g r.fields)

theorem make_of_valid (h : postInit f = .ok ()) : make f = .ok ⟨f, h⟩ := by
  unfold make; split
  · rfl
  · rename_i h'; rw [h] at h'; cases h'

theorem make_of_error {e : PyException} (h : postInit f = .error e) : make f = .error e := by
  unfold make; split
  · rename_i h'; rw [h] at h'; cases h'
  · rename_i h'; rw [h] at h'; injection h' with he; rw [he]

/-- **Construction.** The constructor returns exactly the instance with the given fields. -/
@[simp] theorem make_eq_ok : make f = .ok r ↔ r.fields = f := by
  constructor
  · intro h
    unfold make at h
    split at h
    · cases h; rfl
    · cases h
  · rintro rfl
    exact make_of_valid r.valid

/-- The constructor raises exactly what `__post_init__` raises. -/
theorem make_eq_error {e : PyException} : make f = .error e ↔ postInit f = .error e := by
  constructor
  · intro h
    cases hp : postInit f with
    | ok u => rw [make_of_valid hp] at h; cases h
    | error e' => rw [make_of_error hp] at h; cases h; rfl
  · exact make_of_error

/-- The constructor returns exactly when `__post_init__` does. -/
theorem exists_make_iff : (∃ r, make f = .ok r) ↔ postInit f = .ok () :=
  ⟨fun ⟨r, h⟩ => by rw [← make_eq_ok.mp h]; exact r.valid, fun h => ⟨_, make_of_valid h⟩⟩

@[simp] theorem replace_eq_ok {s : Frozen φ} {g : φ → φ} :
    r.replace g = .ok s ↔ s.fields = g r.fields := make_eq_ok

end Frozen

end PyModel
