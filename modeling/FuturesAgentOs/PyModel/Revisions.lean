import Mathlib.Data.Finset.Max
import Mathlib.Data.List.Nodup
import Mathlib.Data.List.Pairwise
import Mathlib.Logic.Relation

namespace PyModel

/-!
# Lists of at most one member

What a resolution makes of the facts that match: none, one, or a conflict.
-/

section

variable {α : Type} {l : List α}

/-- A list no two members of which can stand in one list, while its members do. -/
theorem length_le_one_of_pairwise {R : α → α → Prop} (hl : l.Pairwise R)
    (h : ∀ a ∈ l, ∀ b ∈ l, ¬ R a b) : l.length ≤ 1 := by
  rcases l with _ | ⟨a, _ | ⟨b, l⟩⟩
  · exact Nat.zero_le 1
  · exact Nat.le_refl 1
  · have hab := List.rel_of_pairwise_cons hl List.mem_cons_self
    exact absurd hab (h a List.mem_cons_self b (List.mem_cons_of_mem _ List.mem_cons_self))

/-- A list of different members any two of which are equal. -/
theorem length_le_one_of_forall_eq (hnodup : l.Nodup) (h : ∀ a ∈ l, ∀ b ∈ l, a = b) :
    l.length ≤ 1 :=
  length_le_one_of_pairwise hnodup fun a ha b hb hne => hne (h a ha b hb)

/-- Two members of a list of at most one. -/
theorem eq_of_length_le_one (h : l.length ≤ 1) {a b : α} (ha : a ∈ l) (hb : b ∈ l) : a = b := by
  rcases l with _ | ⟨c, _ | ⟨d, l⟩⟩
  · cases ha
  · rw [List.mem_singleton.mp ha, List.mem_singleton.mp hb]
  · simp only [List.length_cons] at h
    omega

end

/-!
## Revisions

Items that may each supersede an earlier one.  In a history no item is superseded twice, so what
follows from one item is a line, its lineage, along which the number grows by one.

* `IsHistory.exists_root`, `exists_leaf`, `leaf_unique`, `number_le_leaf` — each lineage of a part
  has one leaf, the item of the highest number.
-/

/-- How items are told apart, which each one supersedes, and how they are numbered. -/
structure Revisions (α ι : Type) where
  id : α → ι
  supersedes : α → Option ι
  number : α → ℤ

namespace Revisions

variable {α ι : Type} (r : Revisions α ι)

/-- An item of a history that supersedes another directly. -/
def Succeeds (h : List α) (x y : α) : Prop := y ∈ h ∧ r.supersedes y = some (r.id x)

/-- One item follows another over any number of revisions. -/
abbrev Lineage (h : List α) : α → α → Prop := Relation.ReflTransGen (r.Succeeds h)

/-- A history. -/
structure IsHistory (h : List α) : Prop where
  ids : (h.map r.id).Nodup
  present : ∀ x ∈ h, ∀ i, r.supersedes x = some i → i ∈ h.map r.id
  noFork : ∀ x ∈ h, ∀ y ∈ h, r.supersedes x ≠ none → r.supersedes x = r.supersedes y → x = y
  increments : ∀ x ∈ h, ∀ y, r.Succeeds h x y → r.number y = r.number x + 1
  positive : ∀ x ∈ h, 1 ≤ r.number x

/-- A part of a history that holds what its items supersede. -/
structure IsPart (h part : List α) : Prop where
  subset : part ⊆ h
  closed : ∀ y ∈ part, ∀ x ∈ h, r.Succeeds h x y → x ∈ part

/-- The items of a part that none of its items supersedes. -/
def leaves [DecidableEq ι] (part : List α) : List α :=
  part.filter (fun x => !part.any (fun y => r.supersedes y = some (r.id x)))

variable {r} {h part : List α} {x y : α}

theorem mem_leaves [DecidableEq ι] :
    x ∈ r.leaves part ↔ x ∈ part ∧ ∀ y ∈ part, r.supersedes y ≠ some (r.id x) := by
  simp [leaves]

theorem mem_history_of_lineage (hl : r.Lineage h x y) (hx : x ∈ h) : y ∈ h := by
  induction hl with
  | refl => exact hx
  | tail _ hstep _ => exact hstep.1

/-- A part that holds an item holds what it revises. -/
theorem IsPart.mem_of_lineage (hp : r.IsPart h part) (hx : x ∈ h) (hl : r.Lineage h x y)
    (hy : y ∈ part) : x ∈ part := by
  induction hl with
  | refl => exact hy
  | tail hl hstep ih => exact ih (hp.closed _ hy _ (mem_history_of_lineage hl hx) hstep)

theorem IsPart.eq_of_lineage_leaf [DecidableEq ι] (hp : r.IsPart h part) {leaf : α} (hleaf : leaf ∈ r.leaves part)
    (hy : y ∈ part) (hl : r.Lineage h leaf y) : y = leaf := by
  obtain ⟨hmem, hlast⟩ := mem_leaves.mp hleaf
  rcases Relation.ReflTransGen.cases_head hl with rfl | ⟨z, hstep, hrest⟩
  · rfl
  · -- the next item would be in the part as well
    have hz := hp.mem_of_lineage hstep.1 hrest hy
    exact absurd hstep.2 (hlast z hz)

namespace IsHistory

variable (hh : r.IsHistory h)
include hh

theorem id_inj (hx : x ∈ h) (hy : y ∈ h) (hid : r.id x = r.id y) : x = y :=
  List.inj_on_of_nodup_map hh.ids hx hy hid

/-- **No item is superseded twice.** -/
theorem rightUnique : Relator.RightUnique (r.Succeeds h) := by
  intro x y z hy hz
  refine hh.noFork y hy.1 z hz.1 ?_ (hy.2.trans hz.2.symm)
  rw [hy.2]
  exact Option.some_ne_none _

/-- Of two items of one lineage, one follows the other. -/
theorem lineage_total {root : α} (hx : r.Lineage h root x) (hy : r.Lineage h root y) :
    r.Lineage h x y ∨ r.Lineage h y x :=
  Relation.ReflTransGen.total_of_right_unique hh.rightUnique hx hy

theorem number_le (hx : x ∈ h) (hl : r.Lineage h x y) : r.number x ≤ r.number y := by
  induction hl with
  | refl => exact le_refl _
  | tail hl hstep ih =>
    have hnumber := hh.increments _ (mem_history_of_lineage hl hx) _ hstep
    omega

/-- **Every item revises a root**, which supersedes nothing. -/
theorem exists_root (hp : r.IsPart h part) (hx : x ∈ part) :
    ∃ root ∈ part, r.supersedes root = none ∧ r.Lineage h root x := by
  -- by induction on the number of the item
  induction hn : (r.number x).toNat using Nat.strong_induction_on generalizing x with
  | _ n ih =>
    rcases hs : r.supersedes x with _ | i
    · exact ⟨x, hx, hs, Relation.ReflTransGen.refl⟩
    · obtain ⟨p, hpmem, rfl⟩ := List.mem_map.mp (hh.present x (hp.subset hx) i hs)
      have hstep : r.Succeeds h p x := ⟨hp.subset hx, hs⟩
      have hnumber := hh.increments p hpmem x hstep
      have hpositive := hh.positive p hpmem
      obtain ⟨root, hroot, hnone, hl⟩ := ih (r.number p).toNat (by omega)
        (hp.closed x hx p hpmem hstep) rfl
      exact ⟨root, hroot, hnone, hl.tail hstep⟩

variable [DecidableEq ι]

/-- **Every item of a part is followed by a leaf.** -/
theorem exists_leaf (hp : r.IsPart h part) (hx : x ∈ part) :
    ∃ leaf ∈ r.leaves part, r.Lineage h x leaf := by
  classical
  -- the item of the highest number among those that follow
  obtain ⟨leaf, hleaf, hmax⟩ := (part.toFinset.filter (r.Lineage h x)).exists_max_image r.number
    ⟨x, Finset.mem_filter.mpr ⟨List.mem_toFinset.mpr hx, Relation.ReflTransGen.refl⟩⟩
  obtain ⟨hmem, hl⟩ := Finset.mem_filter.mp hleaf
  rw [List.mem_toFinset] at hmem
  refine ⟨leaf, mem_leaves.mpr ⟨hmem, fun y hy hs => ?_⟩, hl⟩
  have hstep : r.Succeeds h leaf y := ⟨hp.subset hy, hs⟩
  have hnumber := hh.increments leaf (hp.subset hmem) y hstep
  have hle := hmax y (Finset.mem_filter.mpr ⟨List.mem_toFinset.mpr hy, hl.tail hstep⟩)
  omega

theorem leaf_unique (hp : r.IsPart h part) {root leaf leaf' : α} (hl : r.Lineage h root leaf)
    (hl' : r.Lineage h root leaf') (hleaf : leaf ∈ r.leaves part)
    (hleaf' : leaf' ∈ r.leaves part) : leaf' = leaf := by
  rcases hh.lineage_total hl hl' with hfollows | hfollows
  · exact hp.eq_of_lineage_leaf hleaf (mem_leaves.mp hleaf').1 hfollows
  · exact (hp.eq_of_lineage_leaf hleaf' (mem_leaves.mp hleaf).1 hfollows).symm

/-- **The leaf has the highest number** of its lineage. -/
theorem number_le_leaf (hp : r.IsPart h part) {root leaf : α} (hl : r.Lineage h root leaf)
    (hleaf : leaf ∈ r.leaves part) (hy : y ∈ part) (hly : r.Lineage h root y) :
    r.number y ≤ r.number leaf := by
  rcases hh.lineage_total hl hly with hfollows | hfollows
  · rw [hp.eq_of_lineage_leaf hleaf hy hfollows]
  · exact hh.number_le (hp.subset hy) hfollows

end IsHistory

end Revisions

end PyModel
