import Mathlib.Data.List.Basic
import Mathlib.Logic.Relation
import Mathlib.Order.WellFounded
import Mathlib.Tactic.Common

namespace PyModel

/-!
# Layers of a dependency graph

An acyclic graph of dependencies, cut into layers: the depth of a node is one more than the
greatest depth it depends on.  Work that flows through such a graph layer by layer has to
leave out what depends on a node that went bad.

* `exists_least_depth` — of the nodes with a property, one of least depth;
* `exists_chain` — a node at the head of a chain of dependencies through every layer below.
-/

/-- A graph of dependencies with its depths. -/
structure Layers (κ : Type*) where
  /-- The nodes. -/
  keys : List κ
  /-- What a node depends on. -/
  deps : κ → List κ
  /-- The layer of a node. -/
  depth : κ → ℕ
  /-- Dependencies are nodes. -/
  closed : ∀ k ∈ keys, ∀ d ∈ deps k, d ∈ keys
  /-- The first layer is number one. -/
  depth_pos : ∀ k ∈ keys, 0 < depth k
  /-- A dependency is in an earlier layer. -/
  depth_lt : ∀ k ∈ keys, ∀ d ∈ deps k, depth d < depth k
  /-- Behind the first layer a node depends on one of the layer just below. -/
  exists_below : ∀ k ∈ keys, 1 < depth k → ∃ d ∈ deps k, depth d + 1 = depth k

namespace Layers

variable {κ : Type*} (L : Layers κ)

/-- `d` is a dependency of the node `k`. -/
def DependsOn (k d : κ) : Prop := k ∈ L.keys ∧ d ∈ L.deps k

/-- A bad node is among the dependencies, direct or transitive. -/
def IsSkipped (bad : κ → Prop) (k : κ) : Prop := ∃ d, Relation.TransGen L.DependsOn k d ∧ bad d

/-- The node has dependencies, and those in the layer just below are all left out. -/
def IsOvertaken (bad : κ → Prop) (k : κ) : Prop :=
  k ∈ L.keys ∧ L.deps k ≠ [] ∧ ∀ d ∈ L.deps k, L.depth d + 1 = L.depth k → L.IsSkipped bad d

variable {L} {bad : κ → Prop} {k d : κ}

/-- A node is left out exactly when a dependency is bad or is left out itself. -/
theorem isSkipped_iff :
    L.IsSkipped bad k ↔ k ∈ L.keys ∧ ∃ d ∈ L.deps k, bad d ∨ L.IsSkipped bad d := by
  constructor
  · rintro ⟨d, hreach, hbad⟩
    rcases Relation.TransGen.head'_iff.mp hreach with ⟨c, ⟨hk, hc⟩, hrest⟩
    rcases Relation.reflTransGen_iff_eq_or_transGen.mp hrest with rfl | hrest
    · exact ⟨hk, d, hc, Or.inl hbad⟩
    · exact ⟨hk, c, hc, Or.inr ⟨d, hrest, hbad⟩⟩
  · rintro ⟨hk, d, hd, hbad | ⟨e, hreach, hbad⟩⟩
    · exact ⟨d, Relation.TransGen.single ⟨hk, hd⟩, hbad⟩
    · exact ⟨e, Relation.TransGen.head ⟨hk, hd⟩ hreach, hbad⟩

/-- Leaving out what depends on something left out leaves out nothing more. -/
theorem isSkipped_of_isSkipped {worse : κ → Prop}
    (hworse : ∀ d, worse d → bad d ∨ L.IsSkipped bad d)
    (h : L.IsSkipped worse k) : L.IsSkipped bad k := by
  obtain ⟨d, hreach, hd⟩ := h
  rcases hworse d hd with hbad | ⟨e, hfurther, hbad⟩
  · exact ⟨d, hreach, hbad⟩
  · exact ⟨e, hreach.trans hfurther, hbad⟩

/-- A node whose dependencies lie in the first `r` layers lies in the next one at the latest. -/
theorem depth_le_succ {r : ℕ} (hk : k ∈ L.keys) (h : ∀ d ∈ L.deps k, L.depth d ≤ r) :
    L.depth k ≤ r + 1 := by
  by_contra hdeep
  obtain ⟨d, hd, hbelow⟩ := L.exists_below k hk (by omega)
  have := h d hd
  omega

/-- A node behind layer `r + 1` all of whose dependencies are in the first `r` layers or left
out in layer `r + 1` is overtaken, and it is in layer `r + 2`. -/
theorem isOvertaken_of_deps {r : ℕ} (hk : k ∈ L.keys) (hdeep : r + 1 < L.depth k)
    (h : ∀ d ∈ L.deps k, L.depth d ≤ r ∨ L.depth d = r + 1 ∧ L.IsSkipped bad d) :
    L.IsOvertaken bad k ∧ L.depth k = r + 2 := by
  obtain ⟨d, hd, hbelow⟩ := L.exists_below k hk (by omega)
  have hdepth : L.depth k = r + 2 := by
    rcases h d hd with hle | ⟨heq, -⟩ <;> omega
  refine ⟨⟨hk, List.ne_nil_of_mem hd, fun c hc hcd => ?_⟩, hdepth⟩
  rcases h c hc with hle | ⟨-, hskip⟩
  · omega
  · exact hskip

/-- A node with a dependency is behind the first layer. -/
theorem one_lt_depth (hk : k ∈ L.keys) (h : L.deps k ≠ []) : 1 < L.depth k := by
  obtain ⟨d, hd⟩ := List.exists_mem_of_ne_nil _ h
  have hlt := L.depth_lt k hk d hd
  have hpos := L.depth_pos d (L.closed k hk d hd)
  omega

theorem exists_least_depth (L : Layers κ) {P : κ → Prop} (h : ∃ k, P k) :
    ∃ k, P k ∧ ∀ j, P j → L.depth k ≤ L.depth j := by
  obtain ⟨k, hk, hmin⟩ := (InvImage.wf L.depth Nat.lt_wfRel.wf).has_min {k | P k} h
  exact ⟨k, hk, fun j hj => Nat.le_of_not_lt (hmin j hj)⟩

/-- A node is at the head of a chain of dependencies that is as long as its depth. -/
theorem exists_chain (L : Layers κ) (n : ℕ) :
    ∀ {k : κ}, k ∈ L.keys → L.depth k = n + 1 →
      ∃ rest, (k :: rest).IsChain L.DependsOn ∧ (∀ j ∈ k :: rest, j ∈ L.keys)
        ∧ (k :: rest).length = n + 1 := by
  induction n with
  | zero =>
    intro k hk hdepth
    exact ⟨[], List.IsChain.singleton k, List.forall_mem_singleton.mpr hk, rfl⟩
  | succ n ih =>
    intro k hk hdepth
    obtain ⟨d, hd, hbelow⟩ := L.exists_below k hk (by omega)
    obtain ⟨rest, hchain, hkeys, hlength⟩ := ih (L.closed k hk d hd) (by omega)
    exact ⟨d :: rest, List.isChain_cons_cons.mpr ⟨⟨hk, hd⟩, hchain⟩,
      List.forall_mem_cons.mpr ⟨hk, hkeys⟩, congrArg (· + 1) hlength⟩

end Layers

end PyModel
