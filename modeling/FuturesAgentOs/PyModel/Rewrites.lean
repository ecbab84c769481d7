import FuturesAgentOs.PyModel.Dict
import Mathlib.Data.List.Perm.Subperm

namespace PyModel

/-!
# Dictionaries rewritten in place

Much of a service changes the values of a dictionary and leaves its keys.  `d.Rewrites M e` says
that `e` has the keys of `d`, and that each of its values comes from that of `d` by a step of `M`.

* `Rewrites.countP_le` — counting the values with a property before and after;
* `items_update_of_fresh` — assignments to new keys.
-/

namespace Dict

variable {κ α : Type*} [DecidableEq κ] {M : α → α → Prop} {d e f : Dict κ α}

/-- `e` is `d` with values rewritten by steps of `M`. -/
structure Rewrites (M : α → α → Prop) (d e : Dict κ α) : Prop where
  keys : e.keys = d.keys
  move : ∀ k v, d.get? k = some v → ∃ w, e.get? k = some w ∧ M v w

theorem rewrites_refl (hrefl : ∀ v, M v v) (d : Dict κ α) : d.Rewrites M d :=
  ⟨rfl, fun _ v h => ⟨v, h, hrefl v⟩⟩

theorem Rewrites.trans (htrans : ∀ {u v w}, M u v → M v w → M u w) (h : d.Rewrites M e)
    (h' : e.Rewrites M f) : d.Rewrites M f := by
  refine ⟨h'.keys.trans h.keys, fun k u hu => ?_⟩
  obtain ⟨v, hv, huv⟩ := h.move k u hu
  obtain ⟨w, hw, hvw⟩ := h'.move k v hv
  exact ⟨w, hw, htrans huv hvw⟩

theorem Rewrites.mono {N : α → α → Prop} (h : d.Rewrites M e) (hMN : ∀ {v w}, M v w → N v w) :
    d.Rewrites N e :=
  ⟨h.keys, fun k v hv => let ⟨w, hw, hvw⟩ := h.move k v hv; ⟨w, hw, hMN hvw⟩⟩

/-- A value afterwards comes from one before. -/
theorem Rewrites.back (h : d.Rewrites M e) {k : κ} {w : α} (hw : e.get? k = some w) :
    ∃ v, d.get? k = some v ∧ M v w := by
  have hk : k ∈ d.keys := by
    rw [← h.keys]
    exact mem_keys_iff.mpr ⟨w, hw⟩
  obtain ⟨v, hv⟩ := mem_keys_iff.mp hk
  obtain ⟨w', hw', hM⟩ := h.move k v hv
  obtain rfl := Option.some.inj (hw.symm.trans hw')
  exact ⟨v, hv, hM⟩

/-- Assigning to a present key. -/
theorem rewrites_set (hrefl : ∀ v, M v v) {k : κ} {v w : α} (hv : d.get? k = some v)
    (hM : M v w) : d.Rewrites M (d.set k w) := by
  refine ⟨keys_set_of_some hv, fun a u hu => ?_⟩
  rw [get?_set]
  split
  · rename_i heq
    subst heq
    obtain rfl := Option.some.inj (hu.symm.trans hv)
    exact ⟨w, rfl, hM⟩
  · exact ⟨u, hu, hrefl u⟩

theorem rewrites_sweep (hrefl : ∀ v, M v v) {g : κ → α → Option α}
    (hM : ∀ k v w, d.get? k = some v → g k v = some w → M v w) : d.Rewrites M (d.sweep g) := by
  refine ⟨?_, fun k v hv => ?_⟩
  · rw [keys, items_sweep, List.map_map]
    rfl
  · rw [get?_sweep, hv, Option.map_some]
    refine ⟨(g k v).getD v, rfl, ?_⟩
    rcases hg : g k v with _ | w
    · exact hrefl v
    · exact hM k v w hv hg

/-- Assigning to present keys, each once. -/
theorem rewrites_update (hrefl : ∀ v, M v v) {items : List (κ × α)}
    (hnodup : (items.map Prod.fst).Nodup)
    (hM : ∀ p ∈ items, ∃ v, d.get? p.1 = some v ∧ M v p.2) : d.Rewrites M (d.update items) := by
  induction items generalizing d with
  | nil => exact rewrites_refl hrefl d
  | cons p rest ih =>
    rw [List.map_cons, List.nodup_cons] at hnodup
    rw [List.forall_mem_cons] at hM
    obtain ⟨⟨v, hv, hvp⟩, hrest⟩ := hM
    have hothers : ∀ q ∈ rest, (d.set p.1 p.2).get? q.1 = d.get? q.1 := fun q hq =>
      get?_set_of_ne d p.2 fun heq => hnodup.1 (heq ▸ List.mem_map_of_mem hq)
    have htail := ih (d := d.set p.1 p.2) hnodup.2
      fun q hq => by rw [hothers q hq]; exact hrest q hq
    have hhead : d.Rewrites M (d.set p.1 p.2) := rewrites_set hrefl hv hvp
    rw [update_cons]
    refine ⟨htail.keys.trans hhead.keys, fun k u hu => ?_⟩
    by_cases hk : k = p.1
    · subst hk
      obtain rfl := Option.some.inj (hu.symm.trans hv)
      rw [get?_update_of_not_mem _ hnodup.1, get?_set_self]
      exact ⟨p.2, rfl, hvp⟩
    · rw [← get?_set_of_ne d p.2 hk] at hu
      exact htail.move k u hu

/-! ### Counting -/

theorem countP_values (d : Dict κ α) (P : α → Bool) :
    d.values.countP P = d.keys.countP (fun k => (d.get? k).any P) := by
  rw [values, keys, List.countP_map, List.countP_map]
  refine List.countP_congr fun p hp => ?_
  have hget : d.get? p.1 = some p.2 := mem_items_iff.mp hp
  simp [hget]

theorem Rewrites.countP_le (h : d.Rewrites M e) {P : α → Bool} (fresh : List κ)
    (hP : ∀ k v w, d.get? k = some v → e.get? k = some w → P w = true → P v = true ∨ k ∈ fresh) :
    e.values.countP P ≤ d.values.countP P + fresh.length := by
  have hsplit : e.keys.countP (fun k => (e.get? k).any P)
      ≤ e.keys.countP (fun k => (d.get? k).any P || decide (k ∈ fresh)) := by
    refine List.countP_mono_left fun k hk hany => ?_
    obtain ⟨w, hw⟩ := mem_keys_iff.mp hk
    obtain ⟨v, hv, -⟩ := h.back hw
    rw [hw] at hany
    rcases hP k v w hv hw (by simpa using hany) with hv' | hk'
    · simp [hv, hv']
    · simp [hk']
  have hfresh : e.keys.countP (fun k => decide (k ∈ fresh)) ≤ fresh.length := by
    rw [List.countP_eq_length_filter]
    exact (List.subperm_of_subset (e.nodup.filter _)
      fun k hk => of_decide_eq_true (List.mem_filter.mp hk).2).length_le
  have hor : ∀ keys : List κ,
      keys.countP (fun k => (d.get? k).any P || decide (k ∈ fresh))
        ≤ keys.countP (fun k => (d.get? k).any P) + keys.countP (fun k => decide (k ∈ fresh)) := by
    intro keys
    induction keys with
    | nil => simp
    | cons k rest ih =>
      simp only [List.countP_cons]
      by_cases h1 : (d.get? k).any P = true
      · simp only [h1, Bool.true_or, if_true]
        split <;> omega
      · by_cases h2 : k ∈ fresh
        · simp only [h1, h2, decide_true, Bool.or_true, if_true]
          omega
        · simp only [h1, h2, decide_false, Bool.or_false]
          omega
  rw [countP_values e, countP_values d, ← h.keys]
  exact Nat.le_trans (Nat.le_trans hsplit (hor e.keys)) (Nat.add_le_add_left hfresh _)

/-! ### New keys -/

/-- New items go to the end. -/
theorem items_update_of_fresh {items : List (κ × α)} (hnodup : (items.map Prod.fst).Nodup)
    (hfresh : ∀ p ∈ items, d.get? p.1 = none) : (d.update items).items = d.items ++ items := by
  induction items generalizing d with
  | nil => simp
  | cons p rest ih =>
    rw [List.map_cons, List.nodup_cons] at hnodup
    rw [List.forall_mem_cons] at hfresh
    have hrest : ∀ q ∈ rest, (d.set p.1 p.2).get? q.1 = none := by
      intro q hq
      have hne : q.1 ≠ p.1 := fun heq => hnodup.1 (heq ▸ List.mem_map_of_mem hq)
      rw [get?_set_of_ne d p.2 hne]
      exact hfresh.2 q hq
    rw [update_cons, ih hnodup.2 hrest, items_set_of_none hfresh.1, List.append_assoc]
    rfl

end Dict

end PyModel
