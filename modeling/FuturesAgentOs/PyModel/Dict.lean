import Mathlib.Data.List.Nodup
import Mathlib.Data.List.Basic

namespace PyModel

/-!
# Insertion-ordered dictionaries

Python's `dict`: a list of items whose keys are distinct.  Assigning to a present key keeps
its place, assigning to a new key appends.  The distinctness of the keys is a field of the
structure, so every operation below proves it once and no caller proves it again.

* `sweep f` — the loop `for k, v in tuple(d.items()): if … : d[k] = w`;
* `mapValues f` — every value rewritten in its place.  Assigning to a present key and sweeping
  are both of this form (`set_eq_mapValues`, `sweep_eq_mapValues`), so what holds of rewriting
  in place holds of them.
-/

/-- An insertion-ordered dictionary with distinct keys. -/
structure Dict (κ α : Type*) where
  /-- The items, oldest key first. -/
  items : List (κ × α)
  /-- Keys are distinct. -/
  nodup : (items.map Prod.fst).Nodup

namespace Dict

variable {κ α : Type*}

variable {d : Dict κ α} {l : List (κ × α)} {k : κ} {v w : α} {β : Type*}

@[ext] theorem ext {e : Dict κ α} (h : d.items = e.items) : d = e := by
  cases d; cases e; cases h; rfl

/-- The empty dictionary. -/
def empty : Dict κ α := ⟨[], List.nodup_nil⟩

/-- `d.keys()` -/
def keys (d : Dict κ α) : List κ := d.items.map Prod.fst

/-- `d.values()` -/
def values (d : Dict κ α) : List α := d.items.map Prod.snd

instance [DecidableEq κ] [DecidableEq α] : DecidableEq (Dict κ α) := fun d e =>
  decidable_of_iff (d.items = e.items) ⟨Dict.ext, fun h => h ▸ rfl⟩

variable [DecidableEq κ]

/-- `d.get(k)` -/
def get? (d : Dict κ α) (k : κ) : Option α :=
  (d.items.find? (fun p => p.1 = k)).map Prod.snd

/-- The item list of `d[k] = v`. -/
def assign (k : κ) (v : α) : List (κ × α) → List (κ × α)
  | [] => [(k, v)]
  | p :: rest => if p.1 = k then (k, v) :: rest else p :: assign k v rest

theorem mem_keys_assign (k : κ) (v : α) (l : List (κ × α)) (a : κ) :
    a ∈ (assign k v l).map Prod.fst ↔ a = k ∨ a ∈ l.map Prod.fst := by
  induction l with
  | nil => simp [assign]
  | cons p rest ih =>
    by_cases hp : p.1 = k
    · simp [assign, hp]
    · rw [assign, if_neg hp, List.map_cons, List.map_cons, List.mem_cons, List.mem_cons, ih]
      tauto

theorem nodup_assign (k : κ) (v : α) (h : (l.map Prod.fst).Nodup) :
    ((assign k v l).map Prod.fst).Nodup := by
  induction l with
  | nil => simp [assign]
  | cons p rest ih =>
    rw [List.map_cons, List.nodup_cons] at h
    by_cases hp : p.1 = k
    · rw [assign, if_pos hp, List.map_cons, List.nodup_cons]
      exact ⟨hp ▸ h.1, h.2⟩
    · rw [assign, if_neg hp, List.map_cons, List.nodup_cons, mem_keys_assign]
      exact ⟨by simpa [hp] using h.1, ih h.2⟩

/-- `d[k] = v` -/
def set (d : Dict κ α) (k : κ) (v : α) : Dict κ α := ⟨assign k v d.items, nodup_assign k v d.nodup⟩

/-! ### Lookup -/

@[simp] theorem get?_empty (k : κ) : (empty : Dict κ α).get? k = none := rfl

/-- An item of the dictionary is what lookup finds under its key. -/
theorem mem_items_iff : (k, v) ∈ d.items ↔ d.get? k = some v := by
  obtain ⟨l, hl⟩ := d
  induction l with
  | nil => simp [get?]
  | cons p rest ih =>
    obtain ⟨k', v'⟩ := p
    rw [List.map_cons, List.nodup_cons] at hl
    by_cases hk : k' = k
    · subst hk
      have hnot : ∀ w, (k', w) ∉ rest := fun w hw => hl.1 (List.mem_map.mpr ⟨_, hw, rfl⟩)
      simp [get?, hnot, eq_comm]
    · have hne : (k, v) ≠ (k', v') := fun h => hk (congrArg Prod.fst h).symm
      have := ih hl.2
      simp only [get?] at this ⊢
      simp [hk, hne, this]

theorem get?_eq_none_iff : d.get? k = none ↔ k ∉ d.keys := by
  constructor
  · intro h hk
    obtain ⟨p, hp, rfl⟩ := List.mem_map.mp hk
    rw [show p = (p.1, p.2) from rfl, mem_items_iff, h] at hp
    cases hp
  · intro h
    cases hget : d.get? k with
    | none => rfl
    | some v => exact absurd (List.mem_map.mpr ⟨_, mem_items_iff.mpr hget, rfl⟩) h

theorem mem_keys_iff : k ∈ d.keys ↔ ∃ v, d.get? k = some v := by
  rw [← Option.ne_none_iff_exists', Ne, get?_eq_none_iff, not_not]

theorem mem_values_iff : v ∈ d.values ↔ ∃ k, d.get? k = some v := by
  constructor
  · intro h
    obtain ⟨p, hp, rfl⟩ := List.mem_map.mp h
    exact ⟨p.1, mem_items_iff.mp hp⟩
  · rintro ⟨k, hk⟩
    exact List.mem_map.mpr ⟨_, mem_items_iff.mpr hk, rfl⟩

private theorem find?_assign (k a : κ) (v : α) (l : List (κ × α)) :
    ((assign k v l).find? (fun p => p.1 = a)).map Prod.snd
      = if a = k then some v else (l.find? (fun p => p.1 = a)).map Prod.snd := by
  induction l with
  | nil => by_cases h : a = k <;> simp [assign, h, Ne.symm]
  | cons p rest ih =>
    by_cases hp : p.1 = k
    · by_cases h : a = k
      · simp [assign, hp, h]
      · have hk : ¬ k = a := fun e => h e.symm
        have hpa : ¬ p.1 = a := fun e => h (e.symm.trans hp)
        simp [assign, h, hk, hp]
    · by_cases hpa : p.1 = a
      · have h : ¬ a = k := fun e => hp (hpa.trans e)
        simp [assign, hpa, h]
      · simpa [assign, hp, hpa] using ih

/-- Assignment changes exactly one key. -/
theorem get?_set (d : Dict κ α) (k a : κ) (v : α) :
    (d.set k v).get? a = if a = k then some v else d.get? a :=
  find?_assign k a v d.items

@[simp] theorem get?_set_self (d : Dict κ α) (k : κ) (v : α) : (d.set k v).get? k = some v := by
  rw [get?_set, if_pos rfl]

theorem get?_set_of_ne (d : Dict κ α) {a : κ} (v : α) (h : a ≠ k) :
    (d.set k v).get? a = d.get? a := by
  rw [get?_set, if_neg h]

theorem assign_of_not_mem (h : k ∉ l.map Prod.fst) : assign k v l = l ++ [(k, v)] := by
  induction l with
  | nil => rfl
  | cons p rest ih =>
    rw [List.map_cons, List.mem_cons, not_or] at h
    rw [assign, if_neg (fun e => h.1 e.symm), ih h.2, List.cons_append]

/-- A new key goes to the end. -/
theorem items_set_of_none (h : d.get? k = none) : (d.set k v).items = d.items ++ [(k, v)] :=
  assign_of_not_mem (get?_eq_none_iff.mp h)

private theorem assign_of_mem (h : k ∈ l.map Prod.fst) :
    (assign k v l).map Prod.fst = l.map Prod.fst := by
  induction l with
  | nil => simp at h
  | cons p rest ih =>
    by_cases hp : p.1 = k
    · simp [assign, hp]
    · rw [List.map_cons, List.mem_cons] at h
      rw [assign, if_neg hp, List.map_cons, List.map_cons, ih (h.resolve_left (fun e => hp e.symm))]

/-- A present key keeps its place. -/
theorem keys_set_of_some (h : d.get? k = some w) : (d.set k v).keys = d.keys :=
  assign_of_mem (mem_keys_iff.mpr ⟨w, h⟩)

private theorem assign_eq_map (hl : (l.map Prod.fst).Nodup) (h : k ∈ l.map Prod.fst) :
    assign k v l = l.map (fun p => if p.1 = k then (k, v) else p) := by
  induction l with
  | nil => simp at h
  | cons p rest ih =>
    rw [List.map_cons, List.nodup_cons] at hl
    by_cases hp : p.1 = k
    · have hrest : rest.map (fun p => if p.1 = k then (k, v) else p) = rest := by
        refine (List.map_congr_left (fun q hq => ?_)).trans (List.map_id _)
        refine if_neg (fun hqk : q.1 = k => hl.1 ?_)
        rw [hp, ← hqk]
        exact List.mem_map_of_mem hq
      rw [assign, if_pos hp, List.map_cons, if_pos hp, hrest]
    · rw [List.map_cons, List.mem_cons] at h
      rw [assign, if_neg hp, List.map_cons, if_neg hp,
        ih hl.2 (h.resolve_left (fun e => hp e.symm))]

/-- Assigning to a present key rewrites its item in place. -/
theorem items_set_of_some (h : d.get? k = some w) :
    (d.set k v).items = d.items.map (fun p => if p.1 = k then (k, v) else p) :=
  assign_eq_map d.nodup (mem_keys_iff.mpr ⟨w, h⟩)

/-! ### Updating with many items -/

/-- `d.update(…)`: the items assigned one after the other. -/
def update (d : Dict κ α) (items : List (κ × α)) : Dict κ α :=
  items.foldl (fun e p => e.set p.1 p.2) d

@[simp] theorem update_nil (d : Dict κ α) : d.update [] = d := rfl

@[simp] theorem update_cons (d : Dict κ α) (p : κ × α) (items : List (κ × α)) :
    d.update (p :: items) = (d.set p.1 p.2).update items := rfl

/-- A key that is not assigned keeps its value. -/
theorem get?_update_of_not_mem (d : Dict κ α) {items : List (κ × α)}
    (h : k ∉ items.map Prod.fst) : (d.update items).get? k = d.get? k := by
  induction items generalizing d with
  | nil => rfl
  | cons p items ih =>
    rw [List.map_cons, List.mem_cons, not_or] at h
    rw [update_cons, ih _ h.2, get?_set_of_ne d p.2 h.1]

/-- An item with a key of its own is found after the update. -/
theorem get?_update_of_mem (d : Dict κ α) {items : List (κ × α)} {p : κ × α}
    (hnodup : (items.map Prod.fst).Nodup) (h : p ∈ items) :
    (d.update items).get? p.1 = some p.2 := by
  induction items generalizing d with
  | nil => cases h
  | cons q items ih =>
    rw [List.map_cons, List.nodup_cons] at hnodup
    rcases List.mem_cons.mp h with rfl | h
    · rw [update_cons, get?_update_of_not_mem _ hnodup.1, get?_set_self]
    · rw [update_cons, ih _ hnodup.2 h]

/-! ### Rebuilding a dictionary -/

/-- Assigning the items one after the other, each under a new key, rebuilds the dictionary. -/
theorem foldlM_rebuild {ε : Type*} (d : Dict κ α) (g : κ × α → β)
    (f : Dict κ α → β → Except ε (Dict κ α))
    (hf : ∀ e p, p ∈ d.items → e.get? p.1 = none → f e (g p) = .ok (e.set p.1 p.2)) :
    (d.items.map g).foldlM f empty = .ok d := by
  -- the items that are left, after those that are in the dictionary already
  have hrest : ∀ (rest : List (κ × α)) (e : Dict κ α), e.items ++ rest = d.items →
      (rest.map g).foldlM f e = .ok d := by
    intro rest
    induction rest with
    | nil =>
      intro e he
      rw [List.append_nil] at he
      exact congrArg Except.ok (Dict.ext he)
    | cons p rest ih =>
      intro e he
      have hp : p ∈ d.items := by
        rw [← he]
        simp
      have hnodup := d.nodup
      rw [← he, List.map_append, List.map_cons, List.nodup_middle, List.nodup_cons,
        List.mem_append, not_or] at hnodup
      have hnew : e.get? p.1 = none := get?_eq_none_iff.mpr hnodup.1.1
      rw [List.map_cons, List.foldlM_cons, hf e p hp hnew]
      apply ih
      rw [items_set_of_none hnew, List.append_assoc]
      exact he
  exact hrest d.items empty rfl

/-- The same for assignments that cannot fail. -/
theorem foldl_rebuild (d : Dict κ α) (g : κ × α → β) (f : Dict κ α → β → Dict κ α)
    (hf : ∀ e p, p ∈ d.items → f e (g p) = e.set p.1 p.2) : (d.items.map g).foldl f empty = d := by
  have h := d.foldlM_rebuild g (fun e b => (.ok (f e b) : Except Empty (Dict κ α)))
    (fun e p hp _ => congrArg Except.ok (hf e p hp))
  have hpure : ∀ (l : List β) (e : Dict κ α),
      l.foldlM (fun e b => (.ok (f e b) : Except Empty (Dict κ α))) e = .ok (l.foldl f e) := by
    intro l
    induction l with
    | nil => exact fun e => rfl
    | cons b l ih => exact fun e => ih (f e b)
  rw [hpure] at h
  injection h

/-! ### Sweeping over the items -/

/-- The loop `for k, v in tuple(d.items()): if f(k, v) is not None: d[k] = f(k, v)`. -/
def sweep (d : Dict κ α) (f : κ → α → Option α) : Dict κ α :=
  d.items.foldl (fun e p => match f p.1 p.2 with
    | some w => e.set p.1 w
    | none => e) d

private theorem assign_append_cons {pre rest : List (κ × α)}
    (h : k ∉ pre.map Prod.fst) : assign k w (pre ++ (k, v) :: rest) = pre ++ (k, w) :: rest := by
  induction pre with
  | nil => simp [assign]
  | cons p pre ih =>
    rw [List.map_cons, List.mem_cons, not_or] at h
    rw [List.cons_append, assign, if_neg (fun e => h.1 e.symm), ih h.2, List.cons_append]

private theorem items_foldl_sweep (f : κ → α → Option α) (rest : List (κ × α)) :
    ∀ (pre : List (κ × α)) (e : Dict κ α), e.items = pre ++ rest →
      (rest.foldl (fun e p => match f p.1 p.2 with
        | some w => e.set p.1 w
        | none => e) e).items
        = pre ++ rest.map (fun p => (p.1, (f p.1 p.2).getD p.2)) := by
  induction rest with
  | nil => intro pre e he; simpa using he
  | cons p rest ih =>
    intro pre e he
    obtain ⟨k, v⟩ := p
    rw [List.foldl_cons, List.map_cons, List.append_cons]
    cases hf : f k v with
    | none =>
      refine ih _ _ ?_
      simpa [hf] using he
    | some w =>
      refine ih _ _ ?_
      have hnot : k ∉ pre.map Prod.fst := by
        have hnd := e.nodup
        rw [he, List.map_append, List.nodup_append] at hnd
        exact fun hk => hnd.2.2 k hk k (by simp) rfl
      simp only [set, he, assign_append_cons hnot]
      simp

theorem items_sweep (d : Dict κ α) (f : κ → α → Option α) :
    (d.sweep f).items = d.items.map (fun p => (p.1, (f p.1 p.2).getD p.2)) :=
  items_foldl_sweep f d.items [] d rfl

/-! ### Rewriting in place -/

/-- Every value rewritten in its place. -/
def mapValues (d : Dict κ α) (f : κ → α → α) : Dict κ α where
  items := d.items.map (fun p => (p.1, f p.1 p.2))
  nodup := by
    have : (d.items.map (fun p => (p.1, f p.1 p.2))).map Prod.fst = d.items.map Prod.fst := by
      rw [List.map_map]; rfl
    rw [this]; exact d.nodup

theorem get?_mapValues (d : Dict κ α) (f : κ → α → α) (k : κ) :
    (d.mapValues f).get? k = (d.get? k).map (f k) := by
  rcases hget : d.get? k with _ | v
  · have hk : k ∉ (d.mapValues f).keys := by
      rw [get?_eq_none_iff] at hget
      simpa [mapValues, keys, Function.comp_def] using hget
    rw [get?_eq_none_iff.mpr hk]; rfl
  · rw [Option.map_some, ← mem_items_iff]
    exact List.mem_map.mpr ⟨(k, v), mem_items_iff.mpr hget, rfl⟩

/-- A rewriting that leaves every value leaves the dictionary. -/
theorem mapValues_eq_self {f : κ → α → α}
    (h : ∀ k v, d.get? k = some v → f k v = v) : d.mapValues f = d := by
  refine Dict.ext ((List.map_congr_left fun p hp => ?_).trans (List.map_id _))
  exact Prod.ext rfl (h p.1 p.2 (mem_items_iff.mp hp))

omit [DecidableEq κ] in
theorem values_mapValues (d : Dict κ α) (f : κ → α → α) :
    (d.mapValues f).values = d.items.map (fun p => f p.1 p.2) := by
  rw [values, mapValues, List.map_map]; rfl

/-- Assigning to a present key is a rewriting in place. -/
theorem set_eq_mapValues (h : d.get? k = some w) :
    d.set k v = d.mapValues (fun a x => if a = k then v else x) := by
  refine Dict.ext ?_
  rw [items_set_of_some h]
  refine List.map_congr_left (fun p _ => ?_)
  by_cases hp : p.1 = k
  · simp [hp]
  · simp [hp]

theorem sweep_eq_mapValues (d : Dict κ α) (f : κ → α → Option α) :
    d.sweep f = d.mapValues (fun k v => (f k v).getD v) :=
  Dict.ext (items_sweep d f)

theorem get?_sweep (d : Dict κ α) (f : κ → α → Option α) (k : κ) :
    (d.sweep f).get? k = (d.get? k).map (fun v => (f k v).getD v) := by
  rw [sweep_eq_mapValues, get?_mapValues]

/-! ### Removing -/

/-- `del d[k]` of a present key. -/
def erase (d : Dict κ α) (k : κ) : Dict κ α where
  items := d.items.filter (fun p => p.1 ≠ k)
  nodup := d.nodup.sublist (List.filter_sublist.map Prod.fst)

/-! ### Groups -/

/-- **Groups.** What a loop that rewrites one key at each turn leaves under a key comes from the
turns of that key. -/
theorem get?_foldl_set (key : β → κ) (f : Option α → β → α) (xs : List β) (d : Dict κ α) (k : κ) :
    (xs.foldl (fun d x => d.set (key x) (f (d.get? (key x)) x)) d).get? k
      = (xs.filter fun x => key x = k).foldl (fun v x => some (f v x)) (d.get? k) := by
  induction xs generalizing d with
  | nil => rfl
  | cons x xs ih =>
    rw [List.foldl_cons, ih, get?_set, List.filter_cons]
    by_cases hk : key x = k
    · subst hk
      simp
    · rw [if_neg (Ne.symm hk), if_neg (by simpa using hk)]

/-- Dictionaries with the same values have the same items, in some order. -/
theorem items_perm_of_get? {e : Dict κ α} (h : ∀ k, d.get? k = e.get? k) :
    d.items.Perm e.items := by
  refine (List.perm_ext_iff_of_nodup d.nodup.of_map e.nodup.of_map).mpr fun p => ?_
  rw [mem_items_iff (k := p.1) (v := p.2), h, ← mem_items_iff]

end Dict

end PyModel
