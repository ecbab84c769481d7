import FuturesAgentOs.PyModel.JsonSurrogates

namespace PyModel

/-!
# Values that are written and read back

`json.loads(json.dumps(v))` for values of any depth whose keys have no surrogate pairs.  Such a
value comes back as it is, up to the order of its members, but for the pairs in its strings,
which are joined.

* `joinTexts` — the value with the pairs of its strings joined;
* `joinTexts_joinTexts` — a value that was read back is read back as it is.
-/

namespace Text

@[simp] theorem joined_joined (t : Text) : t.joined.joined = t.joined :=
  joined_eq_self t.isJsonSafe_joined

theorem joined_cons_of_not_high {c : CodePoint} (hc : Json.isHigh c.val = false) (t : Text) :
    joined (c :: t) = c :: t.joined := by
  rcases t with _ | ⟨d, t⟩
  · rfl
  · rw [joined, if_neg (by simp [hc])]

/-- An ASCII text has no part in the pairs that follow it. -/
theorem joined_append_of_isAscii {s : Text} (hs : s.IsAscii) (t : Text) :
    (s ++ t).joined = s ++ t.joined := by
  induction s with
  | nil => rfl
  | cons c s ih =>
    obtain ⟨hc, hs⟩ := isAscii_cons.mp hs
    have hhigh : Json.isHigh c.val = false := by
      simp only [Json.isHigh, Bool.and_eq_false_iff, decide_eq_false_iff_not]
      omega
    rw [List.cons_append, joined_cons_of_not_high hhigh, ih hs, List.cons_append]

/-- The characters of a joined text are characters of the text, or beyond the basic plane. -/
theorem forall_mem_joined {P : CodePoint → Prop} (hP : ∀ c, 0x10000 ≤ c.val → P c) {t : Text}
    (h : ∀ c ∈ t, P c) : ∀ c ∈ t.joined, P c := by
  induction t using joined.induct with
  | case1 => exact h
  | case2 c => exact h
  | case3 c d rest hpair ih =>
    rw [joined, if_pos hpair, List.forall_mem_cons]
    refine ⟨hP _ ?_, ih fun x hx => h x (List.mem_cons_of_mem _ (List.mem_cons_of_mem _ hx))⟩
    rw [Json.val_joinSurrogates hpair.1 hpair.2]
    omega
  | case4 c d rest hpair ih =>
    rw [joined, if_neg hpair, List.forall_mem_cons]
    exact ⟨h c List.mem_cons_self, ih fun x hx => h x (List.mem_cons_of_mem _ hx)⟩

theorem joined_eq_nil {t : Text} : t.joined = [] ↔ t = [] := by
  rcases t with _ | ⟨c, _ | ⟨d, rest⟩⟩
  · rfl
  · rfl
  · rw [joined]
    split <;> simp

end Text

namespace Json

mutual

/-- The value with the surrogate pairs of its strings joined. -/
def joinTexts : Json → Json
  | null => null
  | bool b => bool b
  | int n => int n
  | float literal => float literal
  | str t => str t.joined
  | arr items => arr (joinItems items)
  | obj items => obj (joinMembers items)

/-- `joinTexts` of every item. -/
def joinItems : List Json → List Json
  | [] => []
  | v :: vs => joinTexts v :: joinItems vs

/-- `joinTexts` of every member. -/
def joinMembers : List (Text × Json) → List (Text × Json)
  | [] => []
  | (k, v) :: rest => (k, joinTexts v) :: joinMembers rest

end

theorem joinItems_eq (items : List Json) : joinItems items = items.map joinTexts := by
  induction items with
  | nil => rfl
  | cons v vs ih => rw [joinItems, ih, List.map_cons]

theorem joinMembers_eq (items : List (Text × Json)) :
    joinMembers items = items.map (fun p => (p.1, joinTexts p.2)) := by
  induction items with
  | nil => rfl
  | cons p rest ih => rw [joinMembers, ih, List.map_cons]

theorem keys_joinMembers (items : List (Text × Json)) :
    (joinMembers items).map Prod.fst = items.map Prod.fst := by
  rw [joinMembers_eq, List.map_map]
  rfl

/-- A member of the object that is read back. -/
theorem lookup_joinMembers {items : List (Text × Json)} (h : (items.map Prod.fst).Nodup)
    {key : Text} {v : Json} (hv : lookup key items = some v) :
    lookup key (joinMembers items) = some v.joinTexts := by
  rw [lookup_eq_some_iff ((keys_joinMembers items).symm ▸ h), joinMembers_eq]
  exact List.mem_map.mpr ⟨(key, v), (lookup_eq_some_iff h).mp hv, rfl⟩

theorem isWritable_joinTexts (v : Json) : v.joinTexts.isWritable = v.isWritable := by
  induction v using Json.induction with
  | null | bool | int | float | str => rfl
  | arr items ih =>
    rw [joinTexts, isWritable, isWritable, Bool.eq_iff_iff, areWritable_iff, areWritable_iff,
      joinItems_eq, List.forall_mem_map]
    exact forall₂_congr fun v hv => by rw [ih v hv]
  | obj items ih =>
    rw [joinTexts, isWritable, isWritable, Bool.eq_iff_iff, membersWritable_iff,
      membersWritable_iff, joinMembers_eq, List.forall_mem_map]
    exact forall₂_congr fun p hp => by rw [ih p hp]

/-- A value that was read back is read back as it is. -/
@[simp] theorem joinTexts_joinTexts (v : Json) : v.joinTexts.joinTexts = v.joinTexts := by
  induction v using Json.induction with
  | null | bool | int | float => rfl
  | str t =>
    rw [joinTexts, joinTexts, Text.joined_eq_self t.isJsonSafe_joined]
  | arr items ih =>
    rw [joinTexts, joinTexts, joinItems_eq, joinItems_eq, List.map_map]
    rw [show items.map (joinTexts ∘ joinTexts) = items.map joinTexts from List.map_congr_left ih]
  | obj items ih =>
    rw [joinTexts, joinTexts, joinMembers_eq, joinMembers_eq, List.map_map]
    congr 1
    exact List.map_congr_left fun p hp => by rw [Function.comp_apply, ih p hp]

theorem joinMembers_joinMembers (items : List (Text × Json)) :
    joinMembers (joinMembers items) = joinMembers items := by
  have h := joinTexts_joinTexts (obj items)
  rw [joinTexts, joinTexts] at h
  injection h

end Json

/-!
## Every value that is written can be read

What `json.loads(json.dumps(v))` is for every value, also one whose keys have surrogate pairs: keys
that are written alike are then one.

* `Text.isSuffix_joined_iff` — the ASCII texts that a text ends with.
-/

/-! ### Texts with joined pairs -/

namespace Text

theorem not_isAscii_of_surrogate {c : CodePoint} (h : Json.isHigh c.val = true ∨ Json.isLow c.val = true) :
    ¬ c.val < 0x80 := by
  simp only [Json.isHigh, Json.isLow, Bool.and_eq_true, decide_eq_true_eq] at h
  omega

theorem joined_eq_self_of_isAscii {t : Text} (h : t.joined.IsAscii) : t.joined = t := by
  induction t using joined.induct with
  | case1 => rfl
  | case2 c => rfl
  | case3 c d rest hpair ih =>
    rw [joined, if_pos hpair] at h
    have hval := Json.val_joinSurrogates hpair.1 hpair.2
    have hhead := h _ List.mem_cons_self
    omega
  | case4 c d rest hpair ih =>
    rw [joined, if_neg hpair] at h ⊢
    rw [ih fun x hx => h x (List.mem_cons_of_mem _ hx)]

/-- **What a text ends with**, of ASCII texts, does not depend on its pairs. -/
theorem isSuffix_joined_iff {t u : Text} (hu : u.IsAscii) : u <:+ t.joined ↔ u <:+ t := by
  induction t using joined.induct with
  | case1 => rfl
  | case2 c => rfl
  | case3 c d rest hpair ih =>
    have hne : ∀ {x : CodePoint} {v : Text}, ¬ x.val < 0x80 → u ≠ x :: v := by
      rintro x v hx rfl
      exact hx (hu x List.mem_cons_self)
    have hjoined : ¬ (Json.joinSurrogates c.val d.val).val < 0x80 := by
      rw [Json.val_joinSurrogates hpair.1 hpair.2]
      omega
    rw [joined, if_pos hpair, List.suffix_cons_iff, List.suffix_cons_iff, List.suffix_cons_iff,
      or_iff_right (hne hjoined), or_iff_right (hne (not_isAscii_of_surrogate (Or.inl hpair.1))),
      or_iff_right (hne (not_isAscii_of_surrogate (Or.inr hpair.2)))]
    exact ih
  | case4 c d rest hpair ih =>
    rw [joined, if_neg hpair, List.suffix_cons_iff, List.suffix_cons_iff, ih]
    refine or_congr_left ?_
    constructor
    · intro heq
      have hascii : Text.IsAscii (joined (d :: rest)) := fun x hx =>
        hu x (heq ▸ List.mem_cons_of_mem _ hx)
      rw [heq, joined_eq_self_of_isAscii hascii]
    · intro heq
      have hascii : Text.IsAscii (d :: rest) := fun x hx => hu x (heq ▸ List.mem_cons_of_mem _ hx)
      rw [heq, joined_eq_self hascii.isJsonSafe]

end Text

namespace Json

mutual

/-- The value that is read when this one was written. -/
def reread : Json → Json
  | null => null
  | bool b => bool b
  | int n => int n
  | float literal => float literal
  | str t => str t.joined
  | arr items => arr (rereadItems items)
  | obj items => obj (dictItems
      (((rereadMembers items).insertionSort keyLE).map (fun p => (p.1.joined, p.2))))

/-- `reread` of every item. -/
def rereadItems : List Json → List Json
  | [] => []
  | v :: vs => reread v :: rereadItems vs

/-- `reread` of every member, under its own key. -/
def rereadMembers : List (Text × Json) → List (Text × Json)
  | [] => []
  | (k, v) :: rest => (k, reread v) :: rereadMembers rest

end

theorem rereadItems_eq (items : List Json) : rereadItems items = items.map reread := by
  induction items with
  | nil => rfl
  | cons v vs ih => rw [rereadItems, ih, List.map_cons]

theorem rereadMembers_eq (items : List (Text × Json)) :
    rereadMembers items = items.map (fun p => (p.1, reread p.2)) := by
  induction items with
  | nil => rfl
  | cons p rest ih => rw [rereadMembers, ih, List.map_cons]

/-- **Every value that is written can be read.** -/
theorem readsTo_render {v : Json} (h : v.isWritable = true) : ReadsTo v.render v.reread := by
  induction v using Json.induction with
  | null => exact readsTo_null
  | bool b => exact readsTo_bool b
  | int n =>
    have hlength : (Text.ofNat n.natAbs).length ≤ maxStrDigits := of_decide_eq_true h
    exact readsTo_int hlength
  | float t => cases h
  | str t =>
    have hreads := readsTo_str t.isJsonSafe_joined
    rw [render, quote_joined] at hreads
    exact hreads
  | arr items ih =>
    rw [isWritable, areWritable_iff] at h
    have hreads := readsTo_arr (items.map fun v => (v.render, v.reread))
      (List.forall_mem_map.mpr fun v hv => ih v hv (h v hv))
    rw [List.map_map, List.map_map] at hreads
    rw [render, renderItems_eq, reread, rereadItems_eq]
    exact hreads
  | obj items ih =>
    rw [isWritable, membersWritable_iff] at h
    set sorted := items.insertionSort keyLE with hsorted
    have hmem : ∀ q ∈ sorted, q ∈ items := fun q hq => (List.mem_insertionSort keyLE).mp hq
    have hreads := readsTo_obj (sorted.map fun q => (q.1.joined, q.2.render, q.2.reread))
      (List.forall_mem_map.mpr fun q hq =>
        ⟨q.1.isJsonSafe_joined, ih q (hmem q hq) (h q (hmem q hq))⟩)
    have hmembers : ((renderMembers items).insertionSort keyLE).map member
        = (sorted.map fun q => (q.1.joined, q.2.render, q.2.reread)).map Entry.text := by
      rw [renderMembers_eq, insertionSort_map, List.map_map, List.map_map]
      refine List.map_congr_left fun q _ => ?_
      simp only [Function.comp_apply, Entry.text, member, quote_joined]
    have hread : ((rereadMembers items).insertionSort keyLE).map (fun p => (p.1.joined, p.2))
        = (sorted.map fun q => (q.1.joined, q.2.render, q.2.reread)).map Entry.pair := by
      rw [rereadMembers_eq, insertionSort_map, List.map_map, List.map_map]
      rfl
    rw [render, hmembers, reread, hread]
    exact hreads

/-- **The members of an object** whose keys are distinct and have no surrogate pairs. -/
theorem lookup_reread {items : List (Text × Json)} (hnodup : (items.map Prod.fst).Nodup)
    (hsafe : ∀ p ∈ items, Text.IsJsonSafe p.1) :
    ∃ members, (obj items).reread = obj members
      ∧ ∀ key v, lookup key items = some v → lookup key members = some v.reread := by
  set pairs := (items.insertionSort keyLE).map (fun p => (p.1, reread p.2)) with hpairs
  have hjoined : ((rereadMembers items).insertionSort keyLE).map (fun p => (p.1.joined, p.2))
      = pairs := by
    rw [rereadMembers_eq, insertionSort_map, List.map_map]
    refine List.map_congr_left fun p hp => ?_
    have hkey := hsafe p ((List.mem_insertionSort keyLE).mp hp)
    simp only [Function.comp_apply, Text.joined_eq_self hkey]
  have hkeys : (pairs.map Prod.fst).Nodup := by
    rw [hpairs, List.map_map]
    exact (keys_insertionSort_perm items).nodup_iff.mpr hnodup
  refine ⟨pairs, by rw [reread, hjoined, dictItems_of_nodup hkeys], fun key v hv => ?_⟩
  rw [lookup_eq_some_iff hkeys, hpairs]
  exact List.mem_map.mpr ⟨(key, v),
    (List.mem_insertionSort keyLE).mpr ((lookup_eq_some_iff hnodup).mp hv), rfl⟩

end Json

end PyModel
