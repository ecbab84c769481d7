import FuturesAgentOs.PyModel.JsonString
import Mathlib.Data.List.Induction

namespace PyModel

/-!
# Reading back what was written

`json.loads(json.dumps(v, sort_keys=True, …))` is `v` with the members of its objects in the
order of their keys, for every value without floats whose strings are `Text.IsJsonSafe`, whose
integers are not too long and whose objects have distinct keys.

* `loads_dumps` — the round trip;
* `lookup_sortKeys` — a member is found in the sorted object as in the original one.
-/

namespace Json

/-! ### Safe values -/

mutual

/-- A value that survives writing and reading. -/
def IsSafe : Json → Prop
  | int n => (Text.ofNat n.natAbs).length ≤ maxStrDigits
  | float _ => False
  | str t => t.IsJsonSafe
  | arr items => AreSafe items
  | obj items => (items.map Prod.fst).Nodup ∧ MembersSafe items
  | _ => True

/-- `IsSafe` of every item. -/
def AreSafe : List Json → Prop
  | [] => True
  | v :: vs => IsSafe v ∧ AreSafe vs

/-- `IsSafe` of every member, and safe keys. -/
def MembersSafe : List (Text × Json) → Prop
  | [] => True
  | (k, v) :: rest => (k.IsJsonSafe ∧ IsSafe v) ∧ MembersSafe rest

end

mutual

/-- The members of every object in the order of their keys. -/
def sortKeys : Json → Json
  | null => null
  | bool b => bool b
  | int n => int n
  | float literal => float literal
  | str t => str t
  | arr items => arr (sortItems items)
  | obj items => obj ((sortMembers items).insertionSort keyLE)

/-- `sortKeys` of every item. -/
def sortItems : List Json → List Json
  | [] => []
  | v :: vs => sortKeys v :: sortItems vs

/-- `sortKeys` of every member, in place. -/
def sortMembers : List (Text × Json) → List (Text × Json)
  | [] => []
  | (k, v) :: rest => (k, sortKeys v) :: sortMembers rest

end

/-! ### The list functions are maps -/

theorem areSafe_iff (items : List Json) : AreSafe items ↔ ∀ v ∈ items, v.IsSafe := by
  induction items with
  | nil => simp [AreSafe]
  | cons v vs ih => simp [AreSafe, ih]

theorem membersSafe_iff (items : List (Text × Json)) :
    MembersSafe items ↔ ∀ p ∈ items, Text.IsJsonSafe p.1 ∧ p.2.IsSafe := by
  induction items with
  | nil => simp [MembersSafe]
  | cons p rest ih =>
    rw [MembersSafe, ih, List.forall_mem_cons]

theorem renderItems_eq (items : List Json) : renderItems items = items.map render := by
  induction items with
  | nil => rfl
  | cons v vs ih => rw [renderItems, ih, List.map_cons]

theorem renderMembers_eq (items : List (Text × Json)) :
    renderMembers items = items.map (fun p => (p.1, p.2.render)) := by
  induction items with
  | nil => rfl
  | cons p rest ih => rw [renderMembers, ih, List.map_cons]

theorem areWritable_iff (items : List Json) :
    areWritable items = true ↔ ∀ v ∈ items, v.isWritable = true := by
  induction items with
  | nil => simp [areWritable]
  | cons v vs ih => simp [areWritable, ih]

theorem membersWritable_iff (items : List (Text × Json)) :
    membersWritable items = true ↔ ∀ p ∈ items, p.2.isWritable = true := by
  induction items with
  | nil => simp [membersWritable]
  | cons p rest ih => simp [membersWritable, ih]

theorem sortItems_eq (items : List Json) : sortItems items = items.map sortKeys := by
  induction items with
  | nil => rfl
  | cons v vs ih => rw [sortItems, ih, List.map_cons]

theorem sortMembers_eq (items : List (Text × Json)) :
    sortMembers items = items.map (fun p => (p.1, p.2.sortKeys)) := by
  induction items with
  | nil => rfl
  | cons p rest ih => rw [sortMembers, ih, List.map_cons]

/-! ### Sorting by key -/

section

variable {α β : Type}

instance : Std.Total (keyLE : Text × α → Text × α → Prop) := ⟨fun p q => Text.le_total p.1 q.1⟩

instance : IsTrans (Text × α) keyLE := ⟨fun _ _ _ h h' => Text.le_trans h h'⟩

/-- Sorting by key goes along with a change of the values. -/
theorem insertionSort_map (f : α → β) (items : List (Text × α)) :
    (items.map (fun p => (p.1, f p.2))).insertionSort keyLE
      = (items.insertionSort keyLE).map (fun p => (p.1, f p.2)) :=
  (List.map_insertionSort keyLE keyLE (fun p : Text × α => (p.1, f p.2)) items
    (fun _ _ _ _ => Iff.rfl)).symm

theorem insertionSort_idem (items : List (Text × α)) :
    (items.insertionSort keyLE).insertionSort keyLE = items.insertionSort keyLE :=
  (List.pairwise_insertionSort keyLE items).insertionSort_eq

theorem keys_insertionSort_perm (items : List (Text × α)) :
    ((items.insertionSort keyLE).map Prod.fst).Perm (items.map Prod.fst) :=
  (List.perm_insertionSort keyLE items).map Prod.fst

end

/-- **Sorted keys write the same text.** -/
theorem render_sortKeys (v : Json) : v.sortKeys.render = v.render := by
  induction v using Json.induction with
  | null => rfl
  | bool b => rfl
  | int n => rfl
  | float t => rfl
  | str t => rfl
  | arr items ih =>
    rw [sortKeys, render, render, renderItems_eq, renderItems_eq, sortItems_eq, List.map_map,
      List.map_congr_left (f := render ∘ sortKeys) (g := render) ih]
  | obj items ih =>
    have hmembers : (items.map (fun p => (p.1, p.2.sortKeys))).map (fun p => (p.1, p.2.render))
        = items.map (fun p => (p.1, p.2.render)) := by
      rw [List.map_map]
      apply List.map_congr_left
      intro p hp
      show (p.1, p.2.sortKeys.render) = (p.1, p.2.render)
      rw [ih p hp]
    rw [sortKeys, render, render, renderMembers_eq, renderMembers_eq, sortMembers_eq,
      ← insertionSort_map, insertionSort_idem, hmembers]

variable {v : Json} {c : CodePoint} {rest t : Text} {n : ℤ}

theorem IsSafe.isWritable (h : v.IsSafe) : v.isWritable = true := by
  induction v using Json.induction with
  | null => rfl
  | bool b => rfl
  | int n => exact decide_eq_true h
  | float t => exact h.elim
  | str t => rfl
  | arr items ih =>
    rw [IsSafe, areSafe_iff] at h
    rw [Json.isWritable, areWritable_iff]
    exact fun v hv => ih v hv (h v hv)
  | obj items ih =>
    rw [IsSafe, membersSafe_iff] at h
    rw [Json.isWritable, membersWritable_iff]
    exact fun p hp => ih p hp (h.2 p hp).2

theorem isWritable_sortKeys (v : Json) : v.sortKeys.isWritable = v.isWritable := by
  induction v using Json.induction with
  | null => rfl
  | bool b => rfl
  | int n => rfl
  | float t => rfl
  | str t => rfl
  | arr items ih =>
    rw [Json.sortKeys, isWritable, isWritable, Bool.eq_iff_iff, areWritable_iff, areWritable_iff,
      sortItems_eq, List.forall_mem_map]
    exact forall₂_congr fun v hv => by rw [ih v hv]
  | obj items ih =>
    rw [Json.sortKeys, isWritable, isWritable, Bool.eq_iff_iff, membersWritable_iff,
      membersWritable_iff]
    simp only [List.mem_insertionSort, sortMembers_eq, List.forall_mem_map]
    exact forall₂_congr fun p hp => by rw [ih p hp]

/-! ### Looking up members -/

/-- In a dict, the value of a key is the one that stands with it. -/
theorem lookup_eq_some_iff {items : List (Text × Json)} (h : (items.map Prod.fst).Nodup)
    {key : Text} : lookup key items = some v ↔ (key, v) ∈ items := by
  induction items with
  | nil => simp [lookup]
  | cons p rest ih =>
    rw [List.map_cons, List.nodup_cons] at h
    obtain ⟨k, w⟩ := p
    by_cases hk : k = key
    · subst hk
      have hnot : (k, v) ∉ rest := fun hv => h.1 (List.mem_map.mpr ⟨_, hv, rfl⟩)
      simp [lookup, hnot, eq_comm]
    · have hne : (key, v) ≠ (k, w) := fun heq => hk (congrArg Prod.fst heq).symm
      have := ih h.2
      simp only [lookup] at this ⊢
      simp [hk, hne, this]

/-- **A member of an object** is found in the sorted object as well. -/
theorem lookup_sortKeys {items : List (Text × Json)} (h : (items.map Prod.fst).Nodup)
    (key : Text) :
    lookup key ((sortMembers items).insertionSort keyLE) = (lookup key items).map sortKeys := by
  have hsorted : (((sortMembers items).insertionSort keyLE).map Prod.fst).Nodup := by
    apply (keys_insertionSort_perm _).nodup_iff.mpr
    rw [sortMembers_eq, List.map_map]
    exact h
  apply Option.ext
  intro v
  rw [lookup_eq_some_iff hsorted, List.mem_insertionSort, sortMembers_eq, List.mem_map,
    Option.map_eq_some_iff]
  constructor
  · rintro ⟨⟨k, w⟩, hp, heq⟩
    simp only [Prod.mk.injEq] at heq
    obtain ⟨rfl, rfl⟩ := heq
    exact ⟨w, (lookup_eq_some_iff h).mpr hp, rfl⟩
  · rintro ⟨w, hw, rfl⟩
    exact ⟨(key, w), (lookup_eq_some_iff h).mp hw, rfl⟩

/-! ### What follows a value -/

/-- The end of the text, or a character that ends a value. -/
def Delimited (t : Text) : Prop :=
  t = [] ∨ ∃ c rest, t = c :: rest ∧ (c = Text.ofChar ',' ∨ c = Text.ofChar ']' ∨ c = closeBrace)

theorem Delimited.cons (t : Text)
    (h : c = Text.ofChar ',' ∨ c = Text.ofChar ']' ∨ c = closeBrace) : Delimited (c :: t) :=
  Or.inr ⟨c, t, rfl, h⟩

/-- A character that a value starts with. -/
structure IsValueHead (c : CodePoint) : Prop where
  space : (c.val == 32 || c.val == 9 || c.val == 10 || c.val == 13) = false
  bracket : c ≠ Text.ofChar ']'
  brace : c ≠ closeBrace

theorem skipSpace_cons (t : Text)
    (h : (c.val == 32 || c.val == 9 || c.val == 10 || c.val == 13) = false) :
    skipSpace (c :: t) = c :: t := List.dropWhile_cons_of_neg (by simpa using h)

theorem isValueHead_of_isDigit (h : isDigit c = true) : IsValueHead c := by
  rw [isDigit_iff] at h
  refine ⟨?_, ?_, ?_⟩
  · simp only [Bool.or_eq_false_iff, beq_eq_false_iff_ne]
    omega
  · rintro rfl
    revert h
    decide
  · rintro rfl
    revert h
    decide

theorem exists_head_render (h : v.IsSafe) : ∃ c t, v.render = c :: t ∧ IsValueHead c := by
  rcases v with _ | b | n | t | t | items | items
  · exact ⟨_, _, rfl, by decide, by decide, by decide⟩
  · rcases b
    · exact ⟨_, _, rfl, by decide, by decide, by decide⟩
    · exact ⟨_, _, rfl, by decide, by decide, by decide⟩
  · rw [render, Text.ofInt]
    split_ifs
    · exact ⟨_, _, rfl, by decide, by decide, by decide⟩
    · obtain ⟨c, t, heq, hc, -⟩ := Text.ofNat_eq_cons n.natAbs
      exact ⟨c, t, heq, isValueHead_of_isDigit hc⟩
  · exact h.elim
  · exact ⟨_, _, rfl, by decide, by decide, by decide⟩
  · exact ⟨_, _, rfl, by decide, by decide, by decide⟩
  · exact ⟨_, _, rfl, by decide, by decide, by decide⟩

/-! ### Reading atoms -/

theorem afterLiteral_append (literal t : Text) : afterLiteral literal (literal ++ t) = some t := by
  unfold afterLiteral
  rw [if_pos (List.isPrefixOf_iff_prefix.mpr (List.prefix_append literal t)), List.drop_left]

theorem afterLiteral_of_head_ne {a b : CodePoint} (literal t : Text) (h : a ≠ b) :
    afterLiteral (a :: literal) (b :: t) = none := by
  unfold afterLiteral
  rw [if_neg]
  simp [List.isPrefixOf, h]

/-- What follows an integer is no digit, point or exponent. -/
theorem Delimited.head_ne (h : Delimited t) (ht : t = c :: rest) :
    isDigit c = false ∧ c ≠ Text.ofChar '.' ∧ c ≠ Text.ofChar 'e' ∧ c ≠ Text.ofChar 'E' := by
  rcases h with rfl | ⟨d, rest', rfl, hd⟩
  · cases ht
  · injection ht with hc
    subst hc
    rcases hd with rfl | rfl | rfl <;> decide

theorem scanInteger_ofNat (n : ℕ) (hrest : Delimited rest) :
    scanInteger (Text.ofNat n ++ rest) = some (Text.ofNat n, rest) := by
  obtain ⟨c, t, heq, hc, hzero⟩ := Text.ofNat_eq_cons n
  have hspan := spanDigits_append rest (Text.all_isDigit_ofNat n)
    (fun _ _ h => (hrest.head_ne h).1)
  rw [heq, List.cons_append] at hspan ⊢
  unfold scanInteger
  simp only [hc, if_true, hspan]
  by_cases h0 : c = Text.ofChar '0'
  · -- a leading zero is the whole number
    have hn : n = 0 := hzero (by rw [h0]; decide)
    subst hn
    have ht : t = [] := by
      have : Text.ofNat 0 = [digit 0] := rfl
      rw [this] at heq
      injection heq with _ ht
      exact ht.symm
    rw [if_pos h0, ht]
    rfl
  · rw [if_neg h0]

theorem scanFraction_of_delimited (h : Delimited t) : scanFraction t = ([], t) := by
  unfold scanFraction
  rcases ht : t with _ | ⟨c, rest⟩
  · rfl
  · simp [(h.head_ne ht).2.1]

theorem scanExponent_of_delimited (h : Delimited t) : scanExponent t = ([], t) := by
  unfold scanExponent
  rcases ht : t with _ | ⟨c, rest⟩
  · rfl
  · simp [(h.head_ne ht).2.2.1, (h.head_ne ht).2.2.2]

/-- **An integer is read back.** -/
theorem scanNumber_ofInt (hn : (Text.ofNat n.natAbs).length ≤ maxStrDigits)
    (hrest : Delimited rest) : scanNumber (Text.ofInt n ++ rest) = some (.int n, rest) := by
  have hscan := scanInteger_ofNat n.natAbs hrest
  unfold scanNumber Text.ofInt
  by_cases hneg : n < 0
  · rw [if_pos hneg]
    simp only [List.cons_append, if_true, hscan, Option.bind_eq_bind, Option.bind_some,
      scanFraction_of_delimited hrest, scanExponent_of_delimited hrest, and_self,
      if_neg (not_lt.mpr hn), parseDigits_ofNat]
    congr 3
    omega
  · rw [if_neg hneg]
    obtain ⟨c, t, heq, hc, -⟩ := Text.ofNat_eq_cons n.natAbs
    have hminus : c ≠ Text.ofChar '-' := by
      rintro rfl
      revert hc
      decide
    rw [heq] at hscan hn ⊢
    simp only [List.cons_append, if_neg hminus] at hscan ⊢
    have hparse : parseDigits (c :: t) = some n.natAbs := by rw [← heq, parseDigits_ofNat]
    simp only [hscan, Option.bind_eq_bind, Option.bind_some, scanFraction_of_delimited hrest,
      scanExponent_of_delimited hrest, and_self, if_true, if_neg (not_lt.mpr hn), hparse,
      Bool.false_eq_true, if_false]
    congr 3
    omega

/-- No literal is mistaken for an integer. -/
theorem scanAtom_ofInt (hn : (Text.ofNat n.natAbs).length ≤ maxStrDigits)
    (hrest : Delimited rest) : scanAtom (Text.ofInt n ++ rest) = some (.int n, rest) := by
  have hnumber := scanNumber_ofInt hn hrest
  obtain ⟨c, t, heq, hc, -⟩ := Text.ofNat_eq_cons n.natAbs
  have hdigit : ∀ d : CodePoint, isDigit d = false → d ≠ c := by
    rintro d hd rfl
    rw [hc] at hd
    cases hd
  unfold Text.ofInt at hnumber ⊢
  by_cases hneg : n < 0
  · rw [if_pos hneg, heq] at hnumber ⊢
    simp only [List.cons_append] at hnumber ⊢
    have hinfinity : afterLiteral "-Infinity" (Text.ofChar '-' :: c :: (t ++ rest)) = none := by
      have := hdigit (Text.ofChar 'I') (by decide)
      unfold afterLiteral
      rw [if_neg]
      simp [Text.ofString, List.isPrefixOf, this]
    unfold scanAtom
    rw [hinfinity]
    exact hnumber
  · rw [if_neg hneg, heq] at hnumber ⊢
    simp only [List.cons_append] at hnumber ⊢
    have hnone : ∀ (a : CodePoint) (literal : Text), isDigit a = false →
        afterLiteral (a :: literal) (c :: (t ++ rest)) = none :=
      fun a literal ha => afterLiteral_of_head_ne literal _ (hdigit a ha)
    unfold scanAtom
    rw [show (("null" : Text)) = Text.ofChar 'n' :: ("ull" : Text) from rfl,
      show (("true" : Text)) = Text.ofChar 't' :: ("rue" : Text) from rfl,
      show (("false" : Text)) = Text.ofChar 'f' :: ("alse" : Text) from rfl,
      show (("NaN" : Text)) = Text.ofChar 'N' :: ("aN" : Text) from rfl,
      show (("Infinity" : Text)) = Text.ofChar 'I' :: ("nfinity" : Text) from rfl,
      show (("-Infinity" : Text)) = Text.ofChar '-' :: ("Infinity" : Text) from rfl,
      hnone _ _ (by decide), hnone _ _ (by decide), hnone _ _ (by decide), hnone _ _ (by decide),
      hnone _ _ (by decide), hnone _ _ (by decide)]
    exact hnumber

/-! ### Reading values -/

/-- A text is read as a value, whatever delimits it. -/
structure ReadsTo (t : Text) (v : Json) : Prop where
  head : ∃ c u, t = c :: u ∧ IsValueHead c
  scan : ∀ rest, Delimited rest → ∀ fuel, t.length ≤ fuel → scanValue fuel (t ++ rest) = some (v, rest)

theorem commas_cons_cons (t u : Text) (ts : List Text) :
    commas (t :: u :: ts) = t ++ Text.ofChar ',' :: commas (u :: ts) := rfl

section

variable {p : Text × Json} {ps : List (Text × Json)}

theorem exists_head_commas (ps : List (Text × Json)) (h : ReadsTo p.1 p.2) :
    ∃ c t, commas ((p :: ps).map Prod.fst) = c :: t ∧ IsValueHead c := by
  obtain ⟨c, t, heq, hc⟩ := h.head
  rcases ps with _ | ⟨q, ps⟩
  · exact ⟨c, t, heq, hc⟩
  · refine ⟨c, t ++ Text.ofChar ',' :: commas ((q :: ps).map Prod.fst), ?_, hc⟩
    rw [List.map_cons, List.map_cons, commas_cons_cons, heq]
    rfl

theorem scanItems_commas (hreads : ∀ q ∈ p :: ps, ReadsTo q.1 q.2) (rest : Text) :
    ∀ fuel, (commas ((p :: ps).map Prod.fst)).length < fuel →
      scanItems fuel (commas ((p :: ps).map Prod.fst) ++ Text.ofChar ']' :: rest)
        = some ((p :: ps).map Prod.snd, rest) := by
  induction ps generalizing p with
  | nil =>
    intro fuel hfuel
    obtain ⟨fuel, rfl⟩ := Nat.exists_eq_succ_of_ne_zero (show fuel ≠ 0 by omega)
    have hp := (hreads p (by simp)).scan (Text.ofChar ']' :: rest)
      (Delimited.cons rest (by simp)) fuel (Nat.lt_succ_iff.mp hfuel)
    simp only [List.map_cons, List.map_nil, commas, scanItems, hp]
    rw [skipSpace_cons rest (by decide)]
    simp only [if_true]
  | cons q ps ih =>
    intro fuel hfuel
    obtain ⟨fuel, rfl⟩ := Nat.exists_eq_succ_of_ne_zero (show fuel ≠ 0 by omega)
    rw [List.map_cons, List.map_cons, commas_cons_cons, List.length_append, List.length_cons]
      at hfuel
    have hp := (hreads p (by simp)).scan
      (Text.ofChar ',' :: (commas ((q :: ps).map Prod.fst) ++ Text.ofChar ']' :: rest))
      (Delimited.cons _ (by simp)) fuel (by omega)
    have htail := ih (p := q) (fun r hr => hreads r (List.mem_cons_of_mem _ hr)) fuel
      (by rw [List.map_cons]; omega)
    obtain ⟨c, t, heq, hc⟩ := exists_head_commas ps (hreads q (by simp))
    have hcomma : Text.ofChar ',' ≠ Text.ofChar ']' := by decide
    rw [List.map_cons, List.map_cons, commas_cons_cons, List.append_assoc, List.cons_append,
      ← List.map_cons]
    simp only [scanItems, hp]
    rw [skipSpace_cons _ (by decide)]
    simp only [if_neg hcomma, if_true]
    rw [heq, List.cons_append] at htail ⊢
    rw [skipSpace_cons _ hc.space, htail]
    rfl

end

/-- A member of an object: its key, the text of its value and the value. -/
abbrev Entry := Text × Text × Json

namespace Entry

/-- The text of a member. -/
def text (p : Entry) : Text := member (p.1, p.2.1)

/-- The member that is read. -/
def pair (p : Entry) : Text × Json := (p.1, p.2.2)

/-- The member can be read. -/
structure IsRead (p : Entry) : Prop where
  key : Text.IsJsonSafe p.1
  value : ReadsTo p.2.1 p.2.2

theorem text_eq (p : Entry) : text p = quoteChar
    :: (p.1.flatMap escape ++ quoteChar :: Text.ofChar ':' :: p.2.1) := by
  simp [text, member, quote]

end Entry

section

variable {p : Entry} {ps : List Entry}

theorem exists_head_members (p : Entry) (ps : List Entry) :
    ∃ t, commas ((p :: ps).map Entry.text) = quoteChar :: t := by
  rcases ps with _ | ⟨q, ps⟩
  · exact ⟨_, p.text_eq⟩
  · rw [List.map_cons, List.map_cons, commas_cons_cons, Entry.text_eq]
    exact ⟨_, rfl⟩

theorem scanMembers_text (hp : p.IsRead) {d : CodePoint} (rest : Text)
    (hd : d = Text.ofChar ',' ∨ d = Text.ofChar ']' ∨ d = closeBrace) (fuel : ℕ)
    (hfuel : p.text.length ≤ fuel) :
    scanMembers (fuel + 1) (p.text ++ d :: rest)
      = if d = closeBrace then some ([p.pair], rest)
        else if d = Text.ofChar ',' then
          (scanMembers fuel (skipSpace rest)).map (fun (pairs, rest') => (p.pair :: pairs, rest'))
        else none := by
  rw [Entry.text_eq, List.length_cons, List.length_append, List.length_cons, List.length_cons]
    at hfuel
  have hvalue := hp.value.scan (d :: rest) (Delimited.cons rest hd) fuel (by omega)
  have hspace : (d.val == 32 || d.val == 9 || d.val == 10 || d.val == 13) = false := by
    rcases hd with rfl | rfl | rfl <;> decide
  obtain ⟨c, t, heq, hc⟩ := hp.value.head
  rw [Entry.text_eq]
  simp only [List.cons_append, List.append_assoc, scanMembers, ne_eq, not_true_eq_false, if_false]
  rw [scanString_quote hp.key]
  simp only
  rw [skipSpace_cons _ (by decide)]
  simp only [not_true_eq_false, if_false]
  rw [heq, List.cons_append] at hvalue ⊢
  rw [skipSpace_cons _ hc.space, hvalue]
  simp only
  rw [skipSpace_cons rest hspace]
  rfl

theorem scanMembers_commas (hreads : ∀ q ∈ p :: ps, q.IsRead) (rest : Text) :
    ∀ fuel, (commas ((p :: ps).map Entry.text)).length < fuel →
      scanMembers fuel (commas ((p :: ps).map Entry.text) ++ closeBrace :: rest)
        = some ((p :: ps).map Entry.pair, rest) := by
  induction ps generalizing p with
  | nil =>
    intro fuel hfuel
    obtain ⟨fuel, rfl⟩ := Nat.exists_eq_succ_of_ne_zero (show fuel ≠ 0 by omega)
    have hp := scanMembers_text (hreads p (by simp)) rest (Or.inr (Or.inr rfl)) fuel
      (Nat.lt_succ_iff.mp hfuel)
    rw [if_pos rfl] at hp
    exact hp
  | cons q ps ih =>
    intro fuel hfuel
    obtain ⟨fuel, rfl⟩ := Nat.exists_eq_succ_of_ne_zero (show fuel ≠ 0 by omega)
    rw [List.map_cons, List.map_cons, commas_cons_cons, List.length_append, List.length_cons]
      at hfuel
    have hp := scanMembers_text (hreads p (by simp))
      (commas ((q :: ps).map Entry.text) ++ closeBrace :: rest) (Or.inl rfl) fuel (by omega)
    have htail := ih (p := q) (fun r hr => hreads r (List.mem_cons_of_mem _ hr)) fuel
      (by rw [List.map_cons]; omega)
    obtain ⟨t, heq⟩ := exists_head_members q ps
    have hcomma : Text.ofChar ',' ≠ closeBrace := by decide
    rw [if_neg hcomma, if_pos rfl] at hp
    rw [heq, List.cons_append] at hp htail
    rw [skipSpace_cons _ (by decide), htail] at hp
    rw [List.map_cons, List.map_cons, commas_cons_cons, List.append_assoc, List.cons_append,
      ← List.map_cons, heq, List.cons_append]
    exact hp

end

/-- **An array is read item by item.** -/
theorem readsTo_arr (ps : List (Text × Json)) (h : ∀ p ∈ ps, ReadsTo p.1 p.2) :
    ReadsTo (Text.ofChar '[' :: (commas (ps.map Prod.fst) ++ [Text.ofChar ']']))
      (arr (ps.map Prod.snd)) := by
  refine ⟨⟨_, _, rfl, by decide, by decide, by decide⟩, fun rest _ fuel hfuel => ?_⟩
  rw [List.length_cons, List.length_append, List.length_singleton] at hfuel
  obtain ⟨fuel, rfl⟩ := Nat.exists_eq_add_of_le' (show 1 ≤ fuel by omega)
  have hquote : Text.ofChar '[' ≠ quoteChar := by decide
  rw [List.cons_append, List.append_assoc, List.singleton_append]
  simp only [scanValue, if_neg hquote, if_true]
  rcases ps with _ | ⟨p, ps⟩
  · simp only [List.map_nil, commas, List.nil_append]
    rw [skipSpace_cons rest (by decide)]
    simp only [if_true]
  · obtain ⟨c, t, heq, hc⟩ := exists_head_commas ps (h p (by simp))
    have hscan := scanItems_commas h rest fuel (by omega)
    rw [heq, List.cons_append] at hscan ⊢
    rw [skipSpace_cons _ hc.space]
    simp only [if_neg hc.bracket, hscan, Option.map_some]

/-- **An object is read member by member**, and the last member of a key counts. -/
theorem readsTo_obj (ps : List Entry) (h : ∀ p ∈ ps, p.IsRead) :
    ReadsTo (openBrace :: (commas (ps.map Entry.text) ++ [closeBrace]))
      (obj (dictItems (ps.map Entry.pair))) := by
  refine ⟨⟨_, _, rfl, by decide, by decide, by decide⟩, fun rest _ fuel hfuel => ?_⟩
  rw [List.length_cons, List.length_append, List.length_singleton] at hfuel
  obtain ⟨fuel, rfl⟩ := Nat.exists_eq_add_of_le' (show 1 ≤ fuel by omega)
  have hquote : openBrace ≠ quoteChar := by decide
  have hbracket : openBrace ≠ Text.ofChar '[' := by decide
  rw [List.cons_append, List.append_assoc, List.singleton_append]
  simp only [scanValue, if_neg hquote, if_neg hbracket, if_true]
  rcases ps with _ | ⟨p, ps⟩
  · simp only [List.map_nil, commas, List.nil_append]
    rw [skipSpace_cons rest (by decide)]
    simp only [if_true]
    rfl
  · obtain ⟨t, heq⟩ := exists_head_members p ps
    have hscan := scanMembers_commas h rest fuel (by omega)
    have hbrace : quoteChar ≠ closeBrace := by decide
    rw [heq, List.cons_append] at hscan ⊢
    rw [skipSpace_cons _ (by decide)]
    simp only [if_neg hbrace, hscan, Option.map_some]

/-- Pairs with distinct keys make the dict of themselves. -/
theorem dictItems_of_nodup {pairs : List (Text × Json)} (h : (pairs.map Prod.fst).Nodup) :
    dictItems pairs = pairs := by
  induction pairs using List.reverseRecOn with
  | nil => rfl
  | append_singleton pairs p ih =>
    rw [List.map_append, List.nodup_append] at h
    obtain ⟨hpairs, -, hne⟩ := h
    have hnew : p.1 ∉ pairs.map Prod.fst := fun hmem => hne _ hmem _ (by simp) rfl
    have hdict : dictItems (pairs ++ [p]) = Dict.assign p.1 p.2 (dictItems pairs) := by
      simp [dictItems, List.foldl_append]
    rw [hdict, ih hpairs, Dict.assign_of_not_mem hnew]

theorem scanValue_atom (t : Text) (fuel : ℕ) (hquote : c ≠ quoteChar)
    (hbracket : c ≠ Text.ofChar '[') (hbrace : c ≠ openBrace) :
    scanValue (fuel + 1) (c :: t) = scanAtom (c :: t) := by
  simp only [scanValue, if_neg hquote, if_neg hbracket, if_neg hbrace]

theorem scanAtom_null (rest : Text) : scanAtom (("null" : Text) ++ rest) = some (.null, rest) := by
  unfold scanAtom
  rw [afterLiteral_append]

theorem scanAtom_bool (b : Bool) (rest : Text) :
    scanAtom ((bool b).render ++ rest) = some (.bool b, rest) := by
  have hnull : afterLiteral "null" ((bool b).render ++ rest) = none := by
    rcases b <;> exact afterLiteral_of_head_ne _ _ (by decide)
  unfold scanAtom
  rw [hnull]
  rcases b
  · have htrue : afterLiteral "true" ((bool false).render ++ rest) = none :=
      afterLiteral_of_head_ne _ _ (by decide)
    have hfalse : afterLiteral "false" ((bool false).render ++ rest) = some rest :=
      afterLiteral_append _ rest
    rw [htrue, hfalse]
  · have htrue : afterLiteral "true" ((bool true).render ++ rest) = some rest :=
      afterLiteral_append _ rest
    rw [htrue]

theorem readsTo_null : ReadsTo null.render null := by
  refine ⟨⟨_, _, rfl, by decide, by decide, by decide⟩, fun rest _ fuel hfuel => ?_⟩
  obtain ⟨fuel, rfl⟩ := Nat.exists_eq_add_of_le' (show 1 ≤ fuel from le_trans (by decide) hfuel)
  exact (scanValue_atom _ fuel (by decide) (by decide) (by decide)).trans (scanAtom_null rest)

theorem readsTo_bool (b : Bool) : ReadsTo (bool b).render (bool b) := by
  refine ⟨exists_head_render (v := .bool b) trivial, fun rest _ fuel hfuel => ?_⟩
  obtain ⟨fuel, rfl⟩ := Nat.exists_eq_add_of_le' (show 1 ≤ fuel from
    le_trans (by rcases b <;> decide) hfuel)
  refine Eq.trans ?_ (scanAtom_bool b rest)
  rcases b <;> exact scanValue_atom _ fuel (by decide) (by decide) (by decide)

theorem readsTo_int (h : (int n).IsSafe) : ReadsTo (int n).render (int n) := by
  refine ⟨exists_head_render h, fun rest hrest fuel hfuel => ?_⟩
  obtain ⟨c, t, heq, hc⟩ := exists_head_render (v := .int n) h
  rw [heq, List.length_cons] at hfuel
  obtain ⟨fuel, rfl⟩ := Nat.exists_eq_add_of_le' (show 1 ≤ fuel by omega)
  have hatom := scanAtom_ofInt h hrest
  have hhead : c ≠ quoteChar ∧ c ≠ Text.ofChar '[' ∧ c ≠ openBrace := by
    rw [render, Text.ofInt] at heq
    split_ifs at heq
    · injection heq with hc
      subst hc
      decide
    · obtain ⟨d, u, heq', hd, -⟩ := Text.ofNat_eq_cons n.natAbs
      rw [heq'] at heq
      injection heq with hc
      subst hc
      refine ⟨?_, ?_, ?_⟩
      · rintro rfl
        revert hd
        decide
      · rintro rfl
        revert hd
        decide
      · rintro rfl
        revert hd
        decide
  have hrender : (int n).render = Text.ofInt n := rfl
  rw [← hrender, heq, List.cons_append] at hatom
  rw [heq, List.cons_append, scanValue_atom _ fuel hhead.1 hhead.2.1 hhead.2.2, hatom]

theorem readsTo_str (h : t.IsJsonSafe) : ReadsTo (str t).render (str t) := by
  refine ⟨⟨_, _, rfl, by decide, by decide, by decide⟩, fun rest _ fuel hfuel => ?_⟩
  rw [render, quote, List.length_cons] at hfuel
  obtain ⟨fuel, rfl⟩ := Nat.exists_eq_add_of_le' (show 1 ≤ fuel by omega)
  rw [render, quote, List.cons_append, List.append_assoc, List.singleton_append]
  simp only [scanValue, if_true, scanString_quote h, Option.map_some]

/-- **Every safe value is read back**, its members in the order of their keys. -/
theorem scanValue_render (h : v.IsSafe) : ReadsTo v.render v.sortKeys := by
  induction v using Json.induction with
  | null => exact readsTo_null
  | bool b => exact readsTo_bool b
  | int n => exact readsTo_int h
  | float t => exact h.elim
  | str t => exact readsTo_str h
  | arr items ih =>
    rw [IsSafe, areSafe_iff] at h
    have hreads := readsTo_arr (items.map fun v => (v.render, v.sortKeys))
      (List.forall_mem_map.mpr fun v hv => ih v hv (h v hv))
    rw [List.map_map, List.map_map] at hreads
    rw [render, renderItems_eq, sortKeys, sortItems_eq]
    exact hreads
  | obj items ih =>
    rw [IsSafe, membersSafe_iff] at h
    obtain ⟨hnodup, hsafe⟩ := h
    -- the members as they are written
    set sorted := items.insertionSort keyLE with hsorted
    have hmem : ∀ q ∈ sorted, q ∈ items := fun q hq => (List.mem_insertionSort keyLE).mp hq
    have hreads := readsTo_obj (sorted.map fun q => (q.1, q.2.render, q.2.sortKeys))
      (List.forall_mem_map.mpr fun q hq =>
        ⟨(hsafe q (hmem q hq)).1, ih q (hmem q hq) (hsafe q (hmem q hq)).2⟩)
    have hmembers : ((renderMembers items).insertionSort keyLE).map member
        = (sorted.map fun q => (q.1, q.2.render, q.2.sortKeys)).map Entry.text := by
      rw [renderMembers_eq, insertionSort_map, List.map_map, List.map_map]
      rfl
    have hsort : (sortMembers items).insertionSort keyLE
        = (sorted.map fun q => (q.1, q.2.render, q.2.sortKeys)).map Entry.pair := by
      rw [sortMembers_eq, insertionSort_map, List.map_map]
      rfl
    have hkeys : (((sorted.map fun q => (q.1, q.2.render, q.2.sortKeys)).map Entry.pair).map
        Prod.fst).Nodup := by
      rw [List.map_map, List.map_map]
      exact (keys_insertionSort_perm items).nodup_iff.mpr hnodup
    rw [dictItems_of_nodup hkeys] at hreads
    rw [render, hmembers, sortKeys, hsort]
    exact hreads

theorem loads_of_readsTo (h : ReadsTo t v) : loads t = some v := by
  obtain ⟨c, u, heq, hc⟩ := h.head
  have hscan := h.scan [] (Or.inl rfl) (t.length + 1) (Nat.le_succ _)
  rw [List.append_nil] at hscan
  unfold loads
  have hskip : skipSpace t = t := by rw [heq, skipSpace_cons _ hc.space]
  rw [hskip, hscan]
  rfl

/-- **The round trip.** -/
theorem loads_dumps (h : v.IsSafe) : dumps v = some v.render ∧ loads v.render = some v.sortKeys :=
  ⟨if_pos h.isWritable, loads_of_readsTo (scanValue_render h)⟩

/-! ### The characters that are written -/

theorem isVisible_commas {ts : List Text} (h : ∀ t ∈ ts, IsVisible t) : IsVisible (commas ts) := by
  induction ts with
  | nil => exact fun c hc => by cases hc
  | cons t ts ih =>
    rw [List.forall_mem_cons] at h
    rcases ts with _ | ⟨u, ts⟩
    · exact h.1
    · rw [commas_cons_cons, isVisible_append, isVisible_cons]
      exact ⟨h.1, by decide, ih h.2⟩

theorem isVisible_ofNat (n : ℕ) : IsVisible (Text.ofNat n) := by
  intro c hc
  have h := isDigit_iff.mp (Text.isDigit_of_mem_ofNat hc)
  omega

/-- **What `dumps` writes is one line of ASCII.** -/
theorem isVisible_render (h : v.isWritable = true) : IsVisible v.render := by
  induction v using Json.induction with
  | null => decide
  | bool b => rcases b <;> decide
  | int n =>
    rw [render, Text.ofInt]
    split
    · rw [isVisible_cons]
      exact ⟨by decide, isVisible_ofNat _⟩
    · exact isVisible_ofNat _
  | float literal => cases h
  | str t => exact isVisible_quote t
  | arr items ih =>
    rw [isWritable, areWritable_iff] at h
    rw [render, isVisible_cons, isVisible_append, renderItems_eq]
    refine ⟨by decide, isVisible_commas ?_, by decide⟩
    intro t ht
    obtain ⟨v, hv, rfl⟩ := List.mem_map.mp ht
    exact ih v hv (h v hv)
  | obj items ih =>
    rw [isWritable, membersWritable_iff] at h
    rw [render, isVisible_cons, isVisible_append, renderMembers_eq]
    refine ⟨by decide, isVisible_commas ?_, by decide⟩
    intro t ht
    obtain ⟨p, hp, rfl⟩ := List.mem_map.mp ht
    obtain ⟨q, hq, rfl⟩ := List.mem_map.mp ((List.mem_insertionSort keyLE).mp hp)
    rw [member, isVisible_append, isVisible_cons]
    exact ⟨isVisible_quote _, by decide, ih q hq (h q hq)⟩

end Json

end PyModel
