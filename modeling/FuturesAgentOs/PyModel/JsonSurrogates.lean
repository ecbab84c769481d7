import FuturesAgentOs.PyModel.JsonTexts

namespace PyModel

/-!
# Texts that are written alike

`ensure_ascii` writes a character beyond the basic plane as two escaped surrogates, which is also
how it writes the two surrogates themselves.  Two texts are written alike exactly when they are
equal once every high surrogate is joined with a low one that follows it.

* `joinedText_of_dumps_eq` — flat objects that are written alike agree on every member, up to
  pairs;
* `written` — what the text of any value keeps of it; `written_eq_of_dumps_eq`: values with one
  text are equal up to the order of keys and up to pairs.
-/

namespace Text

/-- The text with every surrogate pair joined. -/
def joined : Text → Text
  | [] => []
  | [c] => [c]
  | c :: d :: rest =>
    if Json.isHigh c.val = true ∧ Json.isLow d.val = true then
      Json.joinSurrogates c.val d.val :: joined rest
    else c :: joined (d :: rest)

/-- A text without pairs stays as it is. -/
theorem joined_eq_self {t : Text} (h : t.IsJsonSafe) : t.joined = t := by
  induction t with
  | nil => rfl
  | cons c t ih =>
    rcases t with _ | ⟨d, rest⟩
    · rfl
    · rw [joined, if_neg (List.isChain_cons_cons.mp h).1, ih (List.isChain_cons_cons.mp h).2]

end Text

namespace Json

variable {high low : ℕ}

/-- A joined pair is beyond the basic plane. -/
theorem val_joinSurrogates (hhigh : isHigh high = true) (hlow : isLow low = true) :
    (joinSurrogates high low).val = 0x10000 + (high - 0xd800) * 0x400 + (low - 0xdc00) := by
  simp only [isHigh, isLow, Bool.and_eq_true, decide_eq_true_eq] at hhigh hlow
  simp only [joinSurrogates]
  omega

theorem not_isHigh_joinSurrogates (hhigh : isHigh high = true)
    (hlow : isLow low = true) : isHigh (joinSurrogates high low).val = false := by
  rw [val_joinSurrogates hhigh hlow]
  simp only [isHigh, Bool.and_eq_false_iff, decide_eq_false_iff_not]
  omega

theorem not_isLow_joinSurrogates (hhigh : isHigh high = true)
    (hlow : isLow low = true) : isLow (joinSurrogates high low).val = false := by
  rw [val_joinSurrogates hhigh hlow]
  simp only [isLow, Bool.and_eq_false_iff, decide_eq_false_iff_not]
  omega

end Json

namespace Text

/-- The first character of a joined text is the first character or a joined pair. -/
theorem isLow_head_joined {d : CodePoint} {t : Text} (h : d ∈ t.joined.head?)
    (hlow : Json.isLow d.val = true) : d ∈ t.head? := by
  rcases t with _ | ⟨c, _ | ⟨e, rest⟩⟩
  · cases h
  · exact h
  · rw [joined] at h
    split at h
    · rename_i hpair
      rw [List.head?_cons, Option.mem_some_iff] at h
      rw [← h, Json.not_isLow_joinSurrogates hpair.1 hpair.2] at hlow
      cases hlow
    · exact h

/-- **A joined text has no pairs.** -/
theorem isJsonSafe_joined (t : Text) : t.joined.IsJsonSafe := by
  induction t using joined.induct with
  | case1 => exact List.IsChain.nil
  | case2 c => exact List.IsChain.singleton c
  | case3 c d rest hpair ih =>
    rw [joined, if_pos hpair]
    refine List.isChain_cons.mpr ⟨fun e _ hbad => ?_, ih⟩
    rw [Json.not_isHigh_joinSurrogates hpair.1 hpair.2] at hbad
    cases hbad.1
  | case4 c d rest hpair ih =>
    rw [joined, if_neg hpair]
    refine List.isChain_cons.mpr ⟨fun e he hbad => hpair ⟨hbad.1, ?_⟩, ih⟩
    have hhead := isLow_head_joined he hbad.2
    rw [List.head?_cons, Option.mem_some_iff] at hhead
    exact hhead ▸ hbad.2

end Text

namespace Json

theorem escape_of_surrogate {c : CodePoint} (h : isHigh c.val = true ∨ isLow c.val = true) :
    escape c = unicodeEscape c.val := by
  have hrange : 0xd800 ≤ c.val ∧ c.val ≤ 0xdfff := by
    simp only [isHigh, isLow, Bool.and_eq_true, decide_eq_true_eq] at h
    omega
  have hletter : escapeLetter c = none := by
    have hquote : c ≠ quoteChar := by
      rintro rfl
      exact absurd hrange.1 (by decide)
    have hback : c ≠ backslash := by
      rintro rfl
      exact absurd hrange.1 (by decide)
    rw [escapeLetter, if_neg hquote, if_neg hback, if_neg (by omega), if_neg (by omega),
      if_neg (by omega), if_neg (by omega), if_neg (by omega)]
  rw [escape, hletter]
  simp only
  rw [if_neg (by omega), if_pos (by omega)]

/-- A pair is written as the character that it stands for. -/
theorem escape_joinSurrogates {c d : CodePoint} (hhigh : isHigh c.val = true)
    (hlow : isLow d.val = true) : escape (joinSurrogates c.val d.val) = escape c ++ escape d := by
  have hval := val_joinSurrogates hhigh hlow
  rw [escape_of_surrogate (Or.inl hhigh), escape_of_surrogate (Or.inr hlow)]
  simp only [isHigh, isLow, Bool.and_eq_true, decide_eq_true_eq] at hhigh hlow
  have hletter : escapeLetter (joinSurrogates c.val d.val) = none := by
    have hne : ∀ e : CodePoint, e.val < 0x10000 → joinSurrogates c.val d.val ≠ e := by
      rintro e he rfl
      omega
    rw [escapeLetter, if_neg (hne _ (by decide)), if_neg (hne _ (by decide)), if_neg (by omega),
      if_neg (by omega), if_neg (by omega), if_neg (by omega), if_neg (by omega)]
  rw [escape, hletter]
  simp only
  have hhighVal : 0xd800 + ((joinSurrogates c.val d.val).val - 0x10000) / 0x400 = c.val := by
    rw [hval]
    omega
  have hlowVal : 0xdc00 + ((joinSurrogates c.val d.val).val - 0x10000) % 0x400 = d.val := by
    rw [hval]
    omega
  rw [if_neg (by omega), if_neg (by omega), hhighVal, hlowVal]

theorem flatMap_escape_joined (t : Text) : t.joined.flatMap escape = t.flatMap escape := by
  induction t using Text.joined.induct with
  | case1 => rfl
  | case2 c => rfl
  | case3 c d rest hpair ih =>
    rw [Text.joined, if_pos hpair, List.flatMap_cons, List.flatMap_cons, List.flatMap_cons, ih,
      escape_joinSurrogates hpair.1 hpair.2, List.append_assoc]
  | case4 c d rest hpair ih =>
    rw [Text.joined, if_neg hpair, List.flatMap_cons, ih, List.flatMap_cons (x := c)]

theorem quote_joined (t : Text) : quote t.joined = quote t := by
  rw [quote, quote, flatMap_escape_joined]

/-! ### Flat objects -/

/-- A value with nothing inside. -/
def IsScalar : Json → Prop
  | .arr _ => False
  | .obj _ => False
  | _ => True

@[simp] theorem isScalar_null : null.IsScalar := trivial

@[simp] theorem isScalar_int (n : ℤ) : (int n).IsScalar := trivial

@[simp] theorem isScalar_str (t : Text) : (str t).IsScalar := trivial

/-- A text with its pairs joined. -/
def joinedText : Json → Json
  | .str t => .str t.joined
  | v => v

theorem render_joinedText (v : Json) : v.joinedText.render = v.render := by
  rcases v with _ | b | n | t | t | items | items
  case str => exact quote_joined t
  all_goals rfl

theorem isWritable_joinedText (v : Json) : v.joinedText.isWritable = v.isWritable := by
  rcases v with _ | b | n | t | t | items | items <;> rfl

variable {v : Json} {items : List (Text × Json)} {t : Text}

theorem isSafe_joinedText (hscalar : v.IsScalar) (hwritable : v.isWritable = true) :
    v.joinedText.IsSafe := by
  rcases v with _ | b | n | t | t | items | items
  · trivial
  · trivial
  · have hlength : (Text.ofNat n.natAbs).length ≤ maxStrDigits := of_decide_eq_true hwritable
    exact hlength
  · cases hwritable
  · exact t.isJsonSafe_joined
  · exact hscalar.elim
  · exact hscalar.elim

theorem sortKeys_joinedText (hscalar : v.IsScalar) : v.joinedText.sortKeys = v.joinedText := by
  rcases v with _ | b | n | t | t | items | items
  case arr => exact hscalar.elim
  case obj => exact hscalar.elim
  all_goals rfl

/-- The members with their texts joined. -/
def joinedMembers (items : List (Text × Json)) : List (Text × Json) :=
  items.map (fun p => (p.1, p.2.joinedText))

theorem dumps_joinedMembers (items : List (Text × Json)) :
    (obj (joinedMembers items)).dumps = (obj items).dumps := by
  have hwritable : (obj (joinedMembers items)).isWritable = (obj items).isWritable := by
    rw [isWritable, isWritable, Bool.eq_iff_iff, membersWritable_iff, membersWritable_iff,
      joinedMembers, List.forall_mem_map]
    simp only [isWritable_joinedText]
  have hrender : renderMembers (joinedMembers items) = renderMembers items := by
    rw [renderMembers_eq, renderMembers_eq, joinedMembers, List.map_map]
    exact List.map_congr_left (fun p _ => by rw [Function.comp_apply, render_joinedText])
  rw [dumps, dumps, hwritable, render, render, hrender]

theorem lookup_joinedMembers (h : (items.map Prod.fst).Nodup)
    {key : Text} (hv : lookup key items = some v) :
    lookup key (joinedMembers items) = some v.joinedText := by
  have hkeys : (joinedMembers items).map Prod.fst = items.map Prod.fst := by
    rw [joinedMembers, List.map_map]
    rfl
  rw [lookup_eq_some_iff (hkeys ▸ h)]
  exact List.mem_map.mpr ⟨(key, v), (lookup_eq_some_iff h).mp hv, rfl⟩

/-- A flat object that can be written is safe once its texts are joined. -/
theorem isSafe_joinedMembers (h : (items.map Prod.fst).Nodup)
    (hkeys : ∀ p ∈ items, Text.IsJsonSafe p.1) (hscalar : ∀ p ∈ items, p.2.IsScalar)
    (hwritable : (obj items).isWritable = true) : (obj (joinedMembers items)).IsSafe := by
  have hfst : (joinedMembers items).map Prod.fst = items.map Prod.fst := by
    rw [joinedMembers, List.map_map]
    rfl
  rw [isWritable, membersWritable_iff] at hwritable
  refine ⟨hfst ▸ h, (membersSafe_iff _).mpr ?_⟩
  rw [joinedMembers, List.forall_mem_map]
  exact fun p hp => ⟨hkeys p hp, isSafe_joinedText (hscalar p hp) (hwritable p hp)⟩

/-- **Flat objects that are written alike** agree on every member up to pairs. -/
theorem joinedText_of_dumps_eq {items' : List (Text × Json)}
    (h : (items.map Prod.fst).Nodup) (h' : (items'.map Prod.fst).Nodup)
    (hkeys : ∀ p ∈ items, Text.IsJsonSafe p.1) (hkeys' : ∀ p ∈ items', Text.IsJsonSafe p.1)
    (hscalar : ∀ p ∈ items, p.2.IsScalar) (hscalar' : ∀ p ∈ items', p.2.IsScalar)
    (hwritable : (obj items).isWritable = true)
    (hdumps : (obj items).dumps = (obj items').dumps) {key : Text} {v' : Json}
    (hv : lookup key items = some v) (hv' : lookup key items' = some v') :
    v.joinedText = v'.joinedText := by
  have hwritable' : (obj items').isWritable = true := by
    by_contra hnot
    rw [dumps, dumps, if_pos hwritable, if_neg hnot] at hdumps
    cases hdumps
  obtain ⟨hwrite, hread⟩ := loads_dumps (isSafe_joinedMembers h hkeys hscalar hwritable)
  obtain ⟨hwrite', hread'⟩ := loads_dumps (isSafe_joinedMembers h' hkeys' hscalar' hwritable')
  rw [dumps_joinedMembers, hdumps, ← dumps_joinedMembers, hwrite', Option.some.injEq] at hwrite
  rw [← hwrite, hread', Option.some.injEq, sortKeys, sortKeys] at hread
  injection hread with hsorted
  have hfst : ∀ l : List (Text × Json), (joinedMembers l).map Prod.fst = l.map Prod.fst := by
    intro l
    rw [joinedMembers, List.map_map]
    rfl
  have hlookup := lookup_sortKeys (hfst items ▸ h) key
  have hlookup' := lookup_sortKeys (hfst items' ▸ h') key
  have hmem : v.IsScalar := hscalar _ ((lookup_eq_some_iff h).mp hv)
  have hmem' : v'.IsScalar := hscalar' _ ((lookup_eq_some_iff h').mp hv')
  rw [← hsorted, hlookup', lookup_joinedMembers h' hv', lookup_joinedMembers h hv, Option.map_some,
    Option.map_some, Option.some.injEq, sortKeys_joinedText hmem, sortKeys_joinedText hmem']
    at hlookup
  exact hlookup.symm

/-! ### Values that are written alike -/

mutual

/-- What the text of a value keeps of it: the members of every object in the order of their keys,
and every text with its pairs joined. -/
def written : Json → Json
  | null => null
  | bool b => bool b
  | int n => int n
  | float literal => float literal
  | str t => str t.joined
  | arr items => arr (writtenItems items)
  | obj items => obj (((writtenMembers items).insertionSort keyLE).map fun p => (p.1.joined, p.2))

/-- `written` of every item. -/
def writtenItems : List Json → List Json
  | [] => []
  | v :: vs => written v :: writtenItems vs

/-- `written` of every member, in place and under its key. -/
def writtenMembers : List (Text × Json) → List (Text × Json)
  | [] => []
  | (k, v) :: rest => (k, written v) :: writtenMembers rest

end

theorem writtenItems_eq (items : List Json) : writtenItems items = items.map written := by
  induction items with
  | nil => rfl
  | cons v vs ih => rw [writtenItems, ih, List.map_cons]

theorem writtenMembers_eq (items : List (Text × Json)) :
    writtenMembers items = items.map fun p => (p.1, p.2.written) := by
  induction items with
  | nil => rfl
  | cons p rest ih => rw [writtenMembers, ih, List.map_cons]

theorem written_obj (items : List (Text × Json)) : (obj items).written
    = obj ((items.insertionSort keyLE).map fun p => (p.1.joined, p.2.written)) := by
  rw [written, writtenMembers_eq, insertionSort_map, List.map_map]
  rfl

theorem render_obj (items : List (Text × Json)) : (obj items).render
    = openBrace :: (commas ((items.insertionSort keyLE).map fun p => member (p.1, p.2.render))
        ++ [closeBrace]) := by
  rw [render, renderMembers_eq, insertionSort_map, List.map_map]
  rfl

/-- A value without pairs is only sorted. -/
theorem written_eq_sortKeys (h : ∀ t ∈ v.texts, Text.IsJsonSafe t) : v.written = v.sortKeys := by
  induction v using Json.induction with
  | null => rfl
  | bool b => rfl
  | int n => rfl
  | float t => rfl
  | str t => rw [written, sortKeys, Text.joined_eq_self (h t (List.mem_singleton.mpr rfl))]
  | arr items ih =>
    rw [written, sortKeys, writtenItems_eq, sortItems_eq]
    exact congrArg arr (List.map_congr_left fun v hv =>
      ih v hv fun t ht => h t (mem_itemTexts.mpr ⟨v, hv, ht⟩))
  | obj items ih =>
    rw [written_obj, sortKeys, sortMembers_eq, insertionSort_map]
    refine congrArg obj (List.map_congr_left fun p hp => ?_)
    rw [List.mem_insertionSort] at hp
    rw [ih p hp fun t ht => h t (mem_memberTexts.mpr ⟨p, hp, Or.inr ht⟩),
      Text.joined_eq_self (h p.1 (mem_memberTexts.mpr ⟨p, hp, Or.inl rfl⟩))]

/-- A text between quotes ends where it says. -/
theorem quote_append_inj {s a b : Text} (h : quote s ++ a = quote t ++ b) :
    s.joined = t.joined ∧ a = b := by
  rw [← quote_joined s, ← quote_joined t, quote, quote, List.cons_append, List.cons_append,
    List.append_assoc, List.append_assoc, List.singleton_append, List.singleton_append] at h
  injection h with _ h
  have hs := scanString_quote s.isJsonSafe_joined a
  rw [h, scanString_quote t.isJsonSafe_joined b, Option.some.injEq, Prod.mk.injEq] at hs
  exact ⟨hs.1.symm, hs.2.symm⟩

theorem isSafe_int {n : ℤ} (h : (int n).isWritable = true) : (int n).IsSafe := by
  have hlength : (Text.ofNat n.natAbs).length ≤ maxStrDigits := of_decide_eq_true h
  exact hlength

theorem exists_head_of_isWritable (h : v.isWritable = true) :
    ∃ c t, v.render = c :: t ∧ IsValueHead c := by
  rcases v with _ | b | n | t | t | items | items
  case float => cases h
  case int => exact exists_head_render (v := .int n) (isSafe_int h)
  case bool => exact exists_head_render (v := .bool b) trivial
  all_goals exact ⟨_, _, rfl, by decide, by decide, by decide⟩

section

variable {α β : Type} {f : α → Text} {g : α → β} {d : CodePoint}

theorem exists_head_commas_map {a : α} (as : List α) (h : ∃ c t, f a = c :: t ∧ c ≠ d) :
    ∃ c t, commas ((a :: as).map f) = c :: t ∧ c ≠ d := by
  obtain ⟨c, t, heq, hc⟩ := h
  rcases as with _ | ⟨b, as⟩
  · exact ⟨c, t, heq, hc⟩
  · refine ⟨c, t ++ Text.ofChar ',' :: commas ((b :: as).map f), ?_, hc⟩
    rw [List.map_cons, List.map_cons, commas_cons_cons, heq]
    rfl

/-- **Lists between commas.**  When the texts of the items end where they say, so does the list. -/
theorem commas_append_inj (hd : d = Text.ofChar ']' ∨ d = closeBrace) {as bs : List α}
    (hhead : ∀ a ∈ as, ∃ c t, f a = c :: t ∧ c ≠ d) (hhead' : ∀ b ∈ bs, ∃ c t, f b = c :: t ∧ c ≠ d)
    (hitem : ∀ a ∈ as, ∀ b ∈ bs, ∀ s t, Delimited s → Delimited t → f a ++ s = f b ++ t →
      g a = g b ∧ s = t)
    {s t : Text} (h : commas (as.map f) ++ d :: s = commas (bs.map f) ++ d :: t) :
    as.map g = bs.map g ∧ s = t := by
  have hcomma : d ≠ Text.ofChar ',' := by
    rcases hd with rfl | rfl <;> decide
  have hend : ∀ u, Delimited (d :: u) := fun u => Delimited.cons u (Or.inr hd)
  have hnext : ∀ u, Delimited (Text.ofChar ',' :: u) := fun u => Delimited.cons u (Or.inl rfl)
  induction as generalizing bs with
  | nil =>
    rcases bs with _ | ⟨b, bs⟩
    · exact ⟨rfl, (List.cons.inj h).2⟩
    · -- one list is at its end where the other has an item
      obtain ⟨c, u, heq, hc⟩ := exists_head_commas_map bs (hhead' b List.mem_cons_self)
      rw [heq] at h
      exact absurd (List.cons.inj h).1.symm hc
  | cons a as ih =>
    rcases bs with _ | ⟨b, bs⟩
    · obtain ⟨c, u, heq, hc⟩ := exists_head_commas_map as (hhead a List.mem_cons_self)
      rw [heq] at h
      exact absurd (List.cons.inj h).1 hc
    have hfirst := hitem a List.mem_cons_self b List.mem_cons_self
    rw [List.map_cons, List.map_cons]
    rcases as with _ | ⟨a', as⟩ <;> rcases bs with _ | ⟨b', bs⟩
    · obtain ⟨hg, hrest⟩ := hfirst _ _ (hend s) (hend t) h
      exact ⟨by rw [hg], (List.cons.inj hrest).2⟩
    · simp only [List.map_cons, List.map_nil, commas_cons_cons, List.append_assoc, List.cons_append]
        at h
      exact absurd (List.cons.inj (hfirst _ _ (hend s) (hnext _) h).2).1 hcomma
    · simp only [List.map_cons, List.map_nil, commas_cons_cons, List.append_assoc, List.cons_append]
        at h
      exact absurd (List.cons.inj (hfirst _ _ (hnext _) (hend t) h).2).1.symm hcomma
    · simp only [List.map_cons, commas_cons_cons, List.append_assoc, List.cons_append] at h
      obtain ⟨hg, hrest⟩ := hfirst _ _ (hnext _) (hnext _) h
      obtain ⟨hmap, hst⟩ := ih (fun x hx => hhead x (List.mem_cons_of_mem a hx))
        (fun x hx => hhead' x (List.mem_cons_of_mem b hx))
        (fun x hx y hy => hitem x (List.mem_cons_of_mem a hx) y (List.mem_cons_of_mem b hy))
        (List.cons.inj hrest).2
      exact ⟨by rw [hg, hmap], hst⟩

end

/-- A value with nothing inside is read as what was written of it. -/
theorem readsTo_scalar (hscalar : v.IsScalar) (h : v.isWritable = true) :
    ReadsTo v.render v.written := by
  rcases v with _ | b | n | t | t | items | items
  · exact readsTo_null
  · exact readsTo_bool b
  · exact readsTo_int (isSafe_int h)
  · cases h
  · rw [render, ← quote_joined]
    exact readsTo_str t.isJsonSafe_joined
  · exact hscalar.elim
  · exact hscalar.elim

/-- The first character of a text between brackets. -/
theorem head_ne_of_scalar (hscalar : v.IsScalar) (h : v.isWritable = true) :
    ∃ c t, v.render = c :: t ∧ c ≠ Text.ofChar '[' ∧ c ≠ openBrace := by
  rcases v with _ | b | n | t | t | items | items
  · exact ⟨_, _, rfl, by decide, by decide⟩
  · rcases b <;> exact ⟨_, _, rfl, by decide, by decide⟩
  · rw [render, Text.ofInt]
    split_ifs
    · exact ⟨_, _, rfl, by decide, by decide⟩
    · obtain ⟨c, t, heq, hc, -⟩ := Text.ofNat_eq_cons n.natAbs
      refine ⟨c, t, heq, ?_, ?_⟩
      · rintro rfl
        revert hc
        decide
      · rintro rfl
        revert hc
        decide
  · cases h
  · exact ⟨_, _, rfl, by decide, by decide⟩
  · exact hscalar.elim
  · exact hscalar.elim

theorem scalar_or_nested (v : Json) :
    v.IsScalar ∨ (∃ items, v = arr items) ∨ ∃ items, v = obj items := by
  rcases v with _ | b | n | t | t | items | items
  case arr => exact .inr (.inl ⟨items, rfl⟩)
  case obj => exact .inr (.inr ⟨items, rfl⟩)
  all_goals exact .inl trivial

section

variable {v w : Json} {s t : Text}

/-- A value with nothing inside is read back, and so is what follows it. -/
theorem scalar_append_inj (hscalar : v.IsScalar) (hv : v.isWritable = true)
    (hw : w.isWritable = true) (hs : Delimited s) (ht : Delimited t)
    (h : v.render ++ s = w.render ++ t) : v.written = w.written ∧ s = t := by
  obtain ⟨c, u, heq, hbracket, hbrace⟩ := head_ne_of_scalar hscalar hv
  rcases w.scalar_or_nested with hscalar' | ⟨items, rfl⟩ | ⟨items, rfl⟩
  · have hread := (readsTo_scalar hscalar hv).scan s hs (v.render.length + w.render.length)
      (Nat.le_add_right _ _)
    rw [h, (readsTo_scalar hscalar' hw).scan t ht _ (Nat.le_add_left _ _), Option.some.injEq,
      Prod.mk.injEq] at hread
    exact ⟨hread.1.symm, hread.2.symm⟩
  · rw [heq, render] at h
    exact absurd (List.cons.inj h).1 hbracket
  · rw [heq, render] at h
    exact absurd (List.cons.inj h).1 hbrace

end

/-- **The text of a value ends where it says**, and tells what was written. -/
theorem render_append_inj {w : Json} (hv : v.isWritable = true) (hw : w.isWritable = true)
    {s : Text} (hs : Delimited s) (ht : Delimited t) (h : v.render ++ s = w.render ++ t) :
    v.written = w.written ∧ s = t := by
  induction v using Json.induction generalizing w s t with
  | arr items ih =>
    rcases w.scalar_or_nested with hscalar | ⟨items', rfl⟩ | ⟨items', rfl⟩
    · obtain ⟨hwritten, hrest⟩ := scalar_append_inj hscalar hw hv ht hs h.symm
      exact ⟨hwritten.symm, hrest.symm⟩
    · rw [isWritable, areWritable_iff] at hv hw
      rw [render, render, renderItems_eq, renderItems_eq, List.cons_append, List.cons_append,
        List.append_assoc, List.append_assoc] at h
      have hhead : ∀ {l : List Json}, (∀ v ∈ l, v.isWritable = true) → ∀ v ∈ l,
          ∃ c t, v.render = c :: t ∧ c ≠ Text.ofChar ']' := by
        intro l hl v hmem
        obtain ⟨c, u, heq, hc⟩ := exists_head_of_isWritable (hl v hmem)
        exact ⟨c, u, heq, hc.bracket⟩
      obtain ⟨hitems, hrest⟩ := commas_append_inj (Or.inl rfl) (hhead hv) (hhead hw)
        (fun a ha b hb s t hs ht h => ih a ha (hv a ha) (hw b hb) hs ht h) (List.cons.inj h).2
      rw [written, written, writtenItems_eq, writtenItems_eq, hitems]
      exact ⟨rfl, hrest⟩
    · rw [render, render] at h
      exact absurd (List.cons.inj h).1 (by decide)
  | obj items ih =>
    rcases w.scalar_or_nested with hscalar | ⟨items', rfl⟩ | ⟨items', rfl⟩
    · obtain ⟨hwritten, hrest⟩ := scalar_append_inj hscalar hw hv ht hs h.symm
      exact ⟨hwritten.symm, hrest.symm⟩
    · rw [render, render] at h
      exact absurd (List.cons.inj h).1 (by decide)
    · rw [isWritable, membersWritable_iff] at hv hw
      rw [render_obj, render_obj, List.cons_append, List.cons_append, List.append_assoc,
        List.append_assoc] at h
      have hhead : ∀ l : List (Text × Json), ∀ p ∈ l,
          ∃ c t, member (p.1, p.2.render) = c :: t ∧ c ≠ closeBrace :=
        fun l p _ => ⟨_, _, rfl, by decide⟩
      -- the key ends where it says, then the value
      have hmember : ∀ p ∈ items.insertionSort keyLE, ∀ q ∈ items'.insertionSort keyLE, ∀ s t,
          Delimited s → Delimited t →
          member (p.1, p.2.render) ++ s = member (q.1, q.2.render) ++ t →
          (p.1.joined, p.2.written) = (q.1.joined, q.2.written) ∧ s = t := by
        intro p hp q hq s t hs ht h
        rw [List.mem_insertionSort] at hp hq
        rw [member, member, List.append_assoc, List.append_assoc, List.cons_append,
          List.cons_append] at h
        obtain ⟨hkey, hvalue⟩ := quote_append_inj h
        obtain ⟨hwritten, hrest⟩ :=
          ih p hp (hv p hp) (hw q hq) hs ht (List.cons.inj hvalue).2
        exact ⟨Prod.ext hkey hwritten, hrest⟩
      obtain ⟨hitems, hrest⟩ := commas_append_inj (Or.inr rfl) (hhead _) (hhead _) hmember
        (List.cons.inj h).2
      rw [written_obj, written_obj, hitems]
      exact ⟨rfl, hrest⟩
  | null => exact scalar_append_inj trivial hv hw hs ht h
  | bool b => exact scalar_append_inj trivial hv hw hs ht h
  | int n => exact scalar_append_inj trivial hv hw hs ht h
  | float literal => exact scalar_append_inj trivial hv hw hs ht h
  | str text => exact scalar_append_inj trivial hv hw hs ht h

/-- **Values that are written alike** are equal up to the order of keys and up to pairs. -/
theorem written_eq_of_dumps_eq {w : Json} (hv : v.dumps = some t)
    (hw : w.dumps = some t) : v.written = w.written := by
  have hwritable : ∀ {u : Json}, u.dumps = some t → u.isWritable = true ∧ u.render = t := by
    intro u hu
    by_cases h : u.isWritable = true
    · rw [dumps, if_pos h] at hu
      exact ⟨h, Option.some.inj hu⟩
    · rw [dumps, if_neg h] at hu
      cases hu
  obtain ⟨hwrite, rfl⟩ := hwritable hv
  obtain ⟨hwrite', heq⟩ := hwritable hw
  exact (render_append_inj hwrite hwrite' (Or.inl rfl) (Or.inl rfl)
    (show v.render ++ [] = w.render ++ [] by rw [heq])).1

end Json

end PyModel
