import FuturesAgentOs.ReferenceMarketData.AliasResolution
import FuturesAgentOs.ReferenceMarketData.MarketSnapshots

namespace FuturesAgentOs

open PyModel

/-!
# Each lineage has one active observation

A correction becomes available and is ingested later than what it corrects, so what is visible at a
time is a part of the history that holds what its members supersede.

* `select_active_observations` — what is selected at a time and at a later one.
-/

namespace MarketObservation

variable {o : MarketObservation} {asOf later : RecordedAt}

theorem isVisibleAt_iff : o.isVisibleAt asOf = true
    ↔ o.fields.availableTime ≤ asOf ∧ o.fields.ingestedAt ≤ asOf := by
  rw [isVisibleAt, Bool.and_eq_true, decide_eq_true_eq, decide_eq_true_eq]

theorem isVisibleAt_mono (hle : asOf ≤ later) (h : o.isVisibleAt asOf = true) :
    o.isVisibleAt later = true := by
  obtain ⟨havailable, hingested⟩ := isVisibleAt_iff.mp h
  exact isVisibleAt_iff.mpr ⟨Nat.le_trans havailable hle, Nat.le_trans hingested hle⟩

end MarketObservation

/-- The part of a history that is visible at a time. -/
def visibleObservations (h : List MarketObservation) (asOf : RecordedAt) : List MarketObservation :=
  h.filter (·.isVisibleAt asOf)

section

variable {h h' : List MarketObservation} {asOf later : RecordedAt}

theorem mem_visibleObservations {x : MarketObservation} :
    x ∈ visibleObservations h asOf ↔ x ∈ h ∧ x.isVisibleAt asOf = true := List.mem_filter

/-! ### The history as revisions -/

namespace IsObservationHistory

variable (hh : IsObservationHistory h)
include hh

/-- **A history that passes the checks** is one of revisions. -/
theorem isHistory : marketRevisions.IsHistory h where
  ids := hh.ids
  present x hx i hs := by
    obtain ⟨p, hp, hid⟩ := hh.present x hx i hs
    exact List.mem_map.mpr ⟨p, hp, hid⟩
  noFork x hx y hy hsome heq := by
    obtain ⟨i, hi⟩ := Option.ne_none_iff_exists'.mp hsome
    exact hh.noFork x hx y hy i hi (heq.symm.trans hi)
  increments x hx y hstep := by
    have hcheck := hh.corrects y hstep.1 x hx hstep.2
    simp only [checkCorrection, require_bind_eq_ok] at hcheck
    exact hcheck.2.1
  positive x _ := x.one_le_revision

/-- **What is visible** holds what its members supersede. -/
theorem isPart_visible (asOf : RecordedAt) :
    marketRevisions.IsPart h (visibleObservations h asOf) where
  subset := List.filter_sublist.subset
  closed y hy x hx hstep := by
    obtain ⟨hymem, hyvisible⟩ := mem_visibleObservations.mp hy
    have hcheck := hh.corrects y hymem x hx hstep.2
    simp only [checkCorrection, require_bind_eq_ok, require_eq_ok] at hcheck
    obtain ⟨-, -, havailable, hingested⟩ := hcheck
    obtain ⟨havailable', hingested'⟩ := MarketObservation.isVisibleAt_iff.mp hyvisible
    rw [mem_visibleObservations, MarketObservation.isVisibleAt_iff]
    exact ⟨hx, Nat.le_trans (Nat.le_of_lt havailable) havailable',
      Nat.le_trans (Nat.le_of_lt hingested) hingested'⟩

/-- The checks do not depend on the order. -/
theorem perm (hperm : h.Perm h') : IsObservationHistory h' where
  ids := (hperm.map _).nodup_iff.mp hh.ids
  present x hx i hs := by
    obtain ⟨p, hp, hid⟩ := hh.present x (hperm.mem_iff.mpr hx) i hs
    exact ⟨p, hperm.mem_iff.mp hp, hid⟩
  noFork x hx y hy := hh.noFork x (hperm.mem_iff.mpr hx) y (hperm.mem_iff.mpr hy)
  corrects x hx p hp := hh.corrects x (hperm.mem_iff.mpr hx) p (hperm.mem_iff.mpr hp)

end IsObservationHistory

/-! ### The selection -/

theorem activeObservations_eq : activeObservations h asOf
    = (marketRevisions.leaves (visibleObservations h asOf)).mergeSort (lexLe observationSortKey) :=
  rfl

theorem mem_activeObservations {x : MarketObservation} : x ∈ activeObservations h asOf
    ↔ x ∈ marketRevisions.leaves (visibleObservations h asOf) := List.mem_mergeSort

theorem observationSortKey_order : ∀ le ∈ observationSortKey,
    (∀ a b c, le a b = true → le b c = true → le a c = true)
      ∧ ∀ a b, (le a b || le b a) = true := by
  simp only [observationSortKey, List.forall_mem_cons]
  exact ⟨order_text _, order_text _, order_text _, order_text _, order_text _, order_int _,
    order_text _, fun le hle => absurd hle List.not_mem_nil⟩

/-- **The order of the history does not matter.** -/
theorem activeObservations_perm (hh : IsObservationHistory h) (hperm : h.Perm h') :
    activeObservations h asOf = activeObservations h' asOf := by
  have hvisible : (visibleObservations h asOf).Perm (visibleObservations h' asOf) := hperm.filter _
  have hleaves : (marketRevisions.leaves (visibleObservations h asOf)).Perm
      (marketRevisions.leaves (visibleObservations h' asOf)) := by
    unfold Revisions.leaves
    rw [List.filter_congr fun x _ => congrArg not hvisible.any_eq]
    exact hvisible.filter _
  rw [activeObservations_eq, activeObservations_eq]
  refine mergeSort_eq_of_perm (lexLe_trans fun le hle => (observationSortKey_order le hle).1)
    (lexLe_total fun le hle => (observationSortKey_order le hle).2) ?_ hleaves
  -- the last component of the key, the identity, tells two observations apart
  intro a ha b hb hab hba
  have hsame := le_of_lexLe hab hba _
    (show (fun a b : MarketObservation =>
      Text.le a.fields.observationId.str b.fields.observationId.str) ∈ observationSortKey by
        simp only [observationSortKey, List.mem_cons, true_or, or_true])
  have hid := EntityId.str_inj (Text.le_antisymm hsame.1 hsame.2)
  have hmem : ∀ {x}, x ∈ marketRevisions.leaves (visibleObservations h asOf) → x ∈ h := fun hx =>
    (mem_visibleObservations.mp (Revisions.mem_leaves.mp hx).1).1
  exact hh.isHistory.id_inj (hmem ha) (hmem hb) hid

end

/-- **Each lineage that is visible has one active observation.**  The history passes the checks.
Of every lineage whose root is visible, the selection holds one observation, the visible one of the
highest revision, and it holds no other.  The order of the history does not matter.  At a later time
each lineage that was active still is, at the same revision or a higher one. -/
theorem select_active_observations (h : List MarketObservation) (asOf : RecordedAt) (hne : h ≠ [])
    (hvalid : validateObservationRevisionHistory h = .ok ()) :
    ∃ active, selectActiveObservations h asOf = .ok active ∧ active.Nodup
      ∧ (∀ root ∈ h, root.fields.revision = 1 → root.isVisibleAt asOf = true →
        ∃ x ∈ active, marketRevisions.Lineage h root x
          ∧ (∀ y ∈ h, y.isVisibleAt asOf = true → marketRevisions.Lineage h root y →
            y.fields.revision ≤ x.fields.revision)
          ∧ ∀ x' ∈ active, marketRevisions.Lineage h root x' → x' = x)
      ∧ (∀ x ∈ active, x ∈ h ∧ x.isVisibleAt asOf = true ∧ ∃ root ∈ h, root.fields.revision = 1
        ∧ root.isVisibleAt asOf = true ∧ marketRevisions.Lineage h root x)
      ∧ (∀ h' : List MarketObservation, h.Perm h' → selectActiveObservations h' asOf = .ok active)
      ∧ ∀ later, asOf ≤ later → ∃ active', selectActiveObservations h later = .ok active'
        ∧ ∀ x ∈ active, ∃ y ∈ active', marketRevisions.Lineage h x y
          ∧ x.fields.revision ≤ y.fields.revision := by
  have hh := IsObservationHistory.validate_eq_ok_iff.mp hvalid
  have hselect : ∀ {h' : List MarketObservation} {t}, h.Perm h' →
      selectActiveObservations h' t = .ok (activeObservations h t) := by
    intro h' t hperm
    have hne' : h' ≠ [] := fun hnil => hne (List.perm_nil.mp (hnil ▸ hperm))
    rw [selectActiveObservations, require_of_pos hne', Py.ok_bind,
      IsObservationHistory.validate_eq_ok_iff.mpr (hh.perm hperm), Py.ok_bind,
      activeObservations_perm hh hperm]
  have hpart := hh.isPart_visible asOf
  refine ⟨activeObservations h asOf, hselect (List.Perm.refl h), ?_, ?_, ?_,
    fun h' hperm => hselect hperm, ?_⟩
  · rw [activeObservations_eq, (List.mergeSort_perm _ _).nodup_iff]
    exact ((List.Nodup.of_map _ hh.ids).filter _).filter _
  · intro root hroot hone hvisible
    obtain ⟨x, hx, hl⟩ := hh.isHistory.exists_leaf hpart
      (mem_visibleObservations.mpr ⟨hroot, hvisible⟩)
    refine ⟨x, mem_activeObservations.mpr hx, hl, fun y hy hyvisible hly => ?_,
      fun x' hx' hl' => ?_⟩
    · exact hh.isHistory.number_le_leaf hpart hl hx
        (mem_visibleObservations.mpr ⟨hy, hyvisible⟩) hly
    · exact hh.isHistory.leaf_unique hpart hl hl' hx (mem_activeObservations.mp hx')
  · intro x hx
    have hmem := (Revisions.mem_leaves.mp (mem_activeObservations.mp hx)).1
    obtain ⟨hxmem, hxvisible⟩ := mem_visibleObservations.mp hmem
    obtain ⟨root, hroot, hnone, hl⟩ := hh.isHistory.exists_root hpart hmem
    obtain ⟨hrmem, hrvisible⟩ := mem_visibleObservations.mp hroot
    exact ⟨hxmem, hxvisible, root, hrmem, root.supersedes_eq_none_iff.mp hnone, hrvisible, hl⟩
  · intro later hle
    refine ⟨activeObservations h later, hselect (List.Perm.refl h), fun x hx => ?_⟩
    have hmem := (Revisions.mem_leaves.mp (mem_activeObservations.mp hx)).1
    obtain ⟨hxmem, hxvisible⟩ := mem_visibleObservations.mp hmem
    obtain ⟨y, hy, hl⟩ := hh.isHistory.exists_leaf (hh.isPart_visible later)
      (mem_visibleObservations.mpr ⟨hxmem, MarketObservation.isVisibleAt_mono hle hxvisible⟩)
    exact ⟨y, mem_activeObservations.mpr hy, hl, hh.isHistory.number_le hxmem hl⟩

/-- **No look-ahead.**  What is visible of a history passes its checks as well, and alone gives the
selections of that time and of every earlier one. -/
theorem selection_of_visible (h : List MarketObservation) (asOf : RecordedAt)
    (hvalid : validateObservationRevisionHistory h = .ok ()) :
    validateObservationRevisionHistory (visibleObservations h asOf) = .ok () ∧ ∀ earlier ≤ asOf,
      activeObservations (visibleObservations h asOf) earlier = activeObservations h earlier := by
  have hh := IsObservationHistory.validate_eq_ok_iff.mp hvalid
  have hpart := hh.isPart_visible asOf
  refine ⟨IsObservationHistory.validate_eq_ok_iff.mpr ⟨hh.ids.sublist (List.filter_sublist.map _),
    fun x hx i hs => ?_, fun x hx y hy => hh.noFork x (hpart.subset hx) y (hpart.subset hy),
    fun x hx p hp => hh.corrects x (hpart.subset hx) p (hpart.subset hp)⟩, fun earlier hle => ?_⟩
  · obtain ⟨p, hp, rfl⟩ := hh.present x (hpart.subset hx) i hs
    exact ⟨p, hpart.closed x hx p hp ⟨hpart.subset hx, hs⟩, rfl⟩
  · rw [activeObservations_eq, activeObservations_eq, visibleObservations, visibleObservations,
      List.filter_filter]
    congr 2
    exact List.filter_congr fun x _ =>
      Bool.and_eq_left_iff_imp.mpr (MarketObservation.isVisibleAt_mono hle)

/-! ### A quote and its correction -/

namespace MarketObservation

/-- A moment of the sample day. -/
def moment (hour : Fin 24) : RecordedAt := ⟨InstrumentRegistry.releasedAt.date, hour, 0, 0, 0⟩

/-- The fields of a quote, available and ingested at one time. -/
def quoteFields (n : Fin 0x1000) (eventTime availableTime : RecordedAt) :
    MarketObservationFields where
  observationId := .epoch "market_observation" n 0 (Eq.refl true)
  reference := .instrument InstrumentRegistry.rebarOctober
  kind := .QUOTE
  eventTime := eventTime
  availableTime := availableTime
  ingestedAt := availableTime
  source := ⟨⟨"exchange", moment 0, none, none⟩, rfl⟩
  sourceTrust := .PRIMARY
  sourceSequence := 0

/-- A quote of nine o'clock that is available at ten. -/
def quote : MarketObservation := ⟨quoteFields 1 (moment 9) (moment 10), by decide +kernel⟩

/-- Its correction, available at twelve. -/
def corrected : MarketObservation :=
  ⟨{ quoteFields 2 (moment 9) (moment 12) with
      revision := 2
      supersedesObservationId := some quote.fields.observationId }, by decide +kernel⟩

/-- At eleven the lineage of the quote has one active observation. -/
theorem select_active_observations_quote :
    ∃ active, selectActiveObservations [corrected, quote] (moment 11) = .ok active
      ∧ ∃ x ∈ active, marketRevisions.Lineage [corrected, quote] quote x
        ∧ ∀ x' ∈ active, marketRevisions.Lineage [corrected, quote] quote x' → x' = x := by
  obtain ⟨active, hactive, -, hroots, -⟩ := select_active_observations [corrected, quote] (moment 11)
    (List.cons_ne_nil _ _) (by decide +kernel)
  obtain ⟨x, hx, hl, -, honly⟩ := hroots quote (List.mem_cons_of_mem _ List.mem_cons_self) rfl
    (by decide)
  exact ⟨active, hactive, x, hx, hl, honly⟩

theorem selection_of_visible_quote : validateObservationRevisionHistory
    (visibleObservations [corrected, quote] (moment 11)) = .ok () :=
  (selection_of_visible _ _ (by decide +kernel)).1

end MarketObservation

end FuturesAgentOs
