import FuturesAgentOs.PyModel.Revisions
import FuturesAgentOs.PyModel.Sorting
import FuturesAgentOs.ReferenceMarketData.MarketObservation

namespace FuturesAgentOs

open PyModel

/-!
# The active observations

`reference_market_data/market_snapshots.py`: a history of observations is checked as a graph of
corrections that does not fork, and the active ones at a time are those visible then that no
visible one supersedes.

* `validate_eq_ok_iff` — the histories that pass, whatever their order.
-/

/-! ### The checks of a history -/

namespace MarketObservation

/-- An observation that claims to correct the one with an identity. -/
def Corrects (o : MarketObservation) (id : EntityId) : Prop :=
  o.fields.revision ≠ 1 ∧ o.fields.supersedesObservationId = some id

instance (o : MarketObservation) (id : EntityId) : Decidable (o.Corrects id) :=
  inferInstanceAs (Decidable (_ ∧ _))

end MarketObservation

/-- `by_id.get(id)` -/
def observationById (h : List MarketObservation) (id : EntityId) : Option MarketObservation :=
  h.find? (fun item => item.fields.observationId = id)

/-- The walk from one observation over its predecessors comes to one that it has seen.  A walk that
sees none twice is no longer than the history. -/
def walksInCycle (h : List MarketObservation) : ℕ → List EntityId → EntityId → Bool
  | 0, _, _ => true
  | fuel + 1, seen, current =>
    match observationById h current with
    | none => false
    | some item =>
      if current ∈ seen then true
      else
        match item.fields.supersedesObservationId with
        | none => false
        | some predecessorId => walksInCycle h fuel (current :: seen) predecessorId

/-- The checks of a correction against what it corrects. -/
def checkCorrection (item predecessor : MarketObservation) : Py Unit := do
  require (item.naturalKey = predecessor.naturalKey)
    (valueError
      "DATA_CONFLICT: revised market observation must preserve its natural key and source lineage")
  require (item.fields.revision = predecessor.fields.revision + 1)
    (valueError
      "DATA_CONFLICT: market observation revision must increment its predecessor by one")
  require (predecessor.fields.availableTime < item.fields.availableTime)
    (valueError
      "DATA_CONFLICT: revised market observation must have a strictly later available_time")
  require (predecessor.fields.ingestedAt < item.fields.ingestedAt)
    (valueError "DATA_CONFLICT: revised market observation must have a strictly later ingested_at")

/-- `by_id[item.supersedes_observation_id]`, in a history that holds it. -/
def checkItem (h : List MarketObservation) (item : MarketObservation) : Py Unit :=
  if item.fields.revision = 1 then .ok ()
  else
    match item.fields.supersedesObservationId.bind (observationById h) with
    | none => .error ⟨.keyError, []⟩
    | some predecessor => checkCorrection item predecessor

def validateObservationRevisionHistory (h : List MarketObservation) : Py Unit := do
  require ((h.map (·.fields.observationId)).Nodup)
    (valueError "DATA_CONFLICT: duplicate market observation id")
  require (∀ item ∈ h, ∀ id ∈ item.fields.supersedesObservationId, item.Corrects id →
      (observationById h id).isSome = true)
    (valueError "DATA_CONFLICT: revised market observation predecessor is absent from history")
  require (∀ p ∈ h, (h.filter (·.Corrects p.fields.observationId)).length ≤ 1)
    (valueError "DATA_CONFLICT: market observation revision history forks")
  require (∀ start ∈ h, walksInCycle h (h.length + 1) [] start.fields.observationId = false)
    (valueError "DATA_CONFLICT: market observation revision history contains a cycle")
  h.forM (checkItem h)

/-! ### The selection -/

namespace MarketObservation

/-- The observation can be used at a time. -/
def isVisibleAt (o : MarketObservation) (asOf : RecordedAt) : Bool :=
  o.fields.availableTime ≤ asOf && o.fields.ingestedAt ≤ asOf

end MarketObservation

/-- The comparisons of `_observation_sort_key`, component by component. -/
def observationSortKey : List (MarketObservation → MarketObservation → Bool) := [
  fun a b => Text.le a.referenceId b.referenceId,
  fun a b => Text.le a.fields.kind.value b.fields.kind.value,
  fun a b => Text.le a.fields.eventTime.text b.fields.eventTime.text,
  fun a b => Text.le a.fields.availableTime.text b.fields.availableTime.text,
  fun a b => Text.le a.fields.ingestedAt.text b.fields.ingestedAt.text,
  fun a b => decide (a.fields.sourceSequence ≤ b.fields.sourceSequence),
  fun a b => Text.le a.fields.observationId.str b.fields.observationId.str]

/-- What `select_active_observations` returns for a history that was checked. -/
def activeObservations (h : List MarketObservation) (asOf : RecordedAt) : List MarketObservation :=
  let visible := h.filter (·.isVisibleAt asOf)
  (visible.filter (fun item => !visible.any (fun successor =>
    successor.fields.supersedesObservationId = some item.fields.observationId))).mergeSort
      (lexLe observationSortKey)

def selectActiveObservations (h : List MarketObservation) (asOf : RecordedAt) :
    Py (List MarketObservation) := do
  require (h ≠ []) (valueError "active observation selection requires observations")
  validateObservationRevisionHistory h
  .ok (activeObservations h asOf)

/-! ### The histories that pass -/

/-- Observations as revisions. -/
def marketRevisions : Revisions MarketObservation EntityId where
  id o := o.fields.observationId
  supersedes o := o.fields.supersedesObservationId
  number o := o.fields.revision

/-- What the checks of a history leave. -/
structure IsObservationHistory (h : List MarketObservation) : Prop where
  ids : (h.map (·.fields.observationId)).Nodup
  present : ∀ x ∈ h, ∀ i, x.fields.supersedesObservationId = some i →
    ∃ p ∈ h, p.fields.observationId = i
  noFork : ∀ x ∈ h, ∀ y ∈ h, ∀ i, x.fields.supersedesObservationId = some i →
    y.fields.supersedesObservationId = some i → x = y
  corrects : ∀ x ∈ h, ∀ p ∈ h, x.fields.supersedesObservationId = some p.fields.observationId →
    checkCorrection x p = .ok ()

namespace IsObservationHistory

variable {h h' : List MarketObservation} {x p : MarketObservation} {id : EntityId}

theorem observationById_eq (hids : (h.map (·.fields.observationId)).Nodup) (hp : p ∈ h) :
    observationById h p.fields.observationId = some p := by
  rcases hfind : observationById h p.fields.observationId with _ | found
  · have hnot := List.find?_eq_none.mp hfind p hp
    exact absurd (decide_eq_true rfl) hnot
  · have hid : found.fields.observationId = p.fields.observationId := by
      simpa using List.find?_some hfind
    rw [List.inj_on_of_nodup_map hids (List.mem_of_find?_eq_some hfind) hp hid]

theorem exists_of_isSome (h' : (observationById h id).isSome = true) :
    ∃ p ∈ h, p.fields.observationId = id := by
  obtain ⟨p, hp⟩ := Option.isSome_iff_exists.mp h'
  exact ⟨p, List.mem_of_find?_eq_some hp, by simpa using List.find?_some hp⟩

theorem corrects_iff {o : MarketObservation} :
    o.Corrects id ↔ o.fields.supersedesObservationId = some id := by
  refine ⟨And.right, fun hs => ⟨fun hone => ?_, hs⟩⟩
  rw [o.supersedes_eq_none_iff.mpr hone] at hs
  cases hs

/-- A predecessor has the number before, so no walk comes back. -/
theorem walksInCycle_eq_false (hh : IsObservationHistory h) {fuel : ℕ} {seen : List EntityId}
    (hp : p ∈ h) (hnodup : seen.Nodup) (hfuel : h.length + 1 ≤ seen.length + fuel)
    (hseen : ∀ i ∈ seen, ∃ o ∈ h, o.fields.observationId = i
      ∧ p.fields.revision < o.fields.revision) :
    walksInCycle h fuel seen p.fields.observationId = false := by
  induction fuel generalizing seen p with
  | zero =>
    -- no more identities can have been seen than there are
    have hsub : seen ⊆ h.map (·.fields.observationId) := fun i hi => by
      obtain ⟨o, ho, hid, -⟩ := hseen i hi
      exact List.mem_map.mpr ⟨o, ho, hid⟩
    have hle := (List.subperm_of_subset hnodup hsub).length_le
    rw [List.length_map] at hle
    omega
  | succ fuel ih =>
    have hnew : p.fields.observationId ∉ seen := by
      intro hmem
      obtain ⟨o, ho, hid, hlt⟩ := hseen _ hmem
      rw [List.inj_on_of_nodup_map hh.ids ho hp hid] at hlt
      exact lt_irrefl _ hlt
    rw [walksInCycle, observationById_eq hh.ids hp]
    dsimp only
    rw [if_neg hnew]
    rcases hs : p.fields.supersedesObservationId with _ | i
    · rfl
    · obtain ⟨q, hq, rfl⟩ := hh.present p hp i hs
      have hcheck := hh.corrects p hp q hq hs
      simp only [checkCorrection, require_bind_eq_ok] at hcheck
      have hrevision := hcheck.2.1
      refine ih hq (List.nodup_cons.mpr ⟨hnew, hnodup⟩) ?_ ?_
      · rw [List.length_cons]
        omega
      · rw [List.forall_mem_cons]
        refine ⟨⟨p, hp, rfl, by omega⟩, fun i hi => ?_⟩
        obtain ⟨o, ho, hid, hlt⟩ := hseen i hi
        exact ⟨o, ho, hid, by omega⟩

/-- **The histories that pass the checks.** -/
theorem validate_eq_ok_iff :
    validateObservationRevisionHistory h = .ok () ↔ IsObservationHistory h := by
  simp only [validateObservationRevisionHistory, require_bind_eq_ok]
  constructor
  · rintro ⟨hids, hpresent, hforks, -, hitems⟩
    have hpresent' : ∀ x ∈ h, ∀ i, x.fields.supersedesObservationId = some i →
        ∃ p ∈ h, p.fields.observationId = i := fun x hx i hs =>
      exists_of_isSome (hpresent x hx i hs (corrects_iff.mpr hs))
    refine ⟨hids, hpresent', fun x hx y hy i hsx hsy => ?_, fun x hx p hp hs => ?_⟩
    · obtain ⟨p, hp, rfl⟩ := hpresent' x hx i hsx
      exact eq_of_length_le_one (hforks p hp)
        (List.mem_filter.mpr ⟨hx, decide_eq_true (corrects_iff.mpr hsx)⟩)
        (List.mem_filter.mpr ⟨hy, decide_eq_true (corrects_iff.mpr hsy)⟩)
    · have hitem := Py.forM_eq_ok.mp hitems x hx
      rw [checkItem, if_neg (corrects_iff.mpr hs).1, hs, Option.bind_some,
        observationById_eq hids hp] at hitem
      exact hitem
  · intro hh
    refine ⟨hh.ids, fun x hx i hs _ => ?_, fun p _ => ?_, fun start hstart => ?_, ?_⟩
    · obtain ⟨p, hp, rfl⟩ := hh.present x hx i hs
      rw [observationById_eq hh.ids hp]
      rfl
    · refine length_le_one_of_forall_eq ((List.Nodup.of_map _ hh.ids).filter _)
        fun x hx y hy => ?_
      obtain ⟨hxmem, hxs⟩ := List.mem_filter.mp hx
      obtain ⟨hymem, hys⟩ := List.mem_filter.mp hy
      exact hh.noFork x hxmem y hymem _ (of_decide_eq_true hxs).2 (of_decide_eq_true hys).2
    · exact hh.walksInCycle_eq_false hstart List.nodup_nil (by simp)
        fun i hi => absurd hi List.not_mem_nil
    · refine Py.forM_eq_ok.mpr ?_
      intro x hx
      unfold checkItem
      split
      · rfl
      · rename_i hrevised
        rcases hs : x.fields.supersedesObservationId with _ | i
        · exact absurd (x.supersedes_eq_none_iff.mp hs) hrevised
        · obtain ⟨p, hp, rfl⟩ := hh.present x hx i hs
          rw [Option.bind_some, observationById_eq hh.ids hp]
          exact hh.corrects x hx p hp hs

end IsObservationHistory

end FuturesAgentOs
