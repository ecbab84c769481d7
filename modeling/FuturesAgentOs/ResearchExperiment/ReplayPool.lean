import FuturesAgentOs.PyModel.DecimalContext
import FuturesAgentOs.PyModel.Sorting
import FuturesAgentOs.SharedKernel.JsonObject
import FuturesAgentOs.SharedKernel.Time

namespace FuturesAgentOs

open PyModel

/-!
# The replay candidate pool

`research_experiment/mvp_replay.py`: `stratified_replay_candidates` and the scores of its windows,
for any `str`.  A close is a finite number.

* `ReplaySelection.replayCandidates_spec` — with the balance of the pool.
-/

inductive EpisodeStratum where
  | UP_TREND
  | DOWN_TREND
  | RANGE
  | REVERSAL
  | EXTREME_VOLATILITY
  | FALSE_BREAKOUT
  | NOISE
  deriving DecidableEq

namespace EpisodeStratum

def value : EpisodeStratum → Text
  | UP_TREND => "UP_TREND"
  | DOWN_TREND => "DOWN_TREND"
  | RANGE => "RANGE"
  | REVERSAL => "REVERSAL"
  | EXTREME_VOLATILITY => "EXTREME_VOLATILITY"
  | FALSE_BREAKOUT => "FALSE_BREAKOUT"
  | NOISE => "NOISE"

/-- The members, in order. -/
def all : List EpisodeStratum :=
  [UP_TREND, DOWN_TREND, RANGE, REVERSAL, EXTREME_VOLATILITY, FALSE_BREAKOUT, NOISE]

end EpisodeStratum

/-- What a pool is selected by. -/
structure PointInTimeRecord where
  eventTime : RecordedAt
  values : List (Text × Json)

namespace PointInTimeRecord

variable (r : PointInTimeRecord)

/-- `values.get("instrument_id")`, when it is a text. -/
def instrument : Option Text :=
  match Json.lookup "instrument_id" r.values with
  | some (.str t) => some t
  | _ => none

def instrumentId : Py Text :=
  match r.instrument with
  | some t => .ok t
  | none => .error (valueError "replay record requires instrument_id")

/-- `_close` -/
def close (str : Json → Text) : Py (Option Decimal) :=
  match Json.lookup "close" r.values with
  | none | some .null => .ok none
  | some v => do
    let d ← decimalOfStr (str v)
    let d ← finiteDecimal d ⟨.invalidOperation, "[<class 'decimal.InvalidOperation'>]"⟩
    .ok (some d)

/-- The order in which a series is sorted. -/
def timeLE (a b : PointInTimeRecord) : Bool := a.eventTime ≤ b.eventTime

end PointInTimeRecord

/-- `_WINDOW_BARS` -/
def windowBars : ℕ := 40

/-- `_FUTURE_BARS` -/
def futureBars : ℕ := 5

/-- `series[index - _WINDOW_BARS + 1 : index + 1]` -/
def replayWindow (series : List PointInTimeRecord) (index : ℕ) : List PointInTimeRecord :=
  (series.take (index + 1)).drop (index + 1 - windowBars)

structure ReplayEpisodeCandidateFields where
  instrumentId : Text
  stratum : EpisodeStratum
  records : List PointInTimeRecord
  futureRecord : PointInTimeRecord

namespace ReplayEpisodeCandidateFields

variable (f : ReplayEpisodeCandidateFields)

def postInit : Py Unit := do
  require (f.instrumentId.strip ≠ []) (valueError "replay candidate requires instrument and stratum")
  require (f.records.length = windowBars)
    (valueError "replay candidate requires the frozen historical window")
  require (∀ r ∈ f.records, r.instrument = some f.instrumentId)
    ⟨.permissionError, "replay candidate cannot cross instruments"⟩
  -- a sort by time keeps the records
  require (f.records.Pairwise (fun a b => a.eventTime ≤ b.eventTime))
    (valueError "replay candidate records must be chronological")
  require (f.futureRecord.instrument = some f.instrumentId)
    ⟨.permissionError, "replay future record cannot cross instruments"⟩
  require (∀ last ∈ f.records.getLast?, last.eventTime < f.futureRecord.eventTime)
    (valueError "replay future record must follow the market cutoff")

end ReplayEpisodeCandidateFields

instance instDataclassReplayEpisodeCandidate : Dataclass ReplayEpisodeCandidateFields :=
  ⟨ReplayEpisodeCandidateFields.postInit⟩

abbrev ReplayEpisodeCandidate := Frozen ReplayEpisodeCandidateFields

/-- What a candidate says about its instrument, its stratum and its market window. -/
def ReplayEpisodeCandidate.selection (c : ReplayEpisodeCandidate) :
    Text × EpisodeStratum × List PointInTimeRecord :=
  (c.fields.instrumentId, c.fields.stratum, c.fields.records)

/-! ### The scores -/

/-- `max(ds)` -/
def maxOf : List Decimal → Decimal
  | [] => Decimal.ofNat 0
  | d :: ds => ds.foldl Decimal.max' d

/-- `min(ds)` -/
def minOf : List Decimal → Decimal
  | [] => Decimal.ofNat 0
  | d :: ds => ds.foldl Decimal.min' d

/-- The arguments of `stratified_replay_candidates` but the records, the arithmetic and `str`. -/
structure ReplaySelection where
  cutoffStart : RecordedAt
  cutoffEnd : RecordedAt
  candidatesPerCell : ℤ
  ctx : DecimalContext
  str : Json → Text

namespace ReplaySelection

variable (s : ReplaySelection)

/-- `later / earlier - 1` -/
def change (later earlier : Decimal) : Py Decimal := do
  let quotient ← s.ctx.div later earlier
  s.ctx.sub quotient (Decimal.ofNat 1)

/-- `_scores`, of the closes of a window. -/
def scores (closes : List Decimal) : Py (EpisodeStratum → Decimal) := do
  let zero := Decimal.ofNat 0
  let fromEnd (n : ℕ) := closes.getD (closes.length - n) zero
  let last (n : ℕ) := closes.drop (closes.length - n)
  let returns ← (closes.zip closes.tail).mapM (fun p => s.change p.2 p.1)
  let trend ← s.change (fromEnd 1) (fromEnd 21)
  let recent ← s.change (fromEnd 1) (fromEnd 6)
  let prior ← s.change (fromEnd 6) (fromEnd 11)
  let latest := returns.drop (returns.length - 20)
  let sizes ← latest.mapM s.ctx.abs
  let total ← s.ctx.sum sizes
  let volatility ← s.ctx.div total (Decimal.ofNat 20)
  let rises := latest.map (fun r => decide (zero < r))
  let signChanges := (rises.zip rises.tail).countP (fun p => p.1 ≠ p.2)
  let priorHigh := maxOf (last 11).dropLast
  let priorLow := minOf (last 11).dropLast
  let above ← if priorHigh < maxOf (last 5) ∧ fromEnd 1 < priorHigh
    then s.change (maxOf (last 5)) priorHigh else .ok zero
  let below ← if minOf (last 5) < priorLow ∧ priorLow < fromEnd 1
    then s.change priorLow (minOf (last 5)) else .ok zero
  let product ← s.ctx.mul prior recent
  let priorSize ← s.ctx.abs prior
  let recentSize ← s.ctx.abs recent
  let reversal ← if product < zero then s.ctx.add priorSize recentSize else .ok zero
  let changes ← s.ctx.div (Decimal.ofNat signChanges) (Decimal.ofNat 20)
  let unsettled ← s.ctx.add changes volatility
  let trendSize ← s.ctx.abs trend
  let noise ← s.ctx.sub unsettled trendSize
  let downTrend ← s.ctx.minus trend
  let range ← s.ctx.sub volatility trendSize
  .ok (fun
    | .UP_TREND => trend
    | .DOWN_TREND => downTrend
    | .RANGE => range
    | .REVERSAL => reversal
    | .EXTREME_VOLATILITY => volatility
    | .FALSE_BREAKOUT => above.max' below
    | .NOISE => noise)

/-! ### The selection -/

/-- The closes of a window, up to the first record without one. -/
def closes : List PointInTimeRecord → Py (Option (List Decimal))
  | [] => .ok (some [])
  | r :: rest => do
    match ← r.close s.str with
    | none => .ok none
    | some d => do
      let ds ← closes rest
      .ok (ds.map (d :: ·))

/-- An index of a series with its scores, when the window up to it counts. -/
def scoredAt (series : List PointInTimeRecord) (index : ℕ) :
    Py (Option (ℕ × (EpisodeStratum → Decimal))) :=
  match series[index]? with
  | none => .ok none
  | some r =>
    if s.cutoffStart ≤ r.eventTime ∧ r.eventTime ≤ s.cutoffEnd then do
      match ← s.closes (replayWindow series index) with
      | none => .ok none
      | some closes => do
        let scores ← s.scores closes
        .ok (some (index, scores))
    else .ok none

def scored (series : List PointInTimeRecord) : Py (List (ℕ × (EpisodeStratum → Decimal))) := do
  let found ← ((List.range (series.length - futureBars)).drop (windowBars - 1)).mapM
    (s.scoredAt series)
  .ok found.reduceOption

/-- The indices by score, the highest first; a score is rounded, so that its negative is exact. -/
def ranked (scored : List (ℕ × (EpisodeStratum → Decimal))) (stratum : EpisodeStratum) : List ℕ :=
  (scored.mergeSort (fun a b =>
    b.2 stratum < a.2 stratum ∨ ¬ a.2 stratum < b.2 stratum ∧ a.1 ≤ b.1)).map Prod.fst

/-- `[item for item in ranked if item[0] not in used][:candidates_per_cell]` -/
def chosen (scored : List (ℕ × (EpisodeStratum → Decimal))) (stratum : EpisodeStratum)
    (used : List ℕ) : List ℕ :=
  ((ranked scored stratum).filter (· ∉ used)).take s.candidatesPerCell.toNat

def candidateAt (instrumentId : Text) (series : List PointInTimeRecord) (stratum : EpisodeStratum)
    (index : ℕ) : Py ReplayEpisodeCandidate :=
  match series[index + futureBars]? with
  | none => .error ⟨.indexError, "tuple index out of range"⟩
  | some futureRecord =>
    Frozen.make { instrumentId, stratum, records := replayWindow series index, futureRecord }

/-- The loop over the strata, the indices `used` being taken. -/
def select (instrumentId : Text) (series : List PointInTimeRecord)
    (scored : List (ℕ × (EpisodeStratum → Decimal))) :
    List EpisodeStratum → List ℕ → Py (List ReplayEpisodeCandidate)
  | [], _ => .ok []
  | stratum :: strata, used => do
    let chosen := s.chosen scored stratum used
    require (chosen.length = s.candidatesPerCell.toNat) (valueError (("insufficient unique " : Text)
      ++ stratum.value ++ (" candidates for " : Text) ++ instrumentId))
    let own ← chosen.mapM (candidateAt instrumentId series stratum)
    let rest ← select instrumentId series scored strata (used ++ chosen)
    .ok (own ++ rest)

/-- The candidates of an instrument, from its sorted records. -/
def candidatesOf (instrumentId : Text) (series : List PointInTimeRecord) :
    Py (List ReplayEpisodeCandidate) := do
  let scored ← s.scored series
  require (EpisodeStratum.all.length * s.candidatesPerCell ≤ scored.length)
    (valueError (("insufficient replay candidates for " : Text) ++ instrumentId))
  s.select instrumentId series scored EpisodeStratum.all []

/-- The records of an instrument, sorted. -/
def seriesOf (records : List PointInTimeRecord) (instrumentId : Text) : List PointInTimeRecord :=
  (records.filter (fun r => r.instrument = some instrumentId)).mergeSort
    PointInTimeRecord.timeLE

/-- The order of a pool. -/
def selectionLE (a b : Text × EpisodeStratum × List PointInTimeRecord) : Bool :=
  lexLe [fun a b => Text.le a.1 b.1, fun a b => Text.le a.2.1.value b.2.1.value,
    fun a b => a.2.2.getLast?.all (fun r => b.2.2.getLast?.all (fun r' =>
      decide (r.eventTime ≤ r'.eventTime)))] a b

/-- `stratified_replay_candidates` -/
def stratifiedReplayCandidates (records : List PointInTimeRecord) : Py (List ReplayEpisodeCandidate) := do
  require (2 ≤ s.candidatesPerCell)
    (valueError "replay candidate pool requires at least two candidates per cell")
  let ids ← records.mapM PointInTimeRecord.instrumentId
  let pools ← (ids.dedup.mergeSort Text.le).mapM
    (fun id => s.candidatesOf id (seriesOf records id))
  .ok (pools.flatten.mergeSort (fun a b => selectionLE a.selection b.selection))

/-! ### Looking no further than the cutoff -/

end ReplaySelection

/-- The record as a reader sees it who looks no further than a time. -/
def PointInTimeRecord.blinded (cutoff : RecordedAt) (r : PointInTimeRecord) : PointInTimeRecord :=
  if r.eventTime ≤ cutoff then r
  else { r with values := r.instrument.toList.map (fun t => ("instrument_id", .str t)) }

section

variable {cutoff : RecordedAt} {r r' : PointInTimeRecord} {series : List PointInTimeRecord}
  {index : ℕ}

theorem blinded_of_le (h : r.eventTime ≤ cutoff) : r.blinded cutoff = r := if_pos h

@[simp] theorem eventTime_blinded : (r.blinded cutoff).eventTime = r.eventTime := by
  unfold PointInTimeRecord.blinded
  split <;> rfl

@[simp] theorem instrument_blinded : (r.blinded cutoff).instrument = r.instrument := by
  unfold PointInTimeRecord.blinded
  split
  · rfl
  · rcases hid : r.instrument with _ | t
    · rfl
    · rfl

theorem instrumentId_blinded : (r.blinded cutoff).instrumentId = r.instrumentId := by
  rw [PointInTimeRecord.instrumentId, instrument_blinded, PointInTimeRecord.instrumentId]

/-- The sorted records of an instrument are sorted. -/
theorem pairwise_seriesOf (records : List PointInTimeRecord) (instrumentId : Text) :
    (ReplaySelection.seriesOf records instrumentId).Pairwise
      (fun a b => a.eventTime ≤ b.eventTime) := by
  have htrans : ∀ a b c, PointInTimeRecord.timeLE a b → PointInTimeRecord.timeLE b c →
      PointInTimeRecord.timeLE a c := fun a b c hab hbc => decide_eq_true
    (le_trans (α := ℕ) (of_decide_eq_true hab) (of_decide_eq_true hbc))
  have htotal : ∀ a b, PointInTimeRecord.timeLE a b || PointInTimeRecord.timeLE b a := by
    intro a b
    simpa [PointInTimeRecord.timeLE, RecordedAt.le_def] using le_total _ _
  exact (List.pairwise_mergeSort htrans htotal _).imp of_decide_eq_true

/-- A window ends with the record at its index. -/
theorem le_of_mem_replayWindow (hsorted : series.Pairwise (fun a b => a.eventTime ≤ b.eventTime))
    (hget : series[index]? = some r) (hmem : r' ∈ replayWindow series index) :
    r'.eventTime ≤ r.eventTime := by
  obtain ⟨place, hplace, rfl⟩ := List.mem_take_iff_getElem.mp (List.mem_of_mem_drop hmem)
  obtain ⟨hindex, rfl⟩ := List.getElem?_eq_some_iff.mp hget
  rcases (show place ≤ index by omega).eq_or_lt with rfl | hlt
  · exact le_refl (α := ℕ) _
  · exact List.pairwise_iff_getElem.mp hsorted _ _ _ _ hlt

/-- A window up to the cutoff is seen as it is. -/
theorem replayWindow_blinded (hsorted : series.Pairwise (fun a b => a.eventTime ≤ b.eventTime))
    (hget : series[index]? = some r) (hle : r.eventTime ≤ cutoff) :
    replayWindow (series.map (PointInTimeRecord.blinded cutoff)) index
      = replayWindow series index := by
  rw [replayWindow, ← List.map_take, ← List.map_drop]
  refine (List.map_congr_left fun r' hmem => blinded_of_le ?_).trans (List.map_id _)
  exact le_trans (α := ℕ) (le_of_mem_replayWindow hsorted hget hmem) hle

theorem seriesOf_blinded (records : List PointInTimeRecord) (instrumentId : Text) :
    ReplaySelection.seriesOf (records.map (PointInTimeRecord.blinded cutoff)) instrumentId
      = (ReplaySelection.seriesOf records instrumentId).map (PointInTimeRecord.blinded cutoff) := by
  have hfilter : (records.map (PointInTimeRecord.blinded cutoff)).filter
        (fun r => r.instrument = some instrumentId)
      = (records.filter (fun r => r.instrument = some instrumentId)).map
          (PointInTimeRecord.blinded cutoff) := by
    rw [List.filter_map]
    simp only [Function.comp_def, instrument_blinded]
  rw [ReplaySelection.seriesOf, hfilter, ReplaySelection.seriesOf]
  exact (List.map_mergeSort fun a _ b _ => by simp [PointInTimeRecord.timeLE]).symm

end

namespace ReplaySelection

variable {s : ReplaySelection} {records series : List PointInTimeRecord} {instrumentId : Text}
  {found : List (ℕ × (EpisodeStratum → Decimal))} {stratum : EpisodeStratum} {index : ℕ}

theorem scoredAt_blinded (hsorted : series.Pairwise (fun a b => a.eventTime ≤ b.eventTime)) :
    s.scoredAt (series.map (PointInTimeRecord.blinded s.cutoffEnd)) index
      = s.scoredAt series index := by
  rw [scoredAt, scoredAt, List.getElem?_map]
  rcases hget : series[index]? with _ | r
  · rfl
  · simp only [Option.map_some, eventTime_blinded]
    split
    · rename_i hcutoff
      rw [replayWindow_blinded hsorted hget hcutoff.2]
    · rfl

theorem scored_blinded (hsorted : series.Pairwise (fun a b => a.eventTime ≤ b.eventTime)) :
    s.scored (series.map (PointInTimeRecord.blinded s.cutoffEnd)) = s.scored series := by
  have hat : s.scoredAt (series.map (PointInTimeRecord.blinded s.cutoffEnd)) = s.scoredAt series :=
    funext fun index => scoredAt_blinded hsorted
  rw [scored, scored, List.length_map, hat]

/-- The index that was scored. -/
def place : Py (Option (ℕ × (EpisodeStratum → Decimal))) → Option ℕ
  | .ok (some p) => some p.1
  | _ => none

theorem scoredAt_facts {i : ℕ} (h : place (s.scoredAt series index) = some i) :
    i = index ∧ ∃ r, series[index]? = some r ∧ r.eventTime ≤ s.cutoffEnd := by
  rw [scoredAt] at h
  rcases hget : series[index]? with _ | r
  · rw [hget] at h
    cases h
  simp only [hget] at h
  split at h
  · rename_i hcutoff
    refine ⟨?_, r, rfl, hcutoff.2⟩
    rcases hcloses : s.closes (replayWindow series index) with e | _ | closes
    · rw [hcloses] at h
      cases h
    · rw [hcloses] at h
      cases h
    · rw [hcloses, Py.ok_bind] at h
      rcases hscores : s.scores closes with e | scores
      · simp only [hscores] at h
        cases h
      · simp only [hscores] at h
        exact (Option.some.inj h).symm
  · cases h

/-- **The windows that count** are different ones, up to the cutoff. -/
theorem scored_facts (h : s.scored series = .ok found) : (found.map Prod.fst).Nodup
    ∧ ∀ i ∈ found.map Prod.fst, ∃ r, series[i]? = some r ∧ r.eventTime ≤ s.cutoffEnd := by
  obtain ⟨options, hoptions, h⟩ := Py.of_bind h
  obtain rfl := Except.ok.inj h
  have hplaces : options.reduceOption.map Prod.fst
      = ((List.range (series.length - futureBars)).drop (windowBars - 1)).filterMap
          (fun i => place (s.scoredAt series i)) := by
    have hmap := congrArg (List.filterMap place) (Py.mapM_eq_ok_iff.mp hoptions)
    rw [List.filterMap_map, List.filterMap_map] at hmap
    show (options.filterMap id).map Prod.fst = _
    rw [List.map_filterMap]
    refine Eq.trans (List.filterMap_congr fun o _ => ?_) hmap.symm
    rcases o with _ | p <;> rfl
  rw [hplaces]
  constructor
  · refine List.Nodup.filterMap ?_ ((List.drop_sublist _ _).nodup List.nodup_range)
    intro i i' j hj hj'
    rw [← (scoredAt_facts hj).1, ← (scoredAt_facts hj').1]
  · intro i hi
    obtain ⟨j, -, hj⟩ := List.mem_filterMap.mp hi
    obtain ⟨rfl, hr⟩ := scoredAt_facts hj
    exact hr

variable (s) in
theorem chosen_facts (stratum : EpisodeStratum) (used : List ℕ)
    (hnodup : (found.map Prod.fst).Nodup) :
    (s.chosen found stratum used).Nodup
      ∧ ∀ i ∈ s.chosen found stratum used, i ∈ found.map Prod.fst ∧ i ∉ used := by
  have hperm : (ranked found stratum).Perm (found.map Prod.fst) :=
    (List.mergeSort_perm _ _).map Prod.fst
  constructor
  · exact (List.take_sublist _ _).nodup ((hperm.nodup_iff.mpr hnodup).filter _)
  · intro i hi
    obtain ⟨hmem, hfree⟩ := List.mem_filter.mp (List.mem_of_mem_take hi)
    exact ⟨hperm.mem_iff.mp hmem, of_decide_eq_true hfree⟩

theorem map_selection_make {f g : ReplayEpisodeCandidateFields} (hvalid : f.postInit = g.postInit)
    (hsame : (f.instrumentId, f.stratum, f.records) = (g.instrumentId, g.stratum, g.records)) :
    (Frozen.make f).map ReplayEpisodeCandidate.selection
      = (Frozen.make g).map ReplayEpisodeCandidate.selection := by
  rcases h : g.postInit with e | u
  · rw [Frozen.make_of_error (hvalid.trans h), Frozen.make_of_error h]
  · rw [Frozen.make_of_valid (hvalid.trans h), Frozen.make_of_valid h]
    exact congrArg Except.ok hsame

/-- Of what comes after its window, a candidate shows nothing. -/
theorem candidateAt_blinded {r : PointInTimeRecord}
    (hsorted : series.Pairwise (fun a b => a.eventTime ≤ b.eventTime))
    (hget : series[index]? = some r) (hle : r.eventTime ≤ s.cutoffEnd) :
    (candidateAt instrumentId (series.map (PointInTimeRecord.blinded s.cutoffEnd)) stratum index).map
        ReplayEpisodeCandidate.selection
      = (candidateAt instrumentId series stratum index).map ReplayEpisodeCandidate.selection := by
  rw [candidateAt, candidateAt, List.getElem?_map, replayWindow_blinded hsorted hget hle]
  rcases series[index + futureBars]? with _ | future
  · rfl
  · apply map_selection_make
    · simp [ReplayEpisodeCandidateFields.postInit]
    · rfl

theorem select_blinded (hsorted : series.Pairwise (fun a b => a.eventTime ≤ b.eventTime))
    (hfound : s.scored series = .ok found) (strata : List EpisodeStratum) (used : List ℕ) :
    (s.select instrumentId (series.map (PointInTimeRecord.blinded s.cutoffEnd)) found strata
        used).map (List.map ReplayEpisodeCandidate.selection)
      = (s.select instrumentId series found strata used).map
          (List.map ReplayEpisodeCandidate.selection) := by
  obtain ⟨hnodup, hseen⟩ := scored_facts hfound
  induction strata generalizing used with
  | nil => rfl
  | cons stratum strata ih =>
    rw [select, select]
    refine Py.map_bind_congr (p := id) rfl fun _ _ _ => ?_
    refine Py.map_bind_congr (p := List.map ReplayEpisodeCandidate.selection)
      (Py.map_mapM_congr fun i hi => ?_) fun own own' hown => ?_
    · obtain ⟨r, hget, hle⟩ := hseen i ((s.chosen_facts _ _ hnodup).2 i hi).1
      exact candidateAt_blinded hsorted hget hle
    · refine Py.map_bind_congr (ih _) fun rest rest' hrest => ?_
      show Except.ok ((own ++ rest).map _) = .ok ((own' ++ rest').map _)
      rw [List.map_append, List.map_append, hown, hrest]

/-- **No look-ahead.** The pool of the records is the pool of what is seen of them. -/
theorem map_selection_blinded (s : ReplaySelection) (records : List PointInTimeRecord) :
    (s.stratifiedReplayCandidates (records.map (PointInTimeRecord.blinded s.cutoffEnd))).map
        (List.map ReplayEpisodeCandidate.selection)
      = (s.stratifiedReplayCandidates records).map
          (List.map ReplayEpisodeCandidate.selection) := by
  have hids : (records.map (PointInTimeRecord.blinded s.cutoffEnd)).mapM
        PointInTimeRecord.instrumentId = records.mapM PointInTimeRecord.instrumentId := by
    rw [List.mapM_map, Function.comp_def]
    exact Py.mapM_congr_left fun r _ => instrumentId_blinded
  rw [stratifiedReplayCandidates, stratifiedReplayCandidates, hids]
  refine Py.map_bind_congr (p := id) rfl fun _ _ _ => ?_
  refine Py.map_bind_congr (p := id) rfl ?_
  rintro ids _ rfl
  refine Py.map_bind_congr (p := List.map (List.map ReplayEpisodeCandidate.selection))
    (Py.map_mapM_congr fun instrumentId _ => ?_) fun pools pools' hpools => ?_
  · have hsorted := pairwise_seriesOf records instrumentId
    rw [seriesOf_blinded, candidatesOf, candidatesOf, scored_blinded hsorted]
    rcases hfound : s.scored (seriesOf records instrumentId) with e | found
    · rw [Py.error_bind, Py.error_bind]
    · rw [Py.ok_bind, Py.ok_bind]
      refine Py.map_bind_congr (p := id) rfl fun _ _ _ => ?_
      exact select_blinded hsorted hfound _ _
  · have hsort : ∀ l : List ReplayEpisodeCandidate,
        (l.mergeSort (fun a b => selectionLE a.selection b.selection)).map
            ReplayEpisodeCandidate.selection
          = (l.map ReplayEpisodeCandidate.selection).mergeSort selectionLE :=
      fun l => List.map_mergeSort fun _ _ _ _ => rfl
    refine congrArg Except.ok ?_
    rw [hsort, hsort, List.map_flatten, List.map_flatten, hpools]

/-! ### The balance of a pool -/

theorem candidateAt_facts {c : ReplayEpisodeCandidate}
    (h : candidateAt instrumentId series stratum index = .ok c) :
    (c.fields.instrumentId, c.fields.stratum) = (instrumentId, stratum)
      ∧ c.fields.records = replayWindow series index := by
  unfold candidateAt at h
  split at h
  · cases h
  · rw [Frozen.make_eq_ok.mp h]
    exact ⟨rfl, rfl⟩

/-- The cell of a candidate. -/
def cell (c : ReplayEpisodeCandidate) : Text × EpisodeStratum :=
  (c.fields.instrumentId, c.fields.stratum)

/-- **A run over the strata** fills each of their cells, from places that are new. -/
theorem select_spec (hnodup : (found.map Prod.fst).Nodup) {strata : List EpisodeStratum}
    {used : List ℕ} {own : List ReplayEpisodeCandidate}
    (h : s.select instrumentId series found strata used = .ok own) :
    own.map cell
        = strata.flatMap (fun st => List.replicate s.candidatesPerCell.toNat (instrumentId, st))
      ∧ ∃ places : List ℕ, places.Nodup ∧ (∀ i ∈ places, i ∉ used)
        ∧ List.Forall₂ (fun i c => c.fields.records = replayWindow series i) places own := by
  induction strata generalizing used own with
  | nil =>
    obtain rfl := Except.ok.inj h
    exact ⟨rfl, [], List.nodup_nil, by simp, .nil⟩
  | cons stratum strata ih =>
    obtain ⟨_, hlength, h⟩ := Py.of_bind h
    obtain ⟨first, hfirst, h⟩ := Py.of_bind h
    obtain ⟨rest, hrest, h⟩ := Py.of_bind h
    obtain rfl := Except.ok.inj h
    obtain ⟨hcells, places, hplaces, hnew, hwindows⟩ := ih hrest
    obtain ⟨hchosen, hfree⟩ := s.chosen_facts stratum used hnodup
    have hmade := (Py.forall₂_of_mapM hfirst).imp fun _ _ => candidateAt_facts
    constructor
    · have hfirst : first.map cell
          = List.replicate s.candidatesPerCell.toNat (instrumentId, stratum) := by
        refine List.eq_replicate_iff.mpr ⟨?_, ?_⟩
        · rw [List.length_map, ← hmade.length_eq, require_eq_ok.mp hlength]
        · intro p hp
          obtain ⟨c, hc, rfl⟩ := List.mem_map.mp hp
          obtain ⟨i, -, hi⟩ := Py.exists_of_mem_mapM hfirst c hc
          exact (candidateAt_facts hi).1
      rw [List.map_append, hfirst, hcells, List.flatMap_cons]
    · refine ⟨s.chosen found stratum used ++ places, hchosen.append hplaces ?_, ?_,
        List.rel_append (hmade.imp fun _ _ => And.right) hwindows⟩
      · exact fun i hi hmem => hnew i hmem (List.mem_append_right _ hi)
      · intro i hi
        rcases List.mem_append.mp hi with hi | hi
        · exact (hfree i hi).2
        · exact fun hmem => hnew i hi (List.mem_append_left _ hmem)

end ReplaySelection

/-- Of the answers on different items, those of an item are found by their tag. -/
theorem filter_flatten_of_mapM {α β : Type} {f : α → Py (List β)} {tag : β → Bool} {a : α}
    {l : List α} {bss : List (List β)} (hnodup : l.Nodup) (h : l.mapM f = .ok bss)
    (htag : ∀ a' bs, f a' = .ok bs → ∀ b ∈ bs, tag b ↔ a' = a) (ha : a ∈ l) :
    f a = .ok (bss.flatten.filter tag) := by
  induction l generalizing bss with
  | nil => cases ha
  | cons a' l ih =>
    rw [List.nodup_cons] at hnodup
    rw [List.mapM_cons] at h
    obtain ⟨bs, hbs, h⟩ := Py.of_bind h
    obtain ⟨rest, hrest, h⟩ := Py.of_bind h
    obtain rfl := Except.ok.inj h
    rw [List.flatten_cons, List.filter_append]
    rcases List.mem_cons.mp ha with rfl | ha
    · have hown : bs.filter tag = bs :=
        List.filter_eq_self.mpr fun b hb => (htag a bs hbs b hb).mpr rfl
      have hothers : rest.flatten.filter tag = [] := by
        refine List.filter_eq_nil_iff.mpr fun b hb ht => ?_
        obtain ⟨bs', hbs', hb⟩ := List.mem_flatten.mp hb
        obtain ⟨a', ha', hf⟩ := Py.exists_of_mem_mapM hrest bs' hbs'
        exact hnodup.1 ((htag a' bs' hf b hb).mp ht ▸ ha')
      rw [hown, hothers, List.append_nil, hbs]
    · have hfirst : bs.filter tag = [] := by
        refine List.filter_eq_nil_iff.mpr fun b hb ht => hnodup.1 ?_
        exact (htag a' bs hbs b hb).mp ht ▸ ha
      rw [hfirst, List.nil_append]
      exact ih hnodup.2 hrest ha

namespace ReplaySelection

variable {s : ReplaySelection} {records records' : List PointInTimeRecord} {instrumentId : Text}
  {own pool : List ReplayEpisodeCandidate}

theorem candidatesOf_spec {series : List PointInTimeRecord}
    (h : s.candidatesOf instrumentId series = .ok own) :
    own.map cell = EpisodeStratum.all.flatMap
        (fun st => List.replicate s.candidatesPerCell.toNat (instrumentId, st))
      ∧ ∃ places : List ℕ, places.Nodup
        ∧ List.Forall₂ (fun i c => c.fields.records = replayWindow series i) places own := by
  obtain ⟨found, hfound, h⟩ := Py.of_bind h
  obtain ⟨_, -, h⟩ := Py.of_bind h
  obtain ⟨hcells, places, hplaces, -, hwindows⟩ := select_spec (scored_facts hfound).1 h
  exact ⟨hcells, places, hplaces, hwindows⟩

/-- Every cell of a pool has its candidates, and the windows of an instrument are different. -/
structure Balanced (s : ReplaySelection) (records : List PointInTimeRecord)
    (pool : List ReplayEpisodeCandidate) : Prop where
  cells : ∀ r ∈ records, ∀ id ∈ r.instrument, ∀ stratum,
    pool.countP (fun c => cell c = (id, stratum)) = s.candidatesPerCell.toNat
  windows : ∀ r ∈ records, ∀ id ∈ r.instrument, ∃ (places : List ℕ) (own : List ReplayEpisodeCandidate),
    places.Nodup ∧ own.Perm (pool.filter (fun c => c.fields.instrumentId = id))
      ∧ List.Forall₂ (fun i c => c.fields.records = replayWindow (seriesOf records id) i) places own

/-- The candidates of an instrument of the records are selected from its records alone. -/
theorem exists_own (h : s.stratifiedReplayCandidates records = .ok pool) {r : PointInTimeRecord}
    (hr : r ∈ records) (hid : r.instrument = some instrumentId) :
    ∃ own, s.candidatesOf instrumentId (seriesOf records instrumentId) = .ok own
      ∧ own.Perm (pool.filter (fun c => c.fields.instrumentId = instrumentId)) := by
  obtain ⟨_, -, h⟩ := Py.of_bind h
  obtain ⟨ids, hids, h⟩ := Py.of_bind h
  obtain ⟨pools, hpools, h⟩ := Py.of_bind h
  obtain rfl := Except.ok.inj h
  have hperm := List.mergeSort_perm ids.dedup Text.le
  have hmem : instrumentId ∈ ids.dedup.mergeSort Text.le := by
    obtain ⟨id, hmem, hr⟩ := Py.mem_of_mapM hids r hr
    rw [PointInTimeRecord.instrumentId, hid] at hr
    obtain rfl := Except.ok.inj hr
    exact hperm.mem_iff.mpr (List.mem_dedup.mpr hmem)
  refine ⟨_, filter_flatten_of_mapM (f := fun id => s.candidatesOf id (seriesOf records id))
    (hperm.nodup_iff.mpr ids.nodup_dedup) hpools ?_ hmem, ((List.mergeSort_perm _ _).filter _).symm⟩
  intro id own hown c hc
  obtain ⟨hcells, -⟩ := candidatesOf_spec hown
  have hcell : cell c ∈ own.map cell := List.mem_map_of_mem hc
  rw [hcells] at hcell
  obtain ⟨stratum, -, hcell⟩ := List.mem_flatMap.mp hcell
  have hinstrument : c.fields.instrumentId = id :=
    congrArg Prod.fst (List.eq_of_mem_replicate hcell)
  rw [decide_eq_true_iff, hinstrument]

theorem balanced_of_ok (h : s.stratifiedReplayCandidates records = .ok pool) :
    s.Balanced records pool := by
  constructor
  · intro r hr id hid stratum
    obtain ⟨own, hown, hperm⟩ := exists_own h hr hid
    obtain ⟨hcells, -⟩ := candidatesOf_spec hown
    calc pool.countP (fun c => cell c = (id, stratum))
        = (pool.filter (fun c => c.fields.instrumentId = id)).countP
            (fun c => cell c = (id, stratum)) := by
          rw [List.countP_filter]
          refine List.countP_congr fun c _ => ?_
          simp only [cell, decide_eq_true_eq, Bool.and_eq_true, Prod.mk.injEq]
          tauto
      _ = own.countP (fun c => cell c = (id, stratum)) := (hperm.countP_eq _).symm
      _ = (own.map cell).count (id, stratum) := by
          rw [List.count, List.countP_map]
          exact List.countP_congr fun c _ => by simp
      _ = s.candidatesPerCell.toNat := by
          rw [hcells]
          cases stratum <;> simp [EpisodeStratum.all, List.count_replicate]
  · intro r hr id hid
    obtain ⟨own, hown, hperm⟩ := exists_own h hr hid
    obtain ⟨-, places, hplaces, hwindows⟩ := candidatesOf_spec hown
    exact ⟨places, own, hplaces, hperm, hwindows⟩

/-- Two records of one instrument and one time, with the same values unless the time is after a
cutoff. -/
structure AgreeUpTo (cutoff : RecordedAt) (r r' : PointInTimeRecord) : Prop where
  eventTime : r.eventTime = r'.eventTime
  instrument : r.instrument = r'.instrument
  values : r.eventTime ≤ cutoff → r.values = r'.values

theorem AgreeUpTo.blinded_eq {cutoff : RecordedAt} {r r' : PointInTimeRecord}
    (h : AgreeUpTo cutoff r r') : r.blinded cutoff = r'.blinded cutoff := by
  obtain ⟨time, values⟩ := r
  obtain ⟨time', values'⟩ := r'
  obtain rfl : time = time' := h.eventTime
  unfold PointInTimeRecord.blinded
  split
  · rename_i hle
    obtain rfl : values = values' := h.values hle
    rfl
  · rw [h.instrument]

/-- **The pool.** Records that agree up to the cutoff raise alike and select the same instruments,
strata and windows; and a pool is balanced. -/
theorem replayCandidates_spec
    (h : List.Forall₂ (AgreeUpTo s.cutoffEnd) records records') :
    (∀ e, s.stratifiedReplayCandidates records = .error e
        ↔ s.stratifiedReplayCandidates records' = .error e)
      ∧ (∀ pool pool', s.stratifiedReplayCandidates records = .ok pool →
          s.stratifiedReplayCandidates records' = .ok pool' →
          pool.map ReplayEpisodeCandidate.selection = pool'.map ReplayEpisodeCandidate.selection)
      ∧ ∀ pool, s.stratifiedReplayCandidates records = .ok pool → s.Balanced records pool := by
  have hseen : records.map (PointInTimeRecord.blinded s.cutoffEnd)
      = records'.map (PointInTimeRecord.blinded s.cutoffEnd) := by
    rw [← List.forall₂_eq_eq_eq, List.forall₂_map_left_iff, List.forall₂_map_right_iff]
    exact h.imp fun _ _ => AgreeUpTo.blinded_eq
  have hmap := (map_selection_blinded s records).symm.trans
    ((congrArg _ (congrArg _ hseen)).trans (map_selection_blinded s records'))
  obtain ⟨hraise, hselect⟩ := Py.agree_of_map_eq hmap
  refine ⟨hraise, hselect, fun pool => balanced_of_ok⟩

end ReplaySelection

/-! ### A sample -/

def replayTime (minute : Fin 60) : RecordedAt :=
  ⟨.of 2026 7 13 (Eq.refl true), 9, minute, 0, 0⟩

/-- An hour of bars, the last five of which close at another price. -/
def replayRecords (late : Text) : List PointInTimeRecord :=
  (List.finRange 60).map (fun minute =>
    { eventTime := replayTime minute
      values := [("instrument_id", .str "SHFE.rb2610"),
        ("close", .str (if minute ≤ 54 then "3100" else late))] })

def replaySelection : ReplaySelection where
  cutoffStart := replayTime 0
  cutoffEnd := replayTime 54
  candidatesPerCell := 2
  ctx := defaultContext
  str
    | .str t => t
    | _ => []

theorem replayCandidates_spec_replayRecords :
    (∀ e, replaySelection.stratifiedReplayCandidates (replayRecords "3200") = .error e
        ↔ replaySelection.stratifiedReplayCandidates (replayRecords "2900") = .error e)
      ∧ (∀ pool pool', replaySelection.stratifiedReplayCandidates (replayRecords "3200") = .ok pool →
          replaySelection.stratifiedReplayCandidates (replayRecords "2900") = .ok pool' →
          pool.map ReplayEpisodeCandidate.selection = pool'.map ReplayEpisodeCandidate.selection)
      ∧ ∀ pool, replaySelection.stratifiedReplayCandidates (replayRecords "3200") = .ok pool →
          replaySelection.Balanced (replayRecords "3200") pool := by
  apply ReplaySelection.replayCandidates_spec
  rw [replayRecords, replayRecords, List.forall₂_map_left_iff, List.forall₂_map_right_iff,
    List.forall₂_same]
  intro minute _
  refine ⟨rfl, rfl, fun hle => ?_⟩
  have hearly : minute ≤ 54 := show (minute : ℕ) ≤ 54 by
    simpa [replaySelection, replayTime, RecordedAt.le_def, RecordedAt.ticks] using hle
  rw [if_pos hearly, if_pos hearly]

end FuturesAgentOs
