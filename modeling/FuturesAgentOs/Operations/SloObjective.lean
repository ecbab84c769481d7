import FuturesAgentOs.PyModel.DecimalText
import FuturesAgentOs.PyModel.NearestRank
import FuturesAgentOs.SharedKernel.Ids
import FuturesAgentOs.SharedKernel.IsoTime
import FuturesAgentOs.SharedKernel.Observability

namespace FuturesAgentOs

open PyModel

/-!
# Service level objectives

`operations/reliability.py`, `SloObjective.evaluate`: the percentile of a window of samples by
nearest rank, against a threshold.

* `pass_iff_hasShare` — a report of a window is `PASS` exactly when the threshold has the share.
-/

/-- `sys.maxsize` -/
def sysMaxsize : ℕ := 2 ^ 63 - 1

/-- A tuple, of which there is none longer than `sys.maxsize`. -/
structure PyTuple (α : Type) where
  items : List α
  length_le : items.length ≤ sysMaxsize

inductive MetricKind where
  | COUNTER
  | GAUGE
  | HISTOGRAM
  deriving DecidableEq

def MetricKind.value : MetricKind → Text
  | COUNTER => "COUNTER"
  | GAUGE => "GAUGE"
  | HISTOGRAM => "HISTOGRAM"

structure MetricSampleFields where
  metricId : EntityId
  name : Text
  kind : MetricKind
  value : Decimal
  recordedAt : RecordedAt
  labels : List (Text × Text) := []

instance : Dataclass MetricSampleFields where
  postInit f := do
    require (f.name ≠ []) (valueError "metric samples require a name")
    require (∀ label ∈ f.labels, label.1 ≠ [] ∧ label.2 ≠ [])
      (valueError "metric labels must be unique non-empty pairs")
    require (f.labels.map Prod.fst).Nodup
      (valueError "metric labels must be unique non-empty pairs")

abbrev MetricSample := Frozen MetricSampleFields

inductive SloStatus where
  | PASS
  | ALERT
  | INSUFFICIENT_DATA
  deriving DecidableEq

/-- `_non_negative` -/
def requireNonNegative (value : Decimal) (label : Text) : Py Unit :=
  require (Decimal.ofNat 0 ≤ value)
    (valueError (label ++ Text.ofString " must be a finite non-negative Decimal"))

/-- `_canonical_text` -/
def requireCanonicalText (value label : Text) : Py Unit :=
  require value.IsStripped (valueError (label ++ Text.ofString " must be canonical non-empty text"))

structure SloObjectiveFields where
  objectiveId : Text
  metricName : Text
  percentile : ℕ
  threshold : Decimal
  minimumSamples : ℕ
  runbookRef : Text
  impactScope : List Text

instance : Dataclass SloObjectiveFields where
  postInit f := do
    requireCanonicalText f.objectiveId "objective_id"
    requireCanonicalText f.metricName "metric_name"
    requireCanonicalText f.runbookRef "runbook_ref"
    require (f.runbookRef.take 10 = ("runbook://" : Text))
      (valueError "SLO runbook_ref must use runbook://")
    require (50 ≤ f.percentile ∧ f.percentile ≤ 100)
      (valueError "SLO percentile must be an integer from 50 through 100")
    requireNonNegative f.threshold "threshold"
    require (1 ≤ f.minimumSamples) (valueError "SLO minimum_samples must be positive")
    require (f.impactScope ≠ [] ∧ f.impactScope.Nodup)
      (valueError "SLO requires unique impact scope")
    f.impactScope.forM fun scope => requireCanonicalText scope "impact_scope"

abbrev SloObjective := Frozen SloObjectiveFields

structure SloMeasurementWindowFields where
  windowId : Text
  startedAt : RecordedAt
  endedAt : RecordedAt
  samples : PyTuple MetricSample

instance : Dataclass SloMeasurementWindowFields where
  postInit f := do
    requireCanonicalText f.windowId "window_id"
    require (f.startedAt ≤ f.endedAt) (valueError "SLO window end cannot precede start")
    require (∀ sample ∈ f.samples.items,
        f.startedAt ≤ sample.fields.recordedAt ∧ sample.fields.recordedAt ≤ f.endedAt)
      (valueError "SLO sample lies outside its measurement window")

abbrev SloMeasurementWindow := Frozen SloMeasurementWindowFields

/-- The check of an observed value, when there is one. -/
def requireObserved : Option Decimal → Py Unit
  | none => .ok ()
  | some observed => requireNonNegative observed "observed_percentile"

structure SloReportFields where
  objective : SloObjective
  windowDigest : Text
  sampleCount : ℕ
  observedPercentile : Option Decimal
  status : SloStatus
  alertRequired : Bool

instance : Dataclass SloReportFields where
  postInit f := do
    require f.windowDigest.IsHexDigest (valueError "SLO report requires measured window digest")
    requireObserved f.observedPercentile
    require (f.alertRequired = true ↔ f.status ≠ .PASS)
      (valueError "SLO alert flag must match status")

abbrev SloReport := Frozen SloReportFields

/-! ### Shares -/

/-- At least `percentile` percent of the values are at or below `v`. -/
def HasShare (percentile : ℕ) (values : List Decimal) (v : Decimal) : Prop :=
  percentile * values.length ≤ 100 * values.countP fun value => decide (value ≤ v)

instance (percentile : ℕ) (values : List Decimal) (v : Decimal) :
    Decidable (HasShare percentile values v) := inferInstanceAs (Decidable (_ ≤ _))

/-- The least of the values that has the share. -/
structure IsNearestRank (percentile : ℕ) (values : List Decimal) (v : Decimal) : Prop where
  mem : v ∈ values
  hasShare : HasShare percentile values v
  least : ∀ value ∈ values, HasShare percentile values value → v ≤ value

/-- The order of the values is of no account. -/
theorem HasShare.perm {percentile : ℕ} {values values' : List Decimal} {v : Decimal}
    (h : values.Perm values') : HasShare percentile values v ↔ HasShare percentile values' v := by
  rw [HasShare, HasShare, h.length_eq, h.countP_eq]

theorem IsNearestRank.numEq {percentile : ℕ} {values values' : List Decimal} {v v' : Decimal}
    (h : IsNearestRank percentile values v) (h' : IsNearestRank percentile values' v')
    (hperm : values.Perm values') : v.val = v'.val := by
  refine le_antisymm ?_ ?_
  · exact h.least v' (hperm.mem_iff.mpr h'.mem) ((HasShare.perm hperm).mpr h'.hasShare)
  · exact h'.least v (hperm.mem_iff.mp h.mem) ((HasShare.perm hperm).mp h.hasShare)

section

variable {percentile : ℕ} {values : List Decimal}

/-- The order of `sorted`. -/
theorem decimal_le_trans (a b c : Decimal) (hab : decide (a ≤ b) = true)
    (hbc : decide (b ≤ c) = true) : decide (a ≤ c) = true :=
  decide_eq_true (le_trans (of_decide_eq_true hab) (of_decide_eq_true hbc))

theorem decimal_le_total (a b : Decimal) : (decide (a ≤ b) || decide (b ≤ a)) = true := by
  rw [Bool.or_eq_true, decide_eq_true_eq, decide_eq_true_eq]
  exact le_total a.val b.val

theorem share_rank {n k : ℕ} (hp : 50 ≤ percentile) (hp' : percentile ≤ 100) (hn : 0 < n) :
    let rank := ⌈((percentile * n : ℕ) : ℚ) / 100⌉
    (max 0 (rank - 1)).toNat < n
      ∧ (percentile * n ≤ 100 * k ↔ (max 0 (rank - 1)).toNat < k) := by
  intro rank
  have hle : ∀ m : ℕ, rank ≤ m ↔ percentile * n ≤ 100 * m := by
    intro m
    rw [Int.ceil_le, div_le_iff₀ (by norm_num)]
    constructor <;> intro h
    · have : ((percentile * n : ℕ) : ℚ) ≤ ((100 * m : ℕ) : ℚ) := by
        push_cast at h ⊢
        linarith
      exact_mod_cast this
    · have : ((percentile * n : ℕ) : ℚ) ≤ ((100 * m : ℕ) : ℚ) := by exact_mod_cast h
      push_cast at this ⊢
      linarith
  have hpos : ¬ rank ≤ (0 : ℕ) := by
    rw [hle]
    have := Nat.mul_pos (by omega : 0 < percentile) hn
    omega
  have hmax : rank ≤ n := (hle n).mpr (Nat.mul_le_mul_right n hp')
  constructor
  · omega
  · rw [← hle k]
    omega

/-- **The member that `evaluate` looks at** is the nearest rank. -/
theorem exists_nearestRank (hp : 50 ≤ percentile) (hp' : percentile ≤ 100) (hn : 0 < values.length)
    (hlt : values.length < 10 ^ 23) :
    ∃ rank observed, nearestRank defaultContext percentile values.length = .ok rank
      ∧ (values.mergeSort fun a b => decide (a ≤ b))[(max 0 (rank - 1)).toNat]? = some observed
      ∧ IsNearestRank percentile values observed
      ∧ ∀ t, HasShare percentile values t ↔ observed ≤ t := by
  set ordered := values.mergeSort fun a b => decide (a ≤ b)
  have hlength : ordered.length = values.length := List.length_mergeSort _
  set rank := ⌈((percentile * values.length : ℕ) : ℚ) / 100⌉
  have hindex : (max 0 (rank - 1)).toNat < ordered.length := by
    rw [hlength]
    exact (share_rank (k := 0) hp hp' hn).1
  have hshare : ∀ t, HasShare percentile values t ↔ ordered[(max 0 (rank - 1)).toNat] ≤ t := by
    intro t
    rw [HasShare, (share_rank hp hp' hn).2, lt_countP_iff decimal_le_trans decimal_le_total hindex,
      decide_eq_true_eq]
  refine ⟨rank, ordered[(max 0 (rank - 1)).toNat], nearestRank_eq_ok (by omega) hp' hn hlt,
    List.getElem?_eq_getElem hindex, ⟨?_, (hshare _).mpr le_rfl, fun v _ hv => (hshare v).mp hv⟩,
    hshare⟩
  exact (List.mergeSort_perm _ _).mem_iff.mp (List.getElem_mem hindex)

end

theorem postInit_report {f : SloReportFields} (hdigest : f.windowDigest.IsHexDigest)
    (halert : f.alertRequired = true ↔ f.status ≠ SloStatus.PASS) :
    postInit f = requireObserved f.observedPercentile := by
  show (do
    require f.windowDigest.IsHexDigest _
    requireObserved f.observedPercentile
    require (f.alertRequired = true ↔ f.status ≠ SloStatus.PASS) _) = _
  rw [require_of_pos hdigest, Py.ok_bind, require_of_pos halert]
  cases requireObserved f.observedPercentile <;> rfl

/-! ### Windows and objectives -/

namespace SloMeasurementWindow

/-- The member of the digest for a sample. -/
def sampleJson (sample : MetricSample) : Json := .obj [
  ("metric_id", .str sample.fields.metricId.str),
  ("name", .str sample.fields.name),
  ("kind", .str sample.fields.kind.value),
  ("value", .str sample.fields.value.str),
  ("recorded_at", .str sample.fields.recordedAt.text),
  ("labels", .arr (sample.fields.labels.map fun label => .arr [.str label.1, .str label.2]))]

def digest [Hashlib] (w : SloMeasurementWindow) : Py Text :=
  canonicalSha256 (.obj [
    ("window_id", .str w.fields.windowId),
    ("started_at", .str w.fields.startedAt.text),
    ("ended_at", .str w.fields.endedAt.text),
    ("samples", .arr (w.fields.samples.items.map sampleJson))])

/-- The values of the samples. -/
def values (w : SloMeasurementWindow) : List Decimal :=
  w.fields.samples.items.map fun sample => sample.fields.value

end SloMeasurementWindow

namespace SloObjective

/-- The samples are all of the metric. -/
def Measures (o : SloObjective) (w : SloMeasurementWindow) : Prop :=
  ∀ sample ∈ w.fields.samples.items, sample.fields.name = o.fields.metricName

instance (o : SloObjective) (w : SloMeasurementWindow) : Decidable (o.Measures w) :=
  inferInstanceAs (Decidable (∀ _ ∈ _, _))

/-- What the checks of an objective say of its numbers. -/
theorem bounds (o : SloObjective) :
    (50 ≤ o.fields.percentile ∧ o.fields.percentile ≤ 100) ∧ 1 ≤ o.fields.minimumSamples := by
  have h := o.valid
  simp only [postInit, check_bind_eq_ok, require_eq_ok] at h
  exact ⟨h.2.2.2.2.1, h.2.2.2.2.2.2.1⟩

variable [Hashlib]

def evaluate (o : SloObjective) (w : SloMeasurementWindow) : Py SloReport := do
  require (o.Measures w) (valueError "SLO window contains a metric outside the objective")
  let digest ← w.digest
  if w.values.length < o.fields.minimumSamples then
    Frozen.make ⟨o, digest, w.values.length, none, .INSUFFICIENT_DATA, true⟩
  else
    let ordered := w.values.mergeSort fun a b => decide (a ≤ b)
    let rank ← nearestRank defaultContext o.fields.percentile ordered.length
    match ordered[(max 0 (rank - 1)).toNat]? with
    | none => .error ⟨.indexError, "tuple index out of range"⟩
    | some observed =>
      let status := if observed ≤ o.fields.threshold then SloStatus.PASS else .ALERT
      Frozen.make ⟨o, digest, w.values.length, some observed, status, decide (status ≠ .PASS)⟩

/-! ### What `evaluate` answers -/

theorem exists_digest (w : SloMeasurementWindow) :
    ∃ digest, w.digest = .ok digest ∧ digest.IsHexDigest := by
  apply exists_canonicalSha256_of_isWritable
  have hlabels : ∀ sample : MetricSample, Json.areWritable
      (sample.fields.labels.map fun label => .arr [.str label.1, .str label.2]) = true := by
    intro sample
    rw [Json.areWritable_iff]
    intro v hv
    obtain ⟨label, -, rfl⟩ := List.mem_map.mp hv
    simp [Json.isWritable, Json.areWritable]
  have hsamples : Json.areWritable (w.fields.samples.items.map SloMeasurementWindow.sampleJson)
      = true := by
    rw [Json.areWritable_iff]
    intro v hv
    obtain ⟨sample, -, rfl⟩ := List.mem_map.mp hv
    simp [SloMeasurementWindow.sampleJson, Json.isWritable, Json.membersWritable, hlabels sample]
  simp [Json.isWritable, Json.membersWritable, hsamples]

variable {o : SloObjective} {w : SloMeasurementWindow}

theorem evaluate_of_not_measures (h : ¬ o.Measures w) :
    o.evaluate w = .error (valueError "SLO window contains a metric outside the objective") := by
  rw [evaluate, require_of_neg h, Py.error_bind]

theorem evaluate_of_few (h : o.Measures w) (hfew : w.values.length < o.fields.minimumSamples) :
    ∃ report, o.evaluate w = .ok report ∧ report.fields.status = .INSUFFICIENT_DATA
      ∧ report.fields.observedPercentile = none ∧ report.fields.alertRequired = true := by
  obtain ⟨digest, hdigest, hhex⟩ := exists_digest w
  rw [evaluate, require_of_pos h, Py.ok_bind, hdigest, Py.ok_bind, if_pos hfew]
  have hvalid : postInit (SloReportFields.mk o digest w.values.length none .INSUFFICIENT_DATA true)
      = .ok () := postInit_report hhex (by simp)
  exact ⟨⟨_, hvalid⟩, Frozen.make_of_valid hvalid, rfl, rfl, rfl⟩

/-- The status of a nearest rank. -/
def statusOf (o : SloObjective) (w : SloMeasurementWindow) : SloStatus :=
  if HasShare o.fields.percentile w.values o.fields.threshold then .PASS else .ALERT

/-- **A window with enough samples** is judged by its nearest rank, and refused when that is
negative. -/
theorem evaluate_of_enough (h : o.Measures w) (henough : o.fields.minimumSamples ≤ w.values.length) :
    ∃ observed, IsNearestRank o.fields.percentile w.values observed
      ∧ if Decimal.ofNat 0 ≤ observed then
          ∃ report, o.evaluate w = .ok report ∧ report.fields.observedPercentile = some observed
            ∧ report.fields.status = o.statusOf w
            ∧ report.fields.alertRequired = decide (o.statusOf w ≠ .PASS)
        else o.evaluate w = .error (valueError
          "observed_percentile must be a finite non-negative Decimal") := by
  obtain ⟨digest, hdigest, hhex⟩ := exists_digest w
  obtain ⟨hpercentile, hminimum⟩ := bounds o
  have hlt : w.values.length < 10 ^ 23 := by
    have hle := w.fields.samples.length_le
    have hlength : w.values.length = w.fields.samples.items.length := List.length_map _
    have hsize : sysMaxsize < 10 ^ 23 := by norm_num [sysMaxsize]
    omega
  obtain ⟨rank, observed, hrank, hget, hnearest, hshare⟩ :=
    exists_nearestRank hpercentile.1 hpercentile.2 (by omega : 0 < w.values.length) hlt
  refine ⟨observed, hnearest, ?_⟩
  have hstatus : (if observed ≤ o.fields.threshold then SloStatus.PASS else .ALERT)
      = o.statusOf w := by
    unfold statusOf
    simp only [hshare]
  have hevaluate : o.evaluate w = Frozen.make ⟨o, digest, w.values.length, some observed,
      o.statusOf w, decide (o.statusOf w ≠ .PASS)⟩ := by
    rw [evaluate, require_of_pos h, Py.ok_bind, hdigest, Py.ok_bind, if_neg (by omega)]
    dsimp only
    rw [List.length_mergeSort, hrank, Py.ok_bind, hget]
    simp only [hstatus]
  have hpost := postInit_report (f := ⟨o, digest, w.values.length, some observed, o.statusOf w,
    decide (o.statusOf w ≠ .PASS)⟩) hhex decide_eq_true_iff
  split
  · rename_i hnonneg
    have hvalid := hpost.trans (require_of_pos hnonneg)
    exact ⟨⟨_, hvalid⟩, hevaluate.trans (Frozen.make_of_valid hvalid), rfl, rfl, rfl⟩
  · rename_i hnegative
    exact hevaluate.trans (Frozen.make_of_error (hpost.trans (require_of_neg hnegative)))

/-! ### The verdict on a window -/

/-- What is read of an answer: the status, the alert and the observed number. -/
def verdict (answer : Py SloReport) : Option (SloStatus × Bool × Option ℚ) :=
  answer.toOption.map fun report =>
    (report.fields.status, report.fields.alertRequired,
      report.fields.observedPercentile.map Decimal.val)

theorem verdict_eq_of_perm {w' : SloMeasurementWindow}
    (h : w'.fields.samples.items.Perm w.fields.samples.items) :
    verdict (o.evaluate w') = verdict (o.evaluate w) := by
  have hvalues : w'.values.Perm w.values := h.map _
  by_cases hmeasures : o.Measures w
  swap
  · have hmeasures' : ¬ o.Measures w' := fun h' => hmeasures fun s hs => h' s (h.mem_iff.mpr hs)
    rw [evaluate_of_not_measures hmeasures, evaluate_of_not_measures hmeasures']
  have hmeasures' : o.Measures w' := fun s hs => hmeasures s (h.mem_iff.mp hs)
  by_cases henough : o.fields.minimumSamples ≤ w.values.length
  swap
  · obtain ⟨report, hreport, hstatus, hobserved, halert⟩ :=
      evaluate_of_few hmeasures (not_le.mp henough)
    obtain ⟨report', hreport', hstatus', hobserved', halert'⟩ :=
      evaluate_of_few hmeasures' (not_le.mp (hvalues.length_eq ▸ henough))
    simp [verdict, hreport, hreport', hstatus, hstatus', hobserved, hobserved', halert, halert',
      Except.toOption]
  -- both windows have one nearest rank
  obtain ⟨observed, hnearest, hanswer⟩ := evaluate_of_enough hmeasures henough
  obtain ⟨observed', hnearest', hanswer'⟩ :=
    evaluate_of_enough hmeasures' (hvalues.length_eq ▸ henough)
  have hsame : observed'.val = observed.val := hnearest'.numEq hnearest hvalues
  have hstatus : o.statusOf w' = o.statusOf w := by
    unfold statusOf
    simp only [HasShare.perm hvalues]
  by_cases hnonneg : Decimal.ofNat 0 ≤ observed
  · have hnonneg' : Decimal.ofNat 0 ≤ observed' := by
      rw [Decimal.le_def] at hnonneg ⊢
      rwa [hsame]
    rw [if_pos hnonneg] at hanswer
    rw [if_pos hnonneg'] at hanswer'
    obtain ⟨report, hreport, hobs, hst, hal⟩ := hanswer
    obtain ⟨report', hreport', hobs', hst', hal'⟩ := hanswer'
    simp [verdict, hreport, hreport', hobs, hobs', hst, hst', hal, hal', hsame, hstatus,
      Except.toOption]
  · have hnonneg' : ¬ Decimal.ofNat 0 ≤ observed' := by
      rw [Decimal.le_def] at hnonneg ⊢
      rwa [hsame]
    rw [if_neg hnonneg] at hanswer
    rw [if_neg hnonneg'] at hanswer'
    rw [hanswer, hanswer']

/-- **A window of enough samples passes exactly when enough of them are within the threshold**,
whatever their order, and shows the least sample that as many are within.  Samples of another metric
and a negative rank are refused. -/
theorem pass_iff_hasShare (o : SloObjective) (w : SloMeasurementWindow)
    (henough : o.fields.minimumSamples ≤ w.values.length) :
    (if o.Measures w then
        ∃ observed, IsNearestRank o.fields.percentile w.values observed
          ∧ if Decimal.ofNat 0 ≤ observed then
              ∃ report, o.evaluate w = .ok report
                ∧ report.fields.observedPercentile = some observed
                ∧ (report.fields.status = .PASS
                  ↔ HasShare o.fields.percentile w.values o.fields.threshold)
            else o.evaluate w = .error (valueError
              "observed_percentile must be a finite non-negative Decimal")
      else o.evaluate w
        = .error (valueError "SLO window contains a metric outside the objective"))
      ∧ ∀ w' : SloMeasurementWindow, w'.fields.samples.items.Perm w.fields.samples.items →
        verdict (o.evaluate w') = verdict (o.evaluate w) := by
  refine ⟨?_, fun w' h => verdict_eq_of_perm h⟩
  split
  · rename_i hmeasures
    obtain ⟨observed, hnearest, hanswer⟩ := evaluate_of_enough hmeasures henough
    refine ⟨observed, hnearest, ?_⟩
    split
    · rename_i hnonneg
      rw [if_pos hnonneg] at hanswer
      obtain ⟨report, hreport, hobserved, hstatus, -⟩ := hanswer
      refine ⟨report, hreport, hobserved, ?_⟩
      rw [hstatus, statusOf]
      split <;> simp_all
    · rename_i hnegative
      rwa [if_neg hnegative] at hanswer
  · rename_i hmeasures
    exact evaluate_of_not_measures hmeasures

end SloObjective

/-! ### A window with a negative rank -/

namespace SloObjective

/-- The time of the samples. -/
def measuredAt : RecordedAt := ⟨.of 2026 7 13 (Eq.refl true), 9, 0, 0, 0⟩

/-- A sample with this value. -/
def sampleOf (value : Decimal) : MetricSample where
  fields := {
    metricId := .epoch "metric" 0 0 (Eq.refl true)
    name := "latency_ms"
    kind := .GAUGE
    value := value
    recordedAt := measuredAt }
  valid := rfl

/-- A window with one sample of this value. -/
def windowOf (value : Decimal) : SloMeasurementWindow where
  fields := {
    windowId := "window"
    startedAt := measuredAt
    endedAt := measuredAt
    samples := ⟨[sampleOf value], by simp [sysMaxsize]⟩ }
  valid := by
    simp only [postInit, check_bind_eq_ok, require_eq_ok, requireCanonicalText,
      List.forall_mem_singleton]
    show Text.IsStripped "window" ∧ measuredAt ≤ measuredAt ∧ measuredAt ≤ measuredAt
      ∧ measuredAt ≤ measuredAt
    decide

/-- The 95th percentile of the latency is at most a hundred milliseconds. -/
def latency : SloObjective :=
  ⟨{ objectiveId := "latency-p95"
     metricName := "latency_ms"
     percentile := 95
     threshold := Decimal.ofNat 100
     minimumSamples := 1
     runbookRef := "runbook://latency"
     impactScope := ["user"] }, by decide⟩

theorem pass_iff_hasShare_latency :
    ∃ report, latency.evaluate (windowOf (Decimal.ofNat 1)) = .ok report
      ∧ report.fields.status = .PASS := by
  have h := (pass_iff_hasShare latency (windowOf (Decimal.ofNat 1)) (by decide)).1
  rw [if_pos (by decide)] at h
  obtain ⟨observed, hnearest, h⟩ := h
  have hobserved : observed = Decimal.ofNat 1 := List.mem_singleton.mp hnearest.mem
  rw [hobserved, if_pos (by decide)] at h
  obtain ⟨report, hreport, -, hstatus⟩ := h
  exact ⟨report, hreport, hstatus.mpr (by decide)⟩

/-- A window all of which is within the threshold, and which is refused. -/
theorem refuses_negative :
    latency.fields.minimumSamples ≤ (windowOf (Decimal.ofInt (-1))).values.length
      ∧ HasShare latency.fields.percentile (windowOf (Decimal.ofInt (-1))).values
        latency.fields.threshold
      ∧ ∀ report, latency.evaluate (windowOf (Decimal.ofInt (-1))) ≠ .ok report := by
  refine ⟨by decide, by decide, fun report hreport => ?_⟩
  obtain ⟨observed, hnearest, h⟩ := evaluate_of_enough (o := latency)
    (w := windowOf (Decimal.ofInt (-1))) (by decide) (by decide)
  have hobserved : observed = Decimal.ofInt (-1) := List.mem_singleton.mp hnearest.mem
  rw [hobserved, if_neg (by decide), hreport] at h
  cases h

end SloObjective

end FuturesAgentOs
