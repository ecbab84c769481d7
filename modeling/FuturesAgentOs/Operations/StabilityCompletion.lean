import FuturesAgentOs.Operations.StabilityChain

namespace FuturesAgentOs

open PyModel

/-!
# Complete stability runs

The evaluation compares a gap with `maximum_single_gap_seconds` only when the gap is more than
twice the interval.  A plan asks no more than that the limit exceeds the interval, so that a gap
between the limit and twice the interval is not looked at (`StabilityRunPlan.Overlooked`).

* `StabilityRunPlan.completed_iff` — what a complete evaluation means;
-/

/-! ### Completed runs -/

namespace StabilityRunPlan

section

variable [Hashlib]

/-- The next of two heartbeats, by its digest, bucket and time. -/
structure Linked (previous h : StabilityHeartbeat) : Prop where
  digest : h.fields.body.previousDigest = previous.fields.digest
  bucket : previous.fields.body.bucket < h.fields.body.bucket
  recordedAt : previous.fields.body.recordedAt ≤ h.fields.body.recordedAt

/-- One hash chain of a plan. -/
structure IsChain (p : StabilityRunPlan) (hs : List StabilityHeartbeat) : Prop where
  plan : ∀ h ∈ hs, h.fields.body.runId = p.fields.runId
    ∧ h.fields.body.codeCommit = p.fields.codeCommit
    ∧ h.fields.body.bucket = p.bucketAt h.fields.body.recordedAt
  sequence : ∀ (i : ℕ) h, hs[i]? = some h → h.fields.body.sequence = i + 1
  first : ∀ h ∈ hs.head?, h.fields.body.previousDigest = stabilityGenesis
    ∧ p.fields.startedAt ≤ h.fields.body.recordedAt
  linked : hs.IsChain Linked

/-- The gaps before the heartbeats, in microseconds. -/
def gapsFrom (previousAt : RecordedAt) : List StabilityHeartbeat → List ℤ
  | [] => []
  | h :: rest =>
    h.fields.body.recordedAt.since previousAt :: gapsFrom h.fields.body.recordedAt rest

/-- The gaps of a run, the first from its start. -/
def gaps (p : StabilityRunPlan) (hs : List StabilityHeartbeat) : List ℤ :=
  gapsFrom p.fields.startedAt hs

/-- `heartbeat_interval_seconds`, in microseconds. -/
def interval (p : StabilityRunPlan) : ℤ := p.fields.heartbeatIntervalSeconds * 1000000

/-- `maximum_single_gap_seconds`, in microseconds. -/
def maximumSingleGap (p : StabilityRunPlan) : ℤ := p.fields.maximumSingleGapSeconds * 1000000

/-- `maximum_total_gap_seconds`, in microseconds. -/
def maximumTotalGap (p : StabilityRunPlan) : ℤ := p.fields.maximumTotalGapSeconds * 1000000

/-- The excesses over the interval of the gaps that have to be reported. -/
def excesses (p : StabilityRunPlan) (gaps : List ℤ) : List ℤ :=
  (gaps.filter fun gap => 2 * p.interval < gap).map fun gap => gap - p.interval

/-- What a complete run should be. -/
structure Completed (p : StabilityRunPlan) (hs : List StabilityHeartbeat) : Prop where
  chain : p.IsChain hs
  single : ∀ gap ∈ p.gaps hs, gap ≤ p.maximumSingleGap
  total : (p.excesses (p.gaps hs)).sum ≤ p.maximumTotalGap
  ending : ∃ last ∈ hs.getLast?, p.fields.minimumEndAt ≤ last.fields.body.recordedAt

/-- A gap beyond the limit that is too short to be looked at. -/
def Overlooked (p : StabilityRunPlan) (gap : ℤ) : Prop :=
  p.maximumSingleGap < gap ∧ gap ≤ 2 * p.interval

omit [Hashlib] in
theorem positive (p : StabilityRunPlan) : 1 ≤ p.fields.heartbeatIntervalSeconds
    ∧ 1 ≤ p.fields.maximumSingleGapSeconds ∧ 1 ≤ p.fields.maximumTotalGapSeconds := by
  obtain ⟨-, h⟩ := check_bind_eq_ok.mp p.valid
  obtain ⟨-, h⟩ := check_bind_eq_ok.mp h
  obtain ⟨-, h⟩ := check_bind_eq_ok.mp h
  obtain ⟨-, h⟩ := check_bind_eq_ok.mp h
  obtain ⟨hpositive, -⟩ := check_bind_eq_ok.mp h
  exact require_eq_ok.mp hpositive

end

end StabilityRunPlan

section

variable [Hashlib] {p : StabilityRunPlan} {scan : ChainScan} {h : StabilityHeartbeat}
  {hs : List StabilityHeartbeat}

omit [Hashlib] in
/-- A number of seconds against a number of microseconds. -/
theorem decimalOfInt_lt_seconds {n : ℤ} (hn : 0 ≤ n) (micros : ℤ) :
    decimalOfInt n < secondsDecimal micros ↔ n * 1000000 < micros := by
  have hcast : ((n.toNat : ℤ) : ℚ) = n := by rw [Int.toNat_of_nonneg hn]
  rw [Decimal.lt_def, val_secondsDecimal, decimalOfInt, Decimal.val_ofNat, ← Int.cast_natCast,
    hcast, lt_div_iff₀ (by norm_num)]
  exact_mod_cast Iff.rfl

namespace ChainScan

theorem links_of_unbroken {k : ℕ} (hunbroken : Unbroken p k scan hs) :
    (∀ h ∈ hs, h.fields.body.runId = p.fields.runId
        ∧ h.fields.body.codeCommit = p.fields.codeCommit
        ∧ h.fields.body.bucket = p.bucketAt h.fields.body.recordedAt)
      ∧ (∀ (i : ℕ) h, hs[i]? = some h → h.fields.body.sequence = (k + i : ℕ))
      ∧ (∀ h ∈ hs.head?, h.fields.body.previousDigest = scan.previousDigest
        ∧ scan.previousBucket < h.fields.body.bucket
        ∧ scan.previousAt ≤ h.fields.body.recordedAt)
      ∧ hs.IsChain StabilityRunPlan.Linked := by
  induction hs generalizing k scan with
  | nil =>
    refine ⟨?_, ?_, ?_, List.IsChain.nil⟩
    · intro h hmem
      cases hmem
    · intro i h hget
      cases hget
    · intro h hhead
      cases hhead
  | cons g rest ih =>
    obtain ⟨hnot, hrest⟩ := hunbroken
    simp only [BreaksChain, not_or, not_not, not_le, RecordedAt.not_lt] at hnot
    obtain ⟨hsequence, hrun, hcode, hdigest, hbucket, hlater, hplace⟩ := hnot
    obtain ⟨hplan, hsequences, hhead, hchain⟩ := ih hrest
    refine ⟨?_, ?_, ?_, List.isChain_cons.mpr ⟨fun h hmem => ?_, hchain⟩⟩
    · rw [List.forall_mem_cons]
      exact ⟨⟨hrun, hcode, hplace⟩, hplan⟩
    · rintro (_ | i) h hget
      · rw [← Option.some.inj hget]
        exact hsequence
      · rw [hsequences i h hget]
        congr 1
        omega
    · intro h hmem
      rw [← Option.some.inj hmem]
      exact ⟨hdigest, hbucket, hlater⟩
    · obtain ⟨hlink, hnext, htime⟩ := hhead h hmem
      exact ⟨hlink, hnext, htime⟩

omit [Hashlib] in
theorem looked_iff {gap : ℤ} :
    decimalOfInt (p.fields.heartbeatIntervalSeconds * 2) < secondsDecimal gap
      ↔ 2 * p.interval < gap := by
  have hpositive := p.positive.1
  rw [decimalOfInt_lt_seconds (by omega), StabilityRunPlan.interval]
  constructor <;> intro h <;> omega

omit [Hashlib] in
theorem val_excess {gap : ℤ} (hgap : 2 * p.interval < gap) :
    (Decimal.max' (Decimal.ofNat 0) ((secondsDecimal gap).sub
      (decimalOfInt p.fields.heartbeatIntervalSeconds))).val
        = ((gap - p.interval : ℤ) : ℚ) / 1000000 := by
  have hpositive := p.positive.1
  have hinterval : (decimalOfInt p.fields.heartbeatIntervalSeconds).val
      = (p.interval : ℚ) / 1000000 := by
    have hcast : ((p.fields.heartbeatIntervalSeconds.toNat : ℤ) : ℚ)
        = p.fields.heartbeatIntervalSeconds := by rw [Int.toNat_of_nonneg (by omega)]
    rw [decimalOfInt, Decimal.val_ofNat, ← Int.cast_natCast, hcast, StabilityRunPlan.interval]
    push_cast
    ring
  have hsmall : p.interval ≤ gap := by
    have : 0 ≤ p.interval := by
      rw [StabilityRunPlan.interval]
      omega
    omega
  have hnonneg : (0 : ℚ) ≤ ((gap - p.interval : ℤ) : ℚ) / 1000000 :=
    div_nonneg (by exact_mod_cast Int.sub_nonneg.mpr hsmall) (by norm_num)
  have hsub : ((secondsDecimal gap).sub (decimalOfInt p.fields.heartbeatIntervalSeconds)).val
      = ((gap - p.interval : ℤ) : ℚ) / 1000000 := by
    rw [Decimal.val_sub, val_secondsDecimal, hinterval]
    push_cast
    ring
  rw [Decimal.val_max', hsub, Decimal.val_ofNat, Nat.cast_zero, max_eq_right hnonneg]

theorem totalGap_after : (scan.after p h).totalGap = (scan.afterGap p h).totalGap := by
  -- for any scan, so that the one with the gap is not unfolded
  have hkept : ∀ (gapped : ChainScan) reasons digest previousAt bucket incidents,
      (ChainScan.mk reasons digest previousAt bucket gapped.totalGap incidents).totalGap
        = gapped.totalGap := fun _ _ _ _ _ _ => rfl
  exact hkept (scan.afterGap p h) _ _ _ _ _

theorem afterGap_of_not
    (hgap : ¬ 2 * p.interval < h.fields.body.recordedAt.since scan.previousAt) :
    scan.afterGap p h = scan := if_neg (looked_iff.not.mpr hgap)

theorem totalGap_of_looked
    (hgap : 2 * p.interval < h.fields.body.recordedAt.since scan.previousAt) :
    (scan.afterGap p h).totalGap = scan.totalGap.add (Decimal.max' (Decimal.ofNat 0)
      ((secondsDecimal (h.fields.body.recordedAt.since scan.previousAt)).sub
        (decimalOfInt p.fields.heartbeatIntervalSeconds))) :=
  congrArg ChainScan.totalGap (if_pos (looked_iff.mpr hgap))

omit [Hashlib] in
theorem excesses_singleton (gap : ℤ) :
    (p.excesses [gap]).sum = if 2 * p.interval < gap then gap - p.interval else 0 := by
  by_cases hgap : 2 * p.interval < gap <;> simp [StabilityRunPlan.excesses, hgap]

theorem val_totalGap_after :
    (scan.after p h).totalGap.val = scan.totalGap.val
      + ((p.excesses [h.fields.body.recordedAt.since scan.previousAt]).sum : ℚ) / 1000000 := by
  rw [totalGap_after, excesses_singleton]
  by_cases hgap : 2 * p.interval < h.fields.body.recordedAt.since scan.previousAt
  · rw [totalGap_of_looked hgap, Decimal.val_add, val_excess hgap, if_pos hgap]
  · rw [afterGap_of_not hgap, if_neg hgap, Int.cast_zero, zero_div, add_zero]

theorem single_mem_after : .SINGLE_GAP_BUDGET_EXCEEDED ∈ (scan.after p h).reasons
    ↔ .SINGLE_GAP_BUDGET_EXCEEDED ∈ scan.reasons
      ∨ 2 * p.interval < h.fields.body.recordedAt.since scan.previousAt
        ∧ p.maximumSingleGap < h.fields.body.recordedAt.since scan.previousAt := by
  have hmeasured : .SINGLE_GAP_BUDGET_EXCEEDED ∉ h.measured :=
    fun hmem => absurd (mem_measured hmem) (by decide)
  have hnonneg : 0 ≤ p.fields.maximumSingleGapSeconds := by
    have := p.positive.2.1
    omega
  have hsingle := decimalOfInt_lt_seconds hnonneg (h.fields.body.recordedAt.since scan.previousAt)
  simp only [after, afterGap, List.mem_append, hmeasured, or_false]
  by_cases hgap : 2 * p.interval < h.fields.body.recordedAt.since scan.previousAt
  · rw [if_pos (looked_iff.mpr hgap)]
    simp only [List.mem_append, hgap, true_and]
    constructor
    · rintro ((hold | hmiss) | hexceeded)
      · exact .inl hold
      · split at hmiss <;> simp at hmiss
      · right
        by_contra hnot
        rw [if_neg (hsingle.not.mpr hnot)] at hexceeded
        cases hexceeded
    · rintro (hold | hexceeded)
      · exact .inl (.inl hold)
      · exact .inr (by rw [if_pos (hsingle.mpr hexceeded)]; exact List.mem_singleton_self _)
  · rw [if_neg (looked_iff.not.mpr hgap)]
    exact ⟨.inl, fun hcase => hcase.resolve_right fun h => hgap h.1⟩

/-- **The gaps that the loop looks at.** -/
theorem gaps_of_unbroken {k : ℕ} (hunbroken : Unbroken p k scan hs) :
    (.SINGLE_GAP_BUDGET_EXCEEDED ∈ (run p k scan hs).reasons
        ↔ .SINGLE_GAP_BUDGET_EXCEEDED ∈ scan.reasons
          ∨ ∃ gap ∈ StabilityRunPlan.gapsFrom scan.previousAt hs,
              2 * p.interval < gap ∧ p.maximumSingleGap < gap)
      ∧ (run p k scan hs).totalGap.val = scan.totalGap.val
        + ((p.excesses (StabilityRunPlan.gapsFrom scan.previousAt hs)).sum : ℚ) / 1000000 := by
  induction hs generalizing k scan with
  | nil => simp [run, StabilityRunPlan.gapsFrom, StabilityRunPlan.excesses]
  | cons g rest ih =>
    obtain ⟨hnot, hrest⟩ := hunbroken
    obtain ⟨hsingle, htotal⟩ := ih hrest
    have hprevious : (scan.after p g).previousAt = g.fields.body.recordedAt := by rw [after]
    have hexcesses : ∀ gap gaps, (p.excesses (gap :: gaps)).sum
        = (p.excesses [gap]).sum + (p.excesses gaps).sum := by
      intro gap gaps
      rw [← List.singleton_append, StabilityRunPlan.excesses, List.filter_append, List.map_append,
        List.sum_append]
      rfl
    rw [hprevious] at hsingle htotal
    have hsum := hexcesses (g.fields.body.recordedAt.since scan.previousAt)
      (StabilityRunPlan.gapsFrom g.fields.body.recordedAt rest)
    rw [run, if_neg hnot, StabilityRunPlan.gapsFrom, hsingle, single_mem_after, htotal, hsum,
      val_totalGap_after]
    refine ⟨?_, by rw [Int.cast_add]; ring⟩
    simp only [List.mem_cons, exists_eq_or_imp, or_assoc]

end ChainScan

/-! ### What complete means -/

theorem reasons_of_complete {now : RecordedAt}
    (hcomplete : (evaluateStabilityRun p hs now).complete = true) :
    (ChainScan.run p 1 (.start p) hs).reasons = []
      ∧ (∃ last ∈ hs.getLast?, p.fields.minimumEndAt ≤ last.fields.body.recordedAt)
      ∧ ¬ decimalOfInt p.fields.maximumTotalGapSeconds
        < (ChainScan.run p 1 (.start p) hs).totalGap := by
  simp only [evaluateStabilityRun, List.isEmpty_iff, List.reverse_eq_nil_iff, List.dedup_eq_nil,
    List.append_eq_nil_iff] at hcomplete
  obtain ⟨⟨hscan, hending⟩, hbudget⟩ := hcomplete
  refine ⟨hscan, ?_, fun hless => ?_⟩
  · cases hlast : hs.getLast? with
    | none =>
      rw [hlast] at hending
      cases hending
    | some last =>
      rw [hlast] at hending
      refine ⟨last, rfl, ?_⟩
      by_contra hearly
      have hearly := RecordedAt.not_le.mp hearly
      simp only [hearly, true_or, if_true] at hending
      cases hending
  · have hbudget := (if_pos hless).symm.trans hbudget
    cases hbudget

namespace StabilityRunPlan

/-- **What a complete evaluation means.**  The run is completed exactly when no gap beyond the
single limit was too short to be looked at. -/
theorem completed_iff {now : RecordedAt}
    (hcomplete : (evaluateStabilityRun p hs now).complete = true) :
    p.Completed hs ↔ ∀ gap ∈ p.gaps hs, ¬ p.Overlooked gap := by
  obtain ⟨hreasons, hending, hbudget⟩ := reasons_of_complete hcomplete
  have hunbroken : ChainScan.Unbroken p 1 (.start p) hs := by
    by_contra hbroken
    have hinvalid := ChainScan.invalid_mem_run.mpr (Or.inr hbroken)
    rw [hreasons] at hinvalid
    cases hinvalid
  obtain ⟨hsingle, htotal⟩ := ChainScan.gaps_of_unbroken hunbroken
  have hlooked : ∀ gap ∈ p.gaps hs, 2 * p.interval < gap → gap ≤ p.maximumSingleGap := by
    intro gap hgap hlooked
    by_contra hexceeds
    have hreported := hsingle.mpr (Or.inr ⟨gap, hgap, hlooked, not_le.mp hexceeds⟩)
    rw [hreasons] at hreported
    cases hreported
  constructor
  · intro hcompleted gap hgap hoverlooked
    have hlimit := hcompleted.single gap hgap
    exact absurd hoverlooked.1 (not_lt.mpr hlimit)
  · intro hnot
    obtain ⟨hplan, hsequence, hfirst, hlinked⟩ := ChainScan.links_of_unbroken hunbroken
    refine ⟨⟨hplan, fun i h hget => ?_, fun h hhead => ?_, hlinked⟩, fun gap hgap => ?_, ?_,
      hending⟩
    · rw [hsequence i h hget]
      push_cast
      ring
    · exact ⟨(hfirst h hhead).1, (hfirst h hhead).2.2⟩
    · -- a gap beyond the limit is looked at or overlooked
      by_contra hexceeds
      have hexceeds : p.maximumSingleGap < gap := not_le.mp hexceeds
      by_cases hlook : 2 * p.interval < gap
      · exact absurd (hlooked gap hgap hlook) (not_le.mpr hexceeds)
      · exact hnot gap hgap ⟨hexceeds, not_lt.mp hlook⟩
    · have hpositive := p.positive.2.2
      have hzero : (ChainScan.start p).totalGap.val = 0 := by
        show (Decimal.ofNat 0).val = 0
        rw [Decimal.val_ofNat, Nat.cast_zero]
      have hlimit : ¬ ((p.maximumTotalGap : ℚ) / 1000000
          < ((p.excesses (p.gaps hs)).sum : ℚ) / 1000000) := by
        have hcast : ((p.fields.maximumTotalGapSeconds.toNat : ℤ) : ℚ)
            = p.fields.maximumTotalGapSeconds := by rw [Int.toNat_of_nonneg (by omega)]
        rw [Decimal.lt_def, htotal, hzero, zero_add, decimalOfInt, Decimal.val_ofNat,
          ← Int.cast_natCast, hcast] at hbudget
        have hseconds : (p.maximumTotalGap : ℚ) / 1000000 = p.fields.maximumTotalGapSeconds := by
          rw [maximumTotalGap, Int.cast_mul, Int.cast_ofNat, mul_div_cancel_right₀ _ (by norm_num)]
        rw [hseconds]
        exact hbudget
      rw [div_lt_div_iff_of_pos_right (by norm_num), not_lt] at hlimit
      exact_mod_cast hlimit

end StabilityRunPlan

end

/-! ### A gap that is not looked at -/

namespace StabilityRunPlan

/-- A plan with a heartbeat a day, and a limit just above it. -/
def dailyPlan : StabilityRunPlan :=
  ⟨{ runId := "run"
     startedAt := StabilityJournal.sampleTime 1 (Eq.refl true) 0
     minimumEndAt := StabilityJournal.sampleTime 2 (Eq.refl true) 0
     codeCommit := "commit"
     environment := "test"
     heartbeatIntervalSeconds := 86400
     maximumSingleGapSeconds := 86401
     maximumTotalGapSeconds := 86401 }, by decide +kernel⟩

/-- A heartbeat at a minute of the first hour of the second day. -/
def dailyBody (minute : Fin 60) : HeartbeatBody where
  runId := "run"
  sequence := 1
  bucket := 1
  recordedAt := StabilityJournal.sampleTime 2 (Eq.refl true) minute
  codeCommit := "commit"
  healthOk := true
  simulatedTradeCount := 1
  duplicateTradeCount := 0
  unprotectedPositionCount := 0
  auditChainBreakCount := 0
  ledgerDifference := Decimal.ofNat 0
  incidents := []
  previousDigest := stabilityGenesis

theorem exists_daily (minute : Fin 60) :
    ∃ h : StabilityHeartbeat, h.fields.body = dailyBody minute := by
  have hrun : Text.IsStripped "run" ∧ Text.IsStripped "commit" := by decide
  have hcounts : ∀ count ∈ ([1, 0, 0, 0] : List ℤ), 0 ≤ count := by decide
  have hfit : FitsStr 0 ∧ FitsStr 1 := by decide
  have hgenesis : stabilityGenesis.IsHexDigest := by decide
  obtain ⟨h, hissue⟩ := StabilityJournal.exists_issue (dailyBody minute) hrun.1 hrun.2
    ⟨Int.le_refl 1, Int.one_nonneg⟩ hcounts (le_refl (Decimal.ofNat 0).val) hgenesis
    ⟨hfit.2, hfit.2, hfit.2, hfit.1, hfit.1, hfit.1⟩
  obtain ⟨digest, -, hmake⟩ := Py.of_bind hissue
  exact ⟨h, by rw [Frozen.make_eq_ok.mp hmake]⟩

/-- A heartbeat of the second day continues the chain, after a gap that is not looked at. -/
theorem daily_continues : ∀ minute : Fin 60,
    (dailyPlan.fields.startedAt ≤ (dailyBody minute).recordedAt
        ∧ 1 = dailyPlan.bucketAt (dailyBody minute).recordedAt)
      ∧ ¬ 2 * dailyPlan.interval
        < (dailyBody minute).recordedAt.since dailyPlan.fields.startedAt
      ∧ dailyPlan.fields.minimumEndAt ≤ (dailyBody minute).recordedAt := by
  decide +kernel

theorem complete_daily {h : StabilityHeartbeat} {minute : Fin 60}
    (hbody : h.fields.body = dailyBody minute) :
    (evaluateStabilityRun dailyPlan [h] h.fields.body.recordedAt).complete = true := by
  obtain ⟨⟨hstart, hbucket⟩, hshort, hlate⟩ := daily_continues minute
  have hcontinues : ¬ BreaksChain dailyPlan (.start dailyPlan) h 1 := by
    rw [BreaksChain, hbody]
    rintro (hsequence | hrun | hcode | hdigest | hearlier | htime | hplace)
    · exact hsequence rfl
    · exact hrun rfl
    · exact hcode rfl
    · exact hdigest rfl
    · exact absurd hearlier (show ¬ (1 : ℤ) ≤ -1 by decide)
    · exact RecordedAt.not_lt.mpr hstart htime
    · exact hplace hbucket
  have hmeasured : h.measured = [] := by
    rw [StabilityHeartbeat.measured, hbody]
    rfl
  have hscan : ChainScan.run dailyPlan 1 (.start dailyPlan) [h]
      = (ChainScan.start dailyPlan).after dailyPlan h := by
    rw [ChainScan.run, if_neg hcontinues, ChainScan.run]
  have hafter : (ChainScan.start dailyPlan).after dailyPlan h
      = { ChainScan.start dailyPlan with
          reasons := [] ++ h.measured
          incidents := 0 + h.fields.body.incidents.length
          previousDigest := h.fields.digest
          previousAt := h.fields.body.recordedAt
          previousBucket := h.fields.body.bucket } := by
    have hkept : (ChainScan.start dailyPlan).afterGap dailyPlan h = .start dailyPlan :=
      ChainScan.afterGap_of_not (by rw [hbody]; exact hshort)
    rw [ChainScan.after, hkept]
    rfl
  have hbudget : ¬ decimalOfInt dailyPlan.fields.maximumTotalGapSeconds < Decimal.ofNat 0 := by
    decide +kernel
  have hlate : ¬ h.fields.body.recordedAt < dailyPlan.fields.minimumEndAt := by
    rw [hbody]
    exact RecordedAt.not_lt.mpr hlate
  rw [hmeasured] at hafter
  unfold evaluateStabilityRun
  rw [show ({ previousAt := dailyPlan.fields.startedAt } : ChainScan) = .start dailyPlan from rfl,
    hscan, hafter]
  simp only [List.getLast?_singleton, hlate, or_self, if_false, ChainScan.start, hbudget,
    List.append_nil, List.reverse_nil, List.dedup_nil, List.isEmpty_nil]

/-- A heartbeat on time. -/
theorem completed_iff_daily : ∃ h : StabilityHeartbeat, h.fields.body = dailyBody 0
    ∧ (dailyPlan.Completed [h] ↔ ∀ gap ∈ dailyPlan.gaps [h], ¬ dailyPlan.Overlooked gap) := by
  obtain ⟨h, hbody⟩ := exists_daily 0
  exact ⟨h, hbody, completed_iff (complete_daily hbody)⟩

/-- **An overlooked gap.**  A heartbeat comes 59 minutes after its limit of a second, and the run
is complete. -/
theorem complete_with_overlooked : ∃ h : StabilityHeartbeat,
    (evaluateStabilityRun dailyPlan [h] h.fields.body.recordedAt).complete = true
      ∧ ¬ dailyPlan.Completed [h]
      ∧ ∃ gap ∈ dailyPlan.gaps [h], dailyPlan.maximumSingleGap < gap := by
  obtain ⟨h, hbody⟩ := exists_daily 59
  have hcomplete := complete_daily hbody
  have hgap : h.fields.body.recordedAt.since dailyPlan.fields.startedAt ∈ dailyPlan.gaps [h] :=
    List.mem_singleton_self _
  have hlong : dailyPlan.maximumSingleGap
      < h.fields.body.recordedAt.since dailyPlan.fields.startedAt := by
    rw [hbody]
    decide +kernel
  refine ⟨h, hcomplete, fun hcompleted => ?_, _, hgap, hlong⟩
  have hlimit := hcompleted.single _ hgap
  exact absurd hlimit (not_le.mpr hlong)

end StabilityRunPlan

end FuturesAgentOs
