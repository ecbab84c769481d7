import FuturesAgentOs.Operations.StabilityCodec

namespace FuturesAgentOs

open PyModel

/-!
# The chain of a stability journal

`append` and the evaluation compute buckets and gaps on their own.  They agree unless a clock
reading falls into a bucket before the one of the last heartbeat
(`StabilityJournal.Backward`): its heartbeat is written, and the file is never read again.

* `StabilityJournal.readable_iff` — every run.
-/

/-! ### Buckets and gaps -/

namespace StabilityRunPlan

theorem checked (p : StabilityRunPlan) :
    p.fields.runId.IsStripped ∧ p.fields.codeCommit.IsStripped
      ∧ 1 ≤ p.fields.heartbeatIntervalSeconds := by
  obtain ⟨hrun, h⟩ := check_bind_eq_ok.mp p.valid
  obtain ⟨hcode, h⟩ := check_bind_eq_ok.mp h
  obtain ⟨-, h⟩ := check_bind_eq_ok.mp h
  obtain ⟨-, h⟩ := check_bind_eq_ok.mp h
  obtain ⟨hpositive, -⟩ := check_bind_eq_ok.mp h
  exact ⟨require_eq_ok.mp hrun, require_eq_ok.mp hcode, (require_eq_ok.mp hpositive).1⟩

/-- A time in a later bucket is later. -/
theorem lt_of_bucketAt_lt (p : StabilityRunPlan) {s t : RecordedAt}
    (h : p.bucketAt s < p.bucketAt t) : s < t := by
  by_contra hle
  rw [RecordedAt.not_lt, RecordedAt.le_iff_micros] at hle
  have hwidth : 0 < p.fields.heartbeatIntervalSeconds * 1000000 := by
    have := p.checked.2.2
    omega
  have hsince : t.since p.fields.startedAt ≤ s.since p.fields.startedAt := by
    simp only [RecordedAt.since]
    omega
  have hbucket : p.bucketAt t ≤ p.bucketAt s := Int.ediv_le_ediv hwidth hsince
  omega

end StabilityRunPlan

section

variable [Hashlib] (p : StabilityRunPlan)

/-! ### What the loop of the evaluation reads -/

namespace ChainScan

variable {p} {scan : ChainScan} {h : StabilityHeartbeat}

/-- No heartbeat breaks the chain. -/
def Unbroken (p : StabilityRunPlan) : ℕ → ChainScan → List StabilityHeartbeat → Prop
  | _, _, [] => True
  | expectedSequence, scan, h :: rest =>
    ¬ BreaksChain p scan h expectedSequence
      ∧ Unbroken p (expectedSequence + 1) (scan.after p h) rest

variable {expectedSequence : ℕ} {hs : List StabilityHeartbeat}

theorem run_append
    (hunbroken : Unbroken p expectedSequence scan hs) (more : List StabilityHeartbeat) :
    run p expectedSequence scan (hs ++ more)
      = run p (expectedSequence + hs.length) (run p expectedSequence scan hs) more := by
  induction hs generalizing expectedSequence scan with
  | nil => rfl
  | cons h rest ih =>
    rw [List.cons_append, run, run, if_neg hunbroken.1, if_neg hunbroken.1, ih hunbroken.2,
      List.length_cons]
    congr 1
    omega

theorem unbroken_append {more : List StabilityHeartbeat} :
    Unbroken p expectedSequence scan (hs ++ more) ↔ Unbroken p expectedSequence scan hs
      ∧ Unbroken p (expectedSequence + hs.length) (run p expectedSequence scan hs) more := by
  induction hs generalizing expectedSequence scan with
  | nil => simp [Unbroken, run]
  | cons h rest ih =>
    have hlength : expectedSequence + (rest.length + 1) = expectedSequence + 1 + rest.length := by
      omega
    rw [List.cons_append, Unbroken, Unbroken, ih, and_assoc, List.length_cons, hlength]
    refine and_congr_right fun hnot => ?_
    rw [run, if_neg hnot]

/-- The gap is reported, or there is none. -/
def Reported (p : StabilityRunPlan) (scan : ChainScan) (h : StabilityHeartbeat) : Prop :=
  let gap := secondsDecimal (h.fields.body.recordedAt.since scan.previousAt)
  decimalOfInt (p.fields.heartbeatIntervalSeconds * 2) < gap →
    ∃ i ∈ h.fields.body.incidents, ReportsGap scan h (Decimal.max' (Decimal.ofNat 0)
      (gap.sub (decimalOfInt p.fields.heartbeatIntervalSeconds))) i

/-- The reasons that the measurements of a heartbeat give. -/
theorem mem_measured {reason : StabilityReason} (hmem : reason ∈ h.measured) :
    reason ∈ [StabilityReason.HEALTH_CHECK_FAILED, .NO_SIMULATED_TRADE, .DUPLICATE_TRADE,
      .UNPROTECTED_POSITION, .AUDIT_CHAIN_BREAK, .LEDGER_DIFFERENCE] := by
  simp only [StabilityHeartbeat.measured, List.mem_append] at hmem
  rcases hmem with ((((hmem | hmem) | hmem) | hmem) | hmem) | hmem <;> split at hmem <;>
    simp_all

theorem not_mem_measured : .INVALID_HEARTBEAT_CHAIN ∉ h.measured
    ∧ .UNREPORTED_HEARTBEAT_GAP ∉ h.measured :=
  ⟨fun hmem => absurd (mem_measured hmem) (by decide),
    fun hmem => absurd (mem_measured hmem) (by decide)⟩

/-- The loop adds `INVALID_HEARTBEAT_CHAIN` nowhere but at its end. -/
theorem invalid_mem_after :
    .INVALID_HEARTBEAT_CHAIN ∈ (scan.after p h).reasons
      ↔ .INVALID_HEARTBEAT_CHAIN ∈ scan.reasons := by
  have hmeasured := (not_mem_measured (h := h)).1
  simp only [after, afterGap, List.mem_append, hmeasured, or_false]
  split
  · simp only [List.mem_append]
    constructor
    · rintro ((hold | hgap) | hsingle)
      · exact hold
      · split at hgap <;> simp at hgap
      · split at hsingle <;> simp at hsingle
    · exact fun hold => Or.inl (Or.inl hold)
  · exact Iff.rfl

/-- A gap that is not reported is noticed, and nothing else is taken for one. -/
theorem unreported_mem_after :
    .UNREPORTED_HEARTBEAT_GAP ∈ (scan.after p h).reasons
      ↔ .UNREPORTED_HEARTBEAT_GAP ∈ scan.reasons ∨ ¬ Reported p scan h := by
  have hmeasured := (not_mem_measured (h := h)).2
  simp only [after, afterGap, List.mem_append, hmeasured, or_false]
  by_cases hgap : decimalOfInt (p.fields.heartbeatIntervalSeconds * 2)
      < secondsDecimal (h.fields.body.recordedAt.since scan.previousAt)
  · have hreported : Reported p scan h ↔ _ := ⟨fun hr => hr hgap, fun hr _ => hr⟩
    rw [if_pos hgap, hreported]
    simp only [List.mem_append]
    constructor
    · rintro ((hold | hmiss) | hsingle)
      · exact Or.inl hold
      · split at hmiss
        · cases hmiss
        · right
          assumption
      · split at hsingle <;> simp at hsingle
    · rintro (hold | hmiss)
      · exact Or.inl (Or.inl hold)
      · exact Or.inl (Or.inr (by rw [if_neg hmiss]; exact List.mem_singleton_self _))
  · have hreported : Reported p scan h := fun hr => absurd hr hgap
    rw [if_neg hgap]
    exact ⟨Or.inl, fun hcase => hcase.resolve_right (not_not_intro hreported)⟩

/-- **What the loop says of a chain.** -/
theorem invalid_mem_run : .INVALID_HEARTBEAT_CHAIN ∈ (run p expectedSequence scan hs).reasons
      ↔ .INVALID_HEARTBEAT_CHAIN ∈ scan.reasons ∨ ¬ Unbroken p expectedSequence scan hs := by
  induction hs generalizing expectedSequence scan with
  | nil => simp [run, Unbroken]
  | cons h rest ih =>
    rw [run, Unbroken]
    by_cases hbreaks : BreaksChain p scan h expectedSequence
    · simp [hbreaks]
    · rw [if_neg hbreaks, ih, invalid_mem_after]
      simp [hbreaks]

/-- What the loop remembers of the last heartbeat. -/
theorem run_concat (hunbroken : Unbroken p expectedSequence scan (hs ++ [h])) :
    run p expectedSequence scan (hs ++ [h]) = (run p expectedSequence scan hs).after p h := by
  obtain ⟨hbefore, hlast, -⟩ := unbroken_append.mp hunbroken
  rw [run_append hbefore, run, if_neg hlast, run]

/-- The start of the loop. -/
def start (p : StabilityRunPlan) : ChainScan := { previousAt := p.fields.startedAt }

/-- Where the loop stands after a chain. -/
structure StandsAt (p : StabilityRunPlan) (hs : List StabilityHeartbeat) (scan : ChainScan) :
    Prop where
  digest : scan.previousDigest = StabilityJournal.lastDigest hs
  recordedAt : scan.previousAt = StabilityJournal.lastAt p hs
  bucket : scan.previousBucket = match hs.getLast? with
    | some last => p.bucketAt last.fields.body.recordedAt
    | none => -1
  last : ∀ last ∈ hs.getLast?, last.fields.body.bucket = p.bucketAt last.fields.body.recordedAt

theorem standsAt_run (h : Unbroken p 1 (start p) hs) : StandsAt p hs (run p 1 (start p) hs) := by
  cases hs using List.reverseRecOn with
  | nil =>
    refine ⟨rfl, rfl, rfl, fun last hlast => ?_⟩
    cases hlast
  | append_singleton hs last =>
    obtain ⟨-, hlast, -⟩ := unbroken_append.mp h
    simp only [BreaksChain, not_or, not_not] at hlast
    obtain ⟨-, -, -, -, -, -, hbucket⟩ := hlast
    rw [run_concat h]
    refine ⟨?_, ?_, ?_, ?_⟩
    · rw [StabilityJournal.lastDigest, List.getLast?_concat]
      rfl
    · rw [StabilityJournal.lastAt, List.getLast?_concat]
      rfl
    · rw [List.getLast?_concat]
      exact hbucket
    · rw [List.getLast?_concat]
      intro last' hlast'
      rw [← Option.some.inj hlast']
      exact hbucket

end ChainScan

theorem mem_reasonCodes {p : StabilityRunPlan} {hs : List StabilityHeartbeat} {now : RecordedAt}
    {reason : StabilityReason}
    (h : reason = .INVALID_HEARTBEAT_CHAIN ∨ reason = .UNREPORTED_HEARTBEAT_GAP) :
    reason ∈ (evaluateStabilityRun p hs now).reasonCodes
      ↔ reason ∈ (ChainScan.run p 1 (.start p) hs).reasons := by
  unfold evaluateStabilityRun
  simp only [List.mem_reverse, List.mem_dedup, List.mem_append]
  constructor
  · rintro ((hscan | hending) | hbudget)
    · exact hscan
    · rcases h with rfl | rfl <;> split at hending <;> (try split at hending) <;> simp at hending
    · rcases h with rfl | rfl <;> split at hbudget <;> simp at hbudget
  · exact fun hscan => Or.inl (Or.inl hscan)

/-! ### The next heartbeat -/

omit [Hashlib] in
theorem isJsonSafe_around {before middle after : Text} (hbefore : before.IsAscii)
    (hmiddle : middle.IsJsonSafe) (hafter : after.IsAscii) (number : ℕ) :
    (before ++ middle ++ after ++ Text.ofNat number).IsJsonSafe := by
  have hmiddle := (Text.IsJsonSafe.ascii_append hbefore hmiddle).append_ascii hafter
  exact hmiddle.append_ascii (Json.isVisible_ofNat number).isAscii

namespace StabilityJournal

variable {p : StabilityRunPlan} {hs : List StabilityHeartbeat} {args : AppendHeartbeat}
  {h : StabilityHeartbeat}

omit [Hashlib] in
/-- The incident that `append` writes reports the gap, and its texts survive JSON. -/
theorem gapIncident_eq_ok {since now : RecordedAt} {number : ℕ} {incidents : List StabilityIncident}
    (hsafe : p.fields.runId.IsJsonSafe) (h : gapIncident p since now number = .ok incidents) :
    (decimalOfInt (p.fields.heartbeatIntervalSeconds * 2) < secondsDecimal (now.since since) →
        ∃ i ∈ incidents, i.fields.category = "HEARTBEAT_GAP" ∧ i.fields.detectedAt = since
          ∧ i.fields.recoveredAt = now ∧ i.fields.downtimeSeconds = (secondsDecimal
            (now.since since)).sub (decimalOfInt p.fields.heartbeatIntervalSeconds))
      ∧ ∀ i ∈ incidents, StabilityIncident.Storable i := by
  unfold gapIncident at h
  dsimp only at h
  split at h
  · obtain ⟨incident, hincident, h⟩ := Py.of_bind h
    obtain rfl := Except.ok.inj h
    have hfields := Frozen.make_eq_ok.mp hincident
    refine ⟨fun _ => ⟨incident, List.mem_singleton_self _, ?_⟩, fun i hi => ?_⟩
    · rw [hfields]
      exact ⟨rfl, rfl, rfl, rfl⟩
    · rw [List.mem_singleton.mp hi]
      refine ⟨?_, ?_, ?_⟩ <;> rw [hfields]
      · exact isJsonSafe_around (by decide) hsafe (by decide) number
      · exact (show Text.IsAscii "HEARTBEAT_GAP" by decide).isJsonSafe
      · exact isJsonSafe_around (by decide) hsafe (by decide) number
  · obtain rfl := Except.ok.inj h
    refine ⟨fun hgap => absurd hgap ‹_›, fun i hi => ?_⟩
    cases hi

theorem nextHeartbeat_eq_ok (h' : nextHeartbeat p hs args = .ok h) :
    ∃ incidents, gapIncident p (lastAt p hs) args.now (hs.length + 1) = .ok incidents
      ∧ h.fields.body = nextBody p hs args incidents := by
  obtain ⟨incidents, hincidents, h'⟩ := Py.of_bind h'
  obtain ⟨digest, -, h'⟩ := Py.of_bind h'
  exact ⟨incidents, hincidents, by rw [Frozen.make_eq_ok.mp h']⟩

theorem reported_next {scan : ChainScan} (hscan : ChainScan.StandsAt p hs scan)
    (hsafe : p.fields.runId.IsJsonSafe) (hnext : nextHeartbeat p hs args = .ok h) :
    ChainScan.Reported p scan h := by
  obtain ⟨incidents, hincidents, hbody⟩ := nextHeartbeat_eq_ok hnext
  intro hgap
  rw [hbody, hscan.recordedAt] at hgap
  obtain ⟨i, hi, hcategory, hdetected, hrecovered, hdowntime⟩ :=
    (gapIncident_eq_ok hsafe hincidents).1 hgap
  refine ⟨i, by rw [hbody]; exact hi, hcategory, hdetected.trans hscan.recordedAt.symm,
    by rw [hbody]; exact hrecovered, ?_⟩
  -- the gap is longer than the interval, so that the excess is their difference
  rw [hdowntime, hbody, hscan.recordedAt]
  have hpositive : Decimal.ofNat 0 < (secondsDecimal (args.now.since (lastAt p hs))).sub
      (decimalOfInt p.fields.heartbeatIntervalSeconds) := by
    have hinterval := p.checked.2.2
    have hgap : (decimalOfInt (p.fields.heartbeatIntervalSeconds * 2)).val
        < (secondsDecimal (args.now.since (lastAt p hs))).val := hgap
    rw [Decimal.lt_def, Decimal.val_sub, Decimal.val_ofNat]
    simp only [decimalOfInt, Decimal.val_ofNat] at hgap ⊢
    have hle : ((p.fields.heartbeatIntervalSeconds.toNat : ℕ) : ℚ)
        ≤ ((p.fields.heartbeatIntervalSeconds * 2).toNat : ℕ) := by
      exact_mod_cast (by omega : p.fields.heartbeatIntervalSeconds.toNat
        ≤ (p.fields.heartbeatIntervalSeconds * 2).toNat)
    push_cast
    linarith
  show Decimal.numEq _ (Decimal.max' _ ((secondsDecimal (args.now.since (lastAt p hs))).sub _))
  rw [Decimal.max', if_pos hpositive]
  exact Decimal.numEq_refl _

theorem breaksChain_next_iff {scan : ChainScan} (hscan : ChainScan.StandsAt p hs scan)
    (hcode : args.codeCommit = p.fields.codeCommit)
    (hstart : 0 ≤ args.now.since p.fields.startedAt)
    (hnext : nextHeartbeat p hs args = .ok h) :
    BreaksChain p scan h (1 + hs.length) ↔ p.bucketAt args.now ≤ scan.previousBucket := by
  obtain ⟨incidents, -, hbody⟩ := nextHeartbeat_eq_ok hnext
  constructor
  · intro hbreaks
    by_contra hlater
    have hlater : scan.previousBucket < p.bucketAt args.now := not_le.mp hlater
    have hafter : ¬ args.now < scan.previousAt := by
      rw [hscan.recordedAt, RecordedAt.not_lt, lastAt]
      have hbucket := hscan.bucket
      cases hlast : hs.getLast? with
      | none => exact RecordedAt.since_nonneg_iff.mp hstart
      | some last =>
        rw [hlast] at hbucket
        rw [hbucket] at hlater
        exact Nat.le_of_lt (p.lt_of_bucketAt_lt hlater)
    unfold BreaksChain at hbreaks
    rw [hbody] at hbreaks
    rcases hbreaks with hsequence | hrun | hcommit | hdigest | hbucket | hearlier | hown
    · apply hsequence
      show (hs.length : ℤ) + 1 = _
      push_cast
      ring
    · exact hrun rfl
    · exact hcommit hcode
    · exact hdigest hscan.digest.symm
    · exact absurd hbucket (not_le.mpr hlater)
    · exact hafter hearlier
    · exact hown rfl
  · intro hbucket
    have hbucket : h.fields.body.bucket ≤ scan.previousBucket := by
      rw [hbody]
      exact hbucket
    exact Or.inr (Or.inr (Or.inr (Or.inr (Or.inl hbucket))))

variable {loaded : LoadedPlan}

theorem storable_next (hcode : args.codeCommit = loaded.plan.fields.codeCommit)
    (hnext : nextHeartbeat loaded.plan hs args = .ok h) : h.Storable := by
  obtain ⟨incidents, hincidents, hbody⟩ := nextHeartbeat_eq_ok hnext
  refine ⟨?_, ?_, ?_⟩ <;> rw [hbody]
  · exact loaded.runId_safe
  · show Text.IsJsonSafe args.codeCommit
    rw [hcode]
    exact loaded.codeCommit_safe
  · exact (gapIncident_eq_ok loaded.runId_safe hincidents).2

/-! ### One append -/

variable (isPrintable : CodePoint → Bool) {j : StabilityJournal}

/-- The file holds a chain, and every gap of it is reported. -/
structure Holds (j : StabilityJournal) (p : StabilityRunPlan) (hs : List StabilityHeartbeat) :
    Prop where
  read : j.lines.mapM (readLine isPrintable) = .ok hs
  unbroken : ChainScan.Unbroken p 1 (.start p) hs
  reported : .UNREPORTED_HEARTBEAT_GAP ∉ (ChainScan.run p 1 (.start p) hs).reasons

/-- What the file of a journal holds: a chain, or nothing when there is no plan. -/
structure Sound (j : StabilityJournal) : Prop where
  planned : ∀ loaded, j.plan = .ok loaded → ∃ hs, j.Holds isPrintable loaded.plan hs
  unplanned : ∀ e, j.plan = .error e → j.lines = []

variable {isPrintable}

/-- A file that holds a chain is read. -/
theorem Holds.load (hplan : j.plan = .ok loaded)
    (h : j.Holds isPrintable loaded.plan hs) : j.loadHeartbeats isPrintable = .ok hs := by
  have hread : j.readLines isPrintable = .ok hs := by
    rw [readLines, h.read]
  have hvalid : .INVALID_HEARTBEAT_CHAIN ∉ (evaluateStabilityRun loaded.plan hs
      loaded.plan.fields.startedAt).reasonCodes := by
    rw [mem_reasonCodes (Or.inl rfl), ChainScan.invalid_mem_run]
    rintro (hstart | hbroken)
    · cases hstart
    · exact hbroken h.unbroken
  rw [loadHeartbeats, hread, Py.ok_bind, hplan, Py.ok_bind, require_of_pos hvalid, Py.ok_bind]

theorem load_of_broken (hplan : j.plan = .ok loaded)
    (hread : j.lines.mapM (readLine isPrintable) = .ok hs)
    (hbroken : ¬ ChainScan.Unbroken loaded.plan 1 (.start loaded.plan) hs) :
    Py.Raises (j.loadHeartbeats isPrintable) := by
  have hread : j.readLines isPrintable = .ok hs := by
    rw [readLines, hread]
  have hinvalid : ¬ .INVALID_HEARTBEAT_CHAIN ∉ (evaluateStabilityRun loaded.plan hs
      loaded.plan.fields.startedAt).reasonCodes := by
    rw [not_not, mem_reasonCodes (Or.inl rfl), ChainScan.invalid_mem_run]
    exact Or.inr hbroken
  rw [loadHeartbeats, hread, Py.ok_bind, hplan, Py.ok_bind, require_of_neg hinvalid]
  exact Py.raises_error _

/-- **What `append` does.**  It raises and leaves the file, it returns the last heartbeat of the
bucket, or it writes the next one. -/
theorem append_cases (j : StabilityJournal) (args : AppendHeartbeat) :
    (∃ e, j.append isPrintable args = (.error e, j))
      ∨ ∃ loaded heartbeats, j.plan = .ok loaded ∧ j.loadHeartbeats isPrintable = .ok heartbeats
        ∧ ((∃ last, j.append isPrintable args = (.ok last, j))
          ∨ ∃ h line, args.codeCommit = loaded.plan.fields.codeCommit
            ∧ 0 ≤ args.now.since loaded.plan.fields.startedAt
            ∧ (∀ last ∈ heartbeats.getLast?,
                last.fields.body.bucket ≠ loaded.plan.bucketAt args.now)
            ∧ nextHeartbeat loaded.plan heartbeats args = .ok h
            ∧ (Json.obj h.payloadItems).dumps = some line
            ∧ j.append isPrintable args = (.ok h, { j with lines := j.lines ++ [line] })) := by
  unfold append
  cases hprepare : j.prepare isPrintable args with
  | error e => exact Or.inl ⟨e, rfl⟩
  | ok answer =>
    right
    obtain ⟨loaded, hplan, hprepare⟩ := Py.of_bind hprepare
    obtain ⟨heartbeats, hload, hprepare⟩ := Py.of_bind hprepare
    obtain ⟨hcode, hprepare⟩ := of_require hprepare
    obtain ⟨hstart, hprepare⟩ := of_require hprepare
    refine ⟨loaded, heartbeats, hplan, hload, ?_⟩
    split at hprepare
    · rename_i last _
      obtain rfl := Except.ok.inj hprepare
      exact Or.inl ⟨last, by simp⟩
    · rename_i hfilter
      obtain ⟨h, hnext, hprepare⟩ := Py.of_bind hprepare
      split at hprepare
      · cases hprepare
      · rename_i line hline
        obtain rfl := Except.ok.inj hprepare
        right
        refine ⟨h, line, hcode, hstart, fun last hlast => ?_, hnext, hline, rfl⟩
        rw [Option.mem_def.mp hlast] at hfilter
        simpa [Option.filter] using hfilter

/-- What the measurements of an append must meet for its heartbeat to be issued. -/
structure AppendHeartbeat.Measured (args : AppendHeartbeat) : Prop where
  simulatedTradeCount : 0 ≤ args.simulatedTradeCount ∧ FitsStr args.simulatedTradeCount
  duplicateTradeCount : 0 ≤ args.duplicateTradeCount ∧ FitsStr args.duplicateTradeCount
  unprotectedPositionCount :
    0 ≤ args.unprotectedPositionCount ∧ FitsStr args.unprotectedPositionCount
  auditChainBreakCount : 0 ≤ args.auditChainBreakCount ∧ FitsStr args.auditChainBreakCount
  ledgerDifference : Decimal.ofNat 0 ≤ args.ledgerDifference

/-- An append that nothing refuses, at a time whose bucket is before that of the last heartbeat. -/
structure Backward (isPrintable : CodePoint → Bool) (j : StabilityJournal)
    (args : AppendHeartbeat) (loaded : LoadedPlan) (hs : List StabilityHeartbeat)
    (last : StabilityHeartbeat) : Prop where
  plan : j.plan = .ok loaded
  read : j.lines.mapM (readLine isPrintable) = .ok hs
  ends : hs.getLast? = some last
  codeCommit : args.codeCommit = loaded.plan.fields.codeCommit
  afterStart : 0 ≤ args.now.since loaded.plan.fields.startedAt
  earlier : loaded.plan.bucketAt args.now < last.fields.body.bucket
  measured : AppendHeartbeat.Measured args
  count : FitsStr (hs.length + 1)

/-- The append goes backward. -/
def GoesBackward (isPrintable : CodePoint → Bool) (j : StabilityJournal) (args : AppendHeartbeat) :
    Prop := ∃ loaded hs last, Backward isPrintable j args loaded hs last

theorem measured_of_issue {body : HeartbeatBody} (h' : StabilityHeartbeat.issue body = .ok h) :
    (∀ count ∈ [body.simulatedTradeCount, body.duplicateTradeCount,
        body.unprotectedPositionCount, body.auditChainBreakCount], 0 ≤ count)
      ∧ Decimal.ofNat 0 ≤ body.ledgerDifference ∧ StabilityHeartbeat.NumbersFit body := by
  obtain ⟨digest, hdigest, h'⟩ := Py.of_bind h'
  have hfields := Frozen.make_eq_ok.mp h'
  have hfit := h.numbersFit
  have hvalid : h.fields.postInit = .ok () := h.valid
  rw [StabilityHeartbeatFields.postInit] at hvalid
  simp only [check_bind_eq_ok] at hvalid
  obtain ⟨-, -, -, hcounts, hledger, -⟩ := hvalid
  rw [hfields] at hfit hcounts hledger
  exact ⟨require_eq_ok.mp hcounts, require_eq_ok.mp hledger, hfit⟩

/-- **A step** that does not go backward keeps what the file holds. -/
theorem Sound.append (h : j.Sound isPrintable) {args : AppendHeartbeat}
    (hnot : ¬ GoesBackward isPrintable j args) : (j.append isPrintable args).2.Sound isPrintable := by
  rcases j.append_cases args with ⟨e, happend⟩ | ⟨loaded, hs, hplan, hload, hcase⟩
  · rw [happend]
    exact h
  obtain ⟨hs', hholds⟩ := h.planned loaded hplan
  obtain rfl : hs' = hs := Except.ok.inj ((hholds.load hplan).symm.trans hload)
  rcases hcase with ⟨last, happend⟩ | ⟨heartbeat, line, hcode, hstart, hother, hnext, hline, happend⟩
  · rw [happend]
    exact h
  rw [happend]
  have hstands := ChainScan.standsAt_run hholds.unbroken
  -- the bucket is not before that of the last heartbeat, nor that bucket
  have hlater : ¬ loaded.plan.bucketAt args.now
      ≤ (ChainScan.run loaded.plan 1 (.start loaded.plan) hs').previousBucket := by
    rw [hstands.bucket]
    intro hle
    cases hlast : hs'.getLast? with
    | none =>
      rw [hlast] at hle
      have hwidth := loaded.plan.checked.2.2
      have hnonneg : 0 ≤ loaded.plan.bucketAt args.now :=
        Int.ediv_nonneg hstart (by omega)
      have hle : loaded.plan.bucketAt args.now ≤ -1 := hle
      omega
    | some last =>
      rw [hlast] at hle
      have hne := hother last hlast
      have hbucket := hstands.last last hlast
      have hle : loaded.plan.bucketAt args.now
          ≤ loaded.plan.bucketAt last.fields.body.recordedAt := hle
      rw [hbucket] at hne
      obtain ⟨incidents, -, hissue⟩ := Py.of_bind hnext
      obtain ⟨hcounts, hledger, hfit⟩ := measured_of_issue hissue
      simp only [List.forall_mem_cons] at hcounts
      refine hnot ⟨loaded, hs', last, hplan, hholds.read, hlast, hcode, hstart, ?_,
        ⟨⟨hcounts.1, hfit.simulatedTradeCount⟩, ⟨hcounts.2.1, hfit.duplicateTradeCount⟩,
          ⟨hcounts.2.2.1, hfit.unprotectedPositionCount⟩,
          ⟨hcounts.2.2.2.1, hfit.auditChainBreakCount⟩, hledger⟩, hfit.sequence⟩
      omega
  have hcontinues : ¬ BreaksChain loaded.plan
      (ChainScan.run loaded.plan 1 (.start loaded.plan) hs') heartbeat (1 + hs'.length) :=
    mt (breaksChain_next_iff hstands hcode hstart hnext).mp hlater
  refine ⟨fun loaded' hloaded' => ?_, fun e he => ?_⟩
  · obtain rfl : loaded = loaded' := Except.ok.inj (hplan.symm.trans hloaded')
    have hunbroken : ChainScan.Unbroken loaded.plan 1 (.start loaded.plan) (hs' ++ [heartbeat]) :=
      ChainScan.unbroken_append.mpr ⟨hholds.unbroken, hcontinues, trivial⟩
    refine ⟨hs' ++ [heartbeat], ?_, hunbroken, ?_⟩
    · have hwritten : readLine isPrintable line = .ok heartbeat :=
        StabilityHeartbeat.readLine_written isPrintable (storable_next hcode hnext) hline
      show (j.lines ++ [line]).mapM (readLine isPrintable) = _
      rw [List.mapM_append, hholds.read, Py.ok_bind, List.mapM_cons, hwritten]
      rfl
    · rw [ChainScan.run_concat hunbroken, ChainScan.unreported_mem_after]
      rintro (hold | hmiss)
      · exact hholds.reported hold
      · exact hmiss (reported_next hstands loaded.runId_safe hnext)
  · rw [hplan] at he
    cases he

/-! ### A backward append -/

omit [Hashlib] in
/-- The smaller of two numbers has a text when the larger has one. -/
theorem fitsStr_of_le {m n : ℤ} (hm : 0 ≤ m) (hle : m ≤ n) (hn : FitsStr n) : FitsStr m := by
  unfold FitsStr at hn ⊢
  rw [Text.length_ofNat] at hn ⊢
  have hlog : Nat.log 10 m.natAbs ≤ Nat.log 10 n.natAbs := Nat.log_mono_right (by omega)
  omega

theorem exists_issue (body : HeartbeatBody) (hrun : body.runId.IsStripped)
    (hcode : body.codeCommit.IsStripped) (hplace : 1 ≤ body.sequence ∧ 0 ≤ body.bucket)
    (hcounts : ∀ count ∈ [body.simulatedTradeCount, body.duplicateTradeCount,
      body.unprotectedPositionCount, body.auditChainBreakCount], 0 ≤ count)
    (hledger : Decimal.ofNat 0 ≤ body.ledgerDifference)
    (hprevious : body.previousDigest.IsHexDigest) (hfit : StabilityHeartbeat.NumbersFit body) :
    ∃ h, StabilityHeartbeat.issue body = .ok h := by
  obtain ⟨digest, hdigest, hhex⟩ := exists_canonicalSha256_of_isWritable
    ((StabilityHeartbeat.isWritable_hashItems body).mpr hfit)
  have hvalid : StabilityHeartbeatFields.postInit ⟨body, digest⟩ = .ok () := by
    rw [StabilityHeartbeatFields.postInit]
    simp only [check_bind_eq_ok]
    refine ⟨require_of_pos hrun, require_of_pos hcode, require_of_pos hplace,
      require_of_pos hcounts, require_of_pos hledger, require_of_pos hprevious,
      require_of_pos hhex, ?_⟩
    rw [hdigest, Py.ok_bind]
    exact require_of_pos rfl
  refine ⟨⟨_, hvalid⟩, ?_⟩
  rw [StabilityHeartbeat.issue, hdigest, Py.ok_bind]
  exact Frozen.make_of_valid hvalid

theorem isHexDigest_lastDigest (hs : List StabilityHeartbeat) : (lastDigest hs).IsHexDigest := by
  have hgenesis : stabilityGenesis.IsHexDigest := by decide
  unfold lastDigest
  cases hs.getLast? with
  | none => exact hgenesis
  | some last => exact last.checked.2.1

omit [Hashlib] in
theorem gapIncident_of_earlier {since now : RecordedAt} (h : now < since) (number : ℕ) :
    gapIncident p since now number = .ok [] := by
  unfold gapIncident
  refine if_neg ?_
  rw [Decimal.not_lt, Decimal.le_def, val_secondsDecimal, decimalOfInt, Decimal.val_ofNat]
  have hnegative : now.since since < 0 := by
    have hlt := RecordedAt.lt_iff_micros.mp h
    rw [RecordedAt.since]
    omega
  have hnegative : (now.since since : ℚ) / 1000000 ≤ 0 :=
    div_nonpos_of_nonpos_of_nonneg (by exact_mod_cast hnegative.le) (by norm_num)
  exact hnegative.trans (Nat.cast_nonneg _)

theorem append_writes (args : AppendHeartbeat)
    (incidents : List StabilityIncident) (hplan : j.plan = .ok loaded) (hholds : j.Holds isPrintable loaded.plan hs)
    (hcode : args.codeCommit = loaded.plan.fields.codeCommit)
    (hstart : 0 ≤ args.now.since loaded.plan.fields.startedAt)
    (hother : ∀ last ∈ hs.getLast?, last.fields.body.bucket ≠ loaded.plan.bucketAt args.now)
    (hincidents : gapIncident loaded.plan (lastAt loaded.plan hs) args.now (hs.length + 1)
      = .ok incidents)
    (hmeasured : AppendHeartbeat.Measured args) (hcount : FitsStr (hs.length + 1))
    (hfit : FitsStr (loaded.plan.bucketAt args.now)) :
    ∃ heartbeat line, nextHeartbeat loaded.plan hs args = .ok heartbeat
      ∧ heartbeat.fields.body = nextBody loaded.plan hs args incidents
      ∧ j.append isPrintable args = (.ok heartbeat, { j with lines := j.lines ++ [line] })
      ∧ (j.lines ++ [line]).mapM (readLine isPrintable) = .ok (hs ++ [heartbeat]) := by
  have hwidth := loaded.plan.checked.2.2
  have hnonneg : 0 ≤ loaded.plan.bucketAt args.now := Int.ediv_nonneg hstart (by omega)
  have hsequence : (1 : ℤ) ≤ hs.length + 1 := by omega
  obtain ⟨heartbeat, hissue⟩ := exists_issue (nextBody loaded.plan hs args incidents)
    loaded.plan.checked.1 (by rw [nextBody, hcode]; exact loaded.plan.checked.2.1)
    ⟨hsequence, hnonneg⟩
    (by
      simp only [nextBody, List.forall_mem_cons]
      exact ⟨hmeasured.simulatedTradeCount.1, hmeasured.duplicateTradeCount.1,
        hmeasured.unprotectedPositionCount.1, hmeasured.auditChainBreakCount.1, by simp⟩)
    hmeasured.ledgerDifference (isHexDigest_lastDigest hs)
    ⟨hcount, hfit, hmeasured.simulatedTradeCount.2, hmeasured.duplicateTradeCount.2,
      hmeasured.unprotectedPositionCount.2, hmeasured.auditChainBreakCount.2⟩
  have hnext : nextHeartbeat loaded.plan hs args = .ok heartbeat := by
    rw [nextHeartbeat, hincidents, Py.ok_bind, hissue]
  have hstorable := storable_next hcode hnext
  obtain ⟨line, hline⟩ : ∃ line, (Json.obj heartbeat.payloadItems).dumps = some line :=
    ⟨_, (Json.loads_dumps (StabilityHeartbeat.isSafe_payloadItems hstorable)).1⟩
  have hbody : heartbeat.fields.body = nextBody loaded.plan hs args incidents := by
    obtain ⟨incidents', hincidents', hbody⟩ := nextHeartbeat_eq_ok hnext
    rw [hbody, Except.ok.inj (hincidents.symm.trans hincidents')]
  refine ⟨heartbeat, line, hnext, hbody, ?_, ?_⟩
  · -- the last heartbeat is not one of the bucket
    have hfilter : hs.getLast?.filter (fun last =>
        last.fields.body.bucket = loaded.plan.bucketAt args.now) = none := by
      cases hlast : hs.getLast? with
      | none => rfl
      | some last =>
        simp only [Option.filter, decide_eq_true_eq]
        exact if_neg (hother last hlast)
    have hprepare : j.prepare isPrintable args = .ok (heartbeat, some line) := by
      rw [prepare, hplan, Py.ok_bind, hholds.load hplan, Py.ok_bind, require_of_pos hcode,
        Py.ok_bind, require_of_pos hstart, Py.ok_bind]
      simp only [hfilter, hnext, Py.ok_bind, hline]
    rw [append, hprepare]
    rfl
  · rw [List.mapM_append, hholds.read, Py.ok_bind, List.mapM_cons,
      StabilityHeartbeat.readLine_written isPrintable hstorable hline]
    rfl

/-- **What a backward append does.**  It writes a heartbeat, and the file is not read again. -/
theorem backward_breaks (h : j.Sound isPrintable)
    {last : StabilityHeartbeat} (hb : Backward isPrintable j args loaded hs last) :
    ∃ heartbeat line, j.append isPrintable args
        = (.ok heartbeat, { j with lines := j.lines ++ [line] })
      ∧ Py.Raises (loadHeartbeats isPrintable { j with lines := j.lines ++ [line] }) := by
  obtain ⟨hs', hholds⟩ := h.planned loaded hb.plan
  obtain rfl : hs' = hs := Except.ok.inj (hholds.read.symm.trans hb.read)
  have hstands := ChainScan.standsAt_run hholds.unbroken
  have hlast := hstands.last last hb.ends
  have hwidth := loaded.plan.checked.2.2
  have hnonneg : 0 ≤ loaded.plan.bucketAt args.now := Int.ediv_nonneg hb.afterStart (by omega)
  have hearlier : loaded.plan.bucketAt args.now
      < loaded.plan.bucketAt last.fields.body.recordedAt := by
    rw [← hlast]
    exact hb.earlier
  have hlastAt : lastAt loaded.plan hs' = last.fields.body.recordedAt := by
    rw [lastAt, hb.ends]
  have hincidents : gapIncident loaded.plan (lastAt loaded.plan hs') args.now (hs'.length + 1)
      = .ok [] := by
    rw [hlastAt]
    exact gapIncident_of_earlier (loaded.plan.lt_of_bucketAt_lt hearlier) _
  have hother : ∀ last' ∈ hs'.getLast?,
      last'.fields.body.bucket ≠ loaded.plan.bucketAt args.now := by
    intro last' hlast'
    obtain rfl : last = last' := Option.some.inj (hb.ends.symm.trans hlast')
    exact hb.earlier.ne'
  obtain ⟨heartbeat, line, hnext, -, happend, hread⟩ := append_writes args [] hb.plan hholds
    hb.codeCommit hb.afterStart hother hincidents hb.measured hb.count
    (fitsStr_of_le hnonneg hb.earlier.le last.numbersFit.bucket)
  -- its bucket breaks the chain
  have hbreaks : BreaksChain loaded.plan
      (ChainScan.run loaded.plan 1 (.start loaded.plan) hs') heartbeat (1 + hs'.length) := by
    rw [breaksChain_next_iff hstands hb.codeCommit hb.afterStart hnext, hstands.bucket, hb.ends]
    exact hearlier.le
  have hbroken : ¬ ChainScan.Unbroken loaded.plan 1 (.start loaded.plan) (hs' ++ [heartbeat]) :=
    fun hunbroken => (ChainScan.unbroken_append.mp hunbroken).2.1 hbreaks
  exact ⟨heartbeat, line, happend, load_of_broken hb.plan hread hbroken⟩

/-! ### Every run -/

/-- The journal is readable through a run: an append raises and leaves the file, or leaves a file
that is read; and the chain that stands at the end is one, with every gap reported. -/
structure Readable (isPrintable : CodePoint → Bool) (j : StabilityJournal)
    (calls : List AppendHeartbeat) : Prop where
  each : ∀ event ∈ (machine isPrintable).trace j calls,
    (Py.Raises event.2.2 ∧ ((machine isPrintable).next event.1 event.2.1).lines = event.1.lines)
      ∨ ∃ hs, ((machine isPrintable).next event.1 event.2.1).loadHeartbeats isPrintable = .ok hs
  chain : ∀ loaded hs now, j.plan = .ok loaded →
    ((machine isPrintable).exec j calls).lines.mapM (readLine isPrintable) = .ok hs →
    .INVALID_HEARTBEAT_CHAIN ∉ (evaluateStabilityRun loaded.plan hs now).reasonCodes
      ∧ .UNREPORTED_HEARTBEAT_GAP ∉ (evaluateStabilityRun loaded.plan hs now).reasonCodes

theorem next_eq (j : StabilityJournal) (args : AppendHeartbeat) :
    (machine isPrintable).next j args = (j.append isPrintable args).2 := rfl

theorem out_eq (j : StabilityJournal) (args : AppendHeartbeat) :
    (machine isPrintable).out j args = (j.append isPrintable args).1 := rfl

theorem plan_append (j : StabilityJournal) (args : AppendHeartbeat) :
    (j.append isPrintable args).2.plan = j.plan := by
  unfold append
  split <;> rfl

theorem plan_exec (j : StabilityJournal) (calls : List AppendHeartbeat) :
    ((machine isPrintable).exec j calls).plan = j.plan :=
  (machine isPrintable).exec_invariant (I := fun j' => j'.plan = j.plan)
    (fun j' args h => (plan_append j' args).trans h) rfl calls

theorem sound_start (isPrintable : CodePoint → Bool) (plan : Py LoadedPlan) :
    Sound isPrintable ⟨plan, []⟩ := by
  refine ⟨fun loaded _ => ⟨[], rfl, trivial, ?_⟩, fun e _ => rfl⟩
  intro hmem
  cases hmem

theorem Sound.chain (h : j.Sound isPrintable) (hplan : j.plan = .ok loaded)
    (hread : j.lines.mapM (readLine isPrintable) = .ok hs) (now : RecordedAt) :
    .INVALID_HEARTBEAT_CHAIN ∉ (evaluateStabilityRun loaded.plan hs now).reasonCodes
      ∧ .UNREPORTED_HEARTBEAT_GAP ∉ (evaluateStabilityRun loaded.plan hs now).reasonCodes := by
  obtain ⟨hs', hholds⟩ := h.planned loaded hplan
  obtain rfl : hs' = hs := Except.ok.inj (hholds.read.symm.trans hread)
  rw [mem_reasonCodes (Or.inl rfl), mem_reasonCodes (Or.inr rfl), ChainScan.invalid_mem_run]
  refine ⟨?_, hholds.reported⟩
  rintro (hstart | hbroken)
  · cases hstart
  · exact hbroken hholds.unbroken

/-- **One append** of a sound journal leaves a file that is read exactly when it does not go
backward. -/
theorem Sound.each_iff (h : j.Sound isPrintable) (args : AppendHeartbeat) :
    ((Py.Raises (j.append isPrintable args).1 ∧ (j.append isPrintable args).2.lines = j.lines)
        ∨ ∃ hs, (j.append isPrintable args).2.loadHeartbeats isPrintable = .ok hs)
      ↔ ¬ GoesBackward isPrintable j args := by
  constructor
  · rintro hgood ⟨loaded, hs, last, hb⟩
    obtain ⟨heartbeat, line, happend, e, hraises⟩ := backward_breaks h hb
    rw [happend] at hgood
    rcases hgood with ⟨hraised, -⟩ | ⟨hs', hload⟩
    · exact Py.not_raises_ok heartbeat hraised
    · have hload := hraises.symm.trans hload
      cases hload
  · intro hnot
    have hsound := h.append hnot
    rcases j.append_cases args with ⟨e, happend⟩ | ⟨loaded, hs, hplan, -⟩
    · left
      rw [happend]
      exact ⟨Py.raises_error e, rfl⟩
    · right
      obtain ⟨hs', hholds⟩ := hsound.planned loaded ((plan_append j args).trans hplan)
      exact ⟨hs', hholds.load ((plan_append j args).trans hplan)⟩

/-- **Readability.**  A journal is readable through a run of appends exactly when none of them
goes backward. -/
theorem readable_iff (isPrintable : CodePoint → Bool) (plan : Py LoadedPlan)
    (calls : List AppendHeartbeat) :
    Readable isPrintable ⟨plan, []⟩ calls
      ↔ (machine isPrintable).Meets (fun j args => ¬ GoesBackward isPrintable j args)
        ⟨plan, []⟩ calls := by
  constructor
  · rintro ⟨heach, -⟩
    -- by induction on the calls: a journal stays sound up to a first backward append
    have hrun : ∀ (calls : List AppendHeartbeat) (j : StabilityJournal), j.Sound isPrintable →
        (∀ event ∈ (machine isPrintable).trace j calls,
          (Py.Raises event.2.2
              ∧ ((machine isPrintable).next event.1 event.2.1).lines = event.1.lines)
            ∨ ∃ hs, ((machine isPrintable).next event.1 event.2.1).loadHeartbeats isPrintable
              = .ok hs) →
        (machine isPrintable).Meets (fun j args => ¬ GoesBackward isPrintable j args) j calls := by
      intro calls
      induction calls with
      | nil => exact fun _ _ _ => trivial
      | cons args rest ih =>
        intro j hsound heach
        rw [Machine.trace_cons, List.forall_mem_cons] at heach
        have hnot := (hsound.each_iff args).mp heach.1
        exact ⟨hnot, ih _ (hsound.append hnot) heach.2⟩
    exact hrun calls _ (sound_start _ plan) heach
  · intro hmeets
    have hsound : ((machine isPrintable).exec ⟨plan, []⟩ calls).Sound isPrintable :=
      (machine isPrintable).exec_invariant_of_meets (fun j args hnot h => h.append hnot) hmeets
        (sound_start _ plan)
    refine ⟨fun event hevent => ?_, fun loaded hs now hplan hread => ?_⟩
    · obtain ⟨js, i, ks, rfl, -, rfl, -⟩ : ∃ js i ks, calls = js ++ i :: ks ∧ True ∧
          event = ((machine isPrintable).exec ⟨plan, []⟩ js, i,
            (machine isPrintable).out ((machine isPrintable).exec ⟨plan, []⟩ js) i) ∧ True := by
        obtain ⟨xs, ys, hsplit⟩ := List.append_of_mem hevent
        obtain ⟨js, i, ks, hcalls, -, he, -⟩ := (machine isPrintable).trace_eq_append_cons hsplit
        exact ⟨js, i, ks, hcalls, trivial, he, trivial⟩
      obtain ⟨hbefore, hnot, -⟩ := (machine isPrintable).meets_append.mp hmeets
      have hsound : ((machine isPrintable).exec ⟨plan, []⟩ js).Sound isPrintable :=
        (machine isPrintable).exec_invariant_of_meets (fun j args hnot h => h.append hnot) hbefore
          (sound_start _ plan)
      exact (hsound.each_iff i).mpr hnot
    · exact hsound.chain ((plan_exec _ calls).trans hplan) hread now

end StabilityJournal

end

/-! ### A clock that goes back -/

namespace StabilityJournal

/-- The times of one day. -/
def sampleTime (day : ℕ) (hday : Date.isDate 2026 1 day = true) (minute : Fin 60) :
    RecordedAt where
  date := .of 2026 1 day hday
  hour := 0
  minute := minute
  second := 0
  microsecond := 0

/-- A plan with a bucket every 15 minutes. -/
def samplePlan : LoadedPlan where
  plan :=
    ⟨{ runId := "run"
       startedAt := sampleTime 1 (Eq.refl true) 0
       minimumEndAt := sampleTime 2 (Eq.refl true) 0
       codeCommit := "commit"
       environment := "test" }, by decide +kernel⟩
  runId_safe := by decide
  codeCommit_safe := by decide

/-- An append at a minute of the first hour. -/
def sampleAppend (minute : Fin 60) : AppendHeartbeat where
  now := sampleTime 1 (Eq.refl true) minute
  codeCommit := "commit"
  healthOk := true
  simulatedTradeCount := 1
  duplicateTradeCount := 0
  unprotectedPositionCount := 0
  auditChainBreakCount := 0
  ledgerDifference := Decimal.ofNat 0

theorem measured_sampleAppend (minute : Fin 60) :
    AppendHeartbeat.Measured (sampleAppend minute) := by
  have hone : (0 : ℤ) ≤ 1 ∧ FitsStr 1 := by decide
  have hzero : (0 : ℤ) ≤ 0 ∧ FitsStr 0 := by decide
  exact ⟨hone, hzero, hzero, hzero, le_refl (Decimal.ofNat 0).val⟩

/-- **A clock that goes back** by a bucket leaves a file that is not read again. -/
theorem clock_back_unreadable :
    ¬ Readable (fun _ => true) ⟨.ok samplePlan, []⟩ [sampleAppend 15, sampleAppend 0] := by
  rintro ⟨heach, -⟩
  have hstart : Holds (fun _ => true) ⟨.ok samplePlan, []⟩ samplePlan.plan [] :=
    ⟨rfl, trivial, fun hmem => by cases hmem⟩
  obtain ⟨first, line, -, hbody, happend, hread⟩ := append_writes (sampleAppend 15) []
    rfl hstart rfl (by decide) (fun last hlast => by cases hlast) (by rfl)
    (measured_sampleAppend 15) (by decide) (by decide)
  have hsound : Sound (fun _ => true) ⟨.ok samplePlan, [line]⟩ := by
    have hnot : ¬ GoesBackward (fun _ => true) ⟨.ok samplePlan, []⟩ (sampleAppend 15) := by
      rintro ⟨loaded, hs, last, hb⟩
      obtain rfl : [] = hs := Except.ok.inj (hstart.read.symm.trans hb.read)
      cases hb.ends
    have hnext := (sound_start (fun _ => true) (.ok samplePlan)).append hnot
    rw [happend] at hnext
    exact hnext
  have hback : GoesBackward (fun _ => true) ⟨.ok samplePlan, [line]⟩ (sampleAppend 0) := by
    refine ⟨samplePlan, [first], first, rfl, hread, rfl, rfl, by decide, ?_,
      measured_sampleAppend 0, ?_⟩
    · rw [hbody]
      show samplePlan.plan.bucketAt (sampleAppend 0).now
        < samplePlan.plan.bucketAt (sampleAppend 15).now
      decide
    · show FitsStr 2
      decide
  refine (hsound.each_iff (sampleAppend 0)).mp ?_ hback
  have hnext : (machine fun _ => true).next ⟨.ok samplePlan, []⟩ (sampleAppend 15)
      = ⟨.ok samplePlan, [line]⟩ := by
    rw [next_eq, happend]
    rfl
  rw [Machine.trace_cons, Machine.trace_cons, hnext, List.forall_mem_cons, List.forall_mem_cons]
    at heach
  have hlast := heach.2.1
  rw [next_eq, out_eq] at hlast
  exact hlast

end StabilityJournal

end FuturesAgentOs
