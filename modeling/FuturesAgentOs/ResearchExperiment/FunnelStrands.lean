import FuturesAgentOs.ResearchExperiment.FunnelOrder

namespace FuturesAgentOs

open PyModel

/-!
# Candidates that are stranded

`accept` records the evidence and the status of a task before it queues the next level, and only
then looks for the connector of that level.

* `accept_step_iff` — what one call leaves, and `strands_iff` — what a run does.
-/

namespace BatchResearchScheduler

section

variable [Hashlib] {s s' : BatchResearchScheduler} {c : AcceptCall} {key : Text}
  {task : ValidationTask} {level : ValidationLevel} {evidence : LevelEvidence}

/-- The level planned after that of a task, for its candidate. -/
def NextLevel (s : BatchResearchScheduler) (task : ValidationTask) (level : ValidationLevel) :
    Prop :=
  ∃ candidate, candidateOf task.candidateSha256 s.plan.fields.candidates = .ok candidate
    ∧ candidate.fields.levels[candidate.fields.levels.idxOf task.level + 1]? = some level

/-- Exactly one connector is registered for a level. -/
def Connected (s : BatchResearchScheduler) (level : ValidationLevel) : Prop :=
  ∃ item, s.connectors.filter (fun item => level ∈ item.fields.levels) = [item]

/-- A call that passes its task finds a connector for the level that is next. -/
def Ready (s : BatchResearchScheduler) (c : AcceptCall) : Prop :=
  ∀ key evidence level, s.checkedEvidence c = .ok (key, evidence) → evidence.decision = .PASS →
    s.NextLevel c.task level → s.Connected level

/-- A call that raises changes nothing. -/
def AllOrNothing (s : BatchResearchScheduler) (c : AcceptCall) : Prop :=
  Py.Raises (machine.out s c) → machine.next s c = s

/-- After a passed task the next level of its candidate has been queued. -/
def NoneStranded (s : BatchResearchScheduler) : Prop :=
  ∀ key task level, s.tasks.get? key = some task → s.status.get? key = some .PASSED →
    s.NextLevel task level →
    ∃ t ∈ s.queuedTasks, t.candidateSha256 = task.candidateSha256 ∧ t.level = level

/-- The tasks are of candidates of the plan, at their levels. -/
def Planned (s : BatchResearchScheduler) : Prop :=
  ∀ key task, s.tasks.get? key = some task → (∃ digest, s.plan.contentSha256 = .ok digest)
    ∧ ∃ candidate, candidateOf task.candidateSha256 s.plan.fields.candidates = .ok candidate
      ∧ task.level ∈ candidate.fields.levels

/-! ### The tasks of a scheduler -/

variable {candidate : FunnelCandidate}

theorem mem_of_candidateOf {digest : Text} {candidates : List FunnelCandidate} (h : candidateOf digest candidates = .ok candidate) :
    candidate ∈ candidates := by
  induction candidates with
  | nil => cases h
  | cons first rest ih =>
    obtain ⟨_, -, h⟩ := Py.of_bind h
    split at h
    · obtain rfl := Except.ok.inj h
      exact List.mem_cons_self
    · exact List.mem_cons_of_mem _ (ih h)

theorem exists_candidateOf (plan : BatchResearchPlan) {digest : Text}
    (hmem : candidate ∈ plan.fields.candidates) (hdigest : candidate.contentSha256 = .ok digest) :
    ∃ found, candidateOf digest plan.fields.candidates = .ok found := by
  have hvalid : plan.fields.postInit = .ok () := plan.valid
  rw [BatchResearchPlanFields.postInit, check_bind_eq_ok, check_bind_eq_ok] at hvalid
  obtain ⟨hashes, hhashes, -⟩ := Py.of_bind hvalid.2.2
  have hall := Py.mem_of_mapM hhashes
  -- along the candidates, up to the first of that digest
  generalize plan.fields.candidates = candidates at hmem hall
  induction candidates with
  | nil => cases hmem
  | cons first rest ih =>
    obtain ⟨firstSha256, -, hfirst⟩ := hall first List.mem_cons_self
    rw [candidateOf, hfirst, Py.ok_bind]
    split
    · exact ⟨first, rfl⟩
    · rename_i hne
      rcases List.mem_cons.mp hmem with rfl | hmem
      · exact absurd (Except.ok.inj (hfirst.symm.trans hdigest)) hne
      · exact ih hmem fun a ha => hall a (List.mem_cons_of_mem _ ha)

theorem Planned.store (h : s.Planned) (hbatch : ∃ digest, s.plan.contentSha256 = .ok digest)
    {found : FunnelCandidate}
    (hfound : candidateOf task.candidateSha256 s.plan.fields.candidates = .ok found)
    (hlevel : task.level ∈ found.fields.levels) : (s.store key task).Planned := by
  intro key' task' htask'
  have htask' : (s.tasks.set key task).get? key' = some task' := htask'
  rw [Dict.get?_set] at htask'
  split at htask'
  · obtain rfl := Option.some.inj htask'
    exact ⟨hbatch, found, hfound, hlevel⟩
  · exact h key' task' htask'

theorem exists_batch {predecessor : Option LevelEvidence}
    (h : s.buildTask candidate level predecessor = .ok task) :
    (∃ digest, s.plan.contentSha256 = .ok digest) ∧ ∃ item, s.connector level = .ok item := by
  obtain ⟨_, -, h⟩ := Py.of_bind h
  obtain ⟨item, hitem, h⟩ := Py.of_bind h
  obtain ⟨batch, hbatch, -⟩ := Py.of_bind h
  exact ⟨⟨batch, hbatch⟩, item, hitem⟩

/-- The tasks of a new scheduler are planned, and none has passed. -/
theorem planned_queueAll {candidates : List FunnelCandidate}
    (hsubset : candidates ⊆ s.plan.fields.candidates) (h : s.Planned)
    (hstatus : ∀ key, s.status.get? key ≠ some .PASSED) (hqueue : queueAll candidates s = .ok s') :
    s'.Planned ∧ ∀ key, s'.status.get? key ≠ some .PASSED := by
  induction candidates generalizing s with
  | nil =>
    obtain rfl := Except.ok.inj hqueue
    exact ⟨h, hstatus⟩
  | cons candidate rest ih =>
    have hfirst : ∀ found : FunnelCandidate, ∃ levels, found.fields.levels = .L0 :: levels := by
      intro found
      rcases found.levels_cases with h | h | h <;> exact ⟨_, h⟩
    obtain ⟨levels, hlevels⟩ := hfirst candidate
    rw [queueAll, hlevels] at hqueue
    obtain ⟨queued, hqueued, hqueue⟩ := Py.of_bind hqueue
    obtain ⟨task, key, hbuild, -, rfl⟩ := queue_eq_ok hqueued
    obtain ⟨-, hdigest, hlevel, -⟩ := buildTask_spec hbuild
    obtain ⟨found, hfound⟩ := exists_candidateOf s.plan (hsubset List.mem_cons_self) hdigest
    have hmem : task.level ∈ found.fields.levels := by
      obtain ⟨levels, hlevels⟩ := hfirst found
      rw [hlevel, hlevels]
      exact List.mem_cons_self
    refine ih (s := s.store key task) (fun c hc => hsubset (List.mem_cons_of_mem _ hc))
      (h.store (exists_batch hbuild).1 hfound hmem) (fun key' => ?_) hqueue
    show (s.status.set key .QUEUED).get? key' ≠ some .PASSED
    rw [Dict.get?_set]
    split
    · simp
    · exact hstatus key'

/-! ### The next level -/

theorem connector_eq_ok : (∃ item, s.connector level = .ok item) ↔ s.Connected level := by
  unfold connector Connected
  split
  · rename_i item hitem
    exact ⟨fun _ => ⟨item, hitem⟩, fun _ => ⟨item, rfl⟩⟩
  · rename_i hnone
    constructor
    · rintro ⟨_, ⟨⟩⟩
    · rintro ⟨item, hitem⟩
      exact absurd hitem (hnone item)

/-- The level that is next, and what the scheduler does after a pass. -/
theorem advance_cases (h : s.Planned) (htask : s.tasks.get? key = some task)
    (evidence : LevelEvidence) :
    (s.advance task evidence = .ok s ∧ ∀ level, ¬ s.NextLevel task level)
      ∨ ∃ candidate level, candidateOf task.candidateSha256 s.plan.fields.candidates = .ok candidate
        ∧ level ∈ candidate.fields.levels ∧ (∀ level', s.NextLevel task level' ↔ level' = level)
        ∧ s.advance task evidence = s.queue candidate level (some evidence) := by
  obtain ⟨-, candidate, hcandidate, hmem⟩ := h key task htask
  have hnext : ∀ level, s.NextLevel task level ↔
      candidate.fields.levels[candidate.fields.levels.idxOf task.level + 1]? = some level := by
    intro level
    refine ⟨fun ⟨found, hfound, hlevel⟩ => ?_, fun hlevel => ⟨candidate, hcandidate, hlevel⟩⟩
    obtain rfl := Except.ok.inj (hcandidate.symm.trans hfound)
    exact hlevel
  rw [advance, hcandidate, Py.ok_bind, require_of_pos hmem, Py.ok_bind]
  simp only [hnext]
  cases hlevel : candidate.fields.levels[candidate.fields.levels.idxOf task.level + 1]? with
  | none => exact Or.inl ⟨rfl, by simp⟩
  | some level =>
    refine Or.inr ⟨candidate, level, rfl, List.mem_of_getElem? hlevel, fun level' => ?_, rfl⟩
    rw [Option.some.injEq, eq_comm]

/-- **The next level is queued** exactly when there is none, or it has its connector. -/
theorem exists_advance_iff (h : s.Planned) (htask : s.tasks.get? key = some task)
    (evidence : LevelEvidence) :
    (∃ s', s.advance task evidence = .ok s')
      ↔ ∀ level, s.NextLevel task level → s.Connected level := by
  rcases advance_cases h htask evidence with ⟨hadvance, hnone⟩
    | ⟨candidate, level, hcandidate, -, hnext, hadvance⟩
  · exact ⟨fun _ level hlevel => absurd hlevel (hnone level), fun _ => ⟨s, hadvance⟩⟩
  · simp only [hadvance, hnext, forall_eq, ← connector_eq_ok]
    constructor
    · rintro ⟨s', hs'⟩
      obtain ⟨t, k, hbuild, -, -⟩ := queue_eq_ok hs'
      exact (exists_batch hbuild).2
    · intro hconnector
      exact Py.exists_bind (exists_buildTask (h key task htask).1
        ⟨_, candidateOf_eq_ok hcandidate⟩ hconnector) fun t _ =>
          Py.exists_bind t.exists_inputSha256 fun _ _ => ⟨_, rfl⟩

/-- What a scheduler has after the next level was queued, or there was none. -/
structure Advanced (s s' : BatchResearchScheduler) (task : ValidationTask) : Prop where
  planned : s'.Planned
  plan : s'.plan = s.plan
  queued : s.queuedTasks ⊆ s'.queuedTasks
  passed : ∀ k, s'.status.get? k = some .PASSED →
    s.status.get? k = some .PASSED ∧ s'.tasks.get? k = s.tasks.get? k
  next : ∀ level, s.NextLevel task level →
    ∃ t ∈ s'.queuedTasks, t.candidateSha256 = task.candidateSha256 ∧ t.level = level

theorem advanced_of_advance (h : s.Planned) (htask : s.tasks.get? key = some task)
    (hadvance : s.advance task evidence = .ok s') : s.Advanced s' task := by
  rcases advance_cases h htask evidence with ⟨hsame, hnone⟩
    | ⟨candidate, level, hcandidate, hmem, hnext, hqueue⟩
  · obtain rfl := Except.ok.inj (hsame.symm.trans hadvance)
    exact ⟨h, rfl, List.Subset.refl _, fun k hk => ⟨hk, rfl⟩,
      fun level hlevel => absurd hlevel (hnone level)⟩
  · obtain ⟨task', key', hbuild, -, rfl⟩ := queue_eq_ok (hqueue.symm.trans hadvance)
    obtain ⟨-, hdigest, hlevel, -⟩ := buildTask_spec hbuild
    have hsame : task'.candidateSha256 = task.candidateSha256 :=
      Except.ok.inj (hdigest.symm.trans (candidateOf_eq_ok hcandidate))
    constructor
    case planned => exact h.store (exists_batch hbuild).1 (hsame ▸ hcandidate) (hlevel ▸ hmem)
    case plan => rfl
    case queued => exact List.subset_append_left _ _
    case passed =>
      intro k hk
      have hk : (s.status.set key' .QUEUED).get? k = some .PASSED := hk
      have hne : k ≠ key' := by
        rintro rfl
        rw [Dict.get?_set_self] at hk
        cases hk
      rw [Dict.get?_set_of_ne _ _ hne] at hk
      exact ⟨hk, Dict.get?_set_of_ne _ _ hne⟩
    case next =>
      intro level' hlevel'
      exact ⟨task', List.mem_append_right _ (List.mem_singleton_self _), hsame,
        hlevel.trans ((hnext level').mp hlevel').symm⟩

theorem NoneStranded.settle (hnone : s.NoneStranded) (htask : s.tasks.get? key = some task)
    (h : (s.settle key evidence).Advanced s' task ∨ evidence.decision ≠ .PASS
      ∧ s' = s.settle key evidence) : s'.NoneStranded := by
  intro k t level ht hpassed hnext
  have hset : ∀ k, (s.settle key evidence).status.get? k = some .PASSED →
      k = key ∧ evidence.decision = .PASS ∨ s.status.get? k = some .PASSED := by
    intro k hk
    have hk : (s.status.set key (if evidence.decision = .PASS then .PASSED else .FAILED)).get? k
      = some .PASSED := hk
    rw [Dict.get?_set] at hk
    split at hk
    · split at hk
      · exact Or.inl ⟨‹_›, ‹_›⟩
      · cases hk
    · exact Or.inr hk
  rcases h with h | ⟨hfail, rfl⟩
  · obtain ⟨hstatus, htasks⟩ := h.passed k hpassed
    have hnext : s.NextLevel t level := by
      unfold NextLevel at hnext
      rwa [h.plan] at hnext
    rw [htasks] at ht
    rcases hset k hstatus with ⟨rfl, -⟩ | hstatus
    · obtain rfl := Option.some.inj (htask.symm.trans ht)
      exact h.next level hnext
    · obtain ⟨t', hmem, hsame⟩ := hnone k t level ht hstatus hnext
      exact ⟨t', h.queued hmem, hsame⟩
  · rcases hset k hpassed with ⟨-, hpass⟩ | hstatus
    · exact absurd hpass hfail
    · exact hnone k t level ht hstatus hnext

/-! ### Every call -/

/-- **What one call leaves.**  A call that raises changes nothing and no candidate is stranded,
exactly when a pass finds the connector of the next level. -/
theorem accept_step_iff (h : s.Planned) :
    (s.AllOrNothing c ∧ (s.NoneStranded → (machine.next s c).NoneStranded) ↔ s.Ready c)
      ∧ (machine.next s c).Planned := by
  have hout : machine.out s c = (s.accept c).1 := rfl
  have hafter : machine.next s c = (s.accept c).2 := rfl
  rw [AllOrNothing, hout, hafter]
  unfold accept Ready
  cases hchecked : s.checkedEvidence c with
  | error e =>
    refine ⟨⟨fun _ _ _ _ heq => ?_, fun _ => ⟨fun _ => rfl, id⟩⟩, h⟩
    cases heq
  | ok answer =>
    obtain ⟨key, evidence⟩ := answer
    obtain ⟨-, htask, hstatus⟩ := checkedEvidence_eq_ok hchecked
    have hsettled : (s.settle key evidence).Planned := h
    have hready : (∀ key' evidence' level, (.ok (key, evidence) : Py (Text × LevelEvidence))
        = .ok (key', evidence') → evidence'.decision = .PASS → s.NextLevel c.task level →
        s.Connected level) ↔ (evidence.decision = .PASS → ∀ level, s.NextLevel c.task level →
        s.Connected level) := by
      constructor
      · exact fun h hpass level => h key evidence level rfl hpass
      · rintro h key' evidence' level heq
        obtain ⟨-, rfl⟩ := Prod.mk.inj (Except.ok.inj heq)
        exact fun hpass => h hpass level
    rw [hready]
    by_cases hpass : evidence.decision = .PASS
    case neg =>
      simp only [if_neg hpass]
      exact ⟨⟨fun _ hpass' => absurd hpass' hpass, fun _ => ⟨fun h => absurd h (Py.not_raises_ok _),
        fun hnone => hnone.settle htask (Or.inr ⟨hpass, rfl⟩)⟩⟩, hsettled⟩
    case pos =>
      have hiff := exists_advance_iff hsettled htask evidence
      simp only [if_pos hpass]
      cases hadvance : (s.settle key evidence).advance c.task evidence with
      | ok after =>
        have hadvanced := advanced_of_advance hsettled htask hadvance
        exact ⟨⟨fun _ _ => hiff.mp ⟨after, hadvance⟩, fun _ =>
          ⟨fun h => absurd h (Py.not_raises_ok _),
          fun hnone => hnone.settle htask (Or.inl hadvanced)⟩⟩, hadvanced.planned⟩
      | error e =>
        refine ⟨⟨fun hall => ?_, fun hconnected => ?_⟩, hsettled⟩
        · -- the status tells that the task was settled
          have hsame := congrArg (fun s => s.status.get? key) (hall.1 (Py.raises_error e))
          have hset : (s.settle key evidence).status.get? key = some .PASSED := by
            simp [BatchResearchScheduler.settle, hpass]
          simp only [hset, hstatus] at hsame
          cases hsame
        · obtain ⟨s', hs'⟩ := hiff.mpr (hconnected hpass)
          rw [hadvance] at hs'
          cases hs'

/-- **Every run.**  A call that raises changes nothing and strands none exactly when a pass finds
its connector; and where every call of a run does, no candidate is stranded. -/
theorem strands_iff {plan : BatchResearchPlan} {connectors : List ConnectorRef}
    (hnew : new plan connectors = .ok s) (calls : List AcceptCall) :
    (∀ c, (machine.exec s calls).AllOrNothing c
        ∧ ((machine.exec s calls).NoneStranded
          → (machine.next (machine.exec s calls) c).NoneStranded)
      ↔ (machine.exec s calls).Ready c)
      ∧ (machine.Meets Ready s calls → (machine.exec s calls).NoneStranded) := by
  obtain ⟨-, hnew⟩ := of_require hnew
  obtain ⟨-, hnew⟩ := of_require hnew
  obtain ⟨hplanned, hstatus⟩ := planned_queueAll (s := { plan, connectors }) (List.Subset.refl _)
    (fun _ _ htask => by simp at htask) (fun _ => by simp) hnew
  refine ⟨fun c => (accept_step_iff ?_).1, fun hmeets => ?_⟩
  · exact machine.exec_invariant (I := Planned) (fun _ _ h => (accept_step_iff h).2) hplanned calls
  · refine (machine.exec_invariant_of_meets (P := Ready) (I := fun s => s.Planned ∧ s.NoneStranded)
      (fun s c hready h => ?_) hmeets
      ⟨hplanned, fun k _ _ _ hpassed => absurd hpassed (hstatus k)⟩).2
    obtain ⟨hiff, hnext⟩ := accept_step_iff (c := c) h.1
    exact ⟨hnext, (hiff.mpr hready).2 h.2⟩

/-! ### A pass without a connector -/

omit [Hashlib] in
/-- A manifest lists any names, if none is blank and none comes twice. -/
theorem exists_manifest {names : List Text} (hsome : names ≠ []) (hnodup : names.Nodup)
    (htexts : ∀ name ∈ names, name.strip ≠ []) :
    ∃ manifest : ArtifactManifest, ∀ name ∈ names, name
      ∈ artifactNames manifest.fields.entries := by
  have hperm := List.mergeSort_perm names Text.le
  have hentry : ∀ name ∈ names.mergeSort Text.le,
      ∃ entry : ArtifactEntry, entry.fields.name = name := by
    intro name hname
    have huri : Text.strip "uri" ≠ [] ∧ (sampleDigest '5').IsHexDigest := by decide
    have hvalid : postInit (φ := ArtifactEntryFields) ⟨name, sampleDigest '5', "uri"⟩ = .ok () :=
      check_bind_eq_ok.mpr ⟨require_of_pos ⟨htexts name (hperm.mem_iff.mp hname), huri.1⟩,
        require_of_pos huri.2⟩
    exact ⟨⟨_, hvalid⟩, rfl⟩
  obtain ⟨entries, hentries⟩ : ∃ entries, artifactNames entries = names.mergeSort Text.le := by
    generalize names.mergeSort Text.le = sorted at hentry
    induction sorted with
    | nil => exact ⟨[], rfl⟩
    | cons name rest ih =>
      obtain ⟨entry, hname⟩ := hentry name List.mem_cons_self
      obtain ⟨entries, hentries⟩ := ih fun n hn => hentry n (List.mem_cons_of_mem _ hn)
      exact ⟨entry :: entries, congrArg₂ List.cons hname hentries⟩
  have hvalid : postInit (φ := ArtifactManifestFields) ⟨entries⟩ = .ok () := by
    refine check_bind_eq_ok.mpr ⟨require_of_pos ?_, require_of_pos ?_⟩
    · rintro rfl
      rw [← hentries] at hperm
      exact hsome (List.nil_perm.mp hperm)
    · show (artifactNames entries).Pairwise _ ∧ (artifactNames entries).Nodup
      rw [hentries]
      refine ⟨?_, hperm.nodup_iff.mpr hnodup⟩
      apply List.pairwise_mergeSort
      · exact fun _ _ _ => Text.le_trans
      · exact fun a b => (Bool.or_eq_true _ _).mpr (Text.le_total a b)
  refine ⟨⟨_, hvalid⟩, fun name hname => ?_⟩
  show name ∈ artifactNames entries
  rw [hentries]
  exact hperm.mem_iff.mpr hname

/-- **A queued task can be passed**, by the artifacts and checks that its contract requires. -/
theorem exists_pass (htask : s.tasks.get? key = some task) (hkey : task.inputSha256 = .ok key)
    (hstatus : s.status.get? key = some .QUEUED) :
    ∃ c evidence, c.task = task ∧ s.checkedEvidence c = .ok (key, evidence)
      ∧ evidence.decision = .PASS := by
  obtain ⟨contract, hcontract⟩ := s.exists_contract task.level
  obtain ⟨htexts, hvalid⟩ := check_bind_eq_ok.mp contract.valid
  obtain ⟨hsome, hvalid⟩ := check_bind_eq_ok.mp hvalid
  have htexts := require_eq_ok.mp htexts
  have hnodup := require_eq_ok.mp hvalid
  obtain ⟨manifest, hmanifest⟩ := exists_manifest (require_eq_ok.mp hsome).2.1 hnodup.1
    fun name hname => htexts name (by simp [hname])
  let output : ConnectorOutput := ⟨⟨"", "", "", manifest, .obj [], [], .obj []⟩, rfl⟩
  obtain ⟨outputSha256, houtput⟩ : ∃ digest, output.contentSha256 = .ok digest := by
    refine Py.exists_bind ((exists_canonicalSha256_of_isWritable ?_).imp fun _ h => h.1) fun _ _ =>
      (exists_canonicalSha256_of_isWritable ?_).imp fun _ h => h.1
    · rw [Json.isWritable, Json.membersWritable, Json.isWritable, Bool.and_eq_true,
        Json.areWritable_iff, List.forall_mem_map]
      exact ⟨fun _ _ => rfl, rfl⟩
    · rfl
  let checks : Dict Text Bool := ⟨contract.fields.requiredChecks.map fun check => (check, true), by
    rw [List.map_map]
    exact (List.map_id contract.fields.requiredChecks).symm ▸ hnodup.2⟩
  have hkeys : checks.keys = contract.fields.requiredChecks := by
    show (List.map _ (List.map _ _)) = _
    rw [List.map_map]
    exact List.map_id _
  let evidence : LevelEvidence := ⟨key, outputSha256, sampleRef, [], checks, .PASS,
    contract.fields.limitations⟩
  have hexpected : evidence.decision = expectedDecision contract output evidence := by
    refine (if_pos ⟨hmanifest, fun check hcheck => ?_⟩).symm
    obtain ⟨p, hp, rfl⟩ := List.mem_map.mp hcheck
    obtain ⟨name, -, rfl⟩ := List.mem_map.mp hp
    rfl
  refine ⟨⟨task, output, sampleRef, .ok evidence⟩, evidence, rfl, ?_, rfl⟩
  unfold checkedEvidence
  simp only [hkey, Py.ok_bind, require_of_pos (show _ ∧ _ from ⟨htask, hstatus⟩), hcontract,
    houtput]
  rw [require_of_pos (by rfl), Py.ok_bind, require_of_pos ⟨rfl, rfl, hkeys, List.prefix_refl _⟩,
    Py.ok_bind, require_of_pos hexpected]
  rfl

end

/-- A connector for the first level alone. -/
def firstConnector : ConnectorRef :=
  ⟨{ sampleConnector.fields with levels := [.L0] }, by decide⟩

theorem strands_iff_sample : ∃ s, new samplePlan [sampleConnector] = .ok s
    ∧ ∀ calls, machine.Meets Ready s calls → (machine.exec s calls).NoneStranded := by
  obtain ⟨s, hnew⟩ := exists_new samplePlan [sampleConnector] sampleConnector ⟨_, rfl⟩ (by decide)
    (by decide)
  exact ⟨s, hnew, fun calls => (strands_iff hnew calls).2⟩

/-- A pass that raises, and that leaves its task passed with no next level. -/
theorem stranded_sample : ∃ s c, new samplePlan [firstConnector] = .ok s
    ∧ Py.Raises (machine.out s c) ∧ machine.next s c ≠ s ∧ ¬ (machine.next s c).NoneStranded := by
  obtain ⟨s, hnew⟩ := exists_new samplePlan [firstConnector] firstConnector ⟨_, rfl⟩ (by decide)
    (by decide)
  obtain ⟨-, hqueue⟩ := of_require hnew
  obtain ⟨-, hqueue⟩ := of_require hqueue
  obtain ⟨hplanned, -⟩ := planned_queueAll (s := ⟨samplePlan, [firstConnector], .empty, .empty,
    .empty, []⟩) (List.Subset.refl _) (fun _ _ htask => by simp at htask) (fun _ => by simp) hqueue
  obtain ⟨_, hqueued, hrest⟩ := Py.of_bind hqueue
  obtain ⟨task, key, hbuild, hkey, rfl⟩ := queue_eq_ok hqueued
  obtain rfl := Except.ok.inj hrest
  obtain ⟨-, hdigest, hlevel, -⟩ := buildTask_spec hbuild
  obtain ⟨found, hfound⟩ := exists_candidateOf samplePlan List.mem_cons_self hdigest
  obtain rfl : found = sampleCandidate := List.mem_singleton.mp (mem_of_candidateOf hfound)
  have htask := Dict.get?_set_self (.empty : Dict Text ValidationTask) key task
  have hstatus := Dict.get?_set_self (.empty : Dict Text TaskStatus) key .QUEUED
  obtain ⟨c, evidence, rfl, hchecked, hpass⟩ := exists_pass
    (s := store ⟨samplePlan, [firstConnector], .empty, .empty, .empty, []⟩ key task)
      htask hkey hstatus
  refine ⟨_, c, hnew, ?_⟩
  generalize hs : store _ key c.task = s at hplanned hchecked ⊢
  have hnext : (s.settle key evidence).NextLevel c.task .L1 := by
    subst hs
    exact ⟨sampleCandidate, hfound, by rw [hlevel]; rfl⟩
  have hnone : ¬ (s.settle key evidence).Connected .L1 := by
    subst hs
    rintro ⟨item, hitem⟩
    cases hitem
  have htask : s.tasks.get? key = some c.task := hs ▸ htask
  have hstatus : s.status.get? key = some .QUEUED := hs ▸ hstatus
  have hpassed : (s.settle key evidence).status.get? key = some .PASSED := by
    simp [settle, hpass]
  obtain ⟨e, herror⟩ : ∃ e, (s.settle key evidence).advance c.task evidence = .error e := by
    cases hadvance : (s.settle key evidence).advance c.task evidence with
    | error e => exact ⟨e, rfl⟩
    | ok after =>
      exact absurd ((exists_advance_iff (s := s.settle key evidence) hplanned htask evidence).mp
        ⟨after, hadvance⟩ .L1 hnext) hnone
  have haccept : machine.step s c = (.error e, s.settle key evidence) := by
    show s.accept c = _
    unfold accept
    simp only [hchecked, if_pos hpass, herror]
  simp only [Machine.out, Machine.next, haccept]
  refine ⟨Py.raises_error e, fun hsame => ?_, fun hstranded => ?_⟩
  · rw [hsame, hstatus] at hpassed
    cases hpassed
  · obtain ⟨t, ht, -, ht'⟩ := hstranded key c.task .L1 htask hpassed hnext
    have ht : t ∈ [c.task] := by rwa [← hs] at ht
    rw [List.mem_singleton.mp ht, hlevel] at ht'
    cases ht'

end BatchResearchScheduler

end FuturesAgentOs
