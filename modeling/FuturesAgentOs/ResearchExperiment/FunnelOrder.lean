import FuturesAgentOs.ResearchExperiment.ValidationFunnel

namespace FuturesAgentOs

open PyModel

/-!
# The order of the validation funnel

A task is known by a digest, so everything here holds unless the inputs of two tasks that were
queued collide under the digest (`BatchResearchScheduler.Colliding`).

* `BatchResearchScheduler.funnel_or_colliding` — every run;
-/

/-! ### Levels -/

namespace ValidationLevel

/-- The place of a level in the funnel. -/
def rank : ValidationLevel → ℕ
  | L0 => 0
  | L1 => 1
  | L2 => 2

theorem value_inj {l l' : ValidationLevel} (h : l.value = l'.value) : l = l' := by
  cases l <;> cases l' <;> first | rfl | exact absurd h (by decide)

theorem rank_of_below {l l' : ValidationLevel} (h : l.below = some l') : l.rank = l'.rank + 1 := by
  cases l <;> cases h <;> rfl

end ValidationLevel

namespace FunnelCandidate

variable {candidate : FunnelCandidate}

/-- The levels of a candidate are the first ones, in order. -/
theorem levels_cases (candidate : FunnelCandidate) :
    candidate.fields.levels = [.L0] ∨ candidate.fields.levels = [.L0, .L1]
      ∨ candidate.fields.levels = [.L0, .L1, .L2] := by
  obtain ⟨-, hlevels⟩ := check_bind_eq_ok.mp candidate.valid
  simpa [ValidationLevel.order] using require_eq_ok.mp hlevels

theorem below_of_next {level above : ValidationLevel} (hmem : level ∈ candidate.fields.levels)
    (habove : candidate.fields.levels[candidate.fields.levels.idxOf level + 1]? = some above) :
    above.below = some level := by
  rcases candidate.levels_cases with h | h | h <;> rw [h] at hmem habove <;>
    cases level <;> simp at hmem <;> cases above <;> first | rfl | exact absurd habove (by decide)

end FunnelCandidate

section

variable [Hashlib]

/-! ### What the digest of a task says -/

namespace ValidationTask

variable {t t' : ValidationTask} {digest : Text}

/-- The task is one of the same candidate and level. -/
def SameStage (t t' : ValidationTask) : Prop :=
  t.candidateSha256 = t'.candidateSha256 ∧ t.level = t'.level

/-- What the task binds by a digest is one. -/
def Bound (t : ValidationTask) : Prop :=
  t.batchSha256.IsHexDigest ∧ t.candidateSha256.IsHexDigest ∧ t.planSha256.IsHexDigest
    ∧ t.levelContractSha256.IsHexDigest
    ∧ ∀ predecessor ∈ t.predecessorEvidenceSha256, Text.IsHexDigest predecessor

/-- The inputs of two tasks collide under the digest. -/
def Collides (t t' : ValidationTask) : Prop :=
  ∃ connector connector', t.connector.contentSha256 = .ok connector
    ∧ t'.connector.contentSha256 = .ok connector'
    ∧ Collide (.obj (t.inputItems connector)) (.obj (t'.inputItems connector'))

omit [Hashlib] in
theorem nodup_inputItems (t : ValidationTask) (connector : Text) :
    ((t.inputItems connector).map Prod.fst).Nodup := by
  show (["batch", "candidate", "plan", "level", "contract", "connector", "predecessor"] :
    List Text).Nodup
  decide +kernel

omit [Hashlib] in
theorem isSafe_inputItems (h : t.Bound) {connector : Text} (hconnector : connector.IsHexDigest) :
    (Json.obj (t.inputItems connector)).IsSafe := by
  obtain ⟨hbatch, hcandidate, hplan, hcontract, hpredecessor⟩ := h
  have hhex : ∀ {s : Text}, s.IsHexDigest → s.IsJsonSafe :=
    fun hs => (Text.IsHexDigest.isAscii hs).isJsonSafe
  have hlevel : t.level.value.IsAscii := by
    cases t.level <;> decide
  have hkeys : ∀ k ∈ (t.inputItems connector).map Prod.fst, Text.IsAscii k := by
    show ∀ k ∈ (["batch", "candidate", "plan", "level", "contract", "connector", "predecessor"] :
      List Text), Text.IsAscii k
    decide +kernel
  have hlast : (jsonText? t.predecessorEvidenceSha256).IsSafe := by
    cases hp : t.predecessorEvidenceSha256 with
    | none => trivial
    | some predecessor => exact hhex (hpredecessor predecessor hp)
  apply Json.isSafe_obj rfl (nodup_inputItems _ _) (fun k hk => (hkeys k hk).isJsonSafe)
  simp only [inputItems, List.forall_mem_cons]
  exact ⟨hhex hbatch, hhex hcandidate, hhex hplan, hlevel.isJsonSafe, hhex hcontract,
    hhex hconnector, hlast, by simp⟩

/-- **What a digest says of a task.**  Two tasks of one digest are of the same candidate and
level, or their inputs collide. -/
theorem sameStage_or_collides (h : t.Bound) (h' : t'.Bound) (hdigest : t.inputSha256 = .ok digest)
    (hdigest' : t'.inputSha256 = .ok digest) : t.SameStage t' ∨ t.Collides t' := by
  obtain ⟨connector, hconnector, hdigest⟩ := Py.of_bind hdigest
  obtain ⟨connector', hconnector', hdigest'⟩ := Py.of_bind hdigest'
  have hsafe := isSafe_inputItems h (isHexDigest_of_canonicalSha256 hconnector)
  have hsafe' := isSafe_inputItems h' (isHexDigest_of_canonicalSha256 hconnector')
  rcases sortKeys_eq_or_collide hsafe hsafe' (hdigest.trans hdigest'.symm) with hkeys | hcollide
  · left
    have hstr : ∀ (key : Text) {s s' : Text},
        Json.lookup key (t.inputItems connector) = some (.str s) →
        Json.lookup key (t'.inputItems connector') = some (.str s') → s = s' :=
      fun key => Json.str_of_sortKeys_eq (nodup_inputItems _ _) (nodup_inputItems _ _) hkeys
    exact ⟨hstr "candidate" rfl rfl, ValidationLevel.value_inj (hstr "level" rfl rfl)⟩
  · exact Or.inr ⟨connector, connector', hconnector, hconnector', hcollide⟩

end ValidationTask

namespace BatchResearchScheduler

variable {s s' : BatchResearchScheduler} {key key' : Text} {task task' : ValidationTask}
  {evidence : LevelEvidence} {c : AcceptCall}

/-- Two tasks that were queued collide. -/
def Colliding (s : BatchResearchScheduler) : Prop :=
  ∃ t ∈ s.queuedTasks, ∃ t' ∈ s.queuedTasks, t.Collides t'

/-- The candidate of a task has passed a level, and a digest is that of its evidence there. -/
def Passed (s : BatchResearchScheduler) (candidateSha256 : Text) (level : ValidationLevel)
    (digest : Text) : Prop :=
  ∃ key task evidence, s.tasks.get? key = some task ∧ task.candidateSha256 = candidateSha256
    ∧ task.level = level ∧ s.status.get? key = some .PASSED
    ∧ s.evidence.get? key = some evidence ∧ evidence.contentSha256 = .ok digest

/-- A task above the first level is one for a candidate that has passed the level below, and it
binds the evidence there. -/
def Above (s : BatchResearchScheduler) (task : ValidationTask) : Prop :=
  ∀ level ∈ task.level.below, ∃ digest, task.predecessorEvidenceSha256 = some digest
    ∧ s.Passed task.candidateSha256 level digest

/-- The tasks of a scheduler are in order. -/
structure Sound (s : BatchResearchScheduler) : Prop where
  keyed : ∀ key task, s.tasks.get? key = some task →
    task.inputSha256 = .ok key ∧ task ∈ s.queuedTasks
  bound : ∀ task ∈ s.queuedTasks, task.Bound
  one : ∀ key task key' task', s.tasks.get? key = some task → s.tasks.get? key' = some task' →
    task.SameStage task' → key = key'
  above : ∀ key task, s.tasks.get? key = some task → s.Above task

/-! ### A task is settled -/

variable {digest : Text} {level : ValidationLevel} {candidate : FunnelCandidate}

theorem Passed.settle {candidateSha256 : Text}
    (h : s.Passed candidateSha256 level digest) (hqueued : s.status.get? key = some .QUEUED) :
    (s.settle key evidence).Passed candidateSha256 level digest := by
  obtain ⟨key', task, evidence', htask, hcandidate, hlevel, hstatus, hevidence, hdigest⟩ := h
  have hne : key' ≠ key := by
    rintro rfl
    rw [hqueued] at hstatus
    cases hstatus
  refine ⟨key', task, evidence', htask, hcandidate, hlevel, ?_, ?_, hdigest⟩
  · exact (Dict.get?_set_of_ne _ _ hne).trans hstatus
  · exact (Dict.get?_set_of_ne _ _ hne).trans hevidence

theorem Sound.settle (h : s.Sound) (hqueued : s.status.get? key = some .QUEUED) :
    (s.settle key evidence).Sound := by
  refine ⟨h.keyed, h.bound, h.one, fun key' task htask level hlevel => ?_⟩
  obtain ⟨digest, hdigest, hpassed⟩ := h.above key' task htask level hlevel
  exact ⟨digest, hdigest, hpassed.settle hqueued⟩

/-! ### A task is queued -/

theorem Passed.store {candidateSha256 : Text}
    (h : s.Passed candidateSha256 level digest) (hfresh : s.tasks.get? key' = none) :
    (s.store key' task').Passed candidateSha256 level digest := by
  obtain ⟨key, task, evidence, htask, hcandidate, hlevel, hstatus, hevidence, hdigest⟩ := h
  have hne : key ≠ key' := by
    rintro rfl
    rw [hfresh] at htask
    cases htask
  refine ⟨key, task, evidence, ?_, hcandidate, hlevel, ?_, hevidence, hdigest⟩
  · exact (Dict.get?_set_of_ne _ _ hne).trans htask
  · exact (Dict.get?_set_of_ne _ _ hne).trans hstatus

/-- A task of a new candidate or level has a new key, or it collides with another. -/
theorem Sound.fresh_or_colliding (h : s.Sound) (hkey : task'.inputSha256 = .ok key')
    (hbound : task'.Bound)
    (hnew : ∀ key task, s.tasks.get? key = some task → ¬ task.SameStage task') :
    s.tasks.get? key' = none ∨ (s.store key' task').Colliding := by
  cases htask : s.tasks.get? key' with
  | none => exact Or.inl rfl
  | some task =>
    right
    obtain ⟨hdigest, hmem⟩ := h.keyed key' task htask
    rcases ValidationTask.sameStage_or_collides (h.bound task hmem) hbound hdigest hkey
      with hsame | hcollides
    · exact absurd hsame (hnew key' task htask)
    · exact ⟨task, List.mem_append_left _ hmem, task',
        List.mem_append_right _ (List.mem_singleton_self _), hcollides⟩

theorem Sound.store (h : s.Sound) (hkey : task'.inputSha256 = .ok key') (hbound : task'.Bound)
    (hnew : ∀ key task, s.tasks.get? key = some task → ¬ task.SameStage task')
    (habove : s.Above task') (hfresh : s.tasks.get? key' = none) :
    (s.store key' task').Sound := by
  have hcases : ∀ key task, (s.store key' task').tasks.get? key = some task →
      (key = key' ∧ task = task') ∨ s.tasks.get? key = some task := by
    intro key task htask
    have htask : (s.tasks.set key' task').get? key = some task := htask
    by_cases hk : key = key'
    · subst hk
      rw [Dict.get?_set_self] at htask
      exact Or.inl ⟨rfl, (Option.some.inj htask).symm⟩
    · rw [Dict.get?_set_of_ne _ _ hk] at htask
      exact Or.inr htask
  constructor
  case keyed =>
    intro key task htask
    rcases hcases key task htask with ⟨rfl, rfl⟩ | hold
    · exact ⟨hkey, List.mem_append_right _ (List.mem_singleton_self _)⟩
    · exact ⟨(h.keyed key task hold).1, List.mem_append_left _ (h.keyed key task hold).2⟩
  case bound =>
    intro task htask
    rcases List.mem_append.mp htask with hold | hlast
    · exact h.bound task hold
    · rw [List.mem_singleton.mp hlast]
      exact hbound
  case one =>
    intro k t k' t' ht ht' hsame
    rcases hcases k t ht with ⟨rfl, rfl⟩ | hold
    · rcases hcases k' t' ht' with ⟨rfl, rfl⟩ | hold'
      · rfl
      · exact absurd ⟨hsame.1.symm, hsame.2.symm⟩ (hnew k' t' hold')
    · rcases hcases k' t' ht' with ⟨rfl, rfl⟩ | hold'
      · exact absurd hsame (hnew k t hold)
      · exact h.one k t k' t' hold hold' hsame
  case above =>
    intro key task htask level hlevel
    have habove' : s.Above task := by
      rcases hcases key task htask with ⟨rfl, rfl⟩ | hold
      · exact habove
      · exact h.above key task hold
    obtain ⟨digest, hdigest, hpassed⟩ := habove' level hlevel
    exact ⟨digest, hdigest, hpassed.store hfresh⟩

theorem Colliding.store (h : s.Colliding) : (s.store key' task').Colliding := by
  obtain ⟨t, ht, t', ht', hcollides⟩ := h
  exact ⟨t, List.mem_append_left _ ht, t', List.mem_append_left _ ht', hcollides⟩

/-! ### What the scheduler queues -/

theorem buildTask_spec {predecessor : Option LevelEvidence}
    (h : s.buildTask candidate level predecessor = .ok task) :
    task.Bound ∧ candidate.contentSha256 = .ok task.candidateSha256 ∧ task.level = level
      ∧ predecessor.mapM LevelEvidence.contentSha256
        = .ok task.predecessorEvidenceSha256 := by
  unfold buildTask at h
  obtain ⟨contract, -, h⟩ := Py.of_bind h
  obtain ⟨connector, -, h⟩ := Py.of_bind h
  obtain ⟨batch, hbatch, h⟩ := Py.of_bind h
  obtain ⟨candidateSha256, hcandidate, h⟩ := Py.of_bind h
  obtain ⟨predecessorSha256, hpredecessor, h⟩ := Py.of_bind h
  obtain ⟨seed, -, h⟩ := Py.of_bind h
  obtain ⟨taskId, -, h⟩ := Py.of_bind h
  obtain ⟨levelContractSha256, hcontract, h⟩ := Py.of_bind h
  obtain rfl := Except.ok.inj h
  refine ⟨⟨?_, isHexDigest_of_canonicalSha256 hcandidate, candidate.fields.experimentPlanSha256.2,
    isHexDigest_of_canonicalSha256 hcontract, ?_⟩, hcandidate, rfl, hpredecessor⟩
  · obtain ⟨schemaVersion, -, hbatch⟩ := Py.of_bind hbatch
    obtain ⟨hashes, -, hbatch⟩ := Py.of_bind hbatch
    exact isHexDigest_of_canonicalSha256 hbatch
  · intro digest hdigest
    cases predecessor with
    | none =>
      obtain rfl : none = predecessorSha256 := Except.ok.inj hpredecessor
      cases hdigest
    | some evidence =>
      rw [Option.mapM_some] at hpredecessor
      obtain ⟨digest', hdigest', hsome⟩ := Py.of_bind hpredecessor
      obtain rfl : some digest' = predecessorSha256 := Except.ok.inj hsome
      obtain rfl := Option.some.inj hdigest
      exact isHexDigest_of_canonicalSha256 hdigest'

theorem queue_eq_ok
    {predecessor : Option LevelEvidence} (h : s.queue candidate level predecessor = .ok s') :
    ∃ task key, s.buildTask candidate level predecessor = .ok task
      ∧ task.inputSha256 = .ok key ∧ s' = s.store key task := by
  obtain ⟨task, htask, h⟩ := Py.of_bind h
  obtain ⟨key, hkey, h⟩ := Py.of_bind h
  exact ⟨task, key, htask, hkey, (Except.ok.inj h).symm⟩

/-- The constructor queues the first level of each candidate. -/
theorem queueAll_sound {candidates : List FunnelCandidate}
    (hdistinct : candidates.Pairwise fun candidate candidate' =>
      ∀ digest, candidate.contentSha256 = .ok digest → candidate'.contentSha256 ≠ .ok digest)
    (hnew : ∀ candidate ∈ candidates, ∀ key task, s.tasks.get? key = some task →
      candidate.contentSha256 ≠ .ok task.candidateSha256)
    (h : s.Colliding ∨ s.Sound) (hqueue : queueAll candidates s = .ok s') :
    s'.Colliding ∨ s'.Sound := by
  induction candidates generalizing s with
  | nil =>
    obtain rfl : s = s' := Except.ok.inj hqueue
    exact h
  | cons candidate rest ih =>
    obtain ⟨level, levels, hlevels⟩ : ∃ level levels, candidate.fields.levels
      = level :: levels := by
      rcases candidate.levels_cases with h | h | h <;> exact ⟨_, _, h⟩
    rw [queueAll, hlevels] at hqueue
    obtain ⟨queued, hqueued, hqueue⟩ := Py.of_bind hqueue
    obtain ⟨task, key, htask, hkey, rfl⟩ := queue_eq_ok hqueued
    obtain ⟨hbound, hcandidate, hlevel, -⟩ := buildTask_spec htask
    rw [List.pairwise_cons] at hdistinct
    refine ih hdistinct.2 (fun candidate' hmem key' task' htask' heq => ?_) ?_ hqueue
    · -- the tasks are those from before and that of this candidate
      have htask' : (s.tasks.set key task).get? key' = some task' := htask'
      by_cases hk : key' = key
      · subst hk
        rw [Dict.get?_set_self] at htask'
        obtain rfl := Option.some.inj htask'
        exact hdistinct.1 candidate' hmem _ hcandidate heq
      · rw [Dict.get?_set_of_ne _ _ hk] at htask'
        exact hnew candidate' (List.mem_cons_of_mem _ hmem) key' task' htask' heq
    · rcases h with hcolliding | hsound
      · exact Or.inl hcolliding.store
      · have hstage : ∀ key task', s.tasks.get? key = some task' → ¬ task'.SameStage task := by
          intro key task' htask' hsame
          exact hnew candidate List.mem_cons_self key task' htask' (hsame.1 ▸ hcandidate)
        have habove : s.Above task := by
          intro below hbelow
          have hfirst : task.level = .L0 := by
            rcases candidate.levels_cases with h | h | h <;> rw [hlevels, List.cons.injEq] at h <;>
              exact hlevel.trans h.1
          rw [hfirst] at hbelow
          cases hbelow
        rcases hsound.fresh_or_colliding hkey hbound hstage with hfresh | hcolliding
        · exact Or.inr (hsound.store hkey hbound hstage habove hfresh)
        · exact Or.inl hcolliding

theorem new_sound {plan : BatchResearchPlan} {connectors : List ConnectorRef}
    (h : new plan connectors = .ok s) : s.Colliding ∨ s.Sound := by
  obtain ⟨-, h⟩ := of_require h
  obtain ⟨-, h⟩ := of_require h
  have hvalid : plan.fields.postInit = .ok () := plan.valid
  rw [BatchResearchPlanFields.postInit, check_bind_eq_ok, check_bind_eq_ok] at hvalid
  obtain ⟨hashes, hhashes, hvalid⟩ := Py.of_bind hvalid.2.2
  have hnodup := (of_require hvalid).1
  refine queueAll_sound (Py.pairwise_of_mapM hhashes hnodup) ?_ (Or.inr ?_) h
  · intro candidate _ key task htask
    cases htask
  · constructor
    case keyed =>
      intro key task htask
      cases htask
    case bound =>
      intro task hmem
      cases hmem
    case one =>
      intro key task key' task' htask
      cases htask
    case above =>
      intro key task htask
      cases htask

/-! ### What `accept` does -/

theorem candidateOf_eq_ok {candidates : List FunnelCandidate} (h : candidateOf digest candidates = .ok candidate) :
    candidate.contentSha256 = .ok digest := by
  induction candidates with
  | nil => cases h
  | cons first rest ih =>
    obtain ⟨candidateSha256, hcandidate, h⟩ := Py.of_bind h
    split at h
    · obtain rfl := Except.ok.inj h
      rw [hcandidate, ‹candidateSha256 = digest›]
    · exact ih h

/-- The next level is queued with the evidence of the last, or there is none. -/
theorem advance_eq_ok (h : s.advance task evidence = .ok s') :
    s' = s ∨ ∃ task' key digest, task'.inputSha256 = .ok key ∧ s' = s.store key task'
      ∧ task'.Bound ∧ task'.candidateSha256 = task.candidateSha256
      ∧ task'.level.below = some task.level ∧ evidence.contentSha256 = .ok digest
      ∧ task'.predecessorEvidenceSha256 = some digest := by
  obtain ⟨candidate, hcandidate, h⟩ := Py.of_bind h
  obtain ⟨hmem, h⟩ := of_require h
  split at h
  · exact Or.inl (Except.ok.inj h).symm
  · rename_i level hlevel
    obtain ⟨task', key, htask, hkey, rfl⟩ := queue_eq_ok h
    obtain ⟨hbound, hdigest, rfl, hpredecessor⟩ := buildTask_spec htask
    obtain ⟨digest, hevidence, hsome⟩ := Py.of_bind hpredecessor
    have hsame := (candidateOf_eq_ok hcandidate).symm.trans hdigest
    exact Or.inr ⟨task', key, digest, hkey, rfl, hbound, (Except.ok.inj hsame).symm,
      FunnelCandidate.below_of_next hmem hlevel, hevidence, (Except.ok.inj hsome).symm⟩

/-- The task of a call is queued under a key. -/
def Queued (s : BatchResearchScheduler) (c : AcceptCall) (key : Text) : Prop :=
  c.task.inputSha256 = .ok key ∧ s.tasks.get? key = some c.task
    ∧ s.status.get? key = some .QUEUED

theorem checkedEvidence_eq_ok (h : s.checkedEvidence c = .ok (key, evidence)) :
    s.Queued c key := by
  obtain ⟨key', hkey, h⟩ := Py.of_bind h
  obtain ⟨hqueued, h⟩ := of_require h
  obtain ⟨contract, -, h⟩ := Py.of_bind h
  obtain ⟨evidence', -, h⟩ := Py.of_bind h
  obtain ⟨-, h⟩ := of_require h
  obtain ⟨outputSha256, -, h⟩ := Py.of_bind h
  obtain ⟨-, h⟩ := of_require h
  obtain ⟨-, h⟩ := of_require h
  obtain ⟨rfl, -⟩ := Prod.mk.inj (Except.ok.inj h)
  exact ⟨hkey, hqueued⟩

/-- **What `accept` does.**  It raises and leaves the scheduler, or it settles a queued task, and
after a pass it may queue the task above. -/
theorem accept_cases (s : BatchResearchScheduler) (c : AcceptCall) :
    (∃ e, s.accept c = (.error e, s))
      ∨ (∃ key evidence, s.Queued c key ∧ (s.accept c).2 = s.settle key evidence)
      ∨ ∃ key evidence task' key' digest, s.Queued c key ∧ evidence.decision = .PASS
        ∧ (s.accept c).2 = (s.settle key evidence).store key' task'
        ∧ task'.inputSha256 = .ok key' ∧ task'.Bound
        ∧ task'.candidateSha256 = c.task.candidateSha256
        ∧ task'.level.below = some c.task.level ∧ evidence.contentSha256 = .ok digest
        ∧ task'.predecessorEvidenceSha256 = some digest := by
  unfold accept
  cases hchecked : s.checkedEvidence c with
  | error e => exact Or.inl ⟨e, rfl⟩
  | ok answer =>
    obtain ⟨key, evidence⟩ := answer
    have hqueued := checkedEvidence_eq_ok hchecked
    refine Or.inr ?_
    by_cases hpass : evidence.decision = .PASS
    · simp only [if_pos hpass]
      cases hadvance : (s.settle key evidence).advance c.task evidence with
      | error e => exact Or.inl ⟨key, evidence, hqueued, rfl⟩
      | ok after =>
        rcases advance_eq_ok hadvance with rfl
          | ⟨task', key', digest, hkey, rfl, hbound, hcandidate, hlevel, hdigest, hpredecessor⟩
        · exact Or.inl ⟨key, evidence, hqueued, rfl⟩
        · exact Or.inr ⟨key, evidence, task', key', digest, hqueued, hpass, rfl, hkey, hbound,
            hcandidate, hlevel, hdigest, hpredecessor⟩
    · simp only [if_neg hpass]
      exact Or.inl ⟨key, evidence, hqueued, rfl⟩

/-! ### Every run -/

/-- A call accepts an output for the task with a key: it returns, or what is known of a task that
is there changes. -/
def Accepts (s : BatchResearchScheduler) (c : AcceptCall) (key : Text) : Prop :=
  (c.task.inputSha256 = .ok key ∧ ¬ Py.Raises (machine.out s c))
    ∨ (machine.next s c).evidence.get? key ≠ s.evidence.get? key
    ∨ (s.tasks.get? key ≠ none ∧ (machine.next s c).status.get? key ≠ s.status.get? key)

/-- The task with a key has its answer. -/
def Closed (s : BatchResearchScheduler) (key : Text) : Prop :=
  s.tasks.get? key ≠ none ∧ s.status.get? key ≠ some .QUEUED

/-- What one call does to a scheduler that is in order. -/
structure InOrder (s : BatchResearchScheduler) (c : AcceptCall) : Prop where
  sound : (machine.next s c).Sound
  open_before : ∀ key, s.Accepts c key → s.status.get? key = some .QUEUED
  closed_after : ∀ key, s.Accepts c key → (machine.next s c).Closed key
  closed : ∀ key, s.Closed key → (machine.next s c).Closed key

/-- What a call leaves alone that settles the task with a key. -/
structure Settles (s s' : BatchResearchScheduler) (key : Text) : Prop where
  settled : s'.status.get? key ≠ some .QUEUED
  tasks : ∀ k, s.tasks.get? k ≠ none → s'.tasks.get? k ≠ none
  status : ∀ k, k ≠ key → s.tasks.get? k ≠ none → s'.status.get? k = s.status.get? k
  evidence : ∀ k, k ≠ key → s'.evidence.get? k = s.evidence.get? k

theorem settles_settle (s : BatchResearchScheduler) (key : Text) (evidence : LevelEvidence) :
    s.Settles (s.settle key evidence) key := by
  constructor
  case settled =>
    have hset : (s.settle key evidence).status.get? key
        = some (if evidence.decision = .PASS then .PASSED else .FAILED) := Dict.get?_set_self _ _ _
    rw [hset]
    split <;> simp
  case tasks => exact fun k hk => hk
  case status => exact fun k hne _ => Dict.get?_set_of_ne _ _ hne
  case evidence => exact fun k hne => Dict.get?_set_of_ne _ _ hne

/-- To queue a task with a new key changes nothing about the others. -/
theorem Settles.store (h : s.Settles s' key) (hkey : s.tasks.get? key ≠ none)
    (hfresh : s'.tasks.get? key' = none) : s.Settles (s'.store key' task') key := by
  have hne : ∀ k, s.tasks.get? k ≠ none → k ≠ key' := by
    rintro k hk rfl
    exact h.tasks k hk hfresh
  constructor
  case settled =>
    show (s'.status.set key' .QUEUED).get? key ≠ some .QUEUED
    rw [Dict.get?_set_of_ne _ _ (hne key hkey)]
    exact h.settled
  case tasks =>
    intro k hk
    show (s'.tasks.set key' task').get? k ≠ none
    rw [Dict.get?_set_of_ne _ _ (hne k hk)]
    exact h.tasks k hk
  case status =>
    intro k hk htask
    show (s'.status.set key' .QUEUED).get? k = s.status.get? k
    rw [Dict.get?_set_of_ne _ _ (hne k htask)]
    exact h.status k hk htask
  case evidence => exact h.evidence

/-- A call that settles a queued task accepts an output for that task alone. -/
theorem inOrder_of_settles (hqueued : s.Queued c key) (hsound : (machine.next s c).Sound)
    (h : s.Settles (machine.next s c) key) : s.InOrder c := by
  obtain ⟨hinput, htask, hstatus⟩ := hqueued
  have hhere : s.tasks.get? key ≠ none := by
    rw [htask]
    simp
  have honly : ∀ k, s.Accepts c k → k = key := by
    rintro k (⟨hk, -⟩ | hevidence | ⟨hk, hchanged⟩)
    · exact Except.ok.inj (hk.symm.trans hinput)
    · by_contra hne
      exact hevidence (h.evidence k hne)
    · by_contra hne
      exact hchanged (h.status k hne hk)
  constructor
  case sound => exact hsound
  case open_before =>
    intro k hk
    rw [honly k hk]
    exact hstatus
  case closed_after =>
    intro k hk
    rw [honly k hk]
    exact ⟨h.tasks key hhere, h.settled⟩
  case closed =>
    rintro k ⟨hk, hclosed⟩
    have hne : k ≠ key := by
      rintro rfl
      exact hclosed hstatus
    refine ⟨h.tasks k hk, ?_⟩
    rw [h.status k hne hk]
    exact hclosed

/-- **A step** of a scheduler in order keeps it so, or two tasks collide. -/
theorem Sound.step (h : s.Sound) (c : AcceptCall) :
    (machine.next s c).Colliding ∨ s.InOrder c := by
  rcases s.accept_cases c with ⟨e, hsame⟩ | ⟨key, evidence, hqueued, hnext⟩
    | ⟨key, evidence, task', key', digest, hqueued, hpass, hnext, hkey, hbound, hcandidate,
        hlevel, hdigest, hpredecessor⟩
  · -- nothing changes, and nothing is accepted
    have hnext : machine.next s c = s := congrArg Prod.snd hsame
    have hraises : Py.Raises (machine.out s c) := ⟨e, congrArg Prod.fst hsame⟩
    have hnone : ∀ k, ¬ s.Accepts c k := by
      rintro k (⟨-, hreturns⟩ | hevidence | ⟨-, hchanged⟩)
      · exact hreturns hraises
      · exact hevidence (by rw [hnext])
      · exact hchanged (by rw [hnext])
    exact Or.inr ⟨hnext.symm ▸ h, fun k hk => absurd hk (hnone k),
      fun k hk => absurd hk (hnone k), fun k hk => hnext.symm ▸ hk⟩
  · have hnext : machine.next s c = s.settle key evidence := hnext
    refine Or.inr (inOrder_of_settles hqueued ?_ ?_)
    · rw [hnext]
      exact h.settle hqueued.2.2
    · rw [hnext]
      exact s.settles_settle key evidence
  · have hnext : machine.next s c = (s.settle key evidence).store key' task' := hnext
    have hsettled : (s.settle key evidence).Sound := h.settle hqueued.2.2
    -- a task of the level above would be above a passed task, and this one was queued
    have hstage : ∀ k t, (s.settle key evidence).tasks.get? k = some t → ¬ t.SameStage task' := by
      intro k t ht hsame
      have hbelow : c.task.level ∈ t.level.below := by
        rw [hsame.2]
        exact hlevel
      obtain ⟨_, -, k', t', _, ht', hcandidate', hlevel', hpassed, -⟩ :=
        h.above k t ht c.task.level hbelow
      have hk' : k' = key := h.one k' t' key c.task ht' hqueued.2.1
        ⟨hcandidate'.trans (hsame.1.trans hcandidate), hlevel'⟩
      rw [hk', hqueued.2.2] at hpassed
      cases hpassed
    have habove : (s.settle key evidence).Above task' := by
      intro level hmem
      obtain rfl : c.task.level = level := Option.some.inj (hlevel.symm.trans hmem)
      refine ⟨digest, hpredecessor, key, c.task, evidence, hqueued.2.1, hcandidate.symm, rfl, ?_,
        Dict.get?_set_self _ _ _, hdigest⟩
      show (s.status.set key (if evidence.decision = .PASS then .PASSED else .FAILED)).get? key = _
      rw [Dict.get?_set_self, if_pos hpass]
    rcases hsettled.fresh_or_colliding hkey hbound hstage with hfresh | hcolliding
    · refine Or.inr (inOrder_of_settles hqueued ?_ ?_)
      · rw [hnext]
        exact hsettled.store hkey hbound hstage habove hfresh
      · rw [hnext]
        refine (s.settles_settle key evidence).store ?_ hfresh
        rw [hqueued.2.1]
        simp
    · rw [hnext]
      exact Or.inl hcolliding

theorem Colliding.step (h : s.Colliding) (c : AcceptCall) : (machine.next s c).Colliding := by
  show (s.accept c).2.Colliding
  rcases s.accept_cases c with ⟨e, hsame⟩ | ⟨key, evidence, -, hnext⟩
    | ⟨key, evidence, task', key', digest, -, -, hnext, -⟩
  · rw [hsame]
    exact h
  · rw [hnext]
    exact h
  · rw [hnext]
    exact Colliding.store (s := s.settle key evidence) h

/-- The order of the funnel, over the history of a run and where it ends. -/
structure Funnel (history : List (BatchResearchScheduler × AcceptCall × Py LevelEvidence))
    (s : BatchResearchScheduler) : Prop where
  /-- A candidate has at most one task at a level. -/
  one : ∀ key task key' task', s.tasks.get? key = some task → s.tasks.get? key' = some task' →
    task.SameStage task' → key = key'
  /-- A task accepts at most one output. -/
  once : history.Pairwise fun e e' => ∀ key, e.1.Accepts e.2.1 key → ¬ e'.1.Accepts e'.2.1 key
  /-- A task above the first level is above a passed one, and binds its evidence. -/
  above : ∀ key task, s.tasks.get? key = some task → s.Above task
  /-- There is no task above a failed one. -/
  failed : ∀ key task key' task', s.tasks.get? key = some task →
    s.status.get? key = some .FAILED → s.tasks.get? key' = some task' →
    task'.candidateSha256 = task.candidateSha256 → task'.level.rank ≤ task.level.rank

theorem Sound.passed_below (h : s.Sound) (htask : s.tasks.get? key = some task) (hlevel : level.rank < task.level.rank) :
    ∃ digest, s.Passed task.candidateSha256 level digest := by
  -- from the level of the task downwards
  induction hrank : task.level.rank generalizing key task with
  | zero => omega
  | succ n ih =>
    obtain ⟨below, hbelow⟩ : ∃ below, task.level.below = some below := by
      cases hl : task.level with
      | L0 =>
        rw [hl] at hrank
        cases hrank
      | L1 => exact ⟨.L0, rfl⟩
      | L2 => exact ⟨.L1, rfl⟩
    obtain ⟨digest, -, hpassed⟩ := h.above key task htask below hbelow
    have hn := ValidationLevel.rank_of_below hbelow
    by_cases heq : level = below
    · exact ⟨digest, heq ▸ hpassed⟩
    · obtain ⟨key', task', _, htask', hcandidate, hlevel', -⟩ := hpassed
      have hlt : level.rank < task'.level.rank := by
        have hne : level.rank ≠ below.rank := by
          cases level <;> cases below <;> first | exact absurd rfl heq | decide
        rw [hlevel']
        omega
      have hrank' : task'.level.rank = n := by
        rw [hlevel']
        omega
      exact hcandidate ▸ ih htask' hlt hrank'

theorem Sound.failed (h : s.Sound) (htask : s.tasks.get? key = some task)
    (hfailed : s.status.get? key = some .FAILED) (htask' : s.tasks.get? key' = some task')
    (hcandidate : task'.candidateSha256 = task.candidateSha256) :
    task'.level.rank ≤ task.level.rank := by
  by_contra hlt
  obtain ⟨digest, k, t, _, ht, hcandidate', hlevel, hpassed, -⟩ :=
    h.passed_below htask' (not_le.mp hlt)
  have hk : k = key := h.one k t key task ht htask ⟨hcandidate'.trans hcandidate, hlevel⟩
  rw [hk, hfailed] at hpassed
  cases hpassed

/-- **The order of the funnel.**  After any calls a candidate has one task at a level, a task has
accepted one output, a task stands above a passed one and binds its evidence, and no task stands
above a failed one; or the inputs of two tasks collide under the digest. -/
theorem funnel_or_colliding {plan : BatchResearchPlan} {connectors : List ConnectorRef}
    (hnew : new plan connectors = .ok s) (calls : List AcceptCall) :
    (machine.exec s calls).Colliding
      ∨ Funnel (machine.trace s calls) (machine.exec s calls) := by
  have hrun := machine.trace_invariant (s := s) (I := fun history s => s.Colliding ∨ (s.Sound
      ∧ (history.Pairwise fun e e' =>
          ∀ key, e.1.Accepts e.2.1 key → ¬ e'.1.Accepts e'.2.1 key)
      ∧ ∀ e ∈ history, ∀ key, e.1.Accepts e.2.1 key → s.Closed key)) ?_ ?_ calls
  · refine hrun.imp id ?_
    rintro ⟨hsound, honce, -⟩
    exact ⟨hsound.one, honce, hsound.above, fun key task key' task' => hsound.failed⟩
  · rintro history s c (hcolliding | ⟨hsound, honce, hclosed⟩)
    · exact Or.inl (hcolliding.step c)
    rcases hsound.step c with hcolliding | hstep
    · exact Or.inl hcolliding
    refine Or.inr ⟨hstep.sound, ?_, ?_⟩
    · refine List.pairwise_append.mpr ⟨honce, List.pairwise_singleton _ _, ?_⟩
      intro e he e' he' key haccepts haccepts'
      rw [List.mem_singleton.mp he'] at haccepts'
      exact (hclosed e he key haccepts).2 (hstep.open_before key haccepts')
    · intro e he key haccepts
      rcases List.mem_append.mp he with hold | hlast
      · exact hstep.closed key (hclosed e hold key haccepts)
      · rw [List.mem_singleton.mp hlast] at haccepts
        exact hstep.closed_after key haccepts
  · refine (new_sound hnew).imp id fun hsound => ⟨hsound, List.Pairwise.nil, ?_⟩
    intro e he
    cases he

end BatchResearchScheduler

/-! ### A scheduler is built -/

omit [Hashlib] in
theorem isWritable_jsonTexts (texts : List Text) : (jsonTexts texts).isWritable = true := by
  rw [jsonTexts, Json.isWritable, Json.areWritable_iff]
  intro v hv
  obtain ⟨text, -, rfl⟩ := List.mem_map.mp hv
  rfl

omit [Hashlib] in
theorem LevelContract.isWritable_toDict (c : LevelContract) : c.toDict.isWritable = true := by
  simp [LevelContract.toDict, PinnedRef.toDict, Json.isWritable, Json.membersWritable,
    isWritable_jsonTexts]

theorem ConnectorRef.exists_contentSha256 (c : ConnectorRef) :
    ∃ digest, c.contentSha256 = .ok digest := by
  unfold contentSha256
  refine (exists_canonicalSha256_of_isWritable ?_).imp fun _ h => h.1
  simp [ConnectorRef.toDict, Json.isWritable, Json.membersWritable, isWritable_jsonTexts]

theorem ValidationTask.exists_inputSha256 (t : ValidationTask) :
    ∃ digest, t.inputSha256 = .ok digest := by
  obtain ⟨connector, hconnector⟩ := t.connector.exists_contentSha256
  have hlast : (jsonText? t.predecessorEvidenceSha256).isWritable = true := by
    cases t.predecessorEvidenceSha256 <;> rfl
  rw [inputSha256, hconnector, Py.ok_bind]
  refine (exists_canonicalSha256_of_isWritable ?_).imp fun _ h => h.1
  simp [inputItems, Json.isWritable, Json.membersWritable, hlast]

theorem LevelEvidence.exists_contentSha256 (e : LevelEvidence) :
    ∃ digest, e.contentSha256 = .ok digest := by
  have hchecks : Json.membersWritable (e.checks.items.map fun p => (p.1, .bool p.2)) = true := by
    rw [Json.membersWritable_iff, List.forall_mem_map]
    exact fun _ _ => rfl
  unfold contentSha256
  refine (exists_canonicalSha256_of_isWritable ?_).imp fun _ h => h.1
  simp [PinnedRef.toDict, Json.isWritable, Json.membersWritable, isWritable_jsonTexts, hchecks]

theorem BatchResearchPlan.exists_contentSha256 (p : BatchResearchPlan) {version : Text}
    (hversion : SchemaVersion.str p.fields.schemaVersion = .ok version) {hashes : List Text}
    (hhashes : p.fields.candidates.mapM FunnelCandidate.contentSha256 = .ok hashes) :
    ∃ digest, p.contentSha256 = .ok digest := by
  have hcontracts : Json.areWritable (p.fields.levelContracts.map LevelContract.toDict)
      = true := by
    rw [Json.areWritable_iff]
    intro v hv
    obtain ⟨contract, -, rfl⟩ := List.mem_map.mp hv
    exact contract.isWritable_toDict
  rw [contentSha256, hversion, Py.ok_bind, hhashes, Py.ok_bind]
  refine (exists_canonicalSha256_of_isWritable ?_).imp fun _ h => h.1
  simp [Json.isWritable, Json.membersWritable, isWritable_jsonTexts, hcontracts]

/-- A contract is made, when its fields are explicit. -/
theorem exists_makeContract (level : ValidationLevel) (revisionLevel inputs purpose : Text)
    (limitations artifacts checks : List Text)
    (hgate : (Text.ofString "validation-gate-" ++ revisionLevel).strip ≠ [])
    (htexts : ∀ text ∈ inputs :: purpose :: (limitations ++ artifacts ++ checks), text.strip ≠ [])
    (hsome : limitations ≠ [] ∧ artifacts ≠ [] ∧ checks ≠ [])
    (hunique : artifacts.Nodup ∧ checks.Nodup) :
    ∃ contract, makeContract level revisionLevel inputs purpose limitations artifacts checks
      = .ok contract := by
  have hwritable : (Json.obj [("level", .str level.value), ("artifacts", jsonTexts artifacts),
      ("checks", jsonTexts checks)]).isWritable = true := by
    simp [Json.isWritable, Json.membersWritable, isWritable_jsonTexts]
  obtain ⟨digest, hdigest, hhex⟩ := exists_canonicalSha256_of_isWritable hwritable
  have hvalid : postInit (φ := PinnedRefFields)
      ⟨Text.ofString "validation-gate-" ++ revisionLevel, "v4-002.1", digest⟩ = .ok () :=
    check_bind_eq_ok.mpr ⟨require_of_pos hgate,
      check_bind_eq_ok.mpr ⟨require_of_pos (show (Text.ofString "v4-002.1").strip ≠ [] by decide),
        require_of_pos hhex⟩⟩
  have hfields : postInit (φ := LevelContractFields)
      ⟨level, inputs, purpose, limitations, artifacts, checks, ⟨_, hvalid⟩⟩ = .ok () :=
    check_bind_eq_ok.mpr ⟨require_of_pos htexts,
      check_bind_eq_ok.mpr ⟨require_of_pos hsome, require_of_pos hunique⟩⟩
  refine ⟨⟨_, hfields⟩, ?_⟩
  rw [makeContract, hdigest, Py.ok_bind, Frozen.make_of_valid hvalid, Py.ok_bind,
    Frozen.make_of_valid]

/-- **The standard contracts** are made. -/
theorem exists_standardLevelContracts : ∃ contracts, standardLevelContracts = .ok contracts := by
  unfold standardLevelContracts
  refine Py.exists_bind (exists_makeContract _ _ _ _ _ _ _ (by decide) (by decide +kernel)
    (by decide) (by decide +kernel)) fun l0 _ => ?_
  refine Py.exists_bind (exists_makeContract _ _ _ _ _ _ _ (by decide) (by decide +kernel)
    (by decide) (by decide +kernel)) fun l1 _ => ?_
  exact Py.exists_bind (exists_makeContract _ _ _ _ _ _ _ (by decide) (by decide +kernel)
    (by decide) (by decide +kernel)) fun l2 _ => ⟨_, rfl⟩

namespace BatchResearchScheduler

variable {s : BatchResearchScheduler} {candidate : FunnelCandidate} {level : ValidationLevel}

theorem exists_contract (s : BatchResearchScheduler) (level : ValidationLevel) :
    ∃ contract, s.contract level = .ok contract := by
  have hvalid : s.plan.fields.postInit = .ok () := s.plan.valid
  rw [BatchResearchPlanFields.postInit, check_bind_eq_ok, check_bind_eq_ok] at hvalid
  obtain ⟨hashes, -, hvalid⟩ := Py.of_bind hvalid.2.2
  obtain ⟨-, hvalid⟩ := of_require hvalid
  obtain ⟨contracts, hcontracts, hvalid⟩ := Py.of_bind hvalid
  have hlevels : contracts.map (fun item => item.fields.level) = ValidationLevel.order := by
    obtain ⟨l0, hl0, hcontracts⟩ := Py.of_bind hcontracts
    obtain ⟨l1, hl1, hcontracts⟩ := Py.of_bind hcontracts
    obtain ⟨l2, hl2, hcontracts⟩ := Py.of_bind hcontracts
    have hlevel : ∀ {level revisionLevel inputs purpose limitations artifacts checks} {c},
        makeContract level revisionLevel inputs purpose limitations artifacts checks = .ok c →
        c.fields.level = level := by
      intro level revisionLevel inputs purpose limitations artifacts checks c hc
      obtain ⟨digest, -, hc⟩ := Py.of_bind hc
      obtain ⟨gate, -, hc⟩ := Py.of_bind hc
      rw [Frozen.make_eq_ok.mp hc]
    rw [← Except.ok.inj hcontracts, List.map_cons, List.map_cons, List.map_cons, hlevel hl0,
      hlevel hl1, hlevel hl2]
    rfl
  have hmem : level ∈ s.plan.fields.levelContracts.map (fun item => item.fields.level) := by
    rw [require_eq_ok.mp hvalid, hlevels]
    cases level <;> decide
  obtain ⟨contract, hmem, hlevel⟩ := List.mem_map.mp hmem
  cases hfind : s.plan.fields.levelContracts.find? (fun item => item.fields.level = level) with
  | none => exact absurd hlevel (by simpa using List.find?_eq_none.mp hfind contract hmem)
  | some item => exact ⟨item, by rw [BatchResearchScheduler.contract, hfind]⟩

theorem exists_buildTask {predecessor : Option LevelEvidence}
    (hbatch : ∃ digest, s.plan.contentSha256 = .ok digest)
    (hcandidate : ∃ digest, candidate.contentSha256 = .ok digest)
    (hconnector : ∃ item, s.connector level = .ok item) :
    ∃ task, s.buildTask candidate level predecessor = .ok task := by
  unfold buildTask
  refine Py.exists_bind (s.exists_contract level) fun contract _ => ?_
  refine Py.exists_bind hconnector fun item _ => ?_
  refine Py.exists_bind hbatch fun batch _ => ?_
  refine Py.exists_bind hcandidate fun candidateSha256 _ => ?_
  have hpredecessor : ∃ digest, predecessor.mapM LevelEvidence.contentSha256 = .ok digest := by
    cases predecessor with
    | none => exact ⟨none, rfl⟩
    | some evidence =>
      obtain ⟨digest, hdigest⟩ := evidence.exists_contentSha256
      exact ⟨some digest, by rw [Option.mapM_some, hdigest]; rfl⟩
  refine Py.exists_bind hpredecessor fun predecessor _ => ?_
  have hseed : (Json.obj [("batch", .str batch), ("candidate", .str candidateSha256),
      ("level", .str level.value), ("predecessor", jsonText? predecessor)]).isWritable = true := by
    cases predecessor <;> rfl
  refine Py.exists_bind ((exists_canonicalSha256_of_isWritable hseed).imp fun _ h => h.1)
    fun seed hdigest => ?_
  have hhex := isHexDigest_of_canonicalSha256 hdigest
  have hne : seed ≠ [] := by
    rintro rfl
    exact absurd hhex.1 (by decide)
  refine Py.exists_bind (EntityId.exists_deterministic (by decide) hne
    (Text.IsHexDigest.isAscii hhex)) fun taskId _ => ?_
  have hcontract := exists_canonicalSha256_of_isWritable contract.isWritable_toDict
  exact Py.exists_bind (hcontract.imp fun _ h => h.1) fun _ _ => ⟨_, rfl⟩

/-- **A scheduler is built** when the first level has its connector. -/
theorem exists_new (plan : BatchResearchPlan) (connectors : List ConnectorRef)
    (item : ConnectorRef)
    (hversion : ∃ text, SchemaVersion.str plan.fields.schemaVersion = .ok text)
    (hids : (connectors.map (fun item => item.fields.connectorId)).Nodup)
    (hitem : connectors.filter (fun item => .L0 ∈ item.fields.levels) = [item]) :
    ∃ s, new plan connectors = .ok s := by
  have hvalid : plan.fields.postInit = .ok () := plan.valid
  rw [BatchResearchPlanFields.postInit, check_bind_eq_ok, check_bind_eq_ok] at hvalid
  obtain ⟨hashes, hhashes, -⟩ := Py.of_bind hvalid.2.2
  have hne : connectors ≠ [] := by
    rintro rfl
    cases hitem
  unfold new
  rw [require_of_pos hne, Py.ok_bind, require_of_pos hids, Py.ok_bind]
  -- the loop keeps the plan and the connectors
  have hloop : ∀ (candidates : List FunnelCandidate) (s : BatchResearchScheduler),
      s.plan = plan → s.connectors = connectors → candidates ⊆ plan.fields.candidates →
      ∃ s', queueAll candidates s = .ok s' := by
    intro candidates
    induction candidates with
    | nil => exact fun s _ _ _ => ⟨s, rfl⟩
    | cons candidate rest ih =>
      rintro s rfl rfl hsubset
      obtain ⟨levels, hlevels⟩ : ∃ levels, candidate.fields.levels = .L0 :: levels := by
        rcases candidate.levels_cases with h | h | h <;> exact ⟨_, h⟩
      rw [queueAll, hlevels]
      have hconnector : ∃ item, s.connector .L0 = .ok item :=
        ⟨item, by rw [connector, hitem]⟩
      obtain ⟨version, hversion⟩ := hversion
      obtain ⟨digest, -, hdigest⟩ := Py.mem_of_mapM hhashes candidate (hsubset List.mem_cons_self)
      refine Py.exists_bind (Py.exists_bind (exists_buildTask
        (s.plan.exists_contentSha256 hversion hhashes) ⟨digest, hdigest⟩ hconnector)
        fun task _ => ?_) fun queued hqueued => ?_
      · exact Py.exists_bind task.exists_inputSha256 fun key _ => ⟨_, rfl⟩
      · obtain ⟨task, key, -, -, rfl⟩ := queue_eq_ok hqueued
        exact ih _ rfl rfl fun c hc => hsubset (List.mem_cons_of_mem _ hc)
  exact hloop _ _ rfl rfl (List.Subset.refl _)

/-! ### A batch of one candidate -/

/-- Sixty-four times a digit. -/
def sampleDigest (digit : Char) : Text := List.replicate 64 (Text.ofChar digit)

/-- A reference. -/
def sampleRef : PinnedRef := ⟨⟨"candidate", "1", sampleDigest '0'⟩, by decide⟩

/-- A candidate for every level. -/
def sampleCandidate : FunnelCandidate :=
  ⟨{ candidateRef := sampleRef
     experimentPlanSha256 := ⟨sampleDigest '1', by decide⟩
     sourceLineage := [sampleRef] }, by decide⟩

/-- A connector for every level. -/
def sampleConnector : ConnectorRef :=
  ⟨{ connectorId := "connector"
     version := "1"
     implementationSha256 := sampleDigest '2'
     inputSchemaSha256 := sampleDigest '3'
     outputSchemaSha256 := sampleDigest '4'
     levels := ValidationLevel.order }, by decide⟩

/-- A plan of the candidate. -/
def samplePlan : BatchResearchPlan where
  fields :=
    { batchId := .epoch "research_batch" 0 0 (Eq.refl true)
      schemaVersion := ⟨⟨1, 0⟩, v2ContractSchema.valid⟩
      candidates := [sampleCandidate]
      levelContracts := standardLevelContracts.toOption.getD [] }
  valid := by
    obtain ⟨contracts, hcontracts⟩ := exists_standardLevelContracts
    have hwritable : (Json.obj [("candidate_ref", sampleRef.toDict),
        ("experiment_plan_sha256", .str (sampleDigest '1')),
        ("source_lineage", .arr [sampleRef.toDict]),
        ("levels", jsonTexts (ValidationLevel.order.map ValidationLevel.value))]).isWritable
        = true := rfl
    obtain ⟨digest, hdigest, -⟩ := exists_canonicalSha256_of_isWritable hwritable
    have hcandidate : sampleCandidate.contentSha256 = .ok digest := hdigest
    have hhashes : [sampleCandidate].mapM FunnelCandidate.contentSha256 = .ok [digest] := by
      rw [List.mapM_cons, hcandidate]
      rfl
    show BatchResearchPlanFields.postInit _ = .ok ()
    simp only [BatchResearchPlanFields.postInit, hhashes, hcontracts, Py.ok_bind]
    refine check_bind_eq_ok.mpr ⟨require_of_pos rfl, check_bind_eq_ok.mpr
      ⟨require_of_pos (by simp), check_bind_eq_ok.mpr ⟨require_of_pos ?_, require_of_pos rfl⟩⟩⟩
    exact List.nodup_singleton digest

end BatchResearchScheduler

end

namespace BatchResearchScheduler

theorem funnel_samplePlan : ∃ s, new samplePlan [sampleConnector] = .ok s
    ∧ ∀ calls, (machine.exec s calls).Colliding
      ∨ Funnel (machine.trace s calls) (machine.exec s calls) := by
  obtain ⟨s, hnew⟩ := exists_new samplePlan [sampleConnector] sampleConnector ⟨_, rfl⟩ (by decide)
    (by decide)
  exact ⟨s, hnew, fun calls => funnel_or_colliding hnew calls⟩

end BatchResearchScheduler

end FuturesAgentOs
