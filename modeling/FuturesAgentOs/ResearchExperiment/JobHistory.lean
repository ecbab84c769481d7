import FuturesAgentOs.ResearchExperiment.ExperimentManager

namespace FuturesAgentOs

open PyModel

/-!
# What the manager keeps of the jobs that it returns

Runs of the manager's calls.  All calls but two store the job that they return through
`_transition`; `checkpoint` and `recover` build it with `replace` and do not store it.

* `runHolds_iff` — a run keeps the promises exactly if no call drops its job.
-/

/-- A checkpoint or a recovery that returns a job other than the one that stays stored. -/
def ManagerCall.Drops (m : ExperimentManager) : ManagerCall → Prop
  | .checkpoint jobId now tokens toolCalls isPartial =>
    ∃ job, m.jobs.get? jobId = some job ∧ job.fields.status = .RUNNING
      ∧ (0 ≤ tokens ∧ 0 ≤ toolCalls) ∧ ¬ ExperimentManager.OverBudget job tokens toolCalls
      ∧ job.fields.createdAt ≤ now
      ∧ ¬ (tokens = 0 ∧ toolCalls = 0 ∧ isPartial = false ∧ now = job.fields.updatedAt)
  | .recover jobId now =>
    ∃ job, m.jobs.get? jobId = some job
      ∧ job.fields.status ∈ [ResearchJobStatus.RUNNING, .PARTIAL]
      ∧ now < job.fields.experiment.fields.expiresAt ∧ job.fields.createdAt ≤ now
  | _ => False

/-- The call does not store the job that it accepts. -/
def ManagerCall.ReplacesOnly : ManagerCall → Prop
  | .checkpoint .. => True
  | .recover .. => True
  | _ => False

/-- The usage of the checkpoint of a job that was accepted, if the step of a run is one. -/
def acceptedUsage (jobId : ℕ) (event : ExperimentManager × ManagerCall × Py ResearchJob) :
    List (ℤ × ℤ) :=
  match event.2 with
  | (.checkpoint id _ tokens toolCalls _, .ok job) =>
    if id = jobId ∧ job.fields.status ≠ .TIMED_OUT then [(tokens, toolCalls)] else []
  | _ => []

/-- The usage of all accepted checkpoints of a job. -/
def usage (jobId : ℕ) (history : List (ExperimentManager × ManagerCall × Py ResearchJob)) :
    List (ℤ × ℤ) :=
  history.flatMap (acceptedUsage jobId)

namespace ExperimentManager

/-- What a call does. -/
inductive CallStep (m : ExperimentManager) (c : ManagerCall) : Answered → Prop where
  | raised (e : PyException) : CallStep m c (.error e, m)
  | registered (plan : ExperimentPlan) (job : ResearchJob) (byExperiment : Dict EntityId ℕ)
      (hcall : c = .register plan) (hid : job.fields.jobId = m.drawn) :
      CallStep m c (.ok job, ⟨m.jobs.set m.drawn job, byExperiment, m.drawn + 1⟩)
  | stored (jobId : ℕ) (before job : ResearchJob) (hget : m.jobs.get? jobId = some before)
      (hopen : ¬ before.fields.IsTerminal) (hid : job.fields.jobId = before.fields.jobId)
      (hstatus : c.ReplacesOnly → job.fields.status = .TIMED_OUT) :
      CallStep m c (.ok job, { m with jobs := m.jobs.set before.fields.jobId job })
  | checkpointed (jobId : ℕ) (now : RecordedAt) (tokens toolCalls : ℤ) (isPartial : Bool)
      (before job : ResearchJob) (hcall : c = .checkpoint jobId now tokens toolCalls isPartial)
      (hget : m.jobs.get? jobId = some before) (hrunning : before.fields.status = .RUNNING)
      (husage : 0 ≤ tokens ∧ 0 ≤ toolCalls) (hbudget : ¬ OverBudget before tokens toolCalls)
      (hjob : before.replace (checkpointed now tokens toolCalls isPartial) = .ok job) :
      CallStep m c (.ok job, m)
  | requeued (jobId : ℕ) (now : RecordedAt) (before job : ResearchJob)
      (hcall : c = .recover jobId now) (hget : m.jobs.get? jobId = some before)
      (hstatus : before.fields.status ∈ [ResearchJobStatus.RUNNING, .PARTIAL])
      (hbefore : now < before.fields.experiment.fields.expiresAt)
      (hjob : before.replace (requeued now) = .ok job) : CallStep m c (.ok job, m)

section

variable {m : ExperimentManager} {c : ManagerCall} {jobId : ℕ} {job : ResearchJob}

theorem callStep_checked {p : Prop} [Decidable p] {message : Text} {next : Answered}
    (h : p → CallStep m c next) : CallStep m c (m.checked p message next) := by
  unfold checked
  split
  · rename_i hp
    exact h hp
  · exact .raised _

theorem callStep_onJob {f : ResearchJob → Answered}
    (h : ∀ job, m.jobs.get? jobId = some job → CallStep m c (f job)) :
    CallStep m c (m.onJob jobId f) := by
  unfold onJob get
  rcases hget : m.jobs.get? jobId with _ | job
  · exact .raised _
  · exact h job hget

theorem callStep_replaced {change : ResearchJobFields → ResearchJobFields}
    (h : ∀ after, job.replace change = .ok after → CallStep m c (.ok after, m)) :
    CallStep m c (job.replace change, m) := by
  rcases hjob : job.replace change with e | after
  · exact .raised e
  · exact h after hjob

theorem callStep_transition {change : ResearchJobFields → ResearchJobFields}
    (hget : m.jobs.get? jobId = some job) (hopen : ¬ job.fields.IsTerminal)
    (hid : (change job.fields).jobId = job.fields.jobId)
    (hstatus : c.ReplacesOnly → (change job.fields).status = .TIMED_OUT) :
    CallStep m c (m.transition job change) := by
  unfold transition
  rcases hafter : job.replace change with e | after
  · exact .raised e
  · have hfields := Frozen.replace_eq_ok.mp hafter
    refine .stored jobId job after hget hopen (by rw [hfields, hid]) ?_
    rw [hfields]
    exact hstatus

theorem callStep_timeOut {now : RecordedAt} {failureCode : Text}
    (hget : m.jobs.get? jobId = some job) (hopen : ¬ job.fields.IsTerminal) :
    CallStep m c (m.timeOut job now failureCode) :=
  callStep_transition hget hopen rfl fun _ => rfl

theorem not_terminal_of_mem {f : ResearchJobFields}
    (h : f.status ∈ [ResearchJobStatus.RUNNING, .PARTIAL]) : ¬ f.IsTerminal := by
  unfold ResearchJobFields.IsTerminal
  rw [List.mem_cons, List.mem_singleton] at h
  rcases h with hstatus | hstatus
  · rw [hstatus]
    decide
  · rw [hstatus]
    decide

theorem exists_registered (plan : ExperimentPlan) (jobId : ℕ) :
    ∃ job : ResearchJob, Frozen.make
      { jobId
        experiment := plan
        status := .QUEUED
        createdAt := plan.fields.asOf
        updatedAt := plan.fields.asOf } = .ok job := by
  refine Frozen.exists_make_iff.mpr ?_
  have hbudget := plan.fields.budget.valid
  simp only [postInit, require_eq_ok] at hbudget
  simp only [postInit, check_bind_eq_ok, require_eq_ok]
  refine ⟨⟨Nat.le_refl _, by decide⟩, ⟨le_refl 0, le_refl 0⟩,
    ⟨hbudget.1.le, hbudget.2.1.le⟩, ?_, ?_, fun _ _ => trivial⟩
  · intro h
    cases h
  · intro h
    cases h

end

/-- **Every call** does one of these. -/
theorem callStep_call (m : ExperimentManager) (c : ManagerCall) : CallStep m c (m.call c) := by
  cases c with
  | register plan =>
    show CallStep m _ (m.register plan)
    unfold register
    rcases m.byExperiment.get? plan.fields.experimentId with _ | prior
    · obtain ⟨job, hjob⟩ := exists_registered plan m.drawn
      rw [hjob]
      exact .registered plan job _ rfl (by rw [Frozen.make_eq_ok.mp hjob])
    · exact .raised _
  | start jobId now =>
    refine callStep_onJob fun job hget => callStep_checked fun hstatus => ?_
    have hopen : ¬ job.fields.IsTerminal := by
      rw [ResearchJobFields.IsTerminal, hstatus]
      decide
    split
    · exact callStep_timeOut hget hopen
    · exact callStep_transition hget hopen rfl fun h => h.elim
  | checkpoint jobId now tokens toolCalls isPartial =>
    refine callStep_onJob fun job hget => callStep_checked fun hstatus =>
      callStep_checked fun husage => ?_
    split
    · refine callStep_timeOut hget ?_
      rw [ResearchJobFields.IsTerminal, hstatus]
      decide
    · rename_i hbudget
      exact callStep_replaced fun after hafter =>
        .checkpointed jobId now tokens toolCalls isPartial job after rfl hget hstatus husage hbudget
          hafter
  | complete jobId now resultRef =>
    refine callStep_onJob fun job hget => callStep_checked fun hstatus =>
      callStep_checked fun _ => ?_
    split
    · exact callStep_timeOut hget (not_terminal_of_mem hstatus)
    · exact callStep_transition hget (not_terminal_of_mem hstatus) rfl fun h => h.elim
  | fail jobId now code detail =>
    exact callStep_checked fun _ => callStep_onJob fun job hget => callStep_checked fun hopen =>
      callStep_transition hget hopen rfl fun h => h.elim
  | cancel jobId now reason =>
    exact callStep_onJob fun job hget => callStep_checked fun hopen =>
      callStep_transition hget hopen rfl fun h => h.elim
  | recover jobId now =>
    refine callStep_onJob fun job hget => callStep_checked fun hstatus => ?_
    split
    · exact callStep_timeOut hget (not_terminal_of_mem hstatus)
    · rename_i hbefore
      exact callStep_replaced fun after hafter =>
        .requeued jobId now job after rfl hget hstatus (RecordedAt.not_le.mp hbefore) hafter

/-! ### Jobs are stored under their ids -/

/-- A job is stored under its id, which was drawn. -/
def Keyed (m : ExperimentManager) : Prop :=
  ∀ jobId job, m.jobs.get? jobId = some job → job.fields.jobId = jobId ∧ jobId < m.drawn

theorem keyed_next (m : ExperimentManager) (c : ManagerCall) (h : m.Keyed) :
    (machine.next m c).Keyed := by
  intro jobId job hget
  have hstep := callStep_call m c
  rw [show machine.next m c = (m.call c).2 from rfl] at hget ⊢
  generalize m.call c = answered at hstep hget ⊢
  cases hstep with
  | raised e => exact h jobId job hget
  | registered plan new byExperiment hcall hid =>
    show job.fields.jobId = jobId ∧ jobId < m.drawn + 1
    rw [Dict.get?_set] at hget
    split at hget
    · rename_i heq
      obtain rfl := Option.some.inj hget
      exact ⟨hid.trans heq.symm, by omega⟩
    · obtain ⟨hkey, hdrawn⟩ := h jobId job hget
      exact ⟨hkey, by omega⟩
  | stored id before new hbefore hopen hid hstatus =>
    obtain ⟨hkey, hdrawn⟩ := h id before hbefore
    rw [Dict.get?_set] at hget
    split at hget
    · rename_i heq
      obtain rfl := Option.some.inj hget
      exact ⟨hid.trans heq.symm, by rw [heq, hkey]; exact hdrawn⟩
    · exact h jobId job hget
  | checkpointed => exact h jobId job hget
  | requeued => exact h jobId job hget

theorem keyed_exec (calls : List ManagerCall) : (machine.exec {} calls).Keyed :=
  machine.exec_invariant keyed_next (fun _ _ hget => by cases hget) calls

variable {jobId : ℕ}

/-- **A terminal job** stays as it is through a call. -/
theorem terminal_next {m : ExperimentManager} (hkeyed : m.Keyed) (c : ManagerCall)
    {job : ResearchJob} (hget : m.jobs.get? jobId = some job) (hterminal : job.fields.IsTerminal) :
    (machine.next m c).jobs.get? jobId = some job := by
  have hstep := callStep_call m c
  rw [show machine.next m c = (m.call c).2 from rfl]
  generalize m.call c = answered at hstep ⊢
  cases hstep with
  | raised e => exact hget
  | registered plan new byExperiment hcall hid =>
    have hdrawn := (hkeyed jobId job hget).2
    show (m.jobs.set m.drawn new).get? jobId = some job
    rw [Dict.get?_set_of_ne _ _ (by omega), hget]
  | stored id before new hbefore hopen hid hstatus =>
    show (m.jobs.set before.fields.jobId new).get? jobId = some job
    rw [(hkeyed id before hbefore).1]
    have hne : jobId ≠ id := by
      rintro rfl
      obtain rfl := Option.some.inj (hbefore.symm.trans hget)
      exact hopen hterminal
    rw [Dict.get?_set_of_ne _ _ hne, hget]
  | checkpointed => exact hget
  | requeued => exact hget

/-- **A terminal job** stays as it is in every run. -/
theorem terminal_kept (past later : List ManagerCall) {job : ResearchJob}
    (hget : (machine.exec {} past).jobs.get? jobId = some job) (hterminal : job.fields.IsTerminal) :
    (machine.exec {} (past ++ later)).jobs.get? jobId = some job := by
  induction later using List.reverseRecOn with
  | nil => rw [List.append_nil, hget]
  | append_singleton later c ih =>
    rw [← List.append_assoc, Machine.exec_concat]
    exact terminal_next (keyed_exec _) c ih hterminal

/-! ### What is returned and what is stored -/

/-- What is promised of a run. -/
structure RunHolds (calls : List ManagerCall) : Prop where
  /-- a job that a call returns is the one that `get` returns then -/
  returned : ∀ past c rest, calls = past ++ c :: rest → ∀ job,
    machine.out (machine.exec {} past) c = .ok job →
    (machine.exec {} (past ++ [c])).get job.fields.jobId = .ok job
  /-- the accepted checkpoints of a job are within its budget -/
  budget : ∀ past rest, calls = past ++ rest → ∀ jobId job,
    (machine.exec {} past).jobs.get? jobId = some job →
    ((usage jobId (machine.trace {} past)).map Prod.fst).sum
        ≤ job.fields.experiment.fields.budget.fields.maxTokens
      ∧ ((usage jobId (machine.trace {} past)).map Prod.snd).sum
        ≤ job.fields.experiment.fields.budget.fields.maxToolCalls
  /-- a job that was recovered can be started -/
  restarts : ∀ past jobId now rest, calls = past ++ .recover jobId now :: rest → ∀ job,
    machine.out (machine.exec {} past) (.recover jobId now) = .ok job →
    job.fields.status = .QUEUED → ∀ later, job.fields.createdAt ≤ later →
    later < job.fields.experiment.fields.expiresAt →
    ∃ again, machine.out (machine.exec {} (past ++ [.recover jobId now])) (.start jobId later)
      = .ok again ∧ again.fields.status = .RUNNING
  /-- a terminal job stays as it is -/
  terminal : ∀ past rest, calls = past ++ rest → ∀ jobId job,
    (machine.exec {} past).jobs.get? jobId = some job → job.fields.IsTerminal →
    (machine.exec {} calls).jobs.get? jobId = some job

variable {m : ExperimentManager} {c : ManagerCall} {job : ResearchJob}

theorem get_eq_ok : m.get jobId = .ok job ↔ m.jobs.get? jobId = some job := by
  unfold get
  cases m.jobs.get? jobId with
  | none => simp
  | some found => simp

theorem createdAt_le {before : ResearchJob} {change : ResearchJobFields → ResearchJobFields}
    {now : RecordedAt} (hjob : before.replace change = .ok job)
    (hcreated : (change before.fields).createdAt = before.fields.createdAt)
    (hupdated : (change before.fields).updatedAt = now) : before.fields.createdAt ≤ now := by
  have hvalid := job.valid
  rw [Frozen.replace_eq_ok.mp hjob] at hvalid
  simp only [postInit, check_bind_eq_ok, require_eq_ok] at hvalid
  rw [← hcreated, ← hupdated]
  exact hvalid.1.1

/-- **A call that returns a job** stores it, or drops it. -/
theorem returned_or_drops (hkeyed : m.Keyed) (h : machine.out m c = .ok job) :
    (machine.next m c).jobs.get? job.fields.jobId = some job ∨ c.Drops m := by
  have hstep := callStep_call m c
  rw [show machine.out m c = (m.call c).1 from rfl] at h
  rw [show machine.next m c = (m.call c).2 from rfl]
  generalize m.call c = answered at hstep h ⊢
  cases hstep with
  | raised e => cases h
  | registered plan new byExperiment hcall hid =>
    obtain rfl := Except.ok.inj h
    left
    show (m.jobs.set m.drawn new).get? new.fields.jobId = some new
    rw [hid, Dict.get?_set_self]
  | stored id before new hbefore hopen hid hstatus =>
    obtain rfl := Except.ok.inj h
    left
    show (m.jobs.set before.fields.jobId new).get? new.fields.jobId = some new
    rw [hid, Dict.get?_set_self]
  | checkpointed id now tokens toolCalls isPartial before new hcall hget hrunning husage hbudget
      hjob =>
    obtain rfl := Except.ok.inj h
    have hfields := Frozen.replace_eq_ok.mp hjob
    by_cases hsame : tokens = 0 ∧ toolCalls = 0 ∧ isPartial = false ∧ now = before.fields.updatedAt
    · left
      obtain ⟨rfl, rfl, rfl, rfl⟩ := hsame
      have heq : new = before := by
        refine Frozen.ext ?_
        rw [hfields, checkpointed, if_neg (by decide), ← hrunning, add_zero, add_zero]
      rw [heq, (hkeyed id before hget).1, hget]
    · right
      rw [hcall]
      exact ⟨before, hget, hrunning, husage, hbudget, createdAt_le hjob rfl rfl, hsame⟩
  | requeued id now before new hcall hget hstatus hbefore hjob =>
    obtain rfl := Except.ok.inj h
    right
    rw [hcall]
    exact ⟨before, hget, hstatus, hbefore, createdAt_le hjob rfl rfl⟩

theorem exists_make_open {f : ResearchJobFields} (htimes : f.createdAt ≤ f.updatedAt)
    (hattempt : 1 ≤ f.attempt) (husage : 0 ≤ f.consumedTokens ∧ 0 ≤ f.consumedToolCalls)
    (hbudget : f.consumedTokens ≤ f.experiment.fields.budget.fields.maxTokens
      ∧ f.consumedToolCalls ≤ f.experiment.fields.budget.fields.maxToolCalls)
    (hopen : ¬ f.status.IsTerminal) : ∃ job : ResearchJob, Frozen.make f = .ok job := by
  refine Frozen.exists_make_iff.mpr ?_
  simp only [postInit, check_bind_eq_ok, require_eq_ok]
  refine ⟨⟨htimes, hattempt⟩, husage, hbudget, fun hstatus => ?_, fun hstatus => ?_,
    fun hterminal => absurd hterminal hopen⟩
  · exact absurd (hstatus ▸ (by decide : ResearchJobStatus.SUCCEEDED.IsTerminal)) hopen
  · exact absurd (hstatus ▸ (by decide : ResearchJobStatus.FAILED.IsTerminal)) hopen

theorem counts_of_valid (job : ResearchJob) :
    1 ≤ job.fields.attempt ∧ (0 ≤ job.fields.consumedTokens ∧ 0 ≤ job.fields.consumedToolCalls)
      ∧ job.fields.consumedTokens ≤ job.fields.experiment.fields.budget.fields.maxTokens
      ∧ job.fields.consumedToolCalls
        ≤ job.fields.experiment.fields.budget.fields.maxToolCalls := by
  have hvalid := job.valid
  simp only [postInit, check_bind_eq_ok, require_eq_ok] at hvalid
  exact ⟨hvalid.1.2, hvalid.2.1, hvalid.2.2.1⟩

theorem out_eq (m : ExperimentManager) (c : ManagerCall) : machine.out m c = (m.call c).1 := rfl

theorem next_eq (m : ExperimentManager) (c : ManagerCall) : machine.next m c = (m.call c).2 := rfl

theorem not_stored_of_returned {before : ResearchJob} (hcall : m.call c = (.ok job, m))
    (hget : m.jobs.get? job.fields.jobId = some before) (hne : job ≠ before) :
    ∃ job, machine.out m c = .ok job ∧ (machine.next m c).get job.fields.jobId ≠ .ok job := by
  refine ⟨job, by rw [out_eq, hcall], fun hstored => hne ?_⟩
  rw [next_eq, hcall, get_eq_ok, hget] at hstored
  exact (Option.some.inj hstored).symm

/-- **A call that drops its job** returns it and leaves another one stored. -/
theorem not_stored_of_drops (hkeyed : m.Keyed) (h : c.Drops m) :
    ∃ job, machine.out m c = .ok job
      ∧ (machine.next m c).get job.fields.jobId ≠ .ok job := by
  cases c with
  | checkpoint jobId now tokens toolCalls isPartial =>
    obtain ⟨before, hget, hrunning, husage, hbudget, hcreated, hchanges⟩ := h
    obtain ⟨hattempt, hcounts, -⟩ := counts_of_valid before
    have hwithin := hbudget
    simp only [OverBudget, not_or, not_lt] at hwithin
    have hopen : ¬ (if isPartial then ResearchJobStatus.PARTIAL else .RUNNING).IsTerminal := by
      rcases isPartial <;> decide
    obtain ⟨job, hjob⟩ := exists_make_open
      (f := checkpointed now tokens toolCalls isPartial before.fields) hcreated hattempt
      ⟨add_nonneg hcounts.1 husage.1, add_nonneg hcounts.2 husage.2⟩ hwithin hopen
    have hfields := Frozen.make_eq_ok.mp hjob
    have hcall : m.call (.checkpoint jobId now tokens toolCalls isPartial) = (.ok job, m) := by
      show m.checkpoint jobId now tokens toolCalls isPartial = _
      rw [checkpoint, onJob, get_eq_ok.mpr hget]
      simp only [checked]
      rw [if_pos hrunning, if_pos husage, if_neg hbudget]
      exact congrArg (·, m) hjob
    have hid : job.fields.jobId = jobId := by
      rw [hfields]
      exact (hkeyed jobId before hget).1
    refine not_stored_of_returned hcall (by rw [hid, hget]) fun hsame => hchanges ?_
    rw [hsame] at hfields
    have htokens := congrArg ResearchJobFields.consumedTokens hfields
    have hcalls := congrArg ResearchJobFields.consumedToolCalls hfields
    have hstatus := congrArg ResearchJobFields.status hfields
    have hupdated := congrArg ResearchJobFields.updatedAt hfields
    simp only [checkpointed] at htokens hcalls hstatus hupdated
    refine ⟨by omega, by omega, ?_, hupdated.symm⟩
    rw [hrunning] at hstatus
    rcases isPartial
    · rfl
    · cases hstatus
  | recover jobId now =>
    obtain ⟨before, hget, hstatus, hbefore, hcreated⟩ := h
    obtain ⟨hattempt, hcounts, hbudget⟩ := counts_of_valid before
    have hopen : ¬ ResearchJobStatus.QUEUED.IsTerminal := by decide
    obtain ⟨job, hjob⟩ := exists_make_open (f := requeued now before.fields) hcreated
      (by simp only [requeued]; omega) hcounts hbudget hopen
    have hfields := Frozen.make_eq_ok.mp hjob
    have hcall : m.call (.recover jobId now) = (.ok job, m) := by
      show m.recover jobId now = _
      rw [recover, onJob, get_eq_ok.mpr hget]
      simp only [checked]
      rw [if_pos hstatus, if_neg (RecordedAt.not_le.mpr hbefore)]
      exact congrArg (·, m) hjob
    have hid : job.fields.jobId = jobId := by
      rw [hfields]
      exact (hkeyed jobId before hget).1
    refine not_stored_of_returned hcall (by rw [hid, hget]) fun hsame => ?_
    rw [hsame] at hfields
    have hattempts := congrArg ResearchJobFields.attempt hfields
    simp only [requeued] at hattempts
    omega
  | register => exact h.elim
  | start => exact h.elim
  | complete => exact h.elim
  | fail => exact h.elim
  | cancel => exact h.elim

theorem acceptedUsage_eq_zero (hnot : ¬ c.Drops m) (jobId : ℕ) :
    ∀ used ∈ acceptedUsage jobId (m, c, machine.out m c), used = (0, 0) := by
  intro used hused
  cases c with
  | checkpoint id now tokens toolCalls isPartial =>
    have hstep := callStep_call m (.checkpoint id now tokens toolCalls isPartial)
    rw [out_eq] at hused
    generalize m.call (.checkpoint id now tokens toolCalls isPartial) = answered at hstep hused
    cases hstep with
    | raised e => cases hused
    | registered plan new byExperiment hcall => cases hcall
    | stored k before new hbefore hopen hid hstatus =>
      simp [acceptedUsage, hstatus trivial] at hused
    | checkpointed k later tokens' toolCalls' partly before new hcall hget hrunning husage hbudget
        hjob =>
      obtain ⟨rfl, rfl, rfl, rfl, rfl⟩ := ManagerCall.checkpoint.inj hcall
      have hsame : tokens = 0 ∧ toolCalls = 0 := by
        by_contra hne
        exact hnot ⟨before, hget, hrunning, husage, hbudget, createdAt_le hjob rfl rfl,
          fun hall => hne ⟨hall.1, hall.2.1⟩⟩
      simp only [acceptedUsage] at hused
      split at hused
      · rw [List.mem_singleton.mp hused, hsame.1, hsame.2]
      · cases hused
    | requeued k later before new hcall => cases hcall
  | register => cases hused
  | start => cases hused
  | complete => cases hused
  | fail => cases hused
  | cancel => cases hused
  | recover => cases hused

theorem drops_of_queued {now : RecordedAt}
    (h : machine.out m (.recover jobId now) = .ok job) (hqueued : job.fields.status = .QUEUED) :
    (ManagerCall.recover jobId now).Drops m := by
  have hstep := callStep_call m (.recover jobId now)
  rw [out_eq] at h
  generalize m.call (.recover jobId now) = answered at hstep h
  cases hstep with
  | raised e => cases h
  | registered plan new byExperiment hcall => cases hcall
  | stored k before new hbefore hopen hid hstatus =>
    obtain rfl := Except.ok.inj h
    rw [hstatus trivial] at hqueued
    cases hqueued
  | checkpointed k later tokens toolCalls isPartial before new hcall => cases hcall
  | requeued k later before new hcall hget hstatus hbefore hreplaced =>
    obtain ⟨rfl, rfl⟩ := ManagerCall.recover.inj hcall
    exact ⟨before, hget, hstatus, hbefore, createdAt_le hreplaced rfl rfl⟩

/-- **A run** without dropped jobs has no accepted usage. -/
theorem usage_eq_zero {calls : List ManagerCall}
    (h : machine.Meets (fun m c => ¬ c.Drops m) {} calls) (jobId : ℕ) :
    ∀ used ∈ usage jobId (machine.trace {} calls), used = (0, 0) := by
  refine machine.trace_invariant_of_meets
    (I := fun history _ => ∀ used ∈ usage jobId history, used = (0, 0))
    (fun history m c hnot hzero used hmem => ?_) (fun used hmem => by cases hmem) h
  rw [usage, List.flatMap_append, List.mem_append] at hmem
  rcases hmem with hold | hnew
  · exact hzero used hold
  · rw [List.flatMap_singleton] at hnew
    exact acceptedUsage_eq_zero hnot jobId used hnew

theorem sum_eq_zero {f : ℤ × ℤ → ℤ} {l : List (ℤ × ℤ)} (hf : f (0, 0) = 0)
    (h : ∀ used ∈ l, used = (0, 0)) : (l.map f).sum = 0 :=
  List.sum_eq_zero (List.forall_mem_map.mpr fun used hused => by rw [h used hused, hf])

/-- **A run keeps the manager's promises exactly if none of its checkpoints and recoveries returns a
job other than the one that stays stored.** -/
theorem runHolds_iff (calls : List ManagerCall) :
    RunHolds calls ↔ machine.Meets (fun m c => ¬ c.Drops m) {} calls := by
  constructor
  · intro h
    have hreturned := h.returned
    clear h
    induction calls using List.reverseRecOn with
    | nil => trivial
    | append_singleton calls c ih =>
      rw [Machine.meets_append]
      refine ⟨ih fun past c' rest hpast => hreturned past c' (rest ++ [c]) ?_, fun hdrops => ?_,
        trivial⟩
      · rw [hpast, List.append_assoc, List.cons_append]
      · obtain ⟨job, hjob, hnot⟩ := not_stored_of_drops (keyed_exec calls) hdrops
        have hstored := hreturned calls c [] rfl job hjob
        rw [Machine.exec_concat] at hstored
        exact hnot hstored
  · intro h
    refine ⟨?_, ?_, ?_, ?_⟩
    · rintro past c rest rfl job hjob
      have hnot := (machine.meets_append.mp h).2.1
      have hkept := (returned_or_drops (keyed_exec past) hjob).resolve_right hnot
      rw [Machine.exec_concat, get_eq_ok]
      exact hkept
    · rintro past rest rfl jobId job hget
      have hzero := usage_eq_zero (machine.meets_append.mp h).1 jobId
      have hbudget := job.fields.experiment.fields.budget.valid
      simp only [postInit, require_eq_ok] at hbudget
      rw [sum_eq_zero rfl hzero, sum_eq_zero rfl hzero]
      exact ⟨hbudget.1.le, hbudget.2.1.le⟩
    · rintro past jobId now rest rfl job hjob hqueued
      exact absurd (drops_of_queued hjob hqueued) (machine.meets_append.mp h).2.1
    · rintro past rest rfl jobId job hget hterminal
      exact terminal_kept past rest hget hterminal

/-! ### A checkpoint that is forgotten -/

/-- A time of the samples. -/
def secondAt (second : Fin 60) : RecordedAt :=
  ⟨.of 2026 1 1 (Eq.refl true), 0, 0, second, 0⟩

/-- A plan with a budget of a thousand tokens. -/
def samplePlan : ExperimentPlan :=
  ⟨{ experimentId := .epoch "experiment" 0 0 (Eq.refl true)
     version := 1
     schemaVersion := v2ContractSchema
     requestRef := .epoch "experiment_request" 0 0 (Eq.refl true)
     originalConversationId := .epoch "conversation" 0 0 (Eq.refl true)
     asOf := secondAt 0
     expiresAt := secondAt 50
     budget := ⟨⟨1000, 4, 60⟩, by decide⟩ }, by decide +kernel⟩

/-- Two checkpoints of 600 tokens each. -/
def twoCheckpoints : List ManagerCall :=
  [.register samplePlan, .start 0 (secondAt 1), .checkpoint 0 (secondAt 2) 600 1 false,
    .checkpoint 0 (secondAt 3) 600 1 false]

/-- Not every run keeps the promises: both checkpoints of 600 tokens are accepted. -/
theorem checkpoints_over_budget : ¬ ∀ calls, RunHolds calls := by
  intro h
  have htrace : (usage 0 (machine.trace {} twoCheckpoints)).map Prod.fst = [600, 600] := by
    decide +kernel
  have hbudget : ((machine.exec {} twoCheckpoints).jobs.get? 0).map
      (fun job => job.fields.experiment.fields.budget.fields.maxTokens) = some 1000 := by
    decide +kernel
  obtain ⟨job, hget, hmax⟩ := Option.map_eq_some_iff.mp hbudget
  have hsum := ((h twoCheckpoints).budget twoCheckpoints [] (List.append_nil _).symm 0 job hget).1
  rw [htrace, hmax] at hsum
  exact absurd hsum (by decide)

end ExperimentManager

end FuturesAgentOs
