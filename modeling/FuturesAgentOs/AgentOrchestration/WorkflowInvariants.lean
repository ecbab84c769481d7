import FuturesAgentOs.AgentOrchestration.WorkflowMoves

namespace FuturesAgentOs

open PyModel

/-!
# The invariant of the workflow orchestrator

* `Base.rewrite`, `Settled.evolves` — what a rewriting of tasks keeps of each.
-/

namespace WorkflowOrchestrator

variable {κ : Type} {o p q : WorkflowOrchestrator κ}

/-- The dependencies of a task are completed. -/
def Fed (o : WorkflowOrchestrator κ) (t : WorkflowTask) : Prop :=
  ∀ plan, o.plans.get? t.episodeId = some plan → ∀ step ∈ plan.steps, step.stepKey = t.stepKey →
    o.DependenciesCompleted t.episodeId step

/-- An episode that is over has terminal tasks, and it is completed only when they all are and no
critic rejected. -/
structure Over (o : WorkflowOrchestrator κ) (episodeId : ℕ) (status : EpisodeStatus) : Prop where
  terminal : ∀ t ∈ o.tasksOf episodeId, t.status.IsTerminal
  completed : status = .COMPLETED →
    (∀ t ∈ o.tasksOf episodeId, t.status = .COMPLETED) ∧ ¬ o.CriticRejected episodeId

/-- A completed result has the outputs that its step requires. -/
def Typed (o : WorkflowOrchestrator κ) (t : WorkflowTask) (r : WorkflowTaskResult) : Prop :=
  r.fields.status = .COMPLETED → ∀ plan, o.plans.get? t.episodeId = some plan →
    ∀ step ∈ plan.steps, step.stepKey = t.stepKey →
      r.fields.artifacts.map ArtifactRef.artifactKind = step.fields.requiredOutputs

/-- **What holds throughout a call.** -/
structure Base (o : WorkflowOrchestrator κ) : Prop where
  keyed : o.Keyed
  /-- a task that runs or has a result has completed dependencies -/
  fed : ∀ id t, o.tasks.get? id = some t →
    t.status = .RUNNING ∨ (∃ r, o.taskResults.get? id = some r) → o.Fed t
  result : ∀ id r, o.taskResults.get? id = some r →
    r.fields.taskId = id ∧ ∃ t, o.tasks.get? id = some t ∧ t.status = r.fields.status
  completed : ∀ id t, o.tasks.get? id = some t → t.status = .COMPLETED →
    ∃ r, o.taskResults.get? id = some r
  /-- no more tasks run than may -/
  slots : ∀ id plan, o.plans.get? id = some plan →
    (o.running id : ℤ) ≤ plan.fields.cycleBudget.fields.maxParallelTasks
  ended : ∀ id e, o.episodes.get? id = some e → e.fields.status ≠ .RUNNING →
    o.Over id e.fields.status
  /-- the cycle of a running episode runs -/
  cycle : ∀ id e c, o.episodes.get? id = some e → o.cycles.get? e.fields.cycleId = some c →
    e.fields.status = .RUNNING → c.fields.status = .RUNNING
  typed : ∀ id t r, o.tasks.get? id = some t → o.taskResults.get? id = some r → o.Typed t r

/-- No pending task depends on one that ended without being completed. -/
def Unblocked (o : WorkflowOrchestrator κ) (episodeId : ℕ) : Prop :=
  ∀ plan, o.plans.get? episodeId = some plan → ∀ step ∈ plan.steps,
    ∀ t ∈ o.tasksOf episodeId, t.stepKey = step.stepKey → t.status = .PENDING →
      ∀ u ∈ o.tasksOf episodeId, u.stepKey ∈ step.dependsOn → u.status.IsTerminal →
        u.status = .COMPLETED

/-- A task is left, unless there is none. -/
def Open (o : WorkflowOrchestrator κ) (episodeId : ℕ) : Prop :=
  o.tasksOf episodeId ≠ [] → ∃ t ∈ o.tasksOf episodeId, ¬ t.status.IsTerminal

/-- **What a call leaves an episode with**, while it runs. -/
structure Settled (o : WorkflowOrchestrator κ) (episodeId : ℕ) : Prop where
  unblocked : ∀ e, o.episodes.get? episodeId = some e → e.fields.status = .RUNNING →
    o.Unblocked episodeId
  isOpen : ∀ e, o.episodes.get? episodeId = some e → e.fields.status = .RUNNING →
    o.Open episodeId

/-- **The invariant.** -/
structure Inv (o : WorkflowOrchestrator κ) : Prop where
  base : o.Base
  settled : ∀ episodeId, o.Settled episodeId

/-- The invariant, one episode apart. -/
structure Near (o : WorkflowOrchestrator κ) (episodeId : ℕ) : Prop where
  base : o.Base
  settled : ∀ other, other ≠ episodeId → o.Settled other

theorem Inv.near (h : o.Inv) (episodeId : ℕ) : o.Near episodeId :=
  ⟨h.base, fun other _ => h.settled other⟩

variable {episodeId : ℕ} {t : WorkflowTask}

theorem Near.inv (h : o.Near episodeId) (hsettled : o.Settled episodeId) : o.Inv := by
  refine ⟨h.base, fun other => ?_⟩
  by_cases heq : other = episodeId
  · rw [heq]
    exact hsettled
  · exact h.settled other heq

/-! ### What a rewriting of tasks keeps -/

theorem DependenciesCompleted.evolves (h : o.Keyed) (hp : Evolves o p)
    {step : DelegationStep} (hstep : o.DependenciesCompleted episodeId step) :
    p.DependenciesCompleted episodeId step := by
  intro name hname
  obtain ⟨t, ht, hcompleted⟩ := hstep name hname
  obtain ⟨hmem, hkey⟩ := h.byKey_eq_some.mp ht
  obtain ⟨t', ht', hmove⟩ := hp.mem_tasksOf hmem
  obtain rfl := hmove.terminal (by rw [hcompleted]; decide)
  exact ⟨t', (h.evolves hp).byKey_eq_some.mpr ⟨ht', hkey⟩, hcompleted⟩

theorem Fed.evolves (h : o.Keyed) (hp : Evolves o p) {t' : WorkflowTask} (hmove : TaskMove t t')
    (hfed : o.Fed t) : p.Fed t' := by
  intro plan hplan step hstep hkey
  rw [hp.plans, hmove.episodeId] at hplan
  rw [hmove.episodeId]
  exact (hfed plan hplan step hstep (hkey.trans hmove.stepKey)).evolves h hp

theorem Typed.evolves (hp : Evolves o p) {t' : WorkflowTask} (hmove : TaskMove t t')
    {r : WorkflowTaskResult} (h : o.Typed t r) : p.Typed t' r := by
  intro hcompleted plan hplan step hstep hkey
  rw [hp.plans, hmove.episodeId] at hplan
  exact h hcompleted plan hplan step hstep (hkey.trans hmove.stepKey)

theorem WorkflowTaskResult.isTerminal (r : WorkflowTaskResult) : r.fields.status.IsTerminal := by
  have hvalid := r.valid
  simp only [postInit, require_bind_eq_ok] at hvalid
  generalize r.fields.status = status at hvalid
  revert hvalid
  cases status <;> simp [WorkflowTaskStatus.IsTerminal]

theorem Evolves.get?_of_terminal (hp : Evolves o p) {id : ℕ}
    (ht : o.tasks.get? id = some t) (hterminal : t.status.IsTerminal) :
    p.tasks.get? id = some t := by
  obtain ⟨t', ht', hmove⟩ := hp.tasks.move id t ht
  rw [ht', hmove.terminal hterminal]

theorem Base.over_evolves (h : o.Base) (hp : Evolves o p) {id : ℕ} {status : EpisodeStatus}
    (hover : o.Over id status) : p.Over id status := by
  have hback : ∀ t' ∈ p.tasksOf id, t' ∈ o.tasksOf id := by
    intro t' ht'
    obtain ⟨t, ht, hmove⟩ := hp.of_mem_tasksOf ht'
    rw [hmove.terminal (hover.terminal t ht)]
    exact ht
  refine ⟨fun t' ht' => hover.terminal t' (hback t' ht'), fun hstatus => ?_⟩
  obtain ⟨hcompleted, hnot⟩ := hover.completed hstatus
  refine ⟨fun t' ht' => hcompleted t' (hback t' ht'), ?_⟩
  rintro ⟨t, ht, hrole, r, hr, hreject⟩
  obtain ⟨hget, -⟩ := h.keyed.mem_tasksOf.mp (hback t ht)
  -- a completed task has a result, which is still there
  obtain ⟨r', hr'⟩ := h.completed _ t hget (hcompleted t (hback t ht))
  obtain rfl := Option.some.inj ((hp.results _ r' hr').symm.trans hr)
  exact hnot ⟨t, hback t ht, hrole, r', hr', hreject⟩

/-- **Rewriting.** Tasks change by moves and results are added; a task that starts to run or gets a
result has completed dependencies. -/
theorem Base.rewrite (h : o.Base) (hp : Evolves o p) (hepisodes : p.episodes = o.episodes)
    (hcycles : p.cycles = o.cycles)
    (hrun : ∀ id t t', o.tasks.get? id = some t → p.tasks.get? id = some t' →
      t'.status = .RUNNING → t.status = .RUNNING ∨ o.Fed t)
    (hresult : ∀ id r, p.taskResults.get? id = some r → o.taskResults.get? id = some r
      ∨ (r.fields.taskId = id ∧ ∃ t t', o.tasks.get? id = some t ∧ p.tasks.get? id = some t'
        ∧ t'.status = r.fields.status ∧ o.Fed t ∧ o.Typed t r))
    (hcompleted : ∀ id t t', o.tasks.get? id = some t → p.tasks.get? id = some t' →
      t'.status = .COMPLETED → t.status = .COMPLETED ∨ ∃ r, p.taskResults.get? id = some r)
    (hslots : ∀ id plan, o.plans.get? id = some plan →
      (p.running id : ℤ) ≤ plan.fields.cycleBudget.fields.maxParallelTasks) : p.Base := by
  refine ⟨h.keyed.evolves hp, fun id t' ht' hor => ?_, fun id r hr => ?_, fun id t' ht' hstatus => ?_,
    fun id plan hplan => hslots id plan (hp.plans ▸ hplan), fun id e he hover => ?_,
    fun id e c he hc hrunning => ?_, fun id t' r ht' hr => ?_⟩
  · obtain ⟨t, ht, hmove⟩ := hp.tasks.back ht'
    refine Fed.evolves h.keyed hp hmove ?_
    rcases hor with hrunning | ⟨r, hr⟩
    · rcases hrun id t t' ht ht' hrunning with hbefore | hfed
      · exact h.fed id t ht (.inl hbefore)
      · exact hfed
    · rcases hresult id r hr with hbefore | ⟨-, u, u', hu, -, -, hfed, -⟩
      · exact h.fed id t ht (.inr ⟨r, hbefore⟩)
      · obtain rfl := Option.some.inj (ht.symm.trans hu)
        exact hfed
  · rcases hresult id r hr with hbefore | ⟨hid, u, u', -, hu', hstatus, -⟩
    · obtain ⟨hid, t, ht, hstatus⟩ := h.result id r hbefore
      have hterminal : t.status.IsTerminal := by
        rw [hstatus]
        exact WorkflowTaskResult.isTerminal r
      exact ⟨hid, t, hp.get?_of_terminal ht hterminal, hstatus⟩
    · exact ⟨hid, u', hu', hstatus⟩
  · obtain ⟨t, ht, -⟩ := hp.tasks.back ht'
    rcases hcompleted id t t' ht ht' hstatus with hbefore | hafter
    · obtain ⟨r, hr⟩ := h.completed id t ht hbefore
      exact ⟨r, hp.results id r hr⟩
    · exact hafter
  · rw [hepisodes] at he
    exact h.over_evolves hp (h.ended id e he hover)
  · rw [hepisodes] at he
    rw [hcycles] at hc
    exact h.cycle id e c he hc hrunning
  · obtain ⟨t, ht, hmove⟩ := hp.tasks.back ht'
    refine Typed.evolves hp hmove ?_
    rcases hresult id r hr with hbefore | ⟨-, u, u', hu, -, -, -, htyped⟩
    · exact h.typed id t r ht hbefore
    · obtain rfl := Option.some.inj (ht.symm.trans hu)
      exact htyped

theorem running_eq (o : WorkflowOrchestrator κ) (episodeId : ℕ) :
    o.running episodeId = o.tasks.values.countP
      (fun t => decide (t.episodeId = episodeId) && decide (t.status = .RUNNING)) := by
  rw [running, tasksOf, List.countP_filter]
  refine List.countP_congr fun t _ => ?_
  rw [Bool.and_comm]

/-- Running tasks after a rewriting in which some start to run. -/
theorem Evolves.running_le (hp : Evolves o p) (episodeId : ℕ) (fresh : List ℕ)
    (hrun : ∀ id t t', o.tasks.get? id = some t → p.tasks.get? id = some t' →
      t.episodeId = episodeId → t'.status = .RUNNING → t.status = .RUNNING ∨ id ∈ fresh) :
    p.running episodeId ≤ o.running episodeId + fresh.length := by
  rw [running_eq, running_eq]
  refine hp.tasks.countP_le fresh fun id t t' ht ht' hP => ?_
  rw [Bool.and_eq_true, decide_eq_true_iff, decide_eq_true_iff] at hP ⊢
  obtain ⟨t'', ht'', hmove⟩ := hp.tasks.move id t ht
  obtain rfl := Option.some.inj (ht'.symm.trans ht'')
  have hepisode : t.episodeId = episodeId := hmove.episodeId.symm.trans hP.1
  rcases hrun id t t' ht ht' hepisode hP.2 with hbefore | hfresh
  · exact .inl ⟨hepisode, hbefore⟩
  · exact .inr hfresh

theorem Settled.evolves (h : o.Settled episodeId) (hp : Evolves o p)
    (hterminal : ∀ id t t', o.tasks.get? id = some t → p.tasks.get? id = some t' →
      t.episodeId = episodeId → t'.status.IsTerminal → t.status.IsTerminal) :
    p.Settled episodeId := by
  have hback : ∀ e', p.episodes.get? episodeId = some e' → e'.fields.status = .RUNNING →
      ∃ e, o.episodes.get? episodeId = some e ∧ e.fields.status = .RUNNING := by
    intro e' he' hrunning
    obtain ⟨e, he, hmove⟩ := hp.episodes.back he'
    refine ⟨e, he, ?_⟩
    by_contra hover
    rw [hmove.ended hover] at hrunning
    exact hover hrunning
  -- a task that is terminal was the same before
  have hsame : ∀ t' ∈ p.tasksOf episodeId, t'.status.IsTerminal → t' ∈ o.tasksOf episodeId := by
    intro t' ht' hends
    obtain ⟨⟨id, hid⟩, hepisode⟩ := exists_get?_of_mem_tasksOf ht'
    obtain ⟨t, ht, hmove⟩ := hp.tasks.back hid
    have hepisode₀ := hmove.episodeId.symm.trans hepisode
    rw [hmove.terminal (hterminal id t t' ht hid hepisode₀ hends), ← hepisode₀]
    exact mem_tasksOf_of_get? ht
  refine ⟨fun e' he' hrunning => ?_, fun e' he' hrunning hne => ?_⟩
  · obtain ⟨e, he, hbefore⟩ := hback e' he' hrunning
    intro plan hplan step hstep t' ht' hkey hpending u' hu' hdependency hends
    rw [hp.plans] at hplan
    obtain ⟨t, ht, hmove⟩ := hp.of_mem_tasksOf ht'
    exact h.unblocked e he hbefore plan hplan step hstep t ht (hmove.stepKey.symm.trans hkey)
      (hmove.pending hpending) u' (hsame u' hu' hends) hdependency hends
  · obtain ⟨e, he, hbefore⟩ := hback e' he' hrunning
    obtain ⟨t, ht, hopen⟩ := h.isOpen e he hbefore fun hnil => hne (hp.tasksOf_eq_nil_iff.mpr hnil)
    obtain ⟨⟨id, hid⟩, hepisode⟩ := exists_get?_of_mem_tasksOf ht
    obtain ⟨t', ht', hmove⟩ := hp.tasks.move id t hid
    refine ⟨t', ?_, fun hends => hopen (hterminal id t t' hid ht' hepisode hends)⟩
    rw [← hepisode, ← hmove.episodeId]
    exact mem_tasksOf_of_get? ht'

end WorkflowOrchestrator

end FuturesAgentOs
