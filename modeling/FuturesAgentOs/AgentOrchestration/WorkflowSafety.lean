import FuturesAgentOs.AgentOrchestration.WorkflowStarts

namespace FuturesAgentOs

open PyModel

/-!
# Safety of the workflow orchestrator

* `WorkflowOrchestrator.Sound`, `sound_exec` — the promises on tasks, episodes and cycles.
-/

namespace WorkflowOrchestrator

variable {κ : Type} {o p : WorkflowOrchestrator κ}

theorem inv_empty : ({} : WorkflowOrchestrator κ).Inv := by
  have htasks : ∀ episodeId, ({} : WorkflowOrchestrator κ).tasksOf episodeId = [] := fun _ => rfl
  refine ⟨⟨⟨fun _ _ h => ?_, fun _ _ h => ?_, fun _ _ h => ?_, fun _ _ h => ?_, fun _ _ h => ?_,
    fun _ _ _ _ h => ?_, fun _ _ h => ?_⟩, fun _ _ h => ?_, fun _ _ h => ?_, fun _ _ h => ?_,
    fun _ _ h => ?_, fun _ _ h => ?_, fun _ _ _ h => ?_, fun _ _ _ h => ?_⟩, fun _ => ⟨fun _ h => ?_, fun _ h => ?_⟩⟩
    <;> cases h

section

variable [DecidableEq κ] [Hashlib]

theorem Inv.call_spec (h : o.Inv) (c : WorkflowCall κ) : (o.call c).2.Inv ∧ Grows o (o.call c).2 := by
  cases c with
  | startCycle trigger expiresAt => exact h.startCycle_spec trigger expiresAt
  | startEpisode cycleId candidateKey expiresAt =>
    exact h.startEpisode_spec cycleId candidateKey expiresAt
  | acceptDelegationPlan plan => exact h.acceptDelegationPlan_spec plan
  | readyTasks episodeId now =>
    obtain ⟨hinv, hevolves, -⟩ := h.readyTasks_spec episodeId now
    exact ⟨hinv, hevolves.grows⟩
  | claimReadyTasks episodeId now limit =>
    obtain ⟨hinv, hevolves⟩ := h.claimReadyTasks_spec episodeId now limit
    exact ⟨hinv, hevolves.grows⟩
  | completeTask episodeId result now =>
    obtain ⟨hinv, hevolves, -⟩ := h.completeTask_spec episodeId result now
    exact ⟨hinv, hevolves.grows⟩
  | completeCriticTask episodeId taskId completion now =>
    obtain ⟨hinv, hevolves⟩ := h.completeCriticTask_spec episodeId taskId completion now
    exact ⟨hinv, hevolves.grows⟩
  | cancelEpisode episodeId reason now =>
    obtain ⟨hinv, hevolves⟩ := h.cancelEpisode_spec episodeId reason now
    exact ⟨hinv, hevolves.grows⟩
  | recover now =>
    obtain ⟨hinv, hevolves⟩ := h.recover_spec now
    exact ⟨hinv, hevolves.grows⟩

/-- Calls keep the invariant, and of a state what every call keeps. -/
theorem Inv.exec_spec (h : o.Inv) (calls : List (WorkflowCall κ)) :
    ((machine κ).exec o calls).Inv ∧ Grows o ((machine κ).exec o calls) := by
  induction calls generalizing o with
  | nil => exact ⟨h, Grows.refl o⟩
  | cons c rest ih =>
    obtain ⟨hinv, hgrows⟩ := h.call_spec c
    obtain ⟨hinv', hgrows'⟩ := ih hinv
    rw [Machine.exec_cons]
    exact ⟨hinv', hgrows.trans hgrows'⟩

/-- **The invariant**, of every state that calls lead to. -/
theorem inv_exec (calls : List (WorkflowCall κ)) : ((machine κ).exec {} calls).Inv :=
  (inv_empty.exec_spec calls).1

theorem grows_exec (calls more : List (WorkflowCall κ)) :
    Grows ((machine κ).exec {} calls) ((machine κ).exec {} (calls ++ more)) := by
  rw [Machine.exec_append]
  exact ((inv_exec calls).exec_spec more).2

end

/-- **The promises** on tasks, episodes and cycles. -/
structure Sound (o : WorkflowOrchestrator κ) : Prop where
  /-- a task runs or has a result only with its dependencies completed -/
  fed : ∀ id t, o.tasks.get? id = some t →
    t.status = .RUNNING ∨ (∃ r, o.taskResults.get? id = some r) →
      ∃ plan, o.plans.get? t.episodeId = some plan ∧ ∃ step ∈ plan.steps, step.stepKey = t.stepKey
        ∧ ∀ name ∈ step.dependsOn, ∃ u ∈ o.tasksOf t.episodeId,
          u.stepKey = name ∧ u.status = .COMPLETED
  /-- no more tasks run than the plan allows -/
  slots : ∀ episodeId plan, o.plans.get? episodeId = some plan →
    ((o.tasksOf episodeId).countP (fun t => t.status = .RUNNING) : ℤ)
      ≤ plan.fields.cycleBudget.fields.maxParallelTasks
  /-- no pending task of a running episode has a dependency that ended otherwise -/
  unblocked : ∀ episodeId e, o.episodes.get? episodeId = some e → e.fields.status = .RUNNING →
    ∀ plan, o.plans.get? episodeId = some plan → ∀ step ∈ plan.steps,
      ∀ t ∈ o.tasksOf episodeId, t.stepKey = step.stepKey → t.status = .PENDING →
        ∀ u ∈ o.tasksOf episodeId, u.stepKey ∈ step.dependsOn → u.status.IsTerminal →
          u.status = .COMPLETED
  /-- the tasks of an episode that is over are terminal -/
  terminal : ∀ episodeId e, o.episodes.get? episodeId = some e → e.fields.status ≠ .RUNNING →
    ∀ t ∈ o.tasksOf episodeId, t.status.IsTerminal
  /-- the tasks of a completed episode are completed, and no critic rejected -/
  completed : ∀ episodeId e, o.episodes.get? episodeId = some e → e.fields.status = .COMPLETED →
    (∀ t ∈ o.tasksOf episodeId, t.status = .COMPLETED) ∧ ¬ o.CriticRejected episodeId
  /-- a cycle that is over has no running episode -/
  cycle : ∀ episodeId e c, o.episodes.get? episodeId = some e →
    o.cycles.get? e.fields.cycleId = some c → c.fields.status ≠ .RUNNING →
      e.fields.status ≠ .RUNNING

theorem Inv.sound (h : o.Inv) : o.Sound where
  fed id t ht hor := by
    obtain ⟨plan, hplan, step, hstep, hkey, -⟩ := h.base.keyed.owner id t ht
    refine ⟨plan, hplan, step, hstep, hkey, fun name hname => ?_⟩
    obtain ⟨u, hu, hcompleted⟩ := h.base.fed id t ht hor plan hplan step hstep hkey name hname
    obtain ⟨hmem, hname'⟩ := h.base.keyed.byKey_eq_some.mp hu
    exact ⟨u, hmem, hname', hcompleted⟩
  slots := h.base.slots
  unblocked episodeId := (h.settled episodeId).unblocked
  terminal episodeId e he hover := (h.base.ended episodeId e he hover).terminal
  completed episodeId e he hcompleted :=
    (h.base.ended episodeId e he (by rw [hcompleted]; decide)).completed hcompleted
  cycle episodeId e c he hc hover hruns := hover (h.base.cycle episodeId e c he hc hruns)

/-- **Safety.** After any calls, at any times, the promises hold, and a terminal task never
changes. -/
theorem sound_exec [DecidableEq κ] [Hashlib] (calls : List (WorkflowCall κ)) :
    ((machine κ).exec {} calls).Sound
      ∧ ∀ more id t, ((machine κ).exec {} calls).tasks.get? id = some t → t.status.IsTerminal →
        ((machine κ).exec {} (calls ++ more)).tasks.get? id = some t := by
  refine ⟨(inv_exec calls).sound, fun more id t ht hterminal => ?_⟩
  obtain ⟨t', ht', hmove⟩ := (grows_exec calls more).tasks id t ht
  rw [ht', hmove.terminal hterminal]

end WorkflowOrchestrator

end FuturesAgentOs
