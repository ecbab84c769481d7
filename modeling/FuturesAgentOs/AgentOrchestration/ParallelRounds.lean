import FuturesAgentOs.AgentOrchestration.StructuredParallel

namespace FuturesAgentOs

open PyModel

/-!
# Rounds of the orchestrator

What one round of the loop records (`get?_round`), and what follows for a whole run:

* `run_returns` — a run with one worker per task returns the executions of all tasks.
-/

namespace CollaborationPlan

theorem taskKey_inj {plan : CollaborationPlan} {s t : CollaborationTask} (hs : s ∈ plan.tasks)
    (ht : t ∈ plan.tasks) (h : s.taskKey = t.taskKey) : s = t :=
  List.inj_on_of_nodup_map plan.keys_facts.1 hs ht h

end CollaborationPlan

namespace Collaboration

variable {plan : CollaborationPlan} {workers : Workers} {c : Collaboration}

/-- One turn of the loop. -/
def round (plan : CollaborationPlan) (workers : Workers) (c : Collaboration) : Collaboration :=
  c.skipBlocked.runReady plan workers

/-- A task is pending until it has an execution, which is its own. -/
structure Progress (plan : CollaborationPlan) (workers : Workers) (c : Collaboration) : Prop where
  sublist : c.pending.Sublist plan.tasks
  pending_iff : ∀ task ∈ plan.tasks,
    task ∈ c.pending ↔ c.executions.get? task.taskKey = none
  recorded : ∀ key e, c.executions.get? key = some e → ∃ task ∈ plan.tasks,
    task.taskKey = key
      ∧ (e = skippedExecution task ∨ e = (workers.run task.taskKey).execution plan task)

theorem progress_start : Progress plan workers (start plan) where
  sublist := List.Sublist.refl _
  pending_iff := fun task htask => by simp [start, htask]
  recorded := fun key e h => by simp [start] at h

variable {task : CollaborationTask}

private theorem get?_update_filter {P : CollaborationTask → Prop} [DecidablePred P]
    {f : CollaborationTask → TaskExecution} {l : List CollaborationTask}
    (d : Dict Text TaskExecution) (hl : l.Sublist plan.tasks) (htask : task ∈ plan.tasks) :
    (d.update ((l.filter (fun t => P t)).map (fun t => (t.taskKey, f t)))).get? task.taskKey
      = if task ∈ l ∧ P task then some (f task) else d.get? task.taskKey := by
  have hkeys : ((l.filter (fun t => P t)).map (fun t => (t.taskKey, f t))).map Prod.fst
      = (l.filter (fun t => P t)).map CollaborationTask.taskKey := by
    rw [List.map_map]
    rfl
  by_cases h : task ∈ l ∧ P task
  · have hmem : (task.taskKey, f task)
        ∈ (l.filter (fun t => P t)).map (fun t => (t.taskKey, f t)) :=
      List.mem_map.mpr ⟨task, List.mem_filter.mpr ⟨h.1, decide_eq_true h.2⟩, rfl⟩
    rw [if_pos h]
    refine d.get?_update_of_mem ?_ hmem
    rw [hkeys]
    exact plan.keys_facts.1.sublist ((List.filter_sublist.trans hl).map _)
  · rw [if_neg h]
    apply Dict.get?_update_of_not_mem
    rw [hkeys]
    intro hmem
    obtain ⟨other, hother, hkey⟩ := List.mem_map.mp hmem
    obtain ⟨hin, hP⟩ := List.mem_filter.mp hother
    obtain rfl : other = task := CollaborationPlan.taskKey_inj (hl.subset hin) htask hkey
    exact h ⟨hin, of_decide_eq_true hP⟩

private theorem get?_update_of_not_key {P : CollaborationTask → Prop} [DecidablePred P]
    {f : CollaborationTask → TaskExecution} {l : List CollaborationTask}
    (d : Dict Text TaskExecution) (hl : l.Sublist plan.tasks) {key : Text}
    (hkey : key ∉ plan.fields.keys) :
    (d.update ((l.filter (fun t => P t)).map (fun t => (t.taskKey, f t)))).get? key
      = d.get? key := by
  apply Dict.get?_update_of_not_mem
  intro hmem
  rw [List.map_map] at hmem
  obtain ⟨task, htask, rfl⟩ := List.mem_map.mp hmem
  exact hkey (List.mem_map_of_mem (hl.subset (List.mem_of_mem_filter htask)))

private theorem Progress.update {P : CollaborationTask → Prop} [DecidablePred P]
    {f : CollaborationTask → TaskExecution} (h : Progress plan workers c)
    (hf : ∀ task, f task = skippedExecution task
      ∨ f task = (workers.run task.taskKey).execution plan task) (rounds : ℕ)
    (called : List Text) :
    Progress plan workers
      ⟨c.executions.update ((c.pending.filter (fun t => P t)).map (fun t => (t.taskKey, f t))),
        c.pending.filter (fun t => ¬ P t), rounds, called⟩ where
  sublist := List.filter_sublist.trans h.sublist
  pending_iff := by
    intro task htask
    rw [get?_update_filter c.executions h.sublist htask, List.mem_filter, decide_eq_true_iff]
    by_cases hP : task ∈ c.pending ∧ P task
    · rw [if_pos hP]
      exact ⟨fun hmem => absurd hP.2 hmem.2, fun hnone => by cases hnone⟩
    · rw [if_neg hP, ← h.pending_iff task htask]
      exact ⟨fun hmem => hmem.1, fun hmem => ⟨hmem, fun hPt => hP ⟨hmem, hPt⟩⟩⟩
  recorded := by
    intro key e hget
    by_cases hkey : key ∈ plan.fields.keys
    · obtain ⟨task, htask, rfl⟩ := List.mem_map.mp hkey
      rw [get?_update_filter c.executions h.sublist htask] at hget
      by_cases hP : task ∈ c.pending ∧ P task
      · rw [if_pos hP, Option.some.injEq] at hget
        exact ⟨task, htask, rfl, hget ▸ hf task⟩
      · rw [if_neg hP] at hget
        exact h.recorded _ _ hget
    · rw [get?_update_of_not_key c.executions h.sublist hkey] at hget
      exact h.recorded _ _ hget

theorem Progress.skipBlocked (h : Progress plan workers c) :
    Progress plan workers c.skipBlocked :=
  h.update (fun _ => Or.inl rfl) (c.rounds + 1) c.called

theorem Progress.runReady (h : Progress plan workers c) :
    Progress plan workers (c.runReady plan workers) :=
  h.update (fun _ => Or.inr rfl) c.rounds _

theorem Progress.round (h : Progress plan workers c) :
    Progress plan workers (round plan workers c) :=
  h.skipBlocked.runReady

/-- What the first half of a round records for a task. -/
theorem get?_skipBlocked (h : Progress plan workers c) (htask : task ∈ plan.tasks) :
    c.skipBlocked.executions.get? task.taskKey
      = if task ∈ c.pending ∧ c.IsBlocked task then some (skippedExecution task)
        else c.executions.get? task.taskKey :=
  get?_update_filter c.executions h.sublist htask

/-- What the second half of a round records for a task. -/
theorem get?_runReady (h : Progress plan workers c) (htask : task ∈ plan.tasks) :
    (c.runReady plan workers).executions.get? task.taskKey
      = if task ∈ c.pending ∧ c.IsReady task then
          some ((workers.run task.taskKey).execution plan task)
        else c.executions.get? task.taskKey :=
  get?_update_filter c.executions h.sublist htask

/-- An execution that is recorded stays. -/
theorem Progress.get?_round (h : Progress plan workers c)
    {e : TaskExecution} (htask : task ∈ plan.tasks)
    (hget : c.executions.get? task.taskKey = some e) :
    (Collaboration.round plan workers c).executions.get? task.taskKey = some e := by
  have hfirst : c.skipBlocked.executions.get? task.taskKey
      = some e := by
    rw [get?_skipBlocked h htask, if_neg]
    · exact hget
    · rintro ⟨hpending, -⟩
      rw [(h.pending_iff task htask).mp hpending] at hget
      cases hget
  rw [Collaboration.round, get?_runReady h.skipBlocked htask, if_neg]
  · exact hfirst
  · rintro ⟨hpending, -⟩
    rw [(h.skipBlocked.pending_iff task htask).mp hpending] at hfirst
    cases hfirst

/-- A round without ready tasks only skips. -/
theorem runReady_of_nil (h : c.ready = []) : c.runReady plan workers = c := by
  have hpending : c.pending.filter (fun task => ¬ c.IsReady task) = c.pending := by
    rw [List.filter_eq_self]
    intro task htask
    have := List.filter_eq_nil_iff.mp h task htask
    simpa using this
  simp only [Collaboration.runReady, h, hpending]
  simp

/-! ### The loop -/

theorem loop_nil (left : ℕ) (h : c.pending = []) : loop plan workers left c = (.ok (), c) := by
  cases left <;> rw [loop, if_pos h]

/-- One turn of the loop, taken when something is ready or nothing is left. -/
theorem loop_succ {left : ℕ} (h : c.pending ≠ [])
    (hready : (round plan workers c).pending = []
      ∨ c.skipBlocked.ready ≠ []) :
    loop plan workers (left + 1) c = loop plan workers left (round plan workers c) := by
  rw [loop, if_neg h]
  by_cases hnil : c.skipBlocked.ready = []
  · have hround : round plan workers c = c.skipBlocked :=
      runReady_of_nil hnil
    rcases hready with hempty | hready
    · rw [loop_nil left hempty, hround]
      rw [hround] at hempty
      simp only [hnil, hempty, if_true]
    · exact absurd hnil hready
  · simp only [hnil, if_false]
    rfl

/-- The tasks of the first `r` layers have executions. -/
def Reached (plan : CollaborationPlan) (r : ℕ) (c : Collaboration) : Prop :=
  ∀ task ∈ plan.tasks, plan.depth task.taskKey ≤ r → task ∉ c.pending

theorem Progress.hasExecution (h : Progress plan workers c)
    (htask : task ∈ plan.tasks) (hdone : task ∉ c.pending) : c.HasExecution task.taskKey := by
  rw [h.pending_iff task htask] at hdone
  exact Option.isSome_iff_ne_none.mpr hdone

/-- Among the tasks that are left after the blocked ones are skipped, those of least depth are
ready. -/
theorem Progress.isReady_of_least (h : Progress plan workers c) (htask : task ∈ plan.tasks)
    (hleast : ∀ other ∈ c.pending, plan.depth task.taskKey ≤ plan.depth other.taskKey) :
    c.IsReady task := by
  intro dependency hdependency
  have hkey := plan.keys_facts.2 task htask dependency hdependency
  obtain ⟨other, hother, rfl⟩ := List.mem_map.mp hkey
  have hlt := plan.layers.depth_lt task.taskKey (List.mem_map_of_mem htask) other.taskKey
    (by simpa [CollaborationPlan.layers, CollaborationPlan.dependenciesOf_taskKey htask]
      using hdependency)
  refine h.hasExecution hother fun hpending => ?_
  have := hleast other hpending
  have hlt : plan.depth other.taskKey < plan.depth task.taskKey := hlt
  omega

/-- Something is ready as long as something is left. -/
theorem Progress.ready_ne_nil (h : Progress plan workers c) (hne : c.pending ≠ []) :
    c.ready ≠ [] := by
  obtain ⟨first, hfirst⟩ := List.exists_mem_of_ne_nil _ hne
  obtain ⟨key, ⟨task, htask, hkey⟩, hleast⟩ :=
    plan.layers.exists_least_depth (P := fun key => ∃ task ∈ c.pending, task.taskKey = key)
      ⟨_, first, hfirst, rfl⟩
  have hready := h.isReady_of_least (h.sublist.subset htask)
    (fun other hother => hkey ▸ hleast _ ⟨other, hother, rfl⟩)
  exact List.ne_nil_of_mem (List.mem_filter.mpr ⟨htask, decide_eq_true hready⟩)

theorem Progress.reached_succ {r : ℕ} (h : Progress plan workers c) (hr : Reached plan r c) :
    Reached plan (r + 1) (Collaboration.round plan workers c) := by
  intro task htask hdepth hpending
  have hsecond := (List.mem_filter.mp hpending)
  refine (of_decide_eq_true hsecond.2) (h.skipBlocked.isReady_of_least htask ?_)
  intro other hother
  have hin : other ∈ c.pending := List.mem_of_mem_filter hother
  have hnot := mt (hr other (h.sublist.subset hin)) (not_not.mpr hin)
  omega

/-- **The loop ends** with nothing pending, and in a state that every round leads to. -/
theorem loop_ends {I : Collaboration → Prop}
    (hstep : ∀ c, Progress plan workers c → c.pending ≠ [] → I c → I (round plan workers c))
    (left : ℕ) :
    ∀ (r : ℕ) (c : Collaboration), Progress plan workers c → Reached plan r c → I c →
      (∀ task ∈ plan.tasks, plan.depth task.taskKey ≤ r + left) →
      ∃ c', loop plan workers left c = (.ok (), c') ∧ Progress plan workers c'
        ∧ c'.pending = [] ∧ I c' := by
  induction left with
  | zero =>
    intro r c h hr hI hdepth
    have hnil : c.pending = [] := by
      refine List.eq_nil_iff_forall_not_mem.mpr fun task htask => ?_
      have hin := h.sublist.subset htask
      exact hr task hin (by simpa using hdepth task hin) htask
    exact ⟨c, loop_nil 0 hnil, h, hnil, hI⟩
  | succ left ih =>
    intro r c h hr hI hdepth
    by_cases hnil : c.pending = []
    · exact ⟨c, loop_nil _ hnil, h, hnil, hI⟩
    have hturn : (round plan workers c).pending = []
        ∨ c.skipBlocked.ready ≠ [] := by
      by_cases hleft : c.skipBlocked.pending = []
      · refine Or.inl (List.eq_nil_iff_forall_not_mem.mpr fun task htask => ?_)
        have hin : task ∈ c.skipBlocked.pending :=
          List.mem_of_mem_filter htask
        rw [hleft] at hin
        cases hin
      · exact Or.inr (h.skipBlocked.ready_ne_nil hleft)
    rw [loop_succ hnil hturn]
    refine ih (r + 1) _ h.round (h.reached_succ hr) (hstep c h hnil hI) fun task htask => ?_
    have := hdepth task htask
    omega

end Collaboration

/-! ### The run -/

theorem WorkerRun.usage_le (run : WorkerRun) (plan : CollaborationPlan)
    (task : CollaborationTask) :
    (run.execution plan task).usage.tokens ≤ task.fields.limits.fields.maxTokens
      ∧ (run.execution plan task).usage.toolCalls ≤ task.fields.limits.fields.maxToolCalls
      ∧ (run.execution plan task).usage.computeUnits
          ≤ task.fields.limits.fields.maxComputeUnits := by
  have hmeter : ∀ calls : List TaskConsumption,
      ((TaskBudgetMeter.new task.fields.limits).consumeAll calls).tokens
          ≤ task.fields.limits.fields.maxTokens
        ∧ ((TaskBudgetMeter.new task.fields.limits).consumeAll calls).tools
            ≤ task.fields.limits.fields.maxToolCalls
        ∧ ((TaskBudgetMeter.new task.fields.limits).consumeAll calls).compute
            ≤ task.fields.limits.fields.maxComputeUnits := by
    intro calls
    obtain ⟨hwithin, hlimits⟩ := TaskBudgetMeter.withinLimits_consumeAll calls
      (TaskBudgetMeter.withinLimits_new task.fields.limits)
    rw [TaskBudgetMeter.WithinLimits, hlimits] at hwithin
    exact hwithin
  rcases run with ⟨calls, e | output, cancelled, elapsed⟩ | ⟨started, calls, elapsed⟩
  · rcases e with message | message | ⟨typeName, message⟩
    · exact hmeter calls
    · exact hmeter calls
    · exact hmeter calls
  · simp only [execution]
    split
    · exact hmeter calls
    · split
      · exact hmeter calls
      · exact hmeter calls
  · exact hmeter calls

@[simp] theorem WorkerRun.execution_task (run : WorkerRun) (plan : CollaborationPlan)
    (task : CollaborationTask) : (run.execution plan task).task = task := by
  rcases run with ⟨calls, e | output, cancelled, elapsed⟩ | ⟨started, calls, elapsed⟩
  · rcases e with message | message | ⟨typeName, message⟩ <;> rfl
  · simp only [execution]
    split
    · rfl
    · split <;> rfl
  · rfl

namespace StructuredParallelOrchestrator

variable {plan : CollaborationPlan} {workers : Workers}

private theorem exists_ordered {executions : Dict Text TaskExecution}
    {tasks : List CollaborationTask}
    (h : ∀ task ∈ tasks, ∃ e, executions.get? task.taskKey = some e
      ∧ e.usage.tokens ≤ task.fields.limits.fields.maxTokens
      ∧ e.usage.toolCalls ≤ task.fields.limits.fields.maxToolCalls
      ∧ e.usage.computeUnits ≤ task.fields.limits.fields.maxComputeUnits) :
    ∃ ordered, tasks.mapM (fun task => executions.get? task.taskKey) = some ordered
      ∧ (ordered.map (fun item => item.usage.tokens)).sum
          ≤ (tasks.map (fun task => task.fields.limits.fields.maxTokens)).sum
      ∧ (ordered.map (fun item => item.usage.toolCalls)).sum
          ≤ (tasks.map (fun task => task.fields.limits.fields.maxToolCalls)).sum
      ∧ (ordered.map (fun item => item.usage.computeUnits)).sum
          ≤ (tasks.map (fun task => task.fields.limits.fields.maxComputeUnits)).sum := by
  induction tasks with
  | nil => exact ⟨[], rfl, le_refl _, le_refl _, le_refl _⟩
  | cons task tasks ih =>
    rw [List.forall_mem_cons] at h
    obtain ⟨⟨e, hget, htokens, htools, hcompute⟩, hrest⟩ := h
    obtain ⟨ordered, hordered, hsums⟩ := ih hrest
    refine ⟨e :: ordered, ?_, ?_⟩
    · rw [List.mapM_cons, hget, hordered]
      rfl
    · simp only [List.map_cons, List.sum_cons]
      exact ⟨by omega, by omega, by omega⟩

theorem map_task_of_mapM {executions : Dict Text TaskExecution}
    {tasks : List CollaborationTask} {ordered : List TaskExecution}
    (howner : ∀ task ∈ tasks, ∀ e, executions.get? task.taskKey = some e → e.task = task)
    (h : tasks.mapM (fun task => executions.get? task.taskKey) = some ordered) :
    ordered.map TaskExecution.task = tasks := by
  induction tasks generalizing ordered with
  | nil =>
    obtain rfl : [] = ordered := Option.some.inj h
    rfl
  | cons task tasks ih =>
    rw [List.forall_mem_cons] at howner
    rw [List.mapM_cons] at h
    obtain ⟨first, hfirst, h⟩ := Option.bind_eq_some_iff.mp h
    obtain ⟨rest, hrest, h⟩ := Option.bind_eq_some_iff.mp h
    obtain rfl : first :: rest = ordered := Option.some.inj h
    rw [List.map_cons, howner.1 first hfirst, ih howner.2 hrest]

theorem execution_owner {c : Collaboration} (h : c.Progress plan workers) {task : CollaborationTask}
    (htask : task ∈ plan.tasks) {e : TaskExecution}
    (hget : c.executions.get? task.taskKey = some e) : e.task = task := by
  obtain ⟨owner, howner, hkey, he⟩ := h.recorded _ _ hget
  obtain rfl := CollaborationPlan.taskKey_inj howner htask hkey
  rcases he with rfl | rfl
  · rfl
  · exact WorkerRun.execution_task _ plan owner

/-- **A run with one worker per task returns**, and its result lists what was recorded. -/
theorem run_returns (elapsed : ℕ) {I : Collaboration → Prop}
    (hmatch : MatchesTasks plan workers)
    (hstep : ∀ c, Collaboration.Progress plan workers c → c.pending ≠ [] → I c →
      I (Collaboration.round plan workers c)) (hstart : I (.start plan)) :
    ∃ result c, run plan workers elapsed = (.ok result, c) ∧ I c
      ∧ c.Progress plan workers ∧ c.pending = []
      ∧ plan.tasks.mapM (fun task => c.executions.get? task.taskKey) = some result.executions := by
  obtain ⟨c, hloop, hprogress, hnil, hI⟩ :=
    Collaboration.loop_ends hstep plan.fields.budget.fields.maxRounds.toNat 0 (.start plan)
      Collaboration.progress_start
      (fun task htask hdepth => by
        have := plan.layers.depth_pos task.taskKey (List.mem_map_of_mem htask)
        have : 0 < plan.depth task.taskKey := this
        omega)
      hstart
      (fun task htask => by
        have := CollaborationPlan.depth_le_maxRounds htask
        omega)
  have hall : ∀ task ∈ plan.tasks, ∃ e, c.executions.get? task.taskKey = some e
      ∧ e.usage.tokens ≤ task.fields.limits.fields.maxTokens
      ∧ e.usage.toolCalls ≤ task.fields.limits.fields.maxToolCalls
      ∧ e.usage.computeUnits ≤ task.fields.limits.fields.maxComputeUnits := by
    intro task htask
    rcases hget : c.executions.get? task.taskKey with _ | e
    · have := (hprogress.pending_iff task htask).mpr hget
      rw [hnil] at this
      cases this
    · refine ⟨e, rfl, ?_⟩
      obtain ⟨owner, howner, hkey, he⟩ := hprogress.recorded _ _ hget
      obtain rfl := CollaborationPlan.taskKey_inj howner htask hkey
      have hlimits := require_eq_ok.mp owner.fields.limits.valid
      rcases he with rfl | rfl
      · have htokens := hlimits.1 owner.fields.limits.fields.maxTokens (by simp)
        have hcompute := hlimits.1 owner.fields.limits.fields.maxComputeUnits (by simp)
        exact ⟨le_of_lt htokens, hlimits.2, le_of_lt hcompute⟩
      · exact WorkerRun.usage_le _ plan owner
  obtain ⟨ordered, hordered, htokens, htools, hcompute⟩ := exists_ordered hall
  have hplan := plan.valid
  simp only [postInit, CollaborationPlanFields.postInit, require_bind_eq_ok] at hplan
  obtain ⟨-, -, -, -, -, -, hmaxTokens, hmaxTools, hmaxCompute, -⟩ := hplan
  have hwithin : ¬ (plan.fields.budget.fields.maxTokens < (totalUsage plan ordered elapsed).tokens
      ∨ plan.fields.budget.fields.maxToolCalls < (totalUsage plan ordered elapsed).toolCalls
      ∨ plan.fields.budget.fields.maxComputeUnits
          < (totalUsage plan ordered elapsed).computeUnits
      ∨ plan.fields.budget.fields.maxWallMillis
          < (totalUsage plan ordered elapsed).wallMillis) := by
    rintro (h | h | h | h)
    · exact absurd (htokens.trans hmaxTokens) (not_le.mpr h)
    · exact absurd (htools.trans hmaxTools) (not_le.mpr h)
    · exact absurd (hcompute.trans hmaxCompute) (not_le.mpr h)
    · exact absurd (min_le_left _ _) (not_le.mpr h)
  refine ⟨⟨ordered, conflicts plan ordered, c.rounds, totalUsage plan ordered elapsed⟩, c, ?_, hI,
    hprogress, hnil, hordered⟩
  rw [run, if_neg (not_not.mpr hmatch)]
  simp only [hloop, hordered, if_neg hwithin]

end StructuredParallelOrchestrator

end FuturesAgentOs
