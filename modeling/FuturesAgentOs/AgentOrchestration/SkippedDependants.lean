import FuturesAgentOs.AgentOrchestration.ParallelRounds

namespace FuturesAgentOs

open PyModel

/-!
# What depends on a failed task

A round first skips the tasks that depend on an unusable execution and then runs every task
whose dependencies all have executions, the ones skipped a moment ago among them.  So a task is
run although its dependencies were skipped when all those of the layer just below were skipped
together (`Layers.IsOvertaken`), and only then (`respectsDependencies_iff`).
-/

namespace StructuredParallelOrchestrator

variable {plan : CollaborationPlan} {workers : Workers}

/-- The worker of the task, when it is called, does not finish with a usable output. -/
def FailsAlone (plan : CollaborationPlan) (workers : Workers) (key : Text) : Prop :=
  ∃ task ∈ plan.tasks, task.taskKey = key
    ∧ ¬ ((workers.run task.taskKey).execution plan task).status.IsUsable

/-- The result reports something else than a usable output for a key. -/
def IsUnusable (result : FanInResult) (key : Text) : Prop :=
  ∃ e ∈ result.executions, e.task.taskKey = key ∧ ¬ e.status.IsUsable

/-- A worker was called only after all dependencies of its task finished with a usable output,
and a task with an unusable dependency, direct or transitive, ended skipped, with no output. -/
structure RespectsDependencies (plan : CollaborationPlan) (called : List Text)
    (result : FanInResult) : Prop where
  calls : ∀ task ∈ plan.tasks, task.taskKey ∈ called → ∀ dependency ∈ task.dependencies,
    ∃ e ∈ result.executions, e.task.taskKey = dependency ∧ e.status.IsUsable
  skips : ∀ e ∈ result.executions, plan.layers.IsSkipped (IsUnusable result) e.task.taskKey →
    e.status = .skipped ∧ e.output = none

theorem execution_status_ne_skipped (run : WorkerRun) (task : CollaborationTask) :
    (run.execution plan task).status ≠ .skipped := by
  rcases run with ⟨calls, e | output, cancelled, elapsed⟩ | ⟨started, calls, elapsed⟩
  · rcases e with message | message | ⟨typeName, message⟩
    all_goals exact ParallelTaskStatus.noConfusion
  · simp only [WorkerRun.execution]
    split
    · exact ParallelTaskStatus.noConfusion
    · split
      · exact ParallelTaskStatus.noConfusion
      · have hvalid := output.valid
        simp only [postInit, SpecialistOutputFields.postInit, require_bind_eq_ok] at hvalid
        intro hskipped
        have hskipped : output.fields.status = .skipped := hskipped
        rw [hskipped] at hvalid
        exact absurd hvalid.2.1 (by decide)
  · exact ParallelTaskStatus.noConfusion

/-! ### The run as the layers have it -/

section

variable (plan workers)

/-- The first `r` layers are executed as they should be, and nothing behind them. -/
structure InStep (r : ℕ) (c : Collaboration) : Prop where
  skipped : ∀ task ∈ plan.tasks, plan.depth task.taskKey ≤ r →
    plan.layers.IsSkipped (FailsAlone plan workers) task.taskKey →
    c.executions.get? task.taskKey = some (Collaboration.skippedExecution task)
  run : ∀ task ∈ plan.tasks, plan.depth task.taskKey ≤ r →
    ¬ plan.layers.IsSkipped (FailsAlone plan workers) task.taskKey →
    c.executions.get? task.taskKey = some ((workers.run task.taskKey).execution plan task)
  behind : ∀ task ∈ plan.tasks, r < plan.depth task.taskKey →
    c.executions.get? task.taskKey = none
  called : ∀ key ∈ c.called, ¬ plan.layers.IsSkipped (FailsAlone plan workers) key

end

theorem inStep_start : InStep plan workers 0 (.start plan) where
  skipped := fun task htask hdepth => by
    have : 0 < plan.depth task.taskKey :=
      plan.layers.depth_pos task.taskKey (List.mem_map_of_mem htask)
    omega
  run := fun task htask hdepth => by
    have : 0 < plan.depth task.taskKey :=
      plan.layers.depth_pos task.taskKey (List.mem_map_of_mem htask)
    omega
  behind := fun _ _ _ => rfl
  called := fun key hkey => by cases hkey

variable {r : ℕ} {c : Collaboration}

variable {task : CollaborationTask}

/-- A key of the first layers has an execution, and a key behind them has none. -/
theorem InStep.hasExecution_iff (h : InStep plan workers r c) (htask : task ∈ plan.tasks) :
    c.HasExecution task.taskKey ↔ plan.depth task.taskKey ≤ r := by
  by_cases hdepth : plan.depth task.taskKey ≤ r
  · refine ⟨fun _ => hdepth, fun _ => ?_⟩
    by_cases hskip : plan.layers.IsSkipped (FailsAlone plan workers) task.taskKey
    · rw [Collaboration.HasExecution, h.skipped task htask hdepth hskip]
      rfl
    · rw [Collaboration.HasExecution, h.run task htask hdepth hskip]
      rfl
  · refine ⟨fun hget => ?_, fun hle => absurd hle hdepth⟩
    rw [Collaboration.HasExecution, h.behind task htask (by omega)] at hget
    cases hget

theorem InStep.isUsable_iff (h : InStep plan workers r c)
    (htask : task ∈ plan.tasks) (hdepth : plan.depth task.taskKey ≤ r) :
    c.IsUsable task.taskKey ↔ ¬ (FailsAlone plan workers task.taskKey
      ∨ plan.layers.IsSkipped (FailsAlone plan workers) task.taskKey) := by
  by_cases hskip : plan.layers.IsSkipped (FailsAlone plan workers) task.taskKey
  · rw [Collaboration.IsUsable, h.skipped task htask hdepth hskip]
    refine ⟨?_, fun hnot => absurd (Or.inr hskip) hnot⟩
    rintro ⟨e, he, husable⟩
    rw [← Option.some.inj he] at husable
    exact absurd husable (show ¬ ParallelTaskStatus.skipped.IsUsable by decide)
  · rw [Collaboration.IsUsable, h.run task htask hdepth hskip]
    simp only [Option.mem_some_iff, exists_eq_left', hskip, or_false, FailsAlone]
    constructor
    · rintro husable ⟨other, hother, hkey, hbad⟩
      obtain rfl := CollaborationPlan.taskKey_inj hother htask hkey
      exact hbad husable
    · intro hnot
      by_contra hbad
      exact hnot ⟨task, htask, rfl, hbad⟩

private theorem exists_dependency (htask : task ∈ plan.tasks)
    {dependency : Text} (h : dependency ∈ task.dependencies) :
    ∃ other ∈ plan.tasks, other.taskKey = dependency
      ∧ plan.depth dependency < plan.depth task.taskKey := by
  obtain ⟨other, hother, hkey⟩ :=
    List.mem_map.mp (plan.keys_facts.2 task htask dependency h)
  refine ⟨other, hother, hkey, plan.layers.depth_lt _ (List.mem_map_of_mem htask) _ ?_⟩
  show dependency ∈ plan.dependenciesOf task.taskKey
  rwa [CollaborationPlan.dependenciesOf_taskKey htask]

theorem InStep.isBlocked_iff (h : InStep plan workers r c) (hprogress : c.Progress plan workers) (htask : task ∈ plan.tasks) :
    task ∈ c.pending ∧ c.IsBlocked task
      ↔ plan.depth task.taskKey = r + 1
        ∧ plan.layers.IsSkipped (FailsAlone plan workers) task.taskKey := by
  have hdeps : plan.layers.deps task.taskKey = task.dependencies :=
    CollaborationPlan.dependenciesOf_taskKey htask
  have hkey : task.taskKey ∈ plan.layers.keys := List.mem_map_of_mem htask
  have hpending : task ∈ c.pending ↔ r < plan.depth task.taskKey := by
    rw [hprogress.pending_iff task htask, ← Option.not_isSome_iff_eq_none]
    exact (not_congr (h.hasExecution_iff htask)).trans not_le
  have hall : (∀ dependency ∈ task.dependencies, c.HasExecution dependency)
      ↔ ∀ dependency ∈ task.dependencies, plan.depth dependency ≤ r := by
    refine forall₂_congr fun dependency hdependency => ?_
    obtain ⟨other, hother, rfl, -⟩ := exists_dependency htask hdependency
    exact h.hasExecution_iff hother
  constructor
  · rintro ⟨hin, hne, hexec, dependency, hdependency, hbad⟩
    have hbelow := hall.mp hexec
    have hdepth : plan.depth task.taskKey ≤ r + 1 :=
      Layers.depth_le_succ hkey (fun d hd => hbelow d (hdeps ▸ hd))
    refine ⟨by have := hpending.mp hin; omega, ?_⟩
    obtain ⟨other, hother, rfl, -⟩ := exists_dependency htask hdependency
    rw [h.isUsable_iff hother (hbelow _ hdependency), not_not] at hbad
    exact Layers.isSkipped_iff.mpr ⟨hkey, _, hdeps.symm ▸ hdependency, hbad⟩
  · rintro ⟨hdepth, hskip⟩
    obtain ⟨-, dependency, hdependency, hbad⟩ := Layers.isSkipped_iff.mp hskip
    have hdependency : dependency ∈ task.dependencies := hdeps ▸ hdependency
    have hbelow : ∀ d ∈ task.dependencies, plan.depth d ≤ r := by
      intro d hd
      obtain ⟨-, -, -, hlt⟩ := exists_dependency htask hd
      omega
    refine ⟨hpending.mpr (by omega), List.ne_nil_of_mem hdependency, hall.mpr hbelow, dependency,
      hdependency, ?_⟩
    obtain ⟨other, hother, rfl, -⟩ := exists_dependency htask hdependency
    rw [h.isUsable_iff hother (hbelow _ hdependency), not_not]
    exact hbad

/-- The executions after the first half of the round. -/
theorem InStep.hasExecution_skipBlocked_iff (h : InStep plan workers r c)
    (hprogress : c.Progress plan workers) (htask : task ∈ plan.tasks) :
    c.skipBlocked.HasExecution task.taskKey
      ↔ plan.depth task.taskKey ≤ r ∨ plan.depth task.taskKey = r + 1
        ∧ plan.layers.IsSkipped (FailsAlone plan workers) task.taskKey := by
  rw [Collaboration.HasExecution, Collaboration.get?_skipBlocked hprogress htask]
  by_cases hblocked : task ∈ c.pending ∧ c.IsBlocked task
  · rw [if_pos hblocked]
    exact ⟨fun _ => Or.inr ((h.isBlocked_iff hprogress htask).mp hblocked), fun _ => rfl⟩
  · rw [if_neg hblocked]
    refine (h.hasExecution_iff htask).trans ⟨Or.inl, ?_⟩
    rintro (hle | hskip)
    · exact hle
    · exact absurd ((h.isBlocked_iff hprogress htask).mpr hskip) hblocked

/-- **The list `ready` of the round**: the tasks of the next layer that are to be run, and those
of the layer behind it that are overtaken. -/
theorem InStep.isReady_iff (h : InStep plan workers r c) (hprogress : c.Progress plan workers) (htask : task ∈ plan.tasks) :
    task ∈ c.skipBlocked.pending
        ∧ c.skipBlocked.IsReady task
      ↔ plan.depth task.taskKey = r + 1
          ∧ ¬ plan.layers.IsSkipped (FailsAlone plan workers) task.taskKey
        ∨ plan.depth task.taskKey = r + 2
          ∧ plan.layers.IsOvertaken (FailsAlone plan workers) task.taskKey := by
  have hdeps : plan.layers.deps task.taskKey = task.dependencies :=
    CollaborationPlan.dependenciesOf_taskKey htask
  have hkey : task.taskKey ∈ plan.layers.keys := List.mem_map_of_mem htask
  have hpending : task ∈ c.skipBlocked.pending
      ↔ ¬ (plan.depth task.taskKey ≤ r ∨ plan.depth task.taskKey = r + 1
        ∧ plan.layers.IsSkipped (FailsAlone plan workers) task.taskKey) := by
    rw [hprogress.skipBlocked.pending_iff task htask, ← Option.not_isSome_iff_eq_none]
    exact not_congr (h.hasExecution_skipBlocked_iff hprogress htask)
  have hready : c.skipBlocked.IsReady task
      ↔ ∀ dependency ∈ task.dependencies, plan.depth dependency ≤ r
        ∨ plan.depth dependency = r + 1
          ∧ plan.layers.IsSkipped (FailsAlone plan workers) dependency := by
    refine forall₂_congr fun dependency hdependency => ?_
    obtain ⟨other, hother, rfl, -⟩ := exists_dependency htask hdependency
    exact h.hasExecution_skipBlocked_iff hprogress hother
  rw [hpending, hready]
  constructor
  · rintro ⟨hnot, hall⟩
    by_cases hdeep : r + 1 < plan.depth task.taskKey
    · obtain ⟨hovertaken, hdepth⟩ :=
        Layers.isOvertaken_of_deps hkey hdeep (fun d hd => hall d (hdeps ▸ hd))
      exact Or.inr ⟨hdepth, hovertaken⟩
    · have hdepth : plan.depth task.taskKey = r + 1 := by
        by_contra hne
        exact hnot (Or.inl (by omega))
      exact Or.inl ⟨hdepth, fun hskip => hnot (Or.inr ⟨hdepth, hskip⟩)⟩
  · rintro (⟨hdepth, hskip⟩ | ⟨hdepth, hovertaken⟩)
    · refine ⟨?_, fun dependency hdependency => Or.inl ?_⟩
      · rintro (hle | ⟨-, hskip'⟩)
        · omega
        · exact hskip hskip'
      · obtain ⟨-, -, -, hlt⟩ := exists_dependency htask hdependency
        omega
    · refine ⟨?_, fun dependency hdependency => ?_⟩
      · rintro (hle | ⟨heq, -⟩) <;> omega
      · obtain ⟨-, -, -, hlt⟩ := exists_dependency htask hdependency
        by_cases hle : plan.depth dependency ≤ r
        · exact Or.inl hle
        · have heq : plan.depth dependency = r + 1 := by omega
          refine Or.inr ⟨heq, hovertaken.2.2 dependency (hdeps.symm ▸ hdependency) ?_⟩
          show plan.depth dependency + 1 = plan.depth task.taskKey
          omega

/-- **A round executes the next layer as it should be**, unless a task behind it is overtaken. -/
theorem InStep.round (h : InStep plan workers r c) (hprogress : c.Progress plan workers)
    (hnone : ∀ key, plan.layers.IsOvertaken (FailsAlone plan workers) key →
      r + 2 < plan.depth key) :
    InStep plan workers (r + 1) (Collaboration.round plan workers c) := by
  classical
  -- what the round records for a task, by its layer
  have hget : ∀ task ∈ plan.tasks,
      (Collaboration.round plan workers c).executions.get? task.taskKey
        = if plan.depth task.taskKey = r + 1
              ∧ ¬ plan.layers.IsSkipped (FailsAlone plan workers) task.taskKey
            then some ((workers.run task.taskKey).execution plan task)
          else if plan.depth task.taskKey = r + 1
              ∧ plan.layers.IsSkipped (FailsAlone plan workers) task.taskKey
            then some (Collaboration.skippedExecution task)
          else c.executions.get? task.taskKey := by
    intro task htask
    have hready := h.isReady_iff hprogress htask
    have hblocked := h.isBlocked_iff hprogress htask
    have hfirst : ¬ (plan.depth task.taskKey = r + 2
        ∧ plan.layers.IsOvertaken (FailsAlone plan workers) task.taskKey) := by
      rintro ⟨hdepth, hovertaken⟩
      have := hnone _ hovertaken
      omega
    rw [or_iff_left hfirst] at hready
    rw [Collaboration.round, Collaboration.get?_runReady hprogress.skipBlocked htask,
      Collaboration.get?_skipBlocked hprogress htask]
    simp only [hready]
    exact if_congr Iff.rfl rfl (if_congr hblocked rfl rfl)
  refine ⟨?_, ?_, ?_, ?_⟩
  · intro task htask hdepth hskip
    rw [hget task htask, if_neg (fun hnot => hnot.2 hskip)]
    by_cases heq : plan.depth task.taskKey = r + 1
    · rw [if_pos ⟨heq, hskip⟩]
    · rw [if_neg (fun hnot => heq hnot.1)]
      exact h.skipped task htask (by omega) hskip
  · intro task htask hdepth hskip
    rw [hget task htask]
    by_cases heq : plan.depth task.taskKey = r + 1
    · rw [if_pos ⟨heq, hskip⟩]
    · rw [if_neg (fun hnot => heq hnot.1), if_neg (fun hnot => heq hnot.1)]
      exact h.run task htask (by omega) hskip
  · intro task htask hdepth
    rw [hget task htask, if_neg (fun hnot => by omega), if_neg (fun hnot => by omega)]
    exact h.behind task htask (by omega)
  · intro key hkey
    rcases List.mem_append.mp hkey with hold | hnew
    · exact h.called key hold
    · obtain ⟨task, hmem, rfl⟩ := List.mem_map.mp (List.mem_of_mem_filter hnew)
      obtain ⟨hpending, hready⟩ := List.mem_filter.mp hmem
      have hprogress' := hprogress.skipBlocked
      have htask := hprogress'.sublist.subset hpending
      rcases (h.isReady_iff hprogress htask).mp ⟨hpending, of_decide_eq_true hready⟩ with
        ⟨-, hrun⟩ | ⟨hdepth, hovertaken⟩
      · exact hrun
      · have := hnone _ hovertaken
        omega

/-! ### The result -/

/-- What a list of lookups finds. -/
private theorem mem_of_mapM {executions : Dict Text TaskExecution}
    {tasks : List CollaborationTask} {ordered : List TaskExecution}
    (h : tasks.mapM (fun task => executions.get? task.taskKey) = some ordered) (e : TaskExecution) :
    e ∈ ordered ↔ ∃ task ∈ tasks, executions.get? task.taskKey = some e := by
  induction tasks generalizing ordered with
  | nil =>
    obtain rfl : [] = ordered := Option.some.inj h
    simp
  | cons task tasks ih =>
    rw [List.mapM_cons] at h
    obtain ⟨first, hfirst, h⟩ := Option.bind_eq_some_iff.mp h
    obtain ⟨rest, hrest, h⟩ := Option.bind_eq_some_iff.mp h
    obtain rfl : first :: rest = ordered := Option.some.inj h
    rw [List.mem_cons, ih hrest, List.exists_mem_cons_iff, hfirst, Option.some.injEq,
      eq_comm (a := e)]

/-- A task was run although a dependency of it had been skipped. -/
def Overran (plan : CollaborationPlan) (c : Collaboration) (task : CollaborationTask) : Prop :=
  (∃ e, c.executions.get? task.taskKey = some e ∧ e.status ≠ .skipped)
    ∧ ∃ other ∈ plan.tasks, other.taskKey ∈ task.dependencies
      ∧ c.executions.get? other.taskKey = some (Collaboration.skippedExecution other)

/-- **The first overtaken task is run.**  In the round that skips all its dependencies of the
layer below, the task is ready at once. -/
theorem InStep.overran (h : InStep plan workers r c) (hprogress : c.Progress plan workers) (htask : task ∈ plan.tasks)
    (hdepth : plan.depth task.taskKey = r + 2)
    (hovertaken : plan.layers.IsOvertaken (FailsAlone plan workers) task.taskKey) :
    Overran plan (Collaboration.round plan workers c) task := by
  have hready := (h.isReady_iff hprogress htask).mpr (Or.inr ⟨hdepth, hovertaken⟩)
  refine ⟨⟨(workers.run task.taskKey).execution plan task, ?_,
    execution_status_ne_skipped _ task⟩, ?_⟩
  · rw [Collaboration.round, Collaboration.get?_runReady hprogress.skipBlocked htask,
      if_pos hready]
  · have hdeep : 1 < plan.layers.depth task.taskKey := by
      show 1 < plan.depth task.taskKey
      omega
    obtain ⟨dependency, hdependency, hbelow⟩ := plan.layers.exists_below _ hovertaken.1 hdeep
    have hskip := hovertaken.2.2 dependency hdependency hbelow
    have hdependency : dependency ∈ task.dependencies := by
      rw [← CollaborationPlan.dependenciesOf_taskKey htask]
      exact hdependency
    obtain ⟨other, hother, rfl, -⟩ := exists_dependency htask hdependency
    have hbelow : plan.depth other.taskKey + 1 = plan.depth task.taskKey := hbelow
    have hblocked := (h.isBlocked_iff hprogress hother).mpr ⟨by omega, hskip⟩
    have hfirst : c.skipBlocked.executions.get? other.taskKey
        = some (Collaboration.skippedExecution other) := by
      rw [Collaboration.get?_skipBlocked hprogress hother, if_pos hblocked]
    refine ⟨other, hother, hdependency, ?_⟩
    rw [Collaboration.round, Collaboration.get?_runReady hprogress.skipBlocked hother, if_neg]
    · exact hfirst
    · rintro ⟨hpending, -⟩
      rw [(hprogress.skipBlocked.pending_iff other hother).mp hpending] at hfirst
      cases hfirst

theorem Overran.round (h : Overran plan c task)
    (htask : task ∈ plan.tasks) (hprogress : c.Progress plan workers) :
    Overran plan (Collaboration.round plan workers c) task := by
  obtain ⟨⟨e, hget, hstatus⟩, other, hother, hdependency, hskip⟩ := h
  exact ⟨⟨e, hprogress.get?_round htask hget, hstatus⟩, other, hother, hdependency,
    hprogress.get?_round hother hskip⟩

theorem respects_of_inStep {result : FanInResult} (h : InStep plan workers r c)
    (hprogress : c.Progress plan workers) (hdone : c.pending = [])
    (hresult : plan.tasks.mapM (fun task => c.executions.get? task.taskKey)
      = some result.executions) :
    RespectsDependencies plan c.called result := by
  have hdepth : ∀ task ∈ plan.tasks, plan.depth task.taskKey ≤ r := by
    intro task htask
    refine (h.hasExecution_iff htask).mp (hprogress.hasExecution htask ?_)
    rw [hdone]
    exact List.not_mem_nil
  have hunusable : ∀ key, IsUnusable result key →
      FailsAlone plan workers key ∨ plan.layers.IsSkipped (FailsAlone plan workers) key := by
    rintro key ⟨e, he, rfl, hbad⟩
    obtain ⟨task, htask, hget⟩ := (mem_of_mapM hresult e).mp he
    rw [execution_owner hprogress htask hget]
    by_contra hnot
    obtain ⟨e', he', husable⟩ := (h.isUsable_iff htask (hdepth task htask)).mpr hnot
    obtain rfl : e = e' := Option.some.inj (hget.symm.trans he')
    exact hbad husable
  refine ⟨fun task htask hcalled dependency hdependency => ?_, fun e he hskip => ?_⟩
  · obtain ⟨other, hother, rfl, -⟩ := exists_dependency htask hdependency
    have hrun := h.called _ hcalled
    have husable := (h.isUsable_iff hother (hdepth other hother)).mpr fun hbad => by
      refine hrun (Layers.isSkipped_iff.mpr ⟨List.mem_map_of_mem htask, other.taskKey, ?_, hbad⟩)
      show other.taskKey ∈ plan.dependenciesOf task.taskKey
      rwa [CollaborationPlan.dependenciesOf_taskKey htask]
    obtain ⟨e, hget, hstatus⟩ := husable
    exact ⟨e, (mem_of_mapM hresult e).mpr ⟨other, hother, hget⟩,
      congrArg _ (execution_owner hprogress hother hget), hstatus⟩
  · obtain ⟨task, htask, hget⟩ := (mem_of_mapM hresult e).mp he
    rw [execution_owner hprogress htask hget] at hskip
    have hexpected := h.skipped task htask (hdepth task htask)
      (Layers.isSkipped_of_isSkipped hunusable hskip)
    obtain rfl : e = Collaboration.skippedExecution task :=
      Option.some.inj (hget.symm.trans hexpected)
    exact ⟨rfl, rfl⟩

/-- A task that was run behind a skipped dependency breaks the dependencies. -/
theorem Overran.not_respects {result : FanInResult}
    (h : Overran plan c task) (htask : task ∈ plan.tasks) (hprogress : c.Progress plan workers)
    (hresult : plan.tasks.mapM (fun task => c.executions.get? task.taskKey)
      = some result.executions) : ¬ RespectsDependencies plan c.called result := by
  obtain ⟨⟨e, hget, hstatus⟩, other, hother, hdependency, hskip⟩ := h
  intro hrespects
  have he := (mem_of_mapM hresult e).mpr ⟨task, htask, hget⟩
  have hunusable : IsUnusable result other.taskKey :=
    ⟨Collaboration.skippedExecution other, (mem_of_mapM hresult _).mpr ⟨other, hother, hskip⟩, rfl,
      show ¬ ParallelTaskStatus.skipped.IsUsable by decide⟩
  refine hstatus (hrespects.skips e he ?_).1
  rw [execution_owner hprogress htask hget]
  refine Layers.isSkipped_iff.mpr ⟨List.mem_map_of_mem htask, other.taskKey, ?_, Or.inl hunusable⟩
  show other.taskKey ∈ plan.dependenciesOf task.taskKey
  rwa [CollaborationPlan.dependenciesOf_taskKey htask]

/-- **A run respects its dependencies exactly when no task is overtaken**: unless the
dependencies of some task that lie in the layer just below it are all to be skipped, whether or
not its other dependencies finished. -/
theorem respectsDependencies_iff (plan : CollaborationPlan) (workers : Workers) (elapsed : ℕ)
    (hmatch : MatchesTasks plan workers) :
    ∃ result c, run plan workers elapsed = (.ok result, c)
      ∧ result.executions.map TaskExecution.task = plan.tasks
      ∧ (RespectsDependencies plan c.called result
        ↔ ∀ key, ¬ plan.layers.IsOvertaken (FailsAlone plan workers) key) := by
  by_cases hnone : ∀ key, ¬ plan.layers.IsOvertaken (FailsAlone plan workers) key
  · obtain ⟨result, c, hrun, ⟨r, hstep⟩, hprogress, hdone, hresult⟩ :=
      run_returns elapsed hmatch (I := fun c => ∃ r, InStep plan workers r c)
        (fun c hprogress _ ⟨r, h⟩ =>
          ⟨r + 1, h.round hprogress fun key hkey => absurd hkey (hnone key)⟩)
        ⟨0, inStep_start⟩
    exact ⟨result, c, hrun,
      map_task_of_mapM (fun task htask e hget => execution_owner hprogress htask hget) hresult,
      ⟨fun _ => hnone, fun _ => respects_of_inStep hstep hprogress hdone hresult⟩⟩
  · have hsome : ∃ key, plan.layers.IsOvertaken (FailsAlone plan workers) key :=
      not_forall_not.mp hnone
    obtain ⟨key, hovertaken, hleast⟩ := plan.layers.exists_least_depth hsome
    obtain ⟨task, htask, rfl⟩ := List.mem_map.mp hovertaken.1
    have hdeep : 1 < plan.depth task.taskKey := Layers.one_lt_depth hovertaken.1 hovertaken.2.1
    -- until the round before the layer of the task, the run is in step
    obtain ⟨result, c, hrun, hI, hprogress, hdone, hresult⟩ :=
      run_returns elapsed hmatch
        (I := fun c => (∃ r, r + 2 ≤ plan.depth task.taskKey ∧ InStep plan workers r c)
          ∨ Overran plan c task)
        (fun c hprogress _ hI => by
          rcases hI with ⟨r, hle, hstep⟩ | hoverran
          · by_cases heq : plan.depth task.taskKey = r + 2
            · exact Or.inr (hstep.overran hprogress htask heq hovertaken)
            · refine Or.inl ⟨r + 1, by omega, hstep.round hprogress fun other hother => ?_⟩
              have : plan.depth task.taskKey ≤ plan.depth other := hleast other hother
              omega
          · exact Or.inr (hoverran.round htask hprogress))
        (Or.inl ⟨0, by omega, inStep_start⟩)
    have hoverran : Overran plan c task := by
      rcases hI with ⟨r, hle, hstep⟩ | hoverran
      · have hnot : task ∉ c.pending := by
          rw [hdone]
          exact List.not_mem_nil
        have := (hstep.hasExecution_iff htask).mp (hprogress.hasExecution htask hnot)
        omega
      · exact hoverran
    exact ⟨result, c, hrun,
      map_task_of_mapM (fun task htask e hget => execution_owner hprogress htask hget) hresult,
      ⟨fun h => absurd h (hoverran.not_respects htask hprogress hresult),
        fun h => absurd h hnone⟩⟩

/-! ### A chain of three tasks -/

/-- The cutoff of the sample plan. -/
def sampleCutoff : RecordedAt := ⟨.of 2026 7 13 (Eq.refl true), 9, 0, 0, 0⟩

/-- The end of the sample plan. -/
def sampleExpiry : RecordedAt := { sampleCutoff with hour := 10 }

/-- A snapshot that the sample tasks read. -/
def sampleInput : ArtifactRef where
  fields :=
    { artifactId := .epoch "artifact" 1 1 (Eq.refl true)
      artifactKind := .marketSnapshot
      schemaVersion := v2ContractSchema
      contentHash := ("sha256:" : Text) ++ List.replicate 64 (Text.ofChar 'a')
      createdAt := sampleCutoff
      asOf := sampleCutoff }
  valid := by decide

/-- A task of the sample plan. -/
def sampleTask (key : Text) (role : AgentRoleId) (kind : ArtifactKind) (dependencies : List Text) :
    CollaborationTaskFields where
  taskKey := key
  role := role
  inputRefs := [sampleInput]
  outputKind := kind
  allowedTools := ["read"]
  dependencies := dependencies
  limits := ⟨⟨10, 1, 1000, 1⟩, by decide⟩

/-- A portfolio proposal on a regime, and its risk assessment. -/
def chainPlan : CollaborationPlan where
  fields :=
    { tasks :=
        [⟨sampleTask "regime" .marketRegime .marketStateAssessment [], by decide⟩,
          ⟨sampleTask "portfolio" .portfolio .portfolioProposal ["regime"], by decide⟩,
          ⟨sampleTask "risk" .riskAnalyst .riskAssessment ["portfolio"], by decide⟩]
      budget := ⟨⟨3, 3, 3, 30, 3, 2000, 3⟩, by decide⟩
      asOf := sampleCutoff
      expiresAt := sampleExpiry }
  valid := by decide +kernel

/-- Workers that lose their connection. -/
def failingWorkers : Workers where
  keys := ["regime", "portfolio", "risk"]
  run _ := .done [] (.error (.other "ConnectionError" "source unavailable")) false 5

/-- The portfolio proposal is skipped in the round that runs the risk assessment. -/
theorem chainPlan_respects_iff :
    ∃ result c, run chainPlan failingWorkers 20 = (.ok result, c)
      ∧ result.executions.map TaskExecution.task = chainPlan.tasks
      ∧ (RespectsDependencies chainPlan c.called result
        ↔ ∀ key, ¬ chainPlan.layers.IsOvertaken (FailsAlone chainPlan failingWorkers) key) :=
  respectsDependencies_iff chainPlan failingWorkers 20 (by decide)

/-- **The worker of a task is called although its dependency was skipped.** -/
theorem called_behind_skipped :
    ¬ ∀ (plan : CollaborationPlan) (workers : Workers) (elapsed : ℕ) (result : FanInResult)
      (c : Collaboration), run plan workers elapsed = (.ok result, c) →
      RespectsDependencies plan c.called result := by
  intro h
  have hmatch : MatchesTasks chainPlan failingWorkers := by decide
  obtain ⟨result, c, hrun, -⟩ :=
    run_returns 20 hmatch (I := fun _ => True) (fun _ _ _ _ => trivial) trivial
  have hcalled : (run chainPlan failingWorkers 20).2.called
      = [("regime" : Text), "risk"] := by
    decide +kernel
  have hstatus : (run chainPlan failingWorkers 20).1.map
        (fun r => r.executions.map (fun e => (e.task.taskKey, e.status)))
      = .ok [("regime", .failed), ("portfolio", .skipped), ("risk", .failed)] := by
    decide +kernel
  rw [hrun] at hcalled hstatus
  have hstatus : result.executions.map (fun e => (e.task.taskKey, e.status)) = _ :=
    Except.ok.inj hstatus
  have hrespects := h _ _ _ _ _ hrun
  obtain ⟨e, he, hkey, husable⟩ := hrespects.calls
    ⟨sampleTask "risk" .riskAnalyst .riskAssessment ["portfolio"], by decide⟩ (by decide)
    (show _ ∈ c.called by rw [hcalled]; decide) "portfolio" (by decide)
  have hmem := List.mem_map_of_mem (f := fun e => (e.task.taskKey, e.status)) he
  rw [hstatus, hkey] at hmem
  revert husable
  revert hmem
  generalize e.status = status
  cases status <;> decide

end StructuredParallelOrchestrator

end FuturesAgentOs
