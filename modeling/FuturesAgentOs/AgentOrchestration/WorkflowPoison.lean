import FuturesAgentOs.AgentOrchestration.WorkflowRetries

namespace FuturesAgentOs

open PyModel

/-!
# Episodes that cannot be polled

The inputs of a task are put together when it is polled, from the results of its dependencies, and
a repetition among them raises.  An artifact that two dependencies were completed with, each
accepted on its own, thus makes the episode impossible to poll until the deadline of the task.  So
does a plan that was stored before the deadline of one of its tasks overflowed.

* `polls_return_iff` — a run in which no poll raises is one without a poisoned episode.
-/

theorem validateRoleContract_resolved {role : AgentRoleId} {inputs resolved : List ArtifactRef}
    {outputs kinds : List ArtifactKind}
    (h : validateRoleContract role inputs outputs kinds = .ok ())
    (hkinds : resolved.map ArtifactRef.artifactKind
      = inputs.map ArtifactRef.artifactKind ++ kinds) :
    validateRoleContract role resolved [] = .ok () := by
  simp only [validateRoleContract, require_bind_eq_ok, require_eq_ok] at h ⊢
  obtain ⟨hrole, hinputs, -, -, -, -, hcritic⟩ := h
  rw [List.append_nil, hkinds]
  refine ⟨hrole, hinputs, fun kind hkind => absurd hkind List.not_mem_nil, fun hnot => ?_,
    fun _ hnot => absurd rfl hnot, fun hnot => ?_, hcritic⟩
  · exact absurd rfl hnot.2.1
  · exact absurd rfl hnot.2.1

namespace WorkflowOrchestrator

variable {κ : Type} {o p : WorkflowOrchestrator κ} {episodeId : ℕ} {plan : DelegationPlan}
  {step : DelegationStep}

/-- The artifacts that a step was completed with. -/
def artifactsOf (o : WorkflowOrchestrator κ) (episodeId : ℕ) (name : Text) : List ArtifactRef :=
  ((o.byKey episodeId name).bind fun t => o.taskResults.get? t.taskId).elim []
    fun result => result.fields.artifacts

/-- The inputs of a step: its own and those of its dependencies. -/
def fanIn (o : WorkflowOrchestrator κ) (episodeId : ℕ) (step : DelegationStep) :
    List ArtifactRef :=
  step.fields.inputArtifacts ++ (step.dependsOn.map (o.artifactsOf episodeId)).flatten

theorem Inv.dependencyArtifacts_eq (h : o.Inv) {name : Text} {t : WorkflowTask}
    (ht : o.byKey episodeId name = some t) (hcompleted : t.status = .COMPLETED) :
    o.dependencyArtifacts episodeId name = .ok (o.artifactsOf episodeId name)
      ∧ ∃ r, o.taskResults.get? t.taskId = some r ∧ r.fields.status = .COMPLETED
        ∧ o.artifactsOf episodeId name = r.fields.artifacts := by
  obtain ⟨hget, -⟩ := h.base.keyed.mem_tasksOf.mp (h.base.keyed.byKey_eq_some.mp ht).1
  obtain ⟨r, hr⟩ := h.base.completed _ t hget hcompleted
  obtain ⟨hid, u, hu, hstatus⟩ := h.base.result _ r hr
  obtain rfl := Option.some.inj (hget.symm.trans hu)
  have hartifacts : o.artifactsOf episodeId name = r.fields.artifacts := by
    simp only [artifactsOf, ht, Option.bind_some, hr, Option.elim_some]
  refine ⟨?_, r, hr, hstatus.symm.trans hcompleted, hartifacts⟩
  simp only [dependencyArtifacts, ht, hr]
  rw [require_of_pos hcompleted, require_of_pos ⟨hid, hstatus.symm.trans hcompleted⟩, hartifacts]
  rfl

theorem Inv.kinds_fanIn (h : o.Inv) (hplan : o.plans.get? episodeId = some plan)
    (hstep : step ∈ plan.steps) (hdependencies : o.DependenciesCompleted episodeId step) :
    (o.fanIn episodeId step).map ArtifactRef.artifactKind
      = step.fields.inputArtifacts.map ArtifactRef.artifactKind
        ++ plan.fields.dependentOutputs step := by
  have hvalid := plan.valid
  simp only [postInit, DelegationPlanFields.postInit, require_bind_eq_ok] at hvalid
  rw [fanIn, List.map_append, List.map_flatten, List.map_map, DelegationPlanFields.dependentOutputs,
    List.flatMap_def]
  refine congrArg (fun kinds => _ ++ List.flatten kinds) (List.map_congr_left fun name hname => ?_)
  obtain ⟨t, ht, hcompleted⟩ := hdependencies name hname
  obtain ⟨-, r, hr, hstatus, hartifacts⟩ := h.dependencyArtifacts_eq ht hcompleted
  obtain ⟨hmem, hkey⟩ := h.base.keyed.byKey_eq_some.mp ht
  obtain ⟨hget, hepisode⟩ := h.base.keyed.mem_tasksOf.mp hmem
  -- the step that the dependency names
  rcases hfound : plan.fields.stepOf name with _ | dependency
  · have hnone := List.find?_eq_none.mp hfound
    obtain ⟨other, hother, hsame⟩ := List.mem_map.mp (hvalid.2.2.1 step hstep name hname)
    exact absurd (decide_eq_true hsame) (hnone other hother)
  · rw [DelegationPlanFields.stepOf] at hfound
    have hsame := List.find?_some hfound
    have hmem := List.mem_of_find?_eq_some hfound
    rw [Function.comp_apply, hartifacts]
    exact h.base.typed _ t r hget hr hstatus plan (hepisode ▸ hplan) dependency hmem
      ((of_decide_eq_true hsame).trans hkey.symm)

theorem Inv.validate_fanIn (h : o.Inv) (hplan : o.plans.get? episodeId = some plan)
    (hstep : step ∈ plan.steps) (hdependencies : o.DependenciesCompleted episodeId step) :
    validateRoleContract step.fields.roleId (o.fanIn episodeId step) [] = .ok () := by
  have hvalid := plan.valid
  simp only [postInit, DelegationPlanFields.postInit, require_bind_eq_ok] at hvalid
  obtain ⟨_, -, hrest⟩ := Py.of_bind hvalid.2.2.2
  obtain ⟨_, hsteps, -⟩ := Py.of_bind hrest
  have hcheck := Py.forM_eq_ok.mp hsteps step hstep
  simp only [DelegationPlanFields.checkStep, require_bind_eq_ok] at hcheck
  exact validateRoleContract_resolved hcheck.2 (h.kinds_fanIn hplan hstep hdependencies)

theorem Inv.resolvedInputArtifacts_eq (h : o.Inv) (hplan : o.plans.get? episodeId = some plan)
    (hstep : step ∈ plan.steps) (hdependencies : o.DependenciesCompleted episodeId step) :
    o.resolvedInputArtifacts episodeId step = (do
      require (o.fanIn episodeId step).Nodup
        (valueError "fan-in input artifacts must remain unique")
      .ok (o.fanIn episodeId step)) := by
  have hmap : step.dependsOn.mapM (o.dependencyArtifacts episodeId)
      = .ok (step.dependsOn.map (o.artifactsOf episodeId)) := by
    refine Py.mapM_eq_ok fun name hname => ?_
    obtain ⟨t, ht, hcompleted⟩ := hdependencies name hname
    exact (h.dependencyArtifacts_eq ht hcompleted).1
  rw [resolvedInputArtifacts, hmap, Py.ok_bind]
  simp only
  rw [← fanIn, h.validate_fanIn hplan hstep hdependencies]
  rfl

/-- **`ready_task`**: what it builds, or what it raises. -/
theorem Inv.readyTask_eq (h : o.Inv) (hplan : o.plans.get? episodeId = some plan)
    (hstep : step ∈ plan.steps) {t : WorkflowTask}
    (ht : o.byKey episodeId step.stepKey = some t)
    (hdependencies : o.DependenciesCompleted episodeId step) :
    ((o.fanIn episodeId step).Nodup ∧ ∃ ready, o.readyTask episodeId step t = .ok ready)
      ∨ ¬ (o.fanIn episodeId step).Nodup ∧ (o.readyTask episodeId step t).Raises := by
  have hresolved := h.resolvedInputArtifacts_eq hplan hstep hdependencies
  by_cases hnodup : (o.fanIn episodeId step).Nodup
  · rw [require_of_pos hnodup] at hresolved
    obtain ⟨hmem, hkey⟩ := h.base.keyed.byKey_eq_some.mp ht
    obtain ⟨hget, hepisode⟩ := h.base.keyed.mem_tasksOf.mp hmem
    obtain ⟨plan', hplan', other, hother, hsame, hrole⟩ := h.base.keyed.owner _ t hget
    rw [hepisode, hplan] at hplan'
    obtain rfl := Option.some.inj hplan'
    obtain rfl := plan.step_unique hother hstep (hsame.trans hkey)
    have hvalid := t.valid
    simp only [postInit, require_bind_eq_ok] at hvalid
    refine .inl ⟨hnodup,
      ⟨{ t.fields with inputArtifacts := o.fanIn episodeId other }, ?_⟩, ?_⟩
    · simp only [postInit, require_bind_eq_ok]
      refine ⟨hvalid.1, ?_⟩
      rw [← hrole]
      exact h.validate_fanIn hplan hstep hdependencies
    · exact readyTask_eq_ok.mpr ⟨_, hresolved, rfl⟩
  · rw [require_of_neg hnodup] at hresolved
    refine .inr ⟨hnodup, ?_⟩
    rw [readyTask, hresolved]
    exact Py.raises_error _

/-! ### Steps that are stuck -/

/-- A step is to be polled, and its inputs repeat. -/
structure Stuck (o : WorkflowOrchestrator κ) (episodeId : ℕ) (step : DelegationStep) : Prop where
  pending : ∃ t, o.byKey episodeId step.stepKey = some t ∧ t.status = .PENDING
  dependencies : o.DependenciesCompleted episodeId step
  repeats : ¬ (o.fanIn episodeId step).Nodup

theorem Polls.byKey (h : Polls o p) (hkeyed : o.Keyed) (episodeId : ℕ) (key : Text) :
    (p.byKey episodeId key).map (fun t => (t.taskId, t.status))
      = (o.byKey episodeId key).map (fun t => (t.taskId, t.status)) := by
  rcases ht : o.byKey episodeId key with _ | t
  · rcases ht' : p.byKey episodeId key with _ | t'
    · rfl
    · obtain ⟨hmem', hkey⟩ := (hkeyed.evolves h.evolves).byKey_eq_some.mp ht'
      obtain ⟨t, hmem, hmove⟩ := h.evolves.of_mem_tasksOf hmem'
      rw [hkeyed.byKey_eq_some.mpr ⟨hmem, hmove.stepKey.symm.trans hkey⟩] at ht
      cases ht
  · obtain ⟨hmem, hkey⟩ := hkeyed.byKey_eq_some.mp ht
    obtain ⟨hget, hepisode⟩ := hkeyed.mem_tasksOf.mp hmem
    obtain ⟨t', ht', hmove⟩ := h.evolves.tasks.move _ t hget
    have hmem' : t' ∈ p.tasksOf episodeId := by
      rw [← hepisode, ← hmove.episodeId]
      exact mem_tasksOf_of_get? ht'
    rw [(hkeyed.evolves h.evolves).byKey_eq_some.mpr ⟨hmem', hmove.stepKey.trans hkey⟩,
      Option.map_some, Option.map_some, hmove.taskId, h.status _ t t' hget ht']

theorem exists_byKey_iff {key : Text} {status : WorkflowTaskStatus} :
    (∃ t, o.byKey episodeId key = some t ∧ t.status = status)
      ↔ ∃ id, (o.byKey episodeId key).map (fun t => (t.taskId, t.status)) = some (id, status) := by
  rcases o.byKey episodeId key with _ | t
  · simp
  · simp

theorem Polls.stuck_iff (h : Polls o p) (hkeyed : o.Keyed) :
    p.Stuck episodeId step ↔ o.Stuck episodeId step := by
  have hpending : (∃ t, p.byKey episodeId step.stepKey = some t ∧ t.status = .PENDING)
      ↔ ∃ t, o.byKey episodeId step.stepKey = some t ∧ t.status = .PENDING := by
    rw [exists_byKey_iff, exists_byKey_iff, h.byKey hkeyed]
  have hcompleted : p.DependenciesCompleted episodeId step
      ↔ o.DependenciesCompleted episodeId step :=
    forall₂_congr fun name _ => by
      show (∃ t, p.byKey episodeId name = some t ∧ _) ↔ ∃ t, o.byKey episodeId name = some t ∧ _
      rw [exists_byKey_iff, exists_byKey_iff, h.byKey hkeyed]
  have hfanIn : p.fanIn episodeId step = o.fanIn episodeId step := by
    refine congrArg (fun artifacts => _ ++ List.flatten artifacts)
      (List.map_congr_left fun name _ => ?_)
    have hsame := h.byKey hkeyed episodeId name
    simp only [artifactsOf, h.results]
    rcases ht : o.byKey episodeId name with _ | t <;>
      rcases ht' : p.byKey episodeId name with _ | t' <;> rw [ht, ht'] at hsame
    · cases hsame
    · cases hsame
    · have hid : t'.taskId = t.taskId := congrArg Prod.fst (Option.some.inj hsame)
      rw [Option.bind_some, Option.bind_some, hid]
  constructor
  · intro hstuck
    exact ⟨hpending.mp hstuck.pending, hcompleted.mp hstuck.dependencies, hfanIn ▸ hstuck.repeats⟩
  · intro hstuck
    exact ⟨hpending.mpr hstuck.pending, hcompleted.mpr hstuck.dependencies,
      hfanIn.symm ▸ hstuck.repeats⟩

theorem Stops.stuck (h : Stops episodeId o p) (hkeyed : o.Keyed) (hstuck : p.Stuck episodeId step) :
    o.Stuck episodeId step := by
  obtain ⟨t, ht, hpending⟩ := hstuck.pending
  have hcompleted : ∀ name ∈ step.dependsOn, ∃ u, p.byKey episodeId name = some u
      ∧ o.byKey episodeId name = some u ∧ u.status = .COMPLETED := by
    intro name hname
    obtain ⟨u, hu, hstatus⟩ := hstuck.dependencies name hname
    exact ⟨u, hu, h.byKey_eq_some hkeyed hu (.inr hstatus), hstatus⟩
  have hfanIn : p.fanIn episodeId step = o.fanIn episodeId step := by
    refine congrArg (fun artifacts => _ ++ List.flatten artifacts)
      (List.map_congr_left fun name hname => ?_)
    obtain ⟨u, hu, hu', -⟩ := hcompleted name hname
    simp only [artifactsOf, hu, hu', h.results]
  refine ⟨⟨t, h.byKey_pending hkeyed ht hpending, hpending⟩, fun name hname => ?_,
    hfanIn ▸ hstuck.repeats⟩
  obtain ⟨u, -, hu, hstatus⟩ := hcompleted name hname
  exact ⟨u, hu, hstatus⟩

/-- **The loop of `ready_tasks`** raises on a step that is stuck. -/
theorem Inv.pollSteps_raises_iff (h : o.Inv) (hplan : o.plans.get? episodeId = some plan)
    {steps : List DelegationStep} (hsteps : ∀ step ∈ steps, step ∈ plan.steps)
    (htasks : ∀ step ∈ steps, (o.byKey episodeId step.stepKey).isSome = true) :
    (pollSteps episodeId steps o).1.Raises ↔ ∃ step ∈ steps, o.Stuck episodeId step := by
  induction steps generalizing o with
  | nil => simp [pollSteps]
  | cons step rest ih =>
    rw [List.forall_mem_cons] at hsteps htasks
    obtain ⟨t, ht⟩ := Option.isSome_iff_exists.mp htasks.1
    simp only [pollSteps, ht, List.exists_mem_cons_iff]
    split
    · rename_i hpoll
      rcases h.readyTask_eq hplan hsteps.1 ht hpoll.2 with ⟨hnodup, ready, hready⟩ | ⟨hrepeats, e, he⟩
      · obtain ⟨resolved, -, hfields⟩ := readyTask_eq_ok.mp hready
        have hpolls := h.base.keyed.polls_setTask ht hpoll.1 hfields
        have hrest := ih (hpolls.inv h) hplan hsteps.2 fun other hother => by
          have hsame := hpolls.byKey h.base.keyed episodeId other.stepKey
          rw [← Option.isSome_map, hsame, Option.isSome_map]
          exact htasks.2 other hother
        rw [hready, storeReady, andThen_ok]
        have hnot : ¬ o.Stuck episodeId step := fun hstuck => hstuck.repeats hnodup
        rw [or_iff_right hnot]
        simp only [hpolls.stuck_iff h.base.keyed] at hrest
        rw [← hrest]
        rcases pollSteps episodeId rest (o.setTask ready) with ⟨e | more, q⟩
        · simp
        · simp
      · rw [he, storeReady, andThen_error]
        exact iff_of_true (Py.raises_error e) (.inl ⟨⟨t, ht, hpoll.1⟩, hpoll.2, hrepeats⟩)
    · rename_i hleft
      have hnot : ¬ o.Stuck episodeId step := by
        intro hstuck
        obtain ⟨u, hu, hpending⟩ := hstuck.pending
        obtain rfl := Option.some.inj (ht.symm.trans hu)
        exact hleft ⟨hpending, hstuck.dependencies⟩
      rw [or_iff_right hnot]
      exact ih h hplan hsteps.2 htasks.2

/-! ### Episodes that are poisoned -/

/-- A running episode whose plan has no tasks, or a step that is stuck. -/
def Poisoned (o : WorkflowOrchestrator κ) (episodeId : ℕ) : Prop :=
  o.IsRunning episodeId ∧ ∃ plan, o.plans.get? episodeId = some plan
    ∧ (o.tasksOf episodeId = [] ∨ ∃ step ∈ plan.steps, o.Stuck episodeId step)

/-- An episode that runs afterwards ran before. -/
theorem Evolves.isRunning (h : Evolves o p) (hruns : p.IsRunning episodeId) :
    o.IsRunning episodeId := by
  obtain ⟨e', he', hruns⟩ := isRunning_iff.mp hruns
  obtain ⟨e, he, hmove⟩ := h.episodes.back he'
  refine isRunning_iff.mpr ⟨e, he, ?_⟩
  by_contra hover
  rw [hmove.ended hover] at hruns
  exact hover hruns

theorem Keyed.hasTasks (h : o.Keyed) (hplan : o.plans.get? episodeId = some plan)
    (hne : o.tasksOf episodeId ≠ []) : o.HasTasks episodeId plan :=
  (h.whole episodeId plan hplan).resolve_left hne

theorem Inv.exists_timeout (h : o.Inv) (hplan : o.plans.get? episodeId = some plan)
    (hne : o.IsRunning episodeId → o.tasksOf episodeId ≠ []) (now : ℤ) :
    ∃ p, o.timeout episodeId now = (.ok (), p) := by
  obtain ⟨-, e, he⟩ := h.base.keyed.plan episodeId plan hplan
  have hstops := stops_stopDue o episodeId now
  have hsettle : ∃ q, (o.stopDue episodeId now).settleTimeouts episodeId e = (.ok (), q) := by
    have hplan' : (o.stopDue episodeId now).plans.get? episodeId = some plan := hplan
    unfold settleTimeouts
    rw [hplan']
    simp only
    split
    · rename_i hruns
      have htasks := (h.base.keyed.evolves hstops.evolves).hasTasks hplan'
        fun hnil => hne (isRunning_iff.mpr ⟨e, he, hruns⟩)
          (hstops.evolves.tasksOf_eq_nil_iff.mp hnil)
      rw [propagate, if_pos htasks]
      exact ⟨_, rfl⟩
    · exact ⟨_, rfl⟩
  obtain ⟨q, hq⟩ := hsettle
  unfold timeout
  rw [he]
  simp only
  rw [← stopDue, hq]
  exact ⟨_, rfl⟩

theorem Inv.readyTasks_returns (h : o.Inv) (hplan : o.plans.get? episodeId = some plan)
    (hnot : ¬ o.Poisoned episodeId) (now : ℤ) : ¬ (o.readyTasks episodeId now).1.Raises := by
  have hne : o.IsRunning episodeId → o.tasksOf episodeId ≠ [] := fun hruns hnil =>
    hnot ⟨hruns, plan, hplan, .inl hnil⟩
  obtain ⟨p, htimeout⟩ := h.exists_timeout hplan hne now
  obtain ⟨hinv, hstops, -⟩ := h.timeout_spec episodeId now
  rw [htimeout] at hinv hstops
  have hplan' : p.plans.get? episodeId = some plan := by
    rw [hstops.evolves.plans]
    exact hplan
  unfold readyTasks
  rw [htimeout, andThen_ok]
  split
  · rename_i hruns
    have hbefore : o.IsRunning episodeId := hstops.evolves.isRunning hruns
    have htasks := hinv.base.keyed.hasTasks hplan' fun hnil =>
      hne hbefore (hstops.evolves.tasksOf_eq_nil_iff.mp hnil)
    have hpoll : ¬ (pollSteps episodeId plan.steps p).1.Raises := by
      rw [hinv.pollSteps_raises_iff hplan' (fun _ hstep => hstep) htasks]
      rintro ⟨step, hstep, hstuck⟩
      exact hnot ⟨hbefore, plan, hplan, .inr ⟨step, hstep, hstops.stuck h.base.keyed hstuck⟩⟩
    rw [hplan']
    simp only
    rw [hinv.propagate_eq hplan' htasks hruns, andThen_ok, hinv.closeEpisode_eq, pollEpisode,
      if_pos hruns]
    rcases hresult : pollSteps episodeId plan.steps p with ⟨e | ready, q⟩
    · rw [hresult] at hpoll
      exact absurd (Py.raises_error e) hpoll
    · exact Py.not_raises_ok _
  · exact Py.not_raises_ok _

theorem exists_before (times : List ℤ) : ∃ now, ∀ time ∈ times, now < time := by
  induction times with
  | nil => exact ⟨0, fun time htime => absurd htime List.not_mem_nil⟩
  | cons time rest ih =>
    obtain ⟨now, hnow⟩ := ih
    refine ⟨min now (time - 1), List.forall_mem_cons.mpr ⟨by omega, fun other hother => ?_⟩⟩
    exact lt_of_le_of_lt (min_le_left _ _) (hnow other hother)

/-- A poisoned episode is not, at any time before its deadlines. -/
theorem Inv.readyTasks_raises (h : o.Inv) (hpoisoned : o.Poisoned episodeId) :
    ∃ now, (o.readyTasks episodeId now).1.Raises := by
  obtain ⟨hruns, plan, hplan, hnil | hstuck⟩ := hpoisoned
  · refine ⟨0, ?_⟩
    obtain ⟨e, he, hruns'⟩ := isRunning_iff.mp hruns
    have hstops := stops_stopDue o episodeId 0
    have htasks : ¬ (o.stopDue episodeId 0).HasTasks episodeId plan := by
      intro hall
      have hvalid := plan.valid
      simp only [postInit, DelegationPlanFields.postInit, require_bind_eq_ok] at hvalid
      obtain ⟨step, hstep⟩ := List.exists_mem_of_ne_nil _ hvalid.2.1.1
      obtain ⟨t, ht, -⟩ := isSome_byKey_iff.mp (hall step hstep)
      rw [hstops.evolves.tasksOf_eq_nil_iff.mpr hnil] at ht
      cases ht
    have hsettle : (o.stopDue episodeId 0).settleTimeouts episodeId e
        = (.error ⟨.keyError, "step_key"⟩, o.stopDue episodeId 0) := by
      have hplan' : (o.stopDue episodeId 0).plans.get? episodeId = some plan := hplan
      unfold settleTimeouts
      rw [hplan']
      simp only
      rw [if_pos hruns', propagate, if_neg htasks, andThen_error]
    unfold readyTasks timeout
    rw [he]
    simp only
    rw [← stopDue, hsettle, andThen_error, andThen_error]
    exact Py.raises_error _
  · obtain ⟨e, he, hruns'⟩ := isRunning_iff.mp hruns
    obtain ⟨now, hnow⟩ := exists_before
      (e.fields.expiresAt :: (o.tasksOf episodeId).map (fun t => t.fields.deadlineAt))
    rw [List.forall_mem_cons] at hnow
    have hne : o.tasksOf episodeId ≠ [] := by
      obtain ⟨step, -, ⟨t, ht, -⟩, -⟩ := hstuck
      exact List.ne_nil_of_mem (h.base.keyed.byKey_eq_some.mp ht).1
    have htasks := h.base.keyed.hasTasks hplan hne
    have hdue : o.NotDue episodeId now := by
      refine ⟨fun t ht _ => hnow.2 _ (List.mem_map_of_mem ht), fun e' he' _ => ?_⟩
      obtain rfl := Option.some.inj (he.symm.trans he')
      exact hnow.1
    have htimeout : o.timeout episodeId now = (.ok (), o) := by
      refine h.timeout_eq hdue he fun plan' hplan' _ => ?_
      obtain rfl := Option.some.inj (hplan.symm.trans hplan')
      exact htasks
    refine ⟨now, ?_⟩
    unfold readyTasks
    rw [htimeout, andThen_ok, if_pos hruns, hplan]
    simp only
    rw [h.propagate_eq hplan htasks hruns, andThen_ok, h.closeEpisode_eq, pollEpisode, if_pos hruns]
    obtain ⟨error, herror⟩ :=
      (h.pollSteps_raises_iff hplan (fun _ hstep => hstep) htasks).mpr hstuck
    rcases hresult : pollSteps episodeId plan.steps o with ⟨e | ready, q⟩
    · exact Py.raises_error e
    · rw [hresult] at herror
      cases herror

theorem claimReadyTasks_raises_iff (o : WorkflowOrchestrator κ) (episodeId : ℕ) (now : ℤ)
    {limit : Option ℤ} (hlimit : ∀ n ∈ limit, 1 ≤ n) :
    (o.claimReadyTasks episodeId now limit).1.Raises ↔ (o.readyTasks episodeId now).1.Raises := by
  have hvalid : ¬ ∃ n ∈ limit, n < 1 := by
    rintro ⟨n, hn, hlt⟩
    exact absurd (hlimit n hn) (not_le.mpr hlt)
  rw [claimReadyTasks, if_neg hvalid]
  rcases o.readyTasks episodeId now with ⟨e | ready, p⟩
  · simp
  · simp [claim]

section

variable [DecidableEq κ] [Hashlib]

/-- **Polls.** In every state of a run no poll and no claim raises, at any time, exactly when in none
of them an episode is poisoned. -/
theorem polls_return_iff (calls : List (WorkflowCall κ)) :
    (∀ past, past <+: calls → ∀ episodeId plan,
      ((machine κ).exec {} past).plans.get? episodeId = some plan → ∀ now limit,
        (∀ n ∈ limit, 1 ≤ n) →
        ¬ (((machine κ).exec {} past).readyTasks episodeId now).1.Raises
          ∧ ¬ (((machine κ).exec {} past).claimReadyTasks episodeId now limit).1.Raises)
      ↔ ∀ past, past <+: calls → ∀ episodeId, ¬ ((machine κ).exec {} past).Poisoned episodeId := by
  constructor
  · intro hreturn past hpast episodeId hpoisoned
    obtain ⟨now, hraises⟩ := (inv_exec past).readyTasks_raises hpoisoned
    obtain ⟨-, plan, hplan, -⟩ := hpoisoned
    exact (hreturn past hpast episodeId plan hplan now none (fun n hn => by cases hn)).1 hraises
  · intro hnot past hpast episodeId plan hplan now limit hlimit
    have hready := (inv_exec past).readyTasks_returns hplan (hnot past hpast episodeId) now
    exact ⟨hready, fun hraises => hready
      ((claimReadyTasks_raises_iff _ episodeId now hlimit).mp hraises)⟩

end

/-! ### An artifact of two dependencies -/

/-- Two assessments, and research on both. -/
def researchPlan : DelegationPlan where
  fields :=
    { planId := 7
      cycleId := 0
      episodeId := 1
      asOf := 0
      expiresAt := 50
      steps :=
        [⟨assessFields "left", by decide +kernel⟩, ⟨assessFields "right", by decide +kernel⟩,
          ⟨{ assessFields "research" with
              roleId := .research
              inputArtifacts := []
              requiredOutputs := [.hypothesis]
              dependsOn := ["left", "right"] }, by decide +kernel⟩]
      cycleBudget := budget }
  valid := by decide +kernel

/-- The result of the second task. -/
def otherResult : WorkflowTaskResult :=
  ⟨{ taskId := 3, status := .COMPLETED, artifacts := [assessment], unknowns := [], warnings := [] },
    by decide +kernel⟩

/-- Both assessments are completed with the same artifact. -/
def completedTwice : List (WorkflowCall Unit) :=
  [.startCycle trigger 100, .startEpisode 0 "candidate" 90, .acceptDelegationPlan researchPlan,
    .claimReadyTasks 1 5 none, .completeTask 1 assessResult 6, .completeTask 1 otherResult 7]

/-- **The poll after two accepted completions raises.** -/
theorem repeated_artifact_raises :
    ¬ ∀ (calls : List (WorkflowCall Unit)) (episodeId : ℕ) (plan : DelegationPlan),
      (∀ answer ∈ (machine Unit).outputs {} calls, ¬ answer.Raises) →
      ((machine Unit).exec {} calls).plans.get? episodeId = some plan → ∀ now limit,
        (∀ n ∈ limit, 1 ≤ n) →
        ¬ (((machine Unit).exec {} calls).readyTasks episodeId now).1.Raises
          ∧ ¬ (((machine Unit).exec {} calls).claimReadyTasks episodeId now limit).1.Raises := by
  intro h
  have hplan : ((machine Unit).exec {} completedTwice).plans.get? 1 = some researchPlan := by
    decide +kernel
  have hraises : (((machine Unit).exec {} completedTwice).readyTasks 1 8).1.Raises := by
    decide +kernel
  have haccepted : ∀ answer ∈ (machine Unit).outputs {} completedTwice, ¬ answer.Raises := by
    decide +kernel
  exact (h completedTwice 1 researchPlan haccepted hplan 8 none fun n hn => by cases hn).1 hraises

end WorkflowOrchestrator

end FuturesAgentOs
