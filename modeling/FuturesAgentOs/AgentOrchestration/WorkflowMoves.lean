import FuturesAgentOs.AgentOrchestration.WorkflowOrchestrator
import FuturesAgentOs.PyModel.Rewrites

namespace FuturesAgentOs

open PyModel

/-!
# What a call of the orchestrator may change

A task that is terminal never changes, nor does an episode or a cycle that is over, and nothing that
is stored is lost.

* `WorkflowOrchestrator.Keyed` — rows are stored under their ids and refer to rows.
-/

/-- A task changes its status or inputs, unless it is terminal. -/
structure TaskMove (task after : WorkflowTask) : Prop where
  same : after.fields
    = { task.fields with
        status := after.fields.status
        inputArtifacts := after.fields.inputArtifacts }
  terminal : task.status.IsTerminal → after = task
  pending : after.status = .PENDING → task.status = .PENDING

/-- An episode changes its status, unless it is over. -/
structure EpisodeMove (episode after : DecisionEpisode) : Prop where
  same : after.fields
    = { episode.fields with
        status := after.fields.status
        terminalReason := after.fields.terminalReason }
  ended : episode.fields.status ≠ .RUNNING → after = episode

/-- A cycle changes its status, unless it is over. -/
structure CycleMove (cycle after : AutonomyCycle) : Prop where
  same : after.fields = { cycle.fields with status := after.fields.status }
  ended : cycle.fields.status ≠ .RUNNING → after = cycle

theorem WorkflowTaskStatus.not_isTerminal_iff {s : WorkflowTaskStatus} :
    ¬ s.IsTerminal ↔ s = .PENDING ∨ s = .RUNNING := by
  cases s <;> decide

namespace TaskMove

variable {task after last : WorkflowTask}

theorem refl (task : WorkflowTask) : TaskMove task task := ⟨rfl, fun _ => rfl, id⟩

theorem trans (h : TaskMove task after) (h' : TaskMove after last) : TaskMove task last := by
  refine ⟨?_, fun hterminal => ?_, fun hpending => h.pending (h'.pending hpending)⟩
  · rw [h'.same, h.same]
  · have heq := h.terminal hterminal
    rw [h'.terminal (by rw [heq]; exact hterminal), heq]

theorem taskId (h : TaskMove task after) : after.taskId = task.taskId :=
  (congrArg WorkflowTaskFields.taskId h.same :)

theorem episodeId (h : TaskMove task after) : after.episodeId = task.episodeId :=
  (congrArg WorkflowTaskFields.episodeId h.same :)

theorem stepKey (h : TaskMove task after) : after.stepKey = task.stepKey :=
  (congrArg WorkflowTaskFields.stepKey h.same :)

theorem roleId (h : TaskMove task after) : after.fields.roleId = task.fields.roleId :=
  (congrArg WorkflowTaskFields.roleId h.same :)

theorem deadlineAt (h : TaskMove task after) : after.fields.deadlineAt = task.fields.deadlineAt :=
  (congrArg WorkflowTaskFields.deadlineAt h.same :)

theorem not_isTerminal (h : TaskMove task after) (hafter : ¬ after.status.IsTerminal) :
    ¬ task.status.IsTerminal :=
  fun hterminal => hafter (by rw [h.terminal hterminal]; exact hterminal)

end TaskMove

theorem taskMove_withStatus {task : WorkflowTask} {status : WorkflowTaskStatus}
    (h : ¬ task.status.IsTerminal) (hstatus : status ≠ .PENDING) :
    TaskMove task (task.withStatus status) :=
  ⟨rfl, fun hterminal => absurd hterminal h, fun hpending => absurd hpending hstatus⟩

theorem EpisodeMove.refl (episode : DecisionEpisode) : EpisodeMove episode episode :=
  ⟨rfl, fun _ => rfl⟩

theorem EpisodeMove.trans {episode after last : DecisionEpisode} (h : EpisodeMove episode after)
    (h' : EpisodeMove after last) : EpisodeMove episode last := by
  refine ⟨by rw [h'.same, h.same], fun hover => ?_⟩
  have heq := h.ended hover
  rw [h'.ended (by rw [heq]; exact hover), heq]

theorem CycleMove.refl (cycle : AutonomyCycle) : CycleMove cycle cycle := ⟨rfl, fun _ => rfl⟩

theorem CycleMove.trans {cycle after last : AutonomyCycle} (h : CycleMove cycle after)
    (h' : CycleMove after last) : CycleMove cycle last := by
  refine ⟨by rw [h'.same, h.same], fun hover => ?_⟩
  have heq := h.ended hover
  rw [h'.ended (by rw [heq]; exact hover), heq]

namespace WorkflowOrchestrator

variable {κ : Type} {o p q : WorkflowOrchestrator κ}

/-- Rows change by moves, none is new, and results are kept. -/
structure Evolves (o p : WorkflowOrchestrator κ) : Prop where
  tasks : o.tasks.Rewrites TaskMove p.tasks
  episodes : o.episodes.Rewrites EpisodeMove p.episodes
  cycles : o.cycles.Rewrites CycleMove p.cycles
  results : ∀ id r, o.taskResults.get? id = some r → p.taskResults.get? id = some r
  cyclesByDedup : p.cyclesByDedup = o.cyclesByDedup
  episodesByKey : p.episodesByKey = o.episodesByKey
  plans : p.plans = o.plans
  drawn : p.drawn = o.drawn

theorem Evolves.refl (o : WorkflowOrchestrator κ) : Evolves o o :=
  ⟨Dict.rewrites_refl TaskMove.refl _, Dict.rewrites_refl EpisodeMove.refl _,
    Dict.rewrites_refl CycleMove.refl _, fun _ _ h => h, rfl, rfl, rfl, rfl⟩

theorem Evolves.trans (h : Evolves o p) (h' : Evolves p q) : Evolves o q where
  tasks := h.tasks.trans TaskMove.trans h'.tasks
  episodes := h.episodes.trans EpisodeMove.trans h'.episodes
  cycles := h.cycles.trans CycleMove.trans h'.cycles
  results id r hr := h'.results id r (h.results id r hr)
  cyclesByDedup := h'.cyclesByDedup.trans h.cyclesByDedup
  episodesByKey := h'.episodesByKey.trans h.episodesByKey
  plans := h'.plans.trans h.plans
  drawn := h'.drawn.trans h.drawn

/-- What every call keeps: rows change by moves, and the tasks of a plan are those it was accepted
with. -/
structure Grows (o p : WorkflowOrchestrator κ) : Prop where
  tasks : ∀ id t, o.tasks.get? id = some t → ∃ t', p.tasks.get? id = some t' ∧ TaskMove t t'
  fresh : ∀ id t, p.tasks.get? id = some t → o.tasks.get? id = none →
    o.plans.get? t.episodeId = none
  episodes : ∀ id e, o.episodes.get? id = some e →
    ∃ e', p.episodes.get? id = some e' ∧ EpisodeMove e e'
  cycles : ∀ id c, o.cycles.get? id = some c → ∃ c', p.cycles.get? id = some c' ∧ CycleMove c c'
  results : ∀ id r, o.taskResults.get? id = some r → p.taskResults.get? id = some r
  cyclesByDedup : ∀ dedup c, o.cyclesByDedup.get? dedup = some c →
    p.cyclesByDedup.get? dedup = some c
  episodesByKey : ∀ key id, o.episodesByKey.get? key = some id →
    p.episodesByKey.get? key = some id
  plans : ∀ id plan, o.plans.get? id = some plan → p.plans.get? id = some plan

theorem Evolves.grows (h : Evolves o p) : Grows o p where
  tasks := h.tasks.move
  fresh id t ht hnone := by
    obtain ⟨t', ht', -⟩ := h.tasks.back ht
    rw [hnone] at ht'
    cases ht'
  episodes := h.episodes.move
  cycles := h.cycles.move
  results := h.results
  cyclesByDedup := by
    rw [h.cyclesByDedup]
    exact fun _ _ hc => hc
  episodesByKey := by
    rw [h.episodesByKey]
    exact fun _ _ hid => hid
  plans := by
    rw [h.plans]
    exact fun _ _ hplan => hplan

theorem Grows.refl (o : WorkflowOrchestrator κ) : Grows o o := (Evolves.refl o).grows

theorem Grows.trans (h : Grows o p) (h' : Grows p q) : Grows o q where
  tasks id t ht := by
    obtain ⟨t', ht', hmove⟩ := h.tasks id t ht
    obtain ⟨t'', ht'', hmove'⟩ := h'.tasks id t' ht'
    exact ⟨t'', ht'', hmove.trans hmove'⟩
  fresh id t ht hnone := by
    rcases hmid : p.tasks.get? id with _ | t'
    · have hplan := h'.fresh id t ht hmid
      rcases hold : o.plans.get? t.episodeId with _ | plan
      · rfl
      · rw [h.plans _ _ hold] at hplan
        cases hplan
    · obtain ⟨t'', ht'', hmove⟩ := h'.tasks id t' hmid
      obtain rfl := Option.some.inj (ht.symm.trans ht'')
      rw [hmove.episodeId]
      exact h.fresh id t' hmid hnone
  episodes id e he := by
    obtain ⟨e', he', hmove⟩ := h.episodes id e he
    obtain ⟨e'', he'', hmove'⟩ := h'.episodes id e' he'
    exact ⟨e'', he'', hmove.trans hmove'⟩
  cycles id c hc := by
    obtain ⟨c', hc', hmove⟩ := h.cycles id c hc
    obtain ⟨c'', hc'', hmove'⟩ := h'.cycles id c' hc'
    exact ⟨c'', hc'', hmove.trans hmove'⟩
  results id r hr := h'.results id r (h.results id r hr)
  cyclesByDedup dedup c hc := h'.cyclesByDedup dedup c (h.cyclesByDedup dedup c hc)
  episodesByKey key id hid := h'.episodesByKey key id (h.episodesByKey key id hid)
  plans id plan hplan := h'.plans id plan (h.plans id plan hplan)

/-! ### Rows under their ids -/

/-- Rows are stored under their ids, and the rows they refer to are there. -/
structure Keyed (o : WorkflowOrchestrator κ) : Prop where
  task : ∀ id t, o.tasks.get? id = some t → t.taskId = id ∧ id < o.drawn
  episode : ∀ id e, o.episodes.get? id = some e →
    e.fields.episodeId = id ∧ id < o.drawn ∧ ∃ c, o.cycles.get? e.fields.cycleId = some c
  cycle : ∀ id c, o.cycles.get? id = some c → c.fields.cycleId = id ∧ id < o.drawn
  plan : ∀ id plan, o.plans.get? id = some plan →
    plan.fields.episodeId = id ∧ ∃ e, o.episodes.get? id = some e
  /-- a task is that of a step -/
  owner : ∀ id t, o.tasks.get? id = some t → ∃ plan, o.plans.get? t.episodeId = some plan
    ∧ ∃ step ∈ plan.steps, step.stepKey = t.stepKey ∧ step.fields.roleId = t.fields.roleId
  /-- a step has one task -/
  unique : ∀ i j t u, o.tasks.get? i = some t → o.tasks.get? j = some u →
    t.episodeId = u.episodeId → t.stepKey = u.stepKey → t = u
  /-- the tasks of a plan are stored together -/
  whole : ∀ id plan, o.plans.get? id = some plan → o.tasksOf id = [] ∨ o.HasTasks id plan

variable {episodeId : ℕ} {t : WorkflowTask}

theorem Keyed.mem_tasksOf (h : o.Keyed) :
    t ∈ o.tasksOf episodeId ↔ o.tasks.get? t.taskId = some t ∧ t.episodeId = episodeId := by
  rw [tasksOf, List.mem_filter, decide_eq_true_iff, Dict.mem_values_iff]
  constructor
  · rintro ⟨⟨id, hid⟩, hepisode⟩
    rw [(h.task id t hid).1]
    exact ⟨hid, hepisode⟩
  · rintro ⟨hget, hepisode⟩
    exact ⟨⟨_, hget⟩, hepisode⟩

theorem mem_tasksOf_of_get? {id : ℕ} (h : o.tasks.get? id = some t) : t ∈ o.tasksOf t.episodeId :=
  List.mem_filter.mpr ⟨Dict.mem_values_iff.mpr ⟨id, h⟩, decide_eq_true rfl⟩

theorem exists_get?_of_mem_tasksOf (h : t ∈ o.tasksOf episodeId) :
    (∃ id, o.tasks.get? id = some t) ∧ t.episodeId = episodeId := by
  obtain ⟨hvalues, hepisode⟩ := List.mem_filter.mp h
  exact ⟨Dict.mem_values_iff.mp hvalues, of_decide_eq_true hepisode⟩

theorem Keyed.byKey_eq_some (h : o.Keyed) {key : Text} :
    o.byKey episodeId key = some t ↔ t ∈ o.tasksOf episodeId ∧ t.stepKey = key := by
  constructor
  · intro hfind
    have hkey := List.find?_some hfind
    exact ⟨List.mem_reverse.mp (List.mem_of_find?_eq_some hfind), of_decide_eq_true hkey⟩
  · rintro ⟨hmem, rfl⟩
    rcases hfind : o.byKey episodeId t.stepKey with _ | u
    · have hnone := List.find?_eq_none.mp hfind t (List.mem_reverse.mpr hmem)
      exact absurd (decide_eq_true rfl) hnone
    · have hu := List.mem_reverse.mp (List.mem_of_find?_eq_some hfind)
      have hkey := List.find?_some hfind
      obtain ⟨⟨i, hi⟩, hepisode⟩ := exists_get?_of_mem_tasksOf hmem
      obtain ⟨⟨j, hj⟩, hepisode'⟩ := exists_get?_of_mem_tasksOf hu
      rw [h.unique i j t u hi hj (hepisode.trans hepisode'.symm)
        (of_decide_eq_true hkey).symm]

theorem Evolves.mem_tasksOf (h : Evolves o p)
    (ht : t ∈ o.tasksOf episodeId) : ∃ t' ∈ p.tasksOf episodeId, TaskMove t t' := by
  obtain ⟨⟨id, hid⟩, hepisode⟩ := exists_get?_of_mem_tasksOf ht
  obtain ⟨t', ht', hmove⟩ := h.tasks.move id t hid
  exact ⟨t', hepisode ▸ hmove.episodeId ▸ mem_tasksOf_of_get? ht', hmove⟩

theorem Evolves.of_mem_tasksOf (h : Evolves o p) {t' : WorkflowTask}
    (ht : t' ∈ p.tasksOf episodeId) : ∃ t ∈ o.tasksOf episodeId, TaskMove t t' := by
  obtain ⟨⟨id, hid⟩, hepisode⟩ := exists_get?_of_mem_tasksOf ht
  obtain ⟨t, ht, hmove⟩ := h.tasks.back hid
  exact ⟨t, hepisode ▸ hmove.episodeId.symm ▸ mem_tasksOf_of_get? ht, hmove⟩

theorem Evolves.tasksOf_eq_nil_iff (h : Evolves o p) :
    p.tasksOf episodeId = [] ↔ o.tasksOf episodeId = [] := by
  simp only [List.eq_nil_iff_forall_not_mem]
  constructor
  · intro hnone t ht
    obtain ⟨t', ht', -⟩ := h.mem_tasksOf ht
    exact hnone t' ht'
  · intro hnone t' ht'
    obtain ⟨t, ht, -⟩ := h.of_mem_tasksOf ht'
    exact hnone t ht

/-- Rows stay under their ids. -/
theorem Keyed.evolves (h : o.Keyed) (hp : Evolves o p) : p.Keyed := by
  have hunique : ∀ i j t u, p.tasks.get? i = some t → p.tasks.get? j = some u →
      t.episodeId = u.episodeId → t.stepKey = u.stepKey → t = u := by
    intro i j t u hi hj hepisode hkey
    obtain ⟨t₀, ht₀, hmove⟩ := hp.tasks.back hi
    obtain ⟨u₀, hu₀, hmove'⟩ := hp.tasks.back hj
    have heq := h.unique i j t₀ u₀ ht₀ hu₀
      (by rw [← hmove.episodeId, ← hmove'.episodeId, hepisode])
      (by rw [← hmove.stepKey, ← hmove'.stepKey, hkey])
    subst heq
    obtain rfl : i = j := (h.task i t₀ ht₀).1.symm.trans (h.task j t₀ hu₀).1
    exact Option.some.inj (hi.symm.trans hj)
  refine ⟨fun id t ht => ?_, fun id e he => ?_, fun id c hc => ?_, fun id plan hplan => ?_,
    fun id t ht => ?_, hunique, fun id plan hplan => ?_⟩
  · obtain ⟨t₀, ht₀, hmove⟩ := hp.tasks.back ht
    rw [hmove.taskId, hp.drawn]
    exact h.task id t₀ ht₀
  · obtain ⟨e₀, he₀, hmove⟩ := hp.episodes.back he
    obtain ⟨hid, hlt, c, hc⟩ := h.episode id e₀ he₀
    obtain ⟨c', hc', -⟩ := hp.cycles.move _ c hc
    rw [hmove.same, hp.drawn]
    exact ⟨hid, hlt, c', hc'⟩
  · obtain ⟨c₀, hc₀, hmove⟩ := hp.cycles.back hc
    rw [hmove.same, hp.drawn]
    exact h.cycle id c₀ hc₀
  · rw [hp.plans] at hplan
    obtain ⟨hid, e, he⟩ := h.plan id plan hplan
    obtain ⟨e', he', -⟩ := hp.episodes.move id e he
    exact ⟨hid, e', he'⟩
  · obtain ⟨t₀, ht₀, hmove⟩ := hp.tasks.back ht
    rw [hmove.episodeId, hmove.stepKey, hmove.roleId, hp.plans]
    exact h.owner id t₀ ht₀
  · rw [hp.plans] at hplan
    rcases h.whole id plan hplan with hnil | htasks
    · exact .inl (hp.tasksOf_eq_nil_iff.mpr hnil)
    · refine .inr fun step hstep => ?_
      obtain ⟨t, ht⟩ := Option.isSome_iff_exists.mp (htasks step hstep)
      obtain ⟨hmem, hkey⟩ := h.byKey_eq_some.mp ht
      obtain ⟨t', ht', hmove⟩ := hp.mem_tasksOf hmem
      rw [Option.isSome_iff_ne_none]
      intro hnone
      have hnot := List.find?_eq_none.mp hnone t' (List.mem_reverse.mpr ht')
      exact hnot (decide_eq_true (hmove.stepKey.trans hkey))

end WorkflowOrchestrator

end FuturesAgentOs
