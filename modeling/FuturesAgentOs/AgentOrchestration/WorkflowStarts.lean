import FuturesAgentOs.AgentOrchestration.WorkflowCompletion

namespace FuturesAgentOs

open PyModel

/-!
# New cycles, episodes and plans

* `acceptDelegationPlan_spec` — a new plan, with its tasks or, when the constructor of one raises,
  without any.
-/

namespace WorkflowOrchestrator

variable {κ : Type} {o p : WorkflowOrchestrator κ} {episodeId : ℕ} {plan : DelegationPlan}

/-- A row under a new id. -/
theorem get?_set_drawn {α : Type} {d : Dict ℕ α} {n : ℕ} (hd : ∀ id v, d.get? id = some v → id < n)
    {id : ℕ} {v w : α} (hv : d.get? id = some v) : (d.set n w).get? id = some v := by
  rw [Dict.get?_set_of_ne d w (Nat.ne_of_lt (hd id v hv))]
  exact hv

theorem Inv.storeCycle_spec (h : o.Inv) {dedup : Text}
    (hdedup : o.cyclesByDedup.get? dedup = none) {cycle : AutonomyCycle}
    (hid : cycle.fields.cycleId = o.drawn) :
    (o.storeCycle dedup (.ok cycle)).2.Inv ∧ Grows o (o.storeCycle dedup (.ok cycle)).2 := by
  have hcycles : ∀ id c, o.cycles.get? id = some c →
      (o.cycles.set cycle.fields.cycleId cycle).get? id = some c := fun id c hc => by
    rw [hid]
    exact get?_set_drawn (fun j v hv => (h.base.keyed.cycle j v hv).2) hc
  refine ⟨⟨⟨⟨?_, ?_, ?_, h.base.keyed.plan, h.base.keyed.owner, h.base.keyed.unique,
    h.base.keyed.whole⟩, h.base.fed, h.base.result, h.base.completed, h.base.slots, ?_, ?_,
    h.base.typed⟩, fun other => ?_⟩, ?_⟩
  · exact fun id t ht => ⟨(h.base.keyed.task id t ht).1,
      Nat.lt_succ_of_lt (h.base.keyed.task id t ht).2⟩
  · intro id e he
    obtain ⟨hid', hlt, c, hc⟩ := h.base.keyed.episode id e he
    exact ⟨hid', Nat.lt_succ_of_lt hlt, c, hcycles _ c hc⟩
  · intro id c hc
    simp only [storeCycle, hid, Dict.get?_set] at hc
    split at hc
    · rename_i heq
      obtain rfl := Option.some.inj hc
      exact ⟨hid.trans heq.symm, heq ▸ Nat.lt_succ_self _⟩
    · obtain ⟨hid', hlt⟩ := h.base.keyed.cycle id c hc
      exact ⟨hid', Nat.lt_succ_of_lt hlt⟩
  · exact fun id e he hover => ⟨(h.base.ended id e he hover).terminal,
      (h.base.ended id e he hover).completed⟩
  · intro id e c he hc hruns
    obtain ⟨-, -, c', hc'⟩ := h.base.keyed.episode id e he
    obtain rfl := Option.some.inj ((hcycles _ c' hc').symm.trans hc)
    exact h.base.cycle id e c' he hc' hruns
  · exact ⟨(h.settled other).unblocked, (h.settled other).isOpen⟩
  · exact {
      Grows.refl o with
      cycles := fun id c hc => ⟨c, hcycles id c hc, CycleMove.refl c⟩
      cyclesByDedup := fun key c hc => by
        show (o.cyclesByDedup.set dedup cycle).get? key = some c
        rw [Dict.get?_set_of_ne]
        · exact hc
        · rintro rfl
          rw [hdedup] at hc
          cases hc }

theorem startCycle_cases [Hashlib] (o : WorkflowOrchestrator κ) (trigger : CycleTrigger)
    (expiresAt : ℤ) :
    (∃ e, o.startCycle trigger expiresAt = (.error e, o))
    ∨ (∃ dedup prior, trigger.deduplicationHash = .ok dedup
      ∧ o.cyclesByDedup.get? dedup = some prior ∧ prior.fields.trigger = trigger
      ∧ o.startCycle trigger expiresAt = (.ok prior, o))
    ∨ ∃ dedup cycle, trigger.deduplicationHash = .ok dedup
      ∧ o.cyclesByDedup.get? dedup = none
      ∧ cycle.fields = ⟨o.drawn, trigger, trigger.fields.occurredAt, expiresAt, .RUNNING⟩
      ∧ o.startCycle trigger expiresAt = o.storeCycle dedup (.ok cycle) := by
  unfold startCycle
  rcases trigger.deduplicationHash with e | dedup
  · exact .inl ⟨e, rfl⟩
  · rcases hdedup : o.cyclesByDedup.get? dedup with _ | prior
    · simp only [hdedup]
      generalize hmake : Frozen.make
        (⟨o.drawn, trigger, trigger.fields.occurredAt, expiresAt, .RUNNING⟩ :
          AutonomyCycleFields) = made
      rcases made with e | cycle
      · exact .inl ⟨e, rfl⟩
      · exact .inr (.inr ⟨dedup, cycle, rfl, hdedup, Frozen.make_eq_ok.mp hmake, rfl⟩)
    · simp only [hdedup]
      split
      · rename_i hsame
        exact .inr (.inl ⟨dedup, prior, rfl, hdedup, hsame, rfl⟩)
      · exact .inl ⟨_, rfl⟩

/-- **`start_cycle`** -/
theorem Inv.startCycle_spec [Hashlib] (h : o.Inv) (trigger : CycleTrigger) (expiresAt : ℤ) :
    (o.startCycle trigger expiresAt).2.Inv ∧ Grows o (o.startCycle trigger expiresAt).2 := by
  rcases startCycle_cases o trigger expiresAt with
    ⟨e, heq⟩ | ⟨-, prior, -, -, -, heq⟩ | ⟨dedup, cycle, -, hdedup, hfields, heq⟩
  · rw [heq]
    exact ⟨h, Grows.refl o⟩
  · rw [heq]
    exact ⟨h, Grows.refl o⟩
  · rw [heq]
    exact h.storeCycle_spec hdedup (by rw [hfields])

theorem Inv.storeEpisode_spec (h : o.Inv) {episode : DecisionEpisode}
    (hid : episode.fields.episodeId = o.drawn) (hruns : episode.fields.status = .RUNNING)
    (hkey : o.episodesByKey.get? (episode.fields.cycleId, episode.fields.candidateKey) = none)
    {cycle : AutonomyCycle} (hc : o.cycles.get? episode.fields.cycleId = some cycle)
    (hcycle : cycle.fields.status = .RUNNING) :
    (o.storeEpisode (.ok episode)).2.Inv ∧ Grows o (o.storeEpisode (.ok episode)).2 := by
  have hepisodes : ∀ id e, o.episodes.get? id = some e →
      (o.episodes.set episode.fields.episodeId episode).get? id = some e := fun id e he => by
    rw [hid]
    exact get?_set_drawn (fun j v hv => (h.base.keyed.episode j v hv).2.1) he
  have hcases : ∀ id e, (o.episodes.set episode.fields.episodeId episode).get? id = some e →
      id = o.drawn ∧ e = episode ∨ o.episodes.get? id = some e := by
    intro id e he
    rw [hid, Dict.get?_set] at he
    split at he
    · rename_i heq
      exact .inl ⟨heq, (Option.some.inj he).symm⟩
    · exact .inr he
  refine ⟨⟨⟨⟨?_, ?_, ?_, ?_, h.base.keyed.owner, h.base.keyed.unique, h.base.keyed.whole⟩,
    h.base.fed, h.base.result, h.base.completed, h.base.slots, ?_, ?_, h.base.typed⟩,
    fun other => ⟨fun e he hruns' => ?_, fun e he hruns' => ?_⟩⟩, ?_⟩
  · exact fun id t ht => ⟨(h.base.keyed.task id t ht).1,
      Nat.lt_succ_of_lt (h.base.keyed.task id t ht).2⟩
  · intro id e he
    rcases hcases id e he with ⟨rfl, rfl⟩ | hbefore
    · exact ⟨hid, Nat.lt_succ_self _, cycle, hc⟩
    · obtain ⟨hid', hlt, hstored⟩ := h.base.keyed.episode id e hbefore
      exact ⟨hid', Nat.lt_succ_of_lt hlt, hstored⟩
  · exact fun id c hc => ⟨(h.base.keyed.cycle id c hc).1,
      Nat.lt_succ_of_lt (h.base.keyed.cycle id c hc).2⟩
  · intro id plan hplan
    obtain ⟨hid', e, he⟩ := h.base.keyed.plan id plan hplan
    exact ⟨hid', e, hepisodes id e he⟩
  · intro id e he hover
    rcases hcases id e he with ⟨rfl, rfl⟩ | hbefore
    · exact absurd hruns hover
    · exact ⟨(h.base.ended id e hbefore hover).terminal,
        (h.base.ended id e hbefore hover).completed⟩
  · intro id e c he hc' hruns'
    rcases hcases id e he with ⟨rfl, rfl⟩ | hbefore
    · obtain rfl := Option.some.inj (hc.symm.trans hc')
      exact hcycle
    · exact h.base.cycle id e c hbefore hc' hruns'
  · rcases hcases other e he with ⟨rfl, rfl⟩ | hbefore
    · -- a new episode has no plan
      intro plan hplan
      obtain ⟨-, e', he'⟩ := h.base.keyed.plan _ plan hplan
      exact absurd (h.base.keyed.episode _ e' he').2.1 (Nat.lt_irrefl _)
    · exact (h.settled other).unblocked e hbefore hruns'
  · rcases hcases other e he with ⟨rfl, rfl⟩ | hbefore
    · intro hne
      obtain ⟨t, ht⟩ := List.exists_mem_of_ne_nil _ hne
      obtain ⟨⟨j, hj⟩, hepisode⟩ := exists_get?_of_mem_tasksOf ht
      obtain ⟨plan, hplan, -⟩ := h.base.keyed.owner j t hj
      obtain ⟨-, e', he'⟩ := h.base.keyed.plan _ plan (hepisode ▸ hplan)
      exact absurd (h.base.keyed.episode _ e' he').2.1 (Nat.lt_irrefl _)
    · exact (h.settled other).isOpen e hbefore hruns'
  · exact {
      Grows.refl o with
      episodes := fun id e he => ⟨e, hepisodes id e he, EpisodeMove.refl e⟩
      episodesByKey := fun key id hkey' => by
        show (o.episodesByKey.set (episode.fields.cycleId, episode.fields.candidateKey)
          episode.fields.episodeId).get? key = some id
        rw [Dict.get?_set_of_ne]
        · exact hkey'
        · rintro rfl
          rw [hkey] at hkey'
          cases hkey' }

theorem startEpisode_cases (o : WorkflowOrchestrator κ) (cycleId : ℕ) (candidateKey : Text)
    (expiresAt : ℤ) :
    (∃ e, o.startEpisode cycleId candidateKey expiresAt = (.error e, o))
    ∨ ∃ cycle, o.cycles.get? cycleId = some cycle ∧ cycle.fields.status = .RUNNING
      ∧ expiresAt ≤ cycle.fields.expiresAt
      ∧ ((∃ existing, o.episodesByKey.get? (cycleId, candidateKey) = some existing
          ∧ o.startEpisode cycleId candidateKey expiresAt = (o.episode existing, o))
        ∨ ∃ episode, o.episodesByKey.get? (cycleId, candidateKey) = none
          ∧ episode.fields = ⟨o.drawn, cycleId, candidateKey, cycle.fields.startedAt, expiresAt,
            .RUNNING, none⟩
          ∧ o.startEpisode cycleId candidateKey expiresAt = o.storeEpisode (.ok episode)) := by
  unfold startEpisode
  rcases hc : o.cycles.get? cycleId with _ | cycle
  · exact .inl ⟨_, rfl⟩
  · simp only
    split
    · exact .inl ⟨_, rfl⟩
    · rename_i hruns
      split
      · exact .inl ⟨_, rfl⟩
      · rename_i hle
        rcases hkey : o.episodesByKey.get? (cycleId, candidateKey) with _ | existing
        · simp only
          generalize hmake : Frozen.make
            (⟨o.drawn, cycleId, candidateKey, cycle.fields.startedAt, expiresAt, .RUNNING, none⟩ :
              DecisionEpisodeFields) = made
          rcases made with e | episode
          · exact .inl ⟨e, rfl⟩
          · exact .inr ⟨cycle, rfl, not_ne_iff.mp hruns, not_lt.mp hle,
              .inr ⟨episode, trivial, Frozen.make_eq_ok.mp hmake, rfl⟩⟩
        · exact .inr ⟨cycle, rfl, not_ne_iff.mp hruns, not_lt.mp hle, .inl ⟨existing, rfl, rfl⟩⟩

/-- **`start_episode`** -/
theorem Inv.startEpisode_spec (h : o.Inv) (cycleId : ℕ) (candidateKey : Text) (expiresAt : ℤ) :
    (o.startEpisode cycleId candidateKey expiresAt).2.Inv
      ∧ Grows o (o.startEpisode cycleId candidateKey expiresAt).2 := by
  rcases startEpisode_cases o cycleId candidateKey expiresAt with
    ⟨e, heq⟩ | ⟨cycle, hc, hruns, -, ⟨existing, -, heq⟩ | ⟨episode, hkey, hfields, heq⟩⟩
  · rw [heq]
    exact ⟨h, Grows.refl o⟩
  · rw [heq]
    exact ⟨h, Grows.refl o⟩
  · rw [heq]
    refine h.storeEpisode_spec ?_ ?_ ?_ ?_ hruns
    · rw [hfields]
    · rw [hfields]
    · rw [hfields]
      exact hkey
    · rw [hfields]
      exact hc

/-! ### Plans -/

/-- The tasks of a new plan: none, or one for each step. -/
structure NewTasks (plan : DelegationPlan) (n : ℕ) (tasks : List WorkflowTask) : Prop where
  ids : tasks.map WorkflowTask.taskId = List.range' n tasks.length
  keys : tasks = [] ∨ tasks.map WorkflowTask.stepKey = plan.steps.map DelegationStep.stepKey
  task : ∀ t ∈ tasks, t.episodeId = plan.fields.episodeId ∧ t.status = .PENDING
    ∧ ∃ step ∈ plan.steps, step.stepKey = t.stepKey ∧ step.fields.roleId = t.fields.roleId

theorem newTasks_eq_ok {n : ℕ} {steps : List DelegationStep} {tasks : List WorkflowTask}
    (h : plan.newTasks n steps = .ok tasks) :
    tasks.map WorkflowTask.taskId = List.range' n tasks.length
      ∧ tasks.map WorkflowTask.stepKey = steps.map DelegationStep.stepKey
      ∧ ∀ t ∈ tasks, t.episodeId = plan.fields.episodeId ∧ t.status = .PENDING
        ∧ ∃ step ∈ steps, step.stepKey = t.stepKey ∧ step.fields.roleId = t.fields.roleId := by
  induction steps generalizing n tasks with
  | nil =>
    obtain rfl := Except.ok.inj h
    exact ⟨rfl, rfl, fun t ht => absurd ht List.not_mem_nil⟩
  | cons step rest ih =>
    simp only [DelegationPlan.newTasks, Py.bind_eq_ok, Frozen.make_eq_ok] at h
    obtain ⟨deadlineAt, -, task, hfields, more, hmore, hcons⟩ := h
    obtain rfl := Except.ok.inj hcons
    obtain ⟨hids, hkeys, hall⟩ := ih hmore
    have hid : WorkflowTask.taskId task = n := (congrArg WorkflowTaskFields.taskId hfields :)
    have hkey : WorkflowTask.stepKey task = step.stepKey := (congrArg WorkflowTaskFields.stepKey hfields :)
    refine ⟨?_, ?_, List.forall_mem_cons.mpr ⟨⟨(congrArg WorkflowTaskFields.episodeId hfields :),
      (congrArg WorkflowTaskFields.status hfields :), step, List.mem_cons_self, hkey.symm,
      (congrArg WorkflowTaskFields.roleId hfields :).symm⟩, fun t ht => ?_⟩⟩
    · rw [List.map_cons, hids, hid, List.length_cons, List.range'_succ]
    · rw [List.map_cons, List.map_cons, hkeys, hkey]
    · obtain ⟨hepisode, hpending, other, hother, hsame⟩ := hall t ht
      exact ⟨hepisode, hpending, other, List.mem_cons_of_mem _ hother, hsame⟩

theorem newTasks_spec {n : ℕ} {tasks : List WorkflowTask}
    (h : plan.newTasks n plan.steps = .ok tasks) : NewTasks plan n tasks :=
  let ⟨hids, hkeys, hall⟩ := newTasks_eq_ok h
  ⟨hids, .inr hkeys, hall⟩

/-- A plan is stored with tasks. -/
def withPlan (o : WorkflowOrchestrator κ) (plan : DelegationPlan) (tasks : List WorkflowTask) :
    WorkflowOrchestrator κ :=
  { o with
    plans := o.plans.set plan.fields.episodeId plan
    tasks := o.tasks.update (tasks.map (fun task => (task.taskId, task)))
    drawn := o.drawn + tasks.length }

section

variable {tasks : List WorkflowTask}

theorem Keyed.tasksOf_eq_nil (h : o.Keyed) (hplan : o.plans.get? episodeId = none) :
    o.tasksOf episodeId = [] := by
  refine List.eq_nil_iff_forall_not_mem.mpr fun t ht => ?_
  obtain ⟨hget, hepisode⟩ := h.mem_tasksOf.mp ht
  obtain ⟨plan, hsome, -⟩ := h.owner _ t hget
  rw [hepisode, hplan] at hsome
  cases hsome

theorem NewTasks.keys_items (h : NewTasks plan o.drawn tasks) :
    (tasks.map (fun task => (task.taskId, task))).map Prod.fst
      = List.range' o.drawn tasks.length := by
  rw [List.map_map, ← h.ids]
  rfl

/-- The tasks are stored after those before. -/
theorem NewTasks.items (h : NewTasks plan o.drawn tasks) (hkeyed : o.Keyed) :
    (o.withPlan plan tasks).tasks.items
      = o.tasks.items ++ tasks.map (fun task => (task.taskId, task)) := by
  refine Dict.items_update_of_fresh ?_ fun item hitem => ?_
  · rw [h.keys_items]
    exact List.nodup_range'
  · have hmem : item.1 ∈ List.range' o.drawn tasks.length := by
      rw [← h.keys_items]
      exact List.mem_map_of_mem hitem
    rcases hget : o.tasks.get? item.1 with _ | t
    · rfl
    · obtain ⟨-, hlt⟩ := hkeyed.task _ t hget
      have hle := (List.mem_range'_1.mp hmem).1
      omega

theorem NewTasks.tasksOf_self (h : NewTasks plan o.drawn tasks) (hkeyed : o.Keyed)
    (hplan : o.plans.get? plan.fields.episodeId = none) :
    (o.withPlan plan tasks).tasksOf plan.fields.episodeId = tasks := by
  have hbefore := hkeyed.tasksOf_eq_nil hplan
  rw [tasksOf, Dict.values] at hbefore
  rw [tasksOf, Dict.values, h.items hkeyed, List.map_append, List.filter_append, hbefore,
    List.nil_append, List.map_map]
  have hid : tasks.map (Prod.snd ∘ fun task => (task.taskId, task)) = tasks := List.map_id _
  rw [hid]
  exact List.filter_eq_self.mpr fun t ht => decide_eq_true (h.task t ht).1

theorem NewTasks.tasksOf_of_ne (h : NewTasks plan o.drawn tasks) (hkeyed : o.Keyed)
    (hne : episodeId ≠ plan.fields.episodeId) :
    (o.withPlan plan tasks).tasksOf episodeId = o.tasksOf episodeId := by
  rw [tasksOf, Dict.values, h.items hkeyed, List.map_append, List.filter_append, List.map_map]
  have hid : tasks.map (Prod.snd ∘ fun task => (task.taskId, task)) = tasks := List.map_id _
  have hnil : tasks.filter (fun task => task.episodeId = episodeId) = [] :=
    List.filter_eq_nil_iff.mpr fun t ht => by
      rw [decide_eq_true_iff, (h.task t ht).1]
      exact fun heq => hne heq.symm
  rw [hid, hnil, List.append_nil]
  rfl

/-- A row is one of before, of another episode, or a new one. -/
theorem NewTasks.get?_cases (h : NewTasks plan o.drawn tasks) (hkeyed : o.Keyed)
    (hplan : o.plans.get? plan.fields.episodeId = none) {id : ℕ} {t : WorkflowTask}
    (ht : (o.withPlan plan tasks).tasks.get? id = some t) :
    (o.tasks.get? id = some t ∧ t.episodeId ≠ plan.fields.episodeId)
      ∨ t ∈ tasks ∧ t.taskId = id ∧ o.drawn ≤ id ∧ id < o.drawn + tasks.length := by
  rw [← Dict.mem_items_iff, h.items hkeyed, List.mem_append] at ht
  rcases ht with hbefore | hnew
  · have hget := Dict.mem_items_iff.mp hbefore
    refine .inl ⟨hget, fun heq => ?_⟩
    obtain ⟨plan', hplan', -⟩ := hkeyed.owner id t hget
    rw [heq, hplan] at hplan'
    cases hplan'
  · obtain ⟨u, hu, heq⟩ := List.mem_map.mp hnew
    obtain ⟨rfl, rfl⟩ := Prod.mk.inj heq
    have hmem : u.taskId ∈ List.range' o.drawn tasks.length := by
      rw [← h.ids]
      exact List.mem_map_of_mem hu
    exact .inr ⟨hu, rfl, List.mem_range'_1.mp hmem⟩

/-- A row of before is found. -/
theorem NewTasks.get?_of_get? (h : NewTasks plan o.drawn tasks) (hkeyed : o.Keyed) {id : ℕ}
    {t : WorkflowTask} (ht : o.tasks.get? id = some t) :
    (o.withPlan plan tasks).tasks.get? id = some t := by
  rw [← Dict.mem_items_iff, h.items hkeyed]
  exact List.mem_append_left _ (Dict.mem_items_iff.mpr ht)

theorem isSome_byKey_iff {key : Text} :
    (o.byKey episodeId key).isSome = true ↔ ∃ t ∈ o.tasksOf episodeId, t.stepKey = key := by
  rw [byKey, List.find?_isSome]
  simp only [List.mem_reverse, decide_eq_true_iff]

theorem NewTasks.keyed (h : NewTasks plan o.drawn tasks) (hkeyed : o.Keyed)
    (hplan : o.plans.get? plan.fields.episodeId = none) {episode : DecisionEpisode}
    (he : o.episodes.get? plan.fields.episodeId = some episode) :
    (o.withPlan plan tasks).Keyed := by
  have hdrawn : ∀ {id : ℕ}, id < o.drawn → id < o.drawn + tasks.length := fun hlt =>
    Nat.lt_of_lt_of_le hlt (Nat.le_add_right _ _)
  have hplans : ∀ id, id ≠ plan.fields.episodeId →
      (o.withPlan plan tasks).plans.get? id = o.plans.get? id := fun id hne =>
    Dict.get?_set_of_ne _ _ hne
  have hnew : (o.withPlan plan tasks).plans.get? plan.fields.episodeId = some plan :=
    Dict.get?_set_self _ _ _
  refine ⟨fun id t ht => ?_, fun id e he => ?_, fun id c hc => ?_, fun id plan' hplan' => ?_,
    fun id t ht => ?_, fun i j t u hi hj hepisode hkey => ?_, fun id plan' hplan' => ?_⟩
  · rcases h.get?_cases hkeyed hplan ht with ⟨hbefore, -⟩ | ⟨-, hid, -, hlt⟩
    · obtain ⟨hid, hlt⟩ := hkeyed.task id t hbefore
      exact ⟨hid, hdrawn hlt⟩
    · exact ⟨hid, hlt⟩
  · obtain ⟨hid, hlt, hcycle⟩ := hkeyed.episode id e he
    exact ⟨hid, hdrawn hlt, hcycle⟩
  · obtain ⟨hid, hlt⟩ := hkeyed.cycle id c hc
    exact ⟨hid, hdrawn hlt⟩
  · by_cases hid : id = plan.fields.episodeId
    · subst hid
      obtain rfl := Option.some.inj (hnew.symm.trans hplan')
      exact ⟨rfl, episode, he⟩
    · rw [hplans id hid] at hplan'
      exact hkeyed.plan id plan' hplan'
  · rcases h.get?_cases hkeyed hplan ht with ⟨hbefore, hne⟩ | ⟨hmem, -⟩
    · rw [hplans _ hne]
      exact hkeyed.owner id t hbefore
    · obtain ⟨hepisode, -, hstep⟩ := h.task t hmem
      rw [hepisode]
      exact ⟨plan, hnew, hstep⟩
  · rcases h.get?_cases hkeyed hplan hi with ⟨hbefore, hne⟩ | ⟨hmem, -⟩ <;>
    rcases h.get?_cases hkeyed hplan hj with ⟨hbefore', hne'⟩ | ⟨hmem', -⟩
    · exact hkeyed.unique i j t u hbefore hbefore' hepisode hkey
    · exact absurd (hepisode.trans (h.task u hmem').1) hne
    · exact absurd (hepisode.symm.trans (h.task t hmem).1) hne'
    · -- the steps of a plan have different keys
      have hnodup : (tasks.map WorkflowTask.stepKey).Nodup := by
        rcases h.keys with hnil | hkeys
        · rw [hnil]
          exact List.nodup_nil
        · have hvalid := plan.valid
          simp only [postInit, DelegationPlanFields.postInit, require_bind_eq_ok] at hvalid
          rw [hkeys]
          exact hvalid.2.1.2
      exact List.inj_on_of_nodup_map hnodup hmem hmem' hkey
  · by_cases hid : id = plan.fields.episodeId
    · subst hid
      obtain rfl := Option.some.inj (hnew.symm.trans hplan')
      have htasks := h.tasksOf_self hkeyed hplan
      rcases h.keys with hnil | hkeys
      · exact .inl (htasks.trans hnil)
      · refine .inr fun step hstep => isSome_byKey_iff.mpr ?_
        have hkey : step.stepKey ∈ tasks.map WorkflowTask.stepKey := by
          rw [hkeys]
          exact List.mem_map_of_mem hstep
        obtain ⟨t, ht, hsame⟩ := List.mem_map.mp hkey
        rw [htasks]
        exact ⟨t, ht, hsame⟩
    · rw [hplans id hid] at hplan'
      have htasks := h.tasksOf_of_ne hkeyed hid
      rw [htasks]
      refine (hkeyed.whole id plan' hplan').imp_right fun hall step hstep => ?_
      rw [isSome_byKey_iff, htasks]
      exact isSome_byKey_iff.mp (hall step hstep)

theorem NewTasks.inv (h : NewTasks plan o.drawn tasks) (hinv : o.Inv)
    (hplan : o.plans.get? plan.fields.episodeId = none) {episode : DecisionEpisode}
    (he : o.episodes.get? plan.fields.episodeId = some episode)
    (hruns : episode.fields.status = .RUNNING) :
    (o.withPlan plan tasks).Inv := by
  have hkeyed := hinv.base.keyed
  have hself := h.tasksOf_self hkeyed hplan
  have hplans : ∀ id, id ≠ plan.fields.episodeId →
      (o.withPlan plan tasks).plans.get? id = o.plans.get? id := fun id hne =>
    Dict.get?_set_of_ne _ _ hne
  have hfed : ∀ t, t.episodeId ≠ plan.fields.episodeId → o.Fed t → (o.withPlan plan tasks).Fed t := by
    intro t hne hfed plan' hplan' step hstep hkey name hname
    rw [hplans _ hne] at hplan'
    obtain ⟨u, hu, hcompleted⟩ := hfed plan' hplan' step hstep hkey name hname
    refine ⟨u, ?_, hcompleted⟩
    rw [byKey, h.tasksOf_of_ne hkeyed hne]
    exact hu
  refine ⟨⟨h.keyed hkeyed hplan he, fun id t ht hor => ?_, fun id r hr => ?_, fun id t ht hstatus => ?_,
    fun id plan' hplan' => ?_, fun id e he' hover => ?_, hinv.base.cycle,
    fun id t r ht hr => ?_⟩, fun other => ?_⟩
  · rcases h.get?_cases hkeyed hplan ht with ⟨hbefore, hne⟩ | ⟨hmem, -, hle, -⟩
    · exact hfed t hne (hinv.base.fed id t hbefore hor)
    · rcases hor with hrunning | ⟨r, hr⟩
      · rw [(h.task t hmem).2.1] at hrunning
        cases hrunning
      · obtain ⟨-, u, hu, -⟩ := hinv.base.result id r hr
        have hlt := (hkeyed.task id u hu).2
        omega
  · obtain ⟨hid, t, ht, hstatus⟩ := hinv.base.result id r hr
    exact ⟨hid, t, h.get?_of_get? hkeyed ht, hstatus⟩
  · rcases h.get?_cases hkeyed hplan ht with ⟨hbefore, -⟩ | ⟨hmem, -⟩
    · exact hinv.base.completed id t hbefore hstatus
    · rw [(h.task t hmem).2.1] at hstatus
      cases hstatus
  · by_cases hid : id = plan.fields.episodeId
    · have hbudget := plan'.fields.cycleBudget.valid
      simp only [postInit, require_eq_ok] at hbudget
      have hpositive := hbudget plan'.fields.cycleBudget.fields.maxParallelTasks (by simp)
      have hnone : (o.withPlan plan tasks).running id = 0 := by
        rw [running, hid, hself, List.countP_eq_zero]
        intro t ht
        rw [(h.task t ht).2.1]
        decide
      omega
    · rw [hplans id hid] at hplan'
      rw [running, h.tasksOf_of_ne hkeyed hid]
      exact hinv.base.slots id plan' hplan'
  · have hid : id ≠ plan.fields.episodeId := by
      rintro rfl
      obtain rfl := Option.some.inj (he.symm.trans he')
      exact hover hruns
    have hbefore := hinv.base.ended id e he' hover
    refine ⟨?_, fun hcompleted => ?_⟩
    · rw [h.tasksOf_of_ne hkeyed hid]
      exact hbefore.terminal
    · rw [CriticRejected, h.tasksOf_of_ne hkeyed hid]
      exact hbefore.completed hcompleted
  · rcases h.get?_cases hkeyed hplan ht with ⟨hbefore, hne⟩ | ⟨-, -, hle, -⟩
    · intro hcompleted plan' hplan'
      rw [hplans _ hne] at hplan'
      exact hinv.base.typed id t r hbefore hr hcompleted plan' hplan'
    · obtain ⟨-, u, hu, -⟩ := hinv.base.result id r hr
      have hlt := (hkeyed.task id u hu).2
      omega
  · by_cases hid : other = plan.fields.episodeId
    · subst hid
      refine ⟨fun _ _ _ plan' _ step _ t _ _ _ u hu _ hends => ?_, fun _ _ _ hne => ?_⟩
      · rw [hself] at hu
        rw [(h.task u hu).2.1] at hends
        exact absurd hends (by decide)
      · obtain ⟨t, ht⟩ := List.exists_mem_of_ne_nil _ hne
        refine ⟨t, ht, ?_⟩
        rw [hself] at ht
        rw [(h.task t ht).2.1]
        decide
    · have hsettled := hinv.settled other
      refine ⟨fun e he' hruns' plan' hplan' => ?_, fun e he' hruns' => ?_⟩
      · rw [hplans other hid] at hplan'
        rw [h.tasksOf_of_ne hkeyed hid]
        exact hsettled.unblocked e he' hruns' plan' hplan'
      · rw [Open, h.tasksOf_of_ne hkeyed hid]
        exact hsettled.isOpen e he' hruns'

/-- What was there is kept. -/
theorem NewTasks.grows (h : NewTasks plan o.drawn tasks) (hkeyed : o.Keyed)
    (hplan : o.plans.get? plan.fields.episodeId = none) : Grows o (o.withPlan plan tasks) where
  tasks id t ht := ⟨t, h.get?_of_get? hkeyed ht, TaskMove.refl t⟩
  fresh id t ht hnone := by
    rcases h.get?_cases hkeyed hplan ht with ⟨hbefore, -⟩ | ⟨hmem, -⟩
    · rw [hnone] at hbefore
      cases hbefore
    · rw [(h.task t hmem).1]
      exact hplan
  episodes := (Grows.refl o).episodes
  cycles := (Grows.refl o).cycles
  results := (Grows.refl o).results
  cyclesByDedup := (Grows.refl o).cyclesByDedup
  episodesByKey := (Grows.refl o).episodesByKey
  plans id plan' hplan' := by
    have hne : id ≠ plan.fields.episodeId := by
      rintro rfl
      rw [hplan] at hplan'
      cases hplan'
    show (o.plans.set plan.fields.episodeId plan).get? id = some plan'
    rw [Dict.get?_set_of_ne _ _ hne]
    exact hplan'

end

theorem acceptDelegationPlan_cases (o : WorkflowOrchestrator κ) (plan : DelegationPlan) :
    (∃ e, o.acceptDelegationPlan plan = (.error e, o))
    ∨ ∃ episode, o.episodes.get? plan.fields.episodeId = some episode
      ∧ episode.fields.cycleId = plan.fields.cycleId ∧ episode.fields.status = .RUNNING
      ∧ plan.fields.expiresAt ≤ episode.fields.expiresAt
      ∧ ((o.plans.get? plan.fields.episodeId = some plan
          ∧ o.acceptDelegationPlan plan = (.ok (o.tasksOf plan.fields.episodeId), o))
        ∨ (o.plans.get? plan.fields.episodeId = none
          ∧ ((∃ tasks, NewTasks plan o.drawn tasks
              ∧ o.acceptDelegationPlan plan = (.ok tasks, o.withPlan plan tasks))
            ∨ ∃ e, o.acceptDelegationPlan plan = (.error e, o.withPlan plan [])))) := by
  unfold acceptDelegationPlan
  split
  · exact .inl ⟨_, rfl⟩
  · rename_i episode hfound
    obtain ⟨he, hmatch⟩ := Option.filter_eq_some_iff.mp hfound
    obtain ⟨hcycle, hruns⟩ := of_decide_eq_true hmatch
    split
    · exact .inl ⟨_, rfl⟩
    · rename_i hle
      rcases hplan : o.plans.get? plan.fields.episodeId with _ | existing
      · refine .inr ⟨episode, he, hcycle, hruns, not_lt.mp hle, .inr ⟨rfl, ?_⟩⟩
        simp only
        rcases hnew : plan.newTasks o.drawn plan.steps with e | tasks
        · exact .inr ⟨e, rfl⟩
        · exact .inl ⟨tasks, newTasks_spec hnew, rfl⟩
      · simp only
        split
        · rename_i hsame
          exact .inr ⟨episode, he, hcycle, hruns, not_lt.mp hle, .inl ⟨by rw [hsame], rfl⟩⟩
        · exact .inl ⟨_, rfl⟩

theorem newTasks_nil (plan : DelegationPlan) (n : ℕ) : NewTasks plan n [] :=
  ⟨rfl, .inl rfl, fun _ ht => absurd ht List.not_mem_nil⟩

/-- **`accept_delegation_plan`** -/
theorem Inv.acceptDelegationPlan_spec (h : o.Inv) (plan : DelegationPlan) :
    (o.acceptDelegationPlan plan).2.Inv ∧ Grows o (o.acceptDelegationPlan plan).2 := by
  rcases acceptDelegationPlan_cases o plan with
    ⟨e, heq⟩ | ⟨episode, he, -, hruns, -, ⟨-, heq⟩ | ⟨hplan, ⟨tasks, htasks, heq⟩ | ⟨e, heq⟩⟩⟩
  · rw [heq]
    exact ⟨h, Grows.refl o⟩
  · rw [heq]
    exact ⟨h, Grows.refl o⟩
  · rw [heq]
    exact ⟨htasks.inv h hplan he hruns, htasks.grows h.base.keyed hplan⟩
  · rw [heq]
    exact ⟨(newTasks_nil plan o.drawn).inv h hplan he hruns,
      (newTasks_nil plan o.drawn).grows h.base.keyed hplan⟩

end WorkflowOrchestrator

end FuturesAgentOs
