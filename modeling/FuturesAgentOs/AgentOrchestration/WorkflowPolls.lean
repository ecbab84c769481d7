import FuturesAgentOs.AgentOrchestration.WorkflowEndings

namespace FuturesAgentOs

open PyModel

/-!
# Polling and claiming

`ready_tasks` gives the ready tasks of a plan their inputs, and `claim_ready_tasks` stores them as
running.

* `readyTasks_spec`, `claim_spec` — both calls.
-/

theorem DelegationPlan.step_unique (plan : DelegationPlan) {step other : DelegationStep}
    (hstep : step ∈ plan.steps) (hother : other ∈ plan.steps) (hkey : step.stepKey = other.stepKey) :
    step = other := by
  have hvalid := plan.valid
  simp only [postInit, DelegationPlanFields.postInit, require_bind_eq_ok] at hvalid
  exact List.inj_on_of_nodup_map hvalid.2.1.2 hstep hother hkey

namespace WorkflowOrchestrator

variable {κ : Type} {o p q : WorkflowOrchestrator κ} {episodeId : ℕ} {plan : DelegationPlan}

/-- The inputs of tasks change. -/
structure Polls (o p : WorkflowOrchestrator κ) : Prop where
  evolves : Evolves o p
  status : ∀ id t t', o.tasks.get? id = some t → p.tasks.get? id = some t' → t'.status = t.status
  results : p.taskResults = o.taskResults
  episodes : p.episodes = o.episodes
  cycles : p.cycles = o.cycles

theorem Polls.refl (o : WorkflowOrchestrator κ) : Polls o o := by
  refine ⟨Evolves.refl o, fun id t t' ht ht' => ?_, rfl, rfl, rfl⟩
  rw [Option.some.inj (ht.symm.trans ht')]

theorem Polls.trans (h : Polls o p) (h' : Polls p q) : Polls o q := by
  refine ⟨h.evolves.trans h'.evolves, fun id t t'' ht ht'' => ?_, h'.results.trans h.results,
    h'.episodes.trans h.episodes, h'.cycles.trans h.cycles⟩
  obtain ⟨t', ht', -⟩ := h.evolves.tasks.move id t ht
  exact (h'.status id t' t'' ht' ht'').trans (h.status id t t' ht ht')

theorem Polls.running (h : Polls o p) (episodeId : ℕ) :
    p.running episodeId ≤ o.running episodeId := by
  have hle := h.evolves.running_le episodeId [] fun id t t' ht ht' _ hrunning =>
    .inl ((h.status id t t' ht ht').symm.trans hrunning)
  simpa using hle

/-- The invariant is kept. -/
theorem Polls.inv (h : Polls o p) (hinv : o.Inv) : p.Inv := by
  refine ⟨hinv.base.rewrite h.evolves h.episodes h.cycles
    (fun id t t' ht ht' hrunning => .inl ((h.status id t t' ht ht').symm.trans hrunning))
    (fun id r hr => .inl ?_)
    (fun id t t' ht ht' hcompleted => .inl ((h.status id t t' ht ht').symm.trans hcompleted))
    (fun id plan hplan => ?_), fun other => ?_⟩
  · rw [← h.results]
    exact hr
  · have hle := h.running id
    have hslots := hinv.base.slots id plan hplan
    omega
  · refine (hinv.settled other).evolves h.evolves fun id t t' ht ht' _ hends => ?_
    rw [← h.status id t t' ht ht']
    exact hends

theorem readyTask_eq_ok {step : DelegationStep} {task ready : WorkflowTask} :
    o.readyTask episodeId step task = .ok ready ↔
      ∃ resolved, o.resolvedInputArtifacts episodeId step = .ok resolved
        ∧ ready.fields = { task.fields with inputArtifacts := resolved } := by
  rw [readyTask, Py.bind_eq_ok]
  simp only [Frozen.replace_eq_ok]

theorem Keyed.polls_setTask (h : o.Keyed) {key : Text} {task ready : WorkflowTask}
    {resolved : List ArtifactRef} (ht : o.byKey episodeId key = some task)
    (hpending : task.status = .PENDING)
    (hready : ready.fields = { task.fields with inputArtifacts := resolved }) :
    Polls o (o.setTask ready) := by
  obtain ⟨hget, -⟩ := h.mem_tasksOf.mp (h.byKey_eq_some.mp ht).1
  have hid : ready.taskId = task.taskId := (congrArg WorkflowTaskFields.taskId hready :)
  have hstatus : ready.status = task.status := (congrArg WorkflowTaskFields.status hready :)
  have hmove : TaskMove task ready := by
    refine ⟨by rw [hready], fun hterminal => ?_, fun _ => hpending⟩
    rw [hpending] at hterminal
    exact absurd hterminal (by decide)
  refine ⟨{ Evolves.refl o with tasks := ?_ }, fun id t t' ht ht' => ?_, rfl, rfl, rfl⟩
  · rw [← hid] at hget
    exact Dict.rewrites_set TaskMove.refl hget hmove
  · rw [setTask, hid, Dict.get?_set] at ht'
    split at ht'
    · rename_i heq
      rw [heq] at ht
      rw [← Option.some.inj ht', hstatus, Option.some.inj (hget.symm.trans ht)]
    · rw [Option.some.inj (ht.symm.trans ht')]

/-- A pending task of the episode with completed dependencies, as it was when it was polled. -/
def IsReady (o : WorkflowOrchestrator κ) (episodeId : ℕ) (t : WorkflowTask) : Prop :=
  t.episodeId = episodeId ∧ o.Fed t
    ∧ ∃ u, o.tasks.get? t.taskId = some u ∧ u.status = .PENDING ∧ TaskMove t u

variable {t : WorkflowTask} {ready : List WorkflowTask}

theorem IsReady.polls (h : Polls o p) (hkeyed : o.Keyed)
    (ht : o.IsReady episodeId t) : p.IsReady episodeId t := by
  obtain ⟨hepisode, hfed, u, hu, hpending, hmove⟩ := ht
  obtain ⟨v, hv, hmove'⟩ := h.evolves.tasks.move _ u hu
  exact ⟨hepisode, hfed.evolves hkeyed h.evolves (TaskMove.refl t), v, hv,
    (h.status _ u v hu hv).trans hpending, hmove.trans hmove'⟩

/-- **The loop of `ready_tasks`.** -/
theorem Keyed.pollSteps_spec (h : o.Keyed) (hplan : o.plans.get? episodeId = some plan)
    {steps : List DelegationStep} (hsteps : ∀ step ∈ steps, step ∈ plan.steps) :
    Polls o (pollSteps episodeId steps o).2
      ∧ ∀ ready, (pollSteps episodeId steps o).1 = .ok ready →
        (ready.map WorkflowTask.stepKey).Sublist (steps.map DelegationStep.stepKey)
          ∧ ∀ t ∈ ready, (pollSteps episodeId steps o).2.IsReady episodeId t := by
  induction steps generalizing o with
  | nil =>
    refine ⟨Polls.refl o, fun ready hready => ?_⟩
    obtain rfl := Except.ok.inj hready
    exact ⟨List.Sublist.refl _, fun t ht => absurd ht List.not_mem_nil⟩
  | cons step rest ih =>
    rw [List.forall_mem_cons] at hsteps
    rcases ht : o.byKey episodeId step.stepKey with _ | task
    · simp only [pollSteps, ht]
      exact ⟨Polls.refl o, fun ready hready => by cases hready⟩
    · simp only [pollSteps, ht]
      split
      · rename_i hpoll
        rcases hready : o.readyTask episodeId step task with e | ready
        · exact ⟨Polls.refl o, fun ready hready => by cases hready⟩
        · obtain ⟨resolved, -, hfields⟩ := readyTask_eq_ok.mp hready
          obtain ⟨hmem, hkey⟩ := h.byKey_eq_some.mp ht
          obtain ⟨-, hepisode⟩ := h.mem_tasksOf.mp hmem
          have hpolls := h.polls_setTask ht hpoll.1 hfields
          have hkeyed := h.evolves hpolls.evolves
          have hepisode' : ready.episodeId = episodeId :=
            (congrArg WorkflowTaskFields.episodeId hfields :).trans hepisode
          have hkey' : ready.stepKey = step.stepKey :=
            (congrArg WorkflowTaskFields.stepKey hfields :).trans hkey
          have hfed : (o.setTask ready).Fed ready := by
            intro plan' hplan' other hother hsame
            rw [hepisode'] at hplan' ⊢
            obtain rfl := Option.some.inj (hplan.symm.trans hplan')
            rw [plan.step_unique hother hsteps.1 (hsame.trans hkey')]
            exact hpoll.2.evolves h hpolls.evolves
          have hready₁ : (o.setTask ready).IsReady episodeId ready := by
            refine ⟨hepisode', hfed, ready, Dict.get?_set_self _ _ _, ?_, TaskMove.refl ready⟩
            exact (congrArg WorkflowTaskFields.status hfields :).trans hpoll.1
          obtain ⟨hrest, hanswer⟩ := ih hkeyed hplan hsteps.2
          simp only [storeReady, andThen_ok]
          rcases hmore : pollSteps episodeId rest (o.setTask ready) with ⟨a | more, q⟩
          · rw [hmore] at hrest
            exact ⟨hpolls.trans hrest, fun _ hnot => by cases hnot⟩
          · rw [hmore] at hrest hanswer
            obtain ⟨hsublist, hall⟩ := hanswer more rfl
            refine ⟨hpolls.trans hrest, fun answer hok => ?_⟩
            obtain rfl := Except.ok.inj hok
            refine ⟨?_, List.forall_mem_cons.mpr ⟨hready₁.polls hrest hkeyed, hall⟩⟩
            rw [List.map_cons, List.map_cons, hkey']
            exact hsublist.cons_cons _
      · obtain ⟨hrest, hanswer⟩ := ih h hplan hsteps.2
        refine ⟨hrest, fun ready hready => ?_⟩
        obtain ⟨hsublist, hall⟩ := hanswer ready hready
        exact ⟨hsublist.cons _, hall⟩

/-- **What a poll answers.** -/
structure Claimable (o : WorkflowOrchestrator κ) (episodeId : ℕ) (ready : List WorkflowTask) :
    Prop where
  nodup : (ready.map WorkflowTask.taskId).Nodup
  task : ∀ t ∈ ready, o.IsReady episodeId t
  slots : ∀ plan, o.plans.get? episodeId = some plan →
    (o.running episodeId + ready.length : ℤ) ≤ plan.fields.cycleBudget.fields.maxParallelTasks

theorem Base.claimable_nil (h : o.Base) (episodeId : ℕ) : o.Claimable episodeId [] := by
  refine ⟨List.nodup_nil, fun t ht => absurd ht List.not_mem_nil, fun plan hplan => ?_⟩
  simpa using h.slots episodeId plan hplan

theorem Claimable.take (h : o.Claimable episodeId ready) (n : ℕ) :
    o.Claimable episodeId (ready.take n) := by
  refine ⟨h.nodup.sublist ((List.take_sublist n ready).map _),
    fun t ht => h.task t (List.mem_of_mem_take ht), fun plan hplan => ?_⟩
  have hslots := h.slots plan hplan
  have hle := List.length_take_le' n ready
  omega

/-- Tasks of different steps have different ids. -/
theorem nodup_taskId (hkeys : (ready.map WorkflowTask.stepKey).Nodup)
    (hready : ∀ t ∈ ready, o.IsReady episodeId t) : (ready.map WorkflowTask.taskId).Nodup := by
  have hinj : ∀ t ∈ ready, ∀ u ∈ ready, t.taskId = u.taskId → t = u := by
    intro t ht u hu hid
    obtain ⟨-, -, t', ht', -, hmove⟩ := hready t ht
    obtain ⟨-, -, u', hu', -, hmove'⟩ := hready u hu
    rw [hid] at ht'
    obtain rfl := Option.some.inj (ht'.symm.trans hu')
    exact List.inj_on_of_nodup_map hkeys ht hu (hmove.stepKey.symm.trans hmove'.stepKey)
  exact List.Nodup.map_on hinj hkeys.of_map

/-- The end of `ready_tasks`. -/
theorem Inv.pollEpisode_spec (h : o.Inv) (hplan : o.plans.get? episodeId = some plan) :
    Polls o (o.pollEpisode episodeId plan).2
      ∧ ∀ ready, (o.pollEpisode episodeId plan).1 = .ok ready →
        (o.pollEpisode episodeId plan).2.Claimable episodeId ready := by
  unfold pollEpisode
  split
  · obtain ⟨hpolls, hanswer⟩ := h.base.keyed.pollSteps_spec hplan fun _ hstep => hstep
    rcases hpoll : pollSteps episodeId plan.steps o with ⟨a | ready, p⟩
    · rw [hpoll] at hpolls
      exact ⟨hpolls, fun ready hready => by cases hready⟩
    · rw [hpoll] at hpolls hanswer
      obtain ⟨hsublist, hready⟩ := hanswer ready rfl
      refine ⟨hpolls, fun answer hok => ?_⟩
      obtain rfl := Except.ok.inj hok
      have hkeys : (ready.map WorkflowTask.stepKey).Nodup := by
        have hvalid := plan.valid
        simp only [postInit, DelegationPlanFields.postInit, require_bind_eq_ok] at hvalid
        exact hvalid.2.1.2.sublist hsublist
      have hbase := (hpolls.inv h).base
      refine ⟨(nodup_taskId hkeys hready).sublist ((List.take_sublist _ ready).map _),
        fun t ht => hready t (List.mem_of_mem_take ht), fun plan' hplan' => ?_⟩
      have hrunning : p.running episodeId ≤ o.running episodeId := hpolls.running episodeId
      have hslots : (p.running episodeId : ℤ)
        ≤ plan'.fields.cycleBudget.fields.maxParallelTasks := hbase.slots episodeId plan' hplan'
      rw [andThen_ok] at hplan' ⊢
      rw [hpolls.evolves.plans, hplan] at hplan'
      obtain rfl := Option.some.inj hplan'
      have hle := List.length_take_le (o.slots episodeId plan) ready
      simp only [WorkflowOrchestrator.slots] at hle ⊢
      omega
  · exact ⟨Polls.refl o, fun ready hready => by
      obtain rfl := Except.ok.inj hready
      exact h.base.claimable_nil episodeId⟩

/-- **`ready_tasks`**, once the episode is brought up to date. -/
theorem Inv.readyTasks_cases (h : o.Inv) (episodeId : ℕ) (now : ℤ) :
    ∃ p, p.Inv ∧ Stops episodeId o p ∧ (o.timeout episodeId now).2 = p
      ∧ (((o.readyTasks episodeId now).2 = p
          ∧ ((o.readyTasks episodeId now).1.Raises ∨ (o.readyTasks episodeId now).1 = .ok []))
        ∨ ∃ plan, p.plans.get? episodeId = some plan ∧ p.IsRunning episodeId
          ∧ o.readyTasks episodeId now = p.pollEpisode episodeId plan) := by
  obtain ⟨hinv, hstops, -⟩ := h.timeout_spec episodeId now
  refine ⟨_, hinv, hstops, rfl, ?_⟩
  unfold readyTasks
  rcases htimeout : o.timeout episodeId now with ⟨a | ⟨⟩, p⟩
  · exact .inl ⟨rfl, .inl (Py.raises_error a)⟩
  · rw [htimeout] at hinv
    rw [andThen_ok]
    split
    · rename_i hruns
      rcases hplan : p.plans.get? episodeId with _ | plan
      · exact .inl ⟨rfl, .inr rfl⟩
      · by_cases htasks : p.HasTasks episodeId plan
        · refine .inr ⟨plan, rfl, hruns, ?_⟩
          simp only
          rw [hinv.propagate_eq hplan htasks hruns, andThen_ok, hinv.closeEpisode_eq]
        · refine .inl ?_
          simp only [propagate, if_neg htasks, andThen_error]
          exact ⟨trivial, .inl (Py.raises_error _)⟩
    · exact .inl ⟨rfl, .inr rfl⟩

theorem Inv.readyTasks_spec (h : o.Inv) (episodeId : ℕ) (now : ℤ) :
    (o.readyTasks episodeId now).2.Inv ∧ Evolves o (o.readyTasks episodeId now).2
      ∧ ∀ ready, (o.readyTasks episodeId now).1 = .ok ready →
        (o.readyTasks episodeId now).2.Claimable episodeId ready := by
  obtain ⟨p, hinv, hstops, -, ⟨hleft, hanswer⟩ | ⟨plan, hplan, -, heq⟩⟩ :=
    h.readyTasks_cases episodeId now
  · rw [hleft]
    refine ⟨hinv, hstops.evolves, fun ready hready => ?_⟩
    rcases hanswer with ⟨e, hraises⟩ | hnil
    · rw [hraises] at hready
      cases hready
    · rw [hnil] at hready
      obtain rfl := Except.ok.inj hready
      exact hinv.base.claimable_nil episodeId
  · rw [heq]
    obtain ⟨hpolls, hanswer⟩ := hinv.pollEpisode_spec hplan
    exact ⟨hpolls.inv hinv, hstops.evolves.trans hpolls.evolves, hanswer⟩

/-! ### Claiming -/

theorem IsReady.taskMove {u : WorkflowTask} (hpending : u.status = .PENDING)
    (hmove : TaskMove t u) : TaskMove u (t.withStatus .RUNNING) := by
  refine ⟨?_, fun hterminal => ?_, fun hnot => absurd hnot (by show WorkflowTaskStatus.RUNNING ≠ .PENDING; decide)⟩
  · rw [hmove.same]
    rfl
  · rw [hpending] at hterminal
    exact absurd hterminal (by decide)

theorem keys_claim (ready : List WorkflowTask) :
    ((ready.map (fun t => t.withStatus .RUNNING)).map (fun t => (t.taskId, t))).map Prod.fst
      = ready.map WorkflowTask.taskId := by
  rw [List.map_map, List.map_map]
  rfl

/-- The row of a task afterwards. -/
theorem Claimable.get?_claim (h : o.Claimable episodeId ready) {id : ℕ}
    {t' : WorkflowTask} (ht : o.tasks.get? id = some t)
    (ht' : (o.claim ready).2.tasks.get? id = some t') :
    t' = t ∨ t'.status = .RUNNING ∧ o.Fed t ∧ t.episodeId = episodeId
      ∧ id ∈ ready.map WorkflowTask.taskId := by
  by_cases hid : id ∈ ready.map WorkflowTask.taskId
  · obtain ⟨r, hr, rfl⟩ := List.mem_map.mp hid
    obtain ⟨hepisode, hfed, u, hu, -, hmove⟩ := h.task r hr
    obtain rfl := Option.some.inj (ht.symm.trans hu)
    have hget : (o.claim ready).2.tasks.get? r.taskId = some (r.withStatus .RUNNING) :=
      Dict.get?_update_of_mem o.tasks (p := (r.taskId, r.withStatus .RUNNING))
        (by rw [keys_claim]; exact h.nodup)
        (List.mem_map_of_mem (List.mem_map_of_mem hr))
    obtain rfl := Option.some.inj (ht'.symm.trans hget)
    refine .inr ⟨rfl, fun plan hplan step hstep hkey => ?_, hmove.episodeId.trans hepisode, hid⟩
    rw [hmove.episodeId] at hplan ⊢
    exact hfed plan hplan step hstep (hkey.trans hmove.stepKey)
  · have hget : (o.claim ready).2.tasks.get? id = o.tasks.get? id :=
      Dict.get?_update_of_not_mem o.tasks (by rw [keys_claim]; exact hid)
    rw [hget, ht] at ht'
    exact .inl (Option.some.inj ht').symm

theorem Claimable.evolves (h : o.Claimable episodeId ready) : Evolves o (o.claim ready).2 := by
  refine { Evolves.refl o with tasks := Dict.rewrites_update TaskMove.refl ?_ fun item hitem => ?_ }
  · rw [keys_claim]
    exact h.nodup
  · rw [List.map_map] at hitem
    obtain ⟨r, hr, rfl⟩ := List.mem_map.mp hitem
    obtain ⟨-, -, u, hu, hpending, hmove⟩ := h.task r hr
    exact ⟨u, hu, IsReady.taskMove hpending hmove⟩

/-- **Claiming keeps the invariant.** -/
theorem Inv.claim_spec (h : o.Inv)
    (hready : o.Claimable episodeId ready) : (o.claim ready).2.Inv := by
  refine ⟨h.base.rewrite hready.evolves rfl rfl (fun id t t' ht ht' hrunning => ?_)
    (fun id r hr => .inl hr) (fun id t t' ht ht' hcompleted => ?_) (fun id plan hplan => ?_),
    fun other => ?_⟩
  · rcases hready.get?_claim ht ht' with rfl | ⟨-, hfed, -⟩
    · exact .inl hrunning
    · exact .inr hfed
  · rcases hready.get?_claim ht ht' with rfl | ⟨hrunning, -⟩
    · exact .inl hcompleted
    · rw [hrunning] at hcompleted
      cases hcompleted
  · by_cases hid : id = episodeId
    · subst hid
      have hle := hready.evolves.running_le id (ready.map WorkflowTask.taskId)
        fun j t t' ht ht' _ hrunning => ?_
      · have hslots := hready.slots plan hplan
        rw [List.length_map] at hle
        omega
      · rcases hready.get?_claim ht ht' with rfl | ⟨-, -, -, hfresh⟩
        · exact .inl hrunning
        · exact .inr hfresh
    · have hle := hready.evolves.running_le id []
        fun j t t' ht ht' hepisode hrunning => ?_
      · have hslots := h.base.slots id plan hplan
        simp only [List.length_nil, Nat.add_zero] at hle
        omega
      · rcases hready.get?_claim ht ht' with rfl | ⟨-, -, hepisode', -⟩
        · exact .inl hrunning
        · exact absurd (hepisode.symm.trans hepisode') hid
  · refine (h.settled other).evolves hready.evolves fun id t t' ht ht' _ hends => ?_
    rcases hready.get?_claim ht ht' with rfl | ⟨hrunning, -⟩
    · exact hends
    · rw [hrunning] at hends
      exact absurd hends (by decide)

/-- **`claim_ready_tasks`** -/
theorem Inv.claimReadyTasks_spec (h : o.Inv) (episodeId : ℕ) (now : ℤ) (limit : Option ℤ) :
    (o.claimReadyTasks episodeId now limit).2.Inv
      ∧ Evolves o (o.claimReadyTasks episodeId now limit).2 := by
  unfold claimReadyTasks
  split
  · exact ⟨h, Evolves.refl o⟩
  · obtain ⟨hinv, hevolves, hanswer⟩ := h.readyTasks_spec episodeId now
    rcases hpoll : o.readyTasks episodeId now with ⟨e | ready, p⟩
    · rw [hpoll] at hinv hevolves
      exact ⟨hinv, hevolves⟩
    · rw [hpoll] at hinv hevolves hanswer
      have hready := hanswer ready rfl
      rcases limit with _ | n
      · exact ⟨hinv.claim_spec hready, hevolves.trans hready.evolves⟩
      · have htake := hready.take n.toNat
        exact ⟨hinv.claim_spec htake, hevolves.trans htake.evolves⟩

end WorkflowOrchestrator

end FuturesAgentOs
