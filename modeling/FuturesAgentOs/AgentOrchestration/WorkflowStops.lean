import FuturesAgentOs.AgentOrchestration.WorkflowInvariants

namespace FuturesAgentOs

open PyModel

/-!
# Tasks that end without being completed

Timeouts, cancellation and the skipping of dependants all do the same to the tasks of an episode:
some that are not terminal end, and none of them is completed.

* `propagate_spec` — the passes of the propagation end with nothing to skip.
-/

/-- A task is left as it is, or one of the episode ends without being completed. -/
def StopMove (episodeId : ℕ) (task after : WorkflowTask) : Prop :=
  after = task ∨ (¬ task.status.IsTerminal ∧ task.episodeId = episodeId
    ∧ ∃ status, status.IsTerminal ∧ status ≠ .COMPLETED ∧ after = task.withStatus status)

namespace StopMove

variable {episodeId : ℕ} {task after last : WorkflowTask}

theorem refl (task : WorkflowTask) : StopMove episodeId task task := .inl rfl

/-- A task that ended is left. -/
theorem of_isTerminal (h : StopMove episodeId task after) (hterminal : task.status.IsTerminal) :
    after = task := by
  rcases h with heq | ⟨hnot, -⟩
  · exact heq
  · exact absurd hterminal hnot

theorem trans (h : StopMove episodeId task after) (h' : StopMove episodeId after last) :
    StopMove episodeId task last := by
  rcases h with rfl | ⟨hnot, hepisode, status, hterminal, hne, rfl⟩
  · exact h'
  · rw [h'.of_isTerminal hterminal]
    exact .inr ⟨hnot, hepisode, status, hterminal, hne, rfl⟩

theorem taskMove (h : StopMove episodeId task after) : TaskMove task after := by
  rcases h with rfl | ⟨hnot, -, status, hterminal, -, rfl⟩
  · exact TaskMove.refl after
  · refine taskMove_withStatus hnot ?_
    rintro rfl
    exact absurd hterminal (by decide)

theorem of_completed (h : StopMove episodeId task after) (hafter : after.status = .COMPLETED) :
    after = task := by
  rcases h with heq | ⟨-, -, status, -, hne, rfl⟩
  · exact heq
  · exact absurd hafter hne

theorem of_not_isTerminal (h : StopMove episodeId task after) (hafter : ¬ after.status.IsTerminal) :
    after = task := by
  rcases h with heq | ⟨-, -, status, hterminal, -, rfl⟩
  · exact heq
  · exact absurd hterminal hafter

theorem of_ne (h : StopMove episodeId task after) (hne : task.episodeId ≠ episodeId) :
    after = task := by
  rcases h with heq | ⟨-, hepisode, -⟩
  · exact heq
  · exact absurd hepisode hne

end StopMove

namespace WorkflowOrchestrator

variable {κ : Type} {o p q : WorkflowOrchestrator κ} {episodeId : ℕ}

/-- Tasks of an episode end without being completed, and no result is added. -/
structure Stops (episodeId : ℕ) (o p : WorkflowOrchestrator κ) : Prop where
  evolves : Evolves o p
  tasks : o.tasks.Rewrites (StopMove episodeId) p.tasks
  results : p.taskResults = o.taskResults

theorem Stops.refl (episodeId : ℕ) (o : WorkflowOrchestrator κ) : Stops episodeId o o :=
  ⟨Evolves.refl o, Dict.rewrites_refl StopMove.refl _, rfl⟩

theorem Stops.trans (h : Stops episodeId o p) (h' : Stops episodeId p q) : Stops episodeId o q :=
  ⟨h.evolves.trans h'.evolves, h.tasks.trans StopMove.trans h'.tasks, h'.results.trans h.results⟩

/-- Nothing but tasks is changed. -/
theorem stops_of_tasks {tasks : Dict ℕ WorkflowTask}
    (h : o.tasks.Rewrites (StopMove episodeId) tasks) : Stops episodeId o { o with tasks } where
  evolves :=
    { Evolves.refl o with tasks := h.mono StopMove.taskMove }
  tasks := h
  results := rfl

theorem Evolves.stops (h : Evolves o p) (htasks : p.tasks = o.tasks)
    (hresults : p.taskResults = o.taskResults) : Stops episodeId o p where
  evolves := h
  tasks := by
    rw [htasks]
    exact Dict.rewrites_refl StopMove.refl _
  results := hresults

theorem stops_stopTasks (o : WorkflowOrchestrator κ) (episodeId : ℕ) (P : WorkflowTask → Prop)
    [DecidablePred P] {status : WorkflowTaskStatus} (hterminal : status.IsTerminal)
    (hne : status ≠ .COMPLETED) : Stops episodeId o (o.stopTasks episodeId P status) := by
  refine stops_of_tasks (Dict.rewrites_sweep StopMove.refl fun _ task after _ hafter => ?_)
  split at hafter
  · rename_i hstop
    obtain rfl := Option.some.inj hafter
    exact .inr ⟨hstop.2.1, hstop.1, status, hterminal, hne, rfl⟩
  · cases hafter

theorem isTerminal_stopTasks (o : WorkflowOrchestrator κ) (episodeId : ℕ)
    {status : WorkflowTaskStatus} (hterminal : status.IsTerminal) :
    ∀ t ∈ (o.stopTasks episodeId (fun _ => True) status).tasksOf episodeId,
      t.status.IsTerminal := by
  intro t ht
  obtain ⟨⟨id, hid⟩, hepisode⟩ := exists_get?_of_mem_tasksOf ht
  simp only [stopTasks, Dict.get?_sweep, Option.map_eq_some_iff] at hid
  obtain ⟨u, -, hu⟩ := hid
  split at hu
  · obtain rfl := hu
    exact hterminal
  · rename_i hleft
    obtain rfl := hu
    by_contra hnot
    exact hleft ⟨hepisode, hnot, trivial⟩

/-- What a call may rely on is kept. -/
theorem Stops.base (h : Stops episodeId o p) (hepisodes : p.episodes = o.episodes)
    (hcycles : p.cycles = o.cycles) (hbase : o.Base) : p.Base := by
  have hmove : ∀ id t t', o.tasks.get? id = some t → p.tasks.get? id = some t' →
      StopMove episodeId t t' := by
    intro id t t' ht ht'
    obtain ⟨u, hu, hmove⟩ := h.tasks.move id t ht
    obtain rfl := Option.some.inj (ht'.symm.trans hu)
    exact hmove
  have hrun : ∀ id t t', o.tasks.get? id = some t → p.tasks.get? id = some t' →
      t'.status = .RUNNING → t.status = .RUNNING := by
    intro id t t' ht ht' hrunning
    rw [← (hmove id t t' ht ht').of_not_isTerminal (by rw [hrunning]; decide)]
    exact hrunning
  refine hbase.rewrite h.evolves hepisodes hcycles
    (fun id t t' ht ht' hrunning => .inl (hrun id t t' ht ht' hrunning)) (fun id r hr => .inl ?_)
    (fun id t t' ht ht' hcompleted => .inl ?_) (fun id plan hplan => ?_)
  · rw [← h.results]
    exact hr
  · rw [← (hmove id t t' ht ht').of_completed hcompleted]
    exact hcompleted
  · have hle := h.evolves.running_le id []
      fun j t t' ht ht' _ hrunning => .inl (hrun j t t' ht ht' hrunning)
    have hslots := hbase.slots id plan hplan
    simp only [List.length_nil, Nat.add_zero] at hle
    omega

theorem Stops.settled (h : Stops episodeId o p) {other : ℕ} (hne : other ≠ episodeId)
    (hsettled : o.Settled other) : p.Settled other := by
  refine hsettled.evolves h.evolves fun id t t' ht ht' hepisode hends => ?_
  obtain ⟨u, hu, hmove⟩ := h.tasks.move id t ht
  obtain rfl := Option.some.inj (ht'.symm.trans hu)
  rw [hmove.of_ne (by rw [hepisode]; exact hne)] at hends
  exact hends

theorem Stops.near (h : Stops episodeId o p) (hepisodes : p.episodes = o.episodes)
    (hcycles : p.cycles = o.cycles) (hnear : o.Near episodeId) : p.Near episodeId :=
  ⟨h.base hepisodes hcycles hnear.base, fun _ hne => h.settled hne (hnear.settled _ hne)⟩

/-! ### Skipping -/

/-- No step is to be skipped. -/
def Quiet (o : WorkflowOrchestrator κ) (episodeId : ℕ) (plan : DelegationPlan) : Prop :=
  ∀ step ∈ plan.steps, ∀ task, o.byKey episodeId step.stepKey = some task →
    task.status = .PENDING → ¬ o.IsBlocked episodeId step

variable {plan : DelegationPlan} {key : Text} {t : WorkflowTask}

theorem Keyed.unblocked_iff (h : o.Keyed) (hplan : o.plans.get? episodeId = some plan) :
    o.Unblocked episodeId ↔ o.Quiet episodeId plan := by
  constructor
  · intro hunblocked step hstep t ht hpending
    rintro ⟨name, hname, u, hu, hterminal, hne⟩
    obtain ⟨hmem, hkey⟩ := h.byKey_eq_some.mp ht
    obtain ⟨hmem', rfl⟩ := h.byKey_eq_some.mp hu
    exact hne (hunblocked plan hplan step hstep t hmem hkey hpending u hmem' hname hterminal)
  · intro hquiet plan' hplan' step hstep t ht hkey hpending u hu hdependency hterminal
    obtain rfl := Option.some.inj (hplan.symm.trans hplan')
    by_contra hne
    exact hquiet step hstep t (h.byKey_eq_some.mpr ⟨ht, hkey⟩) hpending
      ⟨u.stepKey, hdependency, u, h.byKey_eq_some.mpr ⟨hu, rfl⟩, hterminal, hne⟩

/-- The steps with a pending task. -/
def pendingSteps (o : WorkflowOrchestrator κ) (episodeId : ℕ) (plan : DelegationPlan) : ℕ :=
  plan.steps.countP fun step =>
    (o.byKey episodeId step.stepKey).any (fun task => task.status = .PENDING)

theorem Stops.byKey_eq_some (h : Stops episodeId o p) (hkeyed : o.Keyed) (ht : p.byKey episodeId key = some t)
    (hkept : ¬ t.status.IsTerminal ∨ t.status = .COMPLETED) : o.byKey episodeId key = some t := by
  obtain ⟨hmem, hkey⟩ := (hkeyed.evolves h.evolves).byKey_eq_some.mp ht
  obtain ⟨⟨id, hid⟩, hepisode⟩ := exists_get?_of_mem_tasksOf hmem
  obtain ⟨u, hu, hmove⟩ := h.tasks.back hid
  obtain rfl : t = u := by
    rcases hkept with hopen | hcompleted
    · exact hmove.of_not_isTerminal hopen
    · exact hmove.of_completed hcompleted
  exact hkeyed.byKey_eq_some.mpr ⟨hepisode ▸ mem_tasksOf_of_get? hu, hkey⟩

theorem Stops.byKey_pending (h : Stops episodeId o p) (hkeyed : o.Keyed) (ht : p.byKey episodeId key = some t) (hpending : t.status = .PENDING) :
    o.byKey episodeId key = some t :=
  h.byKey_eq_some hkeyed ht (.inl (by rw [hpending]; decide))

/-- One more element meets the weaker property. -/
theorem countP_lt_countP {α : Type} {P Q : α → Bool} {l : List α}
    (hPQ : ∀ x ∈ l, P x = true → Q x = true) {a : α} (ha : a ∈ l) (hQ : Q a = true)
    (hP : P a = false) : l.countP P < l.countP Q := by
  have hfilter : l.countP P = ((l.filter Q).filter P).length := by
    rw [← List.countP_eq_length_filter, List.countP_filter]
    refine List.countP_congr fun x hx => ?_
    rw [Bool.and_eq_true]
    exact ⟨fun h => ⟨h, hPQ x hx h⟩, fun h => h.1⟩
  rw [hfilter, List.countP_eq_length_filter]
  exact List.length_filter_lt_length_iff_exists.mpr
    ⟨a, List.mem_filter.mpr ⟨ha, hQ⟩, by simp [hP]⟩

theorem Stops.pendingSteps_lt (h : Stops episodeId o p) (hkeyed : o.Keyed)
    {step : DelegationStep} (hstep : step ∈ plan.steps) {t' : WorkflowTask}
    (ht : o.byKey episodeId step.stepKey = some t) (hpending : t.status = .PENDING)
    (ht' : p.byKey episodeId step.stepKey = some t') (hends : t'.status ≠ .PENDING) :
    p.pendingSteps episodeId plan < o.pendingSteps episodeId plan := by
  refine countP_lt_countP (fun s _ hany => ?_) hstep ?_ ?_
  · rcases hu : p.byKey episodeId s.stepKey with _ | u
    · rw [hu] at hany
      cases hany
    · rw [hu, Option.any_some] at hany
      rw [h.byKey_pending hkeyed hu (of_decide_eq_true hany), Option.any_some]
      exact hany
  · rw [ht, Option.any_some]
    exact decide_eq_true hpending
  · rw [ht', Option.any_some]
    exact decide_eq_false hends

theorem skipStep_cases (o : WorkflowOrchestrator κ) (episodeId : ℕ) (skipped : Bool)
    (step : DelegationStep) :
    (skipStep episodeId (o, skipped) step = (o, skipped)
      ∧ ∀ t, o.byKey episodeId step.stepKey = some t → t.status = .PENDING →
        ¬ o.IsBlocked episodeId step)
    ∨ ∃ t, o.byKey episodeId step.stepKey = some t ∧ t.status = .PENDING
      ∧ skipStep episodeId (o, skipped) step = (o.setTask (t.withStatus .SKIPPED), true) := by
  rcases ht : o.byKey episodeId step.stepKey with _ | t
  · refine .inl ⟨?_, fun t ht' => by cases ht'⟩
    simp only [skipStep, ht]
  · by_cases hskip : t.status = .PENDING ∧ o.IsBlocked episodeId step
    · refine .inr ⟨t, rfl, hskip.1, ?_⟩
      simp only [skipStep, ht, if_pos hskip]
    · refine .inl ⟨?_, fun t' ht' hpending hblocked => ?_⟩
      · simp only [skipStep, ht, if_neg hskip]
      · obtain rfl := Option.some.inj ht'
        exact hskip ⟨hpending, hblocked⟩

theorem Keyed.stops_skip (h : o.Keyed)
    (ht : o.byKey episodeId key = some t) (hpending : t.status = .PENDING) :
    Stops episodeId o (o.setTask (t.withStatus .SKIPPED)) := by
  obtain ⟨hget, hepisode⟩ := h.mem_tasksOf.mp (h.byKey_eq_some.mp ht).1
  refine stops_of_tasks (Dict.rewrites_set StopMove.refl hget (.inr ⟨?_, hepisode, .SKIPPED,
    by decide, by decide, rfl⟩))
  rw [hpending]
  decide

theorem Keyed.byKey_setTask (h : o.Keyed)
    (ht : o.byKey episodeId key = some t) (hpending : t.status = .PENDING) :
    (o.setTask (t.withStatus .SKIPPED)).byKey episodeId key = some (t.withStatus .SKIPPED) := by
  obtain ⟨hmem, hkey⟩ := h.byKey_eq_some.mp ht
  obtain ⟨-, hepisode⟩ := h.mem_tasksOf.mp hmem
  refine (h.evolves (h.stops_skip ht hpending).evolves).byKey_eq_some.mpr ⟨?_, hkey⟩
  rw [← hepisode]
  exact mem_tasksOf_of_get? (Dict.get?_set_self o.tasks t.taskId _)

/-- A pass finds nothing to skip and changes nothing, or leaves fewer pending tasks. -/
theorem Keyed.skipPass_cases (h : o.Keyed) (episodeId : ℕ)
    {steps : List DelegationStep} (hsteps : ∀ step ∈ steps, step ∈ plan.steps) (skipped : Bool) :
    (steps.foldl (skipStep episodeId) (o, skipped) = (o, skipped)
      ∧ ∀ step ∈ steps, ∀ t, o.byKey episodeId step.stepKey = some t → t.status = .PENDING →
        ¬ o.IsBlocked episodeId step)
    ∨ ∃ p, steps.foldl (skipStep episodeId) (o, skipped) = (p, true) ∧ Stops episodeId o p
      ∧ p.episodes = o.episodes ∧ p.cycles = o.cycles
      ∧ p.pendingSteps episodeId plan < o.pendingSteps episodeId plan := by
  induction steps generalizing o skipped with
  | nil => exact .inl ⟨rfl, fun step hstep => absurd hstep List.not_mem_nil⟩
  | cons step rest ih =>
    rw [List.forall_mem_cons] at hsteps
    rw [List.foldl_cons]
    rcases skipStep_cases o episodeId skipped step with ⟨hsame, hstep⟩ | ⟨t, ht, hpending, hskip⟩
    · rw [hsame]
      rcases ih h hsteps.2 skipped with ⟨hrest, hquiet⟩ | hmoved
      · exact .inl ⟨hrest, List.forall_mem_cons.mpr ⟨hstep, hquiet⟩⟩
      · exact .inr hmoved
    · have hstops := h.stops_skip ht hpending
      have hlt := hstops.pendingSteps_lt h hsteps.1 ht hpending (h.byKey_setTask ht hpending)
        (by show WorkflowTaskStatus.SKIPPED ≠ .PENDING; decide)
      rw [hskip]
      rcases ih (h.evolves hstops.evolves) hsteps.2 true with
        ⟨hrest, -⟩ | ⟨p, hrest, hstops', hepisodes, hcycles, hlt'⟩
      · exact .inr ⟨_, hrest, hstops, rfl, rfl, hlt⟩
      · exact .inr ⟨p, hrest, hstops.trans hstops', hepisodes, hcycles, Nat.lt_trans hlt' hlt⟩

/-- The passes end with nothing to skip. -/
theorem Keyed.propagateLoop_spec (h : o.Keyed) {passes : ℕ}
    (hpasses : o.pendingSteps episodeId plan < passes) :
    Stops episodeId o (propagateLoop episodeId plan passes o)
      ∧ (propagateLoop episodeId plan passes o).episodes = o.episodes
      ∧ (propagateLoop episodeId plan passes o).cycles = o.cycles
      ∧ (propagateLoop episodeId plan passes o).Quiet episodeId plan := by
  induction passes generalizing o with
  | zero => exact absurd hpasses (Nat.not_lt_zero _)
  | succ passes ih =>
    simp only [propagateLoop]
    rcases h.skipPass_cases episodeId (fun _ hstep => hstep) false with
      ⟨hsame, hquiet⟩ | ⟨p, hpass, hstops, hepisodes, hcycles, hlt⟩
    · rw [hsame, if_neg Bool.false_ne_true]
      exact ⟨Stops.refl _ _, rfl, rfl, hquiet⟩
    · rw [hpass, if_pos rfl]
      obtain ⟨hstops', hepisodes', hcycles', hquiet⟩ :=
        ih (h.evolves hstops.evolves) (by omega)
      exact ⟨hstops.trans hstops', hepisodes'.trans hepisodes, hcycles'.trans hcycles, hquiet⟩

theorem Keyed.propagate_spec (h : o.Keyed) (htasks : o.HasTasks episodeId plan) :
    ∃ p, o.propagate episodeId plan = (.ok (), p) ∧ Stops episodeId o p
      ∧ p.episodes = o.episodes ∧ p.cycles = o.cycles ∧ p.Quiet episodeId plan :=
  ⟨_, if_pos htasks, h.propagateLoop_spec (Nat.lt_succ_of_le List.countP_le_length)⟩

theorem Quiet.skipPass {steps : List DelegationStep}
    (h : ∀ step ∈ steps, ∀ t, o.byKey episodeId step.stepKey = some t → t.status = .PENDING →
      ¬ o.IsBlocked episodeId step) (skipped : Bool) :
    steps.foldl (skipStep episodeId) (o, skipped) = (o, skipped) := by
  induction steps with
  | nil => rfl
  | cons step rest ih =>
    rw [List.forall_mem_cons] at h
    have hstep : skipStep episodeId (o, skipped) step = (o, skipped) := by
      rcases ht : o.byKey episodeId step.stepKey with _ | t
      · simp only [skipStep, ht]
      · simp only [skipStep, ht]
        exact if_neg fun hskip => h.1 t ht hskip.1 hskip.2
    rw [List.foldl_cons, hstep]
    exact ih h.2

/-- Nothing to skip, nothing changed. -/
theorem Quiet.propagate (h : o.Quiet episodeId plan)
    (htasks : o.HasTasks episodeId plan) : o.propagate episodeId plan = (.ok (), o) := by
  rw [WorkflowOrchestrator.propagate, if_pos htasks]
  simp only [propagateLoop, Quiet.skipPass h false]
  rfl

end WorkflowOrchestrator

end FuturesAgentOs
