import FuturesAgentOs.AgentOrchestration.WorkflowStops

namespace FuturesAgentOs

open PyModel

/-!
# Ends of episodes and timeouts

* `WorkflowOrchestrator.NotDue` — nothing is due: what `timeout` leaves, and then keeps.
-/

namespace WorkflowOrchestrator

variable {κ : Type} {o p q : WorkflowOrchestrator κ} {episodeId : ℕ}

theorem Base.ends (h : o.Base) (hp : Evolves o p) (htasks : p.tasks = o.tasks)
    (hresults : p.taskResults = o.taskResults)
    (hover : ∀ id e, p.episodes.get? id = some e → e.fields.status ≠ .RUNNING →
      o.Over id e.fields.status)
    (hcycle : ∀ id e c, p.episodes.get? id = some e →
      p.cycles.get? e.fields.cycleId = some c → e.fields.status = .RUNNING →
        c.fields.status = .RUNNING) : p.Base where
  keyed := h.keyed.evolves hp
  fed id t ht hor := by
    rw [htasks] at ht
    rw [hresults] at hor
    exact (h.fed id t ht hor).evolves h.keyed hp (TaskMove.refl t)
  result := by
    rw [htasks, hresults]
    exact h.result
  completed := by
    rw [htasks, hresults]
    exact h.completed
  slots id plan hplan := by
    rw [hp.plans] at hplan
    have hslots := h.slots id plan hplan
    simp only [running, tasksOf, htasks] at hslots ⊢
    exact hslots
  ended id e he hends := h.over_evolves hp (hover id e he hends)
  cycle := hcycle
  typed id t r ht hr := by
    rw [htasks] at ht
    rw [hresults] at hr
    exact (h.typed id t r ht hr).evolves hp (TaskMove.refl t)

/-- A cycle is left, or it ends when all its episodes did. -/
theorem closeCycle_cases (o : WorkflowOrchestrator κ) (cycleId : ℕ) :
    o.closeCycle cycleId = o ∨ ∃ cycle status, o.cycles.get? cycleId = some cycle
      ∧ cycle.fields.status = .RUNNING
      ∧ (∀ id e, o.episodes.get? id = some e → e.fields.cycleId = cycleId →
        e.fields.status ≠ .RUNNING)
      ∧ o.closeCycle cycleId
        = { o with cycles := o.cycles.set cycleId (cycle.withStatus status) } := by
  unfold closeCycle
  rcases hc : o.cycles.get? cycleId with _ | cycle
  · exact .inl rfl
  · simp only
    split
    · rename_i hclose
      refine .inr ⟨cycle, _, rfl, hclose.2.1, fun id e he hcycle => ?_, rfl⟩
      exact EpisodeStatus.isTerminal_iff.mp (hclose.2.2 e
        (List.mem_filter.mpr ⟨Dict.mem_values_iff.mpr ⟨id, he⟩, decide_eq_true hcycle⟩))
    · exact .inl rfl

/-- **`_close_cycle_if_done`** -/
theorem Base.closeCycle_spec (h : o.Base) (cycleId : ℕ) :
    (o.closeCycle cycleId).Base ∧ Evolves o (o.closeCycle cycleId)
      ∧ (o.closeCycle cycleId).tasks = o.tasks
      ∧ (o.closeCycle cycleId).taskResults = o.taskResults
      ∧ (o.closeCycle cycleId).episodes = o.episodes := by
  rcases closeCycle_cases o cycleId with heq | ⟨cycle, status, hget, hrunning, hover, heq⟩
  · rw [heq]
    exact ⟨h, Evolves.refl o, rfl, rfl, rfl⟩
  · have hevolves : Evolves o
        { o with cycles := o.cycles.set cycleId (cycle.withStatus status) } :=
      { Evolves.refl o with
        cycles := Dict.rewrites_set CycleMove.refl hget
          ⟨rfl, fun hnot => absurd hrunning hnot⟩ }
    rw [heq]
    refine ⟨h.ends hevolves rfl rfl h.ended fun id e c he hc hruns => ?_, hevolves, rfl, rfl, rfl⟩
    by_cases hcycle : e.fields.cycleId = cycleId
    · exact absurd hruns (hover id e he hcycle)
    · rw [Dict.get?_set_of_ne _ _ hcycle] at hc
      exact h.cycle id e c he hc hruns

variable {episode : DecisionEpisode} {plan : DelegationPlan}

theorem Near.endEpisode_spec (h : o.Near episodeId) {ended : DecisionEpisode}
    (he : o.episodes.get? episodeId = some episode) (hmove : EpisodeMove episode ended)
    (hends : ended.fields.status ≠ .RUNNING) (hover : o.Over episodeId ended.fields.status) :
    (o.endEpisode episode ended).Inv ∧ Stops episodeId o (o.endEpisode episode ended)
      ∧ ∃ e, (o.endEpisode episode ended).episodes.get? episodeId = some e
        ∧ e.fields.status ≠ .RUNNING := by
  obtain ⟨hid, -⟩ := h.base.keyed.episode episodeId episode he
  have hevolves : Evolves o
      { o with episodes := o.episodes.set episode.fields.episodeId ended } := by
    rw [hid]
    exact { Evolves.refl o with episodes := Dict.rewrites_set EpisodeMove.refl he hmove }
  have hbase : ({ o with episodes := o.episodes.set episode.fields.episodeId ended }
      : WorkflowOrchestrator κ).Base := by
    refine h.base.ends hevolves rfl rfl (fun id e he' hnot => ?_) fun id e c he' hc hruns => ?_
    · rw [hid, Dict.get?_set] at he'
      split at he'
      · rename_i heq
        obtain rfl := Option.some.inj he'
        rw [heq]
        exact hover
      · exact h.base.ended id e he' hnot
    · rw [hid, Dict.get?_set] at he'
      split at he'
      · obtain rfl := Option.some.inj he'
        exact absurd hruns hends
      · exact h.base.cycle id e c he' hc hruns
  obtain ⟨hclosed, hevolves', htasks, hresults, hepisodes⟩ :=
    hbase.closeCycle_spec episode.fields.cycleId
  have hstops : Stops episodeId o (o.endEpisode episode ended) :=
    (hevolves.trans hevolves').stops htasks hresults
  have hget : (o.endEpisode episode ended).episodes.get? episodeId = some ended := by
    rw [endEpisode, hepisodes, hid]
    exact Dict.get?_set_self _ _ _
  refine ⟨Near.inv ⟨hclosed, fun other hne => hstops.settled hne (h.settled other hne)⟩ ?_,
    hstops, ended, hget, hends⟩
  refine ⟨fun e he' hruns => ?_, fun e he' hruns => ?_⟩ <;>
  · obtain rfl := Option.some.inj (hget.symm.trans he')
    exact absurd hruns hends

theorem episodeMove_ended (hruns : episode.fields.status = .RUNNING)
    {status : EpisodeStatus} {reason : Text} (hstatus : status.IsTerminal) (hreason : reason ≠ []) :
    EpisodeMove episode (episode.ended status reason hstatus hreason) :=
  ⟨rfl, fun hnot => absurd hruns hnot⟩

/-- The episode runs no more, or has neither blocked tasks nor only terminal ones. -/
theorem Near.inv_of_running (h : o.Near episodeId)
    (hsettled : ∀ e, o.episodes.get? episodeId = some e → e.fields.status = .RUNNING →
      o.Unblocked episodeId ∧ o.Open episodeId) : o.Inv :=
  h.inv ⟨fun e he hruns => (hsettled e he hruns).1, fun e he hruns => (hsettled e he hruns).2⟩

/-- Without tasks nothing is blocked. -/
theorem Near.inv_of_nil (h : o.Near episodeId) (hnil : o.tasksOf episodeId = []) : o.Inv := by
  refine h.inv_of_running fun _ _ _ => ⟨fun plan _ step _ t ht => ?_, fun hne => absurd hnil hne⟩
  rw [hnil] at ht
  cases ht

/-- **`_close_episode_if_terminal`** -/
theorem Near.closeEpisode_spec (h : o.Near episodeId) (hunblocked : o.Unblocked episodeId) :
    (o.closeEpisode episodeId).Inv ∧ Stops episodeId o (o.closeEpisode episodeId) := by
  unfold closeEpisode
  rcases he : o.episodes.get? episodeId with _ | episode
  · refine ⟨h.inv_of_running fun e he' => ?_, Stops.refl _ o⟩
    rw [he] at he'
    cases he'
  · simp only
    split
    · rename_i hclose
      have hover : o.Over episodeId (o.finalStatus episodeId) := by
        refine ⟨hclose.2.2, fun hcompleted => ?_⟩
        unfold finalStatus at hcompleted
        split at hcompleted
        · rename_i hall
          exact ⟨hall.2, hall.1⟩
        · cases hcompleted
      obtain ⟨hinv, hstops, -⟩ := h.endEpisode_spec he
        (episodeMove_ended hclose.1 (o.isTerminal_finalStatus episodeId)
          (by decide : ("all_tasks_terminal" : Text) ≠ []))
        (EpisodeStatus.isTerminal_iff.mp (o.isTerminal_finalStatus episodeId)) hover
      exact ⟨hinv, hstops⟩
    · rename_i hopen
      refine ⟨h.inv_of_running fun e he' hruns => ⟨hunblocked, fun hne => ?_⟩, Stops.refl _ o⟩
      obtain rfl := Option.some.inj (he.symm.trans he')
      by_contra hnone
      push Not at hnone
      exact hopen ⟨hruns, hne, hnone⟩

theorem Near.propagate_closeEpisode (h : o.Near episodeId)
    (hplan : o.plans.get? episodeId = some plan) (htasks : o.HasTasks episodeId plan) :
    ∃ p, o.propagate episodeId plan = (.ok (), p) ∧ Stops episodeId o p
      ∧ (p.closeEpisode episodeId).Inv ∧ Stops episodeId p (p.closeEpisode episodeId) := by
  obtain ⟨p, hpropagate, hstops, hepisodes, hcycles, hquiet⟩ := h.base.keyed.propagate_spec htasks
  have hnear := hstops.near hepisodes hcycles h
  have hunblocked : p.Unblocked episodeId :=
    (hnear.base.keyed.unblocked_iff (by rw [hstops.evolves.plans]; exact hplan)).mpr hquiet
  obtain ⟨hinv, hstops'⟩ := hnear.closeEpisode_spec hunblocked
  exact ⟨p, hpropagate, hstops, hinv, hstops'⟩

theorem isRunning_iff : o.IsRunning episodeId ↔
    ∃ e, o.episodes.get? episodeId = some e ∧ e.fields.status = .RUNNING := Iff.rfl

theorem Inv.closeEpisode_eq (h : o.Inv) (episodeId : ℕ) : o.closeEpisode episodeId = o := by
  unfold closeEpisode
  rcases he : o.episodes.get? episodeId with _ | e
  · rfl
  · refine if_neg fun hclose => ?_
    obtain ⟨t, ht, hopen⟩ := (h.settled episodeId).isOpen e he hclose.1 hclose.2.1
    exact hopen (hclose.2.2 t ht)

/-- Between calls there is no step to skip. -/
theorem Inv.propagate_eq (h : o.Inv)
    (hplan : o.plans.get? episodeId = some plan) (htasks : o.HasTasks episodeId plan)
    (hruns : o.IsRunning episodeId) : o.propagate episodeId plan = (.ok (), o) := by
  obtain ⟨e, he, hruns⟩ := isRunning_iff.mp hruns
  exact ((h.base.keyed.unblocked_iff hplan).mp
    ((h.settled episodeId).unblocked e he hruns)).propagate htasks

/-! ### Timeouts -/

/-- No task of the episode that is left is past its deadline, nor is the episode while it runs. -/
structure NotDue (o : WorkflowOrchestrator κ) (episodeId : ℕ) (now : ℤ) : Prop where
  task : ∀ t ∈ o.tasksOf episodeId, ¬ t.status.IsTerminal → now < t.fields.deadlineAt
  episode : ∀ e, o.episodes.get? episodeId = some e → e.fields.status = .RUNNING →
    now < e.fields.expiresAt

/-- The end of `_timeout`. -/
theorem Inv.expireEpisode_spec (h : o.Inv) (episodeId : ℕ) (now : ℤ) :
    (o.expireEpisode episodeId now).Inv ∧ Stops episodeId o (o.expireEpisode episodeId now)
      ∧ ∀ e, (o.expireEpisode episodeId now).episodes.get? episodeId = some e →
        e.fields.status = .RUNNING → now < e.fields.expiresAt := by
  unfold expireEpisode
  rcases he : o.episodes.get? episodeId with _ | episode
  · refine ⟨h, Stops.refl _ o, fun e he' => ?_⟩
    rw [he] at he'
    cases he'
  · simp only
    split
    · rename_i hexpires
      have hstops := stops_stopTasks o episodeId (fun _ => True)
        (by decide : WorkflowTaskStatus.TIMED_OUT.IsTerminal) (by decide)
      obtain ⟨hinv, hstops', e, he', hends⟩ :=
        (hstops.near rfl rfl (h.near episodeId)).endEpisode_spec he
          (episodeMove_ended hexpires.1 (by decide : EpisodeStatus.TIMED_OUT.IsTerminal)
            (by decide : ("deadline_exceeded" : Text) ≠ []))
          (by show EpisodeStatus.TIMED_OUT ≠ .RUNNING; decide)
          ⟨isTerminal_stopTasks o episodeId (by decide), fun hcompleted => by cases hcompleted⟩
      refine ⟨hinv, hstops.trans hstops', fun e' he'' hruns => ?_⟩
      obtain rfl := Option.some.inj (he'.symm.trans he'')
      exact absurd hruns hends
    · rename_i hleft
      refine ⟨h, Stops.refl _ o, fun e he' hruns => ?_⟩
      obtain rfl := Option.some.inj (he.symm.trans he')
      by_contra hexpired
      exact hleft ⟨hruns, not_lt.mp hexpired⟩

/-- The middle of `_timeout`. -/
theorem Near.settleTimeouts_spec (h : o.Near episodeId)
    (he : o.episodes.get? episodeId = some episode) : (o.settleTimeouts episodeId episode).2.Inv
      ∧ Stops episodeId o (o.settleTimeouts episodeId episode).2 := by
  rcases hplan : o.plans.get? episodeId with _ | plan
  · -- a task has a plan
    have hnil : o.tasksOf episodeId = [] := by
      refine List.eq_nil_iff_forall_not_mem.mpr fun t ht => ?_
      obtain ⟨hget, hepisode⟩ := h.base.keyed.mem_tasksOf.mp ht
      obtain ⟨plan, hsome, -⟩ := h.base.keyed.owner _ t hget
      rw [hepisode, hplan] at hsome
      cases hsome
    simp only [settleTimeouts, hplan]
    exact ⟨h.inv_of_nil hnil, Stops.refl _ o⟩
  · simp only [settleTimeouts, hplan]
    split
    · rcases h.base.keyed.whole episodeId plan hplan with hnil | htasks
      · by_cases htasks : o.HasTasks episodeId plan
        · obtain ⟨p, hpropagate, hstops, hinv, hstops'⟩ := h.propagate_closeEpisode hplan htasks
          rw [hpropagate, andThen_ok]
          exact ⟨hinv, hstops.trans hstops'⟩
        · rw [propagate, if_neg htasks, andThen_error]
          exact ⟨h.inv_of_nil hnil, Stops.refl _ o⟩
      · obtain ⟨p, hpropagate, hstops, hinv, hstops'⟩ := h.propagate_closeEpisode hplan htasks
        rw [hpropagate, andThen_ok]
        exact ⟨hinv, hstops.trans hstops'⟩
    · rename_i hover
      refine ⟨h.inv_of_running fun e he' hruns => ?_, Stops.refl _ o⟩
      obtain rfl := Option.some.inj (he.symm.trans he')
      exact absurd hruns hover

/-- The tasks that are due. -/
def stopDue (o : WorkflowOrchestrator κ) (episodeId : ℕ) (now : ℤ) : WorkflowOrchestrator κ :=
  o.stopTasks episodeId (fun task => task.fields.deadlineAt ≤ now) .TIMED_OUT

theorem stops_stopDue (o : WorkflowOrchestrator κ) (episodeId : ℕ) (now : ℤ) :
    Stops episodeId o (o.stopDue episodeId now) :=
  stops_stopTasks o episodeId _ (by decide) (by decide)

theorem stopDue_notDue (o : WorkflowOrchestrator κ) (episodeId : ℕ) (now : ℤ) :
    ∀ t ∈ (o.stopDue episodeId now).tasksOf episodeId, ¬ t.status.IsTerminal →
      now < t.fields.deadlineAt := by
  intro t ht hopen
  obtain ⟨⟨id, hid⟩, hepisode⟩ := exists_get?_of_mem_tasksOf ht
  simp only [stopDue, stopTasks, Dict.get?_sweep, Option.map_eq_some_iff] at hid
  obtain ⟨u, -, hu⟩ := hid
  split at hu
  · obtain rfl := hu
    exact absurd (by decide : WorkflowTaskStatus.TIMED_OUT.IsTerminal) hopen
  · rename_i hleft
    obtain rfl := hu
    by_contra hdue
    exact hleft ⟨hepisode, hopen, not_lt.mp hdue⟩

theorem Stops.of_mem_tasksOf (h : Stops episodeId o p) {t : WorkflowTask}
    (ht : t ∈ p.tasksOf episodeId) (hopen : ¬ t.status.IsTerminal) : t ∈ o.tasksOf episodeId := by
  obtain ⟨⟨id, hid⟩, hepisode⟩ := exists_get?_of_mem_tasksOf ht
  obtain ⟨u, hu, hmove⟩ := h.tasks.back hid
  obtain rfl := hmove.of_not_isTerminal hopen
  rw [← hepisode]
  exact mem_tasksOf_of_get? hu

/-- **`_timeout`** -/
theorem Inv.timeout_spec (h : o.Inv) (episodeId : ℕ) (now : ℤ) :
    (o.timeout episodeId now).2.Inv ∧ Stops episodeId o (o.timeout episodeId now).2
      ∧ ((o.timeout episodeId now).1 = .ok () → (o.timeout episodeId now).2.NotDue episodeId now)
    := by
  unfold timeout
  rcases he : o.episodes.get? episodeId with _ | episode
  · exact ⟨h, Stops.refl _ o, fun hok => by cases hok⟩
  · have hstops := stops_stopDue o episodeId now
    obtain ⟨hinv, hstops'⟩ :=
      (hstops.near rfl rfl (h.near episodeId)).settleTimeouts_spec he
    simp only
    rw [← stopDue]
    rcases hsettle : (o.stopDue episodeId now).settleTimeouts episodeId episode with ⟨a | ⟨⟩, q⟩
    · rw [hsettle] at hinv hstops'
      exact ⟨hinv, hstops.trans hstops', fun hok => by cases hok⟩
    · rw [hsettle] at hinv hstops'
      obtain ⟨hinv', hstops'', hexpires⟩ := hinv.expireEpisode_spec episodeId now
      refine ⟨hinv', (hstops.trans hstops').trans hstops'', fun _ => ⟨fun t ht hopen => ?_,
        hexpires⟩⟩
      exact stopDue_notDue o episodeId now t
        ((hstops'.trans hstops'').of_mem_tasksOf ht hopen) hopen

/-- Nothing is due later either, while no task is new. -/
theorem NotDue.grows {now : ℤ} (h : o.NotDue episodeId now) (hp : Grows o p) (hplan : o.plans.get? episodeId = some plan) (he : o.episodes.get? episodeId = some episode) :
    p.NotDue episodeId now := by
  refine ⟨fun t' ht' hopen => ?_, fun e' he' hruns => ?_⟩
  · obtain ⟨⟨id, hid⟩, hepisode⟩ := exists_get?_of_mem_tasksOf ht'
    rcases ht : o.tasks.get? id with _ | t
    · have hnone := hp.fresh id t' hid ht
      rw [hepisode, hplan] at hnone
      cases hnone
    · obtain ⟨u, hu, hmove⟩ := hp.tasks id t ht
      obtain rfl := Option.some.inj (hid.symm.trans hu)
      rw [hmove.deadlineAt]
      refine h.task t ?_ (hmove.not_isTerminal hopen)
      rw [← hepisode, hmove.episodeId]
      exact mem_tasksOf_of_get? ht
  · obtain ⟨e, he'', hmove⟩ := hp.episodes episodeId episode he
    obtain rfl := Option.some.inj (he'.symm.trans he'')
    have hbefore : episode.fields.status = .RUNNING := by
      by_contra hover
      rw [hmove.ended hover] at hruns
      exact hover hruns
    rw [hmove.same]
    exact h.episode episode he hbefore

/-- Nothing is due, nothing changed. -/
theorem Inv.timeout_eq (h : o.Inv) {now : ℤ} (hdue : o.NotDue episodeId now) (he : o.episodes.get? episodeId = some episode)
    (htasks : ∀ plan, o.plans.get? episodeId = some plan → o.IsRunning episodeId →
      o.HasTasks episodeId plan) : o.timeout episodeId now = (.ok (), o) := by
  have hstop : o.stopDue episodeId now = o := by
    have hsweep : o.tasks.sweep (fun _ task =>
        if task.episodeId = episodeId ∧ ¬ task.status.IsTerminal ∧ task.fields.deadlineAt ≤ now then
          some (task.withStatus .TIMED_OUT)
        else none) = o.tasks := by
      rw [Dict.sweep_eq_mapValues]
      refine Dict.mapValues_eq_self fun id t ht => ?_
      rw [if_neg]
      · rfl
      · rintro ⟨hepisode, hopen, hle⟩
        have hmem : t ∈ o.tasksOf episodeId := hepisode ▸ mem_tasksOf_of_get? ht
        exact absurd (hdue.task t hmem hopen) (not_lt.mpr hle)
    simp only [stopDue, stopTasks, hsweep]
  have hsettle : o.settleTimeouts episodeId episode = (.ok (), o) := by
    unfold settleTimeouts
    rcases hplan : o.plans.get? episodeId with _ | plan
    · rfl
    · simp only
      split
      · rename_i hruns
        have hruns' : o.IsRunning episodeId := isRunning_iff.mpr ⟨episode, he, hruns⟩
        rw [h.propagate_eq hplan (htasks plan hplan hruns') hruns', andThen_ok, h.closeEpisode_eq]
      · rfl
  have hexpire : o.expireEpisode episodeId now = o := by
    unfold expireEpisode
    rw [he]
    refine if_neg fun hexpires => ?_
    exact absurd (hdue.episode episode he hexpires.1) (not_lt.mpr hexpires.2)
  unfold timeout
  rw [he]
  simp only
  rw [← stopDue, hstop, hsettle, andThen_ok, hexpire]

end WorkflowOrchestrator

end FuturesAgentOs
