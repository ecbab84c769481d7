import FuturesAgentOs.AgentOrchestration.WorkflowPolls

namespace FuturesAgentOs

open PyModel

/-!
# Completion, cancellation and recovery

* `cancelEpisode_spec`, `recover_spec` — the calls that end episodes and cycles.
-/

namespace WorkflowOrchestrator

variable {κ : Type} {o p q : WorkflowOrchestrator κ} {episodeId : ℕ} {plan : DelegationPlan}

/-- A task as it was once read, of an episode, and its row: it is left, and its dependencies are
completed. -/
structure Fresh (o : WorkflowOrchestrator κ) (episodeId : ℕ) (task row : WorkflowTask) : Prop where
  get? : o.tasks.get? task.taskId = some row
  move : TaskMove task row
  isOpen : ¬ row.status.IsTerminal
  fed : o.Fed row
  episode : task.episodeId = episodeId

namespace Fresh

variable {task row : WorkflowTask} {result : WorkflowTaskResult}

theorem taskMove (h : o.Fresh episodeId task row) :
    TaskMove row (task.withStatus result.fields.status) := by
  refine ⟨?_, fun hterminal => absurd hterminal h.isOpen, fun hpending => ?_⟩
  · rw [h.move.same]
    rfl
  · have hterminal := WorkflowTaskResult.isTerminal result
    rw [show result.fields.status = .PENDING from hpending] at hterminal
    exact absurd hterminal (by decide)

theorem taskResult (h : o.Fresh episodeId task row) (hbase : o.Base) :
    o.taskResults.get? task.taskId = none := by
  rcases hr : o.taskResults.get? task.taskId with _ | r
  · rfl
  · obtain ⟨-, t, ht, hstatus⟩ := hbase.result _ r hr
    obtain rfl := Option.some.inj (h.get?.symm.trans ht)
    refine absurd ?_ h.isOpen
    rw [hstatus]
    exact WorkflowTaskResult.isTerminal r

theorem evolves (h : o.Fresh episodeId task row) (hbase : o.Base) (result : WorkflowTaskResult) :
    Evolves o (o.withResult task result) := by
  refine { Evolves.refl o with
    tasks := Dict.rewrites_set TaskMove.refl h.get? h.taskMove
    results := fun id r hr => ?_ }
  show (o.taskResults.set task.taskId result).get? id = some r
  rw [Dict.get?_set_of_ne]
  · exact hr
  · rintro rfl
    rw [h.taskResult hbase] at hr
    cases hr

/-- The row of a task afterwards. -/
theorem get?_withResult {id : ℕ} {t t' : WorkflowTask} (ht : o.tasks.get? id = some t)
    (ht' : (o.withResult task result).tasks.get? id = some t') :
    t' = t ∨ id = task.taskId ∧ t' = task.withStatus result.fields.status := by
  rw [withResult, setTask, Dict.get?_set] at ht'
  split at ht'
  · rename_i heq
    exact .inr ⟨heq, (Option.some.inj ht').symm⟩
  · exact .inl (Option.some.inj (ht.symm.trans ht')).symm

theorem typed (h : o.Fresh episodeId task row) (hcheck : o.checkResult episodeId task result = .ok ()) :
    o.Typed row result := by
  intro hcompleted plan hplan step hstep hkey
  rw [h.move.episodeId, h.episode] at hplan
  unfold checkResult at hcheck
  split at hcheck
  · cases hcheck
  · rename_i expected hfound
    rw [hplan, Option.bind_some] at hfound
    have hexpected := List.find?_some hfound
    have hsame : expected = step := plan.step_unique (List.mem_of_find?_eq_some hfound) hstep
      ((of_decide_eq_true hexpected).trans (hkey.trans h.move.stepKey).symm)
    simp only [require_bind_eq_ok, require_eq_ok] at hcheck
    rw [← hsame]
    exact hcheck.2.2.2 hcompleted

/-- **A result is stored.** -/
theorem near (h : o.Fresh episodeId task row) (hinv : o.Inv)
    (hid : result.fields.taskId = task.taskId) (htyped : o.Typed row result) :
    (o.withResult task result).Near episodeId := by
  have hevolves := h.evolves hinv.base result
  have hterminal := WorkflowTaskResult.isTerminal result
  have hrun : ∀ id t t', o.tasks.get? id = some t →
      (o.withResult task result).tasks.get? id = some t' → t'.status = .RUNNING →
        t.status = .RUNNING := by
    intro id t t' ht ht' hrunning
    rcases get?_withResult ht ht' with rfl | ⟨-, rfl⟩
    · exact hrunning
    · rw [show result.fields.status = .RUNNING from hrunning] at hterminal
      exact absurd hterminal (by decide)
  refine ⟨hinv.base.rewrite hevolves rfl rfl
    (fun id t t' ht ht' hrunning => .inl (hrun id t t' ht ht' hrunning))
    (fun id r hr => ?_) (fun id t t' ht ht' hcompleted => ?_) (fun id plan hplan => ?_),
    fun other hne => ?_⟩
  · rw [withResult, Dict.get?_set] at hr
    split at hr
    · rename_i heq
      obtain rfl := Option.some.inj hr
      rw [heq]
      exact .inr ⟨hid, row, _, h.get?, Dict.get?_set_self _ _ _, rfl, h.fed, htyped⟩
    · exact .inl hr
  · rcases get?_withResult ht ht' with rfl | ⟨rfl, -⟩
    · exact .inl hcompleted
    · exact .inr ⟨result, Dict.get?_set_self _ _ _⟩
  · have hle := hevolves.running_le id []
      fun j t t' ht ht' _ hrunning => .inl (hrun j t t' ht ht' hrunning)
    have hslots := hinv.base.slots id plan hplan
    simp only [List.length_nil, Nat.add_zero] at hle
    omega
  · refine (hinv.settled other).evolves hevolves fun id t t' ht ht' hepisode hends => ?_
    rcases get?_withResult ht ht' with rfl | ⟨rfl, -⟩
    · exact hends
    · obtain rfl := Option.some.inj (h.get?.symm.trans ht)
      exact absurd (hepisode.symm.trans (h.move.episodeId.trans h.episode)) hne

end Fresh

/-- The result of a task is stored with it. -/
structure HasResult (o : WorkflowOrchestrator κ) (result : WorkflowTaskResult) (t : WorkflowTask) :
    Prop where
  task : o.tasks.get? result.fields.taskId = some t
  isTerminal : t.status.IsTerminal
  result : o.taskResults.get? result.fields.taskId = some result

variable {result : WorkflowTaskResult} {task : WorkflowTask}

theorem HasResult.evolves {t : WorkflowTask}
    (h : o.HasResult result t) (hp : Evolves o p) : p.HasResult result t :=
  ⟨hp.get?_of_terminal h.task h.isTerminal, h.isTerminal, hp.results _ _ h.result⟩

/-- **Storing a result, and what follows from it.** -/
theorem Fresh.storeResult_spec {row : WorkflowTask}
    (h : o.Fresh episodeId task row) (hinv : o.Inv) (hid : result.fields.taskId = task.taskId)
    (htyped : o.Typed row result) : (o.storeResult episodeId task result).2.Inv
      ∧ Evolves o (o.storeResult episodeId task result).2
      ∧ ∃ t, (o.storeResult episodeId task result).1 = .ok t
        ∧ t = task.withStatus result.fields.status
        ∧ (o.storeResult episodeId task result).2.HasResult result t := by
  have hnear := h.near hinv hid htyped
  have hevolves := h.evolves hinv.base result
  have hrow : (o.withResult task result).HasResult result (task.withStatus result.fields.status) := by
    refine ⟨?_, WorkflowTaskResult.isTerminal result, ?_⟩
    · rw [hid]
      exact Dict.get?_set_self _ _ _
    · rw [hid]
      exact Dict.get?_set_self _ _ _
  obtain ⟨plan, hplan, -⟩ := hinv.base.keyed.owner _ row h.get?
  rw [h.move.episodeId, h.episode] at hplan
  have htasks : (o.withResult task result).HasTasks episodeId plan := by
    rcases hnear.base.keyed.whole episodeId plan hplan with hnil | htasks
    · have hmem := mem_tasksOf_of_get? hrow.task
      rw [show (task.withStatus result.fields.status).episodeId = episodeId from h.episode,
        hnil] at hmem
      cases hmem
    · exact htasks
  obtain ⟨p, hpropagate, hstops, hclosed, hstops'⟩ := hnear.propagate_closeEpisode hplan htasks
  have hlast := hrow.evolves (hstops.trans hstops').evolves
  simp only [storeResult, hplan, hpropagate, andThen_ok]
  refine ⟨hclosed, hevolves.trans (hstops.trans hstops').evolves, _, ?_, rfl, hlast⟩
  simp only [WorkflowOrchestrator.task, hlast.task]

/-- **`_complete_task`**, for a task that is left. -/
theorem Fresh.completeOpen_spec {row : WorkflowTask}
    (h : o.Fresh episodeId task row) (hinv : o.Inv) (hid : result.fields.taskId = task.taskId) :
    (o.completeOpen episodeId task result).2.Inv
      ∧ Evolves o (o.completeOpen episodeId task result).2
      ∧ ∀ t, (o.completeOpen episodeId task result).1 = .ok t → t.episodeId = episodeId
        ∧ (o.completeOpen episodeId task result).2.HasResult result t := by
  unfold completeOpen
  rcases hcheck : o.checkResult episodeId task result with e | ⟨⟩
  · exact ⟨hinv, Evolves.refl o, fun t ht => by cases ht⟩
  · obtain ⟨hinv', hevolves, t, hanswer, hsame, hresult⟩ :=
      h.storeResult_spec hinv hid (h.typed hcheck)
    refine ⟨hinv', hevolves, fun t' ht' => ?_⟩
    obtain rfl := Except.ok.inj (hanswer.symm.trans ht')
    refine ⟨?_, hresult⟩
    rw [hsame]
    exact h.episode

/-- A task that a poll answered is left. -/
theorem Claimable.fresh {ready : List WorkflowTask} (hready : p.Claimable episodeId ready)
    (hevolves : Evolves o p) {candidate : WorkflowTask}
    (htask : o.tasks.get? task.taskId = some task) (hepisode : task.episodeId = episodeId)
    (hmem : candidate ∈ ready) (hid : candidate.taskId = task.taskId) :
    ∃ row, p.Fresh episodeId task row := by
  obtain ⟨-, hfed, u, hu, hpending, hmove⟩ := hready.task candidate hmem
  obtain ⟨v, hv, hmove'⟩ := hevolves.tasks.move _ task htask
  rw [hid] at hu
  obtain rfl := Option.some.inj (hu.symm.trans hv)
  refine ⟨u, hu, hmove', by rw [hpending]; decide, fun plan hplan step hstep hkey => ?_, hepisode⟩
  rw [hmove.episodeId] at hplan ⊢
  exact hfed plan hplan step hstep (hkey.trans hmove.stepKey)

/-- **`_complete_task`**, once the episode is brought up to date. -/
theorem Inv.completeFound_spec (h : o.Inv)
    (htask : o.tasks.get? result.fields.taskId = some task) (episodeId : ℕ) (now : ℤ) :
    (o.completeFound episodeId task result now).2.Inv
      ∧ Evolves o (o.completeFound episodeId task result now).2
      ∧ ∀ t, (o.completeFound episodeId task result now).1 = .ok t → t.episodeId = episodeId
        ∧ (o.completeFound episodeId task result now).2.HasResult result t := by
  obtain ⟨hid, -⟩ := h.base.keyed.task _ task htask
  have htask' : o.tasks.get? task.taskId = some task := by
    rw [hid]
    exact htask
  unfold completeFound
  split
  · exact ⟨h, Evolves.refl o, fun t ht => by cases ht⟩
  · rename_i hinside
    have hepisode : task.episodeId = episodeId := by
      by_contra hne
      exact hinside (.inl hne)
    split
    · rename_i hterminal
      split
      · rename_i hresult
        refine ⟨h, Evolves.refl o, fun t ht => ?_⟩
        obtain rfl := Except.ok.inj ht
        exact ⟨hepisode, htask, hterminal, hid ▸ hresult⟩
      · exact ⟨h, Evolves.refl o, fun t ht => by cases ht⟩
    · rename_i hopen
      split
      · obtain ⟨hinv, hevolves, hanswer⟩ := h.readyTasks_spec episodeId now
        rcases hpoll : o.readyTasks episodeId now with ⟨e | ready, p⟩
        · rw [hpoll] at hinv hevolves
          exact ⟨hinv, hevolves, fun t ht => by cases ht⟩
        · rw [hpoll] at hinv hevolves hanswer
          rw [andThen_ok]
          split
          · exact ⟨hinv, hevolves, fun t ht => by cases ht⟩
          · rename_i hsome
            push Not at hsome
            obtain ⟨candidate, hmem, hsame⟩ := hsome
            obtain ⟨row, hfresh⟩ :=
              (hanswer ready rfl).fresh hevolves htask' hepisode hmem hsame
            obtain ⟨hinv', hevolves', hdone⟩ := hfresh.completeOpen_spec hinv hid.symm
            exact ⟨hinv', hevolves.trans hevolves', hdone⟩
      · rename_i hpending
        have hrunning : task.status = .RUNNING :=
          (WorkflowTaskStatus.not_isTerminal_iff.mp hopen).resolve_left hpending
        have hfresh : o.Fresh episodeId task task :=
          ⟨htask', TaskMove.refl task, hopen, h.base.fed _ task htask' (.inl hrunning), hepisode⟩
        exact hfresh.completeOpen_spec h hid.symm

/-- What a completion leaves: the task has its result, and nothing of the episode is due. -/
structure IsDone (o : WorkflowOrchestrator κ) (episodeId : ℕ) (result : WorkflowTaskResult)
    (now : ℤ) (t : WorkflowTask) : Prop where
  episode : t.episodeId = episodeId
  result : o.HasResult result t
  notDue : o.NotDue episodeId now

/-- **`_complete_task`** -/
theorem Inv.completeAny_spec (h : o.Inv) (episodeId : ℕ) (result : WorkflowTaskResult) (now : ℤ) :
    (o.completeAny episodeId result now).2.Inv
      ∧ Evolves o (o.completeAny episodeId result now).2
      ∧ ∀ t, (o.completeAny episodeId result now).1 = .ok t →
        (o.completeAny episodeId result now).2.IsDone episodeId result now t := by
  obtain ⟨hinv, hstops, hdue⟩ := h.timeout_spec episodeId now
  unfold completeAny
  rcases htimeout : o.timeout episodeId now with ⟨e | ⟨⟩, p⟩
  · rw [htimeout] at hinv hstops
    exact ⟨hinv, hstops.evolves, fun t ht => by cases ht⟩
  · rw [htimeout] at hinv hstops hdue
    rw [andThen_ok]
    rcases htask : p.tasks.get? result.fields.taskId with _ | task
    · exact ⟨hinv, hstops.evolves, fun t ht => by cases ht⟩
    · obtain ⟨hinv', hevolves, hdone⟩ := hinv.completeFound_spec htask episodeId now
      refine ⟨hinv', hstops.evolves.trans hevolves, fun t ht => ?_⟩
      obtain ⟨hepisode, hresult⟩ := hdone t ht
      obtain ⟨plan, hplan, -⟩ := hinv'.base.keyed.owner _ t hresult.task
      rw [hepisode, hevolves.plans] at hplan
      obtain ⟨-, episode, he⟩ := hinv.base.keyed.plan episodeId plan hplan
      exact ⟨hepisode, hresult, (hdue rfl).grows hevolves.grows hplan he⟩

/-- **`complete_task`** -/
theorem Inv.completeTask_spec (h : o.Inv) (episodeId : ℕ) (result : WorkflowTaskResult) (now : ℤ) :
    (o.completeTask episodeId result now).2.Inv
      ∧ Evolves o (o.completeTask episodeId result now).2
      ∧ ∀ t, (o.completeTask episodeId result now).1 = .ok t →
        (o.completeTask episodeId result now).2.IsDone episodeId result now t := by
  unfold completeTask
  split
  · exact ⟨h, Evolves.refl o, fun t ht => by cases ht⟩
  · exact h.completeAny_spec episodeId result now

theorem polls_criticCompletions (o : WorkflowOrchestrator κ) (completions : Dict ℕ κ) :
    Polls o { o with criticCompletions := completions } where
  evolves := { Evolves.refl o with }
  status := (Polls.refl o).status
  results := rfl
  episodes := rfl
  cycles := rfl

/-- **`complete_critic_task`** -/
theorem Inv.completeCriticTask_spec [DecidableEq κ] (h : o.Inv) (episodeId taskId : ℕ)
    (completion : CriticCompletion κ) (now : ℤ) :
    (o.completeCriticTask episodeId taskId completion now).2.Inv
      ∧ Evolves o (o.completeCriticTask episodeId taskId completion now).2 := by
  unfold completeCriticTask
  split
  · exact ⟨h, Evolves.refl o⟩
  · split
    · split
      · exact ⟨h, Evolves.refl o⟩
      · exact ⟨h, Evolves.refl o⟩
    · split
      · exact ⟨h, Evolves.refl o⟩
      · exact ⟨h, Evolves.refl o⟩
      · rename_i result _ _
        obtain ⟨hinv, hevolves, -⟩ := h.completeAny_spec episodeId result now
        rcases hcomplete : o.completeAny episodeId result now with ⟨e | t, p⟩
        · rw [hcomplete] at hinv hevolves
          exact ⟨hinv, hevolves⟩
        · rw [hcomplete] at hinv hevolves
          have hpolls := polls_criticCompletions p (p.criticCompletions.set taskId completion.record)
          exact ⟨hpolls.inv hinv, hevolves.trans hpolls.evolves⟩

/-! ### Cancellation and recovery -/

/-- **`cancel_episode`** -/
theorem Inv.cancelEpisode_spec (h : o.Inv) (episodeId : ℕ) (reason : Text) (now : ℤ) :
    (o.cancelEpisode episodeId reason now).2.Inv
      ∧ Evolves o (o.cancelEpisode episodeId reason now).2 := by
  obtain ⟨hinv, hstops, -⟩ := h.timeout_spec episodeId now
  unfold cancelEpisode
  rcases htimeout : o.timeout episodeId now with ⟨e | ⟨⟩, p⟩
  · rw [htimeout] at hinv hstops
    exact ⟨hinv, hstops.evolves⟩
  · rw [htimeout] at hinv hstops
    rw [andThen_ok]
    rcases he : p.episodes.get? episodeId with _ | episode
    · exact ⟨hinv, hstops.evolves⟩
    · simp only
      split
      · exact ⟨hinv, hstops.evolves⟩
      · rename_i hopen
        split
        · exact ⟨hinv, hstops.evolves⟩
        · rename_i hreason
          have hruns : episode.fields.status = .RUNNING := by
            by_contra hover
            exact hopen (EpisodeStatus.isTerminal_iff.mpr hover)
          have hcancel := stops_stopTasks p episodeId (fun _ => True)
            (by decide : WorkflowTaskStatus.CANCELLED.IsTerminal) (by decide)
          obtain ⟨hinv', hstops', -⟩ :=
            (hcancel.near rfl rfl (hinv.near episodeId)).endEpisode_spec he
              (episodeMove_ended hruns (by decide : EpisodeStatus.CANCELLED.IsTerminal)
                (show reason ≠ [] by rintro rfl; exact hreason rfl))
              (by show EpisodeStatus.CANCELLED ≠ .RUNNING; decide)
              ⟨isTerminal_stopTasks p episodeId (by decide), fun hcompleted => by cases hcompleted⟩
          exact ⟨hinv', hstops.evolves.trans (hcancel.trans hstops').evolves⟩

/-- The first loop of `recover`. -/
theorem Inv.timeoutAll_spec (h : o.Inv) (now : ℤ) (episodeIds : List ℕ) :
    (timeoutAll now episodeIds o).2.Inv ∧ Evolves o (timeoutAll now episodeIds o).2 := by
  induction episodeIds generalizing o with
  | nil => exact ⟨h, Evolves.refl o⟩
  | cons episodeId rest ih =>
    obtain ⟨hinv, hstops, -⟩ := h.timeout_spec episodeId now
    simp only [timeoutAll]
    rcases htimeout : o.timeout episodeId now with ⟨e | ⟨⟩, p⟩
    · rw [htimeout] at hinv hstops
      exact ⟨hinv, hstops.evolves⟩
    · rw [htimeout] at hinv hstops
      obtain ⟨hinv', hevolves⟩ := ih hinv
      exact ⟨hinv', hstops.evolves.trans hevolves⟩

/-- The second loop of `recover`. -/
theorem Inv.expireCycles_spec (h : o.Inv) (now : ℤ) :
    (o.expireCycles now).Inv ∧ Evolves o (o.expireCycles now) := by
  have hevolves : Evolves o (o.expireCycles now) := by
    refine { Evolves.refl o with cycles := ?_ }
    simp only [expireCycles]
    refine Dict.rewrites_sweep CycleMove.refl fun id c c' _ hc' => ?_
    split at hc'
    · rename_i hexpires
      obtain rfl := Option.some.inj hc'
      exact ⟨rfl, fun hover => absurd hexpires.1 hover⟩
    · cases hc'
  have hbase : (o.expireCycles now).Base := by
    refine h.base.ends hevolves rfl rfl h.base.ended fun id e c he hc hruns => ?_
    simp only [expireCycles, Dict.get?_sweep, Option.map_eq_some_iff] at hc
    obtain ⟨c₀, hc₀, hc⟩ := hc
    split at hc
    · -- a cycle that expires has no episode
      rename_i hexpires
      exact absurd rfl (hexpires.2.1 e (Dict.mem_values_iff.mpr ⟨id, he⟩))
    · obtain rfl := hc
      exact h.base.cycle id e c₀ he hc₀ hruns
  refine ⟨⟨hbase, fun other => ?_⟩, hevolves⟩
  refine (h.settled other).evolves hevolves fun id t t' ht ht' _ hends => ?_
  obtain rfl := Option.some.inj (ht.symm.trans ht')
  exact hends

/-- **`recover`** -/
theorem Inv.recover_spec (h : o.Inv) (now : ℤ) :
    (o.recover now).2.Inv ∧ Evolves o (o.recover now).2 := by
  obtain ⟨hinv, hevolves⟩ := h.timeoutAll_spec now o.episodes.keys
  unfold recover
  rcases htimeout : timeoutAll now o.episodes.keys o with ⟨e | ⟨⟩, p⟩
  · rw [htimeout] at hinv hevolves
    exact ⟨hinv, hevolves⟩
  · rw [htimeout] at hinv hevolves
    obtain ⟨hinv', hevolves'⟩ := hinv.expireCycles_spec now
    exact ⟨hinv', hevolves.trans hevolves'⟩

end WorkflowOrchestrator

end FuturesAgentOs
