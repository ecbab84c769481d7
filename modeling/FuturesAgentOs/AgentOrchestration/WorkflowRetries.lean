import FuturesAgentOs.AgentOrchestration.WorkflowSafety

namespace FuturesAgentOs

open PyModel

/-!
# Exact retries

A call that succeeded is made again, with the same arguments.  It answers the object as it is
stored, and changes nothing, exactly while what it works on still runs: the cycle, for
`start_cycle` and `start_episode`, and the episode for the other two.  Once the episode is over,
even by the completion that is retried, `complete_task` raises.

* `retry_iff` — when a retry is one.
-/

namespace WorkflowCall

/-- The calls that are retried. -/
def IsRetryable {κ : Type} : WorkflowCall κ → Prop
  | .startCycle .. | .startEpisode .. | .acceptDelegationPlan .. | .completeTask .. => True
  | _ => False

end WorkflowCall

namespace WorkflowOrchestrator

variable {κ : Type} {o p : WorkflowOrchestrator κ}

/-- The stored cycle of a trigger. -/
def cycleOf [Hashlib] (o : WorkflowOrchestrator κ) (trigger : CycleTrigger) :
    Option AutonomyCycle :=
  trigger.deduplicationHash.toOption.bind fun dedup =>
    (o.cyclesByDedup.get? dedup).bind fun prior => o.cycles.get? prior.fields.cycleId

/-- The object of a call, as it is stored. -/
def stored [Hashlib] (o : WorkflowOrchestrator κ) : WorkflowCall κ → Option WorkflowAnswer
  | .startCycle trigger _ => (o.cycleOf trigger).map .cycle
  | .startEpisode cycleId candidateKey _ =>
    ((o.episodesByKey.get? (cycleId, candidateKey)).bind o.episodes.get?).map .episode
  | .acceptDelegationPlan plan => some (.tasks (o.tasksOf plan.fields.episodeId))
  | .completeTask _ result _ => (o.tasks.get? result.fields.taskId).map .task
  | _ => none

/-- What the call works on still runs. -/
def StillRuns [Hashlib] (o : WorkflowOrchestrator κ) : WorkflowCall κ → Prop
  | .startCycle trigger _ => ∃ cycle ∈ o.cycleOf trigger, cycle.fields.status = .RUNNING
  | .startEpisode cycleId _ _ => ∃ cycle ∈ o.cycles.get? cycleId, cycle.fields.status = .RUNNING
  | .acceptDelegationPlan plan => o.IsRunning plan.fields.episodeId
  | .completeTask episodeId _ _ => o.IsRunning episodeId
  | _ => False

/-! ### The indices -/

/-- An index leads to a row; that of cycles keeps the cycle as it was when it started. -/
structure Indexed (o : WorkflowOrchestrator κ) : Prop where
  cycle : ∀ dedup prior, o.cyclesByDedup.get? dedup = some prior →
    prior.fields.status = .RUNNING
      ∧ ∃ c, o.cycles.get? prior.fields.cycleId = some c ∧ CycleMove prior c
  episode : ∀ key id, o.episodesByKey.get? key = some id → ∃ e, o.episodes.get? id = some e

theorem Indexed.evolves (h : o.Indexed) (hp : Evolves o p) : p.Indexed := by
  refine ⟨fun dedup prior hprior => ?_, fun key id hkey => ?_⟩
  · rw [hp.cyclesByDedup] at hprior
    obtain ⟨hruns, c, hc, hmove⟩ := h.cycle dedup prior hprior
    obtain ⟨c', hc', hmove'⟩ := hp.cycles.move _ c hc
    exact ⟨hruns, c', hc', hmove.trans hmove'⟩
  · rw [hp.episodesByKey] at hkey
    obtain ⟨e, he⟩ := h.episode key id hkey
    obtain ⟨e', he', -⟩ := hp.episodes.move id e he
    exact ⟨e', he'⟩

variable {cycle : AutonomyCycle}

theorem Indexed.storeCycle (h : o.Indexed) (hinv : o.Inv) (dedup : Text)
    (hid : cycle.fields.cycleId = o.drawn) (hruns : cycle.fields.status = .RUNNING) :
    (o.storeCycle dedup (.ok cycle)).2.Indexed := by
  refine ⟨fun key prior hprior => ?_, h.episode⟩
  simp only [WorkflowOrchestrator.storeCycle, Dict.get?_set] at hprior
  split at hprior
  · obtain rfl := Option.some.inj hprior
    exact ⟨hruns, cycle, Dict.get?_set_self _ _ _, CycleMove.refl cycle⟩
  · obtain ⟨hprior', c, hc, hmove⟩ := h.cycle key prior hprior
    refine ⟨hprior', c, ?_, hmove⟩
    show (o.cycles.set cycle.fields.cycleId cycle).get? prior.fields.cycleId = some c
    rw [hid]
    exact get?_set_drawn (fun j v hv => (hinv.base.keyed.cycle j v hv).2) hc

theorem Indexed.storeEpisode (h : o.Indexed) (episode : DecisionEpisode) :
    (o.storeEpisode (.ok episode)).2.Indexed := by
  refine ⟨h.cycle, fun key id hkey => ?_⟩
  simp only [WorkflowOrchestrator.storeEpisode, Dict.get?_set] at hkey ⊢
  split at hkey
  · obtain rfl := Option.some.inj hkey
    exact ⟨episode, by rw [if_pos rfl]⟩
  · obtain ⟨e, he⟩ := h.episode key id hkey
    split
    · exact ⟨episode, rfl⟩
    · exact ⟨e, he⟩

section

variable [DecidableEq κ] [Hashlib]

theorem Indexed.call (h : o.Indexed) (hinv : o.Inv) (c : WorkflowCall κ) :
    (o.call c).2.Indexed := by
  cases c with
  | startCycle trigger expiresAt =>
    show (o.startCycle trigger expiresAt).2.Indexed
    rcases startCycle_cases o trigger expiresAt with
      ⟨e, heq⟩ | ⟨-, prior, -, -, -, heq⟩ | ⟨dedup, cycle, -, -, hfields, heq⟩
    · rw [heq]
      exact h
    · rw [heq]
      exact h
    · rw [heq]
      exact h.storeCycle hinv dedup (by rw [hfields]) (by rw [hfields])
  | startEpisode cycleId candidateKey expiresAt =>
    show (o.startEpisode cycleId candidateKey expiresAt).2.Indexed
    rcases startEpisode_cases o cycleId candidateKey expiresAt with
      ⟨e, heq⟩ | ⟨cycle, -, -, -, ⟨existing, -, heq⟩ | ⟨episode, -, -, heq⟩⟩
    · rw [heq]
      exact h
    · rw [heq]
      exact h
    · rw [heq]
      exact h.storeEpisode episode
  | acceptDelegationPlan plan =>
    show (o.acceptDelegationPlan plan).2.Indexed
    rcases acceptDelegationPlan_cases o plan with
      ⟨e, heq⟩ | ⟨episode, -, -, -, -, ⟨-, heq⟩ | ⟨-, ⟨tasks, -, heq⟩ | ⟨e, heq⟩⟩⟩
    · rw [heq]
      exact h
    · rw [heq]
      exact h
    · rw [heq]
      exact ⟨h.cycle, h.episode⟩
    · rw [heq]
      exact ⟨h.cycle, h.episode⟩
  | readyTasks episodeId now => exact h.evolves (hinv.readyTasks_spec episodeId now).2.1
  | claimReadyTasks episodeId now limit =>
    exact h.evolves (hinv.claimReadyTasks_spec episodeId now limit).2
  | completeTask episodeId result now =>
    exact h.evolves (hinv.completeTask_spec episodeId result now).2.1
  | completeCriticTask episodeId taskId completion now =>
    exact h.evolves (hinv.completeCriticTask_spec episodeId taskId completion now).2
  | cancelEpisode episodeId reason now =>
    exact h.evolves (hinv.cancelEpisode_spec episodeId reason now).2
  | recover now => exact h.evolves (hinv.recover_spec now).2

theorem Indexed.exec (h : o.Indexed) (hinv : o.Inv) (calls : List (WorkflowCall κ)) :
    ((machine κ).exec o calls).Indexed := by
  induction calls generalizing o with
  | nil => exact h
  | cons c rest ih =>
    rw [Machine.exec_cons]
    exact ih (h.call hinv c) (hinv.call_spec c).1

end

/-! ### A call that succeeded -/

/-- The answer of a call, and what it leaves. -/
theorem map_fst_eq_ok {α β : Type} {f : α → β} {x : Outcome (WorkflowOrchestrator κ) α} {b : β}
    (h : (Prod.map (Except.map f) id x).1 = .ok b) : ∃ a, x.1 = .ok a ∧ b = f a := by
  rcases x with ⟨e | a, s⟩
  · cases h
  · exact ⟨a, rfl, (Except.ok.inj h).symm⟩

section

variable [Hashlib]

/-- What a call that succeeded leaves. -/
def Succeeded (o : WorkflowOrchestrator κ) : WorkflowCall κ → Prop
  | .startCycle trigger _ => ∃ dedup prior, trigger.deduplicationHash = .ok dedup
    ∧ o.cyclesByDedup.get? dedup = some prior ∧ prior.fields.trigger = trigger
  | .startEpisode cycleId candidateKey expiresAt =>
    (∃ cycle, o.cycles.get? cycleId = some cycle ∧ expiresAt ≤ cycle.fields.expiresAt)
      ∧ ∃ id, o.episodesByKey.get? (cycleId, candidateKey) = some id
  | .acceptDelegationPlan plan => o.plans.get? plan.fields.episodeId = some plan
    ∧ ∃ episode, o.episodes.get? plan.fields.episodeId = some episode
      ∧ episode.fields.cycleId = plan.fields.cycleId
      ∧ plan.fields.expiresAt ≤ episode.fields.expiresAt
  | .completeTask episodeId result now => ∃ t, o.IsDone episodeId result now t
    ∧ t.fields.roleId ≠ .preTradeCritic
  | _ => True

theorem Succeeded.grows {c : WorkflowCall κ} (h : o.Succeeded c) (hinv : o.Inv) (hp : Grows o p) :
    p.Succeeded c := by
  cases c with
  | startCycle trigger expiresAt =>
    obtain ⟨dedup, prior, hdedup, hprior, htrigger⟩ := h
    exact ⟨dedup, prior, hdedup, hp.cyclesByDedup dedup prior hprior, htrigger⟩
  | startEpisode cycleId candidateKey expiresAt =>
    obtain ⟨⟨cycle, hc, hle⟩, id, hkey⟩ := h
    obtain ⟨cycle', hc', hmove⟩ := hp.cycles _ cycle hc
    refine ⟨⟨cycle', hc', ?_⟩, id, hp.episodesByKey _ id hkey⟩
    rw [hmove.same]
    exact hle
  | acceptDelegationPlan plan =>
    obtain ⟨hplan, episode, he, hcycle, hle⟩ := h
    obtain ⟨episode', he', hmove⟩ := hp.episodes _ episode he
    refine ⟨hp.plans _ plan hplan, episode', he', ?_, ?_⟩
    · rw [hmove.same]
      exact hcycle
    · rw [hmove.same]
      exact hle
  | completeTask episodeId result now =>
    obtain ⟨t, ⟨hepisode, ⟨htask, hterminal, hresult⟩, hdue⟩, hrole⟩ := h
    obtain ⟨plan, hplan, -⟩ := hinv.base.keyed.owner _ t htask
    rw [hepisode] at hplan
    obtain ⟨-, episode, he⟩ := hinv.base.keyed.plan _ plan hplan
    obtain ⟨t', ht', hmove⟩ := hp.tasks _ t htask
    obtain rfl := hmove.terminal hterminal
    exact ⟨t', ⟨hepisode, ⟨ht', hterminal, hp.results _ result hresult⟩,
      hdue.grows hp hplan he⟩, hrole⟩
  | _ => trivial

theorem Inv.succeeded [DecidableEq κ] (h : o.Inv) {c : WorkflowCall κ} {a : WorkflowAnswer}
    (hok : (o.call c).1 = .ok a) : (o.call c).2.Succeeded c := by
  cases c with
  | startCycle trigger expiresAt =>
    obtain ⟨cycle, hanswer, -⟩ := map_fst_eq_ok hok
    have hok : (o.startCycle trigger expiresAt).1 = .ok cycle := hanswer
    show (o.startCycle trigger expiresAt).2.Succeeded (.startCycle trigger expiresAt)
    rcases startCycle_cases o trigger expiresAt with
      ⟨e, heq⟩ | ⟨dedup, prior, hdedup, hprior, htrigger, heq⟩ | ⟨dedup, cycle, hdedup, -, hfields, heq⟩
    · rw [heq] at hok
      cases hok
    · rw [heq]
      exact ⟨dedup, prior, hdedup, hprior, htrigger⟩
    · rw [heq]
      exact ⟨dedup, cycle, hdedup, Dict.get?_set_self _ _ _, by rw [hfields]⟩
  | startEpisode cycleId candidateKey expiresAt =>
    obtain ⟨episode, hanswer, -⟩ := map_fst_eq_ok hok
    have hok : (o.startEpisode cycleId candidateKey expiresAt).1 = .ok episode := hanswer
    show (o.startEpisode cycleId candidateKey expiresAt).2.Succeeded
      (.startEpisode cycleId candidateKey expiresAt)
    rcases startEpisode_cases o cycleId candidateKey expiresAt with
      ⟨e, heq⟩ | ⟨cycle, hc, -, hle, ⟨existing, hkey, heq⟩ | ⟨episode, -, hfields, heq⟩⟩
    · rw [heq] at hok
      cases hok
    · rw [heq]
      exact ⟨⟨cycle, hc, hle⟩, existing, hkey⟩
    · rw [heq]
      refine ⟨⟨cycle, hc, hle⟩, episode.fields.episodeId, ?_⟩
      simp only [WorkflowOrchestrator.storeEpisode, hfields]
      exact Dict.get?_set_self _ _ _
  | acceptDelegationPlan plan =>
    obtain ⟨tasks, hanswer, -⟩ := map_fst_eq_ok hok
    have hok : (o.acceptDelegationPlan plan).1 = .ok tasks := hanswer
    show (o.acceptDelegationPlan plan).2.Succeeded (.acceptDelegationPlan plan)
    rcases acceptDelegationPlan_cases o plan with
      ⟨e, heq⟩ | ⟨episode, he, hcycle, -, hle, ⟨hplan, heq⟩ | ⟨-, ⟨tasks, -, heq⟩ | ⟨e, heq⟩⟩⟩
    · rw [heq] at hok
      cases hok
    · rw [heq]
      exact ⟨hplan, episode, he, hcycle, hle⟩
    · rw [heq]
      exact ⟨Dict.get?_set_self _ _ _, episode, he, hcycle, hle⟩
    · rw [heq] at hok
      cases hok
  | completeTask episodeId result now =>
    obtain ⟨t, hanswer, -⟩ := map_fst_eq_ok hok
    have hok : (o.completeTask episodeId result now).1 = .ok t := hanswer
    show (o.completeTask episodeId result now).2.Succeeded (.completeTask episodeId result now)
    obtain ⟨-, hevolves, hdone⟩ := h.completeTask_spec episodeId result now
    refine ⟨t, hdone t hok, fun hcritic => ?_⟩
    obtain ⟨u, hu, hmove⟩ := hevolves.tasks.back (hdone t hok).result.task
    have hgeneric : ∃ task ∈ o.tasks.get? result.fields.taskId,
        task.fields.roleId = .preTradeCritic := ⟨u, hu, hmove.roleId.symm.trans hcritic⟩
    rw [WorkflowOrchestrator.completeTask, if_pos hgeneric] at hok
    cases hok
  | _ => trivial

end

/-! ### The retry -/

/-- A cycle that still runs is as it was when it started. -/
theorem eq_of_cycleMove {prior : AutonomyCycle} (hmove : CycleMove prior cycle)
    (hprior : prior.fields.status = .RUNNING) (hcycle : cycle.fields.status = .RUNNING) :
    cycle = prior := by
  refine Frozen.ext ?_
  rw [hmove.same, hcycle, ← hprior]

theorem startEpisode_again {cycleId : ℕ} {candidateKey : Text} {expiresAt : ℤ} (hc : o.cycles.get? cycleId = some cycle)
    (hle : expiresAt ≤ cycle.fields.expiresAt) {existing : ℕ}
    (hkey : o.episodesByKey.get? (cycleId, candidateKey) = some existing)
    {episode : DecisionEpisode} (he : o.episodes.get? existing = some episode) :
    (cycle.fields.status = .RUNNING ∧
      o.startEpisode cycleId candidateKey expiresAt = (.ok episode, o))
    ∨ cycle.fields.status ≠ .RUNNING ∧
      ∃ e, o.startEpisode cycleId candidateKey expiresAt = (.error e, o) := by
  by_cases hruns : cycle.fields.status = .RUNNING
  · refine .inl ⟨hruns, ?_⟩
    simp only [startEpisode, hc, if_neg (not_not.mpr hruns), if_neg (not_lt.mpr hle), hkey,
      WorkflowOrchestrator.episode, he]
  · refine .inr ⟨hruns, valueError "decision episode requires a running autonomy cycle", ?_⟩
    simp only [startEpisode, hc, if_pos (show cycle.fields.status ≠ .RUNNING from hruns)]

theorem acceptDelegationPlan_again {plan : DelegationPlan}
    (hplan : o.plans.get? plan.fields.episodeId = some plan) {episode : DecisionEpisode}
    (he : o.episodes.get? plan.fields.episodeId = some episode)
    (hcycle : episode.fields.cycleId = plan.fields.cycleId)
    (hle : plan.fields.expiresAt ≤ episode.fields.expiresAt) :
    (episode.fields.status = .RUNNING ∧
      o.acceptDelegationPlan plan = (.ok (o.tasksOf plan.fields.episodeId), o))
    ∨ episode.fields.status ≠ .RUNNING ∧
      ∃ e, o.acceptDelegationPlan plan = (.error e, o) := by
  unfold acceptDelegationPlan
  by_cases hruns : episode.fields.status = .RUNNING
  · refine .inl ⟨hruns, ?_⟩
    rw [he, Option.filter_some_pos (by simp [hcycle, hruns])]
    simp only [if_neg (not_lt.mpr hle), hplan, if_true]
  · refine .inr ⟨hruns, valueError "delegation plan must target a running episode in its cycle", ?_⟩
    rw [he, Option.filter_some_neg (by simp [hruns])]

theorem IsDone.completeTask_again {episodeId : ℕ} {result : WorkflowTaskResult} {now : ℤ}
    {t : WorkflowTask} (h : o.IsDone episodeId result now t) (hinv : o.Inv)
    (hrole : t.fields.roleId ≠ .preTradeCritic) :
    (o.IsRunning episodeId ∧ o.completeTask episodeId result now = (.ok t, o))
    ∨ ¬ o.IsRunning episodeId ∧ ∃ e, o.completeTask episodeId result now = (.error e, o) := by
  obtain ⟨htask, hterminal, hresult⟩ := h.result
  obtain ⟨plan, hplan, -⟩ := hinv.base.keyed.owner _ t htask
  rw [h.episode] at hplan
  obtain ⟨-, episode, he⟩ := hinv.base.keyed.plan _ plan hplan
  have htimeout : o.timeout episodeId now = (.ok (), o) := by
    refine hinv.timeout_eq h.notDue he fun plan' hplan' _ => ?_
    refine (hinv.base.keyed.whole episodeId plan' hplan').resolve_left fun hnil => ?_
    have hmem := mem_tasksOf_of_get? htask
    rw [h.episode, hnil] at hmem
    cases hmem
  have hgeneric : ¬ ∃ task ∈ o.tasks.get? result.fields.taskId,
      task.fields.roleId = .preTradeCritic := by
    rintro ⟨u, hu, hcritic⟩
    obtain rfl := Option.some.inj (htask.symm.trans hu)
    exact hrole hcritic
  rw [completeTask, if_neg hgeneric, completeAny, htimeout, andThen_ok]
  simp only [htask]
  unfold completeFound
  by_cases hruns : o.IsRunning episodeId
  · refine .inl ⟨hruns, ?_⟩
    have hinside : ¬ (t.episodeId ≠ episodeId ∨ ¬ o.IsRunning episodeId) := by
      rintro (hne | hnot)
      · exact hne h.episode
      · exact hnot hruns
    have hid : t.taskId = result.fields.taskId := (hinv.base.keyed.task _ t htask).1
    rw [if_neg hinside, if_pos hterminal, if_pos (by rw [hid]; exact hresult)]
  · refine .inr ⟨hruns, valueError "cannot complete a task outside a running episode", ?_⟩
    exact if_pos (.inr hruns)

section

variable [DecidableEq κ] [Hashlib]

/-- **A call that succeeded, made again.** -/
theorem Succeeded.again_iff {c : WorkflowCall κ} (h : o.Succeeded c) (hinv : o.Inv)
    (hindexed : o.Indexed) (hc : c.IsRetryable) :
    (∃ b, o.stored c = some b ∧ o.call c = (.ok b, o)) ↔ o.StillRuns c := by
  cases c with
  | startCycle trigger expiresAt =>
    obtain ⟨dedup, prior, hdedup, hprior, htrigger⟩ := h
    obtain ⟨hstarted, cycle, hcycle, hmove⟩ := hindexed.cycle dedup prior hprior
    have hstored : o.cycleOf trigger = some cycle := by
      simp only [cycleOf, hdedup, Except.toOption, Option.bind_some, hprior, hcycle]
    have hcall : o.startCycle trigger expiresAt = (.ok prior, o) := by
      simp only [WorkflowOrchestrator.startCycle, hdedup, hprior, if_pos htrigger]
    rw [stored, StillRuns, hstored, WorkflowOrchestrator.call, hcall]
    constructor
    · rintro ⟨b, hb, hanswer⟩
      obtain rfl := Option.some.inj hb
      have hsame : prior = cycle :=
        WorkflowAnswer.cycle.inj (Except.ok.inj (congrArg Prod.fst hanswer))
      exact ⟨cycle, rfl, hsame ▸ hstarted⟩
    · rintro ⟨c, hc, hruns⟩
      obtain rfl := Option.some.inj hc
      rw [eq_of_cycleMove hmove hstarted hruns]
      exact ⟨_, rfl, rfl⟩
  | startEpisode cycleId candidateKey expiresAt =>
    obtain ⟨⟨cycle, hcycle, hle⟩, id, hkey⟩ := h
    obtain ⟨episode, he⟩ := hindexed.episode _ id hkey
    rw [stored, StillRuns, hkey, Option.bind_some, he, hcycle, WorkflowOrchestrator.call]
    rcases startEpisode_again hcycle hle hkey he with ⟨hruns, hcall⟩ | ⟨hover, e, hcall⟩
    · rw [hcall]
      exact iff_of_true ⟨_, rfl, rfl⟩ ⟨cycle, rfl, hruns⟩
    · rw [hcall]
      refine iff_of_false ?_ ?_
      · rintro ⟨b, -, hanswer⟩
        cases congrArg Prod.fst hanswer
      · rintro ⟨c, hc, hruns⟩
        obtain rfl := Option.some.inj hc
        exact hover hruns
  | acceptDelegationPlan plan =>
    obtain ⟨hplan, episode, he, hcycle, hle⟩ := h
    rw [stored, StillRuns, isRunning_iff, WorkflowOrchestrator.call]
    rcases acceptDelegationPlan_again hplan he hcycle hle with ⟨hruns, hcall⟩ | ⟨hover, e, hcall⟩
    · rw [hcall]
      exact iff_of_true ⟨_, rfl, rfl⟩ ⟨episode, he, hruns⟩
    · rw [hcall]
      refine iff_of_false ?_ ?_
      · rintro ⟨b, -, hanswer⟩
        cases congrArg Prod.fst hanswer
      · rintro ⟨e, he', hruns⟩
        obtain rfl := Option.some.inj (he.symm.trans he')
        exact hover hruns
  | completeTask episodeId result now =>
    obtain ⟨t, hdone, hrole⟩ := h
    rw [stored, StillRuns, hdone.result.task, WorkflowOrchestrator.call]
    rcases hdone.completeTask_again hinv hrole with ⟨hruns, hcall⟩ | ⟨hover, e, hcall⟩
    · rw [hcall]
      exact iff_of_true ⟨_, rfl, rfl⟩ hruns
    · rw [hcall]
      refine iff_of_false ?_ hover
      rintro ⟨b, -, hanswer⟩
      cases congrArg Prod.fst hanswer
  | _ => exact absurd hc id

/-- **Exact retries.** A call that succeeded is made again after any other calls: it answers the
object as it is stored and changes nothing exactly while what it works on still runs. -/
theorem retry_iff (past later : List (WorkflowCall κ)) (c : WorkflowCall κ) (hc : c.IsRetryable)
    (hok : ¬ (((machine κ).exec {} past).call c).1.Raises) :
    (∃ b, ((machine κ).exec {} (past ++ c :: later)).stored c = some b
        ∧ ((machine κ).exec {} (past ++ c :: later)).call c
          = (.ok b, (machine κ).exec {} (past ++ c :: later)))
      ↔ ((machine κ).exec {} (past ++ c :: later)).StillRuns c := by
  obtain ⟨a, ha⟩ := Py.not_raises_iff.mp hok
  have hinv := inv_exec (κ := κ) past
  have hindexed : ((machine κ).exec {} (past ++ c :: later)).Indexed :=
    Indexed.exec ⟨fun _ _ h => (by cases h), fun _ _ h => (by cases h)⟩ inv_empty _
  have hsucceeded := hinv.succeeded ha
  have hstep := (hinv.call_spec c).1
  rw [Machine.exec_append, Machine.exec_cons] at hindexed ⊢
  obtain ⟨hlast, hgrows⟩ := hstep.exec_spec later
  exact (hsucceeded.grows hstep hgrows).again_iff hlast hindexed hc

end

/-! ### A completion that closes its episode -/

/-- The fields of a sample artifact. -/
def artifactFields (kind : ArtifactKind) (digit : Text) : ArtifactRefFields where
  artifactId := .epoch "artifact" 1 1 (Eq.refl true)
  artifactKind := kind
  schemaVersion := v2ContractSchema
  contentHash := ("sha256:" : Text) ++ (List.replicate 64 digit).flatten
  createdAt := ⟨.of 2026 7 13 (Eq.refl true), 9, 0, 0, 0⟩
  asOf := ⟨.of 2026 7 13 (Eq.refl true), 9, 0, 0, 0⟩

/-- A market snapshot. -/
def snapshot : ArtifactRef := ⟨artifactFields .marketSnapshot "a", by decide +kernel⟩

/-- An assessment of the market. -/
def assessment : ArtifactRef := ⟨artifactFields .marketStateAssessment "b", by decide +kernel⟩

/-- A trigger on the snapshot. -/
def trigger : CycleTrigger :=
  ⟨{ source := .SCHEDULE, idempotencyKey := "open", occurredAt := 0, inputArtifacts := [snapshot] },
    by decide +kernel⟩

/-- A budget for one or two tasks. -/
def budget : AgentBudget := ⟨⟨10, 10, 10, 10, 2⟩, by decide⟩

/-- A step that assesses the snapshot. -/
def assessFields (key : Text) : DelegationStepFields where
  stepKey := key
  roleId := .marketRegime
  inputArtifacts := [snapshot]
  requiredOutputs := [.marketStateAssessment]
  budget := ⟨⟨1, 1, 1, 1, 1⟩, by decide⟩
  dependsOn := []

/-- A plan of one step. -/
def assessPlan : DelegationPlan where
  fields :=
    { planId := 7
      cycleId := 0
      episodeId := 1
      asOf := 0
      expiresAt := 50
      steps := [⟨assessFields "regime", by decide +kernel⟩]
      cycleBudget := budget }
  valid := by decide +kernel

/-- The result of the only task. -/
def assessResult : WorkflowTaskResult :=
  ⟨{ taskId := 2, status := .COMPLETED, artifacts := [assessment], unknowns := [], warnings := [] },
    by decide +kernel⟩

/-- The calls up to the claim of the only task. -/
def claimed : List (WorkflowCall Unit) :=
  [.startCycle trigger 100, .startEpisode 0 "candidate" 90, .acceptDelegationPlan assessPlan,
    .claimReadyTasks 1 5 none]

/-- Its completion, which closes the episode. -/
def completion : WorkflowCall Unit := .completeTask 1 assessResult 6

theorem completion_retry_iff :
    (∃ b, ((machine Unit).exec {} (claimed ++ [completion])).stored completion = some b
        ∧ ((machine Unit).exec {} (claimed ++ [completion])).call completion
          = (.ok b, (machine Unit).exec {} (claimed ++ [completion])))
      ↔ ((machine Unit).exec {} (claimed ++ [completion])).StillRuns completion :=
  retry_iff claimed [] completion trivial (by decide +kernel)

/-- **The retry of a completion that closed its episode raises.** -/
theorem closing_retry_raises :
    ¬ ∀ (past later : List (WorkflowCall Unit)) (c : WorkflowCall Unit), c.IsRetryable →
      ¬ (((machine Unit).exec {} past).call c).1.Raises →
      (∀ e ∈ ((machine Unit).exec {} (past ++ c :: later)).episodes.values,
        e.fields.status ≠ .CANCELLED ∧ e.fields.status ≠ .TIMED_OUT) →
      ∃ b, ((machine Unit).exec {} (past ++ c :: later)).stored c = some b
        ∧ ((machine Unit).exec {} (past ++ c :: later)).call c
          = (.ok b, (machine Unit).exec {} (past ++ c :: later)) := by
  intro h
  obtain ⟨b, -, hanswer⟩ :=
    h claimed [] completion trivial (by decide +kernel) (by decide +kernel)
  have hraises : (((machine Unit).exec {} (claimed ++ [completion])).call completion).1.Raises := by
    decide +kernel
  rw [hanswer] at hraises
  exact Py.not_raises_ok b hraises

end WorkflowOrchestrator

end FuturesAgentOs
