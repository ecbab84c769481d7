import FuturesAgentOs.AgentOrchestration.SkippedDependants

namespace FuturesAgentOs

open PyModel

/-!
# Termination of a collaboration

`StructuredParallelOrchestrator.run` on everything that its workers and its clock may do.  Beyond a
`WorkerRun`, a worker may raise what `except Exception` lets through, and the wait for a batch
refuses a timeout that no lock accepts.

* `run_terminates` — then it returns, after as many rounds as a chain of dependencies is long.
-/

/-- What the call of a worker does: what a `WorkerRun` says, or it raises an exception that is no
`Exception`, or that cannot be rendered. -/
inductive WorkerCall where
  | ordinary (run : WorkerRun)
  | escaped (typeName message : Text)

/-- What leaves `run`. -/
inductive ParallelError where
  | exception (e : PyException)
  | escaped (typeName message : Text)
  deriving DecidableEq

/-- `threading.TIMEOUT_MAX` of a 64-bit POSIX system, in milliseconds. -/
def timeoutMaxMillis : ℤ := 9223372036000

/-- `wall_millis / 1000` rounds to no float. -/
def DivisionOverflows (wallMillis : ℤ) : Prop := (2 ^ 1024 - 2 ^ 970) * 1000 ≤ wallMillis

instance (wallMillis : ℤ) : Decidable (DivisionOverflows wallMillis) :=
  inferInstanceAs (Decidable (_ ≤ _))

/-- `workers`, with what the clock does to the waits. -/
structure Host where
  keys : List Text
  call : Text → WorkerCall
  /-- the milliseconds since the start at which a round waits for its batch, unless the batch is
  done by then -/
  waitsAt : ℕ → Option ℕ

namespace Host

/-- What the workers do, where it is ordinary. -/
def workers (h : Host) : Workers where
  keys := h.keys
  run key := match h.call key with
    | .ordinary run => run
    | .escaped typeName message => .done [] (.error (.other typeName message)) false 0

/-- The timeout of the wait of a round is more than a lock accepts. -/
def WaitsTooLong (h : Host) (plan : CollaborationPlan) (round : ℕ) : Prop :=
  ∃ elapsed ∈ h.waitsAt round,
    timeoutMaxMillis < max 0 (plan.fields.budget.fields.maxWallMillis - elapsed)

instance (h : Host) (plan : CollaborationPlan) (round : ℕ) :
    Decidable (h.WaitsTooLong plan round) :=
  match hwait : h.waitsAt round with
  | none => isFalse (by simp [WaitsTooLong, hwait])
  | some elapsed => decidable_of_iff
      (timeoutMaxMillis < max 0 (plan.fields.budget.fields.maxWallMillis - elapsed))
      (by simp [WaitsTooLong, hwait])

/-- What `future.result()` raises past the handlers. -/
def escapedFrom (h : Host) (task : CollaborationTask) : Option ParallelError :=
  match h.call task.taskKey with
  | .ordinary _ => none
  | .escaped typeName message => some (.escaped typeName message)

/-- What `_run_batch` raises for the ready tasks. -/
def batchError (h : Host) (plan : CollaborationPlan) (c : Collaboration) : Option ParallelError :=
  if h.WaitsTooLong plan c.rounds then
    some (.exception ⟨.overflowError, "timeout value is too large"⟩)
  else c.ready.findSome? h.escapedFrom

/-- The loop of `run`, with the number of rounds that are left. -/
def loop (h : Host) (plan : CollaborationPlan) :
    ℕ → Collaboration → Except ParallelError Unit × Collaboration
  | 0, c =>
    if c.pending = [] then (.ok (), c)
    else (.error (.exception ⟨.budgetExceeded, "collaboration loop hard limit exceeded"⟩), c)
  | left + 1, c =>
    if c.pending = [] then (.ok (), c)
    else
      let skipped := c.skipBlocked
      if skipped.ready = [] then
        if skipped.pending = [] then (.ok (), skipped)
        else
          (.error (.exception ⟨.runtimeError, "collaboration graph made no progress"⟩), skipped)
      else match h.batchError plan skipped with
        | some e => (.error e, skipped)
        | none => loop h plan left (skipped.runReady plan h.workers)

open StructuredParallelOrchestrator in
/-- `StructuredParallelOrchestrator.run`, with the locals it ends in; `elapsed` is the time it
took in milliseconds. -/
def run (h : Host) (plan : CollaborationPlan) (elapsed : ℕ) :
    Except ParallelError FanInResult × Collaboration :=
  let budget := plan.fields.budget.fields
  if ¬ MatchesTasks plan h.workers then
    (.error (.exception (valueError "workers must exactly match collaboration tasks")),
      .start plan)
  else if DivisionOverflows budget.maxWallMillis then
    (.error (.exception ⟨.overflowError, "integer division result too large for a float"⟩),
      .start plan)
  else
    match h.loop plan budget.maxRounds.toNat (.start plan) with
    | (.error e, c) => (.error e, c)
    | (.ok (), c) =>
      match plan.tasks.mapM (fun task => c.executions.get? task.taskKey) with
      | none => (.error (.exception ⟨.keyError, "task_key"⟩), c)
      | some ordered =>
        let total := totalUsage plan ordered elapsed
        if budget.maxTokens < total.tokens ∨ budget.maxToolCalls < total.toolCalls
            ∨ budget.maxComputeUnits < total.computeUnits
            ∨ budget.maxWallMillis < total.wallMillis then
          (.error (.exception
            ⟨.budgetExceeded, "collaboration aggregate hard limit exceeded"⟩), c)
        else
          (.ok ⟨ordered, conflicts plan ordered, c.rounds, total⟩, c)

/-- Every worker of the plan does what a `WorkerRun` says. -/
def IsOrdinary (h : Host) (plan : CollaborationPlan) : Prop :=
  ∀ key ∈ plan.fields.keys, ∃ run, h.call key = .ordinary run

section

variable {h : Host} {plan : CollaborationPlan}

theorem batchError_eq_none (hordinary : h.IsOrdinary plan)
    (hwall : plan.fields.budget.fields.maxWallMillis ≤ timeoutMaxMillis) {c : Collaboration}
    (hc : c.Progress plan h.workers) : h.batchError plan c = none := by
  have hwait : ¬ h.WaitsTooLong plan c.rounds := by
    rintro ⟨elapsed, -, hlong⟩
    have htimeout : (0 : ℤ) ≤ timeoutMaxMillis := by decide
    omega
  rw [batchError, if_neg hwait, List.findSome?_eq_none_iff]
  intro task htask
  have hmem := hc.sublist.subset (List.mem_of_mem_filter htask)
  obtain ⟨run, hrun⟩ := hordinary task.taskKey (List.mem_map_of_mem hmem)
  rw [escapedFrom, hrun]

theorem loop_eq (hordinary : h.IsOrdinary plan)
    (hwall : plan.fields.budget.fields.maxWallMillis ≤ timeoutMaxMillis) (left : ℕ) :
    ∀ {c : Collaboration}, c.Progress plan h.workers →
      h.loop plan left c = ((Collaboration.loop plan h.workers left c).1.mapError .exception,
        (Collaboration.loop plan h.workers left c).2) := by
  induction left with
  | zero =>
    intro c _
    rw [loop, Collaboration.loop]
    split <;> rfl
  | succ left ih =>
    intro c hc
    rw [loop, Collaboration.loop]
    by_cases hnil : c.pending = []
    · rw [if_pos hnil, if_pos hnil]
      rfl
    rw [if_neg hnil, if_neg hnil]
    by_cases hready : c.skipBlocked.ready = []
    · simp only [if_pos hready]
      split <;> rfl
    · simp only [if_neg hready, batchError_eq_none hordinary hwall hc.skipBlocked]
      exact ih hc.skipBlocked.runReady

/-- **The run of ordinary workers under a limit that locks accept.** -/
theorem run_eq (hordinary : h.IsOrdinary plan)
    (hwall : plan.fields.budget.fields.maxWallMillis ≤ timeoutMaxMillis) (elapsed : ℕ) :
    h.run plan elapsed
      = ((StructuredParallelOrchestrator.run plan h.workers elapsed).1.mapError .exception,
        (StructuredParallelOrchestrator.run plan h.workers elapsed).2) := by
  have hdivision : ¬ DivisionOverflows plan.fields.budget.fields.maxWallMillis := by
    rw [DivisionOverflows, not_le]
    exact hwall.trans_lt (by decide +kernel)
  rw [run, StructuredParallelOrchestrator.run]
  simp only [if_neg hdivision, loop_eq hordinary hwall _ Collaboration.progress_start]
  split
  · rfl
  rcases Collaboration.loop plan h.workers
    plan.fields.budget.fields.maxRounds.toNat (.start plan) with ⟨e | _, c⟩
  · rfl
  simp only [Except.mapError]
  rcases hordered : plan.tasks.mapM (fun task => c.executions.get? task.taskKey) with _ | ordered
  · simp only [hordered]
  · simp only [hordered]
    split <;> rfl

end

end Host

/-! ### Rounds and calls -/

namespace Collaboration

variable {plan : CollaborationPlan} {workers : Workers} {c : Collaboration}

/-- Where a run is after its rounds: as many layers are reached, some task is that deep, and the
workers that were called are distinct and have executions. -/
structure Counted (plan : CollaborationPlan) (c : Collaboration) : Prop where
  reached : Reached plan c.rounds c
  deep : c.rounds = 0 ∨ ∃ task ∈ plan.tasks, c.rounds ≤ plan.depth task.taskKey
  nodup : c.called.Nodup
  done : ∀ key ∈ c.called, ∃ task ∈ plan.tasks, task.taskKey = key ∧ c.HasExecution key

theorem counted_start : Counted plan (start plan) where
  reached := fun task htask hdepth => by
    have hpos : 0 < plan.depth task.taskKey :=
      plan.layers.depth_pos task.taskKey (List.mem_map_of_mem htask)
    exact absurd hdepth (by show ¬ _ ≤ 0; omega)
  deep := .inl rfl
  nodup := List.nodup_nil
  done := fun key hkey => by cases hkey

theorem Progress.not_hasExecution (h : Progress plan workers c) {task : CollaborationTask}
    (htask : task ∈ c.pending) : ¬ c.HasExecution task.taskKey := by
  rw [HasExecution, (h.pending_iff task (h.sublist.subset htask)).mp htask]
  exact Bool.false_ne_true

/-- **A round is counted**, when something is pending. -/
theorem Counted.round (h : Counted plan c) (hc : Progress plan workers c) (hne : c.pending ≠ []) :
    Counted plan (round plan workers c) := by
  have hskipped := hc.skipBlocked
  obtain ⟨first, hfirst⟩ := List.exists_mem_of_ne_nil _ hne
  -- what had an execution before the round has one after it
  have hkept : ∀ key ∈ c.called, ∃ task ∈ plan.tasks, task.taskKey = key
      ∧ (Collaboration.round plan workers c).HasExecution key := by
    intro key hkey
    obtain ⟨task, htask, rfl, hdone⟩ := h.done key hkey
    obtain ⟨e, he⟩ := Option.isSome_iff_exists.mp hdone
    exact ⟨task, htask, rfl, Option.isSome_iff_exists.mpr ⟨e, hc.get?_round htask he⟩⟩
  have hready : ∀ task ∈ c.skipBlocked.ready, task ∈ c.skipBlocked.pending :=
    fun task htask => List.mem_of_mem_filter htask
  refine ⟨hc.reached_succ h.reached, .inr ⟨first, hc.sublist.subset hfirst, ?_⟩, ?_, ?_⟩
  · have hdeep := mt (h.reached first (hc.sublist.subset hfirst)) (not_not.mpr hfirst)
    show c.rounds + 1 ≤ _
    omega
  · refine List.nodup_append.mpr ⟨h.nodup, ?_, ?_⟩
    · exact (plan.keys_facts.1.sublist
        ((List.filter_sublist.trans hskipped.sublist).map _)).sublist List.filter_sublist
    · rintro key hkey key' hkey' rfl
      obtain ⟨task, htask, rfl⟩ := List.mem_map.mp (List.mem_of_mem_filter hkey')
      obtain ⟨owner, howner, hkeyEq, hdone⟩ := h.done task.taskKey hkey
      obtain rfl := CollaborationPlan.taskKey_inj howner
        (hskipped.sublist.subset (hready task htask)) hkeyEq
      exact hc.not_hasExecution (List.mem_of_mem_filter (hready owner htask)) hdone
  · intro key hkey
    rcases List.mem_append.mp hkey with hkey | hkey
    · exact hkept key hkey
    · obtain ⟨task, htask, rfl⟩ := List.mem_map.mp (List.mem_of_mem_filter hkey)
      have hmem := hskipped.sublist.subset (hready task htask)
      refine ⟨task, hmem, rfl, ?_⟩
      rw [HasExecution, Collaboration.round, get?_runReady hskipped hmem,
        if_pos ⟨hready task htask, of_decide_eq_true (List.mem_filter.mp htask).2⟩]
      rfl

end Collaboration

namespace StructuredParallelOrchestrator

/-- The usage is within the budget of the plan. -/
structure WithinBudget (plan : CollaborationPlan) (usage : TaskUsage) : Prop where
  tokens : usage.tokens ≤ plan.fields.budget.fields.maxTokens
  toolCalls : usage.toolCalls ≤ plan.fields.budget.fields.maxToolCalls
  computeUnits : usage.computeUnits ≤ plan.fields.budget.fields.maxComputeUnits
  wallMillis : usage.wallMillis ≤ plan.fields.budget.fields.maxWallMillis

variable {plan : CollaborationPlan} {workers : Workers}

theorem run_eq_ok {elapsed : ℕ} {result : FanInResult} {c : Collaboration}
    (h : run plan workers elapsed = (.ok result, c)) :
    result.rounds = c.rounds ∧ WithinBudget plan result.totalUsage := by
  rw [run] at h
  split at h
  · cases h
  dsimp only at h
  split at h
  · cases h
  split at h
  · cases h
  split at h
  · cases h
  · rename_i hwithin
    simp only [not_or, not_lt] at hwithin
    obtain ⟨hresult, rfl⟩ := Prod.mk.inj h
    obtain rfl := Except.ok.inj hresult
    exact ⟨rfl, hwithin.1, hwithin.2.1, hwithin.2.2.1, hwithin.2.2.2⟩

/-- Some chain of dependencies of the plan is at least that long. -/
def HasChain (plan : CollaborationPlan) (length : ℕ) : Prop :=
  ∃ chain : List Text, chain.IsChain plan.layers.DependsOn
    ∧ (∀ key ∈ chain, key ∈ plan.fields.keys) ∧ length ≤ chain.length

theorem hasChain_of_counted {c : Collaboration} (h : c.Counted plan) : HasChain plan c.rounds := by
  rcases h.deep with hzero | ⟨task, htask, hle⟩
  · exact ⟨[], List.isChain_nil, fun _ h => (by cases h), hzero.le⟩
  · have hkey : task.taskKey ∈ plan.layers.keys := List.mem_map_of_mem htask
    have hpos : 0 < plan.layers.depth task.taskKey := plan.layers.depth_pos task.taskKey hkey
    have hdepth : plan.layers.depth task.taskKey = plan.depth task.taskKey - 1 + 1 :=
      (Nat.sub_add_cancel hpos).symm
    obtain ⟨rest, hchain, hkeys, hlength⟩ := plan.layers.exists_chain _ hkey hdepth
    refine ⟨task.taskKey :: rest, hchain, hkeys, ?_⟩
    rw [hlength, ← hdepth]
    exact hle

/-- **A run of ordinary workers, under a limit that locks accept, returns**: one execution for each
task, in the order of the plan, after no more rounds than a chain of dependencies is long, and
within the budget. -/
theorem run_terminates (plan : CollaborationPlan) (h : Host) (elapsed : ℕ)
    (hmatch : MatchesTasks plan h.workers) (hordinary : h.IsOrdinary plan)
    (hwall : plan.fields.budget.fields.maxWallMillis ≤ timeoutMaxMillis) :
    ∃ result c, h.run plan elapsed = (.ok result, c)
      ∧ result.executions.map TaskExecution.task = plan.tasks ∧ c.called.Nodup
      ∧ HasChain plan result.rounds ∧ WithinBudget plan result.totalUsage := by
  obtain ⟨result, c, hrun, hcounted, hprogress, -, hresult⟩ :=
    run_returns elapsed hmatch (I := Collaboration.Counted plan)
      (fun c hprogress hne hcounted => hcounted.round hprogress hne) Collaboration.counted_start
  obtain ⟨hrounds, hwithin⟩ := run_eq_ok hrun
  refine ⟨result, c, ?_, ?_, hcounted.nodup, ?_, hwithin⟩
  · rw [Host.run_eq hordinary hwall, hrun]
    rfl
  · exact map_task_of_mapM (fun task htask e hget => execution_owner hprogress htask hget) hresult
  · rw [hrounds]
    exact hasChain_of_counted hcounted

/-- Workers that lose their connection, after a wait of some milliseconds. -/
def failingHost : Host where
  keys := failingWorkers.keys
  call key := .ordinary (failingWorkers.run key)
  waitsAt _ := some 5

/-- The run on a chain of three tasks whose workers fail. -/
theorem chainPlan_terminates :
    ∃ result c, failingHost.run chainPlan 20 = (.ok result, c)
      ∧ result.executions.map TaskExecution.task = chainPlan.tasks ∧ c.called.Nodup
      ∧ HasChain chainPlan result.rounds ∧ WithinBudget chainPlan result.totalUsage :=
  run_terminates chainPlan failingHost 20 (by decide) (fun key _ => ⟨failingWorkers.run key, rfl⟩)
    (by decide)

/-- A plan with a limit of 292 years. -/
def longPlan : CollaborationPlan where
  fields := { chainPlan.fields with budget := ⟨⟨3, 3, 3, 30, 3, 9223372036001, 3⟩, by decide⟩ }
  valid := by decide +kernel

/-- Neither condition can be left out: an exit of a worker ends the run, and so does a timeout that
no lock accepts. -/
theorem run_raises :
    (¬ ∀ (plan : CollaborationPlan) (h : Host) (elapsed : ℕ), MatchesTasks plan h.workers →
      plan.fields.budget.fields.maxWallMillis ≤ timeoutMaxMillis →
      ∃ result c, h.run plan elapsed = (.ok result, c))
    ∧ ¬ ∀ (plan : CollaborationPlan) (h : Host) (elapsed : ℕ), MatchesTasks plan h.workers →
      h.IsOrdinary plan → ∃ result c, h.run plan elapsed = (.ok result, c) := by
  constructor
  · intro hreturns
    let exiting : Host := { failingHost with call := fun _ => .escaped "SystemExit" "1" }
    obtain ⟨result, c, hrun⟩ := hreturns chainPlan exiting 20 (by decide) (by decide)
    have hraises : (exiting.run chainPlan 20).1.map (fun _ => ())
        = .error (.escaped "SystemExit" "1") := by decide +kernel
    rw [hrun] at hraises
    cases hraises
  · intro hreturns
    let waiting : Host := { failingHost with waitsAt := fun _ => some 0 }
    obtain ⟨result, c, hrun⟩ :=
      hreturns longPlan waiting 20 (by decide) (fun key _ => ⟨failingWorkers.run key, rfl⟩)
    have hraises : (waiting.run longPlan 20).1.map (fun _ => ())
        = .error (.exception ⟨.overflowError, "timeout value is too large"⟩) := by decide +kernel
    rw [hrun] at hraises
    cases hraises

end StructuredParallelOrchestrator

end FuturesAgentOs
