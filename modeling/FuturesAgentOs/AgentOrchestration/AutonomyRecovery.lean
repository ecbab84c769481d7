import FuturesAgentOs.AgentOrchestration.AutonomyWorkers

namespace FuturesAgentOs

open PyModel

/-!
# Takeover, recovery and the end of an autonomy run

What the invariant of the workers gives: a worker whose lease was taken over writes nothing more,
the stored references are those of the completed stages, and a recovery finds all of them.  The end
of a run is less firm: `claim` does not look at the status that `run` had read before.

* `WorkflowSystem.Recoverable`, `recoverable_exec` — the promises, in every state;
* `WorkflowSystem.Revives`, `over_for_good_iff` — the steps on a run that is over, and that it
  stays over exactly in the runs without them.
-/

variable {ω : Type} [DecidableEq ω]

/-- What a recovery may raise: what the owner raises, or that it does not confirm a reference. -/
def RecoveryError (revalidate : ReferenceKind → Py Bool) (e : PyException) : Prop :=
  ∃ kind, revalidate kind = .error e ∨ revalidate kind = .ok false
    ∧ e = valueError (Text.ofString "stale " ++ kind.value ++ Text.ofString " prevents recovery")

/-- A recovery does not miss a reference of a completed stage. -/
theorem AutonomyWorkflowRun.Exact.recover_exact {run : AutonomyWorkflowRun} (h : run.Exact)
    (revalidate : ReferenceKind → Py Bool) :
    (run.revalidated revalidate).OnlyRaises (RecoveryError revalidate) := by
  have hall : ∀ kind ∈ run.requiredKinds, kind ∈ run.kinds := fun kind => (h.mem_kinds kind).mpr
  rw [AutonomyWorkflowRun.revalidated, require_of_pos hall, Py.ok_bind]
  induction ReferenceKind.recoveryTruth.filter (· ∈ run.requiredKinds) with
  | nil => exact Py.OnlyRaises.ok ()
  | cons kind rest ih =>
    rw [List.forM_eq_forM, List.forM_cons]
    refine Py.OnlyRaises.bind (fun e he => ?_) fun _ => ih
    rcases hvalid : revalidate kind with raised | valid
    · rw [hvalid, Py.error_bind] at he
      exact ⟨kind, .inl (hvalid.trans (congrArg _ (Except.error.inj he)))⟩
    · rw [hvalid, Py.ok_bind] at he
      cases valid with
      | true =>
        rw [require_of_pos rfl] at he
        cases he
      | false =>
        rw [require_of_neg Bool.false_ne_true] at he
        exact ⟨kind, .inr ⟨hvalid, (Except.error.inj he).symm⟩⟩

namespace WorkflowSystem

/-- The lease of the worker was taken over: its copy has an earlier token. -/
def Overtaken (s : WorkflowSystem ω) (w : ω) : Prop :=
  ∃ run ∈ (s.phases w).copy, run.fencingToken < s.stored.fencingToken

/-- **What a state promises.** -/
structure Recoverable (kind : RepositoryKind) (workerId : ω → Text) (s : WorkflowSystem ω) :
    Prop where
  /-- a step leaves the stage, or advances it by one -/
  advances : ∀ a, ((machine kind workerId).next s a).stored.stage = s.stored.stage
    ∨ s.stored.stage.successor = some ((machine kind workerId).next s a).stored.stage
  /-- no stage was checkpointed twice -/
  once : (s.checkpoints.map Prod.snd).Nodup
  /-- a claim overtakes every worker with a copy -/
  takesOver : ∀ w leaseSeconds now v,
    ((machine kind workerId).next s (.claim w leaseSeconds now)).stored ≠ s.stored →
    (s.phases v).copy ≠ none →
    ((machine kind workerId).next s (.claim w leaseSeconds now)).Overtaken v
  /-- an overtaken worker stays so until it leaves `run` -/
  stays : ∀ w, s.Overtaken w → ∀ a, ((machine kind workerId).next s a).Overtaken w
    ∨ (((machine kind workerId).next s a).phases w).copy = none
  /-- an overtaken worker writes nothing -/
  fenced : ∀ w, s.Overtaken w → ∀ a, a.worker = w →
    ((machine kind workerId).next s a).stored = s.stored
      ∧ ((machine kind workerId).next s a).checkpoints = s.checkpoints
  /-- one reference of each kind of the completed stages -/
  nodup : s.stored.kinds.Nodup
  mem_kinds : ∀ referenceKind, referenceKind ∈ s.stored.kinds
    ↔ referenceKind ∈ s.stored.requiredKinds
  /-- the references stay -/
  keeps : ∀ rest, ∀ item ∈ s.stored.references,
    item ∈ ((machine kind workerId).exec s rest).stored.references
  /-- a recovery misses none -/
  recovers : ∀ revalidate,
    (s.stored.revalidated revalidate).OnlyRaises (RecoveryError revalidate)

section Steps

variable {s : WorkflowSystem ω} {kind : RepositoryKind} {workerId : ω → Text}

variable {a : WorkflowAction ω} {s' : WorkflowSystem ω} {w v : ω}

theorem step_advances (hinv : s.Inv) (h : WorkflowStep kind workerId s a s') :
    s'.stored.stage = s.stored.stage ∨ s.stored.stage.successor = some s'.stored.stage := by
  cases h with
  | same => exact .inl rfl
  | moved => exact .inl rfl
  | claimed => exact .inl rfl
  | executed => exact .inl rfl
  | @checkpointed w now run target r references hanswered hcurrent hadvanced =>
    have hcopy := hinv.copies w run (by rw [hanswered]; rfl)
    obtain rfl := hcopy.eq_stored hcurrent.1.symm
    exact .inr (hinv.target w _ target _ hanswered)
  | finished => exact .inl rfl

theorem step_keeps (hinv : s.Inv) (h : WorkflowStep kind workerId s a s') :
    ∀ item ∈ s.stored.references, item ∈ s'.stored.references := by
  cases h with
  | same => exact fun _ h => h
  | moved => exact fun _ h => h
  | claimed => exact fun _ h => h
  | executed => exact fun _ h => h
  | @checkpointed w now run target r references hanswered hcurrent hadvanced =>
    have hcopy := hinv.copies w run (by rw [hanswered]; rfl)
    obtain rfl := hcopy.eq_stored hcurrent.1.symm
    exact (hinv.exact.checkpointed (hinv.target w _ target _ hanswered) hcopy.active hadvanced).2
  | finished => exact fun _ h => h

omit [DecidableEq ω] in
theorem Overtaken.not_current (h : s.Overtaken w) {run : AutonomyWorkflowRun}
    (hcopy : run ∈ (s.phases w).copy) : ¬ s.stored.Current run (workerId w) := by
  obtain ⟨run', hrun', hlt⟩ := h
  obtain rfl := Option.mem_unique hrun' hcopy
  intro hcurrent
  exact absurd hcurrent.2.1 hlt.ne'

omit [DecidableEq ω] in
/-- A worker that is in `run` with a copy cannot claim. -/
theorem Overtaken.not_loaded (h : s.Overtaken w) : s.phases w ≠ .loaded := by
  obtain ⟨run, hrun, -⟩ := h
  intro hloaded
  rw [hloaded] at hrun
  cases hrun

theorem Overtaken.fenced (h : s.Overtaken a.worker) (hstep : WorkflowStep kind workerId s a s') :
    s'.stored = s.stored ∧ s'.checkpoints = s.checkpoints := by
  cases hstep with
  | same => exact ⟨rfl, rfl⟩
  | moved => exact ⟨rfl, rfl⟩
  | claimed w leaseSeconds now hloaded => exact absurd hloaded h.not_loaded
  | executed => exact ⟨rfl, rfl⟩
  | checkpointed w now hanswered hcurrent =>
    exact absurd hcurrent (h.not_current (show _ ∈ (s.phases w).copy by rw [hanswered]; rfl))
  | finished _ status reason hcopy hcurrent => exact absurd hcurrent (h.not_current hcopy)

/-- A copy of another worker is untouched by a step. -/
theorem Overtaken.inPhase {phase : RunPhase} {t : WorkflowSystem ω}
    (htoken : s.stored.fencingToken ≤ t.stored.fencingToken) (hphases : t.phases = s.phases)
    (hne : v ≠ w) (h : s.Overtaken v) : (t.inPhase w phase).Overtaken v := by
  obtain ⟨run, hrun, hlt⟩ := h
  refine ⟨run, ?_, hlt.trans_le htoken⟩
  show run ∈ (Function.update t.phases w phase v).copy
  rwa [Function.update_of_ne hne, hphases]

/-- The worker itself keeps its copy, or has none. -/
theorem Overtaken.inPhase_self {phase : RunPhase} {t : WorkflowSystem ω}
    (htoken : t.stored.fencingToken = s.stored.fencingToken)
    (hphase : ∀ run ∈ phase.copy, run ∈ (s.phases w).copy) (h : s.Overtaken w) :
    (t.inPhase w phase).Overtaken w ∨ ((t.inPhase w phase).phases w).copy = none := by
  have hself : (t.inPhase w phase).phases w = phase := by
    simp [WorkflowSystem.inPhase]
  rw [Overtaken, hself]
  rcases hcopy : phase.copy with _ | run
  · exact .inr rfl
  · obtain ⟨run', hrun', hlt⟩ := h
    obtain rfl := Option.mem_unique hrun' (hphase run hcopy)
    exact .inl ⟨run', rfl, hlt.trans_eq htoken.symm⟩

theorem Overtaken.stays (hstep : WorkflowStep kind workerId s a s') (h : s.Overtaken v) :
    s'.Overtaken v ∨ (s'.phases v).copy = none := by
  cases hstep with
  | same => exact .inl h
  | moved _ phase hcopy =>
    by_cases hv : v = a.worker
    · subst hv
      exact h.inPhase_self rfl hcopy
    · exact .inl (h.inPhase (le_refl _) rfl hv)
  | claimed w leaseSeconds now hloaded =>
    have hv : v ≠ w := by
      rintro rfl
      exact h.not_loaded hloaded
    exact .inl (h.inPhase (Nat.le_succ _) rfl hv)
  | executed w answer hworking =>
    by_cases hv : v = w
    · subst hv
      exact h.inPhase_self rfl fun _ hrun => by rw [hworking]; exact hrun
    · exact .inl (h.inPhase (le_refl _) rfl hv)
  | checkpointed w now hanswered hcurrent =>
    have hv : v ≠ w := by
      rintro rfl
      exact h.not_current (show _ ∈ (s.phases v).copy by rw [hanswered]; rfl) hcurrent
    exact .inl (h.inPhase (le_refl _) rfl hv)
  | finished _ status reason hcopy hcurrent =>
    have hv : v ≠ a.worker := by
      rintro rfl
      exact h.not_current hcopy hcurrent
    exact .inl (h.inPhase (le_refl _) rfl hv)

theorem claim_takesOver (hinv : s.Inv) {leaseSeconds now : ℤ}
    (hwrites : ((machine kind workerId).next s (.claim w leaseSeconds now)).stored ≠ s.stored) (hv : (s.phases v).copy ≠ none) :
    ((machine kind workerId).next s (.claim w leaseSeconds now)).Overtaken v := by
  have hnext : (machine kind workerId).next s (.claim w leaseSeconds now)
      = (act kind workerId s (.claim w leaseSeconds now)).2 := rfl
  rw [hnext] at hwrites ⊢
  simp only [act] at hwrites ⊢
  split
  · rename_i hloaded
    rw [if_pos hloaded] at hwrites
    rcases hclaim : s.stored.claim kind (workerId w) leaseSeconds now with e | written
    · rw [hclaim] at hwrites
      exact absurd rfl hwrites
    · obtain ⟨-, -, rfl⟩ := AutonomyWorkflowRun.claim_eq_ok.mp hclaim
      obtain ⟨run, hrun⟩ := Option.ne_none_iff_exists'.mp hv
      have hne : v ≠ w := by
        rintro rfl
        rw [hloaded] at hrun
        cases hrun
      refine ⟨run, ?_, Nat.lt_succ_of_le (hinv.copies v run hrun).token_le⟩
      show run ∈ (Function.update s.phases w _ v).copy
      rwa [Function.update_of_ne hne]
  · rename_i hloaded
    rw [if_neg hloaded] at hwrites
    exact absurd rfl hwrites

theorem keeps_exec (hinv : s.Inv) (rest : List (WorkflowAction ω)) :
    ∀ item ∈ s.stored.references,
      item ∈ ((machine kind workerId).exec s rest).stored.references := by
  induction rest generalizing s with
  | nil => exact fun _ h => h
  | cons a rest ih =>
    have hstep : WorkflowStep kind workerId s a _ := step_next hinv a
    exact fun item hitem => ih (inv_step hinv hstep) item (step_keeps hinv hstep item hitem)

omit [DecidableEq ω] in
theorem Inv.once (hinv : s.Inv) : (s.checkpoints.map Prod.snd).Nodup := by
  have hnodup : (WorkflowStage.TRIGGERED :: s.checkpoints.map Prod.snd).Nodup := by
    rw [hinv.checkpointed]
    exact WorkflowStage.nodup_order.sublist (List.take_sublist _ _)
  exact (List.nodup_cons.mp hnodup).2

end Steps

/-- **Every state of a run of the workers keeps the promises.** -/
theorem recoverable_exec (kind : RepositoryKind) (workerId : ω → Text) (runId : Uuid)
    (origin : TriggerOrigin) (idempotencyKey payloadSha256 : Text)
    (actions : List (WorkflowAction ω)) :
    Recoverable kind workerId ((machine kind workerId).exec
      (created runId origin idempotencyKey payloadSha256) actions) := by
  have hinv : ((machine kind workerId).exec
      (created runId origin idempotencyKey payloadSha256) actions).Inv :=
    inv_exec (inv_created runId origin idempotencyKey payloadSha256) actions
  exact
    { advances := fun a => step_advances hinv (step_next hinv a)
      once := hinv.once
      takesOver := fun w leaseSeconds now v hwrites hv => claim_takesOver hinv hwrites hv
      stays := fun w h a => h.stays (step_next hinv a)
      fenced := fun w h a hworker => Overtaken.fenced (hworker ▸ h) (step_next hinv a)
      nodup := hinv.exact.nodup
      mem_kinds := hinv.exact.mem_kinds
      keeps := keeps_exec hinv
      recovers := hinv.exact.recover_exact }

/-! ### The end of a run -/

/-- A step on a run that is over: a claim of a worker that had loaded the run before, or a command
of a worker whose copy is not over. -/
def Revives (kind : RepositoryKind) (workerId : ω → Text) (s : WorkflowSystem ω)
    (a : WorkflowAction ω) : Prop :=
  s.stored.status.IsOver ∧ match a with
    | .claim w leaseSeconds _ => s.phases w = .loaded
        ∧ AutonomyWorkflowRun.ClaimArguments kind (workerId w) leaseSeconds
    | .execute w _ => ∃ run, s.phases w = .working run ∧ run.stage.successor ≠ none
    | _ => False

/-- Status, stage and commands are those of another state. -/
structure SameEnd (s t : WorkflowSystem ω) : Prop where
  status : t.stored.status = s.stored.status
  stage : t.stored.stage = s.stored.stage
  commands : t.commands = s.commands

/-- Once the run is over, its status and stage do not change, and no command is given. -/
def OverForGood (kind : RepositoryKind) (workerId : ω → Text) (s : WorkflowSystem ω)
    (actions : List (WorkflowAction ω)) : Prop :=
  ∀ past later rest, actions = past ++ later ++ rest →
    ((machine kind workerId).exec s past).stored.status.IsOver →
    SameEnd ((machine kind workerId).exec s past) ((machine kind workerId).exec s (past ++ later))

section Over

variable {s : WorkflowSystem ω} {kind : RepositoryKind} {workerId : ω → Text}

omit [DecidableEq ω] in
theorem not_over_of_active (h : s.stored.status = .ACTIVE) : ¬ s.stored.status.IsOver := by
  rw [h]
  decide

theorem sameEnd_step (hinv : s.Inv) (hover : s.stored.status.IsOver) {a : WorkflowAction ω}
    (hnot : ¬ s.Revives kind workerId a) {s' : WorkflowSystem ω}
    (h : WorkflowStep kind workerId s a s') : SameEnd s s' := by
  cases h with
  | same => exact ⟨rfl, rfl, rfl⟩
  | moved => exact ⟨rfl, rfl, rfl⟩
  | claimed w leaseSeconds now hloaded hclaim => exact absurd ⟨hover, hloaded, hclaim⟩ hnot
  | @executed w answer run target hworking htarget =>
    exact absurd ⟨hover, run, hworking, by rw [htarget]; exact Option.some_ne_none target⟩ hnot
  | @checkpointed w now run target r references hanswered hcurrent hadvanced =>
    -- a checkpoint is of the stored run, which is active
    have hcopy := hinv.copies w run (by rw [hanswered]; rfl)
    obtain rfl := hcopy.eq_stored hcurrent.1.symm
    exact absurd hover (not_over_of_active hcopy.active)
  | @finished _ run status reason hcopy hcurrent =>
    have hcopy := hinv.copies a.worker run hcopy
    obtain rfl := hcopy.eq_stored hcurrent.1.symm
    exact absurd hover (not_over_of_active hcopy.active)

theorem sameEnd_exec (hinv : s.Inv) (hover : s.stored.status.IsOver)
    {actions : List (WorkflowAction ω)}
    (hmeets : (machine kind workerId).Meets (fun s a => ¬ s.Revives kind workerId a) s actions) :
    SameEnd s ((machine kind workerId).exec s actions) := by
  induction actions generalizing s with
  | nil => exact ⟨rfl, rfl, rfl⟩
  | cons a rest ih =>
    have hstep : WorkflowStep kind workerId s a _ := step_next hinv a
    have hsame := sameEnd_step hinv hover hmeets.1 hstep
    have hrest := ih (inv_step hinv hstep) (by rw [hsame.status]; exact hover) hmeets.2
    exact ⟨hrest.status.trans hsame.status, hrest.stage.trans hsame.stage,
      hrest.commands.trans hsame.commands⟩

/-- A step that revives the run changes its status, or gives a command. -/
theorem Revives.not_sameEnd (hinv : s.Inv) {a : WorkflowAction ω}
    (h : s.Revives kind workerId a) : ¬ SameEnd s ((machine kind workerId).next s a) := by
  have hnext : (machine kind workerId).next s a = (act kind workerId s a).2 := rfl
  rw [hnext]
  rcases h with ⟨hover, h⟩
  cases a with
  | claim w leaseSeconds now =>
    obtain ⟨hloaded, harguments⟩ := h
    intro hsame
    have hunleased := hinv.exact.unleased fun hactive => not_over_of_active hactive hover
    have hfree : ¬ s.stored.LeasedByAnother (workerId w) now := by
      rintro ⟨⟨expiry, hexpiry, -⟩, -⟩
      rw [hunleased] at hexpiry
      cases hexpiry
    have hclaim := AutonomyWorkflowRun.claim_eq_ok.mpr
      ⟨harguments, hfree, rfl⟩
    have hstatus := hsame.status
    simp only [act, if_pos hloaded, hclaim, claimedBy] at hstatus
    exact not_over_of_active hstatus.symm hover
  | execute w answer =>
    obtain ⟨run, hworking, htarget⟩ := h
    obtain ⟨target, htarget⟩ := Option.ne_none_iff_exists'.mp htarget
    intro hsame
    have hcommands := hsame.commands
    simp [act, hworking, htarget, inPhase] at hcommands
  | load => exact h.elim
  | settle => exact h.elim
  | handle => exact h.elim
  | complete => exact h.elim
  | lose => exact h.elim

theorem meets_of_overForGood (hinv : s.Inv) {actions : List (WorkflowAction ω)}
    (h : OverForGood kind workerId s actions) :
    (machine kind workerId).Meets (fun s a => ¬ s.Revives kind workerId a) s actions := by
  induction actions using List.reverseRecOn with
  | nil => trivial
  | append_singleton actions a ih =>
    rw [Machine.meets_append]
    refine ⟨ih fun past later rest heq => ?_, fun hrevives => ?_, trivial⟩
    · exact h past later (rest ++ [a]) (by rw [heq, List.append_assoc])
    · have hsame := h actions [a] [] (List.append_nil _).symm hrevives.1
      rw [Machine.exec_concat] at hsame
      exact hrevives.not_sameEnd (inv_exec hinv actions) hsame

end Over

/-- **A run that is over stays over, exactly when no step revives it.** -/
theorem over_for_good_iff (kind : RepositoryKind) (workerId : ω → Text) (runId : Uuid)
    (origin : TriggerOrigin) (idempotencyKey payloadSha256 : Text)
    (actions : List (WorkflowAction ω)) :
    OverForGood kind workerId (created runId origin idempotencyKey payloadSha256) actions
      ↔ (machine kind workerId).Meets (fun s a => ¬ s.Revives kind workerId a)
          (created runId origin idempotencyKey payloadSha256) actions := by
  have hinv : (created runId origin idempotencyKey payloadSha256 : WorkflowSystem ω).Inv :=
    inv_created runId origin idempotencyKey payloadSha256
  constructor
  · exact meets_of_overForGood hinv
  · rintro hmeets past later rest rfl hover
    rw [Machine.meets_append, Machine.meets_append] at hmeets
    rw [Machine.exec_append]
    exact sameEnd_exec (inv_exec hinv past) hover hmeets.1.2

/-- Both workers load the run, the second fails it, and the first claims it. -/
def revivingActions : List (WorkflowAction Bool) :=
  [.load true fun _ => .ok true, .load false fun _ => .ok true, .claim false 30 0,
    .execute false (.result { disposition := .FAIL }), .settle false 1, .claim true 30 2]

/-- A worker that has loaded the run claims it after its failure. -/
theorem failed_run_claimed : ¬ ∀ kind,
    OverForGood kind (fun w => if w then "a" else "b")
      (created (.ofNat 1) .USER "key" "digest") revivingActions := by
  intro h
  have hsame := (h .postgres (revivingActions.take 5) (revivingActions.drop 5) [] rfl
    (by decide +kernel)).status
  exact absurd hsame (by decide +kernel)

end WorkflowSystem

end FuturesAgentOs
