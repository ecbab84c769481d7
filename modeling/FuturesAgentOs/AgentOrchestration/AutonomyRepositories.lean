import FuturesAgentOs.AgentOrchestration.AutonomyWorkflow
import FuturesAgentOs.PyModel.Machine

namespace FuturesAgentOs

open PyModel

/-!
# The two repositories side by side

`agent_orchestration/v3_durable.py`: the in-memory repository is a "contract fixture with the same
fencing rules as PostgreSQL".  Both are run on the same calls on one created run; the runs that
callers carry are the ones that earlier calls returned.

* `agree_iff` — they do on the runs without such a call.
-/

/-- `AutonomyWorkflowRun.__post_init__` -/
instance : Dataclass AutonomyWorkflowRun where
  postInit run := do
    require run.triggerIdempotencyKey.IsStripped
      (valueError "trigger idempotency key must be non-empty canonical text")
    require (run.triggerSha256.length = 64 ∧ run.triggerSha256.all isHexDigit = true)
      (valueError "trigger digest is invalid")
    require run.kinds.Nodup (valueError "checkpoint contains duplicate reference kinds")
    require (1 ≤ run.version) (valueError "workflow counters are invalid")

/-- A call on a run; `carried` is the number of the earlier call whose run the caller holds. -/
inductive RepositoryCall where
  | claim (workerId : Text) (leaseSeconds now : ℤ)
  | checkpoint (carried : ℕ) (workerId : Text) (stage : WorkflowStage)
      (references : List StateReference) (now : ℤ)
  | finish (carried : ℕ) (workerId : Text) (status : WorkflowRunStatus) (reason : Option Text)

/-- The run that is stored, and the runs that were returned so far. -/
structure RunRepository where
  stored : Frozen AutonomyWorkflowRun
  returned : List (Frozen AutonomyWorkflowRun)
  deriving DecidableEq

namespace RunRepository

/-- The repository after `create`. -/
def created (run : Frozen AutonomyWorkflowRun) : RunRepository := ⟨run, [run]⟩

variable (kind : RepositoryKind) (s : RunRepository)

/-- The run that a call stores and returns, constructed anew. -/
def written (updated : Py AutonomyWorkflowRun) : Py (Frozen AutonomyWorkflowRun) :=
  updated >>= Frozen.make

/-- What a call returns; a caller that holds no such run makes no call. -/
def answer : RepositoryCall → Option (Py (Frozen AutonomyWorkflowRun))
  | .claim workerId leaseSeconds now =>
    some (written (s.stored.fields.claim kind workerId leaseSeconds now))
  | .checkpoint carried workerId stage references now =>
    (s.returned[carried]?).map fun run =>
      written (s.stored.fields.checkpoint kind run.fields workerId stage references now)
  | .finish carried workerId status reason =>
    (s.returned[carried]?).map fun run =>
      written (s.stored.fields.finish kind run.fields workerId status reason)

/-- The call is accepted with a run. -/
def accepted : Option (Py (Frozen AutonomyWorkflowRun)) → Option (Frozen AutonomyWorkflowRun)
  | some (.ok run) => some run
  | _ => none

/-- A call. -/
def call (c : RepositoryCall) : Option (Py (Frozen AutonomyWorkflowRun)) × RunRepository :=
  (s.answer kind c,
    match accepted (s.answer kind c) with
    | some run => ⟨run, s.returned ++ [run]⟩
    | none => s)

/-- A repository, as a machine of its calls. -/
def machine : Machine RunRepository RepositoryCall (Option (Py (Frozen AutonomyWorkflowRun))) :=
  ⟨call kind⟩

/-- **Agreement.** The repositories accept the same calls with the same runs, refuse the same
calls, and end with the same run. -/
def Agree (run : Frozen AutonomyWorkflowRun) (calls : List RepositoryCall) : Prop :=
  ((machine .inMemory).outputs (created run) calls).map accepted
      = ((machine .postgres).outputs (created run) calls).map accepted
    ∧ ((machine .inMemory).exec (created run) calls).stored
      = ((machine .postgres).exec (created run) calls).stored

end RunRepository

open AutonomyWorkflowRun in
/-- The call is one that only the in-memory repository accepts: a claim by a worker without a
name, a checkpoint after the lease expired, or a finish that leaves the run active. -/
def RepositoryCall.Diverges (s : RunRepository) : RepositoryCall → Prop
  | .claim workerId leaseSeconds now =>
    workerId = [] ∧ 1 ≤ leaseSeconds ∧ ¬ s.stored.fields.LeasedByAnother workerId now
  | .checkpoint carried workerId stage references now =>
    ∃ run ∈ s.returned[carried]?, s.stored.fields.Current run.fields workerId
      ∧ stage.index = run.fields.stage.index + 1 ∧ (references.map StateReference.kind).Nodup
      ∧ ¬ ∃ expiry ∈ s.stored.fields.leaseExpiresAt, now < expiry
  | .finish carried workerId status _ =>
    ∃ run ∈ s.returned[carried]?, s.stored.fields.Current run.fields workerId
      ∧ status = .ACTIVE

namespace RunRepository

variable {kind : RepositoryKind} {s : RunRepository} {c : RepositoryCall}
  {run : Frozen AutonomyWorkflowRun}

/-! ### What a call accepts -/

theorem accepted_eq_some {o : Option (Py (Frozen AutonomyWorkflowRun))} :
    accepted o = some run ↔ o = some (.ok run) := by
  rcases o with _ | e | run'
  · simp [accepted]
  · simp [accepted]
  · simp [accepted]

theorem written_eq_ok {updated : Py AutonomyWorkflowRun} :
    written updated = .ok run ↔ updated = .ok run.fields := by
  rw [written, Py.bind_eq_ok]
  constructor
  · rintro ⟨fields, rfl, hmake⟩
    rw [Frozen.make_eq_ok.mp hmake]
  · rintro rfl
    exact ⟨run.fields, rfl, Frozen.make_eq_ok.mpr rfl⟩

theorem postInit_run {fields : AutonomyWorkflowRun} :
    postInit fields = .ok () ↔ fields.triggerIdempotencyKey.IsStripped
      ∧ (fields.triggerSha256.length = 64 ∧ fields.triggerSha256.all isHexDigit = true)
      ∧ fields.kinds.Nodup ∧ 1 ≤ fields.version := by
  unfold postInit instDataclassAutonomyWorkflowRun
  simp only [require_bind_eq_ok, require_eq_ok]

variable {now : ℤ} {workerId : Text} {carried : ℕ} {references : List StateReference}
  {stage : WorkflowStage} {reason : Option Text} {status : WorkflowRunStatus}
  {copy : Frozen AutonomyWorkflowRun}

theorem accepted_claim {leaseSeconds : ℤ} :
    accepted (s.answer kind (.claim workerId leaseSeconds now)) = some run ↔
      (1 ≤ leaseSeconds ∧ (kind = .postgres → workerId ≠ []))
        ∧ ¬ s.stored.fields.LeasedByAnother workerId now
        ∧ s.stored.fields.claimed workerId leaseSeconds now = run.fields := by
  rw [accepted_eq_some, answer, Option.some.injEq, written_eq_ok, AutonomyWorkflowRun.claim,
    require_bind_eq_ok, require_bind_eq_ok, Except.ok.injEq]
  rfl

theorem accepted_checkpoint :
    accepted (s.answer kind (.checkpoint carried workerId stage references now)) = some run ↔
      ∃ copy, s.returned[carried]? = some copy
        ∧ s.stored.fields.checkpoint kind copy.fields workerId stage references now
          = .ok run.fields := by
  rw [accepted_eq_some, answer, Option.map_eq_some_iff]
  constructor
  · rintro ⟨copy, hcopy, hwritten⟩
    exact ⟨copy, hcopy, written_eq_ok.mp hwritten⟩
  · rintro ⟨copy, hcopy, hwritten⟩
    exact ⟨copy, hcopy, written_eq_ok.mpr hwritten⟩

theorem accepted_finish :
    accepted (s.answer kind (.finish carried workerId status reason)) = some run ↔
      ∃ copy, s.returned[carried]? = some copy
        ∧ s.stored.fields.finish kind copy.fields workerId status reason = .ok run.fields := by
  rw [accepted_eq_some, answer, Option.map_eq_some_iff]
  constructor
  · rintro ⟨copy, hcopy, hwritten⟩
    exact ⟨copy, hcopy, written_eq_ok.mp hwritten⟩
  · rintro ⟨copy, hcopy, hwritten⟩
    exact ⟨copy, hcopy, written_eq_ok.mpr hwritten⟩

theorem checkpoint_inMemory :
    s.stored.fields.checkpoint .inMemory copy.fields workerId stage references now
        = .ok run.fields ↔
      s.stored.fields.Current copy.fields workerId
        ∧ stage.index = copy.fields.stage.index + 1
        ∧ { copy.fields with stage, references, version := copy.fields.version + 1 }
          = run.fields := by
  rw [AutonomyWorkflowRun.checkpoint, require_bind_eq_ok, AutonomyWorkflowRun.checkTransition,
    require_bind_eq_ok, Except.ok.injEq]

theorem checkpoint_postgres :
    s.stored.fields.checkpoint .postgres copy.fields workerId stage references now
        = .ok run.fields ↔
      stage.index = copy.fields.stage.index + 1
        ∧ (s.stored.fields.Current copy.fields workerId
          ∧ ∃ expiry ∈ s.stored.fields.leaseExpiresAt, now < expiry)
        ∧ { s.stored.fields with stage, references, version := s.stored.fields.version + 1 }
          = run.fields := by
  rw [AutonomyWorkflowRun.checkpoint, AutonomyWorkflowRun.checkTransition, require_bind_eq_ok,
    require_bind_eq_ok, Except.ok.injEq]

/-- A run that is finished. -/
def finished (fields : AutonomyWorkflowRun) (status : WorkflowRunStatus) (reason : Option Text) :
    AutonomyWorkflowRun :=
  { fields with
    status
    lastError := reason
    leaseOwner := none
    leaseExpiresAt := none
    version := fields.version + 1 }

theorem finish_inMemory :
    s.stored.fields.finish .inMemory copy.fields workerId status reason = .ok run.fields ↔
      s.stored.fields.Current copy.fields workerId
        ∧ finished copy.fields status reason = run.fields := by
  simp [AutonomyWorkflowRun.finish, require_bind_eq_ok, finished]

theorem finish_postgres :
    s.stored.fields.finish .postgres copy.fields workerId status reason = .ok run.fields ↔
      status ≠ .ACTIVE ∧ s.stored.fields.Current copy.fields workerId
        ∧ finished s.stored.fields status reason = run.fields := by
  simp [AutonomyWorkflowRun.finish, require_bind_eq_ok, finished]

/-! ### The runs that callers carry -/

/-- Runs that were returned are not newer than the stored one, and one that is as new is it. -/
def Tracks (s : RunRepository) : Prop :=
  ∀ run ∈ s.returned, run.fields.version ≤ s.stored.fields.version
    ∧ (run.fields.version = s.stored.fields.version → run = s.stored)

theorem tracks_created (run : Frozen AutonomyWorkflowRun) : (created run).Tracks := by
  intro copy hcopy
  obtain rfl := List.mem_singleton.mp hcopy
  exact ⟨le_refl _, fun _ => rfl⟩

theorem Tracks.eq_stored (h : s.Tracks) (hcopy : s.returned[carried]? = some copy)
    (hcurrent : s.stored.fields.Current copy.fields workerId) : copy = s.stored :=
  (h copy (List.mem_of_getElem? hcopy)).2 hcurrent.1.symm

theorem version_of_accepted (h : s.Tracks) (haccepted : accepted (s.answer kind c) = some run) :
    run.fields.version = s.stored.fields.version + 1 := by
  cases c with
  | claim workerId leaseSeconds now =>
    obtain ⟨-, -, hrun⟩ := accepted_claim.mp haccepted
    rw [← hrun]
    rfl
  | checkpoint carried workerId stage references now =>
    obtain ⟨copy, hcopy, hwritten⟩ := accepted_checkpoint.mp haccepted
    cases kind with
    | inMemory =>
      obtain ⟨hcurrent, -, hrun⟩ := checkpoint_inMemory.mp hwritten
      rw [← hrun, h.eq_stored hcopy hcurrent]
    | postgres =>
      obtain ⟨-, -, hrun⟩ := checkpoint_postgres.mp hwritten
      rw [← hrun]
  | finish carried workerId status reason =>
    obtain ⟨copy, hcopy, hwritten⟩ := accepted_finish.mp haccepted
    cases kind with
    | inMemory =>
      obtain ⟨hcurrent, hrun⟩ := finish_inMemory.mp hwritten
      rw [← hrun, h.eq_stored hcopy hcurrent]
      rfl
    | postgres =>
      obtain ⟨-, -, hrun⟩ := finish_postgres.mp hwritten
      rw [← hrun]
      rfl

/-- A call keeps track of the runs that it returns. -/
theorem Tracks.next (h : s.Tracks) (c : RepositoryCall) : ((machine kind).next s c).Tracks := by
  show (s.call kind c).2.Tracks
  unfold call
  cases haccepted : accepted (s.answer kind c) with
  | none => exact h
  | some run =>
    have hversion := version_of_accepted h haccepted
    intro copy hcopy
    rcases List.mem_append.mp hcopy with hold | hnew
    · have hle := (h copy hold).1
      show copy.fields.version ≤ run.fields.version
        ∧ (copy.fields.version = run.fields.version → copy = run)
      refine ⟨by omega, fun heq => ?_⟩
      omega
    · obtain rfl := List.mem_singleton.mp hnew
      exact ⟨le_refl _, fun _ => rfl⟩

/-! ### Where the repositories differ -/

/-- **A call that does not diverge** is accepted by both with the same run, or refused by both. -/
theorem accepted_eq (h : s.Tracks) (hnot : ¬ c.Diverges s) :
    accepted (s.answer .inMemory c) = accepted (s.answer .postgres c) := by
  refine Option.ext fun run => ?_
  cases c with
  | claim workerId leaseSeconds now =>
    rw [accepted_claim, accepted_claim]
    constructor
    · rintro ⟨⟨hlease, -⟩, hfree, hrun⟩
      exact ⟨⟨hlease, fun _ hname => hnot ⟨hname, hlease, hfree⟩⟩, hfree, hrun⟩
    · rintro ⟨⟨hlease, -⟩, hfree, hrun⟩
      exact ⟨⟨hlease, fun hkind => (by cases hkind)⟩, hfree, hrun⟩
  | checkpoint carried workerId stage references now =>
    rw [accepted_checkpoint, accepted_checkpoint]
    refine exists_congr fun copy => and_congr_right fun hcopy => ?_
    rw [checkpoint_inMemory, checkpoint_postgres]
    constructor
    · rintro ⟨hcurrent, hstage, hrun⟩
      have heq := h.eq_stored hcopy hcurrent
      have hnodup : (references.map StateReference.kind).Nodup := by
        have hvalid := postInit_run.mp run.valid
        rw [← hrun] at hvalid
        exact hvalid.2.2.1
      refine ⟨hstage, ⟨hcurrent, ?_⟩, by rw [← hrun, heq]⟩
      by_contra hexpired
      exact hnot ⟨copy, hcopy, hcurrent, hstage, hnodup, hexpired⟩
    · rintro ⟨hstage, ⟨hcurrent, -⟩, hrun⟩
      have heq := h.eq_stored hcopy hcurrent
      exact ⟨hcurrent, hstage, by rw [← hrun, heq]⟩
  | finish carried workerId status reason =>
    rw [accepted_finish, accepted_finish]
    refine exists_congr fun copy => and_congr_right fun hcopy => ?_
    rw [finish_inMemory, finish_postgres]
    constructor
    · rintro ⟨hcurrent, hrun⟩
      have heq := h.eq_stored hcopy hcurrent
      exact ⟨fun hactive => hnot ⟨copy, hcopy, hcurrent, hactive⟩, hcurrent, by rw [← hrun, heq]⟩
    · rintro ⟨-, hcurrent, hrun⟩
      have heq := h.eq_stored hcopy hcurrent
      exact ⟨hcurrent, by rw [← hrun, heq]⟩

/-- **A call that diverges** is accepted in memory and refused by PostgreSQL. -/
theorem accepted_ne (hdiverges : c.Diverges s) :
    accepted (s.answer .inMemory c) ≠ accepted (s.answer .postgres c) := by
  intro heq
  obtain ⟨hkey, hdigest, hkinds, hversion⟩ := postInit_run.mp s.stored.valid
  cases c with
  | claim workerId leaseSeconds now =>
    obtain ⟨hname, hlease, hfree⟩ := hdiverges
    have hrun : accepted (s.answer .inMemory (.claim workerId leaseSeconds now))
        = some ⟨s.stored.fields.claimed workerId leaseSeconds now,
          postInit_run.mpr ⟨hkey, hdigest, hkinds, Nat.le_add_left 1 _⟩⟩ :=
      accepted_claim.mpr ⟨⟨hlease, fun hkind => (by cases hkind)⟩, hfree, rfl⟩
    rw [heq] at hrun
    exact (accepted_claim.mp hrun).1.2 rfl hname
  | checkpoint carried workerId stage references now =>
    obtain ⟨copy, hcopy, hcurrent, hstage, hnodup, hexpired⟩ := hdiverges
    obtain ⟨hkey, hdigest, -, -⟩ := postInit_run.mp copy.valid
    have hrun : accepted (s.answer .inMemory (.checkpoint carried workerId stage references now))
        = some ⟨{ copy.fields with stage, references, version := copy.fields.version + 1 },
          postInit_run.mpr ⟨hkey, hdigest, hnodup, Nat.le_add_left 1 _⟩⟩ :=
      accepted_checkpoint.mpr ⟨copy, hcopy, checkpoint_inMemory.mpr ⟨hcurrent, hstage, rfl⟩⟩
    rw [heq] at hrun
    obtain ⟨copy', hcopy', hwritten⟩ := accepted_checkpoint.mp hrun
    exact hexpired (checkpoint_postgres.mp hwritten).2.1.2
  | finish carried workerId status reason =>
    obtain ⟨copy, hcopy, hcurrent, hactive⟩ := hdiverges
    obtain ⟨hkey, hdigest, hkinds, -⟩ := postInit_run.mp copy.valid
    have hrun : accepted (s.answer .inMemory (.finish carried workerId status reason))
        = some ⟨finished copy.fields status reason,
          postInit_run.mpr ⟨hkey, hdigest, hkinds, Nat.le_add_left 1 _⟩⟩ :=
      accepted_finish.mpr ⟨copy, hcopy, finish_inMemory.mpr ⟨hcurrent, rfl⟩⟩
    rw [heq] at hrun
    obtain ⟨copy', hcopy', hwritten⟩ := accepted_finish.mp hrun
    exact (finish_postgres.mp hwritten).1 hactive

/-! ### Histories -/

theorem next_eq_of_accepted_eq
    (heq : accepted (s.answer .inMemory c) = accepted (s.answer .postgres c)) :
    (machine .inMemory).next s c = (machine .postgres).next s c := by
  show (s.call .inMemory c).2 = (s.call .postgres c).2
  unfold call
  rw [heq]

theorem agree_from_iff (h : s.Tracks) (calls : List RepositoryCall) :
    (((machine .inMemory).outputs s calls).map accepted
        = ((machine .postgres).outputs s calls).map accepted
      ∧ ((machine .inMemory).exec s calls).stored = ((machine .postgres).exec s calls).stored)
      ↔ (machine .postgres).Meets (fun s c => ¬ c.Diverges s) s calls := by
  induction calls generalizing s with
  | nil => simp [Machine.outputs, Machine.Meets]
  | cons c calls ih =>
    rw [Machine.outputs, Machine.outputs, List.map_cons, List.map_cons, List.cons.injEq,
      Machine.exec_cons, Machine.exec_cons, Machine.Meets]
    have hhead : accepted ((machine .inMemory).out s c) = accepted ((machine .postgres).out s c)
        ↔ ¬ c.Diverges s :=
      ⟨fun heq hdiverges => accepted_ne hdiverges heq, fun hnot => accepted_eq h hnot⟩
    constructor
    · rintro ⟨⟨heq, hrest⟩, hend⟩
      rw [next_eq_of_accepted_eq heq] at hrest hend
      exact ⟨hhead.mp heq, (ih (h.next c)).mp ⟨hrest, hend⟩⟩
    · rintro ⟨hnot, hmeets⟩
      have heq := hhead.mpr hnot
      obtain ⟨hrest, hend⟩ := (ih (h.next c)).mpr hmeets
      rw [next_eq_of_accepted_eq heq]
      exact ⟨⟨heq, hrest⟩, hend⟩

/-- **The same fencing rules.** On one created run the repositories agree on a history of calls
exactly when none of its calls is a claim without a name, a checkpoint after the lease expired or a
finish that leaves the run active, which only the in-memory one accepts. -/
theorem agree_iff (run : Frozen AutonomyWorkflowRun) (calls : List RepositoryCall) :
    Agree run calls ↔
      (machine .postgres).Meets (fun s c => ¬ c.Diverges s) (created run) calls :=
  agree_from_iff (tracks_created run) calls

/-! ### A late worker -/

/-- A run that was created. -/
def sampleRun : Frozen AutonomyWorkflowRun where
  fields :=
    { runId := Uuid.ofNat 1
      triggerOrigin := .USER
      triggerIdempotencyKey := "trigger"
      triggerSha256 := List.replicate 64 (Text.ofChar '0') }
  valid := by decide

/-- **A checkpoint after the lease expired** is accepted in memory and refused by PostgreSQL. -/
theorem late_checkpoint_differs :
    ¬ Agree sampleRun [.claim "w1" 1 0, .checkpoint 1 "w1" .SNAPSHOT [] 2000000] := by
  rintro ⟨-, hstored⟩
  have hstage := congrArg (fun run => run.fields.stage) hstored
  exact absurd hstage (by decide)

end RunRepository

end FuturesAgentOs
