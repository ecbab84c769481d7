import FuturesAgentOs.Decision.BindingArtifacts

namespace FuturesAgentOs

open PyModel

/-!
# The lifecycle of a mandate

A mandate is a value, so a history of a mandate is a run of operations, each on the version that
the one before it returned; an operation that raises returns no version and the old one stays.
Several operations on one version start several histories, and each of them is such a run.

* `lifecycle` — what holds along every run.
-/

/-- One operation on the current version of a mandate.  A recovery is completed on the mandate
it holds, so its other fields come with the operation. -/
inductive MandateOp where
  | transition (target : MandateStatus) (now : RecordedAt) (actorIsHuman : Bool)
      (reason : Option Text)
  | beginRecovery (now : RecordedAt) (actor rootCauseRef reconciliationRef : Text)
  | completeRecovery (rootCauseRef reconciliationRef initiatedBy : Text) (now : RecordedAt)
      (actor governanceApprovalRef : Text) (qualified healthPermits : Bool)
  | compositePause (coordinator : BindingArtifactCoordinator) (binding : AutonomyModeBinding)
      (now : RecordedAt) (actor evidenceRef : Text)
  | compositeResume (binding : AutonomyModeBinding) (now : RecordedAt) (actor : Text)
      (qualified healthPermits : Bool) (runVersionsHash evidenceRef : Text)

namespace MandateOp

/-- The operation is the beginning of a recovery. -/
def IsBegin : MandateOp → Prop
  | beginRecovery .. => True
  | _ => False

/-- The operation is the completion of a recovery. -/
def IsComplete : MandateOp → Prop
  | completeRecovery .. => True
  | _ => False

/-- A human acts: the flag of a transition says so, or the actor is a user. -/
def ByHuman : MandateOp → Prop
  | transition _ _ actorIsHuman _ => actorIsHuman = true
  | beginRecovery _ actor _ _ => IsHuman actor
  | completeRecovery _ _ _ _ actor _ _ _ => IsHuman actor
  | compositePause _ _ _ actor _ => IsHuman actor
  | compositeResume _ _ actor _ _ _ _ => IsHuman actor

/-- The time the operation is given. -/
def time : MandateOp → RecordedAt
  | transition _ now _ _ | beginRecovery now _ _ _ | completeRecovery _ _ _ now _ _ _ _
  | compositePause _ _ now _ _ | compositeResume _ now _ _ _ _ _ => now

end MandateOp

namespace SimulationAutonomyMandate

/-- The version that an operation returns. -/
def perform (m : SimulationAutonomyMandate) : MandateOp → Py SimulationAutonomyMandate
  | .transition target now actorIsHuman reason => m.transition target now actorIsHuman reason
  | .beginRecovery now actor rootCauseRef reconciliationRef =>
    (MandateRecovery.begin m now actor rootCauseRef reconciliationRef).map (·.mandate)
  | .completeRecovery rootCauseRef reconciliationRef initiatedBy now actor governanceApprovalRef
      qualified healthPermits =>
    MandateRecovery.complete ⟨m, rootCauseRef, reconciliationRef, initiatedBy⟩ now actor
      governanceApprovalRef qualified healthPermits
  | .compositePause coordinator binding now actor evidenceRef =>
    (CompositePause.apply coordinator m binding now actor evidenceRef).1.map (·.mandate)
  | .compositeResume binding now actor qualified healthPermits runVersionsHash evidenceRef =>
    (CompositeResume.apply m binding now actor qualified healthPermits runVersionsHash
      evidenceRef).map (·.mandate)

/-- The current version after an operation. -/
def step (m : SimulationAutonomyMandate) (op : MandateOp) :
    Py SimulationAutonomyMandate × SimulationAutonomyMandate :=
  match m.perform op with
  | .ok m' => (.ok m', m')
  | .error e => (.error e, m)

/-- The machine of the operations on a mandate. -/
def machine : Machine SimulationAutonomyMandate MandateOp (Py SimulationAutonomyMandate) := ⟨step⟩

/-! ### One operation -/

/-- Everything an operation can do to a mandate besides nothing. -/
inductive Moves (m m' : SimulationAutonomyMandate) : MandateOp → Prop where
  | expired {op : MandateOp} (succeeds : m.Succeeds m' op.time .EXPIRED)
      (current : m.statusAt op.time = .EXPIRED) : Moves m m' op
  | followed {op : MandateOp} {target : MandateStatus} (succeeds : m.Succeeds m' op.time target)
      (table : target ∈ mandateTransitions (m.statusAt op.time))
      (recovery : (m.statusAt op.time, target)
        ∉ [(MandateStatus.HALTED, MandateStatus.RECOVERING), (.RECOVERING, .ACTIVE)])
      (human : target = .ACTIVE → op.ByHuman) : Moves m m' op
  | begun {op : MandateOp} (succeeds : m.Succeeds m' op.time .RECOVERING)
      (current : m.statusAt op.time = .HALTED) (human : op.ByHuman) (isBegin : op.IsBegin) :
      Moves m m' op
  | completed {op : MandateOp} (succeeds : m.Succeeds m' op.time .ACTIVE)
      (current : m.statusAt op.time = .RECOVERING) (human : op.ByHuman)
      (isComplete : op.IsComplete) : Moves m m' op

variable {m m' : SimulationAutonomyMandate} {op : MandateOp}

private theorem moves_of_transition {target : MandateStatus} {actorIsHuman : Bool}
    {reason : Option Text} (h : m.transition target op.time actorIsHuman reason = .ok m')
    (hhuman : actorIsHuman = true → op.ByHuman) : Moves m m' op := by
  obtain ⟨hsucceeds, ⟨rfl, hcurrent⟩ | ⟨htable, hrecovery, hflag, -⟩⟩ := transition_eq_ok h
  · exact .expired hsucceeds hcurrent
  · apply Moves.followed hsucceeds htable hrecovery
    rintro rfl
    exact hhuman (hflag (by decide))

/-- The value of a call whose result is mapped. -/
private theorem exists_of_map {α β : Type} {x : Py α} {f : α → β} {b : β}
    (h : x.map f = .ok b) : ∃ a, x = .ok a ∧ f a = b := by
  cases x with
  | error e => cases h
  | ok a => exact ⟨a, rfl, Except.ok.inj h⟩

/-- **An operation that returns moves the mandate**, by one case for each entry point. -/
theorem perform_eq_ok (h : m.perform op = .ok m') : Moves m m' op := by
  cases op with
  | transition target now actorIsHuman reason => exact moves_of_transition h id
  | beginRecovery now actor rootCauseRef reconciliationRef =>
    obtain ⟨r, hr, rfl⟩ := exists_of_map h
    obtain ⟨hhuman, hcurrent, hsucceeds⟩ := MandateRecovery.begin_eq_ok hr
    exact .begun hsucceeds hcurrent hhuman trivial
  | completeRecovery rootCauseRef reconciliationRef initiatedBy now actor approvalRef qualified
      healthPermits =>
    obtain ⟨hhuman, hcurrent, hsucceeds⟩ := MandateRecovery.complete_eq_ok h
    exact .completed hsucceeds hcurrent hhuman trivial
  | compositePause coordinator binding now actor evidenceRef =>
    obtain ⟨pause, hpause, rfl⟩ := exists_of_map h
    obtain ⟨hhuman, -, htransition, -⟩ := CompositePause.pausedPair_eq_ok
      (CompositePause.apply_eq_ok (Prod.ext hpause rfl))
    exact moves_of_transition htransition (fun _ => hhuman)
  | compositeResume binding now actor qualified healthPermits runVersionsHash evidenceRef =>
    obtain ⟨resume, hresume, rfl⟩ := exists_of_map h
    obtain ⟨hhuman, -, htransition, -⟩ := CompositeResume.apply_eq_ok hresume
    exact moves_of_transition htransition (fun _ => hhuman)

/-- **One step** moves the mandate, or raises and leaves it. -/
theorem next_cases (m : SimulationAutonomyMandate) (op : MandateOp) :
    (machine.out m op = .ok (machine.next m op) ∧ Moves m (machine.next m op) op)
      ∨ ((machine.out m op).Raises ∧ machine.next m op = m) := by
  rcases h : m.perform op with e | m'
  · have hstep : machine.step m op = (.error e, m) := by
      show m.step op = _
      rw [step, h]
    right
    rw [Machine.out, Machine.next, hstep]
    exact ⟨Py.raises_error e, rfl⟩
  · have hstep : machine.step m op = (.ok m', m') := by
      show m.step op = _
      rw [step, h]
    left
    rw [Machine.out, Machine.next, hstep]
    exact ⟨rfl, perform_eq_ok h⟩

namespace Moves

theorem exists_succeeds (h : Moves m m' op) : ∃ status, m.Succeeds m' op.time status := by
  rcases h with ⟨hs, -⟩ | ⟨hs, -⟩ | ⟨hs, -⟩ | ⟨hs, -⟩
  · exact ⟨_, hs⟩
  · exact ⟨_, hs⟩
  · exact ⟨_, hs⟩
  · exact ⟨_, hs⟩

theorem status_ne_revoked (h : Moves m m' op) : m.fields.status ≠ .REVOKED := by
  intro hrevoked
  have hstatus : m.statusAt op.time = .REVOKED := statusAt_of_revoked hrevoked
  rcases h with ⟨-, hcurrent⟩ | ⟨-, htable, -⟩ | ⟨-, hcurrent, -⟩ | ⟨-, hcurrent, -⟩
  · rw [hstatus] at hcurrent
    cases hcurrent
  · rw [hstatus] at htable
    cases htable
  · rw [hstatus] at hcurrent
    cases hcurrent
  · rw [hstatus] at hcurrent
    cases hcurrent

theorem status_of_expired (h : Moves m m' op) (hexpired : m.statusAt op.time = .EXPIRED) :
    m'.fields.status = .EXPIRED := by
  rcases h with ⟨hs, -⟩ | ⟨-, htable, -⟩ | ⟨-, hcurrent, -⟩ | ⟨-, hcurrent, -⟩
  · exact hs.status
  · rw [hexpired] at htable
    cases htable
  · rw [hexpired] at hcurrent
    cases hcurrent
  · rw [hexpired] at hcurrent
    cases hcurrent

theorem byHuman (h : Moves m m' op) (hactive : m'.fields.status = .ACTIVE) : op.ByHuman := by
  rcases h with ⟨hs, -⟩ | ⟨hs, -, -, hhuman⟩ | ⟨-, -, hhuman, -⟩ | ⟨-, -, hhuman, -⟩
  · rw [hs.status] at hactive
    cases hactive
  · exact hhuman (hs.status.symm.trans hactive)
  · exact hhuman
  · exact hhuman

theorem of_halted (h : Moves m m' op) (hhalted : m.fields.status = .HALTED) :
    m'.fields.status ∈ [.REVOKED, .EXPIRED]
      ∨ (m'.fields.status = .RECOVERING ∧ op.IsBegin) := by
  by_cases hexpired : m.statusAt op.time = .EXPIRED
  · left
    rw [h.status_of_expired hexpired]
    decide
  have hstatus : m.statusAt op.time = .HALTED := (statusAt_of_ne_expired hexpired).trans hhalted
  rcases h with ⟨-, hcurrent⟩ | ⟨hs, htable, hrecovery, -⟩ | ⟨hs, -, -, hbegin⟩ | ⟨-, hcurrent, -⟩
  · exact absurd hcurrent hexpired
  · left
    rw [hstatus] at htable hrecovery
    rw [hs.status]
    simp only [mandateTransitions, List.mem_cons, List.not_mem_nil, or_false] at htable
    rcases htable with rfl | rfl
    · exact absurd (List.mem_cons_self) hrecovery
    · decide
  · exact Or.inr ⟨hs.status, hbegin⟩
  · rw [hstatus] at hcurrent
    cases hcurrent

theorem of_recovering (h : Moves m m' op) (hrecovering : m.fields.status = .RECOVERING) :
    m'.fields.status ∈ [.REVOKED, .EXPIRED, .HALTED]
      ∨ (m'.fields.status = .ACTIVE ∧ op.IsComplete) := by
  by_cases hexpired : m.statusAt op.time = .EXPIRED
  · left
    rw [h.status_of_expired hexpired]
    decide
  have hstatus : m.statusAt op.time = .RECOVERING :=
    (statusAt_of_ne_expired hexpired).trans hrecovering
  rcases h with ⟨-, hcurrent⟩ | ⟨hs, htable, hrecovery, -⟩ | ⟨-, hcurrent, -⟩
    | ⟨hs, -, -, hcomplete⟩
  · exact absurd hcurrent hexpired
  · left
    rw [hstatus] at htable hrecovery
    rw [hs.status]
    simp only [mandateTransitions, List.mem_cons, List.not_mem_nil, or_false] at htable
    rcases htable with rfl | rfl | rfl
    · exact absurd (by decide) hrecovery
    · decide
    · decide
  · rw [hstatus] at hcurrent
    cases hcurrent
  · exact Or.inr ⟨hs.status, hcomplete⟩

end Moves

/-! ### Every run -/

/-- `m'` is `m` at the same or a later version. -/
structure Follows (m m' : SimulationAutonomyMandate) : Prop where
  mandateId : m'.fields.mandateId = m.fields.mandateId
  scope : m'.fields.scope = m.fields.scope
  expiresAt : m'.fields.expiresAt = m.fields.expiresAt
  version : m' = m ∨ m.fields.version < m'.fields.version
  revoked : m.fields.status = .REVOKED → m' = m
  expired : m.fields.status = .EXPIRED → m'.fields.status = .EXPIRED

namespace Follows

theorem refl (m : SimulationAutonomyMandate) : Follows m m :=
  ⟨rfl, rfl, rfl, Or.inl rfl, fun _ => rfl, id⟩

theorem trans {a b c : SimulationAutonomyMandate} (hab : Follows a b) (hbc : Follows b c) :
    Follows a c where
  mandateId := hbc.mandateId.trans hab.mandateId
  scope := hbc.scope.trans hab.scope
  expiresAt := hbc.expiresAt.trans hab.expiresAt
  version := by
    rcases hab.version with rfl | hlt
    · exact hbc.version
    · rcases hbc.version with rfl | hlt'
      · exact Or.inr hlt
      · exact Or.inr (by omega)
  revoked h := by
    obtain rfl := hab.revoked h
    exact hbc.revoked h
  expired h := hbc.expired (hab.expired h)

/-- One step leads to the same or a later version. -/
theorem next (m : SimulationAutonomyMandate) (op : MandateOp) : Follows m (machine.next m op) := by
  rcases next_cases m op with ⟨-, hmoves⟩ | ⟨-, heq⟩
  · obtain ⟨status, hs⟩ := hmoves.exists_succeeds
    have hversion := hs.version
    refine ⟨hs.mandateId, hs.scope, hs.expiresAt, Or.inr (by omega), ?_, ?_⟩
    · intro hrevoked
      exact absurd hrevoked hmoves.status_ne_revoked
    · intro hexpired
      exact hmoves.status_of_expired (statusAt_of_expired hexpired)
  · rw [heq]
    exact refl m

/-- **Every run** leads to the same or a later version. -/
theorem exec (m : SimulationAutonomyMandate) (ops : List MandateOp) :
    Follows m (machine.exec m ops) :=
  machine.exec_related (P := fun _ _ => True) refl trans (fun m op _ => next m op)
    (machine.meets_of_forall (fun _ _ => trivial) m ops)

end Follows

/-- The operations of a run begin a recovery, and later complete one. -/
def Recovers (m : SimulationAutonomyMandate) (ops : List MandateOp) : Prop :=
  ∃ before start between finish after, ops = before ++ start :: (between ++ finish :: after)
    ∧ start.IsBegin ∧ machine.out (machine.exec m before) start
      = .ok (machine.exec m (before ++ [start]))
    ∧ finish.IsComplete ∧ machine.out (machine.exec m (before ++ start :: between)) finish
      = .ok (machine.exec m (before ++ start :: (between ++ [finish])))

/-- The operations of a run complete a recovery. -/
def Completes (m : SimulationAutonomyMandate) (ops : List MandateOp) : Prop :=
  ∃ between finish after, ops = between ++ finish :: after ∧ finish.IsComplete
    ∧ machine.out (machine.exec m between) finish = .ok (machine.exec m (between ++ [finish]))

variable {ops : List MandateOp}

theorem Completes.cons {m : SimulationAutonomyMandate} {op : MandateOp}
    (h : Completes (machine.next m op) ops) : Completes m (op :: ops) := by
  obtain ⟨between, finish, after, rfl, hfinish, hout⟩ := h
  exact ⟨op :: between, finish, after, rfl, hfinish, hout⟩

theorem Recovers.cons {m : SimulationAutonomyMandate} {op : MandateOp}
    (h : Recovers (machine.next m op) ops) : Recovers m (op :: ops) := by
  obtain ⟨before, start, between, finish, after, rfl, hstart, hout, hfinish, hout'⟩ := h
  exact ⟨op :: before, start, between, finish, after, rfl, hstart, hout, hfinish, hout'⟩

theorem Recovers.completes {m : SimulationAutonomyMandate}
    (h : Recovers m ops) : Completes m ops := by
  obtain ⟨before, start, between, finish, after, rfl, -, -, hfinish, hout⟩ := h
  refine ⟨before ++ start :: between, finish, after, by simp, hfinish, ?_⟩
  simpa using hout

/-- **The way out of `HALTED`.**  The induction is on the run; a recovering mandate that falls
back to `HALTED` needs a whole new recovery. -/
theorem recovers_of_active (ops : List MandateOp) : ∀ m : SimulationAutonomyMandate,
    (machine.exec m ops).fields.status = .ACTIVE →
      (m.fields.status = .HALTED → Recovers m ops)
        ∧ (m.fields.status = .RECOVERING → Completes m ops) := by
  induction ops with
  | nil =>
    intro m hactive
    rw [Machine.exec_nil] at hactive
    constructor
    · intro hhalted
      rw [hhalted] at hactive
      cases hactive
    · intro hrecovering
      rw [hrecovering] at hactive
      cases hactive
  | cons op ops ih =>
    intro m hactive
    rw [Machine.exec_cons] at hactive
    obtain ⟨ihHalted, ihRecovering⟩ := ih (machine.next m op) hactive
    -- a mandate that is over never becomes active again
    have hover : (machine.next m op).fields.status ∉ [.REVOKED, .EXPIRED] := by
      intro hmem
      have hfollows := Follows.exec (machine.next m op) ops
      simp only [List.mem_cons, List.not_mem_nil, or_false] at hmem
      rcases hmem with hrevoked | hexpired
      · rw [hfollows.revoked hrevoked, hrevoked] at hactive
        cases hactive
      · rw [hfollows.expired hexpired] at hactive
        cases hactive
    rcases next_cases m op with ⟨hout, hmoves⟩ | ⟨-, heq⟩
    · constructor
      · intro hhalted
        rcases hmoves.of_halted hhalted with hend | ⟨hstatus, hbegin⟩
        · exact absurd hend hover
        · obtain ⟨between, finish, after, rfl, hfinish, hcompleted⟩ := ihRecovering hstatus
          exact ⟨[], op, between, finish, after, rfl, hbegin, hout, hfinish, hcompleted⟩
      · intro hrecovering
        rcases hmoves.of_recovering hrecovering with hend | ⟨-, hcomplete⟩
        · have hhalted : (machine.next m op).fields.status = .HALTED := by
            simp only [List.mem_cons, List.not_mem_nil, or_false] at hend hover
            tauto
          exact (ihHalted hhalted).completes.cons
        · exact ⟨[], op, ops, rfl, hcomplete, hout⟩
    · constructor
      · intro hhalted
        exact (ihHalted (heq.symm ▸ hhalted)).cons
      · intro hrecovering
        exact (ihRecovering (heq.symm ▸ hrecovering)).cons

/-- **The lifecycle.**  Take any mandate and any run of operations, split anywhere.  What
identifies the mandate never changes; every step keeps the mandate or raises its version, and
enters `ACTIVE` by a human only; `REVOKED` and `EXPIRED` are never left; and from `HALTED` the
status `ACTIVE` is reached only through a recovery begun and then completed. -/
theorem lifecycle (m : SimulationAutonomyMandate) (before after : List MandateOp)
    (op : MandateOp) :
    ((machine.exec m before).fields.mandateId = m.fields.mandateId
      ∧ (machine.exec m before).fields.scope = m.fields.scope
      ∧ (machine.exec m before).fields.expiresAt = m.fields.expiresAt)
    ∧ (machine.exec m (before ++ [op]) = machine.exec m before
      ∨ (machine.exec m before).fields.version
        < (machine.exec m (before ++ [op])).fields.version)
    ∧ ((machine.exec m before).fields.status = .REVOKED →
      (machine.exec m (before ++ after)).fields.status = .REVOKED)
    ∧ ((machine.exec m before).fields.status = .EXPIRED →
      (machine.exec m (before ++ after)).fields.status = .EXPIRED)
    ∧ ((machine.exec m before).fields.status ≠ .ACTIVE →
      (machine.exec m (before ++ [op])).fields.status = .ACTIVE → op.ByHuman)
    ∧ ((machine.exec m before).fields.status = .HALTED →
      (machine.exec m (before ++ after)).fields.status = .ACTIVE →
      Recovers (machine.exec m before) after) := by
  have hstart := Follows.exec m before
  have hrest : ∀ ops, Follows (machine.exec m before) (machine.exec m (before ++ ops)) := by
    intro ops
    rw [Machine.exec_append]
    exact Follows.exec _ ops
  refine ⟨⟨hstart.mandateId, hstart.scope, hstart.expiresAt⟩, (hrest [op]).version, ?_,
    (hrest after).expired, ?_, ?_⟩
  · intro hrevoked
    rw [(hrest after).revoked hrevoked, hrevoked]
  · intro hinactive hactive
    rw [Machine.exec_concat] at hactive
    rcases next_cases (machine.exec m before) op with ⟨-, hmoves⟩ | ⟨-, heq⟩
    · exact hmoves.byHuman hactive
    · exact absurd (heq ▸ hactive) hinactive
  · intro hhalted hactive
    rw [Machine.exec_append] at hactive
    exact (recovers_of_active after _ hactive).1 hhalted

end SimulationAutonomyMandate

end FuturesAgentOs
