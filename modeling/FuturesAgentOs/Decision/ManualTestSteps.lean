import FuturesAgentOs.Decision.ManualTest

namespace FuturesAgentOs

open PyModel

/-!
# What a command of the manual approval store does

* `callOn_cases` — all that a command does to the file.
-/

/-! ### Approvals that move -/

/-- The moves of an approval. -/
def PlanApprovalStatus.CanMove : PlanApprovalStatus → PlanApprovalStatus → Prop
  | REQUESTED, GRANTED | REQUESTED, REJECTED | REQUESTED, EXPIRED | GRANTED, CONSUMED
  | GRANTED, EXPIRED => True
  | _, _ => False

namespace PlanApproval

variable {a b c : PlanApproval} {now : RecordedAt}

/-- The approvals differ in their status and in what was decided and consumed: the plan, the
account, the scope, the token and the expiry are the same. -/
def SameTerms (a b : PlanApproval) : Prop :=
  b.fields = { a.fields with
    version := b.fields.version
    status := b.fields.status
    consumerBasisId := b.fields.consumerBasisId
    consumedAt := b.fields.consumedAt
    decidedAt := b.fields.decidedAt
    decidedBy := b.fields.decidedBy }

theorem SameTerms.refl (a : PlanApproval) : SameTerms a a := rfl

theorem SameTerms.approvalId (h : SameTerms a b) : b.fields.approvalId = a.fields.approvalId := by
  rw [h]

/-- A step of an approval. -/
structure MovesTo (a b : PlanApproval) : Prop where
  terms : SameTerms a b
  move : a.fields.status.CanMove b.fields.status
  version : b.fields.version = a.fields.version + 1

theorem status_of_statusAt (h : a.statusAt now = .REQUESTED ∨ a.statusAt now = .GRANTED) :
    a.fields.status = a.statusAt now := by
  unfold statusAt at h ⊢
  split at h
  · rcases h with h | h <;> cases h
  · rename_i hnot
    rw [if_neg hnot]

theorem movesTo_decide {target : PlanApprovalStatus} {actor : Text}
    (h : a.decide target now actor = .ok b) :
    MovesTo a b ∧ b.fields.status = target ∧ target ∈ [PlanApprovalStatus.GRANTED, .REJECTED] := by
  obtain ⟨hstatus, h⟩ := of_require h
  obtain ⟨htarget, h⟩ := of_require h
  obtain ⟨_, -, h⟩ := Py.of_bind h
  obtain ⟨-, h⟩ := of_require h
  have hfields := Frozen.replace_eq_ok.mp h
  have hrequested := status_of_statusAt (Or.inl hstatus)
  rw [hstatus] at hrequested
  refine ⟨⟨?_, ?_, ?_⟩, ?_, htarget⟩
  · rw [SameTerms, hfields]
  · rw [hfields, hrequested]
    simp only [List.mem_cons, List.not_mem_nil, or_false] at htarget
    rcases htarget with rfl | rfl <;> trivial
  · rw [hfields]
  · rw [hfields]

theorem movesTo_expired (hat : a.statusAt now = .EXPIRED) (hnot : a.fields.status ≠ .EXPIRED)
    (h : a.replace (fun f => { f with status := .EXPIRED, version := f.version + 1 }) = .ok b) :
    MovesTo a b ∧ b.fields.status = .EXPIRED := by
  have hfields := Frozen.replace_eq_ok.mp h
  have hopen : a.fields.status ∈ [PlanApprovalStatus.REQUESTED, .GRANTED] := by
    unfold statusAt at hat
    split at hat
    · rename_i hopen
      exact hopen.1
    · exact absurd hat hnot
  refine ⟨⟨?_, ?_, ?_⟩, ?_⟩
  · rw [SameTerms, hfields]
  · rw [hfields]
    simp only [List.mem_cons, List.not_mem_nil, or_false] at hopen
    rcases hopen with hopen | hopen <;> rw [hopen] <;> trivial
  · rw [hfields]
  · rw [hfields]

end PlanApproval

namespace PlanApprovalRegistry

variable [Hashlib] {s s' : PlanApprovalRegistry} {a : PlanApproval} {now : RecordedAt}
  {basisId : EntityId} {command : ConsumeCommand} {answer : Py (PlanApproval × Option AuthorizationBasis)}

/-- The first consumption of an approval. -/
structure FirstConsumption (s : PlanApprovalRegistry) (a : PlanApproval) (now : RecordedAt)
    (basisId : EntityId) (command : ConsumeCommand) (entry : ConsumedApproval) : Prop where
  isNew : s.consumed.get? a.fields.approvalId = none
  granted : a.statusAt now = .GRANTED
  covers : Covers a command now
  entry : firstConsumption a now basisId command = .ok entry

/-- **All that `consume` does.** -/
theorem consume_cases (h : s.consume a now basisId command = (answer, s')) :
    ((∃ e, answer = .error e) ∧ s' = s)
      ∨ (answer = .ok (a, none) ∧ s' = s)
      ∨ (∃ b, answer = .ok (b, none) ∧ s' = s ∧ PlanApproval.MovesTo a b
          ∧ b.fields.status = .EXPIRED)
      ∨ (∃ previous, answer = .ok (previous.consumed, some previous.basis) ∧ s' = s
          ∧ s.consumed.get? a.fields.approvalId = some previous
          ∧ command.SameAs previous.command ∧ a.fields.scope.PermitsCommand command now)
      ∨ ∃ entry, answer = .ok (entry.consumed, some entry.basis)
          ∧ s' = ⟨s.consumed.set a.fields.approvalId entry⟩
          ∧ FirstConsumption s a now basisId command entry := by
  unfold consume at h
  split at h
  · rename_i previous hprevious
    split at h
    · obtain ⟨rfl, rfl⟩ := Prod.mk.inj h
      exact Or.inl ⟨⟨_, rfl⟩, rfl⟩
    · split at h
      · rename_i hsame
        obtain ⟨rfl, rfl⟩ := Prod.mk.inj h
        exact Or.inr (Or.inr (Or.inr (Or.inl ⟨previous, rfl, rfl, hprevious, hsame.2⟩)))
      · obtain ⟨rfl, rfl⟩ := Prod.mk.inj h
        exact Or.inr (Or.inl ⟨rfl, rfl⟩)
  · rename_i hnew
    split at h
    · obtain ⟨rfl, rfl⟩ := Prod.mk.inj h
      unfold notGranted
      split
      · rename_i hexpired
        rcases hreplace : a.replace (fun f => { f with status := .EXPIRED, version := f.version + 1 })
          with e | b
        · exact Or.inl ⟨⟨e, rfl⟩, rfl⟩
        · obtain ⟨hmoves, hstatus⟩ := PlanApproval.movesTo_expired hexpired.1 hexpired.2 hreplace
          exact Or.inr (Or.inr (Or.inl ⟨b, rfl, rfl, hmoves, hstatus⟩))
      · exact Or.inr (Or.inl ⟨rfl, rfl⟩)
    · rename_i hgranted
      split at h
      · obtain ⟨rfl, rfl⟩ := Prod.mk.inj h
        exact Or.inr (Or.inl ⟨rfl, rfl⟩)
      · rename_i hcovers
        split at h
        · obtain ⟨rfl, rfl⟩ := Prod.mk.inj h
          exact Or.inl ⟨⟨_, rfl⟩, rfl⟩
        · rename_i entry hentry
          obtain ⟨rfl, rfl⟩ := Prod.mk.inj h
          exact Or.inr (Or.inr (Or.inr (Or.inr ⟨entry, rfl, rfl, hnew, not_not.mp hgranted,
            not_not.mp hcovers, hentry⟩)))

theorem FirstConsumption.parts {entry : ConsumedApproval}
    (h : FirstConsumption s a now basisId command entry) :
    PlanApproval.MovesTo a entry.consumed ∧ entry.consumed.fields.status = .CONSUMED
      ∧ entry.consumed.fields.consumerBasisId = some basisId
      ∧ newBasis a now basisId command = .ok entry.basis
      ∧ entry.command = command := by
  obtain ⟨-, hgranted, -, hentry⟩ := h
  obtain ⟨basis, hbasis, hentry⟩ := Py.of_bind hentry
  obtain ⟨consumed, hconsumed, hentry⟩ := Py.of_bind hentry
  obtain ⟨hash, -, hentry⟩ := Py.of_bind hentry
  obtain rfl := Except.ok.inj hentry
  have hfields := Frozen.replace_eq_ok.mp hconsumed
  have hstatus := PlanApproval.status_of_statusAt (Or.inr hgranted)
  rw [hgranted] at hstatus
  refine ⟨⟨?_, ?_, ?_⟩, ?_, ?_, hbasis, rfl⟩
  · rw [PlanApproval.SameTerms, hfields]
  · rw [hfields, hstatus]
    trivial
  · rw [hfields]
  · rw [hfields]
  · rw [hfields]

end PlanApprovalRegistry

namespace ManualTestApprovalStore

open PlanApproval (SameTerms MovesTo)
open PlanApprovalRegistry (FirstConsumption)

section

variable [Hashlib] {s : ManualTestApprovalStore} {command : ManualCommand} {ending : ManualEnd}
  {registry : PlanApprovalRegistry}

/-! ### What a command ends with -/

/-- The record does not say that its approval is consumed. -/
def NotConsumed (record : Option ManualRecord) : Prop :=
  ∀ r ∈ record, r.status ≠ PlanApprovalStatus.CONSUMED.value

/-- An answer without a write tells of an approval in memory, or refuses. -/
inductive Answers (s : ManualTestApprovalStore) (command : ManualCommand) : ManualAnswer → Prop
  | refused : Answers s command (.flag false)
  | known {a : PlanApproval} {reason : Text} (ha : s.approvals.get? command.approvalId = some a)
      (hreason : reason ≠ "CONSUMED") : Answers s command (.result ⟨a, false, reason, none⟩)
  | conflict {approval : PlanApproval} {r : ManualRecord}
      (hcommand : command = .request approval)
      (hrecord : s.durable.get? command.approvalId.str = some r) :
      Answers s command (.result ⟨approval, false, "APPROVAL_CONFLICT", none⟩)

/-- The ends of the commands, with the registry that each leaves. -/
inductive Ends (s : ManualTestApprovalStore) :
    ManualCommand → ManualEnd → PlanApprovalRegistry → Prop
  | returned {command : ManualCommand} {answer : ManualAnswer} (h : Answers s command answer) :
      Ends s command (.returns answer) s.registry
  | requested {approval : PlanApproval}
      (hnew : s.durable.get? approval.fields.approvalId.str = none)
      (hstatus : approval.fields.status = .REQUESTED) :
      Ends s (.request approval)
        (.records approval "REQUESTED" none none ⟨approval, true, "REQUESTED", none⟩) s.registry
  | moved {command : ManualCommand} {a b : PlanApproval} {changed : Bool} {reason : Text}
      (ha : s.approvals.get? command.approvalId = some a) (hmoves : MovesTo a b)
      (hnot : b.fields.status ≠ .CONSUMED) (hreason : reason ≠ "CONSUMED") :
      Ends s command
        (.records b b.fields.status.value none none ⟨b, changed, reason, none⟩) s.registry
  | consumed {approvalId basisId : EntityId} {now : RecordedAt} {command : ConsumeCommand}
      {a : PlanApproval} {entry : ConsumedApproval}
      (ha : s.approvals.get? approvalId = some a)
      (hrecord : NotConsumed (s.durable.get? approvalId.str))
      (hfirst : FirstConsumption s.registry a now basisId command entry) :
      Ends s (.consume approvalId now basisId command)
        (.records entry.consumed "CONSUMED" (some basisId) (some command)
          ⟨entry.consumed, true, "CONSUMED", some entry.basis⟩)
        ⟨s.registry.consumed.set a.fields.approvalId entry⟩
  | consumedAgain {approvalId basisId : EntityId} {now : RecordedAt} {command : ConsumeCommand}
      {a : PlanApproval} {previous : ConsumedApproval}
      (ha : s.approvals.get? approvalId = some a)
      (hrecord : NotConsumed (s.durable.get? approvalId.str))
      (hprevious : s.registry.consumed.get? a.fields.approvalId = some previous) :
      Ends s (.consume approvalId now basisId command)
        (.records previous.consumed "CONSUMED" (some basisId) (some command)
          ⟨previous.consumed, true, "CONSUMED", some previous.basis⟩)
        s.registry
  | claimed {approvalId : EntityId} {now : RecordedAt} {a : PlanApproval} {r : ManualRecord}
      (ha : s.approvals.get? approvalId = some a)
      (hrecord : s.durable.get? approvalId.str = some r)
      (hconsumed : a.fields.status = .CONSUMED)
      (hshadow : r.shadowStatus ∉ [some ("CLAIMED" : Text), some "COMPLETED"]) :
      Ends s (.claimShadow approvalId now)
        (.marks { r with shadowStatus := some "CLAIMED", shadowClaimedAt := some now.text })
        s.registry
  | completed {approvalId : EntityId} {now : RecordedAt} {report : ShadowReport} {a : PlanApproval}
      {r : ManualRecord} {copied : Json}
      (ha : s.approvals.get? approvalId = some a)
      (hrecord : s.durable.get? approvalId.str = some r)
      (hshadow : r.shadowStatus = some "CLAIMED") (hcopied : report.copied = .ok copied) :
      Ends s (.completeShadow approvalId now report)
        (.marks { r with
          shadowStatus := some "COMPLETED"
          shadowCompletedAt := some now.text
          shadowReport := some copied })
        s.registry

variable {a b : PlanApproval} {approvalId basisId : EntityId} {now : RecordedAt} {r : ManualRecord}

omit [Hashlib] in
theorem required_eq_ok : s.required approvalId = .ok a ↔ s.approvals.get? approvalId = some a := by
  unfold required
  rcases s.approvals.get? approvalId with _ | b
  · simp
  · simp

theorem ends_of_request {approval : PlanApproval} (h : s.request approval = .ok ending) :
    Ends s (.request approval) ending s.registry := by
  obtain ⟨hstatus, h⟩ := of_require h
  rcases hrecord : s.durable.get? approval.fields.approvalId.str with _ | r
  · rw [hrecord] at h
    obtain rfl := Except.ok.inj h
    exact .requested hrecord hstatus
  · rw [hrecord] at h
    dsimp only at h
    split at h
    · obtain rfl := Except.ok.inj h
      exact .returned (.conflict rfl hrecord)
    · rename_i current hcurrent
      split at h
      · obtain rfl := Except.ok.inj h
        exact .returned (.conflict rfl hrecord)
      · obtain rfl := Except.ok.inj h
        exact .returned (.known hcurrent (by decide))

theorem ends_of_decide {target : PlanApprovalStatus}
    {actor : Text} (h : s.decide approvalId target now actor = .ok ending) :
    Ends s (.decide approvalId target now actor) ending s.registry := by
  obtain ⟨-, h⟩ := of_require h
  obtain ⟨a, ha, h⟩ := Py.of_bind h
  rw [required_eq_ok] at ha
  split at h
  · obtain rfl := Except.ok.inj h
    exact .returned (.known ha (by decide))
  · obtain ⟨b, hb, h⟩ := Py.of_bind h
    obtain rfl := Except.ok.inj h
    obtain ⟨hmoves, rfl, htarget⟩ := PlanApproval.movesTo_decide hb
    have hnot : ∀ target ∈ [PlanApprovalStatus.GRANTED, .REJECTED],
        target ≠ .CONSUMED ∧ target.value ≠ "CONSUMED" := by decide
    exact .moved ha hmoves (hnot _ htarget).1 (hnot _ htarget).2

theorem ends_of_expire (h : s.expire approvalId now = .ok ending) :
    Ends s (.expire approvalId now) ending s.registry := by
  obtain ⟨a, ha, h⟩ := Py.of_bind h
  rw [required_eq_ok] at ha
  split at h
  · obtain rfl := Except.ok.inj h
    exact .returned (.known ha (by decide))
  rename_i hat
  split at h
  · obtain rfl := Except.ok.inj h
    exact .returned (.known ha (by decide))
  · rename_i hnot
    obtain ⟨b, hb, h⟩ := Py.of_bind h
    obtain rfl := Except.ok.inj h
    obtain ⟨hmoves, hstatus⟩ := PlanApproval.movesTo_expired (not_not.mp hat) hnot hb
    have hend : Ends s (.expire approvalId now)
        (.records b b.fields.status.value none none ⟨b, true, "EXPIRED", none⟩) s.registry :=
      .moved ha hmoves (by rw [hstatus]; decide) (by decide)
    rw [hstatus] at hend
    exact hend

theorem ends_of_consumption
    {command : ConsumeCommand} {answer : Py (PlanApproval × Option AuthorizationBasis)}
    (ha : s.approvals.get? approvalId = some a)
    (hrecord : NotConsumed (s.durable.get? approvalId.str))
    (hconsume : s.registry.consume a now basisId command = (answer, registry))
    (h : answer.map (consumeEnd a basisId command) = .ok ending) :
    Ends s (.consume approvalId now basisId command) ending registry := by
  rcases PlanApprovalRegistry.consume_cases hconsume with ⟨⟨e, rfl⟩, rfl⟩ | ⟨rfl, rfl⟩
    | ⟨b, rfl, rfl, hmoves, hstatus⟩ | ⟨previous, rfl, rfl, hprevious, -⟩ | ⟨entry, rfl, rfl, hfirst⟩
  · cases h
  · obtain rfl := Except.ok.inj h
    rw [consumeEnd, if_neg (not_not.mpr rfl)]
    exact .returned (.known ha (by decide))
  · obtain rfl := Except.ok.inj h
    have hmoved : b.fields.status ≠ a.fields.status := by
      intro heq
      have hmove := hmoves.move
      rw [heq] at hmove
      rcases hcases : a.fields.status <;> rw [hcases] at hmove <;> cases hmove
    rw [consumeEnd, if_pos hmoved]
    exact .moved ha hmoves (by rw [hstatus]; decide) (by decide)
  · obtain rfl := Except.ok.inj h
    exact .consumedAgain ha hrecord hprevious
  · obtain rfl := Except.ok.inj h
    exact .consumed ha hrecord hfirst

theorem ends_of_replayedConsumption {command : ConsumeCommand} {prior : ManualRecord}
    (ha : s.approvals.get? approvalId = some a)
    (h : replayedConsumption a prior basisId command = .ok ending) :
    Ends s (.consume approvalId now basisId command) ending s.registry := by
  unfold replayedConsumption at h
  split at h
  · obtain rfl := Except.ok.inj h
    exact .returned (.known ha (by decide))
  · obtain ⟨requestedScope, -, h⟩ := Py.of_bind h
    split at h
    · obtain rfl := Except.ok.inj h
      exact .returned (.known ha (by decide))
    · obtain rfl := Except.ok.inj h
      exact .returned (.known ha (by decide))

theorem ends_of_consume {command : ConsumeCommand}
    (h : s.consume approvalId now basisId command = (.ok ending, registry)) :
    Ends s (.consume approvalId now basisId command) ending registry := by
  unfold consume at h
  rcases hrequired : s.required approvalId with e | a
  · rw [hrequired] at h
    cases (Prod.mk.inj h).1
  rw [hrequired] at h
  have ha := required_eq_ok.mp hrequired
  rcases hrecord : s.durable.get? approvalId.str with _ | prior
  · rw [hrecord] at h
    obtain ⟨h, hregistry⟩ := Prod.mk.inj h
    exact ends_of_consumption ha (by rw [hrecord]; rintro r ⟨⟩) (Prod.ext rfl hregistry) h
  · rw [hrecord] at h
    dsimp only at h
    split at h
    · obtain ⟨hend, rfl⟩ := Prod.mk.inj h
      exact ends_of_replayedConsumption ha hend
    · rename_i hnot
      obtain ⟨h, hregistry⟩ := Prod.mk.inj h
      refine ends_of_consumption ha ?_ (Prod.ext rfl hregistry) h
      rw [hrecord]
      rintro r ⟨⟩
      exact hnot

theorem ends_of_claimShadow (h : s.claimShadow approvalId now = .ok ending) :
    Ends s (.claimShadow approvalId now) ending s.registry := by
  obtain ⟨a, ha, h⟩ := Py.of_bind h
  rw [required_eq_ok] at ha
  rcases hrecord : s.durable.get? approvalId.str with _ | r
  · rw [hrecord] at h
    obtain rfl := Except.ok.inj h
    exact .returned .refused
  rw [hrecord] at h
  dsimp only at h
  split at h
  · obtain rfl := Except.ok.inj h
    exact .returned .refused
  rename_i hconsumed
  split at h
  · obtain rfl := Except.ok.inj h
    exact .returned .refused
  · rename_i hshadow
    obtain rfl := Except.ok.inj h
    exact .claimed ha hrecord (not_not.mp hconsumed) hshadow

theorem ends_of_completeShadow {report : ShadowReport}
    (h : s.completeShadow approvalId now report = .ok ending) :
    Ends s (.completeShadow approvalId now report) ending s.registry := by
  obtain ⟨a, ha, h⟩ := Py.of_bind h
  rw [required_eq_ok] at ha
  rcases hrecord : s.durable.get? approvalId.str with _ | r
  · rw [hrecord] at h
    obtain rfl := Except.ok.inj h
    exact .returned .refused
  rw [hrecord] at h
  dsimp only at h
  split at h
  · obtain rfl := Except.ok.inj h
    exact .returned .refused
  · rename_i hshadow
    obtain ⟨-, h⟩ := of_require h
    obtain ⟨copied, hcopied, h⟩ := Py.of_bind h
    obtain rfl := Except.ok.inj h
    exact .completed ha hrecord (not_not.mp hshadow) hcopied

theorem ends_of_work (h : s.work command = (.ok ending, registry)) : Ends s command ending registry := by
  cases command with
  | request approval =>
    obtain ⟨hend, rfl⟩ := Prod.mk.inj h
    exact ends_of_request hend
  | decide approvalId target now actor =>
    obtain ⟨hend, rfl⟩ := Prod.mk.inj h
    exact ends_of_decide hend
  | expire approvalId now =>
    obtain ⟨hend, rfl⟩ := Prod.mk.inj h
    exact ends_of_expire hend
  | consume approvalId now basisId command => exact ends_of_consume h
  | claimShadow approvalId now =>
    obtain ⟨hend, rfl⟩ := Prod.mk.inj h
    exact ends_of_claimShadow hend
  | completeShadow approvalId now report =>
    obtain ⟨hend, rfl⟩ := Prod.mk.inj h
    exact ends_of_completeShadow hend

theorem registry_of_raised {e : PyException} (h : s.work command = (.error e, registry)) :
    registry = s.registry := by
  rcases command with approval | ⟨approvalId, target, now, actor⟩ | ⟨approvalId, now⟩
    | ⟨approvalId, now, basisId, command⟩ | ⟨approvalId, now⟩ | ⟨approvalId, now, report⟩
  case consume =>
    have hconsumption : ∀ {a answer}, s.registry.consume a now basisId command = (answer, registry) →
        answer.map (consumeEnd a basisId command) = .error e → registry = s.registry := by
      intro a answer hconsume hanswer
      rcases PlanApprovalRegistry.consume_cases hconsume with ⟨-, heq⟩ | ⟨rfl, -⟩ | ⟨b, rfl, -⟩
        | ⟨previous, rfl, -⟩ | ⟨entry, rfl, -⟩
      · exact heq
      all_goals cases hanswer
    unfold work consume at h
    dsimp only at h
    split at h
    · exact (Prod.mk.inj h).2.symm
    · split at h
      · split at h
        · exact (Prod.mk.inj h).2.symm
        · obtain ⟨h, hregistry⟩ := Prod.mk.inj h
          exact hconsumption (Prod.ext rfl hregistry) h
      · obtain ⟨h, hregistry⟩ := Prod.mk.inj h
        exact hconsumption (Prod.ext rfl hregistry) h
  all_goals exact (Prod.mk.inj h).2.symm

/-! ### Records -/

omit [Hashlib] in
/-- The record is that of the approval. -/
structure RecordOf (r : ManualRecord) (b : PlanApproval) : Prop where
  fits : b.FitsStr
  status : r.status = b.fields.status.value
  approval : Json.joinMembers r.approval
    = Json.joinMembers (approvalItems b b.fields.schemaVersion.text)
  shadow : r.shadowStatus ≠ none → b.fields.status = .CONSUMED

omit [Hashlib] in
theorem isWritable_approvalItems {t : Text} : (Json.obj (approvalItems b t)).isWritable = true
      ↔ FitsStr b.fields.version ∧ FitsStr b.fields.planVersion := by
  have htexts : ∀ x : Option Text, (jsonText? x).isWritable = true := fun x => by cases x <;> rfl
  have hscope : (Json.obj (scopeItems b.fields.scope)).isWritable = true := by
    have hdimension : ∀ texts : List Text, (jsonTexts texts).isWritable = true := fun texts => by
      rw [jsonTexts, Json.isWritable, Json.areWritable_iff, List.forall_mem_map]
      exact fun _ _ => rfl
    simp [scopeItems, Json.membersWritable, hdimension]
  rw [Json.isWritable_obj] at hscope
  simp [approvalItems, Json.membersWritable, htexts, hscope]

omit [Hashlib] in
theorem RecordOf.isWritable (h : RecordOf r b) : r.IsWritable := by
  have hitems : (Json.obj (approvalItems b b.fields.schemaVersion.text)).isWritable = true :=
    isWritable_approvalItems.mpr ⟨h.fits.version, h.fits.planVersion⟩
  rw [← Json.isWritable_joinTexts, Json.joinTexts, ← h.approval, ← Json.joinTexts,
    Json.isWritable_joinTexts] at hitems
  exact hitems

omit [Hashlib] in
/-- Writing and reading a record does not change whose it is. -/
theorem RecordOf.reread (h : RecordOf r b) : RecordOf r.reread b where
  fits := h.fits
  status := h.status
  approval := (Json.joinMembers_joinMembers r.approval).trans h.approval
  shadow := h.shadow

/-- A record is made exactly of an approval whose numbers are within the limit of `str`. -/
theorem approvalRecord_eq_ok {status : Text} {basisId : Option EntityId}
    {scope : Option ConsumeCommand}
    (h : approvalRecord b status basisId scope = .ok r) (hstatus : status = b.fields.status.value) :
    RecordOf r b ∧ r.status = status ∧ r.shadowStatus = none := by
  obtain ⟨version, hversion, h⟩ := Py.of_bind h
  obtain ⟨approvalHash, hhash, h⟩ := Py.of_bind h
  obtain ⟨texts, -, h⟩ := Py.of_bind h
  obtain ⟨payload, hpayload, h⟩ := Py.of_bind h
  obtain rfl := Except.ok.inj h
  obtain ⟨schemaVersion, hschema, hpayload⟩ := Py.of_bind hpayload
  obtain rfl := Except.ok.inj hpayload
  have hfits := SchemaVersion.fits_of_str hschema
  rw [SchemaVersion.str_of_fits hfits] at hschema
  obtain rfl := Except.ok.inj hschema
  have hplan : FitsStr b.fields.planVersion := by
    obtain ⟨scopeHash, -, hhash⟩ := Py.of_bind hhash
    obtain ⟨schema, -, hhash⟩ := Py.of_bind hhash
    have hwritable := isWritable_of_canonicalSha256 hhash
    simp only [Json.isWritable_obj, Json.membersWritable, Bool.and_eq_true,
      Json.isWritable_int] at hwritable
    exact hwritable.2.2.2.1
  exact ⟨⟨⟨(of_require hversion).1, hplan, hfits⟩, hstatus, rfl, fun h => absurd rfl h⟩,
    rfl, rfl⟩

/-- The numbers of the approval and of the command are within the limit of `str`. -/
def IsRecordable (b : PlanApproval) (scope : Option ConsumeCommand) : Prop :=
  b.FitsStr ∧ ∀ command ∈ scope, FitsStr command.planVersion

theorem exists_approvalRecord {scope : Option ConsumeCommand} (status : Text)
    (basisId : Option EntityId) (h : IsRecordable b scope) :
    ∃ r, approvalRecord b status basisId scope = .ok r := by
  obtain ⟨hash, hhash, -⟩ :=
    PlanApproval.exists_authorizationHash h.1.version h.1.planVersion h.1.schemaVersion
  have hpayload : approvalToPayload b = .ok (approvalItems b b.fields.schemaVersion.text) := by
    rw [approvalToPayload, SchemaVersion.str_of_fits h.1.schemaVersion, Py.ok_bind]
  have hscope : ∃ texts, scopeTexts scope = .ok texts := by
    rcases scope with _ | command
    · exact ⟨none, rfl⟩
    · rw [scopeTexts, ConsumeCommand.texts, intToStr_of_fits (h.2 command rfl), Py.ok_bind]
      exact ⟨_, rfl⟩
  obtain ⟨texts, htexts⟩ := hscope
  rw [approvalRecord, intToStr_of_fits h.1.version, Py.ok_bind, hhash, Py.ok_bind, htexts,
    Py.ok_bind, hpayload, Py.ok_bind]
  exact ⟨_, rfl⟩

/-! ### The file -/

omit [Hashlib] in
/-- Every record of the file was written of an approval. -/
def Sound (file : StateFile) : Prop :=
  ∀ key r, file.get? key = some r → ∃ b, RecordOf r b ∧ key = b.fields.approvalId.str
    ∧ Json.joinMembers r.approval = r.approval

omit [Hashlib] in
theorem RecordOf.parsed (h : RecordOf r b)
    (hread : Json.joinMembers r.approval = r.approval) (isPrintable : CodePoint → Bool) :
    approvalFromPayload isPrintable r.approval = b.readBack := by
  rw [← hread, h.approval]
  exact b.approvalFromPayload_joinMembers isPrintable h.fits

omit [Hashlib] in
theorem readBack_facts (h : b.readBack = .ok a) :
    a.fields.approvalId = b.fields.approvalId ∧ a.fields.status = b.fields.status
      ∧ (b.FitsStr → a.FitsStr) := by
  obtain ⟨scope, -, h⟩ := Py.of_bind h
  have hfields := Frozen.make_eq_ok.mp h
  refine ⟨by rw [hfields]; rfl, by rw [hfields]; rfl, fun hfits => ⟨?_, ?_, ?_⟩⟩
  · rw [hfields]
    exact hfits.version
  · rw [hfields]
    exact hfits.planVersion
  · rw [hfields]
    exact hfits.schemaVersion

section

variable (isPrintable : CodePoint → Bool)

omit [Hashlib] in
/-- The record of an approval in the file. -/
def record? (file : Option StateFile) (approvalId : EntityId) : Option ManualRecord :=
  file.bind (·.get? approvalId.str)

omit [Hashlib] in
/-- The approval that is stored. -/
def stored (file : Option StateFile) (approvalId : EntityId) : Option PlanApproval :=
  (record? file approvalId).bind fun r => (approvalFromPayload isPrintable r.approval).toOption

omit [Hashlib] in
/-- What a handle has in memory of a file that it could read. -/
structure Loaded (file : StateFile) (held s : ManualTestApprovalStore) : Prop where
  registry : s.registry = held.registry
  durable : s.durable = file
  approvals : ∀ approvalId, s.approvals.get? approvalId = stored isPrintable (some file) approvalId
  readable : ∀ key r, file.get? key = some r → ∃ a, approvalFromPayload isPrintable r.approval = .ok a

variable {isPrintable}

omit [Hashlib] in
theorem loadRecord_eq_ok {key : Text} {r : ManualRecord} {p : EntityId × PlanApproval}
    (h : loadRecord isPrintable (key, r) = .ok p) :
    EntityId.parse key = .ok p.1 ∧ approvalFromPayload isPrintable r.approval = .ok p.2 := by
  obtain ⟨_, -, h⟩ := Py.of_bind h
  obtain ⟨approvalId, hid, h⟩ := Py.of_bind h
  obtain ⟨a, ha, h⟩ := Py.of_bind h
  obtain ⟨heq, h⟩ := of_require h
  obtain rfl := Except.ok.inj h
  exact ⟨heq ▸ hid, ha⟩

omit [Hashlib] in
/-- **A file that could be read** is in memory as it is. -/
theorem loaded_of_load {file : StateFile} {held : ManualTestApprovalStore} (hsound : Sound file)
    (h : held.load isPrintable file = .ok s) : Loaded isPrintable file held s := by
  unfold load at h
  split at h
  · split at h <;> cases h
  rename_i approvals happrovals
  obtain rfl := Except.ok.inj h
  obtain ⟨loaded, hloaded, happrovals⟩ := Py.of_bind happrovals
  obtain rfl := Except.ok.inj happrovals
  have hpairs : List.Forall₂ (fun entry (p : EntityId × PlanApproval) => entry.1 = p.1.str)
      file.items loaded := by
    have hall := Py.forall₂_of_mapM hloaded
    rw [List.forall₂_iff_zip] at hall ⊢
    refine ⟨hall.1, fun {entry p} hmem => ?_⟩
    obtain ⟨b, -, hkey, -⟩ := hsound entry.1 entry.2 (Dict.mem_items_iff.mp (List.of_mem_zip hmem).1)
    have hparse := (loadRecord_eq_ok (hall.2 hmem)).1
    rw [hkey, EntityId.parse_str] at hparse
    rw [hkey, Except.ok.inj hparse]
  have hkeys : file.items.map Prod.fst = (loaded.map Prod.fst).map EntityId.str := by
    rw [List.map_map, ← List.forall₂_eq_eq_eq]
    exact List.forall₂_map_left_iff.mpr (List.forall₂_map_right_iff.mpr hpairs)
  have hnodup : (loaded.map Prod.fst).Nodup := by
    have hfile := file.nodup
    rw [hkeys] at hfile
    exact hfile.of_map
  refine ⟨rfl, rfl, fun approvalId => ?_, fun key r hr => ?_⟩
  · rcases hrecord : file.get? approvalId.str with _ | r
    · have hnot : approvalId ∉ loaded.map Prod.fst := by
        intro hmem
        rw [Dict.get?_eq_none_iff, Dict.keys, hkeys] at hrecord
        exact hrecord (List.mem_map_of_mem hmem)
      rw [Dict.get?_update_of_not_mem _ hnot, stored, record?, Option.bind_some, hrecord]
      rfl
    · obtain ⟨p, hp, hload⟩ := Py.mem_of_mapM hloaded _ (Dict.mem_items_iff.mpr hrecord)
      obtain ⟨hparse, hread⟩ := loadRecord_eq_ok hload
      rw [EntityId.parse_str] at hparse
      rw [Except.ok.inj hparse, Dict.get?_update_of_mem _ hnodup hp, stored, record?,
        Option.bind_some, ← Except.ok.inj hparse, hrecord, Option.bind_some, hread]
      rfl
  · obtain ⟨p, -, hload⟩ := Py.mem_of_mapM hloaded _ (Dict.mem_items_iff.mpr hr)
    exact ⟨p.2, (loadRecord_eq_ok hload).2⟩

end

/-! ### What a command does to the file -/

/-- A command writes the record of an approval, and answers. -/
inductive Writes (s : ManualTestApprovalStore) :
    ManualCommand → EntityId → ManualRecord → ManualAnswer → PlanApprovalRegistry → Prop
  | record {command : ManualCommand} {b : PlanApproval} {status : Text} {basisId : Option EntityId}
      {scope : Option ConsumeCommand} {result : ManualApprovalCommandResult}
      {registry : PlanApprovalRegistry} {r : ManualRecord}
      (h : Ends s command (.records b status basisId scope result) registry)
      (hrecord : approvalRecord b status basisId scope = .ok r) :
      Writes s command b.fields.approvalId r (.result result) registry
  | mark {command : ManualCommand} {registry : PlanApprovalRegistry} {r : ManualRecord}
      (h : Ends s command (.marks r) registry) :
      Writes s command command.approvalId r (.flag true) registry

/-- The file after the record of an approval was written. -/
def written (durable : Dict Text ManualRecord) (approvalId : EntityId) (r : ManualRecord) :
    StateFile :=
  (durable.set approvalId.str r).mapValues fun _ r => r.reread

/-- What a command does: its answer, the file and the memory after it. -/
inductive Called (s : ManualTestApprovalStore) (command : ManualCommand) (fails : Bool)
    (file : Option StateFile) :
    Py (Option ManualAnswer) → Option StateFile → ManualTestApprovalStore → Prop
  | raised {e : PyException} : Called s command fails file (.error e) file s
  | answered {answer : ManualAnswer} (h : Answers s command answer) :
      Called s command fails file (.ok (some answer)) file s
  | unrecordable {e : PyException} {b : PlanApproval} {status : Text} {basisId : Option EntityId}
      {scope : Option ConsumeCommand} {result : ManualApprovalCommandResult}
      {registry : PlanApprovalRegistry}
      (h : Ends s command (.records b status basisId scope result) registry)
      (hnot : ¬ IsRecordable b scope) :
      Called s command fails file (.error e) file
        ⟨registry, s.approvals.set command.approvalId b, s.durable⟩
  | failed {e : PyException} {approvalId : EntityId} {r : ManualRecord} {answer : ManualAnswer}
      {registry : PlanApprovalRegistry} {approvals : Dict EntityId PlanApproval}
      (hfails : fails = true) (h : Writes s command approvalId r answer registry) :
      Called s command fails file (.error e) file
        ⟨registry, approvals, s.durable.set approvalId.str r⟩
  | written {approvalId : EntityId} {r : ManualRecord} {answer : ManualAnswer}
      {registry : PlanApprovalRegistry} {approvals : Dict EntityId PlanApproval}
      (h : Writes s command approvalId r answer registry) :
      Called s command fails file (.ok (some answer)) (some (written s.durable approvalId r))
        ⟨registry, approvals, s.durable.set approvalId.str r⟩

omit [Hashlib] in
/-- What a handle has in memory when it works.  Where there is no file, an approval in memory is one
that could not be recorded. -/
structure Working (isPrintable : CodePoint → Bool) (file : Option StateFile)
    (s : ManualTestApprovalStore) : Prop where
  durable : s.durable = file.getD .empty
  sound : ∀ content ∈ file, Sound content
  approvals : ∀ approvalId a, s.approvals.get? approvalId = some a →
    a.fields.approvalId = approvalId ∧ (file ≠ none → stored isPrintable file approvalId = some a)
      ∧ (file = none → ¬ a.FitsStr)
  registry : ∀ approvalId entry, s.registry.consumed.get? approvalId = some entry →
    entry.consumed.fields.approvalId = approvalId ∧ entry.consumed.fields.status = .CONSUMED

namespace Working

variable {isPrintable : CodePoint → Bool} {file : Option StateFile}

variable {r : ManualRecord} {approvalId : EntityId} {answer : ManualAnswer}

omit [Hashlib] in
theorem recordOf (hw : Working isPrintable file s) {key : Text} (h : s.durable.get? key = some r) :
    ∃ content b, file = some content ∧ content.get? key = some r ∧ RecordOf r b
      ∧ key = b.fields.approvalId.str ∧ Json.joinMembers r.approval = r.approval := by
  rw [hw.durable] at h
  rcases hfile : file with _ | content
  · rw [hfile] at h
    cases h
  · rw [hfile] at h
    obtain ⟨b, hrecord, hkey, hread⟩ := hw.sound content hfile key r h
    exact ⟨content, b, rfl, h, hrecord, hkey, hread⟩

omit [Hashlib] in
theorem exists_record (hw : Working isPrintable file s) {a : PlanApproval}
    (ha : s.approvals.get? approvalId = some a) (hfile : file ≠ none) :
    ∃ r b, s.durable.get? approvalId.str = some r ∧ record? file approvalId = some r
      ∧ RecordOf r b ∧ b.readBack = .ok a ∧ stored isPrintable file approvalId = some a := by
  have hstored := (hw.approvals approvalId a ha).2.1 hfile
  obtain ⟨content, hcontent⟩ := Option.ne_none_iff_exists'.mp hfile
  rw [hcontent] at hstored
  obtain ⟨r, hr, hparsed⟩ := Option.bind_eq_some_iff.mp hstored
  have hdurable : s.durable.get? approvalId.str = some r := by
    rw [hw.durable, hcontent]
    exact hr
  obtain ⟨_, b, -, -, hrecord, -, hread⟩ := hw.recordOf hdurable
  rw [hrecord.parsed hread] at hparsed
  rw [hcontent]
  refine ⟨r, b, hdurable, hr, hrecord, ?_, hstored⟩
  rcases hback : b.readBack with e | a'
  · rw [hback] at hparsed
    cases hparsed
  · rw [hback] at hparsed
    rw [Option.some.inj hparsed]

omit [Hashlib] in
theorem exists_readBack (hw : Working isPrintable file s) {a : PlanApproval}
    (ha : s.approvals.get? approvalId = some a) (hfits : a.FitsStr) :
    ∃ r b, s.durable.get? approvalId.str = some r ∧ record? file approvalId = some r
      ∧ RecordOf r b ∧ b.readBack = .ok a ∧ stored isPrintable file approvalId = some a :=
  hw.exists_record ha fun hnone => (hw.approvals approvalId a ha).2.2 hnone hfits

theorem recordOf_of_writes (hw : Working isPrintable file s) (h : Writes s command approvalId r answer registry) :
    ∃ b, RecordOf r b ∧ b.fields.approvalId = approvalId := by
  cases h with
  | record h hrecord =>
    have hstatus := approvalRecord_eq_ok hrecord
    cases h with
    | requested hnew hstatus' => exact ⟨_, (hstatus (by rw [hstatus']; rfl)).1, rfl⟩
    | moved ha hmoves hnot hreason => exact ⟨_, (hstatus rfl).1, rfl⟩
    | consumed ha hrecord' hfirst =>
      exact ⟨_, (hstatus (by rw [hfirst.parts.2.1]; rfl)).1, rfl⟩
    | consumedAgain ha hrecord' hprevious =>
      exact ⟨_, (hstatus (by rw [(hw.registry _ _ hprevious).2]; rfl)).1, rfl⟩
  | mark h =>
    cases h with
    | claimed ha hrecord hconsumed hshadow =>
      obtain ⟨content, b, hfile, hget, hof, hkey, hread⟩ := hw.recordOf hrecord
      have hstored := (hw.approvals _ _ ha).2.1 (by rw [hfile]; exact Option.some_ne_none _)
      rw [stored, record?, hfile, Option.bind_some, hget, Option.bind_some,
        hof.parsed hread] at hstored
      rcases hback : b.readBack with e | a
      · rw [hback] at hstored
        cases hstored
      rw [hback] at hstored
      obtain rfl := Option.some.inj hstored
      refine ⟨b, ⟨hof.fits, hof.status, hof.approval, fun _ => ?_⟩, (EntityId.str_inj hkey).symm⟩
      rw [← (readBack_facts hback).2.1]
      exact hconsumed
    | completed ha hrecord hshadow =>
      obtain ⟨content, b, -, -, hof, hkey, -⟩ := hw.recordOf hrecord
      refine ⟨b, ⟨hof.fits, hof.status, hof.approval, fun _ => ?_⟩, (EntityId.str_inj hkey).symm⟩
      exact hof.shadow (by rw [hshadow]; exact Option.some_ne_none _)

/-- The records that a command leaves in memory can be written. -/
theorem isWritable_of_writes (hw : Working isPrintable file s) (h : Writes s command approvalId r answer registry) :
    ∀ record ∈ (s.durable.set approvalId.str r).values, record.IsWritable := by
  intro record hmem
  obtain ⟨key, hget⟩ := Dict.mem_values_iff.mp hmem
  rw [Dict.get?_set] at hget
  split at hget
  · obtain rfl := Option.some.inj hget
    obtain ⟨b, hof, -⟩ := hw.recordOf_of_writes h
    exact hof.isWritable
  · obtain ⟨_, b, -, -, hof, -⟩ := hw.recordOf hget
    exact hof.isWritable

theorem sound_written (hw : Working isPrintable file s) (h : Writes s command approvalId r answer registry) :
    Sound (ManualTestApprovalStore.written s.durable approvalId r) := by
  intro key record hget
  rw [ManualTestApprovalStore.written, Dict.get?_mapValues, Dict.get?_set] at hget
  obtain ⟨before, hbefore, rfl⟩ := Option.map_eq_some_iff.mp hget
  split at hbefore
  · rename_i hkey
    obtain rfl := Option.some.inj hbefore
    obtain ⟨b, hof, rfl⟩ := hw.recordOf_of_writes h
    exact ⟨b, hof.reread, hkey, Json.joinMembers_joinMembers _⟩
  · obtain ⟨_, b, -, -, hof, hkey, -⟩ := hw.recordOf hbefore
    exact ⟨b, hof.reread, hkey, Json.joinMembers_joinMembers _⟩

end Working

theorem called_of_finish {isPrintable : CodePoint → Bool} {w w' : World} {handle : ℕ}
    {fails : Bool} {answer : ManualAnswer} {outcome : Py (Option ManualAnswer)} {approvals : Dict EntityId PlanApproval} (hw : Working isPrintable w.file s)
    (h : Writes s command approvalId r answer registry)
    (hfinish : finish w handle ⟨registry, approvals, s.durable.set approvalId.str r⟩ answer fails
      = (outcome, w')) : ∃ s', w'.handles = w.handles.set handle s'
      ∧ Called s command fails w.file outcome w'.file s' := by
  rw [finish, persist, require_of_pos (hw.isWritable_of_writes h), Py.ok_bind] at hfinish
  dsimp only at hfinish
  split at hfinish
  · rename_i hfails
    obtain ⟨rfl, rfl⟩ := Prod.mk.inj hfinish
    exact ⟨_, rfl, .failed hfails h⟩
  · obtain ⟨rfl, rfl⟩ := Prod.mk.inj hfinish
    exact ⟨_, rfl, .written h⟩

theorem called_of_callOn {isPrintable : CodePoint → Bool} {w w' : World} {handle : ℕ} {fails : Bool}
    {outcome : Py (Option ManualAnswer)} (hw : Working isPrintable w.file s)
    (h : callOn w handle s command fails = (outcome, w')) :
    ∃ s', w'.handles = w.handles.set handle s'
      ∧ Called s command fails w.file outcome w'.file s' := by
  unfold callOn at h
  rcases hwork : s.work command with ⟨e | ending, registry⟩
  · rw [hwork] at h
    obtain ⟨rfl, rfl⟩ := Prod.mk.inj h
    obtain rfl := registry_of_raised hwork
    exact ⟨s, rfl, .raised⟩
  have hends := ends_of_work hwork
  rw [hwork] at h
  dsimp only at h
  rcases ending with answer | ⟨b, status, basisId, scope, result⟩ | r
  · obtain ⟨rfl, rfl⟩ := Prod.mk.inj h
    cases hends with
    | returned hanswers => exact ⟨s, rfl, .answered hanswers⟩
  · dsimp only at h
    rcases hrecord : approvalRecord b status basisId scope with e | r
    · rw [hrecord] at h
      obtain ⟨rfl, rfl⟩ := Prod.mk.inj h
      refine ⟨_, rfl, .unrecordable hends fun hrecordable => ?_⟩
      obtain ⟨r, hr⟩ := exists_approvalRecord status basisId hrecordable
      rw [hr] at hrecord
      cases hrecord
    · rw [hrecord] at h
      exact called_of_finish hw (.record hends hrecord) h
  · exact called_of_finish hw (.mark hends) h

end

end ManualTestApprovalStore

end FuturesAgentOs
