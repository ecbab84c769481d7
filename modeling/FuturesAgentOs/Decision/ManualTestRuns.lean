import FuturesAgentOs.Decision.ManualTestSteps

namespace FuturesAgentOs

open PyModel

/-!
# Runs of the manual approval store

Handles on one file, opened and called in any order.

* `approvals_move_once` — over every run whose writes do not fail.
-/

/-- How far the consumption is: not consumed, consumed, claimed, completed. -/
def ManualRecord.phase (r : ManualRecord) : ℕ :=
  if r.status ≠ PlanApprovalStatus.CONSUMED.value then 0
  else if r.shadowStatus = some "COMPLETED" then 3
  else if r.shadowStatus = some "CLAIMED" then 2
  else 1

namespace ManualTestApprovalStore

open PlanApproval (SameTerms MovesTo)

/-- How far the consumption of an approval is. -/
def phase (file : Option StateFile) (approvalId : EntityId) : ℕ :=
  ((record? file approvalId).map ManualRecord.phase).getD 0

/-- The basis is one of the approval's plan, within its scope. -/
structure IsWithin (basis : AuthorizationBasis) (a : PlanApproval) : Prop where
  planId : basis.fields.planId = a.fields.planId
  planVersion : basis.fields.planVersion = a.fields.planVersion
  planHash : basis.fields.planHash = a.fields.planHash
  permits : a.fields.scope.Permits basis.fields.accountId basis.fields.instrument
    basis.fields.strategy basis.fields.session basis.fields.authorizedAction
    basis.fields.authorizedQuantity basis.fields.createdAt

/-! ### Answers -/

/-- A consumption of the approval returned `CONSUMED`. -/
def consumes (approvalId : EntityId) : ManualCommand → Py (Option ManualAnswer) → Bool
  | .consume consumedId .., .ok (some (.result r)) => consumedId = approvalId ∧ r.reason = "CONSUMED"
  | _, _ => false

/-- A claim of the approval's shadow run returned `True`. -/
def claims (approvalId : EntityId) : ManualCommand → Py (Option ManualAnswer) → Bool
  | .claimShadow claimedId _, .ok (some (.flag done)) => claimedId = approvalId ∧ done = true
  | _, _ => false

/-- A completion of the approval's shadow run returned `True`. -/
def completes (approvalId : EntityId) : ManualCommand → Py (Option ManualAnswer) → Bool
  | .completeShadow completedId .., .ok (some (.flag done)) =>
    completedId = approvalId ∧ done = true
  | _, _ => false

section

variable {command : ManualCommand} {outcome : Py (Option ManualAnswer)} {approvalId : EntityId}

/-- The answers of a command that has another approval, or did not return `True` or `CONSUMED`. -/
structure IsQuiet (approvalId : EntityId) (command : ManualCommand)
    (outcome : Py (Option ManualAnswer)) : Prop where
  consumes : consumes approvalId command outcome = false
  claims : claims approvalId command outcome = false
  completes : completes approvalId command outcome = false

theorem isQuiet_of_error {e : PyException} : IsQuiet approvalId command (.error e) := by
  refine ⟨?_, ?_, ?_⟩ <;> cases command <;> rfl

theorem isQuiet_of_ne (h : command.approvalId ≠ approvalId) :
    IsQuiet approvalId command outcome := by
  refine ⟨?_, ?_, ?_⟩
  · unfold consumes
    split
    · exact decide_eq_false fun heq => h heq.1
    · rfl
  · unfold claims
    split
    · exact decide_eq_false fun heq => h heq.1
    · rfl
  · unfold completes
    split
    · exact decide_eq_false fun heq => h heq.1
    · rfl

theorem isQuiet_of_result {r : ManualApprovalCommandResult} (h : r.reason ≠ "CONSUMED") :
    IsQuiet approvalId command (.ok (some (.result r))) := by
  refine ⟨?_, ?_, ?_⟩
  · cases command
    case consume => exact decide_eq_false fun heq => h heq.2
    all_goals rfl
  · cases command <;> rfl
  · cases command <;> rfl

theorem isQuiet_of_refused : IsQuiet approvalId command (.ok (some (.flag false))) := by
  refine ⟨?_, ?_, ?_⟩
  · cases command <;> rfl
  · cases command
    case claimShadow => exact decide_eq_false fun heq => Bool.false_ne_true heq.2
    all_goals rfl
  · cases command
    case completeShadow => exact decide_eq_false fun heq => Bool.false_ne_true heq.2
    all_goals rfl

theorem isQuiet_of_answers {s : ManualTestApprovalStore} {answer : ManualAnswer}
    (h : Answers s command answer) : IsQuiet approvalId command (.ok (some answer)) := by
  cases h with
  | refused => exact isQuiet_of_refused
  | known ha hreason => exact isQuiet_of_result hreason
  | conflict hcommand hrecord =>
    exact isQuiet_of_result (show ("APPROVAL_CONFLICT" : Text) ≠ "CONSUMED" by decide)

/-! ### One command -/

/-- What a command does to a stored approval. -/
structure Advances (isPrintable : CodePoint → Bool) (file file' : Option StateFile)
    (command : ManualCommand) (outcome : Py (Option ManualAnswer)) (approvalId : EntityId) : Prop where
  stored : ∀ a, stored isPrintable file approvalId = some a →
    ∃ a', ManualTestApprovalStore.stored isPrintable file' approvalId = some a' ∧ SameTerms a a'
      ∧ (a'.fields.status = a.fields.status ∨ a.fields.status.CanMove a'.fields.status)
  step : phase file' approvalId = phase file approvalId
    ∨ phase file' approvalId = phase file approvalId + 1
  consumes : consumes approvalId command outcome = true
    ↔ phase file approvalId = 0 ∧ phase file' approvalId = 1
  claims : claims approvalId command outcome = true
    ↔ phase file approvalId = 1 ∧ phase file' approvalId = 2
  completes : completes approvalId command outcome = true
    ↔ phase file approvalId = 2 ∧ phase file' approvalId = 3
  basis : ManualTestApprovalStore.consumes approvalId command outcome = true →
    ∃ a r basis, ManualTestApprovalStore.stored isPrintable file approvalId = some a
      ∧ outcome = .ok (some (.result r)) ∧ r.basis = some basis ∧ IsWithin basis a

variable {isPrintable : CodePoint → Bool} {file file' : Option StateFile}

/-- A step that the shadow run has no part in. -/
theorem advances_of_quiet (hquiet : IsQuiet approvalId command outcome)
    (hstored : ∀ a, stored isPrintable file approvalId = some a →
      ∃ a', stored isPrintable file' approvalId = some a' ∧ SameTerms a a'
        ∧ (a'.fields.status = a.fields.status ∨ a.fields.status.CanMove a'.fields.status))
    (hphase : phase file' approvalId = phase file approvalId) :
    Advances isPrintable file file' command outcome approvalId where
  stored := hstored
  step := Or.inl hphase
  consumes := by
    rw [hquiet.consumes]
    exact iff_of_false Bool.false_ne_true (by omega)
  claims := by
    rw [hquiet.claims]
    exact iff_of_false Bool.false_ne_true (by omega)
  completes := by
    rw [hquiet.completes]
    exact iff_of_false Bool.false_ne_true (by omega)
  basis := by
    rw [hquiet.consumes]
    rintro ⟨⟩

theorem advances_of_same (hquiet : IsQuiet approvalId command outcome)
    (hstored : stored isPrintable file' approvalId = stored isPrintable file approvalId)
    (hphase : phase file' approvalId = phase file approvalId) :
    Advances isPrintable file file' command outcome approvalId :=
  advances_of_quiet hquiet (fun a ha => ⟨a, hstored.trans ha, .refl a, Or.inl rfl⟩) hphase

end

/-! ### A command that writes -/

variable {r : ManualRecord}

theorem phase_eq_zero (h : r.status ≠ PlanApprovalStatus.CONSUMED.value) : r.phase = 0 := if_pos h

theorem phase_eq_one (h : r.status = PlanApprovalStatus.CONSUMED.value)
    (hshadow : ¬ r.shadowStatus = some "CLAIMED" ∧ ¬ r.shadowStatus = some "COMPLETED") :
    r.phase = 1 := by
  rw [ManualRecord.phase, if_neg (not_not.mpr h), if_neg hshadow.2, if_neg hshadow.1]

theorem phase_eq_two (h : r.status = PlanApprovalStatus.CONSUMED.value)
    (hshadow : r.shadowStatus = some "CLAIMED") : r.phase = 2 := by
  rw [ManualRecord.phase, if_neg (not_not.mpr h), hshadow]
  rfl

theorem phase_eq_three (h : r.status = PlanApprovalStatus.CONSUMED.value)
    (hshadow : r.shadowStatus = some "COMPLETED") : r.phase = 3 := by
  rw [ManualRecord.phase, if_neg (not_not.mpr h), hshadow]
  rfl

theorem fitsStr_of_succ {n : ℤ} (hn : 1 ≤ n) (h : FitsStr (n + 1)) : FitsStr n := by
  unfold FitsStr at h ⊢
  rw [Text.length_ofNat] at h ⊢
  have hmono : Nat.log 10 n.natAbs ≤ Nat.log 10 (n + 1).natAbs := Nat.log_mono_right (by omega)
  omega

/-- An approval that moves to one within the limits of `str` is within them. -/
theorem fits_of_movesTo {a b : PlanApproval} (h : MovesTo a b) (hb : b.FitsStr) : a.FitsStr where
  version := by
    have hvalid : PlanApprovalFields.postInit a.fields = .ok () := a.valid
    have hpositive := require_eq_ok.mp (check_bind_eq_ok.mp hvalid).1
    exact fitsStr_of_succ hpositive (h.version ▸ hb.version)
  planVersion := by
    have hplan := hb.planVersion
    rw [h.terms] at hplan
    exact hplan
  schemaVersion := by
    have hschema := hb.schemaVersion
    rw [h.terms] at hschema
    exact hschema

section

variable [Hashlib] {s : ManualTestApprovalStore} {isPrintable : CodePoint → Bool}
  {file : Option StateFile} {command : ManualCommand} {approvalId : EntityId} {r : ManualRecord}
  {answer : ManualAnswer} {registry : PlanApprovalRegistry}

omit [Hashlib] in
theorem get?_durable (hw : Working isPrintable file s) (id : EntityId) :
    s.durable.get? id.str = record? file id := by
  rw [hw.durable, record?]
  rcases file with _ | content <;> rfl

omit [Hashlib] in
theorem record?_written (hw : Working isPrintable file s) (approvalId : EntityId) (r : ManualRecord)
    (id : EntityId) :
    record? (some (written s.durable approvalId r)) id
      = if id = approvalId then some r.reread else (record? file id).map ManualRecord.reread := by
  have hfile := get?_durable hw id
  rw [record?, Option.bind_some, written, Dict.get?_mapValues, Dict.get?_set]
  by_cases hid : id = approvalId
  · rw [if_pos (congrArg EntityId.str hid), if_pos hid, Option.map_some]
  · rw [if_neg fun heq => hid (EntityId.str_inj heq), if_neg hid, hfile]

variable {id basisId : EntityId} {file' : Option StateFile} {outcome : Py (Option ManualAnswer)}
  {a b : PlanApproval} {result : ManualApprovalCommandResult} {s' : ManualTestApprovalStore}
  {w : World}

omit [Hashlib] in
theorem phase_of_notConsumed (hw : Working isPrintable file s)
    (h : NotConsumed (s.durable.get? id.str)) : phase file id = 0 := by
  rw [get?_durable hw] at h
  rw [phase]
  rcases hrecord : record? file id with _ | r
  · rfl
  · exact phase_eq_zero (h r hrecord)

omit [Hashlib] in
/-- A record that is written again is read as it was. -/
theorem stored_of_reread (hw : Working isPrintable file s)
    {before after : ManualRecord} (hbefore : record? file id = some before)
    (hafter : record? file' id = some after.reread) (happroval : after.approval = before.approval) :
    stored isPrintable file' id = stored isPrintable file id := by
  have hget := (get?_durable hw id).trans hbefore
  obtain ⟨_, b, -, -, -, -, hread⟩ := hw.recordOf hget
  rw [stored, stored, hafter, hbefore, Option.bind_some, Option.bind_some, ManualRecord.reread,
    happroval, hread]

omit [Hashlib] in
theorem advances_of_other (hw : Working isPrintable file s) (hid : id ≠ approvalId) (hquiet : IsQuiet id command outcome) :
    Advances isPrintable file (some (written s.durable approvalId r)) command outcome id := by
  have hafter := record?_written hw approvalId r id
  rw [if_neg hid] at hafter
  rcases hbefore : record? file id with _ | before
  · rw [hbefore, Option.map_none] at hafter
    refine advances_of_same hquiet ?_ ?_
    · rw [stored, stored, hafter, hbefore]
    · rw [phase, phase, hafter, hbefore]
  · rw [hbefore, Option.map_some] at hafter
    refine advances_of_same hquiet (stored_of_reread hw hbefore hafter rfl) ?_
    rw [phase, phase, hafter, hbefore]
    rfl

omit [Hashlib] in
/-- **What is read of the record of an approval that moved.** -/
theorem stored_of_movesTo (hw : Working isPrintable file s)
    (ha : s.approvals.get? approvalId = some a) (hmoves : MovesTo a b) (hrecord : RecordOf r b) :
    stored isPrintable file approvalId = some a
      ∧ (∃ before, record? file approvalId = some before
        ∧ before.status = a.fields.status.value)
      ∧ ∃ a', stored isPrintable (some (written s.durable approvalId r)) approvalId = some a'
        ∧ SameTerms a a' ∧ a'.fields.status = b.fields.status := by
  obtain ⟨before, b₀, -, hbefore, hof, hread, hstored⟩ :=
    hw.exists_readBack ha (fits_of_movesTo hmoves hrecord.fits)
  have hterms := hmoves.terms
  obtain ⟨a', hback, hfields⟩ := PlanApproval.exists_readBack (u := b) hread
    (by rw [hterms]) (by rw [hterms]) (by rw [hterms])
  have hafter : record? (some (written s.durable approvalId r)) approvalId = some r.reread := by
    rw [record?_written hw, if_pos rfl]
  refine ⟨hstored, ⟨before, hbefore, ?_⟩, a', ?_, ?_, ?_⟩
  · rw [hof.status, (readBack_facts hread).2.1]
  · rw [stored, hafter, Option.bind_some,
      hrecord.reread.parsed (Json.joinMembers_joinMembers _), hback]
    rfl
  · rw [SameTerms, hfields, hterms]
  · rw [hfields]

omit [Hashlib] in
theorem advances_of_requested (hw : Working isPrintable file s) {approval : PlanApproval} (hreason : result.reason ≠ "CONSUMED")
    (hnew : s.durable.get? approval.fields.approvalId.str = none)
    (hstatus : approval.fields.status = .REQUESTED) (hrecord : RecordOf r approval) :
    Advances isPrintable file (some (written s.durable approval.fields.approvalId r)) command
      (.ok (some (.result result))) approval.fields.approvalId := by
  have hbefore := (get?_durable hw approval.fields.approvalId).symm.trans hnew
  have hafter := record?_written hw approval.fields.approvalId r approval.fields.approvalId
  rw [if_pos rfl] at hafter
  refine advances_of_quiet (isQuiet_of_result hreason) (fun a ha => ?_) ?_
  · rw [stored, hbefore] at ha
    cases ha
  · rw [phase, phase, hafter, hbefore, Option.map_some, Option.getD_some]
    exact phase_eq_zero (by rw [hrecord.reread.status, hstatus]; decide)

omit [Hashlib] in
theorem advances_of_moved (hw : Working isPrintable file s) (hreason : result.reason ≠ "CONSUMED")
    (ha : s.approvals.get? approvalId = some a) (hmoves : MovesTo a b)
    (hnot : b.fields.status ≠ .CONSUMED) (hrecord : RecordOf r b) :
    Advances isPrintable file (some (written s.durable approvalId r)) command
      (.ok (some (.result result))) approvalId := by
  obtain ⟨hstored, ⟨before, hbefore, hstatus⟩, a', hstored', hterms, hstatus'⟩ :=
    stored_of_movesTo hw ha hmoves hrecord
  have hafter := record?_written hw approvalId r approvalId
  rw [if_pos rfl] at hafter
  refine advances_of_quiet (isQuiet_of_result hreason) ?_ ?_
  · rw [hstored]
    rintro _ ⟨⟩
    exact ⟨a', hstored', hterms, Or.inr (hstatus' ▸ hmoves.move)⟩
  · have hvalue : ∀ status : PlanApprovalStatus, status ≠ .CONSUMED →
        status.value ≠ PlanApprovalStatus.CONSUMED.value := by
      intro status hne
      cases status <;> first | exact absurd rfl hne | decide
    have hopen : a.fields.status ≠ .CONSUMED := by
      intro heq
      have hmove := hmoves.move
      rw [heq] at hmove
      cases hmove
    have hzero : before.phase = 0 := phase_eq_zero (by rw [hstatus]; exact hvalue _ hopen)
    have hzero' : r.reread.phase = 0 :=
      phase_eq_zero (by rw [hrecord.reread.status]; exact hvalue _ hnot)
    rw [phase, phase, hafter, hbefore, Option.map_some, Option.getD_some, Option.map_some,
      Option.getD_some, hzero, hzero']

theorem isWithin_of_firstConsumption {now : RecordedAt}
    {command : ConsumeCommand} {entry : ConsumedApproval}
    (h : PlanApprovalRegistry.FirstConsumption s.registry a now basisId command entry) :
    IsWithin entry.basis a := by
  obtain ⟨-, -, -, hbasis, -⟩ := h.parts
  obtain ⟨hash, -, hbasis⟩ := Py.of_bind hbasis
  obtain ⟨scope, -, hbasis⟩ := Py.of_bind hbasis
  have hfields := Frozen.make_eq_ok.mp hbasis
  obtain ⟨-, -, -, haccount, hpermits⟩ := h.covers
  refine ⟨by rw [hfields], by rw [hfields], by rw [hfields], ?_⟩
  rw [hfields]
  exact haccount ▸ hpermits

theorem advances_of_consumed (hw : Working isPrintable file s) {now : RecordedAt} {command : ConsumeCommand} {entry : ConsumedApproval}
    (ha : s.approvals.get? approvalId = some a)
    (hopen : NotConsumed (s.durable.get? approvalId.str))
    (hfirst : PlanApprovalRegistry.FirstConsumption s.registry a now basisId command entry)
    (hrecord : RecordOf r entry.consumed) (hshadow : r.shadowStatus = none) :
    Advances isPrintable file (some (written s.durable approvalId r))
      (.consume approvalId now basisId command)
      (.ok (some (.result ⟨entry.consumed, true, "CONSUMED", some entry.basis⟩))) approvalId := by
  obtain ⟨hmoves, hconsumed, -⟩ := hfirst.parts
  obtain ⟨hstored, ⟨before, hbefore, hstatus⟩, a', hstored', hterms, hstatus'⟩ :=
    stored_of_movesTo hw ha hmoves hrecord
  have hafter := record?_written hw approvalId r approvalId
  rw [if_pos rfl] at hafter
  have hzero := phase_of_notConsumed hw hopen
  have hone : phase (some (written s.durable approvalId r)) approvalId = 1 := by
    have hvalue : r.reread.status = PlanApprovalStatus.CONSUMED.value := by
      rw [hrecord.reread.status, hconsumed]
    have hnone : r.reread.shadowStatus = none := hshadow
    rw [phase, hafter, Option.map_some, Option.getD_some, ManualRecord.phase,
      if_neg (not_not.mpr hvalue), hnone]
    rfl
  refine ⟨?_, Or.inr (by omega), ?_, ?_, ?_, fun _ => ?_⟩
  · rw [hstored]
    rintro _ ⟨⟩
    exact ⟨a', hstored', hterms, Or.inr (hstatus' ▸ hmoves.move)⟩
  · exact iff_of_true (decide_eq_true ⟨rfl, rfl⟩) ⟨hzero, hone⟩
  · exact iff_of_false (by rintro ⟨⟩) (by omega)
  · exact iff_of_false (by rintro ⟨⟩) (by omega)
  · exact ⟨a, _, _, hstored, rfl, rfl, isWithin_of_firstConsumption hfirst⟩

omit [Hashlib] in
theorem consumed_of_marked (hw : Working isPrintable file s)
    (hget : s.durable.get? approvalId.str = some r)
    (hconsumed : (∃ a, s.approvals.get? approvalId = some a ∧ a.fields.status = .CONSUMED)
      ∨ r.shadowStatus ≠ none) :
    r.status = PlanApprovalStatus.CONSUMED.value ∧ record? file approvalId = some r := by
  obtain ⟨content, b, rfl, hcontent, hof, -, hread⟩ := hw.recordOf hget
  refine ⟨?_, hcontent⟩
  rw [hof.status]
  rcases hconsumed with ⟨a, ha, hstatus⟩ | hshadow
  · have hstored := (hw.approvals _ _ ha).2.1 (Option.some_ne_none _)
    rw [stored, record?, Option.bind_some, hcontent, Option.bind_some, hof.parsed hread] at hstored
    rcases hback : b.readBack with e | a'
    · rw [hback] at hstored
      cases hstored
    · rw [hback] at hstored
      obtain rfl := Option.some.inj hstored
      rw [← (readBack_facts hback).2.1, hstatus]
  · rw [hof.shadow hshadow]

omit [Hashlib] in
/-- **The marks of a shadow run.** -/
theorem advances_of_marked (hw : Working isPrintable file s) {before after : ManualRecord}
    (hbefore : s.durable.get? approvalId.str = some before)
    (hconsumed : (∃ a, s.approvals.get? approvalId = some a ∧ a.fields.status = .CONSUMED)
      ∨ before.shadowStatus ≠ none) (happroval : after.approval = before.approval)
    (hnot : consumes approvalId command outcome = false) (hmarks : after.phase = before.phase + 1
      ∧ (claims approvalId command outcome = true ↔ before.phase = 1)
      ∧ (completes approvalId command outcome = true ↔ before.phase = 2) ∧ 1 ≤ before.phase) :
    Advances isPrintable file (some (written s.durable approvalId after)) command outcome
      approvalId := by
  obtain ⟨hvalue, hrecord⟩ := consumed_of_marked hw hbefore hconsumed
  have hafter := record?_written hw approvalId after approvalId
  rw [if_pos rfl] at hafter
  have hphase : phase file approvalId = before.phase := by
    rw [phase, hrecord, Option.map_some, Option.getD_some]
  have hphase' : phase (some (written s.durable approvalId after)) approvalId = after.phase := by
    rw [phase, hafter, Option.map_some, Option.getD_some]
    rfl
  have hstored := stored_of_reread hw hrecord hafter happroval
  obtain ⟨hstep, hclaims, hcompletes, hpositive⟩ := hmarks
  refine ⟨fun a ha => ⟨a, hstored.trans ha, .refl a, Or.inl rfl⟩, Or.inr (by omega), ?_, ?_, ?_, ?_⟩
  · rw [hnot]
    exact iff_of_false Bool.false_ne_true (by omega)
  · rw [hclaims]
    omega
  · rw [hcompletes]
    omega
  · rw [hnot]
    rintro ⟨⟩

theorem approvalId_of_writes (hw : Working isPrintable file s)
    (h : Writes s command approvalId r answer registry) : command.approvalId = approvalId := by
  cases h with
  | mark h => rfl
  | record h hrecord =>
    cases h with
    | requested hnew hstatus => rfl
    | moved ha hmoves hnot hreason =>
      rw [hmoves.terms.approvalId, (hw.approvals _ _ ha).1]
    | consumed ha hopen hfirst =>
      rw [hfirst.parts.1.terms.approvalId, (hw.approvals _ _ ha).1]
      rfl
    | consumedAgain ha hopen hprevious =>
      rw [(hw.registry _ _ hprevious).1, (hw.approvals _ _ ha).1]
      rfl

theorem advances_of_writes (hw : Working isPrintable file s)
    (hregistry : ∀ id entry, s.registry.consumed.get? id = some entry →
      1 ≤ phase file id ∨ ¬ entry.consumed.FitsStr)
    (h : Writes s command approvalId r answer registry) (id : EntityId) :
    Advances isPrintable file (some (written s.durable approvalId r)) command
      (.ok (some answer)) id := by
  have hcommand := approvalId_of_writes hw h
  by_cases hid : id = approvalId
  swap
  · exact advances_of_other hw hid (isQuiet_of_ne (by rw [hcommand]; exact Ne.symm hid))
  subst hid
  cases h with
  | record h hrecord =>
    cases h with
    | requested hnew hstatus =>
      obtain ⟨hof, -⟩ := approvalRecord_eq_ok hrecord (by rw [hstatus]; rfl)
      exact advances_of_requested hw (show ("REQUESTED" : Text) ≠ "CONSUMED" by decide) hnew hstatus hof
    | moved ha hmoves hnot hreason =>
      obtain ⟨hof, -⟩ := approvalRecord_eq_ok hrecord rfl
      exact advances_of_moved hw hreason (hcommand ▸ ha) hmoves hnot hof
    | consumed ha hopen hfirst =>
      obtain ⟨hof, -, hshadow⟩ := approvalRecord_eq_ok hrecord (by rw [hfirst.parts.2.1]; rfl)
      rw [← hcommand]
      exact advances_of_consumed hw ha hopen hfirst hof hshadow
    | consumedAgain ha hopen hprevious =>
      -- a consumption that the file does not have could not be recorded, and cannot be now
      obtain ⟨hof, -⟩ := approvalRecord_eq_ok hrecord (by rw [(hw.registry _ _ hprevious).2]; rfl)
      have hzero := phase_of_notConsumed hw hopen
      rw [← (hw.approvals _ _ ha).1] at hzero
      rcases hregistry _ _ hprevious with hphase | hnot
      · omega
      · exact absurd hof.fits hnot
  | mark h =>
    cases h with
    | claimed ha hbefore hconsumed hshadow =>
      obtain ⟨hvalue, -⟩ := consumed_of_marked hw hbefore (Or.inl ⟨_, ha, hconsumed⟩)
      simp only [List.mem_cons, List.not_mem_nil, or_false, not_or] at hshadow
      refine advances_of_marked hw hbefore (Or.inl ⟨_, ha, hconsumed⟩) rfl rfl ?_
      have hone := phase_eq_one hvalue hshadow
      refine ⟨?_, iff_of_true (decide_eq_true ⟨rfl, rfl⟩) hone, iff_of_false (by rintro ⟨⟩) ?_, ?_⟩
      · rw [hone]
        exact phase_eq_two hvalue rfl
      · omega
      · omega
    | completed ha hbefore hshadow =>
      refine advances_of_marked hw hbefore (Or.inr (by rw [hshadow]; exact Option.some_ne_none _))
        rfl rfl ?_
      obtain ⟨hvalue, -⟩ := consumed_of_marked hw hbefore
        (Or.inr (by rw [hshadow]; exact Option.some_ne_none _))
      have htwo := phase_eq_two hvalue hshadow
      refine ⟨?_, iff_of_false (by rintro ⟨⟩) ?_, iff_of_true (decide_eq_true ⟨rfl, rfl⟩) htwo, ?_⟩
      · rw [htwo]
        exact phase_eq_three hvalue rfl
      · omega
      · omega

/-! ### The invariant -/

omit [Hashlib] in
/-- A consumption that the registry of a handle remembers is in the file, or cannot be recorded. -/
def Remembers (file : Option StateFile) (held : ManualTestApprovalStore) : Prop :=
  ∀ id entry, held.registry.consumed.get? id = some entry →
    entry.consumed.fields.approvalId = id ∧ entry.consumed.fields.status = .CONSUMED
      ∧ (1 ≤ phase file id ∨ ¬ entry.consumed.FitsStr)

omit [Hashlib] in
/-- What holds between the commands of handles whose writes do not fail. -/
structure Consistent (w : World) : Prop where
  sound : ∀ content ∈ w.file, Sound content
  absent : w.file = none → ∀ held ∈ w.handles, held.durable = .empty ∧
    ∀ id a, held.approvals.get? id = some a → a.fields.approvalId = id ∧ ¬ a.FitsStr
  registry : ∀ held ∈ w.handles, Remembers w.file held

/-- **A command whose writes do not fail.** -/
theorem advances_of_called (hw : Working isPrintable file s) (hregistry : Remembers file s)
    (h : Called s command false file outcome file' s') (id : EntityId) :
    Advances isPrintable file file' command outcome id := by
  cases h with
  | raised => exact advances_of_same isQuiet_of_error rfl rfl
  | answered h => exact advances_of_same (isQuiet_of_answers h) rfl rfl
  | unrecordable h hnot => exact advances_of_same isQuiet_of_error rfl rfl
  | failed hfails h => cases hfails
  | written h => exact advances_of_writes hw (fun id entry hentry => (hregistry id entry hentry).2.2) h id

omit [Hashlib] in
/-- What a handle has in memory after it has read the file. -/
theorem working_of_reloaded {file : Option StateFile} {held : ManualTestApprovalStore}
    (hsound : ∀ content ∈ file, Sound content)
    (habsent : file = none → held.durable = .empty ∧
      ∀ id a, held.approvals.get? id = some a → a.fields.approvalId = id ∧ ¬ a.FitsStr)
    (hregistry : ∀ id entry, held.registry.consumed.get? id = some entry →
      entry.consumed.fields.approvalId = id ∧ entry.consumed.fields.status = .CONSUMED)
    (h : held.reloaded isPrintable file = .ok s) :
    Working isPrintable file s ∧ s.registry = held.registry := by
  rcases hfile : file with _ | content
  · rw [hfile] at h
    obtain rfl := Except.ok.inj h
    obtain ⟨hdurable, happrovals⟩ := habsent hfile
    refine ⟨⟨hdurable, by rintro _ ⟨⟩, fun id a ha => ?_, hregistry⟩, rfl⟩
    exact ⟨(happrovals id a ha).1, fun hne => absurd rfl hne, fun _ => (happrovals id a ha).2⟩
  · rw [hfile] at h
    have hcontent := hsound content hfile
    have hloaded := loaded_of_load hcontent h
    refine ⟨⟨hloaded.durable, by rintro _ ⟨⟩; exact hcontent, fun id a ha => ?_, ?_⟩,
      hloaded.registry⟩
    · rw [hloaded.approvals] at ha
      refine ⟨?_, fun _ => ha, by rintro ⟨⟩⟩
      obtain ⟨r, hr, hparsed⟩ := Option.bind_eq_some_iff.mp ha
      obtain ⟨b, hof, hkey, hread⟩ := hcontent _ r hr
      rw [hof.parsed hread] at hparsed
      rcases hback : b.readBack with e | a'
      · rw [hback] at hparsed
        cases hparsed
      · rw [hback] at hparsed
        rw [← Option.some.inj hparsed, (readBack_facts hback).1, EntityId.str_inj hkey]
    · rw [hloaded.registry]
      exact hregistry

/-- A record that could not be made is one of an approval beyond the limit of `str`. -/
theorem not_fits_of_unrecordable (hw : Working isPrintable file s) (hregistry : Remembers file s) {status : Text} {basisId : Option EntityId} {scope : Option ConsumeCommand}
    (h : Ends s command (.records b status basisId scope result) registry)
    (hnot : ¬ IsRecordable b scope) : b.fields.approvalId = command.approvalId ∧ ¬ b.FitsStr := by
  cases h with
  | requested hnew hstatus => exact ⟨rfl, fun hfits => hnot ⟨hfits, by rintro _ ⟨⟩⟩⟩
  | moved ha hmoves hne hreason =>
    refine ⟨?_, fun hfits => hnot ⟨hfits, by rintro _ ⟨⟩⟩⟩
    rw [hmoves.terms.approvalId, (hw.approvals _ _ ha).1]
  | consumed ha hopen hfirst =>
    refine ⟨?_, fun hfits => hnot ⟨hfits, ?_⟩⟩
    · rw [hfirst.parts.1.terms.approvalId, (hw.approvals _ _ ha).1]
      rfl
    · rintro _ ⟨⟩
      rw [hfirst.covers.2.1]
      exact (fits_of_movesTo hfirst.parts.1 hfits).planVersion
  | consumedAgain ha hopen hprevious =>
    obtain ⟨hid, -, hremembered⟩ := hregistry _ _ hprevious
    refine ⟨hid.trans (hw.approvals _ _ ha).1, ?_⟩
    have hzero := phase_of_notConsumed hw hopen
    rw [← (hw.approvals _ _ ha).1] at hzero
    exact hremembered.resolve_left (by omega)

theorem consumed_of_ends (hregistry : Remembers file s) {status : Text} {scope : ConsumeCommand}
    (h : Ends s command (.records b status (some basisId) (some scope) result) registry) :
    b.fields.status = .CONSUMED := by
  cases h with
  | consumed ha hopen hfirst => exact hfirst.parts.2.1
  | consumedAgain ha hopen hprevious => exact (hregistry _ _ hprevious).2.1

theorem remembers_of_ends (hregistry : Remembers file s)
    {ending : ManualEnd} (h : Ends s command ending registry)
    (hmono : ∀ id, phase file id ≤ phase file' id)
    (hnew : ∀ (entry : ConsumedApproval) basisId consumeScope, ending = .records entry.consumed "CONSUMED" (some basisId)
        (some consumeScope) ⟨entry.consumed, true, "CONSUMED", some entry.basis⟩ →
      1 ≤ phase file' entry.consumed.fields.approvalId ∨ ¬ entry.consumed.FitsStr)
    (approvals : Dict EntityId PlanApproval) (durable : Dict Text ManualRecord) :
    Remembers file' ⟨registry, approvals, durable⟩ := by
  have hold : Remembers file' s := by
    intro id entry hentry
    obtain ⟨hid, hstatus, hremembered⟩ := hregistry id entry hentry
    exact ⟨hid, hstatus, hremembered.imp_left fun hphase => hphase.trans (hmono id)⟩
  cases h with
  | consumed ha hopen hfirst =>
    intro id entry hentry
    rw [Dict.get?_set] at hentry
    split at hentry
    · rename_i hid
      obtain rfl := Option.some.inj hentry
      obtain ⟨hmoves, hstatus, -⟩ := hfirst.parts
      have happrovalId := hmoves.terms.approvalId.trans hid.symm
      refine ⟨happrovalId, hstatus, ?_⟩
      have hremembered := hnew _ _ _ rfl
      rw [happrovalId] at hremembered
      exact hremembered
    · exact hold id entry hentry
  | _ => exact hold

/-! ### Runs -/

omit [Hashlib] in
/-- A write of the event fails. -/
def Event.fails : Event → Bool
  | .opened => false
  | .call _ _ fails => fails

omit [Hashlib] in
theorem consistent_start : Consistent start where
  sound := by rintro _ ⟨⟩
  absent := by rintro - _ ⟨⟩
  registry := by rintro _ ⟨⟩

omit [Hashlib] in
theorem consistent_of_opened (hw : Consistent w) {s : ManualTestApprovalStore}
    (h : new.reloaded isPrintable w.file = .ok s) :
    Consistent { w with handles := w.handles ++ [s] } := by
  have hnone : ∀ id entry, ¬ new.registry.consumed.get? id = some entry := by rintro id entry ⟨⟩
  obtain ⟨hworking, hregistry⟩ := working_of_reloaded hw.sound
    (fun _ => ⟨rfl, by rintro id a ⟨⟩⟩) (fun id entry hentry => absurd hentry (hnone id entry)) h
  refine ⟨hw.sound, fun hfile held hmem => ?_, fun held hmem => ?_⟩
  · rcases List.mem_append.mp hmem with hmem | hmem
    · exact hw.absent hfile held hmem
    · obtain rfl := List.mem_singleton.mp hmem
      refine ⟨by rw [hworking.durable, hfile, Option.getD_none], fun id a ha => ?_⟩
      obtain ⟨hid, -, hnot⟩ := hworking.approvals id a ha
      exact ⟨hid, hnot hfile⟩
  · rcases List.mem_append.mp hmem with hmem | hmem
    · exact hw.registry held hmem
    · obtain rfl := List.mem_singleton.mp hmem
      intro id entry hentry
      rw [hregistry] at hentry
      exact absurd hentry (hnone id entry)

/-- The file after a command is sound, and the memory without a file holds what cannot be
recorded. -/
theorem absent_of_called (hw : Working isPrintable file s) (hregistry : Remembers file s)
    (h : Called s command false file outcome file' s') : (∀ content ∈ file', Sound content)
      ∧ (file' = none → file = none ∧ s'.durable = .empty ∧
          ∀ id a, s'.approvals.get? id = some a → a.fields.approvalId = id ∧ ¬ a.FitsStr) := by
  have hheld : file = none → s.durable = .empty
      ∧ ∀ id a, s.approvals.get? id = some a → a.fields.approvalId = id ∧ ¬ a.FitsStr := by
    intro hfile
    refine ⟨by rw [hw.durable, hfile, Option.getD_none], fun id a ha => ?_⟩
    obtain ⟨hid, -, hnot⟩ := hw.approvals id a ha
    exact ⟨hid, hnot hfile⟩
  cases h with
  | raised => exact ⟨hw.sound, fun hfile => ⟨hfile, hheld hfile⟩⟩
  | answered h => exact ⟨hw.sound, fun hfile => ⟨hfile, hheld hfile⟩⟩
  | unrecordable h hnot =>
    refine ⟨hw.sound, fun hfile => ⟨hfile, (hheld hfile).1, fun id a ha => ?_⟩⟩
    rw [Dict.get?_set] at ha
    split at ha
    · rename_i hid
      obtain rfl := Option.some.inj ha
      obtain ⟨happrovalId, hfits⟩ := not_fits_of_unrecordable hw hregistry h hnot
      exact ⟨happrovalId.trans hid.symm, hfits⟩
    · exact (hheld hfile).2 id a ha
  | failed hfails h => cases hfails
  | written h =>
    refine ⟨?_, by rintro ⟨⟩⟩
    rintro _ ⟨⟩
    exact hw.sound_written h

/-- What the registry of a handle remembers after its command. -/
theorem remembers_of_called (hw : Working isPrintable file s) (hregistry : Remembers file s)
    (h : Called s command false file outcome file' s') : Remembers file' s' := by
  have hadvances := advances_of_called hw hregistry h
  have hmono : ∀ id, phase file id ≤ phase file' id := fun id => by
    rcases (hadvances id).step with hstep | hstep <;> omega
  cases h with
  | raised => exact hregistry
  | answered h => exact hregistry
  | unrecordable h hnot =>
    refine remembers_of_ends hregistry h hmono (fun entry basisId scope hending => Or.inr ?_) _ _
    injection hending with hb hstatus hbasisId hscope hresult
    subst hb
    exact (not_fits_of_unrecordable hw hregistry h hnot).2
  | failed hfails h => cases hfails
  | written h =>
    cases h with
    | mark h => exact remembers_of_ends hregistry h hmono (by rintro _ _ _ ⟨⟩) _ _
    | record h hrecord =>
      refine remembers_of_ends hregistry h hmono (fun entry basisId scope hending => Or.inl ?_) _ _
      injection hending with hb hstatus hbasisId hscope hresult
      subst hb hbasisId hscope
      -- the file has the record of a consumption
      have hconsumed := consumed_of_ends hregistry h
      have hof := (approvalRecord_eq_ok hrecord (by rw [hconsumed, hstatus]; rfl)).1
      have hvalue := hof.reread.status
      rw [hconsumed] at hvalue
      rw [phase, record?_written hw, if_pos rfl, Option.map_some, Option.getD_some,
        ManualRecord.phase, if_neg (not_not.mpr hvalue)]
      split
      · decide
      · split <;> decide

theorem consistent_of_call (isPrintable : CodePoint → Bool) (hw : Consistent w) (handle : ℕ) (command : ManualCommand) :
    Consistent (step isPrintable w (.call handle command false)).2
      ∧ ∀ id, Advances isPrintable w.file (step isPrintable w (.call handle command false)).2.file
          command (step isPrintable w (.call handle command false)).1 id := by
  rw [step]
  rcases hheld : w.handles[handle]? with _ | held
  · exact ⟨hw, fun id => advances_of_same isQuiet_of_error rfl rfl⟩
  have hmem := List.mem_of_getElem? hheld
  rcases hreloaded : held.reloaded isPrintable w.file with e | s
  · dsimp only
    rw [hreloaded]
    exact ⟨hw, fun id => advances_of_same isQuiet_of_error rfl rfl⟩
  dsimp only
  rw [hreloaded]
  dsimp only
  obtain ⟨hworking, hregistry⟩ := working_of_reloaded hw.sound (fun hfile => hw.absent hfile held hmem)
    (fun id entry hentry => ⟨(hw.registry held hmem id entry hentry).1,
      (hw.registry held hmem id entry hentry).2.1⟩) hreloaded
  have hremembers : Remembers w.file s := by
    rw [Remembers, hregistry]
    exact hw.registry held hmem
  obtain ⟨s', hhandles, hcalled⟩ := called_of_callOn hworking (Prod.ext rfl rfl :
    callOn w handle s command false = ((callOn w handle s command false).1,
      (callOn w handle s command false).2))
  have hadvances := advances_of_called hworking hremembers hcalled
  obtain ⟨hsound, habsent⟩ := absent_of_called hworking hremembers hcalled
  refine ⟨⟨hsound, fun hfile other hother => ?_, fun other hother => ?_⟩, hadvances⟩
  · obtain ⟨hbefore, hs'⟩ := habsent hfile
    rw [hhandles] at hother
    rcases List.mem_or_eq_of_mem_set hother with hother | rfl
    · exact hw.absent hbefore other hother
    · exact hs'
  · rw [hhandles] at hother
    rcases List.mem_or_eq_of_mem_set hother with hother | rfl
    · intro id entry hentry
      obtain ⟨hid, hstatus, hremembered⟩ := hw.registry other hother id entry hentry
      refine ⟨hid, hstatus, hremembered.imp_left fun hphase => hphase.trans ?_⟩
      rcases (hadvances id).step with hstep | hstep <;> omega
    · exact remembers_of_called hworking hremembers hcalled

/-- The events of a history that a command and its answer are asked of. -/
def tells (asked : ManualCommand → Py (Option ManualAnswer) → Bool) :
    World × Event × Py (Option ManualAnswer) → Bool
  | (_, .call _ command _, outcome) => asked command outcome
  | (_, .opened, _) => false

/-- The answers that an approval's record has had. -/
structure Counted (history : List (World × Event × Py (Option ManualAnswer))) (w : World) : Prop where
  consistent : Consistent w
  consumes : ∀ id, history.countP (tells (consumes id)) = if 1 ≤ phase w.file id then 1 else 0
  claims : ∀ id, history.countP (tells (claims id)) = if 2 ≤ phase w.file id then 1 else 0
  completes : ∀ id, history.countP (tells (completes id)) = if 3 ≤ phase w.file id then 1 else 0

omit [Hashlib] in
/-- One more answer is counted when the phase reaches it. -/
theorem countP_concat {asked : ManualCommand → Py (Option ManualAnswer) → Bool}
    {history : List (World × Event × Py (Option ManualAnswer))} {handle : ℕ} {before after n : ℕ}
    (hcount : history.countP (tells asked) = if n + 1 ≤ before then 1 else 0)
    (hstep : after = before ∨ after = before + 1)
    (hasked : asked command outcome = true ↔ before = n ∧ after = n + 1) :
    (history ++ [(w, Event.call handle command false, outcome)]).countP (tells asked)
      = if n + 1 ≤ after then 1 else 0 := by
  rw [List.countP_append, hcount, List.countP_singleton]
  change (if n + 1 ≤ before then 1 else 0) + (if asked command outcome = true then 1 else 0) = _
  by_cases hreached : before = n ∧ after = n + 1
  · rw [if_pos (hasked.mpr hreached), if_neg (by omega), if_pos (by omega)]
  · rw [if_neg (mt hasked.mp hreached), Nat.add_zero]
    by_cases hbefore : n + 1 ≤ before
    · rw [if_pos hbefore, if_pos (by omega)]
    · rw [if_neg hbefore, if_neg (by omega)]

theorem counted_step {history : List (World × Event × Py (Option ManualAnswer))}
    {event : Event} (hfails : event.fails = false) (h : Counted history w) :
    Counted (history ++ [(w, event, (machine isPrintable).out w event)])
      ((machine isPrintable).next w event) := by
  rcases event with _ | ⟨handle, command, fails⟩
  · have hnext : Consistent (step isPrintable w .opened).2
        ∧ (step isPrintable w .opened).2.file = w.file := by
      rw [step]
      rcases hreloaded : new.reloaded isPrintable w.file with e | s
      · exact ⟨h.consistent, rfl⟩
      · exact ⟨consistent_of_opened h.consistent hreloaded, rfl⟩
    refine ⟨hnext.1, fun id => ?_, fun id => ?_, fun id => ?_⟩
    · rw [List.countP_append, h.consumes, Machine.next, machine, hnext.2]
      rfl
    · rw [List.countP_append, h.claims, Machine.next, machine, hnext.2]
      rfl
    · rw [List.countP_append, h.completes, Machine.next, machine, hnext.2]
      rfl
  · obtain rfl : fails = false := hfails
    obtain ⟨hconsistent, hadvances⟩ := consistent_of_call isPrintable h.consistent handle
      command
    refine ⟨hconsistent, fun id => ?_, fun id => ?_, fun id => ?_⟩
    · exact countP_concat (h.consumes id) (hadvances id).step (hadvances id).consumes
    · exact countP_concat (h.claims id) (hadvances id).step (hadvances id).claims
    · exact countP_concat (h.completes id) (hadvances id).step (hadvances id).completes

/-- The handles of a run whose writes do not fail agree with the file. -/
theorem counted_of_run (isPrintable : CodePoint → Bool) {events : List Event} (hfails : ∀ event ∈ events, event.fails = false) :
    Counted ((machine isPrintable).trace start events) ((machine isPrintable).exec start events) := by
  refine (machine isPrintable).trace_invariant_of_meets (P := fun _ event => event.fails = false)
    (fun history w event => counted_step) ?_ ((machine isPrintable).meets_of_forall_mem
      fun event hmem _ => hfails event hmem)
  refine ⟨consistent_start, fun id => ?_, fun id => ?_, fun id => ?_⟩ <;> rfl

/-- What a step of the store does to a stored approval. -/
structure StepKeeps (isPrintable : CodePoint → Bool) (w w' : World) (event : Event)
    (outcome : Py (Option ManualAnswer)) (approvalId : EntityId) : Prop where
  /-- it keeps its terms, and its status stays or moves -/
  stored : ∀ a, stored isPrintable w.file approvalId = some a →
    ∃ a', ManualTestApprovalStore.stored isPrintable w'.file approvalId = some a' ∧ SameTerms a a'
      ∧ (a'.fields.status = a.fields.status ∨ a.fields.status.CanMove a'.fields.status)
  /-- a basis is within its scope -/
  basis : tells (consumes approvalId) (w, event, outcome) = true →
    ∃ a r basis, ManualTestApprovalStore.stored isPrintable w.file approvalId = some a
      ∧ outcome = .ok (some (.result r)) ∧ r.basis = some basis ∧ IsWithin basis a

/-- **An approval moves once.** -/
theorem approvals_move_once (isPrintable : CodePoint → Bool) (events : List Event)
    (hfails : ∀ event ∈ events, event.fails = false) (approvalId : EntityId) :
    let history := (machine isPrintable).trace start events
    (∀ entry ∈ history, StepKeeps isPrintable entry.1 ((machine isPrintable).next entry.1 entry.2.1)
        entry.2.1 entry.2.2 approvalId)
      ∧ history.countP (tells (completes approvalId)) ≤ history.countP (tells (claims approvalId))
      ∧ history.countP (tells (claims approvalId)) ≤ history.countP (tells (consumes approvalId))
      ∧ history.countP (tells (consumes approvalId)) ≤ 1 := by
  intro history
  refine ⟨fun entry hentry => ?_, ?_⟩
  · obtain ⟨before, after, hhistory⟩ := List.append_of_mem hentry
    obtain ⟨js, event, ks, rfl, -, rfl, -⟩ := (machine isPrintable).trace_eq_append_cons hhistory
    have hconsistent := (counted_of_run isPrintable
      fun event (hmem : event ∈ js) => hfails event (List.mem_append_left _ hmem)).consistent
    have hevent := hfails event (List.mem_append_right _ List.mem_cons_self)
    generalize (machine isPrintable).exec start js = w at hconsistent ⊢
    rcases event with _ | ⟨handle, command, fails⟩
    · have hfile : (step isPrintable w .opened).2.file = w.file := by
        rw [step]
        rcases new.reloaded isPrintable w.file with e | s <;> rfl
      refine ⟨fun a ha => ⟨a, ?_, .refl a, Or.inl rfl⟩, by rintro ⟨⟩⟩
      rw [Machine.next, machine, hfile]
      exact ha
    · obtain rfl : fails = false := hevent
      have hadvances := (consistent_of_call isPrintable hconsistent handle command).2
        approvalId
      exact ⟨hadvances.stored, hadvances.basis⟩
  · have hcounted := counted_of_run isPrintable hfails
    have hconsumes := hcounted.consumes approvalId
    have hclaims := hcounted.claims approvalId
    have hcompletes := hcounted.completes approvalId
    change history.countP _ = _ at hconsumes hclaims hcompletes
    rw [hconsumes, hclaims, hcompletes]
    split <;> split <;> split <;> omega

end

/-- An approval that no command has requested. -/
theorem approvals_move_once_expire :
    let now : RecordedAt := ⟨.of 2026 7 13 (Eq.refl true), 9, 0, 0, 0⟩
    let history := (machine fun _ => true).trace start
      [.opened, .call 0 (.expire (.epoch "approval" 0 0 (Eq.refl true)) now) false]
    history.countP (tells (consumes (.epoch "approval" 0 0 (Eq.refl true)))) ≤ 1 :=
  (approvals_move_once (fun _ => true) _ (by
    intro event hmem
    simp only [List.mem_cons, List.not_mem_nil, or_false] at hmem
    rcases hmem with rfl | rfl <;> rfl) _).2.2.2

end ManualTestApprovalStore

end FuturesAgentOs
