import FuturesAgentOs.Decision.ManualTestDurability

namespace PyModel.Json

mutual

/-- `_canonical_json_value` accepts what `json.loads` gave: it makes lists, and tuples are asked. -/
def isListFree : Json → Bool
  | arr _ => false
  | obj items => membersListFree items
  | _ => true

/-- `isListFree` of every member. -/
def membersListFree : List (Text × Json) → Bool
  | [] => true
  | p :: ps => p.2.isListFree && membersListFree ps

end

/-- Python's `==` on two dicts. -/
def SameObject (u v : Json) : Prop :=
  ∃ items items', u = .obj items ∧ v = .obj items' ∧ ∀ key, lookup key items = lookup key items'

theorem lookup_putBack {items : List (Text × Json)} {key : Text} {value : Json}
    (h : lookup key items = some value) (k : Text) :
    lookup k (items.filter (fun p => p.1 ≠ key) ++ [(key, value)]) = lookup k items := by
  rw [lookup, List.find?_append, List.find?_filter]
  by_cases hk : k = key
  · subst hk
    rw [List.find?_eq_none.mpr (by simp), Option.none_or, h]
    simp
  · rw [lookup]
    congr 1
    have hlast : [(key, value)].find? (fun p => decide (p.1 = k)) = none := by simp [Ne.symm hk]
    rw [hlast, Option.or_none]
    congr 1
    funext p
    by_cases hp : p.1 = k <;> simp [hp, hk]

end PyModel.Json

namespace FuturesAgentOs

open PyModel

/-!
# The shadow reports of the manual approval store

`complete_shadow` stores the report of a run, and `shadow_report` reads it.

* `readReport_iff` — which reports are read ever after.
-/

namespace ManualTestApprovalStore

section

variable [Hashlib]

/-- `canonical_sha256` of what `json.loads` gave. -/
def loadedSha256 (value : Json) : Py Text := do
  require (value.isListFree = true) (valueError "value must be finite JSON-compatible data")
  canonicalSha256 value

/-- `result.pop("report_hash", None)` -/
def withoutHash (items : List (Text × Json)) : List (Text × Json) :=
  items.filter fun p => p.1 ≠ ("report_hash" : Text)

/-- What `shadow_report` makes of the report of a completed run. -/
def verifiedReport : Option Json → Py Json
  | some (.obj items) =>
    match Json.lookup "report_hash" items with
    | some (.str digest) => do
      let recomputed ← loadedSha256 (.obj (withoutHash items))
      require (recomputed = digest) (valueError "completed shadow report hash mismatch")
      .ok (.obj (withoutHash items ++ [(("report_hash" : Text), Json.str digest)]))
    | _ => .error (valueError "completed shadow report hash mismatch")
  | _ => .error (valueError "completed shadow has no persisted report")

def shadowReport (s : ManualTestApprovalStore) (approvalId : EntityId) : Py (Option Json) := do
  let _ ← s.required approvalId
  match s.durable.get? approvalId.str with
  | none => .ok none
  | some record =>
    if record.shadowStatus ≠ some "COMPLETED" then .ok none
    else (verifiedReport record.shadowReport).map some

/-- `shadow_report` of a handle.  It writes nothing, and what it reads is read again by the next
command of the handle. -/
def readReport (isPrintable : CodePoint → Bool) (file : Option StateFile)
    (held : ManualTestApprovalStore) (approvalId : EntityId) : Py (Option Json) := do
  let s ← held.reloaded isPrintable file
  s.shadowReport approvalId

/-- The report is a dict that carries the digest of the rest of it. -/
def Verifies (report : Json) : Prop :=
  ∃ items digest, report = .obj items ∧ Json.lookup "report_hash" items = some (.str digest)
    ∧ loadedSha256 (.obj (withoutHash items)) = .ok digest

omit [Hashlib] in
/-- The run of the approval is completed, with this report. -/
def Committed (file : Option StateFile) (approvalId : EntityId) (report : Json) : Prop :=
  ∃ r, record? file approvalId = some r ∧ r.status = PlanApprovalStatus.CONSUMED.value
    ∧ r.shadowStatus = some "COMPLETED" ∧ r.shadowReport = some report

section

variable {isPrintable : CodePoint → Bool} {s : ManualTestApprovalStore} {file : Option StateFile}
  {command : ManualCommand} {approvalId : EntityId} {r : ManualRecord} {answer : ManualAnswer}
  {registry : PlanApprovalRegistry} {copied : Json} {w : World} {event : Event}

/-- **When a stored report is read**, and then it is the one that was stored. -/
theorem verifiedReport_iff :
    (∃ result, verifiedReport (some copied) = .ok result ∧ result.SameObject copied)
      ↔ Verifies copied := by
  constructor
  · rintro ⟨result, h, -⟩
    unfold verifiedReport at h
    split at h
    · rename_i items hitems
      split at h
      · rename_i digest hdigest
        obtain ⟨recomputed, hrecomputed, h⟩ := Py.of_bind h
        obtain ⟨rfl, -⟩ := of_require h
        exact ⟨items, recomputed, Option.some.inj hitems, hdigest, hrecomputed⟩
      · cases h
    · cases h
  · rintro ⟨items, digest, rfl, hdigest, hrecomputed⟩
    refine ⟨.obj (withoutHash items ++ [(("report_hash" : Text), Json.str digest)]), ?_, _, _, rfl, rfl,
      Json.lookup_putBack hdigest⟩
    simp only [verifiedReport, hdigest, hrecomputed, Py.ok_bind, require_of_pos]

/-- **The record of a completed run is not written again.** -/
theorem not_writes_of_completed (hw : Working isPrintable file s)
    (hrecord : record? file approvalId = some r)
    (hconsumed : r.status = PlanApprovalStatus.CONSUMED.value)
    (hshadow : r.shadowStatus = some "COMPLETED") {after : ManualRecord} :
    ¬ Writes s command approvalId after answer registry := by
  intro h
  have hget := (get?_durable hw approvalId).trans hrecord
  have hopen : ¬ NotConsumed (s.durable.get? approvalId.str) := fun h => h r hget hconsumed
  have hcommand := approvalId_of_writes hw h
  cases h with
  | record h hafter =>
    have hof := approvalRecord_eq_ok hafter
    cases h with
    | requested hnew hstatus => rw [hget] at hnew; cases hnew
    | @moved _ a _ _ _ ha hmoves hnot hreason =>
      rw [hcommand] at ha
      obtain ⟨-, ⟨before, hbefore, hstatus⟩, -⟩ := stored_of_movesTo hw ha hmoves (hof rfl).1
      obtain rfl := Option.some.inj (hrecord.symm.trans hbefore)
      have hvalue := a.fields.status.ofValue_value
      rw [← hstatus, hconsumed, PlanApprovalStatus.ofValue_value] at hvalue
      have hmove := hmoves.move
      rw [← Except.ok.inj hvalue] at hmove
      exact hmove
    | consumed ha hnot hfirst => exact hopen (hcommand ▸ hnot)
    | consumedAgain ha hnot hprevious => exact hopen (hcommand ▸ hnot)
  | mark h =>
    cases h with
    | claimed ha hbefore hconsumed hnot =>
      obtain rfl := Option.some.inj (hget.symm.trans hbefore)
      exact hnot (by rw [hshadow]; decide)
    | completed ha hbefore hclaimed =>
      obtain rfl := Option.some.inj (hget.symm.trans hbefore)
      rw [hshadow] at hclaimed
      exact absurd (Option.some.inj hclaimed) (by decide)

theorem writes_of_step (hw : Legible isPrintable w) (hreread : IsReread w event) :
    ((step isPrintable w event).2.file = w.file
        ∧ (step isPrintable w event).1 ≠ .ok (some (.flag true)))
      ∨ ∃ handle command fails s approvalId r answer registry, event = .call handle command fails
        ∧ Working isPrintable w.file s ∧ Writes s command approvalId r answer registry
        ∧ (step isPrintable w event).1 = .ok (some answer)
        ∧ (step isPrintable w event).2.file = some (written s.durable approvalId r) := by
  rcases event with _ | ⟨handle, command, fails⟩
  · rw [step]
    rcases new.reloaded isPrintable w.file with e | opened
    · exact Or.inl ⟨rfl, by simp⟩
    · exact Or.inl ⟨rfl, by simp⟩
  rw [step]
  rcases hheld : w.handles[handle]? with _ | held
  · exact Or.inl ⟨rfl, by simp⟩
  dsimp only
  rcases hreloaded : held.reloaded isPrintable w.file with e | s
  · exact Or.inl ⟨rfl, by simp⟩
  dsimp only
  have hworking := (working_of_isReread hw (List.mem_of_getElem? hheld)
    (fun hnone => hreread.1 hnone held hheld) hreloaded).1
  obtain ⟨s', -, hcalled⟩ := called_of_callOn hworking (Prod.ext rfl rfl :
    callOn w handle s command fails = ((callOn w handle s command fails).1,
      (callOn w handle s command fails).2))
  generalize callOn w handle s command fails = result at hcalled
  obtain ⟨outcome, w'⟩ := result
  dsimp only at hcalled ⊢
  generalize w'.file = file' at hcalled ⊢
  cases hcalled with
  | raised => exact Or.inl ⟨rfl, by simp⟩
  | unrecordable h hnot => exact Or.inl ⟨rfl, by simp⟩
  | failed hfails h => exact Or.inl ⟨rfl, by simp⟩
  | answered h =>
    refine Or.inl ⟨rfl, ?_⟩
    cases h <;> simp
  | written h => exact Or.inr ⟨handle, command, fails, s, _, _, _, _, rfl, hworking, h, rfl, rfl⟩

/-- **A stored report stays.** -/
theorem committed_step (hw : Legible isPrintable w) (hreread : IsReread w event)
    (h : Committed w.file approvalId copied) :
    Committed (step isPrintable w event).2.file approvalId copied := by
  rcases writes_of_step hw hreread with ⟨hfile, -⟩
    | ⟨handle, command, fails, s, writtenId, after, answer, registry, -, hworking, hwrites, -, hfile⟩
  · rw [hfile]
    exact h
  obtain ⟨r, hrecord, hconsumed, hshadow, hreport⟩ := h
  have hafter := record?_written hworking writtenId after approvalId
  by_cases hid : approvalId = writtenId
  · subst hid
    exact absurd hwrites (not_writes_of_completed hworking hrecord hconsumed hshadow)
  · rw [if_neg hid, hrecord] at hafter
    exact ⟨r.reread, hfile ▸ hafter, hconsumed, hshadow, hreport⟩

theorem committed_of_completed (hw : Legible isPrintable w) {handle : ℕ} {now : RecordedAt}
    {report : ShadowReport} {fails : Bool}
    (hreread : IsReread w (.call handle (.completeShadow approvalId now report) fails))
    (hdone : (step isPrintable w (.call handle (.completeShadow approvalId now report) fails)).1
      = .ok (some (.flag true))) (hcopied : report.copied = .ok copied) :
    Committed (step isPrintable w (.call handle (.completeShadow approvalId now report) fails)).2.file
      approvalId copied := by
  rcases writes_of_step hw hreread with ⟨-, hnot⟩
    | ⟨_, _, _, s, writtenId, after, answer, registry, hevent, hworking, hwrites, houtcome, hfile⟩
  · exact absurd hdone hnot
  cases hevent
  obtain rfl : answer = .flag true :=
    (Option.some.inj (Except.ok.inj (hdone.symm.trans houtcome))).symm
  have hafter := record?_written hworking writtenId after writtenId
  rw [if_pos rfl] at hafter
  rw [hfile]
  cases hwrites with
  | mark h =>
    cases h with
    | completed ha hrecord hshadow hreport =>
      obtain rfl := Except.ok.inj (hcopied.symm.trans hreport)
      have hstatus := (consumed_of_marked hworking hrecord
        (Or.inr (by rw [hshadow]; exact Option.some_ne_none _))).1
      exact ⟨_, hafter, hstatus, rfl, rfl⟩

theorem readReport_of_committed (hw : Legible isPrintable w) (h : Committed w.file approvalId copied)
    (held : ManualTestApprovalStore) :
    readReport isPrintable w.file held approvalId = (verifiedReport (some copied)).map some := by
  obtain ⟨r, hrecord, -, hshadow, hreport⟩ := h
  rcases hfile : w.file with _ | content
  · rw [hfile] at hrecord
    cases hrecord
  have hsound := hw.sound content hfile
  have hreadable := hw.readable content hfile
  rw [hfile] at hrecord
  obtain ⟨s, hs⟩ := exists_load hsound hreadable held
  have hloaded := loaded_of_load hsound hs
  obtain ⟨a, ha⟩ := hreadable _ r hrecord
  have happroval : s.approvals.get? approvalId = some a := by
    rw [hloaded.approvals, stored, hrecord, Option.bind_some, ha]
    rfl
  have hget : s.durable.get? approvalId.str = some r := hloaded.durable ▸ hrecord
  rw [readReport, reloaded, hs, Py.ok_bind, shadowReport, required_eq_ok.mpr happroval, Py.ok_bind,
    hget]
  dsimp only
  rw [if_neg (not_not.mpr hshadow), hreport]

end

/-- **A completed run is read ever after**, by every handle, if and only if its report carries its own
digest: in runs whose commands are given to handles that hold what the file does. -/
theorem readReport_iff (isPrintable : CodePoint → Bool) {before after : List Event} {handle : ℕ}
    {approvalId : EntityId} {now : RecordedAt} {report : ShadowReport} {fails : Bool} {copied : Json}
    (hreread : (machine isPrintable).Meets IsReread start
      (before ++ .call handle (.completeShadow approvalId now report) fails :: after))
    (hdone : (machine isPrintable).out ((machine isPrintable).exec start before)
      (.call handle (.completeShadow approvalId now report) fails) = .ok (some (.flag true)))
    (hcopied : report.copied = .ok copied) :
    let w := (machine isPrintable).exec start
      (before ++ .call handle (.completeShadow approvalId now report) fails :: after)
    (∀ held ∈ new :: w.handles, ∃ result,
        readReport isPrintable w.file held approvalId = .ok (some result)
          ∧ result.SameObject copied)
      ↔ Verifies copied := by
  intro w
  obtain ⟨hbefore, hevent, hafter⟩ := (machine isPrintable).meets_append.mp hreread
  have hlegible := (machine isPrintable).exec_invariant_of_meets (P := IsReread)
    (I := Legible isPrintable) (fun w event hmeets hw => (legible_step hw hmeets).1) hbefore
    legible_start
  obtain ⟨hlast, hcommitted⟩ := (machine isPrintable).exec_invariant_of_meets (P := IsReread)
    (I := fun w => Legible isPrintable w ∧ Committed w.file approvalId copied)
    (fun w event hmeets hw => ⟨(legible_step hw.1 hmeets).1, committed_step hw.1 hmeets hw.2⟩)
    hafter ⟨(legible_step hlegible hevent).1, committed_of_completed hlegible hevent hdone hcopied⟩
  have hw : w = (machine isPrintable).exec _ after := (machine isPrintable).exec_append _ _ _
  rw [← hw] at hlast hcommitted
  simp only [readReport_of_committed hlast hcommitted, ← verifiedReport_iff]
  constructor
  · intro h
    obtain ⟨result, hresult, hsame⟩ := h new List.mem_cons_self
    rcases hread : verifiedReport (some copied) with e | value
    · rw [hread] at hresult
      cases hresult
    · rw [hread] at hresult
      cases hresult
      exact ⟨result, rfl, hsame⟩
  · rintro ⟨result, hresult, hsame⟩ held -
    exact ⟨result, by rw [hresult]; rfl, hsame⟩

/-- The event is a command other than a request. -/
def Event.isFurther : Event → Bool
  | .opened | .call _ (.request _) _ => false
  | .call .. => true

/-- Once there is a file, only requests have to be read back. -/
theorem meets_of_file {isPrintable : CodePoint → Bool} {events : List Event} {w : World}
    (hw : Legible isPrintable w) (hfile : w.file ≠ none)
    (hevents : events.all Event.isFurther = true) :
    (machine isPrintable).Meets IsReread w events := by
  induction events generalizing w with
  | nil => trivial
  | cons event rest ih =>
    obtain ⟨hevent, hrest⟩ := Bool.and_eq_true_iff.mp hevents
    have hreread : IsReread w event := by
      cases event with
      | opened => trivial
      | call handle command fails =>
        refine ⟨fun hnone => absurd hnone hfile, ?_⟩
        rintro approval rfl
        cases hevent
    refine ⟨hreread, ih (legible_step hw hreread).1 ?_ hrest⟩
    rcases writes_of_step hw hreread with ⟨hsame, -⟩ | ⟨_, _, _, _, _, _, _, _, -, -, -, -, hsome⟩
    · exact hsame ▸ hfile
    · exact fun hnone => Option.some_ne_none _ (hsome.symm.trans hnone)

end

/-! ### A report without a digest -/

/-- A dict as a report. -/
def reportOf (items : List (Text × Json)) : ShadowReport where
  hasValue key value := (Json.lookup key items).map Json.dumps = some value.dumps
  copied := .ok (.obj items)

/-- What a report has to say of the sample. -/
def sampleReport : List (Text × Json) := [
  ("approval_id", .str sampleRequest.fields.approvalId.str),
  ("basis_id", .str (EntityId.epoch "authorization_basis" 0 0 (Eq.refl true)).str),
  ("plan_id", .str sampleRequest.fields.planId.str),
  ("plan_version", .int 1),
  ("plan_hash", .str sampleRequest.fields.planHash),
  ("execution_origin", .str "MANUAL_TEST")]

/-- The approval is requested, and the rest of its run. -/
def sampleOpening : List Event := [.opened, .call 0 (.request sampleRequest) false]

def sampleClaim : List Event :=
  let approvalId := sampleRequest.fields.approvalId
  [.call 0 (.decide approvalId .GRANTED (Revival.july 13 (Eq.refl true) 12) "user:trader") false,
    .call 0 (.consume approvalId (Revival.july 14 (Eq.refl true) 9)
      (.epoch "authorization_basis" 0 0 (Eq.refl true))
      ⟨sampleRequest.fields.planId, 1, sampleRequest.fields.planHash, Revival.account, "SHFE:AG",
        "trend", "day", .OPEN, Decimal.ofNat 2⟩) false,
    .call 0 (.claimShadow approvalId (Revival.july 14 (Eq.refl true) 10)) false]

def sampleCompletion : Event :=
  .call 0 (.completeShadow sampleRequest.fields.approvalId (Revival.july 14 (Eq.refl true) 11)
    (reportOf sampleReport)) false

/-- The call returned `True`. -/
def returnsTrue : Py (Option ManualAnswer) → Bool
  | .ok (some (.flag done)) => done
  | _ => false

theorem sample_facts :
    returnsTrue ((machine fun _ => true).out
        ((machine fun _ => true).exec start (sampleOpening ++ sampleClaim)) sampleCompletion) = true
      ∧ ∀ held ∈ new :: ((machine fun _ => true).next
          ((machine fun _ => true).exec start (sampleOpening ++ sampleClaim)) sampleCompletion).handles,
        (readReport (fun _ => true) ((machine fun _ => true).next
          ((machine fun _ => true).exec start (sampleOpening ++ sampleClaim)) sampleCompletion).file held
          sampleRequest.fields.approvalId).isOk = false := by
  decide +kernel

theorem returnsTrue_eq {outcome : Py (Option ManualAnswer)} (h : returnsTrue outcome = true) :
    outcome = .ok (some (.flag true)) := by
  unfold returnsTrue at h
  split at h
  · rw [h]
  · cases h

/-- **A report that is read by no handle** was stored by a call that returned `True`. -/
theorem completed_unreadable :
    let w := (machine fun _ => true).exec start (sampleOpening ++ sampleClaim)
    let w' := (machine fun _ => true).next w sampleCompletion
    (machine fun _ => true).out w sampleCompletion = .ok (some (.flag true))
      ∧ ∀ held ∈ new :: w'.handles, ¬ ∃ result,
        readReport (fun _ => true) w'.file held sampleRequest.fields.approvalId = .ok result := by
  intro w w'
  refine ⟨returnsTrue_eq sample_facts.1, ?_⟩
  rintro held hheld ⟨result, hresult⟩
  have hnot := sample_facts.2 held hheld
  rw [hresult] at hnot
  cases hnot

/-- The report of the sample has no digest. -/
theorem readReport_iff_sample :
    let w := (machine fun _ => true).exec start ((sampleOpening ++ sampleClaim) ++ [sampleCompletion])
    (∀ held ∈ new :: w.handles, ∃ result, readReport (fun _ => true) w.file held
        sampleRequest.fields.approvalId = .ok (some result)
          ∧ result.SameObject (.obj sampleReport))
      ↔ Verifies (.obj sampleReport) := by
  refine readReport_iff (fun _ => true) ?_ (returnsTrue_eq sample_facts.1) rfl
  have hopening : (machine fun _ => true).Meets IsReread start sampleOpening := by
    refine ⟨trivial, ⟨?_, ?_⟩, trivial⟩
    · rintro - held hheld
      obtain rfl : held = new := (Option.some.inj hheld).symm
      exact ⟨rfl, rfl⟩
    · rintro _ ⟨⟩
      exact exists_readBack_sampleRequest
  rw [List.append_assoc]
  refine (Machine.meets_append _).mpr ⟨hopening, meets_of_file ?_ ?_ ?_⟩
  · exact (machine fun _ => true).exec_invariant_of_meets (P := IsReread)
      (I := Legible fun _ => true) (fun w event hmeets hw => (legible_step hw hmeets).1) hopening
      legible_start
  · have hsome : ((machine fun _ => true).exec start sampleOpening).file.isSome = true := by
      decide +kernel
    exact Option.isSome_iff_ne_none.mp hsome
  · decide

end ManualTestApprovalStore

end FuturesAgentOs
