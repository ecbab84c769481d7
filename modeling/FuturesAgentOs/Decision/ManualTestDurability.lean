import FuturesAgentOs.Decision.ManualTestRuns
import FuturesAgentOs.Decision.ReceiptRevival

namespace FuturesAgentOs

open PyModel

/-!
# What the manual approval store acknowledges

Handles on one file whose writes may fail.

* `acknowledged_of_isReread` — over every run of such commands;
-/

namespace ManualTestApprovalStore

open PlanApproval (SameTerms MovesTo)

section

variable (isPrintable : CodePoint → Bool)

/-- What a store that is opened on the file shows of an answer: the approval in the status that was
reported, the mark of the shadow run.  A conflict tells of an approval that is not stored. -/
def Shows (file : Option StateFile) (opened : ManualTestApprovalStore) (approvalId : EntityId) :
    ManualAnswer → Prop
  | .flag done => done = true → ∃ r, record? file approvalId = some r ∧ r.shadowStatus ≠ none
  | .result result =>
    if result.reason = "APPROVAL_CONFLICT" then ∃ a, opened.approvals.get? approvalId = some a
    else ∃ a, opened.approvals.get? approvalId = some a
      ∧ a.fields.status = result.approval.fields.status

/-- What the event returned is on disk after it. -/
def Acknowledged (file : Option StateFile) : Event → Py (Option ManualAnswer) → Prop
  | .call _ command _, .ok (some answer) =>
    ∃ opened, new.reloaded isPrintable file = .ok opened
      ∧ Shows file opened command.approvalId answer
  | _, _ => True

/-- No command is given to a handle that holds approvals while there is no file, and what is
requested can be read back. -/
def IsReread (w : World) : Event → Prop
  | .opened => True
  | .call handle command _ =>
    (w.file = none → ∀ held ∈ w.handles[handle]?, held.approvals = .empty ∧ held.durable = .empty)
      ∧ ∀ approval, command = .request approval → ∃ a, approval.readBack = .ok a

/-- Every record of the file can be read. -/
def Readable (file : StateFile) : Prop :=
  ∀ key r, file.get? key = some r → ∃ a, approvalFromPayload isPrintable r.approval = .ok a

/-- What holds between the commands. -/
structure Legible (w : World) : Prop where
  sound : ∀ content ∈ w.file, Sound content
  readable : ∀ content ∈ w.file, Readable isPrintable content
  registry : ∀ held ∈ w.handles, ∀ id entry, held.registry.consumed.get? id = some entry →
    entry.consumed.fields.approvalId = id ∧ entry.consumed.fields.status = .CONSUMED
      ∧ ∃ a, entry.consumed.readBack = .ok a

end

variable {isPrintable : CodePoint → Bool} {s : ManualTestApprovalStore}
  {file : Option StateFile} {command : ManualCommand} {approvalId : EntityId} {r : ManualRecord}

theorem shows_of_status {opened : ManualTestApprovalStore} {a : PlanApproval}
    {result : ManualApprovalCommandResult} (ha : opened.approvals.get? approvalId = some a)
    (hstatus : a.fields.status = result.approval.fields.status) :
    Shows file opened approvalId (.result result) := by
  rw [Shows]
  split
  · exact ⟨a, ha⟩
  · exact ⟨a, ha, hstatus⟩

theorem exists_load {content : StateFile} (hsound : Sound content)
    (hreadable : Readable isPrintable content) (held : ManualTestApprovalStore) :
    ∃ s, held.load isPrintable content = .ok s := by
  have hrecords : ∀ entry ∈ content.items, ∃ p, loadRecord isPrintable entry = .ok p := by
    rintro ⟨key, r⟩ hmem
    have hget := Dict.mem_items_iff.mp hmem
    obtain ⟨b, hof, hkey, hread⟩ := hsound key r hget
    obtain ⟨a, ha⟩ := hreadable key r hget
    have hid := (readBack_facts ((hof.parsed hread isPrintable).symm.trans ha)).1
    refine ⟨(a.fields.approvalId, a), ?_⟩
    rw [loadRecord, hof.status, PlanApprovalStatus.ofValue_value, Py.ok_bind, hkey,
      EntityId.parse_str, Py.ok_bind, ha, Py.ok_bind, require_of_pos hid]
    rfl
  obtain ⟨loaded, hloaded⟩ := Py.exists_mapM hrecords
  rw [load, loadRecords, hloaded]
  exact ⟨_, rfl⟩

theorem exists_opened (hsound : ∀ content ∈ file, Sound content)
    (hreadable : ∀ content ∈ file, Readable isPrintable content) (hfile : file ≠ none) :
    ∃ opened, new.reloaded isPrintable file = .ok opened
      ∧ ∀ id, opened.approvals.get? id = stored isPrintable file id := by
  obtain ⟨content, rfl⟩ := Option.ne_none_iff_exists'.mp hfile
  obtain ⟨opened, hopened⟩ := exists_load (hsound content rfl) (hreadable content rfl) new
  exact ⟨opened, hopened, (loaded_of_load (hsound content rfl) hopened).approvals⟩

theorem exists_readBack_of_terms {a b c : PlanApproval} (hread : b.readBack = .ok a)
    (hterms : SameTerms a c) : ∃ a', c.readBack = .ok a' ∧ a'.fields.status = c.fields.status := by
  obtain ⟨a', hback, hfields⟩ := PlanApproval.exists_readBack (u := c) hread
    (by rw [hterms]) (by rw [hterms]) (by rw [hterms])
  exact ⟨a', hback, by rw [hfields]⟩

section

variable [Hashlib] {answer : ManualAnswer} {registry : PlanApprovalRegistry}

variable {w : World} {fails : Bool}

omit [Hashlib] in
/-- What a handle that may be called has in memory. -/
theorem working_of_isReread (hw : Legible isPrintable w)
    {held : ManualTestApprovalStore} (hmem : held ∈ w.handles)
    (hreread : w.file = none → held.approvals = .empty ∧ held.durable = .empty)
    (h : held.reloaded isPrintable w.file = .ok s) :
    Working isPrintable w.file s ∧ s.registry = held.registry
      ∧ ∀ id a, s.approvals.get? id = some a → w.file ≠ none := by
  have habsent : w.file = none → held.durable = .empty ∧
      ∀ id a, held.approvals.get? id = some a → a.fields.approvalId = id ∧ ¬ a.FitsStr := by
    intro hfile
    obtain ⟨happrovals, hdurable⟩ := hreread hfile
    refine ⟨hdurable, fun id a ha => ?_⟩
    rw [happrovals] at ha
    cases ha
  obtain ⟨hworking, hregistry⟩ := working_of_reloaded hw.sound habsent
    (fun id entry hentry => ⟨(hw.registry held hmem id entry hentry).1,
      (hw.registry held hmem id entry hentry).2.1⟩) h
  refine ⟨hworking, hregistry, fun id a ha hfile => ?_⟩
  rw [hfile] at h
  obtain rfl := Except.ok.inj h
  rw [(hreread hfile).1] at ha
  cases ha

theorem parsed_of_writes (hw : Working isPrintable file s)
    (hreadable : ∀ content ∈ file, Readable isPrintable content)
    (hfile : ∀ id a, s.approvals.get? id = some a → file ≠ none)
    (hrequest : ∀ approval, command = .request approval → ∃ a, approval.readBack = .ok a)
    (hregistry : ∀ id entry, s.registry.consumed.get? id = some entry →
      entry.consumed.fields.status = .CONSUMED ∧ ∃ a, entry.consumed.readBack = .ok a)
    (h : Writes s command approvalId r answer registry) :
    ∃ a, approvalFromPayload isPrintable r.reread.approval = .ok a
      ∧ (∀ result, answer = .result result → a.fields.status = result.approval.fields.status)
      ∧ ∀ done, answer = .flag done → r.shadowStatus ≠ none := by
  cases h with
  | record h hrecord =>
    have hparsed : ∀ {b a : PlanApproval}, RecordOf r b → b.readBack = .ok a →
        approvalFromPayload isPrintable r.reread.approval = .ok a := fun hof hback =>
      (hof.reread.parsed (Json.joinMembers_joinMembers _) isPrintable).trans hback
    have hof := approvalRecord_eq_ok hrecord
    cases h with
    | requested hnew hstatus =>
      obtain ⟨a, ha⟩ := hrequest _ rfl
      refine ⟨a, hparsed (hof (by rw [hstatus]; rfl)).1 ha, ?_, by rintro _ ⟨⟩⟩
      rintro _ ⟨⟩
      exact (readBack_facts ha).2.1
    | moved ha hmoves hnot hreason =>
      obtain ⟨_, b, -, -, -, hread, -⟩ := hw.exists_record ha (hfile _ _ ha)
      obtain ⟨a', hback, hstatus⟩ := exists_readBack_of_terms hread hmoves.terms
      refine ⟨a', hparsed (hof rfl).1 hback, ?_, by rintro _ ⟨⟩⟩
      rintro _ ⟨⟩
      exact hstatus
    | consumed ha hopen hfirst =>
      obtain ⟨hmoves, hconsumed, -⟩ := hfirst.parts
      obtain ⟨_, b, -, -, -, hread, -⟩ := hw.exists_record ha (hfile _ _ ha)
      obtain ⟨a', hback, hstatus⟩ := exists_readBack_of_terms hread hmoves.terms
      refine ⟨a', hparsed (hof (by rw [hconsumed]; rfl)).1 hback, ?_, by rintro _ ⟨⟩⟩
      rintro _ ⟨⟩
      exact hstatus
    | consumedAgain ha hopen hprevious =>
      obtain ⟨hconsumed, a, hback⟩ := hregistry _ _ hprevious
      refine ⟨a, hparsed (hof (by rw [hconsumed]; rfl)).1 hback, ?_, by rintro _ ⟨⟩⟩
      rintro _ ⟨⟩
      exact (readBack_facts hback).2.1
  | mark h =>
    -- the payload of the record is the one that the file has
    have hmark : ∀ {id : EntityId} {before : ManualRecord}, s.durable.get? id.str = some before →
        r.approval = before.approval →
        ∃ a, approvalFromPayload isPrintable r.reread.approval = .ok a := by
      intro id before hbefore happroval
      obtain ⟨content, b, hcontent, hget, -, -, hread⟩ := hw.recordOf hbefore
      obtain ⟨a, ha⟩ := hreadable content hcontent _ _ hget
      exact ⟨a, by rw [ManualRecord.reread, happroval, hread, ha]⟩
    cases h with
    | claimed ha hrecord hconsumed hshadow =>
      obtain ⟨a, hparsed⟩ := hmark hrecord rfl
      exact ⟨a, hparsed, by rintro _ ⟨⟩, fun _ _ => Option.some_ne_none _⟩
    | completed ha hrecord hshadow =>
      obtain ⟨a, hparsed⟩ := hmark hrecord rfl
      exact ⟨a, hparsed, by rintro _ ⟨⟩, fun _ _ => Option.some_ne_none _⟩

omit [Hashlib] in
/-- The file that a command writes can be read. -/
theorem readable_written (hw : Working isPrintable file s) (approvalId : EntityId)
    (hreadable : ∀ content ∈ file, Readable isPrintable content)
    (hparsed : ∃ a, approvalFromPayload isPrintable r.reread.approval = .ok a) :
    Readable isPrintable (written s.durable approvalId r) := by
  intro key record hget
  rw [written, Dict.get?_mapValues, Dict.get?_set] at hget
  obtain ⟨before, hbefore, rfl⟩ := Option.map_eq_some_iff.mp hget
  split at hbefore
  · obtain rfl := Option.some.inj hbefore
    exact hparsed
  · obtain ⟨content, b, hcontent, hrecord, -, -, hread⟩ := hw.recordOf hbefore
    obtain ⟨a, ha⟩ := hreadable content hcontent _ _ hrecord
    exact ⟨a, by rw [ManualRecord.reread, hread, ha]⟩

theorem readBack_of_ends (hw : Working isPrintable file s)
    (hfile : ∀ id a, s.approvals.get? id = some a → file ≠ none)
    (hregistry : ∀ id entry, s.registry.consumed.get? id = some entry →
      entry.consumed.fields.approvalId = id ∧ entry.consumed.fields.status = .CONSUMED
        ∧ ∃ a, entry.consumed.readBack = .ok a)
    {ending : ManualEnd} (h : Ends s command ending registry) :
    ∀ id entry, registry.consumed.get? id = some entry →
      entry.consumed.fields.approvalId = id ∧ entry.consumed.fields.status = .CONSUMED
        ∧ ∃ a, entry.consumed.readBack = .ok a := by
  cases h with
  | consumed ha hopen hfirst =>
    intro id entry hentry
    rw [Dict.get?_set] at hentry
    split at hentry
    · rename_i hid
      obtain rfl := Option.some.inj hentry
      obtain ⟨hmoves, hstatus, -⟩ := hfirst.parts
      obtain ⟨_, b, -, -, -, hread, -⟩ := hw.exists_record ha (hfile _ _ ha)
      obtain ⟨a', hback, -⟩ := exists_readBack_of_terms hread hmoves.terms
      exact ⟨hmoves.terms.approvalId.trans hid.symm, hstatus, a', hback⟩
    · exact hregistry id entry hentry
  | _ => exact hregistry

/-- The memory of a handle after its command. -/
theorem registry_of_called (hw : Working isPrintable file s)
    (hfile : ∀ id a, s.approvals.get? id = some a → file ≠ none)
    (hregistry : ∀ id entry, s.registry.consumed.get? id = some entry →
      entry.consumed.fields.approvalId = id ∧ entry.consumed.fields.status = .CONSUMED
        ∧ ∃ a, entry.consumed.readBack = .ok a) {outcome : Py (Option ManualAnswer)} {file' : Option StateFile}
    {s' : ManualTestApprovalStore} (h : Called s command fails file outcome file' s') :
    ∀ id entry, s'.registry.consumed.get? id = some entry →
      entry.consumed.fields.approvalId = id ∧ entry.consumed.fields.status = .CONSUMED
        ∧ ∃ a, entry.consumed.readBack = .ok a := by
  have hwrites : ∀ {approvalId r answer registry}, Writes s command approvalId r answer registry →
      ∃ ending, Ends s command ending registry := by
    intro approvalId r answer registry h
    cases h with
    | record h hrecord => exact ⟨_, h⟩
    | mark h => exact ⟨_, h⟩
  cases h with
  | raised => exact hregistry
  | answered h => exact hregistry
  | unrecordable h hnot => exact readBack_of_ends hw hfile hregistry h
  | failed hfails h =>
    obtain ⟨ending, hends⟩ := hwrites h
    exact readBack_of_ends hw hfile hregistry hends
  | written h =>
    obtain ⟨ending, hends⟩ := hwrites h
    exact readBack_of_ends hw hfile hregistry hends

/-- **A command that returns tells of what is on disk.** -/
theorem acknowledged_of_called (hw : Working isPrintable file s)
    (hreadable : ∀ content ∈ file, Readable isPrintable content)
    (hfile : ∀ id a, s.approvals.get? id = some a → file ≠ none)
    (hrequest : ∀ approval, command = .request approval → ∃ a, approval.readBack = .ok a)
    (hregistry : ∀ id entry, s.registry.consumed.get? id = some entry →
      entry.consumed.fields.approvalId = id ∧ entry.consumed.fields.status = .CONSUMED
        ∧ ∃ a, entry.consumed.readBack = .ok a)
    (handle : ℕ) {outcome : Py (Option ManualAnswer)} {file' : Option StateFile}
    {s' : ManualTestApprovalStore} (h : Called s command fails file outcome file' s') :
    (∀ content ∈ file', Sound content) ∧ (∀ content ∈ file', Readable isPrintable content)
      ∧ Acknowledged isPrintable file' (.call handle command fails) outcome := by
  cases h with
  | raised => exact ⟨hw.sound, hreadable, trivial⟩
  | unrecordable h hnot => exact ⟨hw.sound, hreadable, trivial⟩
  | failed hfails h => exact ⟨hw.sound, hreadable, trivial⟩
  | answered h =>
    refine ⟨hw.sound, hreadable, ?_⟩
    cases h with
    | refused =>
      rcases hcontent : file with _ | content
      · exact ⟨new, rfl, by rintro ⟨⟩⟩
      · obtain ⟨opened, hopened, -⟩ := exists_opened hw.sound hreadable
          (by rw [hcontent]; exact Option.some_ne_none _)
        exact ⟨opened, hcontent ▸ hopened, by rintro ⟨⟩⟩
    | known ha hreason =>
      have hne := hfile _ _ ha
      obtain ⟨opened, hopened, hstored⟩ := exists_opened hw.sound hreadable hne
      have hshown := (hstored command.approvalId).trans ((hw.approvals _ _ ha).2.1 hne)
      exact ⟨opened, hopened, shows_of_status hshown rfl⟩
    | conflict hcommand hrecord =>
      obtain ⟨content, b, hcontent, hget, hof, -, hread⟩ := hw.recordOf hrecord
      have hne : file ≠ none := by rw [hcontent]; exact Option.some_ne_none _
      obtain ⟨opened, hopened, hstored⟩ := exists_opened hw.sound hreadable hne
      obtain ⟨a, ha⟩ := hreadable content hcontent _ _ hget
      refine ⟨opened, hopened, ?_⟩
      rw [Shows, if_pos rfl]
      refine ⟨a, (hstored _).trans ?_⟩
      rw [stored, record?, hcontent, Option.bind_some, hget, Option.bind_some, ha]
      rfl
  | @written approvalId r answer registry approvals h =>
    have hcommand := approvalId_of_writes hw h
    obtain ⟨a, hparsed, hstatus, hshadow⟩ := parsed_of_writes hw hreadable hfile hrequest
      (fun id entry hentry => (hregistry id entry hentry).2) h
    have hsound := hw.sound_written h
    have hread := readable_written hw approvalId hreadable ⟨a, hparsed⟩
    have hsounds : ∀ content ∈ some (written s.durable approvalId r), Sound content := by
      rintro _ ⟨⟩
      exact hsound
    have hreads : ∀ content ∈ some (written s.durable approvalId r),
        Readable isPrintable content := by
      rintro _ ⟨⟩
      exact hread
    refine ⟨hsounds, hreads, ?_⟩
    obtain ⟨opened, hopened, hstored⟩ := exists_opened hsounds hreads (Option.some_ne_none _)
    refine ⟨opened, hopened, ?_⟩
    have hrecord := record?_written hw approvalId r approvalId
    rw [if_pos rfl] at hrecord
    rw [hcommand]
    cases answer with
    | flag done => exact fun _ => ⟨_, hrecord, hshadow done rfl⟩
    | result result =>
      have hshown := hstored approvalId
      rw [stored, hrecord, Option.bind_some, hparsed] at hshown
      exact shows_of_status hshown (hstatus result rfl)

/-! ### Runs -/

/-- **A command that may be given** tells of what is on disk. -/
theorem legible_of_call (hw : Legible isPrintable w) {handle : ℕ}
    (hreread : IsReread w (.call handle command fails)) :
    Legible isPrintable (step isPrintable w (.call handle command fails)).2
      ∧ Acknowledged isPrintable (step isPrintable w (.call handle command fails)).2.file
          (.call handle command fails) (step isPrintable w (.call handle command fails)).1 := by
  rw [step]
  rcases hheld : w.handles[handle]? with _ | held
  · exact ⟨hw, trivial⟩
  have hmem := List.mem_of_getElem? hheld
  rcases hreloaded : held.reloaded isPrintable w.file with e | s
  · dsimp only
    rw [hreloaded]
    exact ⟨hw, trivial⟩
  dsimp only
  rw [hreloaded]
  dsimp only
  obtain ⟨hworking, hregistry, hfile⟩ := working_of_isReread hw hmem
    (fun hnone => hreread.1 hnone held hheld) hreloaded
  have hconsumed : ∀ id entry, s.registry.consumed.get? id = some entry →
      entry.consumed.fields.approvalId = id ∧ entry.consumed.fields.status = .CONSUMED
        ∧ ∃ a, entry.consumed.readBack = .ok a := by
    rw [hregistry]
    exact hw.registry held hmem
  obtain ⟨s', hhandles, hcalled⟩ := called_of_callOn hworking (Prod.ext rfl rfl :
    callOn w handle s command fails = ((callOn w handle s command fails).1,
      (callOn w handle s command fails).2))
  obtain ⟨hsound, hreadable, hacknowledged⟩ := acknowledged_of_called hworking hw.readable hfile
    hreread.2 hconsumed handle hcalled
  refine ⟨⟨hsound, hreadable, fun other hother => ?_⟩, hacknowledged⟩
  rw [hhandles] at hother
  rcases List.mem_or_eq_of_mem_set hother with hother | rfl
  · exact hw.registry other hother
  · exact registry_of_called hworking hfile hconsumed hcalled

theorem legible_step (hw : Legible isPrintable w) {event : Event} (hreread : IsReread w event) :
    Legible isPrintable (step isPrintable w event).2
      ∧ Acknowledged isPrintable (step isPrintable w event).2.file event
          (step isPrintable w event).1 := by
  rcases event with _ | ⟨handle, command, fails⟩
  · rw [step]
    rcases hreloaded : new.reloaded isPrintable w.file with e | opened
    · exact ⟨hw, trivial⟩
    · refine ⟨⟨hw.sound, hw.readable, fun held hmem => ?_⟩, trivial⟩
      rcases List.mem_append.mp hmem with hmem | hmem
      · exact hw.registry held hmem
      · obtain rfl := List.mem_singleton.mp hmem
        have hregistry := (working_of_reloaded hw.sound (fun _ => ⟨rfl, by rintro id a ⟨⟩⟩)
          (by rintro id entry ⟨⟩) hreloaded).2
        rw [hregistry]
        rintro id entry ⟨⟩
  · exact legible_of_call hw hreread

omit [Hashlib] in
theorem legible_start : Legible isPrintable start where
  sound := by rintro _ ⟨⟩
  readable := by rintro _ ⟨⟩
  registry := by rintro _ ⟨⟩

end

/-! ### A request that is never written -/

/-- The request of an approval of two lots. -/
def sampleRequest : PlanApproval where
  fields := { Revival.granted.fields with
    version := 1
    status := .REQUESTED
    decidedAt := none
    decidedBy := none }
  valid := by decide +kernel

theorem exists_readBack_sampleRequest : ∃ a, sampleRequest.readBack = .ok a := by
  rcases hback : sampleRequest.readBack with e | a
  · have hok : sampleRequest.readBack.isOk = true := by decide +kernel
    rw [hback] at hok
    cases hok
  · exact ⟨a, rfl⟩

end ManualTestApprovalStore

end FuturesAgentOs
