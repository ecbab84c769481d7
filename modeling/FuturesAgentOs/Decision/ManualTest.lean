import FuturesAgentOs.Decision.ManualApprovalCodec
import FuturesAgentOs.PyModel.Machine

namespace FuturesAgentOs

open PyModel

/-!
# The manual approval store

`decision/manual_test.py`: `ManualTestApprovalStore` keeps the approvals of manual tests in one
state file.  A command reads the file under a lock, decides in memory and replaces the file.

* `machine` — handles on one file, their commands and the writes that fail.
-/

/-- A record of the state file. -/
structure ManualRecord where
  status : Text
  version : Text
  approvalHash : Text
  basisId : Option Text
  consumeScope : Option (List (Text × Text))
  recordedAt : Text
  /-- the members of the payload `approval` -/
  approval : List (Text × Json)
  shadowStatus : Option Text := none
  shadowClaimedAt : Option Text := none
  shadowCompletedAt : Option Text := none
  shadowReport : Option Json := none

/-- The state file, as `json.loads` gives it; its keys are identifiers. -/
abbrev StateFile := Dict Text ManualRecord

namespace ManualRecord

/-- `json.dumps` writes the record: its integers are those of the payload, and its report was
read by `json.loads`. -/
def IsWritable (r : ManualRecord) : Prop := (Json.obj r.approval).isWritable = true

instance (r : ManualRecord) : Decidable r.IsWritable := inferInstanceAs (Decidable (_ = true))

/-- The record that `json.loads` gives of what `json.dumps` wrote. -/
def reread (r : ManualRecord) : ManualRecord :=
  { r with
    consumeScope := r.consumeScope.map (List.map fun p => (p.1, p.2.joined))
    approval := Json.joinMembers r.approval }

end ManualRecord

/-- `str(value)` of every argument of a consumption. -/
def ConsumeCommand.texts (c : ConsumeCommand) : Py (List (Text × Text)) := do
  let planVersion ← intToStr c.planVersion
  .ok [
    ("plan_id", c.planId.str),
    ("plan_version", planVersion),
    ("plan_hash", c.planHash),
    ("account_id", c.accountId.str),
    ("instrument", c.instrument),
    ("strategy", c.strategy),
    ("session", c.session),
    ("action", c.action.value),
    ("quantity", c.quantity.str)]

/-- A report, by what the store asks of it. -/
structure ShadowReport where
  /-- `report.get(key) == value` -/
  hasValue : Text → Json → Bool
  /-- `json.loads(json.dumps(report, allow_nan=False))` -/
  copied : Py Json

/-- The commands of the store. -/
inductive ManualCommand where
  | request (approval : PlanApproval)
  | decide (approvalId : EntityId) (target : PlanApprovalStatus) (now : RecordedAt) (actor : Text)
  | expire (approvalId : EntityId) (now : RecordedAt)
  | consume (approvalId : EntityId) (now : RecordedAt) (basisId : EntityId)
      (command : ConsumeCommand)
  | claimShadow (approvalId : EntityId) (now : RecordedAt)
  | completeShadow (approvalId : EntityId) (now : RecordedAt) (report : ShadowReport)

/-- The approval that a command is about. -/
def ManualCommand.approvalId : ManualCommand → EntityId
  | .request approval => approval.fields.approvalId
  | .decide approvalId .. | .expire approvalId _ | .consume approvalId ..
  | .claimShadow approvalId _ | .completeShadow approvalId .. => approvalId

structure ManualApprovalCommandResult where
  approval : PlanApproval
  changed : Bool
  reason : Text
  basis : Option AuthorizationBasis := none
  deriving DecidableEq

/-- What a command returns. -/
inductive ManualAnswer where
  | result (r : ManualApprovalCommandResult)
  | flag (done : Bool)
  deriving DecidableEq

/-- What a command does at its end: it returns, it makes a record of an approval and returns, or it
marks a record and returns `True`. -/
inductive ManualEnd where
  | returns (answer : ManualAnswer)
  | records (approval : PlanApproval) (status : Text) (basisId : Option EntityId)
      (consumeScope : Option ConsumeCommand) (result : ManualApprovalCommandResult)
  | marks (record : ManualRecord)

/-- What a handle has in memory. -/
structure ManualTestApprovalStore where
  registry : PlanApprovalRegistry
  approvals : Dict EntityId PlanApproval
  durable : Dict Text ManualRecord

namespace ManualTestApprovalStore

/-- `ManualTestApprovalStore(path)`, no file yet. -/
def new : ManualTestApprovalStore := ⟨.new, .empty, .empty⟩

/-! ### The file -/

/-- What `_persist` writes. -/
def persist (durable : Dict Text ManualRecord) : Py StateFile := do
  require (∀ record ∈ durable.values, record.IsWritable)
    (valueError "Exceeds the limit (4300 digits) for integer string conversion")
  .ok (durable.mapValues fun _ record => record.reread)

section

variable (isPrintable : CodePoint → Bool)

/-- One turn of the loop of `_load`. -/
def loadRecord (entry : Text × ManualRecord) : Py (EntityId × PlanApproval) := do
  let _ ← PlanApprovalStatus.ofValue entry.2.status
  let approvalId ← EntityId.parse entry.1
  let persisted ← approvalFromPayload isPrintable entry.2.approval
  require (persisted.fields.approvalId = approvalId)
    (valueError "approval identity does not match state key")
  .ok (persisted.fields.approvalId, persisted)

/-- The loop of `_load`. -/
def loadRecords (file : StateFile) : Py (Dict EntityId PlanApproval) := do
  let loaded ← file.items.mapM (loadRecord isPrintable)
  .ok (Dict.empty.update loaded)

def load (s : ManualTestApprovalStore) (file : StateFile) : Py ManualTestApprovalStore :=
  match loadRecords isPrintable file with
  | .error e =>
    if IsTypeOrValueError e then .error (valueError "cannot load manual approval state")
    else .error e
  | .ok approvals => .ok { s with approvals, durable := file }

end

/-! ### Commands in memory -/

section

variable (s : ManualTestApprovalStore)

/-- `_require` -/
def required (approvalId : EntityId) : Py PlanApproval :=
  match s.approvals.get? approvalId with
  | none => .error ⟨.keyError, Text.ofString "unknown approval: " ++ approvalId.str⟩
  | some approval => .ok approval

/-- Python's `==` on scopes: the ceilings as numbers. -/
def SameScope (s t : ApprovalScopeFields) : Prop :=
  { s with quantityCeiling := t.quantityCeiling } = t ∧ s.quantityCeiling.numEq t.quantityCeiling

instance (s t : ApprovalScopeFields) : Decidable (SameScope s t) :=
  inferInstanceAs (Decidable (_ ∧ _))

/-- The stored approval is the one that is requested again. -/
def SameRequest (current approval : PlanApproval) : Prop :=
  current.fields.planId = approval.fields.planId
    ∧ current.fields.planVersion = approval.fields.planVersion
    ∧ current.fields.planHash = approval.fields.planHash
    ∧ current.fields.accountId = approval.fields.accountId
    ∧ SameScope current.fields.scope.fields approval.fields.scope.fields
    ∧ current.fields.approvalToken = approval.fields.approvalToken
    ∧ current.fields.requestedBy = approval.fields.requestedBy
    ∧ current.fields.expiresAt = approval.fields.expiresAt
    ∧ current.fields.requestedAt = approval.fields.requestedAt

instance (current approval : PlanApproval) : Decidable (SameRequest current approval) :=
  inferInstanceAs (Decidable (_ ∧ _))

def request (approval : PlanApproval) : Py ManualEnd := do
  require (approval.fields.status = .REQUESTED)
    (valueError "MANUAL_TEST requests require REQUESTED PlanApproval")
  match s.durable.get? approval.fields.approvalId.str with
  | some _ =>
    match s.approvals.get? approval.fields.approvalId with
    | none => .ok (.returns (.result ⟨approval, false, "APPROVAL_CONFLICT", none⟩))
    | some current =>
      if ¬ SameRequest current approval then
        .ok (.returns (.result ⟨approval, false, "APPROVAL_CONFLICT", none⟩))
      else .ok (.returns (.result ⟨current, false, "REPLAYED", none⟩))
  | none => .ok (.records approval "REQUESTED" none none ⟨approval, true, "REQUESTED", none⟩)

def decide (approvalId : EntityId) (target : PlanApprovalStatus) (now : RecordedAt)
    (actor : Text) : Py ManualEnd := do
  require (target ∈ [PlanApprovalStatus.GRANTED, .REJECTED])
    (valueError "manual approval decisions must be GRANTED or REJECTED")
  let approval ← s.required approvalId
  if approval.fields.status = target ∧ approval.statusAt now = target then
    .ok (.returns (.result ⟨approval, false, "REPLAYED", none⟩))
  else do
    let updated ← PlanApproval.decide approval target now actor
    .ok (.records updated target.value none none ⟨updated, true, target.value, none⟩)

/-- `replace(approval, status=EXPIRED, version=approval.version + 1)` -/
def expired (approval : PlanApproval) : Py PlanApproval :=
  approval.replace fun f => { f with status := .EXPIRED, version := f.version + 1 }

def expire (approvalId : EntityId) (now : RecordedAt) : Py ManualEnd := do
  let approval ← s.required approvalId
  if approval.statusAt now ≠ .EXPIRED then
    .ok (.returns (.result ⟨approval, false, "NOT_EXPIRED", none⟩))
  else if approval.fields.status = .EXPIRED then
    .ok (.returns (.result ⟨approval, false, "REPLAYED", none⟩))
  else do
    let updated ← expired approval
    .ok (.records updated "EXPIRED" none none ⟨updated, true, "EXPIRED", none⟩)

/-- The answer of `consume` for an approval that was consumed before. -/
def replayedConsumption (approval : PlanApproval) (prior : ManualRecord) (basisId : EntityId)
    (command : ConsumeCommand) : Py ManualEnd :=
  if prior.basisId ≠ some basisId.str then
    .ok (.returns (.result ⟨approval, false, "APPROVAL_ALREADY_CONSUMED", none⟩))
  else do
    let requestedScope ← command.texts
    if prior.consumeScope ≠ some requestedScope then
      .ok (.returns (.result ⟨approval, false, "CONSUME_REPLAY_SCOPE_MISMATCH", none⟩))
    else .ok (.returns (.result ⟨approval, false, "REPLAYED", none⟩))

/-- What `consume` makes of the answer of the registry. -/
def consumeEnd (approval : PlanApproval) (basisId : EntityId) (command : ConsumeCommand) :
    PlanApproval × Option AuthorizationBasis → ManualEnd
  | (consumed, none) =>
    let result := ⟨consumed, false, "CONSUME_REJECTED", none⟩
    if consumed.fields.status ≠ approval.fields.status then
      .records consumed consumed.fields.status.value none none result
    else .returns (.result result)
  | (consumed, some basis) =>
    .records consumed "CONSUMED" (some basisId) (some command)
      ⟨consumed, true, "CONSUMED", some basis⟩

def claimShadow (approvalId : EntityId) (now : RecordedAt) : Py ManualEnd := do
  let approval ← s.required approvalId
  match s.durable.get? approvalId.str with
  | none => .ok (.returns (.flag false))
  | some record =>
    if approval.fields.status ≠ .CONSUMED then .ok (.returns (.flag false))
    else if record.shadowStatus ∈ [some ("CLAIMED" : Text), some "COMPLETED"] then
      .ok (.returns (.flag false))
    else
      .ok (.marks { record with
        shadowStatus := some "CLAIMED"
        shadowClaimedAt := some now.text })

/-- What a report has to say of the approval. -/
def expectedReport (approval : PlanApproval) : List (Text × Json) := [
  ("approval_id", .str approval.fields.approvalId.str),
  ("basis_id", .str ((approval.fields.consumerBasisId.map EntityId.str).getD "None")),
  ("plan_id", .str approval.fields.planId.str),
  ("plan_version", .int approval.fields.planVersion),
  ("plan_hash", .str approval.fields.planHash),
  ("execution_origin", .str "MANUAL_TEST")]

def completeShadow (approvalId : EntityId) (now : RecordedAt) (report : ShadowReport) :
    Py ManualEnd := do
  let approval ← s.required approvalId
  match s.durable.get? approvalId.str with
  | none => .ok (.returns (.flag false))
  | some record =>
    if record.shadowStatus ≠ some "CLAIMED" then .ok (.returns (.flag false))
    else do
      require ((expectedReport approval).all (fun p => report.hasValue p.1 p.2) = true)
        (valueError "shadow report authorization binding mismatch")
      let copied ← report.copied
      .ok (.marks { record with
        shadowStatus := some "COMPLETED"
        shadowCompletedAt := some now.text
        shadowReport := some copied })

variable [Hashlib]

/-- `consume`; the registry remembers a consumption at once. -/
def consume (approvalId : EntityId) (now : RecordedAt) (basisId : EntityId)
    (command : ConsumeCommand) : Py ManualEnd × PlanApprovalRegistry :=
  match s.required approvalId with
  | .error e => (.error e, s.registry)
  | .ok approval =>
    match s.durable.get? approvalId.str with
    | some prior =>
      if prior.status = PlanApprovalStatus.CONSUMED.value then
        (replayedConsumption approval prior basisId command, s.registry)
      else
        let (answer, registry) := s.registry.consume approval now basisId command
        (answer.map (consumeEnd approval basisId command), registry)
    | none =>
      let (answer, registry) := s.registry.consume approval now basisId command
      (answer.map (consumeEnd approval basisId command), registry)

/-- A command in memory, up to its end. -/
def work : ManualCommand → Py ManualEnd × PlanApprovalRegistry
  | .request approval => (s.request approval, s.registry)
  | .decide approvalId target now actor => (s.decide approvalId target now actor, s.registry)
  | .expire approvalId now => (s.expire approvalId now, s.registry)
  | .consume approvalId now basisId command => s.consume approvalId now basisId command
  | .claimShadow approvalId now => (s.claimShadow approvalId now, s.registry)
  | .completeShadow approvalId now report => (s.completeShadow approvalId now report, s.registry)

omit [Hashlib] s in
/-- `{key: str(value) for …} if consume_scope else None` -/
def scopeTexts : Option ConsumeCommand → Py (Option (List (Text × Text)))
  | none => .ok none
  | some command => command.texts.map some

omit s in
/-- The record that `_record` makes. -/
def approvalRecord (approval : PlanApproval) (status : Text) (basisId : Option EntityId)
    (consumeScope : Option ConsumeCommand) : Py ManualRecord := do
  let version ← intToStr approval.fields.version
  let approvalHash ← approval.authorizationHash
  let consumeScope ← scopeTexts consumeScope
  let payload ← approvalToPayload approval
  .ok
    { status, version, approvalHash, basisId := basisId.map EntityId.str, consumeScope
      recordedAt := (approval.fields.consumedAt.getD approval.fields.requestedAt).text
      approval := payload }

end

/-! ### Handles on one file -/

/-- The file, and the memory of every handle. -/
structure World where
  file : Option StateFile
  handles : List ManualTestApprovalStore

/-- A handle is opened, or gets a command; `fails` says that a write of this command fails. -/
inductive Event where
  | opened
  | call (handle : ℕ) (command : ManualCommand) (fails : Bool)

section

variable [Hashlib] (isPrintable : CodePoint → Bool)

/-- What a handle has in memory when it works: what the file holds, if there is one. -/
def reloaded (file : Option StateFile) (s : ManualTestApprovalStore) : Py ManualTestApprovalStore :=
  match file with
  | none => .ok s
  | some file => s.load isPrintable file

omit [Hashlib] in
/-- `_persist` of a handle, and the return. -/
def finish (w : World) (handle : ℕ) (s : ManualTestApprovalStore) (answer : ManualAnswer)
    (fails : Bool) : Py (Option ManualAnswer) × World :=
  let handles := w.handles.set handle s
  match persist s.durable with
  | .error e => (.error e, { w with handles })
  | .ok file =>
    if fails then (.error ⟨.osError, "replace failed"⟩, { w with handles })
    else (.ok (some answer), ⟨some file, handles⟩)

/-- The command of a handle that has read the file. -/
def callOn (w : World) (handle : ℕ) (s : ManualTestApprovalStore) (command : ManualCommand)
    (fails : Bool) : Py (Option ManualAnswer) × World :=
  let (ending, registry) := s.work command
  let s := { s with registry }
  match ending with
  | .error e => (.error e, { w with handles := w.handles.set handle s })
  | .ok (.returns answer) => (.ok (some answer), { w with handles := w.handles.set handle s })
  | .ok (.marks record) =>
    finish w handle { s with durable := s.durable.set command.approvalId.str record } (.flag true)
      fails
  | .ok (.records approval status basisId consumeScope result) =>
    let s := { s with approvals := s.approvals.set command.approvalId approval }
    match approvalRecord approval status basisId consumeScope with
    | .error e => (.error e, { w with handles := w.handles.set handle s })
    | .ok record =>
      finish w handle { s with durable := s.durable.set approval.fields.approvalId.str record }
        (.result result) fails

/-- One event; `opened` has no answer. -/
def step (w : World) : Event → Py (Option ManualAnswer) × World
  | .opened =>
    match new.reloaded isPrintable w.file with
    | .error e => (.error e, w)
    | .ok s => (.ok none, { w with handles := w.handles ++ [s] })
  | .call handle command fails =>
    match w.handles[handle]? with
    | none => (.error ⟨.attributeError, "handle"⟩, w)
    | some held =>
      match held.reloaded isPrintable w.file with
      | .error e => (.error e, w)
      | .ok s => callOn w handle s command fails

/-- Handles that are opened and called in any order. -/
def machine : Machine World Event (Py (Option ManualAnswer)) := ⟨step isPrintable⟩

/-- No file, and no handle. -/
def start : World := ⟨none, []⟩

end

end ManualTestApprovalStore

end FuturesAgentOs
