import FuturesAgentOs.Decision.PlanApproval

namespace FuturesAgentOs

open PyModel

/-!
# Authorization bases

`decision/autonomy_contracts.py`, `AuthorizationBasis` and the two registries that issue bases:
`BasisIssuanceRegistry` under a mandate, `PlanApprovalRegistry` under an approval.  A method
returns its answer and the registry it leaves behind; an exception leaves the registry as it was.
-/

/-- The fields of an `AuthorizationBasis`, with the defaults of the dataclass. -/
structure BasisFields where
  basisId : EntityId
  kind : BasisKind
  planId : EntityId
  planVersion : ℤ
  planHash : Text
  accountId : EntityId
  instrument : Text
  strategy : Text
  session : Text
  sourceId : EntityId
  sourceVersion : ℤ
  sourceHash : Text
  createdAt : RecordedAt
  expiresAt : RecordedAt
  scopeSnapshotHash : Text
  authorizedAction : ApprovalAction
  authorizedQuantity : Decimal
  approvalToken : Option EntityId
  approvalValidFromAt : Option RecordedAt
  approvalValidUntilAt : Option RecordedAt
  issuedBy : Text
  actorAuditRef : Text
  status : BasisStatus := .ACTIVE
  schemaVersion : SchemaVersion := v2AuthorizationSchema
  sourceRef : Text := "source:v2"
  deriving DecidableEq

namespace BasisFields

/-- The basis has a token and a window that is not empty and not left by its expiry. -/
def HasWindow (f : BasisFields) : Prop :=
  match f.approvalToken, f.approvalValidFromAt, f.approvalValidUntilAt with
  | some _, some start, some finish => start < finish ∧ f.expiresAt ≤ finish
  | _, _, _ => False

instance (f : BasisFields) : Decidable f.HasWindow := by
  unfold HasWindow
  split <;> infer_instance

def postInit (f : BasisFields) : Py Unit := do
  checkPositiveVersion f.planVersion
  checkSourceRef f.sourceRef "authorization basis"
  checkPositiveVersion f.sourceVersion
  checkSha f.planHash
  checkSha f.sourceHash
  checkSha f.scopeSnapshotHash
  require (f.instrument.IsScopeText ∧ f.strategy.IsScopeText ∧ f.session.IsScopeText)
    (valueError "authorization bases require an exact execution scope")
  require (f.createdAt < f.expiresAt) (valueError "authorization bases require a future expiry")
  require (Decimal.ofNat 0 < f.authorizedQuantity)
    (valueError
      "authorization bases require a typed selected action and positive finite quantity")
  match f.kind with
  | .MANDATE =>
    require (f.approvalToken = none ∧ f.approvalValidFromAt = none
        ∧ f.approvalValidUntilAt = none)
      (valueError "mandate bases cannot carry approval token or window")
  | .PLAN_APPROVAL =>
    require f.HasWindow
      (valueError "approval bases require token and a bounded approval window")
  require (f.actorAuditRef ≠ [])
    (valueError "authorization bases require issuer and audit actor")
  checkActor f.issuedBy

instance : Dataclass BasisFields := ⟨postInit⟩

end BasisFields

/-- An authorization of one action on one plan. -/
abbrev AuthorizationBasis := Frozen BasisFields

namespace AuthorizationBasis

variable (b : AuthorizationBasis)

def basisHash [Hashlib] : Py Text := do
  let schemaVersion ← b.fields.schemaVersion.str
  canonicalSha256 (.obj [
    ("id", .str b.fields.basisId.str),
    ("kind", .str b.fields.kind.value),
    ("plan", .str b.fields.planId.str),
    ("plan_version", .int b.fields.planVersion),
    ("plan_hash", .str b.fields.planHash),
    ("account", .str b.fields.accountId.str),
    ("instrument", .str b.fields.instrument),
    ("strategy", .str b.fields.strategy),
    ("session", .str b.fields.session),
    ("source", .str b.fields.sourceId.str),
    ("source_version", .int b.fields.sourceVersion),
    ("source_hash", .str b.fields.sourceHash),
    ("scope", .str b.fields.scopeSnapshotHash),
    ("authorized_action", .str b.fields.authorizedAction.value),
    ("authorized_quantity", .str b.fields.authorizedQuantity.str),
    ("approval_token", Json.optionalText (b.fields.approvalToken.map EntityId.str)),
    ("approval_valid_from", Json.optionalText (b.fields.approvalValidFromAt.map RecordedAt.text)),
    ("approval_valid_until",
      Json.optionalText (b.fields.approvalValidUntilAt.map RecordedAt.text)),
    ("expiry", .str b.fields.expiresAt.text),
    ("status", .str b.fields.status.value),
    ("schema_version", .str schemaVersion),
    ("source_ref", .str b.fields.sourceRef)])

variable {b} in
theorem exists_basisHash [Hashlib] (hplan : FitsStr b.fields.planVersion)
    (hsource : FitsStr b.fields.sourceVersion) (hschema : b.fields.schemaVersion.FitsStr) :
    ∃ digest, b.basisHash = .ok digest ∧ digest.IsHexDigest := by
  rw [basisHash, SchemaVersion.str_of_fits hschema, Py.ok_bind]
  apply exists_canonicalSha256_of_isWritable
  simpa [Json.membersWritable, hplan] using hsource

/-- The window of an approval basis is open. -/
def InWindow (now : RecordedAt) : Prop :=
  (∃ start ∈ b.fields.approvalValidFromAt, start ≤ now)
    ∧ ∃ finish ∈ b.fields.approvalValidUntilAt, now < finish

instance (now : RecordedAt) : Decidable (b.InWindow now) := by
  unfold InWindow
  infer_instance

def ActiveAt (now : RecordedAt) : Prop :=
  b.fields.status = .ACTIVE ∧ b.fields.createdAt ≤ now ∧ now < b.fields.expiresAt
    ∧ (b.fields.kind = .MANDATE ∨ b.InWindow now)

instance (now : RecordedAt) : Decidable (b.ActiveAt now) := inferInstanceAs (Decidable (_ ∧ _))

end AuthorizationBasis

/-! ### Bases under a mandate -/

/-- One basis for each version of a mandate and each version of a plan. -/
structure BasisIssuanceRegistry where
  /-- `_issued` -/
  issued : Dict (EntityId × ℤ × EntityId × ℤ) (Text × AuthorizationBasis)
  deriving DecidableEq

namespace BasisIssuanceRegistry

/-- `BasisIssuanceRegistry()` -/
def new : BasisIssuanceRegistry := ⟨.empty⟩

section

variable [Hashlib]

/-- The key of a request under a mandate. -/
def key (request : GateRequest) (mandate : SimulationAutonomyMandate) :
    EntityId × ℤ × EntityId × ℤ :=
  (mandate.fields.mandateId, mandate.fields.version, request.fields.planId,
    request.fields.planVersion)

/-- Everything a basis under a mandate is bound to, the mandate and its scope by their digests. -/
def boundItems (request : GateRequest) (mandate : SimulationAutonomyMandate)
    (sourceHash scope : Text) : List (Text × Json) := [
  ("source_hash", .str sourceHash),
  ("plan_hash", .str request.fields.planHash),
  ("account", .str request.fields.accountId.str),
  ("instrument", .str request.fields.instrument),
  ("strategy", .str request.fields.strategy),
  ("session", .str request.fields.session),
  ("action", .str request.fields.action.value),
  ("quantity", .str request.fields.quantity.str),
  ("expiry", .str mandate.fields.expiresAt.text),
  ("scope", .str scope)]

/-- The digest of everything a basis under a mandate is bound to. -/
def fingerprint (request : GateRequest) (mandate : SimulationAutonomyMandate) : Py Text := do
  let sourceHash ← mandate.authorizationHash
  let scope ← mandate.fields.scope.digest
  canonicalSha256 (.obj (boundItems request mandate sourceHash scope))

/-- The new basis of a request. -/
def newBasis (request : GateRequest) (mandate : SimulationAutonomyMandate) (now : RecordedAt)
    (fingerprint : Text) : Py AuthorizationBasis := do
  let basisId ← EntityId.deterministic "authorization_basis" fingerprint
  let sourceHash ← mandate.authorizationHash
  let scope ← mandate.fields.scope.digest
  Frozen.make {
    basisId := basisId
    kind := .MANDATE
    planId := request.fields.planId
    planVersion := request.fields.planVersion
    planHash := request.fields.planHash
    accountId := request.fields.accountId
    instrument := request.fields.instrument
    strategy := request.fields.strategy
    session := request.fields.session
    sourceId := mandate.fields.mandateId
    sourceVersion := mandate.fields.version
    sourceHash := sourceHash
    createdAt := now
    expiresAt := mandate.fields.expiresAt
    scopeSnapshotHash := scope
    authorizedAction := request.fields.action
    authorizedQuantity := request.fields.quantity
    approvalToken := none
    approvalValidFromAt := none
    approvalValidUntilAt := none
    issuedBy := "system:autonomy-gate"
    actorAuditRef := "audit://mandate-preflight" }

def issue (s : BasisIssuanceRegistry) (request : GateRequest)
    (mandate : SimulationAutonomyMandate) (now : RecordedAt) :
    Py (Option AuthorizationBasis) × BasisIssuanceRegistry :=
  match fingerprint request mandate with
  | .error e => (.error e, s)
  | .ok fingerprint =>
    match s.issued.get? (key request mandate) with
    | some existing => (.ok (if existing.1 = fingerprint then some existing.2 else none), s)
    | none =>
      match newBasis request mandate now fingerprint with
      | .error e => (.error e, s)
      | .ok basis =>
        (.ok (some basis), ⟨s.issued.set (key request mandate) (fingerprint, basis)⟩)

end

end BasisIssuanceRegistry

/-! ### Bases under an approval -/

/-- The command of a consumption, as the registry remembers it. -/
structure ConsumeCommand where
  planId : EntityId
  planVersion : ℤ
  planHash : Text
  accountId : EntityId
  instrument : Text
  strategy : Text
  session : Text
  action : ApprovalAction
  quantity : Decimal
  deriving DecidableEq

namespace ConsumeCommand

/-- Python's `==` on commands: every item equal, the quantities as numbers. -/
def SameAs (c d : ConsumeCommand) : Prop :=
  { c with quantity := d.quantity } = d ∧ c.quantity.numEq d.quantity

instance (c d : ConsumeCommand) : Decidable (c.SameAs d) := inferInstanceAs (Decidable (_ ∧ _))

theorem SameAs.symm {c d : ConsumeCommand} (h : c.SameAs d) : d.SameAs c := by
  obtain ⟨hfields, hquantity⟩ := h
  refine ⟨?_, hquantity.symm⟩
  rw [← hfields]

theorem SameAs.trans {c d e : ConsumeCommand} (h : c.SameAs d) (h' : d.SameAs e) :
    c.SameAs e := by
  obtain ⟨hfields, hquantity⟩ := h
  obtain ⟨hfields', hquantity'⟩ := h'
  refine ⟨?_, hquantity.trans hquantity'⟩
  rw [← hfields', ← hfields]

end ConsumeCommand

/-- The scope permits what the command asks for. -/
abbrev ApprovalScope.PermitsCommand (s : ApprovalScope) (c : ConsumeCommand) (now : RecordedAt) :
    Prop :=
  s.Permits c.accountId c.instrument c.strategy c.session c.action c.quantity now

/-- What the registry remembers of a consumed approval. -/
structure ConsumedApproval where
  grantedHash : Text
  consumed : PlanApproval
  basis : AuthorizationBasis
  command : ConsumeCommand
  deriving DecidableEq

/-- One basis for each approval. -/
structure PlanApprovalRegistry where
  /-- `_consumed` -/
  consumed : Dict EntityId ConsumedApproval
  deriving DecidableEq

namespace PlanApprovalRegistry

/-- `PlanApprovalRegistry()` -/
def new : PlanApprovalRegistry := ⟨.empty⟩

section

variable [Hashlib]

/-- The new basis of a command. -/
def newBasis (approval : PlanApproval) (now : RecordedAt) (basisId : EntityId)
    (command : ConsumeCommand) : Py AuthorizationBasis := do
  let sourceHash ← approval.authorizationHash
  let scope ← approval.fields.scope.scopeHash
  Frozen.make {
    basisId := basisId
    kind := .PLAN_APPROVAL
    planId := approval.fields.planId
    planVersion := approval.fields.planVersion
    planHash := approval.fields.planHash
    accountId := approval.fields.accountId
    instrument := command.instrument
    strategy := command.strategy
    session := command.session
    sourceId := approval.fields.approvalId
    sourceVersion := approval.fields.version
    sourceHash := sourceHash
    createdAt := now
    expiresAt := PlanApproval.earlier approval.fields.expiresAt
      approval.fields.scope.fields.validUntilAt
    scopeSnapshotHash := scope
    authorizedAction := command.action
    authorizedQuantity := command.quantity
    approvalToken := some approval.fields.approvalToken
    approvalValidFromAt := some approval.fields.scope.fields.validFromAt
    approvalValidUntilAt := some approval.fields.scope.fields.validUntilAt
    issuedBy := "system:autonomy-gate"
    actorAuditRef := "audit://plan-approval-consume" }

/-- The approval after its consumption. -/
def consumedVersion (approval : PlanApproval) (now : RecordedAt) (basisId : EntityId) :
    Py PlanApproval :=
  approval.replace (fun f => { f with
    status := .CONSUMED
    consumerBasisId := some basisId
    consumedAt := some now
    version := f.version + 1
    decidedAt := some (f.decidedAt.getD now)
    decidedBy := if f.decidedBy.getD [] = [] then some "user:authorized" else f.decidedBy })

/-- The first consumption of a granted approval. -/
def firstConsumption (approval : PlanApproval) (now : RecordedAt) (basisId : EntityId)
    (command : ConsumeCommand) : Py ConsumedApproval := do
  let basis ← newBasis approval now basisId command
  let consumed ← consumedVersion approval now basisId
  let grantedHash ← approval.authorizationHash
  .ok ⟨grantedHash, consumed, basis, command⟩

/-- The answer to a consumption of an approval that is not granted at `now`. -/
def notGranted (approval : PlanApproval) (now : RecordedAt) :
    Py (PlanApproval × Option AuthorizationBasis) :=
  if approval.statusAt now = .EXPIRED ∧ approval.fields.status ≠ .EXPIRED then do
    let expired ← approval.replace (fun f => { f with
      status := .EXPIRED
      version := f.version + 1 })
    .ok (expired, none)
  else .ok (approval, none)

/-- The command is about the plan and account of the approval and within its scope. -/
def Covers (approval : PlanApproval) (command : ConsumeCommand) (now : RecordedAt) : Prop :=
  command.planId = approval.fields.planId ∧ command.planVersion = approval.fields.planVersion
    ∧ command.planHash = approval.fields.planHash
    ∧ command.accountId = approval.fields.accountId
    ∧ approval.fields.scope.PermitsCommand command now

instance (approval : PlanApproval) (command : ConsumeCommand) (now : RecordedAt) :
    Decidable (Covers approval command now) := inferInstanceAs (Decidable (_ ∧ _))

def consume (s : PlanApprovalRegistry) (approval : PlanApproval) (now : RecordedAt)
    (basisId : EntityId) (command : ConsumeCommand) :
    Py (PlanApproval × Option AuthorizationBasis) × PlanApprovalRegistry :=
  match s.consumed.get? approval.fields.approvalId with
  | some previous =>
    match approval.grantedAuthorizationHash with
    | .error e => (.error e, s)
    | .ok grantedHash =>
      if grantedHash = previous.grantedHash ∧ command.SameAs previous.command
          ∧ approval.fields.scope.PermitsCommand command now then
        (.ok (previous.consumed, some previous.basis), s)
      else (.ok (approval, none), s)
  | none =>
    if approval.statusAt now ≠ .GRANTED then (notGranted approval now, s)
    else if ¬ Covers approval command now then (.ok (approval, none), s)
    else
      match firstConsumption approval now basisId command with
      | .error e => (.error e, s)
      | .ok entry =>
        (.ok (entry.consumed, some entry.basis),
          ⟨s.consumed.set approval.fields.approvalId entry⟩)

end

end PlanApprovalRegistry

end FuturesAgentOs
