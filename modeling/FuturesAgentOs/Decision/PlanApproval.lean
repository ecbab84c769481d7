import FuturesAgentOs.Decision.ModeBinding

namespace FuturesAgentOs

open PyModel

/-!
# Gate requests and plan approvals

`decision/autonomy_contracts.py`, `GateRequest` and `PlanApproval`: what is asked of the gate,
and a human decision about one plan.
-/

structure GateRequestFields where
  planId : EntityId
  planVersion : ℤ
  planHash : Text
  accountId : EntityId
  instrument : Text
  strategy : Text
  session : Text
  action : ApprovalAction
  quantity : Decimal
  executionOrigin : ExecutionOrigin
  snapshotHash : Text
  snapshotExpiresAt : RecordedAt
  runVersionsHash : Text
  deriving DecidableEq

namespace GateRequestFields

def postInit (f : GateRequestFields) : Py Unit := do
  checkPositiveVersion f.planVersion
  checkSha f.planHash
  checkSha f.snapshotHash
  checkSha f.runVersionsHash
  require (f.instrument.IsScopeText ∧ f.strategy.IsScopeText ∧ f.session.IsScopeText)
    (valueError "gate requests require an exact execution scope")
  require (Decimal.ofNat 0 < f.quantity)
    (valueError "gate requests require a positive finite Decimal quantity")

instance : Dataclass GateRequestFields := ⟨postInit⟩

end GateRequestFields

/-- A request for authority to execute one plan. -/
abbrev GateRequest := Frozen GateRequestFields

/-- The scope matches what the request asks for. -/
abbrev MandateScope.MatchesRequest (s : MandateScope) (r : GateRequest) : Prop :=
  s.Matches r.fields.accountId r.fields.instrument r.fields.strategy r.fields.session
    r.fields.action r.fields.quantity

/-- The scope permits what the request asks for. -/
abbrev ApprovalScope.PermitsRequest (s : ApprovalScope) (r : GateRequest) (now : RecordedAt) :
    Prop :=
  s.Permits r.fields.accountId r.fields.instrument r.fields.strategy r.fields.session
    r.fields.action r.fields.quantity now

/-- The fields of a `PlanApproval`, with the defaults of the dataclass. -/
structure PlanApprovalFields where
  approvalId : EntityId
  version : ℤ
  status : PlanApprovalStatus
  planId : EntityId
  planVersion : ℤ
  planHash : Text
  accountId : EntityId
  scope : ApprovalScope
  approvalToken : EntityId
  requestedBy : Text
  expiresAt : RecordedAt
  requestedAt : RecordedAt
  consumerBasisId : Option EntityId := none
  consumedAt : Option RecordedAt := none
  decidedAt : Option RecordedAt := none
  decidedBy : Option Text := none
  schemaVersion : SchemaVersion := v2AuthorizationSchema
  sourceRef : Text := "source:v2"
  deriving DecidableEq

namespace PlanApprovalFields

def postInit (f : PlanApprovalFields) : Py Unit := do
  checkPositiveVersion f.version
  checkSourceRef f.sourceRef "approval"
  checkPositiveVersion f.planVersion
  checkSha f.planHash
  require (f.accountId = f.scope.fields.simulationAccountId)
    (valueError "approval account must equal its non-expandable scope account")
  checkActor f.requestedBy
  require (f.requestedAt < f.expiresAt) (valueError "approvals require future expiry")
  require (f.requestedAt ≤ f.scope.fields.validFromAt ∧ f.scope.fields.validUntilAt ≤ f.expiresAt)
    (valueError "approval scope must remain within the approval validity window")
  require (f.status = .CONSUMED → f.consumerBasisId ≠ none ∧ f.consumedAt ≠ none)
    (valueError "consumed approvals require their one consumer basis")
  require (f.status ≠ .CONSUMED → f.consumerBasisId = none ∧ f.consumedAt = none)
    (valueError "only consumed approvals may name a consumer")
  require (f.status ∈ [.GRANTED, .REJECTED, .CONSUMED] →
      f.decidedAt ≠ none ∧ f.decidedBy.getD [] ≠ [])
    (valueError "decided approvals require a decision actor and timestamp")
  whenSome f.decidedBy checkActor
  require (f.status ∈ [.GRANTED, .CONSUMED] → IsHuman (f.decidedBy.getD []))
    ⟨.permissionError, "only a human user may grant a plan approval"⟩

instance : Dataclass PlanApprovalFields := ⟨postInit⟩

end PlanApprovalFields

/-- A version of a plan approval. -/
abbrev PlanApproval := Frozen PlanApprovalFields

namespace PlanApproval

variable (a : PlanApproval)

def authorizationHash [Hashlib] : Py Text := do
  let scope ← a.fields.scope.scopeHash
  let schemaVersion ← a.fields.schemaVersion.str
  canonicalSha256 (.obj [
    ("id", .str a.fields.approvalId.str),
    ("version", .int a.fields.version),
    ("plan", .str a.fields.planId.str),
    ("plan_version", .int a.fields.planVersion),
    ("plan_hash", .str a.fields.planHash),
    ("account", .str a.fields.accountId.str),
    ("scope", .str scope),
    ("token", .str a.fields.approvalToken.str),
    ("requested_by", .str a.fields.requestedBy),
    ("decided_at", Json.optionalText (a.fields.decidedAt.map RecordedAt.text)),
    ("decided_by", Json.optionalText a.fields.decidedBy),
    ("expiry", .str a.fields.expiresAt.text),
    ("status", .str a.fields.status.value),
    ("schema_version", .str schemaVersion),
    ("source_ref", .str a.fields.sourceRef)])

variable {a} in
theorem exists_authorizationHash [Hashlib] (hversion : FitsStr a.fields.version)
    (hplan : FitsStr a.fields.planVersion) (hschema : a.fields.schemaVersion.FitsStr) :
    ∃ digest, a.authorizationHash = .ok digest ∧ digest.IsHexDigest := by
  obtain ⟨scope, hscope, -⟩ := a.fields.scope.exists_scopeHash
  rw [authorizationHash, hscope, Py.ok_bind, SchemaVersion.str_of_fits hschema, Py.ok_bind]
  apply exists_canonicalSha256_of_isWritable
  simpa [Json.membersWritable, hversion] using hplan

def grantedAuthorizationHash [Hashlib] : Py Text :=
  match a.fields.status with
  | .GRANTED => a.authorizationHash
  | .CONSUMED => do
    let granted ← a.replace (fun f => { f with
      status := .GRANTED
      version := f.version - 1
      consumerBasisId := none
      consumedAt := none })
    authorizationHash granted
  | _ => .error (valueError "only granted or consumed approvals have a grant source hash")

variable {a} in
theorem grantedAuthorizationHash_of_consumed [Hashlib] (granted : PlanApproval)
    (hstatus : a.fields.status = .CONSUMED)
    (hfields : granted.fields = { a.fields with
      status := .GRANTED
      version := a.fields.version - 1
      consumerBasisId := none
      consumedAt := none }) : a.grantedAuthorizationHash = granted.authorizationHash := by
  unfold grantedAuthorizationHash
  rw [hstatus]
  show (Frozen.make _ >>= fun granted => PlanApproval.authorizationHash granted) = _
  rw [Frozen.make_eq_ok.mpr hfields, Py.ok_bind]

def statusAt (now : RecordedAt) : PlanApprovalStatus :=
  if a.fields.status ∈ [.REQUESTED, .GRANTED] ∧ a.fields.expiresAt ≤ now then .EXPIRED
  else a.fields.status

def decide (target : PlanApprovalStatus) (now : RecordedAt) (actor : Text) : Py PlanApproval := do
  require (a.statusAt now = .REQUESTED) (valueError "only requested approvals may be decided")
  require (target ∈ [.GRANTED, .REJECTED])
    (valueError "approval decisions are GRANTED or REJECTED")
  checkActor actor
  require (target = .GRANTED → IsHuman actor)
    ⟨.permissionError, "only a human user may grant a plan approval"⟩
  a.replace (fun f => { f with
    status := target
    version := f.version + 1
    decidedAt := some now
    decidedBy := some actor })

/-- The earlier of two times, `min(…, key=lambda at: at.value)`; the first of two equal ones. -/
def earlier (s t : RecordedAt) : RecordedAt := if t < s then t else s

end PlanApproval

end FuturesAgentOs
