import FuturesAgentOs.SharedKernel.Contracts
import FuturesAgentOs.SharedKernel.Ids
import FuturesAgentOs.SharedKernel.IsoTime
import FuturesAgentOs.SharedKernel.Observability
import Mathlib.Data.Finset.Dedup

namespace FuturesAgentOs

open PyModel

/-!
# The vocabulary of simulation autonomy

`decision/autonomy_contracts.py`: the checks and enumerations that every authorization record
uses, and the two scopes, `ApprovalScope` and `MandateScope`.  A tuple of texts is a list, a
frozen set of actions a `Finset`; a digest is computed by a call that may raise.
-/

def v2AuthorizationSchema : SchemaVersion := ⟨⟨1, 0⟩, v2ContractSchema.valid⟩

/-! ### Checks -/

/-- `_sha` -/
def checkSha (value : Text) : Py Unit :=
  require value.IsHexDigest (valueError "hashes must be lowercase SHA-256 digests")

/-- `_positive_version` -/
def checkPositiveVersion (value : ℤ) : Py Unit :=
  require (1 ≤ value) (valueError "version must be a positive integer")

/-- What stands before the first colon, and after it. -/
def splitColon (value : Text) : Text × Text :=
  (value.takeWhile (fun c => c ≠ Text.ofChar ':'),
    (value.dropWhile (fun c => c ≠ Text.ofChar ':')).drop 1)

/-- `_actor` -/
def checkActor (value : Text) : Py Unit := do
  require (value = value.strip ∧ Text.ofChar ':' ∈ value)
    (valueError "actors must be non-empty canonical identities")
  require ((splitColon value).1 ∈ [("user" : Text), "service", "system"]
      ∧ (splitColon value).2.IsScopeText)
    (valueError "actors require a non-empty user, service, or system subject")

/-- `source_ref.strip()` and no character of it is a space. -/
def checkSourceRef (value : Text) (label : Text) : Py Unit :=
  require (value.strip ≠ [] ∧ value.all (fun c => !Text.isSpace c) = true)
    (valueError (label ++ Text.ofString " source_ref must be canonical"))

/-- `actor.startswith("user:")` -/
def IsHuman (actor : Text) : Prop := Text.ofString "user:" <+: actor

instance (actor : Text) : Decidable (IsHuman actor) :=
  inferInstanceAs (Decidable (Text.ofString "user:" <+: actor))

/-! ### Enumerations -/

inductive MandateStatus where
  | DRAFT | VALIDATED | APPROVED | ACTIVE | SUSPENDED | EXPIRED | REVOKED | HALTED | RECOVERING
  deriving DecidableEq

def MandateStatus.value : MandateStatus → Text
  | DRAFT => "DRAFT"
  | VALIDATED => "VALIDATED"
  | APPROVED => "APPROVED"
  | ACTIVE => "ACTIVE"
  | SUSPENDED => "SUSPENDED"
  | EXPIRED => "EXPIRED"
  | REVOKED => "REVOKED"
  | HALTED => "HALTED"
  | RECOVERING => "RECOVERING"

inductive AutonomyMode where
  | OBSERVE | SHADOW | AUTONOMOUS_SIMULATION | PAUSED
  deriving DecidableEq

def AutonomyMode.value : AutonomyMode → Text
  | OBSERVE => "OBSERVE"
  | SHADOW => "SHADOW"
  | AUTONOMOUS_SIMULATION => "AUTONOMOUS_SIMULATION"
  | PAUSED => "PAUSED"

inductive BindingStatus where
  | ACTIVE | EXPIRED | SUPERSEDED
  deriving DecidableEq

def BindingStatus.value : BindingStatus → Text
  | ACTIVE => "ACTIVE"
  | EXPIRED => "EXPIRED"
  | SUPERSEDED => "SUPERSEDED"

inductive PlanApprovalStatus where
  | REQUESTED | GRANTED | REJECTED | EXPIRED | CONSUMED
  deriving DecidableEq

def PlanApprovalStatus.value : PlanApprovalStatus → Text
  | REQUESTED => "REQUESTED"
  | GRANTED => "GRANTED"
  | REJECTED => "REJECTED"
  | EXPIRED => "EXPIRED"
  | CONSUMED => "CONSUMED"

inductive EscalationMode where
  | SKIP_AND_NOTIFY | REQUEST_ONE_OFF
  deriving DecidableEq

def EscalationMode.value : EscalationMode → Text
  | SKIP_AND_NOTIFY => "SKIP_AND_NOTIFY"
  | REQUEST_ONE_OFF => "REQUEST_ONE_OFF"

inductive BasisKind where
  | MANDATE | PLAN_APPROVAL
  deriving DecidableEq

def BasisKind.value : BasisKind → Text
  | MANDATE => "MANDATE"
  | PLAN_APPROVAL => "PLAN_APPROVAL"

inductive BasisStatus where
  | ACTIVE | STALE | EXPIRED | CONSUMED
  deriving DecidableEq

def BasisStatus.value : BasisStatus → Text
  | ACTIVE => "ACTIVE"
  | STALE => "STALE"
  | EXPIRED => "EXPIRED"
  | CONSUMED => "CONSUMED"

inductive ExecutionOrigin where
  | AUTONOMOUS_AGENT | MANUAL_TEST
  deriving DecidableEq

/-- The action vocabulary of an approval. -/
inductive ApprovalAction where
  | OPEN | REDUCE | CLOSE
  deriving DecidableEq

def ApprovalAction.value : ApprovalAction → Text
  | OPEN => "OPEN"
  | REDUCE => "REDUCE"
  | CLOSE => "CLOSE"

theorem ApprovalAction.value_inj {a b : ApprovalAction} (h : a.value = b.value) : a = b := by
  cases a <;> cases b <;> first | rfl | (revert h; decide)

/-- `tuple(sorted(action.value for action in actions))` -/
def sortedActions (actions : Finset ApprovalAction) : List Text :=
  ([ApprovalAction.CLOSE, .OPEN, .REDUCE].filter (fun action => action ∈ actions)).map (·.value)

/-! ### Scopes -/

/-- A dimension of a scope: canonical texts, sorted and without repetition. -/
def IsDimension (texts : List Text) : Prop :=
  texts ≠ [] ∧ (∀ t ∈ texts, t.IsScopeText) ∧ texts.Nodup
    ∧ texts.Pairwise (fun a b => Text.le a b = true)

instance (texts : List Text) : Decidable (IsDimension texts) :=
  inferInstanceAs (Decidable (_ ∧ _))

/-- A JSON array of texts. -/
def Json.texts (texts : List Text) : Json := .arr (texts.map .str)

@[simp] theorem Json.isWritable_texts (ts : List Text) : (Json.texts ts).isWritable = true := by
  rw [Json.texts, Json.isWritable, Json.areWritable_iff, List.forall_mem_map]
  exact fun _ _ => rfl

structure ApprovalScopeFields where
  simulationAccountId : EntityId
  instruments : List Text
  strategies : List Text
  sessions : List Text
  actions : Finset ApprovalAction
  quantityCeiling : Decimal
  validFromAt : RecordedAt
  validUntilAt : RecordedAt
  deriving DecidableEq

namespace ApprovalScopeFields

def postInit (f : ApprovalScopeFields) : Py Unit := do
  require (IsDimension f.instruments ∧ IsDimension f.strategies ∧ IsDimension f.sessions)
    (valueError "approval scope dimensions must be canonical immutable sorted text tuples")
  require (f.actions ≠ ∅)
    (typeError "approval scope actions must be a non-empty immutable ApprovalAction set")
  require (Decimal.ofNat 0 < f.quantityCeiling)
    (valueError "approval scope quantity ceiling must be a positive finite Decimal")
  require (f.validFromAt < f.validUntilAt)
    (valueError "approval scope requires a non-empty validity window")

instance : Dataclass ApprovalScopeFields := ⟨postInit⟩

end ApprovalScopeFields

/-- The account, action, quantity and time envelope of an approval. -/
abbrev ApprovalScope := Frozen ApprovalScopeFields

namespace ApprovalScope

def Permits (s : ApprovalScope) (accountId : EntityId) (instrument strategy session : Text)
    (action : ApprovalAction) (quantity : Decimal) (now : RecordedAt) : Prop :=
  accountId = s.fields.simulationAccountId ∧ instrument ∈ s.fields.instruments
    ∧ strategy ∈ s.fields.strategies ∧ session ∈ s.fields.sessions
    ∧ Decimal.ofNat 0 < quantity ∧ quantity ≤ s.fields.quantityCeiling
    ∧ action ∈ s.fields.actions ∧ s.fields.validFromAt ≤ now ∧ now < s.fields.validUntilAt

instance (s : ApprovalScope) (accountId : EntityId) (instrument strategy session : Text)
    (action : ApprovalAction) (quantity : Decimal) (now : RecordedAt) :
    Decidable (s.Permits accountId instrument strategy session action quantity now) :=
  inferInstanceAs (Decidable (_ ∧ _))

def scopeHash [Hashlib] (s : ApprovalScope) : Py Text :=
  canonicalSha256 (.obj [
    ("account", .str s.fields.simulationAccountId.str),
    ("instruments", Json.texts s.fields.instruments),
    ("strategies", Json.texts s.fields.strategies),
    ("sessions", Json.texts s.fields.sessions),
    ("actions", Json.texts (sortedActions s.fields.actions)),
    ("quantity_ceiling", .str s.fields.quantityCeiling.str),
    ("valid_from", .str s.fields.validFromAt.text),
    ("valid_until", .str s.fields.validUntilAt.text)])

theorem exists_scopeHash [Hashlib] (s : ApprovalScope) :
    ∃ digest, s.scopeHash = .ok digest ∧ digest.IsHexDigest := by
  apply exists_canonicalSha256_of_isWritable
  simp [Json.membersWritable]

end ApprovalScope

/-- The fields of a `MandateScope`, with the default of the dataclass. -/
structure MandateScopeFields where
  simulationAccountId : EntityId
  instruments : List Text
  strategies : List Text
  sessions : List Text
  actions : Finset ApprovalAction
  quantityCeiling : Decimal
  riskConstitutionRef : Text
  notificationPolicyRef : Text
  escalationPolicyRef : Text
  escalationMode : EscalationMode := .SKIP_AND_NOTIFY
  deriving DecidableEq

namespace MandateScopeFields

def postInit (f : MandateScopeFields) : Py Unit := do
  require (IsDimension f.instruments ∧ IsDimension f.strategies ∧ IsDimension f.sessions)
    (valueError "mandate scope collections must be canonical sorted text tuples")
  require (f.actions ≠ ∅)
    (typeError "mandate scope actions must be a non-empty immutable ApprovalAction set")
  require (Decimal.ofNat 0 < f.quantityCeiling)
    (valueError "mandate scope quantity ceiling must be a positive finite Decimal")
  require (f.riskConstitutionRef.IsScopeText ∧ f.notificationPolicyRef.IsScopeText
      ∧ f.escalationPolicyRef.IsScopeText)
    (valueError "mandate scope requires canonical risk, notification, and escalation references")

instance : Dataclass MandateScopeFields := ⟨postInit⟩

end MandateScopeFields

/-- The envelope of a user delegation. -/
abbrev MandateScope := Frozen MandateScopeFields

namespace MandateScope

def Matches (s : MandateScope) (accountId : EntityId) (instrument strategy session : Text)
    (action : ApprovalAction) (quantity : Decimal) : Prop :=
  accountId = s.fields.simulationAccountId ∧ instrument ∈ s.fields.instruments
    ∧ strategy ∈ s.fields.strategies ∧ session ∈ s.fields.sessions
    ∧ action ∈ s.fields.actions ∧ Decimal.ofNat 0 < quantity
    ∧ quantity ≤ s.fields.quantityCeiling

instance (s : MandateScope) (accountId : EntityId) (instrument strategy session : Text)
    (action : ApprovalAction) (quantity : Decimal) :
    Decidable (s.Matches accountId instrument strategy session action quantity) :=
  inferInstanceAs (Decidable (_ ∧ _))

/-- `MandateScope.sha256` -/
def digest [Hashlib] (s : MandateScope) : Py Text :=
  canonicalSha256 (.obj [
    ("account", .str s.fields.simulationAccountId.str),
    ("instruments", Json.texts s.fields.instruments),
    ("strategies", Json.texts s.fields.strategies),
    ("sessions", Json.texts s.fields.sessions),
    ("actions", Json.texts (sortedActions s.fields.actions)),
    ("quantity_ceiling", .str s.fields.quantityCeiling.str),
    ("risk_constitution_ref", .str s.fields.riskConstitutionRef),
    ("notification_policy_ref", .str s.fields.notificationPolicyRef),
    ("escalation_policy_ref", .str s.fields.escalationPolicyRef),
    ("escalation_mode", .str s.fields.escalationMode.value)])

theorem exists_digest [Hashlib] (s : MandateScope) :
    ∃ digest, s.digest = .ok digest ∧ digest.IsHexDigest := by
  apply exists_canonicalSha256_of_isWritable
  simp [Json.membersWritable]

end MandateScope

end FuturesAgentOs
