import FuturesAgentOs.Decision.Authorization

namespace FuturesAgentOs

open PyModel

/-!
# Mandates

`decision/autonomy_contracts.py`, `SimulationAutonomyMandate` and `MandateRecovery`.  A mandate
is a value: an operation returns the next version of it.  The inversion lemmas
(`transition_eq_ok`, `begin_eq_ok`, `complete_eq_ok`) say everything an operation that returns
has checked and what it returns.
-/

def mandateTransitions : MandateStatus → List MandateStatus
  | .DRAFT => [.VALIDATED]
  | .VALIDATED => [.APPROVED]
  | .APPROVED => [.ACTIVE, .REVOKED]
  | .ACTIVE => [.SUSPENDED, .HALTED, .REVOKED]
  | .SUSPENDED => [.ACTIVE, .REVOKED]
  | .HALTED => [.RECOVERING, .REVOKED]
  | .RECOVERING => [.ACTIVE, .HALTED, .REVOKED]
  | .EXPIRED => []
  | .REVOKED => []

/-- The fields of a `SimulationAutonomyMandate`, with the defaults of the dataclass. -/
structure MandateFields where
  mandateId : EntityId
  version : ℤ
  status : MandateStatus
  scope : MandateScope
  expiresAt : RecordedAt
  recordedAt : RecordedAt
  recordedBy : Text
  revocationReason : Option Text := none
  schemaVersion : SchemaVersion := v2AuthorizationSchema
  sourceRef : Text := "source:v2"
  deriving DecidableEq

namespace MandateFields

/-- What the status asks of the expiry. -/
def checkExpiry (f : MandateFields) : Py Unit :=
  if f.status = .EXPIRED then
    require (f.expiresAt ≤ f.recordedAt)
      (valueError "expired mandates may only be recorded at or after expiry")
  else
    require (f.status = .REVOKED ∨ f.recordedAt < f.expiresAt)
      (valueError "nonterminal mandates require a future expiry")

def postInit (f : MandateFields) : Py Unit := do
  checkPositiveVersion f.version
  checkSourceRef f.sourceRef "mandate"
  f.checkExpiry
  checkActor f.recordedBy
  require (f.status = .REVOKED → f.revocationReason.getD [] ≠ [])
    (valueError "revoked mandates require a reason")

instance : Dataclass MandateFields := ⟨postInit⟩

end MandateFields

/-- A version of a mandate. -/
abbrev SimulationAutonomyMandate := Frozen MandateFields

namespace SimulationAutonomyMandate

variable (m : SimulationAutonomyMandate)

/-- `authorization_hash`; who recorded the version, when and why is left out. -/
def authorizationHash [Hashlib] : Py Text := do
  let scope ← m.fields.scope.digest
  let schemaVersion ← m.fields.schemaVersion.str
  canonicalSha256 (.obj [
    ("id", .str m.fields.mandateId.str),
    ("version", .int m.fields.version),
    ("scope", .str scope),
    ("expiry", .str m.fields.expiresAt.text),
    ("status", .str m.fields.status.value),
    ("schema_version", .str schemaVersion),
    ("source_ref", .str m.fields.sourceRef)])

def statusAt (now : RecordedAt) : MandateStatus :=
  if m.fields.status ∉ [.DRAFT, .EXPIRED, .REVOKED] ∧ m.fields.expiresAt ≤ now then .EXPIRED
  else m.fields.status

def IsActiveAt (now : RecordedAt) : Prop := m.statusAt now = .ACTIVE

instance (now : RecordedAt) : Decidable (m.IsActiveAt now) := inferInstanceAs (Decidable (_ = _))

def transition (target : MandateStatus) (now : RecordedAt) (actorIsHuman : Bool)
    (reason : Option Text) : Py SimulationAutonomyMandate :=
  let current := m.statusAt now
  if target = .EXPIRED then do
    require (current = .EXPIRED) (valueError "expiry is clock-derived")
    m.replace (fun f => { f with
      status := target
      version := f.version + 1
      recordedAt := now })
  else do
    require (target ∈ mandateTransitions current)
      (valueError (Text.ofString "invalid mandate transition: " ++ current.value
        ++ Text.ofString " -> " ++ target.value))
    require ((current, target) ∉ [(.HALTED, .RECOVERING), (.RECOVERING, .ACTIVE)])
      ⟨.permissionError, "HALTED recovery must use the explicit human recovery gate"⟩
    require (target ∈ [.ACTIVE, .RECOVERING, .REVOKED] → actorIsHuman = true)
      ⟨.permissionError, "agents cannot activate, recover, or revoke mandates"⟩
    require (target = .REVOKED → reason.getD [] ≠ []) (valueError "revocation requires a reason")
    require (now < m.fields.expiresAt) (valueError "expired mandates cannot transition")
    m.replace (fun f => { f with
      status := target
      revocationReason := if target = .REVOKED then reason else none
      version := f.version + 1
      recordedAt := now })

end SimulationAutonomyMandate

/-- A recovery from `HALTED`, with its evidence. -/
structure MandateRecovery where
  mandate : SimulationAutonomyMandate
  rootCauseRef : Text
  reconciliationRef : Text
  initiatedBy : Text
  deriving DecidableEq

namespace MandateRecovery

def begin (mandate : SimulationAutonomyMandate) (now : RecordedAt)
    (actor rootCauseRef reconciliationRef : Text) : Py MandateRecovery := do
  checkActor actor
  require (IsHuman actor) ⟨.permissionError, "HALTED recovery requires a human actor"⟩
  require (mandate.statusAt now = .HALTED)
    (valueError "only a non-expired HALTED mandate may begin recovery")
  require (rootCauseRef.IsScopeText ∧ reconciliationRef.IsScopeText)
    (valueError "recovery requires canonical root-cause and reconciliation evidence")
  let recovering ← mandate.replace (fun f => { f with
    status := .RECOVERING
    version := f.version + 1
    recordedAt := now
    recordedBy := actor
    revocationReason := none })
  .ok ⟨recovering, rootCauseRef, reconciliationRef, actor⟩

def complete (r : MandateRecovery) (now : RecordedAt) (actor governanceApprovalRef : Text)
    (qualified healthPermits : Bool) : Py SimulationAutonomyMandate := do
  checkActor actor
  require (IsHuman actor) ⟨.permissionError, "recovery activation requires a human actor"⟩
  require (r.mandate.statusAt now = .RECOVERING)
    (valueError "only a non-expired RECOVERING mandate may activate")
  require (governanceApprovalRef.IsScopeText ∧ qualified = true ∧ healthPermits = true)
    (valueError "recovery requires governance approval, qualification, and healthy reconciliation")
  r.mandate.replace (fun f => { f with
    status := .ACTIVE
    version := f.version + 1
    recordedAt := now
    recordedBy := actor })

end MandateRecovery

theorem SimulationAutonomyMandate.isHexDigest_of_authorizationHash [Hashlib]
    {m : SimulationAutonomyMandate} {digest : Text} (h : m.authorizationHash = .ok digest) :
    digest.IsHexDigest := by
  obtain ⟨scope, -, h⟩ := Py.of_bind h
  obtain ⟨schemaVersion, -, h⟩ := Py.of_bind h
  exact isHexDigest_of_canonicalSha256 h

/-! ### The status at a time -/

namespace SimulationAutonomyMandate

section

variable {m : SimulationAutonomyMandate} {now : RecordedAt}

theorem statusAt_of_revoked (h : m.fields.status = .REVOKED) : m.statusAt now = .REVOKED := by
  rw [statusAt, if_neg (by simp [h]), h]

theorem statusAt_of_expired (h : m.fields.status = .EXPIRED) : m.statusAt now = .EXPIRED := by
  rw [statusAt, if_neg (by simp [h]), h]

theorem statusAt_of_ne_expired (h : m.statusAt now ≠ .EXPIRED) :
    m.statusAt now = m.fields.status :=
  if_neg fun hpast => h (if_pos hpast)

end

/-! ### What an operation returns -/

/-- `m'` is the next version of `m`, with another status: the same mandate, scope and expiry. -/
structure Succeeds (m m' : SimulationAutonomyMandate) (now : RecordedAt)
    (status : MandateStatus) : Prop where
  mandateId : m'.fields.mandateId = m.fields.mandateId
  scope : m'.fields.scope = m.fields.scope
  expiresAt : m'.fields.expiresAt = m.fields.expiresAt
  version : m'.fields.version = m.fields.version + 1
  status : m'.fields.status = status
  recordedAt : m'.fields.recordedAt = now

variable {m m' : SimulationAutonomyMandate} {now : RecordedAt}

/-- **What a transition checks.**  It ends in the clock-derived `EXPIRED`, or follows the table,
leaves recovery alone, and activates and revokes only for a human. -/
theorem transition_eq_ok {target : MandateStatus} {actorIsHuman : Bool} {reason : Option Text}
    (h : m.transition target now actorIsHuman reason = .ok m') :
    m.Succeeds m' now target ∧
      ((target = .EXPIRED ∧ m.statusAt now = .EXPIRED) ∨
        (target ∈ mandateTransitions (m.statusAt now)
          ∧ (m.statusAt now, target) ∉ [(.HALTED, .RECOVERING), (.RECOVERING, .ACTIVE)]
          ∧ (target ∈ [.ACTIVE, .RECOVERING, .REVOKED] → actorIsHuman = true)
          ∧ now < m.fields.expiresAt)) := by
  unfold transition at h
  split at h
  · rename_i htarget
    rw [require_bind_eq_ok, Frozen.replace_eq_ok] at h
    obtain ⟨hcurrent, hfields⟩ := h
    have hsucceeds : m.Succeeds m' now target := by
      constructor <;> rw [hfields]
    exact ⟨hsucceeds, Or.inl ⟨htarget, hcurrent⟩⟩
  · simp only [require_bind_eq_ok, Frozen.replace_eq_ok] at h
    obtain ⟨htable, hrecovery, hhuman, -, hexpiry, hfields⟩ := h
    have hsucceeds : m.Succeeds m' now target := by
      constructor <;> rw [hfields]
    exact ⟨hsucceeds, Or.inr ⟨htable, hrecovery, hhuman, hexpiry⟩⟩

end SimulationAutonomyMandate

namespace MandateRecovery

open SimulationAutonomyMandate

/-- **What the beginning of a recovery checks.** -/
theorem begin_eq_ok {m : SimulationAutonomyMandate} {now : RecordedAt}
    {actor rootCauseRef reconciliationRef : Text} {r : MandateRecovery}
    (h : begin m now actor rootCauseRef reconciliationRef = .ok r) :
    IsHuman actor ∧ m.statusAt now = .HALTED ∧ m.Succeeds r.mandate now .RECOVERING := by
  unfold begin at h
  obtain ⟨u, -, h⟩ := Py.of_bind h
  simp only [require_bind_eq_ok] at h
  obtain ⟨hhuman, hstatus, -, h⟩ := h
  obtain ⟨recovering, hreplace, h⟩ := Py.of_bind h
  injection h with h
  subst h
  rw [Frozen.replace_eq_ok] at hreplace
  have hsucceeds : m.Succeeds recovering now .RECOVERING := by
    constructor <;> rw [hreplace]
  exact ⟨hhuman, hstatus, hsucceeds⟩

/-- **What the completion of a recovery checks.** -/
theorem complete_eq_ok {r : MandateRecovery} {now : RecordedAt}
    {actor governanceApprovalRef : Text} {qualified healthPermits : Bool}
    {m' : SimulationAutonomyMandate}
    (h : r.complete now actor governanceApprovalRef qualified healthPermits = .ok m') :
    IsHuman actor ∧ r.mandate.statusAt now = .RECOVERING ∧ r.mandate.Succeeds m' now .ACTIVE := by
  unfold complete at h
  obtain ⟨u, -, h⟩ := Py.of_bind h
  simp only [require_bind_eq_ok, Frozen.replace_eq_ok] at h
  obtain ⟨hhuman, hstatus, -, hfields⟩ := h
  have hsucceeds : r.mandate.Succeeds m' now .ACTIVE := by
    constructor <;> rw [hfields]
  exact ⟨hhuman, hstatus, hsucceeds⟩

end MandateRecovery

end FuturesAgentOs
