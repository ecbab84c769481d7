import FuturesAgentOs.Decision.Mandate

namespace FuturesAgentOs

open PyModel

/-!
# Mode bindings

`decision/autonomy_contracts.py`, `AutonomyModeBinding` and `EffectiveAutonomy`: which mode an
account runs in and under which version of which mandate.
-/

/-- The fields of an `AutonomyModeBinding`, with the defaults of the dataclass. -/
structure ModeBindingFields where
  bindingId : EntityId
  version : ℤ
  mode : AutonomyMode
  status : BindingStatus
  simulationAccountId : Option EntityId
  mandateId : Option EntityId
  mandateVersion : Option ℤ
  runVersionsHash : Text
  expiresAt : RecordedAt
  recordedAt : RecordedAt
  scopeSnapshotHash : Text
  scanPolicyRef : Text
  universePolicyRef : Text
  qualifiedArtifactRef : Option Text
  transitionReason : Text
  transitionActor : Text
  evidenceRef : Text
  previousMode : Option AutonomyMode := none
  schemaVersion : SchemaVersion := v2AuthorizationSchema
  sourceRef : Text := "source:v2"
  deriving DecidableEq

namespace ModeBindingFields

/-- The binding names no mandate. -/
def NamesNoMandate (f : ModeBindingFields) : Prop := f.mandateId = none ∧ f.mandateVersion = none

/-- The binding names an account, a mandate and what qualified it. -/
def NamesMandate (f : ModeBindingFields) : Prop :=
  f.simulationAccountId ≠ none ∧ f.mandateId ≠ none ∧ f.mandateVersion ≠ none
    ∧ f.qualifiedArtifactRef ≠ none

instance (f : ModeBindingFields) : Decidable f.NamesNoMandate :=
  inferInstanceAs (Decidable (_ ∧ _))

instance (f : ModeBindingFields) : Decidable f.NamesMandate :=
  inferInstanceAs (Decidable (_ ∧ _))

/-- What the status asks of the expiry. -/
def checkExpiry (f : ModeBindingFields) : Py Unit :=
  if f.status = .EXPIRED then
    require (f.expiresAt ≤ f.recordedAt)
      (valueError "expired bindings may only be recorded at or after expiry")
  else
    require (f.status = .ACTIVE → f.recordedAt < f.expiresAt)
      (valueError "active bindings require a future expiry")

/-- What the mode asks of the account and the mandate. -/
def checkMode (f : ModeBindingFields) : Py Unit :=
  match f.mode with
  | .OBSERVE =>
    require f.NamesNoMandate (valueError "observe bindings cannot name a mandate")
  | .SHADOW =>
    require (f.simulationAccountId ≠ none ∧ f.NamesNoMandate)
      (valueError "shadow requires an account and no mandate")
  | .AUTONOMOUS_SIMULATION =>
    require f.NamesMandate (valueError "autonomous simulation requires account and mandate")
  | .PAUSED =>
    match f.previousMode with
    | none | some .PAUSED =>
      .error (valueError "paused bindings retain a legal previous mode")
    | some .OBSERVE =>
      require f.NamesNoMandate (valueError "paused observe bindings cannot name a mandate")
    | some .SHADOW =>
      require (f.simulationAccountId ≠ none ∧ f.NamesNoMandate)
        (valueError "paused shadow bindings require account and no mandate")
    | some .AUTONOMOUS_SIMULATION =>
      require f.NamesMandate
        (valueError "paused autonomous bindings retain account, mandate, and qualification")

def postInit (f : ModeBindingFields) : Py Unit := do
  checkPositiveVersion f.version
  checkSourceRef f.sourceRef "mode binding"
  checkSha f.runVersionsHash
  checkSha f.scopeSnapshotHash
  f.checkExpiry
  require (∀ t ∈ [f.scanPolicyRef, f.universePolicyRef, f.transitionReason, f.transitionActor,
      f.evidenceRef], t ≠ [])
    (valueError "mode bindings require scope policy and transition evidence references")
  checkActor f.transitionActor
  require (∀ ref ∈ f.qualifiedArtifactRef, ref.IsScopeText)
    (valueError "qualified artifact reference must be canonical when supplied")
  f.checkMode
  whenSome f.mandateVersion checkPositiveVersion

instance : Dataclass ModeBindingFields := ⟨postInit⟩

end ModeBindingFields

/-- A version of a mode binding. -/
abbrev AutonomyModeBinding := Frozen ModeBindingFields

/-- `None`, or a JSON text. -/
def Json.optionalText (t : Option Text) : Json := (t.map .str).getD .null

@[simp] theorem Json.isWritable_optionalText (t : Option Text) :
    (Json.optionalText t).isWritable = true := by
  cases t <;> rfl

/-- `None`, or a JSON integer. -/
def Json.optionalInt (n : Option ℤ) : Json := (n.map .int).getD .null

@[simp] theorem Json.isWritable_optionalInt (n : Option ℤ) :
    (Json.optionalInt n).isWritable = true ↔ ∀ k ∈ n, FitsStr k := by
  cases n with
  | none => exact ⟨fun _ k hk => (by cases hk), fun _ => rfl⟩
  | some n => simp [Json.optionalInt]

namespace AutonomyModeBinding

variable (b : AutonomyModeBinding)

def bindingHash [Hashlib] : Py Text := do
  let schemaVersion ← b.fields.schemaVersion.str
  canonicalSha256 (.obj [
    ("id", .str b.fields.bindingId.str),
    ("version", .int b.fields.version),
    ("mode", .str b.fields.mode.value),
    ("status", .str b.fields.status.value),
    ("account", Json.optionalText (b.fields.simulationAccountId.map EntityId.str)),
    ("mandate", Json.optionalText (b.fields.mandateId.map EntityId.str)),
    ("mandate_version", Json.optionalInt b.fields.mandateVersion),
    ("run_versions", .str b.fields.runVersionsHash),
    ("scope", .str b.fields.scopeSnapshotHash),
    ("scan_policy", .str b.fields.scanPolicyRef),
    ("universe_policy", .str b.fields.universePolicyRef),
    ("qualified_artifact", Json.optionalText b.fields.qualifiedArtifactRef),
    ("transition_reason", .str b.fields.transitionReason),
    ("transition_actor", .str b.fields.transitionActor),
    ("evidence", .str b.fields.evidenceRef),
    ("previous_mode", Json.optionalText (b.fields.previousMode.map AutonomyMode.value)),
    ("expiry", .str b.fields.expiresAt.text),
    ("schema_version", .str schemaVersion),
    ("source_ref", .str b.fields.sourceRef)])

variable {b} in
theorem exists_bindingHash [Hashlib] (hversion : FitsStr b.fields.version)
    (hmandate : ∀ version ∈ b.fields.mandateVersion, FitsStr version)
    (hschema : b.fields.schemaVersion.FitsStr) :
    ∃ digest, b.bindingHash = .ok digest ∧ digest.IsHexDigest := by
  rw [bindingHash, SchemaVersion.str_of_fits hschema, Py.ok_bind]
  apply exists_canonicalSha256_of_isWritable
  simpa [Json.membersWritable, hversion] using hmandate

def IsActiveAt (now : RecordedAt) : Prop := b.fields.status = .ACTIVE ∧ now < b.fields.expiresAt

instance (now : RecordedAt) : Decidable (b.IsActiveAt now) := inferInstanceAs (Decidable (_ ∧ _))

def pause (now : RecordedAt) (reason actor evidenceRef : Text) (mandateVersion : Option ℤ) :
    Py AutonomyModeBinding := do
  require (b.IsActiveAt now ∧ b.fields.mode ≠ .PAUSED)
    (valueError "only active non-paused bindings may pause")
  require (reason ≠ [] ∧ actor ≠ [] ∧ evidenceRef ≠ [])
    (valueError "pauses require reason, actor, and evidence")
  checkActor actor
  whenSome mandateVersion checkPositiveVersion
  b.replace (fun f => { f with
    mode := .PAUSED
    previousMode := some f.mode
    mandateVersion := if mandateVersion = none then f.mandateVersion else mandateVersion
    transitionReason := reason
    transitionActor := actor
    evidenceRef := evidenceRef
    version := f.version + 1
    recordedAt := now })

/-- The version of the mandate that a resumed binding names. -/
def resumedVersion (now : RecordedAt) (qualified healthPermits : Bool)
    (mandate : Option SimulationAutonomyMandate) (runVersionsHash : Text) : Py (Option ℤ) :=
  if b.fields.previousMode = some .AUTONOMOUS_SIMULATION then
    let refused := valueError
      "autonomous resume requires the exact active mandate, qualified run, and health"
    match mandate with
    | none => .error refused
    | some mandate => do
      require (mandate.IsActiveAt now ∧ b.fields.mandateId = some mandate.fields.mandateId
        ∧ qualified = true ∧ healthPermits = true ∧ b.fields.runVersionsHash = runVersionsHash)
        refused
      .ok (some mandate.fields.version)
  else .ok none

def resume (now : RecordedAt) (actorIsHuman : Bool) (actor : Text)
    (qualified healthPermits : Bool) (mandate : Option SimulationAutonomyMandate)
    (runVersionsHash evidenceRef : Text) : Py AutonomyModeBinding := do
  let refused : PyException :=
    ⟨.permissionError, "only an authorized actor may resume an active paused binding"⟩
  require (actorIsHuman = true ∧ b.IsActiveAt now ∧ b.fields.mode = .PAUSED) refused
  match b.fields.previousMode with
  | none => .error refused
  | some previousMode => do
    checkSha runVersionsHash
    checkActor actor
    require (IsHuman actor) ⟨.permissionError, "binding resume requires a human actor"⟩
    require (evidenceRef ≠ []) (valueError "resume requires actor and evidence")
    let mandateVersion ← b.resumedVersion now qualified healthPermits mandate runVersionsHash
    b.replace (fun f => { f with
      mode := previousMode
      previousMode := none
      mandateVersion := mandateVersion
      transitionReason := "USER_RESUME"
      transitionActor := actor
      evidenceRef := evidenceRef
      version := f.version + 1
      recordedAt := now })

def expire (now : RecordedAt) : Py AutonomyModeBinding := do
  require (b.fields.status = .ACTIVE ∧ b.fields.expiresAt ≤ now)
    (valueError "bindings only expire at their expiry boundary")
  b.replace (fun f => { f with
    status := .EXPIRED
    version := f.version + 1
    recordedAt := now })

def supersede (now : RecordedAt) : Py AutonomyModeBinding := do
  require (b.IsActiveAt now) (valueError "only active bindings may be superseded")
  b.replace (fun f => { f with
    status := .SUPERSEDED
    version := f.version + 1
    recordedAt := now })

end AutonomyModeBinding

/-- Whether a mandate and a binding together permit autonomous action, and the reason. -/
structure EffectiveAutonomy where
  permitted : Bool
  reason : Text
  deriving DecidableEq

namespace EffectiveAutonomy

/-- The part of `evaluate` that has an active mandate and an active binding. -/
def ofBinding [Hashlib] (mandate : SimulationAutonomyMandate) (binding : AutonomyModeBinding)
    (qualified : Bool) : Py EffectiveAutonomy :=
  if binding.fields.mode = .PAUSED then .ok ⟨false, "MODE_PAUSED"⟩
  else if binding.fields.mode ≠ .AUTONOMOUS_SIMULATION then .ok ⟨false, "MODE_INACTIVE"⟩
  else if binding.fields.mandateId ≠ some mandate.fields.mandateId
      ∨ binding.fields.mandateVersion ≠ some mandate.fields.version then
    .ok ⟨false, "MANDATE_BINDING_MISMATCH"⟩
  else if binding.fields.simulationAccountId
      ≠ some mandate.fields.scope.fields.simulationAccountId then
    .ok ⟨false, "BINDING_ACCOUNT_MISMATCH"⟩
  else do
    let scope ← mandate.fields.scope.digest
    if binding.fields.scopeSnapshotHash ≠ scope then .ok ⟨false, "BINDING_SCOPE_MISMATCH"⟩
    else if qualified = false then .ok ⟨false, "RUN_UNQUALIFIED"⟩
    else .ok ⟨true, "EFFECTIVE"⟩

def evaluate [Hashlib] (mandate : Option SimulationAutonomyMandate)
    (binding : Option AutonomyModeBinding) (qualified healthPermits : Bool) (now : RecordedAt) :
    Py EffectiveAutonomy :=
  if healthPermits = false then .ok ⟨false, "HEALTH_BLOCKED"⟩
  else
    match mandate with
    | none => .ok ⟨false, "MANDATE_INACTIVE"⟩
    | some mandate =>
      if ¬ mandate.IsActiveAt now then
        if mandate.statusAt now ∈ [.HALTED, .SUSPENDED] then .ok ⟨false, "MANDATE_PROTECT_ONLY"⟩
        else .ok ⟨false, "MANDATE_INACTIVE"⟩
      else
        match binding with
        | none => .ok ⟨false, "MODE_INACTIVE"⟩
        | some binding =>
          if ¬ binding.IsActiveAt now then .ok ⟨false, "MODE_INACTIVE"⟩
          else ofBinding mandate binding qualified

end EffectiveAutonomy

/-! ### What an operation returns -/

namespace AutonomyModeBinding

variable {b b' : AutonomyModeBinding} {now : RecordedAt}

/-- **What a pause returns.** -/
theorem pause_eq_ok {reason actor evidenceRef : Text} {mandateVersion : Option ℤ}
    (h : b.pause now reason actor evidenceRef mandateVersion = .ok b') :
    b.IsActiveAt now ∧ b.fields.mode ≠ .PAUSED
      ∧ b'.fields.bindingId = b.fields.bindingId ∧ b'.fields.mode = .PAUSED
      ∧ b'.fields.version = b.fields.version + 1 := by
  unfold pause at h
  simp only [require_bind_eq_ok] at h
  obtain ⟨hactive, -, h⟩ := h
  obtain ⟨u, -, h⟩ := Py.of_bind h
  obtain ⟨u, -, h⟩ := Py.of_bind h
  rw [Frozen.replace_eq_ok] at h
  exact ⟨hactive.1, hactive.2, by rw [h], by rw [h], by rw [h]⟩

/-- **What a resumption returns.** -/
theorem resume_eq_ok {actorIsHuman qualified healthPermits : Bool}
    {actor runVersionsHash evidenceRef : Text} {mandate : Option SimulationAutonomyMandate}
    (h : b.resume now actorIsHuman actor qualified healthPermits mandate runVersionsHash
      evidenceRef = .ok b') :
    IsHuman actor ∧ b.fields.mode = .PAUSED
      ∧ b'.fields.bindingId = b.fields.bindingId
      ∧ b'.fields.version = b.fields.version + 1 := by
  unfold resume at h
  simp only [require_bind_eq_ok] at h
  obtain ⟨⟨-, -, hmode⟩, h⟩ := h
  split at h
  · cases h
  · obtain ⟨u, -, h⟩ := Py.of_bind h
    obtain ⟨u, -, h⟩ := Py.of_bind h
    simp only [require_bind_eq_ok] at h
    obtain ⟨hhuman, -, h⟩ := h
    obtain ⟨version, -, h⟩ := Py.of_bind h
    rw [Frozen.replace_eq_ok] at h
    exact ⟨hhuman, hmode, by rw [h], by rw [h]⟩

end AutonomyModeBinding

end FuturesAgentOs
