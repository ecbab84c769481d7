import FuturesAgentOs.PyModel.Builtins
import FuturesAgentOs.SharedKernel.Ids
import FuturesAgentOs.SharedKernel.IsoTime
import FuturesAgentOs.SharedKernel.Observability

namespace FuturesAgentOs

open PyModel

/-!
# Risk budget reservations

`portfolio_risk/reservation_contracts.py`, the record: what a reservation holds, what its
`__post_init__` checks, when two reservations are equal in Python (`SameAs`), and the only
way the ledger ever changes a row, `advance` (one version further, another status, at most a
smaller loss).
-/

inductive ReservationStatus where
  | HELD
  | CONSUMED
  | RELEASED
  | EXPIRED
  | RECONCILED
  deriving DecidableEq

def ReservationStatus.value : ReservationStatus → Text
  | HELD => "HELD"
  | CONSUMED => "CONSUMED"
  | RELEASED => "RELEASED"
  | EXPIRED => "EXPIRED"
  | RECONCILED => "RECONCILED"

inductive ReservationSourceKind where
  | MANDATE
  | PLAN_APPROVAL
  deriving DecidableEq

def ReservationSourceKind.value : ReservationSourceKind → Text
  | MANDATE => "MANDATE"
  | PLAN_APPROVAL => "PLAN_APPROVAL"

inductive ReservationAction where
  | OPEN
  | REDUCE
  | CLOSE
  deriving DecidableEq

def ReservationAction.value : ReservationAction → Text
  | OPEN => "OPEN"
  | REDUCE => "REDUCE"
  | CLOSE => "CLOSE"

/-- The fields of a `RiskBudgetReservation`, with the defaults of the dataclass. -/
structure ReservationFields where
  reservationId : EntityId
  accountId : EntityId
  planId : EntityId
  planVersion : ℤ
  planHash : Text
  instrument : Text
  strategy : Text
  session : Text
  authorizationBasisId : EntityId
  authorizationBasisHash : Text
  riskConstitutionRef : Text
  riskConstitutionVersion : ℤ
  riskConstitutionHash : Text
  riskConstitutionCeiling : Decimal
  worstCaseLoss : Decimal
  margin : Decimal
  expiresAt : RecordedAt
  status : ReservationStatus := .HELD
  version : ℤ := 1
  stateVersion : ℤ := 1
  riskDimensions : List (Text × Text) := []
  quantity : Decimal := Decimal.ofNat 0
  action : ReservationAction := .OPEN
  sourceKind : ReservationSourceKind := .MANDATE
  sourceRef : Option EntityId := none
  sourceHash : Option Text := none
  deriving DecidableEq

namespace ReservationFields

/-- The keys of `risk_dimensions` are unique and sorted. -/
def CanonicalKeys (keys : List Text) : Prop :=
  keys.Nodup ∧ keys.Pairwise (fun a b => Text.le a b = true)

instance (keys : List Text) : Decidable (CanonicalKeys keys) :=
  inferInstanceAs (Decidable (_ ∧ _))

def postInit (f : ReservationFields) : Py Unit := do
  require (1 ≤ f.planVersion ∧ f.riskConstitutionRef.IsScopeText)
    (valueError "reservations require a version and canonical constitution reference")
  require (1 ≤ f.version ∧ 1 ≤ f.riskConstitutionVersion)
    (valueError "reservations require positive versions")
  require (1 ≤ f.stateVersion) (valueError "reservations require a positive state version")
  require (f.instrument.IsScopeText ∧ f.strategy.IsScopeText ∧ f.session.IsScopeText)
    (valueError "reservations require an exact execution scope")
  require (f.planHash.IsHexDigest ∧ f.authorizationBasisHash.IsHexDigest
      ∧ f.riskConstitutionHash.IsHexDigest)
    (valueError "reservation hashes must be lowercase SHA-256")
  require (Decimal.ofNat 0 ≤ f.riskConstitutionCeiling ∧ Decimal.ofNat 0 ≤ f.worstCaseLoss
      ∧ Decimal.ofNat 0 ≤ f.margin)
    (valueError "reservation amounts must be finite non-negative Decimal values")
  require (f.worstCaseLoss ≤ f.riskConstitutionCeiling)
    (valueError "a reservation cannot relax the Risk Constitution")
  require (f.riskDimensions.all (fun pair => pair.1.IsStripped ∧ pair.2 ≠ []) = true)
    (valueError "risk dimensions require non-empty immutable text key/value pairs")
  require (CanonicalKeys (f.riskDimensions.map Prod.fst))
    (valueError "risk dimensions require unique lexically canonical keys")
  require (Decimal.ofNat 0 < f.quantity)
    (valueError "reservation quantity must be a positive finite Decimal")
  require (f.sourceRef ≠ none ∧ f.sourceHash ≠ none)
    (valueError "reservations require a typed source union")
  require (f.sourceHash.all (fun hash => hash.IsHexDigest) = true)
    (valueError "reservation source must use a typed id and lowercase SHA-256")

instance : Dataclass ReservationFields := ⟨postInit⟩

/-- The fields one version further, with another status and loss. -/
def advance (f : ReservationFields) (status : ReservationStatus) (loss : Decimal) :
    ReservationFields :=
  { f with
    status := status
    worstCaseLoss := loss
    version := f.version + 1
    stateVersion := f.stateVersion + 1 }

/-- Fields that are valid stay valid one version further when the loss does not grow. -/
theorem postInit_advance {f : ReservationFields} (hf : postInit f = .ok ())
    (status : ReservationStatus) {loss : Decimal} (hpos : Decimal.ofNat 0 ≤ loss)
    (hle : loss ≤ f.worstCaseLoss) : postInit (f.advance status loss) = .ok () := by
  simp only [postInit, require_bind_eq_ok, require_eq_ok] at hf ⊢
  obtain ⟨h1, h2, h3, h4, h5, h6, h7, h8, h9, h10, h11, h12⟩ := hf
  have hversion : 1 ≤ f.version + 1 := by omega
  have hstate : 1 ≤ f.stateVersion + 1 := by omega
  have hceiling : loss ≤ f.riskConstitutionCeiling := le_trans hle h7
  exact ⟨h1, ⟨hversion, h2.2⟩, hstate, h4, h5, ⟨h6.1, hpos, h6.2.2⟩, hceiling, h8, h9, h10, h11,
    h12⟩

/-- The fields with the amounts of another row. -/
def withAmountsOf (f g : ReservationFields) : ReservationFields :=
  { f with
    riskConstitutionCeiling := g.riskConstitutionCeiling
    worstCaseLoss := g.worstCaseLoss
    margin := g.margin
    quantity := g.quantity }

end ReservationFields

/-- A risk amount that can never exceed the immutable Constitution ceiling. -/
abbrev RiskBudgetReservation := Frozen ReservationFields

namespace RiskBudgetReservation

/-- Python's `==` on reservations: every field equal, amounts as numbers. -/
def SameAs (r s : RiskBudgetReservation) : Prop :=
  r.fields.withAmountsOf s.fields = s.fields
  ∧ r.fields.riskConstitutionCeiling.numEq s.fields.riskConstitutionCeiling
  ∧ r.fields.worstCaseLoss.numEq s.fields.worstCaseLoss
  ∧ r.fields.margin.numEq s.fields.margin
  ∧ r.fields.quantity.numEq s.fields.quantity

instance (r s : RiskBudgetReservation) : Decidable (r.SameAs s) :=
  inferInstanceAs (Decidable (_ ∧ _))

def ActiveAt (r : RiskBudgetReservation) (now : RecordedAt) : Prop :=
  r.fields.status = .HELD ∧ now < r.fields.expiresAt

instance (r : RiskBudgetReservation) (now : RecordedAt) : Decidable (r.ActiveAt now) :=
  inferInstanceAs (Decidable (_ ∧ _))

def reservationHash [Hashlib] (r : RiskBudgetReservation) : Py Text :=
  canonicalSha256 (.obj [
    ("id", .str r.fields.reservationId.str),
    ("account", .str r.fields.accountId.str),
    ("plan", .str r.fields.planId.str),
    ("plan_version", .int r.fields.planVersion),
    ("plan_hash", .str r.fields.planHash),
    ("instrument", .str r.fields.instrument),
    ("strategy", .str r.fields.strategy),
    ("session", .str r.fields.session),
    ("basis", .str r.fields.authorizationBasisHash),
    ("constitution", .str r.fields.riskConstitutionRef),
    ("constitution_version", .int r.fields.riskConstitutionVersion),
    ("constitution_hash", .str r.fields.riskConstitutionHash),
    ("ceiling", .str r.fields.riskConstitutionCeiling.str),
    ("loss", .str r.fields.worstCaseLoss.str),
    ("margin", .str r.fields.margin.str),
    ("expiry", .str r.fields.expiresAt.text),
    ("status", .str r.fields.status.value),
    ("version", .int r.fields.version),
    ("state_version", .int r.fields.stateVersion),
    ("dimensions", .obj (r.fields.riskDimensions.map (fun pair => (pair.1, .str pair.2)))),
    ("quantity", .str r.fields.quantity.str),
    ("action", .str r.fields.action.value),
    ("source_kind", .str r.fields.sourceKind.value),
    ("source_ref", .str ((r.fields.sourceRef.map EntityId.str).getD "None")),
    ("source_hash", (r.fields.sourceHash.map .str).getD .null)])

theorem exists_reservationHash [Hashlib] {r : RiskBudgetReservation}
    (hplan : FitsStr r.fields.planVersion)
    (hconstitution : FitsStr r.fields.riskConstitutionVersion) (hversion : FitsStr r.fields.version)
    (hstate : FitsStr r.fields.stateVersion) :
    ∃ digest, r.reservationHash = .ok digest ∧ digest.IsHexDigest := by
  apply exists_canonicalSha256_of_isWritable
  have hdimensions : ∀ pairs : List (Text × Text),
      Json.membersWritable (pairs.map (fun pair => (pair.1, .str pair.2))) = true := by
    intro pairs
    induction pairs with
    | nil => rfl
    | cons pair rest ih =>
      rw [List.map_cons, Json.membersWritable, Bool.and_eq_true]
      exact ⟨rfl, ih⟩
  have hsource : ((r.fields.sourceHash.map Json.str).getD .null).isWritable = true := by
    cases r.fields.sourceHash <;> rfl
  simp [Json.membersWritable, hplan, hconstitution, hversion, hstate, hdimensions, hsource]

/-- `RiskBudgetLedger._reservation_key` -/
def key (r : RiskBudgetReservation) : EntityId × ℤ × EntityId :=
  (r.fields.planId, r.fields.planVersion, r.fields.authorizationBasisId)

theorem SameAs.refl (r : RiskBudgetReservation) : r.SameAs r := ⟨rfl, rfl, rfl, rfl, rfl⟩

section

variable {r s : RiskBudgetReservation}

theorem SameAs.reservationId (h : r.SameAs s) : r.fields.reservationId = s.fields.reservationId :=
  (congrArg ReservationFields.reservationId h.1 : _)

theorem SameAs.status (h : r.SameAs s) : r.fields.status = s.fields.status :=
  (congrArg ReservationFields.status h.1 : _)

end

/-! ### What validation promises -/

section

variable (r : RiskBudgetReservation)

private theorem checks : 1 ≤ r.fields.version ∧ 1 ≤ r.fields.stateVersion
    ∧ Decimal.ofNat 0 ≤ r.fields.worstCaseLoss
    ∧ r.fields.worstCaseLoss ≤ r.fields.riskConstitutionCeiling := by
  have h : ReservationFields.postInit r.fields = .ok () := r.valid
  simp only [ReservationFields.postInit, require_bind_eq_ok, require_eq_ok] at h
  obtain ⟨-, h2, h3, -, -, h6, h7, -⟩ := h
  exact ⟨h2.1, h3, h6.2.1, h7⟩

theorem worstCaseLoss_nonneg : 0 ≤ r.fields.worstCaseLoss.val := by
  simpa [Decimal.le_def] using r.checks.2.2.1

end

/-! ### The one way a row changes -/

/-- `replace(row, status=…, version=row.version + 1, state_version=row.state_version + 1)` -/
def advance (r : RiskBudgetReservation) (status : ReservationStatus) : RiskBudgetReservation :=
  ⟨r.fields.advance status r.fields.worstCaseLoss,
    ReservationFields.postInit_advance r.valid status r.checks.2.2.1 le_rfl⟩

/-- `replace(row, worst_case_loss=loss, version=…, state_version=…)` -/
def lower (r : RiskBudgetReservation) (loss : Decimal)
    (h : Decimal.ofNat 0 ≤ loss ∧ loss ≤ r.fields.worstCaseLoss) : RiskBudgetReservation :=
  ⟨r.fields.advance r.fields.status loss,
    ReservationFields.postInit_advance r.valid _ h.1 h.2⟩

/-- `advance` is what `dataclasses.replace` returns. -/
theorem replace_eq_advance (r : RiskBudgetReservation) (status : ReservationStatus) :
    r.replace (fun f => { f with
      status := status
      version := f.version + 1
      stateVersion := f.stateVersion + 1 }) = .ok (r.advance status) := by
  rw [Frozen.replace_eq_ok]; rfl

/-- `lower` is what `dataclasses.replace` returns. -/
theorem replace_eq_lower (r : RiskBudgetReservation) (loss : Decimal)
    (h : Decimal.ofNat 0 ≤ loss ∧ loss ≤ r.fields.worstCaseLoss) :
    r.replace (fun f => { f with
      worstCaseLoss := loss
      version := f.version + 1
      stateVersion := f.stateVersion + 1 }) = .ok (r.lower loss h) := by
  rw [Frozen.replace_eq_ok]; rfl

end RiskBudgetReservation

end FuturesAgentOs
