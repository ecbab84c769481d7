import FuturesAgentOs.Decision.AuthorizationBasis

namespace FuturesAgentOs

open PyModel

/-!
# Gate receipts and their issuance

`decision/autonomy_contracts.py`, `AutonomyGateReceipt` and `ReceiptIssuanceRegistry`: at most
one receipt for each basis, which a pause invalidates and a consumption marks.

* `markConsumed_eq_true` — everything a successful mark has checked.
-/

/-- The fields of an `AutonomyGateReceipt`, with the defaults of the dataclass. -/
structure ReceiptFields where
  receiptId : EntityId
  planId : EntityId
  planVersion : ℤ
  planHash : Text
  accountId : EntityId
  instrument : Text
  strategy : Text
  session : Text
  action : ApprovalAction
  quantity : Decimal
  basisId : EntityId
  basisHash : Text
  sourceId : EntityId
  sourceVersion : ℤ
  sourceHash : Text
  executionOrigin : ExecutionOrigin
  snapshotHash : Text
  runVersionsHash : Text
  reservationId : EntityId
  reservationHash : Text
  expiresAt : RecordedAt
  issuedAt : RecordedAt
  nonce : EntityId
  issuanceRegistryId : EntityId
  modeBindingId : Option EntityId := none
  modeBindingVersion : Option ℤ := none
  modeBindingHash : Option Text := none
  manualActorRef : Option Text := none
  environmentPolicyRef : Text := ""
  schemaVersion : SchemaVersion := v2AuthorizationSchema
  sourceRef : Text := "source:v2"
  deriving DecidableEq

namespace ReceiptFields

/-- What the origin asks of the mode binding and the manual actor. -/
def checkOrigin (f : ReceiptFields) : Py Unit :=
  match f.executionOrigin with
  | .AUTONOMOUS_AGENT => do
    require (f.modeBindingId ≠ none ∧ f.modeBindingVersion ≠ none ∧ f.modeBindingHash ≠ none)
      (valueError "autonomous receipts bind the exact active mode binding")
    whenSome f.modeBindingVersion checkPositiveVersion
    whenSome f.modeBindingHash checkSha
    require (f.manualActorRef = none)
      (valueError "autonomous receipts cannot name a manual actor")
  | .MANUAL_TEST => do
    require (f.modeBindingId = none ∧ f.modeBindingVersion = none ∧ f.modeBindingHash = none)
      (valueError "manual-test receipts do not bind autonomy mode")
    require (f.manualActorRef.getD [] ≠ []) (valueError "manual-test receipts require an actor")
    whenSome f.manualActorRef checkActor

def postInit (f : ReceiptFields) : Py Unit := do
  checkPositiveVersion f.planVersion
  checkSourceRef f.sourceRef "receipt"
  checkPositiveVersion f.sourceVersion
  checkSha f.planHash
  checkSha f.basisHash
  checkSha f.sourceHash
  checkSha f.snapshotHash
  checkSha f.runVersionsHash
  checkSha f.reservationHash
  require (f.instrument.IsScopeText ∧ f.strategy.IsScopeText ∧ f.session.IsScopeText)
    (valueError "receipts require an exact execution scope")
  require (f.issuedAt < f.expiresAt ∧ Decimal.ofNat 0 < f.quantity ∧ f.environmentPolicyRef ≠ [])
    (valueError "receipts require action, environment policy, and future expiry")
  f.checkOrigin

instance : Dataclass ReceiptFields := ⟨postInit⟩

end ReceiptFields

/-- The gate's permission to submit one order. -/
abbrev AutonomyGateReceipt := Frozen ReceiptFields

namespace AutonomyGateReceipt

/-- Python's `==` on receipts: every field equal, the quantities as numbers. -/
def SameAs (r s : AutonomyGateReceipt) : Prop :=
  { r.fields with quantity := s.fields.quantity } = s.fields
    ∧ r.fields.quantity.numEq s.fields.quantity

instance (r s : AutonomyGateReceipt) : Decidable (r.SameAs s) :=
  inferInstanceAs (Decidable (_ ∧ _))

theorem SameAs.refl (r : AutonomyGateReceipt) : r.SameAs r := ⟨rfl, rfl⟩

theorem SameAs.reservationId_eq {r s : AutonomyGateReceipt} (h : r.SameAs s) :
    r.fields.reservationId = s.fields.reservationId :=
  (congrArg ReceiptFields.reservationId h.1 :)

end AutonomyGateReceipt

/-- One receipt for each basis. -/
structure ReceiptIssuanceRegistry where
  registryId : EntityId
  /-- `_issued` -/
  issued : Dict EntityId (Text × AutonomyGateReceipt)
  /-- `_invalidated_bases` -/
  invalidatedBases : Finset EntityId
  /-- `_consumed_bases` -/
  consumedBases : Finset EntityId
  deriving DecidableEq

namespace ReceiptIssuanceRegistry

/-- `ReceiptIssuanceRegistry()`, with the identifier it draws. -/
def new (registryId : EntityId) : ReceiptIssuanceRegistry := ⟨registryId, .empty, ∅, ∅⟩

/-- `issue`, the factory given by what calling it returns. -/
def issue (s : ReceiptIssuanceRegistry) (basisId : EntityId) (fingerprint : Text)
    (factory : Py AutonomyGateReceipt) :
    Py (Option AutonomyGateReceipt) × ReceiptIssuanceRegistry :=
  match checkSha fingerprint with
  | .error e => (.error e, s)
  | .ok () =>
    if basisId ∈ s.invalidatedBases then (.ok none, s)
    else
      match s.issued.get? basisId with
      | some existing => (.ok (if existing.1 = fingerprint then some existing.2 else none), s)
      | none =>
        match factory with
        | .error e => (.error e, s)
        | .ok receipt =>
          if receipt.fields.basisId = basisId
              ∧ receipt.fields.issuanceRegistryId = s.registryId then
            (.ok (some receipt), { s with issued := s.issued.set basisId (fingerprint, receipt) })
          else (.error (valueError "receipt factory must bind the supplied Basis"), s)

/-- The registry issued exactly this receipt. -/
def Issued (s : ReceiptIssuanceRegistry) (receipt : AutonomyGateReceipt) : Prop :=
  receipt.fields.issuanceRegistryId = s.registryId
    ∧ (s.issued.get? receipt.fields.basisId).any (fun issued => issued.2.SameAs receipt) = true

instance (s : ReceiptIssuanceRegistry) (receipt : AutonomyGateReceipt) :
    Decidable (s.Issued receipt) := inferInstanceAs (Decidable (_ ∧ _))

variable {receipt : AutonomyGateReceipt} {s s' : ReceiptIssuanceRegistry}

theorem Issued.exists_entry (h : s.Issued receipt) :
    ∃ entry, s.issued.get? receipt.fields.basisId = some entry ∧ entry.2.SameAs receipt := by
  obtain ⟨-, hany⟩ := h
  cases hentry : s.issued.get? receipt.fields.basisId with
  | none =>
    rw [hentry] at hany
    cases hany
  | some entry =>
    rw [hentry, Option.any_some, decide_eq_true_iff] at hany
    exact ⟨entry, rfl, hany⟩

def contains (s : ReceiptIssuanceRegistry) (receipt : AutonomyGateReceipt) : Prop :=
  s.Issued receipt ∧ receipt.fields.basisId ∉ s.invalidatedBases

instance (s : ReceiptIssuanceRegistry) (receipt : AutonomyGateReceipt) :
    Decidable (s.contains receipt) := inferInstanceAs (Decidable (_ ∧ _))

def invalidateBasis (s : ReceiptIssuanceRegistry) (basisId : EntityId) :
    Option AutonomyGateReceipt × ReceiptIssuanceRegistry :=
  (if basisId ∈ s.consumedBases then none else (s.issued.get? basisId).map Prod.snd,
    { s with invalidatedBases := insert basisId s.invalidatedBases })

def markConsumed (s : ReceiptIssuanceRegistry) (receipt : AutonomyGateReceipt) :
    Bool × ReceiptIssuanceRegistry :=
  if s.Issued receipt ∧ receipt.fields.basisId ∉ s.invalidatedBases
      ∧ receipt.fields.basisId ∉ s.consumedBases then
    (true, { s with consumedBases := insert receipt.fields.basisId s.consumedBases })
  else (false, s)

/-- **What a successful mark has checked**, and what it leaves. -/
theorem markConsumed_eq_true (h : s.markConsumed receipt = (true, s')) :
    s.Issued receipt ∧ receipt.fields.basisId ∉ s.invalidatedBases
      ∧ receipt.fields.basisId ∉ s.consumedBases
      ∧ s' = { s with consumedBases := insert receipt.fields.basisId s.consumedBases } := by
  unfold markConsumed at h
  split at h
  · rename_i hchecks
    exact ⟨hchecks.1, hchecks.2.1, hchecks.2.2, (congrArg Prod.snd h).symm⟩
  · cases congrArg Prod.fst h

/-- How the registry may change: receipts stay, invalidations stay, and a basis is marked only
while it is not invalidated. -/
structure Grows (s s' : ReceiptIssuanceRegistry) : Prop where
  issued : ∀ basisId entry, s.issued.get? basisId = some entry →
    s'.issued.get? basisId = some entry
  invalidated : s.invalidatedBases ⊆ s'.invalidatedBases
  consumed : s.consumedBases ⊆ s'.consumedBases
  marked : ∀ basisId ∈ s'.consumedBases, basisId ∈ s.consumedBases ∨ basisId ∉ s.invalidatedBases

theorem Grows.refl (s : ReceiptIssuanceRegistry) : s.Grows s where
  issued _ _ h := h
  invalidated := Finset.Subset.refl _
  consumed := Finset.Subset.refl _
  marked _ h := Or.inl h

/-- `issue` enters at most a receipt for a basis that had none, and marks nothing. -/
theorem issue_grows (s : ReceiptIssuanceRegistry) (basisId : EntityId) (fingerprint : Text)
    (factory : Py AutonomyGateReceipt) :
    s.Grows (s.issue basisId fingerprint factory).2
      ∧ (s.issue basisId fingerprint factory).2.consumedBases = s.consumedBases := by
  have hrefl : s.Grows s ∧ s.consumedBases = s.consumedBases := ⟨.refl s, rfl⟩
  unfold issue
  split
  · exact hrefl
  split
  · exact hrefl
  split
  · exact hrefl
  · rename_i hnone
    split
    · exact hrefl
    split
    · refine ⟨⟨?_, Finset.Subset.refl _, Finset.Subset.refl _, fun _ h => Or.inl h⟩, rfl⟩
      intro other entry hentry
      have hne : other ≠ basisId := by
        rintro rfl
        rw [hnone] at hentry
        cases hentry
      rw [Dict.get?_set_of_ne _ _ hne]
      exact hentry
    · exact hrefl

/-- **What an answer of `issue` is**: the receipt that was there under the fingerprint, or the one
the factory made, now stored. -/
theorem issue_eq_some {basisId : EntityId} {fingerprint : Text} {factory : Py AutonomyGateReceipt}
    (h : s.issue basisId fingerprint factory = (.ok (some receipt), s')) :
    basisId ∉ s.invalidatedBases ∧
      ((s.issued.get? basisId = some (fingerprint, receipt) ∧ s' = s)
        ∨ (s.issued.get? basisId = none ∧ factory = .ok receipt
          ∧ receipt.fields.basisId = basisId
          ∧ receipt.fields.issuanceRegistryId = s.registryId
          ∧ s' = { s with issued := s.issued.set basisId (fingerprint, receipt) })) := by
  unfold issue at h
  split at h
  · cases congrArg Prod.fst h
  split at h
  · cases congrArg Prod.fst h
  rename_i hvalid
  refine ⟨hvalid, ?_⟩
  split at h
  · rename_i existing hexisting
    left
    have hanswer := Except.ok.inj (congrArg Prod.fst h)
    split at hanswer
    · rename_i hfingerprint
      have hreceipt := Option.some.inj hanswer
      refine ⟨?_, (congrArg Prod.snd h).symm⟩
      rw [hexisting, ← hfingerprint, ← hreceipt]
    · cases hanswer
  · rename_i hnone
    right
    split at h
    · cases congrArg Prod.fst h
    split at h
    · rename_i hbinds
      obtain rfl : _ = receipt := Option.some.inj (Except.ok.inj (congrArg Prod.fst h))
      exact ⟨hnone, rfl, hbinds.1, hbinds.2, (congrArg Prod.snd h).symm⟩
    · cases congrArg Prod.fst h

theorem invalidateBasis_grows (s : ReceiptIssuanceRegistry) (basisId : EntityId) :
    s.Grows (s.invalidateBasis basisId).2 where
  issued _ _ h := h
  invalidated := Finset.subset_insert _ _
  consumed := Finset.Subset.refl _
  marked _ h := Or.inl h

theorem markConsumed_grows (h : s.markConsumed receipt = (true, s')) : s.Grows s' := by
  obtain ⟨-, hvalid, -, rfl⟩ := markConsumed_eq_true h
  refine ⟨fun _ _ h => h, Finset.Subset.refl _, Finset.subset_insert _ _, ?_⟩
  intro basisId hmem
  obtain rfl | hmem := Finset.mem_insert.mp hmem
  · exact Or.inr hvalid
  · exact Or.inl hmem

/-- A mark that is refused changes nothing. -/
theorem markConsumed_eq_false (h : s.markConsumed receipt = (false, s')) : s' = s := by
  unfold markConsumed at h
  split at h
  · cases congrArg Prod.fst h
  · exact (congrArg Prod.snd h).symm

end ReceiptIssuanceRegistry

end FuturesAgentOs
