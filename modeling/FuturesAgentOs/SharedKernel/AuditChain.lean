import FuturesAgentOs.PyModel.HashChain
import FuturesAgentOs.PyModel.JsonTexts
import FuturesAgentOs.PyModel.Machine
import FuturesAgentOs.SharedKernel.Ids
import FuturesAgentOs.SharedKernel.IsoTime
import FuturesAgentOs.SharedKernel.JsonObject

namespace FuturesAgentOs

open PyModel

/-!
# The audit chain

`shared_kernel/observability.py`: audit records, each sealed by the digest of its content and of
the digest of the record before it.

* `verify_append` — what was appended is verified.
-/

/-! ### Records -/

structure TraceContext where
  correlationId : EntityId
  traceId : EntityId
  causationId : Option EntityId := none
  deriving DecidableEq

/-- `_immutable_json_snapshot`; a value that is not one of Python's is no mapping. -/
def immutableJsonSnapshot (value : Json) : Py Json := do
  require (value.isValue = true) (valueError "value must be finite JSON-compatible data")
  .ok value

structure AuditDraftFields where
  auditEventId : EntityId
  actorRef : Text
  action : Text
  objectType : Text
  trace : TraceContext
  retentionClass : Text
  recordedAt : RecordedAt
  details : Json
  objectId : Option EntityId := none
  objectVersion : Option ℤ := none
  beforeSha256 : Option Text := none
  afterSha256 : Option Text := none

def AuditDraftFields.postInit (f : AuditDraftFields) : Py Unit := do
  require (f.actorRef ≠ [] ∧ f.action ≠ [] ∧ f.objectType ≠ [] ∧ f.retentionClass ≠ [])
    (valueError "audit drafts require actor, action, object type, and retention class")
  whenSome f.objectVersion (fun version => require (0 ≤ version)
    (valueError "audit object versions cannot be negative"))
  whenSome f.beforeSha256 (fun value => require value.IsHexDigest
    (valueError "audit state hashes must be lowercase SHA-256 digests"))
  whenSome f.afterSha256 (fun value => require value.IsHexDigest
    (valueError "audit state hashes must be lowercase SHA-256 digests"))
  let _ ← immutableJsonSnapshot f.details
  .ok ()

instance : Dataclass AuditDraftFields := ⟨AuditDraftFields.postInit⟩

/-- An auditable action before the chain seals it. -/
abbrev AuditDraft := Frozen AuditDraftFields

structure AuditEventFields where
  sequence : ℤ
  draft : AuditDraft
  previousAuditSha256 : Text
  auditSha256 : Text

def AuditEventFields.postInit (f : AuditEventFields) : Py Unit := do
  require (1 ≤ f.sequence) (valueError "audit event sequences must be positive")
  require (f.previousAuditSha256 = [] ∨ f.previousAuditSha256.IsHexDigest)
    (valueError "audit chain hashes must be lowercase SHA-256 digests")
  require (f.auditSha256 = [] ∨ f.auditSha256.IsHexDigest)
    (valueError "audit chain hashes must be lowercase SHA-256 digests")

instance : Dataclass AuditEventFields := ⟨AuditEventFields.postInit⟩

/-- A record of the chain. -/
abbrev AuditEvent := Frozen AuditEventFields

/-- `str(identifier) if identifier else None`; an identifier is always true. -/
def identifierItem : Option EntityId → Json
  | some identifier => .str identifier.str
  | none => .null

/-- A text that may be `None`. -/
def textItem : Option Text → Json
  | some t => .str t
  | none => .null

/-- An integer that may be `None`. -/
def integerItem : Option ℤ → Json
  | some n => .int n
  | none => .null

namespace AuditEventFields

/-- The members of the hashed payload. -/
def payloadItems (f : AuditEventFields) (detailsSha256 : Text) : List (Text × Json) := [
  ("sequence", .int f.sequence),
  ("audit_event_id", .str f.draft.fields.auditEventId.str),
  ("actor_ref", .str f.draft.fields.actorRef),
  ("action", .str f.draft.fields.action),
  ("object_type", .str f.draft.fields.objectType),
  ("object_id", identifierItem f.draft.fields.objectId),
  ("object_version", integerItem f.draft.fields.objectVersion),
  ("before_sha256", textItem f.draft.fields.beforeSha256),
  ("after_sha256", textItem f.draft.fields.afterSha256),
  ("correlation_id", .str f.draft.fields.trace.correlationId.str),
  ("trace_id", .str f.draft.fields.trace.traceId.str),
  ("causation_id", identifierItem f.draft.fields.trace.causationId),
  ("retention_class", .str f.draft.fields.retentionClass),
  ("recorded_at", .str f.draft.fields.recordedAt.text),
  ("details_sha256", .str detailsSha256),
  ("previous_audit_sha256", .str f.previousAuditSha256)]

variable [Hashlib]

def payloadForHash (f : AuditEventFields) : Py Json := do
  let detailsSha256 ← canonicalSha256 f.draft.fields.details
  .ok (.obj (f.payloadItems detailsSha256))

/-- `canonical_sha256(event.payload_for_hash())` -/
def expectedHash (f : AuditEventFields) : Py Text := do
  let payload ← f.payloadForHash
  canonicalSha256 payload

end AuditEventFields

/-! ### The log -/

inductive AuditVerificationStatus where
  | VALID
  | INVALID
  deriving DecidableEq

structure AuditVerification where
  status : AuditVerificationStatus
  invalidSequence : Option ℤ := none
  deriving DecidableEq

/-- The answer about a chain that holds. -/
def AuditVerification.valid : AuditVerification := ⟨.VALID, none⟩

def genesisAuditSha256 : Text := List.replicate 64 (Text.ofChar '0')

/-- An `AppendOnlyAuditLog`, by its records and the set of their identifiers. -/
structure AppendOnlyAuditLog where
  events : List AuditEvent
  eventIds : List EntityId

namespace AppendOnlyAuditLog

/-- `AppendOnlyAuditLog()` -/
def empty : AppendOnlyAuditLog := ⟨[], []⟩

/-- The digest of the last record. -/
def headSha256 (events : List AuditEvent) : Option Text :=
  events.getLast?.map (·.fields.auditSha256)

variable [Hashlib] (log : AppendOnlyAuditLog)

/-- The record that `append` adds. -/
def newEvent (draft : AuditDraft) : Py AuditEvent := do
  let previous := (headSha256 log.events).getD genesisAuditSha256
  let sequence : ℤ := log.events.length + 1
  let provisional : AuditEvent ← Frozen.make ⟨sequence, draft, previous, []⟩
  let auditSha256 ← provisional.fields.expectedHash
  Frozen.make ⟨sequence, draft, previous, auditSha256⟩

def append (draft : AuditDraft) : Py AuditEvent × AppendOnlyAuditLog :=
  if draft.fields.auditEventId ∈ log.eventIds then
    (.error (valueError "audit event ids must be unique"), log)
  else
    match log.newEvent draft with
    | .error e => (.error e, log)
    | .ok event =>
      (.ok event, ⟨log.events ++ [event], log.eventIds ++ [draft.fields.auditEventId]⟩)

/-- The loop of `verify` over the records that are left. -/
def verifyFrom (expectedPrevious : Text) (expectedSequence : ℤ) :
    List AuditEvent → Py AuditVerification
  | [] => .ok .valid
  | event :: events =>
    if event.fields.sequence ≠ expectedSequence
        ∨ event.fields.previousAuditSha256 ≠ expectedPrevious then
      .ok ⟨.INVALID, some event.fields.sequence⟩
    else do
      let expectedHash ← event.fields.expectedHash
      if event.fields.auditSha256 ≠ expectedHash then .ok ⟨.INVALID, some event.fields.sequence⟩
      else verifyFrom event.fields.auditSha256 (expectedSequence + 1) events

def verify (events : List AuditEvent) : Py AuditVerification :=
  verifyFrom genesisAuditSha256 1 events

/-- Calls of `append`, of which some may raise. -/
def machine : Machine AppendOnlyAuditLog AuditDraft (Py AuditEvent) :=
  ⟨fun log draft => log.append draft⟩

/-! ### Chains of records -/

/-- A record continues the digest and the number that it is given, and seals its own content. -/
def Seals (s : Text × ℤ) (event : AuditEvent) (t : Text × ℤ) : Prop :=
  event.fields.previousAuditSha256 = s.1 ∧ event.fields.sequence = s.2
    ∧ event.fields.expectedHash = .ok event.fields.auditSha256
    ∧ t = (event.fields.auditSha256, s.2 + 1)

variable {events : List AuditEvent}

theorem verifyFrom_eq_valid_iff {previous : Text} {sequence : ℤ} :
    verifyFrom previous sequence events = .ok .valid
      ↔ ∃ t, Linked Seals (previous, sequence) events t := by
  induction events generalizing previous sequence with
  | nil => exact ⟨fun _ => ⟨_, rfl⟩, fun _ => rfl⟩
  | cons event events ih =>
    rw [verifyFrom]
    split
    · rename_i hbad
      constructor
      · intro h
        cases h
      · rintro ⟨t, m, ⟨hprevious, hsequence, -⟩, -⟩
        exact (hbad.elim (fun hne => hne hsequence) (fun hne => hne hprevious)).elim
    · rename_i hgood
      rw [not_or, not_not, not_not] at hgood
      obtain ⟨hsequence, hprevious⟩ := hgood
      constructor
      · intro h
        obtain ⟨digest, hdigest, h⟩ := Py.of_bind h
        split at h
        · cases h
        · rename_i hsame
          rw [not_not] at hsame
          obtain ⟨t, hrest⟩ := ih.mp h
          exact ⟨t, _, ⟨hprevious, hsequence, hsame ▸ hdigest, rfl⟩, hrest⟩
      · rintro ⟨t, m, ⟨-, -, hdigest, rfl⟩, hrest⟩
        rw [hdigest, Py.ok_bind, if_neg (not_not.mpr rfl)]
        exact ih.mpr ⟨t, hrest⟩

theorem verify_eq_valid_iff :
    verify events = .ok .valid ↔ ∃ t, Linked Seals (genesisAuditSha256, 1) events t :=
  verifyFrom_eq_valid_iff

omit [Hashlib] in
theorem headSha256_cons (event : AuditEvent) (events : List AuditEvent) (previous : Text) :
    (headSha256 (event :: events)).getD previous
      = (headSha256 events).getD event.fields.auditSha256 := by
  rw [headSha256, headSha256, List.getLast?_cons]
  rcases events.getLast? with _ | last <;> rfl

/-- A chain ends in the digest of its last record and the number after it. -/
theorem eq_of_linked {s t : Text × ℤ} (h : Linked Seals s events t) :
    t = ((headSha256 events).getD s.1, s.2 + events.length) := by
  induction events generalizing s with
  | nil =>
    obtain rfl : s = t := h
    exact Prod.ext rfl (by simp)
  | cons event events ih =>
    obtain ⟨m, ⟨-, -, -, rfl⟩, hrest⟩ := h
    rw [ih hrest, headSha256_cons, List.length_cons, Nat.cast_succ]
    exact Prod.ext rfl (by simp only; omega)

/-! ### What was appended -/

/-- The new record continues the chain. -/
theorem seals_newEvent {draft : AuditDraft} {event : AuditEvent}
    (h : log.newEvent draft = .ok event) :
    event.fields.draft = draft ∧ Seals
      ((headSha256 log.events).getD genesisAuditSha256, (1 : ℤ) + log.events.length) event
      (event.fields.auditSha256, 1 + log.events.length + 1) := by
  obtain ⟨provisional, hprovisional, h⟩ := Py.of_bind h
  obtain ⟨auditSha256, hhash, h⟩ := Py.of_bind h
  rw [Frozen.make_eq_ok] at hprovisional h
  -- the digest is not part of what it is taken of
  have hexpected : event.fields.expectedHash = provisional.fields.expectedHash := by
    rw [h, hprovisional]
    rfl
  rw [Seals, hexpected, hhash, h]
  exact ⟨rfl, rfl, add_comm _ _, rfl, rfl⟩

/-- **A log that was appended to is verified.** -/
theorem verify_append (drafts : List AuditDraft) :
    verify (machine.exec empty drafts).events = .ok .valid := by
  have hstep : ∀ (log : AppendOnlyAuditLog) (draft : AuditDraft),
      (∃ t, Linked Seals (genesisAuditSha256, 1) log.events t) →
      ∃ t, Linked Seals (genesisAuditSha256, 1) (machine.next log draft).events t := by
    intro log draft hlog
    show ∃ t, Linked Seals _ (log.append draft).2.events t
    rw [append]
    split
    · exact hlog
    · rcases hevent : log.newEvent draft with e | event
      · exact hlog
      · obtain ⟨t, ht⟩ := hlog
        obtain rfl := eq_of_linked ht
        exact ⟨_, linked_concat.mpr ⟨_, ht, (seals_newEvent log hevent).2⟩⟩
  have hempty : ∃ t, Linked Seals (genesisAuditSha256, 1) empty.events t :=
    ⟨(genesisAuditSha256, 1), rfl⟩
  have hlinked : ∃ t, Linked Seals (genesisAuditSha256, 1) (machine.exec empty drafts).events t :=
    machine.exec_invariant hstep hempty drafts
  exact verify_eq_valid_iff.mpr hlinked

end AppendOnlyAuditLog

end FuturesAgentOs
