import FuturesAgentOs.PyModel.JsonSurrogates
import FuturesAgentOs.SharedKernel.AuditChain

namespace FuturesAgentOs

open PyModel

/-!
# Tamper evidence

What the digest at the end of a verified audit log says about its records.

* `tamper_evident` — two verified logs of one length that end in one digest;
-/

/-! ### Items that are written alike -/

@[simp] theorem isScalar_identifierItem (e : Option EntityId) : (identifierItem e).IsScalar := by
  rcases e with _ | e <;> trivial

@[simp] theorem isScalar_textItem (t : Option Text) : (textItem t).IsScalar := by
  rcases t with _ | t <;> trivial

@[simp] theorem isScalar_integerItem (n : Option ℤ) : (integerItem n).IsScalar := by
  rcases n with _ | n <;> trivial

theorem joined_of_str {s t : Text} (h : (Json.str s).joinedText = (Json.str t).joinedText) :
    s.joined = t.joined := Json.str.inj h

theorem eq_of_isJsonSafe {s t : Text} (hs : s.IsJsonSafe) (ht : t.IsJsonSafe)
    (h : (Json.str s).joinedText = (Json.str t).joinedText) : s = t := by
  rw [← Text.joined_eq_self hs, ← Text.joined_eq_self ht]
  exact joined_of_str h

theorem eq_of_identifier {e e' : EntityId}
    (h : (Json.str e.str).joinedText = (Json.str e'.str).joinedText) : e = e' :=
  EntityId.str_inj (eq_of_isJsonSafe e.isAscii_str.isJsonSafe e'.isAscii_str.isJsonSafe h)

theorem eq_of_identifierItem {e e' : Option EntityId}
    (h : (identifierItem e).joinedText = (identifierItem e').joinedText) : e = e' := by
  rcases e with _ | e <;> rcases e' with _ | e'
  · rfl
  · cases h
  · cases h
  · rw [eq_of_identifier h]

theorem eq_of_textItem {s t : Option Text} (hs : ∀ x ∈ s, Text.IsJsonSafe x)
    (ht : ∀ x ∈ t, Text.IsJsonSafe x) (h : (textItem s).joinedText = (textItem t).joinedText) :
    s = t := by
  rcases s with _ | s <;> rcases t with _ | t
  · rfl
  · cases h
  · cases h
  · rw [eq_of_isJsonSafe (hs s rfl) (ht t rfl) h]

theorem eq_of_integerItem {n m : Option ℤ}
    (h : (integerItem n).joinedText = (integerItem m).joinedText) : n = m := by
  rcases n with _ | n <;> rcases m with _ | m
  · rfl
  · cases h
  · cases h
  · rw [Json.int.inj h]

/-! ### What a digest says of a record -/

/-- The texts of a draft have no surrogate pairs. -/
def AuditDraft.HasNoPairs (d : AuditDraft) : Prop :=
  d.fields.actorRef.IsJsonSafe ∧ d.fields.action.IsJsonSafe ∧ d.fields.objectType.IsJsonSafe
    ∧ d.fields.retentionClass.IsJsonSafe ∧ ∀ t ∈ d.fields.details.texts, Text.IsJsonSafe t

/-- Two drafts that are written alike: they differ in surrogate pairs and in the order of keys of
their details at most. -/
structure AuditDraft.WrittenAlike (d d' : AuditDraft) : Prop where
  auditEventId : d.fields.auditEventId = d'.fields.auditEventId
  actorRef : d.fields.actorRef.joined = d'.fields.actorRef.joined
  action : d.fields.action.joined = d'.fields.action.joined
  objectType : d.fields.objectType.joined = d'.fields.objectType.joined
  trace : d.fields.trace = d'.fields.trace
  retentionClass : d.fields.retentionClass.joined = d'.fields.retentionClass.joined
  recordedAt : d.fields.recordedAt = d'.fields.recordedAt
  details : d.fields.details.dumps = d'.fields.details.dumps
  objectId : d.fields.objectId = d'.fields.objectId
  objectVersion : d.fields.objectVersion = d'.fields.objectVersion
  beforeSha256 : d.fields.beforeSha256 = d'.fields.beforeSha256
  afterSha256 : d.fields.afterSha256 = d'.fields.afterSha256

/-- The draft with the keys of its details in order. -/
def AuditDraft.sortedFields (d : AuditDraft) : AuditDraftFields :=
  { d.fields with details := d.fields.details.sortKeys }

theorem AuditDraft.isValue_details (d : AuditDraft) : d.fields.details.isValue = true := by
  have h : d.fields.postInit = .ok () := d.valid
  simp only [AuditDraftFields.postInit, check_bind_eq_ok] at h
  obtain ⟨-, -, -, -, h⟩ := h
  obtain ⟨v, hv, -⟩ := Py.of_bind h
  exact (of_require hv).1

/-- Without surrogate pairs nothing but the order of keys is left. -/
theorem AuditDraft.WrittenAlike.sortedFields_eq {d d' : AuditDraft} (h : d.WrittenAlike d')
    (hwritable : d.fields.details.isWritable = true) (hd : d.HasNoPairs) (hd' : d'.HasNoPairs) :
    d.sortedFields = d'.sortedFields := by
  obtain ⟨hactor, haction, htype, hretention, htexts⟩ := hd
  obtain ⟨hactor', haction', htype', hretention', htexts'⟩ := hd'
  have hwritable' : d'.fields.details.isWritable = true := by
    by_contra hnot
    have hdumps := h.details
    rw [Json.dumps, Json.dumps, if_pos hwritable, if_neg hnot] at hdumps
    cases hdumps
  have hdetails : d.fields.details.sortKeys = d'.fields.details.sortKeys := by
    obtain ⟨hwrite, hread⟩ :=
      Json.loads_dumps (Json.isSafe_of_texts d.isValue_details hwritable htexts)
    obtain ⟨hwrite', hread'⟩ :=
      Json.loads_dumps (Json.isSafe_of_texts d'.isValue_details hwritable' htexts')
    rw [h.details, hwrite', Option.some.injEq] at hwrite
    rw [← hwrite, hread', Option.some.injEq] at hread
    exact hread.symm
  have hjoined : ∀ {s t : Text}, s.IsJsonSafe → t.IsJsonSafe → s.joined = t.joined → s = t := by
    intro s t hs ht heq
    rwa [Text.joined_eq_self hs, Text.joined_eq_self ht] at heq
  simp only [AuditDraft.sortedFields, AuditDraftFields.mk.injEq]
  exact ⟨h.auditEventId, hjoined hactor hactor' h.actorRef, hjoined haction haction' h.action,
    hjoined htype htype' h.objectType, h.trace, hjoined hretention hretention' h.retentionClass,
    h.recordedAt, hdetails, h.objectId, h.objectVersion, h.beforeSha256, h.afterSha256⟩

/-- The keys of the hashed payload. -/
def auditKeys : List Text :=
  ["sequence", "audit_event_id", "actor_ref", "action", "object_type", "object_id",
    "object_version",
    "before_sha256", "after_sha256", "correlation_id", "trace_id", "causation_id",
    "retention_class", "recorded_at", "details_sha256", "previous_audit_sha256"]

namespace AuditEventFields

variable {f f' : AuditEventFields} {sha sha' : Text}

theorem keys_payloadItems : (f.payloadItems sha).map Prod.fst = auditKeys := rfl

theorem nodup_keys_payloadItems : ((f.payloadItems sha).map Prod.fst).Nodup := by
  rw [keys_payloadItems]
  simp [auditKeys]

theorem isJsonSafe_keys_payloadItems : ∀ p ∈ f.payloadItems sha, Text.IsJsonSafe p.1 := by
  intro p hp
  have hkey : p.1 ∈ (f.payloadItems sha).map Prod.fst := List.mem_map_of_mem hp
  rw [keys_payloadItems] at hkey
  revert hkey
  generalize p.1 = key
  revert key
  simp [auditKeys]

theorem isScalar_payloadItems : ∀ p ∈ f.payloadItems sha, p.2.IsScalar := by
  simp [payloadItems]

/-- Payloads that are written alike agree on every member up to pairs. -/
theorem joinedText_eq (hwritable : (Json.obj (f.payloadItems sha)).isWritable = true)
    (hdumps : (Json.obj (f.payloadItems sha)).dumps = (Json.obj (f'.payloadItems sha')).dumps)
    (key : Text) {v v' : Json} (hv : Json.lookup key (f.payloadItems sha) = some v)
    (hv' : Json.lookup key (f'.payloadItems sha') = some v') : v.joinedText = v'.joinedText :=
  Json.joinedText_of_dumps_eq nodup_keys_payloadItems nodup_keys_payloadItems
    isJsonSafe_keys_payloadItems isJsonSafe_keys_payloadItems isScalar_payloadItems
    isScalar_payloadItems hwritable hdumps hv hv'

end AuditEventFields

/-- The digests of a record are digests or empty. -/
theorem AuditEvent.isJsonSafe_previous (event : AuditEvent) :
    event.fields.previousAuditSha256.IsJsonSafe := by
  have h : event.fields.postInit = .ok () := event.valid
  simp only [AuditEventFields.postInit, check_bind_eq_ok, require_eq_ok] at h
  rcases h.2.1 with hempty | hhex
  · rw [hempty]
    exact List.IsChain.nil
  · exact hhex.isAscii.isJsonSafe

theorem AuditDraft.isJsonSafe_states (d : AuditDraft) :
    (∀ t ∈ d.fields.beforeSha256, Text.IsJsonSafe t)
      ∧ ∀ t ∈ d.fields.afterSha256, Text.IsJsonSafe t := by
  have h : d.fields.postInit = .ok () := d.valid
  simp only [AuditDraftFields.postInit, check_bind_eq_ok, whenSome_eq_ok, require_eq_ok] at h
  exact ⟨fun t ht => (h.2.2.1 t ht).isAscii.isJsonSafe,
    fun t ht => (h.2.2.2.1 t ht).isAscii.isJsonSafe⟩

section

variable [Hashlib]

/-- Two records break the digest: their details collide, or their payloads do. -/
def AuditEvent.BreaksDigest (event event' : AuditEvent) : Prop :=
  Collide event.fields.draft.fields.details event'.fields.draft.fields.details
    ∨ ∃ v v', event.fields.payloadForHash = .ok v ∧ event'.fields.payloadForHash = .ok v'
      ∧ Collide v v'

/-- **What a digest says.** Two records have the same hashed content: their payloads and details
are written alike, so that they differ in surrogate pairs and in the order of keys at most. -/
structure AuditEvent.SameContent (event event' : AuditEvent) : Prop where
  sequence : event.fields.sequence = event'.fields.sequence
  previous : event.fields.previousAuditSha256 = event'.fields.previousAuditSha256
  digest : event.fields.auditSha256 = event'.fields.auditSha256
  payload : ∃ v v', event.fields.payloadForHash = .ok v ∧ event'.fields.payloadForHash = .ok v'
    ∧ v.dumps = v'.dumps
  draft : event.fields.draft.WrittenAlike event'.fields.draft
  exact : event.fields.draft.HasNoPairs → event'.fields.draft.HasNoPairs →
    event.fields.draft.sortedFields = event'.fields.draft.sortedFields

/-- **Two records with one digest.** -/
theorem sealed_compare {event event' : AuditEvent}
    (h : event.fields.expectedHash = .ok event.fields.auditSha256)
    (h' : event'.fields.expectedHash = .ok event'.fields.auditSha256)
    (hdigest : event.fields.auditSha256 = event'.fields.auditSha256) :
    event.BreaksDigest event' ∨ event.SameContent event' := by
  obtain ⟨v, hpayload, hhash⟩ := Py.of_bind h
  obtain ⟨v', hpayload', hhash'⟩ := Py.of_bind h'
  by_cases hdumps : v.dumps = v'.dumps
  swap
  · left
    exact Or.inr ⟨v, v', hpayload, hpayload', hdumps, by rw [hhash, hhash', hdigest]⟩
  obtain ⟨sha, hsha, hv⟩ := Py.of_bind hpayload
  obtain ⟨sha', hsha', hv'⟩ := Py.of_bind hpayload'
  have hitems := Except.ok.inj hv
  have hitems' := Except.ok.inj hv'
  rw [← hitems, ← hitems'] at hdumps
  have hwritable : (Json.obj (event.fields.payloadItems sha)).isWritable = true := by
    rw [hitems]
    exact isWritable_of_canonicalSha256 hhash
  have hmember : ∀ key {w w' : Json}, Json.lookup key (event.fields.payloadItems sha) = some w →
      Json.lookup key (event'.fields.payloadItems sha') = some w' → w.joinedText = w'.joinedText :=
    fun key => AuditEventFields.joinedText_eq hwritable hdumps key
  have hshas : sha = sha' := eq_of_isJsonSafe
    (isHexDigest_of_canonicalSha256 hsha).isAscii.isJsonSafe
    (isHexDigest_of_canonicalSha256 hsha').isAscii.isJsonSafe (hmember "details_sha256" rfl rfl)
  by_cases hdetails : event.fields.draft.fields.details.dumps
      = event'.fields.draft.fields.details.dumps
  swap
  · left
    exact Or.inl ⟨hdetails, by rw [hsha, hsha', hshas]⟩
  have htrace : event.fields.draft.fields.trace = event'.fields.draft.fields.trace := by
    have hcorrelation := eq_of_identifier (hmember "correlation_id" rfl rfl)
    have htraceId := eq_of_identifier (hmember "trace_id" rfl rfl)
    have hcausation := eq_of_identifierItem (hmember "causation_id" rfl rfl)
    rcases htrace : event.fields.draft.fields.trace with ⟨c, t, k⟩
    rcases htrace' : event'.fields.draft.fields.trace with ⟨c', t', k'⟩
    rw [htrace, htrace'] at hcorrelation htraceId hcausation
    rw [TraceContext.mk.injEq]
    exact ⟨hcorrelation, htraceId, hcausation⟩
  have hdraft : event.fields.draft.WrittenAlike event'.fields.draft :=
    { auditEventId := eq_of_identifier (hmember "audit_event_id" rfl rfl)
      actorRef := joined_of_str (hmember "actor_ref" rfl rfl)
      action := joined_of_str (hmember "action" rfl rfl)
      objectType := joined_of_str (hmember "object_type" rfl rfl)
      trace := htrace
      retentionClass := joined_of_str (hmember "retention_class" rfl rfl)
      recordedAt := RecordedAt.text_inj (eq_of_isJsonSafe
        event.fields.draft.fields.recordedAt.isAscii_text.isJsonSafe
        event'.fields.draft.fields.recordedAt.isAscii_text.isJsonSafe
        (hmember "recorded_at" rfl rfl))
      details := hdetails
      objectId := eq_of_identifierItem (hmember "object_id" rfl rfl)
      objectVersion := eq_of_integerItem (hmember "object_version" rfl rfl)
      beforeSha256 := eq_of_textItem event.fields.draft.isJsonSafe_states.1
        event'.fields.draft.isJsonSafe_states.1 (hmember "before_sha256" rfl rfl)
      afterSha256 := eq_of_textItem event.fields.draft.isJsonSafe_states.2
        event'.fields.draft.isJsonSafe_states.2 (hmember "after_sha256" rfl rfl) }
  exact Or.inr
    { sequence := Json.int.inj (hmember "sequence" rfl rfl)
      previous := eq_of_isJsonSafe event.isJsonSafe_previous event'.isJsonSafe_previous
        (hmember "previous_audit_sha256" rfl rfl)
      digest := hdigest
      payload := ⟨v, v', hpayload, hpayload', hitems ▸ hitems' ▸ hdumps⟩
      draft := hdraft
      exact := hdraft.sortedFields_eq (isWritable_of_canonicalSha256 hsha) }

namespace AppendOnlyAuditLog

/-- **Tamper evidence.** A log that was appended to is verified.  Two logs of one length that are
verified and end in one digest have the same hashed content at every position, unless the details
or the payloads of two records collide. -/
theorem tamper_evident :
    (∀ drafts, verify (machine.exec empty drafts).events = .ok .valid) ∧
    ∀ events events' : List AuditEvent, verify events = .ok .valid → verify events' = .ok .valid →
      events.length = events'.length → headSha256 events = headSha256 events' →
      (∃ event ∈ events, ∃ event' ∈ events', event.BreaksDigest event')
        ∨ List.Forall₂ AuditEvent.SameContent events events' := by
  refine ⟨verify_append, fun events events' hverify hverify' hlength hhead => ?_⟩
  obtain ⟨t, ht⟩ := verify_eq_valid_iff.mp hverify
  obtain ⟨t', ht'⟩ := verify_eq_valid_iff.mp hverify'
  obtain rfl : t = t' := by
    rw [eq_of_linked ht, eq_of_linked ht', hhead, hlength]
  -- one step back: equal digests and numbers after two records
  have hstep : ∀ {s s' : Text × ℤ} {event event' : AuditEvent} {t : Text × ℤ},
      Seals s event t → Seals s' event' t →
      event.BreaksDigest event' ∨ event.SameContent event' ∧ s = s' := by
    rintro ⟨p, n⟩ ⟨p', n'⟩ event event' u ⟨hprevious, hsequence, hhash, hu⟩
      ⟨hprevious', hsequence', hhash', hu'⟩
    rw [hu, Prod.mk.injEq] at hu'
    refine (sealed_compare hhash hhash' hu'.1).imp_right fun hsame => ⟨hsame, ?_⟩
    exact Prod.ext (hprevious.symm.trans (hsame.previous.trans hprevious'))
      (hsequence.symm.trans (hsame.sequence.trans hsequence'))
  exact (ht.compare @hstep ht' hlength).imp_right And.left

omit [Hashlib] in
theorem exists_first (draft : AuditDraft) {digest : Text} (h : digest = [] ∨ digest.IsHexDigest) :
    ∃ event : AuditEvent,
      Frozen.make (⟨1, draft, genesisAuditSha256, digest⟩ : AuditEventFields) = .ok event := by
  have hgenesis : genesisAuditSha256.IsHexDigest := by decide +kernel
  apply Frozen.exists_make_iff.mpr
  show AuditEventFields.postInit _ = .ok ()
  simp only [AuditEventFields.postInit, check_bind_eq_ok, require_eq_ok]
  exact ⟨le_refl 1, Or.inr hgenesis, h⟩

/-- Two drafts that are written alike make first records with one digest. -/
theorem exists_alike (d d' : AuditDraft)
    (hwritable : d.fields.details.isWritable = true)
    (hdetails : d.fields.details.dumps = d'.fields.details.dumps)
    (hpayload : ∀ sha, (Json.obj (AuditEventFields.payloadItems
      ⟨1, d, genesisAuditSha256, []⟩ sha)).isWritable = true)
    (hdumps : ∀ sha, (Json.obj
      (AuditEventFields.payloadItems ⟨1, d, genesisAuditSha256, []⟩ sha)).dumps
      = (Json.obj (AuditEventFields.payloadItems ⟨1, d', genesisAuditSha256, []⟩ sha)).dumps) :
    ∃ event event' : AuditEvent, (machine.exec empty [d]).events = [event]
      ∧ (machine.exec empty [d']).events = [event']
      ∧ event.fields.auditSha256 = event'.fields.auditSha256
      ∧ (∃ sha, event.fields.payloadForHash
          = .ok (.obj (AuditEventFields.payloadItems ⟨1, d, genesisAuditSha256, []⟩ sha))
        ∧ event'.fields.payloadForHash
          = .ok (.obj (AuditEventFields.payloadItems ⟨1, d', genesisAuditSha256, []⟩ sha)))
      ∧ event.fields.draft = d ∧ event'.fields.draft = d' := by
  obtain ⟨sha, hsha, -⟩ := exists_canonicalSha256_of_isWritable hwritable
  have hsha' : canonicalSha256 d'.fields.details = .ok sha := by
    rw [← hsha, canonicalSha256, canonicalSha256, hdetails]
  obtain ⟨digest, hdigest, hhex⟩ := exists_canonicalSha256_of_isWritable (hpayload sha)
  have hdigest' : canonicalSha256 (.obj (AuditEventFields.payloadItems
      ⟨1, d', genesisAuditSha256, []⟩ sha)) = .ok digest := by
    rw [← hdigest, canonicalSha256, canonicalSha256, hdumps]
  -- the first record of a log, by its draft
  have hfirst : ∀ draft : AuditDraft, canonicalSha256 draft.fields.details = .ok sha →
      canonicalSha256 (.obj (AuditEventFields.payloadItems
        ⟨1, draft, genesisAuditSha256, []⟩ sha)) = .ok digest →
      ∃ event : AuditEvent, (machine.exec empty [draft]).events = [event]
        ∧ event.fields = ⟨1, draft, genesisAuditSha256, digest⟩ := by
    intro draft hdetails hpayload
    obtain ⟨event, hevent⟩ := exists_first draft (Or.inr hhex)
    obtain ⟨provisional, hprovisional⟩ := exists_first draft (Or.inl rfl)
    have hfields := Frozen.make_eq_ok.mp hprovisional
    have hexpected : provisional.fields.expectedHash = .ok digest := by
      rw [hfields, AuditEventFields.expectedHash, AuditEventFields.payloadForHash, hdetails,
        Py.ok_bind, Py.ok_bind, hpayload]
    have hnew : empty.newEvent draft = .ok event := by
      have hmake : Frozen.make (⟨0 + 1, draft, genesisAuditSha256, []⟩ : AuditEventFields)
          = .ok provisional := hprovisional
      show (do
        let provisional ← Frozen.make (⟨0 + 1, draft, genesisAuditSha256, []⟩ : AuditEventFields)
        let auditSha256 ← provisional.fields.expectedHash
        Frozen.make ⟨0 + 1, draft, genesisAuditSha256, auditSha256⟩) = Except.ok event
      rw [hmake, Py.ok_bind, hexpected, Py.ok_bind]
      exact hevent
    refine ⟨event, ?_, Frozen.make_eq_ok.mp hevent⟩
    show (empty.append draft).2.events = [event]
    have hunused : draft.fields.auditEventId ∉ empty.eventIds := fun h => by cases h
    rw [append, if_neg hunused, hnew]
    rfl
  obtain ⟨event, hevents, hfields⟩ := hfirst d hsha hdigest
  obtain ⟨event', hevents', hfields'⟩ := hfirst d' hsha' hdigest'
  refine ⟨event, event', hevents, hevents', by rw [hfields, hfields'], ⟨sha, ?_, ?_⟩,
    by rw [hfields], by rw [hfields']⟩
  · rw [hfields, AuditEventFields.payloadForHash, hsha]
    rfl
  · rw [hfields', AuditEventFields.payloadForHash, hsha']
    rfl

end AppendOnlyAuditLog

end

/-! ### Two pairs of drafts -/

namespace AppendOnlyAuditLog

/-- The fields of a draft with an actor and details. -/
def sampleFields (actorRef : Text) (details : Json) : AuditDraftFields where
  auditEventId := .epoch "audit_event" 0 0 (Eq.refl true)
  actorRef := actorRef
  action := "approve"
  objectType := "plan"
  trace := ⟨.epoch "correlation" 0 1 (Eq.refl true), .epoch "trace" 0 2 (Eq.refl true), none⟩
  retentionClass := "standard"
  recordedAt := ⟨.of 2026 7 13 (Eq.refl true), 0, 0, 0, 0⟩
  details := details

/-- Details with two keys, in one order. -/
def detailsForward : AuditDraft :=
  ⟨sampleFields "user" (.obj [("a", .int 1), ("b", .int 2)]), by decide +kernel⟩

/-- The same details in the other order. -/
def detailsBackward : AuditDraft :=
  ⟨sampleFields "user" (.obj [("b", .int 2), ("a", .int 1)]), by decide +kernel⟩

/-- An actor beyond the basic plane. -/
def joinedActor : AuditDraft :=
  ⟨sampleFields [0x1f600] .null, by decide +kernel⟩

/-- An actor of the two surrogates of that character. -/
def pairedActor : AuditDraft :=
  ⟨sampleFields [0xd83d, 0xde00] .null, by decide +kernel⟩

/-- Two logs whose details differ in the order of keys end in one digest. -/
theorem tamper_evident_keys :
    ∃ event event' : AuditEvent, (machine.exec empty [detailsForward]).events = [event]
      ∧ (machine.exec empty [detailsBackward]).events = [event']
      ∧ (event.BreaksDigest event' ∨ event.SameContent event') := by
  obtain ⟨event, event', hevents, hevents', hdigest, -⟩ :=
    exists_alike detailsForward detailsBackward (by decide +kernel)
      (by decide +kernel) (fun sha => rfl) (fun sha => rfl)
  refine ⟨event, event', hevents, hevents', ?_⟩
  have hsame := tamper_evident.2 [event] [event'] (hevents ▸ tamper_evident.1 [detailsForward])
    (hevents' ▸ tamper_evident.1 [detailsBackward]) rfl (congrArg some hdigest)
  rcases hsame with ⟨e, he, e', he', hbreaks⟩ | hsame
  · rw [List.mem_singleton.mp he, List.mem_singleton.mp he'] at hbreaks
    exact Or.inl hbreaks
  · rcases hsame with _ | ⟨hsame, -⟩
    exact Or.inr hsame

/-- **Two records that are hashed alike.**  An actor of two surrogates can be replaced by the
character that they stand for: both logs are verified and end in one digest, and no collision is
involved. -/
theorem not_detected :
    ¬ ∀ events events' : List AuditEvent, verify events = .ok .valid → verify events' = .ok .valid →
      events.length = events'.length → headSha256 events = headSha256 events' →
      (∃ event ∈ events, ∃ event' ∈ events', event.BreaksDigest event')
        ∨ List.Forall₂ (fun event event' : AuditEvent =>
          event.fields.payloadForHash = event'.fields.payloadForHash) events events' := by
  intro h
  have hdumps : ∀ sha, (Json.obj (AuditEventFields.payloadItems
      ⟨1, pairedActor, genesisAuditSha256, []⟩ sha)).dumps
      = (Json.obj (AuditEventFields.payloadItems ⟨1, joinedActor, genesisAuditSha256, []⟩
        sha)).dumps := by
    intro sha
    rw [← Json.dumps_joinedMembers, ← Json.dumps_joinedMembers (AuditEventFields.payloadItems
      ⟨1, joinedActor, genesisAuditSha256, []⟩ sha)]
    rfl
  obtain ⟨event, event', hevents, hevents', hdigest, ⟨sha, hpayload, hpayload'⟩, hdraft, hdraft'⟩ :=
    exists_alike pairedActor joinedActor (by decide +kernel) rfl (fun sha => rfl) hdumps
  rcases h [event] [event'] (hevents ▸ verify_append [pairedActor])
    (hevents' ▸ verify_append [joinedActor]) rfl (congrArg some hdigest) with
    ⟨e, he, e', he', hbreaks⟩ | hsame
  · rw [List.mem_singleton.mp he, List.mem_singleton.mp he'] at hbreaks
    rcases hbreaks with ⟨hne, -⟩ | ⟨v, v', hv, hv', hne, -⟩
    · rw [hdraft, hdraft'] at hne
      exact hne rfl
    · rw [← Except.ok.inj (hpayload.symm.trans hv), ← Except.ok.inj (hpayload'.symm.trans hv')]
        at hne
      exact hne (hdumps sha)
  · rcases hsame with _ | ⟨hsame, -⟩
    rw [hpayload, hpayload', Except.ok.injEq, Json.obj.injEq] at hsame
    have hactor : some (Json.str pairedActor.fields.actorRef)
        = some (.str joinedActor.fields.actorRef) :=
      congrArg (Json.lookup "actor_ref") hsame
    exact absurd (Json.str.inj (Option.some.inj hactor)) (by decide +kernel)

end AppendOnlyAuditLog

end FuturesAgentOs
