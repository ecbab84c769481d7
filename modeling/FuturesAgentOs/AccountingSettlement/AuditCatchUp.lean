import FuturesAgentOs.AccountingSettlement.AuditReplay
import FuturesAgentOs.AccountingSettlement.MarkToMarket

namespace FuturesAgentOs

open PyModel

/-!
# Catching up with the audit log

An account that replayed the beginning of a log replays all of it later.  What it applied the
first time is skipped by its identity, so a correction that arrived in between changes what a
fresh account applies and not what this one holds.

* `replay_resumed` — then the account catches up;
-/

namespace DurableAuditLog

/-! ### Corrections -/

theorem exists_collect {event : DurableAuditEvent} (h : event.HasMapping)
    (corrections : Replacements) :
    ∃ corrections', collect corrections event = .ok corrections' := by
  have hget : ∀ key, event.get key = .ok (Json.lookup key event.items) := by
    intro key
    rw [DurableAuditEvent.get, show event.fields.payload = _ from h]
  unfold collect
  split
  · exact ⟨_, rfl⟩
  cases event.fields.correctionOf with
  | none => exact ⟨_, rfl⟩
  | some target =>
    simp only [hget, Py.ok_bind]
    split <;> exact ⟨_, rfl⟩

theorem exists_replacements {events : List DurableAuditEvent}
    (h : ∀ event ∈ events, DurableAuditEvent.HasMapping event) :
    ∃ corrections, replacements events = .ok corrections := by
  suffices hfold : ∀ start, ∃ corrections, events.foldlM collect start = .ok corrections from
    hfold .empty
  induction events with
  | nil => exact fun start => ⟨start, rfl⟩
  | cons event events ih =>
    intro start
    rw [List.forall_mem_cons] at h
    obtain ⟨next, hnext⟩ := exists_collect h.1 start
    rw [List.foldlM_cons, hnext, Py.ok_bind]
    exact ih h.2 next

theorem get?_collect {event : DurableAuditEvent} {corrections corrections' : Replacements}
    (h : collect corrections event = .ok corrections') {target : EntityId}
    (hother : event.fields.eventType = "CORRECTION" → event.fields.correctionOf ≠ some target) :
    corrections'.get? target = corrections.get? target := by
  unfold collect at h
  split at h
  · rw [Except.ok.inj h]
  case isFalse htype =>
    have hother := hother (not_not.mp htype)
    cases hcorrection : event.fields.correctionOf with
    | none =>
      simp only [hcorrection] at h
      rw [Except.ok.inj h]
    | some corrected =>
      rw [hcorrection] at hother
      simp only [hcorrection, Py.bind_eq_ok] at h
      obtain ⟨replacementType, -, replacement, -, h⟩ := h
      split at h
      · rw [← Except.ok.inj h]
        exact Dict.get?_set_of_ne _ _ (fun heq => hother (congrArg some heq.symm))
      · rw [Except.ok.inj h]

theorem get?_foldlM_collect {events : List DurableAuditEvent} {target : EntityId}
    (hother : ∀ event ∈ events,
      event.fields.eventType = "CORRECTION" → event.fields.correctionOf ≠ some target)
    {corrections corrections' : Replacements}
    (h : events.foldlM collect corrections = .ok corrections') :
    corrections'.get? target = corrections.get? target := by
  induction events generalizing corrections with
  | nil => rw [Except.ok.inj h]
  | cons event events ih =>
    rw [List.forall_mem_cons] at hother
    rw [List.foldlM_cons, Py.bind_eq_ok] at h
    obtain ⟨next, hnext, h⟩ := h
    rw [ih hother.2 h, get?_collect hnext hother.1]

section

variable (isPrintable : CodePoint → Bool) (corrections : Replacements) (accountId : EntityId)

/-- The account has applied the fact that the event is read as. -/
def Done (event : DurableAuditEvent) (account : SimulationAccount) : Prop :=
  match reading isPrintable corrections accountId event with
  | .error _ => False
  | .ok none => True
  | .ok (some fact) => account.Has fact

variable [Hashlib] (ctx : DecimalContext)

variable {isPrintable} {corrections} {accountId} {ctx}

variable {account : SimulationAccount}

/-- A fact that was applied stays applied under every event. -/
theorem has_applyEvent {fact : AccountingFact} (h : account.Has fact) (event : DurableAuditEvent) :
    (applyEvent isPrintable corrections accountId ctx event account).2.Has fact := by
  unfold applyEvent
  split
  · exact h
  · exact h
  · exact (SimulationAccount.idempotent_applyFact ctx accountId).done_apply h _

theorem done_applyEvent {corrections' : Replacements} {event : DurableAuditEvent} (h : Done isPrintable corrections' accountId event account)
    (other : DurableAuditEvent) : Done isPrintable corrections' accountId event
      (applyEvent isPrintable corrections accountId ctx other account).2 := by
  unfold Done at h ⊢
  split at h
  · exact h
  · trivial
  · exact has_applyEvent h other

variable (isPrintable corrections accountId ctx)

/-- **An event is skipped once it was applied.** -/
theorem idempotent_applyEvent :
    Py.Idempotent (applyEvent isPrintable corrections accountId ctx)
      (Done isPrintable corrections accountId) where
  done_of_ok := by
    intro event account account' h
    rcases hread : reading isPrintable corrections accountId event with e | _ | fact
    · simp only [applyEvent, hread] at h
      cases congrArg Prod.fst h
    · simp only [Done, hread]
    · simp only [applyEvent, hread] at h
      simp only [Done, hread]
      exact (SimulationAccount.idempotent_applyFact ctx accountId).done_of_ok h
  done_apply := done_applyEvent
  skip := by
    intro event account h
    rcases hread : reading isPrintable corrections accountId event with e | _ | fact
    · simp only [Done, hread] at h
    · simp only [applyEvent, hread]
    · simp only [Done, hread] at h
      simp only [applyEvent, hread]
      exact (SimulationAccount.idempotent_applyFact ctx accountId).skip h

/-- The corrections of the whole log leave what the beginning applies as it is: along the first
replay, every event that is applied has the same effect under them, and the event that ends the
replay, if any, leaves the account as it was. -/
def Undisturbed (earlier later : List DurableAuditEvent) (account : SimulationAccount) : Prop :=
  ∀ corrections corrections', replacements earlier = .ok corrections →
    replacements (earlier ++ later) = .ok corrections' →
    Py.Agrees (applyEvent isPrintable corrections accountId ctx)
      (applyEvent isPrintable corrections' accountId ctx) earlier account

variable {isPrintable corrections accountId ctx}

/-- Nothing is disturbed when no later event corrects an earlier one and the first replay does not
stop halfway through an event. -/
theorem undisturbed_of_uncorrected {earlier later : List DurableAuditEvent}
    (huncorrected : ∀ event ∈ later, event.fields.eventType = "CORRECTION" →
      ∀ target ∈ event.fields.correctionOf, target ∉ earlier.map (·.fields.eventId))
    (hclean : ∀ corrections, replacements earlier = .ok corrections →
      Py.RaisesCleanly (applyEvent isPrintable corrections accountId ctx) earlier account) :
    Undisturbed isPrintable accountId ctx earlier later account := by
  intro corrections corrections' hearlier hwhole
  apply (hclean corrections hearlier).agrees
  intro event hevent
  have hfold : later.foldlM collect corrections = .ok corrections' := by
    rw [replacements, List.foldlM_append] at hwhole
    obtain ⟨between, hbetween, hwhole⟩ := Py.of_bind hwhole
    rw [replacements, hbetween] at hearlier
    rwa [← Except.ok.inj hearlier]
  have hget : corrections'.get? event.fields.eventId = corrections.get? event.fields.eventId := by
    apply get?_foldlM_collect _ hfold
    intro other hother htype htarget
    exact huncorrected other hother htype _ htarget (List.mem_map_of_mem hevent)
  funext account
  simp only [applyEvent, reading, hget]

/-- **Catching up.**  A log is split into a beginning and the rest, and the corrections of the
rest leave what the beginning applies as it is.  Then an account that replayed the beginning and
later replays the whole log ends as it would have, had it replayed the whole log at once. -/
theorem replay_resumed (isPrintable : CodePoint → Bool) (accountId : EntityId)
    (ctx : DecimalContext) (log beginning : DurableAuditLog) (rest : List DurableAuditEvent)
    (account : SimulationAccount) (hsplit : log.events = beginning.events ++ rest)
    (hmapping : ∀ event ∈ log.events, DurableAuditEvent.HasMapping event)
    (h : Undisturbed isPrintable accountId ctx beginning.events rest account) :
    let first := beginning.replay isPrintable accountId ctx account
    log.replay isPrintable accountId ctx first.2
      = log.replay isPrintable accountId ctx account := by
  intro first
  rw [hsplit, List.forall_mem_append] at hmapping
  obtain ⟨corrections, hcorrections⟩ := exists_replacements hmapping.1
  obtain ⟨corrections', hcorrections'⟩ :=
    exists_replacements (List.forall_mem_append.mpr hmapping)
  have hagrees := h corrections corrections' hcorrections hcorrections'
  have hfirst : first = Py.replay (applyEvent isPrintable corrections accountId ctx)
      beginning.events account := by
    show replayEvents _ _ _ _ _ = _
    simp only [replayEvents, hcorrections]
  simp only [hfirst, replay, replayEvents, hsplit, hcorrections']
  exact (idempotent_applyEvent isPrintable corrections' accountId ctx).replay_again
    (fun hdone other => done_applyEvent hdone other) hagrees rest

end

/-! ### A correction that comes late -/

/-- A digest. -/
abbrev Hash := {t : Text // t.IsHexDigest}

/-- The account of the samples. -/
def auditedAccountId : EntityId := .epoch "simulation_account" 0 0 (Eq.refl true)

/-- The opening fill with the fee of three that it should have had. -/
def correctedFill : Fill :=
  ⟨{ SimulationAccount.openingFill.fields with fee := Decimal.ofNat 3 }, by decide +kernel⟩

/-- The fields of an event about the opening fill. -/
def openingFields (hash : Text) : DurableAuditEventFields where
  sequence := 1
  eventId := .epoch "audit_event" 1 0 (Eq.refl true)
  eventType := "FILL"
  aggregateId := auditedAccountId
  payload := .obj (fillItems SimulationAccount.openingFill "1.0")
  recordedAt := SimulationAccount.sampleNow
  sourceRef := "source:v2"
  previousHash := genesisHash
  eventHash := hash
  correctionOf := none

/-- The event about the opening fill. -/
def openingEvent (hash : Hash) : DurableAuditEvent where
  fields := openingFields hash.val
  valid := DurableAuditEventFields.postInit_eq_ok.mpr
    ⟨le_refl 1, rfl, show IsCanonicalText "FILL" by decide,
      show IsCanonicalText "source:v2" by decide, show genesisHash.IsHexDigest by decide,
      hash.property, rfl⟩

/-- The sample account with the fact of the opening fill. -/
def openedWith (fill : Fill) : SimulationAccount :=
  (SimulationAccount.applyFact defaultContext auditedAccountId (.opened fill)
    (.new SimulationAccount.sampleConfig)).2

theorem applyEvent_opening (hash : Hash) :
    applyEvent (fun _ => false) .empty auditedAccountId defaultContext (openingEvent hash)
      (.new SimulationAccount.sampleConfig)
      = (.ok (), openedWith SimulationAccount.openingFill) := by
  have hreading : reading (fun _ => false) .empty auditedAccountId (openingEvent hash)
      = .ok (some (.opened SimulationAccount.openingFill)) := by
    show factOf (fun _ => false) (fillItems SimulationAccount.openingFill "1.0") "FILL" = _
    decide +kernel
  simp only [applyEvent, hreading]
  exact Prod.ext (by decide +kernel) (by rw [openedWith])

/-- The fields of an event about the closing fill. -/
def closingFields (previous hash : Text) : DurableAuditEventFields where
  sequence := 2
  eventId := .epoch "audit_event" 2 0 (Eq.refl true)
  eventType := "CLOSE_FILL"
  aggregateId := auditedAccountId
  payload := .obj (fillItems SimulationAccount.closingFill "1.0")
  recordedAt := SimulationAccount.sampleNow
  sourceRef := "source:v2"
  previousHash := previous
  eventHash := hash
  correctionOf := none

/-- The event about the closing fill. -/
def closingEvent (previous hash : Hash) : DurableAuditEvent where
  fields := closingFields previous.val hash.val
  valid := DurableAuditEventFields.postInit_eq_ok.mpr
    ⟨show (1 : ℤ) ≤ 2 by decide, rfl, show IsCanonicalText "CLOSE_FILL" by decide,
      show IsCanonicalText "source:v2" by decide, previous.property, hash.property, rfl⟩

/-- A digest of zeros. -/
def zeroHash : Hash := ⟨genesisHash, by decide⟩

/-- An account that replayed the opening fill catches up with the close. -/
theorem replay_resumed_of_close :
    let log : DurableAuditLog := ⟨[openingEvent zeroHash, closingEvent zeroHash zeroHash], none⟩
    let first := (⟨[openingEvent zeroHash], none⟩ : DurableAuditLog).replay (fun _ => false)
      auditedAccountId defaultContext (.new SimulationAccount.sampleConfig)
    log.replay (fun _ => false) auditedAccountId defaultContext first.2
      = log.replay (fun _ => false) auditedAccountId defaultContext
        (.new SimulationAccount.sampleConfig) := by
  apply replay_resumed (fun _ => false) auditedAccountId defaultContext
    ⟨[openingEvent zeroHash, closingEvent zeroHash zeroHash], none⟩ ⟨[openingEvent zeroHash], none⟩
    [closingEvent zeroHash zeroHash] _ rfl
  · rintro event (_ | ⟨_, _ | ⟨_, ⟨⟩⟩⟩) <;> rfl
  · apply undisturbed_of_uncorrected
    · rintro event (_ | ⟨_, ⟨⟩⟩) htype
      exact absurd htype (show ("CLOSE_FILL" : Text) ≠ "CORRECTION" by decide)
    · intro corrections hcorrections
      have hnone : replacements [openingEvent zeroHash] = .ok .empty := rfl
      rw [hnone] at hcorrections
      rw [← Except.ok.inj hcorrections]
      simp only [Py.RaisesCleanly, applyEvent_opening]

/-- The details of the correction of the fee. -/
def feeDetails (target : Hash) : List (Text × Json) :=
  correctionItems (openingEvent target) "system:reconciliation" ++
    [(("replacement_event_type" : Text), Json.str "FILL"),
      ("replacement", .obj (fillItems correctedFill "1.0"))]

/-- The fields of the correction of the fee. -/
def correctionFields (target : Hash) (hash : Text) : DurableAuditEventFields where
  sequence := 2
  eventId := .epoch "audit_event" 2 0 (Eq.refl true)
  eventType := "CORRECTION"
  aggregateId := auditedAccountId
  payload := .obj (feeDetails target)
  recordedAt := SimulationAccount.sampleNow
  sourceRef := "source:v2:correction"
  previousHash := target.val
  eventHash := hash
  correctionOf := some (.epoch "audit_event" 1 0 (Eq.refl true))

/-- The correction of the fee. -/
def feeCorrection (target hash : Hash) : DurableAuditEvent where
  fields := correctionFields target hash.val
  valid := DurableAuditEventFields.postInit_eq_ok.mpr
    ⟨show (1 : ℤ) ≤ 2 by decide, rfl, show IsCanonicalText "CORRECTION" by decide,
      show IsCanonicalText "source:v2:correction" by decide, target.property, hash.property, rfl⟩

/-- **A correction that is missed.**  The fee of an opening fill is corrected after an account
replayed the fill; the account keeps the old fee. -/
theorem correction_missed :
    ¬ ∀ (isPrintable : CodePoint → Bool) (accountId : EntityId) (ctx : DecimalContext)
        (log beginning : DurableAuditLog) (rest : List DurableAuditEvent)
        (config : Frozen AccountConfigFields), log.events = beginning.events ++ rest →
      log.verify = .ok true → beginning.verify = .ok true →
      (∀ event ∈ log.events, DurableAuditEvent.HasMapping event) →
      (log.replay isPrintable accountId ctx
          (beginning.replay isPrintable accountId ctx (.new config)).2).2.state
        = (log.replay isPrintable accountId ctx (.new config)).2.state := by
  intro h
  -- the hash of an event is taken of its other fields
  obtain ⟨first, hfirst, hfirstHex⟩ :=
    exists_canonicalSha256_of_isWritable
      (show (openingFields "").hashPayload.isWritable = true by decide +kernel)
  lift first to Hash using hfirstHex
  have hwritable : (correctionFields first "").hashPayload.isWritable = true := rfl
  obtain ⟨second, hsecond, hsecondHex⟩ := exists_canonicalSha256_of_isWritable hwritable
  lift second to Hash using hsecondHex
  let fill := openingEvent first
  let correction := feeCorrection first second
  let corrected : Replacements := Dict.set .empty (.epoch "audit_event" 1 0 (Eq.refl true))
    ("FILL", fillItems correctedFill "1.0")
  have hchained : ∀ events, verifyFrom genesisHash 1 (fill :: events)
      = verifyFrom first.val 2 events := by
    have hhash : canonicalSha256 fill.fields.hashPayload = .ok fill.fields.eventHash := hfirst
    exact verifyFrom_cons rfl rfl hhash
  have hverifyFill : (⟨[fill], none⟩ : DurableAuditLog).verify = .ok true := hchained []
  have hverify : (⟨[fill, correction], none⟩ : DurableAuditLog).verify = .ok true := by
    have hhash : canonicalSha256 correction.fields.hashPayload = .ok correction.fields.eventHash :=
      hsecond
    exact (hchained [correction]).trans (verifyFrom_cons rfl rfl hhash [])
  have hcorrections : replacements [fill, correction] = .ok corrected := rfl
  have hnone : replacements [fill] = .ok .empty := rfl
  have hskipped : ∀ account, applyEvent (fun _ => false) corrected auditedAccountId
      defaultContext correction account = (.ok (), account) := fun account => rfl
  have hequal := h (fun _ => false) auditedAccountId defaultContext ⟨[fill, correction], none⟩
    ⟨[fill], none⟩ [correction] SimulationAccount.sampleConfig rfl hverify hverifyFill
    (by rintro event (_ | ⟨_, _ | ⟨_, ⟨⟩⟩⟩) <;> rfl)
  have hopening : applyEvent (fun _ => false) .empty auditedAccountId defaultContext fill
      (.new SimulationAccount.sampleConfig)
      = (.ok (), openedWith SimulationAccount.openingFill) := applyEvent_opening first
  have hafter : reading (fun _ => false) corrected auditedAccountId fill
      = .ok (some (.opened correctedFill)) := by
    show factOf (fun _ => false) (fillItems correctedFill "1.0") "FILL" = _
    decide +kernel
  have hcorrected : applyEvent (fun _ => false) corrected auditedAccountId defaultContext fill
      (.new SimulationAccount.sampleConfig) = (.ok (), openedWith correctedFill) := by
    simp only [applyEvent, hafter]
    exact Prod.ext (by decide +kernel) (by rw [openedWith])
  -- the account that holds the fill skips its correction
  have hkept : applyEvent (fun _ => false) corrected auditedAccountId defaultContext fill
      (openedWith SimulationAccount.openingFill)
      = (.ok (), openedWith SimulationAccount.openingFill) := by
    apply (idempotent_applyEvent _ corrected auditedAccountId defaultContext).skip
    simp only [Done, hafter]
    decide +kernel
  simp only [replay, replayEvents, hcorrections, hnone, Py.replay, hopening, hcorrected, hkept,
    hskipped] at hequal
  exact absurd (congrArg AccountState.fees hequal) (by decide +kernel)

end DurableAuditLog

end FuturesAgentOs
