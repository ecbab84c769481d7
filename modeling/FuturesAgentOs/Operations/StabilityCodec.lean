import FuturesAgentOs.Operations.StabilityRun

namespace FuturesAgentOs

open PyModel

/-!
# Lines of a stability journal

A heartbeat that `append` writes is read back as it was (`StabilityHeartbeat.readLine_written`),
when its texts survive JSON (`StabilityHeartbeat.Storable`).
-/

section

variable (isPrintable : CodePoint → Bool)

/-- An integer of the object that was written. -/
theorem intItem_sorted {items : List (Text × Json)} (h : (items.map Prod.fst).Nodup) {key : Text}
    {n : ℤ} (hfits : FitsStr n) (hn : Json.lookup key items = some (.int n)) :
    (strItem isPrintable (Json.sorted items) key >>= intOfStr) = .ok n := by
  have hstr : strItem isPrintable (Json.sorted items) key = .ok (Text.ofInt n) := by
    rw [strItem, Json.item_sorted h hn]
    rfl
  rw [hstr, Py.ok_bind, intOfStr_ofInt hfits]

/-! ### Incidents -/

namespace StabilityIncident

/-- The texts of an incident survive JSON. -/
structure Storable (i : StabilityIncident) : Prop where
  incidentId : i.fields.incidentId.IsJsonSafe
  category : i.fields.category.IsJsonSafe
  reportRef : i.fields.reportRef.IsJsonSafe

variable {i : StabilityIncident}

theorem keys_payloadItems (i : StabilityIncident) : i.payloadItems.map Prod.fst = incidentKeys :=
  rfl

theorem nodup_payloadItems (i : StabilityIncident) : (i.payloadItems.map Prod.fst).Nodup := by
  rw [keys_payloadItems]
  simp [incidentKeys]

theorem isSafe_payloadItems (h : Storable i) : (Json.obj i.payloadItems).IsSafe := by
  apply Json.isSafe_obj (keys_payloadItems i) (by simp [incidentKeys])
    (by simp [incidentKeys])
  simp only [payloadItems, List.forall_mem_cons, Json.IsSafe]
  exact ⟨h.incidentId, h.category, i.fields.detectedAt.isAscii_text.isJsonSafe,
    i.fields.recoveredAt.isAscii_text.isJsonSafe, h.reportRef,
    i.fields.downtimeSeconds.isAscii_str.isJsonSafe, by simp⟩

/-- **An incident is read back.** -/
theorem incidentFromPayload_sortKeys (i : StabilityIncident) :
    incidentFromPayload isPrintable (Json.obj i.payloadItems).sortKeys = .ok i := by
  have hkeys : Json.keysAre (Json.sorted i.payloadItems) incidentKeys := by
    apply Json.keysAre_sorted
    exact Json.keysAre_of_eq i.keys_payloadItems
  have hstr : ∀ key t, Json.lookup key i.payloadItems = some (.str t) →
      strItem isPrintable (Json.sorted i.payloadItems) key = .ok t :=
    fun key t => strItem_sorted isPrintable (nodup_payloadItems i)
  rw [Json.sortKeys_obj, incidentFromPayload, require_of_pos hkeys, hstr "incident_id" _ rfl,
    hstr "category" _ rfl, hstr "detected_at" _ rfl, hstr "recovered_at" _ rfl,
    hstr "report_ref" _ rfl, hstr "downtime_seconds" _ rfl]
  simp only [Py.ok_bind, RecordedAt.parse_text, decimalOfStr_str, finiteDecimal,
    Frozen.make_eq_ok]

end StabilityIncident

/-! ### Heartbeats -/

variable [Hashlib]

namespace StabilityHeartbeat

/-- The texts of a heartbeat survive JSON. -/
structure Storable (h : StabilityHeartbeat) : Prop where
  runId : h.fields.body.runId.IsJsonSafe
  codeCommit : h.fields.body.codeCommit.IsJsonSafe
  incidents : ∀ i ∈ h.fields.body.incidents, StabilityIncident.Storable i

variable {h : StabilityHeartbeat}

theorem checked (h : StabilityHeartbeat) :
    h.fields.body.previousDigest.IsHexDigest ∧ h.fields.digest.IsHexDigest
      ∧ canonicalSha256 (.obj h.fields.body.hashItems) = .ok h.fields.digest := by
  have hvalid : h.fields.postInit = .ok () := h.valid
  rw [StabilityHeartbeatFields.postInit] at hvalid
  simp only [check_bind_eq_ok] at hvalid
  obtain ⟨-, -, -, -, -, hprevious, hdigest, hrest⟩ := hvalid
  obtain ⟨expected, hexpected, heq⟩ := Py.of_bind hrest
  rw [require_eq_ok] at heq
  exact ⟨require_eq_ok.mp hprevious, require_eq_ok.mp hdigest, heq ▸ hexpected⟩

/-- The numbers of a heartbeat have texts. -/
structure NumbersFit (b : HeartbeatBody) : Prop where
  sequence : FitsStr b.sequence
  bucket : FitsStr b.bucket
  simulatedTradeCount : FitsStr b.simulatedTradeCount
  duplicateTradeCount : FitsStr b.duplicateTradeCount
  unprotectedPositionCount : FitsStr b.unprotectedPositionCount
  auditChainBreakCount : FitsStr b.auditChainBreakCount

omit [Hashlib] in
theorem isWritable_incidents (incidents : List StabilityIncident) :
    (Json.arr (incidents.map fun i => .obj i.payloadItems)).isWritable = true := by
  rw [Json.isWritable, Json.areWritable_iff]
  intro v hv
  obtain ⟨i, -, rfl⟩ := List.mem_map.mp hv
  rfl

omit [Hashlib] in
/-- A body is written exactly when its numbers have texts. -/
theorem isWritable_hashItems (b : HeartbeatBody) :
    (Json.obj b.hashItems).isWritable = true ↔ NumbersFit b := by
  have hbool : ∀ x, (Json.bool x).isWritable = true := fun _ => rfl
  simp only [HeartbeatBody.hashItems, Json.isWritable_obj, Json.membersWritable,
    Json.isWritable_str, isWritable_incidents, hbool, Bool.and_eq_true, Json.isWritable_int,
    true_and, and_true]
  constructor
  · rintro ⟨h₁, h₂, h₃, h₄, h₅, h₆⟩
    exact ⟨h₁, h₂, h₃, h₄, h₅, h₆⟩
  · rintro ⟨h₁, h₂, h₃, h₄, h₅, h₆⟩
    exact ⟨h₁, h₂, h₃, h₄, h₅, h₆⟩

/-- The numbers of a heartbeat have texts, since it has a digest. -/
theorem numbersFit (h : StabilityHeartbeat) : NumbersFit h.fields.body := by
  obtain ⟨-, -, hdigest⟩ := h.checked
  rw [← isWritable_hashItems]
  by_contra hwritable
  rw [canonicalSha256, Json.dumps, if_neg hwritable] at hdigest
  cases hdigest

theorem keys_payloadItems (h : StabilityHeartbeat) :
    h.payloadItems.map Prod.fst = heartbeatKeys := rfl

theorem nodup_payloadItems (h : StabilityHeartbeat) : (h.payloadItems.map Prod.fst).Nodup := by
  rw [keys_payloadItems]
  simp [heartbeatKeys]

theorem isSafe_payloadItems (hstorable : h.Storable) : (Json.obj h.payloadItems).IsSafe := by
  obtain ⟨hprevious, hdigest, -⟩ := h.checked
  have hfit := h.numbersFit
  have hincidents : (Json.arr (h.fields.body.incidents.map fun i => .obj i.payloadItems)).IsSafe :=
    Json.isSafe_arr fun i hi => StabilityIncident.isSafe_payloadItems (hstorable.incidents i hi)
  apply Json.isSafe_obj (keys_payloadItems h) (by simp [heartbeatKeys])
    (by simp [heartbeatKeys])
  simp only [payloadItems, HeartbeatBody.hashItems, List.cons_append, List.nil_append,
    List.forall_mem_cons]
  exact ⟨hstorable.runId, hfit.sequence, hfit.bucket,
    h.fields.body.recordedAt.isAscii_text.isJsonSafe, hstorable.codeCommit, trivial,
    hfit.simulatedTradeCount, hfit.duplicateTradeCount, hfit.unprotectedPositionCount,
    hfit.auditChainBreakCount, h.fields.body.ledgerDifference.isAscii_str.isJsonSafe, hincidents,
    hprevious.isAscii.isJsonSafe, hdigest.isAscii.isJsonSafe, by simp⟩

/-- **A heartbeat is read back.** -/
theorem heartbeatFromPayload_sortKeys (h : StabilityHeartbeat) :
    heartbeatFromPayload isPrintable (Json.obj h.payloadItems).sortKeys = .ok h := by
  have hkeys : Json.keysAre (Json.sorted h.payloadItems) heartbeatKeys := by
    apply Json.keysAre_sorted
    exact Json.keysAre_of_eq h.keys_payloadItems
  have hfit := h.numbersFit
  have hstr : ∀ key t, Json.lookup key h.payloadItems = some (.str t) →
      strItem isPrintable (Json.sorted h.payloadItems) key = .ok t :=
    fun key t => strItem_sorted isPrintable h.nodup_payloadItems
  have hint : ∀ key n, FitsStr n → Json.lookup key h.payloadItems = some (.int n) →
      (strItem isPrintable (Json.sorted h.payloadItems) key >>= intOfStr) = .ok n :=
    fun key n => intItem_sorted isPrintable h.nodup_payloadItems
  have hitem : ∀ key v, Json.lookup key h.payloadItems = some v →
      Json.item (Json.sorted h.payloadItems) key = .ok v.sortKeys :=
    fun key v => Json.item_sorted h.nodup_payloadItems
  have hincidents := Json.mapM_sortKeys (l := h.fields.body.incidents)
    (fun i _ => StabilityIncident.incidentFromPayload_sortKeys isPrintable i)
  have hlist := hitem "incidents" _ rfl
  rw [Json.sortKeys, Json.sortItems_eq] at hlist
  rw [Json.sortKeys_obj, heartbeatFromPayload, require_of_pos hkeys, hstr "run_id" _ rfl,
    hint "sequence" _ hfit.sequence rfl, hint "bucket" _ hfit.bucket rfl,
    hstr "recorded_at" _ rfl, hstr "code_commit" _ rfl, hitem "health_ok" _ rfl,
    hint "simulated_trade_count" _ hfit.simulatedTradeCount rfl,
    hint "duplicate_trade_count" _ hfit.duplicateTradeCount rfl,
    hint "unprotected_position_count" _ hfit.unprotectedPositionCount rfl,
    hint "audit_chain_break_count" _ hfit.auditChainBreakCount rfl,
    hstr "ledger_difference" _ rfl, hlist, hstr "previous_digest" _ rfl, hstr "digest" _ rfl]
  simp only [Py.ok_bind, RecordedAt.parse_text, decimalOfStr_str, finiteDecimal, incidentsOf,
    hincidents, Json.sortKeys, healthOf, Frozen.make_eq_ok]

/-- **A line is read back.** -/
theorem readLine_written (hstorable : h.Storable) {line : Text}
    (hline : (Json.obj h.payloadItems).dumps = some line) :
    StabilityJournal.readLine isPrintable line = .ok h := by
  obtain ⟨hdumps, hloads⟩ := Json.loads_dumps (isSafe_payloadItems hstorable)
  rw [hdumps, Option.some.injEq] at hline
  rw [← hline, StabilityJournal.readLine, hloads]
  exact heartbeatFromPayload_sortKeys isPrintable h

end StabilityHeartbeat

end

end FuturesAgentOs
