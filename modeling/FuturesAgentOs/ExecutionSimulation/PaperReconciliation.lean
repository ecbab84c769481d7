import FuturesAgentOs.ExecutionSimulation.PaperAdapter

namespace FuturesAgentOs

open PyModel

/-!
# What a match compares

A report is matched exactly when the connector is healthy and the report agrees with the order and
with its fills in the quantities, the state, the identities and the contract.  Prices and fees are
not compared, and neither is how a total divides into fills; a match imports them instead.

* `reconcileState_matched` — exactly this is needed for a match, and what a match imports.
-/

namespace PaperTradingAdapter

/-- The connector as `reconcile_state` compares a report with an order and its fills. -/
structure Agrees (ctx : DecimalContext) (a : PaperTradingAdapter) (order : Order)
    (fills : List Fill)
    (external : ExternalExecution) (externalOrderId : Text) : Prop where
  /-- the report is about the external order -/
  orderId : external.fields.orderId = externalOrderId
  /-- the quantities of the order are the same -/
  quantity : ∃ quantity, external.fields.quantity = some quantity
    ∧ quantity.numEq order.fields.quantity
    ∧ (a.capabilities.fields.supportsPartialFills = true
      ∨ ¬ (Decimal.ofNat 0 < external.fields.filledQuantity
        ∧ external.fields.filledQuantity < quantity))
  /-- the state of the order is one that the reported state stands for -/
  status : order.fields.status ∈ statusMap external.fields.status
  /-- the filled totals are the same -/
  total : order.fields.filledQuantity.numEq external.fields.filledQuantity
  /-- the fills of the order make up its total -/
  localTotal : ∃ sum, ctx.sum (fills.map (·.fields.quantity)) = .ok sum
    ∧ sum.numEq order.fields.filledQuantity
  /-- the reported fills make up the reported total -/
  externalTotal : ∃ sum, ctx.sum (external.fields.fills.map (·.fields.quantity)) = .ok sum
    ∧ sum.numEq external.fields.filledQuantity
  /-- no fill of the order is counted twice -/
  localIds : (fills.map (·.fields.fillId)).Nodup
  /-- no reported fill is counted twice -/
  externalIds : (external.fields.fills.map (·.fields.externalFillId)).Nodup
  /-- the fills are of the order and of its contract -/
  localContract : ∀ fill ∈ fills, fill.fields.orderId = order.fields.orderId
    ∧ fill.fields.instrument = order.fields.instrument
    ∧ fill.fields.direction = order.fields.direction
  /-- the reported fills are of the reported order and of the contract -/
  externalContract : ∀ fill ∈ external.fields.fills, fill.fields.orderId = external.fields.orderId
    ∧ fill.fields.instrument = order.fields.instrument
    ∧ fill.fields.direction = order.fields.direction

/-- A source that fills can name: no space within the name and the version of the connector. -/
def NamesSource (a : PaperTradingAdapter) : Prop :=
  a.capabilities.fields.name.all (fun c => !Text.isSpace c) = true
    ∧ a.capabilities.fields.version.all (fun c => !Text.isSpace c) = true

instance (a : PaperTradingAdapter) : Decidable a.NamesSource := inferInstanceAs (Decidable (_ ∧ _))

variable {ctx : DecimalContext} {a : PaperTradingAdapter} {order : Order}
  {fills : List Fill} {external : ExternalExecution} {externalOrderId : Text}
  {health : ConnectorHealth}

/-! ### The discrepancies -/

/-- **No discrepancy** is found exactly when everything that is compared agrees. -/
theorem discrepancies_eq_nil {quantity : Decimal} :
    discrepancies ctx order fills external quantity = .ok [] ↔
      quantity.numEq order.fields.quantity
      ∧ order.fields.status ∈ statusMap external.fields.status
      ∧ (∃ sum, ctx.sum (fills.map (·.fields.quantity)) = .ok sum
        ∧ sum.numEq order.fields.filledQuantity)
      ∧ (∃ sum, ctx.sum (external.fields.fills.map (·.fields.quantity)) = .ok sum
        ∧ sum.numEq external.fields.filledQuantity)
      ∧ order.fields.filledQuantity.numEq external.fields.filledQuantity
      ∧ (fills.map (·.fields.fillId)).Nodup
      ∧ (∀ fill ∈ fills, fill.fields.orderId = order.fields.orderId
        ∧ fill.fields.instrument = order.fields.instrument
        ∧ fill.fields.direction = order.fields.direction)
      ∧ (external.fields.fills.map (·.fields.externalFillId)).Nodup
      ∧ ∀ fill ∈ external.fields.fills, fill.fields.orderId = external.fields.orderId
        ∧ fill.fields.instrument = order.fields.instrument
        ∧ fill.fields.direction = order.fields.direction := by
  simp only [discrepancies, Py.bind_eq_ok]
  constructor
  · rintro ⟨localSum, hlocal, externalSum, hexternal, h⟩
    have h := Except.ok.inj h
    simp only [List.append_eq_nil_iff, appendIf_eq_nil, List.flatMap_eq_nil_iff, not_not, not_or,
      ne_eq] at h
    obtain ⟨⟨⟨⟨⟨⟨⟨⟨hquantity, hstatus⟩, hlocalSum⟩, hexternalSum⟩, htotal⟩, hids⟩, hfills⟩, hids'⟩,
      hfills'⟩ := h
    exact ⟨hquantity, hstatus, ⟨localSum, hlocal, hlocalSum⟩,
      ⟨externalSum, hexternal, hexternalSum⟩,
      htotal, hids, hfills, hids', hfills'⟩
  · rintro ⟨hquantity, hstatus, ⟨localSum, hlocal, hlocalSum⟩,
      ⟨externalSum, hexternal, hexternalSum⟩,
      htotal, hids, hfills, hids', hfills'⟩
    refine ⟨localSum, hlocal, externalSum, hexternal, congrArg Except.ok ?_⟩
    simp only [List.append_eq_nil_iff, appendIf_eq_nil, List.flatMap_eq_nil_iff, not_not, not_or,
      ne_eq]
    exact ⟨⟨⟨⟨⟨⟨⟨⟨hquantity, hstatus⟩, hlocalSum⟩, hexternalSum⟩, htotal⟩, hids⟩, hfills⟩, hids'⟩,
      hfills'⟩

/-! ### The import -/

/-- The quantity, the price and the fee of a fill. -/
def economics (fill : Fill) : Decimal × Decimal × Decimal :=
  (fill.fields.quantity, fill.fields.price, fill.fields.fee)

/-- The quantity, the price and the fee of a reported fill. -/
def externalEconomics (fill : ExternalFill) : Decimal × Decimal × Decimal :=
  (fill.fields.quantity, fill.fields.price, fill.fields.fee)

/-- The source is a canonical text exactly when the name and the version of the manifest have no
space. -/
theorem isScopeText_sourceRef : a.sourceRef.IsScopeText ↔ a.NamesSource := by
  have hall : a.sourceRef.all (fun c => !Text.isSpace c) = true ↔ a.NamesSource := by
    rw [sourceRef, List.all_append, List.all_append, List.all_append, NamesSource,
      show (Text.ofString "l5:").all (fun c => !Text.isSpace c) = true by decide,
      show (Text.ofString ":").all (fun c => !Text.isSpace c) = true by decide, Bool.true_and,
      Bool.true_and, Bool.and_eq_true]
  constructor
  · exact fun h => hall.mp h.2
  · intro h
    have hspaces := hall.mpr h
    refine ⟨⟨List.cons_ne_nil _ _, ?_⟩, hspaces⟩
    refine (Decimal.strip_of_forall fun c hc => ?_).symm
    simpa using List.all_eq_true.mp hspaces c hc

/-! ### Fills that are imported -/

section

variable [Hashlib]

/-- What an external fill is normalized to has its quantity, price and fee, and names the source. -/
theorem importedFill_facts {fill : ExternalFill} {imported : Fill}
    (h : a.importedFill order external fill = .ok imported) :
    economics imported = externalEconomics fill ∧ imported.fields.sourceRef = a.sourceRef := by
  obtain ⟨-, h⟩ := of_require h
  simp only [Py.bind_eq_ok, Frozen.make_eq_ok] at h
  obtain ⟨manifest, -, seed, -, fillId, -, hfields⟩ := h
  exact ⟨by rw [economics, hfields, externalEconomics], by rw [hfields]⟩

theorem exists_importedFill {fill : ExternalFill} (hsource : a.NamesSource)
    (hcontract : fill.fields.orderId = external.fields.orderId
      ∧ fill.fields.instrument = order.fields.instrument
      ∧ fill.fields.direction = order.fields.direction) :
    ∃ imported, a.importedFill order external fill = .ok imported := by
  obtain ⟨manifest, hmanifest⟩ := a.capabilities.exists_digest
  have hwritable : (Json.obj [("manifest", .str manifest),
    ("external_fill_id", .str fill.fields.externalFillId),
    ("external_order_id", .str external.fields.orderId)]).isWritable = true := rfl
  obtain ⟨seed, hseed, hhex⟩ := exists_canonicalSha256_of_isWritable hwritable
  have hne : seed ≠ [] := List.ne_nil_of_length_pos (by rw [hhex.1]; omega)
  obtain ⟨fillId, hfillId⟩ : ∃ e, EntityId.deterministic "fill" seed = .ok e :=
    EntityId.exists_deterministic (by decide) hne hhex.isAscii
  have horder : order.fields.postInit = .ok () := order.valid
  simp only [OrderFields.postInit, check_bind_eq_ok, checkNamespace_eq_ok, checkText_eq_ok]
    at horder
  obtain ⟨hnamespace, -, -, -, hinstrument, -⟩ := horder
  have hfill : fill.fields.postInit = .ok () := fill.valid
  simp only [ExternalFillFields.postInit, check_bind_eq_ok, checkQuantity_eq_ok,
    require_eq_ok] at hfill
  obtain ⟨-, -, -, hquantity, hquantityNe, hprice, hpriceNe, hfee⟩ := hfill
  simp only [importedFill, require_of_pos hcontract, Py.ok_bind, hmanifest, hseed, hfillId]
  apply Frozen.exists_make_iff.mpr
  show FillFields.postInit _ = .ok ()
  simp only [FillFields.postInit, check_bind_eq_ok, checkNamespace_eq_ok, checkText_eq_ok,
    checkVersion_eq_ok, checkPositive_eq_ok, require_eq_ok]
  exact ⟨EntityId.nspace_of_deterministic hfillId, hnamespace, le_refl 1,
    isScopeText_sourceRef.mpr hsource, hinstrument, lt_of_le_of_ne hquantity (Ne.symm hquantityNe),
    lt_of_le_of_ne hprice (Ne.symm hpriceNe), hfee⟩

variable {imported : List Fill} {r : Reconciliation}

/-- What is imported has the quantities, prices and fees of the report, one by one. -/
theorem mapM_importedFill_facts {reported : List ExternalFill}
    (h : reported.mapM (a.importedFill order external) = .ok imported) :
    imported.map economics = reported.map externalEconomics := by
  have hpairs : List.Forall₂ Eq (reported.map externalEconomics) (imported.map economics) := by
    rw [List.forall₂_map_left_iff, List.forall₂_map_right_iff]
    exact (Py.forall₂_of_mapM h).imp fun _ _ hfill => (importedFill_facts hfill).1.symm
  rw [List.forall₂_eq_eq_eq] at hpairs
  exact hpairs.symm

theorem exists_mapM_importedFill {reported : List ExternalFill}
    (hcontract : ∀ fill ∈ reported, fill.fields.orderId = external.fields.orderId
      ∧ fill.fields.instrument = order.fields.instrument
      ∧ fill.fields.direction = order.fields.direction) :
    (∃ imported, reported.mapM (a.importedFill order external) = .ok imported)
      ↔ reported = [] ∨ a.NamesSource := by
  constructor
  · rintro ⟨imported, h⟩
    rcases reported with _ | ⟨fill, reported⟩
    · exact Or.inl rfl
    · obtain ⟨first, -, hfirst⟩ := Py.mem_of_mapM h fill List.mem_cons_self
      have hvalid : first.fields.postInit = .ok () := first.valid
      simp only [FillFields.postInit, check_bind_eq_ok, checkText_eq_ok] at hvalid
      rw [(importedFill_facts hfirst).2] at hvalid
      exact Or.inr (isScopeText_sourceRef.mp hvalid.2.2.2.1)
  · rintro (rfl | hsource)
    · exact ⟨[], rfl⟩
    · exact Py.exists_mapM fun fill hfill => exists_importedFill hsource (hcontract fill hfill)

/-! ### The match -/

theorem outcome_of_failure {orderId reason : Text} {outcome : ReconciliationOutcome}
    {discrepancies : List Text}
    (h : a.failure orderId external outcome reason discrepancies health = .ok r) :
    r.fields.outcome = outcome := by
  obtain ⟨digest, -, h⟩ := Py.of_bind h
  rw [Frozen.make_eq_ok.mp h]

theorem success_facts {orderId : Text} (h : a.success orderId external imported = .ok r) :
    r.fields.outcome = .MATCHED ∧ r.fields.importedFills = imported := by
  obtain ⟨digest, -, h⟩ := Py.of_bind h
  rw [Frozen.make_eq_ok.mp h]
  exact ⟨rfl, rfl⟩

theorem exists_success (a : PaperTradingAdapter) (external : ExternalExecution) (orderId : Text)
    (imported : List Fill) : ∃ r, a.success orderId external imported = .ok r := by
  obtain ⟨digest, hdigest⟩ := a.capabilities.exists_digest
  simp only [success, hdigest, Py.ok_bind]
  exact Frozen.exists_make_iff.mpr rfl

theorem agrees_of_matched
    (h : a.reconcileState ctx order fills external externalOrderId health = .ok r)
    (hmatched : r.fields.outcome = .MATCHED) :
    health = .HEALTHY ∧ a.Agrees ctx order fills external externalOrderId
      ∧ external.fields.fills.mapM (a.importedFill order external)
        = .ok r.fields.importedFills := by
  -- every other way out is a failure with another outcome
  have hne : ∀ {outcome reason discrepancies health},
      a.failure order.fields.orderId.str external outcome reason discrepancies health = .ok r →
      outcome = .MATCHED := fun hfailure => (outcome_of_failure hfailure).symm.trans hmatched
  simp only [reconcileState] at h
  split_ifs at h with hhealth hdegraded hunknown horderId
  · cases hne h
  · cases hne h
  · cases hne h
  · cases hne h
  rcases hquantity : external.fields.quantity with _ | quantity
  · rw [hquantity] at h
    cases hne h
  simp only [hquantity] at h
  split_ifs at h with hpartial
  · cases hne h
  obtain ⟨found, hfound, h⟩ := Py.of_bind h
  rcases found with _ | ⟨first, rest⟩
  · obtain ⟨imported, himported, h⟩ := Py.of_bind h
    obtain ⟨hsame, hstatus, hlocal, hexternal, htotal, hids, hfills, hids', hfills'⟩ :=
      discrepancies_eq_nil.mp hfound
    refine ⟨not_not.mp hhealth, ⟨not_not.mp horderId, ⟨quantity, hquantity, hsame, ?_⟩, hstatus,
      htotal, hlocal, hexternal, hids, hids', hfills, hfills'⟩, ?_⟩
    · rw [not_and_or] at hpartial
      exact hpartial.imp_left Bool.eq_true_of_not_eq_false
    · simp only [normalizeExternalFills, require_bind_eq_ok] at himported
      obtain ⟨-, himported⟩ := himported
      obtain ⟨total, -, himported⟩ := Py.of_bind himported
      rw [require_bind_eq_ok, require_bind_eq_ok] at himported
      rw [himported.2.2, (success_facts h).2]
  · cases hne h

theorem matched_of_agrees (h : a.Agrees ctx order fills external externalOrderId)
    (himported : external.fields.fills.mapM (a.importedFill order external) = .ok imported) :
    ∃ r, a.reconcileState ctx order fills external externalOrderId = .ok r
      ∧ r.fields.outcome = .MATCHED := by
  obtain ⟨quantity, hquantity, hsame, hpartial⟩ := h.quantity
  have hknown : external.fields.status ≠ .UNKNOWN := by
    intro hunknown
    have hstatus := h.status
    rw [hunknown] at hstatus
    cases hstatus
  have hwhole : ¬ (a.capabilities.fields.supportsPartialFills = false
      ∧ Decimal.ofNat 0 < external.fields.filledQuantity
      ∧ external.fields.filledQuantity < quantity) := by
    rintro ⟨hunsupported, hbetween⟩
    rcases hpartial with hsupported | hnot
    · rw [hunsupported] at hsupported
      cases hsupported
    · exact hnot hbetween
  have hfound : discrepancies ctx order fills external quantity = .ok [] :=
    discrepancies_eq_nil.mpr ⟨hsame, h.status, h.localTotal, h.externalTotal, h.total, h.localIds,
      h.localContract, h.externalIds, h.externalContract⟩
  obtain ⟨total, htotal, htotalEq⟩ := h.externalTotal
  have hnormalize : a.normalizeExternalFills ctx order external = .ok imported := by
    simp only [normalizeExternalFills, require_of_pos hknown, htotal, require_of_pos htotalEq,
      require_of_pos h.externalIds, Py.ok_bind, himported]
  obtain ⟨r, hr⟩ := a.exists_success external order.fields.orderId.str imported
  refine ⟨r, ?_, (success_facts hr).1⟩
  simp only [reconcileState, ne_eq, not_true_eq_false, if_false, if_neg hknown,
    h.orderId, hquantity,
    if_neg hwhole, hfound, Py.ok_bind, hnormalize, hr]

/-- **What a match compares.** A report is matched exactly when the connector is healthy, the report
agrees with the order and its fills, and its fills can be imported; a match then imports the
quantities, prices and fees of the report. -/
theorem reconcileState_matched (ctx : DecimalContext) (a : PaperTradingAdapter) (order : Order)
    (fills : List Fill) (external : ExternalExecution) (externalOrderId : Text)
    (health : ConnectorHealth) :
    ((∃ r, a.reconcileState ctx order fills external externalOrderId health = .ok r
        ∧ r.fields.outcome = .MATCHED)
      ↔ health = .HEALTHY ∧ a.Agrees ctx order fills external externalOrderId
        ∧ (external.fields.fills = [] ∨ a.NamesSource))
    ∧ ∀ r, a.reconcileState ctx order fills external externalOrderId health = .ok r →
      r.fields.outcome = .MATCHED →
      r.fields.importedFills.map economics = external.fields.fills.map externalEconomics := by
  refine ⟨⟨?_, ?_⟩, fun r hr hmatched =>
    mapM_importedFill_facts (agrees_of_matched hr hmatched).2.2⟩
  · rintro ⟨r, hr, hmatched⟩
    obtain ⟨hhealth, hagrees, himported⟩ := agrees_of_matched hr hmatched
    exact ⟨hhealth, hagrees, (exists_mapM_importedFill hagrees.externalContract).mp ⟨_, himported⟩⟩
  · rintro ⟨rfl, hagrees, hsource⟩
    obtain ⟨imported, himported⟩ := (exists_mapM_importedFill hagrees.externalContract).mpr hsource
    exact matched_of_agrees hagrees himported

end

/-! ### A match over two prices -/

/-- The default connector. -/
def localPaper : PaperTradingAdapter :=
  ⟨⟨{ name := "local-paper", version := "v1", supportsPartialFills := true, supportsCancel := true,
      limitations := ["simulation-only"] }, by decide⟩⟩

/-- A time of the samples. -/
def sampleAt : RecordedAt := ⟨.of 2026 1 1 (Eq.refl true), 0, 0, 0, 0⟩

/-- An order for three lots that is filled. -/
def filledOrder : Order :=
  ⟨{ orderId := .epoch "order" 0 0 (Eq.refl true)
     executionPlanId := .epoch "execution_plan" 0 0 (Eq.refl true)
     instrument := "SHFE:AG"
     direction := .LONG
     quantity := Decimal.ofNat 3
     status := .FILLED
     filledQuantity := Decimal.ofNat 3
     createdAt := sampleAt }, by decide +kernel⟩

/-- Its fill, at 101 with a fee of one. -/
def localFill : Fill :=
  ⟨{ fillId := .epoch "fill" 0 0 (Eq.refl true)
     orderId := filledOrder.fields.orderId
     instrument := "SHFE:AG"
     direction := .LONG
     quantity := Decimal.ofNat 3
     price := Decimal.ofNat 101
     fee := Decimal.ofNat 1
     filledAt := sampleAt }, by decide +kernel⟩

/-- The fill that the venue reports, at 999 with a fee of nine. -/
def reportedFill : ExternalFill :=
  ⟨⟨"trade-1", "paper-1", "SHFE:AG", .LONG, Decimal.ofNat 3, Decimal.ofNat 999, Decimal.ofNat 9,
    sampleAt⟩, by decide +kernel⟩

/-- The report of the venue. -/
def report : ExternalExecution :=
  ⟨{ orderId := "paper-1"
     status := .FILLED
     filledQuantity := Decimal.ofNat 3
     quantity := some (Decimal.ofNat 3)
     fills := [reportedFill]
     observedAt := some sampleAt }, by decide +kernel⟩

/-- The numbers of a quantity, a price and a fee. -/
def vals (e : Decimal × Decimal × Decimal) : ℚ × ℚ × ℚ := (e.1.val, e.2.1.val, e.2.2.val)

/-- A report with another price and another fee is matched. -/
theorem matched_over_prices :
    ¬ ∀ (a : PaperTradingAdapter) (order : Order) (fills : List Fill) (external : ExternalExecution)
      (externalOrderId : Text) (r : Reconciliation),
      a.reconcileState defaultContext order fills external externalOrderId = .ok r →
      r.fields.outcome = .MATCHED →
      (fills.map (fun fill => vals (economics fill))).Perm
        (external.fields.fills.map (fun fill => vals (externalEconomics fill))) := by
  intro h
  have hagrees : localPaper.Agrees defaultContext filledOrder [localFill] report "paper-1" :=
    { orderId := rfl
      quantity := ⟨Decimal.ofNat 3, rfl, rfl, Or.inl rfl⟩
      status := by decide
      total := rfl
      localTotal := ⟨Decimal.ofNat 3, by decide +kernel, rfl⟩
      externalTotal := ⟨Decimal.ofNat 3, by decide +kernel, rfl⟩
      localIds := by decide
      externalIds := by decide
      localContract := by decide
      externalContract := by decide }
  obtain ⟨imported, himported⟩ :=
    (exists_mapM_importedFill hagrees.externalContract).mpr
      (Or.inr (by decide : localPaper.NamesSource))
  obtain ⟨r, hr, hmatched⟩ := matched_of_agrees hagrees himported
  have hperm := h localPaper filledOrder [localFill] report "paper-1" r hr hmatched
  -- 101 is not 999
  have hprice := congrArg (fun e => e.2.1) (List.singleton_perm_singleton.mp hperm)
  revert hprice
  simp [vals, economics, externalEconomics, localFill, reportedFill]

end PaperTradingAdapter

end FuturesAgentOs
