import FuturesAgentOs.PortfolioRisk.LedgerTransitions

namespace FuturesAgentOs

open PyModel

/-!
# The ceiling of a ledger

The invariant of a ledger has two halves.  `Indexed` ties the row table and the key index
together; `HeldWithin` bounds the sum of the losses of the `HELD` rows, whether or not some of
them have already passed their expiry.  The second is kept because `reserve` expires rows
before it sums, so the rows it counts are all the rows that are `HELD`, and because rounded
addition is monotone: lowering or dropping summands never raises the sum.

* `wellFormed_run` — both, after every sequence of calls.
-/

namespace RiskBudgetLedger

variable {ctx : DecimalContext} {l l' : RiskBudgetLedger}

/-! ### The row table and the key index -/

/-- The key index and the row table belong together, under one Constitution. -/
structure Indexed (l : RiskBudgetLedger) : Prop where
  /-- A row is filed under its own identifier. -/
  rowId : ∀ id r, l.row id = some r → r.fields.reservationId = id
  /-- The index maps a key to the identifier of the row with that key. -/
  index : ∀ k id, l.reservationKeys.get? k = some id ↔ ∃ r, l.row id = some r ∧ r.key = k
  /-- Every row names the Constitution of the ledger. -/
  constitution : ∀ id r, l.row id = some r → l.SameConstitution r

theorem indexed_new (authority : Frozen AuthorityFields) : Indexed (new authority) where
  rowId _ _ h := by cases h
  index k id := by
    constructor
    · intro h; cases h
    · rintro ⟨r, h, -⟩; cases h
  constitution _ _ h := by cases h

variable {r : RiskBudgetReservation}

/-- Two rows never share a key. -/
theorem Indexed.key_inj (h : Indexed l) {i j : EntityId} {s : RiskBudgetReservation}
    (hr : l.row i = some r) (hs : l.row j = some s) (hkey : r.key = s.key) : i = j := by
  have hi := (h.index r.key i).mpr ⟨r, hr, rfl⟩
  have hj := (h.index s.key j).mpr ⟨s, hs, rfl⟩
  rw [hkey, hj] at hi
  exact (Option.some.inj hi).symm

theorem Indexed.existsUnique_key (h : Indexed l) {id : EntityId}
    (hr : l.row id = some r) : ∃! k, l.reservationKeys.get? k = some id := by
  refine ⟨r.key, (h.index _ _).mpr ⟨r, hr, rfl⟩, fun k hk => ?_⟩
  obtain ⟨s, hs, rfl⟩ := (h.index _ _).mp hk
  rw [hr] at hs
  cases hs
  rfl

theorem sameConstitution_of_fields {s : RiskBudgetReservation} (h : l.SameConstitution r)
    (hstep : RowStep r s) : l.SameConstitution s := by
  rcases hstep with rfl | hchange
  · exact h
  · unfold SameConstitution
    rw [hchange.fields_eq]
    exact h

theorem Indexed.inPlace (h : Indexed l) (hl : InPlace l l') : Indexed l' := by
  have hkeys : l'.reservationKeys = l.reservationKeys := by obtain ⟨f, rfl, -⟩ := hl; rfl
  have hauth : l'.authority = l.authority := by obtain ⟨f, rfl, -⟩ := hl; rfl
  refine ⟨fun id s hs => ?_, fun k id => ?_, fun id s hs => ?_⟩
  · obtain ⟨-, hnone⟩ | ⟨r, s', hr, hs', hstep⟩ := hl.row id
    · rw [hs] at hnone; cases hnone
    · rw [hs] at hs'; cases hs'
      rw [hstep.reservationId_eq, h.rowId id r hr]
  · rw [hkeys, h.index]
    obtain ⟨hr, hs⟩ | ⟨r, s, hr, hs, hstep⟩ := hl.row id
    · simp [hr, hs]
    · simp [hr, hs, hstep.key_eq]
  · obtain ⟨-, hnone⟩ | ⟨r, s', hr, hs', hstep⟩ := hl.row id
    · rw [hs] at hnone; cases hnone
    · rw [hs] at hs'; cases hs'
      have hsame := sameConstitution_of_fields (h.constitution id r hr) hstep
      unfold SameConstitution at hsame ⊢
      rw [hauth]
      exact hsame

theorem row_insertRow (l : RiskBudgetLedger) (r : RiskBudgetReservation) (id : EntityId) :
    (l.insertRow r).row id = if id = r.fields.reservationId then some r else l.row id :=
  Dict.get?_set _ _ _ _

theorem Indexed.insertRow (h : Indexed l)
    (hrow : l.row r.fields.reservationId = none) (hkey : l.reservationKeys.get? r.key = none)
    (hsame : l.SameConstitution r) : Indexed (l.insertRow r) := by
  refine ⟨fun id s hs => ?_, fun k id => ?_, fun id s hs => ?_⟩
  · rw [row_insertRow] at hs
    split at hs
    · rename_i hid; cases hs; exact hid.symm
    · exact h.rowId id s hs
  · have hget : (l.insertRow r).reservationKeys.get? k
        = if k = r.key then some r.fields.reservationId else l.reservationKeys.get? k :=
      Dict.get?_set _ _ _ _
    rw [hget, row_insertRow]
    by_cases hk : k = r.key
    · subst hk
      by_cases hid : id = r.fields.reservationId
      · simp [hid]
      · -- no other row has the new key
        have hno : ¬ ∃ s, l.row id = some s ∧ s.key = r.key := by
          rw [← h.index, hkey]; simp
        rw [if_pos rfl, if_neg hid]
        exact ⟨fun heq => absurd (Option.some.inj heq).symm hid, fun hex => absurd hex hno⟩
    · rw [if_neg hk, h.index]
      by_cases hid : id = r.fields.reservationId
      · subst hid
        rw [if_pos rfl, hrow]
        constructor
        · rintro ⟨s, hs, -⟩; cases hs
        · rintro ⟨s, hs, hs'⟩
          cases hs
          exact absurd hs'.symm hk
      · rw [if_neg hid]
  · rw [row_insertRow] at hs
    split at hs
    · cases hs; exact hsame
    · exact h.constitution id s hs

/-! ### The sum of the held losses -/

/-- The losses of the `HELD` rows add up, in the context, to at most the ceiling. -/
def HeldWithin (ctx : DecimalContext) (l : RiskBudgetLedger) : Prop :=
  ∃ s, ctx.sum l.heldLosses = .ok s ∧ s ≤ l.totalCeiling

/-- One list of losses arises from another by lowering and dropping. -/
abbrev LossesBelow : List Decimal → List Decimal → Prop :=
  List.SublistForall₂ (fun x y => 0 ≤ x.val ∧ x.val ≤ y.val)

private theorem lossesBelow_map {κ : Type} (f : κ × RiskBudgetReservation → RiskBudgetReservation)
    (rows : List (κ × RiskBudgetReservation)) (hf : ∀ p ∈ rows, RowStep p.2 (f p)) :
    LossesBelow
      (((rows.map f).filter (fun r => r.fields.status = .HELD)).map (·.fields.worstCaseLoss))
      (((rows.map Prod.snd).filter (fun r => r.fields.status = .HELD)).map
        (·.fields.worstCaseLoss)) := by
  induction rows with
  | nil => exact .nil
  | cons p rows ih =>
    obtain ⟨hp, hrows⟩ := List.forall_mem_cons.mp hf
    have ih := ih hrows
    rw [List.map_cons, List.map_cons]
    by_cases hnew : (f p).fields.status = .HELD
    · have hold := hp.held_of_held hnew
      rw [List.filter_cons_of_pos (by simpa using hnew), List.filter_cons_of_pos
        (by simpa using hold)]
      exact .cons ⟨(f p).worstCaseLoss_nonneg, hp.loss_le⟩ ih
    · rw [List.filter_cons_of_neg (by simpa using hnew)]
      by_cases hold : p.2.fields.status = .HELD
      · rw [List.filter_cons_of_pos (by simpa using hold)]
        exact .cons_right ih
      · rw [List.filter_cons_of_neg (by simpa using hold)]
        exact ih

theorem lossesBelow_inPlace (hl : InPlace l l') : LossesBelow l'.heldLosses l.heldLosses := by
  obtain ⟨f, rfl, hf⟩ := hl
  unfold heldLosses
  rw [Dict.values_mapValues]
  exact lossesBelow_map (fun p => f p.1 p.2) l.reservations.items
    (fun p hp => hf p.1 p.2 (Dict.mem_items_iff.mp hp))

theorem heldLosses_nonneg (l : RiskBudgetLedger) : ∀ x ∈ l.heldLosses, 0 ≤ x.val := by
  intro x hx
  obtain ⟨r, -, rfl⟩ := List.mem_map.mp hx
  exact r.worstCaseLoss_nonneg

theorem HeldWithin.inPlace (h : HeldWithin ctx l) (hl : InPlace l l') : HeldWithin ctx l' := by
  obtain ⟨s, hs, hle⟩ := h
  obtain ⟨s', hs', hle'⟩ :=
    DecimalContext.sum_of_sublist (lossesBelow_inPlace hl) l.heldLosses_nonneg hs
  have hceiling : l'.totalCeiling = l.totalCeiling := by obtain ⟨f, rfl, -⟩ := hl; rfl
  exact ⟨s', hs', by rw [hceiling]; exact le_trans hle' hle⟩

/-- Right after the expiry loop the active rows are all the held rows. -/
theorem activeLosses_expire (l : RiskBudgetLedger) (now : RecordedAt) :
    (l.expire now).activeLosses now = (l.expire now).heldLosses := by
  unfold activeLosses heldLosses
  congr 1
  refine List.filter_congr (fun r hr => ?_)
  simp only [expire, Dict.sweep_eq_mapValues, Dict.values_mapValues, List.mem_map] at hr
  obtain ⟨p, -, rfl⟩ := hr
  exact decide_eq_decide.mpr (active_iff_held_expired now p.2)

theorem heldLosses_insertRow
    (hrow : l.row r.fields.reservationId = none) (hheld : r.fields.status = .HELD) :
    (l.insertRow r).heldLosses = l.heldLosses ++ [r.fields.worstCaseLoss] := by
  have hvalues : (l.insertRow r).reservations.values = l.reservations.values ++ [r] := by
    show ((l.reservations.set r.fields.reservationId r).items.map Prod.snd) = _
    rw [Dict.items_set_of_none hrow, List.map_append]
    rfl
  unfold heldLosses
  rw [hvalues, List.filter_append, List.map_append]
  simp [hheld]

theorem heldWithin_insertRow {total : Decimal}
    (hrow : l.row r.fields.reservationId = none) (hheld : r.fields.status = .HELD)
    (htotal : (ctx.sum l.heldLosses >>= fun held => ctx.add held r.fields.worstCaseLoss)
      = .ok total) (hle : total ≤ l.totalCeiling) : HeldWithin ctx (l.insertRow r) :=
  ⟨total, by rw [heldLosses_insertRow hrow hheld, DecimalContext.sum_concat, htotal], hle⟩

/-! ### The invariant -/

/-- The invariant of a ledger. -/
structure WellFormed (ctx : DecimalContext) (l : RiskBudgetLedger) : Prop where
  indexed : Indexed l
  held : HeldWithin ctx l

theorem WellFormed.inPlace (h : WellFormed ctx l) (hl : InPlace l l') : WellFormed ctx l' :=
  ⟨h.indexed.inPlace hl, h.held.inPlace hl⟩

theorem wellFormed_new (authority : Frozen AuthorityFields) : WellFormed ctx (new authority) := by
  refine ⟨indexed_new authority, Decimal.ofNat 0, rfl, ?_⟩
  have h : AuthorityFields.postInit authority.fields = .ok () := authority.valid
  simp only [AuthorityFields.postInit, require_bind_eq_ok] at h
  exact h.1.1

/-- **Every operation keeps the invariant.** -/
theorem WellFormed.step (h : WellFormed ctx l) (op : LedgerOp) :
    WellFormed ctx (l.step ctx op).2 := by
  rcases step_cases ctx l op with
    hl | ⟨r, now, -, hadm, hrow, hkey, hact, ⟨total, htotal, hle⟩, heq⟩
  · exact h.inPlace hl
  · have hexpired : WellFormed ctx (l.expire now) := h.inPlace (inPlace_expire l now)
    rw [activeLosses_expire] at htotal
    rw [heq]
    exact ⟨hexpired.indexed.insertRow hrow hkey hadm.1,
      heldWithin_insertRow hrow hact.1 htotal hle⟩

private theorem indexed_foldlM {rows : List RiskBudgetReservation} :
    ∀ {l l' : RiskBudgetLedger}, Indexed l → rows.foldlM restoreRow l = .ok l' →
      Indexed l' ∧ l'.authority = l.authority := by
  induction rows with
  | nil => intro l l' h hl; cases hl; exact ⟨h, rfl⟩
  | cons r rows ih =>
    intro l l' h hl
    rw [List.foldlM_cons] at hl
    obtain ⟨l₁, hl₁, hl⟩ := Py.of_bind hl
    obtain ⟨hsame, hl₁⟩ := of_require hl₁
    obtain ⟨⟨hkey, hrow⟩, hl₁⟩ := of_require hl₁
    injection hl₁ with hl₁
    subst hl₁
    obtain ⟨hindexed, hauth⟩ := ih (h.insertRow hrow hkey hsame) hl
    exact ⟨hindexed, hauth⟩

/-- **A restored ledger has the invariant**, whatever the snapshot. -/
theorem wellFormed_restore {rows : List RiskBudgetReservation} {authority : AuthorityFields}
    (h : restore ctx rows authority = .ok l) : WellFormed ctx l := by
  obtain ⟨a, ha, h⟩ := Py.of_bind h
  obtain ⟨l₁, hrows, h⟩ := Py.of_bind h
  obtain ⟨held, hheld, h⟩ := Py.of_bind h
  obtain ⟨hle, h⟩ := of_require h
  injection h with h
  subst h
  obtain ⟨hindexed, hauth⟩ := indexed_foldlM (indexed_new a) hrows
  refine ⟨hindexed, held, hheld, ?_⟩
  rw [totalCeiling, hauth]
  exact hle

/-- **The invariant of every run.** -/
theorem wellFormed_run (authority : Frozen AuthorityFields) (calls : List LedgerCall) :
    WellFormed ctx (run ctx authority calls) := by
  refine (callMachine ctx).exec_invariant (fun l call h => ?_) (wellFormed_new authority) calls
  cases call with
  | op op => exact h.step op
  | restore rows restored =>
    simp only [Machine.next, callMachine, callStep]
    split
    · rename_i hrestore; exact wellFormed_restore hrestore
    · exact h

/-- **Reserved risk stays within the ceiling.**  After every sequence of calls the losses of
the `HELD` rows add up, as the context adds, to at most the ceiling (without rounding: their
sum is at most the ceiling); no two rows share a key; the key index and the row table are in
bijection. -/
theorem held_within_ceiling (ctx : DecimalContext) (authority : Frozen AuthorityFields)
    (calls : List LedgerCall) :
    let l := run ctx authority calls
    (∃ s, ctx.sum l.heldLosses = .ok s ∧ s ≤ l.totalCeiling)
      ∧ (∀ n, ctx = .exact n → (l.heldLosses.map Decimal.val).sum ≤ l.totalCeiling.val)
      ∧ (∀ i j r s, l.row i = some r → l.row j = some s → r.key = s.key → i = j)
      ∧ (∀ k id, l.reservationKeys.get? k = some id → ∃ r, l.row id = some r ∧ r.key = k)
      ∧ (∀ id r, l.row id = some r → ∃! k, l.reservationKeys.get? k = some id) := by
  intro l
  have h : WellFormed ctx l := wellFormed_run authority calls
  refine ⟨h.held, fun n hn => ?_, fun i j r s hr hs hk => h.indexed.key_inj hr hs hk,
    fun k id => (h.indexed.index k id).mp, fun id r hr => h.indexed.existsUnique_key hr⟩
  obtain ⟨s, hs, hle⟩ := h.held
  obtain ⟨s', hs', hval⟩ := DecimalContext.exact_sum n l.heldLosses
  rw [hn, hs'] at hs
  cases hs
  rw [← hval]
  exact hle

/-! ### Rounding can hide a small loss -/

/-- A valid row of the given number and loss, under a ceiling of 1. -/
def sampleFields (n : Fin 0x1000) (loss : Decimal) : ReservationFields where
  reservationId := .epoch "risk_reservation" n 0 (Eq.refl true)
  accountId := .epoch "simulation_account" 0 0 (Eq.refl true)
  planId := .epoch "trade_plan" n 0 (Eq.refl true)
  planVersion := 1
  planHash := List.replicate 64 97
  instrument := "SHFE_AG_2601"
  strategy := "strategy:test"
  session := "day"
  authorizationBasisId := .epoch "authorization_basis" n 0 (Eq.refl true)
  authorizationBasisHash := List.replicate 64 98
  riskConstitutionRef := "risk:test"
  riskConstitutionVersion := 1
  riskConstitutionHash := List.replicate 64 99
  riskConstitutionCeiling := Decimal.ofNat 1
  worstCaseLoss := loss
  margin := Decimal.ofNat 1
  expiresAt := ⟨.of 2026 7 14 (Eq.refl true), 0, 0, 0, 0⟩
  quantity := Decimal.ofNat 1
  sourceRef := some (.epoch "authorization_basis" n 0 (Eq.refl true))
  sourceHash := some (List.replicate 64 98)

/-- A time at which the sample rows are active. -/
def sampleNow : RecordedAt := ⟨.of 2026 7 13 (Eq.refl true), 0, 0, 0, 0⟩

/-- The Constitution of the sample rows. -/
def sampleAuthority : Frozen AuthorityFields :=
  ⟨⟨Decimal.ofNat 1, "risk:test", 1, List.replicate 64 99⟩, by decide +kernel⟩

/-- A row that takes the whole ceiling. -/
def wholeRow : RiskBudgetReservation := ⟨sampleFields 1 (Decimal.ofNat 1), by decide +kernel⟩

/-- A row with a loss of `1E-40`. -/
def tinyRow : RiskBudgetReservation := ⟨sampleFields 2 ⟨false, 1, -40⟩, by decide +kernel⟩

/-- Both rows are accepted in the default context. -/
def roundingCalls : List LedgerCall :=
  [.op (.reserve wholeRow sampleNow), .op (.reserve tinyRow sampleNow)]

/-- In the default context the *mathematical* sum of the held losses can exceed the ceiling: a
sum of 28 digits does not see a loss of `1E-40` next to a loss of `1`. -/
theorem held_exceeds_ceiling_of_rounding :
    (run defaultContext sampleAuthority roundingCalls).totalCeiling.val
      < ((run defaultContext sampleAuthority roundingCalls).heldLosses.map Decimal.val).sum := by
  have hlosses : (run defaultContext sampleAuthority roundingCalls).heldLosses
      = [Decimal.ofNat 1, ⟨false, 1, -40⟩] := by decide +kernel
  have hceiling : (run defaultContext sampleAuthority roundingCalls).totalCeiling
      = Decimal.ofNat 1 := by decide +kernel
  rw [hlosses, hceiling]
  norm_num [Decimal.val, Decimal.signed, Decimal.ofNat]

end RiskBudgetLedger

end FuturesAgentOs
