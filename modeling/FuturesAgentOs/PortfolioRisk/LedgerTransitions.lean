import FuturesAgentOs.PortfolioRisk.RiskBudgetLedger
import Mathlib.Logic.Relation

namespace FuturesAgentOs

open PyModel

/-!
# What a call does to the rows of a ledger

Every method but `reserve` and `restore` rewrites rows in place, each by at most one
`RowChange`; `reserve` does that (it expires rows first) and may then enter one new row.

* `run_row` — a row over a whole run: its life cycle, by induction on the calls.
-/

/-- The changes of status. -/
inductive StatusEdge : ReservationStatus → ReservationStatus → Prop
  | shrink : StatusEdge .HELD .HELD
  | consume : StatusEdge .HELD .CONSUMED
  | release : StatusEdge .HELD .RELEASED
  | expire : StatusEdge .HELD .EXPIRED
  | reconcile : StatusEdge .CONSUMED .RECONCILED

/-- One change of a row: an edge of the life cycle, one version further, at most a smaller
loss, and every other field as it was. -/
structure RowChange (r s : RiskBudgetReservation) : Prop where
  fields_eq : s.fields = r.fields.advance s.fields.status s.fields.worstCaseLoss
  edge : StatusEdge r.fields.status s.fields.status
  loss_le : s.fields.worstCaseLoss ≤ r.fields.worstCaseLoss

/-- The states of a row whose budget went into an order. -/
def ReservationStatus.Spent (s : ReservationStatus) : Prop := s = .CONSUMED ∨ s = .RECONCILED

/-- A row after one call: unchanged, or changed once. -/
def RowStep (r s : RiskBudgetReservation) : Prop := s = r ∨ RowChange r s

namespace RowChange

variable {r s : RiskBudgetReservation}

theorem of_advance {status : ReservationStatus} (h : StatusEdge r.fields.status status) :
    RowChange r (r.advance status) :=
  ⟨rfl, h, le_rfl⟩

theorem of_lower {loss : Decimal} (h : r.fields.status = .HELD)
    (hloss : Decimal.ofNat 0 ≤ loss ∧ loss ≤ r.fields.worstCaseLoss) :
    RowChange r (r.lower loss hloss) := by
  refine ⟨rfl, ?_, hloss.2⟩
  have hedge : StatusEdge r.fields.status r.fields.status := by rw [h]; exact .shrink
  exact hedge

theorem version_eq (h : RowChange r s) : s.fields.version = r.fields.version + 1 := by
  rw [h.fields_eq]; rfl

theorem reservationId_eq (h : RowChange r s) :
    s.fields.reservationId = r.fields.reservationId := by
  rw [h.fields_eq]; rfl

theorem key_eq (h : RowChange r s) : s.key = r.key := by
  unfold RiskBudgetReservation.key
  rw [h.fields_eq]; rfl

theorem status_eq (h : RowChange r s) :
    r.fields.status = .HELD ∨ r.fields.status = .CONSUMED ∧ s.fields.status = .RECONCILED := by
  have := h.edge
  generalize r.fields.status = a at this ⊢
  generalize s.fields.status = b at this ⊢
  cases this <;> simp

/-- A change that ends in `HELD` began in `HELD`. -/
theorem held_of_held (h : RowChange r s) (hs : s.fields.status = .HELD) :
    r.fields.status = .HELD := by
  rcases h.status_eq with h | ⟨-, h⟩
  · exact h
  · rw [h] at hs; cases hs

end RowChange

namespace RowStep

variable {r s : RiskBudgetReservation}

theorem reservationId_eq (h : RowStep r s) : s.fields.reservationId = r.fields.reservationId := by
  rcases h with rfl | h
  · rfl
  · exact h.reservationId_eq

theorem key_eq (h : RowStep r s) : s.key = r.key := by
  rcases h with rfl | h
  · rfl
  · exact h.key_eq

theorem held_of_held (h : RowStep r s) (hs : s.fields.status = .HELD) :
    r.fields.status = .HELD := by
  rcases h with rfl | h
  · exact hs
  · exact h.held_of_held hs

theorem spent (h : RowStep r s) (hr : r.fields.status.Spent) : s.fields.status.Spent := by
  obtain rfl | h := h
  · exact hr
  · obtain hheld | ⟨-, hs⟩ := h.status_eq
    · obtain hr | hr := hr <;> rw [hheld] at hr <;> cases hr
    · exact Or.inr hs

theorem loss_le (h : RowStep r s) : s.fields.worstCaseLoss ≤ r.fields.worstCaseLoss := by
  rcases h with rfl | h
  · exact le_rfl
  · exact h.loss_le

end RowStep

namespace RiskBudgetLedger

variable {l l' : RiskBudgetLedger}

/-! ### Rewriting rows in place -/

/-- `l'` is `l` with every row rewritten in its place, each by at most one change. -/
def InPlace (l l' : RiskBudgetLedger) : Prop :=
  ∃ f, l' = { l with reservations := l.reservations.mapValues f } ∧
    ∀ id r, l.row id = some r → RowStep r (f id r)

theorem InPlace.refl (l : RiskBudgetLedger) : InPlace l l := by
  refine ⟨fun _ r => r, ?_, fun _ _ _ => Or.inl rfl⟩
  have hmap : l.reservations.mapValues (fun _ r => r) = l.reservations :=
    Dict.ext (List.map_id _)
  rw [hmap]

/-- The row under an identifier makes at most one change. -/
theorem InPlace.row (h : InPlace l l') (id : EntityId) :
    (l.row id = none ∧ l'.row id = none) ∨
      ∃ r s, l.row id = some r ∧ l'.row id = some s ∧ RowStep r s := by
  obtain ⟨f, rfl, hf⟩ := h
  have hrow : (RiskBudgetLedger.mk l.authority (l.reservations.mapValues f)
      l.reservationKeys).row id = (l.row id).map (f id) := Dict.get?_mapValues _ f id
  cases hr : l.row id with
  | none => exact Or.inl ⟨rfl, by rw [hrow, hr]; rfl⟩
  | some r => exact Or.inr ⟨r, f id r, rfl, by rw [hrow, hr]; rfl, hf id r hr⟩

theorem inPlace_putRow {id : EntityId} {r s : RiskBudgetReservation} (hr : l.row id = some r)
    (h : RowStep r s) : InPlace l (l.putRow id s) := by
  refine ⟨fun a x => if a = id then s else x, ?_, fun a x hx => ?_⟩
  · rw [putRow, Dict.set_eq_mapValues hr]
  · by_cases ha : a = id
    · subst ha
      rw [hr] at hx
      cases hx
      simpa using h
    · exact Or.inl (if_neg ha)

/-- What the expiry loop writes is a change. -/
theorem rowStep_expired (now : RecordedAt) (r : RiskBudgetReservation) :
    RowStep r ((expired now r).getD r) := by
  unfold expired
  split
  · rename_i h
    exact Or.inr (RowChange.of_advance (by rw [h.1]; exact .expire))
  · exact Or.inl rfl

theorem inPlace_expire (l : RiskBudgetLedger) (now : RecordedAt) : InPlace l (l.expire now) :=
  ⟨fun _ r => (expired now r).getD r, by rw [expire, Dict.sweep_eq_mapValues],
    fun _ r _ => rowStep_expired now r⟩

theorem active_iff_held_expired (now : RecordedAt) (r : RiskBudgetReservation) :
    ((expired now r).getD r).ActiveAt now ↔ ((expired now r).getD r).fields.status = .HELD := by
  unfold expired
  split
  · refine ⟨And.left, fun h => absurd h ?_⟩
    intro h; cases h
  · rename_i hnot
    refine ⟨And.left, fun h => ⟨h, ?_⟩⟩
    by_contra hle
    exact hnot ⟨h, RecordedAt.not_lt.mp hle⟩

theorem row_expire (l : RiskBudgetLedger) (now : RecordedAt) (id : EntityId) :
    (l.expire now).row id = (l.row id).map (fun r => (expired now r).getD r) :=
  Dict.get?_sweep _ _ id

/-! ### The methods, one by one -/

/-- The rows `reserve` compares a reservation with: the one under its identifier, else the one
its key points to. -/
def stored (l : RiskBudgetLedger) (r : RiskBudgetReservation) : Option RiskBudgetReservation :=
  (l.row r.fields.reservationId).or ((l.reservationKeys.get? r.key).bind l.row)

/-- `reserve` goes past its first check. -/
def Admits (l : RiskBudgetLedger) (r : RiskBudgetReservation) : Prop :=
  l.SameConstitution r ∧ r.fields.riskConstitutionCeiling ≤ l.totalCeiling

theorem reserve_cases (ctx : DecimalContext) (l : RiskBudgetLedger) (r : RiskBudgetReservation)
    (now : RecordedAt) :
    (¬ l.Admits r ∧ l.reserve ctx r now = (.ok false, l)) ∨
    (l.Admits r ∧ ∃ existing, (l.expire now).stored r = some existing ∧
      l.reserve ctx r now = (.ok (existing.SameAs r), l.expire now)) ∨
    (l.Admits r ∧ (l.expire now).stored r = none ∧
      (l.reserve ctx r now).1 ≠ .ok true ∧ (l.reserve ctx r now).2 = l.expire now) ∨
    (l.Admits r ∧ (l.expire now).row r.fields.reservationId = none ∧
      (l.expire now).reservationKeys.get? r.key = none ∧ r.ActiveAt now ∧
      (∃ total, (ctx.sum ((l.expire now).activeLosses now) >>=
        fun held => ctx.add held r.fields.worstCaseLoss) = .ok total ∧ total ≤ l.totalCeiling) ∧
      l.reserve ctx r now = (.ok true, (l.expire now).insertRow r)) := by
  unfold reserve
  by_cases hadm : ¬ l.SameConstitution r ∨ l.totalCeiling < r.fields.riskConstitutionCeiling
  · refine Or.inl ⟨fun h => ?_, if_pos hadm⟩
    rcases hadm with hadm | hadm
    · exact hadm h.1
    · exact not_lt_of_ge h.2 hadm
  have hadmits : l.Admits r := by
    rw [not_or, not_not] at hadm
    exact ⟨hadm.1, Decimal.not_lt.mp hadm.2⟩
  right
  simp only [if_neg hadm, hadmits, true_and]
  cases hrow : (l.expire now).row r.fields.reservationId with
  | some existing => exact Or.inl ⟨existing, by rw [stored, hrow]; rfl, rfl⟩
  | none =>
    simp only []
    cases hkey : (l.expire now).reservationKeys.get? r.key with
    | some id =>
      simp only []
      cases hid : (l.expire now).row id with
      | some existing =>
        exact Or.inl ⟨existing, by rw [stored, hrow, hkey]; exact hid, rfl⟩
      | none =>
        refine Or.inr (Or.inl ⟨by rw [stored, hrow, hkey]; exact hid, ?_, rfl⟩)
        intro h; cases h
    | none =>
      have hstored : (l.expire now).stored r = none := by rw [stored, hrow, hkey]; rfl
      simp only []
      cases htotal : ctx.sum ((l.expire now).activeLosses now) >>=
          fun held => ctx.add held r.fields.worstCaseLoss with
      | error e =>
        refine Or.inr (Or.inl ⟨hstored, ?_, rfl⟩)
        intro h; cases h
      | ok total =>
        simp only []
        by_cases hover : (l.expire now).totalCeiling < total ∨ ¬ r.ActiveAt now
        · rw [if_pos hover]
          refine Or.inr (Or.inl ⟨hstored, ?_, rfl⟩)
          intro h; cases h
        · rw [if_neg hover]
          rw [not_or, not_not] at hover
          exact Or.inr (Or.inr ⟨trivial, trivial, hover.2, ⟨total, rfl, Decimal.not_lt.mp hover.1⟩,
            rfl⟩)

/-- A call on one row left the ledger as it was, or answered the row it changed and wrote. -/
def ChangesRow (l : RiskBudgetLedger) (id : EntityId)
    (answer : Py (Option RiskBudgetReservation)) (l' : RiskBudgetLedger) : Prop :=
  l' = l ∨ ∃ r s, l.row id = some r ∧ RowChange r s ∧ answer = .ok (some s) ∧ l' = l.putRow id s

section

variable {id : EntityId} {answer : Py (Option RiskBudgetReservation)}

theorem ChangesRow.inPlace (h : l.ChangesRow id answer l') : InPlace l l' := by
  rcases h with rfl | ⟨r, s, hr, hchange, -, rfl⟩
  · exact InPlace.refl l'
  · exact inPlace_putRow hr (Or.inr hchange)

theorem ChangesRow.refused (h : l.ChangesRow id answer l') (hanswer : Refused (answer.map .row)) :
    l' = l := by
  rcases h with rfl | ⟨r, s, -, -, rfl, -⟩
  · rfl
  · exact absurd hanswer (by simp [Refused, Except.map])

/-- The shape of `release`, `consume` and `reconcile`: under a condition on the row, `advance`
it along an edge. -/
theorem changesRow_advance {r : RiskBudgetReservation} {c : Prop} [Decidable c]
    {status : ReservationStatus} {other : Option RiskBudgetReservation} (hr : l.row id = some r)
    (hedge : c → StatusEdge r.fields.status status) :
    l.ChangesRow id (.ok (if c then (some (r.advance status), l.putRow id (r.advance status))
        else (other, l)).1)
      (if c then (some (r.advance status), l.putRow id (r.advance status)) else (other, l)).2 := by
  split
  · rename_i hc
    exact Or.inr ⟨r, _, hr, RowChange.of_advance (hedge hc), rfl, rfl⟩
  · exact Or.inl rfl

end

theorem release_changes (l : RiskBudgetLedger) (id : EntityId) :
    l.ChangesRow id (.ok (l.release id).1) (l.release id).2 := by
  unfold release
  cases hr : l.row id with
  | none => exact Or.inl rfl
  | some r => exact changesRow_advance hr (fun h => by rw [h]; exact .release)

theorem shrink_changes (l : RiskBudgetLedger) (id : EntityId) (loss : Option Decimal) :
    l.ChangesRow id (.ok (l.shrink id loss).1) (l.shrink id loss).2 := by
  unfold shrink
  cases hr : l.row id with
  | none => exact Or.inl rfl
  | some r =>
    cases loss with
    | none => exact Or.inl rfl
    | some loss =>
      simp only []
      split
      · rename_i h
        exact Or.inr ⟨r, _, hr, RowChange.of_lower h.1 h.2, rfl, rfl⟩
      · exact Or.inl rfl

theorem consume_changes (l : RiskBudgetLedger) (id : EntityId) (now : RecordedAt) :
    l.ChangesRow id (.ok (l.consume id now).1) (l.consume id now).2 := by
  unfold consume
  cases hr : l.row id with
  | none => exact Or.inl rfl
  | some r => exact changesRow_advance hr (fun h => by rw [h.1]; exact .consume)

theorem consumeWithCommit_changes (l : RiskBudgetLedger) (id : EntityId) (now : RecordedAt)
    (commit : Option (Py Bool)) :
    l.ChangesRow id (l.consumeWithCommit () id now (commit.map quiet)).1
      (l.consumeWithCommit () id now (commit.map quiet)).2.1 := by
  unfold consumeWithCommit
  cases commit with
  | none => exact Or.inl rfl
  | some outcome =>
    cases hr : l.row id with
    | none => exact Or.inl rfl
    | some r =>
      by_cases hs : r.ActiveAt now
      · simp only [Option.map_some, if_pos hs, quiet]
        match outcome with
        | .error e => exact Or.inl rfl
        | .ok false => exact Or.inl rfl
        | .ok true =>
          have hedge : StatusEdge r.fields.status .CONSUMED := by rw [hs.1]; exact .consume
          exact Or.inr ⟨r, _, hr, RowChange.of_advance hedge, rfl, rfl⟩
      · simp only [Option.map_some, if_neg hs]
        exact Or.inl rfl

theorem reconcile_changes (l : RiskBudgetLedger) (id : EntityId) :
    l.ChangesRow id (.ok (l.reconcile id).1) (l.reconcile id).2 := by
  unfold reconcile
  cases hr : l.row id with
  | none => exact Or.inl rfl
  | some r => exact changesRow_advance hr (fun h => by rw [h]; exact .reconcile)

theorem heldAmount_ledger (ctx : DecimalContext) (l : RiskBudgetLedger) (now : Option RecordedAt) :
    (l.heldAmount ctx now).2 = l ∨ ∃ t, now = some t ∧ (l.heldAmount ctx now).2 = l.expire t := by
  cases now with
  | none => exact Or.inl rfl
  | some t => exact Or.inr ⟨t, rfl, rfl⟩

theorem assertInvariants_ledger (ctx : DecimalContext) (l : RiskBudgetLedger)
    (now : Option RecordedAt) :
    (l.assertInvariants ctx now).2 = (l.heldAmount ctx now).2 := by
  unfold assertInvariants
  rcases l.heldAmount ctx now with ⟨_ | _, _⟩ <;> rfl

/-! ### Any operation -/

/-- **What an operation does to the ledger**: it rewrites rows in place, and only a `reserve`
that finds neither its identifier nor its key also enters a row. -/
theorem step_cases (ctx : DecimalContext) (l : RiskBudgetLedger) (op : LedgerOp) :
    InPlace l (l.step ctx op).2 ∨
      ∃ r now, op = .reserve r now ∧ l.Admits r ∧
        (l.expire now).row r.fields.reservationId = none ∧
        (l.expire now).reservationKeys.get? r.key = none ∧ r.ActiveAt now ∧
        (∃ total, (ctx.sum ((l.expire now).activeLosses now) >>=
          fun held => ctx.add held r.fields.worstCaseLoss) = .ok total ∧ total ≤ l.totalCeiling) ∧
        (l.step ctx op).2 = (l.expire now).insertRow r := by
  cases op with
  | reserve r now =>
    have hexpire := inPlace_expire l now
    rcases l.reserve_cases ctx r now with
      ⟨-, h⟩ | ⟨-, _, -, h⟩ | ⟨-, -, -, h⟩ | ⟨hadm, hrow, hkey, hact, htotal, h⟩
    · exact Or.inl (by simpa only [step, h] using InPlace.refl l)
    · exact Or.inl (by simpa only [step, h] using hexpire)
    · exact Or.inl (by simpa only [step, h] using hexpire)
    · exact Or.inr ⟨r, now, rfl, hadm, hrow, hkey, hact, htotal, by simp only [step, h]⟩
  | release id => exact Or.inl (release_changes l id).inPlace
  | shrink id loss => exact Or.inl (shrink_changes l id loss).inPlace
  | consume id now => exact Or.inl (consume_changes l id now).inPlace
  | consumeWithCommit id now commit =>
    exact Or.inl (consumeWithCommit_changes l id now commit).inPlace
  | reconcile id => exact Or.inl (reconcile_changes l id).inPlace
  | expire now => exact Or.inl (inPlace_expire l now)
  | heldAmount now =>
    left
    show InPlace l (l.heldAmount ctx now).2
    rcases l.heldAmount_ledger ctx now with h | ⟨t, -, h⟩
    · rw [h]; exact InPlace.refl l
    · rw [h]; exact inPlace_expire l t
  | assertInvariants now =>
    left
    show InPlace l (l.assertInvariants ctx now).2
    rw [assertInvariants_ledger]
    rcases l.heldAmount_ledger ctx now with h | ⟨t, -, h⟩
    · rw [h]; exact InPlace.refl l
    · rw [h]; exact inPlace_expire l t

/-- An operation takes the row under an identifier through at most one change. -/
theorem step_row (ctx : DecimalContext) (l : RiskBudgetLedger) (op : LedgerOp) {id : EntityId}
    {r : RiskBudgetReservation} (hr : l.row id = some r) :
    ∃ s, (l.step ctx op).2.row id = some s ∧ RowStep r s := by
  have hplace : ∀ {l' : RiskBudgetLedger}, InPlace l l' →
      ∃ s, l'.row id = some s ∧ RowStep r s := by
    intro l' h
    rcases h.row id with ⟨h, -⟩ | ⟨r', s, hr', hs, hstep⟩
    · rw [hr] at h; cases h
    · rw [hr] at hr'; cases hr'; exact ⟨s, hs, hstep⟩
  rcases step_cases ctx l op with h | ⟨new, now, -, -, hnone, -, -, -, h⟩
  · exact hplace h
  · obtain ⟨s, hs, hstep⟩ := hplace (inPlace_expire l now)
    refine ⟨s, ?_, hstep⟩
    have hne : id ≠ new.fields.reservationId := by
      rintro rfl; rw [hs] at hnone; cases hnone
    rw [h, ← hs]
    exact Dict.get?_set_of_ne _ _ hne

/-- Every row of `l` is still in `l'`, at most one change later. -/
def KeepsRows (l l' : RiskBudgetLedger) : Prop :=
  ∀ id r, l.row id = some r → ∃ s, l'.row id = some s ∧ RowStep r s

theorem KeepsRows.refl (l : RiskBudgetLedger) : KeepsRows l l :=
  fun _ r hr => ⟨r, hr, Or.inl rfl⟩

theorem InPlace.keepsRows (h : InPlace l l') : KeepsRows l l' := by
  intro id r hr
  obtain ⟨hnone, -⟩ | ⟨r', s, hr', hs, hstep⟩ := h.row id
  · rw [hr] at hnone
    cases hnone
  · rw [hr, Option.some.injEq] at hr'
    exact ⟨s, hs, hr' ▸ hstep⟩

theorem step_keepsRows (ctx : DecimalContext) (l : RiskBudgetLedger) (op : LedgerOp) :
    KeepsRows l (l.step ctx op).2 :=
  fun _ _ hr => step_row ctx l op hr

/-- **A refused operation** leaves the ledger as it was, or as the expiry loop leaves it. -/
theorem step_refused (ctx : DecimalContext) (l : RiskBudgetLedger) (op : LedgerOp)
    (h : Refused (l.step ctx op).1) :
    (l.step ctx op).2 = l ∨ ∃ now, op.time = some now ∧ (l.step ctx op).2 = l.expire now := by
  cases op with
  | reserve r now =>
    rcases l.reserve_cases ctx r now with
      ⟨-, hcase⟩ | ⟨-, _, -, hcase⟩ | ⟨-, -, -, hcase⟩ | ⟨-, -, -, -, -, hcase⟩
    · exact Or.inl (by simp only [step, hcase])
    · exact Or.inr ⟨now, rfl, by simp only [step, hcase]⟩
    · exact Or.inr ⟨now, rfl, by simp only [step, hcase]⟩
    · simp only [step, hcase] at h
      exact absurd h (by simp [Refused, Except.map])
  | release id => exact Or.inl ((release_changes l id).refused h)
  | shrink id loss => exact Or.inl ((shrink_changes l id loss).refused h)
  | consume id now => exact Or.inl ((consume_changes l id now).refused h)
  | consumeWithCommit id now commit =>
    exact Or.inl ((consumeWithCommit_changes l id now commit).refused h)
  | reconcile id => exact Or.inl ((reconcile_changes l id).refused h)
  | expire now => exact Or.inr ⟨now, rfl, rfl⟩
  | heldAmount now =>
    rcases l.heldAmount_ledger ctx now with hl | ⟨t, rfl, hl⟩
    · exact Or.inl hl
    · exact Or.inr ⟨t, rfl, hl⟩
  | assertInvariants now =>
    rcases l.heldAmount_ledger ctx now with hl | ⟨t, rfl, hl⟩
    · exact Or.inl ((l.assertInvariants_ledger ctx now).trans hl)
    · exact Or.inr ⟨t, rfl, (l.assertInvariants_ledger ctx _).trans hl⟩

/-! ### What is settled -/

section

variable {l'' : RiskBudgetLedger}

/-- Rows that are no longer `HELD` stay as they are. -/
def KeepsSettled (l l' : RiskBudgetLedger) : Prop :=
  ∀ id row, l.row id = some row → row.fields.status ≠ .HELD → l'.row id = some row

theorem KeepsSettled.refl (l : RiskBudgetLedger) : KeepsSettled l l := fun _ _ hrow _ => hrow

theorem KeepsSettled.trans (h : KeepsSettled l l') (h' : KeepsSettled l' l'') :
    KeepsSettled l l'' :=
  fun id row hrow hsettled => h' id row (h id row hrow hsettled) hsettled

theorem expired_cases (now : RecordedAt) (row : RiskBudgetReservation) :
    (expired now row).getD row = row
      ∨ row.fields.status = .HELD ∧ ((expired now row).getD row).fields.status = .EXPIRED := by
  unfold expired
  split
  · rename_i h
    exact .inr ⟨h.1, rfl⟩
  · exact .inl rfl

theorem keepsSettled_expire (l : RiskBudgetLedger) (now : RecordedAt) :
    KeepsSettled l (l.expire now) := by
  intro id row hrow hsettled
  rw [row_expire, hrow, Option.map_some]
  rcases expired_cases now row with h | ⟨hheld, -⟩
  · rw [h]
  · exact absurd hheld hsettled

/-- A row under another identifier than the one that is written. -/
theorem row_putRow (l : RiskBudgetLedger) (id : EntityId) (r : RiskBudgetReservation)
    (id' : EntityId) : (l.putRow id r).row id' = if id' = id then some r else l.row id' :=
  Dict.get?_set _ _ _ _

theorem keepsSettled_putRow {id : EntityId} {row r : RiskBudgetReservation}
    (hrow : l.row id = some row) (hheld : row.fields.status = .HELD) :
    KeepsSettled l (l.putRow id r) := by
  intro id' row' hrow' hsettled
  rw [row_putRow]
  split
  · rename_i heq
    rw [heq, hrow, Option.some.injEq] at hrow'
    rw [← hrow', hheld] at hsettled
    exact absurd rfl hsettled
  · exact hrow'

theorem keepsSettled_release (l : RiskBudgetLedger) (id : EntityId) :
    KeepsSettled l (l.release id).2 := by
  unfold release
  cases hrow : l.row id with
  | none => exact .refl l
  | some r =>
    dsimp only
    split
    · rename_i hheld
      exact keepsSettled_putRow hrow hheld
    · exact .refl l

variable (ctx : DecimalContext) (r : RiskBudgetReservation) (now : RecordedAt)

theorem keepsSettled_reserve (l : RiskBudgetLedger) : KeepsSettled l (l.reserve ctx r now).2 := by
  have hexpire := keepsSettled_expire l now
  rcases l.reserve_cases ctx r now with
    ⟨-, h⟩ | ⟨-, _, -, h⟩ | ⟨-, -, -, h⟩ | ⟨-, hnone, -, -, -, h⟩
  · rw [h]
    exact .refl l
  · rw [h]
    exact hexpire
  · rw [h]
    exact hexpire
  · rw [h]
    refine hexpire.trans fun id row hrow _ => ?_
    have hne : id ≠ r.fields.reservationId := by
      rintro rfl
      rw [hnone] at hrow
      cases hrow
    show ((l.expire now).reservations.set _ _).get? id = some row
    rw [Dict.get?_set_of_ne _ _ hne]
    exact hrow

end

end RiskBudgetLedger

end FuturesAgentOs
