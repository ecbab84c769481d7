import FuturesAgentOs.PortfolioRisk.LedgerCeiling

namespace FuturesAgentOs

open PyModel

/-!
# The life cycle of a row

A row lives through a chain of `RowChange`s: `HELD` (possibly shrinking) to `CONSUMED`,
`RELEASED` or `EXPIRED`, and `CONSUMED` to `RECONCILED`.

* `row_lifecycle` — every row, over every run, and every refused operation;
-/

/-- The states a row never leaves. -/
def ReservationStatus.Terminal (s : ReservationStatus) : Prop :=
  s = .RELEASED ∨ s = .EXPIRED ∨ s = .RECONCILED

/-- The two ends of a row's life so far, `n` changes apart. -/
structure RowHistory (n : ℕ) (r s : RiskBudgetReservation) : Prop where
  /-- The status moved along edges of the life cycle only. -/
  path : Relation.ReflTransGen StatusEdge r.fields.status s.fields.status
  /-- Nothing but the status, the loss and the two versions differs. -/
  identity : { s.fields with
    status := r.fields.status
    worstCaseLoss := r.fields.worstCaseLoss
    version := r.fields.version
    stateVersion := r.fields.stateVersion } = r.fields
  /-- The version grew by one with each change. -/
  version : s.fields.version = r.fields.version + n
  /-- The loss did not grow. -/
  loss : s.fields.worstCaseLoss ≤ r.fields.worstCaseLoss
  /-- A row in a terminal state did not change at all. -/
  terminal : r.fields.status.Terminal → s = r

theorem RowHistory.refl (r : RiskBudgetReservation) : RowHistory 0 r r :=
  ⟨.refl, rfl, by simp, le_rfl, fun _ => rfl⟩

theorem RowChange.not_terminal {r s : RiskBudgetReservation} (h : RowChange r s) :
    ¬ r.fields.status.Terminal := by
  rcases h.status_eq with h | ⟨h, -⟩ <;> rw [h] <;> simp [ReservationStatus.Terminal]

theorem RowHistory.snoc {n : ℕ} {r s t : RiskBudgetReservation} (h : RowHistory n r s)
    (hchange : RowChange s t) : RowHistory (n + 1) r t where
  path := h.path.tail hchange.edge
  identity := by
    rw [← h.identity, hchange.fields_eq]
    rfl
  version := by
    rw [hchange.version_eq, h.version]
    push_cast
    ring
  loss := le_trans hchange.loss_le h.loss
  terminal hr := by
    have hs := h.terminal hr
    exact absurd (hs ▸ hr) hchange.not_terminal

namespace RiskBudgetLedger

variable {l : RiskBudgetLedger}

/-- A row over a run of operations. -/
theorem exec_row (ctx : DecimalContext) (ops : List LedgerOp) {id : EntityId}
    {r : RiskBudgetReservation}
    (hr : l.row id = some r) :
    ∃ n s, n ≤ ops.length ∧ ((machine ctx).exec l ops).row id = some s ∧ RowHistory n r s := by
  induction ops using List.reverseRecOn with
  | nil => exact ⟨0, r, le_rfl, hr, .refl r⟩
  | append_singleton ops op ih =>
    obtain ⟨n, s, hn, hs, hhist⟩ := ih
    obtain ⟨t, ht, hstep⟩ := step_row ctx _ op hs
    rw [Machine.exec_concat, List.length_append]
    rcases hstep with rfl | hchange
    · exact ⟨n, t, by omega, ht, hhist⟩
    · exact ⟨n + 1, t, by simpa using hn, ht, hhist.snoc hchange⟩

theorem row_expire_cases (l : RiskBudgetLedger) (now : RecordedAt) (id : EntityId) :
    (l.expire now).row id = l.row id ∨
      ∃ r, l.row id = some r ∧ r.fields.status = .HELD ∧ r.fields.expiresAt ≤ now ∧
        (l.expire now).row id = some (r.advance .EXPIRED) := by
  rw [row_expire]
  cases hr : l.row id with
  | none => exact Or.inl rfl
  | some r =>
    by_cases hexp : r.fields.status = .HELD ∧ r.fields.expiresAt ≤ now
    · exact Or.inr ⟨r, rfl, hexp.1, hexp.2, by rw [Option.map_some, expired, if_pos hexp]; rfl⟩
    · exact Or.inl (by rw [Option.map_some, expired, if_neg hexp]; rfl)

/-- **The life of a row.**  From any reachable ledger on, over any operations:

* every row stays in the table, with a history of as many changes as its version grew, along
  the life cycle, with a loss that never grows, its identity kept, and no change once terminal;
* one operation changes a row at most once;
* an operation that is refused changes no row, except that it may expire a `HELD` row whose
  expiry is not after the time it was given. -/
theorem row_lifecycle (ctx : DecimalContext) (authority : Frozen AuthorityFields)
    (calls : List LedgerCall) (ops : List LedgerOp) :
    let l := run ctx authority calls
    let l' := (machine ctx).exec l ops
    (∀ id r, l.row id = some r → ∃ n s, l'.row id = some s ∧ RowHistory n r s)
      ∧ (∀ op id r, l'.row id = some r →
          ∃ s, ((machine ctx).next l' op).row id = some s ∧ (s = r ∨ RowChange r s))
      ∧ (∀ op id, Refused ((machine ctx).out l' op) →
          ((machine ctx).next l' op).row id = l'.row id ∨
            ∃ r now, op.time = some now ∧ l'.row id = some r ∧ r.fields.status = .HELD ∧
              r.fields.expiresAt ≤ now ∧
              ((machine ctx).next l' op).row id = some (r.advance .EXPIRED)) := by
  intro l l'
  refine ⟨fun id r hr => ?_, fun op id r hr => step_row ctx l' op hr, fun op id hrefused => ?_⟩
  · obtain ⟨n, s, -, hs, hhist⟩ := exec_row ctx ops hr
    exact ⟨n, s, hs, hhist⟩
  · rcases step_refused ctx l' op hrefused with h | ⟨now, htime, h⟩
    · exact Or.inl (congrArg (fun l => l.row id) h)
    · rcases row_expire_cases l' now id with hrow | ⟨r, hr, hheld, hexp, hrow⟩
      · exact Or.inl ((congrArg (fun l => l.row id) h).trans hrow)
      · exact Or.inr ⟨r, now, htime, hr, hheld, hexp,
          (congrArg (fun l => l.row id) h).trans hrow⟩

/-! ### A commit that touches the ledger -/

/-- A commit that releases the row it is asked to commit, and then agrees. -/
def releasingCommit (id : EntityId) : Commit Unit := fun s => (.ok true, (s.1.release id).2, s.2)

/-- The ledger with `wholeRow` held. -/
def heldLedger : RiskBudgetLedger :=
  run defaultContext sampleAuthority [.op (.reserve wholeRow sampleNow)]

/-- The ledger as the releasing commit leaves it, inside `consume_with_commit`. -/
def releasedLedger : RiskBudgetLedger :=
  (releasingCommit wholeRow.fields.reservationId (heldLedger, ())).2.1

/-- The ledger as that `consume_with_commit` leaves it. -/
def consumedLedger : RiskBudgetLedger :=
  (heldLedger.consumeWithCommit () wholeRow.fields.reservationId sampleNow
    (some (releasingCommit wholeRow.fields.reservationId))).2.1

/-- With a commit that works on the ledger a row leaves `RELEASED` again: it is `RELEASED` when
the commit returns and `CONSUMED`, at the same version, when `consume_with_commit` does. -/
theorem released_row_consumed :
    releasedLedger.row wholeRow.fields.reservationId = some (wholeRow.advance .RELEASED)
      ∧ consumedLedger.row wholeRow.fields.reservationId = some (wholeRow.advance .CONSUMED)
      ∧ (wholeRow.advance .RELEASED).fields.version = (wholeRow.advance .CONSUMED).fields.version :=
  ⟨by decide +kernel, by decide +kernel, rfl⟩

end RiskBudgetLedger

/-!
## What a successful `reserve` means

`reserve` answers `True` in two places: when it enters a new row, which it has checked to be
active, and when the ledger already holds a row equal to the one it is given.  The second
branch does not look at the status.  So a caller that passes back the very row the ledger
holds is told `True` even when that row is released, consumed, expired or reconciled.

* `reserve_true_iff_secured` — exactly when the answer `True` can be relied on.
-/

namespace RiskBudgetLedger

variable {ctx : DecimalContext} {l : RiskBudgetLedger}

/-- The rows that `held_amount(now)` sums. -/
def countedRows (l : RiskBudgetLedger) (now : RecordedAt) : List RiskBudgetReservation :=
  (l.expire now).reservations.values.filter (fun r => r.ActiveAt now)

/-- The ledger holds `r` under its identifier as a row that is `HELD`, active and counted. -/
def Secured (l : RiskBudgetLedger) (r : RiskBudgetReservation) (now : RecordedAt) : Prop :=
  ∃ row, l.row r.fields.reservationId = some row ∧ row.SameAs r ∧ row.fields.status = .HELD
    ∧ row.ActiveAt now ∧ row ∈ l.countedRows now

/-- `reserve` finds the very row it is given, in a state other than `HELD`. -/
def ReplaysDeadRow (l : RiskBudgetLedger) (r : RiskBudgetReservation) (now : RecordedAt) : Prop :=
  l.Admits r ∧ r.fields.status ≠ .HELD ∧
    ∃ row, (l.expire now).stored r = some row ∧ row.SameAs r

/-- An active row of the table survives the expiry loop and is counted. -/
theorem mem_countedRows {id : EntityId} {r : RiskBudgetReservation} {now : RecordedAt}
    (hr : l.row id = some r) (hact : r.ActiveAt now) : r ∈ l.countedRows now := by
  refine List.mem_filter.mpr ⟨Dict.mem_values_iff.mpr ⟨id, ?_⟩, by simpa using hact⟩
  have hexpired : expired now r = none :=
    if_neg (fun h => absurd h.2 (RecordedAt.not_le_of_lt hact.2))
  have hrow := row_expire l now id
  rw [hr, Option.map_some, hexpired] at hrow
  exact hrow

/-- A stored row that equals the reservation is filed under the reservation's identifier. -/
theorem row_of_stored (h : Indexed l) {r row : RiskBudgetReservation}
    (hstored : l.stored r = some row) (hsame : row.SameAs r) :
    l.row r.fields.reservationId = some row := by
  unfold stored at hstored
  cases hr : l.row r.fields.reservationId with
  | some row' => rw [hr] at hstored; exact hstored
  | none =>
    rw [hr, Option.none_or] at hstored
    obtain ⟨id, -, hid⟩ := Option.bind_eq_some_iff.mp hstored
    have hrow := h.rowId id row hid
    rw [hsame.reservationId] at hrow
    rw [← hrow, hr] at hid
    cases hid

theorem active_of_held_expire {id : EntityId} {row : RiskBudgetReservation} {now : RecordedAt}
    (hrow : (l.expire now).row id = some row) (hheld : row.fields.status = .HELD) :
    row.ActiveAt now := by
  rw [row_expire] at hrow
  obtain ⟨r, -, rfl⟩ := Option.map_eq_some_iff.mp hrow
  exact (active_iff_held_expired now r).mpr hheld

/-- **Exactly when `True` means reserved.**  In a ledger with the invariant: an answer `True`
leaves the reservation secured unless it came from the replay of a row that is no longer
`HELD`, and then it does not. -/
theorem Indexed.reserve_secured_iff (h : Indexed l) (r : RiskBudgetReservation)
    (now : RecordedAt) :
    ((l.reserve ctx r now).1 = .ok true → (l.reserve ctx r now).2.Secured r now)
      ↔ ¬ l.ReplaysDeadRow r now := by
  have hexpire : Indexed (l.expire now) := h.inPlace (inPlace_expire l now)
  rcases l.reserve_cases ctx r now with
    ⟨hadm, heq⟩ | ⟨hadm, row, hstored, heq⟩ | ⟨hadm, hstored, hanswer, -⟩
      | ⟨hadm, hrow, hkey, hact, -, heq⟩
  · -- refused at the first check
    rw [heq]
    exact ⟨fun _ hdead => hadm hdead.1, fun _ hanswer => by cases hanswer⟩
  · -- a replay
    rw [heq]
    by_cases hsame : row.SameAs r
    · have hrow := row_of_stored hexpire hstored hsame
      constructor
      · intro hsecured hdead
        obtain ⟨row', hrow', hsame', hheld, -⟩ := hsecured (by simp [hsame])
        exact hdead.2.1 (hsame'.status ▸ hheld)
      · intro hlive _
        have hheld : row.fields.status = .HELD := by
          by_contra hne
          exact hlive ⟨hadm, hsame.status ▸ hne, row, hstored, hsame⟩
        have hact := active_of_held_expire hrow hheld
        exact ⟨row, hrow, hsame, hheld, hact, mem_countedRows hrow hact⟩
    · refine ⟨fun _ hdead => ?_, fun _ hanswer => ?_⟩
      · obtain ⟨-, -, row', hstored', hsame'⟩ := hdead
        rw [hstored] at hstored'
        cases hstored'
        exact hsame hsame'
      · simp [hsame] at hanswer
  · -- no row, and refused
    refine ⟨fun _ hdead => ?_, fun _ h => absurd h hanswer⟩
    obtain ⟨-, -, row', hstored', -⟩ := hdead
    rw [hstored] at hstored'
    cases hstored'
  · -- a new row
    rw [heq]
    have hget : ((l.expire now).insertRow r).row r.fields.reservationId = some r := by
      rw [row_insertRow, if_pos rfl]
    exact ⟨fun _ hdead => hdead.2.1 hact.1,
      fun _ _ => ⟨r, hget, .refl r, hact.1, hact, mem_countedRows hget hact⟩⟩

/-- **When `reserve` can be believed**, in every reachable ledger: `True` leaves the
reservation held, active and counted exactly when the ledger did not already hold, after
expiring rows, an equal row that is not `HELD`. -/
theorem reserve_true_iff_secured (ctx : DecimalContext) (authority : Frozen AuthorityFields)
    (calls : List LedgerCall) (r : RiskBudgetReservation) (now : RecordedAt) :
    let l := run ctx authority calls
    ((l.reserve ctx r now).1 = .ok true → (l.reserve ctx r now).2.Secured r now)
      ↔ ¬ l.ReplaysDeadRow r now :=
  (wellFormed_run authority calls).indexed.reserve_secured_iff r now

/-! ### The replay of a released row -/

/-- The row the ledger holds after `wholeRow` was reserved and released. -/
def releasedRow : RiskBudgetReservation := wholeRow.advance .RELEASED

/-- The ledger after `wholeRow` was reserved and released. -/
def releasedRun : RiskBudgetLedger :=
  run defaultContext sampleAuthority
    [.op (.reserve wholeRow sampleNow), .op (.release wholeRow.fields.reservationId)]

/-- Passing back the released row is answered `True`, and nothing is held. -/
theorem reserve_true_of_released :
    (releasedRun.reserve defaultContext releasedRow sampleNow).1 = .ok true
      ∧ (releasedRun.reserve defaultContext releasedRow sampleNow).2.heldLosses = []
      ∧ ¬ (releasedRun.reserve defaultContext releasedRow sampleNow).2.Secured releasedRow
          sampleNow := by
  refine ⟨by decide +kernel, by decide +kernel, ?_⟩
  rintro ⟨row, -, hsame, hheld, -⟩
  rw [hsame.status] at hheld
  cases hheld

end RiskBudgetLedger

end FuturesAgentOs
