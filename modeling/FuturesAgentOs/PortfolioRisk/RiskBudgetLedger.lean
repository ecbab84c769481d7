import FuturesAgentOs.PortfolioRisk.Reservation
import FuturesAgentOs.PyModel.DecimalContext
import FuturesAgentOs.PyModel.Machine

namespace FuturesAgentOs

open PyModel

/-!
# The risk budget ledger

`portfolio_risk/reservation_contracts.py`, `RiskBudgetLedger`.  A method is a function from
the ledger to its answer and the ledger it leaves behind; an exception leaves the ledger as
it stood when it was raised.  Sums are taken in a decimal context, `ctx`.

* `LedgerOp`, `machine` — one call of any of them, and the machine they form.
-/

/-- What a ledger captures from the active Constitution. -/
structure AuthorityFields where
  totalCeiling : Decimal
  constitutionRef : Text
  constitutionVersion : ℤ
  constitutionHash : Text
  deriving DecidableEq

namespace AuthorityFields

/-- The checks of `RiskBudgetLedger.__init__`. -/
def postInit (f : AuthorityFields) : Py Unit := do
  require (Decimal.ofNat 0 ≤ f.totalCeiling ∧ f.constitutionRef.IsScopeText)
    (valueError "ledger needs a non-negative constitution ceiling and reference")
  require (1 ≤ f.constitutionVersion) (valueError "ledger requires a positive authority version")
  require f.constitutionHash.IsHexDigest (valueError "ledger requires a lowercase authority hash")

instance : Dataclass AuthorityFields := ⟨postInit⟩

end AuthorityFields

/-- Compare-and-reserve model. -/
structure RiskBudgetLedger where
  authority : Frozen AuthorityFields
  /-- `_reservations` -/
  reservations : Dict EntityId RiskBudgetReservation
  /-- `_reservation_keys` -/
  reservationKeys : Dict (EntityId × ℤ × EntityId) EntityId
  deriving DecidableEq

namespace RiskBudgetLedger

/-- `RiskBudgetLedger(…)` with checked arguments. -/
def new (authority : Frozen AuthorityFields) : RiskBudgetLedger := ⟨authority, .empty, .empty⟩

def totalCeiling (l : RiskBudgetLedger) : Decimal := l.authority.fields.totalCeiling

/-- The row under an identifier, `reservation(reservation_id)`. -/
def row (l : RiskBudgetLedger) (id : EntityId) : Option RiskBudgetReservation :=
  l.reservations.get? id

/-- `self._reservations[id] = r` -/
def putRow (l : RiskBudgetLedger) (id : EntityId) (r : RiskBudgetReservation) :
    RiskBudgetLedger :=
  { l with reservations := l.reservations.set id r }

/-- The two assignments that enter a new row. -/
def insertRow (l : RiskBudgetLedger) (r : RiskBudgetReservation) : RiskBudgetLedger :=
  { l with
    reservations := l.reservations.set r.fields.reservationId r
    reservationKeys := l.reservationKeys.set r.key r.fields.reservationId }

/-- The reservation names the Constitution of the ledger. -/
def SameConstitution (l : RiskBudgetLedger) (r : RiskBudgetReservation) : Prop :=
  r.fields.riskConstitutionRef = l.authority.fields.constitutionRef
  ∧ r.fields.riskConstitutionVersion = l.authority.fields.constitutionVersion
  ∧ r.fields.riskConstitutionHash = l.authority.fields.constitutionHash

instance (l : RiskBudgetLedger) (r : RiskBudgetReservation) : Decidable (l.SameConstitution r) :=
  inferInstanceAs (Decidable (_ ∧ _))

/-- What the expiry loop writes over a row, if anything. -/
def expired (now : RecordedAt) (r : RiskBudgetReservation) : Option RiskBudgetReservation :=
  if r.fields.status = .HELD ∧ r.fields.expiresAt ≤ now then some (r.advance .EXPIRED) else none

def expire (l : RiskBudgetLedger) (now : RecordedAt) : RiskBudgetLedger :=
  { l with reservations := l.reservations.sweep (fun _ r => expired now r) }

/-- The losses of the rows active at `now`, in table order. -/
def activeLosses (l : RiskBudgetLedger) (now : RecordedAt) : List Decimal :=
  (l.reservations.values.filter (fun r => r.ActiveAt now)).map (·.fields.worstCaseLoss)

/-- The losses of the `HELD` rows, in table order. -/
def heldLosses (l : RiskBudgetLedger) : List Decimal :=
  (l.reservations.values.filter (fun r => r.fields.status = .HELD)).map (·.fields.worstCaseLoss)

section

variable (ctx : DecimalContext)

def reserve (l : RiskBudgetLedger) (r : RiskBudgetReservation) (now : RecordedAt) :
    Py Bool × RiskBudgetLedger :=
  if ¬ l.SameConstitution r ∨ l.totalCeiling < r.fields.riskConstitutionCeiling then
    (.ok false, l)
  else
    let l := l.expire now
    match l.row r.fields.reservationId with
    | some existing => (.ok (existing.SameAs r), l)
    | none =>
      match l.reservationKeys.get? r.key with
      | some existingId =>
        -- A replay must retain both immutable identity and fingerprint.
        match l.row existingId with
        | some existing => (.ok (existing.SameAs r), l)
        | none => (.error ⟨.keyError, "reservation"⟩, l)
      | none =>
        match ctx.sum (l.activeLosses now) >>= fun held => ctx.add held r.fields.worstCaseLoss with
        | .error e => (.error e, l)
        | .ok total =>
          if l.totalCeiling < total ∨ ¬ r.ActiveAt now then (.ok false, l)
          else (.ok true, l.insertRow r)

def release (l : RiskBudgetLedger) (id : EntityId) :
    Option RiskBudgetReservation × RiskBudgetLedger :=
  match l.row id with
  | none => (none, l)
  | some r =>
    if r.fields.status = .HELD then (some (r.advance .RELEASED), l.putRow id (r.advance .RELEASED))
    else (some r, l)

/-- `shrink`; `none` is an argument that is not a finite `Decimal`. -/
def shrink (l : RiskBudgetLedger) (id : EntityId) (worstCaseLoss : Option Decimal) :
    Option RiskBudgetReservation × RiskBudgetLedger :=
  match l.row id, worstCaseLoss with
  | some r, some loss =>
    if h : r.fields.status = .HELD ∧ Decimal.ofNat 0 ≤ loss ∧ loss ≤ r.fields.worstCaseLoss then
      (some (r.lower loss h.2), l.putRow id (r.lower loss h.2))
    else (none, l)
  | _, _ => (none, l)

def consume (l : RiskBudgetLedger) (id : EntityId) (now : RecordedAt) :
    Option RiskBudgetReservation × RiskBudgetLedger :=
  match l.row id with
  | none => (none, l)
  | some r =>
    if r.ActiveAt now then (some (r.advance .CONSUMED), l.putRow id (r.advance .CONSUMED))
    else (none, l)

/-- A commit callback with the state `ω` it works on.  The lock is re-entrant, so it may call
the ledger too. -/
abbrev Commit (ω : Type) := RiskBudgetLedger × ω → Py Bool × RiskBudgetLedger × ω

/-- `consume_with_commit`; `none` is a commit that is not callable. -/
def consumeWithCommit {ω : Type} (l : RiskBudgetLedger) (w : ω) (id : EntityId)
    (now : RecordedAt) (commit : Option (Commit ω)) :
    Py (Option RiskBudgetReservation) × RiskBudgetLedger × ω :=
  match commit with
  | none => (.error (typeError "commit must be callable"), l, w)
  | some commit =>
    match l.row id with
    | none => (.ok none, l, w)
    | some r =>
      if r.ActiveAt now then
        match commit (l, w) with
        | (.error e, l, w) => (.error e, l, w)
        | (.ok false, l, w) => (.ok none, l, w)
        | (.ok true, l, w) =>
          -- the row read before the callback is the one written after it
          (.ok (some (r.advance .CONSUMED)), l.putRow id (r.advance .CONSUMED), w)
      else (.ok none, l, w)

/-- A commit that touches nothing, with its outcome. -/
def quiet (outcome : Py Bool) : Commit Unit := fun s => (outcome, s)

def reconcile (l : RiskBudgetLedger) (id : EntityId) :
    Option RiskBudgetReservation × RiskBudgetLedger :=
  match l.row id with
  | none => (none, l)
  | some r =>
    if r.fields.status = .CONSUMED then
      (some (r.advance .RECONCILED), l.putRow id (r.advance .RECONCILED))
    else (none, l)

/-- `held_amount`; `none` is an argument that is not a `RecordedAt`. -/
def heldAmount (l : RiskBudgetLedger) (now : Option RecordedAt) : Py Decimal × RiskBudgetLedger :=
  match now with
  | none => (.error (typeError "held amount requires a RecordedAt"), l)
  | some now => (ctx.sum ((l.expire now).activeLosses now), l.expire now)

/-- The checks of `assert_invariants` on one row. -/
def assertRow (l : RiskBudgetLedger) (r : RiskBudgetReservation) : Py Unit := do
  require (r.fields.riskConstitutionRef = l.authority.fields.constitutionRef)
    (valueError "reservation constitution reference diverged")
  require (r.fields.riskConstitutionVersion = l.authority.fields.constitutionVersion)
    (valueError "reservation constitution version diverged")
  require (r.fields.riskConstitutionHash = l.authority.fields.constitutionHash)
    (valueError "reservation constitution hash diverged")
  require (r.fields.worstCaseLoss ≤ r.fields.riskConstitutionCeiling)
    (valueError "reservation relaxes immutable risk ceiling")

def assertInvariants (l : RiskBudgetLedger) (now : Option RecordedAt) :
    Py Unit × RiskBudgetLedger :=
  match l.heldAmount ctx now with
  | (.error e, l) => (.error e, l)
  | (.ok held, l) =>
    (do
      require (held ≤ l.totalCeiling) (valueError "risk reservation ceiling exceeded")
      l.reservations.values.forM l.assertRow, l)

/-- One round of the loop of `restore`. -/
def restoreRow (l : RiskBudgetLedger) (r : RiskBudgetReservation) : Py RiskBudgetLedger := do
  require (l.SameConstitution r) (valueError "reservation authority mismatch")
  require (l.reservationKeys.get? r.key = none ∧ l.row r.fields.reservationId = none)
    (valueError "conflicting risk reservation snapshot")
  .ok (l.insertRow r)

def restore (reservations : List RiskBudgetReservation) (authority : AuthorityFields) :
    Py RiskBudgetLedger := do
  let authority ← Frozen.make authority
  let ledger ← reservations.foldlM restoreRow (new authority)
  let held ← ctx.sum ledger.heldLosses
  require (held ≤ authority.fields.totalCeiling)
    (valueError "risk reservation snapshot exceeds immutable ceiling")
  .ok ledger

end

end RiskBudgetLedger

/-! ### The machine of all calls -/

/-- One operation on a ledger; commits do not touch it. -/
inductive LedgerOp where
  | reserve (r : RiskBudgetReservation) (now : RecordedAt)
  | release (id : EntityId)
  | shrink (id : EntityId) (worstCaseLoss : Option Decimal)
  | consume (id : EntityId) (now : RecordedAt)
  | consumeWithCommit (id : EntityId) (now : RecordedAt) (commit : Option (Py Bool))
  | reconcile (id : EntityId)
  | expire (now : RecordedAt)
  | heldAmount (now : Option RecordedAt)
  | assertInvariants (now : Option RecordedAt)

/-- The time an operation is given. -/
def LedgerOp.time : LedgerOp → Option RecordedAt
  | reserve _ now | consume _ now | consumeWithCommit _ now _ | expire now => some now
  | heldAmount now | assertInvariants now => now
  | release _ | shrink _ _ | reconcile _ => none

/-- An operation, or a restart from a snapshot. -/
inductive LedgerCall where
  | op (op : LedgerOp)
  | restore (reservations : List RiskBudgetReservation) (authority : AuthorityFields)

/-- What a call returns. -/
inductive LedgerAnswer where
  | bool (b : Bool)
  | row (r : Option RiskBudgetReservation)
  | amount (d : Decimal)
  | unit

/-- The call raised, or returned `False` or `None`. -/
def Refused : Py LedgerAnswer → Prop
  | .error _ => True
  | .ok (.bool b) => b = false
  | .ok (.row r) => r = none
  | .ok _ => False

namespace RiskBudgetLedger

variable (ctx : DecimalContext)

/-- One operation. -/
def step (l : RiskBudgetLedger) : LedgerOp → Py LedgerAnswer × RiskBudgetLedger
  | .reserve r now => ((l.reserve ctx r now).1.map .bool, (l.reserve ctx r now).2)
  | .release id => (.ok (.row (l.release id).1), (l.release id).2)
  | .shrink id loss => (.ok (.row (l.shrink id loss).1), (l.shrink id loss).2)
  | .consume id now => (.ok (.row (l.consume id now).1), (l.consume id now).2)
  | .consumeWithCommit id now commit =>
    let answer := l.consumeWithCommit () id now (commit.map quiet)
    (answer.1.map .row, answer.2.1)
  | .reconcile id => (.ok (.row (l.reconcile id).1), (l.reconcile id).2)
  | .expire now => (.ok .unit, l.expire now)
  | .heldAmount now => ((l.heldAmount ctx now).1.map .amount, (l.heldAmount ctx now).2)
  | .assertInvariants now =>
    ((l.assertInvariants ctx now).1.map (fun _ => .unit), (l.assertInvariants ctx now).2)

/-- The machine of the operations on one ledger. -/
def machine : Machine RiskBudgetLedger LedgerOp (Py LedgerAnswer) := ⟨step ctx⟩

/-- One call.  A restored ledger takes the place of the old one when `restore` returns. -/
def callStep (l : RiskBudgetLedger) : LedgerCall → Py LedgerAnswer × RiskBudgetLedger
  | .op op => l.step ctx op
  | .restore rows authority =>
    match restore ctx rows authority with
    | .ok restored => (.ok .unit, restored)
    | .error e => (.error e, l)

/-- The machine of operations and restarts. -/
def callMachine : Machine RiskBudgetLedger LedgerCall (Py LedgerAnswer) := ⟨callStep ctx⟩

/-- The ledger after a sequence of calls on a new one. -/
def run (authority : Frozen AuthorityFields) (calls : List LedgerCall) : RiskBudgetLedger :=
  (callMachine ctx).exec (new authority) calls

end RiskBudgetLedger

end FuturesAgentOs
