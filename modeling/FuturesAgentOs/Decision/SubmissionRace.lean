import FuturesAgentOs.Decision.BindingArtifacts
import FuturesAgentOs.PortfolioRisk.LedgerTransitions

namespace FuturesAgentOs

open PyModel

/-!
# A submission against the end of a binding

`RiskBudgetLedger.consume_with_commit`, its commit `ReceiptRegistry.consume`, and
`BindingArtifactCoordinator._end`, one lock section at a time.  A submission holds the lock of
the ledger from the read of the row to the write of it, and marks the receipt under the lock of
the issuance registry; an ending holds the lock of the coordinator, and takes the other two for
each tracked basis in turn.  Between the sections anything may happen: other submissions, other
endings, issuances, and every method of the ledger while its lock is free.

* `never_after_release` — the result over every interleaving.
-/

/-- How far the holder of the ledger's lock has come. -/
inductive SubmissionPhase where
  /-- the row was read, and is active -/
  | checking
  /-- every condition of `consume` held -/
  | admitted
  /-- `mark_consumed` answered `True` -/
  | marked
  /-- nonce and basis were entered -/
  | used
  deriving DecidableEq

/-- The receipt of the submission is consumed. -/
def SubmissionPhase.Marked (p : SubmissionPhase) : Prop := p = .marked ∨ p = .used

/-- A call of `consume_with_commit` that holds the lock of the ledger. -/
structure Submission where
  command : Consumption
  /-- the row that it read -/
  row : RiskBudgetReservation
  phase : SubmissionPhase

/-- The row that the call is about. -/
def Submission.reservationId (s : Submission) : EntityId :=
  s.command.reservation.fields.reservationId

/-- How far the loop of `_end` has come with the first of the remaining items. -/
inductive EndingPhase where
  | next
  | invalidated
  | read (prior : Option RiskBudgetReservation)

/-- A call of `_end` that holds the lock of the coordinator. -/
structure Ending where
  found : BindingArtifactInvalidation
  /-- what is left of the snapshot that the loop runs over -/
  remaining : List (EntityId × TrackedArtifact)
  phase : EndingPhase

/-- The three ways to end a binding. -/
inductive EndCall where
  | pause (binding : AutonomyModeBinding)
  | expire (binding : AutonomyModeBinding) (now : RecordedAt)
  | supersede (binding : AutonomyModeBinding) (now : RecordedAt)

/-- The binding that is handed to `_end`. -/
def EndCall.ended : EndCall → Py AutonomyModeBinding
  | pause binding =>
    if binding.fields.mode ≠ .PAUSED then
      .error (valueError "artifact pause requires a paused binding")
    else .ok binding
  | expire binding now => binding.expire now
  | supersede binding now => binding.supersede now

/-- The shared state: the coordinator with its issuance registry and ledger, the receipt registry,
and who is inside which lock. -/
structure SubmissionRace where
  coordinator : BindingArtifactCoordinator
  receipts : ReceiptRegistry
  submission : Option Submission
  ending : Option Ending

/-- The atomic steps. -/
inductive RaceEvent where
  /-- a method of the ledger, called by anyone -/
  | ledger (op : LedgerOp)
  /-- `ReceiptIssuanceRegistry.issue` -/
  | issue (basisId : EntityId) (fingerprint : Text) (factory : Py AutonomyGateReceipt)
  /-- `BindingArtifactCoordinator.track` -/
  | track (binding : AutonomyModeBinding) (basis : AuthorizationBasis) (reservationId : EntityId)
  /-- `consume_with_commit` takes the lock and reads the row -/
  | begin (command : Consumption)
  /-- the conditions of `ReceiptRegistry.consume` -/
  | check
  /-- `mark_consumed` -/
  | mark
  /-- the two insertions after it -/
  | use
  /-- `consume_with_commit` writes the row and lets go of the lock -/
  | write
  /-- `pause`, `expire` or `supersede` takes the lock and the snapshot -/
  | endBinding (call : EndCall)
  /-- `invalidate_basis` and the new state of the basis -/
  | invalidate
  /-- `reservation(reservation_id)` -/
  | readPrior
  /-- `release(reservation_id)` and `del` -/
  | release
  /-- `_end` returns, or its thread is lost -/
  | leave

namespace SubmissionRace

/-- The ledger. -/
def ledger (w : SubmissionRace) : RiskBudgetLedger := w.coordinator.riskLedger

/-- The issuance registry. -/
def issuance (w : SubmissionRace) : ReceiptIssuanceRegistry := w.coordinator.issuanceRegistry

/-- Nothing has happened yet. -/
def new (authority : Frozen AuthorityFields) (registryId : EntityId) : SubmissionRace where
  coordinator := .new (.new registryId) (.new authority)
  receipts := .new
  submission := none
  ending := none

/-- The race with another ledger. -/
def withLedger (w : SubmissionRace) (l : RiskBudgetLedger) : SubmissionRace :=
  { w with coordinator := { w.coordinator with riskLedger := l } }

/-- The race with another issuance registry. -/
def withIssuance (w : SubmissionRace) (s : ReceiptIssuanceRegistry) : SubmissionRace :=
  { w with coordinator := { w.coordinator with issuanceRegistry := s } }

/-- A method of the ledger waits for its lock. -/
def callLedger (ctx : DecimalContext) (w : SubmissionRace) (op : LedgerOp) : SubmissionRace :=
  match w.submission with
  | none => w.withLedger (w.ledger.step ctx op).2
  | some _ => w

/-- `track` waits for the lock of the coordinator. -/
def track (w : SubmissionRace) (binding : AutonomyModeBinding) (basis : AuthorizationBasis)
    (reservationId : EntityId) : SubmissionRace :=
  match w.ending with
  | none => { w with coordinator := w.coordinator.track binding basis reservationId }
  | some _ => w

/-- `consume_with_commit`: the lock must be free; an inactive row ends the call. -/
def begin (w : SubmissionRace) (command : Consumption) : SubmissionRace :=
  match w.submission, w.ledger.row command.reservation.fields.reservationId with
  | none, some row =>
    if row.ActiveAt command.now then { w with submission := some ⟨command, row, .checking⟩ } else w
  | _, _ => w

/-- The conditions of `consume`, at the moment of its call of `contains`; the others read the
arguments and what only the holder of the lock writes.  A false condition and an exception end
the call. -/
def check [Hashlib] (w : SubmissionRace) : SubmissionRace :=
  match w.submission with
  | some ⟨command, row, .checking⟩ =>
    match w.receipts.admits w.issuance command with
    | .ok true => { w with submission := some ⟨command, row, .admitted⟩ }
    | _ => { w with submission := none }
  | _ => w

/-- `mark_consumed` -/
def mark (w : SubmissionRace) : SubmissionRace :=
  match w.submission with
  | some ⟨command, row, .admitted⟩ =>
    match w.issuance.markConsumed command.receipt with
    | (true, issuance) =>
      { w.withIssuance issuance with submission := some ⟨command, row, .marked⟩ }
    | (false, _) => { w with submission := none }
  | _ => w

/-- The nonce and the basis are entered. -/
def use (w : SubmissionRace) : SubmissionRace :=
  match w.submission with
  | some ⟨command, row, .marked⟩ =>
    { w with
      receipts := w.receipts.use command.receipt
      submission := some ⟨command, row, .used⟩ }
  | _ => w

/-- The row that was read is written as `CONSUMED`. -/
def write (w : SubmissionRace) : SubmissionRace :=
  match w.submission with
  | some ⟨command, row, .used⟩ =>
    { w.withLedger (w.ledger.putRow command.reservation.fields.reservationId
        (row.advance .CONSUMED)) with submission := none }
  | _ => w

/-- `pause`, `expire` and `supersede` up to the loop of `_end`. -/
def endBinding (w : SubmissionRace) (call : EndCall) : SubmissionRace :=
  match w.ending, call.ended with
  | none, .ok ended =>
    { w with ending := some ⟨{ binding := ended }, w.coordinator.tracked.items, .next⟩ }
  | _, _ => w

/-- The first lock section of a round: other bindings are passed over. -/
def invalidate (w : SubmissionRace) : SubmissionRace :=
  match w.ending with
  | some ⟨found, (basisId, artifact) :: rest, .next⟩ =>
    if artifact.binding.fields.bindingId ≠ found.binding.fields.bindingId then
      { w with ending := some ⟨found, rest, .next⟩ }
    else
      let (receipt, issuance) := w.issuance.invalidateBasis basisId
      let found := { found with
        staleBases := found.staleBases ++ (BindingArtifactCoordinator.staleBasis artifact).toList
        invalidatedReceipts := found.invalidatedReceipts ++ receipt.toList }
      { w with
        coordinator := (w.withIssuance issuance).coordinator.markStale basisId artifact
        ending := some ⟨found, (basisId, artifact) :: rest, .invalidated⟩ }
  | _ => w

/-- The second one, under the lock of the ledger. -/
def readPrior (w : SubmissionRace) : SubmissionRace :=
  match w.submission, w.ending with
  | none, some ⟨found, (basisId, artifact) :: rest, .invalidated⟩ =>
    let prior := w.ledger.row artifact.reservationId
    { w with ending := some ⟨found, (basisId, artifact) :: rest, .read prior⟩ }
  | _, _ => w

/-- The third one, under the lock of the ledger. -/
def release (w : SubmissionRace) : SubmissionRace :=
  match w.submission, w.ending with
  | none, some ⟨found, (basisId, artifact) :: rest, .read prior⟩ =>
    let (result, ledger) := w.ledger.release artifact.reservationId
    let found := { found with
      releasedReservations := found.releasedReservations
        ++ (BindingArtifactCoordinator.released prior result).toList }
    { w with
      coordinator := { w.coordinator with
        riskLedger := ledger
        tracked := w.coordinator.tracked.erase basisId }
      ending := some ⟨found, rest, .next⟩ }
  | _, _ => w

/-- One atomic step; a step that is not enabled changes nothing. -/
def step [Hashlib] (ctx : DecimalContext) (w : SubmissionRace) : RaceEvent → SubmissionRace
  | .ledger op => w.callLedger ctx op
  | .issue basisId fingerprint factory =>
    w.withIssuance (w.issuance.issue basisId fingerprint factory).2
  | .track binding basis reservationId => w.track binding basis reservationId
  | .begin command => w.begin command
  | .check => w.check
  | .mark => w.mark
  | .use => w.use
  | .write => w.write
  | .endBinding call => w.endBinding call
  | .invalidate => w.invalidate
  | .readPrior => w.readPrior
  | .release => w.release
  | .leave => { w with ending := none }

/-- The machine of all interleavings. -/
def machine [Hashlib] (ctx : DecimalContext) : Machine SubmissionRace RaceEvent Unit :=
  ⟨fun w event => ((), w.step ctx event)⟩

/-- The receipt of the basis is consumed, for the issuance registry or for the receipt
registry. -/
def Consumed (w : SubmissionRace) (basisId : EntityId) : Prop :=
  basisId ∈ w.issuance.consumedBases ∨ basisId ∈ w.receipts.usedBases

/-! ### Undisturbed, the steps are the methods -/

section

variable [Hashlib] (ctx : DecimalContext) (w : SubmissionRace)

/-- The commit of a submission: `ReceiptRegistry.consume`. -/
def commit (command : Consumption) :
    RiskBudgetLedger.Commit (ReceiptRegistry × ReceiptIssuanceRegistry) :=
  fun (ledger, receipts, issuance) =>
    let (answer, receipts, issuance) := receipts.consume issuance command
    (answer, ledger, receipts, issuance)

/-- **The steps of a submission**, when no other one is inside, are `consume_with_commit` with the
commit `ReceiptRegistry.consume`. -/
theorem exec_submission (command : Consumption) :
    let result := w.ledger.consumeWithCommit (w.receipts, w.issuance)
      command.reservation.fields.reservationId command.now (some (commit command))
    (machine ctx).exec { w with submission := none } [.begin command, .check, .mark, .use, .write]
      = { (w.withLedger result.2.1).withIssuance result.2.2.2 with
          receipts := result.2.2.1
          submission := none } := by
  intro result
  show (({ w with submission := none } : SubmissionRace).begin command).check.mark.use.write = _
  obtain ⟨⟨registry, ledger, tracked, states⟩, receipts, submission, ending⟩ := w
  -- the read of the row, the conditions and the mark, in the order of the steps
  cases hrow : ledger.row command.reservation.fields.reservationId with
  | none =>
    simp [begin, check, mark, use, write, SubmissionRace.ledger, issuance, withLedger,
      withIssuance, result, RiskBudgetLedger.consumeWithCommit, hrow]
  | some row =>
    by_cases hactive : row.ActiveAt command.now
    · rcases hadmits : receipts.admits registry command with e | _ | _
      · simp [begin, check, mark, use, write, SubmissionRace.ledger, issuance, withLedger,
          withIssuance, result, RiskBudgetLedger.consumeWithCommit, hrow, hactive, commit,
          ReceiptRegistry.consume, hadmits]
      · simp [begin, check, mark, use, write, SubmissionRace.ledger, issuance, withLedger,
          withIssuance, result, RiskBudgetLedger.consumeWithCommit, hrow, hactive, commit,
          ReceiptRegistry.consume, hadmits]
      · rcases hmark : registry.markConsumed command.receipt with ⟨_ | _, registry'⟩
        · have heq := ReceiptIssuanceRegistry.markConsumed_eq_false hmark
          simp [begin, check, mark, use, write, SubmissionRace.ledger, issuance, withLedger,
            withIssuance, result, RiskBudgetLedger.consumeWithCommit, hrow, hactive, commit,
            ReceiptRegistry.consume, hadmits, hmark, heq]
        · simp [begin, check, mark, use, write, SubmissionRace.ledger, issuance, withLedger,
            withIssuance, result, RiskBudgetLedger.consumeWithCommit, hrow, hactive, commit,
            ReceiptRegistry.consume, hadmits, hmark]
    · simp [begin, check, mark, use, write, SubmissionRace.ledger, issuance, withLedger,
        withIssuance, result, RiskBudgetLedger.consumeWithCommit, hrow, hactive]

/-- **The steps of a round** are the body of the loop of `_end`. -/
theorem exec_round (hfree : w.submission = none) {found : BindingArtifactInvalidation}
    {item : EntityId × TrackedArtifact} {rest : List (EntityId × TrackedArtifact)}
    (hending : w.ending = some ⟨found, item :: rest, .next⟩) :
    let result := BindingArtifactCoordinator.endBasis (found, w.coordinator) item
    (machine ctx).exec w [.invalidate, .readPrior, .release]
      = { w with coordinator := result.2, ending := some ⟨result.1, rest, .next⟩ } := by
  intro result
  show w.invalidate.readPrior.release = _
  obtain ⟨⟨registry, ledger, tracked, states⟩, receipts, submission, ending⟩ := w
  obtain ⟨basisId, artifact⟩ := item
  subst hfree hending
  by_cases hbinding : artifact.binding.fields.bindingId = found.binding.fields.bindingId
  · cases hstale : BindingArtifactCoordinator.staleBasis artifact with
    | none =>
      simp [invalidate, readPrior, release, result, BindingArtifactCoordinator.endBasis, hbinding,
        SubmissionRace.ledger, issuance, withIssuance, BindingArtifactCoordinator.markStale, hstale]
    | some basis =>
      simp [invalidate, readPrior, release, result, BindingArtifactCoordinator.endBasis, hbinding,
        SubmissionRace.ledger, issuance, withIssuance, BindingArtifactCoordinator.markStale, hstale]
  · simp [invalidate, readPrior, release, result, BindingArtifactCoordinator.endBasis, hbinding]

/-- The steps of a number of rounds. -/
def rounds (n : ℕ) : List RaceEvent :=
  (List.replicate n [RaceEvent.invalidate, .readPrior, .release]).flatten

theorem exec_rounds (hfree : w.submission = none) {found : BindingArtifactInvalidation}
    {items : List (EntityId × TrackedArtifact)} (hending : w.ending = some ⟨found, items, .next⟩) :
    let result := items.foldl BindingArtifactCoordinator.endBasis (found, w.coordinator)
    (machine ctx).exec w (rounds items.length)
      = { w with coordinator := result.2, ending := some ⟨result.1, [], .next⟩ } := by
  induction items generalizing w found with
  | nil =>
    obtain ⟨coordinator, receipts, submission, ending⟩ := w
    subst hending
    rfl
  | cons item items ih =>
    have hround := exec_round ctx w hfree hending
    have hsplit : rounds (item :: items).length
        = [RaceEvent.invalidate, .readPrior, .release] ++ rounds items.length := rfl
    rw [hsplit, Machine.exec_append, hround]
    exact ih { w with
      coordinator := (BindingArtifactCoordinator.endBasis (found, w.coordinator) item).2
      ending := some ⟨_, items, .next⟩ } hfree rfl

/-- **The steps of an ending** are `pause`, `expire` or `supersede`. -/
theorem exec_ending (hfree : w.submission = none) (hending : w.ending = none) {call : EndCall}
    {ended : AutonomyModeBinding} (hended : call.ended = .ok ended) :
    (machine ctx).exec w
        (.endBinding call :: rounds w.coordinator.tracked.items.length ++ [.leave])
      = { w with coordinator := (w.coordinator.endBinding ended).2 } := by
  have hbegin : w.endBinding call
      = { w with ending := some ⟨{ binding := ended }, w.coordinator.tracked.items, .next⟩ } := by
    simp only [endBinding, hending, hended]
  rw [List.cons_append, Machine.exec_cons, Machine.exec_append]
  show (machine ctx).exec ((machine ctx).exec (w.endBinding call) _) _ = _
  rw [hbegin]
  have hrounds := exec_rounds ctx
    { w with ending := some ⟨{ binding := ended }, w.coordinator.tracked.items, .next⟩ } hfree rfl
  rw [hrounds]
  obtain ⟨coordinator, receipts, submission, ending⟩ := w
  subst hending
  rfl

end

/-! ### What an ending and strangers do -/

section

variable {w w' : SubmissionRace}

@[simp] theorem markStale_ledger (s : BindingArtifactCoordinator) (basisId : EntityId)
    (artifact : TrackedArtifact) : (s.markStale basisId artifact).riskLedger = s.riskLedger := by
  unfold BindingArtifactCoordinator.markStale
  split <;> rfl

@[simp] theorem markStale_issuance (s : BindingArtifactCoordinator) (basisId : EntityId)
    (artifact : TrackedArtifact) :
    (s.markStale basisId artifact).issuanceRegistry = s.issuanceRegistry := by
  unfold BindingArtifactCoordinator.markStale
  split <;> rfl

/-- What an ending or a stranger does: it leaves the submission alone, marks nothing, and touches
the ledger only while it is free. -/
structure Framed (w w' : SubmissionRace) : Prop where
  submission : w'.submission = w.submission
  receipts : w'.receipts = w.receipts
  grows : w.issuance.Grows w'.issuance
  consumed : w'.issuance.consumedBases = w.issuance.consumedBases
  rows : RiskBudgetLedger.KeepsRows w.ledger w'.ledger
  locked : w.submission = none ∨ w'.ledger = w.ledger

theorem Framed.refl (w : SubmissionRace) : Framed w w :=
  ⟨rfl, rfl, .refl _, rfl, .refl _, Or.inr rfl⟩

/-- A step that leaves the ledger, the registries and the submission alone. -/
theorem Framed.of_eq (hsubmission : w'.submission = w.submission)
    (hreceipts : w'.receipts = w.receipts) (hissuance : w'.issuance = w.issuance)
    (hledger : w'.ledger = w.ledger) : Framed w w' where
  submission := hsubmission
  receipts := hreceipts
  grows := hissuance ▸ .refl _
  consumed := by rw [hissuance]
  rows := hledger ▸ .refl _
  locked := Or.inr hledger

theorem framed_callLedger (ctx : DecimalContext) (op : LedgerOp) :
    Framed w (w.callLedger ctx op) := by
  unfold callLedger
  split
  · rename_i hfree
    exact ⟨rfl, rfl, .refl _, rfl, w.ledger.step_keepsRows ctx op, Or.inl hfree⟩
  · exact Framed.refl w

theorem framed_issue (basisId : EntityId) (fingerprint : Text) (factory : Py AutonomyGateReceipt) :
    Framed w (w.withIssuance (w.issuance.issue basisId fingerprint factory).2) := by
  obtain ⟨hgrows, hconsumed⟩ := w.issuance.issue_grows basisId fingerprint factory
  exact ⟨rfl, rfl, hgrows, hconsumed, .refl _, Or.inr rfl⟩

theorem framed_track (binding : AutonomyModeBinding) (basis : AuthorizationBasis)
    (reservationId : EntityId) : Framed w (w.track binding basis reservationId) := by
  unfold track
  split
  · exact Framed.of_eq rfl rfl rfl rfl
  · exact Framed.refl w

theorem framed_endBinding (call : EndCall) : Framed w (w.endBinding call) := by
  unfold endBinding
  split
  · exact Framed.of_eq rfl rfl rfl rfl
  · exact Framed.refl w

theorem framed_invalidate : Framed w w.invalidate := by
  unfold invalidate
  split
  · rename_i found basisId artifact rest hending
    split
    · exact Framed.of_eq rfl rfl rfl rfl
    · constructor
      · rfl
      · rfl
      · show w.issuance.Grows (BindingArtifactCoordinator.markStale _ _ _).issuanceRegistry
        rw [markStale_issuance]
        exact w.issuance.invalidateBasis_grows basisId
      · show (BindingArtifactCoordinator.markStale _ _ _).issuanceRegistry.consumedBases = _
        rw [markStale_issuance]
        rfl
      · show RiskBudgetLedger.KeepsRows _ (BindingArtifactCoordinator.markStale _ _ _).riskLedger
        rw [markStale_ledger]
        exact .refl _
      · right
        show (BindingArtifactCoordinator.markStale _ _ _).riskLedger = _
        rw [markStale_ledger]
        rfl
  · exact Framed.refl w

theorem framed_readPrior : Framed w w.readPrior := by
  unfold readPrior
  split
  · exact Framed.of_eq rfl rfl rfl rfl
  · exact Framed.refl w

theorem framed_release : Framed w w.release := by
  unfold release
  split
  · rename_i found basisId artifact rest prior hfree hending
    have hrows := (w.ledger.release_changes artifact.reservationId).inPlace.keepsRows
    exact ⟨rfl, rfl, .refl _, rfl, hrows, Or.inl hfree⟩
  · exact Framed.refl w

/-! ### The invariant -/

/-- A submission that holds the lock has marked the receipt. -/
def InFlight (w : SubmissionRace) (receipt : AutonomyGateReceipt) : Prop :=
  ∃ s, w.submission = some s ∧ s.phase.Marked ∧ s.reservationId = receipt.fields.reservationId

/-- The budget of the receipt went into an order. -/
def Spent (w : SubmissionRace) (receipt : AutonomyGateReceipt) : Prop :=
  ∃ row, w.ledger.row receipt.fields.reservationId = some row ∧ row.fields.status.Spent

/-- What holds between any two steps. -/
structure Safe (w : SubmissionRace) : Prop where
  /-- The row that the holder of the lock read is still there, and is `HELD`. -/
  held : ∀ s, w.submission = some s →
    w.ledger.row s.reservationId = some s.row ∧ s.row.fields.status = .HELD
  /-- Once the conditions held, the receipt names this row. -/
  named : ∀ s, w.submission = some s → s.phase ≠ .checking →
    s.command.receipt.fields.reservationId = s.reservationId
  /-- A marked receipt is marked. -/
  marked : ∀ s, w.submission = some s → s.phase.Marked →
    s.command.receipt.fields.basisId ∈ w.issuance.consumedBases
  /-- The receipt of a consumed basis is in flight, or its row is spent. -/
  spent : ∀ basisId ∈ w.issuance.consumedBases, ∃ entry,
    w.issuance.issued.get? basisId = some entry ∧ (w.InFlight entry.2 ∨ w.Spent entry.2)
  /-- The receipt registry uses only what the issuance registry has marked. -/
  used : w.receipts.usedBases ⊆ w.issuance.consumedBases

theorem safe_new (authority : Frozen AuthorityFields) (registryId : EntityId) :
    Safe (new authority registryId) where
  held := by
    intro s h
    cases h
  named := by
    intro s h
    cases h
  marked := by
    intro s h
    cases h
  spent := by
    intro basisId h
    exact absurd h (Finset.notMem_empty _)
  used := Finset.Subset.refl _

theorem Spent.mono {receipt : AutonomyGateReceipt} (h : w.Spent receipt)
    (hrows : RiskBudgetLedger.KeepsRows w.ledger w'.ledger) : w'.Spent receipt := by
  obtain ⟨row, hrow, hspent⟩ := h
  obtain ⟨row', hrow', hstep⟩ := hrows _ row hrow
  exact ⟨row', hrow', hstep.spent hspent⟩

/-- A framed step keeps the invariant. -/
theorem Safe.frame (h : Safe w) (hframed : Framed w w') : Safe w' where
  held := by
    intro s hs
    rw [hframed.submission] at hs
    obtain hfree | hledger := hframed.locked
    · rw [hfree] at hs
      cases hs
    · rw [hledger]
      exact h.held s hs
  named := by
    intro s hs
    rw [hframed.submission] at hs
    exact h.named s hs
  marked := by
    intro s hs hmarked
    rw [hframed.submission] at hs
    exact hframed.grows.consumed (h.marked s hs hmarked)
  spent := by
    intro basisId hmem
    rw [hframed.consumed] at hmem
    obtain ⟨entry, hentry, hstate⟩ := h.spent basisId hmem
    refine ⟨entry, hframed.grows.issued _ _ hentry, ?_⟩
    obtain ⟨s, hs, hflight⟩ | hspent := hstate
    · exact Or.inl ⟨s, hframed.submission.trans hs, hflight⟩
    · exact Or.inr (hspent.mono hframed.rows)
  used := by
    rw [hframed.receipts, hframed.consumed]
    exact h.used

theorem Safe.unmarked (h : Safe w) (hunmarked : ∀ s, w.submission = some s → ¬ s.phase.Marked)
    (submission : Option Submission)
    (hheld : ∀ s, submission = some s →
      w.ledger.row s.reservationId = some s.row ∧ s.row.fields.status = .HELD)
    (hnamed : ∀ s, submission = some s → s.phase ≠ .checking →
      s.command.receipt.fields.reservationId = s.reservationId)
    (hphase : ∀ s, submission = some s → ¬ s.phase.Marked) :
    Safe { w with submission := submission } where
  held := hheld
  named := hnamed
  marked s hs hmarked := absurd hmarked (hphase s hs)
  spent := by
    intro basisId hmem
    obtain ⟨entry, hentry, ⟨s, hs, hmarked, -⟩ | hspent⟩ := h.spent basisId hmem
    · exact absurd hmarked (hunmarked s hs)
    · exact ⟨entry, hentry, Or.inr hspent⟩
  used := h.used

theorem SubmissionPhase.not_marked_checking : ¬ SubmissionPhase.checking.Marked := by
  simp [SubmissionPhase.Marked]

theorem SubmissionPhase.not_marked_admitted : ¬ SubmissionPhase.admitted.Marked := by
  simp [SubmissionPhase.Marked]

/-- Without a submission nothing is to be shown of it. -/
theorem Safe.dropped (h : Safe w) (hunmarked : ∀ s, w.submission = some s → ¬ s.phase.Marked) :
    Safe { w with submission := none } := by
  apply h.unmarked hunmarked
  · intro s hs
    cases hs
  · intro s hs
    cases hs
  · intro s hs
    cases hs

/-! ### One lemma for each step -/

theorem Safe.begin (h : Safe w) (command : Consumption) : Safe (w.begin command) := by
  unfold SubmissionRace.begin
  split
  · rename_i row hfree hrow
    split
    · rename_i hactive
      apply h.unmarked
      · intro s hs
        rw [hfree] at hs
        cases hs
      · rintro s ⟨⟩
        exact ⟨hrow, hactive.1⟩
      · rintro s ⟨⟩ hphase
        exact absurd rfl hphase
      · rintro s ⟨⟩
        exact SubmissionPhase.not_marked_checking
    · exact h
  · exact h

theorem Safe.check [Hashlib] (h : Safe w) : Safe w.check := by
  unfold SubmissionRace.check
  split
  · rename_i command row hs
    have hunmarked : ∀ s, w.submission = some s → ¬ s.phase.Marked := by
      intro s hs'
      rw [hs, Option.some.injEq] at hs'
      rw [← hs']
      exact SubmissionPhase.not_marked_checking
    split
    · rename_i hadmits
      obtain ⟨-, hconditions⟩ := ReceiptRegistry.admits_eq_true.mp hadmits
      obtain ⟨basisHash, reservationHash, -, -, hnames⟩ :=
        Consumption.names_of_conditions hconditions
      apply h.unmarked hunmarked
      · rintro s ⟨⟩
        exact h.held ⟨command, row, .checking⟩ hs
      · rintro s ⟨⟩ -
        exact hnames.2.2.2.2.2.2.2.2.2.2.2.2.2.2.1
      · rintro s ⟨⟩
        exact SubmissionPhase.not_marked_admitted
    · exact h.dropped hunmarked
  · exact h

theorem Safe.mark (h : Safe w) : Safe w.mark := by
  unfold SubmissionRace.mark
  split
  · rename_i command row hs
    have hunmarked : ∀ s, w.submission = some s → ¬ s.phase.Marked := by
      intro s hs'
      rw [hs, Option.some.injEq] at hs'
      rw [← hs']
      exact SubmissionPhase.not_marked_admitted
    split
    · rename_i registry hmark
      have hgrows := ReceiptIssuanceRegistry.markConsumed_grows hmark
      obtain ⟨hissued, -, -, rfl⟩ := ReceiptIssuanceRegistry.markConsumed_eq_true hmark
      have hname := h.named _ hs (by simp)
      constructor
      · rintro s ⟨⟩
        exact h.held ⟨command, row, .admitted⟩ hs
      · rintro s ⟨⟩ -
        exact hname
      · rintro s ⟨⟩ -
        exact Finset.mem_insert_self _ _
      · intro basisId hmem
        obtain rfl | hmem := Finset.mem_insert.mp hmem
        -- the receipt that was just marked: in flight under the row that it names
        · obtain ⟨entry, hentry, hsame⟩ := hissued.exists_entry
          exact ⟨entry, hentry, Or.inl ⟨_, rfl, Or.inl rfl, hname.symm.trans
            hsame.reservationId_eq.symm⟩⟩
        · obtain ⟨entry, hentry, ⟨s, hs', hmarked, -⟩ | hspent⟩ := h.spent basisId hmem
          · exact absurd hmarked (hunmarked s hs')
          · exact ⟨entry, hentry, Or.inr hspent⟩
      · exact fun basisId hmem => Finset.mem_insert_of_mem (h.used hmem)
    · exact h.dropped hunmarked
  · exact h

theorem Safe.use (h : Safe w) : Safe w.use := by
  unfold SubmissionRace.use
  split
  · rename_i command row hs
    constructor
    · rintro s ⟨⟩
      exact h.held ⟨command, row, .marked⟩ hs
    · rintro s ⟨⟩ -
      exact h.named ⟨command, row, .marked⟩ hs (by simp)
    · rintro s ⟨⟩ -
      exact h.marked ⟨command, row, .marked⟩ hs (Or.inl rfl)
    · intro basisId hmem
      obtain ⟨entry, hentry, ⟨s, hs', -, hid⟩ | hspent⟩ := h.spent basisId hmem
      · rw [hs, Option.some.injEq] at hs'
        subst hs'
        exact ⟨entry, hentry, Or.inl ⟨_, rfl, Or.inr rfl, hid⟩⟩
      · exact ⟨entry, hentry, Or.inr hspent⟩
    · intro basisId hmem
      obtain rfl | hmem := Finset.mem_insert.mp hmem
      · exact h.marked ⟨command, row, .marked⟩ hs (Or.inl rfl)
      · exact h.used hmem
  · exact h

theorem Safe.write (h : Safe w) : Safe w.write := by
  unfold SubmissionRace.write
  split
  · rename_i command row hs
    obtain ⟨hrow, hheld⟩ := h.held _ hs
    have hedge : StatusEdge row.fields.status .CONSUMED := by
      rw [hheld]
      exact .consume
    have hrows := (RiskBudgetLedger.inPlace_putRow hrow
      (Or.inr (RowChange.of_advance hedge))).keepsRows
    constructor
    · rintro s ⟨⟩
    · rintro s ⟨⟩
    · rintro s ⟨⟩
    · intro basisId hmem
      obtain ⟨entry, hentry, ⟨s, hs', -, hid⟩ | hspent⟩ := h.spent basisId hmem
      -- the receipt in flight lands
      · rw [hs, Option.some.injEq] at hs'
        subst hs'
        refine ⟨entry, hentry, Or.inr ⟨row.advance .CONSUMED, ?_, Or.inl rfl⟩⟩
        rw [← hid]
        exact Dict.get?_set_self _ _ _
      · exact ⟨entry, hentry, Or.inr (hspent.mono hrows)⟩
    · exact h.used
  · exact h

/-- **Step lemma.** -/
theorem Safe.step [Hashlib] (ctx : DecimalContext) (h : Safe w) (event : RaceEvent) :
    Safe (w.step ctx event) := by
  cases event with
  | begin command => exact h.begin command
  | check => exact h.check
  | mark => exact h.mark
  | use => exact h.use
  | write => exact h.write
  | ledger op => exact h.frame (framed_callLedger ctx op)
  | issue basisId fingerprint factory => exact h.frame (framed_issue basisId fingerprint factory)
  | track binding basis reservationId => exact h.frame (framed_track binding basis reservationId)
  | endBinding call => exact h.frame (framed_endBinding call)
  | invalidate => exact h.frame framed_invalidate
  | readPrior => exact h.frame framed_readPrior
  | release => exact h.frame framed_release
  | leave => exact h.frame (Framed.of_eq rfl rfl rfl rfl)

theorem Safe.not_released (h : Safe w) {receipt : AutonomyGateReceipt}
    (hissued : w.issuance.Issued receipt) (hconsumed : w.Consumed receipt.fields.basisId) :
    ∃ row, w.ledger.row receipt.fields.reservationId = some row
      ∧ row.fields.status ≠ .RELEASED := by
  have hmem : receipt.fields.basisId ∈ w.issuance.consumedBases :=
    hconsumed.elim id (fun hused => h.used hused)
  obtain ⟨entry, hentry, hstate⟩ := h.spent _ hmem
  obtain ⟨entry', hentry', hsame⟩ := hissued.exists_entry
  rw [hentry, Option.some.injEq] at hentry'
  subst hentry'
  obtain ⟨s, hs, -, hid⟩ | ⟨row, hrow, hspent⟩ := hstate
  · obtain ⟨hrow, hheld⟩ := h.held s hs
    refine ⟨s.row, ?_, ?_⟩
    · rw [← hsame.reservationId_eq, ← hid]
      exact hrow
    · rw [hheld]
      decide
  · refine ⟨row, ?_, ?_⟩
    · rw [← hsame.reservationId_eq]
      exact hrow
    · obtain hspent | hspent := hspent <;> rw [hspent] <;> decide

/-! ### What happens to the issuance registry -/

theorem grows_check [Hashlib] : w.check.issuance = w.issuance := by
  unfold check
  split
  · split <;> rfl
  · rfl

theorem grows_mark : w.issuance.Grows w.mark.issuance := by
  unfold mark
  split
  · split
    · rename_i registry hmark
      exact ReceiptIssuanceRegistry.markConsumed_grows hmark
    · exact .refl _
  · exact .refl _

theorem step_grows [Hashlib] (ctx : DecimalContext) (w : SubmissionRace) (event : RaceEvent) :
    w.issuance.Grows (w.step ctx event).issuance := by
  have hsame : ∀ {w' : SubmissionRace}, w'.issuance = w.issuance →
      w.issuance.Grows w'.issuance := by
    intro w' heq
    rw [heq]
    exact .refl _
  cases event with
  | begin command =>
    apply hsame
    show (w.begin command).issuance = _
    unfold begin
    split
    · split <;> rfl
    · rfl
  | check => exact hsame grows_check
  | mark => exact grows_mark
  | use =>
    apply hsame
    show w.use.issuance = _
    unfold use
    split <;> rfl
  | write =>
    apply hsame
    show w.write.issuance = _
    unfold write
    split <;> rfl
  | ledger op => exact (framed_callLedger ctx op).grows
  | issue basisId fingerprint factory => exact (framed_issue basisId fingerprint factory).grows
  | track binding basis reservationId => exact (framed_track binding basis reservationId).grows
  | endBinding call => exact (framed_endBinding call).grows
  | invalidate => exact framed_invalidate.grows
  | readPrior => exact framed_readPrior.grows
  | release => exact framed_release.grows
  | leave => exact .refl _

end

/-! ### The results -/

section

variable [Hashlib] (ctx : DecimalContext) (authority : Frozen AuthorityFields)
  (registryId : EntityId)

/-- Every state that an interleaving reaches is safe. -/
theorem safe_exec (events : List RaceEvent) :
    Safe ((machine ctx).exec (new authority registryId) events) :=
  (machine ctx).exec_invariant (fun _ event h => h.step ctx event) (safe_new authority registryId)
    events

theorem exec_invalidated {w : SubmissionRace} {basisId : EntityId}
    (hinvalid : basisId ∈ w.issuance.invalidatedBases)
    (hfresh : basisId ∉ w.issuance.consumedBases) (events : List RaceEvent) :
    basisId ∈ ((machine ctx).exec w events).issuance.invalidatedBases
      ∧ basisId ∉ ((machine ctx).exec w events).issuance.consumedBases := by
  let Kept (w : SubmissionRace) : Prop :=
    basisId ∈ w.issuance.invalidatedBases ∧ basisId ∉ w.issuance.consumedBases
  have hstep : ∀ w event, Kept w → Kept ((machine ctx).next w event) := by
    rintro w event ⟨hinvalid, hfresh⟩
    have hgrows := step_grows ctx w event
    refine ⟨hgrows.invalidated hinvalid, fun hmem => ?_⟩
    obtain hmem | hvalid := hgrows.marked basisId hmem
    · exact hfresh hmem
    · exact hvalid hinvalid
  exact (machine ctx).exec_invariant hstep ⟨hinvalid, hfresh⟩ events

/-- **No order after a pause.**  In every interleaving of submissions, endings, issuances and
calls of the ledger:

* the reservation of a consumed receipt is never `RELEASED`;
* a basis that is invalidated before its receipt was consumed is never consumed later. -/
theorem never_after_release (events later : List RaceEvent) :
    let w := (machine ctx).exec (new authority registryId) events
    (∀ receipt, w.issuance.Issued receipt → w.Consumed receipt.fields.basisId →
        ∃ row, w.ledger.row receipt.fields.reservationId = some row
          ∧ row.fields.status ≠ .RELEASED)
      ∧ ∀ basisId, basisId ∈ w.issuance.invalidatedBases → ¬ w.Consumed basisId →
        ¬ ((machine ctx).exec w later).Consumed basisId := by
  intro w
  refine ⟨fun receipt => (safe_exec ctx authority registryId events).not_released, ?_⟩
  intro basisId hinvalid hfresh hconsumed
  have hsafe := safe_exec ctx authority registryId (events ++ later)
  rw [Machine.exec_append] at hsafe
  have hmem : basisId ∈ ((machine ctx).exec w later).issuance.consumedBases :=
    hconsumed.elim id (fun hused => hsafe.used hused)
  have hkept := exec_invalidated ctx hinvalid (fun h => hfresh (Or.inl h)) later
  exact hkept.2 hmem

end

end SubmissionRace

end FuturesAgentOs
