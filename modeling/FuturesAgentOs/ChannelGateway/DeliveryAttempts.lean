import FuturesAgentOs.ChannelGateway.Outbox

namespace FuturesAgentOs

open PyModel

/-!
# The attempts of the outbox are bounded

Runs of the outbox by any workers, which may be lost after a claim.  A reported failure compares
the attempts of a row with their limit; `recover_expired` puts a row with a lost lease back without
that comparison.

* `safe_iff` — every state of a run is safe exactly if no call does.
-/

variable {π : Type} {sha256 : OutboundNotification π → Py Text}

namespace OutboxRow

variable (row : OutboxRow π)

/-- The row is delivered or dead. -/
def Settled : Prop := row.deliveryState ∈ [DeliveryState.DELIVERED, .DEAD]

/-- No more attempts than the limit, and one left for a row that waits. -/
structure WithinAttempts : Prop where
  bounded : row.deliveryAttempts ≤ row.maxAttempts
  waits : row.Waits → ¬ row.Exhausted

end OutboxRow

/-- What a call does to the row of a key. -/
inductive DeliveryStep (c : OutboxCall π) : Option (OutboxRow π) → Option (OutboxRow π) → Prop where
  | same (found : Option (OutboxRow π)) : DeliveryStep c found found
  | new (n : OutboundNotification π) (payloadSha256 : Text) (now : ℤ) :
      DeliveryStep c none (some
        { notification := n
          payloadSha256
          availableAt := now
          deliveryState := .PENDING
          createdAt := now
          maxAttempts := 8 })
  | claimed {row : OutboxRow π} (workerId : Text) (now expiry : ℤ) (hwaits : row.Waits) :
      DeliveryStep c (some row) (some (row.claimed workerId now expiry))
  | delivered {row : OutboxRow π} (deliveredAt : ℤ) (hflight : row.deliveryState = .IN_FLIGHT) :
      DeliveryStep c (some row)
        (some { row.released .DELIVERED with deliveredAt := some deliveredAt })
  | dead {row : OutboxRow π} (reason : Text) (hflight : row.deliveryState = .IN_FLIGHT) :
      DeliveryStep c (some row) (some { row.released .DEAD with lastError := some reason })
  | retried {row : OutboxRow π} (reason : Text) (availableAt : ℤ)
      (hflight : row.deliveryState = .IN_FLIGHT) (hleft : ¬ row.Exhausted) :
      DeliveryStep c (some row)
        (some { row.released .RETRY with lastError := some reason, availableAt })
  | recovered {row : OutboxRow π} (now : ℤ) (hcall : c = .recoverExpired now)
      (hlost : row.LostLease now) : DeliveryStep c (some row) (some (row.released .RETRY))

/-- The call is a recovery, and finds the lost lease of a last attempt. -/
def OutboxCall.LosesLastAttempt (s : Outbox π) : OutboxCall π → Prop
  | .recoverExpired now =>
    ∃ key row, s.rows.get? key = some row ∧ row.LostLease now ∧ row.Exhausted
  | _ => False

/-- The rows that an answer hands out. -/
def OutboxAnswer.taken : OutboxAnswer π → List (OutboxRecord π)
  | .records (.ok taken) => taken
  | _ => []

namespace DeliveryStep

variable {c : OutboxCall π} {found after : Option (OutboxRow π)}

theorem of_settled {row : OutboxRow π} (h : DeliveryStep c (some row) after)
    (hsettled : row.Settled) : after = some row := by
  have hnot : row.deliveryState ≠ .IN_FLIGHT := by
    intro hflight
    simp [OutboxRow.Settled, hflight] at hsettled
  cases h with
  | same => rfl
  | claimed workerId now expiry hwaits =>
    rcases hstate : row.deliveryState <;>
      simp [OutboxRow.Settled, OutboxRow.Waits, hstate] at hsettled hwaits
  | delivered deliveredAt hflight => exact absurd hflight hnot
  | dead reason hflight => exact absurd hflight hnot
  | retried reason availableAt hflight hleft => exact absurd hflight hnot
  | recovered now hcall hlost => exact absurd hlost.1 hnot

/-- A row stays within its attempts, unless it loses the last one. -/
theorem within (h : DeliveryStep c found after) (hwithin : ∀ row ∈ found, row.WithinAttempts)
    (hkeeps : ∀ now, c = .recoverExpired now → ∀ row ∈ found, row.LostLease now → ¬ row.Exhausted) :
    ∀ row ∈ after, row.WithinAttempts := by
  rintro row' hmem
  cases h with
  | same => exact hwithin row' hmem
  | new n payloadSha256 now =>
    obtain rfl := Option.some.inj hmem
    exact ⟨Nat.zero_le _, fun _ => by simp [OutboxRow.Exhausted]⟩
  | @claimed row workerId now expiry hwaits =>
    obtain rfl := Option.some.inj hmem
    have hleft := (hwithin row rfl).waits hwaits
    refine ⟨?_, fun hstill => by simp [OutboxRow.Waits, OutboxRow.claimed] at hstill⟩
    show row.deliveryAttempts + 1 ≤ row.maxAttempts
    rw [OutboxRow.Exhausted] at hleft
    omega
  | @delivered row deliveredAt hflight =>
    obtain rfl := Option.some.inj hmem
    exact ⟨(hwithin row rfl).bounded,
      fun hstill => by simp [OutboxRow.Waits, OutboxRow.released] at hstill⟩
  | @dead row reason hflight =>
    obtain rfl := Option.some.inj hmem
    exact ⟨(hwithin row rfl).bounded,
      fun hstill => by simp [OutboxRow.Waits, OutboxRow.released] at hstill⟩
  | @retried row reason availableAt hflight hleft =>
    obtain rfl := Option.some.inj hmem
    exact ⟨(hwithin row rfl).bounded, fun _ => hleft⟩
  | @recovered row now hcall hlost =>
    obtain rfl := Option.some.inj hmem
    exact ⟨(hwithin row rfl).bounded, fun _ => hkeeps now hcall row rfl hlost⟩

end DeliveryStep

namespace Outbox

variable {s : Outbox π}

variable {key : OutboxKey} {row : OutboxRow π} {c : OutboxCall π}

theorem held_eq_some {workerId : Text} :
    s.held key workerId = some row ↔ s.rows.get? key = some row ∧ row.HeldBy workerId := by
  rw [held, Option.filter_eq_some_iff, decide_eq_true_iff]

/-- A row that a claim takes is there and waits. -/
theorem mem_candidates {limit now : ℤ} {p : OutboxKey × OutboxRow π}
    (h : p ∈ s.candidates limit now) : s.rows.get? p.1 = some p.2 ∧ p.2.Claimable now := by
  have hsorted := List.mem_of_mem_take h
  rw [List.mem_insertionSort, List.mem_filter] at hsorted
  exact ⟨Dict.mem_items_iff.mp hsorted.1, of_decide_eq_true hsorted.2⟩

theorem deliveryStep_set (hstep : DeliveryStep c (s.rows.get? key) (some row)) (k : OutboxKey) :
    DeliveryStep c (s.rows.get? k) ((s.rows.set key row).get? k) := by
  rw [Dict.get?_set]
  split
  · rename_i heq
    exact heq ▸ hstep
  · exact .same _

/-- Rows are rewritten in place. -/
theorem deliveryStep_mapValues {f : OutboxKey → OutboxRow π → OutboxRow π}
    (hstep : ∀ k row, s.rows.get? k = some row → DeliveryStep c (some row) (some (f k row)))
    (k : OutboxKey) : DeliveryStep c (s.rows.get? k) ((s.rows.mapValues f).get? k) := by
  rw [Dict.get?_mapValues]
  rcases hget : s.rows.get? k with _ | row
  · exact .same none
  · exact hstep k row hget

theorem deliveryStep_call (c : OutboxCall π) (key : OutboxKey) :
    DeliveryStep c (s.rows.get? key) ((s.call sha256 c).2.rows.get? key) := by
  cases c with
  | enqueueNotification n now =>
    simp only [call]
    split
    · rename_i isNew after hcall
      obtain ⟨digest, -, hcall⟩ := Py.of_bind hcall
      split at hcall
      · rename_i hnew
        obtain ⟨-, rfl⟩ := Prod.mk.inj (Except.ok.inj hcall)
        refine deliveryStep_set ?_ key
        rw [hnew]
        exact .new n digest now
      · obtain ⟨-, hcall⟩ := of_require hcall
        obtain ⟨-, rfl⟩ := Prod.mk.inj (Except.ok.inj hcall)
        exact .same _
    · exact .same _
  | claimOutbox workerId limit leaseSeconds now =>
    simp only [call]
    split
    · rename_i taken after hcall
      obtain ⟨-, hcall⟩ := of_require hcall
      obtain ⟨-, rfl⟩ := Prod.mk.inj (Except.ok.inj hcall)
      refine deliveryStep_mapValues (fun k row hget => ?_) key
      split
      · rename_i hmem
        obtain ⟨p, hp, rfl⟩ := List.mem_map.mp hmem
        obtain ⟨hthere, hclaimable⟩ := mem_candidates hp
        obtain rfl : p.2 = row := Option.some.inj (hthere.symm.trans hget)
        exact .claimed _ _ _ hclaimable.1
      · exact .same _
    · exact .same _
  | markDelivered k workerId now =>
    simp only [call, markDelivered]
    split
    · exact .same _
    · rename_i row hheld
      obtain ⟨hrow, hholds⟩ := held_eq_some.mp hheld
      exact deliveryStep_set (hrow ▸ .delivered now hholds.1) key
  | markFailed k workerId error backoffSeconds now =>
    simp only [call]
    split
    · rename_i verdict after hcall
      obtain ⟨-, hcall⟩ := of_require hcall
      split at hcall
      · obtain ⟨-, rfl⟩ := Prod.mk.inj (Except.ok.inj hcall)
        exact .same _
      · rename_i row hheld
        obtain ⟨hrow, hholds⟩ := held_eq_some.mp hheld
        dsimp only at hcall
        split at hcall
        · obtain ⟨-, rfl⟩ := Prod.mk.inj (Except.ok.inj hcall)
          exact deliveryStep_set (hrow ▸ .dead _ hholds.1) key
        · rename_i hleft
          obtain ⟨-, rfl⟩ := Prod.mk.inj (Except.ok.inj hcall)
          exact deliveryStep_set (hrow ▸ .retried _ _ hholds.1 hleft) key
    · exact .same _
  | recoverExpired now =>
    refine deliveryStep_mapValues (fun k row hget => ?_) key
    split
    · rename_i hlost
      exact .recovered now rfl hlost
    · exact .same _

/-- A claim hands out rows that wait. -/
theorem waits_of_taken (c : OutboxCall π) {record : OutboxRecord π}
    (h : record ∈ (s.call sha256 c).1.taken) :
    ∃ row, s.rows.get? record.outboxId = some row ∧ row.Waits := by
  cases c with
  | claimOutbox workerId limit leaseSeconds now =>
    simp only [call] at h
    split at h
    · rename_i taken after hcall
      obtain ⟨-, hcall⟩ := of_require hcall
      obtain ⟨rfl, -⟩ := Prod.mk.inj (Except.ok.inj hcall)
      obtain ⟨p, hp, rfl⟩ := List.mem_map.mp h
      obtain ⟨hthere, hclaimable⟩ := mem_candidates hp
      exact ⟨p.2, hthere, hclaimable.1⟩
    · cases h
  | enqueueNotification n now =>
    simp only [call] at h
    split at h <;> cases h
  | markDelivered k workerId now => cases h
  | markFailed k workerId error backoffSeconds now =>
    simp only [call] at h
    split at h <;> cases h
  | recoverExpired now => cases h

/-- **A settled row** stays as it is and is never handed out, whatever is called. -/
theorem settled_run (calls : List (OutboxCall π))
    (hget : s.rows.get? key = some row) (hsettled : row.Settled) :
    ((machine sha256).exec s calls).rows.get? key = some row
      ∧ ∀ event ∈ (machine sha256).trace s calls,
          ∀ record ∈ event.2.2.taken, record.outboxId ≠ key := by
  induction calls generalizing s with
  | nil => exact ⟨hget, fun event hevent => by cases hevent⟩
  | cons c calls ih =>
    have hstep : DeliveryStep c (s.rows.get? key) (((machine sha256).next s c).rows.get? key) :=
      deliveryStep_call c key
    rw [hget] at hstep
    obtain ⟨hrow, hrest⟩ := ih (s := (machine sha256).next s c) (hstep.of_settled hsettled)
    refine ⟨hrow, fun event hevent record hrecord heq => ?_⟩
    rcases List.mem_cons.mp hevent with rfl | hlater
    · obtain ⟨found, hfound, hwaits⟩ := waits_of_taken c hrecord
      rw [heq, hget] at hfound
      obtain rfl := Option.some.inj hfound
      rcases hstate : row.deliveryState <;>
        simp [OutboxRow.Settled, OutboxRow.Waits, hstate] at hsettled hwaits
    · exact hrest event hlater record hrecord heq

/-- **A failure** that is reported on the last attempt makes the row dead. -/
theorem markFailed_exhausted {workerId error : Text}
    (hget : s.rows.get? key = some row) (hheld : row.HeldBy workerId) (hexhausted : row.Exhausted)
    (herror : error.strip ≠ []) (backoffSeconds now : ℤ) :
    ∃ after, s.markFailed key workerId error backoffSeconds now = .ok (.DEAD, after)
      ∧ ∃ row', after.rows.get? key = some row' ∧ row'.deliveryState = .DEAD := by
  have hsome := held_eq_some.mpr ⟨hget, hheld⟩
  rw [markFailed, require_of_pos herror, Py.ok_bind]
  simp only [hsome, if_pos hexhausted]
  exact ⟨_, rfl, _, Dict.get?_set_self _ _ _, rfl⟩

/-- What the outbox promises of a state and of all that may follow. -/
structure Safe (sha256 : OutboundNotification π → Py Text) (s : Outbox π) : Prop where
  /-- no row has more attempts than its limit -/
  bounded : ∀ key row, s.rows.get? key = some row → row.deliveryAttempts ≤ row.maxAttempts
  /-- a row without an attempt left does not wait for one -/
  exhausted : ∀ key row, s.rows.get? key = some row → row.Exhausted → ¬ row.Waits
  /-- and is dead when its failure is reported -/
  reported : ∀ key row workerId error backoffSeconds now, s.rows.get? key = some row →
    row.HeldBy workerId → row.Exhausted → error.strip ≠ [] →
    ∃ after, s.markFailed key workerId error backoffSeconds now = .ok (.DEAD, after)
      ∧ ∃ row', after.rows.get? key = some row' ∧ row'.deliveryState = .DEAD
  /-- a row that is delivered or dead stays as it is, and is never claimed again -/
  settled : ∀ key row, s.rows.get? key = some row → row.Settled → ∀ calls,
    ((machine sha256).exec s calls).rows.get? key = some row
      ∧ ∀ event ∈ (machine sha256).trace s calls,
          ∀ record ∈ event.2.2.taken, record.outboxId ≠ key

/-- **A run** in which no recovery finds the lost lease of a last attempt keeps every row within its
attempts. -/
theorem within_exec {calls : List (OutboxCall π)}
    (h : (machine sha256).Meets (fun s c => ¬ c.LosesLastAttempt s) {} calls) :
    ∀ key, ∀ row ∈ ((machine sha256).exec {} calls).rows.get? key, row.WithinAttempts := by
  refine (machine sha256).exec_invariant_of_meets
    (I := fun s => ∀ key, ∀ row ∈ s.rows.get? key, row.WithinAttempts)
    (fun s c hkeeps hwithin key => ?_) h (fun key row hmem => by cases hmem)
  have hstep : DeliveryStep c (s.rows.get? key) (((machine sha256).next s c).rows.get? key) :=
    deliveryStep_call c key
  refine hstep.within (hwithin key) ?_
  rintro now rfl row hrow hlost hexhausted
  exact hkeeps ⟨key, row, hrow, hlost, hexhausted⟩

theorem safe_of_within (h : ∀ key, ∀ row ∈ s.rows.get? key, row.WithinAttempts) :
    Safe sha256 s where
  bounded key row hget := (h key row hget).bounded
  exhausted key row hget hexhausted hwaits := (h key row hget).waits hwaits hexhausted
  reported _ _ _ _ backoffSeconds now hget hheld hexhausted herror :=
    markFailed_exhausted hget hheld hexhausted herror backoffSeconds now
  settled _ _ hget hsettled calls := settled_run calls hget hsettled

/-- A recovery that finds the lost lease of a last attempt lets the row wait for another. -/
theorem not_safe_of_losesLastAttempt (h : c.LosesLastAttempt s) :
    ¬ Safe sha256 ((machine sha256).next s c) := by
  cases c with
  | recoverExpired now =>
    obtain ⟨key, row, hget, hlost, hexhausted⟩ := h
    intro hsafe
    have hafter : ((machine sha256).next s (.recoverExpired now)).rows.get? key
        = some (row.released .RETRY) := by
      show (s.recoverExpired now).2.rows.get? key = _
      simp only [recoverExpired]
      rw [Dict.get?_mapValues, hget, Option.map_some, if_pos hlost]
    exact hsafe.exhausted key _ hafter hexhausted (by simp [OutboxRow.Waits, OutboxRow.released])
  | enqueueNotification => exact h.elim
  | claimOutbox => exact h.elim
  | markDelivered => exact h.elim
  | markFailed => exact h.elim

/-- **Every state that a run reaches is safe exactly if no recovery of the run finds the lost lease
of a last attempt.** -/
theorem safe_iff (sha256 : OutboundNotification π → Py Text) (calls : List (OutboxCall π)) :
    (∀ past rest, calls = past ++ rest → Safe sha256 ((machine sha256).exec {} past))
      ↔ (machine sha256).Meets (fun s c => ¬ c.LosesLastAttempt s) {} calls := by
  constructor
  · intro h
    induction calls using List.reverseRecOn with
    | nil => trivial
    | append_singleton calls c ih =>
      rw [Machine.meets_append]
      refine ⟨ih fun past rest hpast => h past (rest ++ [c]) (by rw [hpast, List.append_assoc]),
        fun hloses => ?_, trivial⟩
      have hsafe := h (calls ++ [c]) [] (List.append_nil _).symm
      rw [Machine.exec_concat] at hsafe
      exact not_safe_of_losesLastAttempt hloses hsafe
  · rintro h past rest rfl
    exact safe_of_within (within_exec ((machine sha256).meets_append.mp h).1)

/-- A notification. -/
def sampleNotification : OutboundNotification Unit where
  channel := "feishu"
  conversationId := "chat"
  severity := .RISK
  text := "drawdown"
  idempotencyKey := "key"
  required := by decide

/-- A worker claims the row and is lost, and its lease is recovered. -/
def lostAttempt (now : ℤ) : List (OutboxCall Unit) :=
  [.claimOutbox "worker" 1 1 (now * microsPerSecond), .recoverExpired ((now + 1) * microsPerSecond)]

/-- Nine workers in turn claim the row; the first eight are lost. -/
def nineClaims : List (OutboxCall Unit) :=
  .enqueueNotification sampleNotification 0
    :: ((List.range 8).flatMap (fun n => lostAttempt (2 * n))
      ++ [.claimOutbox "worker" 1 1 (16 * microsPerSecond)])

/-- Not every run bounds the attempts: a row of eight is attempted a ninth time. -/
theorem attempted_nine_times : ¬ ∀ calls : List (OutboxCall Unit),
    Safe (fun _ => .ok "") ((machine (fun _ => .ok "")).exec {} calls) := by
  intro h
  have hrow : (((machine (fun _ => .ok "")).exec {} nineClaims).rows.get?
      ("channel:feishu", "key")).map (fun row => (row.deliveryAttempts, row.maxAttempts))
      = some (9, 8) := by
    decide +kernel
  obtain ⟨row, hget, hcounts⟩ := Option.map_eq_some_iff.mp hrow
  have hbounded := (h nineClaims).bounded _ row hget
  obtain ⟨hattempts, hmax⟩ := Prod.mk.inj hcounts
  omega

end Outbox

end FuturesAgentOs
