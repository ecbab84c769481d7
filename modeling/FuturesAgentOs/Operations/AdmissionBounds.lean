import FuturesAgentOs.Operations.CapacityController
import Mathlib.Algebra.Order.BigOperators.Group.List

namespace FuturesAgentOs

open PyModel

/-!
# What the controller lets in

The invariant of a `CapacityController` and of the history of its calls, whatever the times are: a
call whose time is before the last one of its workload raises.

* `capacity_holds` — the bounds after every run;
* `retryAfter_iff` — when work that waited for `retry_after_ms` is let in.
-/

namespace Bucket

/-- The bucket of the library, in seconds. -/
def toTokenBucket (bucket : Bucket) : TokenBucket ℚ := ⟨bucket.tokens, bucket.lastSeenMs / 1000⟩

/-- The source's refill is the library's. -/
theorem toTokenBucket_refill (bucket : Bucket) (limit : CapacityLimit) (nowMs : ℤ) :
    (bucket.refill limit nowMs).toTokenBucket
      = bucket.toTokenBucket.refill limit.fields.burst limit.fields.ratePerSecond
          (nowMs / 1000) := by
  have hgain : bucket.elapsed nowMs * limit.fields.ratePerSecond
      = limit.fields.ratePerSecond * (nowMs / 1000 - bucket.lastSeenMs / 1000) := by
    rw [elapsed]
    push_cast
    ring
  rw [toTokenBucket, refill, hgain]
  rfl

end Bucket

theorem CapacityLimit.positive (limit : CapacityLimit) :
    0 < limit.fields.ratePerSecond ∧ 1 ≤ limit.fields.burst := by
  have hvalid := limit.valid
  simp only [postInit, checkNonNegative, check_bind_eq_ok, require_eq_ok] at hvalid
  obtain ⟨-, hrate, -, hne, hburst⟩ := hvalid
  exact ⟨lt_of_le_of_ne hrate (Ne.symm hne), hburst⟩

/-! ### The limits of a profile -/

theorem WorkloadClass.mem_members (w : WorkloadClass) : w ∈ members := by
  rcases w <;> decide

theorem CapacityProfile.nodup_workloads (profile : CapacityProfile) :
    (profile.fields.limits.map (fun limit => limit.fields.workload)).Nodup
      ∧ ∀ w, w ∈ profile.fields.limits.map (fun limit => limit.fields.workload) := by
  have hvalid := profile.valid
  simp only [postInit, check_bind_eq_ok, require_eq_ok] at hvalid
  obtain ⟨-, -, hlength, hmem⟩ := hvalid
  have hsubperm := List.subperm_of_subset (by decide : WorkloadClass.members.Nodup) hmem
  have hperm := hsubperm.perm_of_length_le (by rw [List.length_map, hlength])
  exact ⟨hperm.nodup_iff.mp (by decide), fun w => hmem w w.mem_members⟩

theorem CapacityProfile.reserve_lt (profile : CapacityProfile) :
    profile.fields.reservedCriticalSlots < profile.fields.totalInFlight := by
  have hvalid := profile.valid
  simp only [postInit, check_bind_eq_ok, require_eq_ok] at hvalid
  exact hvalid.2.1.2.2

theorem CapacityController.get?_limitsOf {profile : CapacityProfile} {limit : CapacityLimit}
    (h : limit ∈ profile.fields.limits) :
    (limitsOf profile).get? limit.fields.workload = some limit := by
  refine Dict.get?_update_of_mem .empty (p := (limit.fields.workload, limit)) ?_
    (List.mem_map_of_mem h)
  rw [List.map_map]
  exact profile.nodup_workloads.1

/-! ### Counting the work in flight -/

section

variable {f : WorkloadClass → ℕ} {w : WorkloadClass} {n : ℕ}

/-- One count is replaced. -/
theorem sum_update (l : List WorkloadClass) (hnodup : l.Nodup) (hmem : w ∈ l) :
    (l.map (Function.update f w n)).sum + f w = (l.map f).sum + n := by
  induction l with
  | nil => cases hmem
  | cons v l ih =>
    rw [List.nodup_cons] at hnodup
    rw [List.map_cons, List.map_cons, List.sum_cons, List.sum_cons]
    rcases List.mem_cons.mp hmem with rfl | hrest
    · have hsame : l.map (Function.update f w n) = l.map f :=
        List.map_congr_left fun v hv =>
          Function.update_of_ne (fun heq : v = w => hnodup.1 (heq ▸ hv)) _ _
      rw [hsame, Function.update_self]
      omega
    · have hne : v ≠ w := fun heq => hnodup.1 (heq ▸ hrest)
      have ih := ih hnodup.2 hrest
      rw [Function.update_of_ne hne]
      omega

theorem sum_update_of_not_mem (l : List WorkloadClass) (hmem : w ∉ l) :
    (l.map (Function.update f w n)).sum = (l.map f).sum := by
  congr 1
  exact List.map_congr_left fun v hv =>
    Function.update_of_ne (fun heq : v = w => hmem (heq ▸ hv)) _ _

end

namespace CapacityController

variable {c : CapacityController} {history : List Event}

variable {w : WorkloadClass} {cost : ℚ} {nowMs : ℤ} {bucket : Bucket} {limit : CapacityLimit}

theorem mem_nonReserved :
    w ∈ WorkloadClass.members.filter (fun w => ¬ w.IsReserved) ↔ ¬ w.IsReserved := by
  rw [List.mem_filter, decide_eq_true_iff]
  exact and_iff_right w.mem_members

theorem nonCritical_le_total (c : CapacityController) : c.nonCritical ≤ c.total :=
  List.Sublist.sum_le_sum (List.filter_sublist.map c.inFlight) fun _ _ => Nat.zero_le _

/-- The invariant of a controller, after a history. -/
structure Holds (c : CapacityController) (history : List Event) : Prop where
  /-- in-flight work in all -/
  total : c.total ≤ c.profile.fields.totalInFlight
  /-- in-flight work outside the reserve -/
  nonCritical : c.nonCritical ≤ c.backgroundCeiling
  /-- in-flight work of a workload -/
  workload : ∀ w limit, c.limits.get? w = some limit → c.inFlight w ≤ limit.fields.maxInFlight
  /-- the bucket of a workload -/
  bucket : ∀ w limit, c.limits.get? w = some limit → ∃ bucket, c.buckets.get? w = some bucket
    ∧ bucket.toTokenBucket.Conforms limit.fields.burst limit.fields.ratePerSecond
        (admitted w history)

theorem holds_new (profile : CapacityProfile) : (new profile).Holds [] where
  total := Nat.zero_le _
  nonCritical := Nat.zero_le _
  workload _ _ _ := Nat.zero_le _
  bucket w limit hget := by
    obtain ⟨hrate, hburst⟩ := CapacityLimit.positive limit
    refine ⟨⟨limit.fields.burst, 0⟩, ?_, ?_⟩
    · refine Dict.get?_update_of_mem .empty (p := (w, (⟨limit.fields.burst, 0⟩ : Bucket))) ?_
        (List.mem_map.mpr ⟨(w, limit), Dict.mem_items_iff.mpr hget, rfl⟩)
      rw [List.map_map]
      exact (limitsOf profile).nodup
    · exact TokenBucket.conforms_full (by linarith) hrate.le _

/-! ### What admit does -/

theorem fields_of_outcome {decision : AdmissionDecision} {reasonCode : Text}
    {retryAfterMs : Option ℤ} {result : AdmissionOutcome}
    (h : outcome decision reasonCode w retryAfterMs = .ok result) :
    result.fields = { decision, reasonCode, workload := w, retryAfterMs } :=
  Frozen.make_eq_ok.mp h

/-- An admission does not raise. -/
theorem exists_outcome_admit (w : WorkloadClass) :
    ∃ result, outcome .ADMIT "CAPACITY_AVAILABLE" w none = .ok result := by
  refine Frozen.exists_make_iff.mpr ?_
  simp only [postInit, check_bind_eq_ok, require_eq_ok]
  exact ⟨by decide, by simp, by simp⟩

/-- A call that answers without an admission. -/
def Declines (answer : Py AdmissionOutcome) : Prop :=
  ∀ result, answer = .ok result → result.fields.decision ≠ .ADMIT

theorem declines_outcome (decision : AdmissionDecision) (h : decision ≠ .ADMIT)
    (reasonCode : Text) (w : WorkloadClass) (retryAfterMs : Option ℤ) :
    Declines (outcome decision reasonCode w retryAfterMs) :=
  fun _ hresult => (fields_of_outcome hresult).symm ▸ h

theorem declined (decision : AdmissionDecision) (h : decision ≠ .ADMIT) (reasonCode : Text)
    (w : WorkloadClass) (retryAfterMs : Option ℤ) :
    (outcome decision reasonCode w retryAfterMs, c).2 = c
      ∧ Declines (outcome decision reasonCode w retryAfterMs, c).1 :=
  ⟨rfl, declines_outcome decision h reasonCode w retryAfterMs⟩

theorem declines_error (e : PyException) : Declines (.error e) := by
  intro result hresult
  cases hresult

/-- The checks that `admit` passes before it looks at the bucket. -/
structure Admissible (c : CapacityController) (w : WorkloadClass) (limit : CapacityLimit)
    (bucket : Bucket) (nowMs : ℤ) (cost : ℚ) : Prop where
  hasLimit : c.limits.get? w = some limit
  hasBucket : c.buckets.get? w = some bucket
  positive : 0 < cost
  later : bucket.lastSeenMs ≤ nowMs
  reserve : ¬ w.IsReserved → c.total < c.backgroundCeiling
  total : c.total < c.profile.fields.totalInFlight
  workload : c.inFlight w < limit.fields.maxInFlight

/-- **`admit`** leaves the controller, or refills the bucket, or admits. -/
theorem admit_cases (c : CapacityController) (w : WorkloadClass) (nowMs : ℤ) (cost : ℚ) :
    ((c.admitWork w nowMs cost).2 = c ∧ Declines (c.admitWork w nowMs cost).1)
      ∨ ∃ limit bucket, c.Admissible w limit bucket nowMs cost
        ∧ (((c.admitWork w nowMs cost).2
              = { c with buckets := c.buckets.set w (bucket.refill limit nowMs) }
            ∧ Declines (c.admitWork w nowMs cost).1)
          ∨ cost ≤ (bucket.refill limit nowMs).tokens
            ∧ (∃ result, (c.admitWork w nowMs cost).1 = .ok result ∧ result.fields.decision = .ADMIT)
            ∧ (c.admitWork w nowMs cost).2
              = { c with
                  buckets := c.buckets.set w { bucket.refill limit nowMs with
                    tokens := (bucket.refill limit nowMs).tokens - cost }
                  inFlight := Function.update c.inFlight w (c.inFlight w + 1) }) := by
  unfold admitWork
  split
  · exact .inl ⟨rfl, declines_error _⟩
  split
  · exact .inl ⟨rfl, declines_error _⟩
  split
  · exact .inl ⟨rfl, declines_error _⟩
  rename_i hnegative hzero
  split
  · rename_i limit bucket hlimit hbucket
    split
    · exact .inl (declined .SHED (by decide) _ _ _)
    split
    · exact .inl (declined .DEFER (by decide) _ _ _)
    split
    · exact .inl (declined .DEFER (by decide) _ _ _)
    rename_i hreserve hfull
    unfold admitFrom
    split
    · exact .inl ⟨rfl, declines_error _⟩
    rename_i hlater
    rw [not_or, not_le, not_le] at hfull
    refine .inr ⟨limit, bucket, ⟨hlimit, hbucket, ?_, not_lt.mp hlater, fun hnot => ?_, hfull.1,
      hfull.2⟩, ?_⟩
    · exact lt_of_le_of_ne (not_lt.mp hnegative) (Ne.symm hzero)
    · exact not_le.mp fun hceiling => hreserve ⟨hnot, hceiling⟩
    · dsimp only
      split
      · exact .inl ⟨rfl, declines_outcome .DEFER (by decide) _ _ _⟩
      · rename_i hholds
        obtain ⟨result, hresult⟩ := exists_outcome_admit w
        exact .inr ⟨not_lt.mp hholds, ⟨result, hresult, fields_of_outcome hresult ▸ rfl⟩, rfl⟩
  · exact .inl ⟨rfl, declines_error _⟩

/-! ### The invariant -/

theorem admitted_concat (w : WorkloadClass) (history : List Event) (event : Event) :
    admitted w (history ++ [event]) = admitted w history ++ admission w event := by
  simp [admitted]

theorem admission_eq_nil {v : WorkloadClass} {answer : Py AdmissionOutcome} (h : Declines answer) :
    admission v (c, .admitWork w nowMs cost, .outcome answer) = [] := by
  rcases answer with e | result
  · rfl
  · exact if_neg fun hadmitted => h result rfl hadmitted.2

theorem admission_of_admitted {v : WorkloadClass}
    {result : AdmissionOutcome} (h : result.fields.decision = .ADMIT) :
    admission v (c, .admitWork w nowMs cost, .outcome (.ok result))
      = if w = v then [((nowMs : ℚ) / 1000, cost)] else [] := by
  simp [admission, h]

theorem Holds.append (h : c.Holds history) {event : Event} (hnone : ∀ w, admission w event = []) :
    c.Holds (history ++ [event]) := by
  refine ⟨h.total, h.nonCritical, h.workload, fun w limit hget => ?_⟩
  rw [admitted_concat, hnone, List.append_nil]
  exact h.bucket w limit hget

theorem Holds.bucket_set (h : c.Holds history) {event : Event} (hlimit : c.limits.get? w = some limit)
    (hother : ∀ v, v ≠ w → admission v event = [])
    (hconforms : bucket.toTokenBucket.Conforms limit.fields.burst limit.fields.ratePerSecond
      (admitted w history ++ admission w event)) : ∀ v vlimit, c.limits.get? v = some vlimit →
      ∃ found, (c.buckets.set w bucket).get? v = some found
      ∧ found.toTokenBucket.Conforms vlimit.fields.burst vlimit.fields.ratePerSecond
          (admitted v (history ++ [event])) := by
  intro v vlimit hget
  rw [Dict.get?_set, admitted_concat]
  split
  · rename_i heq
    subst heq
    obtain rfl : limit = vlimit := Option.some.inj (hlimit.symm.trans hget)
    exact ⟨bucket, rfl, hconforms⟩
  · rename_i hne
    rw [hother v hne, List.append_nil]
    exact h.bucket v vlimit hget

theorem Holds.refilled (h : c.Holds history)
    (hadmissible : c.Admissible w limit bucket nowMs cost) :
    (bucket.refill limit nowMs).toTokenBucket.Conforms limit.fields.burst
      limit.fields.ratePerSecond (admitted w history) := by
  obtain ⟨found, hfound, hconforms⟩ := h.bucket w limit hadmissible.hasLimit
  obtain rfl : bucket = found := Option.some.inj (hadmissible.hasBucket.symm.trans hfound)
  rw [Bucket.toTokenBucket_refill]
  refine hconforms.refill (CapacityLimit.positive limit).1.le ?_
  have hlater : (bucket.lastSeenMs : ℚ) ≤ nowMs := by exact_mod_cast hadmissible.later
  exact div_le_div_of_nonneg_right hlater (by norm_num)

/-- **An admission** keeps the counts within their bounds. -/
theorem Holds.counts (h : c.Holds history) (hadmissible : c.Admissible w limit bucket nowMs cost) :
    ((WorkloadClass.members.map (Function.update c.inFlight w (c.inFlight w + 1))).sum
        ≤ c.profile.fields.totalInFlight)
      ∧ ((WorkloadClass.members.filter (fun w => ¬ w.IsReserved)).map
          (Function.update c.inFlight w (c.inFlight w + 1))).sum ≤ c.backgroundCeiling
      ∧ ∀ v vlimit, c.limits.get? v = some vlimit →
          Function.update c.inFlight w (c.inFlight w + 1) v ≤ vlimit.fields.maxInFlight := by
  refine ⟨?_, ?_, fun v vlimit hget => ?_⟩
  · have hsum := sum_update (f := c.inFlight) (n := c.inFlight w + 1) WorkloadClass.members
      (by decide) w.mem_members
    have hroom := hadmissible.total
    rw [CapacityController.total] at hroom
    omega
  · by_cases hreserved : w.IsReserved
    · rw [sum_update_of_not_mem _ fun hmem => mem_nonReserved.mp hmem hreserved]
      exact h.nonCritical
    · have hsum := sum_update (f := c.inFlight) (n := c.inFlight w + 1)
        (WorkloadClass.members.filter (fun w => ¬ w.IsReserved)) (by decide)
        (mem_nonReserved.mpr hreserved)
      have hroom := hadmissible.reserve hreserved
      have hpart := c.nonCritical_le_total
      rw [CapacityController.nonCritical] at hpart
      omega
  · by_cases heq : v = w
    · subst heq
      obtain rfl : limit = vlimit := Option.some.inj (hadmissible.hasLimit.symm.trans hget)
      rw [Function.update_self]
      exact hadmissible.workload
    · rw [Function.update_of_ne heq]
      exact h.workload v vlimit hget

/-- **`admit`** keeps the invariant. -/
theorem Holds.admitWork (h : c.Holds history) (w : WorkloadClass) (nowMs : ℤ) (cost : ℚ) :
    (c.admitWork w nowMs cost).2.Holds
      (history ++ [(c, .admitWork w nowMs cost, .outcome (c.admitWork w nowMs cost).1)]) := by
  rcases c.admit_cases w nowMs cost with ⟨hsame, hdeclines⟩
    | ⟨limit, bucket, hadmissible,
        ⟨hafter, hdeclines⟩ | ⟨hholds, ⟨result, hresult, hadmitted⟩, hafter⟩⟩
  · rw [hsame]
    exact h.append fun v => admission_eq_nil hdeclines
  · rw [hafter]
    refine ⟨h.total, h.nonCritical, h.workload, ?_⟩
    refine h.bucket_set hadmissible.hasLimit (fun v _ => admission_eq_nil hdeclines) ?_
    rw [admission_eq_nil hdeclines, List.append_nil]
    exact h.refilled hadmissible
  · rw [hafter, hresult]
    obtain ⟨htotal, hnonCritical, hworkload⟩ := h.counts hadmissible
    refine ⟨htotal, hnonCritical, hworkload, ?_⟩
    refine h.bucket_set hadmissible.hasLimit
      (fun v hne => by rw [admission_of_admitted hadmitted, if_neg (Ne.symm hne)]) ?_
    rw [admission_of_admitted hadmitted, if_pos rfl]
    exact (h.refilled hadmissible).spend (CapacityLimit.positive limit).1.le
      hadmissible.positive.le hholds

/-- **`complete`** keeps the invariant. -/
theorem Holds.complete (h : c.Holds history) (w : WorkloadClass) :
    (c.complete w).2.Holds (history ++ [(c, .complete w, .done (c.complete w).1)]) := by
  refine Holds.append ?_ fun v => rfl
  unfold CapacityController.complete
  split
  · exact h
  · have hle : ∀ v, Function.update c.inFlight w (c.inFlight w - 1) v ≤ c.inFlight v := by
      intro v
      by_cases heq : v = w
      · subst heq
        rw [Function.update_self]
        exact Nat.sub_le _ _
      · rw [Function.update_of_ne heq]
    refine ⟨?_, ?_, fun v limit hget => (hle v).trans (h.workload v limit hget), h.bucket⟩
    · exact (List.sum_le_sum fun v _ => hle v).trans h.total
    · exact (List.sum_le_sum fun v _ => hle v).trans h.nonCritical

/-- **Every call** keeps the invariant. -/
theorem holds_next (history : List Event) (c : CapacityController) (k : CapacityCall)
    (h : c.Holds history) :
    (machine.next c k).Holds (history ++ [(c, k, machine.out c k)]) := by
  cases k with
  | setBacklog w count =>
    refine Holds.append ?_ fun v => rfl
    show (c.setBacklog w count).2.Holds history
    unfold setBacklog
    split
    · exact h
    · exact ⟨h.total, h.nonCritical, h.workload, h.bucket⟩
  | admitWork w nowMs cost => exact h.admitWork w nowMs cost
  | complete w => exact h.complete w

/-- What a call never changes. -/
theorem next_profile (c : CapacityController) (k : CapacityCall) :
    (machine.next c k).profile = c.profile ∧ (machine.next c k).limits = c.limits := by
  cases k with
  | setBacklog w count =>
    show (c.setBacklog w count).2.profile = _ ∧ (c.setBacklog w count).2.limits = _
    unfold setBacklog
    split <;> exact ⟨rfl, rfl⟩
  | admitWork w nowMs cost =>
    show (c.admitWork w nowMs cost).2.profile = _ ∧ (c.admitWork w nowMs cost).2.limits = _
    rcases c.admit_cases w nowMs cost with ⟨hsame, -⟩
      | ⟨limit, bucket, -, ⟨hafter, -⟩ | ⟨-, -, hafter⟩⟩
    · rw [hsame]
      exact ⟨rfl, rfl⟩
    · rw [hafter]
      exact ⟨rfl, rfl⟩
    · rw [hafter]
      exact ⟨rfl, rfl⟩
  | complete w =>
    show (c.complete w).2.profile = _ ∧ (c.complete w).2.limits = _
    unfold complete
    split <;> exact ⟨rfl, rfl⟩

theorem exec_profile (profile : CapacityProfile) (calls : List CapacityCall) :
    (machine.exec (new profile) calls).profile = profile
      ∧ (machine.exec (new profile) calls).limits = limitsOf profile := by
  refine machine.exec_invariant (I := fun c => c.profile = profile ∧ c.limits = limitsOf profile)
    (fun c k h => ?_) ⟨rfl, rfl⟩ calls
  obtain ⟨hprofile, hlimits⟩ := c.next_profile k
  exact ⟨hprofile.trans h.1, hlimits.trans h.2⟩

/-- **After every run** the work in flight is within the total, the work that is not critical within
the total less the reserve, and every workload, which has a limit, within its own: in flight, in its
bucket, and by the cost admitted in every window of time (in seconds). -/
theorem capacity_holds (profile : CapacityProfile) (calls : List CapacityCall) :
    (machine.exec (new profile) calls).total ≤ profile.fields.totalInFlight
      ∧ (machine.exec (new profile) calls).nonCritical + profile.fields.reservedCriticalSlots
          ≤ profile.fields.totalInFlight
      ∧ (∀ w, ∃ limit ∈ profile.fields.limits, limit.fields.workload = w)
      ∧ ∀ limit ∈ profile.fields.limits,
          (machine.exec (new profile) calls).inFlight limit.fields.workload
              ≤ limit.fields.maxInFlight
            ∧ (∃ bucket, (machine.exec (new profile) calls).buckets.get? limit.fields.workload
                = some bucket ∧ 0 ≤ bucket.tokens ∧ bucket.tokens ≤ limit.fields.burst)
            ∧ ∀ a z, a ≤ z →
                costIn (admitted limit.fields.workload (machine.trace (new profile) calls)) a z
                  ≤ limit.fields.burst + limit.fields.ratePerSecond * (z - a) := by
  obtain ⟨hprofile, hlimits⟩ := exec_profile profile calls
  have h := machine.trace_invariant holds_next (holds_new profile) calls
  refine ⟨?_, ?_, fun w => ?_, fun limit hmem => ?_⟩
  · have htotal := h.total
    rw [hprofile] at htotal
    exact htotal
  · have hceiling := h.nonCritical
    rw [backgroundCeiling, hprofile] at hceiling
    have hreserve := profile.reserve_lt
    omega
  · exact List.mem_map.mp (profile.nodup_workloads.2 w)
  · have hget :
        (machine.exec (new profile) calls).limits.get? limit.fields.workload = some limit := by
      rw [hlimits]
      exact get?_limitsOf hmem
    obtain ⟨bucket, hbucket, hconforms⟩ := h.bucket _ limit hget
    exact ⟨h.workload _ limit hget, ⟨bucket, hbucket, hconforms.nonneg, hconforms.le_burst⟩,
      hconforms.window⟩

/-! ### Trying again -/

end CapacityController

namespace Bucket

variable {bucket : Bucket} {limit : CapacityLimit} {cost : ℚ}

variable (bucket limit cost) in
/-- The bucket holds the cost after that many milliseconds, if it can hold it at all. -/
theorem le_refill_iff {wait : ℤ} (hwait : 1 ≤ wait) :
    cost ≤ (bucket.refill limit (bucket.lastSeenMs + wait)).tokens
      ↔ cost ≤ limit.fields.burst ∧ bucket.retryAfter limit cost ≤ wait := by
  have hrate := limit.positive.1
  have helapsed : bucket.elapsed (bucket.lastSeenMs + wait) = (wait : ℚ) / 1000 := by
    rw [elapsed, add_sub_cancel_left]
  have hgain : cost ≤ bucket.tokens + (wait : ℚ) / 1000 * limit.fields.ratePerSecond
      ↔ (cost - bucket.tokens) * 1000 / limit.fields.ratePerSecond ≤ wait := by
    rw [div_le_iff₀ hrate]
    constructor <;> intro h <;> linarith
  rw [refill, helapsed, le_min_iff, hgain, retryAfter, max_le_iff, Int.ceil_le]
  exact ⟨fun h => ⟨h.1, hwait, h.2⟩, fun h => ⟨h.1, h.2.2⟩⟩

end Bucket

namespace CapacityController

variable {c : CapacityController} {w : WorkloadClass} {limit : CapacityLimit} {bucket : Bucket}
  {nowMs : ℤ} {cost : ℚ}

/-- The checks before the bucket, which does not bear on them. -/
structure Passes (c : CapacityController) (w : WorkloadClass) (limit : CapacityLimit) (cost : ℚ) :
    Prop where
  positive : 0 < cost
  hasLimit : c.limits.get? w = some limit
  backlog : ¬ limit.fields.maxBacklog ≤ c.backlog w
  reserve : ¬ (¬ w.IsReserved ∧ c.backgroundCeiling ≤ c.total)
  concurrency : ¬ (c.profile.fields.totalInFlight ≤ c.total
    ∨ limit.fields.maxInFlight ≤ c.inFlight w)

theorem admitWork_of_passes (h : c.Passes w limit cost) (hbucket : c.buckets.get? w = some bucket)
    (hnow : 0 ≤ nowMs) : c.admitWork w nowMs cost = c.admitFrom w limit bucket nowMs cost := by
  rw [admitWork, if_neg (not_lt.mpr hnow), if_neg (not_lt.mpr h.positive.le),
    if_neg h.positive.ne', h.hasLimit, hbucket]
  simp only [if_neg h.backlog, if_neg h.reserve, if_neg h.concurrency]

/-- **Rate limited.**  The work passed the other checks, and its cost is missing in the bucket. -/
theorem rateLimited {result : AdmissionOutcome} (h : (c.admitWork w nowMs cost).1 = .ok result)
    (hreason : result.fields.reasonCode = "RATE_LIMIT") :
    ∃ (limit : CapacityLimit) (bucket : Bucket), c.Passes w limit cost ∧ 0 ≤ nowMs
      ∧ (bucket.refill limit nowMs).tokens < cost
      ∧ result.fields.retryAfterMs = some ((bucket.refill limit nowMs).retryAfter limit cost)
      ∧ (c.admitWork w nowMs cost).2
        = { c with buckets := c.buckets.set w (bucket.refill limit nowMs) } := by
  -- every other answer has another reason
  have hother : ∀ decision (reasonCode : Text) retryAfterMs, reasonCode ≠ "RATE_LIMIT" →
      outcome decision reasonCode w retryAfterMs ≠ .ok result := by
    intro decision reasonCode retryAfterMs hne hresult
    rw [fields_of_outcome hresult] at hreason
    exact hne hreason
  unfold admitWork at h ⊢
  split at h
  · cases h
  rename_i hnow
  split at h
  · cases h
  rename_i hnegative
  split at h
  · cases h
  rename_i hzero
  have hpositive : 0 < cost := lt_of_le_of_ne (not_lt.mp hnegative) (Ne.symm hzero)
  rw [if_neg hnow, if_neg hnegative, if_neg hzero]
  split at h
  · rename_i limit bucket hlimit hbucket
    split at h
    · exact (hother .SHED "BACKLOG_LIMIT" none (by decide) h).elim
    rename_i hbacklog
    split at h
    · exact (hother .DEFER "CRITICAL_RESERVE" (some 1000) (by decide) h).elim
    rename_i hreserve
    split at h
    · exact (hother .DEFER "CONCURRENCY_LIMIT" (some 100) (by decide) h).elim
    rename_i hfull
    simp only [if_neg hbacklog, if_neg hreserve, if_neg hfull]
    unfold admitFrom at h ⊢
    split at h
    · cases h
    rename_i hlater
    rw [if_neg hlater]
    dsimp only at h ⊢
    split at h
    · rename_i hmissing
      rw [if_pos hmissing]
      exact ⟨limit, bucket, ⟨hpositive, hlimit, hbacklog, hreserve, hfull⟩, not_lt.mp hnow,
        hmissing, fields_of_outcome h ▸ rfl, rfl⟩
    · exact (hother .ADMIT "CAPACITY_AVAILABLE" none (by decide) h).elim
  · cases h

/-- What `retry_after_ms` says: the work is let in after that many milliseconds, and is still
deferred after fewer. -/
structure RetryKept (c : CapacityController) (w : WorkloadClass) (nowMs : ℤ) (cost : ℚ)
    (retry : ℤ) : Prop where
  admitted : ∃ result, (c.admitWork w (nowMs + retry) cost).1 = .ok result
    ∧ result.fields.decision = .ADMIT
  deferred : ∀ wait, 0 < wait → wait < retry →
    ∃ result, (c.admitWork w (nowMs + wait) cost).1 = .ok result ∧ result.fields.decision = .DEFER

/-- A deferral does not raise. -/
theorem exists_outcome_defer (w : WorkloadClass) {retry : ℤ} (h : 1 ≤ retry) :
    ∃ result, outcome .DEFER "RATE_LIMIT" w (some retry) = .ok result := by
  refine Frozen.exists_make_iff.mpr ?_
  simp only [postInit, check_bind_eq_ok, require_eq_ok]
  exact ⟨by decide, by simpa using h, by simp⟩

/-- The answer of a bucket that is looked at again. -/
theorem admitFrom_later (hrefilled : bucket.lastSeenMs = nowMs) {wait : ℤ} (hwait : 1 ≤ wait) :
    ∃ result, (c.admitFrom w limit bucket (nowMs + wait) cost).1 = .ok result
      ∧ result.fields.decision
        = if cost ≤ limit.fields.burst ∧ bucket.retryAfter limit cost ≤ wait then .ADMIT
          else .DEFER := by
  subst hrefilled
  have hholds := Bucket.le_refill_iff bucket limit cost hwait
  rw [admitFrom, if_neg (by omega)]
  dsimp only
  by_cases hcost : cost ≤ (bucket.refill limit (bucket.lastSeenMs + wait)).tokens
  · rw [if_neg (not_lt.mpr hcost), if_pos (hholds.mp hcost)]
    obtain ⟨result, hresult⟩ := exists_outcome_admit w
    exact ⟨result, hresult, fields_of_outcome hresult ▸ rfl⟩
  · rw [if_pos (not_le.mp hcost), if_neg (hholds.not.mp hcost)]
    obtain ⟨result, hresult⟩ := exists_outcome_defer w (le_max_left 1 _)
    exact ⟨result, hresult, fields_of_outcome hresult ▸ rfl⟩

/-- **Retrying.**  What `retry_after_ms` says is kept exactly for a cost that the bucket can hold
when it is full. -/
theorem retryAfter_iff (c : CapacityController) (w : WorkloadClass) (nowMs : ℤ) (cost : ℚ)
    (result : AdmissionOutcome) (retry : ℤ) (h : (c.admitWork w nowMs cost).1 = .ok result)
    (hreason : result.fields.reasonCode = "RATE_LIMIT")
    (hretry : result.fields.retryAfterMs = some retry) :
    (c.admitWork w nowMs cost).2.RetryKept w nowMs cost retry
      ↔ ∃ limit, c.limits.get? w = some limit ∧ cost ≤ limit.fields.burst := by
  obtain ⟨limit, bucket, hpasses, hnow, hmissing, hafter, hnext⟩ := rateLimited h hreason
  rw [hretry, Option.some.injEq] at hafter
  subst hafter
  have hpos : 1 ≤ (bucket.refill limit nowMs).retryAfter limit cost := le_max_left 1 _
  -- a later try passes the same checks, and looks at the refilled bucket
  have hlater : ∀ wait, 1 ≤ wait → ∃ result,
      ((c.admitWork w nowMs cost).2.admitWork w (nowMs + wait) cost).1 = .ok result
        ∧ result.fields.decision
          = if cost ≤ limit.fields.burst
              ∧ (bucket.refill limit nowMs).retryAfter limit cost ≤ wait then .ADMIT
            else .DEFER := by
    intro wait hwait
    have hset : (c.buckets.set w (bucket.refill limit nowMs)).get? w
        = some (bucket.refill limit nowMs) := Dict.get?_set_self _ _ _
    have hpasses' : Passes { c with buckets := c.buckets.set w (bucket.refill limit nowMs) } w limit
        cost := ⟨hpasses.positive, hpasses.hasLimit, hpasses.backlog, hpasses.reserve,
          hpasses.concurrency⟩
    rw [hnext, admitWork_of_passes hpasses' hset (by omega)]
    exact admitFrom_later rfl hwait
  have hburst : (∃ limit, c.limits.get? w = some limit ∧ cost ≤ limit.fields.burst)
      ↔ cost ≤ limit.fields.burst := by
    simp [hpasses.hasLimit]
  rw [hburst]
  constructor
  · rintro ⟨⟨result', hresult', hadmitted⟩, -⟩
    obtain ⟨result'', hresult'', hdecision⟩ := hlater _ hpos
    rw [hresult', Except.ok.injEq] at hresult''
    rw [← hresult'', hadmitted] at hdecision
    by_contra hcost
    rw [if_neg fun h => hcost h.1] at hdecision
    cases hdecision
  · intro hcost
    refine ⟨?_, fun wait hwait hshort => ?_⟩
    · obtain ⟨result', hresult', hdecision⟩ := hlater _ hpos
      exact ⟨result', hresult', hdecision.trans (if_pos ⟨hcost, le_refl _⟩)⟩
    · obtain ⟨result', hresult', hdecision⟩ := hlater wait hwait
      exact ⟨result', hresult', hdecision.trans (if_neg fun h => absurd h.2 (not_le.mpr hshort))⟩

/-! ### A full bucket that is too small -/

/-- A profile that lets research do two units a second, five at once. -/
def sampleCapacity : CapacityProfile :=
  ⟨⟨"sim-prod-capacity:v1", 8, 3, WorkloadClass.members.map fun w =>
    ⟨⟨w, 4, 10, if w = .RESEARCH then 2 else 10, 5⟩, by cases w <;> decide +kernel⟩⟩,
    by decide +kernel⟩

/-- The bucket of research is empty. -/
def emptied : CapacityController :=
  { new sampleCapacity with buckets := (new sampleCapacity).buckets.set .RESEARCH ⟨0, 0⟩ }

theorem retryAfter_iff_emptied :
    (emptied.admitWork .RESEARCH 0 1).2.RetryKept .RESEARCH 0 1 500 :=
  (retryAfter_iff emptied .RESEARCH 0 1 ⟨⟨.DEFER, "RATE_LIMIT", .RESEARCH, some 500⟩, by decide⟩ 500
    (by decide +kernel) rfl rfl).mpr ⟨_, rfl, by decide +kernel⟩

/-- Work that costs more than the bucket ever holds is told when to come back, and is deferred again
when it does. -/
theorem deferred_again : ∃ (c : CapacityController) (cost : ℚ) (first second : AdmissionOutcome)
    (retry : ℤ), (c.admitWork .RESEARCH 0 cost).1 = .ok first
      ∧ first.fields.reasonCode = "RATE_LIMIT" ∧ first.fields.retryAfterMs = some retry
      ∧ ((c.admitWork .RESEARCH 0 cost).2.admitWork .RESEARCH (0 + retry) cost).1 = .ok second
      ∧ second.fields.decision = .DEFER :=
  ⟨emptied, 10, ⟨⟨.DEFER, "RATE_LIMIT", .RESEARCH, some 5000⟩, by decide⟩,
    ⟨⟨.DEFER, "RATE_LIMIT", .RESEARCH, some 2500⟩, by decide⟩, 5000, by decide +kernel, rfl, rfl,
    by decide +kernel, rfl⟩

end CapacityController

end FuturesAgentOs
