import FuturesAgentOs.ReferenceMarketData.ActiveObservations
import FuturesAgentOs.SharedKernel.TimeOrder

namespace FuturesAgentOs

open PyModel

/-!
# The order of arrival

`assess_market_quality`: the loop over the assessed observations in the order of their arrival, with
the issues that it raises.  The order is that of a key of texts, `arrivalSortKey`, and what makes an
observation late is one of its stream that arrived before and happened later.

* `outOfOrder_iff` — when these are the late ones.
-/

inductive MarketQualityCode where
  | MISSING_REQUIRED_FIELDS
  | STALE_OBSERVATION
  | OUT_OF_ORDER_OBSERVATION
  | DUPLICATE_OBSERVATION
  | CONFLICTING_OBSERVATION
  | FUTURE_AVAILABILITY
  | INCOMPLETE_BAR
  | GAP_DETECTED
  | PRICE_JUMP
  | PRICE_LIMIT_CONFIRMED
  | SOURCE_FALLBACK
  | TIMESTAMP_UNTRUSTED
  deriving DecidableEq

def missingRequiredFields (o : MarketObservation) : Bool :=
  match o.fields.kind with
  | .QUOTE =>
    o.fields.lastPrice.isNone && (o.fields.bidPrice.isNone || o.fields.askPrice.isNone)
  | .BAR =>
    o.fields.openPrice.isNone || o.fields.highPrice.isNone || o.fields.lowPrice.isNone
      || o.fields.closePrice.isNone
  | .TRADE | .SETTLEMENT => o.fields.lastPrice.isNone
  | .OPEN_INTEREST => o.fields.openInterest.isNone

structure StreamKey where
  referenceId : Text
  kind : ObservationKind
  intervalLabel : Option Text
  deriving DecidableEq

namespace MarketObservation

/-- The stream of an observation. -/
def streamKey (o : MarketObservation) : StreamKey :=
  ⟨o.referenceId, o.fields.kind, o.intervalLabel⟩

end MarketObservation

/-- The comparisons of `_arrival_sort_key`, component by component. -/
def arrivalSortKey : List (MarketObservation → MarketObservation → Bool) := [
  fun a b => Text.le a.referenceId b.referenceId,
  fun a b => Text.le a.fields.kind.value b.fields.kind.value,
  fun a b => Text.le a.fields.availableTime.text b.fields.availableTime.text,
  fun a b => Text.le a.fields.ingestedAt.text b.fields.ingestedAt.text,
  fun a b => decide (a.fields.sourceSequence ≤ b.fields.sourceSequence),
  fun a b => Text.le a.fields.observationId.str b.fields.observationId.str]

/-- `last_event` and `issue_observations`, the issues one by one. -/
structure ArrivalScan where
  lastEvent : Dict StreamKey RecordedAt := .empty
  issues : List (MarketQualityCode × EntityId) := []

namespace ArrivalScan

variable (s : ArrivalScan) (asOf : RecordedAt) (item : MarketObservation)

/-- The item happened before the last event of its stream. -/
def isOutOfOrder : Bool :=
  (s.lastEvent.get? item.streamKey).any (item.fields.eventTime < ·)

/-- The codes that a round of the loop adds for its item. -/
def codes : List MarketQualityCode :=
  (if asOf < item.fields.availableTime ∨ asOf < item.fields.ingestedAt then
      [.FUTURE_AVAILABILITY] else [])
    ++ (if missingRequiredFields item then [.MISSING_REQUIRED_FIELDS] else [])
    ++ (if item.fields.kind = .BAR ∧ item.fields.barStatus ≠ some .FINAL then
      [.INCOMPLETE_BAR] else [])
    ++ (if item.fields.sourceTrust = .FALLBACK then [.SOURCE_FALLBACK] else [])
    ++ (if item.fields.sourceTrust = .TIMESTAMP_UNTRUSTED then [.TIMESTAMP_UNTRUSTED] else [])
    ++ (if s.isOutOfOrder item then [.OUT_OF_ORDER_OBSERVATION] else [])

/-- A round of the loop. -/
def next : ArrivalScan where
  lastEvent :=
    if (s.lastEvent.get? item.streamKey).all (· < item.fields.eventTime) then
      s.lastEvent.set item.streamKey item.fields.eventTime
    else s.lastEvent
  issues := s.issues ++ (s.codes asOf item).map (fun code => (code, item.fields.observationId))

end ArrivalScan

/-- The issues that the loop adds for the assessed observations. -/
def arrivalIssues (asOf : RecordedAt) (assessed : List MarketObservation) :
    List (MarketQualityCode × EntityId) :=
  ((assessed.mergeSort (lexLe arrivalSortKey)).foldl
    (fun (s : ArrivalScan) item => s.next asOf item) {}).issues

def assessedObservations (h : List MarketObservation) (asOf : RecordedAt) : List MarketObservation :=
  if activeObservations h asOf = [] then h else activeObservations h asOf

/-- `assess_market_quality`, as far as the loop over the arrivals. -/
def assessMarketQuality (h : List MarketObservation) (asOf : RecordedAt) :
    Py (List (MarketQualityCode × EntityId)) := do
  require (h ≠ []) (valueError "market quality assessment requires observations")
  let active ← selectActiveObservations h asOf
  .ok (arrivalIssues asOf (if active = [] then h else active))

theorem assessMarketQuality_eq_ok_iff {h : List MarketObservation} {asOf : RecordedAt}
    {issues : List (MarketQualityCode × EntityId)} :
    assessMarketQuality h asOf = .ok issues
      ↔ h ≠ [] ∧ validateObservationRevisionHistory h = .ok ()
        ∧ arrivalIssues asOf (assessedObservations h asOf) = issues := by
  rw [assessMarketQuality, require_bind_eq_ok, assessedObservations]
  refine and_congr_right fun hne => ?_
  rw [selectActiveObservations, require_of_pos hne, Py.ok_bind]
  constructor
  · intro h'
    obtain ⟨active, hactive, hissues⟩ := Py.of_bind h'
    obtain ⟨⟨⟩, hvalid, heq⟩ := Py.of_bind hactive
    obtain rfl := Except.ok.inj heq
    exact ⟨hvalid, Except.ok.inj hissues⟩
  · rintro ⟨hvalid, rfl⟩
    rw [hvalid, Py.ok_bind, Py.ok_bind]

/-! ### The order of the key -/

namespace MarketObservation

/-- One observation arrives before another: it is available earlier, or ingested earlier, or of a
smaller sequence. -/
def ArrivesBefore (y x : MarketObservation) : Prop :=
  y.fields.availableTime < x.fields.availableTime
    ∨ y.fields.availableTime = x.fields.availableTime
      ∧ (y.fields.ingestedAt < x.fields.ingestedAt
        ∨ y.fields.ingestedAt = x.fields.ingestedAt
          ∧ y.fields.sourceSequence < x.fields.sourceSequence)

/-- The first of the two times in which the observations differ is of one second, and one of them is
written without a fraction. -/
def MixedWith (y x : MarketObservation) : Prop :=
  RecordedAt.Mixed y.fields.availableTime x.fields.availableTime
    ∨ y.fields.availableTime = x.fields.availableTime
      ∧ RecordedAt.Mixed y.fields.ingestedAt x.fields.ingestedAt

/-- Nothing but their identities tells which of the observations arrives before. -/
def TiedWith (y x : MarketObservation) : Prop :=
  y.fields.availableTime = x.fields.availableTime ∧ y.fields.ingestedAt = x.fields.ingestedAt
    ∧ y.fields.sourceSequence = x.fields.sourceSequence

instance (y x : MarketObservation) : Decidable (ArrivesBefore y x) :=
  inferInstanceAs (Decidable (_ ∨ _ ∧ (_ ∨ _ ∧ _)))

instance (y x : MarketObservation) : Decidable (MixedWith y x) :=
  inferInstanceAs (Decidable (_ ∨ _ ∧ _))

instance (y x : MarketObservation) : Decidable (TiedWith y x) :=
  inferInstanceAs (Decidable (_ ∧ _ ∧ _))

end MarketObservation

section

variable {x y : MarketObservation}

open MarketObservation

theorem lexLt_time {f : MarketObservation → RecordedAt}
    {les : List (MarketObservation → MarketObservation → Bool)} :
    lexLt ((fun a b => Text.le (f a).text (f b).text) :: les) y x = true
      ↔ RecordedAt.Mixed (f y) (f x) ∧ ¬ f y < f x ∨ ¬ RecordedAt.Mixed (f y) (f x) ∧ f y < f x
        ∨ f y = f x ∧ lexLt les y x = true := by
  have htext : (f y).text = (f x).text ↔ f y = f x := by
    refine ⟨fun heq => ?_, fun heq => by rw [heq]⟩
    exact RecordedAt.text_le_antisymm (heq ▸ Text.le_refl _) (heq ▸ Text.le_refl _)
  rw [lexLt_text (f := fun o => (f o).text), RecordedAt.text_lt_iff, htext]
  split <;> simp [*]

/-- **The order of the key**, for two observations of one stream.  It is the order of arrival but in
two cases: of two times of one second the one without a fraction comes last, and where nothing else
tells them apart the identities do. -/
theorem sortsBefore_iff (hstream : y.streamKey = x.streamKey) :
    lexLt arrivalSortKey y x = true
      ↔ ¬ MixedWith y x ∧ ArrivesBefore y x ∨ MixedWith y x ∧ ¬ ArrivesBefore y x
        ∨ TiedWith y x
          ∧ Text.le x.fields.observationId.str y.fields.observationId.str = false := by
  obtain ⟨hreference, hkind, -⟩ := StreamKey.mk.inj hstream
  have hsame : ∀ {s t : Text}, s = t → Text.le t s ≠ false := by
    rintro s t rfl
    rw [Text.le_refl]
    decide
  unfold arrivalSortKey
  rw [lexLt_text (f := referenceId), or_iff_right (hsame hreference), and_iff_right hreference,
    lexLt_text (f := fun o : MarketObservation => o.fields.kind.value),
    or_iff_right (hsame (congrArg _ hkind)), and_iff_right (congrArg _ hkind),
    lexLt_time (f := fun o : MarketObservation => o.fields.availableTime),
    lexLt_time (f := fun o : MarketObservation => o.fields.ingestedAt),
    lexLt_int (f := fun o : MarketObservation => o.fields.sourceSequence),
    lexLt_text (f := fun o : MarketObservation => o.fields.observationId.str), lexLt_nil]
  -- a pair of mixed times, and one of times in order, differ
  have havailable := @RecordedAt.Mixed.ne y.fields.availableTime x.fields.availableTime
  have hingested := @RecordedAt.Mixed.ne y.fields.ingestedAt x.fields.ingestedAt
  have hearlier : y.fields.availableTime < x.fields.availableTime →
      y.fields.availableTime ≠ x.fields.availableTime := fun hlt heq =>
    absurd (heq ▸ hlt) (Nat.lt_irrefl _)
  have hearlier' : y.fields.ingestedAt < x.fields.ingestedAt →
      y.fields.ingestedAt ≠ x.fields.ingestedAt := fun hlt heq =>
    absurd (heq ▸ hlt) (Nat.lt_irrefl _)
  have hsequence : y.fields.sourceSequence < x.fields.sourceSequence →
      y.fields.sourceSequence ≠ x.fields.sourceSequence := fun hlt heq => absurd heq hlt.ne
  simp only [Bool.false_eq_true, and_false, or_false]
  unfold MixedWith ArrivesBefore TiedWith
  grind

/-! ### The loop -/

namespace ArrivalScan

variable {s : ArrivalScan} {asOf : RecordedAt} {item : MarketObservation}

/-- A stream has had an event after a time. -/
def Passed (s : ArrivalScan) (stream : StreamKey) (time : RecordedAt) : Prop :=
  ∃ last, s.lastEvent.get? stream = some last ∧ time < last

theorem isOutOfOrder_iff :
    s.isOutOfOrder item = true ↔ s.Passed item.streamKey item.fields.eventTime := by
  simp [isOutOfOrder, Passed, Option.any_eq_true]

/-- **What a round reports as out of order.** -/
theorem mem_next_issues {id : EntityId} :
    (.OUT_OF_ORDER_OBSERVATION, id) ∈ (s.next asOf item).issues
      ↔ (.OUT_OF_ORDER_OBSERVATION, id) ∈ s.issues
        ∨ item.fields.observationId = id ∧ s.Passed item.streamKey item.fields.eventTime := by
  have hcode : .OUT_OF_ORDER_OBSERVATION ∈ s.codes asOf item ↔ s.isOutOfOrder item = true := by
    unfold codes
    split_ifs <;> simp_all
  simp only [next, List.mem_append, List.mem_map, Prod.mk.injEq, ← isOutOfOrder_iff,
    ← hcode]
  constructor
  · rintro (h | ⟨code, hcode, rfl, hid⟩)
    · exact Or.inl h
    · exact Or.inr ⟨hid, hcode⟩
  · rintro (h | ⟨hid, hcode⟩)
    · exact Or.inl h
    · exact Or.inr ⟨_, hcode, rfl, hid⟩

/-- **The last event is the latest.** -/
theorem passed_next {stream : StreamKey} {time : RecordedAt} :
    (s.next asOf item).Passed stream time
      ↔ s.Passed stream time ∨ item.streamKey = stream ∧ time < item.fields.eventTime := by
  by_cases hstream : item.streamKey = stream
  · subst hstream
    simp only [Passed, next, true_and]
    rcases hlast : s.lastEvent.get? item.streamKey with _ | last
    · rw [Option.all_none, if_pos rfl, Dict.get?_set_self]
      simp
    · by_cases hlater : last < item.fields.eventTime
      · rw [Option.all_some, if_pos (decide_eq_true hlater), Dict.get?_set_self]
        simp only [Option.some.injEq, exists_eq_left']
        exact ⟨Or.inr, fun h => h.elim (fun hlt => Nat.lt_trans hlt hlater) id⟩
      · rw [Option.all_some, if_neg (by simpa using hlater), hlast]
        simp only [Option.some.injEq, exists_eq_left']
        refine ⟨Or.inl, fun h => h.elim id fun hlt => ?_⟩
        exact Nat.lt_of_lt_of_le hlt (Nat.not_lt.mp hlater)
  · simp only [Passed, next, hstream, false_and, or_false]
    split
    · rw [Dict.get?_set_of_ne _ _ (Ne.symm hstream)]
    · rfl

/-- **What the loop reports as out of order.**  The induction is on the items that are left. -/
theorem mem_foldl_issues {items : List MarketObservation} {id : EntityId} :
    (.OUT_OF_ORDER_OBSERVATION, id)
        ∈ (items.foldl (fun (s : ArrivalScan) item => s.next asOf item) s).issues
      ↔ (.OUT_OF_ORDER_OBSERVATION, id) ∈ s.issues
        ∨ ∃ before x after, items = before ++ x :: after ∧ x.fields.observationId = id
          ∧ (s.Passed x.streamKey x.fields.eventTime ∨ ∃ y ∈ before,
            y.streamKey = x.streamKey ∧ x.fields.eventTime < y.fields.eventTime) := by
  induction items generalizing s with
  | nil => simp
  | cons item items ih =>
    rw [List.foldl_cons, ih, mem_next_issues, or_assoc]
    refine or_congr_right ?_
    constructor
    · rintro (⟨hid, hpassed⟩ | ⟨before, x, after, rfl, hid, hlate⟩)
      · exact ⟨[], item, items, rfl, hid, Or.inl hpassed⟩
      · refine ⟨item :: before, x, after, rfl, hid, ?_⟩
        rw [passed_next, or_assoc] at hlate
        refine hlate.imp_right ?_
        rintro (hitem | ⟨y, hy, hlater⟩)
        · exact ⟨item, List.mem_cons_self, hitem⟩
        · exact ⟨y, List.mem_cons_of_mem _ hy, hlater⟩
    · rintro ⟨before, x, after, hsplit, hid, hlate⟩
      rcases before with _ | ⟨first, before⟩
      · obtain ⟨rfl, rfl⟩ := List.cons.inj hsplit
        refine Or.inl ⟨hid, hlate.resolve_right ?_⟩
        rintro ⟨y, hy, -⟩
        cases hy
      · obtain ⟨rfl, rfl⟩ := List.cons.inj hsplit
        refine Or.inr ⟨before, x, after, rfl, hid, ?_⟩
        rw [passed_next, or_assoc]
        refine hlate.imp_right ?_
        rintro ⟨y, hy, hlater⟩
        rcases List.mem_cons.mp hy with rfl | hy
        · exact Or.inl hlater
        · exact Or.inr ⟨y, hy, hlater⟩

end ArrivalScan

/-! ### What is reported -/

/-- An observation of the same stream that happened later. -/
def MarketObservation.Overtakes (y x : MarketObservation) : Prop :=
  y.streamKey = x.streamKey ∧ x.fields.eventTime < y.fields.eventTime

instance (y x : MarketObservation) : Decidable (y.Overtakes x) :=
  inferInstanceAs (Decidable (_ ∧ _))

section

variable {assessed : List MarketObservation}

theorem arrivalSortKey_order : ∀ le ∈ arrivalSortKey,
    (∀ a b c, le a b = true → le b c = true → le a c = true)
      ∧ ∀ a b, (le a b || le b a) = true := by
  simp only [arrivalSortKey, List.forall_mem_cons]
  exact ⟨order_text _, order_text _, order_text _, order_text _, order_int _, order_text _,
    fun le hle => absurd hle List.not_mem_nil⟩

/-- **What is reported as out of order**: an observation before which another of its stream sorts
that happened later. -/
theorem mem_arrivalIssues (hids : (assessed.map (·.fields.observationId)).Nodup) {asOf : RecordedAt}
    {id : EntityId} :
    (.OUT_OF_ORDER_OBSERVATION, id) ∈ arrivalIssues asOf assessed
      ↔ ∃ x ∈ assessed, x.fields.observationId = id
        ∧ ∃ y ∈ assessed, y.Overtakes x ∧ lexLt arrivalSortKey y x = true := by
  rw [arrivalIssues, ArrivalScan.mem_foldl_issues]
  have hsorted := List.pairwise_mergeSort
    (lexLe_trans fun le hle => (arrivalSortKey_order le hle).1)
    (lexLe_total fun le hle => (arrivalSortKey_order le hle).2) assessed
  have hmem : ∀ {o}, o ∈ assessed.mergeSort (lexLe arrivalSortKey) ↔ o ∈ assessed :=
    List.mem_mergeSort
  have hnodup : (assessed.mergeSort (lexLe arrivalSortKey)).Nodup :=
    (List.mergeSort_perm _ _).nodup_iff.mpr (List.Nodup.of_map _ hids)
  constructor
  · rintro (h | ⟨before, x, after, hsplit, hid, ⟨last, hlast, -⟩ | ⟨y, hy, hovertakes⟩⟩)
    · cases h
    · cases hlast
    · rw [hsplit] at hsorted hnodup
      have hx : x ∈ assessed := hmem.mp (hsplit ▸ List.mem_append_right _ List.mem_cons_self)
      have hy' : y ∈ assessed := hmem.mp (hsplit ▸ List.mem_append_left _ hy)
      have hle := (List.pairwise_append.mp hsorted).2.2 y hy x List.mem_cons_self
      refine ⟨x, hx, hid, y, hy', hovertakes, ?_⟩
      rw [lexLt, hle, Bool.true_and, Bool.not_eq_true', ← Bool.not_eq_true]
      intro hge
      -- two observations with one key are one
      have hsame := le_of_lexLe hle hge _
        (show (fun a b : MarketObservation =>
          Text.le a.fields.observationId.str b.fields.observationId.str) ∈ arrivalSortKey by
            simp only [arrivalSortKey, List.mem_cons, true_or, or_true])
      obtain rfl := List.inj_on_of_nodup_map hids hy' hx
        (EntityId.str_inj (Text.le_antisymm hsame.1 hsame.2))
      exact (List.nodup_append.mp hnodup).2.2 y hy y List.mem_cons_self rfl
  · rintro ⟨x, hx, hid, y, hy, hovertakes, hlt⟩
    obtain ⟨before, after, hsplit⟩ := List.append_of_mem (hmem.mpr hx)
    refine Or.inr ⟨before, x, after, hsplit, hid, Or.inr ⟨y, ?_, hovertakes⟩⟩
    have hymem := hmem.mpr hy
    rw [hsplit] at hymem hsorted
    rw [lexLt, Bool.and_eq_true, Bool.not_eq_true', ← Bool.not_eq_true] at hlt
    rcases List.mem_append.mp hymem with hbefore | hafter
    · exact hbefore
    · refine absurd ?_ hlt.2
      rcases List.mem_cons.mp hafter with rfl | hafter
      · exact hlt.1
      · exact List.rel_of_pairwise_cons (List.pairwise_append.mp hsorted).2.1 hafter

end

end

/-! ### The late observations -/

section

open MarketObservation

/-- Some observation of the stream of another that happened later arrives before it. -/
def IsLate (assessed : List MarketObservation) (x : MarketObservation) : Prop :=
  ∃ y ∈ assessed, y.Overtakes x ∧ y.ArrivesBefore x

/-- What the texts of the times change makes no difference to an observation: one that overtakes it
arrives before and their times are not mixed; or one that overtakes it arrives before with mixed
times exactly when one arrives after with mixed times, or is tied and has the smaller identity. -/
def TextsAgree (assessed : List MarketObservation) (x : MarketObservation) : Prop :=
  (∃ y ∈ assessed, y.Overtakes x ∧ ¬ y.MixedWith x ∧ y.ArrivesBefore x)
    ∨ ((∃ y ∈ assessed, y.Overtakes x ∧ y.MixedWith x ∧ y.ArrivesBefore x)
      ↔ ∃ y ∈ assessed, y.Overtakes x ∧ (y.MixedWith x ∧ ¬ y.ArrivesBefore x
        ∨ y.TiedWith x
          ∧ Text.le x.fields.observationId.str y.fields.observationId.str = false))

instance (assessed : List MarketObservation) (x : MarketObservation) :
    Decidable (IsLate assessed x) := inferInstanceAs (Decidable (∃ _ ∈ _, _ ∧ _))

instance (assessed : List MarketObservation) (x : MarketObservation) :
    Decidable (TextsAgree assessed x) :=
  inferInstanceAs (Decidable ((∃ _ ∈ _, _ ∧ _ ∧ _) ∨ ((∃ _ ∈ _, _ ∧ _ ∧ _) ↔ ∃ _ ∈ _, _ ∧ (_ ∨ _))))

theorem nodup_assessedObservations {h : List MarketObservation} (hh : IsObservationHistory h)
    (asOf : RecordedAt) : ((assessedObservations h asOf).map (·.fields.observationId)).Nodup := by
  unfold assessedObservations
  split
  · exact hh.ids
  · rw [activeObservations_eq, ((List.mergeSort_perm _ _).map _).nodup_iff]
    exact hh.ids.sublist ((List.filter_sublist.trans List.filter_sublist).map _)

/-- What two disjunctions with one first part have in common. -/
theorem or_iff_or_iff {p q r : Prop} : (p ∨ r ↔ p ∨ q) ↔ p ∨ (q ↔ r) := by
  by_cases hp : p
  · simp [hp]
  · simp only [hp, false_or]
    exact Iff.comm

/-- **When the late observations are reported.**  Those that are reported as out of order are the
late ones if and only if the texts of the times make no difference to any assessed observation. -/
theorem outOfOrder_iff (h : List MarketObservation) (asOf : RecordedAt)
    (issues : List (MarketQualityCode × EntityId))
    (hissues : assessMarketQuality h asOf = .ok issues) :
    (∀ id, (.OUT_OF_ORDER_OBSERVATION, id) ∈ issues
        ↔ ∃ x ∈ assessedObservations h asOf, x.fields.observationId = id
          ∧ IsLate (assessedObservations h asOf) x)
      ↔ ∀ x ∈ assessedObservations h asOf, TextsAgree (assessedObservations h asOf) x := by
  obtain ⟨-, hvalid, rfl⟩ := assessMarketQuality_eq_ok_iff.mp hissues
  have hids := nodup_assessedObservations
    (IsObservationHistory.validate_eq_ok_iff.mp hvalid) asOf
  simp only [mem_arrivalIssues hids]
  generalize assessedObservations h asOf = assessed at hids ⊢
  -- one observation: what sorts before it against what arrives before it
  have hone : ∀ x, ((∃ y ∈ assessed, y.Overtakes x ∧ lexLt arrivalSortKey y x = true)
      ↔ IsLate assessed x) ↔ TextsAgree assessed x := by
    intro x
    have hsorts : (∃ y ∈ assessed, y.Overtakes x ∧ lexLt arrivalSortKey y x = true)
        ↔ (∃ y ∈ assessed, y.Overtakes x ∧ ¬ y.MixedWith x ∧ y.ArrivesBefore x)
          ∨ ∃ y ∈ assessed, y.Overtakes x ∧ (y.MixedWith x ∧ ¬ y.ArrivesBefore x
            ∨ y.TiedWith x
              ∧ Text.le x.fields.observationId.str y.fields.observationId.str = false) := by
      rw [← exists_or]
      refine exists_congr fun y => ?_
      rw [← and_or_left, ← and_or_left]
      exact and_congr_right fun _ => and_congr_right fun hovertakes => sortsBefore_iff hovertakes.1
    have hlate : IsLate assessed x
        ↔ (∃ y ∈ assessed, y.Overtakes x ∧ ¬ y.MixedWith x ∧ y.ArrivesBefore x)
          ∨ ∃ y ∈ assessed, y.Overtakes x ∧ y.MixedWith x ∧ y.ArrivesBefore x := by
      rw [IsLate, ← exists_or]
      refine exists_congr fun y => ?_
      rw [← and_or_left, ← and_or_left]
      refine and_congr_right fun _ => and_congr_right fun _ => ?_
      by_cases hmixed : y.MixedWith x <;> simp [hmixed]
    rw [hsorts, hlate]
    exact or_iff_or_iff
  constructor
  · intro hall x hx
    refine (hone x).mp ?_
    have hid := hall x.fields.observationId
    constructor
    · intro hreported
      obtain ⟨x', hx', hsame, hlate⟩ := hid.mp ⟨x, hx, rfl, hreported⟩
      obtain rfl := List.inj_on_of_nodup_map hids hx' hx hsame
      exact hlate
    · intro hlate
      obtain ⟨x', hx', hsame, hreported⟩ := hid.mpr ⟨x, hx, rfl, hlate⟩
      obtain rfl := List.inj_on_of_nodup_map hids hx' hx hsame
      exact hreported
  · intro hall id
    refine exists_congr fun x => and_congr_right fun hx => and_congr_right fun _ => ?_
    exact (hone x).mpr (hall x hx)

end

/-! ### Two quotes that are available in one second -/

namespace MarketObservation

/-- A quote of half past nine that is available at ten. -/
def laterQuote : MarketObservation :=
  ⟨quoteFields 3 { moment 9 with minute := 30 } (moment 10), by decide +kernel⟩

/-- A quote of nine o'clock that is available at half past ten. -/
def lateQuote : MarketObservation :=
  ⟨quoteFields 4 (moment 9) { moment 10 with minute := 30 }, by decide +kernel⟩

/-- A quote of nine o'clock that is available half a second after ten. -/
def fractionQuote : MarketObservation :=
  ⟨quoteFields 5 (moment 9) { moment 10 with microsecond := 500000 }, by decide +kernel⟩

/-- Quotes that are visible, in order and not corrected are assessed as they are. -/
theorem assessedObservations_of_pairwise {h : List MarketObservation} {asOf : RecordedAt}
    (hleaves : marketRevisions.leaves (visibleObservations h asOf) = h)
    (hsorted : h.Pairwise (fun a b => lexLe observationSortKey a b = true)) :
    assessedObservations h asOf = h := by
  rw [assessedObservations, activeObservations_eq, hleaves, List.mergeSort_of_pairwise hsorted]
  exact ite_eq_right_iff.mpr fun _ => rfl

/-- A quote that arrives half an hour after a later one is reported. -/
theorem outOfOrder_of_lateQuote :
    ∃ issues, assessMarketQuality [lateQuote, laterQuote] (moment 11) = .ok issues
      ∧ (.OUT_OF_ORDER_OBSERVATION, lateQuote.fields.observationId) ∈ issues := by
  have hassessed : assessedObservations [lateQuote, laterQuote] (moment 11)
      = [lateQuote, laterQuote] :=
    assessedObservations_of_pairwise (by decide +kernel) (by decide +kernel)
  have hissues := assessMarketQuality_eq_ok_iff.mpr
    ⟨List.cons_ne_nil lateQuote [laterQuote], by decide +kernel,
      Eq.refl (arrivalIssues (moment 11) (assessedObservations _ (moment 11)))⟩
  refine ⟨_, hissues, ?_⟩
  refine ((outOfOrder_iff _ _ _ hissues).mpr ?_ _).mpr ?_ <;> rw [hassessed]
  · decide +kernel
  · exact ⟨lateQuote, List.mem_cons_self, rfl, by decide +kernel⟩

/-- **One that arrives half a second after** is not. -/
theorem outOfOrder_missed :
    ¬ ∀ (h : List MarketObservation) (asOf : RecordedAt)
      (issues : List (MarketQualityCode × EntityId)), assessMarketQuality h asOf = .ok issues →
        ∀ id, (.OUT_OF_ORDER_OBSERVATION, id) ∈ issues
          ↔ ∃ x ∈ assessedObservations h asOf, x.fields.observationId = id
            ∧ IsLate (assessedObservations h asOf) x := by
  intro hall
  have hassessed : assessedObservations [fractionQuote, laterQuote] (moment 11)
      = [fractionQuote, laterQuote] :=
    assessedObservations_of_pairwise (by decide +kernel) (by decide +kernel)
  have hissues := assessMarketQuality_eq_ok_iff.mpr
    ⟨List.cons_ne_nil fractionQuote [laterQuote], by decide +kernel,
      Eq.refl (arrivalIssues (moment 11) (assessedObservations _ (moment 11)))⟩
  have hreported := hall _ _ _ hissues fractionQuote.fields.observationId
  rw [hassessed, mem_arrivalIssues (by decide +kernel)] at hreported
  have hnot : ¬ ∃ x ∈ [fractionQuote, laterQuote],
      x.fields.observationId = fractionQuote.fields.observationId
        ∧ ∃ y ∈ [fractionQuote, laterQuote], y.Overtakes x ∧ lexLt arrivalSortKey y x = true := by
    decide +kernel
  exact hnot (hreported.mpr ⟨fractionQuote, List.mem_cons_self, rfl, by decide +kernel⟩)

end MarketObservation

end FuturesAgentOs
