import FuturesAgentOs.LearningReview.DecisionJournal
import FuturesAgentOs.PyModel.Sorting
import Mathlib.Logic.Relation

namespace FuturesAgentOs

open PyModel

/-!
# Rebuilds of the decision journal

`rebuild` projects the facts anew, and takes no episode.

* `rebuilds_iff` — what appends and rebuilds keep, and which appends can be replayed.
-/

section

variable {sources xs ys : List SourceEvent}

/-- An event id names one fact. -/
def NoConflict (sources : List SourceEvent) : Prop :=
  ∀ s ∈ sources, ∀ t ∈ sources, s.fields.eventId = t.fields.eventId → s = t

/-- The dict holds the facts of a list. -/
def Collects (unique : Dict EntityId SourceEvent) (seen : List SourceEvent) : Prop :=
  ∀ id s, unique.get? id = some s ↔ s ∈ seen ∧ s.fields.eventId = id

theorem collectFacts_cases (sources : List SourceEvent) {unique : Dict EntityId SourceEvent}
    {seen : List SourceEvent} (h : Collects unique seen) :
    (NoConflict (seen ++ sources) ∧ ∃ facts, collectFacts sources unique = .ok facts
        ∧ Collects facts (seen ++ sources))
      ∨ ¬ NoConflict (seen ++ sources) ∧ collectFacts sources unique
        = .error (valueError "source event id conflicts with a different immutable fact") := by
  induction sources generalizing unique seen with
  | nil =>
    rw [List.append_nil]
    refine Or.inl ⟨fun s hs t ht hid => ?_, unique, rfl, h⟩
    exact Option.some.inj (((h _ s).mpr ⟨hs, hid⟩).symm.trans ((h _ t).mpr ⟨ht, rfl⟩))
  | cons source rest ih =>
    rw [collectFacts]
    by_cases hknown : ∀ existing ∈ unique.get? source.fields.eventId, existing = source
    · have hnext : Collects (unique.set source.fields.eventId source) (seen ++ [source]) := by
        intro id s
        rw [Dict.get?_set, List.mem_append, List.mem_singleton]
        split
        · rename_i hid
          rw [hid, Option.some.injEq]
          constructor
          · rintro rfl
            exact ⟨Or.inr rfl, rfl⟩
          · rintro ⟨hs | rfl, hsame⟩
            · exact (hknown s ((h _ s).mpr ⟨hs, hsame⟩)).symm
            · rfl
        · rename_i hid
          rw [h]
          refine and_congr_left fun hsame => ⟨Or.inl, ?_⟩
          rintro (hs | rfl)
          · exact hs
          · exact absurd hsame.symm hid
      rw [require_of_pos hknown, Py.ok_bind]
      simpa using ih hnext
    · rw [require_of_neg hknown]
      push Not at hknown
      obtain ⟨existing, hexisting, hne⟩ := hknown
      obtain ⟨hmem, hid⟩ := (h _ existing).mp hexisting
      exact Or.inr ⟨fun hall => hne (hall _ (by simp [hmem]) _ (by simp) hid), rfl⟩

theorem Collects.values {facts : Dict EntityId SourceEvent} (h : Collects facts sources) :
    (facts.values.map fun s => s.fields.eventId).Nodup ∧ ∀ s, s ∈ facts.values ↔ s ∈ sources := by
  constructor
  · have hkeys : facts.values.map (fun s => s.fields.eventId) = facts.keys := by
      rw [Dict.values, Dict.keys, List.map_map]
      exact List.map_congr_left fun p hp => ((h _ _).mp (Dict.mem_items_iff.mp hp)).2
    rw [hkeys]
    exact facts.nodup
  · intro s
    rw [Dict.mem_values_iff]
    constructor
    · rintro ⟨id, hid⟩
      exact ((h id s).mp hid).1
    · exact fun hs => ⟨_, (h _ s).mpr ⟨hs, rfl⟩⟩

theorem factOrder : (fun s t : SourceEvent => decide (s.fields.availableAt < t.fields.availableAt
      ∨ s.fields.availableAt = t.fields.availableAt
        ∧ Text.le s.fields.eventId.str t.fields.eventId.str))
    = lexLe [fun s t => decide ((s.fields.availableAt.ticks : ℤ) ≤ t.fields.availableAt.ticks),
      fun s t => Text.le s.fields.eventId.str t.fields.eventId.str] := by
  funext s t
  have heq : s.fields.availableAt = t.fields.availableAt
      ↔ s.fields.availableAt.ticks = t.fields.availableAt.ticks :=
    ⟨congrArg _, RecordedAt.ticks_inj⟩
  rw [Bool.eq_iff_iff, decide_eq_true_eq, RecordedAt.lt_def, heq]
  simp only [lexLe, decide_eq_true_eq, Bool.and_eq_true, Bool.or_eq_true, Bool.not_eq_true',
    decide_eq_false_iff_not, or_true, and_true]
  grind

theorem uniqueFacts_cases (sources : List SourceEvent) :
    (NoConflict sources ∧ ∃ facts, uniqueFacts sources = .ok facts
        ∧ (facts.map fun s => s.fields.eventId).Nodup ∧ ∀ s, s ∈ facts ↔ s ∈ sources)
      ∨ ¬ NoConflict sources ∧ uniqueFacts sources
        = .error (valueError "source event id conflicts with a different immutable fact") := by
  have hempty : Collects .empty [] := fun id s => by simp
  rw [uniqueFacts]
  rcases collectFacts_cases sources hempty with ⟨hno, facts, hfacts, hcollects⟩ | ⟨hno, hfacts⟩
  · obtain ⟨hnodup, hmem⟩ := hcollects.values
    rw [hfacts, Py.ok_bind]
    exact Or.inl ⟨hno, _, rfl, ((List.mergeSort_perm _ _).map _).nodup_iff.mpr hnodup,
      fun s => List.mem_mergeSort.trans (hmem s)⟩
  · rw [hfacts]
    exact Or.inr ⟨hno, rfl⟩

/-- **The facts do not depend on the order or the repetition of the sources.** -/
theorem uniqueFacts_congr (h : ∀ s, s ∈ xs ↔ s ∈ ys) : uniqueFacts xs = uniqueFacts ys := by
  have hempty : Collects .empty [] := fun id s => by simp
  have hsame : NoConflict xs ↔ NoConflict ys := by simp only [NoConflict, h]
  rw [uniqueFacts, uniqueFacts]
  rcases collectFacts_cases xs hempty with ⟨hx, facts, hfacts, hcollects⟩ | ⟨hx, hfacts⟩
  · rcases collectFacts_cases ys hempty with ⟨-, facts', hfacts', hcollects'⟩ | ⟨hy, -⟩
    · obtain ⟨hnodup, hmem⟩ := hcollects.values
      obtain ⟨hnodup', hmem'⟩ := hcollects'.values
      rw [hfacts, hfacts', Py.ok_bind, Py.ok_bind, factOrder]
      congr 1
      refine mergeSort_eq_of_perm (lexLe_trans (List.forall_mem_cons.mpr
        ⟨(order_int _).1, List.forall_mem_singleton.mpr (order_text _).1⟩)) (lexLe_total
        (List.forall_mem_cons.mpr ⟨(order_int _).2, List.forall_mem_singleton.mpr (order_text _).2⟩))
        (fun s hs t ht hst hts => ?_) ((List.perm_ext_iff_of_nodup hnodup.of_map hnodup'.of_map).mpr
          fun s => by rw [hmem, hmem']; exact h s)
      obtain ⟨hle, hle'⟩ := le_of_lexLe hst hts _ (List.mem_cons_of_mem _ List.mem_cons_self)
      exact List.inj_on_of_nodup_map hnodup hs ht (EntityId.str_inj (Text.le_antisymm hle hle'))
    · exact absurd (hsame.mp hx) hy
  · rcases collectFacts_cases ys hempty with ⟨hy, -⟩ | ⟨-, hfacts'⟩
    · exact absurd (hsame.mpr hy) hx
    · rw [hfacts, hfacts']

end

namespace DecisionJournal

variable {j j' k : DecisionJournal} {p q : Projection} {e : DecisionJournalEntry}

/-- The entry is what the journal has of the fact, under the id that was drawn for it. -/
structure EntryOf (j : DecisionJournal) (p : Projection) (e : DecisionJournalEntry) : Prop where
  source : j.sources.get? p.source.fields.eventId = some p.source
  entry : j.entriesByKey.get? (j.key p.source.fields.eventId) = some e
  fields : e.fields = j.entryFields p e.fields.entryId
  entryId : j.entryIds.get? (j.key p.source.fields.eventId) = some e.fields.entryId

theorem EntryOf.sourceEventId (h : j.EntryOf p e) :
    e.fields.sourceEventId = p.source.fields.eventId := by
  rw [h.fields]
  rfl

/-- What holds of the entries of a journal. -/
structure Recorded (j : DecisionJournal) : Prop where
  consistent : Consistent j
  entry : ∀ key e, j.entriesByKey.get? key = some e →
    ∃ p, key = j.key p.source.fields.eventId ∧ j.EntryOf p e
  known : ∀ e ∈ j.entries, ∃ key, j.entriesByKey.get? key = some e
  nodup : (j.entries.map fun e => e.fields.sourceEventId).Nodup

/-- The journal is the same one, and the ids that were drawn are kept. -/
structure KeepsIds (j j' : DecisionJournal) : Prop where
  journalId : j'.journalId = j.journalId
  version : j'.projectionVersion = j.projectionVersion
  entryIds : ∀ key n, j.entryIds.get? key = some n → j'.entryIds.get? key = some n

theorem KeepsIds.refl (j : DecisionJournal) : KeepsIds j j := ⟨rfl, rfl, fun _ _ h => h⟩

theorem KeepsIds.trans (h : KeepsIds j j') (h' : KeepsIds j' k) : KeepsIds j k :=
  ⟨h'.journalId.trans h.journalId, h'.version.trans h.version,
    fun key n hn => h'.entryIds key n (h.entryIds key n hn)⟩

theorem keepsIds_drawEntryId (j : DecisionJournal) (eventId : EntityId) :
    KeepsIds j (j.drawEntryId eventId).2
      ∧ (j.drawEntryId eventId).2.entryIds.get? (j.key eventId) = some (j.drawEntryId eventId).1 := by
  unfold drawEntryId
  split
  · rename_i n hn
    exact ⟨⟨rfl, rfl, fun _ _ h => h⟩, hn⟩
  · rename_i hnone
    refine ⟨⟨rfl, rfl, fun key n hn => ?_⟩, Dict.get?_set_self _ _ _⟩
    rw [Dict.get?_set_of_ne _ _ (fun hkey => by rw [hkey, hnone] at hn; cases hn)]
    exact hn

theorem keepsIds_project (p : Projection) (j : DecisionJournal) : KeepsIds j (j.project p).2 := by
  have hdraw := (keepsIds_drawEntryId j p.source.fields.eventId).1
  unfold project
  dsimp only
  split
  · exact hdraw
  · exact ⟨hdraw.journalId, hdraw.version, hdraw.entryIds⟩

theorem keepsIds_projectAll (ps : List Projection) (j : DecisionJournal) :
    KeepsIds j (projectAll ps j).2 := by
  induction ps generalizing j with
  | nil => exact .refl j
  | cons p rest ih =>
    have hproject := keepsIds_project p j
    rw [projectAll]
    rcases h : j.project p with ⟨e | entry, j'⟩
    · rwa [h] at hproject
    · rw [h] at hproject
      exact hproject.trans (ih j')

/-- **An append** leaves the journal as it was, or projects a fact that has no entry. -/
theorem append_eq_project (j : DecisionJournal) (p : Projection) : (j.append p).2 = j
    ∨ j.entriesByKey.get? (j.key p.source.fields.eventId) = none ∧ j.append p = j.project p := by
  unfold append
  split
  · exact Or.inl rfl
  split
  · rename_i hnone
    exact Or.inr ⟨hnone, rfl⟩
  · refine Or.inl ?_
    split
    · rfl
    · split <;> rfl

/-- **A projected fact** is recorded under its id. -/
theorem entryOf_of_project (h : j.project p = (.ok e, j')) : Projects p j j' e ∧ j'.EntryOf p e := by
  obtain ⟨entryIds, drawn, hframe⟩ := j.drawEntryId_frame p.source.fields.eventId
  have hdraw := (keepsIds_drawEntryId j p.source.fields.eventId).2
  unfold project at h
  dsimp only at h
  rw [hframe] at h hdraw
  split at h
  · cases h
  · rename_i entry hmake
    obtain ⟨hentry, rfl⟩ := Prod.mk.inj h
    obtain rfl := Except.ok.inj hentry
    have hfields := Frozen.make_eq_ok.mp hmake
    refine ⟨⟨rfl, rfl, ⟨_, hfields⟩, rfl, rfl, rfl⟩, Dict.get?_set_self _ _ _,
      Dict.get?_set_self _ _ _, ?_, ?_⟩
    · rw [hfields]
      rfl
    · rw [hfields]
      exact hdraw

/-- What the journal has of other facts stays. -/
theorem EntryOf.project (h : j.EntryOf q e) {entry : DecisionJournalEntry}
    (hfresh : j.entriesByKey.get? (j.key p.source.fields.eventId) = none)
    (hproject : j.project p = (.ok entry, j')) : j'.EntryOf q e := by
  obtain ⟨hprojects, -⟩ := entryOf_of_project hproject
  have hkeeps := keepsIds_project p j
  rw [hproject] at hkeeps
  have hid : q.source.fields.eventId ≠ p.source.fields.eventId := by
    intro hid
    have hentry := h.entry
    rw [hid, hfresh] at hentry
    cases hentry
  have hkey : j'.key q.source.fields.eventId = j.key q.source.fields.eventId := by
    rw [key, key, hprojects.version]
  refine ⟨?_, ?_, ?_, ?_⟩
  · rw [hprojects.sources, Dict.get?_set_of_ne _ _ hid, h.source]
  · rw [hkey, hprojects.entriesByKey,
      Dict.get?_set_of_ne _ _ (fun hsame => hid (congrArg Prod.fst hsame)), h.entry]
  · rw [entryFields, hprojects.journalId, hprojects.version]
    exact h.fields
  · rw [hkey]
    exact hkeeps.entryIds _ _ h.entryId

theorem Recorded.project (hj : Recorded j)
    (hfresh : j.entriesByKey.get? (j.key p.source.fields.eventId) = none)
    (h : j.project p = (.ok e, j')) : Recorded j' := by
  obtain ⟨hprojects, hentry⟩ := entryOf_of_project h
  have hkey : ∀ id, j'.key id = j.key id := fun id => by rw [key, key, hprojects.version]
  refine ⟨hj.consistent.project hprojects, fun key other hother => ?_, fun other hmem => ?_, ?_⟩
  · rw [hprojects.entriesByKey, Dict.get?_set] at hother
    split at hother
    · rename_i hsame
      obtain rfl := Option.some.inj hother
      exact ⟨p, hsame.trans (hkey _).symm, hentry⟩
    · obtain ⟨q, rfl, hq⟩ := hj.entry key other hother
      exact ⟨q, (hkey _).symm, hq.project hfresh h⟩
  · rw [hprojects.entries, List.mem_append, List.mem_singleton] at hmem
    rw [hprojects.entriesByKey]
    rcases hmem with hmem | rfl
    · obtain ⟨key, hget⟩ := hj.known other hmem
      refine ⟨key, ?_⟩
      rw [Dict.get?_set_of_ne _ _ (fun hsame => by rw [hsame, hfresh] at hget; cases hget)]
      exact hget
    · exact ⟨_, Dict.get?_set_self _ _ _⟩
  · rw [hprojects.entries, List.map_append, List.map_singleton, List.nodup_append_comm,
      List.singleton_append, List.nodup_cons]
    refine ⟨fun hmem => ?_, hj.nodup⟩
    obtain ⟨other, hother, hid⟩ := List.mem_map.mp hmem
    obtain ⟨key, hget⟩ := hj.known other hother
    obtain ⟨q, rfl, hq⟩ := hj.entry key other hget
    have hsame : q.source.fields.eventId = p.source.fields.eventId :=
      hq.sourceEventId.symm.trans (hid.trans hentry.sourceEventId)
    rw [hsame, hfresh] at hget
    cases hget

/-- **What the loop of `rebuild` leaves.** -/
theorem recorded_projectAll {ps : List Projection} (hj : Recorded j)
    (hnodup : (ps.map fun p => p.source.fields.eventId).Nodup)
    (hfresh : ∀ p ∈ ps, j.entriesByKey.get? (j.key p.source.fields.eventId) = none)
    (h : projectAll ps j = (.ok (), j')) :
    Recorded j' ∧ (∀ q e, j.EntryOf q e → j'.EntryOf q e) ∧ (∀ p ∈ ps, ∃ e, j'.EntryOf p e)
      ∧ ∀ e ∈ j'.entries, e ∈ j.entries ∨ ∃ p ∈ ps, j'.EntryOf p e := by
  induction ps generalizing j with
  | nil =>
    obtain ⟨-, rfl⟩ := Prod.mk.inj h
    exact ⟨hj, fun _ _ h => h, by simp, fun e he => Or.inl he⟩
  | cons p rest ih =>
    rw [List.map_cons, List.nodup_cons] at hnodup
    rw [List.forall_mem_cons] at hfresh
    rw [projectAll] at h
    rcases hproject : j.project p with ⟨error | entry, k⟩
    · rw [hproject] at h
      cases h
    · rw [hproject, andThen_ok] at h
      obtain ⟨hprojects, hentry⟩ := entryOf_of_project hproject
      obtain ⟨hrecorded, hkept, hnew, hall⟩ := ih (hj.project hfresh.1 hproject) hnodup.2 (by
        intro q hq
        have hid : q.source.fields.eventId ≠ p.source.fields.eventId := fun hid =>
          hnodup.1 (hid ▸ List.mem_map_of_mem hq)
        rw [key, hprojects.version, hprojects.entriesByKey,
          Dict.get?_set_of_ne _ _ (fun hsame => hid (congrArg Prod.fst hsame))]
        exact hfresh.2 q hq) h
      refine ⟨hrecorded, fun q e hq => hkept q e (hq.project hfresh.1 hproject),
        List.forall_mem_cons.mpr ⟨⟨entry, hkept p entry hentry⟩, hnew⟩, fun e he => ?_⟩
      rcases hall e he with he | ⟨q, hq, he⟩
      · rw [hprojects.entries, List.mem_append, List.mem_singleton] at he
        rcases he with he | rfl
        · exact Or.inl he
        · exact Or.inr ⟨p, List.mem_cons_self, hkept p _ hentry⟩
      · exact Or.inr ⟨q, List.mem_cons_of_mem _ hq, he⟩

/-- The loop returns where each fact suits. -/
theorem exists_projectAll (ps : List Projection) (hj : Consistent j) (h : ∀ p ∈ ps, p.Suits) :
    ∃ j', projectAll ps j = (.ok (), j') := by
  induction ps generalizing j with
  | nil => exact ⟨j, rfl⟩
  | cons p rest ih =>
    rw [List.forall_mem_cons] at h
    obtain ⟨entry, k, hproject, hprojects⟩ := exists_project hj h.1
    obtain ⟨j', hj'⟩ := ih (hj.project hprojects) h.2
    exact ⟨j', by rw [projectAll, hproject, andThen_ok, hj']⟩

/-- What `rebuild` projects. -/
def rebuilt (projectedAt : RecordedAt) (phaseForEvent : Dict EntityId JournalPhase)
    (decisionCutoffAt : Option RecordedAt) (source : SourceEvent) : Projection :=
  ⟨source, (phaseForEvent.get? source.fields.eventId).getD .DECISION_TIME, projectedAt, none,
    decisionCutoffAt⟩

/-- A journal without entries. -/
def cleared (j : DecisionJournal) : DecisionJournal :=
  { j with entries := [], entriesByKey := .empty, sources := .empty }

variable {projectedAt : RecordedAt} {phaseForEvent : Dict EntityId JournalPhase}
  {decisionCutoffAt : Option RecordedAt} {sources : List SourceEvent}

theorem rebuild_cases (j : DecisionJournal) (sources : List SourceEvent) (projectedAt : RecordedAt)
    (phaseForEvent : Dict EntityId JournalPhase) (decisionCutoffAt : Option RecordedAt) :
    (∃ e drawn, j.rebuild sources projectedAt phaseForEvent decisionCutoffAt
        = (.error e, { j with drawn }))
      ∨ ∃ facts j', uniqueFacts sources = .ok facts
        ∧ projectAll (facts.map (rebuilt projectedAt phaseForEvent decisionCutoffAt)) j.cleared
          = (.ok (), j')
        ∧ j.rebuild sources projectedAt phaseForEvent decisionCutoffAt = (.ok j'.entries, j') := by
  unfold rebuild
  split
  · rename_i e _
    exact Or.inl ⟨e, j.drawn, rfl⟩
  · rename_i facts hfacts
    dsimp only
    split
    · rename_i e staged _
      exact Or.inl ⟨e, staged.drawn, rfl⟩
    · rename_i staged hall
      exact Or.inr ⟨facts, staged, hfacts, hall, rfl⟩

theorem Recorded.of_drawn (hj : Recorded j) (entryIds : Dict (EntityId × ℤ) ℕ) (drawn : ℕ)
    (hkeeps : KeepsIds j { j with entryIds, drawn }) : Recorded { j with entryIds, drawn } := by
  refine ⟨hj.consistent.of_drawn _ _, fun key e he => ?_, hj.known, hj.nodup⟩
  obtain ⟨p, hkey, hp⟩ := hj.entry key e he
  exact ⟨p, hkey, hp.source, hp.entry, hp.fields, hkeeps.entryIds _ _ hp.entryId⟩

theorem recorded_cleared (hj : Consistent j) : Recorded j.cleared :=
  ⟨⟨hj.version, fun id => by simp [cleared], fun key e he => by simp [cleared] at he⟩,
    fun key e he => by simp [cleared] at he, fun e he => by simp [cleared] at he,
    List.nodup_nil⟩

theorem recorded_rebuilt {facts : List SourceEvent} (hj : Consistent j)
    (hfacts : uniqueFacts sources = .ok facts)
    (h : projectAll (facts.map (rebuilt projectedAt phaseForEvent decisionCutoffAt)) j.cleared
      = (.ok (), j')) :
    Recorded j' ∧ (∀ s ∈ sources, ∃ e,
        j'.EntryOf (rebuilt projectedAt phaseForEvent decisionCutoffAt s) e)
      ∧ ∀ e ∈ j'.entries, ∃ s ∈ sources,
        j'.EntryOf (rebuilt projectedAt phaseForEvent decisionCutoffAt s) e := by
  obtain ⟨-, facts', hfacts', hnodup, hmem⟩ | ⟨-, hfacts'⟩ := uniqueFacts_cases sources
  · obtain rfl := Except.ok.inj (hfacts.symm.trans hfacts')
    obtain ⟨hrecorded, -, hnew, hall⟩ := recorded_projectAll (recorded_cleared hj)
      (by rw [List.map_map]; exact hnodup) (fun p _ => rfl) h
    refine ⟨hrecorded, fun s hs => hnew _ (List.mem_map_of_mem ((hmem s).mpr hs)), fun e he => ?_⟩
    rcases hall e he with he | ⟨p, hp, he⟩
    · cases he
    · obtain ⟨s, hs, rfl⟩ := List.mem_map.mp hp
      exact ⟨s, (hmem s).mp hs, he⟩
  · rw [hfacts] at hfacts'
    cases hfacts'

/-! ### Runs -/

/-- One call. -/
inductive Call : DecisionJournal → DecisionJournal → Prop
  | append (j : DecisionJournal) (p : Projection) : Call j (j.append p).2
  | rebuild (j : DecisionJournal) (sources : List SourceEvent) (projectedAt : RecordedAt)
      (phaseForEvent : Dict EntityId JournalPhase) (decisionCutoffAt : Option RecordedAt) :
      Call j (j.rebuild sources projectedAt phaseForEvent decisionCutoffAt).2

theorem EntryOf.append (h : j.EntryOf p e) : j.append p = (.ok e, j) :=
  append_of_entry h.source h.entry h.fields

theorem EntryOf.suits (h : j.EntryOf p e) : p.Suits := by
  have hvalid : e.fields.postInit = .ok () := e.valid
  rw [h.fields] at hvalid
  simp only [DecisionJournalEntryFields.postInit, require_bind_eq_ok, require_eq_ok] at hvalid
  exact ⟨hvalid.2.1, hvalid.2.2⟩

/-- **An append that returns** has its entry in the journal. -/
theorem entryOf_of_append (hj : Recorded j) (h : (j.append p).1 = .ok e) :
    (j.append p).2.EntryOf p e := by
  by_cases hconflict : ∃ existing ∈ j.sources.get? p.source.fields.eventId, existing ≠ p.source
  · rw [DecisionJournal.append, if_pos hconflict] at h
    cases h
  rw [DecisionJournal.append, if_neg hconflict] at h ⊢
  rcases hget : j.entriesByKey.get? (j.key p.source.fields.eventId) with _ | existing
  · simp only [hget] at h ⊢
    rcases hproject : j.project p with ⟨answer, j'⟩
    rw [hproject] at h
    obtain rfl : answer = .ok e := h
    exact (entryOf_of_project hproject).2
  · simp only [hget] at h ⊢
    obtain ⟨q, hkey, hq⟩ := hj.entry _ _ hget
    have hsource : j.sources.get? p.source.fields.eventId = some p.source := by
      have hid : p.source.fields.eventId = q.source.fields.eventId := congrArg Prod.fst hkey
      have hfact := hq.source
      rw [← hid] at hfact
      rw [hfact]
      by_contra hne
      exact hconflict ⟨_, hfact, fun hsame => hne (congrArg some hsame)⟩
    rcases hmake : Frozen.make (j.entryFields p existing.fields.entryId) with error | requested
    · simp only [hmake] at h
      cases h
    · simp only [hmake] at h ⊢
      split at h
      · cases h
      · rename_i hsame
        obtain rfl := Except.ok.inj h
        rw [if_neg hsame]
        have hfields := Frozen.make_eq_ok.mp hmake
        rw [not_not.mp hsame] at hfields
        exact ⟨hsource, hget, hfields, hkey ▸ hq.entryId⟩

theorem append_raises {error : PyException} (h : (j.append p).1 = .error error) :
    ∃ entryIds drawn, (j.append p).2 = { j with entryIds, drawn } := by
  rcases append_eq_project j p with hsame | ⟨-, heq⟩
  · exact ⟨j.entryIds, j.drawn, hsame⟩
  rcases project_cases p j with ⟨e, entryIds, drawn, hproject⟩ | ⟨entry, j', hproject, -⟩
  · exact ⟨entryIds, drawn, by rw [heq, hproject]⟩
  · rw [heq, hproject] at h
    cases h

theorem KeepsIds.call (h : Call j j') : KeepsIds j j' := by
  cases h with
  | append p =>
    rcases append_eq_project j p with hsame | ⟨-, heq⟩
    · rw [hsame]
      exact .refl j
    · rw [heq]
      exact keepsIds_project p j
  | rebuild sources projectedAt phaseForEvent cutoff =>
    rcases rebuild_cases j sources projectedAt phaseForEvent cutoff with
      ⟨e, drawn, h⟩ | ⟨facts, j', -, hall, h⟩
    · rw [h]
      exact ⟨rfl, rfl, fun _ _ h => h⟩
    · have hkeeps := keepsIds_projectAll (facts.map (rebuilt projectedAt phaseForEvent cutoff))
        j.cleared
      rw [hall] at hkeeps
      rw [h]
      exact ⟨hkeeps.journalId, hkeeps.version, hkeeps.entryIds⟩

theorem Recorded.call (hj : Recorded j) (h : Call j j') : Recorded j' := by
  cases h with
  | append p =>
    rcases append_eq_project j p with hsame | ⟨hfresh, heq⟩
    · rwa [hsame]
    · have hkeeps := keepsIds_project p j
      rw [heq]
      rcases project_cases p j with ⟨e, entryIds, drawn, hproject⟩ | ⟨entry, j', hproject, -⟩
      · rw [hproject] at hkeeps ⊢
        exact hj.of_drawn _ _ hkeeps
      · rw [hproject]
        exact hj.project hfresh hproject
  | rebuild sources projectedAt phaseForEvent cutoff =>
    rcases rebuild_cases j sources projectedAt phaseForEvent cutoff with
      ⟨e, drawn, h⟩ | ⟨facts, j', hfacts, hall, h⟩
    · rw [h]
      exact hj.of_drawn _ _ ⟨rfl, rfl, fun _ _ h => h⟩
    · rw [h]
      exact (recorded_rebuilt hj.consistent hfacts hall).1

theorem Built.recorded (h : Built j) : Recorded j := by
  induction h with
  | new h =>
    have hj := Consistent.of_new h
    obtain ⟨-, h⟩ := of_require h
    obtain rfl := Except.ok.inj h
    exact recorded_cleared hj
  | append p _ ih => exact ih.call (.append _ p)
  | rebuild sources projectedAt phaseForEvent cutoff _ ih => exact ih.call (.rebuild _ _ _ _ _)

/-- **An entry keeps its id.** -/
theorem entryId_of_calls (hj : Recorded j) (h : Relation.ReflTransGen Call j j')
    {e' : DecisionJournalEntry} (he : e ∈ j.entries) (he' : e' ∈ j'.entries)
    (hid : e'.fields.sourceEventId = e.fields.sourceEventId) :
    e'.fields.entryId = e.fields.entryId := by
  have hlater : Recorded j' ∧ KeepsIds j j' := by
    clear he'
    induction h with
    | refl => exact ⟨hj, .refl j⟩
    | tail _ hcall ih => exact ⟨ih.1.call hcall, ih.2.trans (.call hcall)⟩
  obtain ⟨key, hget⟩ := hj.known e he
  obtain ⟨p, rfl, hp⟩ := hj.entry key e hget
  obtain ⟨key', hget'⟩ := hlater.1.known e' he'
  obtain ⟨q, rfl, hq⟩ := hlater.1.entry key' e' hget'
  have hsame := hlater.2.entryIds _ _ hp.entryId
  rw [← hp.sourceEventId, ← hid, hq.sourceEventId, key, ← hlater.2.version] at hsame
  exact Option.some.inj (hq.entryId.symm.trans hsame)

/-! ### Rebuilds of what was appended -/

/-- The rebuild is of the facts of the journal, with their phases, projection time and cutoff. -/
structure Rebuilds (j : DecisionJournal) (sources : List SourceEvent) (projectedAt : RecordedAt)
    (phaseForEvent : Dict EntityId JournalPhase) (decisionCutoffAt : Option RecordedAt) : Prop where
  sources : ∀ s, s ∈ sources ↔ s ∈ j.sources.values
  entry : ∀ e ∈ j.entries, e.fields.projectedAt = projectedAt
    ∧ e.fields.decisionCutoffAt = decisionCutoffAt
    ∧ (phaseForEvent.get? e.fields.sourceEventId).getD .DECISION_TIME = e.fields.phase

section

variable (hj : Recorded j)
  (h : Rebuilds j sources projectedAt phaseForEvent decisionCutoffAt)

include hj h

theorem Rebuilds.rebuilt (hp : j.EntryOf p e) :
    p.source ∈ sources ∧ rebuilt projectedAt phaseForEvent decisionCutoffAt p.source
      = { p with episodeId := none } := by
  obtain ⟨hprojected, hcutoff, hphase⟩ := h.entry e (hj.consistent.listed _ e hp.entry)
  refine ⟨(h.sources _).mpr (Dict.mem_values_iff.mpr ⟨_, hp.source⟩), ?_⟩
  rw [hp.fields] at hprojected hcutoff hphase
  rw [DecisionJournal.rebuilt, ← hprojected, ← hcutoff]
  exact congrArg (fun phase => Projection.mk p.source phase p.projectedAt none p.decisionCutoffAt)
    hphase

theorem Rebuilds.exists_entry {s : SourceEvent} (hs : s ∈ sources) : ∃ p e, p.source = s
    ∧ j.EntryOf p e := by
  obtain ⟨id, hid⟩ := Dict.mem_values_iff.mp ((h.sources s).mp hs)
  rcases hget : j.entriesByKey.get? (j.key id) with _ | e
  · rw [(hj.consistent.together id).mpr hget] at hid
    cases hid
  · obtain ⟨p, hkey, hp⟩ := hj.entry _ e hget
    have hsame : id = p.source.fields.eventId := congrArg Prod.fst hkey
    exact ⟨p, e, Option.some.inj (hp.source.symm.trans (hsame ▸ hid)), hp⟩

/-- **The rebuild returns**, with the entries of the journal without their episodes. -/
theorem Rebuilds.exists_rebuild : ∃ j', j.rebuild sources projectedAt phaseForEvent decisionCutoffAt
      = (.ok j'.entries, j') ∧ Recorded j'
    ∧ (∀ p e, j.EntryOf p e → ∃ e', j'.EntryOf { p with episodeId := none } e'
      ∧ e'.fields = { e.fields with episodeId := none })
    ∧ ∀ e' ∈ j'.entries, ∃ e ∈ j.entries, e'.fields = { e.fields with episodeId := none } := by
  obtain ⟨-, facts, hfacts, -, hmem⟩ | ⟨hconflict, -⟩ := uniqueFacts_cases sources
  · obtain ⟨j', hall⟩ := exists_projectAll
      (facts.map (DecisionJournal.rebuilt projectedAt phaseForEvent decisionCutoffAt))
      (recorded_cleared hj.consistent).consistent (by
        intro p hp
        obtain ⟨s, hs, rfl⟩ := List.mem_map.mp hp
        obtain ⟨q, e, rfl, hq⟩ := h.exists_entry hj ((hmem s).mp hs)
        rw [(h.rebuilt hj hq).2]
        exact ⟨hq.suits.available, hq.suits.cutoff⟩)
    have hrebuild : j.rebuild sources projectedAt phaseForEvent decisionCutoffAt
        = (.ok j'.entries, j') := by
      unfold DecisionJournal.rebuild
      rw [hfacts]
      dsimp only
      split
      · rename_i herror
        cases hall.symm.trans herror
      · rename_i hreturned
        obtain ⟨-, rfl⟩ := Prod.mk.inj (hall.symm.trans hreturned)
        rfl
    have hkeeps : KeepsIds j j' := by
      have hcall := KeepsIds.call (.rebuild j sources projectedAt phaseForEvent decisionCutoffAt)
      rwa [hrebuild] at hcall
    obtain ⟨hrecorded, hnew, hentries⟩ := recorded_rebuilt hj.consistent hfacts hall
    have hfields : ∀ p e e', j.EntryOf p e → j'.EntryOf { p with episodeId := none } e' →
        e'.fields = { e.fields with episodeId := none } := by
      intro p e e' hp hp'
      have hid := hkeeps.entryIds _ _ hp.entryId
      rw [key, ← hkeeps.version] at hid
      have hsame := Option.some.inj (hp'.entryId.symm.trans hid)
      rw [hp'.fields, hp.fields, hsame]
      simp only [entryFields, hkeeps.journalId, hkeeps.version]
    refine ⟨j', hrebuild, hrecorded, fun p e hp => ?_, fun e' he' => ?_⟩
    · obtain ⟨hs, heq⟩ := h.rebuilt hj hp
      obtain ⟨e', he'⟩ := hnew _ hs
      rw [heq] at he'
      exact ⟨e', he', hfields p e e' hp he'⟩
    · obtain ⟨s, hs, he⟩ := hentries e' he'
      obtain ⟨p, e, rfl, hp⟩ := h.exists_entry hj hs
      rw [(h.rebuilt hj hp).2] at he
      exact ⟨e, hj.consistent.listed _ e hp.entry, hfields p e e' hp he⟩
  · refine absurd (fun s hs t ht hid => ?_) hconflict
    obtain ⟨p, _, rfl, hp⟩ := h.exists_entry hj hs
    obtain ⟨q, _, rfl, hq⟩ := h.exists_entry hj ht
    exact Option.some.inj (hp.source.symm.trans (hid ▸ hq.source))

/-- **Which appends can be replayed** after the rebuild, and when it makes the same entries. -/
theorem Rebuilds.replays_iff : ∃ j', j.rebuild sources projectedAt phaseForEvent decisionCutoffAt
      = (.ok j'.entries, j')
    ∧ (j'.entries.Perm j.entries ↔ ∀ e ∈ j.entries, e.fields.episodeId = none)
    ∧ ∀ p e, j.EntryOf p e → ((j'.append p).1 = .ok e ↔ p.episodeId = none) := by
  obtain ⟨j', hrebuild, hrecorded, hnew, hold⟩ := h.exists_rebuild hj
  have hsame : ∀ {e e' : DecisionJournalEntry}, e'.fields = { e.fields with episodeId := none } →
      e.fields.episodeId = none → e' = e := by
    intro e e' he hnone
    exact Frozen.ext (he.trans (by rw [← hnone]))
  have hentry : ∀ e ∈ j.entries, ∃ p, j.EntryOf p e := fun e he => by
    obtain ⟨key, hget⟩ := hj.known e he
    obtain ⟨p, -, hp⟩ := hj.entry key e hget
    exact ⟨p, hp⟩
  refine ⟨j', hrebuild, ?_, fun p e hp => ?_⟩
  · rw [List.perm_ext_iff_of_nodup hrecorded.nodup.of_map hj.nodup.of_map]
    constructor
    · intro hperm e he
      obtain ⟨e', -, hfields⟩ := hold e ((hperm e).mpr he)
      rw [hfields]
    · refine fun hnone e => ⟨fun he => ?_, fun he => ?_⟩
      · obtain ⟨e', he', hfields⟩ := hold e he
        rwa [hsame hfields (hnone e' he')]
      · obtain ⟨p, hp⟩ := hentry e he
        obtain ⟨e', he', hfields⟩ := hnew p e hp
        rw [← hsame hfields (hnone e he)]
        exact hrecorded.consistent.listed _ e' he'.entry
  · obtain ⟨e', he', hfields⟩ := hnew p e hp
    have hepisode : e.fields.episodeId = p.episodeId := by rw [hp.fields]; rfl
    constructor
    · intro happend
      have hreturned := entryOf_of_append hrecorded happend
      rcases append_eq_project j' p with hleft | ⟨hfresh, -⟩
      · rw [hleft] at hreturned
        obtain rfl := Option.some.inj (he'.entry.symm.trans hreturned.entry)
        rw [← hepisode, hfields]
      · rw [show j'.entriesByKey.get? (j'.key p.source.fields.eventId) = _ from he'.entry] at hfresh
        cases hfresh
    · intro hnone
      obtain rfl := hsame hfields (hepisode.trans hnone)
      have hp' : { p with episodeId := none } = p := by rw [← hnone]
      rw [hp'] at he'
      rw [he'.append]

end

/-- **What appends and rebuilds keep**, and which appends can be replayed after a rebuild: those that
name no episode. -/
theorem rebuilds_iff (hj : Built j) :
    (∀ xs ys : List SourceEvent, (∀ s, s ∈ xs ↔ s ∈ ys) → ∀ projectedAt phases cutoff,
        j.rebuild xs projectedAt phases cutoff = j.rebuild ys projectedAt phases cutoff)
      ∧ (∀ j', Relation.ReflTransGen Call j j' → ∀ e ∈ j.entries, ∀ e' ∈ j'.entries,
        e'.fields.sourceEventId = e.fields.sourceEventId → e'.fields.entryId = e.fields.entryId)
      ∧ (∀ p error, (j.append p).1 = .error error →
        (j.append p).2.entries = j.entries ∧ (j.append p).2.sources = j.sources)
      ∧ (∀ sources projectedAt phases cutoff error,
        (j.rebuild sources projectedAt phases cutoff).1 = .error error →
          (j.rebuild sources projectedAt phases cutoff).2.entries = j.entries
            ∧ (j.rebuild sources projectedAt phases cutoff).2.sources = j.sources)
      ∧ (∀ p e, (j.append p).1 = .ok e → (j.append p).2.EntryOf p e)
      ∧ ∀ sources projectedAt phases cutoff, Rebuilds j sources projectedAt phases cutoff →
        ∃ j', j.rebuild sources projectedAt phases cutoff = (.ok j'.entries, j')
          ∧ (j'.entries.Perm j.entries ↔ ∀ e ∈ j.entries, e.fields.episodeId = none)
          ∧ ∀ p e, j.EntryOf p e → ((j'.append p).1 = .ok e ↔ p.episodeId = none) := by
  have hrecorded := hj.recorded
  refine ⟨fun xs ys hsame projectedAt phases cutoff => ?_,
    fun j' hcalls e he e' he' => entryId_of_calls hrecorded hcalls he he', fun p error herror => ?_,
    fun sources projectedAt phases cutoff error herror => ?_, fun p e => entryOf_of_append hrecorded,
    fun sources projectedAt phases cutoff h => h.replays_iff hrecorded⟩
  · rw [rebuild, rebuild, uniqueFacts_congr hsame]
  · obtain ⟨entryIds, drawn, h⟩ := append_raises herror
    rw [h]
    exact ⟨rfl, rfl⟩
  · rcases rebuild_cases j sources projectedAt phases cutoff with
      ⟨e, drawn, h⟩ | ⟨facts, j', -, -, h⟩
    · rw [h]
      exact ⟨rfl, rfl⟩
    · rw [h] at herror
      cases herror

/-! ### An append that can not be replayed -/

def sampleTime : RecordedAt := ⟨.of 2026 7 13 (Eq.refl true), 9, 0, 0, 0⟩

/-- A fact, and its projection for an episode. -/
def sampleFact : SourceEvent where
  fields :=
    { eventId := .epoch "source_event" 0 0 (Eq.refl true)
      sourceContext := "accounting"
      sourceVersion := 1
      eventType := "fill"
      occurredAt := sampleTime
      availableAt := sampleTime
      payloadHash := List.replicate 64 (Text.ofChar 'a')
      correlationId := .epoch "correlation" 0 0 (Eq.refl true) }
  valid := by decide +kernel

def sampleProjection : Projection where
  source := sampleFact
  phase := .POST_HOC
  projectedAt := sampleTime
  episodeId := some (.epoch "decision_episode" 0 0 (Eq.refl true))

def sampleNew : DecisionJournal :=
  { journalId := .epoch "decision_journal" 0 0 (Eq.refl true), projectionVersion := 1 }

theorem built_sampleNew : Built sampleNew := @Built.new _ 1 _ rfl

def samplePhases : Dict EntityId JournalPhase := Dict.empty.set sampleFact.fields.eventId .POST_HOC

theorem rebuilds_sample :
    Rebuilds (sampleNew.append sampleProjection).2 [sampleFact] sampleTime samplePhases none where
  sources s := by
    rw [show (sampleNew.append sampleProjection).2.sources.values = [sampleFact] by decide +kernel]
  entry := by decide +kernel

/-- **An append that names an episode** is not replayed after a rebuild. -/
theorem append_not_replayed : ∃ e, (sampleNew.append sampleProjection).1 = .ok e
    ∧ (((sampleNew.append sampleProjection).2.rebuild [sampleFact] sampleTime samplePhases).2.append
        sampleProjection).1 ≠ .ok e := by
  rcases happend : (sampleNew.append sampleProjection).1 with error | e
  · have hok : (sampleNew.append sampleProjection).1.isOk = true := by decide +kernel
    rw [happend] at hok
    cases hok
  · obtain ⟨j', hrebuild, -, hreplays⟩ := rebuilds_sample.replays_iff
      (built_sampleNew.append sampleProjection).recorded
    refine ⟨e, rfl, ?_⟩
    rw [hrebuild, Ne, hreplays _ e (entryOf_of_append built_sampleNew.recorded happend)]
    decide

theorem rebuilds_iff_sample :
    ∃ j', (sampleNew.append sampleProjection).2.rebuild [sampleFact] sampleTime samplePhases
        = (.ok j'.entries, j')
      ∧ (j'.entries.Perm (sampleNew.append sampleProjection).2.entries
        ↔ ∀ e ∈ (sampleNew.append sampleProjection).2.entries, e.fields.episodeId = none)
      ∧ ∀ p e, (sampleNew.append sampleProjection).2.EntryOf p e →
        ((j'.append p).1 = .ok e ↔ p.episodeId = none) :=
  (rebuilds_iff (built_sampleNew.append sampleProjection)).2.2.2.2.2 _ _ _ _ rebuilds_sample

end DecisionJournal

end FuturesAgentOs
