import FuturesAgentOs.PyModel.Calls
import FuturesAgentOs.PyModel.Dict
import FuturesAgentOs.SharedKernel.Ids
import FuturesAgentOs.SharedKernel.Time

namespace FuturesAgentOs

open PyModel

/-!
# The decision journal

`learning_review/projection_contracts.py`: an append-only projection of published facts.  A fact is
journaled once: appending it again returns the entry it has, and anything else under its identity is
a conflict.  Identifiers of entries are the numbers of the draws of `EntityId.new`.

* `append_new`, `append_again` — when an append returns.
-/

inductive JournalPhase where
  | DECISION_TIME
  | POST_HOC
  deriving DecidableEq

structure SourceEventFields where
  eventId : EntityId
  sourceContext : Text
  sourceVersion : ℤ
  eventType : Text
  occurredAt : RecordedAt
  availableAt : RecordedAt
  payloadHash : Text
  correlationId : EntityId
  deriving DecidableEq

def SourceEventFields.postInit (f : SourceEventFields) : Py Unit := do
  require (f.sourceContext ≠ [] ∧ f.eventType ≠ [] ∧ 1 ≤ f.sourceVersion)
    (valueError "source events require context, event type, and positive version")
  require (f.occurredAt ≤ f.availableAt)
    (valueError "source facts cannot become available before occurring")
  require f.payloadHash.IsHexDigest
    (valueError "source events require a lowercase SHA-256 payload hash")

instance : Dataclass SourceEventFields := ⟨SourceEventFields.postInit⟩

/-- A published fact. -/
abbrev SourceEvent := Frozen SourceEventFields

structure DecisionJournalEntryFields where
  entryId : ℕ
  journalId : EntityId
  sourceEventId : EntityId
  projectionVersion : ℤ
  phase : JournalPhase
  sourceHash : Text
  observedAt : RecordedAt
  availableAt : RecordedAt
  projectedAt : RecordedAt
  decisionCutoffAt : Option RecordedAt := none
  episodeId : Option EntityId := none
  deriving DecidableEq

def DecisionJournalEntryFields.postInit (f : DecisionJournalEntryFields) : Py Unit := do
  require (1 ≤ f.projectionVersion ∧ f.sourceHash.IsHexDigest)
    (valueError "journal entries require projection version and source hash")
  require (f.availableAt ≤ f.projectedAt)
    (valueError "journal entries must not project unavailable facts")
  require (f.phase = .DECISION_TIME → f.decisionCutoffAt.any (fun cutoff => f.availableAt ≤ cutoff))
    (valueError "decision-time entries require an authoritative decision cutoff")

instance : Dataclass DecisionJournalEntryFields := ⟨DecisionJournalEntryFields.postInit⟩

/-- A fact in the journal. -/
abbrev DecisionJournalEntry := Frozen DecisionJournalEntryFields

/-- `_unique_facts`, before it sorts. -/
def collectFacts : List SourceEvent → Dict EntityId SourceEvent → Py (Dict EntityId SourceEvent)
  | [], unique => .ok unique
  | source :: rest, unique => do
    require (∀ existing ∈ unique.get? source.fields.eventId, existing = source)
      (valueError "source event id conflicts with a different immutable fact")
    collectFacts rest (unique.set source.fields.eventId source)

def uniqueFacts (sources : List SourceEvent) : Py (List SourceEvent) := do
  let unique ← collectFacts sources .empty
  .ok (unique.values.mergeSort fun s t => s.fields.availableAt < t.fields.availableAt
    ∨ s.fields.availableAt = t.fields.availableAt ∧ Text.le s.fields.eventId.str t.fields.eventId.str)

structure DecisionJournal where
  journalId : EntityId
  projectionVersion : ℤ
  entries : List DecisionJournalEntry := []
  entriesByKey : Dict (EntityId × ℤ) DecisionJournalEntry := .empty
  sources : Dict EntityId SourceEvent := .empty
  entryIds : Dict (EntityId × ℤ) ℕ := .empty
  /-- how many ids were drawn -/
  drawn : ℕ := 0

namespace DecisionJournal

/-- `DecisionJournal(…)` -/
def new (journalId : EntityId) (projectionVersion : ℤ := 1) : Py DecisionJournal := do
  require (1 ≤ projectionVersion) (valueError "projection version must be positive")
  .ok { journalId, projectionVersion }

/-- What an append is about: the fact, and how it is projected. -/
structure Projection where
  source : SourceEvent
  phase : JournalPhase
  projectedAt : RecordedAt
  episodeId : Option EntityId := none
  decisionCutoffAt : Option RecordedAt := none

variable (j : DecisionJournal) (p : Projection)

/-- `(source.event_id, self.projection_version)` -/
def key (eventId : EntityId) : EntityId × ℤ := (eventId, j.projectionVersion)

/-- The fields of the entry of a fact. -/
def entryFields (entryId : ℕ) : DecisionJournalEntryFields where
  entryId
  journalId := j.journalId
  sourceEventId := p.source.fields.eventId
  projectionVersion := j.projectionVersion
  phase := p.phase
  sourceHash := p.source.fields.payloadHash
  observedAt := p.source.fields.occurredAt
  availableAt := p.source.fields.availableAt
  projectedAt := p.projectedAt
  decisionCutoffAt := p.decisionCutoffAt
  episodeId := p.episodeId

/-- `self._entry_ids.setdefault(key, EntityId.new("decision_journal_entry"))`, which draws in any
case. -/
def drawEntryId (eventId : EntityId) : ℕ × DecisionJournal :=
  match j.entryIds.get? (j.key eventId) with
  | some entryId => (entryId, { j with drawn := j.drawn + 1 })
  | none =>
    (j.drawn, { j with
      entryIds := j.entryIds.set (j.key eventId) j.drawn
      drawn := j.drawn + 1 })

/-- The last part of `append`, and a round of the loop of `rebuild`: a new entry. -/
def project : Outcome DecisionJournal DecisionJournalEntry :=
  let (entryId, j) := j.drawEntryId p.source.fields.eventId
  match Frozen.make (j.entryFields p entryId) with
  | .error e => (.error e, j)
  | .ok entry =>
    (.ok entry, { j with
      sources := j.sources.set p.source.fields.eventId p.source
      entriesByKey := j.entriesByKey.set (j.key p.source.fields.eventId) entry
      entries := j.entries ++ [entry] })

def append : Outcome DecisionJournal DecisionJournalEntry :=
  if ∃ existing ∈ j.sources.get? p.source.fields.eventId, existing ≠ p.source then
    (.error (valueError "source event id conflicts with a different immutable fact"), j)
  else
    match j.entriesByKey.get? (j.key p.source.fields.eventId) with
    | none => j.project p
    | some existing =>
      match Frozen.make (j.entryFields p existing.fields.entryId) with
      | .error e => (.error e, j)
      | .ok requested =>
        if requested ≠ existing then
          (.error (valueError "source event already projects a conflicting journal entry"), j)
        else (.ok existing, j)

/-- The loop of `rebuild`. -/
def projectAll : List Projection → DecisionJournal → Outcome DecisionJournal Unit
  | [], j => (.ok (), j)
  | p :: rest, j => andThen (j.project p) fun _ j => projectAll rest j

/-- `rebuild`, of which a failure leaves nothing but the ids it drew. -/
def rebuild (sources : List SourceEvent) (projectedAt : RecordedAt)
    (phaseForEvent : Dict EntityId JournalPhase := .empty)
    (decisionCutoffAt : Option RecordedAt := none) :
    Outcome DecisionJournal (List DecisionJournalEntry) :=
  match uniqueFacts sources with
  | .error e => (.error e, j)
  | .ok ordered =>
    let projections := ordered.map fun source => Projection.mk source
      ((phaseForEvent.get? source.fields.eventId).getD .DECISION_TIME) projectedAt none
      decisionCutoffAt
    match projectAll projections { j with entries := [], entriesByKey := .empty, sources := .empty } with
    | (.error e, staged) => (.error e, { j with drawn := staged.drawn })
    | (.ok (), staged) => (.ok staged.entries, staged)

/-! ### The journals that these calls make -/

/-- A journal that appends and rebuilds have made. -/
inductive Built : DecisionJournal → Prop where
  | new {journalId : EntityId} {projectionVersion : ℤ} {j : DecisionJournal} :
      new journalId projectionVersion = .ok j → Built j
  | append {j : DecisionJournal} (p : Projection) : Built j → Built (j.append p).2
  | rebuild {j : DecisionJournal} (sources : List SourceEvent) (projectedAt : RecordedAt)
      (phaseForEvent : Dict EntityId JournalPhase) (decisionCutoffAt : Option RecordedAt) :
      Built j → Built (j.rebuild sources projectedAt phaseForEvent decisionCutoffAt).2

/-- What holds of a journal: a fact and its entry are recorded together, and the entry is one that
this journal makes of the fact. -/
structure Consistent (j : DecisionJournal) : Prop where
  version : 1 ≤ j.projectionVersion
  together : ∀ id, j.sources.get? id = none ↔ j.entriesByKey.get? (j.key id) = none
  listed : ∀ key entry, j.entriesByKey.get? key = some entry → entry ∈ j.entries

variable {j j' : DecisionJournal} {p q : Projection}

theorem Consistent.of_new {journalId : EntityId} {version : ℤ} (h : new journalId version = .ok j) :
    Consistent j := by
  obtain ⟨hversion, h⟩ := of_require h
  obtain rfl := Except.ok.inj h
  exact ⟨hversion, fun id => by simp, fun key entry hentry => by simp at hentry⟩

/-- What a new entry changes. -/
structure Projects (p : Projection) (j j' : DecisionJournal) (entry : DecisionJournalEntry) : Prop where
  journalId : j'.journalId = j.journalId
  version : j'.projectionVersion = j.projectionVersion
  fields : ∃ entryId, entry.fields = j.entryFields p entryId
  sources : j'.sources = j.sources.set p.source.fields.eventId p.source
  entriesByKey : j'.entriesByKey = j.entriesByKey.set (j.key p.source.fields.eventId) entry
  entries : j'.entries = j.entries ++ [entry]

theorem drawEntryId_frame (j : DecisionJournal) (eventId : EntityId) :
    ∃ entryIds drawn, (j.drawEntryId eventId).2 = { j with entryIds, drawn } := by
  unfold drawEntryId
  split
  · exact ⟨_, _, rfl⟩
  · exact ⟨_, _, rfl⟩

/-- **What a projection does**: it raises and leaves facts and entries, or adds an entry. -/
theorem project_cases (p : Projection) (j : DecisionJournal) :
    (∃ e entryIds drawn, j.project p = (.error e, { j with entryIds, drawn }))
      ∨ ∃ entry j', j.project p = (.ok entry, j') ∧ Projects p j j' entry := by
  obtain ⟨entryIds, drawn, hdraw⟩ := j.drawEntryId_frame p.source.fields.eventId
  unfold project
  dsimp only
  rw [hdraw]
  rcases hmake : Frozen.make (entryFields { j with entryIds, drawn } p
      (j.drawEntryId p.source.fields.eventId).1) with e | entry
  · exact Or.inl ⟨e, entryIds, drawn, rfl⟩
  · exact Or.inr ⟨entry, _, rfl, rfl, rfl, ⟨_, Frozen.make_eq_ok.mp hmake⟩, rfl, rfl, rfl⟩

variable {entry : DecisionJournalEntry}

theorem Consistent.project (hj : Consistent j) (h : Projects p j j' entry) : Consistent j' := by
  refine ⟨h.version ▸ hj.version, fun id => ?_, fun key other hother => ?_⟩
  · unfold key
    rw [h.sources, h.entriesByKey, h.version, Dict.get?_set, Dict.get?_set]
    by_cases hid : id = p.source.fields.eventId
    · simp [hid, DecisionJournal.key]
    · have hkey : (id, j.projectionVersion) ≠ j.key p.source.fields.eventId := by
        intro hsame
        exact hid (congrArg Prod.fst hsame)
      rw [if_neg hid, if_neg hkey]
      exact hj.together id
  · rw [h.entriesByKey, Dict.get?_set] at hother
    rw [h.entries, List.mem_append, List.mem_singleton]
    split at hother
    · exact Or.inr (Option.some.inj hother).symm
    · exact Or.inl (hj.listed key other hother)

theorem Consistent.of_drawn (hj : Consistent j) (entryIds : Dict (EntityId × ℤ) ℕ) (drawn : ℕ) :
    Consistent { j with entryIds, drawn } :=
  ⟨hj.version, hj.together, hj.listed⟩

/-- **An append** leaves the journal, or draws an id, or adds an entry. -/
theorem append_cases (p : Projection) (j : DecisionJournal) :
    (j.append p).2 = j ∨ (∃ e, j.append p = (.error e, (j.project p).2))
      ∨ j.append p = j.project p ∧ ∃ entry j', j.project p = (.ok entry, j') := by
  unfold append
  split
  · exact Or.inl rfl
  split
  · rcases hproject : j.project p with ⟨e | entry, j'⟩
    · exact Or.inr (Or.inl ⟨e, rfl⟩)
    · exact Or.inr (Or.inr ⟨rfl, entry, j', rfl⟩)
  · split
    · exact Or.inl rfl
    · split
      · exact Or.inl rfl
      · exact Or.inl rfl

theorem Consistent.project' (hj : Consistent j) (p : Projection) : Consistent (j.project p).2 := by
  rcases project_cases p j with ⟨e, entryIds, drawn, h⟩ | ⟨entry, j', h, hprojects⟩
  · rw [h]
    exact hj.of_drawn entryIds drawn
  · rw [h]
    exact hj.project hprojects

theorem Consistent.append (hj : Consistent j) (p : Projection) : Consistent (j.append p).2 := by
  rcases append_cases p j with h | ⟨e, h⟩ | ⟨h, -⟩
  · rw [h]
    exact hj
  · rw [h]
    exact hj.project' p
  · rw [h]
    exact hj.project' p

theorem Consistent.projectAll (hj : Consistent j) (ps : List Projection) :
    Consistent (projectAll ps j).2 := by
  induction ps generalizing j with
  | nil => exact hj
  | cons p rest ih =>
    rw [DecisionJournal.projectAll]
    have hproject := hj.project' p
    rcases h : j.project p with ⟨e | entry, j'⟩
    · rw [h] at hproject
      exact hproject
    · rw [h] at hproject
      exact ih hproject

/-- **Every journal is consistent.** -/
theorem Built.consistent (h : Built j) : Consistent j := by
  induction h with
  | new h => exact Consistent.of_new h
  | append p _ ih => exact ih.append p
  | @rebuild j sources projectedAt phaseForEvent cutoff _ ih =>
    unfold DecisionJournal.rebuild
    split
    · exact ih
    · rename_i ordered _
      have hempty : Consistent { j with entries := [], entriesByKey := .empty, sources := .empty } :=
        ⟨ih.version, fun id => by simp, fun key entry hentry => by simp at hentry⟩
      have hstaged := hempty.projectAll (ordered.map fun source => Projection.mk source
        ((phaseForEvent.get? source.fields.eventId).getD .DECISION_TIME) projectedAt none cutoff)
      dsimp only
      split
      · exact ih.of_drawn _ _
      · rename_i staged hall
        rw [hall] at hstaged
        exact hstaged

/-! ### When an append returns -/

/-- The fact has been journaled, and just as the projection says. -/
def Holds (j : DecisionJournal) (p : Projection) : Prop :=
  j.sources.get? p.source.fields.eventId = some p.source
    ∧ ∃ entry ∈ j.entries, j.entriesByKey.get? (j.key p.source.fields.eventId) = some entry
      ∧ entry.fields = j.entryFields p entry.fields.entryId

instance (j : DecisionJournal) (p : Projection) : Decidable (j.Holds p) :=
  inferInstanceAs (Decidable (_ ∧ ∃ entry ∈ j.entries, _))

/-- Nothing is known under the identity of the fact. -/
def Unknown (j : DecisionJournal) (eventId : EntityId) : Prop := j.sources.get? eventId = none

theorem append_of_entry (hsource : j.sources.get? p.source.fields.eventId = some p.source)
    (hentry : j.entriesByKey.get? (j.key p.source.fields.eventId) = some entry)
    (hfields : entry.fields = j.entryFields p entry.fields.entryId) :
    j.append p = (.ok entry, j) := by
  have hsame : ¬ ∃ existing ∈ j.sources.get? p.source.fields.eventId, existing ≠ p.source := by
    simp [hsource]
  have hmake : Frozen.make (j.entryFields p entry.fields.entryId) = .ok entry :=
    Frozen.make_eq_ok.mpr hfields
  simp only [append, if_neg hsame, hentry, hmake]
  simp

theorem append_again (h : j.Holds p) : ∃ entry, j.append p = (.ok entry, j) := by
  obtain ⟨hsource, entry, -, hentry, hfields⟩ := h
  exact ⟨entry, append_of_entry hsource hentry hfields⟩

/-- A projection that an entry can be made of, in every journal. -/
structure Projection.Suits (p : Projection) : Prop where
  available : p.source.fields.availableAt ≤ p.projectedAt
  cutoff : p.phase = .DECISION_TIME →
    p.decisionCutoffAt.any (fun cutoff => p.source.fields.availableAt ≤ cutoff) = true

theorem payloadHash_isHexDigest (source : SourceEvent) : source.fields.payloadHash.IsHexDigest := by
  have h : source.fields.postInit = .ok () := source.valid
  simp only [SourceEventFields.postInit, require_bind_eq_ok, require_eq_ok] at h
  exact h.2.2

theorem exists_project (hj : Consistent j) (hsuits : p.Suits) :
    ∃ entry j', j.project p = (.ok entry, j') ∧ Projects p j j' entry := by
  unfold project
  obtain ⟨entryIds, drawn, hdraw⟩ := j.drawEntryId_frame p.source.fields.eventId
  dsimp only
  rw [hdraw]
  have hvalid : postInit (entryFields { j with entryIds, drawn } p
      (j.drawEntryId p.source.fields.eventId).1) = .ok () := by
    show DecisionJournalEntryFields.postInit _ = _
    simp only [DecisionJournalEntryFields.postInit, require_bind_eq_ok, require_eq_ok]
    exact ⟨⟨hj.version, payloadHash_isHexDigest p.source⟩, hsuits.available, hsuits.cutoff⟩
  obtain ⟨entry, hmake⟩ := Frozen.exists_make_iff.mpr hvalid
  rw [hmake]
  exact ⟨entry, _, rfl, rfl, rfl, ⟨_, Frozen.make_eq_ok.mp hmake⟩, rfl, rfl, rfl⟩

/-- **A new fact is journaled**, and nothing else changes. -/
theorem append_new (hj : Consistent j) (hsuits : p.Suits)
    (hunknown : j.Unknown p.source.fields.eventId) :
    ∃ entry j', j.append p = (.ok entry, j') ∧ Projects p j j' entry := by
  have hentry := (hj.together p.source.fields.eventId).mp hunknown
  have happend : j.append p = j.project p := by
    unfold append
    have hno : ¬ ∃ existing ∈ j.sources.get? p.source.fields.eventId, existing ≠ p.source := by
      simp [show j.sources.get? _ = _ from hunknown]
    rw [if_neg hno, hentry]
  rw [happend]
  exact exists_project hj hsuits

theorem Projects.holds (h : Projects p j j' entry) : j'.Holds p := by
  refine ⟨by rw [h.sources, Dict.get?_set_self], entry, ?_, ?_, ?_⟩
  · rw [h.entries, List.mem_append, List.mem_singleton]
    exact Or.inr rfl
  · show j'.entriesByKey.get? (_, j'.projectionVersion) = _
    rw [h.entriesByKey, h.version]
    exact Dict.get?_set_self _ _ _
  · obtain ⟨entryId, hfields⟩ := h.fields
    rw [hfields]
    simp only [entryFields, h.journalId, h.version]

/-- What is held stays held when a new fact is journaled. -/
theorem Projects.holds_mono (h : Projects p j j' entry)
    (hunknown : j.Unknown p.source.fields.eventId) (hq : j.Holds q) : j'.Holds q := by
  obtain ⟨hsource, other, hmem, hother, hfields⟩ := hq
  have hne : q.source.fields.eventId ≠ p.source.fields.eventId := by
    intro hsame
    rw [hsame, hunknown] at hsource
    cases hsource
  have hkey : j.key q.source.fields.eventId ≠ j.key p.source.fields.eventId := fun hsame =>
    hne (congrArg Prod.fst hsame)
  refine ⟨by rw [h.sources, Dict.get?_set_of_ne _ _ hne, hsource], other, ?_, ?_, ?_⟩
  · rw [h.entries, List.mem_append]
    exact Or.inl hmem
  · rw [key, h.version, h.entriesByKey]
    exact (Dict.get?_set_of_ne _ _ hkey).trans hother
  · rw [hfields]
    simp only [entryFields, h.journalId, h.version]

theorem Projects.unknown_iff (h : Projects p j j' entry)
    {eventId : EntityId} (hne : eventId ≠ p.source.fields.eventId) :
    j'.Unknown eventId ↔ j.Unknown eventId := by
  rw [Unknown, Unknown, h.sources, Dict.get?_set_of_ne _ _ hne]

end DecisionJournal

end FuturesAgentOs
