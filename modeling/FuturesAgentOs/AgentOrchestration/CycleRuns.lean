import FuturesAgentOs.AgentOrchestration.GoldenCycle
import FuturesAgentOs.PyModel.DecimalText
import FuturesAgentOs.PyModel.Machine

namespace FuturesAgentOs

open PyModel

/-!
# Runs of autonomy cycles on one journal

Every cycle that finds nothing journals the same reference, `NO_TRADE`, as a fact of its own time and
correlation, so a journal takes it from one such cycle and not from the next.

* `noTrade_journaled` — in a run of such cycles every decision not to trade is journaled.
-/

namespace AutonomyGoldenCycle

open DecisionJournalAppender (sourceEvent projection call)

/-- A cycle with its appender. -/
structure Cycle where
  budget : CycleBudget
  owners : CycleOwners
  elapsed : ℚ
  appender : DecisionJournalAppender

section

variable [Hashlib] (lower : Text → Text)

/-- The machine of the cycles on one journal. -/
def machine : Machine DecisionJournal Cycle (Py CycleResult) :=
  ⟨fun j c => runFull (some (c.appender.call lower)) c.budget c.owners c.elapsed j⟩

/-- What the owners of a cycle return: the snapshot and, if the scan finds something, the artifacts
up to the review. -/
def Returns (c : Cycle) (snap : Text) (artifacts : List Text) : Prop :=
  c.owners.snapshot = .ok snap
    ∧ (c.owners.opportunityScan snap = .ok [] ∧ artifacts = []
      ∨ ∃ candidate ev outcome after, c.owners.opportunityScan snap = .ok candidate
        ∧ deliberate c.owners candidate = .ok ev
        ∧ c.owners.execute ev.riskResult = .ok (some outcome)
        ∧ conclude c.owners ev.riskResult = .ok after
        ∧ artifacts = [candidate, ev.draft, ev.critique, ev.basis, ev.riskResult,
          after.protection, after.notification, after.reflection])

/-- The scan of the cycle finds nothing. -/
def FindsNothing (c : Cycle) : Prop :=
  ∃ snap, c.owners.snapshot = .ok snap ∧ c.owners.opportunityScan snap = .ok []

/-- The reference is new to the journal. -/
def IsNew (j : DecisionJournal) (reference : Text) : Prop :=
  ∀ id, EntityId.deterministic "source_event" reference = .ok id → j.Unknown id

/-- A cycle as it should be: its budget suffices, it is in time, and its references are not blank and
new to the journal. -/
structure Orderly (c : Cycle) (j : DecisionJournal) (snap : Text) (artifacts : List Text) : Prop where
  returns : Returns c snap artifacts
  steps : (AutonomyGoldenCycle.steps.length : ℤ) ≤ c.budget.fields.maxSteps
  toolCalls : (AutonomyGoldenCycle.steps.length : ℤ) ≤ c.budget.fields.maxToolCalls
  inTime : c.elapsed ≤ c.budget.fields.timeoutSeconds
  notBlank : ∀ reference ∈ snap :: artifacts, reference.strip ≠ []
  isNew : ∀ reference ∈ snap :: artifacts, IsNew j reference

/-- **The journal takes all that the cycle journals**: its references are encodable and name a type,
no two of them share an identity, and a cycle that finds nothing is the first to say so, or says it
again. -/
structure Journalable (c : Cycle) (j : DecisionJournal) (snap : Text) (artifacts : List Text) :
    Prop where
  encodable : ∀ reference ∈ snap :: artifacts, reference.encodeUtf8.isSome = true
  named : ∀ reference ∈ snap :: artifacts, reference.head? ≠ some (Text.ofChar ':')
  apart : ∀ a ∈ snap :: "NO_TRADE" :: artifacts, ∀ b ∈ snap :: "NO_TRADE" :: artifacts, ∀ id,
    EntityId.deterministic "source_event" a = .ok id →
    EntityId.deterministic "source_event" b = .ok id → a = b
  noTrade : FindsNothing c → ∀ source, c.appender.sourceEvent lower "NO_TRADE" = .ok source →
    j.Unknown source.fields.eventId ∨ j.Holds (c.appender.projection source)

end

section

variable [Hashlib] {lower : Text → Text} {a : DecisionJournalAppender} {j j' : DecisionJournal}
  {reference : Text} {source : SourceEvent}

theorem eventId_of_sourceEvent (h : sourceEvent lower a reference = .ok source) :
    EntityId.deterministic "source_event" reference = .ok source.fields.eventId := by
  unfold sourceEvent at h
  obtain ⟨id, hid, h⟩ := Py.of_bind h
  obtain ⟨payloadHash, -, h⟩ := Py.of_bind h
  rw [Frozen.make_eq_ok] at h
  rw [h]
  exact hid

/-- A reference that names a type stands for a fact. -/
theorem exists_sourceEvent (hlower : ∀ t, lower t = [] → t = []) (hblank : reference.strip ≠ [])
    (hencodable : reference.encodeUtf8.isSome = true)
    (hnamed : reference.head? ≠ some (Text.ofChar ':')) (a : DecisionJournalAppender) :
    ∃ source, sourceEvent lower a reference = .ok source := by
  have hne : reference ≠ [] := by
    rintro rfl
    exact hblank rfl
  obtain ⟨bytes, hbytes⟩ := Option.isSome_iff_exists.mp hencodable
  have hid : ∃ id, EntityId.deterministic "source_event" reference = .ok id := by
    rw [EntityId.deterministic, require_of_pos hne, Py.ok_bind, hbytes]
    apply Frozen.exists_make_iff.mpr
    exact (EntityId.epoch "source_event" _ _ (by decide +kernel)).valid
  obtain ⟨id, hid⟩ := hid
  obtain ⟨payloadHash, hhash, hdigest⟩ := exists_canonicalSha256_of_isWritable
    (show (Json.obj [("reference", .str reference)]).isWritable = true from rfl)
  have htype : DecisionJournalAppender.eventType lower reference ≠ [] := by
    unfold DecisionJournalAppender.eventType
    split
    · intro hnone
      have hbefore := hlower _ hnone
      obtain ⟨c, rest, rfl⟩ := List.exists_cons_of_ne_nil hne
      have hc : c ≠ Text.ofChar ':' := fun hsame => hnamed (by rw [hsame]; rfl)
      simp [hc] at hbefore
    · decide
  unfold sourceEvent
  rw [hid, Py.ok_bind, hhash, Py.ok_bind]
  apply Frozen.exists_make_iff.mpr
  show SourceEventFields.postInit _ = _
  simp only [SourceEventFields.postInit, require_bind_eq_ok, require_eq_ok]
  exact ⟨⟨by decide, htype, by decide⟩, RecordedAt.le_def.mpr le_rfl, hdigest⟩

/-- The journal takes the fact of a reference, for the first time or again. -/
structure Ready (lower : Text → Text) (a : DecisionJournalAppender) (j : DecisionJournal)
    (reference : Text) (source : SourceEvent) : Prop where
  notBlank : reference.strip ≠ []
  fact : sourceEvent lower a reference = .ok source
  taken : j.Unknown source.fields.eventId ∨ j.Holds (a.projection source)

/-- What an appended reference leaves of the journal. -/
structure Appends (p : DecisionJournal.Projection) (j j' : DecisionJournal) : Prop where
  consistent : j'.Consistent
  held : j'.Holds p
  kept : ∀ q, j.Holds q → j'.Holds q
  unknown : ∀ id, id ≠ p.source.fields.eventId → j.Unknown id → j'.Unknown id

theorem call_ready (hj : j.Consistent) (h : Ready lower a j reference source) :
    ∃ j', call lower a reference j = (.ok true, j') ∧ Appends (a.projection source) j j' := by
  unfold call
  rw [if_neg h.notBlank, h.fact]
  dsimp only
  rcases h.taken with hunknown | hheld
  · have hsource : source.fields.availableAt = a.now := by
      have hfact := h.fact
      unfold sourceEvent at hfact
      obtain ⟨id, -, hfact⟩ := Py.of_bind hfact
      obtain ⟨payloadHash, -, hfact⟩ := Py.of_bind hfact
      rw [Frozen.make_eq_ok] at hfact
      rw [hfact]
    have hsuits : (a.projection source).Suits := by
      refine ⟨?_, fun hphase => by cases hphase⟩
      show source.fields.availableAt ≤ a.now
      rw [hsource]
      exact RecordedAt.le_def.mpr le_rfl
    obtain ⟨entry, j', happend, hprojects⟩ := DecisionJournal.append_new hj hsuits hunknown
    rw [happend]
    exact ⟨j', rfl, hj.project hprojects, hprojects.holds,
      fun q hq => hprojects.holds_mono hunknown hq,
      fun id hne hid => (hprojects.unknown_iff hne).mpr hid⟩
  · obtain ⟨entry, happend⟩ := DecisionJournal.append_again hheld
    rw [happend]
    exact ⟨j, rfl, hj, hheld, fun _ hq => hq, fun _ _ hid => hid⟩

theorem Ready.step {other : Text} {source' : SourceEvent}
    (happends : Appends (a.projection source) j j')
    (hfact : sourceEvent lower a reference = .ok source)
    (h : Ready lower a j other source')
    (hapart : source'.fields.eventId = source.fields.eventId → other = reference) :
    Ready lower a j' other source' := by
  refine ⟨h.notBlank, h.fact, ?_⟩
  by_cases hsame : source'.fields.eventId = source.fields.eventId
  · -- it is the same reference, and is held by now
    have hother := h.fact
    rw [hapart hsame, hfact] at hother
    obtain rfl := Except.ok.inj hother
    exact Or.inr happends.held
  · rcases h.taken with hunknown | hheld
    · exact Or.inl (happends.unknown _ hsame hunknown)
    · exact Or.inr (happends.kept _ hheld)

/-- **References that are ready are all appended.** -/
theorem journalAll_ready {references : List Text} (hj : j.Consistent)
    (hready : ∀ reference ∈ references, ∃ source, Ready lower a j reference source)
    (hapart : ∀ r ∈ references, ∀ r' ∈ references, ∀ id,
      EntityId.deterministic "source_event" r = .ok id →
      EntityId.deterministic "source_event" r' = .ok id → r = r') :
    ∃ j', journalAll (some (call lower a)) references j = (.ok true, j') ∧ j'.Consistent
      ∧ ∀ q, j.Holds q → j'.Holds q := by
  induction references generalizing j with
  | nil => exact ⟨j, rfl, hj, fun _ hq => hq⟩
  | cons reference rest ih =>
    rw [List.forall_mem_cons] at hready
    obtain ⟨⟨source, hfirst⟩, hrest⟩ := hready
    obtain ⟨j₁, hcall, happends⟩ := call_ready hj hfirst
    have hrest₁ : ∀ r ∈ rest, ∃ source, Ready lower a j₁ r source := by
      intro r hr
      obtain ⟨source', hr'⟩ := hrest r hr
      refine ⟨source', hr'.step happends hfirst.fact fun hsame => ?_⟩
      have hid := eventId_of_sourceEvent hr'.fact
      rw [hsame] at hid
      exact hapart r (List.mem_cons_of_mem _ hr) reference List.mem_cons_self _ hid
        (eventId_of_sourceEvent hfirst.fact)
    obtain ⟨j', hall, hj', hkept⟩ := ih happends.consistent hrest₁ fun r hr r' hr' =>
      hapart r (List.mem_cons_of_mem _ hr) r' (List.mem_cons_of_mem _ hr')
    refine ⟨j', ?_, hj', fun q hq => hkept q (happends.kept q hq)⟩
    rw [journalAll, journaled, hcall, andThen_ok, if_pos rfl]
    exact hall

/-- What a cycle does that the journal takes. -/
structure Completes (lower : Text → Text) (c : Cycle) (result : CycleResult)
    (j j' : DecisionJournal) : Prop where
  consistent : j'.Consistent
  kept : ∀ q, j.Holds q → j'.Holds q
  appended : result.reason ≠ "journal append failed"
  noTrade : FindsNothing c → result.outcome = .NO_TRADE
    ∧ ∃ source, c.appender.sourceEvent lower "NO_TRADE" = .ok source
      ∧ j'.Holds (c.appender.projection source)

/-- **A cycle whose references the journal takes** completes. -/
theorem completes_of_journalable (hlower : ∀ t, lower t = [] → t = []) (hj : j.Consistent)
    {c : Cycle} {snap : Text} {artifacts : List Text} (ho : Orderly c j snap artifacts)
    (hc : Journalable lower c j snap artifacts) :
    ∃ result j', (machine lower).step j c = (.ok result, j') ∧ Completes lower c result j j' := by
  have hready : ∀ r ∈ snap :: artifacts, ∃ source, Ready lower c.appender j r source := by
    intro r hr
    obtain ⟨source, hfact⟩ :=
      exists_sourceEvent hlower (ho.notBlank r hr) (hc.encodable r hr) (hc.named r hr) c.appender
    exact ⟨source, ho.notBlank r hr, hfact,
      Or.inl (ho.isNew r hr _ (eventId_of_sourceEvent hfact))⟩
  have hnonempty : ∀ r ∈ snap :: artifacts, r ≠ [] := by
    rintro r hr rfl
    exact ho.notBlank [] hr rfl
  obtain ⟨source, hsnap⟩ := hready snap List.mem_cons_self
  obtain ⟨j₁, hcall, happends⟩ := call_ready hj hsnap
  have hbudget : ¬ (c.budget.fields.maxSteps < steps.length
      ∨ c.budget.fields.maxToolCalls < steps.length) := by
    have hsteps := ho.steps
    have htools := ho.toolCalls
    omega
  obtain ⟨hsnapshot, hreturns⟩ := ho.returns
  show ∃ result j', runFull (some (call lower c.appender)) c.budget c.owners c.elapsed j
    = (.ok result, j') ∧ _
  unfold runFull
  rw [if_neg hbudget, hsnapshot, andThen_ok, if_neg (hnonempty snap List.mem_cons_self), journaled,
    hcall, andThen_ok, if_neg (by decide)]
  rcases hreturns with ⟨hscan, rfl⟩ |
    ⟨candidate, ev, outcome, after, hscan, hdeliberate, hexecute, hconclude, rfl⟩
  · -- nothing is found, and that is journaled
    have hnothing : FindsNothing c := ⟨snap, hsnapshot, hscan⟩
    obtain ⟨noTrade, hfact⟩ : ∃ source, sourceEvent lower c.appender "NO_TRADE" = .ok source :=
      exists_sourceEvent hlower (by decide) (by decide) (by decide) c.appender
    have htaken : Ready lower c.appender j "NO_TRADE" noTrade :=
      ⟨by decide, hfact, hc.noTrade hnothing noTrade hfact⟩
    have htaken₁ := htaken.step happends hsnap.fact fun hsame => by
      have hid := eventId_of_sourceEvent hfact
      rw [hsame] at hid
      exact hc.apart _ (by simp) _ (by simp) _ hid (eventId_of_sourceEvent hsnap.fact)
    obtain ⟨j₂, hcall₂, happends₂⟩ := call_ready happends.consistent htaken₁
    rw [hscan, andThen_ok, if_pos rfl, journaled, hcall₂, andThen_ok, if_neg (by decide)]
    exact ⟨_, j₂, rfl, happends₂.consistent, fun q hq => happends₂.kept q (happends.kept q hq),
      show Text.ofString "no opportunity" ≠ _ by decide,
      fun _ => ⟨rfl, noTrade, hfact, happends₂.held⟩⟩
  · -- a candidate is pursued to the end
    have hsome : ∀ r ∈ [candidate, ev.draft, ev.critique, ev.basis, ev.riskResult, after.protection,
        after.notification, after.reflection], r ≠ [] := fun r hr =>
      hnonempty r (List.mem_cons_of_mem _ hr)
    have hready₁ : ∀ r ∈ [candidate, ev.draft, ev.critique, ev.basis, ev.riskResult,
        after.protection, after.notification, after.reflection],
        ∃ source, Ready lower c.appender j₁ r source := by
      intro r hr
      obtain ⟨source', hr'⟩ := hready r (List.mem_cons_of_mem _ hr)
      refine ⟨source', hr'.step happends hsnap.fact fun hsame => ?_⟩
      have hid := eventId_of_sourceEvent hr'.fact
      rw [hsame] at hid
      exact hc.apart r (List.mem_cons_of_mem _ (List.mem_cons_of_mem _ hr)) snap List.mem_cons_self _
        hid (eventId_of_sourceEvent hsnap.fact)
    obtain ⟨j₂, hall, hj₂, hkept⟩ := journalAll_ready happends.consistent hready₁
      fun r hr r' hr' => hc.apart r (List.mem_cons_of_mem _ (List.mem_cons_of_mem _ hr)) r'
        (List.mem_cons_of_mem _ (List.mem_cons_of_mem _ hr'))
    simp only [List.forall_mem_cons] at hsome
    obtain ⟨hcandidate, hdraft, hcritique, hbasis, hrisk, hprotection, hnotification, hreflection, -⟩ :=
      hsome
    rw [hscan, andThen_ok, if_neg hcandidate]
    unfold pursue
    rw [hdeliberate, andThen_ok, if_neg (by tauto)]
    dsimp only
    rw [hexecute, andThen_ok]
    dsimp only
    rw [hconclude, andThen_ok, if_neg (by tauto), hall, andThen_ok, if_neg (by decide),
      if_neg (not_lt.mpr ho.inTime)]
    refine ⟨_, j₂, rfl, hj₂, fun q hq => hkept q (happends.kept q hq),
      show Text.ofString "completed" ≠ _ by decide, ?_⟩
    rintro ⟨snap', hsnapshot', hscan'⟩
    obtain rfl : snap = snap' := Except.ok.inj (hsnapshot.symm.trans hsnapshot')
    exact absurd (Except.ok.inj (hscan.symm.trans hscan')) hcandidate

variable (lower) in
/-- A cycle as it should be, whose references the journal takes. -/
def IsTaken (j : DecisionJournal) (c : Cycle) : Prop :=
  ∃ snap artifacts, Orderly c j snap artifacts ∧ Journalable lower c j snap artifacts

/-- What is held before a run of such cycles is held after it. -/
theorem holds_exec (hlower : ∀ t, lower t = [] → t = []) (hj : j.Consistent) {cycles : List Cycle}
    (hrun : (machine lower).Meets (IsTaken lower) j cycles) {q : DecisionJournal.Projection}
    (hq : j.Holds q) : ((machine lower).exec j cycles).Holds q := by
  induction cycles generalizing j with
  | nil => exact hq
  | cons c rest ih =>
    obtain ⟨⟨snap, artifacts, ho, hc⟩, hrest⟩ := hrun
    obtain ⟨result, j', hstep, hcompletes⟩ := completes_of_journalable hlower hj ho hc
    have hnext : (machine lower).next j c = j' := by rw [Machine.next, hstep]
    rw [hnext] at hrest
    rw [Machine.exec_cons, hnext]
    exact ih hcompletes.consistent hrest (hcompletes.kept q hq)

/-- **In a run of cycles that the journal takes, no append fails**: every cycle that finds nothing
ends with the decision not to trade, and the journal records it. -/
theorem noTrade_journaled (hlower : ∀ t, lower t = [] → t = []) (hj : j.Built) {cycles : List Cycle}
    (hrun : (machine lower).Meets (IsTaken lower) j cycles) :
    ∀ event ∈ (machine lower).trace j cycles, ∃ result, event.2.2 = .ok result
      ∧ result.reason ≠ "journal append failed"
      ∧ (FindsNothing event.2.1 → result.outcome = .NO_TRADE
        ∧ ∃ source, event.2.1.appender.sourceEvent lower "NO_TRADE" = .ok source
          ∧ ((machine lower).exec j cycles).Holds (event.2.1.appender.projection source)) := by
  have hconsistent := hj.consistent
  clear hj
  induction cycles generalizing j with
  | nil =>
    intro event hevent
    cases hevent
  | cons c rest ih =>
    obtain ⟨⟨snap, artifacts, ho, hc⟩, hrest⟩ := hrun
    obtain ⟨result, j', hstep, hcompletes⟩ := completes_of_journalable hlower hconsistent ho hc
    have hnext : (machine lower).next j c = j' := by rw [Machine.next, hstep]
    have hout : (machine lower).out j c = .ok result := by rw [Machine.out, hstep]
    rw [hnext] at hrest
    rw [Machine.trace_cons, Machine.exec_cons, List.forall_mem_cons, hnext, hout]
    refine ⟨⟨result, rfl, hcompletes.appended, fun hnothing => ?_⟩,
      ih hrest hcompletes.consistent⟩
    obtain ⟨houtcome, source, hsource, hheld⟩ := hcompletes.noTrade hnothing
    exact ⟨houtcome, source, hsource, holds_exec hlower hcompletes.consistent hrest hheld⟩

end

/-! ### Two cycles that find nothing -/

/-- `str.lower` of ASCII. -/
def asciiLower (t : Text) : Text := t.map Decimal.lower

/-- Owners whose scan finds nothing. -/
def idleOwners (snap : Text) : CycleOwners where
  snapshot := .ok snap
  opportunityScan := fun _ => .ok []
  strategy := fun _ => .ok []
  critic := fun _ => .ok []
  authorize := fun _ _ => .ok []
  risk := fun _ _ => .ok []
  execute := fun _ => .ok none
  protect := fun _ => .ok []
  notify := fun _ => .ok []
  review := fun _ => .ok []

/-- A cycle that finds nothing, at a minute of a day. -/
def idle (snap : Text) (minute : Fin 60) : Cycle where
  budget := ⟨{}, by decide⟩
  owners := idleOwners snap
  elapsed := 0
  appender := ⟨⟨.of 2026 9 3 (Eq.refl true), 1, minute, 0, 0⟩,
    .epoch "correlation" 0 0 (Eq.refl true)⟩

/-- A new journal. -/
def emptyJournal : DecisionJournal where
  journalId := .epoch "decision_journal" 0 0 (Eq.refl true)
  projectionVersion := 1

theorem built_emptyJournal : emptyJournal.Built :=
  .new (show DecisionJournal.new emptyJournal.journalId 1 = .ok emptyJournal from rfl)

section

variable {snap : Text} {minute : Fin 60} {j : DecisionJournal}

theorem idle_orderly (hblank : snap.strip ≠ []) (hnew : IsNew j snap) :
    Orderly (idle snap minute) j snap [] where
  returns := ⟨rfl, Or.inl ⟨rfl, rfl⟩⟩
  steps := show (10 : ℤ) ≤ 16 by decide
  toolCalls := show (10 : ℤ) ≤ 32 by decide
  inTime := by show (0 : ℚ) ≤ 60; norm_num
  notBlank := by
    rintro reference (_ | ⟨_, ⟨⟩⟩)
    exact hblank
  isNew := by
    rintro reference (_ | ⟨_, ⟨⟩⟩)
    exact hnew

theorem idle_journalable (hencodable : snap.encodeUtf8.isSome = true)
    (hnamed : snap.head? ≠ some (Text.ofChar ':'))
    (hapart : (EntityId.deterministic "source_event" snap).toOption
      ≠ (EntityId.deterministic "source_event" "NO_TRADE").toOption)
    (hnoTrade : ∀ source, (idle snap minute).appender.sourceEvent asciiLower "NO_TRADE" = .ok source →
      j.Unknown source.fields.eventId
        ∨ j.Holds ((idle snap minute).appender.projection source)) :
    Journalable asciiLower (idle snap minute) j snap [] where
  encodable := by
    rintro reference (_ | ⟨_, ⟨⟩⟩)
    exact hencodable
  named := by
    rintro reference (_ | ⟨_, ⟨⟩⟩)
    exact hnamed
  apart := by
    intro a ha b hb id hida hidb
    rw [List.mem_cons, List.mem_singleton] at ha hb
    have hsame : (EntityId.deterministic "source_event" a).toOption
        = (EntityId.deterministic "source_event" b).toOption := by rw [hida, hidb]
    rcases ha with rfl | rfl <;> rcases hb with rfl | rfl
    · rfl
    · exact absurd hsame hapart
    · exact absurd hsame.symm hapart
    · rfl
  noTrade := fun _ => hnoTrade

end

theorem isNew_of_toOption {j : DecisionJournal} {reference : Text}
    (h : ∀ id ∈ (EntityId.deterministic "source_event" reference).toOption,
      j.sources.get? id = none) : IsNew j reference := by
  intro id hid
  exact h id (by rw [hid]; rfl)

/-- The journal after one idle cycle. -/
def afterIdle : DecisionJournal := (machine asciiLower).next emptyJournal (idle "snapshot:1" 0)

theorem isNew_second : IsNew afterIdle "snapshot:2" :=
  isNew_of_toOption (by decide +kernel)

/-- A second cycle that finds nothing at the same time is journaled with the first. -/
theorem noTrade_journaled_again :
    emptyJournal.Built
      ∧ ∀ event ∈ (machine asciiLower).trace emptyJournal [idle "snapshot:1" 0, idle "snapshot:2" 0],
        ∃ result, event.2.2 = .ok result
          ∧ result.reason ≠ "journal append failed"
          ∧ (FindsNothing event.2.1 → result.outcome = .NO_TRADE
            ∧ ∃ source, event.2.1.appender.sourceEvent asciiLower "NO_TRADE" = .ok source
              ∧ ((machine asciiLower).exec emptyJournal
                [idle "snapshot:1" 0, idle "snapshot:2" 0]).Holds
                  (event.2.1.appender.projection source)) := by
  refine ⟨built_emptyJournal, noTrade_journaled (fun t => List.map_eq_nil_iff.mp) built_emptyJournal ?_⟩
  refine ⟨⟨"snapshot:1", [], idle_orderly (by decide) fun id _ => rfl, idle_journalable (by decide)
    (by decide) (by decide +kernel) fun _ _ => Or.inl rfl⟩, ⟨"snapshot:2", [],
    idle_orderly (by decide) isNew_second,
    idle_journalable (by decide) (by decide) (by decide +kernel) fun source hsource => ?_⟩, trivial⟩
  have hall : ∀ source ∈ ((idle "snapshot:2" 0).appender.sourceEvent asciiLower "NO_TRADE").toOption,
      afterIdle.Holds ((idle "snapshot:2" 0).appender.projection source) := by decide +kernel
  exact Or.inr (hall source (by rw [hsource]; rfl))

/-- **The second decision not to trade is lost**: a minute later the journal knows the reference
`NO_TRADE` as another fact, and the cycle ends otherwise. -/
theorem noTrade_lost :
    ¬ ∀ (j : DecisionJournal) (cycles : List Cycle), j.Built →
      cycles.Pairwise (fun c c' => c.appender.now ≤ c'.appender.now) →
      (machine asciiLower).Meets (fun j c => ∃ snap artifacts, Orderly c j snap artifacts) j cycles →
      ∀ event ∈ (machine asciiLower).trace j cycles, ∃ result, event.2.2 = .ok result
        ∧ result.reason ≠ "journal append failed" := by
  intro h
  have hmeets : (machine asciiLower).Meets (fun j c => ∃ snap artifacts, Orderly c j snap artifacts)
      emptyJournal [idle "snapshot:1" 0, idle "snapshot:2" 1] :=
    ⟨⟨"snapshot:1", [], idle_orderly (by decide) fun id _ => rfl⟩,
      ⟨"snapshot:2", [], idle_orderly (by decide) isNew_second⟩, trivial⟩
  have hfails : ((machine asciiLower).out afterIdle (idle "snapshot:2" 1)).toOption.map (·.reason)
      = some "journal append failed" := by decide +kernel
  obtain ⟨result, hresult, hreason⟩ := h emptyJournal _ built_emptyJournal
    (by decide) hmeets (afterIdle, idle "snapshot:2" 1,
      (machine asciiLower).out afterIdle (idle "snapshot:2" 1))
    (List.mem_cons_of_mem _ List.mem_cons_self)
  dsimp only at hresult
  rw [hresult] at hfails
  exact hreason (Option.some.inj hfails)

end AutonomyGoldenCycle

end FuturesAgentOs
