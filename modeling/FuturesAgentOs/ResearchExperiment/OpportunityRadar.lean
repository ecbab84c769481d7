import FuturesAgentOs.PyModel.Dict
import FuturesAgentOs.PyModel.Machine
import FuturesAgentOs.SharedKernel.Time

namespace FuturesAgentOs

open PyModel

/-!
# The opportunity radar

`research_experiment/opportunity_radar.py`: scans are recorded, and a candidate is recorded once.
The keys of the candidates are held while they are filtered, before the record is validated.

* `faithful_iff` — the runs that are faithful.
-/

inductive ScanResult where
  | CANDIDATES
  | NO_OPPORTUNITY
  deriving DecidableEq

inductive TimeHorizon where
  | INTRADAY
  | SWING
  | POSITION
  deriving DecidableEq

structure ScanPolicyFields where
  policyId : Text
  revision : Text
  cadenceSeconds : ℤ
  cooldownSeconds : ℤ := 0
  deriving DecidableEq

instance : Dataclass ScanPolicyFields where
  postInit f := do
    require (f.policyId.strip ≠ [] ∧ f.revision.strip ≠ [] ∧ 0 < f.cadenceSeconds)
      (valueError "scan policy requires positive cadence and revision")
    require (0 ≤ f.cooldownSeconds) (valueError "cooldown must be non-negative")

abbrev ScanPolicy := Frozen ScanPolicyFields

structure UniversePolicyFields where
  policyId : Text
  revision : Text
  instruments : List Text
  deriving DecidableEq

instance : Dataclass UniversePolicyFields where
  postInit f := do
    require (f.policyId.strip ≠ [] ∧ f.revision.strip ≠ [] ∧ f.instruments ≠ [])
      (valueError "universe policy is incomplete")
    require ((∀ x ∈ f.instruments, x.strip ≠ []) ∧ f.instruments.Nodup)
      (valueError "universe instruments must be unique")

abbrev UniversePolicy := Frozen UniversePolicyFields

structure ResearchEvidenceFields where
  ref : Text
  contentSha256 : Text
  summary : Text
  deriving DecidableEq

instance : Dataclass ResearchEvidenceFields where
  postInit f := require
    (f.ref.strip ≠ [] ∧ f.contentSha256.IsHexDigest ∧ f.summary.strip ≠ [])
    (valueError "evidence requires ref, SHA-256 and summary")

abbrev ResearchEvidence := Frozen ResearchEvidenceFields

/-- An `EntityId` of `EntityId.new`, by its namespace and the number of its draw. -/
structure DrawnId where
  nspace : Text
  draw : ℕ
  deriving DecidableEq

structure OpportunityCandidateFields where
  candidateId : DrawnId
  instrument : Text
  horizon : TimeHorizon
  dedupeKey : Text
  supportingEvidence : List ResearchEvidence
  opposingEvidence : List ResearchEvidence
  hypothesis : Text
  cooldownUntil : Option RecordedAt := none
  deriving DecidableEq

instance : Dataclass OpportunityCandidateFields where
  postInit f := do
    require (f.candidateId.nspace = "opportunity_candidate" ∧ f.instrument.strip ≠ []
        ∧ f.dedupeKey.strip ≠ [] ∧ f.hypothesis.strip ≠ [])
      (valueError "invalid opportunity candidate")
    require (f.supportingEvidence ≠ [] ∧ f.opposingEvidence ≠ [])
      (valueError "candidate requires both supporting and opposing evidence")
    require ((f.supportingEvidence ++ f.opposingEvidence).map (fun e => e.fields.ref)).Nodup
      (valueError "candidate evidence refs must be unique")

abbrev OpportunityCandidate := Frozen OpportunityCandidateFields

structure OpportunityScanFields where
  scanId : DrawnId
  scanPolicy : ScanPolicy
  universePolicy : UniversePolicy
  asOf : RecordedAt
  dataRevision : Text
  featureRevision : Text
  budget : ℤ
  result : ScanResult
  candidates : List OpportunityCandidate := []
  eventRef : Option DrawnId := none
  missed : Bool := false
  rerunOf : Option DrawnId := none
  deriving DecidableEq

instance : Dataclass OpportunityScanFields where
  postInit f := do
    require (f.scanId.nspace = "opportunity_scan" ∧ f.dataRevision.strip ≠ []
        ∧ f.featureRevision.strip ≠ [] ∧ 0 < f.budget)
      (valueError "scan metadata or budget invalid")
    require (∀ ref ∈ f.eventRef, ref.nspace = "market_event")
      (valueError "event ref must be a market event")
    require (∀ ref ∈ f.rerunOf, ref.nspace = "opportunity_scan")
      (valueError "rerun ref must be an opportunity scan")
    require (f.missed = true → f.candidates = [] ∧ f.result = .NO_OPPORTUNITY)
      (valueError "a missed scan cannot claim evaluated candidates")
    require (f.result = .NO_OPPORTUNITY → f.candidates = [])
      (valueError "NO_OPPORTUNITY scan cannot contain candidates")
    require (f.result = .CANDIDATES → f.candidates ≠ [])
      (valueError "candidate result requires candidates")
    require (∀ c ∈ f.candidates, c.fields.instrument ∈ f.universePolicy.fields.instruments)
      (valueError "candidate is outside the frozen universe")

abbrev OpportunityScan := Frozen OpportunityScanFields

/-- `(candidate.instrument, candidate.dedupe_key, feature_revision)` -/
abbrev ScanKey := Text × Text × Text

/-- The key of a candidate. -/
def OpportunityCandidate.key (c : OpportunityCandidate) (featureRevision : Text) : ScanKey :=
  (c.fields.instrument, c.fields.dedupeKey, featureRevision)

/-- The keys of a recorded scan. -/
def OpportunityScan.keys (scan : OpportunityScan) : List ScanKey :=
  scan.fields.candidates.map fun c => OpportunityCandidate.key c scan.fields.featureRevision

/-- The arguments of `scan`. -/
structure ScanRequest where
  scanPolicy : ScanPolicy
  universePolicy : UniversePolicy
  asOf : RecordedAt
  dataRevision : Text
  featureRevision : Text
  budget : ℤ
  candidates : List OpportunityCandidate := []
  eventRef : Option DrawnId := none
  missed : Bool := false
  rerunOf : Option DrawnId := none

namespace ScanRequest

variable (request : ScanRequest)

/-- `candidate.cooldown_until and as_of.value < candidate.cooldown_until.value` -/
def Cools (c : OpportunityCandidate) : Prop := ∃ t ∈ c.fields.cooldownUntil, request.asOf < t

instance (c : OpportunityCandidate) : Decidable (request.Cools c) :=
  inferInstanceAs (Decidable (∃ t ∈ c.fields.cooldownUntil, request.asOf < t))

/-- The key of a candidate in this scan. -/
def key (c : OpportunityCandidate) : ScanKey := OpportunityCandidate.key c request.featureRevision

/-- One candidate of the loop: the candidates let through so far, and the keys held. -/
def filterStep (state : List OpportunityCandidate × List ScanKey) (c : OpportunityCandidate) :
    List OpportunityCandidate × List ScanKey :=
  if request.key c ∈ state.2 ∧ request.missed = false then state
  else if request.Cools c then state
  else (state.1 ++ [c], state.2.insert (request.key c))

/-- `filtered`, and `self._keys` after the loop. -/
def filter (keys : List ScanKey) : List OpportunityCandidate × List ScanKey :=
  request.candidates.foldl request.filterStep ([], keys)

/-- The fields of the record. -/
def record (scanId : DrawnId) (filtered : List OpportunityCandidate) : OpportunityScanFields where
  scanId
  scanPolicy := request.scanPolicy
  universePolicy := request.universePolicy
  asOf := request.asOf
  dataRevision := request.dataRevision
  featureRevision := request.featureRevision
  budget := request.budget
  result := if filtered = [] then .NO_OPPORTUNITY else .CANDIDATES
  candidates := filtered
  eventRef := request.eventRef
  missed := request.missed
  rerunOf := request.rerunOf

end ScanRequest

structure OpportunityRadar where
  scans : Dict DrawnId OpportunityScan := .empty
  keys : List ScanKey := []
  /-- how many scan ids were drawn -/
  drawn : ℕ := 0

/-- A call of the radar. -/
inductive RadarCall where
  | scan (request : ScanRequest)
  | rerunMissed (scanId : DrawnId) (asOf : RecordedAt)

namespace OpportunityRadar

variable (r : OpportunityRadar)

/-- `EntityId.new("opportunity_scan")` -/
def newId : DrawnId := ⟨"opportunity_scan", r.drawn⟩

def scan (request : ScanRequest) : Py OpportunityScan × OpportunityRadar :=
  let (filtered, keys) := request.filter r.keys
  match Frozen.make (request.record r.newId filtered) with
  | .error e => (.error e, { r with keys, drawn := r.drawn + 1 })
  | .ok record =>
    (.ok record, ⟨r.scans.set record.fields.scanId record, keys, r.drawn + 1⟩)

/-- The request that `rerun_missed` makes. -/
def rerunRequest (original : OpportunityScan) (scanId : DrawnId) (asOf : RecordedAt) :
    ScanRequest where
  scanPolicy := original.fields.scanPolicy
  universePolicy := original.fields.universePolicy
  asOf
  dataRevision := original.fields.dataRevision
  featureRevision := original.fields.featureRevision
  budget := original.fields.budget
  rerunOf := some scanId

def rerunMissed (scanId : DrawnId) (asOf : RecordedAt) : Py OpportunityScan × OpportunityRadar :=
  match r.scans.get? scanId with
  | none => (.error ⟨.keyError, scanId.nspace⟩, r)
  | some original =>
    if original.fields.missed = false then
      (.error (valueError "only missed scans can be rerun"), r)
    else r.scan (rerunRequest original scanId asOf)

/-- A call of the radar. -/
def call : RadarCall → Py OpportunityScan × OpportunityRadar
  | .scan request => r.scan request
  | .rerunMissed scanId asOf => r.rerunMissed scanId asOf

/-- The radar, as a machine of its calls. -/
def machine : Machine OpportunityRadar RadarCall (Py OpportunityScan) := ⟨call⟩

/-- The key stands in a recorded scan. -/
def Recorded (k : ScanKey) : Prop := ∃ id scan, r.scans.get? id = some scan ∧ k ∈ scan.keys

end OpportunityRadar

namespace ScanRequest

variable (request : ScanRequest)

/-- The arguments of the record are valid, apart from its candidates. -/
def MetadataValid : Prop :=
  (request.dataRevision.strip ≠ [] ∧ request.featureRevision.strip ≠ [] ∧ 0 < request.budget)
    ∧ (∀ ref ∈ request.eventRef, ref.nspace = "market_event")
    ∧ ∀ ref ∈ request.rerunOf, ref.nspace = "opportunity_scan"

instance : Decidable request.MetadataValid :=
  inferInstanceAs (Decidable ((_ ∧ _ ∧ _) ∧ (∀ ref ∈ request.eventRef, _)
    ∧ ∀ ref ∈ request.rerunOf, _))

/-- A valid scan: its metadata are valid, it is not missed and its candidates are in the
universe. -/
def Valid : Prop :=
  request.MetadataValid ∧ request.missed = false
    ∧ ∀ c ∈ request.candidates, c.fields.instrument ∈ request.universePolicy.fields.instruments

instance : Decidable request.Valid :=
  inferInstanceAs (Decidable (request.MetadataValid ∧ request.missed = false
    ∧ ∀ c ∈ request.candidates, c.fields.instrument ∈ request.universePolicy.fields.instruments))

/-- A candidate that is not in its cooldown and whose key is not held. -/
def New (keys : List ScanKey) (c : OpportunityCandidate) : Prop :=
  ¬ request.Cools c ∧ request.key c ∉ keys

instance (keys : List ScanKey) (c : OpportunityCandidate) : Decidable (request.New keys c) :=
  inferInstanceAs (Decidable (_ ∧ _))

/-- The scan raises although a candidate of it is new. -/
def Burns (keys : List ScanKey) : Prop :=
  (∃ c ∈ request.candidates, request.New keys c)
    ∧ ¬ (request.MetadataValid ∧ request.missed = false
      ∧ ∀ c ∈ request.candidates, request.New keys c →
        c.fields.instrument ∈ request.universePolicy.fields.instruments)

end ScanRequest

/-- The call is a scan that burns the key of a new candidate. -/
def RadarCall.Burns (r : OpportunityRadar) : RadarCall → Prop
  | .scan request => request.Burns r.keys
  | .rerunMissed _ _ => False

namespace OpportunityRadar

/-- **Faithful.** What the radar promises of a run. -/
structure Faithful (calls : List RadarCall) : Prop where
  /-- No key occurs in two recorded scans. -/
  once : ∀ k id scan id' scan', ((machine.exec {} calls).scans.get? id = some scan ∧ k ∈ scan.keys) →
    ((machine.exec {} calls).scans.get? id' = some scan' ∧ k ∈ scan'.keys) → id = id'
  /-- A valid scan records a candidate that no recorded scan holds and that is not cooling. -/
  nothingLost : ∀ (request : ScanRequest) (c : OpportunityCandidate), request.Valid →
    c ∈ request.candidates → ¬ request.Cools c →
    ¬ (machine.exec {} calls).Recorded (request.key c) →
      ∃ record, ((machine.exec {} calls).scan request).1 = .ok record
        ∧ ((machine.exec {} calls).scan request).2.scans.get? record.fields.scanId = some record
        ∧ ∃ c' ∈ record.fields.candidates, c' ∈ request.candidates ∧ request.key c' = request.key c
  /-- A call that raises changes nothing. -/
  unchanged : ∀ event ∈ machine.trace {} calls, Py.Raises event.2.2 →
    (machine.next event.1 event.2.1).scans = event.1.scans
      ∧ (machine.next event.1 event.2.1).keys = event.1.keys

end OpportunityRadar

/-! ### The filter -/

namespace ScanRequest

variable {request : ScanRequest} {keys : List ScanKey} {c : OpportunityCandidate}

/-- What the loop does from any point of it on. -/
structure Filters (request : ScanRequest) (candidates : List OpportunityCandidate)
    (keys : List ScanKey) (new : List OpportunityCandidate) (after : List ScanKey) : Prop where
  passed : ∀ c ∈ new, c ∈ candidates ∧ ¬ request.Cools c
    ∧ (request.missed = false → request.key c ∉ keys)
  held : ∀ k, k ∈ after ↔ k ∈ keys ∨ ∃ c ∈ new, request.key c = k
  covered : ∀ c ∈ candidates, ¬ request.Cools c → request.key c ∈ after
  same : (∀ c ∈ new, request.key c ∈ keys) → after = keys

theorem filters_foldl (request : ScanRequest) (candidates acc : List OpportunityCandidate)
    (keys : List ScanKey) :
    ∃ new, (candidates.foldl request.filterStep (acc, keys)).1 = acc ++ new
      ∧ request.Filters candidates keys new
          (candidates.foldl request.filterStep (acc, keys)).2 := by
  induction candidates generalizing acc keys with
  | nil =>
    refine ⟨[], (List.append_nil _).symm, ⟨?_, ?_, ?_, fun _ => rfl⟩⟩
    · intro c hc
      cases hc
    · simp
    · intro c hc
      cases hc
  | cons c rest ih =>
    rw [List.foldl_cons, filterStep]
    split
    · -- The key is held already, and the candidate is dropped.
      rename_i hheld
      obtain ⟨new, hnew, h⟩ := ih acc keys
      refine ⟨new, hnew, ⟨fun c' hc' => ?_, h.held, ?_, h.same⟩⟩
      · obtain ⟨hmem, hrest⟩ := h.passed c' hc'
        exact ⟨List.mem_cons_of_mem _ hmem, hrest⟩
      · refine List.forall_mem_cons.mpr ⟨fun _ => ?_, h.covered⟩
        exact (h.held _).mpr (.inl hheld.1)
    · rename_i hnot
      split
      · rename_i hcools
        obtain ⟨new, hnew, h⟩ := ih acc keys
        refine ⟨new, hnew, ⟨fun c' hc' => ?_, h.held, ?_, h.same⟩⟩
        · obtain ⟨hmem, hrest⟩ := h.passed c' hc'
          exact ⟨List.mem_cons_of_mem _ hmem, hrest⟩
        · exact List.forall_mem_cons.mpr ⟨fun hwarm => absurd hcools hwarm, h.covered⟩
      · rename_i hwarm
        obtain ⟨new, hnew, h⟩ := ih (acc ++ [c]) (keys.insert (request.key c))
        refine ⟨c :: new, by rw [hnew]; simp, ⟨?_, fun k => ?_, ?_, fun hall => ?_⟩⟩
        · refine List.forall_mem_cons.mpr ⟨⟨List.mem_cons_self, hwarm, fun hmissed hmem => ?_⟩,
            fun c' hc' => ?_⟩
          · exact hnot ⟨hmem, hmissed⟩
          · obtain ⟨hmem, hwarm', hfresh⟩ := h.passed c' hc'
            refine ⟨List.mem_cons_of_mem _ hmem, hwarm', fun hmissed hkey => ?_⟩
            exact hfresh hmissed (List.mem_insert_iff.mpr (.inr hkey))
        · rw [h.held, List.mem_insert_iff, List.exists_mem_cons_iff]
          constructor
          · rintro ((rfl | hk) | hk)
            · exact .inr (.inl rfl)
            · exact .inl hk
            · exact .inr (.inr hk)
          · rintro (hk | rfl | hk)
            · exact .inl (.inr hk)
            · exact .inl (.inl rfl)
            · exact .inr hk
        · refine List.forall_mem_cons.mpr ⟨fun _ => ?_, h.covered⟩
          exact (h.held _).mpr (.inl (List.mem_insert_iff.mpr (.inl rfl)))
        · rw [List.forall_mem_cons] at hall
          have hsame := List.insert_of_mem hall.1
          rw [hsame] at h ⊢
          exact h.same hall.2

/-- **The filter**: what it lets through and which keys it holds. -/
theorem filter_spec (request : ScanRequest) (keys : List ScanKey) :
    request.Filters request.candidates keys (request.filter keys).1 (request.filter keys).2 := by
  obtain ⟨new, hnew, h⟩ := filters_foldl request request.candidates [] keys
  rw [List.nil_append] at hnew
  rw [filter, hnew]
  exact h

theorem new_of_mem_filter (hc : c ∈ (request.filter keys).1) (hmissed : request.missed = false) :
    c ∈ request.candidates ∧ request.New keys c := by
  obtain ⟨hmem, hwarm, hfresh⟩ := (request.filter_spec keys).passed c hc
  exact ⟨hmem, hwarm, hfresh hmissed⟩

theorem exists_mem_filter (hc : c ∈ request.candidates) (hnew : request.New keys c) :
    ∃ c' ∈ (request.filter keys).1, request.key c' = request.key c := by
  have hspec := request.filter_spec keys
  rcases (hspec.held _).mp (hspec.covered c hc hnew.1) with hheld | hpassed
  · exact absurd hheld hnew.2
  · exact hpassed

theorem postInit_record {draw : ℕ} {filtered : List OpportunityCandidate} :
    postInit (request.record ⟨"opportunity_scan", draw⟩ filtered) = .ok () ↔
      request.MetadataValid ∧ (request.missed = true → filtered = [])
        ∧ ∀ c ∈ filtered, c.fields.instrument ∈ request.universePolicy.fields.instruments := by
  have hresult : (filtered = [] ∧ (request.record ⟨"opportunity_scan", draw⟩ filtered).result
        = .NO_OPPORTUNITY)
      ∨ filtered ≠ [] ∧ (request.record ⟨"opportunity_scan", draw⟩ filtered).result
        = .CANDIDATES := by
    unfold record
    split
    · rename_i h
      exact .inl ⟨h, rfl⟩
    · rename_i h
      exact .inr ⟨h, rfl⟩
  unfold postInit instDataclassOpportunityScanFields
  simp only [require_bind_eq_ok, require_eq_ok]
  rcases hresult with ⟨hempty, hresult⟩ | ⟨hsome, hresult⟩
  · rw [hresult]
    simp [record, MetadataValid, hempty, and_assoc]
  · rw [hresult]
    simp [record, MetadataValid, hsome, and_assoc]

theorem valid_or_none_new (h : ¬ request.Burns keys) (draw : ℕ) :
    postInit (request.record ⟨"opportunity_scan", draw⟩ (request.filter keys).1) = .ok ()
      ∨ (request.filter keys).2 = keys := by
  by_cases hnew : ∃ c ∈ request.candidates, request.New keys c
  · obtain ⟨hmeta, hmissed, hinside⟩ := not_not.mp fun hnot => h ⟨hnew, hnot⟩
    refine .inl (postInit_record.mpr ⟨hmeta, fun hm => ?_, fun c hc => ?_⟩)
    · exact absurd (hmissed.symm.trans hm) (by decide)
    · obtain ⟨hmem, hnew⟩ := new_of_mem_filter hc hmissed
      exact hinside c hmem hnew
  · refine .inr ((request.filter_spec keys).same fun c hc => ?_)
    obtain ⟨hmem, hwarm, -⟩ := (request.filter_spec keys).passed c hc
    by_contra hkey
    exact hnew ⟨c, hmem, hwarm, hkey⟩

theorem invalid_of_burns (h : request.Burns keys) (draw : ℕ) :
    postInit (request.record ⟨"opportunity_scan", draw⟩ (request.filter keys).1) ≠ .ok ()
      ∧ (request.filter keys).2 ≠ keys := by
  obtain ⟨⟨c, hc, hnew⟩, hnot⟩ := h
  obtain ⟨c', hc', hkey⟩ := exists_mem_filter hc hnew
  refine ⟨fun hvalid => hnot ?_, fun hsame => ?_⟩
  · obtain ⟨hmeta, hmissed, hinside⟩ := postInit_record.mp hvalid
    refine ⟨hmeta, ?_, fun d hd hnew => ?_⟩
    · rw [Bool.eq_false_iff]
      intro hm
      rw [hmissed hm] at hc'
      cases hc'
    · obtain ⟨d', hd', hkey⟩ := exists_mem_filter hd hnew
      -- Candidates of one key are of one instrument.
      have hinstrument : d'.fields.instrument = d.fields.instrument := congrArg Prod.fst hkey
      rw [← hinstrument]
      exact hinside d' hd'
  · have hheld := (request.filter_spec keys).covered c hc hnew.1
    rw [hsame] at hheld
    exact hnew.2 hheld

end ScanRequest

namespace OpportunityRadar

variable {r : OpportunityRadar} {request : ScanRequest} {k : ScanKey} {id : DrawnId}
  {found : OpportunityScan} {c : RadarCall}

/-! ### What a call does -/

/-- A scan raises and only holds the keys, or is recorded under a new id. -/
theorem scan_cases (r : OpportunityRadar) (request : ScanRequest) :
    (∃ e, r.scan request
        = (.error e, { r with keys := (request.filter r.keys).2, drawn := r.drawn + 1 })
      ∧ postInit (request.record r.newId (request.filter r.keys).1) ≠ .ok ())
    ∨ ∃ record : OpportunityScan, record.fields = request.record r.newId (request.filter r.keys).1
      ∧ r.scan request
        = (.ok record, ⟨r.scans.set r.newId record, (request.filter r.keys).2, r.drawn + 1⟩) := by
  simp only [OpportunityRadar.scan]
  split
  · rename_i e hmake
    refine .inl ⟨e, rfl, ?_⟩
    rw [Frozen.make_eq_error.mp hmake]
    exact fun h => by cases h
  · rename_i record hmake
    have hfields := Frozen.make_eq_ok.mp hmake
    have hid : record.fields.scanId = r.newId := by rw [hfields]; rfl
    exact .inr ⟨record, hfields, by rw [hid]⟩

/-- **A call** raises and changes nothing, or is a scan; a rerun is one without candidates. -/
theorem call_cases (r : OpportunityRadar) (c : RadarCall) :
    ((∃ e, r.call c = (.error e, r)) ∧ ¬ c.Burns r)
      ∨ ∃ request, r.call c = r.scan request ∧ (c.Burns r ↔ request.Burns r.keys) := by
  cases c with
  | scan request => exact .inr ⟨request, rfl, Iff.rfl⟩
  | rerunMissed scanId asOf =>
    simp only [call, rerunMissed]
    split
    · exact .inl ⟨⟨_, rfl⟩, id⟩
    · rename_i original horiginal
      split
      · exact .inl ⟨⟨_, rfl⟩, id⟩
      · refine .inr ⟨_, rfl, iff_of_false id ?_⟩
        rintro ⟨⟨candidate, hmem, -⟩, -⟩
        cases hmem

/-! ### What a run keeps -/

/-- What every run keeps: the ids are those drawn, and the recorded keys are held and stand in one
scan each. -/
structure Base (r : OpportunityRadar) : Prop where
  drawn : ∀ id scan, r.scans.get? id = some scan → id.draw < r.drawn
  held : ∀ k, r.Recorded k → k ∈ r.keys
  once : ∀ k id scan id' scan', (r.scans.get? id = some scan ∧ k ∈ scan.keys) →
    (r.scans.get? id' = some scan' ∧ k ∈ scan'.keys) → id = id'

theorem not_missed_of_mem {record : OpportunityScan} {filtered : List OpportunityCandidate}
    (hrecord : record.fields = request.record r.newId filtered) (hmem : k ∈ record.keys) :
    request.missed = false ∧ ∃ c ∈ filtered, request.key c = k := by
  have hvalid := record.valid
  rw [hrecord] at hvalid
  obtain ⟨-, hmissed, -⟩ := ScanRequest.postInit_record.mp hvalid
  rw [OpportunityScan.keys, hrecord] at hmem
  obtain ⟨candidate, hcandidate, hkey⟩ := List.mem_map.mp hmem
  refine ⟨?_, candidate, hcandidate, hkey⟩
  rw [Bool.eq_false_iff]
  intro hm
  have hcandidate : candidate ∈ filtered := hcandidate
  rw [hmissed hm] at hcandidate
  cases hcandidate

theorem Base.recorded_cases (h : r.Base) {record : OpportunityScan}
    (hrecord : record.fields = request.record r.newId (request.filter r.keys).1)
    (hget : (r.scans.set r.newId record).get? id = some found) (hmem : k ∈ found.keys) :
    (id ≠ r.newId ∧ r.scans.get? id = some found ∧ k ∈ r.keys)
      ∨ id = r.newId ∧ found = record ∧ k ∉ r.keys ∧ k ∈ (request.filter r.keys).2 := by
  by_cases hid : id = r.newId
  · subst hid
    rw [Dict.get?_set_self] at hget
    obtain rfl := Option.some.inj hget
    obtain ⟨hmissed, candidate, hcandidate, rfl⟩ := not_missed_of_mem hrecord hmem
    refine .inr ⟨rfl, rfl, ?_, ?_⟩
    · exact (ScanRequest.new_of_mem_filter hcandidate hmissed).2.2
    · exact ((request.filter_spec r.keys).held _).mpr (.inr ⟨candidate, hcandidate, rfl⟩)
  · rw [Dict.get?_set_of_ne _ _ hid] at hget
    exact .inl ⟨hid, hget, h.held k ⟨id, found, hget, hmem⟩⟩

theorem Base.scan (h : r.Base) (request : ScanRequest) : (r.scan request).2.Base := by
  have hgrows : ∀ k, k ∈ r.keys → k ∈ (request.filter r.keys).2 := fun k hk =>
    ((request.filter_spec r.keys).held k).mpr (.inl hk)
  rcases r.scan_cases request with ⟨e, hscan, -⟩ | ⟨record, hrecord, hscan⟩
  · rw [hscan]
    refine ⟨fun id scan hget => ?_, fun k hk => hgrows k (h.held k hk), h.once⟩
    exact Nat.lt_succ_of_lt (h.drawn id scan hget)
  · rw [hscan]
    refine ⟨fun id scan hget => ?_, ?_, ?_⟩
    · have hget : (r.scans.set r.newId record).get? id = some scan := hget
      by_cases hid : id = r.newId
      · rw [hid]
        exact Nat.lt_succ_self _
      · rw [Dict.get?_set_of_ne _ _ hid] at hget
        exact Nat.lt_succ_of_lt (h.drawn id scan hget)
    · rintro k ⟨id, scan, hget, hmem⟩
      rcases h.recorded_cases hrecord hget hmem with ⟨-, -, hold⟩ | ⟨-, -, -, hnew⟩
      · exact hgrows k hold
      · exact hnew
    · rintro k id scan id' scan' ⟨hget, hmem⟩ ⟨hget', hmem'⟩
      rcases h.recorded_cases hrecord hget hmem with ⟨-, hwas, hold⟩ | ⟨hid, -, hnew, -⟩
      · rcases h.recorded_cases hrecord hget' hmem' with ⟨-, hwas', -⟩ | ⟨-, -, hnew', -⟩
        · exact h.once k id scan id' scan' ⟨hwas, hmem⟩ ⟨hwas', hmem'⟩
        · exact absurd hold hnew'
      · rcases h.recorded_cases hrecord hget' hmem' with ⟨-, -, hold'⟩ | ⟨hid', -⟩
        · exact absurd hold' hnew
        · rw [hid, hid']

theorem base_exec (calls : List RadarCall) : (machine.exec {} calls).Base := by
  refine machine.exec_invariant (I := Base) (fun r c h => ?_) ?_ calls
  · show (r.call c).2.Base
    rcases r.call_cases c with ⟨⟨e, hcall⟩, -⟩ | ⟨request, hcall, -⟩
    · rw [hcall]
      exact h
    · rw [hcall]
      exact h.scan request
  · refine ⟨fun id scan hget => (by cases hget), ?_, ?_⟩
    · rintro k ⟨id, scan, hget, -⟩
      cases hget
    · rintro k id scan id' scan' ⟨hget, -⟩
      cases hget

/-- Every key that is held is recorded. -/
def Settled (r : OpportunityRadar) : Prop := ∀ k ∈ r.keys, r.Recorded k

/-- A scan that burns nothing leaves the radar as it is, or records what it lets through. -/
theorem Base.settled_scan (h : r.Base) (hsettled : r.Settled) (hnot : ¬ request.Burns r.keys) :
    (r.scan request).2.Settled := by
  have hne : ∀ {id scan}, r.scans.get? id = some scan → id ≠ r.newId := by
    rintro id scan hget rfl
    exact lt_irrefl _ (h.drawn _ scan hget)
  rcases ScanRequest.valid_or_none_new hnot r.drawn with hvalid | hsame
  · rcases r.scan_cases request with ⟨e, -, hinvalid⟩ | ⟨record, hrecord, hscan⟩
    · exact absurd hvalid hinvalid
    · rw [hscan]
      intro k hk
      rcases ((request.filter_spec r.keys).held k).mp hk with hold | ⟨candidate, hmem, rfl⟩
      · obtain ⟨id, scan, hget, hkey⟩ := hsettled k hold
        exact ⟨id, scan, (Dict.get?_set_of_ne _ _ (hne hget)).trans hget, hkey⟩
      · refine ⟨r.newId, record, Dict.get?_set_self _ _ _, ?_⟩
        rw [OpportunityScan.keys, hrecord]
        exact List.mem_map_of_mem hmem
  · rcases r.scan_cases request with ⟨e, hscan, -⟩ | ⟨record, hrecord, hscan⟩
    · rw [hscan]
      intro k hk
      exact hsettled k (hsame ▸ hk)
    · rw [hscan]
      intro k hk
      obtain ⟨id, scan, hget, hkey⟩ := hsettled k (hsame ▸ hk)
      exact ⟨id, scan, (Dict.get?_set_of_ne _ _ (hne hget)).trans hget, hkey⟩

theorem settled_exec {calls : List RadarCall}
    (h : machine.Meets (fun r c => ¬ c.Burns r) {} calls) : (machine.exec {} calls).Settled := by
  have hrun : (machine.exec {} calls).Base ∧ (machine.exec {} calls).Settled := by
    refine machine.exec_invariant_of_meets (I := fun r => r.Base ∧ r.Settled) ?_ h
      ⟨base_exec [], fun k hk => by cases hk⟩
    rintro r c hnot ⟨hbase, hsettled⟩
    show (r.call c).2.Base ∧ (r.call c).2.Settled
    rcases r.call_cases c with ⟨⟨e, hcall⟩, -⟩ | ⟨request, hcall, hburns⟩
    · rw [hcall]
      exact ⟨hbase, hsettled⟩
    · rw [hcall]
      exact ⟨hbase.scan request, hbase.settled_scan hsettled (mt hburns.mpr hnot)⟩
  exact hrun.2

theorem scan_records (hvalid : request.Valid) {candidate : OpportunityCandidate}
    (hmem : candidate ∈ request.candidates) (hnew : request.New r.keys candidate) :
    ∃ record, (r.scan request).1 = .ok record
      ∧ (r.scan request).2.scans.get? record.fields.scanId = some record
      ∧ ∃ c' ∈ record.fields.candidates, c' ∈ request.candidates
        ∧ request.key c' = request.key candidate := by
  obtain ⟨hmeta, hmissed, hinside⟩ := hvalid
  have hpost : postInit (request.record r.newId (request.filter r.keys).1) = .ok () := by
    refine ScanRequest.postInit_record.mpr ⟨hmeta, fun hm => ?_, fun c hc => ?_⟩
    · exact absurd (hmissed.symm.trans hm) (by decide)
    · exact hinside c (ScanRequest.new_of_mem_filter hc hmissed).1
  rcases r.scan_cases request with ⟨e, -, hinvalid⟩ | ⟨record, hrecord, hscan⟩
  · exact absurd hpost hinvalid
  · obtain ⟨c', hc', hkey⟩ := ScanRequest.exists_mem_filter hmem hnew
    have hid : record.fields.scanId = r.newId := by rw [hrecord]; rfl
    refine ⟨record, by rw [hscan], ?_, c', ?_, ?_, hkey⟩
    · rw [hscan, hid]
      exact Dict.get?_set_self _ _ _
    · rw [hrecord]
      exact hc'
    · exact (ScanRequest.new_of_mem_filter hc' hmissed).1

/-- **A call that raises** changes nothing exactly when it burns nothing. -/
theorem unchanged_iff (r : OpportunityRadar) (c : RadarCall) :
    (Py.Raises (machine.out r c) →
        (machine.next r c).scans = r.scans ∧ (machine.next r c).keys = r.keys)
      ↔ ¬ c.Burns r := by
  show (Py.Raises (r.call c).1 → (r.call c).2.scans = r.scans ∧ (r.call c).2.keys = r.keys) ↔ _
  rcases r.call_cases c with ⟨⟨e, hcall⟩, hnot⟩ | ⟨request, hcall, hburns⟩
  · rw [hcall]
    exact iff_of_true (fun _ => ⟨rfl, rfl⟩) hnot
  · rw [hcall, hburns]
    constructor
    · intro hsame h
      obtain ⟨hinvalid, hmore⟩ := ScanRequest.invalid_of_burns h r.drawn
      rcases r.scan_cases request with ⟨e, hscan, -⟩ | ⟨record, hrecord, -⟩
      · rw [hscan] at hsame
        exact hmore (hsame (Py.raises_error e)).2
      · exact hinvalid (hrecord ▸ record.valid)
    · intro hnot hraises
      rcases r.scan_cases request with ⟨e, hscan, hinvalid⟩ | ⟨record, -, hscan⟩
      · rw [hscan]
        refine ⟨rfl, ?_⟩
        rcases ScanRequest.valid_or_none_new hnot r.drawn with hvalid | hsame
        · exact absurd hvalid hinvalid
        · exact hsame
      · rw [hscan] at hraises
        exact absurd hraises (Py.not_raises_ok record)

/-- **Faithfulness.** A run is faithful exactly when no scan of it raises while it has a new
candidate. -/
theorem faithful_iff (calls : List RadarCall) :
    Faithful calls ↔ machine.Meets (fun r c => ¬ c.Burns r) {} calls := by
  constructor
  · intro h
    refine machine.meets_iff_trace.mpr fun event hevent => ?_
    refine (unchanged_iff event.1 event.2.1).mp fun hraises => h.unchanged event hevent ?_
    rw [machine.trace_out hevent]
    exact hraises
  · intro hmeets
    refine ⟨(base_exec calls).once, fun request c hvalid hmem hwarm hnot => ?_,
      fun event hevent hraises => ?_⟩
    · exact scan_records hvalid hmem ⟨hwarm, fun hheld => hnot (settled_exec hmeets _ hheld)⟩
    · refine (unchanged_iff event.1 event.2.1).mpr (machine.meets_iff_trace.mp hmeets event hevent) ?_
      rw [← machine.trace_out hevent]
      exact hraises

/-! ### A scan that raises and is tried again -/

/-- The evidence of a candidate. -/
def sampleEvidence (supports : Bool) : ResearchEvidence where
  fields :=
    { ref := if supports then "for" else "against"
      contentSha256 := List.replicate 64 (Text.ofChar '0')
      summary := "summary" }
  valid := by cases supports <;> decide

/-- A candidate of one instrument. -/
def sampleCandidate : OpportunityCandidate where
  fields :=
    { candidateId := ⟨"opportunity_candidate", 0⟩
      instrument := "rb"
      horizon := .SWING
      dedupeKey := "breakout"
      supportingEvidence := [sampleEvidence true]
      opposingEvidence := [sampleEvidence false]
      hypothesis := "trend" }
  valid := by decide

/-- A scan of the instrument, with a budget. -/
def sampleRequest (budget : ℤ) : ScanRequest where
  scanPolicy := ⟨⟨"scan", "1", 60, 0⟩, by decide⟩
  universePolicy := ⟨⟨"universe", "1", ["rb"]⟩, by decide⟩
  asOf := ⟨.of 2024 1 1 (Eq.refl true), 0, 0, 0, 0⟩
  dataRevision := "d1"
  featureRevision := "f1"
  budget
  candidates := [sampleCandidate]

/-- **A scan that raises** holds the key of its candidate, and the scan tried again records
nothing. -/
theorem failed_scan_loses_candidate : ¬ Faithful [.scan (sampleRequest 0)] := by
  intro h
  obtain ⟨record, hrecord, -, c', hc', -⟩ :=
    h.nothingLost (sampleRequest 1) sampleCandidate (by decide) (List.mem_singleton_self _)
      (by decide) (by
        rintro ⟨id, scan, hget, -⟩
        cases hget)
  have hempty : (((machine.exec {} [.scan (sampleRequest 0)]).scan (sampleRequest 1)).1.map
      fun record => record.fields.candidates) = .ok [] := by rfl
  rw [hrecord] at hempty
  have hnil : record.fields.candidates = [] := Except.ok.inj hempty
  rw [hnil] at hc'
  cases hc'

end OpportunityRadar

end FuturesAgentOs
