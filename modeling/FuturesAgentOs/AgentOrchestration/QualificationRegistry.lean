import FuturesAgentOs.Decision.Authorization
import FuturesAgentOs.PyModel.Calls
import FuturesAgentOs.PyModel.Machine
import Mathlib.Algebra.Order.Ring.Rat

namespace FuturesAgentOs

open PyModel

/-!
# The qualification registry

`agent_orchestration/v3_runtime.py`: versions of agents are registered, qualified against
thresholds and activated by a human.  The status is part of the registered value.

* `governed_exec` — so is every active version, unless one is registered with its status.
-/

/-! ### Numbers -/

/-- An `int` or a `float`. -/
inductive PyNumber where
  | int (n : ℤ)
  | float (q : ℚ)
  | infinite (negative : Bool)
  | nan
  deriving DecidableEq

namespace PyNumber

/-- The value of a finite number. -/
def value : PyNumber → ℚ
  | .int n => n
  | .float q => q
  | _ => 0

/-- `math.isfinite(float(value))`; an `int` that no float can hold raises. -/
def isFinite : PyNumber → Py Bool
  | .int n =>
    if 2 ^ 1024 - 2 ^ 970 ≤ |n| then
      .error ⟨.overflowError, "int too large to convert to float"⟩
    else .ok true
  | .float _ => .ok true
  | _ => .ok false

/-- `x < y` -/
def lt : PyNumber → PyNumber → Bool
  | .nan, _ => false
  | _, .nan => false
  | .infinite negative, .infinite negative' => negative && !negative'
  | .infinite negative, _ => negative
  | _, .infinite negative => !negative
  | x, y => x.value < y.value

theorem le_of_not_lt {x y : PyNumber} (hx : x.isFinite = .ok true) (hy : y.isFinite = .ok true)
    (h : x.lt y = false) : y.value ≤ x.value := by
  cases x with
  | infinite negative => cases hx
  | nan => cases hx
  | int n =>
    cases y with
    | infinite negative => cases hy
    | nan => cases hy
    | int m => exact not_lt.mp (by simpa [lt] using h)
    | float q => exact not_lt.mp (by simpa [lt] using h)
  | float p =>
    cases y with
    | infinite negative => cases hy
    | nan => cases hy
    | int m => exact not_lt.mp (by simpa [lt] using h)
    | float q => exact not_lt.mp (by simpa [lt] using h)

/-- Nothing finite is below `float("-inf")`, which a missing metric counts as. -/
theorem lt_of_negative {y : PyNumber} (hy : y.isFinite = .ok true) :
    (infinite true).lt y = true := by
  cases y with
  | int n => rfl
  | float q => rfl
  | infinite negative => cases hy
  | nan => cases hy

end PyNumber

/-! ### Versions and scorecards -/

inductive QualificationStatus where
  | REGISTERED
  | QUALIFIED
  | REJECTED
  | ACTIVE
  | QUARANTINED
  | RETIRED
  deriving DecidableEq

def QualificationStatus.value : QualificationStatus → Text
  | REGISTERED => "REGISTERED"
  | QUALIFIED => "QUALIFIED"
  | REJECTED => "REJECTED"
  | ACTIVE => "ACTIVE"
  | QUARANTINED => "QUARANTINED"
  | RETIRED => "RETIRED"

structure AgentVersionFields where
  role : Text
  version : Text
  promptRef : Text
  modelRef : Text
  toolsetRef : Text
  baselineRef : Text := Text.ofString "baseline:unspecified"
  status : QualificationStatus := .REGISTERED
  deriving DecidableEq

instance : Dataclass AgentVersionFields where
  postInit f := require
    (∀ v ∈ [f.role, f.version, f.promptRef, f.modelRef, f.toolsetRef, f.baselineRef], v.strip ≠ [])
    (valueError "agent version requires role, version and immutable refs")

abbrev AgentVersion := Frozen AgentVersionFields

namespace AgentVersion

/-- `AgentVersion(current.role, …, status)` -/
def withStatus (current : AgentVersion) (status : QualificationStatus) : AgentVersion where
  fields := { current.fields with status }
  valid := current.valid

/-- `(version.role, version.version)` -/
def key (v : AgentVersion) : Text × Text := (v.fields.role, v.fields.version)

end AgentVersion

/-- `EvaluationScorecard.REQUIRED` -/
def requiredDimensions : List Text :=
  ["opportunity_coverage", "opportunity_precision", "no_trade_discipline",
    "unnecessary_trade_rate", "mandate_adherence", "notification_precision", "delegation",
    "handoff", "conflict_handling", "budget_exhaustion", "timeout_handling", "tool_scope_errors",
    "model_degradation"]

structure EvaluationScorecardFields where
  metrics : Dict Text PyNumber
  thresholds : Dict Text PyNumber

instance : Dataclass EvaluationScorecardFields where
  postInit f := do
    require ((∀ k ∈ f.metrics.keys, k ∈ f.thresholds.keys)
        ∧ (∀ k ∈ f.thresholds.keys, k ∈ f.metrics.keys)
        ∧ (∀ k ∈ f.metrics.keys, k ∈ requiredDimensions)
        ∧ ∀ k ∈ requiredDimensions, k ∈ f.metrics.keys)
      (valueError "scorecard must cover every registered evaluation dimension")
    let finite ← Py.allHold ((f.metrics.values ++ f.thresholds.values).map PyNumber.isFinite)
    require (finite = true) (valueError "scorecard values must be finite")

abbrev EvaluationScorecard := Frozen EvaluationScorecardFields

/-- `not metrics or not thresholds or any(…)` -/
def checkFinite (metrics thresholds : Dict Text PyNumber) : Py Unit := do
  require (metrics.items ≠ [] ∧ thresholds.items ≠ [])
    (valueError "qualification requires finite metrics and thresholds")
  let finite ← Py.allHold ((metrics.values ++ thresholds.values).map PyNumber.isFinite)
  require (finite = true) (valueError "qualification requires finite metrics and thresholds")

/-- `any(metrics.get(name, float("-inf")) < limit for name, limit in thresholds.items())` -/
def missesThreshold (metrics thresholds : Dict Text PyNumber) : Bool :=
  thresholds.items.any fun p => ((metrics.get? p.1).getD (.infinite true)).lt p.2

/-! ### The registry -/

structure QualificationRegistry where
  versions : Dict (Text × Text) AgentVersion := Dict.empty
  events : List Text := []

/-- A call of the registry. -/
inductive RegistryCall where
  | register (version : AgentVersion)
  | qualify (role version : Text) (metrics thresholds : Dict Text PyNumber)
  | qualifyScorecard (role version : Text) (scorecard : EvaluationScorecard)
  | activate (role version actor : Text)

namespace QualificationRegistry

/-- `f"{kind}:{role}:{version}:{detail}"` -/
def eventText (kind role version detail : Text) : Text :=
  kind ++ Text.ofString ":" ++ role ++ Text.ofString ":" ++ version ++ Text.ofString ":" ++ detail

variable (r : QualificationRegistry)

/-- `self._versions[key] = version`, and the event. -/
def record (key : Text × Text) (version : AgentVersion) (event : Text) : QualificationRegistry :=
  ⟨r.versions.set key version, r.events ++ [event]⟩

def register (version : AgentVersion) : Py AgentVersion × QualificationRegistry :=
  match r.versions.get? version.key with
  | some _ => (.error (valueError "agent version already registered"), r)
  | none => (.ok version, r.record version.key version
      (eventText "REGISTER" version.fields.role version.fields.version version.fields.baselineRef))

def qualify (role version : Text) (metrics thresholds : Dict Text PyNumber) :
    Py AgentVersion × QualificationRegistry :=
  match r.versions.get? (role, version) with
  | none => (.error ⟨.keyError, role ++ version⟩, r)
  | some current =>
    match checkFinite metrics thresholds with
    | .error e => (.error e, r)
    | .ok () =>
      let updated := current.withStatus
        (if missesThreshold metrics thresholds then .REJECTED else .QUALIFIED)
      (.ok updated, r.record (role, version) updated
        (eventText "QUALIFY" role version updated.fields.status.value))

def qualifyScorecard (role version : Text) (scorecard : EvaluationScorecard) :
    Py AgentVersion × QualificationRegistry :=
  r.qualify role version scorecard.fields.metrics scorecard.fields.thresholds

def activate (role version actor : Text) : Py AgentVersion × QualificationRegistry :=
  match r.versions.get? (role, version) with
  | none => (.error ⟨.keyError, role ++ version⟩, r)
  | some current =>
    if current.fields.status ≠ .QUALIFIED then
      (.error (valueError "only qualified versions may activate"), r)
    else if ¬ IsHuman actor then
      (.error ⟨.permissionError, "activation requires a human governance actor"⟩, r)
    else
      (.ok (current.withStatus .ACTIVE), r.record (role, version) (current.withStatus .ACTIVE)
        (eventText "ACTIVATE" role version actor))

/-- A call of the registry. -/
def call : RegistryCall → Py AgentVersion × QualificationRegistry
  | .register version => r.register version
  | .qualify role version metrics thresholds => r.qualify role version metrics thresholds
  | .qualifyScorecard role version scorecard => r.qualifyScorecard role version scorecard
  | .activate role version actor => r.activate role version actor

/-- The registry, as a machine of its calls. -/
def machine : Machine QualificationRegistry RegistryCall (Py AgentVersion) := ⟨call⟩

/-- A step of a run: the registry before it, the call and the answer. -/
abbrev Event := QualificationRegistry × RegistryCall × Py AgentVersion

/-- All thresholds are met. -/
def AllMet (metrics thresholds : Dict Text PyNumber) : Prop :=
  ∀ name limit, thresholds.get? name = some limit →
    ∃ metric, metrics.get? name = some metric ∧ limit.value ≤ metric.value

end QualificationRegistry

/-- The call judges a version by metrics and thresholds. -/
def RegistryCall.Judges (role version : Text) (metrics thresholds : Dict Text PyNumber) :
    RegistryCall → Prop
  | .qualify role' version' metrics' thresholds' =>
    role' = role ∧ version' = version ∧ metrics' = metrics ∧ thresholds' = thresholds
  | .qualifyScorecard role' version' scorecard =>
    role' = role ∧ version' = version
      ∧ scorecard.fields.metrics = metrics ∧ scorecard.fields.thresholds = thresholds
  | _ => False

/-- The call registers a version whose status says that it was qualified or activated. -/
def RegistryCall.RegistersJudged : RegistryCall → Prop
  | .register version => version.fields.status ∈ [QualificationStatus.QUALIFIED, .ACTIVE]
  | _ => False

instance (c : RegistryCall) : Decidable c.RegistersJudged :=
  match c with
  | .register _ => inferInstanceAs (Decidable (_ ∈ _))
  | .qualify _ _ _ _ => isFalse id
  | .qualifyScorecard _ _ _ => isFalse id
  | .activate _ _ _ => isFalse id

namespace QualificationRegistry

/-- The version was qualified in this step, with all thresholds met. -/
def Qualifies (role version : Text) (event : Event) : Prop :=
  ∃ metrics thresholds updated, event.2.1.Judges role version metrics thresholds
    ∧ event.2.2 = .ok updated ∧ updated.fields.status = .QUALIFIED ∧ AllMet metrics thresholds

/-- The version was activated in this step by a human. -/
def Activates (role version actor : Text) (event : Event) : Prop :=
  event.2.1 = .activate role version actor ∧ (∃ updated, event.2.2 = .ok updated) ∧ IsHuman actor

/-- The event of a qualification. -/
def qualifiedText (role version : Text) : Text :=
  eventText "QUALIFY" role version QualificationStatus.QUALIFIED.value

/-- The event of an activation. -/
def activatedText (role version actor : Text) : Text := eventText "ACTIVATE" role version actor

/-- The version was qualified, and the log says so. -/
def WasQualified (history : List Event) (log : List Text) (role version : Text) : Prop :=
  (∃ qualifying ∈ history, Qualifies role version qualifying) ∧ qualifiedText role version ∈ log

/-- The version was qualified and then activated by a human, and the log says so in that order. -/
def WasActivated (history : List Event) (log : List Text) (role version : Text) : Prop :=
  ∃ actor before qualifying between activating rest,
    history = before ++ qualifying :: between ++ activating :: rest
      ∧ Qualifies role version qualifying ∧ Activates role version actor activating
      ∧ [qualifiedText role version, activatedText role version actor].Sublist log

/-- **Governed.** Every active version was qualified with all thresholds met and then activated by
a human, and the log holds both events in that order. -/
def Governed (history : List Event) (r : QualificationRegistry) : Prop :=
  ∀ role version v, r.versions.get? (role, version) = some v → v.fields.status = .ACTIVE →
    WasActivated history r.events role version

/-! ### What a call does -/

variable {r r' : QualificationRegistry} {c : RegistryCall} {answer : Py AgentVersion}
  {history : List Event} {log : List Text} {role version : Text}

/-- All that a call does to a registry. -/
inductive RegistryStep (r : QualificationRegistry) :
    RegistryCall → Py AgentVersion → QualificationRegistry → Prop where
  | raised {c : RegistryCall} {e : PyException} : RegistryStep r c (.error e) r
  | registered {v : AgentVersion} {text : Text} (hnew : r.versions.get? v.key = none) :
      RegistryStep r (.register v) (.ok v) (r.record v.key v text)
  | judged {c : RegistryCall} {role version : Text} {metrics thresholds : Dict Text PyNumber}
      {current : AgentVersion} {status : QualificationStatus}
      (hjudges : c.Judges role version metrics thresholds)
      (hstored : r.versions.get? (role, version) = some current)
      (hstatus : status = .REJECTED ∨ status = .QUALIFIED ∧ AllMet metrics thresholds) :
      RegistryStep r c (.ok (current.withStatus status))
        (r.record (role, version) (current.withStatus status)
          (eventText "QUALIFY" role version status.value))
  | activated {role version actor : Text} {current : AgentVersion}
      (hstored : r.versions.get? (role, version) = some current)
      (hstatus : current.fields.status = .QUALIFIED) (hhuman : IsHuman actor) :
      RegistryStep r (.activate role version actor) (.ok (current.withStatus .ACTIVE))
        (r.record (role, version) (current.withStatus .ACTIVE) (activatedText role version actor))

theorem checkFinite_eq_ok {metrics thresholds : Dict Text PyNumber} :
    checkFinite metrics thresholds = .ok () ↔
      (metrics.items ≠ [] ∧ thresholds.items ≠ [])
        ∧ ∀ number ∈ metrics.values ++ thresholds.values, number.isFinite = .ok true := by
  rw [checkFinite, require_bind_eq_ok, Py.bind_eq_ok]
  constructor
  · rintro ⟨hnonempty, finite, hfinite, hrequire⟩
    rw [require_eq_ok] at hrequire
    rw [hrequire, Py.allHold_eq_true] at hfinite
    exact ⟨hnonempty, fun number hmem => hfinite _ (List.mem_map_of_mem hmem)⟩
  · rintro ⟨hnonempty, hfinite⟩
    refine ⟨hnonempty, true, Py.allHold_eq_true.mpr fun condition hmem => ?_, rfl⟩
    obtain ⟨number, hnumber, rfl⟩ := List.mem_map.mp hmem
    exact hfinite number hnumber

theorem allMet_of_checked {metrics thresholds : Dict Text PyNumber}
    (hchecked : checkFinite metrics thresholds = .ok ())
    (h : missesThreshold metrics thresholds = false) : AllMet metrics thresholds := by
  intro name limit hlimit
  obtain ⟨-, hfinite⟩ := checkFinite_eq_ok.mp hchecked
  have hitem : (name, limit) ∈ thresholds.items := Dict.mem_items_iff.mpr hlimit
  have hvalue : limit.isFinite = .ok true :=
    hfinite limit (List.mem_append_right _ (Dict.mem_values_iff.mpr ⟨name, hlimit⟩))
  have hnot := List.any_eq_false.mp h _ hitem
  rw [Bool.not_eq_true] at hnot
  cases hmetric : metrics.get? name with
  | none =>
    rw [hmetric] at hnot
    exact absurd ((PyNumber.lt_of_negative hvalue).symm.trans hnot) (by decide)
  | some metric =>
    rw [hmetric] at hnot
    refine ⟨metric, rfl, PyNumber.le_of_not_lt ?_ hvalue hnot⟩
    exact hfinite metric (List.mem_append_left _ (Dict.mem_values_iff.mpr ⟨name, hmetric⟩))

theorem step_qualify (r : QualificationRegistry) (c : RegistryCall) (role version : Text)
    (metrics thresholds : Dict Text PyNumber) (hjudges : c.Judges role version metrics thresholds) :
    RegistryStep r c (r.qualify role version metrics thresholds).1
      (r.qualify role version metrics thresholds).2 := by
  unfold qualify
  split
  · exact .raised
  · rename_i current hstored
    split
    · exact .raised
    · rename_i hchecked
      refine .judged hjudges hstored ?_
      split
      · exact .inl rfl
      · rename_i hmet
        exact .inr ⟨rfl, allMet_of_checked hchecked (by simpa using hmet)⟩

theorem step_call (r : QualificationRegistry) (c : RegistryCall) :
    RegistryStep r c (machine.out r c) (machine.next r c) := by
  cases c with
  | register v =>
    show RegistryStep r _ (r.register v).1 (r.register v).2
    unfold register
    split
    · exact .raised
    · rename_i hnew
      exact .registered hnew
  | qualify role version metrics thresholds =>
    exact r.step_qualify _ role version metrics thresholds ⟨rfl, rfl, rfl, rfl⟩
  | qualifyScorecard role version scorecard =>
    exact r.step_qualify _ role version _ _ ⟨rfl, rfl, rfl, rfl⟩
  | activate role version actor =>
    show RegistryStep r _ (r.activate role version actor).1 (r.activate role version actor).2
    unfold activate
    split
    · exact .raised
    · rename_i current hstored
      split
      · exact .raised
      · rename_i hstatus
        split
        · exact .raised
        · rename_i hhuman
          exact .activated hstored (not_not.mp hstatus) (not_not.mp hhuman)

/-! ### What a run keeps -/

theorem WasQualified.append (h : WasQualified history log role version) (events : List Event)
    (texts : List Text) : WasQualified (history ++ events) (log ++ texts) role version := by
  obtain ⟨⟨qualifying, hmem, hqualifies⟩, hlog⟩ := h
  exact ⟨⟨qualifying, List.mem_append_left _ hmem, hqualifies⟩, List.mem_append_left _ hlog⟩

theorem WasActivated.append (h : WasActivated history log role version) (events : List Event)
    (texts : List Text) : WasActivated (history ++ events) (log ++ texts) role version := by
  obtain ⟨actor, before, qualifying, between, activating, rest, rfl, hq, ha, hlog⟩ := h
  refine ⟨actor, before, qualifying, between, activating, rest ++ events, ?_, hq, ha, ?_⟩
  · simp
  · exact hlog.trans (List.sublist_append_left _ _)

theorem WasQualified.activated (h : WasQualified history log role version) {actor : Text}
    {activating : Event} (ha : Activates role version actor activating) :
    WasActivated (history ++ [activating]) (log ++ [activatedText role version actor])
      role version := by
  obtain ⟨⟨qualifying, hmem, hq⟩, hlog⟩ := h
  obtain ⟨before, between, rfl⟩ := List.append_of_mem hmem
  refine ⟨actor, before, qualifying, between, activating, [], rfl, hq, ha, ?_⟩
  exact (List.singleton_sublist.mpr hlog).append (List.Sublist.refl _)

/-- What the status of a stored version says about the history. -/
structure Standing (history : List Event) (r : QualificationRegistry) (key : Text × Text)
    (v : AgentVersion) : Prop where
  qualified : v.fields.status = .QUALIFIED → WasQualified history r.events key.1 key.2
  active : v.fields.status = .ACTIVE → WasActivated history r.events key.1 key.2

theorem Standing.append {key : Text × Text} {v : AgentVersion} (h : Standing history r key v)
    (events : List Event) {texts : List Text} (hlog : r'.events = r.events ++ texts) :
    Standing (history ++ events) r' key v where
  qualified hstatus := hlog ▸ (h.qualified hstatus).append events texts
  active hstatus := hlog ▸ (h.active hstatus).append events texts

/-- The version that a call stores, and the others. -/
theorem standing_record (h : ∀ key v, r.versions.get? key = some v → Standing history r key v)
    {key : Text × Text} {v : AgentVersion} {text : Text} (event : Event)
    (hnew : Standing (history ++ [event]) (r.record key v text) key v) :
    ∀ key' v', (r.record key v text).versions.get? key' = some v' →
      Standing (history ++ [event]) (r.record key v text) key' v' := by
  intro key' v' hget
  have hget : (r.versions.set key v).get? key' = some v' := hget
  by_cases hkey : key' = key
  · subst hkey
    rw [Dict.get?_set_self] at hget
    obtain rfl := Option.some.inj hget
    exact hnew
  · rw [Dict.get?_set_of_ne _ _ hkey] at hget
    exact (h key' v' hget).append [event] rfl

theorem standing_step (h : ∀ key v, r.versions.get? key = some v → Standing history r key v)
    (hstep : RegistryStep r c answer r') (hnot : ¬ c.RegistersJudged) :
    ∀ key v, r'.versions.get? key = some v → Standing (history ++ [(r, c, answer)]) r' key v := by
  cases hstep with
  | raised =>
    intro key v hget
    exact (h key v hget).append _ (List.append_nil _).symm
  | registered hnew =>
    refine standing_record h _ ⟨fun hstatus => ?_, fun hstatus => ?_⟩
    · exact absurd (List.mem_cons.mpr (.inl hstatus)) hnot
    · exact absurd (List.mem_cons.mpr (.inr (List.mem_singleton.mpr hstatus))) hnot
  | @judged _ role version metrics thresholds current status hjudges hstored hstatus =>
    refine standing_record h _ ⟨fun hqualified => ?_, fun hactive => ?_⟩
    · have hqualified : status = .QUALIFIED := hqualified
      rcases hstatus with rfl | ⟨rfl, hmet⟩
      · cases hqualified
      · refine ⟨⟨_, List.mem_append_right _ (List.mem_singleton_self _), ?_⟩, ?_⟩
        · exact ⟨metrics, thresholds, _, hjudges, rfl, rfl, hmet⟩
        · exact List.mem_append_right _ (List.mem_singleton_self _)
    · have hactive : status = .ACTIVE := hactive
      rcases hstatus with rfl | ⟨rfl, -⟩
      · cases hactive
      · cases hactive
  | activated hstored hstatus hhuman =>
    refine standing_record h _ ⟨fun hqualified => ?_, fun _ => ?_⟩
    · cases hqualified
    · exact ((h _ _ hstored).qualified hstatus).activated ⟨rfl, ⟨_, rfl⟩, hhuman⟩

/-- **Governance.** In every run in which no version is registered as already qualified or active,
every active version is governed, whatever else is called in whatever order. -/
theorem governed_exec (calls : List RegistryCall)
    (h : machine.Meets (fun _ c => ¬ c.RegistersJudged) {} calls) :
    Governed (machine.trace {} calls) (machine.exec {} calls) := by
  have hrun : ∀ key v, (machine.exec {} calls).versions.get? key = some v →
      Standing (machine.trace {} calls) (machine.exec {} calls) key v := by
    refine machine.trace_invariant_of_meets
      (I := fun history r => ∀ key v, r.versions.get? key = some v → Standing history r key v)
      (fun history r c hnot h => standing_step h (r.step_call c) hnot) ?_ h
    intro key v hget
    cases hget
  exact fun role version v hget hstatus => (hrun _ v hget).active hstatus

/-! ### A strategy agent -/

/-- A version of a strategy agent. -/
def sampleVersion (status : QualificationStatus) : AgentVersion where
  fields :=
    { role := "strategy"
      version := "1"
      promptRef := "p"
      modelRef := "m"
      toolsetRef := "t"
      status }
  valid := by cases status <;> decide

/-- One metric, or one threshold. -/
def sampleNumbers : Dict Text PyNumber := Dict.empty.set "schema" (.int 1)

theorem governed_strategy :
    Governed
      (machine.trace {} [.register (sampleVersion .REGISTERED),
        .qualify "strategy" "1" sampleNumbers sampleNumbers,
        .activate "strategy" "1" "user:operator"])
      (machine.exec {} [.register (sampleVersion .REGISTERED),
        .qualify "strategy" "1" sampleNumbers sampleNumbers,
        .activate "strategy" "1" "user:operator"]) :=
  governed_exec _ (by
    simp only [Machine.Meets]
    decide)

/-- **A version that is registered as active** was never qualified. -/
theorem registered_active :
    ¬ Governed (machine.trace {} [.register (sampleVersion .ACTIVE)])
      (machine.exec {} [.register (sampleVersion .ACTIVE)]) := by
  intro h
  obtain ⟨actor, before, qualifying, between, activating, rest, hhistory, -⟩ :=
    h "strategy" "1" (sampleVersion .ACTIVE) rfl rfl
  have hlength := congrArg List.length hhistory
  simp only [Machine.trace_cons, Machine.trace_nil, List.length_cons, List.length_nil,
    List.length_append] at hlength
  omega

end QualificationRegistry

end FuturesAgentOs
