import FuturesAgentOs.ExecutionSimulation.ProtectionSafety
import FuturesAgentOs.ExecutionSimulation.ProtectionStore

namespace FuturesAgentOs

open PyModel

/-!
# Several handles on one file

A `DurableProtectiveActionRegistry` reads the file when it is opened and writes the whole of its
own memory at every `issue`; replacing the file is the only step that another handle sees.  A
handle that is behind the file erases what the others issued.  As long as the issuing handle
holds what is in the file, nothing is lost (`issued_present`).
-/

/-- The file, and what the handles that were opened on it hold in memory. -/
structure ProtectionWorld where
  file : Option Text
  handles : List ProtectiveActionRegistry

/-- A handle is opened, or a handle issues. -/
inductive ProtectionEvent where
  | opened
  | issue (handle : ℕ) (call : IssueCall)

namespace ProtectionWorld

/-- No file yet. -/
def start : ProtectionWorld := ⟨none, []⟩

section

variable (isPrintable : CodePoint → Bool) [Hashlib]

/-- `DurableProtectiveActionRegistry.__init__` -/
def reopen (w : ProtectionWorld) : Py ProtectiveActionRegistry :=
  match w.file with
  | none => .ok .empty
  | some text => ProtectiveActionRegistry.load isPrintable text

/-- `DurableProtectiveActionRegistry.issue` of a handle: the memory first, then the file. -/
def issue (w : ProtectionWorld) (handle : ℕ) (call : IssueCall) :
    Py (Option ProtectiveRiskAction) × ProtectionWorld :=
  match w.handles[handle]? with
  | none => (.error ⟨.attributeError, "issue"⟩, w)
  | some registry =>
    match registry.issue call with
    | (.error e, after) => (.error e, { w with handles := w.handles.set handle after })
    | (.ok action, after) =>
      let handles := w.handles.set handle after
      match after.persist with
      | .error e => (.error e, { w with handles := handles })
      | .ok text => (.ok (some action), ⟨some text, handles⟩)

/-- One event. -/
def step (w : ProtectionWorld) :
    ProtectionEvent → Py (Option ProtectiveRiskAction) × ProtectionWorld
  | .opened =>
    match w.reopen isPrintable with
    | .ok registry => (.ok none, { w with handles := w.handles ++ [registry] })
    | .error e => (.error e, w)
  | .issue handle call => w.issue handle call

/-- Handles that are opened and issue in any order. -/
def machine : Machine ProtectionWorld ProtectionEvent (Py (Option ProtectiveRiskAction)) :=
  ⟨step isPrintable⟩

/-- The handle that issues holds what is in the file, unless its call raises anyway. -/
def IssuesCurrent (w : ProtectionWorld) : ProtectionEvent → Prop
  | .opened => True
  | .issue handle call => ∀ registry, w.handles[handle]? = some registry →
      w.reopen isPrintable = .ok registry ∨ (registry.issue call).1.Raises

/-- Reopening the file finds every action that an event of the history issued. -/
def HoldsIssued
    (history : List (ProtectionWorld × ProtectionEvent × Py (Option ProtectiveRiskAction)))
    (w : ProtectionWorld) : Prop :=
  ∃ registry, w.reopen isPrintable = .ok registry ∧ ∀ before handle call action,
    (before, .issue handle call, .ok (some action)) ∈ history →
      registry.actions.get? call.key = some action

end

section

variable {isPrintable : CodePoint → Bool} [Hashlib]
  {history : List (ProtectionWorld × ProtectionEvent × Py (Option ProtectiveRiskAction))}
  {w : ProtectionWorld}

/-- What is known of the file: it holds a registry that can be written again, with every action
that was issued. -/
def Kept (isPrintable : CodePoint → Bool)
    (history : List (ProtectionWorld × ProtectionEvent × Py (Option ProtectiveRiskAction)))
    (w : ProtectionWorld) : Prop :=
  ∃ registry, w.reopen isPrintable = .ok registry ∧ registry.Storable ∧
    ∀ before handle call action, (before, .issue handle call, .ok (some action)) ∈ history →
      registry.actions.get? call.key = some action

/-- An event that issues nothing and leaves the file keeps everything. -/
private theorem kept_append {after : ProtectionWorld} {event : ProtectionEvent}
    {answer : Py (Option ProtectiveRiskAction)} (hfile : after.file = w.file)
    (hanswer : ∀ action, answer ≠ .ok (some action)) (h : Kept isPrintable history w) :
    Kept isPrintable (history ++ [(w, event, answer)]) after := by
  obtain ⟨registry, hreopen, hstorable, hissued⟩ := h
  refine ⟨registry, ?_, hstorable, fun before handle call action hmem => ?_⟩
  · rw [reopen, hfile]
    exact hreopen
  · rcases List.mem_append.mp hmem with hmem | hmem
    · exact hissued _ _ _ _ hmem
    · have heq := List.mem_singleton.mp hmem
      injection heq with _ heq
      injection heq with _ heq
      exact absurd heq.symm (hanswer action)

/-- A handle that holds what is in the file writes a file that holds the new action as well. -/
theorem issue_of_current (isPrintable : CodePoint → Bool) {handle : ℕ} {call : IssueCall}
    {registry : ProtectiveActionRegistry}
    (hhandle : w.handles[handle]? = some registry) (hstorable : registry.Storable)
    {action : ProtectiveRiskAction} {after : ProtectiveActionRegistry}
    (hissue : registry.issue call = (.ok action, after)) :
    ∃ text, w.issue handle call = (.ok (some action), ⟨some text, w.handles.set handle after⟩)
      ∧ ProtectiveActionRegistry.load isPrintable text = .ok after := by
  have hafter : after.Storable := by
    have := ProtectiveActionRegistry.storable_issue call hstorable
    rwa [hissue] at this
  obtain ⟨text, hpersist, hload⟩ := ProtectiveActionRegistry.load_persist isPrintable hafter
  exact ⟨text, by simp only [issue, hhandle, hissue, hpersist], hload⟩

theorem kept_step (event : ProtectionEvent) (hcurrent : w.IssuesCurrent isPrintable event)
    (h : Kept isPrintable history w) :
    Kept isPrintable (history ++ [(w, event, (machine isPrintable).out w event)])
      ((machine isPrintable).next w event) := by
  rcases event with _ | ⟨handle, call⟩
  · obtain ⟨registry, hreopen, -⟩ := id h
    have hstep : w.step isPrintable .opened
        = (.ok none, { w with handles := w.handles ++ [registry] }) := by
      simp only [step, hreopen]
    show Kept isPrintable (history ++ [(w, .opened, (w.step isPrintable .opened).1)])
      (w.step isPrintable .opened).2
    rw [hstep]
    refine kept_append rfl (fun action heq => ?_) h
    injection heq with heq
    cases heq
  · show Kept isPrintable (history ++ [(w, .issue handle call, (w.issue handle call).1)])
      (w.issue handle call).2
    rcases hhandle : w.handles[handle]? with _ | registry
    · have hissue : w.issue handle call = (.error ⟨.attributeError, "issue"⟩, w) := by
        simp only [issue, hhandle]
      rw [hissue]
      exact kept_append rfl (fun action heq => by cases heq) h
    · rcases hanswer : registry.issue call with ⟨e | action, after⟩
      · have hissue : w.issue handle call
            = (.error e, { w with handles := w.handles.set handle after }) := by
          simp only [issue, hhandle, hanswer]
        rw [hissue]
        exact kept_append rfl (fun action heq => by cases heq) h
      · -- the handle is current, so what it writes is the file with the new action
        have hreopen := (hcurrent registry hhandle).resolve_right (by rw [hanswer]; simp)
        obtain ⟨found, hfound, hstorable, hissued⟩ := h
        obtain rfl : registry = found := Except.ok.inj (hreopen.symm.trans hfound)
        obtain ⟨text, hissue, hload⟩ :=
          issue_of_current isPrintable hhandle hstorable hanswer
        have hafter : after.Storable := by
          have := ProtectiveActionRegistry.storable_issue call hstorable
          rwa [hanswer] at this
        rw [hissue]
        refine ⟨after, hload, hafter, fun before handle' call' action' hmem => ?_⟩
        rcases List.mem_append.mp hmem with hmem | hmem
        · have hkept := ProtectiveActionRegistry.get?_of_issue_of_get? call
            (hissued _ _ _ _ hmem)
          rwa [hanswer] at hkept
        · have heq := List.mem_singleton.mp hmem
          injection heq with _ heq
          injection heq with hevent haction
          injection hevent with _ hcall
          injection haction with haction
          injection haction with haction
          rw [hcall, haction]
          exact ProtectiveActionRegistry.get?_of_issue hanswer

/-- **Nothing issued is lost** when every call of `issue` goes through a handle that holds what is
in the file: reopening the file finds each issued action, and no key has two actions. -/
theorem issued_present (isPrintable : CodePoint → Bool) (events : List ProtectionEvent)
    (hevents : (machine isPrintable).Meets (IssuesCurrent isPrintable) start events) :
    let history := (machine isPrintable).trace start events
    HoldsIssued isPrintable history ((machine isPrintable).exec start events)
      ∧ ∀ w₁ w₂ handle₁ handle₂ call₁ call₂ action₁ action₂,
          (w₁, .issue handle₁ call₁, .ok (some action₁)) ∈ history →
          (w₂, .issue handle₂ call₂, .ok (some action₂)) ∈ history →
          call₁.key = call₂.key → action₁ = action₂ := by
  intro history
  have hstart : Kept isPrintable [] start :=
    ⟨.empty, rfl, ProtectiveActionRegistry.storable_empty, fun _ _ _ _ hmem => by cases hmem⟩
  obtain ⟨registry, hreopen, -, hissued⟩ := (machine isPrintable).trace_invariant_of_meets
    (fun h w event hcurrent hkept => kept_step event hcurrent hkept) hstart hevents
  refine ⟨⟨registry, hreopen, hissued⟩, fun w₁ w₂ _ _ call₁ call₂ action₁ action₂ h₁ h₂ hkey => ?_⟩
  have hfirst := hissued _ _ _ _ h₁
  rw [hkey, hissued _ _ _ _ h₂] at hfirst
  exact (Option.some.inj hfirst).symm

end

/-! ### Two handles -/

open ProtectiveActionRegistry

section

variable (isPrintable : CodePoint → Bool) [Hashlib] {first second : IssueCall}
  {a b : ProtectiveRiskAction}

/-- The registry with one action. -/
def only (call : IssueCall) (a : ProtectiveRiskAction) : ProtectiveActionRegistry :=
  ⟨Dict.empty.set call.key a⟩

theorem exists_issue_empty (call : IssueCall)
    (houtcome : call.validation.fields.outcome = .VALIDATED) (hkey : call.key.IsAscii) :
    ∃ a, empty.issue call = (.ok a, only call a) := by
  obtain ⟨a, ha⟩ := exists_action call.now houtcome hkey
  exact ⟨a, by simp only [ProtectiveActionRegistry.issue, empty, Dict.get?_empty, ha, only]⟩

/-- A handle issues, and a second one is opened afterwards and issues. -/
def inTurn (first second : IssueCall) : List ProtectionEvent :=
  [.opened, .issue 0 first, .opened, .issue 1 second]

/-- Two handles are opened, and each of them issues. -/
def sideBySide (first second : IssueCall) : List ProtectionEvent :=
  [.opened, .opened, .issue 0 first, .issue 1 second]

/-- The second handle reads what the first one wrote. -/
theorem meets_inTurn (second : IssueCall) (ha : empty.issue first = (.ok a, only first a)) :
    (machine isPrintable).Meets (IssuesCurrent isPrintable) start (inTurn first second) := by
  have hhandle : (⟨none, [empty]⟩ : ProtectionWorld).handles[0]? = some empty := rfl
  obtain ⟨text, hstep, hload⟩ := issue_of_current isPrintable hhandle storable_empty ha
  have hissued : (machine isPrintable).next ⟨none, [empty]⟩ (.issue 0 first)
      = ⟨some text, [only first a]⟩ := congrArg Prod.snd hstep
  have hopened : (machine isPrintable).next ⟨some text, [only first a]⟩ .opened
      = ⟨some text, [only first a, only first a]⟩ := by
    simp only [Machine.next, machine, step, reopen, hload, List.cons_append, List.nil_append]
  refine ⟨trivial, ?_, trivial, ?_, trivial⟩
  · intro registry hregistry
    exact Or.inl (congrArg Except.ok (Option.some.inj hregistry))
  · show IssuesCurrent isPrintable ((machine isPrintable).next
      ((machine isPrintable).next ⟨none, [empty]⟩ (.issue 0 first)) .opened) (.issue 1 second)
    rw [hissued, hopened]
    intro registry hregistry
    rw [← Option.some.inj hregistry]
    exact Or.inl hload

/-- **Side by side**, the second handle erases what the first one issued. -/
theorem not_holdsIssued_sideBySide (ha : empty.issue first = (.ok a, only first a))
    (hb : empty.issue second = (.ok b, only second b)) (hne : first.key ≠ second.key) :
    ¬ HoldsIssued isPrintable ((machine isPrintable).trace start (sideBySide first second))
      ((machine isPrintable).exec start (sideBySide first second)) := by
  have hhandle : (⟨none, [empty, empty]⟩ : ProtectionWorld).handles[0]? = some empty := rfl
  obtain ⟨text, hstep, -⟩ := issue_of_current isPrintable hhandle storable_empty ha
  have hstale : (⟨some text, [only first a, empty]⟩ : ProtectionWorld).handles[1]? = some empty :=
    rfl
  obtain ⟨text', hstep', hload'⟩ := issue_of_current isPrintable hstale storable_empty hb
  have hopened : (machine isPrintable).next ((machine isPrintable).next start .opened) .opened
      = ⟨none, [empty, empty]⟩ := rfl
  have hissued : (machine isPrintable).next ⟨none, [empty, empty]⟩ (.issue 0 first)
      = ⟨some text, [only first a, empty]⟩ := congrArg Prod.snd hstep
  have hanswer : (machine isPrintable).out ⟨none, [empty, empty]⟩ (.issue 0 first) = .ok (some a) :=
    congrArg Prod.fst hstep
  have hlast : (machine isPrintable).next ⟨some text, [only first a, empty]⟩ (.issue 1 second)
      = ⟨some text', [only first a, only second b]⟩ := congrArg Prod.snd hstep'
  rintro ⟨registry, hreopen, hissuedAll⟩
  have hkept := hissuedAll ⟨none, [empty, empty]⟩ 0 first a (by
    rw [sideBySide, Machine.trace_cons, Machine.trace_cons, hopened, Machine.trace_cons, hanswer]
    exact List.mem_cons_of_mem _ (List.mem_cons_of_mem _ List.mem_cons_self))
  rw [sideBySide, Machine.exec_cons, Machine.exec_cons, hopened, Machine.exec_cons, hissued,
    Machine.exec_cons, hlast] at hreopen
  -- the file holds the action of the second handle only
  obtain rfl : only second b = registry := Except.ok.inj (hload'.symm.trans hreopen)
  rw [only, Dict.get?_set_of_ne _ _ hne, Dict.get?_empty] at hkept
  cases hkept

end

/-- A request for another reduction of the sample position. -/
def furtherRequest : RiskReductionRequest := ⟨requestFields 3 "further" 1 98, by decide⟩

/-- Its validation. -/
def furtherValidation : RiskReductionValidation where
  fields :=
    { requestId := furtherRequest.fields.requestId
      outcome := .VALIDATED
      reason := "MONOTONIC_REDUCTION"
      validatedAt := protectionNow
      validationId := .epoch "reduction_validation" 2 1 (Eq.refl true) }
  valid := by decide

/-- The call that issues it. -/
def furtherIssue : IssueCall := ⟨furtherRequest, furtherValidation, protectionNow⟩

/-- A handle that is opened after another one issued finds its action and keeps it. -/
theorem inTurn_present :
    HoldsIssued (fun _ => false)
      ((machine fun _ => false).trace start (inTurn reducingIssue furtherIssue))
      ((machine fun _ => false).exec start (inTurn reducingIssue furtherIssue)) := by
  obtain ⟨a, ha⟩ := exists_issue_empty reducingIssue rfl (by decide)
  exact (issued_present (fun _ => false) (inTurn reducingIssue furtherIssue)
    (meets_inTurn _ furtherIssue ha)).1

/-- **An issued action is lost** to a handle that was opened before it was issued. -/
theorem issued_lost :
    ¬ ∀ (isPrintable : CodePoint → Bool) (events : List ProtectionEvent),
      HoldsIssued isPrintable ((machine isPrintable).trace start events)
        ((machine isPrintable).exec start events) := by
  intro h
  obtain ⟨a, ha⟩ := exists_issue_empty reducingIssue rfl (by decide)
  obtain ⟨b, hb⟩ := exists_issue_empty furtherIssue rfl (by decide)
  exact not_holdsIssued_sideBySide (fun _ => false) ha hb (by decide)
    (h (fun _ => false) (sideBySide reducingIssue furtherIssue))

end ProtectionWorld

end FuturesAgentOs
