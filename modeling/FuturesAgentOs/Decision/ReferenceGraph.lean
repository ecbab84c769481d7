import FuturesAgentOs.Decision.ContractFacts
import FuturesAgentOs.PyModel.Machine

namespace FuturesAgentOs

open PyModel

/-!
# The graph of references

`decision/trade_contracts.py`, `ContractReferenceGraph`: facts are registered under the identity
that `_object_identity` finds and are asked for by a reference, which compares identity, version
and hash.

* `ContractReferenceGraph.resolvesAll_iff` — the run theorem: every registered fact is found
  under its reference and nothing is replaced exactly in the runs where no fact aliases another
  one;
-/

/-! ### Facts with one reference -/

/-- Two hashes agree by what their attributes say.  Canonical values agree by a collision. -/
def HashSource.Agree [Hashlib] : HashSource → HashSource → Prop
  | .planHash d, .planHash e => ∃ digest, d = .ok digest ∧ e = .ok digest
  | .authorizationHash m, .authorizationHash n =>
    ∃ digest, m.authorizationHash = .ok digest ∧ n.authorizationHash = .ok digest
  | .canonical v, .canonical w => ∃ x y digest, v = .ok x ∧ w = .ok y ∧ x ≠ y
      ∧ canonicalSha256 x = .ok digest ∧ canonicalSha256 y = .ok digest
  | p, q => ∃ digest, p.digest = .ok digest ∧ q.digest = .ok digest

/-- Two facts have the same identity attribute and version, and their hashes agree. -/
def Fact.Aliases [Hashlib] (f g : Fact) : Prop :=
  f.identity = g.identity ∧ f.version = g.version ∧ f.hashSource.Agree g.hashSource

section

variable [Hashlib]

theorem HashSource.Agree.digest_eq {p q : HashSource} (h : p.Agree q) : p.digest = q.digest := by
  have hof : (∃ digest, p.digest = .ok digest ∧ q.digest = .ok digest) → p.digest = q.digest := by
    rintro ⟨digest, hp, hq⟩
    rw [hp, hq]
  apply hof
  cases p with
  | planHash d =>
    cases q with
    | planHash e => exact h
    | authorizationHash n => exact h
    | canonical w => exact h
  | authorizationHash m =>
    cases q with
    | planHash e => exact h
    | authorizationHash n => exact h
    | canonical w => exact h
  | canonical v =>
    cases q with
    | planHash e => exact h
    | authorizationHash n => exact h
    | canonical w =>
      obtain ⟨x, y, digest, rfl, rfl, -, hx, hy⟩ := h
      exact ⟨digest, hx, hy⟩

/-- **Different facts with one reference alias.** -/
theorem Fact.aliases_of_forFact_eq {f g : Fact} {r : ContractReference} (hne : f ≠ g)
    (hf : ContractReference.forFact f = .ok r) (hg : ContractReference.forFact g = .ok r) :
    f.Aliases g := by
  obtain ⟨hfid, hfversion, hfhash⟩ := ContractReference.forFact_eq_ok.mp hf
  obtain ⟨hgid, hgversion, hghash⟩ := ContractReference.forFact_eq_ok.mp hg
  refine ⟨hfid.trans hgid.symm, hfversion.trans hgversion.symm, ?_⟩
  unfold Fact.objectHash at hfhash hghash
  have hboth : ∃ digest, f.hashSource.digest = .ok digest ∧ g.hashSource.digest = .ok digest :=
    ⟨r.fields.contentHash, hfhash, hghash⟩
  cases hp : f.hashSource with
  | planHash d =>
    rw [hp] at hboth
    cases hq : g.hashSource <;> rw [hq] at hboth <;> exact hboth
  | authorizationHash m =>
    rw [hp] at hboth
    cases hq : g.hashSource <;> rw [hq] at hboth <;> exact hboth
  | canonical v =>
    cases hq : g.hashSource with
    | planHash e => rw [hp, hq] at hboth; exact hboth
    | authorizationHash n => rw [hp, hq] at hboth; exact hboth
    | canonical w =>
      rw [hp] at hfhash
      rw [hq] at hghash
      obtain ⟨x, rfl, hx⟩ := Py.of_bind hfhash
      obtain ⟨y, rfl, hy⟩ := Py.of_bind hghash
      refine ⟨x, y, r.fields.contentHash, rfl, rfl, ?_, hx, hy⟩
      -- one canonical value would have one fact
      rintro rfl
      exact hne (Fact.eq_of_canonical hp hq)

theorem Fact.Aliases.forFact_eq {f g : Fact} (h : f.Aliases g) :
    ContractReference.forFact f = ContractReference.forFact g := by
  obtain ⟨hid, hversion, hhash⟩ := h
  unfold ContractReference.forFact Fact.objectHash
  rw [hid, hversion, hhash.digest_eq]

/-! ### The graph -/

structure ContractReferenceGraph where
  /-- `_facts` -/
  facts : Dict EntityId ContractReference
  /-- `_objects` -/
  objects : Dict EntityId Fact

namespace ContractReferenceGraph

/-- A graph without facts. -/
def empty : ContractReferenceGraph := ⟨Dict.empty, Dict.empty⟩

def register (s : ContractReferenceGraph) (fact : Fact) :
    Py (ContractReference × ContractReferenceGraph) := do
  let reference ← ContractReference.forFact fact
  let identity := reference.fields.entityId
  whenSome (s.facts.get? identity) (fun existing => PyModel.require (existing = reference)
    (valueError "reference identity already has a different version or hash"))
  .ok (reference,
    { facts := s.facts.set identity reference, objects := s.objects.set identity fact })

def require (s : ContractReferenceGraph) (reference : ContractReference)
    (expectedNamespace : Option Text) : Py Fact := do
  whenSome expectedNamespace (fun nspace => PyModel.require
    (reference.fields.entityId.nspace = nspace) (valueError "reference namespace mismatch"))
  PyModel.require (s.facts.get? reference.fields.entityId = some reference)
    (valueError "referenced fact is absent, stale, or hash-mismatched")
  match s.objects.get? reference.fields.entityId with
  | some fact => .ok fact
  | none => .error ⟨.keyError, reference.fields.entityId.str⟩

/-- The registrations of a graph; a call that raises changes nothing. -/
def machine : Machine ContractReferenceGraph Fact (Py ContractReference) where
  step s fact :=
    match s.register fact with
    | .ok (reference, s') => (.ok reference, s')
    | .error e => (.error e, s)

variable {fact f : Fact} {r : ContractReference} {s s' : ContractReferenceGraph} {facts : List Fact}

/-- What a registration that returns does. -/
theorem register_eq_ok (h : s.register fact = .ok (r, s')) : ContractReference.forFact fact = .ok r
      ∧ (∀ existing, s.facts.get? r.fields.entityId = some existing → existing = r)
      ∧ s' = { facts := s.facts.set r.fields.entityId r,
               objects := s.objects.set r.fields.entityId fact } := by
  obtain ⟨r', hr, h⟩ := Py.of_bind h
  obtain ⟨u, hcheck, h⟩ := Py.of_bind h
  obtain ⟨rfl, rfl⟩ := Prod.mk.inj (Except.ok.inj h)
  refine ⟨hr, ?_, rfl⟩
  intro existing hget
  exact require_eq_ok.mp (whenSome_eq_ok.mp hcheck existing hget)

theorem machine_cases (s : ContractReferenceGraph) (fact : Fact) :
    (∃ r s', s.register fact = .ok (r, s') ∧ machine.out s fact = .ok r
        ∧ machine.next s fact = s')
      ∨ (machine.out s fact).Raises ∧ machine.next s fact = s := by
  cases h : s.register fact with
  | ok p =>
    obtain ⟨r, s'⟩ := p
    left
    refine ⟨r, s', rfl, ?_, ?_⟩
    · show (machine.step s fact).1 = .ok r
      simp only [machine, h]
    · show (machine.step s fact).2 = s'
      simp only [machine, h]
  | error e =>
    right
    refine ⟨⟨e, ?_⟩, ?_⟩
    · show (machine.step s fact).1 = .error e
      simp only [machine, h]
    · show (machine.step s fact).2 = s
      simp only [machine, h]

/-- The two dictionaries of a graph agree: under every identity stand a fact and its
reference. -/
structure WellFormed (s : ContractReferenceGraph) : Prop where
  refers : ∀ id f, s.objects.get? id = some f →
    ∃ r, ContractReference.forFact f = .ok r ∧ r.fields.entityId = id ∧ s.facts.get? id = some r
  stored : ∀ id r, s.facts.get? id = some r → ∃ f, s.objects.get? id = some f

theorem wellFormed_empty : empty.WellFormed where
  refers := by
    intro id f h
    cases h
  stored := by
    intro id r h
    cases h

/-- A registration keeps the dictionaries in agreement. -/
theorem WellFormed.after_register (hs : s.WellFormed) (h : s.register fact = .ok (r, s')) : s'.WellFormed := by
  obtain ⟨hr, -, rfl⟩ := register_eq_ok h
  constructor
  · intro id f hget
    rw [Dict.get?_set] at hget ⊢
    by_cases hid : id = r.fields.entityId
    · rw [if_pos hid] at hget ⊢
      cases hget
      exact ⟨r, hr, hid.symm, rfl⟩
    · rw [if_neg hid] at hget ⊢
      exact hs.refers id f hget
  · intro id r' hget
    rw [Dict.get?_set] at hget ⊢
    by_cases hid : id = r.fields.entityId
    · exact ⟨fact, if_pos hid⟩
    · rw [if_neg hid] at hget ⊢
      exact hs.stored id r' hget

theorem WellFormed.require_eq (hs : s.WellFormed) (hf : f ∈ s.objects.values) :
    ∃ r, ContractReference.forFact f = .ok r ∧ s.require r none = .ok f := by
  obtain ⟨id, hget⟩ := Dict.mem_values_iff.mp hf
  obtain ⟨r, hr, rfl, hfacts⟩ := hs.refers id f hget
  refine ⟨r, hr, ?_⟩
  simp only [ContractReferenceGraph.require, whenSome, Py.ok_bind, require_of_pos hfacts, hget]

/-! ### Runs -/

/-- The registered fact aliases no other fact of the graph. -/
def NoAlias (s : ContractReferenceGraph) (fact : Fact) : Prop :=
  ∀ other ∈ s.objects.values, other ≠ fact → ¬ fact.Aliases other

/-- **What a registration replaces**: the other facts that it aliases. -/
theorem WellFormed.replaces_iff (hs : s.WellFormed)
    {other : Fact} (h : s.register fact = .ok (r, s')) :
    (∃ id, s.objects.get? id = some other ∧ s'.objects.get? id ≠ some other)
      ↔ other ∈ s.objects.values ∧ other ≠ fact ∧ fact.Aliases other := by
  obtain ⟨hr, hexisting, rfl⟩ := register_eq_ok h
  constructor
  · rintro ⟨id, hget, hafter⟩
    rw [Dict.get?_set] at hafter
    have hid : id = r.fields.entityId := by
      by_contra hid
      exact hafter ((if_neg hid).trans hget)
    have hother : other ≠ fact := by
      rintro rfl
      exact hafter (if_pos hid)
    obtain ⟨r', hr', -, hfacts⟩ := hs.refers id other hget
    rw [hexisting r' (hid ▸ hfacts)] at hr'
    exact ⟨Dict.mem_values_iff.mpr ⟨id, hget⟩, hother,
      Fact.aliases_of_forFact_eq (Ne.symm hother) hr hr'⟩
  · rintro ⟨hmem, hother, halias⟩
    obtain ⟨id, hget⟩ := Dict.mem_values_iff.mp hmem
    obtain ⟨r', hr', hid, -⟩ := hs.refers id other hget
    rw [← halias.forFact_eq, hr, Except.ok.injEq] at hr'
    refine ⟨id, hget, ?_⟩
    rw [← hid, ← hr', Dict.get?_set_self]
    intro heq
    exact hother (Option.some.inj heq).symm

/-- The step keeps every fact of the graph under its identity. -/
def Keeps (s : ContractReferenceGraph) (fact : Fact) : Prop :=
  ∀ id other, s.objects.get? id = some other →
    (machine.next s fact).objects.get? id = some other

theorem WellFormed.exists_register (hs : s.WellFormed)
    {other : Fact} (hmem : other ∈ s.objects.values) (halias : fact.Aliases other) :
    ∃ r s', s.register fact = .ok (r, s') := by
  obtain ⟨id, hget⟩ := Dict.mem_values_iff.mp hmem
  obtain ⟨r, hr, rfl, hfacts⟩ := hs.refers id other hget
  rw [← halias.forFact_eq] at hr
  refine ⟨r, ⟨s.facts.set r.fields.entityId r, s.objects.set r.fields.entityId fact⟩, ?_⟩
  rw [register, hr, Py.ok_bind]
  simp only [hfacts, whenSome, require_of_pos, Py.ok_bind]

/-- **Step lemma.** A step keeps the facts of the graph exactly when its fact aliases no other
one. -/
theorem WellFormed.keeps_iff (hs : s.WellFormed) : s.Keeps fact ↔ s.NoAlias fact := by
  constructor
  · intro hkeeps other hmem hother halias
    obtain ⟨r, s', h⟩ := hs.exists_register hmem halias
    obtain ⟨id, hget, hafter⟩ := (hs.replaces_iff h).mpr ⟨hmem, hother, halias⟩
    obtain ⟨r', s'', h', -, hnext⟩ | ⟨⟨e, he⟩, -⟩ := machine_cases s fact
    · rw [h, Except.ok.injEq, Prod.mk.injEq] at h'
      apply hafter
      rw [h'.2, ← hnext]
      exact hkeeps id other hget
    · simp only [Machine.out, machine, h] at he
      cases he
  · intro hno id other hget
    obtain ⟨r, s', h, -, hnext⟩ | ⟨-, hnext⟩ := machine_cases s fact
    · rw [hnext]
      by_contra hafter
      obtain ⟨hmem, hother, halias⟩ := (hs.replaces_iff h).mp ⟨id, hget, hafter⟩
      exact hno other hmem hother halias
    · rw [hnext]
      exact hget

/-- Every step keeps the dictionaries in agreement. -/
theorem WellFormed.next (hs : s.WellFormed) (fact : Fact) : (machine.next s fact).WellFormed := by
  obtain ⟨r, s', h, -, hnext⟩ | ⟨-, hnext⟩ := machine_cases s fact
  · rw [hnext]
    exact hs.after_register h
  · rw [hnext]
    exact hs

/-- In a run without aliases every fact of the graph stays under its identity. -/
theorem WellFormed.get?_exec (hs : s.WellFormed) (hmeets : machine.Meets NoAlias s facts) {id : EntityId}
    (hget : s.objects.get? id = some f) : (machine.exec s facts).objects.get? id = some f := by
  induction facts generalizing s with
  | nil => exact hget
  | cons fact facts ih =>
    rw [Machine.exec_cons]
    exact ih (hs.next fact) hmeets.2 (hs.keeps_iff.mpr hmeets.1 id f hget)

theorem WellFormed.mem_of_registered (hs : s.WellFormed) (hmeets : machine.Meets NoAlias s facts)
    {e : ContractReferenceGraph × Fact × Py ContractReference} (he : e ∈ machine.trace s facts) (hok : e.2.2 = .ok r) :
    e.2.1 ∈ (machine.exec s facts).objects.values := by
  induction facts generalizing s with
  | nil => cases he
  | cons fact facts ih =>
    rw [Machine.exec_cons]
    rw [Machine.trace_cons, List.mem_cons] at he
    obtain rfl | he := he
    · obtain ⟨r', s', h, -, hnext⟩ | ⟨⟨e, he⟩, -⟩ := machine_cases s fact
      · obtain ⟨-, -, hs'⟩ := register_eq_ok h
        have hget : s'.objects.get? r'.fields.entityId = some fact := by
          rw [hs', Dict.get?_set_self]
        rw [← hnext] at hget
        exact Dict.mem_values_iff.mpr ⟨_, (hs.next fact).get?_exec hmeets.2 hget⟩
      · rw [show machine.out s fact = .ok r from hok] at he
        cases he
    · exact ih (hs.next fact) hmeets.2 he

/-- A fact that a run registered. -/
def Registered (facts : List Fact) (f : Fact) : Prop :=
  ∃ e ∈ machine.trace empty facts, e.2.1 = f ∧ ∃ r, e.2.2 = .ok r

theorem WellFormed.eq_of_forFact_eq (hs : s.WellFormed) {g : Fact}
    (hf : f ∈ s.objects.values) (hg : g ∈ s.objects.values)
    (heq : ContractReference.forFact f = ContractReference.forFact g) : f = g := by
  obtain ⟨r, hr, hrequire⟩ := hs.require_eq hf
  obtain ⟨r', hr', hrequire'⟩ := hs.require_eq hg
  rw [← heq, hr, Except.ok.injEq] at hr'
  rw [← hr', hrequire, Except.ok.injEq] at hrequire'
  exact hrequire'

theorem WellFormed.meets_iff (hs : s.WellFormed) :
    machine.Meets NoAlias s facts ↔ ∀ e ∈ machine.trace s facts, e.1.Keeps e.2.1 := by
  induction facts generalizing s with
  | nil => simp [Machine.Meets]
  | cons fact facts ih =>
    rw [Machine.trace_cons, List.forall_mem_cons, ← ih (hs.next fact), hs.keeps_iff]
    exact Iff.rfl

/-- What a graph promises of a run of registrations: every registered fact is found under its
reference, different registered facts have different references, and no registration replaces a
fact. -/
structure ResolvesAll (facts : List Fact) : Prop where
  resolves : ∀ f, Registered facts f → ∃ r, ContractReference.forFact f = .ok r
    ∧ (machine.exec empty facts).require r none = .ok f
  distinct : ∀ f g, Registered facts f → Registered facts g → f ≠ g →
    ContractReference.forFact f ≠ ContractReference.forFact g
  keeps : ∀ e ∈ machine.trace empty facts, e.1.Keeps e.2.1

/-- **When references resolve.**  A run of registrations keeps the promise exactly when no fact
aliases another one that is registered. -/
theorem resolvesAll_iff (facts : List Fact) :
    ResolvesAll facts ↔ machine.Meets NoAlias empty facts := by
  have hempty := wellFormed_empty
  constructor
  · intro h
    exact hempty.meets_iff.mpr h.keeps
  intro hmeets
  have hend : (machine.exec empty facts).WellFormed :=
    machine.exec_invariant (fun s fact hs => hs.next fact) hempty facts
  have hmem : ∀ f, Registered facts f → f ∈ (machine.exec empty facts).objects.values := by
    rintro f ⟨e, he, rfl, r, hok⟩
    exact hempty.mem_of_registered hmeets he hok
  refine ⟨?_, ?_, ?_⟩
  · intro f hf
    exact hend.require_eq (hmem f hf)
  · intro f g hf hg hne heq
    exact hne (hend.eq_of_forFact_eq (hmem f hf) (hmem g hg) heq)
  · exact hempty.meets_iff.mp hmeets

end ContractReferenceGraph

end

/-! ### A decision that takes the place of another -/

section

/-- A day of July 2026 at noon. -/
private def noon (day : ℕ) (h : Date.isDate 2026 7 day = true) : RecordedAt :=
  ⟨.of 2026 7 day h, 12, 0, 0, 0⟩

/-- The fields of a decision on one plan. -/
private def decisionFields (decisionId : EntityId) : RiskDecisionFields where
  decisionId := decisionId
  planId := .epoch "trade_plan" 0 0 (Eq.refl true)
  planVersion := 1
  outcome := .REJECT
  approvedQuantity := Decimal.ofNat 0
  maxLoss := Decimal.ofNat 0
  margin := Decimal.ofNat 0
  ruleRefs := ["max_quantity"]
  riskConstitutionRef := "risk:constitution"
  issuedAt := noon 13 (Eq.refl true)
  planHash := some (List.replicate 64 (Text.ofChar 'a'))

/-- A decision on the plan. -/
def firstDecision : RiskDecision where
  fields := decisionFields (.epoch "risk_decision" 0 0 (Eq.refl true))
  valid := by decide +kernel

/-- Another decision on the same plan. -/
def secondDecision : RiskDecision where
  fields := decisionFields (.epoch "risk_decision" 1 0 (Eq.refl true))
  valid := by decide +kernel

/-- Two decisions on one plan, both registered: the reference of the first finds the second. -/
theorem decision_replaced :
    let facts := [Fact.riskDecision firstDecision, .riskDecision secondDecision]
    (∀ f ∈ facts, ContractReferenceGraph.Registered facts f)
      ∧ ¬ ContractReferenceGraph.ResolvesAll facts := by
  intro facts
  have hanswers : ∀ f ∈ facts, ContractReferenceGraph.Registered facts f := by
    have htrace : ∀ f ∈ facts, ∃ e ∈ ContractReferenceGraph.machine.trace .empty facts,
        e.2.1 = f ∧ ¬ e.2.2.Raises := by
      decide +kernel
    intro f hf
    obtain ⟨e, he, rfl, hok⟩ := htrace f hf
    exact ⟨e, he, rfl, Py.not_raises_iff.mp hok⟩
  refine ⟨hanswers, fun h => ?_⟩
  refine h.distinct _ _ (hanswers (.riskDecision firstDecision) ?_)
    (hanswers (.riskDecision secondDecision) ?_) ?_ ?_
  · exact List.mem_cons_self
  · exact List.mem_cons_of_mem _ List.mem_cons_self
  · decide
  · decide +kernel

end

end FuturesAgentOs
