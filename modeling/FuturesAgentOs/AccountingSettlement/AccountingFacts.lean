import FuturesAgentOs.AccountingSettlement.SimulationAccount
import FuturesAgentOs.PyModel.Journal

namespace FuturesAgentOs

open PyModel

/-!
# Accounting facts

What a log says about an account, and how a replay applies it: an opening fill through the lot
that its identifier derives, a closing fill, or a settlement.

* `applyFact_withMargin` — the frozen margin plays no part.
-/

namespace AppliedSet

variable {α : Type} [DecidableEq α] {s : AppliedSet α} {x : α}

theorem has_add (s : AppliedSet α) (x : α) : (s.add x).Has x := Dict.get?_set_self _ _ _

theorem Has.add (h : s.Has x) (y : α) : (s.add y).Has x := by
  rw [Has, AppliedSet.add, Dict.get?_set]
  split
  · rfl
  · exact h

end AppliedSet

/-- One fact that moves an account. -/
inductive AccountingFact where
  | opened (fill : Fill)
  | closed (fill : Fill) (closeToday : Bool)
  | settled (settlement : Settlement)
  deriving DecidableEq

/-- The lot that a replay opens for a fill. -/
def lotOf [Hashlib] (fill : Fill) : Py EntityId :=
  EntityId.deterministic "position_lot" fill.fields.fillId.str

theorem exists_lotOf [Hashlib] (fill : Fill) : ∃ lotId, lotOf fill = .ok lotId := by
  apply EntityId.exists_deterministic (by decide) _ (EntityId.isAscii_str _)
  exact List.append_ne_nil_of_right_ne_nil _ (List.cons_ne_nil _ _)

namespace SimulationAccount

/-- A call whose answer is not read. -/
def void (result : Py AccountState × SimulationAccount) : Py Unit × SimulationAccount :=
  (result.1.map (fun _ => ()), result.2)

variable (ctx : DecimalContext)

/-- The call that a replay makes for a fact. -/
def applyFact [Hashlib] (accountId : EntityId) (fact : AccountingFact) (a : SimulationAccount) :
    Py Unit × SimulationAccount :=
  match fact with
  | .opened fill =>
    match lotOf fill with
    | .error e => (.error e, a)
    | .ok lotId => void (a.applyFill ctx fill (some lotId) (some accountId))
  | .closed fill closeToday => void (a.close ctx fill closeToday)
  | .settled settlement => void (a.settle ctx settlement)

/-- The account has applied the fact. -/
def Has (fact : AccountingFact) (a : SimulationAccount) : Prop :=
  match fact with
  | .opened fill | .closed fill _ => a.appliedFills.Has fill.fields.fillId
  | .settled settlement => a.appliedSettlements.Has settlement.fields.settlementId

instance (fact : AccountingFact) (a : SimulationAccount) : Decidable (Has fact a) := by
  cases fact <;> exact inferInstanceAs (Decidable (AppliedSet.Has _ _))

/-! ### What a call does to the applied identities -/

variable {ctx}

/-- What an opening fill does: nothing when it was applied before, nothing when it raises, or it
adds itself to the applied fills. -/
theorem applyFill_cases (ctx : DecimalContext) (a : SimulationAccount) (fill : Fill)
    (lotId accountId : Option EntityId) :
    (a.appliedFills.Has fill.fields.fillId
        ∧ a.applyFill ctx fill lotId accountId = (.ok a.state, a))
      ∨ ¬ a.appliedFills.Has fill.fields.fillId
        ∧ ((∃ e, a.filledState ctx fill lotId accountId = .error e
            ∧ a.applyFill ctx fill lotId accountId = (.error e, a))
          ∨ ∃ state, a.filledState ctx fill lotId accountId = .ok state
            ∧ a.applyFill ctx fill lotId accountId = (.ok state,
              { a with state, appliedFills := a.appliedFills.add fill.fields.fillId })) := by
  by_cases h : a.appliedFills.Has fill.fields.fillId
  · exact Or.inl ⟨h, if_pos h⟩
  · refine Or.inr ⟨h, ?_⟩
    cases hstate : a.filledState ctx fill lotId accountId with
    | error e => exact Or.inl ⟨e, rfl, by simp only [applyFill, if_neg h, hstate]⟩
    | ok state => exact Or.inr ⟨state, rfl, by simp only [applyFill, if_neg h, hstate]⟩

theorem close_cases (ctx : DecimalContext) (a : SimulationAccount) (fill : Fill)
    (closeToday : Bool) :
    (a.appliedFills.Has fill.fields.fillId ∧ a.close ctx fill closeToday = (.ok a.state, a))
      ∨ ¬ a.appliedFills.Has fill.fields.fillId
        ∧ ((∃ e, a.closedState ctx fill closeToday = .error e
            ∧ a.close ctx fill closeToday = (.error e, a))
          ∨ ∃ state, a.closedState ctx fill closeToday = .ok state
            ∧ a.close ctx fill closeToday = (.ok state,
              { a with state, appliedFills := a.appliedFills.add fill.fields.fillId })) := by
  by_cases h : a.appliedFills.Has fill.fields.fillId
  · exact Or.inl ⟨h, if_pos h⟩
  · refine Or.inr ⟨h, ?_⟩
    cases hstate : a.closedState ctx fill closeToday with
    | error e => exact Or.inl ⟨e, rfl, by simp only [close, if_neg h, hstate]⟩
    | ok state => exact Or.inr ⟨state, rfl, by simp only [close, if_neg h, hstate]⟩

/-- The settlement raises after the state was replaced. -/
def RaisesLate (ctx : DecimalContext) (a : SimulationAccount) (s : Settlement) : Prop :=
  ¬ a.appliedSettlements.Has s.fields.settlementId ∧ ¬ (a.settledState ctx s).Raises
    ∧ (a.settledAdjustment ctx s).Raises

instance (a : SimulationAccount) (s : Settlement) : Decidable (RaisesLate ctx a s) :=
  inferInstanceAs (Decidable (_ ∧ _))

theorem settle_cases (ctx : DecimalContext) (a : SimulationAccount) (s : Settlement)
    (hlate : ¬ RaisesLate ctx a s) :
    (a.appliedSettlements.Has s.fields.settlementId ∧ a.settle ctx s = (.ok a.state, a))
      ∨ ¬ a.appliedSettlements.Has s.fields.settlementId
        ∧ ((∃ e, a.settledState ctx s = .error e ∧ a.settle ctx s = (.error e, a))
          ∨ ∃ state adjustment, a.settledState ctx s = .ok state
            ∧ a.settledAdjustment ctx s = .ok adjustment
            ∧ a.settle ctx s = (.ok state,
              { a with
                state
                settlementCashAdjustment := adjustment
                appliedSettlements := a.appliedSettlements.add s.fields.settlementId
                settlementDates := a.settlementDates.add s.fields.tradingDate })) := by
  by_cases h : a.appliedSettlements.Has s.fields.settlementId
  · exact Or.inl ⟨h, if_pos h⟩
  · refine Or.inr ⟨h, ?_⟩
    cases hstate : a.settledState ctx s with
    | error e => exact Or.inl ⟨e, rfl, by simp only [settle, if_neg h, hstate]⟩
    | ok state =>
      cases hadjustment : a.settledAdjustment ctx s with
      | error e =>
        refine absurd ⟨h, ?_, ?_⟩ hlate
        · rw [hstate]
          exact Py.not_raises_ok state
        · rw [hadjustment]
          exact Py.raises_error e
      | ok adjustment =>
        refine Or.inr ⟨state, adjustment, rfl, rfl, ?_⟩
        simp only [settle, if_neg h, hstate, hadjustment]

theorem settle_of_raisesLate {a : SimulationAccount} {s : Settlement} (h : RaisesLate ctx a s) :
    ∃ e state, a.settle ctx s = (.error e, { a with state }) := by
  obtain ⟨hnew, hstate, e, hadjustment⟩ := h
  obtain ⟨state, hstate⟩ := Py.not_raises_iff.mp hstate
  exact ⟨e, state, by simp only [settle, if_neg hnew, hstate, hadjustment]⟩

/-! ### A fact -/

variable [Hashlib] {accountId : EntityId} {fact : AccountingFact} {a a' : SimulationAccount}

/-- The fact is a settlement that raises after it replaced the state. -/
def FactRaisesLate (ctx : DecimalContext) (a : SimulationAccount) : AccountingFact → Prop
  | .settled s => RaisesLate ctx a s
  | _ => False

instance : (fact : AccountingFact) → Decidable (FactRaisesLate ctx a fact)
  | .opened _ | .closed _ _ => inferInstanceAs (Decidable False)
  | .settled s => inferInstanceAs (Decidable (RaisesLate ctx a s))

/-- What applying a fact does: nothing when it was applied before, nothing when it raises, or it
is applied, and everything that was applied stays so. -/
theorem applyFact_cases (ctx : DecimalContext) (accountId : EntityId) (fact : AccountingFact)
    (a : SimulationAccount) (hlate : ¬ FactRaisesLate ctx a fact) :
    (Has fact a ∧ applyFact ctx accountId fact a = (.ok (), a))
      ∨ ¬ Has fact a ∧ ((∃ e, applyFact ctx accountId fact a = (.error e, a))
        ∨ ∃ a', applyFact ctx accountId fact a = (.ok (), a') ∧ Has fact a'
          ∧ ∀ other, Has other a → Has other a') := by
  have hfills : ∀ {state : AccountState} {id : EntityId} (other : AccountingFact),
      Has other a → Has other { a with state, appliedFills := a.appliedFills.add id } := by
    intro state id other h
    cases other with
    | opened fill => exact AppliedSet.Has.add h id
    | closed fill closeToday => exact AppliedSet.Has.add h id
    | settled s => exact h
  cases fact with
  | opened fill =>
    obtain ⟨lotId, hlot⟩ := exists_lotOf fill
    obtain ⟨hhas, h⟩ | ⟨hnew, ⟨e, -, h⟩ | ⟨state, -, h⟩⟩ :=
      a.applyFill_cases ctx fill (some lotId) (some accountId)
    · exact Or.inl ⟨hhas, by simp only [applyFact, hlot, h]; rfl⟩
    · exact Or.inr ⟨hnew, Or.inl ⟨e, by simp only [applyFact, hlot, h]; rfl⟩⟩
    · refine Or.inr ⟨hnew, Or.inr ⟨_, by simp only [applyFact, hlot, h]; rfl, ?_, hfills⟩⟩
      exact AppliedSet.has_add _ _
  | closed fill closeToday =>
    obtain ⟨hhas, h⟩ | ⟨hnew, ⟨e, -, h⟩ | ⟨state, -, h⟩⟩ :=
      a.close_cases ctx fill closeToday
    · exact Or.inl ⟨hhas, by simp only [applyFact, h]; rfl⟩
    · exact Or.inr ⟨hnew, Or.inl ⟨e, by simp only [applyFact, h]; rfl⟩⟩
    · refine Or.inr ⟨hnew, Or.inr ⟨_, by simp only [applyFact, h]; rfl, ?_, hfills⟩⟩
      exact AppliedSet.has_add _ _
  | settled s =>
    obtain ⟨hhas, h⟩ | ⟨hnew, ⟨e, -, h⟩ | ⟨state, adjustment, -, -, h⟩⟩ :=
      a.settle_cases ctx s hlate
    · exact Or.inl ⟨hhas, by simp only [applyFact, h]; rfl⟩
    · exact Or.inr ⟨hnew, Or.inl ⟨e, by simp only [applyFact, h]; rfl⟩⟩
    · refine Or.inr ⟨hnew, Or.inr ⟨_, by simp only [applyFact, h]; rfl, ?_, ?_⟩⟩
      · exact AppliedSet.has_add _ _
      · intro other hother
        cases other with
        | opened fill => exact hother
        | closed fill closeToday => exact hother
        | settled s' => exact AppliedSet.Has.add hother _

theorem applyFact_of_raisesLate (accountId : EntityId) (hlate : FactRaisesLate ctx a fact) :
    ∃ e state, applyFact ctx accountId fact a = (.error e, { a with state }) := by
  cases fact with
  | opened fill => cases hlate
  | closed fill closeToday => cases hlate
  | settled s =>
    obtain ⟨e, state, h⟩ := settle_of_raisesLate hlate
    exact ⟨e, state, by simp only [applyFact, h]; rfl⟩

/-- **A fact is skipped once it was applied.** -/
theorem idempotent_applyFact (ctx : DecimalContext) (accountId : EntityId) :
    Py.Idempotent (applyFact ctx accountId) Has where
  done_of_ok := by
    intro fact a a' h
    by_cases hlate : FactRaisesLate ctx a fact
    · obtain ⟨e, state, herror⟩ := applyFact_of_raisesLate accountId hlate
      rw [h] at herror
      cases congrArg Prod.fst herror
    · obtain ⟨hhas, heq⟩ | ⟨-, ⟨e, heq⟩ | ⟨a'', heq, hhas, -⟩⟩ :=
        applyFact_cases ctx accountId fact a hlate
      · rw [h] at heq
        obtain rfl : a' = a := congrArg Prod.snd heq
        exact hhas
      · rw [h] at heq
        cases congrArg Prod.fst heq
      · rw [h] at heq
        obtain rfl : a' = a'' := congrArg Prod.snd heq
        exact hhas
  done_apply := by
    intro fact a hdone other
    by_cases hlate : FactRaisesLate ctx a other
    · obtain ⟨e, state, herror⟩ := applyFact_of_raisesLate accountId hlate
      rw [herror]
      cases fact <;> exact hdone
    · obtain ⟨-, heq⟩ | ⟨-, ⟨e, heq⟩ | ⟨a', heq, -, hkeeps⟩⟩ :=
        applyFact_cases ctx accountId other a hlate
      · rw [heq]
        exact hdone
      · rw [heq]
        exact hdone
      · rw [heq]
        exact hkeeps fact hdone
  skip := by
    intro fact a hdone
    have hlate : ¬ FactRaisesLate ctx a fact := by
      intro hlate
      cases fact with
      | opened fill => exact hlate
      | closed fill closeToday => exact hlate
      | settled s => exact hlate.1 hdone
    obtain ⟨-, heq⟩ | ⟨hnew, -⟩ := applyFact_cases ctx accountId fact a hlate
    · exact heq
    · exact absurd hdone hnew

/-! ### The frozen margin -/

omit [Hashlib]

section

variable (ctx : DecimalContext) (a : SimulationAccount) (margin : Decimal)

theorem filledState_withMargin (fill : Fill) (lotId accountId : Option EntityId) :
    (a.withMargin margin).filledState ctx fill lotId accountId
      = (a.filledState ctx fill lotId accountId).map (fun s => { s with margin := margin }) := by
  simp only [filledState, Py.map_bind]
  rfl

theorem closedState_withMargin (fill : Fill) (closeToday : Bool) :
    (a.withMargin margin).closedState ctx fill closeToday
      = (a.closedState ctx fill closeToday).map (fun s => { s with margin := margin }) := by
  simp only [closedState, Py.map_bind]
  rfl

theorem settledState_withMargin (s : Settlement) :
    (a.withMargin margin).settledState ctx s
      = (a.settledState ctx s).map (fun s => { s with margin := margin }) := by
  unfold settledState
  cases s.fields.settlementPrice <;> simp only [Py.map_bind] <;> rfl

theorem applyFill_withMargin (fill : Fill) (lotId accountId : Option EntityId) :
    void ((a.withMargin margin).applyFill ctx fill lotId accountId)
      = ((void (a.applyFill ctx fill lotId accountId)).1,
        (void (a.applyFill ctx fill lotId accountId)).2.withMargin margin) := by
  unfold applyFill
  rw [filledState_withMargin]
  by_cases h : a.appliedFills.Has fill.fields.fillId
  · rw [if_pos h, if_pos (show (a.withMargin margin).appliedFills.Has fill.fields.fillId from h)]
    rfl
  · rw [if_neg h, if_neg (show ¬ (a.withMargin margin).appliedFills.Has fill.fields.fillId from h)]
    cases a.filledState ctx fill lotId accountId <;> rfl

theorem close_withMargin (fill : Fill) (closeToday : Bool) :
    void ((a.withMargin margin).close ctx fill closeToday)
      = ((void (a.close ctx fill closeToday)).1,
        (void (a.close ctx fill closeToday)).2.withMargin margin) := by
  unfold close
  rw [closedState_withMargin]
  by_cases h : a.appliedFills.Has fill.fields.fillId
  · rw [if_pos h, if_pos (show (a.withMargin margin).appliedFills.Has fill.fields.fillId from h)]
    rfl
  · rw [if_neg h, if_neg (show ¬ (a.withMargin margin).appliedFills.Has fill.fields.fillId from h)]
    cases a.closedState ctx fill closeToday <;> rfl

theorem settle_withMargin (s : Settlement) :
    void ((a.withMargin margin).settle ctx s)
      = ((void (a.settle ctx s)).1, (void (a.settle ctx s)).2.withMargin margin) := by
  unfold settle
  rw [settledState_withMargin, show (a.withMargin margin).settledAdjustment ctx s
    = a.settledAdjustment ctx s from rfl]
  by_cases h : a.appliedSettlements.Has s.fields.settlementId
  · rw [if_pos h, if_pos (show (a.withMargin margin).appliedSettlements.Has _ from h)]
    rfl
  · rw [if_neg h, if_neg (show ¬ (a.withMargin margin).appliedSettlements.Has _ from h)]
    cases a.settledState ctx s with
    | error e => rfl
    | ok state => cases a.settledAdjustment ctx s <;> rfl

/-- **The frozen margin plays no part** in applying a fact. -/
theorem applyFact_withMargin [Hashlib] (accountId : EntityId) (fact : AccountingFact) :
    applyFact ctx accountId fact (a.withMargin margin)
      = ((applyFact ctx accountId fact a).1,
        (applyFact ctx accountId fact a).2.withMargin margin) := by
  cases fact with
  | opened fill =>
    obtain ⟨lotId, hlot⟩ := exists_lotOf fill
    simp only [applyFact, hlot]
    exact applyFill_withMargin ctx a margin fill (some lotId) (some accountId)
  | closed fill closeToday => exact close_withMargin ctx a margin fill closeToday
  | settled s => exact settle_withMargin ctx a margin s

end

end SimulationAccount

end FuturesAgentOs
