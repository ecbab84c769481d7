import FuturesAgentOs.AccountingSettlement.AccountingFacts
import FuturesAgentOs.AccountingSettlement.MarkToMarket

namespace FuturesAgentOs

open PyModel

/-!
# The accounting event log

`accounting_settlement/replay.py`.  An event carries a fill or a settlement, and the replay
applies every fill as an opening one, through the lot that its identifier derives.

* `replay_reproduces` — the runs that the replay reproduces.
-/

/-- `Fill | Settlement` -/
inductive AccountingPayload where
  | fill (fill : Fill)
  | settlement (settlement : Settlement)
  deriving DecidableEq

/-- The fact that the replay makes of a payload. -/
def AccountingPayload.fact : AccountingPayload → AccountingFact
  | fill f => .opened f
  | settlement s => .settled s

structure AccountingEventFields where
  sequence : ℤ
  eventId : EntityId
  payload : AccountingPayload
  deriving DecidableEq

namespace AccountingEventFields

def postInit (f : AccountingEventFields) : Py Unit :=
  require (1 ≤ f.sequence) (valueError "event sequence must be positive")

instance : Dataclass AccountingEventFields := ⟨postInit⟩

end AccountingEventFields

/-- An event of the log. -/
abbrev AccountingEvent := Frozen AccountingEventFields

/-- The events, in the order they were appended. -/
structure AccountingEventLog where
  events : List AccountingEvent
  deriving DecidableEq

namespace AccountingEventLog

/-- The payloads of the events. -/
def payloads (log : AccountingEventLog) : List AccountingPayload :=
  log.events.map (·.fields.payload)

def replay [Hashlib] (ctx : DecimalContext) (log : AccountingEventLog) (account : SimulationAccount)
    (accountId : EntityId) : Py Unit × SimulationAccount :=
  Py.replay (fun event => SimulationAccount.applyFact ctx accountId event.fields.payload.fact)
    log.events account

theorem replay_eq [Hashlib] (ctx : DecimalContext) (log : AccountingEventLog)
    (account : SimulationAccount) (accountId : EntityId) :
    log.replay ctx account accountId
      = Py.replay (SimulationAccount.applyFact ctx accountId)
        (log.payloads.map AccountingPayload.fact) account := by
  rw [payloads, List.map_map, Py.replay_map]
  rfl

/-- **At-least-once delivery.**  A payload that is recorded again changes neither the account nor
the exception that the replay ends with. -/
theorem replay_redelivered [Hashlib] (ctx : DecimalContext) (account : SimulationAccount)
    (accountId : EntityId) (before between later : List AccountingPayload) {p : AccountingPayload}
    {log log' : AccountingEventLog}
    (h : log.payloads = before ++ p :: between ++ p :: later)
    (h' : log'.payloads = before ++ p :: between ++ later) :
    log.replay ctx account accountId = log'.replay ctx account accountId := by
  rw [replay_eq, replay_eq, h, h']
  simp only [List.map_append, List.map_cons]
  exact (SimulationAccount.idempotent_applyFact ctx accountId).replay_repeated
    (.inl (List.mem_append_right _ List.mem_cons_self)) _

end AccountingEventLog

namespace SimulationAccount

variable (ctx : DecimalContext)

/-- What is appended to the log after a call: the fill or the settlement that it applied. -/
def applied (a a' : SimulationAccount) : AccountOp → Option AccountingPayload
  | .applyFill fill _ _ | .close fill _ =>
    if ¬ a.appliedFills.Has fill.fields.fillId ∧ a'.appliedFills.Has fill.fields.fillId then
      some (.fill fill)
    else none
  | .settle s =>
    if ¬ a.appliedSettlements.Has s.fields.settlementId
        ∧ a'.appliedSettlements.Has s.fields.settlementId then
      some (.settlement s)
    else none
  | .reserveMargin _ | .releaseMargin _ | .restore _ => none

/-- What is appended to the log during a run. -/
def recorded (a : SimulationAccount) : List AccountOp → List AccountingPayload
  | [] => []
  | op :: ops =>
    (applied a ((machine ctx).next a op) op).toList ++ recorded ((machine ctx).next a op) ops

/-- A call on the account itself; `restore` makes another account. -/
def IsCall : AccountOp → Prop
  | .restore _ => False
  | _ => True

section

variable [Hashlib] (accountId : EntityId)

/-- A call that the replay repeats: it does not close, it opens through the lot that the fill
derives for the account of the replay, and it does not raise after it replaced the state. -/
def Replayable (a : SimulationAccount) : AccountOp → Prop
  | .applyFill fill lotId fillAccount =>
    a.appliedFills.Has fill.fields.fillId ∨ (a.filledState ctx fill lotId fillAccount).Raises
      ∨ fillAccount = some accountId ∧ ∃ lot ∈ lotId, lotOf fill = .ok lot
  | .close fill closeToday =>
    a.appliedFills.Has fill.fields.fillId ∨ (a.closedState ctx fill closeToday).Raises
  | .settle s => ¬ RaisesLate ctx a s
  | .reserveMargin _ | .releaseMargin _ | .restore _ => True

variable {ctx} {accountId}

omit [Hashlib] in
theorem recorded_cons (a : SimulationAccount) (op : AccountOp) (ops : List AccountOp) :
    recorded ctx a (op :: ops)
      = (applied a ((machine ctx).next a op) op).toList
        ++ recorded ctx ((machine ctx).next a op) ops :=
  rfl

/-- **Step lemma.**  What a call applied is replayed with the effect of the call. -/
theorem replay_applied {a : SimulationAccount} {op : AccountOp} (hcall : IsCall op)
    (h : Replayable ctx accountId a op) (margin : Decimal) :
    ∃ margin', Py.replay (applyFact ctx accountId)
        ((applied a ((machine ctx).next a op) op).toList.map AccountingPayload.fact)
        (a.withMargin margin)
      = (.ok (), ((machine ctx).next a op).withMargin margin') := by
  have hnothing : ∀ a' : SimulationAccount, a' = a → ∃ margin',
      Py.replay (applyFact ctx accountId) [] (a.withMargin margin)
        = (.ok (), a'.withMargin margin') := by
    rintro a' rfl
    exact ⟨margin, rfl⟩
  have hone : ∀ (fact : AccountingFact) (a' : SimulationAccount),
      applyFact ctx accountId fact a = (.ok (), a') → ∃ margin',
        Py.replay (applyFact ctx accountId) [fact] (a.withMargin margin)
          = (.ok (), a'.withMargin margin') := by
    intro fact a' hfact
    refine ⟨margin, ?_⟩
    have hmargin := applyFact_withMargin ctx a margin accountId fact
    rw [hfact] at hmargin
    rw [Py.replay_cons_of_ok hmargin]
    rfl
  cases op with
  | reserveMargin amount =>
    obtain ⟨margin', heq⟩ := a.reserveMargin_eq_withMargin ctx amount
    exact ⟨margin, by show _ = (_, (a.reserveMargin ctx amount).2.withMargin margin); rw [heq]; rfl⟩
  | releaseMargin amount =>
    obtain ⟨margin', heq⟩ := a.releaseMargin_eq_withMargin ctx amount
    exact ⟨margin, by show _ = (_, (a.releaseMargin ctx amount).2.withMargin margin); rw [heq]; rfl⟩
  | restore snapshot => cases hcall
  | applyFill fill lotId fillAccount =>
    have hnext : (machine ctx).next a (.applyFill fill lotId fillAccount)
        = (a.applyFill ctx fill lotId fillAccount).2 := rfl
    rw [hnext]
    obtain ⟨hhas, heq⟩ | ⟨hnew, ⟨e, hstate, heq⟩ | ⟨state, hstate, heq⟩⟩ :=
      a.applyFill_cases ctx fill lotId fillAccount
    · rw [heq, applied, if_neg (fun hc => hc.1 hhas)]
      exact hnothing a rfl
    · rw [heq, applied, if_neg (fun hc => hnew hc.2)]
      exact hnothing a rfl
    · rw [heq, applied, if_pos ⟨hnew, AppliedSet.has_add _ _⟩]
      apply hone
      obtain hhas | hraises | ⟨rfl, lot, hlotId, hlot⟩ := h
      · exact absurd hhas hnew
      · rw [hstate] at hraises
        exact absurd hraises (Py.not_raises_ok state)
      · obtain rfl := Option.mem_def.mp hlotId
        simp only [AccountingPayload.fact, applyFact, hlot, heq]
        rfl
  | close fill closeToday =>
    have hnext : (machine ctx).next a (.close fill closeToday)
        = (a.close ctx fill closeToday).2 := rfl
    rw [hnext]
    obtain ⟨hhas, heq⟩ | ⟨hnew, ⟨e, hstate, heq⟩ | ⟨state, hstate, heq⟩⟩ :=
      a.close_cases ctx fill closeToday
    · rw [heq, applied, if_neg (fun hc => hc.1 hhas)]
      exact hnothing a rfl
    · rw [heq, applied, if_neg (fun hc => hnew hc.2)]
      exact hnothing a rfl
    · obtain hhas | hraises := h
      · exact absurd hhas hnew
      · rw [hstate] at hraises
        exact absurd hraises (Py.not_raises_ok state)
  | settle s =>
    have hnext : (machine ctx).next a (.settle s) = (a.settle ctx s).2 := rfl
    rw [hnext]
    obtain ⟨hhas, heq⟩ | ⟨hnew, ⟨e, hstate, heq⟩ | ⟨state, adjustment, -, -, heq⟩⟩ :=
      a.settle_cases ctx s h
    · rw [heq, applied, if_neg (fun hc => hc.1 hhas)]
      exact hnothing a rfl
    · rw [heq, applied, if_neg (fun hc => hnew hc.2)]
      exact hnothing a rfl
    · rw [heq, applied, if_pos ⟨hnew, AppliedSet.has_add _ _⟩]
      apply hone
      simp only [AccountingPayload.fact, applyFact, heq]
      rfl

/-- **Run lemma.** -/
theorem replay_recorded {a : SimulationAccount} {ops : List AccountOp}
    (hcalls : ∀ op ∈ ops, IsCall op)
    (h : (machine ctx).Meets (Replayable ctx accountId) a ops) (margin : Decimal) :
    ∃ margin', Py.replay (applyFact ctx accountId)
        ((recorded ctx a ops).map AccountingPayload.fact) (a.withMargin margin)
      = (.ok (), ((machine ctx).exec a ops).withMargin margin') := by
  induction ops generalizing a margin with
  | nil => exact ⟨margin, rfl⟩
  | cons op ops ih =>
    rw [List.forall_mem_cons] at hcalls
    obtain ⟨margin', hfirst⟩ := replay_applied hcalls.1 h.1 margin
    obtain ⟨margin'', hrest⟩ := ih hcalls.2 h.2 margin'
    refine ⟨margin'', ?_⟩
    rw [recorded_cons, List.map_append, Py.replay_append_of_ok hfirst, hrest]
    rfl

/-- **What the replay reproduces.**  An account goes through any calls, and what they apply is
appended to a log.  When every call is one that the replay repeats, replaying the log into the
account as it was at first returns with the cash, the realized pnl, the fees and the lots of the
account. -/
theorem replay_reproduces (ctx : DecimalContext) (accountId : EntityId) (a : SimulationAccount)
    (ops : List AccountOp) (log : AccountingEventLog) (hcalls : ∀ op ∈ ops, IsCall op)
    (hlog : log.payloads = recorded ctx a ops)
    (h : (machine ctx).Meets (Replayable ctx accountId) a ops) :
    let final := (machine ctx).exec a ops
    let replayed := log.replay ctx a accountId
    replayed.1 = .ok () ∧ replayed.2.state.cash = final.state.cash
      ∧ replayed.2.state.realizedPnl = final.state.realizedPnl
      ∧ replayed.2.state.fees = final.state.fees ∧ replayed.2.state.lots = final.state.lots := by
  intro final replayed
  obtain ⟨margin, hreplay⟩ := replay_recorded hcalls h a.state.margin
  have hreplayed : replayed = (.ok (), final.withMargin margin) := by
    show log.replay ctx a accountId = _
    rw [AccountingEventLog.replay_eq, hlog]
    exact hreplay
  rw [hreplayed]
  exact ⟨rfl, rfl, rfl, rfl, rfl⟩

end

/-- The account of the sample fills. -/
def sampleAccountId : EntityId := .epoch "simulation_account" 0 0 (Eq.refl true)

/-- A log of fills, numbered from one. -/
def sampleLog (fills : List Fill) : AccountingEventLog :=
  ⟨fills.mapIdx fun n fill =>
    ⟨⟨n + 1, .epoch "accounting_event" ⟨n % 0x1000, Nat.mod_lt _ (by norm_num)⟩ 0 (by decide),
      .fill fill⟩, by simp [AccountingEventFields.postInit, Dataclass.postInit, require]⟩⟩

theorem replay_redelivered_opening :
    (sampleLog [openingFill, openingFill]).replay defaultContext (new sampleConfig) sampleAccountId
      = (sampleLog [openingFill]).replay defaultContext (new sampleConfig) sampleAccountId :=
  AccountingEventLog.replay_redelivered _ _ _ [] [] [] rfl rfl

/-- Opens two contracts through the lot that the fill derives. -/
def derivedOpening : AccountOp :=
  .applyFill openingFill (lotOf openingFill).toOption (some sampleAccountId)

/-- A run of one opening fill is replayed. -/
theorem replay_reproduces_of_opening :
    let final := (machine defaultContext).exec (new sampleConfig) [derivedOpening]
    let replayed := (sampleLog [openingFill]).replay defaultContext (new sampleConfig)
      sampleAccountId
    replayed.1 = .ok () ∧ replayed.2.state.cash = final.state.cash
      ∧ replayed.2.state.realizedPnl = final.state.realizedPnl
      ∧ replayed.2.state.fees = final.state.fees ∧ replayed.2.state.lots = final.state.lots := by
  obtain ⟨lot, hlot⟩ := exists_lotOf openingFill
  apply replay_reproduces defaultContext sampleAccountId (new sampleConfig) [derivedOpening]
    (sampleLog [openingFill])
  · rintro op (_ | ⟨_, ⟨⟩⟩)
    trivial
  · decide +kernel
  · exact ⟨Or.inr (Or.inr ⟨rfl, lot, by rw [hlot]; rfl, hlot⟩), trivial⟩

/-- Two contracts are opened and closed, and the replay of their two fills opens twice. -/
theorem replay_reopens :
    ¬ ∀ (ctx : DecimalContext) (accountId : EntityId) (a : SimulationAccount) (ops : List AccountOp)
        (log : AccountingEventLog), (∀ op ∈ ops, IsCall op) → log.payloads = recorded ctx a ops →
      let final := (machine ctx).exec a ops
      let replayed := log.replay ctx a accountId
      replayed.1 = .ok () ∧ replayed.2.state.cash = final.state.cash
        ∧ replayed.2.state.realizedPnl = final.state.realizedPnl
        ∧ replayed.2.state.fees = final.state.fees ∧ replayed.2.state.lots = final.state.lots := by
  intro h
  have hcalls : ∀ op ∈ [derivedOpening, .close closingFill false], IsCall op := by
    rintro op (_ | ⟨_, _ | ⟨_, ⟨⟩⟩⟩) <;> trivial
  have hlots := (h defaultContext sampleAccountId (new sampleConfig) _
    (sampleLog [openingFill, closingFill]) hcalls (by decide +kernel)).2.2.2.2
  revert hlots
  decide +kernel

end SimulationAccount

end FuturesAgentOs
