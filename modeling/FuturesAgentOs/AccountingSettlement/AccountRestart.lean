import FuturesAgentOs.AccountingSettlement.AccountingFacts
import FuturesAgentOs.AccountingSettlement.MarkToMarket
import FuturesAgentOs.PyModel.Sorting

namespace FuturesAgentOs

open PyModel

/-!
# An account that is restored from its snapshot

A snapshot lists the applied identities in the order of their texts, so the account restored from it
has the same sets in another order.  No call looks at that order.

* `restored_alike` — the account restored from a snapshot goes on as the account itself.
-/

/-! ### The calls -/

/-- One call of an account. -/
inductive AccountCall where
  | move (op : AccountOp)
  | unrealizedPnl (markPrice : Option Decimal)
  | markToMarket (settlementId : Option EntityId) (tradingDate : Text)
      (settlementPrice : Option Decimal) (now : Option RecordedAt)
  | conservationResidual
  | assertConservation
  | snapshot

/-- What a call returns or raises. -/
inductive AccountAnswer where
  | state (answer : Py AccountState)
  | amount (answer : Py Decimal)
  | settlement (answer : Py Settlement)
  | checked (answer : Py Unit)
  | snapshot (answer : Py SimulationAccountSnapshot)

namespace AppliedSet

variable {α : Type} [DecidableEq α] {s : AppliedSet α} {x y : α}

theorem has_iff_mem_keys : s.Has x ↔ x ∈ s.keys := by
  rw [Dict.mem_keys_iff]
  exact ⟨fun h => ⟨(), h⟩, fun ⟨_, h⟩ => h⟩

theorem has_add_iff : (s.add y).Has x ↔ x = y ∨ s.Has x := by
  rw [Has, add, Dict.get?_set]
  by_cases hxy : x = y
  · simp [hxy]
  · rw [if_neg hxy, or_iff_right hxy]
    rfl

theorem has_ofList_iff {xs : List α} : (ofList xs).Has x ↔ x ∈ xs := by
  suffices hfold : ∀ s : AppliedSet α, (xs.foldl add s).Has x ↔ x ∈ xs ∨ s.Has x by
    rw [ofList, hfold, or_iff_left]
    intro h
    cases h
  induction xs with
  | nil => exact fun s => by simp
  | cons y ys ih =>
    intro s
    rw [List.foldl_cons, ih, has_add_iff, List.mem_cons]
    tauto

end AppliedSet

namespace SimulationAccount

/-- The machine of all calls of an account, the reading ones included. -/
def callMachine [Hashlib] (ctx : DecimalContext) :
    Machine SimulationAccount AccountCall AccountAnswer where
  step a
    | .move op => (.state (a.step ctx op).1, (a.step ctx op).2)
    | .unrealizedPnl markPrice => (.amount (a.unrealizedPnl ctx markPrice), a)
    | .markToMarket settlementId tradingDate settlementPrice now =>
      (.settlement (a.markToMarket ctx settlementId tradingDate settlementPrice now), a)
    | .conservationResidual => (.amount (a.conservationResidual ctx), a)
    | .assertConservation => (.checked (a.assertConservation ctx), a)
    | .snapshot => (.snapshot (a.snapshot ctx), a)

/-! ### Accounts that differ in the order of their sets -/

/-- Accounts with the same sets, and with everything else the same. -/
structure Alike (a b : SimulationAccount) : Prop where
  config : a.config = b.config
  state : a.state = b.state
  adjustment : a.settlementCashAdjustment = b.settlementCashAdjustment
  fills : ∀ id, a.appliedFills.Has id ↔ b.appliedFills.Has id
  settlements : ∀ id, a.appliedSettlements.Has id ↔ b.appliedSettlements.Has id
  dates : ∀ date, a.settlementDates.Has date ↔ b.settlementDates.Has date

namespace Alike

variable {ctx : DecimalContext} {a b : SimulationAccount}

theorem refl (a : SimulationAccount) : Alike a a :=
  ⟨rfl, rfl, rfl, fun _ => Iff.rfl, fun _ => Iff.rfl, fun _ => Iff.rfl⟩

theorem withState (h : Alike a b) (state : AccountState) :
    Alike { a with state } { b with state } :=
  ⟨h.config, rfl, h.adjustment, h.fills, h.settlements, h.dates⟩

theorem reads {α : Type} (f : Frozen AccountConfigFields → AccountState → Decimal → α)
    (h : Alike a b) : f a.config a.state a.settlementCashAdjustment
      = f b.config b.state b.settlementCashAdjustment := by
  rw [h.config, h.state, h.adjustment]

theorem answer (h : Alike a b) (state : Py AccountState) :
    (a.answer state).1 = (b.answer state).1 ∧ Alike (a.answer state).2 (b.answer state).2 := by
  cases state with
  | error e => exact ⟨rfl, h⟩
  | ok state => exact ⟨rfl, h.withState state⟩

theorem filledState (h : Alike a b) (fill : Fill) (lotId accountId : Option EntityId) :
    a.filledState ctx fill lotId accountId = b.filledState ctx fill lotId accountId :=
  h.reads fun config state adjustment => SimulationAccount.filledState ctx
    ⟨config, state, .empty, .empty, .empty, adjustment⟩ fill lotId accountId

theorem closedState (h : Alike a b) (fill : Fill) (closeToday : Bool) :
    a.closedState ctx fill closeToday = b.closedState ctx fill closeToday :=
  h.reads fun config state adjustment => SimulationAccount.closedState ctx
    ⟨config, state, .empty, .empty, .empty, adjustment⟩ fill closeToday

theorem settledState (h : Alike a b) (s : Settlement) :
    a.settledState ctx s = b.settledState ctx s := by
  unfold SimulationAccount.settledState SimulationAccount.accountId
  rw [h.config, h.state]
  simp only [h.dates]

theorem settledAdjustment (h : Alike a b) (s : Settlement) :
    a.settledAdjustment ctx s = b.settledAdjustment ctx s := by
  unfold SimulationAccount.settledAdjustment
  rw [h.adjustment]

theorem withFill (h : Alike a b) (state : AccountState) (id : EntityId) :
    Alike { a with state, appliedFills := a.appliedFills.add id }
      { b with state, appliedFills := b.appliedFills.add id } := by
  refine ⟨h.config, rfl, h.adjustment, fun other => ?_, h.settlements, h.dates⟩
  rw [AppliedSet.has_add_iff, AppliedSet.has_add_iff, h.fills]

theorem applyFill (h : Alike a b) (fill : Fill) (lotId accountId : Option EntityId) :
    (a.applyFill ctx fill lotId accountId).1 = (b.applyFill ctx fill lotId accountId).1
      ∧ Alike (a.applyFill ctx fill lotId accountId).2 (b.applyFill ctx fill lotId accountId).2 := by
  unfold SimulationAccount.applyFill
  rw [h.filledState]
  by_cases hdone : a.appliedFills.Has fill.fields.fillId
  · rw [if_pos hdone, if_pos ((h.fills _).mp hdone), h.state]
    exact ⟨rfl, h⟩
  · rw [if_neg hdone, if_neg (fun hb => hdone ((h.fills _).mpr hb))]
    cases b.filledState ctx fill lotId accountId with
    | error e => exact ⟨rfl, h⟩
    | ok state => exact ⟨rfl, h.withFill state _⟩

theorem close (h : Alike a b) (fill : Fill) (closeToday : Bool) :
    (a.close ctx fill closeToday).1 = (b.close ctx fill closeToday).1
      ∧ Alike (a.close ctx fill closeToday).2 (b.close ctx fill closeToday).2 := by
  unfold SimulationAccount.close
  rw [h.closedState]
  by_cases hdone : a.appliedFills.Has fill.fields.fillId
  · rw [if_pos hdone, if_pos ((h.fills _).mp hdone), h.state]
    exact ⟨rfl, h⟩
  · rw [if_neg hdone, if_neg (fun hb => hdone ((h.fills _).mpr hb))]
    cases b.closedState ctx fill closeToday with
    | error e => exact ⟨rfl, h⟩
    | ok state => exact ⟨rfl, h.withFill state _⟩

theorem settle (h : Alike a b) (s : Settlement) :
    (a.settle ctx s).1 = (b.settle ctx s).1 ∧ Alike (a.settle ctx s).2 (b.settle ctx s).2 := by
  unfold SimulationAccount.settle
  rw [h.settledState, h.settledAdjustment]
  by_cases hdone : a.appliedSettlements.Has s.fields.settlementId
  · rw [if_pos hdone, if_pos ((h.settlements _).mp hdone), h.state]
    exact ⟨rfl, h⟩
  rw [if_neg hdone, if_neg (fun hb => hdone ((h.settlements _).mpr hb))]
  cases b.settledState ctx s with
  | error e => exact ⟨rfl, h⟩
  | ok state =>
    cases b.settledAdjustment ctx s with
    | error e => exact ⟨rfl, h.withState state⟩
    | ok adjustment =>
      refine ⟨rfl, h.config, rfl, rfl, h.fills, fun id => ?_, fun date => ?_⟩
      · rw [AppliedSet.has_add_iff, AppliedSet.has_add_iff, h.settlements]
      · rw [AppliedSet.has_add_iff, AppliedSet.has_add_iff, h.dates]

/-- **Accounts that are alike move alike.** -/
theorem step (h : Alike a b) (op : AccountOp) :
    (a.step ctx op).1 = (b.step ctx op).1 ∧ Alike (a.step ctx op).2 (b.step ctx op).2 := by
  cases op with
  | reserveMargin amount =>
    show (a.reserveMargin ctx amount).1 = (b.reserveMargin ctx amount).1 ∧ _
    unfold SimulationAccount.step SimulationAccount.reserveMargin
    rw [h.state]
    exact h.answer _
  | releaseMargin amount =>
    show (a.releaseMargin ctx amount).1 = (b.releaseMargin ctx amount).1 ∧ _
    unfold SimulationAccount.step SimulationAccount.releaseMargin
    rw [h.state]
    exact h.answer _
  | applyFill fill lotId accountId => exact h.applyFill fill lotId accountId
  | settle s => exact h.settle s
  | close fill closeToday => exact h.close fill closeToday
  | restore snapshot =>
    simp only [SimulationAccount.step]
    cases SimulationAccount.restore ctx snapshot with
    | error e => exact ⟨rfl, h⟩
    | ok restored => exact ⟨rfl, refl restored⟩

theorem assertConservation (h : Alike a b) :
    a.assertConservation ctx = b.assertConservation ctx :=
  h.reads fun config state adjustment => SimulationAccount.assertConservation ctx
    ⟨config, state, .empty, .empty, .empty, adjustment⟩

/-- The sets of both are listed in one order. -/
theorem snapshot (h : Alike a b) : a.snapshot ctx = b.snapshot ctx := by
  have hids : ∀ {s t : AppliedSet EntityId}, (∀ id, s.Has id ↔ t.Has id) →
      sortedIds s.keys = sortedIds t.keys := by
    intro s t hst
    apply mergeSort_eq_of_mem_iff
    · exact fun x y z => Text.le_trans
    · exact fun x y => by simpa using Text.le_total x.str y.str
    · exact fun x y hle hle' => EntityId.str_inj (Text.le_antisymm hle hle')
    · exact s.nodup
    · exact t.nodup
    · intro id
      rw [← AppliedSet.has_iff_mem_keys, ← AppliedSet.has_iff_mem_keys, hst]
  have hdates : a.settlementDates.keys.mergeSort Text.le = b.settlementDates.keys.mergeSort Text.le := by
    apply mergeSort_eq_of_mem_iff
    · exact fun x y z => Text.le_trans
    · exact fun x y => by simpa using Text.le_total x y
    · exact fun x y => Text.le_antisymm
    · exact a.settlementDates.nodup
    · exact b.settlementDates.nodup
    · intro date
      rw [← AppliedSet.has_iff_mem_keys, ← AppliedSet.has_iff_mem_keys, h.dates]
  unfold SimulationAccount.snapshot SimulationAccount.multiplier SimulationAccount.accountId
  rw [h.assertConservation, hids h.fills, hids h.settlements, hdates, h.config, h.state,
    h.adjustment]

/-- **Accounts that are alike answer every call alike**, and stay alike. -/
theorem call [Hashlib] (h : Alike a b) (c : AccountCall) :
    (callMachine ctx).out a c = (callMachine ctx).out b c
      ∧ Alike ((callMachine ctx).next a c) ((callMachine ctx).next b c) := by
  cases c with
  | move op =>
    obtain ⟨hanswer, halike⟩ : (a.step ctx op).1 = (b.step ctx op).1
        ∧ Alike (a.step ctx op).2 (b.step ctx op).2 := h.step op
    exact ⟨congrArg AccountAnswer.state hanswer, halike⟩
  | unrealizedPnl markPrice =>
    refine ⟨congrArg AccountAnswer.amount ?_, h⟩
    exact h.reads fun config state adjustment => SimulationAccount.unrealizedPnl ctx
      ⟨config, state, .empty, .empty, .empty, adjustment⟩ markPrice
  | markToMarket settlementId tradingDate settlementPrice now =>
    refine ⟨congrArg AccountAnswer.settlement ?_, h⟩
    exact h.reads fun config state adjustment => SimulationAccount.markToMarket ctx
      ⟨config, state, .empty, .empty, .empty, adjustment⟩ settlementId tradingDate settlementPrice now
  | conservationResidual =>
    refine ⟨congrArg AccountAnswer.amount ?_, h⟩
    exact h.reads fun config state adjustment => SimulationAccount.conservationResidual ctx
      ⟨config, state, .empty, .empty, .empty, adjustment⟩
  | assertConservation => exact ⟨congrArg AccountAnswer.checked h.assertConservation, h⟩
  | snapshot => exact ⟨congrArg AccountAnswer.snapshot h.snapshot, h⟩

end Alike

/-! ### What `restore` checks -/

/-- What `restore` checks of a snapshot, as a property of the account. -/
structure Restorable (a : SimulationAccount) : Prop where
  fills : ∀ id, a.appliedFills.Has id → id.nspace = "fill"
  settlements : ∀ id, a.appliedSettlements.Has id → id.nspace = "settlement"
  dates : ∀ date, a.settlementDates.Has date → date ≠ []
  lotIds : (a.state.lots.map (·.fields.lotId)).Nodup
  accounts : ∀ lot ∈ a.state.lots, a.accountId = none ∨ a.accountId = some lot.fields.accountId

/-- The identity of a lot and its account. -/
def lotKey (lot : PositionLot) : EntityId × EntityId := (lot.fields.lotId, lot.fields.accountId)

section

variable {ctx : DecimalContext} {a : SimulationAccount}

theorem restorable_new (config : Frozen AccountConfigFields) : Restorable (new config) where
  fills := fun id h => by cases h
  settlements := fun id h => by cases h
  dates := fun date h => by cases h
  lotIds := List.nodup_nil
  accounts := fun lot h => by cases h

variable {state : AccountState} {fill : Fill}

/-- The lots after a call are lots from before it, perhaps with other amounts. -/
theorem Restorable.of_sublist (h : Restorable a)
    (hlots : (state.lots.map lotKey).Sublist (a.state.lots.map lotKey)) :
    Restorable { a with state } where
  fills := h.fills
  settlements := h.settlements
  dates := h.dates
  lotIds := by
    have hids := hlots.map Prod.fst
    rw [List.map_map, List.map_map] at hids
    exact h.lotIds.sublist hids
  accounts := by
    intro lot hlot
    obtain ⟨before, hbefore, hkey⟩ := List.mem_map.mp (hlots.subset (List.mem_map_of_mem hlot))
    rw [← show before.fields.accountId = lot.fields.accountId from congrArg Prod.snd hkey]
    exact h.accounts before hbefore

theorem Restorable.withFill (h : Restorable a) {id : EntityId} (hid : id.nspace = "fill") :
    Restorable { a with appliedFills := a.appliedFills.add id } where
  fills := by
    intro other hother
    rcases AppliedSet.has_add_iff.mp hother with rfl | hother
    · exact hid
    · exact h.fills other hother
  settlements := h.settlements
  dates := h.dates
  lotIds := h.lotIds
  accounts := h.accounts

theorem fillId_nspace (fill : Fill) : fill.fields.fillId.nspace = "fill" := by
  have h : fill.fields.postInit = .ok () := fill.valid
  simp only [FillFields.postInit, check_bind_eq_ok, checkNamespace_eq_ok] at h
  exact h.1

/-- The closing loop keeps lots, reduces them or drops them. -/
theorem keys_closeLots {multiplier : Decimal} {candidates lots kept : List PositionLot}
    {remaining realized realized' : Decimal}
    (h : closeLots ctx multiplier fill candidates lots remaining realized = .ok (kept, realized')) :
    (kept.map lotKey).Sublist (lots.map lotKey) := by
  induction lots generalizing kept remaining realized with
  | nil =>
    cases h
    exact List.Sublist.refl _
  | cons lot lots ih =>
    rw [closeLots] at h
    split at h
    · obtain ⟨⟨kept₁, realized₁⟩, hrest, h⟩ := Py.of_bind h
      cases h
      exact (ih hrest).cons_cons _
    · obtain ⟨pnl, -, h⟩ := Py.of_bind h
      obtain ⟨total, -, h⟩ := Py.of_bind h
      obtain ⟨left, -, h⟩ := Py.of_bind h
      split at h
      · obtain ⟨quantity, -, h⟩ := Py.of_bind h
        obtain ⟨reduced, hreduced, h⟩ := Py.of_bind h
        obtain ⟨⟨kept₁, realized₁⟩, hrest, h⟩ := Py.of_bind h
        cases h
        have hkey : lotKey reduced = lotKey lot := by
          rw [lotKey, Frozen.make_eq_ok.mp hreduced]
          rfl
        rw [List.map_cons, List.map_cons, hkey]
        exact (ih hrest).cons_cons _
      · exact (ih h).cons _

/-- A new cost basis keeps the lots. -/
theorem keys_repriced {price : Decimal} {lots repriced : List PositionLot}
    (h : List.Forall₂ (fun lot r => r.fields = repricedLot price lot.fields) lots repriced) :
    repriced.map lotKey = lots.map lotKey := by
  induction h with
  | nil => rfl
  | cons hpair _ ih =>
    rw [List.map_cons, List.map_cons, ih, lotKey, hpair]
    rfl

theorem keys_settledState {s : Settlement} (h : a.settledState ctx s = .ok state) :
    state.lots.map lotKey = a.state.lots.map lotKey := by
  have hkeep : ∀ {lots : List PositionLot}, ((do
      let cash ← ctx.add a.state.cash s.fields.cashDelta
      let realized ← ctx.add a.state.realizedPnl s.fields.realizedPnl
      let fees ← ctx.add a.state.fees s.fields.fees
      .ok { cash, margin := a.state.margin, realizedPnl := realized, fees, lots }) : Py AccountState)
        = .ok state → state.lots = lots := by
    intro lots h
    obtain ⟨cash, -, h⟩ := Py.of_bind h
    obtain ⟨realized, -, h⟩ := Py.of_bind h
    obtain ⟨fees, -, h⟩ := Py.of_bind h
    rw [← Except.ok.inj h]
  obtain ⟨-, h⟩ := of_require h
  obtain ⟨-, h⟩ := of_require h
  cases hprice : s.fields.settlementPrice with
  | none =>
    simp only [hprice, Py.ok_bind] at h
    rw [hkeep h]
  | some price =>
    obtain ⟨repriced, hmap, hpairs⟩ := mapM_repriced (s.settlementPrice_pos hprice) a.state.lots
    simp only [hprice, hmap, Py.ok_bind] at h
    rw [hkeep h, keys_repriced hpairs]

theorem new_of_checkFillIds {lotId accountId : Option EntityId} {ids : EntityId × EntityId}
    (h : a.checkFillIds lotId accountId = .ok ids) :
    ids.1 ∉ a.state.lots.map (·.fields.lotId) ∧ (a.accountId = none ∨ a.accountId = some ids.2) := by
  rcases accountId with _ | accountId
  · cases h
  obtain ⟨-, h⟩ := of_require h
  obtain ⟨haccount, h⟩ := of_require h
  rcases lotId with _ | lotId
  · cases h
  obtain ⟨-, h⟩ := of_require h
  obtain ⟨hnew, h⟩ := of_require h
  cases h
  exact ⟨hnew, haccount⟩

theorem Restorable.filled (h : Restorable a) {lotId accountId : Option EntityId} (hstate : a.filledState ctx fill lotId accountId = .ok state) :
    Restorable { a with state } := by
  obtain ⟨⟨lotId', accountId'⟩, hids, hstate⟩ := Py.of_bind hstate
  obtain ⟨cash, -, hstate⟩ := Py.of_bind hstate
  obtain ⟨lot, hlot, hstate⟩ := Py.of_bind hstate
  obtain ⟨fees, -, hstate⟩ := Py.of_bind hstate
  cases hstate
  obtain ⟨hnew, haccount⟩ := new_of_checkFillIds hids
  have hfields := Frozen.make_eq_ok.mp hlot
  refine ⟨h.fills, h.settlements, h.dates, ?_, ?_⟩
  · rw [List.map_append, List.nodup_append]
    refine ⟨h.lotIds, List.nodup_singleton _, ?_⟩
    rintro id hid other hother rfl
    rw [List.map_singleton, List.mem_singleton] at hother
    rw [hother, hfields] at hid
    exact hnew hid
  · intro other hother
    rcases List.mem_append.mp hother with hother | hother
    · exact h.accounts other hother
    · rw [List.mem_singleton.mp hother, hfields]
      exact haccount

theorem Restorable.closed (h : Restorable a) {closeToday : Bool} (hstate : a.closedState ctx fill closeToday = .ok state) :
    Restorable { a with state } := by
  obtain ⟨-, hstate⟩ := of_require hstate
  obtain ⟨available, -, hstate⟩ := Py.of_bind hstate
  obtain ⟨-, hstate⟩ := of_require hstate
  obtain ⟨⟨kept, realized⟩, hlots, hstate⟩ := Py.of_bind hstate
  obtain ⟨gained, -, hstate⟩ := Py.of_bind hstate
  obtain ⟨cash, -, hstate⟩ := Py.of_bind hstate
  obtain ⟨realizedPnl, -, hstate⟩ := Py.of_bind hstate
  obtain ⟨fees, -, hstate⟩ := Py.of_bind hstate
  cases hstate
  exact h.of_sublist (keys_closeLots hlots)

theorem settlement_ids (s : Settlement) :
    s.fields.settlementId.nspace = "settlement" ∧ s.fields.tradingDate ≠ [] := by
  have h : s.fields.postInit = .ok () := s.valid
  simp only [SettlementFields.postInit, check_bind_eq_ok, checkNamespace_eq_ok, require_eq_ok] at h
  refine ⟨h.1, fun hempty => ?_⟩
  have hdate := h.2.2.2.2.2.1
  rw [hempty] at hdate
  cases hdate

theorem Restorable.settle (h : Restorable a) (s : Settlement) :
    Restorable (a.settle ctx s).2 := by
  unfold SimulationAccount.settle
  split
  · exact h
  rcases hstate : a.settledState ctx s with e | state
  · exact h
  have hnext : Restorable { a with state } := by
    apply h.of_sublist
    rw [keys_settledState hstate]
  cases a.settledAdjustment ctx s with
  | error e => exact hnext
  | ok adjustment =>
    refine ⟨hnext.fills, fun id hid => ?_, fun date hdate => ?_, hnext.lotIds, hnext.accounts⟩
    · rcases AppliedSet.has_add_iff.mp hid with rfl | hid
      · exact (settlement_ids s).1
      · exact h.settlements id hid
    · rcases AppliedSet.has_add_iff.mp hdate with rfl | hdate
      · exact (settlement_ids s).2
      · exact h.dates date hdate

theorem restorable_restore {s : SimulationAccountSnapshot} (h : restore ctx s = .ok a) :
    Restorable a := by
  obtain ⟨config, hconfig, h⟩ := Py.of_bind h
  obtain ⟨⟨-, hfills⟩, h⟩ := of_require h
  obtain ⟨⟨-, hsettlements⟩, h⟩ := of_require h
  obtain ⟨⟨-, hdates⟩, h⟩ := of_require h
  obtain ⟨⟨hnodup, haccounts⟩, h⟩ := of_require h
  obtain ⟨u, -, h⟩ := Py.of_bind h
  cases h
  simp only [List.all_eq_true, decide_eq_true_eq] at hfills hsettlements hdates haccounts
  refine ⟨fun id hid => hfills id (AppliedSet.has_ofList_iff.mp hid),
    fun id hid => hsettlements id (AppliedSet.has_ofList_iff.mp hid),
    fun date hdate => hdates date (AppliedSet.has_ofList_iff.mp hdate), hnodup, ?_⟩
  rw [show (SimulationAccount.mk config _ _ _ _ _).accountId = s.accountId by
    rw [accountId, Frozen.make_eq_ok.mp hconfig]]
  exact haccounts

/-- **Every call leaves an account that can be restored.** -/
theorem Restorable.step (h : Restorable a) (op : AccountOp) : Restorable (a.step ctx op).2 := by
  have hmargin : ∀ margin, Restorable (a.withMargin margin) := fun margin =>
    h.of_sublist (List.Sublist.refl _)
  cases op with
  | reserveMargin amount =>
    obtain ⟨margin, heq⟩ := a.reserveMargin_eq_withMargin ctx amount
    show Restorable (a.reserveMargin ctx amount).2
    rw [heq]
    exact hmargin margin
  | releaseMargin amount =>
    obtain ⟨margin, heq⟩ := a.releaseMargin_eq_withMargin ctx amount
    show Restorable (a.releaseMargin ctx amount).2
    rw [heq]
    exact hmargin margin
  | applyFill fill lotId accountId =>
    show Restorable (a.applyFill ctx fill lotId accountId).2
    obtain ⟨-, heq⟩ | ⟨-, ⟨e, -, heq⟩ | ⟨state, hstate, heq⟩⟩ :=
      a.applyFill_cases ctx fill lotId accountId
    · rw [heq]
      exact h
    · rw [heq]
      exact h
    · rw [heq]
      exact (h.filled hstate).withFill (fillId_nspace fill)
  | settle s => exact h.settle s
  | close fill closeToday =>
    show Restorable (a.close ctx fill closeToday).2
    obtain ⟨-, heq⟩ | ⟨-, ⟨e, -, heq⟩ | ⟨state, hstate, heq⟩⟩ := a.close_cases ctx fill closeToday
    · rw [heq]
      exact h
    · rw [heq]
      exact h
    · rw [heq]
      exact (h.closed hstate).withFill (fillId_nspace fill)
  | restore snapshot =>
    simp only [SimulationAccount.step]
    rcases hrestore : SimulationAccount.restore ctx snapshot with e | restored
    · exact h
    · exact restorable_restore hrestore

/-- Every account that calls have made can be restored. -/
theorem restorable_run (ctx : DecimalContext) (config : Frozen AccountConfigFields)
    (ops : List AccountOp) : Restorable (run ctx config ops) :=
  (machine ctx).exec_invariant (I := Restorable) (fun _ op h => h.step op)
    (restorable_new config) ops

/-! ### The restored account -/

theorem Restorable.exists_restore (h : Restorable a) {s : SimulationAccountSnapshot}
    (hs : a.snapshot ctx = .ok s) : ∃ b, restore ctx s = .ok b ∧ Alike a b := by
  obtain ⟨u, hconserved, hs⟩ := Py.of_bind hs
  cases hs
  have hmem : ∀ {ids : List EntityId} {id : EntityId}, id ∈ sortedIds ids ↔ id ∈ ids := by
    intro ids id
    exact List.mem_mergeSort
  have hconfig : Frozen.make
      { initialCash := a.config.fields.initialCash
        contractMultiplier := a.multiplier
        accountId := a.accountId : AccountConfigFields } = .ok a.config :=
    Frozen.make_eq_ok.mpr rfl
  have hfills : (sortedIds a.appliedFills.keys).Nodup
      ∧ (sortedIds a.appliedFills.keys).all (fun id => id.nspace = "fill") := by
    refine ⟨(List.mergeSort_perm _ _).nodup_iff.mpr a.appliedFills.nodup, ?_⟩
    simp only [List.all_eq_true, decide_eq_true_eq, hmem, ← AppliedSet.has_iff_mem_keys]
    exact h.fills
  have hsettlements : (sortedIds a.appliedSettlements.keys).Nodup
      ∧ (sortedIds a.appliedSettlements.keys).all (fun id => id.nspace = "settlement") := by
    refine ⟨(List.mergeSort_perm _ _).nodup_iff.mpr a.appliedSettlements.nodup, ?_⟩
    simp only [List.all_eq_true, decide_eq_true_eq, hmem, ← AppliedSet.has_iff_mem_keys]
    exact h.settlements
  have hdates : (a.settlementDates.keys.mergeSort Text.le).Nodup
      ∧ (a.settlementDates.keys.mergeSort Text.le).all (fun date => date ≠ []) := by
    refine ⟨(List.mergeSort_perm _ _).nodup_iff.mpr a.settlementDates.nodup, ?_⟩
    simp only [List.all_eq_true, decide_eq_true_eq, List.mem_mergeSort,
      ← AppliedSet.has_iff_mem_keys]
    exact h.dates
  have hlots : (a.state.lots.map (·.fields.lotId)).Nodup ∧ a.state.lots.all (fun lot =>
      a.accountId = none ∨ a.accountId = some lot.fields.accountId) := by
    refine ⟨h.lotIds, ?_⟩
    simp only [List.all_eq_true, decide_eq_true_eq]
    exact h.accounts
  let b : SimulationAccount :=
    { config := a.config
      state := a.state
      appliedFills := .ofList (sortedIds a.appliedFills.keys)
      appliedSettlements := .ofList (sortedIds a.appliedSettlements.keys)
      settlementDates := .ofList (a.settlementDates.keys.mergeSort Text.le)
      settlementCashAdjustment := a.settlementCashAdjustment }
  have halike : Alike a b := by
    refine ⟨rfl, rfl, rfl, fun id => ?_, fun id => ?_, fun date => ?_⟩
    · rw [AppliedSet.has_ofList_iff, hmem, AppliedSet.has_iff_mem_keys]
    · rw [AppliedSet.has_ofList_iff, hmem, AppliedSet.has_iff_mem_keys]
    · rw [AppliedSet.has_ofList_iff, List.mem_mergeSort, AppliedSet.has_iff_mem_keys]
  refine ⟨b, ?_, halike⟩
  unfold restore
  dsimp only
  rw [hconfig, Py.ok_bind, require_of_pos hfills, Py.ok_bind, require_of_pos hsettlements, Py.ok_bind,
    require_of_pos hdates, Py.ok_bind, require_of_pos hlots, Py.ok_bind]
  rw [show assertConservation ctx b = .ok u by rw [← halike.assertConservation, hconserved],
    Py.ok_bind]

/-- **The account restored from a snapshot goes on as the account itself.**  Whatever calls made the
account, and whatever calls follow: both return the same, raise on the same calls, and end with the
same state and the same applied fills, settlements and dates. -/
theorem restored_alike [Hashlib] (ctx : DecimalContext) (config : Frozen AccountConfigFields)
    (ops : List AccountOp) (s : SimulationAccountSnapshot)
    (hs : (run ctx config ops).snapshot ctx = .ok s) :
    ∃ b, restore ctx s = .ok b ∧ ∀ calls : List AccountCall,
      (callMachine ctx).outputs (run ctx config ops) calls = (callMachine ctx).outputs b calls
        ∧ Alike ((callMachine ctx).exec (run ctx config ops) calls)
          ((callMachine ctx).exec b calls) := by
  obtain ⟨b, hb, halike⟩ := (restorable_run ctx config ops).exists_restore hs
  refine ⟨b, hb, fun calls => ⟨?_, ?_⟩⟩
  · exact (callMachine ctx).outputs_eq_of_simulation (R := Alike) (fun _ _ c h => (h.call c).1)
      (fun _ _ c h => (h.call c).2) halike calls
  · exact (callMachine ctx).exec_of_simulation (R := Alike) (fun _ _ c h => (h.call c).2) halike calls

end

/-- The calls that open the sample account and settle its mark. -/
def settledOps : List AccountOp := openingOps ++ [.settle sampleSettlement]

/-- The account that opened and settled is restored. -/
theorem restored_alike_of_settled :
    ∃ s b, (run defaultContext sampleConfig settledOps).snapshot defaultContext = .ok s
      ∧ restore defaultContext s = .ok b ∧ ∀ calls : List AccountCall,
        (callMachine defaultContext).outputs (run defaultContext sampleConfig settledOps) calls
            = (callMachine defaultContext).outputs b calls
          ∧ Alike ((callMachine defaultContext).exec (run defaultContext sampleConfig settledOps) calls)
            ((callMachine defaultContext).exec b calls) := by
  have hsome : ((run defaultContext sampleConfig settledOps).snapshot defaultContext).toOption.isSome
      = true := by decide +kernel
  rcases hs : (run defaultContext sampleConfig settledOps).snapshot defaultContext with e | s
  · rw [hs] at hsome
    cases hsome
  · obtain ⟨b, hb, hcalls⟩ := restored_alike defaultContext sampleConfig settledOps s hs
    exact ⟨s, b, rfl, hb, hcalls⟩

end SimulationAccount

end FuturesAgentOs
