import FuturesAgentOs.PyModel.Dict
import FuturesAgentOs.PyModel.Exception
import FuturesAgentOs.PyModel.Sorting
import Mathlib.Algebra.Order.BigOperators.Group.List
import Mathlib.Data.List.Dedup
import Mathlib.Data.Rat.Defs
import Mathlib.Tactic.Linarith
import Mathlib.Tactic.Ring

namespace FuturesAgentOs

open PyModel

/-!
# Aggregation of exposures

`portfolio_risk/exposure_aggregation.py`: the exposures of a portfolio are added up by account,
strategy, instrument, sector, maturity and cluster, in exact arithmetic.

* `aggregate_spec` — what a portfolio is answered with, in any order of its exposures.
-/

/-- `_text` -/
def checkExposureText (value label : Text) : Py Unit :=
  require (value ≠ [] ∧ value = value.strip) (valueError (label ++ (" is required" : Text)))

/-- `_finite(…, non_negative=True)` -/
def checkFiniteNonNegative (value : ℚ) (label : Text) : Py Unit :=
  require (0 ≤ value) (valueError (label ++ (" must be non-negative finite Decimal" : Text)))

structure ExposureFields where
  account : Text
  strategy : Text
  instrument : Text
  notional : ℚ
  currency : Text := "USD"
  sector : Text := "UNCLASSIFIED"
  maturityBucket : Text := "UNSPECIFIED"
  correlationCluster : Text := "UNCLUSTERED"
  spreadId : Option Text := none
  rolloverCost : ℚ := 0
  deriving DecidableEq

def ExposureFields.postInit (f : ExposureFields) : Py Unit := do
  checkExposureText f.account "account"
  checkExposureText f.strategy "strategy"
  checkExposureText f.instrument "instrument"
  checkExposureText f.currency "currency"
  checkExposureText f.sector "sector"
  checkExposureText f.maturityBucket "maturity_bucket"
  checkExposureText f.correlationCluster "correlation_cluster"
  whenSome f.spreadId fun spreadId => checkExposureText spreadId "spread_id"
  checkFiniteNonNegative f.rolloverCost "rollover_cost"
  require (f.notional = 0 → f.rolloverCost = 0)
    (valueError "zero exposure cannot carry rollover cost")

instance : Dataclass ExposureFields := ⟨ExposureFields.postInit⟩

abbrev Exposure := Frozen ExposureFields

structure SpreadSummary where
  spreadId : Text
  legs : ℕ
  maturities : List Text
  gross : ℚ
  net : ℚ
  balancedDirections : Bool
  deriving DecidableEq

/-- The fields of `PortfolioLimits`. -/
structure PortfolioLimitsFields where
  gross : Option ℚ := none
  absoluteNet : Option ℚ := none
  accountGross : Option ℚ := none
  strategyGross : Option ℚ := none
  sectorGross : Option ℚ := none
  maturityGross : Option ℚ := none
  clusterGross : Option ℚ := none
  clusterConcentration : Option ℚ := none
  rolloverCost : Option ℚ := none
  deriving DecidableEq

/-- A limit that is given is positive. -/
def checkOptionalLimit (limit : Option ℚ) : Py Unit :=
  whenSome limit fun limit => do
    checkFiniteNonNegative limit "portfolio limit"
    require (limit ≠ 0) (valueError "portfolio limits must be positive")

def PortfolioLimitsFields.postInit (f : PortfolioLimitsFields) : Py Unit := do
  checkOptionalLimit f.gross
  checkOptionalLimit f.absoluteNet
  checkOptionalLimit f.accountGross
  checkOptionalLimit f.strategyGross
  checkOptionalLimit f.sectorGross
  checkOptionalLimit f.maturityGross
  checkOptionalLimit f.clusterGross
  checkOptionalLimit f.rolloverCost
  whenSome f.clusterConcentration fun limit => do
    checkFiniteNonNegative limit "cluster_concentration"
    require (0 < limit ∧ limit ≤ 1) (valueError "cluster_concentration must be in (0, 1]")

instance : Dataclass PortfolioLimitsFields := ⟨PortfolioLimitsFields.postInit⟩

abbrev PortfolioLimits := Frozen PortfolioLimitsFields

structure ExposureSummaryFields where
  byAccount : List (Text × ℚ)
  byStrategy : List (Text × ℚ)
  byInstrument : List (Text × ℚ)
  total : ℚ
  gross : ℚ
  grossByAccount : List (Text × ℚ)
  grossByStrategy : List (Text × ℚ)
  grossBySector : List (Text × ℚ)
  grossByMaturity : List (Text × ℚ)
  grossByCorrelationCluster : List (Text × ℚ)
  netBySector : List (Text × ℚ)
  netByMaturity : List (Text × ℚ)
  netByCorrelationCluster : List (Text × ℚ)
  longGross : ℚ
  shortGross : ℚ
  spreads : List SpreadSummary
  rolloverCostByAccount : List (Text × ℚ)
  totalRolloverCost : ℚ
  deriving DecidableEq

def ExposureSummaryFields.postInit (f : ExposureSummaryFields) : Py Unit := do
  require ((f.byAccount.map Prod.snd).sum = f.total)
    (valueError "account net exposure does not reconcile")
  require ((f.byStrategy.map Prod.snd).sum = f.total)
    (valueError "strategy net exposure does not reconcile")
  require (f.longGross - f.shortGross = f.total ∧ f.longGross + f.shortGross = f.gross)
    (valueError "directional gross/net exposure does not reconcile")
  require ((f.rolloverCostByAccount.map Prod.snd).sum = f.totalRolloverCost)
    (valueError "rollover costs do not reconcile")

instance : Dataclass ExposureSummaryFields := ⟨ExposureSummaryFields.postInit⟩

abbrev ExposureSummary := Frozen ExposureSummaryFields

namespace ExposureAggregation

/-- The groupings of exposures. -/
inductive Dimension where
  | account | strategy | instrument | sector | maturity | cluster
  deriving DecidableEq

/-- The group of an exposure. -/
def groupOf (item : Exposure) : Dimension → Text
  | .account => item.fields.account
  | .strategy => item.fields.strategy
  | .instrument => item.fields.instrument
  | .sector => item.fields.sector
  | .maturity => item.fields.maturityBucket
  | .cluster => item.fields.correlationCluster

/-- `_add` -/
def addTo (mapping : Dict Text ℚ) (key : Text) (value : ℚ) : Dict Text ℚ :=
  mapping.set key ((mapping.get? key).getD 0 + value)

/-- The order of `sorted` on pairs. -/
def pairLe : Text × ℚ → Text × ℚ → Bool :=
  lexLe [fun a b => Text.le a.1 b.1, fun a b => decide (a.2 ≤ b.2)]

/-- `_items` -/
def sortedItems (mapping : Dict Text ℚ) : List (Text × ℚ) := mapping.items.mergeSort pairLe

/-- What the loop has added up. -/
structure Totals where
  netMaps : Dimension → Dict Text ℚ := fun _ => .empty
  /-- no gross is kept by instrument -/
  grossMaps : Dimension → Dict Text ℚ := fun _ => .empty
  rolloverByAccount : Dict Text ℚ := .empty
  spreadLegs : Dict Text (List Exposure) := .empty
  longGross : ℚ := 0
  shortGross : ℚ := 0

/-- `spread_legs.setdefault(item.spread_id, []).append(item)` -/
def addLeg (legs : Dict Text (List Exposure)) (item : Exposure) : Dict Text (List Exposure) :=
  match item.fields.spreadId with
  | none => legs
  | some spreadId => legs.set spreadId ((legs.get? spreadId).getD [] ++ [item])

/-- One turn of the loop. -/
def Totals.add (t : Totals) (item : Exposure) : Totals where
  netMaps dimension := addTo (t.netMaps dimension) (groupOf item dimension) item.fields.notional
  grossMaps dimension :=
    if dimension = .instrument then t.grossMaps dimension
    else addTo (t.grossMaps dimension) (groupOf item dimension) |item.fields.notional|
  rolloverByAccount := addTo t.rolloverByAccount item.fields.account item.fields.rolloverCost
  spreadLegs := addLeg t.spreadLegs item
  longGross := if 0 < item.fields.notional then t.longGross + item.fields.notional else t.longGross
  shortGross :=
    if 0 < item.fields.notional then t.shortGross else t.shortGross + |item.fields.notional|

/-- The summary of a spread. -/
def spreadSummary (spread : Text × List Exposure) : SpreadSummary where
  spreadId := spread.1
  legs := spread.2.length
  maturities := (spread.2.map fun leg => leg.fields.maturityBucket).dedup.mergeSort Text.le
  gross := (spread.2.map fun leg => |leg.fields.notional|).sum
  net := (spread.2.map fun leg => leg.fields.notional).sum
  balancedDirections :=
    spread.2.any (fun leg => decide (0 < leg.fields.notional))
      && spread.2.any fun leg => decide (leg.fields.notional < 0)

/-- The loop. -/
def totals (exposures : List Exposure) : Totals := exposures.foldl Totals.add {}

/-- What the summary is made of. -/
def summaryFields (exposures : List Exposure) : ExposureSummaryFields :=
  let t := totals exposures
  { byAccount := sortedItems (t.netMaps .account)
    byStrategy := sortedItems (t.netMaps .strategy)
    byInstrument := sortedItems (t.netMaps .instrument)
    total := (exposures.map fun item => item.fields.notional).sum
    gross := t.longGross + t.shortGross
    grossByAccount := sortedItems (t.grossMaps .account)
    grossByStrategy := sortedItems (t.grossMaps .strategy)
    grossBySector := sortedItems (t.grossMaps .sector)
    grossByMaturity := sortedItems (t.grossMaps .maturity)
    grossByCorrelationCluster := sortedItems (t.grossMaps .cluster)
    netBySector := sortedItems (t.netMaps .sector)
    netByMaturity := sortedItems (t.netMaps .maturity)
    netByCorrelationCluster := sortedItems (t.netMaps .cluster)
    longGross := t.longGross
    shortGross := t.shortGross
    spreads := (t.spreadLegs.items.mergeSort fun a b => Text.le a.1 b.1).map spreadSummary
    rolloverCostByAccount := sortedItems t.rolloverByAccount
    totalRolloverCost := (exposures.map fun item => item.fields.rolloverCost).sum }

def Exceeds (items : List (Text × ℚ)) (limit : Option ℚ) : Prop :=
  ∃ limit' ∈ limit, ∃ item ∈ items, limit' < item.2

instance (items : List (Text × ℚ)) (limit : Option ℚ) : Decidable (Exceeds items limit) :=
  match limit with
  | none => isFalse (by rintro ⟨limit, ⟨⟩, -⟩)
  | some limit => decidable_of_iff (∃ item ∈ items, limit < item.2)
      ⟨fun h => ⟨limit, rfl, h⟩, by rintro ⟨_, ⟨⟩, h⟩; exact h⟩

/-- `limit is not None and value > limit` -/
def Above (value : ℚ) (limit : Option ℚ) : Prop := ∃ limit' ∈ limit, limit' < value

instance (value : ℚ) (limit : Option ℚ) : Decidable (Above value limit) :=
  match limit with
  | none => isFalse (by rintro ⟨limit, ⟨⟩, -⟩)
  | some limit => decidable_of_iff (limit < value)
      ⟨fun h => ⟨limit, rfl, h⟩, by rintro ⟨_, ⟨⟩, h⟩; exact h⟩

/-- The shares of the clusters in the gross. -/
def clusterShares (s : ExposureSummaryFields) : List (Text × ℚ) :=
  if 0 < s.gross then s.grossByCorrelationCluster.map fun item => (item.1, item.2 / s.gross) else []

/-- The checks of `_enforce_limits`, in order. -/
def limitChecks (s : ExposureSummaryFields) (limits : PortfolioLimitsFields) : List (Bool × Text) := [
  (decide (Above s.gross limits.gross), "PORTFOLIO_GROSS_LIMIT"),
  (decide (Above |s.total| limits.absoluteNet), "PORTFOLIO_NET_LIMIT"),
  (decide (Exceeds s.grossByAccount limits.accountGross), "ACCOUNT_GROSS_LIMIT"),
  (decide (Exceeds s.grossByStrategy limits.strategyGross), "STRATEGY_GROSS_LIMIT"),
  (decide (Exceeds s.grossBySector limits.sectorGross), "SECTOR_GROSS_LIMIT"),
  (decide (Exceeds s.grossByMaturity limits.maturityGross), "MATURITY_GROSS_LIMIT"),
  (decide (Exceeds s.grossByCorrelationCluster limits.clusterGross), "CORRELATION_CLUSTER_LIMIT"),
  (decide (Exceeds (clusterShares s) limits.clusterConcentration),
    "CORRELATION_CONCENTRATION_LIMIT"),
  (decide (Above s.totalRolloverCost limits.rolloverCost), "ROLLOVER_COST_LIMIT")]

def enforceLimits (s : ExposureSummaryFields) (limits : PortfolioLimitsFields) : Py Unit :=
  match (limitChecks s limits).find? Prod.fst with
  | some (_, reason) => .error (valueError reason)
  | none => .ok ()

/-- All the dimensions, in the order of `net_maps`. -/
def Dimension.all : List Dimension :=
  [.account, .strategy, .instrument, .sector, .maturity, .cluster]

/-- The check of `concentration_limit`. -/
def checkConcentration (t : Totals) (limit : Option ℚ) : Py Unit :=
  whenSome limit fun limit => do
    checkFiniteNonNegative limit "concentration_limit"
    require (limit ≠ 0) (valueError "concentration_limit must be positive")
    require (∀ dimension ∈ Dimension.all, ∀ value ∈ (t.netMaps dimension).values, |value| ≤ limit)
      (valueError "CONCENTRATION_LIMIT")

def aggregate (exposures : List Exposure) (concentrationLimit : Option ℚ)
    (limits : Option PortfolioLimits) : Py ExposureSummary := do
  let summary ← Frozen.make (summaryFields exposures)
  checkConcentration (totals exposures) concentrationLimit
  whenSome limits fun limits => enforceLimits summary.fields limits.fields
  .ok summary

/-! ### Groups -/

section

variable {exposures exposures' : List Exposure} {dimension : Dimension} {group : Text}

/-- The exposures of a group. -/
def groupItems (exposures : List Exposure) (dimension : Dimension) (group : Text) : List Exposure :=
  exposures.filter fun item => groupOf item dimension = group

/-- What a group is worth in one measure of its exposures. -/
def groupSum (exposures : List Exposure) (dimension : Dimension) (group : Text)
    (value : Exposure → ℚ) : ℚ :=
  ((groupItems exposures dimension group).map value).sum

/-- The loop of one grouping. -/
def grouped (dimension : Dimension) (value : Exposure → ℚ) (exposures : List Exposure) :
    Dict Text ℚ :=
  exposures.foldl (fun mapping item => addTo mapping (groupOf item dimension) (value item)) .empty

/-- **The totals of a grouping.** -/
theorem get?_grouped (value : Exposure → ℚ) :
    (grouped dimension value exposures).get? group
      = if groupItems exposures dimension group = [] then none
        else some (groupSum exposures dimension group value) := by
  have hfold : ∀ (items : List Exposure) (start : Option ℚ),
      items.foldl (fun v item => some (v.getD 0 + value item)) start
        = if items = [] then start else some (start.getD 0 + (items.map value).sum) := by
    intro items
    induction items with
    | nil => exact fun start => rfl
    | cons item items ih =>
      intro start
      rw [List.foldl_cons, ih, if_neg (List.cons_ne_nil item items)]
      split
      · rename_i hnil
        simp [hnil]
      · rw [List.map_cons, List.sum_cons, Option.getD_some, add_assoc]
  have hget := Dict.get?_foldl_set (fun item => groupOf item dimension)
    (fun v item => v.getD 0 + value item) exposures .empty group
  rw [hfold, Dict.get?_empty, Option.getD_none, zero_add] at hget
  exact hget

theorem sum_values_addTo (mapping : Dict Text ℚ) (key : Text) (value : ℚ) :
    (addTo mapping key value).values.sum = mapping.values.sum + value := by
  have hassign : ∀ items : List (Text × ℚ),
      ((Dict.assign key (((items.find? fun p => p.1 = key).map Prod.snd).getD 0 + value) items).map
        Prod.snd).sum = (items.map Prod.snd).sum + value := by
    intro items
    induction items with
    | nil => simp [Dict.assign]
    | cons p rest ih =>
      by_cases hkey : p.1 = key
      · rw [List.find?_cons_of_pos (by simpa using hkey), Dict.assign, if_pos hkey, Option.map_some,
          Option.getD_some, List.map_cons, List.map_cons, List.sum_cons, List.sum_cons]
        ring
      · rw [List.find?_cons_of_neg (by simpa using hkey), Dict.assign, if_neg hkey, List.map_cons,
          List.map_cons, List.sum_cons, List.sum_cons, ih]
        ring
  exact hassign mapping.items

theorem sum_values_grouped (value : Exposure → ℚ) :
    (grouped dimension value exposures).values.sum = (exposures.map value).sum := by
  have hfold : ∀ mapping : Dict Text ℚ,
      (exposures.foldl (fun mapping item => addTo mapping (groupOf item dimension) (value item))
        mapping).values.sum = mapping.values.sum + (exposures.map value).sum := by
    induction exposures with
    | nil => intro mapping; simp
    | cons item exposures ih =>
      intro mapping
      rw [List.foldl_cons, ih, sum_values_addTo, List.map_cons, List.sum_cons, add_assoc]
  rw [grouped, hfold]
  exact zero_add _

theorem eq_nil_iff_of_perm {items items' : List Exposure} (h : items.Perm items') :
    items = [] ↔ items' = [] := by
  rw [← List.length_eq_zero_iff, h.length_eq, List.length_eq_zero_iff]

/-- The group totals do not depend on the order. -/
theorem get?_grouped_of_perm (h : exposures.Perm exposures') (value : Exposure → ℚ) (group : Text) :
    (grouped dimension value exposures).get? group
      = (grouped dimension value exposures').get? group := by
  have hitems : (groupItems exposures dimension group).Perm
      (groupItems exposures' dimension group) := h.filter _
  have hsum : groupSum exposures dimension group value
      = groupSum exposures' dimension group value := (hitems.map value).sum_eq
  rw [get?_grouped, get?_grouped, hsum]
  by_cases hnil : groupItems exposures dimension group = []
  · rw [if_pos hnil, if_pos ((eq_nil_iff_of_perm hitems).mp hnil)]
  · rw [if_neg hnil, if_neg (mt (eq_nil_iff_of_perm hitems).mpr hnil)]

/-- The order of the pairs is linear. -/
theorem sortedItems_eq_of_get? {mapping mapping' : Dict Text ℚ}
    (h : ∀ key, mapping.get? key = mapping'.get? key) : sortedItems mapping = sortedItems mapping' := by
  have horder : ∀ le ∈ [fun a b : Text × ℚ => Text.le a.1 b.1, fun a b => decide (a.2 ≤ b.2)],
      (∀ a b c, le a b = true → le b c = true → le a c = true)
        ∧ ∀ a b, (le a b || le b a) = true := by
    simp only [List.forall_mem_cons]
    refine ⟨order_text Prod.fst, ⟨fun a b c hab hbc => ?_, fun a b => ?_⟩, by rintro le ⟨⟩⟩
    · exact decide_eq_true ((of_decide_eq_true hab).trans (of_decide_eq_true hbc))
    · rw [Bool.or_eq_true, decide_eq_true_eq, decide_eq_true_eq]
      exact le_total a.2 b.2
  refine mergeSort_eq_of_perm (lexLe_trans fun le hle => (horder le hle).1)
    (lexLe_total fun le hle => (horder le hle).2) (fun a _ b _ hab hba => ?_)
    (Dict.items_perm_of_get? h)
  have hles := le_of_lexLe hab hba
  have hkey := hles _ List.mem_cons_self
  have hvalue := hles _ (List.mem_cons_of_mem _ List.mem_cons_self)
  exact Prod.ext (Text.le_antisymm hkey.1 hkey.2)
    (le_antisymm (of_decide_eq_true hvalue.1) (of_decide_eq_true hvalue.2))

theorem sum_sortedItems (mapping : Dict Text ℚ) :
    ((sortedItems mapping).map Prod.snd).sum = mapping.values.sum :=
  ((List.mergeSort_perm _ _).map Prod.snd).sum_eq

/-! ### The loop -/

theorem netMaps_totals : (totals exposures).netMaps dimension
    = grouped dimension (fun item => item.fields.notional) exposures :=
  (List.foldl_hom (fun t : Totals => t.netMaps dimension) fun _ _ => rfl).symm

theorem grossMaps_totals (h : dimension ≠ .instrument) : (totals exposures).grossMaps dimension
    = grouped dimension (fun item => |item.fields.notional|) exposures :=
  (List.foldl_hom (fun t : Totals => t.grossMaps dimension) fun _ _ => (if_neg h).symm).symm

theorem rolloverByAccount_totals : (totals exposures).rolloverByAccount
    = grouped .account (fun item => item.fields.rolloverCost) exposures :=
  (List.foldl_hom Totals.rolloverByAccount fun _ _ => rfl).symm

variable (exposures) in
/-- **The two directions.** -/
theorem directions_totals :
    (totals exposures).longGross - (totals exposures).shortGross
        = (exposures.map fun item => item.fields.notional).sum
      ∧ (totals exposures).longGross + (totals exposures).shortGross
        = (exposures.map fun item => |item.fields.notional|).sum := by
  have hfold : ∀ t : Totals,
      (exposures.foldl Totals.add t).longGross - (exposures.foldl Totals.add t).shortGross
          = t.longGross - t.shortGross + (exposures.map fun item => item.fields.notional).sum
        ∧ (exposures.foldl Totals.add t).longGross + (exposures.foldl Totals.add t).shortGross
          = t.longGross + t.shortGross + (exposures.map fun item => |item.fields.notional|).sum := by
    induction exposures with
    | nil => intro t; simp
    | cons item exposures ih =>
      intro t
      rw [List.foldl_cons, (ih _).1, (ih _).2, List.map_cons, List.map_cons, List.sum_cons,
        List.sum_cons]
      simp only [Totals.add]
      by_cases hpos : 0 < item.fields.notional
      · rw [if_pos hpos, if_pos hpos, abs_of_pos hpos]
        constructor <;> ring
      · rw [if_neg hpos, if_neg hpos, abs_of_nonpos (not_lt.mp hpos)]
        constructor <;> ring
  obtain ⟨hnet, hgross⟩ := hfold {}
  rw [totals, hnet, hgross]
  simp

/-- The long side, which does not depend on the order. -/
theorem longGross_eq : (totals exposures).longGross
    = ((exposures.map fun item => |item.fields.notional|).sum
        + (exposures.map fun item => item.fields.notional).sum) / 2 := by
  obtain ⟨hnet, hgross⟩ := directions_totals exposures
  linarith

theorem shortGross_eq : (totals exposures).shortGross
    = ((exposures.map fun item => |item.fields.notional|).sum
        - (exposures.map fun item => item.fields.notional).sum) / 2 := by
  obtain ⟨hnet, hgross⟩ := directions_totals exposures
  linarith

/-! ### Spreads -/

/-- The legs of a spread. -/
def legsOf (exposures : List Exposure) (spreadId : Text) : List Exposure :=
  exposures.filter fun item => item.fields.spreadId = some spreadId

/-- **The legs that the loop has collected.** -/
theorem get?_spreadLegs (spreadId : Text) : (totals exposures).spreadLegs.get? spreadId
    = if legsOf exposures spreadId = [] then none else some (legsOf exposures spreadId) := by
  have hfold : ∀ t : Totals, (exposures.foldl Totals.add t).spreadLegs.get? spreadId
      = if legsOf exposures spreadId = [] then t.spreadLegs.get? spreadId
        else some ((t.spreadLegs.get? spreadId).getD [] ++ legsOf exposures spreadId) := by
    induction exposures with
    | nil => exact fun t => rfl
    | cons item exposures ih =>
      intro t
      rw [List.foldl_cons, ih]
      rcases hspread : item.fields.spreadId with _ | id
      · have hlegs : legsOf (item :: exposures) spreadId = legsOf exposures spreadId := by
          rw [legsOf, List.filter_cons_of_neg (by simp [hspread])]
          rfl
        have hadd : (t.add item).spreadLegs = t.spreadLegs := by
          rw [Totals.add, addLeg, hspread]
        rw [hlegs, hadd]
      · have hadd : (t.add item).spreadLegs
            = t.spreadLegs.set id ((t.spreadLegs.get? id).getD [] ++ [item]) := by
          rw [Totals.add, addLeg, hspread]
        by_cases hid : id = spreadId
        · subst hid
          have hlegs : legsOf (item :: exposures) id = item :: legsOf exposures id := by
            rw [legsOf, List.filter_cons_of_pos (by simp [hspread])]
            rfl
          rw [hadd, hlegs, Dict.get?_set_self, if_neg (List.cons_ne_nil _ _)]
          split
          · rename_i hnil
            rw [hnil]
          · rw [Option.getD_some, List.append_assoc, List.singleton_append]
        · have hlegs : legsOf (item :: exposures) spreadId = legsOf exposures spreadId := by
            rw [legsOf, List.filter_cons_of_neg (by simp [hspread, hid])]
            rfl
          rw [hadd, hlegs, Dict.get?_set_of_ne _ _ (Ne.symm hid)]
  have h := hfold {}
  rw [Dict.get?_empty, Option.getD_none, List.nil_append] at h
  exact h

theorem spreadSummary_of_perm {legs legs' : List Exposure} (h : legs.Perm legs') (spreadId : Text) :
    spreadSummary (spreadId, legs) = spreadSummary (spreadId, legs') := by
  have hmaturities : (legs.map fun leg => leg.fields.maturityBucket).dedup.mergeSort Text.le
      = (legs'.map fun leg => leg.fields.maturityBucket).dedup.mergeSort Text.le :=
    mergeSort_eq_of_perm (fun _ _ _ => Text.le_trans)
      (fun a b => (Bool.or_eq_true _ _).mpr (Text.le_total a b))
      (fun _ _ _ _ => Text.le_antisymm) (h.map _).dedup
  have hany : ∀ p : Exposure → Bool, legs.any p = legs'.any p := fun p => h.any_eq
  simp only [spreadSummary, h.length_eq, hmaturities, (h.map _).sum_eq, hany]

theorem spreads_eq : ((totals exposures).spreadLegs.items.mergeSort fun a b => Text.le a.1 b.1).map
      spreadSummary
    = ((totals exposures).spreadLegs.keys.mergeSort Text.le).map
        fun spreadId => spreadSummary (spreadId, legsOf exposures spreadId) := by
  have hkeys : ((totals exposures).spreadLegs.items.mergeSort fun a b => Text.le a.1 b.1).map Prod.fst
      = (totals exposures).spreadLegs.keys.mergeSort Text.le :=
    List.map_mergeSort fun _ _ _ _ => rfl
  rw [← hkeys, List.map_map]
  refine List.map_congr_left fun spread hmem => ?_
  have hget := Dict.mem_items_iff.mp ((List.mergeSort_perm _ _).mem_iff.mp hmem :
    (spread.1, spread.2) ∈ (totals exposures).spreadLegs.items)
  rw [get?_spreadLegs] at hget
  split at hget
  · cases hget
  · rw [Function.comp_apply, Option.some.inj hget]

theorem mem_keys_spreadLegs {spreadId : Text} :
    spreadId ∈ (totals exposures).spreadLegs.keys ↔ legsOf exposures spreadId ≠ [] := by
  rw [Dict.mem_keys_iff]
  simp only [get?_spreadLegs]
  split <;> simp_all

/-! ### The summary -/

/-- **The summary does not depend on the order.** -/
theorem summaryFields_of_perm (h : exposures.Perm exposures') :
    summaryFields exposures = summaryFields exposures' := by
  have hnet : ∀ dimension, sortedItems ((totals exposures).netMaps dimension)
      = sortedItems ((totals exposures').netMaps dimension) := by
    intro dimension
    rw [netMaps_totals, netMaps_totals]
    exact sortedItems_eq_of_get? (get?_grouped_of_perm h _)
  have hgross : ∀ dimension ≠ Dimension.instrument,
      sortedItems ((totals exposures).grossMaps dimension)
        = sortedItems ((totals exposures').grossMaps dimension) := by
    intro dimension hne
    rw [grossMaps_totals hne, grossMaps_totals hne]
    exact sortedItems_eq_of_get? (get?_grouped_of_perm h _)
  have hrollover : sortedItems (totals exposures).rolloverByAccount
      = sortedItems (totals exposures').rolloverByAccount := by
    rw [rolloverByAccount_totals, rolloverByAccount_totals]
    exact sortedItems_eq_of_get? (get?_grouped_of_perm h _)
  have hsums : ∀ value : Exposure → ℚ, (exposures.map value).sum = (exposures'.map value).sum :=
    fun value => (h.map value).sum_eq
  have hlegs : ∀ spreadId, (legsOf exposures spreadId).Perm (legsOf exposures' spreadId) :=
    fun spreadId => h.filter _
  have hkeys : (totals exposures).spreadLegs.keys.mergeSort Text.le
      = (totals exposures').spreadLegs.keys.mergeSort Text.le := by
    refine mergeSort_eq_of_mem_iff (fun _ _ _ => Text.le_trans)
      (fun a b => (Bool.or_eq_true _ _).mpr (Text.le_total a b)) (fun _ _ => Text.le_antisymm)
      (totals exposures).spreadLegs.nodup (totals exposures').spreadLegs.nodup fun spreadId => ?_
    rw [mem_keys_spreadLegs, mem_keys_spreadLegs, Ne, eq_nil_iff_of_perm (hlegs spreadId)]
  have hspreads : ((totals exposures).spreadLegs.items.mergeSort fun a b => Text.le a.1 b.1).map
        spreadSummary
      = ((totals exposures').spreadLegs.items.mergeSort fun a b => Text.le a.1 b.1).map
        spreadSummary := by
    rw [spreads_eq, spreads_eq, hkeys]
    exact List.map_congr_left fun spreadId _ => spreadSummary_of_perm (hlegs spreadId) spreadId
  have hlong : (totals exposures).longGross = (totals exposures').longGross := by
    rw [longGross_eq, longGross_eq, hsums, hsums]
  have hshort : (totals exposures).shortGross = (totals exposures').shortGross := by
    rw [shortGross_eq, shortGross_eq, hsums, hsums]
  simp only [summaryFields, hnet, hgross _ (by decide : Dimension.account ≠ .instrument),
    hgross _ (by decide : Dimension.strategy ≠ .instrument),
    hgross _ (by decide : Dimension.sector ≠ .instrument),
    hgross _ (by decide : Dimension.maturity ≠ .instrument),
    hgross _ (by decide : Dimension.cluster ≠ .instrument), hrollover, hsums, hspreads, hlong, hshort]

/-- **The summary reconciles.** -/
theorem postInit_summaryFields (exposures : List Exposure) :
    ExposureSummaryFields.postInit (summaryFields exposures) = .ok () := by
  obtain ⟨hnet, -⟩ := directions_totals exposures
  have htotal : ∀ dimension, ((sortedItems ((totals exposures).netMaps dimension)).map Prod.snd).sum
      = (exposures.map fun item => item.fields.notional).sum := by
    intro dimension
    rw [sum_sortedItems, netMaps_totals, sum_values_grouped]
  have hrollover : ((sortedItems (totals exposures).rolloverByAccount).map Prod.snd).sum
      = (exposures.map fun item => item.fields.rolloverCost).sum := by
    rw [sum_sortedItems, rolloverByAccount_totals, sum_values_grouped]
  unfold ExposureSummaryFields.postInit summaryFields
  dsimp only
  rw [require_of_pos (htotal .account), Py.ok_bind, require_of_pos (htotal .strategy), Py.ok_bind,
    require_of_pos ⟨hnet, rfl⟩, Py.ok_bind, require_of_pos hrollover]

/-- The net items of a grouping. -/
def netItems (s : ExposureSummaryFields) : Dimension → List (Text × ℚ)
  | .account => s.byAccount
  | .strategy => s.byStrategy
  | .instrument => s.byInstrument
  | .sector => s.netBySector
  | .maturity => s.netByMaturity
  | .cluster => s.netByCorrelationCluster

/-- The gross items of a grouping. -/
def grossItems (s : ExposureSummaryFields) : Dimension → List (Text × ℚ)
  | .account => s.grossByAccount
  | .strategy => s.grossByStrategy
  | .instrument => []
  | .sector => s.grossBySector
  | .maturity => s.grossByMaturity
  | .cluster => s.grossByCorrelationCluster

theorem netItems_summaryFields : netItems (summaryFields exposures) dimension
    = sortedItems (grouped dimension (fun item => item.fields.notional) exposures) := by
  rw [← netMaps_totals]
  cases dimension <;> rfl

theorem grossItems_summaryFields (h : dimension ≠ .instrument) :
    grossItems (summaryFields exposures) dimension
      = sortedItems (grouped dimension (fun item => |item.fields.notional|) exposures) := by
  rw [← grossMaps_totals h]
  cases dimension
  case instrument => exact absurd rfl h
  all_goals rfl

theorem mem_sortedItems_grouped {value : Exposure → ℚ} {amount : ℚ} :
    (group, amount) ∈ sortedItems (grouped dimension value exposures)
      ↔ groupItems exposures dimension group ≠ []
        ∧ amount = groupSum exposures dimension group value := by
  rw [sortedItems, (List.mergeSort_perm _ _).mem_iff, Dict.mem_items_iff, get?_grouped]
  split
  · rename_i hnil
    simp [hnil]
  · rename_i hnil
    simp [hnil, eq_comm]

/-- Netting only ever lowers. -/
theorem abs_sum_le (items : List Exposure) :
    |(items.map fun item => item.fields.notional).sum|
      ≤ (items.map fun item => |item.fields.notional|).sum := by
  induction items with
  | nil => simp
  | cons item items ih =>
    rw [List.map_cons, List.map_cons, List.sum_cons, List.sum_cons]
    have htri := abs_add_le item.fields.notional (items.map fun item => item.fields.notional).sum
    linarith

/-- In every bucket of a summary the net amount is at most the gross amount. -/
structure IsNetted (exposures : List Exposure) (s : ExposureSummaryFields) : Prop where
  bucket : ∀ dimension group net, (group, net) ∈ netItems s dimension →
    |net| ≤ groupSum exposures dimension group fun item => |item.fields.notional|
  /-- the gross amount of the bucket is in the summary -/
  grossBucket : ∀ dimension ≠ Dimension.instrument, ∀ group net, (group, net) ∈ netItems s dimension →
    ∃ gross, (group, gross) ∈ grossItems s dimension ∧ |net| ≤ gross
  spread : ∀ spread ∈ s.spreads, |spread.net| ≤ spread.gross
  total : |s.total| ≤ s.gross

theorem isNetted_summaryFields (exposures : List Exposure) :
    IsNetted exposures (summaryFields exposures) := by
  have hbucket : ∀ dimension group net, (group, net) ∈ netItems (summaryFields exposures) dimension →
      groupItems exposures dimension group ≠ []
        ∧ |net| ≤ groupSum exposures dimension group fun item => |item.fields.notional| := by
    intro dimension group net hmem
    rw [netItems_summaryFields, mem_sortedItems_grouped] at hmem
    obtain ⟨hne, rfl⟩ := hmem
    exact ⟨hne, abs_sum_le _⟩
  refine ⟨fun dimension group net hmem => (hbucket dimension group net hmem).2,
    fun dimension hdimension group net hmem => ?_, fun spread hmem => ?_, ?_⟩
  · refine ⟨_, ?_, (hbucket dimension group net hmem).2⟩
    rw [grossItems_summaryFields hdimension, mem_sortedItems_grouped]
    exact ⟨(hbucket dimension group net hmem).1, rfl⟩
  · obtain ⟨legs, -, rfl⟩ := List.mem_map.mp hmem
    exact abs_sum_le legs.2
  · have hgross := (directions_totals exposures).2
    show |(exposures.map fun item => item.fields.notional).sum|
      ≤ (totals exposures).longGross + (totals exposures).shortGross
    rw [hgross]
    exact abs_sum_le exposures

/-! ### Limits -/

/-- The gross of a portfolio. -/
def portfolioGross (exposures : List Exposure) : ℚ :=
  (exposures.map fun item => |item.fields.notional|).sum

/-- A group is above a limit. -/
def GroupAbove (exposures : List Exposure) (dimension : Dimension) (limit : Option ℚ) : Prop :=
  ∃ limit' ∈ limit, ∃ group,
    limit' < groupSum exposures dimension group fun item => |item.fields.notional|

/-- A portfolio exceeds one of the limits. -/
def LimitExceeded (exposures : List Exposure) (limits : PortfolioLimitsFields) : Prop :=
  (∃ limit ∈ limits.gross, limit < portfolioGross exposures)
    ∨ (∃ limit ∈ limits.absoluteNet,
        limit < |(exposures.map fun item => item.fields.notional).sum|)
    ∨ GroupAbove exposures .account limits.accountGross
    ∨ GroupAbove exposures .strategy limits.strategyGross
    ∨ GroupAbove exposures .sector limits.sectorGross
    ∨ GroupAbove exposures .maturity limits.maturityGross
    ∨ GroupAbove exposures .cluster limits.clusterGross
    ∨ (∃ limit ∈ limits.clusterConcentration, ∃ group, limit * portfolioGross exposures
        < groupSum exposures .cluster group fun item => |item.fields.notional|)
    ∨ ∃ limit ∈ limits.rolloverCost,
        limit < (exposures.map fun item => item.fields.rolloverCost).sum

/-- Some group has a net amount above the concentration limit. -/
def ConcentrationExceeded (exposures : List Exposure) (concentrationLimit : Option ℚ) : Prop :=
  ∃ limit ∈ concentrationLimit, ∃ dimension group,
    limit < |groupSum exposures dimension group fun item => item.fields.notional|

variable {limit : Option ℚ}

theorem pos_of_checkOptionalLimit (h : checkOptionalLimit limit = .ok ()) :
    ∀ limit' ∈ limit, 0 < limit' := by
  intro limit' hmem
  obtain ⟨hnonneg, hne⟩ := check_bind_eq_ok.mp (whenSome_eq_ok.mp h limit' hmem)
  exact lt_of_le_of_ne (require_eq_ok.mp hnonneg) (Ne.symm (require_eq_ok.mp hne))

theorem exceeds_iff (dimension : Dimension) (hdimension : dimension ≠ .instrument) (hpos : ∀ limit' ∈ limit, 0 < limit') :
    Exceeds (grossItems (summaryFields exposures) dimension) limit
      ↔ GroupAbove exposures dimension limit := by
  rw [grossItems_summaryFields hdimension]
  constructor
  · rintro ⟨limit', hlimit, ⟨group, gross⟩, hmem, hlt⟩
    rw [mem_sortedItems_grouped] at hmem
    exact ⟨limit', hlimit, group, hmem.2 ▸ hlt⟩
  · rintro ⟨limit', hlimit, group, hlt⟩
    refine ⟨limit', hlimit, (group, _), mem_sortedItems_grouped.mpr ⟨fun hnil => ?_, rfl⟩, hlt⟩
    rw [groupSum, hnil] at hlt
    exact absurd hlt (not_lt.mpr (hpos limit' hlimit).le)

theorem gross_summaryFields : (summaryFields exposures).gross = portfolioGross exposures :=
  (directions_totals exposures).2

theorem portfolioGross_nonneg : 0 ≤ portfolioGross exposures :=
  List.sum_nonneg fun amount hmem => by
    obtain ⟨item, -, rfl⟩ := List.mem_map.mp hmem
    exact abs_nonneg _

theorem groupSum_le_portfolioGross :
    (groupSum exposures dimension group fun item => |item.fields.notional|)
      ≤ portfolioGross exposures := by
  refine (List.filter_sublist.map _).sum_le_sum fun amount hmem => ?_
  obtain ⟨item, -, rfl⟩ := List.mem_map.mp hmem
  exact abs_nonneg _

theorem concentration_iff (hpos : ∀ limit' ∈ limit, 0 < limit') :
    Exceeds (clusterShares (summaryFields exposures)) limit
      ↔ ∃ limit' ∈ limit, ∃ group, limit' * portfolioGross exposures
          < groupSum exposures .cluster group fun item => |item.fields.notional| := by
  have hitems : ∀ group gross, (group, gross) ∈ (summaryFields exposures).grossByCorrelationCluster
      ↔ groupItems exposures .cluster group ≠ []
        ∧ gross = groupSum exposures .cluster group fun item => |item.fields.notional| := by
    intro group gross
    rw [← mem_sortedItems_grouped, ← grossItems_summaryFields (by decide)]
    exact Iff.rfl
  rw [clusterShares, gross_summaryFields]
  constructor
  · rintro ⟨limit', hlimit, share, hmem, hlt⟩
    split at hmem
    · rename_i hgross
      obtain ⟨⟨group, gross⟩, hitem, rfl⟩ := List.mem_map.mp hmem
      rw [hitems] at hitem
      exact ⟨limit', hlimit, group, hitem.2 ▸ (lt_div_iff₀ hgross).mp hlt⟩
    · cases hmem
  · rintro ⟨limit', hlimit, group, hlt⟩
    -- a group that is above its part of the gross has exposures, and so has the portfolio
    have hgroup : 0 < groupSum exposures .cluster group fun item => |item.fields.notional| :=
      lt_of_le_of_lt (mul_nonneg (hpos limit' hlimit).le portfolioGross_nonneg) hlt
    have hgross : 0 < portfolioGross exposures := lt_of_lt_of_le hgroup groupSum_le_portfolioGross
    have hne : groupItems exposures .cluster group ≠ [] := by
      intro hnil
      rw [groupSum, hnil] at hgroup
      exact absurd hgroup (lt_irrefl 0)
    rw [if_pos hgross]
    exact ⟨limit', hlimit, _, List.mem_map.mpr ⟨(group, _), (hitems _ _).mpr ⟨hne, rfl⟩, rfl⟩,
      (lt_div_iff₀ hgross).mpr hlt⟩

/-- The texts of the limit errors. -/
def limitCodes : List Text := [
  "CONCENTRATION_LIMIT", "PORTFOLIO_GROSS_LIMIT", "PORTFOLIO_NET_LIMIT", "ACCOUNT_GROSS_LIMIT",
  "STRATEGY_GROSS_LIMIT", "SECTOR_GROSS_LIMIT", "MATURITY_GROSS_LIMIT",
  "CORRELATION_CLUSTER_LIMIT", "CORRELATION_CONCENTRATION_LIMIT", "ROLLOVER_COST_LIMIT"]

/-- The call raises a limit error. -/
def RaisesLimit {α : Type} (x : Py α) : Prop := ∃ code ∈ limitCodes, x = .error (valueError code)

/-- `_enforce_limits` answers in one of two ways. -/
theorem enforceLimits_eq (s : ExposureSummaryFields) (limits : PortfolioLimitsFields) :
    ((∃ check ∈ limitChecks s limits, check.1 = true) ∧ RaisesLimit (enforceLimits s limits))
      ∨ (¬ (∃ check ∈ limitChecks s limits, check.1 = true) ∧ enforceLimits s limits = .ok ()) := by
  have hcodes : ∀ check ∈ limitChecks s limits, check.2 ∈ limitCodes := by
    simp [limitChecks, limitCodes]
  rw [enforceLimits]
  split
  · rename_i failed reason hfind
    have hmem := List.mem_of_find?_eq_some hfind
    exact .inl ⟨⟨_, hmem, List.find?_some hfind⟩, reason, hcodes _ hmem, rfl⟩
  · rename_i hfind
    refine .inr ⟨?_, rfl⟩
    rintro ⟨check, hmem, hfailed⟩
    exact List.find?_eq_none.mp hfind check hmem hfailed

theorem exists_failed_iff (limits : PortfolioLimits) :
    (∃ check ∈ limitChecks (summaryFields exposures) limits.fields, check.1 = true)
      ↔ LimitExceeded exposures limits.fields := by
  obtain ⟨-, hvalid⟩ := check_bind_eq_ok.mp limits.valid
  obtain ⟨-, hvalid⟩ := check_bind_eq_ok.mp hvalid
  obtain ⟨haccount, hvalid⟩ := check_bind_eq_ok.mp hvalid
  obtain ⟨hstrategy, hvalid⟩ := check_bind_eq_ok.mp hvalid
  obtain ⟨hsector, hvalid⟩ := check_bind_eq_ok.mp hvalid
  obtain ⟨hmaturity, hvalid⟩ := check_bind_eq_ok.mp hvalid
  obtain ⟨hcluster, hvalid⟩ := check_bind_eq_ok.mp hvalid
  obtain ⟨-, hconcentration⟩ := check_bind_eq_ok.mp hvalid
  have hshare : ∀ limit ∈ limits.fields.clusterConcentration, 0 < limit := fun limit hmem =>
    (require_eq_ok.mp (check_bind_eq_ok.mp (whenSome_eq_ok.mp hconcentration limit hmem)).2).1
  simp only [limitChecks, List.exists_mem_cons_iff, List.not_mem_nil, false_and, exists_false,
    or_false, decide_eq_true_eq]
  rw [gross_summaryFields]
  exact or_congr Iff.rfl (or_congr Iff.rfl
    (or_congr (exceeds_iff .account (by decide) (pos_of_checkOptionalLimit haccount))
    (or_congr (exceeds_iff .strategy (by decide) (pos_of_checkOptionalLimit hstrategy))
    (or_congr (exceeds_iff .sector (by decide) (pos_of_checkOptionalLimit hsector))
    (or_congr (exceeds_iff .maturity (by decide) (pos_of_checkOptionalLimit hmaturity))
    (or_congr (exceeds_iff .cluster (by decide) (pos_of_checkOptionalLimit hcluster))
    (or_congr (concentration_iff hshare) Iff.rfl)))))))

/-- The largest net amounts, by what lookup finds. -/
theorem forall_values_iff {limit : ℚ} (h : 0 < limit) :
    (∀ dimension ∈ Dimension.all, ∀ value ∈ ((totals exposures).netMaps dimension).values,
        |value| ≤ limit)
      ↔ ¬ ConcentrationExceeded exposures (some limit) := by
  have hall : ∀ dimension, dimension ∈ Dimension.all := by
    intro dimension
    cases dimension <;> decide
  constructor
  · rintro hvalues ⟨_, ⟨⟩, dimension, group, hlt⟩
    by_cases hnil : groupItems exposures dimension group = []
    · rw [groupSum, hnil] at hlt
      exact absurd hlt (not_lt.mpr (by simpa using h.le))
    · refine absurd hlt (not_lt.mpr (hvalues dimension (hall dimension) _ ?_))
      rw [Dict.mem_values_iff]
      exact ⟨group, by rw [netMaps_totals, get?_grouped, if_neg hnil]⟩
  · intro hnot dimension _ value hmem
    obtain ⟨group, hget⟩ := Dict.mem_values_iff.mp hmem
    rw [netMaps_totals, get?_grouped] at hget
    split at hget
    · cases hget
    · obtain rfl := Option.some.inj hget
      exact not_lt.mp fun hlt => hnot ⟨limit, rfl, dimension, group, hlt⟩

theorem checkConcentration_eq (exposures : List Exposure) (concentrationLimit : Option ℚ) :
    (∃ e, checkConcentration (totals exposures) concentrationLimit = .error e
        ∧ (∃ limit ∈ concentrationLimit, limit ≤ 0) ∧ ∀ code ∈ limitCodes, e ≠ valueError code)
      ∨ (checkConcentration (totals exposures) concentrationLimit
            = .error (valueError "CONCENTRATION_LIMIT")
          ∧ (∀ limit ∈ concentrationLimit, 0 < limit)
          ∧ ConcentrationExceeded exposures concentrationLimit)
      ∨ (checkConcentration (totals exposures) concentrationLimit = .ok ()
          ∧ (∀ limit ∈ concentrationLimit, 0 < limit)
          ∧ ¬ ConcentrationExceeded exposures concentrationLimit) := by
  rcases concentrationLimit with _ | limit
  · exact .inr (.inr ⟨rfl, by rintro limit ⟨⟩, by rintro ⟨limit, ⟨⟩, -⟩⟩)
  rw [checkConcentration, whenSome, checkFiniteNonNegative]
  rcases lt_trichotomy limit 0 with hneg | rfl | hpos
  · refine .inl ⟨_, by rw [require_of_neg (not_le.mpr hneg), Py.error_bind],
      ⟨limit, rfl, hneg.le⟩, by decide⟩
  · refine .inl ⟨_, by rw [require_of_pos le_rfl, Py.ok_bind, require_of_neg (by simp),
      Py.error_bind], ⟨0, rfl, le_rfl⟩, by decide⟩
  · have hlimit : ∀ limit' ∈ some limit, 0 < limit' := by
      rintro _ ⟨⟩
      exact hpos
    rw [require_of_pos hpos.le, Py.ok_bind, require_of_pos hpos.ne', Py.ok_bind]
    by_cases hexceeded : ConcentrationExceeded exposures (some limit)
    · rw [require_of_neg (mt (forall_values_iff hpos).mp (not_not_intro hexceeded))]
      exact .inr (.inl ⟨rfl, hlimit, hexceeded⟩)
    · rw [require_of_pos ((forall_values_iff hpos).mpr hexceeded)]
      exact .inr (.inr ⟨rfl, hlimit, hexceeded⟩)

/-! ### The answer -/

/-- Some limit that was given is exceeded.  A concentration limit that is not positive is refused
before anything is compared with it. -/
def SomeLimitExceeded (exposures : List Exposure) (concentrationLimit : Option ℚ)
    (limits : Option PortfolioLimits) : Prop :=
  (∀ limit ∈ concentrationLimit, 0 < limit)
    ∧ (ConcentrationExceeded exposures concentrationLimit
      ∨ ∃ limits' ∈ limits, LimitExceeded exposures limits'.fields)

theorem raisesLimit_aggregate_iff (exposures : List Exposure) (concentrationLimit : Option ℚ)
    (limits : Option PortfolioLimits) :
    (RaisesLimit (aggregate exposures concentrationLimit limits)
        ↔ SomeLimitExceeded exposures concentrationLimit limits)
      ∧ ((∀ limit ∈ concentrationLimit, 0 < limit) →
          ¬ SomeLimitExceeded exposures concentrationLimit limits →
          aggregate exposures concentrationLimit limits
            = .ok ⟨summaryFields exposures, postInit_summaryFields exposures⟩) := by
  rw [aggregate, Frozen.make_of_valid (postInit_summaryFields exposures), Py.ok_bind]
  rcases checkConcentration_eq exposures concentrationLimit with
    ⟨e, heq, ⟨limit, hmem, hle⟩, hne⟩ | ⟨heq, hpos, hexceeded⟩ | ⟨heq, hpos, hexceeded⟩
  · rw [heq, Py.error_bind]
    refine ⟨⟨fun ⟨code, hcode, hraise⟩ => absurd (Except.error.inj hraise) (hne code hcode),
      fun h => absurd (h.1 limit hmem) (not_lt.mpr hle)⟩, fun hpos => ?_⟩
    exact absurd (hpos limit hmem) (not_lt.mpr hle)
  · have hsome : SomeLimitExceeded exposures concentrationLimit limits := ⟨hpos, .inl hexceeded⟩
    rw [heq, Py.error_bind]
    exact ⟨⟨fun _ => hsome, fun _ => ⟨_, by decide, rfl⟩⟩, fun _ hnot => absurd hsome hnot⟩
  · rw [heq, Py.ok_bind]
    rcases limits with _ | limits
    · have hnot : ¬ SomeLimitExceeded exposures concentrationLimit none := by
        rintro ⟨-, h | ⟨_, ⟨⟩, -⟩⟩
        exact hexceeded h
      exact ⟨⟨by rintro ⟨code, -, ⟨⟩⟩, fun h => absurd h hnot⟩, fun _ _ => rfl⟩
    · have hiff : SomeLimitExceeded exposures concentrationLimit (some limits)
          ↔ LimitExceeded exposures limits.fields := by
        constructor
        · rintro ⟨-, h | ⟨_, ⟨⟩, h⟩⟩
          · exact absurd h hexceeded
          · exact h
        · exact fun h => ⟨hpos, .inr ⟨limits, rfl, h⟩⟩
      rw [hiff, ← exists_failed_iff, whenSome]
      rcases enforceLimits_eq (summaryFields exposures) limits.fields with
        ⟨hfailed, code, hcode, hraise⟩ | ⟨hfailed, hok⟩
      · rw [hraise, Py.error_bind]
        exact ⟨⟨fun _ => hfailed, fun _ => ⟨code, hcode, rfl⟩⟩, fun _ hnot => absurd hfailed hnot⟩
      · rw [hok, Py.ok_bind]
        exact ⟨⟨by rintro ⟨code, -, ⟨⟩⟩, fun h => absurd h hfailed⟩, fun _ _ => rfl⟩

theorem concentrationExceeded_of_perm (h : exposures.Perm exposures') :
    ConcentrationExceeded exposures limit ↔ ConcentrationExceeded exposures' limit := by
  have hsum : ∀ dimension group, groupSum exposures dimension group (fun item => item.fields.notional)
      = groupSum exposures' dimension group fun item => item.fields.notional :=
    fun dimension group => ((h.filter _).map _).sum_eq
  simp only [ConcentrationExceeded, hsum]

theorem checkConcentration_of_perm (h : exposures.Perm exposures') (limit : Option ℚ) :
    checkConcentration (totals exposures) limit = checkConcentration (totals exposures') limit := by
  rcases limit with _ | limit
  · rfl
  rw [checkConcentration, checkConcentration, whenSome, whenSome, checkFiniteNonNegative]
  rcases lt_trichotomy limit 0 with hneg | rfl | hpos
  · rw [require_of_neg (not_le.mpr hneg)]
    rfl
  · rw [require_of_pos le_rfl, Py.ok_bind, require_of_neg (by simp)]
    rfl
  · have hbefore : _ ↔ ¬ ConcentrationExceeded exposures (some limit) := forall_values_iff hpos
    have hvalues := hbefore.trans
      ((not_congr (concentrationExceeded_of_perm h)).trans (forall_values_iff hpos).symm)
    simp only [hvalues]

/-- **Aggregation.**  The answer does not depend on the order of the exposures; the constructor of
the summary accepts the sums; in every bucket the net amount is at most the gross amount; and a
limit error is raised exactly when some limit is exceeded, the summary being returned otherwise. -/
theorem aggregate_spec (exposures : List Exposure) (concentrationLimit : Option ℚ)
    (limits : Option PortfolioLimits) :
    (∀ exposures', exposures.Perm exposures' →
        aggregate exposures concentrationLimit limits
          = aggregate exposures' concentrationLimit limits)
      ∧ (∃ summary, Frozen.make (summaryFields exposures) = .ok summary)
      ∧ IsNetted exposures (summaryFields exposures)
      ∧ (∀ summary, aggregate exposures concentrationLimit limits = .ok summary →
          summary.fields = summaryFields exposures)
      ∧ (RaisesLimit (aggregate exposures concentrationLimit limits)
          ↔ SomeLimitExceeded exposures concentrationLimit limits)
      ∧ ((∀ limit ∈ concentrationLimit, 0 < limit) →
          ¬ SomeLimitExceeded exposures concentrationLimit limits →
          ∃ summary, aggregate exposures concentrationLimit limits = .ok summary) := by
  obtain ⟨hraises, hreturns⟩ := raisesLimit_aggregate_iff exposures concentrationLimit limits
  refine ⟨fun exposures' hperm => ?_, Frozen.exists_make_iff.mpr (postInit_summaryFields exposures),
    isNetted_summaryFields exposures, fun summary h => ?_, hraises,
    fun hpos hnot => ⟨_, hreturns hpos hnot⟩⟩
  · rw [aggregate, aggregate, summaryFields_of_perm hperm, checkConcentration_of_perm hperm]
  · obtain ⟨summary', hmake, h⟩ := Py.of_bind h
    obtain ⟨-, -, h⟩ := Py.of_bind h
    obtain ⟨-, -, h⟩ := Py.of_bind h
    obtain rfl := Except.ok.inj h
    exact Frozen.make_eq_ok.mp hmake

end

end ExposureAggregation

end FuturesAgentOs
