import BrainV2.Analytics.Facts
import BrainV2.Analytics.Headline
import BrainV2.LivePlane.Numbers

/-!
# Contribution margins of the live plane

* `CostRow`, `resolveCosts`: the saved costs, and what they come to for a net and a count;
* `getKpiSummary`, `getPnlStatement`, `getCmWaterfall`: the three surfaces of a range;
* `Margins`, `Shows`: the margins that they show together.
-/

namespace BrainV2.LivePlane

open Analytics (CogsSettings Facts PgError readCogs readPnl readStoreSummary)
open Binary64 (Double ofInt)
open Js (bigIntOfNumber)
open Py (Date)
open Sql (FactDateRange)

/-! ### Costs -/

inductive CostType where
  | shipping
  | packaging
  | website
  | custom
deriving DecidableEq

def CostType.text : CostType → String
  | .shipping => "SHIPPING"
  | .packaging => "PACKAGING"
  | .website => "WEBSITE"
  | .custom => "CUSTOM"

inductive BillingMode where
  | monthly
  | perOrder
deriving DecidableEq

/-- A row of `listCosts`, which selects all of the workspace. -/
structure CostRow where
  costType : CostType
  name : Option String
  amountMu : Int64
  isPercent : Bool
  currencyCode : Option String
  billingMode : BillingMode
  effectiveFrom : Date
  effectiveTo : Option Date
deriving DecidableEq

inductive CostKind where
  | percent
  | fixedMonthly
  | perOrder
deriving DecidableEq

structure CostStackRow where
  costType : CostType
  name : String
  kind : CostKind
  amountMu : Int
  amountBp : Double
  effectiveFrom : Date
  currencyCode : String

structure ResolvedCosts where
  costRows : List CostStackRow
  variableMu : Int
  miscMu : Int
  totalFixedMonthlyMu : Int
  totalPerOrderMu : Int

def CostRow.kind (c : CostRow) : CostKind :=
  if c.isPercent then .percent
  else match c.billingMode with
    | .monthly => .fixedMonthly
    | .perOrder => .perOrder

def CostRow.stackRow (c : CostRow) : CostStackRow where
  costType := c.costType
  name := c.name.getD c.costType.text
  kind := c.kind
  amountMu := if c.isPercent then 0 else c.amountMu.toInt
  amountBp := if c.isPercent then ofInt c.amountMu.toInt else ofInt 0
  effectiveFrom := c.effectiveFrom
  currencyCode := c.currencyCode.getD "INR"

/-- `BigInt(r.amount_bp)`, of a number that was a bigint. -/
def CostStackRow.bp (r : CostStackRow) : Int := (bigIntOfNumber r.amountBp).getD 0

/-- `(netSalesMu * BigInt(r.amount_bp)) / 10000n` -/
def CostStackRow.percentMu (netSalesMu : Int) (r : CostStackRow) : Int :=
  (netSalesMu * r.bp).tdiv 10000

def resolveCosts (costs : List CostRow) (netSalesMu : Int) (orderCount : Nat) : ResolvedCosts :=
  let costRows := costs.map CostRow.stackRow
  let totalPerOrderMu := ((costRows.filter (·.kind = .perOrder)).map (·.amountMu)).sum
  let totalFixedMonthlyMu := ((costRows.filter (·.kind = .fixedMonthly)).map (·.amountMu)).sum
  let percentMu := ((costRows.filter (·.kind = .percent)).map (·.percentMu netSalesMu)).sum
  { costRows := costRows
    variableMu := totalPerOrderMu * orderCount + percentMu
    miscMu := totalFixedMonthlyMu
    totalFixedMonthlyMu := totalFixedMonthlyMu
    totalPerOrderMu := totalPerOrderMu }

/-! ### Surfaces -/

/-- What the surfaces read: the facts, and the settings of the workspace. -/
structure PnlState where
  facts : Facts
  cogsSettings : CogsSettings
  costs : List CostRow

structure KpiSummaryRow where
  currencyCode : String
  netRevenueMu : Int
  cm2Mu : Int
  cm3Mu : Int
  rtoRateBp : Option Double
  blendedRoasX100 : Option Double
  totalOrders : Nat
  aovMu : Option Double
  conversionRateBp : Option Double

def getKpiSummary (s : PnlState) (range : Option FactDateRange) : Except PgError KpiSummaryRow := do
  let f := readPnl s.facts range
  let store := readStoreSummary s.facts range
  let cogs ← readCogs s.cogsSettings s.facts range
  let resolved := resolveCosts s.costs f.netRevenueMu f.orderCount
  let cm1 := f.netRevenueMu - cogs.cogsMu - resolved.variableMu
  let cm2 := cm1 - f.totalAdSpendMu
  let cm3 := cm2 - resolved.miscMu
  .ok {
    currencyCode := f.currencyCode
    netRevenueMu := f.netRevenueMu
    cm2Mu := cm2
    cm3Mu := cm3
    rtoRateBp := none
    blendedRoasX100 :=
      if 0 < f.totalAdSpendMu then
        some (ofInt ((f.netRevenueMu * 100).tdiv f.totalAdSpendMu))
      else none
    totalOrders := f.orderCount
    aovMu := store.aovMu.map ofInt
    conversionRateBp := none }

structure PnlStatementRow where
  currencyCode : String
  netRevenueMu : Int
  cogsMu : Int
  variableCostsMu : Int
  cm1Mu : Int
  totalAdSpendMu : Int
  cm2Mu : Int
  miscExpensesProratedMu : Int
  cm3Mu : Int
  trueCm2Mu : Option Int
  orderCount : Nat

def getPnlStatement (s : PnlState) (range : Option FactDateRange) :
    Except PgError PnlStatementRow := do
  let f := readPnl s.facts range
  let netRevenue := f.netRevenueMu
  let cogs ← readCogs s.cogsSettings s.facts range
  let resolved := resolveCosts s.costs netRevenue f.orderCount
  let cm1 := netRevenue - cogs.cogsMu - resolved.variableMu
  let cm2 := cm1 - f.totalAdSpendMu
  let cm3 := cm2 - resolved.miscMu
  .ok {
    currencyCode := f.currencyCode
    netRevenueMu := netRevenue
    cogsMu := cogs.cogsMu
    variableCostsMu := resolved.variableMu
    cm1Mu := cm1
    totalAdSpendMu := f.totalAdSpendMu
    cm2Mu := cm2
    miscExpensesProratedMu := resolved.miscMu
    cm3Mu := cm3
    trueCm2Mu := if 0 < f.orderCount then some cm2 else none
    orderCount := f.orderCount }

structure PnlWaterfallRow where
  definitionId : String
  label : String
  valueMu : Int
  cumulativeMu : Int
  currencyCode : String

def getCmWaterfall (s : PnlState) (range : Option FactDateRange) :
    Except PgError (List PnlWaterfallRow) := do
  let f := readPnl s.facts range
  let head := f.netRevenueMu
  let cogs ← readCogs s.cogsSettings s.facts range
  let resolved := resolveCosts s.costs head f.orderCount
  let cm1 := head - cogs.cogsMu - resolved.variableMu
  let cm2 := cm1 - f.totalAdSpendMu
  let cm3 := cm2 - resolved.miscMu
  let c := f.currencyCode
  .ok [
    ⟨"net_revenue_mu", "Realized Revenue", head, head, c⟩,
    ⟨"cogs_mu", "COGS", -cogs.cogsMu, head - cogs.cogsMu, c⟩,
    ⟨"variable_costs_mu", "Variable Costs", -resolved.variableMu, cm1, c⟩,
    ⟨"cm1_mu", "CM1 (Gross Contribution)", cm1, cm1, c⟩,
    ⟨"total_ad_spend_mu", "Ad Spend", -f.totalAdSpendMu, cm2, c⟩,
    ⟨"cm2_mu", "CM2 (After Ads)", cm2, cm2, c⟩,
    ⟨"misc_expenses_prorated_mu", "Misc / Overhead", -resolved.miscMu, cm3, c⟩,
    ⟨"cm3_mu", "CM3 (After Overhead)", cm3, cm3, c⟩]

/-! ### The margins of all three -/

structure Margins where
  cm1 : Int
  cm2 : Int
  cm3 : Int
deriving DecidableEq

/-- The value of a step. -/
def stepValue (steps : List PnlWaterfallRow) (definitionId : String) : Option Int :=
  (steps.find? (·.definitionId = definitionId)).map (·.valueMu)

/-- The surfaces answer, and show these margins. -/
structure Shows (s : PnlState) (range : Option FactDateRange) (m : Margins) : Prop where
  kpi : ∃ k, getKpiSummary s range = .ok k ∧ k.cm2Mu = m.cm2 ∧ k.cm3Mu = m.cm3
  statement : ∃ p, getPnlStatement s range = .ok p ∧ p.cm1Mu = m.cm1 ∧ p.cm2Mu = m.cm2 ∧
    p.cm3Mu = m.cm3
  waterfall : ∃ steps, getCmWaterfall s range = .ok steps ∧
    stepValue steps "cm1_mu" = some m.cm1 ∧ stepValue steps "cm2_mu" = some m.cm2 ∧
    stepValue steps "cm3_mu" = some m.cm3

/-- What the surfaces compute their margins from. -/
def marginsOf (s : PnlState) (range : Option FactDateRange) (cogsMu : Int) : Margins :=
  let f := readPnl s.facts range
  let resolved := resolveCosts s.costs f.netRevenueMu f.orderCount
  let cm1 := f.netRevenueMu - cogsMu - resolved.variableMu
  { cm1 := cm1
    cm2 := cm1 - f.totalAdSpendMu
    cm3 := cm1 - f.totalAdSpendMu - resolved.miscMu }

/-- The three surfaces agree: they show the margins of the cost of goods that is read. -/
theorem shows_iff {s : PnlState} {range : Option FactDateRange} {m : Margins} :
    Shows s range m ↔ ∃ cogs, readCogs s.cogsSettings s.facts range = .ok cogs ∧
      m = marginsOf s range cogs.cogsMu := by
  constructor
  · rintro ⟨-, ⟨p, hp, hcm1, hcm2, hcm3⟩, -⟩
    unfold getPnlStatement at hp
    cases hCogs : readCogs s.cogsSettings s.facts range with
    | error => rw [hCogs] at hp; cases hp
    | ok cogs =>
      rw [hCogs] at hp
      cases hp
      exact ⟨cogs, rfl, by cases m; cases hcm1; cases hcm2; cases hcm3; rfl⟩
  · rintro ⟨cogs, hCogs, rfl⟩
    have hKpi : ∃ k, getKpiSummary s range = .ok k ∧
        k.cm2Mu = (marginsOf s range cogs.cogsMu).cm2 ∧
        k.cm3Mu = (marginsOf s range cogs.cogsMu).cm3 := by
      unfold getKpiSummary
      rw [hCogs]
      exact ⟨_, rfl, rfl, rfl⟩
    have hStatement : ∃ p, getPnlStatement s range = .ok p ∧
        p.cm1Mu = (marginsOf s range cogs.cogsMu).cm1 ∧
        p.cm2Mu = (marginsOf s range cogs.cogsMu).cm2 ∧
        p.cm3Mu = (marginsOf s range cogs.cogsMu).cm3 := by
      unfold getPnlStatement
      rw [hCogs]
      exact ⟨_, rfl, rfl, rfl, rfl⟩
    refine ⟨hKpi, hStatement, ?_⟩
    unfold getCmWaterfall
    rw [hCogs]
    exact ⟨_, rfl, rfl, rfl, rfl⟩

end BrainV2.LivePlane
