import BrainV2.Metrics.Servicer

/-!
# The contribution-margin ladders

* `pnlStatement`: the ladder of a period by the formulas of the registry;
* `cmWaterfall`: the same as sixteen signed steps;
* `pnlWaterfall_ok_iff`: when the waterfall of the servicer fits into its message;
* `total_sub_congruent`: a column of differences, wrapped day by day, over a period;
* `ladders_agree`: the three ladders, and the jump at CM1.
-/

namespace BrainV2.Metrics

open Py (PyExc)

/-! ### The statement -/

structure VariableCostFacts where
  shippingMu : Int := 0
  packagingMu : Int := 0
  websiteChargesMu : Int := 0

structure RtoProvisionFacts where
  rtoOrders : Int := 0

structure ShippingRtoFacts where
  shippingOutboundMu : Int := 0
  rtoCostMu : Int := 0
  founderSalaryMu : Int := 0

/-- The formulas of the registry. -/
def variableCostsMu (shippingMu packagingMu websiteChargesMu : Int) : Int :=
  shippingMu + packagingMu + websiteChargesMu

def cm1Mu (netRevenueMu cogsMu variableCostsMu : Int) : Int :=
  netRevenueMu - cogsMu - variableCostsMu

def cm2Mu (cm1Mu totalAdSpendMu : Int) : Int := cm1Mu - totalAdSpendMu

def cm3Mu (cm2Mu miscExpensesProratedMu : Int) : Int := cm2Mu - miscExpensesProratedMu

def trueCm2Mu (cm2Mu rtoOrders totalAdSpendMu variableCostsMu cogsMu totalOrdersCount : Int) :
    Option Int :=
  if totalOrdersCount ≤ 0 then none
  else
    let costBaseMu := totalAdSpendMu + variableCostsMu + cogsMu
    some (cm2Mu - (rtoOrders * costBaseMu).fdiv totalOrdersCount)

structure PnlStatement where
  workspaceId : String
  grossSalesMu : Int
  returnsMu : Int
  totalDiscountMu : Int
  totalTaxMu : Int
  netRevenueMu : Int
  cogsMu : Int
  variableCostsMu : Int
  cm1Mu : Int
  totalAdSpendMu : Int
  cm2Mu : Int
  miscExpensesProratedMu : Int
  cm3Mu : Int
  trueCm2Mu : Option Int
  orderCount : Int
  currencyCode : String

/-- `sum((r.misc_expenses_prorated_mu or 0) for r in rows)` -/
def miscTotal (rows : List MetricRow) : Int :=
  (rows.map fun r => (r.miscExpensesProratedMu.map Int64.toInt).getD 0).sum

/-- The rows carry no currency, so it is that of India. -/
def statementOf (workspaceId : String) (rows : List MetricRow) (variableCosts : VariableCostFacts)
    (rto : RtoProvisionFacts) : PnlStatement :=
  let variableCostsTotal := variableCostsMu variableCosts.shippingMu variableCosts.packagingMu
    variableCosts.websiteChargesMu
  let orderCount := total (·.totalOrders) rows
  let cm1 := cm1Mu (total (·.netRevenueMu) rows) (total (·.cogsMu) rows) variableCostsTotal
  let cm2 := cm2Mu cm1 (total (·.totalAdSpendMu) rows)
  { workspaceId := workspaceId
    grossSalesMu := total (·.grossSalesMu) rows
    returnsMu := total (·.returnsMu) rows
    totalDiscountMu := total (·.discountsMu) rows
    totalTaxMu := total (·.totalTaxMu) rows
    netRevenueMu := total (·.netRevenueMu) rows
    cogsMu := total (·.cogsMu) rows
    variableCostsMu := variableCostsTotal
    cm1Mu := cm1
    totalAdSpendMu := total (·.totalAdSpendMu) rows
    cm2Mu := cm2
    miscExpensesProratedMu := miscTotal rows
    cm3Mu := cm3Mu cm2 (miscTotal rows)
    trueCm2Mu := if 0 < orderCount then trueCm2Mu cm2 rto.rtoOrders (total (·.totalAdSpendMu) rows)
      variableCostsTotal (total (·.cogsMu) rows) orderCount else none
    orderCount := orderCount
    currencyCode := currencyInr }

def unscopedStatement : PyExc where
  cls := .other "UnscopedQueryError" true
  text := "PnlStatementQuery.execute: workspace_id must not be empty or None. " ++
    "An un-scoped query is a tenancy violation. CF-C4-QUERY-SCOPE-ISOLATION-1."

/-- `PnlStatementQuery.execute` -/
def pnlStatement (answer : Except PyExc (List ComputedRow)) (workspaceId : String)
    (dateRange : DateRange) (variableCosts : VariableCostFacts) (rto : RtoProvisionFacts) :
    Except PyExc PnlStatement :=
  if isBlankText workspaceId then .error unscopedStatement
  else do
    let rows ← runQuery answer workspaceId dateRange
    .ok (statementOf workspaceId rows variableCosts rto)

/-! ### The waterfall -/

structure WaterfallStep where
  definitionId : String
  label : String
  valueMu : Int
  cumulativeMu : Int
  currencyCode : String
deriving DecidableEq

/-- The steps of a statement; CM1, CM2 and CM3 are those of the statement. -/
def waterfallSteps (s : PnlStatement) (shippingRto : ShippingRtoFacts) : List WaterfallStep :=
  let afterDiscounts := s.grossSalesMu - s.totalDiscountMu
  let afterReturns := afterDiscounts - s.returnsMu
  let afterTax := afterReturns - s.totalTaxMu
  let grossRevenueAfterDeductions := afterTax - shippingRto.shippingOutboundMu
  let afterCogs := grossRevenueAfterDeductions - s.cogsMu
  let afterVariableCosts := afterCogs - s.variableCostsMu
  let afterRto := afterVariableCosts - shippingRto.rtoCostMu
  let netProfit := s.cm3Mu - shippingRto.founderSalaryMu
  let cc := s.currencyCode
  [⟨"gross_sales_mu", "Gross Sales", s.grossSalesMu, s.grossSalesMu, cc⟩,
    ⟨"total_discount_mu", "Discounts", -s.totalDiscountMu, afterDiscounts, cc⟩,
    ⟨"returns_mu", "Refunds", -s.returnsMu, afterReturns, cc⟩,
    ⟨"total_tax_mu", "Tax", -s.totalTaxMu, afterTax, cc⟩,
    ⟨"shipping_outbound_mu", "Shipping", -shippingRto.shippingOutboundMu,
      grossRevenueAfterDeductions, cc⟩,
    ⟨"gross_revenue_after_deductions_mu", "Revenue After Tax & Shipping",
      grossRevenueAfterDeductions, grossRevenueAfterDeductions, cc⟩,
    ⟨"cogs_mu", "COGS", -s.cogsMu, afterCogs, cc⟩,
    ⟨"variable_costs_mu", "Variable Costs", -s.variableCostsMu, afterVariableCosts, cc⟩,
    ⟨"rto_cost_mu", "RTO Cost", -shippingRto.rtoCostMu, afterRto, cc⟩,
    ⟨"cm1_mu", "CM1", s.cm1Mu, s.cm1Mu, cc⟩,
    ⟨"total_ad_spend_mu", "Ad Spend", -s.totalAdSpendMu, s.cm1Mu - s.totalAdSpendMu, cc⟩,
    ⟨"cm2_mu", "CM2", s.cm2Mu, s.cm2Mu, cc⟩,
    ⟨"misc_expenses_prorated_mu", "Fixed Cost", -s.miscExpensesProratedMu,
      s.cm2Mu - s.miscExpensesProratedMu, cc⟩,
    ⟨"cm3_mu", "CM3", s.cm3Mu, s.cm3Mu, cc⟩,
    ⟨"founder_salary_mu", "Founder's Salary", -shippingRto.founderSalaryMu, netProfit, cc⟩,
    ⟨"net_profit_mu", "Net Profit", netProfit, netProfit, cc⟩]

/-- `CmWaterfallQuery.execute` -/
def cmWaterfall (answer : Except PyExc (List ComputedRow)) (workspaceId : String)
    (dateRange : DateRange) (variableCosts : VariableCostFacts) (rto : RtoProvisionFacts)
    (shippingRto : Option ShippingRtoFacts) : Except PyExc (List WaterfallStep) := do
  let s ← pnlStatement answer workspaceId dateRange variableCosts rto
  .ok (waterfallSteps s (shippingRto.getD {}))

/-! ### Rows of the materialized view -/

/-- The row is one that the view makes of a row of the rollup. -/
def RolledUp (row : ComputedRow) : Prop :=
  ∃ (facts : Facts) (params : RollupParams), ∃ base ∈ rollup facts params, row = computedRow base

/-- The ladder of a day, in the arithmetic of ClickHouse. -/
structure DayLadder (row : MetricRow) : Prop where
  returns : row.returnsMu = 0
  netRevenue : row.netRevenueMu =
    row.grossSalesMu - row.discountsMu - row.totalTaxMu + row.shippingRevenueMu
  cm1 : row.cm1Mu = row.netRevenueMu - row.cogsMu
  cm2 : row.cm2Mu = row.cm1Mu - row.totalAdSpendMu
  cm3 : row.cm3Mu = row.cm2Mu - row.miscExpensesProratedMu.getD 0

theorem RolledUp.ladder {row : ComputedRow} (h : RolledUp row) : DayLadder row.toMetricRow := by
  obtain ⟨facts, params, base, hbase, rfl⟩ := h
  rw [rollup_eq] at hbase
  obtain ⟨d, -, rfl⟩ := List.mem_map.mp hbase
  exact ⟨rfl, rfl, rfl, rfl, rfl⟩

/-- A request for rows of the view. -/
structure LadderRequest extends Period where
  rolledUp : ∀ row ∈ read, RolledUp row

namespace LadderRequest

variable (p : LadderRequest)

def statement (variableCosts : VariableCostFacts) (rto : RtoProvisionFacts) : PnlStatement :=
  statementOf p.request.workspaceId p.rows variableCosts rto

theorem pnlStatement_ok (variableCosts : VariableCostFacts) (rto : RtoProvisionFacts) :
    pnlStatement (.ok p.read) p.request.workspaceId p.dateRange variableCosts rto =
      .ok (p.statement variableCosts rto) := by
  rw [pnlStatement, if_neg (by simp [p.nonBlank]), p.runQuery_ok]
  rfl

theorem cmWaterfall_ok (variableCosts : VariableCostFacts) (rto : RtoProvisionFacts)
    (shippingRto : Option ShippingRtoFacts) :
    cmWaterfall (.ok p.read) p.request.workspaceId p.dateRange variableCosts rto shippingRto =
      .ok (waterfallSteps (p.statement variableCosts rto) (shippingRto.getD {})) := by
  rw [cmWaterfall, pnlStatement_ok]
  rfl

theorem dayLadder {row : MetricRow} (h : row ∈ p.rows) : DayLadder row := by
  rw [Period.rows, List.mem_mergeSort, List.mem_filter, List.mem_map] at h
  obtain ⟨⟨computed, hread, rfl⟩, -⟩ := h
  exact (p.rolledUp computed hread).ladder

end LadderRequest

/-! ### What the message holds -/

/-- The values that the steps of the servicer carry. -/
def waterfallValues (rows : List MetricRow) : List Int :=
  let netRevenue := total (·.netRevenueMu) rows
  let cogs := total (·.cogsMu) rows
  let cm1 := total (·.cm1Mu) rows
  let adSpend := total (·.totalAdSpendMu) rows
  let cm2 := total (·.cm2Mu) rows
  [netRevenue, -cogs, netRevenue - cogs, cm1, -adSpend, cm1 - adSpend, cm2, -miscTotal rows,
    cm2 - miscTotal rows, total (·.cm3Mu) rows]

def Holdable (rows : List MetricRow) : Prop := ∀ v ∈ waterfallValues rows, FitsInt64 v

/-- The value of a step. -/
def valueOf (steps : List PnlWaterfallRow) (definitionId : String) : Option Int :=
  (steps.find? (·.definitionId = definitionId)).map (·.valueMu.toInt)

def cmValueOf (steps : List WaterfallStep) (definitionId : String) : Option Int :=
  (steps.find? (·.definitionId = definitionId)).map (·.valueMu)

theorem waterfallRow_ok_iff {definitionId label : String} {value cumulative : Int}
    {row : PnlWaterfallRow} :
    waterfallRow definitionId label value cumulative = .ok row ↔
      FitsInt64 value ∧ FitsInt64 cumulative ∧
        row = ⟨definitionId, label, Int64.ofInt value, Int64.ofInt cumulative, currencyInr⟩ := by
  rw [waterfallRow, Py.bind_ok]
  constructor
  · rintro ⟨valueMu, hvalue, h⟩
    obtain ⟨cumulativeMu, hcumulative, hrow⟩ := Py.bind_ok.mp h
    obtain ⟨hv, rfl⟩ := int64Field_ok_iff.mp hvalue
    obtain ⟨hc, rfl⟩ := int64Field_ok_iff.mp hcumulative
    cases hrow
    exact ⟨hv, hc, rfl⟩
  · rintro ⟨hv, hc, rfl⟩
    exact ⟨_, int64Field_ok_iff.mpr ⟨hv, rfl⟩, Py.bind_ok.mpr
      ⟨_, int64Field_ok_iff.mpr ⟨hc, rfl⟩, rfl⟩⟩

theorem miscTotal_eq (rows : List MetricRow) :
    miscTotal rows = ((rows.filterMap (·.miscExpensesProratedMu)).map Int64.toInt).sum := by
  induction rows with
  | nil => rfl
  | cons row rows ih =>
    rw [miscTotal] at ih ⊢
    rw [List.map_cons, List.sum_cons, ih, List.filterMap_cons]
    cases row.miscExpensesProratedMu with
    | none => simp
    | some n => simp

/-- A step whose values the message holds. -/
def heldRow (definitionId label : String) (value cumulative : Int) : PnlWaterfallRow :=
  ⟨definitionId, label, Int64.ofInt value, Int64.ofInt cumulative, currencyInr⟩

def heldMisc (rows : List MetricRow) : List PnlWaterfallRow :=
  if rows.filterMap (·.miscExpensesProratedMu) = [] then []
  else [heldRow "misc_expenses_prorated_mu" "Misc. Expenses" (-miscTotal rows)
    (total (·.cm2Mu) rows - miscTotal rows)]

def heldSteps (rows : List MetricRow) : List PnlWaterfallRow :=
  let netRevenue := total (·.netRevenueMu) rows
  let cogs := total (·.cogsMu) rows
  let cm1 := total (·.cm1Mu) rows
  let adSpend := total (·.totalAdSpendMu) rows
  let cm2 := total (·.cm2Mu) rows
  let cm3 := total (·.cm3Mu) rows
  [heldRow "net_revenue_mu" "Net Revenue" netRevenue netRevenue,
    heldRow "cogs_mu" "COGS" (-cogs) (netRevenue - cogs),
    heldRow "cm1_mu" "CM1" cm1 cm1,
    heldRow "total_ad_spend_mu" "Ad Spend" (-adSpend) (cm1 - adSpend),
    heldRow "cm2_mu" "CM2" cm2 cm2] ++ heldMisc rows ++ [heldRow "cm3_mu" "CM3" cm3 cm3]

theorem miscStep_ok_iff {rows : List MetricRow} {steps : List PnlWaterfallRow}
    (hcm2 : FitsInt64 (total (·.cm2Mu) rows)) :
    miscStep (total (·.cm2Mu) rows) rows = .ok steps ↔
      FitsInt64 (-miscTotal rows) ∧ FitsInt64 (total (·.cm2Mu) rows - miscTotal rows) ∧
        steps = heldMisc rows := by
  rw [miscStep, heldMisc, miscTotal_eq]
  cases rows.filterMap (·.miscExpensesProratedMu) with
  | nil => simp [hcm2, eq_comm, show FitsInt64 0 by decide]
  | cons charged rest =>
    simp only [Py.bind_ok, waterfallRow_ok_iff, reduceCtorEq, if_false]
    constructor
    · rintro ⟨row, ⟨hvalue, hcumulative, rfl⟩, hsteps⟩
      cases hsteps
      exact ⟨hvalue, hcumulative, rfl⟩
    · rintro ⟨hvalue, hcumulative, rfl⟩
      exact ⟨_, ⟨hvalue, hcumulative, rfl⟩, rfl⟩

theorem pnlWaterfall_ok_iff {rows : List MetricRow} {steps : List PnlWaterfallRow} :
    pnlWaterfall rows = .ok steps ↔ Holdable rows ∧ steps = heldSteps rows := by
  simp only [pnlWaterfall, Py.bind_ok, waterfallRow_ok_iff]
  constructor
  · rintro ⟨_, ⟨hnet, -, rfl⟩, _, ⟨hcogs, hnetCogs, rfl⟩, _, ⟨hcm1, -, rfl⟩, _, ⟨had, hcm1Ad, rfl⟩,
      _, ⟨hcm2, -, rfl⟩, misc, hmisc, _, ⟨hcm3, -, rfl⟩, hsteps⟩
    obtain ⟨hmisc, hcm2Misc, rfl⟩ := (miscStep_ok_iff hcm2).mp hmisc
    cases hsteps
    refine ⟨?_, rfl⟩
    intro v hv
    simp only [waterfallValues, List.mem_cons, List.not_mem_nil, or_false] at hv
    rcases hv with rfl | rfl | rfl | rfl | rfl | rfl | rfl | rfl | rfl | rfl <;> assumption
  · rintro ⟨h, rfl⟩
    simp only [Holdable, waterfallValues, List.forall_mem_cons] at h
    obtain ⟨hnet, hcogs, hnetCogs, hcm1, had, hcm1Ad, hcm2, hmisc, hcm2Misc, hcm3, -⟩ := h
    exact ⟨_, ⟨hnet, hnet, rfl⟩, _, ⟨hcogs, hnetCogs, rfl⟩, _, ⟨hcm1, hcm1, rfl⟩,
      _, ⟨had, hcm1Ad, rfl⟩, _, ⟨hcm2, hcm2, rfl⟩, _,
      (miscStep_ok_iff hcm2).mpr ⟨hmisc, hcm2Misc, rfl⟩, _, ⟨hcm3, hcm3, rfl⟩, rfl⟩

theorem valueOf_heldSteps {rows : List MetricRow} (h : Holdable rows) :
    valueOf (heldSteps rows) "cm1_mu" = some (total (·.cm1Mu) rows) ∧
      valueOf (heldSteps rows) "cm2_mu" = some (total (·.cm2Mu) rows) ∧
      valueOf (heldSteps rows) "cm3_mu" = some (total (·.cm3Mu) rows) := by
  simp only [Holdable, waterfallValues, List.forall_mem_cons] at h
  obtain ⟨-, -, -, hcm1, -, -, hcm2, -, -, hcm3, -⟩ := h
  refine ⟨?_, ?_, ?_⟩
  · exact congrArg some (toInt_ofInt hcm1)
  · exact congrArg some (toInt_ofInt hcm2)
  · rw [valueOf, heldSteps, heldMisc]
    split
    · exact congrArg some (toInt_ofInt hcm3)
    · exact congrArg some (toInt_ofInt hcm3)

/-! ### The margins of a period -/

theorem total_cons (column : MetricRow → Int64) (row : MetricRow) (rows : List MetricRow) :
    total column (row :: rows) = (column row).toInt + total column rows := by
  rw [total, List.map_cons, List.sum_cons]
  rfl

/-- A column of differences wraps around day by day. -/
theorem total_sub_congruent {c a b : MetricRow → Int64} {rows : List MetricRow}
    (h : ∀ row ∈ rows, c row = a row - b row) :
    (2 ^ 64 : Int) ∣ total c rows - (total a rows - total b rows) := by
  induction rows with
  | nil => exact ⟨0, rfl⟩
  | cons row rows ih =>
    have hrow : (2 ^ 64 : Int) ∣ (c row).toInt - ((a row).toInt - (b row).toInt) := by
      rw [h row List.mem_cons_self, Int64.toInt_sub]
      exact Int.dvd_bmod_sub_self
    have hrows := ih fun r hr => h r (List.mem_cons_of_mem row hr)
    rw [total_cons, total_cons, total_cons]
    have hsum := Int.dvd_add hrow hrows
    have heq : (c row).toInt + total c rows - ((a row).toInt + total a rows -
        ((b row).toInt + total b rows)) = (c row).toInt - ((a row).toInt - (b row).toInt) +
        (total c rows - (total a rows - total b rows)) := by omega
    rw [heq]
    exact hsum

theorem eq_of_congruent {m n : Int} (h : (2 ^ 64 : Int) ∣ m - n) (hm : FitsInt64 m)
    (hn : FitsInt64 n) : m = n := by
  obtain ⟨k, hk⟩ := h
  obtain ⟨hm, hm'⟩ := hm
  obtain ⟨hn, hn'⟩ := hn
  omega

theorem total_misc (rows : List MetricRow) :
    total (·.miscExpensesProratedMu.getD 0) rows = miscTotal rows := by
  rw [total, miscTotal]
  congr 1
  apply List.map_congr_left
  intro row _
  cases row.miscExpensesProratedMu with
  | none => rfl
  | some n => rfl

/-- When the message holds the totals, nothing has wrapped around between them. -/
theorem margins_eq {rows : List MetricRow} (hdays : ∀ row ∈ rows, DayLadder row)
    (h : Holdable rows) :
    total (·.cm1Mu) rows = total (·.netRevenueMu) rows - total (·.cogsMu) rows ∧
      total (·.cm2Mu) rows = total (·.cm1Mu) rows - total (·.totalAdSpendMu) rows ∧
      total (·.cm3Mu) rows = total (·.cm2Mu) rows - miscTotal rows := by
  simp only [Holdable, waterfallValues, List.forall_mem_cons] at h
  obtain ⟨-, -, hnetCogs, hcm1, -, hcm1Ad, hcm2, -, hcm2Misc, hcm3, -⟩ := h
  refine ⟨?_, ?_, ?_⟩
  · exact eq_of_congruent (total_sub_congruent fun row hrow => (hdays row hrow).cm1) hcm1 hnetCogs
  · exact eq_of_congruent (total_sub_congruent fun row hrow => (hdays row hrow).cm2) hcm2 hcm1Ad
  · rw [← total_misc] at hcm2Misc ⊢
    exact eq_of_congruent (total_sub_congruent fun row hrow => (hdays row hrow).cm3) hcm3 hcm2Misc

/-! ### The walk of the sixteen steps -/

def costIds : List String :=
  ["total_discount_mu", "returns_mu", "total_tax_mu", "shipping_outbound_mu", "cogs_mu",
    "variable_costs_mu", "rto_cost_mu", "total_ad_spend_mu", "misc_expenses_prorated_mu",
    "founder_salary_mu"]

def subtotalIds : List String :=
  ["gross_revenue_after_deductions_mu", "cm1_mu", "cm2_mu", "cm3_mu", "net_profit_mu"]

/-- A cost is taken off the running total before it, and a subtotal is that total; CM1 jumps. -/
structure Continues (jump : Int) (before step : WaterfallStep) : Prop where
  cost : step.definitionId ∈ costIds → step.cumulativeMu = before.cumulativeMu + step.valueMu
  subtotal : step.definitionId ∈ subtotalIds → step.valueMu = step.cumulativeMu ∧
    step.cumulativeMu = before.cumulativeMu + if step.definitionId = "cm1_mu" then jump else 0

theorem Continues.of_cost {jump : Int} {before step : WaterfallStep}
    (hid : step.definitionId ∉ subtotalIds)
    (h : step.cumulativeMu = before.cumulativeMu + step.valueMu) : Continues jump before step :=
  ⟨fun _ => h, fun hmem => absurd hmem hid⟩

theorem Continues.of_subtotal {jump : Int} {before step : WaterfallStep}
    (hid : step.definitionId ∉ costIds) (hvalue : step.valueMu = step.cumulativeMu)
    (h : step.cumulativeMu =
      before.cumulativeMu + if step.definitionId = "cm1_mu" then jump else 0) :
    Continues jump before step :=
  ⟨fun hmem => absurd hmem hid, fun _ => ⟨hvalue, h⟩⟩

/-- The first step is no cost and no subtotal, and every other one of them. -/
theorem steps_named (s : PnlStatement) (shippingRto : ShippingRtoFacts) :
    ∀ step ∈ (waterfallSteps s shippingRto).tail,
      step.definitionId ∈ costIds ∨ step.definitionId ∈ subtotalIds := by
  simp [waterfallSteps, costIds, subtotalIds]

theorem steps_continue (s : PnlStatement) (shippingRto : ShippingRtoFacts) {jump : Int}
    (hcm1 : s.cm1Mu = s.grossSalesMu - s.totalDiscountMu - s.returnsMu - s.totalTaxMu -
      shippingRto.shippingOutboundMu - s.cogsMu - s.variableCostsMu - shippingRto.rtoCostMu + jump)
    (hcm2 : s.cm2Mu = s.cm1Mu - s.totalAdSpendMu)
    (hcm3 : s.cm3Mu = s.cm2Mu - s.miscExpensesProratedMu) :
    (waterfallSteps s shippingRto).IsChain (Continues jump) := by
  simp only [waterfallSteps, List.isChain_cons_cons, List.IsChain.singleton, and_true]
  refine ⟨.of_cost ?_ ?_, .of_cost ?_ ?_, .of_cost ?_ ?_, .of_cost ?_ ?_, .of_subtotal ?_ rfl ?_,
    .of_cost ?_ ?_, .of_cost ?_ ?_, .of_cost ?_ ?_, .of_subtotal ?_ rfl ?_, .of_cost ?_ ?_,
    .of_subtotal ?_ rfl ?_, .of_cost ?_ ?_, .of_subtotal ?_ rfl ?_, .of_cost ?_ ?_,
    .of_subtotal ?_ rfl ?_⟩
  all_goals simp [costIds, subtotalIds]
  all_goals omega

/-- The net revenue of the day has not left 64 bits. -/
def NetRevenueFits (row : MetricRow) : Prop :=
  FitsInt64 (row.grossSalesMu.toInt - row.discountsMu.toInt - row.totalTaxMu.toInt +
    row.shippingRevenueMu.toInt)

theorem DayLadder.netRevenue_toInt {row : MetricRow} (h : DayLadder row) (hfits : NetRevenueFits row) :
    row.netRevenueMu.toInt = row.grossSalesMu.toInt - row.discountsMu.toInt -
      row.totalTaxMu.toInt + row.shippingRevenueMu.toInt := by
  have hbmod : row.netRevenueMu.toInt = (row.grossSalesMu.toInt - row.discountsMu.toInt -
      row.totalTaxMu.toInt + row.shippingRevenueMu.toInt).bmod (2 ^ 64) := by
    rw [h.netRevenue, Int64.toInt_add, Int64.toInt_sub, Int64.toInt_sub]
    simp only [Int.bmod_sub_bmod, Int.bmod_add_bmod]
  rw [hbmod]
  obtain ⟨hlow, hhigh⟩ := hfits
  apply Int.bmod_eq_of_le
  · omega
  · omega

theorem total_netRevenue {rows : List MetricRow} (hdays : ∀ row ∈ rows, DayLadder row)
    (hfits : ∀ row ∈ rows, NetRevenueFits row) :
    total (·.netRevenueMu) rows = total (·.grossSalesMu) rows - total (·.discountsMu) rows -
      total (·.totalTaxMu) rows + total (·.shippingRevenueMu) rows := by
  induction rows with
  | nil => rfl
  | cons row rows ih =>
    have hrow := (hdays row List.mem_cons_self).netRevenue_toInt (hfits row List.mem_cons_self)
    have hrows := ih (fun r hr => hdays r (List.mem_cons_of_mem row hr))
      (fun r hr => hfits r (List.mem_cons_of_mem row hr))
    simp only [total_cons]
    omega

theorem total_returns {rows : List MetricRow} (hdays : ∀ row ∈ rows, DayLadder row) :
    total (·.returnsMu) rows = 0 := by
  induction rows with
  | nil => rfl
  | cons row rows ih =>
    have hrow := (hdays row List.mem_cons_self).returns
    have hrows := ih fun r hr => hdays r (List.mem_cons_of_mem row hr)
    rw [total_cons, hrows, hrow]
    rfl

/-! ### The three ladders -/

/-- The servicer answers when its message holds the values, and then all three have one CM1, CM2 and
CM3; the sixteen steps add up, but for the jump of the shipping and return costs at CM1. -/
theorem ladders_agree (p : LadderRequest) :
    ((∃ steps, getPnlWaterfall (.ok p.read) p.request = .ok steps) ↔ Holdable p.rows) ∧
    (∀ steps, getPnlWaterfall (.ok p.read) p.request = .ok steps →
      ∀ variableCosts rto shippingRto, variableCostsMu variableCosts.shippingMu
        variableCosts.packagingMu variableCosts.websiteChargesMu = 0 →
      ∃ s cm, pnlStatement (.ok p.read) p.request.workspaceId p.dateRange variableCosts rto = .ok s ∧
        cmWaterfall (.ok p.read) p.request.workspaceId p.dateRange variableCosts rto shippingRto =
          .ok cm ∧
        valueOf steps "cm1_mu" = some s.cm1Mu ∧ cmValueOf cm "cm1_mu" = some s.cm1Mu ∧
        valueOf steps "cm2_mu" = some s.cm2Mu ∧ cmValueOf cm "cm2_mu" = some s.cm2Mu ∧
        valueOf steps "cm3_mu" = some s.cm3Mu ∧ cmValueOf cm "cm3_mu" = some s.cm3Mu) ∧
    ((∀ row ∈ p.rows, NetRevenueFits row) → ∀ variableCosts rto shippingRto,
      ∃ cm, cmWaterfall (.ok p.read) p.request.workspaceId p.dateRange variableCosts rto
          (some shippingRto) = .ok cm ∧
        cm.length = 16 ∧ (∀ step ∈ cm.tail, step.definitionId ∈ costIds ∨
          step.definitionId ∈ subtotalIds) ∧
        cm.IsChain (Continues (total (·.shippingRevenueMu) p.rows +
          shippingRto.shippingOutboundMu + shippingRto.rtoCostMu))) := by
  have hdays : ∀ row ∈ p.rows, DayLadder row := fun row hrow => p.dayLadder hrow
  have hanswer (steps : List PnlWaterfallRow) :
      getPnlWaterfall (.ok p.read) p.request = .ok steps ↔
        Holdable p.rows ∧ steps = heldSteps p.rows := by
    rw [← pnlWaterfall_ok_iff, getPnlWaterfall, p.rowsFor_ok]
    change escaping (pnlWaterfall p.rows) = .ok steps ↔ _
    cases pnlWaterfall p.rows with
    | error e => simp [escaping]
    | ok held => simp [escaping]
  refine ⟨?_, ?_, ?_⟩
  · constructor
    · rintro ⟨steps, hsteps⟩
      exact ((hanswer steps).mp hsteps).1
    · intro h
      exact ⟨_, (hanswer _).mpr ⟨h, rfl⟩⟩
  · intro steps hsteps variableCosts rto shippingRto hzero
    obtain ⟨hheld, rfl⟩ := (hanswer steps).mp hsteps
    obtain ⟨hcm1, hcm2, hcm3⟩ := margins_eq hdays hheld
    obtain ⟨hvalue1, hvalue2, hvalue3⟩ := valueOf_heldSteps hheld
    have hs1 : (p.statement variableCosts rto).cm1Mu = total (·.cm1Mu) p.rows := by
      change cm1Mu _ _ (variableCostsMu _ _ _) = _
      rw [hzero, cm1Mu]
      omega
    have hs2 : (p.statement variableCosts rto).cm2Mu = total (·.cm2Mu) p.rows := by
      change (p.statement variableCosts rto).cm1Mu - _ = _
      rw [hs1, hcm2]
    have hs3 : (p.statement variableCosts rto).cm3Mu = total (·.cm3Mu) p.rows := by
      change (p.statement variableCosts rto).cm2Mu - _ = _
      rw [hs2, hcm3]
    refine ⟨_, _, p.pnlStatement_ok variableCosts rto, p.cmWaterfall_ok variableCosts rto shippingRto,
      ?_, rfl, ?_, rfl, ?_, rfl⟩
    · rw [hvalue1, hs1]
    · rw [hvalue2, hs2]
    · rw [hvalue3, hs3]
  · intro hfits variableCosts rto shippingRto
    refine ⟨_, p.cmWaterfall_ok variableCosts rto (some shippingRto), rfl, steps_named _ _, ?_⟩
    apply steps_continue
    · have hnet := total_netRevenue hdays hfits
      have hreturns := total_returns hdays
      simp only [LadderRequest.statement, statementOf, cm1Mu, Option.getD_some, hnet, hreturns]
      omega
    · rfl
    · rfl

/-! ### A June -/

/-- The request for a June of the rollup. -/
def juneLadder (facts : Facts) : LadderRequest where
  toPeriod := Period.ofRange ((rollup facts ⟨"w", ⟨juneDay 1, juneDay 30⟩, 0⟩).map computedRow) "w"
    juneRange (Eq.refl false)
  rolledUp := by
    intro row hrow
    obtain ⟨base, hbase, rfl⟩ := List.mem_map.mp hrow
    exact ⟨facts, _, base, hbase, rfl⟩

/-- The second of June, with ad spend alone. -/
def spendRow : MetricRow :=
  (computedRow (dayRow spendOnSecond ⟨"w", ⟨juneDay 1, juneDay 30⟩, 0⟩ (juneDay 2))).toMetricRow

theorem june_ladders_agree :
    (∃ steps s cm, getPnlWaterfall (.ok (juneLadder spendOnSecond).read)
        (juneLadder spendOnSecond).request = .ok steps ∧
      pnlStatement (.ok (juneLadder spendOnSecond).read) "w" (juneLadder spendOnSecond).dateRange {}
        {} = .ok s ∧
      cmWaterfall (.ok (juneLadder spendOnSecond).read) "w" (juneLadder spendOnSecond).dateRange {}
        {} none = .ok cm ∧
      valueOf steps "cm2_mu" = some s.cm2Mu ∧ cmValueOf cm "cm2_mu" = some s.cm2Mu) ∧
    ∃ cm, cmWaterfall (.ok (juneLadder spendOnSecond).read) "w"
        (juneLadder spendOnSecond).dateRange {} {} (some { shippingOutboundMu := 5 }) = .ok cm ∧
      cm.IsChain (Continues
        (total (·.shippingRevenueMu) (juneLadder spendOnSecond).rows + 5 + 0)) := by
  have hrows : (juneLadder spendOnSecond).rows = [spendRow] :=
    Period.rows_of_sorted _ (by decide) (by decide)
  obtain ⟨hanswers, hequal, hwalk⟩ := ladders_agree (juneLadder spendOnSecond)
  constructor
  · obtain ⟨steps, hsteps⟩ := hanswers.mpr (by rw [hrows, Holdable]; decide)
    obtain ⟨s, cm, hs, hcm, -, -, hcm2, hcm2', -⟩ := hequal steps hsteps {} {} none rfl
    exact ⟨steps, s, cm, hsteps, hs, hcm, hcm2, hcm2'⟩
  · have hfits : ∀ row ∈ (juneLadder spendOnSecond).rows, NetRevenueFits row := by
      rw [hrows, List.forall_mem_singleton, NetRevenueFits]
      decide
    obtain ⟨cm, hcm, -, -, hchain⟩ := hwalk hfits {} {} { shippingOutboundMu := 5 }
    exact ⟨cm, hcm, hchain⟩

/-- The jump that the steps of a statement make at CM1. -/
theorem jump_of_chain {s : PnlStatement} {shippingRto : ShippingRtoFacts} {jump : Int}
    (h : (waterfallSteps s shippingRto).IsChain (Continues jump)) :
    s.cm1Mu = s.grossSalesMu - s.totalDiscountMu - s.returnsMu - s.totalTaxMu -
      shippingRto.shippingOutboundMu - s.cogsMu - s.variableCostsMu - shippingRto.rtoCostMu + jump := by
  simp only [waterfallSteps, List.isChain_cons_cons] at h
  obtain ⟨-, -, -, -, -, -, -, -, hcm1, -⟩ := h
  have hjump := (hcm1.subtotal (by simp [subtotalIds])).2
  simpa using hjump

/-- The gross sales of the first of June are the greatest there are, and shipping comes on top. -/
def greatestSales : Facts where
  orders := [⟨"w", "shopify", "1", juneDay 1, 9223372036854775807, 0, 0, 1, "INR", "COD", "paid",
    none, 1⟩]
  lineItems := []
  products := []
  adSpend := []
  shipments := []

/-- Its row. -/
def greatestRow : MetricRow :=
  (computedRow (dayRow greatestSales ⟨"w", ⟨juneDay 1, juneDay 30⟩, 0⟩ (juneDay 1))).toMetricRow

/-- The net revenue of the day wraps around, and CM1 with it. -/
theorem greatest_sales_break_the_walk :
    ∃ cm, cmWaterfall (.ok (juneLadder greatestSales).read) "w" (juneLadder greatestSales).dateRange
        {} {} none = .ok cm ∧
      ¬ cm.IsChain (Continues (total (·.shippingRevenueMu) (juneLadder greatestSales).rows + 0 + 0)) := by
  refine ⟨_, (juneLadder greatestSales).cmWaterfall_ok {} {} none, ?_⟩
  intro h
  have hjump := jump_of_chain h
  have hrows : (juneLadder greatestSales).rows = [greatestRow] :=
    Period.rows_of_sorted _ (by decide) (by decide)
  rw [LadderRequest.statement, hrows] at hjump
  revert hjump
  decide

end BrainV2.Metrics
