import BrainV2.Metrics.Ladders
import BrainV2.Metrics.Overheads
import BrainV2.Metrics.Registry

/-!
# The revenue ladder, three times

* `LadderInputs`, `Rungs`: what goes into the ladder and what comes out;
* `tsRungs`, `pyRungs`: the formulas of the two registries, one on the other;
* `chRungs`: a base row of the rollup, through the view;
* `OneLadder`: the three are one;
* `Plain`: nothing returned, no shipping income, no variable costs, sums that fit;
* `oneLadder_iff`: the two are the same.
-/

namespace BrainV2.Metrics

open Quotients (Uneven)
open Wrapping (Fits)

structure LadderInputs where
  grossSalesMu : Int
  discountsMu : Int
  returnsMu : Int
  taxMu : Int
  shippingRevenueMu : Int
  cogsMu : Int
  variableCostsMu : Int
  adSpendMu : Int
  monthlyOverheadMu : Int
  daysInMonth : Int
  calendar : 28 ≤ daysInMonth

structure Rungs where
  netSalesMu : Int
  netRevenueMu : Int
  cm1Mu : Int
  cm2Mu : Int
  cm3Mu : Int
deriving DecidableEq

/-! ### The registry of TypeScript -/

namespace Ts

def netSalesMu (grossSalesMu returnsMu discountsMu : Int) : Int :=
  grossSalesMu - returnsMu - discountsMu

def netNetTaxMu (netSalesMu totalTaxMu : Int) : Int := netSalesMu - totalTaxMu

def netRevenueMu (netNetTaxMu shippingRevenueMu : Int) : Int := netNetTaxMu + shippingRevenueMu

def cm1Mu (netRevenueMu cogsMu variableCostsMu : Int) : Int :=
  netRevenueMu - cogsMu - variableCostsMu

def cm2Mu (cm1Mu totalAdSpendMu : Int) : Int := cm1Mu - totalAdSpendMu

def cm3Mu (cm2Mu miscExpensesProratedMu : Int) : Int := cm2Mu - miscExpensesProratedMu

end Ts

def tsRungs (i : LadderInputs) : Rungs :=
  let netSales := Ts.netSalesMu i.grossSalesMu i.returnsMu i.discountsMu
  let netRevenue := Ts.netRevenueMu (Ts.netNetTaxMu netSales i.taxMu) i.shippingRevenueMu
  let cm1 := Ts.cm1Mu netRevenue i.cogsMu i.variableCostsMu
  let cm2 := Ts.cm2Mu cm1 i.adSpendMu
  let misc := Registry.miscExpensesProratedMu i.monthlyOverheadMu i.daysInMonth
  ⟨netSales, netRevenue, cm1, cm2, Ts.cm3Mu cm2 misc⟩

/-! ### The registry of Python -/

def netSalesMu (grossSalesMu totalDiscountMu : Int) : Int := grossSalesMu - totalDiscountMu

def netRevenueMu (netSalesMu totalTaxMu : Int) : Int := netSalesMu - totalTaxMu

/-- `none` is the error of a `None` in the last difference. -/
def pyRungs (i : LadderInputs) : Option Rungs :=
  let netSales := netSalesMu i.grossSalesMu i.discountsMu
  let netRevenue := netRevenueMu netSales i.taxMu
  let cm1 := cm1Mu netRevenue i.cogsMu i.variableCostsMu
  let cm2 := cm2Mu cm1 i.adSpendMu
  (Registry.intFloorDivOrNull i.monthlyOverheadMu i.daysInMonth).map fun misc =>
    ⟨netSales, netRevenue, cm1, cm2, cm3Mu cm2 misc⟩

/-! ### The rollup and the view -/

/-- The row has these inputs. Refunds and variable costs are in no table that the rollup reads. -/
structure Carries (base : BaseRow) (i : LadderInputs) : Prop where
  grossSales : base.grossSalesMu.toInt = i.grossSalesMu
  discounts : base.discountsMu.toInt = i.discountsMu
  tax : base.totalTaxMu.toInt = i.taxMu
  shippingRevenue : base.shippingRevenueMu.toInt = i.shippingRevenueMu
  cogs : base.cogsMu.toInt = i.cogsMu
  adSpend : base.totalAdSpendMu.toInt = i.adSpendMu
  monthlyOverhead : base.miscExpensesMonthlyMu.toInt = i.monthlyOverheadMu
  days : (Py.daysInMonth base.date.year base.date.month : Int) = i.daysInMonth

def chRungs (base : BaseRow) : Rungs :=
  let row := computedRow base
  ⟨row.netSalesMu.toInt, row.netRevenueMu.toInt, row.cm1Mu.toInt, row.cm2Mu.toInt, row.cm3Mu.toInt⟩

/-- A base row that the rollup makes of some facts. -/
def IsBaseRow (base : BaseRow) : Prop := ∃ facts params, base ∈ rollup facts params

/-! ### One ladder -/

structure OneLadder (i : LadderInputs) : Prop where
  python : pyRungs i = some (tsRungs i)
  rollup : ∀ base, IsBaseRow base → Carries base i → chRungs base = tsRungs i

/-- The sums of the inputs, rung by rung, fit into the columns. -/
structure SumsFit (i : LadderInputs) : Prop where
  netSales : Fits (i.grossSalesMu - i.discountsMu)
  netRevenue : Fits (i.grossSalesMu - i.discountsMu - i.taxMu)
  cm1 : Fits (i.grossSalesMu - i.discountsMu - i.taxMu - i.cogsMu - i.variableCostsMu)
  cm2 : Fits
    (i.grossSalesMu - i.discountsMu - i.taxMu - i.cogsMu - i.variableCostsMu - i.adSpendMu)
  cm3 : Fits (i.grossSalesMu - i.discountsMu - i.taxMu - i.cogsMu - i.variableCostsMu -
    i.adSpendMu - i.monthlyOverheadMu.tdiv i.daysInMonth)

/-- Variable costs are left out of the rollup, which nothing but a whole turn of its columns can
make up for. -/
structure Plain (i : LadderInputs) : Prop where
  returns : i.returnsMu = 0
  shippingRevenue : i.shippingRevenueMu = 0
  overhead : ¬ Uneven i.monthlyOverheadMu i.daysInMonth
  carried : (∃ base, IsBaseRow base ∧ Carries base i) →
    i.variableCostsMu % 18446744073709551616 = 0 ∧ SumsFit i

theorem python_iff (i : LadderInputs) : pyRungs i = some (tsRungs i) ↔
    i.returnsMu = 0 ∧ i.shippingRevenueMu = 0 ∧ ¬ Uneven i.monthlyOverheadMu i.daysInMonth := by
  have hdays : 0 < i.daysInMonth := by have := i.calendar; omega
  have hfloor : Registry.intFloorDivOrNull i.monthlyOverheadMu i.daysInMonth =
      some (i.monthlyOverheadMu / i.daysInMonth) := by
    rw [Registry.intFloorDivOrNull, if_neg (Int.not_le.mpr hdays), Quotients.fdiv_eq hdays]
  rw [← Quotients.tdiv_eq_ediv_iff hdays, pyRungs, hfloor, Option.map_some, Option.some.injEq]
  simp only [tsRungs, Rungs.mk.injEq, netSalesMu, netRevenueMu, cm1Mu, cm2Mu, cm3Mu, Ts.netSalesMu,
    Ts.netNetTaxMu, Ts.netRevenueMu, Ts.cm1Mu, Ts.cm2Mu, Ts.cm3Mu, Registry.miscExpensesProratedMu,
    if_pos hdays]
  constructor
  · rintro ⟨hsales, hrevenue, -, -, hcm3⟩
    omega
  · rintro ⟨hreturns, hshipping, hmisc⟩
    omega

/-! ### The rungs of a base row -/

/-- The overhead of a day in the view. -/
theorem guardedDiv_monthDays (total : Int64) (d : Py.Date) :
    (guardedDiv total (monthDays d)).getD 0 =
      Int64.ofInt (total.toInt.tdiv (Py.daysInMonth d.year d.month)) := by
  let m : Month := ⟨d.year, d.month, d.yearBound, d.monthBound⟩
  have hm : m.has d = true := Month.has_iff.mpr ⟨rfl, rfl⟩
  have hshare : _ = total.toInt.tdiv (Py.daysInMonth d.year d.month) := prorated_eq total hm
  rw [← hshare]
  cases guardedDiv total (monthDays d) with
  | none => rfl
  | some share => exact (Int64.ofInt_toInt share).symm

/-- The columns of the ladder are sums of the input columns. -/
theorem ladder_of_isBaseRow {base : BaseRow} (h : IsBaseRow base) :
    base.netSalesMu = base.grossSalesMu - base.discountsMu ∧
      base.netRevenueMu = base.netSalesMu - base.totalTaxMu + base.shippingRevenueMu ∧
      base.cm1Mu = base.netRevenueMu - base.cogsMu ∧
      base.cm2Mu = base.cm1Mu - base.totalAdSpendMu := by
  obtain ⟨facts, params, hbase⟩ := h
  rw [rollup_eq] at hbase
  obtain ⟨d, -, rfl⟩ := List.mem_map.mp hbase
  exact ⟨rfl, rfl, rfl, rfl⟩

theorem chRungs_eq {base : BaseRow} {i : LadderInputs} (hbase : IsBaseRow base)
    (h : Carries base i) :
    let netSales := i.grossSalesMu - i.discountsMu
    let netRevenue := netSales - i.taxMu + i.shippingRevenueMu
    let cm2 := netRevenue - i.cogsMu - i.adSpendMu
    chRungs base = ⟨(Int64.ofInt netSales).toInt, (Int64.ofInt netRevenue).toInt,
      (Int64.ofInt (netRevenue - i.cogsMu)).toInt, (Int64.ofInt cm2).toInt,
      (Int64.ofInt (cm2 - i.monthlyOverheadMu.tdiv i.daysInMonth)).toInt⟩ := by
  obtain ⟨hsales, hrevenue, hcm1, hcm2⟩ := ladder_of_isBaseRow hbase
  have hshare := guardedDiv_monthDays base.miscExpensesMonthlyMu base.date
  rw [h.monthlyOverhead, h.days] at hshare
  simp only [chRungs, computedRow, hshare, hcm2, hcm1, hrevenue, hsales, Int64.ofInt_sub,
    Int64.ofInt_add, ← h.grossSales, ← h.discounts, ← h.tax, ← h.shippingRevenue, ← h.cogs,
    ← h.adSpend, Int64.ofInt_toInt]

theorem rollup_iff {base : BaseRow} {i : LadderInputs} (hbase : IsBaseRow base)
    (h : Carries base i) (hreturns : i.returnsMu = 0) (hshipping : i.shippingRevenueMu = 0) :
    chRungs base = tsRungs i ↔ i.variableCostsMu % 18446744073709551616 = 0 ∧ SumsFit i := by
  have hdays : 0 < i.daysInMonth := by have := i.calendar; omega
  rw [chRungs_eq hbase h, tsRungs]
  simp only [Rungs.mk.injEq, Ts.netSalesMu, Ts.netNetTaxMu, Ts.netRevenueMu, Ts.cm1Mu, Ts.cm2Mu,
    Ts.cm3Mu, Registry.miscExpensesProratedMu, if_pos hdays, hreturns, hshipping, Int.sub_zero,
    Int.add_zero, Wrapping.toInt_ofInt_eq_iff]
  constructor
  · rintro ⟨⟨hsales, -⟩, ⟨hrevenue, -⟩, ⟨hcm1, hturns⟩, ⟨hcm2, -⟩, hcm3, -⟩
    exact ⟨by omega, hsales, hrevenue, hcm1, hcm2, hcm3⟩
  · rintro ⟨hturns, hfit⟩
    exact ⟨⟨hfit.netSales, by omega⟩, ⟨hfit.netRevenue, by omega⟩, ⟨hfit.cm1, by omega⟩,
      ⟨hfit.cm2, by omega⟩, hfit.cm3, by omega⟩

theorem oneLadder_iff (i : LadderInputs) : OneLadder i ↔ Plain i := by
  constructor
  · intro h
    obtain ⟨hreturns, hshipping, heven⟩ := (python_iff i).mp h.python
    refine ⟨hreturns, hshipping, heven, ?_⟩
    rintro ⟨base, hbase, hcarries⟩
    exact (rollup_iff hbase hcarries hreturns hshipping).mp (h.rollup base hbase hcarries)
  · intro h
    refine ⟨(python_iff i).mpr ⟨h.returns, h.shippingRevenue, h.overhead⟩, ?_⟩
    intro base hbase hcarries
    exact (rollup_iff hbase hcarries h.returns h.shippingRevenue).mpr
      (h.carried ⟨base, hbase, hcarries⟩)

/-! ### Ladders that part -/

/-- A day with sales of a thousand rupees, in a month of thirty days. -/
def saleInputs (returns shippingRevenue variableCosts overhead : Int) : LadderInputs where
  grossSalesMu := 100000
  discountsMu := 0
  returnsMu := returns
  taxMu := 0
  shippingRevenueMu := shippingRevenue
  cogsMu := 0
  variableCostsMu := variableCosts
  adSpendMu := 0
  monthlyOverheadMu := overhead
  daysInMonth := 30
  calendar := by decide

def saleFacts : Facts where
  orders := [⟨"w1", "SHOPIFY", "o1", juneDay 1, 100000, 0, 0, 0, "INR", "COD", "paid", none, 1⟩]
  lineItems := []
  products := []
  adSpend := []
  shipments := []

def saleParams : RollupParams := ⟨"w1", ⟨juneDay 1, juneDay 1⟩, 0⟩

/-- Returns, shipping income, a credit of one paisa, and costs that the rollup leaves out. -/
theorem saleInputs_not_oneLadder : ¬ OneLadder (saleInputs 500 0 0 0) ∧
    ¬ OneLadder (saleInputs 0 500 0 0) ∧ ¬ OneLadder (saleInputs 0 0 0 (-1)) ∧
      ¬ OneLadder (saleInputs 0 0 500 0) := by
  refine ⟨fun h => ?_, fun h => ?_, fun h => ?_, fun h => ?_⟩
  · exact absurd h.python (by decide)
  · exact absurd h.python (by decide)
  · exact absurd h.python (by decide)
  · have hbase : IsBaseRow (dayRow saleFacts saleParams (juneDay 1)) :=
      ⟨saleFacts, saleParams, by decide +kernel⟩
    have hladder := h.rollup _ hbase ⟨by decide +kernel, by decide +kernel, by decide +kernel,
      by decide +kernel, by decide +kernel, by decide +kernel, by decide +kernel, by decide +kernel⟩
    exact absurd hladder (by decide +kernel)

end BrainV2.Metrics
