import BrainV2.Analytics.Distributions
import BrainV2.Analytics.PnlGrid
import BrainV2.Analytics.Timings
import BrainV2.LivePlane.CodPrepaid
import BrainV2.LivePlane.GoalAttainment
import BrainV2.LivePlane.Margins
import BrainV2.LivePlane.Pincodes

/-!
# Surfaces of the live plane with a date picker

* `getStoreSummary`, `getMarketingEfficiency`, `getAcquisitionSummary`, `getCostStack`: what they
  make of their readers of a range;
* `getRtoAnalytics`, `getLogistics`, `getDistributions`, `getLtvSummary`, `getLifecycleStates`,
  `getOrderTimings`, `getCalendarReport`: what they make of their readers of all rows;
* `PlaneState`, `Surface`, `Surface.answer`: what all of them read, and a request of each.
-/

namespace BrainV2.LivePlane

open Analytics (AdSpendFact CalendarGrain CogsSettings DateLocale DistMetric Facts FactCalendarRow
  FactCogs FactDailyAcquisitionRow FactDistGraphPoint FactDistributions FactLifecycle FactMarketing FactOrderTimings FactPnl
  FactPnlPeriodRow FactShipmentAnalytics FactStoreSummary LineItemFact Ltv LifecycleState
  OrderPayment PgError ProductFact ShipmentFact)
open Binary64 (Double ofDecimal ofInt)
open Py (Date)
open RowOrder (Arrangement)
open Sql (FactDateRange Grain)

/-! ### Of a range -/

structure StoreSummaryRow where
  currencyCode : String
  grossSalesMu : Int
  totalDiscountMu : Int
  netSalesMu : Int
  totalTaxMu : Int
  netNetTaxMu : Int
  shippingRevenueMu : Int
  netRevenueMu : Int
  realizedRevenueMu : Int
  orderCount : Nat
  aovMu : Option Int
deriving DecidableEq

structure StoreRevenueLadderStep where
  definitionId : String
  label : String
  valueMu : Int
deriving DecidableEq

def getStoreSummary (f : FactStoreSummary) : StoreSummaryRow × List StoreRevenueLadderStep :=
  ({ currencyCode := f.currencyCode
     grossSalesMu := f.grossSalesMu
     totalDiscountMu := f.totalDiscountMu
     netSalesMu := f.netSalesMu
     totalTaxMu := f.totalTaxMu
     netNetTaxMu := f.netNetTaxMu
     shippingRevenueMu := f.shippingRevenueMu
     netRevenueMu := f.netRevenueMu
     realizedRevenueMu := f.realizedRevenueMu
     orderCount := f.orderCount
     aovMu := f.aovMu },
    [⟨"gross_sales_mu", "Gross Sales", f.grossSalesMu⟩,
      ⟨"net_sales_mu", "Net Sales", f.netSalesMu⟩,
      ⟨"net_net_tax_mu", "Net of Tax", f.netNetTaxMu⟩,
      ⟨"net_revenue_mu", "Net Revenue", f.netRevenueMu⟩,
      ⟨"realized_revenue_mu", "Realized Revenue", f.realizedRevenueMu⟩])

structure MarketingEfficiencyResult where
  currencyCode : String
  netRevenueMu : Int
  totalAdSpendMu : Int
  newCustomerRevenueMu : Int
  acquisitionAdSpendMu : Int
  metaSpendMu : Int
  googleSpendMu : Int
  merBp : Option Double
  amerBp : Option Double
  acosBp : Option Double
  blendedRoasX100 : Option Double
deriving DecidableEq

def getMarketingEfficiency (m : FactMarketing) : MarketingEfficiencyResult :=
  let totalSpend := m.metaSpendMu + m.googleSpendMu
  { currencyCode := m.currencyCode
    netRevenueMu := m.netRevenueMu
    totalAdSpendMu := totalSpend
    newCustomerRevenueMu := m.newCustomerRevenueMu
    acquisitionAdSpendMu := totalSpend
    metaSpendMu := m.metaSpendMu
    googleSpendMu := m.googleSpendMu
    merBp := bp m.netRevenueMu totalSpend
    amerBp := bp m.newCustomerRevenueMu totalSpend
    acosBp := bp totalSpend m.netRevenueMu
    blendedRoasX100 :=
      if 0 < totalSpend then some (ofInt ((m.netRevenueMu * 100).tdiv totalSpend)) else none }

/-- The summary, whose days are always empty. -/
structure AcquisitionSummaryResult where
  currencyCode : String
  newCustomersCount : Nat
  ncCm2Mu : Int
  newCustomerRevenueMu : Int
  totalAdSpendMu : Int
  acquisitionAdSpendMu : Int
  metaSpendMu : Int
  googleSpendMu : Int
  cacMu : Option Int
  cm2PerNcMu : Option Int
  amerBp : Option Double
deriving DecidableEq

def getAcquisitionSummary (m : FactMarketing) : AcquisitionSummaryResult :=
  let totalSpend := m.metaSpendMu + m.googleSpendMu
  let ncCm2 := m.newCustomerRevenueMu - totalSpend
  { currencyCode := m.currencyCode
    newCustomersCount := m.newCustomersCount
    ncCm2Mu := ncCm2
    newCustomerRevenueMu := m.newCustomerRevenueMu
    totalAdSpendMu := totalSpend
    acquisitionAdSpendMu := totalSpend
    metaSpendMu := m.metaSpendMu
    googleSpendMu := m.googleSpendMu
    cacMu :=
      if 0 < m.newCustomersCount then some (totalSpend.tdiv m.newCustomersCount) else none
    cm2PerNcMu :=
      if 0 < m.newCustomersCount then some (ncCm2.tdiv m.newCustomersCount) else none
    amerBp := bp m.newCustomerRevenueMu totalSpend }

inductive CogsMode where
  | override
  | productFallback
deriving DecidableEq

structure CostStackResult where
  overrideAllBp : Int32
  fallbackBp : Int32
  markupBp : Int32
  cogsMode : CogsMode
  costRows : List CostStackRow
  totalFixedMonthlyMu : Int
  totalPerOrderMu : Int
  netSalesMu : Int
  resolvedCogsMu : Int
  variableCostsMu : Int
  cm1Mu : Int
  currencyCode : String

def getCostStack (f : FactPnl) (cogs : FactCogs) (settings : CogsSettings) (costs : List CostRow) :
    CostStackResult :=
  let resolved := resolveCosts costs f.netRevenueMu f.orderCount
  { overrideAllBp := settings.overrideBp
    fallbackBp := settings.fallbackBp
    markupBp := settings.markupBp
    cogsMode := if 0 < settings.overrideBp.toInt then .override else .productFallback
    costRows := resolved.costRows
    totalFixedMonthlyMu := resolved.totalFixedMonthlyMu
    totalPerOrderMu := resolved.totalPerOrderMu
    netSalesMu := f.netRevenueMu
    resolvedCogsMu := cogs.cogsMu
    variableCostsMu := resolved.variableMu
    cm1Mu := f.netRevenueMu - cogs.cogsMu - resolved.variableMu
    currencyCode := f.currencyCode }

/-! ### Shipments -/

structure RtoPaymentRow where
  paymentMethod : String
  rtoCount : Nat
  rtoCostMu : Int
  revenueLostMu : Int
deriving DecidableEq

structure RtoCourierRow where
  courierName : String
  rtoCount : Nat
  rtoCostMu : Int
  revenueLostMu : Int
deriving DecidableEq

/-- The result, whose products are always empty. -/
structure RtoAnalyticsResult where
  connected : Bool
  totalShipments : Nat
  rtoCount : Nat
  rtoRateBp : Option Double
  totalRtoCostMu : Int
  revenueLostToRtoMu : Int
  byPaymentMethod : List RtoPaymentRow
  byCourier : List RtoCourierRow
deriving DecidableEq

def getRtoAnalytics (s : FactShipmentAnalytics) : RtoAnalyticsResult where
  connected := 0 < s.totalShipments
  totalShipments := s.totalShipments
  rtoCount := s.rtoCount
  rtoRateBp := bp s.rtoCount s.totalShipments
  totalRtoCostMu := s.rtoChargesMu
  revenueLostToRtoMu := 0
  byPaymentMethod := [⟨"COD", s.codRtoCount, 0, 0⟩, ⟨"Prepaid", s.prepaidRtoCount, 0, 0⟩]
  byCourier := s.byCourier.map fun c => ⟨c.courierName, c.rtoCount, 0, 0⟩

structure LogisticsCourierRow where
  courierName : String
  count : Nat
  deliveredCount : Nat
  rtoCount : Nat
  totalChargesMu : Int
deriving DecidableEq

structure LogisticsResult where
  totalShipments : Nat
  deliveredCount : Nat
  deliveredRateBp : Option Double
  rtoCount : Nat
  rtoRateBp : Option Double
  codCount : Nat
  prepaidCount : Nat
  forwardChargesMu : Int
  codChargesMu : Int
  rtoChargesMu : Int
  totalShiprocketChargesMu : Int
  averageShippingChargePerShipmentMu : Option Int
  byCourier : List LogisticsCourierRow
deriving DecidableEq

def getLogistics (s : FactShipmentAnalytics) : LogisticsResult where
  totalShipments := s.totalShipments
  deliveredCount := s.deliveredCount
  deliveredRateBp := bp s.deliveredCount s.totalShipments
  rtoCount := s.rtoCount
  rtoRateBp := bp s.rtoCount s.totalShipments
  codCount := s.codCount
  prepaidCount := s.prepaidCount
  forwardChargesMu := s.forwardChargesMu
  codChargesMu := s.codChargesMu
  rtoChargesMu := s.rtoChargesMu
  totalShiprocketChargesMu := s.totalChargesMu
  averageShippingChargePerShipmentMu :=
    if 0 < s.totalShipments then some (s.totalChargesMu.tdiv s.totalShipments) else none
  byCourier := s.byCourier.map fun c =>
    ⟨c.courierName, c.count, c.deliveredCount, c.rtoCount, c.chargesMu⟩

/-! ### Lines and customers -/

structure DistributionRow where
  product : String
  orders : Nat
  modeMu : Int
  meanMu : Int
  diffMu : Int
deriving DecidableEq

structure DistributionsResult where
  metric : DistMetric
  rows : List DistributionRow
  totalRows : Nat
  graphPoints : List FactDistGraphPoint
  globalModeMu : Int
  globalMeanMu : Int
deriving DecidableEq

def getDistributions (metric : DistMetric) (d : FactDistributions)
    (graph : List FactDistGraphPoint) : DistributionsResult where
  metric := metric
  rows := d.rows.map fun r => ⟨r.product, r.orders, r.modeMu, r.meanMu, r.meanMu - r.modeMu⟩
  totalRows := d.rows.length
  graphPoints := graph
  globalModeMu := d.globalMode
  globalMeanMu := d.globalMean

structure LtvSummaryItem where
  dimensionValue : WithTop Date
  dimensionLabel : WithTop Date
  ordersCount : Nat
  newCustomers : Nat
  firstOrderRealizedMu : Int
  firstOrderMu : Int
  m : List Int
deriving DecidableEq

structure LtvSummaryResult where
  firstOrderMu : Int
  firstOrderRealizedMu : Int
  month1Mu : Int
  month3Mu : Int
  month6Mu : Int
  month12Mu : Int
  newCustomers : Nat
  totalRows : Nat
  rows : List LtvSummaryItem
deriving DecidableEq

def getLtvSummary (l : Ltv) : LtvSummaryResult where
  firstOrderMu := l.firstOrderMu
  firstOrderRealizedMu := l.firstOrderMu
  month1Mu := l.month1Mu
  month3Mu := l.month3Mu
  month6Mu := l.month6Mu
  month12Mu := l.month12Mu
  newCustomers := l.newCustomers
  totalRows := l.rows.length
  rows := l.rows.map fun r =>
    ⟨r.cohortMonth, r.cohortMonth, 0, r.newCustomers, r.firstOrderMu, r.firstOrderMu, r.m⟩

structure LifecycleBucketRow where
  bucket : LifecycleState
  customerCount : Nat
  revenueMu : Int
  orderCount : Nat
deriving DecidableEq

structure LifecycleStatesResult where
  p40Days : Nat
  p80Days : Nat
  usedFallback : Bool
  buckets : List LifecycleBucketRow
  netActive : Nat
  totalCustomers : Nat
  unattributedRevenueMu : Int
  unattributedOrderCount : Nat
deriving DecidableEq

def getLifecycleStates (l : FactLifecycle) : LifecycleStatesResult where
  p40Days := 90
  p80Days := 180
  usedFallback := true
  buckets := l.buckets.map fun b => ⟨b.bucket, b.customerCount, b.revenueMu, b.orderCount⟩
  netActive := l.netActive
  totalCustomers := l.totalCustomers
  unattributedRevenueMu := 0
  unattributedOrderCount := 0

/-- The summary row; there are no groups. -/
structure OrderTimingsResult where
  firstOrders : Nat
  secondOrdersBp : Nat
  thirdOrdersBp : Nat
  fourthOrdersBp : Nat
  days1to2 : Option Int
  days2to3 : Option Int
  days3to4 : Option Int
  reactivationWindowDays : Option Double
deriving DecidableEq

def getOrderTimings (t : FactOrderTimings) : OrderTimingsResult where
  firstOrders := t.firstOrders
  secondOrdersBp := t.secondBp
  thirdOrdersBp := t.thirdBp
  fourthOrdersBp := t.fourthBp
  days1to2 := t.days12
  days2to3 := t.days23
  days3to4 := t.days34
  reactivationWindowDays :=
    t.days12.map fun days => roundNumber (times (ofInt days) (ofDecimal false 8 (-1)))

/-- A row, without the cells that are always empty. -/
structure CalendarReportRow where
  periodKey : WithTop Date
  label : WithTop Date
  revenue : Int
  totalSpendMu : Int
  mer : Option Int
  newCustomers : Nat
  cac : Option Int
  aov : Option Int
deriving DecidableEq

structure CalendarReportResult where
  grain : CalendarGrain
  rows : List CalendarReportRow
  totalRows : Nat
deriving DecidableEq

def calendarReportRow (r : FactCalendarRow) : CalendarReportRow where
  periodKey := r.periodKey
  label := r.periodKey
  revenue := r.revenueMu
  totalSpendMu := r.spendMu
  mer := if 0 < r.spendMu then some ((r.revenueMu * 10000).tdiv r.spendMu) else none
  newCustomers := r.newCustomers
  cac := if 0 < r.newCustomers then some (r.spendMu.tdiv r.newCustomers) else none
  aov := if 0 < r.orders then some (r.revenueMu.tdiv r.orders) else none

def getCalendarReport (grain : CalendarGrain) (rows : List FactCalendarRow) :
    CalendarReportResult where
  grain := grain
  rows := rows.map calendarReportRow
  totalRows := rows.length

/-! ### Requests -/

/-- What the surfaces read of the workspace. -/
structure PlaneState where
  orders : List OrderPayment
  lineItems : List LineItemFact
  products : List ProductFact
  adSpend : List AdSpendFact
  shipments : List ShipmentFact
  cogsSettings : CogsSettings
  costs : List CostRow
  goals : List GoalRow

namespace PlaneState

def facts (s : PlaneState) : Facts where
  orders := s.orders.map (·.toOrderFact)
  lineItems := s.lineItems
  products := s.products
  adSpend := s.adSpend

def pnl (s : PlaneState) : PnlState where
  facts := s.facts
  cogsSettings := s.cogsSettings
  costs := s.costs

end PlaneState

/-- What the code leaves to the engines. -/
structure Engines where
  js : Js.Engine
  locale : DateLocale
  order : Arrangement

/-- A request to a surface, by what it returns. -/
inductive Surface : Type → Type where
  | storeSummary : Surface (StoreSummaryRow × List StoreRevenueLadderStep)
  | kpiSummary : Surface (Except PgError KpiSummaryRow)
  | pnlStatement : Surface (Except PgError PnlStatementRow)
  | cmWaterfall : Surface (Except PgError (List PnlWaterfallRow))
  | pnlWaterfall : Surface (Except PgError (List PnlWaterfallRow))
  | pnlPeriodGrid (granularity : Grain) : Surface (Except PgError (List FactPnlPeriodRow × String))
  | costStack : Surface (Except PgError CostStackResult)
  | goalAttainment : Surface (List GoalEvaluationRow)
  | marketingEfficiency : Surface (Except PgError MarketingEfficiencyResult)
  | acquisitionSummary : Surface (Except PgError AcquisitionSummaryResult)
  | dailyAcquisition : Surface (Except PgError (List FactDailyAcquisitionRow))
  | rtoAnalytics : Surface RtoAnalyticsResult
  | codPrepaid (feeOverrides : CodPrepaidFeeOverrides) :
      Surface (Except PgError (Js.Result CodPrepaidResult))
  | logistics : Surface LogisticsResult
  | pincodeIntelligence (filters : Option PincodeFilterInput) : Surface PincodeIntelligenceResult
  | distributions (metric : DistMetric) : Surface (Except PgError DistributionsResult)
  | ltvSummary : Surface (Except PgError LtvSummaryResult)
  | lifecycleStates : Surface (Except PgError LifecycleStatesResult)
  | orderTimings : Surface OrderTimingsResult
  | calendarReport (grain : CalendarGrain) : Surface (Except PgError CalendarReportResult)

namespace Surface

/-- What a surface answers for a range. -/
def answer (engines : Engines) (s : PlaneState) (range : FactDateRange) {β : Type} :
    Surface β → β
  | storeSummary => getStoreSummary (Analytics.readStoreSummary s.facts (some range))
  | kpiSummary => getKpiSummary s.pnl (some range)
  | pnlStatement => getPnlStatement s.pnl (some range)
  | cmWaterfall => getCmWaterfall s.pnl (some range)
  | pnlWaterfall => getCmWaterfall s.pnl (some range)
  | pnlPeriodGrid granularity => do
    let raw ← Analytics.readPnlPeriodGrid engines.locale s.facts range granularity
    .ok (raw, (raw.head?.map (·.currencyCode)).getD "INR")
  | costStack => do
    let cogs ← Analytics.readCogs s.cogsSettings s.facts (some range)
    .ok (getCostStack (Analytics.readPnl s.facts (some range)) cogs s.cogsSettings s.costs)
  | goalAttainment => getGoalAttainment s.goals (Analytics.readPnl s.facts (some range))
  | marketingEfficiency => do
    let m ← Analytics.readMarketing s.facts (some range)
    .ok (getMarketingEfficiency m)
  | acquisitionSummary => do
    let m ← Analytics.readMarketing s.facts (some range)
    .ok (getAcquisitionSummary m)
  | dailyAcquisition => Analytics.readDailyAcquisition s.facts range
  | rtoAnalytics => getRtoAnalytics (Analytics.readShipmentAnalytics engines.order s.shipments)
  | codPrepaid feeOverrides => do
    let cp ← Analytics.readCodPrepaid s.orders
    .ok (getCodPrepaid cp (Analytics.readShipmentAnalytics engines.order s.shipments) feeOverrides)
  | logistics => getLogistics (Analytics.readShipmentAnalytics engines.order s.shipments)
  | pincodeIntelligence filters =>
    getPincodeIntelligence engines.js filters (Analytics.readPincodes engines.order s.shipments)
  | distributions metric => do
    let d ← Analytics.readDistributions engines.order s.facts
    let graph ← Analytics.readDistributionsGraphPoints engines.order s.facts metric
    .ok (getDistributions metric d graph)
  | ltvSummary => do
    let l ← Analytics.readLtvOf s.facts.orders
    .ok (getLtvSummary l)
  | lifecycleStates => do
    let l ← Analytics.readLifecycleStatesOf s.facts.orders
    .ok (getLifecycleStates l)
  | orderTimings => getOrderTimings (Analytics.readOrderTimingsOf s.facts.orders)
  | calendarReport grain => do
    let rows ← Analytics.readCalendarReport s.facts grain
    .ok (getCalendarReport grain rows)

end Surface

end BrainV2.LivePlane
