import BrainV2.Analytics.ChCohorts
import BrainV2.Analytics.Distributions
import BrainV2.Analytics.Shipments
import BrainV2.Analytics.Timings
import BrainV2.ClickHouse.Query

/-!
# Isolation of the workspaces in ClickHouse

ClickHouse has no row security: each occurrence of a table in a statement asks for the workspace.

* `ChDatabase.readCohortsCH` and others: statements with several tables, one occurrence at a time;
* `ChRead`: the calls of the readers; `ChRead.answer`, `ChRead.run`;
* `readers_isolated`: a workspace's answers do not depend on the rows of others.
-/

namespace BrainV2.Analytics

open ClickHouse (UnscopedClickHouseQueryError)
open Py (Date)
open Sql (FactDateRange juneDay midnight startOfMonth)
open Grouping
open RowOrder (Arrangement orderBy)

namespace ChDatabase

variable (b : Arrangement) (db : ChDatabase) (workspaceId : String)

/-! ### Cohorts -/

/-- The orders `o`, joined with `fo` by the customer. -/
def cohortRevenueRows : List ChRevenueRow :=
  let fo := db.orderFactsOf workspaceId
  let o := db.orderFactsOf workspaceId
  (keysOf ChOrderFact.customerRef (chKnownOrders fo)).flatMap fun c =>
    match chFirstAt fo c with
    | none => []
    | some first =>
      (groupOf ChOrderFact.customerRef (chKnownOrders o) c).map fun o =>
        ⟨startOfMonth first.date, monthOffsetCH first.date o.placedAt.date, o.netMu⟩

def cohortRevenue : List (Date × Int × Int) :=
  let rows := cohortRevenueRows db workspaceId
  (keysOf ChRevenueRow.key rows).map fun k =>
    ((ofLex k).1, (ofLex k).2, sumInt64 ((groupOf ChRevenueRow.key rows k).map (·.net)))

def readCohortsCH : List FactCohortRow :=
  cohortRows (chCohortSizes (db.orderFactsOf workspaceId)) (db.cohortRevenue workspaceId)

def readLtvCH : FactLtv := ltvOf (db.readCohortsCH workspaceId)

/-! ### First products -/

/-- `argMin(li.vendor_product_id, li.vendor_line_id)`; the join asks for the workspace. -/
def firstPid (fo : FirstOrder) : Option String :=
  (orderBy b lineIdLe ((db.lineItems.filter fun li =>
    li.workspaceId = workspaceId ∧ li.vendor = "SHOPIFY" ∧ li.vendorOrderId = fo.vendorOrderId ∧
      li.vendorProductId ≠ "").map (·.toChLineItemFact))).head?.map (·.vendorProductId)

/-- A row of `first_prod`, joined with `cust`. -/
def cascadeCustomer (fo : FirstOrder) : Option CascadeCustomer :=
  (db.firstPid b workspaceId fo).map fun pid =>
    let cust := chKnownOrders (db.orderFactsOf workspaceId)
    let group := groupOf ChOrderFact.customerRef cust fo.customer
    { pid := pid
      orders := group.length
      ltvMu := sumInt64 (group.map (·.netMu))
      title := ""
      second := none }

def readFirstProductCascadeCH : FirstProductCascade :=
  let firstOrder := firstOrdersCH (db.orderFactsOf workspaceId)
  let rows := cascadeRows avgCH
    (fun pid _ => titleCH b (db.lineFactsOf workspaceId) (db.productFactsOf workspaceId) pid)
    (firstOrder.filterMap (db.cascadeCustomer b workspaceId))
  cascadeOf ((mostCustomers b rows).map fun r => factCascadeRow r 0 0)

/-! ### Series -/

/-- `firsts`, joined with the orders of the workspace on the acquisition day. -/
def acquisitionOrders (range : FactDateRange) : List (Date × ChOrderFact) :=
  let firsts := db.orderFactsOf workspaceId
  (keysOf ChOrderFact.customerRef (chKnownOrders firsts)).flatMap fun c =>
    match chFirstAt firsts c with
    | none => []
    | some acq =>
      if range.hasDate acq.date then
        (db.orders.filter fun o => o.workspaceId = workspaceId ∧ o.customerRef = c ∧
          o.placedAt.date = acq.date ∧ o.live).map fun o => (acq.date, o.toChOrderFact)
      else []

def readDailyAcquisitionCH (range : FactDateRange) : List FactDailyAcquisitionRow :=
  let joined := db.acquisitionOrders workspaceId range
  let spendMap := spendByPeriod chSpendMu (·.spendDate)
    ((db.adSpendFactsOf workspaceId).filter (·.inRange (some range)))
  (keysOf Prod.fst joined).map fun day =>
    let rows := groupOf Prod.fst joined day
    acquisitionRow day rows.length (sumInt64 (rows.map (·.2.netOfTaxMu)))
      ((spendMap.lookup day).getD AdSpend.none)

/-- The orders `o` of a period, left joined with `firsts`. -/
def calendarRow (grain : CalendarGrain) (k : WithTop Date) : FactCalendarRow :=
  let firsts := db.orderFactsOf workspaceId
  let o := (db.orderFactsOf workspaceId).filter (·.live)
  let rows := groupOf (ChOrderFact.period grain) o k
  { periodKey := k
    revenueMu := sumInt64 (rows.map (·.netOfTaxMu))
    orders := rows.length
    newCustomers := (rows.filter fun o => chJoinedAcq firsts o = o.placedAt).length
    spendMu := periodSpend chSpendMu (fun a => (truncFn grain a.spendDate : Date))
      (db.adSpendFactsOf workspaceId) k }

def readCalendarReportCH (grain : CalendarGrain) : List FactCalendarRow :=
  let o := (db.orderFactsOf workspaceId).filter (·.live)
  ((keysOf (ChOrderFact.period grain) o).reverse.take 90).map (db.calendarRow workspaceId grain)

end ChDatabase

/-! ### Calls -/

/-- A call of a reader, by what it returns. -/
inductive ChRead : Type → Type where
  | storeSummary (range : Option FactDateRange) : ChRead FactStoreSummary
  | pnl (range : Option FactDateRange) : ChRead FactPnl
  | marketing (range : Option FactDateRange) : ChRead FactMarketing
  | cogs (settings : CogsSettings) (range : Option FactDateRange) : ChRead FactCogs
  | productPerformance (filters : ReadProductPerformanceFilters) : ChRead ProductPerformance
  | shipmentAnalytics : ChRead FactShipmentAnalytics
  | pincodes : ChRead (List FactPincodeRow)
  | shipmentRows (filters : ShipmentRowFilters) (cursor : Option String) (pageSize : Nat) :
      ChRead FactShipmentPage
  | codPrepaid : ChRead FactCodPrepaid
  | cohorts : ChRead (List FactCohortRow)
  | ltv : ChRead FactLtv
  | lifecycleStates : ChRead FactLifecycle
  | orderTimings : ChRead FactOrderTimings
  | firstProductCascade : ChRead FirstProductCascade
  | distributions : ChRead FactDistributions
  | graphPoints (metric : DistMetric) : ChRead (List FactDistGraphPoint)
  | dailyNetSales (range : FactDateRange) : ChRead (List FactDailySalesRow)
  | dailyAcquisition (range : FactDateRange) : ChRead (List FactDailyAcquisitionRow)
  | calendarReport (grain : CalendarGrain) : ChRead (List FactCalendarRow)

/-- What runs the readers: the engines, and an order in which rows are read. -/
structure Plane where
  js : Js.Engine
  ch : ChEngine
  order : Arrangement

namespace ChRead

variable (plane : Plane) (db : ChDatabase) (workspaceId : String)

def answer {β : Type} : ChRead β → β
  | storeSummary range => readStoreSummaryCH plane.order db workspaceId range
  | pnl range => readPnlCH plane.order db workspaceId range
  | marketing range => readMarketingCH plane.order db workspaceId range
  | cogs settings range => readCogsCH db workspaceId settings range
  | productPerformance filters =>
    readProductPerformanceCH plane.js plane.order (db.lineFactsOf workspaceId)
      (db.productFactsOf workspaceId) filters
  | shipmentAnalytics => readShipmentAnalyticsCH plane.order db workspaceId
  | pincodes => readPincodesCH plane.order db workspaceId
  | shipmentRows filters cursor pageSize =>
    readShipmentRowsCH plane.order db workspaceId filters cursor pageSize
  | codPrepaid => readCodPrepaidCH db workspaceId
  | cohorts => db.readCohortsCH workspaceId
  | ltv => db.readLtvCH workspaceId
  | lifecycleStates => readLifecycleStatesCH (db.orderFactsOf workspaceId)
  | orderTimings => readOrderTimingsCH (db.orderFactsOf workspaceId)
  | firstProductCascade => db.readFirstProductCascadeCH plane.order workspaceId
  | distributions => readDistributionsCH plane.ch plane.order db workspaceId
  | graphPoints metric => readDistributionsGraphPointsCH plane.order db workspaceId metric
  | dailyNetSales range => readDailyNetSalesCH db workspaceId range
  | dailyAcquisition range => db.readDailyAcquisitionCH workspaceId range
  | calendarReport grain => db.readCalendarReportCH workspaceId grain

/-- Each reader asks by `chQuery`, which takes no empty workspace. -/
def run {β : Type} (read : ChRead β) : Except UnscopedClickHouseQueryError β :=
  if workspaceId = "" then .error ⟨"workspaceId is required"⟩
  else .ok (read.answer plane db workspaceId)

end ChRead

/-! ### They are the readers of one workspace's facts -/

namespace ChDatabase

variable (b : Arrangement) (db : ChDatabase) (workspaceId : String)

theorem readCohortsCH_eq : db.readCohortsCH workspaceId =
    Analytics.readCohortsCH (db.orderFactsOf workspaceId) := rfl

theorem readCalendarReportCH_eq (grain : CalendarGrain) :
    db.readCalendarReportCH workspaceId grain = Analytics.readCalendarReportCH
      (db.orderFactsOf workspaceId) (db.adSpendFactsOf workspaceId) grain := rfl

theorem firstPid_eq (fo : FirstOrder) : db.firstPid b workspaceId fo =
    firstPidCH b (db.lineFactsOf workspaceId) fo := by
  rw [firstPid, firstPidCH, lineFactsOf, lineItemsOf, List.filter_map, List.filter_filter]
  congr 5
  funext li
  simp [Bool.and_comm]

theorem readFirstProductCascadeCH_eq : db.readFirstProductCascadeCH b workspaceId =
    Analytics.readFirstProductCascadeCH b (db.orderFactsOf workspaceId)
      (db.lineFactsOf workspaceId) (db.productFactsOf workspaceId) := by
  have hcustomer : db.cascadeCustomer b workspaceId =
      cascadeCustomerCH b (db.orderFactsOf workspaceId) (db.lineFactsOf workspaceId) := by
    funext fo
    rw [cascadeCustomer, firstPid_eq]
    rfl
  rw [readFirstProductCascadeCH, hcustomer]
  rfl

theorem acquisitionOrders_eq (range : FactDateRange) : db.acquisitionOrders workspaceId range =
    chAcquisitionOrders (db.orderFactsOf workspaceId) range := by
  rw [acquisitionOrders, chAcquisitionOrders]
  apply List.flatMap_congr
  intro c hc
  obtain ⟨first, hfirst, rfl⟩ := mem_keysOf.mp hc
  have hknown := (of_decide_eq_true (List.mem_filter.mp hfirst).2).1
  cases chFirstAt (db.orderFactsOf workspaceId) first.customerRef with
  | none => rfl
  | some acq =>
    simp only
    split
    · rw [groupOf, chKnownOrders, orderFactsOf, ordersOf]
      simp only [List.filter_map, List.filter_filter, List.map_map]
      refine congrArg (List.map _) (List.filter_congr fun o _ => ?_)
      have hsame : o.customerRef = first.customerRef → o.known = true := by
        intro heq
        rw [ChOrderFact.known, heq]
        exact hknown
      rw [Bool.eq_iff_iff]
      simp only [decide_eq_true_eq, Function.comp_apply, Bool.and_eq_true]
      constructor
      · rintro ⟨hworkspace, hcustomer, hday, hlive⟩
        exact ⟨hday, hcustomer, ⟨hsame hcustomer, hlive⟩, hworkspace⟩
      · rintro ⟨hday, hcustomer, ⟨-, hlive⟩, hworkspace⟩
        exact ⟨hworkspace, hcustomer, hday, hlive⟩
    · rfl

theorem readDailyAcquisitionCH_eq (range : FactDateRange) :
    db.readDailyAcquisitionCH workspaceId range = Analytics.readDailyAcquisitionCH
      (db.orderFactsOf workspaceId) (db.adSpendFactsOf workspaceId) range := by
  rw [readDailyAcquisitionCH, acquisitionOrders_eq]
  rfl

end ChDatabase

/-! ### Each of them reads one workspace -/

section

variable {b : Arrangement} {db db' : ChDatabase} {workspaceId : String}
variable (h : SameFor workspaceId db db')
include h

theorem cohortRevenue_same : db.cohortRevenue workspaceId = db'.cohortRevenue workspaceId := by
  simp only [ChDatabase.cohortRevenue, ChDatabase.cohortRevenueRows, h.orderFactsOf]

theorem readCohortsCH_same : db.readCohortsCH workspaceId = db'.readCohortsCH workspaceId := by
  rw [ChDatabase.readCohortsCH, h.orderFactsOf, cohortRevenue_same h]
  rfl

theorem readLtvCH_same : db.readLtvCH workspaceId = db'.readLtvCH workspaceId := by
  rw [ChDatabase.readLtvCH, readCohortsCH_same h]
  rfl

theorem firstPid_same : db.firstPid b workspaceId = db'.firstPid b workspaceId := by
  funext fo
  rw [ChDatabase.firstPid, h.lineItems.filter fun li hli => (of_decide_eq_true hli).1]
  rfl

theorem cascadeCustomer_same :
    db.cascadeCustomer b workspaceId = db'.cascadeCustomer b workspaceId := by
  funext fo
  rw [ChDatabase.cascadeCustomer, firstPid_same h, h.orderFactsOf]
  rfl

theorem readFirstProductCascadeCH_same : db.readFirstProductCascadeCH b workspaceId =
    db'.readFirstProductCascadeCH b workspaceId := by
  simp only [ChDatabase.readFirstProductCascadeCH, h.orderFactsOf, h.lineFactsOf,
    h.productFactsOf, cascadeCustomer_same h]

theorem acquisitionOrders_same (range : FactDateRange) :
    db.acquisitionOrders workspaceId range = db'.acquisitionOrders workspaceId range := by
  have hjoin : ∀ (c : String) (day : Date), (db.orders.filter fun o => o.workspaceId = workspaceId ∧
      o.customerRef = c ∧ o.placedAt.date = day ∧ o.live) = db'.orders.filter fun o =>
        o.workspaceId = workspaceId ∧ o.customerRef = c ∧ o.placedAt.date = day ∧ o.live :=
    fun c day => h.orders.filter fun o ho => (of_decide_eq_true ho).1
  simp only [ChDatabase.acquisitionOrders, h.orderFactsOf, hjoin]

theorem readDailyAcquisitionCH_same (range : FactDateRange) :
    db.readDailyAcquisitionCH workspaceId range = db'.readDailyAcquisitionCH workspaceId range := by
  rw [ChDatabase.readDailyAcquisitionCH, acquisitionOrders_same h, h.adSpendFactsOf]
  rfl

theorem calendarRow_same (grain : CalendarGrain) :
    db.calendarRow workspaceId grain = db'.calendarRow workspaceId grain := by
  funext k
  rw [ChDatabase.calendarRow, h.orderFactsOf, h.adSpendFactsOf]
  rfl

theorem readCalendarReportCH_same (grain : CalendarGrain) :
    db.readCalendarReportCH workspaceId grain = db'.readCalendarReportCH workspaceId grain := by
  rw [ChDatabase.readCalendarReportCH, h.orderFactsOf, calendarRow_same h]
  rfl

theorem answer_same (plane : Plane) {β : Type} (read : ChRead β) :
    read.answer plane db workspaceId = read.answer plane db' workspaceId := by
  cases read with
  | storeSummary range => exact readStoreSummaryCH_same h range
  | pnl range => exact readPnlCH_same h range
  | marketing range => exact readMarketingCH_same h range
  | cogs settings range => exact readCogsCH_same h settings range
  | productPerformance filters =>
    rw [ChRead.answer, h.lineFactsOf, h.productFactsOf]
    rfl
  | shipmentAnalytics => exact readShipmentAnalyticsCH_same h
  | pincodes => exact readPincodesCH_same h
  | shipmentRows filters cursor pageSize => exact readShipmentRowsCH_same h filters cursor pageSize
  | codPrepaid => exact readCodPrepaidCH_same h
  | cohorts => exact readCohortsCH_same h
  | ltv => exact readLtvCH_same h
  | lifecycleStates =>
    rw [ChRead.answer, h.orderFactsOf]
    rfl
  | orderTimings =>
    rw [ChRead.answer, h.orderFactsOf]
    rfl
  | firstProductCascade => exact readFirstProductCascadeCH_same h
  | distributions => exact readDistributionsCH_same h
  | graphPoints metric => exact readDistributionsGraphPointsCH_same h metric
  | dailyNetSales range => exact readDailyNetSalesCH_same h range
  | dailyAcquisition range => exact readDailyAcquisitionCH_same h range
  | calendarReport grain => exact readCalendarReportCH_same h grain

end

theorem readers_isolated {db db' : ChDatabase} {workspaceId : String}
    (h : SameFor workspaceId db db') (plane : Plane) {β : Type} (read : ChRead β) :
    read.run plane db workspaceId = read.run plane db' workspaceId := by
  rw [ChRead.run, answer_same h]
  rfl

/-! ### Two workspaces with the same ids -/

def plainPlane : Plane where
  js := ⟨id, id, fun _ => none, fun _ => ""⟩
  ch := ⟨List.head?, 0⟩
  order := .plain

/-- An order of a customer on the first of June. -/
def orderIn (workspaceId : String) (grossSalesMu : Int64) (version : Nat) : ChOrder where
  vendor := "SHOPIFY"
  vendorOrderId := "1"
  placedAt := midnight (juneDay 1)
  customerRef := "c"
  grossSalesMu := grossSalesMu
  discountMu := 0
  taxMu := 0
  shippingMu := 0
  currencyCode := "INR"
  financialStatus := "paid"
  cancelledAt := none
  workspaceId := workspaceId
  paymentMethod := "COD"
  version := version

def ordersDatabase (orders : List ChOrder) : ChDatabase := ⟨orders, [], [], [], []⟩

/-- The order of another workspace has the same id and customer, and a newer version. -/
theorem sharedIds_isolated :
    ChRead.cohorts.run plainPlane (ordersDatabase [orderIn "w1" 500 1]) "w1" =
      ChRead.cohorts.run plainPlane
        (ordersDatabase [orderIn "w2" 900 7, orderIn "w1" 500 1, orderIn "w2" 800 2]) "w1" :=
  readers_isolated ⟨rfl, rfl, rfl, rfl, rfl⟩ plainPlane .cohorts

end BrainV2.Analytics
