import BrainV2.Analytics.ChSeries
import BrainV2.Analytics.Facts
import BrainV2.Analytics.Products
import BrainV2.Lib.Versions

/-!
# The headline readers of ClickHouse

The tables of all workspaces:

* `ChDatabase`: every version of every row that is stored;
* `orders`, `lineItems`, `products`, `adSpend`, `shipments`: the tables as they are read, with
  `FINAL`;
* `ordersOf` and the like: what `WHERE workspace_id = {workspace_id:String}` leaves of them;
* `SameFor`: two databases with the same rows of a workspace.

Each reader reads the rows of its workspace in some order, which shows in `any` and in the order of
groups.

* `readStoreSummaryCH`, `readPnlCH`, `readMarketingCH`;
* `readCogsCH`;
* `readCodPrepaidCH`, `readDailyNetSalesCH`.
-/

namespace BrainV2.Analytics

section

open Py (Date)
open Sql (Timestamp FactDateRange)
open Tenants (SameRows)
open Versions (newest)

structure ChOrder extends ChOrderFact where
  workspaceId : String
  paymentMethod : String
  version : Nat

structure ChLine extends ChLineItemFact where
  workspaceId : String
  lineTotalMu : Int64
  orderDate : Date
  version : Nat

structure ChProduct extends ChProductFact where
  workspaceId : String
  version : Nat

structure ChAdSpend extends AdSpendFact where
  workspaceId : String
  adAccountId : String
  version : Nat

structure ChShipment where
  workspaceId : String
  vendor : String
  vendorShipmentId : String
  vendorOrderId : String
  status : String
  courierName : String
  deliveryPincode : String
  deliveryCity : String
  isCod : UInt8
  shippedAt : Option Timestamp
  date : Date
  version : Nat

/-! ### Sorting keys -/

def ChOrder.key (o : ChOrder) : String × String × String :=
  (o.workspaceId, o.vendor, o.vendorOrderId)

def ChLine.key (l : ChLine) : String × String × String × String :=
  (l.workspaceId, l.vendor, l.vendorOrderId, l.vendorLineId)

def ChProduct.key (p : ChProduct) : String × String × String :=
  (p.workspaceId, p.vendor, p.vendorProductId)

def ChAdSpend.key (a : ChAdSpend) : String × String × String × String × Date :=
  (a.workspaceId, a.vendor, a.adAccountId, a.campaignId, a.spendDate)

def ChShipment.key (s : ChShipment) : String × String × String :=
  (s.workspaceId, s.vendor, s.vendorShipmentId)

structure ChDatabase where
  orderRows : List ChOrder
  lineRows : List ChLine
  productRows : List ChProduct
  adSpendRows : List ChAdSpend
  shipmentRows : List ChShipment

namespace ChDatabase

variable (db : ChDatabase) (workspaceId : String)

def orders : List ChOrder := newest ChOrder.key ChOrder.version db.orderRows

def lineItems : List ChLine := newest ChLine.key ChLine.version db.lineRows

def products : List ChProduct := newest ChProduct.key ChProduct.version db.productRows

def adSpend : List ChAdSpend := newest ChAdSpend.key ChAdSpend.version db.adSpendRows

def shipments : List ChShipment := newest ChShipment.key ChShipment.version db.shipmentRows

/-! ### The rows of a workspace -/

def ordersOf : List ChOrder := db.orders.filter (·.workspaceId = workspaceId)

def lineItemsOf : List ChLine := db.lineItems.filter (·.workspaceId = workspaceId)

def productsOf : List ChProduct := db.products.filter (·.workspaceId = workspaceId)

def adSpendOf : List ChAdSpend := db.adSpend.filter (·.workspaceId = workspaceId)

def shipmentsOf : List ChShipment := db.shipments.filter (·.workspaceId = workspaceId)

/-- The columns that the readers of orders share. -/
def orderFactsOf : List ChOrderFact := (db.ordersOf workspaceId).map (·.toChOrderFact)

def lineFactsOf : List ChLineItemFact := (db.lineItemsOf workspaceId).map (·.toChLineItemFact)

def productFactsOf : List ChProductFact := (db.productsOf workspaceId).map (·.toChProductFact)

def adSpendFactsOf : List AdSpendFact := (db.adSpendOf workspaceId).map (·.toAdSpendFact)

end ChDatabase

/-- Both databases hold the same rows of the workspace, in all their versions. -/
structure SameFor (workspaceId : String) (db db' : ChDatabase) : Prop where
  orderRows : SameRows ChOrder.workspaceId workspaceId db.orderRows db'.orderRows
  lineRows : SameRows ChLine.workspaceId workspaceId db.lineRows db'.lineRows
  productRows : SameRows ChProduct.workspaceId workspaceId db.productRows db'.productRows
  adSpendRows : SameRows ChAdSpend.workspaceId workspaceId db.adSpendRows db'.adSpendRows
  shipmentRows : SameRows ChShipment.workspaceId workspaceId db.shipmentRows db'.shipmentRows

namespace SameFor

variable {workspaceId : String} {db db' : ChDatabase}

/-! ### What is read is the same, for every key begins with the workspace -/

theorem orders (h : SameFor workspaceId db db') :
    SameRows ChOrder.workspaceId workspaceId db.orders db'.orders :=
  h.orderRows.newest fun _ _ hkey => congrArg Prod.fst hkey

theorem lineItems (h : SameFor workspaceId db db') :
    SameRows ChLine.workspaceId workspaceId db.lineItems db'.lineItems :=
  h.lineRows.newest fun _ _ hkey => congrArg Prod.fst hkey

theorem products (h : SameFor workspaceId db db') :
    SameRows ChProduct.workspaceId workspaceId db.products db'.products :=
  h.productRows.newest fun _ _ hkey => congrArg Prod.fst hkey

theorem adSpend (h : SameFor workspaceId db db') :
    SameRows ChAdSpend.workspaceId workspaceId db.adSpend db'.adSpend :=
  h.adSpendRows.newest fun _ _ hkey => congrArg Prod.fst hkey

theorem shipments (h : SameFor workspaceId db db') :
    SameRows ChShipment.workspaceId workspaceId db.shipments db'.shipments :=
  h.shipmentRows.newest fun _ _ hkey => congrArg Prod.fst hkey

theorem ordersOf (h : SameFor workspaceId db db') :
    db.ordersOf workspaceId = db'.ordersOf workspaceId := h.orders

theorem lineItemsOf (h : SameFor workspaceId db db') :
    db.lineItemsOf workspaceId = db'.lineItemsOf workspaceId := h.lineItems

theorem productsOf (h : SameFor workspaceId db db') :
    db.productsOf workspaceId = db'.productsOf workspaceId := h.products

theorem adSpendOf (h : SameFor workspaceId db db') :
    db.adSpendOf workspaceId = db'.adSpendOf workspaceId := h.adSpend

theorem shipmentsOf (h : SameFor workspaceId db db') :
    db.shipmentsOf workspaceId = db'.shipmentsOf workspaceId := h.shipments

theorem orderFactsOf (h : SameFor workspaceId db db') :
    db.orderFactsOf workspaceId = db'.orderFactsOf workspaceId := by
  rw [ChDatabase.orderFactsOf, h.ordersOf]
  rfl

theorem lineFactsOf (h : SameFor workspaceId db db') :
    db.lineFactsOf workspaceId = db'.lineFactsOf workspaceId := by
  rw [ChDatabase.lineFactsOf, h.lineItemsOf]
  rfl

theorem productFactsOf (h : SameFor workspaceId db db') :
    db.productFactsOf workspaceId = db'.productFactsOf workspaceId := by
  rw [ChDatabase.productFactsOf, h.productsOf]
  rfl

theorem adSpendFactsOf (h : SameFor workspaceId db db') :
    db.adSpendFactsOf workspaceId = db'.adSpendFactsOf workspaceId := by
  rw [ChDatabase.adSpendFactsOf, h.adSpendOf]
  rfl

end SameFor

end

open Py (Date)
open Sql (FactDateRange)
open Grouping
open RowOrder (Arrangement orderBy)

variable (b : Arrangement) (db : ChDatabase) (workspaceId : String)

/-- `any(column)` -/
def anyOf {α β : Type} (rows : List α) (column : α → β) : Option β :=
  (b.arrange rows).head?.map column

/-- `chDateClause('placed_at', range)` -/
def ChOrderFact.inRange (range : Option FactDateRange) (o : ChOrderFact) : Bool :=
  match range with
  | none => true
  | some range => range.has o.placedAt

/-- `chDateClause('li.order_date', range)` -/
def ChLine.inRange (range : Option FactDateRange) (li : ChLine) : Bool :=
  match range with
  | none => true
  | some range => range.hasDate li.orderDate

/-! ### The store -/

def readStoreSummaryCH (range : Option FactDateRange) : FactStoreSummary :=
  let rows := (db.orderFactsOf workspaceId).filter (·.inRange range)
  let realized := rows.filter (·.live)
  let gross := sumInt64 (rows.map (·.grossSalesMu))
  let discount := sumInt64 (rows.map (·.discountMu))
  let tax := sumInt64 (rows.map (·.taxMu))
  let shipping := sumInt64 (rows.map (·.shippingMu))
  let realizedRevenue :=
    sumInt64 (realized.map (·.grossSalesMu)) - sumInt64 (realized.map (·.discountMu))
  { hasData := 0 < rows.length
    currencyCode := (anyOf b rows (·.currencyCode)).getD ""
    grossSalesMu := gross
    totalDiscountMu := discount
    netSalesMu := gross - discount
    totalTaxMu := tax
    netNetTaxMu := gross - discount - tax
    shippingRevenueMu := shipping
    netRevenueMu := gross - discount - tax + shipping
    realizedRevenueMu := realizedRevenue
    orderCount := rows.length
    aovMu := if 0 < realized.length then some (realizedRevenue.tdiv realized.length) else none }

/-- The row of one vendor, in the loop of `readAdSpendCH`. -/
def AdSpendSummary.putCH (s : AdSpendSummary) (vendor : String) (rows : List AdSpendFact) :
    AdSpendSummary where
  toAdSpend := s.toAdSpend.put (vendor, chSpendMu rows)
  currency :=
    let currency := (anyOf b rows (·.currencyCode)).getD ""
    if currency = "" then s.currency else currency

def readAdSpendCH (range : Option FactDateRange) : AdSpendSummary :=
  let rows := (db.adSpendFactsOf workspaceId).filter (·.inRange range)
  (b.arrange (keysOf AdSpendFact.vendor rows)).foldl
    (fun s vendor => s.putCH b vendor (groupOf AdSpendFact.vendor rows vendor))
    ⟨AdSpend.none, "INR"⟩

def readPnlCH (range : Option FactDateRange) : FactPnl :=
  let store := readStoreSummaryCH b db workspaceId range
  let spend := readAdSpendCH b db workspaceId range
  { hasData := store.hasData
    currencyCode := store.currencyCode
    netRevenueMu := store.realizedRevenueMu
    totalTaxMu := store.totalTaxMu
    totalAdSpendMu := spend.metaMu + spend.googleMu
    metaSpendMu := spend.metaMu
    googleSpendMu := spend.googleMu
    orderCount := store.orderCount }

/-- `ranked` of `readMarketingCH` -/
def marketingRanked (range : Option FactDateRange) : List (ChOrderFact × Nat) :=
  let rows := (db.orderFactsOf workspaceId).filter fun o => o.inRange range ∧ o.known ∧ o.live
  (keysOf ChOrderFact.customerRef rows).flatMap fun c =>
    (orderBy b ChOrderFact.before (groupOf ChOrderFact.customerRef rows c)).zipIdx 1

def readMarketingCH (range : Option FactDateRange) : FactMarketing :=
  let store := readStoreSummaryCH b db workspaceId range
  let spend := readAdSpendCH b db workspaceId range
  let first := (marketingRanked b db workspaceId range).filter (·.2 = 1)
  { hasData := store.hasData
    currencyCode := store.currencyCode
    netRevenueMu := store.realizedRevenueMu
    totalAdSpendMu := spend.metaMu + spend.googleMu
    metaSpendMu := spend.metaMu
    googleSpendMu := spend.googleMu
    newCustomerRevenueMu := sumInt64 (first.map (·.1.netMu))
    newCustomersCount := first.length }

/-! ### Costs of goods -/

/-- The `multiIf` of a line, of which all products are `Int64`. -/
def cogsMuCH (settings : CogsSettings) (li : ChLine) (costMu : Int64) : Int :=
  if 0 < settings.overrideBp.toInt then
    (wrap64 (li.lineTotalMu.toInt * settings.overrideBp.toInt)).tdiv 10000
  else if 0 < costMu.toInt then
    (wrap64 (li.quantity.toInt * costMu.toInt * (10000 + settings.markupBp.toInt))).tdiv 10000
  else if 0 < settings.fallbackBp.toInt then
    (wrap64 (li.lineTotalMu.toInt * settings.fallbackBp.toInt)).tdiv 10000
  else 0

/-- The lines, each with the cost of its product or the default of the type. A product has one row,
which `argMax` takes. -/
def linesWithCostsCH (range : Option FactDateRange) : List (ChLine × Int64) :=
  ((db.lineItemsOf workspaceId).filter (·.inRange range)).flatMap fun li =>
    (leftJoin ((db.productsOf workspaceId).filter fun pf => pf.workspaceId = li.workspaceId ∧
      pf.vendor = li.vendor ∧ pf.vendorProductId = li.vendorProductId)).map fun pf =>
        (li, (pf.map (·.costMu)).getD 0)

def readCogsCH (settings : CogsSettings) (range : Option FactDateRange) : FactCogs :=
  let rows := linesWithCostsCH db workspaceId range
  let covered (r : ChLine × Int64) : Bool := 0 < settings.overrideBp.toInt ∨ 0 < r.2.toInt ∨
    0 < settings.fallbackBp.toInt
  { cogsMu := wrap64 (rows.map fun r => cogsMuCH settings r.1 r.2).sum
    coveredLines := (rows.filter covered).length
    totalLines := rows.length }

/-! ### Payment methods and days -/

structure FactCodPrepaid where
  codOrders : Nat
  prepaidOrders : Nat
  codGrossMu : Int
  prepaidGrossMu : Int
  aovMu : Option Int
deriving DecidableEq

def readCodPrepaidCH : FactCodPrepaid :=
  let rows := db.ordersOf workspaceId
  let cod := rows.filter (·.paymentMethod = "COD")
  let prepaid := rows.filter (·.paymentMethod = "Prepaid")
  let live := rows.filter (·.live)
  { codOrders := cod.length
    prepaidOrders := prepaid.length
    codGrossMu := sumInt64 (cod.map (·.grossSalesMu))
    prepaidGrossMu := sumInt64 (prepaid.map (·.grossSalesMu))
    aovMu :=
      if 0 < live.length then some ((sumInt64 (live.map (·.netMu))).tdiv live.length) else none }

structure FactDailySalesRow where
  date : Date
  netSalesMu : Int
  orders : Nat
deriving DecidableEq

def readDailyNetSalesCH (range : FactDateRange) : List FactDailySalesRow :=
  let rows := (db.orderFactsOf workspaceId).filter fun o => o.live ∧ range.has o.placedAt
  (keysOf (fun o => o.placedAt.date) rows).map fun day =>
    let group := groupOf (fun o => o.placedAt.date) rows day
    ⟨day, sumInt64 (group.map (·.netMu)), group.length⟩

/-! ### Each of them reads one workspace -/

section

variable {b db workspaceId} {db' : ChDatabase} (h : SameFor workspaceId db db')
include h

theorem readStoreSummaryCH_same (range : Option FactDateRange) :
    readStoreSummaryCH b db workspaceId range = readStoreSummaryCH b db' workspaceId range := by
  rw [readStoreSummaryCH, h.orderFactsOf]
  rfl

theorem readAdSpendCH_same (range : Option FactDateRange) :
    readAdSpendCH b db workspaceId range = readAdSpendCH b db' workspaceId range := by
  rw [readAdSpendCH, h.adSpendFactsOf]
  rfl

theorem readPnlCH_same (range : Option FactDateRange) :
    readPnlCH b db workspaceId range = readPnlCH b db' workspaceId range := by
  rw [readPnlCH, readStoreSummaryCH_same h, readAdSpendCH_same h]
  rfl

theorem marketingRanked_same (range : Option FactDateRange) :
    marketingRanked b db workspaceId range = marketingRanked b db' workspaceId range := by
  rw [marketingRanked, h.orderFactsOf]
  rfl

theorem readMarketingCH_same (range : Option FactDateRange) :
    readMarketingCH b db workspaceId range = readMarketingCH b db' workspaceId range := by
  rw [readMarketingCH, readStoreSummaryCH_same h, readAdSpendCH_same h, marketingRanked_same h]
  rfl

theorem linesWithCostsCH_same (range : Option FactDateRange) :
    linesWithCostsCH db workspaceId range = linesWithCostsCH db' workspaceId range := by
  rw [linesWithCostsCH, h.lineItemsOf, h.productsOf]
  rfl

theorem readCogsCH_same (settings : CogsSettings) (range : Option FactDateRange) :
    readCogsCH db workspaceId settings range = readCogsCH db' workspaceId settings range := by
  rw [readCogsCH, linesWithCostsCH_same h]
  rfl

theorem readCodPrepaidCH_same :
    readCodPrepaidCH db workspaceId = readCodPrepaidCH db' workspaceId := by
  rw [readCodPrepaidCH, h.ordersOf]
  rfl

theorem readDailyNetSalesCH_same (range : FactDateRange) :
    readDailyNetSalesCH db workspaceId range = readDailyNetSalesCH db' workspaceId range := by
  rw [readDailyNetSalesCH, h.orderFactsOf]
  rfl

end

end BrainV2.Analytics
