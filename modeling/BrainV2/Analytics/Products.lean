import BrainV2.Analytics.ChFacts
import BrainV2.Js.Values
import BrainV2.Lib.Rows

/-!
# Product performance in both stores

* `SharedLine`, `SharedProduct`: lines and products that both stores can hold;
* `gradedProducts`: the products of some lines, with their grades;
* `readProductPerformancePG`, `readProductPerformanceCH`: the statements;
* `productPage`: what is made of their rows; `readProductPerformance`: by the flag.
-/

namespace BrainV2.Analytics

open Js (Engine)
open Py (Date)
open Sql (midnight days)
open Grouping
open RowOrder (Arrangement orderBy)
open Wrapping (Fits)

/-! ### Lines and products in both stores -/

structure ChLineItemFact where
  vendor : String
  vendorOrderId : String
  vendorLineId : String
  vendorProductId : String
  title : String
  quantity : Int32
  priceMu : Int64

structure ChProductFact where
  vendor : String
  vendorProductId : String
  title : String
  costMu : Int64

/-- What is null in PostgreSQL is empty in ClickHouse, and nothing else is. -/
structure SharedLine where
  line : LineItemFact
  identified : line.vendorProductId ≠ some ""
  titled : line.title ≠ some ""
  counted : -2147483648 ≤ line.quantity.toInt ∧ line.quantity.toInt ≤ 2147483647

def SharedLine.ch (l : SharedLine) : ChLineItemFact where
  vendor := l.line.vendor
  vendorOrderId := l.line.vendorOrderId
  vendorLineId := l.line.vendorLineId
  vendorProductId := l.line.vendorProductId.getD ""
  title := l.line.title.getD ""
  quantity := Int32.ofInt l.line.quantity.toInt
  priceMu := l.line.unitPriceMu

structure SharedProduct where
  product : ProductFact
  titled : product.title ≠ some ""

def SharedProduct.ch (p : SharedProduct) : ChProductFact where
  vendor := p.product.vendor
  vendorProductId := p.product.vendorProductId
  title := p.product.title.getD ""
  costMu := p.product.costMu.getD 0

structure SharedCatalog where
  orders : List SharedOrder
  lines : List SharedLine
  products : List SharedProduct

/-! ### Products and grades -/

/-- A line with its product. -/
structure ProductLine where
  pid : String
  title : Option String
  vendorOrderId : String
  quantity : Int
  unitPriceMu : Int
  costMu : Int

namespace ProductLine

def revenueMu (l : ProductLine) : Int := l.quantity * l.unitPriceMu

def cogsMu (l : ProductLine) : Int := l.quantity * l.costMu

end ProductLine

/-- A row of `per`. -/
structure ProductSums where
  pid : String
  label : Option String
  revenueMu : Int
  cogsMu : Int
  sold : Int
  orders : Nat

inductive ParetoGrade where
  | a
  | b
  | c
  | f
deriving DecidableEq

/-- A row of the answer. -/
structure ProductRow where
  label : Option String
  grade : ParetoGrade
  cm1Mu : Int
  revenueMu : Int
  sold : Int
  orders : Nat
  totalCm1 : Int
deriving DecidableEq

section

-- What a store makes of a number that it computes.
variable (num : Int → Int)

/-- `per` -/
def productSums (lines : List ProductLine) : List ProductSums :=
  (keysOf ProductLine.pid lines).map fun pid =>
    let group := groupOf ProductLine.pid lines pid
    { pid := pid
      label := (group.filterMap (·.title)).max?
      revenueMu := num ((group.map fun l => num l.revenueMu).sum)
      cogsMu := num ((group.map fun l => num l.cogsMu).sum)
      sold := num ((group.map (·.quantity)).sum)
      orders := (group.map (·.vendorOrderId)).dedup.length }

def cm1Of (p : ProductSums) : Int := num (p.revenueMu - p.cogsMu)

/-- `SUM(...) OVER ()` -/
def totalCm1 (per : List ProductSums) : Int := num ((per.map (cm1Of num)).sum)

/-- The products before one and itself, by `cm1 DESC, pid`. -/
def upTo (per : List ProductSums) (p : ProductSums) : List ProductSums :=
  per.filter fun q => cm1Of num p < cm1Of num q ∨ (cm1Of num q = cm1Of num p ∧ q.pid ≤ p.pid)

/-- `SUM(...) OVER (ORDER BY cm1 DESC, pid)` -/
def cumCm1 (per : List ProductSums) (p : ProductSums) : Int :=
  num (((upTo num per p).map (cm1Of num)).sum)

/-- The `CASE` of the grades, with both sides of a share a hundredfold. -/
def paretoGrade (cm1 total cum : Int) : ParetoGrade :=
  if cm1 ≤ 0 then .f
  else if 0 < total ∧ num (cum * 100) ≤ num (80 * total) then .a
  else if 0 < total ∧ num (cum * 100) ≤ num (95 * total) then .b
  else .c

/-- `ranked`, with the grades. -/
def gradedProducts (per : List ProductSums) : List ProductRow :=
  per.map fun p =>
    { label := p.label
      grade := paretoGrade num (cm1Of num p) (totalCm1 num per) (cumCm1 num per p)
      cm1Mu := cm1Of num p
      revenueMu := p.revenueMu
      sold := p.sold
      orders := p.orders
      totalCm1 := totalCm1 num per }

end

/-! ### The statements -/

inductive SortDirection where
  | asc
  | desc
deriving DecidableEq

structure ReadProductPerformanceFilters where
  dateStart : Option Date
  dateEnd : Option Date
  search : Option String
  sort : Option String
  direction : Option SortDirection
  page : Option Int
  pageSize : Option Int

inductive ProductColumn where
  | cm1
  | revenue
  | sold
  | orders
  | label
deriving DecidableEq

def orderCol (sort : Option String) : ProductColumn :=
  match sort with
  | some "revenue" => .revenue
  | some "sold" => .sold
  | some "orders" => .orders
  | some "label" => .label
  | _ => .cm1

/-- A null label is greater than all others. -/
def ProductRow.labelKey (r : ProductRow) : WithTop String :=
  match r.label with
  | none => ⊤
  | some label => (label : WithTop String)

def columnLe (column : ProductColumn) (r s : ProductRow) : Prop :=
  match column with
  | .cm1 => r.cm1Mu ≤ s.cm1Mu
  | .revenue => r.revenueMu ≤ s.revenueMu
  | .sold => r.sold ≤ s.sold
  | .orders => r.orders ≤ s.orders
  | .label => r.labelKey ≤ s.labelKey

instance (column : ProductColumn) : DecidableRel (columnLe column) := fun r s => by
  cases column <;> unfold columnLe <;> infer_instance

/-- `ORDER BY column direction` -/
def rowBefore (column : ProductColumn) (direction : SortDirection) (r s : ProductRow) : Prop :=
  match direction with
  | .asc => columnLe column r s
  | .desc => columnLe column s r

instance (column : ProductColumn) (direction : SortDirection) :
    DecidableRel (rowBefore column direction) := fun r s => by
  cases direction <;> unfold rowBefore <;> infer_instance

namespace ReadProductPerformanceFilters

variable (filters : ReadProductPerformanceFilters)

def hasDateFilter : Bool := filters.dateStart.isSome || filters.dateEnd.isSome

/-- The two conditions on `o.processed_at`, each if there is a date for it. -/
def placedIn (o : OrderFact) : Bool :=
  filters.dateStart.all (fun d => o.processedAt.any fun t => (midnight d).instant ≤ t.instant) &&
    filters.dateEnd.all fun d => o.processedAt.any fun t => t.instant < (midnight d).instant + days 1

/-- The orders that a line is joined with, by their ids alone. -/
def ordersOf (orders : List OrderFact) (li : LineItemFact) : List OrderFact :=
  orders.filter fun o => o.vendorOrderId = li.vendorOrderId ∧ filters.placedIn o

/-- The line, once for each of these orders if there is a date at all. -/
def joinedLine (orders : List OrderFact) (li : LineItemFact) : List LineItemFact :=
  if filters.hasDateFilter then (filters.ordersOf orders li).map fun _ => li else [li]

def column : ProductColumn := orderCol filters.sort

def sortDirection : SortDirection := if filters.direction = some .asc then .asc else .desc

end ReadProductPerformanceFilters

/-- The join is by the product's id alone. -/
def productLines (facts : Facts) (filters : ReadProductPerformanceFilters) : List ProductLine :=
  facts.lineItems.flatMap fun li =>
    match li.vendorProductId with
    | none => []
    | some pid =>
      (filters.joinedLine facts.orders li).flatMap fun li =>
        (leftJoin (facts.products.filter (·.vendorProductId = pid))).map fun pf =>
          { pid := pid
            title := (pf.bind (·.title)).or li.title
            vendorOrderId := li.vendorOrderId
            quantity := li.quantity.toInt
            unitPriceMu := li.unitPriceMu.toInt
            costMu := ((pf.bind (·.costMu)).getD 0).toInt }

/-- The statement of PostgreSQL, of which sums are no bigints any more. -/
def productRowsPG (arrangement : Arrangement) (facts : Facts)
    (filters : ReadProductPerformanceFilters) : Except PgError (List ProductRow) :=
  let lines := productLines facts filters
  bigints (lines.map (·.revenueMu) ++ lines.map (·.cogsMu))
    ((orderBy arrangement (rowBefore filters.column filters.sortDirection)
      (gradedProducts id (productSums id lines))).take 500)

/-- A line without a product is joined with the defaults of the types. -/
def productLinesCH (lines : List ChLineItemFact) (products : List ChProductFact) :
    List ProductLine :=
  lines.flatMap fun li =>
    if li.vendorProductId = "" then []
    else
      (leftJoin (products.filter fun pf =>
          pf.vendor = li.vendor ∧ pf.vendorProductId = li.vendorProductId)).map fun pf =>
        { pid := li.vendorProductId
          title := some ((pf.map ChProductFact.title).getD "")
          vendorOrderId := li.vendorOrderId
          quantity := li.quantity.toInt
          unitPriceMu := li.priceMu.toInt
          costMu := ((pf.map ChProductFact.costMu).getD 0).toInt }

/-- An `Int64` that is computed. -/
def wrap64 (n : Int) : Int := (Int64.ofInt n).toInt

def productRowsCH (arrangement : Arrangement) (lines : List ChLineItemFact)
    (products : List ChProductFact) : List ProductRow :=
  (orderBy arrangement (rowBefore .cm1 .desc)
    (gradedProducts wrap64 (productSums wrap64 (productLinesCH lines products)))).take 500

/-! ### The code around the statements -/

structure FactProductRow where
  label : String
  paretoGrade : ParetoGrade
  cm1Mu : Int
  revenueMu : Int
  soldQty : Int
  orders : Nat
  aovMu : Option Int
deriving DecidableEq

def factProductRow (r : ProductRow) : FactProductRow where
  label := r.label.getD "(unknown)"
  paretoGrade := r.grade
  cm1Mu := r.cm1Mu
  revenueMu := r.revenueMu
  soldQty := r.sold
  orders := r.orders
  aovMu := if 0 < r.orders then some (r.revenueMu.tdiv r.orders) else none

structure ProductPerformance where
  rows : List FactProductRow
  totalCm1Mu : Int
  totalUnfilteredRows : Nat
deriving DecidableEq

/-- `search?.trim().toLowerCase()`, if anything is left. -/
def searchText (engine : Engine) (search : Option String) : Option String :=
  match search.map fun text => String.ofList (Js.trim text.toList) with
  | none | some "" => none
  | some text => some (engine.toLowerCase text)

def searched (engine : Engine) (search : Option String) (rows : List FactProductRow) :
    List FactProductRow :=
  match searchText engine search with
  | none => rows
  | some q => rows.filter fun r => Js.includes (engine.toLowerCase r.label) q

def paged (page pageSize : Option Int) (rows : List FactProductRow) : List FactProductRow :=
  match pageSize with
  | none => rows
  | some size =>
    if 0 < size then
      let start := (max 1 (page.getD 1) - 1) * size
      (rows.drop start.toNat).take size.toNat
    else rows

/-- Both routes filter by the search and page in memory. -/
def productPage (engine : Engine) (filters : ReadProductPerformanceFilters)
    (found : List ProductRow) : ProductPerformance :=
  let rows := searched engine filters.search (found.map factProductRow)
  { rows := paged filters.page filters.pageSize rows
    totalCm1Mu := (found.head?.map (·.totalCm1)).getD 0
    totalUnfilteredRows := rows.length }

def readProductPerformancePG (engine : Engine) (arrangement : Arrangement) (facts : Facts)
    (filters : ReadProductPerformanceFilters) : Except PgError ProductPerformance := do
  let found ← productRowsPG arrangement facts filters
  .ok (productPage engine filters found)

/-- The dates, the sort and the direction go unused. -/
def readProductPerformanceCH (engine : Engine) (arrangement : Arrangement)
    (lines : List ChLineItemFact) (products : List ChProductFact)
    (filters : ReadProductPerformanceFilters) : ProductPerformance :=
  productPage engine filters (productRowsCH arrangement lines products)

/-- What row security leaves of the tables of ClickHouse. -/
structure ChTables where
  orders : List ChOrderFact
  lineItems : List ChLineItemFact
  products : List ChProductFact

/-- `READ_FROM_CH` -/
def readProductPerformance (readFromCH : Bool) (engine : Engine) (arrangement : Arrangement)
    (facts : Facts) (ch : ChTables) (filters : ReadProductPerformanceFilters) :
    Except PgError ProductPerformance :=
  if readFromCH then
    .ok (readProductPerformanceCH engine arrangement ch.lineItems ch.products filters)
  else readProductPerformancePG engine arrangement facts filters

end BrainV2.Analytics
