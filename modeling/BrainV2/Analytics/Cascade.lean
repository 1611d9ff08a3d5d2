import BrainV2.Analytics.Products
import BrainV2.Sql.Averages

/-!
# The first-product cascade in both stores

* `firstOrders`: each customer's first order;
* `CascadeCustomer`, `cascadeRows`: the customers with their first products, and by product;
* `readFirstProductCascadePG`, `readFirstProductCascadeCH`: the statements;
* `readFirstProductCascade`: by the flag.
-/

namespace BrainV2.Analytics

open Py (Date)
open Sql (Timestamp FactDateRange days roundAway roundFloat)
open Grouping
open RowOrder (Arrangement orderBy)

/-! ### First orders and first products -/

/-- A row of `first_order`. -/
structure FirstOrder where
  customer : String
  vendorOrderId : String
  time : Timestamp

def firstOrder (customer : String) (places : List (Timestamp ×ₗ String)) : Option FirstOrder :=
  places.min?.map fun place => ⟨customer, (ofLex place).2, (ofLex place).1⟩

/-- The first order of each customer with one in the window. -/
def firstOrders (orders : List PlacedOrder) (window : Option FactDateRange) : List FirstOrder :=
  let rows := (knownOrders orders).filter fun o => window.all (·.has o.placedAt)
  (keysOf PlacedOrder.customer rows).filterMap fun c =>
    firstOrder c ((groupOf PlacedOrder.customer rows c).map (·.place))

/-- A line of a first order, with a product. -/
structure FirstProductLine where
  pid : String
  title : String
  lineId : String
  valueMu : Int

/-- `ORDER BY value DESC, pid, line` -/
def FirstProductLine.rank (l : FirstProductLine) : Int ×ₗ String ×ₗ String :=
  toLex (-l.valueMu, toLex (l.pid, l.lineId))

def lineBefore (l m : FirstProductLine) : Prop := l.rank ≤ m.rank

instance : DecidableRel lineBefore := fun l m => inferInstanceAs (Decidable (l.rank ≤ m.rank))

def firstProductLines (facts : Facts) (fo : FirstOrder) : List FirstProductLine :=
  (facts.lineItems.filter (·.vendorOrderId = fo.vendorOrderId)).flatMap fun li =>
    match li.vendorProductId with
    | none => []
    | some pid =>
      (leftJoin (facts.products.filter fun pf =>
          pf.vendor = li.vendor ∧ pf.vendorProductId = pid)).map fun pf =>
        { pid := pid
          title := ((pf.bind (·.title)).or li.title).getD "(unknown)"
          lineId := li.vendorLineId
          valueMu := li.quantity.toInt * li.unitPriceMu.toInt }

/-! ### Customers and products -/

/-- A customer with a first product; the last two are known to PostgreSQL alone. -/
structure CascadeCustomer where
  pid : String
  orders : Nat
  ltvMu : Int
  title : String
  /-- When the next order after the first one was placed. -/
  second : Option Timestamp

/-- The orders of a customer from the first one on, for some days. -/
def observedOrders (orders : List PlacedOrder) (obsDays : Nat) (fo : FirstOrder) :
    List PlacedOrder :=
  (groupOf PlacedOrder.customer (knownOrders orders) fo.customer).filter fun o =>
    fo.time.instant ≤ o.placedAt.instant ∧ o.placedAt.instant ≤ fo.time.instant + days obsDays

/-- `Math.min(730, Math.max(30, observationDays ?? 365))` -/
def obsDaysOf (observationDays : Option Nat) : Nat := min 730 (max 30 (observationDays.getD 365))

def cascadeCustomer (a : Arrangement) (orders : List PlacedOrder) (facts : Facts) (obsDays : Nat)
    (fo : FirstOrder) : Option CascadeCustomer :=
  (orderBy a lineBefore (firstProductLines facts fo)).head?.map fun line =>
    let observed := observedOrders orders obsDays fo
    { pid := line.pid
      orders := observed.length
      ltvMu := (observed.map (·.order.netMu)).sum
      title := line.title
      second := ((observed.filter fun o => fo.time < o.placedAt).map (·.placedAt)).min? }

/-- A row of the answer; the last two columns are PostgreSQL's alone. -/
structure CascadeRow where
  pid : String
  title : String
  customers : Nat
  with2nd : Nat
  with3rd : Nat
  with4th : Nat
  avgLtvMu : Int
  sumAdditional : Nat
  /-- The second orders of which the days are added up. -/
  seconds : List Timestamp

/-- The rows by product, given how a store takes an average and a title. -/
def cascadeRows (avg : List Int → Int) (title : String → List CascadeCustomer → String)
    (customers : List CascadeCustomer) : List CascadeRow :=
  (keysOf CascadeCustomer.pid customers).map fun pid =>
    let group := groupOf CascadeCustomer.pid customers pid
    { pid := pid
      title := title pid group
      customers := group.length
      with2nd := (group.filter (2 ≤ ·.orders)).length
      with3rd := (group.filter (3 ≤ ·.orders)).length
      with4th := (group.filter (4 ≤ ·.orders)).length
      avgLtvMu := avg (group.map (·.ltvMu))
      sumAdditional := (group.map (·.orders - 1)).sum
      seconds := (group.filter (2 ≤ ·.orders)).filterMap (·.second) }

/-- `ORDER BY count(*) DESC` -/
def moreCustomers (r s : CascadeRow) : Prop := s.customers ≤ r.customers

instance : DecidableRel moreCustomers :=
  fun r s => inferInstanceAs (Decidable (s.customers ≤ r.customers))

def mostCustomers (a : Arrangement) (rows : List CascadeRow) : List CascadeRow :=
  (orderBy a moreCustomers rows).take 100

/-! ### The readers -/

structure FactCascadeRow where
  productKey : String
  productTitle : String
  firstOrderCustomers : Nat
  with2nd : Nat
  with3rd : Nat
  with4thPlus : Nat
  avgLtvMu : Int
  sumAdditionalOrders : Nat
  sumDaysToSecond : Int
  customersWith2ndInWindow : Nat
deriving DecidableEq

structure FirstProductCascade where
  rows : List FactCascadeRow
  totalCohort : Nat
deriving DecidableEq

def cascadeOf (rows : List FactCascadeRow) : FirstProductCascade :=
  ⟨rows, (rows.map (·.firstOrderCustomers)).sum⟩

inductive CascadeError where
  | pg (e : PgError)
  | syntaxError
deriving DecidableEq

/-- `BigInt(r.sum_days)`: a sum of quotients has decimals in its text, which `BigInt` does not
take. -/
def sumDays (r : CascadeRow) : Except CascadeError Int :=
  if r.seconds = [] then .ok 0 else .error .syntaxError

def factCascadeRow (r : CascadeRow) (sumAdditionalOrders : Nat) (sumDaysToSecond : Int) :
    FactCascadeRow where
  productKey := r.pid
  productTitle := r.title
  firstOrderCustomers := r.customers
  with2nd := r.with2nd
  with3rd := r.with3rd
  with4thPlus := r.with4th
  avgLtvMu := r.avgLtvMu
  sumAdditionalOrders := sumAdditionalOrders
  sumDaysToSecond := sumDaysToSecond
  customersWith2ndInWindow := r.with2nd

def factCascadeRowPG (r : CascadeRow) : Except CascadeError FactCascadeRow := do
  let sumDaysToSecond ← sumDays r
  .ok (factCascadeRow r r.sumAdditional sumDaysToSecond)

/-- The window of the two dates, of which both are needed. -/
def windowOf : Option Date → Option Date → Option FactDateRange
  | some fromDate, some toDate => some ⟨fromDate, toDate⟩
  | _, _ => none

/-- `max(fp.title)` -/
def titlePG (_ : String) (group : List CascadeCustomer) : String :=
  ((group.map (·.title)).max?).getD "(unknown)"

def avgPG (values : List Int) : Int := roundAway values.sum values.length

def cascadeRowsPG (a : Arrangement) (orders : List PlacedOrder) (facts : Facts)
    (window : Option FactDateRange) (obsDays : Nat) : Except PgError (List CascadeRow) :=
  let firsts := firstOrders orders window
  let rows := cascadeRows avgPG titlePG (firsts.filterMap (cascadeCustomer a orders facts obsDays))
  bigints
    ((firsts.flatMap fun fo => (firstProductLines facts fo).map (·.valueMu)) ++
      (firsts.flatMap fun fo => (observedOrders orders obsDays fo).map (·.order.netMu)) ++
      rows.map (·.avgLtvMu))
    (mostCustomers a rows)

def readFirstProductCascadePG (a : Arrangement) (orders : List PlacedOrder) (facts : Facts)
    (fromDate toDate : Option Date) (observationDays : Option Nat) :
    Except CascadeError FirstProductCascade := do
  let found ← (cascadeRowsPG a orders facts (windowOf fromDate toDate)
    (obsDaysOf observationDays)).mapError .pg
  let rows ← found.mapM factCascadeRowPG
  .ok (cascadeOf rows)

def firstOrdersCH (orders : List ChOrderFact) : List FirstOrder :=
  (keysOf ChOrderFact.customerRef (chKnownOrders orders)).filterMap fun c =>
    firstOrder c ((groupOf ChOrderFact.customerRef (chKnownOrders orders) c).map (·.place))

/-- `ORDER BY vendor_line_id` -/
def lineIdLe (l m : ChLineItemFact) : Prop := l.vendorLineId ≤ m.vendorLineId

instance : DecidableRel lineIdLe :=
  fun l m => inferInstanceAs (Decidable (l.vendorLineId ≤ m.vendorLineId))

/-- `argMin(li.vendor_product_id, li.vendor_line_id)` -/
def firstPidCH (b : Arrangement) (lines : List ChLineItemFact) (fo : FirstOrder) : Option String :=
  (orderBy b lineIdLe (lines.filter fun l =>
    l.vendor = "SHOPIFY" ∧ l.vendorOrderId = fo.vendorOrderId ∧ l.vendorProductId ≠ "")).head?.map
      (·.vendorProductId)

/-- `any(title)`, or the default when there is none to choose from. -/
def anyTitle (b : Arrangement) (titles : List String) : String := (b.arrange titles).head?.getD ""

def titleCH (b : Arrangement) (lines : List ChLineItemFact) (products : List ChProductFact)
    (pid : String) : String :=
  let pt := anyTitle b ((products.filter (·.vendorProductId = pid)).map (·.title))
  let lt := anyTitle b ((lines.filter (·.vendorProductId = pid)).map (·.title))
  if pt ≠ "" then pt else if lt ≠ "" then lt else "(unknown)"

/-- `toInt64(round(avgOrNull(...)))`, of which the sum is an `Int64`. -/
def avgCH (values : List Int) : Int := roundFloat (wrap64 values.sum) values.length

def cascadeCustomerCH (b : Arrangement) (orders : List ChOrderFact) (lines : List ChLineItemFact)
    (fo : FirstOrder) : Option CascadeCustomer :=
  (firstPidCH b lines fo).map fun pid =>
    let group := groupOf ChOrderFact.customerRef (chKnownOrders orders) fo.customer
    { pid := pid
      orders := group.length
      ltvMu := sumInt64 (group.map (·.netMu))
      title := ""
      second := none }

def cascadeRowsCH (b : Arrangement) (orders : List ChOrderFact) (lines : List ChLineItemFact)
    (products : List ChProductFact) : List CascadeRow :=
  mostCustomers b (cascadeRows avgCH (fun pid _ => titleCH b lines products pid)
    ((firstOrdersCH orders).filterMap (cascadeCustomerCH b orders lines)))

/-- The window and the days go unused, and two sums are zero. -/
def readFirstProductCascadeCH (b : Arrangement) (orders : List ChOrderFact)
    (lines : List ChLineItemFact) (products : List ChProductFact) : FirstProductCascade :=
  cascadeOf ((cascadeRowsCH b orders lines products).map fun r => factCascadeRow r 0 0)

/-- `READ_FROM_CH` -/
def readFirstProductCascade (readFromCH : Bool) (a : Arrangement) (orders : List PlacedOrder)
    (facts : Facts) (ch : ChTables) (fromDate toDate : Option Date) (observationDays : Option Nat) :
    Except CascadeError FirstProductCascade :=
  if readFromCH then .ok (readFirstProductCascadeCH a ch.orders ch.lineItems ch.products)
  else readFirstProductCascadePG a orders facts fromDate toDate observationDays

end BrainV2.Analytics
