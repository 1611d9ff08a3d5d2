import BrainV2.Analytics.Cascade
import BrainV2.Analytics.ChHeadline
import BrainV2.Analytics.Facts
import BrainV2.Sql.Averages
import Mathlib.Data.List.MinMax

/-!
# Distributions of line values

* `ChEngine`: what ClickHouse leaves open;
* `readDistributionsCH`: the values of each product, and of all lines;
* `graphPoints`, `readDistributionsGraphPointsCH`: the density of the values;
* `modeOf`, `meanOf`: the most frequent value of lines, and the average;
* `readDistributions`, `readDistributionsGraphPoints`: which read all lines.
-/

namespace BrainV2.Analytics

open Grouping
open RowOrder (Arrangement orderBy)

section

structure ChEngine where
  /-- `topK(1)`, which estimates the most frequent value. -/
  topK : List Int64 → Option Int64
  /-- `toInt64` of no number. -/
  toInt64OfNan : Int

variable (engine : ChEngine) (b : Arrangement) (db : ChDatabase) (workspaceId : String)

/-- `li.quantity * li.price_mu` -/
def ChLineItemFact.valueMu (li : ChLineItemFact) : Int64 :=
  Int64.ofInt (li.quantity.toInt * li.priceMu.toInt)

/-- `arrayElement(topK(1)(...), 1)` -/
def modeCH (values : List Int64) : Int := ((engine.topK values).getD 0).toInt

/-- `toInt64(round(avg(...)))` -/
def meanCH (values : List Int64) : Int :=
  if values = [] then engine.toInt64OfNan else avgCH (values.map (·.toInt))

/-! ### Products -/

structure FactDistRow where
  product : String
  orders : Nat
  modeMu : Int
  meanMu : Int
deriving DecidableEq

structure FactDistributions where
  rows : List FactDistRow
  globalMode : Int
  globalMean : Int
deriving DecidableEq

/-- `prod_titles`, or the default when a product has none. -/
def productTitle (pid : String) : String :=
  anyTitle b (((db.productFactsOf workspaceId).filter (·.vendorProductId = pid)).map (·.title))

def distributionRow (pid title : String) (lines : List ChLineItemFact) : FactDistRow where
  product :=
    let pt := productTitle b db workspaceId pid
    if pt ≠ "" then pt else if title ≠ "" then title else "(unknown)"
  orders := lines.length
  modeMu := modeCH engine (lines.map (·.valueMu))
  meanMu := meanCH engine (lines.map (·.valueMu))

def distributionRows : List FactDistRow :=
  let lines := (db.lineFactsOf workspaceId).filter (·.vendorProductId ≠ "")
  let key (li : ChLineItemFact) : String ×ₗ String := toLex (li.vendorProductId, li.title)
  (orderBy b (fun r r' : FactDistRow => r'.orders ≤ r.orders)
    ((keysOf key lines).map fun k =>
      distributionRow engine b db workspaceId (ofLex k).1 (ofLex k).2
        (groupOf key lines k))).take 100

def readDistributionsCH : FactDistributions :=
  let values := (db.lineFactsOf workspaceId).map (·.valueMu)
  { rows := distributionRows engine b db workspaceId
    globalMode := modeCH engine values
    globalMean := meanCH engine values }

/-! ### The density -/

inductive DistMetric where
  | sales
  | cm1
deriving DecidableEq

structure FactDistGraphPoint where
  valueMu : Int
  densityBp : Int
deriving DecidableEq

/-- `li.quantity * li.price_mu - li.quantity * coalesce(pf.cost_mu, 0)` -/
def ChLine.cm1Mu (li : ChLine) (pf : Option ChProduct) : Int64 :=
  let costMu : Int64 := (pf.map (·.costMu)).getD 0
  li.valueMu - Int64.ofInt (li.quantity.toInt * costMu.toInt)

/-- The products of a line, of the workspace that the line is of. -/
def joinsProduct (li : ChLine) (pf : ChProduct) : Bool :=
  pf.workspaceId = li.workspaceId ∧ pf.vendorProductId = li.vendorProductId

def cm1Values : List Int64 :=
  (db.lineItems.filter fun li => li.workspaceId = workspaceId ∧ li.vendorProductId ≠ "").flatMap
    fun li => (leftJoin (db.products.filter (joinsProduct li))).map li.cm1Mu

def salesValues : List Int64 :=
  ((db.lineFactsOf workspaceId).filter (·.vendorProductId ≠ "")).map (·.valueMu)

/-- Some 2000 of the values. -/
def graphValues (metric : DistMetric) : List Int :=
  let values :=
    match metric with
    | .cm1 => cm1Values db workspaceId
    | .sales => salesValues db workspaceId
  ((b.arrange values).take 2000).map (·.toInt)

/-- The double nearest to a multiple of a double. -/
def floatMul : Binary64.Double → Nat → Binary64.Double
  | .finite x, n => Binary64.round x.negative (x.units * n) (2 ^ 1074)
  | other, _ => other

/-- `Math.round((c / total) * 10000)` -/
def densityBp (c total : Nat) : Int :=
  match floatMul (Sql.floatDiv (Binary64.ofInt c) total) 10000 with
  | .finite x => ((2 * x.units + 2 ^ 1074) / (2 * 2 ^ 1074) : Nat)
  | _ => 0

def graphBuckets : Nat := 40

/-- The values above zero, in even buckets from the least to the greatest. -/
def graphPoints (values : List Int) : List FactDistGraphPoint :=
  let positive := values.filter (0 < ·)
  match positive.min?, positive.max? with
  | some minVal, some maxVal =>
    if minVal = maxVal then [⟨minVal, 10000⟩]
    else
      let whole := (maxVal - minVal).tdiv graphBuckets
      let bucketSize := if whole = 0 then 1 else whole
      (List.range graphBuckets).map fun i =>
        let count := (positive.filter fun v =>
          min (graphBuckets - 1 : Int) ((v - minVal).tdiv bucketSize) = i).length
        ⟨minVal + bucketSize * i + bucketSize.tdiv 2, densityBp count positive.length⟩
  | _, _ => []

def readDistributionsGraphPointsCH (metric : DistMetric) : List FactDistGraphPoint :=
  graphPoints (graphValues b db workspaceId metric)

/-! ### Each of them reads one workspace -/

section

variable {engine b db workspaceId} {db' : ChDatabase} (h : SameFor workspaceId db db')
include h

theorem productTitle_same :
    productTitle b db workspaceId = productTitle b db' workspaceId := by
  funext pid
  rw [productTitle, h.productFactsOf]
  rfl

theorem distributionRows_same :
    distributionRows engine b db workspaceId = distributionRows engine b db' workspaceId := by
  simp only [distributionRows, distributionRow, h.lineFactsOf, productTitle_same h]

theorem readDistributionsCH_same :
    readDistributionsCH engine b db workspaceId = readDistributionsCH engine b db' workspaceId := by
  simp only [readDistributionsCH, distributionRows_same h, h.lineFactsOf]

theorem cm1Values_same : cm1Values db workspaceId = cm1Values db' workspaceId := by
  have hlines : (db.lineItems.filter fun li =>
      li.workspaceId = workspaceId ∧ li.vendorProductId ≠ "") =
        db'.lineItems.filter fun li => li.workspaceId = workspaceId ∧ li.vendorProductId ≠ "" :=
    h.lineItems.filter fun li hli => (of_decide_eq_true hli).1
  rw [cm1Values, cm1Values, ← hlines]
  refine h.products.join joinsProduct (fun li hli pf hon => ?_) fun li found =>
    (leftJoin found).map li.cm1Mu
  have hline := of_decide_eq_true (List.mem_filter.mp hli).2
  exact (of_decide_eq_true hon).1.trans hline.1

theorem readDistributionsGraphPointsCH_same (metric : DistMetric) :
    readDistributionsGraphPointsCH b db workspaceId metric =
      readDistributionsGraphPointsCH b db' workspaceId metric := by
  simp only [readDistributionsGraphPointsCH, graphValues, cm1Values_same h, salesValues,
    h.lineFactsOf]

end

end

/-! ## Distributions in Postgres -/

section

open Sql (roundAway)

/-- `quantity * unit_price_mu` -/
def LineItemFact.valueMu (li : LineItemFact) : Int := li.quantity.toInt * li.unitPriceMu.toInt

/-- `mode() WITHIN GROUP (ORDER BY ...)`: of equally frequent values the least. -/
def modeOf (values : List Int) : Int :=
  ((keysOf id values).argmax fun v => values.count v).getD 0

/-- `avg(...)::bigint` -/
def meanOf (values : List Int) : Int :=
  if values = [] then 0 else roundAway values.sum values.length

/-- The lines with a product id, each with the products of its vendor under that id. -/
def distributionLines (facts : Facts) : List (LineItemFact × Option ProductFact) :=
  (facts.lineItems.filter (·.vendorProductId.isSome)).flatMap fun li =>
    (leftJoin (productsOf facts.products li)).map fun pf => (li, pf)

/-- `GROUP BY li.vendor_product_id, li.title` -/
def distributionKey (r : LineItemFact × Option ProductFact) : String ×ₗ WithTop String :=
  toLex (r.1.vendorProductId.getD "", r.1.title)

variable (b : Arrangement)

def factDistRow (rows : List (LineItemFact × Option ProductFact)) : FactDistRow where
  product :=
    match (rows.filterMap fun r => r.2.bind (·.title)).max?, rows.head?.bind (·.1.title) with
    | some title, _ => title
    | none, some title => title
    | none, none => "(unknown)"
  orders := rows.length
  modeMu := modeOf (rows.map (·.1.valueMu))
  meanMu := meanOf (rows.map (·.1.valueMu))

def readDistributions (facts : Facts) : Except PgError FactDistributions :=
  let lines := distributionLines facts
  let rows := (keysOf distributionKey lines).map fun k =>
    factDistRow (groupOf distributionKey lines k)
  let values := facts.lineItems.map (·.valueMu)
  bigints values
    { rows := (orderBy b (fun r r' : FactDistRow => r'.orders ≤ r.orders) rows).take 100
      globalMode := modeOf values
      globalMean := meanOf values }

/-! ### The density -/

/-- The lines with a product id, each with the products of any vendor under that id. -/
def graphLines (facts : Facts) : List (LineItemFact × Option ProductFact) :=
  (facts.lineItems.filter (·.vendorProductId.isSome)).flatMap fun li =>
    (leftJoin (facts.products.filter fun pf => some pf.vendorProductId = li.vendorProductId)).map
      fun pf => (li, pf)

/-- `COALESCE(li.quantity * pf.cost_mu, 0)` -/
def lineCostMu (r : LineItemFact × Option ProductFact) : Int :=
  ((r.2.bind (·.costMu)).map fun costMu => r.1.quantity.toInt * costMu.toInt).getD 0

/-- `valueExpr` -/
def graphValue (metric : DistMetric) (r : LineItemFact × Option ProductFact) : Int :=
  match metric with
  | .cm1 => r.1.valueMu - lineCostMu r
  | .sales => r.1.valueMu

/-- What `valueExpr` computes of a row, each a bigint. -/
def graphProducts (metric : DistMetric) (r : LineItemFact × Option ProductFact) : List Int :=
  match metric with
  | .cm1 => [r.1.valueMu, lineCostMu r, graphValue .cm1 r]
  | .sales => [r.1.valueMu]

def readDistributionsGraphPoints (facts : Facts) (metric : DistMetric) :
    Except PgError (List FactDistGraphPoint) :=
  let rows := (b.arrange (graphLines facts)).take 2000
  bigints (rows.flatMap (graphProducts metric)) (graphPoints (rows.map (graphValue metric)))

end

end BrainV2.Analytics
