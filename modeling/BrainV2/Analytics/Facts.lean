import BrainV2.Lib.Grouping
import BrainV2.Lib.Integers
import BrainV2.Sql.Timestamps
import Mathlib.Data.String.Basic

/-!
# Canonical facts of a workspace

* `OrderFact`, `LineItemFact`, `ProductFact`, `AdSpendFact`: the columns that the analytics read;
* `OrderFact.live`: the filter `CANCELLED`;
* `PlacedOrder`: an order with the time it was placed at;
* `bigints`: arithmetic of rows, which fails outside 64 bits;
* `CogsBasis`: what the cost of a line is computed from, in the order of the settings;
* `readCogs`;
* `readCogs_unnamed`: lines without a product cost nothing, unless by the settings.
-/

namespace BrainV2.Analytics

open Py (Date)
open Sql (Timestamp FactDateRange)
open Grouping
open Wrapping (Fits)

structure OrderFact where
  vendor : String
  vendorOrderId : String
  customerRef : Option String
  grossSalesMu : Int64
  totalDiscountMu : Int64
  totalTaxMu : Int64
  shippingMu : Int64
  currencyCode : String
  financialStatus : Option String
  cancelledAt : Option Timestamp
  processedAt : Option Timestamp
deriving DecidableEq

structure LineItemFact where
  vendor : String
  vendorOrderId : String
  vendorLineId : String
  vendorProductId : Option String
  title : Option String
  quantity : Int64
  unitPriceMu : Int64
deriving DecidableEq

structure ProductFact where
  vendor : String
  vendorProductId : String
  title : Option String
  costMu : Option Int64
deriving DecidableEq

structure AdSpendFact where
  vendor : String
  campaignId : String
  spendDate : Date
  spendMu : Int64
  currencyCode : String
deriving DecidableEq

/-- What row security leaves of the tables. -/
structure Facts where
  orders : List OrderFact
  lineItems : List LineItemFact
  products : List ProductFact
  adSpend : List AdSpendFact

/-! ### Orders -/

/-- `lower()`, of ASCII letters -/
def lower (text : String) : String := String.ofList (text.toList.map Char.toLower)

namespace OrderFact

def status (o : OrderFact) : String := lower (o.financialStatus.getD "")

/-- `CANCELLED` -/
def live (o : OrderFact) : Bool := o.cancelledAt = none ∧ o.status ∉ ["voided", "refunded"]

/-- `NET_EXPR` -/
def netMu (o : OrderFact) : Int := o.grossSalesMu.toInt - o.totalDiscountMu.toInt

/-- `pgDateClause('processed_at', range)`: without a range all rows, and with one no row undated. -/
def inRange (range : Option FactDateRange) (o : OrderFact) : Bool :=
  match range with
  | none => true
  | some range => o.processedAt.any range.has

end OrderFact

/-- `WHERE TRUE ... AND CANCELLED` -/
def liveIn (range : Option FactDateRange) (orders : List OrderFact) : List OrderFact :=
  (orders.filter (·.inRange range)).filter (·.live)

/-- An order with the time it was placed at. -/
structure PlacedOrder where
  order : OrderFact
  placedAt : Timestamp
  placed : order.processedAt = some placedAt

namespace OrderFact

def placed? (o : OrderFact) : Option PlacedOrder :=
  match h : o.processedAt with
  | none => none
  | some placedAt => some ⟨o, placedAt, h⟩

variable {o : OrderFact}

theorem placed?_of_none (h : o.processedAt = none) : o.placed? = none := by
  rw [placed?]
  split
  · rfl
  · next placedAt hplaced =>
    rw [h] at hplaced
    cases hplaced

theorem placed?_of_some {placedAt : Timestamp} (h : o.processedAt = some placedAt) :
    o.placed? = some ⟨o, placedAt, h⟩ := by
  rw [placed?]
  split
  · next hnone =>
    rw [h] at hnone
    cases hnone
  · next other hother =>
    obtain rfl : placedAt = other := Option.some.inj (h.symm.trans hother)
    rfl

end OrderFact

/-- The orders of a range, which all have a time. -/
def placedIn (range : FactDateRange) (orders : List OrderFact) : List PlacedOrder :=
  (orders.filterMap OrderFact.placed?).filter fun o => range.has o.placedAt

theorem map_placedIn (range : FactDateRange) (orders : List OrderFact) :
    (placedIn range orders).map (·.order) = orders.filter (·.inRange (some range)) := by
  induction orders with
  | nil => rfl
  | cons o orders ih =>
    simp only [placedIn] at ih ⊢
    cases h : o.processedAt with
    | none =>
      have hout : o.inRange (some range) = false := by
        simp only [OrderFact.inRange, h, Option.any_none]
      rw [List.filterMap_cons, OrderFact.placed?_of_none h,
        List.filter_cons_of_neg (by simp [hout])]
      exact ih
    | some placedAt =>
      have hin : o.inRange (some range) = range.has placedAt := by
        simp only [OrderFact.inRange, h, Option.any_some]
      rw [List.filterMap_cons, OrderFact.placed?_of_some h, List.filter_cons, List.filter_cons, hin]
      simp only
      split
      · rw [List.map_cons, ih]
      · exact ih

/-! ### Joins and 64-bit arithmetic -/

/-- The matches of a left join: one null row when there are none. -/
def leftJoin {β : Type} : List β → List (Option β)
  | [] => [none]
  | found => found.map some

inductive PgError where
  | bigintOutOfRange
  | integerOutOfRange
deriving DecidableEq

/-- A statement that computes these of its rows: the first one out of range fails it. -/
def bigints {β : Type} (values : List Int) (answer : β) : Except PgError β :=
  if ∀ v ∈ values, Fits v then .ok answer else .error .bigintOutOfRange

theorem bigints_ok {β : Type} {values : List Int} {answer : β} (h : ∀ v ∈ values, Fits v) :
    bigints values answer = .ok answer := if_pos h

theorem bigints_ok_iff {β : Type} {values : List Int} {answer result : β} :
    bigints values answer = .ok result ↔ (∀ v ∈ values, Fits v) ∧ answer = result := by
  rw [bigints]
  split
  · next h => rw [Except.ok.injEq, and_iff_right h]
  · next h => simp only [reduceCtorEq, h, false_and]

/-! ### The cost of goods sold -/

/-- A row of `workspace_cogs_settings`, in basis points. -/
structure CogsSettings where
  overrideBp : Int32
  fallbackBp : Int32
  markupBp : Int32

structure FactCogs where
  cogsMu : Int
  coveredLines : Nat
  totalLines : Nat
deriving DecidableEq

/-- The orders of a range, by their ids alone. -/
def LineItemFact.inRange (orders : List OrderFact) (range : Option FactDateRange)
    (li : LineItemFact) : Bool :=
  match range with
  | none => true
  | some range => orders.any fun o => o.inRange (some range) && o.vendorOrderId == li.vendorOrderId

def productsOf (products : List ProductFact) (li : LineItemFact) : List ProductFact :=
  products.filter fun pf => pf.vendor = li.vendor ∧ some pf.vendorProductId = li.vendorProductId

/-- The lines, each with the cost of its product. -/
def linesWithCosts (facts : Facts) (range : Option FactDateRange) :
    List (LineItemFact × Option Int64) :=
  (facts.lineItems.filter (·.inRange facts.orders range)).flatMap fun li =>
    (leftJoin (productsOf facts.products li)).map fun pf => (li, pf.bind (·.costMu))

inductive CogsBasis where
  /-- A share of the revenue of the line. -/
  | revenue (bp : Int)
  | product (costMu : Int)
  | nothing

/-- The `CASE` of the statement. -/
def cogsBasis (settings : CogsSettings) (costMu : Option Int64) : CogsBasis :=
  if 0 < settings.overrideBp.toInt then .revenue settings.overrideBp.toInt
  else if costMu.any (0 < ·.toInt) then .product (costMu.getD 0).toInt
  else if 0 < settings.fallbackBp.toInt then .revenue settings.fallbackBp.toInt
  else .nothing

namespace CogsBasis

/-- What is multiplied on the way, each a bigint. -/
def products (markupBp : Int) (li : LineItemFact) : CogsBasis → List Int
  | revenue bp =>
    [li.quantity.toInt * li.unitPriceMu.toInt, li.quantity.toInt * li.unitPriceMu.toInt * bp]
  | product costMu =>
    [li.quantity.toInt * costMu, li.quantity.toInt * costMu * (10000 + markupBp)]
  | nothing => []

def cogs (markupBp : Int) (li : LineItemFact) : CogsBasis → Int
  | revenue bp => (li.quantity.toInt * li.unitPriceMu.toInt * bp).tdiv 10000
  | product costMu => (li.quantity.toInt * costMu * (10000 + markupBp)).tdiv 10000
  | nothing => 0

end CogsBasis

/-- `FILTER (WHERE ovr > 0 OR pf.cost_mu > 0 OR fb > 0)` -/
def isCovered (settings : CogsSettings) (costMu : Option Int64) : Bool :=
  0 < settings.overrideBp.toInt ∨ costMu.any (0 < ·.toInt) ∨ 0 < settings.fallbackBp.toInt

/-- `10000 + mk` is an integer, computed when the statement is planned, unless an override leaves
nothing else of the `CASE`. -/
def markupFits (settings : CogsSettings) : Prop :=
  0 < settings.overrideBp.toInt ∨ 10000 + settings.markupBp.toInt ≤ 2147483647

instance (settings : CogsSettings) : Decidable (markupFits settings) :=
  inferInstanceAs (Decidable (_ ∨ _))

def readCogs (settings : CogsSettings) (facts : Facts) (range : Option FactDateRange) :
    Except PgError FactCogs :=
  if markupFits settings then
    let rows := linesWithCosts facts range
    let markupBp := settings.markupBp.toInt
    let products := rows.flatMap fun r => (cogsBasis settings r.2).products markupBp r.1
    let cogs := (rows.map fun r => (cogsBasis settings r.2).cogs markupBp r.1).sum
    bigints (products ++ [cogs])
      ⟨cogs, (rows.filter fun r => isCovered settings r.2).length, rows.length⟩
  else .error .integerOutOfRange

/-- The settings of a markup only. -/
def CogsSettings.markup (markupBp : Int32) : CogsSettings := ⟨0, 0, markupBp⟩

theorem linesWithCosts_unnamed {facts : Facts} (h : ∀ li ∈ facts.lineItems, li.vendorProductId = none) :
    linesWithCosts facts none = facts.lineItems.map fun li => (li, none) := by
  have hall : facts.lineItems.filter (·.inRange facts.orders none) = facts.lineItems :=
    List.filter_eq_self.mpr fun _ _ => rfl
  rw [linesWithCosts, hall, ← List.flatMap_singleton' (facts.lineItems.map _), List.flatMap_map]
  apply List.flatMap_congr
  intro li hli
  have hnone : productsOf facts.products li = [] := by
    rw [productsOf, List.filter_eq_nil_iff]
    intro pf _
    simp [h li hli]
  rw [hnone]
  rfl

theorem readCogs_unnamed {facts : Facts} (h : ∀ li ∈ facts.lineItems, li.vendorProductId = none)
    {markupBp : Int32} (hmarkup : markupFits (.markup markupBp)) :
    readCogs (.markup markupBp) facts none = .ok ⟨0, 0, facts.lineItems.length⟩ := by
  have hproducts : (facts.lineItems.map fun li => (li, (none : Option Int64))).flatMap (fun r =>
      (cogsBasis (.markup markupBp) r.2).products markupBp.toInt r.1) = [] := by
    rw [List.flatMap_map, List.flatMap_eq_nil_iff]
    exact fun _ _ => rfl
  have hcogs : (facts.lineItems.map fun li => (li, (none : Option Int64))).map (fun r =>
      (cogsBasis (.markup markupBp) r.2).cogs markupBp.toInt r.1) =
        facts.lineItems.map fun _ => 0 := by
    rw [List.map_map]
    exact List.map_congr_left fun _ _ => rfl
  have hcovered : (facts.lineItems.map fun li => (li, (none : Option Int64))).filter (fun r =>
      isCovered (.markup markupBp) r.2) = [] := by
    rw [List.filter_map, List.map_eq_nil_iff, List.filter_eq_nil_iff]
    exact fun _ _ => Bool.false_ne_true
  have hsum : (facts.lineItems.map fun _ => (0 : Int)).sum = 0 := by simp
  have hmk : (CogsSettings.markup markupBp).markupBp = markupBp := rfl
  rw [readCogs, if_pos hmarkup]
  simp only [linesWithCosts_unnamed h, hmk, hproducts, hcogs, hcovered, hsum, List.length_map]
  exact bigints_ok (by decide)

end BrainV2.Analytics
