import BrainV2.Metrics.DailyRollup
import Mathlib.Tactic.Abel

/-!
# Facts that the rollup is to leave out

* `supersededAdSpend`: the versions of the ad spend of a day that a newer one has taken the place of;
* `dayRow_newest_iff`: these are all that the rollup reads of superseded versions;
* `rollup_newest_iff`: the rollup is that of the newest versions when they add up to nothing;
* `Facts.withoutOrder`: the facts without an order and its line items;
* `orderLines`: the line items of an order that the rollup counts for a day, whatever has become of
  the order;
* `margin_without_iff`: when the margin does not depend on a cancelled order.
-/

namespace BrainV2.Metrics

open Py (Date)
open Versions Wrapping

section

variable {facts : Facts} {params : RollupParams} {d : Date}

/-! ### Tables that are read in their newest versions -/

theorem dayOrders_newest : dayOrders facts.newest params d = dayOrders facts params d := by
  have horders : ordersFinal facts.newest.orders = ordersFinal facts.orders := newest_newest
  rw [dayOrders, dayOrders, horders]

theorem dayLineItems_newest : dayLineItems facts.newest params d = dayLineItems facts params d := by
  have hlines : lineItemsFinal facts.newest.lineItems = lineItemsFinal facts.lineItems :=
    newest_newest
  rw [dayLineItems, dayLineItems, hlines]

theorem dayShipments_newest : dayShipments facts.newest params d = dayShipments facts params d := by
  have hshipments : shipmentsFinal facts.newest.shipments = shipmentsFinal facts.shipments :=
    newest_newest
  rw [dayShipments, dayShipments, hshipments]

/-- `argMax` of the newest versions is that of all of them. -/
theorem argMaxCost_newest (products : List ProductFact) {p : ProductFact → Bool}
    (hp : ∀ a b : ProductFact, a.key = b.key → p a = p b) :
    argMaxCost ((productsFinal products).filter p) = argMaxCost (products.filter p) := by
  have hfilter : ∀ rows : List ProductFact,
      productsFinal (rows.filter p) = (productsFinal rows).filter p := fun _ => newest_filter hp
  have hnewest : productsFinal (productsFinal products) = productsFinal products := newest_newest
  rw [argMaxCost, argMaxCost, hfilter, hfilter, hnewest]

theorem lookup_productCost (products : List ProductFact) (workspaceId : String)
    (product : String × String) :
    ((productCost products workspaceId).lookup product).getD 0 =
      argMaxCost ((products.filter (·.workspaceId = workspaceId)).filter fun p =>
        (p.vendor, p.vendorProductId) = product) := by
  have hzero : (0 : Int64) = argMaxCost [] := rfl
  rw [hzero]
  exact getD_lookup_groupBy _ product

theorem lineCost_newest (products : List ProductFact) (workspaceId : String) :
    lineCost (productCost (productsFinal products) workspaceId) =
      lineCost (productCost products workspaceId) := by
  funext li
  rw [lineCost, lineCost, lookup_productCost, lookup_productCost, List.filter_filter,
    List.filter_filter, argMaxCost_newest]
  intro a b hkey
  simp only [ProductFact.key, Prod.mk.injEq] at hkey
  rw [hkey.1, hkey.2.1, hkey.2.2]

theorem dayCogs_newest : dayCogs facts.newest params d = dayCogs facts params d := by
  have hcost : lineCost (productCost facts.newest.products params.workspaceId) =
      lineCost (productCost facts.products params.workspaceId) := lineCost_newest _ _
  rw [dayCogs, dayCogs, dayLineItems_newest, cogsDay, cogsDay, hcost]

/-! ### Ad spend -/

/-- The superseded versions that the rollup counts for a date. -/
def supersededAdSpend (facts : Facts) (params : RollupParams) (d : Date) : List AdSpendFact :=
  ((superseded AdSpendFact.key AdSpendFact.version facts.adSpend).filter fun a =>
    a.workspaceId = params.workspaceId ∧ params.window.has a.date).filter (·.date = d)

theorem dayAdSpend_perm :
    (dayAdSpend facts.newest params d ++ supersededAdSpend facts params d).Perm
      (dayAdSpend facts params d) := by
  have hperm : (adSpendFinal facts.adSpend ++
      superseded AdSpendFact.key AdSpendFact.version facts.adSpend).Perm facts.adSpend :=
    newest_perm
  have hfilter := (hperm.filter fun a =>
    a.workspaceId = params.workspaceId ∧ params.window.has a.date).filter (·.date = d)
  rw [List.filter_append, List.filter_append] at hfilter
  exact hfilter

theorem sumIfVendor_perm {column : AdSpendFact → Int64} {name : String}
    {rows newer older : List AdSpendFact} (h : (newer ++ older).Perm rows) :
    sumIfVendor column name rows =
      sumIfVendor column name newer + sumIfVendor column name older := by
  have hsum := ((h.filter (·.vendor = name)).map column).sum_eq
  rw [sumIfVendor, ← hsum, List.filter_append, List.map_append, List.sum_append]
  rfl

theorem adDay_eq_iff {rows newer older : List AdSpendFact} (h : (newer ++ older).Perm rows) :
    adDay rows = adDay newer ↔ adDay older = adDay [] := by
  have hnone : ∀ column name, sumIfVendor column name [] = 0 := fun _ _ => rfl
  simp only [adDay, AdDay.mk.injEq, sumIfVendor_perm h, hnone, add_eq_left]

/-- A day has ad spend in its newest versions if it has any. -/
theorem dayAdSpend_newest_nil_iff :
    dayAdSpend facts.newest params d = [] ↔ dayAdSpend facts params d = [] := by
  simp only [dayAdSpend, List.filter_eq_nil_iff, List.mem_filter, decide_eq_true_eq]
  constructor
  · rintro h a ⟨ha, hwindow⟩ hdate
    obtain ⟨newer, hnewer, hkey, -⟩ :
        ∃ newer ∈ adSpendFinal facts.adSpend, newer.key = a.key ∧ a.version ≤ newer.version :=
      exists_newest ha
    simp only [AdSpendFact.key, Prod.mk.injEq] at hkey
    obtain ⟨hworkspace, -, -, -, hsame⟩ := hkey
    refine h newer ⟨hnewer, ?_⟩ (hsame.trans hdate)
    rw [hworkspace, hsame]
    exact hwindow
  · rintro h a ⟨ha, hwindow⟩ hdate
    exact h a ⟨mem_of_newest ha, hwindow⟩ hdate

theorem mem_dateSpine_newest :
    d ∈ dateSpine facts.newest params ↔ d ∈ dateSpine facts params := by
  rw [mem_dateSpine, mem_dateSpine, dayOrders_newest, dayLineItems_newest, dayShipments_newest,
    ne_eq (dayAdSpend facts.newest params d), dayAdSpend_newest_nil_iff]

theorem dayRow_newest_iff :
    dayRow facts params d = dayRow facts.newest params d ↔
      adDay (supersededAdSpend facts params d) = adDay [] := by
  rw [← adDay_eq_iff dayAdSpend_perm, dayRow, dayRow, dayOrders_newest, dayCogs_newest,
    dayShipments_newest]
  refine ⟨fun h => ?_, fun h => by rw [h]⟩
  -- The six sums stand in columns of their own.
  have hcolumns := BaseRow.mk.inj h
  obtain ⟨-, -, -, -, -, -, -, -, -, -, -, -, hmeta, hgoogle, -, -, -, -, -, -, -, -, -, -, hmetaImp,
    hmetaClk, hgoogleImp, hgoogleClk⟩ := hcolumns
  generalize adDay (dayAdSpend facts params d) = day at *
  generalize adDay (dayAdSpend facts.newest params d) = newer at *
  cases day
  cases newer
  simp_all

/-- The base row of every date is that of the newest versions alone if and only if the superseded
versions of the ad spend of each date add up to nothing, column by column. -/
theorem rollup_newest_iff (facts : Facts) (params : RollupParams) :
    (∀ d, rowOn (rollup facts params) d = rowOn (rollup facts.newest params) d) ↔
      ∀ d, adDay (supersededAdSpend facts params d) = adDay [] := by
  refine forall_congr' fun d => ?_
  simp only [rowOn_rollup, mem_dateSpine_newest]
  split
  · rw [Option.some.injEq, dayRow_newest_iff]
  · next hspine =>
    rw [mem_dateSpine] at hspine
    push Not at hspine
    have hnone : supersededAdSpend facts params d = [] := by
      have hperm : (dayAdSpend facts.newest params d ++ supersededAdSpend facts params d).Perm
          (dayAdSpend facts params d) := dayAdSpend_perm
      rw [hspine.2.2.1, List.perm_nil, List.append_eq_nil_iff] at hperm
      exact hperm.2
    rw [hnone]
    exact iff_of_true rfl rfl

/-- Of a campaign, a day and its spend that have been fetched twice. -/
def refetchedSpend : Facts where
  orders := []
  lineItems := []
  products := []
  adSpend := [⟨"w", "META", "account", "campaign", juneDay 1, 0, 0, 100, 1⟩,
    ⟨"w", "META", "account", "campaign", juneDay 1, 0, 0, 100, 2⟩]
  shipments := []

/-- The spend counts twice. -/
theorem refetched_spend_doubles :
    ¬ ∀ d, rowOn (rollup refetchedSpend ⟨"w", ⟨juneDay 1, juneDay 1⟩, 0⟩) d =
      rowOn (rollup refetchedSpend.newest ⟨"w", ⟨juneDay 1, juneDay 1⟩, 0⟩) d := by
  intro h
  have hday := h (juneDay 1)
  revert hday
  decide

end

/-! ## Cancelled orders in the rollup -/

section

abbrev OrderKey := String × String × String

/-- The order's newest version is cancelled, voided or refunded. -/
def Facts.Cancelled (facts : Facts) (order : OrderKey) : Prop :=
  ∃ o ∈ ordersFinal facts.orders, o.key = order ∧ o.cancelledOk = false

def Facts.withoutOrder (facts : Facts) (order : OrderKey) : Facts :=
  { facts with
    orders := facts.orders.filter (·.key ≠ order)
    lineItems := facts.lineItems.filter (·.orderKey ≠ order) }

/-- The columns of a row that make up the margin. -/
structure Margin where
  grossSalesMu : Int64
  netRevenueMu : Int64
  cogsMu : Int64
  cm1Mu : Int64
  cm2Mu : Int64
deriving DecidableEq

def BaseRow.margin (row : BaseRow) : Margin :=
  ⟨row.grossSalesMu, row.netRevenueMu, row.cogsMu, row.cm1Mu, row.cm2Mu⟩

/-- The line items of the order that count for a date. -/
def orderLines (facts : Facts) (params : RollupParams) (order : OrderKey) (d : Date) :
    List LineItemFact :=
  (dayLineItems facts params d).filter (·.orderKey = order)

variable {facts : Facts} {params : RollupParams} {order : OrderKey} {d : Date}

theorem dayOrders_without (h : facts.Cancelled order) :
    dayOrders (facts.withoutOrder order) params d = dayOrders facts params d := by
  obtain ⟨cancelled, hmem, hkey, hcancelled⟩ := h
  have hfinal : ordersFinal (facts.withoutOrder order).orders =
      (ordersFinal facts.orders).filter (·.key ≠ order) := by
    apply newest_filter
    intro a b hab
    rw [hab]
  have hrows : ((ordersFinal facts.orders).filter (·.key ≠ order)).filter (fun o =>
        o.workspaceId = params.workspaceId ∧ params.window.has o.orderDate ∧ o.cancelledOk) =
      (ordersFinal facts.orders).filter fun o =>
        o.workspaceId = params.workspaceId ∧ params.window.has o.orderDate ∧ o.cancelledOk := by
    rw [List.filter_filter]
    apply List.filter_congr
    intro o ho
    by_cases hsame : o.key = order
    · -- The order's row is the cancelled one, which does not count anyway.
      rw [newest_unique ho hmem (hsame.trans hkey.symm)]
      simp [hcancelled]
    · simp [hsame]
  rw [dayOrders, dayOrders, hfinal, hrows]

theorem dayLineItems_without :
    dayLineItems (facts.withoutOrder order) params d =
      (dayLineItems facts params d).filter (·.orderKey ≠ order) := by
  have hfinal : lineItemsFinal (facts.withoutOrder order).lineItems =
      (lineItemsFinal facts.lineItems).filter (·.orderKey ≠ order) := by
    apply newest_filter
    intro a b hab
    simp only [LineItemFact.key, Prod.mk.injEq] at hab
    rw [LineItemFact.orderKey, LineItemFact.orderKey, hab.1, hab.2.1, hab.2.2.1]
  rw [dayLineItems, dayLineItems, hfinal]
  simp only [List.filter_filter, Bool.and_comm, Bool.and_left_comm]

theorem dayLineItems_split (facts : Facts) (params : RollupParams) (order : OrderKey) (d : Date) :
    (dayLineItems (facts.withoutOrder order) params d ++ orderLines facts params order d).Perm
      (dayLineItems facts params d) := by
  rw [dayLineItems_without, orderLines]
  have hsplit := List.filter_append_perm (fun li : LineItemFact => decide (li.orderKey ≠ order))
    (dayLineItems facts params d)
  simpa using hsplit

/-- The cost of the day's goods, with the order's apart. -/
theorem dayCogs_without :
    dayCogs facts params d = dayCogs (facts.withoutOrder order) params d +
      cogsDay (productCost facts.products params.workspaceId)
        (orderLines facts params order d) := by
  have hsum := ((dayLineItems_split facts params order d).map
    (lineCost (productCost facts.products params.workspaceId))).sum_eq
  rw [dayCogs, cogsDay, ← hsum, List.map_append, List.sum_append]
  rfl

theorem mem_dateSpine_without (h : facts.Cancelled order) :
    d ∈ dateSpine facts params ↔
      d ∈ dateSpine (facts.withoutOrder order) params ∨ orderLines facts params order d ≠ [] := by
  have hlines : dayLineItems facts params d = [] ↔
      dayLineItems (facts.withoutOrder order) params d = [] ∧
        orderLines facts params order d = [] := by
    rw [← List.append_eq_nil_iff]
    have hsplit := dayLineItems_split facts params order d
    exact ⟨fun hnil => List.perm_nil.mp (hnil ▸ hsplit),
      fun hnil => List.nil_perm.mp (hnil ▸ hsplit)⟩
  have hads : dayAdSpend (facts.withoutOrder order) params d = dayAdSpend facts params d := rfl
  have hshipments : dayShipments (facts.withoutOrder order) params d =
    dayShipments facts params d := rfl
  rw [mem_dateSpine, mem_dateSpine, dayOrders_without h, ne_eq (dayLineItems facts params d), hlines,
    hads, hshipments]
  tauto

theorem margin_dayRow_iff (h : facts.Cancelled order) :
    (dayRow facts params d).margin = (dayRow (facts.withoutOrder order) params d).margin ↔
      cogsDay (productCost facts.products params.workspaceId)
        (orderLines facts params order d) = 0 := by
  have hads : dayAdSpend (facts.withoutOrder order) params d = dayAdSpend facts params d := rfl
  have hcogs : dayCogs facts params d = dayCogs (facts.withoutOrder order) params d +
      cogsDay (productCost facts.products params.workspaceId)
        (orderLines facts params order d) := dayCogs_without
  simp only [dayRow, baseRow, BaseRow.margin, Margin.mk.injEq, dayOrders_without h, hads, true_and]
  constructor
  · rintro ⟨hsame, -⟩
    rw [hcogs] at hsame
    exact add_eq_left.mp hsame
  · intro hzero
    rw [hzero, add_zero] at hcogs
    rw [hcogs]
    exact ⟨rfl, rfl, rfl⟩

/-- The margin of a date, of which there may be no row. -/
def marginOn (rows : List BaseRow) (d : Date) : Margin :=
  ((rowOn rows d).map BaseRow.margin).getD ⟨0, 0, 0, 0, 0⟩

/-- On a date without a row, what would be the row is zero throughout. -/
theorem marginOn_rollup (facts : Facts) (params : RollupParams) (d : Date) :
    marginOn (rollup facts params) d = (dayRow facts params d).margin := by
  rw [marginOn, rowOn_rollup]
  split
  · rfl
  · next hspine =>
    rw [mem_dateSpine] at hspine
    push Not at hspine
    obtain ⟨horders, hlines, hads, -⟩ := hspine
    simp [dayRow, dayCogs, horders, hlines, hads, baseRow, BaseRow.margin, ordersDay, cogsDay, adDay,
      sumIfVendor]

/-- A cancelled order brings in no revenue, and its line items are charged to their dates. -/
theorem margin_without_order (facts : Facts) (params : RollupParams) (order : OrderKey)
    (h : facts.Cancelled order) (d : Date) :
    let cost := cogsDay (productCost facts.products params.workspaceId)
      (orderLines facts params order d)
    let margin := marginOn (rollup facts params) d
    let without := marginOn (rollup (facts.withoutOrder order) params) d
    margin.grossSalesMu = without.grossSalesMu ∧ margin.netRevenueMu = without.netRevenueMu ∧
      margin.cogsMu = without.cogsMu + cost ∧ margin.cm1Mu = without.cm1Mu - cost ∧
      margin.cm2Mu = without.cm2Mu - cost := by
  have hads : dayAdSpend (facts.withoutOrder order) params d = dayAdSpend facts params d := rfl
  have hcogs : dayCogs facts params d = dayCogs (facts.withoutOrder order) params d +
      cogsDay (productCost facts.products params.workspaceId)
        (orderLines facts params order d) := dayCogs_without
  simp only [marginOn_rollup, dayRow, baseRow, BaseRow.margin, dayOrders_without h, hads, hcogs,
    true_and]
  constructor
  · abel
  · abel

/-- The margin of every date is the same without a cancelled order if and only if, wherever the
order has line items, these cost nothing and something else has happened on the date. -/
theorem margin_without_iff (facts : Facts) (params : RollupParams) (order : OrderKey)
    (h : facts.Cancelled order) :
    (∀ d, (rowOn (rollup facts params) d).map BaseRow.margin =
        (rowOn (rollup (facts.withoutOrder order) params) d).map BaseRow.margin) ↔
      ∀ d, orderLines facts params order d ≠ [] →
        cogsDay (productCost facts.products params.workspaceId)
          (orderLines facts params order d) = 0 ∧
        d ∈ dateSpine (facts.withoutOrder order) params := by
  refine forall_congr' fun d => ?_
  simp only [rowOn_rollup, mem_dateSpine_without h]
  by_cases hlines : orderLines facts params order d = []
  · have hsame := (margin_dayRow_iff h).mpr (by rw [hlines]; rfl)
    simp only [hlines, ne_eq, not_true, or_false, false_imp_iff, iff_true]
    split
    · rw [Option.map_some, Option.map_some, hsame]
    · rfl
  · simp only [hlines, ne_eq, not_false_eq_true, or_true, if_true, true_imp_iff]
    split
    · next hspine =>
      rw [Option.map_some, Option.map_some, Option.some.injEq, margin_dayRow_iff h]
      exact (and_iff_left hspine).symm
    · next hspine => exact iff_of_false nofun fun hcond => hspine hcond.2

/-! ### A cancelled order with a line -/

/-- An order that is voided, another of the day, and the line items of the first. -/
def voidedFacts (quantity : Int32) : Facts where
  orders := [⟨"w", "shopify", "1", juneDay 1, 500, 0, 0, 0, "INR", "COD", "Voided", none, 1⟩,
    ⟨"w", "shopify", "2", juneDay 1, 700, 0, 0, 0, "INR", "COD", "paid", none, 1⟩]
  lineItems := [⟨"w", "shopify", "1", "1", "p", quantity, juneDay 1, 1⟩]
  products := [⟨"w", "shopify", "p", 100, 1⟩]
  adSpend := []
  shipments := []

def juneParams : RollupParams := ⟨"w", ⟨juneDay 1, juneDay 30⟩, 0⟩

theorem voided_cancelled (quantity : Int32) :
    (voidedFacts quantity).Cancelled ("w", "shopify", "1") := by
  refine ⟨⟨"w", "shopify", "1", juneDay 1, 500, 0, 0, 0, "INR", "COD", "Voided", none, 1⟩, ?_, rfl,
    by decide⟩
  have hfinal : ordersFinal (voidedFacts quantity).orders = (voidedFacts quantity).orders := by
    change ordersFinal (voidedFacts 0).orders = (voidedFacts 0).orders
    decide
  rw [hfinal]
  exact List.mem_cons_self

theorem voided_goods_difference :
    let margin := marginOn (rollup (voidedFacts 2) juneParams) (juneDay 1)
    let without := marginOn (rollup ((voidedFacts 2).withoutOrder ("w", "shopify", "1")) juneParams)
      (juneDay 1)
    margin.netRevenueMu = without.netRevenueMu ∧ margin.cogsMu = without.cogsMu + 200 := by
  have h := margin_without_order (voidedFacts 2) juneParams ("w", "shopify", "1")
    (voided_cancelled 2) (juneDay 1)
  have hcost : cogsDay (productCost (voidedFacts 2).products juneParams.workspaceId)
      (orderLines (voidedFacts 2) juneParams ("w", "shopify", "1") (juneDay 1)) = 200 := by decide
  rw [hcost] at h
  exact ⟨h.2.1, h.2.2.1⟩

/-- The goods of a voided order are charged to its date. -/
theorem voided_goods_charged :
    (voidedFacts 2).Cancelled ("w", "shopify", "1") ∧
      ¬ ∀ d, marginOn (rollup (voidedFacts 2) juneParams) d =
        marginOn (rollup ((voidedFacts 2).withoutOrder ("w", "shopify", "1")) juneParams) d := by
  refine ⟨voided_cancelled 2, fun h => ?_⟩
  have hday := h (juneDay 1)
  revert hday
  decide

end

end BrainV2.Metrics
