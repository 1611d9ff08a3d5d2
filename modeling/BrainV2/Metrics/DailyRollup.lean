import BrainV2.Lib.Integers
import BrainV2.Lib.Versions
import BrainV2.Py.Datetime

/-!
# The daily rollup

* `OrderFact`, `LineItemFact`, `ProductFact`, `AdSpendFact`, `ShipmentFact`: the columns that the
  rollup reads, and the key and version of each row;
* `Facts`: the stored versions of all rows, in the order in which they were inserted;
* `Facts.newest`: the newest version of each;
* `ordersPerDay`, `cogsPerDay`, `adPerDay`, `shipmentPerDay`: the aggregates of each day;
* `dateSpine`: the days of which there is any;
* `rollup`: a base row for each of these days;
* `rowOn_rollup`: the row of a day, in terms of the day's own rows.
-/

namespace BrainV2.Metrics

open Py (Date)
open Versions

/-! ### Fact tables -/

structure OrderFact where
  workspaceId : String
  vendor : String
  vendorOrderId : String
  orderDate : Date
  grossSalesMu : Int64
  discountMu : Int64
  taxMu : Int64
  shippingMu : Int64
  currencyCode : String
  paymentMethod : String
  financialStatus : String
  cancelledAt : Option Nat
  version : Nat
deriving DecidableEq

def OrderFact.key (o : OrderFact) : String × String × String :=
  (o.workspaceId, o.vendor, o.vendorOrderId)

structure LineItemFact where
  workspaceId : String
  vendor : String
  vendorOrderId : String
  vendorLineId : String
  vendorProductId : String
  quantity : Int32
  orderDate : Date
  version : Nat
deriving DecidableEq

def LineItemFact.key (li : LineItemFact) : String × String × String × String :=
  (li.workspaceId, li.vendor, li.vendorOrderId, li.vendorLineId)

/-- The key of the order that a line belongs to. -/
def LineItemFact.orderKey (li : LineItemFact) : String × String × String :=
  (li.workspaceId, li.vendor, li.vendorOrderId)

structure ProductFact where
  workspaceId : String
  vendor : String
  vendorProductId : String
  costMu : Int64
  version : Nat
deriving DecidableEq

def ProductFact.key (p : ProductFact) : String × String × String :=
  (p.workspaceId, p.vendor, p.vendorProductId)

structure AdSpendFact where
  workspaceId : String
  vendor : String
  adAccountId : String
  campaignId : String
  date : Date
  impressions : Int64
  clicks : Int64
  spendMu : Int64
  version : Nat
deriving DecidableEq

def AdSpendFact.key (a : AdSpendFact) : String × String × String × String × Date :=
  (a.workspaceId, a.vendor, a.adAccountId, a.campaignId, a.date)

structure ShipmentFact where
  workspaceId : String
  vendor : String
  vendorShipmentId : String
  isRto : UInt8
  date : Date
  version : Nat
deriving DecidableEq

def ShipmentFact.key (s : ShipmentFact) : String × String × String :=
  (s.workspaceId, s.vendor, s.vendorShipmentId)

structure Facts where
  orders : List OrderFact
  lineItems : List LineItemFact
  products : List ProductFact
  adSpend : List AdSpendFact
  shipments : List ShipmentFact

/-! ### What is read through `FINAL` -/

def ordersFinal (rows : List OrderFact) : List OrderFact :=
  newest OrderFact.key OrderFact.version rows

def lineItemsFinal (rows : List LineItemFact) : List LineItemFact :=
  newest LineItemFact.key LineItemFact.version rows

def productsFinal (rows : List ProductFact) : List ProductFact :=
  newest ProductFact.key ProductFact.version rows

def adSpendFinal (rows : List AdSpendFact) : List AdSpendFact :=
  newest AdSpendFact.key AdSpendFact.version rows

def shipmentsFinal (rows : List ShipmentFact) : List ShipmentFact :=
  newest ShipmentFact.key ShipmentFact.version rows

def Facts.newest (facts : Facts) : Facts where
  orders := ordersFinal facts.orders
  lineItems := lineItemsFinal facts.lineItems
  products := productsFinal facts.products
  adSpend := adSpendFinal facts.adSpend
  shipments := shipmentsFinal facts.shipments

/-! ### Windows -/

/-- An inclusive range of dates. -/
structure Window where
  start : Date
  stop : Date
deriving DecidableEq

def Window.has (window : Window) (d : Date) : Bool := window.start ≤ d ∧ d ≤ window.stop

theorem Window.has_iff {window : Window} {d : Date} :
    window.has d = true ↔ window.start ≤ d ∧ d ≤ window.stop := decide_eq_true_iff

/-- A day of June 2026. -/
def juneDay (day : Nat)
    (h : decide (1 ≤ day ∧ day ≤ 30) = true := by exact Eq.refl true) : Date := .june day h

/-- What the rollup is run for. -/
structure RollupParams where
  workspaceId : String
  window : Window
  miscExpensesMonthlyMu : Int64

/-! ### Products and line items -/

/-- `argMax(cost_mu, version)`, of rows of one key: among equal versions the one `FINAL` takes. -/
def argMaxCost (rows : List ProductFact) : Int64 :=
  ((productsFinal rows).head?.map (·.costMu)).getD 0

/-- `product_cost` -/
def productCost (products : List ProductFact) (workspaceId : String) :
    List ((String × String) × Int64) :=
  groupBy (fun p => (p.vendor, p.vendorProductId)) argMaxCost
    (products.filter (·.workspaceId = workspaceId))

/-- `li.quantity * coalesce(pf.cost_mu, 0)` -/
def lineCost (costs : List ((String × String) × Int64)) (li : LineItemFact) : Int64 :=
  li.quantity.toInt64 * (costs.lookup (li.vendor, li.vendorProductId)).getD 0

def cogsDay (costs : List ((String × String) × Int64)) (rows : List LineItemFact) : Int64 :=
  (rows.map (lineCost costs)).sum

def cogsPerDay (facts : Facts) (params : RollupParams) : List (Date × Int64) :=
  groupBy (·.orderDate) (cogsDay (productCost facts.products params.workspaceId))
    ((lineItemsFinal facts.lineItems).filter fun li =>
      li.workspaceId = params.workspaceId ∧ params.window.has li.orderDate)

/-! ### Ad spend -/

structure AdDay where
  metaSpendMu : Int64
  googleSpendMu : Int64
  metaImp : Int64
  metaClk : Int64
  googleImp : Int64
  googleClk : Int64
deriving DecidableEq

/-- `sumIf(column, vendor = name)` -/
def sumIfVendor (column : AdSpendFact → Int64) (name : String) (rows : List AdSpendFact) : Int64 :=
  ((rows.filter (·.vendor = name)).map column).sum

def adDay (rows : List AdSpendFact) : AdDay where
  metaSpendMu := sumIfVendor (·.spendMu) "META" rows
  googleSpendMu := sumIfVendor (·.spendMu) "GOOGLE" rows
  metaImp := sumIfVendor (·.impressions) "META" rows
  metaClk := sumIfVendor (·.clicks) "META" rows
  googleImp := sumIfVendor (·.impressions) "GOOGLE" rows
  googleClk := sumIfVendor (·.clicks) "GOOGLE" rows

/-- This table is read without `FINAL`. -/
def adPerDay (facts : Facts) (params : RollupParams) : List (Date × AdDay) :=
  groupBy (·.date) adDay (facts.adSpend.filter fun a =>
    a.workspaceId = params.workspaceId ∧ params.window.has a.date)

/-! ### Orders -/

/-- `lower()`, of ASCII letters -/
def lower (text : String) : String := String.ofList (text.toList.map Char.toLower)

/-- `_CANCELLED_OK` -/
def OrderFact.cancelledOk (o : OrderFact) : Bool :=
  o.cancelledAt = none ∧ lower o.financialStatus ∉ ["voided", "refunded"]

structure OrdersDay where
  grossSalesMu : Int64
  returnsMu : Int64
  discountsMu : Int64
  netSalesMu : Int64
  totalTaxMu : Int64
  netNetTaxMu : Int64
  shippingRevenueMu : Int64
  netRevenueMu : Int64
  totalOrders : Nat
  codOrders : Nat
  prepaidOrders : Nat
deriving DecidableEq

/-- `orders_raw` and the ladder of `orders_per_day`. -/
def ordersDay (rows : List OrderFact) : OrdersDay :=
  let grossMu := (rows.map (·.grossSalesMu)).sum
  let discMu := (rows.map (·.discountMu)).sum
  let taxMu := (rows.map (·.taxMu)).sum
  let shipMu := (rows.map (·.shippingMu)).sum
  { grossSalesMu := grossMu
    returnsMu := 0
    discountsMu := discMu
    netSalesMu := grossMu - discMu
    totalTaxMu := taxMu
    netNetTaxMu := grossMu - discMu - taxMu
    shippingRevenueMu := shipMu
    netRevenueMu := grossMu - discMu - taxMu + shipMu
    totalOrders := rows.length
    codOrders := (rows.filter (·.paymentMethod = "COD")).length
    prepaidOrders := (rows.filter (·.paymentMethod = "Prepaid")).length }

def ordersPerDay (facts : Facts) (params : RollupParams) : List (Date × OrdersDay) :=
  groupBy (·.orderDate) ordersDay ((ordersFinal facts.orders).filter fun o =>
    o.workspaceId = params.workspaceId ∧ params.window.has o.orderDate ∧ o.cancelledOk)

/-! ### Shipments -/

structure ShipmentDay where
  totalShipments : Nat
  rtoOrders : Nat
deriving DecidableEq

def shipmentDay (rows : List ShipmentFact) : ShipmentDay :=
  ⟨rows.length, (rows.filter (·.isRto = 1)).length⟩

def shipmentPerDay (facts : Facts) (params : RollupParams) : List (Date × ShipmentDay) :=
  groupBy (·.date) shipmentDay ((shipmentsFinal facts.shipments).filter fun s =>
    s.workspaceId = params.workspaceId ∧ params.window.has s.date)

/-! ### Base rows -/

def dateSpine (facts : Facts) (params : RollupParams) : List Date :=
  ((ordersPerDay facts params).map Prod.fst ++ (cogsPerDay facts params).map Prod.fst ++
    (adPerDay facts params).map Prod.fst ++ (shipmentPerDay facts params).map Prod.fst).dedup

structure BaseRow where
  workspaceId : String
  date : Date
  grossSalesMu : Int64
  returnsMu : Int64
  discountsMu : Int64
  netSalesMu : Int64
  totalTaxMu : Int64
  netNetTaxMu : Int64
  shippingRevenueMu : Int64
  netRevenueMu : Int64
  cogsMu : Int64
  totalAdSpendMu : Int64
  metaAdSpendMu : Int64
  googleAdSpendMu : Int64
  miscExpensesMonthlyMu : Int64
  cm1Mu : Int64
  cm2Mu : Int64
  cm3Mu : Int64
  totalOrders : Int64
  codOrders : Int64
  prepaidOrders : Int64
  rtoOrders : Int64
  totalShipments : Int64
  totalSessions : Int64
  metaImpressions : Int64
  metaClicks : Int64
  googleImpressions : Int64
  googleClicks : Int64
deriving DecidableEq

/-- The row of a date, from what each aggregate has of it. -/
def baseRow (params : RollupParams) (d : Date) (o : OrdersDay) (cogsMu : Int64) (a : AdDay)
    (s : ShipmentDay) : BaseRow where
  workspaceId := params.workspaceId
  date := d
  grossSalesMu := o.grossSalesMu
  returnsMu := o.returnsMu
  discountsMu := o.discountsMu
  netSalesMu := o.netSalesMu
  totalTaxMu := o.totalTaxMu
  netNetTaxMu := o.netNetTaxMu
  shippingRevenueMu := o.shippingRevenueMu
  netRevenueMu := o.netRevenueMu
  cogsMu := cogsMu
  totalAdSpendMu := a.metaSpendMu + a.googleSpendMu
  metaAdSpendMu := a.metaSpendMu
  googleAdSpendMu := a.googleSpendMu
  miscExpensesMonthlyMu := params.miscExpensesMonthlyMu
  cm1Mu := o.netRevenueMu - cogsMu
  cm2Mu := o.netRevenueMu - cogsMu - (a.metaSpendMu + a.googleSpendMu)
  cm3Mu := o.netRevenueMu - cogsMu - (a.metaSpendMu + a.googleSpendMu) -
    params.miscExpensesMonthlyMu
  totalOrders := Int64.ofNat o.totalOrders
  codOrders := Int64.ofNat o.codOrders
  prepaidOrders := Int64.ofNat o.prepaidOrders
  rtoOrders := Int64.ofNat s.rtoOrders
  totalShipments := Int64.ofNat s.totalShipments
  totalSessions := 0
  metaImpressions := a.metaImp
  metaClicks := a.metaClk
  googleImpressions := a.googleImp
  googleClicks := a.googleClk

/-- An aggregate without a row of the date reads as that of no rows. -/
def rollup (facts : Facts) (params : RollupParams) : List BaseRow :=
  (dateSpine facts params).map fun d =>
    baseRow params d (((ordersPerDay facts params).lookup d).getD (ordersDay []))
      (((cogsPerDay facts params).lookup d).getD 0)
      (((adPerDay facts params).lookup d).getD (adDay []))
      (((shipmentPerDay facts params).lookup d).getD (shipmentDay []))

/-! ### The row of a date -/

section

variable {facts : Facts} {params : RollupParams} {d : Date}

/-- The rows of each table that count for a date. -/
def dayOrders (facts : Facts) (params : RollupParams) (d : Date) : List OrderFact :=
  ((ordersFinal facts.orders).filter fun o =>
    o.workspaceId = params.workspaceId ∧ params.window.has o.orderDate ∧ o.cancelledOk).filter
      (·.orderDate = d)

def dayLineItems (facts : Facts) (params : RollupParams) (d : Date) : List LineItemFact :=
  ((lineItemsFinal facts.lineItems).filter fun li =>
    li.workspaceId = params.workspaceId ∧ params.window.has li.orderDate).filter (·.orderDate = d)

def dayAdSpend (facts : Facts) (params : RollupParams) (d : Date) : List AdSpendFact :=
  (facts.adSpend.filter fun a =>
    a.workspaceId = params.workspaceId ∧ params.window.has a.date).filter (·.date = d)

def dayShipments (facts : Facts) (params : RollupParams) (d : Date) : List ShipmentFact :=
  ((shipmentsFinal facts.shipments).filter fun s =>
    s.workspaceId = params.workspaceId ∧ params.window.has s.date).filter (·.date = d)

def dayCogs (facts : Facts) (params : RollupParams) (d : Date) : Int64 :=
  cogsDay (productCost facts.products params.workspaceId) (dayLineItems facts params d)

/-- What the rollup says of a date, if the date is in the spine. -/
def dayRow (facts : Facts) (params : RollupParams) (d : Date) : BaseRow :=
  baseRow params d (ordersDay (dayOrders facts params d)) (dayCogs facts params d)
    (adDay (dayAdSpend facts params d)) (shipmentDay (dayShipments facts params d))

theorem lookup_ordersPerDay (facts : Facts) (params : RollupParams) (d : Date) :
    ((ordersPerDay facts params).lookup d).getD (ordersDay []) =
      ordersDay (dayOrders facts params d) :=
  getD_lookup_groupBy _ d

theorem lookup_cogsPerDay (facts : Facts) (params : RollupParams) (d : Date) :
    ((cogsPerDay facts params).lookup d).getD 0 = dayCogs facts params d := by
  have hzero : (0 : Int64) = cogsDay (productCost facts.products params.workspaceId) [] := rfl
  rw [hzero]
  exact getD_lookup_groupBy _ d

theorem lookup_adPerDay (facts : Facts) (params : RollupParams) (d : Date) :
    ((adPerDay facts params).lookup d).getD (adDay []) = adDay (dayAdSpend facts params d) :=
  getD_lookup_groupBy _ d

theorem lookup_shipmentPerDay (facts : Facts) (params : RollupParams) (d : Date) :
    ((shipmentPerDay facts params).lookup d).getD (shipmentDay []) =
      shipmentDay (dayShipments facts params d) :=
  getD_lookup_groupBy _ d

theorem rollup_eq (facts : Facts) (params : RollupParams) :
    rollup facts params = (dateSpine facts params).map (dayRow facts params) := by
  apply List.map_congr_left
  intro d _
  rw [lookup_ordersPerDay, lookup_cogsPerDay, lookup_adPerDay, lookup_shipmentPerDay]
  rfl

theorem dates_rollup (facts : Facts) (params : RollupParams) :
    (rollup facts params).map (·.date) = dateSpine facts params := by
  rw [rollup_eq, List.map_map]
  exact List.map_id _

theorem mem_groups_iff {α : Type*} {group : α → Date} {β : Type*} {aggregate : List α → β}
    {rows : List α} :
    d ∈ (groupBy group aggregate rows).map Prod.fst ↔ rows.filter (group · = d) ≠ [] := by
  rw [groups_groupBy, List.mem_dedup, List.mem_map, ne_eq, List.filter_eq_nil_iff]
  simp

/-- The days that have a row. -/
theorem mem_dateSpine : d ∈ dateSpine facts params ↔
    dayOrders facts params d ≠ [] ∨ dayLineItems facts params d ≠ [] ∨
      dayAdSpend facts params d ≠ [] ∨ dayShipments facts params d ≠ [] := by
  rw [dateSpine, List.mem_dedup, List.mem_append, List.mem_append, List.mem_append, or_assoc,
    or_assoc]
  exact or_congr mem_groups_iff (or_congr mem_groups_iff (or_congr mem_groups_iff mem_groups_iff))

/-- The workspace has a realized order, a line item, ad spend or a shipment of the date. -/
def Facts.Active (facts : Facts) (workspaceId : String) (d : Date) : Prop :=
  (∃ o ∈ ordersFinal facts.orders, o.workspaceId = workspaceId ∧ o.orderDate = d ∧
    o.cancelledOk = true) ∨
  (∃ li ∈ lineItemsFinal facts.lineItems, li.workspaceId = workspaceId ∧ li.orderDate = d) ∨
  (∃ a ∈ facts.adSpend, a.workspaceId = workspaceId ∧ a.date = d) ∨
  ∃ s ∈ shipmentsFinal facts.shipments, s.workspaceId = workspaceId ∧ s.date = d

instance (facts : Facts) (workspaceId : String) (d : Date) :
    Decidable (facts.Active workspaceId d) :=
  inferInstanceAs (Decidable (_ ∨ _ ∨ _ ∨ _))

theorem filter_ne_nil_iff {α : Type*} {date : α → Date} {p : α → Bool} {rows : List α} :
    (rows.filter p).filter (date · = d) ≠ [] ↔ ∃ r ∈ rows, p r = true ∧ date r = d := by
  rw [ne_eq, List.filter_eq_nil_iff]
  simp

theorem mem_dateSpine_iff_active :
    d ∈ dateSpine facts params ↔
      params.window.has d = true ∧ facts.Active params.workspaceId d := by
  constructor
  · intro h
    rcases mem_dateSpine.mp h with h | h | h | h
    · obtain ⟨o, ho, hp, hdate⟩ := filter_ne_nil_iff.mp h
      obtain ⟨hws, hwindow, hok⟩ := of_decide_eq_true hp
      exact ⟨hdate ▸ hwindow, .inl ⟨o, ho, hws, hdate, hok⟩⟩
    · obtain ⟨li, hli, hp, hdate⟩ := filter_ne_nil_iff.mp h
      obtain ⟨hws, hwindow⟩ := of_decide_eq_true hp
      exact ⟨hdate ▸ hwindow, .inr (.inl ⟨li, hli, hws, hdate⟩)⟩
    · obtain ⟨a, ha, hp, hdate⟩ := filter_ne_nil_iff.mp h
      obtain ⟨hws, hwindow⟩ := of_decide_eq_true hp
      exact ⟨hdate ▸ hwindow, .inr (.inr (.inl ⟨a, ha, hws, hdate⟩))⟩
    · obtain ⟨s, hs, hp, hdate⟩ := filter_ne_nil_iff.mp h
      obtain ⟨hws, hwindow⟩ := of_decide_eq_true hp
      exact ⟨hdate ▸ hwindow, .inr (.inr (.inr ⟨s, hs, hws, hdate⟩))⟩
  · rintro ⟨hwindow, ⟨o, ho, hws, rfl, hok⟩ | ⟨li, hli, hws, rfl⟩ | ⟨a, ha, hws, rfl⟩ |
      ⟨s, hs, hws, rfl⟩⟩
    · exact mem_dateSpine.mpr (.inl (filter_ne_nil_iff.mpr
        ⟨o, ho, decide_eq_true ⟨hws, hwindow, hok⟩, rfl⟩))
    · exact mem_dateSpine.mpr (.inr (.inl (filter_ne_nil_iff.mpr
        ⟨li, hli, decide_eq_true ⟨hws, hwindow⟩, rfl⟩)))
    · exact mem_dateSpine.mpr (.inr (.inr (.inl (filter_ne_nil_iff.mpr
        ⟨a, ha, decide_eq_true ⟨hws, hwindow⟩, rfl⟩))))
    · exact mem_dateSpine.mpr (.inr (.inr (.inr (filter_ne_nil_iff.mpr
        ⟨s, hs, decide_eq_true ⟨hws, hwindow⟩, rfl⟩))))

theorem of_mem_rollup {row : BaseRow} (h : row ∈ rollup facts params) :
    row.workspaceId = params.workspaceId ∧ params.window.has row.date = true := by
  rw [rollup_eq] at h
  obtain ⟨d, hd, rfl⟩ := List.mem_map.mp h
  exact ⟨rfl, (mem_dateSpine_iff_active.mp hd).1⟩

theorem rollup_distinct (facts : Facts) (params : RollupParams) :
    (rollup facts params).Pairwise (·.date ≠ ·.date) := by
  have hnodup : ((rollup facts params).map (·.date)).Nodup := by
    rw [dates_rollup]
    exact List.nodup_dedup _
  exact List.pairwise_map.mp hnodup

/-- The row of a date. -/
def rowOn (rows : List BaseRow) (d : Date) : Option BaseRow := rows.find? (·.date = d)

theorem rowOn_rollup (facts : Facts) (params : RollupParams) (d : Date) :
    rowOn (rollup facts params) d =
      if d ∈ dateSpine facts params then some (dayRow facts params d) else none := by
  rw [rollup_eq]
  generalize dateSpine facts params = spine
  induction spine with
  | nil => rfl
  | cons first spine ih =>
    have hdate : (dayRow facts params first).date = first := rfl
    rw [List.map_cons, rowOn, List.find?_cons, hdate]
    by_cases hfirst : first = d
    · simp [hfirst]
    · have hd : ¬ d = first := fun h => hfirst h.symm
      simp only [hfirst, decide_false, List.mem_cons, hd, false_or]
      exact ih

end

end BrainV2.Metrics
