import BrainV2.Analytics.Cohorts

/-!
# Facts that both stores hold

* `ChOrderFact`: an order as ClickHouse has it, with no nulls;
* `SharedOrder`: an order that both stores can hold;
* `Shared.known`: the live orders of known customers, which the stores see alike;
* `sumInt64`: what ClickHouse makes of a sum, exact when it fits.
-/

namespace BrainV2.Analytics

open Py (Date)
open Sql (Timestamp FactDateRange epochDate lastDate)
open Grouping
open Wrapping (Fits)

structure ChOrderFact where
  vendor : String
  vendorOrderId : String
  placedAt : Timestamp
  customerRef : String
  grossSalesMu : Int64
  discountMu : Int64
  taxMu : Int64
  shippingMu : Int64
  currencyCode : String
  financialStatus : String
  cancelledAt : Option Timestamp
deriving DecidableEq

namespace ChOrderFact

/-- `CANCELLED_OK` -/
def live (o : ChOrderFact) : Bool :=
  o.cancelledAt = none ∧ lower o.financialStatus ∉ ["voided", "refunded"]

/-- `customer_ref != ''` -/
def known (o : ChOrderFact) : Bool := o.customerRef ≠ ""

/-- `COHORT_NET` -/
def netMu (o : ChOrderFact) : Int64 := o.grossSalesMu - o.discountMu

/-- `ORDER BY placed_at, vendor_order_id` -/
def place (o : ChOrderFact) : Timestamp ×ₗ String := toLex (o.placedAt, o.vendorOrderId)

def before (a b : ChOrderFact) : Prop := a.place ≤ b.place

instance : DecidableRel before := fun a b => inferInstanceAs (Decidable (a.place ≤ b.place))

end ChOrderFact

/-- `sum` of an `Int64` column, which stays one. -/
def sumInt64 (values : List Int64) : Int := values.sum.toInt

/-- An order with a time that is whole milliseconds, on a date that ClickHouse has, of a customer
without a name only when the reference is null. -/
structure SharedOrder where
  placed : PlacedOrder
  referenced : placed.order.customerRef ≠ some ""
  millis : placed.placedAt.micros % 1000 = 0
  datable : epochDate ≤ placed.placedAt.date ∧ placed.placedAt.date ≤ lastDate

namespace SharedOrder

def placedAt (o : SharedOrder) : Timestamp := o.placed.placedAt

def customer (o : SharedOrder) : String := o.placed.customer

/-- What is stored of it in ClickHouse. -/
def ch (o : SharedOrder) : ChOrderFact where
  vendor := o.placed.order.vendor
  vendorOrderId := o.placed.order.vendorOrderId
  placedAt := o.placedAt
  customerRef := o.customer
  grossSalesMu := o.placed.order.grossSalesMu
  discountMu := o.placed.order.totalDiscountMu
  taxMu := o.placed.order.totalTaxMu
  shippingMu := o.placed.order.shippingMu
  currencyCode := o.placed.order.currencyCode
  financialStatus := o.placed.order.financialStatus.getD ""
  cancelledAt := o.placed.order.cancelledAt

def before (a b : SharedOrder) : Prop := a.placed.before b.placed

instance : DecidableRel before := fun a b => inferInstanceAs (Decidable (a.placed.before b.placed))

instance : Std.Total before := ⟨fun a b => le_total a.placed.place b.placed.place⟩

instance : IsTrans SharedOrder before := ⟨fun _ _ _ => le_trans⟩

/-- The net of the row, exact. -/
def netMu (o : SharedOrder) : Int := o.placed.order.netMu

theorem live_ch (o : SharedOrder) : o.ch.live = o.placed.order.live := rfl

theorem known_ch (o : SharedOrder) : o.ch.known = o.placed.order.known := by
  have h := o.referenced
  rw [Bool.eq_iff_iff, ChOrderFact.known, OrderFact.known, decide_eq_true_iff]
  simp only [ch, customer, PlacedOrder.customer, OrderFact.customer]
  cases href : o.placed.order.customerRef with
  | none => simp
  | some ref =>
    rw [href] at h
    simpa using h

theorem netMu_ch (o : SharedOrder) : o.ch.netMu = Int64.ofInt o.netMu := by
  rw [netMu, OrderFact.netMu, Int64.ofInt_sub, Int64.ofInt_toInt, Int64.ofInt_toInt]
  rfl

end SharedOrder

namespace Shared

variable (orders : List SharedOrder)

/-- The table of PostgreSQL. -/
def pg : List PlacedOrder := orders.map (·.placed)

/-- The table of ClickHouse. -/
def ch : List ChOrderFact := orders.map (·.ch)

/-- The live orders of known customers. -/
def known : List SharedOrder := orders.filter fun o => o.placed.order.live ∧ o.placed.order.known

def customers : List String := keysOf SharedOrder.customer (known orders)

/-- The orders of a customer. -/
def ofCustomer (c : String) : List SharedOrder := groupOf SharedOrder.customer (known orders) c

/-- When a customer's first order was placed. -/
def firstAt (c : String) : Option Timestamp := ((ofCustomer orders c).map (·.placedAt)).min?

end Shared

/-- `customer_ref != '' AND CANCELLED_OK` -/
def chKnownOrders (orders : List ChOrderFact) : List ChOrderFact :=
  orders.filter fun o => o.known ∧ o.live

/-- `min(placed_at)` of a customer. -/
def chFirstAt (orders : List ChOrderFact) (customer : String) : Option Timestamp :=
  ((groupOf ChOrderFact.customerRef (chKnownOrders orders) customer).map (·.placedAt)).min?

section

variable {orders : List SharedOrder} {c : String}

theorem knownOrders_pg : knownOrders (Shared.pg orders) = (Shared.known orders).map (·.placed) := by
  rw [knownOrders, Shared.pg, List.filter_map]
  rfl

theorem chKnownOrders_ch :
    chKnownOrders (Shared.ch orders) = (Shared.known orders).map (·.ch) := by
  rw [chKnownOrders, Shared.ch, List.filter_map, Shared.known]
  congr 1
  apply List.filter_congr
  intro o _
  rw [Function.comp_apply, Bool.eq_iff_iff, decide_eq_true_iff, decide_eq_true_iff, o.live_ch,
    o.known_ch, and_comm]

theorem groupOf_pg : groupOf PlacedOrder.customer (knownOrders (Shared.pg orders)) c =
    (Shared.ofCustomer orders c).map (·.placed) := by
  rw [knownOrders_pg, groupOf_map]
  rfl

theorem groupOf_ch : groupOf ChOrderFact.customerRef (chKnownOrders (Shared.ch orders)) c =
    (Shared.ofCustomer orders c).map (·.ch) := by
  rw [chKnownOrders_ch, groupOf_map]
  rfl

theorem keysOf_pg : keysOf PlacedOrder.customer (knownOrders (Shared.pg orders)) =
    Shared.customers orders := by
  rw [knownOrders_pg, keysOf_map]
  rfl

theorem keysOf_ch : keysOf ChOrderFact.customerRef (chKnownOrders (Shared.ch orders)) =
    Shared.customers orders := by
  rw [chKnownOrders_ch, keysOf_map]
  rfl

theorem chFirstAt_ch : chFirstAt (Shared.ch orders) c = Shared.firstAt orders c := by
  rw [chFirstAt, groupOf_ch, Shared.firstAt, List.map_map]
  rfl

/-- A sum that fits is what ClickHouse reports. -/
theorem sumInt64_eq_iff (values : List Int) (n : Int) :
    sumInt64 (values.map Int64.ofInt) = n ↔
      Fits n ∧ (values.sum - n) % 18446744073709551616 = 0 := by
  rw [sumInt64, Wrapping.sum_ofInt, Wrapping.toInt_ofInt_eq_iff]

theorem sumInt64_of_fits {values : List Int} (h : Fits values.sum) :
    sumInt64 (values.map Int64.ofInt) = values.sum := by
  rw [sumInt64_eq_iff]
  exact ⟨h, by omega⟩

end

/-- A paid order of a customer, with nothing but gross sales. -/
def sharedOrder (id customer : String) (placedAt : Timestamp) (grossSalesMu : Int64)
    (c : decide (some customer ≠ some "") = true := by exact Eq.refl true)
    (m : decide (placedAt.micros % 1000 = 0) = true := by exact Eq.refl true)
    (d : epochDate ≤ placedAt.date ∧ placedAt.date ≤ lastDate := by decide) : SharedOrder where
  placed :=
    ⟨⟨"SHOPIFY", id, some customer, grossSalesMu, 0, 0, 0, "INR", some "paid", none,
        some placedAt⟩, placedAt, rfl⟩
  referenced := of_decide_eq_true c
  millis := of_decide_eq_true m
  datable := d

end BrainV2.Analytics
