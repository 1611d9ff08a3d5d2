import BrainV2.Analytics.Headline

/-!
# The readers of new customers

* `firstAt`: when a customer's first live order was placed;
* `readMarketing`, `readDailyAcquisition`, `readCalendarReport`.
-/

namespace BrainV2.Analytics

open Py (Date)
open Sql (Timestamp FactDateRange Grain dateTrunc)
open Grouping

namespace OrderFact

/-- Whose customer is known. -/
def known (o : OrderFact) : Bool := o.customerRef.isSome

/-- The customer of an order that has one. -/
def customer (o : OrderFact) : String := o.customerRef.getD ""

/-- `processed_at`, and after all times the missing one. -/
def sortKey (o : OrderFact) : WithTop Timestamp := o.processedAt

/-- The period of an order, and after all dates the missing one. -/
def period (grain : Grain) (o : OrderFact) : WithTop Date :=
  o.processedAt.map fun t => dateTrunc grain t.date

end OrderFact

/-- `customer_ref IS NOT NULL AND CANCELLED` -/
def liveKnown (orders : List OrderFact) : List OrderFact :=
  (orders.filter (·.live)).filter (·.known)

/-- `min(processed_at)` of a customer, which passes over missing times. -/
def firstAt (orders : List OrderFact) (customer : String) : Option Timestamp :=
  ((groupOf OrderFact.customer (liveKnown orders) customer).filterMap (·.processedAt)).min?

def customers (orders : List OrderFact) : List String := keysOf OrderFact.customer (liveKnown orders)

def netsOf (orders : List OrderFact) : List Int := orders.map (·.netMu)

/-! ### `readMarketing` -/

structure FactMarketing where
  hasData : Bool
  currencyCode : String
  netRevenueMu : Int
  totalAdSpendMu : Int
  metaSpendMu : Int
  googleSpendMu : Int
  newCustomerRevenueMu : Int
  newCustomersCount : Nat
deriving DecidableEq

/-- The orders that the customers' rows are numbered among. -/
def ranked (facts : Facts) (range : Option FactDateRange) : List OrderFact :=
  (liveIn range facts.orders).filter (·.known)

def readMarketing (facts : Facts) (range : Option FactDateRange) : Except PgError FactMarketing :=
  let store := readStoreSummary facts range
  let spend := readAdSpend facts range
  let rows := ranked facts range
  -- of equal times the database may number either first
  let first := (numbered (fun a b => a.sortKey ≤ b.sortKey) OrderFact.customer rows).filter (·.2 = 1)
  bigints (netsOf rows)
    { hasData := store.hasData
      currencyCode := store.currencyCode
      netRevenueMu := store.realizedRevenueMu
      totalAdSpendMu := spend.metaMu + spend.googleMu
      metaSpendMu := spend.metaMu
      googleSpendMu := spend.googleMu
      newCustomerRevenueMu := (first.map (·.1.netMu)).sum
      newCustomersCount := first.length }

/-! ### `readDailyAcquisition` -/

structure FactDailyAcquisitionRow where
  date : Date
  newCustomers : Nat
  ncRevenueMu : Int
  adSpendMu : Int
  ncCm2Mu : Int
  cacMu : Option Int
  cm2PerNcMu : Option Int
  metaSpendMu : Int
  googleSpendMu : Int
deriving DecidableEq

/-- What the loop makes of a day, its count and revenue, and its entry of the spend map. -/
def acquisitionRow (day : Date) (nc : Nat) (ncRev : Int) (spend : AdSpend) :
    FactDailyAcquisitionRow where
  date := day
  newCustomers := nc
  ncRevenueMu := ncRev
  adSpendMu := spend.totalMu
  ncCm2Mu := ncRev - spend.totalMu
  cacMu := if 0 < nc then some (spend.totalMu.tdiv nc) else none
  cm2PerNcMu := if 0 < nc then some ((ncRev - spend.totalMu).tdiv nc) else none
  metaSpendMu := spend.metaMu
  googleSpendMu := spend.googleMu

/-- The live orders of a customer on a day. -/
def ordersOn (orders : List OrderFact) (customer : String) (day : Date) : List OrderFact :=
  (groupOf OrderFact.customer (liveKnown orders) customer).filter fun o =>
    o.processedAt.any (·.date = day)

/-- `firsts` joined with the orders of the acquisition day, for the days of a range. -/
def acquisitionOrders (orders : List OrderFact) (range : FactDateRange) :
    List (Date × OrderFact) :=
  (customers orders).flatMap fun c =>
    match firstAt orders c with
    | none => []
    | some acq =>
      if range.hasDate acq.date then (ordersOn orders c acq.date).map fun o => (acq.date, o) else []

def readDailyAcquisition (facts : Facts) (range : FactDateRange) :
    Except PgError (List FactDailyAcquisitionRow) :=
  let joined := acquisitionOrders facts.orders range
  let spendMap := spendByPeriod spendMu (·.spendDate) (facts.adSpend.filter (·.inRange (some range)))
  bigints (netsOf (joined.map Prod.snd)) <| (keysOf Prod.fst joined).map fun day =>
    let rows := groupOf Prod.fst joined day
    acquisitionRow day rows.length (rows.map (·.2.netMu)).sum
      ((spendMap.lookup day).getD AdSpend.none)

/-! ### `readCalendarReport` -/

/-- The grains of the calendar. -/
inductive CalendarGrain where
  | day
  | week
  | month
deriving DecidableEq

def CalendarGrain.trunc : CalendarGrain → Grain
  | .day => .day
  | .week => .week
  | .month => .month

structure FactCalendarRow where
  periodKey : WithTop Date
  revenueMu : Int
  orders : Nat
  newCustomers : Nat
  spendMu : Int

/-- `f.acq = o.processed_at`, of an order joined with its customer in `firsts`. -/
def isFirst (orders : List OrderFact) (o : OrderFact) : Bool :=
  o.known ∧ o.processedAt.isSome ∧ firstAt orders o.customer = o.processedAt

/-- The periods that are shown: the last ones, first among them the orders without a time. -/
def shownPeriods (orders : List OrderFact) (grain : Grain) : List (WithTop Date) :=
  (keysOf (OrderFact.period grain) (orders.filter (·.live))).reverse.take 90

/-- The map of the spend of each period, looked up. -/
def periodSpend (total : List AdSpendFact → Int) (period : AdSpendFact → WithTop Date)
    (adSpend : List AdSpendFact) (k : WithTop Date) : Int :=
  let spendByPeriod := (keysOf period adSpend).map fun k => (k, total (groupOf period adSpend k))
  (spendByPeriod.lookup k).getD 0

def calendarRow (facts : Facts) (grain : CalendarGrain) (k : WithTop Date) : FactCalendarRow :=
  let rows := groupOf (OrderFact.period grain.trunc) (facts.orders.filter (·.live)) k
  { periodKey := k
    revenueMu := (rows.map (·.netMu)).sum
    orders := rows.length
    newCustomers := (rows.filter (isFirst facts.orders)).length
    spendMu := periodSpend spendMu (fun a => (dateTrunc grain.trunc a.spendDate : Date))
      facts.adSpend k }

def readCalendarReport (facts : Facts) (grain : CalendarGrain) :
    Except PgError (List FactCalendarRow) :=
  bigints (netsOf (facts.orders.filter (·.live)))
    ((shownPeriods facts.orders grain.trunc).map (calendarRow facts grain))

/-! ### First orders -/

section

variable {orders : List OrderFact} {customer : String} {first : Timestamp}

variable (orders) in
theorem nodup_customers : (customers orders).Nodup := nodup_keysOf _ _

theorem mem_liveKnown {o : OrderFact} :
    o ∈ liveKnown orders ↔ o ∈ orders ∧ o.live = true ∧ o.known = true := by
  rw [liveKnown, List.mem_filter, List.mem_filter, and_assoc]

theorem firstAt_eq_some : firstAt orders customer = some first ↔
    (∃ o ∈ groupOf OrderFact.customer (liveKnown orders) customer, o.processedAt = some first) ∧
      ∀ o ∈ groupOf OrderFact.customer (liveKnown orders) customer,
        ∀ t, o.processedAt = some t → first ≤ t := by
  rw [firstAt, List.min?_eq_some_iff, List.mem_filterMap]
  constructor
  · rintro ⟨hmem, hle⟩
    exact ⟨hmem, fun o ho t ht => hle t (List.mem_filterMap.mpr ⟨o, ho, ht⟩)⟩
  · rintro ⟨hmem, hle⟩
    refine ⟨hmem, fun t ht => ?_⟩
    obtain ⟨o, ho, hot⟩ := List.mem_filterMap.mp ht
    exact hle o ho t hot

/-- A customer with a dated order has a first one. -/
theorem exists_firstAt {o : OrderFact}
    (h : o ∈ groupOf OrderFact.customer (liveKnown orders) customer) {t : Timestamp}
    (ht : o.processedAt = some t) : ∃ first, firstAt orders customer = some first ∧ first ≤ t := by
  cases hfirst : firstAt orders customer with
  | none =>
    rw [firstAt, List.min?_eq_none_iff, List.filterMap_eq_nil_iff] at hfirst
    rw [hfirst o h] at ht
    cases ht
  | some first => exact ⟨first, rfl, (firstAt_eq_some.mp hfirst).2 o h t ht⟩

end

end BrainV2.Analytics
