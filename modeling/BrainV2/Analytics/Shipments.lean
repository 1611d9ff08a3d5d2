import BrainV2.Analytics.Acquisition
import BrainV2.Analytics.ChHeadline

/-!
# Shipments

* `StatusBucket`, `statusBucket`: `STATUS_BUCKET`;
* `readShipmentAnalyticsCH`, `readPincodesCH`;
* `ShipmentRowFilters`, `readShipmentRowsCH`: the console, a page at a time;
* `ShipmentFact`: a shipment as the connectors write it;
* `readShipmentAnalytics`, `readPincodes`: which group all shipments;
* `OrderPayment`, `readCodPrepaid`: orders with the way they are paid.
-/

namespace BrainV2.Analytics

open Py (Date)
open Sql (Timestamp)
open Grouping
open RowOrder (Arrangement orderBy)

section

inductive StatusBucket where
  | rto
  | delivered
  | cancelled
  | undelivered
  | inTransit
deriving DecidableEq

/-- `positionCaseInsensitive(text, part) > 0` -/
def containsText (text part : String) : Bool := Js.includes (lower text) (lower part)

/-- `STATUS_BUCKET` -/
def statusBucket (status : String) : StatusBucket :=
  if containsText status "RTO" then .rto
  else if status = "DELIVERED" then .delivered
  else if containsText status "SELF FULFILLED" then .delivered
  else if containsText status "CANCEL" then .cancelled
  else if containsText status "UNDELIVER" || containsText status "QC FAILED" then .undelivered
  else .inTransit

def ChShipment.bucket (s : ChShipment) : StatusBucket := statusBucket s.status

/-- `countIf` -/
def countShipments (rows : List ChShipment) (p : ChShipment → Bool) : Nat := (rows.filter p).length

/-- The groups of a key, the larger ones first. -/
def largestGroups (b : Arrangement) (key : ChShipment → String) (rows : List ChShipment) :
    List (String × List ChShipment) :=
  orderBy b (fun g g' => g'.2.length ≤ g.2.length)
    ((keysOf key rows).map fun k => (k, groupOf key rows k))

variable (b : Arrangement) (db : ChDatabase) (workspaceId : String)

/-! ### Couriers -/

structure FactCourierRow where
  courierName : String
  count : Nat
  deliveredCount : Nat
  rtoCount : Nat
  chargesMu : Int
deriving DecidableEq

structure FactShipmentAnalytics where
  totalShipments : Nat
  deliveredCount : Nat
  rtoCount : Nat
  codCount : Nat
  prepaidCount : Nat
  totalChargesMu : Int
  rtoChargesMu : Int
  forwardChargesMu : Int
  codChargesMu : Int
  codRtoCount : Nat
  codTotal : Nat
  prepaidRtoCount : Nat
  prepaidTotal : Nat
  byCourier : List FactCourierRow
deriving DecidableEq

/-- `coalesce(nullIf(courier_name, ''), 'Unknown')` -/
def ChShipment.courier (s : ChShipment) : String :=
  if s.courierName = "" then "Unknown" else s.courierName

def courierRows : List FactCourierRow :=
  ((largestGroups b ChShipment.courier (db.shipmentsOf workspaceId)).take 50).map fun g =>
    { courierName := g.1
      count := g.2.length
      deliveredCount := countShipments g.2 (·.bucket = .delivered)
      rtoCount := countShipments g.2 (·.bucket = .rto)
      chargesMu := 0 }

def readShipmentAnalyticsCH : FactShipmentAnalytics :=
  let rows := db.shipmentsOf workspaceId
  { totalShipments := rows.length
    deliveredCount := countShipments rows (·.bucket = .delivered)
    rtoCount := countShipments rows (·.bucket = .rto)
    codCount := countShipments rows (·.isCod = 1)
    prepaidCount := countShipments rows (·.isCod = 0)
    totalChargesMu := 0
    rtoChargesMu := 0
    forwardChargesMu := 0
    codChargesMu := 0
    codRtoCount := countShipments rows fun s => s.isCod = 1 ∧ s.bucket = .rto
    codTotal := countShipments rows (·.isCod = 1)
    prepaidRtoCount := countShipments rows fun s => s.isCod = 0 ∧ s.bucket = .rto
    prepaidTotal := countShipments rows (·.isCod = 0)
    byCourier := courierRows b db workspaceId }

/-! ### Pincodes -/

structure FactPincodeRow where
  pincode : String
  city : String
  shipmentCount : Nat
  rtoCount : Nat
  deliveredCount : Nat
  codCount : Nat
deriving DecidableEq

def readPincodesCH : List FactPincodeRow :=
  let rows := (db.shipmentsOf workspaceId).filter (·.deliveryPincode ≠ "")
  ((largestGroups b ChShipment.deliveryPincode rows).take 200).map fun g =>
    { pincode := g.1
      city := (anyOf b g.2 (·.deliveryCity)).getD ""
      shipmentCount := g.2.length
      rtoCount := countShipments g.2 (·.bucket = .rto)
      deliveredCount := countShipments g.2 (·.bucket = .delivered)
      codCount := countShipments g.2 (·.isCod = 1) }

/-! ### The console -/

inductive Payment where
  | cod
  | prepaid
deriving DecidableEq

/-- The filters that are read. -/
structure ShipmentRowFilters where
  search : Option String
  statuses : Option (List String)
  payment : Option Payment
  rtoOnly : Bool

/-- The first code units of a text; half of a surrogate pair is sent as U+FFFD. -/
def sliceChars : List Char → Nat → List Char
  | [], _ | _, 0 => []
  | c :: cs, n + 1 =>
    if c.toNat < 0x10000 then c :: sliceChars cs n
    else
      match n with
      | 0 => ['\uFFFD']
      | n + 1 => c :: sliceChars cs n

/-- `slice(0, n)` -/
def sliceText (n : Nat) (text : String) : String := String.ofList (sliceChars text.toList n)

namespace ShipmentRowFilters

variable (filters : ShipmentRowFilters)

def bySearch (s : ChShipment) : Bool :=
  let search := (filters.search.map fun text => String.ofList (Js.trim text.toList)).getD ""
  search = "" || containsText s.vendorShipmentId (sliceText 100 search) ||
    containsText s.vendorOrderId (sliceText 100 search)

def byStatus (s : ChShipment) : Bool :=
  match filters.statuses with
  | none | some [] => true
  | some statuses => s.status ∈ (statuses.take 50).map (sliceText 64)

def byPayment (s : ChShipment) : Bool :=
  match filters.payment with
  | none => true
  | some .cod => s.isCod = 1
  | some .prepaid => s.isCod = 0

/-- `filterWhere` -/
def has (s : ChShipment) : Bool :=
  filters.bySearch s && filters.byStatus s && filters.byPayment s &&
    (!filters.rtoOnly || s.bucket = .rto)

end ShipmentRowFilters

/-- `cursorWhere`; an empty cursor is none. -/
def beforeCursor (cursor : Option String) (s : ChShipment) : Bool :=
  match cursor with
  | none | some "" => true
  | some cursor => s.vendorShipmentId < sliceText 128 cursor

structure FactShipmentRow where
  id : String
  vendorShipmentId : String
  vendorOrderRef : Option String
  status : Option String
  statusBucket : Option StatusBucket
  isCod : Bool
  codAmountMu : Option Int
  shippingChargesMu : Option Int
  courierName : Option String
  deliveryPincode : Option String
  deliveryCity : Option String
  shippedAt : Option Timestamp
  createdAt : Option Date
deriving DecidableEq

structure FactShipmentPage where
  rows : List FactShipmentRow
  nextCursor : Option String
  totalCount : Nat
  filteredCount : Nat
  deliveredCount : Nat
  rtoCount : Nat
  mappedCount : Nat
  distinctStatuses : List String
deriving DecidableEq

/-- A text that is not empty. -/
def orNullText (text : String) : Option String := if text = "" then none else some text

def factShipmentRow (s : ChShipment) : FactShipmentRow where
  id := s.vendorShipmentId
  vendorShipmentId := s.vendorShipmentId
  vendorOrderRef := orNullText s.vendorOrderId
  status := some s.status
  statusBucket := some s.bucket
  isCod := s.isCod = 1
  codAmountMu := none
  shippingChargesMu := none
  courierName := orNullText s.courierName
  deliveryPincode := orNullText s.deliveryPincode
  deliveryCity := orNullText s.deliveryCity
  shippedAt := s.shippedAt
  createdAt := some s.date

/-- The first statement: one row more than a page has. -/
def shipmentRows (filters : ShipmentRowFilters) (cursor : Option String) (pageSize : Nat) :
    List ChShipment :=
  (orderBy b (fun s s' : ChShipment => s'.vendorShipmentId ≤ s.vendorShipmentId)
    ((db.shipmentsOf workspaceId).filter fun s =>
      filters.has s && beforeCursor cursor s)).take (pageSize + 1)

def distinctStatuses : List String :=
  (keysOf ChShipment.status ((db.shipmentsOf workspaceId).filter (·.status ≠ ""))).take 50

def readShipmentRowsCH (filters : ShipmentRowFilters) (cursor : Option String) (pageSize : Nat) :
    FactShipmentPage :=
  let rows := shipmentRows b db workspaceId filters cursor pageSize
  let counted := (db.shipmentsOf workspaceId).filter filters.has
  let pageRows := rows.take pageSize
  { rows := pageRows.map factShipmentRow
    nextCursor :=
      if pageSize < rows.length then pageRows.getLast?.map (·.vendorShipmentId) else none
    totalCount := counted.length
    filteredCount := counted.length
    deliveredCount := countShipments counted (·.bucket = .delivered)
    rtoCount := countShipments counted (·.bucket = .rto)
    mappedCount := 0
    distinctStatuses := distinctStatuses db workspaceId }

/-! ### Each of them reads one workspace -/

section

variable {b db workspaceId} {db' : ChDatabase} (h : SameFor workspaceId db db')
include h

theorem courierRows_same : courierRows b db workspaceId = courierRows b db' workspaceId := by
  rw [courierRows, h.shipmentsOf]
  rfl

theorem readShipmentAnalyticsCH_same :
    readShipmentAnalyticsCH b db workspaceId = readShipmentAnalyticsCH b db' workspaceId := by
  rw [readShipmentAnalyticsCH, h.shipmentsOf, courierRows_same h]
  rfl

theorem readPincodesCH_same : readPincodesCH b db workspaceId = readPincodesCH b db' workspaceId := by
  rw [readPincodesCH, h.shipmentsOf]
  rfl

theorem shipmentRows_same (filters : ShipmentRowFilters) (cursor : Option String)
    (pageSize : Nat) : shipmentRows b db workspaceId filters cursor pageSize =
      shipmentRows b db' workspaceId filters cursor pageSize := by
  rw [shipmentRows, h.shipmentsOf]
  rfl

theorem distinctStatuses_same :
    distinctStatuses db workspaceId = distinctStatuses db' workspaceId := by
  rw [distinctStatuses, h.shipmentsOf]
  rfl

theorem readShipmentRowsCH_same (filters : ShipmentRowFilters) (cursor : Option String)
    (pageSize : Nat) : readShipmentRowsCH b db workspaceId filters cursor pageSize =
      readShipmentRowsCH b db' workspaceId filters cursor pageSize := by
  rw [readShipmentRowsCH, shipmentRows_same h, h.shipmentsOf, distinctStatuses_same h]
  rfl

end

end

/-! ## Shipments in Postgres -/

section

open Sql (FactDateRange Timestamp)

/-- The columns of a shipment that are read. -/
structure ShipmentFact where
  vendor : String
  vendorShipmentId : String
  statusBucket : Option String
  isCod : Option Bool
  codAmountMu : Option Int64
  shippingChargesMu : Option Int64
  courierName : Option String
  deliveryPincode : Option String
  deliveryCity : Option String
  shippedAt : Option Timestamp
deriving DecidableEq

namespace ShipmentFact

/-- The shipment is of a range. -/
def inRange (range : FactDateRange) (s : ShipmentFact) : Bool := s.shippedAt.any range.has

def isRto (s : ShipmentFact) : Bool := s.statusBucket = some "RTO"

/-- `status_bucket<>'RTO'`, which no missing status meets. -/
def isForward (s : ShipmentFact) : Bool := s.statusBucket.any (· ≠ "RTO")

def isDelivered (s : ShipmentFact) : Bool := s.statusBucket = some "DELIVERED"

/-- `is_cod` -/
def cod (s : ShipmentFact) : Bool := s.isCod = some true

/-- `NOT is_cod` -/
def prepaid (s : ShipmentFact) : Bool := s.isCod = some false

/-- `COALESCE(NULLIF(courier_name,''),'Unknown')` -/
def courier (s : ShipmentFact) : String :=
  match s.courierName with
  | none | some "" => "Unknown"
  | some name => name

end ShipmentFact

/-- `COALESCE(sum(...),0)`, of the amounts that are there. -/
def sumOptional (column : ShipmentFact → Option Int64) (rows : List ShipmentFact) : Int :=
  (rows.filterMap fun s => (column s).map (·.toInt)).sum

/-- `GROUP BY key ORDER BY count(*) DESC` -/
def groupsBySize (b : Arrangement) (key : ShipmentFact → String) (rows : List ShipmentFact) :
    List (String × List ShipmentFact) :=
  orderBy b (fun g g' => g'.2.length ≤ g.2.length)
    ((keysOf key rows).map fun k => (k, groupOf key rows k))

variable (b : Arrangement)

def courierRow (g : String × List ShipmentFact) : FactCourierRow where
  courierName := g.1
  count := g.2.length
  deliveredCount := (g.2.filter (·.isDelivered)).length
  rtoCount := (g.2.filter (·.isRto)).length
  chargesMu := sumOptional (·.shippingChargesMu) g.2

def readShipmentAnalytics (rows : List ShipmentFact) : FactShipmentAnalytics where
  totalShipments := rows.length
  deliveredCount := (rows.filter (·.isDelivered)).length
  rtoCount := (rows.filter (·.isRto)).length
  codCount := (rows.filter (·.cod)).length
  prepaidCount := (rows.filter (·.prepaid)).length
  totalChargesMu := sumOptional (·.shippingChargesMu) rows
  rtoChargesMu := sumOptional (·.shippingChargesMu) (rows.filter (·.isRto))
  forwardChargesMu := sumOptional (·.shippingChargesMu) (rows.filter (·.isForward))
  codChargesMu := sumOptional (·.codAmountMu) rows
  codRtoCount := (rows.filter fun s => s.cod && s.isRto).length
  codTotal := (rows.filter (·.cod)).length
  prepaidRtoCount := (rows.filter fun s => s.prepaid && s.isRto).length
  prepaidTotal := (rows.filter (·.prepaid)).length
  byCourier := ((groupsBySize b ShipmentFact.courier rows).take 50).map courierRow

def pincodeRow (g : String × List ShipmentFact) : FactPincodeRow where
  pincode := g.1
  city := ((g.2.map fun s => s.deliveryCity.getD "").max?).getD ""
  shipmentCount := g.2.length
  rtoCount := (g.2.filter (·.isRto)).length
  deliveredCount := (g.2.filter (·.isDelivered)).length
  codCount := (g.2.filter (·.cod)).length

def readPincodes (rows : List ShipmentFact) : List FactPincodeRow :=
  let known := rows.filter fun s => s.deliveryPincode.any (· ≠ "")
  ((groupsBySize b (·.deliveryPincode.getD "") known).take 200).map pincodeRow

/-! ### Payment methods -/

/-- An order with its payment method. -/
structure OrderPayment extends OrderFact where
  paymentMethod : Option String
deriving DecidableEq

def grossOf (rows : List OrderPayment) : Int := (rows.map (·.grossSalesMu.toInt)).sum

/-- The differences of a row are bigints, which the sum of them is not. -/
def readCodPrepaid (orders : List OrderPayment) : Except PgError FactCodPrepaid :=
  let rows := orders.filter (·.live)
  let cod := rows.filter (·.paymentMethod = some "COD")
  let prepaid := rows.filter (·.paymentMethod = some "Prepaid")
  let net := (rows.map (·.netMu)).sum
  bigints (rows.map (·.netMu))
    { codOrders := cod.length
      prepaidOrders := prepaid.length
      codGrossMu := grossOf cod
      prepaidGrossMu := grossOf prepaid
      aovMu := if 0 < rows.length then some (net.tdiv rows.length) else none }

end

end BrainV2.Analytics
