import BrainV2.Store.Pagination

/-!
# The store browser

* `Timestamptz`, `Text`, `Postgres`: what is stored, and how the database writes and reads it;
* `OrderFact`, `ProductFact`, `CustomerPii`, `StoreTables`: the tables;
* `Listing`: what the three lists differ in, and a page of one;
* `listOrders`, `listStoreProducts`, `listStoreCustomers`.
-/

namespace BrainV2.Store

open Js (Engine JsError)

/-! ### What is stored -/

abbrev Uuid := Fin (2 ^ 128)

/-- Microseconds from the epoch, in the range of the database. -/
abbrev Micros := {n : Int // -210866803200000000 ≤ n ∧ n < 9224318016000000000}

/-- With `-infinity` and `infinity`. -/
abbrev Timestamptz := WithBot (WithTop Micros)

/-- `date.toISOString()` of what the driver makes of a timestamp: an infinity becomes a number. -/
def isoOf : Timestamptz → Js.Result String
  | some (some n) => Js.toISOString (Js.timeClip (n.1 / 1000))
  | _ => .error .typeError

/-- `x.toISOString()` -/
def isoText : Option Timestamptz → Js.Result String
  | none => .error .typeError
  | some t => isoOf t

/-- `x ? x.toISOString() : null` -/
def isoOrNull : Option Timestamptz → Js.Result (Option String)
  | none => .ok none
  | some t => (isoOf t).map some

/-- A text of the database holds no NUL. -/
abbrev Text := {s : String // '\x00' ∉ s.toList}

/-- The database, as far as the lists rely on it. -/
structure Postgres where
  uuidText : Uuid → String
  /-- `::uuid` -/
  uuidOf : String → Option Uuid
  timestampText : Timestamptz → String
  /-- `::timestamptz` -/
  timestampOf : String → Option Timestamptz
  /-- Texts that tie are equal. -/
  collation : LinearOrder Text
  ilike : String → String → Bool

/-- A text in the order of the database. -/
def Postgres.Title (_ : Postgres) : Type := Text

instance (pg : Postgres) : LinearOrder pg.Title := pg.collation

/-- A text that is bound to a parameter. -/
def textOf (s : String) : Option Text := if h : '\x00' ∉ s.toList then some ⟨s, h⟩ else none

inductive ListError where
  | thrown (e : JsError)
  /-- The database refuses a statement. -/
  | database
deriving DecidableEq

def ofJs {α : Type} : Js.Result α → Except ListError α
  | .ok a => .ok a
  | .error e => .error (.thrown e)

def bound {α : Type} : Option α → Except ListError α
  | some a => .ok a
  | none => .error .database

structure OrderFact where
  id : Uuid
  workspaceId : Uuid
  vendor : String
  vendorOrderId : String
  orderNumber : Option String
  financialStatus : Option String
  fulfillmentStatus : Option String
  paymentMethod : Option String
  currencyCode : Option String
  grossSalesMu : Option Int
  totalDiscountMu : Option Int
  totalTaxMu : Option Int
  shippingMu : Option Int
  customerRef : Option String
  deliveryPincode : Option String
  deliveryCity : Option String
  isCod : Option Bool
  processedAt : Option Timestamptz
  cancelledAt : Option Timestamptz

structure ProductFact where
  id : Uuid
  workspaceId : Uuid
  vendor : String
  vendorProductId : String
  title : Option Text
  handle : Option String
  imageUrl : Option String
  status : Option String
  productType : Option String
  inventoryQty : Option Int
  costMu : Option Int
  mrpMu : Option Int
  syncedAt : Timestamptz

/-- `customer_consent_status` -/
inductive ConsentStatus where
  | unknown
  | optedIn
  | optedOut
  | withdrawn
deriving DecidableEq

def ConsentStatus.text : ConsentStatus → String
  | .unknown => "unknown"
  | .optedIn => "opted_in"
  | .optedOut => "opted_out"
  | .withdrawn => "withdrawn"

structure CustomerPii where
  id : Uuid
  workspaceId : Uuid
  customerRef : String
  sourceVendor : String
  vendorCustomerId : String
  emailCt : Option (List UInt8)
  phoneCt : Option (List UInt8)
  fullNameCt : Option (List UInt8)
  firstSeenAt : Option Timestamptz
  lastSeenAt : Option Timestamptz
  ordersCount : Int
  lifetimeSpentMu : Option Int
  currencyCode : Option String
  consentStatus : ConsentStatus
  tombstonedAt : Option Timestamptz

/-- The ids are primary keys. -/
structure StoreTables where
  orders : List OrderFact
  products : List ProductFact
  customers : List CustomerPii
  orderIds : (orders.map (·.id)).Nodup
  productIds : (products.map (·.id)).Nodup
  customerIds : (customers.map (·.id)).Nodup

/-! ### A page of a list -/

structure KeysetPage (ρ : Type) where
  rows : List ρ
  total : Nat
  pageSize : Nat
  nextCursor : Option String

def clampSize (s : Option Int) : Nat := (min 100 (max 10 (s.getD 20))).toNat

/-- What the lists differ in. -/
structure Listing (α κ ρ : Type) where
  dir : SortDir
  id : α → Uuid
  /-- The sort column. -/
  column : α → Option κ
  /-- `_cursor_sort` -/
  cursorSort : κ → String
  /-- The cast of a cursor's value. -/
  cast : String → Option κ
  /-- A row as it is returned. -/
  row : α → Js.Result ρ

namespace Listing

variable {α κ ρ : Type} [LinearOrder κ] (L : Listing α κ ρ) (pg : Postgres)

def place (r : α) : Place κ Uuid := (L.column r, L.id r)

def keyset (r : α) : Keyset := ⟨(L.column r).map L.cursorSort, pg.uuidText (L.id r)⟩

/-- The binds of a seek predicate. -/
def seekOf (cursor : Keyset) : Except ListError (Place κ Uuid) := do
  let v ← match cursor.v with
    | none => .ok none
    | some text => (bound (L.cast text)).map some
  let id ← bound (pg.uuidOf cursor.id)
  .ok (v, id)

def seek : Option Keyset → Except ListError (Option (Place κ Uuid))
  | none => .ok none
  | some cursor => (L.seekOf pg cursor).map some

/-- The rows that match, in the declared order. -/
def ordered (matching : List α) : List α := L.dir.orderBy L.place matching

def behind : Option (Place κ Uuid) → α → Bool
  | none, _ => true
  | some cursor, r => keysetPredicate L.dir cursor (L.column r) (L.id r)

/-- The rows of the second statement, one more than a page. -/
def selected (matching : List α) (cursor : Option (Place κ Uuid)) (pageSize : Nat) : List α :=
  (L.ordered (matching.filter (L.behind cursor))).take (pageSize + 1)

def page (matching : List α) (cursor : Option Keyset) (pageSize : Nat) :
    Except ListError (KeysetPage ρ) := do
  let seek ← L.seek pg cursor
  let rows := L.selected matching seek pageSize
  let hasNext := pageSize < rows.length
  let pageRows := if hasNext then rows.take pageSize else rows
  let nextCursor := if hasNext then pageRows.getLast?.map fun last => encodeCursor (L.keyset pg last)
    else none
  let returned ← ofJs (pageRows.mapM L.row)
  .ok ⟨returned, matching.length, pageSize, nextCursor⟩

end Listing

/-- `(search ?? '').trim()` -/
def searchOf (search : Option String) : String :=
  String.ofList (Js.trim (search.getD "").toList)

/-- The bind of a search, if there is one. -/
def searchBind (search : String) : Except ListError (Option String) :=
  if search = "" then .ok none
  else (bound (textOf ("%" ++ search ++ "%"))).map fun pattern => some pattern.1

/-- `column ILIKE pattern` is true. -/
def Postgres.like (pg : Postgres) (pattern : String) (column : Option String) : Bool :=
  column.any fun text => pg.ilike text pattern

/-! ### Orders -/

structure StoreOrderRow where
  id : String
  vendor : String
  vendorOrderId : String
  orderNumber : Option String
  financialStatus : String
  fulfillmentStatus : String
  paymentMethod : String
  currencyCode : String
  totalMu : Int
  customerRef : String
  deliveryPincode : Option String
  deliveryCity : Option String
  isCod : Bool
  processedAt : String
  cancelledAt : Option String

inductive OrderStatusFilter where
  | all
  | paid
  | pending
  | refunded
  | voided
  | partiallyRefunded
deriving DecidableEq

def OrderStatusFilter.text : OrderStatusFilter → String
  | .all => "all"
  | .paid => "paid"
  | .pending => "pending"
  | .refunded => "refunded"
  | .voided => "voided"
  | .partiallyRefunded => "partially_refunded"

inductive CodFilter where
  | all
  | cod
  | prepaid
deriving DecidableEq

structure OrdersListOptions where
  search : Option String
  status : Option OrderStatusFilter
  cod : Option CodFilter
  cursor : Option String
  pageSize : Option Int

section

variable (pg : Postgres) (engine : Engine) (db : StoreTables) (workspaceId : Uuid)

def orderRow (r : OrderFact) : Js.Result StoreOrderRow := do
  let processedAt ← isoText r.processedAt
  let cancelledAt ← isoOrNull r.cancelledAt
  .ok {
    id := pg.uuidText r.id
    vendor := r.vendor
    vendorOrderId := r.vendorOrderId
    orderNumber := r.orderNumber
    financialStatus := r.financialStatus.getD ""
    fulfillmentStatus := r.fulfillmentStatus.getD ""
    paymentMethod := r.paymentMethod.getD ""
    currencyCode := r.currencyCode.getD "INR"
    totalMu := r.grossSalesMu.getD 0 + r.totalTaxMu.getD 0 + r.shippingMu.getD 0 -
      r.totalDiscountMu.getD 0
    customerRef := r.customerRef.getD ""
    deliveryPincode := r.deliveryPincode
    deliveryCity := r.deliveryCity
    isCod := r.isCod.getD false
    processedAt := processedAt
    cancelledAt := cancelledAt }

def orderListing : Listing OrderFact Timestamptz StoreOrderRow where
  dir := .desc
  id := (·.id)
  column := (·.processedAt)
  cursorSort := pg.timestampText
  cast := pg.timestampOf
  row := orderRow pg

def OrdersListOptions.has (opts : OrdersListOptions) (pattern : Option String) (r : OrderFact) :
    Bool :=
  pattern.all (fun p => pg.like p r.orderNumber || pg.like p (some r.vendorOrderId)) &&
    (opts.status.getD .all = .all ||
      r.financialStatus = some (opts.status.getD .all).text) &&
    match opts.cod.getD .all with
    | .all => true
    | .cod => r.isCod = some true
    | .prepaid => r.isCod = some false

def listOrders (opts : OrdersListOptions) : Except ListError (KeysetPage StoreOrderRow) := do
  let pageSize := clampSize opts.pageSize
  let cursor := decodeCursor engine opts.cursor
  let pattern ← searchBind (searchOf opts.search)
  let matching := (db.orders.filter (·.workspaceId = workspaceId)).filter (opts.has pg pattern)
  (orderListing pg).page pg matching cursor pageSize

end

/-! ### Products -/

structure StoreProductRow where
  id : String
  vendor : String
  vendorProductId : String
  title : String
  handle : String
  imageUrl : Option String
  status : String
  productType : Option String
  inventoryQty : Option Int
  costMu : Int
  mrpMu : Int
  syncedAt : String

inductive ProductStatusFilter where
  | all
  | active
  | draft
  | archived
deriving DecidableEq

def ProductStatusFilter.text : ProductStatusFilter → String
  | .all => "all"
  | .active => "ACTIVE"
  | .draft => "DRAFT"
  | .archived => "ARCHIVED"

structure ProductsListOptions where
  search : Option String
  status : Option ProductStatusFilter
  cursor : Option String
  pageSize : Option Int

section

variable (pg : Postgres) (engine : Engine) (db : StoreTables) (workspaceId : Uuid)

def productRow (r : ProductFact) : Js.Result StoreProductRow := do
  let syncedAt ← isoOf r.syncedAt
  .ok {
    id := pg.uuidText r.id
    vendor := r.vendor
    vendorProductId := r.vendorProductId
    title := (r.title.map Subtype.val).getD "(untitled)"
    handle := r.handle.getD ""
    imageUrl := r.imageUrl
    status := r.status.getD ""
    productType := r.productType
    inventoryQty := r.inventoryQty
    costMu := r.costMu.getD 0
    mrpMu := r.mrpMu.getD 0
    syncedAt := syncedAt }

def productListing : Listing ProductFact pg.Title StoreProductRow where
  dir := .asc
  id := (·.id)
  column := (·.title)
  cursorSort := Subtype.val
  cast := textOf
  row := productRow pg

def ProductsListOptions.has (opts : ProductsListOptions) (pattern : Option String)
    (r : ProductFact) : Bool :=
  pattern.all (fun p => pg.like p (r.title.map Subtype.val) || pg.like p r.handle ||
      pg.like p r.productType) &&
    (opts.status.getD .all = .all || r.status = some (opts.status.getD .all).text)

def listStoreProducts (opts : ProductsListOptions) :
    Except ListError (KeysetPage StoreProductRow) := do
  let pageSize := clampSize opts.pageSize
  let cursor := decodeCursor engine opts.cursor
  let pattern ← searchBind (searchOf opts.search)
  let matching := (db.products.filter (·.workspaceId = workspaceId)).filter (opts.has pg pattern)
  (productListing pg).page pg matching cursor pageSize

end

/-! ### Customers -/

structure StoreCustomerRow where
  id : String
  customerRef : String
  vendor : String
  vendorCustomerId : String
  ordersCount : Int
  lifetimeSpentMu : Int
  currencyCode : String
  firstSeenAt : Option String
  lastSeenAt : Option String
  consentStatus : String
  hasEmail : Bool
  hasName : Bool
  hasPhone : Bool

inductive ConsentFilter where
  | all
  | optedIn
  | optedOut
  | unknown
deriving DecidableEq

/-- `$n::customer_consent_status` -/
def ConsentFilter.status : ConsentFilter → Option ConsentStatus
  | .all => none
  | .optedIn => some .optedIn
  | .optedOut => some .optedOut
  | .unknown => some .unknown

structure CustomersListOptions where
  search : Option String
  minOrders : Option Int
  consent : Option ConsentFilter
  cursor : Option String
  pageSize : Option Int

/-- The bind of a least number of orders, compared with an `integer` column. -/
def minOrdersBind (minOrders : Int) : Except ListError (Option Int) :=
  if 0 < minOrders then bound (if minOrders < 2 ^ 31 then some (some minOrders) else none)
  else .ok none

section

variable (pg : Postgres) (engine : Engine) (db : StoreTables) (workspaceId : Uuid)

def customerRow (r : CustomerPii) : Js.Result StoreCustomerRow := do
  let firstSeenAt ← isoOrNull r.firstSeenAt
  let lastSeenAt ← isoOrNull r.lastSeenAt
  .ok {
    id := pg.uuidText r.id
    customerRef := r.customerRef
    vendor := r.sourceVendor
    vendorCustomerId := r.vendorCustomerId
    ordersCount := r.ordersCount
    lifetimeSpentMu := r.lifetimeSpentMu.getD 0
    currencyCode := r.currencyCode.getD "INR"
    firstSeenAt := firstSeenAt
    lastSeenAt := lastSeenAt
    consentStatus := r.consentStatus.text
    hasEmail := r.emailCt.isSome
    hasName := r.fullNameCt.isSome
    hasPhone := r.phoneCt.isSome }

def customerListing : Listing CustomerPii Timestamptz StoreCustomerRow where
  dir := .desc
  id := (·.id)
  column := (·.lastSeenAt)
  cursorSort := pg.timestampText
  cast := pg.timestampOf
  row := customerRow pg

def CustomersListOptions.has (opts : CustomersListOptions) (pattern : Option String)
    (minOrders : Option Int) (r : CustomerPii) : Bool :=
  r.tombstonedAt.isNone &&
    pattern.all (fun p => pg.like p (some r.vendorCustomerId) || pg.like p (some r.customerRef)) &&
    minOrders.all (fun n => n ≤ r.ordersCount) &&
    (opts.consent.getD .all).status.all fun status => r.consentStatus = status

def listStoreCustomers (opts : CustomersListOptions) :
    Except ListError (KeysetPage StoreCustomerRow) := do
  let pageSize := clampSize opts.pageSize
  let cursor := decodeCursor engine opts.cursor
  let pattern ← searchBind (searchOf opts.search)
  let minOrders ← minOrdersBind (opts.minOrders.getD 0)
  let matching := (db.customers.filter (·.workspaceId = workspaceId)).filter
    (opts.has pg pattern minOrders)
  (customerListing pg).page pg matching cursor pageSize

end

end BrainV2.Store
