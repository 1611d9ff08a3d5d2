import BrainV2.Connectors.Sync
import BrainV2.Identity.SaltVault
import BrainV2.Realtime.Envelope

/-!
# The order facts of a workspace over time

The rows that the syncs and the webhooks write and the nightly purge clears.

* `OrderRow`, `isOrderPiiPurgeable`, `purge`: the table, and `purge_closed_order_pii`;
* `HashInput`, `Write`: an order on its way into the table, with what its key is a hash of;
* `put`, `Tracked`: `INSERT … ON CONFLICT DO UPDATE`, and what has happened to a row;
* `Event`, `step`: syncs, webhooks, purges, and changes of the flag and of the salt.
-/

namespace BrainV2.Retention

open Js (Engine Result)
open Connectors (Hashes OrderFact PgInput ShopifyOrderNode ShopifyPull SyncFailure World
  columnText customerRef shortHex shopifyFacts upsert)
open Identity (SaltTable)
open Sql (Timestamp midnight juneDay)

/-! ### Rows -/

/-- A row of `connector_order_facts_hot`. -/
structure OrderRow extends Analytics.OrderFact where
  fulfillmentStatus : Option String
  deliveryPincode : Option String
  deliveryCity : Option String
  billingPincode : Option String
  isNewCustomer : Option Bool
  syncedAt : Timestamp
deriving DecidableEq

/-- `upper()`, of ASCII letters -/
def upper (text : String) : String := String.ofList (text.toList.map Char.toUpper)

def isOrderPiiPurgeable (financialStatus fulfillmentStatus : Option String)
    (cancelledAt : Option Timestamp) : Bool :=
  let financial := upper (financialStatus.getD "")
  let fulfillment := upper (fulfillmentStatus.getD "")
  financial ∉ ["PENDING", "PARTIALLY_PAID", "VOIDED", ""] &&
    fulfillment ∉ ["UNFULFILLED", "ON_HOLD", "PARTIAL", ""] &&
    (cancelledAt.isSome ||
      (financial ∈ ["REFUNDED", "PARTIALLY_REFUNDED"] && fulfillment = "FULFILLED"))

namespace OrderRow

def purgeable (row : OrderRow) : Bool :=
  isOrderPiiPurgeable row.financialStatus row.fulfillmentStatus row.cancelledAt

/-- The columns that the purge is there for. -/
def NoPii (row : OrderRow) : Prop :=
  row.customerRef = none ∧ row.deliveryPincode = none ∧ row.deliveryCity = none ∧
    row.billingPincode = none

instance (row : OrderRow) : Decidable row.NoPii := inferInstanceAs (Decidable (_ ∧ _))

def withoutPii (row : OrderRow) : OrderRow :=
  { row with
    customerRef := none
    deliveryPincode := none
    deliveryCity := none
    billingPincode := none
    isNewCustomer := none }

/-- The `WHERE` of the purge; the session is in UTC, where a day has 24 hours. -/
def purges (now : Timestamp) (retentionDays : Int) (row : OrderRow) : Bool :=
  row.syncedAt.instant < now.instant - 86400000000 * retentionDays && row.purgeable &&
    (row.customerRef.isSome || row.deliveryPincode.isSome || row.deliveryCity.isSome ||
      row.billingPincode.isSome || row.isNewCustomer.isSome)

end OrderRow

/-- `purge_closed_order_pii`, on the rows of the workspace. -/
def purgeClosedOrderPii (now : Timestamp) (retentionDays : Int) (rows : List OrderRow) :
    List OrderRow × Nat :=
  (rows.map fun row => if row.purges now retentionDays then row.withoutPii else row,
    rows.countP (·.purges now retentionDays))

/-! ### Writes -/

/-- The row that an order is inserted as. -/
def orderRow (input : PgInput) (now : Timestamp) (o : OrderFact) : Option OrderRow := do
  let columns ← Connectors.orderRow input o
  some {
    toOrderFact := columns
    fulfillmentStatus := columnText o.fulfillmentStatus
    deliveryPincode := columnText o.deliveryPincode
    deliveryCity := columnText o.deliveryCity
    billingPincode := none
    isNewCustomer := none
    syncedAt := now }

/-- What is hashed for a key: an id, with a salt or without. -/
structure HashInput where
  salt : Option (List UInt8)
  id : String
deriving DecidableEq

def HashInput.digest (hashes : Hashes) (i : HashInput) : String :=
  match i.salt with
  | some salt => shortHex (hashes.hmac salt (Py.utf8 i.id))
  | none => shortHex (hashes.sha256 (Py.utf8 i.id))

/-- What `customerRef` hashes. -/
def hashInput (identityStitcher : Option String) (vendorCustomerId : Option String)
    (workspaceSalt : Option (List UInt8)) : Option HashInput :=
  match vendorCustomerId with
  | none | some "" => none
  | some id => some ⟨if identityStitcher = some "true" then workspaceSalt else none, id⟩

theorem customerRef_eq (hashes : Hashes) (identityStitcher vendorCustomerId : Option String)
    (workspaceSalt : Option (List UInt8)) :
    customerRef hashes identityStitcher vendorCustomerId workspaceSalt =
      (hashInput identityStitcher vendorCustomerId workspaceSalt).map (·.digest hashes) := by
  unfold customerRef hashInput
  split
  · rfl
  · rfl
  · cases workspaceSalt with
    | none => simp [HashInput.digest]
    | some salt =>
      by_cases hFlag : identityStitcher = some "true" <;> simp [hFlag, HashInput.digest]

/-- An order on its way into the table; its customer is named by the GID of the vendor. -/
structure Write where
  row : OrderRow
  customer : Option String
  hashed : Option HashInput
deriving DecidableEq

def customerGid (id : String) : String := "gid://shopify/Customer/" ++ id

def nonempty : Option String → Option String
  | some "" => none
  | id => id

/-- The orders of a pull, as they are written. -/
def syncWrites (world : World) (identityStitcher : Option String)
    (salt : Except SyncFailure (List UInt8)) (pull : ShopifyPull) (now : Timestamp) :
    Option (List Write) :=
  match shopifyFacts world.engine world.hashes identityStitcher salt pull with
  | .error _ => none
  | .ok pulled => (pull.orders.zip pulled.orders).mapM fun p => do
    let row ← orderRow world.input now p.2
    let id := p.1.customer.bind (·.id)
    some ⟨row, nonempty id, hashInput identityStitcher id salt.toOption⟩

/-- The text of the customer's id in an envelope. -/
def customerIdOf (envelope : Json) : Result (Option String) := do
  let payload ← Realtime.payloadOf envelope
  let rawOrder ← Realtime.rawOrderOf payload
  let customer ← Js.prop rawOrder "customer"
  let customerId ← Js.optional customer "id"
  Realtime.textOrNull customerId

/-- The order of an envelope, as it is written. -/
def webhookWrites (world : World) (envelope : Json) (now : Timestamp) : Option (List Write) :=
  match Realtime.mapEnvelopeToFacts world.engine world.hashes envelope with
  | .error _ => none
  | .ok facts => do
    let row ← orderRow world.input now facts.order
    let id := (customerIdOf envelope).toOption.join
    some [⟨row, (nonempty id).map customerGid, hashInput none id none⟩]

/-! ### The table -/

/-- A row, and what has happened to it: whose order it is and what its key was hashed from,
whether the purge has cleared it since it was written, since when it has been closed without a
break, and whether it was cleared in that time. -/
structure Tracked where
  row : OrderRow
  customer : Option String
  hashed : Option HashInput
  erased : Bool
  closedSince : Option Timestamp
  purged : Bool
deriving DecidableEq

def Write.inserted (w : Write) : Tracked where
  row := w.row
  customer := w.customer
  hashed := w.hashed
  erased := false
  closedSince := if w.row.purgeable then some w.row.syncedAt else none
  purged := false

/-- The columns that are not set keep their values. -/
def Write.updated (w : Write) (t : Tracked) : Tracked where
  row := { w.row with billingPincode := t.row.billingPincode, isNewCustomer := t.row.isNewCustomer }
  customer := w.customer
  hashed := w.hashed
  erased := false
  closedSince := if w.row.purgeable then some (t.closedSince.getD w.row.syncedAt) else none
  purged := t.purged && w.row.purgeable

def Write.Conflicts (w : Write) (t : Tracked) : Prop :=
  t.row.vendor = w.row.vendor ∧ t.row.vendorOrderId = w.row.vendorOrderId

instance (w : Write) (t : Tracked) : Decidable (w.Conflicts t) := inferInstanceAs (Decidable (_ ∧ _))

def put (orders : List Tracked) (w : Write) : List Tracked :=
  upsert (fun t => w.Conflicts t) w.inserted w.updated orders

def Tracked.purge (now : Timestamp) (retentionDays : Int) (t : Tracked) : Tracked :=
  if t.row.purges now retentionDays then
    { t with row := t.row.withoutPii, erased := true, purged := true }
  else t

/-! ### Runs -/

structure Store where
  identityStitcher : Option String
  salts : SaltTable (List UInt8)
  orders : List Tracked

inductive Event where
  /-- `random` is what `randomBytes` gives. -/
  | sync (pull : ShopifyPull) (random : List UInt8) (now : Timestamp) (commits : Bool)
  | webhook (envelope : Json) (now : Timestamp) (commits : Bool)
  | purge (now : Timestamp) (retentionDays : Int)
  | setIdentityStitcher (value : Option String)
  | rotateWorkspaceSalt (random : List UInt8)

/-- `getOrCreateWorkspaceSalt` -/
def getOrCreateWorkspaceSalt (salts : SaltTable (List UInt8)) (random : List UInt8) :
    SaltTable (List UInt8) × Except SyncFailure (List UInt8) :=
  match salts.readActive with
  | some r => (salts, .ok r.salt)
  | none =>
    match salts.upsert "v1" random with
    | some salts' => (salts', .ok random)
    | none => (salts, .error .other)

def rotateWorkspaceSalt (salts : SaltTable (List UInt8)) (random : List UInt8) :
    SaltTable (List UInt8) :=
  (salts.deactivate.upsert (Identity.nextVersion salts.activeRows) random).getD salts.deactivate

/-- The salt of a sync, which only asks for one when the flag is on. -/
def saltOf (s : Store) (random : List UInt8) :
    SaltTable (List UInt8) × Except SyncFailure (List UInt8) :=
  if s.identityStitcher = some "true" then getOrCreateWorkspaceSalt s.salts random
  else (s.salts, .error .other)

/-- What an event writes: nothing where something fails. -/
def writesOf (world : World) (s : Store) : Event → List Write
  | .sync pull random now commits =>
    if commits then
      (syncWrites world s.identityStitcher (saltOf s random).2 pull now).getD []
    else []
  | .webhook envelope now commits =>
    if commits then (webhookWrites world envelope now).getD [] else []
  | _ => []

def step (world : World) (s : Store) (e : Event) : Store :=
  match e with
  | .sync _ random _ _ =>
    { s with salts := (saltOf s random).1, orders := (writesOf world s e).foldl put s.orders }
  | .webhook _ _ _ => { s with orders := (writesOf world s e).foldl put s.orders }
  | .purge now retentionDays => { s with orders := s.orders.map (·.purge now retentionDays) }
  | .setIdentityStitcher value => { s with identityStitcher := value }
  | .rotateWorkspaceSalt random => { s with salts := rotateWorkspaceSalt s.salts random }

theorem orders_step_webhook (world : World) (s : Store) (envelope : Json) (now : Timestamp)
    (commits : Bool) : (step world s (.webhook envelope now commits)).orders =
      (writesOf world s (.webhook envelope now commits)).foldl put s.orders := rfl

def Store.empty (identityStitcher : Option String) (salts : SaltTable (List UInt8)) : Store :=
  ⟨identityStitcher, salts, []⟩

/-- The purge of the tracked rows is the purge of the table. -/
theorem map_row_purge (now : Timestamp) (retentionDays : Int) (orders : List Tracked) :
    (orders.map (·.purge now retentionDays)).map (·.row) =
      (purgeClosedOrderPii now retentionDays (orders.map (·.row))).1 := by
  simp only [purgeClosedOrderPii, List.map_map]
  apply List.map_congr_left
  intro t _
  simp only [Function.comp_apply, Tracked.purge]
  split <;> rfl

/-! ### A refunded order -/

/-- The first of a month of 2026. -/
def firstOf (month : Nat)
    (h : decide (1 ≤ month ∧ month ≤ 12) = true := by exact Eq.refl true) : Timestamp :=
  midnight (Sql.firstOfMonth 2026 month Py.bounds_2026 (of_decide_eq_true h))

/-- SHA-256 where it is asked. -/
def digestOf (message : List UInt8) : List UInt8 :=
  if message = Py.utf8 "5" then
    [239, 45, 18, 125, 227, 123, 148, 43, 170, 208, 97, 69, 229, 75, 12, 97, 154, 31, 34, 50, 123,
      46, 187, 207, 190, 199, 143, 85, 100, 175, 227, 157]
  else if message = Py.utf8 "gid://shopify/Customer/5" then
    [42, 22, 160, 184, 98, 71, 229, 65, 189, 69, 209, 164, 4, 198, 167, 24, 61, 67, 74, 144, 23,
      96, 17, 81, 42, 182, 109, 99, 100, 169, 242, 226]
  else []

def exampleWorld : World where
  engine := ⟨id, id, fun _ => none, fun _ => ""⟩
  hashes := ⟨digestOf, fun _ _ => []⟩
  input := ⟨fun text => if text = "2026-06-01T00:00:00Z" then some (midnight (juneDay 1)) else none,
    fun _ => none⟩

def refundedNode : ShopifyOrderNode where
  id := some "gid://shopify/Order/1"
  name := some "#1"
  totalPriceSet := none
  subtotalPriceSet := some ⟨some ⟨some "20.00", some "INR"⟩⟩
  totalTaxSet := none
  totalDiscountsSet := none
  totalShippingPriceSet := none
  currencyCode := some "INR"
  displayFinancialStatus := some "REFUNDED"
  displayFulfillmentStatus := some "FULFILLED"
  processedAt := some "2026-06-01T00:00:00Z"
  cancelledAt := none
  paymentGatewayNames := none
  customer := some ⟨some "gid://shopify/Customer/5"⟩
  shippingAddress := some ⟨some "560001", some "Bengaluru"⟩
  lineItems := none

def refundedWrite (now : Timestamp) : Write where
  row := {
    vendor := "SHOPIFY"
    vendorOrderId := "gid://shopify/Order/1"
    customerRef := some "2a16a0b86247e541bd45d1a404c6a718"
    grossSalesMu := 2000
    totalDiscountMu := 0
    totalTaxMu := 0
    shippingMu := 0
    currencyCode := "INR"
    financialStatus := some "REFUNDED"
    cancelledAt := none
    processedAt := some (midnight (juneDay 1))
    fulfillmentStatus := some "FULFILLED"
    deliveryPincode := some "560001"
    deliveryCity := some "Bengaluru"
    billingPincode := none
    isNewCustomer := none
    syncedAt := now }
  customer := some "gid://shopify/Customer/5"
  hashed := some ⟨none, "gid://shopify/Customer/5"⟩

def syncRefunded (now : Timestamp) : Event := .sync ⟨[refundedNode], []⟩ [] now true

set_option maxRecDepth 4000 in
theorem writesOf_syncRefunded {s : Store} (h : s.identityStitcher = none) (now : Timestamp) :
    writesOf exampleWorld s (syncRefunded now) = [refundedWrite now] := by
  have hSalt : (saltOf s []).2 = .error .other := by simp [saltOf, h]
  change (syncWrites exampleWorld s.identityStitcher (saltOf s []).2 _ now).getD [] = _
  rw [hSalt, h]
  rfl

theorem orders_syncRefunded {s : Store} (h : s.identityStitcher = none) (now : Timestamp) :
    (step exampleWorld s (syncRefunded now)).orders = put s.orders (refundedWrite now) := by
  change (writesOf exampleWorld s (syncRefunded now)).foldl put s.orders = _
  rw [writesOf_syncRefunded h]
  rfl

end BrainV2.Retention
