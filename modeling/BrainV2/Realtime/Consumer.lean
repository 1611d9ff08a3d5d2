import BrainV2.Lib.Dict
import BrainV2.Lib.Versions
import BrainV2.Realtime.Envelope

/-!
# The consumer of order envelopes

* `Stores`: the facts in Postgres, and the rows in ClickHouse;
* `planOf`: what is to be written for a message, before anything is;
* `eachMessage`: one delivery, with what the two databases do in it.
-/

namespace BrainV2.Realtime

open Js (Engine JsError Result Value)
open Connectors (Hashes LineItemFact OrderFact PaymentMethod)

/-! ### The stores -/

/-- `(workspace_id, vendor, vendor_order_id)` -/
structure OrderKey where
  workspaceId : String
  vendor : String
  vendorOrderId : String
deriving DecidableEq, Repr

structure LineKey extends OrderKey where
  vendorLineId : String
deriving DecidableEq, Repr

/-- A row of `brain.connector_order_facts`. -/
structure ChOrderRow where
  workspaceId : String
  vendor : String
  vendorOrderId : String
  orderDate : String
  placedAt : String
  customerRef : String
  deliveryPincode : Json
  deliveryCity : Json
  grossSalesMu : Int
  discountMu : Int
  taxMu : Int
  shippingMu : Int
  netSalesMu : Int
  totalRefundMu : Int
  currencyCode : String
  paymentMethod : String
  isCod : Nat
  orderType : String
  financialStatus : Json
  fulfillmentStatus : Json
  cancelledAt : Option String
  tags : List String
  version : Nat
  ingestedAt : String

/-- A row of `brain.connector_line_item_facts`. -/
structure ChLineItemRow where
  workspaceId : String
  vendor : String
  vendorOrderId : String
  vendorLineId : String
  vendorProductId : String
  vendorVariantId : String
  sku : Json
  title : Json
  quantity : Binary64.Double
  priceMu : Int
  lineTotalMu : Int
  discountMu : Int
  taxMu : Int
  cogsMu : Int
  currencyCode : String
  orderDate : String
  version : Nat
  ingestedAt : String

def ChOrderRow.key (row : ChOrderRow) : OrderKey := ⟨row.workspaceId, row.vendor, row.vendorOrderId⟩

structure Stores where
  orders : List (OrderKey × OrderFact)
  lineItems : List (LineKey × WebhookLineItem)
  chOrders : List ChOrderRow
  chLineItems : List ChLineItemRow

namespace Stores

def orderOf (s : Stores) (key : OrderKey) : Option OrderFact := s.orders.lookup key

/-- What `FINAL` reads. -/
def chOrderOf (s : Stores) (key : OrderKey) : Option ChOrderRow :=
  Versions.newestOf ChOrderRow.key ChOrderRow.version key s.chOrders

end Stores

/-! ### Writing -/

def orderKey (workspaceId : String) (o : OrderFact) : OrderKey :=
  ⟨workspaceId, o.vendor, o.vendorOrderId⟩

def pgUpsertOrder (s : Stores) (workspaceId : String) (o : OrderFact) : Stores :=
  { s with orders := Dict.set s.orders (orderKey workspaceId o) o }

def pgUpsertLineItem (s : Stores) (workspaceId : String) (li : WebhookLineItem) : Stores :=
  { s with lineItems :=
      Dict.set s.lineItems ⟨⟨workspaceId, li.vendor, li.vendorOrderId⟩, li.vendorLineId⟩ li }

/-- `toISOString().replace('T', ' ').slice(0, 23)` -/
def chDT64 (d : Option Int) : Result String := do
  let text ← Js.toISOString d
  .ok (String.ofList ((text.toList.takeWhile (· ≠ 'T') ++
    ' ' :: (text.toList.dropWhile (· ≠ 'T')).drop 1).take 23))

def chDT (d : Option Int) : Result String := do
  let text ← chDT64 d
  .ok (String.ofList (text.toList.take 19))

def orderDateOf (d : Option Int) : Result String := do
  let text ← Js.toISOString d
  .ok (String.ofList (text.toList.takeWhile (· ≠ 'T')))

/-- `x ?? ''` -/
def orEmpty : Json → Json
  | .null => .str ""
  | j => j

def cancelledAtOf (engine : Engine) (cancelledAt : Json) : Result (Option String) :=
  if Js.truthy cancelledAt then do
    let d ← Js.dateOf engine cancelledAt
    let text ← chDT d
    .ok (some text)
  else .ok none

def chOrderRow (engine : Engine) (workspaceId : String) (o : OrderFact) (version : Nat)
    (processedAt : Option Int) (now : Int) : Result ChOrderRow := do
  let netSalesMu := o.grossSalesMu - o.totalDiscountMu
  let orderDate ← orderDateOf processedAt
  let placedAt ← chDT64 processedAt
  let cancelledAt ← cancelledAtOf engine o.cancelledAt
  let ingestedAt ← chDT (some now)
  .ok {
    workspaceId := workspaceId
    vendor := o.vendor
    vendorOrderId := o.vendorOrderId
    orderDate := orderDate
    placedAt := placedAt
    customerRef := o.customerRef.getD ""
    deliveryPincode := orEmpty o.deliveryPincode
    deliveryCity := orEmpty o.deliveryCity
    grossSalesMu := o.grossSalesMu
    discountMu := o.totalDiscountMu
    taxMu := o.totalTaxMu
    shippingMu := o.shippingMu
    netSalesMu := netSalesMu
    totalRefundMu := 0
    currencyCode := o.currencyCode
    paymentMethod := (o.paymentMethod.map PaymentMethod.text).getD ""
    isCod := if o.paymentMethod = some .cod then 1 else 0
    orderType := ""
    financialStatus := orEmpty o.financialStatus
    fulfillmentStatus := orEmpty o.fulfillmentStatus
    cancelledAt := cancelledAt
    tags := []
    version := version
    ingestedAt := ingestedAt }

def chLineItemRow (workspaceId : String) (li : WebhookLineItem) (version : Nat)
    (orderDate : String) (now : Int) : Result ChLineItemRow := do
  let ingestedAt ← chDT (some now)
  .ok {
    workspaceId := workspaceId
    vendor := li.vendor
    vendorOrderId := li.vendorOrderId
    vendorLineId := li.vendorLineId
    vendorProductId := li.vendorProductId
    vendorVariantId := li.vendorVariantId
    sku := orEmpty li.sku
    title := orEmpty li.title
    quantity := Binary64.ofInt li.quantity
    priceMu := li.unitPriceMu
    lineTotalMu := li.unitPriceMu * li.quantity
    discountMu := 0
    taxMu := 0
    cogsMu := 0
    currencyCode := "INR"
    orderDate := orderDate
    version := version
    ingestedAt := ingestedAt }

/-! ### Deliveries -/

/-- A message, the clock, and which of the writes go through. -/
structure Delivery where
  value : Option (List UInt8)
  timestamp : String
  now : Int
  pgCommits : Bool
  chTakesOrder : Bool
  chTakesLineItems : Bool

structure Plan where
  workspaceId : Json
  facts : MappedFacts
  version : Int
  processedAt : Option Int
  orderDate : String

/-- `message.value?.toString()` -/
def rawOf (engine : Engine) (d : Delivery) : String :=
  match d.value with
  | none => ""
  | some bytes => (Py.utf8Decode bytes).getD (engine.replaced bytes)

def isOrderEvent : Value → Bool
  | some (.str eventType) => eventType = "order"
  | _ => false

/-- `BigInt(message.timestamp)`, or the clock. -/
def versionOf (d : Delivery) : Result Int :=
  if d.timestamp ≠ "" then Js.ofBigInt (Js.bigInt d.timestamp.toList) .syntaxError
  else .ok d.now

def processedAtOf (engine : Engine) (o : OrderFact) (now : Int) : Result (Option Int) :=
  if Js.truthy o.processedAt then Js.dateOf engine o.processedAt else .ok (some now)

/-- `none` when fields are missing, or the event is not about an order. -/
def planOf (engine : Engine) (hashes : Hashes) (d : Delivery) : Result (Option Plan) := do
  let envelope ← Js.parse (rawOf engine d)
  let workspaceId ← Js.prop envelope "workspace_id"
  let payload ← Js.prop envelope "payload"
  let eventType ← Js.prop envelope "event_type"
  if !Js.isTruthy workspaceId || !Js.isTruthy payload || !isOrderEvent eventType then .ok none
  else
    let facts ← mapEnvelopeToFacts engine hashes envelope
    let version ← versionOf d
    let processedAt ← processedAtOf engine facts.order d.now
    let orderDate ← orderDateOf processedAt
    .ok (some ⟨Js.orNull workspaceId, facts, version, processedAt, orderDate⟩)

/-- The transaction of an order and its line items. -/
def pgWrite (s : Stores) (workspaceId : String) (facts : MappedFacts) : Stores :=
  facts.lineItems.foldl (pgUpsertLineItem · workspaceId) (pgUpsertOrder s workspaceId facts.order)

/-- The row of an order, when it is inserted; the version is a `UInt64`. -/
def insertedOrder (engine : Engine) (d : Delivery) (workspaceId : String) (plan : Plan) :
    Option ChOrderRow :=
  if d.chTakesOrder ∧ 0 ≤ plan.version ∧ plan.version < 2 ^ 64 then
    match chOrderRow engine workspaceId plan.facts.order plan.version.toNat plan.processedAt d.now
      with
    | .ok row => some row
    | .error _ => none
  else none

def insertedLineItems (d : Delivery) (workspaceId : String) (plan : Plan) : List ChLineItemRow :=
  if d.chTakesLineItems then
    match plan.facts.lineItems.mapM fun li =>
        chLineItemRow workspaceId li plan.version.toNat plan.orderDate d.now with
    | .ok rows => rows
    | .error _ => []
  else []

/-- The line items come behind the order; an error leaves out what is still to come. -/
def chWrite (engine : Engine) (s : Stores) (d : Delivery) (workspaceId : String) (plan : Plan) :
    Stores :=
  match insertedOrder engine d workspaceId plan with
  | none => s
  | some row => { s with
      chOrders := s.chOrders ++ [row]
      chLineItems := s.chLineItems ++ insertedLineItems d workspaceId plan }

inductive Failure where
  | js (e : JsError)
  | postgres

/-- What is in the `try`; ClickHouse comes when Postgres has committed. -/
def attempt (engine : Engine) (hashes : Hashes) (s : Stores) (d : Delivery) :
    Except Failure Stores :=
  match planOf engine hashes d with
  | .error e => .error (.js e)
  | .ok none => .ok s
  | .ok (some plan) =>
    match plan.workspaceId with
    | .str workspaceId =>
      if d.pgCommits then .ok (chWrite engine (pgWrite s workspaceId plan.facts) d workspaceId plan)
      else .error .postgres
    -- The column is a uuid.
    | _ => .error .postgres

/-- The `catch` logs the error, and the offset is committed. -/
def eachMessage (engine : Engine) (hashes : Hashes) (s : Stores) (d : Delivery) :
    Stores × Except Failure Unit :=
  if rawOf engine d = "" then (s, .ok ())
  else
    match attempt engine hashes s d with
    | .ok s' => (s', .ok ())
    | .error _ => (s, .ok ())

end BrainV2.Realtime
