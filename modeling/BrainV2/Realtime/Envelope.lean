import BrainV2.Connectors.Acl

/-!
# From an envelope to facts

* `mapEnvelopeToFacts`: the facts of an order, or the error that is thrown;
* `rawOrderFields`: what is read of the order behind `raw_payload`.
-/

namespace BrainV2.Realtime

open Js (Engine JsError Result Value)
open Connectors (Hashes LineItemFact OrderFact PaymentMethod classifyPaymentMethod customerRef
  decimalStringToMinorUnits resolveGstSlabBp)

structure WebhookLineItem extends LineItemFact where
  vendorProductId : String
  vendorVariantId : String

structure MappedFacts where
  order : OrderFact
  lineItems : List WebhookLineItem

inductive GidKind where
  | product
  | productVariant

def GidKind.text : GidKind → String
  | .product => "Product"
  | .productVariant => "ProductVariant"

def toGid (kind : GidKind) (id : Value) : Result String :=
  match id with
  | none | some .null | some (.str "") => .ok ""
  | some id => do
    let text ← Js.toText id
    .ok ("gid://shopify/" ++ kind.text ++ "/" ++ text)

/-- `String(x)`, or null for what is nullish. -/
def textOrNull (x : Value) : Result (Option String) :=
  match x with
  | none | some .null => .ok none
  | some j => do
    let text ← Js.toText j
    .ok (some text)

def optionJson : Option String → Json
  | none => .null
  | some text => .str text

/-! ### The order behind `raw_payload` -/

structure RawOrderFields where
  customerRef : Option String
  paymentMethod : Option PaymentMethod
  deliveryPincode : Json
  deliveryCity : Json

/-- `payment_gateway_names ?? (payment_gateway ? [payment_gateway] : null)` -/
def gatewayNames (rawOrder : Json) : Result Value := do
  let names ← Js.prop rawOrder "payment_gateway_names"
  if !Js.isNullish names then .ok names
  else
    let gateway ← Js.prop rawOrder "payment_gateway"
    match gateway with
    | some name => .ok (if Js.truthy name then some (.arr [name]) else none)
    | none => .ok none

def rawOrderFields (engine : Engine) (hashes : Hashes) (rawOrder : Json) :
    Result RawOrderFields := do
  let customer ← Js.prop rawOrder "customer"
  let customerId ← Js.optional customer "id"
  let customerId ← textOrNull customerId
  let names ← gatewayNames rawOrder
  let paymentMethod ← classifyPaymentMethod engine names
  let address ← Js.prop rawOrder "shipping_address"
  let zip ← Js.optional address "zip"
  let city ← Js.optional address "city"
  .ok ⟨customerRef hashes none customerId none, paymentMethod, Js.orNull zip, Js.orNull city⟩

def lineItemFact (engine : Engine) (vendorOrderId currency : String) (li : Json) (idx : Nat) :
    Result WebhookLineItem := do
  let id ← Js.prop li "id"
  let vendorLineId ← textOrNull id
  let productId ← Js.prop li "product_id"
  let vendorProductId ← toGid .product productId
  let variantId ← Js.prop li "variant_id"
  let vendorVariantId ← toGid .productVariant variantId
  let sku ← Js.prop li "sku"
  let title ← Js.prop li "title"
  let quantity ← Js.prop li "quantity"
  let quantity ← Js.bigIntOf (Js.orElse quantity (.int 0))
  let price ← Js.prop li "price"
  let unitPriceMu ← decimalStringToMinorUnits engine (Js.orElse price (.str "0")) currency
  .ok {
    vendor := "SHOPIFY"
    vendorOrderId := vendorOrderId
    vendorLineId := vendorLineId.getD (vendorOrderId ++ ":" ++ toString idx)
    sku := Js.orNull sku
    title := Js.orNull title
    quantity := quantity
    unitPriceMu := unitPriceMu
    gstSlabBp := resolveGstSlabBp none
    vendorProductId := vendorProductId
    vendorVariantId := vendorVariantId }

/-- `.map((li, idx) => ...)`, from an index on. -/
def lineItemFacts (engine : Engine) (vendorOrderId currency : String) (idx : Nat) :
    List Json → Result (List WebhookLineItem)
  | [] => .ok []
  | li :: rest => do
    let fact ← lineItemFact engine vendorOrderId currency li idx
    let facts ← lineItemFacts engine vendorOrderId currency (idx + 1) rest
    .ok (fact :: facts)

/-- `(rawOrder.line_items ?? []).map(...)`; only a list has `map`. -/
def rawLineItems (engine : Engine) (vendorOrderId currency : String) (rawOrder : Json) :
    Result (List WebhookLineItem) := do
  let lineItems ← Js.prop rawOrder "line_items"
  match Js.orElse lineItems (.arr []) with
  | .arr items => lineItemFacts engine vendorOrderId currency 0 items
  | _ => .error .typeError

/-! ### The envelope -/

/-- A currency that is no text has no `toUpperCase`. -/
def currencyOf (engine : Engine) (payload : Json) : Result String := do
  let currency ← Js.prop payload "currency"
  match Js.orElse currency (.str "INR") with
  | .str text => .ok (engine.toUpperCase text)
  | _ => .error .typeError

def vendorOrderIdOf (payload : Json) : Result String := do
  let id ← Js.prop payload "shopify_order_id"
  let vendorOrderId ← Js.toText (Js.orElse id (.str ""))
  if vendorOrderId = "" then .error (.error "mapEnvelopeToFacts: shopify_order_id is empty")
  else .ok vendorOrderId

/-- An amount of the payload, in minor units. -/
def amountOf (engine : Engine) (currency : String) (payload : Json) (name : String) :
    Result Int := do
  let amount ← Js.prop payload name
  decimalStringToMinorUnits engine (Js.orElse amount (.str "0")) currency

def isZeroText : Json → Bool
  | .str text => text = "0" || text = "0.00"
  | _ => false

/-- The subtotal; the total without the tax when there is none. -/
def grossSalesMuOf (engine : Engine) (currency : String) (payload : Json) (totalTaxMu : Int) :
    Result Int := do
  let subtotal ← Js.prop payload "subtotal_price"
  match subtotal with
  | some price =>
    if Js.truthy price && !isZeroText price then decimalStringToMinorUnits engine price currency
    else do
      let total ← amountOf engine currency payload "total_price"
      .ok (total - totalTaxMu)
  | none => do
    let total ← amountOf engine currency payload "total_price"
    .ok (total - totalTaxMu)

/-- What is no object is taken for an empty one. -/
def rawOrderOf (payload : Json) : Result Json := do
  let rawPayload ← Js.prop payload "raw_payload"
  match rawPayload with
  | some raw =>
    if Js.truthy raw then do
      let text ← Js.toText raw
      let parsed ← Js.parse text
      match parsed with
      | .obj members => .ok (.obj members)
      | .arr items => .ok (.arr items)
      | _ => .ok (.obj [])
    else .ok (.obj [])
  | none => .ok (.obj [])

def payloadOf (envelope : Json) : Result Json := do
  let payload ← Js.prop envelope "payload"
  let text ← Js.toText (payload.getD (.str "undefined"))
  Js.parse text

theorem payloadOf_dumps {envelope : List (String × Json)} {j : Json} (hj : j.WF Js.dialect)
    (h : envelope.lookup "payload" = some (.str (Json.dumps j))) :
    payloadOf (.obj envelope) = .ok j := by
  refine Js.bind_ok.mpr ⟨_, rfl, Js.bind_ok.mpr ⟨Json.dumps j, ?_, Js.parse_dumps hj⟩⟩
  rw [h]
  rfl

def mapEnvelopeToFacts (engine : Engine) (hashes : Hashes) (envelope : Json) :
    Result MappedFacts := do
  let payload ← payloadOf envelope
  let currency ← currencyOf engine payload
  let vendorOrderId ← vendorOrderIdOf payload
  let totalDiscountMu ← amountOf engine currency payload "total_discounts"
  let totalTaxMu ← amountOf engine currency payload "total_tax"
  let grossSalesMu ← grossSalesMuOf engine currency payload totalTaxMu
  let rawOrder ← rawOrderOf payload
  let raw ← rawOrderFields engine hashes rawOrder
  let orderNumber ← Js.prop payload "order_number"
  let orderNumber ← textOrNull orderNumber
  let financialStatus ← Js.prop payload "financial_status"
  let fulfillmentStatus ← Js.prop payload "fulfillment_status"
  let createdAt ← Js.prop payload "created_at"
  let cancelledAt ← Js.prop payload "cancelled_at"
  let lineItems ← rawLineItems engine vendorOrderId currency rawOrder
  .ok {
    order := {
      vendor := "SHOPIFY"
      vendorOrderId := vendorOrderId
      orderNumber := optionJson orderNumber
      financialStatus := Js.orNull financialStatus
      fulfillmentStatus := Js.orNull fulfillmentStatus
      paymentMethod := raw.paymentMethod
      currencyCode := currency
      grossSalesMu := grossSalesMu
      totalDiscountMu := totalDiscountMu
      totalTaxMu := totalTaxMu
      shippingMu := 0
      customerRef := raw.customerRef
      deliveryPincode := raw.deliveryPincode
      deliveryCity := raw.deliveryCity
      processedAt := Js.orNull createdAt
      cancelledAt := Js.orNull cancelledAt }
    lineItems := lineItems }

/-- What the facts have of the payload and of the order in it. -/
structure MappedFacts.From (facts : MappedFacts) (engine : Engine) (hashes : Hashes)
    (payload order : Json) (fields : RawOrderFields) : Prop where
  vendor : facts.order.vendor = "SHOPIFY"
  vendorOrderId : vendorOrderIdOf payload = .ok facts.order.vendorOrderId
  rawOrder : rawOrderOf payload = .ok order
  rawOrderFields : rawOrderFields engine hashes order = .ok fields
  customerRef : facts.order.customerRef = fields.customerRef
  paymentMethod : facts.order.paymentMethod = fields.paymentMethod
  deliveryPincode : facts.order.deliveryPincode = fields.deliveryPincode
  deliveryCity : facts.order.deliveryCity = fields.deliveryCity
  lineItems : ∃ currency,
    rawLineItems engine facts.order.vendorOrderId currency order = .ok facts.lineItems

theorem mapEnvelopeToFacts_from {engine : Engine} {hashes : Hashes} {envelope : Json}
    {facts : MappedFacts} (h : mapEnvelopeToFacts engine hashes envelope = .ok facts) :
    ∃ payload rawOrder raw, payloadOf envelope = .ok payload ∧
      facts.From engine hashes payload rawOrder raw := by
  obtain ⟨payload, hpayload, h⟩ := Js.bind_ok.mp h
  obtain ⟨currency, -, h⟩ := Js.bind_ok.mp h
  obtain ⟨vendorOrderId, hvendor, h⟩ := Js.bind_ok.mp h
  obtain ⟨totalDiscountMu, -, h⟩ := Js.bind_ok.mp h
  obtain ⟨totalTaxMu, -, h⟩ := Js.bind_ok.mp h
  obtain ⟨grossSalesMu, -, h⟩ := Js.bind_ok.mp h
  obtain ⟨rawOrder, horder, h⟩ := Js.bind_ok.mp h
  obtain ⟨raw, hraw, h⟩ := Js.bind_ok.mp h
  obtain ⟨orderNumber, -, h⟩ := Js.bind_ok.mp h
  obtain ⟨orderNumber, -, h⟩ := Js.bind_ok.mp h
  obtain ⟨financialStatus, -, h⟩ := Js.bind_ok.mp h
  obtain ⟨fulfillmentStatus, -, h⟩ := Js.bind_ok.mp h
  obtain ⟨createdAt, -, h⟩ := Js.bind_ok.mp h
  obtain ⟨cancelledAt, -, h⟩ := Js.bind_ok.mp h
  obtain ⟨lineItems, hlines, h⟩ := Js.bind_ok.mp h
  cases h
  exact ⟨payload, rawOrder, raw, hpayload, rfl, hvendor, horder, hraw, rfl, rfl, rfl, rfl,
    currency, hlines⟩

end BrainV2.Realtime
