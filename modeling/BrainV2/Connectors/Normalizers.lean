import BrainV2.Connectors.Acl

/-!
# From what a vendor returned to the facts

* `ShopifyOrderNode`, `ShopifyProductNode`: the nodes, where `none` is what the vendor left out;
* `normalizeShopifyOrder`, `normalizeShopifyProduct`;
* `ShopifyLineNode.productId`: the product that a line names, which no fact has.
-/

namespace BrainV2.Connectors

open Js (Engine Result)

/-! ### Nodes -/

structure ShopMoney where
  amount : Option String
  currencyCode : Option String

structure ShopifyMoney where
  shopMoney : Option ShopMoney

structure ShopifyProductRef where
  id : Option String

structure ShopifyVariant where
  product : Option ShopifyProductRef

structure ShopifyLineNode where
  id : Option String
  title : Option String
  quantity : Option Binary64.Double
  sku : Option String
  originalUnitPriceSet : Option ShopifyMoney
  variant : Option ShopifyVariant

/-- `{}` -/
def ShopifyLineNode.empty : ShopifyLineNode := ⟨none, none, none, none, none, none⟩

structure ShopifyLineEdge where
  node : Option ShopifyLineNode

structure ShopifyLines where
  edges : Option (List ShopifyLineEdge)

structure ShopifyCustomer where
  id : Option String

structure ShopifyAddress where
  zip : Option String
  city : Option String

structure ShopifyOrderNode where
  id : Option String
  name : Option String
  totalPriceSet : Option ShopifyMoney
  subtotalPriceSet : Option ShopifyMoney
  totalTaxSet : Option ShopifyMoney
  totalDiscountsSet : Option ShopifyMoney
  totalShippingPriceSet : Option ShopifyMoney
  currencyCode : Option String
  displayFinancialStatus : Option String
  displayFulfillmentStatus : Option String
  processedAt : Option String
  cancelledAt : Option String
  paymentGatewayNames : Option (List String)
  customer : Option ShopifyCustomer
  shippingAddress : Option ShopifyAddress
  lineItems : Option ShopifyLines

structure ShopifyProductNode where
  id : Option String
  title : Option String
  productType : Option String
  status : Option String

/-! ### Normalizing -/

structure ProductFact where
  vendor : String
  vendorProductId : String
  title : Option String
  productType : Option String
  status : Option String

structure NormalizedOrder where
  order : OrderFact
  lineItems : List LineItemFact

/-- `x ?? null` -/
def textJson : Option String → Json
  | none => .null
  | some text => .str text

def moneyAmount (m : Option ShopifyMoney) : String :=
  ((m.bind (·.shopMoney)).bind (·.amount)).getD "0"

def moneyMu (engine : Engine) (currency : String) (m : Option ShopifyMoney) : Result Int :=
  decimalStringToMinorUnits engine (.str (moneyAmount m)) currency

namespace ShopifyOrderNode

variable (node : ShopifyOrderNode)

def currency : String :=
  match node.currencyCode with
  | some code => code
  | none => ((node.totalPriceSet.bind (·.shopMoney)).bind (·.currencyCode)).getD "INR"

def vendorOrderId : String := node.id.getD ""

/-- `(node.lineItems?.edges ?? []).map((e) => e.node ?? {})` -/
def lineNodes : List ShopifyLineNode :=
  ((node.lineItems.bind (·.edges)).getD []).map fun e => e.node.getD ShopifyLineNode.empty

/-- The lines with their indices. -/
def indexedLines : List (ShopifyLineNode × Nat) := node.lineNodes.zipIdx

/-- The subtotal, unless it is the text of zero. -/
def grossMoney : Option ShopifyMoney :=
  if moneyAmount node.subtotalPriceSet ≠ "0" then node.subtotalPriceSet else node.totalPriceSet

end ShopifyOrderNode

namespace ShopifyLineNode

variable (ln : ShopifyLineNode)

/-- `String(ln.id ?? ...)` -/
def vendorLineId (vendorOrderId : String) (idx : Nat) : String :=
  ln.id.getD (vendorOrderId ++ ":" ++ toString idx)

/-- `variant.product.id` -/
def productId : Option String := (ln.variant.bind (·.product)).bind (·.id)

/-- `BigInt(ln.quantity ?? 0)` -/
def bigQuantity : Result Int :=
  match ln.quantity with
  | none => .ok 0
  | some quantity => Js.ofBigInt (Js.bigIntOfNumber quantity) .rangeError

def lineFact (engine : Engine) (vendorOrderId currency : String) (idx : Nat) :
    Result LineItemFact := do
  let quantity ← ln.bigQuantity
  let unitPriceMu ← moneyMu engine currency ln.originalUnitPriceSet
  .ok {
    vendor := "SHOPIFY"
    vendorOrderId := vendorOrderId
    vendorLineId := ln.vendorLineId vendorOrderId idx
    sku := textJson ln.sku
    title := textJson ln.title
    quantity := quantity
    unitPriceMu := unitPriceMu
    gstSlabBp := resolveGstSlabBp none }

end ShopifyLineNode

def normalizeShopifyOrder (engine : Engine) (hashes : Hashes) (identityStitcher : Option String)
    (node : ShopifyOrderNode) (workspaceSalt : Option (List UInt8)) : Result NormalizedOrder := do
  let currency := node.currency
  let paymentMethod ← classifyPaymentMethod engine
    (node.paymentGatewayNames.map fun names => .arr (names.map .str))
  let grossSalesMu ← moneyMu engine currency node.grossMoney
  let totalDiscountMu ← moneyMu engine currency node.totalDiscountsSet
  let totalTaxMu ← moneyMu engine currency node.totalTaxSet
  let shippingMu ← moneyMu engine currency node.totalShippingPriceSet
  let lineItems ← node.indexedLines.mapM fun ln =>
    ln.1.lineFact engine node.vendorOrderId currency ln.2
  .ok {
    order := {
      vendor := "SHOPIFY"
      vendorOrderId := node.vendorOrderId
      orderNumber := textJson node.name
      financialStatus := textJson node.displayFinancialStatus
      fulfillmentStatus := textJson node.displayFulfillmentStatus
      paymentMethod := paymentMethod
      currencyCode := currency
      grossSalesMu := grossSalesMu
      totalDiscountMu := totalDiscountMu
      totalTaxMu := totalTaxMu
      shippingMu := shippingMu
      customerRef := customerRef hashes identityStitcher (node.customer.bind (·.id)) workspaceSalt
      deliveryPincode := textJson (node.shippingAddress.bind (·.zip))
      deliveryCity := textJson (node.shippingAddress.bind (·.city))
      processedAt := textJson node.processedAt
      cancelledAt := textJson node.cancelledAt }
    lineItems := lineItems }

/-- What the fact of an order has of its node as it is. -/
structure OrderFact.From (fact : OrderFact) (hashes : Hashes) (identityStitcher : Option String)
    (node : ShopifyOrderNode) (workspaceSalt : Option (List UInt8)) : Prop where
  vendor : fact.vendor = "SHOPIFY"
  vendorOrderId : fact.vendorOrderId = node.vendorOrderId
  customerRef : fact.customerRef =
    Connectors.customerRef hashes identityStitcher (node.customer.bind (·.id)) workspaceSalt

theorem normalizeShopifyOrder_from {engine : Engine} {hashes : Hashes}
    {identityStitcher : Option String} {node : ShopifyOrderNode}
    {workspaceSalt : Option (List UInt8)} {synced : NormalizedOrder}
    (h : normalizeShopifyOrder engine hashes identityStitcher node workspaceSalt = .ok synced) :
    synced.order.From hashes identityStitcher node workspaceSalt := by
  obtain ⟨paymentMethod, -, h⟩ := Js.bind_ok.mp h
  obtain ⟨grossSalesMu, -, h⟩ := Js.bind_ok.mp h
  obtain ⟨totalDiscountMu, -, h⟩ := Js.bind_ok.mp h
  obtain ⟨totalTaxMu, -, h⟩ := Js.bind_ok.mp h
  obtain ⟨shippingMu, -, h⟩ := Js.bind_ok.mp h
  obtain ⟨lineItems, -, h⟩ := Js.bind_ok.mp h
  cases h
  exact ⟨rfl, rfl, rfl⟩

def normalizeShopifyProduct (node : ShopifyProductNode) : ProductFact where
  vendor := "SHOPIFY"
  vendorProductId := node.id.getD ""
  title := node.title
  productType := node.productType
  status := node.status

end BrainV2.Connectors
