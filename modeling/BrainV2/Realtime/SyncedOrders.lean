import BrainV2.Connectors.Normalizers
import BrainV2.Realtime.SentOrders

/-!
# An order that is synced and sent

The sync keeps the id of the node, and the consumer the number that is sent.

* `OneOrder`: the node and the webhook payload of one order;
* `Numbered`: an envelope with the number of the order, as the adapter sends it;
* `synced_never_sent`: the facts of the two are never one, whatever else they say;
* `synced_and_sent_rows`: both rows are in store afterwards, in whichever order they are written.
-/

namespace BrainV2.Realtime

open Connectors (Hashes NormalizedOrder OrderFact ShopifyMoney ShopifyOrderNode moneyAmount
  normalizeShopifyOrder)
open Ingest (NormalizedEvent Passage)
open Js (Engine)

def gidOf (kind : String) (n : Nat) : String := "gid://shopify/" ++ kind ++ "/" ++ vendorText n

/-- An amount of the node and the member of the payload. -/
def SameAmount (money : Option ShopifyMoney) (j : Json) : Prop :=
  (j = .null ∧ money = none) ∨ j = .str (moneyAmount money)

/-- The node and the webhook payload of the order with the number `n`. -/
structure OneOrder (node : ShopifyOrderNode) (order : List (String × Json)) (n : Nat) : Prop where
  webhook : ShopifyOrder order n
  id : node.id = some (gidOf "Order" n)
  customer : (customerIdOf order = .null ∧ node.customer = none) ∨
    ∃ k : Nat, customerIdOf order = .int k ∧ node.customer = some ⟨some (gidOf "Customer" k)⟩
  total : SameAmount node.totalPriceSet (Py.get order "total_price")
  subtotal : SameAmount node.subtotalPriceSet (Py.get order "subtotal_price")
  discounts : SameAmount node.totalDiscountsSet (Py.get order "total_discounts")
  tax : SameAmount node.totalTaxSet (Py.get order "total_tax")
  currency : Py.get order "currency" = .str node.currency
  gateways : gatewaysOf order = (node.paymentGatewayNames.getD []).map .str
  zip : zipOf order = Connectors.textJson (node.shippingAddress.bind (·.zip))
  city : cityOf order = Connectors.textJson (node.shippingAddress.bind (·.city))

/-- One fact: the business key, the customer and the amounts. -/
structure SameFact (synced mapped : OrderFact) : Prop where
  vendor : synced.vendor = mapped.vendor
  vendorOrderId : synced.vendorOrderId = mapped.vendorOrderId
  customerRef : synced.customerRef = mapped.customerRef
  grossSalesMu : synced.grossSalesMu = mapped.grossSalesMu
  totalDiscountMu : synced.totalDiscountMu = mapped.totalDiscountMu
  totalTaxMu : synced.totalTaxMu = mapped.totalTaxMu

section

variable {engine : Engine} {hashes : Hashes} {identityStitcher : Option String}
  {workspaceSalt : Option (List UInt8)} {node : ShopifyOrderNode} {synced : NormalizedOrder}

theorem gidOf_ne (kind : String) (n : Nat) : gidOf kind n ≠ vendorText n := by
  intro h
  have hlength := congrArg String.length h
  have hpath : "gid://shopify/".length = 14 := rfl
  simp only [gidOf, String.length_append, hpath] at hlength
  omega

/-- The payload has the number of the order. -/
def Numbered (envelope : Json) (n : Nat) : Prop :=
  ∃ payload, payloadOf envelope = .ok (.obj payload) ∧
    payload.lookup "shopify_order_id" = some (.str (vendorText n))

theorem numbered_sent {p : Passage} {order : List (String × Json)} {event : NormalizedEvent} {n : Nat}
    (horder : ShopifyOrder order n) (hsent : p.sentEvent order = .ok event) :
    Numbered (.obj (p.envelope event)) n :=
  ⟨event.columns, payloadOf_sent horder.wf hsent, lookup_shopifyOrderId horder.id hsent⟩

variable {envelope : Json} {n : Nat} {mapped : MappedFacts}

theorem mapEnvelopeToFacts_key (henvelope : Numbered envelope n)
    (h : mapEnvelopeToFacts engine hashes envelope = .ok mapped) :
    mapped.order.vendor = "SHOPIFY" ∧ mapped.order.vendorOrderId = vendorText n := by
  obtain ⟨payload, hpayload, hid⟩ := henvelope
  obtain ⟨payload', rawOrder, raw, hpayload', hfrom⟩ := mapEnvelopeToFacts_from h
  cases hpayload.symm.trans hpayload'
  have hvendor := hfrom.vendorOrderId
  rw [vendorOrderIdOf_ok hid] at hvendor
  exact ⟨hfrom.vendor, (Except.ok.inj hvendor).symm⟩

theorem vendorOrderId_ne (hid : node.id = some (gidOf "Order" n)) (henvelope : Numbered envelope n)
    (hsynced : normalizeShopifyOrder engine hashes identityStitcher node workspaceSalt = .ok synced)
    (hmapped : mapEnvelopeToFacts engine hashes envelope = .ok mapped) :
    synced.order.vendorOrderId ≠ mapped.order.vendorOrderId := by
  rw [(Connectors.normalizeShopifyOrder_from hsynced).vendorOrderId, ShopifyOrderNode.vendorOrderId,
    (mapEnvelopeToFacts_key henvelope hmapped).2, hid, Option.getD_some]
  exact gidOf_ne "Order" n

/-- Each of two orders keeps its row when the other is written. -/
theorem two_rows {a b : OrderFact} (hne : a.vendorOrderId ≠ b.vendorOrderId) (s : Stores)
    (workspaceId : String) :
    (pgUpsertOrder (pgUpsertOrder s workspaceId a) workspaceId b).orderOf (orderKey workspaceId a) =
        some a ∧
      (pgUpsertOrder (pgUpsertOrder s workspaceId a) workspaceId b).orderOf
        (orderKey workspaceId b) = some b := by
  have hkey : orderKey workspaceId a ≠ orderKey workspaceId b := by
    intro h
    exact hne (congrArg OrderKey.vendorOrderId h)
  constructor
  · have hkept : (pgUpsertOrder (pgUpsertOrder s workspaceId a) workspaceId b).orderOf
        (orderKey workspaceId a) =
          (pgUpsertOrder s workspaceId a).orderOf (orderKey workspaceId a) :=
      Dict.lookup_set_ne _ _ hkey
    exact hkept.trans (Dict.lookup_set_self _ _ _)
  · exact Dict.lookup_set_self _ _ _

theorem synced_and_sent_rows (hid : node.id = some (gidOf "Order" n))
    (henvelope : Numbered envelope n)
    (hsynced : normalizeShopifyOrder engine hashes identityStitcher node workspaceSalt = .ok synced)
    (hmapped : mapEnvelopeToFacts engine hashes envelope = .ok mapped) (s : Stores)
    (workspaceId : String) :
    let syncedFirst := pgUpsertOrder (pgUpsertOrder s workspaceId synced.order) workspaceId
      mapped.order
    let sentFirst := pgUpsertOrder (pgUpsertOrder s workspaceId mapped.order) workspaceId synced.order
    orderKey workspaceId synced.order ≠ orderKey workspaceId mapped.order ∧
      ∀ after ∈ [syncedFirst, sentFirst],
        after.orderOf (orderKey workspaceId synced.order) = some synced.order ∧
          after.orderOf (orderKey workspaceId mapped.order) = some mapped.order := by
  have hne := vendorOrderId_ne hid henvelope hsynced hmapped
  have hsyncedFirst := two_rows hne s workspaceId
  have hsentFirst := two_rows hne.symm s workspaceId
  refine ⟨fun h => hne (congrArg OrderKey.vendorOrderId h), ?_⟩
  simp only [List.forall_mem_cons]
  exact ⟨hsyncedFirst, ⟨hsentFirst.2, hsentFirst.1⟩, by simp⟩

/-- No order is one fact on both ways, whatever its node and its envelope say but for the id. -/
theorem synced_never_sent (engine : Engine) (hashes : Hashes) (identityStitcher : Option String)
    (workspaceSalt : Option (List UInt8)) {node : ShopifyOrderNode} {envelope : Json} {n : Nat}
    (hid : node.id = some (gidOf "Order" n)) (henvelope : Numbered envelope n) :
    ¬ ∃ synced mapped,
      normalizeShopifyOrder engine hashes identityStitcher node workspaceSalt = .ok synced ∧
        mapEnvelopeToFacts engine hashes envelope = .ok mapped ∧
        SameFact synced.order mapped.order := by
  rintro ⟨synced, mapped, hsynced, hmapped, hsame⟩
  exact vendorOrderId_ne hid henvelope hsynced hmapped hsame.vendorOrderId

end

/-! ### One order -/

/-- The node of an order of a hundred rupees. -/
def rupeeNode : ShopifyOrderNode where
  id := some "gid://shopify/Order/7"
  name := none
  totalPriceSet := some ⟨some ⟨some "100.00", some "INR"⟩⟩
  subtotalPriceSet := none
  totalTaxSet := none
  totalDiscountsSet := none
  totalShippingPriceSet := none
  currencyCode := some "INR"
  displayFinancialStatus := none
  displayFulfillmentStatus := none
  processedAt := none
  cancelledAt := none
  paymentGatewayNames := none
  customer := none
  shippingAddress := none
  lineItems := none

theorem rupeeNode_id : rupeeNode.id = some (gidOf "Order" 7) := by decide

theorem oneOrder_rupee : OneOrder rupeeNode (rupeeOrder []) 7 where
  webhook := shopifyOrder_unnamed
  id := rupeeNode_id
  customer := Or.inl ⟨rfl, rfl⟩
  total := Or.inr rfl
  subtotal := Or.inl ⟨rfl, rfl⟩
  discounts := Or.inl ⟨rfl, rfl⟩
  tax := Or.inl ⟨rfl, rfl⟩
  currency := rfl
  gateways := rfl
  zip := rfl
  city := rfl

theorem sent_rupeeOrder : ∃ event, Ingest.examplePassage.sentEvent (rupeeOrder []) = .ok event :=
  Ingest.sentEvent_examplePassage rfl

theorem rupeeOrder_not_one : ¬ ∀ (node : ShopifyOrderNode) (order : List (String × Json)) (n : Nat)
    (p : Passage) (event : NormalizedEvent), OneOrder node order n → p.sentEvent order = .ok event →
      ∃ synced mapped, normalizeShopifyOrder exampleEngine exampleHashes none node none = .ok synced ∧
        mapEnvelopeToFacts exampleEngine exampleHashes (.obj (p.envelope event)) = .ok mapped ∧
        SameFact synced.order mapped.order := by
  intro hone
  obtain ⟨event, hsent⟩ := sent_rupeeOrder
  obtain ⟨synced, mapped, hsynced, hmapped, hsame⟩ := hone _ _ 7 _ event oneOrder_rupee hsent
  exact vendorOrderId_ne rupeeNode_id (numbered_sent shopifyOrder_unnamed hsent) hsynced hmapped
    hsame.vendorOrderId

theorem rupeeOrder_synced_not_sent : ∃ event,
    Ingest.examplePassage.sentEvent (rupeeOrder []) = .ok event ∧ ¬ ∃ synced mapped,
      normalizeShopifyOrder exampleEngine exampleHashes none rupeeNode none = .ok synced ∧
        mapEnvelopeToFacts exampleEngine exampleHashes
          (.obj (Ingest.examplePassage.envelope event)) = .ok mapped ∧
        SameFact synced.order mapped.order := by
  obtain ⟨event, hsent⟩ := sent_rupeeOrder
  exact ⟨event, hsent, synced_never_sent exampleEngine exampleHashes none none rupeeNode_id
    (numbered_sent shopifyOrder_unnamed hsent)⟩

end BrainV2.Realtime
