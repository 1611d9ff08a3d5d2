import BrainV2.Ingest.OrderEnvelope
import BrainV2.Realtime.Deliveries

/-!
# What is read of a sent order

The columns of an order are sent, and `raw_payload` is none of them.

* `ShopifyOrder`: the order of a webhook, where null is what the vendor left out;
* `mapEnvelopeToFacts_sent`: the facts of a sent order name no customer, payment, address or line;
* `sentOrder_agrees_iff`: they are the facts of the order, and no stored row loses a field by
  them, exactly when there is nothing to name or to lose.
-/

namespace BrainV2.Realtime

open Connectors (Hashes OrderFact PaymentMethod classifyPaymentMethod customerRef
  decimalStringToMinorUnits)
open Ingest (Inherited NormalizedEvent Passage)
open Js (Engine JsError Result)
open Money (AmountText)

/-! ### The envelope of a sent order -/

section

variable {p : Passage} {order : List (String × Json)} {event : NormalizedEvent}

theorem wf_inherited (d : Json.Dialect) : Inherited (Json.WF d) where
  null := by simp [Json.WF]
  str s := by simp [Json.WF]
  get members name h := by
    apply Ingest.get_of_members (by simp [Json.WF])
    rw [Json.WF] at h
    exact Json.wfMembers_iff.mp h.2

theorem columns_wf (horder : (Json.obj order).WF Js.dialect) (h : p.sentEvent order = .ok event) :
    (Json.obj event.columns).WF Js.dialect := by
  rw [Json.WF]
  constructor
  · rw [Passage.sentEvent_keys h]
    decide
  · rw [Json.wfMembers_iff]
    apply Passage.sentEvent_inherited (wf_inherited Js.dialect) _ h
    exact fun name => (wf_inherited Js.dialect).get order name horder

theorem payloadOf_sent (horder : (Json.obj order).WF Js.dialect)
    (h : p.sentEvent order = .ok event) :
    payloadOf (.obj (p.envelope event)) = .ok (.obj event.columns) := by
  apply payloadOf_dumps (columns_wf horder h)
  rw [← Ingest.payloadText_eq]
  rfl

theorem rawOrderOf_sent (h : p.sentEvent order = .ok event) :
    rawOrderOf (.obj event.columns) = .ok (.obj []) := by
  have hnone : event.columns.lookup "raw_payload" = none :=
    Ingest.lookup_none_of_keys (Passage.sentEvent_keys h) (by decide)
  refine Js.bind_ok.mpr ⟨none, ?_, rfl⟩
  rw [Js.prop, hnone]

/-- The text of the number, as `str` writes it. -/
def vendorText (n : Nat) : String := String.ofList (Nat.toDigits 10 n)

theorem vendorText_ne_empty (n : Nat) : vendorText n ≠ "" := by
  intro h
  have hnil : Nat.toDigits 10 n = [] := by
    rw [← String.toList_ofList (l := Nat.toDigits 10 n)]
    exact congrArg String.toList h
  exact Nat.toDigits_ne_nil hnil

theorem pyStr_natural (limits : Py.Limits) (n : Nat) :
    Py.pyStr limits (.int n) = .ok (vendorText n) := by
  have hdepth : (Json.int n).depth ≤ limits.reprDepth := Nat.zero_le _
  have hsign : ¬ (n : Int) < 0 := by omega
  have htext : Json.intText n = Nat.toDigits 10 n := by
    rw [Json.intText, if_neg hsign, Int.natAbs_natCast]
  unfold Py.pyStr
  simp only [if_pos hdepth, Py.reprText, htext, vendorText]

theorem lookup_shopifyOrderId {n : Nat} (hid : order.lookup "id" = some (.int n))
    (h : p.sentEvent order = .ok event) :
    event.columns.lookup "shopify_order_id" = some (.str (vendorText n)) := by
  obtain ⟨⟨text, htext, hlookup⟩, -⟩ := Passage.sentEvent_lookup h
  rw [Py.getD, hid, Option.getD_some, pyStr_natural] at htext
  cases htext
  exact hlookup

theorem vendorOrderIdOf_ok {payload : List (String × Json)} {n : Nat}
    (h : payload.lookup "shopify_order_id" = some (.str (vendorText n))) :
    vendorOrderIdOf (.obj payload) = .ok (vendorText n) := by
  refine Js.bind_ok.mpr ⟨some (.str (vendorText n)), ?_, Js.bind_ok.mpr ⟨vendorText n, rfl, ?_⟩⟩
  · rw [Js.prop, h]
  · exact if_neg (vendorText_ne_empty n)

/-- What the envelope leaves out. -/
structure NothingNamed (facts : MappedFacts) : Prop where
  lineItems : facts.lineItems = []
  customerRef : facts.order.customerRef = none
  paymentMethod : facts.order.paymentMethod = none
  deliveryPincode : facts.order.deliveryPincode = .null
  deliveryCity : facts.order.deliveryCity = .null

theorem mapEnvelopeToFacts_sent {engine : Engine} {hashes : Hashes} {n : Nat} {facts : MappedFacts}
    (horder : (Json.obj order).WF Js.dialect) (hid : order.lookup "id" = some (.int n))
    (h : p.sentEvent order = .ok event)
    (hfacts : mapEnvelopeToFacts engine hashes (.obj (p.envelope event)) = .ok facts) :
    facts.order.vendor = "SHOPIFY" ∧ facts.order.vendorOrderId = vendorText n ∧
      NothingNamed facts := by
  obtain ⟨payload, rawOrder, raw, hpayload, hfrom⟩ := mapEnvelopeToFacts_from hfacts
  rw [payloadOf_sent horder h] at hpayload
  cases hpayload
  have hvendor := hfrom.vendorOrderId
  rw [vendorOrderIdOf_ok (lookup_shopifyOrderId hid h)] at hvendor
  have hraw := hfrom.rawOrder
  rw [rawOrderOf_sent h] at hraw
  cases hraw
  -- The order behind the payload is empty.
  cases hfrom.rawOrderFields
  obtain ⟨currency, hlines⟩ := hfrom.lineItems
  have hnone : facts.lineItems = [] := (Except.ok.inj hlines).symm
  exact ⟨hfrom.vendor, (Except.ok.inj hvendor).symm, hnone, hfrom.customerRef, hfrom.paymentMethod,
    hfrom.deliveryPincode, hfrom.deliveryCity⟩

end

/-! ### What the order names -/

/-- A member of an object, null where there is none. -/
def memberOf (j : Json) (name : String) : Json :=
  match j with
  | .obj members => Py.get members name
  | _ => .null

section

variable (order : List (String × Json))

/-- `customer?.id` -/
def customerIdOf : Json := memberOf (Py.get order "customer") "id"

def zipOf : Json := memberOf (Py.get order "shipping_address") "zip"

def cityOf : Json := memberOf (Py.get order "shipping_address") "city"

def linesOf : List Json :=
  match Py.get order "line_items" with
  | .arr items => items
  | _ => []

/-- `payment_gateway_names`, or the one `payment_gateway`. -/
def gatewaysOf : List Json :=
  match Py.get order "payment_gateway_names" with
  | .arr names => names
  | _ =>
    match Py.get order "payment_gateway" with
    | .str "" => []
    | .str name => [.str name]
    | _ => []

/-- Null or an amount. -/
def IsAmount (j : Json) : Prop := j = .null ∨ ∃ a : AmountText, a.sign ≠ .plus ∧ j = .str a.text

def IsTextOrNull (j : Json) : Prop := j = .null ∨ ∃ text, j = .str text

def IsIdOrNull (j : Json) : Prop := IsTextOrNull j ∨ ∃ n, j = .int n

def amountNames : List String := ["total_price", "subtotal_price", "total_discounts", "total_tax"]

/-- The order of a webhook, with its number. -/
structure ShopifyOrder (n : Nat) : Prop where
  wf : (Json.obj order).WF Js.dialect
  id : order.lookup "id" = some (.int n)
  orderNumber : IsIdOrNull (Py.get order "order_number")
  currency : IsTextOrNull (Py.get order "currency")
  amounts : ∀ name ∈ amountNames, IsAmount (Py.get order name)
  customerId : IsIdOrNull (customerIdOf order)

/-- The facts of the order. -/
structure OrderAgrees (engine : Engine) (hashes : Hashes) (facts : MappedFacts) : Prop where
  lineItems : facts.lineItems.length = (linesOf order).length
  customerRef : ∃ id, textOrNull (some (customerIdOf order)) = .ok id ∧
    facts.order.customerRef = customerRef hashes none id none
  paymentMethod : classifyPaymentMethod engine (some (.arr (gatewaysOf order))) =
    .ok facts.order.paymentMethod
  deliveryPincode : facts.order.deliveryPincode = zipOf order
  deliveryCity : facts.order.deliveryCity = cityOf order

/-- There is no line, no customer, no gateway and no address. -/
structure NamesNothing : Prop where
  lineItems : linesOf order = []
  customer : customerIdOf order = .null ∨ customerIdOf order = .str ""
  gateways : gatewaysOf order = []
  zip : zipOf order = .null
  city : cityOf order = .null

end

/-- No field becomes null. -/
structure Keeps (old new : OrderFact) : Prop where
  customerRef : new.customerRef = none → old.customerRef = none
  paymentMethod : new.paymentMethod = none → old.paymentMethod = none
  deliveryPincode : new.deliveryPincode = .null → old.deliveryPincode = .null
  deliveryCity : new.deliveryCity = .null → old.deliveryCity = .null

/-- The envelope is mapped to the facts of the order, and no row in store loses a field by them. -/
def SentAgrees (engine : Engine) (hashes : Hashes) (s : Stores) (workspaceId : String)
    (order : List (String × Json)) (envelope : Json) : Prop :=
  ∃ facts, mapEnvelopeToFacts engine hashes envelope = .ok facts ∧
    OrderAgrees order engine hashes facts ∧
    ∀ key old new, s.orderOf key = some old →
      (pgUpsertOrder s workspaceId facts.order).orderOf key = some new → Keeps old new

/-- A row without a customer, a payment method and an address. -/
structure Bare (o : OrderFact) : Prop where
  customerRef : o.customerRef = none
  paymentMethod : o.paymentMethod = none
  deliveryPincode : o.deliveryPincode = .null
  deliveryCity : o.deliveryCity = .null

section

variable {order : List (String × Json)} {engine : Engine} {hashes : Hashes}

theorem decimalText_ne_nil (digits : Nat) (exponent : Int) : Js.decimalText digits exponent ≠ [] := by
  have hdigits : Nat.toDigits 10 digits ≠ [] := Nat.toDigits_ne_nil
  unfold Js.decimalText
  simp only
  split
  · simp [hdigits]
  · split
    · simp
    · split <;> simp

theorem numberText_ne_nil (x : Binary64.Double) : Js.numberText x ≠ [] := by
  cases x with
  | finite x =>
    have htext := decimalText_ne_nil (Js.shortest x).1 (Js.shortest x).2
    unfold Js.numberText
    dsimp only
    split
    · exact List.cons_ne_nil _ _
    · split
      · exact List.cons_ne_nil _ _
      · exact htext
  | infinite negative =>
    cases negative
    · exact List.cons_ne_nil 'I' "nfinity".toList
    · exact List.cons_ne_nil '-' "Infinity".toList
  | nan => exact List.cons_ne_nil 'N' "aN".toList

theorem customerRef_eq_none_iff {id : Option String} :
    customerRef hashes none id none = none ↔ id = none ∨ id = some "" := by
  cases id with
  | none => simp [customerRef]
  | some id =>
    by_cases hid : id = ""
    · simp [hid, customerRef]
    · simp [hid, customerRef]

/-- An id is written, and only nothing and the empty text come out empty. -/
theorem textOrNull_id {j : Json} (h : IsIdOrNull j) :
    ∃ id, textOrNull (some j) = .ok id ∧ (id = none ∨ id = some "" ↔ j = .null ∨ j = .str "") := by
  obtain (rfl | ⟨text, rfl⟩) | ⟨n, rfl⟩ := h
  · exact ⟨none, rfl, by simp⟩
  · exact ⟨some text, rfl, by simp⟩
  · refine ⟨_, rfl, ?_⟩
    simpa using numberText_ne_nil (Binary64.ofInt n)

theorem classifyPaymentMethod_none_iff {names : List Json} :
    classifyPaymentMethod engine (some (.arr names)) = .ok none ↔ names = [] := by
  cases names with
  | nil => exact iff_of_true rfl rfl
  | cons name names =>
    refine iff_of_false ?_ (List.cons_ne_nil _ _)
    intro h
    obtain ⟨text, -, h⟩ := Js.bind_ok.mp h
    dsimp only at h
    split at h <;> cases h

theorem orderAgrees_iff {facts : MappedFacts} (hfacts : NothingNamed facts)
    (hcustomer : IsIdOrNull (customerIdOf order)) :
    OrderAgrees order engine hashes facts ↔ NamesNothing order := by
  obtain ⟨id, hid, hempty⟩ := textOrNull_id hcustomer
  constructor
  · intro h
    obtain ⟨id', hid', href⟩ := h.customerRef
    cases hid.symm.trans hid'
    rw [hfacts.customerRef] at href
    have hpayment := h.paymentMethod
    rw [hfacts.paymentMethod] at hpayment
    have hlines := h.lineItems
    rw [hfacts.lineItems, List.length_nil] at hlines
    exact {
      lineItems := List.length_eq_zero_iff.mp hlines.symm
      customer := hempty.mp (customerRef_eq_none_iff.mp href.symm)
      gateways := classifyPaymentMethod_none_iff.mp hpayment
      zip := h.deliveryPincode.symm.trans hfacts.deliveryPincode
      city := h.deliveryCity.symm.trans hfacts.deliveryCity }
  · intro h
    exact {
      lineItems := by rw [hfacts.lineItems, h.lineItems, List.length_nil, List.length_nil]
      customerRef := by
        refine ⟨id, hid, ?_⟩
        rw [hfacts.customerRef, customerRef_eq_none_iff.mpr (hempty.mpr h.customer)]
      paymentMethod := by
        rw [hfacts.paymentMethod]
        exact classifyPaymentMethod_none_iff.mpr h.gateways
      deliveryPincode := hfacts.deliveryPincode.trans h.zip.symm
      deliveryCity := hfacts.deliveryCity.trans h.city.symm }

/-- The row of the order is replaced, and the others stay. -/
theorem keeps_iff {facts : MappedFacts} (hfacts : NothingNamed facts) (s : Stores)
    (workspaceId : String) :
    (∀ key old new, s.orderOf key = some old →
        (pgUpsertOrder s workspaceId facts.order).orderOf key = some new → Keeps old new) ↔
      ∀ old, s.orderOf (orderKey workspaceId facts.order) = some old → Bare old := by
  have hself : (pgUpsertOrder s workspaceId facts.order).orderOf (orderKey workspaceId facts.order) =
      some facts.order := Dict.lookup_set_self _ _ _
  constructor
  · intro h old hold
    have hkeeps := h _ old facts.order hold hself
    exact {
      customerRef := hkeeps.customerRef hfacts.customerRef
      paymentMethod := hkeeps.paymentMethod hfacts.paymentMethod
      deliveryPincode := hkeeps.deliveryPincode hfacts.deliveryPincode
      deliveryCity := hkeeps.deliveryCity hfacts.deliveryCity }
  · intro h key old new hold hnew
    by_cases hkey : key = orderKey workspaceId facts.order
    · have hbare := h old (hkey ▸ hold)
      exact ⟨fun _ => hbare.customerRef, fun _ => hbare.paymentMethod,
        fun _ => hbare.deliveryPincode, fun _ => hbare.deliveryCity⟩
    · have hsame : (pgUpsertOrder s workspaceId facts.order).orderOf key = s.orderOf key :=
        Dict.lookup_set_ne _ _ hkey
      rw [hsame, hold] at hnew
      cases hnew
      exact ⟨id, id, id, id⟩

end

/-! ### The amounts of a sent order -/

section

variable {p : Passage} {order : List (String × Json)} {event : NormalizedEvent} {engine : Engine}
  {currency : String}

theorem prop_sent (h : p.sentEvent order = .ok event) {name : String}
    (hname : name ∈ Ingest.copiedNames) :
    Js.prop (.obj event.columns) name = .ok (some (Py.get order name)) := by
  rw [Js.prop, (Passage.sentEvent_lookup h).2 name hname]

def zeroAmount : AmountText where
  sign := .none
  whole := ['0']
  fraction := none
  digits := List.all_eq_true.mp (by decide)
  someDigit := by decide

theorem decimal_ok {j : Json} (h : IsAmount j) :
    ∃ minor, decimalStringToMinorUnits engine j currency = .ok minor := by
  obtain rfl | ⟨a, hsign, rfl⟩ := h
  · exact ⟨0, rfl⟩
  · exact ⟨_, Connectors.decimalStringToMinorUnits_text a hsign engine currency⟩

theorem isAmount_orElse {j : Json} (h : IsAmount j) :
    IsAmount (Js.orElse (some j) (.str "0")) := by
  obtain rfl | ⟨a, hsign, rfl⟩ := h
  · exact Or.inr ⟨zeroAmount, by decide, rfl⟩
  · exact Or.inr ⟨a, hsign, rfl⟩

theorem amountOf_ok (h : p.sentEvent order = .ok event) {name : String}
    (hname : name ∈ Ingest.copiedNames) (hamount : IsAmount (Py.get order name)) :
    ∃ minor, amountOf engine currency (.obj event.columns) name = .ok minor := by
  obtain ⟨minor, hminor⟩ : ∃ minor, decimalStringToMinorUnits engine _ currency = .ok minor :=
    decimal_ok (isAmount_orElse hamount)
  exact ⟨minor, Js.bind_ok.mpr ⟨_, prop_sent h hname, hminor⟩⟩

theorem grossSalesMuOf_ok (h : p.sentEvent order = .ok event)
    (hamounts : ∀ name ∈ amountNames, IsAmount (Py.get order name)) (totalTaxMu : Int) :
    ∃ gross, grossSalesMuOf engine currency (.obj event.columns) totalTaxMu = .ok gross := by
  obtain ⟨total, htotal⟩ : ∃ total,
      amountOf engine currency (.obj event.columns) "total_price" = .ok total :=
    amountOf_ok h (by decide) (hamounts _ (by decide))
  obtain ⟨price, hprice⟩ : ∃ minor, decimalStringToMinorUnits engine
      (Py.get order "subtotal_price") currency = .ok minor := decimal_ok (hamounts _ (by decide))
  unfold grossSalesMuOf
  rw [prop_sent h (by decide)]
  simp only [bind, Except.bind]
  split
  · exact ⟨price, hprice⟩
  · rw [htotal]
    exact ⟨_, rfl⟩

theorem currencyOf_ok (h : p.sentEvent order = .ok event)
    (hcurrency : IsTextOrNull (Py.get order "currency")) :
    ∃ currency, currencyOf engine (.obj event.columns) = .ok currency := by
  unfold currencyOf
  rw [prop_sent h (by decide)]
  obtain hnull | ⟨text, htext⟩ := hcurrency
  · rw [hnull]
    exact ⟨_, rfl⟩
  · rw [htext]
    exact ⟨_, rfl⟩

theorem mapEnvelopeToFacts_ok {hashes : Hashes} {n : Nat} (horder : ShopifyOrder order n)
    (h : p.sentEvent order = .ok event) :
    ∃ facts, mapEnvelopeToFacts engine hashes (.obj (p.envelope event)) = .ok facts := by
  obtain ⟨currency, hcurrency⟩ : ∃ currency, currencyOf engine (.obj event.columns) = .ok currency :=
    currencyOf_ok h horder.currency
  obtain ⟨discount, hdiscount⟩ : ∃ minor,
      amountOf engine currency (.obj event.columns) "total_discounts" = .ok minor :=
    amountOf_ok h (by decide) (horder.amounts _ (by decide))
  obtain ⟨tax, htax⟩ : ∃ minor,
      amountOf engine currency (.obj event.columns) "total_tax" = .ok minor :=
    amountOf_ok h (by decide) (horder.amounts _ (by decide))
  obtain ⟨gross, hgross⟩ : ∃ gross,
      grossSalesMuOf engine currency (.obj event.columns) tax = .ok gross :=
    grossSalesMuOf_ok h horder.amounts tax
  obtain ⟨number, hnumber, -⟩ := textOrNull_id horder.orderNumber
  refine ⟨_, Js.bind_ok.mpr ⟨_, payloadOf_sent horder.wf h, Js.bind_ok.mpr ⟨_, hcurrency,
    Js.bind_ok.mpr ⟨_, vendorOrderIdOf_ok (lookup_shopifyOrderId horder.id h), Js.bind_ok.mpr ⟨_, hdiscount,
    Js.bind_ok.mpr ⟨_, htax, Js.bind_ok.mpr ⟨_, hgross, Js.bind_ok.mpr ⟨_, rawOrderOf_sent h,
    Js.bind_ok.mpr ⟨_, rfl, Js.bind_ok.mpr ⟨_, prop_sent h (by decide), Js.bind_ok.mpr ⟨_, hnumber,
    Js.bind_ok.mpr ⟨_, rfl, Js.bind_ok.mpr ⟨_, rfl, Js.bind_ok.mpr ⟨_, rfl,
    Js.bind_ok.mpr ⟨_, rfl, Js.bind_ok.mpr ⟨_, rfl, rfl⟩⟩⟩⟩⟩⟩⟩⟩⟩⟩⟩⟩⟩⟩⟩⟩

/-- Of a sent order the consumer gets back what it is about, and the store keeps what it has,
exactly when the order names nothing and the row in store is bare. -/
theorem sentOrder_agrees_iff {hashes : Hashes} {n : Nat} (horder : ShopifyOrder order n)
    (h : p.sentEvent order = .ok event) (s : Stores) :
    SentAgrees engine hashes s p.workspaceId order (.obj (p.envelope event)) ↔
      NamesNothing order ∧
        ∀ old, s.orderOf ⟨p.workspaceId, "SHOPIFY", vendorText n⟩ = some old → Bare old := by
  obtain ⟨facts, hfacts⟩ : ∃ facts,
      mapEnvelopeToFacts engine hashes (.obj (p.envelope event)) = .ok facts :=
    mapEnvelopeToFacts_ok horder h
  obtain ⟨hvendor, hid, hnothing⟩ := mapEnvelopeToFacts_sent horder.wf horder.id h hfacts
  have hkey : orderKey p.workspaceId facts.order = ⟨p.workspaceId, "SHOPIFY", vendorText n⟩ := by
    rw [orderKey, hvendor, hid]
  have hagrees : OrderAgrees order engine hashes facts ↔ NamesNothing order :=
    orderAgrees_iff hnothing horder.customerId
  have hkeeps := keeps_iff hnothing s p.workspaceId
  rw [hkey] at hkeeps
  constructor
  · rintro ⟨facts', hfacts', hsame, hkept⟩
    cases hfacts.symm.trans hfacts'
    exact ⟨hagrees.mp hsame, hkeeps.mp hkept⟩
  · rintro ⟨hnames, hbare⟩
    exact ⟨facts, hfacts, hagrees.mpr hnames, hkeeps.mpr hbare⟩

end

/-! ### Two orders -/

def hundred : AmountText where
  sign := .none
  whole := ['1', '0', '0']
  fraction := some ['0', '0']
  digits := List.all_eq_true.mp (by decide)
  someDigit := by decide

/-- An order of a hundred rupees, and what else it names. -/
def rupeeOrder (named : List (String × Json)) : List (String × Json) :=
  [("id", .int 7), ("currency", .str "INR"), ("total_price", .str hundred.text)] ++ named

def itsCustomer : List (String × Json) :=
  [("customer", .obj [("id", .int 5)]),
    ("payment_gateway_names", .arr [.str "Cash on Delivery (COD)"]),
    ("shipping_address", .obj [("zip", .str "560001"), ("city", .str "Bengaluru")]),
    ("line_items", .arr [.obj [("id", .int 1), ("quantity", .int 2), ("price", .str "50.00")]])]

theorem shopifyOrder_named : ShopifyOrder (rupeeOrder itsCustomer) 7 where
  wf := by
    simp only [rupeeOrder, itsCustomer, List.cons_append, List.nil_append, Json.WF, Json.WFMembers,
      Json.WFItems]
    decide
  id := rfl
  orderNumber := Or.inl (Or.inl rfl)
  currency := Or.inr ⟨"INR", rfl⟩
  amounts := by
    simp only [amountNames, List.forall_mem_cons]
    exact ⟨Or.inr ⟨hundred, by decide, rfl⟩, Or.inl rfl, Or.inl rfl, Or.inl rfl, by simp⟩
  customerId := Or.inr ⟨5, rfl⟩

theorem shopifyOrder_unnamed : ShopifyOrder (rupeeOrder []) 7 where
  wf := by
    simp only [rupeeOrder, List.append_nil, Json.WF, Json.WFMembers]
    decide
  id := rfl
  orderNumber := Or.inl (Or.inl rfl)
  currency := Or.inr ⟨"INR", rfl⟩
  amounts := by
    simp only [amountNames, List.forall_mem_cons]
    exact ⟨Or.inr ⟨hundred, by decide, rfl⟩, Or.inl rfl, Or.inl rfl, Or.inl rfl, by simp⟩
  customerId := Or.inl (Or.inl rfl)

/-- An order of one line, by a customer. -/
theorem namedOrder_disagrees : ¬ ∀ (p : Passage) (order : List (String × Json)) (n : Nat)
    (event : NormalizedEvent), ShopifyOrder order n → p.sentEvent order = .ok event →
      SentAgrees exampleEngine exampleHashes noStores p.workspaceId order
        (.obj (p.envelope event)) := by
  intro hagrees
  obtain ⟨event, hsent⟩ : ∃ event,
      Ingest.examplePassage.sentEvent (rupeeOrder itsCustomer) = .ok event :=
    Ingest.sentEvent_examplePassage rfl
  obtain ⟨facts, hfacts, hsame, -⟩ := hagrees _ _ 7 event shopifyOrder_named hsent
  obtain ⟨-, -, hnothing⟩ :=
    mapEnvelopeToFacts_sent shopifyOrder_named.wf shopifyOrder_named.id hsent hfacts
  have hlines := hsame.lineItems
  rw [hnothing.lineItems] at hlines
  cases hlines

/-- An order that names nothing, in front of an empty store. -/
theorem unnamedOrder_agrees : ∃ event,
    Ingest.examplePassage.sentEvent (rupeeOrder []) = .ok event ∧
      SentAgrees exampleEngine exampleHashes noStores "w" (rupeeOrder [])
        (.obj (Ingest.examplePassage.envelope event)) := by
  obtain ⟨event, hsent⟩ : ∃ event, Ingest.examplePassage.sentEvent (rupeeOrder []) = .ok event :=
    Ingest.sentEvent_examplePassage rfl
  refine ⟨event, hsent, (sentOrder_agrees_iff shopifyOrder_unnamed hsent noStores).mpr ⟨?_, ?_⟩⟩
  · exact ⟨rfl, Or.inl rfl, rfl, rfl, rfl⟩
  · intro old hold
    cases hold

end BrainV2.Realtime
