import BrainV2.Py.Values
import Mathlib

/-!
# The mapper registry

`TransformRegistry` takes (vendor, event_type) to a silver table and a mapper.

* `shopifyOrderMapper`: the one mapper there is;
* `registry`: what is registered when the module is imported;
* `shopifyOrderMapper_retryable_iff`: the payloads on which the mapper raises
  something other than a `ValueError`.

`upper` and `lower` change ASCII letters only; vendor and event codes are ASCII.
-/

namespace BrainV2.Transform

open Py

abbrev RawPayload := List (String × Json)

abbrev SilverFact := List (String × Json)

abbrev MapperFn := RawPayload → Except PyExc (Option SilverFact)

/-- (vendor upper case, event_type lower case) -/
abbrev RegistryKey := String × String

structure MapperResult where
  silverTable : String
  fact : SilverFact
  rawEventId : String
  provenance : String

def upper (s : String) : String :=
  String.ofList (s.toList.map fun c => if 'a' ≤ c ∧ c ≤ 'z' then Char.ofNat (c.toNat - 32) else c)

def lower (s : String) : String :=
  String.ofList (s.toList.map fun c => if 'A' ≤ c ∧ c ≤ 'Z' then Char.ofNat (c.toNat + 32) else c)

def registryKey (vendor eventType : String) : RegistryKey := (upper vendor, lower eventType)

abbrev TransformRegistry := List (RegistryKey × (String × MapperFn))

namespace TransformRegistry

def register (registry : TransformRegistry) (vendor eventType silverTable : String)
    (mapper : MapperFn) : Except PyExc TransformRegistry :=
  let key := registryKey vendor eventType
  match registry.lookup key with
  | some _ => .error ⟨.valueError, "TransformRegistry: duplicate mapper for (" ++
      String.ofList (reprStr key.1) ++ ", " ++ String.ofList (reprStr key.2) ++ "). " ++
      "Each (vendor, event_type) pair must have exactly one mapper " ++
      "(Single-Primitive Rule, ADR-CONVERGENCE-001 §3)."⟩
  | none => .ok (Dict.set registry key (silverTable, mapper))

def get (registry : TransformRegistry) (vendor eventType : String) : Option (String × MapperFn) :=
  registry.lookup (registryKey vendor eventType)

def dispatch (registry : TransformRegistry) (vendor eventType : String) (rawPayload : RawPayload)
    (rawEventId : String) : Except PyExc (Option MapperResult) :=
  match registry.get vendor eventType with
  | none => .ok none
  | some (silverTable, mapper) =>
    match mapper rawPayload with
    | .error e => .error e
    | .ok none => .ok none
    | .ok (some fact) => .ok (some ⟨silverTable, fact, rawEventId, "transform_worker"⟩)

end TransformRegistry

/-- `int(raw.get(field, 0))` -/
def moneyField (raw : RawPayload) (field : String) : Except PyExc Int :=
  pyInt (getD raw field (.int 0))

def vendorOrderIdOf (raw : RawPayload) : Json := pyOr (Py.get raw "vendor_order_id") (Py.get raw "id")

/-- Map a Shopify order payload to a connector_order_facts row. No order id,
no row. -/
def shopifyOrderMapper (limits : Limits) : MapperFn := fun raw =>
  let vendorOrderId := vendorOrderIdOf raw
  if truthy vendorOrderId then do
    let processedAt := pyOr (Py.get raw "processed_at") (Py.get raw "created_at")
    let vendorOrderIdText ← pyStr limits vendorOrderId
    let grossSalesMu ← moneyField raw "gross_sales_mu"
    let totalDiscountMu ← moneyField raw "total_discount_mu"
    let totalTaxMu ← moneyField raw "total_tax_mu"
    let shippingMu ← moneyField raw "shipping_mu"
    let totalRefundMu ← moneyField raw "total_refund_mu"
    return some [
      ("workspace_id", getD raw "workspace_id" (.str "")),
      ("vendor", .str "SHOPIFY"),
      ("vendor_order_id", .str vendorOrderIdText),
      ("order_number", getD raw "order_number" (.str "")),
      ("financial_status", getD raw "financial_status" (.str "")),
      ("fulfillment_status", getD raw "fulfillment_status" (.str "")),
      ("payment_method", getD raw "payment_method" (.str "")),
      ("currency_code", getD raw "currency_code" (.str "INR")),
      ("gross_sales_mu", .int grossSalesMu),
      ("total_discount_mu", .int totalDiscountMu),
      ("total_tax_mu", .int totalTaxMu),
      ("shipping_mu", .int shippingMu),
      ("customer_ref", getD raw "customer_ref" (.str "")),
      ("is_new_customer", .bool (truthy (getD raw "is_new_customer" (.bool false)))),
      ("delivery_pincode", getD raw "delivery_pincode" (.str "")),
      ("delivery_city", getD raw "delivery_city" (.str "")),
      ("processed_at", processedAt),
      ("cancelled_at", Py.get raw "cancelled_at"),
      ("is_cod", .bool (truthy (getD raw "is_cod" (.bool false)))),
      ("order_type", getD raw "order_type" (.str "")),
      ("total_refund_mu", .int totalRefundMu)]
  else return none

/-- The registry as it stands after the module's two registrations. -/
def registry (limits : Limits) : TransformRegistry :=
  [(("SHOPIFY", "orders/create"), ("connector_order_facts", shopifyOrderMapper limits)),
   (("SHOPIFY", "order"), ("connector_order_facts", shopifyOrderMapper limits))]

theorem registry_registered (limits : Limits) :
    (do
      let r ← TransformRegistry.register [] "SHOPIFY" "orders/create" "connector_order_facts"
        (shopifyOrderMapper limits)
      r.register "SHOPIFY" "order" "connector_order_facts" (shopifyOrderMapper limits)) =
      .ok (registry limits) := rfl

/-- The only entries of the registry hold the Shopify mapper. -/
theorem registry_get {limits : Limits} {vendor eventType : String}
    {entry : String × MapperFn} (h : (registry limits).get vendor eventType = some entry) :
    entry = ("connector_order_facts", shopifyOrderMapper limits) := by
  simp only [TransformRegistry.get, registry, List.lookup] at h
  split at h
  · cases h
    rfl
  · split at h
    · cases h
      rfl
    · cases h

section Failures

/-- The money fields in the order the mapper reads them. -/
def moneyFields : List String :=
  ["gross_sales_mu", "total_discount_mu", "total_tax_mu", "shipping_mu", "total_refund_mu"]

def rejected (raw : RawPayload) (field : String) : Bool :=
  match moneyField raw field with
  | .ok _ => false
  | .error _ => true

/-- The first money field that `int()` does not take. -/
def firstRejected (raw : RawPayload) : Option String := moneyFields.find? (rejected raw)

/-- Payloads on which the mapper does not fail with anything but a `ValueError`. -/
def MapsCleanly (limits : Limits) (raw : RawPayload) : Prop :=
  truthy (vendorOrderIdOf raw) = true →
    (∃ text, pyStr limits (vendorOrderIdOf raw) = .ok text) ∧
    ∀ field, firstRejected raw = some field → uncountable (getD raw field (.int 0)) = false

theorem pyStr_error {limits : Limits} {j : Json} {e : PyExc} (h : pyStr limits j = .error e) :
    e.isValueError = false := by
  unfold pyStr at h
  split at h
  · cases h
  · split at h
    · cases h
    · cases h
      rfl

theorem moneyField_error {raw : RawPayload} {field : String} {e : PyExc}
    (h : moneyField raw field = .error e) :
    e.isValueError = false ↔ uncountable (getD raw field (.int 0)) = true := by
  rw [← pyInt_error_iff]
  constructor
  · intro he
    exact ⟨e, h, he⟩
  · rintro ⟨e', h', he'⟩
    rw [moneyField, h'] at h
    cases h
    exact he'

theorem error_at_first {raw : RawPayload} {field : String} {e : PyExc}
    (hfirst : firstRejected raw = some field) (h : moneyField raw field = .error e) :
    e.isValueError = false ↔
      ¬ ∀ f, firstRejected raw = some f → uncountable (getD raw f (.int 0)) = false := by
  rw [moneyField_error h, hfirst]
  simp

theorem rejected_error {raw : RawPayload} {field : String} {e : PyExc}
    (h : moneyField raw field = .error e) : rejected raw field = true := by
  simp [rejected, h]

theorem rejected_ok {raw : RawPayload} {field : String} {n : Int}
    (h : moneyField raw field = .ok n) : rejected raw field = false := by
  simp [rejected, h]

/-- With an order id whose text can be taken, the first rejected money field
decides what the mapper raises. -/
theorem shopifyOrderMapper_money {limits : Limits} {raw : RawPayload} {text : String}
    (hid : truthy (vendorOrderIdOf raw) = true)
    (htext : pyStr limits (vendorOrderIdOf raw) = .ok text) :
    (∃ e, shopifyOrderMapper limits raw = .error e ∧ e.isValueError = false) ↔
      ¬ ∀ f, firstRejected raw = some f → uncountable (getD raw f (.int 0)) = false := by
  have hfirst : ∀ {field e}, firstRejected raw = some field → moneyField raw field = .error e →
      shopifyOrderMapper limits raw = .error e →
      ((∃ e', shopifyOrderMapper limits raw = .error e' ∧ e'.isValueError = false) ↔
        ¬ ∀ f, firstRejected raw = some f → uncountable (getD raw f (.int 0)) = false) := by
    intro field e hfield herror hmapper
    rw [← error_at_first hfield herror, hmapper]
    simp
  cases h1 : moneyField raw "gross_sales_mu" with
  | error e =>
    apply hfirst (by simp [firstRejected, moneyFields, rejected_error h1]) h1
    simp [shopifyOrderMapper, hid, htext, h1, bind, Except.bind]
  | ok gross =>
  cases h2 : moneyField raw "total_discount_mu" with
  | error e =>
    apply hfirst (by simp [firstRejected, moneyFields, rejected_ok h1, rejected_error h2]) h2
    simp [shopifyOrderMapper, hid, htext, h1, h2, bind, Except.bind]
  | ok discount =>
  cases h3 : moneyField raw "total_tax_mu" with
  | error e =>
    apply hfirst (by
      simp [firstRejected, moneyFields, rejected_ok h1, rejected_ok h2, rejected_error h3]) h3
    simp [shopifyOrderMapper, hid, htext, h1, h2, h3, bind, Except.bind]
  | ok tax =>
  cases h4 : moneyField raw "shipping_mu" with
  | error e =>
    apply hfirst (by
      simp [firstRejected, moneyFields, rejected_ok h1, rejected_ok h2, rejected_ok h3,
        rejected_error h4]) h4
    simp [shopifyOrderMapper, hid, htext, h1, h2, h3, h4, bind, Except.bind]
  | ok shipping =>
  cases h5 : moneyField raw "total_refund_mu" with
  | error e =>
    apply hfirst (by
      simp [firstRejected, moneyFields, rejected_ok h1, rejected_ok h2, rejected_ok h3,
        rejected_ok h4, rejected_error h5]) h5
    simp [shopifyOrderMapper, hid, htext, h1, h2, h3, h4, h5, bind, Except.bind]
  | ok refund =>
    have hnone : firstRejected raw = none := by
      simp [firstRejected, moneyFields, rejected_ok h1, rejected_ok h2, rejected_ok h3,
        rejected_ok h4, rejected_ok h5]
    simp [shopifyOrderMapper, hid, htext, h1, h2, h3, h4, h5, hnone, bind, Except.bind, pure,
      Except.pure]

/-- The mapper raises something other than a `ValueError` exactly on the
payloads that do not map cleanly. -/
theorem shopifyOrderMapper_retryable_iff (limits : Limits) (raw : RawPayload) :
    (∃ e, shopifyOrderMapper limits raw = .error e ∧ e.isValueError = false) ↔
      ¬ MapsCleanly limits raw := by
  by_cases hid : truthy (vendorOrderIdOf raw) = true
  · cases htext : pyStr limits (vendorOrderIdOf raw) with
    | error e =>
      have he := pyStr_error htext
      simp [shopifyOrderMapper, MapsCleanly, hid, htext, bind, Except.bind, he]
    | ok text =>
      rw [shopifyOrderMapper_money hid htext]
      simp [MapsCleanly, hid, htext]
  · simp [MapsCleanly, shopifyOrderMapper, hid, pure, Except.pure]

end Failures

end BrainV2.Transform
