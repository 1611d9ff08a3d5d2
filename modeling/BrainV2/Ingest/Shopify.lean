import BrainV2.Ingest.RawStore
import BrainV2.Ingest.PiiTokenizer
import Mathlib

/-!
# The Shopify adapter

* `normalize`: the columns of an order, whatever the event is about;
* `shopifyColumns_ok_iff`: the payloads the mapping goes through for;
* `orderColumnNames`: the names it always gives;
* `shopifyColumns_lookup`: where their values come from.
-/

namespace BrainV2.Ingest

open Py

structure RawEvent where
  vendor : String
  vendorEventId : String
  eventType : String
  occurredAt : Option Datetime
  rawPayload : Json

/-- `p.get("billing_address", {}).get(name) if p.get("billing_address") else None` -/
def billingName (payload : List (String × Json)) (name : String) : Except PyExc Json :=
  let billingAddress := get payload "billing_address"
  if truthy billingAddress then do
    let address ← asDict billingAddress
    .ok (get address name)
  else .ok .null

def shopifyColumns (limits : Limits) (p : List (String × Json)) : Except PyExc Columns := do
  let shopifyOrderId ← pyStr limits (getD p "id" (.str ""))
  let firstName ← billingName p "first_name"
  let lastName ← billingName p "last_name"
  .ok [("shopify_order_id", .str shopifyOrderId),
    ("order_number", get p "order_number"),
    ("financial_status", get p "financial_status"),
    ("fulfillment_status", get p "fulfillment_status"),
    ("email", get p "email"),
    ("first_name", firstName),
    ("last_name", lastName),
    ("total_price", get p "total_price"),
    ("subtotal_price", get p "subtotal_price"),
    ("total_discounts", get p "total_discounts"),
    ("total_tax", get p "total_tax"),
    ("currency", get p "currency"),
    ("created_at", get p "created_at"),
    ("updated_at", get p "updated_at"),
    ("closed_at", get p "closed_at"),
    ("cancelled_at", get p "cancelled_at")]

/-- `idempotency_key` -/
def idempotencyKey (raw : RawEvent) : String := raw.vendorEventId

/-- `ShopifyAdapter.normalize` -/
def normalize (limits : Limits) (raw : RawEvent) : Except PyExc NormalizedEvent := do
  let p ← asDict raw.rawPayload
  let columns ← shopifyColumns limits p
  .ok {
    vendor := "shopify"
    vendorEventId := idempotencyKey raw
    eventType := raw.eventType
    occurredAt := raw.occurredAt
    lawfulBasis := shopifyPiiManifest.defaultLawfulBasis
    purposeCode := shopifyPiiManifest.defaultPurposeCode
    columns := columns }

def orderColumnNames : List String :=
  ["shopify_order_id", "order_number", "financial_status", "fulfillment_status", "email",
   "first_name", "last_name", "total_price", "subtotal_price", "total_discounts", "total_tax",
   "currency", "created_at", "updated_at", "closed_at", "cancelled_at"]

/-- The billing address is falsy or an object. -/
def billingReadable (p : List (String × Json)) : Prop :=
  truthy (get p "billing_address") = true → ∃ address, get p "billing_address" = .obj address

/-- `str()` of the id does not nest too deep. -/
def idReadable (limits : Limits) (p : List (String × Json)) : Prop :=
  ∃ text, pyStr limits (getD p "id" (.str "")) = .ok text

theorem billingName_ok_iff {p : List (String × Json)} {name : String} :
    (∃ value, billingName p name = .ok value) ↔ billingReadable p := by
  unfold billingName billingReadable
  by_cases htruthy : truthy (get p "billing_address") = true
  · simp only [htruthy, if_true, true_implies]
    cases hget : get p "billing_address" with
    | obj address => exact iff_of_true ⟨_, rfl⟩ ⟨_, rfl⟩
    | _ => exact iff_of_false (by rintro ⟨value, h⟩; cases h) (by rintro ⟨address, h⟩; cases h)
  · simp only [htruthy]
    exact iff_of_true ⟨_, rfl⟩ nofun

theorem shopifyColumns_ok_iff {limits : Limits} {p : List (String × Json)} :
    (∃ columns, shopifyColumns limits p = .ok columns) ↔ idReadable limits p ∧ billingReadable p := by
  unfold shopifyColumns idReadable
  cases hid : pyStr limits (getD p "id" (.str "")) with
  | error e => exact iff_of_false (by rintro ⟨_, h⟩; cases h) (by rintro ⟨⟨_, h⟩, -⟩; cases h)
  | ok text =>
    simp only [bind, Except.bind]
    cases hfirst : billingName p "first_name" with
    | error e =>
      refine iff_of_false (by rintro ⟨_, h⟩; cases h) ?_
      rintro ⟨-, hbilling⟩
      obtain ⟨value, hvalue⟩ := billingName_ok_iff.mpr hbilling
      rw [hfirst] at hvalue
      cases hvalue
    | ok firstName =>
      have hbilling := billingName_ok_iff.mp ⟨firstName, hfirst⟩
      obtain ⟨lastName, hlast⟩ : ∃ value, billingName p "last_name" = .ok value :=
        billingName_ok_iff.mpr hbilling
      rw [hlast]
      exact iff_of_true ⟨_, rfl⟩ ⟨⟨text, rfl⟩, hbilling⟩

theorem shopifyColumns_keys {limits : Limits} {p : List (String × Json)} {columns : Columns}
    (h : shopifyColumns limits p = .ok columns) : Dict.keys columns = orderColumnNames := by
  unfold shopifyColumns at h
  cases hid : pyStr limits (getD p "id" (.str "")) with
  | error e => simp [hid, bind, Except.bind] at h
  | ok text =>
    cases hfirst : billingName p "first_name" with
    | error e => simp [hid, hfirst, bind, Except.bind] at h
    | ok firstName =>
      cases hlast : billingName p "last_name" with
      | error e => simp [hid, hfirst, hlast, bind, Except.bind] at h
      | ok lastName =>
        simp only [hid, hfirst, hlast, bind, Except.bind, Except.ok.injEq] at h
        rw [← h]
        rfl

/-- The columns that are members of the order under the same name. -/
def copiedNames : List String :=
  ["order_number", "financial_status", "fulfillment_status", "total_price", "subtotal_price",
   "total_discounts", "total_tax", "currency", "created_at", "updated_at", "closed_at",
   "cancelled_at"]

theorem shopifyColumns_lookup {limits : Limits} {p : List (String × Json)} {columns : Columns}
    (h : shopifyColumns limits p = .ok columns) :
    (∃ text, pyStr limits (getD p "id" (.str "")) = .ok text ∧
        columns.lookup "shopify_order_id" = some (.str text)) ∧
      ∀ name ∈ copiedNames, columns.lookup name = some (get p name) := by
  obtain ⟨text, htext, h⟩ := bind_ok.mp h
  obtain ⟨firstName, -, h⟩ := bind_ok.mp h
  obtain ⟨lastName, -, h⟩ := bind_ok.mp h
  cases h
  refine ⟨⟨text, htext, rfl⟩, ?_⟩
  simp only [copiedNames, List.forall_mem_cons]
  simp [List.lookup]

end BrainV2.Ingest
