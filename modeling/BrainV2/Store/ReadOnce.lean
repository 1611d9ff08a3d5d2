import BrainV2.Store.ListingPages
import Mathlib.Data.String.Basic

/-!
# Lists that are read once

* `IsDate`, `isoOf_ok_iff`: the timestamps that JavaScript has a date for;
* `Postgres.ReadsBack`: ids and timestamps are read back from their texts;
* `Request`, `Request.ReadOnce`: a list with its options, from the first page to the last;
* `Request.Returnable`: the search and the least number of orders are taken, and each matching row
  can be returned, which takes an order that has a `processed_at`;
* `Request.listedOnce_iff`.
-/

namespace BrainV2.Store

open Js (Engine)

/-! ### Rows that can be returned -/

/-- A timestamp that JavaScript has a date for. -/
def IsDate : Timestamptz → Prop
  | some (some n) => (n.1 / 1000).natAbs ≤ 8640000000000000
  | _ => False

instance : DecidablePred IsDate
  | some (some n) => inferInstanceAs (Decidable ((n.1 / 1000).natAbs ≤ 8640000000000000))
  | some none => inferInstanceAs (Decidable False)
  | none => inferInstanceAs (Decidable False)

theorem isoOf_ok_iff {t : Timestamptz} : (∃ text, isoOf t = .ok text) ↔ IsDate t := by
  have hinfinite : ¬ ∃ text, (.error .typeError : Js.Result String) = .ok text := by
    rintro ⟨text, h⟩
    cases h
  cases t with
  | none => exact iff_of_false hinfinite id
  | some t =>
    cases t with
    | top => exact iff_of_false hinfinite id
    | coe n =>
      change (∃ text, Js.toISOString (Js.timeClip (n.1 / 1000)) = .ok text) ↔
        (n.1 / 1000).natAbs ≤ 8640000000000000
      unfold Js.timeClip
      split
      · next h => exact iff_of_true ⟨_, rfl⟩ h
      · next h =>
        refine iff_of_false ?_ h
        rintro ⟨text, h⟩
        cases h

theorem isoText_ok_iff {x : Option Timestamptz} :
    (∃ text, isoText x = .ok text) ↔ ∃ t, x = some t ∧ IsDate t := by
  cases x with
  | none =>
    apply iff_of_false
    · rintro ⟨text, h⟩
      cases h
    · rintro ⟨t, h, -⟩
      cases h
  | some t =>
    simp only [isoText, isoOf_ok_iff, Option.some.injEq, exists_eq_left']

theorem isoOrNull_ok_iff {x : Option Timestamptz} :
    (∃ text, isoOrNull x = .ok text) ↔ ∀ t, x = some t → IsDate t := by
  cases x with
  | none =>
    apply iff_of_true ⟨none, rfl⟩
    intro t h
    cases h
  | some t =>
    simp only [Option.some.injEq, forall_eq', ← isoOf_ok_iff, isoOrNull]
    cases isoOf t with
    | error e =>
      apply iff_of_false
      · rintro ⟨text, h⟩
        cases h
      · rintro ⟨text, h⟩
        cases h
    | ok text => exact iff_of_true ⟨some text, rfl⟩ ⟨text, rfl⟩

/-- An order is returned if it has a `processed_at`, of a date like its `cancelled_at`. -/
def OrderFact.Returnable (r : OrderFact) : Prop :=
  (∃ t, r.processedAt = some t ∧ IsDate t) ∧ ∀ t, r.cancelledAt = some t → IsDate t

def ProductFact.Returnable (r : ProductFact) : Prop := IsDate r.syncedAt

def CustomerPii.Returnable (r : CustomerPii) : Prop :=
  (∀ t, r.firstSeenAt = some t → IsDate t) ∧ ∀ t, r.lastSeenAt = some t → IsDate t

section

variable {pg : Postgres}

theorem orderRow_ok_iff {r : OrderFact} :
    (∃ returned, orderRow pg r = .ok returned) ↔ r.Returnable := by
  unfold OrderFact.Returnable
  rw [← isoText_ok_iff, ← isoOrNull_ok_iff]
  constructor
  · rintro ⟨returned, h⟩
    obtain ⟨processedAt, hprocessed, h⟩ := Js.bind_ok.mp h
    obtain ⟨cancelledAt, hcancelled, -⟩ := Js.bind_ok.mp h
    exact ⟨⟨processedAt, hprocessed⟩, cancelledAt, hcancelled⟩
  · rintro ⟨⟨processedAt, hprocessed⟩, cancelledAt, hcancelled⟩
    rw [orderRow, hprocessed, hcancelled]
    exact ⟨_, rfl⟩

theorem productRow_ok_iff {r : ProductFact} :
    (∃ returned, productRow pg r = .ok returned) ↔ r.Returnable := by
  unfold ProductFact.Returnable
  rw [← isoOf_ok_iff]
  constructor
  · rintro ⟨returned, h⟩
    obtain ⟨syncedAt, hsynced, -⟩ := Js.bind_ok.mp h
    exact ⟨syncedAt, hsynced⟩
  · rintro ⟨syncedAt, hsynced⟩
    rw [productRow, hsynced]
    exact ⟨_, rfl⟩

theorem customerRow_ok_iff {r : CustomerPii} :
    (∃ returned, customerRow pg r = .ok returned) ↔ r.Returnable := by
  unfold CustomerPii.Returnable
  rw [← isoOrNull_ok_iff, ← isoOrNull_ok_iff]
  constructor
  · rintro ⟨returned, h⟩
    obtain ⟨firstSeenAt, hfirst, h⟩ := Js.bind_ok.mp h
    obtain ⟨lastSeenAt, hlast, -⟩ := Js.bind_ok.mp h
    exact ⟨⟨firstSeenAt, hfirst⟩, lastSeenAt, hlast⟩
  · rintro ⟨⟨firstSeenAt, hfirst⟩, lastSeenAt, hlast⟩
    rw [customerRow, hfirst, hlast]
    exact ⟨_, rfl⟩

theorem orderRow_id {r : OrderFact} {returned : StoreOrderRow} (h : orderRow pg r = .ok returned) :
    returned.id = pg.uuidText r.id := by
  obtain ⟨processedAt, -, h⟩ := Js.bind_ok.mp h
  obtain ⟨cancelledAt, -, h⟩ := Js.bind_ok.mp h
  cases h
  rfl

theorem productRow_id {r : ProductFact} {returned : StoreProductRow}
    (h : productRow pg r = .ok returned) : returned.id = pg.uuidText r.id := by
  obtain ⟨syncedAt, -, h⟩ := Js.bind_ok.mp h
  cases h
  rfl

theorem customerRow_id {r : CustomerPii} {returned : StoreCustomerRow}
    (h : customerRow pg r = .ok returned) : returned.id = pg.uuidText r.id := by
  obtain ⟨firstSeenAt, -, h⟩ := Js.bind_ok.mp h
  obtain ⟨lastSeenAt, -, h⟩ := Js.bind_ok.mp h
  cases h
  rfl

end

/-! ### Parameters that are taken -/

/-- The pattern of a search. -/
def patternOf (search : Option String) : Option String :=
  if searchOf search = "" then none else some ("%" ++ searchOf search ++ "%")

def Searchable (search : Option String) : Prop := '\x00' ∉ (searchOf search).toList

instance : DecidablePred Searchable :=
  fun search => inferInstanceAs (Decidable ('\x00' ∉ (searchOf search).toList))

theorem searchBind_of_searchable {search : Option String} (h : Searchable search) :
    searchBind (searchOf search) = .ok (patternOf search) := by
  unfold searchBind patternOf
  split
  · rfl
  · have hpattern : '\x00' ∉ ("%" ++ searchOf search ++ "%").toList := by
      simpa [String.toList_append, Searchable] using h
    rw [textOf, dif_pos hpattern]
    rfl

theorem searchBind_of_not_searchable {search : Option String} (h : ¬ Searchable search) :
    searchBind (searchOf search) = .error .database := by
  have hne : searchOf search ≠ "" := by
    intro hempty
    rw [Searchable, hempty] at h
    exact h (by decide)
  have hpattern : ¬ '\x00' ∉ ("%" ++ searchOf search ++ "%").toList := by
    simpa [String.toList_append, Searchable] using h
  rw [searchBind, if_neg hne, textOf, dif_neg hpattern]
  rfl

/-- A least number of orders, if it asks for any. -/
def leastOf (minOrders : Option Int) : Option Int :=
  if 0 < minOrders.getD 0 then some (minOrders.getD 0) else none

theorem minOrdersBind_of_lt {minOrders : Option Int} (h : minOrders.getD 0 < 2 ^ 31) :
    minOrdersBind (minOrders.getD 0) = .ok (leastOf minOrders) := by
  unfold minOrdersBind leastOf
  rw [if_pos h]
  split <;> rfl

theorem minOrdersBind_of_le {minOrders : Option Int} (h : 2 ^ 31 ≤ minOrders.getD 0) :
    minOrdersBind (minOrders.getD 0) = .error .database := by
  rw [minOrdersBind, if_pos (by omega), if_neg (by omega)]
  rfl

/-! ### The three lists -/

/-- What is stored is read back from the text that is written of it. -/
structure Postgres.ReadsBack (pg : Postgres) (db : StoreTables) : Prop where
  orderId : ∀ r ∈ db.orders, pg.uuidOf (pg.uuidText r.id) = some r.id
  productId : ∀ r ∈ db.products, pg.uuidOf (pg.uuidText r.id) = some r.id
  customerId : ∀ r ∈ db.customers, pg.uuidOf (pg.uuidText r.id) = some r.id
  processedAt : ∀ r ∈ db.orders, ∀ t, r.processedAt = some t →
    pg.timestampOf (pg.timestampText t) = some t
  lastSeenAt : ∀ r ∈ db.customers, ∀ t, r.lastSeenAt = some t →
    pg.timestampOf (pg.timestampText t) = some t

/-- A list with its options, of which the cursor is left open. -/
inductive Request where
  | orders (opts : OrdersListOptions)
  | products (opts : ProductsListOptions)
  | customers (opts : CustomersListOptions)

section

variable (pg : Postgres) (engine : Engine) (db : StoreTables) (workspaceId : Uuid)

def matchingOrders (opts : OrdersListOptions) : List OrderFact :=
  (db.orders.filter (·.workspaceId = workspaceId)).filter (opts.has pg (patternOf opts.search))

def matchingProducts (opts : ProductsListOptions) : List ProductFact :=
  (db.products.filter (·.workspaceId = workspaceId)).filter (opts.has pg (patternOf opts.search))

def matchingCustomers (opts : CustomersListOptions) : List CustomerPii :=
  (db.customers.filter (·.workspaceId = workspaceId)).filter
    (opts.has pg (patternOf opts.search) (leastOf opts.minOrders))

/-- From no cursor on, the calls end, none throws, and the pages are the matching rows in the declared
order. -/
def Request.ReadOnce : Request → Prop
  | .orders opts => Store.ReadOnce engine
      (fun cursor => listOrders pg engine db workspaceId { opts with cursor := cursor })
      StoreOrderRow.id
      (((orderListing pg).ordered (matchingOrders pg db workspaceId opts)).map (pg.uuidText ·.id))
  | .products opts => Store.ReadOnce engine
      (fun cursor => listStoreProducts pg engine db workspaceId { opts with cursor := cursor })
      StoreProductRow.id
      (((productListing pg).ordered (matchingProducts pg db workspaceId opts)).map (pg.uuidText ·.id))
  | .customers opts => Store.ReadOnce engine
      (fun cursor => listStoreCustomers pg engine db workspaceId { opts with cursor := cursor })
      StoreCustomerRow.id
      (((customerListing pg).ordered (matchingCustomers pg db workspaceId opts)).map (pg.uuidText ·.id))

/-- The parameters are taken, and each matching row can be returned. -/
def Request.Returnable : Request → Prop
  | .orders opts => Searchable opts.search ∧
      ∀ r ∈ matchingOrders pg db workspaceId opts, r.Returnable
  | .products opts => Searchable opts.search ∧
      ∀ r ∈ matchingProducts pg db workspaceId opts, r.Returnable
  | .customers opts => (Searchable opts.search ∧ opts.minOrders.getD 0 < 2 ^ 31) ∧
      ∀ r ∈ matchingCustomers pg db workspaceId opts, r.Returnable

end

theorem clampSize_pos (s : Option Int) : 0 < clampSize s := by
  unfold clampSize
  omega

/-- A list whose parameters are taken is its pages; one whose are not throws at once. -/
theorem readOnce_taken_iff {α κ ρ : Type} [LinearOrder κ] {L : Listing α κ ρ} {pg : Postgres}
    {engine : Engine} {call : Option String → Except ListError (KeysetPage ρ)} {idOf : ρ → String}
    {matching : List α} {size : Nat} {taken : Prop} {P : α → Prop} (hsize : 0 < size)
    (hexact : L.Exact pg idOf matching)
    (htaken : taken → ∀ cursor, call cursor = L.call pg engine matching size cursor)
    (hrefused : ¬ taken → call none = .error .database)
    (hrow : ∀ r, (∃ returned, L.row r = .ok returned) ↔ P r) :
    ReadOnce engine call idOf ((L.ordered matching).map fun r => pg.uuidText (L.id r)) ↔
      taken ∧ ∀ r ∈ matching, P r := by
  by_cases h : taken
  · rw [funext (htaken h), Listing.readOnce_iff engine hexact hsize]
    simp only [hrow, h, true_and]
  · apply iff_of_false
    · intro hread
      obtain ⟨page, hpage⟩ := hread.first
      rw [hrefused h] at hpage
      cases hpage
    · exact fun hall => h hall.1

section

variable {pg : Postgres} {engine : Engine} {db : StoreTables} {workspaceId : Uuid}
  (hpg : pg.ReadsBack db)

include hpg

theorem exact_orders (opts : OrdersListOptions) :
    (orderListing pg).Exact pg StoreOrderRow.id (matchingOrders pg db workspaceId opts) := by
  have hmem : ∀ r ∈ matchingOrders pg db workspaceId opts, r ∈ db.orders :=
    fun r hr => List.mem_of_mem_filter (List.mem_of_mem_filter hr)
  constructor
  · exact db.orderIds.sublist ((List.filter_sublist.trans List.filter_sublist).map _)
  · exact fun r hr => hpg.orderId r (hmem r hr)
  · exact fun r hr => hpg.processedAt r (hmem r hr)
  · exact fun r returned => orderRow_id

theorem exact_products (opts : ProductsListOptions) :
    (productListing pg).Exact pg StoreProductRow.id (matchingProducts pg db workspaceId opts) := by
  have hmem : ∀ r ∈ matchingProducts pg db workspaceId opts, r ∈ db.products :=
    fun r hr => List.mem_of_mem_filter (List.mem_of_mem_filter hr)
  constructor
  · exact db.productIds.sublist ((List.filter_sublist.trans List.filter_sublist).map _)
  · exact fun r hr => hpg.productId r (hmem r hr)
  · intro r hr title htitle
    exact dif_pos title.2
  · exact fun r returned => productRow_id

theorem exact_customers (opts : CustomersListOptions) :
    (customerListing pg).Exact pg StoreCustomerRow.id (matchingCustomers pg db workspaceId opts) := by
  have hmem : ∀ r ∈ matchingCustomers pg db workspaceId opts, r ∈ db.customers :=
    fun r hr => List.mem_of_mem_filter (List.mem_of_mem_filter hr)
  constructor
  · exact db.customerIds.sublist ((List.filter_sublist.trans List.filter_sublist).map _)
  · exact fun r hr => hpg.customerId r (hmem r hr)
  · exact fun r hr => hpg.lastSeenAt r (hmem r hr)
  · exact fun r returned => customerRow_id

/-- A list is read once if and only if its parameters are taken and each matching row can be
returned. -/
theorem Request.listedOnce_iff (request : Request) :
    request.ReadOnce pg engine db workspaceId ↔ request.Returnable pg db workspaceId := by
  cases request with
  | orders opts =>
    apply readOnce_taken_iff (clampSize_pos opts.pageSize) (exact_orders hpg opts)
    · intro hsearch cursor
      rw [listOrders, searchBind_of_searchable hsearch]
      rfl
    · intro hsearch
      rw [listOrders, searchBind_of_not_searchable hsearch]
      rfl
    · exact fun r => orderRow_ok_iff
  | products opts =>
    apply readOnce_taken_iff (clampSize_pos opts.pageSize) (exact_products hpg opts)
    · intro hsearch cursor
      rw [listStoreProducts, searchBind_of_searchable hsearch]
      rfl
    · intro hsearch
      rw [listStoreProducts, searchBind_of_not_searchable hsearch]
      rfl
    · exact fun r => productRow_ok_iff
  | customers opts =>
    apply readOnce_taken_iff (clampSize_pos opts.pageSize) (exact_customers hpg opts)
    · rintro ⟨hsearch, hleast⟩ cursor
      rw [listStoreCustomers, searchBind_of_searchable hsearch, minOrdersBind_of_lt hleast]
      rfl
    · intro hrefused
      rw [listStoreCustomers]
      by_cases hsearch : Searchable opts.search
      · have hleast : 2 ^ 31 ≤ opts.minOrders.getD 0 :=
          not_lt.mp fun hlt => hrefused ⟨hsearch, hlt⟩
        rw [searchBind_of_searchable hsearch, minOrdersBind_of_le hleast]
        rfl
      · rw [searchBind_of_not_searchable hsearch]
        rfl
    · exact fun r => customerRow_ok_iff

end

/-! ### Two tables of orders -/

/-- The last hexadecimal digits of a number. -/
def hexDigits : Nat → Nat → List Nat
  | 0, _ => []
  | count + 1, n => hexDigits count (n / 16) ++ [n % 16]

def hexUuid (u : Uuid) : String :=
  let digits := (hexDigits 32 u.1).map Json.hexDigit
  String.ofList (digits.take 8 ++ '-' :: ((digits.drop 8).take 4 ++ '-' ::
    ((digits.drop 12).take 4 ++ '-' :: ((digits.drop 16).take 4 ++ '-' :: digits.drop 20))))

/-- The hyphens are no digits. -/
def ofHexUuid (text : String) : Option Uuid :=
  let digits := text.toList.filterMap Json.hexValue
  if digits.length = 32 then some (Fin.ofNat _ (digits.foldl (fun n d => 16 * n + d) 0)) else none

example : hexUuid 10 = "00000000-0000-0000-0000-00000000000a" := by decide +kernel

theorem length_hexDigits (count n : Nat) : (hexDigits count n).length = count := by
  induction count generalizing n with
  | zero => rfl
  | succ count ih => rw [hexDigits, List.length_append, ih, List.length_singleton]

theorem foldl_hexDigits (count n : Nat) :
    (hexDigits count n).foldl (fun n d => 16 * n + d) 0 = n % 16 ^ count := by
  induction count generalizing n with
  | zero => exact (Nat.mod_one n).symm
  | succ count ih =>
    rw [hexDigits, List.foldl_append, ih, List.foldl_cons, List.foldl_nil, Nat.pow_succ',
      Nat.mod_mul, Nat.add_comm]

theorem filterMap_hexDigits (count n : Nat) :
    ((hexDigits count n).map Json.hexDigit).filterMap Json.hexValue = hexDigits count n := by
  induction count generalizing n with
  | zero => rfl
  | succ count ih =>
    have hlast := Json.hexValue_hexDigit (n % 16) (Nat.mod_lt n (by omega))
    rw [hexDigits, List.map_append, List.filterMap_append, ih, List.map_singleton,
      List.filterMap_cons_some hlast, List.filterMap_nil]

theorem ofHexUuid_hexUuid (u : Uuid) : ofHexUuid (hexUuid u) = some u := by
  have hsplit : ∀ digits : List Char, (digits.take 8 ++ '-' :: ((digits.drop 8).take 4 ++ '-' ::
      ((digits.drop 12).take 4 ++ '-' :: ((digits.drop 16).take 4 ++ '-' :: digits.drop 20)))).filterMap
        Json.hexValue = digits.filterMap Json.hexValue := by
    intro digits
    have hparts : digits = digits.take 8 ++ ((digits.drop 8).take 4 ++ ((digits.drop 12).take 4 ++
        ((digits.drop 16).take 4 ++ digits.drop 20))) := by
      have hdrop : ∀ n, (digits.drop n).take 4 ++ digits.drop (n + 4) = digits.drop n := by
        intro n
        rw [← List.drop_drop, List.take_append_drop]
      rw [hdrop 16, hdrop 12, hdrop 8, List.take_append_drop]
    have hhyphen : Json.hexValue '-' = none := by decide
    conv_rhs => rw [hparts]
    simp only [List.filterMap_append, List.filterMap_cons_none hhyphen]
  have hdigits : (hexUuid u).toList.filterMap Json.hexValue = hexDigits 32 u.1 := by
    rw [hexUuid, String.toList_ofList, hsplit, filterMap_hexDigits]
  have hvalue : u.1 % 16 ^ 32 = u.1 := Nat.mod_eq_of_lt u.2
  rw [ofHexUuid, hdigits, length_hexDigits, if_pos rfl, foldl_hexDigits, hvalue]
  exact congrArg some (Fin.ofNat_val_eq_self u)

/-- The first second of 10 June 2026. -/
def june : Timestamptz := some (some ⟨1781049600000000, by decide⟩)

/-- A database in the C locale, of one time. -/
def plainPostgres : Postgres where
  uuidText := hexUuid
  uuidOf := ofHexUuid
  timestampText t := if t = june then "2026-06-10 00:00:00+00" else ""
  timestampOf text := if text = "2026-06-10 00:00:00+00" then some june else none
  collation := inferInstance
  ilike text pattern := "%" ++ text ++ "%" = pattern

def plainEngine : Engine where
  toUpperCase := id
  toLowerCase := id
  dateParse _ := none
  replaced _ := ""

def orderOf (processedAt : Option Timestamptz) (n : Nat) : OrderFact where
  id := Fin.ofNat _ n
  workspaceId := 0
  vendor := "SHOPIFY"
  vendorOrderId := "1001"
  orderNumber := none
  financialStatus := some "paid"
  fulfillmentStatus := none
  paymentMethod := none
  currencyCode := some "INR"
  grossSalesMu := some 10000
  totalDiscountMu := some 0
  totalTaxMu := some 1800
  shippingMu := some 0
  customerRef := none
  deliveryPincode := none
  deliveryCity := none
  isCod := none
  processedAt := processedAt
  cancelledAt := none

/-- Eleven orders of one time. -/
def elevenOrders : StoreTables where
  orders := (List.range 11).map (orderOf (some june))
  products := []
  customers := []
  orderIds := by decide +kernel
  productIds := List.nodup_nil
  customerIds := List.nodup_nil

/-- An order with a time, and one with none. -/
def pendingOrder : StoreTables where
  orders := [orderOf (some june) 0, orderOf none 1]
  products := []
  customers := []
  orderIds := by decide +kernel
  productIds := List.nodup_nil
  customerIds := List.nodup_nil

def tenOrders : OrdersListOptions := ⟨none, none, none, none, some 10⟩

theorem plainPostgres_uuid (u : Uuid) :
    plainPostgres.uuidOf (plainPostgres.uuidText u) = some u := by
  dsimp only [plainPostgres]
  exact ofHexUuid_hexUuid u

theorem readsBack_eleven : plainPostgres.ReadsBack elevenOrders where
  orderId r _ := plainPostgres_uuid r.id
  productId _ hr := absurd hr List.not_mem_nil
  customerId _ hr := absurd hr List.not_mem_nil
  processedAt := by
    intro r hr t ht
    obtain ⟨n, -, rfl⟩ := List.mem_map.mp hr
    cases ht
    decide +kernel
  lastSeenAt _ hr := absurd hr List.not_mem_nil

/-- Eleven orders of one time, ten a page. -/
theorem eleven_orders_read_once :
    (Request.orders tenOrders).ReadOnce plainPostgres plainEngine elevenOrders 0 := by
  apply (Request.listedOnce_iff readsBack_eleven _).mpr
  refine ⟨by decide +kernel, ?_⟩
  intro r hr
  obtain ⟨n, -, rfl⟩ := List.mem_map.mp (List.mem_of_mem_filter (List.mem_of_mem_filter hr))
  refine ⟨⟨june, rfl, by decide +kernel⟩, ?_⟩
  intro t ht
  cases ht

/-- An order that has no `processed_at` ends the list. -/
theorem pending_order_throws :
    listOrders plainPostgres plainEngine pendingOrder 0 tenOrders =
        .error (.thrown .typeError) ∧
      ¬ (Request.orders tenOrders).ReadOnce plainPostgres plainEngine pendingOrder 0 := by
  have hthrows : listOrders plainPostgres plainEngine pendingOrder 0 tenOrders =
      .error (.thrown .typeError) := rfl
  refine ⟨hthrows, ?_⟩
  intro hread
  obtain ⟨page, hpage⟩ := ReadOnce.first hread
  exact nomatch hthrows.symm.trans hpage

end BrainV2.Store
