import BrainV2.Lib.Runs
import BrainV2.Realtime.Consumer

/-!
# The two stores over a run of deliveries

* `Settled`: a delivery that is done with has its order in Postgres;
* `Equal`: Postgres and ClickHouse have the same orders;
* `StepOk`, `step_iff`: what a delivery takes for both, and that it is exactly that;
* `deliveries_iff`: over every run.
-/

namespace BrainV2.Realtime

open Js (Engine JsError Result Value)
open Connectors (Hashes OrderFact PaymentMethod)

/-! ### What should hold -/

/-- The order of a well-formed message, and its workspace. -/
def validOrder (engine : Engine) (hashes : Hashes) (d : Delivery) : Option (String × Plan) :=
  if rawOf engine d = "" then none
  else
    match planOf engine hashes d with
    | .ok (some plan) =>
      match plan.workspaceId with
      | .str workspaceId => some (workspaceId, plan)
      | _ => none
    | _ => none

def Plan.key (plan : Plan) (workspaceId : String) : OrderKey :=
  orderKey workspaceId plan.facts.order

def handled (engine : Engine) (hashes : Hashes) (s : Stores) (d : Delivery) : Stores :=
  (eachMessage engine hashes s d).1

/-- When it returns, Postgres has the order, if there is one. -/
def Settled (engine : Engine) (hashes : Hashes) (s : Stores) (d : Delivery) : Prop :=
  (eachMessage engine hashes s d).2 = .ok () → ∀ workspaceId plan,
    validOrder engine hashes d = some (workspaceId, plan) →
      (handled engine hashes s d).orderOf (plan.key workspaceId) = some plan.facts.order

/-- The row has the fields of the order; an order that states no time is placed when it came. -/
structure Carries (engine : Engine) (o : OrderFact) (row : ChOrderRow) : Prop where
  customerRef : row.customerRef = o.customerRef.getD ""
  deliveryPincode : row.deliveryPincode = orEmpty o.deliveryPincode
  deliveryCity : row.deliveryCity = orEmpty o.deliveryCity
  grossSalesMu : row.grossSalesMu = o.grossSalesMu
  discountMu : row.discountMu = o.totalDiscountMu
  taxMu : row.taxMu = o.totalTaxMu
  shippingMu : row.shippingMu = o.shippingMu
  currencyCode : row.currencyCode = o.currencyCode
  paymentMethod : row.paymentMethod = (o.paymentMethod.map PaymentMethod.text).getD ""
  financialStatus : row.financialStatus = orEmpty o.financialStatus
  fulfillmentStatus : row.fulfillmentStatus = orEmpty o.fulfillmentStatus
  cancelledAt : cancelledAtOf engine o.cancelledAt = .ok row.cancelledAt
  placedAt : Js.truthy o.processedAt = true →
    (Js.dateOf engine o.processedAt >>= chDT64) = .ok row.placedAt

def SameOrder (engine : Engine) : Option OrderFact → Option ChOrderRow → Prop
  | none, none => True
  | some o, some row => Carries engine o row
  | _, _ => False

structure Equal (engine : Engine) (s : Stores) : Prop where
  same : ∀ key, SameOrder engine (s.orderOf key) (s.chOrderOf key)

/-! ### What it takes -/

/-- The row of the order is inserted. -/
structure ChTakes (engine : Engine) (d : Delivery) (plan : Plan) : Prop where
  takes : d.chTakesOrder = true
  nonneg : 0 ≤ plan.version
  fits : plan.version < 2 ^ 64
  cancelledAt : Js.truthy plan.facts.order.cancelledAt = true →
    ∃ ms, Js.dateOf engine plan.facts.order.cancelledAt = .ok (some ms)

/-- No row of the order has a greater version. -/
def Newest (s : Stores) (key : OrderKey) (version : Nat) : Prop :=
  ∀ row ∈ s.chOrders, row.key = key → row.version ≤ version

instance (s : Stores) (key : OrderKey) (version : Nat) : Decidable (Newest s key version) :=
  inferInstanceAs (Decidable (∀ row ∈ s.chOrders, row.key = key → row.version ≤ version))

/-- Postgres commits, and ClickHouse takes the row as the newest or has its fields already;
or Postgres has the order already. -/
def StepOk (engine : Engine) (hashes : Hashes) (s : Stores) (d : Delivery) : Prop :=
  ∀ workspaceId plan, validOrder engine hashes d = some (workspaceId, plan) →
    if d.pgCommits then
      (ChTakes engine d plan ∧ Newest s (plan.key workspaceId) plan.version.toNat) ∨
        ∃ row, s.chOrderOf (plan.key workspaceId) = some row ∧ Carries engine plan.facts.order row
    else s.orderOf (plan.key workspaceId) = some plan.facts.order

/-! ### One delivery -/

section

variable {engine : Engine} {hashes : Hashes} {s : Stores} {d : Delivery} {workspaceId : String}
  {plan : Plan}

/-- Whatever goes wrong, it returns. -/
theorem eachMessage_returns (s : Stores) (d : Delivery) :
    (eachMessage engine hashes s d).2 = .ok () := by
  unfold eachMessage
  split
  · rfl
  · split <;> rfl

theorem handled_of_none (h : validOrder engine hashes d = none) (s : Stores) :
    handled engine hashes s d = s := by
  unfold validOrder at h
  unfold handled eachMessage attempt
  by_cases hraw : rawOf engine d = ""
  · rw [if_pos hraw]
  · rw [if_neg hraw] at h ⊢
    cases hplan : planOf engine hashes d with
    | error e => rfl
    | ok p =>
      cases p with
      | none => rfl
      | some plan =>
        rw [hplan] at h
        cases hworkspace : plan.workspaceId with
        | str text =>
          simp only [hworkspace] at h
          cases h
        | _ => simp only [hworkspace]

theorem validOrder_eq_some (h : validOrder engine hashes d = some (workspaceId, plan)) :
    rawOf engine d ≠ "" ∧ planOf engine hashes d = .ok (some plan) ∧
      plan.workspaceId = .str workspaceId := by
  unfold validOrder at h
  split at h
  · cases h
  · next hraw =>
    split at h
    · next p hplan =>
      split at h
      · next text hworkspace =>
        cases h
        exact ⟨hraw, hplan, hworkspace⟩
      · cases h
    · cases h

theorem handled_of_some (h : validOrder engine hashes d = some (workspaceId, plan)) (s : Stores) :
    handled engine hashes s d =
      if d.pgCommits then chWrite engine (pgWrite s workspaceId plan.facts) d workspaceId plan
      else s := by
  obtain ⟨hraw, hplan, hworkspace⟩ := validOrder_eq_some h
  unfold handled eachMessage attempt
  rw [if_neg hraw, hplan]
  simp only [hworkspace]
  cases d.pgCommits <;> rfl

/-! ### What is written -/

theorem foldl_upsertLineItem (workspaceId : String) (lineItems : List WebhookLineItem)
    (s : Stores) :
    (lineItems.foldl (pgUpsertLineItem · workspaceId) s).orders = s.orders ∧
      (lineItems.foldl (pgUpsertLineItem · workspaceId) s).chOrders = s.chOrders := by
  induction lineItems generalizing s with
  | nil => exact ⟨rfl, rfl⟩
  | cons li rest ih => exact ih (pgUpsertLineItem s workspaceId li)

theorem pgWrite_orders (s : Stores) (workspaceId : String) (facts : MappedFacts) :
    (pgWrite s workspaceId facts).orders =
        Dict.set s.orders (orderKey workspaceId facts.order) facts.order ∧
      (pgWrite s workspaceId facts).chOrders = s.chOrders :=
  foldl_upsertLineItem workspaceId facts.lineItems (pgUpsertOrder s workspaceId facts.order)

theorem chWrite_orders (s : Stores) (d : Delivery) (workspaceId : String) (plan : Plan) :
    (chWrite engine s d workspaceId plan).orders = s.orders ∧
      (chWrite engine s d workspaceId plan).chOrders =
        s.chOrders ++ (insertedOrder engine d workspaceId plan).toList := by
  unfold chWrite
  cases insertedOrder engine d workspaceId plan with
  | none => exact ⟨rfl, (List.append_nil _).symm⟩
  | some row => exact ⟨rfl, rfl⟩

/-- The order of a delivery that commits, and no other. -/
theorem orderOf_handled (h : validOrder engine hashes d = some (workspaceId, plan))
    (hcommits : d.pgCommits = true) (s : Stores) (key : OrderKey) :
    (handled engine hashes s d).orderOf key =
      if key = plan.key workspaceId then some plan.facts.order else s.orderOf key := by
  rw [handled_of_some h, if_pos hcommits, Stores.orderOf, (chWrite_orders _ _ _ _).1,
    (pgWrite_orders _ _ _).1]
  by_cases hkey : key = plan.key workspaceId
  · rw [if_pos hkey, hkey]
    exact Dict.lookup_set_self _ _ _
  · rw [if_neg hkey]
    exact Dict.lookup_set_ne _ _ hkey

theorem chOrders_handled (h : validOrder engine hashes d = some (workspaceId, plan))
    (hcommits : d.pgCommits = true) (s : Stores) :
    (handled engine hashes s d).chOrders =
      s.chOrders ++ (insertedOrder engine d workspaceId plan).toList := by
  rw [handled_of_some h, if_pos hcommits, (chWrite_orders _ _ _ _).2, (pgWrite_orders _ _ _).2]

/-! ### The row -/

theorem toISOString_ok {d : Option Int} {text : String} (h : Js.toISOString d = .ok text) :
    ∃ ms, d = some ms := by
  cases d with
  | none => cases h
  | some ms => exact ⟨ms, rfl⟩

/-- The times of a plan are those of its order. -/
theorem planOf_processedAt (h : planOf engine hashes d = .ok (some plan)) :
    (∃ ms, plan.processedAt = some ms) ∧
      (Js.truthy plan.facts.order.processedAt = true →
        Js.dateOf engine plan.facts.order.processedAt = .ok plan.processedAt) := by
  obtain ⟨envelope, -, h⟩ := Js.bind_ok.mp h
  obtain ⟨workspaceId, -, h⟩ := Js.bind_ok.mp h
  obtain ⟨payload, -, h⟩ := Js.bind_ok.mp h
  obtain ⟨eventType, -, h⟩ := Js.bind_ok.mp h
  split at h
  · cases h
  · obtain ⟨facts, -, h⟩ := Js.bind_ok.mp h
    obtain ⟨version, -, h⟩ := Js.bind_ok.mp h
    obtain ⟨processedAt, hprocessedAt, h⟩ := Js.bind_ok.mp h
    obtain ⟨orderDate, horderDate, h⟩ := Js.bind_ok.mp h
    cases h
    obtain ⟨text, htext, -⟩ := Js.bind_ok.mp horderDate
    refine ⟨toISOString_ok htext, fun htruthy => ?_⟩
    rwa [processedAtOf, if_pos htruthy] at hprocessedAt

theorem chOrderRow_ok {version : Nat} {processedAt : Option Int} {now : Int} {o : OrderFact}
    {row : ChOrderRow} (h : chOrderRow engine workspaceId o version processedAt now = .ok row)
    (hprocessed : Js.truthy o.processedAt = true →
      Js.dateOf engine o.processedAt = .ok processedAt) :
    row.key = orderKey workspaceId o ∧ row.version = version ∧ Carries engine o row := by
  obtain ⟨orderDate, -, h⟩ := Js.bind_ok.mp h
  obtain ⟨placedAt, hplacedAt, h⟩ := Js.bind_ok.mp h
  obtain ⟨cancelledAt, hcancelledAt, h⟩ := Js.bind_ok.mp h
  obtain ⟨ingestedAt, -, h⟩ := Js.bind_ok.mp h
  cases h
  refine ⟨rfl, rfl, ?_⟩
  constructor
  case cancelledAt => exact hcancelledAt
  case placedAt => exact fun htruthy => Js.bind_ok.mpr ⟨_, hprocessed htruthy, hplacedAt⟩
  all_goals rfl

theorem insertedOrder_row (hplan : planOf engine hashes d = .ok (some plan)) {row : ChOrderRow}
    (h : insertedOrder engine d workspaceId plan = some row) :
    row.key = plan.key workspaceId ∧ row.version = plan.version.toNat ∧
      Carries engine plan.facts.order row := by
  unfold insertedOrder at h
  split at h
  · split at h
    · next row' hrow =>
      cases h
      exact chOrderRow_ok hrow (planOf_processedAt hplan).2
    · cases h
  · cases h

theorem cancelledAtOf_ok_iff {cancelledAt : Json} :
    (∃ text, cancelledAtOf engine cancelledAt = .ok text) ↔ (Js.truthy cancelledAt = true →
      ∃ ms, Js.dateOf engine cancelledAt = .ok (some ms)) := by
  unfold cancelledAtOf
  by_cases htruthy : Js.truthy cancelledAt = true
  · simp only [htruthy, if_true, true_implies]
    cases hdate : Js.dateOf engine cancelledAt with
    | error e => exact iff_of_false (by rintro ⟨_, h⟩; cases h) (by rintro ⟨_, h⟩; cases h)
    | ok date =>
      cases date with
      | none => exact iff_of_false (by rintro ⟨_, h⟩; cases h) (by rintro ⟨_, h⟩; cases h)
      | some ms => exact iff_of_true ⟨_, rfl⟩ ⟨_, rfl⟩
  · simp only [htruthy]
    exact iff_of_true ⟨_, rfl⟩ nofun

/-- The row is inserted exactly when ClickHouse takes it. -/
theorem insertedOrder_iff (workspaceId : String)
    (hplan : planOf engine hashes d = .ok (some plan)) :
    (∃ row, insertedOrder engine d workspaceId plan = some row) ↔ ChTakes engine d plan := by
  obtain ⟨⟨ms, hms⟩, -⟩ := planOf_processedAt hplan
  have hrow : (∃ row, chOrderRow engine workspaceId plan.facts.order plan.version.toNat
      plan.processedAt d.now = .ok row) ↔
        ∃ text, cancelledAtOf engine plan.facts.order.cancelledAt = .ok text := by
    rw [hms]
    cases hcancelled : cancelledAtOf engine plan.facts.order.cancelledAt with
    | error e =>
      refine iff_of_false ?_ (by rintro ⟨_, h⟩; cases h)
      rintro ⟨row, h⟩
      obtain ⟨orderDate, -, h⟩ := Js.bind_ok.mp h
      obtain ⟨placedAt, -, h⟩ := Js.bind_ok.mp h
      obtain ⟨text, htext, -⟩ := Js.bind_ok.mp h
      rw [hcancelled] at htext
      cases htext
    | ok text =>
      refine iff_of_true ?_ ⟨_, rfl⟩
      unfold chOrderRow
      rw [hcancelled]
      exact ⟨_, rfl⟩
  unfold insertedOrder
  constructor
  · rintro ⟨row, h⟩
    split at h
    · next htakes =>
      split at h
      · next row' hok =>
        exact ⟨htakes.1, htakes.2.1, htakes.2.2,
          cancelledAtOf_ok_iff.mp (hrow.mp ⟨row', hok⟩)⟩
      · cases h
    · cases h
  · intro h
    obtain ⟨row, hok⟩ := hrow.mpr (cancelledAtOf_ok_iff.mpr h.cancelledAt)
    rw [if_pos ⟨h.takes, h.nonneg, h.fits⟩, hok]
    exact ⟨row, rfl⟩

/-! ### The step -/

theorem chOrderOf_handled (h : validOrder engine hashes d = some (workspaceId, plan))
    (hcommits : d.pgCommits = true) (s : Stores) {row : ChOrderRow}
    (hrow : insertedOrder engine d workspaceId plan = some row) (key : OrderKey) :
    (handled engine hashes s d).chOrderOf key =
      if row.key = key ∧ Newest s key row.version then some row else s.chOrderOf key := by
  unfold Stores.chOrderOf
  rw [chOrders_handled h hcommits, hrow]
  exact Versions.newestOf_concat

theorem chOrderOf_handled_none (h : validOrder engine hashes d = some (workspaceId, plan))
    (hcommits : d.pgCommits = true) (s : Stores)
    (hrow : insertedOrder engine d workspaceId plan = none) (key : OrderKey) :
    (handled engine hashes s d).chOrderOf key = s.chOrderOf key := by
  unfold Stores.chOrderOf
  rw [chOrders_handled h hcommits, hrow, Option.toList_none, List.append_nil]

theorem sameOrder_some {o : OrderFact} {row : Option ChOrderRow} :
    SameOrder engine (some o) row ↔ ∃ r, row = some r ∧ Carries engine o r := by
  cases row with
  | none => exact iff_of_false id (by rintro ⟨_, h, -⟩; cases h)
  | some r => exact ⟨fun h => ⟨r, rfl, h⟩, by rintro ⟨_, h, hcarries⟩; cases h; exact hcarries⟩

/-- The row that ClickHouse reads of the order of a committed delivery. -/
theorem chOrderOf_committed (h : validOrder engine hashes d = some (workspaceId, plan))
    (hcommits : d.pgCommits = true) (s : Stores) :
    (∃ row, (handled engine hashes s d).chOrderOf (plan.key workspaceId) = some row ∧
        Carries engine plan.facts.order row) ↔
      (ChTakes engine d plan ∧ Newest s (plan.key workspaceId) plan.version.toNat) ∨
        ∃ row, s.chOrderOf (plan.key workspaceId) = some row ∧
          Carries engine plan.facts.order row := by
  have hplan := (validOrder_eq_some h).2.1
  have htakes := insertedOrder_iff workspaceId hplan
  cases hrow : insertedOrder engine d workspaceId plan with
  | none =>
    rw [chOrderOf_handled_none h hcommits s hrow]
    have hnot : ¬ ChTakes engine d plan := by
      rw [← htakes, hrow]
      rintro ⟨row, hsome⟩
      cases hsome
    simp [hnot]
  | some row =>
    obtain ⟨hkey, hversion, hcarries⟩ := insertedOrder_row hplan hrow
    rw [chOrderOf_handled h hcommits s hrow, ← hversion]
    by_cases hnewest : Newest s (plan.key workspaceId) row.version
    · rw [if_pos ⟨hkey, hnewest⟩]
      exact iff_of_true ⟨row, rfl, hcarries⟩ (Or.inl ⟨htakes.mp ⟨row, hrow⟩, hnewest⟩)
    · rw [if_neg fun hif => hnewest hif.2]
      simp [hnewest]

/-- The other orders stay as they are in both stores. -/
theorem handled_other (h : validOrder engine hashes d = some (workspaceId, plan))
    (hcommits : d.pgCommits = true) (s : Stores) {key : OrderKey}
    (hkey : key ≠ plan.key workspaceId) :
    (handled engine hashes s d).orderOf key = s.orderOf key ∧
      (handled engine hashes s d).chOrderOf key = s.chOrderOf key := by
  refine ⟨by rw [orderOf_handled h hcommits, if_neg hkey], ?_⟩
  cases hrow : insertedOrder engine d workspaceId plan with
  | none => exact chOrderOf_handled_none h hcommits s hrow key
  | some row =>
    have hrowKey := (insertedOrder_row (validOrder_eq_some h).2.1 hrow).1
    rw [chOrderOf_handled h hcommits s hrow, if_neg]
    rintro ⟨hsame, -⟩
    exact hkey (hsame.symm.trans hrowKey)

theorem equal_committed_iff (h : validOrder engine hashes d = some (workspaceId, plan))
    (hcommits : d.pgCommits = true) (hequal : Equal engine s) :
    Equal engine (handled engine hashes s d) ↔
      ∃ row, (handled engine hashes s d).chOrderOf (plan.key workspaceId) = some row ∧
        Carries engine plan.facts.order row := by
  have hself := orderOf_handled h hcommits s (plan.key workspaceId)
  rw [if_pos rfl] at hself
  constructor
  · intro hafter
    have hkey := hafter.same (plan.key workspaceId)
    rw [hself] at hkey
    exact sameOrder_some.mp hkey
  · refine fun hcarries => ⟨fun key => ?_⟩
    by_cases hkey : key = plan.key workspaceId
    · rw [hkey, hself]
      exact sameOrder_some.mpr hcarries
    · obtain ⟨hpg, hch⟩ := handled_other h hcommits s hkey
      rw [hpg, hch]
      exact hequal.same key

/-- One delivery. -/
theorem step_iff (hequal : Equal engine s) :
    Settled engine hashes s d ∧ Equal engine (handled engine hashes s d) ↔
      StepOk engine hashes s d := by
  cases hvalid : validOrder engine hashes d with
  | none =>
    rw [handled_of_none hvalid]
    refine iff_of_true ⟨?_, hequal⟩ ?_
    · intro _ workspaceId plan hsome
      rw [hvalid] at hsome
      cases hsome
    · intro workspaceId plan hsome
      rw [hvalid] at hsome
      cases hsome
  | some order =>
    obtain ⟨workspaceId, plan⟩ := order
    have hsettled : Settled engine hashes s d ↔
        (handled engine hashes s d).orderOf (plan.key workspaceId) = some plan.facts.order := by
      constructor
      · exact fun h => h (eachMessage_returns s d) workspaceId plan hvalid
      · intro h _ workspaceId' plan' hvalid'
        rw [hvalid] at hvalid'
        cases hvalid'
        exact h
    have hok : StepOk engine hashes s d ↔ if d.pgCommits then
        (ChTakes engine d plan ∧ Newest s (plan.key workspaceId) plan.version.toNat) ∨
          ∃ row, s.chOrderOf (plan.key workspaceId) = some row ∧
            Carries engine plan.facts.order row
        else s.orderOf (plan.key workspaceId) = some plan.facts.order := by
      constructor
      · exact fun h => h workspaceId plan hvalid
      · intro h workspaceId' plan' hvalid'
        rw [hvalid] at hvalid'
        cases hvalid'
        exact h
    rw [hsettled, hok]
    by_cases hcommits : d.pgCommits = true
    · rw [if_pos hcommits, equal_committed_iff hvalid hcommits hequal,
        chOrderOf_committed hvalid hcommits, orderOf_handled hvalid hcommits, if_pos rfl]
      exact and_iff_right rfl
    · rw [if_neg hcommits, handled_of_some hvalid, if_neg hcommits]
      exact and_iff_left hequal

end

/-! ### Every run -/

/-- Every delivery is settled and the stores stay equal exactly when each delivery commits and
is the newest of its order in ClickHouse, or changes nothing there. -/
theorem deliveries_iff {engine : Engine} {hashes : Hashes} {s : Stores} (hequal : Equal engine s)
    (deliveries : List Delivery) :
    Runs.Allowed (handled engine hashes) (Settled engine hashes) s deliveries ∧
        Runs.Always (handled engine hashes) (Equal engine) s deliveries ↔
      Runs.Allowed (handled engine hashes) (StepOk engine hashes) s deliveries :=
  Runs.allowed_always_iff (fun _ _ h => step_iff h) hequal

/-! ### Two runs -/

def exampleEngine : Engine where
  toUpperCase := id
  toLowerCase := id
  dateParse text := if text = "2026-06-01T00:00:00Z" then some 1780272000000 else none
  replaced _ := ""

def exampleHashes : Hashes := ⟨id, fun _ message => message⟩

def orderPayload (financialStatus : String) : List (String × Json) :=
  [("shopify_order_id", .str "7"), ("order_number", .str "1001"),
    ("financial_status", .str financialStatus), ("fulfillment_status", .null),
    ("total_price", .str "118.00"), ("subtotal_price", .str "100.00"),
    ("total_discounts", .str "0.00"), ("total_tax", .str "18.00"), ("currency", .str "INR"),
    ("created_at", .str "2026-06-01T00:00:00Z"), ("cancelled_at", .null)]

def orderEnvelope (financialStatus : String) : List (String × Json) :=
  [("workspace_id", .str "w"), ("vendor", .str "shopify"), ("event_type", .str "order"),
    ("payload", .str (Json.dumps (.obj (orderPayload financialStatus))))]

def orderFact (financialStatus : String) : OrderFact where
  vendor := "SHOPIFY"
  vendorOrderId := "7"
  orderNumber := .str "1001"
  financialStatus := .str financialStatus
  fulfillmentStatus := .null
  paymentMethod := none
  currencyCode := "INR"
  grossSalesMu := 10000
  totalDiscountMu := 0
  totalTaxMu := 1800
  shippingMu := 0
  customerRef := none
  deliveryPincode := .null
  deliveryCity := .null
  processedAt := .str "2026-06-01T00:00:00Z"
  cancelledAt := .null

theorem mapEnvelopeToFacts_orderEnvelope (financialStatus : String) :
    mapEnvelopeToFacts exampleEngine exampleHashes (.obj (orderEnvelope financialStatus)) =
      .ok ⟨orderFact financialStatus, []⟩ := by
  have hpayload : payloadOf (.obj (orderEnvelope financialStatus)) =
      .ok (.obj (orderPayload financialStatus)) :=
    payloadOf_dumps (by simp [Json.WF, Json.WFMembers, orderPayload, Dict.keys]) rfl
  unfold mapEnvelopeToFacts
  rw [hpayload]
  rfl

/-- The message of an order, in a delivery in which ClickHouse takes it. -/
def orderDelivery (financialStatus timestamp : String) (pgCommits : Bool) : Delivery where
  value := some (Py.utf8 (Json.dumps (.obj (orderEnvelope financialStatus))))
  timestamp := timestamp
  now := 0
  pgCommits := pgCommits
  chTakesOrder := true
  chTakesLineItems := true

def orderPlan (financialStatus : String) (version : Int) : Plan :=
  ⟨.str "w", ⟨orderFact financialStatus, []⟩, version, some 1780272000000, "2026-06-01"⟩

theorem validOrder_orderDelivery {financialStatus timestamp : String} {pgCommits : Bool}
    {version : Int} (hversion : versionOf (orderDelivery financialStatus timestamp pgCommits) =
      .ok version) :
    validOrder exampleEngine exampleHashes (orderDelivery financialStatus timestamp pgCommits) =
      some ("w", orderPlan financialStatus version) := by
  have hraw : rawOf exampleEngine (orderDelivery financialStatus timestamp pgCommits) =
      Json.dumps (.obj (orderEnvelope financialStatus)) := by
    rw [rawOf, orderDelivery]
    simp only [Py.utf8Decode_utf8, Option.getD_some]
  have hparse : Js.parse (Json.dumps (.obj (orderEnvelope financialStatus))) =
      .ok (.obj (orderEnvelope financialStatus)) :=
    Js.parse_dumps (by simp [Json.WF, Json.WFMembers, orderEnvelope, Dict.keys])
  have hplan : planOf exampleEngine exampleHashes (orderDelivery financialStatus timestamp pgCommits) =
      .ok (some (orderPlan financialStatus version)) := by
    unfold planOf
    rw [hraw, hparse]
    refine Js.bind_ok.mpr ⟨_, rfl, Js.bind_ok.mpr ⟨_, rfl, Js.bind_ok.mpr ⟨_, rfl,
      Js.bind_ok.mpr ⟨_, rfl, ?_⟩⟩⟩⟩
    rw [if_neg]
    · refine Js.bind_ok.mpr ⟨_, mapEnvelopeToFacts_orderEnvelope financialStatus,
        Js.bind_ok.mpr ⟨_, hversion, ?_⟩⟩
      rfl
    · have hpayload : Js.isTruthy ((orderEnvelope financialStatus).lookup "payload") = true := by
        change (Json.dumps (.obj (orderPayload financialStatus)) != "") = true
        simpa using Json.dumps_obj_ne_empty (orderPayload financialStatus)
      rw [hpayload]
      exact Bool.false_ne_true
  unfold validOrder
  rw [hraw, if_neg (Json.dumps_obj_ne_empty _), hplan]
  rfl

theorem chTakes_orderDelivery {financialStatus timestamp : String} {pgCommits : Bool}
    {version : Int} (hnonneg : 0 ≤ version) (hfits : version < 2 ^ 64) :
    ChTakes exampleEngine (orderDelivery financialStatus timestamp pgCommits)
      (orderPlan financialStatus version) where
  takes := rfl
  nonneg := hnonneg
  fits := hfits
  cancelledAt h := by cases h

theorem versionOf_timestamp {d : Delivery} {version : Int} (hne : d.timestamp ≠ "")
    (h : Js.bigInt d.timestamp.toList = some version) : versionOf d = .ok version := by
  rw [versionOf, if_pos hne, h]
  rfl

theorem bigInt_one : Js.bigInt "1".toList = some 1 := by decide +kernel

theorem bigInt_two : Js.bigInt "2".toList = some 2 := by decide +kernel

def noStores : Stores := ⟨[], [], [], []⟩

theorem newest_noStores (key : OrderKey) (version : Nat) : Newest noStores key version :=
  List.forall_mem_nil _

theorem equal_noStores (engine : Engine) : Equal engine noStores := ⟨fun _ => trivial⟩

/-- An order that comes in while Postgres is down, and one that comes again after a newer one. -/
theorem order_lost_and_order_stale :
    ¬ Runs.Allowed (handled exampleEngine exampleHashes) (Settled exampleEngine exampleHashes)
        noStores [orderDelivery "paid" "1" false] ∧
      ¬ Runs.Always (handled exampleEngine exampleHashes) (Equal exampleEngine) noStores
        [orderDelivery "refunded" "2" true, orderDelivery "paid" "1" true] := by
  have hone : ∀ financialStatus pgCommits, validOrder exampleEngine exampleHashes
      (orderDelivery financialStatus "1" pgCommits) = some ("w", orderPlan financialStatus 1) :=
    fun _ _ => validOrder_orderDelivery (versionOf_timestamp (by decide : "1" ≠ "") bigInt_one)
  have htwo : validOrder exampleEngine exampleHashes (orderDelivery "refunded" "2" true) =
      some ("w", orderPlan "refunded" 2) :=
    validOrder_orderDelivery (versionOf_timestamp (by decide : "2" ≠ "") bigInt_two)
  constructor
  · rintro ⟨hsettled, -⟩
    have hstored := hsettled (eachMessage_returns _ _) "w" _ (hone "paid" false)
    rw [handled_of_some (hone "paid" false)] at hstored
    cases hstored
  · rintro ⟨-, hfirst, hequal⟩
    obtain ⟨row, hrow⟩ := (insertedOrder_iff "w" (validOrder_eq_some htwo).2.1).mpr
      (chTakes_orderDelivery (by decide) (by decide))
    obtain ⟨hkey, hversion, hrefunded⟩ := insertedOrder_row (validOrder_eq_some htwo).2.1 hrow
    have hread : (handled exampleEngine exampleHashes noStores
        (orderDelivery "refunded" "2" true)).chOrderOf ((orderPlan "refunded" 2).key "w") =
          some row := by
      rw [chOrderOf_handled htwo rfl noStores hrow, if_pos ⟨hkey, newest_noStores _ _⟩]
    have hpaid := (equal_committed_iff (hone "paid" true) rfl hfirst).mp (Runs.Always.head hequal)
    cases (chOrderOf_committed (hone "paid" true) rfl _).mp hpaid with
    | inl htakes =>
      have hle := htakes.2 row (Versions.mem_of_newestOf hread).1 hkey
      rw [hversion] at hle
      exact absurd hle (by decide)
    | inr hsame =>
      obtain ⟨row', hread', hcarries⟩ := hsame
      obtain rfl : row = row' := Option.some.inj (hread.symm.trans hread')
      have hstatus := hrefunded.financialStatus.symm.trans hcarries.financialStatus
      exact absurd (Json.str.inj hstatus) (by decide)

/-- Deliveries in order, with both databases up. -/
theorem deliveries_in_order :
    Runs.Allowed (handled exampleEngine exampleHashes) (Settled exampleEngine exampleHashes)
        noStores [orderDelivery "paid" "1" true] ∧
      Runs.Always (handled exampleEngine exampleHashes) (Equal exampleEngine) noStores
        [orderDelivery "paid" "1" true] := by
  refine (deliveries_iff (equal_noStores exampleEngine) _).mpr ⟨?_, trivial⟩
  intro workspaceId plan hvalid
  rw [validOrder_orderDelivery (versionOf_timestamp (by decide : "1" ≠ "") bigInt_one)] at hvalid
  cases hvalid
  change _ ∨ _
  exact Or.inl ⟨chTakes_orderDelivery (by decide) (by decide), newest_noStores _ _⟩

end BrainV2.Realtime
