import BrainV2.Analytics.Facts
import BrainV2.Connectors.Normalizers
import BrainV2.Lib.Dict

/-!
# Syncing a connector

* `shopifyFacts`: the facts of a pull;
* `upsertOrder`, `upsertLineItem`, `upsertProduct`, `upsertAdSpend`: the statements, each on its
  table;
* `syncConnector`: a sync, and what is stored after it;
* `Step`, `run`: syncs one after another, with what happens to the tables between them;
* `unnamed_run`: no sync stores the product of a line;
* `Synced.costMu`: the cost of the product that a line names;
* `CogsCarried`: the cost of goods is that of these products;
* `cogsCarried_iff`: which is so only when none of them has a cost.
-/

namespace BrainV2.Connectors

open Js (Engine Result)
open Py (Date)
open Sql (Timestamp)
open Wrapping (Fits)

/-! ### Pulls -/

structure AdSpendFact where
  vendor : String
  campaignId : String
  campaignName : Option String
  spendDate : String
  spendMu : Int
  impressions : Int
  clicks : Int
  currencyCode : String

structure PulledFacts where
  orders : List OrderFact
  lineItems : List LineItemFact
  products : List ProductFact
  adSpend : List AdSpendFact

inductive SyncFailure where
  /-- A `ConnectorError` -/
  | connector (message : String)
  | other

def SyncFailure.message : SyncFailure → String
  | connector message => message
  | other => "Connector sync failed."

/-- What `fetchShopify` returns. -/
structure ShopifyPull where
  orders : List ShopifyOrderNode
  products : List ShopifyProductNode

/-- Whatever a normalizer throws is no `ConnectorError`. -/
def thrown {β : Type} : Result β → Except SyncFailure β
  | .ok b => .ok b
  | .error _ => .error .other

/-- `salt` is what `getOrCreateWorkspaceSalt` answers. -/
def shopifyFacts (engine : Engine) (hashes : Hashes) (identityStitcher : Option String)
    (salt : Except SyncFailure (List UInt8)) (pull : ShopifyPull) :
    Except SyncFailure PulledFacts := do
  let workspaceSalt ← if identityStitcher = some "true" then salt.map some else .ok none
  let normalized ← thrown <| pull.orders.mapM fun node =>
    normalizeShopifyOrder engine hashes identityStitcher node workspaceSalt
  .ok {
    orders := normalized.map (·.order)
    lineItems := normalized.flatMap (·.lineItems)
    products := pull.products.map normalizeShopifyProduct
    adSpend := [] }

/-! ### Statements -/

/-- How PostgreSQL reads the texts of its types. -/
structure PgInput where
  timestamptz : String → Option Timestamp
  date : String → Option Date

section

variable {α : Type}

/-- `INSERT ... ON CONFLICT DO UPDATE` -/
def upsert (conflicts : α → Bool) (row : α) (update : α → α) (rows : List α) : List α :=
  if rows.any conflicts then rows.map fun r => if conflicts r then update r else r
  else rows ++ [row]

theorem forall_mem_upsert {P : α → Prop} {conflicts : α → Bool} {row : α} {update : α → α}
    {rows : List α} (hrows : ∀ r ∈ rows, P r) (hrow : P row) (hupdate : ∀ r, P r → P (update r)) :
    ∀ r ∈ upsert conflicts row update rows, P r := by
  rw [upsert]
  split
  · rw [List.forall_mem_map]
    intro r hr
    split
    · exact hupdate r (hrows r hr)
    · exact hrows r hr
  · intro r hr
    cases List.mem_append.mp hr with
    | inl hold => exact hrows r hold
    | inr hnew => rwa [List.mem_singleton.mp hnew]

end

/-- A parameter of a `bigint` column; one that does not fit fails the statement. -/
def bigint (n : Int) : Option Int64 := if Fits n then some (Int64.ofInt n) else none

/-- A parameter of a `text` column. -/
def columnText : Json → Option String
  | .str text => some text
  | _ => none

def timestampColumn (input : PgInput) (j : Json) : Option (Option Timestamp) :=
  match columnText j with
  | none => some none
  | some text => (input.timestamptz text).map some

def orderRow (input : PgInput) (o : OrderFact) : Option Analytics.OrderFact := do
  let grossSalesMu ← bigint o.grossSalesMu
  let totalDiscountMu ← bigint o.totalDiscountMu
  let totalTaxMu ← bigint o.totalTaxMu
  let shippingMu ← bigint o.shippingMu
  let processedAt ← timestampColumn input o.processedAt
  let cancelledAt ← timestampColumn input o.cancelledAt
  some {
    vendor := o.vendor
    vendorOrderId := o.vendorOrderId
    customerRef := o.customerRef
    grossSalesMu := grossSalesMu
    totalDiscountMu := totalDiscountMu
    totalTaxMu := totalTaxMu
    shippingMu := shippingMu
    currencyCode := o.currencyCode
    financialStatus := columnText o.financialStatus
    cancelledAt := cancelledAt
    processedAt := processedAt }

def upsertOrder (input : PgInput) (rows : List Analytics.OrderFact) (o : OrderFact) :
    Option (List Analytics.OrderFact) := do
  let row ← orderRow input o
  some (upsert (fun r => r.vendor = o.vendor ∧ r.vendorOrderId = o.vendorOrderId) row
    (fun _ => row) rows)

def lineKey (li : Analytics.LineItemFact) : String × String × String :=
  (li.vendor, li.vendorOrderId, li.vendorLineId)

/-- The product of the line is no column of the statement. -/
def upsertLineItem (rows : List Analytics.LineItemFact) (li : LineItemFact) :
    Option (List Analytics.LineItemFact) := do
  let quantity ← bigint li.quantity
  let unitPriceMu ← bigint li.unitPriceMu
  let title := columnText li.title
  some (upsert (fun r => lineKey r = (li.vendor, li.vendorOrderId, li.vendorLineId))
    ⟨li.vendor, li.vendorOrderId, li.vendorLineId, none, title, quantity, unitPriceMu⟩
    (fun r => { r with title := title, quantity := quantity, unitPriceMu := unitPriceMu }) rows)

def upsertProduct (rows : List Analytics.ProductFact) (p : ProductFact) :
    List Analytics.ProductFact :=
  upsert (fun r => r.vendor = p.vendor ∧ r.vendorProductId = p.vendorProductId)
    ⟨p.vendor, p.vendorProductId, p.title, none⟩ (fun r => { r with title := p.title }) rows

def adSpendRow (input : PgInput) (a : AdSpendFact) : Option Analytics.AdSpendFact := do
  let spendDate ← input.date a.spendDate
  let spendMu ← bigint a.spendMu
  let _ ← bigint a.impressions
  let _ ← bigint a.clicks
  some ⟨a.vendor, a.campaignId, spendDate, spendMu, a.currencyCode⟩

def upsertAdSpend (input : PgInput) (rows : List Analytics.AdSpendFact) (a : AdSpendFact) :
    Option (List Analytics.AdSpendFact) := do
  let row ← adSpendRow input a
  some (upsert (fun r => r.vendor = row.vendor ∧ r.campaignId = row.campaignId ∧
    r.spendDate = row.spendDate) row (fun _ => row) rows)

/-- The statements of one transaction. -/
def writeFacts (input : PgInput) (facts : Analytics.Facts) (pulled : PulledFacts) :
    Option Analytics.Facts := do
  let orders ← pulled.orders.foldlM (upsertOrder input) facts.orders
  let lineItems ← pulled.lineItems.foldlM upsertLineItem facts.lineItems
  let adSpend ← pulled.adSpend.foldlM (upsertAdSpend input) facts.adSpend
  some {
    orders := orders
    lineItems := lineItems
    products := pulled.products.foldl upsertProduct facts.products
    adSpend := adSpend }

/-! ### A sync -/

inductive ConnectorStatus where
  | notConnected
  | connected
  | tokenExpired
  | error
  | disconnected
deriving DecidableEq

structure Connection where
  status : ConnectorStatus
  lastSyncAt : Option Timestamp
  lastSyncError : Option String

structure Database where
  connection : Option Connection
  facts : Analytics.Facts

inductive SyncStatus where
  | synced
  | notConnected
  | error
deriving DecidableEq

structure SyncResult where
  status : SyncStatus
  ordersSynced : Nat
  lineItemsSynced : Nat
  productsSynced : Nat
  adRowsSynced : Nat
  lastSyncAt : Option Timestamp
  error : Option String

/-- `{ ...empty, status, error }` -/
def SyncResult.without (status : SyncStatus) (error : Option String) : SyncResult :=
  ⟨status, 0, 0, 0, 0, none, error⟩

inductive CustodyRead where
  | token
  | notFound
  | failed (failure : SyncFailure)

/-- What a sync meets: the credential, the facts of the pull, the clock, and whether the
transaction goes through. -/
structure SyncAttempt where
  credential : CustodyRead
  pulled : Except SyncFailure PulledFacts
  now : Timestamp
  commits : Bool

def noCredential : String := "No credential on record for this connector."

def restoreConnected (db : Database) (error : String) : Database :=
  { db with connection := db.connection.map fun conn =>
      { conn with status := .connected, lastSyncError := some (String.ofList (error.toList.take 500)) } }

def failSync (db : Database) (message : String) : SyncResult × Database :=
  (.without .error (some message), restoreConnected db message)

/-- The last part of `syncConnector`, in one transaction. -/
def storePulled (input : PgInput) (attempt : SyncAttempt) (pulled : PulledFacts) (db : Database) :
    SyncResult × Database :=
  match if attempt.commits then writeFacts input db.facts pulled else none with
  | none => failSync db SyncFailure.other.message
  | some facts =>
    ({ status := .synced
       ordersSynced := pulled.orders.length
       lineItemsSynced := pulled.lineItems.length
       productsSynced := pulled.products.length
       adRowsSynced := pulled.adSpend.length
       lastSyncAt := some attempt.now
       error := none },
      { connection := db.connection.map fun _ => ⟨.connected, some attempt.now, none⟩
        facts := facts })

def syncConnector (input : PgInput) (attempt : SyncAttempt) (db : Database) :
    SyncResult × Database :=
  if db.connection.map (·.status) ≠ some .connected then (.without .notConnected none, db)
  else
    match attempt.credential with
    | .notFound => failSync db noCredential
    | .failed failure => failSync db failure.message
    | .token =>
      match attempt.pulled with
      | .error failure => failSync db failure.message
      | .ok pulled => storePulled input attempt pulled db

/-! ### Syncs and costs, in any order -/

/-- The code around a sync. -/
structure World where
  engine : Engine
  hashes : Hashes
  input : PgInput

/-- A sync of a Shopify connection, as it comes. -/
structure ShopifyAttempt where
  credential : CustodyRead
  fetched : Except SyncFailure ShopifyPull
  identityStitcher : Option String
  salt : Except SyncFailure (List UInt8)
  now : Timestamp
  commits : Bool

def ShopifyAttempt.attempt (world : World) (a : ShopifyAttempt) : SyncAttempt where
  credential := a.credential
  pulled := do
    let pull ← a.fetched
    shopifyFacts world.engine world.hashes a.identityStitcher a.salt pull
  now := a.now
  commits := a.commits

inductive Step where
  | sync (a : ShopifyAttempt)
  /-- The connection is made or taken away. -/
  | connect (connection : Option Connection)
  | assignCosts (cost : Analytics.ProductFact → Option Int64)

/-- The lines of a pull by their keys, with the products they name. -/
def namedProducts (pull : ShopifyPull) : List ((String × String × String) × Option String) :=
  pull.orders.flatMap fun node => node.indexedLines.map fun ln =>
    (("SHOPIFY", node.vendorOrderId, ln.1.vendorLineId node.vendorOrderId ln.2), ln.1.productId)

/-- What is stored, and the product that each line named when it was last synced. -/
structure Synced where
  db : Database
  named : List ((String × String × String) × Option String)

/-- Empty tables, and a connection. -/
def Synced.start (connection : Option Connection) : Synced := ⟨⟨connection, ⟨[], [], [], []⟩⟩, []⟩

/-- The product that a line names. -/
def Synced.productOf (s : Synced) (li : Analytics.LineItemFact) : Option String :=
  (s.named.lookup (lineKey li)).join

def recordNamed (a : ShopifyAttempt) (result : SyncResult)
    (named : List ((String × String × String) × Option String)) :
    List ((String × String × String) × Option String) :=
  match result.status, a.fetched with
  | .synced, .ok pull => (namedProducts pull).foldl (fun d entry => Dict.set d entry.1 entry.2) named
  | _, _ => named

def step (world : World) (s : Synced) : Step → Synced
  | .sync a =>
    let out := syncConnector world.input (a.attempt world) s.db
    ⟨out.2, recordNamed a out.1 s.named⟩
  | .connect connection => { s with db := { s.db with connection := connection } }
  | .assignCosts cost =>
    { s with db := { s.db with facts := { s.db.facts with
        products := s.db.facts.products.map fun p => { p with costMu := cost p } } } }

def run (world : World) (s : Synced) (steps : List Step) : Synced := steps.foldl (step world) s

/-! ### No line has a product -/

/-- No line is stored with a product. -/
def Unnamed (facts : Analytics.Facts) : Prop := ∀ li ∈ facts.lineItems, li.vendorProductId = none

theorem foldlM_upsertLineItem {pulled : List LineItemFact}
    {rows rows' : List Analytics.LineItemFact} (h : pulled.foldlM upsertLineItem rows = some rows')
    (hrows : ∀ li ∈ rows, li.vendorProductId = none) : ∀ li ∈ rows', li.vendorProductId = none := by
  induction pulled generalizing rows with
  | nil =>
    cases h
    exact hrows
  | cons li pulled ih =>
    rw [List.foldlM_cons] at h
    obtain ⟨next, hnext, hrest⟩ := Option.bind_eq_some_iff.mp h
    apply ih hrest
    obtain ⟨quantity, -, hquantity⟩ := Option.bind_eq_some_iff.mp hnext
    obtain ⟨unitPriceMu, -, hprice⟩ := Option.bind_eq_some_iff.mp hquantity
    cases hprice
    exact forall_mem_upsert hrows rfl fun _ hr => hr

theorem unnamed_writeFacts {input : PgInput} {facts facts' : Analytics.Facts} {pulled : PulledFacts}
    (h : writeFacts input facts pulled = some facts') (hfacts : Unnamed facts) : Unnamed facts' := by
  obtain ⟨orders, -, h⟩ := Option.bind_eq_some_iff.mp h
  obtain ⟨lineItems, hlines, h⟩ := Option.bind_eq_some_iff.mp h
  obtain ⟨adSpend, -, h⟩ := Option.bind_eq_some_iff.mp h
  cases h
  exact foldlM_upsertLineItem hlines hfacts

/-- A sync leaves the facts as they are, or writes those of the pull. -/
theorem syncConnector_facts (input : PgInput) (attempt : SyncAttempt) (db : Database) :
    (syncConnector input attempt db).2.facts = db.facts ∨
      ∃ pulled, writeFacts input db.facts pulled = some (syncConnector input attempt db).2.facts := by
  unfold syncConnector
  split
  · exact Or.inl rfl
  · cases attempt.credential with
    | notFound => exact Or.inl rfl
    | failed failure => exact Or.inl rfl
    | token =>
      cases attempt.pulled with
      | error failure => exact Or.inl rfl
      | ok pulled =>
        simp only [storePulled]
        cases attempt.commits with
        | false => exact Or.inl rfl
        | true =>
          simp only [if_true]
          cases hwrite : writeFacts input db.facts pulled with
          | none => exact Or.inl rfl
          | some facts => exact Or.inr ⟨pulled, hwrite⟩

theorem unnamed_step (world : World) {s : Synced} (next : Step) (h : Unnamed s.db.facts) :
    Unnamed (step world s next).db.facts := by
  cases next with
  | sync a =>
    cases syncConnector_facts world.input (a.attempt world) s.db with
    | inl hsame =>
      rw [step, Unnamed, hsame]
      exact h
    | inr hwrites =>
      obtain ⟨pulled, hwrite⟩ := hwrites
      exact unnamed_writeFacts hwrite h
  | connect connection => exact h
  | assignCosts cost => exact h

theorem unnamed_run (world : World) (steps : List Step) {s : Synced} (h : Unnamed s.db.facts) :
    Unnamed (run world s steps).db.facts := by
  induction steps generalizing s with
  | nil => exact h
  | cons next steps ih => exact ih (unnamed_step world next h)

/-! ## The cost of what was synced -/

section

open Analytics (markupFits readCogs)
open Sql (midnight juneDay)

namespace Synced

variable (s : Synced)

/-- The row of the product that a line names. -/
def product (li : Analytics.LineItemFact) : Option Analytics.ProductFact :=
  (s.productOf li).bind fun id =>
    s.db.facts.products.find? fun pf => pf.vendor = li.vendor ∧ pf.vendorProductId = id

/-- The cost of this product, where it is positive. -/
def costMu (li : Analytics.LineItemFact) : Int :=
  max 0 (((s.product li).bind (·.costMu)).getD 0).toInt

/-- What the synced lines cost by their products. -/
def costOfLines (markupBp : Int32) : Int :=
  (s.db.facts.lineItems.map fun li =>
    (li.quantity.toInt * s.costMu li * (10000 + markupBp.toInt)).tdiv 10000).sum

def linesWithCost : Nat := (s.db.facts.lineItems.filter fun li => 0 < s.costMu li).length

/-- The cost of goods and its coverage are those of the products that the lines name. -/
def CogsCarried (markupBp : Int32) : Prop :=
  ∃ r, readCogs (.markup markupBp) s.db.facts none = .ok r ∧
    r.cogsMu = s.costOfLines markupBp ∧ r.coveredLines = s.linesWithCost

variable {s} {markupBp : Int32}

theorem costOfLines_eq_zero (h : ∀ li ∈ s.db.facts.lineItems, ¬ 0 < s.costMu li) :
    s.costOfLines markupBp = 0 := by
  have hzero : ∀ li ∈ s.db.facts.lineItems,
      (li.quantity.toInt * s.costMu li * (10000 + markupBp.toInt)).tdiv 10000 = 0 := by
    intro li hli
    have hcost : s.costMu li = 0 := le_antisymm (not_lt.mp (h li hli)) (le_max_left _ _)
    simp [hcost]
  rw [costOfLines, List.map_congr_left hzero]
  simp

theorem linesWithCost_eq_zero :
    s.linesWithCost = 0 ↔ ∀ li ∈ s.db.facts.lineItems, ¬ 0 < s.costMu li := by
  rw [linesWithCost, List.length_eq_zero_iff, List.filter_eq_nil_iff]
  simp

theorem carried_of_unnamed (h : Unnamed s.db.facts) : s.CogsCarried markupBp ↔
    markupFits (.markup markupBp) ∧ ∀ li ∈ s.db.facts.lineItems, ¬ 0 < s.costMu li := by
  constructor
  · rintro ⟨r, hread, -, hcovered⟩
    by_cases hmarkup : markupFits (.markup markupBp)
    · rw [Analytics.readCogs_unnamed h hmarkup] at hread
      cases hread
      exact ⟨hmarkup, linesWithCost_eq_zero.mp hcovered.symm⟩
    · rw [readCogs, if_neg hmarkup] at hread
      cases hread
  · rintro ⟨hmarkup, hcosts⟩
    exact ⟨_, Analytics.readCogs_unnamed h hmarkup, (costOfLines_eq_zero hcosts).symm,
      (linesWithCost_eq_zero.mpr hcosts).symm⟩

end Synced

theorem cogsCarried_iff (world : World) (connection : Option Connection) (steps : List Step)
    (markupBp : Int32) :
    (run world (.start connection) steps).CogsCarried markupBp ↔
      markupFits (.markup markupBp) ∧
        ∀ li ∈ (run world (.start connection) steps).db.facts.lineItems,
          ¬ 0 < (run world (.start connection) steps).costMu li :=
  Synced.carried_of_unnamed (unnamed_run world steps (fun _ h => nomatch h))

/-! ### A product that costs 4 -/

/-- An order of two pieces. -/
def twoPieces : ShopifyOrderNode :=
  { id := some "gid://shopify/Order/1"
    name := some "#1"
    totalPriceSet := none
    subtotalPriceSet := some ⟨some ⟨some "20.00", some "INR"⟩⟩
    totalTaxSet := none
    totalDiscountsSet := none
    totalShippingPriceSet := none
    currencyCode := some "INR"
    displayFinancialStatus := some "PAID"
    displayFulfillmentStatus := none
    processedAt := none
    cancelledAt := none
    paymentGatewayNames := none
    customer := none
    shippingAddress := none
    lineItems := some ⟨some [⟨some {
      id := some "gid://shopify/LineItem/1"
      title := none
      quantity := some (Binary64.ofInt 2)
      sku := none
      originalUnitPriceSet := some ⟨some ⟨some "10.00", some "INR"⟩⟩
      variant := some ⟨some ⟨some "gid://shopify/Product/1"⟩⟩ }⟩]⟩ }

def pullOfTwoPieces : ShopifyAttempt where
  credential := .token
  fetched := .ok ⟨[twoPieces], [⟨some "gid://shopify/Product/1", none, none, none⟩]⟩
  identityStitcher := none
  salt := .ok []
  now := midnight (juneDay 10)
  commits := true

def plainWorld : World where
  engine := ⟨id, id, fun _ => none, fun _ => ""⟩
  hashes := ⟨id, fun _ => id⟩
  input := ⟨fun _ => none, fun _ => none⟩

/-- The order is synced with its product, which is given a cost. -/
def costedSteps : List Step := [.sync pullOfTwoPieces, .assignCosts fun _ => some 400]

/-- The cost of goods is 0, where two pieces cost 8. -/
theorem cost_of_two_pieces_lost : ¬ ∀ world connection steps markupBp,
    (run world (.start connection) steps).CogsCarried markupBp := by
  intro h
  have hunnamed : Unnamed (run plainWorld (.start (some ⟨.connected, none, none⟩))
      costedSteps).db.facts := unnamed_run plainWorld costedSteps (fun _ h => nomatch h)
  have hcosts := ((Synced.carried_of_unnamed hunnamed).mp (h _ _ _ 0)).2
  have hnone := Synced.linesWithCost_eq_zero.mpr hcosts
  revert hnone
  decide +kernel

end

end BrainV2.Connectors
