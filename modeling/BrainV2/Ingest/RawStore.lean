import BrainV2.Ingest.Envelope

/-!
# The raw landing tables

* `tableFor`, `allowedColumns`, `piiRawTables`: the static tables of the ingest path;
* `upsertEvent`: `_upsert_event`, its gates and its statement;
* `RawDb`: the database as the upserts it has committed, and `RawDb.rows`, what they leave;
* `rows_keys_nodup`, `mem_keys_rows_iff`: one row a key, of those that were written.

The session of a workspace in which they are written:

* `assertWorkspaceAllowed`: the gate on the workspaces that may be served;
* `isUuid`: the pattern a workspace id has to match;
* `withWorkspace`: a function run inside a transaction; what it does to the database
  is kept only by a commit, what it does outside is kept in any case.
-/

namespace BrainV2.Ingest

open Py

section Tables

def rawTableMap : List (String × List (String × String)) :=
  [("shopify",
    [("order", "raw_shopify_orders"), ("customer", "raw_shopify_customers"),
     ("product", "raw_shopify_products"), ("line_item", "raw_shopify_line_items")]),
   ("shiprocket", [("shipment", "raw_shiprocket_shipments")]),
   ("meta", [("ad_daily", "raw_meta_ads_daily")]),
   ("google", [("ad_daily", "raw_google_ads_daily")]),
   ("klaviyo", [("email_performance", "raw_klaviyo_email_performance")]),
   ("woocommerce", [("order", "raw_woocommerce_orders")]),
   ("unicommerce", [("product", "raw_unicommerce_products")])]

/-- The columns every raw table has. -/
def fixedColumns : List String :=
  ["workspace_id", "vendor_event_id", "event_type", "occurred_at", "lawful_basis",
   "purpose_code", "ingested_at", "vendor"]

def allowedColumns : List (String × List String) :=
  [("raw_shopify_orders", fixedColumns ++
    ["shopify_order_id", "order_number", "financial_status", "fulfillment_status", "email",
     "first_name", "last_name", "total_price", "subtotal_price", "total_discounts", "total_tax",
     "currency", "created_at", "updated_at", "closed_at", "cancelled_at", "total_price_raw",
     "tags"]),
   ("raw_shopify_customers", fixedColumns ++
    ["shopify_customer_id", "email", "first_name", "last_name", "orders_count",
     "total_spent_raw"]),
   ("raw_shopify_products", fixedColumns ++
    ["shopify_product_id", "title", "product_type", "status", "raw_payload"]),
   ("raw_shopify_line_items", fixedColumns ++
    ["shopify_order_id", "line_item_id", "product_id", "variant_id", "sku", "title", "quantity",
     "price_raw", "raw_payload"]),
   ("raw_shiprocket_shipments", fixedColumns ++
    ["shipment_id", "order_id", "status", "courier_name", "delivery_pincode", "delivery_city",
     "delivery_state", "raw_payload"]),
   ("raw_meta_ads_daily", fixedColumns ++
    ["campaign_id", "adset_id", "ad_id", "date_start", "date_stop", "impressions", "clicks",
     "spend_raw", "currency", "raw_payload"]),
   ("raw_google_ads_daily", fixedColumns ++
    ["campaign_id", "ad_group_id", "date_day", "impressions", "clicks", "cost_micros_raw",
     "currency", "raw_payload"]),
   ("raw_klaviyo_email_performance", fixedColumns ++
    ["campaign_id", "campaign_name", "date_day", "delivered", "unique_opens", "unique_clicks",
     "placed_order_count", "unsubscribe_count", "raw_payload"]),
   ("raw_woocommerce_orders", fixedColumns ++
    ["woo_order_id", "status", "customer_email", "customer_phone", "billing_first_name",
     "billing_last_name", "billing_city", "billing_state", "billing_postcode",
     "shipping_first_name", "shipping_last_name", "shipping_city", "shipping_state",
     "shipping_postcode", "total_raw", "currency", "raw_payload"]),
   ("raw_unicommerce_products", fixedColumns ++
    ["sku_code", "item_type_sku", "category", "mrp_raw", "raw_payload"])]

def piiRawTables : List String := ["raw_shopify_orders", "raw_shopify_customers"]

/-- `{s!r}` of a text. -/
def shown (s : String) : String := String.ofList (reprStr s)

def tableFor (vendor eventType : String) : Except PyExc String :=
  let tables := (rawTableMap.lookup vendor).getD []
  match tables.lookup eventType with
  | some table => .ok table
  | none => .error ⟨.valueError, "[ingest_batch] No raw table mapped for vendor=" ++
      shown vendor ++ " event_type=" ++ shown eventType ++ ". Add an entry to _RAW_TABLE_MAP."⟩

end Tables

section Rows

/-- A value bound to a parameter of the statement. -/
inductive RawValue where
  | json (j : Json)
  | time (d : Option Datetime)

abbrev RawCols := List (String × RawValue)

/-- The text a value has in a `text` or `uuid` column. -/
def RawValue.text : RawValue → String
  | .json (.str s) => s
  | .json j => Json.dumps j
  | .time none => ""
  | .time (some d) => d.isoformat

/-- One `INSERT … ON CONFLICT (workspace_id, vendor_event_id) DO UPDATE`. -/
structure RawWrite where
  table : String
  cols : RawCols

structure RawKey where
  table : String
  workspaceId : String
  vendorEventId : String
deriving DecidableEq

def columnText (cols : RawCols) (name : String) : String :=
  ((cols.lookup name).map RawValue.text).getD ""

/-- The table and the unique index of the conflict; a `uuid` is read in either case. -/
def RawWrite.key (write : RawWrite) : RawKey :=
  ⟨write.table, (columnText write.cols "workspace_id").toLower,
    columnText write.cols "vendor_event_id"⟩

abbrev RawRows := List (RawKey × RawCols)

/-- Every column of the statement is set; the others stay. -/
def RawRows.upsert (rows : RawRows) (write : RawWrite) : RawRows :=
  let old := (rows.lookup write.key).getD []
  Dict.set rows write.key (write.cols.foldl (fun row (name, value) => Dict.set row name value) old)

/-- The raw tables, as the upserts that were committed, the latest at the end. -/
structure RawDb where
  writes : List RawWrite

def RawDb.rows (db : RawDb) : RawRows := db.writes.foldl RawRows.upsert []

def RawDb.write (db : RawDb) (write : RawWrite) : RawDb := ⟨db.writes ++ [write]⟩

theorem rows_write (db : RawDb) (write : RawWrite) :
    (db.write write).rows = db.rows.upsert write := by
  simp [RawDb.rows, RawDb.write, List.foldl_append]

/-- The unique index: one row a key. -/
theorem rows_keys_nodup (db : RawDb) : (Dict.keys db.rows).Nodup := by
  unfold RawDb.rows
  have hstart : (Dict.keys ([] : RawRows)).Nodup := by simp [Dict.keys]
  generalize ([] : RawRows) = rows at hstart ⊢
  induction db.writes generalizing rows with
  | nil => exact hstart
  | cons write writes ih =>
    apply ih
    exact Dict.nodup_keys_set _ _ hstart

/-- Every upsert has left a row. -/
theorem mem_keys_rows_iff {db : RawDb} {key : RawKey} :
    key ∈ Dict.keys db.rows ↔ ∃ write ∈ db.writes, write.key = key := by
  have hfold : ∀ (writes : List RawWrite) (rows : RawRows),
      key ∈ Dict.keys (writes.foldl RawRows.upsert rows) ↔
        key ∈ Dict.keys rows ∨ ∃ write ∈ writes, write.key = key := by
    intro writes
    induction writes with
    | nil => simp
    | cons write writes ih =>
      intro rows
      rw [List.foldl_cons, ih, RawRows.upsert, Dict.mem_keys_set, or_assoc]
      simp [eq_comm]
  rw [RawDb.rows, hfold]
  simp [Dict.keys]

end Rows

section Upsert

/-- `cols`: the fixed columns, overlaid with those of the event. -/
def rawCols (workspaceId : String) (event : NormalizedEvent) (ingestedAt : Datetime) : RawCols :=
  event.columns.foldl (fun cols (name, value) => Dict.set cols name (.json value))
    [("workspace_id", .json (.str workspaceId)),
     ("vendor_event_id", .json (.str event.vendorEventId)),
     ("event_type", .json (.str event.eventType)),
     ("occurred_at", .time event.occurredAt),
     ("lawful_basis", .json (.str event.lawfulBasis)),
     ("purpose_code", .json (.str event.purposeCode)),
     ("ingested_at", .time (some ingestedAt))]

def rawPayloadForbidden (table requestId : String) : PyExc :=
  ⟨.valueError, "[_upsert_event] raw_payload is forbidden on PII-carrying table " ++ shown table ++
    " (DPDP: raw vendor JSON goes to the S3 archive, not JSONB). request_id=" ++
    shown requestId ++ ". warehouse-epic S4 LOW-1 gate."⟩

def noAllowlist (table requestId : String) : PyExc :=
  ⟨.valueError, "[_upsert_event] No column allowlist for table " ++ shown table ++
    " — refusing to interpolate unvalidated identifiers (SQLi defense-in-depth). Add an " ++
    "_ALLOWED_COLUMNS entry for it. request_id=" ++ shown requestId ++ "."⟩

def disallowedColumns (table requestId : String) (disallowed : List String) : PyExc :=
  ⟨.valueError, "[_upsert_event] Column(s) " ++
    String.ofList (reprText (.arr (disallowed.map .str))) ++ " not in allowlist for table " ++
    shown table ++ ". request_id=" ++ shown requestId ++
    ". CF-C3-SINGLE-PRIMITIVE-1 defense-in-depth gate."⟩

/-- The gates in front of the statement. -/
def checkColumns (table requestId : String) (names : List String) : Except PyExc Unit :=
  if table ∈ piiRawTables ∧ "raw_payload" ∈ names then .error (rawPayloadForbidden table requestId)
  else
    match allowedColumns.lookup table with
    | none => .error (noAllowlist table requestId)
    | some allowed =>
      match names.filter fun name => !decide (name ∈ allowed) with
      | [] => .ok ()
      | disallowed => .error (disallowedColumns table requestId disallowed)

/-- The statement that `_upsert_event` comes to, if no gate refuses the event. -/
def rawWrite (workspaceId : String) (event : NormalizedEvent) (requestId : String)
    (ingestedAt : Datetime) : Except PyExc RawWrite := do
  let table ← tableFor event.vendor event.eventType
  let cols := rawCols workspaceId event ingestedAt
  checkColumns table requestId (Dict.keys cols)
  .ok ⟨table, cols⟩

/-- `_upsert_event`, in a transaction; `answer` is what the database says to the statement.
The flag is `was_inserted`. -/
def upsertEvent (answer : Except PyExc Unit) (workspaceId : String) (event : NormalizedEvent)
    (requestId : String) (ingestedAt : Datetime) (db : RawDb) : Except PyExc (Bool × RawDb) :=
  match rawWrite workspaceId event requestId ingestedAt with
  | .error e => .error e
  | .ok write =>
    match answer with
    | .error e => .error e
    | .ok () => .ok ((db.rows.lookup write.key).isNone, db.write write)

theorem mem_keys_rawCols {workspaceId : String} {event : NormalizedEvent} {ingestedAt : Datetime}
    {name : String} :
    name ∈ Dict.keys (rawCols workspaceId event ingestedAt) ↔
      name ∈ fixedColumns.take 7 ∨ name ∈ Dict.keys event.columns := by
  unfold rawCols
  rw [Dict.mem_keys_foldl_set]
  rfl

/-- An event that brings no such column is stored under its workspace and its id. -/
theorem key_rawCols {workspaceId table : String} {event : NormalizedEvent} {ingestedAt : Datetime}
    (hworkspace : "workspace_id" ∉ Dict.keys event.columns)
    (hid : "vendor_event_id" ∉ Dict.keys event.columns) :
    (RawWrite.mk table (rawCols workspaceId event ingestedAt)).key =
      ⟨table, workspaceId.toLower, event.vendorEventId⟩ := by
  have hworkspace' : (rawCols workspaceId event ingestedAt).lookup "workspace_id" =
      some (.json (.str workspaceId)) := by
    unfold rawCols
    rw [Dict.lookup_foldl_set _ _ _ hworkspace]
    rfl
  have hid' : (rawCols workspaceId event ingestedAt).lookup "vendor_event_id" =
      some (.json (.str event.vendorEventId)) := by
    unfold rawCols
    rw [Dict.lookup_foldl_set _ _ _ hid]
    rfl
  simp only [RawWrite.key, columnText, hworkspace', hid']
  rfl

theorem rawWrite_ok_iff {workspaceId requestId : String} {event : NormalizedEvent}
    {ingestedAt : Datetime} {write : RawWrite} :
    rawWrite workspaceId event requestId ingestedAt = .ok write ↔
      ∃ table, tableFor event.vendor event.eventType = .ok table ∧
        checkColumns table requestId (Dict.keys (rawCols workspaceId event ingestedAt)) = .ok () ∧
        write = ⟨table, rawCols workspaceId event ingestedAt⟩ := by
  unfold rawWrite
  cases htable : tableFor event.vendor event.eventType with
  | error e => exact iff_of_false nofun (by rintro ⟨_, h, -⟩; cases h)
  | ok table =>
    simp only [bind, Except.bind]
    cases hcheck : checkColumns table requestId (Dict.keys (rawCols workspaceId event
        ingestedAt)) with
    | error e => exact iff_of_false nofun (by rintro ⟨_, h, h', -⟩; cases h; simp [hcheck] at h')
    | ok u =>
      simp only [Except.ok.injEq]
      constructor
      · rintro rfl
        exact ⟨table, rfl, hcheck, rfl⟩
      · rintro ⟨table', rfl, -, rfl⟩
        rfl

theorem checkColumns_ok_iff {table requestId : String} {names : List String} :
    checkColumns table requestId names = .ok () ↔
      ¬ (table ∈ piiRawTables ∧ "raw_payload" ∈ names) ∧
        ∃ allowed, allowedColumns.lookup table = some allowed ∧ ∀ name ∈ names, name ∈ allowed := by
  unfold checkColumns
  by_cases hpayload : table ∈ piiRawTables ∧ "raw_payload" ∈ names
  · rw [if_pos hpayload]
    exact iff_of_false nofun fun h => h.1 hpayload
  rw [if_neg hpayload]
  cases hallowed : allowedColumns.lookup table with
  | none => exact iff_of_false nofun (by rintro ⟨-, allowed, h, -⟩; cases h)
  | some allowed =>
    simp only
    cases hnames : names.filter fun name => !decide (name ∈ allowed) with
    | nil =>
      refine iff_of_true rfl ⟨hpayload, allowed, rfl, ?_⟩
      intro name hname
      have hnot := List.filter_eq_nil_iff.mp hnames name hname
      simpa using hnot
    | cons first rest =>
      refine iff_of_false nofun ?_
      rintro ⟨-, allowed', hsame, hall⟩
      cases hsame
      have hmem : first ∈ names.filter fun name => !decide (name ∈ allowed) := by simp [hnames]
      obtain ⟨hname, hfirst⟩ := List.mem_filter.mp hmem
      have hin := hall first hname
      simp [hin] at hfirst

theorem upsertEvent_ok_iff {answer : Except PyExc Unit} {workspaceId : String}
    {event : NormalizedEvent} {requestId : String} {ingestedAt : Datetime} {db db' : RawDb}
    {inserted : Bool} :
    upsertEvent answer workspaceId event requestId ingestedAt db = .ok (inserted, db') ↔
      ∃ write, rawWrite workspaceId event requestId ingestedAt = .ok write ∧ answer = .ok () ∧
        inserted = (db.rows.lookup write.key).isNone ∧ db' = db.write write := by
  unfold upsertEvent
  cases hwrite : rawWrite workspaceId event requestId ingestedAt with
  | error e => exact iff_of_false nofun (by rintro ⟨write, h, -⟩; cases h)
  | ok write =>
    cases answer with
    | error e => exact iff_of_false nofun (by rintro ⟨write, -, h, -⟩; cases h)
    | ok u =>
      simp only [Except.ok.injEq, Prod.mk.injEq]
      constructor
      · rintro ⟨rfl, rfl⟩
        exact ⟨write, rfl, trivial, rfl, rfl⟩
      · rintro ⟨write', rfl, -, rfl, rfl⟩
        exact ⟨rfl, rfl⟩

end Upsert

section

def workspaceNotAllowed (workspaceId : String) : PyExc :=
  ⟨.other "WorkspaceNotAllowedError" false,
    "[startup_gates] CF-C3-WORKSPACE-ALLOWLIST-1: workspace_id=" ++ shown workspaceId ++
      " is not in ALLOWED_WORKSPACE_IDS. Brain is Sugandh-Lok-only until WS-2 " ++
      "governance fires (CF-SEC-3). REFUSING to process this workspace."⟩

def assertWorkspaceAllowed (tools : TextTools) (workspaceId : String) (allowed : List String) :
    Except PyExc Unit :=
  if workspaceId = "" ∨ tools.lower workspaceId ∉ allowed then
    .error (workspaceNotAllowed workspaceId)
  else .ok ()

/-- `[0-9a-f]`, in either case. -/
def isHexDigit (c : Char) : Bool :=
  ('0' ≤ c && c ≤ '9') || ('a' ≤ c && c ≤ 'f') || ('A' ≤ c && c ≤ 'F')

/-- The groups of `_UUID_REGEX`. -/
def uuidGroups : List Nat := [8, 4, 4, 4, 12]

/-- Groups of digits with a dash between them; `$` lets one line feed follow. -/
def matchesGroups : List Nat → List Char → Bool
  | [], cs => cs == [] || cs == ['\n']
  | [n], cs => (cs.take n).all isHexDigit && (cs.take n).length == n &&
      matchesGroups [] (cs.drop n)
  | n :: groups, cs => (cs.take n).all isHexDigit && (cs.take n).length == n &&
      (cs.drop n).head? == some '-' && matchesGroups groups (cs.drop (n + 1))

/-- `_UUID_REGEX.match` -/
def isUuid (s : String) : Bool := matchesGroups uuidGroups s.toList

/-- What the server does with `COMMIT`: it may also commit while the client sees an
error. -/
inductive CommitAnswer where
  | committed
  | refused (e : PyExc)
  | unacknowledged (e : PyExc)

/-- What a transaction meets: the environment variable, and the answers to the statements
before and after the function. -/
structure Session where
  directUrl : Option String
  /-- `connect`, `BEGIN` and both `set_config`. -/
  begin : Except PyExc Unit
  commit : CommitAnswer
  rollback : Except PyExc Unit

def directUrlUnset : PyExc :=
  ⟨.other "RuntimeError" false, "[session_context] DIRECT_URL is not set — the RLS " ++
    "session-context primitive cannot initialise. All workspace-scoped queries require a " ++
    "direct (session-mode) connection string on :5432."⟩

def emptyWorkspace : PyExc :=
  ⟨.valueError, "[with_workspace] workspace_id must be a non-empty string"⟩

def invalidUuid (workspaceId : String) : PyExc :=
  ⟨.valueError, "[with_workspace] workspace_id is not a valid UUID: " ++
    String.ofList (reprStr workspaceId)⟩

/-- The checks in front of the transaction. -/
def checkSession (session : Session) (workspaceId : String) : Except PyExc Unit :=
  if workspaceId = "" then .error emptyWorkspace
  else if !isUuid workspaceId then .error (invalidUuid workspaceId)
  else if session.directUrl.getD "" = "" then .error directUrlUnset
  else session.begin

/-- `with_workspace`. The state of the database is `δ`, what else `fn` changes is `ω`. -/
def withWorkspace {α δ ω : Type} (session : Session) (workspaceId : String) (db : δ) (outside : ω)
    (fn : δ → ω → Except PyExc (α × δ) × ω) : Except PyExc α × δ × ω :=
  match checkSession session workspaceId with
  | .error e => (.error e, db, outside)
  | .ok () =>
    match fn db outside with
    | (.error e, outside') =>
      -- a failing ROLLBACK replaces the exception
      match session.rollback with
      | .error e' => (.error e', db, outside')
      | .ok () => (.error e, db, outside')
    | (.ok (value, db'), outside') =>
      match session.commit with
      | .committed => (.ok value, db', outside')
      | .refused e => (.error e, db, outside')
      | .unacknowledged e => (.error e, db', outside')

variable {α δ ω : Type} {session : Session} {workspaceId : String} {db : δ} {outside : ω}
  {fn : δ → ω → Except PyExc (α × δ) × ω}

/-- A value comes only out of a commit. -/
theorem withWorkspace_ok_iff {value : α} {db' : δ} {outside' : ω} :
    withWorkspace session workspaceId db outside fn = (.ok value, db', outside') ↔
      checkSession session workspaceId = .ok () ∧ fn db outside = (.ok (value, db'), outside') ∧
        session.commit = .committed := by
  unfold withWorkspace
  cases hcheck : checkSession session workspaceId with
  | error e => exact iff_of_false nofun (by rintro ⟨h, -⟩; cases h)
  | ok u =>
    cases hfn : fn db outside with
    | mk result outside'' =>
      cases result with
      | error e => cases session.rollback <;> simp
      | ok pair =>
        obtain ⟨value'', db''⟩ := pair
        cases session.commit <;> simp [and_assoc]

/-- When the call raises, the database is as it was, but for a commit that was not
acknowledged. -/
theorem withWorkspace_error {e : PyExc} {db' : δ} {outside' : ω}
    (h : withWorkspace session workspaceId db outside fn = (.error e, db', outside'))
    (hcommit : ∀ e', session.commit ≠ .unacknowledged e') : db' = db := by
  unfold withWorkspace at h
  cases hcheck : checkSession session workspaceId with
  | error e' =>
    simp only [hcheck, Prod.mk.injEq] at h
    exact h.2.1.symm
  | ok u =>
    simp only [hcheck] at h
    cases hfn : fn db outside with
    | mk result outside'' =>
      simp only [hfn] at h
      cases result with
      | error e' => cases hrollback : session.rollback <;> simp_all
      | ok pair =>
        cases hend : session.commit with
        | committed => simp [hend] at h
        | refused e' =>
          simp only [hend, Prod.mk.injEq] at h
          exact h.2.1.symm
        | unacknowledged e' => exact absurd hend (hcommit e')

end

end BrainV2.Ingest
