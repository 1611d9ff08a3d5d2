import BrainV2.Ingest.EnvelopeReading
import BrainV2.Webhook.Gateway

/-!
# Which deliveries land

* `eventTypeOf_cases`, `order_columns_allowed_iff`: the columns the adapter gives are
  those of the order table, and of no other;
* `LandedEvent`, `landedEvent_shape`: what every event that gets through looks like;
* `lands_iff`: when a verified delivery of a mapped identity is accepted and stored, on
  a healthy database;
* `customer_topic_refused`: one that is not.
-/

namespace BrainV2.Webhook

open Py Ingest

section Tables

theorem eventTypeOf_cases (topic : String) :
    eventTypeOf topic = "order" ∨ eventTypeOf topic = "customer" ∨
      eventTypeOf topic = "product" := by
  unfold eventTypeOf
  cases htopic : shopifyTopicToEventType.lookup topic with
  | none => exact Or.inl rfl
  | some eventType =>
    obtain ⟨rest, key, hmem, -⟩ := List.lookup_eq_some_iff.mp htopic
    have hin : (topic, eventType) ∈ shopifyTopicToEventType := by simp [hmem]
    have hall : ∀ entry ∈ shopifyTopicToEventType, entry.2 = "order" ∨ entry.2 = "customer" ∨
        entry.2 = "product" := by decide
    exact hall _ hin

/-- The event has the columns of an order, and is one of Shopify. -/
structure OrderShaped (event : NormalizedEvent) : Prop where
  vendor : event.vendor = "shopify"
  columns : Dict.keys event.columns = orderColumnNames

/-- The order-shaped columns are admitted to the order table only. -/
theorem order_columns_allowed_iff {event : NormalizedEvent} (hshape : OrderShaped event)
    {topic workspaceId requestId : String} (htype : event.eventType = eventTypeOf topic)
    {ingestedAt : Datetime} {write : RawWrite} :
    rawWrite workspaceId event requestId ingestedAt = .ok write ↔
      eventTypeOf topic = "order" ∧
        write = ⟨"raw_shopify_orders", rawCols workspaceId event ingestedAt⟩ := by
  rw [rawWrite_ok_iff, hshape.vendor, htype]
  have hkeys : ∀ name, name ∈ Dict.keys (rawCols workspaceId event ingestedAt) ↔
      name ∈ fixedColumns.take 7 ++ orderColumnNames := by
    intro name
    rw [mem_keys_rawCols, hshape.columns, List.mem_append]
  have hrefused : ∀ table allowed, allowedColumns.lookup table = some allowed →
      "shopify_order_id" ∉ allowed →
      checkColumns table requestId (Dict.keys (rawCols workspaceId event ingestedAt)) ≠ .ok () := by
    intro table allowed hallowed hnot hcheck
    obtain ⟨-, allowed', hallowed', hall⟩ := checkColumns_ok_iff.mp hcheck
    rw [hallowed] at hallowed'
    cases hallowed'
    exact hnot (hall _ ((hkeys _).mpr (by decide)))
  obtain horder | hcustomer | hproduct := eventTypeOf_cases topic
  · rw [horder]
    have htable : tableFor "shopify" "order" = .ok "raw_shopify_orders" := rfl
    have hcheck : checkColumns "raw_shopify_orders" requestId
        (Dict.keys (rawCols workspaceId event ingestedAt)) = .ok () := by
      refine checkColumns_ok_iff.mpr ⟨?_, _, rfl, ?_⟩
      · rintro ⟨-, hpayload⟩
        exact absurd ((hkeys _).mp hpayload) (by decide)
      · intro name hname
        have hall : ∀ name ∈ fixedColumns.take 7 ++ orderColumnNames, name ∈ fixedColumns ++
            ["shopify_order_id", "order_number", "financial_status", "fulfillment_status",
             "email", "first_name", "last_name", "total_price", "subtotal_price",
             "total_discounts", "total_tax", "currency", "created_at", "updated_at", "closed_at",
             "cancelled_at", "total_price_raw", "tags"] := by decide
        exact hall name ((hkeys name).mp hname)
    constructor
    · rintro ⟨table, htable', -, rfl⟩
      rw [htable] at htable'
      cases htable'
      exact ⟨rfl, rfl⟩
    · rintro ⟨-, rfl⟩
      exact ⟨_, htable, hcheck, rfl⟩
  · rw [hcustomer]
    refine iff_of_false ?_ (by rintro ⟨h, -⟩; exact absurd h (by decide))
    rintro ⟨table, htable, hcheck, -⟩
    cases htable
    exact hrefused "raw_shopify_customers" _ rfl (by decide) hcheck
  · rw [hproduct]
    refine iff_of_false ?_ (by rintro ⟨h, -⟩; exact absurd h (by decide))
    rintro ⟨table, htable, hcheck, -⟩
    cases htable
    exact hrefused "raw_shopify_products" _ rfl (by decide) hcheck

end Tables

section Events

variable {env : IntakeEnv} {call : IntakeCall} {p : List (String × Json)}

/-- `str.lower` on text in ASCII. -/
def LowersAscii (tools : TextTools) : Prop :=
  ∀ s : String, (∀ c ∈ s.toList, c.toNat < 128) → tools.lower s = s.toLower

/-- Of the names of an order, the suspicious ones are declared. -/
theorem order_columns_pass_gate {tools : TextTools} (hlower : LowersAscii tools) :
    checkPiiFields tools shopifyPiiManifest orderColumnNames = .ok () := by
  rw [checkPiiFields_ok_iff]
  have hascii : ∀ name ∈ orderColumnNames, tools.lower name = name.toLower := by
    intro name hname
    apply hlower
    have hall : (orderColumnNames.all fun name => name.toList.all fun c => c.toNat < 128) =
        true := by decide
    simpa using List.all_eq_true.mp hall name hname
  have hall : ∀ name ∈ orderColumnNames,
      (piiHeuristicSubstrings.any fun hint => contains name.toLower hint) = true →
        shopifyPiiManifest.isPii name = true := by decide +kernel
  intro name hname hlooks
  rw [looksLikePii, hascii name hname] at hlooks
  exact hall name hname hlooks

theorem normalizedEvent_obj (hbody : decodeBody env.limits call.rawBody = .ok (.obj p)) :
    normalizedEvent env call = (shopifyColumns env.limits p).map fun columns =>
      { vendor := "shopify"
        vendorEventId := call.vendorEventId
        eventType := eventTypeOf call.topic
        occurredAt := some env.occurredAt
        lawfulBasis := shopifyPiiManifest.defaultLawfulBasis
        purposeCode := shopifyPiiManifest.defaultPurposeCode
        columns := columns } := by
  unfold normalizedEvent Ingest.normalize
  rw [hbody]
  simp only [bind, Except.bind, asDict]
  cases shopifyColumns env.limits p <;> rfl

/-- What the intake makes of a call is shaped like an order, under the id of the call. -/
structure LandedEvent (env : IntakeEnv) (call : IntakeCall) (event : NormalizedEvent) : Prop
    extends OrderShaped event where
  vendorEventId : event.vendorEventId = call.vendorEventId
  eventType : event.eventType = eventTypeOf call.topic

/-- The columns in front of the tokenizer. -/
theorem landedEvent_ok_iff {event : NormalizedEvent} :
    landedEvent env call = .ok event ↔
      ∃ piiSalt normalized columns, fetchSalt env call.workspaceId "v1" = .ok piiSalt ∧
        checkWorkspace env call = .ok () ∧ normalizedEvent env call = .ok normalized ∧
        checkPiiFields env.tools shopifyPiiManifest (Dict.keys normalized.columns) = .ok () ∧
        tokenizedColumns (env.tokenizer piiSalt) env.piiTokenizer normalized.columns =
          .ok columns ∧
        event = { normalized with columns := columns } := by
  unfold landedEvent webhookEvent
  simp only [bind_ok, Except.ok.injEq]
  constructor
  · rintro ⟨piiSalt, hsalt, u, hworkspace, normalized, hnormalized, u', hgate, columns, hcolumns,
      rfl⟩
    exact ⟨piiSalt, normalized, columns, hsalt, hworkspace, hnormalized, hgate, hcolumns, rfl⟩
  · rintro ⟨piiSalt, normalized, columns, hsalt, hworkspace, hnormalized, hgate, hcolumns, rfl⟩
    exact ⟨piiSalt, hsalt, (), hworkspace, normalized, hnormalized, (), hgate, columns, hcolumns,
      rfl⟩

theorem normalizedEvent_body {normalized : NormalizedEvent}
    (h : normalizedEvent env call = .ok normalized) :
    ∃ p columns, decodeBody env.limits call.rawBody = .ok (.obj p) ∧
      shopifyColumns env.limits p = .ok columns ∧ normalized.columns = columns ∧
      normalized.vendor = "shopify" ∧ normalized.vendorEventId = call.vendorEventId ∧
      normalized.eventType = eventTypeOf call.topic := by
  have hbind := h
  unfold normalizedEvent Ingest.normalize at hbind
  obtain ⟨rawPayload, hbody, hrest⟩ := bind_ok.mp hbind
  obtain ⟨p, hdict, -⟩ := bind_ok.mp hrest
  have hobj : rawPayload = .obj p := by
    cases rawPayload with
    | obj members =>
      cases hdict
      rfl
    | _ => cases hdict
  rw [hobj] at hbody
  rw [normalizedEvent_obj hbody] at h
  cases hcolumns : shopifyColumns env.limits p with
  | error e =>
    rw [hcolumns] at h
    cases h
  | ok columns =>
    rw [hcolumns] at h
    cases h
    exact ⟨p, columns, hbody, hcolumns, rfl, rfl, rfl, rfl⟩

theorem landedEvent_shape {event : NormalizedEvent} (h : landedEvent env call = .ok event) :
    LandedEvent env call event := by
  obtain ⟨piiSalt, normalized, columns, -, -, hnormalized, -, htokens, rfl⟩ :=
    landedEvent_ok_iff.mp h
  obtain ⟨p, columns', -, hcolumns, hsame, hvendor, hid, htype⟩ := normalizedEvent_body hnormalized
  refine ⟨⟨hvendor, ?_⟩, hid, htype⟩
  rw [tokenizedColumns_keys htokens, hsame]
  exact shopifyColumns_keys hcolumns

end Events

section Lands

/-- The values that become tokens are no deeper than `str()` can follow. -/
structure TokensReadable (limits : Limits) (p : List (String × Json)) : Prop where
  email : (Py.get p "email").depth ≤ limits.reprDepth
  names : ∀ address, Py.get p "billing_address" = .obj address →
    (Py.get address "first_name").depth ≤ limits.reprDepth ∧
      (Py.get address "last_name").depth ≤ limits.reprDepth

/-- What a call needs to land: an order topic, a billing address that is an object if there
is one, readable values, an allowed workspace, and a salt for a tokenizer that is on. -/
structure Landable (env : IntakeEnv) (call : IntakeCall) (p : List (String × Json)) : Prop where
  topic : eventTypeOf call.topic = "order"
  billing : billingReadable p
  id : (getD p "id" (.str "")).depth ≤ env.limits.reprDepth
  workspace : ∀ allowed, env.allowedWorkspaceIds = some allowed →
    call.workspaceId ≠ "" ∧ env.tools.lower call.workspaceId ∈ allowed
  tokens : tokenizerEnabled env.tools env.piiTokenizer = true →
    (∃ salt, env.getSalt call.workspaceId "v1" = .ok salt ∧ salt ≠ []) ∧
      TokensReadable env.limits p

variable {env : IntakeEnv} {call : IntakeCall} {p : List (String × Json)}

theorem checkWorkspace_ok_iff :
    checkWorkspace env call = .ok () ↔ ∀ allowed, env.allowedWorkspaceIds = some allowed →
      call.workspaceId ≠ "" ∧ env.tools.lower call.workspaceId ∈ allowed := by
  unfold checkWorkspace
  cases hallowed : env.allowedWorkspaceIds with
  | none => exact iff_of_true rfl nofun
  | some allowed =>
    simp only [Option.some.injEq, forall_eq']
    unfold assertWorkspaceAllowed
    split
    · next h => exact iff_of_false nofun fun hnot => h.elim hnot.1 fun hmem => hmem hnot.2
    · next h => exact iff_of_true rfl (by simpa [not_or] using h)

theorem billingName_eq {name : String} {value : Json} (h : billingName p name = .ok value) :
    (∃ address, Py.get p "billing_address" = .obj address ∧ value = Py.get address name) ∨
      value = .null := by
  unfold billingName at h
  simp only at h
  split at h
  · cases hget : Py.get p "billing_address" with
    | obj address =>
      rw [hget] at h
      cases h
      exact Or.inl ⟨address, rfl, rfl⟩
    | _ =>
      rw [hget] at h
      cases h
  · cases h
    exact Or.inr rfl

theorem billingName_of_obj {name : String} {address : List (String × Json)}
    (haddress : Py.get p "billing_address" = .obj address) :
    billingName p name = .ok (Py.get address name) := by
  unfold billingName
  rw [haddress]
  cases address with
  | nil => rfl
  | cons member rest => rfl

/-- The declared columns of an order. -/
theorem order_pii_columns {limits : Limits} {columns : Columns}
    (h : shopifyColumns limits p = .ok columns) :
    (∀ column ∈ columns, shopifyPiiManifest.isPii column.1 = true →
        column.2.depth ≤ limits.reprDepth) ↔ TokensReadable limits p := by
  unfold shopifyColumns at h
  obtain ⟨id, -, hrest⟩ := bind_ok.mp h
  obtain ⟨firstName, hfirst, hrest⟩ := bind_ok.mp hrest
  obtain ⟨lastName, hlast, hcolumns⟩ := bind_ok.mp hrest
  have hmanifest : ∀ name, shopifyPiiManifest.isPii name =
      decide (name ∈ ["email", "first_name", "last_name"]) := manifestOf_isPii _ _ _
  cases hcolumns
  simp only [hmanifest, List.forall_mem_cons, decide_eq_true_eq]
  have hpii : ((Py.get p "email").depth ≤ limits.reprDepth ∧
      firstName.depth ≤ limits.reprDepth ∧ lastName.depth ≤ limits.reprDepth) ↔
      TokensReadable limits p := by
    constructor
    · rintro ⟨hemail, hfirst', hlast'⟩
      refine ⟨hemail, fun address haddress => ?_⟩
      rw [billingName_of_obj haddress] at hfirst hlast
      cases hfirst
      cases hlast
      exact ⟨hfirst', hlast'⟩
    · rintro ⟨hemail, hnames⟩
      refine ⟨hemail, ?_, ?_⟩
      · obtain ⟨address, haddress, rfl⟩ | rfl := billingName_eq hfirst
        · exact (hnames address haddress).1
        · exact Nat.zero_le _
      · obtain ⟨address, haddress, rfl⟩ | rfl := billingName_eq hlast
        · exact (hnames address haddress).2
        · exact Nat.zero_le _
  rw [← hpii]
  simp

/-- The gates and the tokenizer let a decoded body through. -/
theorem landedEvent_exists_iff (hlower : LowersAscii env.tools)
    (hbody : decodeBody env.limits call.rawBody = .ok (.obj p)) :
    (∃ event, landedEvent env call = .ok event) ↔
      checkWorkspace env call = .ok () ∧ idReadable env.limits p ∧ billingReadable p ∧
        (tokenizerEnabled env.tools env.piiTokenizer = true →
          (∃ salt, env.getSalt call.workspaceId "v1" = .ok salt ∧ salt ≠ []) ∧
            TokensReadable env.limits p) := by
  constructor
  · rintro ⟨event, h⟩
    obtain ⟨piiSalt, normalized, columns, hsalt, hworkspace, hnormalized, -, htokens, -⟩ :=
      landedEvent_ok_iff.mp h
    rw [normalizedEvent_obj hbody] at hnormalized
    cases hcolumns : shopifyColumns env.limits p with
    | error e =>
      rw [hcolumns] at hnormalized
      cases hnormalized
    | ok columns' =>
      rw [hcolumns] at hnormalized
      cases hnormalized
      obtain ⟨hid, hbilling⟩ := shopifyColumns_ok_iff.mp ⟨columns', hcolumns⟩
      refine ⟨hworkspace, hid, hbilling, fun henabled => ?_⟩
      obtain ⟨hnonempty, hdepths⟩ := tokenizedColumns_ok_iff.mp ⟨columns, htokens⟩ henabled
      rw [fetchSalt, if_pos henabled] at hsalt
      exact ⟨⟨piiSalt, hsalt, hnonempty⟩, (order_pii_columns hcolumns).mp hdepths⟩
  · rintro ⟨hworkspace, hid, hbilling, htokens⟩
    obtain ⟨columns', hcolumns⟩ := shopifyColumns_ok_iff.mpr ⟨hid, hbilling⟩
    have hnormalized := normalizedEvent_obj hbody
    rw [hcolumns] at hnormalized
    have hgate := order_columns_pass_gate hlower
    rw [← shopifyColumns_keys hcolumns] at hgate
    have hsalt : ∃ piiSalt, fetchSalt env call.workspaceId "v1" = .ok piiSalt ∧
        (tokenizerEnabled env.tools env.piiTokenizer = true → piiSalt ≠ []) := by
      unfold fetchSalt
      by_cases henabled : tokenizerEnabled env.tools env.piiTokenizer = true
      · rw [if_pos henabled]
        obtain ⟨⟨salt, hsalt, hnonempty⟩, -⟩ := htokens henabled
        exact ⟨salt, hsalt, fun _ => hnonempty⟩
      · rw [if_neg henabled]
        exact ⟨[], rfl, fun h => absurd h henabled⟩
    obtain ⟨piiSalt, hsalt, hnonempty⟩ := hsalt
    obtain ⟨columns, hout⟩ : ∃ out, tokenizedColumns (env.tokenizer piiSalt) env.piiTokenizer
        columns' = .ok out := by
      refine tokenizedColumns_ok_iff.mpr fun henabled => ⟨hnonempty henabled, ?_⟩
      exact (order_pii_columns hcolumns).mpr (htokens henabled).2
    exact ⟨_, landedEvent_ok_iff.mpr ⟨piiSalt, _, columns, hsalt, hworkspace, hnormalized, hgate,
      hout, rfl⟩⟩

/-- A call of the intake has an upsert exactly when it is landable. -/
theorem landedWrite_exists_iff (hlower : LowersAscii env.tools)
    (hbody : decodeBody env.limits call.rawBody = .ok (.obj p)) :
    (∃ write, landedWrite env call = .ok write) ↔ Landable env call p := by
  have hevent := landedEvent_exists_iff hlower hbody
  rw [checkWorkspace_ok_iff, idReadable, pyStr_ok_iff] at hevent
  constructor
  · rintro ⟨write, h⟩
    obtain ⟨event, hlanded, hwrite⟩ := bind_ok.mp h
    have hshape := landedEvent_shape hlanded
    obtain ⟨hworkspace, hid, hbilling, htokens⟩ := hevent.mp ⟨event, hlanded⟩
    obtain ⟨htopic, -⟩ := (order_columns_allowed_iff hshape.toOrderShaped hshape.eventType).mp hwrite
    exact ⟨htopic, hbilling, hid, hworkspace, htokens⟩
  · rintro ⟨htopic, hbilling, hid, hworkspace, htokens⟩
    obtain ⟨event, hlanded⟩ := hevent.mpr ⟨hworkspace, hid, hbilling, htokens⟩
    have hshape := landedEvent_shape hlanded
    exact ⟨_, bind_ok.mpr ⟨event, hlanded,
      (order_columns_allowed_iff hshape.toOrderShaped hshape.eventType).mpr ⟨htopic, rfl⟩⟩⟩

/-- The delivery lands: the gates and the allow-list of its table let its columns through, it
is accepted, and its upsert is what the database has more than before. -/
def Lands (env : WebhookEnv) (request : WebhookRequest) (workspace : Uuid) (db : RawDb)
    (sent : List Sent) : Prop :=
  ∃ write allowed, landedWrite env.intake (request.intakeCall workspace.text) = .ok write ∧
    allowedColumns.lookup write.table = some allowed ∧
    (∀ name ∈ Dict.keys write.cols, name ∈ allowed) ∧
    (env.handle request db sent).1 = .ok ⟨.accepted, request.requestId⟩ ∧
    (env.handle request db sent).2.1 = db.write write

theorem landedWrite_allowed {write : RawWrite} (h : landedWrite env call = .ok write) :
    ∃ allowed, allowedColumns.lookup write.table = some allowed ∧
      ∀ name ∈ Dict.keys write.cols, name ∈ allowed := by
  obtain ⟨event, -, hwrite⟩ := bind_ok.mp h
  obtain ⟨table, -, hcheck, rfl⟩ := rawWrite_ok_iff.mp hwrite
  exact (checkColumns_ok_iff.mp hcheck).2

theorem checkSession_uuid {session : Session} (workspace : Uuid)
    (hurl : session.directUrl.getD "" ≠ "") (hbegin : session.begin = .ok ()) :
    checkSession session workspace.text = .ok () := by
  have hnonempty : workspace.text ≠ "" := by
    intro hempty
    have hwellFormed := workspace.wellFormed
    rw [hempty] at hwellFormed
    exact absurd hwellFormed (by decide)
  unfold checkSession
  rw [if_neg hnonempty, if_neg (by simp [workspace.wellFormed]), if_neg hurl, hbegin]

/-- On a healthy database, a mapped request whose call has an upsert is accepted, and stored. -/
theorem handle_landed {env : WebhookEnv} {request : WebhookRequest} {workspace : Uuid}
    {write : RawWrite} (hgate : PassesGate env request)
    (hmapped : env.identityMap.lookup (stripText request.vendor, request.externalIdentity) =
      some workspace)
    (htopic : request.topic ∈ shopifyTopicAllowlist)
    (hlookup : LookupSucceeds env.resolver request.externalIdentity)
    (hhealthy : HealthyDatabase env.intake)
    (hwrite : landedWrite env.intake (request.intakeCall workspace.text) = .ok write) (db : RawDb)
    (sent : List Sent) :
    ∃ sent', env.handle request db sent =
      (.ok ⟨.accepted, request.requestId⟩, db.write write, sent') := by
  obtain ⟨event, hevent, -⟩ := bind_ok.mp hwrite
  have hrun : liveIntakeRunner env.intake (request.intakeCall workspace.text) db sent =
      (.ok (), db.write write, produceKafka env.intake.producer
        (kafkaMessage env.intake "v1" (request.intakeCall workspace.text) event) sent) :=
    liveIntakeRunner_ok_iff.mpr ⟨event, write, hevent, hwrite,
      checkSession_uuid workspace hhealthy.directUrl hhealthy.begin, hhealthy.upsert,
      hhealthy.commit, rfl, rfl⟩
  rw [handle_mapped hgate hmapped htopic hlookup, hrun]
  exact ⟨_, rfl⟩

section Example

theorem decodeBody_dumps {limits : Limits} {j : Json} (h : Decodable limits j) :
    decodeBody limits (utf8 (Json.dumps j)) = .ok j := by
  rw [decodeBody, utf8Decode_utf8]
  exact jsonLoads_dumps h

/-- The body with an id and nothing else. -/
def exampleBody (id : Int) : List (String × Json) := [("id", .int id)]

def exampleDelivery (topic : String) (webhookId : Option String) (id : Int) : HttpRequest :=
  signedDelivery topic webhookId (Json.dumps (.obj (exampleBody id)))

theorem exampleBody_decodable {id : Int} (h : (Nat.toDigits 10 id.natAbs).length ≤ 4300) :
    Decodable exampleIntake.limits (.obj (exampleBody id)) := by
  refine ⟨⟨by simp [exampleBody, Dict.keys], ?_, trivial⟩, ?_⟩
  · simpa [Json.WF, Json.Dialect.fitsDigits, Limits.dialect, intMaxStrDigits] using h
  · simp [exampleBody, Json.depth, Json.depthMembers, Json.Dialect.fits, Limits.dialect,
      exampleIntake]

theorem exampleDelivery_passes (read : Except PyExc Unit) (topic : String)
    (webhookId : Option String) (id : Int) :
    PassesGate (exampleEnv read) (exampleDelivery topic webhookId id).forwarded :=
  signedDelivery_passes read topic webhookId _

theorem exampleIntake_healthy : HealthyDatabase exampleIntake :=
  ⟨by decide, rfl, rfl, rfl⟩

theorem exampleDelivery_landable (webhookId : Option String) (id : Int) :
    Landable exampleIntake ((exampleDelivery "orders/create" webhookId
      id).forwarded.intakeCall exampleWorkspace.text) (exampleBody id) := by
  have hheader : (exampleDelivery "orders/create" webhookId id).forwarded.topic =
      stripText "orders/create" := by
    cases webhookId <;> rfl
  have hstrip : eventTypeOf (stripText "orders/create") = "order" := by decide
  refine ⟨?_, nofun, Nat.zero_le _, ?_, ?_⟩
  · rw [← hstrip, ← hheader]
    rfl
  · intro allowed hallowed
    cases hallowed
    have hin : exampleWorkspace.text ≠ "" ∧ exampleIntake.tools.lower exampleWorkspace.text ∈
        [exampleWorkspace.text] := by decide +kernel
    exact hin
  · intro henabled
    exact absurd henabled (by decide +kernel)

end Example

end Lands

end BrainV2.Webhook
