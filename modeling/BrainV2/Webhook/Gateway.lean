import BrainV2.Ingest.RawStore
import BrainV2.Ingest.Shopify
import BrainV2.Webhook.Servicer

/-!
# From the gateway to the raw table

The push intake:

* `webhookEvent`: what `receive_webhook` makes of a call before it touches the database;
* `Intake.receiveWebhook`: the upsert and the message;
* `liveIntakeRunner`: the salt, and the intake inside a workspace session;
* `liveIntakeRunner_ok_iff`: a call that comes back has upserted its event.

The way of a request to it:

* `resolveIdentityWorkspace`: the lookup of the workspace, which takes every failure for
  an identity that is not mapped;
* `WebhookEnv.handle`: the servicer with the repository's resolver and live intake;
* `webhookRoute`: the route of the gateway, from the request to the status;
* `handle_mapped`: what a verified request of a mapped identity comes to;
* `acknowledged_upserted_iff`: when a 2xx means that the event was upserted.
-/

namespace BrainV2.Webhook

open Py Ingest

def shopifyTopicToEventType : List (String × String) :=
  [("orders/create", "order"), ("orders/updated", "order"), ("orders/paid", "order"),
   ("orders/fulfilled", "order"), ("orders/cancelled", "order"),
   ("customers/create", "customer"), ("customers/update", "customer"),
   ("products/create", "product"), ("products/update", "product")]

def defaultEventType : String := "order"

def eventTypeOf (topic : String) : String :=
  (shopifyTopicToEventType.lookup topic).getD defaultEventType

/-- What a call of the intake meets: its configuration, three readings of the clock and
the answers of the outside. `producer` is the answer to the send, if there is a producer. -/
structure IntakeEnv where
  limits : Limits
  tools : TextTools
  hmac : Hmac
  allowedWorkspaceIds : Option (List String)
  piiTokenizer : Option String
  getSalt : String → String → Except PyExc (List UInt8)
  occurredAt : Datetime
  ingestedAt : Datetime
  rowIngestedAt : Datetime
  session : Session
  upsert : Except PyExc Unit
  producer : Option (Except PyExc Unit)

/-- `json.loads(raw_body.decode("utf-8"))` -/
def decodeBody (limits : Limits) (rawBody : List UInt8) : Except PyExc Json :=
  match utf8Decode rawBody with
  | none => .error ⟨.unicodeDecodeError, "'utf-8' codec can't decode"⟩
  | some text => jsonLoads limits text

def IntakeEnv.tokenizer (env : IntakeEnv) (piiWorkspaceSalt : List UInt8) : Tokenizer :=
  ⟨env.limits, env.tools, env.hmac, shopifyPiiManifest, piiWorkspaceSalt⟩

/-- The gate on the workspace. -/
def checkWorkspace (env : IntakeEnv) (call : IntakeCall) : Except PyExc Unit :=
  match env.allowedWorkspaceIds with
  | none => .ok ()
  | some allowed => assertWorkspaceAllowed env.tools call.workspaceId allowed

/-- The event as it comes out of the adapter. -/
def normalizedEvent (env : IntakeEnv) (call : IntakeCall) : Except PyExc NormalizedEvent := do
  let rawPayload ← decodeBody env.limits call.rawBody
  normalize env.limits {
    vendor := call.vendor
    vendorEventId := call.vendorEventId
    eventType := eventTypeOf call.topic
    occurredAt := some env.occurredAt
    rawPayload := rawPayload }

/-- The event that is written and sent: behind the gates and the tokenizer. -/
def webhookEvent (env : IntakeEnv) (piiWorkspaceSalt : List UInt8) (call : IntakeCall) :
    Except PyExc NormalizedEvent := do
  checkWorkspace env call
  let normalized ← normalizedEvent env call
  checkPiiFields env.tools shopifyPiiManifest (Dict.keys normalized.columns)
  let columns ← tokenizedColumns (env.tokenizer piiWorkspaceSalt) env.piiTokenizer
    normalized.columns
  .ok { normalized with columns := columns }

/-- The message `_produce_kafka` makes of the event. -/
def kafkaMessage (env : IntakeEnv) (piiSaltVersion : String) (call : IntakeCall)
    (event : NormalizedEvent) : Sent :=
  integrationMessage call.vendor call.workspaceId event env.ingestedAt call.requestId call.traceId
    piiSaltVersion

/-- A failing send is logged, and the call goes on. -/
def produceKafka (producer : Option (Except PyExc Unit)) (message : Sent) (sent : List Sent) :
    List Sent :=
  match producer with
  | some (.ok ()) => sent ++ [message]
  | _ => sent

/-- `receive_webhook`, with the connection of a session. -/
def Intake.receiveWebhook (env : IntakeEnv) (piiWorkspaceSalt : List UInt8)
    (piiSaltVersion : String) (call : IntakeCall) (db : RawDb) (sent : List Sent) :
    Except PyExc (Unit × RawDb) × List Sent :=
  match webhookEvent env piiWorkspaceSalt call with
  | .error e => (.error e, sent)
  | .ok event =>
    match upsertEvent env.upsert call.workspaceId event call.requestId env.rowIngestedAt db with
    | .error e => (.error e, sent)
    | .ok (_, db') =>
      (.ok ((), db'), produceKafka env.producer (kafkaMessage env piiSaltVersion call event) sent)

/-- The salt is fetched only for a tokenizer that is on. -/
def fetchSalt (env : IntakeEnv) (workspaceId piiSaltVersion : String) :
    Except PyExc (List UInt8) :=
  if tokenizerEnabled env.tools env.piiTokenizer then env.getSalt workspaceId piiSaltVersion
  else .ok []

/-- `_live_intake_runner` -/
def liveIntakeRunner (env : IntakeEnv) (call : IntakeCall) (db : RawDb) (sent : List Sent) :
    Except PyExc Unit × RawDb × List Sent :=
  match fetchSalt env call.workspaceId "v1" with
  | .error e => (.error e, db, sent)
  | .ok piiSalt =>
    withWorkspace env.session call.workspaceId db sent
      (Intake.receiveWebhook env piiSalt "v1" call)

/-- The event of a call with the salt it fetches. -/
def landedEvent (env : IntakeEnv) (call : IntakeCall) : Except PyExc NormalizedEvent := do
  let piiSalt ← fetchSalt env call.workspaceId "v1"
  webhookEvent env piiSalt call

/-- The upsert of a call's event. -/
def landedWrite (env : IntakeEnv) (call : IntakeCall) : Except PyExc RawWrite := do
  let event ← landedEvent env call
  rawWrite call.workspaceId event call.requestId env.rowIngestedAt

/-- The database of a call answers every statement and commits. -/
structure HealthyDatabase (env : IntakeEnv) : Prop where
  directUrl : env.session.directUrl.getD "" ≠ ""
  begin : env.session.begin = .ok ()
  upsert : env.upsert = .ok ()
  commit : env.session.commit = .committed

variable {env : IntakeEnv} {call : IntakeCall} {db db' : RawDb} {sent sent' : List Sent}

/-- What a call that comes back has done. -/
theorem liveIntakeRunner_ok_iff :
    liveIntakeRunner env call db sent = (.ok (), db', sent') ↔
      ∃ event write, landedEvent env call = .ok event ∧ landedWrite env call = .ok write ∧
        checkSession env.session call.workspaceId = .ok () ∧ env.upsert = .ok () ∧
        env.session.commit = .committed ∧ db' = db.write write ∧
        sent' = produceKafka env.producer (kafkaMessage env "v1" call event) sent := by
  unfold liveIntakeRunner landedWrite landedEvent
  cases hsalt : fetchSalt env call.workspaceId "v1" with
  | error e => exact iff_of_false nofun (by rintro ⟨_, _, h, -⟩; cases h)
  | ok piiSalt =>
    simp only [withWorkspace_ok_iff]
    unfold Intake.receiveWebhook
    simp only [bind, Except.bind]
    cases hevent : webhookEvent env piiSalt call with
    | error e => exact iff_of_false (by rintro ⟨-, h, -⟩; cases h) (by rintro ⟨_, _, h, -⟩; cases h)
    | ok event =>
      simp only
      constructor
      · rintro ⟨hcheck, hrun, hcommit⟩
        cases hupsert : upsertEvent env.upsert call.workspaceId event call.requestId
            env.rowIngestedAt db with
        | error e =>
          rw [hupsert] at hrun
          cases hrun
        | ok result =>
          obtain ⟨inserted, db''⟩ := result
          rw [hupsert] at hrun
          cases hrun
          obtain ⟨write, hwrite, hanswer, -, hdb⟩ := upsertEvent_ok_iff.mp hupsert
          exact ⟨event, write, rfl, hwrite, hcheck, hanswer, hcommit, hdb, rfl⟩
      · rintro ⟨event', write, hsame, hwrite, hcheck, hanswer, hcommit, hdb, hsent⟩
        cases hsame
        have hupsert : upsertEvent env.upsert call.workspaceId event call.requestId
            env.rowIngestedAt db = .ok ((db.rows.lookup write.key).isNone, db') :=
          upsertEvent_ok_iff.mpr ⟨write, hwrite, hanswer, rfl, hdb⟩
        exact ⟨hcheck, by rw [hupsert, hsent], hcommit⟩

section Resolver

/-- A value of a `uuid` column, as `str()` gives it. -/
structure Uuid where
  text : String
  wellFormed : isUuid text = true
deriving DecidableEq

/-- `connector_identity_map`, by its primary key. -/
abbrev IdentityMap := List ((String × String) × Uuid)

/-- `DATABASE_URL`, and what comes of connecting and reading. -/
structure ResolverEnv where
  databaseUrl : Option String
  read : Except PyExc Unit

def resolveIdentityWorkspace (identityMap : IdentityMap) (env : ResolverEnv)
    (vendor externalIdentity : String) : Except PyExc (Option String) :=
  if vendor = "" then .ok none
  else if externalIdentity = "" then .ok none
  else if env.databaseUrl.getD "" = "" then .ok none
  else
    match env.read with
    -- every database error is taken for an unmapped identity
    | .error _ => .ok none
    | .ok () => .ok ((identityMap.lookup (vendor, externalIdentity)).map Uuid.text)

/-- The lookup is made, and it succeeds. -/
def LookupSucceeds (env : ResolverEnv) (externalIdentity : String) : Prop :=
  externalIdentity ≠ "" ∧ env.databaseUrl.getD "" ≠ "" ∧ env.read = .ok ()

theorem resolve_failed {env : ResolverEnv} {externalIdentity : String}
    (h : ¬ LookupSucceeds env externalIdentity) (identityMap : IdentityMap) (vendor : String) :
    resolveIdentityWorkspace identityMap env vendor externalIdentity = .ok none := by
  unfold resolveIdentityWorkspace
  by_cases hvendor : vendor = ""
  · rw [if_pos hvendor]
  by_cases hidentity : externalIdentity = ""
  · rw [if_neg hvendor, if_pos hidentity]
  by_cases hurl : env.databaseUrl.getD "" = ""
  · rw [if_neg hvendor, if_neg hidentity, if_pos hurl]
  rw [if_neg hvendor, if_neg hidentity, if_neg hurl]
  cases hread : env.read with
  | error e => rfl
  | ok u => exact absurd ⟨hidentity, hurl, hread⟩ h

theorem resolve_mapped {identityMap : IdentityMap} {env : ResolverEnv}
    {vendor externalIdentity : String} {workspace : Uuid} (hvendor : vendor ≠ "")
    (hmapped : identityMap.lookup (vendor, externalIdentity) = some workspace)
    (h : LookupSucceeds env externalIdentity) :
    resolveIdentityWorkspace identityMap env vendor externalIdentity =
      .ok (some workspace.text) := by
  obtain ⟨hidentity, hurl, hread⟩ := h
  unfold resolveIdentityWorkspace
  rw [if_neg hvendor, if_neg hidentity, if_neg hurl, hread, hmapped]
  rfl

end Resolver

section Servicer

/-- What a request meets behind the gateway. -/
structure WebhookEnv where
  secretFactory : Except PyExc AppSecretProvider
  identityMap : IdentityMap
  resolver : ResolverEnv
  intake : IntakeEnv

/-- The servicer as it is deployed, in front of a database and a log of messages. -/
def WebhookEnv.servicer (env : WebhookEnv) (db : RawDb) (sent : List Sent) :
    WebhookIngestServicer :=
  productionServicer env.intake.hmac env.secretFactory
    (resolveIdentityWorkspace env.identityMap env.resolver)
    fun call => (liveIntakeRunner env.intake call db sent).1

/-- What a call behind the gate leaves. -/
def WebhookEnv.apply (env : WebhookEnv) (state : RawDb × List Sent) :
    ServicerCall → RawDb × List Sent
  | .resolveIdentity _ _ => state
  | .runIntake call => (liveIntakeRunner env.intake call state.1 state.2).2

def WebhookEnv.handle (env : WebhookEnv) (request : WebhookRequest) (db : RawDb)
    (sent : List Sent) : Except PyExc WebhookResponse × RawDb × List Sent :=
  let handled := receiveWebhook (env.servicer db sent) request
  (handled.response, handled.calls.foldl env.apply (db, sent))

def WebhookRequest.externalIdentity (request : WebhookRequest) : String :=
  request.header "x-shopify-shop-domain"

def WebhookRequest.topic (request : WebhookRequest) : String := request.header "x-shopify-topic"

def WebhookRequest.webhookId (request : WebhookRequest) : String :=
  request.header "x-shopify-webhook-id"

/-- The call of the intake that a Shopify request comes to. -/
def WebhookRequest.intakeCall (request : WebhookRequest) (workspaceId : String) : IntakeCall :=
  ⟨workspaceId, stripText request.vendor, request.rawBody, request.headers, request.webhookId,
    request.topic, request.requestId, request.traceId⟩

variable {env : WebhookEnv} {request : WebhookRequest} {db : RawDb} {sent : List Sent}

/-- The gate lets the request through: its signature is there and verified. -/
def PassesGate (env : WebhookEnv) (request : WebhookRequest) : Prop :=
  ∃ spec, verifyGate (env.servicer ⟨[]⟩ []) request = .ok (some spec)

/-- The gate does not look at the database. -/
theorem verifyGate_servicer (db db' : RawDb) (sent sent' : List Sent) :
    verifyGate (env.servicer db sent) request = verifyGate (env.servicer db' sent') request := rfl

/-- Only `shopify` is registered. -/
theorem passesGate_shopify (h : PassesGate env request) (db : RawDb) (sent : List Sent) :
    stripText request.vendor = "shopify" ∧
      verifyGate (env.servicer db sent) request = .ok (some (shopifySpec env.intake.hmac)) := by
  obtain ⟨spec, hgate⟩ := h
  rw [verifyGate_servicer ⟨[]⟩ db [] sent] at hgate
  have hregistry : (env.servicer db sent).registry = webhookVerifiers env.intake.hmac := rfl
  by_cases hvendor : stripText request.vendor = "shopify"
  · refine ⟨hvendor, ?_⟩
    have hlookup : (env.servicer db sent).registry.lookup (stripText request.vendor) =
        some (shopifySpec env.intake.hmac) := by
      rw [hregistry, hvendor]
      rfl
    have hsame : spec = shopifySpec env.intake.hmac := by
      unfold verifyGate at hgate
      rw [hlookup] at hgate
      simp only at hgate
      repeat' split at hgate
      all_goals cases hgate
      rfl
    rw [hgate, hsame]
  · have hne : (stripText request.vendor == "shopify") = false := by simpa using hvendor
    unfold verifyGate at hgate
    rw [hregistry, webhookVerifiers, List.lookup_cons, hne] at hgate
    cases hgate

/-- A request that passes the gate and whose workspace is not found is parked. -/
theorem handle_parked (hgate : PassesGate env request)
    (hlookup : ¬ LookupSucceeds env.resolver request.externalIdentity) (db : RawDb)
    (sent : List Sent) :
    env.handle request db sent = (.ok ⟨.parked, request.requestId⟩, db, sent) := by
  obtain ⟨-, hverify⟩ := passesGate_shopify hgate db sent
  have hresolve : (env.servicer db sent).identityResolver (stripText request.vendor)
      (request.header "x-shopify-shop-domain") = .ok none := resolve_failed hlookup _ _
  unfold WebhookEnv.handle receiveWebhook
  rw [hverify]
  unfold afterVerify
  simp only [shopifySpec, hresolve]
  rfl

/-- A request that passes the gate, of a mapped identity and with a topic of the list, is
answered by the intake. -/
theorem handle_mapped {workspace : Uuid} (hgate : PassesGate env request)
    (hmapped : env.identityMap.lookup (stripText request.vendor, request.externalIdentity) =
      some workspace)
    (htopic : request.topic ∈ shopifyTopicAllowlist)
    (hlookup : LookupSucceeds env.resolver request.externalIdentity) :
    env.handle request db sent =
      ((liveIntakeRunner env.intake (request.intakeCall workspace.text) db sent).1.map
          fun _ => ⟨.accepted, request.requestId⟩,
        (liveIntakeRunner env.intake (request.intakeCall workspace.text) db sent).2) := by
  obtain ⟨hvendor, hverify⟩ := passesGate_shopify hgate db sent
  have hnonempty : stripText request.vendor ≠ "" := by
    rw [hvendor]
    decide
  have hresolve : (env.servicer db sent).identityResolver (stripText request.vendor)
      (request.header (shopifySpec env.intake.hmac).identityHeader) = .ok (some workspace.text) :=
    resolve_mapped hnonempty hmapped hlookup
  have hallowed : request.header (shopifySpec env.intake.hmac).topicHeader ∈
      (shopifySpec env.intake.hmac).topicAllowlist := htopic
  have hcall : intakeCallOf request (shopifySpec env.intake.hmac) workspace.text =
      request.intakeCall workspace.text := rfl
  have hanswer : (receiveWebhook (env.servicer db sent) request) =
      ⟨(liveIntakeRunner env.intake (request.intakeCall workspace.text) db sent).1.map
          fun _ => ⟨.accepted, request.requestId⟩,
        [.resolveIdentity (stripText request.vendor) request.externalIdentity,
          .runIntake (request.intakeCall workspace.text)]⟩ := by
    unfold receiveWebhook
    rw [hverify]
    simp only
    rw [afterVerify_mapped hresolve hallowed, hcall]
    rfl
  unfold WebhookEnv.handle
  rw [hanswer]
  simp only [List.foldl_cons, List.foldl_nil, WebhookEnv.apply]

end Servicer

section Route

/-- A header as Node gives it. -/
inductive HeaderValue where
  | single (value : String)
  | many (values : List String)
  | undefined

structure HttpRequest where
  vendor : String
  rawBody : List UInt8
  headers : List (String × HeaderValue)
  requestId : String
  traceId : String

/-- `collectVendorHeaders` -/
def collectVendorHeaders (headers : List (String × HeaderValue)) : List (String × String) :=
  headers.filterMap fun (key, value) =>
    match value with
    | .single value => some (key, value)
    | .many values => some (key, ", ".intercalate values)
    | .undefined => none

def HttpRequest.forwarded (request : HttpRequest) : WebhookRequest :=
  ⟨request.vendor, request.rawBody, collectVendorHeaders request.headers, request.requestId,
    request.traceId⟩

/-- What becomes of the gRPC call itself: it does not reach the servicer, its reply is lost,
or it is answered. -/
inductive Transport where
  | unreachable
  | replyLost
  | answered
deriving DecidableEq

/-- The route's cap, and what the rate limiter and the channel do to one request. -/
structure Gateway where
  maxBody : Nat
  consumeToken : Bool
  transport : Transport

def outcomeToStatus (outcome : Nat) : Nat := if outcome = Outcome.rejected.code then 401 else 200

/-- `POST /webhooks/:vendor`: the status, and what is left behind. -/
def webhookRoute (gateway : Gateway) (env : WebhookEnv) (request : HttpRequest) (db : RawDb)
    (sent : List Sent) : Nat × RawDb × List Sent :=
  if !gateway.consumeToken then (429, db, sent)
  else if gateway.maxBody < request.rawBody.length then (413, db, sent)
  else
    match gateway.transport with
    | .unreachable => (503, db, sent)
    | .replyLost => (503, (env.handle request.forwarded db sent).2)
    | .answered =>
      match env.handle request.forwarded db sent with
      -- an exception of the servicer is an error of the call
      | (.error _, after) => (503, after)
      | (.ok response, after) => (outcomeToStatus response.outcome.code, after)

/-- The gateway hears the answer of the servicer. -/
def Gateway.Hears (gateway : Gateway) (request : HttpRequest) : Prop :=
  gateway.consumeToken = true ∧ request.rawBody.length ≤ gateway.maxBody ∧
    gateway.transport = .answered

def Acknowledged (status : Nat) : Prop := 200 ≤ status ∧ status < 300

/-- The upsert of the call's event, and it alone, was added. -/
def Upserted (env : IntakeEnv) (call : IntakeCall) (before after : RawDb) : Prop :=
  ∃ write, landedWrite env call = .ok write ∧ after = before.write write

variable {gateway : Gateway} {env : WebhookEnv} {request : HttpRequest} {db : RawDb}
  {sent : List Sent}

theorem webhookRoute_hears (h : gateway.Hears request) :
    webhookRoute gateway env request db sent =
      match env.handle request.forwarded db sent with
      | (.error _, after) => (503, after)
      | (.ok response, after) => (outcomeToStatus response.outcome.code, after) := by
  obtain ⟨htoken, hbody, htransport⟩ := h
  unfold webhookRoute
  rw [if_neg (by simp [htoken]), if_neg (by omega), htransport]

theorem webhookRoute_deaf (h : ¬ gateway.Hears request) :
    ¬ Acknowledged (webhookRoute gateway env request db sent).1 := by
  unfold webhookRoute Acknowledged
  by_cases htoken : gateway.consumeToken = true
  · rw [if_neg (by simp [htoken])]
    by_cases hbody : gateway.maxBody < request.rawBody.length
    · rw [if_pos hbody]
      simp
    · rw [if_neg hbody]
      cases htransport : gateway.transport with
      | unreachable => simp
      | replyLost => simp
      | answered => exact absurd ⟨htoken, by omega, htransport⟩ h
  · rw [if_pos (by simp [htoken])]
    simp

theorem not_upserted_self (env : IntakeEnv) (call : IntakeCall) (db : RawDb) :
    ¬ Upserted env call db db := by
  rintro ⟨write, -, hdb⟩
  have hlength : db.writes.length = (db.writes ++ [write]).length := by
    rw [show db.writes ++ [write] = (db.write write).writes from rfl, ← hdb]
  rw [List.length_append, List.length_singleton] at hlength
  omega

/-- For a request that passes the gate, of a mapped identity and with a topic of the list: a
2xx means an upserted event exactly when the lookup of the identity succeeds, or the gateway
does not hear the servicer. -/
theorem acknowledged_upserted_iff {workspace : Uuid} (hgate : PassesGate env request.forwarded)
    (hmapped : env.identityMap.lookup (stripText request.vendor,
      request.forwarded.externalIdentity) = some workspace)
    (htopic : request.forwarded.topic ∈ shopifyTopicAllowlist) :
    (Acknowledged (webhookRoute gateway env request db sent).1 →
        Upserted env.intake (request.forwarded.intakeCall workspace.text) db
          (webhookRoute gateway env request db sent).2.1) ↔
      (gateway.Hears request → LookupSucceeds env.resolver request.forwarded.externalIdentity) := by
  by_cases hhears : gateway.Hears request
  · simp only [hhears, true_implies]
    rw [webhookRoute_hears hhears]
    by_cases hlookup : LookupSucceeds env.resolver request.forwarded.externalIdentity
    · refine iff_of_true ?_ hlookup
      rw [handle_mapped hgate hmapped htopic hlookup]
      cases hrun : liveIntakeRunner env.intake (request.forwarded.intakeCall workspace.text)
          db sent with
      | mk result after =>
        cases result with
        | error e =>
          intro hack
          simp [Acknowledged, Except.map] at hack
        | ok u =>
          intro _
          obtain ⟨_, write, _, hwrite, _, _, _, hdb, _⟩ := liveIntakeRunner_ok_iff.mp hrun
          exact ⟨write, hwrite, hdb⟩
    · refine iff_of_false ?_ hlookup
      rw [handle_parked hgate hlookup db sent]
      intro h
      refine not_upserted_self _ _ db (h ?_)
      simp [Acknowledged, outcomeToStatus, Outcome.code]
  · exact iff_of_true (fun hack => absurd hack (webhookRoute_deaf hhears))
      fun h => absurd h hhears

end Route

section Example

def exampleWorkspace : Uuid := ⟨"6f9619ff-8b86-4d01-b42d-00cf4fc964ff", Eq.refl true⟩

def exampleNoon : Datetime := ⟨.of 2024 1 1, .of 12 0 0 0, some .utc⟩

/-- A healthy intake, with the tokenizer off; the digest is left constant. -/
def exampleIntake : IntakeEnv where
  limits := ⟨1000, 1000⟩
  tools := ⟨String.toLower, id⟩
  hmac _ _ := [0, 0, 0]
  allowedWorkspaceIds := some [exampleWorkspace.text]
  piiTokenizer := none
  getSalt _ _ := .ok []
  occurredAt := exampleNoon
  ingestedAt := exampleNoon
  rowIngestedAt := exampleNoon
  session := ⟨some "postgres://", .ok (), .committed, .ok ()⟩
  upsert := .ok ()
  producer := some (.ok ())

def exampleEnv (read : Except PyExc Unit) : WebhookEnv where
  secretFactory := .ok ⟨.ok "shpss"⟩
  identityMap := [(("shopify", "a.myshopify.com"), exampleWorkspace)]
  resolver := ⟨some "postgres://", read⟩
  intake := exampleIntake

/-- A delivery that the constant digest signs. -/
def signedDelivery (topic : String) (webhookId : Option String) (body : String) :
    HttpRequest where
  vendor := "shopify"
  rawBody := utf8 body
  headers := [("x-shopify-hmac-sha256", .single "AAAA"),
    ("x-shopify-shop-domain", .single "a.myshopify.com"), ("x-shopify-topic", .single topic)] ++
    (webhookId.map fun id => ("x-shopify-webhook-id", HeaderValue.single id)).toList
  requestId := "q"
  traceId := ""

theorem signedDelivery_passes (read : Except PyExc Unit) (topic : String)
    (webhookId : Option String) (body : String) :
    PassesGate (exampleEnv read) (signedDelivery topic webhookId body).forwarded := by
  have hlookup : ((exampleEnv read).servicer ⟨[]⟩ []).registry.lookup (stripText "shopify") =
      some (shopifySpec exampleIntake.hmac) := by
    rw [show stripText "shopify" = "shopify" by decide]
    rfl
  have hheader : (signedDelivery topic webhookId body).forwarded.header "x-shopify-hmac-sha256" =
      "AAAA" := by
    rw [show "AAAA" = stripText "AAAA" by decide]
    cases webhookId <;> rfl
  have hverify : verifyShopifyHmac exampleIntake.hmac (utf8 body) "AAAA" "shpss" = .ok true := by
    change compareDigest (String.ofList (b64encode [0, 0, 0])) "AAAA" = .ok true
    decide
  refine ⟨shopifySpec exampleIntake.hmac, verifyGate_of_verified hlookup ?_ rfl ?_⟩
  · change (signedDelivery topic webhookId body).forwarded.header "x-shopify-hmac-sha256" ≠ ""
    rw [hheader]
    decide
  · change verifyShopifyHmac exampleIntake.hmac (utf8 body) ((signedDelivery topic webhookId
      body).forwarded.header "x-shopify-hmac-sha256") "shpss" = .ok true
    rw [hheader]
    exact hverify

def openGateway : Gateway := ⟨524288, true, .answered⟩

def lookupTimeout : PyExc := ⟨.other "OperationalError" false, "connection timeout expired"⟩

/-- The lookup times out: the delivery is acknowledged, and nothing is stored. -/
theorem failed_lookup_acknowledged :
    let request := signedDelivery "orders/create" (some "e1") "\x7b\x7d"
    let after := webhookRoute openGateway (exampleEnv (.error lookupTimeout)) request ⟨[]⟩ []
    Acknowledged after.1 ∧
      ¬ Upserted exampleIntake (request.forwarded.intakeCall exampleWorkspace.text) ⟨[]⟩
        after.2.1 := by
  have hhears : openGateway.Hears (signedDelivery "orders/create" (some "e1") "\x7b\x7d") :=
    ⟨rfl, by decide, rfl⟩
  have hparked := handle_parked
    (signedDelivery_passes (.error lookupTimeout) "orders/create" (some "e1") "\x7b\x7d")
    (by rintro ⟨-, -, h⟩; cases h) ⟨[]⟩ []
  simp only [webhookRoute_hears hhears, hparked]
  refine ⟨?_, not_upserted_self _ _ _⟩
  simp [Acknowledged, outcomeToStatus, Outcome.code]

/-- With a lookup that succeeds, an acknowledged delivery is stored. -/
theorem acknowledged_delivery_upserted :
    LookupSucceeds (exampleEnv (.ok ())).resolver "a.myshopify.com" ∧
      (Acknowledged (webhookRoute openGateway (exampleEnv (.ok ()))
          (signedDelivery "orders/create" (some "e1") "\x7b\x7d") ⟨[]⟩ []).1 →
        Upserted exampleIntake ((signedDelivery "orders/create" (some "e1")
            "\x7b\x7d").forwarded.intakeCall exampleWorkspace.text) ⟨[]⟩
          (webhookRoute openGateway (exampleEnv (.ok ()))
            (signedDelivery "orders/create" (some "e1") "\x7b\x7d") ⟨[]⟩ []).2.1) :=
  ⟨⟨by decide, by decide, rfl⟩, (acknowledged_upserted_iff (signedDelivery_passes _ _ _ _)
    (by decide) (by decide)).mpr fun _ => ⟨by decide, by decide, rfl⟩⟩

end Example

end BrainV2.Webhook
