import BrainV2.Ingest.OrderEnvelope
import BrainV2.Webhook.Landing

/-!
# The idempotency anchor

* `handle_accepted`: an accepted request has passed the gate, has a workspace, and its
  intake came back;
* `landedWrite_key`, `readUnderAnchor_iff`: where its event is stored, and when the
  archiver reads it;
* `kept_apart_iff`: two accepted requests of a workspace are kept apart exactly when
  their anchors are distinct and none is empty;
* `missing_anchors_merge`: two orders without an anchor share one row.
-/

namespace BrainV2.Webhook

open Py Ingest

section Accepted

variable {env : WebhookEnv} {request : WebhookRequest} {db db' : RawDb} {sent sent' : List Sent}

/-- The request was accepted, for this workspace. -/
structure Accepted (env : WebhookEnv) (request : WebhookRequest) (workspaceId : String)
    (db : RawDb) (sent : List Sent) (db' : RawDb) (sent' : List Sent) : Prop where
  answer : env.handle request db sent = (.ok ⟨.accepted, request.requestId⟩, db', sent')
  workspace : resolveIdentityWorkspace env.identityMap env.resolver (stripText request.vendor)
    request.externalIdentity = .ok (some workspaceId)

/-- What was called behind the gate, by what was answered. -/
theorem afterVerify_accepted {servicer : WebhookIngestServicer} {spec : VendorWebhookSpec}
    (h : (afterVerify servicer request spec).response = .ok ⟨.accepted, request.requestId⟩) :
    ∃ workspaceId, servicer.identityResolver (stripText request.vendor)
        (request.header spec.identityHeader) = .ok (some workspaceId) ∧
      servicer.intakeRunner (intakeCallOf request spec workspaceId) = .ok () ∧
      (afterVerify servicer request spec).calls =
        [.resolveIdentity (stripText request.vendor) (request.header spec.identityHeader),
          .runIntake (intakeCallOf request spec workspaceId)] := by
  cases hresolve : servicer.identityResolver (stripText request.vendor)
      (request.header spec.identityHeader) with
  | error e => simp [afterVerify, hresolve] at h
  | ok found =>
    cases found with
    | none => simp [afterVerify, hresolve] at h
    | some workspaceId =>
      by_cases htopic : request.header spec.topicHeader ∈ spec.topicAllowlist
      · rw [afterVerify_mapped hresolve htopic] at h ⊢
        cases hrun : servicer.intakeRunner (intakeCallOf request spec workspaceId) with
        | error e => simp [hrun, Except.map] at h
        | ok u => exact ⟨workspaceId, rfl, hrun, rfl⟩
      · simp [afterVerify, hresolve, htopic] at h

/-- An accepted request has run the intake of its workspace, and it came back. -/
theorem handle_accepted {workspaceId : String}
    (h : Accepted env request workspaceId db sent db' sent') :
    stripText request.vendor = "shopify" ∧
      liveIntakeRunner env.intake (request.intakeCall workspaceId) db sent =
        (.ok (), db', sent') := by
  obtain ⟨hanswer, hworkspace⟩ := h
  unfold WebhookEnv.handle receiveWebhook at hanswer
  cases hgate : verifyGate (env.servicer db sent) request with
  | error e => simp [hgate] at hanswer
  | ok gate =>
    cases gate with
    | none => simp [hgate] at hanswer
    | some spec =>
      rw [hgate] at hanswer
      simp only [Prod.mk.injEq] at hanswer
      obtain ⟨hresponse, hstate⟩ := hanswer
      obtain ⟨hvendor, hshopify⟩ := passesGate_shopify ⟨spec, hgate⟩ db sent
      rw [hgate] at hshopify
      cases hshopify
      obtain ⟨workspaceId', hresolve, hrun, hcalls⟩ := afterVerify_accepted hresponse
      have hsame : workspaceId' = workspaceId := by
        have hresolver : (env.servicer db sent).identityResolver =
            resolveIdentityWorkspace env.identityMap env.resolver := rfl
        have hidentity : request.header (shopifySpec env.intake.hmac).identityHeader =
            request.externalIdentity := rfl
        rw [hresolver, hidentity, hworkspace] at hresolve
        cases hresolve
        rfl
      subst hsame
      refine ⟨hvendor, ?_⟩
      have hrun' : (liveIntakeRunner env.intake (request.intakeCall workspaceId') db sent).1 =
          .ok () := hrun
      have hstate' : (liveIntakeRunner env.intake (request.intakeCall workspaceId') db sent).2 =
          (db', sent') := by
        rw [← hstate, hcalls]
        rfl
      rw [← hrun', ← hstate']

end Accepted

section Events

variable {env : IntakeEnv} {call : IntakeCall} {event : NormalizedEvent} {write : RawWrite}

/-- The row of an event is the one of its anchor. -/
theorem landedWrite_key (h : landedWrite env call = .ok write) :
    eventTypeOf call.topic = "order" ∧
      write.key = ⟨"raw_shopify_orders", call.workspaceId.toLower, call.vendorEventId⟩ := by
  obtain ⟨event, hevent, hwrite⟩ := bind_ok.mp h
  have hshape := landedEvent_shape hevent
  obtain ⟨htopic, rfl⟩ :=
    (order_columns_allowed_iff hshape.toOrderShaped hshape.eventType).mp hwrite
  refine ⟨htopic, ?_⟩
  rw [key_rawCols, hshape.vendorEventId]
  · rw [hshape.columns]
    decide
  · rw [hshape.columns]
    decide

theorem landedEvent_decodable (h : landedEvent env call = .ok event) :
    Decodable env.limits (.obj event.columns) := by
  obtain ⟨piiSalt, normalized, columns, -, -, hnormalized, -, htokens, rfl⟩ :=
    landedEvent_ok_iff.mp h
  obtain ⟨p, columns', hbody, hcolumns, hsame, -⟩ := normalizedEvent_body hnormalized
  have hp : Decodable env.limits (.obj p) := by
    unfold decodeBody at hbody
    cases htext : utf8Decode call.rawBody with
    | none =>
      rw [htext] at hbody
      cases hbody
    | some text =>
      rw [htext] at hbody
      exact decodable_of_jsonLoads hbody
  rw [hsame] at htokens
  exact tokenizedColumns_decodable (shopifyColumns_decodable hp hcolumns) htokens

/-- The archiver reads the envelope of the event, under the same id. -/
def ReadUnderAnchor (env : IntakeEnv) (call : IntakeCall) (event : NormalizedEvent) : Prop :=
  ∃ parsed, parseEnvelope env.limits (kafkaMessage env "v1" call event).value = .ok parsed ∧
    parsed.vendorEventId = .str call.vendorEventId

/-- It does so unless the anchor is empty. -/
theorem readUnderAnchor_iff (h : landedEvent env call = .ok event)
    (hworkspace : call.workspaceId ≠ "") (htopic : eventTypeOf call.topic = "order") :
    ReadUnderAnchor env call event ↔ call.vendorEventId ≠ "" := by
  have hshape := landedEvent_shape h
  have hcolumns := landedEvent_decodable h
  have hdepth := (decodable_obj_iff.mp hcolumns).2.1
  have hvalue : (kafkaMessage env "v1" call event).value = kafkaValue call.workspaceId event
      env.ingestedAt call.requestId call.traceId "v1" := rfl
  unfold ReadUnderAnchor
  rw [hvalue]
  constructor
  · rintro ⟨parsed, hparsed, -⟩ hempty
    exact parseEnvelope_empty_id hdepth (hshape.vendorEventId.trans hempty) parsed hparsed
  · intro hid
    have hcomplete : Complete call.workspaceId event := by
      refine ⟨hworkspace, ?_, ?_, ?_⟩
      · rw [hshape.vendor]
        decide
      · rw [hshape.vendorEventId]
        exact hid
      · rw [hshape.eventType, htopic]
        decide
    have href : event.columns.lookup "customer_ref" = none := by
      rw [List.lookup_eq_none_iff]
      intro column hcolumn
      have hkey : column.1 ∈ Dict.keys event.columns := List.mem_map_of_mem hcolumn
      rw [hshape.columns] at hkey
      have hall : ∀ name ∈ orderColumnNames, ("customer_ref" == name) = false := by decide
      simpa using hall _ hkey
    refine ⟨_, parseEnvelope_kafkaValue hcomplete hcolumns href, ?_⟩
    simp only [readBack, hshape.vendorEventId]

end Events

section Apart

/-- The two events are in different rows of the table, and the archiver reads each under its
own id. -/
def KeptApart (env₁ env₂ : IntakeEnv) (call₁ call₂ : IntakeCall) (db : RawDb) : Prop :=
  ∃ event₁ write₁ event₂ write₂,
    landedEvent env₁ call₁ = .ok event₁ ∧ landedWrite env₁ call₁ = .ok write₁ ∧
    landedEvent env₂ call₂ = .ok event₂ ∧ landedWrite env₂ call₂ = .ok write₂ ∧
    write₁.key ≠ write₂.key ∧ write₁.key ∈ Dict.keys db.rows ∧ write₂.key ∈ Dict.keys db.rows ∧
    ReadUnderAnchor env₁ call₁ event₁ ∧ ReadUnderAnchor env₂ call₂ event₂

variable {env₁ env₂ : WebhookEnv} {request₁ request₂ : WebhookRequest} {workspaceId : String}
  {db₁ db₁' db₂ db₂' : RawDb} {sent₁ sent₁' sent₂ sent₂' : List Sent}

/-- Two accepted requests of one workspace, the second some time after the first. -/
theorem kept_apart_iff (h₁ : Accepted env₁ request₁ workspaceId db₁ sent₁ db₁' sent₁')
    (h₂ : Accepted env₂ request₂ workspaceId db₂ sent₂ db₂' sent₂')
    (hlater : db₁'.writes <+: db₂.writes) :
    KeptApart env₁.intake env₂.intake (request₁.intakeCall workspaceId)
        (request₂.intakeCall workspaceId) db₂' ↔
      request₁.webhookId ≠ "" ∧ request₂.webhookId ≠ "" ∧
        request₁.webhookId ≠ request₂.webhookId := by
  obtain ⟨event₁, write₁, hevent₁, hwrite₁, hsession, -, -, hdb₁, -⟩ :=
    liveIntakeRunner_ok_iff.mp (handle_accepted h₁).2
  obtain ⟨event₂, write₂, hevent₂, hwrite₂, -, -, -, hdb₂, -⟩ :=
    liveIntakeRunner_ok_iff.mp (handle_accepted h₂).2
  obtain ⟨htopic₁, hkey₁⟩ := landedWrite_key hwrite₁
  obtain ⟨htopic₂, hkey₂⟩ := landedWrite_key hwrite₂
  have hworkspace : workspaceId ≠ "" := by
    intro hempty
    have hsession' : checkSession env₁.intake.session workspaceId = .ok () := hsession
    rw [checkSession, if_pos hempty] at hsession'
    cases hsession'
  have hread₁ := readUnderAnchor_iff hevent₁ hworkspace htopic₁
  have hread₂ := readUnderAnchor_iff hevent₂ hworkspace htopic₂
  have hid₁ : (request₁.intakeCall workspaceId).vendorEventId = request₁.webhookId := rfl
  have hid₂ : (request₂.intakeCall workspaceId).vendorEventId = request₂.webhookId := rfl
  have hapart : write₁.key ≠ write₂.key ↔ request₁.webhookId ≠ request₂.webhookId := by
    rw [hkey₁, hkey₂]
    simp [WebhookRequest.intakeCall]
  rw [hid₁] at hread₁
  rw [hid₂] at hread₂
  constructor
  · rintro ⟨event₁', write₁', event₂', write₂', hevent₁', hwrite₁', hevent₂', hwrite₂', hne, -, -,
      hparsed₁, hparsed₂⟩
    rw [hevent₁] at hevent₁'
    rw [hwrite₁] at hwrite₁'
    rw [hevent₂] at hevent₂'
    rw [hwrite₂] at hwrite₂'
    cases hevent₁'
    cases hwrite₁'
    cases hevent₂'
    cases hwrite₂'
    exact ⟨hread₁.mp hparsed₁, hread₂.mp hparsed₂, hapart.mp hne⟩
  · rintro ⟨hnonempty₁, hnonempty₂, hne⟩
    refine ⟨event₁, write₁, event₂, write₂, hevent₁, hwrite₁, hevent₂, hwrite₂, hapart.mpr hne,
      ?_, ?_, hread₁.mpr hnonempty₁, hread₂.mpr hnonempty₂⟩
    · refine mem_keys_rows_iff.mpr ⟨write₁, ?_, rfl⟩
      have hmem : write₁ ∈ db₁'.writes := by simp [hdb₁, RawDb.write]
      rw [hdb₂]
      exact List.mem_append_left _ (hlater.subset hmem)
    · refine mem_keys_rows_iff.mpr ⟨write₂, ?_, rfl⟩
      simp [hdb₂, RawDb.write]

section Example

def orderDelivery (webhookId : Option String) (id : Int) : WebhookRequest :=
  (exampleDelivery "orders/create" webhookId id).forwarded

/-- A signed order of the mapped shop is accepted, with or without an anchor. -/
theorem orderDelivery_accepted (webhookId : Option String) {id : Int}
    (hid : (Nat.toDigits 10 id.natAbs).length ≤ 4300) (db : RawDb) (sent : List Sent) :
    ∃ write sent', Accepted (exampleEnv (.ok ())) (orderDelivery webhookId id)
      exampleWorkspace.text db sent (db.write write) sent' := by
  have hlower : LowersAscii exampleIntake.tools := fun _ _ => rfl
  have hbody : decodeBody exampleIntake.limits
      ((orderDelivery webhookId id).intakeCall exampleWorkspace.text).rawBody =
        .ok (.obj (exampleBody id)) := decodeBody_dumps (exampleBody_decodable hid)
  obtain ⟨write, hwrite⟩ :=
    (landedWrite_exists_iff hlower hbody).mpr (exampleDelivery_landable webhookId id)
  have hvendor : stripText (orderDelivery webhookId id).vendor = "shopify" := by
    rw [show (orderDelivery webhookId id).vendor = "shopify" from rfl]
    decide
  have hidentity : (orderDelivery webhookId id).externalIdentity = "a.myshopify.com" := by
    rw [show "a.myshopify.com" = stripText "a.myshopify.com" by decide]
    cases webhookId <;> rfl
  have htopic : (orderDelivery webhookId id).topic = "orders/create" := by
    rw [show "orders/create" = stripText "orders/create" by decide]
    cases webhookId <;> rfl
  have hmapped : (exampleEnv (.ok ())).identityMap.lookup
      (stripText (orderDelivery webhookId id).vendor,
        (orderDelivery webhookId id).externalIdentity) = some exampleWorkspace := by
    rw [hvendor, hidentity]
    decide
  have hlookup : LookupSucceeds (exampleEnv (.ok ())).resolver
      (orderDelivery webhookId id).externalIdentity := by
    rw [hidentity]
    exact ⟨by decide, by decide, rfl⟩
  have hallowed : (orderDelivery webhookId id).topic ∈ shopifyTopicAllowlist := by
    rw [htopic]
    decide
  obtain ⟨sent', hhandle⟩ := handle_landed (exampleDelivery_passes (.ok ()) "orders/create"
    webhookId id) hmapped hallowed hlookup exampleIntake_healthy hwrite db sent
  refine ⟨write, sent', hhandle, resolve_mapped ?_ hmapped hlookup⟩
  rw [hvendor]
  decide

/-- Two orders without an anchor are accepted, and they are not kept apart. -/
theorem missing_anchors_merge :
    ∃ db₁ sent₁ db₂ sent₂,
      Accepted (exampleEnv (.ok ())) (orderDelivery none 1) exampleWorkspace.text ⟨[]⟩ [] db₁
        sent₁ ∧
      Accepted (exampleEnv (.ok ())) (orderDelivery none 2) exampleWorkspace.text db₁ sent₁ db₂
        sent₂ ∧
      ¬ KeptApart exampleIntake exampleIntake
        ((orderDelivery none 1).intakeCall exampleWorkspace.text)
        ((orderDelivery none 2).intakeCall exampleWorkspace.text) db₂ := by
  obtain ⟨write₁, sent₁, h₁⟩ := @orderDelivery_accepted none 1 (by decide) ⟨[]⟩ []
  obtain ⟨write₂, sent₂, h₂⟩ := @orderDelivery_accepted none 2 (by decide) _ sent₁
  refine ⟨_, sent₁, _, sent₂, h₁, h₂, ?_⟩
  rintro ⟨_, write₁', _, write₂', -, hwrite₁, -, hwrite₂, hne, -⟩
  apply hne
  rw [(landedWrite_key hwrite₁).2, (landedWrite_key hwrite₂).2]
  rfl

/-- With two anchors they are. -/
theorem anchored_orders_kept_apart :
    ∃ db₁ sent₁ db₂ sent₂,
      Accepted (exampleEnv (.ok ())) (orderDelivery (some "e1") 1) exampleWorkspace.text ⟨[]⟩ []
        db₁ sent₁ ∧
      Accepted (exampleEnv (.ok ())) (orderDelivery (some "e2") 2) exampleWorkspace.text db₁
        sent₁ db₂ sent₂ ∧
      KeptApart exampleIntake exampleIntake
        ((orderDelivery (some "e1") 1).intakeCall exampleWorkspace.text)
        ((orderDelivery (some "e2") 2).intakeCall exampleWorkspace.text) db₂ := by
  obtain ⟨write₁, sent₁, h₁⟩ := @orderDelivery_accepted (some "e1") 1 (by decide) ⟨[]⟩ []
  obtain ⟨write₂, sent₂, h₂⟩ := @orderDelivery_accepted (some "e2") 2 (by decide) _ sent₁
  refine ⟨_, sent₁, _, sent₂, h₁, h₂, (kept_apart_iff h₁ h₂ (List.prefix_refl _)).mpr ?_⟩
  decide

end Example

end Apart

end BrainV2.Webhook
