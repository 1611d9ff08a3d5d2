import BrainV2.Py.Datetime
import BrainV2.Ingest.PiiTokenizer

/-!
# The Kafka envelope

* `envelopeOf`, `kafkaValue`, `integrationMessage`: what `_produce_kafka` sends for an event;
* `parseEnvelope`: what the archiver reads out of a message;
* `ChRow`, `buildChRow`: the row it inserts into `connector_raw_events`.
-/

namespace BrainV2.Ingest

open Py

structure NormalizedEvent where
  vendor : String
  vendorEventId : String
  eventType : String
  occurredAt : Option Datetime
  lawfulBasis : String
  purposeCode : String
  columns : Columns

section Produce

def isoOrNull : Option Datetime → Json
  | some d => .str d.isoformat
  | none => .null

/-- `json.dumps(event.columns).encode().decode("latin-1")` -/
def payloadText (columns : Columns) : String := latin1Decode (utf8 (Json.dumps (.obj columns)))

def envelopeOf (workspaceId : String) (event : NormalizedEvent) (ingestedAt : Datetime)
    (requestId traceId saltVersion : String) : List (String × Json) :=
  [("workspace_id", .str workspaceId),
   ("vendor", .str event.vendor),
   ("vendor_event_id", .str event.vendorEventId),
   ("event_type", .str event.eventType),
   ("occurred_at", isoOrNull event.occurredAt),
   ("ingested_at", .str ingestedAt.isoformat),
   ("payload", .str (payloadText event.columns)),
   ("lawful_basis", .str event.lawfulBasis),
   ("purpose_code", .str event.purposeCode),
   ("request_id", .str requestId),
   ("trace_id", .str traceId),
   ("actor", .str "system:ingest"),
   ("salt_version", .str saltVersion)]

/-- The value `_produce_kafka` sends. -/
def kafkaValue (workspaceId : String) (event : NormalizedEvent) (ingestedAt : Datetime)
    (requestId traceId saltVersion : String) : List UInt8 :=
  utf8 (Json.dumps (.obj (envelopeOf workspaceId event ingestedAt requestId traceId saltVersion)))

/-- A message on a topic. -/
structure Sent where
  topic : String
  key : List UInt8
  value : List UInt8

/-- The message `_produce_kafka` sends on the topic of a vendor. -/
def integrationMessage (vendor workspaceId : String) (event : NormalizedEvent)
    (ingestedAt : Datetime) (requestId traceId saltVersion : String) : Sent where
  topic := "integrations." ++ vendor ++ ".v1"
  key := utf8 workspaceId
  value := kafkaValue workspaceId event ingestedAt requestId traceId saltVersion

/-- Text in ASCII survives the detour over latin-1. -/
theorem payloadText_eq (columns : Columns) : payloadText columns = Json.dumps (.obj columns) :=
  latin1Decode_utf8 (Json.dumps_ascii _)

end Produce

section Parse

/-- A parsed envelope; but for the times and the customer reference its fields
are whatever values the message holds. -/
structure ParsedEnvelope where
  workspaceId : Json
  vendor : Json
  vendorEventId : Json
  eventType : Json
  receivedAt : Datetime
  eventAt : Option Datetime
  payload : Json
  payloadVersion : Json
  customerRef : String
  lawfulBasis : Json
  purposeCode : Json
  traceId : Json
  requestId : Json
  rawBytes : List UInt8

def noAttribute (j : Json) (name : String) : PyExc :=
  ⟨.attributeError, "'" ++ typeName j ++ "' object has no attribute '" ++ name ++ "'"⟩

/-- Only what is no UTF-8 or no JSON becomes a `ValueError` of the archiver. -/
def decodeEnvelope (limits : Limits) (rawBytes : List UInt8) : Except PyExc Json :=
  match utf8Decode rawBytes with
  | none => .error ⟨.valueError, "parse_envelope: JSON decode failed: 'utf-8' codec can't decode"⟩
  | some text =>
    match jsonLoads limits text with
    | .ok envelope => .ok envelope
    | .error e =>
      if e.cls = .jsonDecodeError then
        .error ⟨.valueError, "parse_envelope: JSON decode failed: " ++ e.text⟩
      else .error e

/-- `.get`: only a dict has it. -/
def asDict : Json → Except PyExc (List (String × Json))
  | .obj members => .ok members
  | j => .error (noAttribute j "get")

def requiredFields : List String :=
  ["workspace_id", "vendor", "vendor_event_id", "event_type", "ingested_at", "payload"]

def checkRequired (limits : Limits) (envelope : List (String × Json)) : Except PyExc Unit :=
  match requiredFields.find? fun required => !truthy (get envelope required) with
  | none => .ok ()
  | some required => do
    let shown ← pyRepr limits (get envelope "workspace_id")
    .error ⟨.valueError, "parse_envelope: missing required field " ++
      String.ofList (reprStr required) ++ " in envelope (workspace_id=" ++ shown ++ ")"⟩

/-- `.replace`: only a text has it. -/
def asText : Json → Except PyExc String
  | .str s => .ok s
  | j => .error (noAttribute j "replace")

/-- A naive datetime is taken for UTC. -/
def aware (d : Datetime) : Datetime :=
  match d.offset with
  | none => { d with offset := some .utc }
  | some _ => d

def zuluToOffset (text : String) : String := replaceChar text 'Z' "+00:00"

/-- The text without the marks of an ISO 8601 text. -/
def bareDigits (text : String) : String :=
  ['.', '-', ':', 'T', 'Z'].foldl (fun t mark => replaceChar t mark "") text

def parseReceivedAt (ingestedAt : Json) : Except PyExc Datetime := do
  let text ← asText ingestedAt
  match fromIsoformat (if isDigitText (bareDigits text) then zuluToOffset text else text) with
  | .ok d => .ok (aware d)
  | .error e => .error ⟨.valueError, "parse_envelope: invalid ingested_at=" ++
      String.ofList (reprStr text) ++ ": " ++ e.text⟩

/-- An `occurred_at` that is no ISO 8601 text is left out; one that is no text
at all is not caught. -/
def parseEventAt (occurredAt : Json) : Except PyExc (Option Datetime) :=
  if truthy occurredAt then do
    let text ← asText occurredAt
    match fromIsoformat (zuluToOffset text) with
    | .ok d => .ok (some (aware d))
    | .error _ => .ok none
  else .ok none

/-- The customer reference of the columns, where the envelope has none. -/
def payloadCustomerRef (limits : Limits) (payload : Json) : Except PyExc Json :=
  let columns := match payload with
    | .str text => jsonLoads limits text
    | j => .ok j
  match columns with
  | .ok (.obj columns) => .ok (pyOr (getD columns "customer_ref" (.str "")) (.str ""))
  | .ok _ => .ok (.str "")
  | .error e => if e.cls = .jsonDecodeError then .ok (.str "") else .error e

def parseEnvelope (limits : Limits) (rawBytes : List UInt8) : Except PyExc ParsedEnvelope := do
  let decoded ← decodeEnvelope limits rawBytes
  let envelope ← asDict decoded
  checkRequired limits envelope
  let receivedAt ← parseReceivedAt (get envelope "ingested_at")
  let eventAt ← parseEventAt (get envelope "occurred_at")
  let stated := getD envelope "customer_ref" (.str "")
  let customerRef ← if truthy stated then .ok stated
    else payloadCustomerRef limits (get envelope "payload")
  let customerRefText ← pyStr limits customerRef
  return {
    workspaceId := get envelope "workspace_id"
    vendor := get envelope "vendor"
    vendorEventId := get envelope "vendor_event_id"
    eventType := get envelope "event_type"
    receivedAt := receivedAt
    eventAt := eventAt
    payload := get envelope "payload"
    payloadVersion := pyOr (getD envelope "payload_version" (.str "")) (.str "")
    customerRef := customerRefText
    lawfulBasis := pyOr (getD envelope "lawful_basis" (.str "")) (.str "")
    purposeCode := pyOr (getD envelope "purpose_code" (.str "")) (.str "")
    traceId := pyOr (getD envelope "trace_id" (.str "")) (.str "")
    requestId := pyOr (getD envelope "request_id" (.str "")) (.str "")
    rawBytes := rawBytes }

end Parse

section Row

structure ChRow where
  workspaceId : Json
  vendor : Json
  eventType : Json
  idempotencyKey : Json
  receivedAt : Datetime
  eventAt : Option Datetime
  payload : Json
  payloadVersion : Json
  ingestedAt : Datetime
  customerRef : String
  lawfulBasis : Json
  purposeCode : Json

def buildChRow (env : ParsedEnvelope) (now : Datetime) : ChRow where
  workspaceId := env.workspaceId
  vendor := env.vendor
  eventType := env.eventType
  idempotencyKey := env.vendorEventId
  receivedAt := env.receivedAt
  eventAt := env.eventAt
  payload := env.payload
  payloadVersion := env.payloadVersion
  ingestedAt := now
  customerRef := env.customerRef
  lawfulBasis := env.lawfulBasis
  purposeCode := env.purposeCode

end Row

end BrainV2.Ingest
