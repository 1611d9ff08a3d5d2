import BrainV2.Ingest.Envelope
import Mathlib

/-!
# Reading an envelope back

* `decodable_obj_iff`: what a JSON object takes to be read back;
* `parseEnvelope_of_ref`: the archiver reads what `_produce_kafka` has sent, field by
  field, when no required field is empty;
* `parseEnvelope_readsSent`: it reads every event with aware times as it was sent;
* `parseEnvelope_empty_id`: an event without an id is refused.
-/

namespace BrainV2.Ingest

open Py

section IsoText

theorem digit_ne_Z {c : Char} (h : c.isDigit = true) : c ≠ 'Z' := by
  rintro rfl
  cases h

theorem Z_not_mem_pad (width n : Nat) : 'Z' ∉ pad width n :=
  fun h => digit_ne_Z (isDigit_pad width n _ h) rfl

theorem Z_not_mem_fractionText (micros : Nat) : 'Z' ∉ fractionText micros := by
  unfold fractionText
  split
  · simp
  · simp [Z_not_mem_pad]

theorem Z_not_mem_zoneText (offset : Option UtcOffset) : 'Z' ∉ zoneText offset := by
  cases offset with
  | none => simp [zoneText]
  | some offset =>
    have htail : ∀ second micros, 'Z' ∉ offsetTail second micros := by
      intro second micros
      unfold offsetTail
      split
      · simp
      · simp [Z_not_mem_pad, Z_not_mem_fractionText]
    by_cases hsign : offset.micros < 0 <;>
      simp [zoneText, offsetText, hsign, Z_not_mem_pad, htail]

theorem Z_not_mem_isoformat (d : Datetime) : 'Z' ∉ d.isoformat.toList := by
  simp [Datetime.isoformat, dateText, timeText, Z_not_mem_pad, Z_not_mem_fractionText,
    Z_not_mem_zoneText]

theorem replaceChar_of_not_mem {s : String} {old : Char} (new : String) (h : old ∉ s.toList) :
    replaceChar s old new = s := by
  have hchars : ∀ cs : List Char, old ∉ cs →
      (cs.flatMap fun c => if c = old then new.toList else [c]) = cs := by
    intro cs
    induction cs with
    | nil => exact fun _ => rfl
    | cons c cs ih =>
      intro hcs
      simp only [List.mem_cons, not_or] at hcs
      rw [List.flatMap_cons, if_neg fun e => hcs.1 e.symm, ih hcs.2]
      rfl
  rw [replaceChar, hchars _ h, String.ofList_toList]

theorem zuluToOffset_isoformat (d : Datetime) : zuluToOffset d.isoformat = d.isoformat :=
  replaceChar_of_not_mem _ (Z_not_mem_isoformat d)

theorem isoformat_ne_empty (d : Datetime) : d.isoformat ≠ "" := by
  intro h
  have hlist : d.isoformat.toList = [] := by
    rw [h]
    rfl
  simp [Datetime.isoformat] at hlist

theorem parseReceivedAt_isoformat (d : Datetime) :
    parseReceivedAt (.str d.isoformat) = .ok (aware d) := by
  simp only [parseReceivedAt, asText, bind, Except.bind, zuluToOffset_isoformat, ite_self,
    fromIsoformat_isoformat]

theorem parseEventAt_isoOrNull (d : Option Datetime) :
    parseEventAt (isoOrNull d) = .ok (d.map aware) := by
  cases d with
  | none => rfl
  | some d =>
    have htruthy : truthy (.str d.isoformat) = true := by
      simpa [truthy] using isoformat_ne_empty d
    simp only [isoOrNull, parseEventAt, htruthy, if_true, asText, bind, Except.bind,
      zuluToOffset_isoformat, fromIsoformat_isoformat, Option.map_some]

end IsoText

section RoundTrip

variable {limits : Limits} {workspaceId requestId traceId saltVersion : String}
  {event : NormalizedEvent} {ingestedAt : Datetime}

/-- The decoder takes the columns: they nest no deeper than it can follow. -/
def Decodable (limits : Limits) (j : Json) : Prop :=
  j.WF limits.dialect ∧ limits.dialect.fits j.depth = true

/-- The value can stand inside one container. -/
def FitsInside (limits : Limits) (j : Json) : Prop :=
  j.WF limits.dialect ∧ j.depth + 1 ≤ limits.decodeDepth

theorem dialect_fits_iff {depth : Nat} :
    limits.dialect.fits depth = true ↔ depth ≤ limits.decodeDepth := by
  simp [Json.Dialect.fits, Limits.dialect]

theorem decodable_obj_iff {members : List (String × Json)} :
    Decodable limits (.obj members) ↔ (Dict.keys members).Nodup ∧ 1 ≤ limits.decodeDepth ∧
      ∀ member ∈ members, FitsInside limits member.2 := by
  have hdepth : limits.dialect.fits (Json.obj members).depth = true ↔
      1 ≤ limits.decodeDepth ∧ ∀ member ∈ members, member.2.depth + 1 ≤ limits.decodeDepth := by
    rw [dialect_fits_iff, Json.depth]
    constructor
    · intro h
      have hmembers := Json.depthMembers_le_iff.mp (show Json.depthMembers members ≤
        limits.decodeDepth - 1 by omega)
      refine ⟨by omega, fun member hmember => ?_⟩
      have hone := hmembers member hmember
      omega
    · rintro ⟨hone, hall⟩
      have hmembers : Json.depthMembers members ≤ limits.decodeDepth - 1 := by
        refine Json.depthMembers_le_iff.mpr fun member hmember => ?_
        have hmember' := hall member hmember
        omega
      omega
  unfold Decodable
  rw [hdepth, Json.WF, Json.wfMembers_iff]
  constructor
  · rintro ⟨⟨hnodup, hwf⟩, hone, hall⟩
    exact ⟨hnodup, hone, fun member hmember => ⟨hwf member hmember, hall member hmember⟩⟩
  · rintro ⟨hnodup, hone, hall⟩
    exact ⟨⟨hnodup, fun member hmember => (hall member hmember).1⟩, hone,
      fun member hmember => (hall member hmember).2⟩

theorem jsonLoads_dumps {j : Json} (h : Decodable limits j) :
    jsonLoads limits (Json.dumps j) = .ok j := by
  rw [jsonLoads, Json.loads_dumps h.1 h.2]
  rfl

theorem decodable_of_jsonLoads {text : String} {j : Json} (h : jsonLoads limits text = .ok j) :
    Decodable limits j := by
  unfold jsonLoads at h
  cases hloads : Json.loads limits.dialect text with
  | error e =>
    rw [hloads] at h
    cases h
  | ok j' =>
    rw [hloads] at h
    cases h
    exact Json.loads_wf rfl hloads

theorem envelope_decodable (hdepth : 1 ≤ limits.decodeDepth) :
    Decodable limits
      (.obj (envelopeOf workspaceId event ingestedAt requestId traceId saltVersion)) := by
  constructor
  · refine ⟨by simp [envelopeOf, Dict.keys], ?_⟩
    rw [Json.wfMembers_iff]
    cases hoccurred : event.occurredAt <;>
      simp [envelopeOf, isoOrNull, hoccurred, Json.WF]
  · have hmembers : Json.depthMembers
        (envelopeOf workspaceId event ingestedAt requestId traceId saltVersion) = 0 := by
      cases hoccurred : event.occurredAt <;>
        simp [envelopeOf, isoOrNull, hoccurred, Json.depthMembers, Json.depth]
    simp [Json.depth, hmembers, Json.Dialect.fits, Limits.dialect, hdepth]

theorem decodeEnvelope_kafkaValue (hdepth : 1 ≤ limits.decodeDepth) :
    decodeEnvelope limits (kafkaValue workspaceId event ingestedAt requestId traceId saltVersion) =
      .ok (.obj (envelopeOf workspaceId event ingestedAt requestId traceId saltVersion)) := by
  rw [decodeEnvelope, kafkaValue, utf8Decode_utf8]
  simp only
  rw [jsonLoads_dumps (envelope_decodable hdepth)]

/-- No required field of the envelope is empty. -/
structure Complete (workspaceId : String) (event : NormalizedEvent) : Prop where
  workspaceId : workspaceId ≠ ""
  vendor : event.vendor ≠ ""
  vendorEventId : event.vendorEventId ≠ ""
  eventType : event.eventType ≠ ""

theorem payloadText_ne_empty (columns : Columns) : payloadText columns ≠ "" := by
  rw [payloadText_eq]
  exact Json.dumps_obj_ne_empty columns

theorem checkRequired_envelope (h : Complete workspaceId event) :
    checkRequired limits (envelopeOf workspaceId event ingestedAt requestId traceId saltVersion) =
      .ok () := by
  have hworkspace : truthy (.str workspaceId) = true := by simpa [truthy] using h.workspaceId
  have hvendor : truthy (.str event.vendor) = true := by simpa [truthy] using h.vendor
  have hid : truthy (.str event.vendorEventId) = true := by simpa [truthy] using h.vendorEventId
  have htype : truthy (.str event.eventType) = true := by simpa [truthy] using h.eventType
  have hingested : truthy (.str ingestedAt.isoformat) = true := by
    simpa [truthy] using isoformat_ne_empty ingestedAt
  have hpayload : truthy (.str (payloadText event.columns)) = true := by
    simpa [truthy] using payloadText_ne_empty event.columns
  have hfind : (requiredFields.find? fun required => !truthy (get (envelopeOf workspaceId event
      ingestedAt requestId traceId saltVersion) required)) = none := by
    simp [requiredFields, envelopeOf, Py.get, getD, List.lookup, hworkspace, hvendor, hid, htype,
      hingested, hpayload]
  rw [checkRequired, hfind]

/-- The envelope has no customer reference of its own: it is the one of the columns. -/
theorem payloadCustomerRef_dumps {columns : Columns} (hcolumns : Decodable limits (.obj columns)) :
    payloadCustomerRef limits (.str (Json.dumps (.obj columns))) =
      .ok (pyOr (getD columns "customer_ref" (.str "")) (.str "")) := by
  simp only [payloadCustomerRef, jsonLoads_dumps hcolumns]

/-- What the archiver makes of an envelope. -/
def readBack (workspaceId : String) (event : NormalizedEvent) (ingestedAt : Datetime)
    (requestId traceId saltVersion : String) : ParsedEnvelope where
  workspaceId := .str workspaceId
  vendor := .str event.vendor
  vendorEventId := .str event.vendorEventId
  eventType := .str event.eventType
  receivedAt := aware ingestedAt
  eventAt := event.occurredAt.map aware
  payload := .str (Json.dumps (.obj event.columns))
  payloadVersion := .str ""
  customerRef := ""
  lawfulBasis := .str event.lawfulBasis
  purposeCode := .str event.purposeCode
  traceId := .str traceId
  requestId := .str requestId
  rawBytes := kafkaValue workspaceId event ingestedAt requestId traceId saltVersion

theorem pyOr_str_empty (s : String) : pyOr (.str s) (.str "") = .str s := by
  by_cases h : s = ""
  · rw [h]
    rfl
  · have htruthy : truthy (.str s) = true := by simpa [truthy] using h
    rw [pyOr, if_pos htruthy]

/-- The archiver reads back what was sent, with the customer reference of the columns. -/
theorem parseEnvelope_of_ref (h : Complete workspaceId event)
    (hcolumns : Decodable limits (.obj event.columns)) {customerRef : String}
    (href : pyStr limits (pyOr (getD event.columns "customer_ref" (.str "")) (.str "")) =
      .ok customerRef) :
    parseEnvelope limits (kafkaValue workspaceId event ingestedAt requestId traceId saltVersion) =
      .ok { readBack workspaceId event ingestedAt requestId traceId saltVersion with
        customerRef := customerRef } := by
  have hdepth := (decodable_obj_iff.mp hcolumns).2.1
  unfold parseEnvelope
  rw [decodeEnvelope_kafkaValue hdepth]
  have hget : ∀ name j, (envelopeOf workspaceId event ingestedAt requestId traceId
      saltVersion).lookup name = some j → Py.get (envelopeOf workspaceId event ingestedAt requestId
        traceId saltVersion) name = j := by
    intro name j hname
    rw [Py.get, getD, hname]
    rfl
  have hdefault : ∀ name j, (envelopeOf workspaceId event ingestedAt requestId traceId
      saltVersion).lookup name = some j → getD (envelopeOf workspaceId event ingestedAt requestId
        traceId saltVersion) name (.str "") = j := by
    intro name j hname
    rw [getD, hname]
    rfl
  have hversion : getD (envelopeOf workspaceId event ingestedAt requestId traceId saltVersion)
      "payload_version" (.str "") = .str "" := rfl
  have hstated : getD (envelopeOf workspaceId event ingestedAt requestId traceId saltVersion)
      "customer_ref" (.str "") = .str "" := rfl
  have hfalsy : truthy (.str "") = false := rfl
  simp only [bind, Except.bind, asDict, checkRequired_envelope h,
    hget "ingested_at" _ rfl, parseReceivedAt_isoformat, hget "occurred_at" _ rfl,
    parseEventAt_isoOrNull, hstated, hfalsy, hversion, hget "payload" _ rfl,
    Bool.false_eq_true, if_false, payloadText_eq, payloadCustomerRef_dumps hcolumns, href,
    hget "workspace_id" _ rfl, hget "vendor" _ rfl, hget "vendor_event_id" _ rfl,
    hget "event_type" _ rfl, hdefault "lawful_basis" _ rfl, hdefault "purpose_code" _ rfl,
    hdefault "trace_id" _ rfl, hdefault "request_id" _ rfl, pyOr_str_empty]
  rfl

/-- Columns without a reference are read back with none. -/
theorem parseEnvelope_kafkaValue (h : Complete workspaceId event)
    (hcolumns : Decodable limits (.obj event.columns))
    (href : event.columns.lookup "customer_ref" = none) :
    parseEnvelope limits (kafkaValue workspaceId event ingestedAt requestId traceId saltVersion) =
      .ok (readBack workspaceId event ingestedAt requestId traceId saltVersion) := by
  have hnone : pyStr limits (pyOr (getD event.columns "customer_ref" (.str "")) (.str "")) =
      .ok "" := by
    have hget : getD event.columns "customer_ref" (.str "") = .str "" := by simp [getD, href]
    rw [hget]
    rfl
  exact parseEnvelope_of_ref h hcolumns hnone

/-- `repr` follows whatever the columns can hold: they nest one level deeper themselves. -/
theorem customerRef_shown (hrepr : limits.decodeDepth ≤ limits.reprDepth + 1)
    {columns : Columns} (hcolumns : Decodable limits (.obj columns)) :
    ∃ text, pyStr limits (pyOr (getD columns "customer_ref" (.str "")) (.str "")) = .ok text := by
  have hmembers := (decodable_obj_iff.mp hcolumns).2.2
  rw [pyStr_ok_iff, pyOr, getD]
  cases hlookup : columns.lookup "customer_ref" with
  | none =>
    rw [Option.getD_none, ite_self]
    exact Nat.zero_le _
  | some ref =>
    obtain ⟨front, rest, hsplit, -⟩ := List.lookup_eq_some_iff.mp hlookup
    have hfits : FitsInside limits ref := hmembers ("customer_ref", ref) (by simp [hsplit])
    rw [Option.getD_some]
    split
    · have hdepth := hfits.2
      omega
    · exact Nat.zero_le _

theorem aware_of_isSome {d : Datetime} (h : d.offset.isSome = true) : aware d = d := by
  unfold aware
  split
  · next hnone =>
    rw [hnone] at h
    cases h
  · rfl

/-- What the archiver reads is the event as it was sent, and the decoder takes the columns
out of its payload. -/
structure ReadsSent (limits : Limits) (workspaceId : String) (event : NormalizedEvent)
    (ingestedAt : Datetime) (requestId traceId : String) (parsed : ParsedEnvelope) : Prop where
  workspaceId : parsed.workspaceId = .str workspaceId
  vendor : parsed.vendor = .str event.vendor
  vendorEventId : parsed.vendorEventId = .str event.vendorEventId
  eventType : parsed.eventType = .str event.eventType
  receivedAt : parsed.receivedAt = ingestedAt
  eventAt : parsed.eventAt = event.occurredAt
  lawfulBasis : parsed.lawfulBasis = .str event.lawfulBasis
  purposeCode : parsed.purposeCode = .str event.purposeCode
  traceId : parsed.traceId = .str traceId
  requestId : parsed.requestId = .str requestId
  payload : ∃ text, parsed.payload = .str text ∧ jsonLoads limits text = .ok (.obj event.columns)

/-- Every event whose times are aware and whose columns are JSON is read back as it was
sent. -/
theorem parseEnvelope_readsSent (hrepr : limits.decodeDepth ≤ limits.reprDepth + 1)
    (h : Complete workspaceId event) (hcolumns : Decodable limits (.obj event.columns))
    (hingested : ingestedAt.offset.isSome = true)
    (hoccurred : ∀ d, event.occurredAt = some d → d.offset.isSome = true) :
    ∃ parsed, parseEnvelope limits
        (kafkaValue workspaceId event ingestedAt requestId traceId saltVersion) = .ok parsed ∧
      ReadsSent limits workspaceId event ingestedAt requestId traceId parsed := by
  obtain ⟨customerRef, href⟩ := customerRef_shown hrepr hcolumns
  refine ⟨_, parseEnvelope_of_ref h hcolumns href, ?_⟩
  have heventAt : event.occurredAt.map aware = event.occurredAt := by
    cases hd : event.occurredAt with
    | none => rfl
    | some d => rw [Option.map_some, aware_of_isSome (hoccurred d hd)]
  exact {
    workspaceId := rfl
    vendor := rfl
    vendorEventId := rfl
    eventType := rfl
    receivedAt := aware_of_isSome hingested
    eventAt := heventAt
    lawfulBasis := rfl
    purposeCode := rfl
    traceId := rfl
    requestId := rfl
    payload := ⟨_, rfl, jsonLoads_dumps hcolumns⟩ }

def halfPastNine : Time := .of 9 30 0 250000

/-- A morning in India. -/
def indianMorning : Datetime :=
  ⟨.june 1, halfPastNine, some ⟨19800000000, by decide⟩⟩

theorem unicode_columns_readSent :
    let event : NormalizedEvent := ⟨"shopify", "1", "order", some indianMorning, "", "", [("note",
      .str "₹ 12½"), ("customer_ref", .arr [.int 7, .obj [("é", .null)]])]⟩
    ∃ parsed, parseEnvelope ⟨3, 2⟩ (kafkaValue "w" event indianMorning "r" "t" "v1") = .ok parsed ∧
      ReadsSent ⟨3, 2⟩ "w" event indianMorning "r" "t" parsed := by
  intro event
  have hcomplete : Complete "w" event :=
    ⟨by decide, (by decide : "shopify" ≠ ""), (by decide : "1" ≠ ""), (by decide : "order" ≠ "")⟩
  have hcolumns : Decodable ⟨3, 2⟩ (.obj event.columns) := by
    refine decodable_obj_iff.mpr ⟨by decide, by decide, ?_⟩
    simp [event, FitsInside, Json.WF, Json.WFItems, Json.WFMembers, Json.depth, Json.depthItems,
      Json.depthMembers, Dict.keys, Json.Dialect.fitsDigits, Limits.dialect, intMaxStrDigits]
    decide
  refine parseEnvelope_readsSent (by decide) hcomplete hcolumns rfl fun d hd => ?_
  cases hd
  rfl

/-- An event without an id is refused. -/
theorem parseEnvelope_empty_id (hdepth : 1 ≤ limits.decodeDepth)
    (hid : event.vendorEventId = "") (parsed : ParsedEnvelope) :
    parseEnvelope limits (kafkaValue workspaceId event ingestedAt requestId traceId saltVersion) ≠
      .ok parsed := by
  have hfound : ∃ required, (requiredFields.find? fun required => !truthy (Py.get (envelopeOf
      workspaceId event ingestedAt requestId traceId saltVersion) required)) = some required := by
    apply Option.isSome_iff_exists.mp
    rw [List.find?_isSome]
    refine ⟨"vendor_event_id", by simp [requiredFields], ?_⟩
    have hget : Py.get (envelopeOf workspaceId event ingestedAt requestId traceId saltVersion)
        "vendor_event_id" = .str event.vendorEventId := rfl
    rw [hget, hid]
    rfl
  obtain ⟨required, hrequired⟩ := hfound
  unfold parseEnvelope
  rw [decodeEnvelope_kafkaValue hdepth]
  simp only [bind, Except.bind, asDict, checkRequired, hrequired]
  cases pyRepr limits (Py.get (envelopeOf workspaceId event ingestedAt requestId traceId
    saltVersion) "workspace_id") <;> exact nofun

end RoundTrip

end BrainV2.Ingest
