import BrainV2.Ingest.Archiver
import BrainV2.Ingest.EnvelopeReading

/-!
# How `parse_envelope` fails

The consumer skips a message on a `ValueError` and takes every other exception
for a failed insert. `Ends` is the weakest precondition of a computation that
may end so; every step of `parse_envelope` has its rule, and their composition
is `Handled`.
-/

namespace BrainV2.Ingest

open Py

section Ends

variable {α β : Type}

/-- The result has the property, or a `ValueError` was raised. -/
def Ends (r : Except PyExc α) (post : α → Prop) : Prop :=
  match r with
  | .ok a => post a
  | .error e => e.isValueError = true

@[simp] theorem ends_ok {a : α} {post : α → Prop} : Ends (.ok a) post ↔ post a := Iff.rfl

@[simp] theorem ends_error {e : PyExc} {post : α → Prop} :
    Ends (.error e) post ↔ e.isValueError = true := Iff.rfl

theorem ends_bind {r : Except PyExc α} {f : α → Except PyExc β} {post : β → Prop} :
    Ends (r >>= f) post ↔ Ends r fun a => Ends (f a) post := by
  cases r <;> exact Iff.rfl

theorem ends_congr {r : Except PyExc α} {post post' : α → Prop}
    (h : ∀ a, r = .ok a → (post a ↔ post' a)) : Ends r post ↔ Ends r post' := by
  cases r with
  | error e => exact Iff.rfl
  | ok a => exact h a rfl

end Ends

section Fields

def isText : Json → Bool
  | .str _ => true
  | _ => false

/-- A text, where there is a value at all. -/
def optionalText (j : Json) : Bool := !truthy j || isText j

theorem isText_iff {j : Json} : isText j = true ↔ ∃ s, j = .str s := by
  cases j <;> simp [isText]

theorem isText_pyOr {j : Json} : isText (pyOr j (.str "")) = optionalText j := by
  unfold pyOr optionalText
  cases truthy j <;> rfl

theorem ends_asDict {j : Json} {post : List (String × Json) → Prop} :
    Ends (asDict j) post ↔ ∃ members, j = .obj members ∧ post members := by
  cases j <;> simp [asDict, noAttribute, PyExc.isValueError, ExcClass.isValueError]

theorem ends_asText {j : Json} {post : String → Prop} :
    Ends (asText j) post ↔ ∃ s, j = .str s ∧ post s := by
  cases j <;> simp [asText, noAttribute, PyExc.isValueError, ExcClass.isValueError]

theorem ends_pyStr {limits : Limits} {j : Json} {post : Prop} :
    Ends (pyStr limits j) (fun _ => post) ↔ j.depth ≤ limits.reprDepth ∧ post := by
  cases h : pyStr limits j with
  | ok text =>
    have hdepth := pyStr_ok_iff.mp ⟨text, h⟩
    simp [hdepth]
  | error e =>
    have hdepth : ¬ j.depth ≤ limits.reprDepth := by
      intro hle
      obtain ⟨text, htext⟩ := pyStr_ok_iff.mpr hle
      rw [h] at htext
      cases htext
    have he : e.isValueError = false := by
      unfold pyStr at h
      split at h
      · cases h
      · split at h <;> cases h
        rfl
    simp [hdepth, he]

/-- One of the required fields is absent or empty. -/
def missesField (envelope : List (String × Json)) : Bool :=
  requiredFields.any fun required => !truthy (get envelope required)

theorem ends_checkRequired {limits : Limits} {envelope : List (String × Json)} {post : Prop} :
    Ends (checkRequired limits envelope) (fun _ => post) ↔
      if missesField envelope then (get envelope "workspace_id").depth ≤ limits.reprDepth
      else post := by
  unfold checkRequired missesField
  cases hfind : requiredFields.find? fun required => !truthy (get envelope required) with
  | none =>
    have hany : (requiredFields.any fun required => !truthy (get envelope required)) = false :=
      List.any_eq_false.mpr (List.find?_eq_none.mp hfind)
    rw [hany]
    simp
  | some required =>
    have hfalsy : (!truthy (get envelope required)) = true := by
      have h := List.find?_some hfind
      exact h
    have hany : (requiredFields.any fun required => !truthy (get envelope required)) = true :=
      List.any_eq_true.mpr ⟨required, List.mem_of_find?_eq_some hfind, hfalsy⟩
    rw [hany, if_pos rfl, ends_bind, pyRepr]
    split
    · next hdepth => simp [hdepth, PyExc.isValueError, ExcClass.isValueError]
    · next hdepth => simp [hdepth, PyExc.isValueError, ExcClass.isValueError]

/-- What `parse_envelope` hands to `fromisoformat` for an `ingested_at`. -/
def receivedText (text : String) : String :=
  if isDigitText (bareDigits text) then zuluToOffset text else text

/-- `fromisoformat` takes the text. -/
def isIso (text : String) : Bool := (fromIsoformat text).isOk

theorem ends_parseReceivedAt {j : Json} {post : Prop} :
    Ends (parseReceivedAt j) (fun _ => post) ↔
      ∃ text, j = .str text ∧ (isIso (receivedText text) = true → post) := by
  unfold parseReceivedAt isIso receivedText
  rw [ends_bind, ends_asText]
  refine exists_congr fun text => and_congr_right fun _ => ?_
  generalize fromIsoformat (if isDigitText (bareDigits text) then zuluToOffset text else text) = r
  cases r with
  | ok d => simp [Except.isOk, Except.toBool]
  | error e => simp [Except.isOk, Except.toBool, PyExc.isValueError, ExcClass.isValueError]

theorem ends_parseEventAt {j : Json} {post : Prop} :
    Ends (parseEventAt j) (fun _ => post) ↔ optionalText j = true ∧ post := by
  unfold parseEventAt optionalText
  cases truthy j with
  | false => simp
  | true =>
    rw [if_pos rfl, ends_bind, ends_asText]
    rw [Bool.not_true, Bool.false_or, isText_iff, ← exists_and_right]
    refine exists_congr fun text => and_congr_right fun _ => ?_
    cases fromIsoformat (zuluToOffset text) <;> exact Iff.rfl

theorem aware_isSome (d : Datetime) : (aware d).offset.isSome = true := by
  unfold aware
  split
  · rfl
  · next h => rw [h]; rfl

/-- A naive `ingested_at` is taken for UTC, so the time is always aware. -/
theorem parseReceivedAt_aware {j : Json} {d : Datetime} (h : parseReceivedAt j = .ok d) :
    d.offset.isSome = true := by
  unfold parseReceivedAt at h
  obtain ⟨text, -, h⟩ := Py.bind_ok.mp h
  generalize fromIsoformat (if isDigitText (bareDigits text) then zuluToOffset text else text) = r
    at h
  cases r with
  | ok d' =>
    cases h
    exact aware_isSome d'
  | error e => cases h

end Fields

section Reference

/-- The envelope's own customer reference, as the source looks it up. -/
def statedRef (envelope : List (String × Json)) : Json := getD envelope "customer_ref" (.str "")

/-- The reference of the columns comes out as a text, once the rest is in order. -/
def columnsRefHandled (limits : Limits) (columns : List (String × Json)) (rest : Prop) : Prop :=
  (pyOr (statedRef columns) (.str "")).depth ≤ limits.reprDepth ∧ rest

/-- Where the envelope states no reference, its payload is decoded for one. What is no
JSON counts for none; an integer of too many digits is a `ValueError` that nothing
catches; nesting past the decoder's limit is no `ValueError`. -/
def payloadRefHandled (limits : Limits) (payload : Json) (rest : Prop) : Prop :=
  match payload with
  | .str text =>
    match Json.loads limits.dialect text with
    | .ok (.obj columns) => columnsRefHandled limits columns rest
    | .ok _ => rest
    | .error (.malformed _) => rest
    | .error .intTooLong => True
    | .error .tooDeep => False
  | .obj columns => columnsRefHandled limits columns rest
  | _ => rest

def refHandled (limits : Limits) (envelope : List (String × Json)) (rest : Prop) : Prop :=
  if truthy (statedRef envelope) then (statedRef envelope).depth ≤ limits.reprDepth ∧ rest
  else payloadRefHandled limits (get envelope "payload") rest

theorem ends_emptyRef {limits : Limits} {rest : Prop} :
    Ends (pyStr limits (.str "")) (fun _ => rest) ↔ rest := Iff.rfl

theorem ends_payloadCustomerRef {limits : Limits} {payload : Json} {rest : Prop} :
    Ends (payloadCustomerRef limits payload) (fun ref => Ends (pyStr limits ref) fun _ => rest) ↔
      payloadRefHandled limits payload rest := by
  unfold payloadCustomerRef payloadRefHandled
  cases payload with
  | str text =>
    simp only [jsonLoads]
    cases Json.loads limits.dialect text with
    | ok j => cases j <;> first | exact ends_pyStr | exact Iff.rfl
    | error fault => cases fault <;> simp [Except.mapError, faultExc, digitLimitExc,
        PyExc.isValueError, ExcClass.isValueError, ends_emptyRef]
  | obj columns => exact ends_pyStr
  | _ => exact Iff.rfl

end Reference

section Envelope

/-- The identifiers of a parsed envelope are texts and its receipt is at an aware time. -/
structure ParsedEnvelope.Typed (env : ParsedEnvelope) : Prop where
  workspaceId : isText env.workspaceId = true
  vendor : isText env.vendor = true
  vendorEventId : isText env.vendorEventId = true
  eventType : isText env.eventType = true
  traceId : isText env.traceId = true
  requestId : isText env.requestId = true
  receivedAt : env.receivedAt.offset.isSome = true

/-- The identifiers the envelope holds are texts. -/
structure TextIds (envelope : List (String × Json)) : Prop where
  required : ∀ name ∈ ["workspace_id", "vendor", "vendor_event_id", "event_type"],
    isText (get envelope name) = true
  optional : ∀ name ∈ ["trace_id", "request_id"],
    optionalText (getD envelope name (.str "")) = true

/-- The JSON object is read with texts for identifiers, or refused with a `ValueError`. -/
def envelopeHandled (limits : Limits) (envelope : List (String × Json)) : Prop :=
  if missesField envelope then (get envelope "workspace_id").depth ≤ limits.reprDepth
  else ∃ ingestedAt, get envelope "ingested_at" = .str ingestedAt ∧
    (isIso (receivedText ingestedAt) = true →
      optionalText (get envelope "occurred_at") = true ∧
        refHandled limits envelope (TextIds envelope))

/-- The same of the bytes of a message: those that are no UTF-8 or no JSON are refused,
but a JSON value that is no object is not, nor is nesting past the decoder's limit. -/
def Handled (limits : Limits) (rawBytes : List UInt8) : Prop :=
  match utf8Decode rawBytes with
  | none => True
  | some text =>
    match Json.loads limits.dialect text with
    | .ok (.obj envelope) => envelopeHandled limits envelope
    | .ok _ => False
    | .error .tooDeep => False
    | .error _ => True

theorem ends_decodeEnvelope {limits : Limits} {rawBytes : List UInt8}
    {post : List (String × Json) → Prop} :
    Ends (decodeEnvelope limits rawBytes >>= asDict) post ↔
      match utf8Decode rawBytes with
      | none => True
      | some text =>
        match Json.loads limits.dialect text with
        | .ok (.obj envelope) => post envelope
        | .ok _ => False
        | .error .tooDeep => False
        | .error _ => True := by
  unfold decodeEnvelope
  cases utf8Decode rawBytes with
  | none => exact iff_of_true rfl trivial
  | some text =>
    simp only [jsonLoads]
    cases Json.loads limits.dialect text with
    | ok j =>
      rw [ends_bind]
      simp only [Except.mapError, ends_ok, ends_asDict]
      cases j <;> simp
    | error fault => cases fault <;> simp [Except.mapError, faultExc, digitLimitExc, bind,
        Except.bind, PyExc.isValueError, ExcClass.isValueError]

theorem typed_iff {envelope : List (String × Json)} {env : ParsedEnvelope}
    (hworkspace : env.workspaceId = get envelope "workspace_id")
    (hvendor : env.vendor = get envelope "vendor")
    (hid : env.vendorEventId = get envelope "vendor_event_id")
    (htype : env.eventType = get envelope "event_type")
    (htrace : env.traceId = pyOr (getD envelope "trace_id" (.str "")) (.str ""))
    (hrequest : env.requestId = pyOr (getD envelope "request_id" (.str "")) (.str ""))
    (hreceived : env.receivedAt.offset.isSome = true) : env.Typed ↔ TextIds envelope := by
  have hrequired : (∀ name ∈ ["workspace_id", "vendor", "vendor_event_id", "event_type"],
      isText (get envelope name) = true) ↔ isText env.workspaceId = true ∧
        isText env.vendor = true ∧ isText env.vendorEventId = true ∧
          isText env.eventType = true := by
    simp [hworkspace, hvendor, hid, htype]
  have hoptional : (∀ name ∈ ["trace_id", "request_id"],
      optionalText (getD envelope name (.str "")) = true) ↔
        isText env.traceId = true ∧ isText env.requestId = true := by
    simp [htrace, hrequest, isText_pyOr]
  constructor
  · intro h
    exact ⟨hrequired.mpr ⟨h.workspaceId, h.vendor, h.vendorEventId, h.eventType⟩,
      hoptional.mpr ⟨h.traceId, h.requestId⟩⟩
  · intro h
    obtain ⟨hw, hv, hi, ht⟩ := hrequired.mp h.required
    obtain ⟨htr, hr⟩ := hoptional.mp h.optional
    exact ⟨hw, hv, hi, ht, htr, hr, hreceived⟩

theorem ends_parseEnvelope {limits : Limits} {rawBytes : List UInt8} :
    Ends (parseEnvelope limits rawBytes) ParsedEnvelope.Typed ↔ Handled limits rawBytes := by
  unfold parseEnvelope Handled
  rw [← bind_assoc, ends_bind]
  refine (ends_congr fun envelope _ => ?_).trans ends_decodeEnvelope
  unfold envelopeHandled
  rw [ends_bind]
  refine (ends_congr fun _ _ => ?_).trans ends_checkRequired
  rw [ends_bind]
  refine (ends_congr fun receivedAt hreceived => ?_).trans ends_parseReceivedAt
  have haware := parseReceivedAt_aware hreceived
  rw [ends_bind]
  refine (ends_congr fun eventAt _ => ?_).trans ends_parseEventAt
  -- the reference is the last that can fail; the fields are copied after it
  unfold refHandled statedRef
  by_cases hstated : truthy (getD envelope "customer_ref" (.str "")) = true
  · simp only [hstated, if_true]
    rw [ends_bind, ends_ok, ends_bind]
    refine (ends_congr fun ref _ => ?_).trans ends_pyStr
    exact typed_iff rfl rfl rfl rfl rfl rfl haware
  · simp only [hstated, Bool.false_eq_true, if_false]
    rw [ends_bind]
    refine (ends_congr fun ref _ => ?_).trans ends_payloadCustomerRef
    rw [ends_bind]
    refine ends_congr fun text _ => ?_
    exact typed_iff rfl rfl rfl rfl rfl rfl haware

/-- A message is read with texts for identifiers and an aware time, or it is refused with
a `ValueError`, and then the consumer commits and skips it. -/
def ReadOrSkipped (settings : ArchiverSettings) (rawBytes : List UInt8) : Prop :=
  match parseEnvelope settings.limits rawBytes with
  | .ok env => env.Typed
  | .error e => e.isValueError = true ∧
    ∀ outside, Archiver.handle settings (some rawBytes) outside = (none, true)

/-- A refusal with a `ValueError` is committed, whatever ClickHouse does. -/
theorem handle_of_valueError {settings : ArchiverSettings} {rawBytes : List UInt8} {e : PyExc}
    (h : parseEnvelope settings.limits rawBytes = .error e) (he : e.isValueError = true)
    (outside : MessageEnv) :
    Archiver.handle settings (some rawBytes) outside = (none, true) := by
  cases rawBytes with
  | nil => rfl
  | cons b bytes => simp only [Archiver.handle, processMessage, h, he]

/-- A message is read or skipped exactly when its JSON has the types the code relies on, as
far as it gets in reading it. -/
theorem readOrSkipped_iff (settings : ArchiverSettings) (rawBytes : List UInt8) :
    ReadOrSkipped settings rawBytes ↔ Handled settings.limits rawBytes := by
  rw [← ends_parseEnvelope]
  unfold ReadOrSkipped
  cases h : parseEnvelope settings.limits rawBytes with
  | ok env => exact Iff.rfl
  | error e => exact and_iff_left_of_imp fun he => handle_of_valueError h he

/-- A JSON array is taken for a failed insert: the offset is not committed. -/
theorem arrayMessage_not_skipped :
    ¬ ReadOrSkipped archiverSettings (utf8 "[]") ∧
      ∀ outside, Archiver.handle archiverSettings (some (utf8 "[]")) outside = (none, false) := by
  have hdecode : decodeEnvelope archiverSettings.limits (utf8 "[]") = .ok (.arr []) := by
    have hloads : jsonLoads archiverSettings.limits "[]" = .ok (.arr []) :=
      jsonLoads_dumps (j := .arr []) ⟨trivial, by decide⟩
    rw [decodeEnvelope, utf8Decode_utf8]
    simp only
    rw [hloads]
  have hparse : parseEnvelope archiverSettings.limits (utf8 "[]") =
      .error (noAttribute (.arr []) "get") := by
    rw [parseEnvelope, hdecode]
    rfl
  constructor
  · intro h
    rw [ReadOrSkipped, hparse] at h
    cases h.1
  · intro outside
    have hbytes : utf8 "[]" = [91, 93] := by decide
    rw [hbytes] at hparse ⊢
    simp only [Archiver.handle, processMessage, hparse]
    rfl

end Envelope

end BrainV2.Ingest
