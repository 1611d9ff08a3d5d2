import BrainV2.Py.Values
import BrainV2.Transform.CircuitBreaker
import BrainV2.Transform.Graduate
import BrainV2.Transform.Tick

/-!
# The transform consumer

* `buildDlqRecord`: the record of a failed event for the dead letter queue; it needs a workspace
  and an event id;
* `produceDlqEvent`: produce it; no failure is raised to the caller;
* `produceDlqEvent_true_iff`: when a record was produced;
* `processOneRow`: circuit check, graduation, and the three ways a failure goes:
  to the dead letter queue, to a retry, or past an open circuit;
* `Outcome.advances`: what `_process_one_row` returns;
* `processOneRow_admitted`: what comes of a row the circuit lets through;
* `transformProcessor`: the processor of the transform tick.
-/

namespace BrainV2.Transform

open Py

/-! ### The dead letter queue -/

def dlqTopicName : String := "integrations.dlq.v1"

def maxErrorDetailChars : Nat := 500

def maxErrorClassChars : Nat := 200

def maxRawBytesB64Chars : Nat := 67000

structure DlqEvent where
  rawEventId : String
  workspaceId : String
  vendor : String
  eventType : String
  errorClass : String
  errorDetail : String
  sourceTopic : String
  sourcePartition : Int
  sourceOffset : Int
  rawBytes : Option (List UInt8)
  traceId : String
  requestId : String

abbrev DlqRecord := List (String × Json)

def truncate (s : String) (most : Nat) : String := String.ofList (s.toList.take most)

def buildDlqRecord (event : DlqEvent) (producedAt : String) : Except PyExc DlqRecord :=
  if event.workspaceId = "" then
    .error ⟨.valueError, "build_dlq_record: workspace_id must be non-empty"⟩
  else if event.rawEventId = "" then
    .error ⟨.valueError, "build_dlq_record: raw_event_id must be non-empty"⟩
  else
    let boundedError := truncate event.errorDetail maxErrorDetailChars
    let rawBytesB64 := String.ofList
      ((b64encode (event.rawBytes.getD [])).take maxRawBytesB64Chars)
    .ok [
      ("schema_version", .str "1.0"),
      ("topic", .str dlqTopicName),
      ("raw_event_id", .str event.rawEventId),
      ("workspace_id", .str event.workspaceId),
      ("vendor", .str event.vendor),
      ("event_type", .str event.eventType),
      ("error_class", .str (truncate event.errorClass maxErrorClassChars)),
      ("error_detail", .str boundedError),
      ("source_topic", .str event.sourceTopic),
      ("source_partition", .int event.sourcePartition),
      ("source_offset", .int event.sourceOffset),
      ("raw_bytes_b64", .str rawBytesB64),
      ("trace_id", .str event.traceId),
      ("request_id", .str event.requestId),
      ("produced_at", .str producedAt)]

/-- A message on a topic: its key and its value. -/
structure KafkaMessage where
  key : List UInt8
  value : List UInt8
deriving DecidableEq

/-- Whether the record was produced, and the topic after it; `send` answers the
producer's `send_and_wait`. -/
def produceDlqEvent (send : Except PyExc Unit) (event : DlqEvent) (producedAt : String)
    (topic : List KafkaMessage) : Bool × List KafkaMessage :=
  match buildDlqRecord event producedAt with
  | .error _ => (false, topic)
  | .ok record =>
    match send with
    | .error _ => (false, topic)
    | .ok () => (true, topic ++ [⟨utf8 event.workspaceId, utf8 (Json.dumps (.obj record))⟩])

theorem buildDlqRecord_ok_iff (event : DlqEvent) (producedAt : String) :
    (∃ record, buildDlqRecord event producedAt = .ok record) ↔
      event.workspaceId ≠ "" ∧ event.rawEventId ≠ "" := by
  unfold buildDlqRecord
  by_cases hw : event.workspaceId = ""
  · simp [hw]
  by_cases hr : event.rawEventId = ""
  · simp [hw, hr]
  · simp [hw, hr]

/-- What reaches the topic: nothing, or the one record of this event. -/
theorem produceDlqEvent_cases (send : Except PyExc Unit) (event : DlqEvent) (producedAt : String)
    (topic : List KafkaMessage) :
    (∃ record, buildDlqRecord event producedAt = .ok record ∧ send = .ok () ∧
      produceDlqEvent send event producedAt topic =
        (true, topic ++ [⟨utf8 event.workspaceId, utf8 (Json.dumps (.obj record))⟩])) ∨
    ((event.workspaceId = "" ∨ event.rawEventId = "" ∨ ∃ e, send = .error e) ∧
      produceDlqEvent send event producedAt topic = (false, topic)) := by
  unfold produceDlqEvent
  cases hbuild : buildDlqRecord event producedAt with
  | error e =>
    have hnot := mt (buildDlqRecord_ok_iff event producedAt).mpr (by simp [hbuild])
    rw [not_and_or, not_ne_iff, not_ne_iff] at hnot
    refine Or.inr ⟨?_, rfl⟩
    rcases hnot with h | h
    · exact Or.inl h
    · exact Or.inr (Or.inl h)
  | ok record =>
    cases send with
    | error e => exact Or.inr ⟨Or.inr (Or.inr ⟨e, rfl⟩), rfl⟩
    | ok u => exact Or.inl ⟨record, rfl, rfl, rfl⟩

theorem produceDlqEvent_true_iff {send : Except PyExc Unit} {event : DlqEvent}
    {producedAt : String} {topic : List KafkaMessage} :
    (produceDlqEvent send event producedAt topic).1 = true ↔
      event.workspaceId ≠ "" ∧ event.rawEventId ≠ "" ∧ send = .ok () := by
  rcases produceDlqEvent_cases send event producedAt topic with
    ⟨record, hbuild, hsend, heq⟩ | ⟨hwhy, heq⟩
  · obtain ⟨hw, hr⟩ := (buildDlqRecord_ok_iff event producedAt).mp ⟨record, hbuild⟩
    rw [heq]
    simp [hw, hr, hsend]
  · rw [heq]
    rcases hwhy with h | h | ⟨e, h⟩ <;> simp [h]

/-! ### One row -/

def transformSourceTopic : String := "integrations.transform.v1"

/-- What the outside answers while one row is handled: the monotonic clock in
`is_open` and in `record_failure`, the database on the upsert, the producer of
the dead letter queue on a send where there is one, and the wall clock. -/
structure RowEnv where
  checkedAt : Int
  failedAt : Int
  pg : Except PyExc Unit
  dlqProducer : Option (Except PyExc Unit)
  producedAt : String

structure ProcState where
  breaker : CircuitBreaker
  dlq : List KafkaMessage

def ProcState.fresh : ProcState := ⟨.new, []⟩

/-- What comes of a row; `produced` says whether its DLQ record was produced. -/
inductive Outcome where
  | circuitOpen (produced : Bool)
  | terminal (e : PyExc) (produced : Bool)
  | retryable (e : PyExc) (failedAt : Int)
  | skipped
  | upserted
deriving DecidableEq

/-- Whether the cursor advances past the row: not after a retryable error. -/
def Outcome.advances : Outcome → Bool
  | .retryable _ _ => false
  | _ => true

def BronzeRow.breakerKey (row : BronzeRow) : BreakerKey := (row.workspaceId, row.vendor)

def dlqEventOf (row : BronzeRow) (errorClass errorDetail : String) : DlqEvent where
  rawEventId := row.idempotencyKey
  workspaceId := row.workspaceId
  vendor := row.vendor
  eventType := row.eventType
  errorClass := errorClass
  errorDetail := errorDetail
  sourceTopic := transformSourceTopic
  sourcePartition := 0
  sourceOffset := 0
  rawBytes := if row.payload = "" then none else some (utf8 row.payload)
  traceId := ""
  requestId := ""

/-- Without a producer the row is dropped with a warning. -/
def sendToDlq (env : RowEnv) (row : BronzeRow) (errorClass errorDetail : String)
    (topic : List KafkaMessage) : Bool × List KafkaMessage :=
  match env.dlqProducer with
  | none => (false, topic)
  | some send => produceDlqEvent send (dlqEventOf row errorClass errorDetail) env.producedAt topic

structure Settings where
  breaker : BreakerConfig
  limits : Limits
  registry : TransformRegistry

def graduateRow (settings : Settings) (row : BronzeRow) (env : RowEnv) :
    Except PyExc GraduationResult :=
  graduateRawEvent settings.limits settings.registry (fun _ _ => env.pg) row.workspaceId row.vendor
    row.eventType row.payload row.idempotencyKey

/-- `_process_one_row` -/
def processOneRow (settings : Settings) (st : ProcState) (row : BronzeRow) (env : RowEnv) :
    Outcome × ProcState :=
  let key := row.breakerKey
  let (isOpen, breaker) := st.breaker.isOpen settings.breaker env.checkedAt key
  if isOpen then
    let (produced, dlq) := sendToDlq env row "CircuitOpenError"
      "Circuit breaker is OPEN — event routed to DLQ" st.dlq
    (.circuitOpen produced, ⟨breaker, dlq⟩)
  else
    match graduateRow settings row env with
    | .error e =>
      let failed := breaker.recordFailure settings.breaker env.failedAt key
      if e.isValueError then
        let (produced, dlq) := sendToDlq env row e.cls.name e.text st.dlq
        (.terminal e produced, ⟨failed, dlq⟩)
      else (.retryable e env.failedAt, ⟨failed, st.dlq⟩)
    | .ok result =>
      let healed := breaker.recordSuccess key
      if result.skipped then (.skipped, ⟨healed, st.dlq⟩) else (.upserted, ⟨healed, st.dlq⟩)

def transformProcessor (settings : Settings) : Processor ProcState RowEnv Outcome where
  run := processOneRow settings
  advances := Outcome.advances

abbrev TransformConsumer := Consumer ProcState Outcome

section Outcomes

variable {settings : Settings} {st : ProcState} {row : BronzeRow} {env : RowEnv}

/-- The circuit lets the row through. -/
def Admitted (settings : Settings) (st : ProcState) (row : BronzeRow) (env : RowEnv) : Prop :=
  ((st.breaker row.breakerKey).isOpen settings.breaker env.checkedAt).1 = false

theorem processOneRow_open (h : ¬ Admitted settings st row env) :
    (processOneRow settings st row env).1 = .circuitOpen (sendToDlq env row "CircuitOpenError"
      "Circuit breaker is OPEN — event routed to DLQ" st.dlq).1 := by
  have hopen : (st.breaker.isOpen settings.breaker env.checkedAt row.breakerKey).1 = true := by
    simpa [Admitted, CircuitBreaker.isOpen] using h
  simp [processOneRow, hopen]

/-- A row the circuit lets through is skipped, upserted, sent to the queue on a
`ValueError`, or left for a retry on anything else. -/
theorem processOneRow_admitted (h : Admitted settings st row env) :
    (processOneRow settings st row env).1 =
      match graduateRow settings row env with
      | .error e =>
        if e.isValueError then .terminal e (sendToDlq env row e.cls.name e.text st.dlq).1
        else .retryable e env.failedAt
      | .ok result => if result.skipped then .skipped else .upserted := by
  have hopen : (st.breaker.isOpen settings.breaker env.checkedAt row.breakerKey).1 = false := h
  simp only [processOneRow, hopen, Bool.false_eq_true, if_false]
  cases graduateRow settings row env with
  | error e =>
    simp only
    split <;> rfl
  | ok result =>
    simp only
    split <;> rfl

/-- A rejected row leaves the breaker alone. -/
theorem processOneRow_open_breaker (h : ¬ Admitted settings st row env) :
    (processOneRow settings st row env).2.breaker = st.breaker := by
  have hreject : ((st.breaker row.breakerKey).isOpen settings.breaker env.checkedAt).1 = true := by
    simpa [Admitted] using h
  have hsame := BreakerCell.isOpen_rejects hreject
  have hopen : (st.breaker.isOpen settings.breaker env.checkedAt row.breakerKey).1 = true := hreject
  simp only [processOneRow, hopen, if_true]
  simp only [CircuitBreaker.isOpen, hsame, Function.update_eq_self]

/-- The cell of an admitted row after it: healed, or with one failure more. -/
def cellAfter (settings : Settings) (st : ProcState) (row : BronzeRow) (env : RowEnv) :
    BreakerCell :=
  match graduateRow settings row env with
  | .error _ => ((st.breaker row.breakerKey).isOpen settings.breaker env.checkedAt).2.recordFailure
      settings.breaker env.failedAt
  | .ok _ => .new

theorem processOneRow_admitted_breaker (h : Admitted settings st row env) :
    (processOneRow settings st row env).2.breaker =
      Function.update st.breaker row.breakerKey (cellAfter settings st row env) := by
  have hopen : (st.breaker.isOpen settings.breaker env.checkedAt row.breakerKey).1 = false := h
  simp only [processOneRow, hopen, Bool.false_eq_true, if_false, cellAfter]
  cases graduateRow settings row env with
  | error e =>
    simp only
    split <;> simp [CircuitBreaker.recordFailure, CircuitBreaker.isOpen]
  | ok result =>
    simp only
    split <;> simp [CircuitBreaker.recordSuccess, CircuitBreaker.isOpen, BreakerCell.recordSuccess]

/-- What is decided before the database is asked. -/
def prepareRow (settings : Settings) (row : BronzeRow) :
    Except PyExc (Option (String × SilverFact)) :=
  prepare settings.limits settings.registry row.workspaceId row.vendor row.eventType row.payload
    row.idempotencyKey

theorem graduateRow_error_iff {e : PyExc} : graduateRow settings row env = .error e ↔
    prepareRow settings row = .error e ∨
      (∃ plan, prepareRow settings row = .ok (some plan)) ∧ env.pg = .error e := by
  rw [graduateRow, graduateRawEvent_eq, prepareRow]
  cases prepare settings.limits settings.registry row.workspaceId row.vendor row.eventType
    row.payload row.idempotencyKey with
  | error e' => simp
  | ok plan =>
    cases plan with
    | none => simp
    | some plan =>
      obtain ⟨table, fact⟩ := plan
      cases env.pg <;> simp

/-- A row is upserted when there is a fact for it and the database took it. -/
theorem graduateRow_ok_iff {skipped : Bool} :
    (∃ result, graduateRow settings row env = .ok result ∧ result.skipped = skipped) ↔
      if skipped then prepareRow settings row = .ok none
      else (∃ plan, prepareRow settings row = .ok (some plan)) ∧ env.pg = .ok () := by
  rw [graduateRow, graduateRawEvent_eq, prepareRow]
  cases prepare settings.limits settings.registry row.workspaceId row.vendor row.eventType
    row.payload row.idempotencyKey with
  | error e' => cases skipped <;> simp
  | ok plan =>
    cases plan with
    | none => cases skipped <;> simp
    | some plan =>
      obtain ⟨table, fact⟩ := plan
      cases env.pg <;> cases skipped <;> simp

end Outcomes

end BrainV2.Transform
