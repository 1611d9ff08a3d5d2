import BrainV2.Ingest.Shopify
import BrainV2.Ingest.RawStore

/-!
# The batch primitive

* `batchEvent`, `collect`: fetch, normalize, gate and tokenize, before anything is written;
* `doBatchAndCursor`: the upserts and the cursor, in one transaction;
* `ingestBatch`: the whole call, with the messages after the commit;
* `upsertAll_spec`, `produceAll_complete_iff`: what the two loops leave;
* `atomic_published_iff`: when a run is all or nothing and publishes all it has stored;
* `failed_send_unpublished`: a run that does not.
-/

namespace BrainV2.Ingest

open Py

section Model

structure IngestWindow where
  start : Option Datetime
  stop : Option Datetime

/-- What a fetch yields, and how it ends. -/
structure Fetched where
  events : List RawEvent
  ending : Except PyExc Unit

/-- The connector, over its own credentials. -/
structure ConnectorAdapter (κ : Type) where
  vendor : String
  piiManifest : PiiManifest
  fetch : Option κ → IngestWindow → Fetched
  normalize : RawEvent → Except PyExc NormalizedEvent

structure CursorRow where
  cursorValue : String
  windowStart : Datetime
  windowEnd : Datetime

structure CursorKey where
  workspaceId : String
  vendor : String
deriving DecidableEq

/-- The raw tables and `connector_cursor`. -/
structure BatchDb where
  raw : RawDb
  cursors : List (CursorKey × CursorRow)

/-- What a call of the primitive is given and meets: statements and sends by number. -/
structure BatchEnv (κ : Type) where
  limits : Limits
  tools : TextTools
  hmac : Hmac
  piiTokenizer : Option String
  piiWorkspaceSalt : List UInt8
  piiSaltVersion : String
  allowedWorkspaceIds : Option (List String)
  custody : Option (Except PyExc κ)
  requestId : String
  traceId : String
  ingestedAt : Datetime
  rowIngestedAt : Nat → Datetime
  session : Session
  upsert : Nat → Except PyExc Unit
  cursor : Except PyExc Unit
  kafkaProducer : Option (Nat → Except PyExc Int)

structure IngestResult where
  eventsReceived : Nat
  eventsUpserted : Nat
  eventsDeduped : Nat
  cursorAdvancedTo : Option String
  kafkaOffsets : List Int
  piiRejections : Nat
  dryRun : Bool
  requestId : String
  traceId : String

end Model

section Code

variable {κ : Type} (adapter : ConnectorAdapter κ) (env : BatchEnv κ) (workspaceId : String)

def BatchEnv.tokenizer : Tokenizer :=
  ⟨env.limits, env.tools, env.hmac, adapter.piiManifest, env.piiWorkspaceSalt⟩

/-- Normalize, gate and tokenize one event. -/
def batchEvent (raw : RawEvent) : Except PyExc NormalizedEvent := do
  let normalized ← adapter.normalize raw
  checkPiiFields env.tools adapter.piiManifest (Dict.keys normalized.columns)
  let columns ← tokenizedColumns (env.tokenizer adapter) env.piiTokenizer normalized.columns
  .ok { normalized with columns := columns }

/-- The loop over the fetched events. -/
def collect : List RawEvent → Except PyExc (List NormalizedEvent)
  | [] => .ok []
  | raw :: rest => do
    let event ← batchEvent adapter env raw
    let events ← collect rest
    .ok (event :: events)

/-- The fetch as a whole: an exception of the source comes after what it has yielded. -/
def collectFetched (fetched : Fetched) : Except PyExc (List NormalizedEvent) := do
  let events ← collect adapter env fetched.events
  fetched.ending
  .ok events

/-- The upserts, from the `n`-th on, counting inserted and other rows. -/
def upsertAll : Nat → List NormalizedEvent → Nat × Nat → RawDb → Except PyExc ((Nat × Nat) × RawDb)
  | _, [], counts, db => .ok (counts, db)
  | n, event :: events, (upserted, deduped), db =>
    match upsertEvent (env.upsert n) workspaceId event env.requestId (env.rowIngestedAt n) db with
    | .error e => .error e
    | .ok (wasInserted, db') =>
      upsertAll (n + 1) events
        (if wasInserted then (upserted + 1, deduped) else (upserted, deduped + 1)) db'

def malformedUuid : PyExc := ⟨.valueError, "badly formed hexadecimal UUID string"⟩

/-- `str(uuid.UUID(workspace_id))`, for a text that has passed the session's pattern. -/
def uuidText (workspaceId : String) : Except PyExc String :=
  if workspaceId.length = 36 then .ok workspaceId.toLower else .error malformedUuid

/-- `upsert_cursor` -/
def upsertCursor (uuid vendor : String) (row : CursorRow) (db : BatchDb) : Except PyExc BatchDb :=
  match env.cursor with
  | .error e => .error e
  | .ok () => .ok { db with cursors := Dict.set db.cursors ⟨uuid, vendor⟩ row }

/-- The cursor a run leaves. -/
def cursorRow (window : IngestWindow) (cursorValue : String) : CursorRow :=
  ⟨cursorValue, window.start.getD env.ingestedAt, window.stop.getD env.ingestedAt⟩

/-- `_do_batch_and_cursor` -/
def doBatchAndCursor (window : IngestWindow) (events : List NormalizedEvent)
    (cursorValue : String) (db : BatchDb) : Except PyExc ((Nat × Nat) × BatchDb) :=
  match upsertAll env workspaceId 0 events (0, 0) db.raw with
  | .error e => .error e
  | .ok (counts, raw) =>
    match uuidText workspaceId with
    | .error e => .error e
    | .ok uuid =>
      match upsertCursor env uuid adapter.vendor (cursorRow env window cursorValue)
        { db with raw := raw } with
      | .error e => .error e
      | .ok db' => .ok (counts, db')

def batchMessage (event : NormalizedEvent) : Sent :=
  integrationMessage adapter.vendor workspaceId event env.ingestedAt env.requestId env.traceId
    env.piiSaltVersion

/-- The sends after the commit, from the `n`-th on; a failing one is logged. -/
def produceAll : Nat → List NormalizedEvent → List Int × List Sent → List Int × List Sent
  | _, [], state => state
  | n, event :: events, (offsets, sent) =>
    match env.kafkaProducer with
    | none => produceAll (n + 1) events (offsets, sent)
    | some send =>
      match send n with
      | .error _ => produceAll (n + 1) events (offsets, sent)
      | .ok offset => produceAll (n + 1) events
          (offsets ++ [offset], sent ++ [batchMessage adapter env workspaceId event])

def emptyBatchWorkspace : PyExc :=
  ⟨.valueError, "[ingest_batch] workspace_id must be a non-empty string"⟩

/-- The checks and the credential, in front of the fetch. -/
def prepareBatch (dryRun : Bool) : Except PyExc (Option κ) :=
  if workspaceId = "" then .error emptyBatchWorkspace
  else
    match env.allowedWorkspaceIds.elim (.ok ()) (assertWorkspaceAllowed env.tools workspaceId) with
    | .error e => .error e
    | .ok () =>
      match env.custody with
      | none => .ok none
      | some creds => if dryRun then .ok none else creds.map some

/-- The result of a run that has not written anything. -/
def unwrittenResult (received : Nat) (dryRun : Bool) : IngestResult where
  eventsReceived := received
  eventsUpserted := if dryRun then received else 0
  eventsDeduped := 0
  cursorAdvancedTo := none
  kafkaOffsets := []
  piiRejections := 0
  dryRun := dryRun
  requestId := env.requestId
  traceId := env.traceId

/-- `ingest_batch` -/
def ingestBatch (window : IngestWindow) (dryRun : Bool) (db : BatchDb) (sent : List Sent) :
    Except PyExc IngestResult × BatchDb × List Sent :=
  match prepareBatch env workspaceId dryRun with
  | .error e => (.error e, db, sent)
  | .ok creds =>
    let fetched := adapter.fetch creds window
    match collectFetched adapter env fetched with
    | .error e => (.error e, db, sent)
    | .ok events =>
      -- the cursor is the id of the last event as it was fetched
      match fetched.events.getLast?, dryRun with
      | some last, false =>
        match withWorkspace env.session workspaceId db () fun db _ =>
            (doBatchAndCursor adapter env workspaceId window events last.vendorEventId db, ()) with
        | (.error e, db', _) => (.error e, db', sent)
        | (.ok (upserted, deduped), db', _) =>
          let (offsets, sent') := produceAll adapter env workspaceId 0 events ([], sent)
          (.ok {
            eventsReceived := fetched.events.length
            eventsUpserted := upserted
            eventsDeduped := deduped
            cursorAdvancedTo := some last.vendorEventId
            kafkaOffsets := offsets
            piiRejections := 0
            dryRun := false
            requestId := env.requestId
            traceId := env.traceId }, db', sent')
      | _, _ => (.ok (unwrittenResult env fetched.events.length dryRun), db, sent)

end Code

section Loops

variable {κ : Type} {adapter : ConnectorAdapter κ} {env : BatchEnv κ} {workspaceId : String}

theorem batchEvent_ok_iff {raw : RawEvent} {event : NormalizedEvent} :
    batchEvent adapter env raw = .ok event ↔ ∃ normalized columns,
      adapter.normalize raw = .ok normalized ∧
      checkPiiFields env.tools adapter.piiManifest (Dict.keys normalized.columns) = .ok () ∧
      tokenizedColumns (env.tokenizer adapter) env.piiTokenizer normalized.columns =
        .ok columns ∧
      event = { normalized with columns := columns } := by
  unfold batchEvent
  simp only [bind_ok, Except.ok.injEq]
  constructor
  · rintro ⟨normalized, hnormalized, u, hgate, columns, hcolumns, rfl⟩
    exact ⟨normalized, columns, hnormalized, hgate, hcolumns, rfl⟩
  · rintro ⟨normalized, columns, hnormalized, hgate, hcolumns, rfl⟩
    exact ⟨normalized, hnormalized, (), hgate, columns, hcolumns, rfl⟩

theorem collect_ok_iff {raws : List RawEvent} {events : List NormalizedEvent} :
    collect adapter env raws = .ok events ↔
      List.Forall₂ (fun raw event => batchEvent adapter env raw = .ok event) raws events := by
  induction raws generalizing events with
  | nil =>
    rw [List.forall₂_nil_left_iff, collect]
    simp [eq_comm]
  | cons raw rest ih =>
    rw [collect, List.forall₂_cons_left_iff]
    cases hevent : batchEvent adapter env raw with
    | error e => exact iff_of_false nofun (by rintro ⟨_, _, h, -⟩; cases h)
    | ok event =>
      simp only [bind, Except.bind]
      cases hrest : collect adapter env rest with
      | error e =>
        refine iff_of_false nofun ?_
        rintro ⟨_, events', -, hall, -⟩
        rw [ih.mpr hall] at hrest
        cases hrest
      | ok events' =>
        simp only [Except.ok.injEq]
        constructor
        · rintro rfl
          exact ⟨event, events', rfl, ih.mp hrest, rfl⟩
        · rintro ⟨_, events'', rfl, hall, rfl⟩
          rw [ih.mpr hall] at hrest
          cases hrest
          rfl

/-- What the events are stored as. -/
def StoredAs (env : BatchEnv κ) (workspaceId : String) : List NormalizedEvent → List RawWrite → Prop :=
  List.Forall₂ fun event write =>
    ∃ now, rawWrite workspaceId event env.requestId now = .ok write

/-- The loop of upserts adds one write for each event, and counts each event once. -/
theorem upsertAll_spec {n : Nat} {events : List NormalizedEvent} {counts counts' : Nat × Nat}
    {db db' : RawDb} (h : upsertAll env workspaceId n events counts db = .ok (counts', db')) :
    ∃ writes, StoredAs env workspaceId events writes ∧ db'.writes = db.writes ++ writes ∧
      counts'.1 + counts'.2 = counts.1 + counts.2 + events.length := by
  induction events generalizing n counts db with
  | nil =>
    cases h
    exact ⟨[], .nil, by simp, rfl⟩
  | cons event events ih =>
    obtain ⟨upserted, deduped⟩ := counts
    rw [upsertAll] at h
    cases hupsert : upsertEvent (env.upsert n) workspaceId event env.requestId
        (env.rowIngestedAt n) db with
    | error e =>
      rw [hupsert] at h
      cases h
    | ok result =>
      obtain ⟨wasInserted, db''⟩ := result
      rw [hupsert] at h
      obtain ⟨write, hwrite, -, -, rfl⟩ := upsertEvent_ok_iff.mp hupsert
      obtain ⟨writes, hstored, hwrites, hcounts⟩ := ih h
      refine ⟨write :: writes, .cons ⟨_, hwrite⟩ hstored, ?_, ?_⟩
      · rw [hwrites]
        simp [RawDb.write]
      · cases wasInserted <;> simp_all <;> omega

theorem upsertCursor_ok {uuid vendor : String} {row : CursorRow} {db db' : BatchDb}
    (h : upsertCursor env uuid vendor row db = .ok db') :
    db'.raw = db.raw ∧ db'.cursors.lookup ⟨uuid, vendor⟩ = some row := by
  unfold upsertCursor at h
  cases hcursor : env.cursor with
  | error e =>
    rw [hcursor] at h
    cases h
  | ok u =>
    rw [hcursor] at h
    cases h
    exact ⟨rfl, Dict.lookup_set_self _ _ _⟩

/-- The transaction, when all its statements succeed. -/
theorem doBatchAndCursor_spec {window : IngestWindow} {events : List NormalizedEvent}
    {cursorValue : String} {counts : Nat × Nat} {db db' : BatchDb}
    (h : doBatchAndCursor adapter env workspaceId window events cursorValue db =
      .ok (counts, db')) :
    ∃ writes, StoredAs env workspaceId events writes ∧
      db'.raw.writes = db.raw.writes ++ writes ∧
      db'.cursors.lookup ⟨workspaceId.toLower, adapter.vendor⟩ =
        some (cursorRow env window cursorValue) ∧
      counts.1 + counts.2 = events.length := by
  unfold doBatchAndCursor at h
  cases hupserts : upsertAll env workspaceId 0 events (0, 0) db.raw with
  | error e =>
    rw [hupserts] at h
    cases h
  | ok result =>
    obtain ⟨counts', raw⟩ := result
    rw [hupserts] at h
    simp only at h
    obtain ⟨writes, hstored, hwrites, hcounts⟩ := upsertAll_spec hupserts
    unfold uuidText at h
    split at h
    · cases h
    · next uuid huuid =>
      split at huuid
      · cases huuid
        cases hcursor : upsertCursor env workspaceId.toLower adapter.vendor
            (cursorRow env window cursorValue) { db with raw := raw } with
        | error e =>
          rw [hcursor] at h
          cases h
        | ok db'' =>
          rw [hcursor] at h
          cases h
          obtain ⟨hraw, hlookup⟩ := upsertCursor_ok hcursor
          exact ⟨writes, hstored, by rw [hraw, hwrites], hlookup, by omega⟩
      · cases huuid

/-- Every send from the `n`-th to the last one succeeds. -/
def SendsSucceed (env : BatchEnv κ) (n count : Nat) : Prop :=
  ∃ send, env.kafkaProducer = some send ∧ ∀ i < count, ∃ offset, send (n + i) = .ok offset

/-- No more than one message for each event. -/
theorem produceAll_length_le {n : Nat} {events : List NormalizedEvent} {offsets : List Int}
    {sent : List Sent} : (produceAll adapter env workspaceId n events (offsets, sent)).2.length ≤
      sent.length + events.length := by
  induction events generalizing n offsets sent with
  | nil => exact Nat.le_refl _
  | cons event events ih =>
    rw [produceAll, List.length_cons]
    split
    · exact Nat.le_trans ih (by omega)
    · split
      · exact Nat.le_trans ih (by omega)
      · refine Nat.le_trans ih ?_
        rw [List.length_append, List.length_singleton]
        omega

/-- All messages are on the topic exactly when every send succeeds. -/
theorem produceAll_complete_iff {n : Nat} {events : List NormalizedEvent} {offsets : List Int}
    {sent : List Sent} :
    (produceAll adapter env workspaceId n events (offsets, sent)).2 =
        sent ++ events.map (batchMessage adapter env workspaceId) ↔
      events = [] ∨ SendsSucceed env n events.length := by
  induction events generalizing n offsets sent with
  | nil => simp [produceAll]
  | cons event events ih =>
    -- a send that fails leaves the log too short for the rest to make up
    have hshort : ∀ offsets, (produceAll adapter env workspaceId (n + 1) events
        (offsets, sent)).2 ≠ sent ++ (event :: events).map (batchMessage adapter env
          workspaceId) := by
      intro offsets heq
      have hlength := @produceAll_length_le κ adapter env workspaceId (n + 1) events offsets sent
      rw [heq, List.length_append, List.length_map, List.length_cons] at hlength
      omega
    rw [produceAll]
    cases hproducer : env.kafkaProducer with
    | none =>
      refine iff_of_false (hshort _) ?_
      rintro (h | ⟨send, h, -⟩)
      · cases h
      · rw [hproducer] at h
        cases h
    | some send =>
      simp only
      cases hsend : send n with
      | error e =>
        refine iff_of_false (hshort _) ?_
        rintro (h | ⟨send', h, hall⟩)
        · cases h
        · rw [hproducer] at h
          cases h
          obtain ⟨offset, hoffset⟩ := hall 0 (Nat.succ_pos _)
          rw [Nat.add_zero, hsend] at hoffset
          cases hoffset
      | ok offset =>
        have hcons : sent ++ (event :: events).map (batchMessage adapter env workspaceId) =
            (sent ++ [batchMessage adapter env workspaceId event]) ++
              events.map (batchMessage adapter env workspaceId) := by simp
        simp only
        rw [hcons, ih]
        constructor
        · intro h
          refine Or.inr ⟨send, hproducer, fun i hi => ?_⟩
          cases i with
          | zero => exact ⟨offset, hsend⟩
          | succ i =>
            obtain rfl | ⟨send', hsend', hall⟩ := h
            · simp at hi
            · rw [hproducer] at hsend'
              cases hsend'
              have hnext := hall i (by simpa using hi)
              rwa [show n + 1 + i = n + (i + 1) by omega] at hnext
        · rintro (h | ⟨send', hsend', hall⟩)
          · cases h
          · refine Or.inr ⟨send', hsend', fun i hi => ?_⟩
            have hnext := hall (i + 1) (by simpa using hi)
            rwa [show n + (i + 1) = n + 1 + i by omega] at hnext

end Loops

section Atomicity

variable {κ : Type} (adapter : ConnectorAdapter κ) (env : BatchEnv κ) (workspaceId : String)
  (window : IngestWindow)

/-- The raw events are stored, one write each, and the cursor is at the last of them. -/
structure AllStored (raws : List RawEvent) (events : List NormalizedEvent)
    (before after : BatchDb) : Prop where
  collected : List.Forall₂ (fun raw event => batchEvent adapter env raw = .ok event) raws events
  writes : ∃ writes, StoredAs env workspaceId events writes ∧
    after.raw.writes = before.raw.writes ++ writes
  cursor : ∀ last ∈ raws.getLast?, after.cursors.lookup ⟨workspaceId.toLower, adapter.vendor⟩ =
    some (cursorRow env window last.vendorEventId)

/-- A run, that is not a dry one, raises and leaves the database alone, or has stored all
events of the stream, moved the cursor and put every one of them on the topic; and its
counts add up. -/
def AtomicAndPublished (db : BatchDb) (sent : List Sent) : Prop :=
  let run := ingestBatch adapter env workspaceId window false db sent
  ((∃ e, run.1 = .error e ∧ run.2.1 = db) ∨
    ∃ creds events, prepareBatch env workspaceId false = .ok creds ∧
      AllStored adapter env workspaceId window (adapter.fetch creds window).events events db
        run.2.1 ∧
      run.2.2 = sent ++ events.map (batchMessage adapter env workspaceId)) ∧
  ∀ result, run.1 = .ok result →
    result.eventsUpserted + result.eventsDeduped = result.eventsReceived

/-- The transaction of the run for these raw events takes effect: everything before `COMMIT`
succeeds, and the server does not refuse it. -/
structure TakesEffect (db : BatchDb) (raws : List RawEvent) : Prop where
  prepared : ∃ creds, prepareBatch env workspaceId false = .ok creds ∧
    (adapter.fetch creds window).events = raws ∧ (adapter.fetch creds window).ending = .ok ()
  session : checkSession env.session workspaceId = .ok ()
  statements : ∃ events last result, collect adapter env raws = .ok events ∧
    raws.getLast? = some last ∧
    doBatchAndCursor adapter env workspaceId window events last.vendorEventId db = .ok result
  commit : ∀ e, env.session.commit ≠ .refused e

variable {adapter env workspaceId window}

theorem collectFetched_ok_iff {fetched : Fetched} {events : List NormalizedEvent} :
    collectFetched adapter env fetched = .ok events ↔
      collect adapter env fetched.events = .ok events ∧ fetched.ending = .ok () := by
  unfold collectFetched
  cases hcollect : collect adapter env fetched.events with
  | error e => exact iff_of_false nofun nofun
  | ok events' =>
    simp only [bind, Except.bind]
    cases fetched.ending with
    | error e => exact iff_of_false nofun nofun
    | ok u => simp

/-- A run that stops before its transaction has done nothing. -/
theorem atomic_of_stopped {db : BatchDb} {sent : List Sent} {e : PyExc}
    (h : ingestBatch adapter env workspaceId window false db sent = (.error e, db, sent)) :
    AtomicAndPublished adapter env workspaceId window db sent := by
  unfold AtomicAndPublished
  rw [h]
  exact ⟨Or.inl ⟨e, rfl, rfl⟩, nofun⟩

/-- The run, once the stream is collected and not empty. -/
theorem ingestBatch_collected {db : BatchDb} {sent : List Sent} {creds : Option κ}
    {events : List NormalizedEvent} {last : RawEvent}
    (hprepared : prepareBatch env workspaceId false = .ok creds)
    (hcollected : collectFetched adapter env (adapter.fetch creds window) = .ok events)
    (hlast : (adapter.fetch creds window).events.getLast? = some last) :
    ingestBatch adapter env workspaceId window false db sent =
      match withWorkspace env.session workspaceId db () fun db _ =>
          (doBatchAndCursor adapter env workspaceId window events last.vendorEventId db, ()) with
      | (.error e, db', _) => (.error e, db', sent)
      | (.ok (upserted, deduped), db', _) =>
        let (offsets, sent') := produceAll adapter env workspaceId 0 events ([], sent)
        (.ok ⟨(adapter.fetch creds window).events.length, upserted, deduped,
          some last.vendorEventId, offsets, 0, false, env.requestId, env.traceId⟩, db', sent') := by
  unfold ingestBatch
  rw [hprepared]
  simp only [hcollected, hlast]

/-- What the transaction of a run has done to the database is not nothing. -/
theorem doBatchAndCursor_ne {events : List NormalizedEvent} {cursorValue : String}
    {counts : Nat × Nat} {db db' : BatchDb} (hevents : events ≠ [])
    (h : doBatchAndCursor adapter env workspaceId window events cursorValue db =
      .ok (counts, db')) : db' ≠ db := by
  obtain ⟨writes, hstored, hwrites, -, -⟩ := doBatchAndCursor_spec h
  rintro rfl
  have hempty : writes = [] := by simpa using hwrites
  rw [hempty] at hstored
  exact hevents (List.forall₂_nil_right_iff.mp hstored)

/-- A stream that is not empty is stored and nothing of it is sent. -/
theorem not_atomic_of_unsent {db db' : BatchDb} {sent : List Sent} {creds : Option κ}
    {last : RawEvent} {e : PyExc} (hprepared : prepareBatch env workspaceId false = .ok creds)
    (hlast : (adapter.fetch creds window).events.getLast? = some last) (hne : db' ≠ db)
    (hrun : ingestBatch adapter env workspaceId window false db sent = (.error e, db', sent)) :
    ¬ AtomicAndPublished adapter env workspaceId window db sent := by
  rintro ⟨⟨e', -, hsame⟩ | ⟨creds', events, hprepared', hall, hsent⟩, -⟩
  · rw [hrun] at hsame
    exact hne hsame
  · rw [hrun] at hsent
    rw [hprepared] at hprepared'
    cases hprepared'
    have hnone : events = [] := by simpa using hsent
    have hforall := hall.collected
    rw [hnone, List.forall₂_nil_right_iff] at hforall
    rw [hforall] at hlast
    cases hlast

/-- A stream that is stored is published when every send succeeds. -/
theorem atomic_of_committed_iff {db db' : BatchDb} {sent : List Sent} {creds : Option κ}
    {events : List NormalizedEvent} {last : RawEvent} {writes : List RawWrite}
    {upserted deduped : Nat} (hprepared : prepareBatch env workspaceId false = .ok creds)
    (hcollect : collect adapter env (adapter.fetch creds window).events = .ok events)
    (hlast : (adapter.fetch creds window).events.getLast? = some last) (hevents : events ≠ [])
    (hstored : StoredAs env workspaceId events writes)
    (hwrites : db'.raw.writes = db.raw.writes ++ writes)
    (hcursor : db'.cursors.lookup ⟨workspaceId.toLower, adapter.vendor⟩ =
      some (cursorRow env window last.vendorEventId))
    (hcounts : upserted + deduped = events.length)
    (hrun : ingestBatch adapter env workspaceId window false db sent =
      (.ok ⟨(adapter.fetch creds window).events.length, upserted, deduped,
        some last.vendorEventId, (produceAll adapter env workspaceId 0 events ([], sent)).1,
        0, false, env.requestId, env.traceId⟩, db',
        (produceAll adapter env workspaceId 0 events ([], sent)).2)) :
    AtomicAndPublished adapter env workspaceId window db sent ↔
      SendsSucceed env 0 (adapter.fetch creds window).events.length := by
  have hforall := collect_ok_iff.mp hcollect
  have hlength := hforall.length_eq
  have hcomplete := @produceAll_complete_iff κ adapter env workspaceId 0 events [] sent
  constructor
  · rintro ⟨⟨e', herror, -⟩ | ⟨creds', events', hprepared', hall, hsent⟩, -⟩
    · rw [hrun] at herror
      cases herror
    · rw [hprepared] at hprepared'
      cases hprepared'
      have hsame : events' = events := by
        have hcollect' := collect_ok_iff.mpr hall.collected
        rw [hcollect] at hcollect'
        cases hcollect'
        rfl
      rw [hrun, hsame] at hsent
      obtain h | h := hcomplete.mp hsent
      · exact absurd h hevents
      · rwa [hlength]
  · intro hsends
    rw [hlength] at hsends
    unfold AtomicAndPublished
    rw [hrun]
    refine ⟨Or.inr ⟨creds, events, hprepared, ⟨hforall, ⟨writes, hstored, hwrites⟩, ?_⟩,
      hcomplete.mpr (Or.inr hsends)⟩, ?_⟩
    · intro last' hlast'
      rw [hlast] at hlast'
      cases hlast'
      exact hcursor
    · rintro result ⟨rfl⟩
      simp only
      omega

/-- The run of a stream that is not empty. -/
theorem atomic_published_collected {db : BatchDb} {sent : List Sent} {creds : Option κ}
    {events : List NormalizedEvent} {last : RawEvent}
    (hprepared : prepareBatch env workspaceId false = .ok creds)
    (hcollected : collectFetched adapter env (adapter.fetch creds window) = .ok events)
    (hlast : (adapter.fetch creds window).events.getLast? = some last) :
    AtomicAndPublished adapter env workspaceId window db sent ↔
      (TakesEffect adapter env workspaceId window db (adapter.fetch creds window).events →
        env.session.commit = .committed ∧
          SendsSucceed env 0 (adapter.fetch creds window).events.length) := by
  obtain ⟨hcollect, hending⟩ := collectFetched_ok_iff.mp hcollected
  have hforall := collect_ok_iff.mp hcollect
  have hevents : events ≠ [] := by
    rintro rfl
    rw [List.forall₂_nil_right_iff.mp hforall] at hlast
    cases hlast
  have hrun := @ingestBatch_collected κ adapter env workspaceId window db sent creds events last
    hprepared hcollected hlast
  cases hsession : checkSession env.session workspaceId with
  | error e =>
    refine iff_of_true (atomic_of_stopped (e := e) ?_) fun h => ?_
    · rw [hrun, withWorkspace, hsession]
    · have hok := h.session
      rw [hsession] at hok
      cases hok
  | ok u =>
    cases hbatch : doBatchAndCursor adapter env workspaceId window events last.vendorEventId
        db with
    | error e =>
      obtain ⟨e', hstopped⟩ : ∃ e', ingestBatch adapter env workspaceId window false db sent =
          (.error e', db, sent) := by
        rw [hrun, withWorkspace, hsession]
        simp only [hbatch]
        cases env.session.rollback with
        | error e' => exact ⟨e', rfl⟩
        | ok u' => exact ⟨e, rfl⟩
      refine iff_of_true (atomic_of_stopped hstopped) fun h => ?_
      obtain ⟨events', last', result, hcollect', hlast', hbatch'⟩ := h.statements
      rw [hcollect] at hcollect'
      cases hcollect'
      rw [hlast] at hlast'
      cases hlast'
      rw [hbatch] at hbatch'
      cases hbatch'
    | ok result =>
      obtain ⟨⟨upserted, deduped⟩, db'⟩ := result
      obtain ⟨writes, hstored, hwrites, hcursor, hcounts⟩ := doBatchAndCursor_spec hbatch
      have htakes : (∀ e, env.session.commit ≠ .refused e) →
          TakesEffect adapter env workspaceId window db (adapter.fetch creds window).events :=
        fun hcommit => ⟨⟨creds, hprepared, rfl, hending⟩, hsession,
          ⟨events, last, _, hcollect, hlast, hbatch⟩, hcommit⟩
      cases hcommit : env.session.commit with
      | refused e =>
        refine iff_of_true (atomic_of_stopped (e := e) ?_) fun h => absurd hcommit (h.commit e)
        rw [hrun, withWorkspace, hsession]
        simp only [hbatch, hcommit]
      | unacknowledged e =>
        -- stored, and then nothing is sent
        have hrun' : ingestBatch adapter env workspaceId window false db sent =
            (.error e, db', sent) := by
          rw [hrun, withWorkspace, hsession]
          simp only [hbatch, hcommit]
        have hne := doBatchAndCursor_ne hevents hbatch
        refine iff_of_false (not_atomic_of_unsent hprepared hlast hne hrun') fun h => ?_
        have heffect := htakes (by rw [hcommit]; exact nofun)
        exact absurd (h heffect).1 nofun
      | committed =>
        have hrun' : ingestBatch adapter env workspaceId window false db sent =
            (.ok ⟨(adapter.fetch creds window).events.length, upserted, deduped,
              some last.vendorEventId, (produceAll adapter env workspaceId 0 events ([], sent)).1,
              0, false, env.requestId, env.traceId⟩, db',
              (produceAll adapter env workspaceId 0 events ([], sent)).2) := by
          rw [hrun, withWorkspace, hsession]
          simp only [hbatch, hcommit]
        have heffect := htakes (by rw [hcommit]; exact nofun)
        rw [atomic_of_committed_iff hprepared hcollect hlast hevents hstored hwrites hcursor hcounts
          hrun']
        exact ⟨fun h _ => ⟨rfl, h⟩, fun h => (h heffect).2⟩

/-- A run is atomic and publishes what it has stored exactly when, if its transaction takes
effect, the commit is acknowledged, there is a producer and every send succeeds. -/
theorem atomic_published_iff (db : BatchDb) (sent : List Sent) :
    AtomicAndPublished adapter env workspaceId window db sent ↔
      ∀ raws, TakesEffect adapter env workspaceId window db raws →
        env.session.commit = .committed ∧ SendsSucceed env 0 raws.length := by
  cases hprepared : prepareBatch env workspaceId false with
  | error e =>
    refine iff_of_true (atomic_of_stopped (e := e) ?_) ?_
    · unfold ingestBatch
      rw [hprepared]
    · rintro raws ⟨⟨creds, h, -⟩, -, -, -⟩
      rw [hprepared] at h
      cases h
  | ok creds =>
    have hraws : ∀ raws, TakesEffect adapter env workspaceId window db raws →
        raws = (adapter.fetch creds window).events := by
      rintro raws ⟨⟨creds', h, rfl, -⟩, -, -, -⟩
      rw [hprepared] at h
      cases h
      rfl
    cases hcollected : collectFetched adapter env (adapter.fetch creds window) with
    | error e =>
      refine iff_of_true (atomic_of_stopped (e := e) ?_) ?_
      · unfold ingestBatch
        rw [hprepared]
        simp only [hcollected]
      · intro raws heffect
        have hsame := hraws raws heffect
        obtain ⟨⟨creds', h, -, hending⟩, -, ⟨events, last, result, hcollect, -⟩, -⟩ := heffect
        rw [hprepared] at h
        cases h
        rw [hsame] at hcollect
        rw [collectFetched_ok_iff.mpr ⟨hcollect, hending⟩] at hcollected
        cases hcollected
    | ok events =>
      cases hlast : (adapter.fetch creds window).events.getLast? with
      | none =>
        have hnil : (adapter.fetch creds window).events = [] := by simpa using hlast
        have hforall := collect_ok_iff.mp (collectFetched_ok_iff.mp hcollected).1
        have hevents : events = [] := by
          rw [hnil] at hforall
          exact List.forall₂_nil_left_iff.mp hforall
        refine iff_of_true ?_ ?_
        · unfold AtomicAndPublished ingestBatch
          rw [hprepared]
          simp only [hcollected, hlast]
          refine ⟨Or.inr ⟨creds, events, rfl, ⟨hforall, ⟨[], ?_, by simp⟩, ?_⟩, by simp [hevents]⟩,
            ?_⟩
          · rw [hevents]
            exact .nil
          · intro last hmem
            rw [hlast] at hmem
            cases hmem
          · rintro result ⟨rfl⟩
            simp [unwrittenResult, hnil]
        · intro raws heffect
          have hsame := hraws raws heffect
          obtain ⟨-, -, ⟨_, last, _, -, hlast', -⟩, -⟩ := heffect
          rw [hsame, hlast] at hlast'
          cases hlast'
      | some last =>
        rw [atomic_published_collected hprepared hcollected hlast]
        constructor
        · intro h raws heffect
          rw [hraws raws heffect]
          exact h (hraws raws heffect ▸ heffect)
        · exact fun h => h _

end Atomicity

section Example

def batchNoon : Datetime := ⟨.of 2024 1 1, .of 12 0 0 0, some .utc⟩

def batchRaw : RawEvent := ⟨"shopify", "1", "order", some batchNoon, .obj []⟩

/-- An adapter with one event, which it gives no column of its own. -/
def batchAdapter : ConnectorAdapter Unit where
  vendor := "shopify"
  piiManifest := shopifyPiiManifest
  fetch _ _ := ⟨[batchRaw], .ok ()⟩
  normalize raw := .ok ⟨"shopify", raw.vendorEventId, raw.eventType, raw.occurredAt,
    "owner_brand_controller", "analytics_performance", []⟩

def batchWorkspace : String := "6f9619ff-8b86-4d01-b42d-00cf4fc964ff"

def batchEnv (send : Nat → Except PyExc Int) : BatchEnv Unit where
  limits := ⟨1000, 1000⟩
  tools := ⟨String.toLower, id⟩
  hmac _ _ := []
  piiTokenizer := none
  piiWorkspaceSalt := []
  piiSaltVersion := "v1"
  allowedWorkspaceIds := none
  custody := none
  requestId := "q"
  traceId := "t"
  ingestedAt := batchNoon
  rowIngestedAt _ := batchNoon
  session := ⟨some "postgres://", .ok (), .committed, .ok ()⟩
  upsert _ := .ok ()
  cursor := .ok ()
  kafkaProducer := some send

def batchNormalized : NormalizedEvent :=
  ⟨"shopify", "1", "order", some batchNoon, "owner_brand_controller", "analytics_performance", []⟩

theorem batchRaw_event (send : Nat → Except PyExc Int) :
    batchEvent batchAdapter (batchEnv send) batchRaw = .ok batchNormalized := by
  have hdisabled : tokenizerEnabled ⟨String.toLower, id⟩ none = false := by decide +kernel
  have htokens : tokenizedColumns ((batchEnv send).tokenizer batchAdapter) none [] = .ok [] :=
    if_neg (by rw [show ((batchEnv send).tokenizer batchAdapter).tools = ⟨String.toLower, id⟩
      from rfl, hdisabled]; decide)
  exact batchEvent_ok_iff.mpr ⟨batchNormalized, [], rfl, rfl, htokens, rfl⟩

theorem batch_takesEffect (send : Nat → Except PyExc Int) :
    TakesEffect batchAdapter (batchEnv send) batchWorkspace ⟨none, none⟩ ⟨⟨[]⟩, []⟩
      [batchRaw] := by
  have hcheck : checkColumns "raw_shopify_orders" "q" (Dict.keys (rawCols batchWorkspace
      batchNormalized batchNoon)) = .ok () := by decide
  have hwrite : rawWrite batchWorkspace batchNormalized "q" batchNoon = .ok
      ⟨"raw_shopify_orders", rawCols batchWorkspace batchNormalized batchNoon⟩ :=
    rawWrite_ok_iff.mpr ⟨"raw_shopify_orders", rfl, hcheck, rfl⟩
  have hupsert : upsertEvent ((batchEnv send).upsert 0) batchWorkspace batchNormalized
      (batchEnv send).requestId ((batchEnv send).rowIngestedAt 0) ⟨[]⟩ = .ok (true, RawDb.write ⟨[]⟩
        ⟨"raw_shopify_orders", rawCols batchWorkspace batchNormalized batchNoon⟩) :=
    upsertEvent_ok_iff.mpr ⟨_, hwrite, rfl, rfl, rfl⟩
  have huuid : uuidText batchWorkspace = .ok batchWorkspace.toLower := by decide +kernel
  have hsession : checkSession ⟨some "postgres://", .ok (), .committed, .ok ()⟩ batchWorkspace =
      .ok () := by decide
  obtain ⟨result, hbatch⟩ : ∃ result, doBatchAndCursor batchAdapter (batchEnv send) batchWorkspace
      ⟨none, none⟩ [batchNormalized] batchRaw.vendorEventId ⟨⟨[]⟩, []⟩ = .ok result := by
    rw [doBatchAndCursor, upsertAll, hupsert]
    simp only [upsertAll, huuid]
    exact ⟨_, rfl⟩
  exact ⟨⟨none, by rfl, rfl, rfl⟩, hsession,
    ⟨_, batchRaw, result, collect_ok_iff.mpr (.cons (batchRaw_event send) .nil), rfl, hbatch⟩,
    nofun⟩

/-- The send after the commit times out: the event is stored, the cursor is past it, and it is
not on the topic. -/
theorem failed_send_unpublished :
    ¬ AtomicAndPublished batchAdapter
      (batchEnv fun _ => .error ⟨.other "KafkaTimeoutError" false, ""⟩) batchWorkspace
      ⟨none, none⟩ ⟨⟨[]⟩, []⟩ [] := by
  intro h
  have hcollected : collectFetched batchAdapter
      (batchEnv fun _ => .error ⟨.other "KafkaTimeoutError" false, ""⟩)
      (batchAdapter.fetch none ⟨none, none⟩) = .ok [batchNormalized] :=
    collectFetched_ok_iff.mpr ⟨collect_ok_iff.mpr (.cons (batchRaw_event _) .nil), rfl⟩
  have hlast : (batchAdapter.fetch none ⟨none, none⟩).events.getLast? = some batchRaw := rfl
  obtain ⟨-, send, hsend, hall⟩ := (atomic_published_collected rfl hcollected hlast).mp h
    (batch_takesEffect _)
  cases hsend
  obtain ⟨offset, hoffset⟩ := hall 0 (by decide)
  cases hoffset

end Example

end BrainV2.Ingest
