import BrainV2.Lib.Dict
import BrainV2.Lib.Runs
import BrainV2.Lib.Rows
import Mathlib.Data.Int.Order.Basic

/-!
# The transform tick

`run_transform_tick` reads the cursors, queries a batch for each and hands the
rows one by one to a processor until one is not to be advanced past.

* `Processor`: `_process_one_row` as the tick sees it;
* `Processor.rowStep`, `streamStep`, `tick`: the loop over rows, over cursors,
  and the tick;
* `TickEnv`: what the databases answer during a tick; `TickEnv.Valid` is what
  the batch query promises;
* `accepted`: the rows of a batch before the first one that is turned down;
* `streamStep_coveredStream_iff`: when moving a cursor leaves no row behind it;
* `tick_covered_iff`: the same for a whole tick;
* `tick_invariant`: what every cursor step keeps, a tick keeps;
* `tick_log`: what every call of the processor keeps of the log of calls, a
  tick keeps.
-/

namespace BrainV2.Transform

/-- Microseconds since the epoch. -/
abbrev Instant := Int

/-- `datetime(1970, 1, 1, tzinfo=timezone.utc)` -/
def epoch : Instant := 0

structure StreamKey where
  workspaceId : String
  vendor : String
  eventType : String
deriving DecidableEq

structure BronzeRow where
  workspaceId : String
  vendor : String
  eventType : String
  idempotencyKey : String
  receivedAt : Instant
  payload : String
  customerRef : String
deriving DecidableEq

def BronzeRow.stream (row : BronzeRow) : StreamKey := ⟨row.workspaceId, row.vendor, row.eventType⟩

/-- `raw_event_transform_state`: one row for a key; the cursor may be NULL. -/
structure CursorTable where
  rows : List (StreamKey × Option Instant)
  nodup : (Dict.keys rows).Nodup

namespace CursorTable

def keys (t : CursorTable) : List StreamKey := Dict.keys t.rows

def get (t : CursorTable) (key : StreamKey) : Option Instant := (t.rows.lookup key).join

/-- `_ADVANCE_CURSOR_SQL` -/
def advance (t : CursorTable) (key : StreamKey) (receivedAt : Instant) : CursorTable :=
  ⟨Dict.set t.rows key (some receivedAt), Dict.nodup_keys_set key _ t.nodup⟩

@[simp] theorem get_advance_self (t : CursorTable) (key : StreamKey) (receivedAt : Instant) :
    (t.advance key receivedAt).get key = some receivedAt := by
  simp [get, advance, Dict.lookup_set_self]

theorem get_advance_ne (t : CursorTable) {key other : StreamKey} (receivedAt : Instant)
    (h : other ≠ key) : (t.advance key receivedAt).get other = t.get other := by
  simp [get, advance, Dict.lookup_set_ne _ _ h]

end CursorTable

/-- `cursor_ts`: a NULL cursor starts from the epoch. -/
def cursorTs (cursor : Option Instant) : Instant := cursor.getD epoch

/-- The rows of `connector_raw_events` that `_BRONZE_BATCH_SQL` selects from. -/
def bronzeVisible (bronze : List BronzeRow) (key : StreamKey) (cursor : Option Instant)
    (graceTs : Instant) : List BronzeRow :=
  Watermark.visible BronzeRow.receivedAt (cursorTs cursor) graceTs
    (bronze.filter fun r => r.stream = key)

/-- An answer to `_BRONZE_BATCH_SQL`. -/
def IsBronzeBatch (bronze : List BronzeRow) (batchSize : Nat) (key : StreamKey)
    (cursor : Option Instant) (graceTs : Instant) (rows : List BronzeRow) : Prop :=
  Watermark.IsBatch BronzeRow.receivedAt batchSize (bronzeVisible bronze key cursor graceTs) rows

/-- `_process_one_row` with what it keeps between rows; `ε` is what the outside
answers while it handles a row, `ω` what comes of the row. -/
structure Processor (π ε ω : Type*) where
  run : π → BronzeRow → ε → ω × π
  advances : ω → Bool

/-- What is answered while one cursor is handled: the grace bound, the rows of
the query or its failure, and whether the cursor could be written. -/
structure StreamEnv (ε : Type*) where
  graceTs : Instant
  query : Option (List (BronzeRow × ε))
  advanceOk : Bool

structure TickEnv (ε : Type*) where
  healthy : Bool
  cursorsReadable : Bool
  stream : StreamKey → StreamEnv ε

/-- The state of the consumer; `calls` is a ghost, every call of the processor
with what came of it, the newest first. -/
structure Consumer (π ω : Type*) where
  cursors : CursorTable
  proc : π
  calls : List (BronzeRow × ω)

/-- The state of the loop over the rows of a batch. -/
structure BatchLoop (π ω : Type*) where
  proc : π
  calls : List (BronzeRow × ω)
  lastAdvancedTs : Option Instant
  broken : Bool

namespace Processor

variable {π ε ω : Type*} (p : Processor π ε ω)

/-- One row of a batch; after a `break` nothing happens any more. -/
def rowStep (b : BatchLoop π ω) (input : BronzeRow × ε) : BatchLoop π ω :=
  if b.broken then b
  else
    let (outcome, proc) := p.run b.proc input.1 input.2
    let calls := (input.1, outcome) :: b.calls
    if p.advances outcome then ⟨proc, calls, some input.1.receivedAt, false⟩
    else ⟨proc, calls, b.lastAdvancedTs, true⟩

def batchLoop (proc : π) (calls : List (BronzeRow × ω)) (rows : List (BronzeRow × ε)) :
    BatchLoop π ω :=
  Runs.exec p.rowStep ⟨proc, calls, none, false⟩ rows

/-- One cursor of a tick. -/
def streamStep (s : Consumer π ω) (input : StreamKey × StreamEnv ε) : Consumer π ω :=
  match input.2.query with
  | none => s
  | some rows =>
    let b := p.batchLoop s.proc s.calls rows
    let cursors := match b.lastAdvancedTs with
      | none => s.cursors
      | some ts => if input.2.advanceOk then s.cursors.advance input.1 ts else s.cursors
    ⟨cursors, b.proc, b.calls⟩

/-- The cursors of a tick, in the order they are read. -/
def iterations (s : Consumer π ω) (env : TickEnv ε) : List (StreamKey × StreamEnv ε) :=
  s.cursors.keys.map fun key => (key, env.stream key)

/-- `run_transform_tick`: it stalls when the cursor table cannot be read. -/
def tick (s : Consumer π ω) (env : TickEnv ε) : Consumer π ω :=
  if env.healthy ∧ env.cursorsReadable then Runs.exec p.streamStep s (iterations s env) else s

/-- The rows of a batch before the first one that is not advanced past. -/
def accepted (proc : π) : List (BronzeRow × ε) → List BronzeRow
  | [] => []
  | (row, e) :: rest =>
    let (outcome, proc') := p.run proc row e
    if p.advances outcome then row :: accepted proc' rest else []

/-- The row was handed to the processor and advanced past. -/
def Processed (calls : List (BronzeRow × ω)) (row : BronzeRow) : Prop :=
  ∃ outcome, (row, outcome) ∈ calls ∧ p.advances outcome = true

end Processor

section Batch

variable {π ε ω : Type*} {p : Processor π ε ω}

theorem exec_broken (b : BatchLoop π ω) (rows : List (BronzeRow × ε)) (h : b.broken = true) :
    Runs.exec p.rowStep b rows = b := by
  induction rows with
  | nil => rfl
  | cons row rows ih => simp [Processor.rowStep, h, ih]

theorem accepted_isInit (proc : π) (rows : List (BronzeRow × ε)) :
    p.accepted proc rows <+: rows.map Prod.fst := by
  induction rows generalizing proc with
  | nil => exact List.prefix_refl _
  | cons row rows ih =>
    simp only [Processor.accepted, List.map_cons]
    split
    · exact List.cons_prefix_cons.mpr ⟨rfl, ih _⟩
    · exact List.nil_prefix

theorem processed_cons {calls : List (BronzeRow × ω)} {row r : BronzeRow} {outcome : ω} :
    p.Processed ((row, outcome) :: calls) r ↔
      (r = row ∧ p.advances outcome = true) ∨ p.Processed calls r := by
  simp only [Processor.Processed, List.mem_cons, Prod.mk.injEq]
  constructor
  · rintro ⟨o, ⟨rfl, rfl⟩ | hmem, ho⟩
    · exact Or.inl ⟨rfl, ho⟩
    · exact Or.inr ⟨o, hmem, ho⟩
  · rintro (⟨rfl, ho⟩ | ⟨o, hmem, ho⟩)
    · exact ⟨outcome, Or.inl ⟨rfl, rfl⟩, ho⟩
    · exact ⟨o, Or.inr hmem, ho⟩

/-- What a batch adds to the rows advanced past: the accepted ones. -/
theorem processed_exec (p : Processor π ε ω) (b : BatchLoop π ω)
    (rows : List (BronzeRow × ε)) (h : b.broken = false) {row : BronzeRow} :
    p.Processed (Runs.exec p.rowStep b rows).calls row ↔
      p.Processed b.calls row ∨ row ∈ p.accepted b.proc rows := by
  induction rows generalizing b with
  | nil => simp [Processor.accepted]
  | cons input rows ih =>
    obtain ⟨r, e⟩ := input
    simp only [Runs.exec_cons, Processor.rowStep, h, Bool.false_eq_true, if_false,
      Processor.accepted]
    by_cases hadv : p.advances (p.run b.proc r e).1 = true
    · rw [if_pos hadv, if_pos hadv, ih _ rfl, processed_cons, List.mem_cons]
      tauto
    · rw [if_neg hadv, if_neg hadv, exec_broken _ _ rfl, processed_cons]
      simp [hadv]

/-- The loop leaves the stamp of the last accepted row. -/
theorem lastAdvancedTs_exec (p : Processor π ε ω) (b : BatchLoop π ω)
    (rows : List (BronzeRow × ε)) (h : b.broken = false) :
    (Runs.exec p.rowStep b rows).lastAdvancedTs =
      match (p.accepted b.proc rows).getLast? with
      | some last => some last.receivedAt
      | none => b.lastAdvancedTs := by
  induction rows generalizing b with
  | nil => rfl
  | cons input rows ih =>
    obtain ⟨r, e⟩ := input
    simp only [Runs.exec_cons, Processor.rowStep, h, Bool.false_eq_true, if_false,
      Processor.accepted]
    by_cases hadv : p.advances (p.run b.proc r e).1 = true
    · rw [if_pos hadv, if_pos hadv, ih _ rfl]
      cases hrest : (p.accepted (p.run b.proc r e).2 rows).getLast? with
      | none => simp [List.getLast?_eq_none_iff.mp hrest]
      | some last => simp [List.getLast?_cons, hrest]
    · rw [if_neg hadv, if_neg hadv, exec_broken _ _ rfl]
      rfl

end Batch

section Covered

variable {π ε ω : Type*} (p : Processor π ε ω)

/-- The batch query answers as its SQL says. -/
def StreamEnv.Valid (bronze : List BronzeRow) (batchSize : Nat) (key : StreamKey)
    (cursor : Option Instant) (env : StreamEnv ε) : Prop :=
  ∀ rows, env.query = some rows →
    IsBronzeBatch bronze batchSize key cursor env.graceTs (rows.map Prod.fst)

def TickEnv.Valid (bronze : List BronzeRow) (batchSize : Nat) (cursors : CursorTable)
    (env : TickEnv ε) : Prop :=
  ∀ key ∈ cursors.keys, (env.stream key).Valid bronze batchSize key (cursors.get key)

/-- No row of the stream lies at or before its cursor without having been
advanced past. -/
def CoveredStream (bronze : List BronzeRow) (key : StreamKey) (s : Consumer π ω) : Prop :=
  ∀ c, s.cursors.get key = some c → ∀ row ∈ bronze, row.stream = key → row.receivedAt ≤ c →
    p.Processed s.calls row

def Covered (bronze : List BronzeRow) (s : Consumer π ω) : Prop :=
  ∀ key, CoveredStream p bronze key s

/-- The batch does not end, at its limit or at a row that is turned down, with
rows left over that share the stamp of the last accepted row. A first batch
leaves no rows at or before the epoch. -/
def TieSafeStep (bronze : List BronzeRow) (s : Consumer π ω)
    (input : StreamKey × StreamEnv ε) : Prop :=
  input.2.advanceOk = true → ∀ rows, input.2.query = some rows →
    ∀ last ∈ (p.accepted s.proc rows).getLast?, ∀ row ∈ bronze, row.stream = input.1 →
      (row.receivedAt = last.receivedAt ∨
        s.cursors.get input.1 = none ∧ row.receivedAt ≤ epoch) →
      p.Processed s.calls row ∨ row ∈ p.accepted s.proc rows

/-- A tick each of whose batches is tie safe. -/
def TieSafe (bronze : List BronzeRow) (s : Consumer π ω) (env : TickEnv ε) : Prop :=
  env.healthy ∧ env.cursorsReadable →
    Runs.Allowed p.streamStep (TieSafeStep p bronze) s (Processor.iterations s env)

variable {p} {bronze : List BronzeRow} {batchSize : Nat} {s : Consumer π ω} {key : StreamKey}
  {env : StreamEnv ε}

theorem streamStep_get_ne {other : StreamKey} (h : other ≠ key) :
    (p.streamStep s (key, env)).cursors.get other = s.cursors.get other := by
  unfold Processor.streamStep
  cases env.query with
  | none => rfl
  | some rows =>
    simp only
    split
    · rfl
    · split
      · exact s.cursors.get_advance_ne _ h
      · rfl

theorem streamStep_keys (h : key ∈ s.cursors.keys) :
    (p.streamStep s (key, env)).cursors.keys = s.cursors.keys := by
  unfold Processor.streamStep
  cases env.query with
  | none => rfl
  | some rows =>
    simp only
    split
    · rfl
    · split
      · exact Dict.keys_set_of_mem _ _ h
      · rfl

/-- What one cursor of a tick adds to the rows advanced past. -/
theorem streamStep_processed {row : BronzeRow} :
    p.Processed (p.streamStep s (key, env)).calls row ↔
      p.Processed s.calls row ∨ ∃ rows, env.query = some rows ∧ row ∈ p.accepted s.proc rows := by
  unfold Processor.streamStep
  cases env.query with
  | none => simp
  | some rows =>
    have hexec := @processed_exec _ _ _ p ⟨s.proc, s.calls, none, false⟩ rows rfl row
    simpa [Processor.batchLoop] using hexec

/-- Where the cursor of a stream goes. -/
theorem streamStep_get (p : Processor π ε ω) (s : Consumer π ω) (key : StreamKey)
    {rows : List (BronzeRow × ε)} (hquery : env.query = some rows) :
    (p.streamStep s (key, env)).cursors.get key =
      match (p.accepted s.proc rows).getLast? with
      | some last => if env.advanceOk then some last.receivedAt else s.cursors.get key
      | none => s.cursors.get key := by
  have hlast := lastAdvancedTs_exec p ⟨s.proc, s.calls, none, false⟩ rows rfl
  simp only [Processor.streamStep, hquery, Processor.batchLoop, hlast]
  cases (p.accepted s.proc rows).getLast? with
  | none => rfl
  | some last =>
    simp only
    split
    · exact s.cursors.get_advance_self key last.receivedAt
    · rfl

theorem accepted_stream {rows : List (BronzeRow × ε)} {row : BronzeRow}
    {cursor : Option Instant} (hvalid : env.Valid bronze batchSize key cursor)
    (hquery : env.query = some rows) (hrow : row ∈ p.accepted s.proc rows) :
    row ∈ bronze ∧ row.stream = key := by
  have hbatch := hvalid rows hquery
  have hmem := hbatch.subset ((accepted_isInit s.proc rows).subset hrow)
  have hstream := (Watermark.mem_visible.mp hmem).1
  simpa using hstream

/-- A step on one stream changes nothing behind the cursor of another. -/
theorem streamStep_coveredStream_ne {other : StreamKey} {cursor : Option Instant}
    (h : other ≠ key) (hvalid : env.Valid bronze batchSize key cursor) :
    CoveredStream p bronze other (p.streamStep s (key, env)) ↔
      CoveredStream p bronze other s := by
  have hprocessed : ∀ row : BronzeRow, row.stream = other →
      (p.Processed (p.streamStep s (key, env)).calls row ↔ p.Processed s.calls row) := by
    intro row hrow
    rw [streamStep_processed]
    constructor
    · rintro (hr | ⟨rows, hquery, hr⟩)
      · exact hr
      · exact absurd (hrow.symm.trans (accepted_stream hvalid hquery hr).2) h
    · exact Or.inl
  unfold CoveredStream
  rw [streamStep_get_ne h]
  constructor
  · intro hc c hget row hrow hstream hle
    exact (hprocessed row hstream).mp (hc c hget row hrow hstream hle)
  · intro hc c hget row hrow hstream hle
    exact (hprocessed row hstream).mpr (hc c hget row hrow hstream hle)

/-- Once the cursor has moved, nothing is left behind it exactly when nothing
with the stamp it moved to is, nor before the start of a first batch. -/
theorem streamStep_moved {rows : List (BronzeRow × ε)} {last : BronzeRow}
    (hcovered : CoveredStream p bronze key s)
    (hvalid : env.Valid bronze batchSize key (s.cursors.get key))
    (hquery : env.query = some rows) (hadvance : env.advanceOk = true)
    (hlast : (p.accepted s.proc rows).getLast? = some last) :
    CoveredStream p bronze key (p.streamStep s (key, env)) ↔
      ∀ row ∈ bronze, row.stream = key →
        (row.receivedAt = last.receivedAt ∨ s.cursors.get key = none ∧ row.receivedAt ≤ epoch) →
        p.Processed s.calls row ∨ row ∈ p.accepted s.proc rows := by
  have hget : (p.streamStep s (key, env)).cursors.get key = some last.receivedAt := by
    have h := streamStep_get p s key hquery
    simpa [hlast, hadvance] using h
  have hprocessed : ∀ row, p.Processed (p.streamStep s (key, env)).calls row ↔
      p.Processed s.calls row ∨ row ∈ p.accepted s.proc rows := by
    intro row
    rw [streamStep_processed, hquery]
    simp
  have hstream : ∀ row, row ∈ bronze.filter (fun r => r.stream = key) ↔
      row ∈ bronze ∧ row.stream = key := by simp
  have hmoved : CoveredStream p bronze key (p.streamStep s (key, env)) ↔
      Watermark.Covers BronzeRow.receivedAt
        (fun row => p.Processed s.calls row ∨ row ∈ p.accepted s.proc rows)
        (bronze.filter fun r => r.stream = key) last.receivedAt := by
    constructor
    · intro h row hrow hle
      have hb := (hstream row).mp hrow
      exact (hprocessed row).mp (h _ hget row hb.1 hb.2 hle)
    · intro h c hc row hrow hkey hle
      obtain rfl : last.receivedAt = c := by
        rw [hget] at hc
        exact Option.some.inj hc
      exact (hprocessed row).mpr (h row ((hstream row).mpr ⟨hrow, hkey⟩) hle)
  rw [hmoved, Watermark.covers_advance_iff (hvalid rows hquery) (accepted_isInit s.proc rows)
    (List.mem_of_getLast? hlast)]
  constructor
  · rintro ⟨htie, hold⟩ row hrow hkey hwhich
    have hb := (hstream row).mpr ⟨hrow, hkey⟩
    rcases hwhich with he | ⟨hnull, hle⟩
    · exact htie row hb he
    · apply hold row hb
      rw [hnull]
      exact hle
  · intro h
    constructor
    · intro row hrow he
      have hb := (hstream row).mp hrow
      exact h row hb.1 hb.2 (Or.inl he)
    · intro row hrow hle
      have hb := (hstream row).mp hrow
      cases hcursor : s.cursors.get key with
      | none =>
        rw [hcursor] at hle
        exact h row hb.1 hb.2 (Or.inr ⟨hcursor, hle⟩)
      | some c =>
        rw [hcursor] at hle
        exact Or.inl (hcovered c hcursor row hb.1 hb.2 hle)

/-- One cursor of a tick leaves nothing behind it exactly when its batch is tie
safe. -/
theorem streamStep_coveredStream_iff (hcovered : CoveredStream p bronze key s)
    (hvalid : env.Valid bronze batchSize key (s.cursors.get key)) :
    CoveredStream p bronze key (p.streamStep s (key, env)) ↔
      TieSafeStep p bronze s (key, env) := by
  have hkeep : (p.streamStep s (key, env)).cursors.get key = s.cursors.get key →
      CoveredStream p bronze key (p.streamStep s (key, env)) := by
    intro hget c hc row hrow hstream hle
    rw [hget] at hc
    exact streamStep_processed.mpr (Or.inl (hcovered c hc row hrow hstream hle))
  unfold TieSafeStep
  cases hquery : env.query with
  | none =>
    have hsame : p.streamStep s (key, env) = s := by simp [Processor.streamStep, hquery]
    rw [hsame]
    exact ⟨fun _ => by simp, fun _ => hcovered⟩
  | some rows =>
    have hget := streamStep_get p s key hquery
    cases hlast : (p.accepted s.proc rows).getLast? with
    | none =>
      rw [hlast] at hget
      refine ⟨fun _ => ?_, fun _ => hkeep hget⟩
      intro _ rows' hrows' last hl
      cases hrows'
      simp [hlast] at hl
    | some last =>
      rw [hlast] at hget
      cases hadvance : env.advanceOk with
      | false =>
        simp only [hadvance, Bool.false_eq_true, if_false] at hget
        exact ⟨fun _ => by simp, fun _ => hkeep hget⟩
      | true =>
        rw [streamStep_moved hcovered hvalid hquery hadvance hlast]
        constructor
        · intro h _ rows' hrows' last' hl
          cases hrows'
          obtain rfl : last = last' := by
            rw [hlast] at hl
            exact Option.some.inj hl
          exact h
        · intro h
          exact h rfl rows rfl last hlast

theorem valid_rest (p : Processor π ε ω) {inputs : List (StreamKey × StreamEnv ε)}
    (hnodup : (((key, env) :: inputs).map Prod.fst).Nodup)
    (hvalid : ∀ input ∈ (key, env) :: inputs,
      input.2.Valid bronze batchSize input.1 (s.cursors.get input.1)) :
    ∀ input ∈ inputs, input.1 ≠ key ∧ input.2.Valid bronze batchSize input.1
      ((p.streamStep s (key, env)).cursors.get input.1) := by
  intro input hinput
  have hne : input.1 ≠ key := by
    intro he
    have hmem : input.1 ∈ inputs.map Prod.fst := List.mem_map_of_mem hinput
    rw [he] at hmem
    exact (List.nodup_cons.mp hnodup).1 hmem
  refine ⟨hne, ?_⟩
  rw [streamStep_get_ne hne]
  exact hvalid input (List.mem_cons_of_mem _ hinput)

theorem exec_coveredStream_ne (inputs : List (StreamKey × StreamEnv ε)) (s : Consumer π ω)
    (hnodup : (inputs.map Prod.fst).Nodup)
    (hvalid : ∀ input ∈ inputs, input.1 ≠ key ∧
      input.2.Valid bronze batchSize input.1 (s.cursors.get input.1)) :
    CoveredStream p bronze key (Runs.exec p.streamStep s inputs) ↔
      CoveredStream p bronze key s := by
  induction inputs generalizing s with
  | nil => rfl
  | cons input rest ih =>
    obtain ⟨other, env⟩ := input
    obtain ⟨hne, hfirst⟩ := hvalid _ List.mem_cons_self
    have hrest := valid_rest p hnodup fun input hinput => (hvalid input hinput).2
    rw [Runs.exec_cons, ih _ (List.nodup_cons.mp hnodup).2, streamStep_coveredStream_ne
      (Ne.symm hne) hfirst]
    intro input hinput
    exact ⟨(hvalid input (List.mem_cons_of_mem _ hinput)).1, (hrest input hinput).2⟩

/-- The cursors of a tick one after the other, each key once. -/
theorem exec_covered_iff (inputs : List (StreamKey × StreamEnv ε)) (s : Consumer π ω)
    (hnodup : (inputs.map Prod.fst).Nodup)
    (hvalid : ∀ input ∈ inputs,
      input.2.Valid bronze batchSize input.1 (s.cursors.get input.1))
    (hcovered : Covered p bronze s) :
    Covered p bronze (Runs.exec p.streamStep s inputs) ↔
      Runs.Allowed p.streamStep (TieSafeStep p bronze) s inputs := by
  induction inputs generalizing s with
  | nil => exact ⟨fun _ => trivial, fun _ => hcovered⟩
  | cons input rest ih =>
    obtain ⟨key, env⟩ := input
    have hnodup' := (List.nodup_cons.mp hnodup).2
    have hrest := valid_rest p hnodup hvalid
    have henv := hvalid _ List.mem_cons_self
    have hfirst := streamStep_coveredStream_iff (hcovered key) henv
    have hnext : CoveredStream p bronze key (p.streamStep s (key, env)) →
        Covered p bronze (p.streamStep s (key, env)) := by
      intro hkey other
      by_cases h : other = key
      · exact h ▸ hkey
      · exact (streamStep_coveredStream_ne h henv).mpr (hcovered other)
    have ih' := fun h => ih (p.streamStep s (key, env)) hnodup' (fun i hi => (hrest i hi).2) h
    constructor
    · intro h
      have hkey := (exec_coveredStream_ne rest _ hnodup' hrest).mp (h key)
      exact ⟨hfirst.mp hkey, (ih' (hnext hkey)).mp h⟩
    · rintro ⟨hsafe, hallowed⟩
      exact (ih' (hnext (hfirst.mpr hsafe))).mpr hallowed

theorem iterations_keys (s : Consumer π ω) (env : TickEnv ε) :
    (Processor.iterations s env).map Prod.fst = s.cursors.keys := by
  simp [Processor.iterations, Function.comp_def]

/-- A tick leaves no row behind a cursor exactly when its batches are tie safe. -/
theorem tick_covered_iff {env : TickEnv ε} (hcovered : Covered p bronze s)
    (hvalid : env.Valid bronze batchSize s.cursors) :
    Covered p bronze (p.tick s env) ↔ TieSafe p bronze s env := by
  unfold Processor.tick TieSafe
  by_cases h : env.healthy ∧ env.cursorsReadable
  · rw [if_pos h]
    have hnodup : ((Processor.iterations s env).map Prod.fst).Nodup := by
      rw [iterations_keys]
      exact s.cursors.nodup
    rw [exec_covered_iff _ s hnodup _ hcovered]
    · exact ⟨fun h' _ => h', fun h' => h' h⟩
    · exact batchSize
    · intro input hinput
      obtain ⟨key, hkey, rfl⟩ := List.mem_map.mp hinput
      exact hvalid key hkey
  · rw [if_neg h]
    exact ⟨fun _ h' => absurd h' h, fun _ => hcovered⟩

theorem exec_calls {b : BatchLoop π ω} {rows : List (BronzeRow × ε)} {call : BronzeRow × ω}
    (h : call ∈ (Runs.exec p.rowStep b rows).calls) :
    call ∈ b.calls ∨ call.1 ∈ rows.map Prod.fst := by
  induction rows generalizing b with
  | nil => exact Or.inl h
  | cons input rows ih =>
    have hstep : ∀ c ∈ (p.rowStep b input).calls, c ∈ b.calls ∨ c.1 = input.1 := by
      intro c hc
      unfold Processor.rowStep at hc
      split at hc
      · exact Or.inl hc
      · simp only at hc
        split at hc <;> rcases List.mem_cons.mp hc with rfl | hc
        · exact Or.inr rfl
        · exact Or.inl hc
        · exact Or.inr rfl
        · exact Or.inl hc
    rw [List.map_cons, List.mem_cons]
    rcases ih h with hb | hrows
    · rcases hstep call hb with hb | he
      · exact Or.inl hb
      · exact Or.inr (Or.inl he)
    · exact Or.inr (Or.inr hrows)

/-- Only bronze rows are handed to the processor. -/
theorem streamStep_calls {cursor : Option Instant} {call : BronzeRow × ω}
    (hvalid : env.Valid bronze batchSize key cursor)
    (h : call ∈ (p.streamStep s (key, env)).calls) : call ∈ s.calls ∨ call.1 ∈ bronze := by
  unfold Processor.streamStep at h
  cases hquery : env.query with
  | none =>
    rw [hquery] at h
    exact Or.inl h
  | some rows =>
    rw [hquery] at h
    rcases exec_calls h with hcall | hrow
    · exact Or.inl hcall
    · have hvisible := (hvalid rows hquery).subset hrow
      exact Or.inr (List.mem_of_mem_filter (Watermark.mem_visible.mp hvisible).1)

/-- What holds at each cursor of a tick when the answers are valid at its start. -/
theorem allowed_of_valid {ok : Consumer π ω → StreamKey × StreamEnv ε → Prop}
    (inputs : List (StreamKey × StreamEnv ε)) (s : Consumer π ω)
    (hok : ∀ s, ∀ input ∈ inputs,
      input.2.Valid bronze batchSize input.1 (s.cursors.get input.1) → ok s input)
    (hnodup : (inputs.map Prod.fst).Nodup)
    (hvalid : ∀ input ∈ inputs,
      input.2.Valid bronze batchSize input.1 (s.cursors.get input.1)) :
    Runs.Allowed p.streamStep ok s inputs := by
  induction inputs generalizing s with
  | nil => trivial
  | cons input rest ih =>
    obtain ⟨key, env⟩ := input
    have hrest := valid_rest p hnodup hvalid
    refine ⟨hok s _ List.mem_cons_self (hvalid _ List.mem_cons_self), ?_⟩
    exact ih _ (fun s input hinput => hok s input (List.mem_cons_of_mem _ hinput))
      (List.nodup_cons.mp hnodup).2 fun i hi => (hrest i hi).2

/-- The iterations of a tick with valid answers each have a valid answer. -/
theorem tick_allowed {ok : Consumer π ω → StreamKey × StreamEnv ε → Prop} {env : TickEnv ε}
    (hok : ∀ s key, (env.stream key).Valid bronze batchSize key (s.cursors.get key) →
      ok s (key, env.stream key))
    (hvalid : env.Valid bronze batchSize s.cursors) :
    Runs.Allowed p.streamStep ok s (Processor.iterations s env) := by
  apply allowed_of_valid
  · intro s input hinput
    obtain ⟨key, -, rfl⟩ := List.mem_map.mp hinput
    exact hok s key
  · rw [iterations_keys]
    exact s.cursors.nodup
  · intro input hinput
    obtain ⟨key, hkey, rfl⟩ := List.mem_map.mp hinput
    exact hvalid key hkey

/-- What every cursor step keeps, a tick keeps. -/
theorem tick_invariant {Inv : Consumer π ω → Prop} {env : TickEnv ε}
    (hstep : ∀ s key, Inv s →
      (env.stream key).Valid bronze batchSize key (s.cursors.get key) →
      Inv (p.streamStep s (key, env.stream key)))
    (hvalid : env.Valid bronze batchSize s.cursors) (h : Inv s) : Inv (p.tick s env) := by
  unfold Processor.tick
  split
  · have hallowed : Runs.Allowed p.streamStep
        (fun s input => Inv s → Inv (p.streamStep s input)) s (Processor.iterations s env) :=
      tick_allowed (fun s key hkey hs => hstep s key hs hkey) hvalid
    exact (Runs.always_of_step (fun s input hs hok => hok hs) h hallowed).last
  · exact h

end Covered

section Log

variable {π ε ω : Type*} {p : Processor π ε ω} {Inv : π → List (BronzeRow × ω) → Prop}
  {ok : BronzeRow × ε → Prop}

/-- The rows of a tick's answers are ones the environment allows. -/
def StreamEnv.Offers (ok : BronzeRow × ε → Prop) (env : StreamEnv ε) : Prop :=
  ∀ rows, env.query = some rows → ∀ input ∈ rows, ok input

/-- Each call keeps what is known of the state and the log of calls. -/
def Processor.KeepsLog (p : Processor π ε ω) (ok : BronzeRow × ε → Prop)
    (Inv : π → List (BronzeRow × ω) → Prop) : Prop :=
  ∀ st calls row env, Inv st calls → ok (row, env) →
    Inv (p.run st row env).2 ((row, (p.run st row env).1) :: calls)

theorem rowStep_log (hkeeps : p.KeepsLog ok Inv) (b : BatchLoop π ω) (input : BronzeRow × ε)
    (h : Inv b.proc b.calls) (hok : ok input) :
    Inv (p.rowStep b input).proc (p.rowStep b input).calls := by
  unfold Processor.rowStep
  split
  · exact h
  · simp only
    split
    · exact hkeeps _ _ _ _ h hok
    · exact hkeeps _ _ _ _ h hok

theorem batchLoop_log (hkeeps : p.KeepsLog ok Inv) {proc : π} {calls : List (BronzeRow × ω)}
    {rows : List (BronzeRow × ε)} (h : Inv proc calls) (hrows : ∀ input ∈ rows, ok input) :
    Inv (p.batchLoop proc calls rows).proc (p.batchLoop proc calls rows).calls := by
  have hallowed : Runs.Allowed p.rowStep (fun _ input => ok input) ⟨proc, calls, none, false⟩ rows :=
    Runs.allowed_of_forall (fun _ => hrows) _
  have hstep : ∀ (b : BatchLoop π ω) (input : BronzeRow × ε), Inv b.proc b.calls → ok input →
      Inv (p.rowStep b input).proc (p.rowStep b input).calls :=
    fun b input hb hok => rowStep_log hkeeps b input hb hok
  have hstart : Inv (BatchLoop.mk proc calls none false).proc
      (BatchLoop.mk proc calls none false).calls := h
  exact (Runs.always_of_step hstep hstart hallowed).last

theorem streamStep_log (hkeeps : p.KeepsLog ok Inv) (s : Consumer π ω)
    (input : StreamKey × StreamEnv ε) (h : Inv s.proc s.calls) (hok : input.2.Offers ok) :
    Inv (p.streamStep s input).proc (p.streamStep s input).calls := by
  unfold Processor.streamStep
  cases hquery : input.2.query with
  | none => exact h
  | some rows => exact batchLoop_log hkeeps h (hok rows hquery)

/-- What each call keeps, a tick keeps. -/
theorem tick_log (hkeeps : p.KeepsLog ok Inv) {s : Consumer π ω} {env : TickEnv ε}
    (h : Inv s.proc s.calls) (hok : ∀ key, (env.stream key).Offers ok) :
    Inv (p.tick s env).proc (p.tick s env).calls := by
  unfold Processor.tick
  split
  · have hoffers : ∀ input ∈ Processor.iterations s env, input.2.Offers ok := by
      intro input hinput
      obtain ⟨key, -, rfl⟩ := List.mem_map.mp hinput
      exact hok key
    have hallowed : Runs.Allowed p.streamStep (fun _ input => input.2.Offers ok) s
        (Processor.iterations s env) := Runs.allowed_of_forall (fun _ => hoffers) s
    have hstep : ∀ (s : Consumer π ω) (input : StreamKey × StreamEnv ε), Inv s.proc s.calls →
        input.2.Offers ok → Inv (p.streamStep s input).proc (p.streamStep s input).calls :=
      fun s input hs hinput => streamStep_log hkeeps s input hs hinput
    exact (Runs.always_of_step hstep h hallowed).last
  · exact h

end Log

end BrainV2.Transform
