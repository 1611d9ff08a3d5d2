import BrainV2.Ingest.Envelope
import BrainV2.Lib.Runs
import BrainV2.Py.Datetime

/-!
# The raw archiver

The consume loop reads a partition message by message. A message whose insert
fails is not committed, but the loop goes on, and the commit of a later message
covers it.

* `buildS3Key`: the object key of an envelope;
* `writeToS3`: write one envelope; only a failure to build the key is raised;
* `processMessage`: parse, insert, write to S3;
* `Archiver.poll`: one turn of the loop; a restart resumes at the committed offset;
* `AtLeastOnce`: every well-formed message below the committed offset is archived;
* `archived_iff`: when that holds throughout a run;
* `failed_insert_passed`: an insert fails and the next message is committed.
-/

namespace BrainV2.Ingest

open Py

/-- `BRONZE_RAW_ARCHIVER`, `BRONZE_S3_LOCAL_DIR` and `S3_BRONZE_BUCKET`. -/
structure S3Settings where
  enabled : Bool
  localDir : String
  bucket : String

/-- The last ordinal, the 31st of December 9999. -/
def maxOrdinal : Int := 3652059

/-- The date in UTC, when it is one. -/
def utcDate (d : Datetime) : Except PyExc (Nat × Nat × Nat) :=
  let ordinal := d.toInstant / microsPerDay + 719163
  if 1 ≤ ordinal ∧ ordinal ≤ maxOrdinal then .ok (ofOrdinal ordinal.toNat)
  else .error ⟨.overflowError, "date value out of range"⟩

/-- `.replace("..", "__")` -/
def replaceDots : List Char → List Char
  | '.' :: '.' :: cs => '_' :: '_' :: replaceDots cs
  | c :: cs => c :: replaceDots cs
  | [] => []

/-- The sanitized file name of an event. -/
def safeKey (idempotencyKey : String) : String :=
  String.ofList (replaceDots (replaceChar idempotencyKey '/' "_").toList)

def buildS3Key (limits : Limits) (workspaceId vendor : Json) (receivedAt : Datetime)
    (idempotencyKey : Json) : Except PyExc String := do
  let (year, month, day) ← utcDate receivedAt
  match idempotencyKey with
  | .str key => do
    let workspaceText ← pyStr limits workspaceId
    let vendorText ← pyStr limits vendor
    return workspaceText ++ "/" ++ vendorText ++ "/" ++ String.ofList (pad 4 year) ++ "/" ++
      String.ofList (pad 2 month) ++ "/" ++ String.ofList (pad 2 day) ++ "/" ++ safeKey key ++
      ".json.zst"
  | j => .error ⟨.attributeError, "'" ++ typeName j ++ "' object has no attribute 'replace'"⟩

/-- Whether the envelope was written; `put` answers the write itself, to the
local directory or to the bucket. -/
def writeToS3 (limits : Limits) (settings : S3Settings) (put : Except PyExc Unit)
    (workspaceId vendor : Json) (receivedAt : Datetime) (idempotencyKey : Json) :
    Except PyExc Bool :=
  if settings.enabled then do
    let _ ← buildS3Key limits workspaceId vendor receivedAt idempotencyKey
    if settings.localDir = "" ∧ settings.bucket = "" then return false
    else return put.isOk
  else return true

/-! ## The consume loop -/

structure ArchiverSettings where
  limits : Limits
  s3 : S3Settings

/-- What the outside answers while a message is handled: the clock, the insert
into ClickHouse, and the write to S3. -/
structure MessageEnv where
  now : Datetime
  insert : Except PyExc Unit
  put : Except PyExc Unit

/-- `process_message`: the row it inserted, and what it returns or raises. -/
def processMessage (settings : ArchiverSettings) (rawBytes : List UInt8) (outside : MessageEnv) :
    Option ChRow × Except PyExc Bool :=
  match parseEnvelope settings.limits rawBytes with
  | .error e => (none, .error e)
  | .ok env =>
    match outside.insert with
    | .error e => (none, .error e)
    | .ok () =>
      (some (buildChRow env outside.now),
        (writeToS3 settings.limits settings.s3 outside.put env.workspaceId env.vendor
          env.receivedAt env.vendorEventId).map fun _ => true)

/-- The values of the messages of a partition, by their offsets. -/
abbrev Partition := List (Option (List UInt8))

/-- The consumer of a partition: the offset it reads next, the committed one, and
the rows in ClickHouse by the offsets they came from. `failed` is a ghost, the
well-formed messages whose insert failed since the consumer was started. -/
structure Archiver where
  position : Nat
  committed : Nat
  table : List (Nat × ChRow)
  failed : List Nat

namespace Archiver

def commit (s : Archiver) : Archiver := { s with committed := s.position }

/-- The row a message left in ClickHouse, and whether its offset is committed: not
after an exception that is no `ValueError`. -/
def handle (settings : ArchiverSettings) (value : Option (List UInt8)) (outside : MessageEnv) :
    Option ChRow × Bool :=
  match value with
  | none => (none, true)
  | some [] => (none, true)
  | some rawBytes =>
    let (row, result) := processMessage settings rawBytes outside
    match result with
    | .ok _ => (row, true)
    | .error e => (row, e.isValueError)

/-- The message holds an envelope. -/
def wellFormed (limits : Limits) : Option (List UInt8) → Bool
  | none => false
  | some [] => false
  | some rawBytes => (parseEnvelope limits rawBytes).isOk

/-- One turn of the loop: the position moves past a message as it is read. -/
def poll (settings : ArchiverSettings) (partition : Partition) (s : Archiver)
    (outside : MessageEnv) : Archiver :=
  match partition[s.position]? with
  | none => s
  | some value =>
    let (row, commits) := handle settings value outside
    let read : Archiver :=
      { position := s.position + 1
        committed := s.committed
        table := match row with
          | some row => (s.position, row) :: s.table
          | none => s.table
        failed := if wellFormed settings.limits value && row.isNone then s.position :: s.failed
          else s.failed }
    if commits then read.commit else read

/-- The rows archived so far, by their offsets. -/
def Archived (s : Archiver) (offset : Nat) : Prop := offset ∈ s.table.map Prod.fst

end Archiver

inductive ArchiverMove where
  | poll (outside : MessageEnv)
  /-- The consumer is started anew at the committed offset. -/
  | restart

def Archiver.step (settings : ArchiverSettings) (partition : Partition) (s : Archiver) :
    ArchiverMove → Archiver
  | .poll outside => s.poll settings partition outside
  | .restart => { s with position := s.committed, failed := [] }

section AtLeastOnce

variable {settings : ArchiverSettings} {partition : Partition} {s : Archiver}

def WellFormedAt (limits : Limits) (partition : Partition) (offset : Nat) : Prop :=
  ∃ value, partition[offset]? = some value ∧ Archiver.wellFormed limits value = true

/-- Every well-formed message below the committed offset is archived. -/
def AtLeastOnce (limits : Limits) (partition : Partition) (s : Archiver) : Prop :=
  ∀ offset < s.committed, WellFormedAt limits partition offset → s.Archived offset

/-- The message is empty, or no envelope, or its row is inserted, or its insert
fails with a `ValueError`, which is taken for a parse failure. -/
def Commits (settings : ArchiverSettings) (value : Option (List UInt8)) (outside : MessageEnv) :
    Prop :=
  match value with
  | none => True
  | some [] => True
  | some rawBytes =>
    match parseEnvelope settings.limits rawBytes with
    | .error e => e.isValueError = true
    | .ok env =>
      match outside.insert with
      | .error e => e.isValueError = true
      | .ok () => ∀ e, writeToS3 settings.limits settings.s3 outside.put env.workspaceId env.vendor
          env.receivedAt env.vendorEventId = .error e → e.isValueError = true

/-- A message that is committed leaves nothing behind: its own insert did not
fail, nor did one before it since the consumer was started, but for rows that
had been archived before. -/
def SafePoll (settings : ArchiverSettings) (partition : Partition) (s : Archiver)
    (outside : MessageEnv) : Prop :=
  ∀ value, partition[s.position]? = some value → Commits settings value outside →
    (∀ offset ∈ s.failed, s.Archived offset) ∧
      (Archiver.wellFormed settings.limits value = true → ∀ e, outside.insert = .error e →
        s.Archived s.position)

def SafeMove (settings : ArchiverSettings) (partition : Partition) (s : Archiver) :
    ArchiverMove → Prop
  | .poll outside => SafePoll settings partition s outside
  | .restart => True

/-- What every run keeps: the messages between the two offsets are archived or
noted as failed. -/
structure Archiver.Sound (limits : Limits) (partition : Partition) (s : Archiver) : Prop where
  committed : s.committed ≤ s.position
  read : ∀ offset, s.committed ≤ offset → offset < s.position →
    WellFormedAt limits partition offset → s.Archived offset ∨ offset ∈ s.failed
  failed : ∀ offset ∈ s.failed, offset < s.position ∧ WellFormedAt limits partition offset

theorem handle_commits_iff (settings : ArchiverSettings) (value : Option (List UInt8))
    (outside : MessageEnv) :
    (Archiver.handle settings value outside).2 = true ↔ Commits settings value outside := by
  unfold Archiver.handle Commits
  split
  · simp
  · simp
  · rename_i rawBytes _
    simp only [processMessage]
    cases parseEnvelope settings.limits rawBytes with
    | error e => simp
    | ok env =>
      cases outside.insert with
      | error e => simp
      | ok u =>
        simp only
        cases writeToS3 settings.limits settings.s3 outside.put env.workspaceId env.vendor
          env.receivedAt env.vendorEventId <;> simp [Except.map]

/-- A well-formed message leaves a row exactly when its insert succeeds. -/
theorem handle_row (outside : MessageEnv) {value : Option (List UInt8)} :
    (Archiver.handle settings value outside).1.isSome = true ↔
      Archiver.wellFormed settings.limits value = true ∧ outside.insert = .ok () := by
  unfold Archiver.handle Archiver.wellFormed
  split
  · simp
  · simp
  · rename_i rawBytes _
    simp only [processMessage]
    cases parseEnvelope settings.limits rawBytes with
    | error e => simp [Except.isOk, Except.toBool]
    | ok env =>
      cases outside.insert with
      | error e => simp
      | ok u =>
        simp only
        split <;> simp [Except.isOk, Except.toBool]

section Poll

variable {value : Option (List UInt8)} (hvalue : partition[s.position]? = some value)
  (outside : MessageEnv)
include hvalue

theorem poll_position : (s.poll settings partition outside).position = s.position + 1 := by
  simp only [Archiver.poll, hvalue]
  split <;> rfl

theorem poll_committed : (s.poll settings partition outside).committed =
    if (Archiver.handle settings value outside).2 then s.position + 1 else s.committed := by
  simp only [Archiver.poll, hvalue]
  split <;> rfl

theorem poll_archived {offset : Nat} : (s.poll settings partition outside).Archived offset ↔
    s.Archived offset ∨ offset = s.position ∧
      Archiver.wellFormed settings.limits value = true ∧ outside.insert = .ok () := by
  have htable : (s.poll settings partition outside).table =
      match (Archiver.handle settings value outside).1 with
      | some row => (s.position, row) :: s.table
      | none => s.table := by
    simp only [Archiver.poll, hvalue]
    split <;> rfl
  rw [← handle_row, Archiver.Archived, htable]
  cases (Archiver.handle settings value outside).1 with
  | none => simp [Archiver.Archived]
  | some row =>
    simp only [List.map_cons, List.mem_cons, Archiver.Archived, Option.isSome_some, and_true]
    exact or_comm

theorem poll_failed {offset : Nat} : offset ∈ (s.poll settings partition outside).failed ↔
    offset ∈ s.failed ∨ offset = s.position ∧
      Archiver.wellFormed settings.limits value = true ∧ ∃ e, outside.insert = .error e := by
  have hfailed : (s.poll settings partition outside).failed =
      if Archiver.wellFormed settings.limits value &&
          (Archiver.handle settings value outside).1.isNone then s.position :: s.failed
      else s.failed := by
    simp only [Archiver.poll, hvalue]
    split <;> rfl
  have hnone : (Archiver.handle settings value outside).1.isNone = true ↔
      ¬ (Archiver.wellFormed settings.limits value = true ∧ outside.insert = .ok ()) := by
    rw [← handle_row]
    cases (Archiver.handle settings value outside).1 <;> simp
  rw [hfailed]
  simp only [Bool.and_eq_true, hnone]
  cases outside.insert with
  | ok u => cases hform : Archiver.wellFormed settings.limits value <;> simp
  | error e =>
    cases hform : Archiver.wellFormed settings.limits value with
    | false => simp
    | true => simp [or_comm]

end Poll

theorem poll_end (h : partition[s.position]? = none) (outside : MessageEnv) :
    s.poll settings partition outside = s := by
  simp [Archiver.poll, h]

/-- A message at the position is the only one the offset there can mean. -/
theorem wellFormedAt_position {value : Option (List UInt8)}
    (hvalue : partition[s.position]? = some value) :
    WellFormedAt settings.limits partition s.position ↔
      Archiver.wellFormed settings.limits value = true := by
  simp [WellFormedAt, hvalue]

theorem poll_sound (hs : s.Sound settings.limits partition) (outside : MessageEnv) :
    (s.poll settings partition outside).Sound settings.limits partition := by
  cases hvalue : partition[s.position]? with
  | none =>
    rw [poll_end hvalue]
    exact hs
  | some value =>
    have hposition : (s.poll settings partition outside).position = s.position + 1 :=
      poll_position hvalue outside
    have hcommitted : (s.poll settings partition outside).committed =
        if (Archiver.handle settings value outside).2 then s.position + 1 else s.committed :=
      poll_committed hvalue outside
    constructor
    · have hle := hs.committed
      rw [hposition, hcommitted]
      split <;> omega
    · intro offset hlow hhigh hform
      rw [hposition] at hhigh
      rw [poll_archived hvalue, poll_failed hvalue]
      by_cases hlast : offset = s.position
      · subst hlast
        have hvalueForm := (wellFormedAt_position hvalue).mp hform
        cases hinsert : outside.insert with
        | ok u => exact Or.inl (Or.inr ⟨rfl, hvalueForm, rfl⟩)
        | error e => exact Or.inr (Or.inr ⟨rfl, hvalueForm, e, rfl⟩)
      · have hbefore : s.committed ≤ offset := by
          rw [hcommitted] at hlow
          split at hlow <;> omega
        rcases hs.read offset hbefore (by omega) hform with h | h
        · exact Or.inl (Or.inl h)
        · exact Or.inr (Or.inl h)
    · intro offset hoffset
      rw [hposition]
      rcases (poll_failed hvalue outside).mp hoffset with h | ⟨rfl, hform, -⟩
      · exact ⟨Nat.lt_succ_of_lt (hs.failed offset h).1, (hs.failed offset h).2⟩
      · exact ⟨Nat.lt_succ_self _, (wellFormedAt_position hvalue).mpr hform⟩

theorem step_sound (move : ArchiverMove) (hs : s.Sound settings.limits partition) :
    (s.step settings partition move).Sound settings.limits partition := by
  cases move with
  | poll outside => exact poll_sound hs outside
  | restart =>
    refine ⟨Nat.le_refl _, ?_, ?_⟩
    · intro offset hlow hhigh
      exact absurd hhigh (Nat.not_lt.mpr hlow)
    · intro offset hoffset
      cases hoffset

/-- A turn of the loop leaves nothing behind the committed offset exactly when
it is safe. -/
theorem poll_atLeastOnce_iff (hs : s.Sound settings.limits partition)
    (hstart : AtLeastOnce settings.limits partition s) (outside : MessageEnv) :
    AtLeastOnce settings.limits partition (s.poll settings partition outside) ↔
      SafePoll settings partition s outside := by
  cases hvalue : partition[s.position]? with
  | none =>
    rw [poll_end hvalue]
    refine ⟨fun _ value h => ?_, fun _ => hstart⟩
    rw [hvalue] at h
    cases h
  | some value =>
    have hsafe : SafePoll settings partition s outside ↔ (Commits settings value outside →
        (∀ offset ∈ s.failed, s.Archived offset) ∧
          (Archiver.wellFormed settings.limits value = true → ∀ e, outside.insert = .error e →
            s.Archived s.position)) := by
      simp [SafePoll, hvalue]
    have hcommits := handle_commits_iff settings value outside
    have hcommitted : (s.poll settings partition outside).committed =
        if (Archiver.handle settings value outside).2 then s.position + 1 else s.committed :=
      poll_committed hvalue outside
    rw [hsafe]
    by_cases hcommit : Commits settings value outside
    · rw [if_pos (hcommits.mpr hcommit)] at hcommitted
      constructor
      · intro hnext _
        constructor
        · intro offset hoffset
          obtain ⟨hlt, hform⟩ := hs.failed offset hoffset
          have harchived := hnext offset (by omega) hform
          rcases (poll_archived hvalue outside).mp harchived with h | ⟨rfl, -⟩
          · exact h
          · exact absurd hlt (Nat.lt_irrefl _)
        · intro hform e he
          have harchived := hnext s.position (by omega) ((wellFormedAt_position hvalue).mpr hform)
          rcases (poll_archived hvalue outside).mp harchived with h | ⟨-, -, hok⟩
          · exact h
          · rw [he] at hok
            cases hok
      · intro hall offset hoffset hform
        obtain ⟨hfailed, hown⟩ := hall hcommit
        rw [poll_archived hvalue]
        rw [hcommitted] at hoffset
        by_cases hbefore : offset < s.committed
        · exact Or.inl (hstart offset hbefore hform)
        by_cases hlast : offset = s.position
        · subst hlast
          have hvalueForm := (wellFormedAt_position hvalue).mp hform
          cases hinsert : outside.insert with
          | ok u => exact Or.inr ⟨rfl, hvalueForm, rfl⟩
          | error e => exact Or.inl (hown hvalueForm e hinsert)
        · rcases hs.read offset (by omega) (by omega) hform with h | h
          · exact Or.inl h
          · exact Or.inl (hfailed offset h)
    · rw [if_neg (mt hcommits.mp hcommit)] at hcommitted
      constructor
      · intro _ h
        exact absurd h hcommit
      · intro _ offset hoffset hform
        rw [hcommitted] at hoffset
        exact (poll_archived hvalue outside).mpr (Or.inl (hstart offset hoffset hform))

/-- Over any run of turns and restarts, every well-formed message below the
committed offset is archived exactly when every turn is safe. -/
theorem archived_iff {moves : List ArchiverMove} (hs : s.Sound settings.limits partition)
    (hstart : AtLeastOnce settings.limits partition s) :
    Runs.Always (Archiver.step settings partition) (AtLeastOnce settings.limits partition)
        s moves ↔
      Runs.Allowed (Archiver.step settings partition) (SafeMove settings partition) s moves := by
  have hinv : ∀ (t : Archiver) move, t.Sound settings.limits partition → True →
      (t.step settings partition move).Sound settings.limits partition :=
    fun t move ht _ => step_sound move ht
  have hstep : ∀ (t : Archiver) move, t.Sound settings.limits partition →
      AtLeastOnce settings.limits partition t → True →
      (AtLeastOnce settings.limits partition (t.step settings partition move) ↔
        SafeMove settings partition t move) := by
    intro t move ht hbefore _
    cases move with
    | poll outside => exact poll_atLeastOnce_iff ht hbefore outside
    | restart => exact ⟨fun _ => trivial, fun _ => hbefore⟩
  exact Runs.always_iff_allowed hinv hstep hs hstart
    (Runs.allowed_of_forall (fun _ _ _ => trivial) _)

/-- A consumer group that has not committed anything. -/
def Archiver.fresh : Archiver := ⟨0, 0, [], []⟩

theorem fresh_sound (limits : Limits) (partition : Partition) :
    Archiver.fresh.Sound limits partition where
  committed := Nat.le_refl _
  read _ _ h := absurd h (Nat.not_lt_zero _)
  failed _ h := nomatch h

theorem fresh_atLeastOnce (limits : Limits) (partition : Partition) :
    AtLeastOnce limits partition .fresh := fun _ h => absurd h (Nat.not_lt_zero _)

end AtLeastOnce

section Example

def exampleMessage : List UInt8 :=
  utf8 ("\x7b\"workspace_id\": \"w\", \"vendor\": \"shopify\", \"vendor_event_id\": \"e\", " ++
    "\"event_type\": \"order\", \"ingested_at\": \"2024-01-01T00:00:00+00:00\", " ++
    "\"payload\": \"\x7b\x7d\"\x7d")

def archiverSettings : ArchiverSettings := ⟨⟨1000, 1000⟩, ⟨true, "", "bronze"⟩⟩

def midnight : Datetime := ⟨.of 2024 1 1, .of 0 0 0 0, some .utc⟩

def unavailable : PyExc := ⟨.other "OperationalError" false, "connection refused"⟩

/-- A message and a tombstone after it. -/
def examplePartition : Partition := [some exampleMessage, none]

theorem exampleMessage_wellFormed :
    WellFormedAt archiverSettings.limits examplePartition 0 :=
  ⟨some exampleMessage, rfl, by decide +kernel⟩

def pollAnswered (insert : Except PyExc Unit) : ArchiverMove := .poll ⟨midnight, insert, .ok ()⟩

/-- The consumer after a failed insert of the first message. -/
def failedOnce : Archiver :=
  Archiver.fresh.poll archiverSettings examplePartition ⟨midnight, .error unavailable, .ok ()⟩

theorem failedOnce_position : failedOnce.position = 1 := poll_position rfl _

theorem failedOnce_next : examplePartition[failedOnce.position]? = some none := by
  rw [failedOnce_position]
  rfl

theorem failedOnce_not_archived : ¬ failedOnce.Archived 0 := by
  intro harchived
  have hfirst : examplePartition[Archiver.fresh.position]? = some (some exampleMessage) := rfl
  rcases (poll_archived hfirst _).mp harchived with hbefore | ⟨-, -, hinsert⟩
  · cases hbefore
  · cases hinsert

/-- The insert of the first message fails; the commit of the second covers it. -/
theorem failed_insert_passed :
    Archiver.fresh.Sound archiverSettings.limits examplePartition ∧
    AtLeastOnce archiverSettings.limits examplePartition .fresh ∧
    ¬ Runs.Always (Archiver.step archiverSettings examplePartition)
      (AtLeastOnce archiverSettings.limits examplePartition) .fresh
      [pollAnswered (.error unavailable), pollAnswered (.ok ())] := by
  refine ⟨fresh_sound _ _, fresh_atLeastOnce _ _, ?_⟩
  intro h
  have hexec : Runs.exec (Archiver.step archiverSettings examplePartition) .fresh
      [pollAnswered (.error unavailable), pollAnswered (.ok ())] =
        failedOnce.poll archiverSettings examplePartition ⟨midnight, .ok (), .ok ()⟩ := by
    rw [Runs.exec_cons, Runs.exec_cons, Runs.exec_nil]
    rfl
  have hlast := h.last
  rw [hexec] at hlast
  have hcommitted : 0 < (failedOnce.poll archiverSettings examplePartition
      ⟨midnight, .ok (), .ok ()⟩).committed := by
    rw [poll_committed failedOnce_next, failedOnce_position]
    decide
  have harchived := hlast 0 hcommitted exampleMessage_wellFormed
  rcases (poll_archived failedOnce_next _).mp harchived with hbefore | ⟨hzero, -⟩
  · exact failedOnce_not_archived hbefore
  · rw [failedOnce_position] at hzero
    cases hzero

/-- A consumer that restarts and reads on archives what it commits. -/
theorem restarted_consumer_archives :
    Runs.Always (Archiver.step archiverSettings examplePartition)
      (AtLeastOnce archiverSettings.limits examplePartition) .fresh
      [.restart, pollAnswered (.ok ())] := by
  apply (archived_iff (fresh_sound _ _) (fresh_atLeastOnce _ _)).mpr
  refine ⟨trivial, ?_, trivial⟩
  intro value _ _
  constructor
  · intro offset h
    cases h
  · intro _ e h
    cases h

end Example

end BrainV2.Ingest
