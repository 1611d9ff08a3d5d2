import BrainV2.Consent.SubjectErasure
import BrainV2.Lib.Encodings
import Mathlib.Logic.Function.Basic

/-!
# The erasure ladder

* `Pg`, `Stores`: what the ladder reads and writes;
* `withSuperadmin`: a transaction, with the ways in which it can end;
* `wipePgPii`, `eraseAndVerifyChTiers`, `shredTiers`: tiers 1 to 4;
* `eraseSubject`: the whole use case.
-/

namespace BrainV2.Consent

/-- A row of `customer_pii`: the columns that the erasure reads or writes. -/
structure CustomerPii where
  subject : Subject
  emailCt : Option (List UInt8)
  phoneCt : Option (List UInt8)
  fullNameCt : Option (List UInt8)
  emailHash : Option String
  phoneHash : Option String
  saltVersion : Option String
  identityClusterId : Option String
  tombstonedAt : Option Time
deriving DecidableEq, Repr

/-- The table `customer_pii`, with its unique constraint on the subject. -/
structure CustomerPiiTable where
  rows : List CustomerPii
  uniqueSubjects : (rows.map (·.subject)).Nodup

/-- A row of `identity_cluster_edges`. -/
structure IdentityClusterEdge where
  workspaceId : String
  nodeA : String
  nodeB : String
deriving DecidableEq, Repr

/-- A row of `key_destruction_ledger`. -/
structure LedgerEntry where
  erasureId : String
  dekKeyId : String
  tier : DekTier
  outcome : DekOutcome
  errorDetail : Option String
  vaultBackend : String
deriving DecidableEq, Repr

/-- A row of `audit_log`. -/
structure AuditEntry where
  id : String
  subject : Subject
  userId : String
  erasureId : String
deriving DecidableEq, Repr

/-- The Postgres database. `mirrors` holds the subjects of the rows of the hot
mirrors, by the name of the table. -/
structure Pg where
  requests : RequestTable
  customerPii : CustomerPiiTable
  edges : List IdentityClusterEdge
  mirrors : String → List Subject
  ledger : List LedgerEntry
  auditLog : List AuditEntry

/-- All the stores. `ch` holds the subjects of the rows of the ClickHouse tables,
`vault` the key material by its id. -/
structure Stores where
  pg : Pg
  ch : String → List Subject
  vault : List (String × String)

/-- How a transaction ends: `refused` before it began, `rolledBack`, `committed`, or
committed by the server while the client saw an error. -/
inductive TxOutcome where
  | refused (message : String)
  | committed
  | rolledBack (message : String)
  | unacknowledged (message : String)
deriving DecidableEq, Repr

/-- The statements of the transaction have taken effect. -/
def TxOutcome.applied : TxOutcome → Bool
  | .committed => true
  | .unacknowledged _ => true
  | _ => false

/-- What is raised by the use case. -/
inductive EraseError where
  | orchestratorOff
  | subjectRequired
  | noticeWindow (endsAt : Time) (erasureId : String)
  /-- An error of the database. -/
  | database (message : String)
deriving DecidableEq, Repr

/-- Run `fn` in a transaction: its value, and the database after it. -/
def withSuperadmin {α ε : Type} (databaseError : String → ε) (outcome : TxOutcome) (pg : Pg)
    (fn : Pg → Except ε (α × Pg)) : Except ε α × Pg :=
  match outcome with
  | .refused message => (.error (databaseError message), pg)
  | .committed =>
    match fn pg with
    | .error e => (.error e, pg)
    | .ok (value, pg') => (.ok value, pg')
  | .rolledBack message =>
    match fn pg with
    | .error e => (.error e, pg)
    | .ok _ => (.error (databaseError message), pg)
  | .unacknowledged message =>
    match fn pg with
    | .error e => (.error e, pg)
    | .ok (_, pg') => (.error (databaseError message), pg')

/-! ### Tier 1 -/

def CustomerPii.wipe (row : CustomerPii) (now : Time) : CustomerPii where
  subject := row.subject
  emailCt := none
  phoneCt := none
  fullNameCt := none
  emailHash := none
  phoneHash := none
  saltVersion := none
  identityClusterId := none
  tombstonedAt := some now

def wipeRows (rows : List CustomerPii) (subject : Subject) (now : Time) : List CustomerPii :=
  rows.map fun row => if row.subject = subject then row.wipe now else row

theorem wipeRows_subjects (rows : List CustomerPii) (subject : Subject) (now : Time) :
    (wipeRows rows subject now).map (·.subject) = rows.map (·.subject) := by
  simp only [wipeRows, List.map_map]
  apply List.map_congr_left
  intro row _
  simp only [Function.comp]
  split <;> rfl

def CustomerPiiTable.wipe (table : CustomerPiiTable) (subject : Subject) (now : Time) :
    CustomerPiiTable where
  rows := wipeRows table.rows subject now
  uniqueSubjects := by
    rw [wipeRows_subjects]
    exact table.uniqueSubjects

def IdentityClusterEdge.mentions (edge : IdentityClusterEdge) (subject : Subject) : Bool :=
  edge.workspaceId == subject.workspaceId &&
    (edge.nodeA == subject.customerRef || edge.nodeB == subject.customerRef)

def pgTier (countRemaining : Nat) : TierVerificationResult where
  tier := "pg_hot_mirror"
  table := "customer_pii"
  countRemaining := countRemaining
  verified := countRemaining == 0

/-- A subject without a row and a row that is tombstoned are left as they are. -/
def wipePgPii (pg : Pg) (subject : Subject) (now : Time) : TierVerificationResult × Pg :=
  match pg.customerPii.rows.find? fun row => row.subject = subject with
  | none => (pgTier 0, pg)
  | some row =>
    if row.tombstonedAt.isSome then (pgTier 0, pg)
    else
      let table := pg.customerPii.wipe subject now
      (pgTier (table.rows.countP fun row => row.subject = subject && row.tombstonedAt.isNone),
        { pg with
          customerPii := table
          edges := pg.edges.filter fun edge => !edge.mentions subject })

/-! ### Tiers 2 and 3 -/

structure ErasureTarget where
  table : String
  hasCustomerRef : Bool
  useFinal : Bool
deriving DecidableEq, Repr

/-- ClickHouse: whether the condition of a `WHERE` clause holds of a row, or `none`
for a text that it does not parse. -/
abbrev ClickHouse := String → Option (Subject → Bool)

/-- Quotes are doubled, nothing else is escaped. -/
def quoted (s : String) : String :=
  "'" ++ String.ofList (s.toList.flatMap fun c => if c = '\'' then ['\'', '\''] else [c]) ++ "'"

def subjectCondition (subject : Subject) : String :=
  "workspace_id = " ++ quoted subject.workspaceId ++
    " AND customer_ref = " ++ quoted subject.customerRef

/-- `workspaceId.length`, in code units. -/
def Subject.workspaceIdLength (subject : Subject) : Nat :=
  (Utf16.utf16 subject.workspaceId).length

/-- What ClickHouse answers for one target: whether one of the commands failed, and
whether the mutation was done when the rows were counted. -/
structure ChAnswer where
  failed : Bool
  mutated : Bool
deriving DecidableEq, Repr

def chTier (table : String) (countRemaining : Int) (verified : Bool) : TierVerificationResult :=
  ⟨"ch", table, countRemaining, verified⟩

/-- Delete, wait and count on one target. -/
def eraseChTarget (clickhouse : ClickHouse) (subject : Subject) (answer : ChAnswer)
    (target : ErasureTarget) (ch : String → List Subject) :
    TierVerificationResult × (String → List Subject) :=
  if !target.hasCustomerRef then (chTier target.table 0 true, ch)
  else if subject.workspaceId = "" ∨ subject.customerRef = "" ∨
      subject.workspaceIdLength < 10 then
    (chTier target.table (-1) false, ch)
  else
    match clickhouse (subjectCondition subject) with
    | none => (chTier target.table (-1) false, ch)
    | some selects =>
      let ch' := if answer.mutated then
          Function.update ch target.table ((ch target.table).filter fun row => !selects row)
        else ch
      if answer.failed then (chTier target.table (-1) false, ch')
      else
        let count := (ch' target.table).countP selects
        (chTier target.table count (count == 0), ch')

def eraseAndVerifyChTiers (clickhouse : ClickHouse) (subject : Subject)
    (answers : Nat → ChAnswer) :
    List ErasureTarget → (String → List Subject) →
      List TierVerificationResult × (String → List Subject)
  | [], ch => ([], ch)
  | target :: targets, ch =>
    let (result, ch') := eraseChTarget clickhouse subject (answers 0) target ch
    let (results, ch'') := eraseAndVerifyChTiers clickhouse subject (fun n => answers (n + 1))
      targets ch'
    (result :: results, ch'')

/-! ### Tier 4 -/

structure DekDestructionResult where
  dekKeyId : String
  outcome : DekOutcome
  errorDetail : Option String
deriving DecidableEq, Repr

def vaultGet (vault : List (String × String)) (dekKeyId : String) : Option String :=
  (vault.find? fun entry => entry.1 = dekKeyId).map (·.2)

def destroyDek (backend : String) (vault : List (String × String)) (dekKeyId : String) :
    DekDestructionResult × List (String × String) :=
  if backend = "kms" then
    (⟨dekKeyId, .error, some
      ("KMS DEK destruction is a Stage-8 console ceremony (held_for_console). " ++
        "Run the BronzeStorageStack CDK deploy + KMS ceremony before enabling this path.")⟩, vault)
  else if (vaultGet vault dekKeyId).isSome then
    (⟨dekKeyId, .destroyed, none⟩, vault.filter fun entry => !(entry.1 = dekKeyId))
  else (⟨dekKeyId, .notFound, none⟩, vault)

/-- `decryptWithDek` gives a result: the material is found and not empty. -/
def Decrypts (vault : List (String × String)) (dekKeyId : String) : Prop :=
  ∃ material, vaultGet vault dekKeyId = some material ∧ material ≠ ""

/-- What the loop over the tiers has gathered. -/
structure Shred where
  vault : List (String × String)
  ledger : List LedgerEntry
  dekDestroyedTiers : List DekTier
  results : List TierVerificationResult

def shredTier (backend erasureId dekKeyId : String) (tier : DekTier) (s : Shred) : Shred :=
  let (destruction, vault) := destroyDek backend s.vault dekKeyId
  { vault := vault
    ledger := s.ledger ++ [⟨erasureId, dekKeyId, tier, destruction.outcome,
      destruction.errorDetail, backend⟩]
    dekDestroyedTiers :=
      if destruction.outcome = .destroyed ∨ destruction.outcome = .alreadyDestroyed then
        s.dekDestroyedTiers ++ [tier]
      else s.dekDestroyedTiers
    results := s.results ++ [⟨"s3_crypto_shred:" ++ tier.name, "dek:" ++ dekKeyId, 0,
      decide (destruction.outcome ≠ .error)⟩] }

/-- Every tier destroys the one key of the subject and this salt version. -/
def shredTiers (backend erasureId dekKeyId : String) (s : Shred) : List DekTier → Shred
  | [] => s
  | tier :: tiers =>
    if isValidDekKeyId dekKeyId then
      shredTiers backend erasureId dekKeyId (shredTier backend erasureId dekKeyId tier s) tiers
    else shredTiers backend erasureId dekKeyId s tiers

def dekTiers : List DekTier := [.s3Raw, .glacier, .customerPiiCt]

/-! ### The use case -/

structure EraseSubjectCommand where
  subject : Subject
  requestedByUserId : Option String
  saltVersion : String := "v1"
  skipNoticeWindowCheckForTest : Bool := false

/-- The process: its environment variables, the targets and the database server. -/
structure ErasureSettings where
  erasureOrchestrator : Option String
  custodyBacking : Option String
  targets : List ErasureTarget
  clickhouse : ClickHouse

/-- What the outside answers during one call: clocks, new ids, and how each
transaction ends. `clickhouse n` is the answer for target `n`; `shredded` is the number of tiers handled before the error when
the transaction of tier 4 fails. -/
structure EraseEnv where
  requestedNow : Time
  freshId : String
  executedNow : Time
  wipedNow : Time
  verifiedNow : Time
  auditId : String
  request : TxOutcome
  wipe : TxOutcome
  clickhouse : Nat → ChAnswer
  shred : TxOutcome
  shredded : Nat
  audit : TxOutcome
  finish : TxOutcome
  fail : TxOutcome

def duplicateKey : String :=
  "duplicate key value violates unique constraint \"subject_erasure_request_pkey\""

/-- Phase 1, inside its transaction. -/
def beginErasure (command : EraseSubjectCommand) (env : EraseEnv) (pg : Pg) :
    Except EraseError (SubjectErasureRequest × Pg) :=
  match getOrCreateErasureRequest pg.requests command.subject command.requestedByUserId
    env.requestedNow env.freshId with
  | none => .error (.database duplicateKey)
  | some (request, table) =>
    if request.status = .completed then .ok (request, { pg with requests := table })
    else
      let table := if request.status = .failed then
          updateErasureStatus table request.id .pending {}
        else table
      if !command.skipNoticeWindowCheckForTest &&
          !isNoticeWindowExpired env.requestedNow request then
        .error (.noticeWindow request.noticeWindowEndsAt request.id)
      else
        .ok (request, { pg with
          requests := updateErasureStatus table request.id .executing
            { executedAt := some env.requestedNow } })

/-- What the tiers gathered. -/
structure Ladder where
  tiers : List TierVerificationResult
  dekDestroyedTiers : List DekTier
  auditLogEntryId : String

def writeAuditLogEntry (pg : Pg) (entry : AuditEntry) : Pg :=
  { pg with auditLog := entry :: pg.auditLog }

/-- Tiers 1 to 5, up to the artifact. -/
def runLadder (settings : ErasureSettings) (command : EraseSubjectCommand) (env : EraseEnv)
    (erasureId : String) (s : Stores) : Except String Ladder × Stores :=
  let (wiped, pg) := withSuperadmin id env.wipe s.pg fun pg =>
    .ok (wipePgPii pg command.subject env.wipedNow)
  match wiped with
  | .error e => (.error e, { s with pg := pg })
  | .ok pgResult =>
    let (chResults, ch) := eraseAndVerifyChTiers settings.clickhouse command.subject env.clickhouse
      settings.targets s.ch
    let backend := settings.custodyBacking.getD "local-aesgcm"
    let dekKeyId := buildDekKeyId command.subject command.saltVersion
    let shredOf := shredTiers backend erasureId dekKeyId ⟨s.vault, pg.ledger, [], []⟩
    let shred := shredOf dekTiers
    -- the vault is no part of the transaction
    let vault := match env.shred with
      | .refused _ => s.vault
      | .rolledBack _ => (shredOf (dekTiers.take env.shredded)).vault
      | _ => shred.vault
    let (shredded, pg) := withSuperadmin id env.shred pg fun pg =>
      .ok ((), { pg with ledger := shred.ledger })
    match shredded with
    | .error e => (.error e, ⟨pg, ch, vault⟩)
    | .ok () =>
      let (audited, pg) := withSuperadmin id env.audit pg fun pg =>
        .ok (env.auditId, writeAuditLogEntry pg ⟨env.auditId, command.subject,
          command.requestedByUserId.getD "00000000-0000-0000-0000-000000000001", erasureId⟩)
      match audited with
      | .error e => (.error e, ⟨pg, ch, vault⟩)
      | .ok auditLogEntryId =>
        (.ok ⟨pgResult :: chResults ++ shred.results, shred.dekDestroyedTiers, auditLogEntryId⟩,
          ⟨pg, ch, vault⟩)

def Ladder.allZero (ladder : Ladder) : Bool := ladder.tiers.all (·.verified)

/-- The last update of the request, and what the catch block does when it fails. -/
def finishErasure (env : EraseEnv) (erasureId : String) (ladder : Ladder) (pg : Pg) :
    Except String Unit × Pg :=
  withSuperadmin id env.finish pg fun pg =>
    .ok ((), { pg with
      requests := updateErasureStatus pg.requests erasureId
        (if ladder.allZero then .completed else .failed)
        { countZeroVerifiedAt := some env.verifiedNow
          failureReason := if ladder.allZero then none
            else some "COUNT>0 on one or more tiers after erasure" } })

/-- The catch block; a failure of its own is ignored. -/
def failErasure (env : EraseEnv) (erasureId message : String) (pg : Pg) : Pg :=
  (withSuperadmin id env.fail pg fun pg =>
    .ok ((), { pg with
      requests := updateErasureStatus pg.requests erasureId .failed
        { failureReason := some message } })).2

/-- The artifact of an erasure that was completed before. -/
def completedArtifact (request : SubjectErasureRequest) (subject : Subject) (now : Time) :
    ErasureVerificationArtifact where
  erasureId := request.id
  subject := subject
  executedAt := request.executedAt.getD now
  countZeroVerifiedAt := request.countZeroVerifiedAt.getD now
  tiers := []
  allZero := true
  dekDestroyedTiers := []
  auditLogEntryId := none

/-- The ladder on a request that is executing, with the catch block around it. -/
def executeErasure (settings : ErasureSettings) (command : EraseSubjectCommand) (env : EraseEnv)
    (erasureId : String) (s : Stores) : Except EraseError ErasureVerificationArtifact × Stores :=
  match runLadder settings command env erasureId s with
  | (.error e, s') =>
    (.error (.database e), { s' with pg := failErasure env erasureId e s'.pg })
  | (.ok ladder, s') =>
    match finishErasure env erasureId ladder s'.pg with
    | (.error e, pg') =>
      (.error (.database e), { s' with pg := failErasure env erasureId e pg' })
    | (.ok (), pg') =>
      (.ok
        { erasureId := erasureId
          subject := command.subject
          executedAt := env.executedNow
          countZeroVerifiedAt := env.verifiedNow
          tiers := ladder.tiers
          allZero := ladder.allZero
          dekDestroyedTiers := ladder.dekDestroyedTiers
          auditLogEntryId := some ladder.auditLogEntryId },
        { s' with pg := pg' })

def eraseSubject (settings : ErasureSettings) (command : EraseSubjectCommand) (env : EraseEnv)
    (s : Stores) : Except EraseError ErasureVerificationArtifact × Stores :=
  if settings.erasureOrchestrator ≠ some "true" then (.error .orchestratorOff, s)
  else if command.subject.workspaceId = "" ∨ command.subject.customerRef = "" then
    (.error .subjectRequired, s)
  else
    match withSuperadmin .database env.request s.pg (beginErasure command env) with
    | (.error e, pg) => (.error e, { s with pg := pg })
    | (.ok request, pg) =>
      if request.status = .completed then
        (.ok (completedArtifact request command.subject env.executedNow), { s with pg := pg })
      else executeErasure settings command env request.id { s with pg := pg }

end BrainV2.Consent
