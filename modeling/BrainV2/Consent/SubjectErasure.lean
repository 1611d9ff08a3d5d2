import Mathlib.Data.List.Nodup
import Mathlib.Data.List.Defs

/-!
# Erasure requests

* `SubjectErasureRequest`: a row of `subject_erasure_request`, with the check
  constraint on its notice window;
* `getOrCreateErasureRequest`, `updateErasureStatus`: what the statements do to
  the table;
* `isValidDekKeyId`, `buildDekKeyId`: the names of the data encryption keys.
-/

namespace BrainV2.Consent

/-- A time in milliseconds. -/
abbrev Time := Int

/-- A data subject: a workspace and a customer reference. -/
structure Subject where
  workspaceId : String
  customerRef : String
deriving DecidableEq, Repr

inductive ErasureStatus where
  | pending
  | noticeWindowEnded
  | executing
  | completed
  | failed
deriving DecidableEq, Repr

inductive DekTier where
  | s3Raw
  | glacier
  | customerPiiCt
deriving DecidableEq, Repr

def DekTier.name : DekTier → String
  | .s3Raw => "s3_raw"
  | .glacier => "glacier"
  | .customerPiiCt => "customer_pii_ct"

inductive DekOutcome where
  | destroyed
  | alreadyDestroyed
  | notFound
  | error
deriving DecidableEq, Repr

def noticeWindow : Time := 48 * 60 * 60 * 1000

structure SubjectErasureRequest where
  id : String
  subject : Subject
  requestedAt : Time
  noticeWindowEndsAt : Time
  executedAt : Option Time
  countZeroVerifiedAt : Option Time
  status : ErasureStatus
  failureReason : Option String
  requestedByUserId : Option String
  noticeWindowIs48h : noticeWindowEndsAt = requestedAt + noticeWindow
deriving DecidableEq

def buildNoticeWindowEndsAt (requestedAt : Time) : Time := requestedAt + noticeWindow

def isNoticeWindowExpired (now : Time) (request : SubjectErasureRequest) : Bool :=
  decide (request.noticeWindowEndsAt ≤ now)

def buildDekKeyId (subject : Subject) (saltVersion : String) : String :=
  subject.workspaceId ++ "/" ++ subject.customerRef ++ "/" ++ saltVersion

def isValidDekKeyId (dekKeyId : String) : Bool :=
  let parts := dekKeyId.toList.splitOn '/'
  parts.length == 3 && parts.all fun p => !p.isEmpty

/-- Per-tier result of the ladder. -/
structure TierVerificationResult where
  tier : String
  table : String
  countRemaining : Int
  verified : Bool
deriving DecidableEq, Repr

structure ErasureVerificationArtifact where
  erasureId : String
  subject : Subject
  executedAt : Time
  countZeroVerifiedAt : Time
  tiers : List TierVerificationResult
  allZero : Bool
  dekDestroyedTiers : List DekTier
  auditLogEntryId : Option String
deriving DecidableEq, Repr

/-- The table `subject_erasure_request`, the newest row first, with its primary key. -/
structure RequestTable where
  rows : List SubjectErasureRequest
  uniqueIds : (rows.map (·.id)).Nodup

namespace RequestTable

def existing (table : RequestTable) (subject : Subject) : Option SubjectErasureRequest :=
  table.rows.find? fun r => r.subject = subject

/-- An id that is taken violates the primary key. -/
def insert (table : RequestTable) (r : SubjectErasureRequest) : Option RequestTable :=
  if h : r.id ∈ table.rows.map (·.id) then none
  else some ⟨r :: table.rows, List.nodup_cons.mpr ⟨h, table.uniqueIds⟩⟩

end RequestTable

def newRequest (id : String) (subject : Subject) (now : Time) (requestedByUserId : Option String) :
    SubjectErasureRequest where
  id := id
  subject := subject
  requestedAt := now
  noticeWindowEndsAt := buildNoticeWindowEndsAt now
  executedAt := none
  countZeroVerifiedAt := none
  status := .pending
  failureReason := none
  requestedByUserId := requestedByUserId
  noticeWindowIs48h := rfl

/-- The request of the subject, whatever its status, or a new one; `none` when the
new row violates the primary key. -/
def getOrCreateErasureRequest (table : RequestTable) (subject : Subject)
    (requestedByUserId : Option String) (now : Time) (freshId : String) :
    Option (SubjectErasureRequest × RequestTable) :=
  match table.existing subject with
  | some request => some (request, table)
  | none =>
    let request := newRequest freshId subject now requestedByUserId
    (table.insert request).map fun table => (request, table)

/-- The columns that the statement keeps when it is given no value. -/
structure StatusExtra where
  executedAt : Option Time := none
  countZeroVerifiedAt : Option Time := none
  failureReason : Option String := none

def SubjectErasureRequest.update (r : SubjectErasureRequest) (status : ErasureStatus)
    (extra : StatusExtra) : SubjectErasureRequest :=
  { r with
    status := status
    executedAt := extra.executedAt <|> r.executedAt
    countZeroVerifiedAt := extra.countZeroVerifiedAt <|> r.countZeroVerifiedAt
    failureReason := extra.failureReason <|> r.failureReason }

def updateRows (rows : List SubjectErasureRequest) (erasureId : String) (status : ErasureStatus)
    (extra : StatusExtra) : List SubjectErasureRequest :=
  rows.map fun r => if r.id = erasureId then r.update status extra else r

theorem updateRows_ids (rows : List SubjectErasureRequest) (erasureId : String)
    (status : ErasureStatus) (extra : StatusExtra) :
    (updateRows rows erasureId status extra).map (·.id) = rows.map (·.id) := by
  simp only [updateRows, List.map_map]
  apply List.map_congr_left
  intro r _
  simp only [Function.comp]
  split <;> rfl

def updateErasureStatus (table : RequestTable) (erasureId : String) (status : ErasureStatus)
    (extra : StatusExtra) : RequestTable where
  rows := updateRows table.rows erasureId status extra
  uniqueIds := by
    rw [updateRows_ids]
    exact table.uniqueIds

@[simp] theorem update_id (r : SubjectErasureRequest) (status : ErasureStatus)
    (extra : StatusExtra) : (r.update status extra).id = r.id := rfl

@[simp] theorem update_subject (r : SubjectErasureRequest) (status : ErasureStatus)
    (extra : StatusExtra) : (r.update status extra).subject = r.subject := rfl

@[simp] theorem update_status (r : SubjectErasureRequest) (status : ErasureStatus)
    (extra : StatusExtra) : (r.update status extra).status = status := rfl

@[simp] theorem update_countZeroVerifiedAt (r : SubjectErasureRequest) (status : ErasureStatus)
    (extra : StatusExtra) : (r.update status extra).countZeroVerifiedAt =
      (extra.countZeroVerifiedAt <|> r.countZeroVerifiedAt) := rfl

@[simp] theorem update_failureReason (r : SubjectErasureRequest) (status : ErasureStatus)
    (extra : StatusExtra) : (r.update status extra).failureReason =
      (extra.failureReason <|> r.failureReason) := rfl

theorem mem_updateErasureStatus {table : RequestTable} {erasureId : String}
    {status : ErasureStatus} {extra : StatusExtra} {r : SubjectErasureRequest} :
    r ∈ (updateErasureStatus table erasureId status extra).rows ↔
      (∃ old ∈ table.rows, old.id = erasureId ∧ r = old.update status extra) ∨
        (r ∈ table.rows ∧ r.id ≠ erasureId) := by
  simp only [updateErasureStatus, updateRows, List.mem_map]
  constructor
  · rintro ⟨old, hold, rfl⟩
    by_cases hid : old.id = erasureId
    · rw [if_pos hid]
      exact Or.inl ⟨old, hold, hid, rfl⟩
    · rw [if_neg hid]
      exact Or.inr ⟨hold, hid⟩
  · rintro (⟨old, hold, hid, rfl⟩ | ⟨hr, hid⟩)
    · exact ⟨old, hold, if_pos hid⟩
    · exact ⟨r, hr, if_neg hid⟩

/-- Two rows with one id are the same row. -/
theorem RequestTable.eq_of_id {table : RequestTable} {r r' : SubjectErasureRequest}
    (h : r ∈ table.rows) (h' : r' ∈ table.rows) (hid : r.id = r'.id) : r = r' :=
  List.inj_on_of_nodup_map table.uniqueIds h h' hid

theorem RequestTable.existing_mem {table : RequestTable} {subject : Subject}
    {request : SubjectErasureRequest} (h : table.existing subject = some request) :
    request ∈ table.rows ∧ request.subject = subject :=
  ⟨List.mem_of_find?_eq_some h, by simpa using List.find?_some h⟩

/-- The request is a row of the table, which has at most that row more. -/
theorem getOrCreate_some {table table' : RequestTable} {subject : Subject}
    {requestedByUserId : Option String} {now : Time} {freshId : String}
    {request : SubjectErasureRequest}
    (h : getOrCreateErasureRequest table subject requestedByUserId now freshId =
      some (request, table')) :
    request ∈ table'.rows ∧
      ((request ∈ table.rows ∧ table' = table) ∨
        (request = newRequest freshId subject now requestedByUserId ∧
          table'.rows = request :: table.rows)) := by
  unfold getOrCreateErasureRequest at h
  cases hex : table.existing subject with
  | some old =>
    rw [hex] at h
    cases h
    exact ⟨(RequestTable.existing_mem hex).1, Or.inl ⟨(RequestTable.existing_mem hex).1, rfl⟩⟩
  | none =>
    rw [hex] at h
    simp only [RequestTable.insert] at h
    split at h
    · cases h
    · cases h
      exact ⟨List.mem_cons_self, Or.inr ⟨rfl, rfl⟩⟩

end BrainV2.Consent
