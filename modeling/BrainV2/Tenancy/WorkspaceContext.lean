import BrainV2.Lib.Runs

/-!
# Workspace transactions

Calls of `withWorkspace` and `withSuperadmin`, one after another on a connection of the pool.

* `execute`, `refuse`: a statement that PostgreSQL runs, or fails;
* `Outcome`, `send`: what becomes of a statement, and what the client is told;
* `Body`, `runBody`: the function that a call is given, by what it does after each answer;
* `runCall`, `step`: a call, and a run of calls.
-/

namespace BrainV2.Tenancy

/-! ### PostgreSQL -/

inductive Tx where
  | idle
  | begun
  | aborted
deriving DecidableEq

/-- A session: its transaction, what that has written, and its local settings. -/
structure Session (ω : Type) where
  tx : Tx
  pending : List ω
  workspaceId : Option String
  isSuperadmin : Option Bool
deriving DecidableEq

def Session.fresh {ω : Type} : Session ω := ⟨.idle, [], none, none⟩

structure Database (ω : Type) where
  session : Session ω
  committed : List ω
deriving DecidableEq

inductive Statement (ω : Type) where
  | start
  | setWorkspaceId (value : String)
  | setIsSuperadmin (value : Bool)
  /-- A statement of the function, with what it writes. -/
  | query (write : Option ω)
  | commit
  | rollback
deriving DecidableEq

variable {ω : Type}

/-- A statement that does not fail of itself; an aborted transaction refuses it all the same. -/
def execute (db : Database ω) : Statement ω → Database ω × Bool
  | .start =>
    match db.session.tx with
    | .idle => ({ db with session := { Session.fresh with tx := .begun } }, true)
    | .begun => (db, true)
    | .aborted => (db, false)
  | .setWorkspaceId value =>
    match db.session.tx with
    | .idle => (db, true)
    | .begun => ({ db with session := { db.session with workspaceId := some value } }, true)
    | .aborted => (db, false)
  | .setIsSuperadmin value =>
    match db.session.tx with
    | .idle => (db, true)
    | .begun => ({ db with session := { db.session with isSuperadmin := some value } }, true)
    | .aborted => (db, false)
  | .query write =>
    match db.session.tx with
    | .idle => ({ db with committed := db.committed ++ write.toList }, true)
    | .begun =>
      ({ db with session := { db.session with pending := db.session.pending ++ write.toList } },
        true)
    | .aborted => (db, false)
  | .commit =>
    match db.session.tx with
    | .idle => (db, true)
    | .begun => (⟨.fresh, db.committed ++ db.session.pending⟩, true)
    -- The transaction is rolled back, and the command reports no error.
    | .aborted => (⟨.fresh, db.committed⟩, true)
  | .rollback => (⟨.fresh, db.committed⟩, true)

/-- A statement that fails aborts its transaction; a `COMMIT` ends it. -/
def refuse (db : Database ω) : Statement ω → Database ω
  | .commit => ⟨.fresh, db.committed⟩
  | _ =>
    match db.session.tx with
    | .idle => db
    | _ => { db with session := { db.session with tx := .aborted, pending := [] } }

/-! ### A connection -/

/-- What becomes of a statement; `broken` takes the connection with it. -/
inductive Outcome where
  | ok
  | error
  | unsent
  | unanswered
  | broken (ran : Bool)
deriving DecidableEq

/-- A connection, what becomes of its next statements, and the sessions in which those of the
function ran. -/
structure Connection (ω : Type) where
  db : Database ω
  alive : Bool
  outcomes : List Outcome
  ran : List (Session ω)

def Connection.next (c : Connection ω) : Outcome := c.outcomes.headD .ok

/-- An aborted transaction runs no statement. -/
def Connection.noted (c : Connection ω) : Statement ω → List (Session ω)
  | .query _ => if c.db.session.tx = .aborted then c.ran else c.ran ++ [c.db.session]
  | _ => c.ran

/-- `client.query`: the connection after it, and whether the promise resolves. -/
def send (c : Connection ω) (st : Statement ω) : Connection ω × Bool :=
  if c.alive then
    let rest := c.outcomes.tail
    match c.next with
    | .ok => (⟨(execute c.db st).1, true, rest, c.noted st⟩, (execute c.db st).2)
    | .error => (⟨refuse c.db st, true, rest, c.noted st⟩, false)
    | .unsent => (⟨c.db, true, rest, c.ran⟩, false)
    | .unanswered => (⟨(execute c.db st).1, true, rest, c.noted st⟩, false)
    | .broken true => (⟨⟨.fresh, (execute c.db st).1.committed⟩, false, rest, c.noted st⟩, false)
    | .broken false => (⟨⟨.fresh, c.db.committed⟩, false, rest, c.ran⟩, false)
  else (c, false)

/-- Statements one after another, as long as they succeed. -/
def sendAll (c : Connection ω) : List (Statement ω) → Connection ω × Bool
  | [] => (c, true)
  | st :: sts => if (send c st).2 then sendAll (send c st).1 sts else ((send c st).1, false)

/-! ### Calls -/

/-- What a function does: it ends, or sends a statement and goes on by whether that succeeded. -/
inductive Body (ω : Type) where
  | resolve
  | reject
  | query (write : Option ω) (next : Bool → Body ω)

structure BodyEnd (ω : Type) where
  connection : Connection (Nat × ω)
  resolved : Bool
  /-- The writes that the function was told succeeded. -/
  told : List ω

/-- The function of call `n`. -/
def runBody (n : Nat) : Body ω → Connection (Nat × ω) → List ω → BodyEnd ω
  | .resolve, c, told => ⟨c, true, told⟩
  | .reject, c, told => ⟨c, false, told⟩
  | .query write next, c, told =>
    let sent := send c (.query (write.map (n, ·)))
    runBody n (next sent.2) sent.1 (if sent.2 then told ++ write.toList else told)

inductive Kind where
  | workspace (workspaceId : String)
  | superadmin
deriving DecidableEq

/-- `UUID_REGEX`, by the form of the text. -/
def isUuid (text : String) : Bool :=
  text.toList.map (fun c => if c.isDigit || ('a' ≤ c && c ≤ 'f') || ('A' ≤ c && c ≤ 'F') then 'x'
    else c) = "xxxxxxxx-xxxx-xxxx-xxxx-xxxxxxxxxxxx".toList

/-- The checks of `withWorkspace` on its argument; an empty text is no UUID either. -/
def Kind.accepted : Kind → Bool
  | .workspace workspaceId => isUuid workspaceId
  | .superadmin => true

/-- What a call sends before its function. -/
def prepare : Kind → List (Statement ω)
  | .workspace workspaceId => [.start, .setWorkspaceId workspaceId, .setIsSuperadmin false]
  | .superadmin => [.start, .setIsSuperadmin true, .setWorkspaceId ""]

inductive CallResult where
  | resolved
  | rejected
  /-- Rejected by a `COMMIT` whose acknowledgement was lost. -/
  | unacknowledged
deriving DecidableEq

structure Call (ω : Type) where
  kind : Kind
  body : Body ω
  /-- `getPool().connect()` gives a client. -/
  connects : Bool
  outcomes : List Outcome

structure CallEnd (ω : Type) where
  connection : Connection (Nat × ω)
  result : CallResult
  told : List ω

/-- A `COMMIT` that runs without an answer. -/
def losesAnswer (c : Connection ω) : Bool :=
  c.alive && (c.next = .unanswered || c.next = .broken true)

/-- `ROLLBACK`, whose own failure rejects the call as well. -/
def rollBack (c : Connection ω) : Connection ω := (send c .rollback).1

/-- What a call does once its function has ended. -/
def finish (body : BodyEnd ω) : CallEnd ω :=
  if body.resolved then
    let committed := send body.connection .commit
    if committed.2 then ⟨committed.1, .resolved, body.told⟩
    else
      ⟨rollBack committed.1,
        if losesAnswer body.connection then .unacknowledged else .rejected, body.told⟩
  else ⟨rollBack body.connection, .rejected, body.told⟩

def runCall (n : Nat) (call : Call ω) (c : Connection (Nat × ω)) : CallEnd ω :=
  let prepared := sendAll c (prepare call.kind)
  if prepared.2 then finish (runBody n call.body prepared.1 [])
  else ⟨rollBack prepared.1, .rejected, []⟩

/-! ### Runs -/

/-- What a call has come to. -/
structure CallRecord (ω : Type) where
  kind : Kind
  result : CallResult
  told : List ω
  ran : List (Session (Nat × ω))

/-- The pool's connection, and the calls so far. -/
structure Pool (ω : Type) where
  db : Database (Nat × ω)
  alive : Bool
  calls : List (CallRecord ω)

/-- A client that is broken is not given out again. -/
def Pool.connect (s : Pool ω) (outcomes : List Outcome) : Connection (Nat × ω) where
  db := if s.alive then s.db else ⟨.fresh, s.db.committed⟩
  alive := true
  outcomes := outcomes
  ran := []

def step (s : Pool ω) (call : Call ω) : Pool ω :=
  if call.kind.accepted && call.connects then
    let done := runCall s.calls.length call (s.connect call.outcomes)
    { db := done.connection.db
      alive := done.connection.alive
      calls := s.calls ++ [⟨call.kind, done.result, done.told, done.connection.ran⟩] }
  else { s with calls := s.calls ++ [⟨call.kind, .rejected, [], []⟩] }

def Pool.initial : Pool ω where
  db := ⟨.fresh, []⟩
  alive := true
  calls := []

end BrainV2.Tenancy
