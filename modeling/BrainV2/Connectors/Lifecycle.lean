import BrainV2.Connectors.Sync
import BrainV2.Lib.Interleave

/-!
# A connection over its calls

`completeCallback`, `disconnect` and `syncConnector` on one vendor of one workspace, each in the
steps it takes at the custody store and at the database.

* `Call`, `Event`, `advance`: how far a call has come, and its next step;
* `sync_alone`: a sync that nothing comes between is `syncConnector`;
* `Kept`: what is expected of a run of calls;
* `Unbroken`: the steps that no other call has overtaken;
* `kept_of_unbroken`: a run of such steps has what is expected of it.
-/

namespace BrainV2.Connectors

open Runs
open Sql (Timestamp)

structure Store where
  db : Database
  credential : Option Json

inductive Call where
  | idle
  /-- `completeCallback` after `custody.put` -/
  | credentialPut
  | connected
  /-- `disconnect` after `custody.seal` -/
  | credentialSealed
  | disconnected
  /-- `syncConnector` after it has read a connection that is `CONNECTED` -/
  | connectionRead
  | credentialRead
  | failing (message : String)
  | answered (result : SyncResult)
  | stopped

inductive Event where
  | putCredential (content : Json)
  | upsertConnection
  | sealCredential
  | markDisconnected
  | readConnection
  /-- `custody.get`, or how it fails -/
  | readCredential (failure : Option SyncFailure)
  /-- The transaction of the facts, with what was fetched and whether it goes through -/
  | storeFacts (fetched : Except SyncFailure PulledFacts) (now : Timestamp) (commits : Bool)
  | restoreConnected
  /-- The call throws, or its process ends. -/
  | stop

/-! ### Steps -/

def upsertConnection (db : Database) : Database :=
  { db with connection := some (match db.connection with
      | none => ⟨.connected, none, none⟩
      | some conn => { conn with status := .connected, lastSyncError := none }) }

def markDisconnected (db : Database) : Database :=
  { db with connection := db.connection.map fun conn => { conn with status := .disconnected } }

/-- The transaction of `storePulled`. -/
def commitPulled (input : PgInput) (pulled : PulledFacts) (now : Timestamp) (commits : Bool)
    (db : Database) : Option (SyncResult × Database) :=
  (if commits then writeFacts input db.facts pulled else none).map fun facts =>
    ({ status := .synced
       ordersSynced := pulled.orders.length
       lineItemsSynced := pulled.lineItems.length
       productsSynced := pulled.products.length
       adRowsSynced := pulled.adSpend.length
       lastSyncAt := some now
       error := none },
      { connection := db.connection.map fun _ => ⟨.connected, some now, none⟩
        facts := facts })

def Call.afterConnection (db : Database) : Call :=
  if db.connection.map (·.status) = some .connected then .connectionRead
  else .answered (.without .notConnected none)

def Call.afterCredential (credential : Option Json) : Option SyncFailure → Call
  | some failure => .failing failure.message
  | none => if credential.isSome then .credentialRead else .failing noCredential

def storeFacts (input : PgInput) (s : Store) (pulled : PulledFacts) (now : Timestamp)
    (commits : Bool) : Store × Call :=
  match commitPulled input pulled now commits s.db with
  | none => (s, .failing SyncFailure.other.message)
  | some (result, db) => ({ s with db := db }, .answered result)

def Call.stop : Call → Call
  | .connected => .connected
  | .disconnected => .disconnected
  | .answered result => .answered result
  | _ => .stopped

/-- An event that is not the call's next step leaves everything as it is. -/
def advance (input : PgInput) (s : Store) : Call → Event → Store × Call
  | .idle, .putCredential content => ({ s with credential := some content }, .credentialPut)
  | .credentialPut, .upsertConnection => ({ s with db := upsertConnection s.db }, .connected)
  | .idle, .sealCredential => ({ s with credential := none }, .credentialSealed)
  | .credentialSealed, .markDisconnected =>
    ({ s with db := markDisconnected s.db }, .disconnected)
  | .idle, .readConnection => (s, .afterConnection s.db)
  | .connectionRead, .readCredential failure => (s, .afterCredential s.credential failure)
  | .credentialRead, .storeFacts (.error failure) _ _ => (s, .failing failure.message)
  | .credentialRead, .storeFacts (.ok pulled) now commits => storeFacts input s pulled now commits
  | .failing message, .restoreConnected =>
    ({ s with db := restoreConnected s.db message },
      .answered (.without .error (some message)))
  | call, .stop => (s, call.stop)
  | call, _ => (s, call)

abbrev Calls : Type := Interleave.State Store Call

def callStep (input : PgInput) : Calls → Nat × Event → Calls := Interleave.step (advance input)

/-! ### A sync alone -/

theorem storePulled_eq (input : PgInput) (attempt : SyncAttempt) (pulled : PulledFacts)
    (db : Database) :
    storePulled input attempt pulled db =
      (commitPulled input pulled attempt.now attempt.commits db).getD
        (failSync db SyncFailure.other.message) := by
  rw [storePulled, commitPulled]
  cases (if attempt.commits then writeFacts input db.facts pulled else none) with
  | none => rfl
  | some facts => rfl

/-- What `custody.get` answers. -/
def custodyRead (credential : Option Json) : Option SyncFailure → CustodyRead
  | some failure => .failed failure
  | none => if credential.isSome then .token else .notFound

/-- The steps of a sync: those after one that ends it do nothing. -/
def syncEvents (failure : Option SyncFailure) (fetched : Except SyncFailure PulledFacts)
    (now : Timestamp) (commits : Bool) : List Event :=
  [.readConnection, .readCredential failure, .storeFacts fetched now commits, .restoreConnected]

theorem foldl_answered (input : PgInput) (s : Store) (result : SyncResult) (events : List Event) :
    events.foldl (fun p e => advance input p.1 p.2 e) (s, .answered result) =
      (s, .answered result) := by
  induction events with
  | nil => rfl
  | cons e events ih => cases e <;> exact ih

/-- From the credential on, a sync is what `syncConnector` does with it. -/
theorem foldl_afterCredential (input : PgInput) (s : Store) (failure : Option SyncFailure)
    (fetched : Except SyncFailure PulledFacts) (now : Timestamp) (commits : Bool)
    (hconn : s.db.connection.map (·.status) = some .connected) :
    [Event.storeFacts fetched now commits, .restoreConnected].foldl
        (fun p e => advance input p.1 p.2 e) (s, .afterCredential s.credential failure) =
      ({ s with db := (syncConnector input
          ⟨custodyRead s.credential failure, fetched, now, commits⟩ s.db).2 },
        .answered (syncConnector input
          ⟨custodyRead s.credential failure, fetched, now, commits⟩ s.db).1) := by
  rw [syncConnector, if_neg (not_not_intro hconn)]
  cases failure with
  | some failure => rfl
  | none =>
    rw [Call.afterCredential, custodyRead]
    cases s.credential.isSome with
    | false => rfl
    | true =>
      cases fetched with
      | error failure => rfl
      | ok pulled =>
        change List.foldl _ (storeFacts input s pulled now commits) _ = _
        simp only [if_true, storePulled_eq, storeFacts]
        cases commitPulled input pulled now commits s.db with
        | none => rfl
        | some out => rfl

theorem foldl_syncEvents (input : PgInput) (s : Store) (failure : Option SyncFailure)
    (fetched : Except SyncFailure PulledFacts) (now : Timestamp) (commits : Bool) :
    (syncEvents failure fetched now commits).foldl (fun p e => advance input p.1 p.2 e) (s, .idle) =
      ({ s with db := (syncConnector input
          ⟨custodyRead s.credential failure, fetched, now, commits⟩ s.db).2 },
        .answered (syncConnector input
          ⟨custodyRead s.credential failure, fetched, now, commits⟩ s.db).1) := by
  change List.foldl _ (s, Call.afterConnection s.db) _ = _
  rw [Call.afterConnection]
  by_cases hconn : s.db.connection.map (·.status) = some .connected
  · rw [if_pos hconn]
    exact foldl_afterCredential input s failure fetched now commits hconn
  · rw [if_neg hconn, foldl_answered, syncConnector, if_pos hconn]

/-- A sync that no other call comes between is `syncConnector`. -/
theorem sync_alone (input : PgInput) (s : Calls) {i : Nat} (hidle : s.calls i = .idle)
    (failure : Option SyncFailure) (fetched : Except SyncFailure PulledFacts) (now : Timestamp)
    (commits : Bool) :
    let out := syncConnector input ⟨custodyRead s.shared.credential failure, fetched, now, commits⟩
      s.shared.db
    let s' := exec (callStep input) s ((syncEvents failure fetched now commits).map (Prod.mk i))
    s'.shared = { s.shared with db := out.2 } ∧ s'.calls i = .answered out.1 := by
  have halone := Interleave.exec_alone (advance input) i s
    (syncEvents failure fetched now commits)
  rw [hidle, foldl_syncEvents] at halone
  exact halone

/-! ### What is expected of a run -/

def Connected (s : Store) : Prop := s.db.connection.map (·.status) = some .connected

instance (s : Store) : Decidable (Connected s) := inferInstanceAs (Decidable (_ = _))

/-- The connection, if there is one, is `DISCONNECTED`. -/
def Disconnected (s : Store) : Prop := ∀ conn ∈ s.db.connection, conn.status = .disconnected

/-- The connection, if there is one, is `CONNECTED`. -/
def StillConnected (s : Store) : Prop := ∀ conn ∈ s.db.connection, conn.status = .connected

def Call.Running : Call → Prop
  | .credentialPut | .credentialSealed | .connectionRead | .credentialRead | .failing _ => True
  | .idle | .connected | .disconnected | .answered _ | .stopped => False

/-- The call is a sync that has returned `synced`. -/
def Call.Synced : Call → Prop
  | .answered result => result.status = .synced
  | _ => False

/-- No operation is in flight. -/
def Quiet (s : Calls) : Prop := ∀ i, ¬ (s.calls i).Running

/-- A `completeCallback` sets the connection. -/
def Connects (s : Calls) (e : Nat × Event) : Prop :=
  s.calls e.1 = .credentialPut ∧ e.2 = .upsertConnection

/-- What a sync brings in. -/
def Store.synced (s : Store) : Analytics.Facts × Option Timestamp :=
  (s.db.facts, s.db.connection.bind (·.lastSyncAt))

structure Kept (input : PgInput) (s : Calls) (events : List (Nat × Event)) : Prop where
  /-- What a `disconnect` leaves stays, until a `completeCallback` sets the connection. -/
  disconnected : ∀ before i after, events = before ++ (i, .markDisconnected) :: after →
    (exec (callStep input) s before).calls i = .credentialSealed →
    Allowed (callStep input) (fun s e => ¬ Connects s e)
      (callStep input (exec (callStep input) s before) (i, .markDisconnected)) after →
    Always (callStep input) (fun s => Disconnected s.shared)
      (callStep input (exec (callStep input) s before) (i, .markDisconnected)) after
  credential : Always (callStep input)
    (fun s => Quiet s → Connected s.shared → s.shared.credential.isSome) s events
  /-- No step of a call that has not returned `synced` changes what syncs bring in. -/
  synced : ∀ i, ¬ ((exec (callStep input) s events).calls i).Synced →
    Allowed (callStep input)
      (fun s e => e.1 = i → (callStep input s e).shared.synced = s.shared.synced) s events

/-! ### Unbroken steps -/

/-- The writes of a sync meet a connection that is still `CONNECTED`, a `completeCallback` sets
the connection when its credential is still stored, and no `disconnect` ends between its steps
and leaves a connection without a credential. -/
def Unbroken (input : PgInput) (s : Store) : Call → Event → Prop
  | .credentialPut, .upsertConnection => s.credential.isSome
  | .credentialRead, .storeFacts (.ok pulled) now commits =>
    (commitPulled input pulled now commits s.db).isSome → StillConnected s
  | .failing _, .restoreConnected => StillConnected s
  | .credentialSealed, .stop => Connected s → s.credential.isSome
  | _, _ => True

theorem commitPulled_connection {input : PgInput} {pulled : PulledFacts} {now : Timestamp}
    {commits : Bool} {db : Database} {out : SyncResult × Database}
    (h : commitPulled input pulled now commits db = some out) :
    out.1.status = .synced ∧
      out.2.connection = db.connection.map fun _ => ⟨.connected, some now, none⟩ := by
  obtain ⟨facts, -, rfl⟩ := Option.map_eq_some_iff.mp h
  exact ⟨rfl, rfl⟩

/-- Only a `completeCallback` connects what an unbroken step finds disconnected. -/
theorem disconnected_advance {input : PgInput} {s : Store} {call : Call} {e : Event}
    (hstep : Unbroken input s call e) (hconnects : ¬ (call = .credentialPut ∧ e = .upsertConnection))
    (h : Disconnected s) : Disconnected (advance input s call e).1 := by
  have hnone : StillConnected s → s.db.connection = none := by
    intro hstill
    cases hconn : s.db.connection with
    | none => rfl
    | some conn => cases (hstill conn hconn).symm.trans (h conn hconn)
  fun_cases advance input s call e with
  | case2 => exact absurd ⟨rfl, rfl⟩ hconnects
  | case4 =>
    intro conn hconn
    obtain ⟨old, -, rfl⟩ := Option.map_eq_some_iff.mp hconn
    rfl
  | case8 pulled now commits =>
    rw [storeFacts]
    cases hcommit : commitPulled input pulled now commits s.db with
    | none => exact h
    | some out =>
      have hstill : StillConnected s := hstep (by rw [hcommit]; rfl)
      intro conn hconn
      rw [(commitPulled_connection hcommit).2, hnone hstill] at hconn
      cases hconn
  | case9 message =>
    intro conn hconn
    rw [restoreConnected, hnone hstep] at hconn
    cases hconn
  | _ => exact h

/-- A connection without a credential is one that a `disconnect` is about to mark. -/
theorem covered_advance {input : PgInput} {s : Store} {call : Call} {e : Event} {sealed : Prop}
    (hstep : Unbroken input s call e)
    (h : Connected s → s.credential.isSome ∨ call = .credentialSealed ∨ sealed) :
    Connected (advance input s call e).1 → (advance input s call e).1.credential.isSome ∨
      (advance input s call e).2 = .credentialSealed ∨ sealed := by
  -- Another call has sealed the credential when this one has not.
  have hother : call ≠ .credentialSealed → Connected s → s.credential.isSome ∨
      (∀ next : Call, next = .credentialSealed ∨ sealed) := by
    intro hcall hconn
    rcases h hconn with hsome | hself | hsealed
    · exact Or.inl hsome
    · exact absurd hself hcall
    · exact Or.inr fun _ => Or.inr hsealed
  have hwritten : StillConnected s → ∀ {f : Connection → Connection},
      (s.db.connection.map f).map (·.status) = some .connected → Connected s := by
    intro hstill f hconn
    cases hold : s.db.connection with
    | none => rw [hold] at hconn; cases hconn
    | some conn => rw [Connected, hold, Option.map_some, hstill conn hold]
  fun_cases advance input s call e with
  | case1 => exact fun _ => Or.inl rfl
  | case2 => exact fun _ => Or.inl hstep
  | case3 => exact fun _ => Or.inr (Or.inl rfl)
  | case4 =>
    intro hconn
    rw [Connected, markDisconnected, Option.map_map] at hconn
    obtain ⟨conn, -, hstatus⟩ := Option.map_eq_some_iff.mp hconn
    cases hstatus
  | case5 => exact fun hconn => (hother nofun hconn).imp_right fun hsealed => hsealed _
  | case6 => exact fun hconn => (hother nofun hconn).imp_right fun hsealed => hsealed _
  | case7 => exact fun hconn => (hother nofun hconn).imp_right fun hsealed => hsealed _
  | case8 pulled now commits =>
    rw [storeFacts]
    cases hcommit : commitPulled input pulled now commits s.db with
    | none => exact fun hconn => (hother nofun hconn).imp_right fun hsealed => hsealed _
    | some out =>
      have hstill : StillConnected s := hstep (by rw [hcommit]; rfl)
      intro hconn
      rw [Connected, (commitPulled_connection hcommit).2] at hconn
      exact (hother nofun (hwritten hstill hconn)).imp_right fun hsealed => hsealed _
  | case9 message =>
    intro hconn
    exact (hother nofun (hwritten hstep hconn)).imp_right fun hsealed => hsealed _
  | case10 =>
    intro hconn
    cases call with
    | credentialSealed => exact Or.inl (hstep hconn)
    | _ => exact (hother nofun hconn).imp_right fun hsealed => hsealed _
  | case11 => exact h

theorem answered_advance (input : PgInput) (s : Store) (call : Call) (e : Event)
    (h : call.Synced) : (advance input s call e).2 = call := by
  cases call with
  | answered result => cases e <;> rfl
  | _ => exact h.elim

/-- A statement that changes a connection and not its `last_sync_at`. -/
theorem synced_map {s : Store} {db : Database} {f : Connection → Connection}
    (hconn : db.connection = s.db.connection.map f) (hfacts : db.facts = s.db.facts)
    (hf : ∀ conn, (f conn).lastSyncAt = conn.lastSyncAt) :
    { s with db := db : Store }.synced = s.synced := by
  refine Prod.ext hfacts ?_
  simp only [Store.synced, hconn, Option.bind_map, Function.comp_def, hf]

theorem synced_advance (input : PgInput) (s : Store) (call : Call) (e : Event) :
    (advance input s call e).1.synced = s.synced ∨ (advance input s call e).2.Synced := by
  fun_cases advance input s call e with
  | case2 =>
    refine Or.inl (Prod.ext rfl ?_)
    simp only [Store.synced, upsertConnection]
    cases s.db.connection with
    | none => rfl
    | some conn => rfl
  | case4 => exact Or.inl (synced_map rfl rfl fun _ => rfl)
  | case8 pulled now commits =>
    rw [storeFacts]
    cases hcommit : commitPulled input pulled now commits s.db with
    | none => exact Or.inl rfl
    | some out => exact Or.inr (commitPulled_connection hcommit).1
  | case9 message => exact Or.inl (synced_map rfl rfl fun _ => rfl)
  | _ => exact Or.inl rfl

/-! ### Runs -/

/-- No operation is in flight, and a connection that is `CONNECTED` has a credential. -/
structure Rested (s : Calls) : Prop where
  idle : ∀ i, s.calls i = .idle
  credential : Connected s.shared → s.shared.credential.isSome

def Covered (s : Calls) : Prop :=
  Connected s.shared → s.shared.credential.isSome ∨ ∃ i, s.calls i = .credentialSealed

theorem covered_step {input : PgInput} {s : Calls} {e : Nat × Event}
    (hstep : Unbroken input s.shared (s.calls e.1) e.2) (h : Covered s) :
    Covered (callStep input s e) := by
  rw [Covered, Interleave.exists_calls_iff (P := (· = Call.credentialSealed)) _ e.1] at h
  rw [Covered, callStep, Interleave.exists_step_calls_iff (P := (· = Call.credentialSealed))]
  exact covered_advance hstep h

variable (input : PgInput) in
theorem kept_of_unbroken {s : Calls} (hs : Rested s) {events : List (Nat × Event)}
    (hevents : Allowed (callStep input) (fun s e => Unbroken input s.shared (s.calls e.1) e.2)
      s events) : Kept input s events where
  disconnected := by
    rintro before i after rfl hsealed hconnects
    obtain ⟨-, -, hafter⟩ := allowed_append.mp hevents
    have hmarked : Disconnected
        (callStep input (exec (callStep input) s before) (i, .markDisconnected)).shared := by
      simp only [callStep, Interleave.step_shared]
      rw [show (exec (Interleave.step (advance input)) s before).calls i = _ from hsealed]
      intro conn hconn
      obtain ⟨old, -, rfl⟩ := Option.map_eq_some_iff.mp hconn
      rfl
    have hstep : ∀ (s : Calls) (e : Nat × Event), Disconnected s.shared →
        Unbroken input s.shared (s.calls e.1) e.2 ∧ ¬ Connects s e →
          Disconnected (callStep input s e).shared :=
      fun s e h hok => disconnected_advance hok.1 hok.2 h
    exact always_of_step hstep hmarked (hafter.and hconnects)
  credential := by
    have hcovered : Always (callStep input) Covered s events := by
      apply always_of_step _ (fun hconn => Or.inl (hs.credential hconn)) hevents
      exact fun s e h hok => covered_step hok h
    refine hcovered.mono fun s h hquiet hconn => ?_
    rcases h hconn with hsome | ⟨i, hsealed⟩
    · exact hsome
    · have hrunning : (s.calls i).Running := by rw [hsealed]; trivial
      exact absurd hrunning (hquiet i)
  synced := fun _ hend => Interleave.allowed_keeps (answered_advance input)
    (synced_advance input) hend

/-! ### A sync and a disconnect -/

/-- A vendor that was never connected. -/
def neverConnected : Calls := ⟨⟨⟨none, ⟨[], [], [], []⟩⟩, none⟩, fun _ => .idle⟩

theorem rested_neverConnected : Rested neverConnected := ⟨fun _ => rfl, nofun⟩

/-- A sync that has returned before the `disconnect` starts. -/
def syncThenDisconnect : List (Nat × Event) :=
  [(0, .putCredential .null), (0, .upsertConnection), (1, .readConnection),
    (1, .readCredential none),
    (1, .storeFacts (.ok ⟨[], [], [], []⟩) (Sql.midnight (Sql.juneDay 1)) true),
    (2, .sealCredential), (2, .markDisconnected)]

theorem syncThenDisconnect_kept :
    Kept ⟨fun _ => none, fun _ => none⟩ neverConnected syncThenDisconnect := by
  apply kept_of_unbroken _ rested_neverConnected
  have hstill : StillConnected ⟨⟨some ⟨.connected, none, none⟩, ⟨[], [], [], []⟩⟩, some .null⟩ := by
    rintro conn ⟨⟩
    rfl
  exact ⟨trivial, rfl, trivial, trivial, fun _ => hstill, trivial, trivial, trivial⟩

/-- The `disconnect` runs while the sync is reading. -/
def disconnectDuringSync : List (Nat × Event) :=
  [(0, .putCredential .null), (0, .upsertConnection), (1, .readConnection), (2, .sealCredential),
    (2, .markDisconnected), (1, .readCredential none), (1, .restoreConnected)]

theorem disconnectDuringSync_not_kept :
    ¬ Kept ⟨fun _ => none, fun _ => none⟩ neverConnected disconnectDuringSync := by
  intro h
  have hlast := (h.disconnected (disconnectDuringSync.take 4) 2 (disconnectDuringSync.drop 5) rfl
    rfl ⟨nofun, nofun, trivial⟩).last
  cases hlast _ rfl

end BrainV2.Connectors
