import BrainV2.Tenancy.WorkspaceContext

/-!
# Calls that are all or nothing

* `context_of_run`: in every run, whatever failed before, the statements of a function run inside
  a transaction with the settings of their own call;
* `InBody`: what a function leaves on its connection, statement by statement;
* `CommitsWhatItTold`, `RollsBack`: a call does not resolve on the `COMMIT` of an aborted
  transaction after writes that succeeded, and no `ROLLBACK` that stays unsent leaves writes
  behind;
* `allOrNothing_run`: in the runs whose calls are so, a call that resolves has committed what its
  function was told, and one that rejects has committed nothing.
-/

namespace BrainV2.Tenancy

open BrainV2.Runs

variable {ω : Type}

/-! ### One statement -/

theorem send_succeeds {c : Connection ω} {st : Statement ω} (h : (send c st).2 = true) :
    c.alive = true ∧ (execute c.db st).2 = true ∧ (send c st).1.db = (execute c.db st).1 ∧
      (send c st).1.ran = c.noted st ∧ (send c st).1.alive = true := by
  unfold send at h ⊢
  cases hAlive : c.alive with
  | false => simp [hAlive] at h
  | true =>
    simp only [hAlive, if_true] at h ⊢
    cases hNext : c.next with
    | ok => simpa [hNext] using h
    | error | unsent | unanswered => simp [hNext] at h
    | broken ran => cases ran <;> simp [hNext] at h

theorem send_dead {c : Connection ω} {st : Statement ω} (h : c.alive = false) :
    send c st = (c, false) := by
  simp [send, h]

/-! ### The settings of a call -/

def Kind.workspaceId : Kind → String
  | .workspace workspaceId => workspaceId
  | .superadmin => ""

def Kind.isSuperadmin : Kind → Bool
  | .workspace _ => false
  | .superadmin => true

/-- A session in a transaction with the settings of a call. -/
def Within (kind : Kind) (s : Session ω) : Prop :=
  s.tx = .begun ∧ s.workspaceId = some kind.workspaceId ∧ s.isSuperadmin = some kind.isSuperadmin

structure InContext (kind : Kind) (c : Connection ω) : Prop where
  session : c.alive = true → c.db.session.tx = .aborted ∨ Within kind c.db.session
  ran : ∀ s ∈ c.ran, Within kind s

theorem within_noted {kind : Kind} {c : Connection ω} (h : InContext kind c)
    (hAlive : c.alive = true) (st : Statement ω) : ∀ s ∈ c.noted st, Within kind s := by
  intro s hs
  unfold Connection.noted at hs
  split at hs
  · split at hs
    · exact h.ran s hs
    · next hAborted =>
      cases List.mem_append.mp hs with
      | inl hBefore => exact h.ran s hBefore
      | inr hNow =>
        rw [List.mem_singleton.mp hNow]
        exact (h.session hAlive).resolve_left hAborted
  · exact h.ran s hs

theorem execute_query_context {kind : Kind} {db : Database ω} {write : Option ω}
    (h : db.session.tx = .aborted ∨ Within kind db.session) :
    (execute db (.query write)).1.session.tx = .aborted ∨
      Within kind (execute db (.query write)).1.session := by
  cases h with
  | inl hAborted => simp [execute, hAborted]
  | inr hWithin =>
    right
    simp only [execute, hWithin.1]
    exact ⟨rfl, hWithin.2⟩

theorem refuse_query_context {kind : Kind} {db : Database ω} (write : Option ω)
    (h : db.session.tx = .aborted ∨ Within kind db.session) :
    (refuse db (.query write)).session.tx = .aborted := by
  cases h with
  | inl hAborted => simp [refuse, hAborted]
  | inr hWithin => simp [refuse, hWithin.1]

theorem inContext_send {kind : Kind} {c : Connection ω} (h : InContext kind c)
    (write : Option ω) : InContext kind (send c (.query write)).1 := by
  cases hAlive : c.alive with
  | false =>
    rw [send_dead hAlive]
    exact h
  | true =>
    have hnoted := within_noted h hAlive (.query write)
    have hsession := h.session hAlive
    unfold send
    simp only [hAlive, if_true]
    cases c.next with
    | ok => exact ⟨fun _ => execute_query_context hsession, hnoted⟩
    | error => exact ⟨fun _ => Or.inl (refuse_query_context write hsession), hnoted⟩
    | unsent => exact ⟨fun _ => hsession, h.ran⟩
    | unanswered => exact ⟨fun _ => execute_query_context hsession, hnoted⟩
    | broken ran =>
      cases ran with
      | true => exact ⟨fun hGone => (Bool.false_ne_true hGone).elim, hnoted⟩
      | false => exact ⟨fun hGone => (Bool.false_ne_true hGone).elim, h.ran⟩

theorem inContext_runBody {kind : Kind} {n : Nat} {body : Body ω} {c : Connection (Nat × ω)}
    {told : List ω} (h : InContext kind c) : InContext kind (runBody n body c told).connection := by
  induction body generalizing c told with
  | resolve => exact h
  | reject => exact h
  | query write next ih => exact ih _ (inContext_send h _)

theorem sendAll_cons {c : Connection ω} {st : Statement ω} {sts : List (Statement ω)}
    (h : (sendAll c (st :: sts)).2 = true) :
    (send c st).2 = true ∧ (sendAll (send c st).1 sts).2 = true ∧
      (sendAll c (st :: sts)).1 = (sendAll (send c st).1 sts).1 := by
  rw [sendAll] at h ⊢
  by_cases hSent : (send c st).2 = true
  · simpa [hSent] using h
  · simp [hSent] at h

theorem sendAll_db {c : Connection ω} {sts : List (Statement ω)} (h : (sendAll c sts).2 = true) :
    (sendAll c sts).1.db = sts.foldl (fun db st => (execute db st).1) c.db := by
  induction sts generalizing c with
  | nil => rfl
  | cons st sts ih =>
    obtain ⟨hSent, hRest, hEq⟩ := sendAll_cons h
    obtain ⟨-, -, hDb, -, -⟩ := send_succeeds hSent
    rw [hEq, ih hRest, hDb, List.foldl_cons]

/-- A statement that is not one of the function. -/
def Statement.IsOwn : Statement ω → Prop
  | .query _ => False
  | _ => True

theorem send_own_ran {c : Connection ω} {st : Statement ω} (h : st.IsOwn) :
    (send c st).1.ran = c.ran := by
  have hnoted : c.noted st = c.ran := by
    cases st with
    | query => exact h.elim
    | _ => rfl
  unfold send
  rw [hnoted]
  split
  · split <;> rfl
  · rfl

theorem sendAll_own_ran {c : Connection ω} {sts : List (Statement ω)} (h : ∀ st ∈ sts, st.IsOwn) :
    (sendAll c sts).1.ran = c.ran := by
  induction sts generalizing c with
  | nil => rfl
  | cons st sts ih =>
    have hfirst : (send c st).1.ran = c.ran := send_own_ran (h st List.mem_cons_self)
    rw [sendAll]
    split
    · rw [ih fun st hst => h st (List.mem_cons_of_mem _ hst), hfirst]
    · exact hfirst

theorem prepare_own (kind : Kind) : ∀ st ∈ prepare (ω := ω) kind, st.IsOwn := by
  cases kind <;> simp [prepare, Statement.IsOwn]

theorem execute_start {db : Database ω} (h : (execute db .start).2 = true) :
    (execute db .start).1.session.tx = .begun := by
  cases hTx : db.session.tx <;> simp_all [execute]

theorem execute_prepare {db : Database ω} (kind : Kind) (h : (execute db .start).2 = true) :
    Within kind ((prepare kind).foldl (fun db st => (execute db st).1) db).session := by
  have hBegun := execute_start h
  cases kind with
  | workspace workspaceId =>
    simp only [prepare, List.foldl_cons, List.foldl_nil]
    generalize (execute db .start).1 = started at hBegun ⊢
    simp [execute, hBegun, Within, Kind.workspaceId, Kind.isSuperadmin]
  | superadmin =>
    simp only [prepare, List.foldl_cons, List.foldl_nil]
    generalize (execute db .start).1 = started at hBegun ⊢
    simp [execute, hBegun, Within, Kind.workspaceId, Kind.isSuperadmin]

/-- A call whose preparation succeeds has its transaction and its settings. -/
theorem inContext_prepared {kind : Kind} {c : Connection ω} (hran : c.ran = [])
    (h : (sendAll c (prepare kind)).2 = true) :
    InContext kind (sendAll c (prepare kind)).1 := by
  constructor
  · intro _
    right
    rw [sendAll_db h]
    have hStart : (send c .start).2 = true := by
      cases kind <;> exact (sendAll_cons h).1
    exact execute_prepare kind (send_succeeds hStart).2.1
  · simp [sendAll_own_ran (prepare_own kind), hran]

theorem rollBack_ran (c : Connection ω) : (rollBack c).ran = c.ran := send_own_ran trivial

theorem commit_ran (c : Connection ω) : (send c .commit).1.ran = c.ran := send_own_ran trivial

theorem finish_ran (body : BodyEnd ω) : (finish body).connection.ran = body.connection.ran := by
  unfold finish
  simp only
  split
  · split
    · exact commit_ran _
    · rw [rollBack_ran, commit_ran]
  · exact rollBack_ran _

theorem runCall_ran {n : Nat} {call : Call ω} {c : Connection (Nat × ω)} (hran : c.ran = []) :
    ∀ s ∈ (runCall n call c).connection.ran, Within call.kind s := by
  unfold runCall
  simp only
  split
  · next hPrepared =>
    rw [finish_ran]
    exact (inContext_runBody (inContext_prepared hran hPrepared)).ran
  · intro s hs
    rw [rollBack_ran, sendAll_own_ran (prepare_own call.kind), hran] at hs
    exact (List.not_mem_nil hs).elim

/-- Every statement of the function of a call ran in a transaction with that call's settings. -/
def Contained (s : Pool ω) : Prop := ∀ r ∈ s.calls, ∀ session ∈ r.ran, Within r.kind session

theorem contained_step {s : Pool ω} (h : Contained s) (call : Call ω) :
    Contained (step s call) := by
  intro r hr
  unfold step at hr
  split at hr
  · cases List.mem_append.mp hr with
    | inl hBefore => exact h r hBefore
    | inr hNow =>
      rw [List.mem_singleton.mp hNow]
      exact runCall_ran rfl
  · cases List.mem_append.mp hr with
    | inl hBefore => exact h r hBefore
    | inr hNow =>
      rw [List.mem_singleton.mp hNow]
      intro session hsession
      exact (List.not_mem_nil hsession).elim

theorem context_of_run (calls : List (Call ω)) : Always step Contained Pool.initial calls := by
  have hstep : ∀ (s : Pool ω) (call : Call ω), Contained s → True → Contained (step s call) :=
    fun s call h _ => contained_step h call
  refine always_of_step hstep ?_ (allowed_of_forall (fun _ _ _ => trivial) _)
  intro r hr
  exact (List.not_mem_nil hr).elim

/-! ### What a function leaves -/

/-- The connection of call `n`, when `base` was committed before it. -/
structure InBody (n : Nat) (base : List (Nat × ω)) (c : Connection (Nat × ω)) (told : List ω) :
    Prop where
  committed : c.db.committed = base
  begun : c.alive = true → c.db.session.tx ≠ .idle
  pending : ∀ x ∈ c.db.session.pending, x.1 = n
  told : c.alive = true → c.db.session.tx = .begun → ∀ w ∈ told, (n, w) ∈ c.db.session.pending
  gone : c.alive = false → c.db.session = .fresh

theorem execute_query_begun {db : Database ω} {write : Option ω} (h : db.session.tx = .begun) :
    execute db (.query write) = ({ db with session := { db.session with
      pending := db.session.pending ++ write.toList } }, true) := by
  simp [execute, h]

theorem execute_query_aborted {db : Database ω} {write : Option ω} (h : db.session.tx = .aborted) :
    execute db (.query write) = (db, false) := by
  simp [execute, h]

theorem refuse_query {db : Database ω} {write : Option ω} (h : db.session.tx ≠ .idle) :
    refuse db (.query write) =
      { db with session := { db.session with tx := .aborted, pending := [] } } := by
  unfold refuse
  cases hTx : db.session.tx with
  | idle => exact (h hTx).elim
  | begun | aborted => rfl

theorem tagged_append {n : Nat} {pending : List (Nat × ω)} (h : ∀ x ∈ pending, x.1 = n)
    (write : Option ω) : ∀ x ∈ pending ++ (write.map (n, ·)).toList, x.1 = n := by
  intro x hx
  cases List.mem_append.mp hx with
  | inl hBefore => exact h x hBefore
  | inr hNow =>
    cases write with
    | none => exact (List.not_mem_nil hNow).elim
    | some w =>
      rw [List.mem_singleton.mp hNow]

theorem told_append {n : Nat} {pending : List (Nat × ω)} {told : List ω}
    (h : ∀ w ∈ told, (n, w) ∈ pending) (write : Option ω) :
    ∀ w ∈ told ++ write.toList, (n, w) ∈ pending ++ (write.map (n, ·)).toList := by
  intro w hw
  cases List.mem_append.mp hw with
  | inl hBefore => exact List.mem_append_left _ (h w hBefore)
  | inr hNow =>
    cases write with
    | none => exact (List.not_mem_nil hNow).elim
    | some v =>
      rw [List.mem_singleton.mp hNow]
      exact List.mem_append_right _ List.mem_cons_self

theorem inBody_send {n : Nat} {base : List (Nat × ω)} {c : Connection (Nat × ω)} {told : List ω}
    (h : InBody n base c told) (write : Option ω) :
    InBody n base (send c (.query (write.map (n, ·)))).1
      (if (send c (.query (write.map (n, ·)))).2 then told ++ write.toList else told) := by
  cases hAlive : c.alive with
  | false =>
    rw [send_dead hAlive]
    exact h
  | true =>
    have hBegun := h.begun hAlive
    have hTagged := tagged_append h.pending write
    unfold send
    simp only [hAlive, if_true]
    cases hTx : c.db.session.tx with
    | idle => exact (hBegun hTx).elim
    | begun =>
      have hTold := h.told hAlive hTx
      have hTold' := told_append hTold write
      rw [execute_query_begun hTx, refuse_query hBegun]
      have hWritten : ∀ w ∈ told, (n, w) ∈ c.db.session.pending ++ (write.map (n, ·)).toList :=
        fun w hw => List.mem_append_left _ (hTold w hw)
      cases c.next with
      | ok => exact ⟨h.committed, fun _ => hBegun, hTagged, fun _ _ => hTold', by simp⟩
      | error => exact ⟨h.committed, by simp, by simp, by simp, by simp⟩
      | unsent => exact ⟨h.committed, fun _ => hBegun, h.pending, fun _ _ => hTold, by simp⟩
      | unanswered => exact ⟨h.committed, fun _ => hBegun, hTagged, fun _ _ => hWritten, by simp⟩
      | broken ran =>
        cases ran <;> exact ⟨h.committed, by simp, by simp [Session.fresh], by simp, fun _ => rfl⟩
    | aborted =>
      rw [execute_query_aborted hTx, refuse_query hBegun]
      cases c.next with
      | ok | unsent | unanswered =>
        exact ⟨h.committed, fun _ => hBegun, h.pending, by simp [hTx], by simp⟩
      | error => exact ⟨h.committed, by simp, by simp, by simp, by simp⟩
      | broken ran =>
        cases ran <;> exact ⟨h.committed, by simp, by simp [Session.fresh], by simp, fun _ => rfl⟩

theorem inBody_runBody {n : Nat} {base : List (Nat × ω)} {body : Body ω}
    {c : Connection (Nat × ω)} {told : List ω} (h : InBody n base c told) :
    InBody n base (runBody n body c told).connection (runBody n body c told).told := by
  induction body generalizing c told with
  | resolve => exact h
  | reject => exact h
  | query write next ih => exact ih _ (inBody_send h write)

/-- A connection with nothing written in its session. -/
structure Blank (base : List ω) (c : Connection ω) : Prop where
  committed : c.db.committed = base
  pending : c.db.session.pending = []
  gone : c.alive = false → c.db.session = .fresh

theorem execute_own {db : Database ω} {st : Statement ω} (hst : st.IsOwn)
    (h : db.session.pending = []) : (execute db st).1.committed = db.committed ∧
      (execute db st).1.session.pending = [] := by
  cases st with
  | query => exact hst.elim
  | rollback => exact ⟨rfl, rfl⟩
  | start | setWorkspaceId | setIsSuperadmin | commit =>
    cases hTx : db.session.tx <;> simp [execute, hTx, h, Session.fresh]

theorem refuse_own {db : Database ω} (st : Statement ω) (h : db.session.pending = []) :
    (refuse db st).committed = db.committed ∧ (refuse db st).session.pending = [] := by
  cases st with
  | commit => exact ⟨rfl, rfl⟩
  | query | rollback | start | setWorkspaceId | setIsSuperadmin =>
    cases hTx : db.session.tx <;> simp [refuse, hTx, h]

theorem blank_send {base : List ω} {c : Connection ω} {st : Statement ω} (h : Blank base c)
    (hst : st.IsOwn) : Blank base (send c st).1 := by
  cases hAlive : c.alive with
  | false =>
    rw [send_dead hAlive]
    exact h
  | true =>
    obtain ⟨hCommitted, hPending⟩ := execute_own hst h.pending
    obtain ⟨hCommitted', hPending'⟩ := refuse_own st h.pending
    unfold send
    simp only [hAlive, if_true]
    cases c.next with
    | ok => exact ⟨hCommitted.trans h.committed, hPending, by simp⟩
    | error => exact ⟨hCommitted'.trans h.committed, hPending', by simp⟩
    | unsent => exact ⟨h.committed, h.pending, by simp⟩
    | unanswered => exact ⟨hCommitted.trans h.committed, hPending, by simp⟩
    | broken ran =>
      cases ran with
      | true => exact ⟨hCommitted.trans h.committed, rfl, fun _ => rfl⟩
      | false => exact ⟨h.committed, rfl, fun _ => rfl⟩

theorem blank_sendAll {base : List ω} {c : Connection ω} {sts : List (Statement ω)}
    (h : Blank base c) (hsts : ∀ st ∈ sts, st.IsOwn) : Blank base (sendAll c sts).1 := by
  induction sts generalizing c with
  | nil => exact h
  | cons st sts ih =>
    have hfirst := blank_send h (hsts st List.mem_cons_self)
    rw [sendAll]
    split
    · exact ih hfirst fun st' hst' => hsts st' (List.mem_cons_of_mem _ hst')
    · exact hfirst

theorem inBody_prepared {kind : Kind} {n : Nat} {base : List (Nat × ω)} {c : Connection (Nat × ω)}
    (h : Blank base c) (hran : c.ran = []) (hPrepared : (sendAll c (prepare kind)).2 = true) :
    InBody n base (sendAll c (prepare kind)).1 [] := by
  have hBlank := blank_sendAll h (prepare_own kind)
  have hContext := inContext_prepared hran hPrepared
  constructor
  · exact hBlank.committed
  · intro hAlive hIdle
    cases hContext.session hAlive with
    | inl hAborted => simp [hIdle] at hAborted
    | inr hWithin => simp [hIdle, Within] at hWithin
  · simp [hBlank.pending]
  · simp
  · exact hBlank.gone

/-! ### The end of a call -/

/-- A call does not resolve on the `COMMIT` of an aborted transaction after writes that
succeeded. -/
def CommitsWhatItTold (body : BodyEnd ω) : Prop :=
  body.connection.alive = true → body.connection.next = .ok →
    body.connection.db.session.tx = .aborted → body.told = []

/-- A `ROLLBACK` that stays unsent leaves no writes behind. -/
def RollsBack (c : Connection ω) : Prop :=
  c.alive = true → c.next = .unsent → c.db.session.pending = []

instance (body : BodyEnd ω) [DecidableEq ω] : Decidable (CommitsWhatItTold body) :=
  inferInstanceAs (Decidable (_ → _))

instance (c : Connection ω) [DecidableEq ω] : Decidable (RollsBack c) :=
  inferInstanceAs (Decidable (_ → _))

theorem rollBack_committed (c : Connection ω) :
    (rollBack c).db.committed = c.db.committed := by
  unfold rollBack send
  split
  · cases c.next with
    | ok | unsent | unanswered => rfl
    | error => cases hTx : c.db.session.tx <;> simp [refuse, hTx]
    | broken ran => cases ran <;> rfl
  · rfl

theorem rollBack_pending {c : Connection ω} (h : RollsBack c)
    (hIdle : c.db.session.tx = .idle → c.db.session.pending = [])
    (hGone : c.alive = false → c.db.session = .fresh) :
    (rollBack c).db.session.pending = [] := by
  unfold rollBack send
  cases hAlive : c.alive with
  | false => simp [hGone hAlive, Session.fresh]
  | true =>
    simp only [if_true]
    cases hNext : c.next with
    | ok | unanswered => rfl
    | unsent => exact h hAlive hNext
    | error =>
      cases hTx : c.db.session.tx with
      | idle => simpa [refuse, hTx] using hIdle hTx
      | begun | aborted => simp [refuse, hTx]
    | broken ran => cases ran <;> rfl

theorem execute_commit {db : Database ω} (h : db.session.tx ≠ .idle) :
    (execute db .commit).1.session = .fresh ∧
      (db.session.tx = .begun → (execute db .commit).1.committed =
        db.committed ++ db.session.pending) ∧
      (db.session.tx = .aborted → (execute db .commit).1.committed = db.committed) := by
  cases hTx : db.session.tx with
  | idle => exact (h hTx).elim
  | begun | aborted => simp [execute, hTx]

/-- A `COMMIT` leaves a fresh session, unless it is not sent. -/
theorem commit_session {n : Nat} {base : List (Nat × ω)} {c : Connection (Nat × ω)}
    {told : List ω} (h : InBody n base c told) :
    (send c .commit).1.db.session = .fresh ∨ (send c .commit).1.db = c.db ∧ c.alive = true := by
  cases hAlive : c.alive with
  | false =>
    rw [send_dead hAlive]
    exact Or.inl (h.gone hAlive)
  | true =>
    have hCommit := (execute_commit (h.begun hAlive)).1
    unfold send
    simp only [hAlive, if_true]
    cases c.next with
    | ok | unanswered => exact Or.inl hCommit
    | unsent => exact Or.inr ⟨rfl, trivial⟩
    | error => exact Or.inl rfl
    | broken ran => cases ran <;> exact Or.inl rfl

theorem commit_committed {n : Nat} {base : List (Nat × ω)} {c : Connection (Nat × ω)}
    {told : List ω} (h : InBody n base c told) :
    (send c .commit).1.db.committed = base ∨
      (send c .commit).1.db.committed = base ++ c.db.session.pending ∧
        ((send c .commit).2 = true ∨ losesAnswer c = true) := by
  cases hAlive : c.alive with
  | false =>
    rw [send_dead hAlive]
    exact Or.inl h.committed
  | true =>
    have hExecuted : (execute c.db .commit).1.committed = base ∨
        (execute c.db .commit).1.committed = base ++ c.db.session.pending := by
      obtain ⟨-, hBegun, hAborted⟩ := execute_commit (h.begun hAlive)
      cases hTx : c.db.session.tx with
      | idle => exact (h.begun hAlive hTx).elim
      | begun => exact Or.inr (by rw [hBegun hTx, h.committed])
      | aborted => exact Or.inl (by rw [hAborted hTx, h.committed])
    unfold send losesAnswer
    simp only [hAlive, if_true]
    cases hNext : c.next with
    | ok =>
      have hDone : (execute c.db .commit).2 = true := by
        cases hTx : c.db.session.tx <;> simp [execute, hTx]
      exact hExecuted.imp_right fun hOwn => ⟨hOwn, Or.inl hDone⟩
    | unanswered => exact hExecuted.imp_right fun hOwn => ⟨hOwn, Or.inr (by simp)⟩
    | unsent | error => exact Or.inl h.committed
    | broken ran =>
      cases ran with
      | true => exact hExecuted.imp_right fun hOwn => ⟨hOwn, Or.inr (by simp)⟩
      | false => exact Or.inl h.committed

theorem commit_told {n : Nat} {base : List (Nat × ω)} {body : BodyEnd ω}
    (h : InBody n base body.connection body.told) (hCondition : CommitsWhatItTold body)
    (hSent : (send body.connection .commit).2 = true) :
    ∀ w ∈ body.told, (n, w) ∈ (send body.connection .commit).1.db.committed := by
  obtain ⟨hAlive, -, hDb, -, -⟩ := send_succeeds hSent
  obtain ⟨-, hBegun, -⟩ := execute_commit (h.begun hAlive)
  have hNext : body.connection.next = .ok := by
    unfold send at hSent
    simp only [hAlive, if_true] at hSent
    cases hNext : body.connection.next with
    | ok => rfl
    | error | unsent | unanswered => simp [hNext] at hSent
    | broken ran => cases ran <;> simp [hNext] at hSent
  intro w hw
  rw [hDb]
  cases hTx : body.connection.db.session.tx with
  | idle => exact (h.begun hAlive hTx).elim
  | begun =>
    rw [hBegun hTx]
    exact List.mem_append_right _ (h.told hAlive hTx w hw)
  | aborted =>
    rw [hCondition hAlive hNext hTx] at hw
    exact (List.not_mem_nil hw).elim

/-- The conditions on what a function leaves, where `COMMIT` and `ROLLBACK` are sent. -/
def EndsWell (body : BodyEnd ω) : Prop :=
  (body.resolved = true → CommitsWhatItTold body ∧
    ((send body.connection .commit).2 = false → RollsBack (send body.connection .commit).1)) ∧
  (body.resolved = false → RollsBack body.connection)

instance [DecidableEq ω] (body : BodyEnd ω) : Decidable (EndsWell body) :=
  inferInstanceAs (Decidable (_ ∧ _))

/-- What a call does to the commits before it. -/
structure Settles (n : Nat) (base : List (Nat × ω)) (done : CallEnd ω) : Prop where
  extended : ∃ own, done.connection.db.committed = base ++ own ∧ ∀ x ∈ own, x.1 = n
  resolved : done.result = .resolved → ∀ w ∈ done.told, (n, w) ∈ done.connection.db.committed
  rejected : done.result = .rejected → done.connection.db.committed = base
  blank : done.connection.db.session.pending = []

/-- A call that ends with its `ROLLBACK`. -/
theorem settles_rollBack {n : Nat} {base : List (Nat × ω)} {c : Connection (Nat × ω)}
    {result : CallResult} {told : List ω} (own : List (Nat × ω)) (hCommitted : c.db.committed = base ++ own)
    (hOwn : ∀ x ∈ own, x.1 = n) (hResult : result ≠ .resolved)
    (hRejected : result = .rejected → own = []) (hRollsBack : RollsBack c)
    (hIdle : c.db.session.tx = .idle → c.db.session.pending = [])
    (hGone : c.alive = false → c.db.session = .fresh) :
    Settles n base ⟨rollBack c, result, told⟩ := by
  constructor
  · exact ⟨own, (rollBack_committed c).trans hCommitted, hOwn⟩
  · exact fun h => (hResult h).elim
  · intro h
    simp only [rollBack_committed, hCommitted, hRejected h, List.append_nil]
  · exact rollBack_pending hRollsBack hIdle hGone

theorem commit_idle {n : Nat} {base : List (Nat × ω)} {c : Connection (Nat × ω)}
    {told : List ω} (h : InBody n base c told) :
    (send c .commit).1.db.session.tx = .idle → (send c .commit).1.db.session.pending = [] := by
  intro hIdle
  cases commit_session h with
  | inl hFresh => rw [hFresh]; rfl
  | inr hSame =>
    obtain ⟨hDb, hAlive⟩ := hSame
    rw [hDb] at hIdle
    exact (h.begun hAlive hIdle).elim

theorem commit_gone {n : Nat} {base : List (Nat × ω)} {c : Connection (Nat × ω)}
    {told : List ω} (h : InBody n base c told) :
    (send c .commit).1.alive = false → (send c .commit).1.db.session = .fresh := by
  cases hAlive : c.alive with
  | false =>
    rw [send_dead hAlive]
    exact fun _ => h.gone hAlive
  | true =>
    unfold send
    simp only [hAlive, if_true]
    cases c.next with
    | ok | error | unsent | unanswered => simp
    | broken ran => cases ran <;> exact fun _ => rfl

/-- A call whose function ends and whose `COMMIT` fails. -/
theorem settles_failed {n : Nat} {base : List (Nat × ω)} {c : Connection (Nat × ω)}
    {told : List ω} (h : InBody n base c told) (hFailed : (send c .commit).2 = false)
    (hRollsBack : RollsBack (send c .commit).1) :
    Settles n base ⟨rollBack (send c .commit).1,
      if losesAnswer c then .unacknowledged else .rejected, told⟩ := by
  have hIdle := commit_idle h
  have hGone := commit_gone h
  cases commit_committed h with
  | inl hBase =>
    refine settles_rollBack [] (by simpa using hBase) (by simp) ?_ (fun _ => rfl)
      hRollsBack hIdle hGone
    split <;> simp
  | inr hOwn =>
    obtain ⟨hOwn, hWhy⟩ := hOwn
    have hLoses : losesAnswer c = true := by
      cases hWhy with
      | inl hSent => simp [hSent] at hFailed
      | inr hLoses => exact hLoses
    simp only [hLoses, if_true]
    exact settles_rollBack _ hOwn h.pending (by simp) (by simp) hRollsBack hIdle hGone

theorem settles_finish {n : Nat} {base : List (Nat × ω)} {body : BodyEnd ω}
    (hBody : InBody n base body.connection body.told) (h : EndsWell body) :
    Settles n base (finish body) := by
  obtain ⟨hResolves, hRejects⟩ := h
  unfold finish
  simp only
  split
  · next hResolved =>
    obtain ⟨hCondition, hRollsBack⟩ := hResolves hResolved
    split
    · next hSent =>
      constructor
      · cases commit_committed hBody with
        | inl hBase => exact ⟨[], by simpa using hBase, by simp⟩
        | inr hOwn => exact ⟨_, hOwn.1, hBody.pending⟩
      · exact fun _ => commit_told hBody hCondition hSent
      · simp
      · obtain ⟨hAlive, -, hDb, -, -⟩ := send_succeeds hSent
        simp only
        rw [hDb, (execute_commit (hBody.begun hAlive)).1]
        rfl
    · next hFailed =>
      have hFailed' := Bool.eq_false_iff.mpr hFailed
      exact settles_failed hBody hFailed' (hRollsBack hFailed')
  · next hRejected =>
    refine settles_rollBack [] (by simpa using hBody.committed) (by simp) (by simp)
      (fun _ => rfl) (hRejects (Bool.eq_false_iff.mpr hRejected)) ?_ hBody.gone
    intro hIdle
    cases hAlive : body.connection.alive with
    | true => exact (hBody.begun hAlive hIdle).elim
    | false => rw [hBody.gone hAlive]; rfl

theorem settles_runCall {n : Nat} {base : List (Nat × ω)} {call : Call ω}
    {c : Connection (Nat × ω)} (hBlank : Blank base c) (hran : c.ran = [])
    (h : (sendAll c (prepare call.kind)).2 = true →
      EndsWell (runBody n call.body (sendAll c (prepare call.kind)).1 [])) :
    Settles n base (runCall n call c) := by
  unfold runCall
  simp only
  split
  · next hPrepared =>
    exact settles_finish (inBody_runBody (inBody_prepared hBlank hran hPrepared)) (h hPrepared)
  · have hPrepared := blank_sendAll hBlank (prepare_own call.kind)
    exact settles_rollBack [] (by simpa using hPrepared.committed) (by simp) (by simp)
      (fun _ => rfl) (fun _ _ => hPrepared.pending) (fun _ => hPrepared.pending) hPrepared.gone

/-! ### Runs -/

/-- What a call owes: the writes it was told of when it resolves, nothing when it rejects, and
the settings of its workspace while it runs. -/
structure Owes (committed : List (Nat × ω)) (n : Nat) (r : CallRecord ω) : Prop where
  resolved : r.result = .resolved → ∀ w ∈ r.told, (n, w) ∈ committed
  rejected : r.result = .rejected → ∀ w, (n, w) ∉ committed
  context : ∀ workspaceId, r.kind = .workspace workspaceId → ∀ session ∈ r.ran,
    session.tx = .begun ∧ session.workspaceId = some workspaceId ∧
      session.isSuperadmin = some false

def AllOrNothing (s : Pool ω) : Prop :=
  ∀ n r, s.calls[n]? = some r → Owes s.db.committed n r

/-- The conditions on a call of a run. -/
def CallEndsWell (s : Pool ω) (call : Call ω) : Prop :=
  let prepared := sendAll (s.connect call.outcomes) (prepare call.kind)
  call.kind.accepted = true → call.connects = true → prepared.2 = true →
    EndsWell (runBody s.calls.length call.body prepared.1 [])

instance [DecidableEq ω] (s : Pool ω) (call : Call ω) : Decidable (CallEndsWell s call) :=
  inferInstanceAs (Decidable (_ → _))

/-- What the conditions keep. -/
structure Settled (s : Pool ω) : Prop where
  pending : s.db.session.pending = []
  tagged : ∀ x ∈ s.db.committed, x.1 < s.calls.length
  calls : AllOrNothing s
  contained : Contained s

theorem owes_of_within {committed : List (Nat × ω)} {n : Nat} {r : CallRecord ω}
    (hResolved : r.result = .resolved → ∀ w ∈ r.told, (n, w) ∈ committed)
    (hRejected : r.result = .rejected → ∀ w, (n, w) ∉ committed)
    (hWithin : ∀ session ∈ r.ran, Within r.kind session) : Owes committed n r := by
  refine ⟨hResolved, hRejected, ?_⟩
  intro workspaceId hKind session hSession
  have h := hWithin session hSession
  rw [hKind] at h
  exact h

/-- The commits of a later call change nothing for an earlier one. -/
theorem owes_append {base own : List (Nat × ω)} {n m : Nat} {r : CallRecord ω}
    (h : Owes base n r) (hOwn : ∀ x ∈ own, x.1 = m) (hEarlier : n < m) :
    Owes (base ++ own) n r := by
  refine ⟨fun hr w hw => List.mem_append_left _ (h.resolved hr w hw), ?_, h.context⟩
  intro hr w hw
  cases List.mem_append.mp hw with
  | inl hBase => exact h.rejected hr w hBase
  | inr hNow =>
    have htag : n = m := hOwn _ hNow
    omega

theorem allOrNothing_append {s : Pool ω} (h : AllOrNothing s) {own : List (Nat × ω)}
    (hOwn : ∀ x ∈ own, x.1 = s.calls.length) {r : CallRecord ω}
    (hr : Owes (s.db.committed ++ own) s.calls.length r) {n : Nat} {r' : CallRecord ω}
    (hn : (s.calls ++ [r])[n]? = some r') : Owes (s.db.committed ++ own) n r' := by
  by_cases hEarlier : n < s.calls.length
  · rw [List.getElem?_append_left hEarlier] at hn
    exact owes_append (h n r' hn) hOwn hEarlier
  · have hLast : n = s.calls.length := by
      have hBound := (List.getElem?_eq_some_iff.mp hn).1
      simp only [List.length_append, List.length_singleton] at hBound
      omega
    subst hLast
    simp only [List.getElem?_concat_length, Option.some.injEq] at hn
    rw [← hn]
    exact hr

theorem blank_connect {s : Pool ω} (h : s.db.session.pending = []) (outcomes : List Outcome) :
    Blank s.db.committed (s.connect outcomes) := by
  unfold Pool.connect
  cases s.alive with
  | true => exact ⟨rfl, h, by simp⟩
  | false => exact ⟨rfl, rfl, by simp⟩

theorem tagged_committed {base own : List (Nat × ω)} {m : Nat} (h : ∀ x ∈ base, x.1 < m)
    (hOwn : ∀ x ∈ own, x.1 = m) : ∀ x ∈ base ++ own, x.1 < m + 1 := by
  intro x hx
  cases List.mem_append.mp hx with
  | inl hBase => exact Nat.lt_succ_of_lt (h x hBase)
  | inr hNow => rw [hOwn x hNow]; exact Nat.lt_succ_self m

theorem settled_served {s : Pool ω} (h : Settled s) {call : Call ω} {done : CallEnd ω}
    (hDone : Settles s.calls.length s.db.committed done)
    (hWithin : ∀ session ∈ done.connection.ran, Within call.kind session) :
    AllOrNothing (⟨done.connection.db, done.connection.alive,
      s.calls ++ [⟨call.kind, done.result, done.told, done.connection.ran⟩]⟩ : Pool ω) := by
  obtain ⟨own, hCommitted, hOwn⟩ := hDone.extended
  intro n r hr
  simp only [hCommitted]
  refine allOrNothing_append h.calls hOwn (owes_of_within ?_ ?_ hWithin) hr
  · intro hResolved
    rw [← hCommitted]
    exact hDone.resolved hResolved
  · intro hRejected w hw
    rw [← hCommitted, hDone.rejected hRejected] at hw
    exact Nat.lt_irrefl _ (h.tagged _ hw)

theorem settled_step {s : Pool ω} (h : Settled s) {call : Call ω} (hcall : CallEndsWell s call) :
    Settled (step s call) := by
  have hContained := contained_step h.contained call
  unfold step at hContained ⊢
  split at hContained
  · next hServed =>
    rw [if_pos hServed]
    obtain ⟨hAccepted, hConnects⟩ := Bool.and_eq_true_iff.mp hServed
    have hDone : Settles s.calls.length s.db.committed
        (runCall s.calls.length call (s.connect call.outcomes)) :=
      settles_runCall (blank_connect h.pending call.outcomes) rfl (hcall hAccepted hConnects)
    constructor
    · exact hDone.blank
    · obtain ⟨own, hCommitted, hOwn⟩ := hDone.extended
      simp only [hCommitted, List.length_append, List.length_singleton]
      exact tagged_committed h.tagged hOwn
    · exact settled_served h hDone (runCall_ran rfl)
    · exact hContained
  · next hUnserved =>
    rw [if_neg hUnserved]
    constructor
    · exact h.pending
    · simp only [List.length_append, List.length_singleton]
      exact fun x hx => Nat.lt_succ_of_lt (h.tagged x hx)
    · intro n r hr
      have hNone : ∀ x ∈ ([] : List (Nat × ω)), x.1 = s.calls.length := by simp
      have hLast : Owes (s.db.committed ++ []) s.calls.length
          (⟨call.kind, .rejected, [], []⟩ : CallRecord ω) := by
        refine owes_of_within (by simp) ?_ (by simp)
        intro _ w hw
        rw [List.append_nil] at hw
        exact Nat.lt_irrefl _ (h.tagged _ hw)
      simpa using allOrNothing_append h.calls hNone hLast hr
    · exact hContained

theorem settled_initial : Settled (Pool.initial : Pool ω) where
  pending := rfl
  tagged := by simp [Pool.initial]
  calls := by
    intro n r hr
    simp [Pool.initial] at hr
  contained := by simp [Contained, Pool.initial]

/-- Calls that resolve have committed what they told; calls that reject, nothing. -/
theorem allOrNothing_run {calls : List (Call ω)}
    (h : Allowed step CallEndsWell Pool.initial calls) :
    Always step AllOrNothing Pool.initial calls := by
  have hstep : ∀ (s : Pool ω) (call : Call ω), Settled s → CallEndsWell s call →
      Settled (step s call) := fun s call hs hcall => settled_step hs hcall
  exact (always_of_step hstep settled_initial h).mono fun s hs => hs.calls

/-! ### An error that the function swallows -/

def exampleWorkspace : String := "6f9619ff-8b86-4d01-b42d-00cf4fc964ff"

/-- It writes, sends a statement that may fail, and ends. -/
def swallows : Body String := .query (some "order") fun _ => .query none fun _ => .resolve

/-- It writes, and passes on the error of the statement after it. -/
def passesOn : Body String :=
  .query (some "order") fun _ => .query none fun sent => if sent then .resolve else .reject

def failsSecond (body : Body String) : Call String where
  kind := .workspace exampleWorkspace
  body := body
  connects := true
  outcomes := [.ok, .ok, .ok, .ok, .error]

theorem passesOn_run : Always step AllOrNothing Pool.initial [failsSecond passesOn] :=
  allOrNothing_run (by decide)

/-- The function is told that its write succeeded, the call resolves, and nothing is committed. -/
theorem swallows_not_allOrNothing :
    ¬ Always step AllOrNothing Pool.initial [failsSecond swallows] := by
  intro h
  have hOwes := h.last 0 ⟨.workspace exampleWorkspace, .resolved, ["order"],
    (exec step Pool.initial [failsSecond swallows]).calls.flatMap CallRecord.ran⟩ rfl
  exact absurd (hOwes.resolved rfl "order" List.mem_cons_self) (by decide)

end BrainV2.Tenancy
