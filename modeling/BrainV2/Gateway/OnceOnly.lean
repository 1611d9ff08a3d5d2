import BrainV2.Gateway.Idempotency

/-!
# One write for a key

* `OnceOnly`, `AnsweredRightly`: what a key is for;
* `Apart`: the steps that no other request of the same key comes between;
* `Covered`: a write that is not too old is in the store, or its request has not stored it;
* `once_of_apart`: in a run of such steps a key means what it says.
-/

namespace BrainV2.Gateway

open Runs

/-- Two writes of one mutation under one key are at least the retention apart. -/
def OnceOnly (stores : Stores) : Prop :=
  stores.writes.Pairwise fun w w' =>
    w.workspaceId = w'.workspaceId → w.key = w'.key → w.mutation = w'.mutation →
      w.time + ttl ≤ w'.time

/-- The record of a write for a request. -/
def RecordedBy (w : Write) (request : Request) (result : Result) : Prop :=
  w.workspaceId = request.workspaceId ∧ w.key = request.key ∧
    w.mutation = request.mutation.name ∧ w.result = result

/-- What is answered from the store was written for that mutation, in that workspace, under that
key. -/
def AnsweredRightly (s : Requests) : Prop :=
  ∀ i request response, s.calls i = .replayed request response →
    ∃ w ∈ s.shared.writes, RecordedBy w request response.result

/-! ### Steps apart -/

/-- The request has written and its response is not stored: it still runs, or it was stopped. -/
def Phase.unstored : Phase → Option (Request × Response × Nat)
  | .written request response time | .lost request response time =>
    some (request, response, time)
  | _ => none

/-- A request finds a response of its own mutation, if it finds any; and it writes when none is
stored under its key and no request of its mutation and key has written, in the time of the
retention, what it has not stored. -/
def Apart (s : Requests) (e : Nat × Event) : Prop :=
  match s.calls e.1, e.2 with
  | .idle, .begin request =>
    ∀ cached, s.shared.get request.storeKey = some cached →
      cached.result.name = request.mutation.name
  | .checked request, .write _ =>
    s.shared.get request.storeKey = none ∧
      ∀ i other response time, (s.calls i).unstored = some (other, response, time) →
        other.storeKey = request.storeKey → other.mutation.name = request.mutation.name →
          time + ttl ≤ s.shared.now
  | _, _ => True

/-! ### What the store covers -/

/-- The response is under its key until the retention of the write is over. -/
def Stored (stores : Stores) (w : Write) : Prop :=
  ∃ response expires, stores.store (buildIdempotencyKey w.workspaceId w.key) =
    some (response, expires) ∧ w.time + ttl ≤ expires

structure Covered (s : Requests) : Prop where
  past : ∀ w ∈ s.shared.writes, w.time ≤ s.shared.now
  named : ∀ w ∈ s.shared.writes, w.result.name = w.mutation
  stored : ∀ w ∈ s.shared.writes, Stored s.shared w ∨ ∃ i request response,
    (s.calls i).unstored = some (request, response, w.time) ∧ RecordedBy w request response.result
  entries : ∀ key entry, s.shared.store key = some entry → ∃ w ∈ s.shared.writes,
    key = buildIdempotencyKey w.workspaceId w.key ∧ w.result = entry.1.result
  unstored : ∀ i request response time,
    (s.calls i).unstored = some (request, response, time) →
      ∃ w ∈ s.shared.writes, RecordedBy w request response.result ∧ w.time = time
  once : OnceOnly s.shared
  answered : AnsweredRightly s

theorem RecordedBy.storeKey {w : Write} {request : Request} {result : Result}
    (h : RecordedBy w request result) :
    buildIdempotencyKey w.workspaceId w.key = request.storeKey := by
  rw [Request.storeKey, h.1, h.2.1]

/-- A step that writes nothing. -/
theorem covered_of_same {s s' : Requests} (h : Covered s)
    (hstore : s'.shared.store = s.shared.store) (hwrites : s'.shared.writes = s.shared.writes)
    (hnow : s.shared.now ≤ s'.shared.now)
    (hunstored : ∀ i, (s'.calls i).unstored = (s.calls i).unstored)
    (hreplayed : ∀ i request response, s'.calls i = .replayed request response →
      ∃ w ∈ s.shared.writes, RecordedBy w request response.result) : Covered s' where
  past := fun w hw => (h.past w (hwrites ▸ hw)).trans hnow
  named := fun w hw => h.named w (hwrites ▸ hw)
  stored := by
    intro w hw
    simp only [hunstored, Stored, hstore]
    exact h.stored w (hwrites ▸ hw)
  entries := by
    rw [hstore, hwrites]
    exact h.entries
  unstored := by
    simp only [hunstored, hwrites]
    exact h.unstored
  once := by
    rw [OnceOnly, hwrites]
    exact h.once
  answered := by
    rw [AnsweredRightly, hwrites]
    exact hreplayed

/-- No earlier write of the mutation under the key is within the retention. -/
theorem over_of_apart {s : Requests} (h : Covered s) {e : Nat × Event} (hstep : Apart s e)
    {request : Request} (hphase : s.calls e.1 = .checked request) {rowId : String}
    (hevent : e.2 = .write rowId) {w : Write} (hw : w ∈ s.shared.writes)
    (hkey : buildIdempotencyKey w.workspaceId w.key = request.storeKey)
    (hname : w.mutation = request.mutation.name) : w.time + ttl ≤ s.shared.now := by
  rw [Apart, hphase, hevent] at hstep
  obtain ⟨hnone, hothers⟩ := hstep
  rcases h.stored w hw with ⟨response, expires, hentry, hlong⟩ |
    ⟨i, other, response, hunstored, hrecorded⟩
  · rw [hkey] at hentry
    simp only [Stores.get, hentry, Option.bind_some, ite_eq_right_iff, reduceCtorEq, imp_false,
      Nat.not_lt] at hnone
    omega
  · apply hothers i other response w.time hunstored
    · rw [← hrecorded.storeKey, hkey]
    · rw [← hrecorded.2.2.1, hname]

theorem covered_write {s : Requests} {e : Nat × Event} (h : Covered s) (hstep : Apart s e)
    {request : Request} (hphase : s.calls e.1 = .checked request) {rowId : String}
    (hevent : e.2 = .write rowId) : Covered (step s e) := by
  obtain ⟨hstore, hnow⟩ := perform_store s.shared request rowId
  have hout : advance s.shared (s.calls e.1) e.2 = write s.shared request rowId := by
    rw [hphase, hevent]
    rfl
  have hshared : (step s e).shared = (write s.shared request rowId).1 := by
    rw [step, Interleave.step_shared, hout]
  have hself : (step s e).calls e.1 = (write s.shared request rowId).2 := by
    rw [step, Interleave.step_calls_self, hout]
  have hother : ∀ i, i ≠ e.1 → (step s e).calls i = s.calls i :=
    fun i hi => Interleave.step_calls_of_ne s hi
  -- The calls that have not stored what they wrote are no checked ones.
  have hold : ∀ i a, (s.calls i).unstored = some a → (step s e).calls i = s.calls i := by
    intro i a hi
    apply hother
    rintro rfl
    rw [hphase] at hi
    cases hi
  generalize hwrite : write s.shared request rowId = out at hshared hself
  rw [write] at hwrite
  subst hwrite
  have hmem : ∀ w ∈ s.shared.writes, w ∈ (step s e).shared.writes := by
    intro w hw
    rw [hshared]
    exact List.mem_append_left _ hw
  constructor
  · intro w hw
    rw [hshared] at hw ⊢
    rw [hnow]
    cases List.mem_append.mp hw with
    | inl hw => exact h.past w hw
    | inr hw =>
      rw [List.mem_singleton.mp hw]
  · intro w hw
    rw [hshared] at hw
    cases List.mem_append.mp hw with
    | inl hw => exact h.named w hw
    | inr hw =>
      rw [List.mem_singleton.mp hw]
      exact perform_name s.shared request rowId
  · intro w hw
    rw [hshared] at hw
    cases List.mem_append.mp hw with
    | inl hw =>
      refine (h.stored w hw).imp ?_ ?_
      · rw [Stored, Stored, hshared, hstore]
        exact id
      · rintro ⟨i, other, response, hi, hrecorded⟩
        exact ⟨i, other, response, by rwa [hold i _ hi], hrecorded⟩
    | inr hw =>
      rw [List.mem_singleton.mp hw]
      exact Or.inr ⟨e.1, request, _, by rw [hself]; rfl, rfl, rfl, rfl, rfl⟩
  · intro key entry hentry
    rw [hshared, hstore] at hentry
    obtain ⟨w, hw, hrest⟩ := h.entries key entry hentry
    exact ⟨w, hmem w hw, hrest⟩
  · intro i other response time hi
    by_cases hcall : i = e.1
    · rw [hcall, hself] at hi
      cases hi
      refine ⟨⟨request.workspaceId, request.key, request.mutation.name,
        (perform s.shared request rowId).2, s.shared.now⟩, ?_, ⟨rfl, rfl, rfl, rfl⟩, rfl⟩
      rw [hshared]
      exact List.mem_append_right _ (List.mem_singleton_self _)
    · rw [hother i hcall] at hi
      obtain ⟨w, hw, hrest⟩ := h.unstored i other response time hi
      exact ⟨w, hmem w hw, hrest⟩
  · rw [OnceOnly, hshared]
    refine List.pairwise_append.mpr ⟨h.once, List.pairwise_singleton _ _, ?_⟩
    intro w hw w' hw' hworkspace hkey hname
    rw [List.mem_singleton.mp hw'] at hworkspace hkey hname ⊢
    apply over_of_apart h hstep hphase hevent hw _ hname
    rw [Request.storeKey, hworkspace, hkey]
  · intro i other response hi
    by_cases hcall : i = e.1
    · rw [hcall, hself] at hi
      cases hi
    · rw [hother i hcall] at hi
      obtain ⟨w, hw, hrest⟩ := h.answered i other response hi
      exact ⟨w, hmem w hw, hrest⟩

theorem covered_store {s : Requests} {e : Nat × Event} (h : Covered s) {request : Request}
    {response : Response} {time : Nat} (hphase : s.calls e.1 = .written request response time)
    (hevent : e.2 = .store) : Covered (step s e) := by
  have hout : advance s.shared (s.calls e.1) e.2 =
      (storeIdempotencyResult s.shared request response, .answered request response) := by
    rw [hphase, hevent]
    rfl
  have hshared : (step s e).shared = storeIdempotencyResult s.shared request response := by
    rw [step, Interleave.step_shared, hout]
  have hself : (step s e).calls e.1 = .answered request response := by
    rw [step, Interleave.step_calls_self, hout]
  have hother : ∀ i, i ≠ e.1 → (step s e).calls i = s.calls i :=
    fun i hi => Interleave.step_calls_of_ne s hi
  have hwrites : (step s e).shared.writes = s.shared.writes := by
    rw [hshared]
    rfl
  have hnow : (step s e).shared.now = s.shared.now := by
    rw [hshared]
    rfl
  have hentry : (step s e).shared.store request.storeKey =
      some (response, s.shared.now + ttl) := by
    rw [hshared]
    exact Function.update_self ..
  have hstore : ∀ key, key ≠ request.storeKey →
      (step s e).shared.store key = s.shared.store key := by
    intro key hkey
    rw [hshared]
    exact Function.update_of_ne hkey ..
  -- What is under the key of the request lasts as long as any write so far needs.
  have hcovers : ∀ w ∈ s.shared.writes,
      buildIdempotencyKey w.workspaceId w.key = request.storeKey → Stored (step s e).shared w := by
    intro w hw hkey
    have hpast := h.past w hw
    exact ⟨response, s.shared.now + ttl, by rw [hkey, hentry], by omega⟩
  constructor
  · rw [hwrites, hnow]
    exact h.past
  · rw [hwrites]
    exact h.named
  · intro w hw
    rw [hwrites] at hw
    by_cases hkey : buildIdempotencyKey w.workspaceId w.key = request.storeKey
    · exact Or.inl (hcovers w hw hkey)
    · refine (h.stored w hw).imp ?_ ?_
      · rintro ⟨old, expires, hold, hlong⟩
        exact ⟨old, expires, by rwa [hstore _ hkey], hlong⟩
      · rintro ⟨i, other, old, hi, hrecorded⟩
        refine ⟨i, other, old, ?_, hrecorded⟩
        rw [hother i]
        · exact hi
        · rintro rfl
          rw [hphase] at hi
          cases hi
          exact hkey hrecorded.storeKey
  · intro key entry hkey
    rw [hwrites]
    by_cases hsame : key = request.storeKey
    · rw [hsame, hentry] at hkey
      cases hkey
      obtain ⟨w, hw, hrecorded, -⟩ :=
        h.unstored e.1 request response time (by rw [hphase]; rfl)
      exact ⟨w, hw, by rw [hsame, hrecorded.storeKey], hrecorded.2.2.2⟩
    · rw [hstore key hsame] at hkey
      exact h.entries key entry hkey
  · intro i other old since hi
    rw [hwrites]
    by_cases hcall : i = e.1
    · rw [hcall, hself] at hi
      cases hi
    · rw [hother i hcall] at hi
      exact h.unstored i other old since hi
  · rw [OnceOnly, hwrites]
    exact h.once
  · intro i other old hi
    rw [hwrites]
    by_cases hcall : i = e.1
    · rw [hcall, hself] at hi
      cases hi
    · rw [hother i hcall] at hi
      exact h.answered i other old hi

/-- A response that is found was written under the key of the request. -/
theorem recorded_of_get {s : Requests} (h : Covered s) {request : Request} {cached : Response}
    (hget : s.shared.get request.storeKey = some cached)
    (hname : cached.result.name = request.mutation.name) :
    ∃ w ∈ s.shared.writes, RecordedBy w request cached.result := by
  obtain ⟨entry, hentry, hfresh⟩ := Option.bind_eq_some_iff.mp hget
  split at hfresh
  case isFalse => cases hfresh
  cases hfresh
  obtain ⟨w, hw, hkey, hresult⟩ := h.entries _ entry hentry
  obtain ⟨hworkspace, hsame⟩ := buildIdempotencyKey_inj hkey
  refine ⟨w, hw, hworkspace.symm, hsame.symm, ?_, hresult⟩
  rw [← hname, ← hresult, h.named w hw]

theorem replay_replayed {request request' : Request} {cached response : Response}
    (h : replay request cached = .replayed request' response) :
    request' = request ∧ response.result = cached.result := by
  revert h
  fun_cases replay request cached with
  | case1 _ =>
    intro h
    cases h
    exact ⟨rfl, rfl⟩
  | case2 result hname hresult =>
    intro h
    cases h
    exact ⟨rfl, Eq.symm ‹cached.result = _›⟩
  | case3 _ _ _ _ => exact nofun

theorem checkIdempotency_replayed {s : Requests} (h : Covered s) {request request' : Request}
    {response : Response}
    (hapart : ∀ cached, s.shared.get request.storeKey = some cached →
      cached.result.name = request.mutation.name)
    (hreplayed : checkIdempotency s.shared request = .replayed request' response) :
    ∃ w ∈ s.shared.writes, RecordedBy w request' response.result := by
  rw [checkIdempotency] at hreplayed
  split at hreplayed
  case isFalse => cases hreplayed
  cases hget : s.shared.get request.storeKey with
  | none =>
    rw [hget] at hreplayed
    cases hreplayed
  | some cached =>
    rw [hget] at hreplayed
    obtain ⟨rfl, hresult⟩ := replay_replayed hreplayed
    rw [hresult]
    exact recorded_of_get h hget (hapart cached hget)

theorem checkIdempotency_unstored (stores : Stores) (request : Request) :
    (checkIdempotency stores request).unstored = none := by
  rw [checkIdempotency]
  split
  · split
    · rw [replay]
      split <;> rfl
    · rfl
  · rfl

/-- A step that writes nothing, and leaves its request with what it had not stored. -/
structure Quiet (stores : Stores) (phase : Phase) (out : Stores × Phase) : Prop where
  store : out.1.store = stores.store
  writes : out.1.writes = stores.writes
  now : stores.now ≤ out.1.now
  unstored : out.2.unstored = phase.unstored
  replayed : ∀ request response, out.2 = .replayed request response →
    phase = .replayed request response

theorem advance_cases (stores : Stores) (phase : Phase) (e : Event) :
    (∃ request, phase = .idle ∧ e = .begin request) ∨
      (∃ request rowId, phase = .checked request ∧ e = .write rowId) ∨
      (∃ request response time, phase = .written request response time ∧ e = .store) ∨
      Quiet stores phase (advance stores phase e) := by
  fun_cases advance stores phase e with
  | case1 request => exact Or.inl ⟨request, rfl, rfl⟩
  | case2 request rowId => exact Or.inr (Or.inl ⟨request, rowId, rfl, rfl⟩)
  | case3 request response time =>
    exact Or.inr (Or.inr (Or.inl ⟨request, response, time, rfl, rfl⟩))
  | case4 request =>
    refine Or.inr (Or.inr (Or.inr ⟨rfl, rfl, le_rfl, rfl, fun _ _ h => ?_⟩))
    cases h
  | case5 request response time =>
    refine Or.inr (Or.inr (Or.inr ⟨rfl, rfl, le_rfl, rfl, fun _ _ h => ?_⟩))
    cases h
  | case6 phase seconds =>
    refine Or.inr (Or.inr (Or.inr ⟨rfl, rfl, ?_, rfl, fun _ _ h => h⟩))
    exact Nat.le_add_right _ _
  | case7 => exact Or.inr (Or.inr (Or.inr ⟨rfl, rfl, le_rfl, rfl, fun _ _ h => h⟩))

/-- A step that writes nothing, and answers from the store only what a write recorded. -/
theorem covered_quiet {s : Requests} {e : Nat × Event} (h : Covered s) {out : Stores × Phase}
    (hout : advance s.shared (s.calls e.1) e.2 = out) (hstore : out.1.store = s.shared.store)
    (hwrites : out.1.writes = s.shared.writes) (hnow : s.shared.now ≤ out.1.now)
    (hunstored : out.2.unstored = (s.calls e.1).unstored)
    (hreplayed : ∀ request response, out.2 = .replayed request response →
      ∃ w ∈ s.shared.writes, RecordedBy w request response.result) : Covered (step s e) := by
  subst hout
  apply covered_of_same h hstore hwrites hnow
  · exact Interleave.step_calls (P := fun i c => c.unstored = (s.calls i).unstored) s e hunstored
      fun _ _ => rfl
  · exact Interleave.step_calls
      (P := fun _ c => ∀ request response, c = .replayed request response →
        ∃ w ∈ s.shared.writes, RecordedBy w request response.result)
      s e hreplayed fun i _ => h.answered i

theorem covered_step {s : Requests} {e : Nat × Event} (h : Covered s) (hstep : Apart s e) :
    Covered (step s e) := by
  rcases advance_cases s.shared (s.calls e.1) e.2 with ⟨request, hphase, hevent⟩ |
    ⟨request, rowId, hphase, hevent⟩ | ⟨request, response, time, hphase, hevent⟩ | hquiet
  · rw [Apart, hphase, hevent] at hstep
    have hout : advance s.shared (s.calls e.1) e.2 =
        (s.shared, checkIdempotency s.shared request) := by
      rw [hphase, hevent]
      rfl
    have hunstored : (checkIdempotency s.shared request).unstored = (s.calls e.1).unstored := by
      rw [checkIdempotency_unstored, hphase]
      rfl
    exact covered_quiet h hout rfl rfl le_rfl hunstored
      fun _ _ => checkIdempotency_replayed h hstep
  · exact covered_write h hstep hphase hevent
  · exact covered_store h hphase hevent
  · apply covered_quiet h rfl hquiet.store hquiet.writes hquiet.now hquiet.unstored
    exact fun request response hreplayed => h.answered e.1 _ _ (hquiet.replayed _ _ hreplayed)

/-! ### Runs -/

/-- Before the first request. -/
structure Fresh (s : Requests) : Prop where
  calls : ∀ i, s.calls i = .idle
  store : ∀ key, s.shared.store key = none
  writes : s.shared.writes = []

theorem covered_of_fresh {s : Requests} (hs : Fresh s) : Covered s := by
  have hnone : ∀ w, w ∉ s.shared.writes := by
    rw [hs.writes]
    exact fun _ => List.not_mem_nil
  constructor
  · exact fun w hw => absurd hw (hnone w)
  · exact fun w hw => absurd hw (hnone w)
  · exact fun w hw => absurd hw (hnone w)
  · intro key entry hentry
    rw [hs.store] at hentry
    cases hentry
  · intro i request response time hi
    rw [hs.calls] at hi
    cases hi
  · rw [OnceOnly, hs.writes]
    exact List.Pairwise.nil
  · intro i request response hi
    rw [hs.calls] at hi
    cases hi

theorem once_of_apart {s : Requests} (hs : Fresh s) {events : List (Nat × Event)}
    (h : Allowed step Apart s events) :
    Always step (fun s => OnceOnly s.shared ∧ AnsweredRightly s) s events := by
  have hcovered : Always step Covered s events :=
    always_of_step (fun _ _ hs hstep => covered_step hs hstep) (covered_of_fresh hs) h
  exact hcovered.mono fun _ hs => ⟨hs.once, hs.answered⟩

/-! ### A retry, and two that come wrong -/

def retryKey : IdempotencyKey := ⟨"5e0c8bfa-7a53-4c1e-9d6c-3b1f0a9e2d47", by decide⟩

def managerClaim : Team.Claim := ⟨"6a1f", .manager⟩

def goalRequest (requestId : String) : Request :=
  ⟨managerClaim, "ws_1", requestId, retryKey,
    .upsertGoal "net_revenue_mu" .monthly "2025-01-01" 5000000 .target⟩

def voteRequest : Request :=
  ⟨managerClaim, "ws_1", "req_2", retryKey, .submitResponse "ins_1" .approve none⟩

def opened : Requests :=
  ⟨⟨0, fun _ => none, [], fun _ => [], []⟩, fun _ => .idle⟩

theorem fresh_opened : Fresh opened :=
  ⟨fun _ => rfl, fun _ => rfl, rfl⟩

/-- A request, and its retry a minute later -/
def retrying : List (Nat × Event) :=
  [(0, .begin (goalRequest "req_1")), (0, .write "row_1"), (0, .store), (1, .pass 60),
    (1, .begin (goalRequest "req_2"))]

theorem retrying_once : Always step (fun s => OnceOnly s.shared ∧ AnsweredRightly s) opened
    retrying := by
  apply once_of_apart fresh_opened
  refine ⟨?_, ⟨rfl, ?_⟩, trivial, trivial, ?_, trivial⟩
  · rintro cached ⟨⟩
  · intro i other response time hi
    cases i with
    | zero => cases hi
    | succ i => cases hi
  · intro cached hcached
    have hname : ((exec step opened (retrying.take 4)).shared.get
        (goalRequest "req_2").storeKey).map (fun found => found.result.name) = some .upsertGoal := by
      decide +kernel
    have hfound := congrArg (Option.map fun found => found.result.name) hcached
    exact Option.some.inj (hfound.symm.trans hname)

/-- The retry comes before the first request has written. -/
def retryingAtOnce : List (Nat × Event) :=
  [(0, .begin (goalRequest "req_1")), (1, .begin (goalRequest "req_2")), (0, .write "row_1"),
    (1, .write "row_2")]

/-- A vote under the key of a goal -/
def reusing : List (Nat × Event) :=
  [(0, .begin (goalRequest "req_1")), (0, .write "row_1"), (0, .store), (1, .begin voteRequest)]

theorem retryingAtOnce_twice :
    ¬ Always step (fun s => OnceOnly s.shared ∧ AnsweredRightly s) opened retryingAtOnce ∧
      ¬ Always step (fun s => OnceOnly s.shared ∧ AnsweredRightly s) opened reusing := by
  constructor
  · intro h
    have honce := h.last.1
    have hpair := List.pairwise_cons.mp honce
    have hlate := hpair.1 _ (List.mem_singleton_self _) rfl rfl rfl
    exact absurd hlate (by decide)
  · intro h
    obtain ⟨w, hw, -, -, hname, -⟩ := h.last.2 1 voteRequest _ rfl
    rw [List.mem_singleton.mp hw] at hname
    cases hname

end BrainV2.Gateway
