import BrainV2.Gateway.OnceOnly
import BrainV2.Mobile.Responses

/-!
# Votes from the phone to the decision log

The phone sends, the gateway takes its requests and those of others in any order, and the answers
come back, or not.

* `World`, `Event`, `step`: the phone and the gateway; the calls of the phone are the even ones;
* `KeyFresh`: what is made up once is not made up again;
* `Faithful`: the phone has one key for an insight, and shows settled what is in the log;
* `Served`: what a step of the gateway does to the stores and its call;
* `Sound`: what every step keeps;
* `session_faithful`: every run is faithful.
-/

namespace BrainV2.Mobile

open Runs
open Gateway (IdempotencyKey ResponseKind Response Request Result Phase Stores DecisionLogRow
  buildIdempotencyKey buildIdempotencyKey_inj ttl perform checkIdempotency)

/-! ### The phone and the gateway -/

structure World where
  screen : Screen
  /-- The requests of the phone: the `n`-th is the gateway's call `2 * n`. -/
  sent : List Sent
  gateway : Gateway.Requests

inductive Event where
  | fetchStarted
  | fetchSucceeded (result : MorningBrief) (fetchedAt : String)
  | fetchFailed (message : Option String)
  | press (insightId : String) (button : Button) (fresh : IdempotencyKey)
  /-- The `n`-th request reaches the gateway. -/
  | arrive (n : Nat) (claim : Team.Claim) (requestId : String)
  | write (n : Nat) (rowId : String)
  | store (n : Nat)
  | stop (n : Nat)
  /-- Another client's request takes a step, or time passes. -/
  | other (n : Nat) (e : Gateway.Event)
  /-- The answer reaches the phone. -/
  | answer (n : Nat)

variable (workspaceId : String)

def request (claim : Team.Claim) (requestId : String) (x : Sent) : Request :=
  ⟨claim, workspaceId, requestId, x.idempotencyKey,
    .submitResponse x.insightId x.responseKind none⟩

/-- One step of the call `c` at the gateway. -/
def World.serve (s : World) (c : Nat) (e : Gateway.Event) : World :=
  { s with gateway := Gateway.step s.gateway (c, e) }

def step (s : World) : Event → World
  | .fetchStarted => { s with screen := fetchStarted s.screen }
  | .fetchSucceeded result fetchedAt =>
    { s with screen := fetchSucceeded s.screen result fetchedAt }
  | .fetchFailed message => { s with screen := fetchFailed s.screen message }
  | .press insightId button fresh =>
    let pressed := press s.screen insightId button fresh
    { s with screen := pressed.1, sent := s.sent ++ pressed.2.toList }
  | .arrive n claim requestId =>
    match s.sent[n]? with
    | some x => s.serve (2 * n) (.begin (request workspaceId claim requestId x))
    | none => s
  | .write n rowId => s.serve (2 * n) (.write rowId)
  | .store n => s.serve (2 * n) .store
  | .stop n => s.serve (2 * n) .stop
  | .other n e => s.serve (2 * n + 1) e
  | .answer n =>
    match s.gateway.calls (2 * n), s.sent[n]? with
    | .answered _ response, some x | .replayed _ response, some x =>
      { s with screen := answered s.screen x.insightId response }
    | _, _ => s

/-- `own` are the keys that the phone makes up: each once, and nobody else in the workspace. -/
def KeyFresh (own : IdempotencyKey → Prop) (s : World) : Event → Prop
  | .press _ _ fresh => own fresh ∧ ∀ x ∈ s.sent, x.idempotencyKey ≠ fresh
  | .other _ (.begin request) => request.workspaceId = workspaceId → ¬ own request.key
  | _ => True

/-! ### What the phone shows -/

/-- A row of the log that a press is behind. -/
structure Logged (s : World) (row : DecisionLogRow) : Prop where
  mem : row ∈ s.gateway.shared.decisionLog
  workspace : row.workspaceId = workspaceId
  pressed : ∃ x ∈ s.sent, row.insightId = x.insightId ∧
    row.idempotencyKey = x.idempotencyKey ∧ row.responseKind = x.responseKind

/-- The result names a row that was written under the key. -/
def Told (s : World) (key : IdempotencyKey) (result : Result) : Prop :=
  ∃ row, Logged workspaceId s row ∧ row.idempotencyKey = key ∧
    result = .submitted row.rowId .loggedAsVote

/-- What a settled response shows is in the log. -/
def Shown (s : World) (i : String) (response : InsightResponseState) : Prop :=
  ∃ row, Logged workspaceId s row ∧ row.insightId = i ∧
    row.idempotencyKey = response.idempotencyKey ∧ response.decisionLogRowId = some row.rowId ∧
      response.status = some .loggedAsVote

structure Faithful (own : IdempotencyKey → Prop) (s : World) : Prop where
  agree : Agree s.screen
  keys : ∀ x ∈ s.sent, ∀ y ∈ s.sent,
    x.idempotencyKey = y.idempotencyKey ↔ x.insightId = y.insightId
  settled : ∀ i response, s.screen.slice.responses i = some response → response.settled = true →
    Shown workspaceId s i response
  log : ∀ row ∈ s.gateway.shared.decisionLog, row.workspaceId = workspaceId →
    own row.idempotencyKey → Logged workspaceId s row

/-! ### Steps of the gateway -/

/-- The request of a call that has begun and was not refused. -/
def requestOf : Phase → Option Request
  | .checked request | .written request _ _ | .answered request _ | .replayed request _
  | .lost request _ _ => some request
  | .idle | .failed => none

def responseOf : Phase → Option Response
  | .written _ response _ | .answered _ response | .replayed _ response | .lost _ response _ =>
    some response
  | .idle | .checked _ | .failed => none

/-- What a step of the gateway does to the stores and its call. -/
inductive Served (stores : Stores) : Phase → Gateway.Event → Stores → Phase → Prop
  | begun (request : Request) :
    Served stores .idle (.begin request) stores (checkIdempotency stores request)
  | wrote (request : Request) (rowId : String) :
    Served stores (.checked request) (.write rowId) (Gateway.write stores request rowId).1
      (Gateway.write stores request rowId).2
  | stored (request : Request) (response : Response) (time : Nat) :
    Served stores (.written request response time) .store
      (Gateway.storeIdempotencyResult stores request response) (.answered request response)
  | refused (request : Request) : Served stores (.checked request) .stop stores .failed
  | lost (request : Request) (response : Response) (time : Nat) :
    Served stores (.written request response time) .stop stores (.lost request response time)
  | passed (phase : Phase) (e : Gateway.Event) (seconds : Nat) :
    Served stores phase e { stores with now := stores.now + seconds } phase

theorem served (stores : Stores) (phase : Phase) (e : Gateway.Event) :
    Served stores phase e (Gateway.advance stores phase e).1 (Gateway.advance stores phase e).2 := by
  fun_cases Gateway.advance stores phase e with
  | case1 request => exact .begun request
  | case2 request rowId => exact .wrote request rowId
  | case3 request response time => exact .stored request response time
  | case4 request => exact .refused request
  | case5 request response time => exact .lost request response time
  | case6 phase seconds => exact .passed phase _ seconds
  | case7 => exact .passed phase e 0

/-! ### Sound worlds -/

variable {workspaceId : String} {own : IdempotencyKey → Prop} {s s' : World}

/-- The log and what is sent only grow. -/
structure Grows (s s' : World) : Prop where
  sent : s.sent <+: s'.sent
  log : s.gateway.shared.decisionLog <+: s'.gateway.shared.decisionLog

theorem Logged.grows (hgrows : Grows s s') {row : DecisionLogRow}
    (h : Logged workspaceId s row) : Logged workspaceId s' row where
  mem := hgrows.log.subset h.mem
  workspace := h.workspace
  pressed := by
    obtain ⟨x, hx, hrow⟩ := h.pressed
    exact ⟨x, hgrows.sent.subset hx, hrow⟩

theorem Told.grows (hgrows : Grows s s') {key : IdempotencyKey} {result : Result}
    (h : Told workspaceId s key result) : Told workspaceId s' key result := by
  obtain ⟨row, hrow, hkey⟩ := h
  exact ⟨row, hrow.grows hgrows, hkey⟩

theorem Shown.grows (hgrows : Grows s s') {i : String} {response : InsightResponseState}
    (h : Shown workspaceId s i response) : Shown workspaceId s' i response := by
  obtain ⟨row, hrow, hshown⟩ := h
  exact ⟨row, hrow.grows hgrows, hshown⟩

variable (workspaceId own)

/-- A call of the phone has a request of the phone; another call has another's. -/
structure Carries (s : World) (c : Nat) (request : Request) : Prop where
  phone : ∀ n, c = 2 * n → ∃ x claim requestId, s.sent[n]? = some x ∧
    request = Mobile.request workspaceId claim requestId x
  other : ∀ n, c = 2 * n + 1 → request.workspaceId = workspaceId → ¬ own request.key

structure CallSound (s : World) (c : Nat) (phase : Phase) : Prop where
  carries : ∀ request, requestOf phase = some request → Carries workspaceId own s c request
  told : ∀ request response, requestOf phase = some request → responseOf phase = some response →
    request.workspaceId = workspaceId → own request.key →
      Told workspaceId s request.key response.result

structure Sound (s : World) : Prop where
  agree : Agree s.screen
  held : ∀ x ∈ s.sent, keyOf s.screen x.insightId = some x.idempotencyKey
  kept : ∀ i key, keyOf s.screen i = some key →
    ∃ x ∈ s.sent, x.insightId = i ∧ x.idempotencyKey = key
  owned : ∀ x ∈ s.sent, own x.idempotencyKey
  apart : ∀ x ∈ s.sent, ∀ y ∈ s.sent,
    x.idempotencyKey = y.idempotencyKey → x.insightId = y.insightId
  idle : ∀ n, s.sent.length ≤ n → s.gateway.calls (2 * n) = .idle
  calls : ∀ c, CallSound workspaceId own s c (s.gateway.calls c)
  store : ∀ key entry, own key →
    s.gateway.shared.store (buildIdempotencyKey workspaceId key) = some entry →
      Told workspaceId s key entry.1.result
  settled : ∀ i response, s.screen.slice.responses i = some response → response.settled = true →
    Shown workspaceId s i response
  log : ∀ row ∈ s.gateway.shared.decisionLog, row.workspaceId = workspaceId →
    own row.idempotencyKey → Logged workspaceId s row

variable {workspaceId own}

theorem Sound.faithful (h : Sound workspaceId own s) : Faithful workspaceId own s where
  agree := h.agree
  keys := by
    intro x hx y hy
    constructor
    · exact h.apart x hx y hy
    · intro hinsight
      have hsame := h.held x hx
      rw [hinsight, h.held y hy] at hsame
      exact (Option.some.inj hsame).symm
  settled := h.settled
  log := h.log

theorem Carries.grows (hgrows : Grows s s') {c : Nat} {request : Request}
    (h : Carries workspaceId own s c request) : Carries workspaceId own s' c request where
  phone := by
    intro n hn
    obtain ⟨x, claim, requestId, hx, hrequest⟩ := h.phone n hn
    obtain ⟨more, hmore⟩ := hgrows.sent
    refine ⟨x, claim, requestId, ?_, hrequest⟩
    rw [← hmore, List.getElem?_append_left (List.getElem?_eq_some_iff.mp hx).1, hx]
  other := h.other

theorem CallSound.grows (hgrows : Grows s s') {c : Nat} {phase : Phase}
    (h : CallSound workspaceId own s c phase) : CallSound workspaceId own s' c phase where
  carries := fun request hrequest => (h.carries request hrequest).grows hgrows
  told := fun request response hrequest hresponse hworkspace hown =>
    (h.told request response hrequest hresponse hworkspace hown).grows hgrows

/-- A request of the workspace under a key of the phone is the phone's. -/
theorem Carries.of_own {c : Nat} {request : Request} (h : Carries workspaceId own s c request)
    (hworkspace : request.workspaceId = workspaceId) (hown : own request.key) :
    ∃ n x claim requestId, c = 2 * n ∧ s.sent[n]? = some x ∧
      request = Mobile.request workspaceId claim requestId x := by
  obtain ⟨n, hn | hn⟩ := Nat.even_or_odd' c
  · obtain ⟨x, claim, requestId, hx⟩ := h.phone n hn
    exact ⟨n, x, claim, requestId, hn, hx⟩
  · exact absurd hown (h.other n hn hworkspace)

/-! ### What the gateway keeps -/

section

variable {c : Nat} {e : Gateway.Event}

theorem log_served {stores stores' : Stores} {phase phase' : Phase}
    (h : Served stores phase e stores' phase') :
    stores'.decisionLog = stores.decisionLog ∨ ∃ request rowId i kind payload,
      phase = .checked request ∧ request.mutation = .submitResponse i kind payload ∧
        stores'.decisionLog = stores.decisionLog ++
          [⟨rowId, request.workspaceId, i, kind, request.key, stores.now⟩] := by
  cases h with
  | wrote request rowId =>
    simp only [Gateway.write, perform]
    cases hmutation : request.mutation with
    | submitResponse i kind payload =>
      exact Or.inr ⟨request, rowId, i, kind, payload, rfl, hmutation, rfl⟩
    | upsertGoal => exact Or.inl rfl
  | begun | stored | refused | lost | passed => exact Or.inl rfl

theorem grows_serve (s : World) (c : Nat) (e : Gateway.Event) : Grows s (s.serve c e) where
  sent := List.prefix_refl _
  log := by
    rcases log_served (served s.gateway.shared (s.gateway.calls c) e) with
      hsame | ⟨_, _, _, _, _, -, -, hnew⟩
    · exact hsame ▸ List.prefix_refl _
    · exact ⟨_, hnew.symm⟩

/-- The row of a press is logged when it is written. -/
theorem logged_write {n : Nat} {x : Sent} {rowId : String}
    (hx : s.sent[n]? = some x)
    (hlog : s'.gateway.shared.decisionLog = s.gateway.shared.decisionLog ++
      [⟨rowId, workspaceId, x.insightId, x.responseKind, x.idempotencyKey,
        s.gateway.shared.now⟩]) (hsent : s'.sent = s.sent) :
    Logged workspaceId s'
      ⟨rowId, workspaceId, x.insightId, x.responseKind, x.idempotencyKey,
        s.gateway.shared.now⟩ where
  mem := by
    rw [hlog]
    exact List.mem_append_right _ List.mem_cons_self
  workspace := rfl
  pressed := ⟨x, hsent ▸ List.mem_of_getElem? hx, rfl, rfl, rfl⟩

/-- A check passes the request on, with what is stored under its key if anything is. -/
theorem check_known {stores : Stores} {request request' : Request}
    (hrequest : requestOf (checkIdempotency stores request) = some request') :
    request' = request ∧
      ∀ response, responseOf (checkIdempotency stores request) = some response →
        ∃ entry, stores.store request.storeKey = some entry ∧
          response.result = entry.1.result := by
  revert hrequest
  fun_cases checkIdempotency stores request with
  | case1 _ cached hcached =>
    intro hrequest
    obtain ⟨entry, hentry, hfresh⟩ := Option.bind_eq_some_iff.mp hcached
    have hsame : cached = entry.1 := by
      split at hfresh
      · exact (Option.some.inj hfresh).symm
      · cases hfresh
    revert hrequest
    fun_cases Gateway.replay request cached with
    | case1 _ =>
      intro hrequest
      refine ⟨(Option.some.inj hrequest).symm, fun response hresponse => ⟨entry, hentry, ?_⟩⟩
      rw [← Option.some.inj hresponse, hsame]
    | case2 result hgoal _ =>
      intro hrequest
      refine ⟨(Option.some.inj hrequest).symm, fun response hresponse => ⟨entry, hentry, ?_⟩⟩
      rw [← Option.some.inj hresponse, ← hsame, hgoal]
    | case3 => intro hnone; cases hnone
  | case2 _ hnone =>
    intro hrequest
    refine ⟨(Option.some.inj hrequest).symm, fun response hresponse => ?_⟩
    cases hresponse
  | case3 => intro hnone; cases hnone

/-- What a call of the gateway knows after its step. -/
theorem callSound_served (h : Sound workspaceId own s) {phase phase' : Phase} {stores' : Stores}
    (hcall : CallSound workspaceId own s c phase)
    (hserved : Served s.gateway.shared phase e stores' phase') (hgrows : Grows s s')
    (hstores : s'.gateway.shared = stores') (hsent : s'.sent = s.sent)
    (hbegin : ∀ request, e = .begin request → Carries workspaceId own s c request) :
    CallSound workspaceId own s' c phase' := by
  have hkept := hcall.grows hgrows
  cases hserved with
  | begun request =>
    constructor
    · intro request' hrequest
      obtain ⟨rfl, -⟩ := check_known hrequest
      exact (hbegin request' rfl).grows hgrows
    · intro request' response hrequest hresponse hworkspace hown
      obtain ⟨rfl, hfound⟩ := check_known hrequest
      obtain ⟨entry, hentry, hresult⟩ := hfound response hresponse
      rw [Request.storeKey, hworkspace] at hentry
      rw [hresult]
      exact (h.store request'.key entry hown hentry).grows hgrows
  | wrote request rowId =>
    constructor
    · intro request' hrequest
      exact hkept.carries request' hrequest
    · intro request' response hrequest hresponse hworkspace hown
      obtain rfl := Option.some.inj hrequest
      obtain rfl := Option.some.inj hresponse
      obtain ⟨n, x, _, _, -, hx, rfl⟩ := (hcall.carries _ rfl).of_own hworkspace hown
      exact ⟨_, logged_write hx (congrArg Stores.decisionLog hstores) hsent, rfl, rfl⟩
  | stored request response time => exact ⟨hkept.carries, hkept.told⟩
  | refused =>
    constructor
    · intro _ hnone
      cases hnone
    · intro _ _ hnone
      cases hnone
  | lost => exact ⟨hkept.carries, hkept.told⟩
  | passed => exact hkept

/-- The entry that a step leaves under a key was there, or is the response of its call. -/
theorem store_served {stores stores' : Stores} {phase phase' : Phase}
    (h : Served stores phase e stores' phase') {key : String} {entry : Response × Nat}
    (hentry : stores'.store key = some entry) :
    stores.store key = some entry ∨ ∃ request, requestOf phase = some request ∧
      responseOf phase = some entry.1 ∧ key = request.storeKey := by
  cases h with
  | stored request response time =>
    dsimp only [Gateway.storeIdempotencyResult] at hentry
    by_cases hkey : key = request.storeKey
    · subst hkey
      rw [Function.update_self] at hentry
      obtain rfl := Option.some.inj hentry
      exact Or.inr ⟨request, rfl, rfl, rfl⟩
    · rw [Function.update_of_ne hkey] at hentry
      exact Or.inl hentry
  | wrote request rowId =>
    have hsame := (Gateway.perform_store stores request rowId).1
    exact Or.inl (hsame ▸ hentry)
  | begun | refused | lost | passed => exact Or.inl hentry

theorem idle_served {stores stores' : Stores} {phase' : Phase}
    (h : Served stores .idle e stores' phase') (hbegin : ∀ request, e ≠ .begin request) :
    phase' = .idle := by
  cases h with
  | begun request => exact absurd rfl (hbegin request)
  | passed => rfl

/-- A step of the gateway. -/
theorem sound_serve (h : Sound workspaceId own s)
    (hbegin : ∀ request, e = .begin request → Carries workspaceId own s c request) :
    Sound workspaceId own (s.serve c e) := by
  have hgrows := grows_serve s c e
  have hserved := served s.gateway.shared (s.gateway.calls c) e
  have hself : CallSound workspaceId own (s.serve c e) c _ :=
    callSound_served h (h.calls c) hserved hgrows rfl rfl hbegin
  constructor
  · exact h.agree
  · exact h.held
  · exact h.kept
  · exact h.owned
  · exact h.apart
  · -- A request that the phone has not sent does not begin.
    intro n hn
    refine Interleave.step_calls
      (P := fun i phase => i = 2 * n → phase = .idle) s.gateway (c, e) ?_ ?_ (2 * n) rfl
    · rintro rfl
      rw [h.idle n hn] at hserved ⊢
      refine idle_served hserved fun request he => ?_
      obtain ⟨x, -, -, hx, -⟩ := (hbegin request he).phone n rfl
      exact absurd (List.getElem?_eq_some_iff.mp hx).1 (Nat.not_lt.mpr hn)
    · rintro i - rfl
      exact h.idle n hn
  · exact Interleave.step_calls
      (P := CallSound workspaceId own (s.serve c e)) s.gateway (c, e) hself
      fun i _ => (h.calls i).grows hgrows
  · intro key entry hown hentry
    rcases store_served hserved hentry with hold | ⟨request, hrequest, hresponse, hkey⟩
    · exact (h.store key entry hown hold).grows hgrows
    · obtain ⟨hworkspace, rfl⟩ := buildIdempotencyKey_inj hkey
      exact ((h.calls c).told request _ hrequest hresponse hworkspace.symm hown).grows hgrows
  · intro i response hresponse hsettled
    exact (h.settled i response hresponse hsettled).grows hgrows
  · intro row hrow hworkspace hown
    have hlog : (s.serve c e).gateway.shared.decisionLog =
        (Gateway.advance s.gateway.shared (s.gateway.calls c) e).1.decisionLog := rfl
    rw [hlog] at hrow
    rcases log_served hserved with hsame | ⟨request, rowId, i, kind, payload, hphase, hmutation, hnew⟩
    · exact (h.log row (hsame ▸ hrow) hworkspace hown).grows hgrows
    · rcases List.mem_append.mp (hnew ▸ hrow) with hold | hin
      · exact (h.log row hold hworkspace hown).grows hgrows
      · rw [List.mem_singleton.mp hin] at hworkspace hown ⊢
        have hcarries := (h.calls c).carries request (by rw [hphase]; rfl)
        obtain ⟨n, x, _, _, -, hx, rfl⟩ := hcarries.of_own hworkspace hown
        cases hmutation
        exact logged_write hx (hlog.trans hnew) rfl

end

/-! ### Steps of the phone -/

/-- What is drawn is not in what is to be sound, the responses and the keys apart. -/
theorem sound_drawn (h : Sound workspaceId own s) {screen : Screen}
    (hresponses : screen.slice.responses = s.screen.slice.responses)
    (hpending : screen.pending = s.screen.pending) :
    Sound workspaceId own { s with screen := screen } := by
  have hgrows : Grows s { s with screen := screen } := ⟨List.prefix_refl _, List.prefix_refl _⟩
  constructor
  · constructor
    · intro i
      rw [hresponses, hpending]
      exact h.agree.action i
    · intro i response hresponse
      rw [hresponses] at hresponse
      exact h.agree.insight i response hresponse
  · intro x hx
    rw [keyOf, hpending]
    exact h.held x hx
  · intro i key hkey
    rw [keyOf, hpending] at hkey
    exact h.kept i key hkey
  · exact h.owned
  · exact h.apart
  · exact h.idle
  · exact fun c => (h.calls c).grows hgrows
  · exact fun key entry hown hentry => (h.store key entry hown hentry).grows hgrows
  · intro i response hresponse hsettled
    rw [hresponses] at hresponse
    exact (h.settled i response hresponse hsettled).grows hgrows
  · exact fun row hrow hworkspace hown => (h.log row hrow hworkspace hown).grows hgrows

/-- A press that sends a request. -/
theorem sound_sent (h : Sound workspaceId own s) {screen : Screen} {x : Sent}
    {fresh : IdempotencyKey} (hpressed : Pressed s.screen screen x fresh) (hown : own fresh)
    (hfresh : ∀ y ∈ s.sent, y.idempotencyKey ≠ fresh) :
    Sound workspaceId own { s with screen := screen, sent := s.sent ++ [x] } := by
  have hgrows : Grows s { s with screen := screen, sent := s.sent ++ [x] } :=
    ⟨List.prefix_append _ _, List.prefix_refl _⟩
  -- What is already sent under the key of the press is about its insight.
  have hself : ∀ y ∈ s.sent, y.idempotencyKey = x.idempotencyKey ↔ y.insightId = x.insightId := by
    intro y hy
    rcases hpressed.key with hkey | ⟨hnone, hnew⟩
    · constructor
      · intro hsame
        obtain ⟨z, hz, hinsight, hzkey⟩ := h.kept _ _ hkey
        rw [h.apart y hy z hz (hsame.trans hzkey.symm), hinsight]
      · intro hsame
        have hheld := h.held y hy
        rw [hsame, hkey] at hheld
        exact (Option.some.inj hheld).symm
    · constructor
      · intro hsame
        exact absurd (hsame.trans hnew) (hfresh y hy)
      · intro hsame
        have hheld := h.held y hy
        rw [hsame, hnone] at hheld
        cases hheld
  constructor
  · exact hpressed.agree
  · intro y hy
    rw [hpressed.keys]
    rcases List.mem_append.mp hy with hold | hin
    · split
      · next hsame => rw [(hself y hold).mpr hsame]
      · exact h.held y hold
    · rw [List.mem_singleton.mp hin, if_pos rfl]
  · intro i key hkey
    rw [hpressed.keys] at hkey
    split at hkey
    · next hi =>
      exact ⟨x, List.mem_append_right _ List.mem_cons_self, hi.symm, Option.some.inj hkey⟩
    · obtain ⟨y, hy, hfound⟩ := h.kept i key hkey
      exact ⟨y, List.mem_append_left _ hy, hfound⟩
  · intro y hy
    rcases List.mem_append.mp hy with hold | hin
    · exact h.owned y hold
    · rw [List.mem_singleton.mp hin]
      rcases hpressed.key with hkey | ⟨-, hnew⟩
      · obtain ⟨z, hz, -, hzkey⟩ := h.kept _ _ hkey
        exact hzkey ▸ h.owned z hz
      · rwa [hnew]
  · intro y hy z hz hsame
    rcases List.mem_append.mp hy with hyold | hyin <;> rcases List.mem_append.mp hz with hzold | hzin
    · exact h.apart y hyold z hzold hsame
    · rw [List.mem_singleton.mp hzin] at hsame ⊢
      exact (hself y hyold).mp hsame
    · rw [List.mem_singleton.mp hyin] at hsame ⊢
      exact ((hself z hzold).mp hsame.symm).symm
    · rw [List.mem_singleton.mp hyin, List.mem_singleton.mp hzin]
  · intro n hn
    rw [List.length_append] at hn
    exact h.idle n (by omega)
  · exact fun c => (h.calls c).grows hgrows
  · exact fun key entry hkey hentry => (h.store key entry hkey hentry).grows hgrows
  · intro i response hresponse hsettled
    exact (h.settled i response (hpressed.settled i response hresponse hsettled) hsettled).grows hgrows
  · exact fun row hrow hworkspace hkey => (h.log row hrow hworkspace hkey).grows hgrows

/-- An answer to a request of the phone. -/
theorem sound_answered (h : Sound workspaceId own s) {x : Sent} (hx : x ∈ s.sent)
    {response : Response} (htold : Told workspaceId s x.idempotencyKey response.result) :
    Sound workspaceId own { s with screen := answered s.screen x.insightId response } := by
  have hgrows : Grows s { s with screen := answered s.screen x.insightId response } :=
    ⟨List.prefix_refl _, List.prefix_refl _⟩
  have hagree : Agree (answered s.screen x.insightId response) := agree_answered h.agree response
  constructor
  · exact hagree
  · intro y hy
    rw [keyOf_answered]
    exact h.held y hy
  · intro i key hkey
    rw [keyOf_answered] at hkey
    exact h.kept i key hkey
  · exact h.owned
  · exact h.apart
  · exact h.idle
  · exact fun c => (h.calls c).grows hgrows
  · exact fun key entry hown hentry => (h.store key entry hown hentry).grows hgrows
  · intro i found hfound hsettled
    obtain ⟨row, hrow, hkey, hresult⟩ := htold
    rcases answered_settled hresult hfound with hold | ⟨rfl, hstatus, hrowId⟩
    · exact (h.settled i found hold hsettled).grows hgrows
    · -- The key of the response is the key of the insight, and so of the request.
      have hsame : keyOf s.screen x.insightId = some found.idempotencyKey := by
        rw [← keyOf_answered response, keyOf, ← hagree.action, hfound]
        rfl
      rw [h.held x hx, Option.some.injEq] at hsame
      obtain ⟨y, hy, hinsight, hykey, -⟩ := hrow.pressed
      refine ⟨row, hrow.grows hgrows, ?_, hkey.trans hsame, hrowId, hstatus⟩
      rw [hinsight]
      exact h.apart y hy x hx (hykey.symm.trans hkey)
  · exact fun row hrow hworkspace hown => (h.log row hrow hworkspace hown).grows hgrows

/-! ### Runs -/

theorem sound_step {e : Event} (h : Sound workspaceId own s) (hfresh : KeyFresh workspaceId own s e) :
    Sound workspaceId own (step workspaceId s e) := by
  cases e with
  | fetchStarted => exact sound_drawn h rfl rfl
  | fetchSucceeded result fetchedAt => exact sound_drawn h rfl rfl
  | fetchFailed message => exact sound_drawn h rfl rfl
  | press insightId button fresh =>
    have hcases : press s.screen insightId button fresh = (s.screen, none) ∨ _ :=
      press_cases h.agree button
    rcases hcases with hnothing | ⟨screen, x, hpress, hpressed⟩
    · simp only [step, hnothing, Option.toList_none, List.append_nil]
      exact h
    · simp only [step, hpress, Option.toList_some]
      exact sound_sent h hpressed hfresh.1 hfresh.2
  | arrive n claim requestId =>
    simp only [step]
    cases hx : s.sent[n]? with
    | none => exact h
    | some x =>
      refine sound_serve h fun request he => ?_
      cases he
      constructor
      · intro m hm
        obtain rfl : n = m := by omega
        exact ⟨x, claim, requestId, hx, rfl⟩
      · intro m hm
        omega
  | write n rowId => exact sound_serve h fun _ he => by cases he
  | store n => exact sound_serve h fun _ he => by cases he
  | stop n => exact sound_serve h fun _ he => by cases he
  | other n e =>
    refine sound_serve h fun request he => ?_
    subst he
    constructor
    · intro m hm
      omega
    · exact fun _ _ => hfresh
  | answer n =>
    simp only [step]
    have hcall := h.calls (2 * n)
    split
    · next request response x hphase hx =>
      rw [hphase] at hcall
      obtain ⟨y, _, _, hy, rfl⟩ := (hcall.carries _ rfl).phone n rfl
      cases hx.symm.trans hy
      have hmem := List.mem_of_getElem? hx
      exact sound_answered h hmem (hcall.told _ response rfl rfl rfl (h.owned x hmem))
    · next request response x hphase hx =>
      rw [hphase] at hcall
      obtain ⟨y, _, _, hy, rfl⟩ := (hcall.carries _ rfl).phone n rfl
      cases hx.symm.trans hy
      have hmem := List.mem_of_getElem? hx
      exact sound_answered h hmem (hcall.told _ response rfl rfl rfl (h.owned x hmem))
    · exact h

variable (workspaceId own) in
/-- The session begins: the phone has sent nothing, and nobody has used its keys. -/
structure Unheard (s : World) : Prop where
  screen : ∃ brief fetchedAt, s.screen = Screen.start brief fetchedAt
  sent : s.sent = []
  idle : ∀ n, s.gateway.calls (2 * n) = .idle
  others : ∀ n request, requestOf (s.gateway.calls (2 * n + 1)) = some request →
    request.workspaceId = workspaceId → ¬ own request.key
  store : ∀ key, own key → s.gateway.shared.store (buildIdempotencyKey workspaceId key) = none
  log : ∀ row ∈ s.gateway.shared.decisionLog, row.workspaceId = workspaceId →
    ¬ own row.idempotencyKey

theorem Unheard.carries (hs : Unheard workspaceId own s) {c : Nat} {request : Request}
    (hrequest : requestOf (s.gateway.calls c) = some request) :
    Carries workspaceId own s c request where
  phone := by
    rintro n rfl
    rw [hs.idle n] at hrequest
    cases hrequest
  other := by
    rintro n rfl
    exact hs.others n request hrequest

theorem Unheard.sound (hs : Unheard workspaceId own s) : Sound workspaceId own s := by
  obtain ⟨brief, fetchedAt, hscreen⟩ := hs.screen
  have hnone : ∀ x, x ∉ s.sent := by
    rw [hs.sent]
    exact fun _ => List.not_mem_nil
  constructor
  · rw [hscreen]
    exact agree_start brief fetchedAt
  · exact fun x hx => absurd hx (hnone x)
  · intro i key hkey
    rw [hscreen] at hkey
    cases hkey
  · exact fun x hx => absurd hx (hnone x)
  · exact fun x hx => absurd hx (hnone x)
  · exact fun n _ => hs.idle n
  · intro c
    constructor
    · exact fun request hrequest => hs.carries hrequest
    · intro request response hrequest _ hworkspace hown
      obtain ⟨_, x, _, _, _, hx, _⟩ := (hs.carries hrequest).of_own hworkspace hown
      exact absurd (List.mem_of_getElem? hx) (hnone x)
  · intro key entry hown hentry
    rw [hs.store key hown] at hentry
    cases hentry
  · intro i response hresponse
    rw [hscreen] at hresponse
    cases hresponse
  · exact fun row hrow hworkspace hown => absurd hown (hs.log row hrow hworkspace)

theorem session_sound {events : List Event} (hs : Unheard workspaceId own s)
    (hfresh : Allowed (step workspaceId) (KeyFresh workspaceId own) s events) :
    Always (step workspaceId) (Sound workspaceId own) s events :=
  always_of_step (fun _ _ h he => sound_step h he) hs.sound hfresh

/-- Whatever comes between: the phone has one key for an insight, what it shows settled is in the
log, and the log has nothing under its keys that was not pressed. -/
theorem session_faithful {events : List Event} (hs : Unheard workspaceId own s)
    (hfresh : Allowed (step workspaceId) (KeyFresh workspaceId own) s events) :
    Always (step workspaceId) (Faithful workspaceId own) s events :=
  (session_sound hs hfresh).mono fun _ h => h.faithful

end BrainV2.Mobile
