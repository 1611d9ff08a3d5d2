import BrainV2.Insight.Gateway
import BrainV2.Insight.PnlContext
import BrainV2.Insight.Validator
import BrainV2.Lib.Runs

/-!
# Cached briefs

* `Briefs`: the gateway with the signals each of its cached briefs was written for;
* `ServedFaithful`: a response that is marked faithful passes for the signals of its request;
* `StillAllowed`: the cache answers a request with a brief whose numbers are still allowed;
* `served_faithful`: where every request is so, every response is faithful.
-/

namespace BrainV2.Insight

open Py

/-! ### One request -/

/-- What is read from the one is in the other. -/
def Kept (cache after : FiltersHashCache) : Prop :=
  ∀ key entry, after.lookup key = some entry → cache.lookup key = some entry

/-- What comes of a request. -/
inductive Served (env : GatewayEnv) (request : GatewayRequest) (state : GatewayState) :
    Completion → Prop
  | failed (out : Completion) (e : PyExc) (hresult : out.result = .error e)
      (hkept : Kept state.filtersCache out.state.filtersCache) : Served env request state out
  | hit (out : Completion) (stored : GatewayResponse) (storedAt : ℚ) (hgate : env.gate = .ok ())
      (hget : state.filtersCache.get request.filtersHash request.workspaceId env.readAt =
        (some stored, state.filtersCache))
      (hstored : state.filtersCache.lookup (cacheKey request.filtersHash request.workspaceId) =
        some (stored, storedAt))
      (hresult : out.result = .ok { stored with cached := true, costMu := 0 })
      (hcache : out.state.filtersCache = state.filtersCache) : Served env request state out
  | answered (out : Completion) (response : GatewayResponse) (cache : FiltersHashCache)
      (hresult : out.result = .ok response) (hfresh : response.cached = false)
      (hvalid : env.validate response.narration request.signals = .ok response.faithfulness)
      (hkept : Kept state.filtersCache cache)
      (hcache : out.state.filtersCache =
        cache.set request.filtersHash request.workspaceId response env.storeAt) :
      Served env request state out

theorem lookup_filter_ne {β : Type} {cache : List (String × β)} {key other : String} {entry : β}
    (h : (cache.filter (·.1 != other)).lookup key = some entry) :
    cache.lookup key = some entry := by
  induction cache with
  | nil => cases h
  | cons head cache ih =>
    obtain ⟨k, v⟩ := head
    by_cases hother : k = other
    · have hne : key ≠ k := by
        rintro rfl
        rw [hother, List.lookup_eq_some_iff] at h
        obtain ⟨front, back, hsplit, -⟩ := h
        have hmem : (other, entry) ∈ ((other, v) :: cache).filter (·.1 != other) := by
          rw [hsplit]
          exact List.mem_append_right _ List.mem_cons_self
        simp at hmem
      rw [List.filter_cons_of_neg (by simp [hother])] at h
      rw [List.lookup_cons, beq_false_of_ne hne]
      exact ih h
    · rw [List.filter_cons_of_pos (by simp [hother])] at h
      rw [List.lookup_cons] at h ⊢
      cases hkey : key == k with
      | true =>
        rw [hkey] at h
        exact h
      | false =>
        rw [hkey] at h
        exact ih h

theorem get_kept (cache : FiltersHashCache) (filtersHash workspaceId : String) (now : ℚ) :
    Kept cache (cache.get filtersHash workspaceId now).2 := by
  intro key entry h
  unfold FiltersHashCache.get at h
  split at h
  · exact h
  · simp only at h
    split at h
    · exact h
    · split at h
      · exact lookup_filter_ne h
      · exact h

theorem get_hit {cache : FiltersHashCache} {filtersHash workspaceId : String} {now : ℚ}
    {stored : GatewayResponse} (h : (cache.get filtersHash workspaceId now).1 = some stored) :
    cache.get filtersHash workspaceId now = (some stored, cache) ∧
      ∃ storedAt, cache.lookup (cacheKey filtersHash workspaceId) = some (stored, storedAt) := by
  unfold FiltersHashCache.get at h ⊢
  split at h
  · cases h
  · next hhash =>
    rw [if_neg hhash]
    simp only at h ⊢
    split at h
    · cases h
    · next response storedAt hlookup =>
      split at h
      · cases h
      · next hfresh =>
        obtain rfl := Option.some.inj h
        simp only [hlookup]
        rw [if_neg hfresh]
        exact ⟨rfl, storedAt, rfl⟩

theorem get_of_lookup {cache : FiltersHashCache} {filtersHash workspaceId : String}
    {stored : GatewayResponse} {storedAt now : ℚ} (hhash : filtersHash ≠ "")
    (hlookup : cache.lookup (cacheKey filtersHash workspaceId) = some (stored, storedAt))
    (hfresh : now - storedAt ≤ ttlSeconds) :
    cache.get filtersHash workspaceId now = (some stored, cache) := by
  unfold FiltersHashCache.get
  rw [if_neg hhash]
  simp only [hlookup]
  rw [if_neg (not_lt.mpr hfresh)]

theorem finish_result (env : GatewayEnv) (request : GatewayRequest) (state : GatewayState)
    (answer : String × Nat × Nat) :
    (∃ e, (finish env request state answer).1 = .error e ∧
        (finish env request state answer).2.filtersCache = state.filtersCache) ∨
      ∃ response, (finish env request state answer).1 = .ok response ∧ response.cached = false ∧
        env.validate response.narration request.signals = .ok response.faithfulness ∧
        (finish env request state answer).2.filtersCache = state.filtersCache.set
          request.filtersHash request.workspaceId response env.storeAt := by
  obtain ⟨narration, tokensIn, tokensOut⟩ := answer
  unfold finish
  cases hvalid : env.validate narration request.signals with
  | error e =>
    left
    exact ⟨e, by simp only [hvalid], by simp only [hvalid]⟩
  | ok faithResult =>
    simp only [hvalid]
    cases writeDecisionLog env (decisionRow env request _) with
    | error e => exact Or.inl ⟨e, rfl, rfl⟩
    | ok u => exact Or.inr ⟨_, rfl, rfl, hvalid, rfl⟩

theorem complete_served (env : GatewayEnv) (request : GatewayRequest) (state : GatewayState) :
    Served env request state (complete env request state) := by
  have hkept := get_kept state.filtersCache request.filtersHash request.workspaceId env.readAt
  unfold complete
  cases hgate : env.gate with
  | error e => exact .failed _ e rfl fun _ _ h => h
  | ok u =>
    cases hget : state.filtersCache.get request.filtersHash request.workspaceId env.readAt with
    | mk hit cache =>
      rw [hget] at hkept
      cases hit with
      | some stored =>
        obtain ⟨hsame, storedAt, hstored⟩ :=
          get_hit (show (state.filtersCache.get _ _ env.readAt).1 = some stored by rw [hget])
        obtain ⟨-, rfl⟩ := Prod.mk.inj (hget.symm.trans hsame)
        exact .hit _ stored storedAt hgate hget hstored rfl rfl
      | none =>
        simp only
        split
        · cases (callWithFaithfulness env request).2 with
          | error e => exact .failed _ e rfl hkept
          | ok answer =>
            obtain ⟨e, hresult, hcache⟩ | ⟨response, hresult, hfresh, hvalid, hcache⟩ :=
              finish_result env request { state with filtersCache := cache } answer
            · refine .failed _ e hresult ?_
              simp only [hcache]
              exact hkept
            · exact .answered _ response cache hresult hfresh hvalid hkept hcache
        · exact .failed _ _ rfl hkept

/-! ### Runs -/

structure Briefs where
  gateway : GatewayState
  /-- The signals of the request a brief was last stored for, under its key. -/
  origins : List (String × List Signal)

/-- A gateway before its first request. -/
def Briefs.start (caps : List (String × Int)) : Briefs := ⟨⟨[], ⟨[], caps⟩⟩, []⟩

variable (py : Interpreter)

/-- What a request meets, with the validator of the service. -/
def validating (env : GatewayEnv) : GatewayEnv :=
  { env with validate := validateFaithfulness py }

def Briefs.step (briefs : Briefs) (input : GatewayEnv × GatewayRequest) : Briefs :=
  let out := complete (validating py input.1) input.2 briefs.gateway
  ⟨out.state,
    match out.result with
    | .ok response =>
      if response.cached = true ∨ input.2.filtersHash = "" then briefs.origins
      else Dict.set briefs.origins (cacheKey input.2.filtersHash input.2.workspaceId)
        input.2.signals
    | .error _ => briefs.origins⟩

/-- A response that is marked faithful passes for the signals of its own request. -/
def ServedFaithful (briefs : Briefs) (input : GatewayEnv × GatewayRequest) : Prop :=
  ∀ response, (complete (validating py input.1) input.2 briefs.gateway).result = .ok response →
    response.faithfulness.ok = true → Passes py response.narration input.2.signals

/-- The numbers that the one list of signals allows, the other allows too. -/
def Covers (source signals : List Signal) : Prop :=
  ∀ isJson allowed, allowedNumbers source isJson = .ok allowed →
    ∃ now, allowedNumbers signals isJson = .ok now ∧ ∀ n ∈ allowed, n ∈ now

/-- When the cache answers, the request allows the numbers that the brief was written with. -/
def StillAllowed (briefs : Briefs) (input : GatewayEnv × GatewayRequest) : Prop :=
  input.1.gate = .ok () →
    (briefs.gateway.filtersCache.get input.2.filtersHash input.2.workspaceId
      input.1.readAt).1.isSome = true →
    ∀ source, briefs.origins.lookup (cacheKey input.2.filtersHash input.2.workspaceId) =
      some source → Covers source input.2.signals

variable {py}

theorem Covers.refl (signals : List Signal) : Covers signals signals :=
  fun _ allowed h => ⟨allowed, h, fun _ hn => hn⟩

/-- A text that passes still does where more numbers are allowed. -/
theorem Passes.mono {narration : String} {source signals : List Signal}
    (h : Passes py narration source) (hcovers : Covers source signals) :
    Passes py narration signals := by
  by_cases hblank : stripText narration.toList = []
  · exact ⟨faithful, by rw [validateFaithfulness, if_pos hblank], rfl⟩
  · obtain ⟨narrativeText, htext, allowed, hallowed, hreads⟩ := (passes_iff hblank).mp h
    obtain ⟨now, hnow, hsub⟩ := hcovers _ _ hallowed
    exact (passes_iff hblank).mpr ⟨narrativeText, htext, now, hnow, hreads.mono hsub⟩

/-- Every brief in the cache passes for the signals it was stored for. -/
def Briefs.Sound (py : Interpreter) (briefs : Briefs) : Prop :=
  ∀ key stored storedAt, briefs.gateway.filtersCache.lookup key = some (stored, storedAt) →
    ∃ source, briefs.origins.lookup key = some source ∧
      (stored.faithfulness.ok = true → Passes py stored.narration source)

theorem Briefs.Sound.kept {briefs : Briefs} (h : briefs.Sound py) {state : GatewayState}
    (hkept : Kept briefs.gateway.filtersCache state.filtersCache) :
    Briefs.Sound py ⟨state, briefs.origins⟩ :=
  fun key stored storedAt hlookup => h key stored storedAt (hkept key _ hlookup)

theorem Briefs.sound_step {briefs : Briefs} (h : briefs.Sound py)
    (input : GatewayEnv × GatewayRequest) : (briefs.step py input).Sound py := by
  unfold Briefs.step
  cases complete_served (validating py input.1) input.2 briefs.gateway with
  | failed e hresult hkept =>
    simp only [hresult]
    exact h.kept hkept
  | hit stored storedAt hgate hget hstored hresult hcache =>
    simp only [hresult, true_or, if_true]
    exact h.kept (by rw [hcache]; exact fun _ _ hlookup => hlookup)
  | answered response cache hresult hfresh hvalid hkept hcache =>
    simp only [hresult, hfresh, Bool.false_eq_true, false_or]
    by_cases hhash : input.2.filtersHash = ""
    · rw [if_pos hhash]
      refine h.kept ?_
      rw [hcache, FiltersHashCache.set, if_pos hhash]
      exact hkept
    · rw [if_neg hhash]
      intro key stored storedAt hlookup
      simp only [hcache, FiltersHashCache.set, if_neg hhash] at hlookup ⊢
      by_cases hkey : key = cacheKey input.2.filtersHash input.2.workspaceId
      · rw [hkey, Dict.lookup_set_self] at hlookup
        obtain ⟨rfl, -⟩ := Prod.mk.inj (Option.some.inj hlookup)
        rw [hkey, Dict.lookup_set_self]
        exact ⟨input.2.signals, rfl, fun hok => ⟨response.faithfulness, hvalid, hok⟩⟩
      · rw [Dict.lookup_set_ne _ _ hkey] at hlookup
        rw [Dict.lookup_set_ne _ _ hkey]
        exact h key stored storedAt (hkept key _ hlookup)

theorem Briefs.served_step {briefs : Briefs} (h : briefs.Sound py)
    {input : GatewayEnv × GatewayRequest} (hallowed : StillAllowed briefs input) :
    ServedFaithful py briefs input := by
  intro response hresponse hok
  cases complete_served (validating py input.1) input.2 briefs.gateway with
  | failed e hresult =>
    rw [hresult] at hresponse
    cases hresponse
  | hit stored storedAt hgate hget hstored hresult =>
    rw [hresult] at hresponse
    obtain rfl := Except.ok.inj hresponse
    obtain ⟨source, hsource, hpasses⟩ := h _ stored storedAt hstored
    have hhit : (briefs.gateway.filtersCache.get input.2.filtersHash input.2.workspaceId
        input.1.readAt).1 = some stored := congrArg Prod.fst hget
    exact (hpasses hok).mono (hallowed hgate (by rw [hhit]; rfl) source hsource)
  | answered answer cache hresult hfresh hvalid =>
    rw [hresult] at hresponse
    obtain rfl := Except.ok.inj hresponse
    exact ⟨answer.faithfulness, hvalid, hok⟩

/-- A run that never serves a brief to a request with other numbers serves faithful ones only. -/
theorem served_faithful (py : Interpreter) (caps : List (String × Int))
    (inputs : List (GatewayEnv × GatewayRequest))
    (h : Runs.Allowed (Briefs.step py) StillAllowed (Briefs.start caps) inputs) :
    Runs.Allowed (Briefs.step py) (ServedFaithful py) (Briefs.start caps) inputs := by
  have hstart : (Briefs.start caps).Sound py := by
    intro key stored storedAt hlookup
    cases hlookup
  exact Runs.allowed_of_step
    (fun briefs input hsound hallowed =>
      ⟨Briefs.served_step hsound hallowed, Briefs.sound_step hsound input⟩) hstart h

theorem contextOf_filtersHash {period : Period} {currentRows priorRows : List MetricRow}
    {ctx : PnlContext} (h : contextOf period currentRows priorRows = .ok ctx) :
    ctx.filtersHash = period.filtersHash := by
  unfold contextOf at h
  dsimp only at h
  split_ifs at h <;> cases h <;> rfl

/-- The key of the context of a period is the same whatever the rows of the period are. -/
theorem filtersHash_of_buildPnlContext {source later : MetricSource}
    (hdigest : source.digest16 = later.digest16) {workspaceId dateFrom dateTo : String}
    {ctx after : PnlContext} (h : buildPnlContext source workspaceId dateFrom dateTo = .ok ctx)
    (hlater : buildPnlContext later workspaceId dateFrom dateTo = .ok after) :
    ctx.filtersHash = after.filtersHash := by
  have hash_eq : ∀ {source : MetricSource} {ctx : PnlContext},
      buildPnlContext source workspaceId dateFrom dateTo = .ok ctx → ctx.filtersHash =
        source.digest16 (workspaceId ++ ":pnl:" ++ dateFrom ++ ":" ++ dateTo) := by
    intro source ctx h
    unfold buildPnlContext at h
    obtain ⟨fromDate, -, h⟩ := bind_ok.mp h
    obtain ⟨toDate, -, h⟩ := bind_ok.mp h
    obtain ⟨priorTo, -, h⟩ := bind_ok.mp h
    obtain ⟨priorFrom, -, h⟩ := bind_ok.mp h
    obtain ⟨currentRange, -, h⟩ := bind_ok.mp h
    obtain ⟨currentRows, -, h⟩ := bind_ok.mp h
    obtain ⟨priorRange, -, h⟩ := bind_ok.mp h
    obtain ⟨priorRows, -, h⟩ := bind_ok.mp h
    exact contextOf_filtersHash h
  rw [hash_eq h, hash_eq hlater, hdigest]

/-! ### A correction of the data -/

/-- A request for the brief of one period. -/
def briefRequest (cm2Mu : Int) : GatewayRequest :=
  ⟨"small_llm", [⟨"cm2_mu", cm2Mu⟩], "", [], "w", "PnlInsightAgent", "h", 2048, "system", "",
    "system", "## P&L"⟩

/-- The model answers with this text, which is held against the signals so. -/
def narrating (validate : String → List Signal → Except PyExc FaithfulnessResult)
    (narration : String) : GatewayEnv where
  gate := .ok ()
  readAt := 0
  storeAt := 0
  spanTraceId := ""
  modelRoster := [("small_llm", "anthropic/claude-haiku-4-5")]
  smallLlm := "anthropic/claude-haiku-4-5"
  llm := fun _ _ => ⟨0, 0, .ok narration⟩
  validate := validate
  inputHash := fun _ => ""
  decisionLogWriter := none

def plainInterpreter : Interpreter := ⟨⟨1000, 1000⟩, fun _ => false⟩

variable {env : GatewayEnv} {request : GatewayRequest} {state : GatewayState}

/-- A first answer that is faithful is charged, stored and returned. -/
theorem complete_first (env : GatewayEnv) (request : GatewayRequest) (state : GatewayState)
    {narration : String} {tokensIn tokensOut : Nat}
    {verdict : FaithfulnessResult} {cache : FiltersHashCache} (hgate : env.gate = .ok ())
    (hmiss : state.filtersCache.get request.filtersHash request.workspaceId env.readAt =
      (none, cache)) (hcap : state.meter.checkCap request.workspaceId = true)
    (hanswer : env.llm 0 ⟨env.model request, buildMessages request, request.maxTokens⟩ =
      ⟨tokensIn, tokensOut, .ok narration⟩)
    (hvalid : env.validate narration request.signals = .ok verdict) (hok : verdict.ok = true)
    (hwriter : env.decisionLogWriter = none) :
    let costMu := estimateCostMu (env.model request) tokensIn tokensOut
    let response : GatewayResponse :=
      ⟨narration, env.model request, tokensIn, tokensOut, verdict, false, costMu⟩
    (complete env request state).result = .ok response ∧
      (complete env request state).state = ⟨cache.set request.filtersHash request.workspaceId
        response env.storeAt, state.meter.addSpend request.workspaceId costMu⟩ := by
  have hcalls : callWithFaithfulness env request =
      ([⟨env.model request, tokensIn, tokensOut⟩], .ok (narration, tokensIn, tokensOut)) := by
    simp only [callWithFaithfulness, attempts, hanswer, hvalid, hok, if_true]
  simp only [complete, hgate, hmiss, hcap, if_true, hcalls, finish, hvalid, writeDecisionLog,
    hwriter, and_self]

theorem Briefs.step_gateway (briefs : Briefs) (input : GatewayEnv × GatewayRequest) :
    (briefs.step py input).gateway =
      (complete (validating py input.1) input.2 briefs.gateway).state := rfl

/-- A brief comes from a request of the run. -/
theorem Briefs.origins_step {briefs : Briefs} {input : GatewayEnv × GatewayRequest} {key : String}
    {source : List Signal} (h : (briefs.step py input).origins.lookup key = some source) :
    source = input.2.signals ∨ briefs.origins.lookup key = some source := by
  unfold Briefs.step at h
  simp only at h
  split at h
  · split at h
    · exact Or.inr h
    · by_cases hkey : key = cacheKey input.2.filtersHash input.2.workspaceId
      · rw [hkey, Dict.lookup_set_self] at h
        exact Or.inl (Option.some.inj h).symm
      · rw [Dict.lookup_set_ne _ _ hkey] at h
        exact Or.inr h
  · exact Or.inr h

theorem complete_hit {stored : GatewayResponse} {cache : FiltersHashCache}
    (hgate : env.gate = .ok ())
    (hhit : state.filtersCache.get request.filtersHash request.workspaceId env.readAt =
      (some stored, cache)) :
    (complete env request state).result = .ok { stored with cached := true, costMu := 0 } := by
  simp only [complete, hgate, hhit]

def narratedBrief : GatewayResponse :=
  ⟨"CM2 4321", "anthropic/claude-haiku-4-5", 0, 0, faithful, false, 0⟩

theorem first_brief {validate : String → List Signal → Except PyExc FaithfulnessResult}
    (h : validate "CM2 4321" [⟨"cm2_mu", 4321⟩] = .ok faithful) :
    (complete (narrating validate "CM2 4321") (briefRequest 4321) ⟨[], ⟨[], []⟩⟩).state =
      ⟨[("w:h", narratedBrief, 0)], ⟨[("w", 0)], []⟩⟩ := by
  have hcap : CapMeter.checkCap ⟨[], []⟩ "w" = true := by decide
  have hok : faithful.ok = true := rfl
  have hwriter : (narrating validate "CM2 4321").decisionLogWriter = none := rfl
  have hcost : ∀ model, estimateCostMu model 0 0 = 0 := by
    intro model
    simp [estimateCostMu, costUnits]
  have hstate := (complete_first (narrating validate "CM2 4321") (briefRequest 4321)
    ⟨[], ⟨[], []⟩⟩ rfl rfl hcap rfl h hok hwriter).2
  rw [hcost] at hstate
  exact hstate

theorem second_brief (validate : String → List Signal → Except PyExc FaithfulnessResult)
    (cm2Mu : Int) :
    (complete (narrating validate "CM2 4321") (briefRequest cm2Mu)
      ⟨[("w:h", narratedBrief, 0)], ⟨[("w", 0)], []⟩⟩).result =
        .ok { narratedBrief with cached := true, costMu := 0 } := by
  apply complete_hit rfl
  have hhash : (briefRequest cm2Mu).filtersHash ≠ "" := by
    change "h" ≠ ""
    decide
  apply get_of_lookup hhash rfl
  change (0 : ℚ) - 0 ≤ 21600
  norm_num

set_option maxRecDepth 4000 in
theorem validate_before :
    validateFaithfulness plainInterpreter "CM2 4321" [⟨"cm2_mu", 4321⟩] = .ok faithful := by
  decide

set_option maxRecDepth 4000 in
theorem validate_after :
    validateFaithfulness plainInterpreter "CM2 4321" [⟨"cm2_mu", 1234⟩] =
      .ok ⟨false, ["4321"]⟩ := by
  decide

/-- Two requests for the same period, the second with these data. -/
def requests (cm2Mu : Int) : List (GatewayEnv × GatewayRequest) :=
  [(narrating (fun _ _ => .ok faithful) "CM2 4321", briefRequest 4321),
    (narrating (fun _ _ => .ok faithful) "CM2 4321", briefRequest cm2Mu)]

/-- The brief is served again while the data are the same. -/
theorem same_data_faithful :
    Runs.Allowed (Briefs.step plainInterpreter) (ServedFaithful plainInterpreter)
      (Briefs.start []) (requests 4321) := by
  apply served_faithful
  refine ⟨?_, ?_, trivial⟩
  · intro _ hhit
    cases hhit
  · intro _ _ source hsource
    cases Briefs.origins_step hsource with
    | inl hsame =>
      rw [hsame]
      exact Covers.refl _
    | inr hnone => cases hnone

/-- A brief of 4321 paise is served as faithful after the data say 1234. -/
theorem corrected_data_ignored :
    ¬ Runs.Allowed (Briefs.step plainInterpreter) (ServedFaithful plainInterpreter)
      (Briefs.start []) (requests 1234) := by
  rintro ⟨-, hserved, -⟩
  have hstate : ((Briefs.start []).step plainInterpreter
      (narrating (fun _ _ => .ok faithful) "CM2 4321", briefRequest 4321)).gateway =
        ⟨[("w:h", narratedBrief, 0)], ⟨[("w", 0)], []⟩⟩ := by
    rw [Briefs.step_gateway]
    exact first_brief validate_before
  rw [ServedFaithful, hstate] at hserved
  have hsecond := second_brief (validateFaithfulness plainInterpreter) 1234
  obtain ⟨verdict, hverdict, hok⟩ := hserved _ hsecond rfl
  rw [← Except.ok.inj (validate_after.symm.trans hverdict)] at hok
  cases hok

end BrainV2.Insight
