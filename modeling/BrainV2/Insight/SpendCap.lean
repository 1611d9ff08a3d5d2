import BrainV2.Insight.Gateway
import BrainV2.Lib.Runs
import Mathlib.Data.Nat.Cast.Field

/-!
# The spend cap

* `PaidInFull`, `InFull`: the meter takes nothing less than what the calls of a request cost;
* `complete_spec`: what a request dispatches and what the meter takes it for;
* `Ledger`: the gateway with all it has dispatched;
* `capped_of_inFull`: when every call is paid for in full, the cap holds throughout a run.
-/

namespace BrainV2.Insight

open Py

/-! ### What a request dispatches and meters -/

/-- The answer of the first attempt. -/
def GatewayEnv.first (env : GatewayEnv) (request : GatewayRequest) : LlmAnswer :=
  env.llm 0 ⟨env.model request, buildMessages request, request.maxTokens⟩

/-- The answer of the corrective attempt. -/
def GatewayEnv.second (env : GatewayEnv) (request : GatewayRequest) (narration : String)
    (verdict : FaithfulnessResult) : LlmAnswer :=
  env.llm 1 ⟨env.model request, retryMessages (buildMessages request) narration verdict,
    request.maxTokens⟩

/-- The call answers and its answer is found faithful. -/
def Accepted (env : GatewayEnv) (request : GatewayRequest) (answer : LlmAnswer) : Prop :=
  ∃ narration verdict, answer.narration = .ok narration ∧
    env.validate narration request.signals = .ok verdict ∧ verdict.ok = true

/-- An accepted call costs whole paise, any other one nothing. -/
def PaidInFull (env : GatewayEnv) (request : GatewayRequest) (answer : LlmAnswer) : Prop :=
  (Accepted env request answer →
    100000000 ∣ costUnits (env.model request) answer.tokensIn answer.tokensOut * 84 * 100) ∧
  (¬ Accepted env request answer → answer.tokensIn = 0 ∧ answer.tokensOut = 0)

/-- Both calls of a request are paid for in full. -/
def InFull (env : GatewayEnv) (request : GatewayRequest) : Prop :=
  PaidInFull env request (env.first request) ∧
    ∀ narration verdict, (env.first request).narration = .ok narration →
      env.validate narration request.signals = .ok verdict → verdict.ok = false →
        PaidInFull env request (env.second request narration verdict)

def totalCost (calls : List Dispatched) : ℚ := (calls.map Dispatched.cost).sum

/-- The call of an attempt. -/
def LlmAnswer.call (model : String) (answer : LlmAnswer) : Dispatched :=
  ⟨model, answer.tokensIn, answer.tokensOut⟩

variable {env : GatewayEnv} {request : GatewayRequest}

theorem cost_free {model : String} {answer : LlmAnswer}
    (h : answer.tokensIn = 0 ∧ answer.tokensOut = 0) : (answer.call model).cost = 0 := by
  simp [LlmAnswer.call, Dispatched.cost, costUnits, h.1, h.2]

theorem cost_whole {model : String} {answer : LlmAnswer}
    (h : 100000000 ∣ costUnits model answer.tokensIn answer.tokensOut * 84 * 100) :
    (answer.call model).cost = estimateCostMu model answer.tokensIn answer.tokensOut := by
  unfold estimateCostMu
  rw [Nat.cast_div h (by norm_num)]
  rfl

/-- What comes of an attempt with this answer, `again` being what the next attempt comes to
after a narration that is not faithful. -/
inductive Attempted (env : GatewayEnv) (request : GatewayRequest) (attempt : Nat)
    (answer : LlmAnswer)
    (again : String → FaithfulnessResult → List Dispatched × Except PyExc (String × Nat × Nat)) :
    List Dispatched × Except PyExc (String × Nat × Nat) → Prop
  | accepted (narration : String) (verdict : FaithfulnessResult)
      (hnarration : answer.narration = .ok narration)
      (hverdict : env.validate narration request.signals = .ok verdict)
      (hok : verdict.ok = true) :
      Attempted env request attempt answer again ([answer.call (env.model request)],
        .ok (narration, answer.tokensIn, answer.tokensOut))
  | failed (e : PyExc) (hnot : ¬ Accepted env request answer) :
      Attempted env request attempt answer again ([answer.call (env.model request)], .error e)
  | corrected (narration : String) (verdict : FaithfulnessResult) (hfirst : attempt = 0)
      (hnarration : answer.narration = .ok narration)
      (hverdict : env.validate narration request.signals = .ok verdict)
      (hok : verdict.ok = false) :
      Attempted env request attempt answer again
        (answer.call (env.model request) :: (again narration verdict).1,
          (again narration verdict).2)

theorem attempts_spec (messages : List Message) (left attempt : Nat) (current : List Message) :
    Attempted env request attempt
      (env.llm attempt ⟨env.model request, current, request.maxTokens⟩)
      (fun narration verdict => attempts env request messages left (attempt + 1)
        (retryMessages messages narration verdict))
      (attempts env request messages (left + 1) attempt current) := by
  rw [attempts]
  generalize env.llm attempt ⟨env.model request, current, request.maxTokens⟩ = answer
  cases hnarration : answer.narration with
  | error e =>
    refine .failed e ?_
    rintro ⟨narration, verdict, hok, -⟩
    rw [hnarration] at hok
    cases hok
  | ok narration =>
    cases hverdict : env.validate narration request.signals with
    | error e =>
      simp only [hverdict]
      refine .failed e ?_
      rintro ⟨narration', verdict, hok, hvalid, -⟩
      obtain rfl := Except.ok.inj (hnarration.symm.trans hok)
      rw [hverdict] at hvalid
      cases hvalid
    | ok verdict =>
      simp only [hverdict]
      cases hok : verdict.ok with
      | true => exact .accepted narration verdict hnarration hverdict hok
      | false =>
        by_cases hfirst : attempt = 0
        · simp only [Bool.false_eq_true, if_false, if_pos hfirst]
          exact .corrected narration verdict hfirst hnarration hverdict hok
        · simp only [Bool.false_eq_true, if_false, if_neg hfirst]
          refine .failed _ ?_
          rintro ⟨narration', verdict', hok', hvalid, htrue⟩
          obtain rfl := Except.ok.inj (hnarration.symm.trans hok')
          obtain rfl := Except.ok.inj (hverdict.symm.trans hvalid)
          rw [hok] at htrue
          cases htrue

/-- The calls cost what an answer is metered at, and nothing where there is none. -/
def Settled (env : GatewayEnv) (request : GatewayRequest)
    (out : List Dispatched × Except PyExc (String × Nat × Nat)) : Prop :=
  match out.2 with
  | .ok (narration, tokensIn, tokensOut) =>
    totalCost out.1 = estimateCostMu (env.model request) tokensIn tokensOut ∧
      ∃ verdict, env.validate narration request.signals = .ok verdict
  | .error _ => totalCost out.1 = 0

theorem totalCost_cons (call : Dispatched) (calls : List Dispatched) :
    totalCost (call :: calls) = call.cost + totalCost calls := by
  simp [totalCost]

/-- A call that is paid for in full settles the request, unless another one follows. -/
theorem Attempted.settled {attempt : Nat} {answer : LlmAnswer}
    {again : String → FaithfulnessResult → List Dispatched × Except PyExc (String × Nat × Nat)}
    {out : List Dispatched × Except PyExc (String × Nat × Nat)}
    (h : Attempted env request attempt answer again out) (hpaid : PaidInFull env request answer)
    (hagain : attempt = 0 → ∀ narration verdict, answer.narration = .ok narration →
      env.validate narration request.signals = .ok verdict → verdict.ok = false →
        Settled env request (again narration verdict)) : Settled env request out := by
  cases h with
  | accepted narration verdict hnarration hverdict hok =>
    have hwhole := hpaid.1 ⟨narration, verdict, hnarration, hverdict, hok⟩
    refine ⟨?_, verdict, hverdict⟩
    rw [totalCost_cons, cost_whole hwhole]
    simp [totalCost]
  | failed e hnot =>
    change totalCost [answer.call (env.model request)] = 0
    rw [totalCost_cons, cost_free (hpaid.2 hnot)]
    simp [totalCost]
  | corrected narration verdict hfirst hnarration hverdict hok =>
    have hfree : (answer.call (env.model request)).cost = 0 := by
      apply cost_free
      apply hpaid.2
      rintro ⟨narration', verdict', hok', hvalid, htrue⟩
      obtain rfl := Except.ok.inj (hnarration.symm.trans hok')
      obtain rfl := Except.ok.inj (hverdict.symm.trans hvalid)
      rw [hok] at htrue
      cases htrue
    have hrest := hagain hfirst narration verdict hnarration hverdict hok
    unfold Settled at hrest ⊢
    simpa only [totalCost_cons, hfree, zero_add] using hrest

theorem settled_of_inFull (h : InFull env request) :
    Settled env request (callWithFaithfulness env request) := by
  apply (attempts_spec (buildMessages request) 1 0 (buildMessages request)).settled h.1
  intro _ narration verdict hnarration hverdict hok
  have hpaid := h.2 narration verdict hnarration hverdict hok
  apply (attempts_spec (buildMessages request) 0 1 _).settled hpaid
  intro hfirst
  cases hfirst

/-- The request gets past the gate, the cache and the cap. -/
def Dispatches (env : GatewayEnv) (request : GatewayRequest) (state : GatewayState) : Prop :=
  env.gate = .ok () ∧
    (state.filtersCache.get request.filtersHash request.workspaceId env.readAt).1 = none ∧
    state.meter.checkCap request.workspaceId = true

theorem finish_meter (state : GatewayState) {narration : String} {tokensIn tokensOut : Nat}
    {verdict : FaithfulnessResult}
    (h : env.validate narration request.signals = .ok verdict) :
    (finish env request state (narration, tokensIn, tokensOut)).2.meter =
      state.meter.addSpend request.workspaceId
        (estimateCostMu (env.model request) tokensIn tokensOut) := by
  unfold finish
  simp only [h]
  split <;> rfl

/-- A request that is not dispatched leaves the meter alone; one that is meters the answer it
gets, if any. -/
theorem complete_spec (env : GatewayEnv) (request : GatewayRequest) (state : GatewayState) :
    (¬ Dispatches env request state ∧ (complete env request state).calls = [] ∧
        (complete env request state).state.meter = state.meter) ∨
      (Dispatches env request state ∧
        (complete env request state).calls = (callWithFaithfulness env request).1 ∧
        ∃ looked : GatewayState, looked.meter = state.meter ∧
          (complete env request state).state.meter =
            match (callWithFaithfulness env request).2 with
            | .error _ => looked.meter
            | .ok answer => (finish env request looked answer).2.meter) := by
  unfold complete Dispatches
  cases env.gate with
  | error e =>
    refine Or.inl ⟨?_, rfl, rfl⟩
    rintro ⟨hgate, -⟩
    cases hgate
  | ok u =>
    cases hget : state.filtersCache.get request.filtersHash request.workspaceId env.readAt with
    | mk hit cache =>
      cases hit with
      | some response =>
        refine Or.inl ⟨?_, rfl, rfl⟩
        rintro ⟨-, hmiss, -⟩
        cases hmiss
      | none =>
        cases hcap : state.meter.checkCap request.workspaceId with
        | false =>
          left
          simp [hcap]
        | true =>
          right
          simp only [hcap, if_true, and_self, true_and]
          refine ⟨?_, { state with filtersCache := cache }, rfl, ?_⟩
          · cases (callWithFaithfulness env request).2 <;> rfl
          · cases (callWithFaithfulness env request).2 <;> rfl

/-! ### Runs -/

/-- A gateway with the calls it has dispatched, request by request, the last one first. -/
structure Ledger where
  state : GatewayState
  dispatched : List (String × List Dispatched)

def Ledger.step (ledger : Ledger) (input : GatewayEnv × GatewayRequest) : Ledger :=
  let completion := complete input.1 input.2 ledger.state
  ⟨completion.state,
    if completion.calls = [] then ledger.dispatched
    else (input.2.workspaceId, completion.calls) :: ledger.dispatched⟩

/-- A gateway before its first request. -/
def Ledger.start (caps : List (String × Int)) : Ledger := ⟨⟨[], ⟨[], caps⟩⟩, []⟩

namespace Ledger

variable (workspaceId : String) (ledger : Ledger)

/-- The costs of the requests of a workspace that dispatched calls, the last one first. -/
def costs : List ℚ :=
  (ledger.dispatched.filter (·.1 = workspaceId)).map fun entry => totalCost entry.2

def total : ℚ := (ledger.costs workspaceId).sum

/-- What is dispatched exceeds the cap by no more than the cost of the last request. -/
def Capped : Prop :=
  ∀ last ∈ (ledger.costs workspaceId).head?,
    ledger.total workspaceId ≤ ledger.state.meter.cap workspaceId + last

/-- The meter shows what is dispatched. -/
def Metered : Prop :=
  (ledger.state.meter.currentSpend workspaceId : ℚ) = ledger.total workspaceId

variable {workspaceId : String} {ledger : Ledger}

theorem costs_step (input : GatewayEnv × GatewayRequest) :
    (ledger.step input).costs workspaceId =
      if (complete input.1 input.2 ledger.state).calls ≠ [] ∧ input.2.workspaceId = workspaceId then
        totalCost (complete input.1 input.2 ledger.state).calls :: ledger.costs workspaceId
      else ledger.costs workspaceId := by
  simp only [step, costs]
  by_cases hcalls : (complete input.1 input.2 ledger.state).calls = []
  · simp [hcalls]
  by_cases hworkspace : input.2.workspaceId = workspaceId
  · simp [hcalls, hworkspace]
  · simp [hcalls, hworkspace]

end Ledger

theorem currentSpend_addSpend_self (meter : CapMeter) (workspaceId : String) (costMu : Nat) :
    (meter.addSpend workspaceId costMu).currentSpend workspaceId =
      meter.currentSpend workspaceId + costMu := by
  conv_lhs => rw [CapMeter.currentSpend, CapMeter.addSpend, Dict.lookup_set_self]
  rfl

theorem currentSpend_addSpend_ne (meter : CapMeter) {workspaceId other : String} (costMu : Nat)
    (h : workspaceId ≠ other) :
    (meter.addSpend other costMu).currentSpend workspaceId = meter.currentSpend workspaceId := by
  conv_lhs => rw [CapMeter.currentSpend, CapMeter.addSpend, Dict.lookup_set_ne _ _ h]
  rfl

theorem finish_cases (state : GatewayState) (answer : String × Nat × Nat) :
    (finish env request state answer).2.meter = state.meter ∨
      ∃ costMu, (finish env request state answer).2.meter =
        state.meter.addSpend request.workspaceId costMu := by
  obtain ⟨narration, tokensIn, tokensOut⟩ := answer
  cases hverdict : env.validate narration request.signals with
  | error e =>
    left
    simp only [finish, hverdict]
  | ok verdict => exact Or.inr ⟨_, finish_meter state hverdict⟩

/-- A request charges nobody but its own workspace. -/
theorem complete_meter (env : GatewayEnv) (request : GatewayRequest) (state : GatewayState) :
    (complete env request state).state.meter = state.meter ∨
      ∃ costMu, (complete env request state).state.meter =
        state.meter.addSpend request.workspaceId costMu := by
  rcases complete_spec env request state with ⟨-, -, hmeter⟩ | ⟨-, -, looked, hlooked, hmeter⟩
  · exact Or.inl hmeter
  · rw [hmeter, ← hlooked]
    cases (callWithFaithfulness env request).2 with
    | error e => exact Or.inl rfl
    | ok answer => exact finish_cases looked answer

theorem complete_cap (env : GatewayEnv) (request : GatewayRequest) (state : GatewayState)
    (workspaceId : String) :
    (complete env request state).state.meter.cap workspaceId = state.meter.cap workspaceId := by
  rcases complete_meter env request state with hmeter | ⟨costMu, hmeter⟩ <;> rw [hmeter]
  rfl

/-- A request that is paid for in full is metered at what it dispatches. -/
theorem complete_charges {state : GatewayState}
    (hfull : Dispatches env request state → InFull env request) :
    ((complete env request state).state.meter.currentSpend request.workspaceId : ℚ) =
      totalCost (complete env request state).calls +
        state.meter.currentSpend request.workspaceId := by
  rcases complete_spec env request state with
    ⟨-, hcalls, hmeter⟩ | ⟨hdispatches, hcalls, looked, hlooked, hmeter⟩
  · rw [hcalls, hmeter]
    simp [totalCost]
  · have hsettled := settled_of_inFull (hfull hdispatches)
    rw [hcalls, hmeter, ← hlooked]
    unfold Settled at hsettled
    cases hanswer : (callWithFaithfulness env request).2 with
    | error e =>
      rw [hanswer] at hsettled
      rw [hsettled, zero_add]
    | ok answer =>
      obtain ⟨narration, tokensIn, tokensOut⟩ := answer
      rw [hanswer] at hsettled
      obtain ⟨htotal, verdict, hverdict⟩ := hsettled
      simp only [finish_meter looked hverdict, currentSpend_addSpend_self, htotal]
      push_cast
      exact add_comm _ _

variable {workspaceId : String} {ledger : Ledger} {input : GatewayEnv × GatewayRequest}

theorem Ledger.total_step :
    (ledger.step input).total workspaceId =
      (if input.2.workspaceId = workspaceId then
        totalCost (complete input.1 input.2 ledger.state).calls else 0) +
      ledger.total workspaceId := by
  unfold Ledger.total
  rw [Ledger.costs_step]
  by_cases hworkspace : input.2.workspaceId = workspaceId
  · by_cases hcalls : (complete input.1 input.2 ledger.state).calls = []
    · simp [hcalls, totalCost]
    · simp [hcalls, hworkspace]
  · simp [hworkspace]

theorem Ledger.metered_step (h : ledger.Metered workspaceId)
    (hfull : input.2.workspaceId = workspaceId → Dispatches input.1 input.2 ledger.state →
      InFull input.1 input.2) : (ledger.step input).Metered workspaceId := by
  unfold Ledger.Metered at h ⊢
  rw [Ledger.total_step, ← h]
  change ((complete input.1 input.2 ledger.state).state.meter.currentSpend workspaceId : ℚ) = _
  by_cases hworkspace : input.2.workspaceId = workspaceId
  · subst hworkspace
    rw [if_pos rfl]
    exact complete_charges (hfull rfl)
  · rw [if_neg hworkspace, zero_add]
    rcases complete_meter input.1 input.2 ledger.state with hmeter | ⟨costMu, hmeter⟩
    · rw [hmeter]
    · rw [hmeter, currentSpend_addSpend_ne _ _ fun e => hworkspace e.symm]

/-- The check holds back a request once the meter shows the cap. -/
theorem Ledger.capped_step (hmetered : ledger.Metered workspaceId)
    (hcapped : ledger.Capped workspaceId) : (ledger.step input).Capped workspaceId := by
  unfold Ledger.Capped
  have hcap : (ledger.step input).state.meter.cap workspaceId =
      ledger.state.meter.cap workspaceId := complete_cap _ _ _ _
  rw [hcap, Ledger.total_step, Ledger.costs_step]
  by_cases hcharged : (complete input.1 input.2 ledger.state).calls ≠ [] ∧
      input.2.workspaceId = workspaceId
  · obtain ⟨hcalls, rfl⟩ := hcharged
    rw [if_pos ⟨hcalls, rfl⟩, if_pos rfl]
    intro last hlast
    obtain rfl : totalCost (complete input.1 input.2 ledger.state).calls = last := by
      simpa using hlast
    rcases complete_spec input.1 input.2 ledger.state with ⟨-, hnone, -⟩ | ⟨hdispatches, -, -⟩
    · exact absurd hnone hcalls
    have hbelow : (ledger.state.meter.currentSpend input.2.workspaceId : ℤ) <
        ledger.state.meter.cap input.2.workspaceId := of_decide_eq_true hdispatches.2.2
    have hbelow' : (ledger.state.meter.currentSpend input.2.workspaceId : ℚ) <
        ledger.state.meter.cap input.2.workspaceId := by exact_mod_cast hbelow
    rw [← hmetered]
    linarith
  · rw [if_neg hcharged]
    have hfree : (if input.2.workspaceId = workspaceId then
        totalCost (complete input.1 input.2 ledger.state).calls else 0) = 0 := by
      by_cases hworkspace : input.2.workspaceId = workspaceId
      · have hcalls : (complete input.1 input.2 ledger.state).calls = [] := by
          by_contra hcalls
          exact hcharged ⟨hcalls, hworkspace⟩
        simp [hcalls, totalCost]
      · rw [if_neg hworkspace]
    rw [hfree, zero_add]
    exact hcapped

/-- When every call of a workspace that is dispatched is paid for in full, what is dispatched
for it never exceeds its cap by more than the cost of one request. -/
theorem capped_of_inFull (workspaceId : String) (caps : List (String × Int))
    (inputs : List (GatewayEnv × GatewayRequest))
    (h : Runs.Allowed Ledger.step (fun ledger input => input.2.workspaceId = workspaceId →
      Dispatches input.1 input.2 ledger.state → InFull input.1 input.2)
      (Ledger.start caps) inputs) :
    Runs.Always Ledger.step (Ledger.Capped workspaceId) (Ledger.start caps) inputs := by
  have hstart : (Ledger.start caps).Metered workspaceId ∧
      (Ledger.start caps).Capped workspaceId := by
    constructor
    · simp [Ledger.Metered, Ledger.total, Ledger.costs, Ledger.start, CapMeter.currentSpend]
    · simp [Ledger.Capped, Ledger.costs, Ledger.start]
  have hrun : Runs.Always Ledger.step (fun ledger : Ledger =>
      ledger.Metered workspaceId ∧ ledger.Capped workspaceId) (Ledger.start caps) inputs :=
    Runs.always_of_step (fun ledger input hinv hfull =>
      ⟨Ledger.metered_step hinv.1 hfull, Ledger.capped_step hinv.1 hinv.2⟩) hstart h
  exact hrun.mono fun ledger hinv => hinv.2

/-- A request for an insight of workspace `w`. -/
def insightRequest : GatewayRequest :=
  ⟨"small_llm", [], "", [], "w", "PnlInsightAgent", "", 2048, "system", "", "system", "## P&L"⟩

/-- Every call uses these tokens and gets an answer with this verdict. -/
def answering (tokensIn : Nat) (verdict : FaithfulnessResult) : GatewayEnv where
  gate := .ok ()
  readAt := 0
  storeAt := 0
  spanTraceId := ""
  modelRoster := [("small_llm", "anthropic/claude-haiku-4-5")]
  smallLlm := "anthropic/claude-haiku-4-5"
  llm := fun _ _ => ⟨tokensIn, 0, .ok "MER 9"⟩
  validate := fun _ _ => .ok verdict
  inputHash := fun _ => ""
  decisionLogWriter := none

/-- Two faithful answers of 21 paise each. -/
theorem whole_paise_capped :
    Runs.Always Ledger.step (Ledger.Capped "w") (Ledger.start [("w", 30)])
      [(answering 10000 ⟨true, []⟩, insightRequest), (answering 10000 ⟨true, []⟩, insightRequest)] := by
  have hmodel : isHaiku ((answering 10000 ⟨true, []⟩).model insightRequest) = true := by decide
  have hfull : InFull (answering 10000 ⟨true, []⟩) insightRequest := by
    have haccepted : ∀ answer : LlmAnswer, answer.narration = .ok "MER 9" →
        Accepted (answering 10000 ⟨true, []⟩) insightRequest answer :=
      fun answer h => ⟨_, _, h, rfl, rfl⟩
    refine ⟨⟨fun _ => ?_, fun hnot => absurd (haccepted _ rfl) hnot⟩, ?_⟩
    · rw [costUnits, if_pos hmodel]
      exact ⟨21, rfl⟩
    · intro narration verdict _ hverdict hok
      obtain rfl := Except.ok.inj hverdict
      cases hok
  apply capped_of_inFull
  apply Runs.allowed_of_forall
  intro ledger input hinput _ _
  rw [List.mem_cons, List.mem_singleton, or_self] at hinput
  rw [hinput]
  exact hfull

/-- A rejected request dispatches two calls, and leaves the meter and the cache alone. -/
theorem rejected_request {state : GatewayState} (hcap : state.meter.checkCap "w" = true) :
    (complete (answering 100000 ⟨false, ["9"]⟩) insightRequest state).state = state ∧
      totalCost (complete (answering 100000 ⟨false, ["9"]⟩) insightRequest state).calls = 420 ∧
      (complete (answering 100000 ⟨false, ["9"]⟩) insightRequest state).calls ≠ [] := by
  have hmodel : isHaiku "anthropic/claude-haiku-4-5" = true := by decide
  have hcalls : callWithFaithfulness (answering 100000 ⟨false, ["9"]⟩) insightRequest =
      ([⟨"anthropic/claude-haiku-4-5", 100000, 0⟩, ⟨"anthropic/claude-haiku-4-5", 100000, 0⟩],
        .error (faithfulnessFailed insightRequest ⟨false, ["9"]⟩)) := by
    simp [callWithFaithfulness, attempts, answering, GatewayEnv.model, insightRequest]
  have hcomplete : complete (answering 100000 ⟨false, ["9"]⟩) insightRequest state =
      ⟨.error (faithfulnessFailed insightRequest ⟨false, ["9"]⟩), state,
        [⟨"anthropic/claude-haiku-4-5", 100000, 0⟩,
          ⟨"anthropic/claude-haiku-4-5", 100000, 0⟩]⟩ := by
    have hmiss : state.filtersCache.get insightRequest.filtersHash insightRequest.workspaceId
        (answering 100000 ⟨false, ["9"]⟩).readAt = (none, state.filtersCache) := rfl
    have hcap' : state.meter.checkCap insightRequest.workspaceId = true := hcap
    have hgate : (answering 100000 ⟨false, ["9"]⟩).gate = .ok () := rfl
    simp only [complete, hgate, hmiss, hcap', if_true, hcalls]
  rw [hcomplete]
  refine ⟨rfl, ?_, by simp⟩
  simp only [totalCost, Dispatched.cost, costUnits, hmodel, if_true, List.map_cons, List.map_nil,
    List.sum_cons, List.sum_nil]
  norm_num

/-- Two requests whose answers are rejected twice: 840 paise are dispatched against a cap of
100, and none is metered. -/
theorem rejected_answers_unmetered :
    let inputs := List.replicate 2 (answering 100000 ⟨false, ["9"]⟩, insightRequest)
    (Runs.exec Ledger.step (Ledger.start [("w", 100)]) inputs).costs "w" = [420, 420] ∧
      ¬ Runs.Always Ledger.step (Ledger.Capped "w") (Ledger.start [("w", 100)]) inputs := by
  intro inputs
  have hcap : (Ledger.start [("w", 100)]).state.meter.checkCap "w" = true := by decide
  obtain ⟨hstate, htotal, hsome⟩ := rejected_request hcap
  have hfirst : ((Ledger.start [("w", 100)]).step
      (answering 100000 ⟨false, ["9"]⟩, insightRequest)).costs "w" = [420] := by
    rw [Ledger.costs_step, if_pos ⟨hsome, rfl⟩, htotal]
    rfl
  have hstate' : ((Ledger.start [("w", 100)]).step
      (answering 100000 ⟨false, ["9"]⟩, insightRequest)).state =
        (Ledger.start [("w", 100)]).state := hstate
  have hcosts : (Runs.exec Ledger.step (Ledger.start [("w", 100)]) inputs).costs "w" =
      [420, 420] := by
    change (((Ledger.start [("w", 100)]).step _).step _).costs "w" = _
    obtain ⟨-, htotal', hsome'⟩ := rejected_request (hstate'.symm ▸ hcap)
    rw [Ledger.costs_step, if_pos ⟨hsome', rfl⟩, htotal', hfirst]
  refine ⟨hcosts, fun halways => ?_⟩
  have hlast := halways.last 420 (by rw [hcosts]; rfl)
  have hcapEq : (Runs.exec Ledger.step (Ledger.start [("w", 100)]) inputs).state.meter.cap "w" =
      100 := by
    change (complete _ _ ((Ledger.start [("w", 100)]).step _).state).state.meter.cap "w" = 100
    rw [complete_cap, hstate']
    rfl
  rw [Ledger.total, hcosts, hcapEq] at hlast
  norm_num at hlast

end BrainV2.Insight
