import BrainV2.Insight.WriteTools
import BrainV2.Lib.Interleave

/-!
# Dispatched tool calls

What an agent asks for reaches the executor only through `dispatch_tool_call`.

* `dispatchToolCall`: the scope of the agent, the graduation of its tool, then the executor, or a
  row of the decision log;
* `step`: dispatches side by side, while scopes are registered and tools graduate;
* `dispatch_guarded`: each execution is that of one dispatch, which found the tool in scope and
  graduated;
* `drops_logged`: each dropped dispatch has its own row in the log;
* `dispatched_capped`: what is dispatched stays within the caps.
-/

namespace BrainV2.Insight

open Runs

/-- The text under which scopes and `ai.graduation` know a tool. -/
def WriteToolName.value : WriteToolName → String
  | .pauseAdSet => "pause_ad_set"
  | .reallocateBudget => "reallocate_budget"
  | .sendRefund => "send_refund"

def Intent.value : Intent → String
  | .pause => "PAUSE"
  | .increase => "INCREASE"
  | .decrease => "DECREASE"

namespace Dispatch

inductive GraduationStatus where
  | pending
  | graduated
deriving DecidableEq

inductive DispatchStatus where
  | dispatched
  | droppedOutOfScope
  | droppedNotGraduated
deriving DecidableEq

inductive DropReason where
  | outOfScope
  | notGraduated
deriving DecidableEq

def DropReason.text : DropReason → String
  | .outOfScope => "out_of_scope"
  | .notGraduated => "not_graduated"

def DropReason.status : DropReason → DispatchStatus
  | .outOfScope => .droppedOutOfScope
  | .notGraduated => .droppedNotGraduated

structure DispatchOutcome where
  status : DispatchStatus
  agentId : String
  workspaceId : String
  tool : String
  decisionLogRowId : Option String
deriving DecidableEq

/-- What `_executor` passes to `execute_write_tool` beside the call and the workspace. -/
structure Executor where
  requestedFractionBp : Int
  hasWriter : Bool
deriving DecidableEq

/-- The arguments of `dispatch_tool_call`. The reader of the graduation is that of `Agents`; the
writer of the log and the executor may be left out. -/
structure DispatchRequest where
  agentId : String
  workspaceId : String
  call : WriteToolCall
  hasLogWriter : Bool
  executor : Option Executor
  requestId : String
  traceId : String
  actorId : String
deriving DecidableEq

/-- A row of `ai.decision_log`, without its id. -/
structure RecommendationRow where
  type : String
  workspaceId : String
  agentId : String
  tool : String
  dropReason : String
  intent : String
  entityId : String
  requestId : String
  traceId : String
  actorId : String
deriving DecidableEq

structure LogRow where
  rowId : String
  row : RecommendationRow
deriving DecidableEq

namespace DispatchRequest

def toolName (x : DispatchRequest) : String := x.call.tool.value

/-- The row that `_write_decision_log` builds. -/
def recommendation (x : DispatchRequest) (reason : DropReason) : RecommendationRow where
  type := "recommendation"
  workspaceId := x.workspaceId
  agentId := x.agentId
  tool := x.toolName
  dropReason := reason.text
  intent := x.call.intent.value
  entityId := x.call.entityId
  requestId := x.requestId
  traceId := x.traceId
  actorId := x.actorId

def outcome (x : DispatchRequest) (status : DispatchStatus) (rowId : Option String) :
    DispatchOutcome :=
  ⟨status, x.agentId, x.workspaceId, x.toolName, rowId⟩

/-- What is executed when both gates let the call through. -/
def execution (x : DispatchRequest) : Option ToolRequest :=
  x.executor.map fun executor =>
    ⟨x.call, x.workspaceId, executor.requestedFractionBp, executor.hasWriter⟩

end DispatchRequest

/-- The scopes of the process and the tables it works on. -/
structure Agents where
  /-- `_AGENT_TOOL_SCOPES`, with no tools for an agent that has registered none -/
  scopes : String → List String
  /-- `ai.graduation`, by workspace, agent and tool -/
  graduation : String → String → String → GraduationStatus
  decisionLog : List LogRow
  world : World

/-! ### A dispatch -/

inductive DispatchPhase where
  | idle
  | inScope (x : DispatchRequest)
  | dropping (x : DispatchRequest) (reason : DropReason)
  | passed (x : DispatchRequest)
  /-- At the executor, whose call has this number. -/
  | executing (x : DispatchRequest) (number : Nat)
  | dropped (x : DispatchRequest) (reason : DropReason) (rowId : Option String)
  | dispatched (x : DispatchRequest)
  /-- The reader of the graduation raised. -/
  | unread (x : DispatchRequest)
  /-- The writer of the log raised, with or without its row in the log. -/
  | unlogged (x : DispatchRequest) (reason : DropReason) (rowId : Option String)
  /-- The executor raised. -/
  | broken (x : DispatchRequest)
deriving DecidableEq

/-- What the writer of the log does. -/
inductive LogAnswer where
  | stored (rowId : String)
  | refused
  /-- The row is stored and the answer does not arrive. -/
  | lost (rowId : String)
deriving DecidableEq

inductive DispatchEvent where
  | request (x : DispatchRequest)
  | readGraduation
  | writeLog (answer : LogAnswer)
  | execute
  /-- The executor's next access to the database. -/
  | tick (now : Int)
  | fail
deriving DecidableEq

/-- `_write_decision_log` -/
def writeDecisionLog (agents : Agents) (x : DispatchRequest) (reason : DropReason) :
    LogAnswer → Agents × DispatchPhase
  | .stored rowId =>
    ({ agents with decisionLog := agents.decisionLog ++ [⟨rowId, x.recommendation reason⟩] },
      .dropped x reason (some rowId))
  | .refused => (agents, .unlogged x reason none)
  | .lost rowId =>
    ({ agents with decisionLog := agents.decisionLog ++ [⟨rowId, x.recommendation reason⟩] },
      .unlogged x reason (some rowId))

/-- A new call of `execute_write_tool`. -/
def beginExecution (world : World) (request : ToolRequest) : World :=
  { world with executions := world.executions ++ [⟨request, .called⟩] }

def returned : Progress → Bool
  | .rejected _ | .executed _ _ _ => true
  | .called | .capRead _ | .granted _ _ | .recorded _ _ => false

/-- The executor has returned. -/
def finished (world : World) (number : Nat) : Bool :=
  world.executions[number]?.any (returned ·.progress)

/-- The steps of `dispatch_tool_call`. The result of the executor is not looked at. -/
def dispatchToolCall (caps : ActionCaps) (agents : Agents) :
    DispatchPhase → DispatchEvent → Agents × DispatchPhase
  | .idle, .request x =>
    if x.toolName ∈ agents.scopes x.agentId then (agents, .inScope x)
    else (agents, .dropping x .outOfScope)
  | .inScope x, .readGraduation =>
    if agents.graduation x.workspaceId x.agentId x.toolName = .graduated then (agents, .passed x)
    else (agents, .dropping x .notGraduated)
  | .inScope x, .fail => (agents, .unread x)
  | .dropping x reason, .writeLog answer =>
    if x.hasLogWriter then writeDecisionLog agents x reason answer
    else (agents, .dropped x reason none)
  | .passed x, .execute =>
    match x.execution with
    | none => (agents, .dispatched x)
    | some request =>
      ({ agents with world := beginExecution agents.world request },
        .executing x agents.world.executions.length)
  | .executing x number, .tick now =>
    let world := agents.world.step caps (number, now)
    ({ agents with world := world },
      if finished world number then .dispatched x else .executing x number)
  | .executing x _, .fail => (agents, .broken x)
  | phase, _ => (agents, phase)

/-- What a dispatch returns. -/
def DispatchPhase.result : DispatchPhase → Option DispatchOutcome
  | .dropped x reason rowId => some (x.outcome reason.status rowId)
  | .dispatched x => some (x.outcome .dispatched none)
  | _ => none

/-! ### Dispatches side by side -/

structure State where
  agents : Agents
  calls : Nat → DispatchPhase

inductive Event where
  /-- `register_agent_scope` -/
  | register (agentId : String) (scope : List String)
  | graduate (workspaceId agentId tool : String) (status : GraduationStatus)
  | call (c : Nat) (e : DispatchEvent)

def Event.callNumber : Event → Option Nat
  | .call c _ => some c
  | .register _ _ | .graduate _ _ _ _ => none

/-- The call whose executor goes on, and when. -/
def Event.tick : Event → Option (Nat × Int)
  | .call c (.tick now) => some (c, now)
  | _ => none

def registerAgentScope (agents : Agents) (agentId : String) (scope : List String) : Agents :=
  { agents with scopes := Function.update agents.scopes agentId scope }

def setGraduation (agents : Agents) (workspaceId agentId tool : String)
    (status : GraduationStatus) : Agents :=
  { agents with graduation := fun w a t =>
      if w = workspaceId ∧ a = agentId ∧ t = tool then status else agents.graduation w a t }

def step (caps : ActionCaps) (s : State) : Event → State
  | .register agentId scope => { s with agents := registerAgentScope s.agents agentId scope }
  | .graduate workspaceId agentId tool status =>
    { s with agents := setGraduation s.agents workspaceId agentId tool status }
  | .call c e =>
    ⟨(dispatchToolCall caps s.agents (s.calls c) e).1,
      Function.update s.calls c (dispatchToolCall caps s.agents (s.calls c) e).2⟩

/-- Nothing is dispatched yet. -/
def start (scopes : String → List String)
    (graduation : String → String → String → GraduationStatus) (decisionLog : List LogRow) :
    State :=
  ⟨⟨scopes, graduation, decisionLog, World.start []⟩, fun _ => .idle⟩

/-! ### What a dispatch has read -/

section

variable (c : Nat) (x : DispatchRequest)

/-- The dispatch is asked for, with the tool in the agent's scope or not. -/
def ScopeRead (found : Bool) (s : State) (e : Event) : Prop :=
  e = .call c (.request x) ∧ decide (x.toolName ∈ s.agents.scopes x.agentId) = found

/-- The dispatch reads the graduation. -/
def GraduationRead (found : Bool) (s : State) (e : Event) : Prop :=
  e = .call c .readGraduation ∧
    decide (s.agents.graduation x.workspaceId x.agentId x.toolName = .graduated) = found

/-- The dispatch calls the executor. -/
def Executes (_ : State) (e : Event) : Prop := e = .call c .execute

variable (moment : (State → Event → Prop) → Nat → Prop)

/-- What was found at the gates when a call is refused. -/
def Refused : DropReason → Prop
  | .outOfScope => ∃ m, moment (ScopeRead c x false) m
  | .notGraduated => ∃ m n, m < n ∧ moment (ScopeRead c x true) m ∧ moment (GraduationRead c x false) n

/-- Both gates let the call through. -/
def Passed (n : Nat) : Prop :=
  ∃ m, m < n ∧ moment (ScopeRead c x true) m ∧ moment (GraduationRead c x true) n

end

/-- What a dispatch knows at each of its steps. -/
def Justified (moment : (State → Event → Prop) → Nat → Prop) (c : Nat) : DispatchPhase → Prop
  | .idle => True
  | .inScope x | .unread x => ∃ m, moment (ScopeRead c x true) m
  | .dropping x reason | .dropped x reason _ | .unlogged x reason _ => Refused c x moment reason
  | .passed x => ∃ n, Passed c x moment n
  | .executing x _ | .dispatched x | .broken x =>
    ∃ n k, n < k ∧ Passed c x moment n ∧ moment (Executes c) k

/-- What a dispatch has passed to the executor. -/
def started : DispatchPhase → Option ToolRequest
  | .executing x _ | .dispatched x | .broken x => x.execution
  | _ => none

/-- What a dispatch has put into the decision log. -/
def logged : DispatchPhase → Option LogRow
  | .dropped x reason (some rowId) | .unlogged x reason (some rowId) =>
    some ⟨rowId, x.recommendation reason⟩
  | _ => none

/-- The moments of a run before a step, and with it. -/
structure Extends (s : State) (e : Event) (moment moment' : (State → Event → Prop) → Nat → Prop)
    (length : Nat) : Prop where
  lt : ∀ P n, moment P n → n < length
  keeps : ∀ P n, moment P n → moment' P n
  now : ∀ P : State → Event → Prop, P s e → moment' P length

section

variable {caps : ActionCaps} {s : State} {c : Nat} {x : DispatchRequest} {reason : DropReason}
  {phase : DispatchPhase} {e : Event} {moment moment' : (State → Event → Prop) → Nat → Prop}
  {length : Nat}

theorem Refused.mono (hkeeps : ∀ P n, moment P n → moment' P n)
    (h : Refused c x moment reason) : Refused c x moment' reason := by
  cases reason with
  | outOfScope =>
    obtain ⟨m, hm⟩ := h
    exact ⟨m, hkeeps _ _ hm⟩
  | notGraduated =>
    obtain ⟨m, n, hlt, hm, hn⟩ := h
    exact ⟨m, n, hlt, hkeeps _ _ hm, hkeeps _ _ hn⟩

theorem Passed.mono {n : Nat} (hkeeps : ∀ P n, moment P n → moment' P n)
    (h : Passed c x moment n) : Passed c x moment' n := by
  obtain ⟨m, hlt, hm, hn⟩ := h
  exact ⟨m, hlt, hkeeps _ _ hm, hkeeps _ _ hn⟩

theorem Justified.mono (hkeeps : ∀ P n, moment P n → moment' P n)
    (h : Justified moment c phase) : Justified moment' c phase := by
  cases phase with
  | idle => trivial
  | inScope x | unread x =>
    obtain ⟨m, hm⟩ := h
    exact ⟨m, hkeeps _ _ hm⟩
  | dropping x reason | dropped x reason rowId | unlogged x reason rowId =>
    exact Refused.mono hkeeps h
  | passed x =>
    obtain ⟨n, hn⟩ := h
    exact ⟨n, hn.mono hkeeps⟩
  | executing x number | dispatched x | broken x =>
    obtain ⟨n, k, hlt, hn, hk⟩ := h
    exact ⟨n, k, hlt, hn.mono hkeeps, hkeeps _ _ hk⟩

/-- A dispatch that steps knows what it has read. -/
theorem justified_advance {event : DispatchEvent}
    (hextends : Extends s (.call c event) moment moment' length)
    (h : Justified moment c phase) :
    Justified moment' c (dispatchToolCall caps s.agents phase event).2 := by
  have hold := h.mono hextends.keeps
  revert hextends h hold
  fun_cases dispatchToolCall caps s.agents phase event with
  | case1 x hscope =>
    intro hextends _ _
    exact ⟨length, hextends.now _ ⟨rfl, decide_eq_true hscope⟩⟩
  | case2 x hscope =>
    intro hextends _ _
    exact ⟨length, hextends.now _ ⟨rfl, decide_eq_false hscope⟩⟩
  | case3 x hgraduated =>
    rintro hextends ⟨m, hm⟩ _
    exact ⟨length, m, hextends.lt _ _ hm, hextends.keeps _ _ hm,
      hextends.now _ ⟨rfl, decide_eq_true hgraduated⟩⟩
  | case4 x hgraduated =>
    rintro hextends ⟨m, hm⟩ _
    exact ⟨m, length, hextends.lt _ _ hm, hextends.keeps _ _ hm,
      hextends.now _ ⟨rfl, decide_eq_false hgraduated⟩⟩
  | case5 x => exact fun _ _ hold => hold
  | case6 x reason answer hwriter =>
    intro _ _ hold
    cases answer <;> exact hold
  | case7 x reason answer hwriter => exact fun _ _ hold => hold
  | case8 x hnone =>
    rintro hextends ⟨n, hn⟩ ⟨-, hold⟩
    obtain ⟨m, hlt, hm, hread⟩ := hn
    exact ⟨n, length, hextends.lt _ _ hread, Passed.mono hextends.keeps ⟨m, hlt, hm, hread⟩,
      hextends.now _ rfl⟩
  | case9 x request hrequest =>
    rintro hextends ⟨n, hn⟩ ⟨-, hold⟩
    obtain ⟨m, hlt, hm, hread⟩ := hn
    exact ⟨n, length, hextends.lt _ _ hread, Passed.mono hextends.keeps ⟨m, hlt, hm, hread⟩,
      hextends.now _ rfl⟩
  | case10 x number now =>
    intro _ _ hold
    dsimp only
    split
    · exact hold
    · exact hold
  | case11 x number => exact fun _ _ hold => hold
  | case12 phase event => exact fun _ _ hold => hold

theorem justified_step (hextends : Extends s e moment moment' length)
    (h : ∀ c, Justified moment c (s.calls c)) (c : Nat) :
    Justified moment' c ((step caps s e).calls c) := by
  cases e with
  | register agentId scope => exact (h c).mono hextends.keeps
  | graduate workspaceId agentId tool status => exact (h c).mono hextends.keeps
  | call i event =>
    simp only [step]
    by_cases hc : c = i
    · subst hc
      rw [Function.update_self]
      exact justified_advance hextends (h c)
    · rw [Function.update_of_ne hc]
      exact (h c).mono hextends.keeps

end

/-! ### Runs -/

section

variable {caps : ActionCaps} {scopes : String → List String}
  {graduation : String → String → String → GraduationStatus} {decisionLog : List LogRow}

theorem justified_run (run : List Event) (c : Nat) :
    Justified (At (step caps) · (start scopes graduation decisionLog) run) c
      ((exec (step caps) (start scopes graduation decisionLog) run).calls c) := by
  induction run using List.reverseRecOn generalizing c with
  | nil => trivial
  | append_singleton run e ih =>
    have hextends : Extends (exec (step caps) (start scopes graduation decisionLog) run) e
        (At (step caps) · (start scopes graduation decisionLog) run)
        (At (step caps) · (start scopes graduation decisionLog) (run ++ [e])) run.length :=
      ⟨fun P n h => h.lt, fun P n h => h.append [e], fun P h => at_length h⟩
    rw [exec_append, exec_cons, exec_nil]
    exact justified_step hextends ih c

end

/-! ### The world and the log -/

theorem requests_step (caps : ActionCaps) (world : World) (input : Nat × Int) :
    (world.step caps input).executions.map (·.request) = world.executions.map (·.request) := by
  unfold World.step
  cases hi : world.executions[input.1]? with
  | none => rfl
  | some e =>
    obtain ⟨hlt, he⟩ := List.getElem?_eq_some_iff.mp hi
    have hlength : input.1 < (world.executions.map (·.request)).length := by
      rwa [List.length_map]
    have hsame : (world.executions.map (·.request))[input.1] = e.request := by
      rw [List.getElem_map, he]
    dsimp only
    rw [List.map_set, ← hsame]
    exact List.set_getElem_self hlength

/-- What a step adds to the executions and to the log, its call now has. -/
structure Adds (agents : Agents) (phase : DispatchPhase) (out : Agents × DispatchPhase) : Prop where
  executions : out.1.world.executions.map (·.request) = agents.world.executions.map (·.request) ∧
      started out.2 = started phase ∨
    ∃ request, out.1.world.executions.map (·.request) =
        agents.world.executions.map (·.request) ++ [request] ∧
      started phase = none ∧ started out.2 = some request
  decisionLog : out.1.decisionLog = agents.decisionLog ∧ logged out.2 = logged phase ∨
    ∃ row, out.1.decisionLog = agents.decisionLog ++ [row] ∧
      logged phase = none ∧ logged out.2 = some row

theorem adds_advance (caps : ActionCaps) (agents : Agents) (phase : DispatchPhase)
    (event : DispatchEvent) : Adds agents phase (dispatchToolCall caps agents phase event) := by
  fun_cases dispatchToolCall caps agents phase event with
  | case1 x hscope => exact ⟨Or.inl ⟨rfl, rfl⟩, Or.inl ⟨rfl, rfl⟩⟩
  | case2 x hscope => exact ⟨Or.inl ⟨rfl, rfl⟩, Or.inl ⟨rfl, rfl⟩⟩
  | case3 x hgraduated => exact ⟨Or.inl ⟨rfl, rfl⟩, Or.inl ⟨rfl, rfl⟩⟩
  | case4 x hgraduated => exact ⟨Or.inl ⟨rfl, rfl⟩, Or.inl ⟨rfl, rfl⟩⟩
  | case5 x => exact ⟨Or.inl ⟨rfl, rfl⟩, Or.inl ⟨rfl, rfl⟩⟩
  | case6 x reason answer hwriter =>
    cases answer with
    | stored rowId => exact ⟨Or.inl ⟨rfl, rfl⟩, Or.inr ⟨_, rfl, rfl, rfl⟩⟩
    | refused => exact ⟨Or.inl ⟨rfl, rfl⟩, Or.inl ⟨rfl, rfl⟩⟩
    | lost rowId => exact ⟨Or.inl ⟨rfl, rfl⟩, Or.inr ⟨_, rfl, rfl, rfl⟩⟩
  | case7 x reason answer hwriter => exact ⟨Or.inl ⟨rfl, rfl⟩, Or.inl ⟨rfl, rfl⟩⟩
  | case8 x hnone => exact ⟨Or.inl ⟨rfl, hnone⟩, Or.inl ⟨rfl, rfl⟩⟩
  | case9 x request hrequest =>
    refine ⟨Or.inr ⟨request, ?_, rfl, hrequest⟩, Or.inl ⟨rfl, rfl⟩⟩
    simp only [beginExecution, List.map_append, List.map_cons, List.map_nil]
  | case10 x number now =>
    have hrequests := requests_step caps agents.world (number, now)
    split
    · exact ⟨Or.inl ⟨hrequests, rfl⟩, Or.inl ⟨rfl, rfl⟩⟩
    · exact ⟨Or.inl ⟨hrequests, rfl⟩, Or.inl ⟨rfl, rfl⟩⟩
  | case11 x number => exact ⟨Or.inl ⟨rfl, rfl⟩, Or.inl ⟨rfl, rfl⟩⟩
  | case12 phase event => exact ⟨Or.inl ⟨rfl, rfl⟩, Or.inl ⟨rfl, rfl⟩⟩

/-- The executions and the new rows of the log are the shares of the calls. -/
structure Shared (decisionLog : List LogRow) (bound : Nat) (s : State) : Prop where
  executions : (s.agents.world.executions.map (·.request)).Perm
    (Interleave.shares started s.calls bound)
  decisionLog : s.agents.decisionLog.Perm
    (decisionLog ++ Interleave.shares logged s.calls bound)

theorem shared_step {caps : ActionCaps} {decisionLog : List LogRow} {bound : Nat} {s : State}
    (h : Shared decisionLog bound s) {e : Event} (hbound : ∀ c ∈ e.callNumber, c < bound) :
    Shared decisionLog bound (step caps s e) := by
  cases e with
  | register agentId scope => exact ⟨h.executions, h.decisionLog⟩
  | graduate workspaceId agentId tool status => exact ⟨h.executions, h.decisionLog⟩
  | call c event =>
    have hc : c < bound := hbound c rfl
    have hadds := adds_advance caps s.agents (s.calls c) event
    constructor
    · simp only [step]
      rcases hadds.executions with ⟨hsame, hshare⟩ | ⟨request, hnew, hnone, hshare⟩
      · rw [hsame, Interleave.shares_same hshare]
        exact h.executions
      · rw [hnew]
        have hperm := (h.executions.append_right [request]).trans
          (List.perm_append_singleton request _)
        exact hperm.trans (Interleave.shares_new hc hnone hshare).symm
    · simp only [step]
      rcases hadds.decisionLog with ⟨hsame, hshare⟩ | ⟨row, hnew, hnone, hshare⟩
      · rw [hsame, Interleave.shares_same hshare]
        exact h.decisionLog
      · rw [hnew]
        have hperm := (h.decisionLog.append_right [row]).trans
          (List.perm_append_singleton row _)
        have hshares := (Interleave.shares_new hc hnone hshare).symm.append_left decisionLog
        exact hperm.trans (List.perm_middle.symm.trans hshares)

/-- The calls of a run are numbered below a bound. -/
def Numbered (bound : Nat) (run : List Event) : Prop :=
  ∀ e ∈ run, ∀ c ∈ e.callNumber, c < bound

instance decidableNumbered (bound : Nat) (run : List Event) : Decidable (Numbered bound run) :=
  inferInstanceAs (Decidable (∀ e ∈ run, ∀ c ∈ e.callNumber, c < bound))

section

variable {caps : ActionCaps} {scopes : String → List String}
  {graduation : String → String → String → GraduationStatus} {decisionLog : List LogRow}
  {bound : Nat} {run : List Event}

theorem shared_run (hbound : Numbered bound run) :
    Shared decisionLog bound (exec (step caps) (start scopes graduation decisionLog) run) := by
  have hstart : Shared decisionLog bound (start scopes graduation decisionLog) := by
    constructor
    · rw [Interleave.shares_none fun _ => rfl]
      exact List.Perm.nil
    · rw [Interleave.shares_none fun _ => rfl, List.append_nil]
      exact List.Perm.refl _
  have hruns : Always (step caps) (Shared decisionLog bound)
      (start scopes graduation decisionLog) run :=
    always_of_step (fun _ _ h hnumber => shared_step h hnumber) hstart
      (allowed_of_forall (fun _ e he => hbound e he) _)
  exact hruns.last

/-- The executions are those of dispatches, one for each, whose tool was found in the agent's
scope when the dispatch was asked for, and graduated after that, before the executor was called. -/
theorem dispatch_guarded (hbound : Numbered bound run) :
    let start := start scopes graduation decisionLog
    let s := exec (step caps) start run
    (s.agents.world.executions.map (·.request)).Perm (Interleave.shares started s.calls bound) ∧
      ∀ c request, started (s.calls c) = some request → ∃ x m n k, x.execution = some request ∧
        m < n ∧ n < k ∧ At (step caps) (ScopeRead c x true) start run m ∧
        At (step caps) (GraduationRead c x true) start run n ∧
        At (step caps) (Executes c) start run k := by
  intro start s
  refine ⟨(shared_run hbound).executions, fun c request hstarted => ?_⟩
  have hjustified : Justified (At (step caps) · start run) c (s.calls c) := justified_run run c
  cases hphase : s.calls c with
  | executing x number | dispatched x | broken x =>
    rw [hphase] at hstarted hjustified
    obtain ⟨n, k, hk, ⟨m, hm, hscope, hread⟩, hexecutes⟩ := hjustified
    exact ⟨x, m, n, k, hstarted, hm, hk, hscope, hread, hexecutes⟩
  | idle | inScope | unread | dropping | dropped | unlogged | passed =>
    rw [hphase] at hstarted
    cases hstarted

/-- Only a dispatch without a writer drops its call without a row. -/
def Logs : DispatchPhase → Prop
  | .dropped x _ none => x.hasLogWriter = false
  | _ => True

theorem logs_advance {agents : Agents} {phase : DispatchPhase} (h : Logs phase)
    (event : DispatchEvent) : Logs (dispatchToolCall caps agents phase event).2 := by
  revert h
  fun_cases dispatchToolCall caps agents phase event with
  | case6 x reason answer hwriter =>
    intro _
    cases answer <;> trivial
  | case7 x reason answer hwriter => exact fun _ => Bool.eq_false_iff.mpr hwriter
  | case10 x number now =>
    intro _
    split <;> trivial
  | case12 phase event => exact id
  | case1 | case2 | case3 | case4 | case5 | case8 | case9 | case11 => exact fun _ => trivial

theorem logs_run (run : List Event) (c : Nat) :
    Logs ((exec (step caps) (start scopes graduation decisionLog) run).calls c) := by
  induction run using List.reverseRecOn generalizing c with
  | nil => trivial
  | append_singleton run e ih =>
    rw [exec_append, exec_cons, exec_nil]
    cases e with
    | register agentId scope => exact ih c
    | graduate workspaceId agentId tool status => exact ih c
    | call i event =>
      simp only [step]
      by_cases hc : c = i
      · subst hc
        rw [Function.update_self]
        exact logs_advance (ih c) event
      · rw [Function.update_of_ne hc]
        exact ih c

theorem Refused.lt {c : Nat} {x : DispatchRequest} {reason : DropReason} {s : State}
    (hbound : Numbered bound run) (h : Refused c x (At (step caps) · s run) reason) :
    c < bound := by
  have hread : ∀ found m, At (step caps) (ScopeRead c x found) s run m → c < bound := by
    rintro found m ⟨e, he, rfl, -⟩
    exact hbound _ (List.mem_of_getElem? he) c rfl
  cases reason with
  | outOfScope =>
    obtain ⟨m, hm⟩ := h
    exact hread _ m hm
  | notGraduated =>
    obtain ⟨m, n, -, hm, -⟩ := h
    exact hread _ m hm

/-- The new rows of the decision log are those of dispatches that a gate has refused, one for
each, with the reason and what was asked for; and a dropped call that has a writer has a row. -/
theorem drops_logged (hbound : Numbered bound run) :
    let start := start scopes graduation decisionLog
    let s := exec (step caps) start run
    s.agents.decisionLog.Perm (decisionLog ++ Interleave.shares logged s.calls bound) ∧
      (∀ c row, logged (s.calls c) = some row → started (s.calls c) = none ∧
        ∃ x reason, row.row = x.recommendation reason ∧
          Refused c x (At (step caps) · start run) reason) ∧
      ∀ c x reason rowId, s.calls c = .dropped x reason rowId → x.hasLogWriter = true →
        ∃ id, rowId = some id ∧ ⟨id, x.recommendation reason⟩ ∈ s.agents.decisionLog := by
  intro start s
  have hperm : s.agents.decisionLog.Perm (decisionLog ++ Interleave.shares logged s.calls bound) :=
    (shared_run hbound).decisionLog
  refine ⟨hperm, fun c row hlogged => ?_, fun c x reason rowId hphase hwriter => ?_⟩
  · have hjustified : Justified (At (step caps) · start run) c (s.calls c) := justified_run run c
    revert hlogged hjustified
    fun_cases logged (s.calls c) with
    | case1 x reason rowId | case2 x reason rowId =>
      rintro ⟨⟩ hjustified
      exact ⟨rfl, x, reason, rfl, hjustified⟩
    | case3 phase => exact fun hlogged => by cases hlogged
  · have hjustified : Justified (At (step caps) · start run) c (s.calls c) := justified_run run c
    have hlogs : Logs (s.calls c) := logs_run run c
    rw [hphase] at hjustified hlogs
    cases rowId with
    | none => exact absurd hwriter (Bool.eq_false_iff.mp hlogs)
    | some id =>
      have hc : c < bound := Refused.lt hbound hjustified
      have hmem : (⟨id, x.recommendation reason⟩ : LogRow) ∈
          Interleave.shares logged s.calls bound := by
        refine Interleave.mem_shares.mpr ⟨c, hc, ?_⟩
        rw [hphase]
        rfl
      exact ⟨id, rfl, hperm.mem_iff.mpr (List.mem_append_right _ hmem)⟩

end

/-! ### The caps -/

theorem total_begin (world : World) (request : ToolRequest)
    {part : Execution → Option (DayKey × Int)} (hnone : part ⟨request, .called⟩ = none)
    (key : DayKey) : (beginExecution world request).total part key = world.total part key := by
  simp only [beginExecution, World.total, List.map_append, List.map_cons, List.map_nil,
    List.sum_append, hnone, amountOn, List.sum_cons, List.sum_nil, add_zero]

theorem sound_begin {caps : ActionCaps} {world : World} (h : world.Sound caps)
    (request : ToolRequest) : (beginExecution world request).Sound caps := by
  have hmem : ∀ e ∈ (beginExecution world request).executions,
      e ∈ world.executions ∨ e = ⟨request, .called⟩ := by
    intro e he
    exact (List.mem_append.mp he).imp_right List.mem_singleton.mp
  constructor
  · intro e he magnitudeMu hprogress
    rcases hmem e he with hold | rfl
    · exact h.capRead e hold magnitudeMu hprogress
    · cases hprogress
  · intro e he day magnitudeMu hprogress
    rcases hmem e he with hold | rfl
    · exact h.recorded e hold day magnitudeMu hprogress
    · cases hprogress
  · intro e he key magnitudeMu hthrough
    rcases hmem e he with hold | rfl
    · exact h.bounded e hold key magnitudeMu hthrough
    · cases hthrough
  · intro key
    rw [total_begin world request rfl]
    exact h.aggregates key
  · intro e he key magnitudeMu hthrough
    rw [total_begin world request rfl]
    rcases hmem e he with hold | rfl
    · exact h.capped e hold key magnitudeMu hthrough
    · cases hthrough

/-- The number of the call at the executor. -/
def DispatchPhase.number : DispatchPhase → Option Nat
  | .executing _ number => some number
  | _ => none

/-- A call at the executor reads the day's amount with nothing unwritten before it. -/
def ClearTick (caps : ActionCaps) (s : State) (e : Event) : Prop :=
  ∀ tick ∈ e.tick, ∀ number ∈ (s.calls tick.1).number, Clear caps s.agents.world (number, tick.2)

instance decidableClearTick (caps : ActionCaps) (s : State) (e : Event) :
    Decidable (ClearTick caps s e) :=
  inferInstanceAs (Decidable (∀ tick ∈ e.tick, ∀ number ∈ (s.calls tick.1).number,
    Clear caps s.agents.world (number, tick.2)))

theorem sound_step {caps : ActionCaps} {s : State} (h : s.agents.world.Sound caps) {e : Event}
    (hclear : ClearTick caps s e) : (step caps s e).agents.world.Sound caps := by
  cases e with
  | register agentId scope => exact h
  | graduate workspaceId agentId tool status => exact h
  | call c event =>
    simp only [step]
    generalize hphase : s.calls c = phase
    revert hphase
    fun_cases dispatchToolCall caps s.agents phase event with
    | case6 x reason answer hwriter =>
      intro _
      cases answer <;> exact h
    | case9 x request hrequest => exact fun _ => sound_begin h request
    | case10 x number now =>
      intro hphase
      have hnumber : number ∈ (s.calls c).number := by
        rw [hphase]
        rfl
      exact World.sound_step h (hclear (c, now) rfl number hnumber)
    | case1 | case2 | case3 | case4 | case5 | case7 | case8 | case11 | case12 => exact fun _ => h

/-- What is dispatched stays within the caps of its workspace, where no call reads the day's
amount while another has something unwritten for that day. -/
theorem dispatched_capped {caps : ActionCaps} {scopes : String → List String}
    {graduation : String → String → String → GraduationStatus} {decisionLog : List LogRow}
    {run : List Event}
    (h : Allowed (step caps) (ClearTick caps) (start scopes graduation decisionLog) run) :
    Always (step caps) (fun s => Capped caps s.agents.world)
      (start scopes graduation decisionLog) run := by
  have hsound : Always (step caps) (fun s => s.agents.world.Sound caps)
      (start scopes graduation decisionLog) run :=
    always_of_step (fun _ _ hs hclear => sound_step hs hclear) (World.sound_start caps []) h
  exact hsound.mono fun _ hs => hs.executedCapped

/-! ### An agent at work -/

def workRequest (tool : WriteToolName) : DispatchRequest :=
  ⟨"budget_agent", "w", ⟨tool, "set", .increase⟩, true, some ⟨10000, true⟩, "r", "t", "system"⟩

/-- One tool is graduated and executed, one is out of scope. -/
def work : List Event :=
  [.register "budget_agent" ["reallocate_budget"],
    .graduate "w" "budget_agent" "reallocate_budget" .graduated,
    .call 0 (.request (workRequest .reallocateBudget)), .call 1 (.request (workRequest .sendRefund)),
    .call 0 .readGraduation, .call 1 (.writeLog (.stored "d1")), .call 0 .execute,
    .call 0 (.tick 0), .call 0 (.tick 0), .call 0 (.tick 0), .call 0 (.tick 0)]

def beforeWork : State := start (fun _ => []) (fun _ _ _ => .pending) []

theorem dispatch_guarded_work : ∃ x m n k, x.execution = some increaseRequest ∧ m < n ∧ n < k ∧
    At (step exampleCaps) (ScopeRead 0 x true) beforeWork work m ∧
    At (step exampleCaps) (GraduationRead 0 x true) beforeWork work n ∧
    At (step exampleCaps) (Executes 0) beforeWork work k :=
  (dispatch_guarded (by decide : Numbered 2 work)).2 0 increaseRequest rfl

theorem drops_logged_work :
    ∃ id, some "d1" = some id ∧ (⟨id, (workRequest .sendRefund).recommendation .outOfScope⟩ : LogRow) ∈
      (exec (step exampleCaps) beforeWork work).agents.decisionLog :=
  (drops_logged (by decide : Numbered 2 work)).2.2 1 (workRequest .sendRefund) .outOfScope
    (some "d1") rfl rfl

end Dispatch

end BrainV2.Insight
