import BrainV2.Lib.Runs
import Mathlib

/-!
# Write tools

* `resolveMagnitude`: the amount of a call, from its intent and the cap of the workspace;
* `Execution`: a call of `execute_write_tool` between two of its accesses to the database;
* `World`: calls in progress over the amounts that are written for each day;
* `Capped`: what is executed stays within the caps;
* `capped_of_clear`: it does where a call reads the day's amount with nothing let through
  that is not yet written.
-/

namespace BrainV2.Insight

inductive WriteToolName where
  | pauseAdSet
  | reallocateBudget
  | sendRefund
deriving DecidableEq

inductive Intent where
  | pause
  | increase
  | decrease
deriving DecidableEq

structure WriteToolCall where
  tool : WriteToolName
  entityId : String
  intent : Intent
deriving DecidableEq

structure WorkspaceActionCap where
  perCallMaxMu : Int
  perDayMaxMu : Int

inductive ExecutionStatus where
  | executed
  | rejectedPerCallCap
  | rejectedPerDayCap
deriving DecidableEq

structure ExecutionResult where
  status : ExecutionStatus
  executedMagnitudeMu : Option Int
  workspaceId : String
  tool : WriteToolName
  entityId : String
  intent : Intent
deriving DecidableEq

/-- Nothing for a pause, else a fraction of the cap of one call, rounded down. -/
def resolveMagnitude (intent : Intent) (cap : WorkspaceActionCap) (requestedFractionBp : Int) :
    Int :=
  match intent with
  | .pause => 0
  | .increase | .decrease => (cap.perCallMaxMu * requestedFractionBp).fdiv 10000

/-! ### A call -/

/-- The arguments of a call. The readers of the cap and of the day's amount are those of `World`;
the writer may be left out. -/
structure ToolRequest where
  call : WriteToolCall
  workspaceId : String
  requestedFractionBp : Int
  hasWriter : Bool
deriving DecidableEq

/-- What an aggregate is kept for. Days are counted in UTC. -/
structure DayKey where
  workspaceId : String
  tool : WriteToolName
  day : Int
deriving DecidableEq

def utcDay (now : Int) : Int := now.fdiv 86400

inductive Progress where
  | called
  | capRead (magnitudeMu : Int)
  /-- Let through, with nothing written yet. -/
  | granted (day magnitudeMu : Int)
  | recorded (day magnitudeMu : Int)
  | rejected (result : ExecutionResult)
  | executed (day magnitudeMu : Int) (result : ExecutionResult)
deriving DecidableEq

structure Execution where
  request : ToolRequest
  progress : Progress
deriving DecidableEq

def ToolRequest.key (request : ToolRequest) (day : Int) : DayKey :=
  ⟨request.workspaceId, request.call.tool, day⟩

def ToolRequest.result (request : ToolRequest) (status : ExecutionStatus)
    (magnitudeMu : Option Int) : ExecutionResult :=
  ⟨status, magnitudeMu, request.workspaceId, request.call.tool, request.call.entityId,
    request.call.intent⟩

/-- The caps of `ai.workspace_action_cap`. -/
abbrev ActionCaps := String → WriteToolName → WorkspaceActionCap

def ActionCaps.of (caps : ActionCaps) (request : ToolRequest) : WorkspaceActionCap :=
  caps request.workspaceId request.call.tool

/-- The next access of a call, and what it writes. -/
def Execution.step (caps : ActionCaps) (dailyAggregate : DayKey → Int) (today : Int)
    (e : Execution) : Progress × List (DayKey × Int) :=
  let cap := caps.of e.request
  match e.progress with
  | .called =>
    let magnitudeMu := resolveMagnitude e.request.call.intent cap e.request.requestedFractionBp
    if cap.perCallMaxMu < magnitudeMu then
      (.rejected (e.request.result .rejectedPerCallCap none), [])
    else (.capRead magnitudeMu, [])
  | .capRead magnitudeMu =>
    if cap.perDayMaxMu < dailyAggregate (e.request.key today) + magnitudeMu then
      (.rejected (e.request.result .rejectedPerDayCap none), [])
    else (.granted today magnitudeMu, [])
  | .granted day magnitudeMu =>
    if e.request.hasWriter then
      (.recorded day magnitudeMu, [(e.request.key day, magnitudeMu)])
    else
      (.executed day magnitudeMu (e.request.result .executed (some magnitudeMu)), [])
  | .recorded day magnitudeMu =>
    (.executed day magnitudeMu (e.request.result .executed (some magnitudeMu)), [])
  | .rejected result => (.rejected result, [])
  | .executed day magnitudeMu result => (.executed day magnitudeMu result, [])

/-! ### Calls side by side -/

structure World where
  aggregates : List (DayKey × Int)
  executions : List Execution
deriving DecidableEq

def World.start (requests : List ToolRequest) : World := ⟨[], requests.map (⟨·, .called⟩)⟩

/-- The sum of the amounts written so far. -/
def World.dailyAggregate (world : World) (key : DayKey) : Int :=
  (world.aggregates.map fun entry => if entry.1 = key then entry.2 else 0).sum

/-- One call takes its next step, at a time in seconds. -/
def World.step (caps : ActionCaps) (world : World) (input : Nat × Int) : World :=
  match world.executions[input.1]? with
  | none => world
  | some e =>
    let (progress, written) := e.step caps world.dailyAggregate (utcDay input.2)
    ⟨world.aggregates ++ written, world.executions.set input.1 { e with progress := progress }⟩

namespace Execution

/-- What a call has been let through with, and for which day. -/
def letThrough (e : Execution) : Option (DayKey × Int) :=
  match e.progress with
  | .granted day magnitudeMu => some (e.request.key day, magnitudeMu)
  | .recorded day magnitudeMu => some (e.request.key day, magnitudeMu)
  | .executed day magnitudeMu _ => some (e.request.key day, magnitudeMu)
  | .called | .capRead _ | .rejected _ => none

/-- The part of it that is written. -/
def written (e : Execution) : Option (DayKey × Int) :=
  match e.progress with
  | .recorded day magnitudeMu => some (e.request.key day, magnitudeMu)
  | .executed day magnitudeMu _ =>
    if e.request.hasWriter then some (e.request.key day, magnitudeMu) else none
  | .called | .capRead _ | .granted _ _ | .rejected _ => none

/-- The part of it that is returned as executed. -/
def executed (e : Execution) : Option (DayKey × Int) :=
  match e.progress with
  | .executed day magnitudeMu _ => some (e.request.key day, magnitudeMu)
  | .called | .capRead _ | .granted _ _ | .recorded _ _ | .rejected _ => none

end Execution

/-- An amount, where it is for this key. -/
def amountOn (key : DayKey) : Option (DayKey × Int) → Int
  | none => 0
  | some (k, magnitudeMu) => if k = key then magnitudeMu else 0

/-- The amounts that a part of each call comes to. -/
def World.total (world : World) (part : Execution → Option (DayKey × Int)) (key : DayKey) : Int :=
  (world.executions.map fun e => amountOn key (part e)).sum

def DayKey.cap (key : DayKey) (caps : ActionCaps) : WorkspaceActionCap :=
  caps key.workspaceId key.tool

/-- Each executed amount is one the cap of a call allows, and those of a day stay within the
cap of the day. -/
def Capped (caps : ActionCaps) (world : World) : Prop :=
  ∀ e ∈ world.executions, ∀ key magnitudeMu, e.executed = some (key, magnitudeMu) →
    0 ≤ magnitudeMu ∧ magnitudeMu ≤ (key.cap caps).perCallMaxMu ∧
      world.total Execution.executed key ≤ (key.cap caps).perDayMaxMu

/-- The amount a call asks for when it reads the day's. -/
def Execution.asks (e : Execution) : Option Int :=
  match e.progress with
  | .capRead magnitudeMu => some magnitudeMu
  | .called | .granted _ _ | .recorded _ _ | .rejected _ | .executed _ _ _ => none

/-- A call that the day's amount lets through has an amount that is not negative, and what other
calls were let through with for that day is all written. -/
def Clear (caps : ActionCaps) (world : World) (input : Nat × Int) : Prop :=
  ∀ e ∈ world.executions[input.1]?, ∀ magnitudeMu ∈ e.asks,
    let key := e.request.key (utcDay input.2)
    world.dailyAggregate key + magnitudeMu ≤ (key.cap caps).perDayMaxMu →
      0 ≤ magnitudeMu ∧ ∀ other ∈ world.executions, ∀ amount ∈ other.letThrough,
        amount.1 = key → amount.2 = 0 ∨ other.written = some amount

instance (caps : ActionCaps) (world : World) (input : Nat × Int) :
    Decidable (Clear caps world input) := by
  unfold Clear
  infer_instance

/-! ### The invariant -/

structure World.Sound (caps : ActionCaps) (world : World) : Prop where
  capRead : ∀ e ∈ world.executions, ∀ magnitudeMu, e.progress = .capRead magnitudeMu →
    magnitudeMu ≤ (caps.of e.request).perCallMaxMu
  recorded : ∀ e ∈ world.executions, ∀ day magnitudeMu, e.progress = .recorded day magnitudeMu →
    e.request.hasWriter = true
  bounded : ∀ e ∈ world.executions, ∀ key magnitudeMu, e.letThrough = some (key, magnitudeMu) →
    0 ≤ magnitudeMu ∧ magnitudeMu ≤ (key.cap caps).perCallMaxMu
  aggregates : ∀ key, world.dailyAggregate key = world.total Execution.written key
  capped : ∀ e ∈ world.executions, ∀ key magnitudeMu, e.letThrough = some (key, magnitudeMu) →
    world.total Execution.letThrough key ≤ (key.cap caps).perDayMaxMu

variable {caps : ActionCaps} {world : World} {e : Execution} {key : DayKey}

theorem executed_letThrough {x : DayKey × Int} (h : e.executed = some x) :
    e.letThrough = some x := by
  unfold Execution.executed at h
  unfold Execution.letThrough
  cases hprogress : e.progress <;> simp_all

theorem written_letThrough {x : DayKey × Int} (h : e.written = some x) :
    e.letThrough = some x := by
  unfold Execution.written at h
  unfold Execution.letThrough
  cases hprogress : e.progress <;> simp_all

theorem total_executed_le (h : world.Sound caps) (key : DayKey) :
    world.total Execution.executed key ≤ world.total Execution.letThrough key := by
  apply List.sum_le_sum
  intro e he
  cases hexecuted : e.executed with
  | some x => rw [executed_letThrough hexecuted]
  | none =>
    cases hthrough : e.letThrough with
    | none => exact le_refl _
    | some x =>
      obtain ⟨k, magnitudeMu⟩ := x
      have hbound := (h.bounded e he k magnitudeMu hthrough).1
      simp only [amountOn]
      split <;> omega

/-- Executed amounts stay within the caps where those let through do. -/
theorem World.Sound.executedCapped (h : world.Sound caps) : Capped caps world := by
  intro e he key magnitudeMu hexecuted
  have hthrough := executed_letThrough hexecuted
  obtain ⟨hlow, hhigh⟩ := h.bounded e he key magnitudeMu hthrough
  have hday := h.capped e he key magnitudeMu hthrough
  have hle := total_executed_le h key
  exact ⟨hlow, hhigh, by omega⟩

/-- Where all that was let through is written, the written amounts are what was let through. -/
theorem total_letThrough_eq
    (h : ∀ other ∈ world.executions, ∀ amount ∈ other.letThrough,
      amount.1 = key → amount.2 = 0 ∨ other.written = some amount) :
    world.total Execution.letThrough key = world.total Execution.written key := by
  have hamount : ∀ other ∈ world.executions,
      amountOn key other.letThrough = amountOn key other.written := by
    intro other hother
    cases hwritten : other.written with
    | some x => rw [written_letThrough hwritten]
    | none =>
      cases hthrough : other.letThrough with
      | none => rfl
      | some amount =>
        by_cases hkey : amount.1 = key
        · cases h other hother amount hthrough hkey with
          | inl hzero => simp [amountOn, hzero]
          | inr hsome =>
            rw [hwritten] at hsome
            cases hsome
        · simp [amountOn, hkey]
  exact congrArg List.sum (List.map_congr_left hamount)

/-! ### One step -/

theorem total_set {i : Nat} (h : world.executions[i]? = some e) (progress : Progress)
    (aggregates : List (DayKey × Int)) (part : Execution → Option (DayKey × Int)) (key : DayKey) :
    World.total ⟨aggregates, world.executions.set i { e with progress := progress }⟩ part key =
      world.total part key - amountOn key (part e) +
        amountOn key (part { e with progress := progress }) := by
  obtain ⟨hlt, he⟩ := List.getElem?_eq_some_iff.mp h
  unfold World.total
  rw [List.map_set, List.sum_set', dif_pos (by rwa [List.length_map]), List.getElem_map, he]
  omega

theorem dailyAggregate_append (world : World) (written : List (DayKey × Int)) (key : DayKey) :
    World.dailyAggregate ⟨world.aggregates ++ written, world.executions⟩ key =
      world.dailyAggregate key + (written.map fun entry => amountOn key (some entry)).sum := by
  unfold World.dailyAggregate
  rw [List.map_append, List.sum_append]
  rfl

/-- What a step of one call has to keep. -/
structure Execution.Keeps (caps : ActionCaps) (world : World) (e : Execution)
    (progress : Progress) (written : List (DayKey × Int)) : Prop where
  capRead : ∀ magnitudeMu, progress = .capRead magnitudeMu →
    magnitudeMu ≤ (caps.of e.request).perCallMaxMu
  recorded : ∀ day magnitudeMu, progress = .recorded day magnitudeMu → e.request.hasWriter = true
  written : ∀ key, (written.map fun entry => amountOn key (some entry)).sum =
    amountOn key (Execution.written ⟨e.request, progress⟩) - amountOn key e.written
  /-- A call is let through once, with an amount that the caps allow. -/
  letThrough : e.letThrough = Execution.letThrough ⟨e.request, progress⟩ ∨
    e.letThrough = none ∧ ∃ key magnitudeMu,
      Execution.letThrough ⟨e.request, progress⟩ = some (key, magnitudeMu) ∧
        0 ≤ magnitudeMu ∧ magnitudeMu ≤ (key.cap caps).perCallMaxMu ∧
        world.total Execution.letThrough key + magnitudeMu ≤ (key.cap caps).perDayMaxMu

theorem World.Sound.set (h : world.Sound caps) {i : Nat} (hi : world.executions[i]? = some e)
    {progress : Progress} {written : List (DayKey × Int)}
    (hkeeps : e.Keeps caps world progress written) :
    World.Sound caps ⟨world.aggregates ++ written,
      world.executions.set i { e with progress := progress }⟩ := by
  have he : e ∈ world.executions := List.mem_of_getElem? hi
  have hmem : ∀ other ∈ world.executions.set i { e with progress := progress },
      other ∈ world.executions ∨ other = { e with progress := progress } :=
    fun other hother => List.mem_or_eq_of_mem_set hother
  constructor
  · intro other hother magnitudeMu hprogress
    cases hmem other hother with
    | inl hold => exact h.capRead other hold magnitudeMu hprogress
    | inr hnew =>
      rw [hnew] at hprogress ⊢
      exact hkeeps.capRead magnitudeMu hprogress
  · intro other hother day magnitudeMu hprogress
    cases hmem other hother with
    | inl hold => exact h.recorded other hold day magnitudeMu hprogress
    | inr hnew =>
      rw [hnew] at hprogress ⊢
      exact hkeeps.recorded day magnitudeMu hprogress
  · intro other hother key magnitudeMu hthrough
    cases hmem other hother with
    | inl hold => exact h.bounded other hold key magnitudeMu hthrough
    | inr hnew =>
      rw [hnew] at hthrough
      rcases hkeeps.letThrough with hsame | ⟨-, k, amount, hgranted, hlow, hhigh, -⟩
      · exact h.bounded e he key magnitudeMu (hsame.trans hthrough)
      · obtain ⟨rfl, rfl⟩ := Prod.mk.inj (Option.some.inj (hgranted.symm.trans hthrough))
        exact ⟨hlow, hhigh⟩
  · intro key
    have hold := h.aggregates key
    have hwritten := hkeeps.written key
    have hsum : World.dailyAggregate ⟨world.aggregates ++ written,
        world.executions.set i { e with progress := progress }⟩ key =
          world.dailyAggregate key + (written.map fun entry => amountOn key (some entry)).sum :=
      dailyAggregate_append world written key
    rw [hsum, total_set hi]
    omega
  · intro other hother key magnitudeMu hthrough
    rw [total_set hi]
    rcases hkeeps.letThrough with hsame | ⟨hnone, k, amount, hgranted, -, -, hday⟩
    · have hunchanged : world.total Execution.letThrough key ≤ (key.cap caps).perDayMaxMu := by
        cases hmem other hother with
        | inl hold => exact h.capped other hold key magnitudeMu hthrough
        | inr hnew =>
          rw [hnew] at hthrough
          exact h.capped e he key magnitudeMu (hsame.trans hthrough)
      rw [hsame]
      omega
    · rw [hnone, hgranted]
      by_cases hkey : k = key
      · rw [hkey] at hday
        simp only [amountOn, hkey, if_true]
        omega
      · have hold : other ∈ world.executions := by
          cases hmem other hother with
          | inl hold => exact hold
          | inr hnew =>
            rw [hnew, hgranted] at hthrough
            exact absurd (congrArg Prod.fst (Option.some.inj hthrough)) hkey
        have hunchanged := h.capped other hold key magnitudeMu hthrough
        simp only [amountOn, hkey, if_false]
        omega

/-- Every step of a call keeps the invariant, when what it reads is all that was let through. -/
theorem Execution.step_keeps (h : world.Sound caps) {input : Nat × Int}
    (hi : world.executions[input.1]? = some e) (hclear : Clear caps world input) :
    e.Keeps caps world (e.step caps world.dailyAggregate (utcDay input.2)).1
      (e.step caps world.dailyAggregate (utcDay input.2)).2 := by
  have he : e ∈ world.executions := List.mem_of_getElem? hi
  obtain ⟨request, progress⟩ := e
  cases progress with
  | called =>
    simp only [Execution.step]
    split
    · exact ⟨by simp, by simp, by simp [Execution.written, amountOn], Or.inl rfl⟩
    · next hmax =>
      refine ⟨?_, by simp, by simp [Execution.written, amountOn], Or.inl rfl⟩
      intro magnitudeMu hprogress
      rw [← Progress.capRead.inj hprogress]
      exact not_lt.mp hmax
  | capRead magnitudeMu =>
    simp only [Execution.step]
    split
    · exact ⟨by simp, by simp, by simp [Execution.written, amountOn], Or.inl rfl⟩
    · next hday =>
      refine ⟨by simp, by simp, by simp [Execution.written, amountOn], Or.inr ⟨rfl, _, _, rfl, ?_⟩⟩
      have hcap := h.capRead _ he magnitudeMu rfl
      obtain ⟨hlow, hwritten⟩ := hclear _ hi magnitudeMu rfl (not_lt.mp hday)
      refine ⟨hlow, hcap, ?_⟩
      rw [total_letThrough_eq hwritten, ← h.aggregates]
      exact not_lt.mp hday
  | granted day magnitudeMu =>
    simp only [Execution.step]
    split
    · next hwriter =>
      exact ⟨by simp, fun _ _ _ => hwriter, by simp [Execution.written, amountOn], Or.inl rfl⟩
    · next hwriter =>
      exact ⟨by simp, by simp, by simp [Execution.written, amountOn, hwriter], Or.inl rfl⟩
  | recorded day magnitudeMu =>
    have hwriter : request.hasWriter = true := h.recorded _ he day magnitudeMu rfl
    exact ⟨by simp [Execution.step], by simp [Execution.step],
      by simp [Execution.step, Execution.written, hwriter], Or.inl rfl⟩
  | rejected result =>
    exact ⟨by simp [Execution.step], by simp [Execution.step],
      by simp [Execution.step, Execution.written], Or.inl rfl⟩
  | executed day magnitudeMu result =>
    exact ⟨by simp [Execution.step], by simp [Execution.step],
      by simp [Execution.step, Execution.written], Or.inl rfl⟩

theorem World.sound_step (h : world.Sound caps) {input : Nat × Int}
    (hclear : Clear caps world input) : (world.step caps input).Sound caps := by
  unfold World.step
  cases hi : world.executions[input.1]? with
  | none => exact h
  | some e => exact h.set hi (Execution.step_keeps h hi hclear)

theorem World.sound_start (caps : ActionCaps) (requests : List ToolRequest) :
    (World.start requests).Sound caps := by
  have hcalled : ∀ e ∈ (World.start requests).executions, e.progress = .called := by
    intro e he
    obtain ⟨request, -, rfl⟩ := List.mem_map.mp he
    rfl
  have hnothing : ∀ e ∈ (World.start requests).executions, e.letThrough = none := by
    intro e he
    rw [Execution.letThrough, hcalled e he]
  constructor
  · intro e he magnitudeMu hprogress
    rw [hcalled e he] at hprogress
    cases hprogress
  · intro e he day magnitudeMu hprogress
    rw [hcalled e he] at hprogress
    cases hprogress
  · intro e he key magnitudeMu hthrough
    rw [hnothing e he] at hthrough
    cases hthrough
  · intro key
    have hzero : ∀ amount ∈ (World.start requests).executions.map
        (fun e => amountOn key e.written), amount = 0 := by
      intro amount hamount
      obtain ⟨e, he, rfl⟩ := List.mem_map.mp hamount
      rw [Execution.written, hcalled e he]
      rfl
    exact (List.sum_eq_zero hzero).symm
  · intro e he key magnitudeMu hthrough
    rw [hnothing e he] at hthrough
    cases hthrough

/-- Calls that read the day's amount with nothing unwritten before them stay within the caps,
however their steps interleave. -/
theorem capped_of_clear (caps : ActionCaps) (requests : List ToolRequest)
    (inputs : List (Nat × Int))
    (h : Runs.Allowed (World.step caps) (Clear caps) (World.start requests) inputs) :
    Runs.Always (World.step caps) (Capped caps) (World.start requests) inputs := by
  have hsound : Runs.Always (World.step caps) (World.Sound caps) (World.start requests) inputs :=
    Runs.always_of_step (fun world input hsound hclear => World.sound_step hsound hclear)
      (World.sound_start caps requests) h
  exact hsound.mono fun world hworld => hworld.executedCapped

/-! ### Two calls at once -/

/-- A hundred for a call, a hundred and fifty for a day. -/
def exampleCaps : ActionCaps := fun _ _ => ⟨100, 150⟩

def increaseRequest : ToolRequest := ⟨⟨.reallocateBudget, "set", .increase⟩, "w", 10000, true⟩

def pauseRequest : ToolRequest := ⟨⟨.reallocateBudget, "set", .pause⟩, "w", 10000, true⟩

/-- Two calls one after the other, the second of no amount. -/
theorem sequential_capped :
    Runs.Always (World.step exampleCaps) (Capped exampleCaps)
      (World.start [increaseRequest, pauseRequest])
      [(0, 0), (0, 0), (0, 0), (0, 0), (1, 0), (1, 0), (1, 0), (1, 0)] := by
  apply capped_of_clear
  refine ⟨?_, ?_, ?_, ?_, ?_, ?_, ?_, ?_, trivial⟩ <;> decide

/-- Two calls read the day's amount before either writes: two hundred are executed. -/
theorem concurrent_calls_exceed :
    ¬ Runs.Always (World.step exampleCaps) (Capped exampleCaps)
      (World.start [increaseRequest, increaseRequest])
      [(0, 0), (1, 0), (0, 0), (1, 0), (0, 0), (1, 0), (0, 0), (1, 0)] := by
  intro h
  have hlast := h.last
  obtain ⟨-, -, hday⟩ := hlast ⟨increaseRequest, .executed 0 100
    (increaseRequest.result .executed (some 100))⟩ (by decide) ⟨"w", .reallocateBudget, 0⟩ 100 rfl
  revert hday
  decide

end BrainV2.Insight
