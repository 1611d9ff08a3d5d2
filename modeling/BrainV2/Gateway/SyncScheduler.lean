import BrainV2.Lib.Runs

/-!
# The loop of the sync scheduler

* `Scheduler`: the two variables of the module, the timers that are pending and the ticks in flight;
* `scheduleTick`, `startSyncScheduler`, `stopSyncScheduler`, `onTimeout`, `onTickDone`;
* `step`: a call, a timer that fires or a tick that ends, well or not;
* `OneLoop`, `StepRight`: what a step should leave, and when it may begin a tick;
* `Overlaps`: a tick ends where a timer of a later start is pending;
* `oneLoop_iff`: the runs in which each step is right.
-/

namespace BrainV2.Gateway.SyncScheduler

/-! ### The module -/

section

variable {α : Type}

/-- A call of `setTimeout` by its number, with what its closure polls. -/
structure Timer (α : Type) where
  id : Nat
  chain : α
deriving DecidableEq

structure Scheduler (α : Type) where
  /-- `_timeoutHandle`, which still names a timer that has fired -/
  timeoutHandle : Option Nat
  /-- `_tickInFlight` -/
  tickInFlight : Bool
  /-- The timers that are pending. -/
  timers : List (Timer α)
  /-- The ticks in flight, each under the timer that launched it. -/
  ticks : List (Timer α)
  nextId : Nat
  /-- The last call was of `startSyncScheduler`. -/
  started : Bool
deriving DecidableEq

def initial : Scheduler α where
  timeoutHandle := none
  tickInFlight := false
  timers := []
  ticks := []
  nextId := 0
  started := false

def scheduleTick (s : Scheduler α) (chain : α) : Scheduler α :=
  { s with
    timeoutHandle := some s.nextId
    timers := s.timers ++ [⟨s.nextId, chain⟩]
    nextId := s.nextId + 1 }

def startSyncScheduler (s : Scheduler α) (chain : α) : Scheduler α :=
  let s := { s with started := true }
  if s.timeoutHandle ≠ none then s else scheduleTick s chain

/-- `clearTimeout` does nothing to a timer that has fired. -/
def stopSyncScheduler (s : Scheduler α) : Scheduler α :=
  let s := { s with started := false }
  match s.timeoutHandle with
  | none => s
  | some id =>
    { s with timeoutHandle := none, timers := s.timers.filter fun timer => timer.id ≠ id }

/-- The callback of a timer, which is no longer pending. -/
def onTimeout (s : Scheduler α) (timer : Timer α) : Scheduler α :=
  let s := { s with timers := s.timers.filter fun other => other.id ≠ timer.id }
  if s.tickInFlight then scheduleTick s timer.chain
  else { s with tickInFlight := true, ticks := s.ticks ++ [timer] }

/-- The callback of `finally`. -/
def onTickDone (s : Scheduler α) (tick : Timer α) : Scheduler α :=
  let s := { s with
    ticks := s.ticks.filter fun other => other.id ≠ tick.id
    tickInFlight := false }
  if s.timeoutHandle ≠ none then scheduleTick s tick.chain else s

inductive Event (α : Type) where
  | start (chain : α)
  | stop
  | fire (id : Nat)
  | complete (id : Nat)

/-- Only a timer that is pending fires and only a tick in flight ends. -/
def step (s : Scheduler α) : Event α → Scheduler α
  | .start chain => startSyncScheduler s chain
  | .stop => stopSyncScheduler s
  | .fire id =>
    match s.timers.find? fun timer => timer.id = id with
    | some timer => onTimeout s timer
    | none => s
  | .complete id =>
    match s.ticks.find? fun tick => tick.id = id with
    | some tick => onTickDone s tick
    | none => s

/-! ### What the loop should be -/

structure OneLoop (s : Scheduler α) : Prop where
  ticks : s.ticks.length ≤ 1
  timers : s.timers.length ≤ 1
  alive : s.started = true → s.timers ≠ [] ∨ s.ticks ≠ []

structure StepRight (s : Scheduler α) (e : Event α) : Prop where
  next : OneLoop (step s e)
  /-- No tick begins after a stop. -/
  quiet : s.ticks.length < (step s e).ticks.length → s.started = true

/-- A tick ends that was in flight at the start which set the timer that is pending. -/
def Overlaps (s : Scheduler α) : Event α → Prop
  | .complete id => (∃ tick ∈ s.ticks, tick.id = id) ∧ s.timeoutHandle ≠ none ∧ s.timers ≠ []
  | _ => False

/-! ### The five phases -/

/-- What a loop that is one comes to. A stopped loop may have a tick left, and so may one that was
started again. -/
inductive OneChain : Scheduler α → Prop where
  | stopped (n : Nat) : OneChain ⟨none, false, [], [], n, false⟩
  | draining (tick : Timer α) (n : Nat) : OneChain ⟨none, true, [], [tick], n, false⟩
  | waiting (timer : Timer α) (n : Nat) : OneChain ⟨some timer.id, false, [timer], [], n, true⟩
  | running (id : Nat) (tick : Timer α) (n : Nat) : OneChain ⟨some id, true, [], [tick], n, true⟩
  | restarted (timer tick : Timer α) (n : Nat) :
      OneChain ⟨some timer.id, true, [timer], [tick], n, true⟩

theorem oneChain_initial : OneChain (initial : Scheduler α) := .stopped 0

variable {s : Scheduler α} {e : Event α}

theorem OneChain.oneLoop (h : OneChain s) : OneLoop s := by
  cases h with
  | stopped => exact ⟨Nat.zero_le 1, Nat.zero_le 1, fun hon => Bool.noConfusion hon⟩
  | draining => exact ⟨Nat.le_refl 1, Nat.zero_le 1, fun hon => Bool.noConfusion hon⟩
  | waiting => exact ⟨Nat.zero_le 1, Nat.le_refl 1, fun _ => .inl (List.cons_ne_nil _ _)⟩
  | running => exact ⟨Nat.le_refl 1, Nat.zero_le 1, fun _ => .inr (List.cons_ne_nil _ _)⟩
  | restarted => exact ⟨Nat.le_refl 1, Nat.le_refl 1, fun _ => .inl (List.cons_ne_nil _ _)⟩

/-! ### What each event does to a phase -/

theorem start_oneChain (h : OneChain s) (chain : α) : OneChain (startSyncScheduler s chain) := by
  cases h with
  | stopped n => exact .waiting ⟨n, chain⟩ (n + 1)
  | draining tick n => exact .restarted ⟨n, chain⟩ tick (n + 1)
  | waiting timer n => exact .waiting timer n
  | running id tick n => exact .running id tick n
  | restarted timer tick n => exact .restarted timer tick n

theorem filter_self (timer : Timer α) :
    [timer].filter (fun other => other.id ≠ timer.id) = [] := by
  simp

theorem find_singleton (timer : Timer α) (id : Nat) :
    [timer].find? (fun other => other.id = id) = if timer.id = id then some timer else none := by
  rw [List.find?_singleton]
  split <;> simp_all

/-- The timer of the handle is cleared, where it has not fired. -/
theorem stop_oneChain (h : OneChain s) : OneChain (stopSyncScheduler s) := by
  cases h with
  | stopped n => exact .stopped n
  | draining tick n => exact .draining tick n
  | waiting timer n =>
    simp only [stopSyncScheduler, filter_self]
    exact .stopped n
  | running id tick n => exact .draining tick n
  | restarted timer tick n =>
    simp only [stopSyncScheduler, filter_self]
    exact .draining tick n

/-- A timer launches its tick, or is set again beside the tick that is in flight. -/
theorem fire_oneChain (h : OneChain s) (id : Nat) : OneChain (step s (.fire id)) := by
  cases h with
  | stopped n => exact .stopped n
  | draining tick n => exact .draining tick n
  | waiting timer n =>
    rw [step, find_singleton]
    by_cases hid : timer.id = id
    · simp only [if_pos hid, onTimeout, filter_self]
      exact .running timer.id timer n
    · rw [if_neg hid]
      exact .waiting timer n
  | running handle tick n => exact .running handle tick n
  | restarted timer tick n =>
    rw [step, find_singleton]
    by_cases hid : timer.id = id
    · simp only [if_pos hid, onTimeout, filter_self]
      exact .restarted ⟨n, timer.chain⟩ tick (n + 1)
    · rw [if_neg hid]
      exact .restarted timer tick n

/-- A tick that ends sets the one timer, but in a loop that was started again. -/
theorem complete_oneChain (h : OneChain s) (id : Nat) (hok : ¬ Overlaps s (.complete id)) :
    OneChain (step s (.complete id)) := by
  cases h with
  | stopped n => exact .stopped n
  | draining tick n =>
    rw [step, find_singleton]
    by_cases hid : tick.id = id
    · simp only [if_pos hid, onTickDone, filter_self]
      exact .stopped n
    · rw [if_neg hid]
      exact .draining tick n
  | waiting timer n => exact .waiting timer n
  | running handle tick n =>
    rw [step, find_singleton]
    by_cases hid : tick.id = id
    · simp only [if_pos hid, onTickDone, filter_self]
      exact .waiting ⟨n, tick.chain⟩ (n + 1)
    · rw [if_neg hid]
      exact .running handle tick n
  | restarted timer tick n =>
    have hid : tick.id ≠ id := by
      intro hid
      exact hok ⟨⟨tick, List.mem_cons_self, hid⟩, Option.some_ne_none _, List.cons_ne_nil _ _⟩
    rw [step, find_singleton, if_neg hid]
    exact .restarted timer tick n

theorem step_oneChain (h : OneChain s) (hok : ¬ Overlaps s e) : OneChain (step s e) := by
  cases e with
  | start chain => exact start_oneChain h chain
  | stop => exact stop_oneChain h
  | fire id => exact fire_oneChain h id
  | complete id => exact complete_oneChain h id hok

/-- Two timers are pending after a step that overlaps. -/
theorem not_oneLoop_of_overlaps (h : OneChain s) (hbad : Overlaps s e) : ¬ OneLoop (step s e) := by
  cases e with
  | start | stop | fire => exact hbad.elim
  | complete id =>
    obtain ⟨⟨tick, htick, hid⟩, hhandle, htimers⟩ := hbad
    cases h with
    | stopped | draining | running => exact absurd rfl htimers
    | waiting => cases htick
    | restarted timer tick' n =>
      obtain rfl := List.mem_singleton.mp htick
      rw [step, find_singleton, if_pos hid]
      exact fun hone => absurd (show 2 ≤ 1 from hone.timers) (by decide)

/-- Only the timer of a started loop launches a tick. -/
theorem quiet_of_oneChain (h : OneChain s) (hbegins : s.ticks.length < (step s e).ticks.length) :
    s.started = true := by
  cases h with
  | waiting | running | restarted => rfl
  | stopped n =>
    cases e with
    | start | stop | fire | complete => exact absurd hbegins (Nat.lt_irrefl _)
  | draining tick n =>
    cases e with
    | start | stop | fire => exact absurd hbegins (Nat.lt_irrefl _)
    | complete id =>
      rw [step, find_singleton] at hbegins
      by_cases hid : tick.id = id
      · simp only [if_pos hid, onTickDone, filter_self] at hbegins
        exact absurd hbegins (Nat.not_lt_zero _)
      · rw [if_neg hid] at hbegins
        exact absurd hbegins (Nat.lt_irrefl _)

theorem stepRight_iff (h : OneChain s) : StepRight s e ↔ ¬ Overlaps s e := by
  constructor
  · intro hright hbad
    exact not_oneLoop_of_overlaps h hbad hright.next
  · intro hok
    exact ⟨(step_oneChain h hok).oneLoop, quiet_of_oneChain h⟩

theorem oneLoop_iff (events : List (Event α)) :
    Runs.Allowed step StepRight initial events ↔
      Runs.Allowed step (fun s e => ¬ Overlaps s e) initial events := by
  have hstep : ∀ (s : Scheduler α) (e : Event α), OneChain s → True →
      (StepRight s e ↔ ¬ Overlaps s e) := fun s e h _ => stepRight_iff h
  have hkeeps : ∀ (s : Scheduler α) (e : Event α), OneChain s → True → ¬ Overlaps s e →
      OneChain (step s e) := fun s e h _ hok => step_oneChain h hok
  apply Runs.allowed_iff_allowed hstep hkeeps oneChain_initial
  exact Runs.allowed_of_forall (fun _ _ _ => trivial) _

end

/-- The loop is stopped and started again under a slow tick. Both chains are then pending, and the
next stop clears one: the other launches a tick. -/
def slowTick : List (Event Unit) :=
  [.start (), .fire 0, .stop, .start (), .complete 0, .stop, .fire 1]

theorem slowTick_two_chains :
    (Runs.exec step initial (slowTick.take 5)).timers.length = 2 ∧
      (Runs.exec step initial (slowTick.take 6)).started = false ∧
      (Runs.exec step initial (slowTick.take 6)).ticks = [] ∧
      (Runs.exec step initial slowTick).ticks = [⟨1, ()⟩] ∧
      ¬ Runs.Allowed step StepRight initial slowTick := by
  refine ⟨by decide, by decide, by decide, by decide, ?_⟩
  rintro ⟨-, -, -, -, hcomplete, -⟩
  exact absurd hcomplete.next.timers (by decide)

end BrainV2.Gateway.SyncScheduler
