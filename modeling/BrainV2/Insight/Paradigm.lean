import BrainV2.Insight.Gateway

/-!
# Cost tiers on the call stack

* `assertLlmTierAtGateway`: the gate of the gateway, which reads the active tier;
* `Program`: nested calls of decorated functions, with exceptions raised and caught;
* `run`: what becomes of a program, and of the active tier;
* `Event.Good`: a gateway call that passes has no deterministic function on its stack, and a
  decorated call leaves the active tier as it was;
* `good_iff_covered`: the programs that are good at every event.
-/

namespace BrainV2.Insight

open Py

inductive Tier where
  | sql
  | ml
  | smallLlm
  | frontierLlm
deriving DecidableEq

def Tier.label : Tier → String
  | .sql => "sql"
  | .ml => "ml"
  | .smallLlm => "small_llm"
  | .frontierLlm => "frontier_llm"

def Tier.isLlm : Tier → Bool
  | .sql | .ml => false
  | .smallLlm | .frontierLlm => true

/-- `_active_paradigm`: without a tier it is unset. -/
abbrev ActiveParadigm := Option Tier

def ActiveParadigm.label : ActiveParadigm → String
  | none => "__unset__"
  | some tier => tier.label

/-- What a program can raise. -/
inductive Raised where
  | paradigmViolation (activeTier fnName : String)
  | other (e : PyExc)
deriving DecidableEq

def Raised.exc : Raised → PyExc
  | .paradigmViolation activeTier fnName =>
    let detail := if fnName = "" then "" else " (in '" ++ fnName ++ "')"
    ⟨.other "ParadigmViolation" false, "ParadigmViolation: tier '" ++ activeTier ++ "'" ++ detail ++
      " may NOT reach the LLM gateway dispatch boundary. Only 'small_llm' and 'frontier_llm' " ++
      "tiers are permitted to call GatewayClient.complete(). CF-C5-PARADIGM-IMPL-1."⟩
  | .other e => e

def assertLlmTierAtGateway (active : ActiveParadigm) : Except Raised Unit :=
  if active.any Tier.isLlm then .ok () else .error (.paradigmViolation active.label "")

/-! ### Programs -/

/-- A call of a decorated function. -/
structure DecoratedCall where
  fnName : String
  tier : Tier
  /-- What the telemetry of the call does at its end: the texts of the two ids, and the emitter. -/
  telemetry : Except PyExc Unit

inductive Program where
  | done
  | raised (e : Raised)
  /-- `GatewayClient.complete`, and what it does behind its gate. -/
  | gateway (behind : Program)
  | call (f : DecoratedCall) (body : Program)
  | seq (p q : Program)
  /-- The handler raises again what it does not catch. -/
  | attempt (p : Program) (handler : Raised → Program)

/-- What is observed of a program. -/
inductive Event where
  /-- The gate is asked while these functions are on the stack, the innermost first. -/
  | gate (stack : List Tier) (active : ActiveParadigm)
  /-- A decorated call has returned or raised. -/
  | left (f : DecoratedCall) (before after : ActiveParadigm)

structure Outcome where
  result : Except Raised Unit
  active : ActiveParadigm
  events : List Event

/-- `except ParadigmViolation`: raised again with the name of the function. -/
def named (fnName : String) : Except Raised Unit → Except Raised Unit
  | .error (.paradigmViolation activeTier _) => .error (.paradigmViolation activeTier fnName)
  | result => result

def Outcome.after (first : Outcome) (next : Outcome) : Outcome :=
  { next with events := first.events ++ next.events }

/-- The end of a decorated call: the telemetry first, then the reset. -/
def DecoratedCall.leave (f : DecoratedCall) (before : ActiveParadigm) (inner : Outcome) : Outcome :=
  match f.telemetry with
  | .error e => inner.after ⟨.error (.other e), inner.active, [.left f before inner.active]⟩
  | .ok () => inner.after ⟨named f.fnName inner.result, before, [.left f before before]⟩

def run : Program → List Tier → ActiveParadigm → Outcome
  | .done, _, active => ⟨.ok (), active, []⟩
  | .raised e, _, active => ⟨.error e, active, []⟩
  | .gateway behind, stack, active =>
    match assertLlmTierAtGateway active with
    | .error e => ⟨.error e, active, [.gate stack active]⟩
    | .ok () =>
      (Outcome.mk (.ok ()) active [.gate stack active]).after (run behind stack active)
  | .call f body, stack, active => f.leave active (run body (f.tier :: stack) (some f.tier))
  | .seq p q, stack, active =>
    let first := run p stack active
    match first.result with
    | .error _ => first
    | .ok () => first.after (run q stack first.active)
  | .attempt p handler, stack, active =>
    let first := run p stack active
    match first.result with
    | .error e => first.after (run (handler e) stack first.active)
    | .ok () => first

/-! ### The gate and the stack -/

/-- A call that passes the gate has only functions of the language models on its stack, and one at
least; a decorated call leaves the active tier as it found it. -/
def Event.Good : Event → Prop
  | .gate stack active => assertLlmTierAtGateway active = .ok () →
      (∀ tier ∈ stack, tier.isLlm = true) ∧ ∃ tier ∈ stack, tier.isLlm = true
  | .left _ before after => after = before

/-- The innermost function speaks for the stack, and telemetry fails only where the caller has the
tier of the function itself. -/
def Event.Covered : Event → Prop
  | .gate stack _ => stack.head?.any Tier.isLlm = true → ∀ tier ∈ stack, tier.isLlm = true
  | .left f before _ => ∀ e, f.telemetry = .error e → before = some f.tier

theorem assert_ok_iff (active : ActiveParadigm) :
    assertLlmTierAtGateway active = .ok () ↔ active.any Tier.isLlm = true := by
  unfold assertLlmTierAtGateway
  split <;> simp_all

/-- While the innermost function's tier is the active one. -/
theorem gate_good_iff (stack : List Tier) :
    (Event.gate stack stack.head?).Good ↔ (Event.gate stack stack.head?).Covered := by
  rw [Event.Good, Event.Covered, assert_ok_iff]
  refine imp_congr_right fun hhead => and_iff_left ?_
  cases stack with
  | nil => cases hhead
  | cons tier stack => exact ⟨tier, List.mem_cons_self, hhead⟩

/-- What is good and what is covered agree, and the active tier is that of the innermost function
again if all is good. -/
structure Outcome.Settled (out : Outcome) (stack : List Tier) : Prop where
  iff : (∀ event ∈ out.events, event.Good) ↔ ∀ event ∈ out.events, event.Covered
  active : (∀ event ∈ out.events, event.Good) → out.active = stack.head?

theorem Outcome.Settled.after {first next : Outcome} {inner stack : List Tier}
    (hfirst : first.Settled inner) (hnext : first.active = inner.head? → next.Settled stack) :
    (first.after next).Settled stack := by
  constructor
  · simp only [Outcome.after, List.forall_mem_append]
    rw [← hfirst.iff]
    exact and_congr_right fun hgood => (hnext (hfirst.active hgood)).iff
  · intro hgood
    simp only [Outcome.after, List.forall_mem_append] at hgood
    exact (hnext (hfirst.active hgood.1)).active hgood.2

theorem settled_singleton {event : Event} {stack : List Tier} {active : ActiveParadigm}
    (hiff : event.Good ↔ event.Covered) (hactive : event.Good → active = stack.head?)
    (result : Except Raised Unit) : (Outcome.mk result active [event]).Settled stack :=
  ⟨by simpa using hiff, fun h => hactive (h event (List.mem_singleton_self _))⟩

theorem DecoratedCall.settled_leave (f : DecoratedCall) {inner : Outcome} {stack : List Tier}
    (h : inner.Settled (f.tier :: stack)) : (f.leave stack.head? inner).Settled stack := by
  unfold DecoratedCall.leave
  split
  · next e he =>
    refine h.after fun hactive => settled_singleton ?_ id _
    rw [hactive, Event.Good, Event.Covered, he]
    exact ⟨fun heq _ _ => heq.symm, fun heq => (heq e rfl).symm⟩
  · next hok =>
    refine h.after fun _ => settled_singleton ?_ (fun _ => rfl) _
    rw [Event.Good, Event.Covered, hok]
    exact iff_of_true rfl fun _ he => by cases he

theorem run_settled (p : Program) (stack : List Tier) : (run p stack stack.head?).Settled stack := by
  induction p generalizing stack with
  | done => exact ⟨by simp [run], fun _ => rfl⟩
  | raised e => exact ⟨by simp [run], fun _ => rfl⟩
  | gateway behind ih =>
    have hgate : ∀ result, (Outcome.mk result stack.head? [.gate stack stack.head?]).Settled stack :=
      settled_singleton (gate_good_iff stack) fun _ => rfl
    rw [run]
    split
    · exact hgate _
    · exact (hgate _).after fun _ => ih stack
  | call f body ih => exact f.settled_leave (ih (f.tier :: stack))
  | seq p q ihp ihq =>
    rw [run]
    split
    · exact ihp stack
    · refine (ihp stack).after fun hactive => ?_
      rw [hactive]
      exact ihq stack
  | attempt p handler ihp ihhandler =>
    rw [run]
    split
    · refine (ihp stack).after fun hactive => ?_
      rw [hactive]
      exact ihhandler _ stack
    · exact ihp stack

/-- In a program that starts with no tier declared, every event is good if and only if every event
is covered. -/
theorem good_iff_covered (p : Program) :
    (∀ event ∈ (run p [] none).events, event.Good) ↔
      ∀ event ∈ (run p [] none).events, event.Covered :=
  (run_settled p []).iff

/-- A deterministic function calls one of a language model, which calls the gateway; and a failing
emitter leaves the tier of its function active, for the next call to pass without any. -/
theorem inner_tier_passes :
    (¬ ∀ event ∈ (run (.call ⟨"build_pnl_context", .sql, .ok ()⟩
        (.call ⟨"narrate", .smallLlm, .ok ()⟩ (.gateway .done))) [] none).events, event.Good) ∧
      ¬ ∀ event ∈ (run (.seq (.attempt (.call ⟨"narrate", .smallLlm,
          .error ⟨.typeError, "exporter"⟩⟩ .done) fun _ => .done) (.gateway .done)) [] none).events,
        event.Good := by
  constructor
  · intro h
    have hgate := h (.gate [.smallLlm, .sql] (some .smallLlm)) (by simp [run, DecoratedCall.leave,
      Outcome.after, assertLlmTierAtGateway, Tier.isLlm, named])
    have hsql := (hgate rfl).1 .sql (by simp)
    cases hsql
  · intro h
    have hgate := h (.gate [] (some .smallLlm)) (by simp [run, DecoratedCall.leave, Outcome.after,
      assertLlmTierAtGateway, Tier.isLlm])
    obtain ⟨tier, htier, -⟩ := (hgate rfl).2
    cases htier

/-! ### What leaves a call -/

/-- A violation that leaves a decorated call names its function. -/
theorem violation_named (f : DecoratedCall) (body : Program) (stack : List Tier)
    (active : ActiveParadigm) {activeTier fnName : String}
    (h : (run (.call f body) stack active).result = .error (.paradigmViolation activeTier fnName)) :
    fnName = f.fnName := by
  rw [run, DecoratedCall.leave] at h
  split at h
  · cases h
  · unfold named at h
    split at h
    · cases h
      rfl
    · next hnot => exact absurd h (hnot _ _)

/-- A request that the gate refuses calls nothing and changes nothing. -/
theorem complete_refused {env : GatewayEnv} {active : ActiveParadigm}
    (hgate : env.gate = (assertLlmTierAtGateway active).mapError Raised.exc)
    (hactive : active.any Tier.isLlm = false) (request : GatewayRequest) (state : GatewayState) :
    complete env request state =
      ⟨.error (Raised.paradigmViolation active.label "").exc, state, []⟩ := by
  have hrefused : env.gate = .error (Raised.paradigmViolation active.label "").exc := by
    rw [hgate, assertLlmTierAtGateway, hactive]
    rfl
  rw [complete, hrefused]

end BrainV2.Insight
