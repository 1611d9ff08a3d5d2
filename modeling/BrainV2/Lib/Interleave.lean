import BrainV2.Lib.Runs
import Mathlib.Logic.Function.Basic

/-!
# Interleaved calls

Calls over one shared state. A step belongs to one call: what it does depends on the shared
state and on how far that call has come, and the steps of different calls come in any order.

* `State`, `step`: the shared state and the calls;
* `exec_alone`: a call that nothing comes between;
* `exec_calls_of_done`: a call that has ended stays as it ended;
* `allowed_keeps`: a call that only changes something by the step that ends it well has changed
  nothing as long as it has not ended well;
* `Exclusive`, `Locking`: locks, which a call holds while it is at some of its steps;
* `value_of_held`: what a call holds, the other calls leave as it is;
* `shares`: what the calls have put into a common list, one entry at most for each.
-/

namespace BrainV2.Interleave

open Runs

structure State (σ κ : Type*) where
  shared : σ
  calls : Nat → κ

variable {σ κ ι : Type*} {advance : σ → κ → ι → σ × κ}

/-- One call takes a step. -/
def step (advance : σ → κ → ι → σ × κ) (s : State σ κ) (e : Nat × ι) : State σ κ where
  shared := (advance s.shared (s.calls e.1) e.2).1
  calls := Function.update s.calls e.1 (advance s.shared (s.calls e.1) e.2).2

@[simp] theorem step_shared (s : State σ κ) (e : Nat × ι) :
    (step advance s e).shared = (advance s.shared (s.calls e.1) e.2).1 := rfl

@[simp] theorem step_calls_self (s : State σ κ) (e : Nat × ι) :
    (step advance s e).calls e.1 = (advance s.shared (s.calls e.1) e.2).2 :=
  Function.update_self ..

theorem step_calls_of_ne (s : State σ κ) {e : Nat × ι} {i : Nat} (h : i ≠ e.1) :
    (step advance s e).calls i = s.calls i :=
  Function.update_of_ne h ..

/-- What holds of each call that its own step leaves, and of the calls before it, holds of the
calls after it. -/
theorem step_calls {P : Nat → κ → Prop} (s : State σ κ) (e : Nat × ι)
    (hself : P e.1 (advance s.shared (s.calls e.1) e.2).2) (hother : ∀ i, i ≠ e.1 → P i (s.calls i))
    (i : Nat) : P i ((step advance s e).calls i) := by
  by_cases h : i = e.1
  · subst h
    rw [step_calls_self]
    exact hself
  · rw [step_calls_of_ne s h]
    exact hother i h

/-- Some call has `P`: the one that steps, or another one. -/
theorem exists_calls_iff {P : κ → Prop} (calls : Nat → κ) (k : Nat) :
    (∃ i, P (calls i)) ↔ P (calls k) ∨ ∃ i, i ≠ k ∧ P (calls i) := by
  constructor
  · rintro ⟨i, hi⟩
    by_cases h : i = k
    · subst h
      exact Or.inl hi
    · exact Or.inr ⟨i, h, hi⟩
  · rintro (hk | ⟨i, -, hi⟩)
    · exact ⟨k, hk⟩
    · exact ⟨i, hi⟩

theorem exists_step_calls_iff {P : κ → Prop} (s : State σ κ) (e : Nat × ι) :
    (∃ i, P ((step advance s e).calls i)) ↔
      P (advance s.shared (s.calls e.1) e.2).2 ∨ ∃ i, i ≠ e.1 ∧ P (s.calls i) := by
  rw [exists_calls_iff _ e.1, step_calls_self]
  refine or_congr Iff.rfl (exists_congr fun i => and_congr_right fun hi => ?_)
  rw [step_calls_of_ne s hi]

variable (advance) in
/-- A call whose steps nothing comes between. -/
theorem exec_alone (i : Nat) (s : State σ κ) (es : List ι) :
    (exec (step advance) s (es.map (Prod.mk i))).shared =
        (es.foldl (fun p e => advance p.1 p.2 e) (s.shared, s.calls i)).1 ∧
      (exec (step advance) s (es.map (Prod.mk i))).calls i =
        (es.foldl (fun p e => advance p.1 p.2 e) (s.shared, s.calls i)).2 := by
  induction es generalizing s with
  | nil => exact ⟨rfl, rfl⟩
  | cons e es ih =>
    have hrest := ih (step advance s (i, e))
    have hself := @step_calls_self _ _ _ advance s (i, e)
    rw [hself] at hrest
    exact hrest

section

variable {Done : κ → Prop} (hdone : ∀ s c e, Done c → (advance s c e).2 = c)

include hdone

theorem step_calls_of_done {s : State σ κ} {i : Nat} (h : Done (s.calls i)) (e : Nat × ι) :
    (step advance s e).calls i = s.calls i := by
  by_cases hi : i = e.1
  · subst hi
    rw [step_calls_self, hdone _ _ _ h]
  · exact step_calls_of_ne s hi

theorem exec_calls_of_done {s : State σ κ} {i : Nat} (h : Done (s.calls i))
    (es : List (Nat × ι)) : (exec (step advance) s es).calls i = s.calls i := by
  induction es generalizing s with
  | nil => rfl
  | cons e es ih =>
    have hstep := step_calls_of_done hdone h e
    rw [exec_cons, ih (by rwa [hstep]), hstep]

theorem allowed_keeps {β : Type*} {part : σ → β}
    (hkeep : ∀ s c e, part (advance s c e).1 = part s ∨ Done (advance s c e).2) {i : Nat}
    {s : State σ κ} {es : List (Nat × ι)} (hend : ¬ Done ((exec (step advance) s es).calls i)) :
    Allowed (step advance) (fun s e => e.1 = i → part (step advance s e).shared = part s.shared)
      s es := by
  induction es generalizing s with
  | nil => trivial
  | cons e es ih =>
    refine ⟨?_, ih hend⟩
    rintro rfl
    cases hkeep s.shared (s.calls e.1) e.2 with
    | inl hsame => exact hsame
    | inr hended =>
      have hnow : Done ((step advance s e).calls e.1) := by rwa [step_calls_self]
      rw [exec_cons, exec_calls_of_done hdone hnow] at hend
      exact absurd hnow hend

end

/-! ### Locks -/

section

variable {ρ : Type*} (held : κ → ρ → Prop) (locked : σ → ρ → Prop)

/-- What a call holds is locked, and no other call holds it. -/
structure Exclusive (s : State σ κ) : Prop where
  locked : ∀ i r, held (s.calls i) r → locked s.shared r
  alone : ∀ i j r, held (s.calls i) r → held (s.calls j) r → i = j

/-- A step takes only what is not locked, and leaves locked what its call then holds and what
the other calls hold. -/
structure Locking (advance : σ → κ → ι → σ × κ) : Prop where
  takes : ∀ s c e r, held (advance s c e).2 r → held c r ∨ ¬ locked s r
  leaves : ∀ s c e r, (∀ r, held c r → locked s r) →
    (locked (advance s c e).1 r ↔ held (advance s c e).2 r ∨ locked s r ∧ ¬ held c r)

variable {held locked} (hlocking : Locking held locked advance)

include hlocking in
theorem exclusive_step {s : State σ κ} (h : Exclusive held locked s) (e : Nat × ι) :
    Exclusive held locked (step advance s e) := by
  -- What the step newly holds was not locked, so that no other call held it.
  have hother : ∀ i r, i ≠ e.1 → held (s.calls i) r →
      ¬ held (advance s.shared (s.calls e.1) e.2).2 r := by
    intro i r hi hheld hnew
    cases hlocking.takes _ _ _ r hnew with
    | inl hself => exact hi (h.alone i e.1 r hheld hself)
    | inr hfree => exact hfree (h.locked i r hheld)
  constructor
  · refine step_calls (P := fun _ c => ∀ r, held c r → locked (step advance s e).shared r) s e ?_ ?_
    · exact fun r hself => (hlocking.leaves _ _ _ r (h.locked e.1)).mpr (Or.inl hself)
    · intro i hi r hheld
      have hnot : ¬ held (s.calls e.1) r := fun hself => hi (h.alone i e.1 r hheld hself)
      exact (hlocking.leaves _ _ _ r (h.locked e.1)).mpr (Or.inr ⟨h.locked i r hheld, hnot⟩)
  · refine step_calls (P := fun i c => ∀ j r, held c r → held ((step advance s e).calls j) r → i = j)
      s e ?_ ?_
    · intro j r hself
      by_cases hj : j = e.1
      · exact fun _ => hj.symm
      · rw [step_calls_of_ne s hj]
        exact fun hheld => absurd hself (hother j r hj hheld)
    · intro i hi j r hheld
      by_cases hj : j = e.1
      · subst hj
        rw [step_calls_self]
        exact fun hself => absurd hself (hother i r hi hheld)
      · rw [step_calls_of_ne s hj]
        exact h.alone i j r hheld

/-- The steps of other calls leave what a call holds. -/
theorem value_of_held {β : Type*} {value : σ → ρ → β} {s : State σ κ}
    (h : Exclusive held locked s) {e : Nat × ι}
    (hvalue : ∀ s c r, locked s r → ¬ held c r → value (advance s c e.2).1 r = value s r) {i : Nat}
    (hi : i ≠ e.1) {r : ρ} (hheld : held (s.calls i) r) :
    value (step advance s e).shared r = value s.shared r :=
  hvalue _ _ r (h.locked i r hheld) fun hself => hi (h.alone i e.1 r hheld hself)

end

/-! ### Shares -/

section

variable {α : Type*} (share : κ → Option α)

/-- What the calls below a bound have put into a common list. -/
def shares (calls : Nat → κ) (bound : Nat) : List α :=
  (List.range bound).filterMap fun i => share (calls i)

variable {share}

theorem mem_shares {calls : Nat → κ} {bound : Nat} {x : α} :
    x ∈ shares share calls bound ↔ ∃ i, i < bound ∧ share (calls i) = some x := by
  simp only [shares, List.mem_filterMap, List.mem_range]

theorem shares_none {calls : Nat → κ} (h : ∀ i, share (calls i) = none) (bound : Nat) :
    shares share calls bound = [] :=
  List.filterMap_eq_nil_iff.mpr fun i _ => h i

theorem shares_same {calls : Nat → κ} {i : Nat} {k : κ} (h : share k = share (calls i))
    (bound : Nat) : shares share (Function.update calls i k) bound = shares share calls bound := by
  refine List.filterMap_congr fun j _ => ?_
  by_cases hj : j = i
  · rw [hj, Function.update_self, h]
  · rw [Function.update_of_ne hj]

/-- A call that puts in its entry. -/
theorem shares_new {calls : Nat → κ} {i bound : Nat} (hi : i < bound) {k : κ} {x : α}
    (hold : share (calls i) = none) (hnew : share k = some x) :
    (shares share (Function.update calls i k) bound).Perm (x :: shares share calls bound) := by
  induction bound with
  | zero => cases hi
  | succ bound ih =>
    have hlast : ∀ calls : Nat → κ, shares share calls (bound + 1) =
        shares share calls bound ++ (share (calls bound)).toList := by
      intro calls
      simp only [shares, List.range_succ, List.filterMap_append, List.filterMap_cons,
        List.filterMap_nil]
      cases share (calls bound) <;> rfl
    rw [hlast, hlast]
    by_cases heq : i = bound
    · subst heq
      have hbelow : shares share (Function.update calls i k) i = shares share calls i := by
        refine List.filterMap_congr fun j hj => ?_
        rw [Function.update_of_ne (List.mem_range.mp hj).ne]
      rw [hbelow, Function.update_self, hnew, hold, Option.toList_none, List.append_nil]
      exact List.perm_append_singleton x _
    · rw [Function.update_of_ne (Ne.symm heq)]
      exact (ih (by omega)).append_right _

end

end BrainV2.Interleave
