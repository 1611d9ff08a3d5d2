import Mathlib.Algebra.Order.Field.Basic
import Mathlib.Tactic.Linarith
import Mathlib.Tactic.Ring

/-!
# Limiters

A limiter takes the inputs of a run one after another, each at a reading of a clock, and
grants some of them.

* `Limiter.grantsIn`: how many inputs of a run are granted in a window of time;
* `Limiter.Metered`: the grants are paid from a level that never exceeds the capacity and
  rises no faster than the rate;
* `Metered.grantsIn_le`: a metered limiter grants at most `capacity + rate * T` inputs in
  any window of length `T`.
-/

namespace BrainV2

variable {K : Type*} [Field K] [LinearOrder K] [IsStrictOrderedRing K] {σ ι : Type*}

structure Limiter (K σ ι : Type*) where
  step : σ → ι → σ
  time : ι → K
  grants : σ → ι → Bool

namespace Limiter

variable (limiter : Limiter K σ ι)

/-- The inputs that a run grants between two times, both included. -/
def grantsIn (first last : K) : σ → List ι → ℕ
  | _, [] => 0
  | s, i :: is =>
    (if limiter.grants s i ∧ first ≤ limiter.time i ∧ limiter.time i ≤ last then 1 else 0) +
      grantsIn first last (limiter.step s i) is

/-- The inputs are taken in the order of their times. -/
def InOrder (is : List ι) : Prop := is.Pairwise fun i j => limiter.time i ≤ limiter.time j

/-- A level that pays for the grants among the inputs with `ok`. -/
structure Metered (ok : ι → Prop) (level : σ → K → K) (capacity rate : K) : Prop where
  level_le : ∀ s t, level s t ≤ capacity
  level_rise : ∀ s t t', t ≤ t' → level s t' ≤ level s t + rate * (t' - t)
  step_le : ∀ s i, ok i → level (limiter.step s i) (limiter.time i) ≤ level s (limiter.time i)
  grant_pays : ∀ s i, ok i → limiter.grants s i →
    1 ≤ level s (limiter.time i) ∧
      level (limiter.step s i) (limiter.time i) + 1 ≤ level s (limiter.time i)

variable {limiter} {ok : ι → Prop} {level : σ → K → K} {capacity rate : K}

theorem Metered.rate_rise (h : limiter.Metered ok level capacity rate) (hrate : 0 ≤ rate)
    (s : σ) {now t last : K} (hnow : now ≤ t) (hlast : t ≤ last) :
    level s t + rate * (last - t) ≤ level s now + rate * (last - now) ∧
      level s t ≤ level s now + rate * (last - now) := by
  have hrise := h.level_rise s now t hnow
  have hrest : 0 ≤ rate * (last - t) := mul_nonneg hrate (sub_nonneg.mpr hlast)
  have hsplit : rate * (last - now) = rate * (t - now) + rate * (last - t) := by ring
  constructor <;> linarith

/-- What is granted from now on is paid from the level now and from what comes in until the
end of the window. -/
theorem Metered.grantsIn_le_level (h : limiter.Metered ok level capacity rate) (hrate : 0 ≤ rate)
    {first last : K} {is : List ι} (hok : ∀ i ∈ is, ok i) (horder : limiter.InOrder is)
    {now : K} (hnow : ∀ i ∈ is, now ≤ limiter.time i) (s : σ)
    (hsome : limiter.grantsIn first last s is ≠ 0) :
    (limiter.grantsIn first last s is : K) ≤ level s now + rate * (last - now) ∧ now ≤ last := by
  induction is generalizing s now with
  | nil => exact absurd rfl hsome
  | cons i is ih =>
    obtain ⟨hi, horder⟩ := List.pairwise_cons.mp horder
    have hoki := hok i List.mem_cons_self
    have hnowi := hnow i List.mem_cons_self
    have ih := ih (fun j hj => hok j (List.mem_cons_of_mem _ hj)) horder hi (limiter.step s i)
    by_cases hcount : limiter.grants s i ∧ first ≤ limiter.time i ∧ limiter.time i ≤ last
    · obtain ⟨hone, hpays⟩ := h.grant_pays s i hoki hcount.1
      have hrise := h.rate_rise hrate s hnowi hcount.2.2
      refine ⟨?_, hnowi.trans hcount.2.2⟩
      rw [grantsIn, if_pos hcount]
      by_cases hrest : limiter.grantsIn first last (limiter.step s i) is = 0
      · rw [hrest]
        push_cast
        linarith [hrise.2]
      · have hih := (ih hrest).1
        push_cast
        linarith [hrise.1]
    · rw [grantsIn, if_neg hcount, Nat.zero_add] at hsome ⊢
      obtain ⟨hih, hlast⟩ := ih hsome
      have hrise := h.rate_rise hrate s hnowi hlast
      have hstep := h.step_le s i hoki
      exact ⟨by linarith [hrise.1], hnowi.trans hlast⟩

/-- The window rule. -/
theorem Metered.grantsIn_le (h : limiter.Metered ok level capacity rate)
    (hcapacity : 0 ≤ capacity) (hrate : 0 ≤ rate) {first length : K} (hlength : 0 ≤ length)
    {is : List ι} (hok : ∀ i ∈ is, ok i) (horder : limiter.InOrder is) (s : σ) :
    (limiter.grantsIn first (first + length) s is : K) ≤ capacity + rate * length := by
  induction is generalizing s with
  | nil =>
    rw [grantsIn, Nat.cast_zero]
    exact add_nonneg hcapacity (mul_nonneg hrate hlength)
  | cons i is ih =>
    by_cases hbefore : limiter.time i < first
    · -- the window has not opened yet
      have hcount : ¬ (limiter.grants s i ∧ first ≤ limiter.time i ∧
          limiter.time i ≤ first + length) := fun hc => absurd hc.2.1 (not_le.mpr hbefore)
      rw [grantsIn, if_neg hcount, Nat.zero_add]
      exact ih (fun j hj => hok j (List.mem_cons_of_mem _ hj)) (List.pairwise_cons.mp horder).2 _
    by_cases hsome : limiter.grantsIn first (first + length) s (i :: is) = 0
    · rw [hsome, Nat.cast_zero]
      exact add_nonneg hcapacity (mul_nonneg hrate hlength)
    have hnow : ∀ j ∈ i :: is, limiter.time i ≤ limiter.time j := by
      intro j hj
      rcases List.mem_cons.mp hj with rfl | hj
      · exact le_rfl
      · exact (List.pairwise_cons.mp horder).1 j hj
    obtain ⟨hle, -⟩ := h.grantsIn_le_level hrate hok horder hnow s hsome
    have hlevel := h.level_le s (limiter.time i)
    have hopen : rate * (first + length - limiter.time i) ≤ rate * length := by
      apply mul_le_mul_of_nonneg_left _ hrate
      linarith [not_lt.mp hbefore]
    linarith

omit [Field K] [IsStrictOrderedRing K] in
theorem grantsIn_cons_of_granted {first last : K} {s : σ} {i : ι} {is : List ι}
    (hgrant : limiter.grants s i) (hfirst : first ≤ limiter.time i) (hlast : limiter.time i ≤ last) :
    limiter.grantsIn first last s (i :: is) =
      1 + limiter.grantsIn first last (limiter.step s i) is := by
  rw [grantsIn, if_pos ⟨hgrant, hfirst, hlast⟩]

end Limiter

end BrainV2
