import BrainV2.Lib.Binary64
import Mathlib.Algebra.Order.Field.Basic
import Mathlib.Algebra.Ring.Parity
import Mathlib.Data.Rat.Cast.Order
import Mathlib.Tactic.FieldSimp
import Mathlib.Tactic.NormNum

/-!
# Rounding to the nearest integer, ties to even

* `Rounds`: `n` is the integer that `q` rounds to; there is one at most
  (`Rounds.unique`), and `nearest` computes it for a quotient of naturals;
* `roundEven`: the integer a number rounds to, which grows with it;
* `Rounds.neg`, `Rounds.add_even`: rounding commutes with the sign and with
  even shifts;
* `rounds_twice_iff`: rounding to a fine grid first and then to an integer is
  rounding to an integer, unless the grid puts the number on a half that goes
  the other way.
-/

namespace BrainV2.HalfEven

open Binary64 (nearest)

structure Rounds (q : ℚ) (n : ℤ) : Prop where
  near : |q - n| ≤ 1 / 2
  even : |q - n| = 1 / 2 → Even n

variable {q : ℚ} {m n : ℤ}

theorem rounds_of_lt (h : |q - n| < 1 / 2) : Rounds q n := ⟨h.le, fun heq => absurd heq h.ne⟩

theorem rounds_intCast (n : ℤ) : Rounds n n := rounds_of_lt (by simp)

theorem Rounds.unique (hm : Rounds q m) (hn : Rounds q n) : m = n := by
  have hdiff : |(m : ℚ) - n| ≤ 1 := by
    have hsum := abs_sub_le (m : ℚ) q n
    have hm' := hm.near
    rw [abs_sub_comm] at hm'
    linarith [hn.near]
  have hle : |m - n| ≤ 1 := by exact_mod_cast hdiff
  by_contra hne
  -- Neighbours are both a half away, and not both even.
  have hone : |m - n| = 1 := by
    have hpos : 0 < |m - n| := abs_pos.mpr (sub_ne_zero.mpr hne)
    omega
  have hone' : |(m : ℚ) - n| = 1 := by exact_mod_cast hone
  have hsum := abs_sub_le (m : ℚ) q n
  rw [hone', abs_sub_comm (m : ℚ) q] at hsum
  have hmEven := hm.even (le_antisymm hm.near (by linarith [hn.near]))
  have hnEven := hn.even (le_antisymm hn.near (by linarith [hm.near]))
  obtain ⟨k, hk⟩ := hmEven.sub hnEven
  rcases abs_eq (by norm_num : (0 : ℤ) ≤ 1) |>.mp hone with h | h <;> omega

theorem Rounds.neg (h : Rounds q n) : Rounds (-q) (-n) := by
  have habs : |-q - ((-n : ℤ) : ℚ)| = |q - n| := by
    rw [Int.cast_neg, ← abs_neg]
    congr 1
    ring
  constructor
  · rw [habs]
    exact h.near
  · rw [habs]
    intro heq
    exact (h.even heq).neg

theorem Rounds.add_even (h : Rounds q n) (hm : Even m) : Rounds (q + m) (n + m) := by
  have habs : |q + m - ((n + m : ℤ) : ℚ)| = |q - n| := by
    push_cast
    congr 1
    ring
  constructor
  · rw [habs]
    exact h.near
  · rw [habs]
    intro heq
    exact (h.even heq).add hm

/-- Between the two halves around `n`; on one of them only for an even `n`. -/
theorem rounds_iff : Rounds q n ↔
    (n - 1 / 2 < q ∧ q < n + 1 / 2) ∨ (q = n - 1 / 2 ∨ q = n + 1 / 2) ∧ Even n := by
  constructor
  · rintro ⟨hnear, heven⟩
    obtain ⟨hlow, hhigh⟩ := abs_le.mp hnear
    rcases eq_or_lt_of_le hnear with heq | hlt
    · right
      refine ⟨?_, heven heq⟩
      rcases abs_eq (by norm_num) |>.mp heq with h | h
      · right
        linarith
      · left
        linarith
    · left
      obtain ⟨hlow, hhigh⟩ := abs_lt.mp hlt
      constructor <;> linarith
  · rintro (⟨hlow, hhigh⟩ | ⟨hq, heven⟩)
    · exact rounds_of_lt (abs_lt.mpr ⟨by linarith, by linarith⟩)
    · refine ⟨?_, fun _ => heven⟩
      rcases hq with rfl | rfl
      · norm_num
      · norm_num

/-- A half lies between two integers and goes to the even one. -/
theorem rounds_half_iff {k : ℤ} :
    Rounds (k + 1 / 2) n ↔ (n = k ∧ Even k) ∨ (n = k + 1 ∧ Odd k) := by
  rw [rounds_iff]
  constructor
  · rintro (⟨hlow, hhigh⟩ | ⟨h | h, heven⟩)
    · have hlow' : (n : ℚ) < k + 1 := by linarith
      have hhigh' : (k : ℚ) < n := by linarith
      norm_cast at hlow' hhigh'
      omega
    · right
      have hn : (n : ℚ) = k + 1 := by linarith
      norm_cast at hn
      subst hn
      exact ⟨rfl, Int.not_even_iff_odd.mp fun hk => absurd heven (Int.even_add_one.mp · hk)⟩
    · left
      have hn : (n : ℚ) = k := by linarith
      norm_cast at hn
      subst hn
      exact ⟨rfl, heven⟩
  · rintro (⟨rfl, heven⟩ | ⟨rfl, hodd⟩)
    · exact Or.inr ⟨Or.inr rfl, heven⟩
    · refine Or.inr ⟨Or.inl ?_, hodd.add_one⟩
      push_cast
      ring

theorem nearest_rounds (num : ℕ) {den : ℕ} (hden : 0 < den) :
    Rounds ((num : ℚ) / den) (nearest num den) := by
  have hpos : (0 : ℚ) < den := by exact_mod_cast hden
  have hdiv : (num : ℚ) / den = (num / den : ℕ) + (num % den : ℕ) / (den : ℚ) := by
    rw [div_eq_iff hpos.ne', add_mul, div_mul_cancel₀ _ hpos.ne', mul_comm]
    exact_mod_cast (Nat.div_add_mod num den).symm
  have hr : (0 : ℚ) ≤ (num % den : ℕ) / (den : ℚ) := by positivity
  have hr' : (num % den : ℕ) / (den : ℚ) < 1 := by
    rw [div_lt_one hpos]
    exact_mod_cast Nat.mod_lt num hden
  have hhalf : 2 * (num % den) < den ↔ (num % den : ℕ) / (den : ℚ) < 1 / 2 := by
    rw [div_lt_iff₀ hpos, one_div_mul_eq_div, lt_div_iff₀ (by norm_num), mul_comm]
    exact_mod_cast Iff.rfl
  have htie : 2 * (num % den) = den ↔ (num % den : ℕ) / (den : ℚ) = 1 / 2 := by
    rw [div_eq_iff hpos.ne', one_div_mul_eq_div, eq_div_iff (by norm_num), mul_comm]
    exact_mod_cast Iff.rfl
  simp only [nearest, hhalf, htie]
  rw [hdiv]
  generalize (num % den : ℕ) / (den : ℚ) = r at *
  generalize num / den = w
  by_cases heq : r = 1 / 2
  · subst heq
    rw [← Int.cast_natCast w, rounds_half_iff]
    rcases Nat.mod_two_eq_zero_or_one w with heven | hodd
    · left
      rw [if_pos (Or.inr ⟨rfl, heven⟩)]
      exact ⟨rfl, by exact_mod_cast Nat.even_iff.mpr heven⟩
    · right
      rw [if_neg (by norm_num [hodd])]
      exact ⟨by push_cast; rfl, by exact_mod_cast Nat.odd_iff.mpr hodd⟩
  · apply rounds_of_lt
    rw [abs_lt]
    rcases lt_or_gt_of_ne heq with hlt | hgt
    · rw [if_pos (Or.inl hlt)]
      push_cast
      constructor <;> linarith
    · rw [if_neg (by rintro (h | ⟨h, -⟩) <;> linarith)]
      push_cast
      constructor <;> linarith

/-- Rounding keeps the order. -/
theorem Rounds.mono {q' : ℚ} (h : Rounds q m) (h' : Rounds q' n) (hle : q ≤ q') : m ≤ n := by
  rcases eq_or_lt_of_le hle with rfl | hlt
  · exact (h.unique h').le
  · have hm := abs_le.mp h.near
    have hn := abs_le.mp h'.near
    have hlt' : (m : ℚ) < n + 1 := by linarith [hm.1, hn.2]
    norm_cast at hlt'
    omega

/-- The integer a number rounds to. -/
def roundEven (q : ℚ) : ℤ :=
  let magnitude : ℤ := nearest q.num.natAbs q.den
  if q.num < 0 then -magnitude else magnitude

theorem rounds_roundEven (q : ℚ) : Rounds q (roundEven q) := by
  have h := nearest_rounds q.num.natAbs q.pos
  have hq : (q.num : ℚ) / q.den = q := Rat.num_div_den q
  have habs : ((q.num.natAbs : ℕ) : ℚ) = |(q.num : ℚ)| := by
    rw [Nat.cast_natAbs, Int.cast_abs]
  rw [habs] at h
  unfold roundEven
  split
  · next hneg =>
    have hneg' : (q.num : ℚ) < 0 := by exact_mod_cast hneg
    rw [abs_of_neg hneg', neg_div, hq] at h
    simpa using h.neg
  · next hpos =>
    have hpos' : (0 : ℚ) ≤ q.num := by exact_mod_cast Int.not_lt.mp hpos
    rwa [abs_of_nonneg hpos', hq] at h

theorem roundEven_mono {q q' : ℚ} (h : q ≤ q') : roundEven q ≤ roundEven q' :=
  (rounds_roundEven q).mono (rounds_roundEven q') h

/-! ### Rounding twice -/

/-- `q` is not the half above `k`, and goes another way than that half does. -/
def Beyond (q : ℚ) (k : ℤ) : Prop :=
  (k + 1 / 2 < q ∧ Even k) ∨ (q < k + 1 / 2 ∧ Odd k)

/-- Close to a half, rounding goes the way of the half unless the number is beyond it. -/
theorem rounds_beside_half_iff {k : ℤ} (hnear : |q - (k + 1 / 2)| ≤ 1 / 4)
    (hn : Rounds (k + 1 / 2) n) : Rounds q n ↔ ¬ Beyond q k := by
  obtain ⟨hlow, hhigh⟩ := abs_le.mp hnear
  rcases lt_trichotomy q (k + 1 / 2) with hlt | heq | hgt
  · have hround : Rounds q k := rounds_of_lt (abs_lt.mpr ⟨by linarith, by linarith⟩)
    have hbeyond : Beyond q k ↔ Odd k := by
      simp only [Beyond, hlt, true_and, not_lt_of_gt hlt, false_and, false_or]
    rw [hbeyond, Int.not_odd_iff_even]
    rcases rounds_half_iff.mp hn with ⟨rfl, heven⟩ | ⟨rfl, hodd⟩
    · exact iff_of_true hround heven
    · refine iff_of_false (fun h => ?_) (Int.not_even_iff_odd.mpr hodd)
      have hsame := h.unique hround
      omega
  · refine iff_of_true (by rwa [heq]) ?_
    rintro (⟨h, -⟩ | ⟨h, -⟩) <;> linarith
  · have hround : Rounds q (k + 1) := by
      apply rounds_of_lt
      push_cast
      exact abs_lt.mpr ⟨by linarith, by linarith⟩
    have hbeyond : Beyond q k ↔ Even k := by
      simp only [Beyond, hgt, true_and, not_lt_of_gt hgt, false_and, or_false]
    rw [hbeyond, Int.not_even_iff_odd]
    rcases rounds_half_iff.mp hn with ⟨rfl, heven⟩ | ⟨rfl, hodd⟩
    · refine iff_of_false (fun h => ?_) (Int.not_odd_iff_even.mpr heven)
      have hsame := h.unique hround
      omega
    · exact iff_of_true hround hodd

section

variable {g : ℤ} (hg : 0 < g) (heven : Even g) (hm : Rounds (q * g) m)

include hg hm

/-- Rounding to multiples of `1 / g` moves a number by half a unit at most. -/
theorem Rounds.grid_near : |q - m / g| ≤ 1 / (2 * g) := by
  have hpos : (0 : ℚ) < g := by exact_mod_cast hg
  have hscaled : q - m / g = (q * g - m) / g := by
    field_simp
  have hunit : 1 / (2 * (g : ℚ)) * g = 1 / 2 := by
    field_simp
  rw [hscaled, abs_div, abs_of_pos hpos, div_le_iff₀ hpos, hunit]
  exact hm.near

include heven

/-- The halves are multiples, so a result strictly between two of them is at least one unit away
from both. -/
theorem Rounds.between_halves (hlow : n - 1 / 2 < (m : ℚ) / g) (hhigh : (m : ℚ) / g < n + 1 / 2) :
    Rounds q n := by
  have hpos : (0 : ℚ) < g := by exact_mod_cast hg
  obtain ⟨half, hhalf⟩ := heven
  have hg' : (g : ℚ) = half + half := by exact_mod_cast hhalf
  rw [lt_div_iff₀ hpos] at hlow
  rw [div_lt_iff₀ hpos] at hhigh
  have hleft : n * g - half < m := by
    have h : (n : ℚ) * g - half < m := by rw [hg'] at hlow ⊢; linarith
    exact_mod_cast h
  have hright : m < n * g + half := by
    have h : (m : ℚ) < n * g + half := by rw [hg'] at hhigh ⊢; linarith
    exact_mod_cast h
  have hleft' : (n : ℚ) * g - half + 1 ≤ m := by exact_mod_cast hleft
  have hright' : (m : ℚ) + 1 ≤ n * g + half := by exact_mod_cast hright
  have hm' := abs_le.mp hm.near
  apply rounds_of_lt
  rw [abs_lt]
  constructor
  · have h : (n - 1 / 2) * (g : ℚ) < q * g := by rw [hg'] at *; linarith [hm'.1]
    linarith [lt_of_mul_lt_mul_right h hpos.le]
  · have h : q * (g : ℚ) < (n + 1 / 2) * g := by rw [hg'] at *; linarith [hm'.2]
    linarith [lt_of_mul_lt_mul_right h hpos.le]

/-- A number is rounded to multiples of `1 / g`, the halves among them, and then to an integer.
The second result is that of rounding at once, unless the first is a half that the number is
beyond. -/
theorem rounds_twice_iff (hn : Rounds ((m : ℚ) / g) n) :
    Rounds q n ↔ ∀ k : ℤ, (m : ℚ) / g = k + 1 / 2 → ¬ Beyond q k := by
  by_cases htie : ∃ k : ℤ, (m : ℚ) / g = k + 1 / 2
  · obtain ⟨k, hk⟩ := htie
    have honly : (∀ k' : ℤ, (m : ℚ) / g = k' + 1 / 2 → ¬ Beyond q k') ↔ ¬ Beyond q k := by
      constructor
      · intro h
        exact h k hk
      · intro h k' hk'
        have hkk : (k' : ℚ) = k := by linarith
        norm_cast at hkk
        rwa [hkk]
    have hnear := hm.grid_near hg
    have hunit : 1 / (2 * (g : ℚ)) ≤ 1 / 4 := by
      have htwo : (2 : ℚ) ≤ g := by
        obtain ⟨half, hhalf⟩ := heven
        have h : 2 ≤ g := by omega
        exact_mod_cast h
      apply one_div_le_one_div_of_le <;> linarith
    rw [honly]
    rw [hk] at hn hnear
    exact rounds_beside_half_iff (hnear.trans hunit) hn
  · refine iff_of_true ?_ fun k hk => absurd ⟨k, hk⟩ htie
    rcases rounds_iff.mp hn with ⟨hlow, hhigh⟩ | ⟨h | h, -⟩
    · exact hm.between_halves hg heven hlow hhigh
    · exact absurd ⟨n - 1, by rw [h]; push_cast; ring⟩ htie
    · exact absurd ⟨n, h⟩ htie

end

end BrainV2.HalfEven
