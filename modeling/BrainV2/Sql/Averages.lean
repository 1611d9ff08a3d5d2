import BrainV2.Py.Floats

/-!
# Averages of integers

* `roundAway`: `avg(...)::bigint` of PostgreSQL, halves away from zero;
* `roundFloat`: `round(avg(...))` of ClickHouse, a double, halves to the even number;
* `roundAway_eq_roundFloat`: the same for sums of 52 bits, halves apart.
-/

namespace BrainV2.Sql

open Binary64 (Finite Double nearest nearest_bounds ofInt_exact round_finite)
open HalfEven (Rounds nearest_rounds rounds_of_lt)
open Py (magnitude roundInt round_near)

def roundAway (sum : Int) (count : Nat) : Int :=
  let whole : Int := (2 * sum.natAbs + count) / (2 * count)
  if sum < 0 then -whole else whole

/-- The double nearest to a part of a double. -/
def floatDiv : Double → Nat → Double
  | .finite x, count => Binary64.round x.negative x.units (2 ^ 1074 * count)
  | other, _ => other

/-- `round`, of what is a number. -/
def floatRound : Double → Int
  | .finite x => roundInt x
  | _ => 0

def roundFloat (sum : Int) (count : Nat) : Int := floatRound (floatDiv (Binary64.ofInt sum) count)

/-- The average is half way between two integers. -/
def IsHalf (sum : Int) (count : Nat) : Prop := (2 * sum.natAbs + count) % (2 * count) = 0

instance (sum : Int) (count : Nat) : Decidable (IsHalf sum count) :=
  inferInstanceAs (Decidable (_ = _))

variable {sum : Int} {count : Nat}

/-- What is no half is nearer to an integer by half a part at least. -/
theorem near_whole (hcount : 0 < count) (h : ¬ IsHalf sum count) :
    |(sum.natAbs : ℚ) / count - ((2 * sum.natAbs + count) / (2 * count) : ℕ)| ≤
      1 / 2 - 1 / (2 * count) := by
  have hpos : (0 : ℚ) < count := by exact_mod_cast hcount
  have hparts := Nat.div_add_mod (2 * sum.natAbs + count) (2 * count)
  have hrest : (2 * sum.natAbs + count) % (2 * count) < 2 * count := Nat.mod_lt _ (by omega)
  unfold IsHalf at h
  generalize (2 * sum.natAbs + count) / (2 * count) = q at hparts ⊢
  generalize (2 * sum.natAbs + count) % (2 * count) = r at h hparts hrest
  have hcast : (2 * count * q + r : ℚ) = 2 * sum.natAbs + count := by exact_mod_cast hparts
  have hdiff : (sum.natAbs : ℚ) / count - q = (r - count) / (2 * count) := by
    field_simp
    linarith
  have hlow : (1 : ℚ) ≤ r := by exact_mod_cast Nat.one_le_iff_ne_zero.mpr h
  have hhigh : (r : ℚ) + 1 ≤ 2 * count := by exact_mod_cast hrest
  have hbound : (1 : ℚ) / 2 - 1 / (2 * count) = (count - 1) / (2 * count) := by
    field_simp
  rw [hdiff, hbound, abs_div, abs_of_pos (by positivity : (0 : ℚ) < 2 * count)]
  apply div_le_div_of_nonneg_right _ (by positivity)
  rw [abs_le]
  constructor
  · linarith
  · linarith

variable (count) in
/-- Units cancel in a quotient. -/
theorem quotient_lt {n w e : Nat} (hw : 0 < w) (hn : n < e) : n * w * w / (w * count) < e * w := by
  rw [← Nat.div_div_eq_div_mul, Nat.mul_div_cancel _ hw]
  exact lt_of_le_of_lt (Nat.div_le_self _ _) (Nat.mul_lt_mul_of_pos_right hn hw)

theorem cast_quotient {n w : Nat} (hw : 0 < w) :
    ((n * w : ℕ) : ℚ) / ((w * count : ℕ) : ℚ) = n / count := by
  have hne : (w : ℚ) ≠ 0 := by exact_mod_cast hw.ne'
  rw [Nat.cast_mul, Nat.cast_mul, mul_comm (n : ℚ), mul_div_mul_left _ _ hne]

/-- The double of an average, and how far it is from the average. -/
theorem exists_floatDiv (hcount : 0 < count) (hsum : sum.natAbs < 2 ^ 52) :
    ∃ x, floatDiv (Binary64.ofInt sum) count = .finite x ∧ x.negative = decide (sum < 0) ∧
      |magnitude x - sum.natAbs / count| ≤ sum.natAbs / count / 2 ^ 53 + 1 / 2 ^ 1075 := by
  obtain ⟨x, hx, hneg, hunits⟩ := ofInt_exact (n := sum) (by omega)
  have hw : 0 < 2 ^ 1074 := pow_pos Nat.two_pos 1074
  have hquotient := quotient_lt count hw hsum
  rw [← hunits] at hquotient
  obtain ⟨y, hy⟩ := round_finite x.negative (by decide)
    (hquotient.trans_eq (pow_add 2 52 1074).symm)
  have hround := round_near (Nat.mul_pos hw hcount) hy
  have hcast : (x.units : ℚ) / ((2 ^ 1074 * count : ℕ) : ℚ) = sum.natAbs / count := by
    rw [hunits]
    exact cast_quotient hw
  rw [hcast] at hround
  refine ⟨y, ?_, hround.2.trans hneg, hround.1⟩
  rw [hx, floatDiv]
  exact hy

theorem nearest_eq_of_near {num den n : ℕ} (hden : 0 < den) (h : |(num : ℚ) / den - n| < 1 / 2) :
    nearest num den = n := by
  have hrounds : Rounds ((num : ℚ) / den) (n : ℤ) := rounds_of_lt (by exact_mod_cast h)
  exact_mod_cast (nearest_rounds num hden).unique hrounds

/-- The double is less than half an integer away from the integer next to the average. -/
theorem near_floatDiv (hcount : 0 < count) (hsum : sum.natAbs < 2 ^ 52)
    (h : ¬ IsHalf sum count) {v : ℚ}
    (hv : |v - sum.natAbs / count| ≤ sum.natAbs / count / 2 ^ 53 + 1 / 2 ^ 1075) :
    |v - ((2 * sum.natAbs + count) / (2 * count) : ℕ)| < 1 / 2 := by
  have hwhole := near_whole hcount h
  have hpos : (0 : ℚ) < count := by exact_mod_cast hcount
  have hsmall : (sum.natAbs : ℚ) ≤ 2 ^ 52 - 1 := by
    have hle : sum.natAbs + 1 ≤ 2 ^ 52 := hsum
    have hcast : ((sum.natAbs : ℕ) : ℚ) + 1 ≤ 2 ^ 52 := by exact_mod_cast hle
    linarith
  have htiny : (1 : ℚ) / 2 ^ 1075 ≤ 1 / 2 ^ 110 :=
    one_div_le_one_div_of_le (by positivity) (pow_le_pow_right₀ (by norm_num) (by norm_num))
  generalize (1 : ℚ) / 2 ^ 1075 = e at hv htiny
  by_cases hmany : 4 * sum.natAbs < count
  · -- The average is less than a quarter.
    have hzero : (2 * sum.natAbs + count) / (2 * count) = 0 := by
      apply Nat.div_eq_of_lt
      omega
    have hquarter : (sum.natAbs : ℚ) / count ≤ 1 / 4 := by
      have hcast : (4 * sum.natAbs : ℚ) ≤ count := by exact_mod_cast hmany.le
      rw [div_le_iff₀ hpos]
      linarith
    have hnonneg : (0 : ℚ) ≤ sum.natAbs / count := by positivity
    rw [hzero, Nat.cast_zero, sub_zero]
    have htriangle := abs_sub_abs_le_abs_sub v (sum.natAbs / count)
    rw [abs_of_nonneg hnonneg] at htriangle
    linarith
  · have hfew : (count : ℚ) ≤ 4 * 2 ^ 52 := by
      have hle : count ≤ 4 * 2 ^ 52 := by omega
      exact_mod_cast hle
    have hpart : (1 : ℚ) / 2 ^ 54 ≤ 1 / count := one_div_le_one_div_of_le hpos (by linarith)
    have hhalf : (1 : ℚ) / (2 * count) = 1 / count / 2 := by
      field_simp
    have hshare : (sum.natAbs : ℚ) / count ≤ (2 ^ 52 - 1) * (1 / count) := by
      rw [div_eq_mul_one_div]
      exact mul_le_mul_of_nonneg_right hsmall (by positivity)
    have htriangle := abs_sub_le v (sum.natAbs / count)
      ((2 * sum.natAbs + count) / (2 * count) : ℕ)
    rw [hhalf] at hwhole
    generalize (1 : ℚ) / count = part at hpart hshare hwhole
    linarith

theorem roundAway_eq_roundFloat (hcount : 0 < count) (hsum : sum.natAbs < 2 ^ 52)
    (h : ¬ IsHalf sum count) : roundAway sum count = roundFloat sum count := by
  obtain ⟨x, hx, hneg, herror⟩ := exists_floatDiv hcount hsum
  have hnear := near_floatDiv hcount hsum h herror
  have hunits : (x.units : ℚ) / (2 ^ 1074 : ℕ) = magnitude x := by
    rw [magnitude, Nat.cast_pow, Nat.cast_ofNat]
  rw [← hunits] at hnear
  have hwhole := nearest_eq_of_near (pow_pos Nat.two_pos 1074) hnear
  rw [roundFloat, hx, floatRound, roundInt, hwhole, hneg, roundAway]
  push_cast
  simp only [decide_eq_true_eq]

end BrainV2.Sql
