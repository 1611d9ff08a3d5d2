import BrainV2.Lib.HalfEven
import BrainV2.Py.Values
import Mathlib.Data.Nat.Cast.Order.Field

/-!
# Python floats

* `trueDiv`: `a / b` of two integers, the nearest double of their quotient;
* `roundInt`: `round(x)`, ties to even;
* `round_near`, `roundInt_near`: how far these are from the exact quotient.
-/

namespace BrainV2.Py

open Binary64 (Finite Double nearest)
open HalfEven (nearest_rounds)

def quotientTooLarge : PyExc := ⟨.overflowError, "integer division result too large for a float"⟩

/-- A result that has to be a number. -/
def finiteOr (e : PyExc) : Double → Except PyExc Finite
  | .finite x => .ok x
  | _ => .error e

/-- `num / den` for a positive `den`. -/
def trueDiv (num : Int) (den : Nat) : Except PyExc Finite :=
  finiteOr quotientTooLarge (Binary64.round (num < 0) num.natAbs den)

def roundInt (x : Finite) : Int :=
  let whole : Int := nearest x.units (2 ^ 1074)
  if x.negative then -whole else whole

/-- The magnitude of a double. -/
def magnitude (x : Finite) : ℚ := x.units / 2 ^ 1074

variable {num : Int} {den : Nat} {x : Finite}

theorem carry_units (mantissa scale : Nat) :
    (Binary64.carry mantissa scale).1 * 2 ^ (Binary64.carry mantissa scale).2 =
      mantissa * 2 ^ scale := by
  unfold Binary64.carry
  split
  · next h =>
    rw [h, Nat.pow_succ]
    ring
  · rfl

theorem pack_units {negative : Bool} {mantissa scale : Nat}
    (h : Binary64.pack negative mantissa scale = .finite x) :
    x.units = mantissa * 2 ^ scale ∧ x.negative = negative := by
  unfold Binary64.pack at h
  have hcarry := carry_units mantissa scale
  revert h hcarry
  cases Binary64.carry mantissa scale with
  | mk m k =>
    intro h hcarry
    simp only at h hcarry
    split at h
    · obtain rfl := Double.finite.inj h
      exact ⟨hcarry, rfl⟩
    · cases h

/-- Half of the smallest positive double is very little. -/
theorem tiny_le : (1 : ℚ) / 2 ^ 1075 ≤ 1 / 2 := by
  have hpow : (1 : ℚ) ≤ 2 ^ 1074 := one_le_pow₀ (by norm_num)
  rw [pow_succ (2 : ℚ) 1074]
  generalize (2 : ℚ) ^ 1074 = w at hpow
  rw [div_le_div_iff₀ (by linarith) (by norm_num)]
  linarith

/-- The last place of the double of a quotient, in units of `2 ^ -1074`. -/
theorem lastPlace_le (units den : Nat) :
    (2 : ℚ) ^ ((units / den).log2 - 52) ≤ 1 + units / den / 2 ^ 52 := by
  have hquotient : (0 : ℚ) ≤ units / den / 2 ^ 52 := by positivity
  by_cases hsmall : (units / den).log2 ≤ 52
  · rw [Nat.sub_eq_zero_of_le hsmall, pow_zero]
    linarith
  have hne : units / den ≠ 0 := by
    intro hzero
    rw [hzero] at hsmall
    simp at hsmall
  have hpow : 2 ^ (units / den).log2 ≤ units / den := Nat.log2_self_le hne
  have hfloor : ((units / den : ℕ) : ℚ) ≤ units / den := Nat.cast_div_le
  have hsplit : (2 : ℚ) ^ (units / den).log2 = 2 ^ ((units / den).log2 - 52) * 2 ^ 52 := by
    rw [← pow_add, Nat.sub_add_cancel (by omega)]
  have hle : (2 : ℚ) ^ ((units / den).log2 - 52) * 2 ^ 52 ≤ units / den := by
    rw [← hsplit]
    exact le_trans (by exact_mod_cast hpow) hfloor
  have hdiv : (2 : ℚ) ^ ((units / den).log2 - 52) ≤ units / den / 2 ^ 52 := by
    rwa [le_div_iff₀ (by positivity)]
  linarith

/-- Rounding a quotient moves it by half a unit of the last place at most. -/
theorem round_near {negative : Bool} {num : Nat} (hden : 0 < den)
    (h : Binary64.round negative num den = .finite x) :
    |magnitude x - num / den| ≤ num / den / 2 ^ 53 + 1 / 2 ^ 1075 ∧ x.negative = negative := by
  obtain ⟨hunits, hneg⟩ := pack_units h
  refine ⟨?_, hneg⟩
  set units := num * 2 ^ 1074 with hunitsDef
  set place : ℕ := 2 ^ ((units / den).log2 - 52) with hplace
  have hplacePos : (0 : ℚ) < place := by
    rw [hplace]
    positivity
  have hdenPos : (0 : ℚ) < den := by exact_mod_cast hden
  have hnear := (nearest_rounds units (Nat.mul_pos hden (Nat.two_pow_pos _)) :
    HalfEven.Rounds ((units : ℚ) / (den * place : ℕ)) (nearest units (den * place))).near
  have hle : (place : ℚ) ≤ 1 + units / den / 2 ^ 52 := by
    have hlast := lastPlace_le units den
    rw [hplace]
    push_cast
    exact hlast
  have hquotient : (units : ℚ) / den = num / den * 2 ^ 1074 := by
    rw [hunitsDef, Nat.cast_mul, Nat.cast_pow, Nat.cast_ofNat]
    exact mul_div_right_comm _ _ _
  -- The error of the mantissa is that of the double, in units of the last place.
  have herror : |(x.units : ℚ) - units / den| ≤ place / 2 := by
    have hscaled : (x.units : ℚ) - units / den =
        -((units : ℚ) / (den * place : ℕ) - (nearest units (den * place) : ℤ)) * place := by
      rw [hunits]
      push_cast
      field_simp
      ring
    rw [hscaled, abs_mul, abs_neg, abs_of_pos hplacePos]
    calc _ ≤ 1 / 2 * (place : ℚ) := mul_le_mul_of_nonneg_right hnear hplacePos.le
      _ = place / 2 := by ring
  have hmagnitude : magnitude x - num / den = ((x.units : ℚ) - units / den) / 2 ^ 1074 := by
    rw [magnitude, hquotient]
    field_simp
  rw [hmagnitude, abs_div, abs_of_pos (by positivity : (0 : ℚ) < 2 ^ 1074),
    div_le_iff₀ (by positivity)]
  calc |(x.units : ℚ) - units / den| ≤ place / 2 := herror
    _ ≤ (1 + units / den / 2 ^ 52) / 2 := by linarith
    _ = (num / den / 2 ^ 53 + 1 / 2 ^ 1075) * 2 ^ 1074 := by
      rw [hquotient, pow_succ (2 : ℚ) 1074]
      have hscale : (2 : ℚ) ^ 1074 ≠ 0 := by positivity
      generalize (2 : ℚ) ^ 1074 = scale at hscale ⊢
      field_simp
      ring

theorem finiteOr_ok {e : PyExc} {d : Double} (h : finiteOr e d = .ok x) : d = .finite x := by
  cases d with
  | finite y => exact congrArg Double.finite (Except.ok.inj h)
  | infinite negative => cases h
  | nan => cases h

theorem trueDiv_ok (h : trueDiv num den = .ok x) :
    Binary64.round (num < 0) num.natAbs den = .finite x := by
  exact finiteOr_ok h

/-- The rounded quotient of naturals. -/
theorem roundInt_near {num : Nat} (hden : 0 < den) (h : trueDiv num den = .ok x) :
    |(roundInt x : ℚ) - num / den| ≤ 1 / 2 + num / den / 2 ^ 53 + 1 / 2 ^ 1075 ∧
      0 ≤ roundInt x := by
  obtain ⟨hnear, hneg⟩ := round_near hden (trueDiv_ok h)
  have hpositive : x.negative = false := by
    rw [hneg]
    simp
  have hround := (nearest_rounds x.units (Nat.two_pow_pos 1074)).near
  have heq : roundInt x = (nearest x.units (2 ^ 1074) : ℕ) := by
    simp only [roundInt, hpositive, Bool.false_eq_true, if_false]
  rw [heq]
  refine ⟨?_, Int.natCast_nonneg _⟩
  have hmagnitude : (x.units : ℚ) / (2 ^ 1074 : ℕ) = magnitude x := by
    rw [magnitude, Nat.cast_pow, Nat.cast_ofNat]
  rw [hmagnitude, abs_sub_comm] at hround
  have htriangle := abs_sub_le ((nearest x.units (2 ^ 1074) : ℤ) : ℚ) (magnitude x)
    ((num : ℚ) / den)
  rw [Int.natAbs_natCast] at hnear
  linarith

end BrainV2.Py
