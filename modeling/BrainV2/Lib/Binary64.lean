import Mathlib.Data.Nat.Log
import Mathlib.Tactic.Linarith
import Mathlib.Tactic.Ring

/-!
# IEEE binary64 numbers and their decimal texts

A finite double is a sign and `mantissa * 2 ^ scale` units of `2 ^ -1074`, the
smallest positive double.

* `round`: the double nearest to a quotient of naturals, ties to even;
* `ofDecimal`: the double nearest to `digits * 10 ^ exponent`;
* `Finite.decimals`: the decimals close to a double, the shortest first;
* `round_exact`: a quotient that is a double rounds to that double;
* `ofInt_exact`, `round_finite`: which integers are doubles, which quotients have one.
-/

namespace BrainV2.Binary64

/-- A finite double in its one representation. -/
structure Finite where
  negative : Bool
  mantissa : Nat
  scale : Nat
  canonical : mantissa < 2 ^ 53 ∧ scale ≤ 2045 ∧ (scale = 0 ∨ 2 ^ 52 ≤ mantissa)
deriving DecidableEq

inductive Double where
  | finite (x : Finite)
  | infinite (negative : Bool)
  | nan
deriving DecidableEq

namespace Finite

/-- The magnitude in units of `2 ^ -1074`. -/
def units (x : Finite) : Nat := x.mantissa * 2 ^ x.scale

/-- The integer part, towards zero. -/
def trunc (x : Finite) : Int :=
  let whole : Int := x.units / 2 ^ 1074
  if x.negative then -whole else whole

def isZero (x : Finite) : Bool := x.mantissa == 0

end Finite

def zero (negative : Bool) : Finite := ⟨negative, 0, 0, by decide⟩

/-- Carry a mantissa that rounding has brought to `2 ^ 53`. -/
def carry (mantissa scale : Nat) : Nat × Nat :=
  if mantissa = 2 ^ 53 then (2 ^ 52, scale + 1) else (mantissa, scale)

/-- The double of a rounded mantissa; a scale past the largest is an overflow. -/
def pack (negative : Bool) (mantissa scale : Nat) : Double :=
  let (m, k) := carry mantissa scale
  if h : m < 2 ^ 53 ∧ k ≤ 2045 ∧ (k = 0 ∨ 2 ^ 52 ≤ m) then .finite ⟨negative, m, k, h⟩
  else .infinite negative

/-- The quotient rounded to the nearest natural, ties to even. -/
def nearest (num den : Nat) : Nat :=
  let q := num / den
  let r := num % den
  if 2 * r < den ∨ (2 * r = den ∧ q % 2 = 0) then q else q + 1

/-- The double nearest to `num / den`. -/
def round (negative : Bool) (num den : Nat) : Double :=
  let units := num * 2 ^ 1074
  let scale := (units / den).log2 - 52
  pack negative (nearest units (den * 2 ^ scale)) scale

/-- The double nearest to `digits * 10 ^ exponent`. -/
def ofDecimal (negative : Bool) (digits : Nat) (exponent : Int) : Double :=
  if 0 ≤ exponent then round negative (digits * 10 ^ exponent.toNat) 1
  else round negative digits (10 ^ (-exponent).toNat)

def ofInt (n : Int) : Double := round (n < 0) n.natAbs 1

theorem nearest_mul (m den : Nat) (h : 0 < den) : nearest (m * den) den = m := by
  simp [nearest, Nat.mul_div_cancel m h, h]

theorem pack_canonical (x : Finite) : pack x.negative x.mantissa x.scale = .finite x := by
  obtain ⟨negative, m, k, hm, hk, hc⟩ := x
  have hne : m ≠ 2 ^ 53 := Nat.ne_of_lt hm
  simp only [pack, carry, if_neg hne]
  rw [dif_pos ⟨hm, hk, hc⟩]

theorem log2_units (x : Finite) : x.units.log2 - 52 = x.scale := by
  obtain ⟨negative, m, k, hm, hk, hc⟩ := x
  simp only [Finite.units]
  by_cases hz : m = 0
  · subst hz
    have hk0 : k = 0 := by omega
    simp [hk0]
  rcases hc with rfl | hge
  · have hlt : m.log2 < 53 := (Nat.log2_lt hz).mpr hm
    simp only [Nat.pow_zero, Nat.mul_one]
    omega
  · have hlog : (m * 2 ^ k).log2 = 52 + k := by
      have hpos : 0 < 2 ^ k := Nat.two_pow_pos k
      rw [Nat.log2_eq_iff (Nat.mul_ne_zero hz hpos.ne')]
      refine ⟨?_, ?_⟩
      · rw [Nat.pow_add]
        exact Nat.mul_le_mul_right _ hge
      · rw [show 52 + k + 1 = 53 + k by omega, Nat.pow_add]
        exact Nat.mul_lt_mul_of_pos_right hm hpos
    omega

/-- Rounding leaves what is already a double alone. -/
theorem round_exact (x : Finite) {num den : Nat} (hden : 0 < den)
    (h : num * 2 ^ 1074 = x.units * den) : round x.negative num den = .finite x := by
  have hscale : (num * 2 ^ 1074 / den).log2 - 52 = x.scale := by
    rw [h, Nat.mul_div_cancel _ hden]
    exact log2_units x
  have hmantissa : num * 2 ^ 1074 = x.mantissa * (den * 2 ^ x.scale) := by
    rw [h, Finite.units]
    ring
  simp only [round, hscale]
  rw [hmantissa, nearest_mul _ _ (Nat.mul_pos hden (Nat.two_pow_pos _))]
  exact pack_canonical x

/-- An integer of 53 bits is a double. -/
theorem ofInt_exact {n : Int} (h : n.natAbs < 2 ^ 53) :
    ∃ x, ofInt n = .finite x ∧ x.negative = decide (n < 0) ∧ x.units = n.natAbs * 2 ^ 1074 := by
  cases Nat.eq_zero_or_pos n.natAbs with
  | inl hzero =>
    refine ⟨zero (n < 0), round_exact (zero (n < 0)) Nat.one_pos ?_, rfl, ?_⟩
    · rw [hzero, Nat.zero_mul]
      rfl
    · rw [hzero, Nat.zero_mul]
      rfl
  | inr hpos =>
    have hlog : n.natAbs.log2 < 53 := (Nat.log2_lt hpos.ne').mpr h
    have hle : 2 ^ n.natAbs.log2 ≤ n.natAbs := Nat.log2_self_le hpos.ne'
    have hlt : n.natAbs < 2 ^ (n.natAbs.log2 + 1) := Nat.lt_log2_self
    have hfull : 2 ^ 52 ≤ n.natAbs * 2 ^ (52 - n.natAbs.log2) := by
      calc 2 ^ 52 = 2 ^ n.natAbs.log2 * 2 ^ (52 - n.natAbs.log2) := by
            rw [← Nat.pow_add, Nat.add_sub_of_le (by omega)]
        _ ≤ n.natAbs * 2 ^ (52 - n.natAbs.log2) := Nat.mul_le_mul_right _ hle
    have hbits : n.natAbs * 2 ^ (52 - n.natAbs.log2) < 2 ^ 53 := by
      calc n.natAbs * 2 ^ (52 - n.natAbs.log2)
          < 2 ^ (n.natAbs.log2 + 1) * 2 ^ (52 - n.natAbs.log2) :=
            Nat.mul_lt_mul_of_pos_right hlt (Nat.two_pow_pos _)
        _ = 2 ^ 53 := by rw [← Nat.pow_add]; congr 1; omega
    let x : Finite := ⟨decide (n < 0), n.natAbs * 2 ^ (52 - n.natAbs.log2), 1022 + n.natAbs.log2,
      hbits, by omega, Or.inr hfull⟩
    have hunits : x.units = n.natAbs * 2 ^ 1074 := by
      have hscale : 52 - n.natAbs.log2 + (1022 + n.natAbs.log2) = 1074 := by omega
      calc x.units = n.natAbs * (2 ^ (52 - n.natAbs.log2) * 2 ^ (1022 + n.natAbs.log2)) :=
            Nat.mul_assoc _ _ _
        _ = n.natAbs * 2 ^ 1074 :=
          congrArg (n.natAbs * ·) ((Nat.pow_add ..).symm.trans (congrArg (2 ^ ·) hscale))
    refine ⟨x, round_exact x Nat.one_pos ?_, rfl, hunits⟩
    rw [hunits, Nat.mul_one]

theorem nearest_bounds (num den : Nat) : num / den ≤ nearest num den ∧
    nearest num den ≤ num / den + 1 := by
  simp only [nearest]
  split <;> omega

theorem pack_finite (negative : Bool) {q m : Nat} (hlog : q.log2 ≤ 2096)
    (hm : q / 2 ^ (q.log2 - 52) ≤ m ∧ m ≤ q / 2 ^ (q.log2 - 52) + 1) :
    ∃ x, pack negative m (q.log2 - 52) = .finite x := by
  have hhigh : q / 2 ^ (q.log2 - 52) < 2 ^ 53 := by
    apply Nat.div_lt_of_lt_mul
    calc q < 2 ^ (q.log2 + 1) := Nat.lt_log2_self
      _ ≤ 2 ^ (q.log2 - 52 + 53) := Nat.pow_le_pow_right Nat.two_pos (by omega)
      _ = 2 ^ (q.log2 - 52) * 2 ^ 53 := Nat.pow_add _ _ _
  have hlow : q.log2 - 52 = 0 ∨ 2 ^ 52 ≤ q / 2 ^ (q.log2 - 52) := by
    by_cases hsmall : q.log2 ≤ 52
    · exact Or.inl (Nat.sub_eq_zero_of_le hsmall)
    · right
      have hne : q ≠ 0 := by
        rintro rfl
        exact hsmall (by rw [Nat.log2_zero]; omega)
      rw [Nat.le_div_iff_mul_le (Nat.two_pow_pos _), ← Nat.pow_add, Nat.add_sub_of_le (by omega)]
      exact Nat.log2_self_le hne
  have hscale : q.log2 - 52 ≤ 2044 := by omega
  generalize q.log2 - 52 = k at hm hscale hhigh hlow
  unfold pack carry
  split
  · next m' k' hcarry =>
    split at hcarry
    · obtain ⟨rfl, rfl⟩ := Prod.mk.inj hcarry
      exact ⟨_, dif_pos ⟨by omega, by omega, Or.inr (Nat.le_refl _)⟩⟩
    · obtain ⟨rfl, rfl⟩ := Prod.mk.inj hcarry
      exact ⟨_, dif_pos ⟨by omega, by omega, hlow.imp_right fun hfull => hfull.trans hm.1⟩⟩

/-- A quotient that is not too large has a double. -/
theorem round_finite (negative : Bool) {num den e : Nat} (he : e ≤ 2097)
    (h : num * 2 ^ 1074 / den < 2 ^ e) : ∃ x, round negative num den = .finite x := by
  have hm := nearest_bounds (num * 2 ^ 1074) (den * 2 ^ ((num * 2 ^ 1074 / den).log2 - 52))
  rw [← Nat.div_div_eq_div_mul] at hm
  apply pack_finite negative _ hm
  generalize num * 2 ^ 1074 / den = q at h ⊢
  cases Nat.eq_zero_or_pos q with
  | inl hzero =>
    rw [hzero, Nat.log2_zero]
    omega
  | inr hpos =>
    have hlog := (Nat.log2_lt hpos.ne').mpr h
    omega

theorem pack_units {negative : Bool} {mantissa scale : Nat} {x : Finite}
    (h : pack negative mantissa scale = .finite x) : x.units = mantissa * 2 ^ scale := by
  unfold pack carry at h
  split at h
  next m k hcarry =>
    split at h
    · cases h
      split at hcarry
      · next hfull =>
        obtain ⟨rfl, rfl⟩ := Prod.mk.inj hcarry
        rw [hfull]
        exact (by ring : 2 ^ 52 * 2 ^ (scale + 1) = 2 ^ 53 * 2 ^ scale)
      · obtain ⟨rfl, rfl⟩ := Prod.mk.inj hcarry
        rfl
    · cases h

/-- An integer of more than 53 bits has no double below `2 ^ 53`. -/
theorem ofInt_large {n : Int} (h : 2 ^ 53 ≤ n.natAbs) {x : Finite} (hx : ofInt n = .finite x) :
    2 ^ 53 ≤ x.units / 2 ^ 1074 := by
  let q := n.natAbs * 2 ^ 1074
  have hq : 2 ^ 1127 ≤ q := by
    calc 2 ^ 1127 = 2 ^ 53 * 2 ^ 1074 := pow_add 2 53 1074
      _ ≤ q := Nat.mul_le_mul_right _ h
  have hne : q ≠ 0 := (Nat.lt_of_lt_of_le (Nat.two_pow_pos _) hq).ne'
  have hlog : 1127 ≤ q.log2 := (Nat.le_log2 hne).mpr hq
  obtain ⟨k, hk⟩ : ∃ k, q.log2 - 52 = 1 + k + 1074 := ⟨q.log2 - 1127, by omega⟩
  have hunits : x.units = nearest q (1 * 2 ^ (q.log2 - 52)) * 2 ^ (q.log2 - 52) := by
    rw [ofInt, round, Nat.div_one] at hx
    exact pack_units hx
  have hmantissa : 2 ^ 52 ≤ nearest q (1 * 2 ^ (q.log2 - 52)) := by
    refine le_trans ?_ (nearest_bounds _ _).1
    rw [Nat.one_mul, Nat.le_div_iff_mul_le (Nat.two_pow_pos _), ← Nat.pow_add,
      Nat.add_sub_of_le (by omega)]
    exact Nat.log2_self_le hne
  generalize nearest q (1 * 2 ^ (q.log2 - 52)) = m at hunits hmantissa
  rw [hunits, hk, pow_add 2 (1 + k), ← Nat.mul_assoc, Nat.mul_div_cancel _ (Nat.two_pow_pos _)]
  calc 2 ^ 53 = 2 ^ 52 * 2 ^ 1 := rfl
    _ ≤ m * 2 ^ (1 + k) := Nat.mul_le_mul hmantissa (Nat.pow_le_pow_right Nat.two_pos (by omega))

/-- The exact decimal of a finite double: these digits times `10 ^ -1074`. -/
def Finite.exactDigits (x : Finite) : Nat := x.units * 5 ^ 1074

theorem ten_pow (n : Nat) : 10 ^ n = 5 ^ n * 2 ^ n := by
  rw [← Nat.mul_pow]

theorem ofDecimal_exactDigits (x : Finite) :
    ofDecimal x.negative x.exactDigits (-1074) = .finite x := by
  have hneg : ¬ (0 : Int) ≤ -1074 := by decide
  rw [ofDecimal, if_neg hneg]
  apply round_exact x
  · exact Nat.pow_pos (by omega)
  · rw [show (-(-1074 : Int)).toNat = 1074 by rfl, ten_pow, Finite.exactDigits, Nat.mul_assoc]

/-- The exponent of the leading decimal digit. -/
def Finite.decimalExponent (x : Finite) : Int :=
  ((Nat.toDigits 10 (x.units * 10 ^ 400 / 2 ^ 1074)).length : Int) - 1 - 400

/-- The two decimals of `places` digits around a double, the nearer one first,
the even one of two equally near. -/
def Finite.candidates (x : Finite) (places : Nat) : List (Nat × Int) :=
  let exponent := x.decimalExponent - places + 1
  let num := if 0 ≤ exponent then x.units else x.units * 10 ^ (-exponent).toNat
  let den := if 0 ≤ exponent then 2 ^ 1074 * 10 ^ exponent.toNat else 2 ^ 1074
  let low := num / den
  if nearest num den = low then [(low, exponent), (low + 1, exponent)]
  else [(low + 1, exponent), (low, exponent)]

/-- The decimals of up to seventeen digits, which are always enough to tell a
double from its neighbours, the shortest first. -/
def Finite.decimals (x : Finite) : List (Nat × Int) :=
  (List.range 17).flatMap fun n => x.candidates (n + 1)

end BrainV2.Binary64
