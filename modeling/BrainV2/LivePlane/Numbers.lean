import BrainV2.Metrics.Registry

/-!
# Numbers of the live plane

* `bp`, `bigInt`: a ratio in basis points, and `BigInt` of a number;
* `Reads`: a number that may be missing reads as an integer;
* `units`, `atLeast`: the comparison of a number with an integer;
* `times`, `minus`, `roundNumber`: arithmetic of numbers, and `Math.round`.
-/

namespace BrainV2.LivePlane

open Binary64 (Double Finite ofInt)
open Js (Result bigIntOfNumber)
open Metrics.Registry (InInt32 isInt32)

def bp (numerator denominator : Int) : Option Double :=
  if denominator = 0 then none else some (ofInt ((numerator * 10000).tdiv denominator))

/-- `BigInt(number)` -/
def bigInt (number : Double) : Result Int :=
  match bigIntOfNumber number with
  | some n => .ok n
  | none => .error .rangeError

/-- A number of JavaScript reads as an integer. -/
def Reads : Option Double → Option Int → Prop
  | none, none => True
  | some x, some n => bigIntOfNumber x = some n
  | _, _ => False

theorem bigInt_ofInt {n : Int} (h : InInt32 n) : bigInt (ofInt n) = .ok n := by
  have hsmall := Metrics.Registry.natAbs_of_inInt32 h
  rw [bigInt, Metrics.Registry.bigIntOfNumber_ofInt hsmall]

/-- What reads as an integer is one, and truncates to it. -/
theorem bigIntOfNumber_finite {x : Finite} {n : Int} (h : bigIntOfNumber (.finite x) = some n) :
    Js.isInteger (.finite x) = true ∧ x.trunc = n := by
  rw [bigIntOfNumber] at h
  by_cases hinteger : Js.isInteger (.finite x) = true
  · rw [if_pos hinteger] at h
    exact ⟨hinteger, Option.some.inj h⟩
  · rw [if_neg hinteger] at h
    cases h

theorem isInt32_of_bigIntOfNumber {x : Double} {n : Int} (h : bigIntOfNumber x = some n)
    (hn : InInt32 n) : isInt32 x = true := by
  cases x with
  | finite x =>
    obtain ⟨hinteger, htrunc⟩ := bigIntOfNumber_finite h
    rw [isInt32, hinteger, htrunc, decide_eq_true hn.1, decide_eq_true hn.2]
    rfl
  | infinite negative => cases h
  | nan => cases h

theorem bigIntOfNumber_iff {q n : Int} (hn : InInt32 n) :
    bigIntOfNumber (ofInt q) = some n ↔ q = n := by
  constructor
  · intro h
    have hq := (Metrics.Registry.isInt32_ofInt q).mp (isInt32_of_bigIntOfNumber h hn)
    rw [Metrics.Registry.bigIntOfNumber_ofInt (Metrics.Registry.natAbs_of_inInt32 hq)] at h
    exact Option.some.inj h
  · rintro rfl
    exact Metrics.Registry.bigIntOfNumber_ofInt (Metrics.Registry.natAbs_of_inInt32 hn)

/-! ### Comparisons -/

/-- A finite number in units of the least one. -/
def units (x : Finite) : Int := if x.negative then -(x.units : Int) else x.units

/-- `x >= n`, the integer being exact as a number. -/
def atLeast (x : Double) (n : Int) : Bool :=
  match x with
  | .finite x => decide (n * 2 ^ 1074 ≤ units x)
  | .infinite negative => !negative
  | .nan => false

/-- `x <= n` -/
def atMost (x : Double) (n : Int) : Bool :=
  match x with
  | .finite x => decide (units x ≤ n * 2 ^ 1074)
  | .infinite negative => negative
  | .nan => false

theorem units_of_isInteger {x : Finite} (h : Js.isInteger (.finite x) = true) :
    units x = x.trunc * 2 ^ 1074 := by
  have hrest : x.units % 2 ^ 1074 = 0 := by rwa [Js.isInteger, beq_iff_eq] at h
  have hwhole : ((x.units / 2 ^ 1074 : Nat) : Int) * 2 ^ 1074 = x.units := by
    exact_mod_cast Nat.div_mul_cancel (Nat.dvd_of_mod_eq_zero hrest)
  have hcast : (x.units : Int) / 2 ^ 1074 = (x.units / 2 ^ 1074 : Nat) := by
    rw [Int.natCast_ediv, Nat.cast_pow, Nat.cast_ofNat]
  rw [units, Finite.trunc, hcast]
  generalize (x.units / 2 ^ 1074 : Nat) = whole at hwhole
  split
  · rw [Int.neg_mul, hwhole]
  · exact hwhole.symm

theorem atLeast_iff {x : Double} {q : Int} (h : bigIntOfNumber x = some q) (n : Int) :
    atLeast x n = true ↔ n ≤ q := by
  cases x with
  | finite x =>
    obtain ⟨hinteger, htrunc⟩ := bigIntOfNumber_finite h
    rw [atLeast, decide_eq_true_eq, units_of_isInteger hinteger, htrunc]
    exact mul_le_mul_iff_left₀ (pow_pos (by decide) _)
  | infinite negative => cases h
  | nan => cases h

theorem atMost_iff {x : Double} {q : Int} (h : bigIntOfNumber x = some q) (n : Int) :
    atMost x n = true ↔ q ≤ n := by
  cases x with
  | finite x =>
    obtain ⟨hinteger, htrunc⟩ := bigIntOfNumber_finite h
    rw [atMost, decide_eq_true_eq, units_of_isInteger hinteger, htrunc]
    exact mul_le_mul_iff_left₀ (pow_pos (by decide) _)
  | infinite negative => cases h
  | nan => cases h

/-! ### Arithmetic -/

/-- The double nearest to a quotient of an integer by a natural. -/
def nearestTo (n : Int) (den : Nat) : Double := Binary64.round (n < 0) n.natAbs den

/-- `x * y` -/
def times : Double → Double → Double
  | .finite x, .finite y =>
    Binary64.round (x.negative != y.negative) (x.units * y.units) (2 ^ 1074 * 2 ^ 1074)
  | .finite x, .infinite negative | .infinite negative, .finite x =>
    if x.isZero then .nan else .infinite (x.negative != negative)
  | .infinite negative, .infinite negative' => .infinite (negative != negative')
  | .nan, _ | _, .nan => .nan

/-- `x - y` -/
def minus : Double → Double → Double
  | .finite x, .finite y => nearestTo (units x - units y) (2 ^ 1074)
  | .finite _, .infinite negative => .infinite (!negative)
  | .infinite negative, .finite _ => .infinite negative
  | .infinite negative, .infinite negative' =>
    if negative = negative' then .nan else .infinite negative
  | .nan, _ | _, .nan => .nan

/-- `Math.max(low, Math.min(high, x))` -/
def clamp (low high : Int) (x : Double) : Double :=
  if atMost x low then ofInt low else if atLeast x high then ofInt high else x

/-- `Math.round(x)` -/
def roundNumber : Double → Double
  | .finite x => ofInt ((2 * units x + 2 ^ 1074) / (2 * 2 ^ 1074))
  | other => other

end BrainV2.LivePlane
