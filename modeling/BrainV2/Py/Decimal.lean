import BrainV2.Lib.HalfEven
import BrainV2.Py.Values

/-!
# The decimal module of Python

Decimal numbers and the operations on them in the default context, which keeps
28 digits and rounds halves to even.

* `Decimal`, `ofText`: a number and `Decimal(text)`;
* `fix`: the rounding to the context that ends every operation;
* `mulInt`, `quantizeOne`, `toInt`: the product with an integer, `quantize` to an
  integer and `int`;
* `fixFinite_spec`, `quantizeOne_spec`: what these make of a number, as a
  rational.
-/

namespace BrainV2.Py

open Binary64 (nearest)
open HalfEven (Rounds)

inductive DecimalExc where
  | invalidOperation
  | overflow
  | valueError
  | overflowError
deriving DecidableEq, Repr

inductive Decimal where
  | finite (negative : Bool) (coefficient : Nat) (exponent : Int)
  | infinity (negative : Bool)
  | nan (signaling : Bool)
deriving DecidableEq, Repr

namespace Decimal

/-- The context: `prec`, `Emin` and `Emax`. -/
def prec : Nat := 28
def emin : Int := -999999
def emax : Int := 999999
def etiny : Int := emin - prec + 1
def etop : Int := emax - prec + 1

/-- The length of the coefficient's text. -/
def numDigits (coefficient : Nat) : Nat := Nat.log 10 coefficient + 1

/-- The blanks that `str.strip` takes away. -/
def isBlank (c : Char) : Bool := isSpace c || (0x1c ≤ c.toNat && c.toNat ≤ 0x1f)

def isDigit (c : Char) : Bool := (decimalDigit c).isSome

def digitsValue (ds : List Char) : Nat :=
  ds.foldl (fun n c => 10 * n + (decimalDigit c).getD 0) 0

/-- The digits at the front, and the rest. -/
def splitDigits (cs : List Char) : List Char × List Char :=
  (cs.takeWhile isDigit, cs.dropWhile isDigit)

/-- The digits behind a point, when there is one, and the rest. -/
def splitFraction : List Char → List Char × List Char
  | '.' :: cs => splitDigits cs
  | cs => ([], cs)

/-- What follows the digits: nothing, or an exponent. -/
def scanExponent : List Char → Option Int
  | [] => some 0
  | c :: cs =>
    if c = 'e' ∨ c = 'E' then
      let (negative, cs) := match cs with
        | '-' :: cs => (true, cs)
        | '+' :: cs => (false, cs)
        | cs => (false, cs)
      if cs ≠ [] ∧ cs.all isDigit then
        some (if negative then -(digitsValue cs : Int) else digitsValue cs)
      else none
    else none

def isName (name : String) (cs : List Char) : Bool := cs.map Char.toLower == name.toList

/-- The text behind the sign. -/
def scanMagnitude (negative : Bool) (cs : List Char) : Option Decimal :=
  let (whole, rest) := splitDigits cs
  let (fraction, rest) := splitFraction rest
  if whole ++ fraction ≠ [] then
    (scanExponent rest).map fun exponent =>
      .finite negative (digitsValue (whole ++ fraction)) (exponent - fraction.length)
  else if isName "inf" cs || isName "infinity" cs then some (.infinity negative)
  else if isName "nan" (cs.take 3) && (cs.drop 3).all isDigit then some (.nan false)
  else if isName "snan" (cs.take 4) && (cs.drop 4).all isDigit then some (.nan true)
  else none

def scan : List Char → Option Decimal
  | '-' :: cs => scanMagnitude true cs
  | '+' :: cs => scanMagnitude false cs
  | cs => scanMagnitude false cs

/-- `Decimal(text)` -/
def ofText (text : String) : Except DecimalExc Decimal :=
  match scan (((text.toList.dropWhile isBlank).rdropWhile isBlank).filter (· ≠ '_')) with
  | some d => .ok d
  | none => .error .invalidOperation

/-- A coefficient that has grown to 29 digits loses the last one, a zero. -/
def carry (coeff : Nat) (exponent : Int) : Nat × Int :=
  if prec < numDigits coeff then (coeff / 10, exponent + 1) else (coeff, exponent)

/-- The coefficient and the exponent of a finite result, rounded to the context. -/
def fixFinite (coefficient : Nat) (exponent : Int) : Except DecimalExc (Nat × Int) :=
  if coefficient = 0 then .ok (0, min (max exponent etiny) emax)
  else
    let expMin := numDigits coefficient + exponent - prec
    if etop < expMin then .error .overflow
    else
      let expMin := max expMin etiny
      if exponent < expMin then
        let coeff := nearest coefficient (10 ^ (expMin - exponent).toNat)
        if etop < (carry coeff expMin).2 then .error .overflow else .ok (carry coeff expMin)
      else .ok (coefficient, exponent)

def fix (negative : Bool) (coefficient : Nat) (exponent : Int) : Except DecimalExc Decimal :=
  (fixFinite coefficient exponent).map fun (coefficient, exponent) =>
    .finite negative coefficient exponent

/-- `d * Decimal(n)` -/
def mulInt (d : Decimal) (n : Int) : Except DecimalExc Decimal :=
  match d with
  | .finite negative coefficient exponent =>
    fix (negative != decide (n < 0)) (coefficient * n.natAbs) exponent
  | .infinity negative =>
    if n = 0 then .error .invalidOperation else .ok (.infinity (negative != decide (n < 0)))
  | .nan true => .error .invalidOperation
  | .nan false => .ok (.nan false)

/-- `d.quantize(Decimal("1"), rounding=ROUND_HALF_EVEN)` -/
def quantizeOne : Decimal → Except DecimalExc Decimal
  | .finite negative 0 _ => fix negative 0 0
  | .finite negative coefficient exponent =>
    let adjusted := numDigits coefficient + exponent - 1
    if emax < adjusted ∨ prec < adjusted + 1 then .error .invalidOperation
    else
      let rescaled := if 0 ≤ exponent then coefficient * 10 ^ exponent.toNat
        else nearest coefficient (10 ^ (-exponent).toNat)
      if prec < numDigits rescaled then .error .invalidOperation else fix negative rescaled 0
  | .infinity _ => .error .invalidOperation
  | .nan true => .error .invalidOperation
  | .nan false => .ok (.nan false)

/-- `int(d)` -/
def toInt : Decimal → Except DecimalExc Int
  | .finite negative coefficient exponent =>
    let whole := if 0 ≤ exponent then coefficient * 10 ^ exponent.toNat
      else coefficient / 10 ^ (-exponent).toNat
    .ok (if negative then -(whole : Int) else whole)
  | .infinity _ => .error .overflowError
  | .nan _ => .error .valueError

/-! ### What the operations make of a number -/

/-- The magnitude of a finite number. -/
def magnitude (coefficient : Nat) (exponent : Int) : ℚ := coefficient * 10 ^ exponent

/-- `s` is `v` rounded to the context: exact when 28 digits are enough, else the nearest number
of 28 digits, or of the smallest exponent. -/
def Fixed (v s : ℚ) : Prop :=
  (s = v ∧ ∃ (c : ℕ) (e : ℤ), v = magnitude c e ∧ c < 10 ^ 28) ∨
    ∃ M e : ℤ, s = M * 10 ^ e ∧ Rounds (v * 10 ^ (-e)) M ∧ v * 10 ^ (-e) < 10 ^ 28 ∧
      (10 ^ 27 ≤ v * 10 ^ (-e) ∨ e = etiny)

section

variable {c : Nat} {e : Int}

theorem etop_eq : etop = 999972 := rfl

theorem etiny_eq : etiny = -1000026 := rfl

theorem ten_zpow_pos (e : ℤ) : (0 : ℚ) < 10 ^ e := zpow_pos (by norm_num) e

theorem numDigits_le_iff (hc : c ≠ 0) {n : Nat} : numDigits c ≤ n ↔ c < 10 ^ n := by
  rw [numDigits, Nat.succ_le_iff, Nat.log_lt_iff_lt_pow (by omega) hc]

theorem magnitude_lt (c : Nat) (e : Int) : magnitude c e < 10 ^ (numDigits c + e) := by
  have hlt : c < 10 ^ numDigits c := Nat.lt_pow_succ_log_self (by omega) c
  rw [magnitude, zpow_add₀ (by norm_num), zpow_natCast]
  apply mul_lt_mul_of_pos_right _ (ten_zpow_pos e)
  exact_mod_cast hlt

theorem le_magnitude (hc : c ≠ 0) (e : Int) : 10 ^ (numDigits c + e - 1) ≤ magnitude c e := by
  have hle : 10 ^ Nat.log 10 c ≤ c := Nat.pow_log_le_self 10 hc
  have hexponent : (numDigits c : ℤ) + e - 1 = (Nat.log 10 c : ℕ) + e := by
    rw [numDigits]
    push_cast
    ring
  rw [magnitude, hexponent, zpow_add₀ (by norm_num), zpow_natCast]
  apply mul_le_mul_of_nonneg_right _ (ten_zpow_pos e).le
  exact_mod_cast hle

/-- `nearest` rounds the number in units of a higher power of ten. -/
theorem nearest_rounds_magnitude (c : Nat) {e e' : Int} (h : e ≤ e') :
    Rounds (magnitude c e * 10 ^ (-e')) (nearest c (10 ^ (e' - e).toNat)) := by
  have hround := HalfEven.nearest_rounds c (Nat.pow_pos (n := (e' - e).toNat) (by omega : 0 < 10))
  have hscale : magnitude c e * 10 ^ (-e') = c / (10 ^ (e' - e).toNat : ℕ) := by
    have hnat : ((10 ^ (e' - e).toNat : ℕ) : ℚ) = 10 ^ (e' - e) := by
      rw [Nat.cast_pow, Nat.cast_ofNat, ← zpow_natCast, Int.toNat_of_nonneg (by omega)]
    rw [magnitude, hnat, zpow_sub₀ (by norm_num), zpow_neg]
    field_simp
  rwa [hscale]

theorem rounds_ten_pow (n : ℕ) : Rounds (10 ^ n) (10 ^ n) := by
  have h := HalfEven.rounds_intCast (10 ^ n)
  push_cast at h
  exact h

theorem fixFinite_small (h : c < 10 ^ 28) : fixFinite c 0 = .ok (c, 0) := by
  by_cases hc : c = 0
  · subst hc
    rfl
  · have hdigits : numDigits c ≤ 28 := (numDigits_le_iff hc).mpr h
    simp only [fixFinite, if_neg hc]
    rw [if_neg (by rw [etop_eq, prec]; omega), if_neg (by rw [etiny_eq, prec]; omega)]

/-- A number is rounded to an integer of at most 28 digits, or not at all. -/
theorem quantizeOne_spec (negative : Bool) (c : Nat) (e : Int) :
    ∃ r : ℕ, Rounds (magnitude c e) r ∧ quantizeOne (.finite negative c e) =
      if r < 10 ^ 28 then .ok (.finite negative r 0) else .error .invalidOperation := by
  by_cases hc : c = 0
  · subst hc
    refine ⟨0, ?_, rfl⟩
    simpa [magnitude] using HalfEven.rounds_intCast 0
  let r : ℕ := if 0 ≤ e then c * 10 ^ e.toNat else nearest c (10 ^ (-e).toNat)
  have hround : Rounds (magnitude c e) r := by
    by_cases he : 0 ≤ e
    · have hint : magnitude c e = ((c * 10 ^ e.toNat : ℕ) : ℤ) := by
        rw [magnitude]
        push_cast
        rw [← zpow_natCast, Int.toNat_of_nonneg he]
      simp only [r, if_pos he]
      rw [hint]
      exact HalfEven.rounds_intCast _
    · have h := nearest_rounds_magnitude c (Int.le_of_not_le he)
      simpa [r, if_neg he] using h
  refine ⟨r, hround, ?_⟩
  have hquantize : quantizeOne (.finite negative c e) =
      if emax < numDigits c + e - 1 ∨ prec < numDigits c + e - 1 + 1 then .error .invalidOperation
      else if prec < numDigits r then .error .invalidOperation else fix negative r 0 := by
    cases c with
    | zero => exact absurd rfl hc
    | succ c => rfl
  clear_value r
  have hrange : (emax < numDigits c + e - 1 ∨ prec < numDigits c + e - 1 + 1) ↔
      ¬ numDigits c + e ≤ 28 := by
    have hemax : emax = 999999 := rfl
    have hprec : ((prec : ℕ) : ℤ) = 28 := rfl
    omega
  rw [hquantize]
  by_cases hlarge : numDigits c + e ≤ 28
  · rw [if_neg (by rw [hrange]; exact not_not.mpr hlarge)]
    by_cases hr : r < 10 ^ 28
    · have hdigits : ¬ prec < numDigits r := by
        by_cases hzero : r = 0
        · rw [hzero]
          decide
        · exact Nat.not_lt.mpr ((numDigits_le_iff hzero).mpr hr)
      rw [if_neg hdigits, if_pos hr, fix, fixFinite_small hr]
      rfl
    · have hzero : r ≠ 0 := by
        rintro rfl
        exact hr (by decide)
      have hdigits : prec < numDigits r := Nat.lt_of_not_le (mt (numDigits_le_iff hzero).mp hr)
      rw [if_pos hdigits, if_neg hr]
  · have hbig : (10 : ℚ) ^ 28 ≤ magnitude c e := by
      refine le_trans ?_ (le_magnitude hc e)
      rw [← zpow_natCast]
      exact zpow_le_zpow_right₀ (by norm_num) (by push_cast; omega)
    have hr : ¬ r < 10 ^ 28 := by
      have hle := (rounds_ten_pow 28).mono hround hbig
      have hle' : 10 ^ 28 ≤ r := by exact_mod_cast hle
      exact Nat.not_lt.mpr hle'
    rw [if_pos (hrange.mpr hlarge), if_neg hr]

/-- The unit of the 28th digit, or the smallest one. -/
theorem Fixed.of_nearest (hc : c ≠ 0) {e' : Int} (hlt : e < e')
    (hlow : numDigits c + e - 28 ≤ e') (hunit : numDigits c + e - 28 = e' ∨ e' = etiny) :
    nearest c (10 ^ (e' - e).toNat) ≤ 10 ^ 28 ∧
      Fixed (magnitude c e) (magnitude (nearest c (10 ^ (e' - e).toNat)) e') := by
  have hround := nearest_rounds_magnitude c hlt.le
  have hhigh : magnitude c e * 10 ^ (-e') < 10 ^ 28 := by
    calc magnitude c e * 10 ^ (-e') < 10 ^ (numDigits c + e) * 10 ^ (-e') :=
          mul_lt_mul_of_pos_right (magnitude_lt c e) (ten_zpow_pos _)
      _ = 10 ^ (numDigits c + e + -e') := (zpow_add₀ (by norm_num) _ _).symm
      _ ≤ 10 ^ 28 := by
        rw [← zpow_natCast]
        exact zpow_le_zpow_right₀ (by norm_num) (by push_cast; omega)
  constructor
  · have hle := hround.mono (rounds_ten_pow 28) hhigh.le
    exact_mod_cast hle
  · refine Or.inr ⟨nearest c (10 ^ (e' - e).toNat), e', by rfl, hround, hhigh, ?_⟩
    refine hunit.imp_left fun heq => ?_
    calc (10 : ℚ) ^ 27 = 10 ^ (numDigits c + e - 1 + -e') := by
          rw [← zpow_natCast]
          congr 1
          push_cast
          omega
      _ = 10 ^ (numDigits c + e - 1) * 10 ^ (-e') := zpow_add₀ (by norm_num) _ _
      _ ≤ magnitude c e * 10 ^ (-e') :=
          mul_le_mul_of_nonneg_right (le_magnitude hc e) (ten_zpow_pos _).le

theorem carry_le (c : Nat) (e : Int) : (carry c e).2 ≤ e + 1 := by
  unfold carry
  split
  · exact le_refl _
  · simp

/-- Only `10 ^ 28` is carried. -/
theorem magnitude_carry (h : c ≤ 10 ^ 28) :
    magnitude (carry c e).1 (carry c e).2 = magnitude c e := by
  unfold carry
  split
  · rename_i hdigits
    have hc : c = 10 ^ 28 := by
      have hzero : c ≠ 0 := by
        rintro rfl
        exact absurd hdigits (by decide)
      have hge := mt (numDigits_le_iff hzero).mpr (Nat.not_le.mpr hdigits)
      simp only [prec] at hge
      omega
    rw [hc, magnitude, magnitude, zpow_add₀ (by norm_num)]
    norm_num
    ring
  · rfl

theorem fixFinite_spec (c : Nat) (e : Int) :
    (fixFinite c e = .error .overflow ∧ 10 ^ 28 ≤ magnitude c e) ∨
      ∃ c' e', fixFinite c e = .ok (c', e') ∧ Fixed (magnitude c e) (magnitude c' e') := by
  by_cases hc : c = 0
  · subst hc
    right
    refine ⟨0, _, rfl, Or.inl ⟨by simp [magnitude], 0, e, rfl, by decide⟩⟩
  have hlarge : etop < numDigits c + e - 28 + 1 → (10 : ℚ) ^ 28 ≤ magnitude c e := by
    intro h
    refine le_trans ?_ (le_magnitude hc e)
    rw [← zpow_natCast]
    rw [etop_eq] at h
    exact zpow_le_zpow_right₀ (by norm_num) (by push_cast; omega)
  have hprec : ((prec : ℕ) : ℤ) = 28 := rfl
  simp only [fixFinite, if_neg hc, hprec]
  by_cases hover : etop < numDigits c + e - 28
  · rw [if_pos hover]
    exact Or.inl ⟨rfl, hlarge (by omega)⟩
  rw [if_neg hover]
  by_cases hlt : e < max (numDigits c + e - 28) etiny
  · rw [if_pos hlt]
    generalize hmax : max (numDigits c + e - 28) etiny = e' at hlt ⊢
    obtain ⟨hle, hfixed⟩ := Fixed.of_nearest hc hlt (by omega) (by omega)
    generalize nearest c (10 ^ (e' - e).toNat) = M at hle hfixed ⊢
    by_cases hover' : etop < (carry M e').2
    · rw [if_pos hover']
      have hstep := carry_le M e'
      refine Or.inl ⟨rfl, hlarge ?_⟩
      rw [etop_eq] at *
      rw [etiny_eq] at hmax
      omega
    · rw [if_neg hover']
      refine Or.inr ⟨(carry M e').1, (carry M e').2, rfl, ?_⟩
      rwa [magnitude_carry hle]
  · rw [if_neg hlt]
    refine Or.inr ⟨c, e, rfl, Or.inl ⟨rfl, c, e, rfl, ?_⟩⟩
    apply (numDigits_le_iff hc).mp
    omega

end

end Decimal

end BrainV2.Py
