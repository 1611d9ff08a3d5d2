import BrainV2.Lib.Digits
import BrainV2.Lib.Json.Reader
import Mathlib.Data.Nat.Prime.Basic

/-!
# Numbers of JavaScript

* `trim`, `bigInt`: `String.prototype.trim` and `BigInt` of a text;
* `numberText`: `Number.prototype.toString`, from the shortest decimal that
  reads back;
* `isInteger`, `bigIntOfNumber`: `Number.isInteger` and `BigInt` of a number;
* `IsNat`: the number is a natural, and what the functions make of it;
* `numberText_ten_pow`: a power of ten has one digit more than its exponent as
  long as it is written without an exponent.
-/

namespace BrainV2.Js

open Binary64 (Double Finite ofDecimal)

def isSpace (c : Char) : Bool :=
  let n := c.toNat
  (9 ≤ n && n ≤ 13) || n == 0x20 || n == 0xa0 || n == 0x1680 || (0x2000 ≤ n && n ≤ 0x200a) ||
    n == 0x2028 || n == 0x2029 || n == 0x202f || n == 0x205f || n == 0x3000 || n == 0xfeff

def trim (cs : List Char) : List Char := (cs.dropWhile isSpace).rdropWhile isSpace

/-- Digits of a base other than ten. -/
def radixDigits (base : Nat) (cs : List Char) : Option Nat :=
  if cs = [] then none
  else cs.foldlM (fun n c => do
    let d ← Json.hexValue c
    if d < base then some (n * base + d) else none) 0

def decimalDigits (cs : List Char) : Option Nat :=
  if cs ≠ [] ∧ cs.all Char.isDigit then some (Digits.value cs) else none

/-- `BigInt(text)`; `none` stands for the `SyntaxError`. -/
def bigInt (text : List Char) : Option Int :=
  match trim text with
  | [] => some 0
  | '0' :: 'x' :: cs | '0' :: 'X' :: cs => (radixDigits 16 cs).map (↑)
  | '0' :: 'o' :: cs | '0' :: 'O' :: cs => (radixDigits 8 cs).map (↑)
  | '0' :: 'b' :: cs | '0' :: 'B' :: cs => (radixDigits 2 cs).map (↑)
  | '+' :: cs => (decimalDigits cs).map (↑)
  | '-' :: cs => (decimalDigits cs).map fun n => -(n : Int)
  | cs => (decimalDigits cs).map (↑)

/-- The shortest decimal that reads back as the number, as digits and an exponent. -/
def shortest (x : Finite) : Nat × Int :=
  (x.decimals.find? fun d => ofDecimal x.negative d.1 d.2 = .finite x).getD
    (x.exactDigits, -1074)

/-- The text of `digits * 10 ^ exponent`; plain up to 21 digits. -/
def decimalText (digits : Nat) (exponent : Int) : List Char :=
  let ds := Nat.toDigits 10 digits
  let point := ds.length + exponent
  if ds.length ≤ point ∧ point ≤ 21 then ds ++ List.replicate exponent.toNat '0'
  else if 0 < point ∧ point ≤ 21 then ds.take point.toNat ++ '.' :: ds.drop point.toNat
  else if -6 < point ∧ point ≤ 0 then
    '0' :: '.' :: (List.replicate (-point).toNat '0' ++ ds)
  else
    let scale := point - 1
    let fraction := if ds.length = 1 then [] else '.' :: ds.drop 1
    ds.take 1 ++ fraction ++ 'e' :: (if 0 < scale then '+' else '-') ::
      Nat.toDigits 10 scale.natAbs

def numberText : Double → List Char
  | .finite x =>
    if x.isZero then ['0']
    else
      let text := decimalText (shortest x).1 (shortest x).2
      if x.negative then '-' :: text else text
  | .infinite false => "Infinity".toList
  | .infinite true => "-Infinity".toList
  | .nan => "NaN".toList

def isInteger : Double → Bool
  | .finite x => x.units % 2 ^ 1074 == 0
  | _ => false

/-- `BigInt(number)`; `none` stands for the `RangeError`. -/
def bigIntOfNumber (number : Double) : Option Int :=
  match number with
  | .finite x => if isInteger number then some x.trunc else none
  | _ => none

/-! ### Digits -/

theorem isSpace_of_isDigit {c : Char} (h : c.isDigit = true) : isSpace c = false := by
  have hbounds := Digits.isDigit_bounds h
  rw [← Bool.not_eq_true]
  intro hspace
  simp only [isSpace, Bool.or_eq_true, Bool.and_eq_true, decide_eq_true_eq, beq_iff_eq] at hspace
  omega

/-- A text without blanks at its ends stays as it is. -/
theorem trim_eq_self {cs : List Char} (hcs : ∀ c ∈ cs, isSpace c = false) : trim cs = cs :=
  Digits.trimmed_eq_self hcs

section

variable {ds : List Char} (hds : ∀ c ∈ ds, c.isDigit = true)

include hds

theorem trim_digits : trim ds = ds := trim_eq_self fun c hc => isSpace_of_isDigit (hds c hc)

theorem decimalDigits_eq (hne : ds ≠ []) : decimalDigits ds = some (Digits.value ds) :=
  if_pos ⟨hne, List.all_eq_true.mpr hds⟩

/-- No prefix of a base and no sign is a digit. -/
theorem bigInt_digits (hne : ds ≠ []) : bigInt ds = some (Digits.value ds : Nat) := by
  have hdigits := decimalDigits_eq hds hne
  have hno : ∀ {c : Char} {p : Prop}, c ∈ ds → c.isDigit = false → p := by
    intro c p hc hnot
    rw [hds c hc] at hnot
    cases hnot
  rw [bigInt, trim_digits hds]
  split
  · exact absurd rfl hne
  all_goals first
    | exact hno (List.mem_cons_of_mem _ List.mem_cons_self) (by decide)
    | exact hno List.mem_cons_self (by decide)
    | skip
  rw [hdigits]
  rfl

end

/-! ### Naturals -/

/-- The number is the natural `n`. -/
structure IsNat (x : Finite) (n : Nat) : Prop where
  sign : x.negative = false
  units : x.units = n * 2 ^ 1074

variable {x : Finite} {n : Nat}

theorem IsNat.isInteger (h : IsNat x n) : isInteger (.finite x) = true := by
  change (x.units % 2 ^ 1074 == 0) = true
  rw [h.units, Nat.mul_mod_left]
  rfl

theorem IsNat.trunc (h : IsNat x n) : x.trunc = n := by
  have hwhole : (x.units : Int) / 2 ^ 1074 = n := by
    rw [h.units]
    exact_mod_cast Nat.mul_div_cancel n (Nat.two_pow_pos _)
  simp only [Finite.trunc, h.sign, hwhole, Bool.false_eq_true, if_false]

theorem IsNat.bigIntOfNumber (h : IsNat x n) : bigIntOfNumber (.finite x) = some (n : Int) := by
  simp only [Js.bigIntOfNumber, h.isInteger, h.trunc, if_true]

theorem isNat_ofInt {n : Nat} (h : n < 2 ^ 53) :
    ∃ x, Binary64.ofInt n = .finite x ∧ IsNat x n := by
  obtain ⟨x, hx, hsign, hunits⟩ := Binary64.ofInt_exact (n := n) (by rwa [Int.natAbs_natCast])
  refine ⟨x, hx, ?_, hunits⟩
  rw [hsign]
  exact decide_eq_false (Int.not_lt.mpr (Int.natCast_nonneg n))

theorem IsNat.mantissa_pos (h : IsNat x n) (hn : 0 < n) : 0 < x.mantissa := by
  apply Nat.pos_of_ne_zero
  intro hzero
  have hunits := h.units
  rw [Finite.units, hzero, Nat.zero_mul] at hunits
  rcases Nat.mul_eq_zero.mp hunits.symm with h | h
  · omega
  · exact (Nat.two_pow_pos _).ne' h

theorem length_toDigits_ten_pow (k : Nat) : (Nat.toDigits 10 (10 ^ k)).length = k + 1 := by
  have hle : (Nat.toDigits 10 (10 ^ k)).length ≤ k + 1 :=
    (Nat.length_toDigits_le_iff (by omega) (by omega)).mpr
      (Nat.pow_lt_pow_right (by omega) (by omega))
  have hge : ¬ (Nat.toDigits 10 (10 ^ k)).length ≤ k := by
    cases k with
    | zero => decide
    | succ k =>
      rw [Nat.length_toDigits_le_iff (by omega) (by omega)]
      exact lt_irrefl _
  omega

section

variable {k : Nat} (h : IsNat x (10 ^ k))

include h

theorem decimalExponent_ten_pow : x.decimalExponent = k := by
  have hshift : x.units * 10 ^ 400 / 2 ^ 1074 = 10 ^ (k + 400) := by
    rw [h.units, Nat.mul_right_comm, Nat.mul_div_cancel _ (Nat.two_pow_pos _), Nat.pow_add]
  rw [Finite.decimalExponent, hshift, length_toDigits_ten_pow]
  omega

/-- One digit is enough. -/
theorem shortest_ten_pow : shortest x = (1, (k : Int)) := by
  have hcandidates : ∃ rest, x.candidates 1 = (1, (k : Int)) :: rest := by
    have hden : 0 < 2 ^ 1074 * 10 ^ k := Nat.mul_pos (Nat.two_pow_pos _) (Nat.pow_pos (by omega))
    have hexponent : (k : Int) - (1 : Nat) + 1 = k := by omega
    have hunits : x.units = 1 * (2 ^ 1074 * 10 ^ k) := by
      rw [h.units, Nat.one_mul, Nat.mul_comm]
    have hnearest := Binary64.nearest_mul 1 _ hden
    simp only [Finite.candidates, decimalExponent_ten_pow h, hexponent, Int.natCast_nonneg,
      if_true, Int.toNat_natCast, hunits, hnearest, Nat.mul_div_cancel _ hden]
    exact ⟨_, rfl⟩
  obtain ⟨rest, hrest⟩ := hcandidates
  have hreads : ofDecimal x.negative 1 k = .finite x := by
    rw [ofDecimal, if_pos (Int.natCast_nonneg k), Int.toNat_natCast]
    apply Binary64.round_exact x (by omega)
    rw [h.units, Nat.one_mul, Nat.mul_one]
  have hhead : x.decimals = (1, (k : Int)) :: (rest ++
      (List.range' 1 16).flatMap fun n => x.candidates (n + 1)) := by
    rw [Finite.decimals, show List.range 17 = 0 :: List.range' 1 16 by rfl, List.flatMap_cons,
      hrest, List.cons_append]
  rw [shortest, hhead, List.find?_cons_of_pos (by simpa using hreads)]
  rfl

theorem numberText_ten_pow : (numberText (.finite x)).length =
    if k ≤ 20 then k + 1 else 3 + (Nat.toDigits 10 k).length := by
  have hzero : x.isZero = false := by
    have hpos := h.mantissa_pos (Nat.pow_pos (by omega))
    rw [Finite.isZero, beq_eq_false_iff_ne]
    exact hpos.ne'
  have htext : numberText (.finite x) = decimalText 1 k := by
    change (if x.isZero = true then _ else if x.negative = true then _ else _) = _
    rw [hzero, if_neg Bool.false_ne_true, h.sign, if_neg Bool.false_ne_true, shortest_ten_pow h]
  have hone : Nat.toDigits 10 1 = ['1'] := rfl
  rw [htext]
  simp only [decimalText, hone, List.length_singleton]
  by_cases hk : k ≤ 20
  · rw [if_pos (by omega), if_pos hk]
    simp
  · rw [if_neg (by omega), if_neg (by omega), if_neg (by omega), if_neg hk]
    simp
    omega

/-- No larger power of ten is a number. -/
theorem ten_pow_le : k ≤ 22 := by
  have hmantissa := x.canonical.1
  have hdvd : 5 ^ k ∣ x.mantissa * 2 ^ x.scale := by
    change 5 ^ k ∣ x.units
    rw [h.units, Binary64.ten_pow]
    exact Nat.dvd_mul_right_of_dvd (Nat.dvd_mul_right _ _) _
  have hcoprime : Nat.Coprime (5 ^ k) (2 ^ x.scale) :=
    Nat.Coprime.pow _ _ (by decide)
  have hle := Nat.le_of_dvd (h.mantissa_pos (Nat.pow_pos (by omega))) (hcoprime.dvd_of_dvd_mul_right hdvd)
  by_contra hk
  have hbig : 5 ^ 23 ≤ 5 ^ k := Nat.pow_le_pow_right (by omega) (by omega)
  omega

end

end BrainV2.Js
