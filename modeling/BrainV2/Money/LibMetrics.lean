import BrainV2.Js.Numbers
import BrainV2.Lib.HalfEven
import BrainV2.Money.AmountText

/-!
# Money in the TypeScript library

* `decimalToMinorUnits`: a decimal text in minor units, digit by digit;
* `roundRemainder_iff`: when the digits that are cut off round up;
* `roundHalfEvenFraction_rounds`: the fraction, rounded to a positive number of
  places.
-/

namespace BrainV2.LibMetrics

open Binary64 (Double Finite)
open HalfEven (Rounds)
open Js (bigInt bigIntOfNumber numberText trim)
open Money (AmountText)
open Utf16 (unitsLe)

inductive ConvertError where
  | typeError
  | rangeError
  | syntaxError
deriving DecidableEq, Repr

/-- Ties go to the even neighbour of `mu`. -/
def roundRemainder (mu : Int) (remainderStr : List Char) : Bool :=
  if remainderStr.length = 0 then false
  else
    let halfStr := '5' :: List.replicate (remainderStr.length - 1) '0'
    if !unitsLe (String.ofList remainderStr) (String.ofList halfStr) then true
    else if !unitsLe (String.ofList halfStr) (String.ofList remainderStr) then false
    else mu.tmod 2 = 1

/-- The minor units of a fraction; without places the parity of the whole part is not looked at. -/
def roundHalfEvenFraction (fracStr : List Char) (exponent : Nat) : Option Int :=
  if exponent = 0 then
    if fracStr.length = 0 then some 0
    else some (if roundRemainder 0 fracStr then 1 else 0)
  else
    let kept := fracStr.take exponent
    let subunitDigits := kept ++ List.replicate (exponent - kept.length) '0'
    let remainderStr := fracStr.drop exponent
    (bigInt subunitDigits).map fun mu => if roundRemainder mu remainderStr then mu + 1 else mu

def decimalToMinorUnits (amount : String) (subunitMultiplier : Double) :
    Except ConvertError Int :=
  match bigIntOfNumber subunitMultiplier with
  | none => .error .rangeError
  | some multiplier =>
    if multiplier < 1 then .error .rangeError
    else
      let trimmed := trim amount.toList
      if trimmed = [] ∨ trimmed = ['-'] ∨ trimmed = ['+'] then .error .rangeError
      else
        let negative := trimmed.head? == some '-'
        let abs := if negative ∨ trimmed.head? = some '+' then trimmed.drop 1 else trimmed
        let integerStr := abs.takeWhile (· ≠ '.')
        let fracStr := (abs.dropWhile (· ≠ '.')).drop 1
        let exponent := (numberText subunitMultiplier).length - 1
        match bigInt (if integerStr = [] then ['0'] else integerStr) with
        | none => .error .syntaxError
        | some whole =>
          let fractionalMu :=
            if exponent = 0 then
              if fracStr.length = 0 then some 0 else roundHalfEvenFraction fracStr 0
            else roundHalfEvenFraction fracStr exponent
          match fractionalMu with
          | none => .error .syntaxError
          | some fractionalMu =>
            let absMu := whole * multiplier + fractionalMu
            .ok (if negative then -absMu else absMu)

/-! ### The rounding of the fraction -/

section

variable {ds : List Char} (hds : ∀ c ∈ ds, c.isDigit = true)

theorem value_half (n : Nat) :
    2 * Digits.value ('5' :: List.replicate n '0') = 10 ^ (n + 1) := by
  have hfive : '5'.toNat - 48 = 5 := rfl
  rw [Digits.value_cons, Digits.value_replicate_zero, List.length_replicate, hfive, Nat.pow_succ]
  omega

include hds

theorem roundRemainder_iff (mu : Nat) : roundRemainder mu ds = true ↔
    10 ^ ds.length < 2 * Digits.value ds ∨
      10 ^ ds.length = 2 * Digits.value ds ∧ mu % 2 = 1 := by
  unfold roundRemainder
  by_cases hnil : ds.length = 0
  · obtain rfl := List.length_eq_zero_iff.mp hnil
    simp
  · have hlength : ds.length - 1 + 1 = ds.length := by omega
    have hhalf := value_half (ds.length - 1)
    have hdigits : ∀ c ∈ '5' :: List.replicate (ds.length - 1) '0', c.isDigit = true := by
      intro c hc
      rcases List.mem_cons.mp hc with rfl | hc
      · rfl
      · rw [List.eq_of_mem_replicate hc]
        rfl
    have hsame : ds.length = ('5' :: List.replicate (ds.length - 1) '0').length := by
      rw [List.length_cons, List.length_replicate, hlength]
    have hle := Bool.eq_iff_iff.mpr ((Digits.unitsLe_iff_value_le hds hdigits hsame).trans
      decide_eq_true_iff.symm)
    have hge := Bool.eq_iff_iff.mpr ((Digits.unitsLe_iff_value_le hdigits hds hsame.symm).trans
      decide_eq_true_iff.symm)
    have hparity : (mu : Int).tmod 2 = 1 ↔ mu % 2 = 1 := by
      rw [Int.tmod_eq_emod_of_nonneg (Int.natCast_nonneg mu)]
      omega
    rw [hlength] at hhalf
    rw [if_neg hnil]
    simp only [hle, hge]
    rw [← hhalf]
    generalize Digits.value ('5' :: List.replicate (ds.length - 1) '0') = half
    rcases Nat.lt_trichotomy (Digits.value ds) half with hlt | heq | hgt
    · rw [decide_eq_true hlt.le, decide_eq_false (Nat.not_le.mpr hlt)]
      exact iff_of_false Bool.false_ne_true (by omega)
    · rw [decide_eq_true heq.le, decide_eq_true heq.ge]
      simp only [Bool.not_true, Bool.false_eq_true, if_false, decide_eq_true_eq, hparity]
      omega
    · rw [decide_eq_false (Nat.not_le.mpr hgt)]
      exact iff_of_true rfl (Or.inl (by omega))

/-- The kept digits and the ones cut off, rounded. -/
theorem roundRemainder_rounds (mu : Nat) :
    Rounds (mu + Digits.value ds / 10 ^ ds.length)
      (if roundRemainder mu ds then (mu : ℤ) + 1 else mu) := by
  have hpos : 0 < 10 ^ ds.length := Nat.pow_pos (by omega)
  have hlt := Digits.value_lt hds
  have hnearest : ((Binary64.nearest (mu * 10 ^ ds.length + Digits.value ds) (10 ^ ds.length) : ℕ) :
      ℤ) = if roundRemainder mu ds then (mu : ℤ) + 1 else mu := by
    have hround := roundRemainder_iff hds mu
    have hdiv : (mu * 10 ^ ds.length + Digits.value ds) / 10 ^ ds.length = mu := by
      rw [Nat.mul_comm, Nat.mul_add_div hpos, Nat.div_eq_of_lt hlt, Nat.add_zero]
    have hmod : (mu * 10 ^ ds.length + Digits.value ds) % 10 ^ ds.length = Digits.value ds := by
      rw [Nat.mul_comm, Nat.mul_add_mod, Nat.mod_eq_of_lt hlt]
    simp only [Binary64.nearest, hdiv, hmod]
    by_cases hup : roundRemainder mu ds = true
    · rw [if_pos hup, if_neg (by rw [hround] at hup; omega)]
      rfl
    · rw [if_neg hup, if_pos (by rw [hround] at hup; omega)]
  have hrounds := HalfEven.nearest_rounds (mu * 10 ^ ds.length + Digits.value ds) hpos
  rw [hnearest] at hrounds
  push_cast at hrounds
  rwa [add_div, mul_div_cancel_right₀ _ (by positivity)] at hrounds

omit hds in
/-- A fraction cut after some places, padded with zeros. -/
theorem cut_value (exponent : Nat) :
    (Digits.value ds : ℚ) / 10 ^ ds.length * 10 ^ exponent =
      Digits.value (ds.take exponent ++
          List.replicate (exponent - (ds.take exponent).length) '0') +
        Digits.value (ds.drop exponent) / 10 ^ (ds.drop exponent).length := by
  rw [Digits.value_append, Digits.value_replicate_zero, List.length_replicate, Nat.add_zero]
  rcases Nat.le_total exponent ds.length with hle | hge
  · have hsplit := Digits.value_append (ds.take exponent) (ds.drop exponent)
    have hpow : (10 : ℚ) ^ ds.length = 10 ^ exponent * 10 ^ (ds.drop exponent).length := by
      rw [← pow_add, List.length_drop, Nat.add_sub_cancel' hle]
    rw [List.take_append_drop] at hsplit
    rw [hsplit, List.length_take, Nat.min_eq_left hle, Nat.sub_self, hpow]
    push_cast
    field_simp
  · rw [List.take_of_length_le hge, List.drop_of_length_le hge]
    have hpow : (10 : ℚ) ^ exponent = 10 ^ ds.length * 10 ^ (exponent - ds.length) := by
      rw [← pow_add, Nat.add_sub_cancel' hge]
    rw [hpow]
    push_cast
    simp
    field_simp

/-- The fraction in units of `10 ^ -exponent`, rounded. -/
theorem roundHalfEvenFraction_rounds (exponent : Nat) :
    ∃ m, roundHalfEvenFraction ds exponent = some m ∧
      Rounds (Digits.value ds / 10 ^ ds.length * 10 ^ exponent) m := by
  unfold roundHalfEvenFraction
  by_cases hzero : exponent = 0
  · subst hzero
    rw [if_pos rfl]
    have hround := roundRemainder_rounds hds 0
    rw [Nat.cast_zero, zero_add, Nat.cast_zero, zero_add] at hround
    rw [pow_zero, mul_one]
    by_cases hnil : ds.length = 0
    · obtain rfl := List.length_eq_zero_iff.mp hnil
      exact ⟨0, rfl, by simpa using HalfEven.rounds_intCast 0⟩
    · rw [if_neg hnil]
      exact ⟨_, rfl, hround⟩
  · rw [if_neg hzero]
    have hkept : ∀ c ∈ ds.take exponent ++
        List.replicate (exponent - (ds.take exponent).length) '0', c.isDigit = true := by
      intro c hc
      rcases List.mem_append.mp hc with hc | hc
      · exact hds c (List.mem_of_mem_take hc)
      · rw [List.eq_of_mem_replicate hc]
        rfl
    have hne : ds.take exponent ++
        List.replicate (exponent - (ds.take exponent).length) '0' ≠ [] := by
      intro hnil
      have hlength := congrArg List.length hnil
      rw [List.length_append, List.length_replicate, List.length_nil] at hlength
      omega
    have hdrop : ∀ c ∈ ds.drop exponent, c.isDigit = true :=
      fun c hc => hds c (List.mem_of_mem_drop hc)
    have hround := roundRemainder_rounds hdrop (Digits.value (ds.take exponent ++
      List.replicate (exponent - (ds.take exponent).length) '0'))
    simp only [Js.bigInt_digits hkept hne]
    rw [cut_value]
    exact ⟨_, rfl, hround⟩

end

/-! ### The conversion -/

section

variable (a : AmountText) {x : Finite} {k : Nat}

/-- The places that the fraction is rounded to: too few when the multiplier is written with an
exponent. -/
def placesOf (k : Nat) : Nat := if k ≤ 20 then k else 4

theorem length_numberText (h : Js.IsNat x (10 ^ k)) :
    (numberText (.finite x)).length - 1 = placesOf k := by
  have hle := Js.ten_pow_le h
  rw [Js.numberText_ten_pow h, placesOf]
  split
  · omega
  · obtain rfl | rfl : k = 21 ∨ k = 22 := by omega
    · rfl
    · rfl

theorem trim_chars : trim a.chars = a.chars := by
  apply Js.trim_eq_self
  exact a.forall_mem_chars (fun c hc => Js.isSpace_of_isDigit hc) (by decide) (by decide)
    (by decide)

theorem head_chars : a.chars.head? = match a.sign with
    | .none => a.magnitudeText.head?
    | .plus => some '+'
    | .minus => some '-' := by
  rw [AmountText.chars]
  cases a.sign <;> rfl

theorem isNegative_chars : (a.chars.head? == some '-') = a.isNegative := by
  have hhead := a.head_magnitudeText (c := '-') rfl (by decide)
  rw [head_chars, AmountText.isNegative]
  cases a.sign with
  | none => simpa using hhead
  | plus => rfl
  | minus => rfl

/-- What stands behind the sign. -/
theorem abs_chars :
    (if a.isNegative = true ∨ a.chars.head? = some '+' then a.chars.drop 1 else a.chars) =
      a.magnitudeText := by
  have hhead := a.head_magnitudeText (c := '+') rfl (by decide)
  rw [head_chars, AmountText.isNegative, AmountText.chars]
  cases a.sign with
  | none => simp [hhead, Money.Sign.text]
  | plus => rfl
  | minus => rfl

theorem bigInt_whole : bigInt (if a.whole = [] then ['0'] else a.whole) =
    some (Digits.value a.whole : Nat) := by
  by_cases hnil : a.whole = []
  · rw [if_pos hnil, hnil]
    rfl
  · rw [if_neg hnil]
    exact Js.bigInt_digits (fun c hc => a.isDigit_of_mem_whole hc) hnil

/-- The text has more than a sign. -/
theorem chars_ne_sign : ¬ (a.chars = [] ∨ a.chars = ['-'] ∨ a.chars = ['+']) := by
  have hne := a.magnitudeText_ne_nil
  rw [AmountText.chars]
  intro h
  cases hsign : a.sign with
  | none =>
    rw [hsign] at h
    rcases h with h | h | h
    · exact hne h
    · exact a.head_magnitudeText (c := '-') rfl (by decide) (by simpa [Money.Sign.text] using congrArg List.head? h)
    · exact a.head_magnitudeText (c := '+') rfl (by decide) (by simpa [Money.Sign.text] using congrArg List.head? h)
  | plus => rw [hsign] at h; simp [Money.Sign.text, hne] at h
  | minus => rw [hsign] at h; simp [Money.Sign.text, hne] at h

theorem fraction_chars : (a.magnitudeText.dropWhile (· ≠ '.')).drop 1 = a.places := by
  rw [a.dropWhile_magnitudeText (fun c hc => ?_) (by decide), AmountText.places]
  · cases a.fraction <;> rfl
  · apply decide_eq_true
    rintro rfl
    cases hc

theorem whole_chars : a.magnitudeText.takeWhile (· ≠ '.') = a.whole := by
  apply a.takeWhile_magnitudeText _ (by decide)
  intro c hc
  apply decide_eq_true
  rintro rfl
  cases hc

/-- The whole part is exact, the fraction is rounded on its own. -/
theorem decimalToMinorUnits_amount (h : Js.IsNat x (10 ^ k)) :
    ∃ m, Rounds (a.part * 10 ^ placesOf k) m ∧
      decimalToMinorUnits a.text (.finite x) =
        .ok (if a.isNegative then -(Digits.value a.whole * 10 ^ k + m)
          else Digits.value a.whole * 10 ^ k + m) := by
  obtain ⟨m, hm, hround⟩ := roundHalfEvenFraction_rounds
    (fun c hc => a.isDigit_of_mem_places hc) (placesOf k)
  have hmultiplier : ¬ ((10 ^ k : Nat) : Int) < 1 := by
    have hpos : 0 < 10 ^ k := Nat.pow_pos (by omega)
    omega
  have hfraction : (if placesOf k = 0 then
      if a.places.length = 0 then some 0 else roundHalfEvenFraction a.places 0
      else roundHalfEvenFraction a.places (placesOf k)) = some m := by
    rw [← hm]
    split
    · rename_i hzero
      rw [hzero]
      split
      · rename_i hnil
        simp [roundHalfEvenFraction, hnil]
      · rfl
    · rfl
  refine ⟨m, hround, ?_⟩
  simp only [decimalToMinorUnits, h.bigIntOfNumber, if_neg hmultiplier, AmountText.text,
    String.toList_ofList, trim_chars, if_neg (chars_ne_sign a), isNegative_chars, abs_chars,
    whole_chars, fraction_chars, bigInt_whole, length_numberText h, hfraction]
  push_cast
  rfl

end

end BrainV2.LibMetrics
