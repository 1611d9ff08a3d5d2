import BrainV2.Lib.Digits
import Mathlib.Algebra.Order.Field.Basic
import Mathlib.Algebra.Order.Field.Rat
import Mathlib.Algebra.Order.Ring.Abs
import Mathlib.Tactic.Positivity
import Mathlib.Tactic.Ring

/-!
# Texts of amounts

* `AmountText`: an optional sign, digits, and perhaps a point and more digits;
* `AmountText.value`: the amount that is meant;
* `readMoney`: the rupees a display in ₹, lakh or crore stands for, and the unit of its last
  printed digit;
* `Denotes`: the display of an amount is off by less than that unit;
* `readMoney_text`: what a display made of its parts says.
-/

namespace BrainV2.Money

inductive Sign where
  | none
  | plus
  | minus
deriving DecidableEq, Repr

def Sign.text : Sign → List Char
  | .none => []
  | .plus => ['+']
  | .minus => ['-']

/-- At least one digit, before or behind the point. -/
structure AmountText where
  sign : Sign
  whole : List Char
  fraction : Option (List Char)
  digits : ∀ c ∈ whole ++ fraction.getD [], c.isDigit = true
  someDigit : whole ++ fraction.getD [] ≠ []

namespace AmountText

variable (a : AmountText)

/-- The digits behind the point. -/
def places : List Char := a.fraction.getD []

/-- The text behind the sign. -/
def magnitudeText : List Char :=
  a.whole ++ match a.fraction with
    | none => []
    | some places => '.' :: places

def chars : List Char := a.sign.text ++ a.magnitudeText

def text : String := String.ofList a.chars

def magnitude : ℚ := Digits.value (a.whole ++ a.places) / 10 ^ a.places.length

def isNegative : Bool := a.sign == .minus

def signed (q : ℚ) : ℚ := if a.isNegative then -q else q

def value : ℚ := a.signed a.magnitude

theorem isDigit_of_mem_whole {c : Char} (hc : c ∈ a.whole) : c.isDigit = true :=
  a.digits c (List.mem_append_left _ hc)

theorem isDigit_of_mem_places {c : Char} (hc : c ∈ a.places) : c.isDigit = true :=
  a.digits c (List.mem_append_right _ hc)

/-- The part behind the point. -/
def part : ℚ := Digits.value a.places / 10 ^ a.places.length

theorem magnitude_eq : a.magnitude = Digits.value a.whole + a.part := by
  have hpos : (10 : ℚ) ^ a.places.length ≠ 0 := by positivity
  rw [magnitude, part, Digits.value_append]
  push_cast
  rw [add_div, mul_div_cancel_right₀ _ hpos]

theorem part_nonneg : 0 ≤ a.part := by
  unfold part
  positivity

theorem part_lt_one : a.part < 1 := by
  have hlt := Digits.value_lt fun c hc => a.isDigit_of_mem_places hc
  rw [part, div_lt_one (by positivity)]
  exact_mod_cast hlt

theorem mem_magnitudeText {c : Char} (hc : c ∈ a.magnitudeText) :
    c.isDigit = true ∨ c = '.' := by
  rw [magnitudeText, List.mem_append] at hc
  rcases hc with hc | hc
  · exact Or.inl (a.isDigit_of_mem_whole hc)
  · have hplaces : ∀ {c}, c ∈ a.places → c.isDigit = true := a.isDigit_of_mem_places
    unfold places at hplaces
    cases hfraction : a.fraction with
    | none =>
      rw [hfraction] at hc
      cases hc
    | some fs =>
      rw [hfraction] at hc hplaces
      rcases List.mem_cons.mp hc with rfl | hc
      · exact Or.inr rfl
      · exact Or.inl (hplaces hc)

/-- A property of the digits and of the marks holds of the whole text. -/
theorem forall_mem_chars {p : Char → Prop} (hdigit : ∀ c : Char, c.isDigit = true → p c)
    (hplus : p '+') (hminus : p '-') (hpoint : p '.') : ∀ c ∈ a.chars, p c := by
  intro c hc
  rcases List.mem_append.mp hc with hsign | hmagnitude
  · cases h : a.sign with
    | none => rw [h] at hsign; cases hsign
    | plus => rw [h] at hsign; rwa [List.mem_singleton.mp hsign]
    | minus => rw [h] at hsign; rwa [List.mem_singleton.mp hsign]
  · rcases a.mem_magnitudeText hmagnitude with hdigit' | rfl
    · exact hdigit c hdigit'
    · exact hpoint

theorem magnitudeText_ne_nil : a.magnitudeText ≠ [] := by
  intro hnil
  rw [magnitudeText, List.append_eq_nil_iff] at hnil
  obtain ⟨hwhole, hfraction⟩ := hnil
  cases h : a.fraction with
  | none => exact a.someDigit (by rw [hwhole, h]; rfl)
  | some places =>
    rw [h] at hfraction
    cases hfraction

/-- No sign stands behind the sign. -/
theorem head_magnitudeText {c : Char} (hc : c.isDigit = false) (hpoint : c ≠ '.') :
    a.magnitudeText.head? ≠ some c := by
  intro hhead
  rcases a.mem_magnitudeText (List.mem_of_mem_head? (Option.mem_def.mpr hhead)) with h | h
  · rw [hc] at h
    cases h
  · exact hpoint h

/-! ### The text cut at the point -/

section

variable {p : Char → Bool} (hdigit : ∀ c : Char, c.isDigit = true → p c = true)
  (hpoint : p '.' = false)

include hdigit hpoint

theorem takeWhile_magnitudeText : a.magnitudeText.takeWhile p = a.whole := by
  have hwhole : ∀ c ∈ a.whole, p c = true := fun c hc => hdigit c (a.isDigit_of_mem_whole hc)
  rw [magnitudeText, List.takeWhile_append_of_pos hwhole]
  cases a.fraction with
  | none => simp
  | some places => simp [hpoint]

theorem dropWhile_magnitudeText : a.magnitudeText.dropWhile p =
    match a.fraction with
    | none => []
    | some places => '.' :: places := by
  have hwhole : ∀ c ∈ a.whole, p c = true := fun c hc => hdigit c (a.isDigit_of_mem_whole hc)
  rw [magnitudeText, List.dropWhile_append_of_pos hwhole]
  cases a.fraction with
  | none => simp
  | some places => simp [hpoint]

end

end AmountText

/-! ### What a money display says -/

open Digits (value)

/-- An amount in rupees, read to a unit. -/
structure Shown where
  amount : ℚ
  unit : ℚ

/-- A lakh is a hundred thousand rupees, a crore ten million. -/
def suffixRupees (suffix : List Char) : Option ℕ :=
  if suffix = [] then some 1
  else if suffix = "L".toList ∨ suffix = " L".toList then some 100000
  else if suffix = "Cr".toList ∨ suffix = " Cr".toList then some 10000000
  else none

def isNumberChar (c : Char) : Bool := c.isDigit || c == ',' || c == '.'

theorem head_not_number {suffix : List Char}
    (h : suffix.head?.all (fun c => !isNumberChar c) = true) :
    ∀ c ∈ suffix.head?, isNumberChar c = false := by
  intro c hc
  rw [Option.mem_def.mp hc] at h
  simpa using h

/-- The sign, a hyphen or the minus sign, and what stands behind it. -/
def readSign : List Char → Bool × List Char
  | [] => (false, [])
  | c :: rest => if c = '-' ∨ c = '−' then (true, rest) else (false, c :: rest)

/-- The digits before and behind the point, grouping commas left out. -/
def readDigits (number : List Char) : List Char × List Char :=
  ((number.takeWhile (· != '.')).filter (· != ','), (number.dropWhile (· != '.')).drop 1)

def readMoney (text : List Char) : Option Shown :=
  let (negative, unsigned) := readSign text
  match unsigned with
  | '₹' :: body =>
    let (whole, decimals) := readDigits (body.takeWhile isNumberChar)
    let sign : ℚ := if negative then -1 else 1
    if whole = [] then none
    else
      (suffixRupees (body.dropWhile isNumberChar)).map fun rupees : ℕ =>
        let unit : ℚ := (rupees : ℚ) / 10 ^ decimals.length
        ⟨sign * (value (whole ++ decimals) * unit), unit⟩
  | _ => none

/-- The display says the amount of this many paise, to its last printed digit. -/
def Denotes (text : String) (paise : ℤ) : Prop :=
  ∃ shown, readMoney text.toList = some shown ∧ |shown.amount - paise / 100| < shown.unit

/-- The point and the digits behind it, if there are any. -/
def pointed (decimals : List Char) : List Char :=
  if decimals = [] then [] else '.' :: decimals

section

variable {whole decimals suffix : List Char}

theorem readDigits_pointed (hwhole : ∀ c ∈ whole, c ≠ '.') :
    readDigits (whole ++ pointed decimals) = (whole.filter (· != ','), decimals) := by
  have hkept : ∀ c ∈ whole, (c != '.') = true := fun c hc => by simpa using hwhole c hc
  unfold readDigits pointed
  by_cases hnone : decimals = []
  · subst hnone
    rw [if_pos rfl, List.append_nil, List.takeWhile_eq_self_iff.mpr hkept,
      List.dropWhile_eq_nil_iff.mpr hkept]
    rfl
  · rw [if_neg hnone, List.takeWhile_append_of_pos hkept, List.dropWhile_append_of_pos hkept]
    simp

theorem isNumberChar_pointed (hwhole : ∀ c ∈ whole, c.isDigit = true ∨ c = ',')
    (hdecimals : ∀ c ∈ decimals, c.isDigit = true) :
    ∀ c ∈ whole ++ pointed decimals, isNumberChar c = true := by
  intro c hc
  unfold isNumberChar
  rcases List.mem_append.mp hc with hc | hc
  · rcases hwhole c hc with hdigit | rfl
    · simp [hdigit]
    · rfl
  · unfold pointed at hc
    split at hc
    · cases hc
    · rcases List.mem_cons.mp hc with rfl | hc
      · rfl
      · simp [hdecimals c hc]

/-- What a display says is put together from its parts. -/
theorem readMoney_text (negative : Bool) {sign : List Char} {rupees : ℕ}
    (hsign : ∀ rest, readSign (sign ++ '₹' :: rest) = (negative, '₹' :: rest))
    (hwhole : ∀ c ∈ whole, c.isDigit = true ∨ c = ',')
    (hsome : whole.filter (· != ',') ≠ [])
    (hdecimals : ∀ c ∈ decimals, c.isDigit = true)
    (hend : ∀ c ∈ suffix.head?, isNumberChar c = false)
    (hsuffix : suffixRupees suffix = some rupees) :
    readMoney (sign ++ '₹' :: (whole ++ pointed decimals ++ suffix)) =
      some ⟨(if negative then -1 else 1) *
          (value (whole.filter (· != ',') ++ decimals) * (rupees / 10 ^ decimals.length)),
        rupees / 10 ^ decimals.length⟩ := by
  have hnumber := isNumberChar_pointed hwhole hdecimals
  have hnopoint : ∀ c ∈ whole, c ≠ '.' := by
    rintro c hc rfl
    rcases hwhole _ hc with h | h <;> exact absurd h (by decide)
  have htake : (whole ++ pointed decimals ++ suffix).takeWhile isNumberChar =
      whole ++ pointed decimals := by
    rw [List.takeWhile_append_of_pos hnumber]
    cases suffix with
    | nil => simp
    | cons c rest => simp [hend c (by simp)]
  have hdrop : (whole ++ pointed decimals ++ suffix).dropWhile isNumberChar = suffix := by
    rw [List.dropWhile_append_of_pos hnumber]
    cases suffix with
    | nil => rfl
    | cons c rest => simp [hend c (by simp)]
  unfold readMoney
  rw [hsign]
  simp only [htake, hdrop, readDigits_pointed hnopoint, if_neg hsome, hsuffix, Option.map_some]

/-- A display made of its parts denotes an amount when the number it shows is close. -/
theorem denotes_parts {paise : ℤ} {sign : List Char} {rupees : ℕ}
    (hsign : ∀ rest, readSign (sign ++ '₹' :: rest) = (decide (paise < 0), '₹' :: rest))
    (hwhole : ∀ c ∈ whole, c.isDigit = true ∨ c = ',')
    (hsome : whole.filter (· != ',') ≠ [])
    (hdecimals : ∀ c ∈ decimals, c.isDigit = true)
    (hend : ∀ c ∈ suffix.head?, isNumberChar c = false)
    (hsuffix : suffixRupees suffix = some rupees) :
    Denotes (String.ofList (sign ++ '₹' :: (whole ++ pointed decimals ++ suffix))) paise ↔
      |value (whole.filter (· != ',') ++ decimals) * ((rupees : ℚ) / 10 ^ decimals.length) -
        paise.natAbs / 100| < rupees / 10 ^ decimals.length := by
  have hread := readMoney_text (decide (paise < 0)) hsign hwhole hsome hdecimals hend hsuffix
  unfold Denotes
  rw [String.toList_ofList, hread]
  simp only [Option.some.injEq, exists_eq_left', decide_eq_true_eq]
  generalize (value (whole.filter (· != ',') ++ decimals) : ℚ) *
    ((rupees : ℚ) / 10 ^ decimals.length) = amount
  have hpaise : (paise : ℚ) = (if paise < 0 then -1 else 1) * paise.natAbs := by
    rw [Nat.cast_natAbs]
    split
    · next hneg =>
      rw [abs_of_neg hneg]
      push_cast
      ring
    · next hpos =>
      rw [abs_of_nonneg (not_lt.mp hpos), one_mul]
  have hfactor : (if paise < 0 then -1 else 1 : ℚ) * amount - paise / 100 =
      (if paise < 0 then -1 else 1) * (amount - paise.natAbs / 100) := by
    rw [hpaise]
    ring
  have hunit : |(if paise < 0 then -1 else 1 : ℚ)| = 1 := by split <;> simp
  rw [hfactor, abs_mul, hunit, one_mul]

end

end BrainV2.Money
