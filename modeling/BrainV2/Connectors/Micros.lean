import BrainV2.Connectors.Acl
import BrainV2.Lib.Dict
import BrainV2.LivePlane.Numbers

/-!
# Micros of the currency in minor units

Half of the divisor is added and the sum divided with `BigInt`, which truncates.

* `microsToMinorUnits`, `normalizeGoogleSpend`: the conversion, and the fact it is made for;
* `Spells`: an integer as a vendor sends it;
* `Nearest`, `RoundsRight`: an integer closest to the quotient, and the micros that have one;
* `micros_rounded_iff`: the conversion rounds to the nearest for these only. It is monotone.
-/

namespace BrainV2.Connectors

open Binary64 (ofInt)
open Js (Engine Result Value)
open LivePlane (roundNumber)

/-! ### The conversion -/

/-- `BigInt(typeof micros === 'number' ? Math.round(micros) : micros.trim())` -/
def bigMicros : Json → Result Int
  | .int n => Js.ofBigInt (Js.bigIntOfNumber (roundNumber (ofInt n))) .rangeError
  | .real x => Js.ofBigInt (Js.bigIntOfNumber (roundNumber x)) .rangeError
  | .str s => Js.ofBigInt (Js.bigInt (Js.trim s.toList)) .syntaxError
  | _ => .error .typeError

def microsToMinorUnits (engine : Engine) (micros : Json) (currencyCode : String) : Result Int :=
  match micros with
  | .null | .str "" => .ok 0
  | micros => do
    let exponent := subunitExponent (subunitMultiplier engine currencyCode)
    let m ← bigMicros micros
    let divisor : Int := 10 ^ (6 - exponent)
    .ok ((m + divisor.tdiv 2).tdiv divisor)

structure GoogleCampaign where
  id : Value
  name : Value

structure GoogleMetrics where
  costMicrosSnake : Value
  costMicros : Value
  impressions : Value
  clicks : Value

/-- `costMicrosSnake` is `cost_micros`. -/
structure GoogleAdsRaw where
  campaign : Option GoogleCampaign
  campaignId : Value
  campaignName : Value
  metrics : Option GoogleMetrics
  costMicros : Value
  impressions : Value
  clicks : Value
  segmentsDate : Value
  date : Value

/-- An `AdSpendFact`, with the name and the date as Google sends them. -/
structure GoogleSpendFact where
  vendor : String
  campaignId : String
  campaignName : Json
  spendDate : Json
  spendMu : Int
  impressions : Int
  clicks : Int
  currencyCode : String

/-- `x ?? y`, where `y` may be missing as well. -/
def orValue (x y : Value) : Value := if Js.isNullish x then y else x

/-- `BigInt(parseInt(String(x), 10) || 0)` -/
def bigCount (x : Json) : Result Int := do
  let text ← Js.toText x
  let signed := text.toList.dropWhile Js.isSpace
  let negative := signed.head? == some '-'
  let digits := (if negative || signed.head? == some '+' then signed.drop 1 else signed).takeWhile
    Char.isDigit
  let magnitude : Int := Digits.value digits
  Js.ofBigInt (Js.bigIntOfNumber (ofInt (if negative then -magnitude else magnitude))) .rangeError

def normalizeGoogleSpend (engine : Engine) (row : GoogleAdsRaw) (customerCurrency : String) :
    Result GoogleSpendFact := do
  let campaignId ← Js.toText
    (Js.orElse (orValue (row.campaign.bind (·.id)) row.campaignId) (.str ""))
  let micros := Js.orElse (orValue (orValue (row.metrics.bind (·.costMicrosSnake))
    (row.metrics.bind (·.costMicros))) row.costMicros) (.str "0")
  let spendMu ← microsToMinorUnits engine micros customerCurrency
  let impressions ← bigCount
    (Js.orElse (orValue (row.metrics.bind (·.impressions)) row.impressions) (.str "0"))
  let clicks ← bigCount (Js.orElse (orValue (row.metrics.bind (·.clicks)) row.clicks) (.str "0"))
  .ok {
    vendor := "GOOGLE"
    campaignId := campaignId
    campaignName := Js.orNull (orValue (row.campaign.bind (·.name)) row.campaignName)
    spendDate := Js.orElse (orValue row.segmentsDate row.date) (.str "")
    spendMu := spendMu
    impressions := impressions
    clicks := clicks
    currencyCode := customerCurrency }

/-! ### Rounding to the nearest -/

/-- The micros of a minor unit. -/
def microsPerUnit (engine : Engine) (currencyCode : String) : Int :=
  10 ^ (6 - subunitExponent (subunitMultiplier engine currencyCode))

/-- An integer of micros, as text or as a number that is exact. -/
def Spells (micros : Json) (m : Int) : Prop :=
  micros = .str (String.ofList (Json.intText m)) ∨ m.natAbs < 2 ^ 53 ∧ micros = .int m

/-- `r` units are at most half a unit from the micros. -/
def Nearest (perUnit m r : Int) : Prop := 2 * |r * perUnit - m| ≤ perUnit

/-- No further below zero than half a unit, or in the middle of two units. -/
def RoundsRight (perUnit m : Int) : Prop := -perUnit ≤ 2 * m ∨ 2 * (m % perUnit) = perUnit

instance (perUnit m r : Int) : Decidable (Nearest perUnit m r) := inferInstanceAs (Decidable (_ ≤ _))

instance (perUnit m : Int) : Decidable (RoundsRight perUnit m) := inferInstanceAs (Decidable (_ ∨ _))

theorem nearest_tdiv_iff {half m : Int} (hhalf : 0 < half) :
    Nearest (2 * half) m ((m + half).tdiv (2 * half)) ↔ RoundsRight (2 * half) m := by
  have hpos : 0 < 2 * half := by omega
  have hsplit := Int.emod_add_mul_ediv (m + half) (2 * half)
  have hlow := Int.emod_nonneg (m + half) hpos.ne'
  have hhigh := Int.emod_lt_of_pos (m + half) hpos
  unfold Nearest RoundsRight
  by_cases hm : -half ≤ m
  · have hquotient : (m + half).tdiv (2 * half) = (m + half) / (2 * half) :=
      Int.tdiv_eq_ediv_of_nonneg (by omega)
    rw [hquotient, mul_comm _ (2 * half)]
    generalize 2 * half * ((m + half) / (2 * half)) = near at *
    refine iff_of_true ?_ (Or.inl (by omega))
    cases abs_cases (near - m) <;> omega
  · -- Below, only a sum that the divisor divides is not rounded up.
    have htie : 2 * (m % (2 * half)) = 2 * half ↔ (m + half) % (2 * half) = 0 := by
      have hm := Int.emod_nonneg m hpos.ne'
      have hm' := Int.emod_lt_of_pos m hpos
      have hback := Int.emod_add_mul_ediv m (2 * half)
      constructor
      · intro h
        rw [← hback, show m % (2 * half) = half by omega, add_right_comm, ← two_mul]
        simp
      · intro h
        rw [h, zero_add] at hsplit
        have hmod : m = half + 2 * half * ((m + half) / (2 * half) - 1) := by
          rw [mul_sub, hsplit]
          ring
        rw [hmod, Int.add_mul_emod_self_left, Int.emod_eq_of_lt (by omega) (by omega)]
    rw [htie, Quotients.tdiv_eq hpos]
    by_cases hdvd : (m + half) % (2 * half) = 0
    · have heven : ¬ Quotients.Uneven (m + half) (2 * half) :=
        fun h => h.2 (Int.dvd_of_emod_eq_zero hdvd)
      rw [if_neg heven, add_zero, mul_comm _ (2 * half)]
      generalize 2 * half * ((m + half) / (2 * half)) = near at *
      refine iff_of_true ?_ (Or.inr hdvd)
      cases abs_cases (near - m) <;> omega
    · have huneven : Quotients.Uneven (m + half) (2 * half) :=
        ⟨by omega, fun h => hdvd (Int.emod_eq_zero_of_dvd h)⟩
      rw [if_pos huneven, mul_comm _ (2 * half), mul_add, mul_one]
      generalize 2 * half * ((m + half) / (2 * half)) = near at *
      refine iff_of_false ?_ (by omega)
      cases abs_cases (near + 2 * half - m) <;> omega

/-! ### What is converted -/

theorem intText_ne_nil (m : Int) : Json.intText m ≠ [] := by
  unfold Json.intText
  split
  · exact List.cons_ne_nil _ _
  · exact Nat.toDigits_ne_nil

theorem isSpace_intText (m : Int) : ∀ c ∈ Json.intText m, Js.isSpace c = false := by
  have hdigits := Digits.isDigit_toDigits m.natAbs
  intro c hc
  unfold Json.intText at hc
  split at hc
  · cases hc with
    | head => rfl
    | tail _ hc => exact Js.isSpace_of_isDigit (hdigits c hc)
  · exact Js.isSpace_of_isDigit (hdigits c hc)

theorem bigInt_intText (m : Int) : Js.bigInt (Json.intText m) = some m := by
  have hdigits := Digits.isDigit_toDigits m.natAbs
  have hspace := isSpace_intText m
  unfold Json.intText at hspace ⊢
  by_cases hneg : m < 0
  · have hvalue : -(m.natAbs : Int) = m := by omega
    rw [if_pos hneg] at hspace ⊢
    have hread := Js.decimalDigits_eq hdigits Nat.toDigits_ne_nil
    rw [Digits.value_toDigits] at hread
    rw [Js.bigInt, Js.trim_eq_self hspace]
    simp only [hread]
    exact congrArg some hvalue
  · have hvalue : (m.natAbs : Int) = m := by omega
    rw [if_neg hneg, bigInt_of_digits hdigits, Digits.value_toDigits, hvalue]

theorem half_up_mul (m : Int) {p : Int} (hp : 0 < p) : (2 * (m * p) + p) / (2 * p) = m := by
  have hodd : 2 * (m * p) + p = (2 * m + 1) * p := by ring
  rw [hodd, Int.mul_ediv_mul_of_pos_left _ _ hp]
  omega

theorem units_ofInt {m : Int} {x : Binary64.Finite} (hsign : x.negative = decide (m < 0))
    (hunits : x.units = m.natAbs * 2 ^ 1074) : LivePlane.units x = m * 2 ^ 1074 := by
  rw [LivePlane.units, hsign, hunits, Nat.cast_mul, Nat.cast_pow, Nat.cast_ofNat]
  by_cases hneg : m < 0
  · have hvalue : (m.natAbs : Int) = -m := by omega
    rw [if_pos (decide_eq_true hneg), hvalue, Int.neg_mul, Int.neg_neg]
  · have hvalue : (m.natAbs : Int) = m := by omega
    rw [if_neg (by simpa using hneg), hvalue]

theorem roundNumber_ofInt {m : Int} (h : m.natAbs < 2 ^ 53) : roundNumber (ofInt m) = ofInt m := by
  obtain ⟨x, hx, hsign, hunits⟩ := Binary64.ofInt_exact h
  have hpos : (0 : Int) < 2 ^ 1074 := pow_pos (by decide) _
  have hround : roundNumber (.finite x) = ofInt m := by
    rw [roundNumber, units_ofInt hsign hunits]
    exact congrArg ofInt (half_up_mul m hpos)
  rw [hx, hround, hx]

theorem Spells.bigMicros {micros : Json} {m : Int} (h : Spells micros m) :
    bigMicros micros = .ok m := by
  cases h with
  | inl htext =>
    rw [htext]
    simp only [Connectors.bigMicros, String.toList_ofList, Js.trim_eq_self (isSpace_intText m),
      bigInt_intText, Js.ofBigInt]
  | inr hnumber =>
    obtain ⟨hsmall, rfl⟩ := hnumber
    rw [Connectors.bigMicros, roundNumber_ofInt hsmall,
      Metrics.Registry.bigIntOfNumber_ofInt hsmall]
    rfl

section

variable (engine : Engine) (currencyCode : String) {micros : Json} {m : Int}

theorem microsToMinorUnits_eq (h : Spells micros m) :
    microsToMinorUnits engine micros currencyCode =
      .ok ((m + (microsPerUnit engine currencyCode).tdiv 2).tdiv
        (microsPerUnit engine currencyCode)) := by
  have hbig := h.bigMicros
  unfold microsToMinorUnits
  split
  · cases hbig
  · cases h with
    | inl htext =>
      have hnil : Json.intText m = [] := String.ofList_injective (Json.str.inj htext).symm
      exact absurd hnil (intText_ne_nil m)
    | inr hnumber => cases hnumber.2
  · rw [hbig]
    rfl

theorem subunitMultiplier_cases : subunitMultiplier engine currencyCode = 1 ∨
    subunitMultiplier engine currencyCode = 100 ∨ subunitMultiplier engine currencyCode = 1000 := by
  apply Dict.getD_lookup (p := fun mult => mult = 1 ∨ mult = 100 ∨ mult = 1000)
  · decide
  · exact Or.inr (Or.inl rfl)

/-- The exponents that the table knows. -/
theorem subunitExponent_cases : subunitExponent (subunitMultiplier engine currencyCode) = 0 ∨
    subunitExponent (subunitMultiplier engine currencyCode) = 2 ∨
    subunitExponent (subunitMultiplier engine currencyCode) = 3 := by
  rcases subunitMultiplier_cases engine currencyCode with h | h | h <;> rw [h]
  · exact Or.inl rfl
  · exact Or.inr (Or.inl rfl)
  · exact Or.inr (Or.inr rfl)

/-- The divisor is twice a positive number, as the places are at most three. -/
theorem microsPerUnit_eq : ∃ half, 0 < half ∧ microsPerUnit engine currencyCode = 2 * half := by
  have hplaces : subunitExponent (subunitMultiplier engine currencyCode) ≤ 3 := by
    rcases subunitExponent_cases engine currencyCode with h | h | h <;> omega
  refine ⟨5 * 10 ^ (5 - subunitExponent (subunitMultiplier engine currencyCode)), by positivity, ?_⟩
  rw [microsPerUnit, show 6 - subunitExponent (subunitMultiplier engine currencyCode) =
    5 - subunitExponent (subunitMultiplier engine currencyCode) + 1 by omega, pow_succ]
  ring

/-- The property of one amount: the closest number of units, and none that falls as micros grow. -/
def RoundedToNearest (micros : Json) (m : Int) : Prop :=
  ∃ r, microsToMinorUnits engine micros currencyCode = .ok r ∧
    Nearest (microsPerUnit engine currencyCode) m r ∧
    ∀ more n, Spells more n → m ≤ n →
      ∃ r', microsToMinorUnits engine more currencyCode = .ok r' ∧ r ≤ r'

theorem microsToMinorUnits_mono {more : Json} {n : Int} (h : Spells micros m) (h' : Spells more n)
    (hle : m ≤ n) : ∃ r r', microsToMinorUnits engine micros currencyCode = .ok r ∧
      microsToMinorUnits engine more currencyCode = .ok r' ∧ r ≤ r' := by
  obtain ⟨half, hhalf, heq⟩ := microsPerUnit_eq engine currencyCode
  refine ⟨_, _, microsToMinorUnits_eq engine currencyCode h,
    microsToMinorUnits_eq engine currencyCode h', ?_⟩
  exact Int.tdiv_le_tdiv (by omega) (by omega)

theorem micros_rounded_iff (h : Spells micros m) :
    RoundedToNearest engine currencyCode micros m ↔
      RoundsRight (microsPerUnit engine currencyCode) m := by
  obtain ⟨half, hhalf, heq⟩ := microsPerUnit_eq engine currencyCode
  have hconvert := microsToMinorUnits_eq engine currencyCode h
  have htwo : (2 * half).tdiv 2 = half := Int.mul_tdiv_cancel_left _ (by decide)
  rw [heq, htwo] at hconvert
  unfold RoundedToNearest
  rw [heq, ← nearest_tdiv_iff hhalf]
  constructor
  · rintro ⟨r, hr, hnearest, -⟩
    rw [hconvert] at hr
    cases hr
    exact hnearest
  · intro hnearest
    refine ⟨_, hconvert, hnearest, fun more n hmore hle => ?_⟩
    obtain ⟨r, r', hr, hr', hmono⟩ := microsToMinorUnits_mono engine currencyCode h hmore hle
    rw [hconvert] at hr
    cases hr
    exact ⟨r', hr', hmono⟩

/-- A credit of three thousand rupees in micros is a paisa short. -/
theorem credit_not_nearest : ¬ ∀ (engine : Engine) (currencyCode : String) (micros : Json) (m : Int),
    Spells micros m → RoundedToNearest engine currencyCode micros m := by
  intro h
  have hcredit := h ⟨id, id, fun _ => none, fun _ => ""⟩ "INR" (.int (-3000000000)) (-3000000000)
    (Or.inr ⟨by decide, rfl⟩)
  obtain ⟨r, hr, hnearest, -⟩ := hcredit
  have hspells : Spells (.int (-3000000000)) (-3000000000) := Or.inr ⟨by decide, rfl⟩
  have hconvert := microsToMinorUnits_eq ⟨id, id, fun _ => none, fun _ => ""⟩ "INR" hspells
  rw [hconvert] at hr
  cases hr
  exact absurd hnearest (by decide)

/-- A credit of a rupee and half a paisa is a tie, which is rounded up. -/
theorem tie_rounded : RoundedToNearest ⟨id, id, fun _ => none, fun _ => ""⟩ "INR"
    (.str "-1005000") (-1005000) := by
  have hright : RoundsRight (microsPerUnit ⟨id, id, fun _ => none, fun _ => ""⟩ "INR") (-1005000) :=
    by decide
  exact (micros_rounded_iff ⟨id, id, fun _ => none, fun _ => ""⟩ "INR" (Or.inl rfl)).mpr hright

end

end BrainV2.Connectors
