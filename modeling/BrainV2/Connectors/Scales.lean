import BrainV2.Connectors.Acl
import BrainV2.Lib.Dict
import BrainV2.Money.FormatMoney
import BrainV2.Money.LibMetrics
import Mathlib.Tactic.LinearCombination

/-!
# Two scales for one currency

The facts are scaled by the table of `acl.ts`, the metrics by the one of lib-metrics.

* `missingFromAcl`: the codes that only lib-metrics knows;
* `cut_le`, `cut_eq`: an amount cut off at some places, and one that has no more of them;
* `toMinorUnits_exact`: lib-metrics does not round an amount with no more places than its currency;
* `scaledAlike_iff`: the two give one integer unless the code is missing and the amount not zero.
-/

namespace BrainV2.Connectors

open Binary64 (ofInt)
open Js (Engine)
open Money (AmountText)

/-! ### The tables -/

def missingFromAcl : List String := ["OMR", "TND", "KRW", "VND", "IDR", "HUF", "ISK", "TWD"]

/-- The multiplier of lib-metrics. -/
def libMultiplier (engine : Engine) (currencyCode : String) : Nat :=
  Money.subunitMultiplierWith engine.toUpperCase currencyCode

/-- Both conversions return the same integer. -/
def ScaledAlike (engine : Engine) (amount : String) (currencyCode : String) : Prop :=
  ∃ n, decimalStringToMinorUnits engine (.str amount) currencyCode = .ok n ∧
    LibMetrics.decimalToMinorUnits amount (ofInt (libMultiplier engine currencyCode)) = .ok n

/-- A code of one table only is missing from the other. -/
theorem multipliers_of_key (k : String) :
    (k ∈ missingFromAcl ∧ (subunitMultipliers.lookup k).getD 100 = 100 ∧
      ((Money.subunitMultipliers.lookup k).getD 100 = 1000 ∨
        (Money.subunitMultipliers.lookup k).getD 100 = 1)) ∨
    (k ∉ missingFromAcl ∧
      (subunitMultipliers.lookup k).getD 100 = (Money.subunitMultipliers.lookup k).getD 100) := by
  by_cases hk : k ∈ Dict.keys Money.subunitMultipliers
  · have hall : ∀ k ∈ Dict.keys Money.subunitMultipliers,
        (k ∈ missingFromAcl ∧ (subunitMultipliers.lookup k).getD 100 = 100 ∧
          ((Money.subunitMultipliers.lookup k).getD 100 = 1000 ∨
            (Money.subunitMultipliers.lookup k).getD 100 = 1)) ∨
        (k ∉ missingFromAcl ∧ (subunitMultipliers.lookup k).getD 100 =
          (Money.subunitMultipliers.lookup k).getD 100) := by
      decide
    exact hall k hk
  · have hacl : Dict.keys subunitMultipliers ⊆ Dict.keys Money.subunitMultipliers := by decide
    have hmissing : missingFromAcl ⊆ Dict.keys Money.subunitMultipliers := by decide
    refine Or.inr ⟨fun h => hk (hmissing h), ?_⟩
    rw [Dict.getD_lookup_of_notMem hk, Dict.getD_lookup_of_notMem fun h => hk (hacl h)]

theorem libMultiplier_pow (engine : Engine) (currencyCode : String) :
    ∃ k, k ≤ 3 ∧ libMultiplier engine currencyCode = 10 ^ k ∧
      subunitExponent (libMultiplier engine currencyCode) = k := by
  unfold libMultiplier Money.subunitMultiplierWith
  apply Dict.getD_lookup (p := fun mult => ∃ k, k ≤ 3 ∧ mult = 10 ^ k ∧ subunitExponent mult = k)
  · decide
  · exact ⟨2, by decide, rfl, rfl⟩

/-! ### Both conversions of an amount -/

section

variable (a : AmountText)

/-- What is cut off at `e` places, over `10 ^ e`. -/
def cutOff (e : Nat) : ℚ :=
  Digits.value (a.places.drop e) / 10 ^ (a.places.drop e).length

theorem cutOff_nonneg (e : Nat) : 0 ≤ cutOff a e := by
  unfold cutOff
  positivity

theorem cutOff_eq_zero {e : Nat} (h : a.places.length ≤ e) : cutOff a e = 0 := by
  rw [cutOff, List.drop_of_length_le h]
  simp

theorem cut_value (e : Nat) :
    (Digits.value ((a.places ++ List.replicate e '0').take e) : ℚ) =
      a.part * 10 ^ e - cutOff a e := by
  have htake : (a.places ++ List.replicate e '0').take e = a.places.take e ++
      List.replicate (e - (a.places.take e).length) '0' := by
    have hlength : min (e - a.places.length) e = e - min e a.places.length := by omega
    rw [List.take_append, List.take_replicate, List.length_take, hlength]
  rw [htake, AmountText.part, LibMetrics.cut_value, cutOff]
  ring

/-- The magnitude of what is kept. -/
theorem cut_magnitude (e : Nat) :
    ((Digits.value a.whole * 10 ^ e +
      Digits.value ((a.places ++ List.replicate e '0').take e) : ℚ)) =
      a.magnitude * 10 ^ e - cutOff a e := by
  rw [cut_value, a.magnitude_eq]
  ring

theorem cutUnits_eq (e : Nat) : (cutUnits a (10 ^ e) e : ℚ) =
    a.signed (a.magnitude * 10 ^ e - cutOff a e) := by
  rw [← cut_magnitude, AmountText.signed, cutUnits]
  split <;> push_cast <;> rfl

theorem cut_eq {e : Nat} (h : a.places.length ≤ e) :
    (cutUnits a (10 ^ e) e : ℚ) = a.value * 10 ^ e := by
  rw [cutUnits_eq, cutOff_eq_zero a h, sub_zero, AmountText.value, AmountText.signed,
    AmountText.signed]
  split <;> ring

theorem abs_signed (q : ℚ) : |a.signed q| = |q| := by
  rw [AmountText.signed]
  split <;> simp

theorem magnitude_nonneg : 0 ≤ a.magnitude := by
  unfold AmountText.magnitude
  positivity

theorem abs_value : |a.value| = a.magnitude := by
  rw [AmountText.value, abs_signed, abs_of_nonneg (magnitude_nonneg a)]

theorem cut_le (e : Nat) : |(cutUnits a (10 ^ e) e : ℚ)| ≤ |a.value| * 10 ^ e := by
  have hkept : (0 : ℚ) ≤ a.magnitude * 10 ^ e - cutOff a e := by
    rw [← cut_magnitude]
    positivity
  have hoff := cutOff_nonneg a e
  rw [cutUnits_eq, abs_signed, abs_of_nonneg hkept, abs_value]
  linarith

theorem toMinorUnits_exact {k : Nat} (hk : k ≤ 3) (h : a.places.length ≤ k) :
    ∃ n, LibMetrics.decimalToMinorUnits a.text (ofInt (10 ^ k : Nat)) = .ok n ∧
      (n : ℚ) = a.value * 10 ^ k := by
  have hsmall : 10 ^ k < 2 ^ 53 := by
    have hle : 10 ^ k ≤ 10 ^ 3 := Nat.pow_le_pow_right (by decide) hk
    exact Nat.lt_of_le_of_lt hle (by decide)
  obtain ⟨x, hx, hnat⟩ := Js.isNat_ofInt hsmall
  obtain ⟨m, hround, hresult⟩ := LibMetrics.decimalToMinorUnits_amount a hnat
  have hplaces : LibMetrics.placesOf k = k := if_pos (by omega)
  have hexact : a.part * 10 ^ k =
      ((Digits.value ((a.places ++ List.replicate k '0').take k) : Int) : ℚ) := by
    rw [Int.cast_natCast, cut_value, cutOff_eq_zero a h, sub_zero]
  rw [hplaces, hexact] at hround
  have hm := hround.unique (HalfEven.rounds_intCast _)
  refine ⟨_, by rw [hx]; exact hresult, ?_⟩
  rw [Int.cast_natCast] at hexact
  rw [hm, AmountText.value, AmountText.signed, a.magnitude_eq]
  split
  · push_cast
    linear_combination hexact
  · push_cast
    linear_combination -hexact

/-- A hundredth instead of a thousandth, or of a whole, is the same for nothing only. -/
theorem cutUnits_hundred_iff {k : Nat} {n : Int} (hk : k = 3 ∨ k = 0)
    (h : a.places.length ≤ k) (hn : (n : ℚ) = a.value * 10 ^ k) :
    cutUnits a 100 (subunitExponent 100) = n ↔ a.value = 0 := by
  have hle := cut_le a 2
  have hcast : cutUnits a 100 (subunitExponent 100) = n ↔
      (cutUnits a (10 ^ 2) 2 : ℚ) = a.value * 10 ^ k := by
    rw [← hn, Int.cast_inj]
    rfl
  rw [hcast]
  constructor
  · intro heq
    cases hk with
    | inl hk =>
      rw [heq, hk, abs_mul] at hle
      norm_num at hle
      have habs := abs_nonneg a.value
      exact abs_eq_zero.mp (by linarith)
    | inr hk =>
      rw [hk, cut_eq a (e := 2) (by omega)] at heq
      linarith
  · intro hzero
    rw [hzero, abs_zero, zero_mul] at hle
    rw [hzero, zero_mul]
    exact abs_nonpos_iff.mp hle

/-- A plus stands in front of no decimal of `acl.ts`. -/
theorem decimalStringToMinorUnits_plus (hsign : a.sign = .plus) (engine : Engine)
    (currencyCode : String) :
    decimalStringToMinorUnits engine (.str a.text) currencyCode =
      .error (notADecimal (.str a.text)) := by
  have hchars : a.chars = '+' :: a.magnitudeText := by rw [AmountText.chars, hsign]; rfl
  have htext : ∀ exponent, amountChars (.str a.text) exponent = .ok ('+' :: a.magnitudeText) := by
    intro exponent
    have htrim := Js.trim_eq_self (chars_not_blank a)
    change Except.ok (Js.trim a.text.toList) = _
    rw [AmountText.text, String.toList_ofList, htrim, hchars]
  unfold decimalStringToMinorUnits
  split
  · next h => cases h
  · next h => exact absurd (Json.str.inj h) (text_ne_empty a)
  · simp only [htext, bind, Except.bind]
    rfl

end

/-! ### Where they agree -/

/-- No plus, and a code of both tables or no amount at all. -/
def ScalesAlike (engine : Engine) (a : AmountText) (currencyCode : String) : Prop :=
  a.sign ≠ .plus ∧ (engine.toUpperCase currencyCode ∉ missingFromAcl ∨ a.value = 0)

theorem scaledAlike_iff (engine : Engine) (a : AmountText) (currencyCode : String)
    (hplaces : a.places.length ≤ subunitExponent (libMultiplier engine currencyCode)) :
    ScaledAlike engine a.text currencyCode ↔ ScalesAlike engine a currencyCode := by
  obtain ⟨k, hk, hlib, hexponent⟩ := libMultiplier_pow engine currencyCode
  rw [hexponent] at hplaces
  obtain ⟨n, hn, hvalue⟩ := toMinorUnits_exact a hk hplaces
  unfold ScaledAlike ScalesAlike
  rw [hlib, hn]
  by_cases hsign : a.sign = .plus
  · rw [decimalStringToMinorUnits_plus a hsign]
    exact iff_of_false (fun ⟨_, h, _⟩ => by cases h) fun h => h.1 hsign
  have hacl := decimalStringToMinorUnits_text a hsign engine currencyCode
  have hsame : (∃ n', decimalStringToMinorUnits engine (.str a.text) currencyCode = .ok n' ∧
      Except.ok n = (Except.ok n' : Except LibMetrics.ConvertError Int)) ↔
      cutUnits a (subunitMultiplier engine currencyCode)
        (subunitExponent (subunitMultiplier engine currencyCode)) = n := by
    rw [hacl]
    constructor
    · rintro ⟨n', h, h'⟩
      cases h
      cases h'
      rfl
    · intro h
      exact ⟨n, by rw [h], rfl⟩
  rw [hsame]
  rcases multipliers_of_key (engine.toUpperCase currencyCode) with
    ⟨hmissing, haclTable, hlibTable⟩ | ⟨hknown, htables⟩
  · have hmult : subunitMultiplier engine currencyCode = 100 := haclTable
    have hpow : 10 ^ k = 1000 ∨ 10 ^ k = 1 := hlib ▸ hlibTable
    have hdiffers : k = 3 ∨ k = 0 := by
      obtain rfl | rfl | rfl | rfl : k = 0 ∨ k = 1 ∨ k = 2 ∨ k = 3 := by omega
      all_goals omega
    have hzero := cutUnits_hundred_iff a hdiffers hplaces hvalue
    rw [hmult]
    constructor
    · intro heq
      exact ⟨hsign, Or.inr (hzero.mp heq)⟩
    · rintro ⟨-, hknown | hvalue⟩
      · exact absurd hmissing hknown
      · exact hzero.mpr hvalue
  · have hmult : subunitMultiplier engine currencyCode = 10 ^ k := by
      rw [← hlib]
      exact htables
    rw [hlib] at hexponent
    rw [hmult, hexponent]
    refine iff_of_true ?_ ⟨hsign, Or.inl hknown⟩
    have hexact := cut_eq a hplaces
    rw [← hvalue] at hexact
    exact_mod_cast hexact

/-- A thousand Omani rials and a quarter. -/
def rials : AmountText where
  sign := .none
  whole := "1000".toList
  fraction := some "250".toList
  digits := List.all_eq_true.mp (by decide)
  someDigit := by decide

theorem rials_value : rials.value ≠ 0 := by
  have hvalue : rials.value = 1000250 / 10 ^ 3 := rfl
  rw [hvalue]
  norm_num

/-- They are thousandths in lib-metrics, and hundredths in `acl.ts`. -/
theorem rials_not_alike : ¬ ∀ (engine : Engine) (a : AmountText) (currencyCode : String),
    a.places.length ≤ subunitExponent (libMultiplier engine currencyCode) →
      ScaledAlike engine a.text currencyCode := by
  intro h
  have hrials := h ⟨id, id, fun _ => none, fun _ => ""⟩ rials "OMR" (by decide)
  obtain ⟨n, hacl, hlib⟩ := hrials
  have hcut := decimalStringToMinorUnits_text rials (by decide)
    ⟨id, id, fun _ => none, fun _ => ""⟩ "OMR"
  obtain ⟨n', hn', hvalue⟩ := toMinorUnits_exact rials (k := 3) (by decide) (by decide)
  rw [hcut] at hacl
  cases hacl
  have hsame : Except.ok n' = Except.ok _ := hn'.symm.trans hlib
  cases hsame
  exact rials_value ((cutUnits_hundred_iff rials (Or.inl rfl) (by decide) hvalue).mp rfl)

/-- The same amount of Kuwaiti dinars is one integer for both. -/
theorem dinars_alike : ScaledAlike ⟨id, id, fun _ => none, fun _ => ""⟩ rials.text "KWD" := by
  apply (scaledAlike_iff ⟨id, id, fun _ => none, fun _ => ""⟩ rials "KWD" (by decide)).mpr
  exact ⟨by decide, Or.inl (by decide)⟩

end BrainV2.Connectors
