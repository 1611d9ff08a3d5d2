import BrainV2.Money.FormatMoney
import BrainV2.Py.Floats

/-!
# The displays of the brief, and the numbers it may use

* `formatMoney`, `formatPct`, `formatMer`: the texts the model is told to copy;
* `displayRoundBp`, `displayRoundPaise`: the numbers these texts are read back as;
* `displays_agree_iff`: the brief and the dashboard show the same rupees for `-1`, `0` and `1`
  paise only;
* `Signal`: a value computed by the service, which the narration may cite;
* `structuralAllowed`: numbers that say nothing about the data;
* `displayTolerance`: the signals as their displays round them;
* `allowedNumbers`: what the validator holds the numbers of a narration against.
-/

namespace BrainV2.Insight

open Py Digits
open Money (Denotes)

def lakh : Nat := 100000

def crore : Nat := 10000000

/-- `round(v * 10 / unit)`. -/
def roundTenths (v unit : Nat) : Except PyExc Nat := do
  let x ← trueDiv (v * 10 : Nat) unit
  pure (roundInt x).toNat

def minusSign (value : Int) : List Char := if value < 0 then ['−'] else []

/-- `₹`, one decimal and the name of the unit. -/
def tenthsText (value : Int) (tenths : Nat) (unit : String) : List Char :=
  minusSign value ++ '₹' :: (Nat.toDigits 10 (tenths / 10) ++ '.' ::
    Nat.toDigits 10 (tenths % 10) ++ unit.toList)

def formatMoney (value : Int) : Except PyExc (List Char) :=
  let v := value.natAbs
  if crore ≤ v then do
    let croreX10 ← roundTenths v crore
    pure (tenthsText value croreX10 "Cr")
  else if lakh ≤ v then do
    let lakhX10 ← roundTenths v lakh
    pure (tenthsText value lakhX10 "L")
  else .ok (minusSign value ++ '₹' :: Nat.toDigits 10 v)

def formatPct (bp : Int) : List Char :=
  let v := bp.natAbs
  let pctInt := v / 100
  let pctDec := (v % 100 + 5) / 10
  let (pctInt, pctDec) := if pctDec = 10 then (pctInt + 1, 0) else (pctInt, pctDec)
  minusSign bp ++ Nat.toDigits 10 pctInt ++ '.' :: Nat.toDigits 10 pctDec ++ ['%']

def displayRoundBp (bp : Int) : Int :=
  let displayBp : Int := ((bp.natAbs + 5) / 10 * 10 : Nat)
  if 0 ≤ bp then displayBp else -displayBp

def formatMer (merX100 : Int) : List Char :=
  if merX100 < 0 then ['—']
  else
    let mer := merX100.toNat
    Nat.toDigits 10 (mer / 100) ++ '.' :: padded 2 (mer % 100) ++ ['x']

/-- `None` for a value too small to be rounded. -/
def displayRoundPaise (value : Int) : Except PyExc (Option Int) :=
  let absVal := value.natAbs
  let sign : Int := if value < 0 then -1 else 1
  if absVal < lakh then .ok none
  else if crore ≤ absVal then do
    let croreX10 ← roundTenths absVal crore
    pure (some (sign * (croreX10 * (crore / 10) : Nat)))
  else do
    let lakhX10 ← roundTenths absVal lakh
    pure (some (sign * (lakhX10 * (lakh / 10) : Nat)))

/-! ### The rupees a display stands for -/

theorem roundTenths_near {v unit tenths : Nat} (hunit : 0 < unit)
    (h : roundTenths v unit = .ok tenths) :
    |(tenths : ℚ) - (v * 10 : ℕ) / unit| ≤
      1 / 2 + (v * 10 : ℕ) / unit / 2 ^ 53 + 1 / 2 ^ 1075 := by
  obtain ⟨x, hx, htenths⟩ := bind_ok.mp h
  obtain ⟨hnear, hpos⟩ := roundInt_near hunit hx
  have hcast : ((tenths : ℕ) : ℚ) = (roundInt x : ℚ) := by
    rw [← Except.ok.inj htenths]
    exact_mod_cast Int.toNat_of_nonneg hpos
  rw [hcast]
  exact hnear

/-- At least half of the quotient is left, up to one. -/
theorem half_le_roundTenths {v unit tenths : Nat} (hunit : 0 < unit)
    (h : roundTenths v unit = .ok tenths) :
    ((v * 10 : ℕ) : ℚ) / unit / 2 - 1 ≤ tenths := by
  have hnear := (abs_le.mp (roundTenths_near hunit h)).1
  have hquotient : (0 : ℚ) ≤ ((v * 10 : ℕ) : ℚ) / unit := by positivity
  have hsmall := tiny_le
  have hpart : ((v * 10 : ℕ) : ℚ) / unit / 2 ^ 53 ≤ ((v * 10 : ℕ) : ℚ) / unit / 2 :=
    div_le_div_of_nonneg_left hquotient (by norm_num) (by norm_num)
  linarith

theorem readSign_minusSign (value : Int) (rest : List Char) :
    Money.readSign (minusSign value ++ '₹' :: rest) = (decide (value < 0), '₹' :: rest) := by
  by_cases h : value < 0
  · simp [minusSign, Money.readSign, h]
  · simp [minusSign, Money.readSign, h]

/-- A tenth of a lakh or crore of paise shows a hundred times as many rupees. -/
theorem not_denotes_tenths {value : Int} {unit tenths : Nat} {suffix : String}
    (hunit : 0 < unit) (hend : ∀ c ∈ suffix.toList.head?, Money.isNumberChar c = false)
    (hsuffix : Money.suffixRupees suffix.toList = some unit) (hvalue : unit ≤ value.natAbs)
    (h : roundTenths value.natAbs unit = .ok tenths) :
    ¬ Denotes (String.ofList (tenthsText value tenths suffix)) value := by
  have hlength : (Nat.toDigits 10 (tenths % 10)).length = 1 := by
    rw [Nat.toDigits_of_lt_base (by omega)]
    rfl
  have hpointed : '.' :: Nat.toDigits 10 (tenths % 10) =
      Money.pointed (Nat.toDigits 10 (tenths % 10)) := by
    rw [Money.pointed, if_neg Nat.toDigits_ne_nil]
  have htext : tenthsText value tenths suffix = minusSign value ++ '₹' ::
      (Nat.toDigits 10 (tenths / 10) ++ Money.pointed (Nat.toDigits 10 (tenths % 10)) ++
        suffix.toList) := by
    rw [← hpointed]
    simp [tenthsText]
  have hshown : (Nat.toDigits 10 (tenths / 10)).filter (· != ',') =
      Nat.toDigits 10 (tenths / 10) := Money.filter_toDigits _
  rw [htext, Money.denotes_parts (readSign_minusSign value)
    (fun c hc => Or.inl (isDigit_toDigits _ c hc)) (by rw [hshown]; exact Nat.toDigits_ne_nil)
    (isDigit_toDigits _) hend hsuffix, hshown, value_append, value_toDigits, value_toDigits,
    hlength]
  have hdigits : tenths / 10 * 10 ^ 1 + tenths % 10 = tenths := by omega
  rw [hdigits, not_lt]
  have hhalf := half_le_roundTenths hunit h
  have hunitPos : (0 : ℚ) < unit := by exact_mod_cast hunit
  have hvalue' : (unit : ℚ) ≤ value.natAbs := by exact_mod_cast hvalue
  have hscaled : (value.natAbs : ℚ) / 2 - unit / 10 ≤ tenths * (unit / 10 ^ 1) := by
    calc (value.natAbs : ℚ) / 2 - unit / 10
        = (((value.natAbs * 10 : ℕ) : ℚ) / unit / 2 - 1) * (unit / 10 ^ 1) := by
          push_cast
          field_simp
      _ ≤ tenths * (unit / 10 ^ 1) := mul_le_mul_of_nonneg_right hhalf (by positivity)
  apply le_trans _ (le_abs_self _)
  linarith

/-- A small amount of paise is shown as that many rupees. -/
theorem denotes_small_iff (value : Int) :
    Denotes (String.ofList (minusSign value ++ '₹' :: Nat.toDigits 10 value.natAbs)) value ↔
      value.natAbs ≤ 1 := by
  have hshown : (Nat.toDigits 10 value.natAbs).filter (· != ',') =
      Nat.toDigits 10 value.natAbs := Money.filter_toDigits _
  have htext : minusSign value ++ '₹' :: Nat.toDigits 10 value.natAbs = minusSign value ++
      '₹' :: (Nat.toDigits 10 value.natAbs ++ Money.pointed [] ++ []) := by
    simp [Money.pointed]
  rw [htext, Money.denotes_parts (readSign_minusSign value)
    (fun c hc => Or.inl (isDigit_toDigits _ c hc)) (by rw [hshown]; exact Nat.toDigits_ne_nil)
    (by simp) (by simp) rfl, hshown, List.append_nil, value_toDigits]
  rw [List.length_nil, pow_zero, Nat.cast_one, div_one, mul_one]
  have hsplit : (value.natAbs : ℚ) - value.natAbs / 100 = value.natAbs * 99 / 100 := by ring
  rw [hsplit, abs_of_nonneg (by positivity), div_lt_one (by norm_num)]
  norm_cast
  omega

/-- What the brief and the dashboard show of an amount in paise denotes it. -/
def BothDenote (localeString : Money.LocaleString) (locale : Option String) (paise : Int) : Prop :=
  (∃ text, formatMoney paise = .ok text ∧ Denotes (String.ofList text) paise) ∧
    Denotes (Money.formatMoney localeString paise "INR" locale) paise

theorem formatMoney_denotes_iff (paise : Int) :
    (∃ text, formatMoney paise = .ok text ∧ Denotes (String.ofList text) paise) ↔
      paise.natAbs ≤ 1 := by
  by_cases hcrore : crore ≤ paise.natAbs
  · refine iff_of_false ?_ (by unfold crore at hcrore; omega)
    rintro ⟨text, htext, hdenotes⟩
    rw [formatMoney, if_pos hcrore] at htext
    obtain ⟨tenths, htenths, htext⟩ := bind_ok.mp htext
    rw [← Except.ok.inj htext] at hdenotes
    exact not_denotes_tenths (by decide) (Money.head_not_number (by decide)) rfl hcrore htenths hdenotes
  by_cases hlakh : lakh ≤ paise.natAbs
  · refine iff_of_false ?_ (by unfold lakh at hlakh; omega)
    rintro ⟨text, htext, hdenotes⟩
    rw [formatMoney, if_neg hcrore, if_pos hlakh] at htext
    obtain ⟨tenths, htenths, htext⟩ := bind_ok.mp htext
    rw [← Except.ok.inj htext] at hdenotes
    exact not_denotes_tenths (by decide) (Money.head_not_number (by decide)) rfl hlakh htenths hdenotes
  · rw [formatMoney, if_neg hcrore, if_neg hlakh]
    simp only [Except.ok.injEq, exists_eq_left']
    exact denotes_small_iff paise

/-- Both displays say what is stored for amounts of at most one paisa only. -/
theorem displays_agree_iff (localeString : Money.LocaleString) (locale : Option String)
    (paise : Int) : BothDenote localeString locale paise ↔ -1 ≤ paise ∧ paise ≤ 1 := by
  have hdashboard := Money.formatMoney_denotes localeString paise locale
  rw [BothDenote, formatMoney_denotes_iff]
  constructor
  · rintro ⟨hsmall, -⟩
    omega
  · intro hsmall
    exact ⟨by omega, hdashboard⟩

/-- One rupee: the brief shows `₹100`. -/
theorem rupee_shown_as_hundred :
    formatMoney 100 = .ok "₹100".toList ∧
      ¬ BothDenote (fun _ n => Nat.toDigits 10 n) none 100 := by
  refine ⟨by decide, fun h => ?_⟩
  have hsmall := (formatMoney_denotes_iff 100).mp h.1
  omega

/-! ## The numbers a narration may use -/

section

open Py

/-- A deterministic value: paise, basis points or a count. -/
structure Signal where
  signalId : String
  valueCanonical : Int
deriving DecidableEq

structure FaithfulnessResult where
  ok : Bool
  offendingNumbers : List String
deriving DecidableEq

def confidenceRange : List Int := (List.range 101).map Int.ofNat

def benchmarkBpAllowed : List Int :=
  [4000, 3000, 2000, 2500, 1500, 500, 1000, 0, -500, 4500, 5500, 400, 250, 150]

def calendarYears : List Int := (List.range' 2020 11).map Int.ofNat

def dayMonthOrdinals : List Int := (List.range' 1 31).map Int.ofNat

def structuralAllowed : List Int :=
  confidenceRange ++ benchmarkBpAllowed ++ calendarYears ++ dayMonthOrdinals

/-- `_build_display_tolerance_set`. -/
def displayTolerance (signalValues : List Int) : Except PyExc (List Int) := do
  let rounded ← signalValues.mapM displayRoundPaise
  pure (rounded.filterMap id)

/-- The allowed set: the constants are the structural ones for a narration that is JSON, the
benchmarks alone for another text. -/
def allowedNumbers (signals : List Signal) (isJson : Bool) : Except PyExc (List Int) := do
  let values := signals.map Signal.valueCanonical
  let tolerance ← displayTolerance values
  pure (values ++ tolerance ++ if isJson then structuralAllowed else benchmarkBpAllowed)

theorem mem_structuralAllowed {n : Int} :
    n ∈ structuralAllowed ↔ (0 ≤ n ∧ n ≤ 100) ∨ n ∈ benchmarkBpAllowed ∨
      (2020 ≤ n ∧ n ≤ 2030) := by
  have hrange : ∀ start count : Nat, n ∈ (List.range' start count).map Int.ofNat ↔
      (start : Int) ≤ n ∧ n < start + count := by
    intro start count
    simp only [List.mem_map, List.mem_range'_1, Int.ofNat_eq_natCast]
    constructor
    · rintro ⟨k, hk, rfl⟩
      omega
    · rintro ⟨hlow, hhigh⟩
      exact ⟨n.toNat, by omega, by omega⟩
  simp only [structuralAllowed, confidenceRange, calendarYears, dayMonthOrdinals,
    List.range_eq_range', List.mem_append, hrange]
  by_cases hbenchmark : n ∈ benchmarkBpAllowed
  · simp [hbenchmark]
  · simp only [hbenchmark, or_false, false_or]
    omega

end

end BrainV2.Insight
