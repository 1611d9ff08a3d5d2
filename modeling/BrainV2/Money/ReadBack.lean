import BrainV2.Lib.Dict
import BrainV2.Money.FormatMoney
import Mathlib

/-!
# Reading a display back

* `readBack`: the amount that a display says, its symbol being known;
* `SaysTruly`: it is the amount, or what is left of it at the last printed digit;
* `saysTruly_of_cut`: so it is when the digits are those of a quotient that is rounded down;
* `formatMoney_saysTruly`: the display of every amount in every currency, and those that lose
  nothing.
-/

namespace BrainV2.Money

open Digits (padded isDigit_padded length_padded padded_ne_nil value_append value_toDigits
  value_padded isDigit_toDigits)

/-! ### The reader -/

/-- The sign of a display, and what stands behind its symbol. -/
def dropSymbol (symbol text : List Char) : Option (Bool × List Char) :=
  if symbol.isPrefixOf text then some (false, text.drop symbol.length)
  else match text with
    | '-' :: rest => if symbol.isPrefixOf rest then some (true, rest.drop symbol.length) else none
    | _ => none

/-- A display is read like one in rupees, with the symbol of its currency. -/
def readBack (symbol text : List Char) : Option Shown :=
  (dropSymbol symbol text).bind fun (negative, body) =>
    readMoney ((if negative then ['-'] else []) ++ '₹' :: body)

/-- The sign is that of the amount, and less than a last printed digit is left out of it. -/
structure SaysTruly (shown : Shown) (amount : ℚ) : Prop where
  sign : SignType.sign shown.amount = SignType.sign amount
  le : |shown.amount| ≤ |amount|
  close : |amount| - |shown.amount| < shown.unit

/-- The exact integer, with grouping commas only. -/
def PrintsGrouped (print : ℕ → List Char) : Prop :=
  ∀ n, (∀ c ∈ print n, c.isDigit = true ∨ c = ',') ∧
    (print n).filter (· != ',') = Nat.toDigits 10 n

/-- The amount in major units. -/
def majorUnits (upper : String → String) (minorUnits : ℤ) (currencyCode : String) : ℚ :=
  minorUnits / subunitMultiplierWith upper currencyCode

/-- A symbol of hyphens could not be told from the sign. -/
theorem not_prefix_cons {symbol rest : List Char} (h : ∃ c ∈ symbol, c ≠ '-') :
    ¬ symbol <+: '-' :: (symbol ++ rest) := by
  induction symbol generalizing rest with
  | nil =>
    obtain ⟨c, hc, -⟩ := h
    cases hc
  | cons d symbol ih =>
    intro hprefix
    obtain ⟨rfl, htail⟩ := List.cons_prefix_cons.mp hprefix
    obtain ⟨c, hc, hne⟩ := h
    have hrest : ∃ c ∈ symbol, c ≠ '-' := by
      cases hc with
      | head => exact absurd rfl hne
      | tail _ hc => exact ⟨c, hc, hne⟩
    exact ih hrest htail

theorem dropSymbol_text {symbol : List Char} (h : ∃ c ∈ symbol, c ≠ '-') (minorUnits : ℤ)
    (body : List Char) :
    dropSymbol symbol (signText minorUnits ++ symbol ++ body) =
      some (decide (minorUnits < 0), body) := by
  have hprefix : symbol.isPrefixOf (symbol ++ body) = true :=
    List.isPrefixOf_iff_prefix.mpr (List.prefix_append _ _)
  unfold signText dropSymbol
  by_cases hneg : minorUnits < 0
  · have hnot : ¬ symbol.isPrefixOf ('-' :: (symbol ++ body)) = true := fun hp =>
      not_prefix_cons h (List.isPrefixOf_iff_prefix.mp hp)
    simp [hneg, hnot, hprefix]
  · simp [hneg, hprefix]

theorem readBack_text {symbol : List Char} (h : ∃ c ∈ symbol, c ≠ '-') (minorUnits : ℤ)
    {whole decimals suffix : List Char} {rupees : ℕ}
    (hwhole : ∀ c ∈ whole, c.isDigit = true ∨ c = ',') (hsome : whole.filter (· != ',') ≠ [])
    (hdecimals : ∀ c ∈ decimals, c.isDigit = true)
    (hend : ∀ c ∈ suffix.head?, isNumberChar c = false)
    (hsuffix : suffixRupees suffix = some rupees) :
    readBack symbol (signText minorUnits ++ symbol ++ (whole ++ pointed decimals ++ suffix)) =
      some ⟨(if minorUnits < 0 then -1 else 1) *
          (Digits.value (whole.filter (· != ',') ++ decimals) * (rupees / 10 ^ decimals.length)),
        rupees / 10 ^ decimals.length⟩ := by
  have hread := readMoney_text (decide (minorUnits < 0)) (readSign_signText minorUnits) hwhole hsome
    hdecimals hend hsuffix
  rw [readBack, dropSymbol_text h, Option.bind_some]
  simp only [decide_eq_true_eq] at hread ⊢
  exact hread

/-! ### Rounding down -/

/-- Digits `n` of units, each of them `step` minor units. -/
theorem saysTruly_of_cut {minorUnits : ℤ} {n step mult : ℕ} {unit : ℚ} (hmult : 0 < mult)
    (hunit : unit = step / mult) (hle : n * step ≤ minorUnits.natAbs)
    (hlt : minorUnits.natAbs < (n + 1) * step) (hzero : n = 0 → minorUnits = 0) :
    SaysTruly ⟨(if minorUnits < 0 then -1 else 1) * (n * unit), unit⟩ (minorUnits / mult) := by
  have hstep : 0 < step := Nat.pos_of_ne_zero (by rintro rfl; omega)
  have hmult' : (0 : ℚ) < mult := by exact_mod_cast hmult
  have hunitPos : 0 < unit := by
    rw [hunit]
    exact div_pos (by exact_mod_cast hstep) hmult'
  have habs : |(minorUnits / mult : ℚ)| = minorUnits.natAbs / mult := by
    rw [abs_div, Nat.abs_cast, Nat.cast_natAbs, Int.cast_abs]
  have hshown : |(if minorUnits < 0 then -1 else 1 : ℚ) * (n * unit)| = n * unit := by
    have hsign : |(if minorUnits < 0 then -1 else 1 : ℚ)| = 1 := by split <;> simp
    rw [abs_mul, hsign, one_mul, abs_of_nonneg (by positivity)]
  have hle' : (n * step : ℚ) ≤ minorUnits.natAbs := by exact_mod_cast hle
  have hlt' : (minorUnits.natAbs : ℚ) < (n + 1) * step := by exact_mod_cast hlt
  refine ⟨?_, ?_, ?_⟩
  · by_cases hn : n = 0
    · rw [hzero hn, hn]
      simp
    · have hpos : (0 : ℚ) < n * unit := mul_pos (by exact_mod_cast Nat.pos_of_ne_zero hn) hunitPos
      have hne : minorUnits.natAbs ≠ 0 := by
        have := Nat.mul_pos (Nat.pos_of_ne_zero hn) hstep
        omega
      by_cases hneg : minorUnits < 0
      · have hquotient : (minorUnits / mult : ℚ) < 0 :=
          div_neg_of_neg_of_pos (by exact_mod_cast hneg) hmult'
        rw [if_pos hneg, sign_neg hquotient, sign_neg (by linarith)]
      · have hpositive : 0 < minorUnits := by omega
        have hquotient : (0 : ℚ) < minorUnits / mult :=
          div_pos (by exact_mod_cast hpositive) hmult'
        rw [if_neg hneg, one_mul, sign_pos hquotient, sign_pos hpos]
  · rw [hshown, habs, hunit, ← mul_div_assoc]
    exact div_le_div_of_nonneg_right hle' hmult'.le
  · rw [hshown, habs, hunit, ← mul_div_assoc, div_sub_div_same]
    exact div_lt_div_of_pos_right (by linarith) hmult'

theorem exact_of_cut {minorUnits : ℤ} {mult : ℕ} {unit : ℚ} (hunit : unit = 1 / mult) :
    (if minorUnits < 0 then -1 else 1 : ℚ) * (minorUnits.natAbs * unit) = minorUnits / mult := by
  have hsign : (if minorUnits < 0 then -1 else 1 : ℚ) * minorUnits.natAbs = minorUnits := by
    rw [Nat.cast_natAbs]
    split
    · next hneg =>
      rw [abs_of_neg hneg]
      push_cast
      ring
    · next hpos => rw [abs_of_nonneg (not_lt.mp hpos), one_mul]
  rw [hunit, ← mul_assoc, hsign, mul_one_div]

/-! ### The display -/

/-- What a display says, and that it is the amount where the digits are minor units. -/
def Says (symbol text : List Char) (minorUnits : ℤ) (step mult : ℕ) : Prop :=
  ∃ shown, readBack symbol text = some shown ∧ SaysTruly shown (minorUnits / mult) ∧
    (step = 1 → shown.amount = minorUnits / mult)

section

variable {symbol : List Char} (hsymbol : ∃ c ∈ symbol, c ≠ '-') {minorUnits : ℤ}
  {whole decimals suffix : List Char} {n rupees step mult : ℕ}

include hsymbol

variable (rupees) in
/-- A display made of its parts, of `n` units of the last printed digit. -/
theorem says_parts (hwhole : ∀ c ∈ whole, c.isDigit = true ∨ c = ',')
    (hsome : whole.filter (· != ',') ≠ []) (hdecimals : ∀ c ∈ decimals, c.isDigit = true)
    (hvalue : Digits.value (whole.filter (· != ',') ++ decimals) = n)
    (hend : ∀ c ∈ suffix.head?, isNumberChar c = false)
    (hsuffix : suffixRupees suffix = some rupees) (hmult : 0 < mult)
    (hunit : (rupees / 10 ^ decimals.length : ℚ) = step / mult)
    (hle : n * step ≤ minorUnits.natAbs) (hlt : minorUnits.natAbs < (n + 1) * step)
    (hzero : n = 0 → minorUnits = 0) :
    Says symbol (signText minorUnits ++ symbol ++ (whole ++ pointed decimals ++ suffix))
      minorUnits step mult := by
  have hread := readBack_text hsymbol minorUnits hwhole hsome hdecimals hend hsuffix
  rw [hvalue] at hread
  refine ⟨_, hread, saysTruly_of_cut hmult hunit hle hlt hzero, fun hone => ?_⟩
  have hn : n = minorUnits.natAbs := by
    rw [hone] at hle hlt
    omega
  rw [hone, Nat.cast_one] at hunit
  rw [hn]
  exact exact_of_cut hunit

variable (rupees) in
theorem says_pointed {places dec : ℕ} (hwhole : ∀ c ∈ whole, c.isDigit = true ∨ c = ',')
    (hfilter : whole.filter (· != ',') = Nat.toDigits 10 n) (hplaces : 0 < places)
    (hdec : dec < 10 ^ places) (hend : ∀ c ∈ suffix.head?, isNumberChar c = false)
    (hsuffix : suffixRupees suffix = some rupees) (hmult : 0 < mult)
    (hunit : (rupees / 10 ^ places : ℚ) = step / mult)
    (hle : (n * 10 ^ places + dec) * step ≤ minorUnits.natAbs)
    (hlt : minorUnits.natAbs < (n * 10 ^ places + dec + 1) * step)
    (hzero : n * 10 ^ places + dec = 0 → minorUnits = 0) :
    Says symbol (signText minorUnits ++ symbol ++ (whole ++ '.' :: padded places dec ++ suffix))
      minorUnits step mult := by
  have hlength : (padded places dec).length = places := length_padded hplaces hdec
  have hpointed : '.' :: padded places dec = pointed (padded places dec) := by
    rw [pointed, if_neg (padded_ne_nil places dec)]
  have hvalue : Digits.value (whole.filter (· != ',') ++ padded places dec) =
      n * 10 ^ places + dec := by
    rw [hfilter, value_append, value_toDigits, value_padded, hlength]
  rw [hpointed]
  exact says_parts hsymbol rupees hwhole (hfilter ▸ Nat.toDigits_ne_nil) (isDigit_padded places dec)
    hvalue hend hsuffix hmult (by rw [hlength]; exact hunit) hle hlt hzero

variable (minorUnits) in
theorem says_inr : Says symbol (formatInrMajor minorUnits symbol) minorUnits
    (if 10000000 ≤ minorUnits.natAbs / 100 then 10000000
      else if 100000 ≤ minorUnits.natAbs / 100 then 100000 else 1) 100 := by
  have hdigits : ∀ n, ∀ c ∈ Nat.toDigits 10 n, c.isDigit = true ∨ c = ',' :=
    fun n c hc => Or.inl (isDigit_toDigits n c hc)
  unfold formatInrMajor
  by_cases hcrore : 10000000 ≤ minorUnits.natAbs / 100
  · have hsays : Says symbol (signText minorUnits ++ symbol ++
        (Nat.toDigits 10 (minorUnits.natAbs / 100 / 10000000) ++
          '.' :: padded 2 (minorUnits.natAbs / 100 % 10000000 / 100000) ++ " Cr".toList))
        minorUnits 10000000 100 :=
      says_pointed hsymbol 10000000 (hdigits (minorUnits.natAbs / 100 / 10000000))
        (filter_toDigits _) (by decide) (by omega) (head_not_number (by decide)) (by decide)
        (by decide) (by norm_num) (by omega) (by omega) (by omega)
    simpa [hcrore] using hsays
  by_cases hlakh : 100000 ≤ minorUnits.natAbs / 100
  · have hsays : Says symbol (signText minorUnits ++ symbol ++
        (Nat.toDigits 10 (minorUnits.natAbs / 100 / 100000) ++
          '.' :: padded 2 (minorUnits.natAbs / 100 % 100000 / 1000) ++ " L".toList))
        minorUnits 100000 100 :=
      says_pointed hsymbol 100000 (hdigits (minorUnits.natAbs / 100 / 100000))
        (filter_toDigits _) (by decide) (by omega) (head_not_number (by decide)) (by decide)
        (by decide) (by norm_num) (by omega) (by omega) (by omega)
    simpa [hcrore, hlakh] using hsays
  · have hsays : Says symbol (signText minorUnits ++ symbol ++
        (enIn (minorUnits.natAbs / 100) ++ '.' :: padded 2 (minorUnits.natAbs % 100) ++ []))
        minorUnits 1 100 :=
      says_pointed hsymbol 1 (fun c hc => mem_enIn hc) (filter_enIn (minorUnits.natAbs / 100))
        (by decide) (by omega) (by simp) (by decide) (by decide) (by norm_num) (by omega) (by omega)
        (by omega)
    simpa [hcrore, hlakh] using hsays

variable (minorUnits) in
/-- Every digit of the other currencies is printed. -/
theorem says_nonInr (upper : String → String) {localeString : LocaleString} (code : String)
    {locale : String}
    (hlocale : PrintsGrouped (localeString locale)) :
    Says symbol (formatNonInrMajorWith upper localeString minorUnits code symbol locale) minorUnits
      1 (subunitMultiplierWith upper code) := by
  have hmult : subunitMultiplierWith upper code = 1 ∨ subunitMultiplierWith upper code = 100 ∨
      subunitMultiplierWith upper code = 1000 := by
    apply Dict.getD_lookup (p := fun mult => mult = 1 ∨ mult = 100 ∨ mult = 1000)
    · decide
    · exact Or.inr (Or.inl rfl)
  obtain ⟨hwhole, hfilter⟩ := hlocale (minorUnits.natAbs / subunitMultiplierWith upper code)
  unfold formatNonInrMajorWith
  rcases hmult with hone | hhundred | hthousand
  · rw [hone] at hwhole hfilter ⊢
    have hsays : Says symbol (signText minorUnits ++ symbol ++
        (localeString locale (minorUnits.natAbs / 1) ++ pointed [] ++ [])) minorUnits 1 1 :=
      says_parts hsymbol 1 hwhole (hfilter ▸ Nat.toDigits_ne_nil) (by simp)
        (by rw [hfilter, List.append_nil, value_toDigits]) (by simp) (by decide) (by decide)
        (by norm_num) (by omega) (by omega) (by omega)
    simpa [pointed] using hsays
  · rw [hhundred] at hwhole hfilter ⊢
    have hsays : Says symbol (signText minorUnits ++ symbol ++
        (localeString locale (minorUnits.natAbs / 100) ++
          '.' :: padded 2 (minorUnits.natAbs % 100) ++ [])) minorUnits 1 100 :=
      says_pointed hsymbol 1 hwhole hfilter (by decide) (by omega) (by simp) (by decide) (by decide)
        (by norm_num) (by omega) (by omega) (by omega)
    simpa using hsays
  · rw [hthousand] at hwhole hfilter ⊢
    have hsays : Says symbol (signText minorUnits ++ symbol ++
        (localeString locale (minorUnits.natAbs / 1000) ++
          '.' :: padded 3 (minorUnits.natAbs % 1000) ++ [])) minorUnits 1 1000 :=
      says_pointed hsymbol 1 hwhole hfilter (by decide) (by omega) (by simp) (by decide) (by decide)
        (by norm_num) (by omega) (by omega) (by omega)
    simpa using hsays

end

/-- No symbol is made of hyphens only. -/
theorem symbol_not_hyphens (upper : String → String) (code : String) :
    ∃ c ∈ (getCurrencySymbolWith upper code).toList, c ≠ '-' := by
  have hany : (getCurrencySymbolWith upper code).toList.any (· != '-') = true := by
    apply Dict.getD_lookup (p := fun symbol : String => symbol.toList.any (· != '-') = true)
    · decide
    · simp
  simpa using List.any_eq_true.mp hany

/-- The display of every amount says it to its last printed digit. All digits are printed of an
amount below a lakh, and in every currency other than the rupee. -/
theorem formatMoney_saysTruly (upper : String → String)
    (hupper : ∀ code, upper (upper code) = upper code) (localeString : LocaleString)
    (minorUnits : ℤ) (currencyCode : String) (locale : Option String)
    (hlocale : PrintsGrouped (localeString (effectiveLocale (upper currencyCode) locale))) :
    ∃ shown, readBack (getCurrencySymbolWith upper currencyCode).toList
        (formatMoneyWith upper localeString minorUnits currencyCode locale).toList = some shown ∧
      SaysTruly shown (majorUnits upper minorUnits currencyCode) ∧
      (upper currencyCode ≠ "INR" ∨ |majorUnits upper minorUnits currencyCode| < 100000 →
        shown.amount = majorUnits upper minorUnits currencyCode) := by
  have hsymbol := symbol_not_hyphens upper currencyCode
  have hsame : getCurrencySymbolWith upper (upper currencyCode) =
      getCurrencySymbolWith upper currencyCode := by
    rw [getCurrencySymbolWith, hupper, getCurrencySymbolWith]
  have hmult : subunitMultiplierWith upper (upper currencyCode) =
      subunitMultiplierWith upper currencyCode := by
    rw [subunitMultiplierWith, hupper, subunitMultiplierWith]
  unfold formatMoneyWith majorUnits
  simp only [hsame]
  by_cases hinr : upper currencyCode = "INR"
  · have hhundred : subunitMultiplierWith upper currencyCode = 100 := by
      rw [subunitMultiplierWith, hinr]
      rfl
    obtain ⟨shown, hread, hsays, hexact⟩ := says_inr hsymbol minorUnits
    rw [if_pos hinr, String.toList_ofList, hhundred]
    refine ⟨shown, hread, hsays, fun hsmall => hexact ?_⟩
    have hbound : |(minorUnits / (100 : ℕ) : ℚ)| < 100000 := by
      cases hsmall with
      | inl hother => exact absurd hinr hother
      | inr hsmall => exact hsmall
    have hnat : minorUnits.natAbs < 10000000 := by
      rw [abs_div, div_lt_iff₀ (by norm_num)] at hbound
      norm_num at hbound
      have hcast : ((minorUnits.natAbs : ℤ) : ℚ) < 10000000 := by
        rw [Int.natCast_natAbs, Int.cast_abs]
        exact hbound
      exact_mod_cast hcast
    rw [if_neg (by omega), if_neg (by omega)]
  · obtain ⟨shown, hread, hsays, hexact⟩ :=
      says_nonInr hsymbol minorUnits upper (upper currencyCode) hlocale
    rw [hmult] at hsays hexact
    rw [if_neg hinr, String.toList_ofList]
    exact ⟨shown, hread, hsays, fun _ => hexact rfl⟩

theorem toUpperCase_idem (code : String) : toUpperCase (toUpperCase code) = toUpperCase code := by
  have hchar : ∀ c : Char, c.toUpper.toUpper = c.toUpper := by
    intro c
    have hnot : ¬ ('a'.val ≤ c.toUpper.val ∧ c.toUpper.val ≤ 'z'.val) := by
      simp only [Char.toUpper]
      split <;> grind [UInt32.toNat_add, Char.toNat_val]
    exact dif_neg hnot
  simp only [toUpperCase, String.toList_ofList, List.map_map]
  exact congrArg String.ofList (List.map_congr_left fun c _ => hchar c)

/-- A loss of 1234.56 dollars, with the comma that both English locales print. -/
theorem dollars_saidTruly :
    ∃ shown, readBack ['$'] (formatMoneyWith toUpperCase (fun _ => enIn) (-123456) "usd" none).toList =
      some shown ∧ shown.amount = -123456 / 100 := by
  have hcode : toUpperCase "usd" = "USD" := by decide
  have hsymbol : (getCurrencySymbolWith toUpperCase "usd").toList = ['$'] := by decide
  obtain ⟨shown, hread, -, hexact⟩ := formatMoney_saysTruly toUpperCase toUpperCase_idem
    (fun _ => enIn) (-123456) "usd" none fun n => ⟨fun c hc => mem_enIn hc, filter_enIn n⟩
  rw [hsymbol] at hread
  have hamount := hexact (Or.inl (by rw [hcode]; decide))
  refine ⟨shown, hread, hamount.trans ?_⟩
  have hmult : subunitMultiplierWith toUpperCase "usd" = 100 := by decide
  rw [majorUnits, hmult]
  norm_num

end BrainV2.Money
