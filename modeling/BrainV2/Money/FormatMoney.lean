import BrainV2.Money.AmountText
import Mathlib.Tactic.Linarith
import Mathlib.Tactic.NormNum
import Mathlib.Tactic.Ring

/-!
# `formatMoney` of lib-metrics

* `enIn`: `toLocaleString('en-IN')` of a natural;
* `formatInrMajor`, `formatMoney`: the display of the dashboard;
* `formatMoney_denotes`: it says every amount in paise to its last printed digit.
-/

namespace BrainV2.Money

open Digits

/-! ### The numbers of JavaScript's `Intl` -/

/-- Groups of two digits, the last one first. -/
def groupsOfTwo : List Char → List Char
  | a :: b :: c :: rest => a :: b :: ',' :: groupsOfTwo (c :: rest)
  | ds => ds

/-- Three digits and then groups of two, the last one first. -/
def indianGroups : List Char → List Char
  | a :: b :: c :: d :: rest => a :: b :: c :: ',' :: groupsOfTwo (d :: rest)
  | ds => ds

def enIn (n : ℕ) : List Char := (indianGroups (Nat.toDigits 10 n).reverse).reverse

/-! ### The display -/

/-- `toUpperCase()` of a currency code in the letters of ASCII. -/
def toUpperCase (code : String) : String := String.ofList (code.toList.map Char.toUpper)

def subunitMultipliers : List (String × ℕ) :=
  [("KWD", 1000), ("BHD", 1000), ("OMR", 1000), ("TND", 1000),
   ("JPY", 1), ("KRW", 1), ("VND", 1), ("IDR", 1), ("HUF", 1), ("ISK", 1), ("TWD", 1),
   ("INR", 100), ("AED", 100), ("SAR", 100), ("USD", 100), ("EUR", 100), ("GBP", 100)]

/-- The multiplier, where `upper` is the `toUpperCase` of the implementation. -/
def subunitMultiplierWith (upper : String → String) (currencyCode : String) : ℕ :=
  (subunitMultipliers.lookup (upper currencyCode)).getD 100

def subunitMultiplier (currencyCode : String) : ℕ := subunitMultiplierWith toUpperCase currencyCode

def currencySymbols : List (String × String) :=
  [("INR", "₹"), ("AED", "AED "), ("SAR", "SAR "), ("USD", "$"), ("EUR", "€"), ("GBP", "£"),
   ("JPY", "¥"), ("KWD", "KWD "), ("BHD", "BHD ")]

def getCurrencySymbolWith (upper : String → String) (currencyCode : String) : String :=
  (currencySymbols.lookup (upper currencyCode)).getD (upper currencyCode ++ " ")

def getCurrencySymbol (currencyCode : String) : String :=
  getCurrencySymbolWith toUpperCase currencyCode

def signText (minorUnits : ℤ) : List Char := if minorUnits < 0 then ['-'] else []

def formatInrMajor (minorUnits : ℤ) (symbol : List Char) : List Char :=
  let absMinorUnits := minorUnits.natAbs
  let multiplier := 100
  let rupees := absMinorUnits / multiplier
  let paise := absMinorUnits % multiplier
  if 10000000 ≤ rupees then
    let cr := rupees / 10000000
    let crRemainder := rupees % 10000000
    let decPart := crRemainder / 100000
    signText minorUnits ++ symbol ++ Nat.toDigits 10 cr ++ '.' :: padded 2 decPart ++
      " Cr".toList
  else if 100000 ≤ rupees then
    let l := rupees / 100000
    let lRemainder := rupees % 100000
    let decPart := lRemainder / 1000
    signText minorUnits ++ symbol ++ Nat.toDigits 10 l ++ '.' :: padded 2 decPart ++
      " L".toList
  else
    signText minorUnits ++ symbol ++ enIn rupees ++ '.' :: padded 2 paise

/-- `toLocaleString` of a natural in a locale. -/
abbrev LocaleString := String → ℕ → List Char

section

variable (upper : String → String) (localeString : LocaleString)

def formatNonInrMajorWith (minorUnits : ℤ) (currencyCode : String) (symbol : List Char)
    (locale : String) : List Char :=
  let mult := subunitMultiplierWith upper currencyCode
  let major := minorUnits.natAbs / mult
  let minor := minorUnits.natAbs % mult
  if mult = 1 then signText minorUnits ++ symbol ++ localeString locale major
  else
    let decimals := if mult = 1000 then 3 else 2
    signText minorUnits ++ symbol ++ localeString locale major ++
      '.' :: padded decimals minor

/-- The locale that the display falls back to. -/
def effectiveLocale (code : String) (locale : Option String) : String :=
  locale.getD (if code = "INR" then "en-IN" else "en-US")

def formatMoneyWith (minorUnits : ℤ) (currencyCode : String) (locale : Option String) : String :=
  let code := upper currencyCode
  let symbol := (getCurrencySymbolWith upper code).toList
  if code = "INR" then String.ofList (formatInrMajor minorUnits symbol)
  else String.ofList (formatNonInrMajorWith upper localeString minorUnits code symbol
    (effectiveLocale code locale))

end

def formatMoney (localeString : LocaleString) (minorUnits : ℤ) (currencyCode : String)
    (locale : Option String) : String :=
  formatMoneyWith toUpperCase localeString minorUnits currencyCode locale

example : formatInrMajor 18500000 ['₹'] = "₹1.85 L".toList := by decide
example : formatInrMajor (-1234567) ['₹'] = "-₹12,345.67".toList := by decide

/-! ### What it says -/

theorem filter_groupsOfTwo (ds : List Char) (h : ∀ c ∈ ds, c ≠ ',') :
    (groupsOfTwo ds).filter (· != ',') = ds := by
  fun_induction groupsOfTwo ds with
  | case1 a b c rest ih =>
    have hrest := ih fun d hd => h d (by simp only [List.mem_cons] at hd ⊢; tauto)
    have ha : (a != ',') = true := by simpa using h a (by simp)
    have hb : (b != ',') = true := by simpa using h b (by simp)
    simp [ha, hb, hrest]
  | case2 ds _ => exact List.filter_eq_self.mpr fun c hc => by simpa using h c hc

theorem filter_indianGroups (ds : List Char) (h : ∀ c ∈ ds, c ≠ ',') :
    (indianGroups ds).filter (· != ',') = ds := by
  fun_cases indianGroups ds with
  | case1 a b c d rest =>
    have hrest := filter_groupsOfTwo (d :: rest) fun e he =>
      h e (by simp only [List.mem_cons] at he ⊢; tauto)
    have ha : (a != ',') = true := by simpa using h a (by simp)
    have hb : (b != ',') = true := by simpa using h b (by simp)
    have hc : (c != ',') = true := by simpa using h c (by simp)
    simp [ha, hb, hc, hrest]
  | case2 ds _ => exact List.filter_eq_self.mpr fun c hc => by simpa using h c hc

theorem ne_comma_of_isDigit {c : Char} (h : c.isDigit = true) : c ≠ ',' := by
  rintro rfl
  exact absurd h (by decide)

/-- Grouping only puts commas in. -/
theorem filter_enIn (n : ℕ) : (enIn n).filter (· != ',') = Nat.toDigits 10 n := by
  rw [enIn, List.filter_reverse, filter_indianGroups, List.reverse_reverse]
  intro c hc
  exact ne_comma_of_isDigit (isDigit_toDigits n c (List.mem_reverse.mp hc))

theorem filter_toDigits (n : ℕ) : (Nat.toDigits 10 n).filter (· != ',') = Nat.toDigits 10 n :=
  List.filter_eq_self.mpr fun c hc => by
    simpa using ne_comma_of_isDigit (isDigit_toDigits n c hc)

theorem mem_enIn {n : ℕ} {c : Char} (hc : c ∈ enIn n) : c.isDigit = true ∨ c = ',' := by
  by_cases hcomma : c = ','
  · exact Or.inr hcomma
  · left
    apply isDigit_toDigits n
    rw [← filter_enIn, List.mem_filter]
    exact ⟨hc, by simpa using hcomma⟩

theorem readSign_signText (minorUnits : ℤ) (rest : List Char) :
    readSign (signText minorUnits ++ '₹' :: rest) = (decide (minorUnits < 0), '₹' :: rest) := by
  by_cases h : minorUnits < 0
  · simp [signText, readSign, h]
  · simp [signText, readSign, h]

/-- Cutting an amount off at a unit leaves less than the unit. -/
theorem cut_close {shown paise : ℕ} {unit : ℚ} {step : ℕ} (hunit : unit = step / 100)
    (hle : shown * step ≤ paise) (hlt : paise < (shown + 1) * step) :
    |(shown : ℚ) * unit - paise / 100| < unit := by
  have hle' : (shown : ℚ) * step ≤ paise := by exact_mod_cast hle
  have hlt' : (paise : ℚ) < (shown + 1) * step := by exact_mod_cast hlt
  rw [hunit, abs_lt]
  constructor <;> linarith

/-- A display whose two decimals are a cut of the amount denotes it. -/
theorem denotes_cut (minorUnits : ℤ) {whole : List Char} {n : ℕ} (decPart : ℕ)
    (suffix : List Char) (rupees : ℕ)
    (hwhole : ∀ c ∈ whole, c.isDigit = true ∨ c = ',')
    (hfilter : whole.filter (· != ',') = Nat.toDigits 10 n) (hdec : decPart < 100)
    (hend : ∀ c ∈ suffix.head?, isNumberChar c = false)
    (hsuffix : suffixRupees suffix = some rupees)
    (hle : (n * 100 + decPart) * rupees ≤ minorUnits.natAbs)
    (hlt : minorUnits.natAbs < (n * 100 + decPart + 1) * rupees) :
    Denotes (String.ofList (signText minorUnits ++ '₹' ::
      (whole ++ pointed (padded 2 decPart) ++ suffix))) minorUnits := by
  have hlength : (padded 2 decPart).length = 2 := length_padded (by omega) hdec
  rw [denotes_parts (readSign_signText minorUnits) hwhole (hfilter ▸ Nat.toDigits_ne_nil)
    (isDigit_padded 2 decPart) hend hsuffix, hfilter, value_append, value_toDigits, value_padded,
    hlength]
  exact cut_close (by norm_num) hle hlt

/-- The dashboard shows every amount to its last printed digit. -/
theorem formatMoney_denotes (localeString : LocaleString) (minorUnits : ℤ)
    (locale : Option String) :
    Denotes (formatMoney localeString minorUnits "INR" locale) minorUnits := by
  have hupper : toUpperCase "INR" = "INR" := by decide
  have hsymbol : (getCurrencySymbolWith toUpperCase "INR").toList = ['₹'] := by decide
  have hpointed : ∀ n, '.' :: padded 2 n = pointed (padded 2 n) := fun n => by
    rw [pointed, if_neg (padded_ne_nil 2 n)]
  have hdigits : ∀ n, ∀ c ∈ Nat.toDigits 10 n, c.isDigit = true ∨ c = ',' :=
    fun n c hc => Or.inl (isDigit_toDigits n c hc)
  simp only [formatMoney, formatMoneyWith, hupper, hsymbol, if_true, formatInrMajor, hpointed]
  by_cases hcrore : 10000000 ≤ minorUnits.natAbs / 100
  · have hcut := denotes_cut minorUnits (minorUnits.natAbs / 100 % 10000000 / 100000)
      " Cr".toList 10000000 (hdigits (minorUnits.natAbs / 100 / 10000000)) (filter_toDigits _)
      (by omega) (head_not_number (by decide)) (by decide) (by omega) (by omega)
    simpa [if_pos hcrore] using hcut
  by_cases hlakh : 100000 ≤ minorUnits.natAbs / 100
  · have hcut := denotes_cut minorUnits (minorUnits.natAbs / 100 % 100000 / 1000)
      " L".toList 100000 (hdigits (minorUnits.natAbs / 100 / 100000)) (filter_toDigits _)
      (by omega) (head_not_number (by decide)) (by decide) (by omega) (by omega)
    simpa [if_neg hcrore, if_pos hlakh] using hcut
  · have hcut := denotes_cut minorUnits (minorUnits.natAbs % 100) [] 1 (fun c hc => mem_enIn hc)
      (filter_enIn (minorUnits.natAbs / 100)) (by omega) (by simp) (by decide) (by omega) (by omega)
    simpa [if_neg hcrore, if_neg hlakh] using hcut

end BrainV2.Money
