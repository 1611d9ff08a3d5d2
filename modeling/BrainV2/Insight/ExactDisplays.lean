import BrainV2.Insight.Display
import BrainV2.Insight.Extraction
import BrainV2.Lib.Regex

/-!
# Displays read back

The displays, and the numbers the validator reads out of them, where floats are the rationals they
stand for and only the last step rounds.

* `formatMoneyExact`, `displayRoundPaiseExact`, `extractNumbersExact`: as in the source, in
  rationals;
* `extract_of_claim`: a text that one rule takes as a whole holds one number;
* `displays_read_back`: a display is read back as the number its signal is rounded to.
-/

namespace BrainV2.Insight

open Regex Digits
open HalfEven (roundEven)

/-! ### In rationals -/

/-- `round(v * 10 / unit)` -/
def roundTenthsExact (v unit : Nat) : Nat := (roundEven ((v : ℚ) * 10 / unit)).toNat

def formatMoneyExact (value : Int) : List Char :=
  let v := value.natAbs
  if crore ≤ v then tenthsText value (roundTenthsExact v crore) "Cr"
  else if lakh ≤ v then tenthsText value (roundTenthsExact v lakh) "L"
  else minusSign value ++ '₹' :: Nat.toDigits 10 v

/-- `None` for a value too small to be rounded. -/
def displayRoundPaiseExact (value : Int) : Option Int :=
  let absVal := value.natAbs
  let sign : Int := if value < 0 then -1 else 1
  if absVal < lakh then none
  else if crore ≤ absVal then some (sign * (roundTenthsExact absVal crore * (crore / 10) : Nat))
  else some (sign * (roundTenthsExact absVal lakh * (lakh / 10) : Nat))

/-- `float()` of the texts the patterns capture. -/
def ratOf (text : List Char) : ℚ :=
  let negative := text.head? = some '-'
  let body := if negative then text.drop 1 else text
  let whole := body.takeWhile (· != '.')
  let decimals := (body.dropWhile (· != '.')).drop 1
  let magnitude : ℚ := digitsValue (whole ++ decimals) / 10 ^ decimals.length
  if negative then -magnitude else magnitude

/-- `round(float(text) * unit)` -/
def roundScaledExact (text : List Char) (unit : Nat) : Int := roundEven (ratOf text * unit)

/-- `int(float(text))` -/
def truncatedExact (text : List Char) : Int := (ratOf text).num.tdiv (ratOf text).den

structure ExactReader where
  rule : Rule
  value : Found → Int

def scaledExact (rule : Rule) (unit : Nat) : ExactReader where
  rule := rule
  value m := signed m (roundScaledExact m.captured unit)

def currencyExact : ExactReader where
  rule := currencyRule
  value m := signed m (truncatedExact (m.captured.filter (· != ',')))

def plainExact (others : WordChars) : ExactReader where
  rule := plainRule others
  value m := truncatedExact ((m.text.filter (· != ',')).map fun c => if c = '−' then '-' else c)

def exactReaders (others : WordChars) : List ExactReader :=
  [scaledExact lakhRule 100000, scaledExact croreRule 10000000, scaledExact percentRule 100,
    currencyExact, plainExact others]

def readPassExact (text : List Char) (e : Extracted) (reader : ExactReader) : Extracted :=
  (scan reader.rule text).foldl (fun e m => register e (reader.value m) (m.start, m.stop)) e

def extractNumbersExact (others : WordChars) (text : List Char) : List Int :=
  ((exactReaders others).foldl (readPassExact text) ⟨[], []⟩).results

/-! ### A text with one number -/

section

variable {text : List Char} {e : Extracted} {reader : ExactReader}

theorem register_of_claimed {n : Nat} (hclaimed : (0, n) ∈ e.consumedSpans) (value : Int)
    {span : Nat × Nat} (hstart : span.1 < n) (hstop : span.1 < span.2) :
    register e value span = e := by
  unfold register
  apply if_pos
  apply List.any_eq_true.mpr
  refine ⟨(0, n), hclaimed, ?_⟩
  simp only [overlaps, Bool.and_eq_true, decide_eq_true_eq]
  omega

/-- Nothing more is read from a text that was taken as a whole. -/
theorem readPassExact_of_claimed (hclaimed : (0, text.length) ∈ e.consumedSpans)
    (hbody : nullable reader.rule.body = false) : readPassExact text e reader = e := by
  have hspans : ∀ m ∈ scan reader.rule text, m.start < text.length ∧ m.start < m.stop :=
    scan_spans hbody
  unfold readPassExact
  generalize scan reader.rule text = found at hspans
  induction found with
  | nil => rfl
  | cons m found ih =>
    rw [List.forall_mem_cons] at hspans
    rw [List.foldl_cons, register_of_claimed hclaimed _ hspans.1.1 hspans.1.2]
    exact ih hspans.2

theorem foldl_readPassExact_eq {readers : List ExactReader}
    (h : ∀ reader ∈ readers, readPassExact text e reader = e) :
    readers.foldl (readPassExact text) e = e := by
  induction readers with
  | nil => rfl
  | cons reader readers ih =>
    rw [List.forall_mem_cons] at h
    rw [List.foldl_cons, h.1]
    exact ih h.2

/-- The number of a text that one reader takes as a whole, after others that find nothing. -/
theorem extract_of_claim (reader : ExactReader) (front : List ExactReader)
    {others : WordChars} {back : List ExactReader} {w : List Char}
    (hsplit : exactReaders others = front ++ reader :: back)
    (hfront : ∀ reader ∈ front, scan reader.rule text = [])
    (hclaim : scan reader.rule text = [⟨0, text.length, text, w⟩]) :
    extractNumbersExact others text = [reader.value ⟨0, text.length, text, w⟩] := by
  have hbodies : ∀ reader ∈ exactReaders others, nullable reader.rule.body = false := by
    simp only [exactReaders, List.forall_mem_cons]
    exact ⟨rfl, rfl, rfl, rfl, rfl, by simp⟩
  have hbefore : front.foldl (readPassExact text) ⟨[], []⟩ = ⟨[], []⟩ := by
    apply foldl_readPassExact_eq
    intro reader hreader
    rw [readPassExact, hfront reader hreader]
    rfl
  have hpass : readPassExact text ⟨[], []⟩ reader =
      ⟨[(0, text.length)], [reader.value ⟨0, text.length, text, w⟩]⟩ := by
    rw [readPassExact, hclaim]
    rfl
  rw [extractNumbersExact, hsplit, List.foldl_append, hbefore, List.foldl_cons, hpass,
    foldl_readPassExact_eq]
  intro later hlater
  apply readPassExact_of_claimed List.mem_cons_self
  apply hbodies
  rw [hsplit]
  exact List.mem_append_right _ (List.mem_cons_of_mem _ hlater)

end

/-! ### The rules on a display -/

section

variable {c : Char} {ds es rest : List Char}

/-- What holds of the ten digits. -/
theorem forall_digit {P : Char → Prop} (h : ∀ n < 10, P (Char.ofNat (48 + n)))
    (hc : c.isDigit = true) : P c := by
  have hbounds := isDigit_bounds hc
  have hn := h (c.toNat - 48) (by omega)
  rwa [Nat.add_sub_cancel' hbounds.1, Char.ofNat_toNat] at hn

/-- What a display is made of: one character the rule can start with, digits, and the unit. -/
theorem decimal_digits (hds : ∀ c ∈ ds, c.isDigit = true) : ∀ c ∈ ds, isDecimal c = true :=
  fun c hc => forall_digit (P := fun c => isDecimal c = true) (by decide) (hds c hc)

theorem leads_sign (value : Int) (hc : isMinus c = false) :
    Leads sign (minusSign value ++ c :: rest) (c :: rest) := by
  unfold minusSign
  split
  · exact leads_opt (leads_one rfl)
  · exact leads_opt_skip (rests_eq_nil (by simp [begins, hc]) rfl)

theorem leads_blanks (hc : isBlank c = false) : Leads blanks (c :: rest) (c :: rest) := by
  have h : Leads blanks ([] ++ c :: rest) (c :: rest) := leads_many (by simp) (by simpa using hc)
  exact h

theorem leads_amountLead (value : Int) :
    Leads amountLead (minusSign value ++ '₹' :: rest) rest := by
  refine leads_chain_cons (leads_sign value (by decide)) ?_
  refine leads_chain_cons (leads_blanks (by decide)) ?_
  refine leads_chain_cons (leads_opt_skip (rests_eq_nil (by decide) (by decide))) ?_
  exact leads_chain_cons (leads_opt (leads_alt (leads_one rfl))) leads_chain_nil

theorem leads_currencyLead (value : Int) :
    Leads currencyRule.lead (minusSign value ++ '₹' :: rest) rest := by
  refine leads_chain_cons (leads_sign value (by decide)) ?_
  refine leads_chain_cons (leads_blanks (by decide)) ?_
  exact leads_chain_cons (leads_alt (leads_one rfl)) leads_chain_nil

/-- Digits, a point and digits are one number. -/
theorem leads_number (hds : ∀ c ∈ ds, c.isDigit = true) (hne : ds ≠ [])
    (hes : ∀ c ∈ es, c.isDigit = true) (hne' : es ≠ [])
    (hrest : ∀ c ∈ rest.head?, isDecimal c = false) :
    Leads number (ds ++ '.' :: (es ++ rest)) rest := by
  have hpoint : ∀ c ∈ ('.' :: (es ++ rest)).head?, isDecimal c = false := by
    intro c hc
    cases hc
    decide
  refine leads_seq (leads_plus hne (decimal_digits hds) hpoint) (leads_opt ?_)
  exact leads_seq (leads_one rfl) (leads_plus hne' (decimal_digits hes) hrest)

/-- So are digits alone, at the end of a text. -/
theorem leads_groupedNumber (hds : ∀ c ∈ ds, c.isDigit = true) (hne : ds ≠ []) :
    Leads groupedNumber ds [] := by
  cases ds with
  | nil => exact absurd rfl hne
  | cons c ds =>
    have hdecimal := decimal_digits hds
    rw [List.forall_mem_cons] at hdecimal
    have hmany : Leads (.many fun c => isDecimal c || c == ',') (ds ++ []) [] :=
      leads_many (fun c hc => by simp [hdecimal.2 c hc]) (by simp)
    rw [List.append_nil] at hmany
    refine leads_chain_cons (leads_one hdecimal.1) (leads_chain_cons hmany ?_)
    exact leads_chain_cons (leads_opt_skip rfl) leads_chain_nil

/-! ### The values -/

theorem digitsValue_digits (hds : ∀ c ∈ ds, c.isDigit = true) :
    digitsValue ds = Digits.value ds := by
  have hfold : ∀ n, ds.foldl (fun n c => 10 * n + (Py.decimalDigit c).getD 0) n =
      Nat.ofDigitChars 10 ds n := by
    induction ds with
    | nil => exact fun _ => rfl
    | cons c ds ih =>
      rw [List.forall_mem_cons] at hds
      intro n
      rw [List.foldl_cons, ih hds.2, Py.decimalDigit_of_isDigit hds.1]
      rfl
  exact hfold 0

theorem ne_of_isDigit {d : Char} (hd : d.isDigit = false) (hc : c.isDigit = true) : c ≠ d := by
  rintro rfl
  rw [hc] at hd
  cases hd

theorem head_ne_minus (hds : ∀ c ∈ ds, c.isDigit = true) : ds.head? ≠ some '-' := by
  intro h
  exact ne_of_isDigit (by decide) (hds _ (List.mem_of_mem_head? h)) rfl

theorem not_point (hds : ∀ c ∈ ds, c.isDigit = true) : ∀ c ∈ ds, (c != '.') = true :=
  fun c hc => by simpa using ne_of_isDigit (by decide) (hds c hc)

/-- A number without a point. -/
theorem ratOf_whole (hds : ∀ c ∈ ds, c.isDigit = true) : ratOf ds = Digits.value ds := by
  have hwhole : ds.takeWhile (· != '.') = ds :=
    List.takeWhile_eq_self_iff.mpr (not_point hds)
  have hrest : ds.dropWhile (· != '.') = [] :=
    List.dropWhile_eq_nil_iff.mpr (not_point hds)
  simp only [ratOf, head_ne_minus hds, if_false, hwhole, hrest, List.drop_nil, List.append_nil,
    List.length_nil, pow_zero, div_one, digitsValue_digits hds]

theorem ratOf_number (hds : ∀ c ∈ ds, c.isDigit = true) (hne : ds ≠ [])
    (hes : ∀ c ∈ es, c.isDigit = true) :
    ratOf (ds ++ '.' :: es) = (Digits.value (ds ++ es) : ℚ) / 10 ^ es.length := by
  have hhead : (ds ++ '.' :: es).head? ≠ some '-' := by
    rw [List.head?_append_of_ne_nil _ hne]
    exact head_ne_minus hds
  have hwhole : (ds ++ '.' :: es).takeWhile (· != '.') = ds := by
    rw [List.takeWhile_append_of_pos (not_point hds)]
    simp
  have hrest : (ds ++ '.' :: es).dropWhile (· != '.') = '.' :: es := by
    rw [List.dropWhile_append_of_pos (not_point hds)]
    simp
  have hall : ∀ c ∈ ds ++ es, c.isDigit = true := List.forall_mem_append.mpr ⟨hds, hes⟩
  simp only [ratOf, hhead, if_false, hwhole, hrest, List.drop_succ_cons, List.drop_zero,
    digitsValue_digits hall]

theorem roundEven_natCast (n : Nat) : roundEven (n : ℚ) = n :=
  (HalfEven.rounds_roundEven n).unique (by exact_mod_cast HalfEven.rounds_intCast n)

/-- The text of a number of tenths. -/
def tenthsDigits (tenths : Nat) : List Char :=
  Nat.toDigits 10 (tenths / 10) ++ '.' :: Nat.toDigits 10 (tenths % 10)

theorem ratOf_tenths (tenths : Nat) : ratOf (tenthsDigits tenths) = (tenths : ℚ) / 10 := by
  have hlength : (Nat.toDigits 10 (tenths % 10)).length = 1 := by
    rw [Nat.toDigits_of_lt_base (by omega)]
    rfl
  have hvalue : Digits.value (Nat.toDigits 10 (tenths / 10) ++ Nat.toDigits 10 (tenths % 10)) =
      tenths := by
    rw [value_append, value_toDigits, value_toDigits, hlength]
    omega
  rw [tenthsDigits, ratOf_number (isDigit_toDigits _) Nat.toDigits_ne_nil (isDigit_toDigits _),
    hvalue, hlength, pow_one]

theorem roundScaledExact_tenths (tenths part : Nat) :
    roundScaledExact (tenthsDigits tenths) (10 * part) = (tenths * part : Nat) := by
  have hscaled : ratOf (tenthsDigits tenths) * ((10 * part : Nat) : ℚ) =
      ((tenths * part : Nat) : ℚ) := by
    rw [ratOf_tenths]
    push_cast
    ring
  rw [roundScaledExact, hscaled, roundEven_natCast]

theorem truncatedExact_whole (n : Nat) : truncatedExact (Nat.toDigits 10 n) = n := by
  rw [truncatedExact, ratOf_whole (isDigit_toDigits n), value_toDigits]
  simp

/-- A display begins with a minus exactly when its value is negative. -/
theorem signed_display (value n : Int) (hc : isBlank c = false) (hsign : isMinus c = false)
    (start stop : Nat) (w : List Char) :
    signed ⟨start, stop, minusSign value ++ c :: rest, w⟩ n =
      (if value < 0 then -1 else 1) * n := by
  unfold signed startsNegative minusSign
  by_cases hvalue : value < 0
  · have hminus : isBlank '−' = false := by decide
    simp [hvalue, hminus, isMinus]
  · simp [hvalue, hc, hsign]

/-! ### What is read -/

/-- A rule reads the text of tenths in front of its unit as a whole. -/
theorem scan_tenths (rule : Rule) {value : Int} {tenths : Nat} {unit : String} {front : List Char}
    (hbehind : rule.body = number)
    (hlead : Leads rule.lead (minusSign value ++ front ++ (tenthsDigits tenths ++ unit.toList))
      (tenthsDigits tenths ++ unit.toList))
    (hunit : unit.toList.head?.any isDecimal = false)
    (htail : Leads rule.tail unit.toList []) :
    scan rule (minusSign value ++ front ++ (tenthsDigits tenths ++ unit.toList)) =
      [⟨0, (minusSign value ++ front ++ (tenthsDigits tenths ++ unit.toList)).length,
        minusSign value ++ front ++ (tenthsDigits tenths ++ unit.toList), tenthsDigits tenths⟩] := by
  have hend : ∀ c ∈ unit.toList.head?, isDecimal c = false := by
    intro c hc
    rw [Option.mem_def] at hc
    rwa [hc] at hunit
  have hbody : Leads rule.body (tenthsDigits tenths ++ unit.toList) unit.toList := by
    have h : Leads number (Nat.toDigits 10 (tenths / 10) ++ '.' ::
        (Nat.toDigits 10 (tenths % 10) ++ unit.toList)) unit.toList :=
      leads_number (isDigit_toDigits (tenths / 10)) Nat.toDigits_ne_nil
        (isDigit_toDigits (tenths % 10)) Nat.toDigits_ne_nil hend
    rw [hbehind, tenthsDigits, List.append_assoc, List.cons_append]
    exact h
  apply scan_whole
  · simp [tenthsDigits]
  · exact Rule.matchAt_of_leads rfl hlead hbody htail

theorem forall_minusSign {P : Char → Prop} {value : Int} (h : P '−') :
    ∀ c ∈ minusSign value, P c := by
  unfold minusSign
  split <;> simp [h]

theorem forall_toDigits {P : Char → Prop} (h : ∀ n < 10, P (Char.ofNat (48 + n))) (n : Nat) :
    ∀ c ∈ Nat.toDigits 10 n, P c := fun c hc => forall_digit h (isDigit_toDigits n c hc)

theorem forall_tenths {p : Char → Bool} {value : Int} {front : List Char} {tenths : Nat}
    {unit : String} (hdigits : ∀ n < 10, p (Char.ofNat (48 + n)) = false)
    (hmarks : p '−' = false ∧ p '.' = false ∧ front.any p = false ∧ unit.toList.any p = false) :
    ∀ c ∈ minusSign value ++ front ++ (tenthsDigits tenths ++ unit.toList), p c = false := by
  obtain ⟨hminus, hpoint, hfront, hunit⟩ := hmarks
  rw [List.any_eq_false] at hfront hunit
  simp only [Bool.not_eq_true] at hfront hunit
  simp only [tenthsDigits, List.forall_mem_append, List.forall_mem_cons]
  exact ⟨⟨forall_minusSign hminus, hfront⟩,
    ⟨forall_toDigits hdigits _, hpoint, forall_toDigits hdigits _⟩, hunit⟩

theorem scan_lakh_nil {text : List Char} (h : ∀ c ∈ text, letter 'l' c = false) :
    scan lakhRule text = [] :=
  scan_of_needs_tail (Or.inr (Or.inl fun _ hc => hc)) h

theorem scan_crore_nil {text : List Char} (h : ∀ c ∈ text, letter 'c' c = false) :
    scan croreRule text = [] :=
  scan_of_needs_tail (Or.inr (Or.inl fun _ hc => hc)) h

theorem scan_percent_nil {text : List Char} (h : ∀ c ∈ text, (c == '%') = false) :
    scan percentRule text = [] :=
  scan_of_needs_tail (Or.inr fun _ hc => hc) h

theorem tenthsText_eq (value : Int) (tenths : Nat) (unit : String) :
    tenthsText value tenths unit =
      minusSign value ++ ['₹'] ++ (tenthsDigits tenths ++ unit.toList) := by
  simp [tenthsText, tenthsDigits]

variable (others : WordChars) (value : Int)

theorem extract_lakhs (tenths : Nat) : extractNumbersExact others (tenthsText value tenths "L") =
    [(if value < 0 then -1 else 1) * ((tenths * (lakh / 10) : Nat) : Int)] := by
  have hlead : Leads lakhRule.lead
      (minusSign value ++ ['₹'] ++ (tenthsDigits tenths ++ "L".toList))
      (tenthsDigits tenths ++ "L".toList) := by
    rw [List.append_assoc]
    exact leads_amountLead value
  have hclaim := scan_tenths _ rfl hlead (by decide) (by decide)
  rw [tenthsText_eq, extract_of_claim (scaledExact lakhRule 100000) [] rfl (by simp) hclaim]
  simp only [scaledExact, List.append_assoc, List.singleton_append]
  rw [signed_display _ _ (by decide) (by decide)]
  have hvalue := roundScaledExact_tenths tenths (lakh / 10)
  rw [show 10 * (lakh / 10) = 100000 from rfl] at hvalue
  rw [hvalue]

theorem extract_crores (tenths : Nat) :
    extractNumbersExact others (tenthsText value tenths "Cr") =
      [(if value < 0 then -1 else 1) * ((tenths * (crore / 10) : Nat) : Int)] := by
  have hlead : Leads croreRule.lead
      (minusSign value ++ ['₹'] ++ (tenthsDigits tenths ++ "Cr".toList))
      (tenthsDigits tenths ++ "Cr".toList) := by
    rw [List.append_assoc]
    exact leads_amountLead value
  have hclaim := scan_tenths _ rfl hlead (by decide) (by decide)
  have hlakh : scan lakhRule
      (minusSign value ++ ['₹'] ++ (tenthsDigits tenths ++ "Cr".toList)) = [] :=
    scan_lakh_nil (forall_tenths (by decide) (by decide))
  rw [tenthsText_eq, extract_of_claim (scaledExact croreRule 10000000)
    [scaledExact lakhRule 100000] rfl (by simpa [scaledExact] using hlakh) hclaim]
  simp only [scaledExact, List.append_assoc, List.singleton_append]
  rw [signed_display _ _ (by decide) (by decide)]
  have hvalue := roundScaledExact_tenths tenths (crore / 10)
  rw [show 10 * (crore / 10) = 10000000 from rfl] at hvalue
  rw [hvalue]

theorem extract_small :
    extractNumbersExact others (minusSign value ++ '₹' :: Nat.toDigits 10 value.natAbs) =
      [value] := by
  have hchars : ∀ {P : Char → Prop}, (∀ n < 10, P (Char.ofNat (48 + n))) → P '−' ∧ P '₹' →
      ∀ c ∈ minusSign value ++ '₹' :: Nat.toDigits 10 value.natAbs, P c := by
    intro P hdigits hmarks
    rw [List.forall_mem_append, List.forall_mem_cons]
    exact ⟨forall_minusSign hmarks.1, hmarks.2, forall_toDigits hdigits _⟩
  have hfront : ∀ reader ∈ [scaledExact lakhRule 100000, scaledExact croreRule 10000000,
      scaledExact percentRule 100],
      scan reader.rule (minusSign value ++ '₹' :: Nat.toDigits 10 value.natAbs) = [] := by
    simp only [List.forall_mem_cons]
    exact ⟨scan_lakh_nil (hchars (by decide) (by decide)),
      scan_crore_nil (hchars (by decide) (by decide)),
      scan_percent_nil (hchars (by decide) (by decide)), by simp⟩
  have hclaim : scan currencyRule (minusSign value ++ '₹' :: Nat.toDigits 10 value.natAbs) =
      [⟨0, (minusSign value ++ '₹' :: Nat.toDigits 10 value.natAbs).length,
        minusSign value ++ '₹' :: Nat.toDigits 10 value.natAbs,
        Nat.toDigits 10 value.natAbs⟩] := by
    apply scan_whole (by simp)
    rw [List.append_nil]
    exact Rule.matchAt_of_leads rfl (leads_currencyLead value)
      (leads_groupedNumber (isDigit_toDigits _) Nat.toDigits_ne_nil) leads_empty
  have hcommas : (Nat.toDigits 10 value.natAbs).filter (· != ',') =
      Nat.toDigits 10 value.natAbs := Money.filter_toDigits _
  rw [extract_of_claim currencyExact _ rfl hfront hclaim]
  simp only [currencyExact]
  rw [signed_display _ _ (by decide) (by decide), hcommas, truncatedExact_whole]
  congr 1
  split <;> omega

theorem formatPct_eq (bp : Int) : formatPct bp =
    minusSign bp ++ [] ++ (tenthsDigits ((bp.natAbs + 5) / 10) ++ "%".toList) := by
  unfold formatPct tenthsDigits
  simp only
  have hsplit : (if (bp.natAbs % 100 + 5) / 10 = 10 then (bp.natAbs / 100 + 1, 0)
      else (bp.natAbs / 100, (bp.natAbs % 100 + 5) / 10)) =
        ((bp.natAbs + 5) / 10 / 10, (bp.natAbs + 5) / 10 % 10) := by
    split
    · rw [Prod.mk.injEq]
      omega
    · rw [Prod.mk.injEq]
      omega
  rw [hsplit]
  simp

theorem tenthsDigits_head (tenths : Nat) :
    ∃ c ds, tenthsDigits tenths = c :: ds ∧ c.isDigit = true := by
  have hdigits := isDigit_toDigits (tenths / 10)
  unfold tenthsDigits
  cases hwhole : Nat.toDigits 10 (tenths / 10) with
  | nil => exact absurd hwhole Nat.toDigits_ne_nil
  | cons c ds =>
    rw [hwhole] at hdigits
    exact ⟨c, _, rfl, hdigits c List.mem_cons_self⟩

theorem extract_percent (bp : Int) :
    extractNumbersExact others (formatPct bp) = [displayRoundBp bp] := by
  rw [formatPct_eq]
  generalize htenths : (bp.natAbs + 5) / 10 = tenths
  obtain ⟨c, ds, htext, hc⟩ := tenthsDigits_head tenths
  have hminus : isMinus c = false := forall_digit (P := fun c => isMinus c = false) (by decide) hc
  have hblank : isBlank c = false := forall_digit (P := fun c => isBlank c = false) (by decide) hc
  have hlead : Leads percentRule.lead (minusSign bp ++ [] ++ (tenthsDigits tenths ++ "%".toList))
      (tenthsDigits tenths ++ "%".toList) := by
    rw [htext, List.append_nil]
    exact leads_seq (leads_sign bp hminus) (leads_blanks hblank)
  have hclaim := scan_tenths percentRule rfl hlead (by decide) (by decide)
  have hfront : ∀ reader ∈ [scaledExact lakhRule 100000, scaledExact croreRule 10000000],
      scan reader.rule (minusSign bp ++ [] ++ (tenthsDigits tenths ++ "%".toList)) = [] := by
    simp only [List.forall_mem_cons]
    exact ⟨scan_lakh_nil (forall_tenths (by decide) (by decide)),
      scan_crore_nil (forall_tenths (by decide) (by decide)),
      by simp⟩
  have hvalue : roundScaledExact (tenthsDigits tenths) 100 = (tenths * 10 : Nat) :=
    roundScaledExact_tenths tenths 10
  rw [extract_of_claim (scaledExact percentRule 100) _ rfl hfront hclaim]
  simp only [scaledExact, List.append_nil, hvalue]
  rw [htext, List.cons_append, signed_display _ _ hblank hminus, displayRoundBp, htenths]
  congr 1
  split
  · rw [if_neg (by omega)]
    omega
  · rw [if_pos (by omega)]
    omega

end

/-- Every display is read back as one number: that of money from a lakh on, and of every
percentage, as the value the display rounds it to, a smaller amount as it is. -/
theorem displays_read_back (others : WordChars) :
    (∀ value : Int, extractNumbersExact others (formatMoneyExact value) =
      if lakh ≤ value.natAbs then (displayRoundPaiseExact value).toList else [value]) ∧
    (∀ value : Int, (displayRoundPaiseExact value).isSome = decide (lakh ≤ value.natAbs)) ∧
    ∀ bp : Int, extractNumbersExact others (formatPct bp) = [displayRoundBp bp] := by
  have hunits : lakh < crore := by decide
  refine ⟨fun value => ?_, fun value => ?_, extract_percent others⟩
  · unfold formatMoneyExact displayRoundPaiseExact
    simp only
    by_cases hcrore : crore ≤ value.natAbs
    · rw [if_pos hcrore, if_pos (by omega), if_neg (by omega), if_pos hcrore,
        extract_crores others value]
      rfl
    by_cases hlakh : lakh ≤ value.natAbs
    · rw [if_neg hcrore, if_pos hlakh, if_pos hlakh, if_neg (by omega), if_neg hcrore,
        extract_lakhs others value]
      rfl
    · rw [if_neg hcrore, if_neg hlakh, if_neg hlakh]
      exact extract_small others value
  · unfold displayRoundPaiseExact
    simp only
    split
    · simp; omega
    · split <;> simp <;> omega

/-- The carry of 99.95 lakh, and a tie below zero. -/
example : formatMoneyExact 9995000 = "₹100.0L".toList ∧
    displayRoundPaiseExact 9995000 = some 10000000 ∧ formatPct (-1485) = "−14.9%".toList := by
  decide +kernel

end BrainV2.Insight
