import BrainV2.Lib.Regex
import BrainV2.Py.Floats

/-!
# The numbers of a narration

* `lakhRule`, `croreRule`, `percentRule`, `currencyRule`, `plainRule`: how numbers are written;
* `extractNumbers`: the numbers of a text, in paise, basis points or counts. A match that
  overlaps an earlier one is left out.
-/

namespace BrainV2.Insight

open Py Regex

/-! ### Classes of characters -/

def isDecimal (c : Char) : Bool := (decimalDigit c).isSome

/-- `\s` -/
def isBlank (c : Char) : Bool := Py.isSpace c || (0x1c ≤ c.toNat && c.toNat ≤ 0x1f)

/-- The characters outside ASCII that are letters, digits or the like, for `\w`. -/
abbrev WordChars := Char → Bool

def isWord (others : WordChars) (c : Char) : Bool :=
  if c.toNat < 128 then c.isAlphanum || c == '_' else others c

/-- A letter as `re.IGNORECASE` compares it. -/
def foldLetter (c : Char) : Char :=
  if c = '\u0130' ∨ c = '\u0131' then 'i'
  else if c = '\u017f' then 's'
  else if c = '\u212a' then 'k'
  else c.toLower

def letter (l c : Char) : Bool := foldLetter c == l

def isMinus (c : Char) : Bool := c == '-' || c == '−'

/-! ### The patterns -/

def word (w : String) : Pattern := chain (w.toList.map fun l => .one (letter l))

def sign : Pattern := opt (.one isMinus)

def blanks : Pattern := .many isBlank

def approximately : Pattern :=
  .alt (.seq (word "approximately") (plus isBlank))
    (.alt (chain [word "approx", opt (.one (· == '.')), plus isBlank])
      (.seq (.one (· == '~')) blanks))

def currencyMark : Pattern :=
  .alt (.one (· == '₹'))
    (.alt (.seq (word "rs") (opt (.one (· == '.')))) (.seq (word "inr") blanks))

def fraction : Pattern := .seq (.one (· == '.')) (plus isDecimal)

def number : Pattern := .seq (plus isDecimal) (opt fraction)

def groupedNumber : Pattern :=
  chain [.one isDecimal, .many fun c => isDecimal c || c == ',', opt fraction]

/-- What may stand in front of a number in lakh or crore. -/
def amountLead : Pattern := chain [sign, blanks, opt approximately, opt currencyMark]

def lakhRule : Rule where
  behind _ := false
  lead := amountLead
  body := number
  tail := chain [blanks, .one (letter 'l'), opt (word "akh"), opt (.one (letter 's'))]

def croreRule : Rule where
  behind _ := false
  lead := amountLead
  body := number
  tail := chain [blanks, .one (letter 'c'), .one (letter 'r'), opt (word "ore"),
    opt (.one (letter 's'))]

def percentRule : Rule where
  behind _ := false
  lead := .seq sign blanks
  body := number
  tail := .seq blanks (.one (· == '%'))

def currencyRule : Rule where
  behind _ := false
  lead := chain [sign, blanks, currencyMark]
  body := groupedNumber
  tail := .empty

def isUnitStart (c : Char) : Bool := c == '%' || c == 'L' || c == 'l' || c == 'C' || c == 'c'

def plainRule (others : WordChars) : Rule where
  behind c := c == '₹' || isWord others c
  lead := .empty
  body := .seq sign groupedNumber
  tail := .notAhead (.seq blanks (.one isUnitStart))

/-! ### Their values -/

def infinityExc : PyExc := ⟨.overflowError, "cannot convert float infinity to integer"⟩

def digitsValue (cs : List Char) : Nat := cs.foldl (fun n c => 10 * n + (decimalDigit c).getD 0) 0

/-- `float()` of the texts the patterns capture. -/
def floatOf (text : List Char) : Binary64.Double :=
  let negative := text.head? = some '-'
  let body := if negative then text.drop 1 else text
  let whole := body.takeWhile (· != '.')
  let decimals := (body.dropWhile (· != '.')).drop 1
  Binary64.ofDecimal negative (digitsValue (whole ++ decimals)) (-(decimals.length : Int))

/-- `round(float(text) * unit)`. -/
def roundScaled (text : List Char) (unit : Nat) : Except PyExc Int := do
  let x ← finiteOr infinityExc (floatOf text)
  let y ← finiteOr infinityExc (Binary64.round x.negative (x.units * unit) (2 ^ 1074))
  pure (roundInt y)

/-- `int(float(text))`. -/
def truncated (text : List Char) : Except PyExc Int := do
  let x ← finiteOr infinityExc (floatOf text)
  pure x.trunc

def startsNegative (text : List Char) : Bool := (text.dropWhile isBlank).head?.any isMinus

def signed (m : Found) (value : Int) : Int := if startsNegative m.text then -value else value

/-- A rule and what its matches stand for. -/
structure Reader where
  rule : Rule
  value : Found → Except PyExc Int

def scaledReader (rule : Rule) (unit : Nat) : Reader where
  rule := rule
  value m := do
    let value ← roundScaled m.captured unit
    pure (signed m value)

def currencyReader : Reader where
  rule := currencyRule
  value m := do
    let value ← truncated (m.captured.filter (· != ','))
    pure (signed m value)

def plainReader (others : WordChars) : Reader where
  rule := plainRule others
  value m := truncated ((m.text.filter (· != ',')).map fun c => if c = '−' then '-' else c)

/-- The readers, in the order in which they claim the text. -/
def readers (others : WordChars) : List Reader :=
  [scaledReader lakhRule 100000, scaledReader croreRule 10000000, scaledReader percentRule 100,
    currencyReader, plainReader others]

/-! ### The extraction -/

structure Extracted where
  consumedSpans : List (Nat × Nat)
  results : List Int

def overlaps (a b : Nat × Nat) : Bool := a.1 < b.2 && b.1 < a.2

def register (e : Extracted) (value : Int) (span : Nat × Nat) : Extracted :=
  if e.consumedSpans.any (overlaps span) then e
  else ⟨e.consumedSpans ++ [span], if value ∈ e.results then e.results else e.results ++ [value]⟩

def readMatch (reader : Reader) (e : Extracted) (m : Found) : Except PyExc Extracted := do
  let value ← reader.value m
  pure (register e value (m.start, m.stop))

def readPass (text : List Char) (e : Extracted) (reader : Reader) : Except PyExc Extracted :=
  (scan reader.rule text).foldlM (readMatch reader) e

def extractNumbers (others : WordChars) (text : List Char) : Except PyExc (List Int) := do
  let e ← (readers others).foldlM (readPass text) ⟨[], []⟩
  pure e.results

theorem needs_digit {others : WordChars} :
    ∀ reader ∈ readers others, Needs isDecimal reader.rule.body := by
  have hdigit : Needs isDecimal (.one isDecimal) := fun _ hc => hc
  simp only [readers, List.forall_mem_cons]
  refine ⟨?_, ?_, ?_, ?_, ?_, by simp⟩
  · exact Or.inl (Or.inl hdigit)
  · exact Or.inl (Or.inl hdigit)
  · exact Or.inl (Or.inl hdigit)
  · exact Or.inl hdigit
  · exact Or.inr (Or.inl hdigit)

theorem foldlM_readPass {text : List Char} {e : Extracted} {rs : List Reader}
    (h : ∀ reader ∈ rs, readPass text e reader = .ok e) :
    rs.foldlM (readPass text) e = .ok e := by
  induction rs with
  | nil => rfl
  | cons reader rs ih =>
    rw [List.foldlM_cons, h reader List.mem_cons_self]
    exact ih fun r hr => h r (List.mem_cons_of_mem _ hr)

/-- No blank is a digit. -/
theorem isDecimal_of_isBlank {c : Char} (h : isBlank c = true) : isDecimal c = false := by
  by_contra hdecimal
  rw [Bool.not_eq_false, isDecimal, decimalDigit, Option.isSome_map, List.find?_isSome] at hdecimal
  obtain ⟨first, hfirst, hrange⟩ := hdecimal
  simp only [Bool.and_eq_true, decide_eq_true_eq] at hrange
  have hall : ∀ z ∈ digitZeros, ∀ k < 10, isBlank (Char.ofNat (z + k)) = false := by decide
  have hnone := hall first hfirst (c.toNat - first) (by omega)
  rw [Nat.add_sub_cancel' hrange.1, Char.ofNat_toNat, h] at hnone
  cases hnone

/-- There are no numbers in a text without digits. -/
theorem extractNumbers_of_no_digit {others : WordChars} {text : List Char}
    (h : ∀ c ∈ text, isDecimal c = false) : extractNumbers others text = .ok [] := by
  have hpass : ∀ reader ∈ readers others, readPass text ⟨[], []⟩ reader = .ok ⟨[], []⟩ := by
    intro reader hreader
    rw [readPass, scan_eq_nil_of_needs (needs_digit reader hreader) h]
    rfl
  rw [extractNumbers, foldlM_readPass hpass]
  rfl

end BrainV2.Insight
