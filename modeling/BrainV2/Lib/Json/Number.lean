import BrainV2.Lib.Json.Value
import Mathlib.Data.List.DropRight

/-!
# Number and word tokens

Numbers and the words of JSON are both made of the characters
`isTokenChar` lists, so a token ends where such a character does not follow.

* `readToken`: the value of a token, by the grammar of numbers;
* `intText`, `realText`: the texts a writer gives numbers, reals as the
  shortest text that reads back as the same double;
* `readToken_intText`, `readToken_realText`: both read back.
-/

namespace BrainV2.Json

open Binary64 (Double Finite ofDecimal)

/-- Why a text is not JSON. -/
inductive Malformed where
  | expectingValue | expectingComma | expectingColon | expectingKey
  | extraData | unterminatedString | controlCharacter | invalidEscape
deriving DecidableEq

/-- Why a reader turns a text down. -/
inductive Fault where
  | malformed (why : Malformed)
  | tooDeep
  | intTooLong
deriving DecidableEq

def isTokenChar (c : Char) : Bool := c.isAlphanum || c == '+' || c == '-' || c == '.'

/-- The parts of a number text. -/
structure NumberText where
  negative : Bool
  whole : List Char
  fraction : List Char
  exponent : Int
  isReal : Bool

/-- Digits without a needless leading zero. -/
def isWhole : List Char → Bool
  | [] => false
  | ['0'] => true
  | c :: _ => c != '0'

/-- An exponent part up to the end of the token. -/
def scanExponent : List Char → Option Int
  | '+' :: ds => if ds ≠ [] ∧ ds.all Char.isDigit then some (Nat.ofDigitChars 10 ds 0) else none
  | '-' :: ds => if ds ≠ [] ∧ ds.all Char.isDigit then some (-Nat.ofDigitChars 10 ds 0) else none
  | ds => if ds ≠ [] ∧ ds.all Char.isDigit then some (Nat.ofDigitChars 10 ds 0) else none

/-- What follows the fraction: nothing, or an exponent part. -/
def scanTail (negative : Bool) (whole fraction : List Char) : List Char → Option NumberText
  | [] => some ⟨negative, whole, fraction, 0, true⟩
  | c :: cs =>
    if c = 'e' ∨ c = 'E' then
      (scanExponent cs).map fun exponent => ⟨negative, whole, fraction, exponent, true⟩
    else none

def scanMagnitude (negative : Bool) (cs : List Char) : Option NumberText :=
  let whole := cs.takeWhile Char.isDigit
  if isWhole whole then
    match cs.dropWhile Char.isDigit with
    | [] => some ⟨negative, whole, [], 0, false⟩
    | '.' :: rest =>
      let fraction := rest.takeWhile Char.isDigit
      if fraction = [] then none
      else scanTail negative whole fraction (rest.dropWhile Char.isDigit)
    | rest => scanTail negative whole [] rest
  else none

def scanNumber : List Char → Option NumberText
  | '-' :: cs => scanMagnitude true cs
  | cs => scanMagnitude false cs

def NumberText.toInt (t : NumberText) : Int :=
  let n : Int := Nat.ofDigitChars 10 t.whole 0
  if t.negative then -n else n

def NumberText.toDouble (t : NumberText) : Double :=
  ofDecimal t.negative (Nat.ofDigitChars 10 (t.whole ++ t.fraction) 0)
    (t.exponent - t.fraction.length)

/-- The value of a token. -/
def readToken (d : Dialect) (token : List Char) : Except Fault Json :=
  if token = ['t', 'r', 'u', 'e'] then .ok (.bool true)
  else if token = ['f', 'a', 'l', 's', 'e'] then .ok (.bool false)
  else if token = ['n', 'u', 'l', 'l'] then .ok .null
  else if d.nonFinite ∧ token = ['N', 'a', 'N'] then .ok (.real .nan)
  else if d.nonFinite ∧ token = ['I', 'n', 'f', 'i', 'n', 'i', 't', 'y'] then
    .ok (.real (.infinite false))
  else if d.nonFinite ∧ token = ['-', 'I', 'n', 'f', 'i', 'n', 'i', 't', 'y'] then
    .ok (.real (.infinite true))
  else match scanNumber token with
    | none => .error (.malformed .expectingValue)
    | some t =>
      if t.isReal then .ok (.real t.toDouble)
      else if d.fitsDigits t.whole.length then .ok (.int t.toInt)
      else .error .intTooLong

/-- The text of an integer. -/
def intText (n : Int) : List Char :=
  if n < 0 then '-' :: Nat.toDigits 10 n.natAbs else Nat.toDigits 10 n.natAbs

/-- The text of a decimal: fixed while the point stays within four places
before and sixteen after the first digit, else with an exponent. -/
def decimalText (digits : Nat) (exponent : Int) : List Char :=
  if digits = 0 then ['0', '.', '0']
  else
    let all := Nat.toDigits 10 digits
    let shown := all.rdropWhile (· == '0')
    let point := all.length + exponent
    if point ≤ -4 ∨ 16 < point then
      let power := point - 1
      let sign := if power < 0 then '-' else '+'
      let ds := Nat.toDigits 10 power.natAbs
      let padded := if ds.length < 2 then '0' :: ds else ds
      let fraction := if shown.drop 1 = [] then [] else '.' :: shown.drop 1
      shown.take 1 ++ fraction ++ 'e' :: sign :: padded
    else if point ≤ 0 then
      '0' :: '.' :: (List.replicate (-point).toNat '0' ++ shown)
    else if shown.length ≤ point then
      shown ++ List.replicate (point.toNat - shown.length) '0' ++ ['.', '0']
    else shown.take point.toNat ++ '.' :: shown.drop point.toNat

def signed (negative : Bool) (text : List Char) : List Char :=
  if negative then '-' :: text else text

def reads (x : Finite) (text : List Char) : Bool :=
  match scanNumber text with
  | some t => t.isReal && decide (t.toDouble = .finite x)
  | none => false

/-- The exact decimal of a double, with an exponent. -/
def exactText (x : Finite) : List Char :=
  signed x.negative (Nat.toDigits 10 x.exactDigits ++ ['e', '-', '1', '0', '7', '4'])

def decimalTexts (x : Finite) : List (List Char) :=
  x.decimals.map fun d => signed x.negative (decimalText d.1 d.2)

/-- The first of the decimals close to a double that reads back as it. -/
def finiteText (x : Finite) : List Char :=
  ((decimalTexts x).find? (reads x)).getD (exactText x)

def realText : Double → List Char
  | .finite x => finiteText x
  | .infinite false => ['I', 'n', 'f', 'i', 'n', 'i', 't', 'y']
  | .infinite true => ['-', 'I', 'n', 'f', 'i', 'n', 'i', 't', 'y']
  | .nan => ['N', 'a', 'N']

section Digits

theorem isDigit_of_mem_digits {n : Nat} {c : Char} (hc : c ∈ Nat.toDigits 10 n) :
    c.isDigit = true :=
  Nat.isDigit_of_mem_toDigits (by omega) (by omega) hc

theorem digitChar_ne_zero : ∀ n < 10, 0 < n → n.digitChar ≠ '0' := by
  decide

theorem head_toDigits {n : Nat} (h : 0 < n) {c : Char} {cs : List Char}
    (hc : Nat.toDigits 10 n = c :: cs) : c ≠ '0' := by
  induction n using Nat.strongRecOn generalizing c cs with
  | _ n ih =>
    by_cases hn : n < 10
    · rw [Nat.toDigits_of_lt_base hn] at hc
      obtain ⟨rfl, -⟩ := List.cons.inj hc
      exact digitChar_ne_zero n hn h
    · have hn' : 10 ≤ n := Nat.le_of_not_lt hn
      rw [Nat.toDigits_of_base_le (by omega) hn'] at hc
      cases hq : Nat.toDigits 10 (n / 10) with
      | nil => exact absurd hq Nat.toDigits_ne_nil
      | cons q qs =>
        rw [hq, List.cons_append] at hc
        obtain ⟨rfl, -⟩ := List.cons.inj hc
        exact ih (n / 10) (by omega) (by omega) hq

theorem isWhole_of_head {c : Char} {cs : List Char} (h : c ≠ '0') :
    isWhole (c :: cs) = true := by
  unfold isWhole
  split
  · contradiction
  · rfl
  · rename_i he
    obtain ⟨rfl, -⟩ := List.cons.inj he
    simpa using h

theorem isWhole_toDigits (n : Nat) : isWhole (Nat.toDigits 10 n) = true := by
  rcases Nat.eq_zero_or_pos n with rfl | h
  · rfl
  cases hd : Nat.toDigits 10 n with
  | nil => exact absurd hd Nat.toDigits_ne_nil
  | cons c cs => exact isWhole_of_head (head_toDigits h hd)

theorem takeWhile_digits {ds rest : List Char} (h : ∀ c ∈ ds, c.isDigit = true)
    (hrest : ∀ c ∈ rest.head?, c.isDigit = false) :
    (ds ++ rest).takeWhile Char.isDigit = ds := by
  rw [List.takeWhile_append_of_pos h]
  cases rest with
  | nil => simp
  | cons c cs => simp [hrest c rfl]

theorem dropWhile_digits {ds rest : List Char} (h : ∀ c ∈ ds, c.isDigit = true)
    (hrest : ∀ c ∈ rest.head?, c.isDigit = false) :
    (ds ++ rest).dropWhile Char.isDigit = rest := by
  rw [List.dropWhile_append_of_pos h]
  cases rest with
  | nil => rfl
  | cons c cs => simp [hrest c rfl]

end Digits

section Reading

/-- No word is a number. -/
theorem readToken_of_scan {d : Dialect} {token : List Char} {t : NumberText}
    (h : scanNumber token = some t) : readToken d token =
      if t.isReal then .ok (.real t.toDouble)
      else if d.fitsDigits t.whole.length then .ok (.int t.toInt)
      else .error .intTooLong := by
  have hword : ∀ w, scanNumber w = none → token ≠ w := by
    rintro w hw rfl
    rw [h] at hw
    cases hw
  unfold readToken
  rw [if_neg (hword _ (by decide)), if_neg (hword _ (by decide)), if_neg (hword _ (by decide)),
    if_neg fun hn => hword _ (by decide) hn.2, if_neg fun hn => hword _ (by decide) hn.2,
    if_neg fun hn => hword _ (by decide) hn.2, h]

theorem scanMagnitude_digits (negative : Bool) (n : Nat) :
    scanMagnitude negative (Nat.toDigits 10 n) =
      some ⟨negative, Nat.toDigits 10 n, [], 0, false⟩ := by
  have hds : ∀ c ∈ Nat.toDigits 10 n, c.isDigit = true := fun _ => isDigit_of_mem_digits
  have hend : ∀ c ∈ ([] : List Char).head?, c.isDigit = false := by simp
  have htake := takeWhile_digits hds hend
  have hdrop := dropWhile_digits hds hend
  rw [List.append_nil] at htake hdrop
  simp [scanMagnitude, htake, hdrop, isWhole_toDigits]

theorem scanNumber_digits (cs : List Char) (h : ∀ c ∈ cs.head?, c.isDigit = true) :
    scanNumber cs = scanMagnitude false cs := by
  unfold scanNumber
  split
  · rename_i rest
    have hminus := h '-' rfl
    simp at hminus
  · rfl

theorem scanNumber_intText (n : Int) : scanNumber (intText n) =
    some ⟨decide (n < 0), Nat.toDigits 10 n.natAbs, [], 0, false⟩ := by
  unfold intText
  split
  · rename_i hneg
    rw [show scanNumber ('-' :: Nat.toDigits 10 n.natAbs) = scanMagnitude true _ from rfl,
      scanMagnitude_digits]
    simp [hneg]
  · rename_i hpos
    rw [scanNumber_digits, scanMagnitude_digits]
    · simp [hpos]
    · intro c hc
      exact isDigit_of_mem_digits (List.mem_of_mem_head? hc)

theorem readToken_intText {d : Dialect} {n : Int} (h : (Json.int n).WF d) :
    readToken d (intText n) = .ok (.int n) := by
  rw [readToken_of_scan (scanNumber_intText n)]
  have hfits : d.fitsDigits (Nat.toDigits 10 n.natAbs).length = true := h
  simp only [Bool.false_eq_true, if_false, hfits, if_true, NumberText.toInt,
    Nat.ofDigitChars_ten_toDigits]
  by_cases hneg : n < 0
  · simp only [hneg, decide_true, if_true]
    congr 2
    omega
  · simp only [hneg, decide_false, Bool.false_eq_true, if_false]
    congr 2
    omega

theorem reads_exactText (x : Finite) : reads x (exactText x) = true := by
  let tail : List Char := ['e', '-', '1', '0', '7', '4']
  have hscan : scanNumber (exactText x) =
      some ⟨x.negative, Nat.toDigits 10 x.exactDigits, [], -1074, true⟩ := by
    have hds : ∀ c ∈ Nat.toDigits 10 x.exactDigits, c.isDigit = true :=
      fun _ => isDigit_of_mem_digits
    have htail : ∀ c ∈ tail.head?, c.isDigit = false := by simp [tail]
    have hmagnitude : scanMagnitude x.negative (Nat.toDigits 10 x.exactDigits ++ tail) =
        some ⟨x.negative, Nat.toDigits 10 x.exactDigits, [], -1074, true⟩ := by
      simp only [scanMagnitude, takeWhile_digits hds htail, dropWhile_digits hds htail,
        isWhole_toDigits, if_true]
      rfl
    cases hs : x.negative with
    | true => simpa [exactText, hs, signed, scanNumber] using hmagnitude
    | false =>
      rw [exactText, hs, signed, if_neg (by decide), scanNumber_digits]
      · simpa [hs] using hmagnitude
      · intro c hc
        rw [List.head?_append_of_ne_nil _ Nat.toDigits_ne_nil] at hc
        exact isDigit_of_mem_digits (List.mem_of_mem_head? hc)
  have hread := Binary64.ofDecimal_exactDigits x
  simp only [reads, hscan, NumberText.toDouble, List.append_nil,
    Nat.ofDigitChars_ten_toDigits, List.length_nil]
  simpa using hread

theorem reads_finiteText (x : Finite) : reads x (finiteText x) = true := by
  rw [finiteText]
  cases h : (decimalTexts x).find? (reads x) with
  | none => exact reads_exactText x
  | some text =>
    have hread : reads x text = true := List.find?_some h
    exact hread

theorem readToken_of_reads {d : Dialect} {x : Finite} {text : List Char}
    (h : reads x text = true) : readToken d text = .ok (.real (.finite x)) := by
  unfold reads at h
  cases hs : scanNumber text with
  | none => simp [hs] at h
  | some t =>
    simp only [hs, Bool.and_eq_true, decide_eq_true_eq] at h
    rw [readToken_of_scan hs, if_pos h.1, h.2]

theorem readToken_realText {d : Dialect} {x : Double} (h : (Json.real x).WF d) :
    readToken d (realText x) = .ok (.real x) := by
  cases x with
  | finite x => exact readToken_of_reads (reads_finiteText x)
  | infinite negative =>
    have hd : d.nonFinite = true := h
    cases negative <;> simp [realText, readToken, hd]
  | nan =>
    have hd : d.nonFinite = true := h
    simp [realText, readToken, hd]

end Reading

section WellFormed

theorem scanTail_whole {negative : Bool} {whole fraction cs : List Char} {t : NumberText}
    (h : scanTail negative whole fraction cs = some t) : t.whole = whole := by
  unfold scanTail at h
  split at h
  · cases h
    rfl
  · split at h
    · obtain ⟨e, -, rfl⟩ := Option.map_eq_some_iff.mp h
      rfl
    · cases h

theorem scanMagnitude_whole {negative : Bool} {cs : List Char} {t : NumberText}
    (h : scanMagnitude negative cs = some t) :
    t.whole ≠ [] ∧ ∀ c ∈ t.whole, c.isDigit = true := by
  have hdigits : ∀ c ∈ cs.takeWhile Char.isDigit, c.isDigit = true :=
    fun c hc => List.mem_takeWhile_imp hc
  simp only [scanMagnitude] at h
  split at h
  · rename_i hwhole
    have hne : cs.takeWhile Char.isDigit ≠ [] := by
      intro he
      simp [he, isWhole] at hwhole
    split at h
    · cases h
      exact ⟨hne, hdigits⟩
    · split at h
      · cases h
      · rw [scanTail_whole h]
        exact ⟨hne, hdigits⟩
    · rw [scanTail_whole h]
      exact ⟨hne, hdigits⟩
  · cases h

theorem scanNumber_whole {cs : List Char} {t : NumberText} (h : scanNumber cs = some t) :
    t.whole ≠ [] ∧ ∀ c ∈ t.whole, c.isDigit = true := by
  unfold scanNumber at h
  split at h <;> exact scanMagnitude_whole h

theorem digit_value_lt {c : Char} (h : c.isDigit = true) : c.toNat - '0'.toNat < 10 := by
  simp only [Char.isDigit, Bool.and_eq_true, decide_eq_true_eq] at h
  have h9 : c.toNat ≤ 57 := h.2
  have h0 : '0'.toNat = 48 := rfl
  omega

theorem ofDigitChars_lt {ds : List Char} (h : ∀ c ∈ ds, c.isDigit = true) (n : Nat) :
    Nat.ofDigitChars 10 ds n < 10 ^ ds.length * (n + 1) := by
  induction ds generalizing n with
  | nil => simp
  | cons c cs ih =>
    have hc := digit_value_lt (h c List.mem_cons_self)
    have hcs := ih (fun x hx => h x (List.mem_cons_of_mem _ hx)) (10 * n + (c.toNat - '0'.toNat))
    rw [Nat.ofDigitChars_cons]
    refine Nat.lt_of_lt_of_le hcs ?_
    rw [List.length_cons, Nat.pow_succ, Nat.mul_assoc]
    exact Nat.mul_le_mul_left _ (by omega)

theorem length_toDigits_toInt {t : NumberText} (hne : t.whole ≠ [])
    (hdigits : ∀ c ∈ t.whole, c.isDigit = true) :
    (Nat.toDigits 10 t.toInt.natAbs).length ≤ t.whole.length := by
  have habs : t.toInt.natAbs = Nat.ofDigitChars 10 t.whole 0 := by
    unfold NumberText.toInt
    split <;> simp
  rw [habs, Nat.length_toDigits_le_iff (by omega) (List.length_pos_of_ne_nil hne)]
  simpa using ofDigitChars_lt hdigits 0

theorem fitsDigits_mono {d : Dialect} {m n : Nat} (h : d.fitsDigits n = true) (hmn : m ≤ n) :
    d.fitsDigits m = true := by
  unfold Dialect.fitsDigits at *
  split <;> simp_all
  omega

theorem fitsReal_of_nonFinite {d : Dialect} (h : d.nonFinite = true) (x : Double) :
    d.fitsReal x = true := by
  cases x <;> simp [Dialect.fitsReal, h]

theorem readToken_wf {d : Dialect} (hd : d.nonFinite = true) {token : List Char} {v : Json}
    (h : readToken d token = .ok v) : v.WF d ∧ v.depth = 0 := by
  unfold readToken at h
  split at h
  · cases h
    exact ⟨trivial, rfl⟩
  split at h
  · cases h
    exact ⟨trivial, rfl⟩
  split at h
  · cases h
    exact ⟨trivial, rfl⟩
  split at h
  · cases h
    exact ⟨hd, rfl⟩
  split at h
  · cases h
    exact ⟨hd, rfl⟩
  split at h
  · cases h
    exact ⟨hd, rfl⟩
  split at h
  · cases h
  · rename_i t ht
    split at h
    · cases h
      exact ⟨fitsReal_of_nonFinite hd _, rfl⟩
    split at h
    · rename_i hfits
      cases h
      obtain ⟨hne, hdigits⟩ := scanNumber_whole ht
      exact ⟨fitsDigits_mono hfits (length_toDigits_toInt hne hdigits), rfl⟩
    · cases h

end WellFormed

section TokenChars

theorem isTokenChar_of_isDigit {c : Char} (h : c.isDigit = true) : isTokenChar c = true := by
  simp [isTokenChar, Char.isAlphanum, h]

theorem isTokenChar_digits {n : Nat} {c : Char} (h : c ∈ Nat.toDigits 10 n) :
    isTokenChar c = true :=
  isTokenChar_of_isDigit (isDigit_of_mem_digits h)

theorem isTokenChar_signed {negative : Bool} {text : List Char}
    (h : ∀ c ∈ text, isTokenChar c = true) : ∀ c ∈ signed negative text, isTokenChar c = true := by
  intro c hc
  cases negative with
  | false => exact h c hc
  | true =>
    rcases List.mem_cons.mp hc with rfl | hc
    · rfl
    · exact h c hc

theorem isTokenChar_intText (n : Int) : ∀ c ∈ intText n, isTokenChar c = true := by
  intro c hc
  unfold intText at hc
  split at hc
  · rcases List.mem_cons.mp hc with rfl | hc
    · rfl
    · exact isTokenChar_digits hc
  · exact isTokenChar_digits hc

theorem isTokenChar_decimalText (digits : Nat) (exponent : Int) :
    ∀ c ∈ decimalText digits exponent, isTokenChar c = true := by
  intro c hc
  have hshown : ∀ x ∈ (Nat.toDigits 10 digits).rdropWhile (· == '0'), isTokenChar x = true :=
    fun x hx => isTokenChar_digits ((List.rdropWhile_prefix _ _).subset hx)
  have htake : ∀ k, ∀ x ∈ ((Nat.toDigits 10 digits).rdropWhile (· == '0')).take k,
      isTokenChar x = true := fun k x hx => hshown x (List.mem_of_mem_take hx)
  have hdrop : ∀ k, ∀ x ∈ ((Nat.toDigits 10 digits).rdropWhile (· == '0')).drop k,
      isTokenChar x = true := fun k x hx => hshown x (List.mem_of_mem_drop hx)
  unfold decimalText at hc
  split at hc
  · simp only [List.mem_cons, List.not_mem_nil, or_false] at hc
    rcases hc with rfl | rfl | rfl <;> rfl
  simp only at hc
  split at hc
  · -- the form with an exponent
    simp only [List.mem_append, List.mem_cons] at hc
    rcases hc with (hc | hc) | rfl | rfl | hc
    · exact htake 1 c hc
    · split at hc
      · cases hc
      · rcases List.mem_cons.mp hc with rfl | hc
        · rfl
        · exact hdrop 1 c hc
    · rfl
    · split <;> rfl
    · split at hc
      · rcases List.mem_cons.mp hc with rfl | hc
        · rfl
        · exact isTokenChar_digits hc
      · exact isTokenChar_digits hc
  split at hc
  · simp only [List.mem_cons, List.mem_append, List.mem_replicate] at hc
    rcases hc with rfl | rfl | ⟨-, rfl⟩ | hc
    · rfl
    · rfl
    · rfl
    · exact hshown c hc
  split at hc
  · simp only [List.mem_append, List.mem_replicate, List.mem_cons, List.not_mem_nil,
      or_false] at hc
    rcases hc with (hc | ⟨-, rfl⟩) | rfl | rfl
    · exact hshown c hc
    · rfl
    · rfl
    · rfl
  · simp only [List.mem_append, List.mem_cons] at hc
    rcases hc with hc | rfl | hc
    · exact htake _ c hc
    · rfl
    · exact hdrop _ c hc

theorem isTokenChar_exactText (x : Finite) : ∀ c ∈ exactText x, isTokenChar c = true := by
  refine isTokenChar_signed fun c hc => ?_
  rcases List.mem_append.mp hc with hc | hc
  · exact isTokenChar_digits hc
  · simp only [List.mem_cons, List.not_mem_nil, or_false] at hc
    rcases hc with rfl | rfl | rfl | rfl | rfl | rfl <;> rfl

theorem isTokenChar_realText (x : Double) : ∀ c ∈ realText x, isTokenChar c = true := by
  cases x with
  | finite x =>
    rw [realText, finiteText]
    cases h : (decimalTexts x).find? (reads x) with
    | none => exact isTokenChar_exactText x
    | some text =>
      obtain ⟨d, -, rfl⟩ := List.mem_map.mp (List.mem_of_find?_eq_some h)
      exact isTokenChar_signed (isTokenChar_decimalText d.1 d.2)
  | infinite negative =>
    cases negative <;> exact List.all_eq_true.mp (by decide)
  | nan => exact List.all_eq_true.mp (by decide)

end TokenChars

end BrainV2.Json
