import BrainV2.Js.Numbers
import BrainV2.Lib.Json.Writer
import BrainV2.Py.Datetime

/-!
# Values of JavaScript

* `parse`, `stringify`: `JSON.parse` and `JSON.stringify`; `parse_dumps`: what was written;
* `prop`, `optional`, `orElse`: `x.name`, `x?.name` and `x ?? y`, where `none` is `undefined`;
* `toText`, `toFixed`, `bigIntOf`: `String(x)`, `Number.prototype.toFixed` and `BigInt(x)`;
* `parse_quote`, `parse_quotedKey`: what `JSON.stringify` quotes is read back;
* `Engine`, `dateOf`, `toISOString`: what an implementation brings along, and dates.
-/

namespace BrainV2.Js

open Binary64 (Double ofInt)

inductive JsError where
  | typeError
  | rangeError
  | syntaxError
  /-- `new Error(message)` -/
  | error (message : String)
deriving DecidableEq, Repr

abbrev Result := Except JsError

theorem bind_ok {α β : Type} {x : Result α} {f : α → Result β} {b : β} :
    x >>= f = .ok b ↔ ∃ a, x = .ok a ∧ f a = .ok b := by
  cases x with
  | error e => exact iff_of_false nofun (by rintro ⟨a, h, -⟩; cases h)
  | ok a => exact ⟨fun h => ⟨a, rfl, h⟩, by rintro ⟨a', ha, h⟩; cases ha; exact h⟩

/-- `none` is `undefined`. -/
abbrev Value := Option Json

def dialect : Json.Dialect := ⟨none, none, false⟩

/-- `JSON.parse(text)` -/
def parse (text : String) : Result Json :=
  match Json.loads dialect text with
  | .ok j => .ok j
  | .error _ => .error .syntaxError

theorem parse_dumps {j : Json} (hj : j.WF dialect) : parse (Json.dumps j) = .ok j := by
  rw [parse, Json.loads_dumps hj rfl]

def isNullish : Value → Bool
  | none | some .null => true
  | _ => false

/-- `x ?? y` -/
def orElse (x : Value) (y : Json) : Json :=
  match x with
  | none | some .null => y
  | some j => j

/-- `x ?? null` -/
def orNull (x : Value) : Json := orElse x .null

def truthy : Json → Bool
  | .null => false
  | .bool b => b
  | .int n => n != 0
  | .real (.finite x) => !x.isZero
  | .real (.infinite _) => true
  | .real .nan => false
  | .str s => s != ""
  | .arr _ => true
  | .obj _ => true

def isTruthy : Value → Bool
  | none => false
  | some j => truthy j

/-- `x.name`, of names that only objects have. -/
def prop (x : Json) (name : String) : Result Value :=
  match x with
  | .null => .error .typeError
  | .obj members => .ok (members.lookup name)
  | _ => .ok none

/-- `x?.name` -/
def optional (x : Value) (name : String) : Result Value :=
  match x with
  | none | some .null => .ok none
  | some j => prop j name

/-! ### Texts -/

mutual

/-- `String(x)` -/
def toText : Json → Result String
  | .null => .ok "null"
  | .bool true => .ok "true"
  | .bool false => .ok "false"
  | .int n => .ok (String.ofList (numberText (ofInt n)))
  | .real x => .ok (String.ofList (numberText x))
  | .str s => .ok s
  | .arr items => do
    let texts ← elementTexts items
    .ok (",".intercalate texts)
  -- An own `toString` is no function, and `valueOf` gives no primitive.
  | .obj members =>
    if (members.lookup "toString").isSome then .error .typeError else .ok "[object Object]"

/-- The elements as `join` takes them. -/
def elementTexts : List Json → Result (List String)
  | [] => .ok []
  | .null :: rest => do
    let texts ← elementTexts rest
    .ok ("" :: texts)
  | j :: rest => do
    let text ← toText j
    let texts ← elementTexts rest
    .ok (text :: texts)

end

/-- `items.join(separator)` -/
def join (items : List Json) (separator : String) : Result String := do
  let texts ← elementTexts items
  .ok (separator.intercalate texts)

/-- The characters that `JSON.stringify` does not leave as they are. -/
def quoteChar (c : Char) : List Char :=
  if c = '"' then ['\\', '"']
  else if c = '\\' then ['\\', '\\']
  else if c.toNat = 8 then ['\\', 'b']
  else if c.toNat = 9 then ['\\', 't']
  else if c.toNat = 10 then ['\\', 'n']
  else if c.toNat = 12 then ['\\', 'f']
  else if c.toNat = 13 then ['\\', 'r']
  else if c.toNat < 32 then Json.unitText c.toNat
  else [c]

def quote (s : String) : List Char := '"' :: (s.toList.flatMap quoteChar ++ ['"'])

/-- A number that is not finite has no text. -/
def numberJson : Double → List Char
  | .finite x => numberText (.finite x)
  | _ => ['n', 'u', 'l', 'l']

mutual

def stringifyChars : Json → List Char
  | .null => ['n', 'u', 'l', 'l']
  | .bool true => ['t', 'r', 'u', 'e']
  | .bool false => ['f', 'a', 'l', 's', 'e']
  | .int n => numberJson (ofInt n)
  | .real x => numberJson x
  | .str s => quote s
  | .arr items => '[' :: (stringifyItems items ++ [']'])
  | .obj members => '\x7b' :: (stringifyMembers members ++ ['\x7d'])

def stringifyItems : List Json → List Char
  | [] => []
  | [j] => stringifyChars j
  | j :: rest => stringifyChars j ++ ',' :: stringifyItems rest

def stringifyMembers : List (String × Json) → List Char
  | [] => []
  | [(key, j)] => quote key ++ ':' :: stringifyChars j
  | (key, j) :: rest => quote key ++ ':' :: (stringifyChars j ++ ',' :: stringifyMembers rest)

end

/-- `JSON.stringify(x)` -/
def stringify (x : Json) : String := String.ofList (stringifyChars x)

/-- `text.includes(part)` -/
def includes (text part : String) : Bool := text.toList.tails.any part.toList.isPrefixOf

/-! ### Quoted texts -/

section

open Json (Dialect Frame Mode parse_unitText codeUnit_char endText)

variable {d : Dialect} {stack : List Frame} {isKey : Bool}

theorem parse_quoteChar {rev : List Char} {c : Char} {rest : List Char} :
    Json.parse d ⟨stack, .text isKey ⟨rev, none, .plain⟩⟩ (quoteChar c ++ rest) =
      Json.parse d ⟨stack, .text isKey ⟨c :: rev, none, .plain⟩⟩ rest := by
  -- A short escape and the character that it stands for.
  have hescape : ∀ e c' : Char, Json.unescape e = some c' → e ≠ 'u' →
      Json.parse d ⟨stack, .text isKey ⟨rev, none, .plain⟩⟩ (['\\', e] ++ rest) =
        Json.parse d ⟨stack, .text isKey ⟨c' :: rev, none, .plain⟩⟩ rest := by
    intro e c' he hu
    simp [Json.parse, Json.step, Json.Text.step, Json.Text.push, Json.Text.flushed, he, hu]
  have hchar : ∀ n, c.toNat = n → c = Char.ofNat n := by
    rintro n rfl
    exact (Char.ofNat_toNat c).symm
  unfold quoteChar
  split
  · next h => exact h ▸ hescape '"' '"' rfl (by decide)
  split
  · next h => exact h ▸ hescape '\\' '\\' rfl (by decide)
  split
  · next h => exact hchar 8 h ▸ hescape 'b' _ rfl (by decide)
  split
  · next h => exact hchar 9 h ▸ hescape 't' _ rfl (by decide)
  split
  · next h => exact hchar 10 h ▸ hescape 'n' _ rfl (by decide)
  split
  · next h => exact hchar 12 h ▸ hescape 'f' _ rfl (by decide)
  split
  · next h => exact hchar 13 h ▸ hescape 'r' _ rfl (by decide)
  split
  · next h =>
    have hsmall : c.toNat < 0x10000 := by omega
    rw [parse_unitText hsmall, codeUnit_char hsmall]
  · next hquote hslash _ _ _ _ _ hcontrol =>
    have hplain : ¬ c.toNat < 0x20 := by omega
    simp [Json.parse, Json.step, Json.Text.step, Json.Text.push, Json.Text.flushed, hquote,
      hslash, hplain]

theorem parse_quoteChars {cs rev rest : List Char} :
    Json.parse d ⟨stack, .text isKey ⟨rev, none, .plain⟩⟩ (cs.flatMap quoteChar ++ '"' :: rest) =
      Json.parse d (endText stack isKey (String.ofList (rev.reverse ++ cs))) rest := by
  induction cs generalizing rev with
  | nil => simp [Json.parse, Json.step, Json.Text.step, Json.Text.flushed]
  | cons c cs ih =>
    rw [List.flatMap_cons, List.append_assoc, parse_quoteChar, ih, List.reverse_cons,
      List.append_assoc]
    rfl

theorem parse_quoted {s : String} {rest : List Char} :
    Json.parse d ⟨stack, .text isKey .start⟩ (s.toList.flatMap quoteChar ++ '"' :: rest) =
      Json.parse d (endText stack isKey s) rest := by
  rw [Json.Text.start, parse_quoteChars, List.reverse_nil, List.nil_append, String.ofList_toList]

/-- A quoted text is read back, as a value. -/
theorem parse_quote {s : String} {rest : List Char} :
    Json.parse d ⟨stack, .value⟩ (quote s ++ rest) =
      Json.parse d (Json.deliver stack (.str s)) rest := by
  have hopen : Json.parse d ⟨stack, .value⟩ (quote s ++ rest) =
      Json.parse d ⟨stack, .text false .start⟩ (s.toList.flatMap quoteChar ++ '"' :: rest) := by
    simp [quote, Json.parse, Json.step, Json.startValue, Json.isWhite]
  rw [hopen, parse_quoted]
  rfl

/-- Or as a key, with its colon. -/
theorem parse_quotedKey {sofar : List (String × Json)} {key0 key : String} {rest : List Char}
    {mode : Mode} (hmode : mode = .firstKey ∨ mode = .nextKey) :
    Json.parse d ⟨.members sofar key0 :: stack, mode⟩ (quote key ++ ':' :: rest) =
      Json.parse d ⟨.members sofar key :: stack, .value⟩ rest := by
  have hopen : Json.parse d ⟨.members sofar key0 :: stack, mode⟩ (quote key ++ ':' :: rest) =
      Json.parse d ⟨.members sofar key0 :: stack, .text true .start⟩
        (key.toList.flatMap quoteChar ++ '"' :: ':' :: rest) := by
    rcases hmode with rfl | rfl <;> simp [quote, Json.parse, Json.step, Json.startKey, Json.isWhite]
  rw [hopen, parse_quoted]
  simp [endText, Json.parse, Json.step, Json.isWhite]

end

/-! ### Numbers -/

/-- `x.toFixed(digits)`; halves go up in magnitude. -/
def toFixed (x : Double) (digits : Nat) : List Char :=
  match x with
  | .finite f =>
    if 10 ^ 21 * 2 ^ 1074 ≤ f.units then numberText x
    else
      let n := (2 * f.units * 10 ^ digits + 2 ^ 1074) / 2 ^ 1075
      let ds := Nat.toDigits 10 n
      let padded := List.replicate (digits + 1 - ds.length) '0' ++ ds
      let text := if digits = 0 then ds
        else padded.take (padded.length - digits) ++ '.' :: padded.drop (padded.length - digits)
      if f.negative && !f.isZero then '-' :: text else text
  | _ => numberText x

def ofBigInt (n : Option Int) (e : JsError) : Result Int :=
  match n with
  | some n => .ok n
  | none => .error e

/-- `BigInt(x)` -/
def bigIntOf : Json → Result Int
  | .null => .error .typeError
  | .bool b => .ok (if b then 1 else 0)
  | .int n => ofBigInt (bigIntOfNumber (ofInt n)) .rangeError
  | .real x => ofBigInt (bigIntOfNumber x) .rangeError
  | .str s => ofBigInt (bigInt s.toList) .syntaxError
  | j => do
    let text ← toText j
    ofBigInt (bigInt text.toList) .syntaxError

/-! ### Dates -/

/-- Case tables, the fallback of `Date.parse` and the decoding of broken UTF-8. -/
structure Engine where
  toUpperCase : String → String
  toLowerCase : String → String
  /-- Milliseconds; `none` is `NaN`. -/
  dateParse : String → Option Int
  /-- `buffer.toString()` of bytes that are no UTF-8. -/
  replaced : List UInt8 → String

def timeClip (ms : Int) : Option Int :=
  if ms.natAbs ≤ 8640000000000000 then some ms else none

/-- `new Date(x)`, as its time value. -/
def dateOf (engine : Engine) : Json → Result (Option Int)
  | .null => .ok (some 0)
  | .bool b => .ok (some (if b then 1 else 0))
  | .int n => .ok (timeClip n)
  | .real (.finite x) => .ok (timeClip x.trunc)
  | .real _ => .ok none
  | .str s => .ok ((engine.dateParse s).bind timeClip)
  | j => do
    let text ← toText j
    .ok ((engine.dateParse text).bind timeClip)

def yearText (year : Int) : List Char :=
  if 0 ≤ year ∧ year ≤ 9999 then Py.pad 4 year.toNat
  else (if year < 0 then '-' else '+') :: Py.pad 6 year.natAbs

/-- The text of a time value, in UTC. -/
def isoText (ms : Int) : List Char :=
  let days := ms / 86400000 + 719162
  let (year, month, day) := Py.ofOrdinal ((days % 146097).toNat + 1)
  let time := (ms % 86400000).toNat
  yearText (400 * (days / 146097) + year) ++ '-' :: Py.pad 2 month ++ '-' :: Py.pad 2 day ++
    'T' :: Py.pad 2 (time / 3600000) ++ ':' :: Py.pad 2 (time / 60000 % 60) ++
    ':' :: Py.pad 2 (time / 1000 % 60) ++ '.' :: Py.pad 3 (time % 1000) ++ ['Z']

/-- `date.toISOString()` -/
def toISOString : Option Int → Result String
  | some ms => .ok (String.ofList (isoText ms))
  | none => .error .rangeError

example : String.ofList (isoText (-1)) = "1969-12-31T23:59:59.999Z" := by decide +kernel

end BrainV2.Js
