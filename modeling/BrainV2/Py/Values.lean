import BrainV2.Lib.Json.Writer

/-!
# The Python values and built-ins the services use

* `PyExc`: a raised exception; `isValueError` is what `except ValueError`
  catches;
* `jsonLoads`: `json.loads` of a text, with its three ways to fail;
* `truthy`, `pyStr`, `pyInt`: `bool()`, `str()` and `int()` of a decoded value;
* `b64encode`: base64 of bytes.

A lone surrogate escape decodes to U+FFFD here, and `repr` keeps every
character outside ASCII.
-/

namespace BrainV2.Py

open Binary64 (Double)

inductive ExcClass where
  | valueError
  | jsonDecodeError
  | unicodeDecodeError
  | typeError
  | attributeError
  | keyError
  | overflowError
  | recursionError
  /-- A class of a package: its name, and whether it derives from `ValueError`. -/
  | other (name : String) (derivesValueError : Bool)
deriving DecidableEq

structure PyExc where
  cls : ExcClass
  text : String
deriving DecidableEq

def ExcClass.name : ExcClass → String
  | .valueError => "ValueError"
  | .jsonDecodeError => "JSONDecodeError"
  | .unicodeDecodeError => "UnicodeDecodeError"
  | .typeError => "TypeError"
  | .attributeError => "AttributeError"
  | .keyError => "KeyError"
  | .overflowError => "OverflowError"
  | .recursionError => "RecursionError"
  | .other name _ => name

def ExcClass.isValueError : ExcClass → Bool
  | .valueError => true
  | .jsonDecodeError => true
  | .unicodeDecodeError => true
  | .other _ derives => derives
  | _ => false

def PyExc.isValueError (e : PyExc) : Bool := e.cls.isValueError

theorem bind_ok {α β : Type} {x : Except PyExc α} {f : α → Except PyExc β} {b : β} :
    x >>= f = .ok b ↔ ∃ a, x = .ok a ∧ f a = .ok b := by
  cases x with
  | error e => exact iff_of_false nofun (by rintro ⟨a, h, -⟩; cases h)
  | ok a => simp [bind, Except.bind]

/-- The interpreter's limits on nesting, in `json.loads` and in `repr`. -/
structure Limits where
  decodeDepth : Nat
  reprDepth : Nat

/-- `sys.get_int_max_str_digits()`. -/
def intMaxStrDigits : Nat := 4300

def Limits.dialect (limits : Limits) : Json.Dialect :=
  ⟨some limits.decodeDepth, some intMaxStrDigits, true⟩

section Text

/-- The zeros of the decimal digit ranges of Unicode. -/
def digitZeros : List Nat :=
  [0x30, 0x660, 0x6f0, 0x7c0, 0x966, 0x9e6, 0xa66, 0xae6, 0xb66, 0xbe6, 0xc66, 0xce6, 0xd66,
   0xde6, 0xe50, 0xed0, 0xf20, 0x1040, 0x1090, 0x17e0, 0x1810, 0x1946, 0x19d0, 0x1a80, 0x1a90,
   0x1b50, 0x1bb0, 0x1c40, 0x1c50, 0xa620, 0xa8d0, 0xa900, 0xa9d0, 0xa9f0, 0xaa50, 0xabf0,
   0xff10, 0x104a0, 0x10d30, 0x11066, 0x110f0, 0x11136, 0x111d0, 0x112f0, 0x11450, 0x114d0,
   0x11650, 0x116c0, 0x11730, 0x118e0, 0x11950, 0x11c50, 0x11d50, 0x11da0, 0x11f50, 0x16a60,
   0x16ac0, 0x16b50, 0x1d7ce, 0x1d7d8, 0x1d7e2, 0x1d7ec, 0x1d7f6, 0x1e140, 0x1e2f0, 0x1e4f0,
   0x1e950, 0x1fbf0]

def decimalDigit (c : Char) : Option Nat :=
  (digitZeros.find? fun z => z ≤ c.toNat && c.toNat < z + 10).map (c.toNat - ·)

theorem decimalDigit_of_isDigit {c : Char} (h : c.isDigit = true) :
    decimalDigit c = some (c.toNat - 48) := by
  simp only [Char.isDigit, Bool.and_eq_true, decide_eq_true_eq, UInt32.le_iff_toNat_le] at h
  have hlow : 48 ≤ c.toNat := h.1
  have hhigh : c.toNat < 58 := Nat.lt_succ_of_le h.2
  simp [decimalDigit, digitZeros, hlow, hhigh]

/-- The digits of Unicode that are not decimal ones: superscripts, circled digits
and the like, each range by its ends. -/
def otherDigits : List (Nat × Nat) :=
  [(0xb2, 0xb3), (0xb9, 0xb9), (0x1369, 0x1371), (0x19da, 0x19da), (0x2070, 0x2070),
   (0x2074, 0x2079), (0x2080, 0x2089), (0x2460, 0x2468), (0x2474, 0x247c), (0x2488, 0x2490),
   (0x24ea, 0x24ea), (0x24f5, 0x24fd), (0x24ff, 0x24ff), (0x2776, 0x277e), (0x2780, 0x2788),
   (0x278a, 0x2792), (0x10a40, 0x10a43), (0x10e60, 0x10e68), (0x11052, 0x1105a),
   (0x1f100, 0x1f10a)]

/-- `str.isdigit` -/
def isDigitText (s : String) : Bool :=
  s != "" && s.toList.all fun c =>
    (decimalDigit c).isSome || otherDigits.any fun (low, high) => low ≤ c.toNat && c.toNat ≤ high

/-- `str.replace` of one character. -/
def replaceChar (s : String) (old : Char) (new : String) : String :=
  String.ofList (s.toList.flatMap fun c => if c = old then new.toList else [c])

/-- The blanks `int()` skips at both ends. -/
def isSpace (c : Char) : Bool :=
  let n := c.toNat
  (9 ≤ n && n ≤ 13) || n == 0x20 || n == 0x85 || n == 0xa0 || n == 0x1680 ||
    (0x2000 ≤ n && n ≤ 0x200a) || n == 0x2028 || n == 0x2029 || n == 0x202f || n == 0x205f ||
    n == 0x3000

def strip (cs : List Char) : List Char := (cs.dropWhile isSpace).rdropWhile isSpace

/-- Digits, with single underscores between them. -/
def scanDigits (afterDigit : Bool) (rev : List Nat) : List Char → Option (List Nat)
  | [] => if afterDigit then some rev.reverse else none
  | c :: cs =>
    if c = '_' then if afterDigit then scanDigits false rev cs else none
    else match decimalDigit c with
      | some n => scanDigits true (n :: rev) cs
      | none => none

def reprChar (quote c : Char) : List Char :=
  if c = quote ∨ c = '\\' then ['\\', c]
  else if c = '\t' then ['\\', 't']
  else if c = '\n' then ['\\', 'n']
  else if c = '\r' then ['\\', 'r']
  else if c.toNat < 0x20 ∨ c.toNat = 0x7f then
    ['\\', 'x', Json.hexDigit (c.toNat / 16), Json.hexDigit (c.toNat % 16)]
  else [c]

/-- `repr` of a string. -/
def reprStr (s : String) : List Char :=
  let cs := s.toList
  let quote := if '\'' ∈ cs ∧ '"' ∉ cs then '"' else '\''
  quote :: (cs.flatMap (reprChar quote) ++ [quote])

end Text

section Decoded

mutual

/-- `repr` of a decoded value, nesting left aside. -/
def reprText : Json → List Char
  | .null => "None".toList
  | .bool true => "True".toList
  | .bool false => "False".toList
  | .int n => Json.intText n
  | .real (.finite x) => Json.finiteText x
  | .real (.infinite false) => "inf".toList
  | .real (.infinite true) => "-inf".toList
  | .real .nan => "nan".toList
  | .str s => reprStr s
  | .arr items => '[' :: (reprItems [] items ++ [']'])
  | .obj members => '{' :: (reprMembers [] members ++ ['}'])

def reprItems (sep : List Char) : List Json → List Char
  | [] => []
  | j :: rest => sep ++ reprText j ++ reprItems [',', ' '] rest

def reprMembers (sep : List Char) : List (String × Json) → List Char
  | [] => []
  | (key, j) :: rest =>
    sep ++ reprStr key ++ [':', ' '] ++ reprText j ++ reprMembers [',', ' '] rest

end

def truthy : Json → Bool
  | .null => false
  | .bool b => b
  | .int n => n != 0
  | .real (.finite x) => !x.isZero
  | .real _ => true
  | .str s => s != ""
  | .arr items => !items.isEmpty
  | .obj members => !members.isEmpty

def typeName : Json → String
  | .null => "NoneType"
  | .bool _ => "bool"
  | .int _ => "int"
  | .real _ => "float"
  | .str _ => "str"
  | .arr _ => "list"
  | .obj _ => "dict"

/-- `a or b` -/
def pyOr (a b : Json) : Json := if truthy a then a else b

/-- `d.get(key, default)` -/
def getD (d : List (String × Json)) (key : String) (default : Json) : Json :=
  (d.lookup key).getD default

/-- `d.get(key)` -/
def get (d : List (String × Json)) (key : String) : Json := getD d key .null

def pyStr (limits : Limits) (j : Json) : Except PyExc String :=
  match j with
  | .str s => .ok s
  | _ =>
    if j.depth ≤ limits.reprDepth then .ok (String.ofList (reprText j))
    else .error ⟨.recursionError,
      "maximum recursion depth exceeded while getting the repr of an object"⟩

theorem pyStr_ok_iff {limits : Limits} {j : Json} :
    (∃ text, pyStr limits j = .ok text) ↔ j.depth ≤ limits.reprDepth := by
  unfold pyStr
  cases j with
  | str s => exact iff_of_true ⟨s, rfl⟩ (Nat.zero_le _)
  | _ =>
    simp only
    split
    · exact iff_of_true ⟨_, rfl⟩ (by assumption)
    · exact iff_of_false (by rintro ⟨_, h⟩; cases h) (by assumption)

/-- `repr()` -/
def pyRepr (limits : Limits) (j : Json) : Except PyExc String :=
  if j.depth ≤ limits.reprDepth then .ok (String.ofList (reprText j))
  else .error ⟨.recursionError,
    "maximum recursion depth exceeded while getting the repr of an object"⟩

def notANumber (typeName : String) : PyExc :=
  ⟨.typeError, "int() argument must be a string, a bytes-like object or a real number, not '" ++
    typeName ++ "'"⟩

def digitLimitExc : PyExc :=
  ⟨.valueError, "Exceeds the limit (4300 digits) for integer string conversion"⟩

/-- `int()` of a string. -/
def intOfStr (s : String) : Except PyExc Int :=
  let invalid : PyExc := ⟨.valueError,
    "invalid literal for int() with base 10: " ++ String.ofList ((reprStr s).take 200)⟩
  let body := strip s.toList
  let negative := body.head? = some '-'
  let digits := if body.head? = some '-' ∨ body.head? = some '+' then body.drop 1 else body
  match scanDigits false [] digits with
  | none => .error invalid
  | some ds =>
    if intMaxStrDigits < ds.length then .error digitLimitExc
    else
      let n : Int := ds.foldl (fun n d => 10 * n + d) 0
      .ok (if negative then -n else n)

/-- `int()` -/
def pyInt : Json → Except PyExc Int
  | .null => .error (notANumber "NoneType")
  | .bool b => .ok (if b then 1 else 0)
  | .int n => .ok n
  | .real (.finite x) => .ok x.trunc
  | .real (.infinite _) => .error ⟨.overflowError, "cannot convert float infinity to integer"⟩
  | .real .nan => .error ⟨.valueError, "cannot convert float NaN to integer"⟩
  | .str s => intOfStr s
  | .arr _ => .error (notANumber "list")
  | .obj _ => .error (notANumber "dict")

def malformedText : Json.Malformed → String
  | .expectingValue => "Expecting value"
  | .expectingComma => "Expecting ',' delimiter"
  | .expectingColon => "Expecting ':' delimiter"
  | .expectingKey => "Expecting property name enclosed in double quotes"
  | .extraData => "Extra data"
  | .unterminatedString => "Unterminated string"
  | .controlCharacter => "Invalid control character"
  | .invalidEscape => "Invalid \\escape"

def faultExc : Json.Fault → PyExc
  | .malformed why => ⟨.jsonDecodeError, malformedText why⟩
  | .tooDeep => ⟨.recursionError, "maximum recursion depth exceeded while decoding JSON"⟩
  | .intTooLong => digitLimitExc

/-- `json.loads` of a text. -/
def jsonLoads (limits : Limits) (text : String) : Except PyExc Json :=
  (Json.loads limits.dialect text).mapError faultExc

/-- The values `int()` takes for no number at all, or for one past every integer. -/
def uncountable : Json → Bool
  | .null => true
  | .real (.infinite _) => true
  | .arr _ => true
  | .obj _ => true
  | _ => false

theorem intOfStr_error {s : String} {e : PyExc} (h : intOfStr s = .error e) :
    e.isValueError = true := by
  unfold intOfStr at h
  simp only at h
  split at h
  · cases h
    rfl
  split at h
  · cases h
    rfl
  · cases h

/-- `int()` raises something other than a `ValueError` exactly on these. -/
theorem pyInt_error_iff (j : Json) :
    (∃ e, pyInt j = .error e ∧ e.isValueError = false) ↔ uncountable j = true := by
  constructor
  · rintro ⟨e, h, he⟩
    unfold pyInt at h
    split at h
    · rfl
    · cases h
    · cases h
    · cases h
    · rfl
    · cases h
      cases he
    · rw [intOfStr_error h] at he
      cases he
    · rfl
    · rfl
  · intro h
    unfold uncountable at h
    split at h
    · exact ⟨_, rfl, rfl⟩
    · exact ⟨_, rfl, rfl⟩
    · exact ⟨_, rfl, rfl⟩
    · exact ⟨_, rfl, rfl⟩
    · cases h

end Decoded

section Bytes

def utf8 (s : String) : List UInt8 := s.toUTF8.data.toList

def utf8Decode (bytes : List UInt8) : Option String := String.fromUTF8? ⟨bytes.toArray⟩

theorem utf8Decode_utf8 (s : String) : utf8Decode (utf8 s) = some s := by
  simp only [utf8Decode, utf8, String.toUTF8_eq_toByteArray, Array.toArray_toList,
    String.fromUTF8?]
  rw [dif_pos s.isValidUTF8]
  rfl

/-- `decode("latin-1")` -/
def latin1Decode (bytes : List UInt8) : String :=
  String.ofList (bytes.map fun b => Char.ofNat b.toNat)

theorem utf8_eq_flatMap (s : String) : utf8 s = s.toList.flatMap String.utf8EncodeChar := by
  rw [utf8, String.toUTF8_eq_toByteArray, ← String.utf8Encode_toList, List.utf8Encode]
  simp

/-- Text in ASCII is the same in both encodings. -/
theorem latin1Decode_utf8 {s : String} (h : ∀ c ∈ s.toList, c.toNat < 128) :
    latin1Decode (utf8 s) = s := by
  have hchars : ∀ cs : List Char, (∀ c ∈ cs, c.toNat < 128) →
      (cs.flatMap String.utf8EncodeChar).map (fun b => Char.ofNat b.toNat) = cs := by
    intro cs
    induction cs with
    | nil => simp
    | cons c cs ih =>
      intro hcs
      obtain ⟨hc, hrest⟩ := List.forall_mem_cons.mp hcs
      have hval : c.val.toNat = c.toNat := rfl
      have hbyte : String.utf8EncodeChar c = [UInt8.ofNat c.toNat] := by
        rw [String.utf8EncodeChar, hval, if_pos (by omega)]
      have hsize : UInt8.size = 256 := rfl
      have hsmall : (UInt8.ofNat c.toNat).toNat = c.toNat := UInt8.toNat_ofNat_of_lt' (by omega)
      rw [List.flatMap_cons, hbyte, List.map_append, ih hrest, List.map_singleton, hsmall,
        Char.ofNat_toNat]
      rfl
  rw [latin1Decode, utf8_eq_flatMap, hchars _ h, String.ofList_toList]

def b64Char (n : Nat) : Char :=
  if n < 26 then Char.ofNat (65 + n)
  else if n < 52 then Char.ofNat (71 + n)
  else if n < 62 then Char.ofNat (n - 4)
  else if n = 62 then '+'
  else '/'

/-- `base64.b64encode` -/
def b64encode : List UInt8 → List Char
  | [] => []
  | [a] => [b64Char (a.toNat / 4), b64Char (a.toNat % 4 * 16), '=', '=']
  | [a, b] =>
    [b64Char (a.toNat / 4), b64Char (a.toNat % 4 * 16 + b.toNat / 16),
     b64Char (b.toNat % 16 * 4), '=']
  | a :: b :: c :: rest =>
    b64Char (a.toNat / 4) :: b64Char (a.toNat % 4 * 16 + b.toNat / 16) ::
      b64Char (b.toNat % 16 * 4 + c.toNat / 64) :: b64Char (c.toNat % 64) :: b64encode rest

end Bytes

end BrainV2.Py
