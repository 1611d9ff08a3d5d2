import BrainV2.Lib.Json.Reader
import Mathlib

/-!
# Writing JSON texts

* `dumps`: the text of a value, in ASCII, with `", "` and `": "` between its
  parts;
* `loads_dumps`: a reader of a dialect the value is well formed in reads back
  the value itself.
-/

namespace BrainV2.Json

section Text

def hexDigit (n : Nat) : Char := if n < 10 then Char.ofNat (48 + n) else Char.ofNat (87 + n)

def hex4 (u : Nat) : List Char :=
  [hexDigit (u / 4096 % 16), hexDigit (u / 256 % 16), hexDigit (u / 16 % 16), hexDigit (u % 16)]

def unitText (u : Nat) : List Char := '\\' :: 'u' :: hex4 u

def highHalf (n : Nat) : Nat := 0xD800 + (n - 0x10000) / 0x400

def lowHalf (n : Nat) : Nat := 0xDC00 + (n - 0x10000) % 0x400

def charText (c : Char) : List Char :=
  if c = '"' then ['\\', '"']
  else if c = '\\' then ['\\', '\\']
  else if c = '\n' then ['\\', 'n']
  else if c = '\r' then ['\\', 'r']
  else if c = '\t' then ['\\', 't']
  else if c = '\x0c' then ['\\', 'f']
  else if c = '\x08' then ['\\', 'b']
  else if 0x20 ≤ c.toNat ∧ c.toNat ≤ 0x7e then [c]
  else if c.toNat < 0x10000 then unitText c.toNat
  else unitText (highHalf c.toNat) ++ unitText (lowHalf c.toNat)

def strText (s : String) : List Char := '"' :: (s.toList.flatMap charText ++ ['"'])

end Text

mutual

def textOf : Json → List Char
  | .null => ['n', 'u', 'l', 'l']
  | .bool true => ['t', 'r', 'u', 'e']
  | .bool false => ['f', 'a', 'l', 's', 'e']
  | .int n => intText n
  | .real x => realText x
  | .str s => strText s
  | .arr items => '[' :: (itemsText [] items ++ [']'])
  | .obj members => '{' :: (membersText [] members ++ ['}'])

/-- The texts of items, `sep` before the first. -/
def itemsText (sep : List Char) : List Json → List Char
  | [] => []
  | j :: rest => sep ++ textOf j ++ itemsText [',', ' '] rest

def membersText (sep : List Char) : List (String × Json) → List Char
  | [] => []
  | (key, j) :: rest =>
    sep ++ strText key ++ [':', ' '] ++ textOf j ++ membersText [',', ' '] rest

end

def dumps (j : Json) : String := String.ofList (textOf j)

theorem dumps_obj_ne_empty (members : List (String × Json)) : dumps (.obj members) ≠ "" := by
  intro h
  have hlist : (dumps (.obj members)).toList = [] := by
    rw [h]
    rfl
  cases members with
  | nil => simp [dumps, textOf] at hlist
  | cons member rest => simp [dumps, textOf] at hlist

section ReadText

variable {d : Dialect} {stack : List Frame} {isKey : Bool}

theorem hexValue_hexDigit : ∀ n < 16, hexValue (hexDigit n) = some n := by
  decide

theorem parse_hexDigit {t : Text} {count value n : Nat} {rest : List Char} (hn : n < 16)
    (hlex : t.lex = .hex count value) :
    parse d ⟨stack, .text isKey t⟩ (hexDigit n :: rest) =
      parse d ⟨stack, .text isKey (if count = 3 then t.codeUnit (value * 16 + n)
        else ⟨t.rev, t.high, .hex (count + 1) (value * 16 + n)⟩)⟩ rest := by
  rw [parse]
  simp only [step, Text.step, hlex, hexValue_hexDigit n hn]
  by_cases h : count = 3 <;> simp [h]

theorem parse_unitText {rev : List Char} {high : Option Nat} {u : Nat} {rest : List Char}
    (hu : u < 0x10000) :
    parse d ⟨stack, .text isKey ⟨rev, high, .plain⟩⟩ (unitText u ++ rest) =
      parse d ⟨stack, .text isKey (Text.codeUnit ⟨rev, high, .plain⟩ u)⟩ rest := by
  have hvalue : (((0 * 16 + u / 4096 % 16) * 16 + u / 256 % 16) * 16 + u / 16 % 16) * 16 +
      u % 16 = u := by omega
  have hopen : parse d ⟨stack, .text isKey ⟨rev, high, .plain⟩⟩ (unitText u ++ rest) =
      parse d ⟨stack, .text isKey ⟨rev, high, .hex 0 0⟩⟩ (hex4 u ++ rest) := by
    simp [unitText, parse, step, Text.step]
  rw [hopen]
  simp only [hex4, List.cons_append, List.nil_append]
  rw [parse_hexDigit (Nat.mod_lt _ (by omega)) rfl, if_neg (by omega),
    parse_hexDigit (Nat.mod_lt _ (by omega)) rfl, if_neg (by omega),
    parse_hexDigit (Nat.mod_lt _ (by omega)) rfl, if_neg (by omega),
    parse_hexDigit (Nat.mod_lt _ (by omega)) rfl, if_pos rfl, hvalue]
  rfl

theorem char_valid (c : Char) : c.toNat < 0xD800 ∨ 0xDFFF < c.toNat ∧ c.toNat < 0x110000 :=
  c.valid

theorem codeUnit_char {rev : List Char} {c : Char} (h : c.toNat < 0x10000) :
    Text.codeUnit ⟨rev, none, .plain⟩ c.toNat = ⟨c :: rev, none, .plain⟩ := by
  have hc := char_valid c
  have hhigh : isHigh c.toNat = false := by simp [isHigh]; omega
  have hlow : isLow c.toNat = false := by simp [isLow]; omega
  simp [Text.codeUnit, Text.loneUnit, hhigh, hlow]

theorem isHigh_highHalf {n : Nat} (h : 0x10000 ≤ n) (h' : n < 0x110000) :
    isHigh (highHalf n) = true := by
  have hrange : 0xD800 ≤ highHalf n ∧ highHalf n < 0xDC00 := by
    unfold highHalf
    omega
  simp [isHigh, hrange]

theorem isLow_lowHalf (n : Nat) : isLow (lowHalf n) = true := by
  have hrange : 0xDC00 ≤ lowHalf n ∧ lowHalf n < 0xE000 := by
    unfold lowHalf
    omega
  simp [isLow, hrange]

theorem joinPair_halves {n : Nat} (h : 0x10000 ≤ n) :
    joinPair (highHalf n) (lowHalf n) = Char.ofNat n := by
  have hsum : 0x10000 + (highHalf n - 0xD800) * 0x400 + (lowHalf n - 0xDC00) = n := by
    unfold highHalf lowHalf
    omega
  rw [joinPair, hsum]

theorem codeUnit_high {rev : List Char} {u : Nat} (h : isHigh u = true) :
    Text.codeUnit ⟨rev, none, .plain⟩ u = ⟨rev, some u, .plain⟩ := by
  simp [Text.codeUnit, Text.loneUnit, h]

theorem codeUnit_low {rev : List Char} {high u : Nat} (h : isLow u = true) :
    Text.codeUnit ⟨rev, some high, .plain⟩ u = ⟨joinPair high u :: rev, none, .plain⟩ := by
  simp [Text.codeUnit, h]

theorem parse_charText {rev : List Char} {c : Char} {rest : List Char} :
    parse d ⟨stack, .text isKey ⟨rev, none, .plain⟩⟩ (charText c ++ rest) =
      parse d ⟨stack, .text isKey ⟨c :: rev, none, .plain⟩⟩ rest := by
  unfold charText
  split
  · subst c
    simp [parse, step, Text.step, unescape, Text.push, Text.flushed]
  split
  · subst c
    simp [parse, step, Text.step, unescape, Text.push, Text.flushed]
  split
  · subst c
    simp [parse, step, Text.step, unescape, Text.push, Text.flushed]
  split
  · subst c
    simp [parse, step, Text.step, unescape, Text.push, Text.flushed]
  split
  · subst c
    simp [parse, step, Text.step, unescape, Text.push, Text.flushed]
  split
  · subst c
    simp [parse, step, Text.step, unescape, Text.push, Text.flushed]
  split
  · subst c
    simp [parse, step, Text.step, unescape, Text.push, Text.flushed]
  split
  · rename_i hquote hslash _ _ _ _ _ hascii
    have hctrl : ¬ c.toNat < 0x20 := by omega
    simp [parse, step, Text.step, Text.push, Text.flushed, hquote, hslash, hctrl]
  split
  · rename_i hsmall
    rw [parse_unitText hsmall, codeUnit_char hsmall]
  · rename_i hbig
    have hc : 0x10000 ≤ c.toNat ∧ c.toNat < 0x110000 := by
      have := char_valid c
      omega
    have hhigh : highHalf c.toNat < 0x10000 := by
      unfold highHalf
      omega
    have hlow : lowHalf c.toNat < 0x10000 := by
      unfold lowHalf
      omega
    rw [List.append_assoc, parse_unitText hhigh, codeUnit_high (isHigh_highHalf hc.1 hc.2),
      parse_unitText hlow, codeUnit_low (isLow_lowHalf _), joinPair_halves hc.1,
      Char.ofNat_toNat]

theorem parse_chars {cs rev rest : List Char} :
    parse d ⟨stack, .text isKey ⟨rev, none, .plain⟩⟩ (cs.flatMap charText ++ '"' :: rest) =
      parse d (endText stack isKey (String.ofList (rev.reverse ++ cs))) rest := by
  induction cs generalizing rev with
  | nil => simp [parse, step, Text.step, Text.flushed]
  | cons c cs ih =>
    rw [List.flatMap_cons, List.append_assoc, parse_charText, ih]
    simp

theorem parse_strText_open {s : String} {rest : List Char} :
    parse d ⟨stack, .text isKey .start⟩ (s.toList.flatMap charText ++ '"' :: rest) =
      parse d (endText stack isKey s) rest := by
  rw [Text.start, parse_chars]
  simp

end ReadText

section RoundTrip

variable {d : Dialect}

/-- What may follow a value without being taken for a part of it. -/
def Ends (stack : List Frame) : List Char → Prop
  | [] => stack = []
  | c :: _ => isTokenChar c = false

theorem step_deliver (stack : List Frame) (v : Json) (c : Char) :
    step d (deliver stack v) c = afterValue (deliver stack v) c := by
  cases stack with
  | nil => rfl
  | cons f rest => cases f <;> rfl

theorem parse_token {stack : List Frame} {text rev rest : List Char} {v : Json}
    (htext : ∀ c ∈ text, isTokenChar c = true)
    (hread : readToken d (rev.reverse ++ text) = .ok v) (hends : Ends stack rest) :
    parse d ⟨stack, .token rev⟩ (text ++ rest) = parse d (deliver stack v) rest := by
  induction text generalizing rev with
  | nil =>
    rw [List.append_nil] at hread
    cases rest with
    | nil =>
      obtain rfl : stack = [] := hends
      simp [parse, finish, hread, deliver]
    | cons c cs =>
      have hc : isTokenChar c = false := hends
      simp only [List.nil_append, parse, step_deliver]
      simp [step, hc, hread]
  | cons c cs ih =>
    have hc := htext c List.mem_cons_self
    have hcs : ∀ x ∈ cs, isTokenChar x = true := fun x hx => htext x (List.mem_cons_of_mem _ hx)
    have hread' : readToken d ((c :: rev).reverse ++ cs) = .ok v := by simpa using hread
    rw [← ih hcs hread']
    simp [parse, step, hc]

theorem startValue_token {stack : List Frame} {c : Char} (h : isTokenChar c = true) :
    startValue d stack c = .ok ⟨stack, .token [c]⟩ := by
  have hne : ∀ x : Char, isTokenChar x = false → c ≠ x := by
    rintro x hx rfl
    rw [h] at hx
    cases hx
  unfold startValue
  rw [if_neg (hne _ (by decide)), if_neg (hne _ (by decide)), if_neg (hne _ (by decide)),
    if_pos h]

theorem isWhite_token {c : Char} (h : isTokenChar c = true) : isWhite c = false := by
  by_contra hw
  simp only [isWhite, Bool.not_eq_false, Bool.or_eq_true, beq_iff_eq] at hw
  rcases hw with ((rfl | rfl) | rfl) | rfl <;> exact absurd h (by decide)

theorem parse_value_token {stack : List Frame} {text rest : List Char} {v : Json}
    (htext : ∀ c ∈ text, isTokenChar c = true) (hread : readToken d text = .ok v)
    (hends : Ends stack rest) :
    parse d ⟨stack, .value⟩ (text ++ rest) = parse d (deliver stack v) rest := by
  cases text with
  | nil => simp [readToken, scanNumber, scanMagnitude, isWhole] at hread
  | cons c cs =>
    have hc := htext c List.mem_cons_self
    have hcs : ∀ x ∈ cs, isTokenChar x = true := fun x hx => htext x (List.mem_cons_of_mem _ hx)
    have hread' : readToken d ([c].reverse ++ cs) = .ok v := by simpa using hread
    rw [← parse_token hcs hread' hends]
    simp [parse, step, isWhite_token hc, startValue_token hc]

/-- The first character of a value is neither white nor a closing bracket. -/
theorem head_textOf (j : Json) (hj : j.WF d) :
    ∃ c cs, textOf j = c :: cs ∧ isWhite c = false ∧ c ≠ ']' := by
  have htoken : ∀ text : List Char, text ≠ [] → (∀ c ∈ text, isTokenChar c = true) →
      ∃ c cs, text = c :: cs ∧ isWhite c = false ∧ c ≠ ']' := by
    intro text hne htext
    obtain ⟨c, cs, rfl⟩ := List.exists_cons_of_ne_nil hne
    have hc := htext c List.mem_cons_self
    refine ⟨c, cs, rfl, isWhite_token hc, ?_⟩
    rintro rfl
    exact absurd hc (by decide)
  have hread : ∀ {text : List Char} {v : Json}, readToken d text = .ok v → text ≠ [] := by
    rintro text v h rfl
    simp [readToken, scanNumber, scanMagnitude, isWhole] at h
  cases j with
  | null => exact ⟨'n', _, rfl, rfl, by decide⟩
  | bool b => cases b <;> exact ⟨_, _, rfl, rfl, by decide⟩
  | int n => exact htoken _ (hread (readToken_intText hj)) (isTokenChar_intText n)
  | real x => exact htoken _ (hread (readToken_realText hj)) (isTokenChar_realText x)
  | str s => exact ⟨'"', _, rfl, rfl, by decide⟩
  | arr items => exact ⟨'[', _, rfl, rfl, by decide⟩
  | obj members => exact ⟨'{', _, rfl, rfl, by decide⟩

theorem parse_firstItem {stack : List Frame} {j : Json} {rest : List Char} (hj : j.WF d) :
    parse d ⟨stack, .firstItem⟩ (textOf j ++ rest) = parse d ⟨stack, .value⟩ (textOf j ++ rest) := by
  obtain ⟨c, cs, htext, hwhite, hclose⟩ := head_textOf j hj
  simp [htext, parse, step, hwhite, hclose]

theorem parse_key {sofar : List (String × Json)} {key0 key : String} {stack : List Frame}
    {rest : List Char} {mode : Mode} (hmode : mode = .firstKey ∨ mode = .nextKey) :
    parse d ⟨.members sofar key0 :: stack, mode⟩ (strText key ++ [':', ' '] ++ rest) =
      parse d ⟨.members sofar key :: stack, .value⟩ rest := by
  have hquote : parse d ⟨.members sofar key0 :: stack, mode⟩ (strText key ++ [':', ' '] ++ rest) =
      parse d ⟨.members sofar key0 :: stack, .text true .start⟩
        (key.toList.flatMap charText ++ '"' :: ([':', ' '] ++ rest)) := by
    rcases hmode with rfl | rfl <;> simp [strText, parse, step, startKey, isWhite]
  rw [hquote, parse_strText_open]
  simp [endText, parse, step, isWhite]

theorem not_mem_keys_of_nodup {sofar rest : List (String × Json)} {key : String} {j : Json}
    (h : (Dict.keys (sofar ++ (key, j) :: rest)).Nodup) : key ∉ Dict.keys sofar := by
  intro hmem
  simp only [Dict.keys, List.map_append, List.map_cons] at h hmem
  exact (List.nodup_append.mp h).2.2 key hmem key List.mem_cons_self rfl

theorem ends_items (stack : List Frame) (items : List Json) (rest : List Char) :
    Ends stack (itemsText [',', ' '] items ++ ']' :: rest) := by
  cases items <;> rfl

theorem ends_members (stack : List Frame) (members : List (String × Json)) (rest : List Char) :
    Ends stack (membersText [',', ' '] members ++ '}' :: rest) := by
  cases members <;> rfl

mutual

/-- Reading the text of a value hands that value to the innermost container. -/
theorem parse_textOf (j : Json) (stack : List Frame) (rest : List Char) (hj : j.WF d)
    (hdepth : d.fits (j.depth + stack.length) = true) (hends : Ends stack rest) :
    parse d ⟨stack, .value⟩ (textOf j ++ rest) = parse d (deliver stack j) rest := by
  cases j with
  | null => exact parse_value_token (List.all_eq_true.mp (by decide)) rfl hends
  | bool b => cases b <;> exact parse_value_token (List.all_eq_true.mp (by decide)) rfl hends
  | int n => exact parse_value_token (isTokenChar_intText n) (readToken_intText hj) hends
  | real x => exact parse_value_token (isTokenChar_realText x) (readToken_realText hj) hends
  | str s =>
    have hquote : parse d ⟨stack, .value⟩ (textOf (.str s) ++ rest) =
        parse d ⟨stack, .text false .start⟩ (s.toList.flatMap charText ++ '"' :: rest) := by
      simp [textOf, strText, parse, step, startValue, isWhite]
    rw [hquote, parse_strText_open]
    rfl
  | arr items =>
    have hfits : d.fits (stack.length + 1) = true := fits_mono hdepth (by rw [depth]; omega)
    have hopen : parse d ⟨stack, .value⟩ (textOf (.arr items) ++ rest) =
        parse d ⟨.items [] :: stack, .firstItem⟩ (itemsText [] items ++ ']' :: rest) := by
      simp [textOf, parse, step, startValue, isWhite, enter, hfits]
    have hwf : ∀ v ∈ items, v.WF d := wfItems_iff.mp hj
    rw [hopen]
    cases items with
    | nil => simp [itemsText, parse, step, isWhite]
    | cons v items =>
      have hv : d.fits (v.depth + (stack.length + 1)) = true :=
        fits_mono hdepth (by simp [depth, depthItems]; omega)
      have hitems : d.fits (depthItems items + (stack.length + 1)) = true :=
        fits_mono hdepth (by simp [depth, depthItems]; omega)
      rw [itemsText, List.nil_append, List.append_assoc, parse_firstItem hj.1,
        parse_textOf v (.items [] :: stack) _ hj.1 hv (ends_items _ _ _)]
      exact parse_items items [v] stack rest hj.2 hitems
  | obj members =>
    have hfits : d.fits (stack.length + 1) = true := fits_mono hdepth (by rw [depth]; omega)
    have hopen : parse d ⟨stack, .value⟩ (textOf (.obj members) ++ rest) =
        parse d ⟨.members [] "" :: stack, .firstKey⟩ (membersText [] members ++ '}' :: rest) := by
      simp [textOf, parse, step, startValue, isWhite, enter, hfits]
    rw [hopen]
    cases members with
    | nil => simp [membersText, parse, step, isWhite]
    | cons kv members =>
      obtain ⟨key, v⟩ := kv
      have hv : d.fits (v.depth + (stack.length + 1)) = true :=
        fits_mono hdepth (by simp [depth, depthMembers]; omega)
      have hmembers : d.fits (depthMembers members + (stack.length + 1)) = true :=
        fits_mono hdepth (by simp [depth, depthMembers]; omega)
      rw [membersText, List.nil_append, List.append_assoc, List.append_assoc,
        parse_key (Or.inl rfl), parse_textOf v (.members [] key :: stack) _ hj.2.1 hv (ends_members _ _ _)]
      exact parse_members members [(key, v)] key stack rest hj.1 hj.2.2 hmembers

theorem parse_items (items rev : List Json) (stack : List Frame) (rest : List Char)
    (hitems : WFItems d items)
    (hdepth : d.fits (depthItems items + (stack.length + 1)) = true) :
    parse d ⟨.items rev :: stack, .next⟩ (itemsText [',', ' '] items ++ ']' :: rest) =
      parse d (deliver stack (.arr (rev.reverse ++ items))) rest := by
  cases items with
  | nil => simp [itemsText, parse, step, afterValue, isWhite]
  | cons v items =>
    have hv : d.fits (v.depth + (stack.length + 1)) = true :=
      fits_mono hdepth (by simp [depthItems])
    have hrest : d.fits (depthItems items + (stack.length + 1)) = true :=
      fits_mono hdepth (by simp [depthItems])
    have hcomma : parse d ⟨.items rev :: stack, .next⟩
        (itemsText [',', ' '] (v :: items) ++ ']' :: rest) =
        parse d ⟨.items rev :: stack, .value⟩
          (textOf v ++ (itemsText [',', ' '] items ++ ']' :: rest)) := by
      simp [itemsText, parse, step, afterValue, isWhite]
    rw [hcomma, parse_textOf v (.items rev :: stack) _ hitems.1 hv (ends_items _ _ _)]
    have hnext := parse_items items (v :: rev) stack rest hitems.2 hrest
    simpa [deliver] using hnext

theorem parse_members (members sofar : List (String × Json)) (key0 : String)
    (stack : List Frame) (rest : List Char)
    (hkeys : (Dict.keys (sofar ++ members)).Nodup) (hmembers : WFMembers d members)
    (hdepth : d.fits (depthMembers members + (stack.length + 1)) = true) :
    parse d ⟨.members sofar key0 :: stack, .next⟩ (membersText [',', ' '] members ++ '}' :: rest) =
      parse d (deliver stack (.obj (sofar ++ members))) rest := by
  cases members with
  | nil => simp [membersText, parse, step, afterValue, isWhite]
  | cons kv members =>
    obtain ⟨key, v⟩ := kv
    have hv : d.fits (v.depth + (stack.length + 1)) = true :=
      fits_mono hdepth (by simp [depthMembers])
    have hrest : d.fits (depthMembers members + (stack.length + 1)) = true :=
      fits_mono hdepth (by simp [depthMembers])
    have hcomma : parse d ⟨.members sofar key0 :: stack, .next⟩
        (membersText [',', ' '] ((key, v) :: members) ++ '}' :: rest) =
        parse d ⟨.members sofar key0 :: stack, .nextKey⟩
          (strText key ++ [':', ' '] ++
            (textOf v ++ (membersText [',', ' '] members ++ '}' :: rest))) := by
      simp [membersText, parse, step, afterValue, isWhite]
    rw [hcomma, parse_key (Or.inr rfl), parse_textOf v (.members sofar key :: stack) _ hmembers.1 hv (ends_members _ _ _)]
    have hset : Dict.set sofar key v = sofar ++ [(key, v)] :=
      Dict.set_append sofar v (not_mem_keys_of_nodup hkeys)
    have hkeys' : (Dict.keys ((sofar ++ [(key, v)]) ++ members)).Nodup := by simpa using hkeys
    have hnext := parse_members members _ key stack rest hkeys' hmembers.2 hrest
    simpa [deliver, hset] using hnext

end

/-- A well-formed value reads back from its text. -/
theorem loads_dumps {j : Json} (hj : j.WF d) (hdepth : d.fits j.depth = true) :
    loads d (dumps j) = .ok j := by
  have h := parse_textOf j [] [] hj (by simpa using hdepth) rfl
  rw [List.append_nil] at h
  rw [loads, dumps, String.toList_ofList, h]
  rfl

end RoundTrip

section Ascii

def AsciiText (text : List Char) : Prop := ∀ c ∈ text, c.toNat < 128

theorem ascii_append {s t : List Char} : AsciiText (s ++ t) ↔ AsciiText s ∧ AsciiText t :=
  List.forall_mem_append

theorem ascii_cons {c : Char} {t : List Char} :
    AsciiText (c :: t) ↔ c.toNat < 128 ∧ AsciiText t := List.forall_mem_cons

/-- What stands between items, and what opens and ends them. -/
theorem ascii_marks {text : List Char} (h : text.all (fun c => decide (c.toNat < 128)) = true) :
    AsciiText text := by
  simpa [AsciiText] using h

theorem ascii_of_isTokenChar {text : List Char} (h : ∀ c ∈ text, isTokenChar c = true) :
    AsciiText text := by
  intro c hc
  have htoken := h c hc
  have hval : c.toNat = c.val.toNat := rfl
  simp only [isTokenChar, Char.isAlphanum, Char.isAlpha, Char.isUpper, Char.isLower, Char.isDigit,
    Bool.or_eq_true, Bool.and_eq_true, decide_eq_true_eq, beq_iff_eq, UInt32.le_iff_toNat_le,
    ge_iff_le] at htoken
  rcases htoken with (((hc | hc) | rfl) | rfl) | rfl
  · have hmost : c.val.toNat ≤ 122 := by
      rcases hc with hc | hc
      · exact hc.2.trans (by decide)
      · exact hc.2
    omega
  · have hmost : c.val.toNat ≤ 57 := hc.2
    omega
  · decide
  · decide
  · decide

theorem ascii_hexDigit {n : Nat} (h : n < 16) : (hexDigit n).toNat < 128 := by
  have hall : ∀ n < 16, (hexDigit n).toNat < 128 := by decide
  exact hall n h

theorem ascii_unitText (u : Nat) : AsciiText (unitText u) := by
  have hdigit : ∀ n, (hexDigit (n % 16)).toNat < 128 :=
    fun n => ascii_hexDigit (Nat.mod_lt n (by decide))
  simp only [unitText, hex4, ascii_cons]
  exact ⟨by decide, by decide, hdigit _, hdigit _, hdigit _, hdigit _, by simp [AsciiText]⟩

theorem ascii_charText (c : Char) : AsciiText (charText c) := by
  have hescape : ∀ e : Char, e.toNat < 128 → AsciiText ['\\', e] := by
    intro e he
    exact ascii_cons.mpr ⟨by decide, ascii_cons.mpr ⟨he, by simp [AsciiText]⟩⟩
  unfold charText
  split_ifs with _ _ _ _ _ _ _ hplain
  · exact hescape _ (by decide)
  · exact hescape _ (by decide)
  · exact hescape _ (by decide)
  · exact hescape _ (by decide)
  · exact hescape _ (by decide)
  · exact hescape _ (by decide)
  · exact hescape _ (by decide)
  · exact ascii_cons.mpr ⟨by omega, by simp [AsciiText]⟩
  · exact ascii_unitText _
  · exact ascii_append.mpr ⟨ascii_unitText _, ascii_unitText _⟩

theorem ascii_strText (s : String) : AsciiText (strText s) := by
  have hchars : AsciiText (s.toList.flatMap charText) := by
    intro c hc
    obtain ⟨x, -, hx⟩ := List.mem_flatMap.mp hc
    exact ascii_charText x c hx
  exact ascii_cons.mpr ⟨by decide, ascii_append.mpr ⟨hchars, ascii_marks rfl⟩⟩

mutual

theorem ascii_textOf (j : Json) : AsciiText (textOf j) := by
  cases j with
  | null => exact ascii_marks rfl
  | bool b => cases b <;> exact ascii_marks rfl
  | int n => exact ascii_of_isTokenChar (isTokenChar_intText n)
  | real x => exact ascii_of_isTokenChar (isTokenChar_realText x)
  | str s => exact ascii_strText s
  | arr items =>
    have hnone : AsciiText [] := ascii_marks rfl
    have hitems := ascii_itemsText hnone items
    exact ascii_cons.mpr ⟨by decide, ascii_append.mpr ⟨hitems, ascii_marks rfl⟩⟩
  | obj members =>
    have hnone : AsciiText [] := ascii_marks rfl
    have hmembers := ascii_membersText hnone members
    exact ascii_cons.mpr ⟨by decide, ascii_append.mpr ⟨hmembers, ascii_marks rfl⟩⟩

theorem ascii_itemsText {sep : List Char} (hsep : AsciiText sep) (items : List Json) :
    AsciiText (itemsText sep items) := by
  cases items with
  | nil => exact ascii_marks rfl
  | cons v items =>
    have hcomma : AsciiText [',', ' '] := ascii_marks rfl
    have hrest := ascii_itemsText hcomma items
    exact ascii_append.mpr ⟨ascii_append.mpr ⟨hsep, ascii_textOf v⟩, hrest⟩

theorem ascii_membersText {sep : List Char} (hsep : AsciiText sep)
    (members : List (String × Json)) : AsciiText (membersText sep members) := by
  cases members with
  | nil => exact ascii_marks rfl
  | cons kv members =>
    obtain ⟨key, v⟩ := kv
    have hcomma : AsciiText [',', ' '] := ascii_marks rfl
    have hrest := ascii_membersText hcomma members
    have hkey := ascii_append.mpr ⟨hsep, ascii_strText key⟩
    have hcolon : AsciiText (sep ++ strText key ++ [':', ' ']) :=
      ascii_append.mpr ⟨hkey, ascii_marks rfl⟩
    exact ascii_append.mpr ⟨ascii_append.mpr ⟨hcolon, ascii_textOf v⟩, hrest⟩

end

/-- The text of a value is in ASCII. -/
theorem dumps_ascii (j : Json) : ∀ c ∈ (dumps j).toList, c.toNat < 128 := by
  rw [dumps, String.toList_ofList]
  exact ascii_textOf j

end Ascii

end BrainV2.Json
