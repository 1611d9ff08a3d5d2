import BrainV2.Lib.Json.Reader

/-!
# Texts between single quotes

A quote inside is doubled, or stands behind a backslash. A backslash may also begin an escape.

* `Escapes`: what a backslash and a character stand for;
* `scan`: the value of a text behind its opening quote, and what follows the closing one;
* `doubled`: every quote of a value doubled, and nothing else;
* `scan_cost`: a value takes at least as many characters as it has when doubled;
* `scan_doubled`, `harmless_of_scan`: a doubled value is read back exactly when every backslash in
  it stands for itself.
-/

namespace BrainV2.QuotedText

/-- `decode` gives what a backslash and the character stand for, and nothing where the backslash
stands for itself. An `x` begins a byte of two hexadecimal digits. -/
structure Escapes where
  decode : Char → Option (List Char)
  quote : decode '\'' = some ['\'']
  backslash : decode '\\' = some ['\\']
  short : ∀ c out, decode c = some out → out.length ≤ 1

def hexByte (high low : Char) : Option Char := do
  let h ← Json.hexValue high
  let l ← Json.hexValue low
  return Char.ofNat (16 * h + l)

/-- Where the reader stands: behind a quote, a backslash, an `x`, or the first digit of a byte. -/
inductive Mode where
  | inside
  | quote
  | backslash
  | hex
  | digit (high : Char)

abbrev Scanned := Option (List Char × List Char)

def put (out : List Char) (s : Scanned) : Scanned := s.map fun (value, rest) => (out ++ value, rest)

section

variable (e : Escapes)

def scan : Mode → List Char → Scanned
  | .quote, [] => some ([], [])
  | _, [] => none
  | .inside, c :: cs =>
    if c = '\'' then scan .quote cs
    else if c = '\\' then scan .backslash cs
    else put [c] (scan .inside cs)
  | .quote, c :: cs => if c = '\'' then put ['\''] (scan .inside cs) else some ([], c :: cs)
  | .backslash, c :: cs =>
    if c = 'x' then scan .hex cs else put ((e.decode c).getD ['\\', c]) (scan .inside cs)
  | .hex, c :: cs => scan (.digit c) cs
  | .digit high, c :: cs => (hexByte high c).bind fun byte => put [byte] (scan .inside cs)

def doubledChar (c : Char) : List Char := if c = '\'' then ['\'', '\''] else [c]

def doubled (value : List Char) : List Char := value.flatMap doubledChar

/-- Every backslash is followed by a character that leaves it alone. -/
def Harmless : List Char → Prop
  | [] => True
  | c :: cs => (c = '\\' → ∃ d ∈ cs.head?, d ≠ 'x' ∧ e.decode d = none) ∧ Harmless cs

instance decidableUnescaped (next : Option Char) :
    Decidable (∃ d ∈ next, d ≠ 'x' ∧ e.decode d = none) :=
  match next with
  | none => .isFalse (by simp)
  | some d => decidable_of_iff (d ≠ 'x' ∧ e.decode d = none) (by simp)

instance decidableHarmless : (value : List Char) → Decidable (Harmless e value)
  | [] => .isTrue trivial
  | c :: cs =>
    have := decidableHarmless cs
    have := decidableUnescaped e cs.head?
    inferInstanceAs (Decidable ((c = '\\' → ∃ d ∈ cs.head?, d ≠ 'x' ∧ e.decode d = none) ∧
      Harmless e cs))

end

variable {e : Escapes} {value rest tail : List Char}

@[simp] theorem doubled_nil : doubled [] = [] := rfl

@[simp] theorem doubled_cons (c : Char) (cs : List Char) :
    doubled (c :: cs) = doubledChar c ++ doubled cs := rfl

theorem doubled_append (v w : List Char) : doubled (v ++ w) = doubled v ++ doubled w :=
  List.flatMap_append

theorem doubledChar_of_ne {c : Char} (h : c ≠ '\'') : doubledChar c = [c] := if_neg h

theorem length_doubledChar_le (c : Char) : (doubledChar c).length ≤ 2 := by
  unfold doubledChar
  split <;> simp

theorem put_eq_some {out : List Char} {s : Scanned} :
    put out s = some (value, rest) ↔ ∃ v, s = some (v, rest) ∧ out ++ v = value := by
  cases s with
  | none => simp [put]
  | some r =>
    obtain ⟨v, r⟩ := r
    simp only [put, Option.map_some, Option.some.injEq, Prod.mk.injEq]
    constructor
    · rintro ⟨h, rfl⟩
      exact ⟨v, ⟨rfl, rfl⟩, h⟩
    · rintro ⟨v', ⟨rfl, rfl⟩, h⟩
      exact ⟨h, rfl⟩

/-! ### What a value takes -/

/-- The characters of the closing quote that are not yet read. -/
def Mode.closing : Mode → Nat
  | .inside | .hex => 1
  | .quote | .backslash | .digit _ => 0

/-- What stands for a character takes no more than two of them. -/
theorem length_doubled_decode (c : Char) :
    (doubled ((e.decode c).getD ['\\', c])).length ≤ 2 := by
  cases hdecode : e.decode c with
  | none =>
    have hc : c ≠ '\'' := by
      rintro rfl
      rw [e.quote] at hdecode
      cases hdecode
    have hback : '\\' ≠ '\'' := by decide
    simp [doubledChar_of_ne hc, doubledChar_of_ne hback]
  | some out =>
    have hshort := e.short c out hdecode
    cases out with
    | nil => simp
    | cons o more =>
      have hmore : more = [] := List.eq_nil_of_length_eq_zero (by simpa using hshort)
      rw [hmore]
      simpa using length_doubledChar_le o

theorem scan_inside_cons (c : Char) (cs : List Char) :
    scan e .inside (c :: cs) =
      if c = '\'' then scan e .quote cs
      else if c = '\\' then scan e .backslash cs else put [c] (scan e .inside cs) := rfl

theorem scan_quote_cons (c : Char) (cs : List Char) :
    scan e .quote (c :: cs) =
      if c = '\'' then put ['\''] (scan e .inside cs) else some ([], c :: cs) := rfl

theorem scan_backslash_cons (c : Char) (cs : List Char) :
    scan e .backslash (c :: cs) =
      if c = 'x' then scan e .hex cs
      else put ((e.decode c).getD ['\\', c]) (scan e .inside cs) := rfl

theorem scan_digit_cons (high c : Char) (cs : List Char) :
    scan e (.digit high) (c :: cs) =
      (hexByte high c).bind fun byte => put [byte] (scan e .inside cs) := rfl

theorem scan_nil {mode : Mode} (h : scan e mode [] = some (value, rest)) :
    mode = .quote ∧ value = [] ∧ rest = [] := by
  cases mode with
  | quote =>
    cases h
    exact ⟨rfl, rfl, rfl⟩
  | inside | backslash | hex | digit _ => cases h

/-- What one character adds to the value, and in which mode it leaves the reader. -/
structure Step (mode mode' : Mode) (c : Char) (out : List Char) : Prop where
  quote : mode' = .quote → c = '\''
  cost : (doubled out).length + mode.closing ≤ 1 + mode'.closing

/-- The value ends in front of the character, or goes on behind it. -/
theorem scan_cons {mode : Mode} {c : Char} {cs : List Char}
    (h : scan e mode (c :: cs) = some (value, rest)) :
    (mode = .quote ∧ value = [] ∧ rest = c :: cs) ∨
      ∃ mode' out v, Step mode mode' c out ∧ scan e mode' cs = some (v, rest) ∧
        out ++ v = value := by
  cases mode with
  | inside =>
    rw [scan_inside_cons] at h
    right
    split_ifs at h with hquote hback
    · exact ⟨.quote, [], value, ⟨fun _ => hquote, by simp [Mode.closing]⟩, h, rfl⟩
    · exact ⟨.backslash, [], value, ⟨nofun, by simp [Mode.closing]⟩, h, rfl⟩
    · obtain ⟨v, hv, heq⟩ := put_eq_some.mp h
      exact ⟨.inside, [c], v, ⟨nofun, by simp [Mode.closing, doubledChar_of_ne hquote]⟩, hv, heq⟩
  | quote =>
    rw [scan_quote_cons] at h
    split_ifs at h with hquote
    · obtain ⟨v, hv, heq⟩ := put_eq_some.mp h
      exact Or.inr ⟨.inside, ['\''], v,
        ⟨nofun, by simpa [Mode.closing] using length_doubledChar_le '\''⟩, hv, heq⟩
    · cases h
      exact Or.inl ⟨rfl, rfl, rfl⟩
  | backslash =>
    rw [scan_backslash_cons] at h
    right
    split_ifs at h with hx
    · exact ⟨.hex, [], value, ⟨nofun, by simp [Mode.closing]⟩, h, rfl⟩
    · obtain ⟨v, hv, heq⟩ := put_eq_some.mp h
      exact ⟨.inside, _, v, ⟨nofun, length_doubled_decode c⟩, hv, heq⟩
  | hex =>
    exact Or.inr ⟨.digit c, [], value, ⟨nofun, by simp [Mode.closing]⟩, h, rfl⟩
  | digit high =>
    rw [scan_digit_cons] at h
    obtain ⟨byte, -, h⟩ := Option.bind_eq_some_iff.mp h
    obtain ⟨v, hv, heq⟩ := put_eq_some.mp h
    exact Or.inr ⟨.inside, [byte], v,
      ⟨nofun, by simpa [Mode.closing] using length_doubledChar_le byte⟩, hv, heq⟩

theorem scan_cost {mode : Mode} {input : List Char} (h : scan e mode input = some (value, rest)) :
    (doubled value).length + rest.length + mode.closing ≤ input.length := by
  induction input generalizing mode value with
  | nil =>
    obtain ⟨rfl, rfl, rfl⟩ := scan_nil h
    simp [Mode.closing]
  | cons c cs ih =>
    rw [List.length_cons]
    obtain ⟨rfl, rfl, rfl⟩ | ⟨mode', out, v, hstep, hv, rfl⟩ := scan_cons h
    · simp [Mode.closing]
    · have hrest := ih hv
      have hcost := hstep.cost
      rw [doubled_append, List.length_append]
      omega

/-- What follows a value stands behind a quote. -/
theorem scan_closing {mode : Mode} {input : List Char} (h : scan e mode input = some (value, rest)) :
    ∃ front, mode = .quote ∧ input = rest ∨ input = front ++ '\'' :: rest := by
  induction input generalizing mode value with
  | nil =>
    obtain ⟨hmode, -, hrest⟩ := scan_nil h
    exact ⟨[], Or.inl ⟨hmode, hrest.symm⟩⟩
  | cons c cs ih =>
    obtain ⟨hmode, -, hrest⟩ | ⟨mode', out, v, hstep, hv, -⟩ := scan_cons h
    · exact ⟨[], Or.inl ⟨hmode, hrest.symm⟩⟩
    · obtain ⟨front, ⟨hquote, heq⟩ | hfront⟩ := ih hv
      · exact ⟨[], Or.inr (by rw [heq, hstep.quote hquote]; rfl)⟩
      · exact ⟨c :: front, Or.inr (by rw [hfront]; rfl)⟩

/-! ### Doubled values -/

theorem scan_inside {c : Char} (hquote : c ≠ '\'') (hback : c ≠ '\\') (cs : List Char) :
    scan e .inside (c :: cs) = put [c] (scan e .inside cs) := by
  rw [scan_inside_cons, if_neg hquote, if_neg hback]

theorem scan_quote_quote (cs : List Char) :
    scan e .inside ('\'' :: '\'' :: cs) = put ['\''] (scan e .inside cs) := by
  rw [scan_inside_cons, if_pos rfl, scan_quote_cons, if_pos rfl]

theorem scan_backslash (cs : List Char) : scan e .inside ('\\' :: cs) = scan e .backslash cs := by
  have hback : ¬ '\\' = '\'' := by decide
  rw [scan_inside_cons, if_neg hback, if_pos rfl]

theorem scan_end (h : tail.head? ≠ some '\'') : scan e .inside ('\'' :: tail) = some ([], tail) := by
  rw [scan_inside_cons, if_pos rfl]
  cases tail with
  | nil => rfl
  | cons d tail =>
    have hd : d ≠ '\'' := fun heq => h (by rw [heq]; rfl)
    rw [scan_quote_cons, if_neg hd]

/-- A backslash that stands for itself, and what is behind it. -/
theorem scan_literal {d : Char} (hx : d ≠ 'x') (hdecode : e.decode d = none) (cs : List Char) :
    scan e .inside ('\\' :: d :: cs) = put ['\\'] (scan e .inside (d :: cs)) := by
  have hquote : d ≠ '\'' := by
    rintro rfl
    rw [e.quote] at hdecode
    cases hdecode
  have hback : d ≠ '\\' := by
    rintro rfl
    rw [e.backslash] at hdecode
    cases hdecode
  rw [scan_backslash, scan_inside hquote hback, scan_backslash_cons, if_neg hx, hdecode]
  cases scan e .inside cs <;> rfl

theorem doubled_head {c : Char} (cs : List Char) : ∃ more, doubled (c :: cs) = c :: more := by
  unfold doubled
  by_cases h : c = '\''
  · exact ⟨_, by rw [List.flatMap_cons, doubledChar, if_pos h, h]; rfl⟩
  · exact ⟨_, by rw [List.flatMap_cons, doubledChar, if_neg h]; rfl⟩

theorem scan_doubled {w : List Char} (hw : Harmless e w) (htail : tail.head? ≠ some '\'') :
    scan e .inside (doubled w ++ '\'' :: tail) = some (w, tail) := by
  induction w with
  | nil => exact scan_end htail
  | cons c cs ih =>
    have hrest := ih hw.2
    by_cases hquote : c = '\''
    · subst hquote
      change scan e .inside ('\'' :: '\'' :: (doubled cs ++ '\'' :: tail)) = _
      rw [scan_quote_quote, hrest]
      rfl
    by_cases hback : c = '\\'
    · obtain ⟨d, hd, hx, hdecode⟩ := hw.1 hback
      cases cs with
      | nil => cases hd
      | cons d' cs =>
        cases hd
        obtain ⟨more, hmore⟩ := doubled_head (c := d) cs
        rw [hmore, List.cons_append] at hrest
        rw [doubled_cons, doubledChar_of_ne hquote, hmore, hback, List.singleton_append,
          List.cons_append, List.cons_append, scan_literal hx hdecode, hrest]
        rfl
    · rw [doubled_cons, doubledChar_of_ne hquote, List.singleton_append, List.cons_append,
        scan_inside hquote hback, hrest]
      rfl

/-- An escape would take more characters than its value has when doubled. -/
theorem harmless_of_scan {w : List Char}
    (h : scan e .inside (doubled w ++ '\'' :: tail) = some (w, tail)) : Harmless e w := by
  induction w with
  | nil => trivial
  | cons c cs ih =>
    by_cases hquote : c = '\''
    · subst hquote
      change scan e .inside ('\'' :: '\'' :: (doubled cs ++ '\'' :: tail)) = _ at h
      rw [scan_quote_quote] at h
      obtain ⟨v, hv, hcons⟩ := put_eq_some.mp h
      cases hcons
      exact ⟨fun hback => absurd hback (by decide), ih hv⟩
    by_cases hback : c = '\\'
    · subst hback
      rw [doubled_cons, doubledChar_of_ne hquote, List.singleton_append, List.cons_append] at h
      cases cs with
      | nil =>
        rw [doubled_nil, List.nil_append, scan_backslash, scan_backslash_cons, if_neg (by decide),
          e.quote] at h
        obtain ⟨v, -, hcons⟩ := put_eq_some.mp h
        cases hcons
      | cons d cs =>
        obtain ⟨more, hmore⟩ := doubled_head (c := d) cs
        have hlength := congrArg List.length hmore
        rw [hmore, List.cons_append] at h
        have hscan := h
        rw [scan_backslash, scan_backslash_cons] at hscan
        have hx : d ≠ 'x' := by
          intro hx
          rw [if_pos hx] at hscan
          have hcost := scan_cost hscan
          rw [doubled_cons, hmore, doubledChar_of_ne hquote] at hcost
          simp only [Mode.closing, List.length_append, List.length_cons, List.length_nil] at hcost
          omega
        rw [if_neg hx] at hscan
        have hdecode : e.decode d = none := by
          cases hdecode : e.decode d with
          | none => rfl
          | some out =>
            rw [hdecode] at hscan
            obtain ⟨v, hv, hcons⟩ := put_eq_some.mp hscan
            have hcost := scan_cost hv
            have hshort := e.short d out hdecode
            simp only [Mode.closing, List.length_append, List.length_cons] at hcost
            cases out with
            | nil =>
              rw [show v = '\\' :: d :: cs from hcons, doubled_cons, hmore,
                doubledChar_of_ne hquote] at hcost
              simp only [List.length_append, List.length_cons, List.length_nil] at hcost
              omega
            | cons o out =>
              have hnil : out = [] := List.eq_nil_of_length_eq_zero (by simpa using hshort)
              rw [hnil] at hcons
              have hv : v = d :: cs := (List.cons.inj hcons).2
              rw [hv, hmore] at hcost
              simp only [List.length_cons] at hcost
              omega
        refine ⟨fun _ => ⟨d, rfl, hx, hdecode⟩, ih ?_⟩
        rw [scan_literal hx hdecode] at h
        obtain ⟨v, hv, hcons⟩ := put_eq_some.mp h
        cases hcons
        rw [hmore]
        exact hv
    · rw [doubled_cons, doubledChar_of_ne hquote, List.singleton_append, List.cons_append,
        scan_inside hquote hback] at h
      obtain ⟨v, hv, hcons⟩ := put_eq_some.mp h
      cases hcons
      exact ⟨fun h => absurd h hback, ih hv⟩

/-- What follows a value of that many characters cannot begin earlier, and not later where no
other quote is near. -/
theorem rest_eq_of_scan {w : List Char} {m : Nat}
    (h : scan e .inside (doubled w ++ '\'' :: tail) = some (w, rest))
    (hlength : tail.length ≤ rest.length + m) (hfree : '\'' ∉ tail.take m) : rest = tail := by
  have hcost := scan_cost h
  simp only [Mode.closing, List.length_append, List.length_cons] at hcost
  obtain ⟨front, ⟨hquote, -⟩ | hfront⟩ := scan_closing h
  · cases hquote
  have hrest : '\'' :: rest <:+ doubled w ++ '\'' :: tail := ⟨front, hfront.symm⟩
  have htail : '\'' :: tail <:+ doubled w ++ '\'' :: tail := List.suffix_append _ _
  have hwithin : '\'' :: rest <:+ '\'' :: tail :=
    List.suffix_of_suffix_length_le hrest htail (by simp only [List.length_cons]; omega)
  obtain ⟨front, hfront⟩ := hwithin
  cases front with
  | nil => exact (List.cons.inj hfront).2
  | cons c front =>
    have hsplit : front ++ '\'' :: rest = tail := (List.cons.inj hfront).2
    have hshort : front.length < m := by
      have hlengths := congrArg List.length hsplit
      rw [List.length_append, List.length_cons] at hlengths
      omega
    refine absurd ?_ hfree
    rw [← hsplit, List.take_append, List.mem_append]
    right
    obtain ⟨k, hk⟩ := Nat.exists_eq_succ_of_ne_zero (Nat.sub_ne_zero_of_lt hshort)
    rw [hk, List.take_succ_cons]
    exact List.mem_cons_self

end BrainV2.QuotedText
