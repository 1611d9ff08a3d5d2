import BrainV2.ClickHouse.Query
import BrainV2.Lib.Lexemes

/-!
# References by their lexemes

* `referenceLength`: how many lexemes a reference has that the gateway finds;
* `head?_reference`: it is where the match of the expression ends.
-/

namespace BrainV2.ClickHouse

open Js (isSpace)
open Lexemes Regex

/-! ### Characters -/

theorem toNat_toLower (c : Char) : c.toLower.toNat =
    if 65 ≤ c.toNat ∧ c.toNat ≤ 90 then c.toNat + 32 else c.toNat := by
  unfold Char.toLower
  split
  · next h =>
    have hbounds : 65 ≤ c.toNat ∧ c.toNat ≤ 90 := h
    have hsmall : c.toNat + 32 < 2 ^ 32 := by omega
    rw [if_pos hbounds]
    exact Nat.mod_eq_of_lt hsmall
  · next h =>
    have hbounds : ¬ (65 ≤ c.toNat ∧ c.toNat ≤ 90) := h
    rw [if_neg hbounds]

theorem isWord_iff (c : Char) : isWord c = true ↔ (65 ≤ c.toNat ∧ c.toNat ≤ 90) ∨
    (97 ≤ c.toNat ∧ c.toNat ≤ 122) ∨ (48 ≤ c.toNat ∧ c.toNat ≤ 57) ∨ c.toNat = 95 := by
  have hline : c = '_' ↔ c.toNat = 95 :=
    ⟨fun h => h ▸ rfl, fun h => Char.ext (UInt32.toNat_inj.mp h)⟩
  simp only [isWord, Char.isAlphanum, Char.isAlpha, Char.isUpper, Char.isLower, Char.isDigit,
    Bool.or_eq_true, Bool.and_eq_true, decide_eq_true_eq, beq_iff_eq, hline, Char.toNat,
    UInt32.le_iff_toNat_le, ge_iff_le, UInt32.reduceToNat, Char.reduceVal]
  tauto

theorem isWord_toLower (c : Char) : isWord c.toLower = isWord c := by
  rw [Bool.eq_iff_iff, isWord_iff, isWord_iff, toNat_toLower]
  split <;> omega

theorem isSpace_of_isWord {c : Char} (h : isWord c = true) : isSpace c = false := by
  rw [isWord_iff] at h
  rw [← Bool.not_eq_true]
  intro hspace
  simp only [isSpace, Bool.or_eq_true, Bool.and_eq_true, decide_eq_true_eq, beq_iff_eq] at hspace
  omega

theorem isWord_of_isSpace {c : Char} (h : isSpace c = true) : isWord c = false := by
  by_contra hword
  rw [isSpace_of_isWord (by simpa using hword)] at h
  cases h

theorem isWord_of_sameLetter {l c : Char} (hl : isWord l = true) (h : sameLetter l c = true) :
    isWord c = true := by
  rw [← isWord_toLower, eq_of_beq h, isWord_toLower]
  exact hl

/-- The words that the expression compares with. -/
theorem isWord_of_mem {ws : List String} (hws : ∀ w ∈ ws, ∀ l ∈ w.toList, isWord l = true) :
    ∀ w ∈ ws, ∀ l ∈ w.toList, ∀ c, sameLetter l c = true → isWord c = true :=
  fun w hw l hl _ h => isWord_of_sameLetter (hws w hw l hl) h

def classes : Classes := ⟨isWord, isSpace, fun _ => isSpace_of_isWord⟩

/-! ### Lexemes -/

def isTable (t : List Char) : Bool := isOneOf sameLetter factTables t

def isBrain (t : List Char) : Bool := equalText sameLetter "brain".toList t

/-- What is behind the full stop at the start of a text, if there is one. -/
def behindDot : List Lexeme → Option (List Lexeme)
  | .mark c :: ls => if c = '.' then some ls else none
  | _ => none

/-- The name of a fact table, with its database or without. -/
def tableLength : List Lexeme → Option Nat
  | .word t :: ls =>
    if isBrain t then
      (behindDot ls).bind fun rest => if isTable (leadingWord rest).1 then some 3 else none
    else if isTable t then some 1
    else none
  | _ => none

/-- A word that can be an alias. -/
def isAlias (v : List Char) : Bool :=
  !isOneOf sameLetter ("AS" :: postTableKeywords) v && v.head?.any isNameStart

def isAs (w : List Char) : Bool := equalText sameLetter "AS".toList w

/-- A word behind a gap that is taken for an alias. -/
def takenWord : List Lexeme → Bool
  | .gap _ :: .word w :: _ => isAlias w
  | _ => false

def aliasLength : List Lexeme → Nat
  | .gap _ :: .word w :: ls =>
    if isAs w then
      if takenWord ls then 4 else 0
    else if isAlias w then 2 else 0
  | _ => 0

def isIntro (w : List Char) : Bool := isOneOf sameLetter ["FROM", "JOIN"] w

def referenceLength : List Lexeme → Option Nat
  | .word w :: .gap _ :: ls =>
    if isIntro w then (tableLength ls).map fun n => 2 + n + aliasLength (ls.drop n) else none
  | _ => none

/-! ### Patterns -/

section

variable {ls : List Lexeme} (h : Lexical classes ls)
include h

/-- One of some words, at the start of a text. -/
theorem head?_oneOf {ws : List String} (hws : ∀ w ∈ ws, ∀ l ∈ w.toList, isWord l = true)
    {f : List Char → List (List Char)} (hf : ∀ c cs, isWord c = true → f (c :: cs) = []) :
    ((rests (oneOf sameLetter ws) (render ls)).flatMap f).head? =
      if isOneOf sameLetter ws (leadingWord ls).1 then (f (render (leadingWord ls).2)).head?
      else none := by
  rw [render_leadingWord ls]
  exact flatMap_oneOf (k := classes) (isWord_of_mem hws) (leadingWord_word h)
    (headOut_leadingWord h) hf

/-- A word at the start of a text, and nothing but the word. -/
theorem head?_wholeWord {ws : List String} (hws : ∀ w ∈ ws, ∀ l ∈ w.toList, isWord l = true)
    (f : List Char → List (List Char)) :
    ((rests (chain [oneOf sameLetter ws, wordEnd isWord]) (render ls)).flatMap f).head? =
      if isOneOf sameLetter ws (leadingWord ls).1 then (f (render (leadingWord ls).2)).head?
      else none := by
  have hf : ∀ c cs, isWord c = true →
      (rests (chain [wordEnd isWord]) (c :: cs)).flatMap f = [] := by
    intro c cs hc
    rw [chain, List.foldr_cons, List.foldr_nil, rests_seq_empty, rests_wordEnd_word hc]
    rfl
  have hrest : rests (chain [wordEnd isWord]) (render (leadingWord ls).2) =
      [render (leadingWord ls).2] := by
    rw [chain, List.foldr_cons, List.foldr_nil, rests_seq_empty]
    exact rests_wordEnd (headOut_leadingWord h)
  have hhead : ((rests (oneOf sameLetter ws) (render ls)).flatMap fun x =>
      (rests (chain [wordEnd isWord]) x).flatMap f).head? = _ := head?_oneOf h hws hf
  rw [hrest, List.flatMap_singleton] at hhead
  rw [← hhead, chain, List.foldr_cons, rests, List.flatMap_assoc]
  rfl

end

/-- The last part of `aliasPattern`. -/
def namePattern : Pattern :=
  chain [.notAhead (chain [oneOf sameLetter ("AS" :: postTableKeywords), wordEnd isWord]),
    .one isNameStart, .many isWord]

theorem isWord_of_isNameStart {c : Char} (h : isNameStart c = true) : isWord c = true := by
  simp only [isNameStart, isWord, Char.isAlphanum, Bool.or_eq_true] at h ⊢
  tauto

theorem rests_namePattern_space {c : Char} (h : isSpace c = true) (cs : List Char) :
    rests namePattern (c :: cs) = [] := by
  have hname : isNameStart c = false := by
    by_contra hname
    have hword := isWord_of_isNameStart (by simpa using hname)
    rw [isWord_of_isSpace h] at hword
    cases hword
  rw [namePattern, chain, List.foldr_cons, rests, rests]
  split
  · rw [List.flatMap_singleton, List.foldr_cons, rests, rests, hname]
    rfl
  · rfl

theorem isWord_keywords : ∀ w ∈ "AS" :: postTableKeywords, ∀ l ∈ w.toList, isWord l = true := by
  have hall : (("AS" :: postTableKeywords).all fun w => w.toList.all isWord) = true := by
    decide
  simpa only [List.all_eq_true] using hall

theorem head?_namePattern {ls : List Lexeme} (h : Lexical classes ls) :
    (rests namePattern (render ls)).head? =
      if isAlias (leadingWord ls).1 then some (render (leadingWord ls).2) else none := by
  have hkeyword := head?_wholeWord h isWord_keywords fun x => [x]
  rw [List.flatMap_singleton'] at hkeyword
  have hword := leadingWord_word h
  have hout := headOut_leadingWord h
  have htext := render_leadingWord ls
  rw [namePattern, chain, List.foldr_cons, rests, rests, isAlias]
  generalize hv : (leadingWord ls).1 = v at *
  generalize hr : render (leadingWord ls).2 = rest at *
  by_cases hone : isOneOf sameLetter ("AS" :: postTableKeywords) v = true
  · rw [if_pos hone, List.head?_cons] at hkeyword
    have hne : rests (chain [oneOf sameLetter ("AS" :: postTableKeywords), wordEnd isWord])
        (render ls) ≠ [] := by
      intro hnil
      rw [hnil] at hkeyword
      cases hkeyword
    rw [if_neg hne, hone]
    rfl
  · rw [if_neg hone, List.head?_eq_none_iff] at hkeyword
    rw [if_pos hkeyword, List.flatMap_singleton, htext, Bool.not_eq_true _ |>.mp hone]
    cases v with
    | nil =>
      have hstart : rests (.one isNameStart) rest = [] := by
        cases rest with
        | nil => rfl
        | cons c cs =>
          have hc : isNameStart c = false := by
            by_contra hname
            have hword := isWord_of_isNameStart (by simpa using hname)
            rw [show isWord c = false from hout c cs rfl] at hword
            cases hword
          rw [rests, hc]
          rfl
      rw [List.nil_append, List.foldr_cons, rests, hstart]
      rfl
    | cons c v =>
      obtain ⟨others, hothers, -⟩ :=
        manyRests_append (fun d hd => hword d (List.mem_cons_of_mem _ hd)) hout
      rw [List.cons_append, List.foldr_cons, rests, rests]
      by_cases hc : isNameStart c = true
      · rw [if_pos hc, List.flatMap_singleton, List.foldr_cons, List.foldr_nil, rests_seq_empty,
          rests]
        simp only [classes] at hothers
        rw [hothers]
        simp [hc]
      · rw [if_neg hc]
        simp [hc]

theorem isWord_as : ∀ l ∈ "AS".toList, isWord l = true := List.all_eq_true.mp (by decide)

/-- What is tried for an alias behind a gap, in its order: with `AS` and without. -/
def aliasRests (x : List Char) : List (List Char) :=
  ((rests (keyword sameLetter "AS") x).flatMap fun y =>
    (rests (plus isSpace) y).flatMap (rests namePattern)) ++ rests namePattern x

theorem rests_aliasPattern_eq (cs : List Char) :
    rests aliasPattern cs = (rests (plus isSpace) cs).flatMap aliasRests ++ [cs] := by
  have hbehind : ∀ x, rests (.seq (opt (chain [keyword sameLetter "AS", plus isSpace]))
      namePattern) x = aliasRests x := by
    intro x
    rw [rests, rests_opt, List.flatMap_append, List.flatMap_singleton, aliasRests]
    congr 1
    rw [chain, List.foldr_cons, rests, List.flatMap_assoc]
    congr 1
    funext y
    rw [List.foldr_cons, List.foldr_nil, rests_seq_empty]
  rw [aliasPattern, rests_opt, chain, List.foldr_cons, rests]
  congr 2
  funext x
  exact hbehind x

/-- No word of the expression begins with another character. -/
theorem startsWith_out {l : Char} (hl : isWord l = true) (w : List Char) {c : Char}
    (hc : isWord c = false) (cs : List Char) :
    startsWith sameLetter (l :: w) (c :: cs) = none := by
  rw [startsWith, if_neg]
  intro hsame
  rw [isWord_of_sameLetter hl hsame] at hc
  cases hc

theorem rests_keyword_out {w : String} (hw : ∀ l ∈ w.toList, isWord l = true) (hne : w ≠ "")
    {c : Char} (hc : isWord c = false) (cs : List Char) :
    rests (keyword sameLetter w) (c :: cs) = [] := by
  rw [rests_keyword]
  cases htext : w.toList with
  | nil => exact absurd (String.toList_eq_nil_iff.mp htext) hne
  | cons l ls =>
    rw [startsWith_out (hw l (htext ▸ List.mem_cons_self)) ls hc]
    rfl

theorem rests_oneOf_out {ws : List String} (hws : ∀ w ∈ ws, ∀ l ∈ w.toList, isWord l = true)
    (hne : ∀ w ∈ ws, w ≠ "") {c : Char} (hc : isWord c = false) (cs : List Char) :
    rests (oneOf sameLetter ws) (c :: cs) = [] := by
  rw [rests_oneOf, List.flatMap_eq_nil_iff]
  intro w hw
  exact rests_keyword_out (hws w hw) (hne w hw) hc cs

theorem aliasRests_space (c : Char) (cs : List Char) (hc : isSpace c = true) :
    aliasRests (c :: cs) = [] := by
  rw [aliasRests, rests_keyword_out isWord_as (by decide) (isWord_of_isSpace hc),
    rests_namePattern_space hc]
  rfl

theorem gap_namePattern {ls : List Lexeme} (h : Lexical classes ls) :
    ((rests (plus isSpace) (render ls)).flatMap (rests namePattern)).head? =
      (behindGap ls).bind fun ls =>
        if isAlias (leadingWord ls).1 then some (render (leadingWord ls).2) else none := by
  have hgap : (rests (plus isSpace) (render ls)).flatMap (rests namePattern) = _ :=
    flatMap_gap h fun c cs hc => rests_namePattern_space hc cs
  rw [hgap]
  cases ls with
  | nil => rfl
  | cons l ls =>
    cases l with
    | word w => rfl
    | gap g => exact head?_namePattern h.tail
    | mark c => rfl

theorem head?_aliasRests {ls : List Lexeme} (h : Lexical classes ls)
    (hrest : Lexical classes (leadingWord ls).2) : (aliasRests (render ls)).head? =
      if isAs (leadingWord ls).1 then
        (behindGap (leadingWord ls).2).bind fun rest =>
          if isAlias (leadingWord rest).1 then some (render (leadingWord rest).2) else none
      else if isAlias (leadingWord ls).1 then some (render (leadingWord ls).2) else none := by
  have hword : ∀ c cs, isWord c = true →
      (rests (plus isSpace) (c :: cs)).flatMap (rests namePattern) = [] := by
    intro c cs hc
    rw [rests_plus_out (headOut_cons (isSpace_of_isWord hc))]
    rfl
  have hkeyword : (rests (keyword sameLetter "AS") (render ls)).flatMap (fun y =>
      (rests (plus isSpace) y).flatMap (rests namePattern)) =
        if isAs (leadingWord ls).1 then
          (rests (plus isSpace) (render (leadingWord ls).2)).flatMap (rests namePattern)
        else [] := by
    rw [render_leadingWord ls]
    exact flatMap_keyword (fun l hl c hc => isWord_of_sameLetter (isWord_as l hl) hc)
      (leadingWord_word h) (headOut_leadingWord h) hword
  rw [aliasRests, List.head?_append, hkeyword, head?_namePattern h]
  by_cases has : isAs (leadingWord ls).1 = true
  · have hone : isAlias (leadingWord ls).1 = false := by
      rw [isAlias, isOneOf, List.any_cons, ← isAs, has]
      rfl
    rw [if_pos has, if_pos has, gap_namePattern hrest, hone]
    simp
  · rw [if_neg has, if_neg has]
    simp

theorem lexical_leadingWord {ls : List Lexeme} (h : Lexical classes ls) :
    Lexical classes (leadingWord ls).2 := by
  unfold leadingWord
  split
  · exact h.tail
  · exact h

theorem head?_aliasPattern {ls : List Lexeme} (h : Lexical classes ls) :
    (rests aliasPattern (render ls)).head? = some (render (ls.drop (aliasLength ls))) := by
  have hgap : (rests (plus isSpace) (render ls)).flatMap aliasRests =
      ((behindGap ls).map fun ls => aliasRests (render ls)).getD [] :=
    flatMap_gap h aliasRests_space
  rw [rests_aliasPattern_eq, hgap, List.head?_append]
  cases ls with
  | nil => rfl
  | cons l ls =>
    cases l with
    | word w => rfl
    | mark c => rfl
    | gap g =>
      have halias : (((behindGap (.gap g :: ls)).map fun ls => aliasRests (render ls)).getD
          []).head? = _ := head?_aliasRests h.tail (lexical_leadingWord h.tail)
      rw [halias]
      cases ls with
      | nil => rfl
      | cons l ls =>
        cases l with
        | gap g' => rfl
        | mark c => rfl
        | word w =>
          by_cases has : isAs w = true
          · cases ls with
            | nil => simp [leadingWord, behindGap, aliasLength, takenWord, has]
            | cons l ls =>
              cases l with
              | word v => simp [leadingWord, behindGap, aliasLength, takenWord, has]
              | mark c => simp [leadingWord, behindGap, aliasLength, takenWord, has]
              | gap g' =>
                cases ls with
                | nil => simp [leadingWord, behindGap, aliasLength, takenWord, has, isAlias]
                | cons l ls =>
                  cases l with
                  | gap g'' => simp [leadingWord, behindGap, aliasLength, takenWord, has, isAlias]
                  | mark c => simp [leadingWord, behindGap, aliasLength, takenWord, has, isAlias]
                  | word v =>
                    cases hv : isAlias v <;> simp [leadingWord, behindGap, aliasLength, takenWord, has, hv]
          · cases hw : isAlias w <;> simp [leadingWord, aliasLength, has, hw]

/-! ### Tables -/

def tablePattern : Pattern :=
  chain [opt (keyword sameLetter "brain."), oneOf sameLetter factTables, wordEnd isWord]

theorem isWord_tables : ∀ w ∈ factTables, ∀ l ∈ w.toList, isWord l = true := by
  have hall : (factTables.all fun w => w.toList.all isWord) = true := by decide
  simpa only [List.all_eq_true] using hall

theorem isWord_brain : ∀ l ∈ "brain".toList, isWord l = true :=
  List.all_eq_true.mp (by decide)

/-- No table is called like the database. -/
theorem isTable_of_isBrain {t : List Char} (h : isBrain t = true) : isTable t = false := by
  have hlength : ∀ w ∈ factTables, w.toList.length ≠ 5 := by decide
  have ht : t.length = 5 := length_of_equalText h
  rw [isTable, isOneOf, List.any_eq_false]
  intro w hw htable
  exact hlength w hw ((length_of_equalText htable).symm.trans ht)

theorem sameLetter_dot {c : Char} : sameLetter '.' c = true ↔ c = '.' := by
  rw [sameLetter, beq_iff_eq]
  constructor
  · intro h
    have hnat : c.toLower.toNat = 46 := by rw [h]; rfl
    rw [toNat_toLower] at hnat
    apply Char.ext
    apply UInt32.toNat_inj.mp
    change c.toNat = 46
    split at hnat
    · omega
    · exact hnat
  · rintro rfl
    rfl

/-- `brain.` at the start of a text. -/
theorem startsWith_brain {ls : List Lexeme} (h : Lexical classes ls) :
    startsWith sameLetter "brain.".toList (render ls) =
      if isBrain (leadingWord ls).1 then startsWith sameLetter ['.'] (render (leadingWord ls).2)
      else none := by
  have hdot : ∀ c, classes.word c = true → sameLetter '.' c = false := by
    intro c hc
    by_contra hsame
    have hc' : c = '.' := sameLetter_dot.mp (by simpa using hsame)
    rw [hc'] at hc
    exact absurd hc (by decide)
  rw [render_leadingWord ls]
  exact startsWith_concat (k := classes) (w := "brain".toList) (m := '.')
    (fun l hl c hc => isWord_of_sameLetter (isWord_brain l hl) hc) hdot (leadingWord_word h)
    (headOut_leadingWord h)

theorem startsWith_dot {ls : List Lexeme} (h : Lexical classes ls) :
    startsWith sameLetter ['.'] (render ls) = (behindDot ls).map render := by
  have hfirst : ∀ c cs, c ≠ '.' → startsWith sameLetter ['.'] (c :: cs) = none := by
    intro c cs hc
    rw [startsWith, if_neg fun hsame => hc (sameLetter_dot.mp hsame)]
  cases ls with
  | nil => rfl
  | cons l ls =>
    obtain ⟨c, cs, htext, hc⟩ := exists_head h.head
    rw [render_cons, htext, List.cons_append]
    cases l with
    | word w =>
      apply hfirst
      rintro rfl
      have hdot : isWord '.' = true := hc
      exact absurd hdot (by decide)
    | gap g =>
      apply hfirst
      rintro rfl
      have hdot : isSpace '.' = true := hc
      exact absurd hdot (by decide)
    | mark d =>
      obtain ⟨rfl, rfl⟩ := List.cons.inj htext
      by_cases hdot : d = '.'
      · subst hdot
        rfl
      · rw [hfirst d _ hdot, behindDot, if_neg hdot]
        rfl

/-- The table without its database. -/
def namedTable : Pattern := chain [oneOf sameLetter factTables, wordEnd isWord]

theorem rests_tablePattern {ls : List Lexeme} (h : Lexical classes ls)
    (f : List Char → List (List Char)) : ((rests tablePattern (render ls)).flatMap f).head? =
      (((if isBrain (leadingWord ls).1 then
          startsWith sameLetter ['.'] (render (leadingWord ls).2)
        else none).toList.flatMap fun y => (rests namedTable y).flatMap f).head?).or
      (if isTable (leadingWord ls).1 then (f (render (leadingWord ls).2)).head? else none) := by
  rw [tablePattern, chain, List.foldr_cons, rests, rests_opt, List.flatMap_append,
    List.flatMap_singleton, List.flatMap_append, List.flatMap_assoc, rests_keyword,
    startsWith_brain h, List.head?_append]
  congr 1
  exact head?_wholeWord h isWord_tables f

theorem isTable_nil : isTable [] = false := by decide

theorem isBrain_nil : isBrain [] = false := by decide

theorem head?_namedTable {ls : List Lexeme} (h : Lexical classes ls)
    (f : List Char → List (List Char)) : ((rests namedTable (render ls)).flatMap f).head? =
      if isTable (leadingWord ls).1 then (f (render (leadingWord ls).2)).head? else none :=
  head?_wholeWord h isWord_tables f

theorem head?_tablePattern {ls : List Lexeme} (h : Lexical classes ls)
    (f : List Char → List (List Char)) : ((rests tablePattern (render ls)).flatMap f).head? =
      (tableLength ls).bind fun n => (f (render (ls.drop n))).head? := by
  rw [rests_tablePattern h f]
  cases ls with
  | nil => simp [leadingWord, isTable_nil, isBrain_nil, tableLength]
  | cons l ls =>
    cases l with
    | gap g => simp [leadingWord, isTable_nil, isBrain_nil, tableLength]
    | mark c => simp [leadingWord, isTable_nil, isBrain_nil, tableLength]
    | word t =>
      rw [tableLength]
      by_cases hbrain : isBrain t = true
      · have htable : isTable t = false := isTable_of_isBrain hbrain
        simp only [leadingWord, hbrain, htable, if_true, Bool.false_eq_true, if_false,
          Option.or_none, startsWith_dot h.tail]
        cases ls with
        | nil => rfl
        | cons l ls =>
          cases l with
          | word w => rfl
          | gap g => rfl
          | mark c =>
            by_cases hdot : c = '.'
            · have hnamed := head?_namedTable h.tail.tail f
              simp only [behindDot, hdot, if_true, Option.map_some, Option.toList_some,
                List.flatMap_singleton, hnamed, Option.bind_some]
              cases ls with
              | nil => rfl
              | cons l ls =>
                cases l with
                | word u =>
                  by_cases hu : isTable u = true <;> simp [leadingWord, hu]
                | gap g => simp [leadingWord, isTable_nil]
                | mark c => simp [leadingWord, isTable_nil]
            · simp [behindDot, hdot]
      · cases htable : isTable t <;> simp [leadingWord, hbrain, htable]

/-! ### References -/

theorem isWord_intros : ∀ w ∈ ["FROM", "JOIN"], ∀ l ∈ w.toList, isWord l = true := by
  have hall : (["FROM", "JOIN"].all fun w => w.toList.all isWord) = true := by decide
  simpa only [List.all_eq_true] using hall

/-- No table begins with a blank. -/
theorem rests_tablePattern_space (f : List Char → List (List Char)) {c : Char}
    (hc : isSpace c = true) (cs : List Char) :
    (rests tablePattern (c :: cs)).flatMap f = [] := by
  have htables : ∀ w ∈ factTables, w ≠ "" := by decide
  have hbrain : rests (keyword sameLetter "brain.") (c :: cs) = [] := by
    rw [rests_keyword]
    exact congrArg Option.toList (startsWith_out (by decide) _ (isWord_of_isSpace hc) cs)
  have hnamed : rests (oneOf sameLetter factTables) (c :: cs) = [] :=
    rests_oneOf_out isWord_tables htables (isWord_of_isSpace hc) cs
  rw [tablePattern, chain, List.foldr_cons, rests, rests_opt, hbrain, List.nil_append,
    List.flatMap_singleton, List.foldr_cons, rests, hnamed]
  rfl

/-- What a match leaves is what is behind the reference. -/
theorem head?_reference {ls : List Lexeme} (h : Lexical classes ls) :
    (rests (.seq referenceRule.lead (.seq referenceRule.body referenceRule.tail))
      (render ls)).head? = (referenceLength ls).map fun n => render (ls.drop n) := by
  have hbehind : ∀ x, rests (.seq referenceRule.body referenceRule.tail) x =
      (rests (plus isSpace) x).flatMap fun y =>
        (rests tablePattern y).flatMap (rests aliasPattern) := by
    intro x
    rw [rests]
    exact List.flatMap_assoc
  have hword : ∀ c cs, isWord c = true →
      rests (.seq referenceRule.body referenceRule.tail) (c :: cs) = [] := by
    intro c cs hc
    rw [hbehind, rests_plus_out (headOut_cons (isSpace_of_isWord hc))]
    rfl
  have hlead : (rests (.seq referenceRule.lead (.seq referenceRule.body referenceRule.tail))
      (render ls)).head? = _ := head?_oneOf h isWord_intros hword
  have hgap : rests (.seq referenceRule.body referenceRule.tail) (render (leadingWord ls).2) =
      ((behindGap (leadingWord ls).2).map fun rest =>
        (rests tablePattern (render rest)).flatMap (rests aliasPattern)).getD [] := by
    rw [hbehind]
    exact flatMap_gap (lexical_leadingWord h) fun c cs hc => rests_tablePattern_space _ hc cs
  rw [hlead, hgap]
  cases ls with
  | nil => rfl
  | cons l ls =>
    cases l with
    | gap g => rfl
    | mark c => rfl
    | word w =>
      cases ls with
      | nil => exact ite_self _
      | cons l ls =>
        cases l with
        | word v => exact ite_self _
        | mark c => exact ite_self _
        | gap g =>
          have htable := @head?_tablePattern ls h.tail.tail (rests aliasPattern)
          simp only [leadingWord, behindGap, Option.map_some, Option.getD_some, htable]
          rw [referenceLength, isIntro]
          split
          · cases tableLength ls with
            | none => rfl
            | some n =>
              rw [Option.bind_some, Option.map_some, head?_aliasPattern (h.tail.tail.drop n),
                List.drop_drop, Option.map_some, show 2 + n + aliasLength (ls.drop n) =
                  n + aliasLength (ls.drop n) + 1 + 1 by omega]
              rfl
          · rfl

end BrainV2.ClickHouse
