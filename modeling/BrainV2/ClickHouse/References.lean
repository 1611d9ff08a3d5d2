import BrainV2.ClickHouse.Decorate

/-!
# References of fact tables

* `Reference`, `SqlText`: texts given by their references of fact tables and what is between;
* `Reference.Found`: the references that the expression takes as they are meant;
* `gateway_contract`: when the caller's workspace is bound and every reference is read `FINAL`.
-/

namespace BrainV2.ClickHouse

open Js (Value isSpace)
open Lexemes Regex

/-! ### References -/

/-- What a table comes after. -/
inductive Intro where
  | keyword (w g : List Char)
  | comma (g : Option (List Char))

def Intro.lexemes : Intro → List Lexeme
  | keyword w g => [.word w, .gap g]
  | comma g => .mark ',' :: g.toList.map .gap

def Intro.Valid : Intro → Prop
  | keyword w _ => isIntro w = true
  | comma _ => True

def isQuote (c : Char) : Bool := c == '"' || c == '`'

/-- A name behind a gap, and behind `AS`, or between quotes. -/
inductive Alias where
  | bare (g v : List Char)
  | named (g as h v : List Char)
  | quoted (g : List Char) (as : Option (List Char × Option (List Char))) (quote : Char)
    (body : List Lexeme)

def asLexemes : Option (List Char × Option (List Char)) → List Lexeme
  | some (as, g) => .word as :: g.toList.map .gap
  | none => []

def Alias.lexemes : Alias → List Lexeme
  | bare g v => [.gap g, .word v]
  | named g as h v => [.gap g, .word as, .gap h, .word v]
  | quoted g as quote body => .gap g :: asLexemes as ++ .mark quote :: body ++ [.mark quote]

def isName (v : List Char) : Bool := !isAs v && !isFinal v && !isIntro v

def Alias.Valid : Alias → Prop
  | bare _ v => isName v = true
  | named _ as _ v => isAs as = true ∧ isIntro v = false
  | quoted _ as quote body =>
    (∀ a ∈ as, isAs a.1 = true) ∧ isQuote quote = true ∧ Free body ∧ .mark quote ∉ body

structure Reference where
  intro : Intro
  database : Option (List Char)
  table : List Char
  called : Option Alias
  final : Option (List Char × List Char)

namespace Reference

variable (r : Reference)

/-- The name of the table, with its database or without. -/
def name : List Lexeme :=
  match r.database with
  | some b => [.word b, .mark '.', .word r.table]
  | none => [.word r.table]

def aliasLexemes : List Lexeme :=
  match r.called with
  | some a => a.lexemes
  | none => []

def finalOf : Option (List Char × List Char) → List Lexeme
  | some (g, f) => [.gap g, .word f]
  | none => []

def lexemes : List Lexeme := r.intro.lexemes ++ r.name ++ r.aliasLexemes ++ finalOf r.final

structure Valid : Prop where
  intro : r.intro.Valid
  database : ∀ b ∈ r.database, isBrain b = true
  table : isTable r.table = true
  called : ∀ a ∈ r.called, a.Valid
  final : ∀ f ∈ r.final, isFinal f.2 = true

/-- With `FINAL` behind its alias. -/
def finalize : Reference := { r with final := some (r.final.getD ([' '], "FINAL".toList)) }

end Reference

/-- What would still belong to the reference before it. -/
def goesOn : List Lexeme → Bool
  | .word _ :: _ => true
  | .mark c :: _ => isQuote c
  | .gap _ :: .word w :: _ => isAs w || isFinal w
  | .gap _ :: .mark c :: _ => isQuote c
  | _ => false

/-- What is taken for the reference ends where the reference ends, given what is behind it. -/
def Reference.Found (r : Reference) (behind : List Lexeme) : Prop :=
  match r.intro, r.called with
  | .comma _, _ => r.final.isSome = true
  | .keyword _ _, none => r.final.isSome = true ∨ takenWord behind = false
  | .keyword _ _, some (.bare _ v) => isAlias v = true
  | .keyword _ _, some (.named _ _ _ v) => isAlias v = true
  | .keyword _ _, some (.quoted _ _ _ _) => False

/-! ### Texts -/

/-- References, each with what is between it and the next. -/
abbrev References := List (Reference × List Lexeme)

namespace References

def lexemes : References → List Lexeme
  | [] => []
  | (r, behind) :: rest => r.lexemes ++ (behind ++ lexemes rest)

def Valid : References → Prop
  | [] => True
  | (r, behind) :: rest =>
    r.Valid ∧ Free behind ∧ goesOn (behind ++ lexemes rest) = false ∧ Valid rest

def AllFound : References → Prop
  | [] => True
  | (r, behind) :: rest => r.Found (behind ++ lexemes rest) ∧ AllFound rest

def finalize (rs : References) : References := rs.map fun (r, behind) => (r.finalize, behind)

end References

structure SqlText where
  start : List Lexeme
  references : References
  lexical : Lexical classes (start ++ references.lexemes)
  free : Free start
  valid : references.Valid

def SqlText.lexemes (text : SqlText) : List Lexeme := text.start ++ text.references.lexemes

def SqlText.sql (text : SqlText) : List Char := render text.lexemes

/-! ### Words -/

theorem length_of_isAs {v : List Char} (h : isAs v = true) : v.length = 2 :=
  length_of_equalText h

theorem length_of_isFinal {v : List Char} (h : isFinal v = true) : v.length = 5 :=
  length_of_equalText h

theorem length_of_isIntro {v : List Char} (h : isIntro v = true) : v.length = 4 := by
  have hlength : ∀ w ∈ ["FROM", "JOIN"], w.toList.length = 4 := by decide
  obtain ⟨w, hw, heq⟩ := List.any_eq_true.mp h
  rw [length_of_equalText heq, hlength w hw]

theorem isIntro_of_isFinal {v : List Char} (h : isFinal v = true) : isIntro v = false := by
  rw [Bool.eq_false_iff]
  intro hintro
  have hfour := length_of_isIntro hintro
  have hfive := length_of_isFinal h
  omega

theorem isIntro_of_isAs {v : List Char} (h : isAs v = true) : isIntro v = false := by
  rw [Bool.eq_false_iff]
  intro hintro
  have hfour := length_of_isIntro hintro
  have htwo := length_of_isAs h
  omega

theorem isFinal_of_isAs {v : List Char} (h : isAs v = true) : isFinal v = false := by
  rw [Bool.eq_false_iff]
  intro hfinal
  have hfive := length_of_isFinal hfinal
  have htwo := length_of_isAs h
  omega

theorem isAs_of_isFinal {v : List Char} (h : isFinal v = true) : isAs v = false := by
  rw [Bool.eq_false_iff]
  intro has
  have hfive := length_of_isFinal h
  have htwo := length_of_isAs has
  omega

theorem isIntro_of_isBrain {v : List Char} (h : isBrain v = true) : isIntro v = false := by
  rw [Bool.eq_false_iff]
  intro hintro
  have hfour := length_of_isIntro hintro
  have hfive : v.length = 5 := length_of_equalText h
  omega

/-- No table is called like what it comes after. -/
theorem isIntro_of_isTable {v : List Char} (h : isTable v = true) : isIntro v = false := by
  rw [Bool.eq_false_iff]
  intro hintro
  have hlength : ∀ w ∈ factTables, w.toList.length ≠ 4 := by decide
  obtain ⟨w, hw, heq⟩ := List.any_eq_true.mp h
  exact hlength w hw ((length_of_equalText heq).symm.trans (length_of_isIntro hintro))

theorem isAlias_of_isFinal {v : List Char} (h : isFinal v = true) : isAlias v = false := by
  have hone : isOneOf sameLetter ("AS" :: postTableKeywords) v = true :=
    List.any_eq_true.mpr ⟨"FINAL", by decide, h⟩
  rw [isAlias, hone]
  rfl

theorem isFinal_final : isFinal "FINAL".toList = true := by decide

/-! ### One reference -/

theorem decorate_word {v : List Char} (hv : isIntro v = false) (ls : List Lexeme) :
    decorate (.word v :: ls) = .word v :: decorate ls := by
  apply decorate_cons
  unfold referenceLength
  split
  · next w g ls heq =>
    cases heq
    rw [hv]
    rfl
  · rfl

theorem decorate_gap (g : List Char) (ls : List Lexeme) :
    decorate (.gap g :: ls) = .gap g :: decorate ls := decorate_cons rfl

theorem decorate_mark (c : Char) (ls : List Lexeme) :
    decorate (.mark c :: ls) = .mark c :: decorate ls := decorate_cons rfl

theorem finalNext_of_goesOn {more : List Lexeme} (hmore : goesOn more = false) : finalNext more = false := by
  unfold finalNext
  split
  · next g w ls =>
    rw [goesOn, Bool.or_eq_false_iff] at hmore
    exact hmore.2
  · rfl

theorem lexemes_append (r : Reference) (ls : List Lexeme) : r.lexemes ++ ls =
    r.intro.lexemes ++ r.name ++ (r.aliasLexemes ++ (Reference.finalOf r.final ++ ls)) := by
  rw [Reference.lexemes, List.append_assoc, List.append_assoc]

theorem finalize_append (r : Reference) (ls : List Lexeme) : r.finalize.lexemes ++ ls =
    r.intro.lexemes ++ r.name ++
      (r.aliasLexemes ++ (Reference.finalOf r.finalize.final ++ ls)) :=
  lexemes_append r.finalize ls

theorem aliasLength_of_goesOn {more : List Lexeme} (hmore : goesOn more = false) :
    aliasLength more = if takenWord more then 2 else 0 := by
  unfold aliasLength
  split
  · next g v ls =>
    rw [goesOn, Bool.or_eq_false_iff] at hmore
    rw [takenWord, if_neg (by rw [hmore.1]; exact Bool.false_ne_true)]
  · next hother =>
    have htaken : takenWord more = false := by
      unfold takenWord
      split
      · next g v ls => exact absurd rfl (hother g v ls)
      · rfl
    rw [htaken]
    rfl

/-- An alias is no `FINAL`. -/
theorem finalNext_alias {a : Alias} (ha : a.Valid) (ls : List Lexeme) :
    finalNext (a.lexemes ++ ls) = false := by
  cases a with
  | bare b v =>
    simp only [Alias.Valid, isName, Bool.and_eq_true, Bool.not_eq_true'] at ha
    exact ha.1.2
  | named b as c v => exact isFinal_of_isAs ha.1
  | quoted b as quote body =>
    cases as with
    | none => rfl
    | some as => exact isFinal_of_isAs (ha.1 as rfl)

theorem aliasLength_quoted {b : List Char} {as : Option (List Char × Option (List Char))}
    {quote : Char} {body : List Lexeme} (ha : (Alias.quoted b as quote body).Valid)
    (ls : List Lexeme) : aliasLength ((Alias.quoted b as quote body).lexemes ++ ls) = 0 := by
  cases as with
  | none => rfl
  | some as =>
    obtain ⟨as, c⟩ := as
    have has : isAs as = true := ha.1 (as, c) rfl
    cases c <;> simp [Alias.lexemes, asLexemes, aliasLength, has, takenWord]

section

variable {r : Reference} (h : r.Valid) {w g : List Char} {back more x : List Lexeme}
include h

theorem tableLength_name (back : List Lexeme) :
    tableLength (r.name ++ back) = some r.name.length := by
  have htable : isTable r.table = true := h.table
  unfold Reference.name
  split
  · next b hb =>
    have hbrain : isBrain b = true := h.database b hb
    simp [tableLength, behindDot, leadingWord, hbrain, htable]
  · have hbrain : isBrain r.table = false := by
      by_contra hbrain
      rw [isTable_of_isBrain (by simpa using hbrain)] at htable
      cases htable
    simp [tableLength, hbrain, htable]

/-- What is put behind a name after `FROM` or `JOIN`. -/
theorem decorate_name (hintro : r.intro = .keyword w g) (back : List Lexeme) :
    decorate (r.intro.lexemes ++ r.name ++ back) =
      r.intro.lexemes ++ r.name ++ back.take (aliasLength back) ++
        (missingFinal (back.drop (aliasLength back)) ++
          decorate (back.drop (aliasLength back))) := by
  have hkeyword : isIntro w = true := by
    have hvalid := h.intro
    rw [hintro] at hvalid
    exact hvalid
  have hlength : referenceLength (r.intro.lexemes ++ r.name ++ back) =
      some ((r.intro.lexemes ++ r.name).length + aliasLength back) := by
    have hnames : referenceLength (.word w :: .gap g :: (r.name ++ back)) =
        some (2 + r.name.length + aliasLength back) := by
      rw [referenceLength, if_pos hkeyword, tableLength_name h, Option.map_some, List.drop_left]
    rw [hintro, List.length_append, List.append_assoc]
    exact hnames
  rw [decorate_found hlength, List.take_length_add_append, List.drop_length_add_append,
    List.append_assoc]

/-- Behind the alias there is `FINAL` already, or it is put there. -/
theorem decorate_final (hmore : goesOn more = false) :
    missingFinal (Reference.finalOf r.final ++ more) ++
      decorate (Reference.finalOf r.final ++ more) =
        Reference.finalOf r.finalize.final ++ decorate more := by
  cases hfinal : r.final with
  | none =>
    rw [Reference.finalOf, List.nil_append, missingFinal, finalNext_of_goesOn hmore,
      Reference.finalize, hfinal]
    rfl
  | some f =>
    obtain ⟨g, f⟩ := f
    have hf : isFinal f = true := h.final (g, f) hfinal
    rw [Reference.finalOf, List.cons_append, List.cons_append, List.nil_append, missingFinal,
      finalNext, if_pos hf, decorate_gap, decorate_word (isIntro_of_isFinal hf),
      Reference.finalize, hfinal]
    rfl

/-- The alias is found as it is meant. -/
theorem decorate_taken (hintro : r.intro = .keyword w g) (hmore : goesOn more = false)
    (halias : aliasLength (r.aliasLexemes ++ (Reference.finalOf r.final ++ more)) =
      r.aliasLexemes.length) :
    decorate (r.lexemes ++ more) = r.finalize.lexemes ++ decorate more := by
  rw [lexemes_append, decorate_name h hintro, halias, List.take_left, List.drop_left,
    decorate_final h hmore, finalize_append, List.append_assoc _ r.aliasLexemes]

/-- Nothing is found behind the name. -/
theorem decorate_untaken (hintro : r.intro = .keyword w g)
    (hzero : aliasLength (r.aliasLexemes ++ (Reference.finalOf r.final ++ more)) = 0)
    (hnext : finalNext (r.aliasLexemes ++ (Reference.finalOf r.final ++ more)) = false)
    (hfinal : finalNext (r.aliasLexemes ++ (Reference.finalOf r.finalize.final ++ x)) = false) :
    decorate (r.lexemes ++ more) ≠ r.finalize.lexemes ++ x := by
  rw [lexemes_append, decorate_name h hintro, hzero, List.take_zero, List.append_nil,
    List.drop_zero, missingFinal, hnext, finalize_append]
  intro heq
  have hbehind := List.append_cancel_left heq
  rw [← hbehind] at hfinal
  cases hfinal

/-- A reference that is found has `FINAL` behind its alias. -/
theorem decorate_of_found (hintro : r.intro = .keyword w g) (hmore : goesOn more = false)
    (hfound : r.Found more) : decorate (r.lexemes ++ more) = r.finalize.lexemes ++ decorate more := by
  apply decorate_taken h hintro hmore
  rw [Reference.Found, hintro] at hfound
  rw [Reference.aliasLexemes]
  cases hcalled : r.called with
  | none =>
    rw [hcalled] at hfound
    cases hfinal : r.final with
    | none =>
      have htaken : takenWord more = false := by simpa [hfinal] using hfound
      rw [Reference.finalOf, List.nil_append, List.nil_append, aliasLength_of_goesOn hmore, htaken]
      rfl
    | some f =>
      have hf : isFinal f.2 = true := h.final f hfinal
      simp [Reference.finalOf, aliasLength, isAs_of_isFinal hf, isAlias_of_isFinal hf]
  | some a =>
    have hvalid := h.called a hcalled
    rw [hcalled] at hfound
    cases a with
    | bare b v =>
      simp only [Alias.Valid, isName, Bool.and_eq_true, Bool.not_eq_true'] at hvalid
      simp [Alias.lexemes, aliasLength, hvalid, show isAlias v = true from hfound]
    | named b as c v =>
      simp [Alias.lexemes, aliasLength, takenWord, hvalid.1, show isAlias v = true from hfound]
    | quoted b as quote body => exact hfound.elim

/-- Whatever comes behind, only what is found has `FINAL` behind its alias. -/
theorem found_of_decorate (hintro : r.intro = .keyword w g) (hmore : goesOn more = false)
    (heq : decorate (r.lexemes ++ more) = r.finalize.lexemes ++ x) : r.Found more := by
  rw [Reference.Found, hintro]
  cases hcalled : r.called with
  | none =>
    by_contra hfound
    rw [not_or, Bool.not_eq_true, Option.isSome_eq_false_iff, Option.isNone_iff_eq_none,
      Bool.not_eq_false] at hfound
    obtain ⟨b, v, rest, rfl⟩ := exists_of_takenWord hfound.2
    have hnames : r.aliasLexemes ++ (Reference.finalOf r.final ++ (.gap b :: .word v :: rest)) =
        .gap b :: .word v :: rest := by
      rw [Reference.aliasLexemes, hcalled, hfound.1]
      rfl
    rw [lexemes_append, hnames, decorate_name h hintro, aliasLength_of_goesOn hmore, hfound.2,
      if_pos rfl, finalize_append, List.append_assoc _ (List.take _ _)] at heq
    have hbehind := congrArg finalNext (List.append_cancel_left heq)
    rw [Reference.aliasLexemes, hcalled, Reference.finalize, hfound.1] at hbehind
    have hv : isFinal v = true := hbehind.trans isFinal_final
    rw [goesOn, hv, Bool.or_true] at hmore
    cases hmore
  | some a =>
    have hvalid := h.called a hcalled
    have hlexemes : r.aliasLexemes = a.lexemes := by rw [Reference.aliasLexemes, hcalled]
    by_contra hfound
    refine decorate_untaken h hintro ?_ ?_ ?_ heq
    · rw [hlexemes]
      cases a with
      | bare b v =>
        simp only [Alias.Valid, isName, Bool.and_eq_true, Bool.not_eq_true'] at hvalid
        simp [Alias.lexemes, aliasLength, hvalid, show ¬ isAlias v = true from hfound]
      | named b as c v =>
        simp [Alias.lexemes, aliasLength, takenWord, hvalid.1,
          show ¬ isAlias v = true from hfound]
      | quoted b as quote body => exact aliasLength_quoted hvalid _
    · rw [hlexemes]
      exact finalNext_alias hvalid _
    · rw [hlexemes]
      exact finalNext_alias hvalid _

end

/-! ### What is left as it is -/

/-- No reference begins in these lexemes, whatever is behind them. -/
def Plain (front : List Lexeme) : Prop := ∀ ls, decorate (front ++ ls) = front ++ decorate ls

theorem Plain.append {front front' : List Lexeme} (h : Plain front) (h' : Plain front') :
    Plain (front ++ front') := by
  intro ls
  rw [List.append_assoc, h, h', List.append_assoc]

theorem plain_of_words {front : List Lexeme} (h : ∀ v, .word v ∈ front → isIntro v = false) :
    Plain front := by
  intro ls
  induction front with
  | nil => rfl
  | cons l front ih =>
    have hrest := ih fun v hv => h v (List.mem_cons_of_mem _ hv)
    rw [List.cons_append, List.cons_append, ← hrest]
    cases l with
    | word v => exact decorate_word (h v List.mem_cons_self) _
    | gap g => exact decorate_gap g _
    | mark c => exact decorate_mark c _

theorem closed_mark {c : Char} (hc : c ≠ '.') (ls : List Lexeme) : Closed (.mark c :: ls) :=
  ⟨isTable_nil, isBrain_nil, if_neg hc, rfl⟩

theorem isQuote_dot {c : Char} (h : isQuote c = true) : c ≠ '.' := by
  rintro rfl
  exact absurd h (by decide)

theorem plain_alias {a : Alias} (h : a.Valid) : Plain a.lexemes := by
  cases a with
  | bare g v =>
    simp only [Alias.Valid, isName, Bool.and_eq_true, Bool.not_eq_true'] at h
    apply plain_of_words
    simp only [Alias.lexemes, List.mem_cons, List.not_mem_nil, or_false]
    rintro w (hw | hw) <;> cases hw
    exact h.2
  | named g as c v =>
    apply plain_of_words
    simp only [Alias.lexemes, List.mem_cons, List.not_mem_nil, or_false]
    rintro w (hw | hw | hw | hw) <;> cases hw
    · exact isIntro_of_isAs h.1
    · exact h.2
  | quoted g as quote body =>
    obtain ⟨has, hquote, hbody, -⟩ := h
    have hstart : Plain (.gap g :: asLexemes as) := by
      apply plain_of_words
      intro v hv
      cases as with
      | none => cases List.mem_singleton.mp hv
      | some as =>
        obtain ⟨as, c⟩ := as
        have hword : v = as := by
          cases c <;> simpa [asLexemes] using hv
        rw [hword]
        exact isIntro_of_isAs (has (as, c) rfl)
    have hquoted : Plain ((.mark quote :: body) ++ [.mark quote]) := by
      intro ls
      rw [List.append_assoc, List.cons_append, decorate_mark, List.singleton_append,
        decorate_append hbody (closed_mark (isQuote_dot hquote) _), decorate_mark,
        List.append_assoc]
      rfl
    rw [Alias.lexemes, List.append_assoc]
    exact hstart.append hquoted

theorem plain_name {r : Reference} (h : r.Valid) : Plain r.name := by
  apply plain_of_words
  intro v hv
  unfold Reference.name at hv
  split at hv
  · next b hb =>
    have hword : v = b ∨ v = r.table := by simpa using hv
    cases hword with
    | inl hword => exact hword ▸ isIntro_of_isBrain (h.database b hb)
    | inr hword => exact hword ▸ isIntro_of_isTable h.table
  · have hword : v = r.table := by simpa using hv
    exact hword ▸ isIntro_of_isTable h.table

theorem plain_final {r : Reference} (h : r.Valid) : Plain (Reference.finalOf r.final) := by
  apply plain_of_words
  intro v hv
  cases hfinal : r.final with
  | none =>
    rw [hfinal] at hv
    cases hv
  | some f =>
    have hword : v = f.2 := by simpa [hfinal, Reference.finalOf] using hv
    rw [hword]
    exact isIntro_of_isFinal (h.final f hfinal)

/-- A reference behind a comma is left as it is. -/
theorem plain_comma {r : Reference} (h : r.Valid) {g : Option (List Char)}
    (hintro : r.intro = .comma g) : Plain r.lexemes := by
  have hstart : Plain r.intro.lexemes := by
    apply plain_of_words
    rw [hintro]
    intro v hv
    cases g <;> simp [Intro.lexemes] at hv
  have halias : Plain r.aliasLexemes := by
    unfold Reference.aliasLexemes
    split
    · next a ha => exact plain_alias (h.called a ha)
    · exact plain_of_words nofun
  exact ((hstart.append (plain_name h)).append halias).append (plain_final h)

/-! ### Every reference -/

theorem exists_decorate (l : Lexeme) (ls : List Lexeme) : ∃ rest, decorate (l :: ls) = l :: rest := by
  have hhead := head?_decorate (l :: ls)
  cases hdecorate : decorate (l :: ls) with
  | nil =>
    rw [hdecorate] at hhead
    cases hhead
  | cons m rest =>
    rw [hdecorate] at hhead
    cases hhead
    exact ⟨rest, rfl⟩

theorem finalNext_decorate {more : List Lexeme} (hmore : goesOn more = false) :
    finalNext (decorate more) = false := by
  cases more with
  | nil => rw [decorate]; rfl
  | cons l ls =>
    cases l with
    | word w => cases hmore
    | mark c => rw [decorate_mark]; rfl
    | gap g =>
      rw [decorate_gap]
      cases ls with
      | nil => rw [decorate]; rfl
      | cons m ls =>
        obtain ⟨rest, hrest⟩ := exists_decorate m ls
        rw [hrest]
        cases m with
        | word w =>
          rw [goesOn, Bool.or_eq_false_iff] at hmore
          exact hmore.2
        | gap g => rfl
        | mark c => rfl

theorem decorate_reference_iff {r : Reference} (h : r.Valid) {more x : List Lexeme}
    (hmore : goesOn more = false) :
    decorate (r.lexemes ++ more) = r.finalize.lexemes ++ x ↔ r.Found more ∧ decorate more = x := by
  cases hintro : r.intro with
  | keyword w g =>
    constructor
    · intro heq
      have hfound := found_of_decorate h hintro hmore heq
      rw [decorate_of_found h hintro hmore hfound] at heq
      exact ⟨hfound, List.append_cancel_left heq⟩
    · rintro ⟨hfound, rfl⟩
      exact decorate_of_found h hintro hmore hfound
  | comma g =>
    have hfound : r.Found more ↔ r.final.isSome = true := by rw [Reference.Found, hintro]
    rw [plain_comma h hintro, hfound]
    cases hfinal : r.final with
    | none =>
      refine iff_of_false ?_ nofun
      intro heq
      rw [lexemes_append, finalize_append] at heq
      have hbehind := List.append_cancel_left (List.append_cancel_left heq)
      rw [hfinal, Reference.finalize, hfinal] at hbehind
      have hnext : finalNext (decorate more) = isFinal "FINAL".toList := congrArg finalNext hbehind
      rw [finalNext_decorate hmore, isFinal_final] at hnext
      cases hnext
    | some f =>
      have hsame : r.finalize = r := by
        rw [Reference.finalize, hfinal, Option.getD_some, ← hfinal]
      rw [hsame, List.append_cancel_left_eq]
      exact (and_iff_right rfl).symm

theorem closed_lexemes {rs : References} (h : rs.Valid) : Closed rs.lexemes := by
  cases rs with
  | nil => exact ⟨isTable_nil, isBrain_nil, rfl, rfl⟩
  | cons entry rest =>
    obtain ⟨r, behind⟩ := entry
    rw [References.lexemes, lexemes_append]
    have hintro := h.1.intro
    cases hr : r.intro with
    | comma g => exact closed_mark (by decide) _
    | keyword w g =>
      rw [hr] at hintro
      have hw : isIntro w = true := hintro
      have htable : isTable w = false := by
        rw [Bool.eq_false_iff]
        intro htable
        rw [isIntro_of_isTable htable] at hw
        cases hw
      have hbrain : isBrain w = false := by
        rw [Bool.eq_false_iff]
        intro hbrain
        rw [isIntro_of_isBrain hbrain] at hw
        cases hw
      exact ⟨htable, hbrain, rfl, rfl⟩

/-- Every reference is read `FINAL`, and nothing else changes, when every reference is found. -/
theorem decorate_lexemes_iff {rs : References} (h : rs.Valid) :
    decorate rs.lexemes = rs.finalize.lexemes ↔ rs.AllFound := by
  induction rs with
  | nil => exact iff_of_true (by rw [References.lexemes, decorate]; rfl) trivial
  | cons entry rest ih =>
    obtain ⟨r, behind⟩ := entry
    obtain ⟨hr, hfree, hmore, hrest⟩ := h
    have hstep := decorate_reference_iff (x := behind ++ (References.finalize rest).lexemes) hr hmore
    rw [decorate_append hfree (closed_lexemes hrest), List.append_cancel_left_eq, ih hrest] at hstep
    exact hstep

/-! ### Texts with `FINAL` -/

theorem valid_finalizeReference {r : Reference} (h : r.Valid) : r.finalize.Valid := by
  refine ⟨h.intro, h.database, h.table, h.called, ?_⟩
  rintro f hf
  cases hf
  cases hfinal : r.final with
  | none => exact isFinal_final
  | some f => exact h.final f hfinal

theorem goesOn_finalize {rs : References} (behind : List Lexeme)
    (hmore : goesOn (behind ++ rs.lexemes) = false) :
    goesOn (behind ++ rs.finalize.lexemes) = false := by
  cases rs with
  | nil => exact hmore
  | cons entry rest =>
    obtain ⟨r, behind'⟩ := entry
    rw [References.lexemes, lexemes_append] at hmore
    rw [References.finalize, List.map_cons, References.lexemes, finalize_append]
    cases hr : r.intro with
    | keyword w g =>
      rw [hr] at hmore
      cases behind with
      | nil => cases hmore
      | cons l ls =>
        cases l with
        | word v => cases hmore
        | mark c => exact hmore
        | gap g' =>
          cases ls with
          | nil => exact hmore
          | cons m ls => cases m <;> exact hmore
    | comma g =>
      rw [hr] at hmore
      cases behind with
      | nil => rfl
      | cons l ls =>
        cases l with
        | word v => cases hmore
        | mark c => exact hmore
        | gap g' =>
          cases ls with
          | nil => rfl
          | cons m ls => cases m <;> exact hmore

theorem valid_finalize {rs : References} (h : rs.Valid) : rs.finalize.Valid := by
  induction rs with
  | nil => trivial
  | cons entry rest ih =>
    obtain ⟨r, behind⟩ := entry
    obtain ⟨hr, hfree, hmore, hrest⟩ := h
    exact ⟨valid_finalizeReference hr, hfree, goesOn_finalize behind hmore, ih hrest⟩

/-- A reference without `FINAL` ends with its name or its alias. -/
theorem getLast?_lexemes {r : Reference} (hfinal : r.final = none) (front : List Lexeme)
    (g : List Char) : (front ++ r.lexemes).getLast? ≠ some (.gap g) := by
  have hname : ∃ front' : List Lexeme, r.name = front' ++ [.word r.table] := by
    unfold Reference.name
    split
    · next b hb => exact ⟨[.word b, .mark '.'], rfl⟩
    · exact ⟨[], rfl⟩
  rw [Reference.lexemes, hfinal, Reference.finalOf, List.append_nil, Reference.aliasLexemes]
  split
  · next a ha =>
    cases a with
    | bare b v => simp [Alias.lexemes]
    | named b as c v => simp [Alias.lexemes]
    | quoted b as quote body =>
      rw [Alias.lexemes, ← List.append_assoc, ← List.append_assoc, List.getLast?_concat]
      nofun
  · obtain ⟨front', hname⟩ := hname
    rw [List.append_nil, hname]
    simp

theorem lexical_finalize {front : List Lexeme} {rs : References} (h : rs.Valid)
    (hlexical : Lexical classes (front ++ rs.lexemes)) :
    Lexical classes (front ++ rs.finalize.lexemes) := by
  induction rs generalizing front with
  | nil => exact hlexical
  | cons entry rest ih =>
    obtain ⟨r, behind⟩ := entry
    obtain ⟨hr, hfree, hmore, hrest⟩ := h
    rw [References.lexemes, ← List.append_assoc, ← List.append_assoc] at hlexical
    have hbehind := ih hrest hlexical
    rw [References.finalize, List.map_cons, References.lexemes]
    cases hfinal : r.final with
    | some f =>
      have hsame : r.finalize = r := by
        rw [Reference.finalize, hfinal, Option.getD_some, ← hfinal]
      rw [hsame, ← List.append_assoc, ← List.append_assoc]
      exact hbehind
    | none =>
      have hlexemes : r.finalize.lexemes = r.lexemes ++ finalLexemes := by
        rw [Reference.lexemes, Reference.lexemes, Reference.finalize, hfinal]
        simp only [Reference.finalOf, List.append_nil]
        rfl
      have hword : ∀ w, (behind ++ (References.finalize rest).lexemes).head? ≠ some (.word w) := by
        intro w hw
        have hgoes := goesOn_finalize behind hmore
        cases hlist : behind ++ (References.finalize rest).lexemes with
        | nil =>
          rw [hlist] at hw
          cases hw
        | cons l ls =>
          rw [hlist] at hw hgoes
          cases hw
          cases hgoes
      rw [List.append_assoc] at hbehind
      have hinsert := lexical_insert hbehind (getLast?_lexemes hfinal front) hword
      rw [List.append_assoc front] at hinsert
      rw [hlexemes, ← List.append_assoc front]
      exact hinsert

namespace SqlText

variable (text : SqlText)

/-- The text with `FINAL` behind every reference. -/
def finalized : SqlText where
  start := text.start
  references := text.references.finalize
  lexical := lexical_finalize text.valid text.lexical
  free := text.free
  valid := valid_finalize text.valid

/-- Each reference has one `FINAL` behind it, nothing else changes, and the second time nothing
changes. -/
def Decorated : Prop :=
  decorateWithFinal text.sql = text.finalized.sql ∧
    decorateWithFinal (decorateWithFinal text.sql) = decorateWithFinal text.sql

end SqlText

/-! ### The contract -/

theorem found_finalize {r : Reference} {behind : List Lexeme} (h : r.Found behind)
    (behind' : List Lexeme) : r.finalize.Found behind' := by
  rw [Reference.Found] at h
  rw [Reference.Found]
  have hsame : r.finalize.intro = r.intro ∧ r.finalize.called = r.called := ⟨rfl, rfl⟩
  rw [hsame.1, hsame.2]
  cases hintro : r.intro with
  | comma g => rfl
  | keyword w g =>
    cases hcalled : r.called with
    | none => exact .inl rfl
    | some a =>
      rw [hintro, hcalled] at h
      cases a <;> exact h

theorem allFound_finalize {rs : References} (h : rs.AllFound) : rs.finalize.AllFound := by
  induction rs with
  | nil => trivial
  | cons entry rest ih => exact ⟨found_finalize h.1 _, ih h.2⟩

theorem finalize_finalize (rs : References) : rs.finalize.finalize = rs.finalize := by
  rw [References.finalize, References.finalize, List.map_map]
  rfl

namespace SqlText

variable {text : SqlText}

theorem decorate_lexemes (text : SqlText) :
    decorate text.lexemes = text.start ++ decorate text.references.lexemes :=
  decorate_append text.free (closed_lexemes text.valid)

theorem sql_eq_iff : decorateWithFinal text.sql = text.finalized.sql ↔
    text.references.AllFound := by
  have hdecorated : Lexical classes (decorate text.lexemes) :=
    @lexical_decorate [] _ text.lexical
  have hrender : decorateWithFinal text.sql = render (decorate text.lexemes) :=
    decorateWithFinal_render text.lexical
  rw [← decorate_lexemes_iff text.valid, hrender, sql]
  constructor
  · intro heq
    have hlexemes := render_injective hdecorated text.finalized.lexical heq
    rw [decorate_lexemes] at hlexemes
    exact List.append_cancel_left hlexemes
  · intro heq
    rw [decorate_lexemes, heq]
    rfl

theorem finalized_finalized (text : SqlText) : text.finalized.finalized.sql = text.finalized.sql :=
  congrArg (fun rs => render (text.start ++ References.lexemes rs))
    (finalize_finalize text.references)

/-- A text is decorated as it is meant when every reference is found. -/
theorem decorated_iff : text.Decorated ↔ text.references.AllFound := by
  constructor
  · rintro ⟨heq, -⟩
    exact sql_eq_iff.mp heq
  · intro hfound
    have heq := sql_eq_iff.mpr hfound
    have hagain : decorateWithFinal text.finalized.sql = text.finalized.finalized.sql :=
      sql_eq_iff.mpr (allFound_finalize hfound)
    refine ⟨heq, ?_⟩
    rw [heq, hagain, finalized_finalized]

end SqlText

/-- The workspace of the caller is bound exactly when the parameters name no other, and a text is
decorated as it is meant exactly when each of its references is found. -/
theorem gateway_contract (sql : List Char) (opts : ChQueryOpts) (text : SqlText) :
    (BoundToCaller sql opts ↔ (Accepted sql opts → OwnWorkspace opts)) ∧
      (text.Decorated ↔ text.references.AllFound) :=
  ⟨boundToCaller_iff sql opts, SqlText.decorated_iff⟩

/-- A table of the database `brain` without `FINAL`. -/
def facts (intro : Intro) (table : String) (called : Option String) : Reference where
  intro := intro
  database := some "brain".toList
  table := table.toList
  called := called.map fun v => .bare [' '] v.toList
  final := none

theorem facts_valid {intro : Intro} {table : String} {called : Option String} (hintro : intro.Valid)
    (htable : isTable table.toList = true) (halias : ∀ v ∈ called, isName v.toList = true) :
    (facts intro table called).Valid := by
  refine ⟨hintro, ?_, htable, ?_, nofun⟩
  · rintro b ⟨⟩
    decide
  · intro a ha
    obtain ⟨v, hv, rfl⟩ := Option.map_eq_some_iff.mp ha
    exact halias v hv

theorem isIntro_from : isIntro "FROM".toList = true := by decide

/-- `SELECT 1 FROM brain.connector_order_facts o, brain.connector_line_item_facts li` and a clause.
-/
def commaText : SqlText where
  start := [.word "SELECT".toList, .gap [' '], .word ['1'], .gap [' ']]
  references :=
    [(facts (.keyword "FROM".toList [' ']) "connector_order_facts" (some "o"), []),
      (facts (.comma (some [' '])) "connector_line_item_facts" (some "li"),
        [.gap [' '], .word "WHERE".toList, .gap [' '], .word "workspace_id".toList, .gap [' '],
          .mark '=', .gap [' '], .mark '$', .word ['1']])]
  lexical := ⟨by decide +kernel, by decide⟩
  free := by decide
  valid := ⟨facts_valid isIntro_from (by decide) (by decide),
    by decide, by decide,
    facts_valid trivial (by decide) (by decide),
    by decide, by decide, trivial⟩

/-- `SELECT 1 FROM brain.connector_order_facts OFFSET 5` -/
def offsetText : SqlText where
  start := [.word "SELECT".toList, .gap [' '], .word ['1'], .gap [' ']]
  references :=
    [(facts (.keyword "FROM".toList [' ']) "connector_order_facts" none,
      [.gap [' '], .word "OFFSET".toList, .gap [' '], .word ['5']])]
  lexical := ⟨by decide +kernel, by decide⟩
  free := by decide
  valid := ⟨facts_valid isIntro_from (by decide) nofun,
    by decide, by decide, trivial⟩

/-- Parameters that name another workspace. -/
def otherWorkspace : ChQueryOpts where
  workspaceId := "ws-1"
  params := some [("workspace_id", some (.str "ws-2"))]
  nodup := by decide
  skipFinal := none

theorem contract_broken :
    ¬ BoundToCaller commaText.sql otherWorkspace ∧ ¬ commaText.Decorated ∧
      ¬ offsetText.Decorated := by
  refine ⟨?_, ?_, ?_⟩
  · rw [boundToCaller_iff]
    intro hown
    have hws := hown ⟨by decide, by decide⟩ (some (.str "ws-2")) rfl
    exact absurd (Json.str.inj (Option.some.inj hws)) (by decide)
  · rw [SqlText.decorated_iff]
    rintro ⟨-, hcomma, -⟩
    cases hcomma
  · rw [SqlText.decorated_iff]
    rintro ⟨hoffset, -⟩
    obtain hfinal | htaken := hoffset
    · cases hfinal
    · exact absurd htaken (by decide)

end BrainV2.ClickHouse
