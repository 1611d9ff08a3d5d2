import BrainV2.Lib.Substitution
import Mathlib.Data.List.Chain

/-!
# Texts as lexemes, and patterns on them

A pattern whose parts are words and gaps sees a text as its lexemes.

* `Classes`: the characters of words and of gaps;
* `Lexeme`, `render`: words, gaps and single marks, and the text they make;
* `Lexical`: no two words and no two gaps are next to each other;
* `render_injective`: a text is made of one list of lexemes;
* `matchAt_eq`, `rest_matchAt`: a match, and what it leaves, is the first way to match;
* `startsWith`, `equalText`: how a word of a pattern is compared;
* `flatMap_keyword`, `flatMap_oneOf`, `flatMap_plus`: what comes behind a word or a gap, when it
  cannot begin inside one;
* `leadingWord`: the word at the start of a text, if there is one.
-/

namespace BrainV2.Lexemes

structure Classes where
  word : Char → Bool
  space : Char → Bool
  disjoint : ∀ c, word c = true → space c = false

inductive Lexeme where
  | word (w : List Char)
  | gap (g : List Char)
  | mark (c : Char)
deriving DecidableEq

namespace Lexeme

def text : Lexeme → List Char
  | word w => w
  | gap g => g
  | mark c => [c]

def Valid (k : Classes) : Lexeme → Prop
  | word w => w ≠ [] ∧ ∀ c ∈ w, k.word c = true
  | gap g => g ≠ [] ∧ ∀ c ∈ g, k.space c = true
  | mark c => k.word c = false ∧ k.space c = false

instance (k : Classes) : (l : Lexeme) → Decidable (l.Valid k)
  | word w => decidable_of_iff (w ≠ [] ∧ w.all k.word = true) (by rw [Valid, List.all_eq_true])
  | gap g => decidable_of_iff (g ≠ [] ∧ g.all k.space = true) (by rw [Valid, List.all_eq_true])
  | mark c => inferInstanceAs (Decidable (k.word c = false ∧ k.space c = false))

/-- Two lexemes that stay two when they are written next to each other. -/
def Apart : Lexeme → Lexeme → Prop
  | word _, word _ => False
  | gap _, gap _ => False
  | _, _ => True

instance : DecidableRel Apart
  | word _, word _ => .isFalse id
  | gap _, gap _ => .isFalse id
  | word _, gap _ | word _, mark _ | gap _, word _ | gap _, mark _ | mark _, _ => .isTrue trivial

end Lexeme

open Lexeme

def render (ls : List Lexeme) : List Char := ls.flatMap text

@[simp] theorem render_nil : render [] = [] := rfl

@[simp] theorem render_cons (l : Lexeme) (ls : List Lexeme) :
    render (l :: ls) = l.text ++ render ls := rfl

@[simp] theorem render_append (ls ls' : List Lexeme) :
    render (ls ++ ls') = render ls ++ render ls' := List.flatMap_append

structure Lexical (k : Classes) (ls : List Lexeme) : Prop where
  valid : ∀ l ∈ ls, l.Valid k
  apart : ls.IsChain Apart

variable {k : Classes} {l : Lexeme} {ls ls' : List Lexeme}

theorem Lexical.tail (h : Lexical k (l :: ls)) : Lexical k ls :=
  ⟨fun m hm => h.valid m (List.mem_cons_of_mem _ hm), h.apart.tail⟩

theorem Lexical.head (h : Lexical k (l :: ls)) : l.Valid k := h.valid l List.mem_cons_self

theorem Lexical.drop (h : Lexical k ls) (n : Nat) : Lexical k (ls.drop n) :=
  ⟨fun m hm => h.valid m (List.mem_of_mem_drop hm), h.apart.drop n⟩

/-- What follows a lexeme is apart from it. -/
theorem Lexical.apart_head (h : Lexical k (l :: ls)) : ∀ m ∈ ls.head?, Apart l m :=
  h.apart.rel_head?

/-! ### The first character -/

/-- Of the first character, if there is one. -/
def HeadOut (p : Char → Bool) (cs : List Char) : Prop := ∀ c rest, cs = c :: rest → p c = false

theorem headOut_nil (p : Char → Bool) : HeadOut p [] := nofun

theorem headOut_cons {p : Char → Bool} {c : Char} {cs : List Char} (h : p c = false) :
    HeadOut p (c :: cs) := by
  rintro d rest ⟨⟩
  exact h

theorem exists_head (h : l.Valid k) : ∃ c cs, l.text = c :: cs ∧
    match l with
    | word _ => k.word c = true
    | gap _ => k.space c = true
    | mark _ => k.word c = false ∧ k.space c = false := by
  cases l with
  | word w =>
    cases w with
    | nil => exact absurd rfl h.1
    | cons c cs => exact ⟨c, cs, rfl, h.2 c List.mem_cons_self⟩
  | gap g =>
    cases g with
    | nil => exact absurd rfl h.1
    | cons c cs => exact ⟨c, cs, rfl, h.2 c List.mem_cons_self⟩
  | mark c => exact ⟨c, [], rfl, h⟩

/-- No word goes on behind a word. -/
theorem Lexical.headOut_word {w : List Char} (h : Lexical k (word w :: ls)) :
    HeadOut k.word (render ls) := by
  cases ls with
  | nil => exact headOut_nil _
  | cons m ms =>
    obtain ⟨c, cs, htext, hc⟩ := exists_head h.tail.head
    rw [render_cons, htext, List.cons_append]
    apply headOut_cons
    cases m with
    | word v => exact absurd (h.apart_head _ rfl) id
    | gap g =>
      by_contra hword
      have hspace := k.disjoint c (by simpa using hword)
      rw [show k.space c = true from hc] at hspace
      cases hspace
    | mark d => exact hc.1

/-- No gap goes on behind a gap. -/
theorem Lexical.headOut_gap {g : List Char} (h : Lexical k (gap g :: ls)) :
    HeadOut k.space (render ls) := by
  cases ls with
  | nil => exact headOut_nil _
  | cons m ms =>
    obtain ⟨c, cs, htext, hc⟩ := exists_head h.tail.head
    rw [render_cons, htext, List.cons_append]
    apply headOut_cons
    cases m with
    | word v => exact k.disjoint c hc
    | gap g => exact absurd (h.apart_head _ rfl) id
    | mark d => exact hc.2

/-! ### One list of lexemes -/

theorem append_inj_of_headOut {p : Char → Bool} {u v s t : List Char} (hu : ∀ c ∈ u, p c = true)
    (hv : ∀ c ∈ v, p c = true) (hs : HeadOut p s) (ht : HeadOut p t) (h : u ++ s = v ++ t) :
    u = v ∧ s = t := by
  induction u generalizing v with
  | nil =>
    cases v with
    | nil => exact ⟨rfl, h⟩
    | cons c v =>
      have hc := hs c (v ++ t) h
      rw [hv c List.mem_cons_self] at hc
      cases hc
  | cons c u ih =>
    cases v with
    | nil =>
      have hc := ht c (u ++ s) h.symm
      rw [hu c List.mem_cons_self] at hc
      cases hc
    | cons d v =>
      obtain ⟨rfl, hrest⟩ := List.cons.inj h
      obtain ⟨rfl, rfl⟩ := ih (List.forall_mem_cons.mp hu).2 (List.forall_mem_cons.mp hv).2 hrest
      exact ⟨rfl, rfl⟩

theorem render_injective (h : Lexical k ls) (h' : Lexical k ls') (heq : render ls = render ls') :
    ls = ls' := by
  induction ls generalizing ls' with
  | nil =>
    cases ls' with
    | nil => rfl
    | cons m ms =>
      obtain ⟨c, cs, htext, -⟩ := exists_head h'.head
      rw [render_cons, htext] at heq
      cases heq
  | cons l ls ih =>
    cases ls' with
    | nil =>
      obtain ⟨c, cs, htext, -⟩ := exists_head h.head
      rw [render_cons, htext] at heq
      cases heq
    | cons m ms =>
      obtain ⟨c, cs, htext, hc⟩ := exists_head h.head
      obtain ⟨d, ds, htext', hd⟩ := exists_head h'.head
      have hfirst : c = d := by
        rw [render_cons, render_cons, htext, htext'] at heq
        exact (List.cons.inj heq).1
      subst hfirst
      have hdisjoint := k.disjoint c
      have hrest : l = m ∧ render ls = render ms := by
        cases l with
        | word w =>
          cases m with
          | word v =>
            obtain ⟨rfl, hrest⟩ := append_inj_of_headOut h.head.2 h'.head.2 h.headOut_word
              h'.headOut_word heq
            exact ⟨rfl, hrest⟩
          | gap g => simp_all
          | mark d => simp_all
        | gap g =>
          cases m with
          | word v => simp_all
          | gap f =>
            obtain ⟨rfl, hrest⟩ := append_inj_of_headOut h.head.2 h'.head.2 h.headOut_gap
              h'.headOut_gap heq
            exact ⟨rfl, hrest⟩
          | mark d => simp_all
        | mark d =>
          cases m with
          | word v => simp_all
          | gap f => simp_all
          | mark e =>
            obtain ⟨rfl, hrest⟩ := List.cons.inj heq
            exact ⟨rfl, hrest⟩
      rw [hrest.1, ih h.tail h'.tail hrest.2]

end BrainV2.Lexemes

/-! ## Patterns on lexemes -/

namespace BrainV2.Regex

theorem head?_flatMap_head {α β : Type} (f : α → List β) (l : List α) :
    (l.flatMap f).head? = l.findSome? fun a => (f a).head? := by
  induction l with
  | nil => rfl
  | cons a l ih =>
    rw [List.flatMap_cons, List.findSome?_cons, List.head?_append, ih]
    cases (f a).head? <;> rfl

/-- The ways to match the body and the tail, in the order in which they are tried. -/
def Rule.attempts (rule : Rule) (atBody : List Char) : List Attempt :=
  (rests rule.body atBody).flatMap fun atTail =>
    (rests rule.tail atTail).map fun rest => ⟨atBody, atTail, rest⟩

theorem Rule.matchAt_eq (rule : Rule) (prev : Option Char) (cs : List Char) :
    rule.matchAt prev cs = if prev.any rule.behind then none else
      ((rests rule.lead cs).flatMap rule.attempts).head? := by
  have hfinish : ∀ atBody, rule.finish atBody = (rule.attempts atBody).head? := by
    intro atBody
    rw [Rule.finish, Rule.attempts, head?_flatMap_head]
    congr 1
    funext atTail
    rw [List.head?_map]
  rw [Rule.matchAt, head?_flatMap_head]
  split
  · rfl
  · congr 1
    funext atBody
    exact hfinish atBody

/-- What a match leaves is the first that the whole pattern can leave. -/
theorem Rule.rest_matchAt (rule : Rule) (prev : Option Char) (cs : List Char) :
    (rule.matchAt prev cs).map (·.rest) = if prev.any rule.behind then none else
      (rests (.seq rule.lead (.seq rule.body rule.tail)) cs).head? := by
  have hattempts : ∀ atBody, (rule.attempts atBody).map (·.rest) =
      rests (.seq rule.body rule.tail) atBody := by
    intro atBody
    simp [Rule.attempts, rests, List.map_flatMap, Function.comp_def]
  rw [Rule.matchAt_eq]
  split
  · rfl
  · rw [← List.head?_map, List.map_flatMap, rests]
    simp only [hattempts]

end BrainV2.Regex

namespace BrainV2.Lexemes

open Regex

/-! ### Words -/

section

variable (same : Char → Char → Bool)

/-- What is left behind a word, if the text starts with it. -/
def startsWith : List Char → List Char → Option (List Char)
  | [], cs => some cs
  | _ :: _, [] => none
  | l :: ls, c :: cs => if same l c then startsWith ls cs else none

def equalText (w v : List Char) : Bool := startsWith same w v = some []

/-- The word is one of these. -/
def isOneOf (ws : List String) (v : List Char) : Bool := ws.any fun w => equalText same w.toList v

variable {same}

theorem rests_keyword (w : String) (cs : List Char) :
    rests (keyword same w) cs = (startsWith same w.toList cs).toList := by
  rw [keyword]
  generalize w.toList = ls
  induction ls generalizing cs with
  | nil => rfl
  | cons l ls ih =>
    rw [List.map_cons, chain, List.foldr_cons, rests]
    cases cs with
    | nil => rfl
    | cons c cs =>
      rw [rests, startsWith]
      split
      · rw [List.flatMap_singleton]
        exact ih cs
      · rfl

theorem rests_oneOf (ws : List String) (cs : List Char) :
    rests (oneOf same ws) cs = ws.flatMap fun w => rests (keyword same w) cs := by
  induction ws with
  | nil => rfl
  | cons w ws ih =>
    rw [List.flatMap_cons, ← ih]
    rfl

end

variable {k : Classes} {same : Char → Char → Bool} {β : Type} {v rest : List Char}

/-- A word is found behind which nothing goes on that begins with a character of words. -/
theorem startsWith_bind {w : List Char} {f : List Char → List β}
    (hw : ∀ l ∈ w, ∀ c, same l c = true → k.word c = true) (hv : ∀ c ∈ v, k.word c = true)
    (hrest : HeadOut k.word rest) (hf : ∀ c cs, k.word c = true → f (c :: cs) = []) :
    (startsWith same w (v ++ rest)).toList.flatMap f =
      if equalText same w v then f rest else [] := by
  induction w generalizing v with
  | nil =>
    cases v with
    | nil => simp [startsWith, equalText]
    | cons c v => simp [startsWith, equalText, hf c _ (hv c List.mem_cons_self)]
  | cons l w ih =>
    cases v with
    | nil =>
      have hnone : startsWith same (l :: w) rest = none := by
        cases rest with
        | nil => rfl
        | cons c cs =>
          rw [startsWith, if_neg]
          intro hsame
          have hword := hw l List.mem_cons_self c hsame
          rw [hrest c cs rfl] at hword
          cases hword
      simp [hnone, equalText, startsWith]
    | cons c v =>
      rw [List.cons_append, equalText, startsWith, startsWith]
      split
      · exact ih (fun l hl => hw l (List.mem_cons_of_mem _ hl))
          (fun c hc => hv c (List.mem_cons_of_mem _ hc))
      · rfl

theorem flatMap_keyword {w : String} {f : List Char → List β}
    (hw : ∀ l ∈ w.toList, ∀ c, same l c = true → k.word c = true)
    (hv : ∀ c ∈ v, k.word c = true) (hrest : HeadOut k.word rest)
    (hf : ∀ c cs, k.word c = true → f (c :: cs) = []) :
    (rests (keyword same w) (v ++ rest)).flatMap f =
      if equalText same w.toList v then f rest else [] := by
  rw [rests_keyword]
  exact startsWith_bind hw hv hrest hf

/-- One of some words, each found at most once. -/
theorem flatMap_oneOf {ws : List String} {f : List Char → List β}
    (hw : ∀ w ∈ ws, ∀ l ∈ w.toList, ∀ c, same l c = true → k.word c = true)
    (hv : ∀ c ∈ v, k.word c = true) (hrest : HeadOut k.word rest)
    (hf : ∀ c cs, k.word c = true → f (c :: cs) = []) :
    ((rests (oneOf same ws) (v ++ rest)).flatMap f).head? =
      if isOneOf same ws v then (f rest).head? else none := by
  rw [rests_oneOf, List.flatMap_assoc]
  induction ws with
  | nil => rfl
  | cons w ws ih =>
    have hws := ih fun w hw' => hw w (List.mem_cons_of_mem _ hw')
    have hcons : isOneOf same (w :: ws) v = (equalText same w.toList v || isOneOf same ws v) := rfl
    rw [List.flatMap_cons, List.head?_append, hws,
      flatMap_keyword (hw w List.mem_cons_self) hv hrest hf, hcons]
    cases equalText same w.toList v with
    | false => simp
    | true => cases f rest <;> simp

theorem length_of_equalText {w : List Char} (h : equalText same w v = true) :
    v.length = w.length := by
  induction w generalizing v with
  | nil =>
    rw [equalText, startsWith, decide_eq_true_eq, Option.some.injEq] at h
    rw [h]
  | cons l w ih =>
    cases v with
    | nil => simp [equalText, startsWith] at h
    | cons c v =>
      rw [equalText, startsWith] at h
      split at h
      · rw [List.length_cons, List.length_cons, ih h]
      · simp at h

/-- A mark behind a word of the pattern. -/
theorem startsWith_concat {w : List Char} {m : Char}
    (hw : ∀ l ∈ w, ∀ c, same l c = true → k.word c = true)
    (hm : ∀ c, k.word c = true → same m c = false) (hv : ∀ c ∈ v, k.word c = true)
    (hrest : HeadOut k.word rest) : startsWith same (w ++ [m]) (v ++ rest) =
      if equalText same w v then startsWith same [m] rest else none := by
  induction w generalizing v with
  | nil =>
    cases v with
    | nil => simp [startsWith, equalText]
    | cons c v => simp [startsWith, equalText, hm c (hv c List.mem_cons_self)]
  | cons l w ih =>
    cases v with
    | nil =>
      cases rest with
      | nil => simp [startsWith, equalText]
      | cons c cs =>
        have hsame : same l c = false := by
          by_contra hsame
          have hword := hw l List.mem_cons_self c (by simpa using hsame)
          rw [hrest c cs rfl] at hword
          cases hword
        simp [startsWith, equalText, hsame]
    | cons c v =>
      rw [List.cons_append, List.cons_append, equalText, startsWith, startsWith]
      split
      · exact ih (fun l hl => hw l (List.mem_cons_of_mem _ hl))
          (fun c hc => hv c (List.mem_cons_of_mem _ hc))
      · rfl

/-! ### Gaps -/

theorem rests_plus_out {p : Char → Bool} {cs : List Char} (h : HeadOut p cs) :
    rests (plus p) cs = [] := by
  cases cs with
  | nil => rfl
  | cons c cs => simp [plus, rests, h c cs rfl]

theorem manyRests_out {p : Char → Bool} {cs : List Char} (h : HeadOut p cs) :
    manyRests p cs = [cs] := by
  cases cs with
  | nil => rfl
  | cons c cs => simp [manyRests, h c cs rfl]

/-- The longest run is tried first. -/
theorem manyRests_append {p : Char → Bool} {g : List Char} (hg : ∀ c ∈ g, p c = true)
    (hrest : HeadOut p rest) : ∃ others, manyRests p (g ++ rest) = rest :: others ∧
      ∀ a ∈ others, ∃ c cs, a = c :: cs ∧ p c = true := by
  induction g with
  | nil => exact ⟨[], manyRests_out hrest, nofun⟩
  | cons c g ih =>
    obtain ⟨others, hothers, hstart⟩ := ih fun c hc => hg c (List.mem_cons_of_mem _ hc)
    have hc := hg c List.mem_cons_self
    refine ⟨others ++ [c :: (g ++ rest)], ?_, ?_⟩
    · rw [List.cons_append, manyRests, if_pos hc, hothers]
      rfl
    · intro a ha
      cases List.mem_append.mp ha with
      | inl ha => exact hstart a ha
      | inr ha => exact ⟨c, g ++ rest, List.mem_singleton.mp ha, hc⟩

/-- Behind a gap nothing goes on that begins with a character of gaps. -/
theorem flatMap_plus {p : Char → Bool} {g : List Char} {f : List Char → List β} (hne : g ≠ [])
    (hg : ∀ c ∈ g, p c = true) (hrest : HeadOut p rest)
    (hf : ∀ c cs, p c = true → f (c :: cs) = []) :
    (rests (plus p) (g ++ rest)).flatMap f = f rest := by
  cases g with
  | nil => exact absurd rfl hne
  | cons c g =>
    obtain ⟨others, hothers, hstart⟩ :=
      manyRests_append (fun c hc => hg c (List.mem_cons_of_mem _ hc)) hrest
    have hnone : others.flatMap f = [] := by
      rw [List.flatMap_eq_nil_iff]
      intro a ha
      obtain ⟨d, ds, rfl, hd⟩ := hstart a ha
      exact hf d ds hd
    rw [List.cons_append, plus, rests, rests, if_pos (hg c List.mem_cons_self),
      List.flatMap_singleton, rests, hothers, List.flatMap_cons, hnone, List.append_nil]

/-- What is behind the gap at the start of a text, if there is one. -/
def behindGap : List Lexeme → Option (List Lexeme)
  | .gap _ :: ls => some ls
  | _ => none

theorem flatMap_gap {ls : List Lexeme} (h : Lexical k ls) {f : List Char → List β}
    (hf : ∀ c cs, k.space c = true → f (c :: cs) = []) :
    (rests (plus k.space) (render ls)).flatMap f =
      ((behindGap ls).map fun ls => f (render ls)).getD [] := by
  cases ls with
  | nil => rfl
  | cons l ls =>
    cases l with
    | word w =>
      obtain ⟨c, cs, htext, hc⟩ := exists_head h.head
      rw [render_cons, htext, List.cons_append, rests_plus_out (headOut_cons (k.disjoint c hc))]
      rfl
    | gap g => exact flatMap_plus h.head.1 h.head.2 h.headOut_gap hf
    | mark c =>
      have hout : HeadOut k.space (render (.mark c :: ls)) := headOut_cons h.head.2
      rw [rests_plus_out hout]
      rfl

theorem rests_seq_empty (r : Pattern) (cs : List Char) : rests (.seq r .empty) cs = rests r cs := by
  rw [rests]
  exact List.flatMap_singleton' _

theorem rests_opt (r : Pattern) (cs : List Char) : rests (opt r) cs = rests r cs ++ [cs] := rfl

theorem rests_wordEnd {isWord : Char → Bool} {cs : List Char} (h : HeadOut isWord cs) :
    rests (wordEnd isWord) cs = [cs] := by
  cases cs with
  | nil => rfl
  | cons c cs => simp [wordEnd, rests, h c cs rfl]

theorem rests_wordEnd_word {isWord : Char → Bool} {c : Char} {cs : List Char}
    (h : isWord c = true) : rests (wordEnd isWord) (c :: cs) = [] := by
  simp [wordEnd, rests, h]

/-! ### The word at the start -/

def leadingWord : List Lexeme → List Char × List Lexeme
  | .word w :: ls => (w, ls)
  | ls => ([], ls)

theorem render_leadingWord (ls : List Lexeme) :
    render ls = (leadingWord ls).1 ++ render (leadingWord ls).2 := by
  unfold leadingWord
  split <;> rfl

theorem leadingWord_word {ls : List Lexeme} (h : Lexical k ls) :
    ∀ c ∈ (leadingWord ls).1, k.word c = true := by
  unfold leadingWord
  split
  · exact h.head.2
  · exact nofun

theorem headOut_leadingWord {ls : List Lexeme} (h : Lexical k ls) :
    HeadOut k.word (render (leadingWord ls).2) := by
  cases ls with
  | nil => exact headOut_nil _
  | cons l ls =>
    cases l with
    | word w => exact h.headOut_word
    | gap g =>
      obtain ⟨c, cs, htext, hc⟩ := exists_head h.head
      rw [leadingWord, render_cons, htext]
      · apply headOut_cons
        by_contra hword
        have hspace := k.disjoint c (by simpa using hword)
        rw [show k.space c = true from hc] at hspace
        cases hspace
      · exact nofun
    | mark c =>
      rw [leadingWord]
      · exact headOut_cons h.head.1
      · exact nofun

end BrainV2.Lexemes
