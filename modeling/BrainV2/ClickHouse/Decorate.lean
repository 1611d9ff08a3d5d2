import BrainV2.ClickHouse.ReferencePatterns

/-!
# References with `FINAL`

* `decorate`: what the gateway does, in lexemes;
* `decorateWithFinal_render`: it is what the expression does to the text;
* `lexical_decorate`: what is decorated is a text of lexemes again.
-/

namespace BrainV2.ClickHouse

open Js (isSpace)
open Lexemes Regex

def isFinal (w : List Char) : Bool := equalText sameLetter "FINAL".toList w

def finalNext : List Lexeme → Bool
  | .gap _ :: .word w :: _ => isFinal w
  | _ => false

/-- What is put behind a reference. -/
def finalLexemes : List Lexeme := [.gap [' '], .word "FINAL".toList]

def missingFinal (rest : List Lexeme) : List Lexeme := if finalNext rest then [] else finalLexemes

def decorate : List Lexeme → List Lexeme
  | [] => []
  | l :: ls =>
    match referenceLength (l :: ls) with
    | some n =>
      l :: ls.take (n - 1) ++ missingFinal (ls.drop (n - 1)) ++ decorate (ls.drop (n - 1))
    | none => l :: decorate ls
termination_by ls => ls.length
decreasing_by all_goals simp; try omega

/-! ### `FINAL` -/

theorem isWord_final : ∀ l ∈ "FINAL".toList, isWord l = true :=
  List.all_eq_true.mp (by decide)

theorem finalAhead_render {ls : List Lexeme} (h : Lexical classes ls) :
    finalAhead (render ls) = finalNext ls := by
  have hspace : ∀ c cs, isSpace c = true →
      (rests (chain [keyword sameLetter "FINAL", wordEnd isWord]) (c :: cs)) = [] := by
    intro c cs hc
    rw [chain, List.foldr_cons, rests,
      rests_keyword_out isWord_final (by decide) (isWord_of_isSpace hc)]
    rfl
  have hgap : rests (chain [plus isSpace, keyword sameLetter "FINAL", wordEnd isWord])
      (render ls) = ((behindGap ls).map fun ls =>
        rests (chain [keyword sameLetter "FINAL", wordEnd isWord]) (render ls)).getD [] :=
    flatMap_gap h hspace
  rw [finalAhead, hgap]
  cases ls with
  | nil => rfl
  | cons l ls =>
    cases l with
    | word w => rfl
    | mark c => rfl
    | gap g =>
      have hword : ∀ c cs, isWord c = true → rests (chain [wordEnd isWord]) (c :: cs) = [] := by
        intro c cs hc
        rw [chain, List.foldr_cons, List.foldr_nil, rests_seq_empty, rests_wordEnd_word hc]
      have hkeyword : rests (chain [keyword sameLetter "FINAL", wordEnd isWord]) (render ls) =
          if isFinal (leadingWord ls).1 then rests (chain [wordEnd isWord])
            (render (leadingWord ls).2) else [] := by
        rw [render_leadingWord ls]
        exact flatMap_keyword (k := classes)
          (fun l hl c hc => isWord_of_sameLetter (isWord_final l hl) hc)
          (leadingWord_word h.tail) (headOut_leadingWord h.tail) hword
      have hend : rests (chain [wordEnd isWord]) (render (leadingWord ls).2) =
          [render (leadingWord ls).2] := by
        rw [chain, List.foldr_cons, List.foldr_nil, rests_seq_empty]
        exact rests_wordEnd (headOut_leadingWord h.tail)
      rw [hend] at hkeyword
      rw [behindGap, Option.map_some, Option.getD_some, hkeyword]
      cases ls with
      | nil => rfl
      | cons l ls =>
        cases l with
        | gap g => rfl
        | mark c => rfl
        | word w =>
          rw [finalNext, leadingWord]
          cases isFinal w <;> rfl

/-! ### Texts -/

theorem lead_out (c : Char) (cs : List Char) (hc : (!isWord c) = true) :
    rests referenceRule.lead (c :: cs) = [] :=
  rests_oneOf_out isWord_intros (by decide) (by simpa using hc) cs

def EndsWithWord (ls : List Lexeme) : Prop := ∃ front w, ls = front ++ [.word w]

theorem EndsWithWord.append {ls : List Lexeme} (h : EndsWithWord ls) (front : List Lexeme) :
    EndsWithWord (front ++ ls) := by
  obtain ⟨front', w, rfl⟩ := h
  exact ⟨front ++ front', w, (List.append_assoc ..).symm⟩

theorem behindDot_eq_some {ls rest : List Lexeme} (h : behindDot ls = some rest) :
    ls = .mark '.' :: rest := by
  unfold behindDot at h
  split at h
  · split at h
    · next hdot =>
      cases h
      rw [hdot]
    · cases h
  · cases h

theorem exists_of_isTable {ls : List Lexeme} (h : isTable (leadingWord ls).1 = true) :
    ∃ u rest, ls = .word u :: rest := by
  unfold leadingWord at h
  split at h
  · next u rest => exact ⟨u, rest, rfl⟩
  · rw [isTable_nil] at h
    cases h

theorem endsWithWord_table {ls : List Lexeme} {n : Nat} (h : tableLength ls = some n) :
    EndsWithWord (ls.take n) := by
  cases ls with
  | nil => cases h
  | cons l ls =>
    cases l with
    | gap g => cases h
    | mark c => cases h
    | word t =>
      rw [tableLength] at h
      split at h
      · obtain ⟨rest, hdot, hlength⟩ := Option.bind_eq_some_iff.mp h
        split at hlength
        · next htable =>
          obtain ⟨u, rest, rfl⟩ := exists_of_isTable htable
          cases hlength
          rw [behindDot_eq_some hdot]
          exact ⟨[.word t, .mark '.'], u, rfl⟩
        · cases hlength
      · split at h
        · cases h
          exact ⟨[], t, rfl⟩
        · cases h

theorem exists_of_takenWord {ls : List Lexeme} (h : takenWord ls = true) :
    ∃ g v rest, ls = .gap g :: .word v :: rest := by
  unfold takenWord at h
  split at h
  · next g v rest => exact ⟨g, v, rest, rfl⟩
  · cases h

theorem endsWithWord_alias (ls : List Lexeme) :
    aliasLength ls = 0 ∨ EndsWithWord (ls.take (aliasLength ls)) := by
  fun_cases aliasLength ls with
  | case1 g w ls has htaken =>
    obtain ⟨g', v, rest, rfl⟩ := exists_of_takenWord htaken
    exact .inr ⟨[.gap g, .word w, .gap g'], v, rfl⟩
  | case3 g w ls has halias => exact .inr ⟨[.gap g], w, rfl⟩
  | _ => exact .inl rfl

/-- A reference ends with a word. -/
theorem endsWithWord_reference {ls : List Lexeme} {n : Nat} (h : referenceLength ls = some n) :
    EndsWithWord (ls.take n) := by
  fun_cases referenceLength ls with
  | case1 w g ls hintro =>
    rw [referenceLength, if_pos hintro] at h
    obtain ⟨m, htable, rfl⟩ := Option.map_eq_some_iff.mp h
    have htext : (.word w :: .gap g :: ls).take (2 + m + aliasLength (ls.drop m)) =
        [.word w, .gap g] ++ ls.take m ++ (ls.drop m).take (aliasLength (ls.drop m)) := by
      rw [Nat.add_assoc, List.take_add, List.take_add, ← List.append_assoc]
      rfl
    rw [htext]
    cases endsWithWord_alias (ls.drop m) with
    | inl hzero =>
      rw [hzero, List.take_zero, List.append_nil]
      exact (endsWithWord_table htable).append _
    | inr halias => exact halias.append _
  | case2 w g ls hintro =>
    rw [referenceLength, if_neg hintro] at h
    cases h
  | case3 ls hother =>
    rw [referenceLength] at h
    · cases h
    · exact hother

theorem head?_of_reference {ls : List Lexeme} {n : Nat} (h : referenceLength ls = some n) :
    ∃ w, ls.head? = some (.word w) := by
  unfold referenceLength at h
  split at h
  · next w g ls => exact ⟨w, rfl⟩
  · cases h

theorem matchAt_none {prev : Option Char} {ls : List Lexeme} (h : Lexical classes ls)
    (hnone : referenceLength ls = none) : referenceRule.matchAt prev (render ls) = none := by
  have hrest := referenceRule.rest_matchAt prev (render ls)
  rw [head?_reference h, hnone, Option.map_none, ite_self] at hrest
  exact Option.map_eq_none_iff.mp hrest

/-- What is replaced at a reference, and what is left. -/
theorem matchAt_some {prev : Option Char} {ls : List Lexeme} {n : Nat} (h : Lexical classes ls)
    (hlength : referenceLength ls = some n) (hprev : prev.any isWord = false) :
    ∃ a, referenceRule.matchAt prev (render ls) = some a ∧ a.rest = render (ls.drop n) ∧
      before (render ls) a.rest = render (ls.take n) := by
  have hrest := referenceRule.rest_matchAt prev (render ls)
  have hstart : ¬ prev.any referenceRule.behind = true := by
    rw [show prev.any referenceRule.behind = false from hprev]
    nofun
  rw [head?_reference h, hlength, Option.map_some, if_neg hstart] at hrest
  obtain ⟨a, ha, harest⟩ := Option.map_eq_some_iff.mp hrest
  refine ⟨a, ha, harest, ?_⟩
  have htext : render ls = render (ls.take n) ++ render (ls.drop n) := by
    rw [← render_append, List.take_append_drop]
  rw [before, harest, htext, List.length_append, Nat.add_sub_cancel]
  exact List.take_left

theorem headOut_of_endsWithWord {ls ls' : List Lexeme} (h : EndsWithWord ls)
    (hlexical : Lexical classes (ls ++ ls')) (w : List Char) : ls'.head? ≠ some (.word w) := by
  obtain ⟨front, v, rfl⟩ := h
  intro hhead
  have happart := (List.isChain_append.mp hlexical.apart).2.2 (.word v)
    (by rw [List.getLast?_concat]; rfl) (.word w) hhead
  exact happart

theorem any_getLast?_or {p : Char → Bool} {u : List Char} (hne : u ≠ []) (hu : ∀ c ∈ u, p c = false)
    (prev : Option Char) : (u.getLast?.or prev).any p = false := by
  cases hlast : u.getLast? with
  | none => exact absurd (List.getLast?_eq_none_iff.mp hlast) hne
  | some c => exact hu c (List.mem_of_getLast? hlast)

/-- What is replaced in a text that does not begin in the middle of a word. -/
theorem substituteFrom_render {ls : List Lexeme} (h : Lexical classes ls) {prev : Option Char}
    (hprev : prev.any isWord = true → ∀ w, ls.head? ≠ some (.word w)) :
    substituteFrom referenceRule withFinal 0 prev (render ls) = render (decorate ls) := by
  fun_induction decorate ls generalizing prev with
  | case1 => rfl
  | case2 l ls n hlength ih =>
    have hends : EndsWithWord ((l :: ls).take n) := endsWithWord_reference hlength
    have hstart : prev.any isWord = false := by
      by_contra hword
      obtain ⟨w, hw⟩ := head?_of_reference hlength
      exact hprev (by simpa using hword) w hw
    obtain ⟨a, hmatch, hrest, hbefore⟩ := matchAt_some h hlength hstart
    obtain ⟨m, rfl⟩ : ∃ m, n = m + 1 := by
      cases n with
      | zero =>
        obtain ⟨front, w, hw⟩ := hends
        cases front <;> cases hw
      | succ m => exact ⟨m, rfl⟩
    rw [List.take_succ_cons] at hends hbefore
    rw [List.drop_succ_cons] at hrest
    rw [Nat.add_sub_cancel] at ih ⊢
    have hne : render (l :: ls.take m) ≠ [] := by
      obtain ⟨c, cs, htext, -⟩ := exists_head h.head
      rw [render_cons, htext]
      exact List.cons_ne_nil _ _
    have htext : l :: ls = (l :: ls.take m) ++ ls.drop m := by
      rw [List.cons_append, List.take_append_drop]
    have hbehind := headOut_of_endsWithWord hends (htext ▸ h)
    have hfinal : withFinal (render (l :: ls.take m)) a =
        render (l :: ls.take m ++ missingFinal (ls.drop m)) := by
      rw [withFinal, hrest, finalAhead_render (h.tail.drop m), missingFinal, render_append]
      split
      · rw [render_nil, List.append_nil]
      · rfl
    have hrender : render (l :: ls) = render (l :: ls.take m) ++ render (ls.drop m) := by
      rw [← render_append, ← htext]
    rw [hrender] at hmatch hbefore
    rw [hrender, substituteFrom_match hne hmatch hbefore, hfinal,
      ih (h.tail.drop m) fun _ => hbehind, ← render_append]
  | case3 l ls hlength ih =>
    have hnone : referenceRule.matchAt prev (render (l :: ls)) = none := matchAt_none h hlength
    cases l with
    | word w =>
      obtain ⟨hne, hw⟩ := h.head
      have hbehind : ∀ w, ls.head? ≠ some (.word w) := fun v hv => h.apart_head _ hv
      cases w with
      | nil => exact absurd rfl hne
      | cons c w =>
        have hc : (some c).any referenceRule.behind = true := hw c List.mem_cons_self
        have hrest : ∀ d ∈ w, referenceRule.behind d = true :=
          fun d hd => hw d (List.mem_cons_of_mem _ hd)
        rw [render_cons, Lexeme.text, List.cons_append] at hnone ⊢
        rw [render_cons, substituteFrom_none hnone, substituteFrom_behind hrest hc,
          ih h.tail fun _ => hbehind]
        rfl
    | gap g =>
      obtain ⟨hne, hg⟩ := h.head
      have hout : ∀ c ∈ g, isWord c = false := fun c hc => isWord_of_isSpace (hg c hc)
      rw [render_cons, render_cons, Lexeme.text, substituteFrom_out lead_out (by simpa using hout),
        ih h.tail]
      rw [any_getLast?_or hne hout]
      exact fun hfalse => absurd hfalse Bool.false_ne_true
    | mark c =>
      have hout : ∀ d ∈ [c], isWord d = false := List.forall_mem_singleton.mpr h.head.1
      rw [render_cons, render_cons, Lexeme.text, substituteFrom_out lead_out (by simpa using hout),
        ih h.tail]
      rw [any_getLast?_or (List.cons_ne_nil _ _) hout]
      exact fun hfalse => absurd hfalse Bool.false_ne_true

/-- What the gateway does to a text, in lexemes. -/
theorem decorateWithFinal_render {ls : List Lexeme} (h : Lexical classes ls) :
    decorateWithFinal (render ls) = render (decorate ls) :=
  substituteFrom_render h nofun

/-! ### Steps -/

theorem length_pos_of_reference {ls : List Lexeme} {n : Nat} (h : referenceLength ls = some n) :
    0 < n := by
  obtain ⟨front, w, hw⟩ := endsWithWord_reference h
  cases n with
  | zero => cases front <;> cases hw
  | succ m => exact Nat.succ_pos m

theorem decorate_found {ls : List Lexeme} {n : Nat} (h : referenceLength ls = some n) :
    decorate ls = ls.take n ++ missingFinal (ls.drop n) ++ decorate (ls.drop n) := by
  obtain ⟨m, rfl⟩ : ∃ m, n = m + 1 := ⟨n - 1, by have := length_pos_of_reference h; omega⟩
  cases ls with
  | nil => cases h
  | cons l ls =>
    rw [decorate, h]
    rfl

theorem decorate_cons {l : Lexeme} {ls : List Lexeme} (h : referenceLength (l :: ls) = none) :
    decorate (l :: ls) = l :: decorate ls := by
  rw [decorate, h]

/-- What does not go on a reference that begins before it. -/
structure Closed (rest : List Lexeme) : Prop where
  noTable : isTable (leadingWord rest).1 = false
  noBrain : isBrain (leadingWord rest).1 = false
  noDot : behindDot rest = none
  noGap : behindGap rest = none

theorem behindDot_append {ls rest : List Lexeme} (h : behindDot ls = none) (hrest : Closed rest) :
    behindDot (ls ++ rest) = none := by
  cases ls with
  | nil => exact hrest.noDot
  | cons l ls =>
    cases l with
    | word w => rfl
    | gap g => rfl
    | mark c =>
      rw [behindDot] at h
      rw [List.cons_append, behindDot]
      split
      · next hdot =>
        rw [if_pos hdot] at h
        cases h
      · rfl

theorem isTable_append {ls rest : List Lexeme} (h : isTable (leadingWord ls).1 = false)
    (hrest : Closed rest) : isTable (leadingWord (ls ++ rest)).1 = false := by
  cases ls with
  | nil => exact hrest.noTable
  | cons l ls => cases l <;> exact h

theorem tableLength_append {ls rest : List Lexeme} (h : tableLength ls = none)
    (hrest : Closed rest) : tableLength (ls ++ rest) = none := by
  cases ls with
  | nil =>
    cases rest with
    | nil => rfl
    | cons l rest =>
      cases l with
      | gap g => rfl
      | mark c => rfl
      | word t =>
        have hbrain : isBrain t = false := hrest.noBrain
        have htable : isTable t = false := hrest.noTable
        rw [List.nil_append, tableLength, hbrain, htable]
        rfl
  | cons l ls =>
    cases l with
    | gap g => rfl
    | mark c => rfl
    | word t =>
      rw [tableLength] at h
      rw [List.cons_append, tableLength]
      split
      · next hbrain =>
        rw [if_pos hbrain] at h
        cases hdot : behindDot ls with
        | none => rw [behindDot_append hdot hrest]; rfl
        | some back =>
          have hls := behindDot_eq_some hdot
          subst hls
          rw [hdot, Option.bind_some] at h
          have hback : isTable (leadingWord back).1 = false := by
            by_contra htable
            rw [if_pos (by simpa using htable)] at h
            cases h
          rw [List.cons_append, behindDot, if_pos rfl, Option.bind_some,
            isTable_append hback hrest]
          rfl
      · next hbrain =>
        rw [if_neg hbrain] at h
        exact h

theorem referenceLength_append {l : Lexeme} {ls rest : List Lexeme}
    (h : referenceLength (l :: ls) = none) (hrest : Closed rest) :
    referenceLength (l :: ls ++ rest) = none := by
  cases l with
  | gap g => rfl
  | mark c => rfl
  | word w =>
    cases ls with
    | nil =>
      cases rest with
      | nil => rfl
      | cons m rest =>
        cases m with
        | word v => rfl
        | mark c => rfl
        | gap g => cases hrest.noGap
    | cons m ls =>
      cases m with
      | word v => rfl
      | mark c => rfl
      | gap g =>
        rw [referenceLength] at h
        rw [List.cons_append, List.cons_append, referenceLength]
        split
        · next hintro =>
          rw [if_pos hintro, Option.map_eq_none_iff] at h
          rw [tableLength_append h hrest]
          rfl
        · rfl

/-- No reference begins in these lexemes. -/
def Free (ls : List Lexeme) : Prop := ∀ back ∈ ls.tails, referenceLength back = none

instance (ls : List Lexeme) : Decidable (Free ls) :=
  inferInstanceAs (Decidable (∀ back ∈ ls.tails, referenceLength back = none))

theorem decorate_append {ls rest : List Lexeme} (h : Free ls) (hrest : Closed rest) :
    decorate (ls ++ rest) = ls ++ decorate rest := by
  induction ls with
  | nil => rfl
  | cons l ls ih =>
    have hfree : Free ls := fun back hback => h back ((List.mem_tails _ _).mpr
      (((List.mem_tails _ _).mp hback).trans (List.suffix_cons l ls)))
    have hnone := referenceLength_append (h (l :: ls) ((List.mem_tails _ _).mpr List.suffix_rfl)) hrest
    rw [List.cons_append] at hnone ⊢
    rw [decorate_cons hnone, ih hfree, List.cons_append]

/-- The head of a text is never changed. -/
theorem head?_decorate (ls : List Lexeme) : (decorate ls).head? = ls.head? := by
  unfold decorate
  split
  · rfl
  · split <;> rfl

/-! ### Lexemes again -/

theorem lexical_insert {front back : List Lexeme} (h : Lexical classes (front ++ back))
    (hgap : ∀ g, front.getLast? ≠ some (.gap g)) (hword : ∀ w, back.head? ≠ some (.word w)) :
    Lexical classes (front ++ finalLexemes ++ back) := by
  have hfinal : ∀ l ∈ finalLexemes, l.Valid classes := by
    simp only [finalLexemes, List.mem_cons, List.not_mem_nil, or_false, forall_eq_or_imp,
      forall_eq]
    exact ⟨⟨by decide, List.all_eq_true.mp (by decide)⟩, ⟨by decide, isWord_final⟩⟩
  obtain ⟨hfront, hback, -⟩ := List.isChain_append.mp h.apart
  constructor
  · intro l hl
    rw [List.mem_append, List.mem_append] at hl
    obtain (hl | hl) | hl := hl
    · exact h.valid l (List.mem_append_left _ hl)
    · exact hfinal l hl
    · exact h.valid l (List.mem_append_right _ hl)
  · rw [List.append_assoc]
    refine List.isChain_append.mpr ⟨hfront, ?_, ?_⟩
    · refine List.isChain_append.mpr ⟨by simp [finalLexemes, Lexeme.Apart], hback, ?_⟩
      intro x hx y hy
      cases hx
      cases y with
      | word w => exact absurd hy (hword w)
      | gap g => trivial
      | mark c => trivial
    · intro x hx y hy
      cases hy
      cases x with
      | word w => trivial
      | gap g => exact absurd hx (hgap g)
      | mark c => trivial

theorem getLast?_of_endsWithWord {ls : List Lexeme} (h : EndsWithWord ls) (front : List Lexeme)
    (g : List Char) : (front ++ ls).getLast? ≠ some (.gap g) := by
  obtain ⟨front', w, rfl⟩ := h
  rw [← List.append_assoc, List.getLast?_concat]
  nofun

theorem lexical_decorate {front ls : List Lexeme} (h : Lexical classes (front ++ ls)) :
    Lexical classes (front ++ decorate ls) := by
  fun_induction decorate ls generalizing front with
  | case1 => exact h
  | case2 l ls n hlength ih =>
    obtain ⟨m, rfl⟩ : ∃ m, n = m + 1 := ⟨n - 1, by have := length_pos_of_reference hlength; omega⟩
    have hends : EndsWithWord (l :: ls.take m) := endsWithWord_reference hlength
    rw [Nat.add_sub_cancel] at ih ⊢
    have htext : front ++ (l :: ls) = front ++ (l :: ls.take m) ++ ls.drop m := by
      rw [List.append_assoc, List.cons_append, List.take_append_drop]
    have hrest := ih (htext ▸ h)
    have hbehind : ∀ w, (decorate (ls.drop m)).head? ≠ some (.word w) := by
      intro w
      rw [head?_decorate]
      exact headOut_of_endsWithWord (hends.append front) (htext ▸ h) w
    rw [missingFinal]
    split
    · rw [List.append_nil, ← List.append_assoc]
      exact hrest
    · rw [← List.append_assoc, ← List.append_assoc]
      exact lexical_insert hrest (getLast?_of_endsWithWord hends front) hbehind
  | case3 l ls hlength ih =>
    rw [List.append_cons] at h ⊢
    exact ih h

end BrainV2.ClickHouse
