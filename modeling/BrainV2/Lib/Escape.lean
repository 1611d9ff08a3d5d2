import Mathlib.Data.List.Basic
import Mathlib.Data.List.Infix
import Mathlib.Data.List.TakeWhile

/-!
# Escaping marks

A mark is an opening character with more behind it that opens nothing. Escaping replaces it by
an ampersand, with more behind it.

* `replace`: the occurrences of a pattern, from left to right;
* `escapeMarks`: one mark after the other is replaced;
* `Pass`, `escapeMarks_pass`: this is as good as one pass for all of them, where no mark is the
  start of another;
* `Pass.clean_iff`: what opens something after escaping opened it before, and is no mark.
-/

namespace BrainV2.Escape

variable {α : Type*} [DecidableEq α]

/-- Behind some characters to leave out. -/
def replaceFrom (pattern new : List α) : Nat → List α → List α
  | _, [] => []
  | skip + 1, _ :: cs => replaceFrom pattern new skip cs
  | 0, c :: cs =>
    if pattern <+: c :: cs then new ++ replaceFrom pattern new (pattern.length - 1) cs
    else c :: replaceFrom pattern new 0 cs

/-- `str.replace`, of a pattern that is not empty. -/
def replace (pattern new text : List α) : List α := replaceFrom pattern new 0 text

structure Mark (opener amp : α) where
  tail : List α
  rest : List α
  opener_tail : opener ∉ tail
  amp_tail : amp ∉ tail
  opener_rest : opener ∉ rest

section

variable {opener amp : α}

def Mark.pattern (m : Mark opener amp) : List α := opener :: m.tail

def Mark.escaped (m : Mark opener amp) : List α := amp :: m.rest

def escapeMark (text : List α) (m : Mark opener amp) : List α :=
  if m.pattern <:+: text then replace m.pattern m.escaped text else text

def escapeMarks (marks : List (Mark opener amp)) (text : List α) : List α :=
  marks.foldl escapeMark text

/-! ### One pass -/

/-- The marks are replaced where they stand, and nothing else is. -/
structure Pass (marks : List (Mark opener amp)) (f : List α → List α) : Prop where
  nil : f [] = []
  plain : ∀ c cs, c ≠ opener → f (c :: cs) = c :: f cs
  hit : ∀ m ∈ marks, ∀ cs, f (m.pattern ++ cs) = m.escaped ++ f cs
  miss : ∀ cs, (∀ m ∈ marks, ¬ m.pattern <+: opener :: cs) → f (opener :: cs) = opener :: f cs

variable {marks : List (Mark opener amp)} {f : List α → List α} {m : Mark opener amp}
  {w cs : List α}

omit [DecidableEq α] in
theorem Pass.append_plain (h : Pass marks f) (hw : opener ∉ w) (cs : List α) :
    f (w ++ cs) = w ++ f cs := by
  induction w with
  | nil => rfl
  | cons c w ih =>
    rw [List.mem_cons, not_or] at hw
    rw [List.cons_append, h.plain c _ fun e => hw.1 e.symm, ih hw.2, List.cons_append]

theorem replaceFrom_skip (pattern new w cs : List α) :
    replaceFrom pattern new w.length (w ++ cs) = replaceFrom pattern new 0 cs := by
  induction w with
  | nil => rfl
  | cons c w ih =>
    rw [List.length_cons, List.cons_append, replaceFrom]
    exact ih

theorem replace_pass (m : Mark opener amp) : Pass [m] (replace m.pattern m.escaped) := by
  constructor
  · rfl
  · intro c cs hc
    have hnot : ¬ m.pattern <+: c :: cs := by
      rintro ⟨rest, hrest⟩
      exact hc (List.cons.inj hrest).1.symm
    rw [replace, replaceFrom, if_neg hnot]
    rfl
  · intro m' hm cs
    rw [List.mem_singleton.mp hm]
    have hlength : m.pattern.length - 1 = m.tail.length := rfl
    have hprefix : m.pattern <+: opener :: (m.tail ++ cs) := List.prefix_append _ _
    rw [replace, Mark.pattern, List.cons_append, replaceFrom, ← Mark.pattern, if_pos hprefix,
      hlength, replaceFrom_skip]
    rfl
  · intro cs hnot
    rw [replace, replaceFrom, if_neg (hnot m List.mem_cons_self)]
    rfl

theorem escapeMark_eq (text : List α) (m : Mark opener amp) :
    escapeMark text m = replace m.pattern m.escaped text := by
  unfold escapeMark
  split
  · rfl
  · next hnot =>
    -- Without an occurrence nothing is replaced.
    symm
    induction text with
    | nil => rfl
    | cons c cs ih =>
      have hprefix : ¬ m.pattern <+: c :: cs := fun h => hnot h.isInfix
      rw [replace, replaceFrom, if_neg hprefix]
      exact congrArg _ (ih fun h => hnot (h.trans (List.suffix_cons c cs).isInfix))

/-- What has neither an opener nor an ampersand stands after a pass where it stood before. -/
theorem Pass.prefix_back (h : Pass marks f) {w : List α} (hopener : opener ∉ w) (hamp : amp ∉ w)
    (hw : w <+: f cs) : w <+: cs := by
  induction w generalizing cs with
  | nil => exact List.nil_prefix
  | cons c w ih =>
    rw [List.mem_cons, not_or] at hopener hamp
    cases cs with
    | nil =>
      rw [h.nil] at hw
      cases List.prefix_nil.mp hw
    | cons d cs =>
      by_cases hd : d = opener
      · exfalso
        rw [hd] at hw
        by_cases hmark : ∃ m ∈ marks, m.pattern <+: opener :: cs
        · obtain ⟨m, hm, rest, hrest⟩ := hmark
          rw [← hrest, h.hit m hm, Mark.escaped, List.cons_append, List.cons_prefix_cons] at hw
          exact hamp.1 hw.1.symm
        · push Not at hmark
          rw [h.miss cs hmark, List.cons_prefix_cons] at hw
          exact hopener.1 hw.1.symm
      · rw [h.plain d cs hd, List.cons_prefix_cons] at hw
        rw [hw.1]
        exact List.cons_prefix_cons.mpr ⟨rfl, ih hopener.2 hamp.2 hw.2⟩

/-- Neither mark is the start of the other. -/
def Apart (m m' : Mark opener amp) : Prop := ¬ m.pattern <+: m'.pattern ∧ ¬ m'.pattern <+: m.pattern

theorem Pass.comp (h : Pass marks f) (hne : opener ≠ amp) (hapart : ∀ m' ∈ marks, Apart m' m) :
    Pass (marks ++ [m]) fun text => replace m.pattern m.escaped (f text) := by
  have hlast := replace_pass m
  have hescaped : ∀ m' : Mark opener amp, opener ∉ m'.escaped := by
    intro m'
    rw [Mark.escaped, List.mem_cons, not_or]
    exact ⟨hne, m'.opener_rest⟩
  constructor
  · rw [h.nil, hlast.nil]
  · intro c cs hc
    rw [h.plain c cs hc, hlast.plain c _ hc]
  · intro m' hm cs
    cases List.mem_append.mp hm with
    | inl hm => rw [h.hit m' hm, hlast.append_plain (hescaped m')]
    | inr hm =>
      rw [List.mem_singleton.mp hm]
      have hnone : ∀ m' ∈ marks, ¬ m'.pattern <+: opener :: (m.tail ++ cs) := by
        intro m' hm' hprefix
        have hself : m.pattern <+: opener :: (m.tail ++ cs) := List.prefix_append _ _
        cases List.prefix_or_prefix_of_prefix hprefix hself with
        | inl hle => exact (hapart m' hm').1 hle
        | inr hle => exact (hapart m' hm').2 hle
      rw [Mark.pattern, List.cons_append, h.miss _ hnone, h.append_plain m.opener_tail,
        ← List.cons_append, ← Mark.pattern, hlast.hit m List.mem_cons_self]
  · intro cs hnone
    rw [h.miss cs fun m' hm' => hnone m' (List.mem_append_left _ hm')]
    refine hlast.miss _ fun m' hm' hprefix => ?_
    rw [List.mem_singleton.mp hm', Mark.pattern, List.cons_prefix_cons] at hprefix
    have hbefore := h.prefix_back m.opener_tail m.amp_tail hprefix.2
    exact hnone m (List.mem_append_right _ List.mem_cons_self)
      (List.cons_prefix_cons.mpr ⟨rfl, hbefore⟩)

theorem escapeMarks_pass (hne : opener ≠ amp) (marks : List (Mark opener amp))
    (h : marks.Pairwise Apart) : Pass marks (escapeMarks marks) := by
  induction marks using List.reverseRecOn with
  | nil =>
    exact ⟨rfl, fun _ _ _ => rfl, fun _ hm => absurd hm List.not_mem_nil, fun _ _ => rfl⟩
  | append_singleton marks m ih =>
    obtain ⟨hmarks, -, hapart⟩ := List.pairwise_append.mp h
    have hcomp := (ih hmarks).comp hne fun m' hm' => hapart m' hm' m List.mem_cons_self
    have heq : escapeMarks (marks ++ [m]) =
        fun text => replace m.pattern m.escaped (escapeMarks marks text) := by
      funext text
      rw [escapeMarks, List.foldl_append]
      exact escapeMark_eq _ m
    rw [heq]
    exact hcomp

/-! ### What is left open -/

/-- Nothing of the kind starts anywhere in the text. -/
def Clean (P : List α → Prop) (text : List α) : Prop := ∀ u, u <:+ text → ¬ P u

variable {P : List α → Prop}

omit [DecidableEq α] in
theorem clean_cons {c : α} : Clean P (c :: cs) ↔ ¬ P (c :: cs) ∧ Clean P cs := by
  constructor
  · intro h
    exact ⟨h _ (List.suffix_refl _), fun u hu => h u (hu.trans (List.suffix_cons c cs))⟩
  · rintro ⟨hself, hrest⟩ u hu
    cases List.suffix_cons_iff.mp hu with
    | inl heq => rwa [heq]
    | inr hu => exact hrest u hu

/-- What is of the kind starts with an opener. -/
def Opens (opener : α) (P : List α → Prop) : Prop := ∀ u, P u → u.head? = some opener

omit [DecidableEq α] in
theorem clean_append_plain (hP : Opens opener P) (hw : opener ∉ w) :
    Clean P (w ++ cs) ↔ Clean P cs := by
  induction w with
  | nil => rfl
  | cons c w ih =>
    rw [List.mem_cons, not_or] at hw
    rw [List.cons_append, clean_cons, ih hw.2]
    refine and_iff_right fun h => hw.1 ?_
    exact (Option.some.inj (hP _ h)).symm

omit [DecidableEq α] in
/-- Where nothing of the kind reaches over from the one part to the other. -/
theorem clean_append (hnil : ¬ P []) (hcut : ∀ u, u <:+ w → u ≠ [] → (P (u ++ cs) ↔ P u)) :
    Clean P (w ++ cs) ↔ Clean P w ∧ Clean P cs := by
  induction w with
  | nil =>
    have hempty : Clean P [] := by
      intro u hu
      rwa [List.suffix_nil.mp hu]
    rw [List.nil_append]
    exact (and_iff_right hempty).symm
  | cons c w ih =>
    have hself : P (c :: (w ++ cs)) ↔ P (c :: w) := hcut (c :: w) (List.suffix_refl _) (by simp)
    have hrest := ih fun u hu => hcut u (hu.trans (List.suffix_cons c w))
    rw [List.cons_append, clean_cons, clean_cons, hself, hrest, and_assoc]

/-- A text that is at its end, or opens or escapes something. -/
def Ends (opener amp : α) (text : List α) : Prop :=
  ∀ c ∈ text.head?, c = opener ∨ c = amp

/-- Whether something of the kind starts at an opener is settled before the next opener or
ampersand that follows at the end of a part without openers. -/
def Local (opener amp : α) (P : List α → Prop) : Prop :=
  ∀ w z z', opener ∉ w → Ends opener amp z → Ends opener amp z' →
    (P (opener :: (w ++ z)) ↔ P (opener :: (w ++ z')))

theorem Pass.ends (h : Pass marks f) (hends : ∀ c ∈ cs.head?, c = opener) :
    Ends opener amp (f cs) := by
  cases cs with
  | nil =>
    rw [h.nil]
    intro c hc
    cases hc
  | cons c cs =>
    obtain rfl : c = opener := hends c rfl
    by_cases hmark : ∃ m ∈ marks, m.pattern <+: c :: cs
    · obtain ⟨m, hm, rest, hrest⟩ := hmark
      rw [← hrest, h.hit m hm]
      intro d hd
      exact Or.inr (Option.some.inj hd).symm
    · push Not at hmark
      rw [h.miss cs hmark]
      intro d hd
      exact Or.inl (Option.some.inj hd).symm

theorem split_opener (opener : α) (cs : List α) :
    ∃ w z, cs = w ++ z ∧ opener ∉ w ∧ ∀ c ∈ z.head?, c = opener := by
  refine ⟨cs.takeWhile (· ≠ opener), cs.dropWhile (· ≠ opener),
    (List.takeWhile_append_dropWhile).symm, ?_, ?_⟩
  · intro hmem
    have hne := List.mem_takeWhile_imp hmem
    simp at hne
  · intro c hc
    have hnot := List.head?_dropWhile_not (· ≠ opener) cs
    rw [Option.mem_def.mp hc] at hnot
    simpa using hnot

omit [DecidableEq α] in
/-- Behind the first occurrence of a character. -/
theorem eq_of_first_eq {a : α} {w' z z' : List α} (hw : a ∉ w) (hw' : a ∉ w')
    (h : w ++ a :: z = w' ++ a :: z') : z = z' := by
  induction w generalizing w' with
  | nil =>
    cases w' with
    | nil => exact (List.cons.inj h).2
    | cons d w' =>
      rw [(List.cons.inj h).1] at hw'
      exact absurd List.mem_cons_self hw'
  | cons c w ih =>
    cases w' with
    | nil =>
      rw [← (List.cons.inj h).1] at hw
      exact absurd List.mem_cons_self hw
    | cons d w' =>
      rw [List.mem_cons, not_or] at hw hw'
      exact ih hw.2 hw'.2 (List.cons.inj h).2

/-- Something of the kind starts here, and none of the marks does. -/
def Unmarked (marks : List (Mark opener amp)) (P : List α → Prop) (u : List α) : Prop :=
  P u ∧ ∀ m ∈ marks, ¬ m.pattern <+: u

/-- After escaping, the text is free of what is of the kind when all that was of it were marks. -/
theorem Pass.clean_iff (h : Pass marks f) (hne : opener ≠ amp) (hP : Opens opener P)
    (hlocal : Local opener amp P) (text : List α) :
    Clean P (f text) ↔ Clean (Unmarked marks P) text := by
  have hboth : Opens opener (Unmarked marks P) := fun u hu => hP u hu.1
  induction hlength : text.length using Nat.strong_induction_on generalizing text with
  | _ n ih =>
    cases text with
    | nil =>
      have hnone : ¬ P [] := fun hnil => by cases hP _ hnil
      rw [h.nil]
      refine iff_of_true ?_ ?_
      · intro u hu
        rwa [List.suffix_nil.mp hu]
      · intro u hu hboth
        rw [List.suffix_nil.mp hu] at hboth
        exact hnone hboth.1
    | cons c cs =>
      by_cases hc : c = opener
      · rw [hc]
        by_cases hmark : ∃ m ∈ marks, m.pattern <+: opener :: cs
        · obtain ⟨m, hm, rest, hrest⟩ := hmark
          have hcs : cs = m.tail ++ rest := (List.cons.inj hrest).2.symm
          have hescaped : Clean P (m.escaped ++ f rest) ↔ Clean P (f rest) := by
            refine clean_append_plain hP ?_
            rw [Mark.escaped, List.mem_cons, not_or]
            exact ⟨hne, m.opener_rest⟩
          rw [← hrest, h.hit m hm, hescaped, Mark.pattern, List.cons_append, clean_cons,
            clean_append_plain hboth m.opener_tail]
          have hshort : rest.length < n := by
            rw [← hlength, hcs, List.length_cons, List.length_append]
            omega
          have hrest : Clean P (f rest) ↔ Clean (Unmarked marks P) rest :=
            ih rest.length hshort rest rfl
          rw [hrest]
          refine (and_iff_right fun hself => ?_).symm
          exact hself.2 m hm (List.prefix_append _ _)
        · push Not at hmark
          rw [h.miss cs hmark, clean_cons, clean_cons]
          have hshort : cs.length < n := by
            rw [← hlength]
            simp
          obtain ⟨w, z, hsplit, hw, hz⟩ := split_opener opener cs
          have hhead : P (opener :: f cs) ↔ P (opener :: cs) := by
            rw [hsplit, h.append_plain hw]
            exact hlocal w (f z) z hw (h.ends hz) fun c hc => Or.inl (hz c hc)
          have hrest : Clean P (f cs) ↔ Clean (Unmarked marks P) cs :=
            ih cs.length hshort cs rfl
          rw [hrest, hhead]
          exact and_congr_left fun _ =>
            ⟨fun hnot hboth => hnot hboth.1, fun hnot hself => hnot ⟨hself, hmark⟩⟩
      · have hplain : ∀ Q : List α → Prop, Opens opener Q →
            ∀ rest, (Clean Q (c :: rest) ↔ Clean Q rest) := by
          intro Q hQ rest
          exact clean_append_plain (w := [c]) hQ (by simpa using fun e => hc e.symm)
        rw [h.plain c cs hc, hplain _ hP, hplain _ hboth]
        exact ih cs.length (by rw [← hlength]; simp) cs rfl

end

end BrainV2.Escape
