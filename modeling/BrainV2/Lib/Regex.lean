import Mathlib.Data.List.Infix
import Mathlib.Tactic.Tauto

/-!
# Backtracking regular expressions

* `Pattern`: expressions whose repetitions are greedy and of one class of characters;
* `rests`: what a pattern can leave of a text, in the order in which it is tried;
* `Rule`, `scan`: a pattern with a part to capture, and its matches from left to right;
* `rests_stop`: a pattern does not see past a character that none of its classes has;
* `Leads`: what a pattern leaves of a text at its first attempt, with a rule for each pattern;
* `Rule.matchAt_of_leads`, `scan_whole`: a rule whose first attempt takes the whole text has
  this one match;
* `scan_of_needs_tail`: a rule finds nothing without a character its tail needs;
* `scan_spans`: every match is a part of the text.
-/

namespace BrainV2.Regex

section

inductive Pattern where
  /-- Nothing. -/
  | empty
  /-- One character of a class. -/
  | one (p : Char → Bool)
  /-- As many characters of a class as there are, or fewer. -/
  | many (p : Char → Bool)
  | seq (r s : Pattern)
  | alt (r s : Pattern)
  /-- Nothing, where the pattern does not match. -/
  | notAhead (r : Pattern)

def manyRests (p : Char → Bool) : List Char → List (List Char)
  | [] => [[]]
  | c :: cs => if p c then manyRests p cs ++ [c :: cs] else [c :: cs]

def rests : Pattern → List Char → List (List Char)
  | .empty, cs => [cs]
  | .one _, [] => []
  | .one p, c :: cs => if p c then [cs] else []
  | .many p, cs => manyRests p cs
  | .seq r s, cs => (rests r cs).flatMap (rests s)
  | .alt r s, cs => rests r cs ++ rests s cs
  | .notAhead r, cs => if rests r cs = [] then [cs] else []

/-- The pattern, or nothing. -/
def opt (r : Pattern) : Pattern := .alt r .empty

/-- One or more characters of a class. -/
def plus (p : Char → Bool) : Pattern := .seq (.one p) (.many p)

def chain (rs : List Pattern) : Pattern := rs.foldr Pattern.seq .empty

/-- A pattern in three parts, of which the one in the middle is captured. No match starts behind
a character of the class `behind`. -/
structure Rule where
  behind : Char → Bool
  lead : Pattern
  body : Pattern
  tail : Pattern

/-- What is left at the start of the captured part, at its end and behind the match. -/
structure Attempt where
  atBody : List Char
  atTail : List Char
  rest : List Char

/-- The body and the tail of a match, from the start of the body. -/
def Rule.finish (rule : Rule) (atBody : List Char) : Option Attempt :=
  (rests rule.body atBody).findSome? fun atTail =>
    (rests rule.tail atTail).head?.map fun rest => ⟨atBody, atTail, rest⟩

/-- The match at the start of a text, behind a character. -/
def Rule.matchAt (rule : Rule) (prev : Option Char) (cs : List Char) : Option Attempt :=
  if prev.any rule.behind then none else (rests rule.lead cs).findSome? rule.finish

/-- A match and where it stands. -/
structure Found where
  start : Nat
  stop : Nat
  text : List Char
  captured : List Char
deriving DecidableEq

/-- The part of a text in front of one of its ends. -/
def before (cs rest : List Char) : List Char := cs.take (cs.length - rest.length)

def Attempt.found (a : Attempt) (pos : Nat) (cs : List Char) : Found where
  start := pos
  stop := pos + (before cs a.rest).length
  text := before cs a.rest
  captured := before a.atBody a.atTail

/-- `finditer`, for rules that never match nothing: the matches of a text that starts at a
position behind a character, after leaving some characters out. -/
def scanFrom (rule : Rule) : Nat → Option Char → Nat → List Char → List Found
  | _, _, _, [] => []
  | skip + 1, _, pos, c :: cs => scanFrom rule skip (some c) (pos + 1) cs
  | 0, prev, pos, c :: cs =>
    match rule.matchAt prev (c :: cs) with
    | some a =>
      a.found pos (c :: cs) ::
        scanFrom rule ((before (c :: cs) a.rest).length - 1) (some c) (pos + 1) cs
    | none => scanFrom rule 0 (some c) (pos + 1) cs

def scan (rule : Rule) (cs : List Char) : List Found := scanFrom rule 0 none 0 cs

/-! ### What a pattern sees -/

/-- No class of the pattern has the character. -/
def Stops (c : Char) : Pattern → Prop
  | .empty => True
  | .one p => p c = false
  | .many p => p c = false
  | .seq r s => Stops c r ∧ Stops c s
  | .alt r s => Stops c r ∧ Stops c s
  | .notAhead r => Stops c r

instance decidableStops (c : Char) : (r : Pattern) → Decidable (Stops c r)
  | .empty => .isTrue trivial
  | .one p => inferInstanceAs (Decidable (p c = false))
  | .many p => inferInstanceAs (Decidable (p c = false))
  | .seq r s => @instDecidableAnd _ _ (decidableStops c r) (decidableStops c s)
  | .alt r s => @instDecidableAnd _ _ (decidableStops c r) (decidableStops c s)
  | .notAhead r => decidableStops c r

variable {r s : Pattern} {c : Char} {cs rest : List Char}

theorem manyRests_suffix {p : Char → Bool} : ∀ a ∈ manyRests p cs, a <:+ cs := by
  induction cs with
  | nil => simp [manyRests]
  | cons c cs ih =>
    intro a ha
    unfold manyRests at ha
    split at ha
    · rcases List.mem_append.mp ha with ha | ha
      · exact (ih a ha).trans (List.suffix_cons c cs)
      · rw [List.mem_singleton.mp ha]
    · rw [List.mem_singleton.mp ha]

theorem mem_rests_one {p : Char → Bool} :
    rest ∈ rests (.one p) cs ↔ ∃ c, p c = true ∧ cs = c :: rest := by
  cases cs with
  | nil => simp [rests]
  | cons c cs =>
    rw [rests]
    split
    · next hc =>
      rw [List.mem_singleton]
      constructor
      · rintro rfl
        exact ⟨c, hc, rfl⟩
      · rintro ⟨d, -, hd⟩
        exact (List.cons.inj hd).2.symm
    · next hc =>
      refine iff_of_false List.not_mem_nil ?_
      rintro ⟨d, hd, heq⟩
      rw [← (List.cons.inj heq).1] at hd
      exact hc hd

theorem mem_manyRests {p : Char → Bool} :
    rest ∈ manyRests p cs ↔ ∃ w, cs = w ++ rest ∧ ∀ c ∈ w, p c = true := by
  constructor
  · intro h
    induction cs with
    | nil =>
      rw [List.mem_singleton.mp h]
      exact ⟨[], rfl, by simp⟩
    | cons c cs ih =>
      unfold manyRests at h
      split at h
      · next hc =>
        cases List.mem_append.mp h with
        | inl hmem =>
          obtain ⟨w, rfl, hw⟩ := ih hmem
          exact ⟨c :: w, rfl, List.forall_mem_cons.mpr ⟨hc, hw⟩⟩
        | inr hself =>
          rw [List.mem_singleton.mp hself]
          exact ⟨[], rfl, by simp⟩
      · rw [List.mem_singleton.mp h]
        exact ⟨[], rfl, by simp⟩
  · rintro ⟨w, rfl, hw⟩
    induction w with
    | nil =>
      cases rest with
      | nil => exact List.mem_singleton_self _
      | cons c rest =>
        rw [List.nil_append, manyRests]
        split <;> simp
    | cons c w ih =>
      rw [List.forall_mem_cons] at hw
      rw [List.cons_append, manyRests, if_pos hw.1]
      exact List.mem_append_left _ (ih hw.2)

theorem rests_suffix : ∀ a ∈ rests r cs, a <:+ cs := by
  induction r generalizing cs with
  | empty => simp [rests]
  | one p =>
    intro a ha
    cases cs with
    | nil => cases ha
    | cons c cs =>
      unfold rests at ha
      split at ha
      · rw [List.mem_singleton.mp ha]
        exact List.suffix_cons c cs
      · cases ha
  | many p => exact manyRests_suffix
  | seq r s ihr ihs =>
    intro a ha
    obtain ⟨b, hb, hab⟩ := List.mem_flatMap.mp ha
    exact (ihs a hab).trans (ihr b hb)
  | alt r s ihr ihs =>
    intro a ha
    rcases List.mem_append.mp ha with ha | ha
    · exact ihr a ha
    · exact ihs a ha
  | notAhead r ih =>
    intro a ha
    unfold rests at ha
    split at ha
    · rw [List.mem_singleton.mp ha]
    · cases ha

theorem manyRests_stop {p : Char → Bool} (h : p c = false) (w : List Char) :
    manyRests p (w ++ c :: rest) = (manyRests p w).map (· ++ c :: rest) := by
  induction w with
  | nil => simp [manyRests, h]
  | cons d w ih =>
    simp only [List.cons_append, manyRests]
    split
    · rw [ih, List.map_append]
      rfl
    · rfl

/-- A character that no class has is the end of the text to a pattern. -/
theorem rests_stop (h : Stops c r) (w : List Char) :
    rests r (w ++ c :: rest) = (rests r w).map (· ++ c :: rest) := by
  induction r generalizing w with
  | empty => rfl
  | one p =>
    have hp : p c = false := h
    cases w with
    | nil => simp [rests, hp]
    | cons d w =>
      simp only [List.cons_append, rests]
      split <;> rfl
  | many p => exact manyRests_stop h w
  | seq r s ihr ihs =>
    simp only [rests]
    rw [ihr h.1, List.flatMap_map, List.map_flatMap]
    simp only [ihs h.2]
  | alt r s ihr ihs =>
    simp only [rests]
    rw [ihr h.1, ihs h.2, List.map_append]
  | notAhead r ih =>
    simp only [rests, ih h, List.map_eq_nil_iff]
    split <;> rfl

/-! ### In front of a character -/

/-- The pattern matches nothing. -/
def nullable : Pattern → Bool
  | .empty => true
  | .one _ => false
  | .many _ => true
  | .seq r s => nullable r && nullable s
  | .alt r s => nullable r || nullable s
  | .notAhead _ => true

/-- In front of the character the pattern does as at the end of a text. -/
def begins (c : Char) : Pattern → Bool
  | .empty => true
  | .one p => !p c
  | .many p => !p c
  | .seq r s => begins c r && (!nullable r || begins c s)
  | .alt r s => begins c r && begins c s
  | .notAhead r => begins c r

theorem not_nullable (h : nullable r = false) : rests r [] = [] := by
  induction r with
  | empty => cases h
  | one p => rfl
  | many p => cases h
  | seq r s ihr ihs =>
    rw [nullable, Bool.and_eq_false_iff] at h
    cases h with
    | inl hr => simp [rests, ihr hr]
    | inr hs =>
      rw [rests, List.flatMap_eq_nil_iff]
      intro a ha
      rw [List.suffix_nil.mp (rests_suffix a ha), ihs hs]
  | alt r s ihr ihs =>
    rw [nullable, Bool.or_eq_false_iff] at h
    simp [rests, ihr h.1, ihs h.2]
  | notAhead r => cases h

theorem begins_spec (h : begins c r = true) :
    rests r (c :: rest) = (rests r []).map (· ++ c :: rest) := by
  induction r with
  | empty => rfl
  | one p =>
    have hp : p c = false := by simpa [begins] using h
    simp [rests, hp]
  | many p =>
    have hp : p c = false := by simpa [begins] using h
    simp [rests, manyRests, hp]
  | seq r s ihr ihs =>
    rw [begins, Bool.and_eq_true, Bool.or_eq_true] at h
    rw [rests, rests, ihr h.1, List.flatMap_map, List.map_flatMap]
    cases h.2 with
    | inl hnull => simp [not_nullable (by simpa using hnull : nullable r = false)]
    | inr hs =>
      have hnil : ∀ a ∈ rests r [], rests s (a ++ c :: rest) = (rests s a).map (· ++ c :: rest) := by
        intro a ha
        rw [List.suffix_nil.mp (rests_suffix a ha)]
        exact ihs hs
      exact congrArg List.flatten (List.map_congr_left hnil)
  | alt r s ihr ihs =>
    rw [begins, Bool.and_eq_true] at h
    rw [rests, rests, ihr h.1, ihs h.2, List.map_append]
  | notAhead r ih =>
    simp only [rests, ih h, List.map_eq_nil_iff]
    split <;> rfl

variable {rule : Rule} {prev : Option Char} {a : Attempt} {t u : List Char}

theorem Rule.finish_spec {atBody : List Char} (h : rule.finish atBody = some a) :
    a.atBody = atBody ∧ a.atTail ∈ rests rule.body a.atBody ∧ a.rest ∈ rests rule.tail a.atTail := by
  obtain ⟨atTail, hbody, htail⟩ := List.exists_of_findSome?_eq_some h
  obtain ⟨rest, hrest, rfl⟩ := Option.map_eq_some_iff.mp htail
  exact ⟨rfl, hbody, List.mem_of_mem_head? hrest⟩

theorem Rule.matchAt_spec (h : rule.matchAt prev cs = some a) :
    a.atBody ∈ rests rule.lead cs ∧ rule.finish a.atBody = some a := by
  unfold Rule.matchAt at h
  split at h
  · cases h
  · obtain ⟨atBody, hlead, hfinish⟩ := List.exists_of_findSome?_eq_some h
    rw [(finish_spec hfinish).1]
    exact ⟨hlead, hfinish⟩

/-- The pattern cannot match without a character of the class. -/
def Needs (p : Char → Bool) : Pattern → Prop
  | .empty => False
  | .one q => ∀ c, q c = true → p c = true
  | .many _ => False
  | .seq r s => Needs p r ∨ Needs p s
  | .alt r s => Needs p r ∧ Needs p s
  | .notAhead _ => False

theorem exists_of_needs {p : Char → Bool} (h : Needs p r) {a : List Char}
    (ha : a ∈ rests r cs) : ∃ c ∈ cs, p c = true := by
  induction r generalizing cs a with
  | empty => cases h
  | one q =>
    cases cs with
    | nil => cases ha
    | cons c cs =>
      refine ⟨c, List.mem_cons_self, h c ?_⟩
      by_contra hq
      simp [rests, hq] at ha
  | many q => cases h
  | seq r s ihr ihs =>
    obtain ⟨b, hb, hab⟩ := List.mem_flatMap.mp ha
    cases h with
    | inl hr => exact ihr hr hb
    | inr hs =>
      obtain ⟨c, hc, hp⟩ := ihs hs hab
      exact ⟨c, (rests_suffix b hb).subset hc, hp⟩
  | alt r s ihr ihs =>
    cases List.mem_append.mp ha with
    | inl ha => exact ihr h.1 ha
    | inr ha => exact ihs h.2 ha
  | notAhead r => cases h

theorem scanFrom_eq_nil (h : ∀ t, t <:+ cs → ∀ prev, rule.matchAt prev t = none)
    (skip pos : Nat) : scanFrom rule skip prev pos cs = [] := by
  induction cs generalizing skip prev pos with
  | nil => rfl
  | cons c cs ih =>
    have hrest : ∀ t, t <:+ cs → ∀ prev, rule.matchAt prev t = none :=
      fun t ht => h t (ht.trans (List.suffix_cons c cs))
    cases skip with
    | succ skip => exact ih hrest skip (pos + 1)
    | zero =>
      rw [scanFrom, h _ (List.suffix_refl _)]
      exact ih hrest 0 (pos + 1)

/-- A rule finds nothing in a text without the characters its body needs. -/
theorem scan_eq_nil_of_needs {p : Char → Bool} (hneeds : Needs p rule.body)
    (h : ∀ c ∈ cs, p c = false) : scan rule cs = [] := by
  apply scanFrom_eq_nil
  intro t ht prev
  by_contra hsome
  obtain ⟨a, ha⟩ := Option.ne_none_iff_exists'.mp hsome
  obtain ⟨hlead, hfinish⟩ := Rule.matchAt_spec ha
  obtain ⟨c, hc, hp⟩ := exists_of_needs hneeds (Rule.finish_spec hfinish).2.1
  rw [h c (ht.subset ((rests_suffix _ hlead).subset hc))] at hp
  cases hp

end

/-! ## The first match of an expression -/

section

variable {r s : Pattern} {p : Char → Bool} {c : Char} {cs a b rest : List Char}

section Leads

/-- The first that the pattern tries to leave of the text. -/
def Leads (r : Pattern) (cs rest : List Char) : Prop := (rests r cs).head? = some rest

instance (r : Pattern) (cs rest : List Char) : Decidable (Leads r cs rest) :=
  inferInstanceAs (Decidable (_ = _))

theorem leads_empty : Leads .empty cs cs := rfl

theorem leads_one (h : p c = true) : Leads (.one p) (c :: rest) rest := by
  simp [Leads, rests, h]

/-- A repetition takes all the characters of its class. -/
theorem leads_many {w : List Char} (hw : ∀ c ∈ w, p c = true)
    (hrest : ∀ c ∈ rest.head?, p c = false) : Leads (.many p) (w ++ rest) rest := by
  unfold Leads
  rw [rests]
  induction w with
  | nil =>
    cases rest with
    | nil => rfl
    | cons c rest => simp [manyRests, hrest c rfl]
  | cons c w ih =>
    rw [List.forall_mem_cons] at hw
    rw [List.cons_append, manyRests, if_pos hw.1, List.head?_append, ih hw.2, Option.some_or]

theorem leads_seq (hr : Leads r cs b) (hs : Leads s b rest) : Leads (.seq r s) cs rest := by
  unfold Leads at *
  obtain ⟨others, hr⟩ := List.head?_eq_some_iff.mp hr
  rw [rests, hr, List.flatMap_cons, List.head?_append, hs, Option.some_or]

theorem leads_alt (h : Leads r cs rest) : Leads (.alt r s) cs rest := by
  unfold Leads at *
  rw [rests, List.head?_append, h, Option.some_or]

theorem leads_alt_of_nil (h : rests r cs = []) (hs : Leads s cs rest) :
    Leads (.alt r s) cs rest := by
  unfold Leads at *
  rw [rests, h, List.nil_append, hs]

/-- A pattern that no text starting with the character matches. -/
theorem rests_eq_nil (hbegins : begins c r = true) (hnullable : nullable r = false) :
    rests r (c :: rest) = [] := by
  rw [begins_spec hbegins, not_nullable hnullable, List.map_nil]

theorem leads_opt (h : Leads r cs rest) : Leads (opt r) cs rest := leads_alt h

/-- Nothing, where the pattern does not match. -/
theorem leads_opt_skip (h : rests r cs = []) : Leads (opt r) cs cs :=
  leads_alt_of_nil h leads_empty

theorem leads_plus {w : List Char} (hne : w ≠ []) (hw : ∀ c ∈ w, p c = true)
    (hrest : ∀ c ∈ rest.head?, p c = false) : Leads (plus p) (w ++ rest) rest := by
  cases w with
  | nil => exact absurd rfl hne
  | cons c w =>
    rw [List.forall_mem_cons] at hw
    exact leads_seq (leads_one hw.1) (leads_many hw.2 hrest)

theorem leads_chain_nil : Leads (chain []) cs cs := leads_empty

theorem leads_chain_cons {rs : List Pattern} (hr : Leads r cs b) (hrs : Leads (chain rs) b rest) :
    Leads (chain (r :: rs)) cs rest := leads_seq hr hrs

theorem Rule.matchAt_of_leads {rule : Rule} {prev : Option Char}
    (hprev : prev.any rule.behind = false) (hlead : Leads rule.lead cs a)
    (hbody : Leads rule.body a b) (htail : Leads rule.tail b rest) :
    rule.matchAt prev cs = some ⟨a, b, rest⟩ := by
  obtain ⟨leads, hlead⟩ := List.head?_eq_some_iff.mp hlead
  obtain ⟨bodies, hbody⟩ := List.head?_eq_some_iff.mp hbody
  have hfinish : rule.finish a = some ⟨a, b, rest⟩ := by
    have htail' : (rests rule.tail b).head? = some rest := htail
    rw [Rule.finish, hbody, List.findSome?_cons, htail', Option.map_some]
  rw [Rule.matchAt, if_neg (by simp [hprev]), hlead, List.findSome?_cons, hfinish]

end Leads

section Scan

variable {rule : Rule}

theorem before_append (w rest : List Char) : before (w ++ rest) rest = w := by
  simp [before]

theorem scanFrom_skip {skip pos : Nat} {prev : Option Char} (h : cs.length ≤ skip) :
    scanFrom rule skip prev pos cs = [] := by
  induction cs generalizing skip prev pos with
  | nil => rfl
  | cons c cs ih =>
    obtain ⟨skip, rfl⟩ : ∃ k, skip = k + 1 := ⟨skip - 1, by simp at h; omega⟩
    rw [scanFrom]
    exact ih (by simpa using h)

/-- A match of the whole text is the only one. -/
theorem scan_whole {w : List Char} (hne : cs ≠ []) (hmatch : rule.matchAt none cs =
    some ⟨w ++ rest, rest, []⟩) : scan rule cs = [⟨0, cs.length, cs, w⟩] := by
  cases cs with
  | nil => exact absurd rfl hne
  | cons c cs =>
    have hbefore : before (c :: cs) [] = c :: cs := by simp [before]
    rw [scan, scanFrom, hmatch]
    simp only [Attempt.found, before_append, hbefore]
    rw [scanFrom_skip (by simp)]
    simp

theorem scan_eq_nil (h : ∀ t, t <:+ cs → ∀ prev, rule.matchAt prev t = none) :
    scan rule cs = [] := scanFrom_eq_nil h 0 0

/-- A rule finds nothing in a text without the characters its tail needs. -/
theorem scan_of_needs_tail (hneeds : Needs p rule.tail) (h : ∀ c ∈ cs, p c = false) :
    scan rule cs = [] := by
  apply scan_eq_nil
  intro t ht prev
  by_contra hsome
  obtain ⟨m, hm⟩ := Option.ne_none_iff_exists'.mp hsome
  obtain ⟨hlead, hfinish⟩ := Rule.matchAt_spec hm
  obtain ⟨-, hbody, htail⟩ := Rule.finish_spec hfinish
  obtain ⟨c, hc, hp⟩ := exists_of_needs hneeds htail
  have hsuffix : m.atTail <:+ cs := ((rests_suffix _ hbody).trans (rests_suffix _ hlead)).trans ht
  rw [h c (hsuffix.subset hc)] at hp
  cases hp

/-- What a pattern that cannot match nothing leaves is shorter. -/
theorem length_lt_of_not_nullable (h : nullable r = false) (ha : a ∈ rests r cs) :
    a.length < cs.length := by
  induction r generalizing cs a with
  | empty => cases h
  | one q =>
    obtain ⟨c, -, rfl⟩ := mem_rests_one.mp ha
    exact Nat.lt_succ_self _
  | many q => cases h
  | seq r s ihr ihs =>
    obtain ⟨b, hb, hab⟩ := List.mem_flatMap.mp ha
    rw [nullable, Bool.and_eq_false_iff] at h
    cases h with
    | inl hr => exact Nat.lt_of_le_of_lt (rests_suffix a hab).length_le (ihr hr hb)
    | inr hs => exact Nat.lt_of_lt_of_le (ihs hs hab) (rests_suffix b hb).length_le
  | alt r s ihr ihs =>
    rw [nullable, Bool.or_eq_false_iff] at h
    exact (List.mem_append.mp ha).elim (ihr h.1) (ihs h.2)
  | notAhead r => cases h

theorem scanFrom_spans (hbody : nullable rule.body = false) {skip pos : Nat}
    {prev : Option Char} : ∀ m ∈ scanFrom rule skip prev pos cs,
      pos ≤ m.start ∧ m.start < pos + cs.length ∧ m.start < m.stop := by
  induction cs generalizing skip prev pos with
  | nil => simp [scanFrom]
  | cons c cs ih =>
    have hlater : ∀ {skip : Nat} {prev : Option Char}, ∀ m ∈ scanFrom rule skip prev (pos + 1) cs,
        pos ≤ m.start ∧ m.start < pos + (c :: cs).length ∧ m.start < m.stop := by
      intro skip prev m hm
      have h := ih m hm
      rw [List.length_cons]
      omega
    intro m hm
    cases skip with
    | succ skip =>
      rw [scanFrom] at hm
      exact hlater m hm
    | zero =>
      rw [scanFrom] at hm
      split at hm
      · next a hmatch =>
        cases hm with
        | head =>
          obtain ⟨hlead, hfinish⟩ := Rule.matchAt_spec hmatch
          obtain ⟨-, hmem, htail⟩ := Rule.finish_spec hfinish
          have hlength := length_lt_of_not_nullable hbody hmem
          have hrest := (rests_suffix _ htail).length_le
          have hstart := (rests_suffix _ hlead).length_le
          simp only [Attempt.found, before, List.length_take, List.length_cons] at *
          omega
        | tail _ hm => exact hlater m hm
      · exact hlater m hm

/-- A match stands in the text and is not empty. -/
theorem scan_spans (hbody : nullable rule.body = false) :
    ∀ m ∈ scan rule cs, m.start < cs.length ∧ m.start < m.stop := by
  intro m hm
  have h := scanFrom_spans hbody m hm
  omega

end Scan

end

end BrainV2.Regex
