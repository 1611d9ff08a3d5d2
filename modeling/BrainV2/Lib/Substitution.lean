import BrainV2.Lib.Regex

/-!
# Substitution

* `substitute`: the matches of a rule, each replaced by what a function makes of it;
* `search`: the first match of a rule, as the text in front of it and from it on;
* `keyword`, `oneOf`, `wordEnd`, `ahead`: parts of patterns;
* `substituteFrom_skip`, `substituteFrom_behind`, `substituteFrom_out`: the characters that are
  left out, or at which no match starts.
-/

namespace BrainV2.Regex

/-- A text behind a character, after leaving out some characters that are replaced already. -/
def substituteFrom (rule : Rule) (replacement : List Char → Attempt → List Char) :
    Nat → Option Char → List Char → List Char
  | _, _, [] => []
  | skip + 1, _, c :: cs => substituteFrom rule replacement skip (some c) cs
  | 0, prev, c :: cs =>
    match rule.matchAt prev (c :: cs) with
    | some a =>
      let text := before (c :: cs) a.rest
      replacement text a ++ substituteFrom rule replacement (text.length - 1) (some c) cs
    | none => c :: substituteFrom rule replacement 0 (some c) cs

/-- For rules that never match nothing. -/
def substitute (rule : Rule) (replacement : List Char → Attempt → List Char) (cs : List Char) :
    List Char :=
  substituteFrom rule replacement 0 none cs

/-- No text. -/
def never : Pattern := .notAhead .empty

/-- A word, given how letters are compared. -/
def keyword (same : Char → Char → Bool) (w : String) : Pattern :=
  chain (w.toList.map fun l => .one (same l))

def oneOf (same : Char → Char → Bool) (ws : List String) : Pattern :=
  ws.foldr (fun w r => .alt (keyword same w) r) never

/-- `\b` behind a character of the class. -/
def wordEnd (isWord : Char → Bool) : Pattern := .notAhead (.one isWord)

/-- `(?=r)` -/
def ahead (r : Pattern) : Pattern := .notAhead (.notAhead r)

/-- For rules that never match nothing. -/
def searchFrom (rule : Rule) : Option Char → List Char → Option (List Char × List Char)
  | _, [] => none
  | prev, c :: cs =>
    if (rule.matchAt prev (c :: cs)).isSome then some ([], c :: cs)
    else (searchFrom rule (some c) cs).map fun found => (c :: found.1, found.2)

def search (rule : Rule) (cs : List Char) : Option (List Char × List Char) :=
  searchFrom rule none cs

variable {rule : Rule} {replacement : List Char → Attempt → List Char} {prev : Option Char}

/-- The characters that are replaced already. -/
theorem substituteFrom_skip (u v : List Char) :
    substituteFrom rule replacement u.length prev (u ++ v) =
      substituteFrom rule replacement 0 (u.getLast?.or prev) v := by
  induction u generalizing prev with
  | nil => rfl
  | cons c u ih =>
    rw [List.length_cons, List.cons_append, substituteFrom, ih, List.getLast?_cons]
    cases u.getLast? <;> rfl

theorem substituteFrom_none {c : Char} {cs : List Char} (h : rule.matchAt prev (c :: cs) = none) :
    substituteFrom rule replacement 0 prev (c :: cs) =
      c :: substituteFrom rule replacement 0 (some c) cs := by
  rw [substituteFrom, h]

/-- What is put for a match. -/
theorem substituteFrom_match {a : Attempt} {u v : List Char} (hne : u ≠ [])
    (h : rule.matchAt prev (u ++ v) = some a) (hbefore : before (u ++ v) a.rest = u) :
    substituteFrom rule replacement 0 prev (u ++ v) =
      replacement u a ++ substituteFrom rule replacement 0 u.getLast? v := by
  cases u with
  | nil => exact absurd rfl hne
  | cons c u =>
    rw [List.cons_append] at h hbefore ⊢
    rw [substituteFrom, h]
    simp only [hbefore]
    rw [List.length_cons, Nat.add_sub_cancel, substituteFrom_skip, List.getLast?_cons]
    cases u.getLast? <;> rfl

/-- No match starts behind a character of the class `behind`. -/
theorem substituteFrom_behind {u v : List Char} (hu : ∀ c ∈ u, rule.behind c = true)
    (hprev : prev.any rule.behind = true) : substituteFrom rule replacement 0 prev (u ++ v) =
      u ++ substituteFrom rule replacement 0 (u.getLast?.or prev) v := by
  induction u generalizing prev with
  | nil => rfl
  | cons c u ih =>
    have hnone : rule.matchAt prev (c :: (u ++ v)) = none := by
      rw [Rule.matchAt, if_pos hprev]
    have hc : (some c).any rule.behind = true := hu c List.mem_cons_self
    rw [List.cons_append, substituteFrom_none hnone, ih (List.forall_mem_cons.mp hu).2 hc,
      List.getLast?_cons]
    cases u.getLast? <;> rfl

/-- No match starts with a character that cannot start one. -/
theorem substituteFrom_out {p : Char → Bool} {u v : List Char}
    (hlead : ∀ c cs, p c = true → rests rule.lead (c :: cs) = []) (hu : ∀ c ∈ u, p c = true) :
    substituteFrom rule replacement 0 prev (u ++ v) =
      u ++ substituteFrom rule replacement 0 (u.getLast?.or prev) v := by
  induction u generalizing prev with
  | nil => rfl
  | cons c u ih =>
    have hnone : rule.matchAt prev (c :: (u ++ v)) = none := by
      rw [Rule.matchAt, hlead c _ (hu c List.mem_cons_self)]
      exact ite_self _
    rw [List.cons_append, substituteFrom_none hnone, ih (List.forall_mem_cons.mp hu).2,
      List.getLast?_cons]
    cases u.getLast? <;> rfl

end BrainV2.Regex
