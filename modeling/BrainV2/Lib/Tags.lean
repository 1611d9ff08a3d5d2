import BrainV2.Lib.Escape

/-!
# Texts in tags

* `Scanner`: what counts as a tag at the start of a text;
* `tags`: the tags of a text from left to right, with the text in front of each;
* `Region`: a text between an opening and a closing tag;
* `Fenced`: the tags that are expected and no others;
* `fenced_iff`: a text made of regions is fenced when no tag starts inside of one.
-/

namespace BrainV2.Tags

open Escape (Clean clean_cons)

variable {α τ : Type*}

structure Scanner (α τ : Type*) where
  /-- The tag that a text starts with, and what is behind it. -/
  tagAt : List α → Option (τ × List α)
  proper : ∀ cs t rest, tagAt cs = some (t, rest) → ∃ w, w ≠ [] ∧ cs = w ++ rest

/-- Behind some characters to leave out, and after a text without tags. -/
def tagsFrom (S : Scanner α τ) : Nat → List α → List α → List (List α × τ)
  | _, _, [] => []
  | skip + 1, before, _ :: cs => tagsFrom S skip before cs
  | 0, before, c :: cs =>
    match S.tagAt (c :: cs) with
    | some (t, rest) => (before, t) :: tagsFrom S (cs.length - rest.length) [] cs
    | none => tagsFrom S 0 (before ++ [c]) cs

def tags (S : Scanner α τ) (before cs : List α) : List (List α × τ) := tagsFrom S 0 before cs

variable {S : Scanner α τ} {before cs rest : List α} {t : τ}

theorem tagsFrom_skip (w cs : List α) :
    tagsFrom S w.length before (w ++ cs) = tagsFrom S 0 before cs := by
  induction w with
  | nil => rfl
  | cons c w ih => exact ih

theorem tags_tag (h : S.tagAt cs = some (t, rest)) :
    tags S before cs = (before, t) :: tags S [] rest := by
  obtain ⟨w, hw, rfl⟩ := S.proper cs t rest h
  cases w with
  | nil => exact absurd rfl hw
  | cons c w =>
    rw [List.cons_append] at h ⊢
    rw [tags, tagsFrom, h]
    have hskip : (w ++ rest).length - rest.length = w.length := by simp
    simp only [hskip, tagsFrom_skip]
    rfl

theorem tags_plain {c : α} (h : S.tagAt (c :: cs) = none) :
    tags S before (c :: cs) = tags S (before ++ [c]) cs := by
  rw [tags, tagsFrom, h]
  rfl

/-- A part without tags stands in front of what follows. -/
theorem tags_append {w : List α} (h : ∀ v, v <:+ w → v ≠ [] → S.tagAt (v ++ cs) = none) :
    tags S before (w ++ cs) = tags S (before ++ w) cs := by
  induction w generalizing before with
  | nil => rw [List.append_nil, List.nil_append]
  | cons c w ih =>
    have hc : S.tagAt (c :: (w ++ cs)) = none := h (c :: w) (List.suffix_refl _) (by simp)
    rw [List.cons_append, tags_plain hc,
      ih fun v hv => h v (hv.trans (List.suffix_cons c w)), List.append_assoc,
      List.singleton_append]

/-- What stands in front of the first tag does not matter to the others. -/
theorem length_tags (before before' cs : List α) :
    (tags S before cs).length = (tags S before' cs).length := by
  induction cs generalizing before before' with
  | nil => rfl
  | cons c cs ih =>
    cases h : S.tagAt (c :: cs) with
    | none => rw [tags_plain h, tags_plain h, ih]
    | some found => rw [tags_tag h, tags_tag h, List.length_cons, List.length_cons]

/-! ### Regions -/

structure Region (S : Scanner α τ) where
  head : List α
  interior : List α
  close : List α
  openTag : τ
  closeTag : τ
  openAt : ∀ x, S.tagAt (head ++ x) = some (openTag, x)
  closeAt : ∀ x, S.tagAt (close ++ x) = some (closeTag, x)
  /-- A tag starts here, whatever follows the closing one. -/
  Starts : List α → Prop
  startsAt : ∀ v x, v ≠ [] → ((S.tagAt (v ++ (close ++ x))).isSome = true ↔ Starts v)
  not_starts_nil : ¬ Starts []
  /-- A tag inside ends inside, or is no closing tag and takes the one of the region up. -/
  ends : ∀ v x t rest, v ≠ [] → S.tagAt (v ++ (close ++ x)) = some (t, rest) →
    (∃ v', v'.length < v.length ∧ rest = v' ++ (close ++ x)) ∨ (rest = x ∧ t ≠ closeTag)

def Region.text (r : Region S) : List α := r.head ++ (r.interior ++ r.close)

namespace Region

variable (r : Region S) {w : List α} (x : List α)

theorem tags_clean (h : Clean r.Starts w) :
    tags S before (w ++ (r.close ++ x)) = (before ++ w, r.closeTag) :: tags S [] x := by
  rw [tags_append, tags_tag (r.closeAt x)]
  intro v hv hne
  by_contra hsome
  exact h v hv ((r.startsAt v x hne).mp (Option.isSome_iff_ne_none.mpr hsome))

/-- The first tag of an interior that is not clean starts in it. -/
theorem tags_unclean (h : ¬ Clean r.Starts w) :
    ∃ v front t rest, v ≠ [] ∧ S.tagAt (v ++ (r.close ++ x)) = some (t, rest) ∧
      tags S before (w ++ (r.close ++ x)) = (front, t) :: tags S [] rest := by
  induction w generalizing before with
  | nil =>
    refine absurd ?_ h
    intro u hu
    rw [List.suffix_nil.mp hu]
    exact r.not_starts_nil
  | cons c w ih =>
    rw [List.cons_append]
    cases hat : S.tagAt (c :: (w ++ (r.close ++ x))) with
    | some found =>
      obtain ⟨t, rest⟩ := found
      exact ⟨c :: w, before, t, rest, by simp, hat, tags_tag hat⟩
    | none =>
      rw [tags_plain hat]
      apply ih
      intro hclean
      refine h (clean_cons.mpr ⟨fun hstarts => ?_, hclean⟩)
      have hsome := (r.startsAt (c :: w) x (by simp)).mpr hstarts
      rw [List.cons_append, hat] at hsome
      cases hsome

/-- A region closes with one tag at least. -/
theorem length_tags_close (w : List α) :
    1 + (tags S [] x).length ≤ (tags S before (w ++ (r.close ++ x))).length := by
  induction hlength : w.length using Nat.strong_induction_on generalizing w before with
  | _ n ih =>
    cases w with
    | nil =>
      rw [List.nil_append, tags_tag (r.closeAt x), List.length_cons]
      omega
    | cons c w =>
      rw [List.length_cons] at hlength
      rw [List.cons_append]
      cases hat : S.tagAt (c :: (w ++ (r.close ++ x))) with
      | none =>
        rw [tags_plain hat]
        exact ih w.length (by omega) w rfl
      | some found =>
        obtain ⟨t, rest⟩ := found
        rw [tags_tag hat, List.length_cons]
        rcases r.ends (c :: w) x t rest (by simp) hat with ⟨v', hshort, hrest⟩ | ⟨hrest, -⟩
        · rw [hrest]
          rw [List.length_cons] at hshort
          have hclose : 1 + (tags S [] x).length ≤ (tags S [] (v' ++ (r.close ++ x))).length :=
            ih v'.length (by omega) v' rfl
          omega
        · rw [hrest]
          omega

end Region

/-! ### Texts made of regions -/

/-- What is to be found of a region: its two tags, and what has to stand between them. -/
structure Expected (α τ : Type*) where
  openTag : τ
  closeTag : τ
  keeps : List α → Prop

/-- The tags are the expected ones in their order, with what has to stand between them. -/
def Fenced : List (Expected α τ) → List (List α × τ) → Prop
  | [], [] => True
  | e :: es, (_, first) :: (content, second) :: rest =>
    first = e.openTag ∧ second = e.closeTag ∧ e.keeps content ∧ Fenced es rest
  | _, _ => False

theorem Fenced.length {es : List (Expected α τ)} {found : List (List α × τ)}
    (h : Fenced es found) : found.length = 2 * es.length := by
  induction es generalizing found with
  | nil =>
    cases found with
    | nil => rfl
    | cons first found => exact h.elim
  | cons e es ih =>
    match found with
    | [] => exact h.elim
    | [_] => exact h.elim
    | first :: second :: rest =>
      have hrest := ih h.2.2.2
      simp only [List.length_cons]
      omega

/-- The regions, each behind a separator. -/
def joined (separator : List α) (rs : List (Region S)) : List α :=
  rs.flatMap fun r => separator ++ r.text

/-- No tag starts in the separator. -/
def NoTag (S : Scanner α τ) (separator : List α) : Prop :=
  ∀ v, v <:+ separator → v ≠ [] → ∀ x, S.tagAt (v ++ x) = none

section

variable {separator : List α}

theorem tags_joined_cons (hsep : NoTag S separator) (r : Region S) (rs : List (Region S)) :
    tags S before (joined separator (r :: rs)) = (before ++ separator, r.openTag) ::
      tags S [] (r.interior ++ (r.close ++ joined separator rs)) := by
  have hsplit : joined separator (r :: rs) =
      separator ++ (r.head ++ (r.interior ++ (r.close ++ joined separator rs))) := by
    simp [joined, Region.text]
  rw [hsplit, tags_append fun v hv hne => hsep v hv hne _, tags_tag (r.openAt _)]

theorem length_tags_joined (hsep : NoTag S separator) (rs : List (Region S)) :
    2 * rs.length ≤ (tags S before (joined separator rs)).length := by
  induction rs generalizing before with
  | nil => exact Nat.zero_le _
  | cons r rs ih =>
    rw [tags_joined_cons hsep, List.length_cons, List.length_cons]
    have hclose : 1 + (tags S [] (joined separator rs)).length ≤
        (tags S [] (r.interior ++ (r.close ++ joined separator rs))).length :=
      r.length_tags_close (joined separator rs) r.interior
    have hrest : 2 * rs.length ≤ (tags S [] (joined separator rs)).length := ih
    omega

/-- The region has the expected tags, and what has to stand between them. -/
def Region.Meets (r : Region S) (e : Expected α τ) : Prop :=
  e.openTag = r.openTag ∧ e.closeTag = r.closeTag ∧ e.keeps r.interior

variable {ι : Type*} {region : ι → Region S} {expected : ι → Expected α τ}

/-- Regions joined by a separator are fenced if and only if no tag starts inside of one. -/
theorem fenced_iff (hsep : NoTag S separator) (hmeets : ∀ i, (region i).Meets (expected i))
    (is : List ι) (before : List α) :
    Fenced (is.map expected) (tags S before (joined separator (is.map region))) ↔
      ∀ i ∈ is, Clean (region i).Starts (region i).interior := by
  induction is generalizing before with
  | nil => exact iff_of_true trivial (by simp)
  | cons i is ih =>
    obtain ⟨hopen, hclose, hkeeps⟩ := hmeets i
    rw [List.map_cons, List.map_cons, tags_joined_cons hsep, List.forall_mem_cons]
    by_cases hclean : Clean (region i).Starts (region i).interior
    · rw [(region i).tags_clean _ hclean, List.nil_append, Fenced, ih]
      simp [hclean, hopen, hclose, hkeeps]
    · refine iff_of_false ?_ fun h => hclean h.1
      obtain ⟨v, front, t, rest, hv, hat, htags⟩ :
          ∃ v front t rest, v ≠ [] ∧
            S.tagAt (v ++ ((region i).close ++ joined separator (is.map region))) =
              some (t, rest) ∧
            tags S [] ((region i).interior ++
              ((region i).close ++ joined separator (is.map region))) =
              (front, t) :: tags S [] rest :=
        (region i).tags_unclean _ hclean
      rw [htags, Fenced]
      rintro ⟨-, hsecond, -, hfenced⟩
      rw [hclose] at hsecond
      rcases (region i).ends v _ t rest hv hat with ⟨v', -, hrest⟩ | ⟨-, hother⟩
      · -- A closing tag inside leaves the region's own behind, one too many.
        have hlength := hfenced.length
        rw [hrest, List.length_map] at hlength
        have hmore : 1 + (tags S [] (joined separator (is.map region))).length ≤
            (tags S [] (v' ++ ((region i).close ++ joined separator (is.map region)))).length :=
          (region i).length_tags_close _ v'
        have hleast : 2 * (is.map region).length ≤
            (tags S [] (joined separator (is.map region))).length :=
          length_tags_joined hsep _
        rw [List.length_map] at hleast
        omega
      · exact hother hsecond

end

end BrainV2.Tags
