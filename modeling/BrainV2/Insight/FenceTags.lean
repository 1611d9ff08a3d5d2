import BrainV2.Insight.Injection
import BrainV2.Lib.Tags

/-!
# The fences of the untrusted section

* `FenceTag`, `fenceScanner`: what counts as a tag of a fence, in any case of letters;
* `TagStarts`: such a tag starts here, in a text that a fence closes behind;
* `FenceSource.Safe`: no tag starts in the text other than by an escaped sequence, nor in the
  name behind the end of the opening tag;
* `fenced_iff_safe`: when the section consists of its fences.
-/

namespace BrainV2.Insight

open Py Regex
open Escape (Clean Ends Local Mark Opens Unmarked)
open Tags (Expected Fenced Region Scanner joined tags)

/-! ### Tags -/

def BlockType.tagName : BlockType → String
  | .operatorData => "data"
  | .priorLlmOutput => "prior_agent_output"

structure FenceTag where
  closing : Bool
  block : BlockType
deriving DecidableEq

/-- Behind the opening bracket: `/name\s*>` or `name(\s[^>]*)?>`. -/
def FenceTag.pattern (t : FenceTag) : Pattern :=
  if t.closing then chain [.one (· == '/'), word t.block.tagName, blanks, .one (· == '>')]
  else .seq (word t.block.tagName)
    (.seq (opt (.seq (.one isBlank) (.many (· != '>')))) (.one (· == '>')))

def fenceTags : List FenceTag :=
  [⟨true, .operatorData⟩, ⟨true, .priorLlmOutput⟩, ⟨false, .operatorData⟩,
    ⟨false, .priorLlmOutput⟩]

def fenceTagAt : List Char → Option (FenceTag × List Char)
  | [] => none
  | c :: cs =>
    if c = '<' then fenceTags.findSome? fun t => (rests t.pattern cs).head?.map (t, ·) else none

theorem fenceTagAt_some {cs rest : List Char} {t : FenceTag}
    (h : fenceTagAt cs = some (t, rest)) :
    ∃ w, cs = '<' :: w ∧ rest ∈ rests t.pattern w := by
  cases cs with
  | nil => cases h
  | cons c cs =>
    rw [fenceTagAt] at h
    split at h
    · next hc =>
      obtain ⟨t', -, ht'⟩ := List.exists_of_findSome?_eq_some h
      obtain ⟨rest', hrest, hpair⟩ := Option.map_eq_some_iff.mp ht'
      cases hpair
      exact ⟨cs, by rw [hc], List.mem_of_head? hrest⟩
    · cases h

theorem mem_fenceTags (t : FenceTag) : t ∈ fenceTags := by
  obtain ⟨closing, block⟩ := t
  cases closing <;> cases block <;> decide

theorem fenceTagAt_isSome {cs : List Char} :
    (fenceTagAt ('<' :: cs)).isSome = true ↔ ∃ t : FenceTag, ∃ rest, rest ∈ rests t.pattern cs := by
  rw [fenceTagAt, if_pos rfl, List.findSome?_isSome_iff]
  constructor
  · rintro ⟨t, -, ht⟩
    rw [Option.isSome_map, Option.isSome_iff_exists] at ht
    obtain ⟨rest, hrest⟩ := ht
    exact ⟨t, rest, List.mem_of_head? hrest⟩
  · rintro ⟨t, rest, hrest⟩
    refine ⟨t, mem_fenceTags t, ?_⟩
    rw [Option.isSome_map, List.isSome_head?]
    simpa using List.ne_nil_of_mem hrest

theorem rests_ne_nil {r : Pattern} {cs : List Char} :
    rests r cs ≠ [] ↔ ∃ rest, rest ∈ rests r cs :=
  ⟨List.exists_mem_of_ne_nil _, fun ⟨_, h⟩ => List.ne_nil_of_mem h⟩

def fenceScanner : Scanner Char FenceTag where
  tagAt := fenceTagAt
  proper cs t rest h := by
    obtain ⟨w, hw, hrest⟩ := fenceTagAt_some h
    obtain ⟨front, hfront⟩ := rests_suffix rest hrest
    exact ⟨'<' :: front, by simp, by rw [hw, ← hfront, List.cons_append]⟩

/-! ### What an opening tag is -/

variable {block : BlockType} {t : FenceTag} {cs rest w y : List Char}

/-- Behind the name of an opening tag. -/
def attributes : Pattern :=
  .seq (opt (.seq (.one isBlank) (.many (· != '>')))) (.one (· == '>'))

theorem mem_rests_attributes :
    rest ∈ rests attributes cs ↔ cs = '>' :: rest ∨
      ∃ c mid, isBlank c = true ∧ cs = c :: (mid ++ '>' :: rest) ∧ '>' ∉ mid := by
  have hclass : ∀ mid : List Char, (∀ c ∈ mid, (c != '>') = true) ↔ '>' ∉ mid := by
    intro mid
    constructor
    · intro h hmem
      simpa using h _ hmem
    · intro h c hc
      rw [bne_iff_ne]
      rintro rfl
      exact h hc
  simp only [attributes, opt, rests, List.mem_flatMap, List.mem_append, List.mem_singleton,
    mem_rests_one, mem_manyRests, hclass, beq_iff_eq]
  constructor
  · rintro ⟨b, ⟨a, ⟨c, hc, rfl⟩, mid, rfl, hmid⟩ | rfl, d, rfl, rfl⟩
    · exact Or.inr ⟨c, mid, hc, rfl, hmid⟩
    · exact Or.inl rfl
  · rintro (rfl | ⟨c, mid, hc, rfl, hmid⟩)
    · exact ⟨_, Or.inr rfl, '>', rfl, rfl⟩
    · exact ⟨'>' :: rest, Or.inl ⟨mid ++ '>' :: rest, ⟨c, hc, rfl⟩, mid, rfl, hmid⟩, '>', rfl, rfl⟩

theorem mem_rests_opening :
    rest ∈ rests (FenceTag.pattern ⟨false, block⟩) cs ↔
      ∃ b ∈ rests (word block.tagName) cs, rest ∈ rests attributes b :=
  List.mem_flatMap

/-! ### Where a tag starts -/

/-- What settles that a tag starts, behind the opening bracket. -/
def FenceTag.opening (t : FenceTag) : Pattern :=
  if t.closing then t.pattern
  else .seq (word t.block.tagName) (.one fun c => c == '>' || isBlank c)

/-- A tag starts here, if a fence closes behind the text. -/
def TagStarts (u : List Char) : Prop :=
  ∃ w, u = '<' :: w ∧ ∃ t : FenceTag, rests t.opening w ≠ []

theorem not_tagStarts_nil : ¬ TagStarts [] := by
  rintro ⟨w, hw, -⟩
  cases hw

/-- No tag reaches over these characters before it is settled. -/
def isStop (c : Char) : Bool := c == '<' || c == '&' || c == '"'

theorem opening_stops {c : Char} (hc : isStop c = true) (t : FenceTag) : Stops c t.opening := by
  have hcases : c = '<' ∨ c = '&' ∨ c = '"' := by simpa [isStop, or_assoc] using hc
  obtain ⟨closing, block⟩ := t
  rcases hcases with rfl | rfl | rfl <;> cases closing <;> cases block <;> decide

theorem word_stops {c : Char} (hc : isStop c = true) (block : BlockType) :
    Stops c (word block.tagName) :=
  (opening_stops hc ⟨false, block⟩).1

theorem tagStarts_append {c : Char} (hc : isStop c = true) {u : List Char} (hu : u ≠ []) :
    TagStarts (u ++ c :: rest) ↔ TagStarts u := by
  cases u with
  | nil => exact absurd rfl hu
  | cons d w =>
    unfold TagStarts
    simp only [List.cons_append, List.cons.injEq, existsAndEq]
    refine and_congr_right fun _ => exists_congr fun t => not_congr ?_
    rw [rests_stop (opening_stops hc t), List.map_eq_nil_iff]

theorem tagStarts_local : Local '<' '&' TagStarts := by
  have hends : ∀ w z, Ends '<' '&' z → (TagStarts ('<' :: (w ++ z)) ↔ TagStarts ('<' :: w)) := by
    intro w z hz
    cases z with
    | nil => rw [List.append_nil]
    | cons c z =>
      apply tagStarts_append _ (List.cons_ne_nil _ _)
      have hstop := hz c rfl
      cases hstop with
      | inl h => rw [h]; rfl
      | inr h => rw [h]; rfl
  intro w z z' _ hz hz'
  rw [hends w z hz, hends w z' hz']

theorem tagStarts_opens : Opens '<' TagStarts := by
  rintro u ⟨w, rfl, -⟩
  rfl

/-! ### In front of a closing tag -/

def BlockType.closeText (block : BlockType) : List Char :=
  '<' :: '/' :: (block.tagName.toList ++ ['>'])

variable {x : List Char}

theorem closeText_append (block : BlockType) (x : List Char) :
    block.closeText ++ x = '<' :: (('/' :: block.tagName.toList) ++ '>' :: x) := by
  simp [BlockType.closeText]

theorem bracket_notMem_closing (block : BlockType) : '>' ∉ '/' :: block.tagName.toList := by
  cases block <;> decide

theorem bracket_not_blank : isBlank '<' = false := by decide

/-- An opening tag in front of a closing one ends before it, or takes it up. -/
theorem attributes_close {b : List Char}
    (h : rest ∈ rests attributes (b ++ (block.closeText ++ x))) :
    (∃ b', b'.length < b.length ∧ rest = b' ++ (block.closeText ++ x)) ∨ rest = x := by
  rw [mem_rests_attributes, closeText_append] at h
  cases b with
  | nil =>
    rcases h with h | ⟨c, mid, hc, h, -⟩
    · cases (List.cons.inj h).1
    · rw [← (List.cons.inj h).1, bracket_not_blank] at hc
      cases hc
  | cons d b =>
    rw [closeText_append]
    rcases h with h | ⟨c, mid, -, h, hmid⟩
    · exact Or.inl ⟨b, Nat.lt_succ_self _, (List.cons.inj h).2.symm⟩
    · have htail := (List.cons.inj h).2
      rcases List.append_eq_append_iff.mp htail with ⟨m, rfl, hm⟩ | ⟨m, rfl, hm⟩
      · -- The first `>` is that of the closing tag.
        cases m with
        | nil => cases (List.cons.inj hm).1
        | cons e m =>
          right
          have hnot : '>' ∉ m := fun hmem => hmid (by simp [hmem])
          exact (Escape.eq_of_first_eq (bracket_notMem_closing block) hnot
            (List.cons.inj hm).2).symm
      · left
        cases m with
        | nil => cases (List.cons.inj hm).1
        | cons e m =>
          refine ⟨m, ?_, (List.cons.inj hm).2⟩
          simp
          omega

theorem attributes_starts (b : List Char) :
    (∃ rest, rest ∈ rests attributes (b ++ (block.closeText ++ x))) ↔
      rests (.one fun c => c == '>' || isBlank c) b ≠ [] := by
  simp only [rests_ne_nil, mem_rests_one, Bool.or_eq_true, beq_iff_eq,
    mem_rests_attributes]
  constructor
  · rintro ⟨rest, h | ⟨c, mid, hc, h, -⟩⟩
    · cases b with
      | nil => cases (List.cons.inj h).1
      | cons d b => exact ⟨b, d, Or.inl (List.cons.inj h).1, rfl⟩
    · cases b with
      | nil =>
        rw [← (List.cons.inj h).1, bracket_not_blank] at hc
        cases hc
      | cons d b => exact ⟨b, d, Or.inr ((List.cons.inj h).1 ▸ hc), rfl⟩
  · rintro ⟨b, d, rfl | hd, rfl⟩
    · exact ⟨b ++ (block.closeText ++ x), Or.inl rfl⟩
    · have hmem : '>' ∈ b ++ (block.closeText ++ x) := by simp [BlockType.closeText]
      obtain ⟨mid, rest, hsplit, hmid⟩ := List.eq_append_cons_of_mem hmem
      exact ⟨rest, Or.inr ⟨d, mid, hd, congrArg _ hsplit, hmid⟩⟩

theorem word_close (name : BlockType) (w x : List Char) :
    rests (word name.tagName) (w ++ (block.closeText ++ x)) =
      (rests (word name.tagName) w).map (· ++ (block.closeText ++ x)) := by
  simp only [closeText_append]
  exact rests_stop (word_stops rfl name) w

/-- In front of a closing tag, a tag is one as soon as it has started. -/
theorem pattern_close (t : FenceTag) (w x : List Char) :
    (∃ rest, rest ∈ rests t.pattern (w ++ (block.closeText ++ x))) ↔
      rests t.opening w ≠ [] := by
  obtain ⟨closing, name⟩ := t
  cases closing with
  | true =>
    have hstop : Stops '<' (FenceTag.pattern ⟨true, name⟩) := opening_stops rfl ⟨true, name⟩
    rw [← rests_ne_nil, closeText_append, rests_stop hstop, ne_eq, List.map_eq_nil_iff]
    rfl
  | false =>
    have hopening : ∀ a, a ∈ rests (FenceTag.opening ⟨false, name⟩) w ↔
        ∃ b ∈ rests (word name.tagName) w,
          a ∈ rests (.one fun c => c == '>' || isBlank c) b := fun _ => List.mem_flatMap
    simp only [rests_ne_nil, hopening, mem_rests_opening, word_close, List.mem_map]
    constructor
    · rintro ⟨rest, -, ⟨b, hb, rfl⟩, hrest⟩
      obtain ⟨a, ha⟩ := rests_ne_nil.mp ((attributes_starts b).mp ⟨rest, hrest⟩)
      exact ⟨a, b, hb, ha⟩
    · rintro ⟨a, b, hb, ha⟩
      obtain ⟨rest, hrest⟩ : ∃ rest, rest ∈ rests attributes (b ++ (block.closeText ++ x)) :=
        (attributes_starts b).mpr (rests_ne_nil.mpr ⟨a, ha⟩)
      exact ⟨rest, _, ⟨b, hb, rfl⟩, hrest⟩

theorem fenceTagAt_close {v : List Char} (hv : v ≠ []) (x : List Char) :
    (fenceTagAt (v ++ (block.closeText ++ x))).isSome = true ↔ TagStarts v := by
  cases v with
  | nil => exact absurd rfl hv
  | cons c w =>
    rw [List.cons_append]
    by_cases hc : c = '<'
    · rw [hc, fenceTagAt_isSome]
      simp only [pattern_close]
      constructor
      · exact fun h => ⟨w, rfl, h⟩
      · rintro ⟨w', hw, h⟩
        rwa [(List.cons.inj hw).2]
    · rw [fenceTagAt, if_neg hc]
      refine iff_of_false (by simp) ?_
      rintro ⟨w', hw, -⟩
      exact hc (List.cons.inj hw).1

theorem fenceTagAt_ends {v : List Char} {t : FenceTag} {rest : List Char} (hv : v ≠ [])
    (h : fenceTagAt (v ++ (block.closeText ++ x)) = some (t, rest)) :
    (∃ v', v'.length < v.length ∧ rest = v' ++ (block.closeText ++ x)) ∨
      (rest = x ∧ t ≠ ⟨true, block⟩) := by
  obtain ⟨w, hw, hrest⟩ := fenceTagAt_some h
  cases v with
  | nil => exact absurd rfl hv
  | cons c v =>
    obtain rfl : v ++ (block.closeText ++ x) = w := (List.cons.inj hw).2
    obtain ⟨closing, name⟩ := t
    cases closing with
    | true =>
      have hstop : Stops '<' (FenceTag.pattern ⟨true, name⟩) := opening_stops rfl ⟨true, name⟩
      rw [closeText_append, rests_stop hstop] at hrest
      obtain ⟨v', hv', rfl⟩ := List.mem_map.mp hrest
      have hshort := (rests_suffix v' hv').length_le
      rw [closeText_append]
      exact Or.inl ⟨v', Nat.lt_succ_of_le hshort, rfl⟩
    | false =>
      obtain ⟨whole, hb, hattributes⟩ := mem_rests_opening.mp hrest
      rw [word_close] at hb
      obtain ⟨b, hmem, rfl⟩ := List.mem_map.mp hb
      have hshort := (rests_suffix b hmem).length_le
      cases attributes_close hattributes with
      | inl hinside =>
        obtain ⟨b', hlength, hb'⟩ := hinside
        exact Or.inl ⟨b', by simp; omega, hb'⟩
      | inr hx => exact Or.inr ⟨hx, by simp⟩

/-! ### Fences -/

/-- A text from outside and the name it goes by: the field of an operator's string, the agent of a
narration. -/
structure FenceSource where
  block : BlockType
  name : String
  text : String

def FenceSource.spotlight (digest : ContentDigest) (s : FenceSource) : SpotlightedBlock :=
  match s.block with
  | .operatorData => spotlightOperatorString digest s.text s.name
  | .priorLlmOutput => spotlightPriorLlmOutput digest s.text s.name

/-- The texts of the blocks that are built for a prompt. -/
def untrustedSources (goalLabels : List (String × String)) (brandName : String)
    (customMetricNames priorNarrations : List (String × String)) : List FenceSource :=
  (if brandName = "" then [] else [⟨.operatorData, "brand_name", brandName⟩]) ++
    goalLabels.map (fun (fieldName, label) => ⟨.operatorData, fieldName, label⟩) ++
    customMetricNames.map (fun (fieldName, name) => ⟨.operatorData, fieldName, name⟩) ++
    priorNarrations.map (fun (agentId, narration) => ⟨.priorLlmOutput, agentId, narration⟩)

theorem buildUntrustedBlocks_sources (digest : ContentDigest)
    (goalLabels : List (String × String)) (brandName : String)
    (customMetricNames priorNarrations : List (String × String)) :
    buildUntrustedBlocks digest goalLabels brandName customMetricNames priorNarrations =
      (untrustedSources goalLabels brandName customMetricNames priorNarrations).map
        (·.spotlight digest) := by
  unfold buildUntrustedBlocks untrustedSources
  simp only [List.map_append, List.map_map]
  congr 3
  split <;> rfl

def BlockType.openText : BlockType → List Char
  | .operatorData => "<data trusted=\"false\" field=\"".toList
  | .priorLlmOutput => "<prior_agent_output trusted=\"false\" source=\"".toList

/-- The name behind the end of the opening tag. -/
def nameBehind (name : List Char) : List Char := (name.dropWhile (· != '>')).drop 1

/-- The opening tag behind its own text, and what of it stands inside the fence. -/
def attributeFront (name : List Char) : List Char :=
  if '>' ∈ name then name.takeWhile (· != '>') ++ ['>'] else name ++ ['"', '>']

def attributeBehind (name : List Char) : List Char :=
  if '>' ∈ name then nameBehind name ++ ['"', '>'] else []

theorem dropWhile_bracket {name : List Char} (h : '>' ∈ name) :
    name.dropWhile (· != '>') = '>' :: nameBehind name := by
  have hne : name.dropWhile (· != '>') ≠ [] := by
    intro hnil
    simpa using List.dropWhile_eq_nil_iff.mp hnil _ h
  obtain ⟨c, rest, hsplit⟩ := List.exists_cons_of_ne_nil hne
  have hc : c = '>' := by
    have hnot := List.head?_dropWhile_not (· != '>') name
    rw [hsplit] at hnot
    simpa using hnot
  rw [nameBehind, hsplit, hc]
  rfl

theorem attribute_split (name : List Char) :
    attributeFront name ++ attributeBehind name = name ++ ['"', '>'] := by
  unfold attributeFront attributeBehind
  split
  · next h =>
    have hsplit : name.takeWhile (· != '>') ++ '>' :: nameBehind name = name := by
      rw [← dropWhile_bracket h, List.takeWhile_append_dropWhile]
    calc name.takeWhile (· != '>') ++ ['>'] ++ (nameBehind name ++ ['"', '>'])
        = name.takeWhile (· != '>') ++ '>' :: nameBehind name ++ ['"', '>'] := by simp
      _ = name ++ ['"', '>'] := by rw [hsplit]
  · rw [List.append_nil]

theorem attributeFront_bracket (name : List Char) :
    ∃ mid, attributeFront name = mid ++ ['>'] ∧ '>' ∉ mid := by
  unfold attributeFront
  split
  · refine ⟨_, rfl, fun hmem => ?_⟩
    have hne := List.mem_takeWhile_imp hmem
    simp at hne
  · next h => exact ⟨name ++ ['"'], by simp, by simpa using h⟩

theorem head?_of_forall {a : List Char} {l : List (List Char)} (hmem : a ∈ l)
    (hall : ∀ b ∈ l, b = a) : l.head? = some a := by
  cases l with
  | nil => cases hmem
  | cons b l => rw [List.head?_cons, hall b List.mem_cons_self]

/-- The attributes end at the first closing bracket. -/
theorem rests_attributes_front {mid : List Char} (hmid : '>' ∉ mid) (x : List Char) :
    (rests attributes (' ' :: (mid ++ '>' :: x))).head? = some x := by
  apply head?_of_forall
  · exact mem_rests_attributes.mpr (Or.inr ⟨' ', mid, rfl, rfl, hmid⟩)
  · intro rest hrest
    rcases mem_rests_attributes.mp hrest with h | ⟨c, mid', -, h, hmid'⟩
    · cases (List.cons.inj h).1
    · exact (Escape.eq_of_first_eq hmid hmid' (List.cons.inj h).2).symm

theorem rests_closing_name (name block : BlockType) (cs : List Char) :
    rests (FenceTag.pattern ⟨true, name⟩) (block.tagName.toList ++ cs) = [] := by
  cases name <;> cases block <;> rfl

theorem rests_word_name (name block : BlockType) (cs : List Char) :
    rests (word name.tagName) (block.tagName.toList ++ cs) = if name = block then [cs] else [] := by
  have hself : ∀ {ls : List Char}, (∀ l ∈ ls, letter l l = true) →
      rests (chain (ls.map fun l => .one (letter l))) (ls ++ cs) = [cs] := by
    intro ls hls
    induction ls with
    | nil => rfl
    | cons l ls ih =>
      rw [List.forall_mem_cons] at hls
      have hchain : chain ((l :: ls).map fun l => .one (letter l)) =
          .seq (.one (letter l)) (chain (ls.map fun l => .one (letter l))) := rfl
      rw [hchain, rests, List.cons_append, rests, if_pos hls.1, List.flatMap_cons,
        List.flatMap_nil, List.append_nil, ih hls.2]
  by_cases h : name = block
  · rw [if_pos h, h]
    have hletters : (block.tagName.toList.all fun l => letter l l) = true := by
      cases block <;> decide
    exact hself (List.all_eq_true.mp hletters)
  · rw [if_neg h]
    cases name with
    | operatorData =>
      cases block with
      | operatorData => exact absurd rfl h
      | priorLlmOutput => rfl
    | priorLlmOutput =>
      cases block with
      | operatorData => rfl
      | priorLlmOutput => exact absurd rfl h

theorem fenceTagAt_opening (block : BlockType) {cs : List Char}
    (h : (rests attributes cs).head? = some x) :
    fenceTagAt ('<' :: (block.tagName.toList ++ cs)) = some (⟨false, block⟩, x) := by
  have hname : ∀ name : BlockType,
      (rests (FenceTag.pattern ⟨false, name⟩) (block.tagName.toList ++ cs)).head? =
        if name = block then some x else none := by
    intro name
    have hsplit : rests (FenceTag.pattern ⟨false, name⟩) (block.tagName.toList ++ cs) =
        (rests (word name.tagName) (block.tagName.toList ++ cs)).flatMap (rests attributes) := rfl
    rw [hsplit, rests_word_name]
    split
    · rw [List.flatMap_cons, List.flatMap_nil, List.append_nil, h]
    · rfl
  rw [fenceTagAt, if_pos rfl]
  simp only [fenceTags, List.findSome?_cons, rests_closing_name, hname]
  cases block <;> rfl

theorem fenceTagAt_openText (block : BlockType) (name x : List Char) :
    fenceTagAt (block.openText ++ (attributeFront name ++ x)) = some (⟨false, block⟩, x) := by
  obtain ⟨mid, hmid, hnot⟩ := attributeFront_bracket name
  have hopen : ∃ front, '>' ∉ front ∧
      block.openText = '<' :: (block.tagName.toList ++ ' ' :: front) := by
    cases block with
    | operatorData => exact ⟨"trusted=\"false\" field=\"".toList, by decide, rfl⟩
    | priorLlmOutput => exact ⟨"trusted=\"false\" source=\"".toList, by decide, rfl⟩
  obtain ⟨front, hfront, hopen⟩ := hopen
  have htext : block.openText ++ (attributeFront name ++ x) =
      '<' :: (block.tagName.toList ++ ' ' :: ((front ++ mid) ++ '>' :: x)) := by
    rw [hopen, hmid]
    simp
  rw [htext]
  apply fenceTagAt_opening
  apply rests_attributes_front
  rw [List.mem_append, not_or]
  exact ⟨hfront, hnot⟩

theorem fenceTagAt_closeText (block : BlockType) (x : List Char) :
    fenceTagAt (block.closeText ++ x) = some (⟨true, block⟩, x) := by
  have hname : ∀ name : BlockType,
      rests (FenceTag.pattern ⟨true, name⟩) (('/' :: block.tagName.toList) ++ '>' :: x) =
        if name = block then [x] else [] := by
    intro name
    have hblanks : rests (chain [blanks, .one (· == '>')]) ('>' :: x) = [x] := rfl
    have hsplit : rests (FenceTag.pattern ⟨true, name⟩)
          (('/' :: block.tagName.toList) ++ '>' :: x) =
        (rests (word name.tagName) (block.tagName.toList ++ '>' :: x)).flatMap
          (rests (chain [blanks, .one (· == '>')])) := List.append_nil _
    rw [hsplit, rests_word_name]
    split
    · rw [List.flatMap_cons, List.flatMap_nil, List.append_nil, hblanks]
    · rfl
  rw [closeText_append, fenceTagAt, if_pos rfl]
  simp only [fenceTags, List.findSome?_cons, hname]
  cases block <;> rfl

def FenceSource.region (s : FenceSource) : Region fenceScanner where
  head := s.block.openText ++ attributeFront s.name.toList
  interior := attributeBehind s.name.toList ++ (escapeFenceSentinels s.text).toList
  close := s.block.closeText
  openTag := ⟨false, s.block⟩
  closeTag := ⟨true, s.block⟩
  openAt x := by
    rw [List.append_assoc]
    exact fenceTagAt_openText s.block s.name.toList x
  closeAt := fenceTagAt_closeText s.block
  Starts := TagStarts
  startsAt v x hv := fenceTagAt_close hv x
  not_starts_nil := not_tagStarts_nil
  ends v x t rest hv h := fenceTagAt_ends hv h

theorem FenceSource.region_text (digest : ContentDigest) (s : FenceSource) :
    s.region.text = (s.spotlight digest).fencedText.toList := by
  obtain ⟨block, name, text⟩ := s
  have hsplit := attribute_split name.toList
  have hregion : ∀ open_ close safe : List Char,
      open_ ++ attributeFront name.toList ++ (attributeBehind name.toList ++ safe ++ close) =
        open_ ++ name.toList ++ ['"', '>'] ++ safe ++ close := by
    intro open_ close safe
    rw [List.append_assoc open_ name.toList, ← hsplit]
    simp
  cases block with
  | operatorData =>
    simp only [Region.text, FenceSource.region, FenceSource.spotlight, spotlightOperatorString,
      hregion, String.toList_append]
    rfl
  | priorLlmOutput =>
    simp only [Region.text, FenceSource.region, FenceSource.spotlight, spotlightPriorLlmOutput,
      hregion, String.toList_append]
    rfl

/-- The tags of the source's block, and its text with the escapes between them. -/
def FenceSource.expected (s : FenceSource) : Expected Char FenceTag where
  openTag := ⟨false, s.block⟩
  closeTag := ⟨true, s.block⟩
  keeps content := (escapeFenceSentinels s.text).toList <:+: content

theorem FenceSource.region_meets (s : FenceSource) : s.region.Meets s.expected :=
  ⟨rfl, rfl, (List.suffix_append _ _).isInfix⟩

/-- No tag starts in the name behind the end of the opening tag, nor in the text other than by one
of the sequences that are escaped. -/
def FenceSource.Safe (s : FenceSource) : Prop :=
  Clean TagStarts (nameBehind s.name.toList) ∧
    Clean (fun u => TagStarts u ∧ ∀ seq ∈ fenceBreakingSequences, ¬ seq.toList <+: u) s.text.toList

theorem unmarked_sequences (u : List Char) :
    Unmarked sequenceMarks TagStarts u ↔
      TagStarts u ∧ ∀ seq ∈ fenceBreakingSequences, ¬ seq.toList <+: u := by
  have hpatterns : fenceBreakingSequences.map String.toList = sequenceMarks.map Mark.pattern := by
    decide
  have hmarks : (∀ m ∈ sequenceMarks, ¬ m.pattern <+: u) ↔
      ∀ pattern ∈ sequenceMarks.map Mark.pattern, ¬ pattern <+: u := by simp
  rw [Unmarked, hmarks, ← hpatterns]
  simp

/-- A name that closes no bracket stays within the opening tag. -/
theorem clean_nameBehind {name : List Char} (h : '>' ∉ name) :
    Clean TagStarts (nameBehind name) := by
  have hnone : name.dropWhile (· != '>') = [] := by
    rw [List.dropWhile_eq_nil_iff]
    intro c hc
    rw [bne_iff_ne]
    rintro rfl
    exact h hc
  intro u hu
  rw [nameBehind, hnone] at hu
  rw [List.suffix_nil.mp hu]
  exact not_tagStarts_nil

theorem clean_attributeBehind (name safe : List Char) :
    Clean TagStarts (attributeBehind name ++ safe) ↔
      Clean TagStarts (nameBehind name) ∧ Clean TagStarts safe := by
  unfold attributeBehind
  split
  · rw [List.append_assoc, Escape.clean_append not_tagStarts_nil]
    · have hquote : '<' ∉ ['"', '>'] := by decide
      rw [Escape.clean_append_plain tagStarts_opens hquote]
    · intro u _ hu
      exact tagStarts_append rfl hu
  · next hname =>
    rw [List.nil_append]
    exact (and_iff_right (clean_nameBehind hname)).symm

theorem FenceSource.clean_iff (s : FenceSource) :
    Clean TagStarts s.region.interior ↔ s.Safe := by
  have hescape := escapeFenceSentinels_pass.clean_iff (by decide) tagStarts_opens tagStarts_local
    s.text.toList
  simp only [String.ofList_toList] at hescape
  have hunmarked : Clean (Unmarked sequenceMarks TagStarts) s.text.toList ↔
      Clean (fun u => TagStarts u ∧ ∀ seq ∈ fenceBreakingSequences, ¬ seq.toList <+: u)
        s.text.toList :=
    forall₂_congr fun u _ => not_congr (unmarked_sequences u)
  rw [FenceSource.Safe, ← hunmarked, ← hescape]
  exact clean_attributeBehind s.name.toList _

/-! ### The section -/

theorem intercalate_cons (separator first : List Char) (parts : List (List Char)) :
    separator.intercalate (first :: parts) = first ++ parts.flatMap (separator ++ ·) := by
  induction parts generalizing first with
  | nil => simp [List.intercalate]
  | cons part parts ih =>
    rw [List.intercalate_cons_cons, ih, List.flatMap_cons, List.append_assoc, List.append_assoc]

theorem noTag_newline : Tags.NoTag fenceScanner ['\n'] := by
  intro v hv hne x
  rcases List.suffix_cons_iff.mp hv with rfl | hnil
  · rfl
  · exact absurd (List.suffix_nil.mp hnil) hne

theorem tags_header (rest : List Char) :
    tags fenceScanner [] (sectionHeader.toList ++ rest) =
      tags fenceScanner sectionHeader.toList rest := by
  rw [Tags.tags_append, List.nil_append]
  intro v hv hne
  have hheader : '<' ∉ sectionHeader.toList := by decide
  cases v with
  | nil => exact absurd rfl hne
  | cons c v =>
    have hc : c ≠ '<' := by
      rintro rfl
      exact hheader (hv.subset List.mem_cons_self)
    exact if_neg hc

theorem render_text {digest : ContentDigest} {sources : List FenceSource} {rendered : String}
    (h : renderUntrustedSection (sources.map (·.spotlight digest)) = .ok rendered) :
    sources = [] ∧ rendered = "" ∨
      rendered.toList = sectionHeader.toList ++ joined ['\n'] (sources.map (·.region)) := by
  unfold renderUntrustedSection at h
  split at h
  · next hnil => exact Or.inl ⟨List.map_eq_nil_iff.mp hnil, (Except.ok.inj h).symm⟩
  · split at h
    · cases h
    · right
      have htexts : ((sources.map (·.spotlight digest)).map (·.fencedText)).map String.toList =
          (sources.map (·.region)).map Region.text := by
        simp [FenceSource.region_text digest]
      rw [← Except.ok.inj h, String.toList_intercalate, List.map_cons, intercalate_cons, htexts,
        List.flatMap_map]
      rfl

/-- The section consists of its fences, whatever the texts, if and only if they are all safe. -/
theorem fenced_iff_safe (digest : ContentDigest) (sources : List FenceSource) (rendered : String)
    (h : renderUntrustedSection (sources.map (·.spotlight digest)) = .ok rendered) :
    Fenced (sources.map (·.expected)) (tags fenceScanner [] rendered.toList) ↔
      ∀ s ∈ sources, s.Safe := by
  rcases render_text h with ⟨rfl, rfl⟩ | htext
  · exact iff_of_true trivial (by simp)
  · rw [htext, tags_header, Tags.fenced_iff noTag_newline FenceSource.region_meets]
    exact forall₂_congr fun s _ => s.clean_iff

/-! ### A narration that closes its fence -/

def exampleSources (narration : String) : List FenceSource :=
  [⟨.operatorData, "goal", "Q2"⟩, ⟨.priorLlmOutput, "agent", narration⟩]

/-- A text without opening brackets is safe behind a name without closing ones. -/
theorem FenceSource.safe_of_plain {s : FenceSource} (hname : '>' ∉ s.name.toList)
    (htext : '<' ∉ s.text.toList) : s.Safe := by
  have hplain : ∀ P : List Char → Prop, Opens '<' P → Clean P s.text.toList := by
    intro P hP u hu hPu
    have hhead := hP u hPu
    exact htext (hu.subset (List.mem_of_mem_head? (Option.mem_def.mpr hhead)))
  constructor
  · exact clean_nameBehind hname
  · exact hplain _ fun u hu => tagStarts_opens u hu.1

theorem render_of_unflagged {digest : ContentDigest} {sources : List FenceSource}
    (h : ∀ s ∈ sources, (s.spotlight digest).flagged = false) :
    ∃ rendered, renderUntrustedSection (sources.map (·.spotlight digest)) = .ok rendered := by
  have hnone : (sources.map (·.spotlight digest)).find? (·.flagged) = none := by
    rw [List.find?_eq_none]
    intro b hb
    obtain ⟨s, hs, rfl⟩ := List.mem_map.mp hb
    rw [h s hs]
    exact Bool.false_ne_true
  unfold renderUntrustedSection
  split
  · exact ⟨_, rfl⟩
  · rw [hnone]
    exact ⟨_, rfl⟩

theorem plain_sources_fenced :
    ∃ rendered,
      renderUntrustedSection ((exampleSources "CM2 >1%").map (·.spotlight id)) = .ok rendered ∧
      Fenced ((exampleSources "CM2 >1%").map (·.expected))
        (tags fenceScanner [] rendered.toList) := by
  obtain ⟨rendered, h⟩ : ∃ rendered,
      renderUntrustedSection ((exampleSources "CM2 >1%").map (·.spotlight id)) = .ok rendered :=
    render_of_unflagged (by decide +kernel)
  refine ⟨rendered, h, (fenced_iff_safe id (exampleSources "CM2 >1%") rendered h).mpr ?_⟩
  simp only [exampleSources, List.forall_mem_cons]
  refine ⟨?_, ?_, by simp⟩
  · exact FenceSource.safe_of_plain (by decide) (by decide)
  · exact FenceSource.safe_of_plain (by decide) (by decide)

/-- In capitals the closing tag is neither flagged nor escaped. -/
theorem capital_tag_escapes :
    ∃ rendered,
      renderUntrustedSection ((exampleSources "</PRIOR_AGENT_OUTPUT>").map (·.spotlight id)) =
        .ok rendered ∧
      ¬ Fenced ((exampleSources "</PRIOR_AGENT_OUTPUT>").map (·.expected))
        (tags fenceScanner [] rendered.toList) := by
  obtain ⟨rendered, h⟩ : ∃ rendered,
      renderUntrustedSection ((exampleSources "</PRIOR_AGENT_OUTPUT>").map (·.spotlight id)) =
        .ok rendered :=
    render_of_unflagged (by decide +kernel)
  refine ⟨rendered, h, ?_⟩
  intro hfenced
  have hlength := hfenced.length
  rcases render_text h with ⟨hnil, -⟩ | htext
  · cases hnil
  · rw [htext, tags_header, Tags.length_tags _ []] at hlength
    revert hlength
    decide +kernel

end BrainV2.Insight
