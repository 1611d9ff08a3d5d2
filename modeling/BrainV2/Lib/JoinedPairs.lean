import Mathlib.Data.List.Basic

/-!
# Pairs joined into a text

Keys and values with a mark between them, and a separator between the pairs; nothing is escaped.

* `render`: the text of a list of pairs;
* `Plain`: a pair without the separator, and without the mark in its key;
* `parse_render`, `render_injective`: plain pairs are read back, so their text is theirs alone;
* `render_cons_cons`: the text of several pairs is also that of one.
-/

namespace BrainV2.JoinedPairs

variable {α : Type*} {separator mark : α} {pairs pairs' : List (List α × List α)}

def renderPair (mark : α) (p : List α × List α) : List α := p.1 ++ mark :: p.2

def render (separator mark : α) (pairs : List (List α × List α)) : List α :=
  [separator].intercalate (pairs.map (renderPair mark))

structure Plain (separator mark : α) (p : List α × List α) : Prop where
  key_separator : separator ∉ p.1
  key_mark : mark ∉ p.1
  value_separator : separator ∉ p.2

/-- The first value takes the pairs behind it in. -/
theorem render_cons_cons (k v : List α) (p : List α × List α) :
    render separator mark ((k, v) :: p :: pairs) =
      render separator mark [(k, v ++ separator :: render separator mark (p :: pairs))] := by
  simp [render, renderPair, List.intercalate_cons_cons]

theorem separator_notMem_renderPair {p : List α × List α} (hne : separator ≠ mark)
    (h : Plain separator mark p) : separator ∉ renderPair mark p := by
  simp only [renderPair, List.mem_append, List.mem_cons, not_or]
  exact ⟨h.key_separator, hne, h.value_separator⟩

variable [DecidableEq α]

def parsePair (mark : α) (piece : List α) : List α × List α :=
  (piece.takeWhile (· ≠ mark), (piece.dropWhile (· ≠ mark)).tail)

def parse (separator mark : α) (text : List α) : List (List α × List α) :=
  if text = [] then [] else (text.splitOn separator).map (parsePair mark)

theorem parsePair_renderPair {p : List α × List α} (h : mark ∉ p.1) :
    parsePair mark (renderPair mark p) = p := by
  have hkey : ∀ x ∈ p.1, decide (x ≠ mark) = true := by
    intro x hx
    apply decide_eq_true
    rintro rfl
    exact h hx
  rw [parsePair, renderPair, List.takeWhile_append_of_pos hkey, List.dropWhile_append_of_pos hkey]
  simp

theorem parse_render (hne : separator ≠ mark) (h : ∀ p ∈ pairs, Plain separator mark p) :
    parse separator mark (render separator mark pairs) = pairs := by
  cases pairs with
  | nil => rfl
  | cons p pairs =>
    have htext : render separator mark (p :: pairs) ≠ [] := by
      cases pairs with
      | nil => simp [render, renderPair]
      | cons q pairs => simp [render, renderPair, List.intercalate_cons_cons]
    have hpieces : ∀ piece ∈ (p :: pairs).map (renderPair mark), separator ∉ piece := by
      intro piece hpiece
      obtain ⟨q, hq, rfl⟩ := List.mem_map.mp hpiece
      exact separator_notMem_renderPair hne (h q hq)
    rw [parse, if_neg htext, render, List.splitOn_intercalate _ hpieces (by simp), List.map_map]
    have hread : ∀ q ∈ p :: pairs, (parsePair mark ∘ renderPair mark) q = q := fun q hq =>
      parsePair_renderPair (h q hq).key_mark
    rw [List.map_congr_left hread, List.map_id']

/-- Plain pairs with one text are the same. -/
theorem render_injective (hne : separator ≠ mark) (h : ∀ p ∈ pairs, Plain separator mark p)
    (h' : ∀ p ∈ pairs', Plain separator mark p)
    (htext : render separator mark pairs = render separator mark pairs') : pairs = pairs' := by
  have hread := congrArg (parse separator mark) htext
  rwa [parse_render hne h, parse_render hne h'] at hread

end BrainV2.JoinedPairs
