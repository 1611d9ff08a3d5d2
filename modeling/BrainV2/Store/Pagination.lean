import BrainV2.Js.Values
import BrainV2.Lib.Encodings
import BrainV2.Py.Values
import Mathlib.Data.List.Sort

/-!
# Keyset pagination

* `Keyset`, `encodeCursor`, `decodeCursor`: the cursor payload and its opaque text;
* `decodeCursor_encodeCursor`: every payload comes back;
* `Place`, `SortDir.precedes`, `SortDir.orderBy`: `ORDER BY <col> <dir> NULLS LAST, id <dir>`;
* `keysetPredicate`, `keysetPredicate_eq`: the seek predicate is true of the rows after the cursor;
* `filter_seek`: behind a row of those in order come the ones after it.
-/

namespace BrainV2.Store

open Js (Engine)

/-! ### Cursors -/

/-- The sort column value as SQL text, null in the section of nulls, and the id tiebreaker. -/
structure Keyset where
  v : Option String
  id : String
deriving DecidableEq

def Keyset.json (k : Keyset) : Json :=
  .obj [("v", k.v.elim .null .str), ("id", .str k.id)]

def encodeCursor (k : Keyset) : String :=
  String.ofList (Base64Url.encode (Py.utf8 (Js.stringify k.json)))

/-- `buffer.toString('utf8')` -/
def bufferText (engine : Engine) (bytes : List UInt8) : String :=
  (Py.utf8Decode bytes).getD (engine.replaced bytes)

/-- Absent and malformed cursors are none. -/
def decodeCursor (engine : Engine) : Option String → Option Keyset
  | none | some "" => none
  | some text =>
    match Js.parse (bufferText engine (Base64Url.decode text.toList)) with
    | .ok (.obj members) =>
      match members.lookup "id", members.lookup "v" with
      | some (.str id), some .null => some ⟨none, id⟩
      | some (.str id), some (.str v) => some ⟨some v, id⟩
      | _, _ => none
    | _ => none

theorem parse_stringify_keyset (k : Keyset) : Js.parse (Js.stringify k.json) = .ok k.json := by
  have hvalue : ∀ stack rest, Json.parse Js.dialect ⟨.members [] "v" :: stack, .value⟩
      (Js.stringifyChars (k.v.elim .null .str) ++ ',' :: rest) =
        Json.parse Js.dialect ⟨.members [("v", k.v.elim .null .str)] "v" :: stack, .nextKey⟩
          rest := by
    intro stack rest
    cases k.v with
    | none => rfl
    | some v =>
      rw [Option.elim_some, Js.stringifyChars, Js.parse_quote]
      rfl
  have hopen : Json.parse Js.dialect ⟨[], .value⟩ (Js.stringifyChars k.json) =
      Json.parse Js.dialect ⟨[.members [] ""], .firstKey⟩ (Js.quote "v" ++ ':' ::
        (Js.stringifyChars (k.v.elim .null .str) ++ ',' ::
          (Js.quote "id" ++ ':' :: (Js.quote k.id ++ ['\x7d'])))) := by
    simp only [Keyset.json, Js.stringifyChars, Js.stringifyMembers, List.cons_append,
      List.append_assoc]
    rfl
  have hloads : Json.loads Js.dialect (Js.stringify k.json) = .ok k.json := by
    rw [Json.loads, Js.stringify, String.toList_ofList, hopen, Js.parse_quotedKey (.inl rfl),
      hvalue, Js.parse_quotedKey (.inr rfl), Js.parse_quote]
    rfl
  rw [Js.parse, hloads]

theorem decodeCursor_encodeCursor (engine : Engine) (k : Keyset) :
    decodeCursor engine (some (encodeCursor k)) = some k := by
  have htext : bufferText engine (Base64Url.decode (encodeCursor k).toList) =
      Js.stringify k.json := by
    rw [encodeCursor, String.toList_ofList, Base64Url.decode_encode, bufferText,
      Py.utf8Decode_utf8, Option.getD_some]
  have hne : encodeCursor k ≠ "" := by
    intro hempty
    rw [hempty] at htext
    have hread := parse_stringify_keyset k
    rw [← htext] at hread
    cases hread
  rw [decodeCursor.eq_def]
  split
  · next h => cases h
  · next h => exact absurd (Option.some.inj h) hne
  · next text hnot heq =>
    rw [← Option.some.inj heq, htext, parse_stringify_keyset]
    obtain ⟨v, id⟩ := k
    cases v <;> rfl

/-! ### The order of a listing -/

inductive SortDir where
  | asc
  | desc
deriving DecidableEq

/-- The sort column and the id of a row. -/
abbrev Place (κ ι : Type) := Option κ × ι

namespace SortDir

/-- `x cmp y` -/
def cmp {α : Type} [LinearOrder α] : SortDir → α → α → Bool
  | .desc, x, y => x < y
  | .asc, x, y => x > y

variable {α κ ι : Type} [LinearOrder α] [LinearOrder κ] [LinearOrder ι]

/-- The first place comes before the second. -/
def precedes (dir : SortDir) : Place κ ι → Place κ ι → Bool
  | (some v, i), (some w, j) => dir.cmp w v || (w = v && dir.cmp j i)
  | (some _, _), (none, _) => true
  | (none, _), (some _, _) => false
  | (none, i), (none, j) => dir.cmp j i

variable {dir : SortDir}

theorem cmp_trans {x y z : α} (hxy : dir.cmp x y = true) (hyz : dir.cmp y z = true) :
    dir.cmp x z = true := by
  cases dir with
  | asc => exact decide_eq_true ((of_decide_eq_true hyz).trans (of_decide_eq_true hxy))
  | desc => exact decide_eq_true ((of_decide_eq_true hxy).trans (of_decide_eq_true hyz))

theorem cmp_irrefl (x : α) : dir.cmp x x = false := by
  cases dir <;> exact decide_eq_false (lt_irrefl x)

variable (dir) in
theorem cmp_connected (x y : α) : dir.cmp x y = true ∨ x = y ∨ dir.cmp y x = true := by
  cases dir with
  | asc =>
    simp only [cmp, decide_eq_true_eq]
    rcases lt_trichotomy x y with h | h | h
    · exact .inr (.inr h)
    · exact .inr (.inl h)
    · exact .inl h
  | desc =>
    simp only [cmp, decide_eq_true_eq]
    exact lt_trichotomy x y

theorem precedes_trans {p q r : Place κ ι} (hpq : dir.precedes p q = true)
    (hqr : dir.precedes q r = true) : dir.precedes p r = true := by
  obtain ⟨v, i⟩ := p
  obtain ⟨w, j⟩ := q
  obtain ⟨x, k⟩ := r
  cases v with
  | none =>
    cases w with
    | none =>
      cases x with
      | none => exact cmp_trans hqr hpq
      | some x => cases hqr
    | some w => cases hpq
  | some v =>
    cases x with
    | none => rfl
    | some x =>
      cases w with
      | none => cases hqr
      | some w =>
        simp only [precedes, Bool.or_eq_true, Bool.and_eq_true, decide_eq_true_eq] at hpq hqr ⊢
        grind [cmp_trans]

theorem precedes_irrefl (p : Place κ ι) : dir.precedes p p = false := by
  obtain ⟨v, i⟩ := p
  cases v <;> simp [precedes, cmp_irrefl]

variable (dir) in
theorem precedes_connected (p q : Place κ ι) :
    dir.precedes p q = true ∨ p = q ∨ dir.precedes q p = true := by
  obtain ⟨v, i⟩ := p
  obtain ⟨w, j⟩ := q
  have hid := cmp_connected dir i j
  cases v with
  | none =>
    cases w with
    | none =>
      simp only [precedes, Prod.mk.injEq, true_and]
      grind
    | some w => exact .inr (.inr rfl)
  | some v =>
    cases w with
    | none => exact .inl rfl
    | some w =>
      have hvalue := cmp_connected dir v w
      simp only [precedes, Bool.or_eq_true, Bool.and_eq_true, decide_eq_true_eq, Prod.mk.injEq,
        Option.some.injEq]
      grind

end SortDir

/-- The seek predicate; a comparison with null is not true. -/
def keysetPredicate {κ ι : Type} [LinearOrder κ] [LinearOrder ι] (dir : SortDir)
    (cursor : Place κ ι) (col : Option κ) (id : ι) : Bool :=
  match cursor.1 with
  | none => col.isNone && dir.cmp id cursor.2
  | some v =>
    col.isNone || col.any (dir.cmp · v) || (col.any (· = v) && dir.cmp id cursor.2)

section

variable {κ ι : Type} [LinearOrder κ] [LinearOrder ι] {dir : SortDir}

/-- It is true of the rows after the cursor. -/
theorem keysetPredicate_eq (cursor place : Place κ ι) :
    keysetPredicate dir cursor place.1 place.2 = dir.precedes cursor place := by
  obtain ⟨v, i⟩ := cursor
  obtain ⟨w, j⟩ := place
  cases v with
  | none => cases w <;> rfl
  | some v =>
    cases w with
    | none => rfl
    | some w => simp [keysetPredicate, SortDir.precedes]

end

section

variable {α κ ι : Type} [LinearOrder κ] [LinearOrder ι] {dir : SortDir} {place : α → Place κ ι}

variable (dir place) in
/-- The second row does not come before the first. -/
def SortDir.NotAfter (r s : α) : Prop := dir.precedes (place s) (place r) = false

instance : DecidableRel (dir.NotAfter place) :=
  fun r s => inferInstanceAs (Decidable (dir.precedes (place s) (place r) = false))

instance : Std.Total (dir.NotAfter place) where
  total r s := by
    by_contra! hnot
    simp only [SortDir.NotAfter, Bool.not_eq_false] at hnot
    have hself := SortDir.precedes_trans hnot.1 hnot.2
    rw [SortDir.precedes_irrefl] at hself
    cases hself

instance : IsTrans α (dir.NotAfter place) where
  trans r s t hrs hst := by
    by_contra hnot
    simp only [SortDir.NotAfter, Bool.not_eq_false] at hrs hst hnot
    rcases SortDir.precedes_connected dir (place r) (place s) with h | h | h
    · exact Bool.false_ne_true (hst.symm.trans (SortDir.precedes_trans hnot h))
    · exact Bool.false_ne_true (hst.symm.trans (h ▸ hnot))
    · exact Bool.false_ne_true (hrs.symm.trans h)

variable (dir place) in
def SortDir.orderBy (rows : List α) : List α := rows.insertionSort (dir.NotAfter place)

theorem orderBy_perm (rows : List α) : (dir.orderBy place rows).Perm rows :=
  List.perm_insertionSort _ _

theorem mem_orderBy {rows : List α} {r : α} : r ∈ dir.orderBy place rows ↔ r ∈ rows :=
  (orderBy_perm rows).mem_iff

variable {rows : List α} (hplaces : (rows.map place).Nodup)

include hplaces

/-- Rows in different places come one strictly before the next. -/
theorem orderBy_sorted :
    (dir.orderBy place rows).Pairwise fun r s => dir.precedes (place r) (place s) = true := by
  have hne : (dir.orderBy place rows).Pairwise fun r s => place r ≠ place s :=
    List.pairwise_map.mp (((orderBy_perm rows).map place).nodup_iff.mpr hplaces)
  have hsorted : (dir.orderBy place rows).Pairwise (dir.NotAfter place) :=
    List.pairwise_insertionSort _ _
  apply (hsorted.and hne).imp
  rintro r s ⟨hnot, hne⟩
  rcases SortDir.precedes_connected dir (place r) (place s) with h | h | h
  · exact h
  · exact absurd h hne
  · exact absurd (hnot.symm.trans h) Bool.false_ne_true

/-- Rows may be picked before they are put in order. -/
theorem orderBy_filter (p : α → Bool) :
    dir.orderBy place (rows.filter p) = (dir.orderBy place rows).filter p := by
  have hpicked : ((rows.filter p).map place).Nodup :=
    hplaces.sublist (List.filter_sublist.map place)
  apply List.Perm.eq_of_pairwise _ (orderBy_sorted hpicked) ((orderBy_sorted hplaces).filter p)
  · exact (orderBy_perm _).trans ((orderBy_perm rows).filter p).symm
  · intro r s _ _ hrs hsr
    have hself := SortDir.precedes_trans hrs hsr
    rw [SortDir.precedes_irrefl] at hself
    cases hself

/-- Behind a row of those in order come the ones after it. -/
theorem filter_seek {front rest : List α} {last : α}
    (h : dir.orderBy place rows = front ++ last :: rest) :
    (dir.orderBy place rows).filter
      (fun r => keysetPredicate dir (place last) (place r).1 (place r).2) = rest := by
  have hsorted : (dir.orderBy place rows).Pairwise fun r s =>
      dir.precedes (place r) (place s) = true := orderBy_sorted hplaces
  rw [h] at hsorted ⊢
  obtain ⟨-, hrest, hfront⟩ := List.pairwise_append.mp hsorted
  have hnone : front.filter (fun r => dir.precedes (place last) (place r)) = [] := by
    apply List.filter_eq_nil_iff.mpr
    intro r hr hafter
    have hself := SortDir.precedes_trans (hfront r hr last List.mem_cons_self) hafter
    rw [SortDir.precedes_irrefl] at hself
    cases hself
  have hall : rest.filter (fun r => dir.precedes (place last) (place r)) = rest := by
    apply List.filter_eq_self.mpr
    exact fun r hr => (List.pairwise_cons.mp hrest).1 r hr
  simp only [keysetPredicate_eq]
  rw [List.filter_append, hnone, List.filter_cons_of_neg, hall, List.nil_append]
  rw [SortDir.precedes_irrefl]
  exact Bool.false_ne_true

end

end BrainV2.Store
