import BrainV2.Lib.Json.Writer
import Mathlib.Data.List.Basic
import Mathlib.Data.List.Lex

/-!
# Encodings of texts and bytes

Strings in the order of their UTF-16 code units:

* `utf16`: the code units of a string, `utf16_injective`: they determine it;
* `unitsLe`: the order of the units, which is total and antisymmetric.

Base64 for URLs:

* `charOf`, `encode`: six bits a character, with no padding;
* `valueOf`, `decode`: both alphabets are read, and what is in neither is skipped;
* `decode_encode`: bytes come back.
-/

namespace BrainV2.Utf16

/-- A character outside the basic plane is a surrogate pair. -/
def units (c : Char) : List Nat :=
  if c.toNat < 0x10000 then [c.toNat] else [Json.highHalf c.toNat, Json.lowHalf c.toNat]

def utf16 (s : String) : List Nat := s.toList.flatMap units

theorem char_eq_of_toNat {c d : Char} (h : c.toNat = d.toNat) : c = d :=
  Char.ext (UInt32.toNat_inj.mp h)

/-- The first units of a text tell its first character. -/
theorem units_append_inj {c d : Char} {xs ys : List Nat} (h : units c ++ xs = units d ++ ys) :
    c = d ∧ xs = ys := by
  have hc := Json.char_valid c
  have hd := Json.char_valid d
  unfold units Json.highHalf Json.lowHalf at h
  by_cases hc' : c.toNat < 0x10000 <;> by_cases hd' : d.toNat < 0x10000
  · simp only [if_pos hc', if_pos hd', List.cons_append, List.nil_append, List.cons.injEq] at h
    exact ⟨char_eq_of_toNat h.1, h.2⟩
  · simp only [if_pos hc', if_neg hd', List.cons_append, List.nil_append, List.cons.injEq] at h
    omega
  · simp only [if_neg hc', if_pos hd', List.cons_append, List.nil_append, List.cons.injEq] at h
    omega
  · simp only [if_neg hc', if_neg hd', List.cons_append, List.nil_append, List.cons.injEq] at h
    exact ⟨char_eq_of_toNat (by omega), h.2.2⟩

theorem units_ne_nil (c : Char) : units c ≠ [] := by
  unfold units
  split <;> exact List.cons_ne_nil _ _

theorem flatMap_units_injective {cs ds : List Char} (h : cs.flatMap units = ds.flatMap units) :
    cs = ds := by
  induction cs generalizing ds with
  | nil =>
    cases ds with
    | nil => rfl
    | cons d ds =>
      rw [List.flatMap_nil, List.flatMap_cons] at h
      exact absurd (List.append_eq_nil_iff.mp h.symm).1 (units_ne_nil d)
  | cons c cs ih =>
    cases ds with
    | nil =>
      rw [List.flatMap_nil, List.flatMap_cons] at h
      exact absurd (List.append_eq_nil_iff.mp h).1 (units_ne_nil c)
    | cons d ds =>
      rw [List.flatMap_cons, List.flatMap_cons] at h
      obtain ⟨rfl, hrest⟩ := units_append_inj h
      rw [ih hrest]

theorem utf16_injective {s t : String} (h : utf16 s = utf16 t) : s = t :=
  String.toList_inj.mp (flatMap_units_injective h)

/-- The comparison of strings by their code units. -/
def unitsLe (s t : String) : Bool := decide (utf16 s ≤ utf16 t)

theorem unitsLe_iff {s t : String} : unitsLe s t = true ↔ utf16 s ≤ utf16 t :=
  decide_eq_true_iff

theorem unitsLe_refl (s : String) : unitsLe s s = true := unitsLe_iff.mpr (le_refl _)

theorem unitsLe_total (s t : String) : unitsLe s t = true ∨ unitsLe t s = true := by
  rw [unitsLe_iff, unitsLe_iff]
  exact le_total _ _

theorem unitsLe_trans {s t u : String} (h : unitsLe s t = true) (h' : unitsLe t u = true) :
    unitsLe s u = true :=
  unitsLe_iff.mpr (le_trans (unitsLe_iff.mp h) (unitsLe_iff.mp h'))

theorem unitsLe_antisymm {s t : String} (h : unitsLe s t = true) (h' : unitsLe t s = true) :
    s = t :=
  utf16_injective (le_antisymm (unitsLe_iff.mp h) (unitsLe_iff.mp h'))

end BrainV2.Utf16

namespace BrainV2.Base64Url

def charOf (n : Nat) : Char :=
  if n < 26 then Char.ofNat (65 + n)
  else if n < 52 then Char.ofNat (71 + n)
  else if n < 62 then Char.ofNat (n - 4)
  else if n = 62 then '-'
  else '_'

def encode : List UInt8 → List Char
  | [] => []
  | [a] => [charOf (a.toNat / 4), charOf (a.toNat % 4 * 16)]
  | [a, b] =>
    [charOf (a.toNat / 4), charOf (a.toNat % 4 * 16 + b.toNat / 16), charOf (b.toNat % 16 * 4)]
  | a :: b :: c :: rest =>
    charOf (a.toNat / 4) :: charOf (a.toNat % 4 * 16 + b.toNat / 16) ::
      charOf (b.toNat % 16 * 4 + c.toNat / 64) :: charOf (c.toNat % 64) :: encode rest

def valueOf (c : Char) : Option Nat :=
  if 'A' ≤ c ∧ c ≤ 'Z' then some (c.toNat - 65)
  else if 'a' ≤ c ∧ c ≤ 'z' then some (c.toNat - 71)
  else if '0' ≤ c ∧ c ≤ '9' then some (c.toNat + 4)
  else if c = '-' ∨ c = '+' then some 62
  else if c = '_' ∨ c = '/' then some 63
  else none

/-- The bytes of groups of four; a last character that is alone has too few bits for one. -/
def bytesOf : List Nat → List UInt8
  | [] => []
  | [_] => []
  | [w, x] => [UInt8.ofNat (w * 4 + x / 16)]
  | [w, x, y] => [UInt8.ofNat (w * 4 + x / 16), UInt8.ofNat (x % 16 * 16 + y / 4)]
  | w :: x :: y :: z :: rest =>
    UInt8.ofNat (w * 4 + x / 16) :: UInt8.ofNat (x % 16 * 16 + y / 4) ::
      UInt8.ofNat (y % 4 * 64 + z) :: bytesOf rest

def decode (cs : List Char) : List UInt8 := bytesOf (cs.filterMap valueOf)

example : encode [251, 255] = ['-', '_', '8'] := by decide

theorem valueOf_charOf : ∀ n < 64, valueOf (charOf n) = some n := by decide

theorem ofNat_eq {n : Nat} {b : UInt8} (h : n = b.toNat) : UInt8.ofNat n = b := by
  rw [h, UInt8.ofNat_toNat]

theorem decode_encode (bytes : List UInt8) : decode (encode bytes) = bytes := by
  unfold decode
  induction bytes using encode.induct with
  | case1 => rfl
  | case2 a =>
    have ha := a.toNat_lt
    rw [encode, List.filterMap_cons_some (valueOf_charOf _ (by omega)),
      List.filterMap_cons_some (valueOf_charOf _ (by omega)), List.filterMap_nil, bytesOf,
      ofNat_eq (b := a) (by omega)]
  | case3 a b =>
    have ha := a.toNat_lt
    have hb := b.toNat_lt
    rw [encode, List.filterMap_cons_some (valueOf_charOf _ (by omega)),
      List.filterMap_cons_some (valueOf_charOf _ (by omega)),
      List.filterMap_cons_some (valueOf_charOf _ (by omega)), List.filterMap_nil, bytesOf,
      ofNat_eq (b := a) (by omega), ofNat_eq (b := b) (by omega)]
  | case4 a b c rest ih =>
    have ha := a.toNat_lt
    have hb := b.toNat_lt
    have hc := c.toNat_lt
    rw [encode, List.filterMap_cons_some (valueOf_charOf _ (by omega)),
      List.filterMap_cons_some (valueOf_charOf _ (by omega)),
      List.filterMap_cons_some (valueOf_charOf _ (by omega)),
      List.filterMap_cons_some (valueOf_charOf _ (by omega)), bytesOf, ih,
      ofNat_eq (b := a) (by omega), ofNat_eq (b := b) (by omega), ofNat_eq (b := c) (by omega)]

end BrainV2.Base64Url
