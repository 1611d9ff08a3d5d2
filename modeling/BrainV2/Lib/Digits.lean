import BrainV2.Lib.Json.Number
import BrainV2.Lib.Encodings
import Mathlib.Data.List.DropRight

/-!
# Decimal digits and their values

* `value`: the natural that digits are written for;
* `value_append`, `value_replicate_zero`, `value_lt`: how it goes with the
  length;
* `value_toDigits`: the digits of a natural have its value;
* `unitsLe_iff_value_le`: digits of one length are ordered like their values;
* `padded`: the digits of a natural with zeros in front up to a width;
* `trimmed_eq_self`: a text without blanks has none at its ends.
-/

namespace BrainV2.Digits

open Utf16 (unitsLe unitsLe_iff units utf16)

def value (ds : List Char) : Nat := Nat.ofDigitChars 10 ds 0

@[simp] theorem value_nil : value [] = 0 := rfl

theorem value_append (ds es : List Char) :
    value (ds ++ es) = value ds * 10 ^ es.length + value es := by
  rw [value, Nat.ofDigitChars_append, Nat.ofDigitChars_eq_ofDigitChars_zero, Nat.mul_comm]
  rfl

theorem value_cons (c : Char) (ds : List Char) :
    value (c :: ds) = (c.toNat - 48) * 10 ^ ds.length + value ds := by
  rw [value, Nat.ofDigitChars_cons, Nat.ofDigitChars_eq_ofDigitChars_zero, Nat.mul_zero,
    Nat.zero_add, Nat.mul_comm]
  rfl

@[simp] theorem value_replicate_zero (n : Nat) : value (List.replicate n '0') = 0 := by
  rw [value, Nat.ofDigitChars_replicate_zero, Nat.mul_zero]

@[simp] theorem value_toDigits (n : Nat) : value (Nat.toDigits 10 n) = n :=
  Nat.ofDigitChars_ten_toDigits

theorem isDigit_toDigits (n : Nat) : ∀ c ∈ Nat.toDigits 10 n, c.isDigit = true :=
  fun _ hc => Nat.isDigit_of_mem_toDigits (by omega) (by omega) hc

/-- The digits of a natural, with zeros in front up to a width. -/
def padded (width n : Nat) : List Char := (Nat.toDigits 10 n).leftpad width '0'

theorem isDigit_padded (width n : Nat) : ∀ c ∈ padded width n, c.isDigit = true := by
  intro c hc
  rcases List.mem_append.mp hc with hc | hc
  · rw [List.eq_of_mem_replicate hc]
    rfl
  · exact isDigit_toDigits n c hc

theorem padded_ne_nil (width n : Nat) : padded width n ≠ [] :=
  List.append_ne_nil_of_right_ne_nil _ Nat.toDigits_ne_nil

@[simp] theorem value_padded (width n : Nat) : value (padded width n) = n := by
  rw [padded, List.leftpad, value_append, value_replicate_zero, value_toDigits]
  omega

theorem length_padded {width n : Nat} (hwidth : 0 < width) (h : n < 10 ^ width) :
    (padded width n).length = width := by
  have hle := (Nat.length_toDigits_le_iff (by omega) hwidth).mpr h
  rw [padded, List.leftpad, List.length_append, List.length_replicate]
  omega

section

variable {ds es : List Char}

theorem isDigit_bounds {c : Char} (h : c.isDigit = true) : 48 ≤ c.toNat ∧ c.toNat ≤ 57 := by
  simp only [Char.isDigit, Bool.and_eq_true, decide_eq_true_eq] at h
  exact h

theorem value_lt (hds : ∀ c ∈ ds, c.isDigit = true) : value ds < 10 ^ ds.length := by
  have hlt := Json.ofDigitChars_lt hds 0
  rwa [Nat.mul_one] at hlt

theorem units_digit {c : Char} (h : c.isDigit = true) : units c = [c.toNat] := by
  have hbounds := isDigit_bounds h
  unfold units
  rw [if_pos (by omega)]

theorem units_lt_iff (hds : ∀ c ∈ ds, c.isDigit = true) (hes : ∀ c ∈ es, c.isDigit = true)
    (hlength : ds.length = es.length) :
    ds.flatMap units < es.flatMap units ↔ value ds < value es := by
  induction ds generalizing es with
  | nil =>
    obtain rfl := List.length_eq_zero_iff.mp hlength.symm
    simp
  | cons d ds ih =>
    cases es with
    | nil => cases hlength
    | cons e es =>
      have hlength' : ds.length = es.length := Nat.succ.inj hlength
      have hd := hds d List.mem_cons_self
      have he := hes e List.mem_cons_self
      have hds' : ∀ c ∈ ds, c.isDigit = true := fun c hc => hds c (List.mem_cons_of_mem _ hc)
      have hes' : ∀ c ∈ es, c.isDigit = true := fun c hc => hes c (List.mem_cons_of_mem _ hc)
      have hlt := value_lt hds'
      have hlt' := value_lt hes'
      have hdBounds := isDigit_bounds hd
      have heBounds := isDigit_bounds he
      rw [List.flatMap_cons, List.flatMap_cons, units_digit hd, units_digit he,
        List.singleton_append, List.singleton_append, List.cons_lt_cons_iff, ih hds' hes' hlength',
        value_cons, value_cons, hlength']
      rw [hlength'] at hlt
      generalize 10 ^ es.length = w at hlt hlt'
      -- A smaller first digit outweighs all that follows.
      rcases Nat.lt_trichotomy d.toNat e.toNat with hde | hde | hde
      · have hstep : (d.toNat - 48 + 1) * w ≤ (e.toNat - 48) * w :=
          Nat.mul_le_mul_right w (by omega)
        rw [Nat.add_mul, Nat.one_mul] at hstep
        exact iff_of_true (Or.inl hde) (by omega)
      · simp [hde]
      · have hstep : (e.toNat - 48 + 1) * w ≤ (d.toNat - 48) * w :=
          Nat.mul_le_mul_right w (by omega)
        rw [Nat.add_mul, Nat.one_mul] at hstep
        exact iff_of_false (by omega) (by omega)

/-- Digits of one length are ordered like their values. -/
theorem unitsLe_iff_value_le (hds : ∀ c ∈ ds, c.isDigit = true)
    (hes : ∀ c ∈ es, c.isDigit = true) (hlength : ds.length = es.length) :
    unitsLe (String.ofList ds) (String.ofList es) = true ↔ value ds ≤ value es := by
  rw [unitsLe_iff, utf16, utf16, String.toList_ofList, String.toList_ofList, ← not_lt,
    units_lt_iff hes hds hlength.symm, not_lt]

end

theorem trimmed_eq_self {p : Char → Bool} {cs : List Char} (h : ∀ c ∈ cs, p c = false) :
    (cs.dropWhile p).rdropWhile p = cs := by
  have hleft : cs.dropWhile p = cs := by
    rw [List.dropWhile_eq_self_iff]
    intro hlength
    simp [h _ (List.getElem_mem hlength)]
  rw [hleft, List.rdropWhile_eq_self_iff]
  intro hne
  simp [h _ (List.getLast_mem hne)]

end BrainV2.Digits
