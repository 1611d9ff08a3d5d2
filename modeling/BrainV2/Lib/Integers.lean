import Mathlib.Algebra.BigOperators.Group.List.Basic
import Mathlib.Data.Int.Init
import Mathlib.Tactic.Ring

/-!
# Integers of a width, and their divisions

Integers of 64 bits form a group, so the sums of lists split and may be reordered.

* `Wrapping.sum_ofInt`: the sum of wrapped numbers is the wrapped sum;
* `Wrapping.toInt_ofInt_eq_iff`: what a wrapped number reads as.

`Int.fdiv` rounds down, `Int.tdiv` towards zero, and a quotient by a positive number is also
`/`.

* `Uneven`: the quotients that the two round differently;
* `tdiv_eq`, `tdiv_eq_ediv_iff`: by how much they differ, and when they do not;
* `floored`, `floored_eq`: a truncation that is put right by the signs;
* `le_fdiv_neg_iff`: the bounds of a quotient by a negative number.
-/

namespace BrainV2.Wrapping

instance instAddCommGroupInt64 : AddCommGroup Int64 where
  add_assoc := Int64.add_assoc
  zero_add := Int64.zero_add
  add_zero := Int64.add_zero
  add_comm := Int64.add_comm
  neg_add_cancel := Int64.add_left_neg
  sub_eq_add_neg := Int64.sub_eq_add_neg
  nsmul := nsmulRec
  zsmul := zsmulRec

/-- What fits in 64 bits. -/
def Fits (n : Int) : Prop := -9223372036854775808 ≤ n ∧ n ≤ 9223372036854775807

instance (n : Int) : Decidable (Fits n) := inferInstanceAs (Decidable (_ ∧ _))

theorem sum_ofInt (l : List Int) : (l.map Int64.ofInt).sum = Int64.ofInt l.sum := by
  induction l with
  | nil => rfl
  | cons n l ih => rw [List.map_cons, List.sum_cons, List.sum_cons, ih, Int64.ofInt_add]

/-- A wrapped number reads as one that fits and differs by whole turns. -/
theorem toInt_ofInt_eq_iff {n m : Int} :
    (Int64.ofInt n).toInt = m ↔ Fits m ∧ (n - m) % 18446744073709551616 = 0 := by
  rw [Int64.toInt_ofInt, Int.bmod_def, Fits]
  simp only [Int64.size]
  split
  · omega
  · omega

theorem toInt_ofInt_of_fits {n : Int} (h : Fits n) : (Int64.ofInt n).toInt = n := by
  rw [toInt_ofInt_eq_iff]
  exact ⟨h, by omega⟩

end BrainV2.Wrapping

namespace BrainV2.Quotients

/-- A negative number that the divisor does not divide. -/
def Uneven (n d : Int) : Prop := n < 0 ∧ ¬ d ∣ n

instance (n d : Int) : Decidable (Uneven n d) := inferInstanceAs (Decidable (_ ∧ _))

theorem tdiv_eq {n d : Int} (hd : 0 < d) : n.tdiv d = n / d + if Uneven n d then 1 else 0 := by
  rw [Int.tdiv_eq_ediv, Int.sign_eq_one_of_pos hd]
  by_cases h : Uneven n d
  · have hneg : ¬ (0 ≤ n ∨ d ∣ n) := by
      rintro (hn | hdvd)
      · exact absurd h.1 (Int.not_lt.mpr hn)
      · exact h.2 hdvd
    rw [if_neg hneg, if_pos h]
  · have heven : 0 ≤ n ∨ d ∣ n := by
      by_cases hn : 0 ≤ n
      · exact Or.inl hn
      · right
        by_contra hdvd
        exact h ⟨Int.not_le.mp hn, hdvd⟩
    rw [if_pos heven, if_neg h]

theorem tdiv_eq_ediv_iff {n d : Int} (hd : 0 < d) : n.tdiv d = n / d ↔ ¬ Uneven n d := by
  rw [tdiv_eq hd]
  split
  · next h => exact iff_of_false (by omega) (not_not_intro h)
  · next h => exact iff_of_true (Int.add_zero _) h

theorem fdiv_eq {n d : Int} (hd : 0 < d) : n.fdiv d = n / d :=
  Int.fdiv_eq_ediv_of_nonneg n hd.le

/-- The truncated quotient, one less where the remainder and the divisor differ in sign. -/
def floored (n d : Int) : Int :=
  if n.tmod d ≠ 0 ∧ decide (n.tmod d < 0) ≠ decide (d < 0) then n.tdiv d - 1 else n.tdiv d

theorem floored_neg_neg (n : Int) {d : Int} (hd : d ≠ 0) : floored (-n) (-d) = floored n d := by
  have hmod : (-n).tmod (-d) = -n.tmod d := by rw [Int.tmod_neg, Int.neg_tmod]
  have hsign : (-n.tmod d ≠ 0 ∧ decide (-n.tmod d < 0) ≠ decide (-d < 0)) ↔
      (n.tmod d ≠ 0 ∧ decide (n.tmod d < 0) ≠ decide (d < 0)) := by
    rw [ne_eq, ne_eq, ne_eq, ne_eq, decide_eq_decide, decide_eq_decide]
    omega
  rw [floored, floored, hmod, Int.neg_tdiv_neg]
  simp only [hsign]

theorem floored_of_pos {n d : Int} (hd : 0 < d) : floored n d = n / d := by
  have hlow := Int.tmod_add_mul_tdiv n d
  rw [floored, decide_eq_false (Int.not_lt.mpr hd.le)]
  by_cases h : Uneven n d
  · have hrest : n.tmod d ≠ 0 := fun hzero => h.2 (Int.dvd_of_tmod_eq_zero hzero)
    have hneg : n.tmod d ≤ 0 := by
      have hflip := Int.tmod_nonneg d (show 0 ≤ -n by have := h.1; omega)
      rw [Int.neg_tmod] at hflip
      omega
    rw [if_pos ⟨hrest, by simp; omega⟩, tdiv_eq hd, if_pos h]
    omega
  · have hkept : ¬ (n.tmod d ≠ 0 ∧ decide (n.tmod d < 0) ≠ false) := by
      rintro ⟨hrest, hsign⟩
      have hlt : n.tmod d < 0 := by simpa using hsign
      apply h
      refine ⟨?_, fun hdvd => hrest (Int.tmod_eq_zero_of_dvd hdvd)⟩
      by_contra hn
      exact absurd (Int.tmod_nonneg d (Int.not_lt.mp hn)) (Int.not_le.mpr hlt)
    rw [if_neg hkept, (tdiv_eq_ediv_iff hd).mpr h]

theorem floored_eq {n d : Int} (hd : d ≠ 0) : floored n d = n.fdiv d := by
  rcases Int.lt_or_gt_of_ne hd with hneg | hpos
  · rw [← floored_neg_neg n hd, floored_of_pos (by omega), ← Int.neg_fdiv_neg, fdiv_eq (by omega)]
  · rw [floored_of_pos hpos, fdiv_eq hpos]

/-- The bounds of a quotient by a negative number. -/
theorem le_fdiv_neg_iff {n d k : Int} (hd : d < 0) : k ≤ n.fdiv d ↔ n ≤ k * d := by
  rw [← Int.neg_fdiv_neg, fdiv_eq (by omega), Int.le_ediv_iff_mul_le (by omega), Int.mul_neg]
  omega

end BrainV2.Quotients
