import Mathlib.Algebra.Order.Field.Basic
import Mathlib.Algebra.Order.Round
import Mathlib.Data.List.Forall2
import Mathlib.Data.List.Sort
import Mathlib.Tactic.Linarith

/-!
# Medians and percentiles

* `median`: halfway between the two elements in the middle;
* `getElem_le_iff`: where an element of a sorted list stands is a matter of counting;
* `median_eq_least_iff`: the median is the least element when more than half of them are;
* `floor_half_eq_iff`: two numbers round to the same integer when no half lies between them;
* `Grown`: each element of a list, in some order, grows to one of another;
* `Grown.filter`: what is kept of them grows when no more of them is kept;
* `Grown.getElem_le`: the elements of the sorted lists grow;
* `blend_mono`: so does what is interpolated between two of them.
-/

namespace BrainV2.Medians

section

variable {K : Type*} [LinearOrder K] {s l : List K}

/-- An element of a sorted list is at most `v` when more elements than come before it are. -/
theorem getElem_le_iff (h : s.Pairwise (· ≤ ·)) {i : ℕ} (hi : i < s.length) (v : K) :
    s[i] ≤ v ↔ i < (s.filter (· ≤ v)).length := by
  induction s generalizing i with
  | nil => exact absurd hi (Nat.not_lt_zero i)
  | cons a s ih =>
    obtain ⟨ha, hs⟩ := List.pairwise_cons.mp h
    by_cases hav : a ≤ v
    · rw [List.filter_cons_of_pos (by simpa using hav), List.length_cons]
      cases i with
      | zero => simpa using hav
      | succ i =>
        rw [List.getElem_cons_succ, ih hs (Nat.lt_of_succ_lt_succ hi)]
        omega
    · have hnone : (a :: s).filter (· ≤ v) = [] := by
        rw [List.filter_eq_nil_iff]
        intro x hx hxv
        cases List.mem_cons.mp hx with
        | inl hfirst => exact hav (by simpa [hfirst] using hxv)
        | inr hrest => exact hav ((ha x hrest).trans (of_decide_eq_true hxv))
      have hat : a ≤ (a :: s)[i] := by
        cases i with
        | zero => exact le_refl a
        | succ i => exact ha _ (List.getElem_mem _)
      rw [hnone]
      exact iff_of_false (fun hle => hav (hat.trans hle)) (Nat.not_lt_zero i)

end

section

variable {K : Type*} [Field K] [LinearOrder K] {l : List K} {v : K}

def median (l : List K) : Option K :=
  let s := l.insertionSort (· ≤ ·)
  match s[(l.length - 1) / 2]?, s[l.length / 2]? with
  | some low, some high => some ((low + high) / 2)
  | _, _ => none

theorem median_nil : median ([] : List K) = none := rfl

theorem median_of_ne_nil (h : l ≠ []) :
    ∃ low high, (l.insertionSort (· ≤ ·))[(l.length - 1) / 2]? = some low ∧
      (l.insertionSort (· ≤ ·))[l.length / 2]? = some high ∧
      median l = some ((low + high) / 2) := by
  have hlength := List.length_pos_iff.mpr h
  have hlow : (l.length - 1) / 2 < (l.insertionSort (· ≤ ·)).length := by
    rw [List.length_insertionSort]
    omega
  have hhigh : l.length / 2 < (l.insertionSort (· ≤ ·)).length := by
    rw [List.length_insertionSort]
    omega
  refine ⟨_, _, List.getElem?_eq_getElem hlow, List.getElem?_eq_getElem hhigh, ?_⟩
  simp only [median, List.getElem?_eq_getElem hlow, List.getElem?_eq_getElem hhigh]

theorem exists_median (h : l ≠ []) : ∃ m, median l = some m := by
  obtain ⟨low, high, -, -, hmedian⟩ := median_of_ne_nil h
  exact ⟨_, hmedian⟩

theorem median_eq_least_iff [IsStrictOrderedRing K] (h : ∀ x ∈ l, v ≤ x) :
    median l = some v ↔ l.length < 2 * (l.filter (· = v)).length := by
  have hcount : (l.filter (· = v)).length = ((l.insertionSort (· ≤ ·)).filter (· ≤ v)).length := by
    rw [((List.perm_insertionSort (· ≤ ·) l).filter _).length_eq]
    congr 1
    apply List.filter_congr
    intro x hx
    rw [Bool.eq_iff_iff, decide_eq_true_iff, decide_eq_true_iff]
    exact ⟨le_of_eq, fun hle => le_antisymm hle (h x hx)⟩
  by_cases hnil : l = []
  · simp [hnil, median_nil]
  · obtain ⟨low, high, hlow, hhigh, hmedian⟩ := median_of_ne_nil hnil
    obtain ⟨hl, rfl⟩ := List.getElem?_eq_some_iff.mp hlow
    obtain ⟨hr, rfl⟩ := List.getElem?_eq_some_iff.mp hhigh
    have hmem : ∀ {i} (hi : i < (l.insertionSort (· ≤ ·)).length),
        v ≤ (l.insertionSort (· ≤ ·))[i] :=
      fun hi => h _ ((List.mem_insertionSort _).mp (List.getElem_mem hi))
    have hsorted : (l.insertionSort (· ≤ ·)).Pairwise (· ≤ ·) := List.pairwise_insertionSort _ _
    have hlowle := getElem_le_iff hsorted hl v
    have hhighle := getElem_le_iff hsorted hr v
    have hboth : median l = some v ↔ (l.insertionSort (· ≤ ·))[(l.length - 1) / 2] ≤ v ∧
        (l.insertionSort (· ≤ ·))[l.length / 2] ≤ v := by
      rw [hmedian, Option.some.injEq]
      have hlowge := hmem hl
      have hhighge := hmem hr
      constructor
      · intro heq
        constructor <;> linarith
      · rintro ⟨hle, hge⟩
        linarith
    rw [hboth, hlowle, hhighle, hcount]
    omega

end

/-- Halves are rounded up. -/
theorem floor_half_eq_iff {K : Type*} [Field K] [LinearOrder K] [IsStrictOrderedRing K]
    [FloorRing K] {x y : K} :
    ⌊x + 1 / 2⌋ = ⌊y + 1 / 2⌋ ↔ ∀ k : ℤ, (k : K) + 1 / 2 ≤ x ↔ (k : K) + 1 / 2 ≤ y := by
  have hle : ∀ (z : K) (k : ℤ), (k : K) + 1 / 2 ≤ z ↔ k + 1 ≤ ⌊z + 1 / 2⌋ := by
    intro z k
    rw [Int.le_floor]
    push_cast
    constructor
    · intro h
      linarith
    · intro h
      linarith
  simp only [hle]
  constructor
  · intro h k
    rw [h]
  · intro h
    apply le_antisymm
    · have := (h (⌊x + 1 / 2⌋ - 1)).mp (by omega)
      omega
    · have := (h (⌊y + 1 / 2⌋ - 1)).mpr (by omega)
      omega

end BrainV2.Medians

/-! ## Order statistics of growing lists -/

namespace BrainV2.Percentiles

open List (Forall₂)

section

variable {K : Type*} [LinearOrder K] {l l' : List K}

/-- Each element grows, or stays; the order of a list does not matter. -/
def Grown (l l' : List K) : Prop := ∃ m : List K, m.Perm l ∧ Forall₂ (· ≤ ·) m l'

theorem length_filter_le {p : K → Bool} (hp : ∀ a b, a ≤ b → p a = true → p b = true)
    (h : Forall₂ (· ≤ ·) l l') : (l.filter p).length ≤ (l'.filter p).length := by
  induction h with
  | nil => exact le_refl _
  | @cons a b l l' hab _ ih =>
    have hkeep := hp a b hab
    by_cases ha : p a = true
    · simp only [List.filter_cons, ha, hkeep ha, if_true, List.length_cons]
      omega
    · simp only [List.filter_cons, ha, Bool.false_eq_true, if_false]
      split
      · exact ih.trans (Nat.le_succ _)
      · exact ih

/-- When as many are kept, the same are. -/
theorem forall₂_filter {p : K → Bool} (hp : ∀ a b, a ≤ b → p a = true → p b = true)
    (h : Forall₂ (· ≤ ·) l l') (hcount : (l.filter p).length = (l'.filter p).length) :
    Forall₂ (· ≤ ·) (l.filter p) (l'.filter p) := by
  induction h with
  | nil => exact .nil
  | @cons a b l l' hab htail ih =>
    have hkeep := hp a b hab
    have hle := length_filter_le hp htail
    by_cases ha : p a = true
    · simp only [List.filter_cons, ha, hkeep ha, if_true, List.length_cons] at hcount ⊢
      exact .cons hab (ih (by omega))
    · by_cases hb : p b = true
      · -- One more is kept of the longer list than there may be.
        simp only [List.filter_cons, ha, hb, if_true, Bool.false_eq_true, if_false,
          List.length_cons] at hcount
        omega
      · simp only [List.filter_cons, ha, hb, Bool.false_eq_true, if_false] at hcount ⊢
        exact ih hcount

theorem Grown.filter {p : K → Bool} (hp : ∀ a b, a ≤ b → p a = true → p b = true)
    (h : Grown l l') (hcount : (l.filter p).length = (l'.filter p).length) :
    Grown (l.filter p) (l'.filter p) := by
  obtain ⟨m, hperm, hle⟩ := h
  have hlength := (hperm.filter p).length_eq
  exact ⟨m.filter p, hperm.filter p, forall₂_filter hp hle (hlength.trans hcount)⟩

theorem Grown.length_eq (h : Grown l l') : l.length = l'.length := by
  obtain ⟨m, hperm, hle⟩ := h
  exact hperm.length_eq.symm.trans hle.length_eq

theorem length_filter_le_of_forall₂ (h : Forall₂ (· ≤ ·) l l') (v : K) :
    (l'.filter (· ≤ v)).length ≤ (l.filter (· ≤ v)).length := by
  induction h with
  | nil => exact le_refl _
  | @cons a b l l' hab _ ih =>
    by_cases hb : b ≤ v
    · simp only [List.filter_cons, hb, hab.trans hb, decide_true, if_true, List.length_cons]
      omega
    · simp only [List.filter_cons, hb, decide_false, Bool.false_eq_true, if_false]
      split
      · exact ih.trans (Nat.le_succ _)
      · exact ih

/-- As many as come before an element of the grown list were at most that element before. -/
theorem Grown.getElem_le (h : Grown l l') {i : ℕ} (hi : i < (l.insertionSort (· ≤ ·)).length)
    (hi' : i < (l'.insertionSort (· ≤ ·)).length) :
    (l.insertionSort (· ≤ ·))[i] ≤ (l'.insertionSort (· ≤ ·))[i] := by
  obtain ⟨m, hperm, hle⟩ := h
  have hcount := length_filter_le_of_forall₂ hle (l'.insertionSort (· ≤ ·))[i]
  have hsorted : ∀ s : List K, (s.insertionSort (· ≤ ·)).Pairwise (· ≤ ·) :=
    fun s => List.pairwise_insertionSort _ s
  have hsame : ∀ (s : List K) (v : K),
      ((s.insertionSort (· ≤ ·)).filter (· ≤ v)).length = (s.filter (· ≤ v)).length :=
    fun s v => ((List.perm_insertionSort (· ≤ ·) s).filter _).length_eq
  have hbefore := (Medians.getElem_le_iff (hsorted l') hi' _).mp (le_refl _)
  rw [hsame] at hbefore
  rw [Medians.getElem_le_iff (hsorted l) hi, hsame, ← (hperm.filter _).length_eq]
  exact hbefore.trans_le hcount

end

section

variable {K : Type*} [Field K] [LinearOrder K] [IsStrictOrderedRing K]

/-- What lies between two numbers at a weight grows with both. -/
theorem blend_mono {a b a' b' w : K} (ha : a ≤ a') (hb : b ≤ b') (hw : 0 ≤ w) (hw' : w ≤ 1) :
    a + w * (b - a) ≤ a' + w * (b' - a') := by
  have hfirst : (1 - w) * a ≤ (1 - w) * a' := mul_le_mul_of_nonneg_left ha (by linarith)
  have hsecond : w * b ≤ w * b' := mul_le_mul_of_nonneg_left hb hw
  linarith

end

end BrainV2.Percentiles
