import Mathlib.Algebra.Order.Group.Defs
import Mathlib.Algebra.BigOperators.Group.List.Basic
import Mathlib.Data.List.Pairwise

/-!
# Totals that run down a list

* `running`: the items of a list, each with the total up to and with it;
* `getElem_running`: the total at a place is the sum of the items so far;
* `running_pairwise`: where the items fall, no positive item has a smaller total
  than one before it;
* `sum_within_le`: the positive items of which the total stays within a limit
  sum up to no more than that limit.
-/

namespace BrainV2.RunningTotals

section

variable {α β : Type*} [AddCommGroup β]

/-- Each item with `s` and all items up to it added up. -/
def running (f : α → β) (s : β) : List α → List (α × β)
  | [] => []
  | x :: l => (x, s + f x) :: running f (s + f x) l

variable {f : α → β} {s : β} {l : List α}

theorem map_fst_running : (running f s l).map Prod.fst = l := by
  induction l generalizing s with
  | nil => rfl
  | cons x l ih => rw [running, List.map_cons, ih]

theorem fst_mem_of_mem_running {y : α × β} (h : y ∈ running f s l) : y.1 ∈ l := by
  rw [← map_fst_running (f := f) (s := s) (l := l)]
  exact List.mem_map_of_mem h

theorem getElem?_running (i : ℕ) :
    (running f s l)[i]? = l[i]?.map fun x => (x, s + ((l.take (i + 1)).map f).sum) := by
  induction l generalizing s i with
  | nil => rfl
  | cons x l ih =>
    cases i with
    | zero => simp [running]
    | succ i =>
      rw [running, List.getElem?_cons_succ, List.getElem?_cons_succ, ih, List.take_succ_cons,
        List.map_cons, List.sum_cons]
      simp only [add_assoc]

end

section

variable {α β : Type*} [AddCommGroup β] [LinearOrder β] [IsOrderedAddMonoid β]
  {f : α → β} {s t : β} {l : List α}

/-- The items fall. -/
def Falling (f : α → β) (l : List α) : Prop := l.Pairwise fun x y => f y ≤ f x

/-- Where the items fall, the total before a positive one is no less than at the start. -/
theorem add_le_of_mem_running (hfall : Falling f l) {y : α × β} (hy : y ∈ running f s l)
    (hpos : 0 < f y.1) : s + f y.1 ≤ y.2 := by
  induction l generalizing s with
  | nil => cases hy
  | cons x l ih =>
    have hfall' := List.pairwise_cons.mp hfall
    rw [running] at hy
    cases List.mem_cons.mp hy with
    | inl hhead => rw [hhead]
    | inr htail =>
      have hx : 0 < f x := lt_of_lt_of_le hpos (hfall'.1 y.1 (fst_mem_of_mem_running htail))
      calc
        s + f y.1 ≤ s + f x + f y.1 := by
          rw [add_right_comm]
          exact le_add_of_nonneg_right hx.le
        _ ≤ y.2 := ih hfall'.2 htail

theorem running_pairwise (hfall : Falling f l) :
    (running f s l).Pairwise fun x y => f y.1 ≤ f x.1 ∧ (0 < f y.1 → x.2 ≤ y.2) := by
  induction l generalizing s with
  | nil => exact List.Pairwise.nil
  | cons x l ih =>
    have hfall' := List.pairwise_cons.mp hfall
    rw [running]
    refine List.Pairwise.cons (fun y hy => ⟨?_, fun hpos => ?_⟩) (ih hfall'.2)
    · exact hfall'.1 y.1 (fst_mem_of_mem_running hy)
    · exact le_trans (le_add_of_nonneg_right hpos.le) (add_le_of_mem_running hfall'.2 hy hpos)

/-- The positive items of which the total stays within a limit. -/
def within (f : α → β) (t : β) (rows : List (α × β)) : List (α × β) :=
  rows.filter fun row => 0 < f row.1 ∧ row.2 ≤ t

theorem within_eq_nil (hfall : Falling f l) (h : t ≤ s) : within f t (running f s l) = [] := by
  apply List.filter_eq_nil_iff.mpr
  intro y hy hwithin
  obtain ⟨hpos, hle⟩ := of_decide_eq_true hwithin
  have htotal : s + f y.1 ≤ s :=
    le_trans (le_trans (add_le_of_mem_running hfall hy hpos) hle) h
  exact absurd htotal (not_le.mpr (lt_add_of_pos_right s hpos))

omit [IsOrderedAddMonoid β] in
theorem within_eq_nil_of_nonpos (h : ∀ x ∈ l, f x ≤ 0) : within f t (running f s l) = [] := by
  apply List.filter_eq_nil_iff.mpr
  intro y hy hwithin
  exact absurd (of_decide_eq_true hwithin).1 (not_lt.mpr (h y.1 (fst_mem_of_mem_running hy)))

theorem sum_within_le (hfall : Falling f l) (h : s ≤ t) :
    s + ((within f t (running f s l)).map fun row => f row.1).sum ≤ t := by
  induction l generalizing s with
  | nil => simpa [running, within] using h
  | cons x l ih =>
    have hfall' := List.pairwise_cons.mp hfall
    rw [running, within, List.filter_cons]
    split
    · next hx =>
      rw [List.map_cons, List.sum_cons, ← add_assoc]
      exact ih hfall'.2 (of_decide_eq_true hx).2
    · next hx =>
      have hrest : within f t (running f (s + f x) l) = [] := by
        by_cases hpos : 0 < f x
        · apply within_eq_nil hfall'.2
          by_contra hlt
          exact hx (decide_eq_true ⟨hpos, (not_le.mp hlt).le⟩)
        · exact within_eq_nil_of_nonpos fun y hy => le_trans (hfall'.1 y hy) (not_lt.mp hpos)
      rw [within] at hrest
      rw [hrest]
      simpa using h

end

end BrainV2.RunningTotals
