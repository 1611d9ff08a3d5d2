import Mathlib

/-!
# Grouped rows

* `keysOf`: the keys of rows, each once and in order;
* `sum_groups`, `length_groups`: sums over groups are sums over the rows in them;
* `enumerated`: the elements of lists, numbered from 1, and how many get a number;
* `lagged`: each element of a list with the one before;
* `numbered`: the rows of each group in an order of their own, numbered.
-/

namespace BrainV2.Grouping

variable {α κ : Type*} [LinearOrder κ]

def keysOf (key : α → κ) (rows : List α) : List κ :=
  (rows.map key).dedup.insertionSort (· ≤ ·)

/-- The rows of a key. -/
def groupOf (key : α → κ) (rows : List α) (k : κ) : List α := rows.filter (key · = k)

variable {key : α → κ} {rows : List α} {k : κ}

@[simp]
theorem mem_keysOf : k ∈ keysOf key rows ↔ ∃ r ∈ rows, key r = k := by
  rw [keysOf, List.mem_insertionSort, List.mem_dedup, List.mem_map]

@[simp]
theorem mem_groupOf {r : α} : r ∈ groupOf key rows k ↔ r ∈ rows ∧ key r = k := by
  rw [groupOf, List.mem_filter, decide_eq_true_iff]

variable (key rows) in
theorem nodup_keysOf : (keysOf key rows).Nodup :=
  (List.perm_insertionSort _ _).nodup_iff.mpr (List.nodup_dedup _)

theorem sorted_keysOf : (keysOf key rows).Pairwise (· < ·) := by
  have hle : (keysOf key rows).Pairwise (· ≤ ·) := List.pairwise_insertionSort _ _
  have hne : (keysOf key rows).Pairwise (· ≠ ·) := nodup_keysOf key rows
  exact (hle.and hne).imp fun h => lt_of_le_of_ne h.1 h.2

/-- A key is there when its group has rows. -/
theorem groupOf_eq_nil : groupOf key rows k = [] ↔ k ∉ keysOf key rows := by
  rw [groupOf, List.filter_eq_nil_iff, mem_keysOf]
  simp

/-- The keys are those that there are, however they come. -/
theorem keysOf_congr {β : Type*} {key' : β → κ} {rows' : List β}
    (h : ∀ k, (∃ r ∈ rows, key r = k) ↔ ∃ r ∈ rows', key' r = k) :
    keysOf key rows = keysOf key' rows' := by
  have hperm : (keysOf key rows).Perm (keysOf key' rows') := by
    rw [List.perm_ext_iff_of_nodup (nodup_keysOf key rows) (nodup_keysOf key' rows')]
    intro k
    rw [mem_keysOf, mem_keysOf]
    exact h k
  exact hperm.eq_of_pairwise (fun a b _ _ hab hba => absurd hab (lt_asymm hba)) sorted_keysOf
    sorted_keysOf

theorem keysOf_map {β : Type*} (f : β → α) (rows : List β) :
    keysOf key (rows.map f) = keysOf (key ∘ f) rows := by
  rw [keysOf, keysOf, List.map_map]

section

variable {κ' : Type*} [LinearOrder κ'] {f : κ → κ'}
  (hf : ∀ a ∈ keysOf key rows, ∀ b ∈ keysOf key rows, a < b → f a < f b)
include hf

/-- Keys put into others in the same order. -/
theorem keysOf_comp : keysOf (fun r => f (key r)) rows = (keysOf key rows).map f := by
  have hsorted : ((keysOf key rows).map f).Pairwise (· < ·) :=
    List.pairwise_map.mpr (sorted_keysOf.imp_of_mem fun ha hb h => hf _ ha _ hb h)
  have hperm : (keysOf (fun r => f (key r)) rows).Perm ((keysOf key rows).map f) := by
    rw [List.perm_ext_iff_of_nodup (nodup_keysOf _ _) (hsorted.imp ne_of_lt)]
    intro k
    simp
  exact hperm.eq_of_pairwise (fun a b _ _ hab hba => absurd hab (lt_asymm hba)) sorted_keysOf
    hsorted

theorem groupOf_comp (hk : k ∈ keysOf key rows) :
    groupOf (fun r => f (key r)) rows (f k) = groupOf key rows k := by
  apply List.filter_congr
  intro r hr
  have hkey : key r ∈ keysOf key rows := mem_keysOf.mpr ⟨r, hr, rfl⟩
  rw [Bool.eq_iff_iff, decide_eq_true_iff, decide_eq_true_iff]
  constructor
  · intro heq
    apply le_antisymm
    · exact le_of_not_gt fun hlt => (hf _ hk _ hkey hlt).ne' heq
    · exact le_of_not_gt fun hlt => (hf _ hkey _ hk hlt).ne heq
  · exact fun heq => congrArg f heq

end

theorem groupOf_map {β : Type*} (f : β → α) (rows : List β) :
    groupOf key (rows.map f) k = (groupOf (key ∘ f) rows k).map f := by
  rw [groupOf, groupOf, List.filter_map]
  rfl

theorem groupOf_filter (p : α → Bool) :
    (groupOf key rows k).filter p = groupOf key (rows.filter p) k := by
  rw [groupOf, groupOf, List.filter_filter, List.filter_filter]
  simp only [Bool.and_comm]

section

variable {σ : Type*} {key' : σ → κ} {f : σ → List α} {sources : List σ}

/-- Rows that come from rows of the same key. -/
theorem groupOf_flatMap (h : ∀ s ∈ sources, ∀ r ∈ f s, key r = key' s) :
    groupOf key (sources.flatMap f) k = (groupOf key' sources k).flatMap f := by
  induction sources with
  | nil => rfl
  | cons s sources ih =>
    obtain ⟨hs, hsources⟩ := List.forall_mem_cons.mp h
    have hgroup := ih hsources
    rw [groupOf] at hgroup ⊢
    rw [List.flatMap_cons, List.filter_append, hgroup]
    by_cases hk : key' s = k
    · have hall : (f s).filter (key · = k) = f s := by
        rw [List.filter_eq_self]
        intro r hr
        rw [hs r hr, hk]
        exact decide_eq_true rfl
      rw [hall, groupOf, groupOf, List.filter_cons_of_pos (by simpa using hk), List.flatMap_cons]
    · have hnone : (f s).filter (key · = k) = [] := by
        rw [List.filter_eq_nil_iff]
        intro r hr
        rw [hs r hr]
        simpa using hk
      rw [hnone, groupOf, groupOf, List.filter_cons_of_neg (by simpa using hk), List.nil_append]

theorem keysOf_flatMap (h : ∀ s ∈ sources, ∀ r ∈ f s, key r = key' s)
    (hsome : ∀ s ∈ sources, f s ≠ []) : keysOf key (sources.flatMap f) = keysOf key' sources := by
  apply keysOf_congr
  intro k
  constructor
  · rintro ⟨r, hr, rfl⟩
    obtain ⟨s, hs, hrow⟩ := List.mem_flatMap.mp hr
    exact ⟨s, hs, (h s hs r hrow).symm⟩
  · rintro ⟨s, hs, rfl⟩
    obtain ⟨r, hr⟩ := List.exists_mem_of_ne_nil _ (hsome s hs)
    exact ⟨r, List.mem_flatMap.mpr ⟨s, hs, hr⟩, h s hs r hr⟩

end

/-- Rows of other keys than one, and of this one. -/
theorem sum_filter_cons {M : Type*} [AddCommMonoid M] (f : α → M) {ks : List κ} (hk : k ∉ ks)
    (rows : List α) :
    ((rows.filter (key · ∈ k :: ks)).map f).sum =
      ((groupOf key rows k).map f).sum + ((rows.filter (key · ∈ ks)).map f).sum := by
  induction rows with
  | nil => simp [groupOf]
  | cons r rows ih =>
    rw [groupOf] at ih ⊢
    by_cases hr : key r = k
    · rw [List.filter_cons_of_pos (by simp [hr]), List.filter_cons_of_pos (by simp [hr]),
        List.filter_cons_of_neg (by simp [hr, hk]), List.map_cons, List.map_cons, List.sum_cons,
        List.sum_cons, ih, add_assoc]
    · by_cases hmem : key r ∈ ks
      · rw [List.filter_cons_of_pos (by simp [hmem]), List.filter_cons_of_neg (by simp [hr]),
          List.filter_cons_of_pos (by simp [hmem]), List.map_cons, List.map_cons, List.sum_cons,
          List.sum_cons, ih, add_left_comm]
      · rw [List.filter_cons_of_neg (by simp [hr, hmem]), List.filter_cons_of_neg (by simp [hr]),
          List.filter_cons_of_neg (by simp [hmem]), ih]

variable (key rows) in
theorem sum_groups {M : Type*} [AddCommMonoid M] (f : α → M) {ks : List κ} (hks : ks.Nodup) :
    (ks.map fun k => ((groupOf key rows k).map f).sum).sum =
      ((rows.filter (key · ∈ ks)).map f).sum := by
  induction ks with
  | nil => simp
  | cons k ks ih =>
    obtain ⟨hk, hks⟩ := List.nodup_cons.mp hks
    rw [List.map_cons, List.sum_cons, ih hks, sum_filter_cons f hk]

variable (key rows) in
theorem length_groups {ks : List κ} (hks : ks.Nodup) :
    (ks.map fun k => (groupOf key rows k).length).sum = (rows.filter (key · ∈ ks)).length := by
  have h := sum_groups key rows (fun _ => 1) hks
  simpa using h

/-- No row is left out when the keys are those of the rows, and others. -/
theorem filter_mem_keys {ks : List κ} (h : ∀ r ∈ rows, key r ∈ ks) :
    rows.filter (key · ∈ ks) = rows := by
  rw [List.filter_eq_self]
  intro r hr
  simpa using h r hr

/-- The rows that a filter keeps, and those that it leaves out. -/
theorem sum_filter_add_sum_filter {M : Type*} [AddCommMonoid M] (p : α → Bool) (f : α → M)
    (rows : List α) :
    ((rows.filter p).map f).sum + ((rows.filter (!p ·)).map f).sum = (rows.map f).sum := by
  rw [← List.sum_append, ← List.map_append]
  have h := List.filter_append_perm p rows
  simpa using (h.map f).sum_eq

/-- What two filters keep together, and what each keeps. -/
theorem sum_filter_or {ι M : Type*} [AddCommMonoid M] (p q : ι → Bool) (f : ι → M) (l : List ι) :
    ((l.filter fun x => p x || q x).map f).sum + ((l.filter fun x => p x && q x).map f).sum =
      ((l.filter p).map f).sum + ((l.filter q).map f).sum := by
  induction l with
  | nil => rfl
  | cons x l ih =>
    cases hp : p x <;> cases hq : q x <;> simp [hp, hq, add_assoc, add_left_comm, ih]

theorem sum_flatMap {ι M : Type*} [AddMonoid M] (f : ι → List M) (l : List ι) :
    (l.flatMap f).sum = (l.map fun i => (f i).sum).sum := by
  rw [List.flatMap_def, List.sum_flatten, List.map_map]
  rfl

theorem sum_map_sub {ι M : Type*} [AddCommGroup M] (f g : ι → M) (l : List ι) :
    (l.map fun i => f i - g i).sum = (l.map f).sum - (l.map g).sum := by
  simpa using Multiset.sum_map_sub (m := (l : Multiset ι)) (f := f) (g := g)

variable (key rows) in
/-- The groups of some keys hold the rows of these keys. -/
theorem sum_filter_keys {M : Type*} [AddCommMonoid M] (p : κ → Bool) (f : α → M) :
    (((keysOf key rows).filter p).map fun k => ((groupOf key rows k).map f).sum).sum =
      ((rows.filter fun r => p (key r)).map f).sum := by
  rw [sum_groups key rows f ((nodup_keysOf key rows).filter p)]
  congr 2
  apply List.filter_congr
  intro r hr
  rw [Bool.eq_iff_iff, decide_eq_true_iff, List.mem_filter, mem_keysOf]
  exact ⟨fun h => h.2, fun h => ⟨⟨r, hr, rfl⟩, h⟩⟩

/-! ### Counts that agree -/

section

variable {ι : Type*} {l : List ι}

theorem length_filter_eq_iff {p q : ι → Bool} (h : ∀ x ∈ l, p x = true → q x = true) :
    (l.filter p).length = (l.filter q).length ↔ ∀ x ∈ l, q x = true → p x = true := by
  induction l with
  | nil => simp
  | cons x l ih =>
    obtain ⟨hx, hl⟩ := List.forall_mem_cons.mp h
    have hle : (l.filter p).length ≤ (l.filter q).length := by
      rw [← List.countP_eq_length_filter, ← List.countP_eq_length_filter]
      exact List.countP_mono_left hl
    rw [List.forall_mem_cons, ← ih hl]
    cases hp : p x with
    | true => simp [hp, hx hp]
    | false =>
      cases hq : q x with
      | true =>
        simp only [List.filter_cons, hp, hq]
        simp
        omega
      | false => simp [hp, hq]

theorem length_filter_or {p q : ι → Bool} (h : ∀ x ∈ l, p x = true → q x = false) :
    (l.filter p).length + (l.filter q).length = (l.filter fun x => p x || q x).length := by
  induction l with
  | nil => rfl
  | cons x l ih =>
    obtain ⟨hx, hl⟩ := List.forall_mem_cons.mp h
    cases hp : p x with
    | true => simp [hp, hx hp, ← ih hl, add_right_comm]
    | false => cases hq : q x <;> simp [hp, hq, ← ih hl, add_assoc]

theorem sum_map_filter {M : Type*} [AddCommMonoid M] (p : ι → Bool) (f : ι → M) :
    ((l.filter p).map f).sum = (l.map fun x => if p x then f x else 0).sum := by
  rw [List.sum_map_ite]
  simp

theorem sum_map_eq_iff_of_le {f g : ι → ℕ} (h : ∀ x ∈ l, f x ≤ g x) :
    (l.map f).sum = (l.map g).sum ↔ ∀ x ∈ l, f x = g x := by
  induction l with
  | nil => simp
  | cons x l ih =>
    obtain ⟨hx, hl⟩ := List.forall_mem_cons.mp h
    have hle : (l.map f).sum ≤ (l.map g).sum := List.sum_le_sum hl
    rw [List.forall_mem_cons, ← ih hl, List.map_cons, List.map_cons, List.sum_cons, List.sum_cons]
    omega

theorem sum_eq_length_iff {f : ι → ℕ} (h : ∀ x ∈ l, 1 ≤ f x) :
    (l.map f).sum = l.length ↔ ∀ x ∈ l, f x = 1 := by
  have hones : l.length = (l.map fun _ => 1).sum := by simp
  rw [hones, eq_comm, sum_map_eq_iff_of_le h]
  simp only [eq_comm]

/-- Elements that are only ever put lower are put the same when as many are put everywhere. -/
theorem length_filter_eq_all_iff {σ : Type*} [DecidableEq σ] {rank : σ → ℕ}
    (hrank : Function.Injective rank) {f g : ι → σ} (h : ∀ x ∈ l, rank (f x) ≤ rank (g x)) :
    (∀ s, (l.filter (f · = s)).length = (l.filter (g · = s)).length) ↔ ∀ x ∈ l, f x = g x := by
  constructor
  · intro hcounts
    have hperm : (l.map f).Perm (l.map g) := by
      rw [List.perm_iff_count]
      intro s
      have hs := hcounts s
      rw [← List.countP_eq_length_filter, ← List.countP_eq_length_filter] at hs
      rw [List.count_eq_countP, List.count_eq_countP, List.countP_map, List.countP_map]
      exact hs
    have hsum := (hperm.map rank).sum_eq
    rw [List.map_map, List.map_map] at hsum
    exact fun x hx => hrank ((sum_map_eq_iff_of_le h).mp hsum x hx)
  · intro heq s
    congr 1
    apply List.filter_congr
    intro x hx
    rw [heq x hx]

end

/-! ### Row numbers -/

theorem filter_zipIdx (rows : List α) (start n : ℕ) (h : start ≤ n) :
    ((rows.zipIdx start).filter (·.2 = n)).map Prod.fst = (rows[n - start]?).toList := by
  induction rows generalizing start with
  | nil => simp
  | cons r rows ih =>
    rw [List.zipIdx_cons]
    by_cases hn : start = n
    · subst hn
      have hnone : (rows.zipIdx (start + 1)).filter (·.2 = start) = [] := by
        rw [List.filter_eq_nil_iff]
        intro x hx
        have := List.le_snd_of_mem_zipIdx hx
        simp
        omega
      simp [hnone]
    · have hnext : n - start = n - (start + 1) + 1 := by omega
      rw [List.filter_cons_of_neg (by simpa using hn), ih (start + 1) (by omega), hnext,
        List.getElem?_cons_succ]

section

variable {ι β : Type*}

/-- The elements of some lists, each numbered from 1 in its own. -/
def enumerated (f : ι → List β) (is : List ι) : List (β × ℕ) := is.flatMap fun i => (f i).zipIdx 1

variable (f : ι → List β) (is : List ι) {n : ℕ} (h : 1 ≤ n)
include h

/-- The elements that get a number: one of each list that is as long. -/
theorem enumerated_filter : ((enumerated f is).filter (·.2 = n)).map Prod.fst =
    is.filterMap fun i => (f i)[n - 1]? := by
  rw [enumerated]
  induction is with
  | nil => rfl
  | cons i is ih =>
    rw [List.flatMap_cons, List.filter_append, List.map_append, ih, filter_zipIdx _ _ _ h,
      List.filterMap_cons]
    cases (f i)[n - 1]? with
    | none => rfl
    | some r => rfl

theorem length_enumerated : ((enumerated f is).filter (·.2 = n)).length =
    (is.filter fun i => n ≤ (f i).length).length := by
  have hmap := congrArg List.length (enumerated_filter f is h)
  rw [List.length_map] at hmap
  rw [hmap]
  clear hmap
  induction is with
  | nil => rfl
  | cons i is ih =>
    rw [List.filterMap_cons, List.filter_cons]
    by_cases hn : n ≤ (f i).length
    · have hlt : n - 1 < (f i).length := by omega
      rw [List.getElem?_eq_getElem hlt]
      simp [hn, ih]
    · have hge : (f i).length ≤ n - 1 := by omega
      rw [List.getElem?_eq_none hge]
      simp [hn, ih]

end

theorem exists_zipIdx {β : Type*} {l : List β} {p : ℕ → Prop} :
    (∃ x ∈ l.zipIdx 1, p x.2) ↔ ∃ i < l.length, p (i + 1) := by
  constructor
  · rintro ⟨x, hx, hp⟩
    obtain ⟨hone, hget⟩ := List.mem_zipIdx_iff_le_and_getElem?_sub.mp hx
    obtain ⟨hlt, -⟩ := List.getElem?_eq_some_iff.mp hget
    refine ⟨x.2 - 1, hlt, ?_⟩
    rwa [Nat.sub_add_cancel hone]
  · rintro ⟨i, hi, hp⟩
    refine ⟨(l[i], i + 1), ?_, hp⟩
    rw [List.mem_zipIdx_iff_le_and_getElem?_sub, Nat.add_sub_cancel]
    exact ⟨Nat.le_add_left 1 i, List.getElem?_eq_getElem hi⟩

/-- The elements of a list, each with the one before. -/
def lagged {β : Type*} (l : List β) : List (Option β × β) := (none :: l.map some).zip l

theorem length_lagged {β : Type*} (l : List β) : (lagged l).length = l.length := by
  simp [lagged]

theorem lagged_map {β γ : Type*} (f : β → γ) (l : List β) :
    lagged (l.map f) = (lagged l).map (Prod.map (Option.map f) f) := by
  rw [lagged, lagged, ← List.zip_map, List.map_cons, List.map_map, List.map_map]
  rfl

/-- From the second on, there is one before. -/
theorem getElem?_lagged {β : Type*} (l : List β) {n : ℕ} (h : 2 ≤ n) :
    (lagged l)[n - 1]? = ((l.zip l.tail)[n - 2]?).map (Prod.map some id) := by
  cases l with
  | nil => rfl
  | cons a l =>
    have hn : n - 1 = n - 2 + 1 := by omega
    rw [lagged, List.zip_cons_cons, hn, List.getElem?_cons_succ, List.zip_map_left,
      List.getElem?_map, List.tail_cons]

section

variable (le : α → α → Prop) [DecidableRel le]

/-- `row_number() over (partition by key order by le)` -/
def numbered (key : α → κ) (rows : List α) : List (α × ℕ) :=
  (keysOf key rows).flatMap fun k => ((groupOf key rows k).insertionSort le).zipIdx 1

theorem length_numbered {n : ℕ} (h : 1 ≤ n) :
    ((numbered le key rows).filter (·.2 = n)).length =
      ((keysOf key rows).filter fun k => n ≤ (groupOf key rows k).length).length := by
  rw [numbered, ← enumerated, length_enumerated _ _ h]
  simp only [List.length_insertionSort]

end

end BrainV2.Grouping
