import Mathlib.Data.List.Dedup
import Mathlib.Data.List.Perm.Basic

/-!
# Versions of rows

* `newest`: of each key, the row of the greatest version, and the later one of equal versions;
* `superseded`: the other rows;
* `newest_newest`, `newest_filter`: how this goes with the operations on tables;
* `newestOf`, `newestOf_concat`: the row of one key, and what a row written last makes of it;
* `groupBy`: the rows of each group, aggregated;
* `SameRows`: two tables hold the same rows of a tenant, and any rows of others;
* `SameRows.filter`: a filter that asks for the tenant finds the same;
* `SameRows.newest`: so does the newest version of each key, when keys belong to one tenant;
* `SameRows.join`: so does a join that asks for the tenant, or whose other side is of the tenant.
-/

namespace BrainV2.Versions

variable {α κ : Type*} [DecidableEq κ] (key : α → κ) (version : α → ℕ)

/-- A row of the same key and no lesser version is among these. -/
def replaces (r : α) (rs : List α) : Bool := rs.any fun s => key s = key r ∧ version r ≤ version s

def newest : List α → List α
  | [] => []
  | r :: rs =>
    if replaces key version r rs then newest rs
    else r :: (newest rs).filter (key · ≠ key r)

def superseded : List α → List α
  | [] => []
  | r :: rs =>
    if replaces key version r rs then r :: superseded rs
    else (newest key version rs).filter (key · = key r) ++ superseded rs

variable {key version} {r : α} {rs old : List α}

theorem replaces_iff :
    replaces key version r rs = true ↔ ∃ s ∈ rs, key s = key r ∧ version r ≤ version s := by
  simp [replaces]

theorem newest_sublist : (newest key version rs).Sublist rs := by
  induction rs with
  | nil => exact List.Sublist.slnil
  | cons r rs ih =>
    rw [newest]
    split
    · exact ih.cons r
    · exact (List.filter_sublist.trans ih).cons_cons r

theorem mem_of_newest {s : α} (h : s ∈ newest key version rs) : s ∈ rs := newest_sublist.mem h

/-- Each row is the newest of its key, or superseded. -/
theorem newest_perm : (newest key version rs ++ superseded key version rs).Perm rs := by
  induction rs with
  | nil => exact List.Perm.nil
  | cons r rs ih =>
    rw [newest, superseded]
    split
    · exact List.perm_middle.trans (ih.cons r)
    · have hsplit : ((newest key version rs).filter (key · ≠ key r) ++
          (newest key version rs).filter (key · = key r)).Perm (newest key version rs) := by
        refine List.perm_append_comm.trans ?_
        have h := List.filter_append_perm (fun s => decide (key s = key r)) (newest key version rs)
        simpa using h
      rw [List.cons_append, ← List.append_assoc]
      exact ((hsplit.append_right _).trans ih).cons r

/-- One row for each key. -/
theorem newest_distinct : (newest key version rs).Pairwise (key · ≠ key ·) := by
  induction rs with
  | nil => exact List.Pairwise.nil
  | cons r rs ih =>
    rw [newest]
    split
    · exact ih
    · refine List.pairwise_cons.mpr ⟨?_, ih.filter _⟩
      intro s hs
      have hne : key s ≠ key r := of_decide_eq_true (List.mem_filter.mp hs).2
      exact hne.symm

theorem newest_unique {s t : α} (hs : s ∈ newest key version rs) (ht : t ∈ newest key version rs)
    (h : key s = key t) : s = t := by
  have hnodup : ((newest key version rs).map key).Nodup := List.pairwise_map.mpr newest_distinct
  exact List.inj_on_of_nodup_map hnodup hs ht h

/-- Each key has a row, of a version that no other exceeds. -/
theorem exists_newest (h : r ∈ rs) :
    ∃ s ∈ newest key version rs, key s = key r ∧ version r ≤ version s := by
  induction rs generalizing r with
  | nil => cases h
  | cons first rs ih =>
    rw [newest]
    split
    · next hreplaced =>
      rw [replaces_iff] at hreplaced
      cases List.mem_cons.mp h with
      | inl hfirst =>
        obtain ⟨s, hs, hkey, hle⟩ := hreplaced
        obtain ⟨t, ht, htkey, htle⟩ := ih hs
        rw [hfirst]
        exact ⟨t, ht, htkey.trans hkey, Nat.le_trans hle htle⟩
      | inr hrest => exact ih hrest
    · next hkept =>
      rw [replaces_iff] at hkept
      cases List.mem_cons.mp h with
      | inl hfirst =>
        rw [hfirst]
        exact ⟨first, List.mem_cons_self, rfl, Nat.le_refl _⟩
      | inr hrest =>
        by_cases hkey : key r = key first
        · refine ⟨first, List.mem_cons_self, hkey.symm, ?_⟩
          apply Nat.le_of_not_lt
          intro hlt
          exact hkept ⟨r, hrest, hkey, Nat.le_of_lt hlt⟩
        · obtain ⟨s, hs, hskey, hle⟩ := ih hrest
          refine ⟨s, List.mem_cons_of_mem _ (List.mem_filter.mpr ⟨hs, ?_⟩), hskey, hle⟩
          rw [hskey]
          simpa using hkey

theorem newest_of_distinct (h : rs.Pairwise (key · ≠ key ·)) : newest key version rs = rs := by
  induction rs with
  | nil => rfl
  | cons r rs ih =>
    obtain ⟨hhead, htail⟩ := List.pairwise_cons.mp h
    have hkept : ¬ replaces key version r rs = true := by
      rw [replaces_iff]
      rintro ⟨s, hs, hkey, -⟩
      exact hhead s hs hkey.symm
    rw [newest, if_neg hkept, ih htail, List.filter_eq_self.mpr]
    intro s hs
    simpa using fun hkey => hhead s hs hkey.symm

/-- Of rows with distinct keys, a key has one or none. -/
theorem filter_of_distinct (h : rs.Pairwise (key · ≠ key ·)) (k : κ) :
    rs.filter (key · = k) = (rs.find? (key · = k)).toList := by
  induction rs with
  | nil => rfl
  | cons r rs ih =>
    obtain ⟨hhead, htail⟩ := List.pairwise_cons.mp h
    by_cases hkey : key r = k
    · have hnone : rs.filter (key · = k) = [] := by
        rw [List.filter_eq_nil_iff]
        intro s hs
        simpa [← hkey] using (hhead s hs).symm
      simp [hkey, hnone]
    · simp [hkey, ih htail]

theorem newest_newest : newest key version (newest key version rs) = newest key version rs :=
  newest_of_distinct newest_distinct

/-- Rows may be left out by their key before or after. -/
theorem newest_filter {p : α → Bool} (hp : ∀ a b, key a = key b → p a = p b) :
    newest key version (rs.filter p) = (newest key version rs).filter p := by
  induction rs with
  | nil => rfl
  | cons r rs ih =>
    by_cases hr : p r = true
    · have hreplaces : replaces key version r (rs.filter p) = replaces key version r rs := by
        rw [Bool.eq_iff_iff, replaces_iff, replaces_iff]
        constructor
        · rintro ⟨s, hs, hrest⟩
          exact ⟨s, List.mem_of_mem_filter hs, hrest⟩
        · rintro ⟨s, hs, hkey, hle⟩
          exact ⟨s, List.mem_filter.mpr ⟨hs, by rw [hp s r hkey, hr]⟩, hkey, hle⟩
      rw [List.filter_cons_of_pos hr, newest, newest, hreplaces]
      split
      · exact ih
      · rw [List.filter_cons_of_pos hr, ih, List.filter_filter, List.filter_filter]
        simp only [Bool.and_comm]
    · rw [List.filter_cons_of_neg hr, ih, newest]
      split
      · rfl
      · rw [List.filter_cons_of_neg hr, List.filter_filter]
        apply List.filter_congr
        intro s _
        by_cases hkey : key s = key r
        · rw [hp s r hkey, Bool.eq_false_iff.mpr hr]
          rfl
        · simp [hkey]

/-! ### One key -/

section

variable (key version)

def newestOf (k : κ) (rs : List α) : Option α := (newest key version rs).find? (key · = k)

variable {key version} {k : κ}

theorem find_filter_of_ne {rs : List α} (h : key r ≠ k) :
    (rs.filter (key · ≠ key r)).find? (key · = k) = rs.find? (key · = k) := by
  rw [List.find?_filter]
  congr 1
  funext s
  by_cases hs : key s = k
  · have hne : key s ≠ key r := fun hr => h (hr.symm.trans hs)
    simp [hs, h.symm]
  · simp [hs]

theorem newestOf_cons : newestOf key version k (r :: rs) =
    if key r = k ∧ replaces key version r rs = false then some r
    else newestOf key version k rs := by
  unfold newestOf
  rw [newest]
  by_cases hreplaced : replaces key version r rs = true
  · simp [hreplaced]
  · rw [if_neg hreplaced]
    by_cases hkey : key r = k
    · simp [hkey, hreplaced]
    · rw [if_neg (fun h => hkey h.1), List.find?_cons_of_neg (by simpa using hkey),
        find_filter_of_ne hkey]

theorem mem_of_newestOf (h : newestOf key version k rs = some r) : r ∈ rs ∧ key r = k :=
  ⟨mem_of_newest (List.mem_of_find?_eq_some h), by simpa using List.find?_some h⟩

/-- The row of a key is written last and no older than the others, or it stays what it was. -/
theorem newestOf_concat : newestOf key version k (old ++ [r]) =
    if key r = k ∧ ∀ s ∈ old, key s = k → version s ≤ version r then some r
    else newestOf key version k old := by
  induction old with
  | nil =>
    rw [List.nil_append, newestOf_cons]
    simp [replaces, newestOf, newest]
  | cons first old ih =>
    have hreplaces : replaces key version first (old ++ [r]) =
        (replaces key version first old || decide (key r = key first ∧ version first ≤ version r)) := by
      simp [replaces, List.any_append]
    rw [List.cons_append, newestOf_cons, newestOf_cons, ih, hreplaces]
    by_cases hfirst : key first = k
    · by_cases hr : key r = k
      · have hlater : replaces key version first old = true ↔
            ∃ s ∈ old, key s = k ∧ version first ≤ version s := by
          rw [replaces_iff, hfirst]
        by_cases hle : version first ≤ version r
        · by_cases hall : ∀ s ∈ old, key s = k → version s ≤ version r
          · simp only [hfirst, hr, hle, List.forall_mem_cons, and_self, decide_true, Bool.or_true,
              true_and, Bool.true_eq_false, and_false, if_false, implies_true, if_pos hall]
          · obtain ⟨s, hs, hkey, hlt⟩ : ∃ s ∈ old, key s = k ∧ version r < version s := by
              simpa using hall
            have hreplaced := hlater.mpr ⟨s, hs, hkey, by omega⟩
            simp [hfirst, hr, hle, hall, hreplaced]
        · by_cases hreplaced : replaces key version first old = true
          · obtain ⟨s, hs, hkey, hlt⟩ := hlater.mp hreplaced
            have hall : ¬ ∀ s ∈ old, key s = k → version s ≤ version r := by
              intro hall
              have := hall s hs hkey
              omega
            simp [hfirst, hle, hall, hreplaced]
          · simp [hfirst, hle, hreplaced]
      · simp [hfirst, hr]
    · simp [hfirst]

end

/-! ### Groups -/

section

variable {γ β : Type*} [DecidableEq γ]

/-- The groups in which there are rows. -/
def groupBy (group : α → γ) (aggregate : List α → β) (rows : List α) : List (γ × β) :=
  (rows.map group).dedup.map fun g => (g, aggregate (rows.filter (group · = g)))

variable {group : α → γ} {aggregate : List α → β}

theorem groups_groupBy (rows : List α) :
    (groupBy group aggregate rows).map Prod.fst = (rows.map group).dedup := by
  rw [groupBy, List.map_map]
  exact List.map_id _

theorem lookup_map_self [BEq γ] [LawfulBEq γ] (f : γ → β) (gs : List γ) (g : γ) :
    (gs.map fun g => (g, f g)).lookup g = if g ∈ gs then some (f g) else none := by
  induction gs with
  | nil => rfl
  | cons first gs ih =>
    rw [List.map_cons, List.lookup_cons, ih]
    by_cases hg : g = first
    · simp [hg]
    · have hne : (g == first) = false := beq_false_of_ne hg
      simp [hne, hg]

theorem lookup_groupBy [BEq γ] [LawfulBEq γ] (rows : List α) (g : γ) :
    (groupBy group aggregate rows).lookup g =
      if g ∈ rows.map group then some (aggregate (rows.filter (group · = g))) else none := by
  rw [groupBy, lookup_map_self]
  simp only [List.mem_dedup]

/-- A group without rows reads as the aggregate of no rows. -/
theorem getD_lookup_groupBy [BEq γ] [LawfulBEq γ] (rows : List α) (g : γ) :
    ((groupBy group aggregate rows).lookup g).getD (aggregate []) =
      aggregate (rows.filter (group · = g)) := by
  rw [lookup_groupBy]
  split
  · rfl
  · next hg =>
    have hnone : rows.filter (group · = g) = [] := by
      rw [List.filter_eq_nil_iff]
      intro r hr hgroup
      exact hg (List.mem_map.mpr ⟨r, hr, by simpa using hgroup⟩)
    rw [hnone]
    rfl

end

end BrainV2.Versions

/-! ## Tables that tenants share -/

namespace BrainV2.Tenants

variable {α τ : Type*} [DecidableEq τ]

def SameRows (tenant : α → τ) (w : τ) (rows rows' : List α) : Prop :=
  rows.filter (tenant · = w) = rows'.filter (tenant · = w)

namespace SameRows

variable {tenant : α → τ} {w : τ} {rows rows' : List α}

theorem filter (h : SameRows tenant w rows rows') {p : α → Bool}
    (hp : ∀ r, p r = true → tenant r = w) : rows.filter p = rows'.filter p := by
  have hboth : ∀ r, p r = (p r && decide (tenant r = w)) := by
    intro r
    cases hr : p r with
    | false => rfl
    | true => rw [decide_eq_true (hp r hr), Bool.and_self]
  calc rows.filter p = rows.filter fun r => p r && decide (tenant r = w) :=
        List.filter_congr fun r _ => hboth r
    _ = rows'.filter fun r => p r && decide (tenant r = w) := by
        rw [← List.filter_filter, ← List.filter_filter, h]
    _ = rows'.filter p := (List.filter_congr fun r _ => hboth r).symm

theorem newest {κ : Type*} [DecidableEq κ] {key : α → κ} {version : α → ℕ}
    (h : SameRows tenant w rows rows') (hkey : ∀ r s, key r = key s → tenant r = tenant s) :
    SameRows tenant w (Versions.newest key version rows) (Versions.newest key version rows') := by
  have hp : ∀ r s, key r = key s → decide (tenant r = w) = decide (tenant s = w) := by
    intro r s hrs
    rw [hkey r s hrs]
  rw [SameRows, ← Versions.newest_filter hp, ← Versions.newest_filter hp, h]

/-- What each row of the other side finds on this one is the same. -/
theorem join {β γ : Type*} (h : SameRows tenant w rows rows') {left : List β}
    (on : β → α → Bool) (hon : ∀ l ∈ left, ∀ r, on l r = true → tenant r = w)
    (f : β → List α → List γ) :
    (left.flatMap fun l => f l (rows.filter (on l))) =
      left.flatMap fun l => f l (rows'.filter (on l)) := by
  apply List.flatMap_congr
  intro l hl
  rw [h.filter (hon l hl)]

end SameRows

end BrainV2.Tenants
