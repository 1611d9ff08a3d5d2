import Mathlib.Data.List.Sort

/-!
# Pages behind a cursor

Rows come in descending order of a key, a page at a time; the next page is what stands below the
key of the last row.

* `follow`: the answers from a cursor on, until one names no next cursor;
* `Holds`, `exists_follow`: answers that each hold the next rows of a list hold all of it;
* `Cursors`: what a cursor becomes on its way back;
* `Answers`: the rows found behind each cursor, in descending order;
* `Clear`: at the border of each page the next key is below the cursor that comes back;
* `readOnce_iff`: the pages hold every row once if and only if all borders are clear;
* `clear_of_pairwise`: as they are where all keys differ and come back as they are.
-/

namespace BrainV2.Keyset

section

variable {κ ρ σ : Type*}

/-- The `i`-th answer is the `i`-th that is asked for. -/
def follow (answer : Nat → Option κ → ρ) (next : ρ → Option κ) :
    Nat → Nat → Option κ → Option (List ρ)
  | 0, _, _ => none
  | fuel + 1, i, cursor =>
    match next (answer i cursor) with
    | none => some [answer i cursor]
    | some key => (follow answer next fuel (i + 1) (some key)).map (answer i cursor :: ·)

variable {answer : Nat → Option κ → ρ} {next : ρ → Option κ}
  {answer' : Nat → Option κ → σ} {next' : σ → Option κ}

theorem follow_last {i : Nat} {cursor : Option κ} (fuel : Nat)
    (h : next (answer i cursor) = none) :
    follow answer next (fuel + 1) i cursor = some [answer i cursor] := by
  simp only [follow, h]

theorem follow_next {i : Nat} {cursor : Option κ} {key : κ} (fuel : Nat)
    (h : next (answer i cursor) = some key) :
    follow answer next (fuel + 1) i cursor =
      (follow answer next fuel (i + 1) (some key)).map (answer i cursor :: ·) := by
  simp only [follow, h]

theorem follow_congr {i : Nat} {cursor cursor' : Option κ} (fuel : Nat)
    (h : answer i cursor = answer i cursor') :
    follow answer next fuel i cursor = follow answer next fuel i cursor' := by
  cases fuel with
  | zero => rfl
  | succ fuel => simp only [follow, h]

/-- What is read of the answers follows the same cursors. -/
theorem follow_map (g : ρ → σ) (hnext : ∀ r, next' (g r) = next r) (fuel : Nat) {i j : Nat}
    (hanswer : ∀ n cursor, g (answer (i + n) cursor) = answer' (j + n) cursor)
    (cursor : Option κ) :
    (follow answer next fuel i cursor).map (List.map g) = follow answer' next' fuel j cursor := by
  induction fuel generalizing i j cursor with
  | zero => rfl
  | succ fuel ih =>
    have hhere : g (answer i cursor) = answer' j cursor := hanswer 0 cursor
    have hj : next' (answer' j cursor) = next (answer i cursor) := by
      rw [← hhere, hnext]
    cases hkey : next (answer i cursor) with
    | none =>
      rw [follow_last fuel hkey, follow_last fuel (hj.trans hkey), ← hhere]
      rfl
    | some key =>
      have hlater : ∀ n cursor, g (answer (i + 1 + n) cursor) = answer' (j + 1 + n) cursor := by
        intro n cursor
        rw [Nat.add_assoc, Nat.add_assoc]
        exact hanswer (1 + n) cursor
      rw [follow_next fuel hkey, follow_next fuel (hj.trans hkey), ← ih hlater (some key), ← hhere,
        Option.map_map, Option.map_map]
      rfl

theorem follow_mono {fuel fuel' i : Nat} {cursor : Option κ} {pages : List ρ}
    (hfuel : fuel ≤ fuel') (h : follow answer next fuel i cursor = some pages) :
    follow answer next fuel' i cursor = some pages := by
  induction fuel generalizing fuel' i cursor pages with
  | zero => cases h
  | succ fuel ih =>
    obtain ⟨more, rfl⟩ := Nat.exists_eq_add_of_le' hfuel
    cases hkey : next (answer i cursor) with
    | none =>
      rw [follow_last fuel hkey] at h
      rw [← h]
      exact follow_last _ hkey
    | some key =>
      rw [follow_next fuel hkey] at h
      obtain ⟨rest, hrest, rfl⟩ := Option.map_eq_some_iff.mp h
      have hle : fuel ≤ more + fuel := by omega
      rw [← Nat.add_assoc, follow_next _ hkey, ih hle hrest]
      rfl

theorem mem_follow {fuel i : Nat} {cursor : Option κ} {pages : List ρ} {r : ρ}
    (h : follow answer next fuel i cursor = some pages) (hr : r ∈ pages) :
    ∃ j cursor, r = answer j cursor := by
  induction fuel generalizing i cursor pages with
  | zero => cases h
  | succ fuel ih =>
    cases hkey : next (answer i cursor) with
    | none =>
      rw [follow_last fuel hkey] at h
      cases h
      exact ⟨i, cursor, List.mem_singleton.mp hr⟩
    | some key =>
      rw [follow_next fuel hkey] at h
      obtain ⟨rest, hrest, rfl⟩ := Option.map_eq_some_iff.mp h
      cases List.mem_cons.mp hr with
      | inl hhere => exact ⟨i, cursor, hhere⟩
      | inr hlater => exact ih hrest hlater

/-- An answer holds the first of the rows that are left, and names the last of them while there are
more. -/
structure Holds {α : Type*} (next : ρ → Option κ) (rowsOf : ρ → List σ) (size : Nat) (key : α → κ)
    (row : α → σ) (left : List α) (r : ρ) : Prop where
  rows : rowsOf r = (left.take size).map row
  next : next r = if size < left.length then (left.take size).getLast?.map key else none

section

variable {α : Type*} {rowsOf : ρ → List σ} {size : Nat} {key : α → κ} {row : α → σ}
variable {left : List α} {r : ρ}

theorem Holds.last (h : Holds next rowsOf size key row left r) (hle : left.length ≤ size) :
    next r = none ∧ rowsOf r = left.map row := by
  refine ⟨?_, ?_⟩
  · rw [h.next, if_neg (Nat.not_lt.mpr hle)]
  · rw [h.rows, List.take_of_length_le hle]

/-- An answer before the last names the last row it holds, the last row read so far. -/
theorem Holds.more (h : Holds next rowsOf size key row left r) (hsize : 0 < size)
    (hlt : size < left.length) (front : List α) :
    ∃ last, next r = some last ∧ (front ++ left.take size).getLast?.map key = some last := by
  have htake : left.take size ≠ [] := by
    apply List.ne_nil_of_length_pos
    rw [List.length_take]
    omega
  have hlast := List.getLast?_eq_some_getLast htake
  refine ⟨key ((left.take size).getLast htake), ?_, ?_⟩
  · rw [h.next, if_pos hlt, hlast]
    rfl
  · rw [List.getLast?_append_of_ne_nil front htake, hlast]
    rfl

variable (answer) in
/-- By the number of rows that are left. -/
theorem exists_follow (Good : ρ → Prop) {sorted : List α} (hsize : 0 < size)
    (hanswer : ∀ i front left, front ++ left = sorted →
      Holds next rowsOf size key row left (answer i (front.getLast?.map key)) ∧
        Good (answer i (front.getLast?.map key)))
    (n i : Nat) (front left : List α) (hn : left.length ≤ n) (hsorted : front ++ left = sorted) :
    ∃ fuel pages, follow answer next fuel i (front.getLast?.map key) = some pages ∧
      pages.flatMap rowsOf = left.map row ∧ ∀ r ∈ pages, Good r := by
  induction n using Nat.strong_induction_on generalizing i front left with
  | _ n ih =>
    obtain ⟨hholds, hgood⟩ := hanswer i front left hsorted
    cases Nat.lt_or_ge size left.length with
    | inr hle =>
      obtain ⟨hnext, hrows⟩ := hholds.last hle
      refine ⟨1, [answer i (front.getLast?.map key)], follow_last 0 hnext, ?_, ?_⟩
      · rw [List.flatMap_singleton, hrows]
      · exact fun r hr => List.mem_singleton.mp hr ▸ hgood
    | inl hlt =>
      obtain ⟨last, hnext, hkey⟩ := hholds.more hsize hlt front
      have hsplit : front ++ left.take size ++ left.drop size = sorted := by
        rw [List.append_assoc, List.take_append_drop, hsorted]
      obtain ⟨fuel, pages, hpages, hrows, hall⟩ := ih (n - size) (by omega) (i + 1)
        (front ++ left.take size) (left.drop size) (by rw [List.length_drop]; omega) hsplit
      rw [hkey] at hpages
      refine ⟨fuel + 1, answer i (front.getLast?.map key) :: pages, ?_, ?_, ?_⟩
      · rw [follow_next fuel hnext, hpages]
        rfl
      · rw [List.flatMap_cons, hrows, hholds.rows, ← List.map_append, List.take_append_drop]
      · exact List.forall_mem_cons.mpr ⟨hgood, hall⟩

end

end

section

variable {κ : Type*} [LinearOrder κ]

variable (κ) in
/-- A blank cursor is read as none. -/
structure Cursors where
  clip : κ → κ
  clip_le : ∀ key, clip key ≤ key
  blank : κ → Bool
  blank_le : ∀ key, blank key → ∀ other, key ≤ other

variable (C : Cursors κ)

/-- The key is behind a cursor. -/
def Cursors.reached : Option κ → κ → Bool
  | none, _ => true
  | some cursor, key => C.blank cursor || decide (key < C.clip cursor)

theorem Cursors.reached_blank {cursor : κ} (h : C.blank cursor) :
    C.reached (some cursor) = C.reached none := by
  funext key
  simp only [reached, h, Bool.true_or]

theorem Cursors.reached_some {cursor : κ} (h : C.blank cursor = false) (key : κ) :
    C.reached (some cursor) key = decide (key < C.clip cursor) := by
  simp only [reached, h, Bool.false_or]

variable {C} in
theorem Cursors.reached_of_lt {cursor : Option κ} {key last : κ} (hlast : C.reached cursor last)
    (h : key < C.clip last) : C.reached cursor key := by
  cases cursor with
  | none => rfl
  | some cursor =>
    simp only [reached, Bool.or_eq_true, decide_eq_true_eq] at hlast ⊢
    exact hlast.imp_right (h.trans_le (C.clip_le last)).trans

/-- Of descending keys, those at the borders of pages of a size. -/
def Clear (size : Nat) (keys : List κ) : Prop :=
  ∀ k last next, keys[(k + 1) * size - 1]? = some last → keys[(k + 1) * size]? = some next →
    next < C.clip last

variable {C} {size : Nat} {keys : List κ}

theorem le_of_sorted (hkeys : keys.Pairwise (· ≥ ·)) {n m : Nat} {x y : κ} (h : n ≤ m)
    (hx : keys[n]? = some x) (hy : keys[m]? = some y) : y ≤ x := by
  obtain ⟨hn, rfl⟩ := List.getElem?_eq_some_iff.mp hx
  obtain ⟨hm, rfl⟩ := List.getElem?_eq_some_iff.mp hy
  cases Nat.eq_or_lt_of_le h with
  | inl heq =>
    subst heq
    exact le_refl _
  | inr hlt => exact List.pairwise_iff_getElem.mp hkeys _ _ hn hm hlt

theorem clear_of_length_le (h : keys.length ≤ size) : Clear C size keys := by
  intro k last next _ hnext
  have hlt : (k + 1) * size < keys.length := (List.getElem?_eq_some_iff.mp hnext).1
  have hle : size ≤ (k + 1) * size := Nat.le_mul_of_pos_left _ (Nat.succ_pos k)
  omega

theorem clear_iff_drop (hsize : 0 < size) {last next : κ} (hlast : keys[size - 1]? = some last)
    (hnext : keys[size]? = some next) :
    Clear C size keys ↔ next < C.clip last ∧ Clear C size (keys.drop size) := by
  have hborder : ∀ k, size + ((k + 1) * size - 1) = (k + 1 + 1) * size - 1 ∧
      size + (k + 1) * size = (k + 1 + 1) * size := by
    intro k
    have hle : size ≤ (k + 1) * size := Nat.le_mul_of_pos_left _ (Nat.succ_pos k)
    have heq : (k + 1 + 1) * size = (k + 1) * size + size := Nat.succ_mul (k + 1) size
    omega
  constructor
  · intro h
    refine ⟨h 0 last next ?_ ?_, fun k x y hx hy => h (k + 1) x y ?_ ?_⟩
    · simpa using hlast
    · simpa using hnext
    · rwa [List.getElem?_drop, (hborder k).1] at hx
    · rwa [List.getElem?_drop, (hborder k).2] at hy
  · rintro ⟨hfirst, hrest⟩ k x y hx hy
    cases k with
    | zero =>
      simp only [Nat.zero_add, Nat.one_mul, hlast, hnext, Option.some.injEq] at hx hy
      exact hx ▸ hy ▸ hfirst
    | succ k =>
      apply hrest k x y
      · rwa [List.getElem?_drop, (hborder k).1]
      · rwa [List.getElem?_drop, (hborder k).2]

theorem clear_of_pairwise (hsize : 0 < size) (hkeys : keys.Pairwise (· > ·))
    (hclip : ∀ key ∈ keys, C.clip key = key) : Clear C size keys := by
  intro k last next hlast hnext
  obtain ⟨hi, rfl⟩ := List.getElem?_eq_some_iff.mp hlast
  obtain ⟨hj, rfl⟩ := List.getElem?_eq_some_iff.mp hnext
  rw [hclip _ (List.getElem_mem hi)]
  apply List.pairwise_iff_getElem.mp hkeys _ _ hi hj
  have hle : size ≤ (k + 1) * size := Nat.le_mul_of_pos_left _ (Nat.succ_pos k)
  omega

end

section

variable {α κ : Type*} [LinearOrder κ] (C : Cursors κ) (key : α → κ) (rows : List α)

/-- Rows with one key may come in another order each time. -/
structure Answers where
  found : Nat → Option κ → List α
  perm : ∀ i cursor, (found i cursor).Perm (rows.filter fun r => C.reached cursor (key r))
  sorted : ∀ i cursor, ((found i cursor).map key).Pairwise (· ≥ ·)

def descending (keys : List κ) : List κ := keys.insertionSort (· ≥ ·)

theorem descending_sorted (keys : List κ) : (descending keys).Pairwise (· ≥ ·) :=
  List.pairwise_insertionSort _ _

theorem descending_perm (keys : List κ) : (descending keys).Perm keys :=
  List.perm_insertionSort _ _

namespace Answers

variable {C key rows} (A : Answers C key rows) (size : Nat)

/-- A page and its next cursor, which it has where one row more was found. -/
def page (i : Nat) (cursor : Option κ) : List α × Option κ :=
  ((A.found i cursor).take size,
    if size < (A.found i cursor).length then ((A.found i cursor).take size).getLast?.map key
    else none)

def pages : Nat → Nat → Option κ → Option (List (List α × Option κ)) :=
  follow (A.page size) Prod.snd

def ReadOnce : Prop :=
  ∃ fuel pages, A.pages size fuel 0 none = some pages ∧ (pages.flatMap Prod.fst).Perm rows

/-- The keys alone, which come in one order. -/
def ofKeys (C : Cursors κ) (keys : List κ) : Answers C id keys where
  found _ cursor := (descending keys).filter (C.reached cursor)
  perm _ cursor := (descending_perm keys).filter _
  sorted _ cursor := by
    rw [List.map_id]
    exact (descending_sorted keys).filter _

theorem keys_found (i : Nat) (cursor : Option κ) :
    (A.found i cursor).map key = (descending (rows.map key)).filter (C.reached cursor) := by
  have hmap : (rows.map key).filter (C.reached cursor) =
      (rows.filter fun r => C.reached cursor (key r)).map key := List.filter_map
  have hperm : ((A.found i cursor).map key).Perm ((rows.map key).filter (C.reached cursor)) := by
    rw [hmap]
    exact (A.perm i cursor).map key
  apply List.Perm.eq_of_pairwise' (A.sorted i cursor) ((descending_sorted _).filter _)
  exact hperm.trans ((descending_perm _).filter _).symm

theorem pages_keys (fuel i : Nat) (cursor : Option κ) :
    (A.pages size fuel i cursor).map (List.map (Prod.map (List.map key) id)) =
      (ofKeys C (rows.map key)).pages size fuel 0 cursor := by
  apply follow_map
  · exact fun r => rfl
  · intro n cursor
    have hlen := congrArg List.length (A.keys_found (i + n) cursor)
    rw [List.length_map] at hlen
    simp only [page, ofKeys, Prod.map, List.map_take, A.keys_found, hlen, id, ← List.getLast?_map,
      List.map_id]

/-- How many pages there are does not depend on the order of rows with one key. -/
theorem length_pages_eq {fuel fuel' i j : Nat} {cursor cursor' : Option κ}
    {P Q : List (List α × Option κ)} (hreached : C.reached cursor' = C.reached cursor)
    (hP : A.pages size fuel i cursor = some P) (hQ : A.pages size fuel' j cursor' = some Q) :
    P.length = Q.length := by
  have hkeys : ∀ fuel i cursor P, A.pages size fuel i cursor = some P →
      (ofKeys C (rows.map key)).pages size fuel 0 cursor =
        some (P.map (Prod.map (List.map key) id)) := by
    intro fuel i cursor P h
    rw [← A.pages_keys size fuel i, h]
    rfl
  have hfound : (ofKeys C (rows.map key)).found 0 cursor' =
      (ofKeys C (rows.map key)).found 0 cursor := by
    simp only [ofKeys, hreached]
  have hsame : (ofKeys C (rows.map key)).page size 0 cursor' =
      (ofKeys C (rows.map key)).page size 0 cursor := by
    rw [page, page, hfound]
  have hP' := follow_mono (Nat.le_max_left fuel fuel') (hkeys fuel i cursor P hP)
  have hQ' := follow_mono (Nat.le_max_right fuel fuel') (hkeys fuel' j cursor' Q hQ)
  rw [follow_congr _ hsame] at hQ'
  have heq := congrArg List.length (Option.some.inj (hP'.symm.trans hQ'))
  simpa only [List.length_map] using heq

variable {A size} {i : Nat} {cursor : Option κ}

theorem page_of_le (h : (A.found i cursor).length ≤ size) :
    A.page size i cursor = (A.found i cursor, none) := by
  rw [page, List.take_of_length_le h, if_neg (by omega)]

theorem page_of_lt (hsize : 0 < size) (h : size < (A.found i cursor).length) :
    ∃ last next, ((A.found i cursor).map key)[size - 1]? = some last ∧
      ((A.found i cursor).map key)[size]? = some next ∧
      A.page size i cursor = ((A.found i cursor).take size, some last) := by
  have hlast : size - 1 < (A.found i cursor).length := by omega
  refine ⟨_, _, List.getElem?_eq_getElem (by simpa using hlast),
    List.getElem?_eq_getElem (by simpa using h), ?_⟩
  have hmin : min size (A.found i cursor).length - 1 = size - 1 := by omega
  rw [page, if_pos h, List.getLast?_eq_getElem?, List.length_take, hmin,
    List.getElem?_take_of_lt (by omega), List.getElem?_eq_getElem hlast, List.getElem_map]
  rfl

theorem reached_of_found {last : κ} {n : Nat}
    (hlast : ((A.found i cursor).map key)[n]? = some last) : C.reached cursor last := by
  obtain ⟨r, hr, rfl⟩ := List.mem_map.mp (List.mem_of_getElem? hlast)
  exact (List.mem_filter.mp ((A.perm i cursor).subset hr)).2

/-- The answer behind a page: of the rows after it, those below the cursor. -/
theorem found_next {last : κ} (j : Nat)
    (hlast : ((A.found i cursor).map key)[size - 1]? = some last)
    (hblank : C.blank last = false) :
    (A.found j (some last)).Perm
      (((A.found i cursor).drop size).filter fun r => key r < C.clip last) := by
  have hrows : (rows.filter fun r => C.reached (some last) (key r)) =
      (rows.filter fun r => C.reached cursor (key r)).filter fun r => key r < C.clip last := by
    rw [List.filter_filter]
    apply List.filter_congr
    intro r _
    rw [C.reached_some hblank]
    by_cases h : key r < C.clip last
    · simp only [h, decide_true, Bool.true_and, Cursors.reached_of_lt (reached_of_found hlast) h]
    · simp only [h, decide_false, Bool.false_and]
  have htake : ((A.found i cursor).take size).filter (fun r => key r < C.clip last) = [] := by
    apply List.filter_eq_nil_iff.mpr
    intro r hr
    obtain ⟨n, hn, rfl⟩ := List.mem_take_iff_getElem.mp hr
    have hle : last ≤ key (A.found i cursor)[n] := by
      apply le_of_sorted (A.sorted i cursor) (n := n) (m := size - 1) (by omega) _ hlast
      rw [List.getElem?_map, List.getElem?_eq_getElem (by omega)]
      rfl
    rw [decide_eq_true_eq, not_lt]
    exact (C.clip_le last).trans hle
  have hsplit : (A.found i cursor).filter (fun r => key r < C.clip last) =
      ((A.found i cursor).drop size).filter fun r => key r < C.clip last := by
    conv_lhs => rw [← List.take_append_drop size (A.found i cursor), List.filter_append, htake]
    rfl
  rw [← hsplit]
  apply (A.perm j (some last)).trans
  rw [hrows]
  exact ((A.perm i cursor).filter _).symm

theorem length_found_next_le {last : κ} (j : Nat)
    (hlast : ((A.found i cursor).map key)[size - 1]? = some last)
    (hblank : C.blank last = false) :
    (A.found j (some last)).length ≤ (A.found i cursor).length - size := by
  rw [(found_next j hlast hblank).length_eq, ← List.length_drop]
  exact List.length_filter_le _ _

/-- Where none is left out, the next row is below the cursor too. -/
theorem lt_clip_of_length {last next : κ} (j : Nat)
    (hlast : ((A.found i cursor).map key)[size - 1]? = some last)
    (hnext : ((A.found i cursor).map key)[size]? = some next) (hblank : C.blank last = false)
    (h : (A.found i cursor).length - size ≤ (A.found j (some last)).length) :
    next < C.clip last := by
  have heq := Nat.le_antisymm (length_found_next_le j hlast hblank) h
  rw [(found_next j hlast hblank).length_eq, ← List.length_drop,
    List.length_filter_eq_length_iff] at heq
  rw [List.getElem?_map] at hnext
  obtain ⟨r, hr, rfl⟩ := Option.map_eq_some_iff.mp hnext
  apply of_decide_eq_true
  apply heq r
  apply List.mem_of_getElem? (i := 0)
  rwa [List.getElem?_drop]

/-- All rows after the page are below the cursor once the next one is. -/
theorem found_next_of_lt {last next : κ} (j : Nat)
    (hlast : ((A.found i cursor).map key)[size - 1]? = some last)
    (hnext : ((A.found i cursor).map key)[size]? = some next) (h : next < C.clip last) :
    (A.found j (some last)).Perm ((A.found i cursor).drop size) := by
  have hblank : C.blank last = false := by
    apply Bool.eq_false_iff.mpr
    intro hblank
    exact absurd (C.blank_le last hblank next) (not_le.mpr (h.trans_le (C.clip_le last)))
  apply (found_next j hlast hblank).trans
  apply List.Perm.of_eq
  apply List.filter_eq_self.mpr
  intro r hr
  obtain ⟨n, hn, rfl⟩ := List.mem_drop_iff_getElem.mp hr
  rw [decide_eq_true_eq]
  apply lt_of_le_of_lt _ h
  apply le_of_sorted (A.sorted i cursor) (n := size) (m := size + n) (by omega) hnext
  rw [List.getElem?_map, List.getElem?_eq_getElem (by omega)]
  rfl

theorem keys_eq_drop {last : κ} {j : Nat}
    (h : (A.found j (some last)).Perm ((A.found i cursor).drop size)) :
    (A.found j (some last)).map key = ((A.found i cursor).map key).drop size := by
  apply List.Perm.eq_of_pairwise' (A.sorted j (some last)) (A.sorted i cursor).drop
  rw [← List.map_drop]
  exact h.map key

/-- Clear borders let no row go: by the number of rows that are left. -/
theorem exists_pages (hsize : 0 < size) (n : Nat) (hn : (A.found i cursor).length ≤ n)
    (h : Clear C size ((A.found i cursor).map key)) :
    ∃ fuel pages, A.pages size fuel i cursor = some pages ∧
      (pages.flatMap Prod.fst).Perm (A.found i cursor) := by
  induction n using Nat.strong_induction_on generalizing i cursor with
  | _ n ih =>
    cases Nat.lt_or_ge size (A.found i cursor).length with
    | inr hle =>
      refine ⟨1, [A.page size i cursor], follow_last 0 ?_, ?_⟩
      · rw [page_of_le hle]
      · rw [List.flatMap_singleton, page_of_le hle]
    | inl hlt =>
      obtain ⟨last, next, hlast, hnext, hpage⟩ := page_of_lt (A := A) hsize hlt
      obtain ⟨hborder, hrest⟩ := (clear_iff_drop hsize hlast hnext).mp h
      have hfound := found_next_of_lt (A := A) (i + 1) hlast hnext hborder
      rw [← keys_eq_drop hfound] at hrest
      have hlen := hfound.length_eq
      rw [List.length_drop] at hlen
      obtain ⟨fuel, pages, hpages, hperm⟩ := ih (n - size) (by omega) (by omega) hrest
      refine ⟨fuel + 1, A.page size i cursor :: pages, ?_, ?_⟩
      · rw [Answers.pages, follow_next fuel (by rw [hpage]), ← Answers.pages, hpages]
        rfl
      · rw [List.flatMap_cons, hpage]
        conv_rhs => rw [← List.take_append_drop size (A.found i cursor)]
        exact (List.Perm.refl _).append (hperm.trans hfound)

/-- A run that ends holds no more rows than it found, and as many only past clear borders; or it
came to a blank cursor and began again. -/
theorem length_pages (hsize : 0 < size) {fuel : Nat} {P : List (List α × Option κ)}
    (h : A.pages size fuel i cursor = some P) :
    ((P.flatMap Prod.fst).length ≤ (A.found i cursor).length ∧
      ((P.flatMap Prod.fst).length = (A.found i cursor).length →
        Clear C size ((A.found i cursor).map key))) ∨
    ∃ fuel' j restart Q, C.reached restart = C.reached none ∧
      A.pages size fuel' j restart = some Q ∧ Q.length < P.length := by
  induction fuel generalizing i cursor P with
  | zero => cases h
  | succ fuel ih =>
    cases Nat.lt_or_ge size (A.found i cursor).length with
    | inr hle =>
      rw [Answers.pages, follow_last fuel (by rw [page_of_le hle]), page_of_le hle] at h
      cases h
      refine .inl ⟨by simp, fun _ => clear_of_length_le (by simpa using hle)⟩
    | inl hlt =>
      obtain ⟨last, next, hlast, hnext, hpage⟩ := page_of_lt (A := A) hsize hlt
      rw [Answers.pages, follow_next fuel (by rw [hpage]), ← Answers.pages] at h
      obtain ⟨Q, hQ, rfl⟩ := Option.map_eq_some_iff.mp h
      cases hblank : C.blank last with
      | true => exact .inr ⟨fuel, i + 1, some last, Q, C.reached_blank hblank, hQ, by simp⟩
      | false =>
        cases ih hQ with
        | inr hrestart =>
          obtain ⟨fuel', j, restart, R, hreached, hR, hlen⟩ := hrestart
          exact .inr ⟨fuel', j, restart, R, hreached, hR, by simp only [List.length_cons]; omega⟩
        | inl hrest =>
          obtain ⟨hle, hclear⟩ := hrest
          have hpast := length_found_next_le (A := A) (i + 1) hlast hblank
          have htotal : ((A.page size i cursor :: Q).flatMap Prod.fst).length =
              size + (Q.flatMap Prod.fst).length := by
            rw [List.flatMap_cons, hpage, List.length_append, List.length_take]
            omega
          rw [htotal]
          refine .inl ⟨by omega, fun heq => (clear_iff_drop hsize hlast hnext).mpr ?_⟩
          have hborder := lt_clip_of_length (A := A) (i + 1) hlast hnext hblank (by omega)
          have hfound := found_next_of_lt (A := A) (i + 1) hlast hnext hborder
          rw [← keys_eq_drop hfound]
          exact ⟨hborder, hclear (by omega)⟩

/-- The pages hold every row once if and only if all borders are clear. -/
theorem readOnce_iff (A : Answers C key rows) (hsize : 0 < size) :
    A.ReadOnce size ↔ Clear C size (descending (rows.map key)) := by
  have hall : (A.found 0 none).Perm rows := by
    apply (A.perm 0 none).trans
    exact List.Perm.of_eq (List.filter_eq_self.mpr fun _ _ => rfl)
  have hkeys : (A.found 0 none).map key = descending (rows.map key) := by
    rw [A.keys_found]
    exact List.filter_eq_self.mpr fun _ _ => rfl
  rw [← hkeys]
  constructor
  · rintro ⟨fuel, P, hP, hperm⟩
    cases length_pages hsize hP with
    | inl hlen => exact hlen.2 (hperm.length_eq.trans hall.length_eq.symm)
    | inr hrestart =>
      obtain ⟨fuel', j, restart, Q, hreached, hQ, hlt⟩ := hrestart
      have heq := A.length_pages_eq size hreached hP hQ
      omega
  · intro h
    obtain ⟨fuel, P, hP, hperm⟩ := exists_pages hsize _ (le_refl _) h
    exact ⟨fuel, P, hP, hperm.trans hall⟩

end Answers

end

end BrainV2.Keyset
