import Mathlib

/-!
# Rows of a table

Read in an order:

* `Arrangement`: the order in which rows come when nothing asks for one;
* `orderBy`: rows in the order asked for, those of equal rank as they come;
* `orderBy_eq`: which is one order when no two rows have the same rank;
* `exists_head?_orderBy`: the first row has the least rank.

Updated by statements, each of which picks rows by what is in them and replaces each by what is in
it, so a row does not see the others:

* `Update`, `run`: a statement, and the table after it with the number of rows it picked;
* `runAll`: the statements in order, with the numbers added up;
* `rowAll`, `runAll_eq`: what they do to one row, of which the table and the number are made.

Read behind a watermark, a batch at a time in the order of their keys:

* `IsBatch`: an answer to such a query, rows of one key in any order;
* `Covers`: no row at or before the watermark is unseen;
* `covers_advance_iff`: after a first part of a batch is seen and the watermark moves to its last
  row, the watermark covers exactly when the rows that share that row's key are seen.
-/

namespace BrainV2.RowOrder

/-- An order for the rows of any list. -/
structure Arrangement where
  arrange : {α : Type} → List α → List α
  perm : ∀ {α : Type} (rows : List α), (arrange rows).Perm rows

namespace Arrangement

/-- The rows as they are. -/
def plain : Arrangement := ⟨fun rows => rows, fun _ => List.Perm.refl _⟩

variable {α : Type} (a : Arrangement)

theorem arrange_nil : a.arrange ([] : List α) = [] := (a.perm []).eq_nil

theorem arrange_singleton (r : α) : a.arrange [r] = [r] := (a.perm [r]).eq_singleton

end Arrangement

section

variable {α : Type} (a : Arrangement) (before : α → α → Prop) [DecidableRel before]

def orderBy (rows : List α) : List α := (a.arrange rows).insertionSort before

theorem orderBy_perm (rows : List α) : (orderBy a before rows).Perm rows :=
  (List.perm_insertionSort _ _).trans (a.perm rows)

theorem orderBy_nil : orderBy a before [] = [] := (orderBy_perm a before []).eq_nil

theorem orderBy_singleton (r : α) : orderBy a before [r] = [r] :=
  (orderBy_perm a before [r]).eq_singleton

variable {a before}

theorem mem_orderBy {rows : List α} {r : α} : r ∈ orderBy a before rows ↔ r ∈ rows :=
  (orderBy_perm a before rows).mem_iff

variable [Std.Total before] [IsTrans α before]

theorem orderBy_sorted (rows : List α) : (orderBy a before rows).Pairwise before :=
  List.pairwise_insertionSort _ _

/-- No two rows of equal rank leave one sorted list. -/
theorem orderBy_eq_of_perm {rows sorted : List α} (hperm : sorted.Perm rows)
    (hsorted : sorted.Pairwise before)
    (h : ∀ x ∈ rows, ∀ y ∈ rows, before x y → before y x → x = y) :
    orderBy a before rows = sorted := by
  apply ((orderBy_perm a before rows).trans hperm.symm).eq_of_pairwise
  · intro x y hx hy hxy hyx
    exact h x (mem_orderBy.mp hx) y (hperm.subset hy) hxy hyx
  · exact orderBy_sorted rows
  · exact hsorted

theorem orderBy_eq {b : Arrangement} {rows : List α}
    (h : ∀ x ∈ rows, ∀ y ∈ rows, before x y → before y x → x = y) :
    orderBy a before rows = orderBy b before rows :=
  orderBy_eq_of_perm (orderBy_perm b before rows) (orderBy_sorted rows) h

variable (a before) in
/-- Of any rows one comes first, before all others. -/
theorem exists_head?_orderBy {rows : List α} {r : α} (h : r ∈ rows) :
    ∃ first, (orderBy a before rows).head? = some first ∧ first ∈ rows ∧
      ∀ s ∈ rows, before first s := by
  have hsorted : (orderBy a before rows).Pairwise before := orderBy_sorted rows
  have hmem : ∀ s, s ∈ orderBy a before rows ↔ s ∈ rows := fun s => mem_orderBy
  cases horder : orderBy a before rows with
  | nil =>
    rw [← hmem, horder] at h
    cases h
  | cons first rest =>
    rw [horder] at hsorted hmem
    refine ⟨first, rfl, (hmem first).mp List.mem_cons_self, fun s hs => ?_⟩
    cases List.mem_cons.mp ((hmem s).mpr hs) with
    | inl heq => exact heq ▸ (Std.Total.total s s).elim id id
    | inr hrest => exact (List.pairwise_cons.mp hsorted).1 s hrest

end

end BrainV2.RowOrder

namespace BrainV2.RowUpdates

variable {ρ : Type*}

structure Update (ρ : Type*) where
  picks : ρ → Bool
  set : ρ → ρ

def Update.row (u : Update ρ) (r : ρ) : ρ := if u.picks r then u.set r else r

def Update.run (u : Update ρ) (t : List ρ) : List ρ × Nat := (t.map u.row, t.countP u.picks)

def runAll : List (Update ρ) → List ρ → List ρ × Nat
  | [], t => (t, 0)
  | u :: us, t =>
    let (t', n) := u.run t
    let (t'', m) := runAll us t'
    (t'', n + m)

/-- One row, with how often it is picked. -/
def rowAll : List (Update ρ) → ρ → ρ × Nat
  | [], r => (r, 0)
  | u :: us, r => ((rowAll us (u.row r)).1, (if u.picks r then 1 else 0) + (rowAll us (u.row r)).2)

theorem countP_eq_sum (p : ρ → Bool) (t : List ρ) :
    t.countP p = (t.map fun r => if p r then 1 else 0).sum := by
  induction t with
  | nil => rfl
  | cons r t ih =>
    rw [List.countP_cons, List.map_cons, List.sum_cons, ih, Nat.add_comm]

theorem runAll_eq (us : List (Update ρ)) (t : List ρ) :
    runAll us t = (t.map fun r => (rowAll us r).1, (t.map fun r => (rowAll us r).2).sum) := by
  induction us generalizing t with
  | nil => simp [runAll, rowAll]
  | cons u us ih =>
    rw [runAll, Update.run]
    dsimp only
    rw [ih, List.map_map, List.map_map, countP_eq_sum, ← List.sum_map_add]
    rfl

/-- The rows of an update that picks nothing of them stay. -/
theorem row_of_not_picks {u : Update ρ} {r : ρ} (h : u.picks r = false) : u.row r = r := by
  rw [Update.row, h]
  exact if_neg Bool.false_ne_true

end BrainV2.RowUpdates

namespace BrainV2.Watermark

variable {α τ : Type*} [LinearOrder τ] (key : α → τ)

/-- `rows` answers a query for at most `limit` of the `visible` rows, by key. -/
def IsBatch (limit : Nat) (visible rows : List α) : Prop :=
  ∃ ordered : List α, ordered.Perm visible ∧ ordered.Pairwise (fun a b => key a ≤ key b) ∧
    rows = ordered.take limit

/-- The rows after `start` and up to `stop`. -/
def visible (start stop : τ) (rows : List α) : List α :=
  rows.filter fun r => start < key r ∧ key r ≤ stop

/-- Every row at or before the mark has been seen. -/
def Covers (seen : α → Prop) (rows : List α) (mark : τ) : Prop :=
  ∀ r ∈ rows, key r ≤ mark → seen r

variable {key} {limit : Nat} {rows batch done : List α} {start stop : τ} {last : α}

theorem mem_visible {r : α} : r ∈ visible key start stop rows ↔
    r ∈ rows ∧ start < key r ∧ key r ≤ stop := by
  simp [visible]

theorem IsBatch.subset {all : List α} (h : IsBatch key limit all batch) {r : α} (hr : r ∈ batch) :
    r ∈ all := by
  obtain ⟨ordered, hperm, -, rfl⟩ := h
  exact hperm.subset (List.mem_of_mem_take hr)

/-- A first part of a batch holds every visible row before its last one. -/
theorem IsBatch.mem_of_lt {all : List α} (h : IsBatch key limit all batch) (hdone : done <+: batch)
    (hlast : last ∈ done) {r : α} (hr : r ∈ all) (hlt : key r < key last) : r ∈ done := by
  obtain ⟨ordered, hperm, hsorted, rfl⟩ := h
  obtain ⟨rest, hrest⟩ := hdone.trans (List.take_prefix limit ordered)
  have hmem : r ∈ done ++ rest := by
    rw [hrest]
    exact hperm.symm.subset hr
  rcases List.mem_append.mp hmem with hmem | hmem
  · exact hmem
  · rw [← hrest, List.pairwise_append] at hsorted
    exact absurd (hsorted.2.2 last hlast r hmem) (not_le.mpr hlt)

theorem covers_advance_iff {seen : α → Prop}
    (hbatch : IsBatch key limit (visible key start stop rows) batch) (hdone : done <+: batch)
    (hlast : last ∈ done) :
    Covers key (fun r => seen r ∨ r ∈ done) rows (key last) ↔
      (∀ r ∈ rows, key r = key last → seen r ∨ r ∈ done) ∧
        ∀ r ∈ rows, key r ≤ start → seen r ∨ r ∈ done := by
  have hvisible := mem_visible.mp (hbatch.subset (hdone.subset hlast))
  constructor
  · intro h
    refine ⟨fun r hr he => h r hr he.le, fun r hr hle => h r hr ?_⟩
    exact hle.trans hvisible.2.1.le
  · rintro ⟨htie, hold⟩ r hr hle
    rcases hle.eq_or_lt with he | hlt
    · exact htie r hr he
    by_cases hstart : key r ≤ start
    · exact hold r hr hstart
    · right
      apply hbatch.mem_of_lt hdone hlast _ hlt
      exact mem_visible.mpr ⟨hr, not_le.mp hstart, hlt.le.trans hvisible.2.2⟩

end BrainV2.Watermark
