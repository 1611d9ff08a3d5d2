import BrainV2.Analytics.Facts
import BrainV2.Lib.Rows

/-!
# Costs in bulk

* `updateProductCogs`, `updateEach`: one product, and a list of them one after the other;
* `bulkUpdateProductCogs`: the list in one transaction, where a product that is joined with several
  costs gets the one that `choice` picks;
* `BulkRight`: the second is the first, and reports the products that it changed;
* `BulkCondition`, `bulkRight_iff`: the lists for which it is so, whatever is picked.
-/

namespace BrainV2.Analytics

open RowUpdates (Update runAll rowAll runAll_eq)
open Wrapping (Fits)

/-! ### The table -/

/-- A row of `connector_product_facts`. -/
@[ext] structure StoredProduct (ι α : Type) where
  id : ι
  workspaceId : ι
  costMu : Option Int64
  /-- The columns that no update of a cost sets. -/
  others : α
deriving DecidableEq

structure CogsUpdate (ι : Type) where
  productId : ι
  costMu : Option Int

inductive CogsError where
  /-- `cost_mu cannot be negative` -/
  | negative
  | pg (e : PgError)
deriving DecidableEq

structure CogsUpdated where
  updated : Bool
  costMu : Option Int

structure BulkResult where
  attempted : Nat
  updated : Nat

section

variable {ι α : Type} [DecidableEq ι]

/-! ### One product -/

def isNegative (costMu : Option Int) : Bool := costMu.any (· < 0)

def setCost (workspaceId productId : ι) (costMu : Option Int64) : Update (StoredProduct ι α) where
  picks r := r.workspaceId = workspaceId ∧ r.id = productId
  set r := { r with costMu := costMu }

/-- The parameter of a `bigint` column. -/
def bigintParameter : Option Int → Except CogsError (Option Int64)
  | none => .ok none
  | some n => if Fits n then .ok (some (Int64.ofInt n)) else .error (.pg .bigintOutOfRange)

def updateProductCogs (workspaceId productId : ι) (costMu : Option Int)
    (t : List (StoredProduct ι α)) : Except CogsError (List (StoredProduct ι α) × CogsUpdated) :=
  if isNegative costMu then .error .negative
  else do
    let cost ← bigintParameter costMu
    let t' := ((setCost workspaceId productId cost).run t).1
    let row := t'.find? fun r => r.workspaceId = workspaceId ∧ r.id = productId
    .ok (t', { updated := row.isSome, costMu := (row.bind (·.costMu)).map Int64.toInt })

/-- Each call commits, and the first one that throws is the last. -/
def updateEach (workspaceId : ι) : List (CogsUpdate ι) → List (StoredProduct ι α) →
    List (StoredProduct ι α) × Except CogsError Unit
  | [], t => (t, .ok ())
  | u :: us, t =>
    match updateProductCogs workspaceId u.productId u.costMu t with
    | .error e => (t, .error e)
    | .ok (t', _) => updateEach workspaceId us t'

/-! ### In bulk -/

/-- The costs that are joined with a row and differ from its own. -/
def joined (numeric : List (ι × Int64)) (r : StoredProduct ι α) : List Int64 :=
  (numeric.filter fun u => u.1 = r.id ∧ r.costMu ≠ some u.2).map Prod.snd

/-- `UPDATE … FROM`, which sets a row once: of several joined rows any may be the one. -/
def setJoined (choice : ι → Nat) (workspaceId : ι) (numeric : List (ι × Int64)) :
    Update (StoredProduct ι α) where
  picks r := r.workspaceId = workspaceId ∧ joined numeric r ≠ []
  set r := { r with costMu := (joined numeric r)[choice r.id % (joined numeric r).length]? }

def clearCost (workspaceId productId : ι) : Update (StoredProduct ι α) where
  picks r := r.workspaceId = workspaceId ∧ r.id = productId ∧ r.costMu ≠ none
  set r := { r with costMu := none }

/-- A statement that fails rolls back the transaction. -/
def bulkUpdateProductCogs (choice : ι → Nat) (workspaceId : ι) (updates : List (CogsUpdate ι))
    (t : List (StoredProduct ι α)) : List (StoredProduct ι α) × Except CogsError BulkResult :=
  if updates.any fun u => isNegative u.costMu then (t, .error .negative)
  else if updates.isEmpty then (t, .ok ⟨0, 0⟩)
  else
    let nullRows := updates.filter fun u => u.costMu = none
    let numericRows := updates.filterMap fun u => u.costMu.map fun cost => (u.productId, cost)
    if ∀ u ∈ numericRows, Fits u.2 then
      let numeric := numericRows.map fun u => (u.1, Int64.ofInt u.2)
      let statements := (if numericRows.isEmpty then [] else [setJoined choice workspaceId numeric]) ++
        nullRows.map fun u => clearCost workspaceId u.productId
      let (t', updated) := runAll statements t
      (t', .ok ⟨updates.length, updated⟩)
    else (t, .error (.pg .bigintOutOfRange))

/-! ### What the second should be -/

/-- The number of products with another cost than before. -/
def changed (t t' : List (StoredProduct ι α)) : Nat :=
  (List.zip t t').countP fun p => p.1.costMu ≠ p.2.costMu

structure BulkRight (choice : ι → Nat) (workspaceId : ι) (updates : List (CogsUpdate ι))
    (t : List (StoredProduct ι α)) : Prop where
  table : (bulkUpdateProductCogs choice workspaceId updates t).1 =
    (updateEach workspaceId updates t).1
  /-- Only costs change, of listed products of the workspace. -/
  untouched : List.Forall₂ (fun r r' => { r' with costMu := r.costMu } = r ∧
      (r'.costMu ≠ r.costMu → r.workspaceId = workspaceId ∧ ∃ u ∈ updates, u.productId = r.id))
    t (bulkUpdateProductCogs choice workspaceId updates t).1
  counted : (updateEach workspaceId updates t).2 = .ok () →
    ∃ result, (bulkUpdateProductCogs choice workspaceId updates t).2 = .ok result ∧
      result.updated = changed t (bulkUpdateProductCogs choice workspaceId updates t).1

/-- A cost that is negative or out of range. -/
def Refused (u : CogsUpdate ι) : Prop := ∃ n, u.costMu = some n ∧ (n < 0 ∨ ¬ Fits n)

instance (u : CogsUpdate ι) : Decidable (Refused u) :=
  match h : u.costMu with
  | none => .isFalse fun ⟨n, hn, _⟩ => by rw [h] at hn; cases hn
  | some n => decidable_of_iff (n < 0 ∨ ¬ Fits n)
      ⟨fun hn => ⟨n, h, hn⟩, fun ⟨m, hm, hor⟩ => by rw [h] at hm; cases hm; exact hor⟩

/-- The entries before the first that is refused, each with its parameter. -/
def accepted (updates : List (CogsUpdate ι)) : List (ι × Option Int64) :=
  (updates.takeWhile fun u => ¬ Refused u).map fun u => (u.productId, u.costMu.map Int64.ofInt)

/-- The costs of a product, in the order of the list. -/
def costsOf (entries : List (ι × Option Int64)) (productId : ι) : List (Option Int64) :=
  (entries.filter fun e => e.1 = productId).map Prod.snd

/-- Each listed product of the workspace has no entries but its own cost and the last, and no null
before a number. In a list with a refused entry, what is before it ends with the product's own
cost. -/
def BulkCondition (workspaceId : ι) (updates : List (CogsUpdate ι)) (t : List (StoredProduct ι α)) :
    Prop :=
  ∀ r ∈ t, r.workspaceId = workspaceId →
    ∀ last, (costsOf (accepted updates) r.id).getLast? = some last →
      ((∃ u ∈ updates, Refused u) → last = r.costMu) ∧
      ((∀ u ∈ updates, ¬ Refused u) → ∀ cost ∈ costsOf (accepted updates) r.id,
        (cost = r.costMu ∨ cost = last) ∧ (cost = none → last = none))

/-! ### One after the other -/

variable {workspaceId : ι} {u : CogsUpdate ι} {updates : List (CogsUpdate ι)}
  {t : List (StoredProduct ι α)} {entries : List (ι × Option Int64)}

omit [DecidableEq ι] in
theorem bigintParameter_of_accepted (h : ¬ Refused u) :
    isNegative u.costMu = false ∧
      bigintParameter u.costMu = .ok (u.costMu.map Int64.ofInt) := by
  cases hcost : u.costMu with
  | none => exact ⟨rfl, rfl⟩
  | some n =>
    have hnonneg : ¬ n < 0 := fun hn => h ⟨n, hcost, .inl hn⟩
    have hfits : Fits n := by
      by_contra hn
      exact h ⟨n, hcost, .inr hn⟩
    exact ⟨decide_eq_false hnonneg, if_pos hfits⟩

variable (workspaceId t) in
theorem updateProductCogs_of_accepted (h : ¬ Refused u) : ∃ returned,
    updateProductCogs workspaceId u.productId u.costMu t =
      .ok (((setCost workspaceId u.productId (u.costMu.map Int64.ofInt)).run t).1, returned) := by
  obtain ⟨hnonneg, hparameter⟩ := bigintParameter_of_accepted h
  rw [updateProductCogs, hnonneg, if_neg Bool.false_ne_true, hparameter]
  exact ⟨_, rfl⟩

variable (workspaceId t) in
theorem updateProductCogs_of_refused (h : Refused u) : ∃ e,
    updateProductCogs workspaceId u.productId u.costMu t = .error e := by
  obtain ⟨n, hcost, hbad⟩ := h
  unfold updateProductCogs
  rw [hcost]
  by_cases hneg : n < 0
  · exact ⟨_, if_pos (decide_eq_true hneg)⟩
  · have hfits : ¬ Fits n := hbad.resolve_left hneg
    have hnonneg : isNegative (some n) = false := decide_eq_false hneg
    rw [hnonneg, if_neg Bool.false_ne_true, bigintParameter, if_neg hfits]
    exact ⟨_, rfl⟩

omit [DecidableEq ι] in
theorem accepted_cons_of_accepted (h : ¬ Refused u) :
    accepted (u :: updates) = (u.productId, u.costMu.map Int64.ofInt) :: accepted updates := by
  rw [accepted, List.takeWhile_cons_of_pos (by simpa using h), List.map_cons]
  rfl

omit [DecidableEq ι] in
theorem accepted_cons_of_refused (h : Refused u) : accepted (u :: updates) = [] := by
  rw [accepted, List.takeWhile_cons_of_neg (by simpa using h)]
  rfl

/-- The list is done up to the first entry that is refused. -/
theorem updateEach_eq (workspaceId : ι) (updates : List (CogsUpdate ι))
    (t : List (StoredProduct ι α)) :
    (updateEach workspaceId updates t).1 =
        (runAll ((accepted updates).map fun e => setCost workspaceId e.1 e.2) t).1 ∧
      ((updateEach workspaceId updates t).2 = .ok () ↔ ∀ u ∈ updates, ¬ Refused u) := by
  induction updates generalizing t with
  | nil => exact ⟨rfl, by simp [updateEach]⟩
  | cons u us ih =>
    by_cases hu : Refused u
    · obtain ⟨e, he⟩ := updateProductCogs_of_refused workspaceId t hu
      rw [updateEach, he, accepted_cons_of_refused hu]
      exact ⟨rfl, by simp [hu]⟩
    · obtain ⟨returned, hok⟩ := updateProductCogs_of_accepted workspaceId t hu
      obtain ⟨htable, hresult⟩ := ih
        ((setCost workspaceId u.productId (u.costMu.map Int64.ofInt)).run t).1
      rw [updateEach, hok, accepted_cons_of_accepted hu]
      refine ⟨htable, ?_⟩
      rw [List.forall_mem_cons, ← hresult]
      exact (and_iff_right hu).symm

theorem costsOf_cons (e : ι × Option Int64) (productId : ι) :
    costsOf (e :: entries) productId =
      if e.1 = productId then e.2 :: costsOf entries productId else costsOf entries productId := by
  unfold costsOf
  rw [List.filter_cons]
  split <;> simp_all

/-- A row ends with the last of its costs. -/
theorem rowAll_setCost (entries : List (ι × Option Int64)) (r : StoredProduct ι α) :
    (rowAll (entries.map fun e => setCost workspaceId e.1 e.2) r).1 =
      if r.workspaceId = workspaceId then
        { r with costMu := (costsOf entries r.id).getLast?.getD r.costMu }
      else r := by
  induction entries generalizing r with
  | nil => split <;> rfl
  | cons e es ih =>
    rw [List.map_cons, rowAll, ih, costsOf_cons]
    by_cases hws : r.workspaceId = workspaceId
    · by_cases hid : r.id = e.1
      · have hrow : (setCost workspaceId e.1 e.2).row r = { r with costMu := e.2 } :=
          if_pos (decide_eq_true ⟨hws, hid⟩)
        rw [hrow, if_pos hws, if_pos hws, if_pos hid.symm, List.getLast?_cons, Option.getD_some]
      · have hrow : (setCost workspaceId e.1 e.2).row r = r :=
          RowUpdates.row_of_not_picks (decide_eq_false fun h => hid h.2)
        rw [hrow, if_pos hws, if_pos hws, if_neg (Ne.symm hid)]
    · have hrow : (setCost workspaceId e.1 e.2).row r = r :=
        RowUpdates.row_of_not_picks (decide_eq_false fun h => hws h.1)
      rw [hrow, if_neg hws, if_neg hws]

/-! ### One product in bulk -/

/-- The costs of a list that are not null and not `c`. -/
def differing (c : Option Int64) (costs : List (Option Int64)) : List Int64 :=
  (costs.filterMap id).filter fun cost => c ≠ some cost

/-- The cost after the join. -/
def numericCost (k : Nat) (c : Option Int64) (costs : List (Option Int64)) : Option Int64 :=
  if differing c costs = [] then c
  else (differing c costs)[k % (differing c costs).length]?

def bulkCost (k : Nat) (c : Option Int64) (costs : List (Option Int64)) : Option Int64 :=
  if none ∈ costs then none else numericCost k c costs

/-- How often the product is set. -/
def bulkCount (k : Nat) (c : Option Int64) (costs : List (Option Int64)) : Nat :=
  (if differing c costs = [] then 0 else 1) +
    if none ∈ costs ∧ numericCost k c costs ≠ none then 1 else 0

theorem mem_differing {c : Option Int64} {costs : List (Option Int64)} {x : Int64} :
    x ∈ differing c costs ↔ some x ∈ costs ∧ c ≠ some x := by
  simp [differing]

theorem numericCost_of_nil {k : Nat} {c : Option Int64} {costs : List (Option Int64)}
    (h : differing c costs = []) : numericCost k c costs = c := if_pos h

theorem numericCost_of_ne_nil (k : Nat) {c : Option Int64} {costs : List (Option Int64)}
    (h : differing c costs ≠ []) :
    ∃ x, numericCost k c costs = some x ∧ some x ∈ costs ∧ c ≠ some x := by
  have hlt := Nat.mod_lt k (List.length_pos_of_ne_nil h)
  refine ⟨(differing c costs)[k % (differing c costs).length], ?_, ?_⟩
  · rw [numericCost, if_neg h, List.getElem?_eq_getElem hlt]
  · exact mem_differing.mp (List.getElem_mem hlt)

/-- Each cost that differs is picked by some choice. -/
theorem exists_numericCost {c : Option Int64} {costs : List (Option Int64)} {x : Int64}
    (h : some x ∈ costs) (hne : c ≠ some x) : ∃ k, numericCost k c costs = some x := by
  have hmem := mem_differing.mpr ⟨h, hne⟩
  obtain ⟨k, hk, hx⟩ := List.getElem_of_mem hmem
  refine ⟨k, ?_⟩
  rw [numericCost, if_neg (List.ne_nil_of_mem hmem), Nat.mod_eq_of_lt hk,
    List.getElem?_eq_getElem hk, hx]

/-- A product that has another cost in the end was set. -/
theorem changed_le_bulkCount (k : Nat) (c : Option Int64) (costs : List (Option Int64)) :
    (if bulkCost k c costs ≠ c then 1 else 0) ≤ bulkCount k c costs := by
  by_cases hdiffering : differing c costs = []
  · unfold bulkCost bulkCount
    rw [numericCost_of_nil hdiffering]
    by_cases hnull : none ∈ costs
    · simp only [hnull, if_true, true_and, ne_comm, le_add_iff_nonneg_left, zero_le]
    · simp [hnull]
  · rw [bulkCount, if_neg hdiffering]
    split <;> omega

/-- The cost and the count of a product, whatever is picked. -/
def CostRight (c : Option Int64) (costs : List (Option Int64)) : Prop :=
  ∀ k, bulkCost k c costs = costs.getLast?.getD c ∧
    bulkCount k c costs = if bulkCost k c costs ≠ c then 1 else 0

/-- No entries but the old cost and the last one, and no null before a number. -/
def EntriesFit (c : Option Int64) (costs : List (Option Int64)) : Prop :=
  ∀ last, costs.getLast? = some last →
    ∀ cost ∈ costs, (cost = c ∨ cost = last) ∧ (cost = none → last = none)

section

variable {c : Option Int64} {costs : List (Option Int64)}

theorem entriesFit_of_null (h : CostRight c costs) (hnull : none ∈ costs) :
    EntriesFit c costs := by
  intro last hlast cost hcost
  have hlastNone : last = none := by
    have hcell := (h 0).1
    rw [bulkCost, if_pos hnull, hlast] at hcell
    exact hcell.symm
  refine ⟨?_, fun _ => hlastNone⟩
  cases cost with
  | none => exact .inr hlastNone.symm
  | some x =>
    left
    by_contra hne
    -- the product would be set to a number and then cleared, and counted twice
    have hdiffering := List.ne_nil_of_mem (mem_differing.mpr ⟨hcost, Ne.symm hne⟩)
    obtain ⟨y, hy, -⟩ := numericCost_of_ne_nil 0 hdiffering
    have hcount := (h 0).2
    rw [bulkCount, if_neg hdiffering, hy, if_pos ⟨hnull, Option.some_ne_none y⟩] at hcount
    split at hcount <;> omega

theorem entriesFit_of_numbers (h : CostRight c costs) (hnumbers : none ∉ costs) :
    EntriesFit c costs := by
  intro last hlast cost hcost
  cases cost with
  | none => exact absurd hcost hnumbers
  | some x =>
    refine ⟨?_, fun hnone => by cases hnone⟩
    by_cases hne : c = some x
    · exact .inl hne.symm
    · obtain ⟨k, hk⟩ := exists_numericCost hcost hne
      right
      have hcell := (h k).1
      rwa [bulkCost, if_neg hnumbers, hk, hlast] at hcell

theorem costRight_of_null (h : EntriesFit c costs) (hnull : none ∈ costs) :
    CostRight c costs := by
  intro k
  cases hlast : costs.getLast? with
  | none =>
    rw [List.getLast?_eq_none_iff.mp hlast] at hnull
    cases hnull
  | some last =>
    have hcosts := h last hlast
    have hlastNone := (hcosts none hnull).2 rfl
    have hdiffering : differing c costs = [] := by
      rw [List.eq_nil_iff_forall_not_mem]
      intro x hx
      obtain ⟨hmem, hne⟩ := mem_differing.mp hx
      rcases (hcosts _ hmem).1 with hold | hnew
      · exact hne hold.symm
      · rw [hlastNone] at hnew
        cases hnew
    rw [bulkCount, if_pos hdiffering, numericCost_of_nil hdiffering, bulkCost, if_pos hnull]
    refine ⟨hlastNone.symm, ?_⟩
    by_cases hc : c = none
    · simp [hc]
    · simp [hc, hnull, Ne.symm hc]

theorem costRight_of_numbers (h : EntriesFit c costs) (hnumbers : none ∉ costs) :
    CostRight c costs := by
  intro k
  rw [bulkCount, bulkCost, if_neg hnumbers]
  by_cases hdiffering : differing c costs = []
  · rw [if_pos hdiffering, numericCost_of_nil hdiffering]
    refine ⟨?_, by simp [hnumbers]⟩
    cases hlast : costs.getLast? with
    | none => rfl
    | some last =>
      cases last with
      | none => exact absurd (List.mem_of_getLast? hlast) hnumbers
      | some x =>
        by_contra hne
        have hx := mem_differing.mpr ⟨List.mem_of_getLast? hlast, hne⟩
        rw [hdiffering] at hx
        cases hx
  · obtain ⟨x, hx, hmem, hne⟩ := numericCost_of_ne_nil k hdiffering
    rw [if_neg hdiffering, hx]
    refine ⟨?_, by simp [hnumbers, Ne.symm hne]⟩
    cases hlast : costs.getLast? with
    | none =>
      rw [List.getLast?_eq_none_iff.mp hlast] at hmem
      cases hmem
    | some last => exact (h last hlast _ hmem).1.resolve_left (Ne.symm hne)

theorem costRight_iff (c : Option Int64) (costs : List (Option Int64)) :
    CostRight c costs ↔ EntriesFit c costs := by
  by_cases hnull : none ∈ costs
  · exact ⟨fun h => entriesFit_of_null h hnull, fun h => costRight_of_null h hnull⟩
  · exact ⟨fun h => entriesFit_of_numbers h hnull, fun h => costRight_of_numbers h hnull⟩

end

/-! ### The statements -/

def numericOf (entries : List (ι × Option Int64)) : List (ι × Int64) :=
  entries.filterMap fun e => e.2.map fun cost => (e.1, cost)

def nullsOf (entries : List (ι × Option Int64)) : List ι :=
  (entries.filter fun e => e.2 = none).map Prod.fst

def bulkStatements (choice : ι → Nat) (workspaceId : ι) (entries : List (ι × Option Int64)) :
    List (Update (StoredProduct ι α)) :=
  setJoined choice workspaceId (numericOf entries) ::
    (nullsOf entries).map fun id => clearCost workspaceId id

theorem joined_cons (u : ι × Int64) (numeric : List (ι × Int64)) (r : StoredProduct ι α) :
    joined (u :: numeric) r =
      if u.1 = r.id ∧ r.costMu ≠ some u.2 then u.2 :: joined numeric r else joined numeric r := by
  unfold joined
  rw [List.filter_cons]
  simp only [decide_eq_true_eq]
  split <;> rfl

theorem differing_cons_some (c : Option Int64) (x : Int64) (costs : List (Option Int64)) :
    differing c (some x :: costs) =
      if c ≠ some x then x :: differing c costs else differing c costs := by
  have hcons : (some x :: costs).filterMap id = x :: costs.filterMap id := rfl
  unfold differing
  rw [hcons, List.filter_cons]
  simp only [decide_eq_true_eq]

theorem joined_numericOf (entries : List (ι × Option Int64)) (r : StoredProduct ι α) :
    joined (numericOf entries) r = differing r.costMu (costsOf entries r.id) := by
  induction entries with
  | nil => rfl
  | cons e es ih =>
    obtain ⟨productId, cost⟩ := e
    rw [costsOf_cons]
    cases cost with
    | none =>
      have hcons : numericOf ((productId, none) :: es) = numericOf es := rfl
      rw [hcons, ih]
      split <;> rfl
    | some x =>
      have hcons : numericOf ((productId, some x) :: es) = (productId, x) :: numericOf es := rfl
      rw [hcons, joined_cons, ih]
      by_cases hid : productId = r.id
      · rw [if_pos hid, differing_cons_some]
        simp only [hid, true_and]
      · rw [if_neg hid, if_neg fun h => hid h.1]

theorem mem_nullsOf {entries : List (ι × Option Int64)} {productId : ι} :
    productId ∈ nullsOf entries ↔ none ∈ costsOf entries productId := by
  simp [nullsOf, costsOf]

/-- A row is cleared once. -/
theorem rowAll_clearCost (ids : List ι) (r : StoredProduct ι α) :
    rowAll (ids.map fun id => clearCost workspaceId id) r =
      if r.workspaceId = workspaceId ∧ r.id ∈ ids ∧ r.costMu ≠ none then
        ({ r with costMu := none }, 1)
      else (r, 0) := by
  induction ids generalizing r with
  | nil => simp [rowAll]
  | cons id ids ih =>
    rw [List.map_cons, rowAll, ih]
    by_cases hpicks : r.workspaceId = workspaceId ∧ r.id = id ∧ r.costMu ≠ none
    · have hrow : (clearCost workspaceId id).row r = { r with costMu := none } :=
        if_pos (decide_eq_true hpicks)
      rw [hrow]
      simp [clearCost, hpicks]
    · have hrow : (clearCost workspaceId id).row r = r :=
        RowUpdates.row_of_not_picks (decide_eq_false hpicks)
      rw [hrow]
      have hmem : r.workspaceId = workspaceId ∧ r.id ∈ id :: ids ∧ r.costMu ≠ none ↔
          r.workspaceId = workspaceId ∧ r.id ∈ ids ∧ r.costMu ≠ none := by
        rw [List.mem_cons]
        tauto
      simp only [hmem]
      split <;> simp [clearCost, hpicks]

theorem rowAll_bulkStatements (choice : ι → Nat) (entries : List (ι × Option Int64))
    (r : StoredProduct ι α) : rowAll (bulkStatements choice workspaceId entries) r =
      if r.workspaceId = workspaceId then
        ({ r with costMu := bulkCost (choice r.id) r.costMu (costsOf entries r.id) },
          bulkCount (choice r.id) r.costMu (costsOf entries r.id))
      else (r, 0) := by
  rw [bulkStatements, rowAll, rowAll_clearCost]
  by_cases hws : r.workspaceId = workspaceId
  · have hrow : (setJoined choice workspaceId (numericOf entries)).row r =
        { r with costMu := numericCost (choice r.id) r.costMu (costsOf entries r.id) } := by
      simp only [Update.row, setJoined, numericCost, joined_numericOf]
      by_cases hdiffering : differing r.costMu (costsOf entries r.id) = []
      · simp [hdiffering]
      · simp [hws, hdiffering]
    rw [hrow]
    simp only [hws, true_and, mem_nullsOf, setJoined, joined_numericOf, if_true, ne_eq,
      decide_not, Bool.not_eq_true', decide_eq_false_iff_not, bulkCount, bulkCost]
    split <;> split <;> simp_all
  · have hrow : (setJoined choice workspaceId (numericOf entries)).row r = r :=
      RowUpdates.row_of_not_picks (decide_eq_false fun h => hws h.1)
    rw [hrow]
    simp [setJoined, hws]

/-! ### The two tables -/

omit [DecidableEq ι] in
theorem accepted_eq (h : ∀ u ∈ updates, ¬ Refused u) : accepted updates =
    updates.map fun u => (u.productId, u.costMu.map Int64.ofInt) := by
  rw [accepted, List.takeWhile_eq_self_iff.mpr fun u hu => decide_eq_true (h u hu)]

omit [DecidableEq ι] in
theorem nullsOf_accepted (h : ∀ u ∈ updates, ¬ Refused u) : nullsOf (accepted updates) =
    (updates.filter fun u => u.costMu = none).map CogsUpdate.productId := by
  rw [accepted_eq h, nullsOf, List.filter_map, List.map_map]
  congr 1
  apply List.filter_congr
  intro u _
  simp

omit [DecidableEq ι] in
theorem numericOf_accepted (h : ∀ u ∈ updates, ¬ Refused u) : numericOf (accepted updates) =
    (updates.filterMap fun u => u.costMu.map fun cost => (u.productId, cost)).map
      fun u => (u.1, Int64.ofInt u.2) := by
  rw [accepted_eq h, numericOf, List.filterMap_map, List.map_filterMap]
  congr 1
  funext u
  cases hcost : u.costMu with
  | none => simp [hcost]
  | some n => simp [hcost]

theorem runAll_setJoined_nil (choice : ι → Nat) (us : List (Update (StoredProduct ι α)))
    (t : List (StoredProduct ι α)) : runAll (setJoined choice workspaceId [] :: us) t = runAll us t := by
  have hrowAll : ∀ r, rowAll (setJoined choice workspaceId [] :: us) r = rowAll us r := by
    intro r
    have hrow : (setJoined choice workspaceId []).row r = r :=
      RowUpdates.row_of_not_picks (decide_eq_false fun h => h.2 rfl)
    rw [rowAll, hrow]
    simp [setJoined, joined]
  simp only [runAll_eq, hrowAll]

omit [DecidableEq ι] in
theorem none_negative (h : ∀ u ∈ updates, ¬ Refused u) :
    (updates.any fun u => isNegative u.costMu) = false := by
  rw [List.any_eq_false]
  intro u hu
  rw [(bigintParameter_of_accepted (h u hu)).1]
  exact Bool.false_ne_true

omit [DecidableEq ι] in
theorem costs_fit (h : ∀ u ∈ updates, ¬ Refused u) :
    ∀ u ∈ updates.filterMap fun u => u.costMu.map fun cost => (u.productId, cost), Fits u.2 := by
  intro p hp
  obtain ⟨u, hu, hmap⟩ := List.mem_filterMap.mp hp
  obtain ⟨n, hn, rfl⟩ := Option.map_eq_some_iff.mp hmap
  by_contra hnot
  exact h u hu ⟨n, hn, .inr hnot⟩

/-- A bulk update with no entry refused is its statements. -/
theorem bulk_of_accepted (choice : ι → Nat) (t : List (StoredProduct ι α))
    (h : ∀ u ∈ updates, ¬ Refused u) : bulkUpdateProductCogs choice workspaceId updates t =
      ((runAll (bulkStatements choice workspaceId (accepted updates)) t).1,
        .ok ⟨updates.length, (runAll (bulkStatements choice workspaceId (accepted updates)) t).2⟩) := by
  have hnulls : (updates.filter fun u => u.costMu = none).map
      (fun u => clearCost (α := α) workspaceId u.productId) =
        (nullsOf (accepted updates)).map fun id => clearCost workspaceId id := by
    rw [nullsOf_accepted h, List.map_map]
    rfl
  unfold bulkUpdateProductCogs
  rw [none_negative h, if_neg Bool.false_ne_true]
  by_cases hempty : updates = []
  · subst hempty
    have hstatements : bulkStatements (α := α) choice workspaceId (accepted []) =
        [setJoined choice workspaceId []] := rfl
    rw [hstatements, runAll_setJoined_nil]
    rfl
  · have hcons : updates.isEmpty = false := by
      simpa using hempty
    simp only [hcons, Bool.false_eq_true, if_false, if_pos (costs_fit h), hnulls,
      ← numericOf_accepted h]
    split
    · next hnone =>
      have hnumeric : numericOf (accepted updates) = [] := by
        rw [numericOf_accepted h, List.isEmpty_iff.mp hnone]
        rfl
      simp only [List.nil_append, bulkStatements, hnumeric, runAll_setJoined_nil]
    · rfl

/-- With an entry refused nothing is committed. -/
theorem bulk_of_refused (choice : ι → Nat) (t : List (StoredProduct ι α))
    (h : ∃ u ∈ updates, Refused u) :
    (bulkUpdateProductCogs choice workspaceId updates t).1 = t := by
  obtain ⟨u, hu, n, hn, hbad⟩ := h
  unfold bulkUpdateProductCogs
  split
  · rfl
  · next hnonneg =>
    have hnot : ¬ n < 0 := by
      intro hneg
      apply hnonneg
      rw [List.any_eq_true]
      exact ⟨u, hu, by rw [hn]; exact decide_eq_true hneg⟩
    split
    · rfl
    · have hfits : ¬ ∀ u ∈ updates.filterMap fun u => u.costMu.map fun cost => (u.productId, cost),
          Fits u.2 := by
        intro hall
        have hmem := hall (u.productId, n) (List.mem_filterMap.mpr ⟨u, hu, by rw [hn]; rfl⟩)
        exact hbad.resolve_left hnot hmem
      simp only [if_neg hfits]

omit [DecidableEq ι] in
theorem changed_map (f : StoredProduct ι α → StoredProduct ι α) (t : List (StoredProduct ι α)) :
    changed t (t.map f) = (t.map fun r => if (f r).costMu ≠ r.costMu then 1 else 0).sum := by
  induction t with
  | nil => rfl
  | cons r t ih =>
    rw [changed, List.map_cons, List.zip_cons_cons, List.countP_cons, List.map_cons, List.sum_cons,
      ← ih, Nat.add_comm]
    simp only [decide_eq_true_eq, ne_comm, changed]

/-! ### The lists for which they agree -/

/-- What the bulk update leaves of a row. -/
def bulkRow (choice : ι → Nat) (workspaceId : ι) (updates : List (CogsUpdate ι))
    (r : StoredProduct ι α) : StoredProduct ι α × Nat :=
  if r.workspaceId = workspaceId then
    ({ r with costMu := bulkCost (choice r.id) r.costMu (costsOf (accepted updates) r.id) },
      bulkCount (choice r.id) r.costMu (costsOf (accepted updates) r.id))
  else (r, 0)

def eachRow (workspaceId : ι) (updates : List (CogsUpdate ι)) (r : StoredProduct ι α) :
    StoredProduct ι α :=
  if r.workspaceId = workspaceId then
    { r with costMu := (costsOf (accepted updates) r.id).getLast?.getD r.costMu }
  else r

theorem updateEach_rows (workspaceId : ι) (updates : List (CogsUpdate ι))
    (t : List (StoredProduct ι α)) :
    (updateEach workspaceId updates t).1 = t.map (eachRow workspaceId updates) := by
  rw [(updateEach_eq workspaceId updates t).1, runAll_eq]
  simp only [rowAll_setCost]
  rfl

variable (workspaceId) in
theorem bulk_rows (choice : ι → Nat) (t : List (StoredProduct ι α))
    (h : ∀ u ∈ updates, ¬ Refused u) : bulkUpdateProductCogs choice workspaceId updates t =
      (t.map fun r => (bulkRow choice workspaceId updates r).1, .ok ⟨updates.length,
        (t.map fun r => (bulkRow choice workspaceId updates r).2).sum⟩) := by
  rw [bulk_of_accepted choice t h, runAll_eq]
  simp only [rowAll_bulkStatements]
  rfl

/-- A product without entries has its cost. -/
theorem exists_of_bulkRow_ne {choice : ι → Nat} {r : StoredProduct ι α}
    (h : (bulkRow choice workspaceId updates r).1.costMu ≠ r.costMu) :
    r.workspaceId = workspaceId ∧ ∃ u ∈ updates, u.productId = r.id := by
  unfold bulkRow at h
  split at h
  · next hws =>
    refine ⟨hws, ?_⟩
    by_contra hnone
    have hcosts : costsOf (accepted updates) r.id = [] := by
      rw [costsOf, List.map_eq_nil_iff, List.filter_eq_nil_iff]
      intro e he
      obtain ⟨u, hu, rfl⟩ := List.mem_map.mp he
      have hmem := (List.takeWhile_subset _) hu
      intro hid
      exact hnone ⟨u, hmem, of_decide_eq_true hid⟩
    rw [hcosts] at h
    exact h rfl
  · exact absurd rfl h

theorem untouched_bulk (choice : ι → Nat) (workspaceId : ι) (updates : List (CogsUpdate ι))
    (t : List (StoredProduct ι α)) : List.Forall₂ (fun r r' => { r' with costMu := r.costMu } = r ∧
      (r'.costMu ≠ r.costMu → r.workspaceId = workspaceId ∧ ∃ u ∈ updates, u.productId = r.id))
    t (bulkUpdateProductCogs choice workspaceId updates t).1 := by
  by_cases hrefused : ∃ u ∈ updates, Refused u
  · rw [bulk_of_refused choice t hrefused, List.forall₂_same]
    exact fun r _ => ⟨rfl, fun hne => absurd rfl hne⟩
  · have hok : ∀ u ∈ updates, ¬ Refused u := fun u hu hbad => hrefused ⟨u, hu, hbad⟩
    rw [bulk_rows workspaceId choice t hok, List.forall₂_map_right_iff, List.forall₂_same]
    refine fun r _ => ⟨?_, exists_of_bulkRow_ne⟩
    unfold bulkRow
    split <;> rfl

/-- A row is right whatever is picked where its entries fit. -/
theorem row_right_iff (workspaceId : ι) (updates : List (CogsUpdate ι)) (r : StoredProduct ι α) :
    (∀ choice : ι → Nat, (bulkRow choice workspaceId updates r).1 = eachRow workspaceId updates r ∧
      (bulkRow choice workspaceId updates r).2 =
        if (bulkRow choice workspaceId updates r).1.costMu ≠ r.costMu then 1 else 0) ↔
      (r.workspaceId = workspaceId → EntriesFit r.costMu (costsOf (accepted updates) r.id)) := by
  by_cases hws : r.workspaceId = workspaceId
  · rw [← costRight_iff, CostRight]
    simp only [bulkRow, eachRow, hws, if_true, true_imp_iff, StoredProduct.mk.injEq, true_and,
      and_true]
    constructor
    · intro h k
      exact h fun _ => k
    · intro h choice
      exact h (choice r.id)
  · simp [bulkRow, eachRow, hws]

theorem bulkRight_of_accepted_iff (choice : ι → Nat) (t : List (StoredProduct ι α))
    (h : ∀ u ∈ updates, ¬ Refused u) : BulkRight choice workspaceId updates t ↔
      ∀ r ∈ t, (bulkRow choice workspaceId updates r).1 = eachRow workspaceId updates r ∧
        (bulkRow choice workspaceId updates r).2 =
          if (bulkRow choice workspaceId updates r).1.costMu ≠ r.costMu then 1 else 0 := by
  have hle : ∀ r ∈ t, (if (bulkRow choice workspaceId updates r).1.costMu ≠ r.costMu then 1 else 0) ≤
      (bulkRow choice workspaceId updates r).2 := by
    intro r _
    unfold bulkRow
    split
    · exact changed_le_bulkCount _ _ _
    · exact Nat.le_of_eq (if_neg fun hne => hne rfl)
  have hbulk := bulk_rows workspaceId choice t h
  constructor
  · intro hright r hr
    obtain ⟨result, hresult, hcount⟩ := hright.counted ((updateEach_eq _ _ _).2.mpr h)
    have htable := hright.table
    rw [hbulk, updateEach_rows] at htable
    rw [hbulk] at hresult hcount
    cases hresult
    rw [changed_map] at hcount
    exact ⟨List.map_inj_left.mp htable r hr, ((Grouping.sum_map_eq_iff_of_le hle).mp hcount.symm r hr).symm⟩
  · intro hrows
    refine ⟨?_, untouched_bulk choice workspaceId updates t, fun _ => ?_⟩
    · rw [hbulk, updateEach_rows]
      exact List.map_inj_left.mpr fun r hr => (hrows r hr).1
    · rw [hbulk]
      refine ⟨_, rfl, ?_⟩
      rw [changed_map]
      exact ((Grouping.sum_map_eq_iff_of_le hle).mpr fun r hr => (hrows r hr).2.symm).symm

theorem bulkRight_of_refused_iff (choice : ι → Nat) (t : List (StoredProduct ι α))
    (h : ∃ u ∈ updates, Refused u) : BulkRight choice workspaceId updates t ↔
      ∀ r ∈ t, r.workspaceId = workspaceId →
        ∀ last, (costsOf (accepted updates) r.id).getLast? = some last → last = r.costMu := by
  have hthrows : ¬ (updateEach workspaceId updates t).2 = .ok () := by
    rw [(updateEach_eq workspaceId updates t).2]
    obtain ⟨u, hu, hbad⟩ := h
    exact fun hall => hall u hu hbad
  have htable : BulkRight choice workspaceId updates t ↔
      t.map (fun r => r) = t.map (eachRow workspaceId updates) := by
    rw [List.map_id', ← updateEach_rows]
    constructor
    · intro hright
      rw [← hright.table, bulk_of_refused choice t h]
    · intro heq
      refine ⟨?_, untouched_bulk choice workspaceId updates t, fun hok => absurd hok hthrows⟩
      rw [bulk_of_refused choice t h, ← heq]
  rw [htable, List.map_inj_left]
  apply forall₂_congr
  intro r _
  unfold eachRow
  split
  · next hws =>
    cases hlast : (costsOf (accepted updates) r.id).getLast? with
    | none => simp
    | some last => simp [StoredProduct.ext_iff, hws, eq_comm]
  · next hws => simp [hws]

theorem bulkRight_iff (workspaceId : ι) (updates : List (CogsUpdate ι))
    (t : List (StoredProduct ι α)) :
    (∀ choice, BulkRight choice workspaceId updates t) ↔ BulkCondition workspaceId updates t := by
  by_cases hrefused : ∃ u ∈ updates, Refused u
  · have hnot : ¬ ∀ u ∈ updates, ¬ Refused u := fun hall =>
      hrefused.elim fun u hu => hall u hu.1 hu.2
    simp only [bulkRight_of_refused_iff _ t hrefused, BulkCondition, hrefused, hnot, true_imp_iff,
      false_imp_iff, and_true]
    exact ⟨fun h => h fun _ => 0, fun h _ => h⟩
  · have hok : ∀ u ∈ updates, ¬ Refused u := fun u hu hbad => hrefused ⟨u, hu, hbad⟩
    have hcondition : BulkCondition workspaceId updates t ↔ ∀ r ∈ t, r.workspaceId = workspaceId →
        EntriesFit r.costMu (costsOf (accepted updates) r.id) := by
      simp only [BulkCondition, hrefused, false_imp_iff, true_and, EntriesFit]
      exact forall₂_congr fun r _ => forall_congr' fun _ => forall₂_congr fun last _ =>
        ⟨fun h => h hok, fun h _ => h⟩
    rw [hcondition]
    constructor
    · intro h r hr
      apply (row_right_iff workspaceId updates r).mp
      intro choice
      exact (bulkRight_of_accepted_iff choice t hok).mp (h choice) r hr
    · intro h choice
      rw [bulkRight_of_accepted_iff choice t hok]
      intro r hr
      exact (row_right_iff workspaceId updates r).mpr (h r hr) choice

end

/-- A product that costs one. -/
def onePaisa : List (StoredProduct Nat Unit) := [⟨1, 0, some 1, ()⟩]

/-- Cleared and then set to five, it is left without a cost and counted twice. -/
theorem cleared_then_set :
    bulkUpdateProductCogs (fun _ => 0) 0 [⟨1, none⟩, ⟨1, some 5⟩] onePaisa =
        ([⟨1, 0, none, ()⟩], .ok ⟨2, 2⟩) ∧
      (updateEach 0 [⟨1, none⟩, ⟨1, some 5⟩] onePaisa).1 = [⟨1, 0, some 5, ()⟩] ∧
      ¬ ∀ choice, BulkRight choice 0 [⟨1, none⟩, ⟨1, some 5⟩] onePaisa := by
  have hbulk : bulkUpdateProductCogs (fun _ => 0) 0 [⟨1, none⟩, ⟨1, some 5⟩] onePaisa =
      ([⟨1, 0, none, ()⟩], .ok ⟨2, 2⟩) := by rfl
  have heach : (updateEach 0 [⟨1, none⟩, ⟨1, some 5⟩] onePaisa).1 = [⟨1, 0, some 5, ()⟩] := by
    rfl
  refine ⟨hbulk, heach, fun h => ?_⟩
  have htable := (h fun _ => 0).table
  rw [hbulk, heach] at htable
  exact absurd htable (by decide)

end BrainV2.Analytics
