import BrainV2.Analytics.ChFacts
import BrainV2.Analytics.Conservation

/-!
# Cohorts in both stores

* `readCohortsCH`, `readLtvCH`;
* `chCohortSizes_ch`: the sizes are the same;
* `chRevenueRows_ch`: and the revenue of each order, in 64 bits;
* `cohorts_agree`: the answers are, where the sums fit.
-/

namespace BrainV2.Analytics

open Py (Date)
open Sql (Timestamp midnight juneDay days startOfMonth ageMonths dateDiffMonth)
open Grouping
open Wrapping (Fits)

/-! ### The statements -/

/-- A row of `ranked`. -/
structure ChRanked where
  order : ChOrderFact
  rn : Nat
  acq : Timestamp

namespace ChRanked

def cohort (r : ChRanked) : Date := startOfMonth r.acq.date

/-- `rn = 2 AND placed_at <= acq + INTERVAL 90 DAY` -/
def repeats (r : ChRanked) : Bool :=
  r.rn = 2 ∧ r.order.placedAt.instant ≤ r.acq.instant + days 90

end ChRanked

def chRanked (orders : List ChOrderFact) : List ChRanked :=
  (keysOf ChOrderFact.customerRef (chKnownOrders orders)).flatMap fun c =>
    match chFirstAt orders c with
    | none => []
    | some acq =>
      (((groupOf ChOrderFact.customerRef (chKnownOrders orders) c).insertionSort
        ChOrderFact.before).zipIdx 1).map fun x => ⟨x.1, x.2, acq⟩

def chCohortSizes (orders : List ChOrderFact) : List (Date × Nat × Nat) :=
  (keysOf ChRanked.cohort (chRanked orders)).map fun k =>
    let group := groupOf ChRanked.cohort (chRanked orders) k
    (k, (group.filter (·.rn = 1)).length, (group.filter (·.repeats)).length)

structure ChRevenueRow where
  cohort : Date
  off : Int
  net : Int64

def ChRevenueRow.key (r : ChRevenueRow) : Date ×ₗ Int := toLex (r.cohort, r.off)

/-- `MONTH_OFFSET_CH` -/
def monthOffsetCH (cohortDt placedOn : Date) : Int :=
  min 11 (max 0 (dateDiffMonth cohortDt placedOn))

/-- The orders joined with `fo`. -/
def chRevenueRows (orders : List ChOrderFact) : List ChRevenueRow :=
  (keysOf ChOrderFact.customerRef (chKnownOrders orders)).flatMap fun c =>
    match chFirstAt orders c with
    | none => []
    | some first =>
      (groupOf ChOrderFact.customerRef (chKnownOrders orders) c).map fun o =>
        ⟨startOfMonth first.date, monthOffsetCH first.date o.placedAt.date, o.netMu⟩

def chCohortRevenue (orders : List ChOrderFact) : List (Date × Int × Int) :=
  (keysOf ChRevenueRow.key (chRevenueRows orders)).map fun k =>
    ((ofLex k).1, (ofLex k).2,
      sumInt64 ((groupOf ChRevenueRow.key (chRevenueRows orders) k).map (·.net)))

def readCohortsCH (orders : List ChOrderFact) : List FactCohortRow :=
  cohortRows (chCohortSizes orders) (chCohortRevenue orders)

def readLtvCH (orders : List ChOrderFact) : FactLtv := ltvOf (readCohortsCH orders)

/-! ### The same customers -/

section

variable {orders : List SharedOrder} {s : CustomerStart} {c : String}

/-- The orders of a customer, by their places. -/
def sharedHistory (orders : List SharedOrder) (c : String) : List SharedOrder :=
  (Shared.ofCustomer orders c).insertionSort SharedOrder.before

theorem history_pg : history (Shared.pg orders) c = (sharedHistory orders c).map (·.placed) := by
  rw [history, groupOf_pg, sharedHistory]
  exact (List.map_insertionSort SharedOrder.before PlacedOrder.before (·.placed) _
    fun _ _ _ _ => Iff.rfl).symm

theorem history_ch : (groupOf ChOrderFact.customerRef (chKnownOrders (Shared.ch orders)) c
    ).insertionSort ChOrderFact.before = (sharedHistory orders c).map (·.ch) := by
  rw [groupOf_ch, sharedHistory]
  exact (List.map_insertionSort SharedOrder.before ChOrderFact.before (·.ch) _
    fun _ _ _ _ => Iff.rfl).symm

theorem min_placedAt_pg :
    ((groupOf PlacedOrder.customer (knownOrders (Shared.pg orders)) c).map (·.placedAt)).min? =
      Shared.firstAt orders c := by
  rw [groupOf_pg, Shared.firstAt, List.map_map]
  rfl

/-- What is made of each customer's group in ClickHouse is made of the customers' starts. -/
theorem flatMap_starts {β : Type} (f : String → Timestamp → List β) :
    ((keysOf ChOrderFact.customerRef (chKnownOrders (Shared.ch orders))).flatMap fun c =>
      match chFirstAt (Shared.ch orders) c with
      | none => []
      | some acq => f c acq) =
      (starts (Shared.pg orders)).flatMap fun s => f s.customer s.acq := by
  rw [starts, keysOf_ch, keysOf_pg]
  induction Shared.customers orders with
  | nil => rfl
  | cons c cs ih =>
    rw [List.flatMap_cons, ih, List.filterMap_cons, chFirstAt_ch, min_placedAt_pg]
    cases Shared.firstAt orders c with
    | none => rfl
    | some acq => rfl

/-- The rows of `ranked` of one customer. -/
def rankedOf (orders : List SharedOrder) (s : CustomerStart) : List ChRanked :=
  ((sharedHistory orders s.customer).zipIdx 1).map fun x => ⟨x.1.ch, x.2, s.acq⟩

theorem chRanked_ch :
    chRanked (Shared.ch orders) = (starts (Shared.pg orders)).flatMap (rankedOf orders) := by
  rw [chRanked, flatMap_starts fun c acq => (((groupOf ChOrderFact.customerRef
    (chKnownOrders (Shared.ch orders)) c).insertionSort ChOrderFact.before).zipIdx 1).map
      fun x => (⟨x.1, x.2, acq⟩ : ChRanked)]
  simp only [history_ch, List.zipIdx_map, List.map_map]
  rfl

theorem sharedHistory_of_start (h : s ∈ starts (Shared.pg orders)) :
    ∃ first rest, sharedHistory orders s.customer = first :: rest := by
  obtain ⟨first, rest, hhistory, -⟩ := history_of_start h
  rw [history_pg] at hhistory
  obtain ⟨o, os, hshared, -⟩ := List.map_eq_cons_iff.mp hhistory
  exact ⟨o, os, hshared⟩

variable (orders s) in
/-- The rows of a number among those of a customer, as far as a condition on the order goes. -/
theorem length_rankedOf {n : Nat} (hn : 1 ≤ n) (p : ChOrderFact → Bool) :
    ((rankedOf orders s).filter fun r => r.rn = n && p r.order).length =
      (((sharedHistory orders s.customer)[n - 1]?.toList).filter fun o => p o.ch).length := by
  rw [← filter_zipIdx _ 1 n hn, rankedOf, List.filter_map, List.length_map, List.filter_map,
    List.length_map, List.filter_filter]
  congr 1
  apply List.filter_congr
  intro x _
  simp [Bool.and_comm]

theorem secondAt_of_start (h : s ∈ starts (Shared.pg orders)) :
    s.secondAt = (sharedHistory orders s.customer)[1]?.map (·.placedAt) := by
  obtain ⟨c, -, hs⟩ := List.mem_filterMap.mp h
  obtain ⟨acq, -, rfl⟩ := Option.map_eq_some_iff.mp hs
  simp only
  rw [history_pg, List.getElem?_map, Option.map_map]
  rfl

theorem length_first_rankedOf (h : s ∈ starts (Shared.pg orders)) :
    ((rankedOf orders s).filter (·.rn = 1)).length = 1 := by
  obtain ⟨first, rest, hhistory⟩ := sharedHistory_of_start h
  have hlength := length_rankedOf orders s (Nat.le_refl 1) fun _ => true
  rw [hhistory] at hlength
  simpa using hlength

theorem length_repeats_rankedOf (h : s ∈ starts (Shared.pg orders)) :
    ((rankedOf orders s).filter (·.repeats)).length = if s.repeats then 1 else 0 := by
  have hacq : ∀ r ∈ rankedOf orders s, r.repeats =
      (decide (r.rn = 2) && decide (r.order.placedAt.instant ≤ s.acq.instant + days 90)) := by
    intro r hr
    obtain ⟨x, -, rfl⟩ := List.mem_map.mp hr
    exact Bool.decide_and _ _
  rw [List.filter_congr hacq, length_rankedOf orders s (by decide : 1 ≤ 2) fun o =>
    decide (o.placedAt.instant ≤ s.acq.instant + days 90), CustomerStart.repeats,
    secondAt_of_start h]
  cases (sharedHistory orders s.customer)[2 - 1]? with
  | none => rfl
  | some second =>
    by_cases hin : second.placedAt.instant ≤ s.acq.instant + days 90
    · have hch : second.ch.placedAt.instant ≤ s.acq.instant + days 90 := hin
      simp [hin, hch]
    · have hch : ¬ second.ch.placedAt.instant ≤ s.acq.instant + days 90 := hin
      simp [hin, hch]

theorem cohort_rankedOf : ∀ s ∈ starts (Shared.pg orders), ∀ r ∈ rankedOf orders s,
    r.cohort = s.cohort := by
  intro s _ r hr
  obtain ⟨x, -, rfl⟩ := List.mem_map.mp hr
  rfl

theorem rankedOf_ne_nil : ∀ s ∈ starts (Shared.pg orders), rankedOf orders s ≠ [] := by
  intro s hs hnil
  have hone := length_first_rankedOf hs
  rw [hnil] at hone
  cases hone

theorem chCohortSizes_ch : chCohortSizes (Shared.ch orders) = cohortSizes (Shared.pg orders) := by
  rw [chCohortSizes, cohortSizes, chRanked_ch, keysOf_flatMap cohort_rankedOf rankedOf_ne_nil]
  apply List.map_congr_left
  intro k _
  simp only [groupOf_flatMap cohort_rankedOf, List.filter_flatMap, List.length_flatMap]
  have hgroup : ∀ s ∈ groupOf CustomerStart.cohort (starts (Shared.pg orders)) k,
      s ∈ starts (Shared.pg orders) := fun s hs => (mem_groupOf.mp hs).1
  have hfirst : ∀ s ∈ groupOf CustomerStart.cohort (starts (Shared.pg orders)) k,
      ((rankedOf orders s).filter (·.rn = 1)).length = 1 :=
    fun s hs => length_first_rankedOf (hgroup s hs)
  have hrepeats : ∀ s ∈ groupOf CustomerStart.cohort (starts (Shared.pg orders)) k,
      ((rankedOf orders s).filter (·.repeats)).length = if s.repeats then 1 else 0 :=
    fun s hs => length_repeats_rankedOf (hgroup s hs)
  rw [List.map_congr_left hfirst, List.map_congr_left hrepeats, ← sum_map_filter]
  simp

/-! ### The same revenue -/

/-- A row of revenue, as ClickHouse has it. -/
def RevenueRow.ch (r : RevenueRow) : ChRevenueRow := ⟨r.cohort, r.off, Int64.ofInt r.net⟩

/-- Months counted from the first of a month and from a day in it are the same. -/
theorem chRevenueRows_ch :
    chRevenueRows (Shared.ch orders) = (revenueRows (Shared.pg orders)).map (·.ch) := by
  rw [chRevenueRows, flatMap_starts fun c first => (groupOf ChOrderFact.customerRef
    (chKnownOrders (Shared.ch orders)) c).map fun o => (⟨startOfMonth first.date,
      monthOffsetCH first.date o.placedAt.date, o.netMu⟩ : ChRevenueRow), revenueRows,
    List.map_flatMap]
  apply List.flatMap_congr
  intro s hs
  rw [groupOf_ch, groupOf_pg, List.map_map, List.map_map, List.map_map]
  apply List.map_congr_left
  intro o ho
  have hmem : o.placedAt ∈ (groupOf PlacedOrder.customer (knownOrders (Shared.pg orders))
      s.customer).map (·.placedAt) := by
    rw [groupOf_pg, List.map_map]
    exact List.mem_map.mpr ⟨o, ho, rfl⟩
  have hdate := Timestamp.date_le ((List.min?_eq_some_iff.mp (starts_acq hs)).2 _ hmem)
  have hoff : monthOffsetCH s.acq.date o.placedAt.date = monthOffset o.placedAt s.cohort := by
    rw [monthOffset, monthOffsetCH, CustomerStart.cohort, Sql.ageMonths_startOfMonth hdate]
  simp only [Function.comp_apply, RevenueRow.ch]
  rw [o.netMu_ch]
  exact congrArg (ChRevenueRow.mk s.cohort · (Int64.ofInt o.netMu)) hoff

/-- The net revenue of a month of a cohort. -/
def bucketMu (orders : List SharedOrder) (k : Date ×ₗ Int) : Int :=
  ((groupOf RevenueRow.key (revenueRows (Shared.pg orders)) k).map (·.net)).sum

def monthsOf (orders : List SharedOrder) : List (Date ×ₗ Int) :=
  keysOf RevenueRow.key (revenueRows (Shared.pg orders))

theorem chCohortRevenue_ch (h : ∀ k ∈ monthsOf orders, Fits (bucketMu orders k)) :
    chCohortRevenue (Shared.ch orders) = cohortRevenue (Shared.pg orders) := by
  rw [chCohortRevenue, cohortRevenue, chRevenueRows_ch, keysOf_map]
  apply List.map_congr_left
  intro k hk
  rw [groupOf_map, List.map_map]
  have hsum : (groupOf (ChRevenueRow.key ∘ RevenueRow.ch) (revenueRows (Shared.pg orders)) k).map
        ((·.net) ∘ RevenueRow.ch) =
      ((groupOf RevenueRow.key (revenueRows (Shared.pg orders)) k).map (·.net)).map Int64.ofInt := by
    rw [List.map_map]
    rfl
  rw [hsum, sumInt64_of_fits (h k hk)]

end

/-- The numbers of the orders that the databases compute fit in 64 bits. -/
structure RevenueFits (orders : List SharedOrder) : Prop where
  nets : ∀ o ∈ Shared.known orders, Fits o.netMu
  buckets : ∀ k ∈ monthsOf orders, Fits (bucketMu orders k)

theorem cohorts_agree (orders : List SharedOrder) (h : RevenueFits orders) :
    readCohorts (Shared.pg orders) = .ok (readCohortsCH (Shared.ch orders)) ∧
      readLtv (Shared.pg orders) = .ok (readLtvCH (Shared.ch orders)) := by
  have hnets : ∀ o ∈ knownOrders (Shared.pg orders), Fits o.order.netMu := by
    intro o ho
    rw [knownOrders_pg] at ho
    obtain ⟨shared, hshared, rfl⟩ := List.mem_map.mp ho
    exact h.nets shared hshared
  have hrows : readCohorts (Shared.pg orders) = .ok (readCohortsCH (Shared.ch orders)) := by
    rw [readCohorts_ok_iff, readCohortsCH, chCohortSizes_ch, chCohortRevenue_ch h.buckets]
    exact ⟨hnets, rfl⟩
  refine ⟨hrows, ?_⟩
  rw [readLtv, hrows]
  rfl

/-- Two orders of a customer, in June. -/
def juneOrders (first second : Int64) : List SharedOrder :=
  [sharedOrder "1" "7" (midnight (juneDay 10)) first,
    sharedOrder "2" "7" (midnight (juneDay 20)) second]

theorem june_cohorts_agree : RevenueFits (juneOrders 50000 20000) ∧
    readCohorts (Shared.pg (juneOrders 50000 20000)) =
      .ok (readCohortsCH (Shared.ch (juneOrders 50000 20000))) :=
  have h : RevenueFits (juneOrders 50000 20000) := ⟨by decide, by decide⟩
  ⟨h, (cohorts_agree _ h).1⟩

/-- The revenue of a month is wrapped in one of the stores. -/
theorem cohorts_wrap : ¬ ∀ orders : List SharedOrder,
    readCohorts (Shared.pg orders) = .ok (readCohortsCH (Shared.ch orders)) ∧
      readLtv (Shared.pg orders) = .ok (readLtvCH (Shared.ch orders)) := by
  intro h
  have hsame := congrArg Except.toOption (h (juneOrders 5000000000000000000 5000000000000000000)).1
  revert hsame
  decide

end BrainV2.Analytics
