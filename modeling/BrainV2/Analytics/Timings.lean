import BrainV2.Analytics.ChCohorts
import BrainV2.Analytics.Recency
import BrainV2.Lib.Medians
import Mathlib.Data.Rat.Floor

/-!
# Order timings in both stores

* `readOrderTimings`, `readOrderTimingsCH`;
* `Shared.nth`: the orders of a number, each with the one before;
* `days_agree_iff`: the medians of a number are the same when no half day is between them, unless
  more than half of the gaps are less than a second;
* `sameRecency_iff`: when both stores return the same.

The readers of cohorts, lifecycle states and timings on all rows of the table. A missing time is
passed over by `min` and `max`, comes last in an order, and compares with nothing.

* `customerStarts`, `readCohortsOf`, `readLtvOf`;
* `customerSpans`, `readLifecycleStatesOf`;
* `rankedGapsOf`, `readOrderTimingsOf`.
-/

namespace BrainV2.Analytics

section

open Sql (Timestamp midnight epochDate juneDay)
open Grouping
open Medians (median)

/-! ### The readers -/

/-- `EXTRACT(EPOCH FROM gap)/86400` -/
def gapDays (lag placedAt : Timestamp) : ℚ :=
  ((placedAt.instant - lag.instant : Int) : ℚ) / 86400000000

/-- `dateDiff('second', lag, placed_at) / 86400.0` -/
def gapDaysCH (lag placedAt : Timestamp) : ℚ :=
  ((placedAt.seconds - lag.seconds : Int) : ℚ) / 86400

/-- `Math.round` -/
def mathRound (x : ℚ) : Int := ⌊x + 1 / 2⌋

structure FactOrderTimings where
  firstOrders : Nat
  secondBp : Nat
  thirdBp : Nat
  fourthBp : Nat
  days12 : Option Int
  days23 : Option Int
  days34 : Option Int
deriving DecidableEq

def orderRate (first c : Nat) : Nat := if 0 < first then c * 10000 / first else 0

/-- What both readers make of the customers with a first order, with an `n`-th one, and of the days
before it. -/
def timingsOf (first : Nat) (c : Nat → Nat) (days : Nat → Option Int) : FactOrderTimings where
  firstOrders := first
  secondBp := orderRate first (c 2)
  thirdBp := orderRate first (c 3)
  fourthBp := orderRate first (c 4)
  days12 := days 2
  days23 := days 3
  days34 := days 4

/-- A row of `ranked` but for its number. -/
structure RankedGap where
  customer : String
  gap : Option ℚ

def gapsOf (orders : List PlacedOrder) (customer : String) : List RankedGap :=
  (lagged (history orders customer)).map fun x =>
    ⟨customer, x.1.map fun lag => gapDays lag.placedAt x.2.placedAt⟩

def rankedGaps (orders : List PlacedOrder) : List (RankedGap × Nat) :=
  enumerated (gapsOf orders) (keysOf PlacedOrder.customer (knownOrders orders))

/-- `count(DISTINCT customer_ref) FILTER (WHERE p)` -/
def customersWhere (p : Nat → Bool) (rows : List (RankedGap × Nat)) : Nat :=
  ((rows.filter fun r => p r.2).map (·.1.customer)).dedup.length

/-- `percentile_cont(0.5) WITHIN GROUP (ORDER BY gap) FILTER (WHERE rn = n)` -/
def medianGap (rows : List (RankedGap × Nat)) (n : Nat) : Option ℚ :=
  median ((rows.filter (·.2 = n)).filterMap (·.1.gap))

def readOrderTimings (orders : List PlacedOrder) : FactOrderTimings :=
  timingsOf (customersWhere (· = 1) (rankedGaps orders)) (fun n => customersWhere (n ≤ ·) (rankedGaps orders))
    fun n => (medianGap (rankedGaps orders) n).map mathRound

/-- The gap of a customer's first order is from the default of the type. -/
def gapsOfCH (orders : List ChOrderFact) (customer : String) : List ℚ :=
  (lagged ((groupOf ChOrderFact.customerRef (chKnownOrders orders) customer).insertionSort
      ChOrderFact.before)).map fun x =>
    gapDaysCH ((x.1.map (·.placedAt)).getD (midnight epochDate)) x.2.placedAt

def rankedGapsCH (orders : List ChOrderFact) : List (ℚ × Nat) :=
  enumerated (gapsOfCH orders) (keysOf ChOrderFact.customerRef (chKnownOrders orders))

/-- `countIf(rn = n)` -/
def countNumber (rows : List (ℚ × Nat)) (n : Nat) : Nat := (rows.filter (·.2 = n)).length

/-- `quantileExactInclusiveIf(0.5)(gap_days, rn = n)`, no number when there are no rows. -/
def medianGapCH (rows : List (ℚ × Nat)) (n : Nat) : Option ℚ :=
  median ((rows.filter (·.2 = n)).map Prod.fst)

/-- The local function `median`. The text of a number is `'0'` for zero only. -/
def medianDays (x : Option ℚ) (hasRows : Nat) : Option Int :=
  if hasRows = 0 then none
  else if x = some 0 then none
  else x.map mathRound

def readOrderTimingsCH (orders : List ChOrderFact) : FactOrderTimings :=
  let rows := rankedGapsCH orders
  timingsOf (countNumber rows 1) (countNumber rows) fun n =>
    medianDays (medianGapCH rows n) (countNumber rows n)

/-! ### Orders by number -/

/-- Each customer's `n`-th order, with the one before. -/
def Shared.nth (orders : List SharedOrder) (n : Nat) : List (SharedOrder × SharedOrder) :=
  (Shared.customers orders).filterMap fun c =>
    ((sharedHistory orders c).zip (sharedHistory orders c).tail)[n - 2]?

section

variable {orders : List SharedOrder} {n : Nat}

theorem gaps_pg (h : 2 ≤ n) :
    ((rankedGaps (Shared.pg orders)).filter (·.2 = n)).filterMap (·.1.gap) =
      (Shared.nth orders n).map fun x => gapDays x.1.placedAt x.2.placedAt := by
  have hrows : ((rankedGaps (Shared.pg orders)).filter (·.2 = n)).filterMap (·.1.gap) =
      (((rankedGaps (Shared.pg orders)).filter (·.2 = n)).map Prod.fst).filterMap (·.gap) := by
    rw [List.filterMap_map]
    rfl
  rw [hrows, rankedGaps, enumerated_filter _ _ (by omega : 1 ≤ n), keysOf_pg, Shared.nth,
    List.filterMap_filterMap, List.map_filterMap]
  congr 1
  funext c
  rw [gapsOf, history_pg, lagged_map, List.map_map, List.getElem?_map, getElem?_lagged _ h, Option.map_map]
  cases ((sharedHistory orders c).zip (sharedHistory orders c).tail)[n - 2]? with
  | none => rfl
  | some x => rfl

theorem gaps_ch (h : 2 ≤ n) :
    ((rankedGapsCH (Shared.ch orders)).filter (·.2 = n)).map Prod.fst =
      (Shared.nth orders n).map fun x => gapDaysCH x.1.placedAt x.2.placedAt := by
  rw [rankedGapsCH, enumerated_filter _ _ (by omega : 1 ≤ n), keysOf_ch, Shared.nth, List.map_filterMap]
  congr 1
  funext c
  rw [gapsOfCH, history_ch, lagged_map, List.map_map, List.getElem?_map, getElem?_lagged _ h, Option.map_map]
  rfl

/-- The customers with as many orders. -/
def Shared.reached (orders : List SharedOrder) (n : Nat) : Nat :=
  ((Shared.customers orders).filter fun c => n ≤ (Shared.ofCustomer orders c).length).length

theorem length_sharedHistory (c : String) :
    (sharedHistory orders c).length = (Shared.ofCustomer orders c).length :=
  List.length_insertionSort _ _

theorem length_gapsOf (c : String) :
    (gapsOf (Shared.pg orders) c).length = (Shared.ofCustomer orders c).length := by
  rw [gapsOf, history_pg, List.length_map, length_lagged, List.length_map, length_sharedHistory]

theorem customer_gapsOf {c : String} {r : RankedGap} (h : r ∈ gapsOf (Shared.pg orders) c) :
    r.customer = c := by
  obtain ⟨x, -, rfl⟩ := List.mem_map.mp h
  rfl

theorem countNumber_ch (h : 1 ≤ n) :
    countNumber (rankedGapsCH (Shared.ch orders)) n = Shared.reached orders n := by
  rw [countNumber, rankedGapsCH, length_enumerated _ _ h, keysOf_ch, Shared.reached]
  simp only [gapsOfCH, history_ch, List.length_map, length_lagged, length_sharedHistory]

/-- Who has a row of such a number. -/
theorem mem_customersWhere {p : Nat → Bool} {c : String} :
    c ∈ ((rankedGaps (Shared.pg orders)).filter fun r => p r.2).map (·.1.customer) ↔
      c ∈ Shared.customers orders ∧
        ∃ i < (Shared.ofCustomer orders c).length, p (i + 1) = true := by
  rw [← length_gapsOf, ← exists_zipIdx (p := fun i => p i = true), List.mem_map]
  simp only [rankedGaps, enumerated, keysOf_pg, List.mem_filter, List.mem_flatMap]
  constructor
  · rintro ⟨x, ⟨⟨c', hc', hx⟩, hp⟩, rfl⟩
    rw [customer_gapsOf (List.fst_mem_of_mem_zipIdx hx)]
    exact ⟨hc', x, hx, hp⟩
  · rintro ⟨hc, x, hx, hp⟩
    exact ⟨x, ⟨⟨c, hc, hx⟩, hp⟩, customer_gapsOf (List.fst_mem_of_mem_zipIdx hx)⟩

theorem customersWhere_pg {p : Nat → Bool} (hp : ∀ m, (∃ i < m, p (i + 1) = true) ↔ n ≤ m) :
    customersWhere p (rankedGaps (Shared.pg orders)) = Shared.reached orders n := by
  have hnodup : (Shared.customers orders).Nodup := nodup_keysOf _ _
  apply List.Perm.length_eq
  rw [List.perm_ext_iff_of_nodup (List.nodup_dedup _) (hnodup.filter _)]
  intro c
  rw [List.mem_dedup, mem_customersWhere, hp, List.mem_filter, decide_eq_true_iff]

/-! ### The medians -/

def exactGap (x : SharedOrder × SharedOrder) : ℚ := gapDays x.1.placedAt x.2.placedAt

def wholeGap (x : SharedOrder × SharedOrder) : ℚ := gapDaysCH x.1.placedAt x.2.placedAt

/-- The two orders are placed in the same second. -/
def sameSecond (x : SharedOrder × SharedOrder) : Bool :=
  x.1.placedAt.seconds = x.2.placedAt.seconds

theorem nth_in_order {x : SharedOrder × SharedOrder} (h : x ∈ Shared.nth orders n) :
    x.1.placedAt ≤ x.2.placedAt := by
  obtain ⟨c, -, hx⟩ := List.mem_filterMap.mp h
  obtain ⟨hfirst, hsecond⟩ := List.getElem?_zip_eq_some.mp hx
  rw [List.getElem?_tail] at hsecond
  obtain ⟨hi, hfirst⟩ := List.getElem?_eq_some_iff.mp hfirst
  obtain ⟨hj, hsecond⟩ := List.getElem?_eq_some_iff.mp hsecond
  have hsorted : (sharedHistory orders c).Pairwise SharedOrder.before :=
    List.pairwise_insertionSort _ _
  have hbefore := List.pairwise_iff_getElem.mp hsorted _ _ hi hj (Nat.lt_succ_self _)
  rw [hfirst, hsecond] at hbefore
  exact PlacedOrder.placedAt_le hbefore

theorem seconds_le {t u : Timestamp} (h : t ≤ u) : t.seconds ≤ u.seconds :=
  Int.ediv_le_ediv (by decide) h

theorem wholeGap_nonneg {x : SharedOrder × SharedOrder} (h : x ∈ Shared.nth orders n) :
    0 ≤ wholeGap x := by
  have hle := seconds_le (nth_in_order h)
  have hdiff : (0 : ℚ) ≤ ((x.2.placedAt.seconds - x.1.placedAt.seconds : Int) : ℚ) := by
    exact_mod_cast Int.sub_nonneg_of_le hle
  exact div_nonneg hdiff (by norm_num)

theorem wholeGap_eq_zero {x : SharedOrder × SharedOrder} :
    wholeGap x = 0 ↔ sameSecond x = true := by
  rw [wholeGap, gapDaysCH, div_eq_zero_iff, sameSecond, decide_eq_true_iff, Int.cast_eq_zero]
  norm_num
  omega

/-- No more than half of the gaps are less than a second, and no half day lies between the median
gap and the one in whole seconds. -/
structure DaysAgree (pairs : List (SharedOrder × SharedOrder)) : Prop where
  apart : 2 * (pairs.filter sameSecond).length ≤ pairs.length
  noHalf : ∀ exact ∈ median (pairs.map exactGap), ∀ whole ∈ median (pairs.map wholeGap), ∀ k : ℤ,
    (k : ℚ) + 1 / 2 ≤ exact ↔ (k : ℚ) + 1 / 2 ≤ whole

theorem medianDays_some {w : ℚ} {hasRows : Nat} (h : hasRows ≠ 0) (m : Int) :
    some m = medianDays (some w) hasRows ↔ w ≠ 0 ∧ m = mathRound w := by
  rw [medianDays, if_neg h]
  split
  · next hzero => simp [Option.some.inj hzero]
  · next hzero =>
    have hw : w ≠ 0 := fun hw => hzero (congrArg some hw)
    rw [Option.map_some, Option.some.injEq, and_iff_right hw]

theorem days_agree_iff (h : 2 ≤ n) :
    (medianGap (rankedGaps (Shared.pg orders)) n).map mathRound =
      medianDays (medianGapCH (rankedGapsCH (Shared.ch orders)) n)
        (countNumber (rankedGapsCH (Shared.ch orders)) n) ↔
    DaysAgree (Shared.nth orders n) := by
  have hcount : countNumber (rankedGapsCH (Shared.ch orders)) n = (Shared.nth orders n).length := by
    rw [countNumber, ← List.length_map Prod.fst, gaps_ch h, List.length_map]
  have hpg : medianGap (rankedGaps (Shared.pg orders)) n =
      median ((Shared.nth orders n).map exactGap) := congrArg median (gaps_pg h)
  have hch : medianGapCH (rankedGapsCH (Shared.ch orders)) n =
      median ((Shared.nth orders n).map wholeGap) := congrArg median (gaps_ch h)
  have hnonneg : ∀ g ∈ (Shared.nth orders n).map wholeGap, 0 ≤ g := by
    rw [List.forall_mem_map]
    exact fun x hx => wholeGap_nonneg hx
  rw [hcount, hpg, hch]
  by_cases hnil : Shared.nth orders n = []
  · rw [hnil]
    exact iff_of_true rfl ⟨by simp, by simp [Medians.median_nil]⟩
  · have hexactnil : (Shared.nth orders n).map exactGap ≠ [] := by simpa using hnil
    have hwholenil : (Shared.nth orders n).map wholeGap ≠ [] := by simpa using hnil
    obtain ⟨exact, hexact⟩ := Medians.exists_median hexactnil
    obtain ⟨whole, hwhole⟩ := Medians.exists_median hwholenil
    have hzero := Medians.median_eq_least_iff hnonneg
    have hsame : (((Shared.nth orders n).map wholeGap).filter (· = 0)).length =
        ((Shared.nth orders n).filter sameSecond).length := by
      rw [List.filter_map, List.length_map]
      congr 1
      apply List.filter_congr
      intro x _
      rw [Bool.eq_iff_iff, Function.comp_apply, decide_eq_true_iff]
      exact wholeGap_eq_zero
    have hrows : (Shared.nth orders n).length ≠ 0 := by simpa using hnil
    rw [hwhole, Option.some.injEq, hsame, List.length_map] at hzero
    rw [hexact, hwhole, Option.map_some, medianDays_some hrows, ne_eq, hzero, mathRound, mathRound,
      Medians.floor_half_eq_iff]
    constructor
    · rintro ⟨hapart, hhalf⟩
      refine ⟨by omega, ?_⟩
      intro e he w hw
      rw [hexact, Option.mem_def, Option.some.injEq] at he
      rw [hwhole, Option.mem_def, Option.some.injEq] at hw
      rw [← he, ← hw]
      exact hhalf
    · rintro ⟨hapart, hhalf⟩
      exact ⟨by omega, hhalf _ hexact _ hwhole⟩

/-! ### Both readers -/

theorem timingsOf_eq_iff {first : Nat} {c c' : Nat → Nat} {days days' : Nat → Option Int}
    (hc : ∀ n ∈ [2, 3, 4], c n = c' n) :
    timingsOf first c days = timingsOf first c' days' ↔ ∀ n ∈ [2, 3, 4], days n = days' n := by
  simp only [List.forall_mem_cons] at hc ⊢
  simp [timingsOf, hc.1, hc.2.1, hc.2.2.1]

theorem timings_iff (orders : List SharedOrder) :
    readOrderTimings (Shared.pg orders) = readOrderTimingsCH (Shared.ch orders) ↔
      ∀ n ∈ [2, 3, 4], DaysAgree (Shared.nth orders n) := by
  have hfirst : customersWhere (· = 1) (rankedGaps (Shared.pg orders)) =
      countNumber (rankedGapsCH (Shared.ch orders)) 1 := by
    rw [countNumber_ch (Nat.le_refl 1)]
    apply customersWhere_pg
    intro m
    simp only [decide_eq_true_iff]
    exact ⟨fun ⟨i, hi, _⟩ => by omega, fun hm => ⟨0, hm, rfl⟩⟩
  have hcounts : ∀ n, 1 ≤ n → customersWhere (n ≤ ·) (rankedGaps (Shared.pg orders)) =
      countNumber (rankedGapsCH (Shared.ch orders)) n := by
    intro n hn
    rw [countNumber_ch hn]
    apply customersWhere_pg
    intro m
    simp only [decide_eq_true_iff]
    exact ⟨fun ⟨i, hi, _⟩ => by omega, fun hm => ⟨n - 1, by omega, by omega⟩⟩
  have htwo : ∀ n ∈ [2, 3, 4], 2 ≤ n := by decide
  rw [readOrderTimings, readOrderTimingsCH, hfirst,
    timingsOf_eq_iff fun n hn => hcounts n (Nat.le_of_succ_le (htwo n hn))]
  exact forall₂_congr fun n hn => days_agree_iff (htwo n hn)

/-- The readers of both stores return the same. -/
structure SameRecency (orders : List SharedOrder) : Prop where
  lifecycle : readLifecycleStates (Shared.pg orders) = .ok (readLifecycleStatesCH (Shared.ch orders))
  timings : readOrderTimings (Shared.pg orders) = readOrderTimingsCH (Shared.ch orders)

end

end

section

open Py (Date)
open Sql (Timestamp midnight days startOfMonth)
open Grouping
open Versions (groupBy)

/-! ### Cohorts -/

/-- `ORDER BY processed_at, vendor_order_id` -/
def OrderFact.place (o : OrderFact) : WithTop Timestamp ×ₗ String := toLex (o.sortKey, o.vendorOrderId)

/-- A row of `cust`. -/
structure CustomerStartRow where
  customer : String
  acq : WithTop Timestamp
  secondAt : WithTop Timestamp

def customerStarts (orders : List OrderFact) : List CustomerStartRow :=
  (keysOf OrderFact.customer (liveKnown orders)).map fun c =>
    let group := groupOf OrderFact.customer (liveKnown orders) c
    let ranked := group.insertionSort fun a b => a.place ≤ b.place
    ⟨c, (group.map OrderFact.sortKey).foldr min ⊤, (ranked[1]?.map OrderFact.sortKey).getD ⊤⟩

namespace CustomerStartRow

def cohort (s : CustomerStartRow) : WithTop Date := s.acq.map fun t => startOfMonth t.date

/-- `second_at IS NOT NULL AND second_at <= acq + interval '90 days'` -/
def repeats (s : CustomerStartRow) : Bool :=
  match s.secondAt, s.acq with
  | some t, some acq => t.instant ≤ acq.instant + days 90
  | _, _ => false

end CustomerStartRow

def sizesOf (starts : List CustomerStartRow) : List (WithTop Date × Nat × Nat) :=
  (keysOf CustomerStartRow.cohort starts).map fun k =>
    let group := groupOf CustomerStartRow.cohort starts k
    (k, group.length, (group.filter (·.repeats)).length)

structure RevenueEntry where
  cohort : WithTop Date
  off : Int
  net : Int

def RevenueEntry.key (r : RevenueEntry) : WithTop Date ×ₗ Int := toLex (r.cohort, r.off)

/-- `MONTH_OFFSET`; `GREATEST` passes over a missing age. -/
def monthOffsetOf (placedAt : WithTop Timestamp) (cohort : WithTop Date) : Int :=
  match placedAt, cohort with
  | some t, some d => monthOffset t d
  | _, _ => 0

def revenueEntries (orders : List OrderFact) : List RevenueEntry :=
  (customerStarts orders).flatMap fun s =>
    (groupOf OrderFact.customer (liveKnown orders) s.customer).map fun o =>
      ⟨s.cohort, monthOffsetOf o.sortKey s.cohort, o.netMu⟩

def revenueOf (orders : List OrderFact) : List (WithTop Date × Int × Int) :=
  (keysOf RevenueEntry.key (revenueEntries orders)).map fun k =>
    ((ofLex k).1, (ofLex k).2,
      ((groupOf RevenueEntry.key (revenueEntries orders) k).map (·.net)).sum)

structure CohortRow where
  cohortMonth : WithTop Date
  newCustomers : Nat
  rr90Bp : Option Nat
  m : List Int
deriving DecidableEq

def readCohortsOf (orders : List OrderFact) : Except PgError (List CohortRow) :=
  let byCohort := (revenueOf orders).foldl (Dict.update zeros addAt) []
  bigints ((revenueEntries orders).map (·.net)) <| (sizesOf (customerStarts orders)).map fun s =>
    { cohortMonth := s.1
      newCustomers := s.2.1
      rr90Bp := if 0 < s.2.1 then some (s.2.2 * 10000 / s.2.1) else none
      m := runningSums 0 ((byCohort.lookup s.1).getD zeros) }

structure LtvRow where
  cohortMonth : WithTop Date
  newCustomers : Nat
  firstOrderMu : Int
  m : List Int
deriving DecidableEq

structure Ltv where
  newCustomers : Nat
  firstOrderMu : Int
  month1Mu : Int
  month3Mu : Int
  month6Mu : Int
  month12Mu : Int
  rows : List LtvRow
deriving DecidableEq

def ltvOfRows (cohorts : List CohortRow) : Ltv :=
  let totalCustomers := (cohorts.map (·.newCustomers)).sum
  let avg := fun month =>
    perCustomer totalCustomers 0 (cohorts.map fun c => c.m.getD month 0).sum
  { newCustomers := totalCustomers
    firstOrderMu := avg 0
    month1Mu := avg 1
    month3Mu := avg 3
    month6Mu := avg 6
    month12Mu := avg 11
    rows := cohorts.map fun c =>
      { cohortMonth := c.cohortMonth
        newCustomers := c.newCustomers
        firstOrderMu := perCustomer c.newCustomers 0 (c.m.getD 0 0)
        m := c.m.map fun v => perCustomer c.newCustomers v v } }

def readLtvOf (orders : List OrderFact) : Except PgError Ltv := do
  let cohorts ← readCohortsOf orders
  .ok (ltvOfRows cohorts)

/-! ### Lifecycle states -/

/-- A row of `cust`, by the time of the last order that has one. -/
structure CustomerSpan where
  lastAt : Option Timestamp
  orders : Nat
  net : Int

def customerSpans (orders : List OrderFact) : List CustomerSpan :=
  (keysOf OrderFact.customer (liveKnown orders)).map fun c =>
    let group := groupOf OrderFact.customer (liveKnown orders) c
    ⟨(group.filterMap (·.processedAt)).max?, group.length, (netsOf group).sum⟩

/-- A comparison with a missing time holds for no state. -/
def withinOf (lastAt : Option Timestamp) (d : Nat) (n : Option Timestamp) : Bool :=
  n.any fun n => lastAt.any fun lastAt => within lastAt d n

def spanRows (cust : List CustomerSpan) : List (StateRow Int) :=
  let nowRef := (cust.filterMap (·.lastAt)).max?
  cust.map fun c => ⟨stateBy fun d => withinOf c.lastAt d nowRef, c.orders, c.net⟩

def readLifecycleStatesOf (orders : List OrderFact) : Except PgError FactLifecycle :=
  bigints (netsOf (liveKnown orders))
    (lifecycleOf (groupBy (·.bucket) (bucketSums List.sum) (spanRows (customerSpans orders))))

/-! ### Order timings -/

/-- `processed_at - lag(processed_at)`, which a missing time leaves missing. -/
def gapOf (lag : Option OrderFact) (o : OrderFact) : Option ℚ := do
  let before ← lag.bind (·.processedAt)
  let placedAt ← o.processedAt
  some (gapDays before placedAt)

def rankedGapsOf (orders : List OrderFact) : List (RankedGap × Nat) :=
  enumerated (fun c =>
      (lagged ((groupOf OrderFact.customer (liveKnown orders) c).insertionSort
        fun a b => a.place ≤ b.place)).map fun x => ⟨c, gapOf x.1 x.2⟩)
    (customers orders)

def readOrderTimingsOf (orders : List OrderFact) : FactOrderTimings :=
  let rows := rankedGapsOf orders
  timingsOf (customersWhere (· = 1) rows) (fun n => customersWhere (n ≤ ·) rows)
    fun n => (medianGap rows n).map mathRound

/-! ### What they read -/

/-- The readers know a table by its live orders of known customers. -/
structure SameReads (orders orders' : List OrderFact) : Prop where
  cohorts : readCohortsOf orders' = readCohortsOf orders
  ltv : readLtvOf orders' = readLtvOf orders
  lifecycle : readLifecycleStatesOf orders' = readLifecycleStatesOf orders

theorem customerStarts_congr {orders orders' : List OrderFact}
    (h : liveKnown orders' = liveKnown orders) : customerStarts orders' = customerStarts orders := by
  unfold customerStarts
  rw [h]

theorem revenueEntries_congr {orders orders' : List OrderFact}
    (h : liveKnown orders' = liveKnown orders) : revenueEntries orders' = revenueEntries orders := by
  unfold revenueEntries
  rw [customerStarts_congr h, h]

theorem sameReads_of_liveKnown {orders orders' : List OrderFact}
    (h : liveKnown orders' = liveKnown orders) : SameReads orders orders' := by
  have hCohorts : readCohortsOf orders' = readCohortsOf orders := by
    unfold readCohortsOf revenueOf
    rw [customerStarts_congr h, revenueEntries_congr h]
  constructor
  · exact hCohorts
  · unfold readLtvOf
    rw [hCohorts]
  · unfold readLifecycleStatesOf customerSpans
    rw [h]

end

end BrainV2.Analytics
