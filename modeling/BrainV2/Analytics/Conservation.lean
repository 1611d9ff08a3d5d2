import BrainV2.Analytics.Cohorts

/-!
# Cohorts conserve customers and revenue

* `sum_newCustomers`, `sum_lastMonth`, `sum_firstMonth`: the sums of the cohort rows;
* `Conserves`: these, and the average of the first orders;
* `repeatMu`: what customers order again in their first month;
* `conserves_iff`: when it does not show in the average.
-/

namespace BrainV2.Analytics

open Py (Date)
open Sql (Timestamp midnight juneDay monthIndex startOfMonth ageMonths dateDiffMonth)
open Grouping
open Wrapping (Fits)

def knownCustomers (orders : List PlacedOrder) : List String :=
  keysOf PlacedOrder.customer (knownOrders orders)

/-- Revenue of the first live order of each customer. -/
def firstNetMu (orders : List PlacedOrder) : Int :=
  ((knownCustomers orders).map fun c => ((history orders c).head?.map (·.order.netMu)).getD 0).sum

/-- The orders of a history that follow the first, in its month. -/
def repeats : List PlacedOrder → List PlacedOrder
  | [] => []
  | first :: rest =>
    rest.filter fun o => monthIndex o.placedAt.date = monthIndex first.placedAt.date

/-- What customers order again in the month of their first order. -/
def repeatMu (orders : List PlacedOrder) : Int :=
  ((knownCustomers orders).map fun c =>
    ((repeats (history orders c)).map (·.order.netMu)).sum).sum

section

variable {orders : List PlacedOrder} {s : CustomerStart} {o : PlacedOrder} {c : String}

/-! ### Starts -/

theorem exists_acq (h : c ∈ knownCustomers orders) : ∃ acq,
    ((groupOf PlacedOrder.customer (knownOrders orders) c).map (·.placedAt)).min? = some acq := by
  cases hmin : ((groupOf PlacedOrder.customer (knownOrders orders) c).map (·.placedAt)).min? with
  | some acq => exact ⟨acq, rfl⟩
  | none =>
    rw [List.min?_eq_none_iff, List.map_eq_nil_iff, groupOf_eq_nil] at hmin
    exact absurd h hmin

theorem map_customer_starts : (starts orders).map (·.customer) = knownCustomers orders := by
  rw [starts, List.map_filterMap]
  have hall : ∀ c ∈ knownCustomers orders,
      Option.map CustomerStart.customer
        ((((groupOf PlacedOrder.customer (knownOrders orders) c).map (·.placedAt)).min?).map
          fun acq => (⟨c, acq, (history orders c)[1]?.map (·.placedAt)⟩ : CustomerStart)) =
      some c := by
    intro c hc
    obtain ⟨acq, hacq⟩ := exists_acq hc
    rw [hacq]
    rfl
  rw [knownCustomers] at hall ⊢
  rw [List.filterMap_congr hall, List.filterMap_some]

variable (orders) in
/-- A sum over the customers, taken over their starts. -/
theorem sum_starts {M : Type} [AddCommMonoid M] (f : String → M) :
    ((starts orders).map fun s => f s.customer).sum = ((knownCustomers orders).map f).sum := by
  rw [← map_customer_starts, List.map_map]
  rfl

theorem starts_acq (h : s ∈ starts orders) :
    ((groupOf PlacedOrder.customer (knownOrders orders) s.customer).map (·.placedAt)).min? =
      some s.acq := by
  obtain ⟨c, -, hs⟩ := List.mem_filterMap.mp h
  obtain ⟨acq, hacq, rfl⟩ := Option.map_eq_some_iff.mp hs
  exact hacq

variable (orders c) in
theorem perm_history : (history orders c).Perm
    (groupOf PlacedOrder.customer (knownOrders orders) c) := List.perm_insertionSort _ _

/-- A history begins with an order of the first time. -/
theorem history_of_start (h : s ∈ starts orders) :
    ∃ first rest, history orders s.customer = first :: rest ∧ first.placedAt = s.acq := by
  obtain ⟨hmem, hle⟩ := List.min?_eq_some_iff.mp (starts_acq h)
  obtain ⟨o, ho, hacq⟩ := List.mem_map.mp hmem
  have hsorted : (history orders s.customer).Pairwise PlacedOrder.before :=
    List.pairwise_insertionSort _ _
  have hperm := perm_history orders s.customer
  cases hhistory : history orders s.customer with
  | nil =>
    rw [hhistory] at hperm
    rw [List.nil_perm.mp hperm] at ho
    cases ho
  | cons first rest =>
    rw [hhistory] at hperm hsorted
    refine ⟨first, rest, rfl, le_antisymm ?_ ?_⟩
    · rw [← hacq]
      cases List.mem_cons.mp (hperm.mem_iff.mpr ho) with
      | inl heq => rw [heq]
      | inr hrest => exact PlacedOrder.placedAt_le ((List.pairwise_cons.mp hsorted).1 o hrest)
    · exact hle _ (List.mem_map_of_mem (hperm.mem_iff.mp List.mem_cons_self))

/-- An order is in the month of the first one when its offset is zero. -/
theorem clampOff_monthOffset (h : s ∈ starts orders)
    (ho : o ∈ groupOf PlacedOrder.customer (knownOrders orders) s.customer) :
    clampOff (monthOffset o.placedAt s.cohort) = 0 ↔
      monthIndex o.placedAt.date = monthIndex s.acq.date := by
  have hacq : s.acq ≤ o.placedAt :=
    (List.min?_eq_some_iff.mp (starts_acq h)).2 _ (List.mem_map_of_mem ho)
  have hdate := Timestamp.date_le hacq
  rw [monthOffset, CustomerStart.cohort, Sql.ageMonths_startOfMonth hdate]
  change s.acq.date.number ≤ o.placedAt.date.number at hdate
  have hfirst := s.acq.date.dayBound
  have hlast := o.placedAt.date.dayBound
  have hfirstDay := hfirst.2.trans (Py.daysInMonth_le _ _)
  have hlastDay := hlast.2.trans (Py.daysInMonth_le _ _)
  have hfirstMonth := s.acq.date.monthBound
  have hlastMonth := o.placedAt.date.monthBound
  simp only [Date.number] at hdate
  simp only [clampOff, dateDiffMonth, monthIndex]
  omega

/-! ### Sums of the rows -/

theorem sum_newCustomers : ((cohortSizes orders).map fun size => size.2.1).sum =
    (knownCustomers orders).length := by
  rw [cohortSizes, List.map_map]
  have hgroups := length_groups CustomerStart.cohort (starts orders)
    (nodup_keysOf CustomerStart.cohort (starts orders))
  rw [filter_mem_keys fun s hs => mem_keysOf.mpr ⟨s, hs, rfl⟩] at hgroups
  rw [← map_customer_starts, List.length_map]
  exact hgroups

variable (orders) in
/-- The revenue of a cohort, of some of the offsets. -/
theorem sum_cohortRevenue (k : Date) (p : Int → Bool) :
    ((((cohortRevenue orders).filter fun r => r.1 = k).map Prod.snd).filter (p ·.1)
      |>.map Prod.snd).sum =
      ((((revenueRows orders).filter fun r => p r.off).filter fun r => r.cohort = k).map
        (·.net)).sum := by
  have hsum := sum_filter_keys RevenueRow.key (revenueRows orders)
    (fun x => decide ((ofLex x).1 = k) && p (ofLex x).2) (·.net)
  rw [List.filter_filter]
  refine Eq.trans ?_ hsum
  rw [cohortRevenue]
  simp only [List.filter_map, List.map_map, List.filter_filter, Function.comp_def, Bool.and_comm]

theorem pivot_getD (revenue : List (Date × Int × Int)) (k : Date) :
    ((pivot revenue).lookup k).getD zeros =
      ((revenue.filter fun r => r.1 = k).map Prod.snd).foldl addAt zeros :=
  Dict.getD_lookup_foldl_update zeros addAt revenue [] k

theorem length_pivot (revenue : List (Date × Int × Int)) (k : Date) :
    (((pivot revenue).lookup k).getD zeros).length = 12 := by
  rw [pivot_getD, length_foldl_addAt]
  rfl

/-- The last running sum of a cohort is its revenue. -/
theorem lastMonth_pivot (k : Date) :
    (runningSums 0 (((pivot (cohortRevenue orders)).lookup k).getD zeros)).getD 11 0 =
      (((revenueRows orders).filter fun r => r.cohort = k).map (·.net)).sum := by
  have hlength := length_pivot (cohortRevenue orders) k
  have hall := sum_cohortRevenue orders k fun _ => true
  rw [List.filter_true, List.filter_true] at hall
  rw [getD_runningSums (by omega), List.take_of_length_le (by omega), pivot_getD,
    sum_foldl_addAt _ rfl, hall]
  simp [zeros]

/-- The first one is the revenue of its first month. -/
theorem firstMonth_pivot (k : Date) :
    (runningSums 0 (((pivot (cohortRevenue orders)).lookup k).getD zeros)).getD 0 0 =
      ((((revenueRows orders).filter fun r => clampOff r.off = 0).filter fun r => r.cohort = k).map
        (·.net)).sum := by
  have hlength := length_pivot (cohortRevenue orders) k
  have hfirst := getD_foldl_addAt
    (((cohortRevenue orders).filter fun r => r.1 = k).map Prod.snd) (rfl : zeros.length = 12)
  rw [← pivot_getD, sum_cohortRevenue orders k fun off => decide (clampOff off = 0)] at hfirst
  rw [getD_runningSums (by omega)]
  cases hper : ((pivot (cohortRevenue orders)).lookup k).getD zeros with
  | nil =>
    rw [hper] at hlength
    cases hlength
  | cons x per =>
    rw [hper] at hfirst
    simpa [zeros] using hfirst

variable (orders) in
/-- Every row of revenue is of a cohort that has a size. -/
theorem sum_cohorts (p : RevenueRow → Bool) :
    ((keysOf CustomerStart.cohort (starts orders)).map fun k =>
      ((((revenueRows orders).filter p).filter fun r => r.cohort = k).map (·.net)).sum).sum =
      (((revenueRows orders).filter p).map (·.net)).sum := by
  have hkeys : ∀ r ∈ (revenueRows orders).filter p,
      r.cohort ∈ keysOf CustomerStart.cohort (starts orders) := by
    intro r hr
    obtain ⟨s, hs, hrow⟩ := List.mem_flatMap.mp (List.mem_of_mem_filter hr)
    obtain ⟨o, -, rfl⟩ := List.mem_map.mp hrow
    exact mem_keysOf.mpr ⟨s, hs, rfl⟩
  have hgroups := sum_groups RevenueRow.cohort ((revenueRows orders).filter p) (·.net)
    (nodup_keysOf CustomerStart.cohort (starts orders))
  rw [filter_mem_keys hkeys] at hgroups
  exact hgroups

theorem sum_lastMonth : ((cohortRows (cohortSizes orders) (cohortRevenue orders)).map
    fun row => row.m.getD 11 0).sum = ((knownOrders orders).map (·.order.netMu)).sum := by
  have hall := sum_cohorts orders fun _ => true
  rw [List.filter_true] at hall
  have hgroups := sum_groups PlacedOrder.customer (knownOrders orders) (·.order.netMu)
    (nodup_keysOf PlacedOrder.customer (knownOrders orders))
  rw [filter_mem_keys fun o ho => mem_keysOf.mpr ⟨o, ho, rfl⟩] at hgroups
  have hstarts := sum_starts orders fun c =>
    ((groupOf PlacedOrder.customer (knownOrders orders) c).map (·.order.netMu)).sum
  simp only [cohortRows, cohortSizes, List.map_map, Function.comp_def, lastMonth_pivot]
  rw [hall, ← hgroups]
  rw [knownCustomers] at hstarts
  rw [← hstarts, revenueRows, List.map_flatMap, sum_flatMap]
  simp only [List.map_map, Function.comp_def]

/-- In the first month of a customer are the first order, and those that repeat in it. -/
theorem sum_first_month_of (h : s ∈ starts orders) :
    (((groupOf PlacedOrder.customer (knownOrders orders) s.customer).filter fun o =>
      clampOff (monthOffset o.placedAt s.cohort) = 0).map (·.order.netMu)).sum =
      ((history orders s.customer).head?.map (·.order.netMu)).getD 0 +
        ((repeats (history orders s.customer)).map (·.order.netMu)).sum := by
  obtain ⟨first, rest, hhistory, hacq⟩ := history_of_start h
  have hperm := perm_history orders s.customer
  have hmonth : ∀ o ∈ groupOf PlacedOrder.customer (knownOrders orders) s.customer,
      decide (clampOff (monthOffset o.placedAt s.cohort) = 0) =
        decide (monthIndex o.placedAt.date = monthIndex first.placedAt.date) := by
    intro o ho
    rw [hacq, Bool.eq_iff_iff, decide_eq_true_iff, decide_eq_true_iff]
    exact clampOff_monthOffset h ho
  rw [List.filter_congr hmonth, ← ((hperm.filter _).map _).sum_eq, hhistory, repeats]
  simp

theorem sum_firstMonth : ((cohortRows (cohortSizes orders) (cohortRevenue orders)).map
    fun row => row.m.getD 0 0).sum = firstNetMu orders + repeatMu orders := by
  have hcohorts := sum_cohorts orders fun r => decide (clampOff r.off = 0)
  simp only [cohortRows, cohortSizes, List.map_map, Function.comp_def, firstMonth_pivot]
  rw [hcohorts, revenueRows, List.filter_flatMap, List.map_flatMap, sum_flatMap]
  have hstart : ∀ s ∈ starts orders, ((((groupOf PlacedOrder.customer (knownOrders orders)
        s.customer).map fun o => (⟨s.cohort, monthOffset o.placedAt s.cohort, o.order.netMu⟩ :
          RevenueRow)).filter fun r => clampOff r.off = 0).map (·.net)).sum =
      ((history orders s.customer).head?.map (·.order.netMu)).getD 0 +
        ((repeats (history orders s.customer)).map (·.order.netMu)).sum := by
    intro s hs
    rw [List.filter_map, List.map_map, ← sum_first_month_of hs]
    rfl
  rw [List.map_congr_left hstart, firstNetMu, repeatMu, ← sum_starts, ← sum_starts,
    ← List.sum_map_add]

/-- Of each cohort no more come back than are in it, and it is not empty. -/
theorem rr90Bp_le {row : FactCohortRow}
    (h : row ∈ cohortRows (cohortSizes orders) (cohortRevenue orders)) :
    ∃ bp, row.rr90Bp = some bp ∧ bp ≤ 10000 := by
  obtain ⟨size, hsize, rfl⟩ := List.mem_map.mp h
  obtain ⟨k, hk, rfl⟩ := List.mem_map.mp hsize
  obtain ⟨s, hs, hcohort⟩ := mem_keysOf.mp hk
  have hpos : 0 < (groupOf CustomerStart.cohort (starts orders) k).length :=
    List.length_pos_of_mem (mem_groupOf.mpr ⟨hs, hcohort⟩)
  refine ⟨_, if_pos hpos, ?_⟩
  have hle := List.length_filter_le (·.repeats) (groupOf CustomerStart.cohort (starts orders) k)
  apply Nat.div_le_of_le_mul
  simp only
  omega

end

/-! ### The average of the first orders -/

/-- Truncating the quotient of a larger sum gives the floor of the smaller one's. -/
theorem tdiv_eq_ediv_iff {n : Nat} (hn : 0 < n) (b r : Int) : (b + r).tdiv n = b / n ↔
    (0 ≤ b + r → 0 ≤ b % n + r ∧ b % n + r < n) ∧
      (b + r < 0 → -n < b % n + r ∧ b % n + r ≤ 0) := by
  have hpos : (0 : Int) < n := by omega
  have hb := Int.emod_add_mul_ediv b n
  have hcomm : b / n * n = n * (b / n) := Int.mul_comm _ _
  by_cases hsign : 0 ≤ b + r
  · rw [Int.tdiv_eq_ediv_of_nonneg hsign, Int.ediv_eq_iff_of_pos hpos]
    omega
  · have hneg : (b + r).tdiv n = -(-(b + r) / n) := by
      rw [← Int.tdiv_eq_ediv_of_nonneg (by omega), Int.neg_tdiv, Int.neg_neg]
    have hflip : -(-(b + r) / (n : Int)) = b / n ↔ -(b + r) / (n : Int) = -(b / n) := by omega
    rw [hneg, hflip, Int.ediv_eq_iff_of_pos hpos, Int.neg_mul]
    omega

/-- The cohort rows and the averages, over the orders they are made of. -/
structure Conserves (orders : List PlacedOrder) : Prop where
  cohorts : ∃ rows, readCohorts orders = .ok rows ∧
    (rows.map (·.newCustomers)).sum = (knownCustomers orders).length ∧
    (rows.map fun row => row.m.getD 11 0).sum = ((knownOrders orders).map (·.order.netMu)).sum ∧
    ∀ row ∈ rows, ∃ bp, row.rr90Bp = some bp ∧ bp ≤ 10000
  ltv : ∃ ltv, readLtv orders = .ok ltv ∧
    ltv.firstOrderMu = firstNetMu orders / (knownCustomers orders).length

/-- Exactly then they hold: what customers order again in their first month is lost in the
division, with the remainder of the first orders. -/
structure RepeatsLost (orders : List PlacedOrder) : Prop where
  nets : ∀ o ∈ knownOrders orders, Fits o.order.netMu
  average : 0 < (knownCustomers orders).length →
    let n := (knownCustomers orders).length
    let part := firstNetMu orders % n + repeatMu orders
    (0 ≤ firstNetMu orders + repeatMu orders → 0 ≤ part ∧ part < n) ∧
      (firstNetMu orders + repeatMu orders < 0 → -n < part ∧ part ≤ 0)

section

variable {orders : List PlacedOrder}

theorem mem_nets_revenueRows {v : Int} :
    v ∈ (revenueRows orders).map (·.net) ↔ ∃ o ∈ knownOrders orders, o.order.netMu = v := by
  simp only [revenueRows, List.map_flatMap, List.map_map, List.mem_flatMap, List.mem_map,
    mem_groupOf, Function.comp_def]
  constructor
  · rintro ⟨s, -, o, ⟨ho, -⟩, hv⟩
    exact ⟨o, ho, hv⟩
  · rintro ⟨o, ho, hv⟩
    have hcustomer : o.customer ∈ (starts orders).map (·.customer) := by
      rw [map_customer_starts]
      exact mem_keysOf.mpr ⟨o, ho, rfl⟩
    obtain ⟨s, hs, hsame⟩ := List.mem_map.mp hcustomer
    exact ⟨s, hs, o, ⟨ho, hsame.symm⟩, hv⟩

theorem readCohorts_ok_iff {rows : List FactCohortRow} : readCohorts orders = .ok rows ↔
    (∀ o ∈ knownOrders orders, Fits o.order.netMu) ∧
      cohortRows (cohortSizes orders) (cohortRevenue orders) = rows := by
  rw [readCohorts, bigints_ok_iff]
  simp only [mem_nets_revenueRows, forall_exists_index, and_imp, forall_apply_eq_imp_iff₂]

theorem newCustomers_cohortRows :
    ((cohortRows (cohortSizes orders) (cohortRevenue orders)).map (·.newCustomers)).sum =
      (knownCustomers orders).length := by
  rw [← sum_newCustomers, cohortRows, List.map_map]
  rfl

/-- The average that is reported is that of the whole first month. -/
theorem firstOrderMu_ltvOf :
    (ltvOf (cohortRows (cohortSizes orders) (cohortRevenue orders))).firstOrderMu =
      perCustomer (knownCustomers orders).length 0 (firstNetMu orders + repeatMu orders) := by
  rw [← sum_firstMonth, ← newCustomers_cohortRows]
  rfl

end

theorem conserves_iff (orders : List PlacedOrder) : Conserves orders ↔ RepeatsLost orders := by
  constructor
  · rintro ⟨⟨rows, hrows, -⟩, ltv, hltv, haverage⟩
    obtain ⟨hnets, rfl⟩ := readCohorts_ok_iff.mp hrows
    refine ⟨hnets, fun hpos => ?_⟩
    rw [readLtv, hrows] at hltv
    obtain rfl := Except.ok.inj hltv
    rw [firstOrderMu_ltvOf, perCustomer, if_pos hpos] at haverage
    exact (tdiv_eq_ediv_iff hpos _ _).mp haverage
  · rintro ⟨hnets, haverage⟩
    have hrows := readCohorts_ok_iff.mpr ⟨hnets, rfl⟩
    refine ⟨⟨_, hrows, newCustomers_cohortRows, sum_lastMonth, fun row => rr90Bp_le⟩,
      ltvOf (cohortRows (cohortSizes orders) (cohortRevenue orders)), ?_, ?_⟩
    · rw [readLtv, hrows]
      rfl
    · rw [firstOrderMu_ltvOf, perCustomer]
      split
      · next hpos => exact (tdiv_eq_ediv_iff hpos _ _).mpr (haverage hpos)
      · next hzero =>
        have hnone : (knownCustomers orders).length = 0 := by omega
        rw [hnone]
        simp

/-- A customer who orders again on the twentieth of June. -/
def orderedAgainInJune : List PlacedOrder :=
  [⟨⟨"SHOPIFY", "1", some "7", 50000, 0, 0, 0, "INR", some "paid", none,
      some (midnight (juneDay 10))⟩, midnight (juneDay 10), rfl⟩,
    ⟨⟨"SHOPIFY", "2", some "7", 20000, 0, 0, 0, "INR", some "paid", none,
      some (midnight (juneDay 20))⟩, midnight (juneDay 20), rfl⟩]

/-- The average of the first orders is 500, and 700 is reported. -/
theorem second_order_in_the_first_average : ¬ ∀ orders, Conserves orders := by
  intro h
  obtain ⟨ltv, hltv, haverage⟩ := (h orderedAgainInJune).ltv
  have hreported : (readLtv orderedAgainInJune).toOption.map (·.firstOrderMu) = some 70000 := by
    decide
  have hfirst : firstNetMu orderedAgainInJune / (knownCustomers orderedAgainInJune).length =
      50000 := by decide
  rw [hltv] at hreported
  rw [hfirst] at haverage
  rw [Except.toOption, Option.map_some, haverage] at hreported
  cases hreported

end BrainV2.Analytics
