import BrainV2.Analytics.Acquisition

/-!
# New customers are counted once

* `acquiredIn`: the customers whose first live order is in a range;
* `CountedOnce`: every reader counts these, and adjacent ranges add up;
* `length_ranked_first`, `daily_sum`, `calendar_sum`: what the readers count;
* `OnceEach`, `countedOnce_iff`: when it is the same.
-/

namespace BrainV2.Analytics

open Py (Date)
open Sql (Timestamp FactDateRange Grain dateTrunc midnight juneDay)
open Grouping
open Wrapping (Fits)

/-- The customer's first live order is in the range. -/
def acquired (orders : List OrderFact) (range : FactDateRange) (c : String) : Bool :=
  (firstAt orders c).any range.has

def acquiredIn (orders : List OrderFact) (range : FactDateRange) : List String :=
  (customers orders).filter (acquired orders range)

/-- The customer has a live order in the range. -/
def hasOrderIn (orders : List OrderFact) (range : FactDateRange) (c : String) : Bool :=
  (groupOf OrderFact.customer (liveKnown orders) c).any (·.inRange (some range))

/-- The customer's live orders of the day of the first one. -/
def firstDayOrders (orders : List OrderFact) (c : String) : List OrderFact :=
  match firstAt orders c with
  | none => []
  | some acq => ordersOn orders c acq.date

/-- The row is of a day in the range. -/
def FactCalendarRow.fallsIn (range : FactDateRange) (row : FactCalendarRow) : Bool :=
  Option.any range.hasDate row.periodKey

/-- Two ranges without a day in common that make up a third. -/
structure Adjacent (a b whole : FactDateRange) : Prop where
  covers : ∀ d, whole.hasDate d = (a.hasDate d || b.hasDate d)
  apart : ∀ d, a.hasDate d = true → b.hasDate d = false

/-- Every reader counts the acquired customers, and they add up. -/
structure CountedOnce (facts : Facts) (range : FactDateRange) : Prop where
  marketing : ∃ m, readMarketing facts (some range) = .ok m ∧
    m.newCustomersCount = (acquiredIn facts.orders range).length
  daily : ∃ rows, readDailyAcquisition facts range = .ok rows ∧
    (rows.map (·.newCustomers)).sum = (acquiredIn facts.orders range).length
  calendar : ∃ rows, readCalendarReport facts .day = .ok rows ∧
    ((rows.filter (·.fallsIn range)).map (·.newCustomers)).sum =
      (acquiredIn facts.orders range).length
  adjacent : ∀ a b, Adjacent a b range →
    (acquiredIn facts.orders a).length + (acquiredIn facts.orders b).length =
      (acquiredIn facts.orders range).length

/-- Exactly then every reader counts each of them once. -/
structure OnceEach (facts : Facts) (range : FactDateRange) : Prop where
  nets : ∀ o ∈ facts.orders, o.live = true → Fits o.netMu
  fresh : ∀ c ∈ customers facts.orders,
    hasOrderIn facts.orders range c = true → acquired facts.orders range c = true
  single : ∀ c ∈ acquiredIn facts.orders range, (firstDayOrders facts.orders c).length = 1
  shown : ∀ c ∈ acquiredIn facts.orders range,
    (firstAt facts.orders c).any fun t => (t.date : WithTop Date) ∈ shownPeriods facts.orders .day

section

variable {facts : Facts} {orders : List OrderFact} {range : FactDateRange} {c : String}

theorem acquired_iff : acquired orders range c = true ↔
    ∃ first, firstAt orders c = some first ∧ range.hasDate first.date = true := by
  rw [acquired, Option.any_eq_true]
  simp only [FactDateRange.has_eq]

/-- The first order is one of the first day, and of the range. -/
theorem exists_first_order {first : Timestamp} (h : firstAt orders c = some first) :
    ∃ o ∈ groupOf OrderFact.customer (liveKnown orders) c, o.processedAt = some first :=
  (firstAt_eq_some.mp h).1

theorem hasOrderIn_of_acquired (h : acquired orders range c = true) :
    hasOrderIn orders range c = true := by
  obtain ⟨first, hfirst, hdate⟩ := acquired_iff.mp h
  obtain ⟨o, ho, hplaced⟩ := exists_first_order hfirst
  rw [hasOrderIn, List.any_eq_true]
  refine ⟨o, ho, ?_⟩
  simp only [OrderFact.inRange, hplaced, Option.any_some, FactDateRange.has_eq]
  exact hdate

theorem firstDayOrders_of_first {first : Timestamp} (h : firstAt orders c = some first) :
    firstDayOrders orders c = ordersOn orders c first.date := by
  rw [firstDayOrders, h]

theorem mem_ordersOn {o : OrderFact} {day : Date} : o ∈ ordersOn orders c day ↔
    o ∈ groupOf OrderFact.customer (liveKnown orders) c ∧
      o.processedAt.any (·.date = day) = true := by
  rw [ordersOn, List.mem_filter]

theorem one_le_firstDayOrders (h : acquired orders range c = true) :
    1 ≤ (firstDayOrders orders c).length := by
  obtain ⟨first, hfirst, -⟩ := acquired_iff.mp h
  obtain ⟨o, ho, hplaced⟩ := exists_first_order hfirst
  rw [firstDayOrders_of_first hfirst]
  apply List.length_pos_of_mem (a := o)
  rw [mem_ordersOn]
  exact ⟨ho, by simp [hplaced]⟩

/-! ### What the readers count -/

/-- The marketing reader counts the customers that order in the range. -/
theorem length_ranked_first : ((numbered (fun a b => a.sortKey ≤ b.sortKey) OrderFact.customer
      (ranked facts (some range))).filter (·.2 = 1)).length =
    ((customers facts.orders).filter (hasOrderIn facts.orders range)).length := by
  rw [length_numbered _ (Nat.le_refl 1), List.filter_eq_self.mpr]
  · apply List.Perm.length_eq
    rw [List.perm_ext_iff_of_nodup (nodup_keysOf _ _) ((nodup_customers _).filter _)]
    intro c
    rw [List.mem_filter, hasOrderIn, List.any_eq_true, customers, mem_keysOf, mem_keysOf]
    simp only [ranked, liveIn, liveKnown, List.mem_filter, mem_groupOf]
    constructor
    · rintro ⟨o, ⟨⟨⟨ho, hin⟩, hlive⟩, hknown⟩, hc⟩
      exact ⟨⟨o, ⟨⟨ho, hlive⟩, hknown⟩, hc⟩, o, ⟨⟨⟨ho, hlive⟩, hknown⟩, hc⟩, hin⟩
    · rintro ⟨-, o, ⟨⟨⟨ho, hlive⟩, hknown⟩, hc⟩, hin⟩
      exact ⟨o, ⟨⟨⟨ho, hin⟩, hlive⟩, hknown⟩, hc⟩
  · intro k hk
    obtain ⟨o, ho, hkey⟩ := mem_keysOf.mp hk
    have hpos : 0 < (groupOf OrderFact.customer (ranked facts (some range)) k).length :=
      List.length_pos_of_mem (mem_groupOf.mpr ⟨ho, hkey⟩)
    exact decide_eq_true hpos

/-- The daily reader counts the orders of the acquisition days. -/
theorem length_acquisitionOrders : (acquisitionOrders orders range).length =
    ((acquiredIn orders range).map fun c => (firstDayOrders orders c).length).sum := by
  rw [acquisitionOrders, List.length_flatMap, acquiredIn, sum_map_filter]
  congr 1
  apply List.map_congr_left
  intro c _
  cases h : firstAt orders c with
  | none => simp [acquired, h]
  | some first =>
    simp only [acquired, h, Option.any_some, FactDateRange.has_eq, firstDayOrders]
    split
    · rw [List.length_map]
    · rfl

theorem liveKnown_of_acquisitionOrders {row : Date × OrderFact}
    (h : row ∈ acquisitionOrders orders range) : row.2 ∈ liveKnown orders := by
  obtain ⟨c, -, hrow⟩ := List.mem_flatMap.mp h
  cases hfirst : firstAt orders c with
  | none =>
    rw [hfirst] at hrow
    cases hrow
  | some first =>
    rw [hfirst] at hrow
    simp only at hrow
    split at hrow
    · obtain ⟨o, ho, rfl⟩ := List.mem_map.mp hrow
      exact (mem_groupOf.mp (mem_ordersOn.mp ho).1).1
    · cases hrow

theorem daily_sum {rows : List FactDailyAcquisitionRow}
    (h : readDailyAcquisition facts range = .ok rows) : (rows.map (·.newCustomers)).sum =
      ((acquiredIn facts.orders range).map fun c => (firstDayOrders facts.orders c).length).sum := by
  obtain ⟨-, rfl⟩ := bigints_ok_iff.mp h
  have hgroups := length_groups Prod.fst (acquisitionOrders facts.orders range)
    (nodup_keysOf Prod.fst (acquisitionOrders facts.orders range))
  rw [filter_mem_keys fun row hrow => mem_keysOf.mpr ⟨row, hrow, rfl⟩,
    length_acquisitionOrders] at hgroups
  rw [List.map_map]
  exact hgroups

/-- The days of the range that the calendar shows. -/
def shownDays (orders : List OrderFact) (range : FactDateRange) : List (WithTop Date) :=
  (shownPeriods orders .day).filter (Option.any range.hasDate ·)

/-- The orders that the calendar counts as a customer's first, on the days it shows. -/
def countedFirst (orders : List OrderFact) (range : FactDateRange) : List OrderFact :=
  ((orders.filter (·.live)).filter (isFirst orders)).filter
    (·.period .day ∈ shownDays orders range)

variable (orders range) in
theorem nodup_shownDays : (shownDays orders range).Nodup := by
  have hkeys := nodup_keysOf (OrderFact.period .day) (orders.filter (·.live))
  exact ((List.nodup_reverse.mpr hkeys).sublist (List.take_sublist _ _)).filter _

theorem calendar_sum {rows : List FactCalendarRow} (h : readCalendarReport facts .day = .ok rows) :
    ((rows.filter (·.fallsIn range)).map (·.newCustomers)).sum =
      (countedFirst facts.orders range).length := by
  obtain ⟨-, rfl⟩ := bigints_ok_iff.mp h
  rw [List.filter_map, List.map_map]
  have hgroups := length_groups (OrderFact.period .day)
    ((facts.orders.filter (·.live)).filter (isFirst facts.orders))
    (nodup_shownDays facts.orders range)
  simp only [← groupOf_filter (isFirst facts.orders)] at hgroups
  exact hgroups

/-- The customer's first order is on a day of the range that is shown. -/
def shownFirst (orders : List OrderFact) (range : FactDateRange) (c : String) : Bool :=
  (firstAt orders c).any fun t => (t.date : WithTop Date) ∈ shownDays orders range

theorem mem_countedFirst {o : OrderFact} : o ∈ countedFirst orders range ↔
    o ∈ liveKnown orders ∧ ∃ first, o.processedAt = some first ∧
      firstAt orders o.customer = some first ∧
      (first.date : WithTop Date) ∈ shownDays orders range := by
  simp only [countedFirst, List.mem_filter, mem_liveKnown, isFirst, decide_eq_true_iff]
  constructor
  · rintro ⟨⟨⟨ho, hlive⟩, hknown, hsome, hfirst⟩, hday⟩
    obtain ⟨first, hplaced⟩ := Option.isSome_iff_exists.mp hsome
    rw [hplaced] at hfirst
    rw [OrderFact.period, hplaced] at hday
    exact ⟨⟨ho, hlive, hknown⟩, first, hplaced, hfirst, hday⟩
  · rintro ⟨⟨ho, hlive, hknown⟩, first, hplaced, hfirst, hday⟩
    refine ⟨⟨⟨ho, hlive⟩, hknown, by rw [hplaced]; rfl, hfirst.trans hplaced.symm⟩, ?_⟩
    rw [OrderFact.period, hplaced]
    exact hday

theorem acquired_of_shownFirst (h : shownFirst orders range c = true) :
    acquired orders range c = true := by
  obtain ⟨first, hfirst, hday⟩ := Option.any_eq_true _ _ |>.mp h
  obtain ⟨-, hin⟩ := List.mem_filter.mp (of_decide_eq_true hday)
  exact acquired_iff.mpr ⟨first, hfirst, hin⟩

/-- Of a customer with one order on the first day, the calendar counts it when the day is shown. -/
theorem length_countedFirst_of (hsingle : acquired orders range c = true →
    (firstDayOrders orders c).length = 1) :
    (groupOf OrderFact.customer (countedFirst orders range) c).length =
      if shownFirst orders range c then 1 else 0 := by
  split
  · next hshown =>
    obtain ⟨first, hfirst, hday⟩ := Option.any_eq_true _ _ |>.mp hshown
    obtain ⟨o, ho, hplaced⟩ := exists_first_order hfirst
    obtain ⟨hlive, hcustomer⟩ := mem_groupOf.mp ho
    have hone := hsingle (acquired_of_shownFirst hshown)
    rw [firstDayOrders_of_first hfirst] at hone
    have hle : (groupOf OrderFact.customer (countedFirst orders range) c).length ≤
        (ordersOn orders c first.date).length := by
      simp only [groupOf, countedFirst, ordersOn, liveKnown, List.filter_filter]
      rw [← List.countP_eq_length_filter, ← List.countP_eq_length_filter]
      apply List.countP_mono_left
      intro p _ hp
      simp only [Bool.and_eq_true, decide_eq_true_iff, isFirst] at hp ⊢
      obtain ⟨hpc, -, ⟨hpknown, -, hpfirst⟩, hplive⟩ := hp
      rw [hpc, hfirst] at hpfirst
      exact ⟨by simp [← hpfirst], hpc, hpknown, hplive⟩
    have hpos : 0 < (groupOf OrderFact.customer (countedFirst orders range) c).length := by
      apply List.length_pos_of_mem (a := o)
      rw [mem_groupOf, mem_countedFirst]
      exact ⟨⟨hlive, first, hplaced, by rw [hcustomer, hfirst], of_decide_eq_true hday⟩, hcustomer⟩
    omega
  · next hshown =>
    rw [List.length_eq_zero_iff, List.eq_nil_iff_forall_not_mem]
    intro o ho
    obtain ⟨hcounted, rfl⟩ := mem_groupOf.mp ho
    obtain ⟨-, first, -, hfirst, hday⟩ := mem_countedFirst.mp hcounted
    exact hshown (Option.any_eq_true _ _ |>.mpr ⟨first, hfirst, decide_eq_true hday⟩)

theorem length_countedFirst
    (hsingle : ∀ c ∈ acquiredIn orders range, (firstDayOrders orders c).length = 1) :
    (countedFirst orders range).length =
      ((customers orders).filter (shownFirst orders range)).length := by
  have hkeys : ∀ o ∈ countedFirst orders range, o.customer ∈ customers orders := by
    intro o ho
    exact mem_keysOf.mpr ⟨o, (mem_countedFirst.mp ho).1, rfl⟩
  have hgroups := length_groups OrderFact.customer (countedFirst orders range)
    (nodup_customers orders)
  rw [filter_mem_keys hkeys] at hgroups
  have hone : ∀ c ∈ customers orders,
      (groupOf OrderFact.customer (countedFirst orders range) c).length =
        if shownFirst orders range c then 1 else 0 := by
    intro c hc
    exact length_countedFirst_of fun hacquired => hsingle c (List.mem_filter.mpr ⟨hc, hacquired⟩)
  rw [← hgroups, List.map_congr_left hone, ← sum_map_filter]
  simp

theorem acquired_adjacent {a b : FactDateRange} (h : Adjacent a b range) :
    (acquiredIn orders a).length + (acquiredIn orders b).length =
      (acquiredIn orders range).length := by
  have hor : acquired orders range = fun c => acquired orders a c || acquired orders b c := by
    funext c
    cases hfirst : firstAt orders c with
    | none => simp only [acquired, hfirst, Option.any_none, Bool.or_self]
    | some first =>
      simp only [acquired, hfirst, Option.any_some, FactDateRange.has_eq, h.covers]
  rw [acquiredIn, acquiredIn, acquiredIn, hor]
  apply length_filter_or
  intro c _ ha
  obtain ⟨first, hfirst, hdate⟩ := acquired_iff.mp ha
  rw [acquired, hfirst, Option.any_some, FactDateRange.has_eq]
  exact h.apart first.date hdate

end

/-- The first two counts differ from the acquired customers by those that come back, and by the
further orders of a first day; the third by what the calendar does not show. -/
theorem countedOnce_iff (facts : Facts) (range : FactDateRange) :
    CountedOnce facts range ↔ OnceEach facts range := by
  have hfresh := length_filter_eq_iff (l := customers facts.orders)
    (p := acquired facts.orders range) (q := hasOrderIn facts.orders range)
    fun c _ h => hasOrderIn_of_acquired h
  have hsingle := sum_eq_length_iff (l := acquiredIn facts.orders range)
    (f := fun c => (firstDayOrders facts.orders c).length)
    fun c hc => one_le_firstDayOrders (List.mem_filter.mp hc).2
  have hshown := length_filter_eq_iff (l := customers facts.orders)
    (p := shownFirst facts.orders range) (q := acquired facts.orders range)
    fun c _ h => acquired_of_shownFirst h
  constructor
  · rintro ⟨⟨m, hm, hmarketing⟩, ⟨daily, hdaily, hdays⟩, ⟨calendar, hcalendar, hperiods⟩, -⟩
    obtain ⟨-, rfl⟩ := bigints_ok_iff.mp hm
    have hone := hsingle.mp ((daily_sum hdaily).symm.trans hdays)
    rw [calendar_sum hcalendar, length_countedFirst hone] at hperiods
    rw [length_ranked_first] at hmarketing
    refine ⟨?_, hfresh.mp hmarketing.symm, hone, ?_⟩
    · intro o ho hlive
      apply (bigints_ok_iff.mp hcalendar).1
      exact List.mem_map_of_mem (List.mem_filter.mpr ⟨ho, hlive⟩)
    · intro c hc
      obtain ⟨hmem, hacquired⟩ := List.mem_filter.mp hc
      obtain ⟨first, hfirst, hday⟩ := Option.any_eq_true _ _ |>.mp (hshown.mp hperiods c hmem hacquired)
      have hshows := (List.mem_filter.mp (of_decide_eq_true hday)).1
      exact Option.any_eq_true _ _ |>.mpr ⟨first, hfirst, decide_eq_true hshows⟩
  · intro h
    have hnets : ∀ rows : List OrderFact, (∀ o ∈ rows, o ∈ facts.orders ∧ o.live = true) →
        ∀ v ∈ netsOf rows, Fits v := by
      intro rows hrows v hv
      obtain ⟨o, ho, rfl⟩ := List.mem_map.mp hv
      exact h.nets o (hrows o ho).1 (hrows o ho).2
    have hm : readMarketing facts (some range) = .ok _ := bigints_ok <| hnets _ fun o ho => by
      obtain ⟨hin, hlive⟩ := List.mem_filter.mp (List.mem_of_mem_filter ho)
      exact ⟨List.mem_of_mem_filter hin, hlive⟩
    have hdaily : readDailyAcquisition facts range = .ok _ := bigints_ok <| hnets _ fun o ho => by
      obtain ⟨row, hrow, rfl⟩ := List.mem_map.mp ho
      obtain ⟨hmem, hlive, -⟩ := mem_liveKnown.mp (liveKnown_of_acquisitionOrders hrow)
      exact ⟨hmem, hlive⟩
    have hcalendar : readCalendarReport facts .day = .ok _ := bigints_ok <| hnets _ fun o ho =>
      List.mem_filter.mp ho
    have hperiods : ∀ c ∈ customers facts.orders, acquired facts.orders range c = true →
        shownFirst facts.orders range c = true := by
      intro c hc hacquired
      obtain ⟨first, hfirst, hday⟩ := Option.any_eq_true _ _ |>.mp
        (h.shown c (List.mem_filter.mpr ⟨hc, hacquired⟩))
      obtain ⟨_, hsame, hin⟩ := acquired_iff.mp hacquired
      obtain rfl := Option.some.inj (hfirst.symm.trans hsame)
      exact Option.any_eq_true _ _ |>.mpr ⟨first, hfirst,
        decide_eq_true (List.mem_filter.mpr ⟨of_decide_eq_true hday, hin⟩)⟩
    refine ⟨⟨_, hm, ?_⟩, ⟨_, hdaily, ?_⟩, ⟨_, hcalendar, ?_⟩, fun a b => acquired_adjacent⟩
    · exact length_ranked_first.trans (hfresh.mpr h.fresh).symm
    · exact (daily_sum hdaily).trans (hsingle.mpr h.single)
    · rw [calendar_sum hcalendar, length_countedFirst h.single]
      exact hshown.mpr hperiods

/-- A customer who orders twice on the first day. -/
def twoOnTheFirstDay : Facts where
  orders :=
    [⟨"SHOPIFY", "1", some "7", 50000, 0, 0, 0, "INR", some "paid", none,
        some (midnight (juneDay 10))⟩,
      ⟨"SHOPIFY", "2", some "7", 20000, 0, 0, 0, "INR", some "paid", none,
        some ⟨juneDay 10, 3600000000, by decide⟩⟩]
  lineItems := []
  products := []
  adSpend := []

/-- The daily reader counts the customer for each of the two. -/
theorem customer_counted_for_each_order : ¬ ∀ facts range, CountedOnce facts range := by
  intro h
  obtain ⟨rows, hrows, hsum⟩ := (h twoOnTheFirstDay ⟨juneDay 1, juneDay 30⟩).daily
  rw [daily_sum hrows] at hsum
  revert hsum
  decide

end BrainV2.Analytics
