import BrainV2.Lifecycle.ChurnThresholds
import BrainV2.LivePlane.Surfaces
import Mathlib.Algebra.BigOperators.Ring.Finset

/-!
# The lifecycle states of the live plane

* `countedIn`: the state in which the live plane counts a customer;
* `daysSinceLast`: the calendar days from a customer's last order to the latest order;
* `CountsAlike`: a response counts as `classify_customer_lifecycle` does under its own limits;
* `countedAlike_iff`: when a customer is counted so;
* `countsAlike_of_states`, `answersAlike_iff`: when all are.
-/

namespace BrainV2.Lifecycle

open Analytics (CustomerSpan FactLifecycle LifecycleState OrderFact customerSpans customers
  lifecycleBucket_groupBy liveKnown netsOf readLifecycleStatesOf spanRows stateBy within within_iff
  withinOf)
open Grouping
open LivePlane (getLifecycleStates)
open Percentiles (Grown)
open Sql (Timestamp)
open Wrapping (Fits)

/-- `nowref` -/
def latestAt (orders : List OrderFact) : Option Timestamp :=
  ((customerSpans orders).filterMap (·.lastAt)).max?

/-- The `CASE` of a customer. -/
def countedIn (orders : List OrderFact) (c : CustomerSpan) : LifecycleState :=
  stateBy fun d => withinOf c.lastAt d (latestAt orders)

def calendarDays (n lastAt : Timestamp) : Int := (n.date.toOrdinal : Int) - lastAt.date.toOrdinal

/-- An undated customer has none. -/
def daysSinceLast (orders : List OrderFact) (c : CustomerSpan) : Option Int := do
  let n ← latestAt orders
  let lastAt ← c.lastAt
  some (calendarDays n lastAt)

def customerFact (orders : List OrderFact) (c : CustomerSpan) : CustomerFact where
  orderCount := c.orders
  daysSinceLastOrder := (daysSinceLast orders c).getD 0
  trailingRevenueMu := c.net
  trailingOrderCount := c.orders

/-- A bucket of the live plane in the words of the report. -/
def ofLive (row : LivePlane.LifecycleBucketRow) : LifecycleBucketRow :=
  ⟨row.bucket, row.customerCount, row.revenueMu, row.orderCount⟩

/-- The response counts each customer once, as the report does under the limits the response
names, and leaves none of them out. -/
structure CountsAlike (orders : List OrderFact) (r : LivePlane.LifecycleStatesResult) : Prop where
  states : ∀ c ∈ customerSpans orders, ∃ d, daysSinceLast orders c = some d ∧
    classifyCustomerLifecycle c.orders d r.p40Days r.p80Days = .ok (countedIn orders c)
  buckets : tallied r.p40Days r.p80Days ((customerSpans orders).map (customerFact orders)) =
    .ok (r.buckets.map ofLive)
  customerTotal : (r.buckets.map (·.customerCount)).sum = (customers orders).length
  orderTotal : (r.buckets.map (·.orderCount)).sum = (liveKnown orders).length
  revenueTotal : (r.buckets.map (·.revenueMu)).sum = (netsOf (liveKnown orders)).sum

/-- A customer with one order is at most 30 days from the latest order or more than 90, and one
with more orders more than 30; and 90 and 180 calendar days are as many days of time. -/
structure RecencyAlike (orderCount : Nat) (lastAt n : Timestamp) : Prop where
  single : orderCount = 1 → within lastAt 90 n = true → within lastAt 30 n = true
  repeated : orderCount ≠ 1 → within lastAt 30 n = false
  quarter : calendarDays n lastAt ≤ 90 → within lastAt 90 n = true
  half : calendarDays n lastAt ≤ 180 → within lastAt 180 n = true

/-- Days of time are at least as many calendar days. -/
theorem calendarDays_le_of_within {n lastAt : Timestamp} {d : Nat} (h : within lastAt d n = true) :
    calendarDays n lastAt ≤ d := by
  rw [within_iff] at h
  have hn := n.bound
  have hlast := lastAt.bound
  simp only [Timestamp.instant] at h
  unfold calendarDays
  omega

/-- The `CASE` against the classifier, when what is within days is within calendar days. -/
theorem classify_eq_stateBy_iff {orderCount : Nat} (hcount : 0 < orderCount) {d : Int}
    (hd : 0 ≤ d) {w : Nat → Bool} (h30 : w 30 = true → w 90 = true)
    (h90 : w 90 = true → w 180 = true) (hcal90 : w 90 = true → d ≤ 90)
    (hcal180 : w 180 = true → d ≤ 180) :
    classifyCustomerLifecycle orderCount d 90 180 = .ok (stateBy w) ↔
      (orderCount = 1 → w 90 = true → w 30 = true) ∧ (orderCount ≠ 1 → w 30 = false) ∧
        (d ≤ 90 → w 90 = true) ∧ (d ≤ 180 → w 180 = true) := by
  rw [classifyCustomerLifecycle, if_neg (by omega)]
  simp only [max_eq_right hd, stateBy]
  by_cases hone : orderCount = 1
  · have hone' : (orderCount : Int) = 1 := by exact_mod_cast hone
    rw [if_pos hone']
    grind
  · have hone' : (orderCount : Int) ≠ 1 := by exact_mod_cast hone
    rw [if_neg hone']
    grind

theorem countedAlike_iff {orderCount : Nat} (hcount : 0 < orderCount) {lastAt n : Timestamp}
    (hle : lastAt ≤ n) :
    classifyCustomerLifecycle orderCount (calendarDays n lastAt) 90 180 =
        .ok (stateBy fun d => within lastAt d n) ↔
      RecencyAlike orderCount lastAt n := by
  have hdays : 0 ≤ calendarDays n lastAt := by
    have hdate := Py.Date.toOrdinal_strictMono.monotone (Sql.Timestamp.date_le hle)
    unfold calendarDays
    omega
  rw [classify_eq_stateBy_iff hcount hdays (Analytics.within_mono (by decide))
    (Analytics.within_mono (by decide)) calendarDays_le_of_within calendarDays_le_of_within]
  exact ⟨fun ⟨hsingle, hrepeated, hquarter, hhalf⟩ => ⟨hsingle, hrepeated, hquarter, hhalf⟩,
    fun h => ⟨h.single, h.repeated, h.quarter, h.half⟩⟩

section

variable {orders : List OrderFact}

theorem customerSpan_orders_pos {c : CustomerSpan} (hc : c ∈ customerSpans orders) :
    0 < c.orders := by
  simp only [customerSpans, List.mem_map] at hc
  obtain ⟨k, hk, rfl⟩ := hc
  have hne : groupOf OrderFact.customer (liveKnown orders) k ≠ [] := fun h =>
    groupOf_eq_nil.mp h hk
  exact List.length_pos_iff.mpr hne

theorem le_latestAt {c : CustomerSpan} (hc : c ∈ customerSpans orders) {lastAt n : Timestamp}
    (hlast : c.lastAt = some lastAt) (hn : latestAt orders = some n) : lastAt ≤ n := by
  have hmem : lastAt ∈ (customerSpans orders).filterMap (·.lastAt) :=
    List.mem_filterMap.mpr ⟨c, hc, hlast⟩
  exact (List.max?_eq_some_iff.mp hn).2 _ hmem

variable (orders) in
/-- The customers the live plane counts in a state. -/
def spansIn (s : LifecycleState) : List CustomerSpan :=
  (customerSpans orders).filter (countedIn orders · = s)

variable (orders) in
def liveRow (s : LifecycleState) : LivePlane.LifecycleBucketRow where
  bucket := s
  customerCount := (spansIn orders s).length
  revenueMu := ((spansIn orders s).map (·.net)).sum
  orderCount := ((spansIn orders s).map (·.orders)).sum

theorem live_buckets {l : FactLifecycle} (h : readLifecycleStatesOf orders = .ok l) :
    (getLifecycleStates l).buckets = lifecycleBuckets.map (liveRow orders) := by
  obtain ⟨-, rfl⟩ := Analytics.bigints_ok_iff.mp h
  have hrows : ∀ s, (spanRows (customerSpans orders)).filter (·.bucket = s) =
      (spansIn orders s).map fun c => ⟨countedIn orders c, c.orders, c.net⟩ := by
    intro s
    rw [spanRows, List.filter_map]
    rfl
  simp only [getLifecycleStates, Analytics.lifecycleOf, List.map_map]
  refine List.map_congr_left fun s _ => ?_
  simp only [Function.comp_apply, lifecycleBucket_groupBy List.sum rfl, hrows, List.length_map,
    List.map_map]
  rfl

variable (orders) in
/-- Every customer is in one state. -/
theorem sum_spansIn {M : Type} [AddCommMonoid M] (f : CustomerSpan → M) :
    (lifecycleBuckets.map fun s => ((spansIn orders s).map f).sum).sum =
      ((customerSpans orders).map f).sum := by
  have hgroup : ∀ s, spansIn orders s =
      groupOf (fun c => (countedIn orders c).rank) (customerSpans orders) s.rank := by
    intro s
    apply List.filter_congr
    intro c _
    simp only [LifecycleState.rank_injective.eq_iff]
  have hsum := sum_groups (fun c => (countedIn orders c).rank) (customerSpans orders) f
    (by decide : [0, 1, 2, 3].Nodup)
  have hall : ∀ c ∈ customerSpans orders, (countedIn orders c).rank ∈ [0, 1, 2, 3] := by
    intro c _
    cases countedIn orders c <;> decide
  rw [filter_mem_keys hall] at hsum
  rw [← hsum]
  simp only [hgroup]
  rfl

variable (orders) in
theorem sum_customerSpans {M : Type} [AddCommMonoid M] (f : CustomerSpan → M) (g : OrderFact → M)
    (h : ∀ k lastAt, f ⟨lastAt, (groupOf OrderFact.customer (liveKnown orders) k).length,
      (netsOf (groupOf OrderFact.customer (liveKnown orders) k)).sum⟩ =
        ((groupOf OrderFact.customer (liveKnown orders) k).map g).sum) :
    ((customerSpans orders).map f).sum = ((liveKnown orders).map g).sum := by
  have hkeys : ∀ o ∈ liveKnown orders, o.customer ∈ keysOf OrderFact.customer (liveKnown orders) :=
    fun o ho => mem_keysOf.mpr ⟨o, ho, rfl⟩
  have hsum := sum_groups OrderFact.customer (liveKnown orders) g
    (nodup_keysOf OrderFact.customer (liveKnown orders))
  rw [filter_mem_keys hkeys] at hsum
  rw [← hsum, customerSpans, List.map_map]
  congr 1
  exact List.map_congr_left fun k _ => h k _

theorem daysSinceLast_eq_some {c : CustomerSpan} {d : Int} :
    daysSinceLast orders c = some d ↔
      ∃ lastAt n, c.lastAt = some lastAt ∧ latestAt orders = some n ∧ calendarDays n lastAt = d := by
  unfold daysSinceLast
  cases latestAt orders <;> cases c.lastAt <;> simp

theorem countedIn_of_dated {c : CustomerSpan} {lastAt n : Timestamp}
    (hlast : c.lastAt = some lastAt) (hn : latestAt orders = some n) :
    countedIn orders c = stateBy fun d => within lastAt d n := by
  rw [countedIn, hlast, hn]
  rfl

/-- A customer is classified as it is counted. -/
theorem state_iff {c : CustomerSpan} (hc : c ∈ customerSpans orders) :
    (∃ d, daysSinceLast orders c = some d ∧
        classifyCustomerLifecycle c.orders d 90 180 = .ok (countedIn orders c)) ↔
      ∃ lastAt n, c.lastAt = some lastAt ∧ latestAt orders = some n ∧
        RecencyAlike c.orders lastAt n := by
  have hpos := customerSpan_orders_pos hc
  constructor
  · rintro ⟨d, hd, hstate⟩
    obtain ⟨lastAt, n, hlast, hn, rfl⟩ := daysSinceLast_eq_some.mp hd
    rw [countedIn_of_dated hlast hn] at hstate
    exact ⟨lastAt, n, hlast, hn, (countedAlike_iff hpos (le_latestAt hc hlast hn)).mp hstate⟩
  · rintro ⟨lastAt, n, hlast, hn, halike⟩
    refine ⟨_, daysSinceLast_eq_some.mpr ⟨lastAt, n, hlast, hn, rfl⟩, ?_⟩
    rw [countedIn_of_dated hlast hn]
    exact (countedAlike_iff hpos (le_latestAt hc hlast hn)).mpr halike

/-- The report of the same customers has the buckets of the response. -/
theorem tallied_customerFacts
    (h : ∀ c ∈ customerSpans orders, ∃ d, daysSinceLast orders c = some d ∧
      classifyCustomerLifecycle c.orders d 90 180 = .ok (countedIn orders c)) :
    tallied 90 180 ((customerSpans orders).map (customerFact orders)) =
      .ok (lifecycleBuckets.map fun s => ofLive (liveRow orders s)) := by
  have hpos : ∀ c ∈ (customerSpans orders).map (customerFact orders), 1 ≤ c.orderCount := by
    intro fact hfact
    obtain ⟨c, hc, rfl⟩ := List.mem_map.mp hfact
    have hc' := customerSpan_orders_pos hc
    simp only [customerFact]
    omega
  have hgroup : ∀ s, classified 90 180 ((customerSpans orders).map (customerFact orders)) s =
      (spansIn orders s).map (customerFact orders) := by
    intro s
    rw [classified, List.filter_map, spansIn]
    congr 1
    apply List.filter_congr
    intro c hc
    obtain ⟨d, hd, hstate⟩ := h c hc
    simp [customerFact, hd, hstate]
  rw [executed_buckets hpos]
  congr 1
  refine List.map_congr_left fun s _ => ?_
  rw [hgroup]
  simp only [LifecycleBucketRow.plus, ofLive, liveRow, List.length_map, List.map_map,
    LifecycleBucketRow.mk.injEq, true_and, zero_add, Nat.cast_list_sum]
  exact ⟨rfl, rfl⟩

/-- The nets are bigints, and every customer has a time and is as recent in both ways. -/
structure Unmistaken (orders : List OrderFact) : Prop where
  nets : ∀ o ∈ liveKnown orders, Fits o.netMu
  recency : ∀ c ∈ customerSpans orders, ∃ lastAt n, c.lastAt = some lastAt ∧
    latestAt orders = some n ∧ RecencyAlike c.orders lastAt n

/-- The live plane answers, and counts as it says. -/
def AnswersAlike (orders : List OrderFact) : Prop :=
  ∃ l, readLifecycleStatesOf orders = .ok l ∧ CountsAlike orders (getLifecycleStates l)

theorem countsAlike_of_states {l : FactLifecycle} (hl : readLifecycleStatesOf orders = .ok l)
    (h : ∀ c ∈ customerSpans orders, ∃ d, daysSinceLast orders c = some d ∧
      classifyCustomerLifecycle c.orders d 90 180 = .ok (countedIn orders c)) :
    CountsAlike orders (getLifecycleStates l) := by
  have hbuckets := live_buckets hl
  constructor
  · exact h
  · rw [hbuckets, List.map_map]
    exact tallied_customerFacts h
  · have hsum := sum_spansIn orders fun _ => 1
    simp only [List.map_const', List.sum_replicate, nsmul_eq_mul, mul_one, Nat.cast_id] at hsum
    rw [hbuckets, List.map_map]
    refine hsum.trans ?_
    rw [customerSpans, List.length_map]
    rfl
  · have hsum := sum_customerSpans orders (·.orders) (fun _ => 1) fun k lastAt => by simp
    rw [hbuckets, List.map_map]
    refine (sum_spansIn orders (·.orders)).trans (hsum.trans ?_)
    simp
  · have hsum := sum_customerSpans orders (·.net) (·.netMu) fun k lastAt => rfl
    rw [hbuckets, List.map_map]
    exact (sum_spansIn orders (·.net)).trans hsum

theorem answersAlike_iff : AnswersAlike orders ↔ Unmistaken orders := by
  have hfits : (∀ v ∈ netsOf (liveKnown orders), Fits v) ↔ ∀ o ∈ liveKnown orders, Fits o.netMu :=
    List.forall_mem_map
  constructor
  · rintro ⟨l, hl, hcounts⟩
    refine ⟨hfits.mp (Analytics.bigints_ok_iff.mp hl).1, fun c hc => ?_⟩
    exact (state_iff hc).mp (hcounts.states c hc)
  · rintro ⟨hnets, hrecency⟩
    have hl : readLifecycleStatesOf orders = .ok (Analytics.lifecycleOf (Versions.groupBy (·.bucket)
        (Analytics.bucketSums List.sum) (spanRows (customerSpans orders)))) :=
      Analytics.bigints_ok (hfits.mpr hnets)
    exact ⟨_, hl, countsAlike_of_states hl fun c hc => (state_iff hc).mpr (hrecency c hc)⟩

end

/-! ### One meaning -/

/-- The limits are apart, and none of them falls when gaps grow and no gap joins those that
count. -/
structure ThresholdsHold (gaps : List Int) : Prop where
  ordered : ∃ t, computeChurnThresholds gaps = some t ∧ 1 ≤ t.p40Days ∧ t.p40Days < t.p80Days
  grow : ∀ gaps' t t', Grown gaps gaps' →
    (gaps.filter (0 ≤ ·)).length = (gaps'.filter (0 ≤ ·)).length →
    computeChurnThresholds gaps = some t → computeChurnThresholds gaps' = some t' →
      t.p40Days ≤ t'.p40Days ∧ t.p80Days ≤ t'.p80Days

/-- The live plane means by the states what the report does just when no customer's order count
or recency tells them apart; the limits of the report are sound in any case. -/
theorem one_meaning_iff (orders : List OrderFact) (gaps : List Int) :
    (AnswersAlike orders ↔ Unmistaken orders) ∧ ThresholdsHold gaps :=
  ⟨answersAlike_iff, thresholds_ordered gaps, fun _ _ _ hgrown hcount h h' =>
    thresholds_grow hgrown hcount h h'⟩

def firstOfJune : Timestamp := Sql.midnight (.june 1)

def juneOrder (vendorOrderId : String) : OrderFact where
  vendor := "shopify"
  vendorOrderId := vendorOrderId
  customerRef := some "c1"
  grossSalesMu := 1000
  totalDiscountMu := 0
  totalTaxMu := 0
  shippingMu := 0
  currencyCode := "INR"
  financialStatus := some "paid"
  cancelledAt := none
  processedAt := some firstOfJune

/-- A customer with two orders today is new in the live plane, and active by the report. -/
theorem repeated_today_unlike : ¬ AnswersAlike [juneOrder "1", juneOrder "2"] := by
  intro h
  have hspans : customerSpans [juneOrder "1", juneOrder "2"] = [⟨some firstOfJune, 2, 2000⟩] := by
    have hlive : liveKnown [juneOrder "1", juneOrder "2"] = [juneOrder "1", juneOrder "2"] := by
      decide
    have hkeys : keysOf OrderFact.customer [juneOrder "1", juneOrder "2"] = ["c1"] := by decide
    have hgroup : groupOf OrderFact.customer [juneOrder "1", juneOrder "2"] "c1" =
        [juneOrder "1", juneOrder "2"] := by decide
    have hnet : (netsOf [juneOrder "1", juneOrder "2"]).sum = 2000 := by decide
    have hlast : ([juneOrder "1", juneOrder "2"].filterMap (·.processedAt)).max? =
        some firstOfJune := by
      simp [juneOrder, List.max?_cons]
    rw [customerSpans, hlive, hkeys, List.map_singleton, hgroup]
    simp only [hnet, hlast]
    rfl
  obtain ⟨lastAt, n, hlast, hn, halike⟩ :=
    (answersAlike_iff.mp h).recency ⟨some firstOfJune, 2, 2000⟩ (by simp [hspans])
  have hlatest : latestAt [juneOrder "1", juneOrder "2"] = some firstOfJune := by
    rw [latestAt, hspans]
    rfl
  cases hlast
  rw [hlatest] at hn
  cases hn
  have hwithin := halike.repeated (by decide)
  rw [within] at hwithin
  simp [Sql.days] at hwithin

end BrainV2.Lifecycle
