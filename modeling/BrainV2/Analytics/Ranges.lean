import BrainV2.Analytics.Facts
import BrainV2.Analytics.NewCustomers
import BrainV2.Analytics.PnlGrid

/-!
# What the readers of a range read

* `SameIn`, `SameLinesIn`, `SameBefore`: two states of the facts agree on the rows of a range, on
  the lines that are counted in it, and on the orders before it;
* `readStoreSummary_same`, `readCogs_same`, `readDailyAcquisition_same` and so on: the readers answer
  the same on both.
-/

namespace BrainV2.Analytics

open Py (Date)
open Sql (FactDateRange Grain Timestamp)
open Grouping

structure SameIn (range : FactDateRange) (facts facts' : Facts) : Prop where
  orders : facts.orders.filter (·.inRange (some range)) =
    facts'.orders.filter (·.inRange (some range))
  adSpend : facts.adSpend.filter (·.inRange (some range)) =
    facts'.adSpend.filter (·.inRange (some range))

theorem SameIn.symm {range : FactDateRange} {facts facts' : Facts} (h : SameIn range facts facts') :
    SameIn range facts' facts := ⟨h.orders.symm, h.adSpend.symm⟩

/-- The same lines have the id of an order of the range. -/
structure SameLinesIn (range : FactDateRange) (facts facts' : Facts) : Prop where
  lineItems : facts.lineItems.filter (·.inRange facts.orders (some range)) =
    facts'.lineItems.filter (·.inRange facts'.orders (some range))
  products : facts.products = facts'.products

/-- The order was placed before a day. -/
def OrderFact.placedBefore (d : Date) (o : OrderFact) : Bool := o.processedAt.any (·.date < d)

def SameBefore (d : Date) (facts facts' : Facts) : Prop :=
  facts.orders.filter (·.placedBefore d) = facts'.orders.filter (·.placedBefore d)

section

variable {range : FactDateRange} {facts facts' : Facts} (h : SameIn range facts facts')
include h

theorem readStoreSummary_same :
    readStoreSummary facts (some range) = readStoreSummary facts' (some range) := by
  unfold readStoreSummary
  rw [h.orders]

theorem readAdSpend_same : readAdSpend facts (some range) = readAdSpend facts' (some range) := by
  unfold readAdSpend
  rw [h.adSpend]

theorem readPnl_same : readPnl facts (some range) = readPnl facts' (some range) := by
  unfold readPnl
  rw [readStoreSummary_same h, readAdSpend_same h]

theorem readMarketing_same : readMarketing facts (some range) = readMarketing facts' (some range) := by
  unfold readMarketing ranked liveIn
  rw [readStoreSummary_same h, readAdSpend_same h, h.orders]

theorem placedIn_same : placedIn range facts.orders = placedIn range facts'.orders := by
  have hInjective : Function.Injective PlacedOrder.order := by
    rintro ⟨o, t, ht⟩ ⟨o', t', ht'⟩ hSame
    cases hSame
    cases ht.symm.trans ht'
    rfl
  apply hInjective.list_map
  rw [map_placedIn, map_placedIn, h.orders]

end

section

variable {range : FactDateRange} {facts facts' : Facts}

theorem readCogs_same (settings : CogsSettings) (hLines : SameLinesIn range facts facts') :
    readCogs settings facts (some range) = readCogs settings facts' (some range) := by
  unfold readCogs linesWithCosts
  rw [hLines.lineItems, hLines.products]

/-- The lines that an order of the range is joined with are counted in the range. -/
theorem lines_of_placed {o : PlacedOrder} (ho : o ∈ placedIn range facts.orders) :
    facts.lineItems.filter (·.vendorOrderId = o.order.vendorOrderId) =
      (facts.lineItems.filter (·.inRange facts.orders (some range))).filter
        (·.vendorOrderId = o.order.vendorOrderId) := by
  rw [List.filter_filter]
  apply List.filter_congr
  intro li _
  have hIn : o.order ∈ facts.orders.filter (·.inRange (some range)) := by
    rw [← map_placedIn]
    exact List.mem_map_of_mem ho
  rw [List.mem_filter] at hIn
  cases hSame : decide (li.vendorOrderId = o.order.vendorOrderId) with
  | false => rfl
  | true =>
    have hId : li.vendorOrderId = o.order.vendorOrderId := of_decide_eq_true hSame
    have hLine : li.inRange facts.orders (some range) = true := by
      rw [LineItemFact.inRange, List.any_eq_true]
      exact ⟨o.order, hIn.1, by rw [hIn.2, hId]; simp⟩
    rw [hLine]
    rfl

theorem costedLines_same (h : SameIn range facts facts') (hLines : SameLinesIn range facts facts') :
    costedLines facts range = costedLines facts' range := by
  unfold costedLines
  rw [placedIn_same h]
  apply List.flatMap_congr
  intro o ho
  have hPlaced : o ∈ placedIn range facts'.orders := (List.mem_filter.mp ho).1
  rw [lines_of_placed (placedIn_same h ▸ hPlaced), lines_of_placed hPlaced, hLines.lineItems,
    hLines.products]

theorem readPnlPeriodGrid_same (h : SameIn range facts facts')
    (hLines : SameLinesIn range facts facts') (locale : DateLocale) (granularity : Grain) :
    readPnlPeriodGrid locale facts range granularity =
      readPnlPeriodGrid locale facts' range granularity := by
  unfold readPnlPeriodGrid
  rw [placedIn_same h, costedLines_same h hLines, h.adSpend]

/-! ### First orders -/

/-- Orders up to the end of the range are in both. -/
theorem mem_of_same (h : SameIn range facts facts') (hBefore : SameBefore range.fromDate facts facts')
    {o : OrderFact} (ho : o ∈ facts.orders) {t : Timestamp} (ht : o.processedAt = some t)
    (hEnd : t.date ≤ range.toDate) : o ∈ facts'.orders := by
  by_cases hEarly : t.date < range.fromDate
  · have hPast : o ∈ facts.orders.filter (·.placedBefore range.fromDate) := by
      rw [List.mem_filter]
      exact ⟨ho, by simp [OrderFact.placedBefore, ht, hEarly]⟩
    rw [hBefore] at hPast
    exact (List.mem_filter.mp hPast).1
  · have hIn : o ∈ facts.orders.filter (·.inRange (some range)) := by
      rw [List.mem_filter]
      refine ⟨ho, ?_⟩
      simp only [OrderFact.inRange, ht, Option.any_some, FactDateRange.has_eq]
      exact FactDateRange.hasDate_iff.mpr ⟨not_lt.mp hEarly, hEnd⟩
    rw [h.orders] at hIn
    exact (List.mem_filter.mp hIn).1

theorem mem_group_of_same (h : SameIn range facts facts')
    (hBefore : SameBefore range.fromDate facts facts') {c : String} {o : OrderFact}
    (ho : o ∈ groupOf OrderFact.customer (liveKnown facts.orders) c) {t : Timestamp}
    (ht : o.processedAt = some t) (hEnd : t.date ≤ range.toDate) :
    o ∈ groupOf OrderFact.customer (liveKnown facts'.orders) c := by
  rw [mem_groupOf, mem_liveKnown] at ho ⊢
  exact ⟨⟨mem_of_same h hBefore ho.1.1 ht hEnd, ho.1.2⟩, ho.2⟩

/-- A customer who is acquired in the range in one state is so in the other. -/
theorem firstAt_same (h : SameIn range facts facts')
    (hBefore : SameBefore range.fromDate facts facts') {c : String} {first : Timestamp}
    (hFirst : firstAt facts.orders c = some first) (hIn : range.hasDate first.date = true) :
    firstAt facts'.orders c = some first := by
  have hEnd := (FactDateRange.hasDate_iff.mp hIn).2
  obtain ⟨⟨o, ho, hPlaced⟩, hLeast⟩ := firstAt_eq_some.mp hFirst
  apply firstAt_eq_some.mpr
  refine ⟨⟨o, mem_group_of_same h hBefore ho hPlaced hEnd, hPlaced⟩, ?_⟩
  intro o' ho' t ht
  by_contra hEarlier
  have hDate : t.date ≤ first.date := Timestamp.date_le (not_le.mp hEarlier).le
  have hBack := mem_group_of_same h.symm hBefore.symm ho' ht (hDate.trans hEnd)
  exact hEarlier (hLeast o' hBack t ht)

theorem acquiredIn_same (h : SameIn range facts facts')
    (hBefore : SameBefore range.fromDate facts facts') :
    acquiredIn facts.orders range = acquiredIn facts'.orders range := by
  have hMem : ∀ facts facts' : Facts, SameIn range facts facts' →
      SameBefore range.fromDate facts facts' →
      ∀ c ∈ acquiredIn facts.orders range, c ∈ acquiredIn facts'.orders range := by
    intro facts facts' h hBefore c hc
    obtain ⟨first, hFirst, hIn⟩ := acquired_iff.mp (List.mem_filter.mp hc).2
    have hSame := firstAt_same h hBefore hFirst hIn
    rw [acquiredIn, List.mem_filter]
    obtain ⟨o, ho, -⟩ := exists_first_order hSame
    have hGroup := mem_groupOf.mp ho
    exact ⟨mem_keysOf.mpr ⟨o, hGroup.1, hGroup.2⟩, acquired_iff.mpr ⟨first, hSame, hIn⟩⟩
  have hSorted : ∀ orders, (acquiredIn orders range).Pairwise (· < ·) := fun orders =>
    sorted_keysOf.filter _
  apply List.Perm.eq_of_pairwise (fun _ _ _ _ hlt hgt => absurd hgt (lt_asymm hlt)) (hSorted _)
    (hSorted _)
  rw [List.perm_ext_iff_of_nodup (hSorted _).nodup (hSorted _).nodup]
  intro c
  exact ⟨hMem facts facts' h hBefore c, hMem facts' facts h.symm hBefore.symm c⟩

/-- The days of acquisition are days of the range. -/
theorem ordersOn_same (h : SameIn range facts facts') {c : String} {day : Date}
    (hDay : range.hasDate day = true) :
    ordersOn facts.orders c day = ordersOn facts'.orders c day := by
  have hSplit : ∀ orders : List OrderFact, ordersOn orders c day =
      (groupOf OrderFact.customer (liveKnown (orders.filter (·.inRange (some range)))) c).filter
        fun o => o.processedAt.any (·.date = day) := by
    intro orders
    simp only [ordersOn, groupOf, liveKnown, List.filter_filter]
    apply List.filter_congr
    intro o _
    cases hPlaced : o.processedAt with
    | none => simp
    | some t =>
      by_cases hSame : t.date = day
      · simp [OrderFact.inRange, hPlaced, FactDateRange.has_eq, hSame, hDay]
      · simp [hSame]
  rw [hSplit, hSplit, h.orders]

theorem acquisitionOrders_eq (orders : List OrderFact) :
    acquisitionOrders orders range = (acquiredIn orders range).flatMap fun c =>
      ((firstAt orders c).toList).flatMap fun acq =>
        (ordersOn orders c acq.date).map fun o => (acq.date, o) := by
  unfold acquisitionOrders acquiredIn
  induction customers orders with
  | nil => rfl
  | cons c rest ih =>
    rw [List.flatMap_cons, ih, List.filter_cons]
    cases hFirst : firstAt orders c with
    | none => simp [acquired, hFirst]
    | some acq =>
      by_cases hIn : range.hasDate acq.date = true
      · simp [acquired, hFirst, FactDateRange.has_eq, hIn]
      · simp [acquired, hFirst, FactDateRange.has_eq, hIn]

theorem readDailyAcquisition_same (h : SameIn range facts facts')
    (hBefore : SameBefore range.fromDate facts facts') :
    readDailyAcquisition facts range = readDailyAcquisition facts' range := by
  have hOrders : acquisitionOrders facts.orders range = acquisitionOrders facts'.orders range := by
    rw [acquisitionOrders_eq, acquisitionOrders_eq, ← acquiredIn_same h hBefore]
    apply List.flatMap_congr
    intro c hc
    obtain ⟨first, hFirst, hIn⟩ := acquired_iff.mp (List.mem_filter.mp hc).2
    rw [hFirst, firstAt_same h hBefore hFirst hIn]
    simp only [Option.toList_some, List.flatMap_cons, List.flatMap_nil, List.append_nil]
    rw [ordersOn_same h hIn]
  unfold readDailyAcquisition
  rw [hOrders, h.adSpend]

end

end BrainV2.Analytics
