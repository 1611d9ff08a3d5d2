import BrainV2.Analytics.Headline

/-!
# The P&L grid

* `readPnlPeriodGrid`: a row for each period that has orders;
* `Reconciles`: its sums are the headline figures of the range;
* `refundedMu`, `strandedMu`: what the sums leave out;
* `reconciles_iff`: they reconcile when nothing is left out.
-/

namespace BrainV2.Analytics

open Py (Date)
open Sql (FactDateRange Grain dateTrunc midnight juneDay)
open Grouping
open Wrapping (Fits)

/-! ### Labels -/

/-- What `toLocaleDateString('en-IN', ...)` writes of a date. -/
structure DateLocale where
  /-- `{ day: '2-digit', month: 'short' }` -/
  dayMonth : Date → String
  /-- `{ month: 'short', year: 'numeric' }` -/
  monthYear : Date → String

/-- The ISO week of a date: the Thursday of the week tells its year. -/
def weekLabel (d : Date) : String :=
  let dow := (d.toOrdinal + 6) % 7 + 1
  let thursday := d.toOrdinal + 4 - dow
  let year := (Py.ofOrdinal thursday).1
  let isoWeek := (thursday - Py.ordinalOf year 1 1 + 1 + 6) / 7
  "W" ++ toString isoWeek ++ " " ++ toString year

def quarterLabel (d : Date) : String :=
  "Q" ++ toString ((d.month - 1) / 3 + 1) ++ " " ++ toString d.year

def periodLabel (locale : DateLocale) (granularity : Grain) (d : Date) : String :=
  match granularity with
  | .day => locale.dayMonth d
  | .week => weekLabel d
  | .month => locale.monthYear d
  | .quarter => quarterLabel d

example : weekLabel ⟨2026, 12, 28, by decide, by decide, by decide⟩ = "W53 2026" := by decide

/-! ### The rows -/

structure FactPnlPeriodRow where
  bucketKey : Date
  label : String
  grossSales : Int
  productGross : Int
  shippingGross : Int
  discounts : Int
  productDiscount : Int
  shippingDiscount : Int
  sales : Int
  netSales : Int
  productNet : Int
  shippingNet : Int
  refunds : Int
  productRefunds : Int
  shippingRefunds : Int
  returnFees : Int
  revenue : Int
  ncNetRevenue : Int
  ecNetRevenue : Int
  netRevenue : Int
  cogs : Int
  variableCosts : Int
  shippingCosts : Int
  returnsCosts : Int
  paymentCosts : Int
  customsCosts : Int
  otherVariable : Int
  adSpend : Int
  metaAdSpend : Int
  googleAdSpend : Int
  contributionMargin1 : Int
  contributionMargin2 : Int
  contributionMargin3 : Int
  fixedCosts : Int
  founderSalaryAllocated : Int
  netProfit : Int
  orders : Nat
  currencyCode : String
deriving DecidableEq

def OrderFact.refunded (o : OrderFact) : Bool := o.status = "refunded"

def periodOf (granularity : Grain) (o : PlacedOrder) : Date := dateTrunc granularity o.placedAt.date

/-- The lines of the live orders of a range, with their costs. -/
def costedLines (facts : Facts) (range : FactDateRange) : List (PlacedOrder × Int) :=
  ((placedIn range facts.orders).filter (·.order.live)).flatMap fun o =>
    (facts.lineItems.filter (·.vendorOrderId = o.order.vendorOrderId)).flatMap fun li =>
      (leftJoin (facts.products.filter (some ·.vendorProductId = li.vendorProductId))).map
        fun pf => (o, li.quantity.toInt * ((pf.bind (·.costMu)).map Int64.toInt).getD 0)

/-- A row of the order aggregates, with what the maps have for its period. -/
def gridRow (locale : DateLocale) (granularity : Grain) (period : Date) (orders : List OrderFact)
    (cogs : Int) (spend : AdSpend) : FactPnlPeriodRow :=
  let live := orders.filter (·.live)
  let grossSales := sumMu OrderFact.grossSalesMu live
  let discounts := sumMu OrderFact.totalDiscountMu live
  let tax := sumMu OrderFact.totalTaxMu live
  let refunds := sumMu OrderFact.grossSalesMu (orders.filter (·.refunded))
  let netSales := grossSales - discounts
  let revenue := netSales - refunds
  let netRevenue := revenue - tax
  let cm1 := netRevenue - cogs
  let cm2 := cm1 - spend.totalMu
  { bucketKey := period
    label := periodLabel locale granularity period
    grossSales := grossSales
    productGross := 0
    shippingGross := 0
    discounts := discounts
    productDiscount := 0
    shippingDiscount := 0
    sales := grossSales
    netSales := netSales
    productNet := 0
    shippingNet := 0
    refunds := refunds
    productRefunds := refunds
    shippingRefunds := 0
    returnFees := 0
    revenue := revenue
    ncNetRevenue := 0
    ecNetRevenue := 0
    netRevenue := netRevenue
    cogs := cogs
    variableCosts := 0
    shippingCosts := 0
    returnsCosts := 0
    paymentCosts := 0
    customsCosts := 0
    otherVariable := 0
    adSpend := spend.totalMu
    metaAdSpend := spend.metaMu
    googleAdSpend := spend.googleMu
    contributionMargin1 := cm1
    contributionMargin2 := cm2
    contributionMargin3 := cm2
    fixedCosts := 0
    founderSalaryAllocated := 0
    netProfit := cm2
    orders := live.length
    currencyCode := currencyOf orders }

def readPnlPeriodGrid (locale : DateLocale) (facts : Facts) (range : FactDateRange)
    (granularity : Grain) : Except PgError (List FactPnlPeriodRow) :=
  let placed := placedIn range facts.orders
  let lines := costedLines facts range
  let linePeriod := fun line : PlacedOrder × Int => periodOf granularity line.1
  let cogsMap := (keysOf linePeriod lines).map fun k =>
    (k, ((groupOf linePeriod lines k).map Prod.snd).sum)
  let spendMap := spendByPeriod spendMu (fun a => dateTrunc granularity a.spendDate)
    (facts.adSpend.filter (·.inRange (some range)))
  bigints (lines.map Prod.snd) <| (keysOf (periodOf granularity) placed).map fun k =>
    gridRow locale granularity k ((groupOf (periodOf granularity) placed k).map (·.order))
      ((cogsMap.lookup k).getD 0) ((spendMap.lookup k).getD AdSpend.none)

/-! ### What the rows sum to -/

/-- The sums of the grid are the headline figures. -/
def Reconciles (locale : DateLocale) (facts : Facts) (range : FactDateRange)
    (granularity : Grain) : Prop :=
  ∃ rows, readPnlPeriodGrid locale facts range granularity = .ok rows ∧
    (rows.map (·.revenue)).sum = (readPnl facts (some range)).netRevenueMu ∧
    (rows.map (·.adSpend)).sum = (readPnl facts (some range)).totalAdSpendMu ∧
    (rows.map (·.orders)).sum = (liveIn (some range) facts.orders).length

/-- The gross sales of the refunded orders of a range. -/
def refundedMu (facts : Facts) (range : FactDateRange) : Int :=
  sumMu OrderFact.grossSalesMu
    ((facts.orders.filter (·.inRange (some range))).filter (·.refunded))

/-- No order of the range is in the period of this spend. -/
def Stranded (facts : Facts) (range : FactDateRange) (granularity : Grain) (a : AdSpendFact) :
    Prop :=
  ∀ o ∈ placedIn range facts.orders, periodOf granularity o ≠ dateTrunc granularity a.spendDate

instance (facts : Facts) (range : FactDateRange) (granularity : Grain) :
    DecidablePred (Stranded facts range granularity) :=
  fun _ => inferInstanceAs (Decidable (∀ _ ∈ _, _))

/-- The spend of the two vendors on the periods of a range that have no order. -/
def strandedMu (facts : Facts) (range : FactDateRange) (granularity : Grain) : Int :=
  (((facts.adSpend.filter (·.inRange (some range))).filter
    (Stranded facts range granularity ·)).map (·.countedMu)).sum

section

variable {locale : DateLocale} {facts : Facts} {range : FactDateRange} {granularity : Grain}

variable (facts range granularity) in
/-- A sum over the orders of each period is a sum over the orders of the range. -/
theorem sum_over_periods {M : Type} [AddCommMonoid M] (p : OrderFact → Bool) (f : OrderFact → M) :
    ((keysOf (periodOf granularity) (placedIn range facts.orders)).map fun k =>
      ((((groupOf (periodOf granularity) (placedIn range facts.orders) k).map
        (·.order)).filter p).map f).sum).sum =
      (((facts.orders.filter (·.inRange (some range))).filter p).map f).sum := by
  have hgroup : ∀ k, ((((groupOf (periodOf granularity) (placedIn range facts.orders) k).map
        (·.order)).filter p).map f).sum =
      ((groupOf (periodOf granularity)
        ((placedIn range facts.orders).filter fun o => p o.order) k).map fun o => f o.order).sum := by
    intro k
    rw [List.filter_map, List.map_map, Function.comp_def, groupOf_filter]
    rfl
  have hkeys : ∀ o ∈ (placedIn range facts.orders).filter fun o => p o.order,
      periodOf granularity o ∈ keysOf (periodOf granularity) (placedIn range facts.orders) :=
    fun o ho => mem_keysOf.mpr ⟨o, List.mem_of_mem_filter ho, rfl⟩
  simp only [hgroup]
  rw [sum_groups _ _ _ (nodup_keysOf _ _), filter_mem_keys hkeys, ← map_placedIn, List.filter_map,
    List.map_map]
  rfl

theorem sum_spend_of_periods : ((keysOf (periodOf granularity) (placedIn range facts.orders)).map
    fun k => (adSpendOf spendMu ((facts.adSpend.filter (·.inRange (some range))).filter
      (dateTrunc granularity ·.spendDate = k))).totalMu).sum =
    (readPnl facts (some range)).totalAdSpendMu - strandedMu facts range granularity := by
  have hstranded : ∀ a : AdSpendFact, decide (Stranded facts range granularity a) =
      !decide (dateTrunc granularity a.spendDate ∈
        keysOf (periodOf granularity) (placedIn range facts.orders)) := by
    intro a
    rw [Bool.eq_iff_iff, decide_eq_true_iff, Bool.not_eq_true', decide_eq_false_iff_not]
    simp [Stranded]
  have hsplit := sum_filter_add_sum_filter
    (fun a : AdSpendFact => decide (dateTrunc granularity a.spendDate ∈
      keysOf (periodOf granularity) (placedIn range facts.orders)))
    (·.countedMu) (facts.adSpend.filter (·.inRange (some range)))
  have hgroups := sum_groups (fun a : AdSpendFact => dateTrunc granularity a.spendDate)
    (facts.adSpend.filter (·.inRange (some range))) (·.countedMu)
    (nodup_keysOf (periodOf granularity) (placedIn range facts.orders))
  simp only [totalMu_adSpendOf]
  rw [totalAdSpendMu_readPnl, strandedMu]
  simp only [hstranded]
  simp only [groupOf] at hgroups
  omega

/-- What the grid leaves out: refunds are deducted again, and stranded spend is not shown. -/
theorem grid_sums {rows : List FactPnlPeriodRow}
    (h : readPnlPeriodGrid locale facts range granularity = .ok rows) :
    (rows.map (·.revenue)).sum =
        (readPnl facts (some range)).netRevenueMu - refundedMu facts range ∧
      (rows.map (·.adSpend)).sum =
        (readPnl facts (some range)).totalAdSpendMu - strandedMu facts range granularity ∧
      (rows.map (·.orders)).sum = (liveIn (some range) facts.orders).length := by
  obtain ⟨-, rfl⟩ := bigints_ok_iff.mp h
  simp only [List.map_map, Function.comp_def, gridRow]
  refine ⟨?_, ?_, ?_⟩
  · have hgross := sum_over_periods facts range granularity (·.live) fun o => o.grossSalesMu.toInt
    have hdiscount := sum_over_periods facts range granularity (·.live)
      fun o => o.totalDiscountMu.toInt
    have hrefunded := sum_over_periods facts range granularity (·.refunded)
      fun o => o.grossSalesMu.toInt
    rw [sum_map_sub, sum_map_sub]
    simp only [readPnl, readStoreSummary, netSalesOf, refundedMu, sumMu]
    rw [hgross, hdiscount, hrefunded]
  · simp only [getD_spendByPeriod spendMu rfl]
    exact sum_spend_of_periods
  · have hlive := sum_over_periods facts range granularity (·.live) fun _ => 1
    simpa [liveIn] using hlive

end

/-- Exactly then the grid reconciles with the headline. -/
structure NothingLeftOut (facts : Facts) (range : FactDateRange) (granularity : Grain) : Prop where
  costs : ∀ line ∈ costedLines facts range, Fits line.2
  refunds : refundedMu facts range = 0
  spend : strandedMu facts range granularity = 0

theorem reconciles_iff (locale : DateLocale) (facts : Facts) (range : FactDateRange)
    (granularity : Grain) : Reconciles locale facts range granularity ↔
      NothingLeftOut facts range granularity := by
  constructor
  · rintro ⟨rows, hrows, hrevenue, hspend, -⟩
    obtain ⟨hgrid, hshown, -⟩ := grid_sums hrows
    have hcosts := (bigints_ok_iff.mp hrows).1
    refine ⟨fun line hline => hcosts _ (List.mem_map_of_mem hline), ?_, ?_⟩
    · omega
    · omega
  · intro h
    have hcosts : ∀ v ∈ (costedLines facts range).map Prod.snd, Fits v := by
      intro v hv
      obtain ⟨line, hline, rfl⟩ := List.mem_map.mp hv
      exact h.costs line hline
    have hrows : readPnlPeriodGrid locale facts range granularity = .ok _ := bigints_ok hcosts
    obtain ⟨hgrid, hshown, horders⟩ := grid_sums hrows
    refine ⟨_, hrows, ?_, ?_, horders⟩
    · rw [hgrid, h.refunds, sub_zero]
    · rw [hshown, h.spend, sub_zero]

/-- A paid order of 500 and a refunded one of 200, on the tenth of June. -/
def saleAndRefund : Facts where
  orders :=
    [⟨"SHOPIFY", "1", some "7", 50000, 0, 0, 0, "INR", some "paid", none,
        some (midnight (juneDay 10))⟩,
      ⟨"SHOPIFY", "2", some "8", 20000, 0, 0, 0, "INR", some "refunded", none,
        some (midnight (juneDay 10))⟩]
  lineItems := []
  products := []
  adSpend := []

/-- The refunded order is no revenue of the headline, and is deducted from the grid's. -/
theorem refund_deducted_twice : ¬ ∀ locale facts range granularity,
    Reconciles locale facts range granularity := by
  intro h
  obtain ⟨rows, hrows, hrevenue, -⟩ := h ⟨fun _ => "10 Jun", fun _ => "Jun 2026"⟩ saleAndRefund
    ⟨juneDay 1, juneDay 30⟩ .day
  have hgrid := (grid_sums hrows).1
  have hrefunded : refundedMu saleAndRefund ⟨juneDay 1, juneDay 30⟩ = 20000 := by decide
  omega

end BrainV2.Analytics
