import BrainV2.Analytics.ChFacts

/-!
# Acquisition and calendar series in both stores

* `readDailyAcquisitionCH`, `readCalendarReportCH`;
* `acquisitionOrders_pg`, `acquisitionOrders_ch`: both stores join the same orders;
* `DailyAgrees`, `CalendarAgrees`: the conditions on days and on periods;
* `sameSeries_iff`: the series are the same exactly under these.
-/

namespace BrainV2.Analytics

open Py (Date)
open Sql (Timestamp FactDateRange midnight juneDay dateTrunc startOfMonth toMonday epochDate)
open Grouping
open Wrapping (Fits)

/-! ### The readers -/

namespace ChOrderFact

/-- `gross_sales_mu - discount_mu - tax_mu` -/
def netOfTaxMu (o : ChOrderFact) : Int64 := o.grossSalesMu - o.discountMu - o.taxMu

end ChOrderFact

/-- `sum(spend_mu)` -/
def chSpendMu (rows : List AdSpendFact) : Int := sumInt64 (rows.map (·.spendMu))

/-- `firsts` joined with the orders of the acquisition day, for the days of a range. -/
def chAcquisitionOrders (orders : List ChOrderFact) (range : FactDateRange) :
    List (Date × ChOrderFact) :=
  (keysOf ChOrderFact.customerRef (chKnownOrders orders)).flatMap fun c =>
    match chFirstAt orders c with
    | none => []
    | some acq =>
      if range.hasDate acq.date then
        ((groupOf ChOrderFact.customerRef (chKnownOrders orders) c).filter
          (·.placedAt.date = acq.date)).map fun o => (acq.date, o)
      else []

def readDailyAcquisitionCH (orders : List ChOrderFact) (adSpend : List AdSpendFact)
    (range : FactDateRange) : List FactDailyAcquisitionRow :=
  let joined := chAcquisitionOrders orders range
  let spendMap := spendByPeriod chSpendMu (·.spendDate) (adSpend.filter (·.inRange (some range)))
  (keysOf Prod.fst joined).map fun day =>
    let rows := groupOf Prod.fst joined day
    acquisitionRow day rows.length (sumInt64 (rows.map (·.2.netOfTaxMu)))
      ((spendMap.lookup day).getD AdSpend.none)

/-- `toDate`, `toMonday`, `toStartOfMonth` -/
def truncFn : CalendarGrain → Date → Date
  | .day, d => d
  | .week, d => toMonday d
  | .month, d => startOfMonth d

def ChOrderFact.period (grain : CalendarGrain) (o : ChOrderFact) : WithTop Date :=
  (truncFn grain o.placedAt.date : Date)

/-- `f.acq` of an order joined with `firsts`: the default of its type when there is no match. -/
def chJoinedAcq (orders : List ChOrderFact) (o : ChOrderFact) : Timestamp :=
  (if o.known then chFirstAt orders o.customerRef else none).getD (midnight epochDate)

def calendarRowCH (orders : List ChOrderFact) (adSpend : List AdSpendFact) (grain : CalendarGrain)
    (k : WithTop Date) : FactCalendarRow :=
  let rows := groupOf (ChOrderFact.period grain) (orders.filter (·.live)) k
  { periodKey := k
    revenueMu := sumInt64 (rows.map (·.netOfTaxMu))
    orders := rows.length
    newCustomers := (rows.filter fun o => chJoinedAcq orders o = o.placedAt).length
    spendMu := periodSpend chSpendMu (fun a => (truncFn grain a.spendDate : Date)) adSpend k }

def readCalendarReportCH (orders : List ChOrderFact) (adSpend : List AdSpendFact)
    (grain : CalendarGrain) : List FactCalendarRow :=
  ((keysOf (ChOrderFact.period grain) (orders.filter (·.live))).reverse.take 90).map
    (calendarRowCH orders adSpend grain)

/-! ### Facts in both stores -/

structure SharedFacts where
  orders : List SharedOrder
  lineItems : List LineItemFact
  products : List ProductFact
  adSpend : List AdSpendFact
  spendDatable : ∀ a ∈ adSpend, epochDate ≤ a.spendDate

namespace SharedFacts

def pg (facts : SharedFacts) : Facts where
  orders := facts.orders.map (·.placed.order)
  lineItems := facts.lineItems
  products := facts.products
  adSpend := facts.adSpend

/-- The readers of both stores return the same rows. -/
structure SameSeries (facts : SharedFacts) (range : FactDateRange) (grain : CalendarGrain) :
    Prop where
  daily : readDailyAcquisition facts.pg range =
    .ok (readDailyAcquisitionCH (Shared.ch facts.orders) facts.adSpend range)
  calendar : readCalendarReport facts.pg grain =
    .ok (readCalendarReportCH (Shared.ch facts.orders) facts.adSpend grain)

end SharedFacts

/-- The tax of the row. -/
def SharedOrder.taxMu (o : SharedOrder) : Int := o.placed.order.totalTaxMu.toInt

/-- The revenue of rows is the same in both stores: it fits, and the tax that one of them takes off
is lost in 64 bits. -/
def RevenueAgrees (rows : List SharedOrder) : Prop :=
  Fits (rows.map (·.netMu)).sum ∧ (rows.map (·.taxMu)).sum % 18446744073709551616 = 0

/-- The orders of the acquisition days of a range. -/
def Shared.acquisitionOrders (orders : List SharedOrder) (range : FactDateRange) :
    List (Date × SharedOrder) :=
  (Shared.customers orders).flatMap fun c =>
    match Shared.firstAt orders c with
    | none => []
    | some acq =>
      if range.hasDate acq.date then
        ((Shared.ofCustomer orders c).filter (·.placedAt.date = acq.date)).map fun o => (acq.date, o)
      else []

section

variable {facts : SharedFacts} {orders : List SharedOrder} {range : FactDateRange}
  {grain : CalendarGrain} {c : String}

theorem netOfTaxMu_ch (o : SharedOrder) : o.ch.netOfTaxMu = Int64.ofInt (o.netMu - o.taxMu) := by
  rw [SharedOrder.taxMu, Int64.ofInt_sub, ← o.netMu_ch, Int64.ofInt_toInt]
  rfl

theorem sumInt64_netOfTax (rows : List SharedOrder) :
    sumInt64 (rows.map (·.ch.netOfTaxMu)) = (rows.map (·.netMu)).sum ↔ RevenueAgrees rows := by
  have hvalues : rows.map (·.ch.netOfTaxMu) =
      (rows.map fun o => o.netMu - o.taxMu).map Int64.ofInt := by
    rw [List.map_map]
    exact List.map_congr_left fun o _ => netOfTaxMu_ch o
  have htax : ∀ net tax : Int, (net - tax - net) % 18446744073709551616 = 0 ↔
      tax % 18446744073709551616 = 0 := by omega
  rw [hvalues, sumInt64_eq_iff, sum_map_sub, RevenueAgrees, htax]

theorem chSpendMu_eq_iff (rows : List AdSpendFact) :
    chSpendMu rows = spendMu rows ↔ Fits (spendMu rows) := by
  have hvalues : rows.map (·.spendMu) = (rows.map (·.spendMu.toInt)).map Int64.ofInt := by
    rw [List.map_map]
    exact List.map_congr_left fun a _ => (Int64.ofInt_toInt a.spendMu).symm
  rw [chSpendMu, hvalues, sumInt64_eq_iff]
  simp [spendMu]

/-! ### First orders -/

theorem liveKnown_pg : liveKnown (orders.map (·.placed.order)) =
    (Shared.known orders).map (·.placed.order) := by
  rw [liveKnown, List.filter_map, List.filter_map, List.filter_filter, Shared.known]
  congr 1
  apply List.filter_congr
  intro o _
  rw [Bool.eq_iff_iff, decide_eq_true_iff]
  simp [and_comm]

theorem ofCustomer_pg : groupOf OrderFact.customer (liveKnown (orders.map (·.placed.order))) c =
    (Shared.ofCustomer orders c).map (·.placed.order) := by
  rw [liveKnown_pg, groupOf_map]
  rfl

theorem firstAt_pg : firstAt (orders.map (·.placed.order)) c = Shared.firstAt orders c := by
  rw [firstAt, ofCustomer_pg, Shared.firstAt, List.filterMap_map]
  congr 1
  have hplaced : (fun o : SharedOrder => o.placed.order.processedAt) = fun o => some o.placedAt :=
    funext fun o => o.placed.placed
  rw [Function.comp_def, hplaced, List.filterMap_eq_map']

/-! ### The daily series -/

theorem customers_pg : customers (orders.map (·.placed.order)) = Shared.customers orders := by
  rw [customers, liveKnown_pg, keysOf_map]
  rfl

theorem acquisitionOrders_pg : acquisitionOrders (orders.map (·.placed.order)) range =
    (Shared.acquisitionOrders orders range).map fun row => (row.1, row.2.placed.order) := by
  rw [acquisitionOrders, Shared.acquisitionOrders, customers_pg, List.map_flatMap]
  apply List.flatMap_congr
  intro c _
  rw [firstAt_pg]
  cases Shared.firstAt orders c with
  | none => rfl
  | some acq =>
    have hon : ordersOn (orders.map (·.placed.order)) c acq.date =
        ((Shared.ofCustomer orders c).filter (·.placedAt.date = acq.date)).map
          (·.placed.order) := by
      rw [ordersOn, ofCustomer_pg, List.filter_map]
      congr 1
      apply List.filter_congr
      intro o _
      rw [Function.comp_apply, o.placed.placed]
      rfl
    simp only [hon]
    split
    · rw [List.map_map, List.map_map]
      rfl
    · rfl

theorem acquisitionOrders_ch : chAcquisitionOrders (Shared.ch orders) range =
    (Shared.acquisitionOrders orders range).map fun row => (row.1, row.2.ch) := by
  rw [chAcquisitionOrders, Shared.acquisitionOrders, keysOf_ch, List.map_flatMap]
  apply List.flatMap_congr
  intro c _
  rw [chFirstAt_ch, groupOf_ch]
  cases Shared.firstAt orders c with
  | none => rfl
  | some acq =>
    simp only [List.filter_map]
    split
    · rw [List.map_map, List.map_map]
      rfl
    · rfl

theorem acquisitionRow_inj {day : Date} {nc : Nat} {rev rev' : Int} {spend spend' : AdSpend} :
    acquisitionRow day nc rev spend = acquisitionRow day nc rev' spend' ↔
      rev = rev' ∧ spend = spend' := by
  constructor
  · intro h
    have hrev := congrArg FactDailyAcquisitionRow.ncRevenueMu h
    have hmeta := congrArg FactDailyAcquisitionRow.metaSpendMu h
    have hgoogle := congrArg FactDailyAcquisitionRow.googleSpendMu h
    obtain ⟨metaMu, googleMu⟩ := spend
    obtain ⟨metaMu', googleMu'⟩ := spend'
    simp only [acquisitionRow] at hrev hmeta hgoogle
    exact ⟨hrev, by rw [hmeta, hgoogle]⟩
  · rintro ⟨rfl, rfl⟩
    rfl

end

/-- The orders of the acquisition days of a range, by their days. -/
def Shared.onDay (orders : List SharedOrder) (range : FactDateRange) (day : Date) :
    List SharedOrder :=
  (groupOf Prod.fst (Shared.acquisitionOrders orders range) day).map Prod.snd

/-- The spend of a range on a day. -/
def SharedFacts.spendOn (facts : SharedFacts) (range : FactDateRange) (day : Date) :
    List AdSpendFact :=
  (facts.adSpend.filter (·.inRange (some range))).filter (·.spendDate = day)

/-- Of the acquisition days of a range: the numbers fit, and no tax is seen. -/
structure DailyAgrees (facts : SharedFacts) (range : FactDateRange) : Prop where
  nets : ∀ row ∈ Shared.acquisitionOrders facts.orders range, Fits row.2.netMu
  revenue : ∀ day ∈ keysOf Prod.fst (Shared.acquisitionOrders facts.orders range),
    RevenueAgrees (Shared.onDay facts.orders range day)
  spend : ∀ day ∈ keysOf Prod.fst (Shared.acquisitionOrders facts.orders range),
    ∀ vendor ∈ ["META", "GOOGLE"],
      Fits (spendMu (groupOf AdSpendFact.vendor (facts.spendOn range day) vendor))

section

variable {facts : SharedFacts} {range : FactDateRange}

theorem groupOf_day_pg (day : Date) :
    groupOf Prod.fst (acquisitionOrders facts.pg.orders range) day =
      (groupOf Prod.fst (Shared.acquisitionOrders facts.orders range) day).map
        fun row => (row.1, row.2.placed.order) := by
  rw [SharedFacts.pg, acquisitionOrders_pg, groupOf_map]
  rfl

theorem groupOf_day_ch (day : Date) :
    groupOf Prod.fst (chAcquisitionOrders (Shared.ch facts.orders) range) day =
      (groupOf Prod.fst (Shared.acquisitionOrders facts.orders range) day).map
        fun row => (row.1, row.2.ch) := by
  rw [acquisitionOrders_ch, groupOf_map]
  rfl

theorem adSpendOf_eq_iff {rows : List AdSpendFact} :
    adSpendOf spendMu rows = adSpendOf chSpendMu rows ↔ ∀ vendor ∈ ["META", "GOOGLE"],
      Fits (spendMu (groupOf AdSpendFact.vendor rows vendor)) := by
  rw [adSpendOf, adSpendOf, AdSpend.mk.injEq, eq_comm, chSpendMu_eq_iff, eq_comm, chSpendMu_eq_iff]
  simp

/-- The rows of a day are the same in both stores when its revenue and its spend are. -/
theorem acquisitionRow_agrees (day : Date) :
    acquisitionRow day
        (groupOf Prod.fst (acquisitionOrders facts.pg.orders range) day).length
        ((groupOf Prod.fst (acquisitionOrders facts.pg.orders range) day).map (·.2.netMu)).sum
        (((spendByPeriod spendMu (·.spendDate)
          (facts.adSpend.filter (·.inRange (some range)))).lookup day).getD AdSpend.none) =
      acquisitionRow day
        (groupOf Prod.fst (chAcquisitionOrders (Shared.ch facts.orders) range) day).length
        (sumInt64 ((groupOf Prod.fst (chAcquisitionOrders (Shared.ch facts.orders) range) day).map
          (·.2.netOfTaxMu)))
        (((spendByPeriod chSpendMu (·.spendDate)
          (facts.adSpend.filter (·.inRange (some range)))).lookup day).getD AdSpend.none) ↔
      RevenueAgrees (Shared.onDay facts.orders range day) ∧
        ∀ vendor ∈ ["META", "GOOGLE"],
          Fits (spendMu (groupOf AdSpendFact.vendor (facts.spendOn range day) vendor)) := by
  have hpg : ((groupOf Prod.fst (Shared.acquisitionOrders facts.orders range) day).map
        fun row => (row.1, row.2.placed.order)).map (·.2.netMu) =
      (Shared.onDay facts.orders range day).map (·.netMu) := by
    rw [Shared.onDay, List.map_map, List.map_map]
    rfl
  have hch : ((groupOf Prod.fst (Shared.acquisitionOrders facts.orders range) day).map
        fun row => (row.1, row.2.ch)).map (·.2.netOfTaxMu) =
      (Shared.onDay facts.orders range day).map (·.ch.netOfTaxMu) := by
    rw [Shared.onDay, List.map_map, List.map_map]
    rfl
  rw [groupOf_day_pg, groupOf_day_ch, List.length_map, List.length_map, acquisitionRow_inj,
    getD_spendByPeriod spendMu rfl, getD_spendByPeriod chSpendMu rfl, hpg, hch, eq_comm,
    sumInt64_netOfTax, adSpendOf_eq_iff]
  rfl

end

theorem daily_iff (facts : SharedFacts) (range : FactDateRange) :
    readDailyAcquisition facts.pg range =
      .ok (readDailyAcquisitionCH (Shared.ch facts.orders) facts.adSpend range) ↔
    DailyAgrees facts range := by
  have hnets : (∀ v ∈ netsOf ((acquisitionOrders facts.pg.orders range).map Prod.snd), Fits v) ↔
      ∀ row ∈ Shared.acquisitionOrders facts.orders range, Fits row.2.netMu := by
    rw [SharedFacts.pg, acquisitionOrders_pg, netsOf, List.map_map, List.map_map]
    exact List.forall_mem_map
  have hkeys : keysOf Prod.fst (acquisitionOrders facts.pg.orders range) =
      keysOf Prod.fst (Shared.acquisitionOrders facts.orders range) := by
    rw [SharedFacts.pg, acquisitionOrders_pg, keysOf_map]
    rfl
  have hchKeys : keysOf Prod.fst (chAcquisitionOrders (Shared.ch facts.orders) range) =
      keysOf Prod.fst (Shared.acquisitionOrders facts.orders range) := by
    rw [acquisitionOrders_ch, keysOf_map]
    rfl
  rw [readDailyAcquisition, bigints_ok_iff, hnets, hkeys, readDailyAcquisitionCH, hchKeys,
    List.map_inj_left]
  constructor
  · rintro ⟨hfits, hrows⟩
    exact ⟨hfits, fun day hday => ((acquisitionRow_agrees day).mp (hrows day hday)).1,
      fun day hday => ((acquisitionRow_agrees day).mp (hrows day hday)).2⟩
  · rintro ⟨hfits, hrevenue, hspend⟩
    exact ⟨hfits, fun day hday =>
      (acquisitionRow_agrees day).mpr ⟨hrevenue day hday, hspend day hday⟩⟩

/-! ### Periods -/

/-- Where ClickHouse puts a period. -/
def shift (k : WithTop Date) : WithTop Date := max k epochDate

/-- A period of a date that ClickHouse has. -/
def PeriodOf (grain : CalendarGrain) (k : WithTop Date) : Prop :=
  ∃ d, epochDate ≤ d ∧ k = (dateTrunc grain.trunc d : Date)

section

variable {grain : CalendarGrain}

theorem epochDate_le_startOfMonth {d : Date} (h : epochDate ≤ d) : epochDate ≤ startOfMonth d := by
  have hmonth := d.monthBound
  have hday := d.dayBound.2.trans (Py.daysInMonth_le _ _)
  change epochDate.number ≤ d.number at h
  change epochDate.number ≤ (startOfMonth d).number
  simp only [Date.number, epochDate, startOfMonth, Sql.firstOfMonth] at h ⊢
  omega

theorem truncFn_eq {d : Date} (h : epochDate ≤ d) :
    truncFn grain d = max (dateTrunc grain.trunc d) epochDate := by
  cases grain with
  | day => exact (max_eq_left h).symm
  | week => rfl
  | month => exact (max_eq_left (epochDate_le_startOfMonth h)).symm

theorem shift_dateTrunc {d : Date} (h : epochDate ≤ d) :
    shift (dateTrunc grain.trunc d : Date) = (truncFn grain d : Date) := by
  rw [truncFn_eq h, shift, WithTop.coe_max]

theorem shift_lt {a b : WithTop Date} (ha : PeriodOf grain a) (hb : PeriodOf grain b)
    (h : a < b) : shift a < shift b := by
  obtain ⟨d, hd, rfl⟩ := ha
  obtain ⟨e, he, rfl⟩ := hb
  rw [shift_dateTrunc hd, shift_dateTrunc he, WithTop.coe_lt_coe]
  rw [WithTop.coe_lt_coe] at h
  cases grain with
  | day => exact h
  | week => exact Sql.toMonday_lt hd he h
  | month => exact h

theorem shift_inj {a b : WithTop Date} (ha : PeriodOf grain a) (hb : PeriodOf grain b) :
    shift a = shift b ↔ a = b := by
  constructor
  · intro h
    apply le_antisymm
    · exact le_of_not_gt fun hlt => (shift_lt hb ha hlt).ne' h
    · exact le_of_not_gt fun hlt => (shift_lt ha hb hlt).ne h
  · exact fun h => congrArg shift h

end

/-! ### The calendar -/

namespace Shared

variable (orders : List SharedOrder) (grain : CalendarGrain)

/-- The live orders, with guests. -/
def live : List SharedOrder := orders.filter (·.placed.order.live)

end Shared

/-- The period of an order in PostgreSQL. -/
def SharedOrder.period (grain : CalendarGrain) (o : SharedOrder) : WithTop Date :=
  (dateTrunc grain.trunc o.placedAt.date : Date)

/-- The live orders of a period. -/
def Shared.inPeriod (orders : List SharedOrder) (grain : CalendarGrain) (k : WithTop Date) :
    List SharedOrder := groupOf (SharedOrder.period grain) (Shared.live orders) k

section

variable {facts : SharedFacts} {orders : List SharedOrder} {grain : CalendarGrain}
  {k : WithTop Date} {o : SharedOrder}

theorem period_pg (o : SharedOrder) : OrderFact.period grain.trunc o.placed.order = o.period grain := by
  rw [OrderFact.period, o.placed.placed]
  rfl

theorem period_ch (o : SharedOrder) : o.ch.period grain = shift (o.period grain) :=
  (shift_dateTrunc o.datable.1).symm

theorem periodOf_period (o : SharedOrder) : PeriodOf grain (o.period grain) :=
  ⟨o.placedAt.date, o.datable.1, rfl⟩

theorem live_pg : (orders.map (·.placed.order)).filter (·.live) =
    (Shared.live orders).map (·.placed.order) := by
  rw [List.filter_map]
  rfl

theorem live_ch : (Shared.ch orders).filter (·.live) = (Shared.live orders).map (·.ch) := by
  rw [Shared.ch, List.filter_map]
  rfl

theorem keysOf_period_pg :
    keysOf (OrderFact.period grain.trunc) ((orders.map (·.placed.order)).filter (·.live)) =
      keysOf (SharedOrder.period grain) (Shared.live orders) := by
  rw [live_pg, keysOf_map]
  congr 1
  exact funext period_pg

theorem shift_lt_keys : ∀ a ∈ keysOf (SharedOrder.period grain) (Shared.live orders),
    ∀ b ∈ keysOf (SharedOrder.period grain) (Shared.live orders), a < b → shift a < shift b := by
  intro a ha b hb
  obtain ⟨o, -, rfl⟩ := mem_keysOf.mp ha
  obtain ⟨p, -, rfl⟩ := mem_keysOf.mp hb
  exact shift_lt (periodOf_period o) (periodOf_period p)

theorem keysOf_period_ch :
    keysOf (ChOrderFact.period grain) ((Shared.ch orders).filter (·.live)) =
      (keysOf (SharedOrder.period grain) (Shared.live orders)).map shift := by
  rw [live_ch, keysOf_map, ← keysOf_comp shift_lt_keys]
  congr 1
  exact funext period_ch

theorem groupOf_period_pg :
    groupOf (OrderFact.period grain.trunc) ((orders.map (·.placed.order)).filter (·.live)) k =
      (Shared.inPeriod orders grain k).map (·.placed.order) := by
  rw [live_pg, groupOf_map, Shared.inPeriod]
  congr 2
  exact funext period_pg

theorem groupOf_period_ch (hk : k ∈ keysOf (SharedOrder.period grain) (Shared.live orders)) :
    groupOf (ChOrderFact.period grain) ((Shared.ch orders).filter (·.live)) (shift k) =
      (Shared.inPeriod orders grain k).map (·.ch) := by
  rw [live_ch, groupOf_map, Shared.inPeriod, ← groupOf_comp shift_lt_keys hk]
  congr 2
  exact funext period_ch

theorem isFirst_pg (o : SharedOrder) : isFirst (orders.map (·.placed.order)) o.placed.order =
    (o.placed.order.known && decide (Shared.firstAt orders o.customer = some o.placedAt)) := by
  have hcustomer : o.placed.order.customer = o.customer := rfl
  rw [isFirst, hcustomer, firstAt_pg, o.placed.placed]
  simp only [Option.isSome_some, true_and, Bool.decide_and, Bool.decide_eq_true]
  rfl

theorem exists_shared_firstAt (ho : o ∈ Shared.live orders) (hknown : o.placed.order.known = true) :
    ∃ acq, Shared.firstAt orders o.customer = some acq := by
  obtain ⟨hmem, hlive⟩ := List.mem_filter.mp ho
  cases hfirst : Shared.firstAt orders o.customer with
  | some acq => exact ⟨acq, rfl⟩
  | none =>
    rw [Shared.firstAt, List.min?_eq_none_iff, List.map_eq_nil_iff] at hfirst
    have hin : o ∈ Shared.ofCustomer orders o.customer :=
      mem_groupOf.mpr ⟨List.mem_filter.mpr ⟨hmem, decide_eq_true ⟨hlive, hknown⟩⟩, rfl⟩
    rw [hfirst] at hin
    cases hin

/-- A guest's order is joined with the default of the type, the start of 1970. -/
theorem chJoinedAcq_ch (ho : o ∈ Shared.live orders) :
    chJoinedAcq (Shared.ch orders) o.ch = o.ch.placedAt ↔
      if o.placed.order.known then Shared.firstAt orders o.customer = some o.placedAt
      else o.placedAt = midnight epochDate := by
  have hcustomer : o.ch.customerRef = o.customer := rfl
  have hplaced : o.ch.placedAt = o.placedAt := rfl
  rw [chJoinedAcq, o.known_ch, hcustomer, hplaced, chFirstAt_ch]
  cases hknown : o.placed.order.known with
  | true =>
    obtain ⟨acq, hacq⟩ := exists_shared_firstAt ho hknown
    simp [hacq]
  | false => simp [eq_comm]

variable (orders grain k) in
/-- The stores count the same new customers when no guest ordered then. -/
theorem newCustomers_agree :
    (((Shared.inPeriod orders grain k).map (·.placed.order)).filter
        (isFirst (orders.map (·.placed.order)))).length =
      (((Shared.inPeriod orders grain k).map (·.ch)).filter
        fun o => chJoinedAcq (Shared.ch orders) o = o.placedAt).length ↔
    ∀ o ∈ Shared.inPeriod orders grain k, o.placed.order.known = false →
      o.placedAt ≠ midnight epochDate := by
  have hlive : ∀ o ∈ Shared.inPeriod orders grain k, o ∈ Shared.live orders :=
    fun o ho => (mem_groupOf.mp ho).1
  rw [List.filter_map, List.filter_map, List.length_map, List.length_map, length_filter_eq_iff]
  · constructor
    · intro h o ho hguest hepoch
      have hjoined := (chJoinedAcq_ch (hlive o ho)).mpr (by rw [hguest]; exact hepoch)
      have hfirst := h o ho (decide_eq_true hjoined)
      rw [Function.comp_apply, isFirst_pg, hguest] at hfirst
      cases hfirst
    · intro h o ho hjoined
      have hfirst := (chJoinedAcq_ch (hlive o ho)).mp (of_decide_eq_true hjoined)
      rw [Function.comp_apply, isFirst_pg]
      cases hknown : o.placed.order.known with
      | true =>
        rw [hknown] at hfirst
        simpa using hfirst
      | false =>
        rw [hknown] at hfirst
        exact absurd hfirst (h o ho hknown)
  · intro o ho hfirst
    rw [Function.comp_apply, isFirst_pg, Bool.and_eq_true] at hfirst
    apply decide_eq_true
    apply (chJoinedAcq_ch (hlive o ho)).mpr
    rw [hfirst.1]
    exact of_decide_eq_true hfirst.2

/-- The spend of a period, of which the grain is that of the calendar. -/
def SharedFacts.spendIn (facts : SharedFacts) (grain : CalendarGrain) (k : WithTop Date) :
    List AdSpendFact :=
  groupOf (fun a => (dateTrunc grain.trunc a.spendDate : WithTop Date)) facts.adSpend k

theorem groupOf_spend_ch (hk : PeriodOf grain k) :
    groupOf (fun a => (truncFn grain a.spendDate : WithTop Date)) facts.adSpend (shift k) =
      facts.spendIn grain k := by
  apply List.filter_congr
  intro a ha
  have hdate := facts.spendDatable a ha
  rw [Bool.eq_iff_iff, decide_eq_true_iff, decide_eq_true_iff]
  simp only [← shift_dateTrunc hdate]
  exact shift_inj ⟨a.spendDate, hdate, rfl⟩ hk

/-- The rows of a period are the same in both stores. -/
theorem calendarRow_agrees
    (hk : k ∈ keysOf (SharedOrder.period grain) (Shared.live facts.orders)) :
    calendarRow facts.pg grain k =
      calendarRowCH (Shared.ch facts.orders) facts.adSpend grain (shift k) ↔
    (epochDate : WithTop Date) ≤ k ∧ RevenueAgrees (Shared.inPeriod facts.orders grain k) ∧
      (∀ o ∈ Shared.inPeriod facts.orders grain k, o.placed.order.known = false →
        o.placedAt ≠ midnight epochDate) ∧ Fits (spendMu (facts.spendIn grain k)) := by
  have hkey : k = shift k ↔ (epochDate : WithTop Date) ≤ k := by
    rw [shift, eq_comm, max_eq_left_iff]
  have hpg : ((Shared.inPeriod facts.orders grain k).map (·.placed.order)).map (·.netMu) =
      (Shared.inPeriod facts.orders grain k).map (·.netMu) := by
    rw [List.map_map]
    rfl
  have hch : ((Shared.inPeriod facts.orders grain k).map (·.ch)).map (·.netOfTaxMu) =
      (Shared.inPeriod facts.orders grain k).map (·.ch.netOfTaxMu) := by
    rw [List.map_map]
    rfl
  have hperiod : PeriodOf grain k := by
    obtain ⟨o, -, rfl⟩ := mem_keysOf.mp hk
    exact periodOf_period o
  have hrevenue := sumInt64_netOfTax (Shared.inPeriod facts.orders grain k)
  have hspend := chSpendMu_eq_iff (facts.spendIn grain k)
  have hnew := newCustomers_agree facts.orders grain k
  have horders : facts.pg.orders = facts.orders.map (·.placed.order) := rfl
  have hadSpend : facts.pg.adSpend = facts.adSpend := rfl
  have hpgSpend : periodSpend spendMu (fun a => (dateTrunc grain.trunc a.spendDate : Date))
      facts.adSpend k = spendMu (facts.spendIn grain k) := getD_lookup_groups rfl _ _ _
  have hchSpend : periodSpend chSpendMu (fun a => (truncFn grain a.spendDate : Date))
      facts.adSpend (shift k) = chSpendMu (facts.spendIn grain k) := by
    rw [← groupOf_spend_ch hperiod]
    exact getD_lookup_groups rfl _ _ _
  rw [calendarRow, calendarRowCH, FactCalendarRow.mk.injEq, horders, hadSpend, hpgSpend, hchSpend,
    groupOf_period_pg, groupOf_period_ch hk, hpg, hch, List.length_map, List.length_map, hnew, hkey,
    eq_comm (b := sumInt64 _), hrevenue, eq_comm (b := chSpendMu _), hspend]
  constructor
  · rintro ⟨hdate, hnets, -, hguests, hfits⟩
    exact ⟨hdate, hnets, hguests, hfits⟩
  · rintro ⟨hdate, hnets, hguests, hfits⟩
    exact ⟨hdate, hnets, rfl, hguests, hfits⟩

end

/-- Of the periods that are shown: the numbers fit, no tax is seen, and nothing is of the start of
1970. -/
structure CalendarAgrees (facts : SharedFacts) (grain : CalendarGrain) : Prop where
  nets : ∀ o ∈ Shared.live facts.orders, Fits o.netMu
  dated : ∀ k ∈ shownPeriods facts.pg.orders grain.trunc, (epochDate : WithTop Date) ≤ k
  revenue : ∀ k ∈ shownPeriods facts.pg.orders grain.trunc,
    RevenueAgrees (Shared.inPeriod facts.orders grain k)
  guests : ∀ k ∈ shownPeriods facts.pg.orders grain.trunc,
    ∀ o ∈ Shared.inPeriod facts.orders grain k, o.placed.order.known = false →
      o.placedAt ≠ midnight epochDate
  spend : ∀ k ∈ shownPeriods facts.pg.orders grain.trunc, Fits (spendMu (facts.spendIn grain k))

theorem calendar_iff (facts : SharedFacts) (grain : CalendarGrain) :
    readCalendarReport facts.pg grain =
      .ok (readCalendarReportCH (Shared.ch facts.orders) facts.adSpend grain) ↔
    CalendarAgrees facts grain := by
  have hnets : (∀ v ∈ netsOf (facts.pg.orders.filter (·.live)), Fits v) ↔
      ∀ o ∈ Shared.live facts.orders, Fits o.netMu := by
    rw [SharedFacts.pg, live_pg, netsOf, List.map_map]
    exact List.forall_mem_map
  have hshown : shownPeriods facts.pg.orders grain.trunc =
      (keysOf (SharedOrder.period grain) (Shared.live facts.orders)).reverse.take 90 := by
    rw [shownPeriods, SharedFacts.pg, keysOf_period_pg]
  have hchShown : (keysOf (ChOrderFact.period grain)
        ((Shared.ch facts.orders).filter (·.live))).reverse.take 90 =
      (shownPeriods facts.pg.orders grain.trunc).map shift := by
    rw [hshown, keysOf_period_ch, ← List.map_reverse, List.map_take]
  rw [readCalendarReport, bigints_ok_iff, hnets, readCalendarReportCH, hchShown, List.map_map,
    List.map_inj_left]
  have hrow : ∀ k ∈ shownPeriods facts.pg.orders grain.trunc, _ := fun k hk =>
    calendarRow_agrees (List.mem_reverse.mp (List.mem_of_mem_take (hshown ▸ hk)))
  constructor
  · rintro ⟨hfits, hrows⟩
    exact ⟨hfits, fun k hk => ((hrow k hk).mp (hrows k hk)).1,
      fun k hk => ((hrow k hk).mp (hrows k hk)).2.1,
      fun k hk => ((hrow k hk).mp (hrows k hk)).2.2.1,
      fun k hk => ((hrow k hk).mp (hrows k hk)).2.2.2⟩
  · rintro ⟨hfits, hdated, hrevenue, hguests, hspend⟩
    exact ⟨hfits, fun k hk =>
      (hrow k hk).mpr ⟨hdated k hk, hrevenue k hk, hguests k hk, hspend k hk⟩⟩

/-- The stores differ by the tax that one of them takes off, by where its time begins, and by what
64 bits hold. -/
theorem sameSeries_iff (facts : SharedFacts) (range : FactDateRange) (grain : CalendarGrain) :
    facts.SameSeries range grain ↔ DailyAgrees facts range ∧ CalendarAgrees facts grain := by
  rw [← daily_iff, ← calendar_iff]
  exact ⟨fun h => ⟨h.daily, h.calendar⟩, fun h => ⟨h.1, h.2⟩⟩

/-- An order of 118 with a tax of 18. -/
def taxedOrder : SharedFacts where
  orders :=
    [⟨⟨⟨"SHOPIFY", "1", some "7", 11800, 0, 1800, 0, "INR", some "paid", none,
        some (midnight (juneDay 10))⟩, midnight (juneDay 10), rfl⟩, by decide, by decide,
      by decide⟩]
  lineItems := []
  products := []
  adSpend := []
  spendDatable := by decide

/-- One store reports 118 of new customer revenue, the other 100. -/
theorem tax_taken_off_in_one_store : ¬ ∀ (facts : SharedFacts) range grain,
    facts.SameSeries range grain := by
  intro h
  have hdaily := (daily_iff _ _).mp (h taxedOrder ⟨juneDay 1, juneDay 30⟩ .day).daily
  have hday := (hdaily.revenue (juneDay 10) (by decide)).2
  revert hday
  decide

end BrainV2.Analytics
