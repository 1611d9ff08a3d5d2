import BrainV2.Insight.PnlContext
import BrainV2.Lib.Binary64
import BrainV2.Lib.Dict
import Mathlib.Algebra.Order.Field.Rat
import Mathlib.Algebra.Order.Ring.Abs
import Mathlib.Data.Finset.Card
import Mathlib.Data.Finset.Prod
import Mathlib.Tactic.NormNum
import Mathlib.Tactic.Tauto

/-!
# The daily rows of a context

* `dailyRowsFromDailySignals`: the rows regrouped from the daily signals of a context;
* `dailyRowsFromDailySignals_build`: for ascending days these are the rows they came from,
  with zeros for the metrics that have no daily signal;
* `contextOf_within`: a context of at most thirty days is never trimmed.

What the agent's statistics leave out:

* `sameStatistics_iff`: days with zeros for COGS, CM1 and the ad spend have the statistics of
  the days themselves exactly when CM1 and the ad spend are quiet;
* `pnl_signals_agree_iff`: so do the days the agent regroups from a context.
-/

namespace BrainV2.Insight

open Py

/-! ### Regrouping -/

/-- Values by metric, by date. -/
abbrev ByDate := List (String × List (String × Int))

def groupSignal (byDate : ByDate) (sig : Signal) : ByDate :=
  match (sig.signalId.toList.splitOn ':').map String.ofList with
  | head :: date :: metric :: _ =>
    if head = "daily" then
      let dates := Dict.setDefault byDate date []
      Dict.set dates date (Dict.set ((dates.lookup date).getD []) metric sig.valueCanonical)
    else byDate
  | _ => byDate

/-- `metrics.get(metric, 0)` for every metric of a row. -/
def dailyRowOf (entry : String × List (String × Int)) : DailyRow where
  date := entry.1
  netSalesMu := (entry.2.lookup "net_sales_mu").getD 0
  cogsMu := (entry.2.lookup "cogs_mu").getD 0
  cm1Mu := (entry.2.lookup "cm1_mu").getD 0
  cm2Mu := (entry.2.lookup "cm2_mu").getD 0
  cm3Mu := (entry.2.lookup "cm3_mu").getD 0
  totalAdSpendMu := (entry.2.lookup "total_ad_spend_mu").getD 0
  rtoRateBp := none

/-- The dates are distinct, so sorting the items never compares the values. -/
def sortedItems (byDate : ByDate) : ByDate := byDate.mergeSort fun a b => decide (a.1 ≤ b.1)

def dailyRowsFromDailySignals (dailySignals : List Signal) : List DailyRow :=
  (sortedItems (dailySignals.foldl groupSignal [])).map dailyRowOf

/-! ### The statistics of a context -/

def currentPnlSummary (s : PnlPeriodSummary) : PnlSummary :=
  ⟨s.netSalesMu, s.cm1Mu, s.cm2Mu, s.cm3Mu, s.totalAdSpendMu, s.totalOrders, s.aovMu, none⟩

def priorPnlSummary (s : PnlPeriodSummary) : PnlSummary :=
  ⟨s.netSalesMu, s.cm1Mu, s.cm2Mu, s.cm3Mu, s.totalAdSpendMu, s.totalOrders, none, none⟩

/-- The statistics the agent computes from a context. -/
def agentPnlSignals {F : Type} (ops : FloatOps F) (ctx : PnlContext) : PnlSignals :=
  computePnlSignals ops (dailyRowsFromDailySignals ctx.dailySignals)
    (currentPnlSummary ctx.current) (priorPnlSummary ctx.prior)

/-- Metric rows whose dates ascend. -/
structure MetricRows where
  rows : List MetricRow
  ascending : (rows.map fun r => isoDate r.date).Pairwise (· < ·)

/-- A row with every metric it has. -/
def directRow (row : MetricRow) : DailyRow :=
  ⟨isoDate row.date, row.netSalesMu.toInt, row.cogsMu.toInt, row.cm1Mu.toInt, row.cm2Mu.toInt,
    row.cm3Mu.toInt, row.totalAdSpendMu.toInt, none⟩

/-- A row with the three metrics that have daily signals. -/
def signalRow (row : MetricRow) : DailyRow :=
  ⟨isoDate row.date, row.netSalesMu.toInt, 0, 0, row.cm2Mu.toInt, row.cm3Mu.toInt, 0, none⟩

/-! ### Regrouping the signals of ascending days -/

theorem colon_not_mem_dateText (d : Date) : ':' ∉ dateText d := by
  have hpad (width n : Nat) : ':' ∉ pad width n := by
    intro hmem
    exact absurd (isDigit_pad width n _ hmem) (by decide)
  simp [dateText, hpad]

theorem splitOn_dailySignal (d : Date) {metric : String} (value : Int64)
    (hmetric : ':' ∉ metric.toList) :
    ((dailySignal d metric value).signalId.toList.splitOn ':').map String.ofList =
      ["daily", isoDate d, metric] := by
  have htext : (dailySignal d metric value).signalId.toList =
      "daily".toList ++ ':' :: (dateText d ++ ':' :: metric.toList) := by
    simp [dailySignal, isoDate]
  rw [htext, List.splitOn_append_cons_self, List.splitOn_append_cons_self,
    List.splitOn_eq_singleton (by decide), List.splitOn_eq_singleton (colon_not_mem_dateText d),
    List.splitOn_eq_singleton hmetric]
  simp [isoDate]

theorem groupSignal_dailySignal (byDate : ByDate) (d : Date) {metric : String} (value : Int64)
    (hmetric : ':' ∉ metric.toList) :
    groupSignal byDate (dailySignal d metric value) =
      Dict.set (Dict.setDefault byDate (isoDate d) []) (isoDate d)
        (Dict.set (((Dict.setDefault byDate (isoDate d) []).lookup (isoDate d)).getD []) metric
          value.toInt) := by
  rw [groupSignal, splitOn_dailySignal d value hmetric]
  rfl

theorem lookup_fresh {byDate : ByDate} {date : String} (h : date ∉ Dict.keys byDate) :
    byDate.lookup date = none := by
  rw [List.lookup_eq_none_iff]
  intro entry hentry
  have hne : date ≠ entry.1 := fun he => h (he ▸ List.mem_map_of_mem hentry)
  simpa using hne

/-- The first signal of a day opens an entry. -/
theorem groupSignal_fresh {byDate : ByDate} {d : Date} {metric : String} (value : Int64)
    (hmetric : ':' ∉ metric.toList) (hfresh : isoDate d ∉ Dict.keys byDate) :
    groupSignal byDate (dailySignal d metric value) =
      byDate ++ [(isoDate d, [(metric, value.toInt)])] := by
  have hset : Dict.setDefault byDate (isoDate d) [] = byDate ++ [(isoDate d, [])] := by
    rw [Dict.setDefault, lookup_fresh hfresh]
    exact Dict.set_append byDate [] hfresh
  rw [groupSignal_dailySignal byDate d value hmetric, hset, Dict.lookup_middle [] [] hfresh,
    Dict.set_middle [] _ [] hfresh]
  rfl

/-- A later one is set in the entry of its day. -/
theorem groupSignal_open {byDate : ByDate} {d : Date} {metric : String} (value : Int64)
    (metrics : List (String × Int)) (hmetric : ':' ∉ metric.toList)
    (hfresh : isoDate d ∉ Dict.keys byDate) :
    groupSignal (byDate ++ [(isoDate d, metrics)]) (dailySignal d metric value) =
      byDate ++ [(isoDate d, Dict.set metrics metric value.toInt)] := by
  have hset : Dict.setDefault (byDate ++ [(isoDate d, metrics)]) (isoDate d) [] =
      byDate ++ [(isoDate d, metrics)] := by
    rw [Dict.setDefault, Dict.lookup_middle metrics [] hfresh]
  rw [groupSignal_dailySignal _ d value hmetric, hset, Dict.lookup_middle metrics [] hfresh,
    Dict.set_middle metrics _ [] hfresh]
  rfl

/-- The entry of a day. -/
def dayEntry (row : MetricRow) : String × List (String × Int) :=
  (isoDate row.date, [("net_sales_mu", row.netSalesMu.toInt), ("cm2_mu", row.cm2Mu.toInt),
    ("cm3_mu", row.cm3Mu.toInt)])

theorem group_day {byDate : ByDate} {row : MetricRow}
    (hfresh : isoDate row.date ∉ Dict.keys byDate) :
    (buildDailySignals [row]).foldl groupSignal byDate = byDate ++ [dayEntry row] := by
  simp only [buildDailySignals, List.flatMap_cons, List.flatMap_nil, List.append_nil,
    List.foldl_cons, List.foldl_nil]
  rw [groupSignal_fresh row.netSalesMu (by decide) hfresh,
    groupSignal_open row.cm2Mu _ (by decide) hfresh,
    groupSignal_open row.cm3Mu _ (by decide) hfresh]
  rfl

/-- Days with dates of their own are grouped one by one. -/
theorem group_days (rows : List MetricRow) (byDate : ByDate)
    (hfresh : ∀ row ∈ rows, isoDate row.date ∉ Dict.keys byDate)
    (hnodup : (rows.map fun r => isoDate r.date).Nodup) :
    (buildDailySignals rows).foldl groupSignal byDate = byDate ++ rows.map dayEntry := by
  induction rows generalizing byDate with
  | nil => simp [buildDailySignals]
  | cons row rows ih =>
    obtain ⟨hrow, hrest⟩ := List.nodup_cons.mp hnodup
    have hsplit : buildDailySignals (row :: rows) =
        buildDailySignals [row] ++ buildDailySignals rows := by
      simp [buildDailySignals]
    have hlater : ∀ r ∈ rows, isoDate r.date ∉ Dict.keys (byDate ++ [dayEntry row]) := by
      intro r hr hmem
      rw [Dict.keys, List.map_append, List.mem_append] at hmem
      rcases hmem with hmem | hmem
      · exact hfresh r (List.mem_cons_of_mem _ hr) hmem
      · rw [List.map_singleton, List.mem_singleton] at hmem
        exact hrow (List.mem_map.mpr ⟨r, hr, hmem⟩)
    rw [hsplit, List.foldl_append, group_day (hfresh row List.mem_cons_self), ih _ hlater hrest]
    simp

theorem MetricRows.nodup (days : MetricRows) :
    (days.rows.map fun r => isoDate r.date).Nodup := by
  apply days.ascending.imp
  intro a b hlt heq
  exact String.lt_irrefl a (heq ▸ hlt)

theorem dailyRowsFromDailySignals_build (days : MetricRows) :
    dailyRowsFromDailySignals (buildDailySignals days.rows) = days.rows.map signalRow := by
  have hsorted : (days.rows.map dayEntry).Pairwise
      fun a b => decide (a.1 ≤ b.1) = true := by
    rw [List.pairwise_map]
    exact (List.pairwise_map.mp days.ascending).imp fun h => decide_eq_true (String.not_lt.mp (String.lt_asymm h))
  rw [dailyRowsFromDailySignals, group_days days.rows [] (by simp [Dict.keys]) days.nodup,
    List.nil_append, sortedItems, List.mergeSort_of_pairwise hsorted, List.map_map]
  exact List.map_congr_left fun row _ => rfl

/-! ### The size of a context -/

theorem length_intercalate_le {texts : List (List Char)} (bound : Nat)
    (h : ∀ text ∈ texts, text.length ≤ bound) :
    (List.intercalate [' '] texts).length ≤ (bound + 1) * texts.length := by
  induction texts with
  | nil => simp
  | cons text rest ih =>
    have hhead := h text List.mem_cons_self
    cases rest with
    | nil =>
      rw [List.intercalate_singleton]
      simp only [List.length_singleton]
      omega
    | cons next rest =>
      have htail := ih fun t ht => h t (List.mem_cons_of_mem _ ht)
      rw [List.intercalate_cons_cons, List.length_append, List.length_append,
        List.length_singleton, List.length_cons, Nat.mul_succ]
      omega

theorem length_intText_le {value : Int} (width : Nat) (hwidth : 0 < width)
    (h : value.natAbs < 10 ^ width) : (intText value).length ≤ width + 1 := by
  have hdigits := (Nat.length_toDigits_le_iff (by decide) hwidth).mpr h
  unfold intText
  split
  · rw [List.length_cons]
    omega
  · omega

theorem natAbs_int64_le (value : Int64) : value.toInt.natAbs ≤ 2 ^ 63 := by
  have hlow := value.le_toInt
  have hhigh := value.toInt_lt
  omega

theorem length_signalText_le {sig : Signal} {idWidth : Nat} (width : Nat) (hwidth : 0 < width)
    (hid : sig.signalId.toList.length ≤ idWidth) (h : sig.valueCanonical.natAbs < 10 ^ width) :
    (signalText sig).length ≤ idWidth + width + 2 := by
  have htext := length_intText_le width hwidth h
  rw [signalText, List.length_append, List.length_cons]
  omega

theorem length_dateText (d : Date) : (dateText d).length = 10 := by
  simp [dateText, length_pad]

theorem length_dailySignal_le (d : Date) {metric : String} (value : Int64)
    (hmetric : metric.toList.length ≤ 12) :
    (signalText (dailySignal d metric value)).length ≤ 50 := by
  have hid : (dailySignal d metric value).signalId.toList.length ≤ 29 := by
    simp only [dailySignal, isoDate, String.toList_append, String.toList_ofList,
      List.length_append, length_dateText]
    have hhead : "daily:".toList.length = 6 := by decide
    have hcolon : ":".toList.length = 1 := by decide
    omega
  have hvalue := natAbs_int64_le value
  have hsmall : value.toInt.natAbs < 10 ^ 19 := by omega
  exact length_signalText_le 19 (by decide) hid hsmall

theorem length_buildDailySignals (rows : List MetricRow) :
    (buildDailySignals rows).length = 3 * rows.length := by
  induction rows with
  | nil => rfl
  | cons row rows ih =>
    rw [buildDailySignals] at ih
    simp only [buildDailySignals, List.flatMap_cons, List.length_append, List.length_cons,
      List.length_nil, ih]
    omega

theorem length_of_mem_buildDailySignals {rows : List MetricRow} :
    ∀ sig ∈ buildDailySignals rows, (signalText sig).length ≤ 50 := by
  intro sig hsig
  obtain ⟨row, -, hsig⟩ := List.mem_flatMap.mp hsig
  simp only [List.mem_cons, List.not_mem_nil, or_false] at hsig
  rcases hsig with rfl | rfl | rfl
  · exact length_dailySignal_le row.date row.netSalesMu (by decide)
  · exact length_dailySignal_le row.date row.cm2Mu (by decide)
  · exact length_dailySignal_le row.date row.cm3Mu (by decide)

theorem natAbs_sum_le {l : List Int} (bound : Nat) (h : ∀ v ∈ l, v.natAbs ≤ bound) :
    l.sum.natAbs ≤ l.length * bound := by
  induction l with
  | nil => simp
  | cons v l ih =>
    have hv := h v List.mem_cons_self
    have hrest := ih fun w hw => h w (List.mem_cons_of_mem _ hw)
    rw [List.sum_cons, List.length_cons, Nat.succ_mul]
    have htri := Int.natAbs_add_le v l.sum
    omega

theorem length_le_of_bounded {α : Type} {l : List α} {f : α → Nat × Nat × Nat} {a b c : Nat}
    (hnodup : (l.map f).Nodup) (h : ∀ x ∈ l, (f x).1 < a ∧ (f x).2.1 < b ∧ (f x).2.2 < c) :
    l.length ≤ a * (b * c) := by
  have hsubset : (l.map f).toFinset ⊆ Finset.range a ×ˢ (Finset.range b ×ˢ Finset.range c) := by
    intro p hp
    rw [List.mem_toFinset, List.mem_map] at hp
    obtain ⟨x, hx, rfl⟩ := hp
    rw [Finset.mem_product, Finset.mem_product, Finset.mem_range, Finset.mem_range,
      Finset.mem_range]
    exact h x hx
  have hcard := Finset.card_le_card hsubset
  rwa [List.toFinset_card_of_nodup hnodup, List.length_map, Finset.card_product,
    Finset.card_product, Finset.card_range, Finset.card_range, Finset.card_range] at hcard

/-- There are only so many dates. -/
theorem MetricRows.length_le (days : MetricRows) :
    days.rows.length ≤ 10 ^ 4 * (10 ^ 2 * 10 ^ 2) := by
  apply length_le_of_bounded (f := fun r => (r.date.year, r.date.month, r.date.day)) _
    fun r _ => r.date.width
  rw [List.Nodup, List.pairwise_map]
  apply (List.pairwise_map.mp days.nodup).imp
  intro a b hne heq
  apply hne
  have hyear : a.date.year = b.date.year := congrArg Prod.fst heq
  have hmonth : a.date.month = b.date.month := congrArg (fun p => p.2.1) heq
  have hday : a.date.day = b.date.day := congrArg (fun p => p.2.2) heq
  rw [isoDate, isoDate, dateText, dateText, hyear, hmonth, hday]

/-- The totals of a period have at most twenty-seven digits. -/
theorem MetricRows.total_lt (days : MetricRows) (get : MetricRow → Int)
    (hget : ∀ r, (get r).natAbs ≤ 2 ^ 63) : (days.rows.map get).sum.natAbs < 10 ^ 27 := by
  have hsum := natAbs_sum_le (2 ^ 63) (l := days.rows.map get) (by
    intro v hv
    obtain ⟨r, -, rfl⟩ := List.mem_map.mp hv
    exact hget r)
  rw [List.length_map] at hsum
  have hlength := days.length_le
  omega

theorem MetricRows.sumOf_lt (days : MetricRows) (get : MetricRow → Int64) :
    (sumOf get days.rows).natAbs < 10 ^ 27 :=
  days.total_lt (fun r => (get r).toInt) fun r => natAbs_int64_le (get r)

theorem MetricRows.orders_lt (days : MetricRows) :
    (aggregateSummary days.rows).totalOrders.natAbs < 10 ^ 27 := by
  apply days.total_lt fun r => (r.totalOrders.map Int64.toInt).getD 0
  intro r
  cases r.totalOrders with
  | none => exact Nat.zero_le _
  | some orders => exact natAbs_int64_le orders

theorem natAbs_fdiv_le {a b : Int} (hb : 0 < b) : (a.fdiv b).natAbs ≤ a.natAbs := by
  rw [Int.fdiv_eq_ediv_of_nonneg a (le_of_lt hb)]
  exact Int.natAbs_ediv_le_natAbs a b

theorem length_total_le {id : String} {total : Int} (hid : id.toList.length ≤ 23)
    (h : total.natAbs < 10 ^ 27) : (signalText ⟨id, total⟩).length ≤ 52 :=
  length_signalText_le 27 (by decide) hid h

theorem length_summarySignals {current prior : MetricRows} :
    ∀ sig ∈ buildSummarySignals (aggregateSummary current.rows) (aggregateSummary prior.rows),
      (signalText sig).length ≤ 52 := by
  intro sig hsig
  have hcurrent := current.sumOf_lt
  have hprior := prior.sumOf_lt
  rw [buildSummarySignals, List.mem_append] at hsig
  rcases hsig with hsig | hsig
  · simp only [List.mem_cons, List.not_mem_nil, or_false] at hsig
    rcases hsig with rfl | rfl | rfl | rfl | rfl | rfl | rfl | rfl | rfl | rfl | rfl
    · exact length_total_le (by decide) (hcurrent _)
    · exact length_total_le (by decide) (hcurrent _)
    · exact length_total_le (by decide) (hcurrent _)
    · exact length_total_le (by decide) (hcurrent _)
    · exact length_total_le (by decide) (hcurrent _)
    · exact length_total_le (by decide) (hcurrent _)
    · exact length_total_le (by decide) current.orders_lt
    · exact length_total_le (by decide) (hprior _)
    · exact length_total_le (by decide) (hprior _)
    · exact length_total_le (by decide) (hprior _)
    · exact length_total_le (by decide) (hprior _)
  · simp only [aggregateSummary, Option.mem_toList, Option.map_eq_some_iff] at hsig
    obtain ⟨aov, haov, rfl⟩ := hsig
    split at haov
    · cases haov
      exact length_total_le (by decide) (lt_of_le_of_lt (natAbs_fdiv_le ‹_›) (hcurrent _))
    · cases haov

/-- A context of at most thirty days keeps every daily signal. -/
theorem contextOf_within (period : Period) (current prior : MetricRows)
    (hfew : current.rows.length ≤ maxDailyRows) :
    ∃ ctx, contextOf period current.rows prior.rows = .ok ctx ∧
      ctx.dailySignals = buildDailySignals current.rows ∧
      ctx.current = aggregateSummary current.rows ∧ ctx.prior = aggregateSummary prior.rows := by
  have hlast : lastRows maxDailyRows current.rows = current.rows := by
    rw [lastRows, Nat.sub_eq_zero_of_le hfew, List.drop_zero]
  let summary := buildSummarySignals (aggregateSummary current.rows) (aggregateSummary prior.rows)
  have hsummary : summary.length ≤ 12 := by
    simp only [summary, buildSummarySignals, List.length_append, List.length_cons, List.length_nil]
    have := Option.length_toList_le
      (o := (aggregateSummary current.rows).aovMu.map fun aov => (⟨"aov_mu", aov⟩ : Signal))
    omega
  have hsize : estimateTokens (summary ++ buildDailySignals current.rows) ≤
      pnlMaxContextTokens := by
    have hshort : ∀ text ∈ (summary ++ buildDailySignals current.rows).map signalText,
        text.length ≤ 52 := by
      intro text htext
      obtain ⟨sig, hsig, rfl⟩ := List.mem_map.mp htext
      rcases List.mem_append.mp hsig with hsig | hsig
      · exact length_summarySignals sig hsig
      · exact Nat.le_trans (length_of_mem_buildDailySignals sig hsig) (by decide)
    have htext := length_intercalate_le 52 hshort
    rw [List.length_map, List.length_append, length_buildDailySignals] at htext
    simp only [estimateTokens, pnlMaxContextTokens, maxDailyRows] at hfew ⊢
    omega
  simp only [contextOf, hlast]
  rw [if_neg (Nat.not_lt.mpr hsize), if_neg (Nat.not_lt.mpr hsize)]
  exact ⟨_, rfl, rfl, rfl, rfl⟩

section

variable {F : Type} {ops : FloatOps F}

variable (ops) in
theorem zeros_quiet {α : Type} (l : List α) : Quiet ops (l.map fun _ => 0) := by
  rw [List.map_const']
  exact quiet_zeros l.length

theorem detectAnomalies_rows (row : MetricRow → DailyRow) {rows : List MetricRow}
    {label : String} {get : DailyRow → Int} (hdate : ∀ r, (row r).date = isoDate r.date) :
    detectAnomalies ops (rows.map row) label get =
      anomaliesOf ops label (rows.map fun r => (isoDate r.date, get (row r))) := by
  rw [detectAnomalies, List.map_map]
  simp only [Function.comp_def, hdate]

theorem detectSpikesDrops_rows (row : MetricRow → DailyRow) {rows : List MetricRow}
    {label : String} {get : DailyRow → Int} (hdate : ∀ r, (row r).date = isoDate r.date) :
    detectSpikesDrops ops (rows.map row) label get =
      (spikesOf ops label (rows.map fun r => (isoDate r.date, get (row r))),
        dropsOf ops label (rows.map fun r => (isoDate r.date, get (row r)))) := by
  rw [detectSpikesDrops, List.map_map]
  simp only [Function.comp_def, hdate]

theorem metricExtractors_rows (row : MetricRow → DailyRow) (rows : List MetricRow)
    (hrto : ∀ r, (row r).rtoRateBp = none) :
    metricExtractors (rows.map row) = [("Net sales", DailyRow.netSalesMu),
      ("CM1", DailyRow.cm1Mu), ("CM2", DailyRow.cm2Mu), ("CM3", DailyRow.cm3Mu),
      ("Ad spend", DailyRow.totalAdSpendMu)] := by
  have hnone : ((rows.map row).any fun d => d.rtoRateBp.isSome) = false := by
    simp [List.any_map, Function.comp_def, hrto]
  rw [metricExtractors, hnone]
  rfl

theorem append_eq_iff {α : Type} {a b c d e : List α} :
    a ++ (c ++ d) = a ++ (b ++ (c ++ (d ++ e))) ↔ b = [] ∧ e = [] := by
  constructor
  · intro h
    have hlength := congrArg List.length h
    simp only [List.length_append] at hlength
    exact ⟨List.eq_nil_of_length_eq_zero (by omega), List.eq_nil_of_length_eq_zero (by omega)⟩
  · rintro ⟨rfl, rfl⟩
    simp

/-- The statistics of two lists of days agree. -/
structure SameStatistics (a b : PnlSignals) : Prop where
  anomalies : a.anomalies = b.anomalies
  spikes : a.spikes = b.spikes
  drops : a.drops = b.drops

/-- A metric of the rows with their dates. -/
def metricDays (rows : List MetricRow) (get : MetricRow → Int) : List (String × Int) :=
  rows.map fun r => (isoDate r.date, get r)

/-- A quiet metric is one that no statistic mentions. -/
theorem quiet_iff (rows : List MetricRow) (get : MetricRow → Int) (label : String) :
    Quiet ops (rows.map get) ↔ anomaliesOf ops label (metricDays rows get) = [] ∧
      spikesOf ops label (metricDays rows get) = [] ∧
      dropsOf ops label (metricDays rows get) = [] := by
  have hvalues : (metricDays rows get).map Prod.snd = rows.map get := by
    rw [metricDays, List.map_map]
    rfl
  rw [anomaliesOf_eq_nil_iff, changes_eq_nil_iff, hvalues, Quiet]

theorem sameStatistics_iff (rows : List MetricRow) (current prior : PnlSummary) :
    SameStatistics (computePnlSignals ops (rows.map signalRow) current prior)
        (computePnlSignals ops (rows.map directRow) current prior) ↔
      Quiet ops (rows.map fun r => r.cm1Mu.toInt) ∧
        Quiet ops (rows.map fun r => r.totalAdSpendMu.toInt) := by
  obtain ⟨hanomalies, hspikes, hdrops⟩ := (quiet_iff rows (fun _ => 0) "CM1").mp
    (zeros_quiet ops rows)
  obtain ⟨hanomalies', hspikes', hdrops'⟩ := (quiet_iff rows (fun _ => 0) "Ad spend").mp
    (zeros_quiet ops rows)
  rw [quiet_iff rows _ "CM1", quiet_iff rows _ "Ad spend"]
  have hsignal := metricExtractors_rows signalRow rows fun _ => rfl
  have hdirect := metricExtractors_rows directRow rows fun _ => rfl
  have hall : SameStatistics (computePnlSignals ops (rows.map signalRow) current prior)
      (computePnlSignals ops (rows.map directRow) current prior) ↔ _ ∧ _ ∧ _ :=
    ⟨fun h => ⟨h.anomalies, h.spikes, h.drops⟩, fun h => ⟨h.1, h.2.1, h.2.2⟩⟩
  rw [hall]
  simp only [computePnlSignals, hsignal, hdirect, List.flatMap_cons, List.flatMap_nil,
    List.append_nil, detectAnomalies_rows signalRow (fun _ => rfl),
    detectAnomalies_rows directRow (fun _ => rfl),
    detectSpikesDrops_rows signalRow (fun _ => rfl),
    detectSpikesDrops_rows directRow (fun _ => rfl)]
  unfold metricDays at *
  simp only [signalRow, directRow, hanomalies, hspikes, hdrops, hanomalies', hspikes', hdrops',
    List.nil_append, List.append_nil, append_eq_iff]
  tauto

/-- The metrics without a daily signal are zero on every day. -/
def NothingLeftOut (row : MetricRow) : Prop :=
  row.cogsMu = 0 ∧ row.cm1Mu = 0 ∧ row.totalAdSpendMu = 0

theorem signalRows_eq_iff (rows : List MetricRow) :
    rows.map signalRow = rows.map directRow ↔ ∀ row ∈ rows, NothingLeftOut row := by
  rw [List.map_inj_left]
  apply forall_congr'
  intro row
  apply imp_congr_right
  intro _
  have hzero (value : Int64) : (0 : Int) = value.toInt ↔ value = 0 := by
    rw [eq_comm, ← Int64.toInt_inj]
    rfl
  simp only [signalRow, directRow, DailyRow.mk.injEq, hzero, NothingLeftOut, true_and, and_true]

variable (ops) in
/-- The agent's statistics are those of the metric rows exactly when CM1 and the ad spend are
quiet, and its days are theirs exactly when COGS, CM1 and the ad spend are zero. -/
theorem pnl_signals_agree_iff (period : Period) (current prior : MetricRows)
    (hfew : current.rows.length ≤ maxDailyRows) :
    ∃ ctx, contextOf period current.rows prior.rows = .ok ctx ∧
      (SameStatistics (agentPnlSignals ops ctx)
          (computePnlSignals ops (current.rows.map directRow) (currentPnlSummary ctx.current)
            (priorPnlSummary ctx.prior)) ↔
        Quiet ops (current.rows.map fun r => r.cm1Mu.toInt) ∧
          Quiet ops (current.rows.map fun r => r.totalAdSpendMu.toInt)) ∧
      (dailyRowsFromDailySignals ctx.dailySignals = current.rows.map directRow ↔
        ∀ row ∈ current.rows, NothingLeftOut row) := by
  obtain ⟨ctx, hctx, hdaily, -, -⟩ := contextOf_within period current prior hfew
  refine ⟨ctx, hctx, ?_, ?_⟩
  · rw [agentPnlSignals, hdaily, dailyRowsFromDailySignals_build]
    exact sameStatistics_iff current.rows _ _
  · rw [hdaily, dailyRowsFromDailySignals_build]
    exact signalRows_eq_iff current.rows

end

/-! ### Two days -/

/-- `f"{x:.nf}"` of a rational. -/
def fixedText (n : Nat) (x : ℚ) : String :=
  let scaled := Binary64.nearest (x.num.natAbs * 10 ^ n) x.den
  String.ofList ((if x < 0 then ['-'] else []) ++ Nat.toDigits 10 (scaled / 10 ^ n) ++ '.' ::
    Digits.padded n (scaled % 10 ^ n))

/-- `round(x)` of a rational. -/
def roundRat (x : ℚ) : Int :=
  let whole : Int := Binary64.nearest x.num.natAbs x.den
  if x < 0 then -whole else whole

/-- Floats without rounding, for numbers where there is none. -/
def exactOps : FloatOps ℚ where
  div a b := a / b
  subFrom n x := n - x
  square x := x * x
  sum := List.sum
  divInt x n := x / n
  sqrt x := Nat.sqrt x.num.natAbs / Nat.sqrt x.den
  mulInt x n := x * n
  abs x := |x|
  round := roundRat
  fixed := fixedText
  signed n x := (if x < 0 then "" else "+") ++ fixedText n x

def marchDay (day : Nat) (h : 1 ≤ day ∧ day ≤ 31) (cm1Mu : Int64) : MetricRow :=
  ⟨⟨2024, 3, day, by decide, by decide, h⟩, 1000, 0, cm1Mu, 0, 0, 0, none⟩

/-- Two days, in which CM1 doubles. -/
def doubledCm1 : MetricRows where
  rows := [marchDay 1 (by decide) 100, marchDay 2 (by decide) 200]
  ascending := by decide

def marchPeriod : Period :=
  ⟨"ws", "2024-03-01", "2024-03-02", "2024-02-28", "2024-02-29", "0123456789abcdef"⟩

/-- The agent does not see CM1 double. -/
theorem doubled_cm1_unseen :
    ∃ ctx, contextOf marchPeriod doubledCm1.rows [] = .ok ctx ∧
      ¬ SameStatistics (agentPnlSignals exactOps ctx)
        (computePnlSignals exactOps (doubledCm1.rows.map directRow)
          (currentPnlSummary ctx.current) (priorPnlSummary ctx.prior)) := by
  obtain ⟨ctx, hctx, hdaily, -, -⟩ :=
    contextOf_within marchPeriod doubledCm1 ⟨[], List.Pairwise.nil⟩ (by decide)
  refine ⟨ctx, hctx, fun hsame => ?_⟩
  rw [agentPnlSignals, hdaily, dailyRowsFromDailySignals_build] at hsame
  have hquiet := ((sameStatistics_iff doubledCm1.rows _ _).mp hsame).1
  have hjump : ¬ NoJump exactOps [100, 200] := by
    have hpct : pctX10 exactOps 200 100 = 1000 := by
      have hround : roundRat 1000 = 1000 := by decide
      norm_num [pctX10, exactOps, hround]
    intro h
    rcases h (100, 200) (by decide) with hzero | hsmall
    · cases hzero
    · rw [hpct] at hsmall
      revert hsmall
      decide
  exact hjump hquiet.2

theorem doubled_cm1_agree_iff :
    ∃ ctx, contextOf marchPeriod doubledCm1.rows doubledCm1.rows = .ok ctx ∧
      (SameStatistics (agentPnlSignals exactOps ctx)
          (computePnlSignals exactOps (doubledCm1.rows.map directRow)
            (currentPnlSummary ctx.current) (priorPnlSummary ctx.prior)) ↔
        Quiet exactOps (doubledCm1.rows.map fun r => r.cm1Mu.toInt) ∧
          Quiet exactOps (doubledCm1.rows.map fun r => r.totalAdSpendMu.toInt)) ∧
      (dailyRowsFromDailySignals ctx.dailySignals = doubledCm1.rows.map directRow ↔
        ∀ row ∈ doubledCm1.rows, NothingLeftOut row) :=
  pnl_signals_agree_iff exactOps marchPeriod doubledCm1 doubledCm1 (by decide)

end BrainV2.Insight
