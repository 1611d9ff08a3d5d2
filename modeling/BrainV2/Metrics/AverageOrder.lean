import BrainV2.Metrics.Servicer

/-!
# The average order value

* `MetricsGrpcClient`: the pages of the metric rows, as the brief reads them;
* `clientRows_ok_iff`: when they cross the wire, and what of them does;
* `OneAov`, `oneAov_iff`: when the summary and the brief report one average.
-/

namespace BrainV2.Metrics

open Py (Date PyExc)
open Insight (PnlPeriodSummary aggregateSummary isoDate)

/-! ### The client -/

/-- What the context is built from, and the average of the day. -/
structure MetricRowView extends Insight.MetricRow where
  aovMu : Option Int

/-- A value of zero takes no bytes, like no value. -/
def unwrapInt32value : Option Int32 → Option Int
  | none => none
  | some n => if n = 0 then none else some n.toInt

def protoRowToView (row : ProtoMetricRow) : MetricRowView where
  date := row.date
  netSalesMu := row.netSalesMu
  cogsMu := row.cogsMu
  cm1Mu := row.cm1Mu
  cm2Mu := row.cm2Mu
  cm3Mu := row.cm3Mu
  totalAdSpendMu := row.totalAdSpendMu
  totalOrders := some row.totalOrders
  aovMu := unwrapInt32value row.aovMu

def maxPages : Nat := 10

/-- The loop over the pages, with how many may still be fetched. -/
def fetchPages (stub : String → Except RpcFailure QueryMetricsResponse) :
    Nat → String → Except RpcFailure (List MetricRowView)
  | 0, _ => .ok []
  | pages + 1, cursor => do
    let response ← stub cursor
    let rows := response.rows.map protoRowToView
    if response.nextCursor = "" then .ok rows
    else do
      let rest ← fetchPages stub pages response.nextCursor
      .ok (rows ++ rest)

def unscopedClient (workspaceId : String) : PyExc where
  cls := .valueError
  text := "MetricsGrpcClient.query_metrics: workspace_id must not be empty. Got workspace_id=" ++
    String.ofList (Py.reprStr workspaceId) ++ ". CF-C4-QUERY-SCOPE-ISOLATION-1."

/-- `MetricsGrpcClient.query_metrics`; the servicer ignores the cursor. -/
def clientRows (answer : Except PyExc (List ComputedRow)) (workspaceId : String)
    (dateRange : DateRange) : Except RpcFailure (List MetricRowView) :=
  if isBlankText workspaceId then .error (.raised (unscopedClient workspaceId))
  else fetchPages (fun _ => queryMetricsRpc answer
    ⟨workspaceId, isoDate dateRange.start, isoDate dateRange.stop⟩) maxPages ""

/-- `_aggregate_summary` of the rows of a period. -/
def briefSummary (rows : List MetricRowView) : PnlPeriodSummary :=
  aggregateSummary (rows.map (·.toMetricRow))

/-! ### What crosses the wire -/

section

variable {row : MetricRow} {rows : List MetricRow}

/-- The values of the row that go into 32 bits. -/
def narrowValues (row : MetricRow) : List (Option Int64) :=
  [row.miscExpensesProratedMu, row.aovMu, row.metaCpcMu, row.metaCpmMu, row.googleAvgCpcMu]

def FitsWire (row : MetricRow) : Prop := ∀ v ∈ narrowValues row, ∀ n ∈ v, FitsInt32 n.toInt

/-- The view of a row that fits. -/
def viewOf (row : MetricRow) : MetricRowView where
  date := row.date
  netSalesMu := row.netSalesMu
  cogsMu := row.cogsMu
  cm1Mu := row.cm1Mu
  cm2Mu := row.cm2Mu
  cm3Mu := row.cm3Mu
  totalAdSpendMu := row.totalAdSpendMu
  totalOrders := some row.totalOrders
  aovMu := unwrapInt32value (row.aovMu.map fun n => Int32.ofInt n.toInt)

theorem rowToProto_ok {proto : ProtoMetricRow} (h : rowToProto row = .ok proto) :
    FitsWire row ∧ protoRowToView proto = viewOf row := by
  simp only [rowToProto, Py.bind_ok, int32Value_ok_iff] at h
  obtain ⟨_, ⟨hmisc, -⟩, _, ⟨haov, rfl⟩, _, ⟨hcpc, -⟩, _, ⟨hcpm, -⟩, _, ⟨hgoogle, -⟩, h⟩ := h
  cases h
  refine ⟨?_, rfl⟩
  simp only [FitsWire, narrowValues, List.forall_mem_cons]
  exact ⟨hmisc, haov, hcpc, hcpm, hgoogle, List.forall_mem_nil _⟩

theorem rowToProto_of_fits (h : FitsWire row) : ∃ proto, rowToProto row = .ok proto := by
  simp only [FitsWire, narrowValues, List.forall_mem_cons] at h
  obtain ⟨hmisc, haov, hcpc, hcpm, hgoogle, -⟩ := h
  simp only [rowToProto, Py.bind_ok, int32Value_ok_iff]
  exact ⟨_, _, ⟨hmisc, rfl⟩, _, ⟨haov, rfl⟩, _, ⟨hcpc, rfl⟩, _, ⟨hcpm, rfl⟩, _, ⟨hgoogle, rfl⟩, rfl⟩

theorem mapM_rowToProto_ok {protos : List ProtoMetricRow} (h : rows.mapM rowToProto = .ok protos) :
    (∀ row ∈ rows, FitsWire row) ∧ protos.map protoRowToView = rows.map viewOf := by
  induction rows generalizing protos with
  | nil =>
    cases h
    exact ⟨List.forall_mem_nil _, rfl⟩
  | cons row rows ih =>
    rw [List.mapM_cons, Py.bind_ok] at h
    obtain ⟨proto, hproto, h⟩ := h
    obtain ⟨rest, hrest, h⟩ := Py.bind_ok.mp h
    cases h
    obtain ⟨hfits, hview⟩ := rowToProto_ok hproto
    obtain ⟨hall, hviews⟩ := ih hrest
    refine ⟨List.forall_mem_cons.mpr ⟨hfits, hall⟩, ?_⟩
    rw [List.map_cons, List.map_cons, hview, hviews]

theorem mapM_rowToProto_of_fits (h : ∀ row ∈ rows, FitsWire row) :
    ∃ protos, rows.mapM rowToProto = .ok protos := by
  induction rows with
  | nil => exact ⟨[], rfl⟩
  | cons row rows ih =>
    obtain ⟨hfits, hall⟩ := List.forall_mem_cons.mp h
    obtain ⟨proto, hproto⟩ := rowToProto_of_fits hfits
    obtain ⟨protos, hprotos⟩ := ih hall
    refine ⟨proto :: protos, ?_⟩
    rw [List.mapM_cons, hproto]
    simp only [hprotos]
    rfl

end

/-! ### A period -/

namespace Period

variable (p : Period)

theorem clientRows_ok_iff {views : List MetricRowView} :
    clientRows (.ok p.read) p.request.workspaceId p.dateRange = .ok views ↔
      (∀ row ∈ p.rows, FitsWire row) ∧ views = p.rows.map viewOf := by
  have hpages : clientRows (.ok p.read) p.request.workspaceId p.dateRange =
      (escaping (p.rows.mapM rowToProto)).map (·.map protoRowToView) := by
    rw [clientRows, if_neg (by simp [p.nonBlank]), maxPages, fetchPages]
    have hrows : rowsFor "QueryMetrics" (.ok p.read) ⟨p.request.workspaceId,
        isoDate p.dateRange.start, isoDate p.dateRange.stop⟩ = .ok p.rows :=
      (ofRange p.read p.request.workspaceId p.dateRange p.nonBlank).rowsFor_ok "QueryMetrics"
    rw [queryMetricsRpc, hrows]
    change (escaping (p.rows.mapM rowToProto) >>= _) >>= _ = _
    cases p.rows.mapM rowToProto with
    | error e => rfl
    | ok protos => rfl
  rw [hpages]
  constructor
  · intro h
    cases hprotos : p.rows.mapM rowToProto with
    | error e =>
      rw [hprotos] at h
      cases h
    | ok protos =>
      rw [hprotos] at h
      cases h
      obtain ⟨hfits, hviews⟩ := mapM_rowToProto_ok hprotos
      exact ⟨hfits, hviews⟩
  · rintro ⟨hfits, rfl⟩
    obtain ⟨protos, hprotos⟩ := mapM_rowToProto_of_fits hfits
    rw [hprotos, ← (mapM_rowToProto_ok hprotos).2]
    rfl

theorem getKpiSummary_ok_iff {summary : KpiSummaryRow} :
    getKpiSummary (.ok p.read) p.request = .ok summary ↔
      kpiSummary p.request p.rows = .ok summary := by
  rw [getKpiSummary, p.rowsFor_ok]
  change escaping (kpiSummary p.request p.rows) = .ok summary ↔ _
  cases kpiSummary p.request p.rows with
  | error e => simp [escaping]
  | ok held => simp [escaping]

/-! ### One average -/

def netSales : Int := total (·.netSalesMu) p.rows

def orders : Int := total (·.totalOrders) p.rows

/-- The summary and the brief report the net sales over the orders, rounded down, or nothing when
there are no orders. -/
def OneAov : Prop :=
  ∃ summary views, getKpiSummary (.ok p.read) p.request = .ok summary ∧
    clientRows (.ok p.read) p.request.workspaceId p.dateRange = .ok views ∧
    summary.aovMu.map Int32.toInt = (briefSummary views).aovMu ∧
    (p.orders ≠ 0 → (briefSummary views).aovMu = some (p.netSales.fdiv p.orders)) ∧
    (p.orders = 0 → (briefSummary views).aovMu = none)

/-- The totals fit into the summary, and the values of every day onto the wire. -/
structure Reported : Prop where
  netRevenue : FitsInt64 (total (·.netRevenueMu) p.rows)
  cm2 : FitsInt64 (total (·.cm2Mu) p.rows)
  cm3 : FitsInt64 (total (·.cm3Mu) p.rows)
  orders : FitsInt64 p.orders
  days : ∀ row ∈ p.rows, FitsWire row

/-- The average of the last day that has one is that of the period; without orders no day has one. -/
structure LastDayTypical : Prop where
  counted : 0 ≤ p.orders
  idle : p.orders = 0 → ∀ row ∈ p.rows, row.aovMu = none
  average : 0 < p.orders → ∃ q ∈ lastOf (·.aovMu) p.rows,
    q.toInt * p.orders ≤ p.netSales ∧ p.netSales < (q.toInt + 1) * p.orders

theorem briefSummary_aov : (briefSummary (p.rows.map viewOf)).aovMu =
    if 0 < p.orders then some (p.netSales.fdiv p.orders) else none := by
  have hnet : Insight.sumOf Insight.MetricRow.netSalesMu
      ((p.rows.map viewOf).map (·.toMetricRow)) = p.netSales := by
    rw [Insight.sumOf, netSales, total, List.map_map, List.map_map]
    rfl
  have horders : ((((p.rows.map viewOf).map (·.toMetricRow)).map fun r =>
      (r.totalOrders.map Int64.toInt).getD 0)).sum = p.orders := by
    rw [orders, total, List.map_map, List.map_map]
    rfl
  rw [briefSummary, aggregateSummary]
  simp only [hnet, horders]

theorem lastOf_eq_none_iff {rows : List MetricRow} :
    lastOf (·.aovMu) rows = none ↔ ∀ row ∈ rows, row.aovMu = none := by
  simp [lastOf]

theorem fits_lastOf {rows : List MetricRow} (h : ∀ row ∈ rows, FitsWire row) :
    ∀ n ∈ lastOf (·.aovMu) rows, FitsInt32 n.toInt := by
  intro n hn
  obtain ⟨row, hrow, haov⟩ := List.exists_of_findSome?_eq_some hn
  have hfits := h row (List.mem_reverse.mp hrow)
  rw [FitsWire, narrowValues] at hfits
  exact hfits row.aovMu (by simp) n haov

theorem toInt_narrow {v : Option Int64} (h : ∀ n ∈ v, FitsInt32 n.toInt) :
    (v.map fun n => Int32.ofInt n.toInt).map Int32.toInt = v.map Int64.toInt := by
  cases v with
  | none => rfl
  | some n =>
    have hn := h n rfl
    exact congrArg some (Int32.toInt_ofInt_of_le hn.1 hn.2)

/-- What the summary reports is the average of the last day that has one. -/
theorem kpiSummary_aov_iff (h : ∀ row ∈ p.rows, FitsWire row) {aov : Option Int} :
    (∃ summary, kpiSummary p.request p.rows = .ok summary ∧
      summary.aovMu.map Int32.toInt = aov) ↔
    (FitsInt64 (total (·.netRevenueMu) p.rows) ∧ FitsInt64 (total (·.cm2Mu) p.rows) ∧
      FitsInt64 (total (·.cm3Mu) p.rows) ∧ FitsInt64 p.orders) ∧
      (lastOf (·.aovMu) p.rows).map Int64.toInt = aov := by
  have hnarrow := fits_lastOf h
  simp only [kpiSummary, Py.bind_ok, int64Field_ok_iff, int32Value_ok_iff]
  constructor
  · rintro ⟨summary, ⟨_, ⟨hnet, -⟩, _, ⟨hcm2, -⟩, _, ⟨hcm3, -⟩, _, ⟨horders, -⟩, _, ⟨-, rfl⟩,
      hsummary⟩, haov⟩
    cases hsummary
    exact ⟨⟨hnet, hcm2, hcm3, horders⟩, (toInt_narrow hnarrow).symm.trans haov⟩
  · rintro ⟨⟨hnet, hcm2, hcm3, horders⟩, haov⟩
    exact ⟨_, ⟨_, ⟨hnet, rfl⟩, _, ⟨hcm2, rfl⟩, _, ⟨hcm3, rfl⟩, _, ⟨horders, rfl⟩, _,
      ⟨hnarrow, rfl⟩, rfl⟩, (toInt_narrow hnarrow).trans haov⟩

theorem fdiv_eq_iff {n k q : Int} (hk : 0 < k) : n.fdiv k = q ↔ q * k ≤ n ∧ n < (q + 1) * k := by
  rw [Int.fdiv_eq_ediv_of_nonneg n (Int.le_of_lt hk), ← Int.le_ediv_iff_mul_le hk,
    ← Int.ediv_lt_iff_lt_mul hk]
  omega

/-- The last day's average is what the totals give. -/
theorem lastDayTypical_iff : p.LastDayTypical ↔ 0 ≤ p.orders ∧
    (lastOf (·.aovMu) p.rows).map Int64.toInt =
      if 0 < p.orders then some (p.netSales.fdiv p.orders) else none := by
  constructor
  · rintro ⟨hcounted, hidle, haverage⟩
    refine ⟨hcounted, ?_⟩
    split
    · next hpos =>
      obtain ⟨q, hq, hbounds⟩ := haverage hpos
      rw [hq, (fdiv_eq_iff hpos).mpr hbounds]
      rfl
    · next hzero =>
      rw [lastOf_eq_none_iff.mpr (hidle (by omega))]
      rfl
  · rintro ⟨hcounted, haov⟩
    refine ⟨hcounted, ?_, ?_⟩
    · intro hzero
      rw [if_neg (by omega), Option.map_eq_none_iff] at haov
      exact lastOf_eq_none_iff.mp haov
    · intro hpos
      rw [if_pos hpos, Option.map_eq_some_iff] at haov
      obtain ⟨q, hq, hfdiv⟩ := haov
      exact ⟨q, hq, (fdiv_eq_iff hpos).mp hfdiv.symm⟩

/-- The two averages are one exactly when both are reported and the last day is typical. -/
theorem oneAov_iff : p.OneAov ↔ p.Reported ∧ p.LastDayTypical := by
  rw [lastDayTypical_iff]
  constructor
  · rintro ⟨summary, views, hsummary, hviews, hone, hsome, hnone⟩
    obtain ⟨hdays, rfl⟩ := p.clientRows_ok_iff.mp hviews
    rw [p.briefSummary_aov] at hone hsome hnone
    obtain ⟨⟨hnet, hcm2, hcm3, horders⟩, haov⟩ := (p.kpiSummary_aov_iff hdays).mp
      ⟨summary, p.getKpiSummary_ok_iff.mp hsummary, hone⟩
    refine ⟨⟨hnet, hcm2, hcm3, horders, hdays⟩, ?_, haov⟩
    apply Int.not_lt.mp
    intro hnegative
    have h := hsome (by omega)
    rw [if_neg (by omega)] at h
    cases h
  · rintro ⟨⟨hnet, hcm2, hcm3, horders, hdays⟩, hcounted, haov⟩
    obtain ⟨summary, hsummary, hone⟩ := (p.kpiSummary_aov_iff hdays).mpr
      ⟨⟨hnet, hcm2, hcm3, horders⟩, haov⟩
    refine ⟨summary, _, p.getKpiSummary_ok_iff.mpr hsummary, p.clientRows_ok_iff.mpr ⟨hdays, rfl⟩,
      ?_, ?_, ?_⟩
    · rw [p.briefSummary_aov, hone]
    · intro hne
      rw [p.briefSummary_aov, if_pos (by omega)]
    · intro hzero
      rw [p.briefSummary_aov, if_neg (by omega)]

end Period

/-- An order of ten and the day after one of thirty. -/
def tenAndThirty : Facts where
  orders := [⟨"w", "shopify", "1", juneDay 1, 1000, 0, 0, 0, "INR", "COD", "paid", none, 1⟩,
    ⟨"w", "shopify", "2", juneDay 2, 3000, 0, 0, 0, "INR", "COD", "paid", none, 1⟩]
  lineItems := []
  products := []
  adSpend := []
  shipments := []

def tenAndThirtyPeriod : Period :=
  .ofRange ((rollup tenAndThirty ⟨"w", ⟨juneDay 1, juneDay 30⟩, 0⟩).map computedRow) "w"
    juneRange (Eq.refl false)

/-- The summary reports the thirty of the last day, and the brief twenty. -/
theorem last_day_for_the_period : ¬ tenAndThirtyPeriod.OneAov := by
  have hrows : tenAndThirtyPeriod.rows =
      ((rollup tenAndThirty ⟨"w", ⟨juneDay 1, juneDay 30⟩, 0⟩).map computedRow).map
        (·.toMetricRow) := Period.rows_of_sorted _ (by decide) (by decide)
  rintro ⟨summary, views, hsummary, hviews, hone, -⟩
  obtain ⟨hdays, rfl⟩ := tenAndThirtyPeriod.clientRows_ok_iff.mp hviews
  have haov := ((tenAndThirtyPeriod.kpiSummary_aov_iff hdays).mp
    ⟨summary, tenAndThirtyPeriod.getKpiSummary_ok_iff.mp hsummary, hone⟩).2
  rw [Period.briefSummary_aov, Period.orders, Period.netSales, hrows] at haov
  revert haov
  decide

end BrainV2.Metrics
