import BrainV2.Insight.PnlContext
import BrainV2.Metrics.Recompute

/-!
# The metrics servicer

* `int64Field`, `int32Field`: the fields of a message, which refuse what does not fit;
* `rowsFor`: the rows of a request, or how it is aborted;
* `Period`: a request that is served, and its rows;
* `queryMetricsRpc`, `getKpiSummary`, `getPnlWaterfall`: the three calls.
-/

namespace BrainV2.Metrics

open Py (Date PyExc)

/-! ### Fields of messages -/

def outOfRange (n : Int) : PyExc := ⟨.valueError, "Value out of range: " ++ toString n⟩

def FitsInt64 (n : Int) : Prop := -2 ^ 63 ≤ n ∧ n < 2 ^ 63

def FitsInt32 (n : Int) : Prop := -2 ^ 31 ≤ n ∧ n < 2 ^ 31

instance (n : Int) : Decidable (FitsInt64 n) := inferInstanceAs (Decidable (_ ∧ _))

instance (n : Int) : Decidable (FitsInt32 n) := inferInstanceAs (Decidable (_ ∧ _))

def int64Field (n : Int) : Except PyExc Int64 :=
  if FitsInt64 n then .ok (Int64.ofInt n) else .error (outOfRange n)

def int32Field (n : Int) : Except PyExc Int32 :=
  if FitsInt32 n then .ok (Int32.ofInt n) else .error (outOfRange n)

/-- `Int32Value`, left unset for `None`. -/
def int32Value : Option Int64 → Except PyExc (Option Int32)
  | none => .ok none
  | some n => do
    let field ← int32Field n.toInt
    .ok (some field)

theorem int64Field_ok_iff {n : Int} {field : Int64} :
    int64Field n = .ok field ↔ FitsInt64 n ∧ Int64.ofInt n = field := by
  rw [int64Field]
  split
  · next h => simp [h]
  · next h => simp [h]

theorem toInt_ofInt {n : Int} (h : FitsInt64 n) : (Int64.ofInt n).toInt = n :=
  Int64.toInt_ofInt_of_le h.1 h.2

theorem int32Value_ok_iff {v : Option Int64} {field : Option Int32} :
    int32Value v = .ok field ↔
      (∀ n ∈ v, FitsInt32 n.toInt) ∧ v.map (fun n => Int32.ofInt n.toInt) = field := by
  cases v with
  | none => simp [int32Value]
  | some n =>
    rw [int32Value, Py.bind_ok]
    by_cases h : FitsInt32 n.toInt
    · simp [int32Field, h]
    · simp [int32Field, h]

/-! ### Requests -/

inductive StatusCode where
  | invalidArgument
  | internal
deriving DecidableEq

/-- How a call ends without an answer: by `context.abort`, or by what escapes the handler. -/
inductive RpcFailure where
  | aborted (code : StatusCode) (details : String)
  | raised (e : PyExc)
deriving DecidableEq

def escaping {α : Type} : Except PyExc α → Except RpcFailure α
  | .ok a => .ok a
  | .error e => .error (.raised e)

structure MetricsRequest where
  workspaceId : String
  dateStart : String
  dateEnd : String

def makeDateRange (start stop : Date) : Except PyExc DateRange :=
  if h : start ≤ stop then .ok ⟨⟨start, stop⟩, h⟩
  else .error ⟨.valueError, "DateRange: end (" ++ Insight.isoDate stop ++ ") must be >= start (" ++
    Insight.isoDate start ++ ")."⟩

def parseDateRange (dateStart dateEnd : String) : Except PyExc DateRange := do
  let start ← Insight.dateFromIsoformat dateStart
  let stop ← Insight.dateFromIsoformat dateEnd
  makeDateRange start stop

theorem dateFromIsoformat_isoDate (d : Date) :
    Insight.dateFromIsoformat (Insight.isoDate d) = .ok d := by
  have hlength : (Py.dateText d).length = 10 := by simp [Py.dateText, Py.length_pad]
  simp [Insight.dateFromIsoformat, Insight.isoDate, hlength, Py.parseDate_dateText, Py.makeDate_self]

theorem parseDateRange_isoDate (dateRange : DateRange) :
    parseDateRange (Insight.isoDate dateRange.start) (Insight.isoDate dateRange.stop) =
      .ok dateRange := by
  rw [parseDateRange, dateFromIsoformat_isoDate, dateFromIsoformat_isoDate]
  exact dif_pos dateRange.ordered

/-- `_run_query`, with what ClickHouse answers. -/
def runQuery (answer : Except PyExc (List ComputedRow)) (workspaceId : String)
    (dateRange : DateRange) : Except PyExc (List MetricRow) :=
  if isBlankText workspaceId then .error (unscopedQuery workspaceId)
  else do
    let read ← answer
    queryMetrics read workspaceId dateRange

/-- What the three calls begin with. -/
def rowsFor (rpc : String) (answer : Except PyExc (List ComputedRow)) (request : MetricsRequest) :
    Except RpcFailure (List MetricRow) :=
  match parseDateRange request.dateStart request.dateEnd with
  | .error e => .error (.aborted .invalidArgument (rpc ++ ": invalid date range: " ++ e.text))
  | .ok dateRange =>
    match runQuery answer request.workspaceId dateRange with
    | .ok rows => .ok rows
    | .error e =>
      if e.cls = .other "UnscopedQueryError" true then
        .error (.aborted .invalidArgument (rpc ++ ": workspace_id required. " ++ e.text))
      else .error (.aborted .internal (rpc ++ ": internal error: " ++ e.text))

/-- A table and a request that the servicer serves from it. -/
structure Period where
  read : List ComputedRow
  request : MetricsRequest
  dateRange : DateRange
  parsed : parseDateRange request.dateStart request.dateEnd = .ok dateRange
  nonBlank : isBlankText request.workspaceId = false

namespace Period

variable (p : Period)

def rows : List MetricRow :=
  ((p.read.map (·.toMetricRow)).filter fun row =>
    row.workspaceId = p.request.workspaceId ∧ p.dateRange.has row.date).mergeSort
      fun a b => a.date ≤ b.date

theorem runQuery_ok : runQuery (.ok p.read) p.request.workspaceId p.dateRange = .ok p.rows := by
  have hworkspace := p.nonBlank
  rw [runQuery, if_neg (by simp [hworkspace]), Py.bind_ok]
  refine ⟨p.read, rfl, ?_⟩
  rw [queryMetrics, if_neg (by simp [hworkspace])]
  rfl

theorem rowsFor_ok (rpc : String) : rowsFor rpc (.ok p.read) p.request = .ok p.rows := by
  rw [rowsFor, p.parsed]
  simp only [runQuery_ok]

/-- The request for the workspace's rows of a window. -/
def ofRange (read : List ComputedRow) (workspaceId : String) (dateRange : DateRange)
    (nonBlank : isBlankText workspaceId = false) : Period where
  read := read
  request := ⟨workspaceId, Insight.isoDate dateRange.start, Insight.isoDate dateRange.stop⟩
  dateRange := dateRange
  parsed := parseDateRange_isoDate dateRange
  nonBlank := nonBlank

theorem rows_of_sorted {rows : List MetricRow} (h : ((p.read.map (·.toMetricRow)).filter fun r =>
      r.workspaceId = p.request.workspaceId ∧ p.dateRange.has r.date) = rows)
    (hsorted : rows.Pairwise fun a b => decide (a.date ≤ b.date) = true) : p.rows = rows := by
  rw [Period.rows, h]
  exact List.mergeSort_of_pairwise hsorted

end Period

/-! ### QueryMetrics -/

def currencyInr : String := "INR"

structure ProtoMetricRow where
  workspaceId : String
  /-- Its ISO text. -/
  date : Date
  grossSalesMu : Int64
  returnsMu : Int64
  discountsMu : Int64
  netSalesMu : Int64
  totalTaxMu : Int64
  netNetTaxMu : Int64
  shippingRevenueMu : Int64
  netRevenueMu : Int64
  cogsMu : Int64
  totalAdSpendMu : Int64
  cm1Mu : Int64
  cm2Mu : Int64
  cm3Mu : Int64
  totalOrders : Int64
  currencyCode : String
  miscExpensesProratedMu : Option Int32
  rtoRateBp : Option Int32
  prepaidRateBp : Option Int32
  conversionRateBp : Option Int32
  aovMu : Option Int32
  acosBp : Option Int32
  blendedRoasX100 : Option Int32
  metaCtrBp : Option Int32
  metaCpcMu : Option Int32
  metaCpmMu : Option Int32
  googleCtrBp : Option Int32
  googleAvgCpcMu : Option Int32

/-- `_row_to_proto`; the rates are 32 bits wide in the table already. -/
def rowToProto (row : MetricRow) : Except PyExc ProtoMetricRow := do
  let miscExpensesProratedMu ← int32Value row.miscExpensesProratedMu
  let aovMu ← int32Value row.aovMu
  let metaCpcMu ← int32Value row.metaCpcMu
  let metaCpmMu ← int32Value row.metaCpmMu
  let googleAvgCpcMu ← int32Value row.googleAvgCpcMu
  .ok {
    workspaceId := row.workspaceId
    date := row.date
    grossSalesMu := row.grossSalesMu
    returnsMu := row.returnsMu
    discountsMu := row.discountsMu
    netSalesMu := row.netSalesMu
    totalTaxMu := row.totalTaxMu
    netNetTaxMu := row.netNetTaxMu
    shippingRevenueMu := row.shippingRevenueMu
    netRevenueMu := row.netRevenueMu
    cogsMu := row.cogsMu
    totalAdSpendMu := row.totalAdSpendMu
    cm1Mu := row.cm1Mu
    cm2Mu := row.cm2Mu
    cm3Mu := row.cm3Mu
    totalOrders := row.totalOrders
    currencyCode := currencyInr
    miscExpensesProratedMu := miscExpensesProratedMu
    rtoRateBp := row.rtoRateBp
    prepaidRateBp := row.prepaidRateBp
    conversionRateBp := row.conversionRateBp
    aovMu := aovMu
    acosBp := row.acosBp
    blendedRoasX100 := row.blendedRoasX100
    metaCtrBp := row.metaCtrBp
    metaCpcMu := metaCpcMu
    metaCpmMu := metaCpmMu
    googleCtrBp := row.googleCtrBp
    googleAvgCpcMu := googleAvgCpcMu }

/-- The cursor is empty for the last page. -/
structure QueryMetricsResponse where
  rows : List ProtoMetricRow
  nextCursor : String

/-- All rows come on the first page. -/
def queryMetricsRpc (answer : Except PyExc (List ComputedRow)) (request : MetricsRequest) :
    Except RpcFailure QueryMetricsResponse := do
  let rows ← rowsFor "QueryMetrics" answer request
  let protoRows ← escaping (rows.mapM rowToProto)
  .ok ⟨protoRows, ""⟩

/-! ### GetKpiSummary -/

structure KpiSummaryRow where
  workspaceId : String
  period : String
  currencyCode : String
  netRevenueMu : Int64
  cm2Mu : Int64
  cm3Mu : Int64
  totalOrders : Int64
  rtoRateBp : Option Int32
  blendedRoasX100 : Option Int32
  aovMu : Option Int32
  conversionRateBp : Option Int32

/-- `sum(r.column for r in rows)` -/
def total (column : MetricRow → Int64) (rows : List MetricRow) : Int :=
  (rows.map fun r => (column r).toInt).sum

/-- The last row with a value present. -/
def lastOf {α : Type} (column : MetricRow → Option α) (rows : List MetricRow) : Option α :=
  rows.reverse.findSome? column

def kpiSummary (request : MetricsRequest) (rows : List MetricRow) : Except PyExc KpiSummaryRow := do
  let netRevenueMu ← int64Field (total (·.netRevenueMu) rows)
  let cm2Mu ← int64Field (total (·.cm2Mu) rows)
  let cm3Mu ← int64Field (total (·.cm3Mu) rows)
  let totalOrders ← int64Field (total (·.totalOrders) rows)
  let aovMu ← int32Value (lastOf (·.aovMu) rows)
  .ok {
    workspaceId := request.workspaceId
    period := request.dateStart ++ "/" ++ request.dateEnd
    currencyCode := currencyInr
    netRevenueMu := netRevenueMu
    cm2Mu := cm2Mu
    cm3Mu := cm3Mu
    totalOrders := totalOrders
    rtoRateBp := lastOf (·.rtoRateBp) rows
    blendedRoasX100 := lastOf (·.blendedRoasX100) rows
    aovMu := aovMu
    conversionRateBp := lastOf (·.conversionRateBp) rows }

def getKpiSummary (answer : Except PyExc (List ComputedRow)) (request : MetricsRequest) :
    Except RpcFailure KpiSummaryRow := do
  let rows ← rowsFor "GetKpiSummary" answer request
  escaping (kpiSummary request rows)

/-! ### GetPnlWaterfall -/

structure PnlWaterfallRow where
  definitionId : String
  label : String
  valueMu : Int64
  cumulativeMu : Int64
  currencyCode : String
deriving DecidableEq

/-- `step` -/
def waterfallRow (definitionId label : String) (value cumulative : Int) :
    Except PyExc PnlWaterfallRow := do
  let valueMu ← int64Field value
  let cumulativeMu ← int64Field cumulative
  .ok ⟨definitionId, label, valueMu, cumulativeMu, currencyInr⟩

/-- The step of the miscellaneous expenses, when a row has any. -/
def miscStep (cm2 : Int) (rows : List MetricRow) : Except PyExc (List PnlWaterfallRow) :=
  match rows.filterMap (·.miscExpensesProratedMu) with
  | [] => .ok []
  | charged => do
    let miscTotal := (charged.map Int64.toInt).sum
    let row ← waterfallRow "misc_expenses_prorated_mu" "Misc. Expenses" (-miscTotal) (cm2 - miscTotal)
    .ok [row]

def pnlWaterfall (rows : List MetricRow) : Except PyExc (List PnlWaterfallRow) := do
  let netRevenue := total (·.netRevenueMu) rows
  let cogs := total (·.cogsMu) rows
  let cm1 := total (·.cm1Mu) rows
  let adSpend := total (·.totalAdSpendMu) rows
  let cm2 := total (·.cm2Mu) rows
  let cm3 := total (·.cm3Mu) rows
  let netRevenueRow ← waterfallRow "net_revenue_mu" "Net Revenue" netRevenue netRevenue
  let cogsRow ← waterfallRow "cogs_mu" "COGS" (-cogs) (netRevenue - cogs)
  let cm1Row ← waterfallRow "cm1_mu" "CM1" cm1 cm1
  let adSpendRow ← waterfallRow "total_ad_spend_mu" "Ad Spend" (-adSpend) (cm1 - adSpend)
  let cm2Row ← waterfallRow "cm2_mu" "CM2" cm2 cm2
  let miscRows ← miscStep cm2 rows
  let cm3Row ← waterfallRow "cm3_mu" "CM3" cm3 cm3
  .ok ([netRevenueRow, cogsRow, cm1Row, adSpendRow, cm2Row] ++ miscRows ++ [cm3Row])

def getPnlWaterfall (answer : Except PyExc (List ComputedRow)) (request : MetricsRequest) :
    Except RpcFailure (List PnlWaterfallRow) := do
  let rows ← rowsFor "GetPnlWaterfall" answer request
  escaping (pnlWaterfall rows)

end BrainV2.Metrics
