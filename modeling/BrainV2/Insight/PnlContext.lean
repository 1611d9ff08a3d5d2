import BrainV2.Insight.Display
import BrainV2.Insight.PnlSignals
import BrainV2.Py.Datetime

/-!
# The context of the P&L page

* `MetricRow`: a day of metrics as the gateway to the analytics returns it;
* `buildPnlContext`: the context of a period from the rows of it and of the one before;
* `contextToSignals`: the values of a context the narration may cite.
-/

namespace BrainV2.Insight

open Py

/-- The fields of a metric row that the context is built from. -/
structure MetricRow where
  date : Date
  netSalesMu : Int64
  cogsMu : Int64
  cm1Mu : Int64
  cm2Mu : Int64
  cm3Mu : Int64
  totalAdSpendMu : Int64
  totalOrders : Option Int64

def isoDate (d : Date) : String := String.ofList (dateText d)

def maxDailyRows : Nat := 30

def pnlMaxContextTokens : Nat := 1800

structure PnlContextGoal where
  metricId : String
  label : String
  goalMu : Int
  actualMu : Int
  variancePctX10 : Option Int
  rag : String

structure PnlPeriodSummary where
  netSalesMu : Int
  cogsMu : Int
  cm1Mu : Int
  cm2Mu : Int
  cm3Mu : Int
  totalAdSpendMu : Int
  totalOrders : Int
  aovMu : Option Int

structure PnlContext where
  workspaceId : String
  dateFrom : String
  dateTo : String
  priorDateFrom : String
  priorDateTo : String
  current : PnlPeriodSummary
  prior : PnlPeriodSummary
  dailySignals : List Signal
  goals : List PnlContextGoal
  filtersHash : String
  estimatedTokens : Nat

/-! ### From the rows -/

def sumOf (get : MetricRow → Int64) (rows : List MetricRow) : Int :=
  (rows.map fun r => (get r).toInt).sum

def aggregateSummary (rows : List MetricRow) : PnlPeriodSummary :=
  let totalNetSales := sumOf MetricRow.netSalesMu rows
  let totalOrders := (rows.map fun r => (r.totalOrders.map Int64.toInt).getD 0).sum
  { netSalesMu := totalNetSales
    cogsMu := sumOf MetricRow.cogsMu rows
    cm1Mu := sumOf MetricRow.cm1Mu rows
    cm2Mu := sumOf MetricRow.cm2Mu rows
    cm3Mu := sumOf MetricRow.cm3Mu rows
    totalAdSpendMu := sumOf MetricRow.totalAdSpendMu rows
    totalOrders := totalOrders
    aovMu := if 0 < totalOrders then some (totalNetSales.fdiv totalOrders) else none }

def buildSummarySignals (current prior : PnlPeriodSummary) : List Signal :=
  [⟨"net_sales_mu", current.netSalesMu⟩, ⟨"cogs_mu", current.cogsMu⟩, ⟨"cm1_mu", current.cm1Mu⟩,
    ⟨"cm2_mu", current.cm2Mu⟩, ⟨"cm3_mu", current.cm3Mu⟩,
    ⟨"total_ad_spend_mu", current.totalAdSpendMu⟩, ⟨"total_orders", current.totalOrders⟩,
    ⟨"prior_net_sales_mu", prior.netSalesMu⟩, ⟨"prior_cm2_mu", prior.cm2Mu⟩,
    ⟨"prior_cm3_mu", prior.cm3Mu⟩, ⟨"prior_total_ad_spend_mu", prior.totalAdSpendMu⟩] ++
  (current.aovMu.map fun aov => ⟨"aov_mu", aov⟩).toList

def dailySignal (d : Date) (metric : String) (value : Int64) : Signal :=
  ⟨"daily:" ++ isoDate d ++ ":" ++ metric, value.toInt⟩

def buildDailySignals (rows : List MetricRow) : List Signal :=
  rows.flatMap fun row =>
    [dailySignal row.date "net_sales_mu" row.netSalesMu, dailySignal row.date "cm2_mu" row.cm2Mu,
      dailySignal row.date "cm3_mu" row.cm3Mu]

/-- `f"{value}"` of an integer. -/
def intText (value : Int) : List Char :=
  if value < 0 then '-' :: Nat.toDigits 10 value.natAbs else Nat.toDigits 10 value.natAbs

def signalText (sig : Signal) : List Char := sig.signalId.toList ++ ':' :: intText sig.valueCanonical

/-- A quarter of the characters, and the overhead of the prompt. -/
def estimateTokens (signals : List Signal) : Nat :=
  (List.intercalate [' '] (signals.map signalText)).length / 4 + 400

/-- The period of a context and the one before it. -/
structure Period where
  workspaceId : String
  dateFrom : String
  dateTo : String
  priorDateFrom : String
  priorDateTo : String
  filtersHash : String

def contextTooLarge (estimated : Nat) (workspaceId : String) : PyExc :=
  ⟨.valueError, s!"build_pnl_context: estimated_tokens={estimated} " ++
    s!"exceeds PNL_MAX_CONTEXT_TOKENS={pnlMaxContextTokens} for workspace_id=" ++
    String.ofList (reprStr workspaceId) ++ ". CF-C5-PINCODE-TOKEN-CAP-1."⟩

/-- `rows[-n:]`. -/
def lastRows (n : Nat) (rows : List MetricRow) : List MetricRow := rows.drop (rows.length - n)

/-- The context, once the rows are there. -/
def contextOf (period : Period) (currentRows priorRows : List MetricRow) :
    Except PyExc PnlContext :=
  let current := aggregateSummary currentRows
  let prior := aggregateSummary priorRows
  let summarySignals := buildSummarySignals current prior
  let all := buildDailySignals (lastRows maxDailyRows currentRows)
  -- a context that is too large keeps its first twenty daily signals
  let daily := if pnlMaxContextTokens < estimateTokens (summarySignals ++ all) then all.take 20
    else all
  let estimated := estimateTokens (summarySignals ++ daily)
  if pnlMaxContextTokens < estimated then .error (contextTooLarge estimated period.workspaceId)
  else .ok ⟨period.workspaceId, period.dateFrom, period.dateTo, period.priorDateFrom,
    period.priorDateTo, current, prior, daily, [], period.filtersHash, estimated⟩

/-! ### The rows -/

def dateFromIsoformat (text : String) : Except PyExc Date :=
  let cs := text.toList
  let invalid : PyExc :=
    ⟨.valueError, "Invalid isoformat string: " ++ String.ofList (reprStr text)⟩
  if cs.length = 7 ∨ cs.length = 8 ∨ cs.length = 10 then
    match parseDate cs with
    | none => .error invalid
    | some (year, month, day) => makeDate year month day
  else .error invalid

/-- `d + timedelta(days=days)`. -/
def addDays (d : Date) (days : Int) : Except PyExc Date :=
  let ordinal : Int := d.toOrdinal + days
  if 0 < ordinal ∧ ordinal ≤ 3652059 then
    let (year, month, day) := ofOrdinal ordinal.toNat
    makeDate year month day
  else .error ⟨.overflowError, "date value out of range"⟩

/-- Where the rows come from, and the digest of the cache key. -/
structure MetricSource where
  /-- `query_metrics` over an inclusive range of dates. -/
  queryMetrics : String → String → Date → Date → Except PyExc (List MetricRow)
  /-- The first sixteen hexadecimal digits of the SHA-256. -/
  digest16 : String → String

/-- `DateRange` refuses an end before its start. -/
def dateRange (start stop : Date) : Except PyExc (Date × Date) :=
  if stop.toOrdinal < start.toOrdinal then
    .error ⟨.valueError, s!"DateRange: end ({isoDate stop}) must be >= start ({isoDate start})."⟩
  else .ok (start, stop)

def buildPnlContext (source : MetricSource) (workspaceId dateFrom dateTo : String) :
    Except PyExc PnlContext := do
  let fromDate ← dateFromIsoformat dateFrom
  let toDate ← dateFromIsoformat dateTo
  let durationDays : Int := toDate.toOrdinal - fromDate.toOrdinal
  let priorTo ← addDays fromDate (-1)
  let priorFrom ← addDays priorTo (-durationDays)
  let filtersHash := source.digest16 (workspaceId ++ ":pnl:" ++ dateFrom ++ ":" ++ dateTo)
  let currentRange ← dateRange fromDate toDate
  let currentRows ← source.queryMetrics workspaceId "pnl_summary" currentRange.1 currentRange.2
  let priorRange ← dateRange priorFrom priorTo
  let priorRows ← source.queryMetrics workspaceId "pnl_summary" priorRange.1 priorRange.2
  contextOf ⟨workspaceId, dateFrom, dateTo, isoDate priorFrom, isoDate priorTo, filtersHash⟩
    currentRows priorRows

/-! ### The signals of a context -/

def contextToSignals (ctx : PnlContext) : List Signal :=
  [⟨"net_sales_mu", ctx.current.netSalesMu⟩, ⟨"cogs_mu", ctx.current.cogsMu⟩,
    ⟨"cm1_mu", ctx.current.cm1Mu⟩, ⟨"cm2_mu", ctx.current.cm2Mu⟩, ⟨"cm3_mu", ctx.current.cm3Mu⟩,
    ⟨"total_ad_spend_mu", ctx.current.totalAdSpendMu⟩,
    ⟨"total_orders", ctx.current.totalOrders⟩] ++
  (ctx.current.aovMu.map fun aov => ⟨"aov_mu", aov⟩).toList ++
  [⟨"prior_net_sales_mu", ctx.prior.netSalesMu⟩, ⟨"prior_cm2_mu", ctx.prior.cm2Mu⟩,
    ⟨"prior_cm3_mu", ctx.prior.cm3Mu⟩, ⟨"prior_total_ad_spend_mu", ctx.prior.totalAdSpendMu⟩,
    ⟨"prior_total_orders", ctx.prior.totalOrders⟩] ++
  ctx.dailySignals ++
  ctx.goals.flatMap fun goal =>
    [⟨"goal_" ++ goal.metricId ++ "_goal_mu", goal.goalMu⟩,
      ⟨"goal_" ++ goal.metricId ++ "_actual_mu", goal.actualMu⟩]

end BrainV2.Insight
