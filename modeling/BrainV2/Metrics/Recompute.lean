import BrainV2.Metrics.DailyRollup
import BrainV2.Py.Decimal

/-!
# The daily recompute

* `computedRow`: what the materialized view makes of a base row;
* `gateGoldRecompute`: the dates of a window that have fresh silver;
* `fetchMiscExpenses`: the overheads that have started by the end of the window;
* `recomputeDailyMetrics`: the rows of a window are deleted and inserted again;
* `queryMetrics`: what readers see of the computed rows.
-/

namespace BrainV2.Metrics

open Py (Date PyExc reprStr)
open Versions

/-! ### The materialized view -/

/-- `dateDiff('day', toStartOfMonth(date), addMonths(toStartOfMonth(date), 1))` -/
def monthDays (d : Date) : Int64 := Int64.ofNat (Py.daysInMonth d.year d.month)

/-- `if(denominator > 0, intDiv(numerator, denominator), NULL)` -/
def guardedDiv (numerator denominator : Int64) : Option Int64 :=
  if denominator > 0 then some (numerator / denominator) else none

/-- The columns that readers select. -/
structure MetricRow where
  workspaceId : String
  date : Date
  grossSalesMu : Int64
  returnsMu : Int64
  discountsMu : Int64
  netSalesMu : Int64
  totalTaxMu : Int64
  netNetTaxMu : Int64
  shippingRevenueMu : Int64
  netRevenueMu : Int64
  cogsMu : Int64
  totalAdSpendMu : Int64
  cm1Mu : Int64
  cm2Mu : Int64
  miscExpensesProratedMu : Option Int64
  cm3Mu : Int64
  totalOrders : Int64
  rtoRateBp : Option Int32
  prepaidRateBp : Option Int32
  conversionRateBp : Option Int32
  aovMu : Option Int64
  acosBp : Option Int32
  blendedRoasX100 : Option Int32
  metaCtrBp : Option Int32
  metaCpcMu : Option Int64
  metaCpmMu : Option Int64
  googleCtrBp : Option Int32
  googleAvgCpcMu : Option Int64
deriving DecidableEq

structure ComputedRow extends MetricRow where
  metaAdSpendMu : Int64
  googleAdSpendMu : Int64
deriving DecidableEq

/-- `workspace_daily_metrics_mv`, into the columns of the computed table. -/
def computedRow (row : BaseRow) : ComputedRow where
  workspaceId := row.workspaceId
  date := row.date
  grossSalesMu := row.grossSalesMu
  returnsMu := row.returnsMu
  discountsMu := row.discountsMu
  netSalesMu := row.netSalesMu
  totalTaxMu := row.totalTaxMu
  netNetTaxMu := row.netNetTaxMu
  shippingRevenueMu := row.shippingRevenueMu
  netRevenueMu := row.netRevenueMu
  cogsMu := row.cogsMu
  totalAdSpendMu := row.totalAdSpendMu
  metaAdSpendMu := row.metaAdSpendMu
  googleAdSpendMu := row.googleAdSpendMu
  cm1Mu := row.cm1Mu
  cm2Mu := row.cm2Mu
  miscExpensesProratedMu := guardedDiv row.miscExpensesMonthlyMu (monthDays row.date)
  cm3Mu := row.cm2Mu - (guardedDiv row.miscExpensesMonthlyMu (monthDays row.date)).getD 0
  totalOrders := row.totalOrders
  rtoRateBp := (guardedDiv (row.rtoOrders * 10000) row.totalShipments).map Int64.toInt32
  prepaidRateBp := (guardedDiv (row.prepaidOrders * 10000) row.totalOrders).map Int64.toInt32
  conversionRateBp := (guardedDiv (row.totalOrders * 10000) row.totalSessions).map Int64.toInt32
  aovMu := guardedDiv row.netSalesMu row.totalOrders
  acosBp := (guardedDiv (row.totalAdSpendMu * 10000) row.netSalesMu).map Int64.toInt32
  blendedRoasX100 := (guardedDiv (row.netSalesMu * 100) row.totalAdSpendMu).map Int64.toInt32
  metaCtrBp := (guardedDiv (row.metaClicks * 10000) row.metaImpressions).map Int64.toInt32
  metaCpcMu := guardedDiv row.metaAdSpendMu row.metaClicks
  metaCpmMu := guardedDiv (row.metaAdSpendMu * 1000) row.metaImpressions
  googleCtrBp := (guardedDiv (row.googleClicks * 10000) row.googleImpressions).map Int64.toInt32
  googleAvgCpcMu := guardedDiv row.googleAdSpendMu row.googleClicks

/-! ### The tables -/

/-- A row and the second in which it was inserted, its version. -/
structure Inserted (α : Type) where
  row : α
  insertedAt : Nat
deriving DecidableEq

def baseKey (r : Inserted BaseRow) : String × Date := (r.row.workspaceId, r.row.date)

def computedKey (r : Inserted ComputedRow) : String × Date := (r.row.workspaceId, r.row.date)

structure Warehouse where
  facts : Facts
  silverFreshness : List (String × Date)
  base : List (Inserted BaseRow)
  computed : List (Inserted ComputedRow)

/-! ### Silver freshness -/

def gateGoldRecompute (silverFreshness : List (String × Date)) (workspaceId : String)
    (window : Window) : List Date :=
  ((silverFreshness.filter fun (workspace, d) => workspace = workspaceId ∧ window.has d).map
    Prod.snd).dedup.mergeSort

/-- From the first of the fresh dates to the last. -/
def replayWindow (freshDates : List Date) : Option Window :=
  match freshDates.min?, freshDates.max? with
  | some start, some stop => some ⟨start, stop⟩
  | _, _ => none

/-! ### Overheads -/

structure MiscExpense where
  workspaceId : String
  amountMu : Int
  effectiveStartDate : Date

/-- The overheads that have started by a date. -/
def startedBy (expenses : List MiscExpense) (workspaceId : String) (d : Date) : Int :=
  ((expenses.filter fun e => e.workspaceId = workspaceId ∧ e.effectiveStartDate ≤ d).map
    (·.amountMu)).sum

/-- Nothing without a connection string, and nothing when Postgres fails. -/
def fetchMiscExpenses (workspaceId : String) (dateEnd : Date) (pgDsn : Option String)
    (answer : Except PyExc (List MiscExpense)) : Int :=
  if pgDsn.getD "" = "" then 0
  else
    match answer with
    | .ok expenses => startedBy expenses workspaceId dateEnd
    | .error _ => 0

/-! ### The recompute -/

structure RecomputeCall where
  workspaceId : String
  window : Window
  pgDsn : Option String
  replayRunId : Option String
  /-- What Postgres answers. -/
  expenses : Except PyExc (List MiscExpense)
  /-- When the rows are inserted. -/
  now : Nat

def isBlankText (text : String) : Bool := text.toList.all Py.Decimal.isBlank

def emptyWorkspace : PyExc :=
  ⟨.valueError, "recompute_daily_metrics: workspace_id must not be empty. " ++
    "CF-C4-QUERY-SCOPE-ISOLATION-1."⟩

/-- The window that is recomputed: of a replay, from the first fresh date to the last. -/
def RecomputeCall.effectiveWindow (call : RecomputeCall) (w : Warehouse) : Option Window :=
  match call.replayRunId with
  | none => some call.window
  | some _ => replayWindow (gateGoldRecompute w.silverFreshness call.workspaceId call.window)

def RecomputeCall.params (call : RecomputeCall) (window : Window) : RollupParams where
  workspaceId := call.workspaceId
  window := window
  miscExpensesMonthlyMu :=
    Int64.ofInt (fetchMiscExpenses call.workspaceId window.stop call.pgDsn call.expenses)

def monthIndex (d : Date) : Nat := d.year * 12 + d.month

/-- The partition of the date is one of the window's months. -/
def Window.spansMonth (window : Window) (d : Date) : Bool :=
  monthIndex window.start ≤ monthIndex d ∧ monthIndex d ≤ monthIndex window.stop

/-- `OPTIMIZE … FINAL` of the partitions of the window. -/
def optimizePartitions (window : Window) (base : List (Inserted BaseRow)) :
    List (Inserted BaseRow) :=
  base.filter (fun r => !window.spansMonth r.row.date) ++
    newest baseKey Inserted.insertedAt (base.filter fun r => window.spansMonth r.row.date)

def inScope (workspaceId : String) (window : Window) (r : Inserted BaseRow) : Bool :=
  r.row.workspaceId = workspaceId ∧ window.has r.row.date

/-- What a recompute returns, and what it has done. -/
structure Recomputed where
  result : Except PyExc Nat
  warehouse : Warehouse
  deleted : List (Inserted BaseRow)
  inserted : List BaseRow

def recomputeDailyMetrics (call : RecomputeCall) (w : Warehouse) : Recomputed :=
  if isBlankText call.workspaceId then ⟨.error emptyWorkspace, w, [], []⟩
  else
    match call.effectiveWindow w with
    | none => ⟨.ok 0, w, [], []⟩
    | some window =>
      let deleted := w.base.filter (inScope call.workspaceId window)
      let kept := w.base.filter fun r => !inScope call.workspaceId window r
      let inserted := rollup w.facts (call.params window)
      let base := optimizePartitions window kept ++ inserted.map (⟨·, call.now⟩)
      let computed := w.computed ++ inserted.map fun row => ⟨computedRow row, call.now⟩
      let rowCount := ((newest baseKey Inserted.insertedAt base).filter
        (inScope call.workspaceId window)).length
      ⟨.ok rowCount, { w with base := base, computed := computed }, deleted, inserted⟩

/-! ### What a recompute does -/

/-- The window that the call rewrites. -/
def RecomputeCall.scope (call : RecomputeCall) (w : Warehouse) : Option Window :=
  if isBlankText call.workspaceId then none else call.effectiveWindow w

section

variable {call : RecomputeCall} {w : Warehouse} {window : Window}

theorem scope_eq_some_iff :
    call.scope w = some window ↔
      isBlankText call.workspaceId = false ∧ call.effectiveWindow w = some window := by
  rw [RecomputeCall.scope]
  split
  · next hblank => simp [hblank]
  · next hworkspace => simp [hworkspace]

theorem scope_eq_none_iff :
    call.scope w = none ↔
      isBlankText call.workspaceId = true ∨ call.effectiveWindow w = none := by
  rw [RecomputeCall.scope]
  split
  · next hblank => simp [hblank]
  · next hworkspace => simp [hworkspace]

theorem recompute_of_no_scope (h : call.scope w = none) :
    (recomputeDailyMetrics call w).warehouse = w ∧ (recomputeDailyMetrics call w).deleted = [] ∧
      (recomputeDailyMetrics call w).inserted = [] := by
  cases scope_eq_none_iff.mp h with
  | inl hblank => simp [recomputeDailyMetrics, hblank]
  | inr hwindow =>
    rw [recomputeDailyMetrics]
    split
    · exact ⟨rfl, rfl, rfl⟩
    · rw [hwindow]
      exact ⟨rfl, rfl, rfl⟩

theorem recompute_of_scope (h : call.scope w = some window) :
    (recomputeDailyMetrics call w).deleted = w.base.filter (inScope call.workspaceId window) ∧
      (recomputeDailyMetrics call w).inserted = rollup w.facts (call.params window) := by
  obtain ⟨hworkspace, hwindow⟩ := scope_eq_some_iff.mp h
  simp [recomputeDailyMetrics, hworkspace, hwindow]

theorem computed_recompute (call : RecomputeCall) (w : Warehouse) :
    (recomputeDailyMetrics call w).warehouse.computed = w.computed ++
      (recomputeDailyMetrics call w).inserted.map fun row => ⟨computedRow row, call.now⟩ := by
  rw [recomputeDailyMetrics]
  split
  · simp
  · split
    · simp
    · rfl

/-- A date of the base rows that the call deletes or inserts. -/
def Touches (call : RecomputeCall) (w : Warehouse) (d : Date) : Prop :=
  (∃ r ∈ (recomputeDailyMetrics call w).deleted, r.row.date = d) ∨
    ∃ row ∈ (recomputeDailyMetrics call w).inserted, row.date = d

theorem touches_iff (h : call.scope w = some window) {d : Date} :
    Touches call w d ↔ window.has d = true ∧
      ((∃ r ∈ w.base, r.row.workspaceId = call.workspaceId ∧ r.row.date = d) ∨
        w.facts.Active call.workspaceId d) := by
  obtain ⟨hdeleted, hinserted⟩ := recompute_of_scope h
  have hrow : (∃ row ∈ rollup w.facts (call.params window), row.date = d) ↔
      d ∈ dateSpine w.facts (call.params window) := by
    rw [← dates_rollup, List.mem_map]
  rw [Touches, hdeleted, hinserted, hrow, mem_dateSpine_iff_active, and_or_left]
  refine or_congr ?_ Iff.rfl
  constructor
  · rintro ⟨r, hr, rfl⟩
    obtain ⟨hr, hscope⟩ := List.mem_filter.mp hr
    obtain ⟨hws, hwindow⟩ := of_decide_eq_true hscope
    exact ⟨hwindow, r, hr, hws, rfl⟩
  · rintro ⟨hwindow, r, hr, hws, rfl⟩
    exact ⟨r, List.mem_filter.mpr ⟨hr, decide_eq_true ⟨hws, hwindow⟩⟩, rfl⟩

end

/-! ### Readers -/

def unscopedQuery (workspaceId : String) : PyExc where
  cls := .other "UnscopedQueryError" true
  text := "query_metrics: workspace_id must not be empty or None. Got workspace_id=" ++
    String.ofList (reprStr workspaceId) ++ ". An un-scoped query is a tenancy violation. " ++
    "Provide a workspace_id from the authenticated JWT context. CF-C4-QUERY-SCOPE-ISOLATION-1."

structure DateRange extends Window where
  ordered : start ≤ stop

/-- A June. -/
def juneRange : DateRange := ⟨⟨juneDay 1, juneDay 30⟩, by decide⟩

/-- From the computed rows that ClickHouse reads. -/
def queryMetrics (read : List ComputedRow) (workspaceId : String) (dateRange : DateRange) :
    Except PyExc (List MetricRow) :=
  if isBlankText workspaceId then .error (unscopedQuery workspaceId)
  else
    .ok (((read.map (·.toMetricRow)).filter fun row =>
      row.workspaceId = workspaceId ∧ dateRange.has row.date).mergeSort fun a b => a.date ≤ b.date)

/-! ### A June -/

/-- Ad spend on the second of June. -/
def spendOnSecond : Facts where
  orders := []
  lineItems := []
  products := []
  adSpend := [⟨"w", "META", "account", "campaign", juneDay 2, 0, 0, 100, 1⟩]
  shipments := []

/-- The recompute of a June. -/
def juneCall : RecomputeCall where
  workspaceId := "w"
  window := ⟨juneDay 1, juneDay 30⟩
  pgDsn := none
  replayRunId := none
  expenses := .ok []
  now := 0

end BrainV2.Metrics
