import BrainV2.Metrics.Recompute
import Mathlib.Algebra.BigOperators.Group.List.Basic
import Mathlib.Algebra.Order.Ring.Int
import Mathlib.Data.List.FinRange
import Mathlib.Tactic.Linarith

/-!
# Overheads of a month

* `Month`: its dates;
* `charged`: what the computed rows of a month charge;
* `charged_rollup`: a share for each day on which something has happened;
* `overheads_once_iff`: when the shares add up to the overhead in force.
-/

namespace BrainV2.Metrics

open Py (Date)

/-! ### Months -/

structure Month where
  year : Nat
  month : Nat
  yearBound : 1 ≤ year ∧ year ≤ 9999
  monthBound : 1 ≤ month ∧ month ≤ 12

instance instDecidableEqMonth : DecidableEq Month := fun a b =>
  decidable_of_iff (a.year = b.year ∧ a.month = b.month) (by cases a; cases b; simp)

namespace Month

variable {m : Month} {d : Date}

def days (m : Month) : Nat := Py.daysInMonth m.year m.month

def has (m : Month) (d : Date) : Bool := d.year = m.year ∧ d.month = m.month

theorem has_iff : m.has d = true ↔ d.year = m.year ∧ d.month = m.month := decide_eq_true_iff

theorem days_bounds (m : Month) : 28 ≤ m.days ∧ m.days ≤ 31 := by
  unfold days Py.daysInMonth
  split
  · split
    · omega
    · omega
  · split
    · omega
    · omega

def date (m : Month) (i : Fin m.days) : Date :=
  ⟨m.year, m.month, i + 1, m.yearBound, m.monthBound, Nat.succ_pos i, i.isLt⟩

def dates (m : Month) : List Date := (List.finRange m.days).map m.date

def first (m : Month) : Date := m.date ⟨0, by have := m.days_bounds; omega⟩

def last (m : Month) : Date := m.date ⟨m.days - 1, by have := m.days_bounds; omega⟩

theorem mem_dates : d ∈ m.dates ↔ m.has d = true := by
  rw [dates, List.mem_map, has_iff]
  constructor
  · rintro ⟨i, -, rfl⟩
    exact ⟨rfl, rfl⟩
  · rintro ⟨hyear, hmonth⟩
    obtain ⟨year, month, day, hy, hm, hday⟩ := d
    obtain ⟨year', month', hy', hm'⟩ := m
    obtain rfl : year = year' := hyear
    obtain rfl : month = month' := hmonth
    refine ⟨⟨day - 1, ?_⟩, List.mem_finRange _, ?_⟩
    · change day - 1 < Py.daysInMonth year month
      omega
    · simp only [date, Py.Date.mk.injEq, true_and]
      omega

theorem dates_nodup (m : Month) : m.dates.Nodup := by
  refine List.Nodup.map ?_ (List.nodup_finRange _)
  intro i j h
  have hday : (i : Nat) + 1 = j + 1 := congrArg Py.Date.day h
  exact Fin.ext (by omega)

theorem has_bounds (h : m.has d = true) : m.first ≤ d ∧ d ≤ m.last := by
  obtain ⟨i, -, rfl⟩ := List.mem_map.mp (mem_dates.mpr h)
  have hi := i.isLt
  constructor
  · change m.first.number ≤ (m.date i).number
    simp only [first, date, Py.Date.number]
    omega
  · change (m.date i).number ≤ m.last.number
    simp only [last, date, Py.Date.number]
    omega

end Month

/-! ### What a month is charged -/

/-- The sum of `misc_expenses_prorated_mu` over the computed rows of the month. -/
def charged (rows : List BaseRow) (m : Month) : Int :=
  (((rows.map computedRow).filter fun r => m.has r.date).map fun r =>
    (r.miscExpensesProratedMu.map Int64.toInt).getD 0).sum

/-- The month's overhead in force. -/
def inForce (expenses : List MiscExpense) (workspaceId : String) (m : Month) : Int :=
  startedBy expenses workspaceId m.last

/-- The expenses that the lookup sees. -/
def RecomputeCall.visibleExpenses (call : RecomputeCall) : List MiscExpense :=
  if call.pgDsn.getD "" = "" then [] else call.expenses.toOption.getD []

/-- What has started by the end of the window, in 64 bits. -/
def RecomputeCall.monthlyTotal (call : RecomputeCall) (window : Window) : Int :=
  (startedBy call.visibleExpenses call.workspaceId window.stop).bmod (2 ^ 64)

def activeDays (facts : Facts) (workspaceId : String) (m : Month) : Nat :=
  (m.dates.filter fun d => facts.Active workspaceId d).length

/-- The days without a row. -/
def idleDays (facts : Facts) (workspaceId : String) (m : Month) : Nat :=
  (m.dates.filter fun d => ¬ facts.Active workspaceId d).length

theorem activeDays_add_idleDays (facts : Facts) (workspaceId : String) (m : Month) :
    activeDays facts workspaceId m + idleDays facts workspaceId m = m.days := by
  have hperm := List.filter_append_perm (fun d => decide (facts.Active workspaceId d)) m.dates
  have hlength := hperm.length_eq
  rw [List.length_append] at hlength
  have hdates : m.dates.length = m.days := by
    rw [Month.dates, List.length_map, List.length_finRange]
  simpa [activeDays, idleDays, hdates] using hlength

section

variable {call : RecomputeCall} {window : Window} {m : Month} {d : Date}

theorem miscExpenses_params (call : RecomputeCall) (window : Window) :
    (call.params window).miscExpensesMonthlyMu.toInt = call.monthlyTotal window := by
  have hfetch : fetchMiscExpenses call.workspaceId window.stop call.pgDsn call.expenses =
      startedBy call.visibleExpenses call.workspaceId window.stop := by
    unfold fetchMiscExpenses RecomputeCall.visibleExpenses
    split
    · rfl
    · cases call.expenses with
      | ok expenses => rfl
      | error e => rfl
  rw [RecomputeCall.monthlyTotal, ← hfetch, RecomputeCall.params, Int64.toInt_ofInt]
  rfl

theorem toInt_monthDays (h : m.has d = true) : (monthDays d).toInt = m.days := by
  obtain ⟨hyear, hmonth⟩ := Month.has_iff.mp h
  have hdays := m.days_bounds
  rw [monthDays, hyear, hmonth]
  exact Int64.toInt_ofNat_of_lt (by change m.days < 2 ^ 63; omega)

/-- The share of a day. -/
theorem prorated_eq (total : Int64) (h : m.has d = true) :
    ((guardedDiv total (monthDays d)).map Int64.toInt).getD 0 = total.toInt.tdiv m.days := by
  have hdays := m.days_bounds
  have hmonth := toInt_monthDays h
  have hpos : monthDays d > 0 := by
    apply Int64.lt_iff_toInt_lt.mpr
    rw [hmonth, Int64.toInt_zero]
    omega
  have hne : monthDays d ≠ -1 := by
    intro hneg
    rw [hneg] at hmonth
    have hvalue : (-1 : Int64).toInt = -1 := by decide
    omega
  rw [guardedDiv, if_pos hpos, Option.map_some, Option.getD_some,
    Int64.toInt_div_of_ne_right _ _ hne, hmonth]

/-- The days of the month in the spine of a window that covers it. -/
theorem length_spine_month {facts : Facts} {params : RollupParams}
    (hcovered : params.window.start ≤ m.first ∧ m.last ≤ params.window.stop) :
    ((dateSpine facts params).filter m.has).length = activeDays facts params.workspaceId m := by
  have hspine : (dateSpine facts params).Nodup := List.nodup_dedup _
  apply List.Perm.length_eq
  apply (List.perm_ext_iff_of_nodup (hspine.filter _) (m.dates_nodup.filter _)).mpr
  intro d
  rw [List.mem_filter, List.mem_filter, mem_dateSpine_iff_active, Month.mem_dates, and_comm,
    decide_eq_true_iff]
  constructor
  · rintro ⟨hmonth, -, hactive⟩
    exact ⟨hmonth, hactive⟩
  · rintro ⟨hmonth, hactive⟩
    obtain ⟨hfirst, hlast⟩ := Month.has_bounds hmonth
    exact ⟨hmonth, Window.has_iff.mpr ⟨hcovered.1.trans hfirst, hlast.trans hcovered.2⟩, hactive⟩

/-- Each day with a row is charged its share. -/
theorem charged_rollup {facts : Facts} {params : RollupParams}
    (hcovered : params.window.start ≤ m.first ∧ m.last ≤ params.window.stop) :
    charged (rollup facts params) m = activeDays facts params.workspaceId m *
      params.miscExpensesMonthlyMu.toInt.tdiv m.days := by
  have hshare : ∀ row ∈ (rollup facts params).filter (fun row => m.has row.date),
      ((computedRow row).miscExpensesProratedMu.map Int64.toInt).getD 0 =
        params.miscExpensesMonthlyMu.toInt.tdiv m.days := by
    intro row hrow
    obtain ⟨hmem, hmonth⟩ := List.mem_filter.mp hrow
    rw [rollup_eq] at hmem
    obtain ⟨d, -, rfl⟩ := List.mem_map.mp hmem
    exact prorated_eq params.miscExpensesMonthlyMu hmonth
  have hlength : ((rollup facts params).filter fun row => m.has row.date).length =
      activeDays facts params.workspaceId m := by
    rw [← length_spine_month hcovered, ← dates_rollup, List.filter_map, List.length_map]
    rfl
  have hconst := List.map_congr_left hshare
  rw [List.map_const', hlength] at hconst
  rw [charged, List.filter_map, List.map_map]
  refine (congrArg List.sum hconst).trans ?_
  rw [List.sum_replicate, nsmul_eq_mul]

end

/-- What is charged beyond the overhead in force, for all that is charged and could not be: what
starts after the month is charged too, the division leaves a remainder, and idle days have no row. -/
theorem charged_sub_inForce (call : RecomputeCall) (w : Warehouse) (window : Window)
    (hscope : call.scope w = some window) (m : Month)
    (hcovered : window.start ≤ m.first ∧ m.last ≤ window.stop) (expenses : List MiscExpense) :
    charged (recomputeDailyMetrics call w).inserted m - inForce expenses call.workspaceId m =
      (call.monthlyTotal window - inForce expenses call.workspaceId m) -
        (call.monthlyTotal window).tmod m.days -
        idleDays w.facts call.workspaceId m * (call.monthlyTotal window).tdiv m.days := by
  have hcharged : charged (rollup w.facts (call.params window)) m =
      activeDays w.facts call.workspaceId m * (call.monthlyTotal window).tdiv m.days := by
    rw [← miscExpenses_params]
    exact charged_rollup hcovered
  have hdays : (activeDays w.facts call.workspaceId m : Int) +
      idleDays w.facts call.workspaceId m = m.days := by
    exact_mod_cast activeDays_add_idleDays w.facts call.workspaceId m
  have hdivision := Int.mul_tdiv_add_tmod (call.monthlyTotal window) m.days
  rw [(recompute_of_scope hscope).2, hcharged]
  generalize (call.monthlyTotal window).tdiv m.days = share at *
  generalize (call.monthlyTotal window).tmod m.days = remainder at *
  rw [← hdays, add_mul] at hdivision
  linarith

/-- The overhead of a month that a recompute covers is charged up to the rounding of its days if and
only if these three come to less than a unit a day. -/
theorem overheads_once_iff (call : RecomputeCall) (w : Warehouse) (window : Window)
    (hscope : call.scope w = some window) (m : Month)
    (hcovered : window.start ≤ m.first ∧ m.last ≤ window.stop) (expenses : List MiscExpense) :
    |charged (recomputeDailyMetrics call w).inserted m -
        inForce expenses call.workspaceId m| < m.days ↔
      |(call.monthlyTotal window - inForce expenses call.workspaceId m) -
        (call.monthlyTotal window).tmod m.days -
        idleDays w.facts call.workspaceId m * (call.monthlyTotal window).tdiv m.days| < m.days := by
  rw [charged_sub_inForce call w window hscope m hcovered expenses]

/-- When nothing starts after the month and before the window's end, the idle days and the remainder
are what is lost. -/
theorem lost_of_started (call : RecomputeCall) (w : Warehouse) (window : Window)
    (hscope : call.scope w = some window) (m : Month)
    (hcovered : window.start ≤ m.first ∧ m.last ≤ window.stop) (expenses : List MiscExpense)
    (hstarted : call.monthlyTotal window = inForce expenses call.workspaceId m) :
    inForce expenses call.workspaceId m - charged (recomputeDailyMetrics call w).inserted m =
      idleDays w.facts call.workspaceId m * (inForce expenses call.workspaceId m).tdiv m.days +
        (inForce expenses call.workspaceId m).tmod m.days := by
  have hdifference := charged_sub_inForce call w window hscope m hcovered expenses
  rw [hstarted] at hdifference
  linarith

def june : Month := ⟨2026, 6, Py.bounds_2026, Py.bounds_june⟩

/-- The recompute of a June, with an overhead that starts on its first day. -/
def overheadCall (amountMu : Int) : RecomputeCall :=
  { juneCall with pgDsn := some "postgresql://db", expenses := .ok [⟨"w", amountMu, juneDay 1⟩] }

/-- Twenty a month are nothing a day. -/
theorem small_overhead_charged :
    |charged (recomputeDailyMetrics (overheadCall 20) ⟨spendOnSecond, [], [], []⟩).inserted june -
      inForce [⟨"w", 20, juneDay 1⟩] "w" june| < 30 :=
  (overheads_once_iff (overheadCall 20) ⟨spendOnSecond, [], [], []⟩ ⟨juneDay 1, juneDay 30⟩
    (by decide) june (by decide) [⟨"w", 20, juneDay 1⟩]).mpr (by decide)

/-- Of three thousand, a June with one day of spend is charged a hundred. -/
theorem idle_days_not_charged :
    ¬ |charged (recomputeDailyMetrics (overheadCall 3000) ⟨spendOnSecond, [], [], []⟩).inserted june -
      inForce [⟨"w", 3000, juneDay 1⟩] "w" june| < 30 := by
  decide

end BrainV2.Metrics
