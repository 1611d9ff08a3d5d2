import BrainV2.Py.Datetime

/-!
# Timestamps of the two databases

Times are in UTC.

* `Timestamp`: a date and a time of day in microseconds, in the order of time;
* `dateTrunc`: PostgreSQL's truncation of a date to a `Grain`;
* `toMonday`: ClickHouse's, of which the weeks begin no earlier than its dates do;
* `ageMonths`, `dateDiffMonth`: months between two times, as each database counts them;
* `FactDateRange`: an inclusive range of dates, and the timestamps in it.
-/

namespace BrainV2.Sql

open Py (Date)

structure Timestamp where
  date : Date
  micros : Nat
  bound : micros < 86400000000
deriving DecidableEq

namespace Timestamp

/-- Microseconds, of which only differences count. -/
def instant (t : Timestamp) : Int := 86400000000 * t.date.toOrdinal + t.micros

theorem instant_injective : Function.Injective instant := by
  intro t u h
  have ht := t.bound
  have hu := u.bound
  simp only [instant] at h
  have hdate : t.date = u.date := Date.toOrdinal_strictMono.injective (by omega)
  have hmicros : t.micros = u.micros := by omega
  obtain ⟨date, micros, _⟩ := t
  obtain ⟨date', micros', _⟩ := u
  simp only at hdate hmicros
  rw [Timestamp.mk.injEq]
  exact ⟨hdate, hmicros⟩

instance : LE Timestamp := ⟨fun t u => t.instant ≤ u.instant⟩

instance : LT Timestamp := ⟨fun t u => t.instant < u.instant⟩

instance : LinearOrder Timestamp where
  le_refl t := Int.le_refl t.instant
  le_trans _ _ _ htu huv := Int.le_trans htu huv
  lt_iff_le_not_ge _ _ := Int.lt_iff_le_and_not_ge
  le_antisymm _ _ htu hut := instant_injective (Int.le_antisymm htu hut)
  le_total t u := Int.le_total t.instant u.instant
  toDecidableLE t u := inferInstanceAs (Decidable (t.instant ≤ u.instant))
  toDecidableLT t u := inferInstanceAs (Decidable (t.instant < u.instant))
  toDecidableEq := inferInstance

variable {t u : Timestamp}

theorem date_le (h : t ≤ u) : t.date ≤ u.date := by
  change t.instant ≤ u.instant at h
  have ht := t.bound
  have hu := u.bound
  simp only [instant] at h
  apply Date.toOrdinal_strictMono.le_iff_le.mp
  omega

/-- The whole seconds of a timestamp. -/
def seconds (t : Timestamp) : Int := t.instant / 1000000

end Timestamp

def midnight (d : Date) : Timestamp := ⟨d, 0, by decide⟩

/-- `interval '1 day'` is a day of 24 hours. -/
def days (n : Nat) : Int := 86400000000 * n

/-- A day of June 2026. -/
def juneDay (day : Nat)
    (h : decide (1 ≤ day ∧ day ≤ 30) = true := by exact Eq.refl true) : Date := .june day h

/-! ### Truncation -/

inductive Grain where
  | day
  | week
  | month
  | quarter
deriving DecidableEq

/-- The first of January of year 1 is a Monday. -/
def monday (d : Date) : Date := Date.pred^[(d.toOrdinal - 1) % 7] d

def firstOfMonth (year month : Nat) (hyear : 1 ≤ year ∧ year ≤ 9999)
    (hmonth : 1 ≤ month ∧ month ≤ 12) : Date :=
  ⟨year, month, 1, hyear, hmonth, Nat.le_refl 1, Py.one_le_daysInMonth _ _⟩

def startOfMonth (d : Date) : Date := firstOfMonth d.year d.month d.yearBound d.monthBound

def startOfQuarter (d : Date) : Date :=
  firstOfMonth d.year ((d.month - 1) / 3 * 3 + 1) d.yearBound (by have := d.monthBound; omega)

/-- `date_trunc` -/
def dateTrunc : Grain → Date → Date
  | .day, d => d
  | .week, d => monday d
  | .month, d => startOfMonth d
  | .quarter, d => startOfQuarter d

example : dateTrunc .week (juneDay 10) = juneDay 8 := by decide

/-- The first date of ClickHouse. -/
def epochDate : Date := .of 1970 1 1

/-- The last of its dates. -/
def lastDate : Date := .of 2149 6 6

/-- `toMonday`: the days before the first Monday of 1970 go to its first day. -/
def toMonday (d : Date) : Date := max (monday d) epochDate

theorem toOrdinal_pred_iterate {d : Date} {n : Nat} (h : n < d.toOrdinal) :
    (Date.pred^[n] d).toOrdinal + n = d.toOrdinal := by
  induction n generalizing d with
  | zero => rfl
  | succ n ih =>
    have hpred := Date.toOrdinal_pred (by omega : 1 < d.toOrdinal)
    have hrest := ih (by omega : n < d.pred.toOrdinal)
    rw [Function.iterate_succ_apply]
    omega

theorem one_le_toOrdinal (d : Date) : 1 ≤ d.toOrdinal := by
  have := d.dayBound.1
  simp only [Date.toOrdinal, Py.ordinalOf]
  omega

/-- A Monday is no more than six days back, and whole weeks from the first. -/
theorem toOrdinal_monday (d : Date) : ((monday d).toOrdinal - 1) % 7 = 0 ∧
    (monday d).toOrdinal ≤ d.toOrdinal ∧ d.toOrdinal ≤ (monday d).toOrdinal + 6 := by
  have hone := one_le_toOrdinal d
  have hback := toOrdinal_pred_iterate (by omega : (d.toOrdinal - 1) % 7 < d.toOrdinal)
  rw [← monday] at hback
  omega

theorem toOrdinal_epochDate : epochDate.toOrdinal = 719163 := by decide

/-- One Monday at most is before the first date, and this is none. -/
theorem toMonday_lt {d e : Date} (hd : epochDate ≤ d) (he : epochDate ≤ e)
    (h : monday d < monday e) : toMonday d < toMonday e := by
  have hepoch := toOrdinal_epochDate
  have hdays := toOrdinal_monday d
  have hedays := toOrdinal_monday e
  have hone := one_le_toOrdinal (monday d)
  have heone := one_le_toOrdinal (monday e)
  have hlt := Date.toOrdinal_lt h
  have hdfrom := Date.toOrdinal_strictMono.le_iff_le.mpr hd
  have hefrom := Date.toOrdinal_strictMono.le_iff_le.mpr he
  have hlater : epochDate < monday e := by
    apply Date.toOrdinal_strictMono.lt_iff_lt.mp
    omega
  exact lt_of_lt_of_le (max_lt h hlater) (le_max_left _ _)

/-! ### Months between -/

/-- Months from the start of the calendar. -/
def monthIndex (d : Date) : Int := 12 * d.year + d.month

/-- The whole months from the second timestamp to the first, which is no earlier. -/
def wholeMonths (t u : Timestamp) : Int :=
  let months := monthIndex t.date - monthIndex u.date
  -- a month is borrowed when the day and time of day are not reached again
  if 86400000000 * t.date.day + t.micros < 86400000000 * u.date.day + u.micros then
    months - 1
  else months

/-- `age(t, u)`, its years and months together. -/
def ageMonths (t u : Timestamp) : Int := if u ≤ t then wholeMonths t u else -wholeMonths u t

/-- `dateDiff('month', d, e)`: the starts of months between. -/
def dateDiffMonth (d e : Date) : Int := monthIndex e - monthIndex d

/-- From the first of a month on, the two agree. -/
theorem ageMonths_startOfMonth {t : Timestamp} {d : Date} (h : d ≤ t.date) :
    ageMonths t (midnight (startOfMonth d)) = dateDiffMonth d t.date := by
  have hday := t.date.dayBound.1
  have hstart : startOfMonth d ≤ d := by
    have := d.dayBound.1
    change (startOfMonth d).number ≤ d.number
    simp only [startOfMonth, firstOfMonth, Date.number]
    omega
  have hle : midnight (startOfMonth d) ≤ t := by
    have hordinal := Date.toOrdinal_strictMono.le_iff_le.mpr (hstart.trans h)
    change (midnight (startOfMonth d)).instant ≤ t.instant
    simp only [Timestamp.instant, midnight]
    omega
  have hreached : ¬ 86400000000 * t.date.day + t.micros <
      86400000000 * (midnight (startOfMonth d)).date.day + (midnight (startOfMonth d)).micros := by
    simp only [midnight, startOfMonth, firstOfMonth]
    omega
  rw [ageMonths, if_pos hle, wholeMonths]
  simp only [if_neg hreached]
  rfl

/-! ### Ranges -/

/-- An inclusive range of dates. -/
structure FactDateRange where
  fromDate : Date
  toDate : Date
deriving DecidableEq

/-- The half-open predicate of `pgDateClause` on a timestamp. -/
def FactDateRange.has (range : FactDateRange) (t : Timestamp) : Bool :=
  (midnight range.fromDate).instant ≤ t.instant ∧
    t.instant < (midnight range.toDate).instant + days 1

def FactDateRange.hasDate (range : FactDateRange) (d : Date) : Bool :=
  range.fromDate ≤ d ∧ d ≤ range.toDate

theorem FactDateRange.hasDate_iff {range : FactDateRange} {d : Date} :
    range.hasDate d = true ↔ range.fromDate ≤ d ∧ d ≤ range.toDate := decide_eq_true_iff

/-- A timestamp is in the range when its date is. -/
theorem FactDateRange.has_eq (range : FactDateRange) (t : Timestamp) :
    range.has t = range.hasDate t.date := by
  have ht := t.bound
  have hfrom := Date.toOrdinal_strictMono.le_iff_le (a := range.fromDate) (b := t.date)
  have hto := Date.toOrdinal_strictMono.le_iff_le (a := t.date) (b := range.toDate)
  rw [Bool.eq_iff_iff, hasDate_iff, ← hfrom, ← hto, has, decide_eq_true_iff]
  simp only [Timestamp.instant, midnight, days]
  omega

end BrainV2.Sql
