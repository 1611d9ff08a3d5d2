import Mathlib

/-!
# The statistics of the P&L page

* `DailyRow`, `PnlSummary`: the values of a day and of a period;
* `anomaliesOf`, `spikesOf`, `dropsOf`: the unusual days and the jumps of one metric;
* `computePnlSignals`: these for every metric, and the trends between two periods;
* `Quiet`: a metric in which no day is unusual and none jumps.
-/

namespace BrainV2.Insight

/-- One day's values, in paise; the RTO rate in basis points. -/
structure DailyRow where
  date : String
  netSalesMu : Int
  cogsMu : Int
  cm1Mu : Int
  cm2Mu : Int
  cm3Mu : Int
  totalAdSpendMu : Int
  rtoRateBp : Option Int
deriving DecidableEq

structure PnlSummary where
  netSalesMu : Int
  cm1Mu : Int
  cm2Mu : Int
  cm3Mu : Int
  totalAdSpendMu : Int
  totalOrders : Int
  aovMu : Option Int
  blendedRoasX100 : Option Int

structure SignalAnomaly where
  metric : String
  date : String
  valueMu : Int
  expectedAvgMu : Int
  deviationZX100 : Int
  direction : String
  description : String
deriving DecidableEq

/-- A spike or a drop. -/
structure SignalChange where
  metric : String
  date : String
  valueMu : Int
  priorValueMu : Int
  pctChangeX10 : Int
  description : String
deriving DecidableEq

structure SignalTrend where
  metric : String
  direction : String
  pctChangeX10 : Int
  currentValueMu : Int
  priorValueMu : Int
  description : String
deriving DecidableEq

structure PnlSignals where
  anomalies : List SignalAnomaly
  spikes : List SignalChange
  drops : List SignalChange
  trends : List SignalTrend

/-! ### Floats -/

/-- The operations on floats that the statistics use. Which double each one gives is left
open: the last digit of `**` is up to the platform. -/
structure FloatOps (F : Type) where
  /-- `a / b` of integers. -/
  div : Int → Int → F
  /-- `n - x`. -/
  subFrom : Int → F → F
  /-- `x ** 2`. -/
  square : F → F
  /-- `sum` of floats. -/
  sum : List F → F
  /-- `x / n`. -/
  divInt : F → Int → F
  /-- `x ** 0.5`. -/
  sqrt : F → F
  /-- `x * n`. -/
  mulInt : F → Int → F
  abs : F → F
  round : F → Int
  /-- `f"{x:.nf}"`. -/
  fixed : Nat → F → String
  /-- `f"{x:+.nf}"`. -/
  signed : Nat → F → String

section

variable {F : Type} (ops : FloatOps F)

def spikeDropPctThreshold : Int := 25
def minDaysForAnomaly : Nat := 5
/-- `round(ANOMALY_Z_THRESHOLD * 100)`. -/
def anomalyZX100 : Int := 200
/-- `round(TREND_PCT_THRESHOLD * 10)`. -/
def trendThresholdX10 : Int := 50

def intMean (values : List Int) : Int :=
  if values = [] then 0 else values.sum.fdiv values.length

/-- The sample standard deviation, times a hundred. -/
def intStdX100 (values : List Int) : Int :=
  let n := values.length
  if n < 2 then 0
  else
    let mean := ops.div values.sum n
    let variance := ops.divInt (ops.sum (values.map fun v => ops.square (ops.subFrom v mean)))
      (n - 1)
    ops.round (ops.mulInt (ops.sqrt variance) 100)

def pctX10 (curr prev : Int) : Int :=
  if prev = 0 then 0 else ops.round (ops.mulInt (ops.div (curr - prev) prev.natAbs) 1000)

/-! ### One metric -/

/-- How far a value is from the mean, in hundredths of the deviation. -/
def zX100 (avg stdX100 v : Int) : Int :=
  ((v - avg) * 100 * 100).fdiv (if stdX100 ≠ 0 then stdX100 else 1)

def anomaly (label : String) (avg stdX100 : Int) (day : String × Int) : Option SignalAnomaly :=
  let (date, v) := day
  let z := zX100 avg stdX100 v
  if anomalyZX100 ≤ z.natAbs then
    let direction := if 0 < z then "high" else "low"
    some ⟨label, date, v, avg, z, direction,
      s!"{label} {direction} on {date}: {v} (avg {avg}, z={ops.fixed 2 (ops.div z 100)})"⟩
  else none

/-- The anomalies of the dated values of a metric. -/
def anomaliesOf (label : String) (days : List (String × Int)) : List SignalAnomaly :=
  if days.length < minDaysForAnomaly then []
  else
    let values := days.map Prod.snd
    let avg := intMean values
    let stdX100 := intStdX100 ops values
    if stdX100 = 0 then [] else days.filterMap (anomaly ops label avg stdX100)

def detectAnomalies (daily : List DailyRow) (label : String) (get : DailyRow → Int) :
    List SignalAnomaly :=
  anomaliesOf ops label (daily.map fun d => (d.date, get d))

def thresholdX10 : Int := spikeDropPctThreshold * 10

def spike (label : String) (prev day : String × Int) : Option SignalChange :=
  let pct := pctX10 ops day.2 prev.2
  if prev.2 = 0 then none
  else if thresholdX10 ≤ pct then
    some ⟨label, day.1, day.2, prev.2, pct,
      s!"{label} spiked {ops.fixed 1 (ops.div pct 10)}% on {day.1} ({day.2} vs {prev.2})"⟩
  else none

def drop (label : String) (prev day : String × Int) : Option SignalChange :=
  let pct := pctX10 ops day.2 prev.2
  if prev.2 = 0 then none
  else if thresholdX10 ≤ pct then none
  else if pct ≤ -thresholdX10 then
    some ⟨label, day.1, day.2, prev.2, pct,
      s!"{label} dropped {ops.fixed 1 (ops.abs (ops.div pct 10))}% on {day.1} " ++
        s!"({day.2} vs {prev.2})"⟩
  else none

/-- The days with the day before each. -/
def dayPairs (days : List (String × Int)) : List ((String × Int) × (String × Int)) :=
  days.zip (days.drop 1)

def spikesOf (label : String) (days : List (String × Int)) : List SignalChange :=
  (dayPairs days).filterMap fun p => spike ops label p.1 p.2

def dropsOf (label : String) (days : List (String × Int)) : List SignalChange :=
  (dayPairs days).filterMap fun p => drop ops label p.1 p.2

def detectSpikesDrops (daily : List DailyRow) (label : String) (get : DailyRow → Int) :
    List SignalChange × List SignalChange :=
  let days := daily.map fun d => (d.date, get d)
  (spikesOf ops label days, dropsOf ops label days)

/-! ### Trends -/

def directionOf (pct : Int) : String :=
  if trendThresholdX10 < pct then "up" else if pct < -trendThresholdX10 then "down" else "flat"

def trend (label : String) (curr prev : Int) : Option SignalTrend :=
  if prev = 0 then none
  else
    let pct := pctX10 ops curr prev
    some ⟨label, directionOf pct, pct, curr, prev,
      s!"{label} {directionOf pct} {ops.signed 1 (ops.div pct 10)}% vs prior period"⟩

def detectTrends (current prior : PnlSummary) : List SignalTrend :=
  let pairs := [("Net sales", current.netSalesMu, prior.netSalesMu),
    ("CM1", current.cm1Mu, prior.cm1Mu), ("CM2", current.cm2Mu, prior.cm2Mu),
    ("CM3", current.cm3Mu, prior.cm3Mu),
    ("Ad spend", current.totalAdSpendMu, prior.totalAdSpendMu)]
  let aov := match current.aovMu, prior.aovMu with
    | some curr, some prev => [("AOV", curr, prev)]
    | _, _ => []
  let roas := match current.blendedRoasX100, prior.blendedRoasX100 with
    | some curr, some prev => [("Blended ROAS", curr, prev)]
    | _, _ => []
  (pairs ++ aov ++ roas).filterMap fun p => trend ops p.1 p.2.1 p.2.2

/-! ### All metrics -/

def metricExtractors (daily : List DailyRow) : List (String × (DailyRow → Int)) :=
  [("Net sales", DailyRow.netSalesMu), ("CM1", DailyRow.cm1Mu), ("CM2", DailyRow.cm2Mu),
    ("CM3", DailyRow.cm3Mu), ("Ad spend", DailyRow.totalAdSpendMu)] ++
  if daily.any fun d => d.rtoRateBp.isSome then [("RTO %", fun d => d.rtoRateBp.getD 0)] else []

def computePnlSignals (daily : List DailyRow) (currentSummary priorSummary : PnlSummary) :
    PnlSignals where
  anomalies := (metricExtractors daily).flatMap fun m => detectAnomalies ops daily m.1 m.2
  spikes := (metricExtractors daily).flatMap fun m => (detectSpikesDrops ops daily m.1 m.2).1
  drops := (metricExtractors daily).flatMap fun m => (detectSpikesDrops ops daily m.1 m.2).2
  trends := detectTrends ops currentSummary priorSummary

/-! ### Quiet metrics -/

/-- No value is two deviations from the mean, among five or more. -/
def NoAnomaly (values : List Int) : Prop :=
  values.length < minDaysForAnomaly ∨ intStdX100 ops values = 0 ∨
    ∀ v ∈ values, (zX100 (intMean values) (intStdX100 ops values) v).natAbs < anomalyZX100

/-- No value is a quarter more or less than the one before it, unless that is zero. -/
def NoJump (values : List Int) : Prop :=
  ∀ p ∈ values.zip (values.drop 1), p.1 = 0 ∨ (pctX10 ops p.2 p.1).natAbs < thresholdX10

def Quiet (values : List Int) : Prop := NoAnomaly ops values ∧ NoJump ops values

variable {ops} {label : String}

theorem anomaly_eq_none_iff {avg stdX100 : Int} {day : String × Int} :
    anomaly ops label avg stdX100 day = none ↔
      (zX100 avg stdX100 day.2).natAbs < anomalyZX100 := by
  by_cases h : anomalyZX100 ≤ (zX100 avg stdX100 day.2).natAbs
  · simp only [anomaly, if_pos h]
    exact iff_of_false (by simp) (by omega)
  · simp only [anomaly, if_neg h]
    exact iff_of_true trivial (by omega)

theorem anomaliesOf_eq_nil_iff {days : List (String × Int)} :
    anomaliesOf ops label days = [] ↔ NoAnomaly ops (days.map Prod.snd) := by
  unfold anomaliesOf NoAnomaly
  rw [List.length_map]
  by_cases hfew : days.length < minDaysForAnomaly
  · simp [hfew]
  by_cases hstd : intStdX100 ops (days.map Prod.snd) = 0
  · simp [hstd]
  · rw [if_neg hfew, if_neg hstd, List.filterMap_eq_nil_iff]
    simp only [hfew, hstd, false_or, anomaly_eq_none_iff, List.forall_mem_map]

theorem spike_drop_eq_none_iff {prev day : String × Int} :
    (spike ops label prev day = none ∧ drop ops label prev day = none) ↔
      prev.2 = 0 ∨ (pctX10 ops day.2 prev.2).natAbs < thresholdX10 := by
  unfold spike drop
  have hpos : 0 < thresholdX10 := by decide
  by_cases hzero : prev.2 = 0
  · simp [hzero]
  by_cases hup : thresholdX10 ≤ pctX10 ops day.2 prev.2
  · simp only [hzero, if_false, if_pos hup, false_or]
    exact iff_of_false (by simp) (by omega)
  by_cases hdown : pctX10 ops day.2 prev.2 ≤ -thresholdX10
  · simp only [hzero, if_false, if_neg hup, if_pos hdown, false_or]
    exact iff_of_false (by simp) (by omega)
  · simp only [hzero, if_false, if_neg hup, if_neg hdown, false_or, and_self, true_iff]
    omega

theorem changes_eq_nil_iff {days : List (String × Int)} :
    (spikesOf ops label days = [] ∧ dropsOf ops label days = []) ↔
      NoJump ops (days.map Prod.snd) := by
  have hpairs : (days.map Prod.snd).zip ((days.map Prod.snd).drop 1) =
      (dayPairs days).map fun p => (p.1.2, p.2.2) := by
    rw [dayPairs, ← List.map_drop, List.zip_map]
    rfl
  unfold NoJump spikesOf dropsOf
  rw [hpairs, List.forall_mem_map, List.filterMap_eq_nil_iff, List.filterMap_eq_nil_iff]
  constructor
  · rintro ⟨hspikes, hdrops⟩ p hp
    exact spike_drop_eq_none_iff.mp ⟨hspikes p hp, hdrops p hp⟩
  · intro h
    exact ⟨fun p hp => (spike_drop_eq_none_iff.mpr (h p hp)).1,
      fun p hp => (spike_drop_eq_none_iff.mpr (h p hp)).2⟩

theorem sum_replicate_zero (n : Nat) : (List.replicate n (0 : Int)).sum = 0 := by
  induction n with
  | zero => rfl
  | succ n ih => rw [List.replicate_succ, List.sum_cons, ih, Int.add_zero]

/-- A metric that is zero every day is quiet, whatever the floats. -/
theorem quiet_zeros (n : Nat) : Quiet ops (List.replicate n 0) := by
  constructor
  · right; right
    intro v hv
    have hmean : intMean (List.replicate n 0) = 0 := by
      unfold intMean
      split
      · rfl
      · rw [sum_replicate_zero, Int.zero_fdiv]
    rw [List.eq_of_mem_replicate hv, hmean, zX100, Int.sub_zero, Int.zero_mul, Int.zero_mul,
      Int.zero_fdiv]
    decide
  · intro p hp
    left
    exact List.eq_of_mem_replicate (List.of_mem_zip hp).1

end

end BrainV2.Insight
