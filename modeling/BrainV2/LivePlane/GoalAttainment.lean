import BrainV2.Analytics.Headline
import BrainV2.LivePlane.Numbers

/-!
# Goals

* `computeGoalRag`, `goalHigherBetter`: the registry;
* `getGoalAttainment`: the live plane, of what `readPnl` returns;
* `GoalAttainmentQuery.evaluate`: a row of Python;
* `GoalMetric`: the metrics that `upsertGoal` accepts, and their values;
* `GoalAgrees`, `Attained`: a row that agrees, and the goals that have one;
* `goalAgrees_iff`.
-/

namespace BrainV2.LivePlane

open Analytics (FactPnl lower)
open Binary64 (Double ofInt)
open Js (bigIntOfNumber)
open Metrics.Registry (Division ratioBp)
open Py (Date)
open Quotients (Uneven)

/-! ### The registry -/

inductive GoalRag where
  | green
  | amber
  | red
deriving DecidableEq

inductive GoalValueType where
  | minimum
  | maximum
  | target
deriving DecidableEq

inductive GoalPeriodType where
  | daily
  | weekly
  | monthly
deriving DecidableEq

def computeGoalRag (actual goal : Int) (higherBetter : Bool) : GoalRag :=
  if goal ≤ 0 then
    if higherBetter then if 0 ≤ actual then .green else .red else .green
  else
    let a := actual * 100
    if higherBetter then
      if goal * 95 ≤ a then .green else if goal * 80 ≤ a then .amber else .red
    else if a ≤ goal * 105 then .green
    else if a ≤ goal * 120 then .amber
    else .red

def goalHigherBetter (goalType : GoalValueType) (metricHigherBetter : Bool) : Bool :=
  match goalType with
  | .minimum => true
  | .maximum => false
  | .target => metricHigherBetter

/-! ### The live plane -/

/-- A row of `workspace_metric_goals`. -/
structure GoalRow where
  metricName : String
  periodType : GoalPeriodType
  periodStart : Date
  goalValue : Int
  goalType : GoalValueType
deriving DecidableEq

structure GoalEvaluationRow where
  metricName : String
  periodType : GoalPeriodType
  periodStart : Date
  goalType : GoalValueType
  goalValue : Int
  actual : Int
  attainmentBp : Option Double
  varianceAbs : Int
  higherBetter : Bool
  rag : GoalRag
deriving DecidableEq

/-- The value of a metric; any other name leaves the zero that the loop begins with. -/
def liveActual (f : FactPnl) (metric : String) : Int :=
  let net := f.netRevenueMu
  let spend := f.totalAdSpendMu
  if metric = "mer" ∨ metric = "roas" then if 0 < spend then (net * 10000).tdiv spend else 0
  else if metric = "net_revenue" ∨ metric = "revenue" ∨ metric = "net_sales" then net
  else if metric = "ad_spend" ∨ metric = "spend" then spend
  else if metric = "orders" then f.orderCount
  else 0

/-- The band of an attainment; amber where there is none. -/
def bandOf (attainmentBp : Option Double) (higherBetter : Bool) : GoalRag :=
  match attainmentBp with
  | none => .amber
  | some x =>
    let meets := if higherBetter then atLeast x 10000 else atMost x 10000
    let close := if higherBetter then atLeast x 8000 else atMost x 12000
    if meets then .green else if close then .amber else .red

def evaluateGoal (f : FactPnl) (g : GoalRow) : GoalEvaluationRow :=
  let actual := liveActual f (lower g.metricName)
  let higherBetter := decide (g.goalType ≠ .maximum)
  let attainmentBp :=
    if 0 < g.goalValue then some (ofInt ((actual * 10000).tdiv g.goalValue)) else none
  { metricName := g.metricName
    periodType := g.periodType
    periodStart := g.periodStart
    goalType := g.goalType
    goalValue := g.goalValue
    actual := actual
    attainmentBp := attainmentBp
    varianceAbs :=
      if g.goalValue < actual then actual - g.goalValue else g.goalValue - actual
    higherBetter := higherBetter
    rag := bandOf attainmentBp higherBetter }

def getGoalAttainment (goals : List GoalRow) (f : FactPnl) : List GoalEvaluationRow :=
  goals.map (evaluateGoal f)

/-! ### Python -/

namespace GoalAttainmentQuery

structure GoalEvaluationRow where
  metricName : String
  periodType : GoalPeriodType
  periodStart : Date
  goalType : GoalValueType
  goalValue : Int
  actual : Int
  attainmentBp : Option Int
  varianceAbs : Int
  higherBetter : Bool
  rag : GoalRag
deriving DecidableEq

/-- `GOAL_METRIC_HIGHER_BETTER` -/
def goalMetricHigherBetter : List (String × Bool) :=
  [("revenue", true), ("cm3", true), ("cm3_pct", true), ("mer", true), ("amer", true),
    ("cac", false), ("aov", true), ("new_customers", true), ("acos", false), ("meta_roas", true),
    ("google_roas", true)]

/-- The row of a goal with its measured value. -/
def evaluate (g : GoalRow) (actual : Int) : GoalEvaluationRow :=
  let higherBetter := goalHigherBetter g.goalType
    ((goalMetricHigherBetter.lookup g.metricName).getD true)
  { metricName := g.metricName
    periodType := g.periodType
    periodStart := g.periodStart
    goalType := g.goalType
    goalValue := g.goalValue
    actual := actual
    attainmentBp :=
      if g.goalValue ≠ 0 then (Division.goalAttainmentBp actual g.goalValue).formulaPy else none
    varianceAbs := actual - g.goalValue
    higherBetter := higherBetter
    rag := computeGoalRag actual g.goalValue higherBetter }

end GoalAttainmentQuery

/-! ### The accepted metrics -/

inductive GoalMetric where
  | revenue
  | cm3
  | cm3Pct
  | mer
  | amer
  | cac
  | aov
  | newCustomers
  | acos
  | metaRoas
  | googleRoas
deriving DecidableEq

namespace GoalMetric

def name : GoalMetric → String
  | revenue => "revenue"
  | cm3 => "cm3"
  | cm3Pct => "cm3_pct"
  | mer => "mer"
  | amer => "amer"
  | cac => "cac"
  | aov => "aov"
  | newCustomers => "new_customers"
  | acos => "acos"
  | metaRoas => "meta_roas"
  | googleRoas => "google_roas"

/-- The direction of a metric. -/
def higherBetter (m : GoalMetric) : Bool := m ≠ cac ∧ m ≠ acos

end GoalMetric

/-- A goal that `upsertGoal` stores, of any value. -/
structure StoredGoal where
  metric : GoalMetric
  periodType : GoalPeriodType
  periodStart : Date
  goalValue : Int
  goalType : GoalValueType

def StoredGoal.row (g : StoredGoal) : GoalRow where
  metricName := g.metric.name
  periodType := g.periodType
  periodStart := g.periodStart
  goalValue := g.goalValue
  goalType := g.goalType

/-- What the metrics of a window are made of. -/
structure WindowFacts where
  pnl : FactPnl
  cm3Mu : Int
  newCustomersCount : Nat
  newCustomerRevenueMu : Int
  metaValueMu : Int
  googleValueMu : Int

/-- The value of a metric by its formula in the registry; none where a denominator is not
positive. -/
def GoalMetric.value (w : WindowFacts) : GoalMetric → Option Int
  | revenue => some w.pnl.netRevenueMu
  | cm3 => some w.cm3Mu
  | cm3Pct => ratioBp w.cm3Mu w.pnl.netRevenueMu
  | mer => (Division.merBp w.pnl.netRevenueMu w.pnl.totalAdSpendMu).formulaPy
  | amer => (Division.amerBp w.newCustomerRevenueMu w.pnl.totalAdSpendMu).formulaPy
  | cac => (Division.cacMu w.pnl.totalAdSpendMu w.newCustomersCount).formulaPy
  | aov => (Division.aovMu w.pnl.netRevenueMu w.pnl.orderCount).formulaPy
  | newCustomers => some w.newCustomersCount
  | acos => (Division.acosBp w.pnl.totalAdSpendMu w.pnl.netRevenueMu).formulaPy
  | metaRoas => ratioBp w.metaValueMu w.pnl.metaSpendMu
  | googleRoas => ratioBp w.googleValueMu w.pnl.googleSpendMu

/-- The row has the band of the registry, the figures of Python and the value of its metric. -/
structure GoalAgrees (w : WindowFacts) (g : StoredGoal) (row : GoalEvaluationRow)
    (py : GoalAttainmentQuery.GoalEvaluationRow) : Prop where
  rag : row.rag = computeGoalRag row.actual g.goalValue
    (goalHigherBetter g.goalType g.metric.higherBetter)
  attainment : Reads row.attainmentBp py.attainmentBp
  variance : row.varianceAbs = py.varianceAbs
  actual : g.metric.value w = some row.actual

/-! ### The goals that have such a row -/

/-- The value of revenue, and of MER when there is spend; the live plane has no other. -/
def attainedValue (f : FactPnl) : GoalMetric → Option Int
  | .revenue => some f.netRevenueMu
  | .mer => if 0 < f.totalAdSpendMu then some (f.netRevenueMu * 10000 / f.totalAdSpendMu) else none
  | _ => none

/-- A positive goal that is attained, by an attainment that a number holds. A maximum may be
passed by as little as the two bands do not tell apart. -/
structure Attained (f : FactPnl) (g : StoredGoal) (actual : Int) : Prop where
  value : attainedValue f g.metric = some actual
  pos : 0 < g.goalValue
  reached : g.goalValue ≤ actual
  held : bigIntOfNumber (ofInt (actual * 10000 / g.goalValue)) = some (actual * 10000 / g.goalValue)
  maximum : g.goalType = .maximum → actual * 10000 < g.goalValue * 10001 ∨
    g.goalValue * 105 < actual * 100 ∧
      (actual * 100 ≤ g.goalValue * 120 ∨ g.goalValue * 12001 ≤ actual * 10000)

/-! ### Values -/

theorem liveActual_revenue (f : FactPnl) :
    liveActual f (lower GoalMetric.revenue.name) = f.netRevenueMu := by
  have hname : lower GoalMetric.revenue.name = "revenue" := by decide
  simp [liveActual, hname]

theorem liveActual_mer (f : FactPnl) : liveActual f (lower GoalMetric.mer.name) =
    if 0 < f.totalAdSpendMu then (f.netRevenueMu * 10000).tdiv f.totalAdSpendMu else 0 := by
  have hname : lower GoalMetric.mer.name = "mer" := by decide
  simp [liveActual, hname]

/-- No branch of the loop knows another metric. -/
theorem liveActual_other (f : FactPnl) {m : GoalMetric} (hrevenue : m ≠ .revenue) (hmer : m ≠ .mer) :
    liveActual f (lower m.name) = 0 := by
  have hname : lower m.name = m.name := by
    cases m <;> decide
  rw [hname]
  cases m with
  | revenue => exact absurd rfl hrevenue
  | mer => exact absurd rfl hmer
  | cm3 | cm3Pct | amer | cac | aov | newCustomers | acos | metaRoas | googleRoas =>
    simp [liveActual, GoalMetric.name]

theorem higherBetter_of_attainedValue {f : FactPnl} {m : GoalMetric} {a : Int}
    (h : attainedValue f m = some a) : m.higherBetter = true := by
  cases m with
  | revenue | mer => rfl
  | cm3 | cm3Pct | amer | cac | aov | newCustomers | acos | metaRoas | googleRoas => cases h

theorem liveActual_of_attainedValue {f : FactPnl} {m : GoalMetric} {a : Int}
    (h : attainedValue f m = some a) (ha : 0 < a) : liveActual f (lower m.name) = a := by
  cases m with
  | revenue =>
    rw [liveActual_revenue]
    exact Option.some.inj h
  | mer =>
    rw [liveActual_mer]
    rw [attainedValue] at h
    split at h
    · next hspend =>
      have hquotient := Option.some.inj h
      have hnet : 0 ≤ f.netRevenueMu * 10000 := by
        by_contra hneg
        have := Int.ediv_neg_of_neg_of_pos (Int.not_le.mp hneg) hspend
        omega
      rw [if_pos hspend, Int.tdiv_eq_ediv_of_nonneg hnet]
      exact hquotient
    · cases h
  | cm3 | cm3Pct | amer | cac | aov | newCustomers | acos | metaRoas | googleRoas => cases h

theorem value_of_attainedValue {w : WindowFacts} {m : GoalMetric} {a : Int}
    (h : attainedValue w.pnl m = some a) : m.value w = some a := by
  cases m with
  | revenue => exact h
  | mer =>
    rw [attainedValue] at h
    split at h
    · next hspend =>
      rw [GoalMetric.value, Division.formulaPy, ratioBp, Metrics.Registry.intFloorDivOrNull,
        if_neg (by omega), Quotients.fdiv_eq hspend]
      exact h
    · cases h
  | cm3 | cm3Pct | amer | cac | aov | newCustomers | acos | metaRoas | googleRoas => cases h

/-- A positive value of the live plane that is the value of its metric is of revenue or MER. -/
theorem attainedValue_of_value {w : WindowFacts} {m : GoalMetric}
    (h : m.value w = some (liveActual w.pnl (lower m.name)))
    (hpos : 0 < liveActual w.pnl (lower m.name)) :
    attainedValue w.pnl m = some (liveActual w.pnl (lower m.name)) := by
  by_cases hrevenue : m = .revenue
  · rw [hrevenue] at h ⊢
    exact h
  · by_cases hmer : m = .mer
    · rw [hmer] at h ⊢
      rw [GoalMetric.value, Division.formulaPy, ratioBp, Metrics.Registry.intFloorDivOrNull] at h
      split at h
      · cases h
      · next hspend =>
        have hspend := Int.not_le.mp hspend
        rw [Quotients.fdiv_eq hspend] at h
        rw [attainedValue, if_pos hspend]
        exact h
    · rw [liveActual_other w.pnl hrevenue hmer] at hpos
      exact absurd hpos (Int.lt_irrefl 0)

/-! ### Bands -/

theorem bandOf_of_atMost {x : Double} (h : atMost x 10000 = true) :
    bandOf (some x) false = .green := by
  simp [bandOf, h]

/-- The two bands of an attained goal are the same, but for a maximum that is passed. -/
theorem bandOf_eq_iff {a goal : Int} (hpos : 0 < goal) (hreached : goal ≤ a)
    (held : bigIntOfNumber (ofInt (a * 10000 / goal)) = some (a * 10000 / goal))
    (goalType : GoalValueType) :
    bandOf (some (ofInt (a * 10000 / goal))) (decide (goalType ≠ .maximum)) =
        computeGoalRag a goal (goalHigherBetter goalType true) ↔
      (goalType = .maximum → a * 10000 < goal * 10001 ∨
        goal * 105 < a * 100 ∧ (a * 100 ≤ goal * 120 ∨ goal * 12001 ≤ a * 10000)) := by
  have hgreen : 10000 ≤ a * 10000 / goal := by
    apply Int.le_ediv_of_mul_le hpos
    omega
  have hat : ∀ n : Int, a * 10000 / goal ≤ n ↔ a * 10000 < goal * (n + 1) := by
    intro n
    rw [← Int.lt_add_one_iff, Int.ediv_lt_iff_lt_mul hpos, Int.mul_comm (n + 1)]
  have hmeets := (atMost_iff held 10000).trans (hat 10000)
  have hclose := (atMost_iff held 12000).trans (hat 12000)
  have hneg : ¬ goal ≤ 0 := Int.not_le.mpr hpos
  cases goalType with
  | minimum | target =>
    have hband : atLeast (ofInt (a * 10000 / goal)) 10000 = true := (atLeast_iff held _).mpr hgreen
    have hrag : goal * 95 ≤ a * 100 := by omega
    simp [bandOf, computeGoalRag, goalHigherBetter, hband, hneg, hrag]
  | maximum =>
    simp only [bandOf, computeGoalRag, goalHigherBetter, hneg, ne_eq, not_true_eq_false,
      decide_false, Bool.false_eq_true, if_false, hmeets, hclose, true_imp_iff]
    split <;> split <;> try split
    all_goals simp
    all_goals omega

/-! ### Rows -/

section

variable {w : WindowFacts} {g : StoredGoal}

theorem evaluateGoal_rag (f : FactPnl) (g : StoredGoal) : (evaluateGoal f g.row).rag =
    bandOf (evaluateGoal f g.row).attainmentBp (decide (g.goalType ≠ .maximum)) := rfl

theorem distance_eq_iff (a goal : Int) :
    (if goal < a then a - goal else goal - a) = a - goal ↔ goal ≤ a := by
  split <;> omega

theorem varianceAbs_eq_iff (f : FactPnl) (g : StoredGoal) :
    (evaluateGoal f g.row).varianceAbs = (GoalAttainmentQuery.evaluate g.row
      (evaluateGoal f g.row).actual).varianceAbs ↔
        g.goalValue ≤ (evaluateGoal f g.row).actual :=
  distance_eq_iff _ _

theorem attainmentBp_of_pos {f : FactPnl} {g : StoredGoal} (hpos : 0 < g.goalValue)
    (ha : 0 ≤ (evaluateGoal f g.row).actual) : (evaluateGoal f g.row).attainmentBp =
      some (ofInt ((evaluateGoal f g.row).actual * 10000 / g.goalValue)) := by
  have hgoal : 0 < g.row.goalValue := hpos
  have hnonneg : 0 ≤ (evaluateGoal f g.row).actual * 10000 := by omega
  rw [← Int.tdiv_eq_ediv_of_nonneg hnonneg]
  exact if_pos hgoal

theorem attainment_iff {f : FactPnl} {g : StoredGoal} (hpos : 0 < g.goalValue)
    (ha : 0 ≤ (evaluateGoal f g.row).actual) :
    Reads (evaluateGoal f g.row).attainmentBp (GoalAttainmentQuery.evaluate g.row
      (evaluateGoal f g.row).actual).attainmentBp ↔
      bigIntOfNumber (ofInt ((evaluateGoal f g.row).actual * 10000 / g.goalValue)) =
        some ((evaluateGoal f g.row).actual * 10000 / g.goalValue) := by
  have hpython : (GoalAttainmentQuery.evaluate g.row
      (evaluateGoal f g.row).actual).attainmentBp =
        some ((evaluateGoal f g.row).actual * 10000 / g.goalValue) := by
    have hne : g.row.goalValue ≠ 0 := hpos.ne'
    rw [← Quotients.fdiv_eq hpos]
    exact (if_pos hne).trans (if_neg (Int.not_le.mpr hpos))
  rw [attainmentBp_of_pos hpos ha, hpython]
  exact Iff.rfl

/-- A goal that is not positive is amber here, and never in the registry. -/
theorem pos_of_rag {f : FactPnl} {g : StoredGoal} {higherBetter : Bool}
    (h : (evaluateGoal f g.row).rag = computeGoalRag (evaluateGoal f g.row).actual g.goalValue
      higherBetter) : 0 < g.goalValue := by
  by_contra hneg
  have hamber : (evaluateGoal f g.row).rag = .amber := by
    have hnone : (evaluateGoal f g.row).attainmentBp = none := if_neg hneg
    exact congrArg (bandOf · _) hnone
  rw [hamber, computeGoalRag, if_pos (Int.not_lt.mp hneg)] at h
  split at h
  · split at h <;> cases h
  · cases h

theorem goalAgrees_iff : GoalAgrees w g (evaluateGoal w.pnl g.row)
      (GoalAttainmentQuery.evaluate g.row (evaluateGoal w.pnl g.row).actual) ↔
    ∃ actual, Attained w.pnl g actual := by
  constructor
  · intro h
    have hpos := pos_of_rag h.rag
    have hreached := (varianceAbs_eq_iff w.pnl g).mp h.variance
    have ha : 0 < (evaluateGoal w.pnl g.row).actual := Int.lt_of_lt_of_le hpos hreached
    have hvalue := attainedValue_of_value h.actual ha
    have held := (attainment_iff hpos ha.le).mp h.attainment
    have hrag := h.rag
    rw [higherBetter_of_attainedValue hvalue] at hrag
    rw [evaluateGoal_rag, attainmentBp_of_pos hpos ha.le] at hrag
    exact ⟨_, hvalue, hpos, hreached, held, (bandOf_eq_iff hpos hreached held _).mp hrag⟩
  · rintro ⟨a, hvalue, hpos, hreached, held, hmaximum⟩
    have ha : 0 < a := Int.lt_of_lt_of_le hpos hreached
    have hlive : (evaluateGoal w.pnl g.row).actual = a := liveActual_of_attainedValue hvalue ha
    have hnonneg : 0 ≤ (evaluateGoal w.pnl g.row).actual := by omega
    constructor
    · rw [evaluateGoal_rag, attainmentBp_of_pos hpos hnonneg, hlive,
        higherBetter_of_attainedValue hvalue]
      exact (bandOf_eq_iff hpos hreached held _).mpr hmaximum
    · rw [attainment_iff hpos hnonneg, hlive]
      exact held
    · rw [varianceAbs_eq_iff, hlive]
      exact hreached
    · rw [hlive]
      exact value_of_attainedValue hvalue

/-- The table agrees when each of its goals is attained. -/
theorem goals_agree_iff (w : WindowFacts) (goals : List StoredGoal) :
    List.Forall₂ (fun g row => GoalAgrees w g row (GoalAttainmentQuery.evaluate g.row row.actual))
        goals (getGoalAttainment (goals.map StoredGoal.row) w.pnl) ↔
      ∀ g ∈ goals, ∃ actual, Attained w.pnl g actual := by
  rw [getGoalAttainment, List.map_map, List.forall₂_map_right_iff, List.forall₂_same]
  exact forall₂_congr fun g _ => goalAgrees_iff

end

/-- A month of ₹50,000 of revenue and ₹10,000 of spend that wins ten customers. -/
def tenCustomers : WindowFacts where
  pnl := ⟨true, "INR", 5000000, 0, 1000000, 1000000, 0, 40⟩
  cm3Mu := 0
  newCustomersCount := 10
  newCustomerRevenueMu := 1500000
  metaValueMu := 0
  googleValueMu := 0

/-- A cap of ₹150 on what a customer costs. -/
def cacCap : StoredGoal where
  metric := .cac
  periodType := .monthly
  periodStart := .of 2026 5 1
  goalValue := 15000
  goalType := .maximum

/-- A customer costs ₹1,000, and the row says nothing, in green. -/
theorem cacCap_not_agrees : GoalMetric.cac.value tenCustomers = some 100000 ∧
    (evaluateGoal tenCustomers.pnl cacCap.row).actual = 0 ∧
    (evaluateGoal tenCustomers.pnl cacCap.row).rag = .green ∧
    ¬ GoalAgrees tenCustomers cacCap (evaluateGoal tenCustomers.pnl cacCap.row)
      (GoalAttainmentQuery.evaluate cacCap.row
        (evaluateGoal tenCustomers.pnl cacCap.row).actual) := by
  have hactual : (evaluateGoal tenCustomers.pnl cacCap.row).actual = 0 :=
    liveActual_other (m := .cac) tenCustomers.pnl (by decide) (by decide)
  have hzero : bigIntOfNumber (ofInt 0) = some 0 :=
    Metrics.Registry.bigIntOfNumber_ofInt (Nat.two_pow_pos 53)
  have hattainment := attainmentBp_of_pos (f := tenCustomers.pnl) (g := cacCap) (by decide)
    hactual.ge
  rw [hactual, show (0 : Int) * 10000 / cacCap.goalValue = 0 by decide] at hattainment
  have hmost : atMost (ofInt 0) 10000 = true := (atMost_iff hzero 10000).mpr (by decide)
  have hgreen := bandOf_of_atMost hmost
  refine ⟨rfl, hactual, ?_, ?_⟩
  · rw [evaluateGoal_rag, hattainment]
    exact hgreen
  · intro h
    have hvalue := h.actual
    rw [hactual] at hvalue
    exact absurd hvalue (by decide)

end BrainV2.LivePlane
