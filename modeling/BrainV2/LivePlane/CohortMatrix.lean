import BrainV2.Analytics.Cohorts
import BrainV2.Lib.Integers

/-!
# The cohort matrix

The arrays of `readCohorts` begin with the month of the first orders, and the cumulative mode
begins with a first order of its own.

* `applyCohortMode`, `cohortRow`, `getCohortMatrix`: the live plane;
* `CohortMatrixQuery.applyMode`: `_apply_mode` of Python;
* `OneLtv`, `FirstOrderFree`: one lifetime value, and the cohorts that have it;
* `oneLtv_iff`, `applyCohortMode_eq_iff`, `cohorts_agree_iff`.
-/

namespace BrainV2.LivePlane

open Analytics (FactCohortRow runningSums)
open Py (Date)
open Quotients (Uneven)

inductive CohortMetric where
  | cm3
  | revenue
  | repeats
  | repurchase
deriving DecidableEq

inductive CohortMode where
  | post
  | cumulative
  | incr
  | pct
  | ltvcac
deriving DecidableEq

/-! ### The live plane -/

/-- `fo`, the order that a metric begins with. -/
def firstOrderOf (metric : CohortMetric) (firstOrder firstOrderR : Int) : Int :=
  if metric = .cm3 then firstOrderR else firstOrder

/-- The denominator of `pct`. -/
def pctDenom (fo : Int) : Int := if 0 < |fo| then |fo| else 1

/-- The denominator of `ltvcac`. -/
def ltvcacDenom (cac : Int) : Int := if 0 < cac then cac else 1

def applyCohortMode (metric : CohortMetric) (mode : CohortMode)
    (firstOrderPer firstOrderRPer cacPer : Int) (incrPer : List Int) : List Int :=
  let fo := firstOrderOf metric firstOrderPer firstOrderRPer
  match metric with
  | .cm3 | .revenue =>
    match mode with
    | .incr => incrPer
    | .post => if metric = .cm3 then incrPer else runningSums 0 incrPer
    | .cumulative => runningSums fo incrPer
    | .pct => (runningSums fo incrPer).map fun s => (s * 10000).tdiv (pctDenom fo)
    | .ltvcac => (runningSums fo incrPer).map fun s => (s * 10000).tdiv (ltvcacDenom cacPer)
  | .repeats | .repurchase =>
    match mode with
    | .post => runningSums 0 incrPer
    | _ => incrPer

/-- What each month adds to the running total. -/
def differences : Int → List Int → List Int
  | _, [] => []
  | before, v :: vs => (v - before) :: differences v vs

structure CohortMatrixRow where
  cohortMonth : Date
  newCustomers : Nat
  rr90Bp : Option Nat
  firstOrderCm3Mu : Int
  firstOrderRealizedCm3Mu : Int
  cohortLtvMu : Int
  m : List Int
deriving DecidableEq

/-- `n > 0n ? v / n : 0n` -/
def perCustomer (n : Nat) (v : Int) : Int := if 0 < n then v.tdiv n else 0

def incrTotal (c : FactCohortRow) : List Int := differences 0 c.m

def foIncrPer (c : FactCohortRow) : Int := perCustomer c.newCustomers ((incrTotal c)[0]?.getD 0)

/-- The rate of the first ninety days, in the first cell. -/
def repeatCells (c : FactCohortRow) : List Int := (List.replicate 12 0).set 0 (c.rr90Bp.getD 0 : Nat)

def incrPer (metric : CohortMetric) (c : FactCohortRow) : List Int :=
  match metric with
  | .cm3 | .revenue => (incrTotal c).map (perCustomer c.newCustomers)
  | .repeats | .repurchase => repeatCells c

def cohortRow (metric : CohortMetric) (mode : CohortMode) (c : FactCohortRow) : CohortMatrixRow where
  cohortMonth := c.cohortMonth
  newCustomers := c.newCustomers
  rr90Bp := c.rr90Bp
  firstOrderCm3Mu := foIncrPer c
  firstOrderRealizedCm3Mu := foIncrPer c
  cohortLtvMu := perCustomer c.newCustomers (c.m[11]?.getD 0)
  m := applyCohortMode metric mode (foIncrPer c) (foIncrPer c) 0 (incrPer metric c)

/-- The months that a request names. -/
structure CohortRange where
  start : Option Date
  stop : Option Date

def CohortRange.shows (range : CohortRange) (c : FactCohortRow) : Bool :=
  (range.start.all fun d => decide (Sql.startOfMonth d ≤ c.cohortMonth)) &&
    range.stop.all fun d => decide (c.cohortMonth ≤ Sql.startOfMonth d)

def shownCohorts (range : CohortRange) (cohorts : List FactCohortRow) : List FactCohortRow :=
  cohorts.filter range.shows

structure CohortMatrixResult where
  metric : CohortMetric
  mode : CohortMode
  avg90dayRepeatBp : Option Nat
  newCustomers : Nat
  rows : List CohortMatrixRow

/-- The mean of the rates, by customers. -/
def averageRepeat (cohorts : List FactCohortRow) : Option Nat :=
  let totalNew := (cohorts.map (·.newCustomers)).sum
  let rrWeighted := (cohorts.map fun c => c.rr90Bp.getD 0 * c.newCustomers).sum
  if 0 < totalNew then some (rrWeighted / totalNew) else none

def getCohortMatrix (allCohorts : List FactCohortRow) (metric : Option CohortMetric)
    (mode : Option CohortMode) (range : CohortRange) : CohortMatrixResult :=
  let cohorts := shownCohorts range allCohorts
  { metric := metric.getD .cm3
    mode := mode.getD .post
    avg90dayRepeatBp := averageRepeat cohorts
    newCustomers := (cohorts.map (·.newCustomers)).sum
    rows := cohorts.map (cohortRow (metric.getD .cm3) (mode.getD .post)) }

/-! ### Python -/

/-- `_apply_mode` -/
def CohortMatrixQuery.applyMode (metric : CohortMetric) (mode : CohortMode)
    (firstOrder firstOrderR cac : Int) (incr : List Int) : List Int :=
  let fo := firstOrderOf metric firstOrder firstOrderR
  match metric with
  | .cm3 | .revenue =>
    match mode with
    | .incr => incr
    | .post => if metric = .cm3 then incr else runningSums 0 incr
    | .cumulative => runningSums fo incr
    | .pct => (runningSums fo incr).map fun s => (s * 10000).fdiv (pctDenom fo)
    | .ltvcac => (runningSums fo incr).map fun s => (s * 10000).fdiv (ltvcacDenom cac)
  | .repeats | .repurchase =>
    match mode with
    | .post => runningSums 0 incr
    | _ => incr

/-! ### One lifetime value -/

/-- The cells follow the revenue of the customers, and the last one the value of a year. -/
structure OneLtv (c : FactCohortRow) (row : CohortMatrixRow) : Prop where
  cells : ∀ (k : Nat) (v w : Int), row.m[k]? = some v → c.m[k]? = some w →
    |v - w / c.newCustomers| ≤ k + 2
  year : ∀ v, row.m[11]? = some v → |v - row.cohortLtvMu| ≤ 11 + 2

/-- What the months leave when each is divided by the customers. -/
def rests (c : FactCohortRow) : List Int :=
  runningSums 0 ((incrTotal c).map fun x => x.tmod c.newCustomers)

/-- A first order that is worth no more than the rounding of the months. -/
structure FirstOrderFree (c : FactCohortRow) : Prop where
  cells : ∀ (k : Nat) (rest : Int), (rests c)[k]? = some rest →
    |foIncrPer c - rest / c.newCustomers| ≤ k + 2
  year : ∀ rest w : Int, (rests c)[11]? = some rest → c.m[11]? = some w →
    |foIncrPer c - rest / c.newCustomers - (w.tdiv c.newCustomers - w / c.newCustomers)| ≤ 11 + 2

/-- The scaled cells are the same rounded down and truncated. -/
def ModeAlike (metric : CohortMetric) (mode : CohortMode) (firstOrder firstOrderR cac : Int)
    (incr : List Int) : Prop :=
  let fo := firstOrderOf metric firstOrder firstOrderR
  match metric, mode with
  | .cm3, .pct | .revenue, .pct => ∀ s ∈ runningSums fo incr, ¬ Uneven (s * 10000) (pctDenom fo)
  | .cm3, .ltvcac | .revenue, .ltvcac =>
    ∀ s ∈ runningSums fo incr, ¬ Uneven (s * 10000) (ltvcacDenom cac)
  | _, _ => True

/-! ### Months -/

theorem perCustomer_eq (n : Nat) (v : Int) : perCustomer n v = v.tdiv n := by
  unfold perCustomer
  split
  · rfl
  · next hzero =>
    have hn : n = 0 := by omega
    simp [hn]

/-- A running sum of quotients, with the remainders that it leaves out. -/
theorem runningSums_tdiv (n : Int) (xs : List Int) (start before rest : Int) :
    ∀ (k : Nat) (v w r : Int),
      (runningSums start ((differences before xs).map fun x => x.tdiv n))[k]? = some v →
      xs[k]? = some w →
      (runningSums rest ((differences before xs).map fun x => x.tmod n))[k]? = some r →
      n * (v - start) + (r - rest) = w - before := by
  induction xs generalizing start before rest with
  | nil =>
    intro k v w r hv
    simp [differences, runningSums] at hv
  | cons x xs ih =>
    intro k v w r hv hw hr
    have hx := Int.tmod_add_mul_tdiv (x - before) n
    simp only [differences, List.map_cons, runningSums] at hv hr
    cases k with
    | zero =>
      simp only [List.getElem?_cons_zero, Option.some.injEq] at hv hw hr
      subst hv hw hr
      rw [add_sub_cancel_left, add_sub_cancel_left]
      omega
    | succ k =>
      simp only [List.getElem?_cons_succ] at hv hw hr
      have hrec := ih _ _ _ k v w r hv hw hr
      have hsplit : n * (v - start) =
          n * (v - (start + (x - before).tdiv n)) + n * (x - before).tdiv n := by
        rw [← Int.mul_add]
        congr 1
        omega
      omega

theorem length_runningSums (start : Int) (xs : List Int) :
    (runningSums start xs).length = xs.length := by
  induction xs generalizing start with
  | nil => rfl
  | cons x xs ih => simp [runningSums, ih]

theorem length_differences (before : Int) (xs : List Int) :
    (differences before xs).length = xs.length := by
  induction xs generalizing before with
  | nil => rfl
  | cons x xs ih => simp [differences, ih]

theorem runningSums_zero {xs : List Int} (h : ∀ x ∈ xs, x = 0) : ∀ v ∈ runningSums 0 xs, v = 0 := by
  induction xs with
  | nil => simp [runningSums]
  | cons x xs ih =>
    have hx : x = 0 := h x List.mem_cons_self
    have hrest := ih fun y hy => h y (List.mem_cons_of_mem x hy)
    intro v hv
    simp only [runningSums, hx, Int.add_zero, List.mem_cons] at hv
    cases hv with
    | inl h => exact h
    | inr h => exact hrest v h

/-! ### Cells -/

section

variable {c : FactCohortRow} {metric : CohortMetric}

theorem m_cohortRow (hmetric : metric = .cm3 ∨ metric = .revenue) :
    (cohortRow metric .cumulative c).m =
      runningSums (foIncrPer c) ((incrTotal c).map fun x => x.tdiv c.newCustomers) := by
  have hper : perCustomer c.newCustomers = fun x => x.tdiv c.newCustomers :=
    funext fun v => perCustomer_eq c.newCustomers v
  cases hmetric with
  | inl h => simp [h, cohortRow, applyCohortMode, firstOrderOf, incrPer, hper]
  | inr h => simp [h, cohortRow, applyCohortMode, firstOrderOf, incrPer, hper]

/-- The error of a cell: the first order that is counted again, less the rounding. -/
theorem cell_error (hmetric : metric = .cm3 ∨ metric = .revenue) {k : Nat} {v w r : Int}
    (hv : (cohortRow metric .cumulative c).m[k]? = some v) (hw : c.m[k]? = some w)
    (hr : (rests c)[k]? = some r) :
    v - w / c.newCustomers = foIncrPer c - r / c.newCustomers := by
  rw [m_cohortRow hmetric] at hv
  have hsum := runningSums_tdiv c.newCustomers c.m (foIncrPer c) 0 0 k v w r hv hw hr
  cases Nat.eq_zero_or_pos c.newCustomers with
  | inl hzero =>
    have hfirst : foIncrPer c = 0 := by simp [foIncrPer, perCustomer, hzero]
    rw [hzero, hfirst] at hv
    have hv0 : v = 0 := runningSums_zero (by simp) v (List.mem_of_getElem? hv)
    simp [hzero, hfirst, hv0]
  | inr hpos =>
    have hne : (c.newCustomers : Int) ≠ 0 := by omega
    have hw' : w = r + c.newCustomers * (v - foIncrPer c) := by omega
    rw [hw', Int.add_mul_ediv_left _ _ hne]
    omega

theorem length_m (hmetric : metric = .cm3 ∨ metric = .revenue) :
    (cohortRow metric .cumulative c).m.length = c.m.length := by
  rw [m_cohortRow hmetric, length_runningSums, List.length_map, incrTotal, length_differences]

theorem length_rests : (rests c).length = c.m.length := by
  rw [rests, length_runningSums, List.length_map, incrTotal, length_differences]

theorem oneLtv_iff (hmetric : metric = .cm3 ∨ metric = .revenue) :
    OneLtv c (cohortRow metric .cumulative c) ↔ FirstOrderFree c := by
  have hlength := length_m (c := c) hmetric
  have hrests := length_rests (c := c)
  have hltv : ∀ w, c.m[11]? = some w →
      (cohortRow metric .cumulative c).cohortLtvMu = w.tdiv c.newCustomers := by
    intro w hw
    simp [cohortRow, hw, perCustomer_eq]
  constructor
  · intro h
    constructor
    · intro k r hr
      obtain ⟨hk, -⟩ := List.getElem?_eq_some_iff.mp hr
      have hv := List.getElem?_eq_getElem (show k < (cohortRow metric .cumulative c).m.length by omega)
      have hw := List.getElem?_eq_getElem (show k < c.m.length by omega)
      rw [← cell_error hmetric hv hw hr]
      exact h.cells k _ _ hv hw
    · intro r w hr hw
      obtain ⟨hk, -⟩ := List.getElem?_eq_some_iff.mp hw
      have hv := List.getElem?_eq_getElem
        (show 11 < (cohortRow metric .cumulative c).m.length by omega)
      have hyear := h.year _ hv
      rw [← cell_error hmetric hv hw hr]
      rw [hltv w hw] at hyear
      rwa [show ∀ a b d : Int, a - b - (d - b) = a - d by omega]
  · intro h
    constructor
    · intro k v w hv hw
      obtain ⟨hk, -⟩ := List.getElem?_eq_some_iff.mp hw
      have hr := List.getElem?_eq_getElem (show k < (rests c).length by omega)
      rw [cell_error hmetric hv hw hr]
      exact h.cells k _ hr
    · intro v hv
      obtain ⟨hk, -⟩ := List.getElem?_eq_some_iff.mp hv
      have hw := List.getElem?_eq_getElem (show 11 < c.m.length by omega)
      have hr := List.getElem?_eq_getElem (show 11 < (rests c).length by omega)
      have hyear := h.year _ _ hr hw
      rw [← cell_error hmetric hv hw hr] at hyear
      rw [hltv _ hw]
      rwa [show ∀ a b d : Int, a - b - (d - b) = a - d by omega] at hyear

end

/-! ### Modes -/

theorem pctDenom_pos (fo : Int) : 0 < pctDenom fo := by
  unfold pctDenom
  split <;> omega

theorem ltvcacDenom_pos (cac : Int) : 0 < ltvcacDenom cac := by
  unfold ltvcacDenom
  split <;> omega

theorem scaled_eq_iff {d : Int} (hd : 0 < d) (xs : List Int) :
    (xs.map fun s => (s * 10000).tdiv d) = (xs.map fun s => (s * 10000).fdiv d) ↔
      ∀ s ∈ xs, ¬ Uneven (s * 10000) d := by
  rw [List.map_inj_left]
  refine forall₂_congr fun s _ => ?_
  rw [Quotients.fdiv_eq hd, Quotients.tdiv_eq_ediv_iff hd]

theorem applyCohortMode_eq_iff (metric : CohortMetric) (mode : CohortMode)
    (firstOrder firstOrderR cac : Int) (incr : List Int) :
    applyCohortMode metric mode firstOrder firstOrderR cac incr =
        CohortMatrixQuery.applyMode metric mode firstOrder firstOrderR cac incr ↔
      ModeAlike metric mode firstOrder firstOrderR cac incr := by
  cases metric with
  | cm3 | revenue =>
    cases mode with
    | pct => exact scaled_eq_iff (pctDenom_pos _) _
    | ltvcac => exact scaled_eq_iff (ltvcacDenom_pos _) _
    | post | cumulative | incr => exact iff_of_true rfl trivial
  | repeats | repurchase => cases mode <;> exact iff_of_true rfl trivial

/-! ### The matrix -/

/-- The matrix tells the lifetime value of its cohorts when their first orders are worth nothing,
and the modes are those of Python when they divide evenly. -/
theorem cohorts_agree_iff (cohorts : List FactCohortRow) {metric : CohortMetric}
    (hmetric : metric = .cm3 ∨ metric = .revenue) (range : CohortRange) (metric' : CohortMetric)
    (mode : CohortMode) (firstOrder firstOrderR cac : Int) (incr : List Int) :
    (List.Forall₂ OneLtv (shownCohorts range cohorts)
        (getCohortMatrix cohorts (some metric) (some .cumulative) range).rows ↔
      ∀ c ∈ shownCohorts range cohorts, FirstOrderFree c) ∧
    (applyCohortMode metric' mode firstOrder firstOrderR cac incr =
        CohortMatrixQuery.applyMode metric' mode firstOrder firstOrderR cac incr ↔
      ModeAlike metric' mode firstOrder firstOrderR cac incr) := by
  constructor
  · simp only [getCohortMatrix, Option.getD_some, List.forall₂_map_right_iff, List.forall₂_same]
    exact forall₂_congr fun c _ => oneLtv_iff hmetric
  · exact applyCohortMode_eq_iff metric' mode firstOrder firstOrderR cac incr

/-- Ten customers whose first orders were refunded, and who order for ₹100 a month later. -/
def refundedCohort : FactCohortRow where
  cohortMonth := .of 2026 1 1
  newCustomers := 10
  rr90Bp := some 10000
  m := 0 :: List.replicate 11 100000

theorem refundedCohort_oneLtv : List.Forall₂ OneLtv [refundedCohort]
    (getCohortMatrix [refundedCohort] (some .revenue) (some .cumulative) ⟨none, none⟩).rows := by
  have hfree : FirstOrderFree refundedCohort := by
    constructor
    · intro k rest hrest
      obtain ⟨hk, rfl⟩ := List.getElem?_eq_some_iff.mp hrest
      have hall : ∀ k : Fin 12, |foIncrPer refundedCohort -
          (rests refundedCohort).get k / refundedCohort.newCustomers| ≤ (k : Nat) + 2 := by decide
      exact hall ⟨k, hk⟩
    · intro rest w hrest hw
      cases hrest
      cases hw
      decide
  apply (cohorts_agree_iff [refundedCohort] (Or.inr rfl) ⟨none, none⟩ .revenue .incr 0 0 0 []).1.mpr
  intro c hc
  cases hc with
  | head => exact hfree
  | tail _ hc => cases hc

/-- A customer who orders once, for ₹100. -/
def onceOnly : FactCohortRow where
  cohortMonth := .of 2026 1 1
  newCustomers := 1
  rr90Bp := some 0
  m := List.replicate 12 10000

/-- The order is counted twice, and a refund is rounded the other way. -/
theorem cohorts_disagree :
    ¬ OneLtv onceOnly (cohortRow .revenue .cumulative onceOnly) ∧
      applyCohortMode .revenue .pct 3 3 0 [-4] ≠
        CohortMatrixQuery.applyMode .revenue .pct 3 3 0 [-4] := by
  constructor
  · intro h
    exact absurd (h.cells 0 20000 10000 (by decide) (by decide)) (by decide)
  · decide

end BrainV2.LivePlane
