import BrainV2.LivePlane.CohortMatrix
import BrainV2.Metrics.Registry
import BrainV2.Py.Values
import Mathlib

/-!
# When a cohort pays back

* `cohortPaybackCentimonths`: the walk over the months, in hundredths of a month;
* `execute`: the query, with the walk for each cohort;
* `balance`, `CrossesAt`, `paybackAt`: what a customer has paid back, and the first month in
  which it is everything;
* `payback_cases`: the walk ends there or nowhere;
* `paybackAt_le`: the more a cohort pays and the less it costs, the earlier;
* `cohort_payback`: all of it.
-/

namespace BrainV2.LivePlane.CohortMatrixQuery

open Metrics.Registry (intFloorDivOrNull ratioBp)
open Py (PyExc)

/-! ### The code -/

def zeroDivision : PyExc :=
  ⟨.other "ZeroDivisionError" false, "integer division or modulo by zero"⟩

/-- `//` -/
def floorDiv (a b : Int) : Except PyExc Int :=
  if b = 0 then .error zeroDivision else .ok (a.fdiv b)

/-- `_BUCKETS` -/
def buckets : Nat := 12

/-- The loop over the months, of which `months` are left, from month `k + 1` on. -/
def paybackLoop (interpolated : Bool) (incr : List Int) :
    (months k : Nat) → (cum : Int) → Except PyExc (Option Int)
  | 0, _, _ => .ok none
  | months + 1, k, prevCum =>
    let incrVal := incr[k]?.getD 0
    let cum := prevCum + incrVal
    if 0 ≤ cum then
      if interpolated && decide (0 < incrVal ∧ prevCum < 0) then do
        let fracCenti ← floorDiv (100 * -prevCum) incrVal
        .ok (some (k * 100 + fracCenti))
      else .ok (some ((k + 1) * 100))
    else paybackLoop interpolated incr months (k + 1) cum

/-- `[v // new_customers for v in incr_cm3_mu]`, or no payments at all -/
def incrPerCustomer (incrCm3Mu : List Int) (newCustomers : Int) : Except PyExc (List Int) :=
  if incrCm3Mu = [] then .ok (List.replicate buckets 0)
  else incrCm3Mu.mapM (floorDiv · newCustomers)

/-- `_cohort_payback_centimonths` -/
def cohortPaybackCentimonths (firstOrderRealizedCm3Mu cacMu : Int) (incrCm3Mu : List Int)
    (newCustomers : Int) (metric : CohortMetric) (mode : CohortMode) :
    Except PyExc (Option Int) :=
  if metric ≠ .cm3 ∧ metric ≠ .revenue then .ok none
  else if newCustomers ≤ 0 then .ok none
  else do
    let incr ← incrPerCustomer incrCm3Mu newCustomers
    let foPerCust ← floorDiv firstOrderRealizedCm3Mu newCustomers
    let cum := foPerCust - cacMu
    if 0 ≤ cum then .ok (some 0)
    else paybackLoop (metric = .cm3 && mode = .post) incr buckets 0 cum

/-- One cohort of pre-aggregated facts. -/
structure CohortFact where
  cohortMonth : String
  newCustomers : Int
  monthSpendMu : Int
  sumFirstOrderCm3Mu : Int
  sumFirstOrderRealizedCm3Mu : Int
  repeatCustomers90d : Int
  incrCm3Mu : List Int
  incrRevenueMu : List Int
  incrRepeatCustomers : List Int
  incrRepurchaseOrders : List Int

structure CohortFacts where
  cohorts : List CohortFact
  totalAdSpendMu : Int

structure CohortRow where
  cohortMonth : String
  newCustomers : Int
  cacMu : Option Int
  rr90Bp : Option Int
  paybackCentimonths : Option Int
  firstOrderCm3Mu : Int
  firstOrderRealizedCm3Mu : Int
  cohortLtvMu : Int
  ltvCacBp : Option Int
  m : List Int

structure CohortMatrixResult where
  averageCacMu : Option Int
  avg90dayRepeatBp : Option Int
  averagePaybackCentimonths : Option Int
  newCustomers : Int
  rows : List CohortRow

/-- `v // n if n > 0 else 0` -/
def perHead (total n : Int) : Except PyExc Int := if 0 < n then floorDiv total n else .ok 0

/-- `formula(v, n) if n > 0 else None` -/
def whenPositive (n : Int) (value : Option Int) : Option Int := if 0 < n then value else none

/-- `values or (0,) * _BUCKETS` -/
def orZeros (values : List Int) : List Int :=
  if values = [] then List.replicate buckets 0 else values

def incrPerHead (metric : CohortMetric) (c : CohortFact) : Except PyExc (List Int) :=
  match metric with
  | .cm3 => (orZeros c.incrCm3Mu).mapM (perHead · c.newCustomers)
  | .revenue => (orZeros c.incrRevenueMu).mapM (perHead · c.newCustomers)
  | .repeats => .ok ((orZeros c.incrRepeatCustomers).map fun v =>
      if 0 < c.newCustomers then (ratioBp v c.newCustomers).getD 0 else 0)
  | .repurchase => (orZeros c.incrRepurchaseOrders).mapM (perHead · c.newCustomers)

def cohortRow (metric : CohortMetric) (mode : CohortMode) (c : CohortFact) :
    Except PyExc CohortRow := do
  let n := c.newCustomers
  let cac := whenPositive n (intFloorDivOrNull c.monthSpendMu n)
  let firstOrder ← perHead c.sumFirstOrderCm3Mu n
  let firstOrderR ← perHead c.sumFirstOrderRealizedCm3Mu n
  let incr ← incrPerHead metric c
  let cm3 ← (orZeros c.incrCm3Mu).mapM (perHead · n)
  let ltv := firstOrderR + cm3.sum
  let payback ← cohortPaybackCentimonths c.sumFirstOrderRealizedCm3Mu (cac.getD 0)
    (orZeros c.incrCm3Mu) n metric mode
  .ok { cohortMonth := c.cohortMonth
        newCustomers := n
        cacMu := cac
        rr90Bp := whenPositive n (ratioBp c.repeatCustomers90d n)
        paybackCentimonths := payback
        firstOrderCm3Mu := firstOrder
        firstOrderRealizedCm3Mu := firstOrderR
        cohortLtvMu := ltv
        ltvCacBp := cac.bind fun cac => if 0 < cac then ratioBp ltv cac else none
        m := applyMode metric mode firstOrder firstOrderR (cac.getD 0) incr }

/-- The rows that have paid back, with the customers that weigh them. -/
def paidBack (rows : List CohortRow) : List (Int × Int) :=
  rows.filterMap fun r =>
    if 0 < r.newCustomers then r.paybackCentimonths.map fun p => (p, r.newCustomers) else none

def averagePayback (rows : List CohortRow) : Except PyExc (Option Int) :=
  let weight := ((paidBack rows).map (·.2)).sum
  if 0 < weight then (floorDiv ((paidBack rows).map fun p => p.1 * p.2).sum weight).map some
  else .ok none

/-- `execute`, behind the check of the workspace. -/
def execute (facts : CohortFacts) (metric : CohortMetric) (mode : CohortMode) :
    Except PyExc CohortMatrixResult := do
  let cohorts := facts.cohorts.mergeSort fun c d => decide (c.cohortMonth ≤ d.cohortMonth)
  let rows ← cohorts.mapM (cohortRow metric mode)
  let totalNew := (rows.map (·.newCustomers)).sum
  let repeat90Total := (cohorts.map (·.repeatCustomers90d)).sum
  let averagePayback ← averagePayback rows
  .ok { averageCacMu := whenPositive totalNew (intFloorDivOrNull facts.totalAdSpendMu totalNew)
        avg90dayRepeatBp := whenPositive totalNew (ratioBp repeat90Total totalNew)
        averagePaybackCentimonths := averagePayback
        newCustomers := totalNew
        rows := rows }

/-! ### What a customer has paid back -/

/-- What a customer leaves of the cost after `k` months. -/
def balance (firstOrder cac : Int) (incr : List Int) (n : Int) : Nat → Int
  | 0 => firstOrder / n - cac
  | k + 1 => balance firstOrder cac incr n k + incr[k]?.getD 0 / n

/-- The first month in which nothing is left to pay. -/
def CrossesAt (b : Nat → Int) (k : Nat) : Prop := 0 ≤ b k ∧ ∀ j < k, b j < 0

/-- The time at which a line between two months is at zero. -/
def paybackAt (b : Nat → Int) : Nat → Int
  | 0 => 0
  | k + 1 => k * 100 + 100 * -b k / (b (k + 1) - b k)

/-- Never is later than all times. -/
def timeOf (payback : Option Int) : WithTop Int := payback

section

variable {b b' : Nat → Int} {j k : Nat}

/-- There is one such month at most. -/
theorem CrossesAt.eq (h : CrossesAt b j) (h' : CrossesAt b k) : j = k := by
  rcases lt_trichotomy j k with hlt | heq | hlt
  · exact absurd h.1 (not_le.mpr (h'.2 j hlt))
  · exact heq
  · exact absurd h'.1 (not_le.mpr (h.2 k hlt))

/-- Crossing within a month, the line is at zero within it. -/
theorem paybackAt_mem (h : CrossesAt b k) :
    ((k : Int) - 1) * 100 ≤ paybackAt b k ∧ paybackAt b k ≤ k * 100 := by
  cases k with
  | zero => simp [paybackAt]
  | succ k =>
    have hbefore := h.2 k (Nat.lt_succ_self k)
    have hafter := h.1
    have hpos : 0 < b (k + 1) - b k := by omega
    have hlow : 0 ≤ 100 * -b k / (b (k + 1) - b k) := Int.ediv_nonneg (by omega) hpos.le
    have hhigh : 100 * -b k / (b (k + 1) - b k) ≤ 100 :=
      Int.ediv_le_of_le_mul hpos (by omega)
    rw [paybackAt, Nat.cast_succ]
    omega

/-- Where no month leaves more to pay, the crossing is no later. -/
theorem CrossesAt.le (h : CrossesAt b k) (h' : CrossesAt b' j) (hle : ∀ i, b i ≤ b' i) : j ≤ k := by
  by_contra hlt
  have hneg := h'.2 k (not_le.mp hlt)
  have hge := hle k
  have hcross := h.1
  omega

/-- Where all balances and what each month adds are no less, the time is no later. -/
theorem paybackAt_le (h : CrossesAt b k) (h' : CrossesAt b' j) (hle : ∀ i, b i ≤ b' i)
    (hstep : ∀ i, b (i + 1) - b i ≤ b' (i + 1) - b' i) : paybackAt b' j ≤ paybackAt b k := by
  have hjk := h.le h' hle
  rcases Nat.lt_or_eq_of_le hjk with hlt | rfl
  · have hj := (paybackAt_mem h').2
    have hk := (paybackAt_mem h).1
    omega
  · cases j with
    | zero => exact le_refl _
    | succ j =>
      have hneg := h'.2 j (Nat.lt_succ_self j)
      have hneg' := h.2 j (Nat.lt_succ_self j)
      have hpos : 0 < b (j + 1) - b j := by
        have hcross := h.1
        omega
      have hnum : 100 * -b' j ≤ 100 * -b j := by
        have := hle j
        omega
      have hquot : 100 * -b' j / (b' (j + 1) - b' j) ≤ 100 * -b j / (b (j + 1) - b j) :=
        calc
          100 * -b' j / (b' (j + 1) - b' j) ≤ 100 * -b' j / (b (j + 1) - b j) := by
            apply Int.le_ediv_of_mul_le hpos
            calc
              100 * -b' j / (b' (j + 1) - b' j) * (b (j + 1) - b j) ≤
                  100 * -b' j / (b' (j + 1) - b' j) * (b' (j + 1) - b' j) :=
                mul_le_mul_of_nonneg_left (hstep j)
                  (Int.ediv_nonneg (by omega) (le_trans hpos.le (hstep j)))
              _ ≤ 100 * -b' j :=
                Int.ediv_mul_le _ (ne_of_gt (lt_of_lt_of_le hpos (hstep j)))
          _ ≤ 100 * -b j / (b (j + 1) - b j) := Int.ediv_le_ediv hpos hnum
      rw [paybackAt, paybackAt]
      omega

end

/-! ### The walk -/

theorem floorDiv_of_pos (a : Int) {n : Int} (hn : 0 < n) : floorDiv a n = .ok (a / n) := by
  rw [floorDiv, if_neg hn.ne', Quotients.fdiv_eq hn]

theorem mapM_floorDiv (l : List Int) {n : Int} (hn : 0 < n) :
    l.mapM (floorDiv · n) = .ok (l.map (· / n)) := by
  induction l with
  | nil => rfl
  | cons a l ih =>
    rw [List.mapM_cons, floorDiv_of_pos a hn, ih]
    rfl

/-- The months before `k + 1` leave something to pay; the walk ends in the first of the others
that does not. -/
theorem paybackLoop_cases {incr : List Int} {b : Nat → Int}
    (hstep : ∀ k, b (k + 1) = b k + incr[k]?.getD 0) :
    ∀ (months k : Nat), (∀ j ≤ k, b j < 0) →
      (∃ K ≤ k + months, CrossesAt b K ∧
        paybackLoop true incr months k (b k) = .ok (some (paybackAt b K))) ∨
      ((∀ j ≤ k + months, b j < 0) ∧ paybackLoop true incr months k (b k) = .ok none) := by
  intro months
  induction months with
  | zero => exact fun k hneg => .inr ⟨hneg, rfl⟩
  | succ months ih =>
    intro k hneg
    have hprev := hneg k (le_refl k)
    rw [paybackLoop, ← hstep k]
    by_cases hcross : 0 ≤ b (k + 1)
    · have hincr : 0 < incr[k]?.getD 0 := by
        have := hstep k
        omega
      have hdiff : b (k + 1) - b k = incr[k]?.getD 0 := by
        rw [hstep k]
        omega
      refine .inl ⟨k + 1, by omega, ⟨hcross, fun j hj => hneg j (by omega)⟩, ?_⟩
      rw [if_pos hcross, Bool.true_and, if_pos (decide_eq_true ⟨hincr, hprev⟩),
        floorDiv_of_pos _ hincr, paybackAt, hdiff]
      rfl
    · rw [if_neg hcross]
      have hneg' : ∀ j ≤ k + 1, b j < 0 := by
        intro j hj
        rcases Nat.lt_or_eq_of_le hj with hlt | rfl
        · exact hneg j (by omega)
        · omega
      rw [show k + (months + 1) = k + 1 + months by omega]
      exact ih (k + 1) hneg'

section

variable {firstOrder cac n : Int} {incr : List Int}

/-- What a month adds for each customer, where no bucket means none. -/
theorem getElem?_perCustomer (incr : List Int) (n : Int) (k : Nat) :
    (if incr = [] then List.replicate buckets 0 else incr.map (· / n))[k]?.getD 0 =
      incr[k]?.getD 0 / n := by
  split
  · next hnil =>
    rw [hnil, List.getElem?_replicate, List.getElem?_nil, Option.getD_none, Int.zero_ediv]
    split <;> rfl
  · rw [List.getElem?_map]
    cases incr[k]? with
    | none => exact (Int.zero_ediv n).symm
    | some v => rfl

theorem incrPerCustomer_of_pos (incr : List Int) (hn : 0 < n) :
    incrPerCustomer incr n =
      .ok (if incr = [] then List.replicate buckets 0 else incr.map (· / n)) := by
  rw [incrPerCustomer, mapM_floorDiv incr hn]
  split <;> rfl

theorem cohortPaybackCentimonths_of_pos (hn : 0 < n) :
    cohortPaybackCentimonths firstOrder cac incr n .cm3 .post =
      if 0 ≤ balance firstOrder cac incr n 0 then .ok (some 0)
      else paybackLoop true (if incr = [] then List.replicate buckets 0 else incr.map (· / n))
        buckets 0 (balance firstOrder cac incr n 0) := by
  rw [cohortPaybackCentimonths, if_neg (by simp), if_neg (not_le.mpr hn),
    incrPerCustomer_of_pos incr hn, floorDiv_of_pos firstOrder hn]
  rfl

theorem payback_cases (firstOrder cac : Int) (incr : List Int) (hn : 0 < n) :
    (∃ K ≤ buckets, CrossesAt (balance firstOrder cac incr n) K ∧
      cohortPaybackCentimonths firstOrder cac incr n .cm3 .post =
        .ok (some (paybackAt (balance firstOrder cac incr n) K))) ∨
    ((∀ j ≤ buckets, balance firstOrder cac incr n j < 0) ∧
      cohortPaybackCentimonths firstOrder cac incr n .cm3 .post = .ok none) := by
  rw [cohortPaybackCentimonths_of_pos hn]
  by_cases hstart : 0 ≤ balance firstOrder cac incr n 0
  · rw [if_pos hstart]
    exact .inl ⟨0, Nat.zero_le _, ⟨hstart, fun j hj => absurd hj (Nat.not_lt_zero j)⟩, rfl⟩
  · rw [if_neg hstart]
    have hstep : ∀ k, balance firstOrder cac incr n (k + 1) = balance firstOrder cac incr n k +
        (if incr = [] then List.replicate buckets 0 else incr.map (· / n))[k]?.getD 0 := by
      intro k
      rw [getElem?_perCustomer, balance]
    have hneg : ∀ j ≤ 0, balance firstOrder cac incr n j < 0 := by
      intro j hj
      rw [Nat.le_zero.mp hj]
      exact not_le.mp hstart
    have hcases := paybackLoop_cases hstep buckets 0 hneg
    rw [Nat.zero_add] at hcases
    exact hcases

/-! ### All divisions have a divisor -/

/-- No division by zero is met. -/
def Returns {α : Type} (x : Except PyExc α) : Prop := ∃ v, x = .ok v

theorem Returns.ok {α : Type} (v : α) : Returns (.ok v : Except PyExc α) := ⟨v, rfl⟩

theorem Returns.bind {α β : Type} {x : Except PyExc α} {f : α → Except PyExc β} (hx : Returns x)
    (hf : ∀ v, Returns (f v)) : Returns (x >>= f) := by
  obtain ⟨v, rfl⟩ := hx
  exact hf v

theorem Returns.mapM {α β : Type} {f : α → Except PyExc β} (h : ∀ a, Returns (f a))
    (l : List α) : Returns (l.mapM f) := by
  induction l with
  | nil => exact .ok []
  | cons a l ih =>
    rw [List.mapM_cons]
    exact (h a).bind fun v => ih.bind fun vs => .ok (v :: vs)

theorem floorDiv_returns (a : Int) (hn : 0 < n) : Returns (floorDiv a n) :=
  ⟨_, floorDiv_of_pos a hn⟩

theorem perHead_returns (total n : Int) : Returns (perHead total n) := by
  unfold perHead
  split
  · next hn => exact floorDiv_returns total hn
  · exact .ok 0

theorem paybackLoop_returns (interpolated : Bool) (incr : List Int) (months k : Nat) (cum : Int) :
    Returns (paybackLoop interpolated incr months k cum) := by
  induction months generalizing k cum with
  | zero => exact .ok none
  | succ months ih =>
    rw [paybackLoop]
    split
    · split
      · next h =>
        have hincr : 0 < incr[k]?.getD 0 :=
          (of_decide_eq_true (Bool.and_eq_true_iff.mp h).2).1
        exact (floorDiv_returns _ hincr).bind fun _ => .ok _
      · exact .ok _
    · exact ih _ _

theorem cohortPaybackCentimonths_returns (firstOrder cac : Int) (incr : List Int) (n : Int)
    (metric : CohortMetric) (mode : CohortMode) :
    Returns (cohortPaybackCentimonths firstOrder cac incr n metric mode) := by
  unfold cohortPaybackCentimonths
  split
  · exact .ok none
  · split
    · exact .ok none
    · next hn =>
      refine Returns.bind ⟨_, incrPerCustomer_of_pos incr (not_le.mp hn)⟩ fun incr => ?_
      refine (floorDiv_returns _ (not_le.mp hn)).bind fun foPerCust => ?_
      by_cases hcum : 0 ≤ foPerCust - cac
      · simp only [if_pos hcum]
        exact .ok _
      · simp only [if_neg hcum]
        exact paybackLoop_returns _ _ _ _ _

theorem incrPerHead_returns (metric : CohortMetric) (c : CohortFact) :
    Returns (incrPerHead metric c) := by
  cases metric with
  | repeats => exact .ok _
  | _ => exact .mapM (fun v => perHead_returns v c.newCustomers) _

theorem cohortRow_returns (metric : CohortMetric) (mode : CohortMode) (c : CohortFact) :
    Returns (cohortRow metric mode c) :=
  (perHead_returns _ _).bind fun _ =>
  (perHead_returns _ _).bind fun _ =>
  (incrPerHead_returns metric c).bind fun _ =>
  (Returns.mapM (fun v => perHead_returns v c.newCustomers) _).bind fun _ =>
  (cohortPaybackCentimonths_returns _ _ _ _ _ _).bind fun _ => .ok _

theorem averagePayback_returns (rows : List CohortRow) : Returns (averagePayback rows) := by
  by_cases hweight : 0 < ((paidBack rows).map (·.2)).sum
  · rw [averagePayback, if_pos hweight, floorDiv_of_pos _ hweight]
    exact .ok _
  · rw [averagePayback, if_neg hweight]
    exact .ok none

theorem execute_returns (facts : CohortFacts) (metric : CohortMetric) (mode : CohortMode) :
    Returns (execute facts metric mode) :=
  (Returns.mapM (cohortRow_returns metric mode) _).bind fun rows =>
  (averagePayback_returns rows).bind fun _ => .ok _

/-! ### The whole of it -/

theorem balance_le {firstOrder firstOrder' cac cac' : Int} {incr incr' : List Int} (hn : 0 < n)
    (hfirst : firstOrder ≤ firstOrder') (hcac : cac' ≤ cac)
    (hincr : ∀ i : Nat, incr[i]?.getD 0 ≤ incr'[i]?.getD 0) (k : Nat) :
    balance firstOrder cac incr n k ≤ balance firstOrder' cac' incr' n k := by
  induction k with
  | zero =>
    have hdiv := Int.ediv_le_ediv hn hfirst
    rw [balance, balance]
    omega
  | succ k ih =>
    have hdiv := Int.ediv_le_ediv hn (hincr k)
    rw [balance, balance]
    omega

/-- A cohort that is paid more, or costs less, pays back no later. -/
theorem payback_antitone {firstOrder firstOrder' cac cac' : Int} {incr incr' : List Int}
    (hn : 0 < n) (hfirst : firstOrder ≤ firstOrder') (hcac : cac' ≤ cac)
    (hincr : ∀ i : Nat, incr[i]?.getD 0 ≤ incr'[i]?.getD 0) {p p' : Option Int}
    (hp : cohortPaybackCentimonths firstOrder cac incr n .cm3 .post = .ok p)
    (hp' : cohortPaybackCentimonths firstOrder' cac' incr' n .cm3 .post = .ok p') :
    timeOf p' ≤ timeOf p := by
  have hle := balance_le hn hfirst hcac hincr
  have hstep : ∀ i, balance firstOrder cac incr n (i + 1) - balance firstOrder cac incr n i ≤
      balance firstOrder' cac' incr' n (i + 1) - balance firstOrder' cac' incr' n i := by
    intro i
    have hdiv := Int.ediv_le_ediv hn (hincr i)
    rw [balance, balance]
    omega
  rcases payback_cases firstOrder cac incr hn with ⟨k, hk, hcross, hval⟩ | ⟨-, hval⟩
  · rw [hval] at hp
    cases hp
    rcases payback_cases firstOrder' cac' incr' hn with ⟨j, -, hcross', hval'⟩ | ⟨hneg, -⟩
    · rw [hval'] at hp'
      cases hp'
      exact WithTop.coe_le_coe.mpr (paybackAt_le hcross hcross' hle hstep)
    · have hlt := hneg k hk
      have hge := hle k
      have hzero := hcross.1
      omega
  · rw [hval] at hp
    cases hp
    exact le_top

theorem cohort_payback (hn : 0 < n) :
    (∀ firstOrder cac incr, ∃ p,
      cohortPaybackCentimonths firstOrder cac incr n .cm3 .post = .ok p ∧
      (p = none ↔ ∀ k ≤ buckets, balance firstOrder cac incr n k < 0) ∧
      ∀ v, p = some v → ∃ k ≤ buckets, CrossesAt (balance firstOrder cac incr n) k ∧
        ((k : Int) - 1) * 100 ≤ v ∧ v ≤ k * 100) ∧
    (∀ firstOrder firstOrder' cac cac' incr incr' p p', firstOrder ≤ firstOrder' → cac' ≤ cac →
      (∀ i : Nat, incr[i]?.getD 0 ≤ incr'[i]?.getD 0) →
      cohortPaybackCentimonths firstOrder cac incr n .cm3 .post = .ok p →
      cohortPaybackCentimonths firstOrder' cac' incr' n .cm3 .post = .ok p' →
      timeOf p' ≤ timeOf p) ∧
    ∀ facts metric mode, Returns (execute facts metric mode) := by
  refine ⟨fun firstOrder cac incr => ?_, ?_, execute_returns⟩
  · rcases payback_cases firstOrder cac incr hn with ⟨k, hk, hcross, hval⟩ | ⟨hneg, hval⟩
    · refine ⟨_, hval, ?_, fun v hv => ?_⟩
      · exact iff_of_false (by simp) fun hneg => absurd hcross.1 (not_le.mpr (hneg k hk))
      · cases hv
        exact ⟨k, hk, hcross, paybackAt_mem hcross⟩
    · refine ⟨none, hval, iff_of_true rfl hneg, fun v hv => ?_⟩
      cases hv
  · intro _ _ _ _ _ _ _ _ hfirst hcac hincr hp hp'
    exact payback_antitone hn hfirst hcac hincr hp hp'

/-- Ten customers who each cost 60 pay 20 at once, nothing, and then 80 or 90. -/
theorem ten_customers_pay_back :
    cohortPaybackCentimonths 200 60 [0, 800] 10 .cm3 .post = .ok (some 150) ∧
      timeOf (some 144) ≤ timeOf (some 150) := by
  have hincr : ∀ i : Nat, [(0 : Int), 800][i]?.getD 0 ≤ [(0 : Int), 900][i]?.getD 0 := by
    intro i
    rcases i with _ | _ | i <;> simp
  refine ⟨by decide, ?_⟩
  exact (cohort_payback (n := 10) (by decide)).2.1 200 200 60 60 [0, 800] [0, 900] _ _
    (le_refl _) (le_refl _) hincr (by decide) (by decide)

end

end BrainV2.LivePlane.CohortMatrixQuery
