import BrainV2.Analytics.Recency
import BrainV2.Lib.HalfEven
import BrainV2.Lib.Medians
import BrainV2.Metrics.Recompute
import BrainV2.Py.Values
import Mathlib.Data.Rat.Floor

/-!
# Churn thresholds and the lifecycle report

* `percentileLinear`: the percentile of a sorted list, its blend taken over the rationals;
* `computeChurnThresholds`: the two limits in days, from the gaps between orders;
* `classifyCustomerLifecycle`, `execute`: the state of a customer, and the report;
* `thresholds_ordered`, `thresholds_grow`: the limits are apart, and grow with the gaps;
* `executed_buckets`: a bucket of the report holds the customers that are so classified.
-/

namespace BrainV2.Lifecycle

open Analytics (LifecycleState)
open HalfEven (roundEven roundEven_mono)
open Percentiles (Grown blend_mono)
open Py (PyExc)

/-! ### Percentiles -/

/-- An index past the end has no percentile. -/
def percentileLinear (sortedAsc : List Int) (p : Nat) : Option ℚ :=
  let n := sortedAsc.length
  if n = 0 then some 0
  else if n = 1 then sortedAsc[0]?.map fun g : Int => (g : ℚ)
  else
    let pos : ℚ := p / 100 * (n - 1)
    let lo : Nat := ⌊pos⌋₊
    let hi : Nat := if (lo : ℚ) < pos then lo + 1 else lo
    if lo = hi then sortedAsc[lo]?.map fun g : Int => (g : ℚ)
    else do
      let low ← sortedAsc[lo]?
      let high ← sortedAsc[hi]?
      let w := pos - lo
      some ((low : ℚ) + w * ((high : ℚ) - low))

def minGapsForEmpirical : Nat := 20
def fallbackP40Days : Int := 45
def fallbackP80Days : Int := 120

structure ChurnThresholds where
  p40Days : Int
  p80Days : Int
  usedFallback : Bool
deriving DecidableEq

def computeChurnThresholds (repeatGapsDays : List Int) : Option ChurnThresholds :=
  let gaps := (repeatGapsDays.filter (0 ≤ ·)).insertionSort (· ≤ ·)
  if gaps.length < minGapsForEmpirical then some ⟨fallbackP40Days, fallbackP80Days, true⟩
  else do
    let at40 ← percentileLinear gaps 40
    let at80 ← percentileLinear gaps 80
    let p40 := max 1 (roundEven at40)
    let p80 := max (p40 + 1) (roundEven at80)
    some ⟨p40, p80, false⟩

/-! ### The report -/

def classifyCustomerLifecycle (orderCount daysSinceLast p40Days p80Days : Int) :
    Except PyExc LifecycleState :=
  if orderCount < 1 then
    .error ⟨.valueError, "classify_customer_lifecycle: order_count must be >= 1"⟩
  else
    let d := max 0 daysSinceLast
    if orderCount = 1 then
      .ok (if d ≤ p40Days then .new else if d ≤ p80Days then .atRisk else .churned)
    else .ok (if d ≤ p40Days then .active else if d ≤ p80Days then .atRisk else .churned)

structure CustomerFact where
  orderCount : Int
  daysSinceLastOrder : Int
  trailingRevenueMu : Int
  trailingOrderCount : Int

structure LifecycleFacts where
  repeatGapsDays : List Int
  customers : List CustomerFact
  unattributedRevenueMu : Int
  unattributedOrderCount : Int
  currencyCode : String

structure LifecycleBucketRow where
  bucket : LifecycleState
  customerCount : Int
  revenueMu : Int
  orderCount : Int
deriving DecidableEq

structure LifecycleStatesResult where
  workspaceId : String
  p40Days : Int
  p80Days : Int
  usedFallback : Bool
  buckets : List LifecycleBucketRow
  netActive : Int
  totalCustomers : Nat
  unattributedRevenueMu : Int
  unattributedOrderCount : Int
  currencyCode : String

def lifecycleBuckets : List LifecycleState := [.new, .active, .atRisk, .churned]

def LifecycleBucketRow.tally (row : LifecycleBucketRow) (bucket : LifecycleState)
    (c : CustomerFact) : LifecycleBucketRow :=
  if row.bucket = bucket then
    { row with
      customerCount := row.customerCount + 1
      revenueMu := row.revenueMu + c.trailingRevenueMu
      orderCount := row.orderCount + c.trailingOrderCount }
  else row

def tallyCustomer (p40Days p80Days : Int) (rows : List LifecycleBucketRow) (c : CustomerFact) :
    Except PyExc (List LifecycleBucketRow) := do
  let bucket ← classifyCustomerLifecycle c.orderCount c.daysSinceLastOrder p40Days p80Days
  .ok (rows.map (·.tally bucket c))

/-- The loop over the customers. -/
def tallied (p40Days p80Days : Int) (customers : List CustomerFact) :
    Except PyExc (List LifecycleBucketRow) :=
  customers.foldlM (tallyCustomer p40Days p80Days) (lifecycleBuckets.map fun b => ⟨b, 0, 0, 0⟩)

def unscopedQueryError : PyExc where
  cls := .other "UnscopedQueryError" true
  text := "LifecycleStatesQuery.execute: workspace_id must not be empty or None. " ++
    "An un-scoped query is a tenancy violation. CF-C4-QUERY-SCOPE-ISOLATION-1."

def indexError : PyExc := ⟨.other "IndexError" false, "list index out of range"⟩

/-- Of the scoped read only a failure counts. -/
def execute (queryMetrics : Except PyExc Unit) (workspaceId : String) (facts : LifecycleFacts) :
    Except PyExc LifecycleStatesResult := do
  if Metrics.isBlankText workspaceId then .error unscopedQueryError
  else
    queryMetrics
    match computeChurnThresholds facts.repeatGapsDays with
    | none => .error indexError
    | some t =>
      let buckets ← tallied t.p40Days t.p80Days facts.customers
      let count := fun b => ((buckets.filter (·.bucket = b)).map (·.customerCount)).sum
      .ok {
        workspaceId := workspaceId
        p40Days := t.p40Days
        p80Days := t.p80Days
        usedFallback := t.usedFallback
        buckets := buckets
        netActive := count .new + count .active
        totalCustomers := facts.customers.length
        unattributedRevenueMu := facts.unattributedRevenueMu
        unattributedOrderCount := facts.unattributedOrderCount
        currencyCode := facts.currencyCode }

/-! ### The thresholds -/

section

variable {gaps gaps' : List Int} {p : Nat} {q q' : ℚ}

/-- The rank of a percentile is inside the list, and so is the next one where it lies between. -/
theorem rank_lt {n : Nat} (hn : 2 ≤ n) (hp : p ≤ 100) :
    ⌊(p : ℚ) / 100 * (n - 1)⌋₊ < n ∧
      ((⌊(p : ℚ) / 100 * (n - 1)⌋₊ : ℚ) < (p : ℚ) / 100 * (n - 1) →
        ⌊(p : ℚ) / 100 * (n - 1)⌋₊ + 1 < n) := by
  have hn' : (2 : ℚ) ≤ n := by exact_mod_cast hn
  have hp' : (p : ℚ) / 100 ≤ 1 := by
    rw [div_le_one (by norm_num)]
    exact_mod_cast hp
  have hpos : (0 : ℚ) ≤ (p : ℚ) / 100 * (n - 1) := by
    have hpercent : (0 : ℚ) ≤ (p : ℚ) / 100 := by positivity
    exact mul_nonneg hpercent (by linarith)
  have hlast : (p : ℚ) / 100 * (n - 1) ≤ n - 1 := by
    have h := mul_le_mul_of_nonneg_right hp' (by linarith : (0 : ℚ) ≤ n - 1)
    linarith
  have hfloor := Nat.floor_le hpos
  constructor
  · have h : ((⌊(p : ℚ) / 100 * (n - 1)⌋₊ : ℕ) : ℚ) < n := by linarith
    exact_mod_cast h
  · intro hbelow
    have h : ((⌊(p : ℚ) / 100 * (n - 1)⌋₊ : ℕ) : ℚ) + 1 < n := by linarith
    exact_mod_cast h

/-- The percentile lies between two elements, which only the length of the list decides. -/
theorem percentileLinear_between (hp : p ≤ 100) {n : Nat} (hn : 0 < n) :
    ∃ (i j : Nat) (w : ℚ), i < n ∧ j < n ∧ 0 ≤ w ∧ w ≤ 1 ∧ ∀ (sorted : List Int)
      (hi : i < sorted.length) (hj : j < sorted.length), sorted.length = n →
        percentileLinear sorted p = some (sorted[i] + w * (sorted[j] - sorted[i])) := by
  by_cases hone : n = 1
  · refine ⟨0, 0, 0, hn, hn, le_refl _, zero_le_one, fun sorted hi hj hlength => ?_⟩
    simp [percentileLinear, hlength, hone]
  · obtain ⟨hlow, hhigh⟩ := rank_lt (by omega : 2 ≤ n) hp
    set pos : ℚ := (p : ℚ) / 100 * (n - 1) with hpos
    by_cases hbelow : (⌊pos⌋₊ : ℚ) < pos
    · have hfloor := Nat.lt_floor_add_one pos
      refine ⟨⌊pos⌋₊, ⌊pos⌋₊ + 1, pos - ⌊pos⌋₊, hlow, hhigh hbelow, by linarith, by linarith,
        fun sorted hi hj hlength => ?_⟩
      simp [percentileLinear, hlength, hone, hn.ne', ← hpos, hbelow, List.getElem?_eq_getElem hi,
        List.getElem?_eq_getElem hj]
    · refine ⟨⌊pos⌋₊, ⌊pos⌋₊, 0, hlow, hlow, le_refl _, zero_le_one, fun sorted hi hj hlength => ?_⟩
      simp [percentileLinear, hlength, hone, hn.ne', ← hpos, hbelow]

theorem exists_percentileLinear (hp : p ≤ 100) (sorted : List Int) :
    ∃ q, percentileLinear sorted p = some q := by
  by_cases hempty : sorted.length = 0
  · exact ⟨0, by rw [percentileLinear, if_pos hempty]⟩
  · obtain ⟨i, j, w, hi, hj, -, -, heq⟩ :=
      percentileLinear_between hp (Nat.pos_of_ne_zero hempty)
    exact ⟨_, heq sorted hi hj rfl⟩

/-- A percentile grows with the list. -/
theorem percentileLinear_mono (hp : p ≤ 100) (hgrown : Grown gaps gaps')
    (h : percentileLinear (gaps.insertionSort (· ≤ ·)) p = some q)
    (h' : percentileLinear (gaps'.insertionSort (· ≤ ·)) p = some q') : q ≤ q' := by
  have hlength : (gaps.insertionSort (· ≤ ·)).length = (gaps'.insertionSort (· ≤ ·)).length := by
    rw [List.length_insertionSort, List.length_insertionSort, hgrown.length_eq]
  by_cases hempty : (gaps'.insertionSort (· ≤ ·)).length = 0
  · rw [percentileLinear, if_pos (hlength.trans hempty)] at h
    rw [percentileLinear, if_pos hempty] at h'
    cases h
    cases h'
    exact le_refl _
  · obtain ⟨i, j, w, hi, hj, hw, hw', heq⟩ :=
      percentileLinear_between hp (Nat.pos_of_ne_zero hempty)
    have hlow := hgrown.getElem_le (by rwa [hlength]) hi
    have hhigh := hgrown.getElem_le (by rwa [hlength]) hj
    rw [heq _ (by rwa [hlength]) (by rwa [hlength]) hlength, Option.some.injEq] at h
    rw [heq _ hi hj rfl, Option.some.injEq] at h'
    rw [← h, ← h']
    exact blend_mono (by exact_mod_cast hlow) (by exact_mod_cast hhigh) hw hw'

theorem computeChurnThresholds_eq (gaps : List Int) :
    ∃ at40 at80, percentileLinear ((gaps.filter (0 ≤ ·)).insertionSort (· ≤ ·)) 40 = some at40 ∧
      percentileLinear ((gaps.filter (0 ≤ ·)).insertionSort (· ≤ ·)) 80 = some at80 ∧
      computeChurnThresholds gaps = some (
        if (gaps.filter (0 ≤ ·)).length < minGapsForEmpirical then
          ⟨fallbackP40Days, fallbackP80Days, true⟩
        else ⟨max 1 (roundEven at40), max (max 1 (roundEven at40) + 1) (roundEven at80), false⟩) := by
  obtain ⟨at40, h40⟩ := exists_percentileLinear (p := 40) (by decide)
    ((gaps.filter (0 ≤ ·)).insertionSort (· ≤ ·))
  obtain ⟨at80, h80⟩ := exists_percentileLinear (p := 80) (by decide)
    ((gaps.filter (0 ≤ ·)).insertionSort (· ≤ ·))
  refine ⟨at40, at80, h40, h80, ?_⟩
  simp only [computeChurnThresholds, List.length_insertionSort, h40, h80]
  split <;> rfl

/-- The thresholds are days, and apart. -/
theorem thresholds_ordered (gaps : List Int) :
    ∃ t, computeChurnThresholds gaps = some t ∧ 1 ≤ t.p40Days ∧ t.p40Days < t.p80Days := by
  obtain ⟨at40, at80, -, -, heq⟩ := computeChurnThresholds_eq gaps
  refine ⟨_, heq, ?_⟩
  split
  · decide
  · simp only
    omega

/-- They grow with the gaps, where no gap joins those that count. -/
theorem thresholds_grow {t t' : ChurnThresholds} (hgrown : Grown gaps gaps')
    (hcount : (gaps.filter (0 ≤ ·)).length = (gaps'.filter (0 ≤ ·)).length)
    (h : computeChurnThresholds gaps = some t) (h' : computeChurnThresholds gaps' = some t') :
    t.p40Days ≤ t'.p40Days ∧ t.p80Days ≤ t'.p80Days := by
  obtain ⟨at40, at80, h40, h80, heq⟩ := computeChurnThresholds_eq gaps
  obtain ⟨at40', at80', h40', h80', heq'⟩ := computeChurnThresholds_eq gaps'
  have hkept : Grown (gaps.filter (0 ≤ ·)) (gaps'.filter (0 ≤ ·)) :=
    hgrown.filter (fun a b hab ha => by simp only [decide_eq_true_eq] at ha ⊢; omega) hcount
  have hround40 := roundEven_mono (percentileLinear_mono (by decide) hkept h40 h40')
  have hround80 := roundEven_mono (percentileLinear_mono (by decide) hkept h80 h80')
  rw [heq, hcount, Option.some.injEq] at h
  rw [heq', Option.some.injEq] at h'
  rw [← h, ← h']
  split
  · exact ⟨le_refl _, le_refl _⟩
  · simp only
    omega

end

/-! ### The buckets -/

/-- The customers of a state. -/
def classified (p40Days p80Days : Int) (customers : List CustomerFact) (b : LifecycleState) :
    List CustomerFact :=
  customers.filter fun c =>
    classifyCustomerLifecycle c.orderCount c.daysSinceLastOrder p40Days p80Days = .ok b

/-- What a row is after the customers of its state. -/
def LifecycleBucketRow.plus (row : LifecycleBucketRow) (group : List CustomerFact) :
    LifecycleBucketRow :=
  { row with
    customerCount := row.customerCount + group.length
    revenueMu := row.revenueMu + (group.map (·.trailingRevenueMu)).sum
    orderCount := row.orderCount + (group.map (·.trailingOrderCount)).sum }

theorem classify_ok {orderCount : Int} (h : 1 ≤ orderCount) (days p40Days p80Days : Int) :
    ∃ b, classifyCustomerLifecycle orderCount days p40Days p80Days = .ok b := by
  rw [classifyCustomerLifecycle, if_neg (by omega)]
  simp only
  split <;> exact ⟨_, rfl⟩

section

variable {p40Days p80Days : Int} {customers : List CustomerFact}

theorem plus_tally {c : CustomerFact} {b : LifecycleState}
    (hb : classifyCustomerLifecycle c.orderCount c.daysSinceLastOrder p40Days p80Days = .ok b)
    (row : LifecycleBucketRow) :
    (row.tally b c).plus (classified p40Days p80Days customers (row.tally b c).bucket) =
      row.plus (classified p40Days p80Days (c :: customers) row.bucket) := by
  unfold LifecycleBucketRow.tally
  by_cases hrow : row.bucket = b
  · have hmine : classified p40Days p80Days (c :: customers) row.bucket =
        c :: classified p40Days p80Days customers row.bucket := by
      rw [classified, List.filter_cons_of_pos (by simp [hb, hrow])]
      rfl
    rw [if_pos hrow, hmine]
    simp only [LifecycleBucketRow.plus, List.length_cons, List.map_cons, List.sum_cons,
      LifecycleBucketRow.mk.injEq, true_and]
    omega
  · have hother : classified p40Days p80Days (c :: customers) row.bucket =
        classified p40Days p80Days customers row.bucket := by
      rw [classified, List.filter_cons_of_neg (by simp [hb, Ne.symm hrow])]
      rfl
    rw [if_neg hrow, hother]

theorem foldlM_tally (h : ∀ c ∈ customers, 1 ≤ c.orderCount) (rows : List LifecycleBucketRow) :
    customers.foldlM (tallyCustomer p40Days p80Days) rows =
      .ok (rows.map fun row => row.plus (classified p40Days p80Days customers row.bucket)) := by
  induction customers generalizing rows with
  | nil =>
    have hsame : ∀ row : LifecycleBucketRow,
        row.plus (classified p40Days p80Days [] row.bucket) = row := by
      intro row
      simp [LifecycleBucketRow.plus, classified]
    simp only [hsame, List.map_id', List.foldlM_nil]
    rfl
  | cons c customers ih =>
    obtain ⟨b, hb⟩ := classify_ok (h c List.mem_cons_self) c.daysSinceLastOrder p40Days p80Days
    have htail := ih (fun c hc => h c (List.mem_cons_of_mem _ hc)) (rows.map (·.tally b c))
    have hstep : tallyCustomer p40Days p80Days rows c = .ok (rows.map (·.tally b c)) := by
      rw [tallyCustomer, hb]
      rfl
    rw [List.foldlM_cons, hstep]
    refine htail.trans ?_
    rw [List.map_map]
    congr 1
    exact List.map_congr_left fun row _ => plus_tally hb row

/-- A bucket of the report holds the customers that are so classified. -/
theorem executed_buckets (h : ∀ c ∈ customers, 1 ≤ c.orderCount) :
    tallied p40Days p80Days customers = .ok (lifecycleBuckets.map fun b =>
      (⟨b, 0, 0, 0⟩ : LifecycleBucketRow).plus (classified p40Days p80Days customers b)) := by
  rw [tallied, foldlM_tally h, List.map_map]
  rfl

end

end BrainV2.Lifecycle
