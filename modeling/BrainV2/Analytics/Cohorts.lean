import BrainV2.Analytics.Acquisition

/-!
# Acquisition cohorts

The orders all have a time.

* `starts`: each customer's first order, and the second;
* `pivot`, `cohortRows`: what the code makes of the two statements;
* `readCohorts`, `readLtv`;
* `sum_foldl_addAt`, `getD_runningSums`: what the arrays hold of the revenue added to them.
-/

namespace BrainV2.Analytics

open Py (Date)
open Sql (Timestamp midnight days startOfMonth ageMonths)
open Grouping

namespace PlacedOrder

def customer (o : PlacedOrder) : String := o.order.customer

/-- `ORDER BY processed_at, vendor_order_id` -/
def place (o : PlacedOrder) : Timestamp ×ₗ String := toLex (o.placedAt, o.order.vendorOrderId)

def before (a b : PlacedOrder) : Prop := a.place ≤ b.place

instance : DecidableRel before := fun a b => inferInstanceAs (Decidable (a.place ≤ b.place))

instance : Std.Total before := ⟨fun a b => le_total a.place b.place⟩

instance : IsTrans PlacedOrder before := ⟨fun _ _ _ => le_trans⟩

theorem placedAt_le {a b : PlacedOrder} (h : a.before b) : a.placedAt ≤ b.placedAt := by
  cases Prod.Lex.toLex_le_toLex.mp h with
  | inl hlt => exact le_of_lt hlt
  | inr heq => exact le_of_eq heq.1

end PlacedOrder

/-- `customer_ref IS NOT NULL AND CANCELLED` -/
def knownOrders (orders : List PlacedOrder) : List PlacedOrder :=
  orders.filter fun o => o.order.live ∧ o.order.known

/-- The orders of a customer, numbered by their places. -/
def history (orders : List PlacedOrder) (customer : String) : List PlacedOrder :=
  (groupOf PlacedOrder.customer (knownOrders orders) customer).insertionSort PlacedOrder.before

/-- A row of `cust`. -/
structure CustomerStart where
  customer : String
  acq : Timestamp
  secondAt : Option Timestamp

def starts (orders : List PlacedOrder) : List CustomerStart :=
  (keysOf PlacedOrder.customer (knownOrders orders)).filterMap fun c =>
    ((groupOf PlacedOrder.customer (knownOrders orders) c).map (·.placedAt)).min?.map fun acq =>
      ⟨c, acq, (history orders c)[1]?.map (·.placedAt)⟩

namespace CustomerStart

/-- The month of the first order, by its first day. -/
def cohort (s : CustomerStart) : Date := startOfMonth s.acq.date

/-- `second_at <= acq + interval '90 days'` -/
def repeats (s : CustomerStart) : Bool := s.secondAt.any fun t => t.instant ≤ s.acq.instant + days 90

end CustomerStart

/-- Of each cohort its customers, and those that come back. -/
def cohortSizes (orders : List PlacedOrder) : List (Date × Nat × Nat) :=
  (keysOf CustomerStart.cohort (starts orders)).map fun k =>
    let group := groupOf CustomerStart.cohort (starts orders) k
    (k, group.length, (group.filter (·.repeats)).length)

structure RevenueRow where
  cohort : Date
  off : Int
  net : Int

def RevenueRow.key (r : RevenueRow) : Date ×ₗ Int := toLex (r.cohort, r.off)

/-- `MONTH_OFFSET` -/
def monthOffset (placedAt : Timestamp) (cohort : Date) : Int :=
  min 11 (max 0 (ageMonths placedAt (midnight cohort)))

/-- The orders joined with their customers' months. -/
def revenueRows (orders : List PlacedOrder) : List RevenueRow :=
  (starts orders).flatMap fun s =>
    (groupOf PlacedOrder.customer (knownOrders orders) s.customer).map fun o =>
      ⟨s.cohort, monthOffset o.placedAt s.cohort, o.order.netMu⟩

def cohortRevenue (orders : List PlacedOrder) : List (Date × Int × Int) :=
  (keysOf RevenueRow.key (revenueRows orders)).map fun k =>
    ((ofLex k).1, (ofLex k).2, ((groupOf RevenueRow.key (revenueRows orders) k).map (·.net)).sum)

/-! ### The code around the statements -/

structure FactCohortRow where
  cohortMonth : Date
  newCustomers : Nat
  rr90Bp : Option Nat
  m : List Int
deriving DecidableEq

def zeros : List Int := List.replicate 12 0

/-- `Math.max(0, Math.min(11, Number(row.off)))` -/
def clampOff (off : Int) : Nat := (max 0 (min 11 off)).toNat

/-- `arr[off] += BigInt(row.net)` -/
def addAt (arr : List Int) (row : Int × Int) : List Int := arr.modify (clampOff row.1) (· + row.2)

def pivot (revenue : List (Date × Int × Int)) : List (Date × List Int) :=
  revenue.foldl (Dict.update zeros addAt) []

/-- The running sums of the loop over the months. -/
def runningSums : Int → List Int → List Int
  | _, [] => []
  | running, x :: xs => (running + x) :: runningSums (running + x) xs

def cohortRows (sizes : List (Date × Nat × Nat)) (revenue : List (Date × Int × Int)) :
    List FactCohortRow :=
  let byCohort := pivot revenue
  sizes.map fun s =>
    { cohortMonth := s.1
      newCustomers := s.2.1
      rr90Bp := if 0 < s.2.1 then some (s.2.2 * 10000 / s.2.1) else none
      m := runningSums 0 ((byCohort.lookup s.1).getD zeros) }

def readCohorts (orders : List PlacedOrder) : Except PgError (List FactCohortRow) :=
  bigints ((revenueRows orders).map (·.net)) (cohortRows (cohortSizes orders) (cohortRevenue orders))

structure FactLtvRow where
  cohortMonth : Date
  newCustomers : Nat
  firstOrderMu : Int
  m : List Int
deriving DecidableEq

structure FactLtv where
  newCustomers : Nat
  firstOrderMu : Int
  month1Mu : Int
  month3Mu : Int
  month6Mu : Int
  month12Mu : Int
  rows : List FactLtvRow
deriving DecidableEq

/-- Division by a count, or the default when there is none. -/
def perCustomer (newCustomers : Nat) (default x : Int) : Int :=
  if 0 < newCustomers then x.tdiv newCustomers else default

def ltvOf (cohorts : List FactCohortRow) : FactLtv :=
  let totalCustomers := (cohorts.map (·.newCustomers)).sum
  let sumAt := fun month => (cohorts.map fun c => c.m.getD month 0).sum
  { newCustomers := totalCustomers
    firstOrderMu := perCustomer totalCustomers 0 (sumAt 0)
    month1Mu := perCustomer totalCustomers 0 (sumAt 1)
    month3Mu := perCustomer totalCustomers 0 (sumAt 3)
    month6Mu := perCustomer totalCustomers 0 (sumAt 6)
    month12Mu := perCustomer totalCustomers 0 (sumAt 11)
    rows := cohorts.map fun c =>
      { cohortMonth := c.cohortMonth
        newCustomers := c.newCustomers
        firstOrderMu := perCustomer c.newCustomers 0 (c.m.getD 0 0)
        m := c.m.map fun v => perCustomer c.newCustomers v v } }

def readLtv (orders : List PlacedOrder) : Except PgError FactLtv := do
  let cohorts ← readCohorts orders
  .ok (ltvOf cohorts)

/-! ### The arrays -/

theorem clampOff_lt (off : Int) : clampOff off < 12 := by
  unfold clampOff
  omega

theorem length_foldl_addAt (entries : List (Int × Int)) (arr : List Int) :
    (entries.foldl addAt arr).length = arr.length := by
  induction entries generalizing arr with
  | nil => rfl
  | cons entry entries ih => rw [List.foldl_cons, ih, addAt, List.length_modify]

theorem sum_modify {arr : List Int} {i : Nat} (h : i < arr.length) (x : Int) :
    (arr.modify i (· + x)).sum = arr.sum + x := by
  induction arr generalizing i with
  | nil => exact absurd h (Nat.not_lt_zero i)
  | cons a arr ih =>
    cases i with
    | zero =>
      rw [List.modify_zero_cons, List.sum_cons, List.sum_cons]
      omega
    | succ i =>
      rw [List.modify_succ_cons, List.sum_cons, List.sum_cons, ih (Nat.lt_of_succ_lt_succ h)]
      omega

theorem sum_foldl_addAt (entries : List (Int × Int)) {arr : List Int} (h : arr.length = 12) :
    (entries.foldl addAt arr).sum = arr.sum + (entries.map Prod.snd).sum := by
  induction entries generalizing arr with
  | nil => simp
  | cons entry entries ih =>
    have hlt : clampOff entry.1 < arr.length := by rw [h]; exact clampOff_lt entry.1
    have hlength : (addAt arr entry).length = 12 := by rw [addAt, List.length_modify, h]
    rw [List.foldl_cons, ih hlength, addAt, sum_modify hlt, List.map_cons, List.sum_cons]
    omega

theorem getD_addAt (arr : List Int) (entry : Int × Int) (h : arr.length = 12) :
    (addAt arr entry).getD 0 0 =
      arr.getD 0 0 + if clampOff entry.1 = 0 then entry.2 else 0 := by
  cases arr with
  | nil => cases h
  | cons a arr =>
    rw [addAt]
    cases hoff : clampOff entry.1 with
    | zero => simp
    | succ i => simp

theorem getD_foldl_addAt (entries : List (Int × Int)) {arr : List Int} (h : arr.length = 12) :
    (entries.foldl addAt arr).getD 0 0 =
      arr.getD 0 0 + ((entries.filter (clampOff ·.1 = 0)).map Prod.snd).sum := by
  induction entries generalizing arr with
  | nil => simp
  | cons entry entries ih =>
    have hlength : (addAt arr entry).length = 12 := by rw [addAt, List.length_modify, h]
    rw [List.foldl_cons, ih hlength, getD_addAt arr entry h]
    by_cases hoff : clampOff entry.1 = 0
    · simp [hoff, add_assoc]
    · simp [hoff]

theorem getD_runningSums {l : List Int} {i : Nat} (h : i < l.length) (running : Int) :
    (runningSums running l).getD i 0 = running + (l.take (i + 1)).sum := by
  induction l generalizing i running with
  | nil => exact absurd h (Nat.not_lt_zero i)
  | cons x l ih =>
    cases i with
    | zero => simp [runningSums]
    | succ i =>
      rw [runningSums, List.getD_cons_succ, ih (Nat.lt_of_succ_lt_succ h), List.take_succ_cons,
        List.sum_cons]
      omega

end BrainV2.Analytics
