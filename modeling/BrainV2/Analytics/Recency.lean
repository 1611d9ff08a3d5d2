import BrainV2.Analytics.ChFacts
import BrainV2.Lib.Versions

/-!
# Lifecycle states in both stores

* `stateRows`: each customer's state, by the time since the last order;
* `readLifecycleStates`, `readLifecycleStatesCH`;
* `withinCH_of_within`: in whole seconds a customer is never older;
* `states_iff`: the states are the same when no customer is late by less than a second;
* `lifecycle_iff`: when the answers are.
-/

namespace BrainV2.Analytics

open Sql (Timestamp days)
open Grouping
open Versions (groupBy)
open Wrapping (Fits)

/-! ### The readers -/

inductive LifecycleState where
  | new
  | active
  | atRisk
  | churned
deriving DecidableEq

/-- A row of `cust`, of which the net is stored as `ν`. -/
structure CustomerRecency (ν : Type) where
  lastAt : Timestamp
  orders : Nat
  net : ν

/-- A row of `b`. -/
structure StateRow (ν : Type) where
  bucket : LifecycleState
  orders : Nat
  net : ν

/-- The `CASE` of the states, of which no condition holds when there is no `n`. -/
def stateBy (within : Nat → Bool) : LifecycleState :=
  if within 30 then .new else if within 90 then .active else if within 180 then .atRisk else .churned

/-- `(nowref.n - last_at) <= interval 'd days'` -/
def within (lastAt : Timestamp) (d : Nat) (n : Timestamp) : Bool := n.instant - lastAt.instant ≤ days d

/-- `dateDiff('second', last_at, nowref.n) <= d * 86400` -/
def withinCH (lastAt : Timestamp) (d : Nat) (n : Timestamp) : Bool :=
  n.seconds - lastAt.seconds ≤ d * 86400

section

variable {ν : Type}

/-- `nowref` -/
def nowRef (cust : List (CustomerRecency ν)) : Option Timestamp := (cust.map (·.lastAt)).max?

def stateRows (within : Timestamp → Nat → Timestamp → Bool) (cust : List (CustomerRecency ν)) :
    List (StateRow ν) :=
  cust.map fun c => ⟨stateBy fun d => (nowRef cust).any (within c.lastAt d), c.orders, c.net⟩

structure BucketSums where
  cnt : Nat
  rev : Int
  ord : Nat

def bucketSums (total : List ν → Int) (rows : List (StateRow ν)) : BucketSums :=
  ⟨rows.length, total (rows.map (·.net)), (rows.map (·.orders)).sum⟩

end

structure FactLifecycleBucket where
  bucket : LifecycleState
  customerCount : Nat
  revenueMu : Int
  orderCount : Nat
deriving DecidableEq

structure FactLifecycle where
  buckets : List FactLifecycleBucket
  totalCustomers : Nat
  netActive : Nat
deriving DecidableEq

def lifecycleBucket (byBucket : List (LifecycleState × BucketSums)) (name : LifecycleState) :
    FactLifecycleBucket :=
  let r := (byBucket.lookup name).getD ⟨0, 0, 0⟩
  ⟨name, r.cnt, r.rev, r.ord⟩

def lifecycleOf (byBucket : List (LifecycleState × BucketSums)) : FactLifecycle :=
  let buckets := [.new, .active, .atRisk, .churned].map (lifecycleBucket byBucket)
  { buckets := buckets
    totalCustomers := (buckets.map (·.customerCount)).sum
    netActive := ((buckets.take 2).map (·.customerCount)).sum }

def recencies (orders : List PlacedOrder) : List (CustomerRecency Int) :=
  (keysOf PlacedOrder.customer (knownOrders orders)).filterMap fun c =>
    let group := groupOf PlacedOrder.customer (knownOrders orders) c
    (group.map (·.placedAt)).max?.map fun lastAt =>
      ⟨lastAt, group.length, (group.map (·.order.netMu)).sum⟩

def readLifecycleStates (orders : List PlacedOrder) : Except PgError FactLifecycle :=
  bigints ((knownOrders orders).map (·.order.netMu))
    (lifecycleOf (groupBy (·.bucket) (bucketSums List.sum) (stateRows within (recencies orders))))

def recenciesCH (orders : List ChOrderFact) : List (CustomerRecency Int64) :=
  (keysOf ChOrderFact.customerRef (chKnownOrders orders)).filterMap fun c =>
    let group := groupOf ChOrderFact.customerRef (chKnownOrders orders) c
    (group.map (·.placedAt)).max?.map fun lastAt =>
      ⟨lastAt, group.length, (group.map (·.netMu)).sum⟩

def readLifecycleStatesCH (orders : List ChOrderFact) : FactLifecycle :=
  lifecycleOf (groupBy (·.bucket) (bucketSums sumInt64) (stateRows withinCH (recenciesCH orders)))

/-! ### The states -/

theorem within_iff {lastAt n : Timestamp} {d : Nat} :
    within lastAt d n = true ↔ n.instant - lastAt.instant ≤ 86400000000 * d := decide_eq_true_iff

theorem withinCH_iff {lastAt n : Timestamp} {d : Nat} : withinCH lastAt d n = true ↔
    n.instant / 1000000 - lastAt.instant / 1000000 ≤ d * 86400 := decide_eq_true_iff

/-- What is within days is within them in whole seconds. -/
theorem withinCH_of_within {lastAt n : Timestamp} {d : Nat} (h : within lastAt d n = true) :
    withinCH lastAt d n = true := by
  rw [within_iff] at h
  rw [withinCH_iff]
  omega

theorem within_mono {lastAt n : Timestamp} {d e : Nat} (hde : d ≤ e)
    (h : within lastAt d n = true) : within lastAt e n = true := by
  rw [within_iff] at h ⊢
  omega

theorem withinCH_mono {lastAt n : Timestamp} {d e : Nat} (hde : d ≤ e)
    (h : withinCH lastAt d n = true) : withinCH lastAt e n = true := by
  rw [withinCH_iff] at h ⊢
  omega

def LifecycleState.rank : LifecycleState → Nat
  | new => 0
  | active => 1
  | atRisk => 2
  | churned => 3

theorem LifecycleState.rank_injective : Function.Injective rank := by
  intro s t h
  cases s <;> cases t <;> first | rfl | cases h

/-- Where more is within, the states are no older. -/
theorem rank_stateBy_le {w w' : Nat → Bool} (h : ∀ d, w d = true → w' d = true) :
    (stateBy w').rank ≤ (stateBy w).rank := by
  have h30 := h 30
  have h90 := h 90
  have h180 := h 180
  unfold stateBy
  split
  · exact Nat.zero_le _
  · grind [LifecycleState.rank]

theorem stateBy_eq_iff {w w' : Nat → Bool} (hw : ∀ d e, d ≤ e → w d = true → w e = true)
    (hw' : ∀ d e, d ≤ e → w' d = true → w' e = true) (h : ∀ d, w d = true → w' d = true) :
    stateBy w' = stateBy w ↔ ∀ d ∈ [30, 90, 180], w' d = true → w d = true := by
  have h30 := h 30
  have h90 := h 90
  have h180 := h 180
  have hw30 := hw 30 90 (by decide)
  have hw90 := hw 90 180 (by decide)
  have hw30' := hw' 30 90 (by decide)
  have hw90' := hw' 90 180 (by decide)
  simp only [List.forall_mem_cons]
  unfold stateBy
  grind

/-! ### The same states -/

section

variable {ν : Type}

/-- The state of a customer among others. -/
def stateIn (within : Timestamp → Nat → Timestamp → Bool) (cust : List (CustomerRecency ν))
    (c : CustomerRecency ν) : LifecycleState :=
  stateBy fun d => (nowRef cust).any (within c.lastAt d)

/-- The customers of a state. -/
def inState (within : Timestamp → Nat → Timestamp → Bool) (cust : List (CustomerRecency ν))
    (s : LifecycleState) : List (CustomerRecency ν) := cust.filter (stateIn within cust · = s)

theorem lifecycleBucket_groupBy (total : List ν → Int) (htotal : total [] = 0)
    (rows : List (StateRow ν)) (s : LifecycleState) :
    lifecycleBucket (groupBy (·.bucket) (bucketSums total) rows) s =
      ⟨s, (rows.filter (·.bucket = s)).length, total ((rows.filter (·.bucket = s)).map (·.net)),
        ((rows.filter (·.bucket = s)).map (·.orders)).sum⟩ := by
  have hnone : bucketSums total [] = ⟨0, 0, 0⟩ := by rw [bucketSums, List.map_nil, htotal]; rfl
  rw [lifecycleBucket, ← hnone, Versions.getD_lookup_groupBy]
  rfl

theorem lifecycleBucket_eq (total : List ν → Int) (htotal : total [] = 0)
    (within : Timestamp → Nat → Timestamp → Bool) (cust : List (CustomerRecency ν))
    (s : LifecycleState) :
    lifecycleBucket (groupBy (·.bucket) (bucketSums total) (stateRows within cust)) s =
      ⟨s, (inState within cust s).length, total ((inState within cust s).map (·.net)),
        ((inState within cust s).map (·.orders)).sum⟩ := by
  have hgroup : (stateRows within cust).filter (·.bucket = s) =
      (inState within cust s).map fun c => ⟨stateIn within cust c, c.orders, c.net⟩ := by
    rw [stateRows, List.filter_map]
    rfl
  rw [lifecycleBucket_groupBy total htotal, hgroup, List.length_map, List.map_map, List.map_map]
  rfl

end

theorem lifecycleOf_inj {a b : List (LifecycleState × BucketSums)} :
    lifecycleOf a = lifecycleOf b ↔ ∀ s, lifecycleBucket a s = lifecycleBucket b s := by
  constructor
  · intro h
    have hbuckets := congrArg FactLifecycle.buckets h
    simp only [lifecycleOf, List.map_inj_left] at hbuckets
    intro s
    apply hbuckets
    cases s <;> decide
  · intro h
    rw [lifecycleOf, lifecycleOf, funext h]

/-- What is stored of a customer's sums in ClickHouse. -/
def CustomerRecency.ch (r : CustomerRecency Int) : CustomerRecency Int64 :=
  ⟨r.lastAt, r.orders, Int64.ofInt r.net⟩

section

variable {orders : List SharedOrder} {cust : List (CustomerRecency Int)} {s : LifecycleState}

theorem recencies_ch : recenciesCH (Shared.ch orders) = (recencies (Shared.pg orders)).map (·.ch) := by
  rw [recenciesCH, recencies, keysOf_ch, keysOf_pg, List.map_filterMap]
  congr 1
  funext c
  have hnets : ((Shared.ofCustomer orders c).map (·.ch.netMu)).sum =
      Int64.ofInt ((Shared.ofCustomer orders c).map (·.netMu)).sum := by
    rw [← Wrapping.sum_ofInt, List.map_map]
    congr 1
    exact List.map_congr_left fun o _ => o.netMu_ch
  simp only [groupOf_ch, groupOf_pg, List.map_map, List.length_map, Option.map_map]
  congr 1
  funext lastAt
  simp only [Function.comp_apply, CustomerRecency.ch, CustomerRecency.mk.injEq, true_and]
  exact hnets

theorem inState_ch : inState withinCH (cust.map (·.ch)) s =
    (cust.filter (stateIn withinCH cust · = s)).map (·.ch) := by
  have hnow : nowRef (cust.map (·.ch)) = nowRef cust := by
    rw [nowRef, nowRef, List.map_map]
    rfl
  rw [inState, List.filter_map]
  congr 1
  apply List.filter_congr
  intro c _
  simp only [Function.comp_apply, stateIn, hnow]
  rfl

/-- No customer is older than some days by less than a second. -/
def Apart (cust : List (CustomerRecency Int)) : Prop :=
  ∀ c ∈ cust, ∀ d ∈ [30, 90, 180], (nowRef cust).any (withinCH c.lastAt d) = true →
    (nowRef cust).any (within c.lastAt d) = true

theorem any_mono {within : Timestamp → Nat → Timestamp → Bool} {lastAt : Timestamp}
    (h : ∀ d e n, d ≤ e → within lastAt d n = true → within lastAt e n = true) {d e : Nat}
    (hde : d ≤ e) {n : Option Timestamp} (hn : n.any (within lastAt d) = true) :
    n.any (within lastAt e) = true := by
  cases n with
  | none => cases hn
  | some n => exact h d e n hde hn

theorem any_withinCH {lastAt : Timestamp} {d : Nat} {n : Option Timestamp}
    (h : n.any (within lastAt d) = true) : n.any (withinCH lastAt d) = true := by
  cases n with
  | none => cases h
  | some n => exact withinCH_of_within h

theorem sameState_iff {c : CustomerRecency Int} :
    stateIn withinCH cust c = stateIn within cust c ↔
      ∀ d ∈ [30, 90, 180], (nowRef cust).any (withinCH c.lastAt d) = true →
        (nowRef cust).any (within c.lastAt d) = true :=
  stateBy_eq_iff (fun _ _ hde => any_mono (fun _ _ _ => within_mono) hde)
    (fun _ _ hde => any_mono (fun _ _ _ => withinCH_mono) hde) fun _ => any_withinCH

theorem states_iff :
    (∀ s, (cust.filter (stateIn withinCH cust · = s)).length = (inState within cust s).length) ↔
      Apart cust := by
  have hrank : ∀ c ∈ cust, (stateIn withinCH cust c).rank ≤ (stateIn within cust c).rank :=
    fun c _ => rank_stateBy_le fun _ => any_withinCH
  have hall := length_filter_eq_all_iff LifecycleState.rank_injective hrank
  simp only [inState]
  rw [hall, Apart]
  exact forall₂_congr fun c _ => sameState_iff

theorem inState_of_apart (h : Apart cust) (s : LifecycleState) :
    cust.filter (stateIn withinCH cust · = s) = inState within cust s := by
  apply List.filter_congr
  intro c hc
  rw [sameState_iff.mpr (h c hc)]

/-- The net revenue of a state. -/
def stateMu (cust : List (CustomerRecency Int)) (s : LifecycleState) : Int :=
  ((inState within cust s).map (·.net)).sum

end

/-- The numbers fit, and no customer is between the states of the stores. -/
structure RecencyAgrees (orders : List SharedOrder) : Prop where
  nets : ∀ o ∈ Shared.known orders, Fits o.netMu
  apart : Apart (recencies (Shared.pg orders))
  totals : ∀ s, Fits (stateMu (recencies (Shared.pg orders)) s)

theorem lifecycle_iff (orders : List SharedOrder) :
    readLifecycleStates (Shared.pg orders) = .ok (readLifecycleStatesCH (Shared.ch orders)) ↔
      RecencyAgrees orders := by
  have hnets : (∀ v ∈ (knownOrders (Shared.pg orders)).map (·.order.netMu), Fits v) ↔
      ∀ o ∈ Shared.known orders, Fits o.netMu := by
    rw [knownOrders_pg, List.map_map]
    exact List.forall_mem_map
  have hwrapped : ∀ group : List (CustomerRecency Int),
      (group.map (·.ch)).map (·.net) = (group.map (·.net)).map Int64.ofInt := by
    intro group
    rw [List.map_map, List.map_map]
    rfl
  have horders : ∀ group : List (CustomerRecency Int),
      (group.map (·.ch)).map (·.orders) = group.map (·.orders) := by
    intro group
    rw [List.map_map]
    rfl
  rw [readLifecycleStates, bigints_ok_iff, hnets, readLifecycleStatesCH, recencies_ch, lifecycleOf_inj]
  simp only [lifecycleBucket_eq List.sum rfl, lifecycleBucket_eq sumInt64 rfl, inState_ch, hwrapped,
    horders, List.length_map, FactLifecycleBucket.mk.injEq, true_and]
  have htotal : ∀ values : List Int, values.sum = sumInt64 (values.map Int64.ofInt) ↔
      Fits values.sum := by
    intro values
    rw [eq_comm, sumInt64_eq_iff]
    simp
  constructor
  · rintro ⟨hfits, hbuckets⟩
    have hapart : Apart (recencies (Shared.pg orders)) :=
      states_iff.mp fun s => (hbuckets s).1.symm
    refine ⟨hfits, hapart, fun s => ?_⟩
    have hsum := (hbuckets s).2.1
    rw [inState_of_apart hapart] at hsum
    exact (htotal _).mp hsum
  · rintro ⟨hfits, hapart, htotals⟩
    refine ⟨hfits, fun s => ?_⟩
    rw [inState_of_apart hapart]
    exact ⟨rfl, (htotal _).mpr (htotals s), rfl⟩

end BrainV2.Analytics
