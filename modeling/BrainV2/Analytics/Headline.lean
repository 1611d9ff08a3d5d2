import BrainV2.Analytics.Facts
import BrainV2.Lib.Dict
import BrainV2.Lib.Versions
import Mathlib.Data.Prod.Lex

/-!
# Ad spend and the headline figures

* `readAdSpend`: the spend of a range;
* `spendByPeriod`: the map of the spend of each period that the period readers build;
* `toAdSpend_readAdSpend`, `getD_spendByPeriod`: both are sums over the rows of a vendor;
* `readStoreSummary`, `readPnl`;
* `sumMu`: the sum of a column;
* `netSalesOf_eq_sum`, `totalMu_adSpendOf`: the figures as sums over rows, one by one.
-/

namespace BrainV2.Analytics

open Py (Date)
open Sql (FactDateRange)
open Grouping

structure AdSpend where
  metaMu : Int
  googleMu : Int
deriving DecidableEq

def AdSpend.none : AdSpend := ⟨0, 0⟩

def AdSpend.totalMu (s : AdSpend) : Int := s.metaMu + s.googleMu

/-- The row of a vendor goes to its place. -/
def AdSpend.put (s : AdSpend) (row : String × Int) : AdSpend :=
  if row.1 = "META" then { s with metaMu := row.2 }
  else if row.1 = "GOOGLE" then { s with googleMu := row.2 }
  else s

/-- `sum(spend_mu)` -/
def spendMu (rows : List AdSpendFact) : Int := (rows.map (·.spendMu.toInt)).sum

/-- `pgDateClause('spend_date', range)` -/
def AdSpendFact.inRange (range : Option FactDateRange) (a : AdSpendFact) : Bool :=
  match range with
  | .none => true
  | some range => range.hasDate a.spendDate

structure AdSpendSummary extends AdSpend where
  currency : String
deriving DecidableEq

/-- The rows of one vendor, in the loop of `readAdSpend`. -/
def AdSpendSummary.put (s : AdSpendSummary) (group : String × List AdSpendFact) :
    AdSpendSummary where
  toAdSpend := s.toAdSpend.put (group.1, spendMu group.2)
  currency :=
    match (group.2.map (·.currencyCode)).max? with
    | .none => s.currency
    | some currency => if currency = "" then s.currency else currency

def readAdSpend (facts : Facts) (range : Option FactDateRange) : AdSpendSummary :=
  let rows := facts.adSpend.filter (·.inRange range)
  let groups := (keysOf AdSpendFact.vendor rows).map fun v => (v, groupOf AdSpendFact.vendor rows v)
  groups.foldl AdSpendSummary.put ⟨AdSpend.none, "INR"⟩

section

variable {κ : Type} [LinearOrder κ]

variable (total : List AdSpendFact → Int)

/-- The rows of a period and a vendor, totalled, and put into the entry of the period. -/
def spendByPeriod (period : AdSpendFact → κ) (rows : List AdSpendFact) : List (κ × AdSpend) :=
  let group := fun a => toLex (period a, AdSpendFact.vendor a)
  let sums := (keysOf group rows).map fun k =>
    ((ofLex k).1, (ofLex k).2, total (groupOf group rows k))
  sums.foldl (Dict.update AdSpend.none AdSpend.put) []

/-- The totals over the rows of each vendor. -/
def adSpendOf (rows : List AdSpendFact) : AdSpend where
  metaMu := total (groupOf AdSpendFact.vendor rows "META")
  googleMu := total (groupOf AdSpendFact.vendor rows "GOOGLE")

variable {total}

theorem foldl_put {entries : List (String × Int)} (h : (entries.map Prod.fst).Nodup)
    (s : AdSpend) : entries.foldl AdSpend.put s =
      ⟨(entries.lookup "META").getD s.metaMu, (entries.lookup "GOOGLE").getD s.googleMu⟩ := by
  induction entries generalizing s with
  | nil => rfl
  | cons entry entries ih =>
    obtain ⟨vendor, spend⟩ := entry
    obtain ⟨hvendor, hrest⟩ := List.nodup_cons.mp h
    have habsent : entries.lookup vendor = .none := by
      rw [List.lookup_eq_none_iff]
      intro other hother
      rw [bne_iff_ne]
      intro heq
      exact hvendor (List.mem_map.mpr ⟨other, hother, heq.symm⟩)
    rw [List.foldl_cons, ih hrest, AdSpend.put, List.lookup_cons, List.lookup_cons]
    by_cases hmeta : vendor = "META"
    · subst hmeta
      simp [habsent]
    · by_cases hgoogle : vendor = "GOOGLE"
      · subst hgoogle
        simp [habsent]
      · simp [hmeta, hgoogle, beq_false_of_ne (Ne.symm hmeta), beq_false_of_ne (Ne.symm hgoogle)]

theorem getD_lookup_groups {γ : Type} [LinearOrder γ] (h : total [] = 0) (key : AdSpendFact → γ)
    (rows : List AdSpendFact) (k : γ) :
    (((keysOf key rows).map fun k => (k, total (groupOf key rows k))).lookup k).getD 0 =
      total (groupOf key rows k) := by
  rw [Versions.lookup_map_self]
  split
  · rfl
  · next hk =>
    rw [groupOf_eq_nil.mpr hk, h]
    rfl

theorem toAdSpend_readAdSpend (facts : Facts) (range : Option FactDateRange) :
    (readAdSpend facts range).toAdSpend =
      adSpendOf spendMu (facts.adSpend.filter (·.inRange range)) := by
  have hproject : ∀ (groups : List (String × List AdSpendFact)) (s : AdSpendSummary),
      (groups.foldl AdSpendSummary.put s).toAdSpend =
        (groups.map fun g => (g.1, spendMu g.2)).foldl AdSpend.put s.toAdSpend := by
    intro groups
    induction groups with
    | nil => exact fun _ => rfl
    | cons group groups ih => exact fun s => ih (s.put group)
  rw [readAdSpend, hproject, List.map_map, foldl_put]
  · exact congrArg₂ AdSpend.mk (getD_lookup_groups rfl _ _ _) (getD_lookup_groups rfl _ _ _)
  · rw [List.map_map]
    exact (List.map_id _).symm ▸ nodup_keysOf _ _

/-- The vendors that have rows in a period. -/
def vendorsIn (period : AdSpendFact → κ) (rows : List AdSpendFact) (k : κ) : List String :=
  ((keysOf (fun a => toLex (period a, AdSpendFact.vendor a)) rows).filter
    fun x => (ofLex x).1 = k).map fun x => (ofLex x).2

variable {period : AdSpendFact → κ} {rows : List AdSpendFact} {k : κ}

theorem mem_vendorsIn {vendor : String} : vendor ∈ vendorsIn period rows k ↔
    toLex (k, vendor) ∈ keysOf (fun a => toLex (period a, AdSpendFact.vendor a)) rows := by
  rw [vendorsIn, List.mem_map]
  constructor
  · rintro ⟨x, hx, rfl⟩
    obtain ⟨hmem, hperiod⟩ := List.mem_filter.mp hx
    obtain rfl : (ofLex x).1 = k := of_decide_eq_true hperiod
    exact hmem
  · intro h
    exact ⟨toLex (k, vendor), List.mem_filter.mpr ⟨h, decide_eq_true rfl⟩, rfl⟩

theorem nodup_vendorsIn : (vendorsIn period rows k).Nodup := by
  apply List.Nodup.map_on
  · intro x hx y hy hvendor
    have hxk : (ofLex x).1 = k := of_decide_eq_true (List.mem_filter.mp hx).2
    have hyk : (ofLex y).1 = k := of_decide_eq_true (List.mem_filter.mp hy).2
    exact ofLex_inj.mp (Prod.ext (hxk.trans hyk.symm) hvendor)
  · exact (nodup_keysOf _ _).filter _

theorem groupOf_toLex (vendor : String) :
    groupOf (fun a => toLex (period a, AdSpendFact.vendor a)) rows (toLex (k, vendor)) =
      groupOf AdSpendFact.vendor (rows.filter (period · = k)) vendor := by
  rw [groupOf, groupOf, List.filter_filter]
  apply List.filter_congr
  intro a _
  rw [Bool.eq_iff_iff]
  simp [and_comm]

variable (total) in
theorem getD_spendByPeriod (h : total [] = 0) :
    ((spendByPeriod total period rows).lookup k).getD AdSpend.none =
      adSpendOf total (rows.filter (period · = k)) := by
  have hentries : (((keysOf (fun a => toLex (period a, AdSpendFact.vendor a)) rows).map fun x =>
        ((ofLex x).1, (ofLex x).2, total (groupOf (fun a => toLex (period a, a.vendor)) rows x))
        ).filter (·.1 = k)).map Prod.snd =
      (vendorsIn period rows k).map fun v =>
        (v, total (groupOf AdSpendFact.vendor (rows.filter (period · = k)) v)) := by
    rw [List.filter_map, List.map_map, vendorsIn, List.map_map]
    apply List.map_congr_left
    intro x hx
    obtain rfl : (ofLex x).1 = k := of_decide_eq_true (List.mem_filter.mp hx).2
    simp only [Function.comp_def]
    rw [← groupOf_toLex]
    rfl
  have hlookup : ∀ vendor, (((vendorsIn period rows k).map fun v =>
        (v, total (groupOf AdSpendFact.vendor (rows.filter (period · = k)) v))).lookup
          vendor).getD 0 =
      total (groupOf AdSpendFact.vendor (rows.filter (period · = k)) vendor) := by
    intro vendor
    rw [Versions.lookup_map_self]
    split
    · rfl
    · next hvendor =>
      rw [mem_vendorsIn, ← groupOf_eq_nil, groupOf_toLex] at hvendor
      rw [hvendor, h]
      rfl
  rw [spendByPeriod, Dict.getD_lookup_foldl_update, hentries, foldl_put]
  · exact congrArg₂ AdSpend.mk (hlookup "META") (hlookup "GOOGLE")
  · rw [List.map_map]
    exact (List.map_id _).symm ▸ nodup_vendorsIn

end

/-! ## The headline figures of a range -/

structure FactStoreSummary where
  hasData : Bool
  currencyCode : String
  grossSalesMu : Int
  totalDiscountMu : Int
  netSalesMu : Int
  totalTaxMu : Int
  netNetTaxMu : Int
  shippingRevenueMu : Int
  netRevenueMu : Int
  realizedRevenueMu : Int
  orderCount : Nat
  aovMu : Option Int
deriving DecidableEq

structure FactPnl where
  hasData : Bool
  currencyCode : String
  netRevenueMu : Int
  totalTaxMu : Int
  totalAdSpendMu : Int
  metaSpendMu : Int
  googleSpendMu : Int
  orderCount : Nat
deriving DecidableEq

/-- `sum` of a column of bigints, which is a `numeric`. -/
def sumMu (column : OrderFact → Int64) (rows : List OrderFact) : Int :=
  (rows.map fun o => (column o).toInt).sum

/-- `max(currency_code)`, or the default. -/
def currencyOf (rows : List OrderFact) : String :=
  ((rows.map (·.currencyCode)).max?).getD "INR"

/-- Gross sales less discounts. -/
def netSalesOf (rows : List OrderFact) : Int :=
  sumMu OrderFact.grossSalesMu rows - sumMu OrderFact.totalDiscountMu rows

def readStoreSummary (facts : Facts) (range : Option FactDateRange) : FactStoreSummary :=
  let rows := facts.orders.filter (·.inRange range)
  let realized := rows.filter (·.live)
  let gross := sumMu OrderFact.grossSalesMu rows
  let discount := sumMu OrderFact.totalDiscountMu rows
  let tax := sumMu OrderFact.totalTaxMu rows
  let shipping := sumMu OrderFact.shippingMu rows
  let realizedRevenue := netSalesOf realized
  { hasData := 0 < rows.length
    currencyCode := currencyOf rows
    grossSalesMu := gross
    totalDiscountMu := discount
    netSalesMu := gross - discount
    totalTaxMu := tax
    netNetTaxMu := gross - discount - tax
    shippingRevenueMu := shipping
    netRevenueMu := gross - discount - tax + shipping
    realizedRevenueMu := realizedRevenue
    orderCount := rows.length
    aovMu := if 0 < realized.length then some (realizedRevenue.tdiv realized.length) else none }

def readPnl (facts : Facts) (range : Option FactDateRange) : FactPnl :=
  let store := readStoreSummary facts range
  let spend := readAdSpend facts range
  { hasData := store.hasData
    currencyCode := store.currencyCode
    netRevenueMu := store.realizedRevenueMu
    totalTaxMu := store.totalTaxMu
    totalAdSpendMu := spend.metaMu + spend.googleMu
    metaSpendMu := spend.metaMu
    googleSpendMu := spend.googleMu
    orderCount := store.orderCount }

theorem netSalesOf_eq_sum (rows : List OrderFact) :
    netSalesOf rows = (rows.map (·.netMu)).sum := by
  induction rows with
  | nil => rfl
  | cons o rows ih =>
    simp only [netSalesOf, sumMu, OrderFact.netMu, List.map_cons, List.sum_cons] at ih ⊢
    omega

/-- What a row of ad spend adds to the two vendors together. -/
def AdSpendFact.countedMu (a : AdSpendFact) : Int :=
  if a.vendor = "META" ∨ a.vendor = "GOOGLE" then a.spendMu.toInt else 0

theorem totalMu_adSpendOf (rows : List AdSpendFact) :
    (adSpendOf spendMu rows).totalMu = (rows.map (·.countedMu)).sum := by
  induction rows with
  | nil => rfl
  | cons a rows ih =>
    rw [List.map_cons, List.sum_cons, ← ih]
    simp only [AdSpend.totalMu, adSpendOf, spendMu, groupOf, AdSpendFact.countedMu]
    by_cases hmeta : a.vendor = "META"
    · simp [hmeta, add_assoc]
    · by_cases hgoogle : a.vendor = "GOOGLE"
      · simp [hgoogle, add_left_comm]
      · simp [hmeta, hgoogle]

theorem totalAdSpendMu_readPnl (facts : Facts) (range : Option FactDateRange) :
    (readPnl facts range).totalAdSpendMu =
      ((facts.adSpend.filter (·.inRange range)).map (·.countedMu)).sum := by
  rw [← totalMu_adSpendOf, ← toAdSpend_readAdSpend]
  rfl

end BrainV2.Analytics
