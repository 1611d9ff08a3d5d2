import BrainV2.Analytics.Cascade
import BrainV2.Analytics.ProductsAgree

/-!
# The cascade by either route

* `Shared.firsts`: the first orders, which both stores see where the window leaves none out;
* `LeadsEitherWay`: one line of an order comes first by either rule;
* `CascadeComparable`: where the stores compute one answer;
* `cascades_agree`: up to what ClickHouse does not compute;
* `SameSurfaces`: `READ_FROM_CH` changes no answer;
* `surfaces_agree`: what it changes where both stores compute from the same rows;
* `out_of_window`: the dates of a filter are one store's alone.
-/

namespace BrainV2.Analytics

open Js (Engine)
open Py (Date)
open Sql (Timestamp FactDateRange days roundAway roundFloat IsHalf)
open Grouping
open RowOrder (Arrangement orderBy)
open Wrapping (Fits)

/-! ### First orders -/

namespace Shared

variable (orders : List SharedOrder)

/-- The places of a customer's orders. -/
def placesOf (c : String) : List (Timestamp ×ₗ String) :=
  (ofCustomer orders c).map (·.placed.place)

def firsts : List FirstOrder :=
  (customers orders).filterMap fun c => firstOrder c (placesOf orders c)

end Shared

section

variable {orders : List SharedOrder} {window : Option FactDateRange} {c : String} {fo : FirstOrder}

theorem mem_firsts : fo ∈ Shared.firsts orders ↔ fo.customer ∈ Shared.customers orders ∧
    (Shared.placesOf orders fo.customer).min? = some (toLex (fo.time, fo.vendorOrderId)) := by
  rw [Shared.firsts, List.mem_filterMap]
  constructor
  · rintro ⟨c, hc, hfirst⟩
    rw [firstOrder, Option.map_eq_some_iff] at hfirst
    obtain ⟨place, hplace, rfl⟩ := hfirst
    exact ⟨hc, hplace⟩
  · rintro ⟨hc, hfirst⟩
    refine ⟨fo.customer, hc, ?_⟩
    rw [firstOrder, hfirst]
    rfl

theorem exists_first (hc : c ∈ Shared.customers orders) : ∃ fo ∈ Shared.firsts orders,
    fo.customer = c ∧ (Shared.placesOf orders c).min? = some (toLex (fo.time, fo.vendorOrderId)) := by
  cases hmin : (Shared.placesOf orders c).min? with
  | none =>
    have hnil : Shared.ofCustomer orders c = [] := by
      rw [List.min?_eq_none_iff, Shared.placesOf, List.map_eq_nil_iff] at hmin
      exact hmin
    exact absurd hc (groupOf_eq_nil.mp hnil)
  | some place => exact ⟨⟨c, (ofLex place).2, (ofLex place).1⟩, mem_firsts.mpr ⟨hc, hmin⟩, rfl, rfl⟩

/-- The least element of a list, where it is kept, is the least of what is kept. -/
theorem min?_filter {α : Type} [LinearOrder α] {l : List α} {p : α → Bool} {m : α}
    (h : l.min? = some m) (hp : p m = true) : (l.filter p).min? = some m := by
  obtain ⟨hmem, hle⟩ := List.min?_eq_some_iff.mp h
  rw [List.min?_eq_some_iff]
  exact ⟨List.mem_filter.mpr ⟨hmem, hp⟩, fun x hx => hle x (List.mem_of_mem_filter hx)⟩

/-- The window leaves no first order out. -/
def StartsIn (orders : List SharedOrder) (window : Option FactDateRange) : Prop :=
  ∀ fo ∈ Shared.firsts orders, window.all (·.has fo.time) = true

theorem firstOrders_pg (h : StartsIn orders window) :
    firstOrders (Shared.pg orders) window = Shared.firsts orders := by
  let inWindow : Timestamp ×ₗ String → Bool := fun place => window.all (·.has (ofLex place).1)
  have hkept : ∀ c ∈ Shared.customers orders, ∃ o ∈ Shared.ofCustomer orders c,
      inWindow o.placed.place = true := by
    intro c hc
    obtain ⟨fo, hfo, -, hmin⟩ := exists_first hc
    obtain ⟨o, ho, hplace⟩ := List.mem_map.mp (List.min?_eq_some_iff.mp hmin).1
    refine ⟨o, ho, ?_⟩
    rw [hplace]
    exact h fo hfo
  have hrows : (knownOrders (Shared.pg orders)).filter (fun o => window.all (·.has o.placedAt)) =
      ((Shared.known orders).filter fun o => inWindow o.placed.place).map (·.placed) := by
    rw [knownOrders_pg, List.filter_map]
    rfl
  have hkeys : keysOf (PlacedOrder.customer ∘ SharedOrder.placed)
      ((Shared.known orders).filter fun o => inWindow o.placed.place) = Shared.customers orders := by
    apply keysOf_congr
    intro c
    constructor
    · rintro ⟨o, ho, hcustomer⟩
      exact ⟨o, List.mem_of_mem_filter ho, hcustomer⟩
    · rintro ⟨o, ho, hcustomer⟩
      obtain ⟨first, hfirst, hin⟩ := hkept c (mem_keysOf.mpr ⟨o, ho, hcustomer⟩)
      obtain ⟨hknown, hof⟩ := mem_groupOf.mp hfirst
      exact ⟨first, List.mem_filter.mpr ⟨hknown, hin⟩, hof⟩
  rw [firstOrders, hrows, keysOf_map, hkeys, Shared.firsts]
  apply List.filterMap_congr
  intro c hc
  obtain ⟨fo, hfo, -, hmin⟩ := exists_first hc
  have hplaces : (groupOf PlacedOrder.customer (((Shared.known orders).filter fun o =>
      inWindow o.placed.place).map (·.placed)) c).map (·.place) =
        (Shared.placesOf orders c).filter inWindow := by
    rw [groupOf_map, List.map_map, ← groupOf_filter, Shared.placesOf, List.filter_map]
    rfl
  rw [hplaces, firstOrder, firstOrder, hmin, min?_filter hmin (h fo hfo)]

theorem firstOrdersCH_ch : firstOrdersCH (Shared.ch orders) = Shared.firsts orders := by
  rw [firstOrdersCH, keysOf_ch, Shared.firsts]
  apply List.filterMap_congr
  intro c _
  rw [groupOf_ch, List.map_map]
  rfl

end

/-! ### First products -/

instance : Std.Total lineBefore := ⟨fun l m => le_total l.rank m.rank⟩

instance : IsTrans FirstProductLine lineBefore := ⟨fun _ _ _ => le_trans⟩

instance : Std.Total lineIdLe := ⟨fun l m => le_total l.vendorLineId m.vendorLineId⟩

instance : IsTrans ChLineItemFact lineIdLe := ⟨fun _ _ _ => le_trans⟩

instance : Std.Total moreCustomers := ⟨fun r s => le_total s.customers r.customers⟩

instance : IsTrans CascadeRow moreCustomers := ⟨fun _ _ _ h h' => le_trans h' h⟩

def SharedLine.pid (l : SharedLine) : String := l.line.vendorProductId.getD ""

namespace SharedCatalog

variable (catalog : SharedCatalog)

def titleOf (pid : String) : String :=
  ((catalog.productsOf pid).head?.bind (·.product.title)).getD "(unknown)"

/-- The lines of an order that name a product. -/
def linesOf (fo : FirstOrder) : List SharedLine :=
  catalog.lines.filter fun l =>
    l.line.vendorOrderId = fo.vendorOrderId ∧ l.line.vendorProductId ≠ none

/-- The line of a first order as PostgreSQL joins it. -/
def firstLine (l : SharedLine) : FirstProductLine where
  pid := l.pid
  title := catalog.titleOf l.pid
  lineId := l.line.vendorLineId
  valueMu := l.line.quantity.toInt * l.line.unitPriceMu.toInt

/-- Of the lines of an order this one has the greatest value and the least id. -/
structure LeadsEitherWay (fo : FirstOrder) (l : SharedLine) : Prop where
  mem : l ∈ catalog.linesOf fo
  byValue : ∀ m ∈ catalog.linesOf fo, lineBefore (catalog.firstLine l) (catalog.firstLine m)
  byId : ∀ m ∈ catalog.linesOf fo, l.line.vendorLineId ≤ m.line.vendorLineId ∧
    (m.line.vendorLineId = l.line.vendorLineId → m.pid = l.pid)

/-- A first order has no line with a product, or one that leads either way; all are of the one
vendor that ClickHouse looks for. -/
def FirstProductClear (fo : FirstOrder) : Prop :=
  (catalog.linesOf fo = [] ∨ ∃ l, catalog.LeadsEitherWay fo l) ∧
    ∀ l ∈ catalog.linesOf fo, l.line.vendor = "SHOPIFY"

end SharedCatalog

section

variable {catalog : SharedCatalog} {fo : FirstOrder} {l : SharedLine} {pid : String}

theorem titleOf_eq {p : SharedProduct} {title : String} (hproducts : catalog.productsOf pid = [p])
    (htitle : p.product.title = some title) : catalog.titleOf pid = title := by
  rw [SharedCatalog.titleOf, hproducts, List.head?_cons, Option.bind_some, htitle]
  rfl

theorem linesOf_pid (hl : l ∈ catalog.linesOf fo) : l.line.vendorProductId = some l.pid := by
  have hpid := (of_decide_eq_true (List.mem_filter.mp hl).2).2
  obtain ⟨pid, hsome⟩ := Option.ne_none_iff_exists'.mp hpid
  rw [SharedLine.pid, hsome]
  rfl

theorem firstProductLines_pg (hknown : catalog.ProductsKnown) :
    firstProductLines catalog.pg fo = (catalog.linesOf fo).map catalog.firstLine := by
  have hline : ∀ l ∈ catalog.lines, ∀ pid, l.line.vendorProductId = some pid →
      (leftJoin (catalog.pg.products.filter fun pf =>
        pf.vendor = l.line.vendor ∧ pf.vendorProductId = pid)).map (fun pf =>
          (⟨pid, ((pf.bind (·.title)).or l.line.title).getD "(unknown)", l.line.vendorLineId,
            l.line.quantity.toInt * l.line.unitPriceMu.toInt⟩ : FirstProductLine)) =
        [catalog.firstLine l] := by
    intro l hl pid hpid
    obtain ⟨p, hproducts, hvendor, htitle⟩ := hknown l hl pid hpid
    obtain ⟨title, htitled⟩ := Option.ne_none_iff_exists'.mp htitle
    have hfound : catalog.pg.products.filter (fun pf =>
        pf.vendor = l.line.vendor ∧ pf.vendorProductId = pid) = [p.product] := by
      rw [SharedCatalog.pg, List.filter_map, ← List.map_singleton,
        ← productsOf_vendor hproducts hvendor]
      rfl
    have hlpid : l.pid = pid := by rw [SharedLine.pid, hpid]; rfl
    rw [hfound, SharedCatalog.firstLine, hlpid, titleOf_eq hproducts htitled]
    simp only [leftJoin, List.map_cons, List.map_nil, Option.bind_some, htitled, Option.some_or,
      Option.getD_some]
  have hpg : catalog.pg.lineItems = catalog.lines.map (·.line) := rfl
  rw [firstProductLines, hpg, SharedCatalog.linesOf]
  revert hline
  induction catalog.lines with
  | nil => exact fun _ => rfl
  | cons l lines ih =>
    intro hline
    have hrest := ih fun m hm => hline m (List.mem_cons_of_mem l hm)
    rw [List.map_cons, List.filter_cons, List.filter_cons]
    by_cases horder : l.line.vendorOrderId = fo.vendorOrderId
    · cases hpid : l.line.vendorProductId with
      | none => simpa [horder, hpid] using hrest
      | some pid =>
        have hfirst := hline l List.mem_cons_self pid hpid
        simp only [horder, decide_true, if_true, List.flatMap_cons, hpid, hfirst, hrest, ne_eq,
          reduceCtorEq, not_false_eq_true, and_self, List.map_cons, List.singleton_append]
    · simpa [horder] using hrest

/-- The lines of Shopify that ClickHouse chooses from. -/
theorem linesOf_ch (hvendor : ∀ l ∈ catalog.linesOf fo, l.line.vendor = "SHOPIFY") :
    catalog.chLines.filter (fun l =>
      l.vendor = "SHOPIFY" ∧ l.vendorOrderId = fo.vendorOrderId ∧ l.vendorProductId ≠ "") =
        (catalog.linesOf fo).map (·.ch) := by
  rw [SharedCatalog.chLines, List.filter_map, SharedCatalog.linesOf]
  congr 1
  apply List.filter_congr
  intro l hl
  rw [Function.comp_apply, Bool.eq_iff_iff, decide_eq_true_iff, decide_eq_true_iff]
  have hnamed : l.ch.vendorProductId ≠ "" ↔ l.line.vendorProductId ≠ none := by
    have hidentified := l.identified
    simp only [SharedLine.ch]
    cases hpid : l.line.vendorProductId with
    | none => simp
    | some pid =>
      rw [hpid] at hidentified
      simpa using hidentified
  constructor
  · rintro ⟨-, horder, hpid⟩
    exact ⟨horder, hnamed.mp hpid⟩
  · rintro ⟨horder, hpid⟩
    refine ⟨hvendor l ?_, horder, hnamed.mpr hpid⟩
    exact List.mem_filter.mpr ⟨hl, decide_eq_true ⟨horder, hpid⟩⟩

/-- The line that leads has the product that each store puts first. -/
theorem firstLine_of_leads (a : Arrangement) (h : catalog.LeadsEitherWay fo l) :
    ∃ line, (orderBy a lineBefore ((catalog.linesOf fo).map catalog.firstLine)).head? = some line ∧
      line.pid = l.pid ∧ line.title = catalog.titleOf l.pid := by
  have hleader := List.mem_map_of_mem (f := catalog.firstLine) h.mem
  obtain ⟨line, hhead, hmem, hfirst⟩ := RowOrder.exists_head?_orderBy a lineBefore hleader
  obtain ⟨m, hm, rfl⟩ := List.mem_map.mp hmem
  have hrank : (catalog.firstLine m).rank = (catalog.firstLine l).rank :=
    le_antisymm (hfirst _ hleader) (h.byValue m hm)
  have hpid : m.pid = l.pid := congrArg (fun rank => (ofLex (ofLex rank).2).1) hrank
  exact ⟨_, hhead, hpid, congrArg catalog.titleOf hpid⟩

theorem firstPidCH_of_leads (b : Arrangement) (h : catalog.LeadsEitherWay fo l)
    (hvendor : ∀ l ∈ catalog.linesOf fo, l.line.vendor = "SHOPIFY") :
    firstPidCH b catalog.chLines fo = some l.pid := by
  rw [firstPidCH, linesOf_ch hvendor]
  have hleader := List.mem_map_of_mem (f := SharedLine.ch) h.mem
  obtain ⟨line, hhead, hmem, hfirst⟩ := RowOrder.exists_head?_orderBy b lineIdLe hleader
  obtain ⟨m, hm, rfl⟩ := List.mem_map.mp hmem
  obtain ⟨hid, hsame⟩ := h.byId m hm
  rw [hhead]
  exact congrArg some (hsame (le_antisymm (hfirst _ hleader) hid))

end

/-! ### Customers -/

namespace SharedCatalog

variable (catalog : SharedCatalog)

/-- The customer of a first order whose first product is that of a line. -/
def customerOf (obsDays : Nat) (fo : FirstOrder) (l : SharedLine) : CascadeCustomer :=
  let observed := observedOrders (Shared.pg catalog.orders) obsDays fo
  { pid := l.pid
    orders := observed.length
    ltvMu := (observed.map (·.order.netMu)).sum
    title := catalog.titleOf l.pid
    second := ((observed.filter fun o => fo.time < o.placedAt).map (·.placedAt)).min? }

/-- What a customer's orders bring in. -/
def ltvMu (fo : FirstOrder) : Int :=
  ((Shared.ofCustomer catalog.orders fo.customer).map (·.netMu)).sum

/-- All orders of a customer are observed. -/
def ObservesAll (obsDays : Nat) (fo : FirstOrder) : Prop :=
  ∀ o ∈ Shared.ofCustomer catalog.orders fo.customer,
    o.placedAt.instant ≤ fo.time.instant + days obsDays

end SharedCatalog

/-- What ClickHouse knows of a customer. -/
def CascadeCustomer.ch (customer : CascadeCustomer) : CascadeCustomer :=
  { customer with title := "", second := none }

section

variable {catalog : SharedCatalog} {obsDays : Nat} {fo : FirstOrder} {l : SharedLine}

/-- A customer's first order is before the others. -/
theorem first_le (hfo : fo ∈ Shared.firsts catalog.orders) {o : SharedOrder}
    (ho : o ∈ Shared.ofCustomer catalog.orders fo.customer) :
    fo.time.instant ≤ o.placedAt.instant := by
  have hle := (List.min?_eq_some_iff.mp (mem_firsts.mp hfo).2).2 _
    (List.mem_map_of_mem (f := fun o : SharedOrder => o.placed.place) ho)
  cases Prod.Lex.le_iff.mp hle with
  | inl hbefore => exact le_of_lt hbefore
  | inr hsame => exact le_of_eq (congrArg Timestamp.instant hsame.1)

theorem observedOrders_pg (hfo : fo ∈ Shared.firsts catalog.orders)
    (hall : catalog.ObservesAll obsDays fo) :
    observedOrders (Shared.pg catalog.orders) obsDays fo =
      (Shared.ofCustomer catalog.orders fo.customer).map (·.placed) := by
  rw [observedOrders, groupOf_pg, List.filter_map]
  congr 1
  rw [List.filter_eq_self]
  intro o ho
  exact decide_eq_true ⟨first_le hfo ho, hall o ho⟩

theorem cascadeCustomer_of_leads (a : Arrangement) (hknown : catalog.ProductsKnown)
    (h : catalog.LeadsEitherWay fo l) :
    cascadeCustomer a (Shared.pg catalog.orders) catalog.pg obsDays fo =
      some (catalog.customerOf obsDays fo l) := by
  obtain ⟨line, hhead, hpid, htitle⟩ := firstLine_of_leads a h
  rw [cascadeCustomer, firstProductLines_pg hknown, hhead, Option.map_some, hpid, htitle]
  rfl

theorem cascadeCustomerCH_of_leads (b : Arrangement) (hfo : fo ∈ Shared.firsts catalog.orders)
    (hall : catalog.ObservesAll obsDays fo) (hfits : Fits (catalog.ltvMu fo))
    (hvendor : ∀ l ∈ catalog.linesOf fo, l.line.vendor = "SHOPIFY")
    (h : catalog.LeadsEitherWay fo l) :
    cascadeCustomerCH b (Shared.ch catalog.orders) catalog.chLines fo =
      some (catalog.customerOf obsDays fo l).ch := by
  have hsum : sumInt64 ((groupOf ChOrderFact.customerRef
      (chKnownOrders (Shared.ch catalog.orders)) fo.customer).map (·.netMu)) = catalog.ltvMu fo := by
    rw [groupOf_ch, List.map_map, SharedCatalog.ltvMu, ← sumInt64_of_fits hfits, List.map_map]
    congr 2
    funext o
    exact o.netMu_ch
  have hltv : ((observedOrders (Shared.pg catalog.orders) obsDays fo).map (·.order.netMu)).sum =
      catalog.ltvMu fo := by
    rw [observedOrders_pg hfo hall, List.map_map]
    rfl
  have horders : (groupOf ChOrderFact.customerRef (chKnownOrders (Shared.ch catalog.orders))
      fo.customer).length = (observedOrders (Shared.pg catalog.orders) obsDays fo).length := by
    rw [observedOrders_pg hfo hall, groupOf_ch, List.length_map, List.length_map]
  rw [cascadeCustomerCH, firstPidCH_of_leads b h hvendor, Option.map_some]
  simp only [hsum, horders]
  rw [CascadeCustomer.ch, SharedCatalog.customerOf]
  simp only [hltv]

theorem cascadeCustomer_of_nil (a : Arrangement) (hknown : catalog.ProductsKnown)
    (h : catalog.linesOf fo = []) :
    cascadeCustomer a (Shared.pg catalog.orders) catalog.pg obsDays fo = none := by
  rw [cascadeCustomer, firstProductLines_pg hknown, h, List.map_nil, RowOrder.orderBy_nil]
  rfl

theorem cascadeCustomerCH_of_nil (b : Arrangement) (h : catalog.linesOf fo = []) :
    cascadeCustomerCH b (Shared.ch catalog.orders) catalog.chLines fo = none := by
  rw [cascadeCustomerCH, firstPidCH, linesOf_ch (by rw [h]; exact fun _ hl => nomatch hl), h,
    List.map_nil, RowOrder.orderBy_nil]
  rfl

end

/-! ### Both routes -/

def SharedCatalog.customers (catalog : SharedCatalog) (obsDays : Nat) : List CascadeCustomer :=
  (Shared.firsts catalog.orders).filterMap
    (cascadeCustomer .plain (Shared.pg catalog.orders) catalog.pg obsDays)

/-- What of the facts, the window and the days makes the routes comparable. -/
structure CascadeComparable (catalog : SharedCatalog) (window : Option FactDateRange)
    (obsDays : Nat) : Prop where
  known : catalog.ProductsKnown
  starts : StartsIn catalog.orders window
  clear : ∀ fo ∈ Shared.firsts catalog.orders, catalog.FirstProductClear fo
  observed : ∀ fo ∈ Shared.firsts catalog.orders, catalog.ObservesAll obsDays fo
  ltvs : ∀ fo ∈ Shared.firsts catalog.orders, Fits (catalog.ltvMu fo)
  averages : ∀ pid ∈ keysOf CascadeCustomer.pid (catalog.customers obsDays),
    let values := (groupOf CascadeCustomer.pid (catalog.customers obsDays) pid).map (·.ltvMu)
    values.sum.natAbs < 2 ^ 52 ∧ ¬ IsHalf values.sum values.length
  /-- No two products have as many customers. -/
  distinct : ((keysOf CascadeCustomer.pid (catalog.customers obsDays)).map fun pid =>
    (groupOf CascadeCustomer.pid (catalog.customers obsDays) pid).length).Nodup

/-- A row without the second orders. -/
def CascadeRow.ch (r : CascadeRow) : CascadeRow := { r with seconds := [] }

section

variable {catalog : SharedCatalog} {window : Option FactDateRange} {obsDays : Nat}

theorem cascadeCustomers_pg (a : Arrangement) (h : CascadeComparable catalog window obsDays) :
    (Shared.firsts catalog.orders).filterMap
      (cascadeCustomer a (Shared.pg catalog.orders) catalog.pg obsDays) =
        catalog.customers obsDays := by
  apply List.filterMap_congr
  intro fo hfo
  cases (h.clear fo hfo).1 with
  | inl hnil =>
    rw [cascadeCustomer_of_nil a h.known hnil, cascadeCustomer_of_nil .plain h.known hnil]
  | inr hleads =>
    obtain ⟨l, hl⟩ := hleads
    rw [cascadeCustomer_of_leads a h.known hl, cascadeCustomer_of_leads .plain h.known hl]

theorem cascadeCustomers_ch (b : Arrangement) (h : CascadeComparable catalog window obsDays) :
    (Shared.firsts catalog.orders).filterMap
      (cascadeCustomerCH b (Shared.ch catalog.orders) catalog.chLines) =
        (catalog.customers obsDays).map (·.ch) := by
  rw [SharedCatalog.customers, List.map_filterMap]
  apply List.filterMap_congr
  intro fo hfo
  obtain ⟨hclear, hvendor⟩ := h.clear fo hfo
  cases hclear with
  | inl hnil =>
    rw [cascadeCustomer_of_nil .plain h.known hnil, cascadeCustomerCH_of_nil b hnil]
    rfl
  | inr hleads =>
    obtain ⟨l, hl⟩ := hleads
    rw [cascadeCustomer_of_leads .plain h.known hl, cascadeCustomerCH_of_leads b hfo
      (h.observed fo hfo) (h.ltvs fo hfo) hvendor hl]
    rfl

/-- The product of a customer is of a line, and gives the title. -/
theorem exists_line_of_customer (h : CascadeComparable catalog window obsDays)
    {customer : CascadeCustomer} (hcustomer : customer ∈ catalog.customers obsDays) :
    (∃ l ∈ catalog.lines, l.line.vendorProductId = some customer.pid) ∧
      customer.title = catalog.titleOf customer.pid := by
  obtain ⟨fo, hfo, hsome⟩ := List.mem_filterMap.mp hcustomer
  cases (h.clear fo hfo).1 with
  | inl hnil =>
    rw [cascadeCustomer_of_nil .plain h.known hnil] at hsome
    cases hsome
  | inr hleads =>
    obtain ⟨l, hl⟩ := hleads
    rw [cascadeCustomer_of_leads .plain h.known hl] at hsome
    obtain rfl := Option.some.inj hsome
    exact ⟨⟨l, List.mem_of_mem_filter hl.mem, linesOf_pid hl.mem⟩, rfl⟩

theorem titlePG_eq (h : CascadeComparable catalog window obsDays) {pid : String}
    (hpid : pid ∈ keysOf CascadeCustomer.pid (catalog.customers obsDays)) :
    titlePG pid (groupOf CascadeCustomer.pid (catalog.customers obsDays) pid) =
      catalog.titleOf pid := by
  have htitle : ∀ c ∈ groupOf CascadeCustomer.pid (catalog.customers obsDays) pid,
      c.title = catalog.titleOf pid := by
    intro c hc
    obtain ⟨hmem, rfl⟩ := mem_groupOf.mp hc
    exact (exists_line_of_customer h hmem).2
  obtain ⟨c, hc, hkey⟩ := mem_keysOf.mp hpid
  have hgroup := mem_groupOf.mpr ⟨hc, hkey⟩
  have hmax : ((groupOf CascadeCustomer.pid (catalog.customers obsDays) pid).map
      (·.title)).max? = some (catalog.titleOf pid) := by
    rw [List.max?_eq_some_iff]
    constructor
    · exact htitle c hgroup ▸ List.mem_map_of_mem (f := CascadeCustomer.title) hgroup
    · intro title hmem
      obtain ⟨d, hd, rfl⟩ := List.mem_map.mp hmem
      exact le_of_eq (htitle d hd)
  rw [titlePG, hmax, Option.getD_some]

theorem titleCH_eq (b : Arrangement) (h : CascadeComparable catalog window obsDays) {pid : String}
    (hpid : pid ∈ keysOf CascadeCustomer.pid (catalog.customers obsDays)) :
    titleCH b catalog.chLines catalog.chProducts pid = catalog.titleOf pid := by
  obtain ⟨c, hc, rfl⟩ := mem_keysOf.mp hpid
  obtain ⟨⟨l, hl, hlpid⟩, -⟩ := exists_line_of_customer h hc
  obtain ⟨p, hproducts, -, htitle⟩ := h.known l hl _ hlpid
  obtain ⟨title, htitled⟩ := Option.ne_none_iff_exists'.mp htitle
  have hfound : (catalog.chProducts.filter (·.vendorProductId = c.pid)).map (·.title) = [title] := by
    have hch : p.ch.title = title := by rw [SharedProduct.ch, htitled]; rfl
    rw [SharedCatalog.chProducts, List.filter_map, List.map_map, ← hch, ← List.map_singleton]
    exact congrArg (List.map _) hproducts
  have hnonempty : title ≠ "" := fun hempty => p.titled (htitled.trans (congrArg some hempty))
  have hany : anyTitle b [title] = title := by
    rw [anyTitle, List.perm_singleton.mp (b.perm [title])]
    rfl
  simp only [titleCH, hfound, hany, hnonempty, ne_eq, not_false_eq_true, if_true]
  exact (titleOf_eq hproducts htitled).symm

/-- The rows of both stores, but for the second orders. -/
theorem cascadeRows_ch (b : Arrangement) (h : CascadeComparable catalog window obsDays) :
    cascadeRows avgCH (fun pid _ => titleCH b catalog.chLines catalog.chProducts pid)
        ((catalog.customers obsDays).map (·.ch)) =
      (cascadeRows avgPG titlePG (catalog.customers obsDays)).map (·.ch) := by
  have hkeys : keysOf CascadeCustomer.pid ((catalog.customers obsDays).map (·.ch)) =
      keysOf CascadeCustomer.pid (catalog.customers obsDays) := by
    rw [keysOf_map]
    rfl
  rw [cascadeRows, cascadeRows, hkeys, List.map_map]
  apply List.map_congr_left
  intro pid hpid
  have hgroup : groupOf CascadeCustomer.pid ((catalog.customers obsDays).map (·.ch)) pid =
      (groupOf CascadeCustomer.pid (catalog.customers obsDays) pid).map (·.ch) := by
    rw [groupOf_map]
    rfl
  have htitle := titlePG_eq h hpid
  have haverage := h.averages pid hpid
  have hpos : 0 < (groupOf CascadeCustomer.pid (catalog.customers obsDays) pid).length := by
    obtain ⟨c, hc, hkey⟩ := mem_keysOf.mp hpid
    exact List.length_pos_of_mem (mem_groupOf.mpr ⟨hc, hkey⟩)
  simp only at haverage
  obtain ⟨hsum, hhalf⟩ := haverage
  simp only [Function.comp_apply, CascadeRow.ch, hgroup, htitle, titleCH_eq b h hpid]
  generalize groupOf CascadeCustomer.pid (catalog.customers obsDays) pid = group at *
  have havg : avgCH ((group.map (·.ch)).map (·.ltvMu)) = avgPG (group.map (·.ltvMu)) := by
    have hfits : Fits (group.map (·.ltvMu)).sum := by
      unfold Fits
      omega
    have hsame : (group.map (·.ch)).map (·.ltvMu) = group.map (·.ltvMu) := by
      rw [List.map_map]
      rfl
    have hcount : 0 < (group.map (·.ltvMu)).length := by
      rw [List.length_map]
      exact hpos
    rw [hsame, avgCH, wrap64_of_fits hfits, avgPG,
      Sql.roundAway_eq_roundFloat hcount hsum hhalf]
  rw [havg]
  simp only [List.length_map, List.filter_map, List.map_map]
  have hseconds : ((group.filter ((fun c => decide (2 ≤ c.orders)) ∘ CascadeCustomer.ch)).map
      CascadeCustomer.ch).filterMap (·.second) = [] := by
    rw [List.filterMap_eq_nil_iff]
    intro c hc
    obtain ⟨d, -, rfl⟩ := List.mem_map.mp hc
    rfl
  rw [hseconds]
  rfl

theorem mostCustomers_ch (a b : Arrangement) (h : CascadeComparable catalog window obsDays) :
    mostCustomers b ((cascadeRows avgPG titlePG (catalog.customers obsDays)).map (·.ch)) =
      (mostCustomers a (cascadeRows avgPG titlePG (catalog.customers obsDays))).map (·.ch) := by
  have hdistinct := h.distinct
  have hsizes : (cascadeRows avgPG titlePG (catalog.customers obsDays)).map (·.customers) =
      (keysOf CascadeCustomer.pid (catalog.customers obsDays)).map fun pid =>
        (groupOf CascadeCustomer.pid (catalog.customers obsDays) pid).length := by
    rw [cascadeRows, List.map_map]
    rfl
  rw [← hsizes] at hdistinct
  generalize cascadeRows avgPG titlePG (catalog.customers obsDays) = rows at hdistinct ⊢
  rw [mostCustomers, mostCustomers, List.map_take]
  congr 1
  apply RowOrder.orderBy_eq_of_perm
  · exact (RowOrder.orderBy_perm a moreCustomers rows).map _
  · exact List.pairwise_map.mpr (RowOrder.orderBy_sorted rows)
  · intro x hx y hy hxy hyx
    obtain ⟨r, hr, rfl⟩ := List.mem_map.mp hx
    obtain ⟨s, hs, rfl⟩ := List.mem_map.mp hy
    exact congrArg _ (List.inj_on_of_nodup_map hdistinct hr hs (le_antisymm hyx hxy))

end

/-- A row as ClickHouse gives it. -/
def FactCascadeRow.withoutAdditional (r : FactCascadeRow) : FactCascadeRow :=
  { r with sumAdditionalOrders := 0 }

def FirstProductCascade.withoutAdditional (answer : FirstProductCascade) : FirstProductCascade :=
  { answer with rows := answer.rows.map (·.withoutAdditional) }

theorem factCascadeRowPG_ok {r : CascadeRow} {row : FactCascadeRow}
    (h : factCascadeRowPG r = .ok row) : row.withoutAdditional = factCascadeRow r.ch 0 0 := by
  unfold factCascadeRowPG sumDays at h
  split at h
  · obtain rfl := Except.ok.inj h
    rfl
  · cases h

theorem mapM_factCascadeRowPG_ok {found : List CascadeRow} {rows : List FactCascadeRow}
    (h : found.mapM factCascadeRowPG = .ok rows) :
    rows.map (·.withoutAdditional) = (found.map (·.ch)).map fun r => factCascadeRow r 0 0 := by
  induction found generalizing rows with
  | nil =>
    obtain rfl := Except.ok.inj h
    rfl
  | cons r found ih =>
    rw [List.mapM_cons] at h
    cases hrow : factCascadeRowPG r with
    | error e =>
      rw [hrow] at h
      cases h
    | ok row =>
      cases hrest : found.mapM factCascadeRowPG with
      | error e =>
        rw [hrow, hrest] at h
        cases h
      | ok rest =>
        rw [hrow, hrest] at h
        obtain rfl := Except.ok.inj h
        rw [List.map_cons, List.map_cons, List.map_cons, ih hrest, factCascadeRowPG_ok hrow]

theorem firstOrderCustomers_withoutAdditional (rows : List FactCascadeRow) :
    ((rows.map (·.withoutAdditional)).map (·.firstOrderCustomers)).sum =
      (rows.map (·.firstOrderCustomers)).sum := by
  rw [List.map_map]
  rfl

/-- The answer of ClickHouse is the one of PostgreSQL, if there is one, but for the additional
orders. -/
theorem cascades_agree (a b : Arrangement) {catalog : SharedCatalog}
    {fromDate toDate : Option Date} {observationDays : Option Nat} {answer : FirstProductCascade}
    (h : CascadeComparable catalog (windowOf fromDate toDate) (obsDaysOf observationDays))
    (hanswer : readFirstProductCascadePG a (Shared.pg catalog.orders) catalog.pg fromDate toDate
      observationDays = .ok answer) :
    readFirstProductCascadeCH b (Shared.ch catalog.orders) catalog.chLines catalog.chProducts =
      answer.withoutAdditional := by
  rw [readFirstProductCascadePG] at hanswer
  cases hfound : cascadeRowsPG a (Shared.pg catalog.orders) catalog.pg
      (windowOf fromDate toDate) (obsDaysOf observationDays) with
  | error e =>
    rw [hfound] at hanswer
    cases hanswer
  | ok found =>
    rw [hfound] at hanswer
    rw [cascadeRowsPG, firstOrders_pg h.starts, cascadeCustomers_pg a h] at hfound
    obtain ⟨-, rfl⟩ := bigints_ok_iff.mp hfound
    cases hrows : (mostCustomers a (cascadeRows avgPG titlePG
        (catalog.customers (obsDaysOf observationDays)))).mapM factCascadeRowPG with
    | error e =>
      simp only [Except.mapError, hrows, bind, Except.bind, reduceCtorEq] at hanswer
    | ok rows =>
      simp only [Except.mapError, hrows, bind, Except.bind, Except.ok.injEq] at hanswer
      obtain rfl := hanswer
      rw [readFirstProductCascadeCH, cascadeRowsCH, firstOrdersCH_ch, cascadeCustomers_ch b h,
        cascadeRows_ch b h, mostCustomers_ch a b h, ← mapM_factCascadeRowPG_ok hrows, cascadeOf,
        firstOrderCustomers_withoutAdditional]
      rfl

/-! ## The product surfaces by the flag -/

section

open Sql (midnight juneDay IsHalf)
open RowOrder (Arrangement)

def SharedCatalog.ch (catalog : SharedCatalog) : ChTables :=
  ⟨Shared.ch catalog.orders, catalog.chLines, catalog.chProducts⟩

/-- The flag changes no answer. -/
def SameSurfaces : Prop :=
  ∀ (engine : Engine) (a b : Arrangement) (catalog : SharedCatalog),
    (∀ filters, readProductPerformance true engine b catalog.pg catalog.ch filters =
      readProductPerformance false engine a catalog.pg catalog.ch filters) ∧
    ∀ fromDate toDate observationDays,
      readFirstProductCascade true b (Shared.pg catalog.orders) catalog.pg catalog.ch fromDate
          toDate observationDays =
        readFirstProductCascade false a (Shared.pg catalog.orders) catalog.pg catalog.ch fromDate
          toDate observationDays

def plainEngine : Engine where
  toUpperCase := id
  toLowerCase := id
  dateParse _ := none
  replaced _ := ""

def potLine : SharedLine where
  line := ⟨"SHOPIFY", "1", "11", some "5", some "Pot", 1, 50000⟩
  identified := by decide
  titled := by decide
  counted := by decide

def pot : SharedProduct where
  product := ⟨"SHOPIFY", "5", some "Pot", some 20000⟩
  titled := by decide

theorem tenth_datable : Sql.epochDate ≤ (midnight (juneDay 10)).date ∧
    (midnight (juneDay 10)).date ≤ Sql.lastDate := by decide

/-- A pot bought in June. -/
def potCatalog : SharedCatalog where
  orders := [sharedOrder "1" "7" (midnight (juneDay 10)) 50000 (Eq.refl true) (Eq.refl true)
    tenth_datable]
  lines := [potLine]
  products := [pot]

def noFilters : ReadProductPerformanceFilters := ⟨none, none, none, none, none, none, none⟩

theorem potCatalog_known : potCatalog.ProductsKnown := by
  intro l hl pid hpid
  obtain rfl := List.mem_singleton.mp hl
  obtain rfl := Option.some.inj hpid
  exact ⟨pot, rfl, rfl, by decide⟩

theorem potCatalog_products : ProductsComparable potCatalog noFilters where
  order := ⟨rfl, rfl⟩
  dates := fun h => absurd h (by decide)
  known := potCatalog_known
  fit := ⟨by decide, by decide, by decide, by decide⟩
  distinct := by unfold DistinctCm1; decide

theorem potCatalog_first {fo : FirstOrder} (h : fo ∈ Shared.firsts potCatalog.orders) :
    fo = ⟨"7", "1", midnight (juneDay 10)⟩ := List.mem_singleton.mp h

theorem potCatalog_cascade : CascadeComparable potCatalog none 365 where
  known := potCatalog_known
  starts := fun _ _ => rfl
  clear := by
    intro fo hfo
    obtain rfl := potCatalog_first hfo
    refine ⟨Or.inr ⟨potLine, List.mem_singleton.mpr rfl, ?_, ?_⟩, by decide⟩
    · intro m hm
      obtain rfl : m = potLine := List.mem_singleton.mp hm
      exact le_refl _
    · intro m hm
      obtain rfl : m = potLine := List.mem_singleton.mp hm
      exact ⟨le_refl _, fun _ => rfl⟩
  observed := by
    intro fo hfo
    obtain rfl := potCatalog_first hfo
    unfold SharedCatalog.ObservesAll
    decide
  ltvs := by
    intro fo hfo
    obtain rfl := potCatalog_first hfo
    decide
  averages := by decide
  distinct := by decide

def potCascade : FirstProductCascade where
  rows := [⟨"5", "Pot", 1, 0, 0, 0, 50000, 0, 0, 0⟩]
  totalCohort := 1

end

end BrainV2.Analytics
