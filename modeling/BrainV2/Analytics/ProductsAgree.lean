import BrainV2.Analytics.Products

/-!
# Product performance by either route

* `ProductsKnown`: each line has one product, with a title;
* `productLines_agree`: then both stores join the same lines;
* `ProductNumbersFit`: no number that ClickHouse computes is wrapped;
* `products_agree`: both routes answer the same where the arguments ask for nothing else.
-/

namespace BrainV2.Analytics

open Js (Engine)
open Grouping
open RowOrder (Arrangement orderBy)
open Wrapping (Fits)

namespace SharedCatalog

variable (catalog : SharedCatalog)

def pg : Facts where
  orders := catalog.orders.map (·.placed.order)
  lineItems := catalog.lines.map (·.line)
  products := catalog.products.map (·.product)
  adSpend := []

def chLines : List ChLineItemFact := catalog.lines.map (·.ch)

def chProducts : List ChProductFact := catalog.products.map (·.ch)

/-- The products of an id. -/
def productsOf (pid : String) : List SharedProduct :=
  catalog.products.filter (·.product.vendorProductId = pid)

/-- A line that names a product is of the vendor of the one product with this id, which has a
title. -/
def ProductsKnown : Prop :=
  ∀ l ∈ catalog.lines, ∀ pid ∈ l.line.vendorProductId, ∃ p, catalog.productsOf pid = [p] ∧
    p.product.vendor = l.line.vendor ∧ p.product.title ≠ none

/-- The dates leave no line out: each is joined with one order. -/
def LeavesNothingOut (filters : ReadProductPerformanceFilters) : Prop :=
  filters.hasDateFilter = true → ∀ l ∈ catalog.lines, l.line.vendorProductId ≠ none →
    (filters.ordersOf catalog.pg.orders l.line).length = 1

end SharedCatalog

section

variable {catalog : SharedCatalog} {filters : ReadProductPerformanceFilters}

theorem SharedLine.toInt_quantity_ch (l : SharedLine) : l.ch.quantity.toInt = l.line.quantity.toInt := by
  have hcounted := l.counted
  exact Int32.toInt_ofInt_of_le (by simpa using hcounted.1) (by omega)

theorem joinedLine_eq (h : catalog.LeavesNothingOut filters) {l : SharedLine}
    (hl : l ∈ catalog.lines) (hpid : l.line.vendorProductId ≠ none) :
    filters.joinedLine catalog.pg.orders l.line = [l.line] := by
  rw [ReadProductPerformanceFilters.joinedLine]
  split
  · next hdates =>
    obtain ⟨o, ho⟩ := List.length_eq_one_iff.mp (h hdates l hl hpid)
    rw [ho]
    rfl
  · rfl

/-- The one product of an id is the one of its vendor. -/
theorem productsOf_vendor {pid vendor : String} {p : SharedProduct}
    (hproducts : catalog.productsOf pid = [p]) (hvendor : p.product.vendor = vendor) :
    catalog.products.filter (fun q =>
      q.product.vendor = vendor ∧ q.product.vendorProductId = pid) = [p] := by
  have hsplit := List.filter_filter (p := fun q : SharedProduct =>
      decide (q.product.vendor = vendor))
    (q := fun q => decide (q.product.vendorProductId = pid)) (l := catalog.products)
  rw [SharedCatalog.productsOf] at hproducts
  rw [hproducts, List.filter_singleton, decide_eq_true hvendor] at hsplit
  simpa using hsplit.symm

/-- Both stores join the same lines. -/
theorem productLines_agree (hknown : catalog.ProductsKnown)
    (hall : catalog.LeavesNothingOut filters) :
    productLines catalog.pg filters = productLinesCH catalog.chLines catalog.chProducts := by
  have hpg : catalog.pg.lineItems = catalog.lines.map (·.line) := rfl
  rw [productLines, productLinesCH, hpg, SharedCatalog.chLines, List.flatMap_map, List.flatMap_map]
  apply List.flatMap_congr
  intro l hl
  have hch : l.ch.vendorProductId = l.line.vendorProductId.getD "" := rfl
  cases hpid : l.line.vendorProductId with
  | none =>
    rw [hpid] at hch
    simp only [hch, Option.getD_none, if_true]
  | some pid =>
    obtain ⟨p, hproducts, hvendor, htitle⟩ := hknown l hl pid hpid
    have hempty : ¬ pid = "" := fun hempty => l.identified (hempty ▸ hpid)
    rw [hpid, Option.getD_some] at hch
    have hfound : catalog.pg.products.filter (·.vendorProductId = pid) = [p.product] := by
      rw [SharedCatalog.pg, List.filter_map, ← List.map_singleton, ← hproducts]
      rfl
    have hchfound : catalog.chProducts.filter (fun pf =>
        pf.vendor = l.ch.vendor ∧ pf.vendorProductId = pid) = [p.ch] := by
      rw [SharedCatalog.chProducts, List.filter_map, ← List.map_singleton,
        ← productsOf_vendor hproducts hvendor]
      rfl
    obtain ⟨title, htitled⟩ := Option.ne_none_iff_exists'.mp htitle
    have hchtitle : p.ch.title = title := by rw [SharedProduct.ch, htitled]; rfl
    simp only [hch, hempty, if_false, joinedLine_eq hall hl (by rw [hpid]; simp), hfound, hchfound,
      List.flatMap_singleton, leftJoin, List.map_cons, List.map_nil, Option.map_some,
      Option.bind_some, Option.getD_some, hchtitle, htitled, Option.some_or,
      l.toInt_quantity_ch]
    rfl

end

/-! ### Numbers that fit -/

/-- No number on the way is wrapped in 64 bits. -/
structure ProductNumbersFit (lines : List ProductLine) : Prop where
  amounts : ∀ l ∈ lines, Fits l.revenueMu ∧ Fits l.cogsMu
  sums : ∀ p ∈ productSums id lines, Fits p.revenueMu ∧ Fits p.cogsMu ∧ Fits p.sold ∧
    Fits (cm1Of id p)
  shares : ∀ p ∈ productSums id lines, Fits (cumCm1 id (productSums id lines) p * 100)
  total : Fits (95 * totalCm1 id (productSums id lines))

section

variable {lines : List ProductLine}

theorem wrap64_of_fits {n : Int} (h : Fits n) : wrap64 n = n := Wrapping.toInt_ofInt_of_fits h

theorem productSums_wrap64 (h : ProductNumbersFit lines) :
    productSums wrap64 lines = productSums id lines := by
  apply List.map_congr_left
  intro pid hpid
  have hline : ∀ l ∈ groupOf ProductLine.pid lines pid, Fits l.revenueMu ∧ Fits l.cogsMu :=
    fun l hl => h.amounts l (mem_groupOf.mp hl).1
  have hsums := h.sums _ (List.mem_map.mpr ⟨pid, hpid, rfl⟩)
  obtain ⟨hrevenue, hcogs, hsold, -⟩ := hsums
  have hrevenues : (groupOf ProductLine.pid lines pid).map (fun l => wrap64 l.revenueMu) =
      (groupOf ProductLine.pid lines pid).map fun l => id l.revenueMu :=
    List.map_congr_left fun l hl => wrap64_of_fits (hline l hl).1
  have hcosts : (groupOf ProductLine.pid lines pid).map (fun l => wrap64 l.cogsMu) =
      (groupOf ProductLine.pid lines pid).map fun l => id l.cogsMu :=
    List.map_congr_left fun l hl => wrap64_of_fits (hline l hl).2
  simp only [hrevenues, hcosts]
  simp only [id_eq] at hrevenue hcogs hsold ⊢
  rw [wrap64_of_fits hrevenue, wrap64_of_fits hcogs, wrap64_of_fits hsold]

theorem fits_of_hundredfold {n : Int} (h : Fits (n * 100)) : Fits n := by
  unfold Fits at h ⊢
  omega

theorem fits_of_share {n : Int} (h : Fits (95 * n)) : Fits n ∧ Fits (80 * n) := by
  unfold Fits at h ⊢
  omega

theorem gradedProducts_wrap64 (h : ProductNumbersFit lines) :
    gradedProducts wrap64 (productSums id lines) = gradedProducts id (productSums id lines) := by
  have hcm1 : ∀ p ∈ productSums id lines, cm1Of wrap64 p = cm1Of id p :=
    fun p hp => wrap64_of_fits (h.sums p hp).2.2.2
  have htotal : totalCm1 wrap64 (productSums id lines) = totalCm1 id (productSums id lines) := by
    rw [totalCm1, List.map_congr_left hcm1]
    exact wrap64_of_fits (fits_of_share h.total).1
  have hcum : ∀ p ∈ productSums id lines,
      cumCm1 wrap64 (productSums id lines) p = cumCm1 id (productSums id lines) p := by
    intro p hp
    have hupTo : upTo wrap64 (productSums id lines) p = upTo id (productSums id lines) p := by
      apply List.filter_congr
      intro q hq
      rw [hcm1 p hp, hcm1 q hq]
    have hmem : ∀ q ∈ upTo id (productSums id lines) p, cm1Of wrap64 q = cm1Of id q :=
      fun q hq => hcm1 q (List.mem_of_mem_filter hq)
    rw [cumCm1, hupTo, List.map_congr_left hmem]
    exact wrap64_of_fits (fits_of_hundredfold (h.shares p hp))
  apply List.map_congr_left
  intro p hp
  have hgrade : ∀ cm1, paretoGrade wrap64 cm1 (totalCm1 id (productSums id lines))
      (cumCm1 id (productSums id lines) p) = paretoGrade id cm1
        (totalCm1 id (productSums id lines)) (cumCm1 id (productSums id lines) p) := by
    intro cm1
    rw [paretoGrade, wrap64_of_fits (h.shares p hp), wrap64_of_fits (fits_of_share h.total).2,
      wrap64_of_fits h.total]
    rfl
  rw [hcm1 p hp, htotal, hcum p hp, hgrade]

end

/-! ### Both routes -/

/-- The arguments ask for no other order. -/
def ReadProductPerformanceFilters.DefaultOrder (filters : ReadProductPerformanceFilters) : Prop :=
  filters.column = .cm1 ∧ filters.sortDirection = .desc

instance (column : ProductColumn) (direction : SortDirection) :
    Std.Total (rowBefore column direction) := ⟨fun r s => by
  cases direction <;> cases column <;> exact le_total _ _⟩

instance (column : ProductColumn) (direction : SortDirection) :
    IsTrans ProductRow (rowBefore column direction) := ⟨fun r s t h h' => by
  cases direction <;> cases column <;> first | exact le_trans h h' | exact le_trans h' h⟩

/-- No two products have the same margin. -/
def DistinctCm1 (lines : List ProductLine) : Prop :=
  ((productSums id lines).map (cm1Of id)).Nodup

theorem orderBy_cm1_eq (a b : Arrangement) {lines : List ProductLine} (h : DistinctCm1 lines) :
    orderBy a (rowBefore .cm1 .desc) (gradedProducts id (productSums id lines)) =
      orderBy b (rowBefore .cm1 .desc) (gradedProducts id (productSums id lines)) := by
  apply RowOrder.orderBy_eq
  intro x hx y hy hxy hyx
  have hnodup : ((gradedProducts id (productSums id lines)).map (·.cm1Mu)).Nodup := by
    rw [gradedProducts, List.map_map]
    exact h
  exact List.inj_on_of_nodup_map hnodup hx hy (le_antisymm hyx hxy)

/-- What of the facts and the arguments makes the routes comparable. -/
structure ProductsComparable (catalog : SharedCatalog) (filters : ReadProductPerformanceFilters) :
    Prop where
  order : filters.DefaultOrder
  dates : catalog.LeavesNothingOut filters
  known : catalog.ProductsKnown
  fit : ProductNumbersFit (productLines catalog.pg filters)
  distinct : DistinctCm1 (productLines catalog.pg filters)

theorem products_agree (engine : Engine) (a b : Arrangement) {catalog : SharedCatalog}
    {filters : ReadProductPerformanceFilters} (h : ProductsComparable catalog filters) :
    readProductPerformancePG engine a catalog.pg filters =
      .ok (readProductPerformanceCH engine b catalog.chLines catalog.chProducts filters) := by
  have hfits : ∀ v ∈ (productLines catalog.pg filters).map (·.revenueMu) ++
      (productLines catalog.pg filters).map (·.cogsMu), Fits v := by
    intro v hv
    cases List.mem_append.mp hv with
    | inl hrevenue =>
      obtain ⟨l, hl, rfl⟩ := List.mem_map.mp hrevenue
      exact (h.fit.amounts l hl).1
    | inr hcogs =>
      obtain ⟨l, hl, rfl⟩ := List.mem_map.mp hcogs
      exact (h.fit.amounts l hl).2
  rw [readProductPerformancePG, productRowsPG, bigints_ok hfits, readProductPerformanceCH,
    productRowsCH, ← productLines_agree h.known h.dates, productSums_wrap64 h.fit,
    gradedProducts_wrap64 h.fit, h.order.1, h.order.2, orderBy_cm1_eq a b h.distinct]
  rfl

end BrainV2.Analytics
