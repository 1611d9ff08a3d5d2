import BrainV2.Analytics.NewCustomers
import BrainV2.Lib.Integers
import BrainV2.LivePlane.Margins

/-!
# Laws of the margins

* `DeadOrdersOut`, `AddsUp`, `InEffect`: dead orders do not count, adjacent ranges add up, and a
  cost counts in a range that its own dates meet;
* `lineCost`, `variableOf`, `fixedOf`: what a line and a cost add;
* `margins_laws_iff`: when the laws hold.
-/

namespace BrainV2.LivePlane

open Analytics (Adjacent AdSpendFact CogsSettings Facts FactPnl LineItemFact OrderFact PgError
  ProductFact cogsBasis leftJoin linesWithCosts productsOf readCogs readPnl)
open Grouping
open Py (Date)
open Sql (FactDateRange juneDay midnight)

/-! ### The laws -/

/-- The line is of the order. -/
def isLineOf (o : OrderFact) (li : LineItemFact) : Bool :=
  li.vendor = o.vendor && li.vendorOrderId = o.vendorOrderId

/-- Without one of the orders and its lines. -/
def PnlState.without (s : PnlState) (before : List OrderFact) (o : OrderFact)
    (after : List OrderFact) : PnlState :=
  { s with facts := { s.facts with
      orders := before ++ after
      lineItems := s.facts.lineItems.filter (!isLineOf o ·) } }

/-- An order that is cancelled, voided or refunded changes nothing. -/
def DeadOrdersOut (s : PnlState) (range : Option FactDateRange) : Prop :=
  ∀ before o after, s.facts.orders = before ++ o :: after → o.live = false →
    ∀ m m', Shows s range m → Shows (s.without before o after) range m' → m' = m

def percentRows (s : PnlState) : List CostRow := s.costs.filter (·.kind = .percent)

/-- The margins of adjacent ranges add up, to one unit for each percentage. -/
def AddsUp (s : PnlState) (a b whole : FactDateRange) : Prop :=
  ∀ ma mb m, Shows s (some a) ma → Shows s (some b) mb → Shows s (some whole) m →
    |m.cm1 - (ma.cm1 + mb.cm1)| ≤ (percentRows s).length ∧
      |m.cm2 - (ma.cm2 + mb.cm2)| ≤ (percentRows s).length

/-- The effective range of a cost meets a range. -/
def CostRow.meets (range : FactDateRange) (c : CostRow) : Prop :=
  c.effectiveFrom ≤ range.toDate ∧ ∀ d ∈ c.effectiveTo, range.fromDate ≤ d

instance (range : FactDateRange) (c : CostRow) : Decidable (c.meets range) :=
  inferInstanceAs (Decidable (_ ∧ _))

/-- A cost that is not in effect changes nothing. -/
def InEffect (s : PnlState) (range : FactDateRange) : Prop :=
  ∀ before c after, s.costs = before ++ c :: after → ¬ c.meets range →
    ∀ m m', Shows s (some range) m → Shows { s with costs := before ++ after } (some range) m' →
      m' = m

/-! ### What lines and costs add -/

def lineCost (settings : CogsSettings) (products : List ProductFact) (li : LineItemFact) : Int :=
  ((leftJoin (productsOf products li)).map fun pf =>
    (cogsBasis settings (pf.bind (·.costMu))).cogs settings.markupBp.toInt li).sum

def costOfLines (s : PnlState) (lines : List LineItemFact) : Int :=
  (lines.map (lineCost s.cogsSettings s.facts.products)).sum

def linesIn (s : PnlState) (range : Option FactDateRange) : List LineItemFact :=
  s.facts.lineItems.filter (·.inRange s.facts.orders range)

theorem readCogs_cogsMu {s : PnlState} {range : Option FactDateRange} {cogs : Analytics.FactCogs}
    (h : readCogs s.cogsSettings s.facts range = .ok cogs) :
    cogs.cogsMu = costOfLines s (linesIn s range) := by
  unfold readCogs at h
  split at h
  · obtain ⟨-, h⟩ := Analytics.bigints_ok_iff.mp h
    rw [← h]
    simp only [linesWithCosts, costOfLines, linesIn, List.map_flatMap, List.map_map]
    rw [sum_flatMap]
    rfl
  · cases h

/-- What a cost adds to the variable costs. -/
def variableOf (net : Int) (count : Nat) (c : CostRow) : Int :=
  match c.kind with
  | .percent => c.stackRow.percentMu net
  | .perOrder => c.stackRow.amountMu * count
  | .fixedMonthly => 0

/-- What a cost adds to the overhead. -/
def fixedOf (c : CostRow) : Int :=
  match c.kind with
  | .fixedMonthly => c.stackRow.amountMu
  | _ => 0

theorem kind_stackRow (c : CostRow) : c.stackRow.kind = c.kind := rfl

theorem kind_cases (c : CostRow) :
    c.kind = .percent ∨ c.kind = .perOrder ∨ c.kind = .fixedMonthly := by
  cases c.kind <;> simp

theorem variableMu_eq (costs : List CostRow) (net : Int) (count : Nat) :
    (resolveCosts costs net count).variableMu = (costs.map (variableOf net count)).sum := by
  induction costs with
  | nil => simp [resolveCosts]
  | cons c costs ih =>
    rw [List.map_cons, List.sum_cons, ← ih]
    simp only [resolveCosts, List.map_cons, List.filter_cons, kind_stackRow]
    obtain hKind | hKind | hKind := kind_cases c
    · simp [variableOf, hKind]
      ring
    · simp [variableOf, hKind]
      ring
    · simp [variableOf, hKind]

theorem miscMu_eq (costs : List CostRow) (net : Int) (count : Nat) :
    (resolveCosts costs net count).miscMu = (costs.map fixedOf).sum := by
  induction costs with
  | nil => rfl
  | cons c costs ih =>
    rw [List.map_cons, List.sum_cons, ← ih]
    simp only [resolveCosts, List.map_cons, List.filter_cons, kind_stackRow]
    obtain hKind | hKind | hKind := kind_cases c <;> simp [fixedOf, hKind]

/-! ### The figures of a range -/

def ordersIn (s : PnlState) (range : Option FactDateRange) : List OrderFact :=
  s.facts.orders.filter (·.inRange range)

def netIn (s : PnlState) (range : Option FactDateRange) : Int :=
  (((ordersIn s range).filter (·.live)).map (·.netMu)).sum

def spendIn (s : PnlState) (range : Option FactDateRange) : Int :=
  ((s.facts.adSpend.filter (·.inRange range)).map (·.countedMu)).sum

/-- The costs of each order. -/
def perOrderMu (s : PnlState) : Int :=
  ((s.costs.filter (·.kind = .perOrder)).map (·.stackRow.amountMu)).sum

/-- The shares of a net. -/
def percentMuOf (s : PnlState) (net : Int) : Int :=
  ((percentRows s).map (·.stackRow.percentMu net)).sum

theorem netRevenueMu_readPnl (s : PnlState) (range : Option FactDateRange) :
    (readPnl s.facts range).netRevenueMu = netIn s range :=
  Analytics.netSalesOf_eq_sum _

theorem variableMu_split (s : PnlState) (net : Int) (count : Nat) :
    (resolveCosts s.costs net count).variableMu = perOrderMu s * count + percentMuOf s net := by
  simp only [resolveCosts, perOrderMu, percentMuOf, percentRows, List.filter_map, List.map_map]
  rfl

/-- The margins by the figures of the range. -/
theorem marginsOf_eq (s : PnlState) (range : Option FactDateRange) (cogsMu : Int) :
    marginsOf s range cogsMu =
      let cm1 := netIn s range - cogsMu -
        (perOrderMu s * (ordersIn s range).length + percentMuOf s (netIn s range))
      ⟨cm1, cm1 - spendIn s range, cm1 - spendIn s range - (s.costs.map fixedOf).sum⟩ := by
  have hCount : (readPnl s.facts range).orderCount = (ordersIn s range).length := rfl
  simp only [marginsOf, netRevenueMu_readPnl, variableMu_split, miscMu_eq, hCount,
    Analytics.totalAdSpendMu_readPnl, spendIn]

/-! ### Dead orders -/

/-- The lines that are out of the range when the order is gone. -/
def droppedLines (s : PnlState) (range : Option FactDateRange) (before : List OrderFact)
    (o : OrderFact) (after : List OrderFact) : List LineItemFact :=
  (linesIn s range).filter fun li => isLineOf o li || !li.inRange (before ++ after) range

/-- The cost of goods is read without an overflow. -/
def Answers (s : PnlState) (range : Option FactDateRange) : Prop :=
  ∃ cogs, readCogs s.cogsSettings s.facts range = .ok cogs

/-- A dead order brings no costs of an order, and no lines that cost something. -/
def DeadOrdersFree (s : PnlState) (range : Option FactDateRange) : Prop :=
  ∀ before o after, s.facts.orders = before ++ o :: after → o.live = false →
    Answers s range → Answers (s.without before o after) range →
      perOrderMu s * (if o.inRange range then 1 else 0) +
        costOfLines s (droppedLines s range before o after) = 0

theorem linesIn_without {s : PnlState} {before after : List OrderFact} {o : OrderFact}
    (h : s.facts.orders = before ++ o :: after) (range : Option FactDateRange) :
    linesIn (s.without before o after) range = (linesIn s range).filter fun li =>
      !(isLineOf o li || !li.inRange (before ++ after) range) := by
  simp only [linesIn, PnlState.without, List.filter_filter, h]
  apply List.filter_congr
  intro li _
  have hMono : li.inRange (before ++ after) range = true →
      li.inRange (before ++ o :: after) range = true := by
    cases range with
    | none => exact fun _ => rfl
    | some range =>
      simp only [LineItemFact.inRange, List.any_append, List.any_cons, Bool.or_eq_true]
      exact fun hIn => hIn.imp_right Or.inr
  cases hRest : li.inRange (before ++ after) range with
  | false => simp
  | true => simp [hMono hRest]

theorem costOfLines_without {s : PnlState} {before after : List OrderFact} {o : OrderFact}
    (h : s.facts.orders = before ++ o :: after) (range : Option FactDateRange) :
    costOfLines s (droppedLines s range before o after) +
        costOfLines s (linesIn (s.without before o after) range) =
      costOfLines s (linesIn s range) := by
  rw [linesIn_without h]
  exact sum_filter_add_sum_filter _ _ _

theorem netIn_without {s : PnlState} {before after : List OrderFact} {o : OrderFact}
    (h : s.facts.orders = before ++ o :: after) (hDead : o.live = false)
    (range : Option FactDateRange) : netIn (s.without before o after) range = netIn s range := by
  have hOut : ([o].filter (·.inRange range)).filter (·.live) = [] := by
    rw [List.filter_eq_nil_iff]
    intro o' ho'
    rw [List.mem_singleton.mp (List.mem_filter.mp ho').1, hDead]
    exact Bool.false_ne_true
  have hSplit : before ++ o :: after = before ++ ([o] ++ after) := rfl
  simp only [netIn, ordersIn, PnlState.without, h, hSplit, List.filter_append, hOut,
    List.nil_append]

theorem length_ordersIn_without {s : PnlState} {before after : List OrderFact} {o : OrderFact}
    (h : s.facts.orders = before ++ o :: after) (range : Option FactDateRange) :
    ((ordersIn s range).length : Int) = (ordersIn (s.without before o after) range).length +
      if o.inRange range then 1 else 0 := by
  simp only [ordersIn, PnlState.without, h, List.filter_append, List.filter_cons,
    List.length_append]
  cases o.inRange range with
  | false => simp
  | true =>
    simp only [if_true, List.length_cons]
    omega

theorem deadOrdersOut_iff (s : PnlState) (range : Option FactDateRange) :
    DeadOrdersOut s range ↔ DeadOrdersFree s range := by
  have hChange : ∀ before o after, s.facts.orders = before ++ o :: after → o.live = false →
      ∀ cogs cogs', readCogs s.cogsSettings s.facts range = .ok cogs →
        readCogs s.cogsSettings (s.without before o after).facts range = .ok cogs' →
        (marginsOf (s.without before o after) range cogs'.cogsMu = marginsOf s range cogs.cogsMu ↔
          perOrderMu s * (if o.inRange range then 1 else 0) +
            costOfLines s (droppedLines s range before o after) = 0) := by
    intro before o after hOrders hDead cogs cogs' hCogs hCogs'
    have hCost := costOfLines_without hOrders range
    have hNet := netIn_without hOrders hDead range
    have hCount := length_ordersIn_without hOrders range
    have hRead := readCogs_cogsMu hCogs
    have hRead' := readCogs_cogsMu (s := s.without before o after) hCogs'
    have hSpend : spendIn (s.without before o after) range = spendIn s range := rfl
    have hPerOrder : perOrderMu (s.without before o after) = perOrderMu s := rfl
    have hPercent : percentMuOf (s.without before o after) = percentMuOf s := rfl
    have hLines : costOfLines (s.without before o after) = costOfLines s := rfl
    rw [hLines] at hRead'
    rw [marginsOf_eq, marginsOf_eq, hNet, hSpend, hPerOrder, hPercent, hRead, hRead', ← hCost,
      hCount, mul_add]
    simp only [Margins.mk.injEq, PnlState.without]
    constructor
    · rintro ⟨hCm1, -, -⟩
      linarith
    · intro hFree
      refine ⟨?_, ?_, ?_⟩ <;> linarith
  constructor
  · rintro hLaw before o after hOrders hDead ⟨cogs, hCogs⟩ ⟨cogs', hCogs'⟩
    apply (hChange before o after hOrders hDead cogs cogs' hCogs hCogs').mp
    exact hLaw before o after hOrders hDead _ _ (shows_iff.mpr ⟨cogs, hCogs, rfl⟩)
      (shows_iff.mpr ⟨cogs', hCogs', rfl⟩)
  · intro hFree before o after hOrders hDead m m' hShows hShows'
    obtain ⟨cogs, hCogs, rfl⟩ := shows_iff.mp hShows
    obtain ⟨cogs', hCogs', rfl⟩ := shows_iff.mp hShows'
    exact (hChange before o after hOrders hDead cogs cogs' hCogs hCogs').mpr
      (hFree before o after hOrders hDead ⟨cogs, hCogs⟩ ⟨cogs', hCogs'⟩)

/-! ### Adjacent ranges -/

/-- Ranges are adjacent when one begins on the day after the other. -/
theorem adjacent_of_next {first last next finish : Date} (hFirst : first ≤ last)
    (hNext : next.toOrdinal = last.toOrdinal + 1) (hEnd : next ≤ finish) :
    Adjacent ⟨first, last⟩ ⟨next, finish⟩ ⟨first, finish⟩ := by
  have hOrder : ∀ d e : Date, d ≤ e ↔ d.toOrdinal ≤ e.toOrdinal := fun d e =>
    Date.toOrdinal_strictMono.le_iff_le.symm
  rw [hOrder] at hFirst hEnd
  constructor
  · intro d
    simp only [FactDateRange.hasDate, hOrder, ← Bool.decide_or, decide_eq_decide]
    omega
  · intro d hDay
    simp only [FactDateRange.hasDate, hOrder, decide_eq_true_eq, decide_eq_false_iff_not]
      at hDay ⊢
    omega

section

variable {a b whole : FactDateRange}

theorem inRange_whole (h : Adjacent a b whole) (o : OrderFact) :
    o.inRange (some whole) = (o.inRange (some a) || o.inRange (some b)) := by
  cases hPlaced : o.processedAt with
  | none => simp [OrderFact.inRange, hPlaced]
  | some t => simp [OrderFact.inRange, hPlaced, FactDateRange.has_eq, h.covers]

theorem inRange_apart (h : Adjacent a b whole) (o : OrderFact) :
    (o.inRange (some a) && o.inRange (some b)) = false := by
  cases hPlaced : o.processedAt with
  | none => simp [OrderFact.inRange, hPlaced]
  | some t =>
    simp only [OrderFact.inRange, hPlaced, Option.any_some, FactDateRange.has_eq]
    cases hDay : a.hasDate t.date with
    | false => rfl
    | true => exact h.apart t.date hDay

theorem sum_ordersIn_whole (h : Adjacent a b whole) (s : PnlState) (f : OrderFact → Int) :
    ((ordersIn s (some whole)).map f).sum =
      ((ordersIn s (some a)).map f).sum + ((ordersIn s (some b)).map f).sum := by
  have hWhole : ordersIn s (some whole) =
      s.facts.orders.filter fun o => o.inRange (some a) || o.inRange (some b) :=
    List.filter_congr fun o _ => inRange_whole h o
  have hNone : (s.facts.orders.filter fun o => o.inRange (some a) && o.inRange (some b)) = [] :=
    List.filter_eq_nil_iff.mpr fun o _ => by simp [inRange_apart h o]
  have hSum := sum_filter_or (·.inRange (some a)) (·.inRange (some b)) f s.facts.orders
  rw [hNone] at hSum
  rw [hWhole]
  simpa [ordersIn] using hSum

theorem netIn_eq (s : PnlState) (range : Option FactDateRange) :
    netIn s range = ((ordersIn s range).map fun o => if o.live then o.netMu else 0).sum :=
  sum_map_filter _ _

theorem netIn_whole (h : Adjacent a b whole) (s : PnlState) :
    netIn s (some whole) = netIn s (some a) + netIn s (some b) := by
  simp only [netIn_eq]
  exact sum_ordersIn_whole h s _

theorem count_whole (h : Adjacent a b whole) (s : PnlState) :
    ((ordersIn s (some whole)).length : Int) =
      (ordersIn s (some a)).length + (ordersIn s (some b)).length := by
  have hSum := sum_ordersIn_whole h s fun _ => 1
  simpa using hSum

theorem spendIn_whole (h : Adjacent a b whole) (s : PnlState) :
    spendIn s (some whole) = spendIn s (some a) + spendIn s (some b) := by
  have hWhole : s.facts.adSpend.filter (·.inRange (some whole)) =
      s.facts.adSpend.filter fun d => d.inRange (some a) || d.inRange (some b) :=
    List.filter_congr fun d _ => by simp [AdSpendFact.inRange, h.covers]
  have hNone : (s.facts.adSpend.filter fun d => d.inRange (some a) && d.inRange (some b)) = [] := by
    rw [List.filter_eq_nil_iff]
    intro d _
    cases hDay : a.hasDate d.spendDate with
    | false => simp [AdSpendFact.inRange, hDay]
    | true => simp [AdSpendFact.inRange, h.apart _ hDay]
  have hSum := sum_filter_or (·.inRange (some a)) (·.inRange (some b)) AdSpendFact.countedMu
    s.facts.adSpend
  rw [hNone] at hSum
  rw [spendIn, hWhole]
  simpa [spendIn] using hSum

/-- The lines that both ranges count, by an order id that orders of both have. -/
def linesInBoth (s : PnlState) (a b : FactDateRange) : List LineItemFact :=
  s.facts.lineItems.filter fun li =>
    li.inRange s.facts.orders (some a) && li.inRange s.facts.orders (some b)

theorem costOfLines_whole (h : Adjacent a b whole) (s : PnlState) :
    costOfLines s (linesIn s (some whole)) + costOfLines s (linesInBoth s a b) =
      costOfLines s (linesIn s (some a)) + costOfLines s (linesIn s (some b)) := by
  have hWhole : linesIn s (some whole) = s.facts.lineItems.filter fun li =>
      li.inRange s.facts.orders (some a) || li.inRange s.facts.orders (some b) := by
    apply List.filter_congr
    intro li _
    rw [Bool.eq_iff_iff]
    simp only [LineItemFact.inRange, Bool.or_eq_true, List.any_eq_true, inRange_whole h,
      Bool.and_eq_true, or_and_right, and_or_left, exists_or]
  rw [hWhole]
  exact sum_filter_or _ _ _ _

end

/-! ### Rounding of the shares -/

/-- A quotient of a sum is the sum of the quotients, to one unit. -/
theorem tdiv_add_near (x y : Int) :
    |(x + y).tdiv 10000 - (x.tdiv 10000 + y.tdiv 10000)| ≤ 1 := by
  have hPos : (0 : Int) < 10000 := by decide
  rw [abs_le, Quotients.tdiv_eq hPos, Quotients.tdiv_eq hPos, Quotients.tdiv_eq hPos]
  unfold Quotients.Uneven
  split_ifs <;> omega

/-- What the shares of two nets miss of the shares of their sum. -/
def roundingMu (s : PnlState) (x y : Int) : Int :=
  percentMuOf s (x + y) - (percentMuOf s x + percentMuOf s y)

theorem percentMu_add_near (r : CostStackRow) (x y : Int) :
    |r.percentMu (x + y) - (r.percentMu x + r.percentMu y)| ≤ 1 := by
  simp only [CostStackRow.percentMu, add_mul]
  exact tdiv_add_near _ _

theorem sum_percentMu_near (rows : List CostRow) (x y : Int) :
    |(rows.map (·.stackRow.percentMu (x + y))).sum -
      ((rows.map (·.stackRow.percentMu x)).sum + (rows.map (·.stackRow.percentMu y)).sum)| ≤
      rows.length := by
  induction rows with
  | nil => simp
  | cons c rows ih =>
    have hRow := percentMu_add_near c.stackRow x y
    simp only [List.map_cons, List.sum_cons, List.length_cons]
    rw [abs_le] at ih hRow ⊢
    omega

theorem abs_roundingMu_le (s : PnlState) (x y : Int) :
    |roundingMu s x y| ≤ (percentRows s).length :=
  sum_percentMu_near (percentRows s) x y

/-! ### Lines of both ranges -/

/-- What lines that both ranges count cost is within the rounding. -/
def SharedLinesFree (s : PnlState) (a b whole : FactDateRange) : Prop :=
  Answers s (some a) → Answers s (some b) → Answers s (some whole) →
    |costOfLines s (linesInBoth s a b) - roundingMu s (netIn s (some a)) (netIn s (some b))| ≤
      (percentRows s).length

theorem sharedLinesFree_of_nil {s : PnlState} {a b whole : FactDateRange}
    (h : linesInBoth s a b = []) : SharedLinesFree s a b whole := by
  intro _ _ _
  have hCost : costOfLines s (linesInBoth s a b) = 0 := by
    rw [h]
    rfl
  rw [hCost, zero_sub, abs_neg]
  exact abs_roundingMu_le s _ _

theorem addsUp_iff {a b whole : FactDateRange} (h : Adjacent a b whole) (s : PnlState) :
    AddsUp s a b whole ↔ SharedLinesFree s a b whole := by
  have hOff : ∀ cogsA cogsB cogs, readCogs s.cogsSettings s.facts (some a) = .ok cogsA →
      readCogs s.cogsSettings s.facts (some b) = .ok cogsB →
      readCogs s.cogsSettings s.facts (some whole) = .ok cogs →
      let ma := marginsOf s (some a) cogsA.cogsMu
      let mb := marginsOf s (some b) cogsB.cogsMu
      let m := marginsOf s (some whole) cogs.cogsMu
      let off := costOfLines s (linesInBoth s a b) -
        roundingMu s (netIn s (some a)) (netIn s (some b))
      m.cm1 - (ma.cm1 + mb.cm1) = off ∧ m.cm2 - (ma.cm2 + mb.cm2) = off := by
    intro cogsA cogsB cogs hA hB hWhole
    have hCost := costOfLines_whole h s
    have hSpend := spendIn_whole h s
    simp only [marginsOf_eq, readCogs_cogsMu hA, readCogs_cogsMu hB, readCogs_cogsMu hWhole,
      netIn_whole h, count_whole h, mul_add, roundingMu]
    constructor <;> linarith
  constructor
  · rintro hLaw ⟨cogsA, hA⟩ ⟨cogsB, hB⟩ ⟨cogs, hWhole⟩
    have hCm1 := (hLaw _ _ _ (shows_iff.mpr ⟨cogsA, hA, rfl⟩) (shows_iff.mpr ⟨cogsB, hB, rfl⟩)
      (shows_iff.mpr ⟨cogs, hWhole, rfl⟩)).1
    rwa [(hOff cogsA cogsB cogs hA hB hWhole).1] at hCm1
  · intro hFree ma mb m hShowsA hShowsB hShows
    obtain ⟨cogsA, hA, rfl⟩ := shows_iff.mp hShowsA
    obtain ⟨cogsB, hB, rfl⟩ := shows_iff.mp hShowsB
    obtain ⟨cogs, hWhole, rfl⟩ := shows_iff.mp hShows
    obtain ⟨hCm1, hCm2⟩ := hOff cogsA cogsB cogs hA hB hWhole
    rw [hCm1, hCm2]
    have hNear := hFree ⟨cogsA, hA⟩ ⟨cogsB, hB⟩ ⟨cogs, hWhole⟩
    exact ⟨hNear, hNear⟩

/-! ### Costs that are not in effect -/

/-- A cost that is not in effect adds nothing: it has no amount, or nothing to count it on. -/
def IdleCostsFree (s : PnlState) (range : FactDateRange) : Prop :=
  Answers s (some range) → ∀ c ∈ s.costs, ¬ c.meets range →
    variableOf (netIn s (some range)) (ordersIn s (some range)).length c = 0 ∧ fixedOf c = 0

theorem inEffect_iff (s : PnlState) (range : FactDateRange) :
    InEffect s range ↔ IdleCostsFree s range := by
  have hChange : ∀ before c after, s.costs = before ++ c :: after →
      ∀ cogsMu, marginsOf { s with costs := before ++ after } (some range) cogsMu =
          marginsOf s (some range) cogsMu ↔
        variableOf (netIn s (some range)) (ordersIn s (some range)).length c = 0 ∧
          fixedOf c = 0 := by
    intro before c after hCosts cogsMu
    have hNet := netRevenueMu_readPnl s (some range)
    have hCount : (readPnl s.facts (some range)).orderCount =
        (ordersIn s (some range)).length := rfl
    simp only [marginsOf, hNet, hCount, hCosts, variableMu_eq, miscMu_eq, List.map_append,
      List.map_cons, List.sum_append, List.sum_cons, Margins.mk.injEq]
    constructor
    · rintro ⟨hCm1, -, hCm3⟩
      constructor <;> linarith
    · rintro ⟨hVariable, hFixed⟩
      rw [hVariable, hFixed]
      simp only [zero_add, and_self]
  constructor
  · rintro hLaw ⟨cogs, hCogs⟩ c hc hIdle
    obtain ⟨before, after, hCosts⟩ := List.append_of_mem hc
    apply (hChange before c after hCosts cogs.cogsMu).mp
    exact hLaw before c after hCosts hIdle _ _ (shows_iff.mpr ⟨cogs, hCogs, rfl⟩)
      (shows_iff.mpr ⟨cogs, hCogs, rfl⟩)
  · intro hFree before c after hCosts hIdle m m' hShows hShows'
    obtain ⟨cogs, hCogs, rfl⟩ := shows_iff.mp hShows
    obtain ⟨cogs', hCogs', rfl⟩ := shows_iff.mp hShows'
    have hSame : cogs' = cogs := by
      have hBoth : Except.ok cogs' = (Except.ok cogs : Except PgError _) := hCogs'.symm.trans hCogs
      cases hBoth
      rfl
    rw [hSame]
    apply (hChange before c after hCosts cogs.cogsMu).mpr
    exact hFree ⟨cogs, hCogs⟩ c (hCosts ▸ List.mem_append_right before List.mem_cons_self) hIdle

/-! ### All three -/

/-- When the laws hold: of dead orders in a range, of adjacent ranges, and of costs in a range. -/
theorem margins_laws_iff (s : PnlState) (range : Option FactDateRange) {a b whole : FactDateRange}
    (window : FactDateRange) (h : Adjacent a b whole) :
    (DeadOrdersOut s range ∧ AddsUp s a b whole ∧ InEffect s window) ↔
      (DeadOrdersFree s range ∧ SharedLinesFree s a b whole ∧ IdleCostsFree s window) := by
  rw [deadOrdersOut_iff, addsUp_iff h, inEffect_iff]

/-! ### Orders of June -/

/-- A paid order, of one line. -/
def paidOrders : PnlState where
  facts :=
    { orders := [⟨"SHOPIFY", "1", none, 50000, 0, 0, 0, "INR", some "paid", none,
        some (midnight (juneDay 5))⟩]
      lineItems := [⟨"SHOPIFY", "1", "1", none, none, 1, 30000⟩]
      products := []
      adSpend := [] }
  cogsSettings := ⟨0, 5000, 0⟩
  costs := [⟨.packaging, none, 500, false, none, .perOrder, juneDay 1, none⟩]

/-- A second shop uses the id again, an order is cancelled, and a cost begins later. -/
def mixedOrders : PnlState :=
  { paidOrders with
    facts := { paidOrders.facts with
      orders := paidOrders.facts.orders ++
        [⟨"WOOCOMMERCE", "1", none, 40000, 0, 0, 0, "INR", some "paid", none,
            some (midnight (juneDay 15))⟩,
          ⟨"SHOPIFY", "2", none, 20000, 0, 0, 0, "INR", some "paid",
            some (midnight (juneDay 16)), some (midnight (juneDay 15))⟩] }
    costs := paidOrders.costs ++
      [⟨.website, none, 9000, false, none, .monthly, juneDay 25, none⟩] }

theorem halves_adjacent : Adjacent ⟨juneDay 1, juneDay 10⟩ ⟨juneDay 11, juneDay 20⟩
    ⟨juneDay 1, juneDay 20⟩ :=
  adjacent_of_next (by decide) (by decide) (by decide)

theorem paidOrders_laws :
    DeadOrdersOut paidOrders none ∧
      AddsUp paidOrders ⟨juneDay 1, juneDay 10⟩ ⟨juneDay 11, juneDay 20⟩ ⟨juneDay 1, juneDay 20⟩ ∧
      InEffect paidOrders ⟨juneDay 1, juneDay 20⟩ := by
  apply (margins_laws_iff paidOrders none ⟨juneDay 1, juneDay 20⟩ halves_adjacent).mpr
  refine ⟨?_, sharedLinesFree_of_nil (by decide), ?_⟩
  · intro before o after hOrders hDead
    have hMem : o ∈ paidOrders.facts.orders := hOrders ▸ List.mem_append_right before List.mem_cons_self
    have hLive : ∀ o ∈ paidOrders.facts.orders, o.live = true := by decide
    rw [hLive o hMem] at hDead
    cases hDead
  · intro _ c hc hIdle
    have hMeets : ∀ c ∈ paidOrders.costs, c.meets ⟨juneDay 1, juneDay 20⟩ := by decide
    exact absurd (hMeets c hc) hIdle

/-- The cancelled order brings a packaging cost, the line of the shared id costs twice, and the
later cost is counted. -/
theorem mixedOrders_no_laws :
    ¬ DeadOrdersOut mixedOrders (some ⟨juneDay 1, juneDay 20⟩) ∧
      ¬ AddsUp mixedOrders ⟨juneDay 1, juneDay 10⟩ ⟨juneDay 11, juneDay 20⟩
        ⟨juneDay 1, juneDay 20⟩ ∧
      ¬ InEffect mixedOrders ⟨juneDay 1, juneDay 20⟩ := by
  rw [deadOrdersOut_iff, addsUp_iff halves_adjacent, inEffect_iff]
  refine ⟨?_, ?_, ?_⟩
  · intro hFree
    have hCost := hFree (mixedOrders.facts.orders.take 2) _ [] rfl rfl ⟨_, rfl⟩ ⟨_, rfl⟩
    revert hCost
    decide
  · intro hFree
    have hNear := hFree ⟨_, rfl⟩ ⟨_, rfl⟩ ⟨_, rfl⟩
    revert hNear
    decide
  · intro hFree
    have hIdle := hFree ⟨_, rfl⟩ ⟨.website, none, 9000, false, none, .monthly, juneDay 25, none⟩
      (by decide) (by decide)
    revert hIdle
    decide

end BrainV2.LivePlane
