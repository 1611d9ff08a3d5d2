import BrainV2.Analytics.Ranges
import BrainV2.LivePlane.MarginLaws
import BrainV2.LivePlane.Surfaces

/-!
# The date picker of the live plane

* `AgreeIn`, `SameHistory`: two states agree on what is dated in a range, and on the orders before;
* `Surface.Honours`: a surface answers the same on states that agree;
* `date_picker_iff`: the surfaces that do so.
-/

namespace BrainV2.LivePlane

open Analytics (LineItemFact OrderPayment SameBefore SameIn SameLinesIn)
open Grouping
open Sql (FactDateRange juneDay midnight)

namespace PlaneState

/-- The line is of an order of the range. -/
def isLineIn (s : PlaneState) (range : FactDateRange) (li : LineItemFact) : Bool :=
  s.orders.any fun o => o.inRange (some range) && isLineOf o.toOrderFact li

/-- A line with the id of an order of the range is of an order of the range. -/
def LinesOwn (s : PlaneState) (range : FactDateRange) : Prop :=
  ∀ li ∈ s.lineItems, li.inRange s.facts.orders (some range) = true → s.isLineIn range li = true

end PlaneState

/-- What is dated in the range is the same, and so is what has no date. -/
structure AgreeIn (range : FactDateRange) (s s' : PlaneState) : Prop where
  orders : s.orders.filter (·.inRange (some range)) = s'.orders.filter (·.inRange (some range))
  lineItems : s.lineItems.filter (s.isLineIn range) = s'.lineItems.filter (s'.isLineIn range)
  adSpend : s.adSpend.filter (·.inRange (some range)) = s'.adSpend.filter (·.inRange (some range))
  shipments : s.shipments.filter (·.inRange range) = s'.shipments.filter (·.inRange range)
  products : s.products = s'.products
  cogsSettings : s.cogsSettings = s'.cogsSettings
  costs : s.costs = s'.costs
  goals : s.goals = s'.goals

/-- The orders before the range are the same. -/
def SameHistory (range : FactDateRange) (s s' : PlaneState) : Prop :=
  s.orders.filter (·.placedBefore range.fromDate) =
    s'.orders.filter (·.placedBefore range.fromDate)

namespace Surface

variable {β : Type}

/-- The surface tells first orders from later ones. -/
def needsHistory : Surface β → Bool
  | dailyAcquisition | ltvSummary | lifecycleStates | orderTimings | calendarReport _ => true
  | _ => false

/-- The surface hands the range on to its readers. -/
def windowed : Surface β → Bool
  | storeSummary | kpiSummary | pnlStatement | cmWaterfall | pnlWaterfall | pnlPeriodGrid _
  | costStack | goalAttainment | marketingEfficiency | acquisitionSummary | dailyAcquisition => true
  | rtoAnalytics | codPrepaid _ | logistics | pincodeIntelligence _ | distributions _ | ltvSummary
  | lifecycleStates | orderTimings | calendarReport _ => false

/-- The surface reads lines by the ids of the orders of the range. -/
def readsLines : Surface β → Bool
  | kpiSummary | pnlStatement | cmWaterfall | pnlWaterfall | pnlPeriodGrid _ | costStack => true
  | _ => false

/-- The two states agree on all that the surface may tell of the range. -/
def Agree (surface : Surface β) (range : FactDateRange) (s s' : PlaneState) : Prop :=
  AgreeIn range s s' ∧ (surface.needsHistory = true → SameHistory range s s')

/-- Rows that are not of the range do not change the answer. -/
def Honours (engines : Engines) (surface : Surface β) : Prop :=
  ∀ range s s', surface.Agree range s s' →
    surface.answer engines s range = surface.answer engines s' range

/-- So it is of states in which an order id of the range is of no order elsewhere that has lines. -/
def HonoursOwnLines (engines : Engines) (surface : Surface β) : Prop :=
  ∀ range s s', surface.Agree range s s' → s.LinesOwn range → s'.LinesOwn range →
    surface.answer engines s range = surface.answer engines s' range

end Surface

/-! ### Readers of a range -/

section

variable {range : FactDateRange} {s s' : PlaneState}

theorem AgreeIn.sameIn (h : AgreeIn range s s') : SameIn range s.facts s'.facts := by
  constructor
  · simp only [PlaneState.facts, List.filter_map]
    exact congrArg _ h.orders
  · exact h.adSpend

theorem sameBefore_of_history (h : SameHistory range s s') :
    SameBefore range.fromDate s.facts s'.facts := by
  simp only [SameBefore, PlaneState.facts, List.filter_map]
  exact congrArg _ h

theorem inRange_of_isLineIn {li : LineItemFact} (h : s.isLineIn range li = true) :
    li.inRange s.facts.orders (some range) = true := by
  obtain ⟨o, ho, hLine⟩ := List.any_eq_true.mp h
  rw [Bool.and_eq_true] at hLine
  obtain ⟨hIn, hOf⟩ := hLine
  rw [isLineOf, Bool.and_eq_true] at hOf
  rw [LineItemFact.inRange, List.any_eq_true]
  refine ⟨o.toOrderFact, List.mem_map_of_mem ho, ?_⟩
  rw [hIn, of_decide_eq_true hOf.2]
  simp

theorem filter_lines_of_own (hOwn : s.LinesOwn range) :
    s.lineItems.filter (·.inRange s.facts.orders (some range)) =
      s.lineItems.filter (s.isLineIn range) := by
  apply List.filter_congr
  intro li hli
  rw [Bool.eq_iff_iff]
  exact ⟨hOwn li hli, inRange_of_isLineIn⟩

theorem AgreeIn.sameLinesIn (h : AgreeIn range s s') (hOwn : s.LinesOwn range)
    (hOwn' : s'.LinesOwn range) : SameLinesIn range s.facts s'.facts := by
  constructor
  · change s.lineItems.filter _ = s'.lineItems.filter _
    rw [filter_lines_of_own hOwn, filter_lines_of_own hOwn', h.lineItems]
  · exact h.products

variable {engines : Engines} {β : Type}

/-- The surfaces that read no lines. -/
theorem honours_of_windowed {surface : Surface β} (hWindowed : surface.windowed = true)
    (hLines : surface.readsLines = false) : surface.Honours engines := by
  intro range s s' ⟨h, hHistory⟩
  have hPnl := Analytics.readPnl_same h.sameIn
  have hMarketing := Analytics.readMarketing_same h.sameIn
  cases surface with
  | storeSummary => simp only [Surface.answer, Analytics.readStoreSummary_same h.sameIn]
  | goalAttainment => simp only [Surface.answer, hPnl, h.goals]
  | marketingEfficiency => simp only [Surface.answer, hMarketing]
  | acquisitionSummary => simp only [Surface.answer, hMarketing]
  | dailyAcquisition =>
    exact Analytics.readDailyAcquisition_same h.sameIn (sameBefore_of_history (hHistory rfl))
  | kpiSummary | pnlStatement | cmWaterfall | pnlWaterfall | pnlPeriodGrid | costStack =>
    cases hLines
  | rtoAnalytics | codPrepaid | logistics | pincodeIntelligence | distributions | ltvSummary
  | lifecycleStates | orderTimings | calendarReport => cases hWindowed

theorem honoursOwnLines_of_windowed {surface : Surface β} (hWindowed : surface.windowed = true) :
    surface.HonoursOwnLines engines := by
  intro range s s' hAgree hOwn hOwn'
  cases hLines : surface.readsLines with
  | false => exact honours_of_windowed hWindowed hLines range s s' hAgree
  | true =>
    have h := hAgree.1
    have hPnl := Analytics.readPnl_same h.sameIn
    have hStore := Analytics.readStoreSummary_same h.sameIn
    have hSame := h.sameLinesIn hOwn hOwn'
    have hCogs : Analytics.readCogs s.cogsSettings s.facts (some range) =
        Analytics.readCogs s'.cogsSettings s'.facts (some range) := by
      rw [Analytics.readCogs_same _ hSame, h.cogsSettings]
    cases surface with
    | kpiSummary =>
      change getKpiSummary s.pnl (some range) = getKpiSummary s'.pnl (some range)
      unfold getKpiSummary PlaneState.pnl
      rw [hPnl, hStore, hCogs, h.costs]
    | pnlStatement =>
      change getPnlStatement s.pnl (some range) = getPnlStatement s'.pnl (some range)
      unfold getPnlStatement PlaneState.pnl
      rw [hPnl, hCogs, h.costs]
    | cmWaterfall | pnlWaterfall =>
      change getCmWaterfall s.pnl (some range) = getCmWaterfall s'.pnl (some range)
      unfold getCmWaterfall PlaneState.pnl
      rw [hPnl, hCogs, h.costs]
    | pnlPeriodGrid granularity =>
      simp only [Surface.answer]
      rw [Analytics.readPnlPeriodGrid_same h.sameIn hSame engines.locale granularity]
    | costStack =>
      simp only [Surface.answer]
      rw [hPnl, hCogs, h.costs, h.cogsSettings]
    | storeSummary | goalAttainment | marketingEfficiency | acquisitionSummary | dailyAcquisition
    | rtoAnalytics | codPrepaid | logistics | pincodeIntelligence | distributions | ltvSummary
    | lifecycleStates | orderTimings | calendarReport => cases hLines

end

/-! ### Rows outside the range -/

/-- A workspace without facts. -/
def quietState : PlaneState where
  orders := []
  lineItems := []
  products := []
  adSpend := []
  shipments := []
  cogsSettings := ⟨0, 0, 0⟩
  costs := []
  goals := []

def lateOrder : OrderPayment :=
  { toOrderFact := ⟨"SHOPIFY", "1", some "7", 50000, 0, 0, 0, "INR", some "paid", none,
      some (midnight (juneDay 20))⟩
    paymentMethod := some "COD" }

/-- An order of 20 June, with its line and its shipment. -/
def lateState : PlaneState :=
  { quietState with
    orders := [lateOrder]
    lineItems := [⟨"SHOPIFY", "1", "1", some "p", none, 1, 50000⟩]
    shipments := [⟨"SHIPROCKET", "1", some "DELIVERED", some true, some 50000, some 4000,
      some "Xpressbees", some "560001", some "Bengaluru", some (midnight (juneDay 20))⟩] }

def earlyJune : FactDateRange := ⟨juneDay 1, juneDay 10⟩

theorem late_agree : AgreeIn earlyJune quietState lateState where
  orders := by decide
  lineItems := by decide
  adSpend := by decide
  shipments := by decide
  products := rfl
  cogsSettings := rfl
  costs := rfl
  goals := rfl

theorem late_history : SameHistory earlyJune quietState lateState := by
  unfold SameHistory
  decide

theorem late_own : lateState.LinesOwn earlyJune := by
  unfold PlaneState.LinesOwn
  decide

theorem quiet_own : quietState.LinesOwn earlyJune := by
  unfold PlaneState.LinesOwn
  decide

/-- Answers with different figures are different. -/
theorem ne_of_figure {β γ : Type} {x y : β} (figure : β → γ) {m n : γ} (hx : figure x = m)
    (hy : figure y = n) (h : m ≠ n) : x ≠ y := by
  rintro rfl
  exact h (hx.symm.trans hy)

section

variable (engines : Engines)

/-- When nothing comes back, both rates read as nothing. -/
theorem getCodPrepaid_ok (cp : Analytics.FactCodPrepaid) {s : Analytics.FactShipmentAnalytics}
    (fees : CodPrepaidFeeOverrides) (hCod : s.codRtoCount = 0) (hPrepaid : s.prepaidRtoCount = 0) :
    getCodPrepaid cp s fees = .ok (codPrepaidResult cp s fees.assumed 0 0) := by
  have hRate : ∀ total : Nat, (bp (0 : Nat) total).getD (Binary64.ofInt 0) = Binary64.ofInt 0 := by
    intro total
    unfold bp
    split <;> simp
  have hNone : bigInt (Binary64.ofInt 0) = .ok 0 := bigInt_ofInt (by decide)
  unfold getCodPrepaid
  rw [hCod, hPrepaid, hRate, hRate, hNone]
  rfl

theorem late_codPrepaid (fees : CodPrepaidFeeOverrides) :
    (Surface.codPrepaid fees).answer engines quietState earlyJune ≠
      (Surface.codPrepaid fees).answer engines lateState earlyJune := by
  have hAnswer : ∀ (s : PlaneState) (cp : Analytics.FactCodPrepaid),
      Analytics.readCodPrepaid s.orders = .ok cp →
      (Analytics.readShipmentAnalytics engines.order s.shipments).codRtoCount = 0 →
      (Analytics.readShipmentAnalytics engines.order s.shipments).prepaidRtoCount = 0 →
      ((Surface.codPrepaid fees).answer engines s earlyJune).toOption.bind
        (fun r => r.toOption.map (·.codOrders)) = some cp.codOrders := by
    intro s cp hOrders hCod hPrepaid
    have hOk := getCodPrepaid_ok cp fees hCod hPrepaid
    simp only [Surface.answer, hOrders]
    change (getCodPrepaid cp (Analytics.readShipmentAnalytics engines.order s.shipments)
      fees).toOption.map (·.codOrders) = _
    rw [hOk]
    rfl
  have hQuiet := hAnswer quietState ⟨0, 0, 0, 0, none⟩ rfl rfl rfl
  have hLate := hAnswer lateState ⟨1, 0, 50000, 0, some 50000⟩ rfl rfl rfl
  intro hSame
  rw [hSame, hLate] at hQuiet
  exact absurd hQuiet (by decide)

theorem late_pincodes (filters : Option PincodeFilterInput) :
    (Surface.pincodeIntelligence filters).answer engines quietState earlyJune ≠
      (Surface.pincodeIntelligence filters).answer engines lateState earlyJune := by
  have hQuiet : Analytics.readPincodes engines.order quietState.shipments = [] := by
    unfold Analytics.readPincodes Analytics.groupsBySize
    exact congrArg (fun groups : List (String × List _) =>
      (groups.take 200).map Analytics.pincodeRow) (RowOrder.orderBy_nil engines.order _)
  have hLate : Analytics.readPincodes engines.order lateState.shipments =
      [⟨"560001", "Bengaluru", 1, 0, 1, 1⟩] := by
    unfold Analytics.readPincodes Analytics.groupsBySize
    exact congrArg (fun groups : List (String × List _) =>
      (groups.take 200).map Analytics.pincodeRow)
      (RowOrder.orderBy_singleton engines.order _ ("560001", lateState.shipments))
  apply ne_of_figure (·.totalShipments) (m := 0) (n := 1) _ _ (by decide)
  · simp only [Surface.answer, hQuiet]
    rfl
  · simp only [Surface.answer, hLate]
    rfl

theorem late_distributions (metric : Analytics.DistMetric) :
    (Surface.distributions metric).answer engines quietState earlyJune ≠
      (Surface.distributions metric).answer engines lateState earlyJune := by
  have hQuiet : Analytics.readDistributions engines.order quietState.facts = .ok ⟨[], 0, 0⟩ := by
    unfold Analytics.readDistributions
    exact congrArg (fun rows : List Analytics.FactDistRow =>
      Analytics.bigints [] (Analytics.FactDistributions.mk (rows.take 100) 0 0))
      (RowOrder.orderBy_nil engines.order _)
  have hQuietGraph : Analytics.readDistributionsGraphPoints engines.order quietState.facts metric =
      .ok [] := by
    unfold Analytics.readDistributionsGraphPoints
    have hLines : Analytics.graphLines quietState.facts = [] := rfl
    rw [hLines, RowOrder.Arrangement.arrange_nil]
    rfl
  have hLate : Analytics.readDistributions engines.order lateState.facts =
      .ok ⟨[⟨"(unknown)", 1, 50000, 50000⟩], 50000, 50000⟩ := by
    unfold Analytics.readDistributions
    exact congrArg (fun rows : List Analytics.FactDistRow =>
      Analytics.bigints [50000] (Analytics.FactDistributions.mk (rows.take 100) 50000 50000))
      (RowOrder.orderBy_singleton engines.order (fun r r' => r'.orders ≤ r.orders)
        ⟨"(unknown)", 1, 50000, 50000⟩)
  have hLateGraph : Analytics.readDistributionsGraphPoints engines.order lateState.facts metric =
      .ok [⟨50000, 10000⟩] := by
    unfold Analytics.readDistributionsGraphPoints
    have hLines : Analytics.graphLines lateState.facts =
        [(⟨"SHOPIFY", "1", "1", some "p", none, 1, 50000⟩, none)] := rfl
    rw [hLines, RowOrder.Arrangement.arrange_singleton]
    cases metric <;> rfl
  apply ne_of_figure (fun r => r.toOption.map (·.totalRows)) (m := some 0) (n := some 1) _ _
    (by decide)
  · simp only [Surface.answer, hQuiet, hQuietGraph]
    rfl
  · simp only [Surface.answer, hLate, hLateGraph]
    rfl

theorem late_calendar (grain : Analytics.CalendarGrain) :
    (Surface.calendarReport grain).answer engines quietState earlyJune ≠
      (Surface.calendarReport grain).answer engines lateState earlyJune := by
  apply ne_of_figure (fun r => r.toOption.map (·.totalRows)) (m := some 0) (n := some 1) _ _
    (by decide)
  · cases grain <;> rfl
  · cases grain <;> rfl

/-- The surfaces that do not hand the range on tell the late rows. -/
theorem late_answer {β : Type} {surface : Surface β} (h : surface.windowed = false) :
    surface.answer engines quietState earlyJune ≠ surface.answer engines lateState earlyJune := by
  cases surface with
  | rtoAnalytics =>
    exact ne_of_figure RtoAnalyticsResult.totalShipments (m := 0) (n := 1) rfl rfl (by decide)
  | codPrepaid fees => exact late_codPrepaid engines fees
  | logistics =>
    exact ne_of_figure LogisticsResult.totalShipments (m := 0) (n := 1) rfl rfl (by decide)
  | pincodeIntelligence filters => exact late_pincodes engines filters
  | distributions metric => exact late_distributions engines metric
  | ltvSummary =>
    exact ne_of_figure (fun r => r.toOption.map (·.newCustomers)) (m := some 0) (n := some 1) rfl
      rfl (by decide)
  | lifecycleStates =>
    exact ne_of_figure (fun r => r.toOption.map (·.totalCustomers)) (m := some 0) (n := some 1) rfl
      rfl (by decide)
  | orderTimings =>
    exact ne_of_figure OrderTimingsResult.firstOrders (m := 0) (n := 1) rfl rfl (by decide)
  | calendarReport grain => exact late_calendar engines grain
  | storeSummary | kpiSummary | pnlStatement | cmWaterfall | pnlWaterfall | pnlPeriodGrid
  | costStack | goalAttainment | marketingEfficiency | acquisitionSummary | dailyAcquisition =>
    cases h

end

/-! ### Order ids of two vendors -/

/-- An order of 5 June without lines, and a product of another vendor. -/
def oneVendor : PlaneState :=
  { quietState with
    orders := [⟨⟨"SHOPIFY", "1", some "7", 50000, 0, 0, 0, "INR", some "paid", none,
      some (midnight (juneDay 5))⟩, some "COD"⟩]
    products := [⟨"WOOCOMMERCE", "p", none, some 7000⟩] }

/-- The other vendor has an order of that id too, of 20 June. -/
def twoVendors : PlaneState :=
  { oneVendor with
    orders := oneVendor.orders ++ [⟨⟨"WOOCOMMERCE", "1", some "8", 40000, 0, 0, 0, "INR",
      some "paid", none, some (midnight (juneDay 20))⟩, some "COD"⟩]
    lineItems := [⟨"WOOCOMMERCE", "1", "1", some "p", none, 1, 40000⟩] }

theorem vendors_agree : AgreeIn earlyJune oneVendor twoVendors where
  orders := by decide
  lineItems := by decide
  adSpend := by decide
  shipments := by decide
  products := rfl
  cogsSettings := rfl
  costs := rfl
  goals := rfl

theorem vendors_history : SameHistory earlyJune oneVendor twoVendors := by
  unfold SameHistory
  decide

section

variable (engines : Engines)

/-- The line of the other vendor's order costs the range its goods. -/
theorem vendors_answer {β : Type} {surface : Surface β} (h : surface.readsLines = true) :
    surface.answer engines oneVendor earlyJune ≠ surface.answer engines twoVendors earlyJune := by
  cases surface with
  | kpiSummary =>
    exact ne_of_figure (fun r => r.toOption.map (·.cm2Mu)) (m := some 50000) (n := some 43000) rfl
      rfl (by decide)
  | pnlStatement =>
    exact ne_of_figure (fun r => r.toOption.map (·.cogsMu)) (m := some 0) (n := some 7000) rfl rfl
      (by decide)
  | cmWaterfall | pnlWaterfall =>
    exact ne_of_figure (fun r => r.toOption.map fun steps => steps.map (·.cumulativeMu))
      (m := some [50000, 50000, 50000, 50000, 50000, 50000, 50000, 50000])
      (n := some [50000, 43000, 43000, 43000, 43000, 43000, 43000, 43000]) rfl rfl (by decide)
  | pnlPeriodGrid granularity =>
    apply ne_of_figure (fun r => r.toOption.map fun grid => grid.1.map (·.cogs)) (m := some [0])
      (n := some [7000]) _ _ (by decide)
    · cases granularity <;> rfl
    · cases granularity <;> rfl
  | costStack =>
    exact ne_of_figure (fun r => r.toOption.map (·.resolvedCogsMu)) (m := some 0) (n := some 7000)
      rfl rfl (by decide)
  | storeSummary | goalAttainment | marketingEfficiency | acquisitionSummary | dailyAcquisition
  | rtoAnalytics | codPrepaid | logistics | pincodeIntelligence | distributions | ltvSummary
  | lifecycleStates | orderTimings | calendarReport => cases h

/-! ### Which surfaces honour it -/

/-- A surface honours the date picker when it hands the range on and reads no lines; on states
whose order ids are not shared, when it hands the range on. -/
theorem date_picker_iff {β : Type} (surface : Surface β) :
    (surface.Honours engines ↔ surface.windowed = true ∧ surface.readsLines = false) ∧
      (surface.HonoursOwnLines engines ↔ surface.windowed = true) := by
  constructor
  · constructor
    · intro hHonours
      constructor
      · by_contra hLate
        exact late_answer engines (Bool.eq_false_of_not_eq_true hLate)
          (hHonours _ _ _ ⟨late_agree, fun _ => late_history⟩)
      · by_contra hLines
        exact vendors_answer engines (Bool.eq_true_of_not_eq_false hLines)
          (hHonours _ _ _ ⟨vendors_agree, fun _ => vendors_history⟩)
    · rintro ⟨hWindowed, hLines⟩
      exact honours_of_windowed hWindowed hLines
  · constructor
    · intro hHonours
      by_contra hLate
      exact late_answer engines (Bool.eq_false_of_not_eq_true hLate)
        (hHonours _ _ _ ⟨late_agree, fun _ => late_history⟩ quiet_own late_own)
    · exact honoursOwnLines_of_windowed

end

def plainEngines : Engines where
  js := ⟨id, id, fun _ => none, fun _ => ""⟩
  locale := ⟨fun _ => "", fun _ => ""⟩
  order := .plain

/-- The returns of early June tell of a shipment of 20 June. -/
theorem date_picker_ignored : ¬ ∀ (engines : Engines) (β : Type) (surface : Surface β),
    surface.Honours engines := by
  intro h
  have hSame := h plainEngines _ .rtoAnalytics earlyJune quietState lateState
    ⟨late_agree, fun _ => late_history⟩
  exact absurd hSame (by decide)

end BrainV2.LivePlane
