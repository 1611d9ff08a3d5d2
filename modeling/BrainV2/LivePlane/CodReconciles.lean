import BrainV2.LivePlane.CodPrepaid

/-!
# COD and prepaid economics, reconciled

The live plane takes the fees of a segment off its effective revenue and once more off its net
revenue, truncates where Python rounds down, and reports any break-even that has a denominator.

* `CodInputs`: what the two planes are given;
* `Segment.Holds`, `Reported`, `CodEconomics`: the reconciliation, and the agreement of the planes;
* `SegmentAlike`, `BreaksEven`, `CodAlike`: the inputs for which they hold;
* `codEconomics_iff`, `codEconomics_single_order`.
-/

namespace BrainV2.LivePlane

open Analytics (FactCodPrepaid FactShipmentAnalytics)
open Binary64 (Double ofInt)
open Quotients (Uneven)

/-! ### Inputs -/

/-- What the readers return, with the fees of the request. A returned shipment is a shipment. -/
structure CodInputs where
  cp : FactCodPrepaid
  s : FactShipmentAnalytics
  codDelivered : Nat
  feeOverrides : CodPrepaidFeeOverrides
  codCounted : s.codRtoCount ≤ s.codTotal
  prepaidCounted : s.prepaidRtoCount ≤ s.prepaidTotal

namespace CodInputs

variable (i : CodInputs)

def assumed : FeeAssumptions := i.feeOverrides.assumed

def facts : CodPrepaidQuery.CodPrepaidFacts where
  codOrders := i.cp.codOrders
  prepaidOrders := i.cp.prepaidOrders
  codDelivered := i.codDelivered
  codRto := i.s.codRtoCount
  prepaidRto := i.s.prepaidRtoCount
  grossRevenueCodMu := i.cp.codGrossMu
  grossRevenuePrepaidMu := i.cp.prepaidGrossMu

def fees : CodPrepaidQuery.FeeInputs where
  codFeeMu := i.assumed.codFeePerOrder
  gatewayFeeBp := i.assumed.gatewayFeeBp
  returnShippingMu := i.assumed.returnShipping

end CodInputs

theorem countShipments_le {p q : Analytics.ChShipment → Bool} (h : ∀ s, p s = true → q s = true)
    (rows : List Analytics.ChShipment) :
    Analytics.countShipments rows p ≤ Analytics.countShipments rows q :=
  (List.monotone_filter_right rows h).length_le

/-- What the readers of ClickHouse give. -/
def CodInputs.ofDatabase (b : RowOrder.Arrangement) (db : Analytics.ChDatabase)
    (workspaceId : String) (codDelivered : Nat) (feeOverrides : CodPrepaidFeeOverrides) :
    CodInputs where
  cp := Analytics.readCodPrepaidCH db workspaceId
  s := Analytics.readShipmentAnalyticsCH b db workspaceId
  codDelivered := codDelivered
  feeOverrides := feeOverrides
  codCounted := countShipments_le (by simp +contextual) _
  prepaidCounted := countShipments_le (by simp +contextual) _

/-! ### The economics of a segment -/

/-- The share of the returned ones; none of nothing. -/
def rtoBp (rto total : Nat) : Int := if total = 0 then 0 else (rto * 10000 : Int) / total

/-- A segment, with the fees that it bears. -/
structure Segment where
  orders : Nat
  gross : Int
  rtoBp : Int
  handling : Int
  returns : Int

namespace Segment

/-- What the returned orders cost. -/
def rtoLoss (g : Segment) : Int := g.gross * g.rtoBp / 10000

/-- Each deduction is made once, a net revenue beside is the same amount, and the figure of an
order is rounded down. -/
structure Holds (g : Segment) (effective : Int) (net perOrder : Option Int) : Prop where
  reconciled : g.gross - g.rtoLoss - g.handling - g.returns = effective
  net : ∀ n ∈ net, n = effective
  perOrder : perOrder = if g.orders = 0 then none else some (effective / g.orders)

end Segment

/-- A break-even between 0 and 10000, or a note. -/
def Reported (rate : Option Int) (note : Option String) : Prop :=
  (∃ n, rate = some n ∧ 0 ≤ n ∧ n ≤ 10000) ∨ (rate = none ∧ note ≠ none)

namespace CodInputs

variable (i : CodInputs)

/-- The COD segment, its rate being of `total`. -/
def codSegment (total : Nat) : Segment where
  orders := i.cp.codOrders
  gross := i.cp.codGrossMu
  rtoBp := rtoBp i.s.codRtoCount total
  handling := i.cp.codOrders * i.assumed.codFeePerOrder
  returns := i.s.codRtoCount * i.assumed.returnShipping

def prepaidSegment (total : Nat) : Segment where
  orders := i.cp.prepaidOrders
  gross := i.cp.prepaidGrossMu
  rtoBp := rtoBp i.s.prepaidRtoCount total
  handling := i.cp.prepaidGrossMu * i.assumed.gatewayFeeBp / 10000
  returns := i.s.prepaidRtoCount * i.assumed.returnShipping

end CodInputs

structure CodEconomics (i : CodInputs) (ts : CodPrepaidResult)
    (py : CodPrepaidQuery.CodPrepaidResult) : Prop where
  tsCod : (i.codSegment i.s.codTotal).Holds ts.cod.effectiveRevenueMu (some ts.cod.netRevenueMu)
    ts.cod.netRevenuePerOrderMu
  tsPrepaid : (i.prepaidSegment i.s.prepaidTotal).Holds ts.prepaid.effectiveRevenueMu
    (some ts.prepaid.netRevenueMu) ts.prepaid.netRevenuePerOrderMu
  pyCod : (i.codSegment i.cp.codOrders).Holds py.cod.effectiveRevenueMu none
    py.cod.netRevenuePerOrderMu
  pyPrepaid : (i.prepaidSegment i.cp.prepaidOrders).Holds py.prepaid.effectiveRevenueMu none
    py.prepaid.netRevenuePerOrderMu
  effectiveCod : ts.effectiveRevenueCodMu = py.effectiveRevenueCodMu
  effectivePrepaid : ts.effectiveRevenuePrepaidMu = py.effectiveRevenuePrepaidMu
  premium : ts.prepaidPremiumMu = py.prepaidPremiumMu
  perOrderCod : ts.cod.netRevenuePerOrderMu = py.cod.netRevenuePerOrderMu
  perOrderPrepaid : ts.prepaid.netRevenuePerOrderMu = py.prepaid.netRevenuePerOrderMu
  breakeven : ∃ rate, Reads ts.breakevenCodRtoRateBp rate ∧ Reported rate ts.breakevenNote ∧
    Reported py.breakevenCodRtoRateBp py.breakevenNote ∧ rate = py.breakevenCodRtoRateBp

/-! ### The inputs for which it holds -/

/-- No fee is charged, the two rates leave the same, and nothing negative is divided unevenly. -/
structure SegmentAlike (g g' : Segment) : Prop where
  free : g.handling + g.returns = 0
  share : g.gross * g.rtoBp / 10000 = g.gross * g'.rtoBp / 10000
  whole : ¬ Uneven (g.gross * g.rtoBp) 10000
  perOrder : 0 < g.orders → ¬ Uneven (g.gross - g.rtoLoss) g.orders

/-- The quotient of Python. -/
structure Even (num denom n : Int) : Prop where
  pos : 0 < denom
  low : n * denom ≤ num
  high : num < (n + 1) * denom

namespace CodInputs

variable (i : CodInputs)

/-- The average order of the two segments. -/
def averageOrder : Int :=
  (i.cp.codGrossMu + i.cp.prepaidGrossMu) / (i.cp.codOrders + i.cp.prepaidOrders : Nat)

def pyDenom : Int := i.averageOrder + i.assumed.returnShipping

def pyNum : Int :=
  let rate := rtoBp i.s.prepaidRtoCount i.cp.prepaidOrders
  i.averageOrder * rate +
    (i.assumed.codFeePerOrder - i.averageOrder * i.assumed.gatewayFeeBp / 10000) * 10000 +
    rate * i.assumed.returnShipping

def tsDenom : Int := breakevenDenom (i.cp.aovMu.getD 0) i.assumed.returnShipping

def tsNum : Int :=
  breakevenNum (i.cp.aovMu.getD 0) (rtoBp i.s.prepaidRtoCount i.s.prepaidTotal) i.assumed

/-- One rate between 0 and 10000 at which both sides of the two balances meet. -/
def BreaksEven : Prop :=
  0 < i.cp.codOrders + i.cp.prepaidOrders ∧ 0 < i.averageOrder ∧
    ∃ n, 0 ≤ n ∧ n ≤ 10000 ∧ Even i.pyNum i.pyDenom n ∧
      (Even i.tsNum i.tsDenom n ∨ n = 0 ∧ 0 < i.tsDenom ∧ -i.tsDenom < i.tsNum ∧ i.tsNum < 0)

end CodInputs

structure CodAlike (i : CodInputs) : Prop where
  cod : SegmentAlike (i.codSegment i.s.codTotal) (i.codSegment i.cp.codOrders)
  prepaid : SegmentAlike (i.prepaidSegment i.s.prepaidTotal) (i.prepaidSegment i.cp.prepaidOrders)
  gateway : ¬ Uneven (i.cp.prepaidGrossMu * i.assumed.gatewayFeeBp) 10000
  breaksEven : i.BreaksEven

/-! ### Rates -/

theorem rtoBp_bounds {rto total : Nat} (h : rto ≤ total) :
    0 ≤ rtoBp rto total ∧ rtoBp rto total ≤ 10000 := by
  unfold rtoBp
  split
  · simp
  · next hne =>
    have hpos : (0 : Int) < total := by omega
    constructor
    · exact Int.ediv_nonneg (by omega) hpos.le
    · apply Int.ediv_le_of_le_mul hpos
      omega

theorem bigInt_bp {rto total : Nat} (h : rto ≤ total) :
    bigInt ((bp rto total).getD (ofInt 0)) = .ok (rtoBp rto total) := by
  obtain ⟨hlow, hhigh⟩ := rtoBp_bounds h
  have hrate : (bp rto total).getD (ofInt 0) = ofInt (rtoBp rto total) := by
    unfold bp rtoBp
    cases Nat.eq_zero_or_pos total with
    | inl hzero => rw [if_pos (by omega), if_pos hzero, Option.getD_none]
    | inr hpos =>
      rw [if_neg (by omega), if_neg hpos.ne', Option.getD_some,
        Int.tdiv_eq_ediv_of_nonneg (by omega)]
  rw [hrate]
  exact bigInt_ofInt ⟨by omega, by omega⟩

theorem getD_rateOf (rto orders : Nat) :
    (CodPrepaidQuery.rateOf (Metrics.Registry.Division.rtoRateBp rto orders).formulaPy
      orders).getD 0 = rtoBp rto orders := by
  cases Nat.eq_zero_or_pos orders with
  | inl hzero => simp [CodPrepaidQuery.rateOf, rtoBp, hzero]
  | inr hpos =>
    have hcast : (0 : Int) < orders := by omega
    have hneg : ¬ (orders : Int) ≤ 0 := by omega
    simp only [CodPrepaidQuery.rateOf, rtoBp, hcast, hpos.ne', if_true, if_false,
      Metrics.Registry.Division.formulaPy, Metrics.Registry.ratioBp,
      Metrics.Registry.intFloorDivOrNull, hneg, Option.getD_some]
    exact Quotients.fdiv_eq hcast

theorem getCodPrepaid_eq (i : CodInputs) : getCodPrepaid i.cp i.s i.feeOverrides =
    .ok (codPrepaidResult i.cp i.s i.assumed (rtoBp i.s.codRtoCount i.s.codTotal)
      (rtoBp i.s.prepaidRtoCount i.s.prepaidTotal)) := by
  simp only [getCodPrepaid, bigInt_bp i.codCounted, bigInt_bp i.prepaidCounted]
  rfl

/-! ### Segments -/

namespace Segment

variable {g g' : Segment}

theorem survived_eq (gross rate : Int) : CodPrepaidQuery.survived gross rate =
    gross - gross * rate / 10000 := by
  simp [CodPrepaidQuery.survived, Quotients.fdiv_eq (show (0 : Int) < 10000 by decide)]

/-- A row of Python reconciles. -/
theorem holds_segment (g : Segment) (method : String) (rto : Option Int) (fees : Int) :
    g.Holds (CodPrepaidQuery.segment method g.orders g.gross rto
        (g.gross - g.rtoLoss - g.handling - g.returns) fees).effectiveRevenueMu none
      (CodPrepaidQuery.segment method g.orders g.gross rto
        (g.gross - g.rtoLoss - g.handling - g.returns) fees).netRevenuePerOrderMu := by
  refine ⟨rfl, nofun, ?_⟩
  cases Nat.eq_zero_or_pos g.orders with
  | inl hzero => simp [CodPrepaidQuery.segment, hzero]
  | inr hpos =>
    have hcast : (0 : Int) < g.orders := by omega
    simp [CodPrepaidQuery.segment, hpos.ne', hpos, Quotients.fdiv_eq hcast]

/-- What is truncated is at least what is rounded down, and the same only of a number that is
divided evenly. -/
theorem tdiv_add_eq_iff {n d a b : Int} (hd : 0 < d) (h : b ≤ a) :
    n.tdiv d + a = n / d + b ↔ ¬ Uneven n d ∧ a = b := by
  rw [Quotients.tdiv_eq hd]
  split
  · next huneven => exact iff_of_false (by omega) fun h => h.1 huneven
  · next heven =>
    constructor
    · intro heq
      exact ⟨heven, by omega⟩
    · intro heq
      omega

theorem le_tdiv (n : Int) {d : Int} (hd : 0 < d) : n / d ≤ n.tdiv d := by
  rw [Quotients.tdiv_eq hd]
  split <;> omega

/-- A row of the live plane reconciles when its fees come to nothing; `handling` is what the code
takes for them. -/
theorem holds_segmentRow_iff (g : Segment) (method : String) (rto : Option Double)
    {handling effective : Int} (hhandling : g.handling ≤ handling)
    (heffective : effective = survived g.gross g.rtoBp - handling - g.returns) :
    g.Holds (segmentRow method g.orders g.gross rto effective
        (handling + g.returns)).effectiveRevenueMu
      (some (segmentRow method g.orders g.gross rto effective
        (handling + g.returns)).netRevenueMu)
      (segmentRow method g.orders g.gross rto effective
        (handling + g.returns)).netRevenuePerOrderMu ↔
      handling = g.handling ∧ g.handling + g.returns = 0 ∧
        ¬ Uneven (g.gross * g.rtoBp) 10000 ∧
        (0 < g.orders → ¬ Uneven (g.gross - g.rtoLoss) g.orders) := by
  have hsum := tdiv_add_eq_iff (n := g.gross * g.rtoBp) (show (0 : Int) < 10000 by decide) hhandling
  have hper : handling = g.handling → g.handling + g.returns = 0 →
      ¬ Uneven (g.gross * g.rtoBp) 10000 → effective = g.gross - g.rtoLoss := by
    intro hsame hfree hwhole
    have hloss : (g.gross * g.rtoBp).tdiv 10000 = g.rtoLoss :=
      (Quotients.tdiv_eq_ediv_iff (by decide)).mpr hwhole
    rw [heffective, survived, hloss]
    omega
  have hfigure : effective = g.gross - g.rtoLoss →
      ((if 0 < g.orders then some (effective.tdiv g.orders) else none) =
        (if g.orders = 0 then none else some (effective / g.orders)) ↔
      (0 < g.orders → ¬ Uneven (g.gross - g.rtoLoss) g.orders)) := by
    intro heq
    cases Nat.eq_zero_or_pos g.orders with
    | inl hzero => simp [hzero]
    | inr hpos =>
      have hcast : (0 : Int) < g.orders := by omega
      simp [hpos, hpos.ne', heq, Quotients.tdiv_eq_ediv_iff hcast]
  constructor
  · rintro ⟨hreconciled, hnet, heach⟩
    have hfree : handling + g.returns = 0 := by
      have := hnet _ rfl
      simp only [segmentRow] at this
      omega
    obtain ⟨hwhole, hsame⟩ := hsum.mp (by
      simp only [segmentRow, heffective, survived, rtoLoss] at hreconciled
      omega)
    have hzero : g.handling + g.returns = 0 := by omega
    exact ⟨hsame, hzero, hwhole, (hfigure (hper hsame hzero hwhole)).mp heach⟩
  · rintro ⟨hsame, hfree, hwhole, heach⟩
    have heq := hper hsame hfree hwhole
    refine ⟨?_, ?_, (hfigure heq).mpr heach⟩
    · simp only [segmentRow]
      omega
    · intro n hn
      cases hn
      simp only [segmentRow]
      omega

end Segment

/-! ### The break-even -/

theorem even_iff {num denom n : Int} : Even num denom n ↔ 0 < denom ∧ num / denom = n := by
  have hnext : (n + 1) * denom = n * denom + denom := by rw [Int.add_mul, Int.one_mul]
  constructor
  · intro h
    exact ⟨h.pos, (Int.ediv_eq_iff_of_pos h.pos).mpr ⟨h.low, by have := h.high; omega⟩⟩
  · rintro ⟨hpos, hquotient⟩
    obtain ⟨hlow, hhigh⟩ := (Int.ediv_eq_iff_of_pos hpos).mp hquotient
    exact ⟨hpos, hlow, by omega⟩

/-- A negative number that is nearer to zero than the denominator is truncated to zero. -/
theorem tdiv_eq_iff {num denom n : Int} (hn : 0 ≤ n) : 0 < denom ∧ num.tdiv denom = n ↔
    Even num denom n ∨ n = 0 ∧ 0 < denom ∧ -denom < num ∧ num < 0 := by
  rw [even_iff]
  by_cases hpos : 0 < denom
  · cases Int.lt_or_le num 0 with
    | inl hneg =>
      have hfloor : num / denom < 0 := Int.ediv_neg_of_neg_of_pos hneg hpos
      have hflip : num.tdiv denom = -((-num) / denom) := by
        rw [← Int.tdiv_eq_ediv_of_nonneg (by omega), Int.neg_tdiv, Int.neg_neg]
      have hlow : 0 ≤ (-num) / denom := Int.ediv_nonneg (by omega) hpos.le
      have hzero : (-num) / denom = 0 ↔ -denom < num := by
        rw [Int.ediv_eq_iff_of_pos hpos]
        omega
      rw [hflip]
      omega
    | inr hnum =>
      rw [Int.tdiv_eq_ediv_of_nonneg hnum]
      omega
  · omega

theorem reads_breakeven_iff (aov rate : Int) (fees : FeeAssumptions) {n : Int} (hn : 0 ≤ n)
    (hhigh : n ≤ 10000) : Reads (breakeven aov rate fees) (some n) ↔
      0 < breakevenDenom aov fees.returnShipping ∧
        (breakevenNum aov rate fees).tdiv (breakevenDenom aov fees.returnShipping) = n := by
  unfold breakeven
  split
  · next hpos =>
    simp only [Reads, hpos, true_and]
    exact bigIntOfNumber_iff ⟨by omega, by omega⟩
  · next hpos => simp [Reads, hpos]

namespace CodPrepaidQuery

theorem reported_reported (raw : Option Int) : Reported (reported raw).1 (reported raw).2 := by
  fun_cases reported raw with
  | case1 => exact Or.inr ⟨rfl, nofun⟩
  | case2 raw hraw => exact Or.inl ⟨raw, rfl, hraw⟩
  | case3 => exact Or.inr ⟨rfl, nofun⟩
  | case4 => exact Or.inr ⟨rfl, nofun⟩

/-- What is reported is a rate in range, or a note. -/
theorem reported_breakeven (aov : Option Int) (rate orders gross : Int) (fees : FeeInputs) :
    Reported (breakeven aov rate orders gross fees).1 (breakeven aov rate orders gross fees).2 := by
  fun_cases breakeven aov rate orders gross fees with
  | case1 => exact Or.inr ⟨rfl, nofun⟩
  | case2 v => exact reported_reported _
  | case3 => exact Or.inr ⟨rfl, nofun⟩

theorem reported_some_iff (raw : Option Int) (n : Int) :
    (reported raw).1 = some n ↔ raw = some n ∧ 0 ≤ n ∧ n ≤ 10000 := by
  fun_cases reported raw with
  | case1 => simp
  | case2 raw hraw =>
    simp only [Option.some.injEq]
    omega
  | case3 raw hraw => simp; omega
  | case4 raw hraw => simp; omega

end CodPrepaidQuery

/-! ### The two tables -/

/-- A scoped request of Python, with what ClickHouse answers. -/
structure CodRequest where
  workspaceId : String
  inWorkspace : Metrics.isBlankText workspaceId = false
  dateRange : Metrics.DateRange
  read : List Metrics.ComputedRow
  currencyCode : String

theorem CodRequest.execute_eq (r : CodRequest) (facts : CodPrepaidQuery.CodPrepaidFacts)
    (fees : CodPrepaidQuery.FeeInputs) :
    CodPrepaidQuery.execute (.ok r.read) r.workspaceId r.dateRange facts fees r.currencyCode =
      .ok (CodPrepaidQuery.economics r.workspaceId facts fees r.currencyCode) := by
  simp only [CodPrepaidQuery.execute, Metrics.runQuery, Metrics.queryMetrics, r.inWorkspace]
  rfl

namespace CodInputs

variable (i : CodInputs)

/-- What the live plane answers. -/
def live : CodPrepaidResult :=
  codPrepaidResult i.cp i.s i.assumed (rtoBp i.s.codRtoCount i.s.codTotal)
    (rtoBp i.s.prepaidRtoCount i.s.prepaidTotal)

/-- What Python answers. -/
def python (r : CodRequest) : CodPrepaidQuery.CodPrepaidResult :=
  CodPrepaidQuery.economics r.workspaceId i.facts i.fees r.currencyCode

variable (r : CodRequest)

theorem python_effectiveCod : (i.python r).effectiveRevenueCodMu =
    (i.codSegment i.cp.codOrders).gross - (i.codSegment i.cp.codOrders).rtoLoss -
      (i.codSegment i.cp.codOrders).handling - (i.codSegment i.cp.codOrders).returns := by
  simp only [python, CodPrepaidQuery.economics, facts, fees, getD_rateOf, Segment.survived_eq]
  rfl

theorem python_effectivePrepaid : (i.python r).effectiveRevenuePrepaidMu =
    (i.prepaidSegment i.cp.prepaidOrders).gross - (i.prepaidSegment i.cp.prepaidOrders).rtoLoss -
      (i.prepaidSegment i.cp.prepaidOrders).handling -
      (i.prepaidSegment i.cp.prepaidOrders).returns := by
  simp only [python, CodPrepaidQuery.economics, facts, fees, getD_rateOf, Segment.survived_eq,
    Quotients.fdiv_eq (show (0 : Int) < 10000 by decide)]
  rfl

theorem python_cod : (i.codSegment i.cp.codOrders).Holds (i.python r).cod.effectiveRevenueMu none
    (i.python r).cod.netRevenuePerOrderMu := by
  have hrow : (i.python r).cod = CodPrepaidQuery.segment "COD" i.cp.codOrders i.cp.codGrossMu
      (i.python r).codRtoRateBp (i.python r).effectiveRevenueCodMu (i.python r).cod.feeTotalMu := rfl
  rw [hrow, python_effectiveCod]
  exact Segment.holds_segment (i.codSegment i.cp.codOrders) _ _ _

theorem python_prepaid : (i.prepaidSegment i.cp.prepaidOrders).Holds
    (i.python r).prepaid.effectiveRevenueMu none (i.python r).prepaid.netRevenuePerOrderMu := by
  have hrow : (i.python r).prepaid = CodPrepaidQuery.segment "Prepaid" i.cp.prepaidOrders
      i.cp.prepaidGrossMu (i.python r).prepaidRtoRateBp (i.python r).effectiveRevenuePrepaidMu
      (i.python r).prepaid.feeTotalMu := rfl
  rw [hrow, python_effectivePrepaid]
  exact Segment.holds_segment (i.prepaidSegment i.cp.prepaidOrders) _ _ _

/-- When Python reports a break-even. -/
theorem python_breakeven_iff (n : Int) : (i.python r).breakevenCodRtoRateBp = some n ↔
    0 < i.cp.codOrders + i.cp.prepaidOrders ∧ 0 < i.averageOrder ∧ 0 ≤ n ∧ n ≤ 10000 ∧
      Even i.pyNum i.pyDenom n := by
  have hdef : (i.python r).breakevenCodRtoRateBp = (CodPrepaidQuery.breakeven
      (CodPrepaidQuery.rateOf (Metrics.Registry.Division.aovMu
          (i.cp.codGrossMu + i.cp.prepaidGrossMu) (i.cp.codOrders + i.cp.prepaidOrders)).formulaPy
        (i.cp.codOrders + i.cp.prepaidOrders))
      (rtoBp i.s.prepaidRtoCount i.cp.prepaidOrders) (i.cp.codOrders + i.cp.prepaidOrders)
      (i.cp.codGrossMu + i.cp.prepaidGrossMu) i.fees).1 := by
    simp only [python, CodPrepaidQuery.economics, facts, getD_rateOf]
  rw [hdef]
  by_cases horders : 0 < i.cp.codOrders + i.cp.prepaidOrders
  · have hcast : (0 : Int) < i.cp.codOrders + i.cp.prepaidOrders := by omega
    have haov : CodPrepaidQuery.rateOf (Metrics.Registry.Division.aovMu
          (i.cp.codGrossMu + i.cp.prepaidGrossMu) (i.cp.codOrders + i.cp.prepaidOrders)).formulaPy
        (i.cp.codOrders + i.cp.prepaidOrders) = some i.averageOrder := by
      rw [CodPrepaidQuery.rateOf, if_pos hcast, Metrics.Registry.Division.formulaPy,
        Metrics.Registry.intFloorDivOrNull, if_neg (by omega), Quotients.fdiv_eq hcast]
      rfl
    rw [haov, CodPrepaidQuery.breakeven, and_iff_right horders]
    have hdenom : i.averageOrder + i.fees.returnShippingMu + i.fees.restockingMu = i.pyDenom :=
      Int.add_zero _
    by_cases hpos : 0 < i.averageOrder ∧ 0 < i.pyDenom
    · have hraw : (Metrics.Registry.Division.breakevenCodRtoRateBp i.averageOrder
          (rtoBp i.s.prepaidRtoCount i.cp.prepaidOrders) i.fees.codFeeMu i.fees.gatewayFeeBp
          i.fees.returnShippingMu i.fees.restockingMu).formulaPy = some (i.pyNum / i.pyDenom) := by
        simp only [Metrics.Registry.Division.formulaPy, hdenom, Int.not_le.mpr hpos.2, if_false,
          Quotients.fdiv_eq hpos.2, Quotients.fdiv_eq (show (0 : Int) < 10000 by decide)]
        simp [pyNum, fees]
      rw [hdenom, if_pos hpos, hraw, CodPrepaidQuery.reported_some_iff, even_iff, Option.some.injEq]
      omega
    · rw [hdenom, if_neg hpos]
      refine iff_of_false nofun ?_
      rintro ⟨haverage, -, -, heven⟩
      exact hpos ⟨haverage, heven.pos⟩
  · have hnone : ¬ (0 : Int) < i.cp.codOrders + i.cp.prepaidOrders := by omega
    rw [CodPrepaidQuery.rateOf, if_neg hnone]
    exact iff_of_false nofun fun h => horders h.1

theorem python_reported :
    Reported (i.python r).breakevenCodRtoRateBp (i.python r).breakevenNote :=
  CodPrepaidQuery.reported_breakeven _ _ _ _ _

/-- The note of the live plane is always null. -/
theorem breakeven_iff : (∃ rate, Reads i.live.breakevenCodRtoRateBp rate ∧
      Reported rate i.live.breakevenNote ∧
      Reported (i.python r).breakevenCodRtoRateBp (i.python r).breakevenNote ∧
      rate = (i.python r).breakevenCodRtoRateBp) ↔ i.BreaksEven := by
  have hlive : ∀ n, 0 ≤ n → n ≤ 10000 → (Reads i.live.breakevenCodRtoRateBp (some n) ↔
      Even i.tsNum i.tsDenom n ∨ n = 0 ∧ 0 < i.tsDenom ∧ -i.tsDenom < i.tsNum ∧ i.tsNum < 0) := by
    intro n hlow hhigh
    rw [← tdiv_eq_iff hlow]
    exact reads_breakeven_iff _ _ _ hlow hhigh
  constructor
  · rintro ⟨rate, hreads, hreported, -, hsame⟩
    cases hreported with
    | inl hrate =>
      obtain ⟨n, rfl, hlow, hhigh⟩ := hrate
      obtain ⟨horders, haverage, -, -, heven⟩ := (i.python_breakeven_iff r n).mp hsame.symm
      exact ⟨horders, haverage, n, hlow, hhigh, heven, (hlive n hlow hhigh).mp hreads⟩
    | inr hnote => exact absurd rfl hnote.2
  · rintro ⟨horders, haverage, n, hlow, hhigh, heven, hts⟩
    have hpython := (i.python_breakeven_iff r n).mpr ⟨horders, haverage, hlow, hhigh, heven⟩
    exact ⟨some n, (hlive n hlow hhigh).mpr hts, Or.inl ⟨n, rfl, hlow, hhigh⟩,
      i.python_reported r, hpython.symm⟩

theorem live_cod_iff : (i.codSegment i.s.codTotal).Holds i.live.cod.effectiveRevenueMu
      (some i.live.cod.netRevenueMu) i.live.cod.netRevenuePerOrderMu ↔
    (i.codSegment i.s.codTotal).handling + (i.codSegment i.s.codTotal).returns = 0 ∧
      ¬ Uneven ((i.codSegment i.s.codTotal).gross * (i.codSegment i.s.codTotal).rtoBp) 10000 ∧
      (0 < (i.codSegment i.s.codTotal).orders →
        ¬ Uneven ((i.codSegment i.s.codTotal).gross - (i.codSegment i.s.codTotal).rtoLoss)
          (i.codSegment i.s.codTotal).orders) := by
  have hrow := Segment.holds_segmentRow_iff (i.codSegment i.s.codTotal) "COD"
    (bp i.s.codRtoCount i.s.codTotal) (le_refl (i.codSegment i.s.codTotal).handling) rfl
  exact hrow.trans (and_iff_right rfl)

/-- The gateway fee is truncated. -/
theorem live_prepaid_iff : (i.prepaidSegment i.s.prepaidTotal).Holds
      i.live.prepaid.effectiveRevenueMu (some i.live.prepaid.netRevenueMu)
      i.live.prepaid.netRevenuePerOrderMu ↔
    ¬ Uneven (i.cp.prepaidGrossMu * i.assumed.gatewayFeeBp) 10000 ∧
    (i.prepaidSegment i.s.prepaidTotal).handling +
        (i.prepaidSegment i.s.prepaidTotal).returns = 0 ∧
      ¬ Uneven ((i.prepaidSegment i.s.prepaidTotal).gross *
        (i.prepaidSegment i.s.prepaidTotal).rtoBp) 10000 ∧
      (0 < (i.prepaidSegment i.s.prepaidTotal).orders →
        ¬ Uneven ((i.prepaidSegment i.s.prepaidTotal).gross -
          (i.prepaidSegment i.s.prepaidTotal).rtoLoss)
          (i.prepaidSegment i.s.prepaidTotal).orders) := by
  have hpos : (0 : Int) < 10000 := by decide
  have hrow := Segment.holds_segmentRow_iff (i.prepaidSegment i.s.prepaidTotal) "Prepaid"
    (bp i.s.prepaidRtoCount i.s.prepaidTotal) (Segment.le_tdiv
      (i.cp.prepaidGrossMu * i.assumed.gatewayFeeBp) hpos) rfl
  refine hrow.trans (and_congr_left fun _ => ?_)
  exact Quotients.tdiv_eq_ediv_iff hpos

theorem live_effectiveCod (h : (i.codSegment i.s.codTotal).Holds i.live.cod.effectiveRevenueMu
      (some i.live.cod.netRevenueMu) i.live.cod.netRevenuePerOrderMu) (r : CodRequest) :
    i.live.effectiveRevenueCodMu = (i.python r).effectiveRevenueCodMu ↔
      i.cp.codGrossMu * rtoBp i.s.codRtoCount i.s.codTotal / 10000 =
        i.cp.codGrossMu * rtoBp i.s.codRtoCount i.cp.codOrders / 10000 := by
  have hlive : i.live.effectiveRevenueCodMu = _ := h.reconciled.symm
  rw [hlive, python_effectiveCod]
  simp only [codSegment, Segment.rtoLoss]
  omega

theorem live_effectivePrepaid (h : (i.prepaidSegment i.s.prepaidTotal).Holds
      i.live.prepaid.effectiveRevenueMu (some i.live.prepaid.netRevenueMu)
      i.live.prepaid.netRevenuePerOrderMu) (r : CodRequest) :
    i.live.effectiveRevenuePrepaidMu = (i.python r).effectiveRevenuePrepaidMu ↔
      i.cp.prepaidGrossMu * rtoBp i.s.prepaidRtoCount i.s.prepaidTotal / 10000 =
        i.cp.prepaidGrossMu * rtoBp i.s.prepaidRtoCount i.cp.prepaidOrders / 10000 := by
  have hlive : i.live.effectiveRevenuePrepaidMu = _ := h.reconciled.symm
  rw [hlive, python_effectivePrepaid]
  simp only [prepaidSegment, Segment.rtoLoss]
  omega

end CodInputs

/-- The planes reconcile, and agree, for exactly the inputs that no fee is charged of, whose
divisions come out even and whose balances meet at one rate in range. -/
theorem codEconomics_iff (i : CodInputs) (r : CodRequest) :
    (∃ ts py, getCodPrepaid i.cp i.s i.feeOverrides = .ok ts ∧
      CodPrepaidQuery.execute (.ok r.read) r.workspaceId r.dateRange i.facts i.fees
        r.currencyCode = .ok py ∧ CodEconomics i ts py) ↔ CodAlike i := by
  constructor
  · rintro ⟨ts, py, hts, hpy, h⟩
    rw [getCodPrepaid_eq] at hts
    rw [r.execute_eq] at hpy
    cases hts
    cases hpy
    obtain ⟨hcodFree, hcodWhole, hcodEach⟩ := i.live_cod_iff.mp h.tsCod
    obtain ⟨hgateway, hfree, hwhole, heach⟩ := i.live_prepaid_iff.mp h.tsPrepaid
    have hcodShare := (i.live_effectiveCod h.tsCod r).mp h.effectiveCod
    have hshare := (i.live_effectivePrepaid h.tsPrepaid r).mp h.effectivePrepaid
    exact ⟨⟨hcodFree, hcodShare, hcodWhole, hcodEach⟩, ⟨hfree, hshare, hwhole, heach⟩, hgateway,
      (i.breakeven_iff r).mp h.breakeven⟩
  · intro h
    have hcod := i.live_cod_iff.mpr ⟨h.cod.free, h.cod.whole, h.cod.perOrder⟩
    have hprepaid := i.live_prepaid_iff.mpr
      ⟨h.gateway, h.prepaid.free, h.prepaid.whole, h.prepaid.perOrder⟩
    have hsameCod := (i.live_effectiveCod hcod r).mpr h.cod.share
    have hsamePrepaid := (i.live_effectivePrepaid hprepaid r).mpr h.prepaid.share
    refine ⟨i.live, i.python r, getCodPrepaid_eq i, r.execute_eq _ _, ?_⟩
    constructor
    · exact hcod
    · exact hprepaid
    · exact i.python_cod r
    · exact i.python_prepaid r
    · exact hsameCod
    · exact hsamePrepaid
    · exact congrArg₂ (· - ·) hsamePrepaid hsameCod
    · rw [hcod.perOrder, (i.python_cod r).perOrder]
      exact congrArg (fun e => if i.cp.codOrders = 0 then none else some (e / (i.cp.codOrders : Int)))
        hsameCod
    · rw [hprepaid.perOrder, (i.python_prepaid r).perOrder]
      exact congrArg
        (fun e => if i.cp.prepaidOrders = 0 then none else some (e / (i.cp.prepaidOrders : Int)))
        hsamePrepaid
    · exact (i.breakeven_iff r).mpr h.breaksEven

/-! ### An order on delivery -/

/-- An order of ₹1000 on delivery that arrives, at the default fees. -/
def singleOrder : CodInputs where
  cp := ⟨1, 0, 100000, 0, some 100000⟩
  s := ⟨1, 1, 0, 1, 0, 0, 0, 0, 0, 0, 1, 0, 0, []⟩
  codDelivered := 1
  feeOverrides := ⟨none, none, none⟩
  codCounted := Nat.zero_le 1
  prepaidCounted := Nat.le_refl 0

/-- Without the fee it breaks even when every order arrives. -/
example : CodAlike { singleOrder with feeOverrides := ⟨some 0, some 0, some 0⟩ } where
  cod := ⟨by decide, by decide, by decide, by decide⟩
  prepaid := ⟨by decide, by decide, by decide, by decide⟩
  gateway := by decide
  breaksEven := ⟨by decide, by decide, 0, by decide, by decide,
    ⟨by decide, by decide, by decide⟩, Or.inl ⟨by decide, by decide, by decide⟩⟩

/-- Its fee of ₹30 is taken off the effective revenue and again off the net revenue. -/
theorem singleOrder_not_codEconomics : ¬ ∃ ts py, getCodPrepaid singleOrder.cp singleOrder.s
    singleOrder.feeOverrides = .ok ts ∧ CodEconomics singleOrder ts py := by
  rintro ⟨ts, py, hts, h⟩
  rw [getCodPrepaid_eq] at hts
  cases hts
  exact absurd (h.tsCod.net _ rfl) (by decide)

end BrainV2.LivePlane
