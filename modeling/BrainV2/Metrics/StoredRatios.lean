import BrainV2.Metrics.Dialects
import BrainV2.Metrics.Recompute

/-!
# The ratios that are stored

The view divides in 64 bits and the table it writes to has columns of 32.

* `intDiv`, `intDivOrNull_eq`: the guarded division never divides by zero;
* `RatioColumn`: the columns of 32 bits, with what is divided for each;
* `MeasuredRow`: a base row whose counts and money are not negative;
* `StoredExactly`, `storedExactly_iff`: when a column holds the floor of the quotient.
-/

namespace BrainV2.Metrics

/-! ### Dividing in ClickHouse -/

inductive ChError where
  | illegalDivision
deriving DecidableEq

def intDiv (numerator denominator : Int64) : Except ChError Int64 :=
  if denominator = 0 ∨ numerator = Int64.minValue ∧ denominator = -1 then .error .illegalDivision
  else .ok (numerator / denominator)

/-- `if(denominator > 0, intDiv(numerator, denominator), NULL)`, the branches evaluated where the
condition selects them. -/
def intDivOrNull (numerator denominator : Int64) : Except ChError (Option Int64) :=
  if denominator > 0 then do
    let quotient ← intDiv numerator denominator
    .ok (some quotient)
  else .ok none

theorem toInt_pos_iff {x : Int64} : x > 0 ↔ 0 < x.toInt := Int64.lt_iff_toInt_lt

theorem intDivOrNull_eq (numerator denominator : Int64) :
    intDivOrNull numerator denominator = .ok (guardedDiv numerator denominator) := by
  unfold intDivOrNull guardedDiv
  split
  · next hpos =>
    have hzero : denominator ≠ 0 := by
      rintro rfl
      exact absurd hpos (by decide)
    have hone : denominator ≠ -1 := by
      rintro rfl
      exact absurd hpos (by decide)
    rw [intDiv, if_neg (by simp [hzero, hone])]
    rfl
  · rfl

/-! ### The columns -/

/-- The columns of `workspace_daily_metrics_computed` that are `Nullable(Int32)`. -/
inductive RatioColumn where
  | rtoRateBp
  | prepaidRateBp
  | conversionRateBp
  | acosBp
  | blendedRoasX100
  | metaCtrBp
  | googleCtrBp
deriving DecidableEq

namespace RatioColumn

def numerator (row : BaseRow) : RatioColumn → Int64
  | rtoRateBp => row.rtoOrders
  | prepaidRateBp => row.prepaidOrders
  | conversionRateBp => row.totalOrders
  | acosBp => row.totalAdSpendMu
  | blendedRoasX100 => row.netSalesMu
  | metaCtrBp => row.metaClicks
  | googleCtrBp => row.googleClicks

def scale : RatioColumn → Int64
  | blendedRoasX100 => 100
  | _ => 10000

def denominator (row : BaseRow) : RatioColumn → Int64
  | rtoRateBp => row.totalShipments
  | prepaidRateBp => row.totalOrders
  | conversionRateBp => row.totalSessions
  | acosBp => row.netSalesMu
  | blendedRoasX100 => row.totalAdSpendMu
  | metaCtrBp => row.metaImpressions
  | googleCtrBp => row.googleImpressions

def stored (row : ComputedRow) : RatioColumn → Option Int32
  | rtoRateBp => row.rtoRateBp
  | prepaidRateBp => row.prepaidRateBp
  | conversionRateBp => row.conversionRateBp
  | acosBp => row.acosBp
  | blendedRoasX100 => row.blendedRoasX100
  | metaCtrBp => row.metaCtrBp
  | googleCtrBp => row.googleCtrBp

/-- What the view computes for the column. -/
def viewed (row : BaseRow) (c : RatioColumn) : Except ChError (Option Int64) :=
  intDivOrNull (c.numerator row * c.scale) (c.denominator row)

theorem stored_computedRow (row : BaseRow) (c : RatioColumn) :
    c.stored (computedRow row) =
      (guardedDiv (c.numerator row * c.scale) (c.denominator row)).map Int64.toInt32 := by
  cases c <;> rfl

theorem scale_nonneg (c : RatioColumn) : 0 ≤ c.scale.toInt := by
  cases c <;> decide

end RatioColumn

/-! ### What is stored -/

/-- A base row whose counts and money are not negative, and do not leave 64 bits when scaled. -/
structure MeasuredRow extends BaseRow where
  numerator_nonneg : ∀ c : RatioColumn, 0 ≤ (c.numerator toBaseRow).toInt
  within : ∀ c : RatioColumn, (c.numerator toBaseRow).toInt * c.scale.toInt < 2 ^ 63

/-- The view computes the column and divides by no zero; it is null when the denominator is not
positive, and else the floor of the quotient. -/
structure StoredExactly (row : BaseRow) (c : RatioColumn) : Prop where
  divides : ∃ quotient, c.viewed row = .ok quotient ∧
    c.stored (computedRow row) = quotient.map Int64.toInt32
  null : c.stored (computedRow row) = none ↔ ¬ 0 < (c.denominator row).toInt
  floor : ∀ v ∈ c.stored (computedRow row), v.toInt =
    ⌊(((c.numerator row).toInt * c.scale.toInt : Int) / (c.denominator row).toInt : ℚ)⌋

/-- The quotient, where there is one, is below `2 ^ 31`. -/
def FitsColumn (row : BaseRow) (c : RatioColumn) : Prop :=
  0 < (c.denominator row).toInt →
    (c.numerator row).toInt * c.scale.toInt < 2 ^ 31 * (c.denominator row).toInt

theorem toInt_scaled (row : MeasuredRow) (c : RatioColumn) :
    (c.numerator row.toBaseRow * c.scale).toInt =
      (c.numerator row.toBaseRow).toInt * c.scale.toInt := by
  have hlow := Int.mul_nonneg (row.numerator_nonneg c) c.scale_nonneg
  have hhigh := row.within c
  rw [Int64.toInt_mul]
  apply Int.bmod_eq_of_le
  · omega
  · omega

theorem toInt_quotient {n d : Int64} (hn : 0 ≤ n.toInt) (hd : 0 < d.toInt) :
    (n / d).toInt = n.toInt / d.toInt := by
  have hone : d ≠ -1 := by
    rintro rfl
    exact absurd hd (by decide)
  rw [Int64.toInt_div_of_ne_right n d hone, Int.tdiv_eq_ediv_of_nonneg hn]

/-- The low 32 bits of a number that is not negative are the number below `2 ^ 31`. -/
theorem toInt_toInt32_iff {x : Int64} (hx : 0 ≤ x.toInt) :
    x.toInt32.toInt = x.toInt ↔ x.toInt < 2 ^ 31 := by
  constructor
  · intro h
    rw [← h]
    exact x.toInt32.toInt_lt
  · intro h
    rw [Int64.toInt_toInt32]
    apply Int.bmod_eq_of_le
    · omega
    · omega

/-- A column is exact for the rows whose quotient fits into it. -/
theorem storedExactly_iff (row : MeasuredRow) (c : RatioColumn) :
    StoredExactly row.toBaseRow c ↔ FitsColumn row.toBaseRow c := by
  have hscaled := toInt_scaled row c
  have hnum := Int.mul_nonneg (row.numerator_nonneg c) c.scale_nonneg
  have hstored := RatioColumn.stored_computedRow row.toBaseRow c
  have hdivides : ∃ quotient, c.viewed row.toBaseRow = .ok quotient ∧
      c.stored (computedRow row.toBaseRow) = quotient.map Int64.toInt32 :=
    ⟨_, intDivOrNull_eq _ _, hstored⟩
  unfold FitsColumn
  by_cases hpos : 0 < (c.denominator row.toBaseRow).toInt
  · rw [guardedDiv, if_pos (toInt_pos_iff.mpr hpos), Option.map_some] at hstored
    have hquotient := toInt_quotient (hscaled ▸ hnum) hpos
    rw [hscaled] at hquotient
    have hfloor : ⌊(((c.numerator row.toBaseRow).toInt * c.scale.toInt : Int) /
        (c.denominator row.toBaseRow).toInt : ℚ)⌋ =
          (c.numerator row.toBaseRow).toInt * c.scale.toInt / (c.denominator row.toBaseRow).toInt := by
      rw [BrainMetrics.floor_div_eq_fdiv _ (by omega), Quotients.fdiv_eq hpos]
    have hsmall := toInt_toInt32_iff
      (hquotient ▸ Int.ediv_nonneg hnum hpos.le)
    rw [hquotient, Int.ediv_lt_iff_lt_mul hpos] at hsmall
    constructor
    · intro h _
      have hvalue := h.floor _ hstored
      rw [hfloor] at hvalue
      exact hsmall.mp hvalue
    · intro h
      refine ⟨hdivides, ?_, ?_⟩
      · rw [hstored]
        simp [hpos]
      · intro v hv
        rw [hstored] at hv
        cases hv
        rw [hfloor]
        exact hsmall.mpr (h hpos)
  · rw [guardedDiv, if_neg (fun h => hpos (toInt_pos_iff.mp h)), Option.map_none] at hstored
    refine iff_of_true ⟨hdivides, ?_, ?_⟩ fun h => absurd h hpos
    · exact iff_of_true hstored hpos
    · intro v hv
      rw [hstored] at hv
      cases hv

/-- One rupee of sales, and ad spend of 214749 rupees. -/
def rupeeAndSpend : Facts where
  orders := [⟨"w", "shopify", "1", juneDay 1, 100, 0, 0, 0, "INR", "COD", "paid", none, 1⟩]
  lineItems := []
  products := []
  adSpend := [⟨"w", "META", "account", "campaign", juneDay 1, 0, 0, 21474900, 1⟩]
  shipments := []

/-- The share of the ad spend is stored as a negative number. -/
theorem acos_wraps : ∃ row : MeasuredRow,
    row.toBaseRow ∈ rollup rupeeAndSpend ⟨"w", ⟨juneDay 1, juneDay 30⟩, 0⟩ ∧
      (computedRow row.toBaseRow).acosBp = some (-2147477296) ∧
      ¬ StoredExactly row.toBaseRow .acosBp := by
  have hcounts : ∀ row ∈ rollup rupeeAndSpend ⟨"w", ⟨juneDay 1, juneDay 30⟩, 0⟩,
      row.rtoOrders = 0 ∧ row.prepaidOrders = 0 ∧ row.totalOrders = 1 ∧
        row.totalAdSpendMu = 21474900 ∧ row.netSalesMu = 100 ∧ row.metaClicks = 0 ∧
        row.googleClicks = 0 := by
    decide
  obtain ⟨row, hmem⟩ := List.exists_mem_of_length_pos
    (show 0 < (rollup rupeeAndSpend ⟨"w", ⟨juneDay 1, juneDay 30⟩, 0⟩).length by decide)
  obtain ⟨hrto, hprepaid, horders, hspend, hsales, hmeta, hgoogle⟩ := hcounts row hmem
  have hnumerators (c : RatioColumn) :
      0 ≤ (c.numerator row).toInt ∧ (c.numerator row).toInt * c.scale.toInt < 2 ^ 63 := by
    cases c <;> simp only [RatioColumn.numerator, hrto, hprepaid, horders, hspend, hsales, hmeta,
      hgoogle] <;> decide
  have hacos : (computedRow row).acosBp = some (-2147477296) := by
    simp only [computedRow, hspend, hsales]
    decide
  refine ⟨⟨row, fun c => (hnumerators c).1, fun c => (hnumerators c).2⟩, hmem, hacos, fun h => ?_⟩
  have hvalue := h.floor _ hacos
  simp only [RatioColumn.numerator, RatioColumn.denominator, hspend, hsales] at hvalue
  rw [BrainMetrics.floor_div_eq_fdiv _ (by decide)] at hvalue
  exact absurd hvalue (by decide)

end BrainV2.Metrics
