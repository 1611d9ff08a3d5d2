import BrainV2.Js.Values
import BrainV2.Lib.Integers

/-!
# The metric registries

The formulas of the two registries and their expressions for ClickHouse, for the metrics that
divide. `BigInt` truncates a quotient, `ratioToBasisPoints` rounds it down, Python rounds it down
and `intDiv` truncates it.

* `Number`, `isInt32`: what a formula of TypeScript returns;
* `ratioToBasisPoints`, `intFloorDivOrNull`, `ratioBp`, `intDivOrNull`: the divisions;
* `Division`: the metrics, with their arguments;
* `formulaTs`, `formulaPy`, `clickhouseSql`: what the three make of them;
* `ratioToBasisPoints_eq`: the ratios of TypeScript in integers.
-/

namespace BrainV2.Metrics.Registry

open Binary64 (Double ofInt)
open Quotients (floored)
open Js (JsError Result isInteger bigIntOfNumber)

/-! ### Divisions -/

/-- A `bigint` or a `number`. -/
inductive Number where
  | bigint (n : Int)
  | number (x : Double)

/-- The integer that a value is. -/
def Number.integer : Number → Option Int
  | .bigint n => some n
  | .number x => bigIntOfNumber x

/-- `Number.isInteger(x) && x <= 2147483647 && x >= -2147483648` -/
def isInt32 : Double → Bool
  | .finite x =>
    isInteger (.finite x) && decide (x.trunc ≤ 2147483647) && decide (-2147483648 ≤ x.trunc)
  | _ => false

def InInt32 (n : Int) : Prop := -2147483648 ≤ n ∧ n ≤ 2147483647

instance (n : Int) : Decidable (InInt32 n) := inferInstanceAs (Decidable (_ ∧ _))

def ratioToBasisPoints (numerator denominator : Int) : Result Number :=
  if denominator = 0 then .error .rangeError
  else
    let result := ofInt (floored (numerator * 10000) denominator)
    if isInt32 result then .ok (.number result) else .error .rangeError

/-- `_int_floor_div_or_null` -/
def intFloorDivOrNull (numerator denominator : Int) : Option Int :=
  if denominator ≤ 0 then none else some (numerator.fdiv denominator)

/-- `_ratio_bp` -/
def ratioBp (numerator denominator : Int) : Option Int :=
  intFloorDivOrNull (numerator * 10000) denominator

/-- `if(denominator > 0, intDiv(numerator, denominator), NULL)` -/
def intDivOrNull (numerator denominator : Int) : Option Int :=
  if 0 < denominator then some (numerator.tdiv denominator) else none

/-- The overhead of a day in TypeScript, where the guard gives zero. -/
def miscExpensesProratedMu (monthlyAmountMu daysInMonth : Int) : Int :=
  if 0 < daysInMonth then monthlyAmountMu.tdiv daysInMonth else 0

/-! ### The metrics -/

inductive MetricUnit where
  | mu
  | bp
  | count
deriving DecidableEq

/-- A metric that divides, with its arguments. -/
inductive Division where
  | miscExpensesProratedMu (monthlyAmountMu daysInMonth : Int)
  | rtoRateBp (rtoOrders totalShipments : Int)
  | prepaidRateBp (prepaidOrders totalOrders : Int)
  | conversionRateBp (totalOrders totalSessions : Int)
  | aovMu (netSalesMu totalOrders : Int)
  | acosBp (totalAdSpendMu netSalesMu : Int)
  | blendedRoasX100 (netSalesMu totalAdSpendMu : Int)
  | trueCm2Mu (cm2Mu rtoOrders totalAdSpendMu variableCostsMu cogsMu totalOrdersCount : Int)
  | merBp (netRevenueMu totalAdSpendMu : Int)
  | amerBp (newCustomerRevenueMu acquisitionAdSpendMu : Int)
  | cacMu (totalAdSpendMu newCustomersCount : Int)
  | cm2PerNcMu (ncCm2Mu newCustomersCount : Int)
  | ltvCacBp (ltvMu cacMu : Int)
  | breakevenCodRtoRateBp
      (aovMu prepaidRtoRateBp codFeeMu gatewayFeeBp returnShippingMu restockingMu : Int)
  | pincodeReliabilityScore (rtoBp codBp repeatBp aovMu : Int)
  | inventorySellThroughBp (sales365 currentInventory : Int)
  | goalAttainmentBp (actual goalValue : Int)

namespace Division

def unit : Division → MetricUnit
  | miscExpensesProratedMu _ _ | aovMu _ _ | trueCm2Mu _ _ _ _ _ _ | cacMu _ _
  | cm2PerNcMu _ _ => .mu
  | rtoRateBp _ _ | prepaidRateBp _ _ | conversionRateBp _ _ | acosBp _ _ | blendedRoasX100 _ _
  | merBp _ _ | amerBp _ _ | ltvCacBp _ _ | breakevenCodRtoRateBp _ _ _ _ _ _
  | inventorySellThroughBp _ _ | goalAttainmentBp _ _ => .bp
  | pincodeReliabilityScore _ _ _ _ => .count

/-- The score divides by constants only. -/
def denominator : Division → Int
  | miscExpensesProratedMu _ d | rtoRateBp _ d | prepaidRateBp _ d | conversionRateBp _ d
  | aovMu _ d | acosBp _ d | blendedRoasX100 _ d | trueCm2Mu _ _ _ _ _ d | merBp _ d | amerBp _ d
  | cacMu _ d | cm2PerNcMu _ d | ltvCacBp _ d | goalAttainmentBp _ d => d
  | breakevenCodRtoRateBp aov _ _ _ returnShipping restocking => aov + returnShipping + restocking
  | pincodeReliabilityScore _ _ _ _ => 100
  | inventorySellThroughBp sales365 currentInventory => sales365 + currentInventory

/-- `formula_ts` -/
def formulaTs : Division → Result Number
  | miscExpensesProratedMu monthlyAmount daysInMonth =>
    .ok (.bigint (Registry.miscExpensesProratedMu monthlyAmount daysInMonth))
  | rtoRateBp rtoOrders totalShipments => ratioToBasisPoints rtoOrders totalShipments
  | prepaidRateBp prepaidOrders totalOrders => ratioToBasisPoints prepaidOrders totalOrders
  | conversionRateBp totalOrders totalSessions => ratioToBasisPoints totalOrders totalSessions
  | aovMu netSales totalOrders =>
    .ok (.bigint (if 0 < totalOrders then netSales.tdiv totalOrders else 0))
  | acosBp totalAdSpend netSales => ratioToBasisPoints totalAdSpend netSales
  | blendedRoasX100 netSales totalAdSpend =>
    .ok (.number (ofInt (if 0 < totalAdSpend then (netSales * 100).tdiv totalAdSpend else 0)))
  | trueCm2Mu cm2 rtoOrders totalAdSpend variableCosts cogs totalOrdersCount =>
    if totalOrdersCount ≤ 0 then .ok (.bigint cm2)
    else
      let costBase := totalAdSpend + variableCosts + cogs
      .ok (.bigint (cm2 - (rtoOrders * costBase).tdiv totalOrdersCount))
  | merBp netRevenue totalAdSpend => ratioToBasisPoints netRevenue totalAdSpend
  | amerBp newCustomerRevenue acquisitionAdSpend =>
    ratioToBasisPoints newCustomerRevenue acquisitionAdSpend
  | cacMu totalAdSpend newCustomersCount =>
    if newCustomersCount ≤ 0 then
      .error (.error "cac_mu: new_customers_count must be > 0 (caller must guard)")
    else .ok (.bigint (totalAdSpend.tdiv newCustomersCount))
  | cm2PerNcMu ncCm2 newCustomersCount =>
    if newCustomersCount ≤ 0 then
      .error (.error "cm2_per_nc_mu: new_customers_count must be > 0 (caller must guard)")
    else .ok (.bigint (ncCm2.tdiv newCustomersCount))
  | ltvCacBp ltv cac => ratioToBasisPoints ltv cac
  | breakevenCodRtoRateBp aov prepaidRtoRate codFee gatewayFee returnShipping restocking =>
    let denom := aov + returnShipping + restocking
    if denom ≤ 0 then .ok (.number (ofInt 0))
    else
      let pgFee := (aov * gatewayFee).tdiv 10000
      let numScaled := aov * prepaidRtoRate + (codFee - pgFee) * 10000 +
        prepaidRtoRate * (returnShipping + restocking)
      .ok (.number (ofInt (numScaled.tdiv denom)))
  | pincodeReliabilityScore rto cod repeats aov =>
    let raw := 10000 - rto * 2 - cod.tdiv 2 + repeats.tdiv 2 + aov.tdiv 100
    let clamped := if raw < 0 then 0 else if 10000 < raw then 10000 else raw
    .ok (.number (ofInt clamped))
  | inventorySellThroughBp sales365 currentInventory =>
    ratioToBasisPoints sales365 (sales365 + currentInventory)
  | goalAttainmentBp actual goalValue => ratioToBasisPoints actual goalValue

/-- `formula_py` -/
def formulaPy : Division → Option Int
  | miscExpensesProratedMu monthlyAmount daysInMonth => intFloorDivOrNull monthlyAmount daysInMonth
  | rtoRateBp rtoOrders totalShipments => ratioBp rtoOrders totalShipments
  | prepaidRateBp prepaidOrders totalOrders => ratioBp prepaidOrders totalOrders
  | conversionRateBp ordersCount sessions => ratioBp ordersCount sessions
  | aovMu netSales ordersCount => intFloorDivOrNull netSales ordersCount
  | acosBp totalAdSpend netSales => ratioBp totalAdSpend netSales
  | blendedRoasX100 netSales totalAdSpend => intFloorDivOrNull (netSales * 100) totalAdSpend
  | trueCm2Mu cm2 rtoOrders totalAdSpend variableCosts cogs totalOrdersCount =>
    if totalOrdersCount ≤ 0 then none
    else
      let costBase := totalAdSpend + variableCosts + cogs
      some (cm2 - (rtoOrders * costBase).fdiv totalOrdersCount)
  | merBp netRevenue totalAdSpend => ratioBp netRevenue totalAdSpend
  | amerBp newCustomerRevenue acquisitionAdSpend => ratioBp newCustomerRevenue acquisitionAdSpend
  | cacMu totalAdSpend newCustomersCount => intFloorDivOrNull totalAdSpend newCustomersCount
  | cm2PerNcMu ncCm2 newCustomersCount => intFloorDivOrNull ncCm2 newCustomersCount
  | ltvCacBp ltv cac => ratioBp ltv cac
  | breakevenCodRtoRateBp aov prepaidRtoRate codFee gatewayFee returnShipping restocking =>
    let denom := aov + returnShipping + restocking
    if denom ≤ 0 then none
    else
      let pgFee := (aov * gatewayFee).fdiv 10000
      let numScaled := aov * prepaidRtoRate + (codFee - pgFee) * 10000 +
        prepaidRtoRate * (returnShipping + restocking)
      some (numScaled.fdiv denom)
  | pincodeReliabilityScore rto cod repeats aov =>
    let raw := 10000 - rto * 2 - cod.fdiv 2 + repeats.fdiv 2 + aov.fdiv 100
    some (max 0 (min 10000 raw))
  | inventorySellThroughBp sales365 currentInventory =>
    ratioBp sales365 (sales365 + currentInventory)
  | goalAttainmentBp actual goalValue => ratioBp actual goalValue

/-- `clickhouse_sql`, over integers of any size -/
def clickhouseSql : Division → Option Int
  | miscExpensesProratedMu monthlyAmount daysInMonth => intDivOrNull monthlyAmount daysInMonth
  | rtoRateBp rtoOrders totalShipments => intDivOrNull (rtoOrders * 10000) totalShipments
  | prepaidRateBp prepaidOrders totalOrders => intDivOrNull (prepaidOrders * 10000) totalOrders
  | conversionRateBp totalOrders totalSessions => intDivOrNull (totalOrders * 10000) totalSessions
  | aovMu netSales totalOrders => intDivOrNull netSales totalOrders
  | acosBp totalAdSpend netSales => intDivOrNull (totalAdSpend * 10000) netSales
  | blendedRoasX100 netSales totalAdSpend => intDivOrNull (netSales * 100) totalAdSpend
  | trueCm2Mu cm2 rtoOrders totalAdSpend variableCosts cogs totalOrdersCount =>
    if 0 < totalOrdersCount then
      some (cm2 - (rtoOrders * (totalAdSpend + variableCosts + cogs)).tdiv totalOrdersCount)
    else none
  | merBp netRevenue totalAdSpend => intDivOrNull (netRevenue * 10000) totalAdSpend
  | amerBp newCustomerRevenue acquisitionAdSpend =>
    intDivOrNull (newCustomerRevenue * 10000) acquisitionAdSpend
  | cacMu totalAdSpend newCustomersCount => intDivOrNull totalAdSpend newCustomersCount
  | cm2PerNcMu ncCm2 newCustomersCount => intDivOrNull ncCm2 newCustomersCount
  | ltvCacBp ltv cac => intDivOrNull (ltv * 10000) cac
  | breakevenCodRtoRateBp aov prepaidRtoRate codFee gatewayFee returnShipping restocking =>
    intDivOrNull
      (aov * prepaidRtoRate + (codFee - (aov * gatewayFee).tdiv 10000) * 10000 +
        prepaidRtoRate * (returnShipping + restocking))
      (aov + returnShipping + restocking)
  | pincodeReliabilityScore rto cod repeats aov =>
    some (max 0 (min 10000 (10000 - rto * 2 - cod.tdiv 2 + repeats.tdiv 2 + aov.tdiv 100)))
  | inventorySellThroughBp sales365 currentInventory =>
    intDivOrNull (sales365 * 10000) (sales365 + currentInventory)
  | goalAttainmentBp actual goalValue =>
    if goalValue ≠ 0 then some ((actual * 10000).tdiv goalValue) else none

end Division

/-! ### Numbers of TypeScript -/

theorem natCast_units {x : Binary64.Finite} {m : Nat} (h : x.units = m * 2 ^ 1074) :
    (x.units : Int) / 2 ^ 1074 = m := by
  rw [h]
  exact_mod_cast Nat.mul_div_cancel m (Nat.two_pow_pos _)

theorem trunc_of_exact {n : Int} {x : Binary64.Finite} (hsign : x.negative = decide (n < 0))
    (hunits : x.units = n.natAbs * 2 ^ 1074) : x.trunc = n := by
  rw [Binary64.Finite.trunc, natCast_units hunits, hsign]
  by_cases hneg : n < 0
  · rw [decide_eq_true hneg, if_pos rfl]
    omega
  · rw [decide_eq_false hneg, if_neg Bool.false_ne_true]
    omega

theorem isInteger_of_exact {x : Binary64.Finite} {m : Nat} (hunits : x.units = m * 2 ^ 1074) :
    isInteger (.finite x) = true := by
  rw [isInteger, hunits, Nat.mul_mod_left]
  rfl

theorem bigIntOfNumber_ofInt {n : Int} (h : n.natAbs < 2 ^ 53) :
    bigIntOfNumber (ofInt n) = some n := by
  obtain ⟨x, hx, hsign, hunits⟩ := Binary64.ofInt_exact h
  rw [hx, bigIntOfNumber, if_pos (isInteger_of_exact hunits), trunc_of_exact hsign hunits]

theorem natAbs_of_inInt32 {n : Int} (h : InInt32 n) : n.natAbs < 2 ^ 53 := by
  obtain ⟨hlow, hhigh⟩ := h
  omega

/-- A large double is out of the range on its side of zero. -/
theorem not_isInt32_of_large {x : Binary64.Finite} (h : 2 ^ 53 ≤ x.units / 2 ^ 1074) :
    isInt32 (.finite x) = false := by
  have hcast : (x.units : Int) / 2 ^ 1074 = (x.units / 2 ^ 1074 : Nat) := by
    rw [Int.natCast_ediv, Nat.cast_pow, Nat.cast_ofNat]
  have hbounds : ¬ (x.trunc ≤ 2147483647 ∧ -2147483648 ≤ x.trunc) := by
    rw [Binary64.Finite.trunc, hcast]
    generalize x.units / 2 ^ 1074 = whole at h
    split <;> omega
  rw [isInt32, Bool.and_assoc, ← Bool.decide_and, decide_eq_false hbounds, Bool.and_false]

/-- The test of the rounded result is the test of the integer. -/
theorem isInt32_ofInt (n : Int) : isInt32 (ofInt n) = true ↔ InInt32 n := by
  by_cases hsmall : n.natAbs < 2 ^ 53
  · obtain ⟨x, hx, hsign, hunits⟩ := Binary64.ofInt_exact hsmall
    rw [hx, isInt32, isInteger_of_exact hunits, trunc_of_exact hsign hunits, Bool.true_and,
      Bool.and_eq_true, decide_eq_true_eq, decide_eq_true_eq]
    exact and_comm
  · have hout : ¬ InInt32 n := fun h => hsmall (natAbs_of_inInt32 h)
    refine iff_of_false ?_ hout
    cases hx : ofInt n with
    | finite x =>
      rw [not_isInt32_of_large (Binary64.ofInt_large (Nat.not_lt.mp hsmall) hx)]
      exact Bool.false_ne_true
    | infinite negative => exact Bool.false_ne_true
    | nan => exact Bool.false_ne_true

theorem ratioToBasisPoints_eq {n d : Int} (hd : d ≠ 0) : ratioToBasisPoints n d =
    if InInt32 ((n * 10000).fdiv d) then .ok (.number (ofInt ((n * 10000).fdiv d)))
    else .error .rangeError := by
  rw [ratioToBasisPoints, if_neg hd, Quotients.floored_eq hd]
  simp only [isInt32_ofInt]

end BrainV2.Metrics.Registry
