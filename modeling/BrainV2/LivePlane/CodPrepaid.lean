import BrainV2.Analytics.Shipments
import BrainV2.LivePlane.Numbers
import BrainV2.Metrics.Servicer

/-!
# COD and prepaid orders

* `getCodPrepaid`: the live plane, of what its two readers return;
* `CodPrepaidQuery.execute`: the query of Python, with its facts and fees.
-/

namespace BrainV2.LivePlane

open Analytics (FactCodPrepaid FactShipmentAnalytics)
open Binary64 (Double ofInt)
open Js (Result)
open Metrics (ComputedRow DateRange isBlankText runQuery)
open Metrics.Registry (Division)
open Py (PyExc)

/-! ### The live plane -/

structure CodPrepaidFeeOverrides where
  codFeePerOrderMu : Option Int
  returnShippingPerRtoMu : Option Int
  gatewayFeeBp : Option Int
deriving DecidableEq

/-- The fees of a request, with the defaults. -/
structure FeeAssumptions where
  codFeePerOrder : Int
  returnShipping : Int
  gatewayFeeBp : Int
deriving DecidableEq

def CodPrepaidFeeOverrides.assumed (o : CodPrepaidFeeOverrides) : FeeAssumptions where
  codFeePerOrder := o.codFeePerOrderMu.getD 3000
  returnShipping := o.returnShippingPerRtoMu.getD 8000
  gatewayFeeBp := o.gatewayFeeBp.getD 200

structure CodPrepaidSegmentRow where
  paymentMethod : String
  orders : Nat
  grossRevenueMu : Int
  rtoRateBp : Option Double
  effectiveRevenueMu : Int
  feeTotalMu : Int
  netRevenueMu : Int
  netRevenuePerOrderMu : Option Int
deriving DecidableEq

structure CodPrepaidResult where
  connected : Bool
  codOrders : Nat
  prepaidOrders : Nat
  codRealizationRateBp : Option Double
  codRtoRateBp : Option Double
  prepaidRtoRateBp : Option Double
  effectiveRevenueCodMu : Int
  effectiveRevenuePrepaidMu : Int
  prepaidPremiumMu : Int
  averageOrderValueMu : Option Int
  breakevenCodRtoRateBp : Option Double
  breakevenNote : Option String
  feeOverrides : FeeAssumptions
  cod : CodPrepaidSegmentRow
  prepaid : CodPrepaidSegmentRow
deriving DecidableEq

/-- What is left of the gross when the share of the returned orders is gone. -/
def survived (gross rtoBp : Int) : Int := gross - (gross * rtoBp).tdiv 10000

/-- The row of a segment; `fees` is what the effective revenue is already without. -/
def segmentRow (paymentMethod : String) (orders : Nat) (gross : Int) (rto : Option Double)
    (effective fees : Int) : CodPrepaidSegmentRow where
  paymentMethod := paymentMethod
  orders := orders
  grossRevenueMu := gross
  rtoRateBp := rto
  effectiveRevenueMu := effective
  feeTotalMu := fees
  netRevenueMu := effective - fees
  netRevenuePerOrderMu := if 0 < orders then some (effective.tdiv orders) else none

/-- The denominator of the break-even, restocking being free. -/
def breakevenDenom (aov returnShipping : Int) : Int := aov + returnShipping

def breakevenNum (aov prepaidRtoBp : Int) (fees : FeeAssumptions) : Int :=
  aov * prepaidRtoBp + (fees.codFeePerOrder - (aov * fees.gatewayFeeBp).tdiv 10000) * 10000 +
    prepaidRtoBp * fees.returnShipping

def breakeven (aov prepaidRtoBp : Int) (fees : FeeAssumptions) : Option Double :=
  if 0 < breakevenDenom aov fees.returnShipping then
    some (ofInt ((breakevenNum aov prepaidRtoBp fees).tdiv
      (breakevenDenom aov fees.returnShipping)))
  else none

/-- The table, once the rates are read as integers. -/
def codPrepaidResult (cp : FactCodPrepaid) (s : FactShipmentAnalytics) (fees : FeeAssumptions)
    (codRtoBp prepaidRtoBp : Int) : CodPrepaidResult :=
  let codRto := bp s.codRtoCount s.codTotal
  let prepaidRto := bp s.prepaidRtoCount s.prepaidTotal
  let codFeeTotal := cp.codOrders * fees.codFeePerOrder
  let gatewayFeeTotal := (cp.prepaidGrossMu * fees.gatewayFeeBp).tdiv 10000
  let codReturnShip := s.codRtoCount * fees.returnShipping
  let prepaidReturnShip := s.prepaidRtoCount * fees.returnShipping
  let effCod := survived cp.codGrossMu codRtoBp - codFeeTotal - codReturnShip
  let effPrepaid :=
    survived cp.prepaidGrossMu prepaidRtoBp - gatewayFeeTotal - prepaidReturnShip
  { connected := decide (0 < s.totalShipments ∨ 0 < cp.codOrders + cp.prepaidOrders)
    codOrders := cp.codOrders
    prepaidOrders := cp.prepaidOrders
    codRealizationRateBp := codRto.map fun _ => ofInt (10000 - codRtoBp)
    codRtoRateBp := codRto
    prepaidRtoRateBp := prepaidRto
    effectiveRevenueCodMu := effCod
    effectiveRevenuePrepaidMu := effPrepaid
    prepaidPremiumMu := effPrepaid - effCod
    averageOrderValueMu := cp.aovMu
    breakevenCodRtoRateBp := breakeven (cp.aovMu.getD 0) prepaidRtoBp fees
    breakevenNote := none
    feeOverrides := fees
    cod := segmentRow "COD" cp.codOrders cp.codGrossMu codRto effCod (codFeeTotal + codReturnShip)
    prepaid := segmentRow "Prepaid" cp.prepaidOrders cp.prepaidGrossMu prepaidRto effPrepaid
      (gatewayFeeTotal + prepaidReturnShip) }

def getCodPrepaid (cp : FactCodPrepaid) (s : FactShipmentAnalytics)
    (feeOverrides : CodPrepaidFeeOverrides) : Result CodPrepaidResult := do
  let codRtoBp ← bigInt ((bp s.codRtoCount s.codTotal).getD (ofInt 0))
  let prepaidRtoBp ← bigInt ((bp s.prepaidRtoCount s.prepaidTotal).getD (ofInt 0))
  .ok (codPrepaidResult cp s feeOverrides.assumed codRtoBp prepaidRtoBp)

/-! ### Python -/

namespace CodPrepaidQuery

structure CodPrepaidFacts where
  codOrders : Int := 0
  prepaidOrders : Int := 0
  codDelivered : Int := 0
  codRto : Int := 0
  prepaidRto : Int := 0
  grossRevenueCodMu : Int := 0
  grossRevenuePrepaidMu : Int := 0

structure FeeInputs where
  codFeeMu : Int := 0
  gatewayFeeBp : Int := 0
  returnShippingMu : Int := 0
  restockingMu : Int := 0

structure CodPrepaidSegment where
  paymentMethod : String
  orders : Int
  grossRevenueMu : Int
  rtoRateBp : Option Int
  effectiveRevenueMu : Int
  feeTotalMu : Int
  netRevenuePerOrderMu : Option Int
deriving DecidableEq

structure CodPrepaidResult where
  workspaceId : String
  codOrders : Int
  prepaidOrders : Int
  codRealizationRateBp : Option Int
  codRtoRateBp : Option Int
  prepaidRtoRateBp : Option Int
  effectiveRevenueCodMu : Int
  effectiveRevenuePrepaidMu : Int
  prepaidPremiumMu : Int
  averageOrderValueMu : Option Int
  breakevenCodRtoRateBp : Option Int
  breakevenNote : Option String
  cod : CodPrepaidSegment
  prepaid : CodPrepaidSegment
  currencyCode : String
deriving DecidableEq

/-- `formula_py` of a rate, for a segment that has orders. -/
def rateOf (formula : Option Int) (orders : Int) : Option Int := if 0 < orders then formula else none

def survived (gross rtoBp : Int) : Int := gross - (gross * rtoBp).fdiv 10000

def segment (paymentMethod : String) (orders gross : Int) (rto : Option Int)
    (effective fees : Int) : CodPrepaidSegment where
  paymentMethod := paymentMethod
  orders := orders
  grossRevenueMu := gross
  rtoRateBp := rto
  effectiveRevenueMu := effective
  feeTotalMu := fees
  netRevenuePerOrderMu := if 0 < orders then some (effective.fdiv orders) else none

def returnShippingRequired : String := "Return shipping cost required for break-even."

/-- The break-even that the formula gives, or the note in its place. -/
def reported : Option Int → Option Int × Option String
  | none => (none, some returnShippingRequired)
  | some raw =>
    if 0 ≤ raw ∧ raw ≤ 10000 then (some raw, none)
    else if raw < 0 then (none, some "Prepaid is always better at current AOV and fees.")
    else (none, some "COD is always better at current AOV and fees.")

/-- The note when there is nothing to compute. -/
def missing (aov : Option Int) (totalOrders totalGross : Int) : String :=
  if totalOrders = 0 ∨ totalGross ≤ 0 then
    "No orders in range; set date range and sync Shiprocket."
  else if ∀ v ∈ aov, v ≤ 0 then "Average order value unavailable."
  else returnShippingRequired

def breakeven (aov : Option Int) (prepaidRtoBp totalOrders totalGross : Int) (fees : FeeInputs) :
    Option Int × Option String :=
  match aov with
  | none => (none, some (missing none totalOrders totalGross))
  | some v =>
    if 0 < v ∧ 0 < v + fees.returnShippingMu + fees.restockingMu then
      reported (Division.breakevenCodRtoRateBp v prepaidRtoBp fees.codFeeMu fees.gatewayFeeBp
        fees.returnShippingMu fees.restockingMu).formulaPy
    else (none, some (missing (some v) totalOrders totalGross))

def economics (workspaceId : String) (facts : CodPrepaidFacts) (fees : FeeInputs)
    (currencyCode : String) : CodPrepaidResult :=
  let codRtoRate := rateOf (Division.rtoRateBp facts.codRto facts.codOrders).formulaPy
    facts.codOrders
  let prepaidRtoRate := rateOf (Division.rtoRateBp facts.prepaidRto facts.prepaidOrders).formulaPy
    facts.prepaidOrders
  let codRtoBp := codRtoRate.getD 0
  let prepaidRtoBp := prepaidRtoRate.getD 0
  let codFeeTotal := facts.codOrders * fees.codFeeMu
  let gatewayFeeTotal := (facts.grossRevenuePrepaidMu * fees.gatewayFeeBp).fdiv 10000
  let codReturnShippingTotal := facts.codRto * fees.returnShippingMu
  let prepaidReturnShippingTotal := facts.prepaidRto * fees.returnShippingMu
  let effCod := survived facts.grossRevenueCodMu codRtoBp - codFeeTotal - codReturnShippingTotal
  let effPrepaid := survived facts.grossRevenuePrepaidMu prepaidRtoBp - gatewayFeeTotal -
    prepaidReturnShippingTotal
  let totalOrders := facts.codOrders + facts.prepaidOrders
  let totalGross := facts.grossRevenueCodMu + facts.grossRevenuePrepaidMu
  let aov := rateOf (Division.aovMu totalGross totalOrders).formulaPy totalOrders
  let even := breakeven aov prepaidRtoBp totalOrders totalGross fees
  { workspaceId := workspaceId
    codOrders := facts.codOrders
    prepaidOrders := facts.prepaidOrders
    codRealizationRateBp := rateOf
      (Metrics.Registry.ratioBp facts.codDelivered facts.codOrders) facts.codOrders
    codRtoRateBp := codRtoRate
    prepaidRtoRateBp := prepaidRtoRate
    effectiveRevenueCodMu := effCod
    effectiveRevenuePrepaidMu := effPrepaid
    prepaidPremiumMu := effPrepaid - effCod
    averageOrderValueMu := aov
    breakevenCodRtoRateBp := even.1
    breakevenNote := even.2
    cod := segment "COD" facts.codOrders facts.grossRevenueCodMu codRtoRate effCod
      (codFeeTotal + codReturnShippingTotal)
    prepaid := segment "Prepaid" facts.prepaidOrders facts.grossRevenuePrepaidMu prepaidRtoRate
      effPrepaid (gatewayFeeTotal + prepaidReturnShippingTotal)
    currencyCode := currencyCode }

def unscoped : PyExc where
  cls := .other "UnscopedQueryError" true
  text := "CodPrepaidQuery.execute: workspace_id must not be empty or None. " ++
    "An un-scoped query is a tenancy violation. CF-C4-QUERY-SCOPE-ISOLATION-1."

/-- `CodPrepaidQuery.execute` -/
def execute (answer : Except PyExc (List ComputedRow)) (workspaceId : String)
    (dateRange : DateRange) (facts : CodPrepaidFacts) (fees : FeeInputs)
    (currencyCode : String) : Except PyExc CodPrepaidResult :=
  if isBlankText workspaceId then .error unscoped
  else do
    let _ ← runQuery answer workspaceId dateRange
    .ok (economics workspaceId facts fees currencyCode)

end CodPrepaidQuery

end BrainV2.LivePlane
