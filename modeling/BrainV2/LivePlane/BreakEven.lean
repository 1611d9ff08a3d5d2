import BrainV2.LivePlane.CodPrepaid
import Mathlib.Data.Rat.Cast.Order
import Mathlib.Tactic.Linarith
import Mathlib.Tactic.FieldSimp

/-!
# The break-even

* `OrderCosts`: an order value with the prepaid rate and the fees;
* `codNet`, `prepaidNet`: what is left of an order of each kind;
* `BreaksEven`, `breaksEven_iff`: the rate up to which COD leaves as much as prepaid, as a quotient;
* `BreakEvenRight`, `breakEvenRight_iff`: the costs for which the three formulas give that rate.
-/

namespace BrainV2.LivePlane

open Binary64 (ofInt)
open Js (bigIntOfNumber)
open Metrics.Registry (Division)

/-- What the break-even is computed from; rates are in basis points. -/
structure OrderCosts where
  aov : Int
  prepaidRtoBp : Int
  codFee : Int
  gatewayFeeBp : Int
  returnShipping : Int
  restocking : Int
  aov_pos : 0 < aov
  prepaidRtoBp_nonneg : 0 ≤ prepaidRtoBp
  prepaidRtoBp_le : prepaidRtoBp ≤ 10000
  codFee_nonneg : 0 ≤ codFee
  gatewayFeeBp_nonneg : 0 ≤ gatewayFeeBp
  returnShipping_nonneg : 0 ≤ returnShipping
  restocking_nonneg : 0 ≤ restocking

namespace OrderCosts

variable (o : OrderCosts)

/-- The gateway's fee on a prepaid order. -/
def pgFee : Int := o.aov * o.gatewayFeeBp / 10000

/-- What is lost with a returned order. -/
def atStake : Int := o.aov + o.returnShipping + o.restocking

/-- The net of a COD order of which `r` in 10,000 are returned. -/
def codNet (r : Int) : ℚ :=
  o.aov * (1 - r / 10000) - o.codFee - r / 10000 * (o.returnShipping + o.restocking)

def prepaidNet : ℚ :=
  o.aov * (1 - o.prepaidRtoBp / 10000) - o.pgFee -
    o.prepaidRtoBp / 10000 * (o.returnShipping + o.restocking)

/-- COD leaves at least what prepaid does up to the rate `b`, and less above it. -/
structure BreaksEven (b : Int) : Prop where
  upTo : ∀ r ≤ b, o.prepaidNet ≤ o.codNet r
  above : ∀ r ≥ b + 1, o.codNet r < o.prepaidNet

/-- The costs in the live plane, where restocking is free. -/
def unstocked : OrderCosts := { o with restocking := 0, restocking_nonneg := Int.le_refl 0 }

def fees : FeeAssumptions where
  codFeePerOrder := o.codFee
  returnShipping := o.returnShipping
  gatewayFeeBp := o.gatewayFeeBp

/-- The formula of the registries. -/
def formula : Division :=
  .breakevenCodRtoRateBp o.aov o.prepaidRtoBp o.codFee o.gatewayFeeBp o.returnShipping o.restocking

/-- Each of the three gives a break-even. -/
structure BreakEvenRight : Prop where
  ts : ∃ value b, o.formula.formulaTs = .ok value ∧ value.integer = some b ∧ o.BreaksEven b
  py : ∃ b, o.formula.formulaPy = some b ∧ o.BreaksEven b
  live : ∃ x b, breakeven o.aov o.prepaidRtoBp o.fees = some x ∧ bigIntOfNumber x = some b ∧
    o.unstocked.BreaksEven b

/-! ### The rate that breaks even -/

theorem atStake_pos : 0 < o.atStake := by
  have haov := o.aov_pos
  have hreturn := o.returnShipping_nonneg
  have hrestock := o.restocking_nonneg
  unfold atStake
  omega

/-- A returned order costs its value and its fees, and a fee is paid in any case. -/
theorem prepaidNet_le_codNet_iff (r : Int) : o.prepaidNet ≤ o.codNet r ↔
    r * o.atStake ≤ o.prepaidRtoBp * o.atStake + (o.pgFee - o.codFee) * 10000 := by
  have hscaled : 10000 * (o.codNet r - o.prepaidNet) =
      ((o.prepaidRtoBp * o.atStake + (o.pgFee - o.codFee) * 10000 - r * o.atStake : Int) : ℚ) := by
    rw [codNet, prepaidNet, atStake]
    push_cast
    ring
  constructor
  · intro h
    have hnonneg : (0 : ℚ) ≤ 10000 * (o.codNet r - o.prepaidNet) := by linarith
    rw [hscaled] at hnonneg
    have hint := Int.cast_nonneg_iff.mp hnonneg
    omega
  · intro h
    have hnonneg : (0 : ℚ) ≤ 10000 * (o.codNet r - o.prepaidNet) := by
      rw [hscaled]
      apply Int.cast_nonneg
      omega
    linarith

theorem breaksEven_iff (b : Int) : o.BreaksEven b ↔
    b = (o.prepaidRtoBp * o.atStake + (o.pgFee - o.codFee) * 10000) / o.atStake := by
  have hle : ∀ r, o.prepaidNet ≤ o.codNet r ↔
      r ≤ (o.prepaidRtoBp * o.atStake + (o.pgFee - o.codFee) * 10000) / o.atStake := by
    intro r
    rw [prepaidNet_le_codNet_iff, Int.le_ediv_iff_mul_le o.atStake_pos]
  constructor
  · intro h
    have hb := (hle b).mp (h.upTo b (Int.le_refl b))
    have hnext := mt (hle (b + 1)).mpr (not_le.mpr (h.above (b + 1) (Int.le_refl _)))
    omega
  · intro h
    constructor
    · intro r hr
      exact (hle r).mpr (h ▸ hr)
    · intro r hr
      rw [← not_le, hle]
      omega

/-! ### What the formulas give -/

/-- The difference of the fees with its sign the other way. -/
def mirrored : Int := o.prepaidRtoBp * o.atStake + (o.codFee - o.pgFee) * 10000

theorem numScaled_eq : o.aov * o.prepaidRtoBp + (o.codFee - o.pgFee) * 10000 +
    o.prepaidRtoBp * (o.returnShipping + o.restocking) = o.mirrored := by
  rw [mirrored, atStake]
  ring

theorem formulaPy_eq : o.formula.formulaPy = some (o.mirrored / o.atStake) := by
  have hpos : ¬ o.aov + o.returnShipping + o.restocking ≤ 0 := not_le.mpr o.atStake_pos
  have hfee : (o.aov * o.gatewayFeeBp).fdiv 10000 = o.pgFee := Quotients.fdiv_eq (by decide)
  simp only [formula, Division.formulaPy, if_neg hpos, hfee, numScaled_eq]
  rw [Quotients.fdiv_eq (show 0 < o.aov + o.returnShipping + o.restocking from o.atStake_pos)]
  rfl

theorem pgFee_tdiv : (o.aov * o.gatewayFeeBp).tdiv 10000 = o.pgFee :=
  Int.tdiv_eq_ediv_of_nonneg (Int.mul_nonneg o.aov_pos.le o.gatewayFeeBp_nonneg)

theorem formulaTs_eq : o.formula.formulaTs =
    .ok (.number (ofInt (o.mirrored.tdiv o.atStake))) := by
  have hpos : ¬ o.aov + o.returnShipping + o.restocking ≤ 0 := not_le.mpr o.atStake_pos
  simp only [formula, Division.formulaTs, if_neg hpos, pgFee_tdiv, numScaled_eq]
  rfl

theorem breakeven_eq : breakeven o.aov o.prepaidRtoBp o.fees =
    some (ofInt (o.unstocked.mirrored.tdiv o.unstocked.atStake)) := by
  have hstake : breakevenDenom o.aov o.fees.returnShipping = o.unstocked.atStake :=
    (Int.add_zero _).symm
  have hreturn : o.unstocked.returnShipping + o.unstocked.restocking = o.returnShipping :=
    Int.add_zero _
  have hnum : breakevenNum o.aov o.prepaidRtoBp o.fees = o.unstocked.mirrored := by
    rw [breakevenNum, ← numScaled_eq o.unstocked, ← pgFee_tdiv o.unstocked, hreturn]
    rfl
  rw [breakeven, hstake, hnum, if_pos o.unstocked.atStake_pos]

/-! ### Equal fees -/

/-- A difference and its opposite round down to the same only at zero. -/
theorem breaksEven_mirrored_iff :
    o.BreaksEven (o.mirrored / o.atStake) ↔ o.codFee = o.pgFee := by
  have hstake := o.atStake_pos
  rw [breaksEven_iff, mirrored, Int.add_comm (o.prepaidRtoBp * o.atStake),
    Int.add_comm (o.prepaidRtoBp * o.atStake), Int.add_mul_ediv_right _ _ hstake.ne',
    Int.add_mul_ediv_right _ _ hstake.ne']
  constructor
  · intro h
    have hequal : (o.codFee - o.pgFee) * 10000 / o.atStake =
        (o.pgFee - o.codFee) * 10000 / o.atStake := by omega
    by_contra hne
    rcases lt_or_gt_of_ne hne with hless | hmore
    · have hneg : (o.codFee - o.pgFee) * 10000 / o.atStake < 0 :=
        Int.ediv_neg_of_neg_of_pos (by omega) hstake
      have hnonneg : 0 ≤ (o.pgFee - o.codFee) * 10000 / o.atStake :=
        Int.ediv_nonneg (by omega) hstake.le
      omega
    · have hneg : (o.pgFee - o.codFee) * 10000 / o.atStake < 0 :=
        Int.ediv_neg_of_neg_of_pos (by omega) hstake
      have hnonneg : 0 ≤ (o.codFee - o.pgFee) * 10000 / o.atStake :=
        Int.ediv_nonneg (by omega) hstake.le
      omega
  · intro h
    rw [h]

/-- With equal fees the formula is the prepaid rate. -/
theorem mirrored_of_equal (h : o.codFee = o.pgFee) :
    o.mirrored = o.prepaidRtoBp * o.atStake := by
  rw [mirrored, h]
  omega

theorem number_of_equal (h : o.codFee = o.pgFee) :
    bigIntOfNumber (ofInt (o.mirrored.tdiv o.atStake)) = some o.prepaidRtoBp ∧
      o.BreaksEven o.prepaidRtoBp := by
  have hstake := o.atStake_pos.ne'
  have hlow := o.prepaidRtoBp_nonneg
  have hhigh := o.prepaidRtoBp_le
  rw [o.mirrored_of_equal h, Int.mul_tdiv_cancel _ hstake]
  refine ⟨Metrics.Registry.bigIntOfNumber_ofInt (by omega), ?_⟩
  have heven := o.breaksEven_mirrored_iff.mpr h
  rwa [o.mirrored_of_equal h, Int.mul_ediv_cancel _ hstake] at heven

theorem breakEvenRight_iff : o.BreakEvenRight ↔ o.codFee = o.pgFee := by
  constructor
  · intro h
    obtain ⟨b, hb, heven⟩ := h.py
    rw [formulaPy_eq] at hb
    rw [← Option.some.inj hb] at heven
    exact o.breaksEven_mirrored_iff.mp heven
  · intro h
    constructor
    · obtain ⟨hnumber, heven⟩ := o.number_of_equal h
      exact ⟨_, _, o.formulaTs_eq, hnumber, heven⟩
    · exact ⟨_, o.formulaPy_eq, o.breaksEven_mirrored_iff.mpr h⟩
    · obtain ⟨hnumber, heven⟩ := o.unstocked.number_of_equal h
      exact ⟨_, _, o.breakeven_eq, hnumber, heven⟩

/-- Orders of ₹1,500 with a gateway fee of 2%, no COD fee and ₹80 of return shipping. -/
def freeCod : OrderCosts where
  aov := 150000
  prepaidRtoBp := 500
  codFee := 0
  gatewayFeeBp := 200
  returnShipping := 8000
  restocking := 0
  aov_pos := by decide
  prepaidRtoBp_nonneg := by decide
  prepaidRtoBp_le := by decide
  codFee_nonneg := by decide
  gatewayFeeBp_nonneg := by decide
  returnShipping_nonneg := by decide
  restocking_nonneg := by decide

/-- The formula breaks even at 310 basis points, and COD does not leave less until 690. -/
theorem freeCod_breaks_even :
    freeCod.formula.formulaPy = some 310 ∧ freeCod.BreaksEven 689 ∧
      ¬ freeCod.BreaksEven 310 ∧ ¬ freeCod.BreakEvenRight := by
  have hpy : freeCod.formula.formulaPy = some 310 := by decide
  have hnot : ¬ freeCod.BreaksEven 310 := by
    rw [breaksEven_iff]
    decide
  refine ⟨hpy, (freeCod.breaksEven_iff 689).mpr (by decide), hnot, fun h => ?_⟩
  obtain ⟨b, hb, heven⟩ := h.py
  rw [hpy] at hb
  rw [← Option.some.inj hb] at heven
  exact hnot heven

end OrderCosts

end BrainV2.LivePlane
