import BrainV2.Metrics.Registry
import BrainV2.Py.Values
import Mathlib.Data.Rat.Floor
import Mathlib.Tactic.NormNum

/-!
# One number in three dialects

* `Comparable`: a ratio of a positive denominator is compared where it fits into its column;
* `OneNumber`: the three dialects give one integer, and the two languages have no value together;
* `RoundsAlike`: when they do, of the arguments: no negative quotient with a rest, and no
  denominator for which only one language has a value;
* `oneNumber_iff`: the two are the same;
* `ratioToBasisPoints`: the ratio of the Python library, which divides with `//`;
* `floor_div_eq_fdiv`: the floor of a quotient of rationals is `Int.fdiv`;
* `basisPoints_agree`: both libraries return that floor, or both raise when it is out of the
  range of 32 bits.
-/

namespace BrainV2.Metrics.Registry

open Binary64 (ofInt)
open Js (JsError)
open Quotients (Uneven)

namespace Division

def Comparable (m : Division) : Prop :=
  0 < m.denominator → m.unit = .bp → ∀ n, m.formulaPy = some n → InInt32 n

/-- The formula of TypeScript returns that integer. -/
def ReturnsTs (m : Division) (n : Int) : Prop :=
  ∃ value, m.formulaTs = .ok value ∧ value.integer = some n

structure OneNumber (m : Division) : Prop where
  agree : 0 < m.denominator → ∃ n, m.ReturnsTs n ∧ m.formulaPy = some n ∧ m.clickhouseSql = some n
  guarded : m.denominator ≤ 0 → (∃ e, m.formulaTs = .error e) ∧ m.formulaPy = none ∨
    ∃ n, m.ReturnsTs n ∧ m.formulaPy = some n

/-! ### Arguments that are rounded alike -/

/-- A ratio of a denominator that is not positive has no value in Python, and in TypeScript none
that does not fit. -/
def RatioAlike (numerator denominator : Int) : Prop :=
  (0 < denominator → ¬ Uneven (numerator * 10000) denominator) ∧
    (denominator < 0 → numerator * 10000 ≤ 2147483648 * denominator ∨
      -2147483648 * denominator < numerator * 10000)

/-- The fee that is truncated raises the numerator, by `10000`, above the one that is rounded
down. -/
def BreakevenAlike (aov prepaidRtoRate codFee gatewayFee returnShipping restocking : Int) : Prop :=
  let denom := aov + returnShipping + restocking
  let numScaled := aov * prepaidRtoRate + (codFee - (aov * gatewayFee).tdiv 10000) * 10000 +
    prepaidRtoRate * (returnShipping + restocking)
  if Uneven (aov * gatewayFee) 10000 then
    if Uneven numScaled denom then
      denom ≤ numScaled % denom + 10000 ∧ numScaled % denom + 10000 < 2 * denom
    else numScaled % denom + 10000 < denom
  else ¬ Uneven numScaled denom

/-- The rests even out, or both sums are out of the range on the same side. -/
def ScoreAlike (rto cod repeats aov : Int) : Prop :=
  let rest (n d : Int) : Int := if Uneven n d then 1 else 0
  rest cod 2 = rest repeats 2 + rest aov 100 ∨
    (rto * 2 + cod.tdiv 2 ≤ repeats.tdiv 2 + aov.tdiv 100 ∧
      rto * 2 + cod / 2 ≤ repeats / 2 + aov / 100) ∨
    (10000 + repeats.tdiv 2 + aov.tdiv 100 ≤ rto * 2 + cod.tdiv 2 ∧
      10000 + repeats / 2 + aov / 100 ≤ rto * 2 + cod / 2)

def RoundsAlike : Division → Prop
  | miscExpensesProratedMu n d | aovMu n d => 0 < d ∧ ¬ Uneven n d
  | blendedRoasX100 n d => 0 < d ∧ ¬ Uneven (n * 100) d
  | trueCm2Mu _ rtoOrders totalAdSpend variableCosts cogs d =>
    0 < d ∧ ¬ Uneven (rtoOrders * (totalAdSpend + variableCosts + cogs)) d
  | cacMu n d | cm2PerNcMu n d => 0 < d → ¬ Uneven n d
  | rtoRateBp n d | prepaidRateBp n d | conversionRateBp n d | acosBp n d | merBp n d
  | amerBp n d | ltvCacBp n d | goalAttainmentBp n d => RatioAlike n d
  | inventorySellThroughBp n inventory => RatioAlike n (n + inventory)
  | breakevenCodRtoRateBp aov prepaidRtoRate codFee gatewayFee returnShipping restocking =>
    0 < aov + returnShipping + restocking ∧
      BreakevenAlike aov prepaidRtoRate codFee gatewayFee returnShipping restocking
  | pincodeReliabilityScore rto cod repeats aov => ScoreAlike rto cod repeats aov

/-! ### The kinds of formula -/

section

variable {m : Division} {n d t q s : Int}

theorem returnsTs_bigint (h : m.formulaTs = .ok (.bigint t)) (n : Int) : m.ReturnsTs n ↔ n = t := by
  constructor
  · rintro ⟨value, hvalue, hn⟩
    rw [h] at hvalue
    cases hvalue
    exact (Option.some.inj hn).symm
  · rintro rfl
    exact ⟨_, h, rfl⟩

theorem returnsTs_number (h : m.formulaTs = .ok (.number (ofInt t))) (ht : t.natAbs < 2 ^ 53)
    (n : Int) : m.ReturnsTs n ↔ n = t := by
  have hinteger : Number.integer (.number (ofInt t)) = some t := bigIntOfNumber_ofInt ht
  constructor
  · rintro ⟨value, hvalue, hn⟩
    rw [h] at hvalue
    cases hvalue
    rw [hinteger] at hn
    exact (Option.some.inj hn).symm
  · rintro rfl
    exact ⟨_, h, hinteger⟩

theorem oneNumber_of_pos (hts : ∀ n, m.ReturnsTs n ↔ n = t) (hpy : m.formulaPy = some q)
    (hsql : m.clickhouseSql = some s) (hd : 0 < m.denominator) : m.OneNumber ↔ t = q ∧ s = q := by
  constructor
  · intro h
    obtain ⟨n, hn, hpy', hsql'⟩ := h.agree hd
    have ht := (hts n).mp hn
    rw [hpy] at hpy'
    rw [hsql] at hsql'
    have hq := Option.some.inj hpy'
    have hs := Option.some.inj hsql'
    omega
  · rintro ⟨rfl, rfl⟩
    exact ⟨fun _ => ⟨s, (hts s).mpr rfl, hpy, hsql⟩, fun h => absurd h (Int.not_le.mpr hd)⟩

/-- The default of TypeScript is a number where Python has none. -/
theorem not_oneNumber_of_default (hd : m.denominator ≤ 0) {value : Number}
    (hts : m.formulaTs = .ok value) (hpy : m.formulaPy = none) : ¬ m.OneNumber := by
  intro h
  rcases h.guarded hd with ⟨⟨e, he⟩, -⟩ | ⟨n, -, hn⟩
  · rw [hts] at he
    cases he
  · rw [hpy] at hn
    cases hn

theorem oneNumber_of_throws (hd : m.denominator ≤ 0) {e : JsError} (hts : m.formulaTs = .error e)
    (hpy : m.formulaPy = none) : m.OneNumber :=
  ⟨fun h => absurd h (Int.not_lt.mpr hd), fun _ => Or.inl ⟨⟨e, hts⟩, hpy⟩⟩

theorem intFloorDivOrNull_of_pos (hd : 0 < d) : intFloorDivOrNull n d = some (n / d) := by
  rw [intFloorDivOrNull, if_neg (Int.not_le.mpr hd), Quotients.fdiv_eq hd]

theorem intFloorDivOrNull_of_nonpos (hd : d ≤ 0) : intFloorDivOrNull n d = none :=
  if_pos hd

theorem intDivOrNull_of_pos (hd : 0 < d) : intDivOrNull n d = some (n.tdiv d) :=
  if_pos hd

/-- A ratio of a denominator that is not positive. -/
theorem ratioToBasisPoints_error_iff (hd : d ≤ 0) :
    (∃ e, ratioToBasisPoints n d = .error e) ↔
      (d < 0 → n * 10000 ≤ 2147483648 * d ∨ -2147483648 * d < n * 10000) := by
  by_cases hzero : d = 0
  · exact iff_of_true ⟨_, if_pos hzero⟩ fun hneg => absurd hzero hneg.ne
  · have hneg : d < 0 := by omega
    have hhigh := Quotients.le_fdiv_neg_iff (n := n * 10000) (k := 2147483648) hneg
    have hlow := Quotients.le_fdiv_neg_iff (n := n * 10000) (k := -2147483648) hneg
    rw [ratioToBasisPoints_eq hzero]
    split
    · next hfits =>
      refine iff_of_false (by rintro ⟨e, he⟩; cases he) fun h => ?_
      obtain ⟨hlow', hhigh'⟩ := hfits
      have := h hneg
      omega
    · next hout =>
      refine iff_of_true ⟨_, rfl⟩ fun _ => ?_
      rw [InInt32] at hout
      omega

/-- A ratio: rounded down in both languages. -/
theorem oneNumber_ratio (hts : m.formulaTs = ratioToBasisPoints n d)
    (hpy : m.formulaPy = ratioBp n d)
    (hsql : 0 < d → m.clickhouseSql = some ((n * 10000).tdiv d)) (hd : m.denominator = d)
    (hunit : m.unit = .bp) (hfits : m.Comparable) : m.OneNumber ↔ RatioAlike n d := by
  subst hd
  by_cases hpos : 0 < m.denominator
  · have hq : m.formulaPy = some (n * 10000 / m.denominator) :=
      hpy.trans (intFloorDivOrNull_of_pos hpos)
    have hin : InInt32 (n * 10000 / m.denominator) := hfits hpos hunit _ hq
    rw [ratioToBasisPoints_eq hpos.ne', Quotients.fdiv_eq hpos, if_pos hin] at hts
    rw [oneNumber_of_pos (returnsTs_number hts (natAbs_of_inInt32 hin)) hq (hsql hpos) hpos,
      Quotients.tdiv_eq_ediv_iff hpos]
    exact ⟨fun h => ⟨fun _ => h.2, fun hneg => absurd hpos hneg.not_gt⟩,
      fun h => ⟨rfl, h.1 hpos⟩⟩
  · have hnone : m.formulaPy = none := hpy.trans (intFloorDivOrNull_of_nonpos (Int.not_lt.mp hpos))
    have hthrows := ratioToBasisPoints_error_iff (n := n) (Int.not_lt.mp hpos)
    rw [RatioAlike, ← hthrows, ← hts]
    constructor
    · intro h
      refine ⟨fun h => absurd h hpos, ?_⟩
      rcases h.guarded (Int.not_lt.mp hpos) with ⟨he, -⟩ | ⟨n, -, hn⟩
      · exact he
      · rw [hnone] at hn
        cases hn
    · rintro ⟨-, e, he⟩
      exact oneNumber_of_throws (Int.not_lt.mp hpos) he hnone

/-- A quotient that is truncated in TypeScript, and has a default there. -/
theorem oneNumber_default (hts : m.formulaTs = .ok (.bigint (if 0 < d then n.tdiv d else 0)))
    (hpy : m.formulaPy = intFloorDivOrNull n d) (hsql : m.clickhouseSql = intDivOrNull n d)
    (hd : m.denominator = d) : m.OneNumber ↔ 0 < d ∧ ¬ Uneven n d := by
  subst hd
  by_cases hpos : 0 < m.denominator
  · rw [if_pos hpos] at hts
    rw [intFloorDivOrNull_of_pos hpos] at hpy
    rw [intDivOrNull_of_pos hpos] at hsql
    rw [oneNumber_of_pos (returnsTs_bigint hts) hpy hsql hpos, and_self,
      Quotients.tdiv_eq_ediv_iff hpos, and_iff_right hpos]
  · rw [intFloorDivOrNull_of_nonpos (Int.not_lt.mp hpos)] at hpy
    exact iff_of_false (not_oneNumber_of_default (Int.not_lt.mp hpos) hts hpy) fun h => hpos h.1

/-- A quotient that is truncated in TypeScript, and guarded there. -/
theorem oneNumber_guarded {e : JsError}
    (hts : m.formulaTs = if d ≤ 0 then .error e else .ok (.bigint (n.tdiv d)))
    (hpy : m.formulaPy = intFloorDivOrNull n d) (hsql : m.clickhouseSql = intDivOrNull n d)
    (hd : m.denominator = d) : m.OneNumber ↔ (0 < d → ¬ Uneven n d) := by
  subst hd
  by_cases hpos : 0 < m.denominator
  · rw [if_neg (Int.not_le.mpr hpos)] at hts
    rw [intFloorDivOrNull_of_pos hpos] at hpy
    rw [intDivOrNull_of_pos hpos] at hsql
    rw [oneNumber_of_pos (returnsTs_bigint hts) hpy hsql hpos, and_self,
      Quotients.tdiv_eq_ediv_iff hpos, forall_prop_of_true hpos]
  · rw [if_pos (Int.not_lt.mp hpos)] at hts
    rw [intFloorDivOrNull_of_nonpos (Int.not_lt.mp hpos)] at hpy
    exact iff_of_true (oneNumber_of_throws (Int.not_lt.mp hpos) hts hpy) fun h => absurd h hpos

end

theorem oneNumber_blendedRoasX100 {netSales totalAdSpend : Int}
    (hfits : (blendedRoasX100 netSales totalAdSpend).Comparable) :
    (blendedRoasX100 netSales totalAdSpend).OneNumber ↔
      0 < totalAdSpend ∧ ¬ Uneven (netSales * 100) totalAdSpend := by
  by_cases hpos : 0 < totalAdSpend
  · have hts : (blendedRoasX100 netSales totalAdSpend).formulaTs =
        .ok (.number (ofInt ((netSales * 100).tdiv totalAdSpend))) := by
      rw [formulaTs, if_pos hpos]
    have hpy := intFloorDivOrNull_of_pos (n := netSales * 100) hpos
    obtain ⟨hlow, hhigh⟩ := hfits hpos rfl _ hpy
    have hsmall : ((netSales * 100).tdiv totalAdSpend).natAbs < 2 ^ 53 := by
      rw [Quotients.tdiv_eq hpos]
      split <;> omega
    refine (oneNumber_of_pos (returnsTs_number hts hsmall) hpy (intDivOrNull_of_pos hpos)
      hpos).trans ?_
    rw [and_self, Quotients.tdiv_eq_ediv_iff hpos, and_iff_right hpos]
  · have hneg := Int.not_lt.mp hpos
    exact iff_of_false
      (not_oneNumber_of_default hneg (by rw [formulaTs]) (intFloorDivOrNull_of_nonpos hneg))
      fun h => hpos h.1

theorem oneNumber_trueCm2Mu (cm2 rtoOrders totalAdSpend variableCosts cogs totalOrders : Int) :
    (trueCm2Mu cm2 rtoOrders totalAdSpend variableCosts cogs totalOrders).OneNumber ↔
      0 < totalOrders ∧ ¬ Uneven (rtoOrders * (totalAdSpend + variableCosts + cogs)) totalOrders := by
  by_cases hpos : 0 < totalOrders
  · let provision := rtoOrders * (totalAdSpend + variableCosts + cogs)
    have hts : (trueCm2Mu cm2 rtoOrders totalAdSpend variableCosts cogs totalOrders).formulaTs =
        .ok (.bigint (cm2 - provision.tdiv totalOrders)) := if_neg (Int.not_le.mpr hpos)
    have hpy : (trueCm2Mu cm2 rtoOrders totalAdSpend variableCosts cogs totalOrders).formulaPy =
        some (cm2 - provision / totalOrders) := by
      rw [← Quotients.fdiv_eq hpos]
      exact if_neg (Int.not_le.mpr hpos)
    have hsql : (trueCm2Mu cm2 rtoOrders totalAdSpend variableCosts cogs totalOrders).clickhouseSql =
        some (cm2 - provision.tdiv totalOrders) := if_pos hpos
    refine (oneNumber_of_pos (returnsTs_bigint hts) hpy hsql hpos).trans ?_
    rw [and_self, and_iff_right hpos, ← Quotients.tdiv_eq_ediv_iff hpos]
    exact ⟨fun h => Int.neg_inj.mp (Int.add_left_cancel h), fun h => by rw [h]⟩
  · have hneg := Int.not_lt.mp hpos
    exact iff_of_false (not_oneNumber_of_default hneg (if_pos hneg) (if_pos hneg)) fun h => hpos h.1

/-- A numerator that is `extra` higher, truncated on one side and rounded down on the other. -/
theorem tdiv_eq_add_ediv_iff {n d : Int} (hd : 0 < d) (extra : Int) :
    n.tdiv d = (n + extra) / d ↔ if Uneven n d then d ≤ n % d + extra ∧ n % d + extra < 2 * d
      else 0 ≤ n % d + extra ∧ n % d + extra < d := by
  have hrest := Int.emod_add_mul_ediv n d
  have hcomm : d * (n / d) = n / d * d := Int.mul_comm _ _
  rw [Quotients.tdiv_eq hd, eq_comm, Int.ediv_eq_iff_of_pos hd]
  split
  · rw [Int.add_mul, Int.one_mul]
    omega
  · rw [Int.add_zero]
    omega

theorem ediv_add_bounds {d : Int} (hd : 0 < d) (n : Int) {extra : Int} (h : 0 ≤ extra) :
    n / d ≤ (n + extra) / d ∧ (n + extra) / d ≤ n / d + extra := by
  have hextra : n + extra ≤ n + extra * d := by
    have hmul : extra * 1 ≤ extra * d := Int.mul_le_mul_of_nonneg_left hd h
    omega
  constructor
  · exact Int.ediv_le_ediv hd (by omega)
  · calc (n + extra) / d ≤ (n + extra * d) / d := Int.ediv_le_ediv hd hextra
      _ = n / d + extra := Int.add_mul_ediv_right _ _ hd.ne'

theorem oneNumber_breakevenCodRtoRateBp
    {aov prepaidRtoRate codFee gatewayFee returnShipping restocking : Int}
    (hfits : (breakevenCodRtoRateBp aov prepaidRtoRate codFee gatewayFee returnShipping
      restocking).Comparable) :
    (breakevenCodRtoRateBp aov prepaidRtoRate codFee gatewayFee returnShipping
      restocking).OneNumber ↔ 0 < aov + returnShipping + restocking ∧
        BreakevenAlike aov prepaidRtoRate codFee gatewayFee returnShipping restocking := by
  by_cases hpos : 0 < aov + returnShipping + restocking
  · let denom := aov + returnShipping + restocking
    let numScaled := aov * prepaidRtoRate + (codFee - (aov * gatewayFee).tdiv 10000) * 10000 +
      prepaidRtoRate * (returnShipping + restocking)
    let extra : Int := if Uneven (aov * gatewayFee) 10000 then 10000 else 0
    have hts : (breakevenCodRtoRateBp aov prepaidRtoRate codFee gatewayFee returnShipping
        restocking).formulaTs = .ok (.number (ofInt (numScaled.tdiv denom))) :=
      if_neg (Int.not_le.mpr hpos)
    have hpy : (breakevenCodRtoRateBp aov prepaidRtoRate codFee gatewayFee returnShipping
        restocking).formulaPy = some ((numScaled + extra) / denom) := by
      have hscaled : aov * prepaidRtoRate + (codFee - (aov * gatewayFee).fdiv 10000) * 10000 +
          prepaidRtoRate * (returnShipping + restocking) = numScaled + extra := by
        simp only [numScaled, extra, Quotients.tdiv_eq (show (0 : Int) < 10000 by decide),
          Quotients.fdiv_eq (show (0 : Int) < 10000 by decide)]
        split <;> ring
      rw [← Quotients.fdiv_eq hpos, ← hscaled]
      exact if_neg (Int.not_le.mpr hpos)
    have hextra : 0 ≤ extra ∧ extra ≤ 10000 := by
      simp only [extra]
      split <;> decide
    have hsmall : (numScaled.tdiv denom).natAbs < 2 ^ 53 := by
      obtain ⟨hlow, hhigh⟩ := hfits hpos rfl _ hpy
      have hbounds := ediv_add_bounds (show 0 < denom from hpos) numScaled hextra.1
      rw [Quotients.tdiv_eq (show 0 < denom from hpos)]
      split <;> omega
    refine (oneNumber_of_pos (returnsTs_number hts hsmall) hpy (intDivOrNull_of_pos hpos)
      hpos).trans ?_
    have hrest : 0 ≤ numScaled % denom := Int.emod_nonneg _ hpos.ne'
    have hlt : numScaled % denom < denom := Int.emod_lt_of_pos _ hpos
    have halike : BreakevenAlike aov prepaidRtoRate codFee gatewayFee returnShipping restocking ↔
        if Uneven (aov * gatewayFee) 10000 then
          if Uneven numScaled denom then
            denom ≤ numScaled % denom + 10000 ∧ numScaled % denom + 10000 < 2 * denom
          else numScaled % denom + 10000 < denom
        else ¬ Uneven numScaled denom := Iff.rfl
    have hdenom : 0 < denom := hpos
    rw [and_self, and_iff_right hpos, tdiv_eq_add_ediv_iff hdenom, halike]
    by_cases hfee : Uneven (aov * gatewayFee) 10000
    · have hraised : extra = 10000 := if_pos hfee
      rw [if_pos hfee, hraised]
      split
      · rfl
      · exact and_iff_right (by omega)
    · have hsame : extra = 0 := if_neg hfee
      rw [if_neg hfee, hsame, Int.add_zero]
      split
      · next huneven => exact iff_of_false (fun h => by omega) (not_not_intro huneven)
      · next heven => exact iff_of_true ⟨hrest, hlt⟩ heven
  · have hneg := Int.not_lt.mp hpos
    exact iff_of_false (not_oneNumber_of_default hneg (if_pos hneg) (if_pos hneg)) fun h => hpos h.1

theorem oneNumber_pincodeReliabilityScore (rto cod repeats aov : Int) :
    (pincodeReliabilityScore rto cod repeats aov).OneNumber ↔ ScoreAlike rto cod repeats aov := by
  have hsmall : ∀ raw : Int, (if raw < 0 then 0 else if 10000 < raw then 10000 else raw).natAbs <
      2 ^ 53 := by
    intro raw
    split
    · decide
    · split <;> omega
  have hts := returnsTs_number (m := pincodeReliabilityScore rto cod repeats aov) rfl (hsmall _)
  refine (oneNumber_of_pos hts rfl rfl (show (0 : Int) < 100 by decide)).trans ?_
  have hcod := Quotients.tdiv_eq (n := cod) (show (0 : Int) < 2 by decide)
  have hrepeats := Quotients.tdiv_eq (n := repeats) (show (0 : Int) < 2 by decide)
  have haov := Quotients.tdiv_eq (n := aov) (show (0 : Int) < 100 by decide)
  simp only [ScoreAlike, Quotients.fdiv_eq (show (0 : Int) < 2 by decide),
    Quotients.fdiv_eq (show (0 : Int) < 100 by decide)]
  omega

/-! ### All the metrics -/

theorem oneNumber_iff (m : Division) (hfits : m.Comparable) : m.OneNumber ↔ m.RoundsAlike := by
  cases m with
  | miscExpensesProratedMu n d => exact oneNumber_default rfl rfl rfl rfl
  | rtoRateBp n d => exact oneNumber_ratio rfl rfl intDivOrNull_of_pos rfl rfl hfits
  | prepaidRateBp n d => exact oneNumber_ratio rfl rfl intDivOrNull_of_pos rfl rfl hfits
  | conversionRateBp n d => exact oneNumber_ratio rfl rfl intDivOrNull_of_pos rfl rfl hfits
  | aovMu n d => exact oneNumber_default rfl rfl rfl rfl
  | acosBp n d => exact oneNumber_ratio rfl rfl intDivOrNull_of_pos rfl rfl hfits
  | blendedRoasX100 n d => exact oneNumber_blendedRoasX100 hfits
  | trueCm2Mu cm2 rto spend costs cogs d => exact oneNumber_trueCm2Mu cm2 rto spend costs cogs d
  | merBp n d => exact oneNumber_ratio rfl rfl intDivOrNull_of_pos rfl rfl hfits
  | amerBp n d => exact oneNumber_ratio rfl rfl intDivOrNull_of_pos rfl rfl hfits
  | cacMu n d => exact oneNumber_guarded rfl rfl rfl rfl
  | cm2PerNcMu n d => exact oneNumber_guarded rfl rfl rfl rfl
  | ltvCacBp n d => exact oneNumber_ratio rfl rfl intDivOrNull_of_pos rfl rfl hfits
  | breakevenCodRtoRateBp aov rate fee gateway shipping restocking =>
    exact oneNumber_breakevenCodRtoRateBp hfits
  | pincodeReliabilityScore rto cod repeats aov =>
    exact oneNumber_pincodeReliabilityScore rto cod repeats aov
  | inventorySellThroughBp n inventory =>
    exact oneNumber_ratio rfl rfl intDivOrNull_of_pos rfl rfl hfits
  | goalAttainmentBp n d =>
    exact oneNumber_ratio rfl rfl (fun hd => if_pos hd.ne') rfl rfl hfits

/-- Eighteen returns of a hundred and twenty orders. -/
theorem rtoRate_oneNumber : (rtoRateBp 18 120).OneNumber := by
  refine (oneNumber_iff (rtoRateBp 18 120) ?_).mpr ⟨fun _ => by decide, nofun⟩
  rintro - - n ⟨⟩
  decide

/-- A loss of one paisa, as a ratio and as a share of a month; and sales without an order. -/
theorem loss_not_oneNumber : ¬ (merBp (-1) 3).OneNumber ∧
    ¬ (Division.miscExpensesProratedMu (-1) 28).OneNumber ∧ ¬ (aovMu 100 0).OneNumber := by
  refine ⟨fun h => ?_, fun h => ?_, fun h => ?_⟩
  · obtain ⟨n, -, hpy, hsql⟩ := h.agree (by decide)
    cases hpy
    cases hsql
  · obtain ⟨n, -, hpy, hsql⟩ := h.agree (by decide)
    cases hpy
    cases hsql
  · rcases h.guarded (by decide) with ⟨⟨e, he⟩, -⟩ | ⟨n, -, hn⟩
    · cases he
    · cases hn

end Division

end BrainV2.Metrics.Registry

/-! ## Basis points in two languages -/

namespace BrainV2.BrainMetrics

open Binary64 (ofInt)
open Metrics.Registry (InInt32)
open Py (PyExc)

def divideByZero : PyExc :=
  ⟨.other "ZeroDivisionError" false,
    "ratio_to_basis_points: denominator must be non-zero. " ++
      "Caller must guard against zero denominator before calling. M-A5-Q1."⟩

def overflowsInt32 (result : Int) : PyExc :=
  ⟨.overflowError,
    s!"ratio_to_basis_points: result {result} overflows INT32 range " ++
      "[-2147483648, 2147483647]. This is a metric-integrity error. " ++
      "F4 parity fix: both TS and Python throw on INT32 overflow. M-A5-Q1."⟩

/-- `ratio_to_basis_points` -/
def ratioToBasisPoints (numerator denominator : Int) : Except PyExc Int :=
  if denominator = 0 then .error divideByZero
  else
    let result := (numerator * 10000).fdiv denominator
    if 2147483647 < result ∨ result < -2147483648 then .error (overflowsInt32 result)
    else .ok result

/-- `FLOOR(numerator × 10000 / denominator)`, over the rationals. -/
def flooredRatio (numerator denominator : Int) : Int :=
  ⌊(10000 * numerator / denominator : ℚ)⌋

theorem floor_div_eq_fdiv (n : Int) {d : Int} (hd : d ≠ 0) : ⌊(n / d : ℚ)⌋ = n.fdiv d := by
  have hpos : ∀ (n : Int) (m : Nat), ⌊(n / (m : Int) : ℚ)⌋ = n / m := by
    intro n m
    exact_mod_cast Rat.floor_intCast_div_natCast n m
  obtain ⟨m, rfl | rfl⟩ := Int.eq_nat_or_neg d
  · rw [hpos, Quotients.fdiv_eq (by omega)]
  · have hflip : (n / (-(m : Int) : Int) : ℚ) = ((-n : Int) / (m : Int) : ℚ) := by
      push_cast
      rw [div_neg, neg_div]
    rw [hflip, hpos, ← Int.neg_fdiv_neg, Int.neg_neg, Quotients.fdiv_eq (by omega)]

theorem flooredRatio_eq (n : Int) {d : Int} (hd : d ≠ 0) :
    flooredRatio n d = (n * 10000).fdiv d := by
  have hfloor := floor_div_eq_fdiv (n * 10000) hd
  rw [flooredRatio, ← hfloor, mul_comm (10000 : ℚ)]
  push_cast
  rfl

theorem ratioToBasisPoints_eq {n d : Int} (hd : d ≠ 0) :
    ratioToBasisPoints n d =
      if InInt32 ((n * 10000).fdiv d) then .ok ((n * 10000).fdiv d)
      else .error (overflowsInt32 ((n * 10000).fdiv d)) := by
  rw [ratioToBasisPoints, if_neg hd]
  by_cases hin : InInt32 ((n * 10000).fdiv d)
  · rw [if_pos hin, if_neg (by unfold InInt32 at hin; omega)]
  · rw [if_neg hin, if_pos (by unfold InInt32 at hin; omega)]

/-- Both libraries return the floor when it is in the range of 32 bits, else both raise. -/
theorem basisPoints_agree (n d : Int) (hd : d ≠ 0) :
    (InInt32 (flooredRatio n d) →
      (∃ value, Metrics.Registry.ratioToBasisPoints n d = .ok value ∧
        value.integer = some (flooredRatio n d)) ∧
      ratioToBasisPoints n d = .ok (flooredRatio n d)) ∧
    (¬ InInt32 (flooredRatio n d) →
      (∃ e, Metrics.Registry.ratioToBasisPoints n d = .error e) ∧
      ∃ e, ratioToBasisPoints n d = .error e) := by
  rw [flooredRatio_eq n hd, Metrics.Registry.ratioToBasisPoints_eq hd, ratioToBasisPoints_eq hd]
  constructor
  · intro hin
    rw [if_pos hin, if_pos hin]
    have hsmall := Metrics.Registry.natAbs_of_inInt32 hin
    exact ⟨⟨_, rfl, Metrics.Registry.bigIntOfNumber_ofInt hsmall⟩, rfl⟩
  · intro hout
    rw [if_neg hout, if_neg hout]
    exact ⟨⟨_, rfl⟩, ⟨_, rfl⟩⟩

/-- A third with a negative denominator is rounded down, and `-2147483649` is refused. -/
theorem basisPoints_agree_negative :
    ratioToBasisPoints 1 (-3) = .ok (-3334) ∧
      ∃ e, ratioToBasisPoints 2147483649 (-10000) = .error e := by
  have hthird : flooredRatio 1 (-3) = -3334 := flooredRatio_eq 1 (by decide)
  have hlow : flooredRatio 2147483649 (-10000) = -2147483649 := flooredRatio_eq _ (by decide)
  constructor
  · have h := ((basisPoints_agree 1 (-3) (by decide)).1 (by rw [hthird]; decide)).2
    rwa [hthird] at h
  · exact ((basisPoints_agree 2147483649 (-10000) (by decide)).2 (by rw [hlow]; decide)).2

end BrainV2.BrainMetrics
