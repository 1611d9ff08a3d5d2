import BrainV2.LivePlane.GoalAttainment

/-!
# The order of the goal bands

* `computeGoalRagPy`: the band of Python;
* `GoalRag.rank`, `bandOfBp`: the order of the bands, and the band of an attainment;
* `BandRight`: both are one band, it never gets worse with the better figure, and it is the band of
  the attainment;
* `BandCondition`, `bandRight_iff`: the figures for which it is so.
-/

namespace BrainV2.LivePlane

open Binary64 (ofInt)
open Metrics.Registry (Division)

/-- `compute_goal_rag` -/
def computeGoalRagPy (actual goal : Int) (higherBetter : Bool) : GoalRag :=
  if goal ≤ 0 then
    if higherBetter then if actual ≥ 0 then .green else .red else .green
  else
    let a := actual * 100
    if higherBetter then
      if a ≥ goal * 95 then .green
      else if a ≥ goal * 80 then .amber
      else .red
    else if a ≤ goal * 105 then .green
    else if a ≤ goal * 120 then .amber
    else .red

/-! ### What the band should be -/

def GoalRag.rank : GoalRag → Nat
  | .red => 0
  | .amber => 1
  | .green => 2

/-- The band of an attainment in basis points. -/
def bandOfBp (bp : Int) (higherBetter : Bool) : GoalRag :=
  if higherBetter then
    if 9500 ≤ bp then .green else if 8000 ≤ bp then .amber else .red
  else if bp ≤ 10500 then .green
  else if bp ≤ 12000 then .amber
  else .red

/-- The first figure is as good as the second, or better. -/
def AsGood (higherBetter : Bool) (x y : Int) : Prop := if higherBetter then y ≤ x else x ≤ y

/-- The band of a measured value and its goal. -/
structure BandRight (actual goal : Int) (higherBetter : Bool) : Prop where
  same : computeGoalRag actual goal higherBetter = computeGoalRagPy actual goal higherBetter
  /-- A better value never has a worse band. -/
  betterValue : ∀ actual', AsGood higherBetter actual' actual →
    (computeGoalRag actual goal higherBetter).rank ≤
      (computeGoalRag actual' goal higherBetter).rank
  /-- Neither has the same value at an easier goal. -/
  easierGoal : ∀ goal', AsGood higherBetter goal goal' →
    (computeGoalRag actual goal higherBetter).rank ≤
      (computeGoalRag actual goal' higherBetter).rank
  /-- An attainment that TypeScript returns has the band, and so have those of Python and of
  ClickHouse. -/
  ts : 0 < goal → ∀ value, (Division.goalAttainmentBp actual goal).formulaTs = .ok value →
    ∃ bp, value.integer = some bp ∧ bandOfBp bp higherBetter = computeGoalRag actual goal higherBetter
  py : 0 < goal → ∃ bp, (Division.goalAttainmentBp actual goal).formulaPy = some bp ∧
    bandOfBp bp higherBetter = computeGoalRag actual goal higherBetter
  sql : 0 < goal → ∃ bp, (Division.goalAttainmentBp actual goal).clickhouseSql = some bp ∧
    bandOfBp bp higherBetter = computeGoalRag actual goal higherBetter

/-- More is better. Or less is, and the value is at most one where the goal is not positive, and
not within a basis point above a threshold where it is. -/
def BandCondition (actual goal : Int) (higherBetter : Bool) : Prop :=
  higherBetter = false →
    (goal ≤ 0 → actual ≤ 1) ∧
    (0 < goal →
      ¬ (goal * 10500 < actual * 10000 ∧ actual * 10000 < goal * 10501) ∧
      ¬ (goal * 12000 < actual * 10000 ∧ actual * 10000 < goal * 12001))

/-! ### The order -/

section

variable {actual goal : Int} {higherBetter : Bool}

theorem computeGoalRagPy_eq (actual goal : Int) (higherBetter : Bool) :
    computeGoalRagPy actual goal higherBetter = computeGoalRag actual goal higherBetter := rfl

/-- With more the better, the bands by their floors. -/
theorem rank_higher (actual goal : Int) : (computeGoalRag actual goal true).rank =
    (if goal ≤ 0 then (if 0 ≤ actual then 2 else 0)
    else if goal * 95 ≤ actual * 100 then 2
    else if goal * 80 ≤ actual * 100 then 1
    else 0) := by
  simp only [computeGoalRag, if_true]
  split_ifs <;> rfl

/-- With less the better, by their ceilings. -/
theorem rank_lower (actual goal : Int) : (computeGoalRag actual goal false).rank =
    (if goal ≤ 0 then 2
    else if actual * 100 ≤ goal * 105 then 2
    else if actual * 100 ≤ goal * 120 then 1
    else 0) := by
  simp only [computeGoalRag, Bool.false_eq_true, if_false]
  split_ifs <;> rfl

theorem rank_actual {actual' : Int} (goal : Int) (h : AsGood higherBetter actual' actual) :
    (computeGoalRag actual goal higherBetter).rank ≤
      (computeGoalRag actual' goal higherBetter).rank := by
  cases higherBetter with
  | true =>
    have hle : actual ≤ actual' := h
    rw [rank_higher, rank_higher]
    split_ifs <;> omega
  | false =>
    have hle : actual' ≤ actual := h
    rw [rank_lower, rank_lower]
    split_ifs <;> omega

theorem rank_goal_higher {goal' : Int} (actual : Int) (h : goal' ≤ goal) :
    (computeGoalRag actual goal true).rank ≤ (computeGoalRag actual goal' true).rank := by
  rw [rank_higher, rank_higher]
  split_ifs <;> omega

/-- A goal of less only loses its band when it becomes positive, and then to a value of two or
more. -/
theorem rank_goal_lower_iff (actual goal : Int) :
    (∀ goal', goal ≤ goal' →
      (computeGoalRag actual goal false).rank ≤ (computeGoalRag actual goal' false).rank) ↔
      (goal ≤ 0 → actual ≤ 1) := by
  constructor
  · intro h hgoal
    have hone := h 1 (by omega)
    rw [rank_lower, rank_lower, if_pos hgoal] at hone
    by_contra hactual
    have hnot : ¬ actual * 100 ≤ 1 * 105 := by omega
    rw [if_neg (by decide), if_neg hnot] at hone
    split at hone <;> omega
  · intro h goal' hle
    rw [rank_lower, rank_lower]
    split_ifs <;> omega

/-! ### The band of the attainment -/

/-- A whole number of basis points is below the ratio where the ratio is not below it. -/
theorem le_floor_iff (actual : Int) (hpos : 0 < goal) (n : Int) :
    n ≤ actual * 10000 / goal ↔ goal * n ≤ actual * 10000 := by
  rw [Int.le_ediv_iff_mul_le hpos, mul_comm]

theorem floor_le_iff (actual : Int) (hpos : 0 < goal) (n : Int) :
    actual * 10000 / goal ≤ n ↔ actual * 10000 < goal * (n + 1) := by
  rw [← Int.lt_add_one_iff, Int.ediv_lt_iff_lt_mul hpos, mul_comm (n + 1)]

theorem bandOfBp_higher (hpos : 0 < goal) :
    bandOfBp (actual * 10000 / goal) true = computeGoalRag actual goal true := by
  have hgreen := le_floor_iff actual hpos 9500
  have hamber := le_floor_iff actual hpos 8000
  simp only [bandOfBp, computeGoalRag, if_true, if_neg (not_le.mpr hpos), hgreen, hamber]
  split_ifs <;> first | rfl | omega

theorem bandOfBp_lower_iff (hpos : 0 < goal) :
    bandOfBp (actual * 10000 / goal) false = computeGoalRag actual goal false ↔
      ¬ (goal * 10500 < actual * 10000 ∧ actual * 10000 < goal * 10501) ∧
      ¬ (goal * 12000 < actual * 10000 ∧ actual * 10000 < goal * 12001) := by
  have hgreen := floor_le_iff actual hpos 10500
  have hamber := floor_le_iff actual hpos 12000
  simp only [bandOfBp, computeGoalRag, Bool.false_eq_true, if_false, if_neg (not_le.mpr hpos),
    hgreen, hamber]
  split_ifs <;> simp only [true_iff, false_iff] <;> omega

/-- The band does not see how a negative ratio is rounded. -/
theorem bandOfBp_tdiv (hpos : 0 < goal) : bandOfBp ((actual * 10000).tdiv goal) higherBetter =
    bandOfBp (actual * 10000 / goal) higherBetter := by
  rcases le_or_gt 0 (actual * 10000) with hnonneg | hneg
  · rw [Int.tdiv_eq_ediv_of_nonneg hnonneg]
  · have hcut : (actual * 10000).tdiv goal ≤ 0 := by
      have hmagnitude : 0 ≤ (-(actual * 10000)).tdiv goal := Int.tdiv_nonneg (by omega) hpos.le
      rw [Int.neg_tdiv] at hmagnitude
      omega
    have hfloor : actual * 10000 / goal < 0 := Int.ediv_neg_of_neg_of_pos hneg hpos
    cases higherBetter with
    | true =>
      have hnot : ∀ n : Int, 0 < n → ¬ n ≤ (actual * 10000).tdiv goal ∧
          ¬ n ≤ actual * 10000 / goal := by omega
      simp only [bandOfBp, if_true, hnot 9500 (by decide), hnot 8000 (by decide), if_false]
    | false =>
      have hcut' : (actual * 10000).tdiv goal ≤ 10500 := by omega
      have hfloor' : actual * 10000 / goal ≤ 10500 := by omega
      simp only [bandOfBp, Bool.false_eq_true, if_false, if_pos hcut', if_pos hfloor']

theorem formulaPy_of_pos (hpos : 0 < goal) :
    (Division.goalAttainmentBp actual goal).formulaPy = some (actual * 10000 / goal) := by
  rw [← Quotients.fdiv_eq hpos]
  exact if_neg (not_le.mpr hpos)

theorem clickhouseSql_of_pos (hpos : 0 < goal) :
    (Division.goalAttainmentBp actual goal).clickhouseSql =
      some ((actual * 10000).tdiv goal) := if_pos hpos.ne'

theorem formulaTs_of_pos (hpos : 0 < goal) {value : Metrics.Registry.Number}
    (h : (Division.goalAttainmentBp actual goal).formulaTs = .ok value) :
    value.integer = some (actual * 10000 / goal) := by
  have hratio := Metrics.Registry.ratioToBasisPoints_eq (n := actual) hpos.ne'
  rw [Quotients.fdiv_eq hpos] at hratio
  rw [Division.formulaTs, hratio] at h
  split at h
  · next hrange =>
    cases h
    exact Metrics.Registry.bigIntOfNumber_ofInt (Metrics.Registry.natAbs_of_inInt32 hrange)
  · cases h

end

theorem bandRight_iff (actual goal : Int) (higherBetter : Bool) :
    BandRight actual goal higherBetter ↔ BandCondition actual goal higherBetter := by
  constructor
  · intro h hlower
    subst hlower
    refine ⟨(rank_goal_lower_iff actual goal).mp h.easierGoal, fun hpos => ?_⟩
    obtain ⟨bp, hbp, hband⟩ := h.py hpos
    rw [formulaPy_of_pos hpos] at hbp
    rw [← Option.some.inj hbp] at hband
    exact (bandOfBp_lower_iff hpos).mp hband
  · intro h
    have hband : 0 < goal →
        bandOfBp (actual * 10000 / goal) higherBetter = computeGoalRag actual goal higherBetter := by
      intro hpos
      cases higherBetter with
      | true => exact bandOfBp_higher hpos
      | false => exact (bandOfBp_lower_iff hpos).mpr ((h rfl).2 hpos)
    constructor
    · exact (computeGoalRagPy_eq actual goal higherBetter).symm
    · intro actual' hgood
      exact rank_actual goal hgood
    · cases higherBetter with
      | true => exact fun goal' hgood => rank_goal_higher actual hgood
      | false => exact (rank_goal_lower_iff actual goal).mpr (h rfl).1
    · intro hpos value hvalue
      exact ⟨_, formulaTs_of_pos hpos hvalue, hband hpos⟩
    · intro hpos
      exact ⟨_, formulaPy_of_pos hpos, hband hpos⟩
    · intro hpos
      exact ⟨_, clickhouseSql_of_pos hpos, (bandOfBp_tdiv hpos).trans (hband hpos)⟩

/-- A cost of 21,001 is above 105% of a goal of 20,000, and its attainment of 10,500 basis points
is not. A cost of two loses its green when the goal grows from zero to one. -/
theorem ceiling_bands :
    computeGoalRag 21001 20000 false = .amber ∧
      (Division.goalAttainmentBp 21001 20000).formulaPy = some 10500 ∧
      bandOfBp 10500 false = .green ∧
      computeGoalRag 2 0 false = .green ∧ computeGoalRag 2 1 false = .red ∧
      ¬ BandRight 21001 20000 false ∧ ¬ BandRight 2 0 false := by
  refine ⟨by decide, by decide, by decide, by decide, by decide, fun h => ?_, fun h => ?_⟩
  · obtain ⟨bp, hbp, hband⟩ := h.py (by decide)
    rw [← Option.some.inj hbp] at hband
    exact absurd hband (by decide)
  · exact absurd (h.easierGoal 1 (by decide : (0 : Int) ≤ 1)) (by decide)

end BrainV2.LivePlane
