import BrainV2.LivePlane.Numbers
import Mathlib.Data.Rat.Floor
import Mathlib.Tactic.FieldSimp

/-!
# Days of cover

* `daysLeftTs`, `daysLeftPy`, `daysLeftSql`: `inventory_days_left` in three dialects;
* `Windows.used`, `daysOfCover`: the shortest window with sales, and the days by it;
* `DaysRight`: the three are these days, they rise and fall as they should, and those of a product
  with sales are below those of one without;
* `BelowSentinel`, `daysRight_iff`: the stocks for which it is so.
-/

namespace BrainV2.Metrics.Registry

open Binary64 (Double Finite ofInt)
open LivePlane (units)

/-! ### The three formulas -/

def inventoryInfiniteDays : Int := 999999

/-- What was sold in the last 30, 90, 180 and 360 days. -/
structure Windows where
  qtyL30 : Int
  qtyL90 : Int
  qtyL180 : Int
  qtyL360 : Int

/-- `q` and `w` after the cascade. -/
def Windows.cascade (v : Windows) : Int × Int :=
  if 0 < v.qtyL30 then (v.qtyL30, 30)
  else if 0 < v.qtyL90 then (v.qtyL90, 90)
  else if 0 < v.qtyL180 then (v.qtyL180, 180)
  else if 0 < v.qtyL360 then (v.qtyL360, 360)
  else (0, 0)

def daysLeftTs (currentInventory : Int) (v : Windows) : Number :=
  if currentInventory ≤ 0 then .number (ofInt 0)
  else
    let (q, w) := v.cascade
    if q ≤ 0 then .number (ofInt inventoryInfiniteDays)
    else
      let numerator := currentInventory * w * 2 + q
      .number (ofInt (numerator.tdiv (q * 2)))

def daysLeftPy (currentInventory : Int) (v : Windows) : Int :=
  if currentInventory ≤ 0 then 0
  else
    let (q, w) := v.cascade
    if q ≤ 0 then inventoryInfiniteDays
    else (currentInventory * w * 2 + q).fdiv (q * 2)

/-- The `multiIf`, over integers of any size. -/
def daysLeftSql (currentInventory : Int) (v : Windows) : Int :=
  if currentInventory ≤ 0 then 0
  else if 0 < v.qtyL30 then (currentInventory * 30 * 2 + v.qtyL30).tdiv (v.qtyL30 * 2)
  else if 0 < v.qtyL90 then (currentInventory * 90 * 2 + v.qtyL90).tdiv (v.qtyL90 * 2)
  else if 0 < v.qtyL180 then (currentInventory * 180 * 2 + v.qtyL180).tdiv (v.qtyL180 * 2)
  else if 0 < v.qtyL360 then (currentInventory * 360 * 2 + v.qtyL360).tdiv (v.qtyL360 * 2)
  else 999999

/-! ### What they should be -/

/-- The shortest window of which the quantity is positive, as its quantity and its days. -/
def Windows.used (v : Windows) : Option (Int × Int) :=
  [(v.qtyL30, 30), (v.qtyL90, 90), (v.qtyL180, 180), (v.qtyL360, 360)].find? fun qw => 0 < qw.1

/-- The nearest integer, ties up. -/
def roundHalfUp (x : ℚ) : Int := ⌊x + 1 / 2⌋

def daysOfCover (inventory : Int) (v : Windows) : Int :=
  if inventory ≤ 0 then 0
  else
    match v.used with
    | some (q, w) => roundHalfUp (inventory * w / q)
    | none => inventoryInfiniteDays

/-- `x <= y` of numbers -/
def lessEqual : Double → Double → Bool
  | .nan, _ | _, .nan => false
  | .infinite true, _ | _, .infinite false => true
  | .finite x, .finite y => decide (units x ≤ units y)
  | _, _ => false

/-- The order of what TypeScript returns. -/
def Number.le : Number → Number → Bool
  | .number x, .number y => lessEqual x y
  | .bigint m, .bigint n => decide (m ≤ n)
  | _, _ => false

/-- The days that the three give a product. -/
structure DaysRight (inventory : Int) (v : Windows) : Prop where
  ts : (daysLeftTs inventory v).integer = some (daysOfCover inventory v)
  py : daysLeftPy inventory v = daysOfCover inventory v
  sql : daysLeftSql inventory v = daysOfCover inventory v
  /-- More stock never lasts shorter. -/
  rises : ∀ inventory', inventory ≤ inventory' →
    (daysLeftTs inventory v).le (daysLeftTs inventory' v) = true ∧
      daysLeftPy inventory v ≤ daysLeftPy inventory' v ∧
      daysLeftSql inventory v ≤ daysLeftSql inventory' v
  /-- More sales in the window never last longer. -/
  falls : ∀ v' q q' w, v.used = some (q, w) → v'.used = some (q', w) → q ≤ q' →
    (daysLeftTs inventory v').le (daysLeftTs inventory v) = true ∧
      daysLeftPy inventory v' ≤ daysLeftPy inventory v ∧
      daysLeftSql inventory v' ≤ daysLeftSql inventory v
  separated : v.used ≠ none →
    (Number.number (ofInt inventoryInfiniteDays)).le (daysLeftTs inventory v) = false ∧
      daysLeftPy inventory v < inventoryInfiniteDays ∧
      daysLeftSql inventory v < inventoryInfiniteDays

/-- A product with sales has less than `999998.5` days of stock. -/
def BelowSentinel (inventory : Int) (v : Windows) : Prop :=
  ∀ q w, v.used = some (q, w) → 2 * (inventory * w) + q < 2 * q * inventoryInfiniteDays

/-! ### The three are the days -/

section

variable {v : Windows} {q w : Int}

theorem used_cases (v : Windows) :
    (∃ q w, v.used = some (q, w) ∧ v.cascade = (q, w) ∧ 0 < q ∧ 0 < w) ∨
      (v.used = none ∧ v.cascade = (0, 0)) := by
  unfold Windows.used Windows.cascade
  simp only [List.find?_cons]
  split_ifs with h30 h90 h180 h360
  · exact .inl ⟨_, _, by rw [decide_eq_true h30], rfl, h30, by decide⟩
  · exact .inl ⟨_, _, by rw [decide_eq_false h30, decide_eq_true h90], rfl, h90, by decide⟩
  · exact .inl ⟨_, _, by rw [decide_eq_false h30, decide_eq_false h90, decide_eq_true h180], rfl,
      h180, by decide⟩
  · exact .inl ⟨_, _, by rw [decide_eq_false h30, decide_eq_false h90, decide_eq_false h180,
      decide_eq_true h360], rfl, h360, by decide⟩
  · right
    rw [decide_eq_false h30, decide_eq_false h90, decide_eq_false h180, decide_eq_false h360]
    exact ⟨rfl, rfl⟩

theorem cascade_of_used (h : v.used = some (q, w)) : v.cascade = (q, w) ∧ 0 < q ∧ 0 < w := by
  rcases used_cases v with ⟨q', w', hused, hcascade, hq, hw⟩ | ⟨hnone, -⟩
  · rw [hused] at h
    obtain ⟨rfl, rfl⟩ := Prod.mk.inj (Option.some.inj h)
    exact ⟨hcascade, hq, hw⟩
  · rw [hnone] at h
    cases h

theorem cascade_of_unused (h : v.used = none) : v.cascade = (0, 0) := by
  rcases used_cases v with ⟨q, w, hused, -⟩ | ⟨-, hcascade⟩
  · rw [hused] at h
    cases h
  · exact hcascade

/-- Half a divisor more, rounded down. -/
theorem roundHalfUp_div (n : Int) {q : Int} (hq : 0 < q) :
    roundHalfUp (n / q) = (n * 2 + q) / (q * 2) := by
  have hne : (q : ℚ) ≠ 0 := by exact_mod_cast hq.ne'
  have hsum : (n / q + 1 / 2 : ℚ) = ((n * 2 + q : Int) : ℚ) / ((q * 2 : Int) : ℚ) := by
    push_cast
    field_simp
  obtain ⟨m, hm⟩ := Int.eq_ofNat_of_zero_le (show 0 ≤ q * 2 by omega)
  rw [roundHalfUp, hsum, hm]
  exact_mod_cast Rat.floor_intCast_div_natCast (n * 2 + q) m

theorem daysOfCover_used {inventory : Int} (hpos : 0 < inventory) (h : v.used = some (q, w)) :
    daysOfCover inventory v = (inventory * w * 2 + q) / (q * 2) := by
  obtain ⟨-, hq, -⟩ := cascade_of_used h
  rw [daysOfCover, if_neg (not_le.mpr hpos), h, ← roundHalfUp_div _ hq]
  push_cast
  rfl

theorem daysOfCover_nonneg (inventory : Int) (v : Windows) : 0 ≤ daysOfCover inventory v := by
  by_cases hpos : inventory ≤ 0
  · rw [daysOfCover, if_pos hpos]
  · have hpos := not_le.mp hpos
    cases h : v.used with
    | none =>
      rw [daysOfCover, if_neg (not_le.mpr hpos), h]
      exact (by decide : (0 : Int) ≤ inventoryInfiniteDays)
    | some qw =>
      obtain ⟨-, hq, hw⟩ := cascade_of_used (show v.used = some (qw.1, qw.2) from h)
      rw [daysOfCover_used hpos h]
      have hnum : 0 < inventory * qw.2 := mul_pos hpos hw
      exact Int.ediv_nonneg (by omega) (by omega)

theorem daysLeftPy_eq (inventory : Int) (v : Windows) :
    daysLeftPy inventory v = daysOfCover inventory v := by
  by_cases hpos : inventory ≤ 0
  · rw [daysLeftPy, daysOfCover, if_pos hpos, if_pos hpos]
  · cases h : v.used with
    | none => simp only [daysLeftPy, daysOfCover, if_neg hpos, cascade_of_unused h, h, le_refl, if_true]
    | some qw =>
      obtain ⟨hcascade, hq, -⟩ := cascade_of_used (show v.used = some (qw.1, qw.2) from h)
      rw [daysOfCover_used (not_le.mp hpos) h]
      simp only [daysLeftPy, if_neg hpos, hcascade, if_neg (not_le.mpr hq),
        Quotients.fdiv_eq (show 0 < qw.1 * 2 by omega)]

theorem daysLeftTs_eq (inventory : Int) (v : Windows) :
    daysLeftTs inventory v = .number (ofInt (daysOfCover inventory v)) := by
  by_cases hpos : inventory ≤ 0
  · rw [daysLeftTs, daysOfCover, if_pos hpos, if_pos hpos]
  · cases h : v.used with
    | none => simp only [daysLeftTs, daysOfCover, if_neg hpos, cascade_of_unused h, h, le_refl, if_true]
    | some qw =>
      obtain ⟨hcascade, hq, hw⟩ := cascade_of_used (show v.used = some (qw.1, qw.2) from h)
      have hnum : 0 < inventory * qw.2 := mul_pos (not_le.mp hpos) hw
      rw [daysOfCover_used (not_le.mp hpos) h]
      simp only [daysLeftTs, if_neg hpos, hcascade, if_neg (not_le.mpr hq),
        Int.tdiv_eq_ediv_of_nonneg (show 0 ≤ inventory * qw.2 * 2 + qw.1 by omega)]

/-- The branches of the `multiIf` are the cascade. -/
theorem daysLeftSql_cascade (inventory : Int) (v : Windows) : daysLeftSql inventory v =
    if inventory ≤ 0 then 0
    else if v.cascade.1 ≤ 0 then inventoryInfiniteDays
    else (inventory * v.cascade.2 * 2 + v.cascade.1).tdiv (v.cascade.1 * 2) := by
  unfold daysLeftSql Windows.cascade
  by_cases h30 : 0 < v.qtyL30
  · simp only [if_pos h30, if_neg (not_le.mpr h30)]
  · by_cases h90 : 0 < v.qtyL90
    · simp only [if_neg h30, if_pos h90, if_neg (not_le.mpr h90)]
    · by_cases h180 : 0 < v.qtyL180
      · simp only [if_neg h30, if_neg h90, if_pos h180, if_neg (not_le.mpr h180)]
      · by_cases h360 : 0 < v.qtyL360
        · simp only [if_neg h30, if_neg h90, if_neg h180, if_pos h360, if_neg (not_le.mpr h360)]
        · simp only [if_neg h30, if_neg h90, if_neg h180, if_neg h360, le_refl, if_true]
          rfl

theorem daysLeftSql_eq (inventory : Int) (v : Windows) :
    daysLeftSql inventory v = daysOfCover inventory v := by
  rw [daysLeftSql_cascade]
  by_cases hpos : inventory ≤ 0
  · rw [daysOfCover, if_pos hpos, if_pos hpos]
  · cases h : v.used with
    | none =>
      rw [cascade_of_unused h, daysOfCover, if_neg hpos, if_neg hpos, h, if_pos (le_refl _)]
    | some qw =>
      obtain ⟨hcascade, hq, hw⟩ := cascade_of_used (show v.used = some (qw.1, qw.2) from h)
      have hnum : 0 < inventory * qw.2 := mul_pos (not_le.mp hpos) hw
      rw [daysOfCover_used (not_le.mp hpos) h, hcascade, if_neg hpos, if_neg (not_le.mpr hq),
        Int.tdiv_eq_ediv_of_nonneg (show 0 ≤ inventory * qw.2 * 2 + qw.1 by omega)]

/-! ### The days rise and fall -/

theorem daysOfCover_rises {inventory inventory' : Int} (h : inventory ≤ inventory') (v : Windows) :
    daysOfCover inventory v ≤ daysOfCover inventory' v := by
  by_cases hpos : inventory ≤ 0
  · rw [daysOfCover, if_pos hpos]
    exact daysOfCover_nonneg inventory' v
  · have hpos := not_le.mp hpos
    have hpos' : 0 < inventory' := lt_of_lt_of_le hpos h
    cases hv : v.used with
    | none =>
      rw [daysOfCover, daysOfCover, if_neg (not_le.mpr hpos), if_neg (not_le.mpr hpos'), hv]
    | some qw =>
      obtain ⟨-, hq, hw⟩ := cascade_of_used (show v.used = some (qw.1, qw.2) from hv)
      rw [daysOfCover_used hpos hv, daysOfCover_used hpos' hv]
      have hnum := mul_le_mul_of_nonneg_right h hw.le
      exact Int.ediv_le_ediv (by omega) (by omega)

theorem daysOfCover_falls (inventory : Int) {v v' : Windows} {q q' w : Int}
    (h : v.used = some (q, w)) (h' : v'.used = some (q', w)) (hle : q ≤ q') :
    daysOfCover inventory v' ≤ daysOfCover inventory v := by
  by_cases hpos : inventory ≤ 0
  · rw [daysOfCover, if_pos hpos]
    exact daysOfCover_nonneg inventory v
  · obtain ⟨-, hq, hw⟩ := cascade_of_used h
    obtain ⟨-, hq', -⟩ := cascade_of_used h'
    have hnum : 0 < inventory * w := mul_pos (not_le.mp hpos) hw
    rw [daysOfCover_used (not_le.mp hpos) h, daysOfCover_used (not_le.mp hpos) h']
    generalize inventory * w = n at hnum
    -- with `d` the days at the larger quantity, `2 d q' <= 2 n + q'` gives the same at `q`
    have hdays : (n * 2 + q') / (q' * 2) * (q' * 2) ≤ n * 2 + q' :=
      Int.ediv_mul_le _ (by omega)
    have hdays0 : 0 ≤ (n * 2 + q') / (q' * 2) := Int.ediv_nonneg (by omega) (by omega)
    apply Int.le_ediv_of_mul_le (by omega)
    generalize (n * 2 + q') / (q' * 2) = d at hdays hdays0
    rcases eq_or_lt_of_le hdays0 with hzero | hone
    · rw [← hzero]
      omega
    · have hprod : (2 * d - 1) * q ≤ (2 * d - 1) * q' :=
        mul_le_mul_of_nonneg_left hle (by omega)
      linarith

theorem daysOfCover_lt_iff {inventory : Int} (h : v.used = some (q, w)) :
    daysOfCover inventory v < inventoryInfiniteDays ↔
      2 * (inventory * w) + q < 2 * q * inventoryInfiniteDays := by
  obtain ⟨-, hq, hw⟩ := cascade_of_used h
  by_cases hpos : inventory ≤ 0
  · have hnum : inventory * w ≤ 0 := mul_nonpos_of_nonpos_of_nonneg hpos hw.le
    rw [daysOfCover, if_pos hpos]
    unfold inventoryInfiniteDays
    exact iff_of_true (by decide) (by omega)
  · rw [daysOfCover_used (not_le.mp hpos) h, Int.ediv_lt_iff_lt_mul (by omega)]
    unfold inventoryInfiniteDays
    omega

theorem belowSentinel_iff (inventory : Int) (v : Windows) : BelowSentinel inventory v ↔
    (v.used ≠ none → daysOfCover inventory v < inventoryInfiniteDays) := by
  cases hv : v.used with
  | none => exact iff_of_true (fun q w h => by rw [hv] at h; cases h) fun h => absurd rfl h
  | some qw =>
    constructor
    · intro h _
      exact (daysOfCover_lt_iff hv).mpr (h qw.1 qw.2 hv)
    · intro h q w hqw
      exact (daysOfCover_lt_iff hqw).mp (h (by simp))

end

/-! ### Numbers of TypeScript -/

theorem pack_cases (negative : Bool) (mantissa scale : Nat) :
    (∃ x, Binary64.pack negative mantissa scale = .finite x ∧ x.negative = negative) ∨
      Binary64.pack negative mantissa scale = .infinite negative := by
  unfold Binary64.pack
  split
  split
  · exact .inl ⟨_, rfl, rfl⟩
  · exact .inr rfl

/-- A natural has no number but one without a sign, or infinity. -/
theorem ofInt_natCast (n : Nat) :
    (∃ x, ofInt n = .finite x ∧ x.negative = false) ∨ ofInt n = .infinite false := by
  have hsign : decide ((n : Int) < 0) = false := decide_eq_false (by omega)
  rw [ofInt, hsign, Binary64.round]
  exact pack_cases _ _ _

/-- An exact natural is at most all larger ones, exact or not. -/
theorem lessEqual_ofInt {n m : Nat} (hn : n < 2 ^ 53) :
    lessEqual (ofInt n) (ofInt m) = decide (n ≤ m) := by
  obtain ⟨x, hx, hxn⟩ := Js.isNat_ofInt hn
  have hunits : units x = (n * 2 ^ 1074 : Nat) := by
    rw [units, hxn.sign, hxn.units]
    rfl
  rw [hx]
  by_cases hm : m < 2 ^ 53
  · obtain ⟨y, hy, hym⟩ := Js.isNat_ofInt hm
    have hunits' : units y = (m * 2 ^ 1074 : Nat) := by
      rw [units, hym.sign, hym.units]
      rfl
    rw [hy, lessEqual, hunits, hunits', decide_eq_decide, Int.ofNat_le]
    exact Nat.mul_le_mul_right_iff (Nat.two_pow_pos _)
  · have hle : n ≤ m := by omega
    rw [decide_eq_true hle]
    rcases ofInt_natCast m with ⟨y, hy, hsign⟩ | hinf
    · have hlarge := Binary64.ofInt_large (n := m) (by simpa using not_lt.mp hm) hy
      have hscaled : 2 ^ 53 * 2 ^ 1074 ≤ y.units :=
        le_trans (Nat.mul_le_mul_right _ hlarge) (Nat.div_mul_le_self _ _)
      have hn' : n * 2 ^ 1074 ≤ 2 ^ 53 * 2 ^ 1074 := Nat.mul_le_mul_right _ hn.le
      rw [hy, lessEqual, hunits, units, hsign, if_neg Bool.false_ne_true, decide_eq_true_iff,
        Int.ofNat_le]
      exact le_trans hn' hscaled
    · rw [hinf]
      rfl

/-! ### The stocks below the sentinel -/

theorem daysOfCover_lt {inventory : Int} {v : Windows} (h : BelowSentinel inventory v) :
    (daysOfCover inventory v).toNat < 2 ^ 53 := by
  have hlt := (belowSentinel_iff inventory v).mp h
  cases hv : v.used with
  | none =>
    by_cases hpos : inventory ≤ 0
    · rw [daysOfCover, if_pos hpos]
      decide
    · rw [daysOfCover, if_neg hpos, hv]
      exact (by decide : inventoryInfiniteDays.toNat < 2 ^ 53)
  | some qw =>
    have hdays := hlt (by rw [hv]; simp)
    unfold inventoryInfiniteDays at hdays
    omega

theorem le_number {d d' : Int} (hd : 0 ≤ d) (hd' : 0 ≤ d') (h : d.toNat < 2 ^ 53) :
    (Number.number (ofInt d)).le (.number (ofInt d')) = decide (d ≤ d') := by
  have hle := lessEqual_ofInt (n := d.toNat) (m := d'.toNat) h
  rw [Int.toNat_of_nonneg hd, Int.toNat_of_nonneg hd'] at hle
  rw [Number.le, hle, decide_eq_decide]
  omega

theorem daysRight_iff (inventory : Int) (v : Windows) :
    DaysRight inventory v ↔ BelowSentinel inventory v := by
  constructor
  · intro h
    rw [belowSentinel_iff]
    intro hused
    rw [← daysLeftPy_eq]
    exact (h.separated hused).2.1
  · intro h
    have hnonneg := daysOfCover_nonneg inventory v
    have hsmall := daysOfCover_lt h
    constructor
    · rw [daysLeftTs_eq]
      exact bigIntOfNumber_ofInt (by omega)
    · exact daysLeftPy_eq inventory v
    · exact daysLeftSql_eq inventory v
    · intro inventory' hle
      have hrises := daysOfCover_rises hle v
      rw [daysLeftTs_eq, daysLeftTs_eq, daysLeftPy_eq, daysLeftPy_eq, daysLeftSql_eq,
        daysLeftSql_eq, le_number hnonneg (daysOfCover_nonneg _ _) hsmall]
      exact ⟨decide_eq_true hrises, hrises, hrises⟩
    · intro v' q q' w hv hv' hle
      have hfalls := daysOfCover_falls inventory hv hv' hle
      have hnonneg' := daysOfCover_nonneg inventory v'
      rw [daysLeftTs_eq, daysLeftTs_eq, daysLeftPy_eq, daysLeftPy_eq, daysLeftSql_eq,
        daysLeftSql_eq, le_number hnonneg' hnonneg (by omega)]
      exact ⟨decide_eq_true hfalls, hfalls, hfalls⟩
    · intro hused
      have hlt := (belowSentinel_iff inventory v).mp h hused
      rw [daysLeftTs_eq, daysLeftPy_eq, daysLeftSql_eq,
        le_number (by decide) hnonneg (by decide)]
      exact ⟨decide_eq_false (not_le.mpr hlt), hlt, hlt⟩

/-- A product that sells one a day and has stock for 999999 days has the days of one that does
not sell. -/
theorem stock_at_sentinel :
    daysLeftPy 999999 ⟨30, 0, 0, 0⟩ = 999999 ∧ daysLeftPy 1 ⟨0, 0, 0, 0⟩ = 999999 ∧
      daysLeftSql 999999 ⟨30, 0, 0, 0⟩ = 999999 ∧
      daysLeftTs 999999 ⟨30, 0, 0, 0⟩ = daysLeftTs 1 ⟨0, 0, 0, 0⟩ ∧
      ¬ DaysRight 999999 ⟨30, 0, 0, 0⟩ := by
  refine ⟨by decide, by decide, by decide, ?_, fun h => ?_⟩
  · rw [daysLeftTs_eq, daysLeftTs_eq, ← daysLeftPy_eq, ← daysLeftPy_eq]
    rfl
  · exact absurd (h.separated (by decide)).2.1 (by decide)

end BrainV2.Metrics.Registry
