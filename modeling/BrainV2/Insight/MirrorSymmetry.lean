import BrainV2.Insight.DailyRows
import Mathlib.Data.List.Forall2
import Mathlib.Data.Option.Basic

/-!
# The mirror image of a metric

* `EvenSquares`: what the standard deviation needs of the floats to be that of the negated values;
* `intMean_neg`: the mean of the negated values, which is rounded down again;
* `anomaly_mirrored_iff`: when a day is as unusual in the mirror;
* `anomalies_mirrored_iff`: when all days are; the anomalies are then each other's mirror
  images.
-/

namespace BrainV2.Insight

section

variable {F : Type} {ops : FloatOps F}

/-- The square of a float is that of its negative, and no root is negative. -/
structure EvenSquares (ops : FloatOps F) : Prop where
  square : ∀ sum n v, ops.square (ops.subFrom (-v) (ops.div (-sum) n)) =
    ops.square (ops.subFrom v (ops.div sum n))
  root : ∀ x, 0 ≤ ops.round (ops.mulInt (ops.sqrt x) 100)

/-! ### Mean and deviation -/

/-- What rounding down takes from the mean of the negated values: one, unless the mean is
exact. -/
def tilt (values : List Int) : Int := if (values.length : Int) ∣ values.sum then 0 else 1

theorem sum_map_neg (values : List Int) : (values.map (- ·)).sum = -values.sum := by
  induction values with
  | nil => rfl
  | cons v values ih =>
    rw [List.map_cons, List.sum_cons, ih, List.sum_cons, Int.neg_add]

theorem intMean_neg (values : List Int) :
    intMean (values.map (- ·)) = -intMean values - tilt values := by
  unfold intMean tilt
  by_cases hnil : values = []
  · simp [hnil]
  have hlength : (0 : Int) < values.length := by
    have hpos := List.length_pos_iff.mpr hnil
    omega
  rw [if_neg (by simpa using hnil), if_neg hnil, sum_map_neg, List.length_map,
    Int.fdiv_eq_ediv_of_nonneg _ hlength.le, Int.fdiv_eq_ediv_of_nonneg _ hlength.le]
  split
  · next h => rw [Int.neg_ediv_of_dvd h, Int.sub_zero]
  · next h =>
    rw [Int.neg_ediv, if_neg h, Int.sign_eq_one_of_pos hlength]

theorem intStdX100_neg (hops : EvenSquares ops) (values : List Int) :
    intStdX100 ops (values.map (- ·)) = intStdX100 ops values := by
  have hsquares : ∀ v ∈ values, ((fun v => ops.square (ops.subFrom v
      (ops.div (-values.sum) values.length))) ∘ (- ·)) v =
        ops.square (ops.subFrom v (ops.div values.sum values.length)) :=
    fun v _ => hops.square values.sum values.length v
  unfold intStdX100
  rw [List.length_map, sum_map_neg]
  simp only
  rw [List.map_map, List.map_congr_left hsquares]

theorem intStdX100_nonneg (hops : EvenSquares ops) (values : List Int) :
    0 ≤ intStdX100 ops values := by
  unfold intStdX100
  simp only
  split
  · exact Int.le_refl 0
  · exact hops.root _

/-! ### One day -/

/-- The score of a deviation is the negated one in the mirror. -/
def ScoreNegated (tilt std x : Int) : Prop :=
  x * 10000 % std ≤ tilt * 10000 ∧ tilt * 10000 < std + x * 10000 % std

/-- The deviation is less than two standard deviations on either side of the mirror. -/
def UnseenBoth (tilt std x : Int) : Prop :=
  (-199 * std ≤ x * 10000 ∧ x * 10000 < 200 * std) ∧
    -199 * std ≤ (tilt - x) * 10000 ∧ (tilt - x) * 10000 < 200 * std

theorem zX100_eq {std : Int} (hstd : 0 < std) (avg v : Int) :
    zX100 avg std v = (v - avg) * 10000 / std := by
  rw [zX100, if_pos (by omega), Int.fdiv_eq_ediv_of_nonneg _ hstd.le, Int.mul_assoc]
  rfl

theorem score_lt_iff {std y : Int} (hstd : 0 < std) :
    (y / std).natAbs < anomalyZX100 ↔ -199 * std ≤ y ∧ y < 200 * std := by
  have hlow := Int.le_ediv_iff_mul_le (a := -199) (b := y) hstd
  have hhigh := Int.ediv_lt_iff_lt_mul (a := y) (b := 200) hstd
  have hz : anomalyZX100 = 200 := rfl
  rw [← hlow, ← hhigh, hz]
  omega

theorem score_neg_iff {tilt std x : Int} (hstd : 0 < std) :
    (tilt - x) * 10000 / std = -(x * 10000 / std) ↔ ScoreNegated tilt std x := by
  have hsplit := Int.mul_ediv_add_emod (x * 10000) std
  rw [Int.ediv_eq_iff_of_pos hstd, ScoreNegated, neg_mul, mul_comm _ std]
  generalize x * 10000 % std = r at hsplit ⊢
  generalize std * (x * 10000 / std) = multiple at hsplit ⊢
  constructor
  · rintro ⟨hlow, hhigh⟩
    omega
  · rintro ⟨hlow, hhigh⟩
    omega

/-- A day that is as unusual in the mirror: on the same date, the other way, with the negated
score. -/
structure MirrorImage (a b : SignalAnomaly) : Prop where
  date : b.date = a.date
  deviation : b.deviationZX100 = -a.deviationZX100
  direction : a.direction = "high" ∧ b.direction = "low" ∨ a.direction = "low" ∧ b.direction = "high"

variable {label date : String} {avg std v : Int}

theorem anomaly_eq_some (ops : FloatOps F) (label date : String)
    (h : anomalyZX100 ≤ (zX100 avg std v).natAbs) :
    ∃ a, anomaly ops label avg std (date, v) = some a ∧ a.date = date ∧
      a.deviationZX100 = zX100 avg std v ∧
      a.direction = if 0 < zX100 avg std v then "high" else "low" := by
  simp only [anomaly, if_pos h]
  exact ⟨_, rfl, rfl, rfl, rfl⟩

/-- One day in the mirror, by its deviation from the mean. -/
theorem anomaly_mirrored_iff (hstd : 0 < std) (tilt : Int) :
    Option.Rel MirrorImage (anomaly ops label avg std (date, v))
        (anomaly ops label (-avg - tilt) std (date, -v)) ↔
      ScoreNegated tilt std (v - avg) ∨ UnseenBoth tilt std (v - avg) := by
  have hz := zX100_eq hstd avg v
  have hz' : zX100 (-avg - tilt) std (-v) = (tilt - (v - avg)) * 10000 / std := by
    rw [zX100_eq hstd, show -v - (-avg - tilt) = tilt - (v - avg) by omega]
  have hpos : 0 < anomalyZX100 := by decide
  rw [UnseenBoth, ← score_lt_iff hstd, ← score_lt_iff hstd, ← score_neg_iff hstd, ← hz, ← hz']
  by_cases hseen : anomalyZX100 ≤ (zX100 avg std v).natAbs
  · obtain ⟨a, ha, hdate, hdeviation, hdirection⟩ :=
      anomaly_eq_some ops label date hseen
    by_cases hseen' : anomalyZX100 ≤ (zX100 (-avg - tilt) std (-v)).natAbs
    · obtain ⟨b, hb, hdate', hdeviation', hdirection'⟩ :=
        anomaly_eq_some ops label date hseen'
      rw [ha, hb]
      constructor
      · rintro (⟨⟨-, h, -⟩⟩)
        left
        rw [← hdeviation', h, hdeviation]
      · rintro (h | h)
        · refine .some ⟨hdate'.trans hdate.symm, by rw [hdeviation', hdeviation, h], ?_⟩
          rw [hdirection, hdirection', h]
          by_cases hhigh : 0 < zX100 avg std v
          · left
            rw [if_pos hhigh, if_neg (by omega)]
            exact ⟨rfl, rfl⟩
          · right
            rw [if_neg hhigh, if_pos (by omega)]
            exact ⟨rfl, rfl⟩
        · omega
    · rw [ha, anomaly_eq_none_iff.mpr (by simp only; omega)]
      refine iff_of_false (fun h => by cases h) ?_
      omega
  · have hnone : anomaly ops label avg std (date, v) = none :=
      anomaly_eq_none_iff.mpr (by simp only; omega)
    rw [hnone]
    by_cases hseen' : anomalyZX100 ≤ (zX100 (-avg - tilt) std (-v)).natAbs
    · obtain ⟨b, hb, -⟩ := anomaly_eq_some ops label date hseen'
      rw [hb]
      refine iff_of_false (fun h => by cases h) ?_
      omega
    · rw [anomaly_eq_none_iff.mpr (by simp only; omega)]
      exact iff_of_true .none (Or.inr ⟨by omega, by omega⟩)

/-! ### All days -/

/-- The anomaly that is reported for one of the rows. -/
def rowAnomaly (ops : FloatOps F) (daily : List DailyRow) (label : String) (get : DailyRow → Int)
    (d : DailyRow) : Option SignalAnomaly :=
  if daily.length < minDaysForAnomaly ∨ intStdX100 ops (daily.map get) = 0 then none
  else anomaly ops label (intMean (daily.map get)) (intStdX100 ops (daily.map get)) (d.date, get d)

theorem detectAnomalies_eq (daily : List DailyRow) (get : DailyRow → Int) :
    detectAnomalies ops daily label get = daily.filterMap (rowAnomaly ops daily label get) := by
  have hvalues : (daily.map fun d => (d.date, get d)).map Prod.snd = daily.map get := by
    rw [List.map_map]
    rfl
  unfold detectAnomalies anomaliesOf
  simp only [List.length_map, hvalues]
  by_cases hfew : daily.length < minDaysForAnomaly
  · have hnone : rowAnomaly ops daily label get = fun _ => none := by
      funext d
      exact if_pos (Or.inl hfew)
    rw [if_pos hfew, hnone, List.filterMap_none]
  by_cases hstd : intStdX100 ops (daily.map get) = 0
  · have hnone : rowAnomaly ops daily label get = fun _ => none := by
      funext d
      exact if_pos (Or.inr hstd)
    rw [if_neg hfew, if_pos hstd, hnone, List.filterMap_none]
  · have hrow : rowAnomaly ops daily label get = fun d => anomaly ops label
        (intMean (daily.map get)) (intStdX100 ops (daily.map get)) (d.date, get d) := by
      funext d
      exact if_neg (by simp [hfew, hstd])
    rw [if_neg hfew, if_neg hstd, hrow, List.filterMap_map]
    rfl

/-- The values with their signs changed are unusual on the same days, in the mirror. -/
def RowsMirrored (ops : FloatOps F) (daily : List DailyRow) (label : String)
    (get : DailyRow → Int) : Prop :=
  ∀ d ∈ daily, Option.Rel MirrorImage (rowAnomaly ops daily label get d)
    (rowAnomaly ops daily label (fun d => -get d) d)

theorem forall₂_filterMap {α β γ : Type} {R : β → γ → Prop} {f : α → Option β} {g : α → Option γ}
    {l : List α} (h : ∀ a ∈ l, Option.Rel R (f a) (g a)) :
    List.Forall₂ R (l.filterMap f) (l.filterMap g) := by
  induction l with
  | nil => exact .nil
  | cons a l ih =>
    obtain ⟨ha, hl⟩ := List.forall_mem_cons.mp h
    rw [List.filterMap_cons, List.filterMap_cons]
    cases hf : f a with
    | none =>
      rw [hf] at ha
      cases hg : g a with
      | none => exact ih hl
      | some c =>
        rw [hg] at ha
        cases ha
    | some b =>
      rw [hf] at ha
      cases hg : g a with
      | none =>
        rw [hg] at ha
        cases ha
      | some c =>
        rw [hg] at ha
        cases ha with
        | some hbc => exact .cons hbc (ih hl)

/-- Each day's score is negated, or the day is within two deviations on either side. -/
def Balanced (ops : FloatOps F) (values : List Int) : Prop :=
  values.length < minDaysForAnomaly ∨ intStdX100 ops values = 0 ∨
    ∀ v ∈ values, ScoreNegated (tilt values) (intStdX100 ops values) (v - intMean values) ∨
      UnseenBoth (tilt values) (intStdX100 ops values) (v - intMean values)

/-- The days are mirrored exactly when the values are balanced, and the anomalies are then each
other's mirror images, in the order of their days. -/
theorem anomalies_mirrored_iff (hops : EvenSquares ops) (daily : List DailyRow) (label : String)
    (get : DailyRow → Int) :
    (RowsMirrored ops daily label get ↔ Balanced ops (daily.map get)) ∧
      (RowsMirrored ops daily label get → List.Forall₂ MirrorImage
        (detectAnomalies ops daily label get)
        (detectAnomalies ops daily label fun d => -get d)) := by
  have hmap : (daily.map fun d => -get d) = (daily.map get).map (- ·) := by
    rw [List.map_map]
    rfl
  have hstd : intStdX100 ops (daily.map fun d => -get d) = intStdX100 ops (daily.map get) := by
    rw [hmap, intStdX100_neg hops]
  have hmean : intMean (daily.map fun d => -get d) =
      -intMean (daily.map get) - tilt (daily.map get) := by
    rw [hmap, intMean_neg]
  constructor
  · unfold RowsMirrored Balanced
    rw [List.length_map]
    by_cases hquiet : daily.length < minDaysForAnomaly ∨ intStdX100 ops (daily.map get) = 0
    · refine iff_of_true (fun d _ => ?_) (by tauto)
      rw [rowAnomaly, rowAnomaly, hstd, if_pos hquiet, if_pos hquiet]
      exact .none
    · have hpos : 0 < intStdX100 ops (daily.map get) := by
        have hnonneg := intStdX100_nonneg hops (daily.map get)
        omega
      have hrow : ∀ d, Option.Rel MirrorImage (rowAnomaly ops daily label get d)
          (rowAnomaly ops daily label (fun d => -get d) d) ↔
            ScoreNegated (tilt (daily.map get)) (intStdX100 ops (daily.map get))
                (get d - intMean (daily.map get)) ∨
              UnseenBoth (tilt (daily.map get)) (intStdX100 ops (daily.map get))
                (get d - intMean (daily.map get)) := by
        intro d
        rw [rowAnomaly, rowAnomaly, hstd, hmean, if_neg hquiet, if_neg hquiet]
        exact anomaly_mirrored_iff hpos (tilt (daily.map get))
      simp only [hrow, List.forall_mem_map]
      rw [← or_assoc]
      exact (or_iff_right hquiet).symm
  · intro h
    rw [detectAnomalies_eq, detectAnomalies_eq]
    exact forall₂_filterMap h

end

/-! ### One sale -/

theorem exactOps_evenSquares : EvenSquares exactOps where
  square sum n v := by
    simp only [exactOps]
    push_cast
    ring
  root x := by
    simp only [exactOps, roundRat]
    rw [if_neg (by rw [not_lt]; positivity)]
    exact Int.natCast_nonneg _

/-- Net sales of a day, and a rate of returns. -/
def salesDay (date : String) (netSalesMu : Int) (rtoRateBp : Option Int) : DailyRow :=
  ⟨date, netSalesMu, 0, 0, 0, 0, 0, rtoRateBp⟩

def saleOnLastDay (quietDays : Nat) (netSalesMu : Int) : List DailyRow :=
  (List.range quietDays).map (fun i => salesDay s!"day {i}" 0 none) ++
    [salesDay "last" netSalesMu none]

/-- Sixteen units on the last of sixteen days are mirrored: every score is exact. -/
theorem sixteen_units_mirrored :
    RowsMirrored exactOps (saleOnLastDay 15 16) "Net sales" DailyRow.netSalesMu ∧
      List.Forall₂ MirrorImage
        (detectAnomalies exactOps (saleOnLastDay 15 16) "Net sales" DailyRow.netSalesMu)
        (detectAnomalies exactOps (saleOnLastDay 15 16) "Net sales" fun d => -d.netSalesMu) := by
  have hiff := anomalies_mirrored_iff exactOps_evenSquares (saleOnLastDay 15 16) "Net sales"
    DailyRow.netSalesMu
  have hvalues : (saleOnLastDay 15 16).map DailyRow.netSalesMu = List.replicate 15 0 ++ [16] := by
    decide
  have hstd : intStdX100 exactOps (List.replicate 15 0 ++ [16]) = 400 := by decide +kernel
  have hbalanced : Balanced exactOps (List.replicate 15 0 ++ [16]) := by
    right
    right
    intro v hv
    have hv' : v = 0 ∨ v = 16 := by simpa using hv
    rw [hstd]
    left
    unfold ScoreNegated
    rcases hv' with rfl | rfl <;> decide
  rw [hvalues] at hiff
  have hrows := hiff.1.mpr hbalanced
  exact ⟨hrows, hiff.2 hrows⟩

def noSummary : PnlSummary := ⟨0, 0, 0, 0, 0, 0, none, none⟩

/-- One unit on the last of nine days is unusual there, but not in the mirror. And a day
without a rate of returns is reported as a drop of the rate. -/
theorem one_unit_not_mirrored :
    (detectAnomalies exactOps (saleOnLastDay 8 1) "Net sales" DailyRow.netSalesMu).map
        SignalAnomaly.date = ["last"] ∧
      "last" ∉ (detectAnomalies exactOps (saleOnLastDay 8 1) "Net sales"
        fun d => -d.netSalesMu).map SignalAnomaly.date ∧
      (computePnlSignals exactOps [salesDay "mon" 0 (some 2000), salesDay "tue" 0 none] noSummary
        noSummary).drops.map (fun s => (s.metric, s.date)) = [("RTO %", "tue")] := by
  decide +kernel

end BrainV2.Insight
