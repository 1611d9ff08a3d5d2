import BrainV2.Lib.Dict
import BrainV2.Lib.Grouping
import BrainV2.Lib.Integers
import Mathlib.Algebra.Order.Group.Unbundled.Int
import Mathlib.Algebra.BigOperators.Ring.Finset
import Mathlib.Algebra.Order.Ring.Int
import Mathlib.Tactic.Linarith

/-!
# The distribution graph

* `roundToUnit`, `modeMu`, `meanMu`: the most frequent rounded value, and the mean;
* `buildGraphPoints`: sixty buckets from the least value to the greatest;
* `IsMode`, `isMode_modeMu`: the most frequent value, and of several the least;
* `countsOf`, `bucketCounts_eq`: how many values each bucket has;
* `GraphPlaces`, `graph_places`: where the values are in the graph.
-/

namespace BrainV2.Analytics.DistributionsQuery

/-! ### Mode and mean -/

def roundUnitPaise : Int := 100

/-- `_round_to_unit` -/
def roundToUnit (valueMu : Int) : Int :=
  (valueMu + roundUnitPaise.fdiv 2).fdiv roundUnitPaise * roundUnitPaise

/-- The loop over the rounded values. -/
def frequencies (rounded : List Int) : List (Int × Nat) :=
  rounded.foldl (fun freq r => Dict.set freq r ((freq.lookup r).getD 0 + 1)) []

/-- The loop over the frequencies. -/
def best (current : Int × Nat) (entry : Int × Nat) : Int × Nat :=
  if current.2 < entry.2 ∨ entry.2 = current.2 ∧ entry.1 < current.1 then entry else current

/-- `_mode_mu` -/
def modeMu (values : List Int) : Int :=
  match values.map roundToUnit with
  | [] => 0
  | first :: rest => ((frequencies (first :: rest)).foldl best (first, 0)).1

/-- `_mean_mu` -/
def meanMu (values : List Int) : Int :=
  if values = [] then 0 else values.sum.fdiv values.length

/-! ### The graph -/

def numBuckets : Nat := 60

structure GraphPoint where
  valueMu : Int
  densityBp : Int
deriving DecidableEq

def bucketWidth (lo hi : Int) : Int :=
  let rng := if hi - lo = 0 then 1 else hi - lo
  max 1 (rng.fdiv numBuckets)

def bucketIndex (lo width v : Int) : Nat :=
  let idx := (v - lo).fdiv width
  let idx := if idx < 0 then 0 else idx
  let idx := if (numBuckets : Int) ≤ idx then (numBuckets : Int) - 1 else idx
  idx.toNat

def bucketCounts (lo width : Int) (values : List Int) : List Nat :=
  values.foldl (fun counts v => counts.modify (bucketIndex lo width v) (· + 1))
    (List.replicate numBuckets 0)

def graphPoint (lo width : Int) (total : Nat) (count idx : Nat) : GraphPoint where
  valueMu := lo + idx * width + width.fdiv 2
  densityBp := ((count * 10000 : Nat) : Int).fdiv total

/-- `_build_graph_points` -/
def buildGraphPoints (values : List Int) : List GraphPoint × Int × Int :=
  match values.min?, values.max? with
  | some lo, some hi =>
    let width := bucketWidth lo hi
    ((bucketCounts lo width values).zipIdx.map fun c => graphPoint lo width values.length c.1 c.2,
      modeMu values, meanMu values)
  | _, _ => ([], 0, 0)

/-! ### The most frequent value -/

/-- Of the most frequent values the least. -/
structure IsMode (rounded : List Int) (m : Int) : Prop where
  mem : m ∈ rounded
  most : ∀ v ∈ rounded, rounded.count v < rounded.count m ∨
    rounded.count v = rounded.count m ∧ m ≤ v

theorem IsMode.unique {rounded : List Int} {m m' : Int} (h : IsMode rounded m)
    (h' : IsMode rounded m') : m = m' := by
  have hm := h.most m' h'.mem
  have hm' := h'.most m h.mem
  omega

theorem IsMode.perm {rounded rounded' : List Int} {m : Int} (h : IsMode rounded m)
    (hperm : rounded'.Perm rounded) : IsMode rounded' m := by
  refine ⟨hperm.mem_iff.mpr h.mem, fun v hv => ?_⟩
  rw [hperm.count_eq, hperm.count_eq]
  exact h.most v (hperm.mem_iff.mp hv)

theorem IsMode.shift {rounded : List Int} {m : Int} (h : IsMode rounded m) (c : Int) :
    IsMode (rounded.map (· + c)) (m + c) := by
  have hcount : ∀ v, (rounded.map (· + c)).count (v + c) = rounded.count v := fun v =>
    List.count_map_of_injective rounded (· + c) (add_left_injective c) v
  refine ⟨List.mem_map_of_mem h.mem, fun w hw => ?_⟩
  obtain ⟨v, hv, rfl⟩ := List.mem_map.mp hw
  rw [hcount, hcount]
  have hmost := h.most v hv
  omega

theorem keys_frequencies (rounded : List Int) : (Dict.keys (frequencies rounded)).Nodup ∧
    ∀ v, ((frequencies rounded).lookup v).getD 0 = rounded.count v ∧
      (v ∈ Dict.keys (frequencies rounded) ↔ v ∈ rounded) := by
  induction rounded using List.reverseRecOn with
  | nil => exact ⟨List.nodup_nil, fun v => ⟨rfl, Iff.rfl⟩⟩
  | append_singleton rounded r ih =>
    obtain ⟨hnodup, hcounts⟩ := ih
    rw [frequencies, List.foldl_append, List.foldl_cons, List.foldl_nil, ← frequencies]
    refine ⟨Dict.nodup_keys_set _ _ hnodup, fun v => ⟨?_, ?_⟩⟩
    · rw [List.count_append, List.count_singleton]
      by_cases hv : v = r
      · rw [hv, Dict.lookup_set_self, Option.getD_some, (hcounts r).1]
        simp
      · rw [Dict.lookup_set_ne _ _ hv, (hcounts v).1]
        simp [Ne.symm hv]
    · rw [Dict.mem_keys_set, (hcounts v).2, List.mem_append, List.mem_singleton]

theorem mem_frequencies {rounded : List Int} {entry : Int × Nat} :
    entry ∈ frequencies rounded ↔ entry.1 ∈ rounded ∧ entry.2 = rounded.count entry.1 := by
  obtain ⟨hnodup, hcounts⟩ := keys_frequencies rounded
  obtain ⟨v, n⟩ := entry
  rw [← Dict.lookup_eq_some_iff_mem hnodup, ← (hcounts v).1]
  constructor
  · intro h
    have hmem := List.mem_map_of_mem (f := Prod.fst) ((Dict.lookup_eq_some_iff_mem hnodup).mp h)
    exact ⟨(hcounts v).2.mp hmem, by rw [h]; rfl⟩
  · rintro ⟨hmem, hn⟩
    obtain ⟨entry, hentry, hv⟩ := List.mem_map.mp ((hcounts v).2.mpr hmem)
    have hlookup : (frequencies rounded).lookup v = some entry.2 := by
      rw [Dict.lookup_eq_some_iff_mem hnodup, ← hv]
      exact hentry
    rw [hlookup] at hn ⊢
    exact congrArg some hn.symm

/-- Of two entries, one that neither beats. -/
theorem best_spec (current e : Int × Nat) :
    best current e ∈ [current, e] ∧ ∀ entry ∈ [current, e], entry.2 < (best current e).2 ∨
      entry.2 = (best current e).2 ∧ (best current e).1 ≤ entry.1 := by
  unfold best
  split
  · refine ⟨List.mem_cons_of_mem _ List.mem_cons_self, ?_⟩
    simp
    omega
  · refine ⟨List.mem_cons_self, ?_⟩
    simp
    omega

/-- The loop ends with an entry that none beats. -/
theorem foldl_best (entries : List (Int × Nat)) (current : Int × Nat) :
    entries.foldl best current ∈ current :: entries ∧
      ∀ entry ∈ current :: entries, entry.2 < (entries.foldl best current).2 ∨
        entry.2 = (entries.foldl best current).2 ∧ (entries.foldl best current).1 ≤ entry.1 := by
  induction entries generalizing current with
  | nil => simp
  | cons e entries ih =>
    obtain ⟨hmem, hbeats⟩ := ih (best current e)
    obtain ⟨hbest, hstep⟩ := best_spec current e
    have hhead := hbeats _ List.mem_cons_self
    rw [List.foldl_cons]
    constructor
    · cases List.mem_cons.mp hmem with
      | inl hsame =>
        rw [hsame]
        exact List.mem_append_left entries hbest
      | inr htail => exact List.mem_append_right [current, e] htail
    · intro entry hentry
      have hsplit : entry ∈ [current, e] ++ entries := hentry
      cases List.mem_append.mp hsplit with
      | inl hfirst =>
        have hsmall := hstep entry hfirst
        omega
      | inr hrest => exact hbeats entry (List.mem_cons_of_mem _ hrest)

theorem isMode_modeMu {values : List Int} (h : values ≠ []) :
    IsMode (values.map roundToUnit) (modeMu values) := by
  cases hrounded : values.map roundToUnit with
  | nil => exact absurd (List.map_eq_nil_iff.mp hrounded) h
  | cons first rest =>
    obtain ⟨hmem, hbeats⟩ := foldl_best (frequencies (first :: rest)) (first, 0)
    have hentries : ∀ v ∈ first :: rest, (v, (first :: rest).count v) ∈
        frequencies (first :: rest) := fun v hv => mem_frequencies.mpr ⟨hv, rfl⟩
    rw [modeMu, hrounded]
    dsimp only
    generalize (frequencies (first :: rest)).foldl best (first, 0) = m at hmem hbeats
    have hfirst := hbeats _ (List.mem_cons_of_mem _ (hentries first List.mem_cons_self))
    have hm : m ∈ frequencies (first :: rest) := by
      rcases List.mem_cons.mp hmem with rfl | hm
      · have hpos : 0 < (first :: rest).count first := List.count_pos_iff.mpr List.mem_cons_self
        omega
      · exact hm
    obtain ⟨hvalue, hcount⟩ := mem_frequencies.mp hm
    refine ⟨hvalue, fun v hv => ?_⟩
    rw [← hcount]
    exact hbeats _ (List.mem_cons_of_mem _ (hentries v hv))

/-! ### The buckets -/

theorem bucketWidth_pos (lo hi : Int) : 0 < bucketWidth lo hi := by
  unfold bucketWidth
  exact lt_of_lt_of_le Int.one_pos (le_max_left _ _)

theorem bucketIndex_lt (lo width v : Int) : bucketIndex lo width v < numBuckets := by
  unfold bucketIndex numBuckets
  dsimp only
  split <;> split <;> omega

/-- From the least value on, the index is the quotient or the last one. -/
theorem bucketIndex_eq {lo width v : Int} (hwidth : 0 < width) (hlo : lo ≤ v) :
    (bucketIndex lo width v : Int) = min ((v - lo) / width) 59 := by
  have hnonneg : 0 ≤ (v - lo) / width := Int.ediv_nonneg (by omega) hwidth.le
  unfold bucketIndex numBuckets
  rw [Quotients.fdiv_eq hwidth]
  dsimp only
  split <;> split <;> omega

/-- How many values each bucket has. -/
def countsOf (lo width : Int) (values : List Int) : List Nat :=
  (List.range numBuckets).map fun i => values.countP (bucketIndex lo width · = i)

theorem bucketCounts_eq (lo width : Int) (values : List Int) :
    bucketCounts lo width values = countsOf lo width values := by
  unfold bucketCounts
  induction values using List.reverseRecOn with
  | nil => rfl
  | append_singleton values v ih =>
    rw [List.foldl_append, ih, List.foldl_cons, List.foldl_nil]
    apply List.ext_getElem?
    intro i
    rw [List.getElem?_modify, countsOf, countsOf, List.getElem?_map, List.getElem?_map]
    cases hi : (List.range numBuckets)[i]? with
    | none => rfl
    | some j =>
      obtain ⟨-, rfl⟩ := List.getElem?_eq_some_iff.mp hi
      rw [List.getElem_range]
      simp only [Option.map_some, Option.map_eq_map, List.countP_append, List.countP_singleton,
        decide_eq_true_eq]
      split <;> rfl

/-- Every value is in one bucket. -/
theorem sum_countsOf (lo width : Int) (values : List Int) :
    (countsOf lo width values).sum = values.length := by
  have hgroups := Grouping.length_groups (bucketIndex lo width) values
    (List.nodup_range (n := numBuckets))
  rw [Grouping.filter_mem_keys fun v _ => List.mem_range.mpr (bucketIndex_lt lo width v)] at hgroups
  rw [← hgroups, countsOf]
  simp only [List.countP_eq_length_filter, Grouping.groupOf]

theorem length_countsOf (lo width : Int) (values : List Int) :
    (countsOf lo width values).length = numBuckets := by
  rw [countsOf, List.length_map, List.length_range]

theorem countsOf_perm {values values' : List Int} (h : values'.Perm values) (lo width : Int) :
    countsOf lo width values' = countsOf lo width values := by
  simp only [countsOf, h.countP_eq]

theorem countsOf_shift (lo width : Int) (values : List Int) (c : Int) :
    countsOf (lo + c) width (values.map (· + c)) = countsOf lo width values := by
  have hindex : ∀ v, bucketIndex (lo + c) width (v + c) = bucketIndex lo width v := by
    intro v
    rw [bucketIndex, add_sub_add_right_eq_sub, ← bucketIndex]
  unfold countsOf
  apply List.map_congr_left
  intro i _
  rw [List.countP_map]
  simp only [Function.comp_def, hindex]

/-! ### The densities -/

/-- Shares in 10,000 that are rounded down lose less than one each. -/
theorem sum_shares {total : Nat} (htotal : 0 < total) (counts : List Nat) :
    (counts.map fun n => n * 10000 / total).sum * total ≤ counts.sum * 10000 ∧
      counts.sum * 10000 + counts.length ≤
        ((counts.map fun n => n * 10000 / total).sum + counts.length) * total := by
  induction counts with
  | nil => simp
  | cons n counts ih =>
    have hlow : n * 10000 / total * total ≤ n * 10000 := Nat.div_mul_le_self _ _
    have hhigh : n * 10000 + 1 ≤ (n * 10000 / total + 1) * total := by
      rw [Nat.add_mul, Nat.one_mul, Nat.mul_comm _ total]
      have := Nat.lt_mul_div_succ (n * 10000) htotal
      rw [Nat.mul_add, Nat.mul_one] at this
      omega
    simp only [List.map_cons, List.sum_cons, List.length_cons]
    constructor <;> nlinarith [ih.1, ih.2, hlow, hhigh]

/-! ### Where the values are -/

/-- `min(values)` -/
def lowest (values : List Int) : Int := values.min?.getD 0

/-- `max(values)` -/
def highest (values : List Int) : Int := values.max?.getD 0

def widthOf (values : List Int) : Int := bucketWidth (lowest values) (highest values)

/-- The bucket that counts a value. -/
def placeOf (values : List Int) (v : Int) : Nat := bucketIndex (lowest values) (widthOf values) v

structure GraphPlaces (values : List Int) : Prop where
  buckets : (buildGraphPoints values).1.length = 60
  /-- A value is counted in its bucket, and in no other. -/
  counted : (∀ v ∈ values, placeOf values v < 60) ∧ ∀ i < 60,
    (bucketCounts (lowest values) (widthOf values) values)[i]? =
      some (values.countP (placeOf values · = i))
  /-- It lies within a width of what is shown, if not above the last bucket's width. -/
  near : ∀ v ∈ values, ∀ p, (buildGraphPoints values).1[placeOf values v]? = some p →
    (|v - p.valueMu| ≤ widthOf values ↔
      v ≤ lowest values + 60 * widthOf values + widthOf values / 2)
  above : ∀ v ∈ values, lowest values + 60 * widthOf values + widthOf values / 2 < v →
    placeOf values v = 59 ∧ v < lowest values + 60 * widthOf values + 60
  density : (∀ p ∈ (buildGraphPoints values).1, 0 ≤ p.densityBp) ∧
    10000 - 60 < ((buildGraphPoints values).1.map (·.densityBp)).sum ∧
    ((buildGraphPoints values).1.map (·.densityBp)).sum ≤ 10000
  order : ∀ values', values'.Perm values → buildGraphPoints values' = buildGraphPoints values
  shift : ∀ k, buildGraphPoints (values.map (· + 100 * k)) =
    ((buildGraphPoints values).1.map fun p => { p with valueMu := p.valueMu + 100 * k },
      (buildGraphPoints values).2.1 + 100 * k, (buildGraphPoints values).2.2 + 100 * k)

section

variable {values : List Int}

theorem lowest_spec (h : values ≠ []) : lowest values ∈ values ∧ ∀ v ∈ values, lowest values ≤ v := by
  cases hmin : values.min? with
  | none => exact absurd (List.min?_eq_none_iff.mp hmin) h
  | some lo =>
    rw [lowest, hmin]
    exact List.min?_eq_some_iff.mp hmin

theorem highest_spec (h : values ≠ []) :
    highest values ∈ values ∧ ∀ v ∈ values, v ≤ highest values := by
  cases hmax : values.max? with
  | none => exact absurd (List.max?_eq_none_iff.mp hmax) h
  | some hi =>
    rw [highest, hmax]
    exact List.max?_eq_some_iff.mp hmax

theorem lowest_eq (h : values ≠ []) {lo : Int} (hmem : lo ∈ values) (hle : ∀ v ∈ values, lo ≤ v) :
    lowest values = lo := by
  obtain ⟨hlow, hleast⟩ := lowest_spec h
  exact le_antisymm (hleast lo hmem) (hle _ hlow)

theorem highest_eq (h : values ≠ []) {hi : Int} (hmem : hi ∈ values) (hle : ∀ v ∈ values, v ≤ hi) :
    highest values = hi := by
  obtain ⟨hhigh, hgreatest⟩ := highest_spec h
  exact le_antisymm (hle _ hhigh) (hgreatest hi hmem)

theorem buildGraphPoints_eq (h : values ≠ []) : buildGraphPoints values =
    ((countsOf (lowest values) (widthOf values) values).zipIdx.map fun c =>
        graphPoint (lowest values) (widthOf values) values.length c.1 c.2,
      modeMu values, meanMu values) := by
  cases hmin : values.min? with
  | none => exact absurd (List.min?_eq_none_iff.mp hmin) h
  | some lo =>
    cases hmax : values.max? with
    | none => exact absurd (List.max?_eq_none_iff.mp hmax) h
    | some hi =>
      rw [buildGraphPoints, hmin, hmax]
      dsimp only
      rw [bucketCounts_eq, widthOf, lowest, highest, hmin, hmax]
      rfl

theorem getElem?_points (h : values ≠ []) {i : Nat} {p : GraphPoint}
    (hp : (buildGraphPoints values).1[i]? = some p) :
    p.valueMu = lowest values + i * widthOf values + widthOf values / 2 := by
  rw [buildGraphPoints_eq h, List.getElem?_map, Option.map_eq_some_iff] at hp
  obtain ⟨c, hc, rfl⟩ := hp
  rw [List.getElem?_zipIdx, Option.map_eq_some_iff] at hc
  obtain ⟨count, -, rfl⟩ := hc
  rw [graphPoint, Quotients.fdiv_eq (by decide), Nat.zero_add]

theorem placeOf_eq (h : values ≠ []) {v : Int} (hv : v ∈ values) :
    (placeOf values v : Int) = min ((v - lowest values) / widthOf values) 59 :=
  bucketIndex_eq (bucketWidth_pos _ _) ((lowest_spec h).2 v hv)

theorem near_iff (h : values ≠ []) {v : Int} (hv : v ∈ values) {p : GraphPoint}
    (hp : (buildGraphPoints values).1[placeOf values v]? = some p) :
    |v - p.valueMu| ≤ widthOf values ↔
      v ≤ lowest values + 60 * widthOf values + widthOf values / 2 := by
  have hwidth : 0 < widthOf values := bucketWidth_pos _ _
  have hplace := placeOf_eq h hv
  have hlow := Int.ediv_mul_le (v - lowest values) hwidth.ne'
  have hhigh := Int.lt_ediv_add_one_mul_self (v - lowest values) hwidth
  rw [getElem?_points h hp, hplace, abs_le]
  generalize (v - lowest values) / widthOf values = q at hlow hhigh ⊢
  rw [Int.add_mul] at hhigh
  by_cases hq : q ≤ 59
  · have hlast : q * widthOf values ≤ 59 * widthOf values :=
      Int.mul_le_mul_of_nonneg_right hq hwidth.le
    rw [min_eq_left hq]
    omega
  · have hlast : 60 * widthOf values ≤ q * widthOf values :=
      Int.mul_le_mul_of_nonneg_right (by omega) hwidth.le
    rw [min_eq_right (by omega)]
    omega

/-- Sixty widths leave out less than sixty. -/
theorem range_lt (lo hi : Int) : hi - lo < 60 * bucketWidth lo hi + 60 := by
  unfold bucketWidth numBuckets
  dsimp only
  rw [Quotients.fdiv_eq (by decide)]
  split <;> omega

theorem above_last (h : values ≠ []) {v : Int} (hv : v ∈ values)
    (habove : lowest values + 60 * widthOf values + widthOf values / 2 < v) :
    placeOf values v = 59 ∧ v < lowest values + 60 * widthOf values + 60 := by
  have hwidth : 0 < widthOf values := bucketWidth_pos _ _
  have hplace := placeOf_eq h hv
  have hquotient : 60 ≤ (v - lowest values) / widthOf values := by
    rw [Int.le_ediv_iff_mul_le hwidth]
    omega
  have hrange : highest values - lowest values < 60 * widthOf values + 60 := range_lt _ _
  have hhigh := (highest_spec h).2 v hv
  omega

/-! ### The shares -/

theorem densities_eq (h : values ≠ []) : (buildGraphPoints values).1.map (·.densityBp) =
    ((countsOf (lowest values) (widthOf values) values).map fun n =>
      n * 10000 / values.length).map (Nat.cast : Nat → Int) := by
  have hlength : (0 : Int) < values.length := by
    exact_mod_cast List.length_pos_iff.mpr h
  rw [buildGraphPoints_eq h]
  apply List.ext_getElem?
  intro i
  simp only [List.getElem?_map, List.getElem?_zipIdx, Option.map_map, Function.comp_def, graphPoint,
    Quotients.fdiv_eq hlength, Int.natCast_ediv]

theorem densities (h : values ≠ []) : (∀ p ∈ (buildGraphPoints values).1, 0 ≤ p.densityBp) ∧
    10000 - 60 < ((buildGraphPoints values).1.map (·.densityBp)).sum ∧
    ((buildGraphPoints values).1.map (·.densityBp)).sum ≤ 10000 := by
  have hlength := List.length_pos_iff.mpr h
  obtain ⟨hle, hlt⟩ := sum_shares hlength (countsOf (lowest values) (widthOf values) values)
  rw [sum_countsOf] at hle hlt
  rw [length_countsOf] at hlt
  refine ⟨fun p hp => ?_, ?_⟩
  · have hmem := List.mem_map_of_mem (f := GraphPoint.densityBp) hp
    rw [densities_eq h] at hmem
    obtain ⟨n, -, hn⟩ := List.mem_map.mp hmem
    omega
  · rw [densities_eq h, ← Nat.cast_list_sum]
    generalize ((countsOf (lowest values) (widthOf values) values).map fun n =>
      n * 10000 / values.length).sum = total at hle hlt
    unfold numBuckets at hlt
    constructor
    · have hmore : 10000 < total + 60 := by
        by_contra hnot
        have := Nat.mul_le_mul_right values.length (Nat.not_lt.mp hnot)
        omega
      omega
    · have hless : total ≤ 10000 := by
        by_contra hnot
        have := Nat.mul_le_mul_right values.length (Nat.not_le.mp hnot)
        rw [Nat.succ_mul] at this
        omega
      omega

/-! ### Order and shift -/

theorem ne_nil_of_perm {values' : List Int} (h : values ≠ []) (hperm : values'.Perm values) :
    values' ≠ [] := fun hnil => h (List.nil_perm.mp (hnil ▸ hperm))

theorem buildGraphPoints_perm {values' : List Int} (h : values ≠ [])
    (hperm : values'.Perm values) : buildGraphPoints values' = buildGraphPoints values := by
  have h' := ne_nil_of_perm h hperm
  have hlow : lowest values' = lowest values := by
    obtain ⟨hmem, hleast⟩ := lowest_spec h
    exact lowest_eq h' (hperm.mem_iff.mpr hmem) fun v hv => hleast v (hperm.mem_iff.mp hv)
  have hhigh : highest values' = highest values := by
    obtain ⟨hmem, hgreatest⟩ := highest_spec h
    exact highest_eq h' (hperm.mem_iff.mpr hmem) fun v hv => hgreatest v (hperm.mem_iff.mp hv)
  have hmode : modeMu values' = modeMu values := by
    apply (isMode_modeMu h').unique
    exact (isMode_modeMu h).perm (hperm.map roundToUnit)
  have hmean : meanMu values' = meanMu values := by
    rw [meanMu, meanMu, if_neg h', if_neg h, hperm.sum_eq, hperm.length_eq]
  rw [buildGraphPoints_eq h', buildGraphPoints_eq h, hmode, hmean, widthOf, widthOf, hlow, hhigh,
    hperm.length_eq, countsOf_perm hperm]

theorem roundToUnit_shift (v k : Int) : roundToUnit (v + 100 * k) = roundToUnit v + 100 * k := by
  have hhalf : roundUnitPaise.fdiv 2 = 50 := rfl
  unfold roundToUnit
  rw [hhalf, roundUnitPaise, Quotients.fdiv_eq (by decide), Quotients.fdiv_eq (by decide)]
  omega

theorem modeMu_shift (h : values ≠ []) (k : Int) :
    modeMu (values.map (· + 100 * k)) = modeMu values + 100 * k := by
  have hne : values.map (· + 100 * k) ≠ [] := fun hnil => h (List.map_eq_nil_iff.mp hnil)
  have hmode := isMode_modeMu hne
  have hrounded : (values.map (· + 100 * k)).map roundToUnit =
      (values.map roundToUnit).map (· + 100 * k) := by
    rw [List.map_map, List.map_map]
    exact List.map_congr_left fun v _ => roundToUnit_shift v k
  rw [hrounded] at hmode
  exact hmode.unique ((isMode_modeMu h).shift (100 * k))

theorem sum_shift (values : List Int) (c : Int) :
    (values.map (· + c)).sum = values.sum + c * values.length := by
  induction values with
  | nil => simp
  | cons v values ih =>
    rw [List.map_cons, List.sum_cons, List.sum_cons, ih, List.length_cons]
    push_cast
    ring

theorem meanMu_shift (h : values ≠ []) (c : Int) :
    meanMu (values.map (· + c)) = meanMu values + c := by
  have hne : values.map (· + c) ≠ [] := fun hnil => h (List.map_eq_nil_iff.mp hnil)
  have hlength : (0 : Int) < values.length := by
    exact_mod_cast List.length_pos_iff.mpr h
  rw [meanMu, meanMu, if_neg hne, if_neg h, sum_shift, List.length_map, Quotients.fdiv_eq hlength,
    Quotients.fdiv_eq hlength, Int.add_mul_ediv_right _ _ hlength.ne']

theorem lowest_shift (h : values ≠ []) (c : Int) :
    lowest (values.map (· + c)) = lowest values + c := by
  obtain ⟨hmem, hleast⟩ := lowest_spec h
  apply lowest_eq (fun hnil => h (List.map_eq_nil_iff.mp hnil)) (List.mem_map_of_mem hmem)
  intro w hw
  obtain ⟨v, hv, rfl⟩ := List.mem_map.mp hw
  exact Int.add_le_add_right (hleast v hv) c

theorem highest_shift (h : values ≠ []) (c : Int) :
    highest (values.map (· + c)) = highest values + c := by
  obtain ⟨hmem, hgreatest⟩ := highest_spec h
  apply highest_eq (fun hnil => h (List.map_eq_nil_iff.mp hnil)) (List.mem_map_of_mem hmem)
  intro w hw
  obtain ⟨v, hv, rfl⟩ := List.mem_map.mp hw
  exact Int.add_le_add_right (hgreatest v hv) c

theorem buildGraphPoints_shift (h : values ≠ []) (k : Int) :
    buildGraphPoints (values.map (· + 100 * k)) =
      ((buildGraphPoints values).1.map fun p => { p with valueMu := p.valueMu + 100 * k },
        (buildGraphPoints values).2.1 + 100 * k, (buildGraphPoints values).2.2 + 100 * k) := by
  have hne : values.map (· + 100 * k) ≠ [] := fun hnil => h (List.map_eq_nil_iff.mp hnil)
  have hwidth : widthOf (values.map (· + 100 * k)) = widthOf values := by
    rw [widthOf, lowest_shift h, highest_shift h, bucketWidth, add_sub_add_right_eq_sub,
      ← bucketWidth, ← widthOf]
  rw [buildGraphPoints_eq hne, buildGraphPoints_eq h, modeMu_shift h, meanMu_shift h, hwidth,
    lowest_shift h, countsOf_shift, List.length_map, List.map_map]
  congr 1
  apply List.map_congr_left
  intro c _
  simp only [graphPoint, Function.comp_def, GraphPoint.mk.injEq, and_true]
  ring

theorem graph_places (h : values ≠ []) : GraphPlaces values where
  buckets := by
    rw [buildGraphPoints_eq h, List.length_map, List.length_zipIdx, length_countsOf]
    rfl
  counted := by
    refine ⟨fun v _ => bucketIndex_lt _ _ v, fun i hi => ?_⟩
    rw [bucketCounts_eq, countsOf, List.getElem?_map,
      List.getElem?_range (show i < numBuckets from hi)]
    rfl
  near := fun _ hv _ hp => near_iff h hv hp
  above := fun _ hv habove => above_last h hv habove
  density := densities h
  order := fun _ hperm => buildGraphPoints_perm h hperm
  shift := buildGraphPoints_shift h

end

theorem two_orders_places : ([0, 119] : List Int) ≠ [] ∧ GraphPlaces [0, 119] :=
  ⟨by decide, graph_places (by decide)⟩

/-- Buckets of one paisa, of which the last has an order of 119 and shows 59. -/
theorem order_far_from_point :
    widthOf [0, 119] = 1 ∧ placeOf [0, 119] 119 = 59 ∧
      (buildGraphPoints [0, 119]).1[59]? = some ⟨59, 5000⟩ ∧
      ¬ ∀ v ∈ ([0, 119] : List Int), ∀ p, (buildGraphPoints [0, 119]).1[placeOf [0, 119] v]? = some p →
        |v - p.valueMu| ≤ widthOf [0, 119] := by
  have hpoint : (buildGraphPoints [0, 119]).1[placeOf [0, 119] 119]? = some ⟨59, 5000⟩ := by decide
  refine ⟨by decide, by decide, hpoint, fun h => ?_⟩
  exact absurd (h 119 (by decide) _ hpoint) (by decide)

end BrainV2.Analytics.DistributionsQuery
