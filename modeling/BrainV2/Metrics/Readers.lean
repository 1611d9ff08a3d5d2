import BrainV2.Lib.Runs
import BrainV2.Metrics.Recompute
import Mathlib.Data.List.Perm.Subperm

/-!
# What readers see of recomputed rows

* `Permitted`: the rows that a read without `FINAL` may find;
* `History`: the warehouse, and the row that each date should have;
* `Faithful`: every read returns this row and no other;
* `faithful_iff_settled`: there is one stored version of it, and of no other date any;
* `always_faithful_iff`: when this lasts.
-/

namespace BrainV2.Metrics

open Py (Date PyExc)
open Versions

/-- Any stored versions, the newest of each key among them, in any order. -/
def Permitted (read stored : List (Inserted ComputedRow)) : Prop :=
  read.Subperm stored ∧ ∀ r ∈ newest computedKey Inserted.insertedAt stored, r ∈ read

/-- The warehouse, and of each date the row of the last recompute that covered it. -/
structure History where
  warehouse : Warehouse
  expected : String → Date → Option ComputedRow

/-- What the view makes of the rollup of a date. -/
def RecomputeCall.image (call : RecomputeCall) (w : Warehouse) (window : Window) (d : Date) :
    Option ComputedRow :=
  (rowOn (rollup w.facts (call.params window)) d).map computedRow

inductive Event where
  | factsChange (facts : Facts)
  | freshnessChange (silverFreshness : List (String × Date))
  | recompute (call : RecomputeCall)

def History.step (s : History) : Event → History
  | .factsChange facts => { s with warehouse := { s.warehouse with facts := facts } }
  | .freshnessChange log => { s with warehouse := { s.warehouse with silverFreshness := log } }
  | .recompute call =>
    { warehouse := (recomputeDailyMetrics call s.warehouse).warehouse
      expected :=
        match call.scope s.warehouse with
        | none => s.expected
        | some window => fun workspaceId d =>
          if workspaceId = call.workspaceId ∧ window.has d then call.image s.warehouse window d
          else s.expected workspaceId d }

/-- Before anything is computed. -/
def History.initial (facts : Facts) (silverFreshness : List (String × Date)) : History :=
  ⟨⟨facts, silverFreshness, [], []⟩, fun _ _ => none⟩

/-- Whatever is read, each date has the row it should have and no other. -/
def History.Faithful (s : History) : Prop :=
  ∀ read, Permitted read s.warehouse.computed → ∀ workspaceId dateRange rows,
    queryMetrics (read.map (·.row)) workspaceId dateRange = .ok rows →
    ∀ d, dateRange.has d = true →
      rows.filter (·.date = d) = ((s.expected workspaceId d).map (·.toMetricRow)).toList

/-! ### What is stored for a date -/

/-- The stored versions of a date's row. -/
def Warehouse.versions (w : Warehouse) (workspaceId : String) (d : Date) :
    List (Inserted ComputedRow) :=
  w.computed.filter (computedKey · = (workspaceId, d))

/-- One version of each row that there should be, and nothing else. -/
def History.Settled (s : History) : Prop :=
  ∀ workspaceId d, isBlankText workspaceId = false →
    (s.warehouse.versions workspaceId d).map (·.row.toMetricRow) =
      ((s.expected workspaceId d).map (·.toMetricRow)).toList

theorem perm_toList_iff {α : Type*} {l : List α} {o : Option α} :
    l.Perm o.toList ↔ l = o.toList := by
  cases o with
  | none => exact List.perm_nil
  | some a => exact List.perm_singleton

theorem exists_queryMetrics (read : List ComputedRow) {workspaceId : String} (dateRange : DateRange)
    (h : isBlankText workspaceId = false) :
    ∃ rows, queryMetrics read workspaceId dateRange = .ok rows := by
  rw [queryMetrics, if_neg (by simp [h])]
  exact ⟨_, rfl⟩

/-- What a query returns for a date, up to the order. -/
theorem filter_queryMetrics {read : List (Inserted ComputedRow)} {workspaceId : String}
    {dateRange : DateRange} {rows : List MetricRow} {d : Date}
    (h : queryMetrics (read.map (·.row)) workspaceId dateRange = .ok rows)
    (hd : dateRange.has d = true) :
    (rows.filter (·.date = d)).Perm
      ((read.filter (computedKey · = (workspaceId, d))).map (·.row.toMetricRow)) := by
  rw [queryMetrics] at h
  split at h
  · cases h
  · obtain rfl := Except.ok.inj h
    refine ((List.mergeSort_perm _ _).filter _).trans ?_
    rw [List.map_map, List.filter_map, List.filter_map, List.filter_filter]
    have hsame : read.filter (fun r => decide (r.row.date = d) &&
        decide (r.row.workspaceId = workspaceId ∧ dateRange.has r.row.date = true)) =
        read.filter (computedKey · = (workspaceId, d)) := by
      apply List.filter_congr
      intro r _
      rw [← Bool.decide_and, decide_eq_decide, computedKey, Prod.mk.injEq]
      constructor
      · rintro ⟨hdate, hws, -⟩
        exact ⟨hws, hdate⟩
      · rintro ⟨hws, hdate⟩
        exact ⟨hdate, hws, by rw [hdate]; exact hd⟩
    exact List.Perm.of_eq (congrArg (List.map fun r => r.row.toMetricRow) hsame)

/-- One of the stored versions of a date is the newest. -/
theorem mem_read_of_only {read stored : List (Inserted ComputedRow)} (h : Permitted read stored)
    {r : Inserted ComputedRow} {k : String × Date}
    (honly : stored.filter (computedKey · = k) = [r]) : r ∈ read := by
  have hr : r ∈ stored.filter (computedKey · = k) := by
    rw [honly]
    exact List.mem_cons_self
  obtain ⟨hstored, hkey⟩ := List.mem_filter.mp hr
  obtain ⟨newer, hnewer, hsame, -⟩ :
      ∃ newer ∈ newest computedKey Inserted.insertedAt stored,
        computedKey newer = computedKey r ∧ r.insertedAt ≤ newer.insertedAt :=
    exists_newest hstored
  have hmem : newer ∈ stored.filter (computedKey · = k) :=
    List.mem_filter.mpr ⟨mem_of_newest hnewer, by rw [hsame]; exact hkey⟩
  rw [honly, List.mem_singleton] at hmem
  rw [← hmem]
  exact h.2 newer hnewer

/-- Of a date with one version or none, every read finds what is stored. -/
theorem read_versions {read stored : List (Inserted ComputedRow)} (h : Permitted read stored)
    {k : String × Date} (hlength : (stored.filter (computedKey · = k)).length ≤ 1) :
    (read.filter (computedKey · = k)).Perm (stored.filter (computedKey · = k)) := by
  have hsub : (read.filter (computedKey · = k)).Subperm (stored.filter (computedKey · = k)) :=
    h.1.filter _
  apply hsub.perm_of_length_le
  cases hstored : stored.filter (computedKey · = k) with
  | nil => exact Nat.zero_le _
  | cons r rest =>
    rw [hstored, List.length_cons] at hlength
    obtain rfl : rest = [] := List.eq_nil_of_length_eq_zero (by omega)
    have hr : r ∈ stored.filter (computedKey · = k) := by
      rw [hstored]
      exact List.mem_cons_self
    exact List.length_pos_of_mem
      (List.mem_filter.mpr ⟨mem_read_of_only h hstored, (List.mem_filter.mp hr).2⟩)

/-- Reads are right when there is nothing else to be read. -/
theorem faithful_iff_settled {s : History} : s.Faithful ↔ s.Settled := by
  constructor
  · intro h workspaceId d hworkspace
    have hall : Permitted s.warehouse.computed s.warehouse.computed :=
      ⟨List.Subperm.refl _, fun _ hr => newest_sublist.mem hr⟩
    have hday := h _ hall workspaceId ⟨⟨d, d⟩, le_refl d⟩
    have hd : (⟨⟨d, d⟩, le_refl d⟩ : DateRange).has d = true :=
      Window.has_iff.mpr ⟨le_refl d, le_refl d⟩
    obtain ⟨rows, hrows⟩ := exists_queryMetrics (s.warehouse.computed.map (·.row)) ⟨⟨d, d⟩, le_refl d⟩
      hworkspace
    have hperm := filter_queryMetrics hrows hd
    rw [hday rows hrows d hd] at hperm
    exact perm_toList_iff.mp hperm.symm
  · intro h read hread workspaceId dateRange rows hrows d hd
    have hworkspace : isBlankText workspaceId = false := by
      rw [queryMetrics] at hrows
      split at hrows
      · cases hrows
      · next hworkspace => exact Bool.eq_false_iff.mpr hworkspace
    have hsettled := h workspaceId d hworkspace
    have hlength : (s.warehouse.versions workspaceId d).length ≤ 1 := by
      rw [← List.length_map (fun r => r.row.toMetricRow), hsettled]
      exact Option.length_toList_le
    refine perm_toList_iff.mp ((filter_queryMetrics hrows hd).trans ?_)
    rw [← hsettled]
    exact (read_versions hread hlength).map _

/-! ### What a recompute adds -/

section

variable {call : RecomputeCall} {w : Warehouse} {window : Window}

/-- Of a date that is covered the row of the rollup, if there is any, and of no other date. -/
theorem versions_recompute (h : call.scope w = some window) (workspaceId : String) (d : Date) :
    ((recomputeDailyMetrics call w).warehouse.versions workspaceId d).map (·.row) =
      (w.versions workspaceId d).map (·.row) ++
        if workspaceId = call.workspaceId ∧ window.has d = true
        then (call.image w window d).toList else [] := by
  rw [Warehouse.versions, computed_recompute, List.filter_append, List.map_append,
    (recompute_of_scope h).2, List.filter_map, List.map_map]
  refine congrArg _ ?_
  have hmem : ∀ row ∈ rollup w.facts (call.params window),
      row.workspaceId = call.workspaceId ∧ window.has row.date = true := fun _ => of_mem_rollup
  split
  · next hcovered =>
    have hsame : (rollup w.facts (call.params window)).filter (fun row =>
        decide (computedKey ⟨computedRow row, call.now⟩ = (workspaceId, d))) =
        (rollup w.facts (call.params window)).filter (·.date = d) := by
      apply List.filter_congr
      intro row hrow
      have hws : row.workspaceId = workspaceId := (hmem row hrow).1.trans hcovered.1.symm
      simp [computedKey, computedRow, hws]
    rw [filter_of_distinct (rollup_distinct _ _)] at hsame
    rw [RecomputeCall.image, rowOn, Option.toList_map, ← hsame]
    rfl
  · next hother =>
    rw [List.map_eq_nil_iff, List.filter_eq_nil_iff]
    intro row hrow hkey
    obtain ⟨hws, hdate⟩ := Prod.mk.inj (of_decide_eq_true hkey)
    obtain ⟨hworkspace, hwindow⟩ := hmem row hrow
    exact hother ⟨hws.symm.trans hworkspace, hdate ▸ hwindow⟩

end

/-- No date that the call covers has a computed row yet. -/
def FirstTime (s : History) : Event → Prop
  | .recompute call => ∀ window, call.scope s.warehouse = some window →
      ∀ r ∈ s.warehouse.computed, r.row.workspaceId = call.workspaceId →
        window.has r.row.date = false
  | _ => True

theorem versions_eq_nil_iff {w : Warehouse} {workspaceId : String} {d : Date} :
    w.versions workspaceId d = [] ↔
      ∀ r ∈ w.computed, r.row.workspaceId = workspaceId → r.row.date ≠ d := by
  rw [Warehouse.versions, List.filter_eq_nil_iff]
  simp [computedKey]

/-- The stored versions after a recompute, and the row that readers should get. -/
theorem settled_recompute_iff {s : History} {call : RecomputeCall} {window : Window}
    (h : call.scope s.warehouse = some window) :
    (s.step (.recompute call)).Settled ↔
      ∀ workspaceId d, isBlankText workspaceId = false →
        if workspaceId = call.workspaceId ∧ window.has d = true
        then s.warehouse.versions workspaceId d = []
        else (s.warehouse.versions workspaceId d).map (·.row.toMetricRow) =
          ((s.expected workspaceId d).map (·.toMetricRow)).toList := by
  refine forall_congr' fun workspaceId => forall_congr' fun d => imp_congr_right fun _ => ?_
  have hversions := congrArg (List.map fun row : ComputedRow => row.toMetricRow)
    (versions_recompute h workspaceId d)
  simp only [List.map_map, List.map_append] at hversions
  rw [History.step, h]
  by_cases hcovered : workspaceId = call.workspaceId ∧ window.has d = true
  · simp only [if_pos hcovered] at hversions ⊢
    have hstored : ((recomputeDailyMetrics call s.warehouse).warehouse.versions workspaceId d).map
        (·.row.toMetricRow) = _ := hversions
    rw [hstored, Option.toList_map, List.append_left_eq_self, List.map_eq_nil_iff]
  · simp only [if_neg hcovered, List.map_nil, List.append_nil] at hversions ⊢
    have hstored : ((recomputeDailyMetrics call s.warehouse).warehouse.versions workspaceId d).map
        (·.row.toMetricRow) = _ := hversions
    rw [hstored]
    rfl

theorem settled_step_iff {s : History} (hs : s.Settled) (e : Event) :
    (s.step e).Settled ↔ FirstTime s e := by
  cases e with
  | factsChange facts => exact iff_of_true hs trivial
  | freshnessChange log => exact iff_of_true hs trivial
  | recompute call =>
    cases hscope : call.scope s.warehouse with
    | none =>
      refine iff_of_true ?_ fun window hwindow => ?_
      · rw [History.step, hscope, (recompute_of_no_scope hscope).1]
        exact hs
      · rw [hscope] at hwindow
        cases hwindow
    | some window =>
      rw [settled_recompute_iff hscope]
      have hworkspace := (scope_eq_some_iff.mp hscope).1
      constructor
      · intro h window' hwindow' r hr hws
        obtain rfl := Option.some.inj (hscope.symm.trans hwindow')
        by_contra hcovered
        have hnone := h call.workspaceId r.row.date hworkspace
        rw [if_pos ⟨rfl, Bool.eq_true_of_not_eq_false hcovered⟩, versions_eq_nil_iff] at hnone
        exact hnone r hr hws rfl
      · intro h workspaceId d hnonblank
        split
        · next hcovered =>
          rw [versions_eq_nil_iff]
          rintro r hr hws rfl
          have hfalse := h window hscope r hr (hws.trans hcovered.1)
          rw [hcovered.2] at hfalse
          cases hfalse
        · exact hs workspaceId d hnonblank

theorem faithful_initial (facts : Facts) (silverFreshness : List (String × Date)) :
    (History.initial facts silverFreshness).Faithful :=
  faithful_iff_settled.mpr fun _ _ _ => rfl

/-- Readers get the rows they should in every state of a run if and only if no date is computed
again once it has a row. -/
theorem always_faithful_iff (facts : Facts) (silverFreshness : List (String × Date))
    (events : List Event) :
    Runs.Always History.step History.Faithful (History.initial facts silverFreshness) events ↔
      Runs.Allowed History.step FirstTime (History.initial facts silverFreshness) events := by
  have hstep : ∀ s e, True → s.Faithful → True → ((s.step e).Faithful ↔ FirstTime s e) := by
    intro s e _ hfaithful _
    rw [faithful_iff_settled]
    exact settled_step_iff (faithful_iff_settled.mp hfaithful) e
  exact Runs.always_iff_allowed (fun _ _ _ _ => trivial) hstep trivial
    (faithful_initial facts silverFreshness) (Runs.allowed_of_forall (fun _ _ _ => trivial) _)

/-- After the recompute of a June and the same again, readers may see its only row twice. -/
theorem recomputed_row_twice :
    ¬ (Runs.exec History.step (History.initial spendOnSecond [])
      [.recompute juneCall, .recompute juneCall]).Faithful := by
  intro h
  have hsettled := faithful_iff_settled.mp h "w" (juneDay 2) (by decide)
  have hlength := congrArg List.length hsettled
  revert hlength
  decide

end BrainV2.Metrics
