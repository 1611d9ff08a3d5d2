import BrainV2.Metrics.Recompute
import Mathlib.Data.Finset.Sort
import Mathlib.Data.String.Basic

/-!
# What guards a recompute

Replays and silver freshness:

* `Skipped`: dates that may not be written, and lie between two that may;
* `mem_scope_iff`: a replay covers the dates that may be written, and these;
* `replay_fresh_iff`: these are what a replay writes too much.

The multi-currency guard:

* `checkMultiCurrencyGuard`: whether a workspace's margins may be computed;
* `windowCurrencies`: the currency codes of the orders of a window;
* `rulingG_iff`: when a recompute behaves as if the guard had been asked.
-/

namespace BrainV2.Metrics

open Py (Date PyExc ExcClass reprStr)

/-! ### Replays -/

section

variable {call : RecomputeCall} {w : Warehouse} {d : Date}

/-- A call in replay mode. -/
def RecomputeCall.asReplay (call : RecomputeCall) (replayRunId : String) : RecomputeCall :=
  { call with replayRunId := some replayRunId }

def Warehouse.fresh (w : Warehouse) (call : RecomputeCall) : List Date :=
  gateGoldRecompute w.silverFreshness call.workspaceId call.window

theorem mem_fresh : d ∈ w.fresh call ↔
    (call.workspaceId, d) ∈ w.silverFreshness ∧ call.window.has d = true := by
  rw [Warehouse.fresh, gateGoldRecompute, List.mem_mergeSort, List.mem_dedup, List.mem_map]
  constructor
  · rintro ⟨⟨workspace, date⟩, hmem, rfl⟩
    obtain ⟨hmem, hboth⟩ := List.mem_filter.mp hmem
    obtain ⟨rfl, hwindow⟩ := of_decide_eq_true hboth
    exact ⟨hmem, hwindow⟩
  · rintro ⟨hmem, hwindow⟩
    exact ⟨(call.workspaceId, d), List.mem_filter.mpr ⟨hmem, decide_eq_true ⟨rfl, hwindow⟩⟩, rfl⟩

/-- The first of the dates and the last. -/
theorem replayWindow_eq_some {freshDates : List Date} {window : Window}
    (h : replayWindow freshDates = some window) :
    window.start ∈ freshDates ∧ window.stop ∈ freshDates ∧ ∀ d ∈ freshDates, window.has d = true := by
  rw [replayWindow] at h
  split at h
  · next start stop hmin hmax =>
    obtain rfl := Option.some.inj h
    obtain ⟨hstart, hleast⟩ := List.min?_eq_some_iff.mp hmin
    obtain ⟨hstop, hgreatest⟩ := List.max?_eq_some_iff.mp hmax
    exact ⟨hstart, hstop, fun d hd => Window.has_iff.mpr ⟨hleast d hd, hgreatest d hd⟩⟩
  · cases h

theorem replayWindow_eq_none {freshDates : List Date} (h : replayWindow freshDates = none) :
    freshDates = [] := by
  cases freshDates with
  | nil => rfl
  | cons d dates => simp [replayWindow] at h

/-- A date without fresh silver, between two of the window that have it. -/
def Skipped (call : RecomputeCall) (w : Warehouse) (d : Date) : Prop :=
  (call.workspaceId, d) ∉ w.silverFreshness ∧
    ∃ first ∈ w.fresh call, ∃ last ∈ w.fresh call, first < d ∧ d < last

/-- What a replay covers: the fresh dates, and the skipped ones between them. -/
theorem mem_scope_iff {replayRunId : String} {window : Window}
    (h : (call.asReplay replayRunId).scope w = some window) :
    window.has d = true ↔ d ∈ w.fresh call ∨ Skipped call w d := by
  have hwindow : replayWindow (w.fresh call) = some window := (scope_eq_some_iff.mp h).2
  obtain ⟨hstart, hstop, hall⟩ := replayWindow_eq_some hwindow
  constructor
  · intro hd
    obtain ⟨hfirst, hlast⟩ := Window.has_iff.mp hd
    by_cases hfresh : (call.workspaceId, d) ∈ w.silverFreshness
    · have hcall : call.window.has d = true := Window.has_iff.mpr
        ⟨(Window.has_iff.mp (mem_fresh.mp hstart).2).1.trans hfirst,
          hlast.trans (Window.has_iff.mp (mem_fresh.mp hstop).2).2⟩
      exact .inl (mem_fresh.mpr ⟨hfresh, hcall⟩)
    · have hne : ∀ date ∈ w.fresh call, date ≠ d := by
        rintro date hdate rfl
        exact hfresh (mem_fresh.mp hdate).1
      exact .inr ⟨hfresh, window.start, hstart, window.stop, hstop,
        lt_of_le_of_ne hfirst (hne _ hstart), lt_of_le_of_ne hlast (hne _ hstop).symm⟩
  · rintro (hfresh | ⟨-, first, hfirst, last, hlast, hlow, hhigh⟩)
    · exact hall d hfresh
    · exact Window.has_iff.mpr ⟨(Window.has_iff.mp (hall first hfirst)).1.trans hlow.le,
        hhigh.le.trans (Window.has_iff.mp (hall last hlast)).2⟩

/-- A replay writes on fresh silver alone if and only if there is nothing to delete or to insert on
the dates it should skip. -/
theorem replay_fresh_iff (call : RecomputeCall) (replayRunId : String) (w : Warehouse) :
    (∀ d, Touches (call.asReplay replayRunId) w d → (call.workspaceId, d) ∈ w.silverFreshness) ↔
      isBlankText call.workspaceId = true ∨ ∀ d, Skipped call w d →
        (∀ r ∈ w.base, r.row.workspaceId = call.workspaceId → r.row.date ≠ d) ∧
        ¬ w.facts.Active call.workspaceId d := by
  cases hscope : (call.asReplay replayRunId).scope w with
  | none =>
    have hleft : ∀ d, ¬ Touches (call.asReplay replayRunId) w d := by
      obtain ⟨-, hdeleted, hinserted⟩ := recompute_of_no_scope hscope
      intro d
      rw [Touches, hdeleted, hinserted]
      simp
    refine iff_of_true (fun d hd => absurd hd (hleft d)) ?_
    cases scope_eq_none_iff.mp hscope with
    | inl hblank => exact .inl hblank
    | inr hwindow =>
      right
      rintro d ⟨-, first, hfirst, -⟩
      have hnone : w.fresh call = [] := replayWindow_eq_none hwindow
      rw [hnone] at hfirst
      cases hfirst
  | some window =>
    have hworkspace : isBlankText call.workspaceId = false := (scope_eq_some_iff.mp hscope).1
    rw [or_iff_right (Bool.not_eq_true _ ▸ hworkspace)]
    constructor
    · intro h d hskip
      have hwindow := (mem_scope_iff hscope).mpr (.inr hskip)
      have htouch : ¬ Touches (call.asReplay replayRunId) w d := fun htouch => hskip.1 (h d htouch)
      rw [touches_iff hscope] at htouch
      constructor
      · intro r hr hws hdate
        exact htouch ⟨hwindow, .inl ⟨r, hr, hws, hdate⟩⟩
      · intro hactive
        exact htouch ⟨hwindow, .inr hactive⟩
    · intro h d htouch
      obtain ⟨hwindow, hrows⟩ := (touches_iff hscope).mp htouch
      cases (mem_scope_iff hscope).mp hwindow with
      | inl hfresh => exact (mem_fresh.mp hfresh).1
      | inr hskip =>
        obtain ⟨hbase, hactive⟩ := h d hskip
        cases hrows with
        | inl hrow =>
          obtain ⟨r, hr, hws, hdate⟩ := hrow
          exact absurd hdate (hbase r hr hws)
        | inr hact => exact absurd hact hactive

/-! ### A date left out -/

/-- Silver is fresh on the first and the third. -/
def halfFresh : Warehouse := ⟨spendOnSecond, [("w", juneDay 1), ("w", juneDay 3)], [], []⟩

/-- The second is written with the others. -/
theorem stale_date_written :
    ¬ ∀ d, Touches (juneCall.asReplay "replay-1") halfFresh d →
      ("w", d) ∈ halfFresh.silverFreshness := by
  intro h
  have hfirst : juneDay 1 ∈ halfFresh.fresh juneCall := mem_fresh.mpr (by decide)
  have hlast : juneDay 3 ∈ halfFresh.fresh juneCall := mem_fresh.mpr (by decide)
  have hskip : Skipped juneCall halfFresh (juneDay 2) :=
    ⟨by decide, juneDay 1, hfirst, juneDay 3, hlast, by decide, by decide⟩
  have htouch : Touches (juneCall.asReplay "replay-1") halfFresh (juneDay 2) := by
    cases hscope : (juneCall.asReplay "replay-1").scope halfFresh with
    | none =>
      have hnone : halfFresh.fresh juneCall = [] := replayWindow_eq_none hscope
      rw [hnone] at hfirst
      cases hfirst
    | some window =>
      exact (touches_iff hscope).mpr ⟨(mem_scope_iff hscope).mpr (.inr hskip), by decide⟩
  exact absurd (h _ htouch) (by decide)

end

/-! ### The multi-currency guard -/

/-- Raised for a workspace whose margins are blocked. -/
def multiCurrencyBlockedError : ExcClass := .other "MultiCurrencyBlockedError" true

structure GuardResult where
  workspaceId : String
  blocked : Bool
  reason : Option String
  currencies : Finset String
deriving DecidableEq

def reprText (text : String) : String := String.ofList (reprStr text)

/-- The flag of the workspace is set. -/
def flaggedReason (workspaceId : String) : String :=
  "workspace " ++ reprText workspaceId ++ " has multi_currency_blocked=True " ++
    "(set by migration 34 / nightly currency-drift check). " ++
    "CM metrics are BLOCKED_MULTICURRENCY until resolved. " ++
    "Ruling G: do not sum money across currencies."

/-- There are orders in several currencies. -/
def mixedReason (workspaceId : String) (currencies : Finset String) : String :=
  "workspace " ++ reprText workspaceId ++ " has orders in " ++ toString currencies.card ++
    " distinct currencies: [" ++ ", ".intercalate (currencies.sort (· ≤ ·)) ++ "]. " ++
    "CM metrics are BLOCKED_MULTICURRENCY — summing across currencies " ++
    "produces arithmetically invalid CM1/CM2/CM3. " ++
    "Ruling G: multi-currency CM guard (epic-warehouse-medallion-wiring P1-A)."

/-- A blocked workspace, as a result or raised. -/
def blockedBy (workspaceId reason : String) (currencies : Finset String) (raiseOnBlocked : Bool) :
    Except PyExc GuardResult :=
  if raiseOnBlocked then
    .error ⟨multiCurrencyBlockedError,
      "BLOCKED_MULTICURRENCY: workspace=" ++ reprText workspaceId ++ ". " ++ reason⟩
  else .ok ⟨workspaceId, true, some reason, currencies⟩

def checkMultiCurrencyGuard (workspaceId : String) (currencyCodes : Finset String)
    (multiCurrencyBlockedFlag raiseOnBlocked : Bool) : Except PyExc GuardResult :=
  let currencies := currencyCodes.filter (· ≠ "")
  if multiCurrencyBlockedFlag then
    blockedBy workspaceId (flaggedReason workspaceId) currencies raiseOnBlocked
  else if 1 < currencies.card then
    blockedBy workspaceId (mixedReason workspaceId currencies) currencies raiseOnBlocked
  else .ok ⟨workspaceId, false, none, currencies⟩

/-- The codes that the guard's caller is to look up. -/
def currencyCodes (orders : List OrderFact) (workspaceId : String) : Finset String :=
  ((orders.filter fun o => o.workspaceId = workspaceId ∧ o.currencyCode ≠ "").map
    (·.currencyCode)).toFinset

def windowCurrencies (facts : Facts) (workspaceId : String) (window : Window) : Finset String :=
  currencyCodes (facts.orders.filter fun o => window.has o.orderDate) workspaceId

section

variable {workspaceId : String} {codes : Finset String} {flag raiseOnBlocked : Bool}

theorem blockedBy_not_passed {reason : String} {result : GuardResult}
    (h : blockedBy workspaceId reason codes raiseOnBlocked = .ok result) : result.blocked = true := by
  rw [blockedBy] at h
  split at h
  · cases h
  · obtain rfl := Except.ok.inj h
    rfl

/-- The guard lets a workspace pass that is not flagged and has one currency at most. -/
theorem guard_passes_iff :
    (∃ result, checkMultiCurrencyGuard workspaceId codes flag raiseOnBlocked = .ok result ∧
      result.blocked = false) ↔ flag = false ∧ (codes.filter (· ≠ "")).card ≤ 1 := by
  rw [checkMultiCurrencyGuard]
  cases flag with
  | true =>
    refine iff_of_false ?_ nofun
    rintro ⟨result, hresult, hpassed⟩
    rw [blockedBy_not_passed hresult] at hpassed
    cases hpassed
  | false =>
    simp only [Bool.false_eq_true, if_false, true_and]
    split
    · next hmixed =>
      refine iff_of_false ?_ (Nat.not_le_of_lt hmixed)
      rintro ⟨result, hresult, hpassed⟩
      rw [blockedBy_not_passed hresult] at hpassed
      cases hpassed
    · next hone => exact iff_of_true ⟨_, rfl, rfl⟩ (Nat.le_of_not_lt hone)

theorem currencyCodes_filter (orders : List OrderFact) (p : OrderFact → Bool) :
    ((currencyCodes (orders.filter p) workspaceId).filter (· ≠ "")).card ≤
      (currencyCodes orders workspaceId).card := by
  apply Finset.card_le_card
  intro code hcode
  rw [Finset.mem_filter, currencyCodes, List.mem_toFinset, List.mem_map] at hcode
  obtain ⟨⟨o, ho, rfl⟩, -⟩ := hcode
  obtain ⟨hmem, hcond⟩ := List.mem_filter.mp ho
  rw [currencyCodes, List.mem_toFinset]
  exact List.mem_map_of_mem (List.mem_filter.mpr ⟨List.mem_of_mem_filter hmem, hcond⟩)

end

/-! ### Recomputes -/

section

variable {call : RecomputeCall} {w : Warehouse}

/-- A recompute raises for a blank workspace only. -/
theorem recompute_error {e : PyExc} (h : (recomputeDailyMetrics call w).result = .error e) :
    e = emptyWorkspace := by
  rw [recomputeDailyMetrics] at h
  split at h
  · exact (Except.error.inj h).symm
  · split at h
    · cases h
    · cases h

theorem inserted_eq_nil_iff :
    (recomputeDailyMetrics call w).inserted = [] ↔
      ∀ window, call.scope w = some window → ∀ d, window.has d = true →
        ¬ w.facts.Active call.workspaceId d := by
  cases hscope : call.scope w with
  | none => exact iff_of_true (recompute_of_no_scope hscope).2.2 nofun
  | some window =>
    have hspine : rollup w.facts (call.params window) = [] ↔
        dateSpine w.facts (call.params window) = [] := by
      rw [← dates_rollup, List.map_eq_nil_iff]
    rw [(recompute_of_scope hscope).2, hspine, List.eq_nil_iff_forall_not_mem]
    simp only [mem_dateSpine_iff_active, not_and, Option.some.injEq, forall_eq']
    rfl

end

/-- What ruling G wants of a recompute and its guard. The flag is set when a workspace has orders in
more than one currency. -/
structure RulingG (call : RecomputeCall) (w : Warehouse) (multiCurrencyBlocked : Bool) : Prop where
  mixed : 2 ≤ (windowCurrencies w.facts call.workspaceId call.window).card →
    (∃ e, (recomputeDailyMetrics call w).result = .error e ∧ e.cls = multiCurrencyBlockedError) ∨
      (recomputeDailyMetrics call w).inserted = []
  single : (multiCurrencyBlocked = true → 2 ≤ (currencyCodes w.facts.orders call.workspaceId).card) →
    (currencyCodes w.facts.orders call.workspaceId).card ≤ 1 → ∀ raiseOnBlocked,
      ∃ result, checkMultiCurrencyGuard call.workspaceId
        (windowCurrencies w.facts call.workspaceId call.window) multiCurrencyBlocked
        raiseOnBlocked = .ok result ∧ result.blocked = false

/-- Of one day, an order in rupees and one in dirhams. -/
def mixedFacts : Facts where
  orders := [⟨"w", "shopify", "1", juneDay 1, 500, 0, 0, 0, "INR", "COD", "paid", none, 1⟩,
    ⟨"w", "shopify", "2", juneDay 1, 700, 0, 0, 0, "AED", "COD", "paid", none, 1⟩]
  lineItems := []
  products := []
  adSpend := []
  shipments := []

end BrainV2.Metrics
