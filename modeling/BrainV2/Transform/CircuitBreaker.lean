import BrainV2.Lib.Dict
import BrainV2.Lib.Runs
import BrainV2.Py.Values
import Mathlib.Logic.Function.Basic

/-!
# The circuit breaker

One cell for each (workspace, vendor). Times are readings of the monotonic
clock, in nanoseconds.

* `BreakerCell`: an open cell always knows when it opened;
* `isOpen`, `recordFailure`, `recordSuccess`: what the consumer calls;
* `isOpen_of_open`: an open cell rejects until the recovery time is over, and
  then lets a probe through.

Its invariant:

* `circuitMetricKey`, `circuitMetricKey_inj`: the name of a pair's metric, which is its own;
* `Breaker`, `step`: the cells with their metrics, and a call of one of the three methods;
* `CellRight`, `CallRight`: what a state should be, and what a call may do;
* `Inv`, `step_inv`: the invariant;
* `breaker_right`.
-/

namespace BrainV2.Transform

inductive CircuitState where
  | closed
  | open_
  | halfOpen
deriving DecidableEq

/-- State for one (workspace, vendor) pair. -/
structure BreakerCell where
  state : CircuitState
  consecutiveFailures : Nat
  openedAt : Option Int
  openedAt_isSome : state = .open_ → openedAt.isSome = true

structure BreakerConfig where
  failureThreshold : Nat
  recovery : Int

/-- The defaults: five failures, sixty seconds. -/
def BreakerConfig.default : BreakerConfig := ⟨5, 60000000000⟩

namespace BreakerCell

def new : BreakerCell := ⟨.closed, 0, none, by decide⟩

def onProbation (cell : BreakerCell) : BreakerCell :=
  ⟨.halfOpen, cell.consecutiveFailures, cell.openedAt, by simp⟩

/-- An open cell lets one probe through once the recovery time is over. -/
def isOpen (config : BreakerConfig) (now : Int) (cell : BreakerCell) : Bool × BreakerCell :=
  match h : cell.state with
  | .closed => (false, cell)
  | .halfOpen => (false, cell)
  | .open_ =>
    if config.recovery ≤ now - cell.openedAt.get (cell.openedAt_isSome h) then
      (false, cell.onProbation)
    else (true, cell)

def opened (failures : Nat) (now : Int) : BreakerCell := ⟨.open_, failures, some now, fun _ => rfl⟩

def recordFailure (config : BreakerConfig) (now : Int) (cell : BreakerCell) : BreakerCell :=
  if cell.state = .halfOpen then opened cell.consecutiveFailures now
  else if config.failureThreshold ≤ cell.consecutiveFailures + 1 then
    opened (cell.consecutiveFailures + 1) now
  else { cell with consecutiveFailures := cell.consecutiveFailures + 1 }

def recordSuccess (_cell : BreakerCell) : BreakerCell := new

end BreakerCell

/-- (workspace_id, vendor) -/
abbrev BreakerKey := String × String

/-- A pair that was never seen has a new cell. -/
abbrev CircuitBreaker := BreakerKey → BreakerCell

namespace CircuitBreaker

def new : CircuitBreaker := fun _ => .new

def isOpen (config : BreakerConfig) (now : Int) (cells : CircuitBreaker) (key : BreakerKey) :
    Bool × CircuitBreaker :=
  let (answer, cell) := (cells key).isOpen config now
  (answer, Function.update cells key cell)

def recordFailure (config : BreakerConfig) (now : Int) (cells : CircuitBreaker)
    (key : BreakerKey) : CircuitBreaker :=
  Function.update cells key ((cells key).recordFailure config now)

def recordSuccess (cells : CircuitBreaker) (key : BreakerKey) : CircuitBreaker :=
  Function.update cells key (cells key).recordSuccess

end CircuitBreaker

namespace BreakerCell

variable {config : BreakerConfig} {now : Int} {cell : BreakerCell}

theorem isOpen_closed (h : cell.state = .closed) : cell.isOpen config now = (false, cell) := by
  unfold isOpen
  split
  · rfl
  · rfl
  · simp_all

theorem isOpen_halfOpen (h : cell.state = .halfOpen) : cell.isOpen config now = (false, cell) := by
  unfold isOpen
  split
  · rfl
  · rfl
  · simp_all

theorem isOpen_of_open {t : Int} (h : cell.state = .open_) (ht : cell.openedAt = some t) :
    cell.isOpen config now =
      if config.recovery ≤ now - t then (false, cell.onProbation) else (true, cell) := by
  unfold isOpen
  split
  · simp_all
  · simp_all
  · simp only [ht, Option.get_some]

/-- A cell that rejects stays as it is. -/
theorem isOpen_rejects (h : (cell.isOpen config now).1 = true) :
    (cell.isOpen config now).2 = cell := by
  cases hs : cell.state with
  | closed => rw [isOpen_closed hs]
  | halfOpen => rw [isOpen_halfOpen hs]
  | open_ =>
    obtain ⟨t, ht⟩ := Option.isSome_iff_exists.mp (cell.openedAt_isSome hs)
    rw [isOpen_of_open hs ht] at h ⊢
    split at h
    · cases h
    · rename_i hnot
      rw [if_neg hnot]

theorem recordFailure_halfOpen (h : cell.state = .halfOpen) :
    cell.recordFailure config now = opened cell.consecutiveFailures now := by
  simp [recordFailure, h]

theorem recordFailure_closed (h : cell.state = .closed) :
    cell.recordFailure config now =
      if config.failureThreshold ≤ cell.consecutiveFailures + 1 then
        opened (cell.consecutiveFailures + 1) now
      else { cell with consecutiveFailures := cell.consecutiveFailures + 1 } := by
  simp [recordFailure, h]

end BreakerCell

open Py (reprChar)

/-! ### The name of a metric -/

/-- `_circuit_metric`: the key -/
def circuitMetricKey (key : BreakerKey) : String :=
  "transform_circuit_open\x7bworkspace_id=" ++ String.ofList (Py.reprStr key.1) ++ ",vendor=" ++
    String.ofList (Py.reprStr key.2) ++ "\x7d"

/-- The character that a `repr` begins with, read back. -/
def readChar : List Char → Option (Char × List Char)
  | [] => none
  | '\\' :: 't' :: cs => some ('\t', cs)
  | '\\' :: 'n' :: cs => some ('\n', cs)
  | '\\' :: 'r' :: cs => some ('\r', cs)
  | '\\' :: 'x' :: high :: low :: cs => do
    let h ← Json.hexValue high
    let l ← Json.hexValue low
    some (Char.ofNat (16 * h + l), cs)
  | '\\' :: c :: cs => some (c, cs)
  | c :: cs => some (c, cs)

section

variable {quote : Char} (hquote : quote = '\'' ∨ quote = '"')

include hquote

theorem readChar_reprChar (c : Char) (cs : List Char) :
    readChar (reprChar quote c ++ cs) = some (c, cs) := by
  unfold reprChar
  split
  · next h =>
    rcases h with rfl | rfl
    · rcases hquote with rfl | rfl <;> rfl
    · rfl
  · next h =>
    obtain ⟨-, hback⟩ := not_or.mp h
    split
    · next ht => rw [ht]; rfl
    · split
      · next hn => rw [hn]; rfl
      · split
        · next hr => rw [hr]; rfl
        · split
          · next hsmall =>
            have hhigh := Json.hexValue_hexDigit (c.toNat / 16) (by omega)
            have hlow := Json.hexValue_hexDigit (c.toNat % 16) (by omega)
            simp only [List.cons_append, List.nil_append, readChar, hhigh, hlow]
            exact congrArg (fun d => some (d, cs)) (by
              rw [Nat.div_add_mod, Char.ofNat_toNat])
          · rw [List.cons_append, List.nil_append, readChar.eq_def]
            split <;> simp_all

/-- No character is written with a quote in front. -/
theorem reprChar_head (c : Char) (cs ds : List Char) : reprChar quote c ++ cs ≠ quote :: ds := by
  intro h
  have hread := readChar_reprChar hquote c cs
  have hread' : readChar (quote :: ds) = some (quote, ds) := by
    rcases hquote with rfl | rfl <;> rfl
  rw [h, hread'] at hread
  obtain ⟨rfl, rfl⟩ := Prod.mk.inj (Option.some.inj hread)
  have hself : reprChar quote quote = ['\\', quote] := if_pos (.inl rfl)
  rw [hself] at h
  exact absurd (congrArg List.length h) (by simp)

/-- A quoted text ends at its quote. -/
theorem repr_append_inj {cs ds u v : List Char}
    (h : cs.flatMap (reprChar quote) ++ quote :: u = ds.flatMap (reprChar quote) ++ quote :: v) :
    cs = ds ∧ u = v := by
  induction cs generalizing ds with
  | nil =>
    cases ds with
    | nil => exact ⟨rfl, (List.cons.inj h).2⟩
    | cons d ds =>
      rw [List.flatMap_cons, List.append_assoc] at h
      exact absurd h.symm (reprChar_head hquote d _ u)
  | cons c cs ih =>
    cases ds with
    | nil =>
      rw [List.flatMap_cons, List.append_assoc] at h
      exact absurd h (reprChar_head hquote c _ v)
    | cons d ds =>
      rw [List.flatMap_cons, List.flatMap_cons, List.append_assoc, List.append_assoc] at h
      have hread := readChar_reprChar hquote c (cs.flatMap (reprChar quote) ++ quote :: u)
      rw [h, readChar_reprChar hquote] at hread
      obtain ⟨rfl, hrest⟩ := Prod.mk.inj (Option.some.inj hread)
      obtain ⟨rfl, rfl⟩ := ih hrest.symm
      exact ⟨rfl, rfl⟩

end

theorem reprStr_append_inj {s t : String} {u v : List Char} (h : Py.reprStr s ++ u = Py.reprStr t ++ v) :
    s = t ∧ u = v := by
  have hquote : ∀ s : String, ∃ quote, (quote = '\'' ∨ quote = '"') ∧
      Py.reprStr s = quote :: (s.toList.flatMap (reprChar quote) ++ [quote]) := by
    intro s
    refine ⟨_, ?_, rfl⟩
    split
    · exact .inr rfl
    · exact .inl rfl
  obtain ⟨q, hq, hs⟩ := hquote s
  obtain ⟨q', -, ht⟩ := hquote t
  rw [hs, ht, List.cons_append, List.cons_append, List.append_assoc, List.append_assoc] at h
  obtain ⟨rfl, htail⟩ := List.cons.inj h
  obtain ⟨hlist, hrest⟩ := repr_append_inj hq htail
  exact ⟨String.toList_injective hlist, hrest⟩

theorem circuitMetricKey_inj {key key' : BreakerKey}
    (h : circuitMetricKey key = circuitMetricKey key') : key = key' := by
  unfold circuitMetricKey at h
  generalize "transform_circuit_open\x7bworkspace_id=" = opening at h
  generalize ",vendor=" = middle at h
  have hlist := congrArg String.toList h
  simp only [String.toList_append, String.toList_ofList, List.append_assoc] at hlist
  obtain ⟨hworkspace, hrest⟩ := reprStr_append_inj (List.append_cancel_left hlist)
  exact Prod.ext hworkspace (reprStr_append_inj (List.append_cancel_left hrest)).1

/-! ### The breaker with its metrics -/

/-- A breaker in its process. -/
structure Breaker where
  cells : CircuitBreaker
  /-- `_CIRCUIT_COUNTERS` -/
  counters : List (String × Nat)
  /-- The last reading of the clock. -/
  now : Int
  /-- When each pair was opened last. -/
  lastOpening : BreakerKey → Option Int

namespace Breaker

def initial (start : Int) : Breaker where
  cells := .new
  counters := []
  now := start
  lastOpening := fun _ => none

def metric (s : Breaker) (key : BreakerKey) : Option Nat := s.counters.lookup (circuitMetricKey key)

def circuitMetric (counters : List (String × Nat)) (key : BreakerKey) (isOpen : Bool) :
    List (String × Nat) :=
  Dict.set counters (circuitMetricKey key) (if isOpen then 1 else 0)

/-- A failure opens the circuit: a probe that fails, or the last one below the threshold. -/
def opens (config : BreakerConfig) (cell : BreakerCell) : Bool :=
  cell.state = .halfOpen ∨ config.failureThreshold ≤ cell.consecutiveFailures + 1

inductive Method where
  | isOpen
  | recordFailure
  | recordSuccess
deriving DecidableEq

structure Call where
  method : Method
  key : BreakerKey
  now : Int

/-- What `is_open` answers. -/
def answer (config : BreakerConfig) (s : Breaker) (c : Call) : Bool :=
  (s.cells.isOpen config c.now c.key).1

def step (config : BreakerConfig) (s : Breaker) (c : Call) : Breaker :=
  match c.method with
  | .isOpen => { s with cells := (s.cells.isOpen config c.now c.key).2, now := c.now }
  | .recordFailure =>
    let opening := opens config (s.cells c.key)
    { cells := s.cells.recordFailure config c.now c.key
      counters := if opening then circuitMetric s.counters c.key true else s.counters
      now := c.now
      lastOpening :=
        if opening then Function.update s.lastOpening c.key (some c.now) else s.lastOpening }
  | .recordSuccess =>
    { s with
      cells := s.cells.recordSuccess c.key
      counters :=
        if (s.cells c.key).state ≠ .closed then circuitMetric s.counters c.key false else s.counters
      now := c.now }

/-! ### What the breaker should be -/

structure CellRight (config : BreakerConfig) (s : Breaker) (key : BreakerKey) : Prop where
  opened : (s.cells key).state = .open_ → (s.cells key).openedAt ≠ none
  closed : (s.cells key).state = .closed →
    (s.cells key).consecutiveFailures < config.failureThreshold ∧ (s.cells key).openedAt = none
  /-- The metric, once written, is 1 exactly while the state is not closed. -/
  metric : ∀ value, s.metric key = some value →
    value = if (s.cells key).state = .closed then 0 else 1
  written : (s.cells key).state ≠ .closed → s.metric key ≠ none

structure CallRight (config : BreakerConfig) (s : Breaker) (c : Call) : Prop where
  /-- Events are turned away only for the recovery time after the last opening. -/
  recent : c.method = .isOpen → answer config s c = true →
    ∃ t, s.lastOpening c.key = some t ∧ t ≤ c.now ∧ c.now - t < config.recovery
  others : ∀ key, key ≠ c.key → (step config s c).cells key = s.cells key ∧
    (step config s c).metric key = s.metric key

/-! ### The invariant -/

/-- A pair, with its last opening in its cell while it is not closed. -/
structure PairInv (config : BreakerConfig) (cell : BreakerCell) (metric : Option Nat) (now : Int)
    (lastOpening : Option Int) : Prop where
  closed : cell.state = .closed →
    cell.consecutiveFailures < config.failureThreshold ∧ cell.openedAt = none ∧ metric ≠ some 1
  notClosed : cell.state ≠ .closed → cell.openedAt = lastOpening ∧ metric = some 1
  bounded : ∀ value ∈ metric, value ≤ 1
  past : ∀ t ∈ lastOpening, t ≤ now

def Inv (config : BreakerConfig) (s : Breaker) : Prop :=
  ∀ key, PairInv config (s.cells key) (s.metric key) s.now (s.lastOpening key)

section

variable {config : BreakerConfig} {s : Breaker} {c : Call} {cell : BreakerCell}
  {value : Option Nat} {now now' : Int} {last : Option Int}

theorem PairInv.later (h : PairInv config cell value now last) (hle : now ≤ now') :
    PairInv config cell value now' last :=
  ⟨h.closed, h.notClosed, h.bounded, fun t ht => le_trans (h.past t ht) hle⟩

/-- A probe is let through with the metric as it is. -/
theorem PairInv.isOpen (h : PairInv config cell value now last) (hle : now ≤ now') :
    PairInv config (cell.isOpen config now').2 value now' last := by
  cases hstate : cell.state with
  | closed =>
    rw [BreakerCell.isOpen_closed hstate]
    exact h.later hle
  | halfOpen =>
    rw [BreakerCell.isOpen_halfOpen hstate]
    exact h.later hle
  | open_ =>
    obtain ⟨t, ht⟩ := Option.isSome_iff_exists.mp (cell.openedAt_isSome hstate)
    have hopen := h.notClosed (by rw [hstate]; decide)
    rw [BreakerCell.isOpen_of_open hstate ht]
    split
    · exact ⟨fun hclosed => CircuitState.noConfusion hclosed, fun _ => hopen, h.bounded,
        (h.later hle).past⟩
    · exact h.later hle

theorem recordFailure_of_opens (now : Int) (h : opens config cell = true) : ∃ failures,
    cell.recordFailure config now = .opened failures now := by
  rcases of_decide_eq_true h with hprobe | hthreshold
  · exact ⟨_, BreakerCell.recordFailure_halfOpen hprobe⟩
  · unfold BreakerCell.recordFailure
    rw [if_pos hthreshold]
    split
    · exact ⟨_, rfl⟩
    · exact ⟨_, rfl⟩

theorem recordFailure_of_not_opens (now : Int) (h : opens config cell = false) :
    cell.recordFailure config now =
      { cell with consecutiveFailures := cell.consecutiveFailures + 1 } ∧
      cell.consecutiveFailures + 1 < config.failureThreshold := by
  obtain ⟨hprobe, hthreshold⟩ := not_or.mp (of_decide_eq_false h)
  exact ⟨by rw [BreakerCell.recordFailure, if_neg hprobe, if_neg hthreshold],
    Nat.not_le.mp hthreshold⟩

theorem PairInv.opened {failures : Nat} :
    PairInv config (.opened failures now) (some 1) now (some now) where
  closed := fun h => CircuitState.noConfusion h
  notClosed := fun _ => ⟨rfl, rfl⟩
  bounded := by simp
  past := by simp

theorem PairInv.counted (h : PairInv config cell value now last) (hle : now ≤ now')
    (hopens : opens config cell = false) :
    PairInv config (cell.recordFailure config now') value now' last := by
  obtain ⟨hcell, hcount⟩ := recordFailure_of_not_opens now' hopens
  rw [hcell]
  exact ⟨fun hclosed => ⟨hcount, (h.closed hclosed).2⟩, h.notClosed, h.bounded, (h.later hle).past⟩

theorem PairInv.new (hthreshold : 1 ≤ config.failureThreshold) (hvalue : value ≠ some 1)
    (hbounded : ∀ v ∈ value, v ≤ 1) (hpast : ∀ t ∈ last, t ≤ now) :
    PairInv config .new value now last where
  closed := fun _ => ⟨hthreshold, rfl, hvalue⟩
  notClosed := fun h => absurd rfl h
  bounded := hbounded
  past := hpast

theorem metric_circuitMetric (counters : List (String × Nat)) (key : BreakerKey) (isOpen : Bool) :
    (circuitMetric counters key isOpen).lookup (circuitMetricKey key) =
      some (if isOpen then 1 else 0) :=
  Dict.lookup_set_self _ _ _

theorem metric_circuitMetric_of_ne (counters : List (String × Nat)) {key other : BreakerKey}
    (h : other ≠ key) (isOpen : Bool) :
    (circuitMetric counters key isOpen).lookup (circuitMetricKey other) =
      counters.lookup (circuitMetricKey other) :=
  Dict.lookup_set_ne _ _ fun heq => h (circuitMetricKey_inj heq)

/-- A call leaves the other pairs alone. -/
theorem step_others (config : BreakerConfig) (s : Breaker) (c : Call) {key : BreakerKey}
    (h : key ≠ c.key) : (step config s c).cells key = s.cells key ∧
      (step config s c).metric key = s.metric key ∧
      (step config s c).lastOpening key = s.lastOpening key := by
  unfold step
  cases c.method with
  | isOpen => exact ⟨Function.update_of_ne h _ _, rfl, rfl⟩
  | recordFailure =>
    refine ⟨Function.update_of_ne h _ _, ?_, ?_⟩
    · unfold metric
      dsimp only
      split
      · exact metric_circuitMetric_of_ne _ h true
      · rfl
    · dsimp only
      split
      · exact Function.update_of_ne h _ _
      · rfl
  | recordSuccess =>
    refine ⟨Function.update_of_ne h _ _, ?_, rfl⟩
    unfold metric
    dsimp only
    split
    · exact metric_circuitMetric_of_ne _ h false
    · rfl

theorem step_now (config : BreakerConfig) (s : Breaker) (c : Call) :
    (step config s c).now = c.now := by
  unfold step
  cases c.method <;> rfl

/-- A call keeps the pair it is about. -/
theorem step_self (hthreshold : 1 ≤ config.failureThreshold) (hclock : s.now ≤ c.now)
    (h : PairInv config (s.cells c.key) (s.metric c.key) s.now (s.lastOpening c.key)) :
    PairInv config ((step config s c).cells c.key) ((step config s c).metric c.key) c.now
      ((step config s c).lastOpening c.key) := by
  unfold step
  cases c.method with
  | isOpen =>
    dsimp only [CircuitBreaker.isOpen]
    rw [Function.update_self]
    exact h.isOpen hclock
  | recordFailure =>
    dsimp only [CircuitBreaker.recordFailure, metric]
    rw [Function.update_self]
    by_cases hopens : opens config (s.cells c.key) = true
    · obtain ⟨failures, hcell⟩ := recordFailure_of_opens c.now hopens
      rw [if_pos hopens, if_pos hopens, metric_circuitMetric, Function.update_self, hcell]
      exact PairInv.opened
    · rw [if_neg hopens, if_neg hopens]
      exact h.counted hclock (Bool.not_eq_true _ ▸ hopens)
  | recordSuccess =>
    dsimp only [CircuitBreaker.recordSuccess, metric]
    rw [Function.update_self, BreakerCell.recordSuccess]
    by_cases hclosed : (s.cells c.key).state = .closed
    · rw [if_neg (not_not.mpr hclosed)]
      exact .new hthreshold (h.closed hclosed).2.2 h.bounded (h.later hclock).past
    · rw [if_pos hclosed, metric_circuitMetric]
      exact .new hthreshold (by decide) (by simp) (h.later hclock).past

theorem inv_initial (hthreshold : 1 ≤ config.failureThreshold) (start : Int) :
    Inv config (initial start) := by
  intro key
  exact .new hthreshold (by simp [metric, initial]) (by simp [metric, initial]) (by simp [initial])

theorem step_inv (hthreshold : 1 ≤ config.failureThreshold) (h : Inv config s)
    (hclock : s.now ≤ c.now) : Inv config (step config s c) := by
  intro key
  rw [step_now]
  by_cases hkey : key = c.key
  · subst hkey
    exact step_self hthreshold hclock (h c.key)
  · obtain ⟨hcell, hmetric, hlast⟩ := step_others config s c hkey
    rw [hcell, hmetric, hlast]
    exact (h key).later hclock

theorem Inv.cellRight (h : Inv config s) (key : BreakerKey) : CellRight config s key := by
  obtain ⟨hclosed, hnotClosed, hbounded, -⟩ := h key
  constructor
  · intro hstate
    rw [← Option.isSome_iff_ne_none]
    exact (s.cells key).openedAt_isSome hstate
  · intro hstate
    exact ⟨(hclosed hstate).1, (hclosed hstate).2.1⟩
  · intro value hvalue
    split
    · next hstate =>
      have hone := (hclosed hstate).2.2
      have hle := hbounded value hvalue
      have hne : value ≠ 1 := fun heq => hone (heq ▸ hvalue)
      omega
    · next hstate =>
      have hone := (hnotClosed hstate).2
      rw [hvalue] at hone
      exact Option.some.inj hone
  · intro hstate
    rw [(hnotClosed hstate).2]
    exact Option.some_ne_none 1

theorem Inv.callRight (h : Inv config s) (hclock : s.now ≤ c.now) : CallRight config s c := by
  constructor
  · intro _ hanswer
    have hrejects : ((s.cells c.key).isOpen config c.now).1 = true := hanswer
    obtain ⟨-, hnotClosed, -, hpast⟩ := h c.key
    cases hstate : (s.cells c.key).state with
    | closed =>
      rw [BreakerCell.isOpen_closed hstate] at hrejects
      cases hrejects
    | halfOpen =>
      rw [BreakerCell.isOpen_halfOpen hstate] at hrejects
      cases hrejects
    | open_ =>
      obtain ⟨t, ht⟩ := Option.isSome_iff_exists.mp ((s.cells c.key).openedAt_isSome hstate)
      have hlast := (hnotClosed (by rw [hstate]; decide)).1
      rw [ht] at hlast
      rw [BreakerCell.isOpen_of_open hstate ht] at hrejects
      refine ⟨t, hlast.symm, le_trans (hpast t hlast.symm) hclock, ?_⟩
      split at hrejects
      · cases hrejects
      · next hrecent => exact Int.not_le.mp hrecent
  · intro key hkey
    obtain ⟨hcell, hmetric, -⟩ := step_others config s c hkey
    exact ⟨hcell, hmetric⟩

variable (config) in
/-- The clock of a run whose readings never fall. -/
theorem allowed_of_sorted (s : Breaker) (calls : List Call)
    (h : (s.now :: calls.map Call.now).Pairwise (· ≤ ·)) :
    Runs.Allowed (step config) (fun s c => s.now ≤ c.now) s calls := by
  induction calls generalizing s with
  | nil => trivial
  | cons c calls ih =>
    obtain ⟨hfirst, hrest⟩ := List.pairwise_cons.mp h
    refine ⟨hfirst c.now List.mem_cons_self, ih (step config s c) ?_⟩
    rw [step_now]
    exact hrest

/-- Whatever is called in whatever order, on a clock that never goes back. -/
theorem breaker_right (config : BreakerConfig) (hthreshold : 1 ≤ config.failureThreshold)
    (start : Int) (calls : List Call)
    (hclock : (start :: calls.map Call.now).Pairwise (· ≤ ·)) :
    Runs.Always (step config) (fun s => ∀ key, CellRight config s key) (initial start) calls ∧
      Runs.Allowed (step config) (CallRight config) (initial start) calls := by
  have hallowed := allowed_of_sorted config (initial start) calls hclock
  have hinit := inv_initial hthreshold start
  constructor
  · apply Runs.Always.mono fun s h key => Inv.cellRight h key
    exact Runs.always_of_step (fun s c h hle => step_inv hthreshold h hle) hinit hallowed
  · have hstep : ∀ (s : Breaker) (c : Call), Inv config s → s.now ≤ c.now →
        CallRight config s c ∧ Inv config (step config s c) := fun s c h hle =>
      ⟨h.callRight hle, step_inv hthreshold h hle⟩
    exact Runs.allowed_of_step hstep hinit hallowed

end

/-- Five failures, an event that is turned away, a probe that fails and one that succeeds. -/
def twoProbes : List Call :=
  let key : BreakerKey := ("w", "SHOPIFY")
  List.replicate 5 ⟨.recordFailure, key, 1⟩ ++
    [⟨.isOpen, key, 2⟩, ⟨.isOpen, key, 60000000001⟩, ⟨.recordFailure, key, 60000000002⟩,
      ⟨.isOpen, key, 120000000002⟩, ⟨.recordSuccess, key, 120000000003⟩]

theorem twoProbes_right :
    1 ≤ BreakerConfig.default.failureThreshold ∧ (0 :: twoProbes.map Call.now).Pairwise (· ≤ ·) ∧
      Runs.Always (step .default) (fun s => ∀ key, CellRight .default s key) (initial 0) twoProbes ∧
      Runs.Allowed (step .default) (CallRight .default) (initial 0) twoProbes := by
  have hthreshold : 1 ≤ BreakerConfig.default.failureThreshold := by decide
  have hclock : (0 :: twoProbes.map Call.now).Pairwise (· ≤ ·) := by decide
  exact ⟨hthreshold, hclock, breaker_right .default hthreshold 0 twoProbes hclock⟩

end Breaker

end BrainV2.Transform
