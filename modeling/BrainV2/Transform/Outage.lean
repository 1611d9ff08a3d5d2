import BrainV2.Transform.Gap

/-!
# A database outage

Retryable errors are recorded with the circuit breaker as terminal ones are, so
an outage opens the circuit and the rows that follow go to the dead letter queue.

* `failureRun`: the errors of a (workspace, vendor) since its last success,
  read off the log of calls;
* `BreakerMatches`: the breaker is what that log says;
* `Spaced`: no row is attempted on an open circuit;
* `outage_drops_nothing_iff`: when nothing but the database fails, every row
  behind a cursor was upserted or skipped, and none was dropped, exactly when
  the attempts are spaced and the batches tie safe.
-/

namespace BrainV2.Transform

open Py

variable {settings : Settings}

/-- The clock readings of the retryable errors of a pair since its last success,
the newest first. -/
def failureRun (key : BreakerKey) : List (BronzeRow × Outcome) → List Int
  | [] => []
  | (row, outcome) :: older =>
    if row.breakerKey = key then
      match outcome with
      | .retryable _ failedAt => failedAt :: failureRun key older
      | .circuitOpen _ => failureRun key older
      | _ => []
    else failureRun key older

/-- A cell after a run of failures. -/
def CellMatches (config : BreakerConfig) (cell : BreakerCell) : List Int → Prop
  | [] => cell.state = .closed ∧ cell.consecutiveFailures = 0
  | last :: earlier =>
    if config.failureThreshold ≤ earlier.length + 1 then
      cell.state = .open_ ∧ cell.openedAt = some last
    else cell.state = .closed ∧ cell.consecutiveFailures = earlier.length + 1

def BreakerMatches (config : BreakerConfig) (calls : List (BronzeRow × Outcome))
    (breaker : CircuitBreaker) : Prop :=
  ∀ key, CellMatches config (breaker key) (failureRun key calls)

/-- After a run of failures that opens the circuit, the row is attempted once the
recovery time since the last of them is over. -/
def Spaced (config : BreakerConfig) (calls : List (BronzeRow × Outcome))
    (input : BronzeRow × RowEnv) : Prop :=
  ∀ last earlier, failureRun input.1.breakerKey calls = last :: earlier →
    config.failureThreshold ≤ earlier.length + 1 →
    config.recovery ≤ input.2.checkedAt - last

/-- Nothing but the database can fail on this row, and only with an error that
is to be retried. -/
structure OnlyOutage (settings : Settings) (input : BronzeRow × RowEnv) : Prop where
  graduates : ∃ plan, prepareRow settings input.1 = .ok plan
  retryable : ∀ e, input.2.pg = .error e → e.isValueError = false

def NoDrop (calls : List (BronzeRow × Outcome)) : Prop :=
  ∀ call ∈ calls, ∀ produced, call.2 ≠ .circuitOpen produced

def NoTerminal (calls : List (BronzeRow × Outcome)) : Prop :=
  ∀ call ∈ calls, ∀ e produced, call.2 ≠ .terminal e produced

section Cell

variable {config : BreakerConfig} {cell : BreakerCell} {run : List Int} {now : Int}

/-- The circuit admits a row exactly when it is spaced. -/
theorem admits_iff (h : CellMatches config cell run) :
    (cell.isOpen config now).1 = false ↔
      ∀ last earlier, run = last :: earlier → config.failureThreshold ≤ earlier.length + 1 →
        config.recovery ≤ now - last := by
  cases run with
  | nil => simp [BreakerCell.isOpen_closed h.1]
  | cons last earlier =>
    simp only [CellMatches] at h
    split at h
    · rename_i hopen
      rw [BreakerCell.isOpen_of_open h.1 h.2]
      constructor
      · rintro hnow last' earlier' heq -
        cases heq
        by_contra hlate
        simp [if_neg hlate] at hnow
      · intro hspaced
        rw [if_pos (hspaced last earlier rfl hopen)]
    · rename_i hopen
      rw [BreakerCell.isOpen_closed h.1]
      constructor
      · rintro - last' earlier' heq hle
        cases heq
        exact absurd hle hopen
      · intro _
        rfl

theorem new_matches : CellMatches config .new [] := ⟨rfl, rfl⟩

/-- A failure of an admitted row adds its clock reading to the run. -/
theorem recordFailure_matches {failedAt : Int} (h : CellMatches config cell run)
    (hadmitted : (cell.isOpen config now).1 = false) :
    CellMatches config ((cell.isOpen config now).2.recordFailure config failedAt)
      (failedAt :: run) := by
  cases run with
  | nil =>
    rw [BreakerCell.isOpen_closed h.1, BreakerCell.recordFailure_closed h.1, h.2]
    simp only [CellMatches, List.length_nil]
    split
    · exact ⟨rfl, rfl⟩
    · exact ⟨h.1, rfl⟩
  | cons last earlier =>
    simp only [CellMatches, List.length_cons] at h ⊢
    split at h
    · rename_i hopen
      rw [BreakerCell.isOpen_of_open h.1 h.2] at hadmitted ⊢
      split at hadmitted
      · rename_i hnow
        rw [if_pos hnow, BreakerCell.recordFailure_halfOpen rfl, if_pos (by omega)]
        exact ⟨rfl, rfl⟩
      · cases hadmitted
    · rw [BreakerCell.isOpen_closed h.1, BreakerCell.recordFailure_closed h.1, h.2]
      split
      · exact ⟨rfl, rfl⟩
      · exact ⟨h.1, rfl⟩

end Cell

section Row

variable {st : ProcState} {row : BronzeRow} {env : RowEnv} {calls : List (BronzeRow × Outcome)}

/-- Fewer failures than the threshold leave the circuit closed. -/
theorem spaced_of_few
    (h : (failureRun row.breakerKey calls).length < settings.breaker.failureThreshold) :
    Spaced settings.breaker calls (row, env) := by
  intro last earlier hrun hopen
  rw [hrun, List.length_cons] at h
  omega

/-- What can come of a row when nothing but the database fails. -/
theorem outage_cases (st : ProcState) (h : OnlyOutage settings (row, env)) :
    (∃ produced, (processOneRow settings st row env).1 = .circuitOpen produced ∧
      ¬ Admitted settings st row env) ∨
    (Admitted settings st row env ∧ ∃ e,
      (processOneRow settings st row env).1 = .retryable e env.failedAt ∧
      graduateRow settings row env = .error e) ∨
    (Admitted settings st row env ∧ ∃ result,
      ((processOneRow settings st row env).1 = .skipped ∨
        (processOneRow settings st row env).1 = .upserted) ∧
      graduateRow settings row env = .ok result) := by
  by_cases hadmitted : Admitted settings st row env
  · have houtcome := processOneRow_admitted hadmitted
    cases hgraduate : graduateRow settings row env with
    | error e =>
      obtain ⟨plan, hplan⟩ := h.graduates
      have hpg : env.pg = .error e := by
        rcases graduateRow_error_iff.mp hgraduate with hprepare | ⟨-, hpg⟩
        · rw [hplan] at hprepare
          cases hprepare
        · exact hpg
      simp only [hgraduate, h.retryable e hpg, Bool.false_eq_true, if_false] at houtcome
      exact Or.inr (Or.inl ⟨hadmitted, e, houtcome, rfl⟩)
    | ok result =>
      simp only [hgraduate] at houtcome
      refine Or.inr (Or.inr ⟨hadmitted, result, ?_, rfl⟩)
      split at houtcome
      · exact Or.inl houtcome
      · exact Or.inr houtcome
  · exact Or.inl ⟨_, processOneRow_open hadmitted, hadmitted⟩

theorem failureRun_other {key : BreakerKey} {outcome : Outcome} (h : row.breakerKey ≠ key) :
    failureRun key ((row, outcome) :: calls) = failureRun key calls := by
  simp [failureRun, h]

/-- The breaker stays what the log says, row by row. -/
theorem processOneRow_matches (h : OnlyOutage settings (row, env))
    (hmatch : BreakerMatches settings.breaker calls st.breaker) :
    BreakerMatches settings.breaker ((row, (processOneRow settings st row env).1) :: calls)
      (processOneRow settings st row env).2.breaker := by
  intro key
  by_cases hkey : row.breakerKey = key
  · subst hkey
    rcases outage_cases st h with ⟨produced, ho, hreject⟩ | ⟨hadmitted, e, ho, hg⟩ |
      ⟨hadmitted, result, ho, hg⟩
    · rw [ho, processOneRow_open_breaker hreject]
      simpa [failureRun] using hmatch row.breakerKey
    · rw [ho, processOneRow_admitted_breaker hadmitted, Function.update_self, cellAfter, hg]
      simpa [failureRun] using recordFailure_matches (hmatch row.breakerKey) hadmitted
    · rw [processOneRow_admitted_breaker hadmitted, Function.update_self, cellAfter, hg]
      rcases ho with ho | ho <;> simpa [ho, failureRun] using new_matches
  · rw [failureRun_other hkey]
    by_cases hadmitted : Admitted settings st row env
    · rw [processOneRow_admitted_breaker hadmitted, Function.update_of_ne (Ne.symm hkey)]
      exact hmatch key
    · rw [processOneRow_open_breaker hadmitted]
      exact hmatch key

/-- A row is dropped exactly when it is not spaced. -/
theorem processOneRow_drops_iff (h : OnlyOutage settings (row, env))
    (hmatch : BreakerMatches settings.breaker calls st.breaker) :
    (∀ produced, (processOneRow settings st row env).1 ≠ .circuitOpen produced) ↔
      Spaced settings.breaker calls (row, env) := by
  have hspaced : Admitted settings st row env ↔ Spaced settings.breaker calls (row, env) :=
    admits_iff (hmatch row.breakerKey)
  rw [← hspaced]
  constructor
  · intro hne
    by_contra hreject
    exact hne _ (processOneRow_open hreject)
  · intro hadmitted produced ho
    rcases outage_cases st h with ⟨_, _, hreject⟩ | ⟨_, e, he, _⟩ | ⟨_, _, he, _⟩
    · exact hreject hadmitted
    · rw [ho] at he
      cases he
    · rw [ho] at he
      rcases he with he | he <;> cases he

theorem processOneRow_not_terminal (h : OnlyOutage settings (row, env)) (e : PyExc)
    (produced : Bool) : (processOneRow settings st row env).1 ≠ .terminal e produced := by
  intro ho
  rcases outage_cases st h with ⟨_, he, _⟩ | ⟨_, e', he, _⟩ | ⟨_, _, he, _⟩
  · rw [ho] at he
    cases he
  · rw [ho] at he
    cases he
  · rw [ho] at he
    rcases he with he | he <;> cases he

end Row

section Ticks

/-- What every run keeps when nothing but the database fails. -/
structure LogSound (settings : Settings) (proc : ProcState)
    (calls : List (BronzeRow × Outcome)) : Prop where
  breaker : BreakerMatches settings.breaker calls proc.breaker
  noTerminal : NoTerminal calls

theorem fresh_logSound (settings : Settings) : LogSound settings .fresh [] where
  breaker _ := new_matches
  noTerminal := by simp [NoTerminal]

/-- The rows of a batch, up to the one that ends it, are spaced. -/
def SpacedRow (settings : Settings) (b : BatchLoop ProcState Outcome)
    (input : BronzeRow × RowEnv) : Prop :=
  b.broken = false → Spaced settings.breaker b.calls input

def SpacedStream (settings : Settings) (s : TransformConsumer)
    (input : StreamKey × StreamEnv RowEnv) : Prop :=
  ∀ rows, input.2.query = some rows →
    Runs.Allowed (transformProcessor settings).rowStep (SpacedRow settings)
      ⟨s.proc, s.calls, none, false⟩ rows

/-- Every row of a tick is spaced. -/
def SpacedTick (settings : Settings) (s : TransformConsumer) (env : TickEnv RowEnv) : Prop :=
  env.healthy ∧ env.cursorsReadable →
    Runs.Allowed (transformProcessor settings).streamStep (SpacedStream settings) s
      (Processor.iterations s env)

variable {b : BatchLoop ProcState Outcome} {input : BronzeRow × RowEnv}

theorem rowStep_calls (settings : Settings) (input : BronzeRow × RowEnv)
    (h : b.broken = false) :
    ((transformProcessor settings).rowStep b input).calls =
        (input.1, (processOneRow settings b.proc input.1 input.2).1) :: b.calls ∧
      ((transformProcessor settings).rowStep b input).proc =
        (processOneRow settings b.proc input.1 input.2).2 := by
  simp only [Processor.rowStep, h, Bool.false_eq_true, if_false]
  split <;> exact ⟨rfl, rfl⟩

theorem rowStep_broken (h : b.broken = true) :
    (transformProcessor settings).rowStep b input = b := by
  simp [Processor.rowStep, h]

/-- Every call keeps the log sound. -/
theorem keepsLog_logSound : (transformProcessor settings).KeepsLog (OnlyOutage settings)
    (LogSound settings) := by
  intro st calls row env hlog hinput
  refine ⟨processOneRow_matches hinput hlog.breaker, ?_⟩
  intro call hcall e produced
  rcases List.mem_cons.mp hcall with rfl | hcall
  · exact processOneRow_not_terminal hinput e produced
  · exact hlog.noTerminal call hcall e produced

theorem noDrop_cons {row : BronzeRow} {outcome : Outcome} {calls : List (BronzeRow × Outcome)} :
    NoDrop ((row, outcome) :: calls) ↔
      (∀ produced, outcome ≠ .circuitOpen produced) ∧ NoDrop calls := by
  simp [NoDrop]

theorem rowStep_noDrop_iff (hb : LogSound settings b.proc b.calls) (hdrop : NoDrop b.calls)
    (hinput : OnlyOutage settings input) :
    NoDrop ((transformProcessor settings).rowStep b input).calls ↔ SpacedRow settings b input := by
  cases hbroken : b.broken with
  | true =>
    rw [rowStep_broken hbroken]
    exact ⟨fun _ h => by simp [hbroken] at h, fun _ => hdrop⟩
  | false =>
    obtain ⟨hcalls, -⟩ := rowStep_calls settings input hbroken
    rw [hcalls, noDrop_cons, processOneRow_drops_iff hinput hb.breaker]
    exact ⟨fun h _ => h.1, fun h => ⟨h hbroken, hdrop⟩⟩

theorem rowStep_noDrop_back (h : NoDrop ((transformProcessor settings).rowStep b input).calls) :
    NoDrop b.calls := by
  cases hbroken : b.broken with
  | true =>
    rwa [rowStep_broken hbroken] at h
  | false =>
    obtain ⟨hcalls, -⟩ := rowStep_calls settings input hbroken
    rw [hcalls, noDrop_cons] at h
    exact h.2

section Stream

variable {s : TransformConsumer} {key : StreamKey} {env : StreamEnv RowEnv}

/-- The loop over a batch of rows, from the state of the consumer. -/
def rowLoop (settings : Settings) (s : TransformConsumer) (rows : List (BronzeRow × RowEnv)) :
    BatchLoop ProcState Outcome :=
  (transformProcessor settings).batchLoop s.proc s.calls rows

theorem rowLoop_noDrop_iff {rows : List (BronzeRow × RowEnv)}
    (hs : LogSound settings s.proc s.calls) (hdrop : NoDrop s.calls)
    (hrows : ∀ input ∈ rows, OnlyOutage settings input) :
    NoDrop (rowLoop settings s rows).calls ↔
      Runs.Allowed (transformProcessor settings).rowStep (SpacedRow settings)
        ⟨s.proc, s.calls, none, false⟩ rows := by
  have hinv : ∀ (b : BatchLoop ProcState Outcome) (input : BronzeRow × RowEnv),
      LogSound settings b.proc b.calls → OnlyOutage settings input →
      LogSound settings ((transformProcessor settings).rowStep b input).proc
        ((transformProcessor settings).rowStep b input).calls :=
    rowStep_log keepsLog_logSound
  have hiff : ∀ (b : BatchLoop ProcState Outcome) (input : BronzeRow × RowEnv),
      LogSound settings b.proc b.calls → NoDrop b.calls → OnlyOutage settings input →
      (NoDrop ((transformProcessor settings).rowStep b input).calls ↔ SpacedRow settings b input) :=
    fun _ _ hb hdrop hinput => rowStep_noDrop_iff hb hdrop hinput
  have hback : ∀ (b : BatchLoop ProcState Outcome) (input : BronzeRow × RowEnv),
      NoDrop ((transformProcessor settings).rowStep b input).calls → NoDrop b.calls :=
    fun _ _ h => rowStep_noDrop_back h
  exact (Runs.always_iff_last hback).symm.trans
    (Runs.always_iff_allowed hinv hiff hs hdrop (Runs.allowed_of_forall (fun _ => hrows) _))

theorem streamStep_none (h : env.query = none) :
    (transformProcessor settings).streamStep s (key, env) = s := by
  simp [Processor.streamStep, h]

theorem streamStep_some (settings : Settings) (s : TransformConsumer) (key : StreamKey)
    {rows : List (BronzeRow × RowEnv)} (h : env.query = some rows) :
    ((transformProcessor settings).streamStep s (key, env)).calls =
        (rowLoop settings s rows).calls ∧
      ((transformProcessor settings).streamStep s (key, env)).proc =
        (rowLoop settings s rows).proc := by
  simp [Processor.streamStep, h, rowLoop]

theorem streamStep_noDrop_iff (hs : LogSound settings s.proc s.calls) (hdrop : NoDrop s.calls)
    (henv : env.Offers (OnlyOutage settings)) :
    NoDrop ((transformProcessor settings).streamStep s (key, env)).calls ↔
      SpacedStream settings s (key, env) := by
  unfold SpacedStream
  cases hquery : env.query with
  | none =>
    rw [streamStep_none hquery]
    exact ⟨fun _ => by simp, fun _ => hdrop⟩
  | some rows =>
    obtain ⟨hcalls, -⟩ := streamStep_some settings s key hquery
    rw [hcalls, rowLoop_noDrop_iff hs hdrop (henv rows hquery)]
    constructor
    · rintro h rows' hrows'
      cases hrows'
      exact h
    · intro h
      exact h rows rfl

theorem streamStep_noDrop_back
    (h : NoDrop ((transformProcessor settings).streamStep s (key, env)).calls) :
    NoDrop s.calls := by
  cases hquery : env.query with
  | none => rwa [streamStep_none hquery] at h
  | some rows =>
    obtain ⟨hcalls, -⟩ := streamStep_some settings s key hquery
    rw [hcalls] at h
    have hback : ∀ (b : BatchLoop ProcState Outcome) (input : BronzeRow × RowEnv),
        NoDrop ((transformProcessor settings).rowStep b input).calls → NoDrop b.calls :=
      fun _ _ h => rowStep_noDrop_back h
    have hlast : Runs.Always (transformProcessor settings).rowStep (fun b => NoDrop b.calls)
        ⟨s.proc, s.calls, none, false⟩ rows ↔ NoDrop (rowLoop settings s rows).calls :=
      Runs.always_iff_last hback
    exact (hlast.mpr h).head

end Stream

section Tick

variable {s : TransformConsumer} {env : TickEnv RowEnv} {bronze : List BronzeRow}
  {batchSize : Nat}

/-- What is assumed of a tick: its queries answer as their SQL says, and rows
fail only for want of the database. -/
structure OutageTick (settings : Settings) (bronze : List BronzeRow) (batchSize : Nat)
    (s : TransformConsumer) (env : TickEnv RowEnv) : Prop where
  valid : env.Valid bronze batchSize s.cursors
  outage : ∀ key, (env.stream key).Offers (OnlyOutage settings)

theorem tick_logSound (hs : LogSound settings s.proc s.calls)
    (henv : OutageTick settings bronze batchSize s env) :
    LogSound settings ((transformProcessor settings).tick s env).proc
      ((transformProcessor settings).tick s env).calls :=
  tick_log keepsLog_logSound hs henv.outage

theorem tick_noDrop_iff (hs : LogSound settings s.proc s.calls) (hdrop : NoDrop s.calls)
    (henv : OutageTick settings bronze batchSize s env) :
    NoDrop ((transformProcessor settings).tick s env).calls ↔ SpacedTick settings s env := by
  have hinv : ∀ (t : TransformConsumer) (input : StreamKey × StreamEnv RowEnv),
      LogSound settings t.proc t.calls → input.2.Offers (OnlyOutage settings) →
      LogSound settings ((transformProcessor settings).streamStep t input).proc
        ((transformProcessor settings).streamStep t input).calls :=
    streamStep_log keepsLog_logSound
  have hiff : ∀ (t : TransformConsumer) (input : StreamKey × StreamEnv RowEnv),
      LogSound settings t.proc t.calls → NoDrop t.calls → input.2.Offers (OnlyOutage settings) →
      (NoDrop ((transformProcessor settings).streamStep t input).calls ↔
        SpacedStream settings t input) :=
    fun _ _ ht hdrop hinput => streamStep_noDrop_iff ht hdrop hinput
  have hback : ∀ (t : TransformConsumer) (input : StreamKey × StreamEnv RowEnv),
      NoDrop ((transformProcessor settings).streamStep t input).calls → NoDrop t.calls :=
    fun _ _ h => streamStep_noDrop_back h
  have houtage : ∀ input ∈ Processor.iterations s env,
      input.2.Offers (OnlyOutage settings) := by
    intro input hinput
    obtain ⟨key, -, rfl⟩ := List.mem_map.mp hinput
    exact henv.outage key
  have hlast : Runs.Always (transformProcessor settings).streamStep (fun t => NoDrop t.calls) s
      (Processor.iterations s env) ↔ NoDrop (Runs.exec (transformProcessor settings).streamStep s
        (Processor.iterations s env)).calls := Runs.always_iff_last hback
  unfold Processor.tick SpacedTick
  by_cases h : env.healthy ∧ env.cursorsReadable
  · rw [if_pos h, ← hlast,
      Runs.always_iff_allowed hinv hiff hs hdrop (Runs.allowed_of_forall (fun _ => houtage) _)]
    exact ⟨fun h' _ => h', fun h' => h' h⟩
  · rw [if_neg h]
    exact ⟨fun _ h' => absurd h' h, fun _ => hdrop⟩

/-- Every row behind a cursor was upserted, or skipped for lack of a fact, and
no row was dropped on an open circuit. -/
structure NothingDropped (bronze : List BronzeRow) (s : TransformConsumer) : Prop where
  landed : ∀ key c, s.cursors.get key = some c → ∀ row ∈ bronze, row.stream = key →
    row.receivedAt ≤ c → (row, Outcome.upserted) ∈ s.calls ∨ (row, Outcome.skipped) ∈ s.calls
  noDrop : NoDrop s.calls

theorem nothingDropped_iff (hs : LogSound settings s.proc s.calls) :
    NothingDropped bronze s ↔ Covered (transformProcessor settings) bronze s ∧ NoDrop s.calls := by
  constructor
  · intro h
    refine ⟨fun key c hc row hrow hstream hle => ?_, h.noDrop⟩
    rcases h.landed key c hc row hrow hstream hle with hcall | hcall
    · exact ⟨_, hcall, rfl⟩
    · exact ⟨_, hcall, rfl⟩
  · rintro ⟨hcovered, hdrop⟩
    refine ⟨fun key c hc row hrow hstream hle => ?_, hdrop⟩
    obtain ⟨outcome, hcall, hadvances⟩ := hcovered key c hc row hrow hstream hle
    cases outcome with
    | circuitOpen produced => exact absurd rfl (hdrop _ hcall produced)
    | terminal e produced => exact absurd rfl (hs.noTerminal _ hcall e produced)
    | retryable e failedAt => cases hadvances
    | skipped => exact Or.inr hcall
    | upserted => exact Or.inl hcall

/-- When nothing but the database fails, every row behind a cursor was upserted
or skipped, and none was dropped on an open circuit, throughout a run of ticks
exactly when its rows are spaced and its batches tie safe. -/
theorem outage_drops_nothing_iff {envs : List (TickEnv RowEnv)}
    (hs : LogSound settings s.proc s.calls) (hstart : NothingDropped bronze s)
    (henvs : Runs.Allowed (transformProcessor settings).tick
      (OutageTick settings bronze batchSize) s envs) :
    Runs.Always (transformProcessor settings).tick (NothingDropped bronze) s envs ↔
      Runs.Allowed (transformProcessor settings).tick
        (fun s env => TieSafe (transformProcessor settings) bronze s env ∧
          SpacedTick settings s env) s envs := by
  have hinv : ∀ (t : TransformConsumer) env, LogSound settings t.proc t.calls →
      OutageTick settings bronze batchSize t env →
      LogSound settings ((transformProcessor settings).tick t env).proc
        ((transformProcessor settings).tick t env).calls :=
    fun _ _ ht henv => tick_logSound ht henv
  refine Runs.always_iff_allowed hinv ?_ hs hstart henvs
  intro t env ht hdropped henv
  obtain ⟨hcovered, hdrop⟩ := (nothingDropped_iff ht).mp hdropped
  rw [nothingDropped_iff (tick_logSound ht henv), tick_covered_iff hcovered henv.valid,
    tick_noDrop_iff ht hdrop henv]

end Tick

end Ticks

section Example

def orderKey : StreamKey := ⟨"w", "SHOPIFY", "order"⟩

def orderConsumer : TransformConsumer := ⟨⟨[(orderKey, none)], by decide⟩, .fresh, []⟩

def orderRow : BronzeRow :=
  ⟨"w", "SHOPIFY", "order", "o1", 5000000, "\x7b\"id\": 1\x7d", ""⟩

def connectionRefused : PyExc := ⟨.other "OperationalError" false, "connection refused"⟩

/-- A tick that hands the one row over at a reading of the monotonic clock. -/
def orderTick (attempt : Int × Except PyExc Unit) : TickEnv RowEnv :=
  let (now, pg) := attempt
  ⟨true, true, fun _ => ⟨10000000, some [(orderRow, ⟨now, now, pg, none, ""⟩)], true⟩⟩

def orderTicks (attempts : List (Int × Except PyExc Unit)) : List (TickEnv RowEnv) :=
  attempts.map orderTick

/-- Six attempts ten seconds apart, all during one outage. -/
def longOutage : List (Int × Except PyExc Unit) :=
  (List.range 6).map fun n => (n * 10000000000, .error connectionRefused)

/-- One failed attempt and then a good one. -/
def shortOutage : List (Int × Except PyExc Unit) :=
  [(0, .error connectionRefused), (10000000000, .ok ())]

/-- The consumer after so many of the attempts. -/
def outageState (attempts : List (Int × Except PyExc Unit)) (n : Nat) : TransformConsumer :=
  Runs.exec (transformProcessor exampleSettings).tick orderConsumer ((orderTicks attempts).take n)

theorem orderRow_graduates : ∃ plan, prepareRow exampleSettings orderRow = .ok plan := by
  have hsome : (prepareRow exampleSettings orderRow).isOk = true := by decide +kernel
  cases h : prepareRow exampleSettings orderRow with
  | ok plan => exact ⟨plan, rfl⟩
  | error e =>
    rw [h] at hsome
    cases hsome

theorem orderRow_visible : bronzeVisible [orderRow] orderKey none 10000000 = [orderRow] := by
  decide

/-- The row has not been passed yet. -/
def Waiting (s : TransformConsumer) : Prop :=
  s.cursors.keys = [orderKey] ∧ s.cursors.get orderKey = none

instance : DecidablePred Waiting := fun _ => instDecidableAnd

section Attempt

variable {attempt : Int × Except PyExc Unit} {s : TransformConsumer}

theorem orderTick_outage (hpg : ∀ e, attempt.2 = .error e → e.isValueError = false)
    (hwaiting : Waiting s) : OutageTick exampleSettings [orderRow] 500 s (orderTick attempt) := by
  constructor
  · intro key hkey rows hrows
    rw [hwaiting.1, List.mem_singleton] at hkey
    subst hkey
    cases hrows
    rw [hwaiting.2]
    exact ⟨[orderRow], orderRow_visible ▸ List.Perm.refl _, List.pairwise_singleton _ _, rfl⟩
  · rintro key rows hrows input hinput
    cases hrows
    rw [List.mem_singleton] at hinput
    subst hinput
    exact ⟨orderRow_graduates, hpg⟩

/-- The only row of the only batch is accepted, or the cursor does not move. -/
theorem orderTick_tieSafe (hwaiting : Waiting s) :
    TieSafe (transformProcessor exampleSettings) [orderRow] s (orderTick attempt) := by
  intro _
  rw [Processor.iterations, hwaiting.1]
  refine ⟨?_, trivial⟩
  intro _ rows hrows last hlast row hrow _ _
  cases hrows
  right
  have hmem := List.mem_of_getLast? (Option.mem_def.mp hlast)
  have hlastRow := (accepted_isInit _ _).subset hmem
  rw [List.map_cons, List.map_nil, List.mem_singleton] at hlastRow
  have hsame : row = last := (List.mem_singleton.mp hrow).trans hlastRow.symm
  exact hsame ▸ hmem

theorem orderTick_spaced (hwaiting : Waiting s)
    (hfew : (failureRun orderRow.breakerKey s.calls).length <
      exampleSettings.breaker.failureThreshold) :
    SpacedTick exampleSettings s (orderTick attempt) := by
  intro _
  rw [Processor.iterations, hwaiting.1]
  refine ⟨?_, trivial⟩
  rintro rows hrows
  cases hrows
  exact ⟨fun _ => spaced_of_few hfew, trivial⟩

end Attempt

theorem orderTicks_getElem {attempts : List (Int × Except PyExc Unit)} {n : Nat}
    (h : n < (orderTicks attempts).length) :
    ∃ attempt ∈ attempts, (orderTicks attempts)[n] = orderTick attempt := by
  obtain ⟨attempt, hmem, htick⟩ := List.mem_map.mp (List.getElem_mem h)
  exact ⟨attempt, hmem, htick.symm⟩

theorem orderTicks_outage {attempts : List (Int × Except PyExc Unit)}
    (hpg : ∀ attempt ∈ attempts, ∀ e, attempt.2 = .error e → e.isValueError = false)
    (hwaiting : ∀ n < attempts.length, Waiting (outageState attempts n)) :
    Runs.Allowed (transformProcessor exampleSettings).tick
      (OutageTick exampleSettings [orderRow] 500) orderConsumer (orderTicks attempts) := by
  apply Runs.allowed_iff_getElem.mpr
  intro n hn
  obtain ⟨attempt, hattempt, htick⟩ := orderTicks_getElem hn
  rw [htick]
  exact orderTick_outage (hpg attempt hattempt) (hwaiting n (by simpa [orderTicks] using hn))

theorem connectionRefused_retryable (e : PyExc)
    (h : (Except.error connectionRefused : Except PyExc Unit) = .error e) :
    e.isValueError = false := by
  cases h
  rfl

theorem orderConsumer_nothingDropped : NothingDropped [orderRow] orderConsumer where
  landed key c hc := by
    simp only [CursorTable.get, orderConsumer, List.lookup] at hc
    split at hc <;> cases hc
  noDrop := by simp [NoDrop, orderConsumer]

/-- Nothing is dropped in a short outage. -/
theorem short_outage_drops_nothing :
    Runs.Always (transformProcessor exampleSettings).tick (NothingDropped [orderRow])
      orderConsumer (orderTicks shortOutage) := by
  have hwaiting : ∀ n < 2, Waiting (outageState shortOutage n) := by decide +kernel
  have hfew : ∀ n < 2, (failureRun orderRow.breakerKey (outageState shortOutage n).calls).length <
      exampleSettings.breaker.failureThreshold := by decide +kernel
  have houtage : Runs.Allowed (transformProcessor exampleSettings).tick
      (OutageTick exampleSettings [orderRow] 500) orderConsumer (orderTicks shortOutage) := by
    refine orderTicks_outage ?_ hwaiting
    simp only [shortOutage, List.forall_mem_cons, List.not_mem_nil, false_implies, implies_true,
      and_true]
    refine ⟨connectionRefused_retryable, ?_⟩
    rintro _ ⟨⟩
  apply (outage_drops_nothing_iff (fresh_logSound _) orderConsumer_nothingDropped houtage).mpr
  apply Runs.allowed_iff_getElem.mpr
  intro n hn
  obtain ⟨attempt, -, htick⟩ := orderTicks_getElem hn
  rw [htick]
  exact ⟨orderTick_tieSafe (hwaiting n hn), orderTick_spaced (hwaiting n hn) (hfew n hn)⟩

/-- In a long one five failed upserts open the circuit; the sixth attempt drops
the row and moves the cursor past it. -/
theorem long_outage_drops_row :
    NothingDropped [orderRow] orderConsumer ∧
    Runs.Allowed (transformProcessor exampleSettings).tick
      (OutageTick exampleSettings [orderRow] 500) orderConsumer (orderTicks longOutage) ∧
    ¬ Runs.Always (transformProcessor exampleSettings).tick
      (NothingDropped [orderRow]) orderConsumer (orderTicks longOutage) := by
  refine ⟨orderConsumer_nothingDropped, ?_, ?_⟩
  · have hwaiting : ∀ n < 6, Waiting (outageState longOutage n) := by decide +kernel
    refine orderTicks_outage ?_ hwaiting
    intro attempt hattempt
    obtain ⟨n, -, rfl⟩ := List.mem_map.mp hattempt
    exact connectionRefused_retryable
  · intro h
    have hcalls : (orderRow, Outcome.circuitOpen false) ∈ (outageState longOutage 6).calls := by
      decide +kernel
    exact h.last.noDrop _ hcalls false rfl

end Example

end BrainV2.Transform
