import BrainV2.Transform.Consumer

/-!
# Rows that are left behind or held back

The cursor is a bare timestamp, and a batch ends at its limit or at the first
row to be retried. Rows with the stamp the cursor moved to are never read again.

A failure that the payload determines is to end in the dead letter queue, but
only a `ValueError` does. `json.loads` on deep nesting, `setdefault` on what is
not an object, and `int()` on what is no number raise something else.

* `ticks_cover_iff`: over any run of ticks, no row is left behind a cursor
  exactly when no batch ends inside a group of rows with one stamp;
* `tied_row_left_behind`: two rows of one stamp and a batch of one;
* `tied_rows_covered`: the same rows in a batch of two;
* `PoisonPasses`: a failure before the upsert goes to the dead letter queue, and
  only the database holds a row back;
* `poison_passes_iff`: the payloads for which it does;
* `null_amount_blocks`: an order whose gross amount is null.
-/

namespace BrainV2.Transform

open Py

section Runs

variable {π ε ω : Type*} {p : Processor π ε ω}

theorem covered_of_null (bronze : List BronzeRow) {s : Consumer π ω}
    (h : ∀ key, s.cursors.get key = none) : Covered p bronze s := by
  intro key c hc
  rw [h key] at hc
  cases hc

/-- Over a run of ticks on a fixed set of bronze rows, whichever rows the
processor turns down, no row is left behind a cursor exactly when every batch
is tie safe. -/
theorem ticks_cover_iff {bronze : List BronzeRow} {batchSize : Nat} {s : Consumer π ω}
    {envs : List (TickEnv ε)} (hstart : Covered p bronze s)
    (hvalid : Runs.Allowed p.tick (fun s env => env.Valid bronze batchSize s.cursors) s envs) :
    Runs.Always p.tick (Covered p bronze) s envs ↔
      Runs.Allowed p.tick (TieSafe p bronze) s envs := by
  have hstep : ∀ s env, True → Covered p bronze s → env.Valid bronze batchSize s.cursors →
      (Covered p bronze (p.tick s env) ↔ TieSafe p bronze s env) :=
    fun s env _ hcovered henv => tick_covered_iff hcovered henv
  exact Runs.always_iff_allowed (fun _ _ _ _ => trivial) hstep trivial hstart hvalid

end Runs

section Example

def exampleSettings : Settings := ⟨.default, ⟨1000, 1000⟩, registry ⟨1000, 1000⟩⟩

def exampleKey : StreamKey := ⟨"w", "SHOPIFY", "refund"⟩

/-- A consumer whose one cursor is still NULL. -/
def exampleConsumer : TransformConsumer :=
  ⟨⟨[(exampleKey, none)], by decide⟩, .fresh, []⟩

def exampleRow (idempotencyKey : String) (receivedAt : Instant) : BronzeRow :=
  ⟨"w", "SHOPIFY", "refund", idempotencyKey, receivedAt, "\x7b\x7d", ""⟩

def exampleRowEnv : RowEnv := ⟨0, 0, .ok (), none, ""⟩

/-- A tick whose query answers these rows. -/
def exampleTick (graceTs : Instant) (rows : List BronzeRow) : TickEnv RowEnv :=
  ⟨true, true, fun _ => ⟨graceTs, some (rows.map fun r => (r, exampleRowEnv)), true⟩⟩

def tiedRows : List BronzeRow := [exampleRow "a" 5000000, exampleRow "b" 5000000]

theorem tiedRows_batch (n : Nat) :
    IsBronzeBatch tiedRows n exampleKey none 10000000 (tiedRows.take n) :=
  ⟨tiedRows, List.Perm.refl _, by decide, rfl⟩

theorem exampleConsumer_null (key : StreamKey) : exampleConsumer.cursors.get key = none := by
  simp only [CursorTable.get, exampleConsumer, List.lookup]
  split <;> rfl

theorem exampleTick_valid {bronze rows : List BronzeRow} {n : Nat} {graceTs : Instant}
    {cursor : Option Instant} {s : TransformConsumer} (hkeys : s.cursors.keys = [exampleKey])
    (hcursor : s.cursors.get exampleKey = cursor)
    (hbatch : IsBronzeBatch bronze n exampleKey cursor graceTs rows) :
    (exampleTick graceTs rows).Valid bronze n s.cursors := by
  intro key hkey rows' hrows'
  rw [hkeys, List.mem_singleton] at hkey
  subst hkey
  cases hrows'
  rw [hcursor]
  simpa [Function.comp_def, exampleTick] using hbatch

/-- With a batch size of one the second of two rows of one stamp is left behind. -/
theorem tied_row_left_behind :
    Covered (transformProcessor exampleSettings) tiedRows exampleConsumer ∧
    Runs.Allowed (transformProcessor exampleSettings).tick
      (fun s env => env.Valid tiedRows 1 s.cursors) exampleConsumer
      [exampleTick 10000000 (tiedRows.take 1)] ∧
    ¬ Runs.Always (transformProcessor exampleSettings).tick
      (Covered (transformProcessor exampleSettings) tiedRows) exampleConsumer
      [exampleTick 10000000 (tiedRows.take 1)] := by
  refine ⟨covered_of_null _ exampleConsumer_null,
    ⟨exampleTick_valid rfl rfl (tiedRows_batch 1), trivial⟩, ?_⟩
  rintro ⟨-, h⟩
  obtain ⟨outcome, hmem, -⟩ :=
    h exampleKey 5000000 (by decide) (exampleRow "b" 5000000) (by decide) rfl (Int.le_refl _)
  have hcalls : ((transformProcessor exampleSettings).tick exampleConsumer
      (exampleTick 10000000 (tiedRows.take 1))).calls.map Prod.fst = [exampleRow "a" 5000000] := by
    decide
  have hcalled : exampleRow "b" 5000000 ∈ [exampleRow "a" 5000000] := by
    rw [← hcalls]
    exact List.mem_map_of_mem hmem
  exact absurd hcalled (by decide)

/-- In a batch of two both rows are advanced past. -/
theorem tied_rows_covered :
    Runs.Always (transformProcessor exampleSettings).tick
      (Covered (transformProcessor exampleSettings) tiedRows) exampleConsumer
      [exampleTick 10000000 tiedRows] := by
  have hvalid : Runs.Allowed (transformProcessor exampleSettings).tick
      (fun s env => env.Valid tiedRows 2 s.cursors) exampleConsumer
      [exampleTick 10000000 tiedRows] :=
    ⟨exampleTick_valid rfl rfl (tiedRows_batch 2), trivial⟩
  apply (ticks_cover_iff (covered_of_null _ exampleConsumer_null) hvalid).mpr
  refine ⟨fun _ => ⟨?_, trivial⟩, trivial⟩
  intro _ rows hrows last _ row hrow _ _
  cases hrows
  have hall : (transformProcessor exampleSettings).accepted ProcState.fresh
      (tiedRows.map fun r => (r, exampleRowEnv)) = tiedRows := by decide
  right
  exact hall.symm ▸ hrow

end Example

/-! ## Payloads that cannot be graduated -/

/-- `_send_to_dlq` was called for the row. -/
def Outcome.toDlq : Outcome → Bool
  | .circuitOpen _ => true
  | .terminal _ _ => true
  | _ => false

/-- The upsert was attempted and failed. -/
def UpsertFailed (settings : Settings) (row : BronzeRow) (env : RowEnv) : Prop :=
  (∃ plan, prepareRow settings row = .ok (some plan)) ∧ ∃ e, env.pg = .error e

/-- Whatever the state of the breaker and whatever the outside answers. -/
structure PoisonPasses (settings : Settings) (row : BronzeRow) : Prop where
  toDlq : ∀ st env e, prepareRow settings row = .error e →
    (processOneRow settings st row env).1.toDlq = true ∧
      (processOneRow settings st row env).1.advances = true
  held : ∀ st env, (processOneRow settings st row env).1.advances = false →
    UpsertFailed settings row env

section Row

variable {settings : Settings} {st : ProcState} {row : BronzeRow} {env : RowEnv}

/-- A row is held back exactly when the circuit admits it and something other
than a `ValueError` is raised. -/
theorem processOneRow_held_iff : (processOneRow settings st row env).1.advances = false ↔
    Admitted settings st row env ∧
      ∃ e, graduateRow settings row env = .error e ∧ e.isValueError = false := by
  by_cases hadmitted : Admitted settings st row env
  · rw [processOneRow_admitted hadmitted]
    cases hgraduate : graduateRow settings row env with
    | error e => cases he : e.isValueError <;> simp [Outcome.advances, hadmitted, he]
    | ok result =>
      simp only
      split <;> simp [Outcome.advances]
  · rw [processOneRow_open hadmitted]
    simp [Outcome.advances, hadmitted]

/-- What fails before the upsert is dead lettered unless it is held back. -/
theorem processOneRow_toDlq {e : PyExc} (st : ProcState) (env : RowEnv)
    (h : prepareRow settings row = .error e) (hvalue : e.isValueError = true) :
    (processOneRow settings st row env).1.toDlq = true := by
  by_cases hadmitted : Admitted settings st row env
  · have hgraduate : graduateRow settings row env = .error e :=
      graduateRow_error_iff.mpr (Or.inl h)
    rw [processOneRow_admitted hadmitted, hgraduate]
    simp [Outcome.toDlq, hvalue]
  · rw [processOneRow_open hadmitted]
    rfl

theorem toDlq_advances {outcome : Outcome} (h : outcome.toDlq = true) :
    outcome.advances = true := by
  cases outcome <;> simp_all [Outcome.toDlq, Outcome.advances]

/-- The circuit of a fresh consumer is closed. -/
theorem fresh_admitted (settings : Settings) (row : BronzeRow) (env : RowEnv) :
    Admitted settings .fresh row env := by
  have hclosed : (BreakerCell.new).state = .closed := rfl
  exact congrArg Prod.fst (BreakerCell.isOpen_closed hclosed)

/-- It comes down to the class of what is raised before the upsert. -/
theorem poisonPasses_iff : PoisonPasses settings row ↔
    ¬ ∃ e, prepareRow settings row = .error e ∧ e.isValueError = false := by
  constructor
  · rintro h ⟨e, hprepare, hvalue⟩
    have hgraduate : graduateRow settings row exampleRowEnv = .error e :=
      graduateRow_error_iff.mpr (Or.inl hprepare)
    have hheld := processOneRow_held_iff.mpr
      ⟨fresh_admitted settings row exampleRowEnv, e, hgraduate, hvalue⟩
    have hpassed := (h.toDlq .fresh exampleRowEnv e hprepare).2
    rw [hheld] at hpassed
    cases hpassed
  · intro h
    refine ⟨fun st env e hprepare => ?_, fun st env hheld => ?_⟩
    · have hvalue : e.isValueError = true := by
        by_contra hvalue
        exact h ⟨e, hprepare, by simpa using hvalue⟩
      have hdlq := processOneRow_toDlq st env hprepare hvalue
      exact ⟨hdlq, toDlq_advances hdlq⟩
    · obtain ⟨-, e, hgraduate, hvalue⟩ := processOneRow_held_iff.mp hheld
      rcases graduateRow_error_iff.mp hgraduate with hprepare | ⟨hplan, hpg⟩
      · exact absurd ⟨e, hprepare, hvalue⟩ h
      · exact ⟨hplan, e, hpg⟩

end Row

section Example

def nullAmountRow : BronzeRow :=
  ⟨"w", "SHOPIFY", "order", "o1", 5000000, "\x7b\"id\": 1, \"gross_sales_mu\": null\x7d", ""⟩

end Example

end BrainV2.Transform
