import BrainV2.Transform.Gap

/-!
# Where the rows behind the cursor went

The dead letter queue is a safety net: when a record cannot be produced this is
logged and the cursor moves on.

* `RecordOn`: a record of the row was produced;
* `Filed`: the row was upserted, skipped for lack of a fact, or handed to the
  dead letter queue, with a record unless `NotProduced`;
* `LogFiled`: so was every row that was advanced past;
* `passed_rows_filed`: in runs of tie safe batches, so is every row behind a
  cursor;
* `dropped_row_unrecorded`: without a producer there is no record.
-/

namespace BrainV2.Transform

open Py

/-- The inputs that the answers of a run of ticks hand to the processor. -/
def Offered (envs : List (TickEnv RowEnv)) (input : BronzeRow × RowEnv) : Prop :=
  ∃ env ∈ envs, ∃ key rows, (env.stream key).query = some rows ∧ input ∈ rows

/-- A record of the row is on the topic. -/
def RecordOn (topic : List KafkaMessage) (row : BronzeRow) : Prop :=
  ∃ errorClass errorDetail producedAt record,
    buildDlqRecord (dlqEventOf row errorClass errorDetail) producedAt = .ok record ∧
      ⟨utf8 row.workspaceId, utf8 (Json.dumps (.obj record))⟩ ∈ topic

/-- There is no producer, the record is refused, or the send fails. -/
def NotProduced (row : BronzeRow) (env : RowEnv) : Prop :=
  env.dlqProducer = none ∨ row.workspaceId = "" ∨ row.idempotencyKey = "" ∨
    ∃ e, env.dlqProducer = some (.error e)

/-- The payload is an object, and no mapper is registered for it or the mapper
has no fact for it. -/
def NoFact (settings : Settings) (row : BronzeRow) : Prop :=
  ∃ members, decodePayload settings.limits row.payload row.idempotencyKey = .ok (.obj members) ∧
    (settings.registry.get row.vendor row.eventType = none ∨
      ∃ table mapper, settings.registry.get row.vendor row.eventType = some (table, mapper) ∧
        mapper (Dict.setDefault members "workspace_id" (.str row.workspaceId)) = .ok none)

inductive Filed (settings : Settings) (topic : List KafkaMessage) (row : BronzeRow)
    (env : RowEnv) : Outcome → Prop where
  | upserted (hplan : ∃ plan, prepareRow settings row = .ok (some plan))
      (hpg : env.pg = .ok ()) : Filed settings topic row env .upserted
  | skipped (hnone : NoFact settings row) : Filed settings topic row env .skipped
  | toDlq {outcome : Outcome} (hdlq : outcome.toDlq = true)
      (hrecord : RecordOn topic row ∨ NotProduced row env) :
      Filed settings topic row env outcome

/-- Every row that was advanced past is filed. -/
def LogFiled (settings : Settings) (offered : BronzeRow × RowEnv → Prop) (st : ProcState)
    (calls : List (BronzeRow × Outcome)) : Prop :=
  ∀ call ∈ calls, call.2.advances = true →
    ∃ env, offered (call.1, env) ∧ Filed settings st.dlq call.1 env call.2

section Row

variable {settings : Settings} {st : ProcState} {row : BronzeRow} {env : RowEnv}

theorem prepareRow_none (h : prepareRow settings row = .ok none) : NoFact settings row := by
  obtain ⟨members, hdecode, hdispatch⟩ := prepare_ok_none_iff.mp h
  exact ⟨members, hdecode, dispatch_ok_none_iff.mp hdispatch⟩

/-- What is on the topic after a row: what was there, and the row's record where
one was produced. -/
theorem sendToDlq_spec (env : RowEnv) (row : BronzeRow) (errorClass errorDetail : String)
    (topic : List KafkaMessage) :
    topic ⊆ (sendToDlq env row errorClass errorDetail topic).2 ∧
      (RecordOn (sendToDlq env row errorClass errorDetail topic).2 row ∨ NotProduced row env) := by
  unfold sendToDlq
  cases hproducer : env.dlqProducer with
  | none => exact ⟨fun _ h => h, Or.inr (Or.inl hproducer)⟩
  | some send =>
    rcases produceDlqEvent_cases send (dlqEventOf row errorClass errorDetail) env.producedAt topic
      with ⟨record, hbuild, -, heq⟩ | ⟨hwhy, heq⟩
    · simp only [heq]
      refine ⟨List.subset_append_left _ _, Or.inl ⟨_, _, _, record, hbuild, ?_⟩⟩
      exact List.mem_append_right _ (List.mem_singleton.mpr rfl)
    · simp only [heq]
      refine ⟨fun _ h => h, Or.inr ?_⟩
      rcases hwhy with h | h | ⟨e, h⟩
      · exact Or.inr (Or.inl h)
      · exact Or.inr (Or.inr (Or.inl h))
      · exact Or.inr (Or.inr (Or.inr ⟨e, h ▸ hproducer⟩))

theorem NotProduced.of_record {topic topic' : List KafkaMessage} (h : topic ⊆ topic')
    (hrecord : RecordOn topic row ∨ NotProduced row env) :
    RecordOn topic' row ∨ NotProduced row env := by
  rcases hrecord with ⟨cls, detail, producedAt, record, hbuild, hmem⟩ | hnot
  · exact Or.inl ⟨cls, detail, producedAt, record, hbuild, h hmem⟩
  · exact Or.inr hnot

theorem Filed.mono {topic topic' : List KafkaMessage} (h : topic ⊆ topic') {outcome : Outcome}
    (hfiled : Filed settings topic row env outcome) : Filed settings topic' row env outcome := by
  cases hfiled with
  | upserted hplan hpg => exact .upserted hplan hpg
  | skipped hnone => exact .skipped hnone
  | toDlq hdlq hrecord => exact .toDlq hdlq (NotProduced.of_record h hrecord)

/-- Records stay on the topic. -/
theorem processOneRow_topic (settings : Settings) (st : ProcState) (row : BronzeRow)
    (env : RowEnv) : st.dlq ⊆ (processOneRow settings st row env).2.dlq := by
  unfold processOneRow
  simp only
  split
  · exact (sendToDlq_spec env row _ _ st.dlq).1
  · split
    · split
      · exact (sendToDlq_spec env row _ _ st.dlq).1
      · exact fun _ h => h
    · split <;> exact fun _ h => h

/-- A row that is advanced past is filed. -/
theorem processOneRow_filed (h : (processOneRow settings st row env).1.advances = true) :
    Filed settings (processOneRow settings st row env).2.dlq row env
      (processOneRow settings st row env).1 := by
  revert h
  cases hopen : (st.breaker.isOpen settings.breaker env.checkedAt row.breakerKey).1 with
  | true =>
    intro _
    simp only [processOneRow, hopen, if_true]
    exact .toDlq rfl (sendToDlq_spec env row _ _ st.dlq).2
  | false =>
    simp only [processOneRow, hopen, Bool.false_eq_true, if_false]
    cases hgraduate : graduateRow settings row env with
    | error e =>
      simp only
      split
      · intro _
        exact .toDlq rfl (sendToDlq_spec env row _ _ st.dlq).2
      · intro h
        cases h
    | ok result =>
      have hok := graduateRow_ok_iff.mp ⟨result, hgraduate, rfl⟩
      simp only
      split
      · rename_i hskipped
        intro _
        rw [hskipped, if_pos rfl] at hok
        exact .skipped (prepareRow_none hok)
      · rename_i hskipped
        intro _
        rw [if_neg hskipped] at hok
        exact .upserted hok.1 hok.2

theorem keepsLog_logFiled (settings : Settings) (offered : BronzeRow × RowEnv → Prop) :
    (transformProcessor settings).KeepsLog offered (LogFiled settings offered) := by
  intro st calls row env hlog hinput call hcall hadvances
  rcases List.mem_cons.mp hcall with rfl | hcall
  · exact ⟨env, hinput, processOneRow_filed hadvances⟩
  · obtain ⟨env', hoffered, hfiled⟩ := hlog call hcall hadvances
    exact ⟨env', hoffered, hfiled.mono (processOneRow_topic settings st row env)⟩

end Row

section Ticks

variable {settings : Settings} {bronze : List BronzeRow} {batchSize : Nat} {s : TransformConsumer}
  {envs : List (TickEnv RowEnv)}

/-- Every row behind a cursor is filed. -/
def PassedFiled (settings : Settings) (envs : List (TickEnv RowEnv)) (bronze : List BronzeRow)
    (s : TransformConsumer) : Prop :=
  ∀ key c, s.cursors.get key = some c → ∀ row ∈ bronze, row.stream = key → row.receivedAt ≤ c →
    ∃ outcome env, (row, outcome) ∈ s.calls ∧ Offered envs (row, env) ∧
      Filed settings s.proc.dlq row env outcome

theorem passedFiled_of_log (hcovered : Covered (transformProcessor settings) bronze s)
    (hlog : LogFiled settings (Offered envs) s.proc s.calls) :
    PassedFiled settings envs bronze s := by
  intro key c hc row hrow hstream hle
  obtain ⟨outcome, hcall, hadvances⟩ := hcovered key c hc row hrow hstream hle
  obtain ⟨env, hoffered, hfiled⟩ := hlog _ hcall hadvances
  exact ⟨outcome, env, hcall, hoffered, hfiled⟩

theorem ticks_logFiled (hcalls : s.calls = []) :
    Runs.Always (transformProcessor settings).tick
      (fun t => LogFiled settings (Offered envs) t.proc t.calls) s envs := by
  have hstart : LogFiled settings (Offered envs) s.proc s.calls := by
    intro call hcall
    rw [hcalls] at hcall
    cases hcall
  have hoffers : ∀ (t : TransformConsumer), ∀ env ∈ envs,
      ∀ key, (env.stream key).Offers (Offered envs) :=
    fun _ env henv key rows hquery input hinput => ⟨env, henv, key, rows, hquery, hinput⟩
  have hstep : ∀ (t : TransformConsumer) (env : TickEnv RowEnv),
      LogFiled settings (Offered envs) t.proc t.calls →
      (∀ key, (env.stream key).Offers (Offered envs)) →
      LogFiled settings (Offered envs) ((transformProcessor settings).tick t env).proc
        ((transformProcessor settings).tick t env).calls :=
    fun _ _ ht henv => tick_log (keepsLog_logFiled settings _) ht henv
  exact Runs.always_of_step hstep hstart (Runs.allowed_of_forall hoffers s)

/-- In a run of tie safe batches, every row behind a cursor was upserted,
skipped, or handed to the dead letter queue, which has its record unless none
could be produced. -/
theorem passed_rows_filed (hstart : Covered (transformProcessor settings) bronze s)
    (hcalls : s.calls = [])
    (hvalid : Runs.Allowed (transformProcessor settings).tick
      (fun s env => env.Valid bronze batchSize s.cursors) s envs)
    (hsafe : Runs.Allowed (transformProcessor settings).tick
      (TieSafe (transformProcessor settings) bronze) s envs) :
    Runs.Always (transformProcessor settings).tick (PassedFiled settings envs bronze) s envs := by
  have hcovered := (ticks_cover_iff hstart hvalid).mpr hsafe
  have hboth := hcovered.and (ticks_logFiled hcalls)
  exact hboth.mono fun _ ht => passedFiled_of_log ht.1 ht.2

end Ticks

section Example

/-- Every row behind a cursor was upserted, skipped, or has its record. -/
def NothingSilent (bronze : List BronzeRow) (s : TransformConsumer) : Prop :=
  ∀ key c, s.cursors.get key = some c → ∀ row ∈ bronze, row.stream = key → row.receivedAt ≤ c →
    (row, Outcome.upserted) ∈ s.calls ∨ (row, Outcome.skipped) ∈ s.calls ∨ RecordOn s.proc.dlq row

def garbledRow : BronzeRow := ⟨"w", "SHOPIFY", "refund", "g", 5000000, "x", ""⟩

theorem garbledRow_valid : Runs.Allowed (transformProcessor exampleSettings).tick
    (fun s env => env.Valid [garbledRow] 500 s.cursors) exampleConsumer
    [exampleTick 10000000 [garbledRow]] :=
  ⟨exampleTick_valid rfl rfl ⟨[garbledRow], by decide, by decide, rfl⟩, trivial⟩

/-- The consumer after the tick on the row. -/
def garbledState : TransformConsumer :=
  (transformProcessor exampleSettings).tick exampleConsumer (exampleTick 10000000 [garbledRow])

/-- A row that is not JSON, and no producer: the cursor passes it without a record. -/
theorem dropped_row_unrecorded :
    Covered (transformProcessor exampleSettings) [garbledRow] exampleConsumer ∧
    Runs.Allowed (transformProcessor exampleSettings).tick
      (fun s env => env.Valid [garbledRow] 500 s.cursors) exampleConsumer
      [exampleTick 10000000 [garbledRow]] ∧
    ¬ Runs.Always (transformProcessor exampleSettings).tick (NothingSilent [garbledRow])
      exampleConsumer [exampleTick 10000000 [garbledRow]] := by
  refine ⟨covered_of_null _ exampleConsumer_null, garbledRow_valid, ?_⟩
  intro h
  have hcursor : garbledState.cursors.get exampleKey = some 5000000 := by decide
  have htopic : garbledState.proc.dlq = [] := by decide
  have hcalled : ∀ call ∈ garbledState.calls, call.2.toDlq = true := by decide
  have hlast : NothingSilent [garbledRow] garbledState := h.last
  rcases hlast exampleKey 5000000 hcursor garbledRow (List.mem_singleton.mpr rfl) rfl
    (Int.le_refl _) with hcall | hcall | ⟨_, _, _, _, -, hrecord⟩
  · cases hcalled _ hcall
  · cases hcalled _ hcall
  · rw [htopic] at hrecord
    cases hrecord

/-- The row is filed all the same: it went to the queue, where nothing was
produced for want of a producer. -/
theorem dropped_row_filed :
    Runs.Always (transformProcessor exampleSettings).tick
      (PassedFiled exampleSettings [exampleTick 10000000 [garbledRow]] [garbledRow])
      exampleConsumer [exampleTick 10000000 [garbledRow]] := by
  apply passed_rows_filed (covered_of_null _ exampleConsumer_null) rfl garbledRow_valid
  refine ⟨fun _ => ⟨?_, trivial⟩, trivial⟩
  intro _ rows hrows last _ row hrow _ _
  cases hrows
  have hall : (transformProcessor exampleSettings).accepted ProcState.fresh
      [(garbledRow, exampleRowEnv)] = [garbledRow] := by decide
  right
  exact hall.symm ▸ hrow

end Example

end BrainV2.Transform
