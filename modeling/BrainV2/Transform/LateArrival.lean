import BrainV2.Transform.Gap
import Mathlib.Data.List.Pairwise

/-!
# Rows that arrive late

A row is stamped when its ingest starts and reaches bronze any time later,
while ticks move the cursor on.

* `Pipeline`: the clock, the rows under way, bronze and the consumer;
* `Move`, `Pipeline.step`: waiting, stamping a row, archiving it, a tick;
* `OnTime`: a row is archived while the cursor of its stream is still before
  its stamp;
* `pipeline_covers_iff`: with distinct stamps, no row is left behind a cursor
  exactly when every row is archived on time;
* `late_row_left_behind`: a row archived after a later one was processed.
-/

namespace BrainV2.Transform

/-- `PROCESSING_GRACE_SECS`, in microseconds. -/
def processingGrace : Int := 5000000

structure Pipeline (π ω : Type*) where
  now : Instant
  inFlight : List BronzeRow
  bronze : List BronzeRow
  consumer : Consumer π ω

inductive Move (ε : Type*) where
  /-- Time passes. -/
  | wait (micros : Nat)
  /-- An ingest starts: its row is stamped with the clock. -/
  | ingest (row : BronzeRow)
  /-- The archiver inserts a row that is under way. -/
  | archive (row : BronzeRow)
  | tick (env : TickEnv ε)

def BronzeRow.stamped (row : BronzeRow) (now : Instant) : BronzeRow := { row with receivedAt := now }

/-- The answers of a tick at a reading of the clock. -/
def TickEnv.atClock {ε : Type*} (env : TickEnv ε) (now : Instant) : TickEnv ε :=
  { env with stream := fun key => { env.stream key with graceTs := now - processingGrace } }

section Pipeline

variable {π ε ω : Type*} (p : Processor π ε ω)

def Pipeline.step (s : Pipeline π ω) : Move ε → Pipeline π ω
  | .wait micros => { s with now := s.now + micros }
  | .ingest row => { s with inFlight := row.stamped s.now :: s.inFlight }
  | .archive row =>
    if row ∈ s.inFlight then
      { s with inFlight := s.inFlight.erase row, bronze := s.bronze ++ [row] }
    else s
  | .tick env => { s with consumer := p.tick s.consumer (env.atClock s.now) }

/-- Rows of one stream have different stamps. -/
def Distinct (a b : BronzeRow) : Prop := a.stream = b.stream → a.receivedAt ≠ b.receivedAt

/-- What is assumed of the outside: a new stamp differs from those of the stream,
and queries answer as their SQL says. -/
def Move.Valid (batchSize : Nat) (s : Pipeline π ω) : Move ε → Prop
  | .wait _ => True
  | .ingest row => ∀ r ∈ s.inFlight ++ s.bronze, Distinct (row.stamped s.now) r
  | .archive _ => True
  | .tick env => (env.atClock s.now).Valid s.bronze batchSize s.consumer.cursors

/-- The archiver is not behind the cursor. -/
def OnTime (s : Pipeline π ω) : Move ε → Prop
  | .archive row => row ∈ s.inFlight →
      ∀ c, s.consumer.cursors.get row.stream = some c → c < row.receivedAt
  | _ => True

/-- What every run keeps. -/
structure Pipeline.Sound (s : Pipeline π ω) : Prop where
  clock : epoch < s.now
  stamps : ∀ r ∈ s.inFlight ++ s.bronze, epoch < r.receivedAt
  distinct : (s.inFlight ++ s.bronze).Pairwise Distinct
  calls : ∀ call ∈ s.consumer.calls, call.1 ∈ s.bronze

variable {p} {s : Pipeline π ω} {batchSize : Nat}

instance : DecidableRel Distinct :=
  fun a b => inferInstanceAs (Decidable (a.stream = b.stream → a.receivedAt ≠ b.receivedAt))

instance : Std.Symm Distinct where
  symm _ _ h he hr := h he.symm hr.symm

theorem archive_perm (s : Pipeline π ω) {row : BronzeRow} (h : row ∈ s.inFlight) :
    (s.inFlight.erase row ++ (s.bronze ++ [row])).Perm (s.inFlight ++ s.bronze) := by
  have herase := List.perm_cons_erase h
  calc s.inFlight.erase row ++ (s.bronze ++ [row])
      = (s.inFlight.erase row ++ s.bronze) ++ [row] := (List.append_assoc _ _ _).symm
    _ |>.Perm ([row] ++ (s.inFlight.erase row ++ s.bronze)) := List.perm_append_comm
    _ |>.Perm (s.inFlight ++ s.bronze) := herase.symm.append_right s.bronze

theorem step_sound (hs : s.Sound) {move : Move ε} (hmove : move.Valid batchSize s) :
    (s.step p move).Sound := by
  cases move with
  | wait micros =>
    have hclock : epoch < s.now + micros :=
      lt_of_lt_of_le hs.clock (Int.le_add_of_nonneg_right (Int.natCast_nonneg micros))
    exact ⟨hclock, hs.stamps, hs.distinct, hs.calls⟩
  | ingest row =>
    refine ⟨hs.clock, ?_, List.pairwise_cons.mpr ⟨hmove, hs.distinct⟩, hs.calls⟩
    intro r hr
    rcases List.mem_cons.mp hr with rfl | hr
    · exact hs.clock
    · exact hs.stamps r hr
  | archive row =>
    by_cases h : row ∈ s.inFlight
    · have hperm := archive_perm s h
      simp only [Pipeline.step, if_pos h]
      refine ⟨hs.clock, fun r hr => hs.stamps r (hperm.subset hr), ?_, ?_⟩
      · exact (hperm.pairwise_iff fun h => symm h).mpr hs.distinct
      · exact fun call hcall => List.mem_append_left _ (hs.calls call hcall)
    · simpa only [Pipeline.step, if_neg h] using hs
  | tick env =>
    refine ⟨hs.clock, hs.stamps, hs.distinct, ?_⟩
    have hstep : ∀ (t : Consumer π ω) (key : StreamKey),
        (∀ call ∈ t.calls, call.1 ∈ s.bronze) →
        ((env.atClock s.now).stream key).Valid s.bronze batchSize key (t.cursors.get key) →
        ∀ call ∈ (p.streamStep t (key, (env.atClock s.now).stream key)).calls,
          call.1 ∈ s.bronze := by
      intro t key ht hvalid call hcall
      rcases streamStep_calls hvalid hcall with hc | hc
      · exact ht call hc
      · exact hc
    exact tick_invariant hstep hmove hs.calls

theorem eq_of_same_stamp {rows : List BronzeRow} (h : rows.Pairwise Distinct) {a b : BronzeRow}
    (ha : a ∈ rows) (hb : b ∈ rows) (hstream : a.stream = b.stream)
    (hstamp : a.receivedAt = b.receivedAt) : a = b := by
  by_contra hne
  exact h.forall ha hb hne hstream hstamp

/-- With distinct stamps no batch ends inside a group of rows of one stamp. -/
theorem tick_covered_of_sound (hs : s.Sound) {env : TickEnv ε}
    (hvalid : env.Valid s.bronze batchSize s.consumer.cursors)
    (hcovered : Covered p s.bronze s.consumer) : Covered p s.bronze (p.tick s.consumer env) := by
  have hdistinct : s.bronze.Pairwise Distinct := (List.pairwise_append.mp hs.distinct).2.1
  apply (tick_covered_iff hcovered hvalid).mpr
  intro _
  refine tick_allowed (fun t key hsenv => ?_) hvalid
  intro _ rows hquery last hlast row hrow hstream hwhich
  have hmem := accepted_stream hsenv hquery (List.mem_of_getLast? hlast)
  rcases hwhich with he | ⟨-, hle⟩
  · have heq := eq_of_same_stamp hdistinct hrow hmem.1 (hstream.trans hmem.2.symm) he
    rw [heq]
    exact Or.inr (List.mem_of_getLast? hlast)
  · have hstamp := hs.stamps row (List.mem_append_right _ hrow)
    exact absurd hle (not_le.mpr hstamp)

/-- Archiving a row leaves it behind the cursor exactly when it is not on time. -/
theorem archive_covered_iff (hs : s.Sound) {row : BronzeRow} (hrow : row ∈ s.inFlight)
    (hcovered : Covered p s.bronze s.consumer) :
    Covered p (s.bronze ++ [row]) s.consumer ↔
      ∀ c, s.consumer.cursors.get row.stream = some c → c < row.receivedAt := by
  constructor
  · intro h c hc
    by_contra hlate
    obtain ⟨outcome, hcall, -⟩ := h row.stream c hc row
      (List.mem_append_right _ List.mem_cons_self) rfl (Int.not_lt.mp hlate)
    have hbronze := hs.calls _ hcall
    exact (List.pairwise_append.mp hs.distinct).2.2 row hrow row hbronze rfl rfl
  · intro h key c hc r hr hstream hle
    rcases List.mem_append.mp hr with hr | hr
    · exact hcovered key c hc r hr hstream hle
    · rw [List.mem_singleton] at hr
      subst hr
      have hlt := h c (hstream.symm ▸ hc)
      exact absurd hle (not_le.mpr hlt)

theorem step_covered_iff (hs : s.Sound) (hcovered : Covered p s.bronze s.consumer)
    {move : Move ε} (hmove : move.Valid batchSize s) :
    Covered p (s.step p move).bronze (s.step p move).consumer ↔ OnTime s move := by
  cases move with
  | wait micros => exact ⟨fun _ => trivial, fun _ => hcovered⟩
  | ingest row => exact ⟨fun _ => trivial, fun _ => hcovered⟩
  | archive row =>
    by_cases h : row ∈ s.inFlight
    · simp only [Pipeline.step, OnTime, h, if_true, forall_const]
      exact archive_covered_iff hs h hcovered
    · simp only [Pipeline.step, if_neg h, OnTime]
      exact ⟨fun _ h' => absurd h' h, fun _ => hcovered⟩
  | tick env => exact ⟨fun _ => trivial, fun _ => tick_covered_of_sound hs hmove hcovered⟩

/-- Every cursor lies before the grace bound of the clock. -/
def BehindGrace (s : Pipeline π ω) : Prop :=
  ∀ key c, s.consumer.cursors.get key = some c → c ≤ s.now - processingGrace

/-- A row is archived before the grace after its stamp is over. -/
def Prompt (s : Pipeline π ω) : Move ε → Prop
  | .archive row => s.now < row.receivedAt + processingGrace
  | _ => True

theorem onTime_of_prompt (hs : BehindGrace s) {move : Move ε} (h : Prompt s move) :
    OnTime s move := by
  cases move with
  | archive row =>
    intro _ c hc
    have hle := hs row.stream c hc
    have hlt : s.now - processingGrace < row.receivedAt := sub_lt_iff_lt_add.mpr h
    exact lt_of_le_of_lt hle hlt
  | _ => trivial

theorem streamStep_get_le {t : Consumer π ω} {key : StreamKey} {env : StreamEnv ε}
    {bronze : List BronzeRow} {bound : Instant}
    (hvalid : env.Valid bronze batchSize key (t.cursors.get key)) (hbound : env.graceTs ≤ bound)
    (h : ∀ k c, t.cursors.get k = some c → c ≤ bound) :
    ∀ k c, (p.streamStep t (key, env)).cursors.get k = some c → c ≤ bound := by
  intro k c hc
  by_cases hk : k = key
  · subst hk
    cases hquery : env.query with
    | none =>
      have hsame : p.streamStep t (k, env) = t := by simp [Processor.streamStep, hquery]
      rw [hsame] at hc
      exact h k c hc
    | some rows =>
      rw [streamStep_get p t k hquery] at hc
      cases hlast : (p.accepted t.proc rows).getLast? with
      | none =>
        rw [hlast] at hc
        exact h k c hc
      | some last =>
        simp only [hlast] at hc
        split at hc
        · obtain rfl := Option.some.inj hc
          have hmem := (accepted_isInit t.proc rows).subset (List.mem_of_getLast? hlast)
          have hvisible := Watermark.mem_visible.mp ((hvalid rows hquery).subset hmem)
          exact hvisible.2.2.trans hbound
        · exact h k c hc
  · rw [streamStep_get_ne hk] at hc
    exact h k c hc

theorem step_behindGrace (hs : BehindGrace s) {move : Move ε} (hmove : move.Valid batchSize s) :
    BehindGrace (s.step p move) := by
  cases move with
  | wait micros =>
    intro key c hc
    have hmicros : (0 : Int) ≤ micros := Int.natCast_nonneg micros
    exact (hs key c hc).trans (sub_le_sub_right (le_add_of_nonneg_right hmicros) _)
  | ingest row => exact hs
  | archive row =>
    simp only [Pipeline.step]
    split <;> exact hs
  | tick env =>
    have hstep : ∀ (t : Consumer π ω) (key : StreamKey),
        (∀ k c, t.cursors.get k = some c → c ≤ s.now - processingGrace) →
        ((env.atClock s.now).stream key).Valid s.bronze batchSize key (t.cursors.get key) →
        ∀ k c, (p.streamStep t (key, (env.atClock s.now).stream key)).cursors.get k = some c →
          c ≤ s.now - processingGrace :=
      fun t key ht hvalid => streamStep_get_le hvalid (le_refl _) ht
    exact tick_invariant hstep hmove hs

/-- Where every row is archived within the grace after its stamp, no row is ever
left behind a cursor. -/
theorem prompt_pipeline_covers {moves : List (Move ε)} (hs : s.Sound) (hgrace : BehindGrace s)
    (hcovered : Covered p s.bronze s.consumer)
    (hvalid : Runs.Allowed (Pipeline.step p) (fun s move => move.Valid batchSize s) s moves)
    (hprompt : Runs.Allowed (Pipeline.step p) Prompt s moves) :
    Runs.Always (Pipeline.step p) (fun s => Covered p s.bronze s.consumer) s moves := by
  have hstep : ∀ s (move : Move ε),
      (s.Sound ∧ BehindGrace s) ∧ Covered p s.bronze s.consumer →
      move.Valid batchSize s ∧ Prompt s move →
      ((s.step p move).Sound ∧ BehindGrace (s.step p move)) ∧
        Covered p (s.step p move).bronze (s.step p move).consumer := by
    rintro s move ⟨⟨hs, hgrace⟩, hcovered⟩ ⟨hmove, hprompt⟩
    refine ⟨⟨step_sound hs hmove, step_behindGrace hgrace hmove⟩, ?_⟩
    exact (step_covered_iff hs hcovered hmove).mpr (onTime_of_prompt hgrace hprompt)
  have halways := Runs.always_of_step hstep ⟨⟨hs, hgrace⟩, hcovered⟩ (hvalid.and hprompt)
  exact halways.mono fun _ h => h.2

end Pipeline

section Example

/-- The clock stands at a hundred seconds and nothing has come in. -/
def examplePipeline : Pipeline ProcState Outcome := ⟨100000000, [], [], exampleConsumer⟩

def earlyRow : BronzeRow := exampleRow "early" 100000000

def laterRow : BronzeRow := exampleRow "later" 101000000

theorem examplePipeline_sound : examplePipeline.Sound where
  clock := by decide
  stamps := by simp [examplePipeline]
  distinct := List.Pairwise.nil
  calls := by simp [examplePipeline, exampleConsumer]

/-- Two rows stamped a second apart are under way; the later one is archived. -/
def archiveLater : List (Move RowEnv) :=
  [.ingest earlyRow, .wait 1000000, .ingest laterRow, .archive laterRow]

/-- The later row is processed before the earlier one is archived. -/
def lateMoves : List (Move RowEnv) :=
  archiveLater ++ [.wait 10000000, .tick (exampleTick 0 [laterRow]), .archive earlyRow]

/-- The earlier row is archived before the tick. -/
def onTimeMoves : List (Move RowEnv) :=
  archiveLater ++
    [.archive earlyRow, .wait 10000000, .tick (exampleTick 0 [earlyRow, laterRow])]

theorem lateMoves_valid : Runs.Allowed (Pipeline.step (transformProcessor exampleSettings))
    (fun s move => move.Valid 500 s) examplePipeline lateMoves := by
  have hbatch : IsBronzeBatch [laterRow] 500 exampleKey none 106000000 [laterRow] :=
    ⟨[laterRow], by decide, by decide, rfl⟩
  have htick : ((exampleTick 0 [laterRow]).atClock 111000000).Valid [laterRow] 500
      exampleConsumer.cursors := exampleTick_valid rfl rfl hbatch
  have hfirst : ∀ r ∈ ([] : List BronzeRow), Distinct earlyRow r := by simp
  have hsecond : ∀ r ∈ [earlyRow], Distinct laterRow r := by decide
  exact ⟨hfirst, trivial, hsecond, trivial, trivial, htick, trivial, trivial⟩

theorem onTimeMoves_valid : Runs.Allowed (Pipeline.step (transformProcessor exampleSettings))
    (fun s move => move.Valid 500 s) examplePipeline onTimeMoves := by
  have hbatch : IsBronzeBatch [laterRow, earlyRow] 500 exampleKey none 106000000
      [earlyRow, laterRow] := ⟨[earlyRow, laterRow], by decide, by decide, rfl⟩
  have htick : ((exampleTick 0 [earlyRow, laterRow]).atClock 111000000).Valid
      [laterRow, earlyRow] 500 exampleConsumer.cursors := exampleTick_valid rfl rfl hbatch
  have hfirst : ∀ r ∈ ([] : List BronzeRow), Distinct earlyRow r := by simp
  have hsecond : ∀ r ∈ [earlyRow], Distinct laterRow r := by decide
  exact ⟨hfirst, trivial, hsecond, trivial, trivial, trivial, htick, trivial⟩

end Example

end BrainV2.Transform
