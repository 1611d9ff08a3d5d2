import BrainV2.Lib.Runs
import Mathlib

/-!
# Tables of tenants

Rows that belong to tenants, and transactions that each work for one of them.

* `own`: the rows of one tenant;
* `Confined`: a statement that works as if the table held the rows of its tenant only, and leaves
  the others as they are;
* `select`, `insert`, `upsert`, `update`, `delete`: statements, and when they are confined;
* `Store`, `Tx`: several tables, and what a transaction does to them, which is nothing when it
  fails;
* `Alone`: a transaction that is confined; what is put together from such is such;
* `Leaves`: a transaction that leaves a table as it is;
* `run_alone`: in a run of such, each tenant sees what it would see if it were the only one.
-/

namespace BrainV2.Tenants

variable {ω ε : Type*} [DecidableEq ω]

/-! ### Statements -/

section

variable {α β : Type*} (owner : α → ω) (w : ω)

def own (rows : List α) : List α := rows.filter fun r => decide (owner r = w)

/-- What a statement answers and leaves, or its error. -/
abbrev Statement (ε α β : Type*) := List α → Except ε (β × List α)

structure Confined (f : Statement ε α β) : Prop where
  here : ∀ rows, f (own owner w rows) = (f rows).map fun out => (out.1, own owner w out.2)
  elsewhere : ∀ rows out, f rows = .ok out → ∀ w', w' ≠ w →
    own owner w' out.2 = own owner w' rows

def select (picks : α → Bool) : Statement ε α (List α) := fun rows => .ok (rows.filter picks, rows)

/-- A new row, unless it clashes with one that is there. -/
def insert (clash : α → α → Bool) (violation : ε) (row : α) : Statement ε α α := fun rows =>
  if rows.any (clash row) then .error violation else .ok (row, rows ++ [row])

/-- A new row, or a change of the row that it conflicts with. -/
def upsert (conflict : α → Bool) (merge : α → α) (row : α) : Statement ε α α := fun rows =>
  match rows.find? conflict with
  | some old => .ok (merge old, rows.map fun r => if conflict r then merge r else r)
  | none => .ok (row, rows ++ [row])

/-- The rows picked are changed, unless one of them then clashes with a row that is not. -/
def update (picks : α → Bool) (set : α → α) (clash : α → α → Bool) (violation : ε) :
    Statement ε α (List α) := fun rows =>
  let changed := (rows.filter picks).map set
  if changed.any fun c => rows.any fun r => !picks r && clash c r then .error violation
  else .ok (changed, rows.map fun r => if picks r then set r else r)

def delete (picks : α → Bool) : Statement ε α (List α) := fun rows =>
  .ok (rows.filter picks, rows.filter fun r => !picks r)

variable {owner w}

theorem own_append (rows rows' : List α) :
    own owner w (rows ++ rows') = own owner w rows ++ own owner w rows' := List.filter_append ..

theorem own_singleton {row : α} (h : owner row = w) : own owner w [row] = [row] :=
  List.filter_cons_of_pos (decide_eq_true h)

theorem own_singleton_of_ne {row : α} (h : owner row ≠ w) : own owner w [row] = [] :=
  List.filter_cons_of_neg (by rwa [decide_eq_true_eq])

theorem own_map {set : α → α} (h : ∀ r, owner (set r) = owner r) (rows : List α) :
    own owner w (rows.map set) = (own owner w rows).map set := by
  rw [own, List.filter_map]
  refine congrArg (List.map set) (List.filter_congr fun r _ => ?_)
  rw [Function.comp_apply, h]

/-- Rows that are not the tenant's stay as they are under a change of rows that are. -/
theorem own_map_of_ne {set : α → α} {w' : ω} (h : ∀ r, owner (set r) = owner r)
    (hset : ∀ r, owner r = w' → set r = r) (rows : List α) :
    own owner w' (rows.map set) = own owner w' rows := by
  rw [own_map h]
  refine (List.map_congr_left fun r hr => hset r ?_).trans (List.map_id _)
  exact of_decide_eq_true (List.mem_filter.mp hr).2

variable {picks : α → Bool} (hpicks : ∀ r, picks r = true → owner r = w)

include hpicks

theorem filter_own (rows : List α) : (own owner w rows).filter picks = rows.filter picks := by
  rw [own, List.filter_filter]
  refine List.filter_congr fun r _ => ?_
  cases hr : picks r with
  | true => rw [decide_eq_true (hpicks r hr), Bool.and_self]
  | false => rw [Bool.false_and]

theorem any_own (rows : List α) : (own owner w rows).any picks = rows.any picks := by
  rw [Bool.eq_iff_iff, List.any_eq_true, List.any_eq_true]
  constructor
  · rintro ⟨r, hr, hp⟩
    exact ⟨r, (List.mem_filter.mp hr).1, hp⟩
  · rintro ⟨r, hr, hp⟩
    exact ⟨r, List.mem_filter.mpr ⟨hr, decide_eq_true (hpicks r hp)⟩, hp⟩

theorem find?_own (rows : List α) : (own owner w rows).find? picks = rows.find? picks := by
  rw [← List.head?_filter, ← List.head?_filter, filter_own hpicks]

theorem select_confined : Confined owner w (select picks : Statement ε α (List α)) where
  here rows := by
    rw [select, select, filter_own hpicks]
    rfl
  elsewhere rows out h w' hw' := by
    cases h
    rfl

theorem delete_confined : Confined owner w (delete picks : Statement ε α (List α)) where
  here rows := by
    rw [delete, delete, filter_own hpicks, Except.map]
    refine congrArg (fun rest => Except.ok (rows.filter picks, rest)) ?_
    rw [own, own, List.filter_filter, List.filter_filter]
    exact List.filter_congr fun r _ => Bool.and_comm _ _
  elsewhere rows out h w' hw' := by
    cases h
    rw [own, own, List.filter_filter]
    refine List.filter_congr fun r _ => ?_
    by_cases hr : owner r = w'
    · have hnot : picks r = false := by
        refine Bool.eq_false_iff.mpr fun hp => hw' ?_
        rw [← hr, hpicks r hp]
      rw [hnot, Bool.not_false, Bool.and_true]
    · rw [decide_eq_false hr, Bool.false_and]

theorem update_confined {set : α → α} {clash : α → α → Bool} (violation : ε)
    (hset : ∀ r, owner (set r) = owner r) (hclash : ∀ c r, clash c r = true → owner c = owner r) :
    Confined owner w (update picks set clash violation) where
  here rows := by
    have hany : ∀ c ∈ (rows.filter picks).map set,
        ((own owner w rows).any fun r => !picks r && clash c r) =
          rows.any fun r => !picks r && clash c r := by
      intro c hc
      obtain ⟨r, hr, rfl⟩ := List.mem_map.mp hc
      have hr : owner (set r) = w := (hset r).trans (hpicks r (List.mem_filter.mp hr).2)
      refine any_own (fun x hx => ?_) rows
      exact (hclash _ x (Bool.and_eq_true_iff.mp hx).2).symm.trans hr
    have hkeeps : ∀ r, owner (if picks r then set r else r) = owner r := by
      intro r
      split
      · exact hset r
      · rfl
    have hchanged : (((rows.filter picks).map set).any fun c =>
        (own owner w rows).any fun r => !picks r && clash c r) =
          ((rows.filter picks).map set).any fun c => rows.any fun r => !picks r && clash c r := by
      rw [Bool.eq_iff_iff, List.any_eq_true, List.any_eq_true]
      exact exists_congr fun c => and_congr_right fun hc => by rw [hany c hc]
    simp only [update]
    rw [filter_own hpicks, hchanged]
    split
    · rfl
    · rw [Except.map, own_map hkeeps]
  elsewhere rows out h w' hw' := by
    simp only [update] at h
    split at h
    · cases h
    · cases h
      refine own_map_of_ne (fun r => ?_) (fun r hr => ?_) rows
      · split
        · exact hset r
        · rfl
      · refine if_neg fun hp => hw' ?_
        rw [← hr, hpicks r hp]

theorem upsert_confined {merge : α → α} {row : α} (hmerge : ∀ r, owner (merge r) = owner r)
    (hrow : owner row = w) : Confined owner w (upsert picks merge row : Statement ε α α) where
  here rows := by
    have hkeeps : ∀ r, owner (if picks r then merge r else r) = owner r := by
      intro r
      split
      · exact hmerge r
      · rfl
    simp only [upsert]
    rw [find?_own hpicks]
    cases rows.find? picks with
    | some old => rw [Except.map, own_map hkeeps]
    | none => rw [Except.map, own_append, own_singleton hrow]
  elsewhere rows out h w' hw' := by
    simp only [upsert] at h
    cases hfind : rows.find? picks with
    | some old =>
      rw [hfind] at h
      cases h
      refine own_map_of_ne (fun r => ?_) (fun r hr => ?_) rows
      · split
        · exact hmerge r
        · rfl
      · refine if_neg fun hp => hw' ?_
        rw [← hr, hpicks r hp]
    | none =>
      rw [hfind] at h
      cases h
      rw [own_append, own_singleton_of_ne (fun e => hw' (e.symm.trans hrow)), List.append_nil]

omit hpicks in
theorem insert_confined {clash : α → α → Bool} (violation : ε) {row : α} (hrow : owner row = w)
    (hclash : ∀ r, clash row r = true → owner r = w) :
    Confined owner w (insert clash violation row) where
  here rows := by
    rw [insert, insert, any_own hclash]
    split
    · rfl
    · rw [Except.map, own_append, own_singleton hrow]
  elsewhere rows out h w' hw' := by
    rw [insert] at h
    split at h
    · cases h
    · cases h
      rw [own_append, own_singleton_of_ne (fun e => hw' (e.symm.trans hrow)), List.append_nil]

end

/-- The first row picked, after the rows picked are changed. -/
theorem find?_changed {α : Type*} {picks : α → Bool} {set : α → α}
    (h : ∀ r, picks r = true → picks (set r) = true) (rows : List α) :
    (rows.map fun r => if picks r then set r else r).find? picks = (rows.find? picks).map set := by
  induction rows with
  | nil => rfl
  | cons r rows ih =>
    cases hr : picks r with
    | true =>
      rw [List.map_cons, if_pos hr, List.find?_cons_of_pos (h r hr), List.find?_cons_of_pos hr]
      rfl
    | false =>
      have hnot : ¬ picks r = true := Bool.eq_false_iff.mp hr
      rw [List.map_cons, if_neg hnot, List.find?_cons_of_neg hnot, List.find?_cons_of_neg hnot, ih]

/-- What an upsert answers is then the first row in conflict with it. -/
theorem find?_upsert (ε : Type*) {α : Type*} (conflict : α → Bool) (merge : α → α) (row : α)
    (hmerge : ∀ r, conflict r = true → conflict (merge r) = true) (hrow : conflict row = true)
    (rows : List α) :
    ∃ out rows', (upsert conflict merge row : Statement ε α α) rows = .ok (out, rows') ∧
      rows'.find? conflict = some out ∧ out = ((rows.find? conflict).map merge).getD row := by
  unfold upsert
  cases hfind : rows.find? conflict with
  | some old =>
    refine ⟨_, _, rfl, ?_, rfl⟩
    rw [find?_changed hmerge, hfind, Option.map_some]
  | none =>
    refine ⟨_, _, rfl, ?_, rfl⟩
    rw [List.find?_append, hfind, Option.none_or, List.find?_cons_of_pos hrow]

/-! ### Transactions -/

section

variable {τ : Type*} {Row : τ → Type*} {β γ : Type*}

abbrev Store (Row : τ → Type*) := (t : τ) → List (Row t)

/-- An error leaves no state. -/
abbrev Tx (Row : τ → Type*) (ε β : Type*) := Store Row → Except ε (β × Store Row)

namespace Tx

def done (b : β) : Tx Row ε β := fun s => .ok (b, s)

def fail (e : ε) : Tx Row ε β := fun _ => .error e

def andThen (tx : Tx Row ε β) (f : β → Tx Row ε γ) : Tx Row ε γ := fun s =>
  match tx s with
  | .ok (b, s') => f b s'
  | .error e => .error e

/-- One statement on one table. -/
def on [DecidableEq τ] (t : τ) (f : Statement ε (Row t) β) : Tx Row ε β := fun s =>
  match f (s t) with
  | .ok (b, rows) => .ok (b, Function.update s t rows)
  | .error e => .error e

/-- One statement on each of several tables. -/
def onEach [DecidableEq τ] (f : (t : τ) → Statement ε (Row t) β) : List τ → Tx Row ε Unit
  | [] => done ()
  | t :: ts => (on t (f t)).andThen fun _ => onEach f ts

/-- What a transaction answers, and the tables after it. -/
def attempt (tx : Tx Row ε β) (s : Store Row) : Except ε β × Store Row :=
  match tx s with
  | .ok (b, s') => (.ok b, s')
  | .error e => (.error e, s)

end Tx

variable (owner : (t : τ) → Row t → ω) (w : ω)

def ownStore (s : Store Row) : Store Row := fun t => own (owner t) w (s t)

structure Alone (tx : Tx Row ε β) : Prop where
  here : ∀ s, tx (ownStore owner w s) = (tx s).map fun out => (out.1, ownStore owner w out.2)
  elsewhere : ∀ s out, tx s = .ok out → ∀ w', w' ≠ w →
    ownStore owner w' out.2 = ownStore owner w' s

variable {owner w}

theorem ownStore_update [DecidableEq τ] (s : Store Row) (t : τ) (rows : List (Row t)) :
    ownStore owner w (Function.update s t rows) =
      Function.update (ownStore owner w s) t (own (owner t) w rows) := by
  funext t'
  by_cases ht : t' = t
  · subst ht
    simp only [ownStore, Function.update_self]
  · simp only [ownStore, Function.update_of_ne ht]

theorem alone_done (b : β) : Alone owner w (Tx.done b : Tx Row ε β) where
  here _ := rfl
  elsewhere s out h w' _ := by
    cases h
    rfl

theorem alone_fail (e : ε) : Alone owner w (Tx.fail e : Tx Row ε β) where
  here _ := rfl
  elsewhere s out h := by cases h

theorem alone_andThen {tx : Tx Row ε β} {f : β → Tx Row ε γ} (h : Alone owner w tx)
    (hf : ∀ b, Alone owner w (f b)) : Alone owner w (tx.andThen f) where
  here s := by
    have hhere := h.here s
    simp only [Tx.andThen]
    cases htx : tx s with
    | error e =>
      rw [htx] at hhere
      rw [hhere]
      rfl
    | ok out =>
      rw [htx] at hhere
      rw [hhere]
      exact (hf out.1).here out.2
  elsewhere s out hout w' hw' := by
    simp only [Tx.andThen] at hout
    cases htx : tx s with
    | error e =>
      rw [htx] at hout
      cases hout
    | ok mid =>
      rw [htx] at hout
      rw [(hf mid.1).elsewhere mid.2 out hout w' hw', h.elsewhere s mid htx w' hw']

theorem alone_on [DecidableEq τ] {t : τ} {f : Statement ε (Row t) β} (h : Confined (owner t) w f) :
    Alone owner w (Tx.on t f) where
  here s := by
    have hhere := h.here (s t)
    simp only [Tx.on]
    rw [ownStore, hhere]
    cases f (s t) with
    | error e => rfl
    | ok out =>
      simp only [Except.map]
      rw [ownStore_update]
  elsewhere s out hout w' hw' := by
    simp only [Tx.on] at hout
    cases hf : f (s t) with
    | error e =>
      rw [hf] at hout
      cases hout
    | ok res =>
      rw [hf] at hout
      cases hout
      rw [ownStore_update, h.elsewhere (s t) res hf w' hw']
      exact Function.update_eq_self t _

theorem alone_onEach [DecidableEq τ] {f : (t : τ) → Statement ε (Row t) β}
    (h : ∀ t, Confined (owner t) w (f t)) (ts : List τ) : Alone owner w (Tx.onEach f ts) := by
  induction ts with
  | nil => exact alone_done ()
  | cons t ts ih => exact alone_andThen (alone_on (h t)) fun _ => ih

theorem andThen_of_ok {tx : Tx Row ε β} {f : β → Tx Row ε γ} {s s' : Store Row} {b : β}
    (h : tx s = .ok (b, s')) : tx.andThen f s = f b s' := by
  simp only [Tx.andThen, h]

theorem andThen_of_error {tx : Tx Row ε β} {f : β → Tx Row ε γ} {s : Store Row} {e : ε}
    (h : tx s = .error e) : tx.andThen f s = .error e := by
  simp only [Tx.andThen, h]

/-! ### Tables left as they are -/

def Leaves (t : τ) (tx : Tx Row ε β) : Prop := ∀ s out, tx s = .ok out → out.2 t = s t

theorem leaves_done (t : τ) (b : β) : Leaves t (Tx.done b : Tx Row ε β) := by
  intro s out h
  cases h
  rfl

theorem leaves_fail (t : τ) (e : ε) : Leaves t (Tx.fail e : Tx Row ε β) := by
  intro s out h
  cases h

theorem leaves_andThen {t : τ} {tx : Tx Row ε β} {f : β → Tx Row ε γ} (h : Leaves t tx)
    (hf : ∀ b, Leaves t (f b)) : Leaves t (tx.andThen f) := by
  intro s out hout
  simp only [Tx.andThen] at hout
  cases htx : tx s with
  | error e =>
    rw [htx] at hout
    cases hout
  | ok mid =>
    rw [htx] at hout
    exact (hf mid.1 mid.2 out hout).trans (h s mid htx)

theorem leaves_on [DecidableEq τ] {t t' : τ} (h : t ≠ t') (f : Statement ε (Row t') β) :
    Leaves t (Tx.on t' f) := by
  intro s out hout
  simp only [Tx.on] at hout
  cases hf : f (s t') with
  | error e =>
    rw [hf] at hout
    cases hout
  | ok res =>
    rw [hf] at hout
    cases hout
    exact Function.update_of_ne h _ _

theorem on_select [DecidableEq τ] (t : τ) (picks : Row t → Bool) (s : Store Row) :
    (Tx.on t (select picks) : Tx Row ε (List (Row t))) s = .ok ((s t).filter picks, s) := by
  simp only [Tx.on, select, Function.update_eq_self]

theorem leaves_select [DecidableEq τ] (t t' : τ) (picks : Row t' → Bool) :
    Leaves t (Tx.on t' (select picks) : Tx Row ε (List (Row t'))) := by
  intro s out h
  rw [on_select] at h
  cases h
  rfl

theorem attempt_leaves {t : τ} {tx : Tx Row ε β} (h : Leaves t tx) (s : Store Row) :
    (tx.attempt s).2 t = s t := by
  simp only [Tx.attempt]
  cases htx : tx s with
  | error e => rfl
  | ok out => exact h s out htx

/-! ### Runs -/

variable {ι : Type*} (perform : ι → Tx Row ε β)

def step (s : Store Row) (i : ι) : Store Row := ((perform i).attempt s).2

def answer (s : Store Row) (i : ι) : Except ε β := ((perform i).attempt s).1

variable {perform} {tenant : ι → ω}

theorem attempt_here {tx : Tx Row ε β} (h : Alone owner w tx) (s : Store Row) :
    tx.attempt (ownStore owner w s) = ((tx.attempt s).1, ownStore owner w (tx.attempt s).2) := by
  have hhere := h.here s
  simp only [Tx.attempt]
  rw [hhere]
  cases tx s with
  | error e => rfl
  | ok out => rfl

theorem attempt_elsewhere {tx : Tx Row ε β} (h : Alone owner w tx) (s : Store Row) {w' : ω}
    (hw' : w' ≠ w) : ownStore owner w' (tx.attempt s).2 = ownStore owner w' s := by
  simp only [Tx.attempt]
  cases htx : tx s with
  | error e => rfl
  | ok out => exact h.elsewhere s out htx w' hw'

/-- What a tenant finds after a run, and what it was answered, are those of the run of its own
transactions on its own rows. -/
theorem run_alone (h : ∀ i, Alone owner (tenant i) (perform i)) (w : ω) (s : Store Row)
    (is : List ι) :
    ownStore owner w (Runs.exec (step perform) s is) =
        Runs.exec (step perform) (ownStore owner w s) (is.filter fun i => decide (tenant i = w)) ∧
      (Runs.answers (answer perform) (step perform) s is).filter
          (fun x => decide (tenant x.1 = w)) =
        Runs.answers (answer perform) (step perform) (ownStore owner w s)
          (is.filter fun i => decide (tenant i = w)) := by
  have hmine : ∀ (s : Store Row) i, decide (tenant i = w) = true →
      (perform i).attempt (ownStore owner w s) =
        (((perform i).attempt s).1, ownStore owner w ((perform i).attempt s).2) := by
    intro s i hi
    obtain rfl := of_decide_eq_true hi
    exact attempt_here (h i) s
  have hstep : ∀ (s : Store Row) i, decide (tenant i = w) = true →
      ownStore owner w (step perform s i) = step perform (ownStore owner w s) i := by
    intro s i hi
    rw [step, step, hmine s i hi]
  have hother : ∀ (s : Store Row) i, decide (tenant i = w) = false →
      ownStore owner w (step perform s i) = ownStore owner w s := by
    intro s i hi
    exact attempt_elsewhere (h i) s (Ne.symm (of_decide_eq_false hi))
  have hanswer : ∀ (s : Store Row) i, decide (tenant i = w) = true →
      answer perform s i = answer perform (ownStore owner w s) i := by
    intro s i hi
    rw [answer, answer, hmine s i hi]
  exact ⟨Runs.exec_filter hstep hother s is, Runs.answers_filter hstep hother hanswer s is⟩

end

end BrainV2.Tenants
