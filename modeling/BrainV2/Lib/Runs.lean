import Mathlib.Data.List.Infix

/-!
# Runs of a system driven by inputs

A system is a step function on a state and an input. A run is the list of
inputs it is given.

* `Always`: a property of every state a run passes through;
* `Allowed`: a property of every state and the input taken in it;
* `always_of_step`: what one allowed step preserves, a whole run preserves;
* `allowed_of_step`: the same for a property of each step;
* `always_iff_last`: what no step restores only has to hold at the end;
* `always_iff_allowed`: when a step out of a good state ends in a good state
  exactly under a condition on that state and input, a run is good throughout
  exactly when the condition holds at each of its steps;
* `allowed_iff_allowed`: the same for properties of steps;
* `allowed_always_iff`: the same for a property of the steps and one of the states together;
* `exec_untouched`, `exec_touched_once`: what a run does to a part of the state
  that none, or one, of its inputs touches;
* `At`: what holds at one moment of a run, which a longer run keeps;
* `exec_filter`, `answers_filter`: a part of the state on which some inputs act as if it were all
  there is, and the others not at all.
-/

namespace BrainV2.Runs

variable {σ ι : Type*} (step : σ → ι → σ)

/-- The state after a list of inputs. -/
def exec (s : σ) (inputs : List ι) : σ := inputs.foldl step s

/-- `P` holds in every state of the run, the first and the last included. -/
def Always (P : σ → Prop) : σ → List ι → Prop
  | s, [] => P s
  | s, i :: is => P s ∧ Always P (step s i) is

/-- `ok` holds of every input of the run and the state it is taken in. -/
def Allowed (ok : σ → ι → Prop) : σ → List ι → Prop
  | _, [] => True
  | s, i :: is => ok s i ∧ Allowed ok (step s i) is

instance decidableAllowed {ok : σ → ι → Prop} [∀ s i, Decidable (ok s i)] :
    ∀ (s : σ) (is : List ι), Decidable (Allowed step ok s is)
  | _, [] => .isTrue trivial
  | s, i :: is => @instDecidableAnd _ _ _ (decidableAllowed (step s i) is)

variable {step}

@[simp] theorem exec_nil (s : σ) : exec step s [] = s := rfl

@[simp] theorem exec_cons (s : σ) (i : ι) (is : List ι) :
    exec step s (i :: is) = exec step (step s i) is := rfl

theorem exec_append (s : σ) (is js : List ι) :
    exec step s (is ++ js) = exec step (exec step s is) js := List.foldl_append

theorem Always.head {P : σ → Prop} {s : σ} {is : List ι} (h : Always step P s is) : P s := by
  cases is with
  | nil => exact h
  | cons i is => exact h.1

theorem Always.mono {P Q : σ → Prop} (h : ∀ s, P s → Q s) {s : σ} {is : List ι}
    (hp : Always step P s is) : Always step Q s is := by
  induction is generalizing s with
  | nil => exact h s hp
  | cons i is ih => exact ⟨h s hp.1, ih hp.2⟩

theorem Always.and {P Q : σ → Prop} {s : σ} {is : List ι} (hp : Always step P s is)
    (hq : Always step Q s is) : Always step (fun s => P s ∧ Q s) s is := by
  induction is generalizing s with
  | nil => exact ⟨hp, hq⟩
  | cons i is ih => exact ⟨⟨hp.1, hq.1⟩, ih hp.2 hq.2⟩

theorem Allowed.mono {ok ok' : σ → ι → Prop} (h : ∀ s i, ok s i → ok' s i) {s : σ} {is : List ι}
    (hp : Allowed step ok s is) : Allowed step ok' s is := by
  induction is generalizing s with
  | nil => trivial
  | cons i is ih => exact ⟨h s i hp.1, ih hp.2⟩

theorem Allowed.and {ok ok' : σ → ι → Prop} {s : σ} {is : List ι}
    (h : Allowed step ok s is) (h' : Allowed step ok' s is) :
    Allowed step (fun s i => ok s i ∧ ok' s i) s is := by
  induction is generalizing s with
  | nil => trivial
  | cons i is ih => exact ⟨⟨h.1, h'.1⟩, ih h.2 h'.2⟩

theorem allowed_append {ok : σ → ι → Prop} {s : σ} {is js : List ι} :
    Allowed step ok s (is ++ js) ↔ Allowed step ok s is ∧ Allowed step ok (exec step s is) js := by
  induction is generalizing s with
  | nil => rw [List.nil_append, Allowed, true_and, exec_nil]
  | cons i is ih =>
    rw [List.cons_append, Allowed, Allowed, ih, exec_cons, and_assoc]

theorem allowed_of_forall {ok : σ → ι → Prop} {is : List ι} (h : ∀ s, ∀ i ∈ is, ok s i) (s : σ) :
    Allowed step ok s is := by
  induction is generalizing s with
  | nil => trivial
  | cons i is ih =>
    exact ⟨h s i List.mem_cons_self, ih (fun s j hj => h s j (List.mem_cons_of_mem _ hj)) _⟩

/-- Every state of a run is the state after a first part of its inputs. -/
theorem always_iff_forall_prefix {P : σ → Prop} {s : σ} {is : List ι} :
    Always step P s is ↔ ∀ js, js <+: is → P (exec step s js) := by
  induction is generalizing s with
  | nil =>
    constructor
    · intro h js hjs
      rw [List.prefix_nil.mp hjs]
      exact h
    · intro h
      exact h [] (List.prefix_refl _)
  | cons i is ih =>
    constructor
    · rintro ⟨h, hrest⟩ js hjs
      cases js with
      | nil => exact h
      | cons j js =>
        obtain ⟨rfl, hrest'⟩ := List.cons_prefix_cons.mp hjs
        exact ih.mp hrest js hrest'
    · intro h
      refine ⟨h [] (List.nil_prefix), ih.mpr fun js hjs => ?_⟩
      exact h (i :: js) (List.cons_prefix_cons.mpr ⟨rfl, hjs⟩)

/-- An input of a run is taken in the state after the inputs before it. -/
theorem allowed_iff_getElem {ok : σ → ι → Prop} {s : σ} {is : List ι} :
    Allowed step ok s is ↔ ∀ n (h : n < is.length), ok (exec step s (is.take n)) is[n] := by
  induction is generalizing s with
  | nil => simp [Allowed]
  | cons i is ih =>
    constructor
    · rintro ⟨h, hrest⟩ n hn
      cases n with
      | zero => exact h
      | succ n => exact ih.mp hrest n (Nat.lt_of_succ_lt_succ hn)
    · intro h
      exact ⟨h 0 (Nat.succ_pos _), ih.mpr fun n hn => h (n + 1) (Nat.succ_lt_succ hn)⟩

theorem Always.last {P : σ → Prop} {s : σ} {is : List ι} (h : Always step P s is) :
    P (exec step s is) :=
  always_iff_forall_prefix.mp h is (List.prefix_refl _)

/-- What no step restores holds throughout a run when it holds at its end. -/
theorem always_iff_last {P : σ → Prop} (hback : ∀ s i, P (step s i) → P s) {s : σ} {is : List ι} :
    Always step P s is ↔ P (exec step s is) := by
  constructor
  · exact Always.last
  · intro h
    induction is generalizing s with
    | nil => exact h
    | cons i is ih =>
      have hrest := ih h
      exact ⟨hback s i hrest.head, hrest⟩

/-- The run rule: an invariant that each allowed step preserves holds in every
state of a run of allowed steps. -/
theorem always_of_step {Inv : σ → Prop} {ok : σ → ι → Prop}
    (hstep : ∀ s i, Inv s → ok s i → Inv (step s i)) {s : σ} {is : List ι}
    (h : Inv s) (hok : Allowed step ok s is) : Always step Inv s is := by
  induction is generalizing s with
  | nil => exact h
  | cons i is ih => exact ⟨h, ih (hstep s i h hok.1) hok.2⟩

/-- The run rule for properties of steps: what an allowed step has, given an invariant that it
keeps, every step of a run of allowed steps has. -/
theorem allowed_of_step {Inv : σ → Prop} {ok P : σ → ι → Prop}
    (hstep : ∀ s i, Inv s → ok s i → P s i ∧ Inv (step s i)) {s : σ} {is : List ι}
    (h : Inv s) (hok : Allowed step ok s is) : Allowed step P s is := by
  induction is generalizing s with
  | nil => trivial
  | cons i is ih =>
    obtain ⟨hp, hinv⟩ := hstep s i h hok.1
    exact ⟨hp, ih hinv hok.2⟩

/-- The exact run rule. `Inv` is what all runs keep, `env` what is assumed of
the inputs, `P` the property in question. -/
theorem always_iff_allowed {Inv P : σ → Prop} {env cond : σ → ι → Prop}
    (hinv : ∀ s i, Inv s → env s i → Inv (step s i))
    (hstep : ∀ s i, Inv s → P s → env s i → (P (step s i) ↔ cond s i)) {s : σ} {is : List ι}
    (hs : Inv s) (hp : P s) (henv : Allowed step env s is) :
    Always step P s is ↔ Allowed step cond s is := by
  induction is generalizing s with
  | nil => exact ⟨fun _ => trivial, fun _ => hp⟩
  | cons i is ih =>
    have hnext := hstep s i hs hp henv.1
    constructor
    · rintro ⟨-, hrest⟩
      have hp' := hrest.head
      exact ⟨hnext.mp hp', (ih (hinv s i hs henv.1) hp' henv.2).mp hrest⟩
    · rintro ⟨hc, hrest⟩
      have hp' := hnext.mpr hc
      exact ⟨hp, (ih (hinv s i hs henv.1) hp' henv.2).mpr hrest⟩

/-- The run rule for properties of steps: what agrees on each step, given an invariant that
the good steps keep, agrees on whole runs. -/
theorem allowed_iff_allowed {Inv : σ → Prop} {env P Q : σ → ι → Prop}
    (hstep : ∀ s i, Inv s → env s i → (P s i ↔ Q s i))
    (hinv : ∀ s i, Inv s → env s i → Q s i → Inv (step s i)) {s : σ} {is : List ι}
    (hs : Inv s) (henv : Allowed step env s is) : Allowed step P s is ↔ Allowed step Q s is := by
  induction is generalizing s with
  | nil => exact Iff.rfl
  | cons i is ih =>
    have hnext := hstep s i hs henv.1
    constructor
    · rintro ⟨hp, hrest⟩
      have hq := hnext.mp hp
      exact ⟨hq, (ih (hinv s i hs henv.1 hq) henv.2).mp hrest⟩
    · rintro ⟨hq, hrest⟩
      exact ⟨hnext.mpr hq, (ih (hinv s i hs henv.1 hq) henv.2).mpr hrest⟩

/-- The exact run rule for a property of the steps and one of the states. -/
theorem allowed_always_iff {P : σ → Prop} {Q cond : σ → ι → Prop}
    (hstep : ∀ s i, P s → (Q s i ∧ P (step s i) ↔ cond s i)) {s : σ} {is : List ι} (hs : P s) :
    Allowed step Q s is ∧ Always step P s is ↔ Allowed step cond s is := by
  induction is generalizing s with
  | nil => exact iff_of_true ⟨trivial, hs⟩ trivial
  | cons i is ih =>
    constructor
    · rintro ⟨⟨hq, hqs⟩, -, hrest⟩
      have hnext : P (step s i) := hrest.head
      exact ⟨(hstep s i hs).mp ⟨hq, hnext⟩, (ih hnext).mp ⟨hqs, hrest⟩⟩
    · rintro ⟨hcond, hconds⟩
      obtain ⟨hq, hnext⟩ := (hstep s i hs).mpr hcond
      obtain ⟨hqs, hrest⟩ := (ih hnext).mpr hconds
      exact ⟨⟨hq, hqs⟩, hs, hrest⟩

/-! ### Parts of the state -/

section

variable {β : Type*} (step) (part : σ → β) (touches : ι → Prop)
  (hother : ∀ s i, ¬ touches i → part (step s i) = part s)

include hother

theorem exec_untouched {is : List ι} (h : ∀ i ∈ is, ¬ touches i) (s : σ) :
    part (exec step s is) = part s := by
  induction is generalizing s with
  | nil => rfl
  | cons i is ih =>
    rw [exec_cons, ih fun j hj => h j (List.mem_cons_of_mem _ hj),
      hother s i (h i List.mem_cons_self)]

theorem exec_touched_once (change : ι → β → β)
    (hself : ∀ s i, touches i → part (step s i) = change i (part s)) {is : List ι}
    (honce : is.Pairwise fun i j => touches i → ¬ touches j) {i : ι} (hi : i ∈ is)
    (htouch : touches i) (s : σ) : part (exec step s is) = change i (part s) := by
  induction is generalizing s with
  | nil => cases hi
  | cons j js ih =>
    obtain ⟨hj, hjs⟩ := List.pairwise_cons.mp honce
    rw [exec_cons]
    rcases List.mem_cons.mp hi with rfl | hi
    · rw [exec_untouched step part touches hother fun k hk => hj k hk htouch, hself s i htouch]
    · have hnot : ¬ touches j := fun e => hj i hi e htouch
      rw [ih hjs hi, hother s j hnot]

end

/-! ### Moments -/

/-- `P` holds of one input of the run and the state it is taken in. -/
def At (step : σ → ι → σ) (P : σ → ι → Prop) (s : σ) (is : List ι) (n : Nat) : Prop :=
  ∃ i, is[n]? = some i ∧ P (exec step s (is.take n)) i

section

variable {P : σ → ι → Prop} {s : σ} {is : List ι}

theorem At.lt {n : Nat} (h : At step P s is n) : n < is.length := by
  obtain ⟨i, hi, -⟩ := h
  exact (List.getElem?_eq_some_iff.mp hi).1

theorem At.append {n : Nat} (h : At step P s is n) (js : List ι) : At step P s (is ++ js) n := by
  have hn : n < is.length := h.lt
  obtain ⟨i, hi, hp⟩ := h
  refine ⟨i, ?_, ?_⟩
  · rwa [List.getElem?_append_left hn]
  · rwa [List.take_append_of_le_length hn.le]

theorem at_length {i : ι} (h : P (exec step s is) i) : At step P s (is ++ [i]) is.length := by
  refine ⟨i, List.getElem?_concat_length .., ?_⟩
  rwa [List.take_left]

end

/-! ### Parts that run alone -/

section

variable {ο : Type*} (answer : σ → ι → ο)

/-- The inputs of a run with what each is answered. -/
def answers (step : σ → ι → σ) : σ → List ι → List (ι × ο)
  | _, [] => []
  | s, i :: is => (i, answer s i) :: answers step (step s i) is

variable {answer} {project : σ → σ} {mine : ι → Bool}
  (hmine : ∀ s i, mine i = true → project (step s i) = step (project s) i)
  (hother : ∀ s i, mine i = false → project (step s i) = project s)

include hmine hother

theorem exec_filter (s : σ) (is : List ι) :
    project (exec step s is) = exec step (project s) (is.filter mine) := by
  induction is generalizing s with
  | nil => rfl
  | cons i is ih =>
    rw [exec_cons, ih]
    cases hi : mine i with
    | true => rw [List.filter_cons_of_pos hi, exec_cons, hmine s i hi]
    | false => rw [List.filter_cons_of_neg (Bool.eq_false_iff.mp hi), hother s i hi]

theorem answers_filter (hanswer : ∀ s i, mine i = true → answer s i = answer (project s) i)
    (s : σ) (is : List ι) :
    (answers answer step s is).filter (fun x => mine x.1) =
      answers answer step (project s) (is.filter mine) := by
  induction is generalizing s with
  | nil => rfl
  | cons i is ih =>
    cases hi : mine i with
    | true =>
      have hrest := ih (step s i)
      rw [hmine s i hi] at hrest
      simp only [answers, List.filter_cons, hi, if_true, hrest, hanswer s i hi]
    | false =>
      have hrest := ih (step s i)
      rw [hother s i hi] at hrest
      simp only [answers, List.filter_cons, hi, Bool.false_eq_true, if_false, hrest]

end

end BrainV2.Runs
