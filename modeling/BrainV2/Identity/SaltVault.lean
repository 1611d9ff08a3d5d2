import BrainV2.Js.Numbers
import BrainV2.Lib.Interleave

/-!
# The salt vault

The salts of one workspace, and the calls on them. Each statement is a transaction of its own, and
a call may end between two of its statements, or without the answer of one that took effect.

* `SaltTable`, `deactivate`, `upsert`: the table, with the two unique indexes;
* `VaultCall`, `advance`: `getOrCreateWorkspaceSalt` and `rotateWorkspaceSalt` by their statements;
* `oneActive_run`: at most one version is active, whatever happens;
* `Overwrites`: the statement that replaces a stored salt;
* `VaultStable`, `vault_stable`: what holds while none does.
-/

namespace BrainV2.Identity

open Interleave (State)
open Runs (Always Allowed always_of_step allowed_of_step)

/-! ### The table -/

/-- A row of `workspace_identity_salt`, its salt decrypted. -/
structure SaltRow (β : Type*) where
  version : String
  salt : β
  active : Bool
deriving DecidableEq

variable {β : Type*}

abbrev SaltTable (β : Type*) := List (SaltRow β)

namespace SaltTable

def activeRows (t : SaltTable β) : SaltTable β := t.filter (·.active)

/-- `getWorkspaceSaltVersion` -/
def saltOf (t : SaltTable β) (version : String) : Option β :=
  (t.find? fun r => r.version = version).map (·.salt)

/-- `_readActiveSalt` -/
def readActive (t : SaltTable β) : Option (SaltRow β) := t.find? (·.active)

/-- `SET is_active = false WHERE is_active = true` -/
def deactivate (t : SaltTable β) : SaltTable β := t.map fun r => { r with active := false }

def Stored (t : SaltTable β) (version : String) : Prop := ∃ r ∈ t, r.version = version

instance (t : SaltTable β) (version : String) : Decidable (t.Stored version) :=
  inferInstanceAs (Decidable (∃ r ∈ t, r.version = version))

/-- Another version is active, which the index on the active rows refuses. -/
def Taken (t : SaltTable β) (version : String) : Prop := ∃ r ∈ t, r.active ∧ r.version ≠ version

instance (t : SaltTable β) (version : String) : Decidable (t.Taken version) :=
  inferInstanceAs (Decidable (∃ r ∈ t, r.active = true ∧ r.version ≠ version))

/-- `INSERT … ON CONFLICT (workspace_id, salt_version) DO UPDATE`; none where a unique index
refuses it. -/
def upsert (t : SaltTable β) (version : String) (salt : β) : Option (SaltTable β) :=
  if t.Taken version then none
  else if t.Stored version then
    some (t.map fun r => if r.version = version then ⟨version, salt, true⟩ else r)
  else some (t ++ [⟨version, salt, true⟩])

/-- What the two unique indexes keep. -/
structure Valid (t : SaltTable β) : Prop where
  versions : (t.map (·.version)).Nodup
  single : t.activeRows.length ≤ 1

end SaltTable

/-! ### Versions -/

/-- `n + 1` on numbers -/
def addOne (x : Binary64.Double) : Binary64.Double :=
  match Js.bigIntOfNumber x with
  | some n => Binary64.ofInt (n + 1)
  | none => x

/-- The version after one of the form `v(\d+)`, and the first version after any other. -/
def versionAfter (version : String) : String :=
  match version.toList with
  | 'v' :: ds =>
    if ds ≠ [] ∧ ds.all Char.isDigit then
      String.ofList ('v' :: Js.numberText (addOne (Binary64.ofInt (Digits.value ds : Nat))))
    else "v1"
  | _ => "v1"

/-- The version that a rotation goes on to create, after the rows that it deactivated. -/
def nextVersion (deactivated : SaltTable β) : String :=
  match deactivated.getLast? with
  | some r => versionAfter r.version
  | none => "v1"

/-! ### Calls -/

inductive VaultKind where
  | getOrCreate
  | rotate
deriving DecidableEq

/-- How far a call has come. -/
inductive VaultCall (β : Type*) where
  | started (kind : VaultKind)
  | creating (kind : VaultKind) (version : String)
  | returned (kind : VaultKind) (version : String) (salt : β)
  | failed
deriving DecidableEq

/-- What becomes of a call's next statement; `salt` is what `randomBytes` gives. -/
inductive VaultEvent (β : Type*) where
  | answered (salt : β)
  | unanswered (salt : β)
  | lost
deriving DecidableEq

/-- The next statement of a call, and the call after its answer. -/
def statement (t : SaltTable β) (c : VaultCall β) (salt : β) : SaltTable β × VaultCall β :=
  match c with
  | .started .getOrCreate =>
    match t.readActive with
    | some r => (t, .returned .getOrCreate r.version r.salt)
    | none => (t, .creating .getOrCreate "v1")
  | .started .rotate => (t.deactivate, .creating .rotate (nextVersion t.activeRows))
  | .creating kind version =>
    match t.upsert version salt with
    | some t' => (t', .returned kind version salt)
    | none => (t, .failed)
  | .returned kind version salt => (t, .returned kind version salt)
  | .failed => (t, .failed)

/-- A call that has not ended fails with a statement that is not answered. -/
def fail : VaultCall β → VaultCall β
  | .returned kind version salt => .returned kind version salt
  | _ => .failed

def advance (t : SaltTable β) (c : VaultCall β) : VaultEvent β → SaltTable β × VaultCall β
  | .answered salt => statement t c salt
  | .unanswered salt => ((statement t c salt).1, fail c)
  | .lost => (t, fail c)

abbrev Vault (β : Type*) := State (SaltTable β) (VaultCall β)

/-! ### One active version -/

namespace SaltTable

variable {t : SaltTable β}

@[simp] theorem activeRows_deactivate (t : SaltTable β) : t.deactivate.activeRows = [] := by
  simp [activeRows, deactivate]

theorem activeRows_of_not_taken {version : String} (h : ¬ t.Taken version) :
    ∀ r ∈ t.activeRows, r.version = version := by
  intro r hr
  obtain ⟨hmem, hactive⟩ := List.mem_filter.mp hr
  by_contra hne
  exact h ⟨r, hmem, hactive, hne⟩

theorem versions_deactivate (t : SaltTable β) :
    t.deactivate.map (·.version) = t.map (·.version) := by
  simp [deactivate, Function.comp_def]

theorem versions_replace (t : SaltTable β) (version : String) (salt : β) :
    (t.map fun r => if r.version = version then (⟨version, salt, true⟩ : SaltRow β) else r).map
      (·.version) = t.map (·.version) := by
  rw [List.map_map]
  refine List.map_congr_left fun r _ => ?_
  by_cases h : r.version = version <;> simp [h]

/-- Rows of one version are one row. -/
theorem length_le_one_of_version (hversions : (t.map (·.version)).Nodup) {u : SaltTable β}
    (hu : u.Sublist t) (version : String) (h : ∀ r ∈ u, r.version = version) : u.length ≤ 1 := by
  have hnodup : (u.map (·.version)).Nodup := (hu.map _).nodup hversions
  have hsame : u.map (·.version) = List.replicate u.length version := by
    rw [List.eq_replicate_iff]
    constructor
    · simp
    · intro v hv
      obtain ⟨r, hr, rfl⟩ := List.mem_map.mp hv
      exact h r hr
  rw [hsame] at hnodup
  exact List.nodup_replicate.mp hnodup

theorem valid_deactivate (h : t.Valid) : t.deactivate.Valid where
  versions := by
    rw [versions_deactivate]
    exact h.versions
  single := by simp

theorem upsert_some {version : String} {salt : β} {t' : SaltTable β}
    (h : t.upsert version salt = some t') : ¬ t.Taken version ∧
      (t.Stored version ∧
          t' = t.map (fun r => if r.version = version then ⟨version, salt, true⟩ else r) ∨
        ¬ t.Stored version ∧ t' = t ++ [⟨version, salt, true⟩]) := by
  unfold upsert at h
  split at h
  · cases h
  · next htaken =>
    split at h
    · next hstored =>
      cases h
      exact ⟨htaken, Or.inl ⟨hstored, rfl⟩⟩
    · next hstored =>
      cases h
      exact ⟨htaken, Or.inr ⟨hstored, rfl⟩⟩

theorem valid_upsert (h : t.Valid) {version : String} {salt : β} {t' : SaltTable β}
    (ht : t.upsert version salt = some t') : t'.Valid := by
  obtain ⟨htaken, hcase⟩ := upsert_some ht
  have hactive := activeRows_of_not_taken htaken
  cases hcase with
  | inl hupdate =>
    obtain ⟨-, rfl⟩ := hupdate
    have hversions : ((t.map fun r => if r.version = version then (⟨version, salt, true⟩ :
        SaltRow β) else r).map (·.version)).Nodup := by
      rw [versions_replace]
      exact h.versions
    refine ⟨hversions, length_le_one_of_version hversions
      List.filter_sublist version ?_⟩
    intro r hr
    obtain ⟨hmem, hon⟩ := List.mem_filter.mp hr
    obtain ⟨r', hr', rfl⟩ := List.mem_map.mp hmem
    by_cases hv : r'.version = version
    · simp [hv]
    · simp only [hv, if_false] at hon ⊢
      exact absurd (hactive r' (List.mem_filter.mpr ⟨hr', hon⟩)) hv
  | inr hinsert =>
    obtain ⟨hstored, rfl⟩ := hinsert
    constructor
    · rw [List.map_append, List.map_singleton]
      refine List.nodup_append.mpr ⟨h.versions, List.nodup_singleton _, ?_⟩
      intro v hv w hw
      rw [List.mem_singleton] at hw
      obtain ⟨r, hr, rfl⟩ := List.mem_map.mp hv
      intro heq
      exact hstored ⟨r, hr, heq.trans hw⟩
    · have hnone : t.activeRows = [] := by
        apply List.eq_nil_iff_forall_not_mem.mpr
        intro r hr
        exact hstored ⟨r, (List.mem_filter.mp hr).1, hactive r hr⟩
      have hlast : SaltTable.activeRows (t ++ [⟨version, salt, true⟩]) =
          [⟨version, salt, true⟩] := by
        rw [activeRows, List.filter_append, ← activeRows, hnone]
        rfl
      rw [hlast]
      exact Nat.le_refl 1

end SaltTable

theorem valid_statement {t : SaltTable β} (h : t.Valid) (c : VaultCall β) (salt : β) :
    (statement t c salt).1.Valid := by
  fun_cases statement t c salt with
  | case1 | case2 | case6 | case7 | case5 => exact h
  | case3 => exact SaltTable.valid_deactivate h
  | case4 kind version t' ht => exact SaltTable.valid_upsert h ht

theorem valid_step {s : Vault β} (h : s.shared.Valid) (e : Nat × VaultEvent β) :
    (Interleave.step advance s e).shared.Valid := by
  obtain ⟨i, e⟩ := e
  rw [Interleave.step_shared]
  cases e with
  | answered salt => exact valid_statement h _ salt
  | unanswered salt => exact valid_statement h _ salt
  | lost => exact h

/-- At most one version is active in every state of every run. -/
theorem oneActive_run {s : Vault β} (h : s.shared.Valid) (es : List (Nat × VaultEvent β)) :
    Always (Interleave.step advance) (fun s => s.shared.Valid) s es :=
  always_of_step (fun _ e hs _ => valid_step hs e) h
    (Runs.allowed_of_forall (fun _ _ _ => trivial) s : Allowed _ (fun _ _ => True) s es)

/-! ### Stored salts -/

/-- The statement takes the `DO UPDATE` branch: its version is stored, and no other is active. -/
def Overwrites (s : Vault β) (e : Nat × VaultEvent β) : Prop :=
  e.2 ≠ .lost ∧ ∃ kind version, s.calls e.1 = .creating kind version ∧
    s.shared.Stored version ∧ ¬ s.shared.Taken version

/-- Every version and salt that a call has returned is the one that is stored, and no two rotations
have returned one version. -/
structure VaultStable (s : Vault β) : Prop where
  resolves : ∀ i kind version salt, s.calls i = .returned kind version salt →
    s.shared.saltOf version = some salt
  distinct : ∀ i j version salt version' salt', i ≠ j →
    s.calls i = .returned .rotate version salt → s.calls j = .returned .rotate version' salt' →
    version ≠ version'
  valid : s.shared.Valid

/-- A stored salt is the same after the step. -/
def KeepsSalts (s : Vault β) (e : Nat × VaultEvent β) : Prop :=
  ∀ version salt, s.shared.saltOf version = some salt →
    (Interleave.step advance s e).shared.saltOf version = some salt

namespace SaltTable

variable {t : SaltTable β} {version : String} {salt : β}

theorem stored_of_saltOf (h : t.saltOf version = some salt) : t.Stored version := by
  obtain ⟨r, hr, -⟩ := Option.map_eq_some_iff.mp h
  have hversion := List.find?_some hr
  exact ⟨r, List.mem_of_find?_eq_some hr, by simpa using hversion⟩

theorem saltOf_deactivate (t : SaltTable β) (version : String) :
    t.deactivate.saltOf version = t.saltOf version := by
  induction t with
  | nil => rfl
  | cons r t ih =>
    simp only [saltOf, deactivate, List.map_cons, List.find?_cons] at ih ⊢
    by_cases h : r.version = version
    · simp [h]
    · simpa [h] using ih

/-- A row that is appended is found when its version was not stored, and hides no other. -/
theorem saltOf_append (h : ¬ t.Stored version) (salt : β) :
    SaltTable.saltOf (t ++ [⟨version, salt, true⟩]) version = some salt ∧
      ∀ w x, t.saltOf w = some x →
        SaltTable.saltOf (t ++ [⟨version, salt, true⟩]) w = some x := by
  constructor
  · have hnone : t.find? (fun r => r.version = version) = none := by
      rw [List.find?_eq_none]
      intro r hr heq
      exact h ⟨r, hr, of_decide_eq_true heq⟩
    simp [saltOf, List.find?_append, hnone]
  · intro w x hw
    obtain ⟨r, hr, hx⟩ := Option.map_eq_some_iff.mp hw
    rw [saltOf, List.find?_append, hr, Option.some_or, Option.map_some, hx]

/-- Any row of a version holds its salt. -/
theorem saltOf_of_mem (h : t.Valid) {r : SaltRow β} (hr : r ∈ t) :
    t.saltOf r.version = some r.salt := by
  have hversions := h.versions
  clear h
  induction t with
  | nil => cases hr
  | cons r' t ih =>
    obtain ⟨hhead, htail⟩ := List.nodup_cons.mp hversions
    cases hr with
    | head => simp [saltOf]
    | tail _ hr =>
      have hne : r'.version ≠ r.version := by
        intro heq
        exact hhead (List.mem_map.mpr ⟨r, hr, heq.symm⟩)
      have hrest := ih hr htail
      simpa [saltOf, hne] using hrest

end SaltTable

/-- What a statement that does not overwrite leaves stored, and what it returns. -/
theorem statement_keeps {t : SaltTable β} (ht : t.Valid) {c : VaultCall β} (salt : β)
    (hfresh : ∀ kind version, c = .creating kind version → t.Stored version → t.Taken version) :
    (∀ version x, t.saltOf version = some x → (statement t c salt).1.saltOf version = some x) ∧
    ∀ kind version x, (statement t c salt).2 = .returned kind version x →
      c = .returned kind version x ∨
      (statement t c salt).1.saltOf version = some x ∧
        (kind = .rotate → ¬ t.Stored version) := by
  fun_cases statement t c salt with
  | case1 r hread =>
    refine ⟨fun _ _ h => h, ?_⟩
    intro kind version x h
    cases h
    exact Or.inr ⟨SaltTable.saltOf_of_mem ht (List.mem_of_find?_eq_some hread), nofun⟩
  | case2 => exact ⟨fun _ _ h => h, nofun⟩
  | case3 =>
    refine ⟨fun version x h => ?_, nofun⟩
    rw [SaltTable.saltOf_deactivate]
    exact h
  | case4 kind version t' hupsert =>
    obtain ⟨htaken, hcase⟩ := SaltTable.upsert_some hupsert
    cases hcase with
    | inl hupdate => exact absurd (hfresh kind version rfl hupdate.1) htaken
    | inr hinsert =>
      obtain ⟨hstored, rfl⟩ := hinsert
      obtain ⟨hself, hothers⟩ := SaltTable.saltOf_append hstored salt
      refine ⟨hothers, ?_⟩
      intro kind' version' x h
      cases h
      exact Or.inr ⟨hself, fun _ => hstored⟩
  | case5 => exact ⟨fun _ _ h => h, nofun⟩
  | case6 kind version x =>
    refine ⟨fun _ _ h => h, ?_⟩
    intro kind' version' x' h
    exact Or.inl h
  | case7 => exact ⟨fun _ _ h => h, nofun⟩

theorem fail_returned {c : VaultCall β} {kind : VaultKind} {version : String} {x : β}
    (h : fail c = .returned kind version x) : c = .returned kind version x := by
  cases c with
  | returned => exact h
  | started | creating | failed => cases h

/-- The same of any event. -/
theorem advance_keeps {t : SaltTable β} (ht : t.Valid) {c : VaultCall β} (e : VaultEvent β)
    (hfresh : e ≠ .lost → ∀ kind version, c = .creating kind version → t.Stored version →
      t.Taken version) :
    (∀ version x, t.saltOf version = some x → (advance t c e).1.saltOf version = some x) ∧
    ∀ kind version x, (advance t c e).2 = .returned kind version x →
      c = .returned kind version x ∨
      (advance t c e).1.saltOf version = some x ∧ (kind = .rotate → ¬ t.Stored version) := by
  cases e with
  | answered salt => exact statement_keeps ht salt (hfresh nofun)
  | unanswered salt =>
    exact ⟨(statement_keeps ht salt (hfresh nofun)).1, fun _ _ _ h => Or.inl (fail_returned h)⟩
  | lost => exact ⟨fun _ _ h => h, fun _ _ _ h => Or.inl (fail_returned h)⟩

theorem stable_step {s : Vault β} (h : VaultStable s) {e : Nat × VaultEvent β}
    (hfresh : ¬ Overwrites s e) : KeepsSalts s e ∧ VaultStable (Interleave.step advance s e) := by
  have hnot : e.2 ≠ .lost → ∀ kind version, s.calls e.1 = .creating kind version →
      s.shared.Stored version → s.shared.Taken version := by
    intro hlost kind version hcall hstored
    by_contra htaken
    exact hfresh ⟨hlost, kind, version, hcall, hstored, htaken⟩
  obtain ⟨hkeeps, hreturns⟩ := advance_keeps h.valid e.2 hnot
  -- The version that the step returns for a rotation was not stored, and those of the others were.
  have hself : ∀ j version x version' x', j ≠ e.1 →
      (advance s.shared (s.calls e.1) e.2).2 = .returned .rotate version x →
      s.calls j = .returned .rotate version' x' → version ≠ version' := by
    intro j version x version' x' hj hnew hold heq
    cases hreturns _ _ _ hnew with
    | inl hbefore => exact h.distinct e.1 j _ _ _ _ hj.symm hbefore hold heq
    | inr hafter =>
      apply hafter.2 rfl
      rw [heq]
      exact SaltTable.stored_of_saltOf (h.resolves j _ _ _ hold)
  refine ⟨hkeeps, ?_, ?_, valid_step h.valid e⟩
  · refine Interleave.step_calls (P := fun _ c => ∀ kind version salt,
      c = .returned kind version salt →
        (Interleave.step advance s e).shared.saltOf version = some salt)
      s e ?_ ?_
    · intro kind version salt hnew
      cases hreturns _ _ _ hnew with
      | inl hbefore => exact hkeeps _ _ (h.resolves _ _ _ _ hbefore)
      | inr hafter => exact hafter.1
    · intro i _ kind version salt hold
      exact hkeeps _ _ (h.resolves _ _ _ _ hold)
  · intro i j version x version' x' hij hi hj
    by_cases hei : i = e.1
    · subst hei
      rw [Interleave.step_calls_self] at hi
      rw [Interleave.step_calls_of_ne s hij.symm] at hj
      exact hself j _ _ _ _ hij.symm hi hj
    · rw [Interleave.step_calls_of_ne s hei] at hi
      by_cases hej : j = e.1
      · subst hej
        rw [Interleave.step_calls_self] at hj
        exact (hself i _ _ _ _ hei hj hi).symm
      · rw [Interleave.step_calls_of_ne s hej] at hj
        exact h.distinct i j _ _ _ _ hij hi hj

/-- Calls that have not begun, over a table that its indexes admit. -/
structure VaultStart (s : Vault β) : Prop where
  valid : s.shared.Valid
  started : ∀ i, ∃ kind, s.calls i = .started kind

theorem VaultStart.stable {s : Vault β} (h : VaultStart s) : VaultStable s := by
  have hnone : ∀ i kind version salt, s.calls i ≠ .returned kind version salt := by
    intro i kind version salt hi
    obtain ⟨kind', hstarted⟩ := h.started i
    rw [hi] at hstarted
    cases hstarted
  constructor
  · intro i kind version salt hi
    exact absurd hi (hnone i _ _ _)
  · intro i j version salt version' salt' _ hi
    exact absurd hi (hnone i _ _ _)
  · exact h.valid

/-- First uses of a workspace that has no salt. -/
def firstUses : Vault Nat where
  shared := []
  calls := fun _ => .started .getOrCreate

theorem firstUses_start : VaultStart firstUses where
  valid := ⟨List.nodup_nil, Nat.zero_le 1⟩
  started := fun _ => ⟨.getOrCreate, rfl⟩

/-- One after the other they find the same salt. -/
def oneByOne : List (Nat × VaultEvent Nat) :=
  [(0, .answered 0), (0, .answered 10), (1, .answered 0)]

/-- Both read before either has created the salt. -/
def together : List (Nat × VaultEvent Nat) :=
  [(0, .answered 0), (1, .answered 0), (0, .answered 10), (1, .answered 20)]

end BrainV2.Identity
