import Mathlib.Data.List.Nodup
import Mathlib.Tactic.Tauto

/-!
# Dictionaries

An association list that keeps its keys in the order they were first set.
`set` gives a key one value and leaves every other key alone.
-/

namespace BrainV2

namespace Dict

variable {κ β : Type*} [DecidableEq κ]

/-- Set a key: in its place if it is there, else at the end. -/
def set : List (κ × β) → κ → β → List (κ × β)
  | [], key, value => [(key, value)]
  | (k, v) :: rest, key, value =>
    if k = key then (k, value) :: rest else (k, v) :: set rest key value

def keys (d : List (κ × β)) : List κ := d.map Prod.fst

def setDefault (d : List (κ × β)) (key : κ) (value : β) : List (κ × β) :=
  match d.lookup key with
  | some _ => d
  | none => set d key value

theorem lookup_set_self (d : List (κ × β)) (key : κ) (value : β) :
    (set d key value).lookup key = some value := by
  induction d with
  | nil => simp [set]
  | cons kv rest ih =>
    obtain ⟨k, v⟩ := kv
    by_cases h : k = key
    · simp [set, h]
    · have h' : (key == k) = false := by simpa using fun e => h e.symm
      simp [set, h, h', List.lookup_cons, ih]

theorem lookup_set_ne (d : List (κ × β)) {key other : κ} (value : β)
    (h : other ≠ key) : (set d key value).lookup other = d.lookup other := by
  induction d with
  | nil =>
    have h' : (other == key) = false := by simpa using h
    simp [set, List.lookup_cons, h']
  | cons kv rest ih =>
    obtain ⟨k, v⟩ := kv
    by_cases hk : k = key
    · subst hk
      have h' : (other == k) = false := by simpa using h
      simp [set, List.lookup_cons, h']
    · simp [set, hk, List.lookup_cons, ih]

theorem set_append (d : List (κ × β)) {key : κ} (value : β) (h : key ∉ keys d) :
    set d key value = d ++ [(key, value)] := by
  induction d with
  | nil => rfl
  | cons kv rest ih =>
    obtain ⟨k, v⟩ := kv
    simp only [keys, List.map_cons, List.mem_cons, not_or] at h
    have hne : k ≠ key := fun e => h.1 e.symm
    simp [set, hne, ih h.2]

theorem keys_set_of_mem (d : List (κ × β)) {key : κ} (value : β) (h : key ∈ keys d) :
    keys (set d key value) = keys d := by
  induction d with
  | nil => cases h
  | cons kv rest ih =>
    obtain ⟨k, v⟩ := kv
    by_cases he : k = key
    · simp [set, he, keys]
    · have hrest : key ∈ keys rest := by
        rcases List.mem_cons.mp h with h | h
        · exact absurd h.symm he
        · exact h
      have hkeys := ih hrest
      simp only [keys] at hkeys
      simp [set, he, keys, hkeys]

theorem mem_keys_set (d : List (κ × β)) (key other : κ) (value : β) :
    other ∈ keys (set d key value) ↔ other ∈ keys d ∨ other = key := by
  induction d with
  | nil => simp [set, keys]
  | cons kv rest ih =>
    obtain ⟨k, v⟩ := kv
    by_cases h : k = key
    · subst h
      simp only [set, if_true, keys, List.map_cons, List.mem_cons]
      tauto
    · simp only [keys] at ih
      simp only [set, if_neg h, keys, List.map_cons, List.mem_cons, ih]
      tauto

theorem nodup_keys_set {d : List (κ × β)} (key : κ) (value : β)
    (h : (keys d).Nodup) : (keys (set d key value)).Nodup := by
  induction d with
  | nil => simp [set, keys]
  | cons kv rest ih =>
    obtain ⟨k, v⟩ := kv
    obtain ⟨hk, hrest⟩ := List.nodup_cons.mp h
    by_cases he : k = key
    · simpa [set, he, keys] using h
    · simp only [set, if_neg he]
      refine List.nodup_cons.mpr ⟨fun hmem => ?_, ih hrest⟩
      rcases (mem_keys_set rest key k value).mp hmem with hmem | rfl
      · exact hk hmem
      · exact he rfl

/-- A key is looked up, and set, at the place where it stands. -/
theorem lookup_middle {front : List (κ × β)} {key : κ} (value : β) (rest : List (κ × β))
    (h : key ∉ keys front) : (front ++ (key, value) :: rest).lookup key = some value := by
  induction front with
  | nil => simp
  | cons kv front ih =>
    obtain ⟨k, v⟩ := kv
    simp only [keys, List.map_cons, List.mem_cons, not_or] at h
    have hne : (key == k) = false := by simpa using h.1
    simp only [List.cons_append, List.lookup_cons, hne]
    exact ih h.2

theorem set_middle {front : List (κ × β)} {key : κ} (value new : β) (rest : List (κ × β))
    (h : key ∉ keys front) :
    set (front ++ (key, value) :: rest) key new = front ++ (key, new) :: rest := by
  induction front with
  | nil => simp [set]
  | cons kv front ih =>
    obtain ⟨k, v⟩ := kv
    simp only [keys, List.map_cons, List.mem_cons, not_or] at h
    have hne : k ≠ key := fun e => h.1 e.symm
    simp only [List.cons_append, set, if_neg hne, ih h.2]

/-- The entries of a dictionary are what it looks up. -/
theorem lookup_eq_some_iff_mem {d : List (κ × β)} (h : (keys d).Nodup) {key : κ} {value : β} :
    d.lookup key = some value ↔ (key, value) ∈ d := by
  constructor
  · intro hlookup
    obtain ⟨front, rest, rfl, -⟩ := List.lookup_eq_some_iff.mp hlookup
    exact List.mem_append_right _ List.mem_cons_self
  · intro hmem
    obtain ⟨front, rest, rfl⟩ := List.append_of_mem hmem
    apply lookup_middle
    rw [keys, List.map_append, List.map_cons] at h
    intro hkey
    exact (List.nodup_append.mp h).2.2 key hkey key List.mem_cons_self rfl

/-! Updates taken one after the other, each value through a function. -/

theorem lookup_foldl_set {γ : Type*} (f : γ → β) (updates : List (κ × γ)) (d : List (κ × β))
    {key : κ} (h : key ∉ keys updates) :
    (updates.foldl (fun d (k, v) => set d k (f v)) d).lookup key = d.lookup key := by
  induction updates generalizing d with
  | nil => rfl
  | cons update updates ih =>
    obtain ⟨k, v⟩ := update
    simp only [keys, List.map_cons, List.mem_cons, not_or] at h
    rw [List.foldl_cons, ih _ h.2, lookup_set_ne d _ h.1]

theorem mem_keys_foldl_set {γ : Type*} (f : γ → β) (updates : List (κ × γ)) (d : List (κ × β))
    (key : κ) :
    key ∈ keys (updates.foldl (fun d (k, v) => set d k (f v)) d) ↔
      key ∈ keys d ∨ key ∈ keys updates := by
  induction updates generalizing d with
  | nil => simp [keys]
  | cons update updates ih =>
    obtain ⟨k, v⟩ := update
    rw [List.foldl_cons, ih, mem_keys_set, or_assoc]
    simp [keys]

/-! Values taken from the dictionary, or a default, and set again. -/

section

variable {γ : Type*} (default : β) (change : β → γ → β)

def update (d : List (κ × β)) (entry : κ × γ) : List (κ × β) :=
  set d entry.1 (change ((d.lookup entry.1).getD default) entry.2)

/-- A key's value goes through the changes of this key. -/
theorem getD_lookup_foldl_update (entries : List (κ × γ)) (d : List (κ × β)) (key : κ) :
    ((entries.foldl (update default change) d).lookup key).getD default =
      ((entries.filter (·.1 = key)).map Prod.snd).foldl change
        ((d.lookup key).getD default) := by
  induction entries generalizing d with
  | nil => rfl
  | cons entry entries ih =>
    rw [List.foldl_cons, ih]
    by_cases h : entry.1 = key
    · subst h
      rw [List.filter_cons_of_pos (by simp), update, lookup_set_self]
      rfl
    · have hne : key ≠ entry.1 := fun heq => h heq.symm
      rw [List.filter_cons_of_neg (by simpa using h), update, lookup_set_ne d _ hne]

end

/-! Tables with a default. -/

theorem getD_lookup {p : β → Prop} {table : List (κ × β)} {b : β}
    (h : ∀ entry ∈ table, p entry.2) (hb : p b) (key : κ) : p ((table.lookup key).getD b) := by
  cases hlookup : table.lookup key with
  | none => exact hb
  | some value =>
    obtain ⟨front, rest, hsplit, -⟩ := List.lookup_eq_some_iff.mp hlookup
    exact h (key, value) (hsplit ▸ List.mem_append_right _ List.mem_cons_self)

theorem getD_lookup_of_notMem {table : List (κ × β)} {key : κ} (h : key ∉ keys table) (b : β) :
    (table.lookup key).getD b = b := by
  cases hlookup : table.lookup key with
  | none => rfl
  | some value =>
    obtain ⟨front, rest, hsplit, -⟩ := List.lookup_eq_some_iff.mp hlookup
    exact absurd (by rw [hsplit]; simp [keys]) h

/-! Tables whose rows have a key. -/

theorem find_key_eq_some_iff {f : β → κ} {rows : List β} (h : (rows.map f).Nodup) {key : κ}
    {row : β} : rows.find? (fun r => f r = key) = some row ↔ row ∈ rows ∧ f row = key := by
  constructor
  · intro hfind
    exact ⟨List.mem_of_find?_eq_some hfind, by simpa using List.find?_some hfind⟩
  · rintro ⟨hmem, hkey⟩
    cases hfind : rows.find? fun r => f r = key with
    | none => exact absurd (by simpa using hkey) (List.find?_eq_none.mp hfind row hmem)
    | some found =>
      have hfound : f found = key := by simpa using List.find?_some hfind
      have heq := List.inj_on_of_nodup_map h (List.mem_of_find?_eq_some hfind) hmem
        (hfound.trans hkey.symm)
      rw [heq]

theorem find_key_map {f : β → κ} {g : β → β} (h : ∀ r, f (g r) = f r) (rows : List β) (key : κ) :
    (rows.map g).find? (fun r => f r = key) = (rows.find? fun r => f r = key).map g := by
  rw [List.find?_map]
  simp only [Function.comp_def, h]

end Dict

end BrainV2
