import BrainV2.Lib.Keyset
import BrainV2.Store.StoreBrowser

/-!
# The pages of a list

* `calls`: the calls that `nextCursor` leads to, until it is null;
* `ReadOnce`: they end, none throws, and the pages are the ids in order, with cursors that come back;
* `Listing.Exact`: what is stored is read back from its text;
* `Listing.readOnce_iff`: a list is read once if and only if each of its rows can be returned.
-/

namespace BrainV2.Store

open Js (Engine)

section

variable {ρ : Type}

def nextOf : Except ListError (KeysetPage ρ) → Option String
  | .ok page => page.nextCursor
  | .error _ => none

def idsOf (idOf : ρ → String) : Except ListError (KeysetPage ρ) → List String
  | .ok page => page.rows.map idOf
  | .error _ => []

def calls (call : Option String → Except ListError (KeysetPage ρ)) (fuel : Nat) :
    Option (List (Except ListError (KeysetPage ρ))) :=
  Keyset.follow (fun _ => call) nextOf fuel 0 none

variable (engine : Engine) (call : Option String → Except ListError (KeysetPage ρ))
  (idOf : ρ → String)

/-- A cursor comes back as the payload that it was made of. -/
def ComesBack (text : String) : Prop :=
  ∃ k, text = encodeCursor k ∧ decodeCursor engine (some text) = some k

/-- An answer that throws nothing, with a cursor that comes back. -/
def Returned (r : Except ListError (KeysetPage ρ)) : Prop :=
  ∃ page, r = .ok page ∧ ∀ text, page.nextCursor = some text → ComesBack engine text

/-- The calls end, none throws, and the pages are the ids in order. -/
def ReadOnce (ids : List String) : Prop :=
  ∃ (fuel : Nat) (pages : List (KeysetPage ρ)), calls call fuel = some (pages.map .ok) ∧
    (pages.flatMap fun page => page.rows.map idOf) = ids ∧
    ∀ page ∈ pages, ∀ text, page.nextCursor = some text → ComesBack engine text

variable {engine call idOf}

/-- Not if the first call throws. -/
theorem ReadOnce.first {ids : List String} (h : ReadOnce engine call idOf ids) :
    ∃ page, call none = .ok page := by
  obtain ⟨fuel, pages, hcalls, -, -⟩ := h
  cases hfirst : call none with
  | ok page => exact ⟨page, rfl⟩
  | error e =>
    cases fuel with
    | zero => cases hcalls
    | succ fuel =>
      have hnext : nextOf (call none) = none := by rw [hfirst, nextOf]
      rw [calls, Keyset.follow_last fuel hnext, hfirst] at hcalls
      cases pages with
      | nil => cases hcalls
      | cons page pages => cases hcalls

end

theorem mapM_ok_iff {α β ε : Type} {f : α → Except ε β} {xs : List α} {ys : List β} :
    xs.mapM f = .ok ys ↔ List.Forall₂ (fun x y => f x = .ok y) xs ys := by
  induction xs generalizing ys with
  | nil => cases ys <;> simp [pure, Except.pure]
  | cons x xs ih =>
    rw [List.mapM_cons]
    cases hx : f x with
    | error e => cases ys <;> simp [Bind.bind, Except.bind, hx]
    | ok y =>
      cases hxs : xs.mapM f with
      | error e => cases ys <;> simp [Bind.bind, Except.bind, ← ih, hxs, hx]
      | ok rest => cases ys <;> simp [Bind.bind, Except.bind, pure, Except.pure, ← ih, hxs, hx]

theorem exists_mapM_ok {α β ε : Type} {f : α → Except ε β} {xs : List α}
    (h : ∀ x ∈ xs, ∃ y, f x = .ok y) : ∃ ys, xs.mapM f = .ok ys := by
  induction xs with
  | nil => exact ⟨[], rfl⟩
  | cons x xs ih =>
    obtain ⟨⟨y, hy⟩, hrest⟩ := List.forall_mem_cons.mp h
    obtain ⟨ys, hys⟩ := ih hrest
    exact ⟨y :: ys, mapM_ok_iff.mpr (.cons hy (mapM_ok_iff.mp hys))⟩

theorem exists_of_forall₂ {α β : Type} {R : α → β → Prop} {xs : List α} {ys : List β} {y : β}
    (h : List.Forall₂ R xs ys) (hy : y ∈ ys) : ∃ x ∈ xs, R x y := by
  induction h with
  | nil => cases hy
  | cons hxy _ ih =>
    cases List.mem_cons.mp hy with
    | inl heq => exact ⟨_, List.mem_cons_self, heq ▸ hxy⟩
    | inr hmem =>
      obtain ⟨x, hx, hR⟩ := ih hmem
      exact ⟨x, List.mem_cons_of_mem _ hx, hR⟩

theorem map_eq_of_forall₂ {α β γ : Type} {R : α → β → Prop} {f : β → γ} {g : α → γ}
    {xs : List α} {ys : List β} (h : List.Forall₂ R xs ys) (hfg : ∀ x y, R x y → f y = g x) :
    ys.map f = xs.map g := by
  induction h with
  | nil => rfl
  | cons hxy _ ih => rw [List.map_cons, List.map_cons, hfg _ _ hxy, ih]

theorem exists_map_ok {α ε : Type} {P : α → Prop} {answers : List (Except ε α)}
    (h : ∀ r ∈ answers, ∃ a, r = .ok a ∧ P a) :
    ∃ as : List α, answers = as.map .ok ∧ ∀ a ∈ as, P a := by
  induction answers with
  | nil => exact ⟨[], rfl, nofun⟩
  | cons r answers ih =>
    obtain ⟨⟨a, rfl, ha⟩, hrest⟩ := List.forall_mem_cons.mp h
    obtain ⟨as, rfl, has⟩ := ih hrest
    exact ⟨a :: as, rfl, List.forall_mem_cons.mpr ⟨ha, has⟩⟩

namespace Listing

variable {α κ ρ : Type} [LinearOrder κ]

/-- What is stored is read back from its text, and the returned rows keep their ids. -/
structure Exact (L : Listing α κ ρ) (pg : Postgres) (idOf : ρ → String) (matching : List α) :
    Prop where
  ids : (matching.map L.id).Nodup
  uuid : ∀ r ∈ matching, pg.uuidOf (pg.uuidText (L.id r)) = some (L.id r)
  cast : ∀ r ∈ matching, ∀ v, L.column r = some v → L.cast (L.cursorSort v) = some v
  row : ∀ r returned, L.row r = .ok returned → idOf returned = pg.uuidText (L.id r)

/-- A call of a list, with what matches. -/
def call (L : Listing α κ ρ) (pg : Postgres) (engine : Engine) (matching : List α) (size : Nat)
    (cursor : Option String) : Except ListError (KeysetPage ρ) :=
  L.page pg matching (decodeCursor engine cursor) size

variable {L : Listing α κ ρ} {pg : Postgres} {engine : Engine} {idOf : ρ → String}
  {matching : List α} {size : Nat}

theorem mem_ordered {r : α} : r ∈ L.ordered matching ↔ r ∈ matching := mem_orderBy

/-- A page, once its cursor is read. -/
theorem page_eq {cursor : Option Keyset} {place : Option (Place κ Uuid)} {left : List α}
    (hseek : L.seek pg cursor = .ok place)
    (hleft : L.selected matching place size = left.take (size + 1)) :
    L.page pg matching cursor size = (ofJs ((left.take size).mapM L.row)).map fun returned =>
      ⟨returned, matching.length, size, if size < left.length then
        (left.take size).getLast?.map fun last => encodeCursor (L.keyset pg last) else none⟩ := by
  have hlonger : size < (left.take (size + 1)).length ↔ size < left.length := by
    rw [List.length_take]
    omega
  have hrows : (if size < left.length then (left.take (size + 1)).take size
      else left.take (size + 1)) = left.take size := by
    split
    · rw [List.take_take, Nat.min_eq_left (Nat.le_succ size)]
    · next h => rw [List.take_of_length_le (by omega), List.take_of_length_le (by omega)]
  unfold page
  rw [hseek]
  simp only [Bind.bind, Except.bind, hleft, hlonger, hrows]
  cases ofJs ((left.take size).mapM L.row) <;> rfl

/-- A row of a page is made of one that matches. -/
theorem exists_row_of_page {cursor : Option Keyset} {found : KeysetPage ρ} {returned : ρ}
    (h : L.page pg matching cursor size = .ok found) (hmem : returned ∈ found.rows) :
    ∃ r ∈ matching, L.row r = .ok returned := by
  cases hseek : L.seek pg cursor with
  | error e =>
    rw [page, hseek] at h
    cases h
  | ok place =>
    rw [page_eq hseek rfl] at h
    cases hrows : ((L.ordered (matching.filter (L.behind place))).take size).mapM L.row with
    | error e =>
      rw [hrows] at h
      cases h
    | ok rows =>
      rw [hrows] at h
      cases h
      obtain ⟨r, hr, hrow⟩ := exists_of_forall₂ (mapM_ok_iff.mp hrows) hmem
      have hbehind := (mem_ordered (L := L)).mp (List.mem_of_mem_take hr)
      exact ⟨r, List.mem_of_mem_filter hbehind, hrow⟩

section

variable (hexact : L.Exact pg idOf matching)

include hexact

omit [LinearOrder κ] in
theorem Exact.places : (matching.map L.place).Nodup := by
  have hids := hexact.ids
  apply List.Nodup.of_map Prod.snd
  rwa [List.map_map]

omit [LinearOrder κ] in
theorem Exact.uuidText_inj {r s : α} (hr : r ∈ matching) (hs : s ∈ matching)
    (h : pg.uuidText (L.id r) = pg.uuidText (L.id s)) : r = s := by
  have hid : some (L.id r) = some (L.id s) := by
    rw [← hexact.uuid r hr, ← hexact.uuid s hs, h]
  exact List.inj_on_of_nodup_map hexact.ids hr hs (Option.some.inj hid)

omit [LinearOrder κ] in
/-- The cursor of a row is read as its place. -/
theorem seekOf_keyset {r : α} (hr : r ∈ matching) :
    L.seekOf pg (L.keyset pg r) = .ok (L.place r) := by
  have hid := hexact.uuid r hr
  unfold seekOf keyset place
  cases hvalue : L.column r with
  | none => simp only [Option.map_none, hid, bound, Bind.bind, Except.bind]
  | some v =>
    have hcast := hexact.cast r hr v hvalue
    simp only [Option.map_some, hcast, hid, bound, Except.map, Bind.bind, Except.bind]

/-- Behind the first rows come those that are left. -/
theorem selected_eq {front left : List α} (h : front ++ left = L.ordered matching) :
    L.selected matching (front.getLast?.map L.place) size = left.take (size + 1) := by
  cases hlast : front.getLast? with
  | none =>
    rw [List.getLast?_eq_none_iff.mp hlast, List.nil_append] at h
    have hall : matching.filter (L.behind none) = matching :=
      List.filter_eq_self.mpr fun _ _ => rfl
    rw [Option.map_none, selected, hall, h]
  | some last =>
    obtain ⟨before, rfl⟩ := List.getLast?_eq_some_iff.mp hlast
    have hsplit : L.dir.orderBy L.place matching = before ++ last :: left := by
      rw [← ordered, ← h, List.append_assoc]
      rfl
    rw [Option.map_some, selected, ordered, orderBy_filter hexact.places]
    exact congrArg (List.take (size + 1)) (filter_seek hexact.places hsplit)

/-- The page behind the first rows of those in order. -/
theorem page_behind {front left : List α} (h : front ++ left = L.ordered matching) :
    L.page pg matching
        (decodeCursor engine (front.getLast?.map fun r => encodeCursor (L.keyset pg r))) size =
      (ofJs ((left.take size).mapM L.row)).map fun returned =>
        ⟨returned, matching.length, size, if size < left.length then
          (left.take size).getLast?.map fun last => encodeCursor (L.keyset pg last) else none⟩ := by
  refine page_eq ?_ (selected_eq hexact h)
  cases hlast : front.getLast? with
  | none => rfl
  | some last =>
    have hmem : last ∈ matching := by
      apply (mem_ordered (L := L)).mp
      rw [← h]
      exact List.mem_append_left left (List.mem_of_getLast? hlast)
    rw [Option.map_some, decodeCursor_encodeCursor, seek, seekOf_keyset hexact hmem]
    rfl

variable (engine) in
/-- Where all rows can be returned, a page holds the next ones and throws nothing. -/
theorem holds_page (hrows : ∀ r ∈ matching, ∃ returned, L.row r = .ok returned)
    {front left : List α} (h : front ++ left = L.ordered matching) :
    Keyset.Holds nextOf (idsOf idOf) size (fun r => encodeCursor (L.keyset pg r))
        (fun r => pg.uuidText (L.id r)) left
        (L.call pg engine matching size
          (front.getLast?.map fun r => encodeCursor (L.keyset pg r))) ∧
      Returned engine (L.call pg engine matching size
        (front.getLast?.map fun r => encodeCursor (L.keyset pg r))) := by
  have hmem : ∀ r ∈ left.take size, r ∈ matching := by
    intro r hr
    apply (mem_ordered (L := L)).mp
    rw [← h]
    exact List.mem_append_right front (List.mem_of_mem_take hr)
  obtain ⟨returned, hreturned⟩ := exists_mapM_ok fun r hr => hrows r (hmem r hr)
  have hids := map_eq_of_forall₂ (mapM_ok_iff.mp hreturned) hexact.row
  rw [call, page_behind hexact h, hreturned, ofJs, Except.map]
  refine ⟨⟨hids, rfl⟩, _, rfl, ?_⟩
  intro text htext
  dsimp only at htext
  split at htext
  · obtain ⟨last, -, rfl⟩ := Option.map_eq_some_iff.mp htext
    exact ⟨_, rfl, decodeCursor_encodeCursor engine _⟩
  · cases htext

variable (engine) in
/-- A list is read once if and only if each of its rows can be returned. -/
theorem readOnce_iff (hsize : 0 < size) :
    ReadOnce engine (L.call pg engine matching size) idOf
        ((L.ordered matching).map fun r => pg.uuidText (L.id r)) ↔
      ∀ r ∈ matching, ∃ returned, L.row r = .ok returned := by
  constructor
  · rintro ⟨fuel, pages, hcalls, hids, -⟩ r hr
    have hid : pg.uuidText (L.id r) ∈ pages.flatMap fun page => page.rows.map idOf := by
      rw [hids]
      exact List.mem_map_of_mem ((mem_ordered (L := L)).mpr hr)
    obtain ⟨page, hpage, hid⟩ := List.mem_flatMap.mp hid
    obtain ⟨returned, hreturned, hsame⟩ := List.mem_map.mp hid
    obtain ⟨j, cursor, hcall⟩ := Keyset.mem_follow hcalls (List.mem_map_of_mem hpage)
    obtain ⟨s, hs, hrow⟩ := exists_row_of_page hcall.symm hreturned
    have heq : r = s := hexact.uuidText_inj hr hs (hsame.symm.trans (hexact.row s _ hrow))
    exact ⟨returned, heq ▸ hrow⟩
  · intro hrows
    obtain ⟨fuel, answers, hcalls, hids, hgood⟩ := Keyset.exists_follow
      (fun _ => L.call pg engine matching size) (Returned engine) hsize
      (fun _ _ _ h => holds_page engine hexact hrows h) _ 0 [] (L.ordered matching)
      (Nat.le_refl _) rfl
    obtain ⟨pages, rfl, hback⟩ := exists_map_ok hgood
    refine ⟨fuel, pages, hcalls, ?_, hback⟩
    rw [← hids, List.flatMap_map]
    rfl

end

end Listing

end BrainV2.Store
