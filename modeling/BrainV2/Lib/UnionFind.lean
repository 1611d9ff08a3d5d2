import BrainV2.Lib.Dict
import Mathlib.Data.List.Induction
import Mathlib.Data.List.Perm.Subperm
import Mathlib.Logic.Function.Iterate
import Mathlib.Logic.Relation

/-!
# Union-find over two dictionaries

Parent pointers and ranks in dictionaries, with path compression and union by
rank. A node that was never added is its own parent.

The loops of the union-find with a bound on their steps. A run stops with
nothing when it comes to the bound, or to a node that is not registered.

* `WellRanked`: the rank grows along every pointer to another node;
* `Roots`: a function that is constant along the pointers and fixes their ends;
  `Roots.unique`: in a well ranked forest there is one, `rootOf`;
* `find_spec`: what is found is the root, and the roots stay as they are;
* `union_spec`: the two roots become one, and no others change;
* `rootOf_build_iff`: after a list of unions the roots are equal exactly for
  the nodes that the list connects;
* `mem_groups_iff`: the groups are the sets of nodes of one root;
* `findWithin_eq`: in a well ranked forest a bound above the number of nodes is
  enough, and the run ends with what `find` gives;
* `buildWithin_eq`, `groupsWithin_eq`: so is a bound above twice the number of
  pairs for all the loops of a build.
-/

namespace BrainV2

structure UnionFind (α : Type*) where
  parent : List (α × α)
  rank : List (α × Nat)

namespace UnionFind

/-! ### Connection -/

section

variable {α : Type*}

/-- The least equivalence that holds of the pairs. -/
def Connected (pairs : List (α × α)) : α → α → Prop := Relation.EqvGen fun a b => (a, b) ∈ pairs

theorem Connected.mono {pairs more : List (α × α)} (h : ∀ p ∈ pairs, p ∈ more) {x y : α}
    (hxy : Connected pairs x y) : Connected more x y :=
  Relation.EqvGen.mono (fun a b hab => h (a, b) hab) x y hxy

theorem Connected.refl (pairs : List (α × α)) (x : α) : Connected pairs x x :=
  Relation.EqvGen.refl x

theorem Connected.symm {pairs : List (α × α)} {x y : α} (h : Connected pairs x y) :
    Connected pairs y x :=
  Relation.EqvGen.symm _ _ h

theorem Connected.trans {pairs : List (α × α)} {x y z : α} (h : Connected pairs x y)
    (h' : Connected pairs y z) : Connected pairs x z :=
  Relation.EqvGen.trans _ _ _ h h'

theorem Connected.pair {pairs : List (α × α)} {a b : α} (h : (a, b) ∈ pairs) :
    Connected pairs a b :=
  Relation.EqvGen.rel _ _ h

/-- Every relation that is an equivalence and holds of the pairs holds of what they connect. -/
theorem Connected.lift {pairs : List (α × α)} {β : Type*} {f : α → β}
    (h : ∀ a b, (a, b) ∈ pairs → f a = f b) {x y : α} (hxy : Connected pairs x y) : f x = f y := by
  induction hxy with
  | rel a b hab => exact h a b hab
  | refl a => rfl
  | symm a b _ ih => exact ih.symm
  | trans a b c _ _ ih ih' => exact ih.trans ih'

end

theorem countP_lt_countP {β : Type*} {p q : β → Bool} {xs : List β} (h : ∀ x, p x = true → q x = true)
    {y : β} (hy : y ∈ xs) (hp : p y = false) (hq : q y = true) : xs.countP p < xs.countP q := by
  obtain ⟨front, rest, rfl⟩ := List.append_of_mem hy
  have hfront := List.countP_mono_left (l := front) fun x _ => h x
  have hrest := List.countP_mono_left (l := rest) fun x _ => h x
  simp only [List.countP_append, List.countP_cons, hp, hq, if_true, Bool.false_eq_true, if_false]
  omega

/-! ### The operations -/

variable {α : Type*} [DecidableEq α]

def empty : UnionFind α := ⟨[], []⟩

def nodes (uf : UnionFind α) : List α := Dict.keys uf.parent

def parentOf (uf : UnionFind α) (node : α) : α := (uf.parent.lookup node).getD node

def rankOf (uf : UnionFind α) (node : α) : Nat := (uf.rank.lookup node).getD 0

/-- Register a node. A node that is present stays as it is. -/
def add (uf : UnionFind α) (node : α) : UnionFind α :=
  if (uf.parent.lookup node).isSome then uf
  else ⟨Dict.set uf.parent node node, Dict.set uf.rank node 0⟩

/-- Follow the pointers to a node that points at itself. -/
def traverse (uf : UnionFind α) : Nat → α → α
  | 0, node => node
  | fuel + 1, node =>
    if uf.parentOf node = node then node else traverse uf fuel (uf.parentOf node)

def point (uf : UnionFind α) (node target : α) : UnionFind α :=
  { uf with parent := Dict.set uf.parent node target }

/-- Point the nodes of a path at its root. -/
def compress (root : α) : Nat → UnionFind α → α → UnionFind α
  | 0, uf, _ => uf
  | fuel + 1, uf, current =>
    if current = root then uf
    else compress root fuel (uf.point current root) (uf.parentOf current)

def find (uf : UnionFind α) (node : α) : α × UnionFind α :=
  let uf := uf.add node
  let root := uf.traverse uf.nodes.length node
  (root, compress root uf.nodes.length uf node)

/-- The root of the joined nodes. At equal ranks it is the smaller root by `le`. -/
def union (le : α → α → Bool) (uf : UnionFind α) (a b : α) : α × UnionFind α :=
  let (ra, uf) := uf.find a
  let (rb, uf) := uf.find b
  if ra = rb then (ra, uf)
  else if uf.rankOf ra < uf.rankOf rb then (rb, uf.point ra rb)
  else if uf.rankOf rb < uf.rankOf ra then (ra, uf.point rb ra)
  else if le ra rb then
    (ra, { uf.point rb ra with rank := Dict.set uf.rank ra (uf.rankOf ra + 1) })
  else (rb, { uf.point ra rb with rank := Dict.set uf.rank rb (uf.rankOf rb + 1) })

/-- Add the ends of the pairs and join them, one pair after the other. -/
def build (le : α → α → Bool) (pairs : List (α × α)) : UnionFind α :=
  pairs.foldl (fun uf (a, b) => (((uf.add a).add b).union le a b).2) empty

/-- Put a node in a group, at its end. -/
def pushTo (d : List (α × List α)) (root node : α) : List (α × List α) :=
  match d.lookup root with
  | some members => Dict.set d root (members ++ [node])
  | none => Dict.set d root [node]

def group (s : UnionFind α × List (α × List α)) (node : α) : UnionFind α × List (α × List α) :=
  let (root, uf) := s.1.find node
  (uf, pushTo s.2 root node)

/-- The nodes by their roots. -/
def groups (uf : UnionFind α) : List (α × List α) := (uf.nodes.foldl group (uf, [])).2

/-! ### Roots -/

/-- A node that points elsewhere points at a registered node of a greater rank. -/
def WellRanked (uf : UnionFind α) : Prop :=
  ∀ x, uf.parentOf x ≠ x → uf.parentOf x ∈ uf.nodes ∧ uf.rankOf x < uf.rankOf (uf.parentOf x)

/-- The registered nodes of greater rank: their number bounds the path from a node. -/
def above (uf : UnionFind α) (x : α) : Nat := uf.nodes.countP fun y => uf.rankOf x < uf.rankOf y

def rootOf (uf : UnionFind α) (x : α) : α := uf.traverse uf.nodes.length x

/-- `f` is constant along the pointers and fixes their ends. -/
structure Roots (uf : UnionFind α) (f : α → α) : Prop where
  fixed : ∀ x, uf.parentOf x = x → f x = x
  parent : ∀ x, f (uf.parentOf x) = f x

theorem parentOf_eq_self {uf : UnionFind α} {x : α} (h : x ∉ uf.nodes) : uf.parentOf x = x := by
  cases hlookup : uf.parent.lookup x with
  | none => rw [parentOf, hlookup, Option.getD_none]
  | some p =>
    obtain ⟨front, rest, hmem, -⟩ := List.lookup_eq_some_iff.mp hlookup
    apply absurd _ h
    rw [nodes, Dict.keys, hmem]
    simp

theorem traverse_eq (uf : UnionFind α) (n : Nat) (x : α) : uf.traverse n x = uf.parentOf^[n] x := by
  induction n generalizing x with
  | zero => rfl
  | succ n ih =>
    by_cases h : uf.parentOf x = x
    · rw [traverse, if_pos h, Function.iterate_fixed h]
    · rw [traverse, if_neg h, ih, Function.iterate_succ_apply]

theorem WellRanked.above_parentOf_lt {uf : UnionFind α} (h : uf.WellRanked) {x : α}
    (hx : uf.parentOf x ≠ x) : uf.above (uf.parentOf x) < uf.above x := by
  obtain ⟨hmem, hrank⟩ := h x hx
  apply countP_lt_countP _ hmem
  · simp
  · simpa using hrank
  · intro y hy
    have hy : uf.rankOf (uf.parentOf x) < uf.rankOf y := by simpa using hy
    simpa using Nat.lt_trans hrank hy

/-- The number of nodes is fuel enough to come to a root. -/
theorem WellRanked.parentOf_iterate {uf : UnionFind α} (h : uf.WellRanked) {n : Nat} {x : α}
    (hn : uf.above x ≤ n) : uf.parentOf (uf.parentOf^[n] x) = uf.parentOf^[n] x := by
  induction n generalizing x with
  | zero =>
    by_contra hx
    have habove := h.above_parentOf_lt hx
    rw [Function.iterate_zero, id_eq] at habove
    omega
  | succ n ih =>
    by_cases hx : uf.parentOf x = x
    · rw [Function.iterate_fixed hx, hx]
    · have habove := h.above_parentOf_lt hx
      rw [Function.iterate_succ_apply]
      exact ih (by omega)

theorem rootOf_eq (uf : UnionFind α) (x : α) : uf.rootOf x = uf.parentOf^[uf.nodes.length] x :=
  traverse_eq _ _ _

theorem WellRanked.parentOf_rootOf {uf : UnionFind α} (h : uf.WellRanked) (x : α) :
    uf.parentOf (uf.rootOf x) = uf.rootOf x := by
  rw [rootOf_eq]
  exact h.parentOf_iterate List.countP_le_length

theorem WellRanked.roots {uf : UnionFind α} (h : uf.WellRanked) : uf.Roots uf.rootOf where
  fixed := by
    intro x hx
    rw [rootOf_eq, Function.iterate_fixed hx]
  parent := by
    intro x
    have hroot := h.parentOf_rootOf x
    rw [rootOf_eq] at hroot
    rw [rootOf_eq, rootOf_eq, ← Function.iterate_succ_apply, Function.iterate_succ_apply', hroot]

theorem Roots.iterate {uf : UnionFind α} {f : α → α} (hf : uf.Roots f) (n : Nat) (x : α) :
    f (uf.parentOf^[n] x) = f x := by
  induction n generalizing x with
  | zero => rfl
  | succ n ih => rw [Function.iterate_succ_apply, ih, hf.parent]

theorem Roots.unique {uf : UnionFind α} (h : uf.WellRanked) {f : α → α} (hf : uf.Roots f) (x : α) :
    uf.rootOf x = f x := by
  rw [← hf.iterate uf.nodes.length x, ← rootOf_eq, hf.fixed _ (h.parentOf_rootOf x)]

theorem WellRanked.rootOf_rootOf {uf : UnionFind α} (h : uf.WellRanked) (x : α) :
    uf.rootOf (uf.rootOf x) = uf.rootOf x :=
  h.roots.fixed _ (h.parentOf_rootOf x)

theorem WellRanked.rootOf_mem {uf : UnionFind α} (h : uf.WellRanked) {x : α} (hx : x ∈ uf.nodes) :
    uf.rootOf x ∈ uf.nodes := by
  have hiterate : ∀ n, uf.parentOf^[n] x ∈ uf.nodes := by
    intro n
    induction n with
    | zero => exact hx
    | succ n ih =>
      rw [Function.iterate_succ_apply']
      by_cases hp : uf.parentOf (uf.parentOf^[n] x) = uf.parentOf^[n] x
      · rw [hp]
        exact ih
      · exact (h _ hp).1
  rw [rootOf_eq]
  exact hiterate _

theorem WellRanked.rankOf_lt_rootOf {uf : UnionFind α} (h : uf.WellRanked) {x : α}
    (hx : uf.rootOf x ≠ x) : uf.rankOf x < uf.rankOf (uf.rootOf x) := by
  have hle : ∀ n y, uf.rankOf y ≤ uf.rankOf (uf.parentOf^[n] y) := by
    intro n y
    induction n with
    | zero => exact Nat.le_refl _
    | succ n ih =>
      rw [Function.iterate_succ_apply']
      by_cases hp : uf.parentOf (uf.parentOf^[n] y) = uf.parentOf^[n] y
      · rwa [hp]
      · exact Nat.le_trans ih (Nat.le_of_lt (h _ hp).2)
  have hparent : uf.parentOf x ≠ x := fun e => hx (h.roots.fixed x e)
  have hroot := hle uf.nodes.length (uf.parentOf x)
  rw [← rootOf_eq, h.roots.parent] at hroot
  exact Nat.lt_of_lt_of_le (h x hparent).2 hroot

/-! ### Moving a pointer -/

theorem parentOf_point (uf : UnionFind α) (x target y : α) :
    (uf.point x target).parentOf y = if y = x then target else uf.parentOf y := by
  by_cases h : y = x
  · rw [if_pos h, h, parentOf, point, Dict.lookup_set_self, Option.getD_some]
  · rw [if_neg h, parentOf, point, Dict.lookup_set_ne _ _ h, parentOf]

theorem nodes_point {uf : UnionFind α} {x : α} (h : x ∈ uf.nodes) (target : α) :
    (uf.point x target).nodes = uf.nodes :=
  Dict.keys_set_of_mem _ _ h

/-- `after` has the nodes and the roots of `uf`. -/
structure Compressed (uf after : UnionFind α) : Prop where
  wellRanked : after.WellRanked
  nodes : after.nodes = uf.nodes
  rootOf : ∀ x, after.rootOf x = uf.rootOf x

theorem WellRanked.compressed {uf : UnionFind α} (h : uf.WellRanked) : uf.Compressed uf :=
  ⟨h, rfl, fun _ => rfl⟩

theorem Compressed.trans {uf after last : UnionFind α} (h : uf.Compressed after)
    (h' : after.Compressed last) : uf.Compressed last :=
  ⟨h'.wellRanked, h'.nodes.trans h.nodes, fun x => (h'.rootOf x).trans (h.rootOf x)⟩

theorem WellRanked.point_rootOf {uf : UnionFind α} (h : uf.WellRanked) {x : α} (hx : x ∈ uf.nodes) :
    uf.Compressed (uf.point x (uf.rootOf x)) := by
  have hranked : (uf.point x (uf.rootOf x)).WellRanked := by
    intro y hy
    rw [nodes_point hx]
    rw [parentOf_point] at hy ⊢
    by_cases hyx : y = x
    · subst hyx
      rw [if_pos rfl] at hy ⊢
      exact ⟨h.rootOf_mem hx, h.rankOf_lt_rootOf hy⟩
    · rw [if_neg hyx] at hy ⊢
      exact h y hy
  refine ⟨hranked, nodes_point hx _, Roots.unique hranked ⟨?_, ?_⟩⟩
  · intro y hy
    rw [parentOf_point] at hy
    by_cases hyx : y = x
    · rw [if_pos hyx, hyx] at hy
      rwa [hyx]
    · rw [if_neg hyx] at hy
      exact h.roots.fixed y hy
  · intro y
    rw [parentOf_point]
    by_cases hyx : y = x
    · rw [if_pos hyx, hyx, h.rootOf_rootOf]
    · rw [if_neg hyx, h.roots.parent]

theorem WellRanked.parentOf_mem {uf : UnionFind α} (h : uf.WellRanked) {x : α} (hx : x ∈ uf.nodes) :
    uf.parentOf x ∈ uf.nodes := by
  by_cases hp : uf.parentOf x = x
  · rwa [hp]
  · exact (h x hp).1

theorem compress_spec (n : Nat) {uf : UnionFind α} (h : uf.WellRanked) {x : α} (hx : x ∈ uf.nodes) :
    uf.Compressed (compress (uf.rootOf x) n uf x) := by
  induction n generalizing uf x with
  | zero => exact h.compressed
  | succ n ih =>
    by_cases hroot : x = uf.rootOf x
    · rw [compress, if_pos hroot]
      exact h.compressed
    · have hpoint := h.point_rootOf hx
      have hmem : uf.parentOf x ∈ (uf.point x (uf.rootOf x)).nodes := by
        rw [hpoint.nodes]
        exact h.parentOf_mem hx
      have hrest := ih hpoint.wellRanked hmem
      rw [hpoint.rootOf, h.roots.parent] at hrest
      rw [compress, if_neg hroot]
      exact hpoint.trans hrest

/-! ### Adding and finding -/

theorem mem_nodes_iff {uf : UnionFind α} {x : α} :
    x ∈ uf.nodes ↔ (uf.parent.lookup x).isSome = true := by
  simp [nodes, Dict.keys]

theorem add_of_mem {uf : UnionFind α} {x : α} (h : x ∈ uf.nodes) : uf.add x = uf :=
  if_pos (mem_nodes_iff.mp h)

theorem add_of_notMem {uf : UnionFind α} {x : α} (h : x ∉ uf.nodes) :
    uf.add x = ⟨Dict.set uf.parent x x, Dict.set uf.rank x 0⟩ :=
  if_neg (mt mem_nodes_iff.mpr h)

theorem nodes_add (uf : UnionFind α) (x : α) :
    (uf.add x).nodes = if x ∈ uf.nodes then uf.nodes else uf.nodes ++ [x] := by
  by_cases h : x ∈ uf.nodes
  · rw [add_of_mem h, if_pos h]
  · rw [add_of_notMem h, if_neg h, nodes, Dict.set_append _ _ h, Dict.keys, List.map_append]
    rfl

theorem mem_nodes_add (uf : UnionFind α) (x y : α) :
    y ∈ (uf.add x).nodes ↔ y ∈ uf.nodes ∨ y = x := by
  rw [nodes_add]
  by_cases h : x ∈ uf.nodes
  · rw [if_pos h]
    constructor
    · exact Or.inl
    · rintro (hy | rfl)
      · exact hy
      · exact h
  · rw [if_neg h, List.mem_append, List.mem_singleton]

theorem nodup_nodes_add {uf : UnionFind α} (h : uf.nodes.Nodup) (x : α) :
    (uf.add x).nodes.Nodup := by
  rw [nodes_add]
  by_cases hx : x ∈ uf.nodes
  · rwa [if_pos hx]
  · rw [if_neg hx, List.nodup_append]
    exact ⟨h, List.nodup_singleton _, fun y hy z hz e =>
      hx (List.mem_singleton.mp hz ▸ e ▸ hy)⟩

theorem parentOf_add (uf : UnionFind α) (x y : α) : (uf.add x).parentOf y = uf.parentOf y := by
  by_cases hx : x ∈ uf.nodes
  · rw [add_of_mem hx]
  · rw [add_of_notMem hx]
    by_cases hy : y = x
    · rw [hy, parentOf_eq_self hx, parentOf, Dict.lookup_set_self, Option.getD_some]
    · rw [parentOf, Dict.lookup_set_ne _ _ hy, parentOf]

theorem rankOf_add {uf : UnionFind α} {x y : α} (hy : y ∈ uf.nodes) :
    (uf.add x).rankOf y = uf.rankOf y := by
  by_cases hx : x ∈ uf.nodes
  · rw [add_of_mem hx]
  · have hne : y ≠ x := fun e => hx (e ▸ hy)
    rw [add_of_notMem hx, rankOf, Dict.lookup_set_ne _ _ hne, rankOf]

theorem WellRanked.add {uf : UnionFind α} (h : uf.WellRanked) (x : α) : (uf.add x).WellRanked := by
  intro y hy
  rw [parentOf_add] at hy ⊢
  obtain ⟨hmem, hrank⟩ := h y hy
  have hyMem : y ∈ uf.nodes := by
    by_contra hn
    exact hy (parentOf_eq_self hn)
  rw [rankOf_add hyMem, rankOf_add hmem]
  exact ⟨(mem_nodes_add _ _ _).mpr (Or.inl hmem), hrank⟩

theorem WellRanked.rootOf_add {uf : UnionFind α} (h : uf.WellRanked) (x y : α) :
    (uf.add x).rootOf y = uf.rootOf y := by
  apply Roots.unique (h.add x)
  refine ⟨fun z hz => ?_, fun z => ?_⟩
  · rw [parentOf_add] at hz
    exact h.roots.fixed z hz
  · rw [parentOf_add, h.roots.parent]

theorem mem_nodes_add_self (uf : UnionFind α) (x : α) : x ∈ (uf.add x).nodes :=
  (mem_nodes_add _ _ _).mpr (Or.inr rfl)

theorem find_spec {uf : UnionFind α} (h : uf.WellRanked) (x : α) :
    (uf.find x).1 = uf.rootOf x ∧ (uf.add x).Compressed (uf.find x).2 := by
  have hroot : (uf.find x).1 = (uf.add x).rootOf x := rfl
  refine ⟨hroot.trans (h.rootOf_add x x), ?_⟩
  exact compress_spec _ (h.add x) (mem_nodes_add_self _ _)

/-! ### Joining -/

/-- `after` has the roots of `uf`, but `keep` where `lose` was. -/
structure Linked (uf after : UnionFind α) (keep lose : α) : Prop where
  wellRanked : after.WellRanked
  nodes : after.nodes = uf.nodes
  rootOf : ∀ x, after.rootOf x = if uf.rootOf x = lose then keep else uf.rootOf x

/-- Pointing a root at another root, which has or is given a greater rank. -/
theorem WellRanked.link {uf : UnionFind α} (h : uf.WellRanked) {keep lose : α}
    (hkeep : keep ∈ uf.nodes) (hlose : lose ∈ uf.nodes) (hkeepRoot : uf.parentOf keep = keep)
    (hloseRoot : uf.parentOf lose = lose) (hne : keep ≠ lose) {rank : List (α × Nat)}
    (hother : ∀ x, x ≠ keep → (rank.lookup x).getD 0 = uf.rankOf x)
    (hgrows : uf.rankOf keep ≤ (rank.lookup keep).getD 0)
    (hlt : uf.rankOf lose < (rank.lookup keep).getD 0) :
    uf.Linked { uf.point lose keep with rank := rank } keep lose := by
  have hparent : ∀ y, parentOf { uf.point lose keep with rank := rank } y =
      if y = lose then keep else uf.parentOf y := parentOf_point uf lose keep
  have hnodes : nodes { uf.point lose keep with rank := rank } = uf.nodes := nodes_point hlose keep
  have hranked : WellRanked { uf.point lose keep with rank := rank } := by
    intro y hy
    rw [hnodes]
    rw [hparent] at hy ⊢
    by_cases hyl : y = lose
    · rw [if_pos hyl, hyl]
      refine ⟨hkeep, ?_⟩
      rw [rankOf, hother lose hne.symm]
      exact hlt
    · rw [if_neg hyl] at hy ⊢
      obtain ⟨hmem, hrank⟩ := h y hy
      have hyk : y ≠ keep := fun e => hy (e ▸ hkeepRoot)
      refine ⟨hmem, ?_⟩
      rw [rankOf, rankOf, hother y hyk]
      by_cases hpk : uf.parentOf y = keep
      · rw [hpk] at hrank ⊢
        exact Nat.lt_of_lt_of_le hrank hgrows
      · rwa [hother _ hpk]
  refine ⟨hranked, hnodes, Roots.unique hranked ⟨?_, ?_⟩⟩
  · intro y hy
    rw [hparent] at hy
    by_cases hyl : y = lose
    · rw [if_pos hyl, hyl] at hy
      exact absurd hy hne
    · rw [if_neg hyl] at hy
      rw [h.roots.fixed y hy, if_neg hyl]
  · intro y
    rw [hparent]
    by_cases hyl : y = lose
    · rw [if_pos hyl, hyl, h.roots.fixed keep hkeepRoot, h.roots.fixed lose hloseRoot, if_neg hne,
        if_pos rfl]
    · rw [if_neg hyl, h.roots.parent]

theorem Linked.of_compressed {uf mid after : UnionFind α} {keep lose : α} (h : uf.Compressed mid)
    (h' : mid.Linked after keep lose) : uf.Linked after keep lose where
  wellRanked := h'.wellRanked
  nodes := h'.nodes.trans h.nodes
  rootOf := fun x => by rw [h'.rootOf, h.rootOf]

/-- Both ends are found: the roots, and the forest that is left. -/
theorem find_find_spec {uf : UnionFind α} (h : uf.WellRanked) (a b : α) :
    (uf.find a).1 = uf.rootOf a ∧ ((uf.find a).2.find b).1 = uf.rootOf b ∧
      ((uf.add a).add b).Compressed ((uf.find a).2.find b).2 := by
  obtain ⟨hra, ha⟩ := find_spec h a
  obtain ⟨hrb, hb⟩ := find_spec ha.wellRanked b
  refine ⟨hra, ?_, ?_⟩
  · rw [hrb, ha.rootOf, h.rootOf_add]
  · refine ⟨hb.wellRanked, ?_, fun x => ?_⟩
    · rw [hb.nodes, nodes_add, nodes_add, ha.nodes]
    · rw [hb.rootOf, ha.wellRanked.rootOf_add, ha.rootOf, (h.add a).rootOf_add]

theorem union_spec (le : α → α → Bool) {uf : UnionFind α} (h : uf.WellRanked) (a b : α) :
    ∃ keep lose, (keep = uf.rootOf a ∧ lose = uf.rootOf b ∨ keep = uf.rootOf b ∧ lose = uf.rootOf a) ∧
      ((uf.add a).add b).Linked (uf.union le a b).2 keep lose := by
  obtain ⟨hra, hrb, hfound⟩ := find_find_spec h a b
  have hadd := (h.add a).add b
  have hroot : ∀ x, ((uf.find a).2.find b).2.rootOf x = uf.rootOf x := by
    intro x
    rw [hfound.rootOf, (h.add a).rootOf_add, h.rootOf_add]
  have hmem : ∀ x, x = a ∨ x = b → uf.rootOf x ∈ ((uf.find a).2.find b).2.nodes := by
    intro x hx
    rw [← hroot]
    apply hfound.wellRanked.rootOf_mem
    rw [hfound.nodes, mem_nodes_add, mem_nodes_add]
    tauto
  have hfix : ∀ x, ((uf.find a).2.find b).2.parentOf (uf.rootOf x) = uf.rootOf x := by
    intro x
    rw [← hroot]
    exact hfound.wellRanked.parentOf_rootOf x
  have ha := hmem a (Or.inl rfl)
  have hb := hmem b (Or.inr rfl)
  simp only [union, hra, hrb]
  generalize ((uf.find a).2.find b).2 = found at *
  by_cases heq : uf.rootOf a = uf.rootOf b
  · rw [if_pos heq]
    refine ⟨uf.rootOf a, uf.rootOf b, Or.inl ⟨rfl, rfl⟩, Linked.of_compressed hfound ?_⟩
    refine ⟨hfound.wellRanked, rfl, fun x => ?_⟩
    by_cases hx : found.rootOf x = uf.rootOf b
    · rw [if_pos hx, hx, heq]
    · rw [if_neg hx]
  rw [if_neg heq]
  by_cases hab : found.rankOf (uf.rootOf a) < found.rankOf (uf.rootOf b)
  · rw [if_pos hab]
    refine ⟨uf.rootOf b, uf.rootOf a, Or.inr ⟨rfl, rfl⟩, Linked.of_compressed hfound ?_⟩
    exact hfound.wellRanked.link hb ha (hfix b) (hfix a) (Ne.symm heq) (fun _ _ => rfl)
      (Nat.le_refl _) hab
  rw [if_neg hab]
  by_cases hba : found.rankOf (uf.rootOf b) < found.rankOf (uf.rootOf a)
  · rw [if_pos hba]
    refine ⟨uf.rootOf a, uf.rootOf b, Or.inl ⟨rfl, rfl⟩, Linked.of_compressed hfound ?_⟩
    exact hfound.wellRanked.link ha hb (hfix a) (hfix b) heq (fun _ _ => rfl) (Nat.le_refl _) hba
  rw [if_neg hba]
  -- Equal ranks: the rank of the root that is kept grows by one.
  have hbump : ∀ r x, x ≠ r →
      ((Dict.set found.rank r (found.rankOf r + 1)).lookup x).getD 0 = found.rankOf x := by
    intro r x hx
    rw [Dict.lookup_set_ne _ _ hx, rankOf]
  by_cases hle : le (uf.rootOf a) (uf.rootOf b)
  · rw [if_pos hle]
    refine ⟨uf.rootOf a, uf.rootOf b, Or.inl ⟨rfl, rfl⟩, Linked.of_compressed hfound ?_⟩
    apply hfound.wellRanked.link ha hb (hfix a) (hfix b) heq (hbump _)
    · rw [Dict.lookup_set_self, Option.getD_some]
      omega
    · rw [Dict.lookup_set_self, Option.getD_some]
      omega
  · rw [if_neg hle]
    refine ⟨uf.rootOf b, uf.rootOf a, Or.inr ⟨rfl, rfl⟩, Linked.of_compressed hfound ?_⟩
    apply hfound.wellRanked.link hb ha (hfix b) (hfix a) (Ne.symm heq) (hbump _)
    · rw [Dict.lookup_set_self, Option.getD_some]
      omega
    · rw [Dict.lookup_set_self, Option.getD_some]
      omega

/-! ### Building -/

/-- The forest that a list of pairs builds. -/
structure Built (pairs : List (α × α)) (uf : UnionFind α) : Prop where
  wellRanked : uf.WellRanked
  nodup : uf.nodes.Nodup
  mem_nodes : ∀ x, x ∈ uf.nodes ↔ ∃ p ∈ pairs, x = p.1 ∨ x = p.2
  joined : ∀ a b, (a, b) ∈ pairs → uf.rootOf a = uf.rootOf b
  connected : ∀ x, Connected pairs x (uf.rootOf x)

theorem Built.union (le : α → α → Bool) {pairs : List (α × α)} {uf : UnionFind α}
    (h : Built pairs uf) (a b : α) :
    Built (pairs ++ [(a, b)]) (((uf.add a).add b).union le a b).2 := by
  have hadd := (h.wellRanked.add a).add b
  have hroot : ∀ x, ((uf.add a).add b).rootOf x = uf.rootOf x := by
    intro x
    rw [(h.wellRanked.add a).rootOf_add, h.wellRanked.rootOf_add]
  obtain ⟨keep, lose, hends, hlinked⟩ := union_spec le hadd a b
  have hagain : (((uf.add a).add b).add a).add b = (uf.add a).add b := by
    have ha : a ∈ ((uf.add a).add b).nodes := by
      rw [mem_nodes_add, mem_nodes_add]
      exact Or.inl (Or.inr rfl)
    rw [add_of_mem ha, add_of_mem (mem_nodes_add_self _ _)]
  rw [hagain] at hlinked
  rw [hroot, hroot] at hends
  have hmore : ∀ p ∈ pairs, p ∈ pairs ++ [(a, b)] := fun p hp => List.mem_append_left _ hp
  refine ⟨hlinked.wellRanked, ?_, ?_, ?_, ?_⟩
  · rw [hlinked.nodes]
    exact nodup_nodes_add (nodup_nodes_add h.nodup a) b
  · intro x
    rw [hlinked.nodes, mem_nodes_add, mem_nodes_add, h.mem_nodes]
    simp only [List.mem_append, List.mem_singleton, or_and_right, exists_or, exists_eq_left]
    rw [or_assoc]
  · intro c d hcd
    rw [hlinked.rootOf, hlinked.rootOf, hroot, hroot]
    rcases List.mem_append.mp hcd with hcd | hcd
    · rw [h.joined c d hcd]
    · obtain ⟨rfl, rfl⟩ := Prod.mk.inj (List.mem_singleton.mp hcd)
      rcases hends with ⟨rfl, rfl⟩ | ⟨rfl, rfl⟩
      · rw [if_pos rfl]
        split <;> rfl
      · rw [if_pos rfl]
        split
        · rfl
        · rfl
  · intro x
    have hx := (h.connected x).mono hmore
    rw [hlinked.rootOf, hroot]
    by_cases hlose : uf.rootOf x = lose
    · rw [if_pos hlose]
      have hab : Connected (pairs ++ [(a, b)]) a b :=
        Connected.pair (List.mem_append_right _ (List.mem_singleton.mpr rfl))
      have ha := (h.connected a).mono hmore
      have hb := (h.connected b).mono hmore
      rcases hends with ⟨rfl, rfl⟩ | ⟨rfl, rfl⟩
      · rw [hlose] at hx
        exact hx.trans (hb.symm.trans (hab.symm.trans ha))
      · rw [hlose] at hx
        exact hx.trans (ha.symm.trans (hab.trans hb))
    · rw [if_neg hlose]
      exact hx

theorem built_empty : Built ([] : List (α × α)) empty where
  wellRanked := fun x hx => absurd rfl hx
  nodup := List.nodup_nil
  mem_nodes := by simp [nodes, Dict.keys, empty]
  joined := by simp
  connected := fun x => Connected.refl _ x

theorem built_build (le : α → α → Bool) (pairs : List (α × α)) : Built pairs (build le pairs) := by
  induction pairs using List.reverseRecOn with
  | nil => exact built_empty
  | append_singleton pairs p ih =>
    rw [build, List.foldl_append, List.foldl_cons, List.foldl_nil]
    exact ih.union le p.1 p.2

theorem rootOf_build_iff (le : α → α → Bool) (pairs : List (α × α)) {x y : α} :
    (build le pairs).rootOf x = (build le pairs).rootOf y ↔ Connected pairs x y := by
  have h := built_build le pairs
  constructor
  · intro heq
    have hx := h.connected x
    rw [heq] at hx
    exact hx.trans (h.connected y).symm
  · exact Connected.lift h.joined

/-! ### Groups -/

theorem lookup_pushTo (d : List (α × List α)) (root node other : α) :
    (pushTo d root node).lookup other =
      if other = root then some ((d.lookup root).getD [] ++ [node]) else d.lookup other := by
  unfold pushTo
  by_cases h : other = root
  · subst h
    rw [if_pos rfl]
    split
    case h_1 members hlookup => rw [hlookup, Dict.lookup_set_self, Option.getD_some]
    case h_2 hlookup => rw [hlookup, Dict.lookup_set_self, Option.getD_none, List.nil_append]
  · rw [if_neg h]
    split <;> exact Dict.lookup_set_ne _ _ h

theorem nodup_keys_pushTo {d : List (α × List α)} (h : (Dict.keys d).Nodup) (root node : α) :
    (Dict.keys (pushTo d root node)).Nodup := by
  unfold pushTo
  split <;> exact Dict.nodup_keys_set _ _ h

/-- The loop over the nodes finds the roots that they had before it. -/
theorem foldl_group {uf : UnionFind α} (h : uf.WellRanked) {xs : List α}
    (hxs : ∀ x ∈ xs, x ∈ uf.nodes) (d : List (α × List α)) :
    (xs.foldl group (uf, d)).2 = xs.foldl (fun d x => pushTo d (uf.rootOf x) x) d := by
  induction xs generalizing uf d with
  | nil => rfl
  | cons x xs ih =>
    obtain ⟨hroot, hfound⟩ := find_spec h x
    rw [add_of_mem (hxs x List.mem_cons_self)] at hfound
    have hrest : ∀ y ∈ xs, y ∈ (uf.find x).2.nodes := by
      intro y hy
      rw [hfound.nodes]
      exact hxs y (List.mem_cons_of_mem _ hy)
    have hsame : (uf.find x).2.rootOf = uf.rootOf := funext hfound.rootOf
    rw [List.foldl_cons, List.foldl_cons, group, ih hfound.wellRanked hrest, hroot, hsame]

theorem foldl_pushTo (f : α → α) (xs : List α) :
    (Dict.keys (xs.foldl (fun d x => pushTo d (f x) x) [])).Nodup ∧
      ∀ r, (xs.foldl (fun d x => pushTo d (f x) x) []).lookup r =
        if ∃ x ∈ xs, f x = r then some (xs.filter fun x => f x = r) else none := by
  induction xs using List.reverseRecOn with
  | nil => simp [Dict.keys]
  | append_singleton xs x ih =>
    rw [List.foldl_append, List.foldl_cons, List.foldl_nil]
    refine ⟨nodup_keys_pushTo ih.1 _ _, fun r => ?_⟩
    rw [lookup_pushTo, ih.2, ih.2]
    by_cases hr : r = f x
    · have hx : ∃ y ∈ xs ++ [x], f y = r :=
        ⟨x, List.mem_append_right _ (List.mem_singleton.mpr rfl), hr.symm⟩
      rw [if_pos hr, if_pos hx, List.filter_append]
      by_cases hold : ∃ y ∈ xs, f y = f x
      · rw [if_pos hold]
        simp [hr]
      · have hnone : xs.filter (fun y => f y = f x) = [] := by
          rw [List.filter_eq_nil_iff]
          intro y hy he
          exact hold ⟨y, hy, by simpa using he⟩
        rw [if_neg hold, hr, hnone]
        simp
    · rw [if_neg hr, List.filter_append]
      have hx : f x ≠ r := fun e => hr e.symm
      simp [hx]

theorem mem_groups_iff {uf : UnionFind α} (h : uf.WellRanked) {root : α} {members : List α} :
    (root, members) ∈ uf.groups ↔
      (∃ x ∈ uf.nodes, uf.rootOf x = root) ∧
        members = uf.nodes.filter fun x => uf.rootOf x = root := by
  obtain ⟨hnodup, hlookup⟩ := foldl_pushTo uf.rootOf uf.nodes
  rw [groups, foldl_group h fun _ => id, ← Dict.lookup_eq_some_iff_mem hnodup, hlookup]
  by_cases hroot : ∃ x ∈ uf.nodes, uf.rootOf x = root
  · rw [if_pos hroot, Option.some.injEq]
    exact ⟨fun e => ⟨hroot, e.symm⟩, fun e => e.2.symm⟩
  · rw [if_neg hroot]
    exact ⟨nofun, fun e => absurd e.1 hroot⟩

theorem nodup_keys_groups {uf : UnionFind α} (h : uf.WellRanked) : (Dict.keys uf.groups).Nodup := by
  rw [groups, foldl_group h fun _ => id]
  exact (foldl_pushTo _ _).1

end UnionFind

end BrainV2

/-! ## Runs of a union-find -/

namespace BrainV2.UnionFind

variable {α : Type*} [DecidableEq α]

def traverseWithin (uf : UnionFind α) : Nat → α → Option α
  | 0, _ => none
  | fuel + 1, node =>
    match uf.parent.lookup node with
    | none => none
    | some next => if next = node then some node else traverseWithin uf fuel next

def compressWithin (root : α) : Nat → UnionFind α → α → Option (UnionFind α)
  | 0, _, _ => none
  | fuel + 1, uf, current =>
    if current = root then some uf
    else
      match uf.parent.lookup current with
      | none => none
      | some next => compressWithin root fuel (uf.point current root) next

def findWithin (fuel : Nat) (uf : UnionFind α) (node : α) : Option (α × UnionFind α) := do
  let uf := uf.add node
  let root ← uf.traverseWithin fuel node
  let uf ← compressWithin root fuel uf node
  return (root, uf)

def unionWithin (le : α → α → Bool) (fuel : Nat) (uf : UnionFind α) (a b : α) :
    Option (α × UnionFind α) := do
  let (ra, uf) ← uf.findWithin fuel a
  let (rb, uf) ← uf.findWithin fuel b
  if ra = rb then return (ra, uf)
  else if uf.rankOf ra < uf.rankOf rb then return (rb, uf.point ra rb)
  else if uf.rankOf rb < uf.rankOf ra then return (ra, uf.point rb ra)
  else if le ra rb then
    return (ra, { uf.point rb ra with rank := Dict.set uf.rank ra (uf.rankOf ra + 1) })
  else return (rb, { uf.point ra rb with rank := Dict.set uf.rank rb (uf.rankOf rb + 1) })

def buildWithin (le : α → α → Bool) (fuel : Nat) (pairs : List (α × α)) : Option (UnionFind α) :=
  pairs.foldlM (fun uf (a, b) => (((uf.add a).add b).unionWithin le fuel a b).map (·.2)) empty

def groupWithin (fuel : Nat) (s : UnionFind α × List (α × List α)) (node : α) :
    Option (UnionFind α × List (α × List α)) := do
  let (root, uf) ← s.1.findWithin fuel node
  return (uf, pushTo s.2 root node)

def groupsWithin (fuel : Nat) (uf : UnionFind α) : Option (List (α × List α)) :=
  (uf.nodes.foldlM (groupWithin fuel) (uf, [])).map (·.2)

/-! ### One loop -/

theorem lookup_of_mem {uf : UnionFind α} {x : α} (h : x ∈ uf.nodes) :
    uf.parent.lookup x = some (uf.parentOf x) := by
  obtain ⟨p, hp⟩ := Option.isSome_iff_exists.mp (mem_nodes_iff.mp h)
  rw [parentOf, hp, Option.getD_some]

theorem above_le (uf : UnionFind α) (x : α) : uf.above x ≤ uf.nodes.length :=
  List.countP_le_length

theorem above_point {uf : UnionFind α} {x : α} (h : x ∈ uf.nodes) (target y : α) :
    (uf.point x target).above y = uf.above y := by
  rw [above, above, nodes_point h]
  rfl

/-- The walk to the root takes a step for each node of a greater rank at most. -/
theorem WellRanked.traverseWithin_eq {uf : UnionFind α} (h : uf.WellRanked) {fuel : Nat} {x : α}
    (hx : x ∈ uf.nodes) (hfuel : uf.above x < fuel) :
    uf.traverseWithin fuel x = some (uf.rootOf x) := by
  induction fuel generalizing x with
  | zero => omega
  | succ fuel ih =>
    simp only [traverseWithin, lookup_of_mem hx]
    by_cases hp : uf.parentOf x = x
    · simp [hp, h.roots.fixed x hp]
    · have hlt := h.above_parentOf_lt hp
      have hrest := ih (h.parentOf_mem hx) (by omega)
      simpa [hp, h.roots.parent] using hrest

/-- The second walk leaves a pointer behind only after it was read. -/
theorem WellRanked.compressWithin_eq {uf : UnionFind α} (h : uf.WellRanked) {fuel n : Nat} {x : α}
    (hx : x ∈ uf.nodes) (hfuel : uf.above x < fuel) (hn : uf.above x ≤ n) :
    compressWithin (uf.rootOf x) fuel uf x = some (compress (uf.rootOf x) n uf x) := by
  induction fuel generalizing uf x n with
  | zero => omega
  | succ fuel ih =>
    by_cases hroot : x = uf.rootOf x
    · cases n <;> simp [compressWithin, compress, ← hroot]
    · have hp : uf.parentOf x ≠ x := fun e => hroot (h.roots.fixed x e).symm
      have hlt := h.above_parentOf_lt hp
      have hpoint := h.point_rootOf hx
      have hmem : uf.parentOf x ∈ (uf.point x (uf.rootOf x)).nodes := by
        rw [hpoint.nodes]
        exact h.parentOf_mem hx
      cases n with
      | zero => omega
      | succ n =>
        have hrest := ih (n := n) hpoint.wellRanked hmem
          (by rw [above_point hx]; omega) (by rw [above_point hx]; omega)
        rw [hpoint.rootOf, h.roots.parent] at hrest
        simpa only [compressWithin, compress, if_neg hroot, lookup_of_mem hx] using hrest

theorem WellRanked.findWithin_eq {uf : UnionFind α} (h : uf.WellRanked) {fuel : Nat} (x : α)
    (hfuel : (uf.add x).nodes.length < fuel) : uf.findWithin fuel x = some (uf.find x) := by
  have hadd := h.add x
  have hx := mem_nodes_add_self uf x
  have habove := above_le (uf.add x) x
  have hroot : (uf.add x).traverseWithin fuel x = some ((uf.add x).rootOf x) :=
    hadd.traverseWithin_eq hx (by omega)
  have hpath : compressWithin ((uf.add x).rootOf x) fuel (uf.add x) x =
      some (compress ((uf.add x).rootOf x) (uf.add x).nodes.length (uf.add x) x) :=
    hadd.compressWithin_eq hx (by omega) habove
  simp only [findWithin, hroot, Option.bind_eq_bind, Option.bind_some, hpath]
  rfl

/-! ### All loops -/

theorem nodes_find {uf : UnionFind α} (h : uf.WellRanked) (x : α) :
    (uf.find x).2.nodes = (uf.add x).nodes :=
  (find_spec h x).2.nodes

theorem WellRanked.unionWithin_eq {uf : UnionFind α} (h : uf.WellRanked) (le : α → α → Bool)
    {fuel : Nat} {a b : α} (hfuel : uf.nodes.length < fuel) (ha : a ∈ uf.nodes) (hb : b ∈ uf.nodes) :
    uf.unionWithin le fuel a b = some (uf.union le a b) := by
  have hfirst : uf.findWithin fuel a = some (uf.find a) :=
    h.findWithin_eq a (by rwa [add_of_mem ha])
  have hnodes : (uf.find a).2.nodes = uf.nodes := by rw [nodes_find h, add_of_mem ha]
  have hsecond : (uf.find a).2.findWithin fuel b = some ((uf.find a).2.find b) :=
    (find_spec h a).2.wellRanked.findWithin_eq b (by rwa [add_of_mem (hnodes ▸ hb), hnodes])
  simp only [unionWithin, hfirst, Option.bind_eq_bind, Option.bind_some, hsecond, union]
  split_ifs <;> rfl

theorem Built.length_nodes_le {pairs : List (α × α)} {uf : UnionFind α} (h : Built pairs uf) :
    uf.nodes.length ≤ 2 * pairs.length := by
  have hsub : uf.nodes ⊆ pairs.flatMap fun p => [p.1, p.2] := by
    intro x hx
    obtain ⟨p, hp, hends⟩ := (h.mem_nodes x).mp hx
    exact List.mem_flatMap.mpr ⟨p, hp, by simpa using hends⟩
  have hle := (h.nodup.subperm hsub).length_le
  have hlength : (pairs.flatMap fun p => [p.1, p.2]).length = 2 * pairs.length := by
    simp [List.length_flatMap, Nat.mul_comm]
  omega

theorem build_append (le : α → α → Bool) (pairs : List (α × α)) (p : α × α) :
    build le (pairs ++ [p]) = ((((build le pairs).add p.1).add p.2).union le p.1 p.2).2 := by
  rw [build, List.foldl_append]
  rfl

theorem buildWithin_eq (le : α → α → Bool) {pairs : List (α × α)} {fuel : Nat}
    (hfuel : 2 * pairs.length < fuel) : buildWithin le fuel pairs = some (build le pairs) := by
  induction pairs using List.reverseRecOn with
  | nil => rfl
  | append_singleton pairs p ih =>
    rw [List.length_append, List.length_singleton] at hfuel
    have hbuilt := built_build le pairs
    have hadded := (hbuilt.wellRanked.add p.1).add p.2
    have hmem : p.1 ∈ (((build le pairs).add p.1).add p.2).nodes := by
      rw [mem_nodes_add]
      exact Or.inl (mem_nodes_add_self _ _)
    have hlength := (built_build le (pairs ++ [p])).length_nodes_le
    have hnodes : (build le (pairs ++ [p])).nodes =
        (((build le pairs).add p.1).add p.2).nodes := by
      obtain ⟨keep, lose, -, hlinked⟩ := union_spec le hadded p.1 p.2
      rw [add_of_mem hmem, add_of_mem (mem_nodes_add_self _ _)] at hlinked
      rw [build_append]
      exact hlinked.nodes
    rw [hnodes, List.length_append, List.length_singleton] at hlength
    have hunion : (((build le pairs).add p.1).add p.2).unionWithin le fuel p.1 p.2 =
        some ((((build le pairs).add p.1).add p.2).union le p.1 p.2) :=
      hadded.unionWithin_eq le (by omega) hmem (mem_nodes_add_self _ _)
    have hrest := ih (by omega)
    unfold buildWithin at hrest ⊢
    rw [List.foldlM_append, hrest, build_append]
    simp only [Option.bind_eq_bind, Option.bind_some, List.foldlM_cons, List.foldlM_nil, hunion]
    rfl

theorem foldlM_group {uf : UnionFind α} (h : uf.WellRanked) {fuel : Nat}
    (hfuel : uf.nodes.length < fuel) {xs : List α} (hxs : ∀ x ∈ xs, x ∈ uf.nodes)
    (d : List (α × List α)) : xs.foldlM (groupWithin fuel) (uf, d) = some (xs.foldl group (uf, d)) := by
  induction xs generalizing uf d with
  | nil => rfl
  | cons x xs ih =>
    have hx := hxs x List.mem_cons_self
    have hfound : uf.findWithin fuel x = some (uf.find x) :=
      h.findWithin_eq x (by rwa [add_of_mem hx])
    have hnodes : (uf.find x).2.nodes = uf.nodes := by rw [nodes_find h, add_of_mem hx]
    have hrest := ih (find_spec h x).2.wellRanked (by rwa [hnodes])
      (fun y hy => hnodes ▸ hxs y (List.mem_cons_of_mem _ hy)) (pushTo d (uf.find x).1 x)
    rw [List.foldlM_cons, List.foldl_cons, groupWithin, hfound]
    exact hrest

theorem WellRanked.groupsWithin_eq {uf : UnionFind α} (h : uf.WellRanked) {fuel : Nat}
    (hfuel : uf.nodes.length < fuel) : groupsWithin fuel uf = some uf.groups := by
  rw [groupsWithin, foldlM_group h hfuel fun _ hx => hx]
  rfl

end BrainV2.UnionFind
