import BrainV2.Consent.SubjectErasure
import BrainV2.Lib.Encodings
import BrainV2.Lib.UnionFind
import Mathlib.Data.List.Sort

/-!
# Components of the identity graph

* `buildComponentsFromEdges`: the connected components of a list of edges;
* `components_spec`: a component holds what its members are linked to;
* `exists_component`, `components_disjoint`: every node is in one component;
* `resolveWinningClusterId`: which of two clusters survives a merge.

With a bound on the steps of each loop:

* `buildComponentsFromEdgesWithin_eq`: a bound above twice the number of edges
  is enough, so the loops end;
* `isPartition_components`: what is returned is the partition of the nodes of
  the edges into linked sets;
* `perm_of_rearranged`: the order of the edges and of their ends does not matter.
-/

namespace BrainV2.Identity

open BrainV2.Utf16 BrainV2.Consent

/-- A component, by its smallest member. -/
structure Component where
  minLabel : String
  members : List String
  size : Nat
deriving DecidableEq, Repr

structure IdentityEdge where
  nodeA : String
  nodeB : String
deriving DecidableEq, Repr

/-- Members in the order of their code units: the sort is stable. -/
def sortMembers (members : List String) : List String :=
  members.insertionSort fun a b => unitsLe a b

def buildComponents (uf : UnionFind String) : List Component :=
  uf.groups.map fun (_, group) =>
    let members := sortMembers group
    ⟨members.headD "", members, members.length⟩

def buildComponentsFromEdges (edges : List IdentityEdge) : List Component :=
  buildComponents (UnionFind.build unitsLe (edges.map fun e => (e.nodeA, e.nodeB)))

/-- A cluster and the time its registry entry was made. -/
structure DatedCluster where
  clusterId : String
  createdAt : Time
deriving DecidableEq, Repr

/-- The older cluster, at equal times the smaller id. -/
def resolveWinningClusterId (clusterA clusterB : DatedCluster) : String :=
  if clusterA.createdAt < clusterB.createdAt then clusterA.clusterId
  else if clusterB.createdAt < clusterA.createdAt then clusterB.clusterId
  else if unitsLe clusterA.clusterId clusterB.clusterId then clusterA.clusterId
  else clusterB.clusterId

/-! ### What the components are -/

/-- A path of edges. -/
def Linked (edges : List IdentityEdge) (u v : String) : Prop :=
  UnionFind.Connected (edges.map fun e => (e.nodeA, e.nodeB)) u v

/-- An edge ends in the node. -/
def HasEdge (edges : List IdentityEdge) (u : String) : Prop :=
  ∃ e ∈ edges, u = e.nodeA ∨ u = e.nodeB

section

variable {edges : List IdentityEdge} {c : Component} {u v : String}

theorem Linked.refl (edges : List IdentityEdge) (u : String) : Linked edges u u :=
  UnionFind.Connected.refl _ _

theorem Linked.symm (h : Linked edges u v) : Linked edges v u := UnionFind.Connected.symm h

theorem Linked.trans {w : String} (h : Linked edges u v) (h' : Linked edges v w) :
    Linked edges u w :=
  UnionFind.Connected.trans h h'

theorem Linked.edge {e : IdentityEdge} (h : e ∈ edges) : Linked edges e.nodeA e.nodeB :=
  UnionFind.Connected.pair (List.mem_map.mpr ⟨e, h, rfl⟩)

theorem Linked.mono {more : List IdentityEdge} (hmore : ∀ e ∈ edges, e ∈ more)
    (h : Linked edges u v) : Linked more u v := by
  apply UnionFind.Connected.mono _ h
  intro p hp
  obtain ⟨e, he, rfl⟩ := List.mem_map.mp hp
  exact List.mem_map.mpr ⟨e, hmore e he, rfl⟩

/-- Only nodes of edges are linked to others. -/
theorem Linked.hasEdge (h : Linked edges u v) : u = v ∨ HasEdge edges u ∧ HasEdge edges v := by
  unfold Linked UnionFind.Connected at h
  induction h with
  | rel a b hab =>
    obtain ⟨e, he, heq⟩ := List.mem_map.mp hab
    obtain ⟨rfl, rfl⟩ := Prod.mk.inj heq
    exact Or.inr ⟨⟨e, he, Or.inl rfl⟩, ⟨e, he, Or.inr rfl⟩⟩
  | refl a => exact Or.inl rfl
  | symm a b _ ih =>
    rcases ih with ih | ih
    · exact Or.inl ih.symm
    · exact Or.inr ih.symm
  | trans a b c _ _ ih ih' =>
    rcases ih with rfl | ih
    · exact ih'
    · rcases ih' with rfl | ih'
      · exact Or.inr ih
      · exact Or.inr ⟨ih.1, ih'.2⟩

theorem hasEdge_iff (edges : List IdentityEdge) (u : String) :
    u ∈ (UnionFind.build unitsLe (edges.map fun e => (e.nodeA, e.nodeB))).nodes ↔
      HasEdge edges u := by
  rw [(UnionFind.built_build _ _).mem_nodes]
  constructor
  · rintro ⟨p, hp, hu⟩
    obtain ⟨e, he, rfl⟩ := List.mem_map.mp hp
    exact ⟨e, he, hu⟩
  · rintro ⟨e, he, hu⟩
    exact ⟨_, List.mem_map.mpr ⟨e, he, rfl⟩, hu⟩

theorem perm_sortMembers (members : List String) : (sortMembers members).Perm members :=
  List.perm_insertionSort _ _

theorem pairwise_sortMembers (members : List String) :
    (sortMembers members).Pairwise fun a b => unitsLe a b = true := by
  have htotal : Std.Total fun a b : String => unitsLe a b = true := ⟨unitsLe_total⟩
  have htrans : IsTrans String fun a b => unitsLe a b = true := ⟨fun _ _ _ => unitsLe_trans⟩
  exact List.pairwise_insertionSort _ _

/-- What a component of the edges is. -/
structure IsComponent (edges : List IdentityEdge) (c : Component) : Prop where
  minLabel_mem : c.minLabel ∈ c.members
  sorted : c.members.Pairwise fun a b => unitsLe a b = true
  nodup : c.members.Nodup
  size : c.size = c.members.length
  hasEdge : ∀ u ∈ c.members, HasEdge edges u
  mem_iff : ∀ u ∈ c.members, ∀ v, v ∈ c.members ↔ Linked edges u v
  minLabel_le : ∀ u ∈ c.members, unitsLe c.minLabel u = true

theorem headD_mem {xs : List String} (h : xs ≠ []) : xs.headD "" ∈ xs := by
  cases xs with
  | nil => exact absurd rfl h
  | cons x xs => exact List.mem_cons_self

theorem headD_le {xs : List String} (h : xs.Pairwise fun a b => unitsLe a b = true) {u : String}
    (hu : u ∈ xs) : unitsLe (xs.headD "") u = true := by
  cases xs with
  | nil => cases hu
  | cons x xs =>
    rcases List.mem_cons.mp hu with rfl | hu
    · exact unitsLe_refl _
    · exact List.rel_of_pairwise_cons h hu

theorem components_spec (h : c ∈ buildComponentsFromEdges edges) : IsComponent edges c := by
  obtain ⟨⟨root, group⟩, hgroup, rfl⟩ := List.mem_map.mp h
  have hbuilt := UnionFind.built_build unitsLe (edges.map fun e => (e.nodeA, e.nodeB))
  obtain ⟨⟨x, hx, hroot⟩, rfl⟩ := (UnionFind.mem_groups_iff hbuilt.wellRanked).mp hgroup
  have hmem : ∀ v, v ∈ sortMembers ((UnionFind.build unitsLe
      (edges.map fun e => (e.nodeA, e.nodeB))).nodes.filter fun y => (UnionFind.build unitsLe
        (edges.map fun e => (e.nodeA, e.nodeB))).rootOf y = root) ↔
      HasEdge edges v ∧ Linked edges x v := by
    intro v
    rw [(perm_sortMembers _).mem_iff, List.mem_filter, hasEdge_iff, decide_eq_true_iff, ← hroot,
      UnionFind.rootOf_build_iff]
    exact ⟨fun e => ⟨e.1, e.2.symm⟩, fun e => ⟨e.1, e.2.symm⟩⟩
  have hsorted := pairwise_sortMembers ((UnionFind.build unitsLe
    (edges.map fun e => (e.nodeA, e.nodeB))).nodes.filter fun y => (UnionFind.build unitsLe
      (edges.map fun e => (e.nodeA, e.nodeB))).rootOf y = root)
  have hne := List.ne_nil_of_mem ((hmem x).mpr ⟨(hasEdge_iff _ _).mp hx, Linked.refl _ _⟩)
  exact {
    minLabel_mem := headD_mem hne
    sorted := hsorted
    nodup := (perm_sortMembers _).nodup_iff.mpr (hbuilt.nodup.filter _)
    size := rfl
    hasEdge := fun u hu => ((hmem u).mp hu).1
    mem_iff := by
      intro u hu v
      obtain ⟨huEdge, hxu⟩ := (hmem u).mp hu
      rw [hmem]
      constructor
      · rintro ⟨-, hxv⟩
        exact hxu.symm.trans hxv
      · intro huv
        refine ⟨?_, hxu.trans huv⟩
        rcases huv.hasEdge with rfl | hv
        · exact huEdge
        · exact hv.2
    minLabel_le := fun u hu => headD_le hsorted hu }

theorem exists_component (h : HasEdge edges u) :
    ∃ c ∈ buildComponentsFromEdges edges, u ∈ c.members := by
  have hbuilt := UnionFind.built_build unitsLe (edges.map fun e => (e.nodeA, e.nodeB))
  have hu := (hasEdge_iff edges u).mpr h
  have hgroup := (UnionFind.mem_groups_iff hbuilt.wellRanked).mpr ⟨⟨u, hu, rfl⟩, rfl⟩
  refine ⟨_, List.mem_map.mpr ⟨_, hgroup, rfl⟩, ?_⟩
  apply (perm_sortMembers _).mem_iff.mpr
  exact List.mem_filter.mpr ⟨hu, decide_eq_true rfl⟩

theorem components_disjoint (edges : List IdentityEdge) :
    (buildComponentsFromEdges edges).Pairwise fun c d => ∀ u ∈ c.members, u ∉ d.members := by
  have hbuilt := UnionFind.built_build unitsLe (edges.map fun e => (e.nodeA, e.nodeB))
  have hkeys := UnionFind.nodup_keys_groups hbuilt.wellRanked
  apply List.pairwise_map.mpr
  apply (List.pairwise_map.mp hkeys).imp_of_mem
  rintro ⟨r, g⟩ ⟨s, g'⟩ hg hg' hne u hu hu'
  obtain ⟨-, rfl⟩ := (UnionFind.mem_groups_iff hbuilt.wellRanked).mp hg
  obtain ⟨-, rfl⟩ := (UnionFind.mem_groups_iff hbuilt.wellRanked).mp hg'
  have hr := (List.mem_filter.mp ((perm_sortMembers _).mem_iff.mp hu)).2
  have hs := (List.mem_filter.mp ((perm_sortMembers _).mem_iff.mp hu')).2
  exact hne ((of_decide_eq_true hr).symm.trans (of_decide_eq_true hs))

end

def endsOf (edges : List IdentityEdge) : List (String × String) :=
  edges.map fun e => (e.nodeA, e.nodeB)

def buildComponentsWithin (fuel : Nat) (uf : UnionFind String) : Option (List Component) :=
  (uf.groupsWithin fuel).map fun groups => groups.map fun (_, group) =>
    let members := sortMembers group
    ⟨members.headD "", members, members.length⟩

/-- The components, if no loop takes more steps than the bound. -/
def buildComponentsFromEdgesWithin (fuel : Nat) (edges : List IdentityEdge) :
    Option (List Component) := do
  let uf ← UnionFind.buildWithin unitsLe fuel (endsOf edges)
  buildComponentsWithin fuel uf

/-- The build ends with the components. -/
def Returns (edges : List IdentityEdge) (components : List Component) : Prop :=
  ∃ bound, ∀ fuel, bound ≤ fuel → buildComponentsFromEdgesWithin fuel edges = some components

/-- Components that hold every node of the edges once, linked nodes together. -/
structure IsPartition (edges : List IdentityEdge) (components : List Component) : Prop where
  covers : ∀ u, HasEdge edges u ↔ ∃ c ∈ components, u ∈ c.members
  disjoint : components.Pairwise fun c d => ∀ u ∈ c.members, u ∉ d.members
  together : ∀ u v, HasEdge edges u → HasEdge edges v →
    ((∃ c ∈ components, u ∈ c.members ∧ v ∈ c.members) ↔ Linked edges u v)
  nodup : ∀ c ∈ components, c.members.Nodup
  minLabel : ∀ c ∈ components, c.minLabel ∈ c.members ∧
    ∀ u ∈ c.members, unitsLe c.minLabel u = true
  size : ∀ c ∈ components, c.size = c.members.length

def IdentityEdge.reversed (e : IdentityEdge) : IdentityEdge := ⟨e.nodeB, e.nodeA⟩

/-- The same edges in another order, some of them the other way round. -/
def Rearranged (edges other : List IdentityEdge) : Prop :=
  ∃ turned, List.Forall₂ (fun e t => t = e ∨ t = e.reversed) edges turned ∧ turned.Perm other

theorem buildComponentsFromEdgesWithin_eq {edges : List IdentityEdge} {fuel : Nat}
    (hfuel : 2 * edges.length < fuel) :
    buildComponentsFromEdgesWithin fuel edges = some (buildComponentsFromEdges edges) := by
  have hlength : (endsOf edges).length = edges.length := List.length_map _
  have hbuild : UnionFind.buildWithin unitsLe fuel (endsOf edges) =
      some (UnionFind.build unitsLe (endsOf edges)) := UnionFind.buildWithin_eq unitsLe (by omega)
  have hbuilt := UnionFind.built_build unitsLe (endsOf edges)
  have hnodes := hbuilt.length_nodes_le
  have hgroups : UnionFind.groupsWithin fuel (UnionFind.build unitsLe (endsOf edges)) =
      some (UnionFind.build unitsLe (endsOf edges)).groups :=
    hbuilt.wellRanked.groupsWithin_eq (by omega)
  rw [buildComponentsFromEdgesWithin, hbuild]
  simp only [Option.bind_eq_bind, Option.bind_some, buildComponentsWithin, hgroups]
  rfl

theorem returns_components (edges : List IdentityEdge) :
    Returns edges (buildComponentsFromEdges edges) :=
  ⟨2 * edges.length + 1, fun _ h => buildComponentsFromEdgesWithin_eq (by omega)⟩

theorem isPartition_components (edges : List IdentityEdge) :
    IsPartition edges (buildComponentsFromEdges edges) where
  covers := by
    intro u
    constructor
    · exact exists_component
    · rintro ⟨c, hc, hu⟩
      exact (components_spec hc).hasEdge u hu
  disjoint := components_disjoint edges
  together := by
    intro u v hu _
    constructor
    · rintro ⟨c, hc, hcu, hcv⟩
      exact ((components_spec hc).mem_iff u hcu v).mp hcv
    · intro huv
      obtain ⟨c, hc, hcu⟩ := exists_component hu
      exact ⟨c, hc, hcu, ((components_spec hc).mem_iff u hcu v).mpr huv⟩
  nodup := fun c hc => (components_spec hc).nodup
  minLabel := fun c hc => ⟨(components_spec hc).minLabel_mem, (components_spec hc).minLabel_le⟩
  size := fun c hc => (components_spec hc).size

/-! ### Edges in another order -/

section

variable {edges other : List IdentityEdge}

/-- Every edge of one list is an edge of the other, one way or the other way round. -/
def Within (edges other : List IdentityEdge) : Prop :=
  ∀ e ∈ edges, e ∈ other ∨ e.reversed ∈ other

theorem Within.linked (h : Within edges other) {u v : String} (huv : Linked edges u v) :
    Linked other u v := by
  unfold Linked UnionFind.Connected at huv
  induction huv with
  | rel a b hab =>
    obtain ⟨e, he, heq⟩ := List.mem_map.mp hab
    obtain ⟨rfl, rfl⟩ := Prod.mk.inj heq
    cases h e he with
    | inl hsame => exact Linked.edge hsame
    | inr hturned => exact (Linked.edge hturned).symm
  | refl a => exact Linked.refl _ _
  | symm a b _ ih => exact ih.symm
  | trans a b c _ _ ih ih' => exact ih.trans ih'

theorem Within.hasEdge (h : Within edges other) {u : String} (hu : HasEdge edges u) :
    HasEdge other u := by
  obtain ⟨e, he, hends⟩ := hu
  cases h e he with
  | inl hsame => exact ⟨e, hsame, hends⟩
  | inr hturned => exact ⟨e.reversed, hturned, hends.symm⟩

theorem Rearranged.within (h : Rearranged edges other) : Within edges other := by
  obtain ⟨turned, hturned, hperm⟩ := h
  intro e he
  obtain ⟨t, ht, heq⟩ : ∃ t ∈ turned, t = e ∨ t = e.reversed := by
    clear hperm
    induction hturned with
    | nil => cases he
    | cons hhead _ ih =>
      cases he with
      | head => exact ⟨_, List.mem_cons_self, hhead⟩
      | tail _ he =>
        obtain ⟨t, ht, heq⟩ := ih he
        exact ⟨t, List.mem_cons_of_mem _ ht, heq⟩
  have hother := hperm.mem_iff.mp ht
  cases heq with
  | inl heq => exact Or.inl (heq ▸ hother)
  | inr heq => exact Or.inr (heq ▸ hother)

theorem Rearranged.symm_within (h : Rearranged edges other) : Within other edges := by
  obtain ⟨turned, hturned, hperm⟩ := h
  intro t ht
  have ht := hperm.mem_iff.mpr ht
  clear hperm
  induction hturned with
  | nil => cases ht
  | cons hhead _ ih =>
    cases ht with
    | head =>
      cases hhead with
      | inl heq => exact Or.inl (heq ▸ List.mem_cons_self)
      | inr heq => exact Or.inr (heq ▸ List.mem_cons_self)
    | tail _ ht =>
      cases ih ht with
      | inl h => exact Or.inl (List.mem_cons_of_mem _ h)
      | inr h => exact Or.inr (List.mem_cons_of_mem _ h)

/-- A component is determined by one of its members and what that is linked to. -/
theorem IsComponent.eq_of_mem {c d : Component} (hc : IsComponent edges c)
    (hd : IsComponent other d) (hiff : ∀ u v, Linked edges u v ↔ Linked other u v) {u : String}
    (hcu : u ∈ c.members) (hdu : u ∈ d.members) : c = d := by
  have hmem : ∀ v, v ∈ c.members ↔ v ∈ d.members := by
    intro v
    rw [hc.mem_iff u hcu, hd.mem_iff u hdu, hiff]
  have hperm := (List.perm_ext_iff_of_nodup hc.nodup hd.nodup).mpr hmem
  have hmembers : c.members = d.members :=
    hperm.eq_of_pairwise (fun _ _ _ _ => unitsLe_antisymm) hc.sorted hd.sorted
  have hle := hc.minLabel_le _ ((hmem _).mpr hd.minLabel_mem)
  have hge := hd.minLabel_le _ ((hmem _).mp hc.minLabel_mem)
  have hlabel := unitsLe_antisymm hle hge
  have hsize : c.size = d.size := by rw [hc.size, hd.size, hmembers]
  cases c
  cases d
  simp_all

theorem mem_components_of_within (h : Within edges other) (h' : Within other edges) {c : Component}
    (hc : c ∈ buildComponentsFromEdges edges) : c ∈ buildComponentsFromEdges other := by
  have hspec := components_spec hc
  have hmin := hspec.minLabel_mem
  obtain ⟨d, hd, hdmin⟩ := exists_component (h.hasEdge (hspec.hasEdge _ hmin))
  have heq := hspec.eq_of_mem (components_spec hd) (fun _ _ => ⟨h.linked, h'.linked⟩) hmin hdmin
  rwa [heq]

theorem nodup_components (edges : List IdentityEdge) : (buildComponentsFromEdges edges).Nodup := by
  apply (components_disjoint edges).imp_of_mem
  intro c d hc hd hdisjoint heq
  have hmin := (components_spec hc).minLabel_mem
  exact hdisjoint _ hmin (heq ▸ hmin)

theorem perm_of_rearranged (h : Rearranged edges other) :
    (buildComponentsFromEdges edges).Perm (buildComponentsFromEdges other) := by
  apply (List.perm_ext_iff_of_nodup (nodup_components _) (nodup_components _)).mpr
  intro c
  constructor
  · exact mem_components_of_within h.within h.symm_within
  · exact mem_components_of_within h.symm_within h.within

end

/-- The build ends with the partition of the graph, the same for every order of the edges. -/
theorem components_of_graph (edges : List IdentityEdge) :
    ∃ components, Returns edges components ∧ IsPartition edges components ∧
      ∀ other, Rearranged edges other →
        ∃ others, Returns other others ∧ components.Perm others :=
  ⟨buildComponentsFromEdges edges, returns_components edges, isPartition_components edges,
    fun other h => ⟨buildComponentsFromEdges other, returns_components other, perm_of_rearranged h⟩⟩

/-- Three edges, a loop and a doubled one among them, and the same edges turned. -/
theorem components_of_turned :
    ∃ components, Returns [⟨"b", "a"⟩, ⟨"c", "c"⟩, ⟨"a", "b"⟩] components ∧
      ∃ others, Returns [⟨"c", "c"⟩, ⟨"a", "b"⟩, ⟨"a", "b"⟩] others ∧ components.Perm others := by
  obtain ⟨components, hreturns, -, hother⟩ :=
    components_of_graph [⟨"b", "a"⟩, ⟨"c", "c"⟩, ⟨"a", "b"⟩]
  refine ⟨components, hreturns, hother _ ⟨[⟨"a", "b"⟩, ⟨"c", "c"⟩, ⟨"a", "b"⟩], ?_, ?_⟩⟩
  · exact .cons (Or.inr rfl) (.cons (Or.inl rfl) (.cons (Or.inl rfl) .nil))
  · exact List.Perm.swap _ _ _

end BrainV2.Identity
