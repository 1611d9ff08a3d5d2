import BrainV2.Identity.History
import BrainV2.Identity.MergeWinner

/-!
# Older clusters win

In a history without erasures the cluster that survives a merge should be the
one that was first assigned earliest.

* `Older`: first assigned earlier, at equal times with a smaller id;
* `OldestWins`: a run of the stitcher gives each component the oldest of the
  clusters that it holds;
* `NoneOvertaken`: no entry of a component overtakes its oldest cluster;
* `Dated`: every entry was made no earlier than its cluster, whose first entry is
  still there, at a label that is not smaller;
* `oldest_wins_iff`: the oldest cluster wins in every run exactly when none is
  overtaken in any;
* `younger_cluster_wins`: a history in which a younger cluster wins.
-/

namespace BrainV2.Identity

open BrainV2.Utf16 BrainV2.Consent

/-- `a` was first assigned before `b`, or at the same time and `a` is smaller. -/
def Older (assigned : List (String × Time)) (a b : String) : Prop :=
  ∃ s t, assigned.lookup a = some s ∧ assigned.lookup b = some t ∧
    (s < t ∨ s = t ∧ unitsLe a b = true ∧ a ≠ b)

/-- The component of `u` holds the cluster: it stands in the registry under a customer that
is linked to `u`, or on the row of one. -/
def HeldAround (db : IdentityDb) (workspaceId u clusterId : String) : Prop :=
  ∃ v, Linked (readEdges db.pg workspaceId) u v ∧
    ((∃ row, db.entry workspaceId v = some row ∧ row.clusterId = clusterId) ∨
      ∃ row, db.customer workspaceId v = some row ∧ row.identityClusterId = some clusterId)

/-- The component of `u` has the cluster: it stands in the registry under the smallest
customer and on the rows of all. -/
structure HasCluster (db : IdentityDb) (workspaceId u clusterId : String) : Prop where
  entry : ∃ m, Linked (readEdges db.pg workspaceId) u m ∧
    (∀ v, Linked (readEdges db.pg workspaceId) u v → unitsLe m v = true) ∧
    ∃ row, db.entry workspaceId m = some row ∧ row.clusterId = clusterId
  rows : ∀ v, Linked (readEdges db.pg workspaceId) u v →
    ∀ row, db.customer workspaceId v = some row → row.identityClusterId = some clusterId

/-- A run of the stitcher that returns gives every component that holds clusters the oldest
of them. -/
def OldestWins (h : History) : Action → Prop
  | .stitch identityStitcher command env => ∀ result db,
    stitchClusters identityStitcher command env h.db = .ok (result, db) →
      ∀ u, HasEdge (readEdges h.db.pg command.workspaceId) u →
        (∃ clusterId, HeldAround h.db command.workspaceId u clusterId) →
          ∃ survivor, HasCluster db command.workspaceId u survivor ∧
            HeldAround h.db command.workspaceId u survivor ∧
            ∀ clusterId, HeldAround h.db command.workspaceId u clusterId →
              clusterId = survivor ∨ Older h.assigned survivor clusterId
  | _ => True

/-- No erasure, and no run of the stitcher before the last one. -/
def TimesInOrder (h : History) : Action → Prop
  | .insert _ _ => True
  | .stitch _ _ env => ∀ a ∈ h.assigned, a.2 ≤ env.now
  | .erase _ _ => False

/-- No component has an entry that overtakes its oldest cluster. -/
def NoneOvertaken (h : History) : Action → Prop
  | .stitch identityStitcher command env =>
    stitcherEnabled identityStitcher command.bypassFlagForTest = true →
      command.workspaceId ≠ "" →
      ∀ c ∈ buildComponentsFromEdges (env.rowOrder (readEdges h.db.pg command.workspaceId)),
        ∀ oldest, IsOldest (memberClusters
            (readExistingClusters h.db.registry command.workspaceId) c.members) oldest →
          NotOvertaken oldest (sortByCreatedAt (memberClusters
            (readExistingClusters h.db.registry command.workspaceId) c.members))
  | _ => True

/-- The first entry of a cluster is still there when any is. Its label is not the smaller
one, so it is overwritten only with all the others. -/
structure Dated (h : History) : Prop where
  origin : ∀ w u row, h.db.entry w u = some row → ∃ o first, h.db.entry w o = some first ∧
    first.clusterId = row.clusterId ∧ h.assigned.lookup row.clusterId = some first.createdAt ∧
    first.createdAt ≤ row.createdAt ∧ unitsLe u o = true ∧ Linked (readEdges h.db.pg w) u o
  stamped : ∀ w u row clusterId, h.db.customer w u = some row →
    row.identityClusterId = some clusterId → ∃ v entry, h.db.entry w v = some entry ∧
      entry.clusterId = clusterId ∧ Linked (readEdges h.db.pg w) u v

theorem History.Unstitched.dated {h : History} (hnew : h.Unstitched) : Dated h where
  origin := by
    intro w u row hrow
    have hmem := (IdentityDb.entry_eq_some_iff.mp hrow).1
    rw [hnew.registry] at hmem
    cases hmem
  stamped := by
    intro w u row clusterId hrow hid
    rw [hnew.customers row (IdentityDb.customer_eq_some_iff.mp hrow).1] at hid
    cases hid

section

variable {h : History} {workspaceId : String} {env : StitchEnv} {db : IdentityDb}
  {x : Component × String}

theorem mem_entries_of_component (henv : env.Answers h.assigned)
    (hx : x ∈ h.db.assignments workspaceId env) {u v : String} {row : ClusterRegistryRow}
    (hu : u ∈ x.1.members) (huv : Linked (readEdges h.db.pg workspaceId) u v)
    (hrow : h.db.entry workspaceId v = some row) :
    row.existing ∈ memberClusters (readExistingClusters h.db.registry workspaceId) x.1.members := by
  have hv := ((assignment_component henv hx).2.2 u hu v).mpr huv
  exact mem_memberClusters.mpr ⟨v, hv, row, hrow, rfl⟩

/-- The oldest entry of a component has the time at which its cluster was first assigned, and
every cluster of the component was assigned no earlier. -/
theorem Dated.oldest (hd : Dated h) (henv : env.Answers h.assigned)
    (hx : x ∈ h.db.assignments workspaceId env) {oldest : ExistingCluster}
    (ho : IsOldest (memberClusters (readExistingClusters h.db.registry workspaceId) x.1.members)
      oldest) :
    h.assigned.lookup oldest.clusterId = some oldest.createdAt ∧
      ∀ u ∈ x.1.members, ∀ row, h.db.entry workspaceId u = some row →
        ∃ s, h.assigned.lookup row.clusterId = some s ∧
          (oldest.createdAt < s ∨
            oldest.createdAt = s ∧ unitsLe oldest.clusterId row.clusterId = true) := by
  have hevery : ∀ u ∈ x.1.members, ∀ row, h.db.entry workspaceId u = some row →
      ∃ s, h.assigned.lookup row.clusterId = some s ∧ s ≤ row.createdAt ∧
        (oldest.createdAt < s ∨
          oldest.createdAt = s ∧ unitsLe oldest.clusterId row.clusterId = true) := by
    intro u hu row hrow
    obtain ⟨o, first, hfirst, hid, hlookup, hle, -, hlink⟩ := hd.origin _ u row hrow
    have hmem := mem_entries_of_component henv hx hu hlink hfirst
    refine ⟨first.createdAt, hlookup, hle, ?_⟩
    rw [← hid]
    exact ho.le _ hmem
  refine ⟨?_, fun u hu row hrow => ?_⟩
  · obtain ⟨u, hu, row, hrow, rfl⟩ := mem_memberClusters.mp ho.mem
    obtain ⟨s, hlookup, hle, hlt | ⟨heq, -⟩⟩ := hevery u hu row hrow
    · exact absurd hle (not_le.mpr hlt)
    · rw [heq]
      exact hlookup
  · obtain ⟨s, hlookup, -, hs⟩ := hevery u hu row hrow
    exact ⟨s, hlookup, hs⟩

/-- A component without entries gets a new id; any other gets its oldest cluster exactly when
no entry overtakes it. -/
theorem assignment_cases (hx : x ∈ h.db.assignments workspaceId env) :
    (memberClusters (readExistingClusters h.db.registry workspaceId) x.1.members = [] ∧
        ∃ k, x.2 = env.uuids k) ∨
      ∃ oldest, IsOldest (memberClusters (readExistingClusters h.db.registry workspaceId)
          x.1.members) oldest ∧
        (x.2 = oldest.clusterId ↔ NotOvertaken oldest (sortByCreatedAt (memberClusters
          (readExistingClusters h.db.registry workspaceId) x.1.members))) := by
  rcases (mem_assignments hx).2 with hid | ⟨hnil, k, -, hk⟩
  · right
    have hne : memberClusters (readExistingClusters h.db.registry workspaceId) x.1.members ≠ [] := by
      intro hnil
      rw [resolvedClusterId_eq_none_iff.mpr hnil] at hid
      cases hid
    obtain ⟨oldest, ho⟩ := exists_isOldest hne
    refine ⟨oldest, ho, ?_⟩
    rw [← resolvedClusterId_iff ho, hid, Option.some.injEq]
  · exact Or.inl ⟨hnil, k, hk⟩

/-! ### What a component holds and gets -/

theorem Dated.heldAround_iff (hd : Dated h) {u clusterId : String} :
    HeldAround h.db workspaceId u clusterId ↔
      ∃ v, Linked (readEdges h.db.pg workspaceId) u v ∧
        ∃ row, h.db.entry workspaceId v = some row ∧ row.clusterId = clusterId := by
  constructor
  · rintro ⟨v, hlink, hrow | ⟨row, hrow, hid⟩⟩
    · exact ⟨v, hlink, hrow⟩
    · obtain ⟨o, entry, hentry, hentryId, hvo⟩ := hd.stamped _ v row clusterId hrow hid
      exact ⟨o, hlink.trans hvo, entry, hentry, hentryId⟩
  · rintro ⟨v, hlink, hrow⟩
    exact ⟨v, hlink, Or.inl hrow⟩

theorem Stitched.readEdges (hs : Stitched workspaceId env h.db db) (w : String) :
    readEdges db.pg w = readEdges h.db.pg w := by
  unfold Identity.readEdges
  rw [hs.edges]

theorem Stitched.hasCluster_iff (hs : Stitched workspaceId env h.db db)
    (henv : env.Answers h.assigned) (hx : x ∈ h.db.assignments workspaceId env) {u : String}
    (hu : u ∈ x.1.members) {clusterId : String} :
    HasCluster db workspaceId u clusterId ↔ clusterId = x.2 := by
  have hc := components_spec (mem_assignments hx).1
  have hmem : ∀ v, Linked (Identity.readEdges db.pg workspaceId) u v ↔ v ∈ x.1.members := by
    intro v
    rw [hs.readEdges, ((assignment_component henv hx).2.2 u hu v)]
  constructor
  · rintro ⟨⟨m, hm, hmLe, row, hrow, rfl⟩, -⟩
    have hleast : m = x.1.minLabel := unitsLe_antisymm
      (hmLe _ ((hmem _).mpr hc.minLabel_mem)) (hc.minLabel_le m ((hmem m).mp hm))
    rw [hleast, hs.entries x hx, Option.some.injEq] at hrow
    rw [← hrow, writtenEntry_clusterId]
  · rintro rfl
    refine ⟨⟨x.1.minLabel, (hmem _).mpr hc.minLabel_mem,
      fun v hv => hc.minLabel_le v ((hmem v).mp hv), _, hs.entries x hx,
      writtenEntry_clusterId _ _⟩, fun v hv row hrow => ?_⟩
    rw [hs.customers x hx v ((hmem v).mp hv)] at hrow
    obtain ⟨old, -, rfl⟩ := Option.map_eq_some_iff.mp hrow
    rfl

/-- In one run the oldest clusters win exactly when none is overtaken. -/
theorem Dated.wins_in_run_iff (hd : Dated h) (henv : env.Answers h.assigned)
    (hs : Stitched workspaceId env h.db db) :
    (∀ u, HasEdge (readEdges h.db.pg workspaceId) u →
      (∃ clusterId, HeldAround h.db workspaceId u clusterId) →
        ∃ survivor, HasCluster db workspaceId u survivor ∧
          HeldAround h.db workspaceId u survivor ∧
          ∀ clusterId, HeldAround h.db workspaceId u clusterId →
            clusterId = survivor ∨ Older h.assigned survivor clusterId) ↔
      ∀ c ∈ buildComponentsFromEdges (env.rowOrder (readEdges h.db.pg workspaceId)),
        ∀ oldest, IsOldest (memberClusters (readExistingClusters h.db.registry workspaceId)
            c.members) oldest →
          NotOvertaken oldest (sortByCreatedAt (memberClusters
            (readExistingClusters h.db.registry workspaceId) c.members)) := by
  constructor
  · intro hwins c hc oldest ho
    have hmap : (h.db.assignments workspaceId env).map (·.1) =
        buildComponentsFromEdges (env.rowOrder (readEdges h.db.pg workspaceId)) :=
      map_fst_assignments 0 _
    rw [← hmap] at hc
    obtain ⟨x, hx, rfl⟩ := List.mem_map.mp hc
    obtain ⟨u, hu, row, hrow, rfl⟩ := mem_memberClusters.mp ho.mem
    obtain ⟨hfirst, hevery⟩ := hd.oldest henv hx ho
    have hheld : HeldAround h.db workspaceId u row.clusterId :=
      ⟨u, Linked.refl _ _, Or.inl ⟨row, hrow, rfl⟩⟩
    obtain ⟨survivor, hhas, hsurvivor, hall⟩ :=
      hwins u ((assignment_component henv hx).2.1 u hu) ⟨_, hheld⟩
    rw [hs.hasCluster_iff henv hx hu] at hhas
    subst hhas
    have hwinner : x.2 = row.clusterId := by
      rcases hall _ hheld with heq | ⟨s, t, hsLookup, htLookup, hst⟩
      · exact heq.symm
      · -- The oldest entry is not younger than any other.
        obtain ⟨v, huv, other, hother, hotherId⟩ := hd.heldAround_iff.mp hsurvivor
        have hv := ((assignment_component henv hx).2.2 u hu v).mpr huv
        obtain ⟨s', hs'Lookup, hs'⟩ := hevery v hv other hother
        rw [hotherId, hsLookup, Option.some.injEq] at hs'Lookup
        subst hs'Lookup
        rw [show row.existing.clusterId = row.clusterId from rfl, htLookup,
          Option.some.injEq] at hfirst
        rw [← hfirst] at hs'
        rcases hst with hlt | ⟨heq, hle, hne⟩
        · rcases hs' with hlt' | ⟨heq', -⟩
          · exact absurd (hlt.trans hlt') (lt_irrefl _)
          · exact absurd hlt (heq' ▸ lt_irrefl _)
        · rcases hs' with hlt' | ⟨-, hle'⟩
          · exact absurd hlt' (heq ▸ lt_irrefl _)
          · exact absurd (unitsLe_antisymm hle (hotherId ▸ hle')) hne
    rcases (mem_assignments hx).2 with hid | ⟨hnil, -⟩
    · rw [hwinner] at hid
      exact (resolvedClusterId_iff ho).mp hid
    · have hmem := ho.mem
      rw [hnil] at hmem
      cases hmem
  · intro hnone u hu hsome
    obtain ⟨x, hx, hux⟩ := exists_assignment henv hu
    obtain ⟨clusterId, hheld⟩ := hsome
    obtain ⟨v, huv, row, hrow, -⟩ := hd.heldAround_iff.mp hheld
    have hmem := mem_entries_of_component henv hx hux huv hrow
    rcases assignment_cases hx with ⟨hnil, -⟩ | ⟨oldest, ho, hiff⟩
    · rw [hnil] at hmem
      cases hmem
    have hwinner := hiff.mpr (hnone x.1 (mem_assignments hx).1 oldest ho)
    obtain ⟨hfirst, hevery⟩ := hd.oldest henv hx ho
    refine ⟨x.2, (hs.hasCluster_iff henv hx hux).mpr rfl, ?_, ?_⟩
    · obtain ⟨o, hox, entry, hentry, rfl⟩ := mem_memberClusters.mp ho.mem
      refine ⟨o, ((assignment_component henv hx).2.2 u hux o).mp hox, Or.inl ⟨entry, hentry, ?_⟩⟩
      exact hwinner.symm
    · intro other hother
      obtain ⟨o, huo, entry, hentry, rfl⟩ := hd.heldAround_iff.mp hother
      have hox := ((assignment_component henv hx).2.2 u hux o).mpr huo
      obtain ⟨s, hlookup, hage⟩ := hevery o hox entry hentry
      by_cases heq : entry.clusterId = x.2
      · exact Or.inl heq
      · right
        rw [← hwinner] at hfirst hage
        refine ⟨oldest.createdAt, s, hfirst, hlookup, ?_⟩
        rcases hage with hlt | ⟨htie, hle⟩
        · exact Or.inl hlt
        · exact Or.inr ⟨htie, hle, Ne.symm heq⟩

/-! ### The first entries stay -/

theorem lookup_stitched_of_some {id : String} {s : Time} (hid : h.assigned.lookup id = some s)
    (db : IdentityDb) : (h.stitched workspaceId env db).assigned.lookup id = some s := by
  rw [History.stitched, List.lookup_append, hid, Option.some_or]

theorem lookup_stitched_of_fresh (hx : x ∈ h.db.assignments workspaceId env)
    (hnew : h.assigned.lookup x.2 = none) (db : IdentityDb) :
    (h.stitched workspaceId env db).assigned.lookup x.2 = some env.now := by
  have hlookup : ∀ xs : List (Component × String), x ∈ xs →
      (xs.map fun y => (y.2, env.now)).lookup x.2 = some env.now := by
    intro xs hmem
    induction xs with
    | nil => cases hmem
    | cons y ys ih =>
      by_cases heq : x.2 = y.2
      · simp [heq]
      · have hne : (x.2 == y.2) = false := by simpa using heq
        rw [List.map_cons, List.lookup_cons, hne]
        rcases List.mem_cons.mp hmem with rfl | hmem
        · exact absurd rfl heq
        · exact ih hmem
  rw [History.stitched, List.lookup_append, hnew, Option.none_or]
  exact hlookup _ hx

/-- An entry that a run leaves alone keeps the first entry of its cluster. -/
theorem Dated.origin_kept (hd : Dated h) (henv : env.Answers h.assigned)
    (hs : Stitched workspaceId env h.db db) {w u : String} {row : ClusterRegistryRow}
    (hother : w = workspaceId → ∀ x ∈ h.db.assignments workspaceId env, u ≠ x.1.minLabel)
    (hrow : h.db.entry w u = some row) : ∃ o first, db.entry w o = some first ∧
      first.clusterId = row.clusterId ∧ h.assigned.lookup row.clusterId = some first.createdAt ∧
      first.createdAt ≤ row.createdAt ∧ unitsLe u o = true ∧
      Linked (Identity.readEdges h.db.pg w) u o := by
  obtain ⟨o, first, hfirst, hid, hlookup, hle, huo, hlink⟩ := hd.origin w u row hrow
  refine ⟨o, first, ?_, hid, hlookup, hle, huo, hlink⟩
  rw [hs.otherEntries w o]
  · exact hfirst
  · rintro rfl x hx rfl
    have hu := ((assignment_component henv hx).2.2 _ (assignment_component henv hx).1 u).mpr
      hlink.symm
    have hmin := (components_spec (mem_assignments hx).1).minLabel_le u hu
    exact hother rfl x hx (unitsLe_antisymm huo hmin)

/-- The entry that a run writes has its first entry too. -/
theorem Dated.origin_written (hd : Dated h) (henv : env.Answers h.assigned)
    (htimes : ∀ a ∈ h.assigned, a.2 ≤ env.now) (hs : Stitched workspaceId env h.db db)
    (hx : x ∈ h.db.assignments workspaceId env)
    (hwinner : ∀ oldest, IsOldest (memberClusters
      (readExistingClusters h.db.registry workspaceId) x.1.members) oldest →
        x.2 = oldest.clusterId) {row : ClusterRegistryRow}
    (hrow : db.entry workspaceId x.1.minLabel = some row) :
    ∃ o first, db.entry workspaceId o = some first ∧ first.clusterId = row.clusterId ∧
      (h.stitched workspaceId env db).assigned.lookup row.clusterId = some first.createdAt ∧
      first.createdAt ≤ row.createdAt ∧ unitsLe x.1.minLabel o = true ∧
      Linked (Identity.readEdges h.db.pg workspaceId) x.1.minLabel o := by
  have hc := components_spec (mem_assignments hx).1
  have hwritten := hs.entries x hx
  rw [hrow, Option.some.injEq] at hwritten
  have hid : row.clusterId = x.2 := by rw [hwritten, writtenEntry_clusterId]
  rcases assignment_cases hx with ⟨hnil, k, hk⟩ | ⟨oldest, ho, -⟩
  · have hnone : h.db.entry workspaceId x.1.minLabel = none := by
      cases hentry : h.db.entry workspaceId x.1.minLabel with
      | none => rfl
      | some entry =>
        have hmem := mem_entries_of_component henv hx hc.minLabel_mem (Linked.refl _ _) hentry
        rw [hnil] at hmem
        cases hmem
    have hnew : h.assigned.lookup x.2 = none := by
      rw [hk, List.lookup_eq_none_iff]
      intro a ha
      simpa using henv.fresh k a ha
    refine ⟨x.1.minLabel, row, hrow, rfl, ?_, le_refl _, unitsLe_refl _, Linked.refl _ _⟩
    rw [hid, lookup_stitched_of_fresh hx hnew, hwritten, hnone]
    rfl
  · obtain ⟨hfirst, -⟩ := hd.oldest henv hx ho
    obtain ⟨o, hox, first, hentry, rfl⟩ := mem_memberClusters.mp ho.mem
    have hxId : x.2 = first.clusterId := hwinner _ ho
    have hlookup : (h.stitched workspaceId env db).assigned.lookup first.clusterId =
        some first.createdAt := lookup_stitched_of_some hfirst db
    by_cases hmin : o = x.1.minLabel
    · -- The first entry is the one that is written again.
      subst hmin
      refine ⟨x.1.minLabel, row, hrow, rfl, ?_, le_refl _, unitsLe_refl _, Linked.refl _ _⟩
      rw [hid, hxId, hwritten, hentry]
      exact hlookup
    · have hkept : db.entry workspaceId o = some first := by
        rw [hs.otherEntries workspaceId o]
        · exact hentry
        · rintro - y hy rfl
          exact hmin (minLabel_eq henv hx hy hox (assignment_component henv hy).1
            (Linked.refl _ _)).symm
      refine ⟨o, first, hkept, hxId.symm.trans hid.symm, ?_, ?_, hc.minLabel_le o hox,
        ((assignment_component henv hx).2.2 _ hc.minLabel_mem o).mp hox⟩
      · rw [hid, hxId]
        exact hlookup
      · cases hold : h.db.entry workspaceId x.1.minLabel with
        | none =>
          obtain ⟨front, back, heq, -⟩ := List.lookup_eq_some_iff.mp hfirst
          have hmem : (first.clusterId, first.createdAt) ∈ h.assigned := by
            rw [heq]
            exact List.mem_append_right _ List.mem_cons_self
          rw [hwritten, hold]
          exact htimes _ hmem
        | some old =>
          have hage := ho.le _ (mem_entries_of_component henv hx hc.minLabel_mem
            (Linked.refl _ _) hold)
          rw [hwritten, hold]
          rcases hage with hlt | ⟨heq, -⟩
          · exact hlt.le
          · exact heq.le

theorem Dated.stitched (hd : Dated h) (henv : env.Answers h.assigned)
    (htimes : ∀ a ∈ h.assigned, a.2 ≤ env.now) (hs : Stitched workspaceId env h.db db)
    (hwinner : ∀ x ∈ h.db.assignments workspaceId env, ∀ oldest, IsOldest (memberClusters
      (readExistingClusters h.db.registry workspaceId) x.1.members) oldest →
        x.2 = oldest.clusterId) : Dated (h.stitched workspaceId env db) := by
  constructor
  · intro w u row hrow
    simp only [show (h.stitched workspaceId env db).db = db from rfl] at hrow ⊢
    rw [hs.readEdges]
    by_cases hmin : w = workspaceId ∧ ∃ x ∈ h.db.assignments workspaceId env, u = x.1.minLabel
    · obtain ⟨rfl, x, hx, rfl⟩ := hmin
      exact hd.origin_written henv htimes hs hx (hwinner x hx) hrow
    · have hother : w = workspaceId → ∀ x ∈ h.db.assignments workspaceId env,
          u ≠ x.1.minLabel := fun hw x hx hu => hmin ⟨hw, x, hx, hu⟩
      rw [hs.otherEntries w u hother] at hrow
      obtain ⟨o, first, hfirst, hid, hlookup, hrest⟩ := hd.origin_kept henv hs hother hrow
      exact ⟨o, first, hfirst, hid, lookup_stitched_of_some hlookup db, hrest⟩
  · intro w u row clusterId hrow hid
    simp only [show (h.stitched workspaceId env db).db = db from rfl] at hrow ⊢
    rw [hs.readEdges]
    rcases hs.customer_cases hrow with ⟨hold, hnot⟩ | ⟨rfl, x, hx, hu, hstamp⟩
    · obtain ⟨v, entry, hentry, hentryId, hlink⟩ := hd.stamped w u row clusterId hold hid
      refine ⟨v, entry, ?_, hentryId, hlink⟩
      rw [hs.otherEntries w v]
      · exact hentry
      · rintro rfl x hx rfl
        have hmem := (assignment_component henv hx).2.2 _ (assignment_component henv hx).1 u
        exact hnot rfl x hx (hmem.mpr hlink.symm)
    · rw [hstamp, Option.some.injEq] at hid
      refine ⟨x.1.minLabel, _, hs.entries x hx, ?_, ?_⟩
      · rw [writtenEntry_clusterId]
        exact hid
      · exact ((assignment_component henv hx).2.2 u hu _).mp (assignment_component henv hx).1

/-! ### Whole histories -/

theorem Dated.insert (hd : Dated h) (identityStitcher : Option String)
    (command : InsertEdgeCommand) : Dated (step h (.insert identityStitcher command)) := by
  have hmono : ∀ w u v, Linked (Identity.readEdges h.db.pg w) u v →
      Linked (Identity.readEdges (insertIdentityEdge identityStitcher command h.db).pg w) u v := by
    intro w u v hlink
    have hedges : Identity.readEdges (insertIdentityEdge identityStitcher command h.db).pg w = _ ∨
      _ := readEdges_insert w
    rcases hedges with hsame | ⟨-, hnew⟩
    · rwa [hsame]
    · rw [hnew]
      exact hlink.mono fun e he => List.mem_append_left _ he
  constructor
  · intro w u row hrow
    simp only [step, entry_insert] at hrow ⊢
    obtain ⟨o, first, hfirst, hid, hlookup, hle, huo, hlink⟩ := hd.origin w u row hrow
    exact ⟨o, first, hfirst, hid, hlookup, hle, huo, hmono w u o hlink⟩
  · intro w u row clusterId hrow hid
    simp only [step, entry_insert, customer_insert] at hrow ⊢
    obtain ⟨v, entry, hentry, hentryId, hlink⟩ := hd.stamped w u row clusterId hrow hid
    exact ⟨v, entry, hentry, hentryId, hmono w u v hlink⟩

/-- The oldest clusters win in the next step exactly when none is overtaken. -/
theorem Dated.oldestWins_iff (hd : Dated h) (a : Action) (henv : Answers h a) :
    OldestWins h a ↔ NoneOvertaken h a := by
  cases a with
  | insert identityStitcher command => exact Iff.rfl
  | stitch identityStitcher command env =>
    have hok : (∃ result after, stitchClusters identityStitcher command env h.db =
        .ok (result, after)) ↔ _ := stitchClusters_ok_iff
    constructor
    · intro hwins hflag hworkspace
      obtain ⟨result, db, hresult⟩ := hok.mpr ⟨hflag, hworkspace⟩
      exact (hd.wins_in_run_iff henv (stitch_spec hresult)).mp (hwins result db hresult)
    · intro hnone result db hresult
      obtain ⟨hflag, hworkspace⟩ := hok.mp ⟨result, db, hresult⟩
      exact (hd.wins_in_run_iff henv (stitch_spec hresult)).mpr (hnone hflag hworkspace)
  | erase subject now => exact Iff.rfl

theorem Dated.step (hd : Dated h) (a : Action) (henv : Answers h a) (htimes : TimesInOrder h a)
    (hnone : NoneOvertaken h a) : Dated (step h a) := by
  cases a with
  | insert identityStitcher command => exact hd.insert identityStitcher command
  | stitch identityStitcher command env =>
    cases hresult : stitchClusters identityStitcher command env h.db with
    | error e =>
      simpa only [Identity.step, hresult] using hd
    | ok result =>
      obtain ⟨hflag, hworkspace⟩ := stitchClusters_ok_iff.mp ⟨result.1, result.2, hresult⟩
      have hs := stitch_spec hresult
      simp only [Identity.step, hresult]
      apply hd.stitched henv htimes hs
      intro x hx oldest ho
      have hover := hnone hflag hworkspace x.1 (mem_assignments hx).1 oldest ho
      rcases (mem_assignments hx).2 with hid | ⟨hnil, -⟩
      · rw [(resolvedClusterId_iff ho).mpr hover, Option.some.injEq] at hid
        exact hid.symm
      · have hmem := ho.mem
        rw [hnil] at hmem
        cases hmem
  | erase subject now => exact htimes.elim

end

/-- From an empty registry, in a history without erasures whose times do not go back, the oldest
cluster wins in every run of the stitcher exactly when none is overtaken in any. -/
theorem oldest_wins_iff {h : History} (hnew : h.Unstitched) {actions : List Action}
    (henv : Runs.Allowed step Answers h actions)
    (htimes : Runs.Allowed step TimesInOrder h actions) :
    Runs.Allowed step OldestWins h actions ↔ Runs.Allowed step NoneOvertaken h actions := by
  apply Runs.allowed_iff_allowed _ _ hnew.dated (henv.and htimes)
  · intro h a hd ha
    exact hd.oldestWins_iff a ha.1
  · intro h a hd ha hnone
    exact hd.step a ha.1 ha.2 hnone

/-! ### Two histories -/

theorem timesInOrder_of {now : Time} {assigned listed : List (String × Time)}
    (hlisted : assigned = listed) (h : ∀ a ∈ listed, a.2 ≤ now) : ∀ a ∈ assigned, a.2 ≤ now := by
  rw [hlisted]
  exact h

def fiveCustomers : History :=
  unlinked [newCustomer "a", newCustomer "c", newCustomer "d", newCustomer "m", newCustomer "n"]
    (by decide)

/-- The second run writes the older cluster of `c` and `d` under `a`, and a new one under `m`. -/
def regrownActions : List Action :=
  [link "c" "d", stitchAt 1 "f0000000-0000-4000-8000-000000000000", link "a" "c", link "m" "n",
    stitchAt 2 "10000000-0000-4000-8000-000000000000", link "a" "m"]

/-- What has been assigned before each run; what is there before the last one, and which id
`a` has after it. -/
theorem regrown_states :
    ((Runs.exec step fiveCustomers (regrownActions.take 1)).assigned = [] ∧
      (Runs.exec step fiveCustomers (regrownActions.take 4)).assigned =
        [("f0000000-0000-4000-8000-000000000000", 1)] ∧
      (Runs.exec step fiveCustomers regrownActions).assigned =
        [("f0000000-0000-4000-8000-000000000000", 1), ("f0000000-0000-4000-8000-000000000000", 2),
          ("10000000-0000-4000-8000-000000000000", 2)]) ∧
    ((⟨"a", "c"⟩ : IdentityEdge) ∈
        readEdges (Runs.exec step fiveCustomers regrownActions).db.pg shop ∧
      (Runs.exec step fiveCustomers regrownActions).db.entry shop "a" =
        some ⟨shop, "a", "f0000000-0000-4000-8000-000000000000", 3, 2⟩) ∧
    (Runs.exec step fiveCustomers (regrownActions ++
      [stitchAt 3 "20000000-0000-4000-8000-000000000000"])).db.customer shop "a" =
      some { newCustomer "a" with
        identityClusterId := some "10000000-0000-4000-8000-000000000000" } := by
  decide

theorem regrown_answers : Runs.Allowed step Answers fiveCustomers
    (regrownActions ++ [stitchAt 3 "20000000-0000-4000-8000-000000000000"]) :=
  ⟨trivial, freshIds_answers_of 1 regrown_states.1.1 (by decide), trivial, trivial,
    freshIds_answers_of 2 regrown_states.1.2.1 (by decide), trivial,
    freshIds_answers_of 3 regrown_states.1.2.2 (by decide), trivial⟩

theorem regrown_times : Runs.Allowed step TimesInOrder fiveCustomers
    (regrownActions ++ [stitchAt 3 "20000000-0000-4000-8000-000000000000"]) :=
  ⟨trivial, timesInOrder_of regrown_states.1.1 (by decide), trivial, trivial,
    timesInOrder_of regrown_states.1.2.1 (by decide), trivial,
    timesInOrder_of regrown_states.1.2.2 (by decide), trivial⟩

/-- A cluster that was first assigned at time 2 wins over one of time 1: the entry of the older
one under `a` is of time 2 as well, and comes before that of the younger one. -/
theorem younger_cluster_wins : ¬ ∀ (h : History) (actions : List Action), h.Unstitched →
    Runs.Allowed step Answers h actions → Runs.Allowed step TimesInOrder h actions →
      Runs.Allowed step OldestWins h actions := by
  intro hclaim
  have hwins := hclaim fiveCustomers _ ⟨rfl, by decide⟩ regrown_answers regrown_times
  have hlast : OldestWins (Runs.exec step fiveCustomers regrownActions)
      (stitchAt 3 "20000000-0000-4000-8000-000000000000") := hwins.2.2.2.2.2.2.1
  have hok : ∃ result after, stitchClusters (some "true") ⟨shop, false⟩
      ⟨3, freshIds "20000000-0000-4000-8000-000000000000", id⟩
      (Runs.exec step fiveCustomers regrownActions).db = .ok (result, after) :=
    stitchClusters_ok_iff.mpr ⟨rfl, by decide⟩
  obtain ⟨result, db, hresult⟩ := hok
  have hdb : (step (Runs.exec step fiveCustomers regrownActions)
      (stitchAt 3 "20000000-0000-4000-8000-000000000000")).db = db := by
    simp only [step, stitchAt, hresult, History.stitched]
  obtain ⟨-, ⟨hedge, hentry⟩, hcustomer⟩ := regrown_states
  have hheld : HeldAround (Runs.exec step fiveCustomers regrownActions).db shop "a"
      "f0000000-0000-4000-8000-000000000000" :=
    ⟨"a", Linked.refl _ _, Or.inl ⟨_, hentry, rfl⟩⟩
  obtain ⟨survivor, hhas, -, hall⟩ := hlast result db hresult "a" ⟨_, hedge, Or.inl rfl⟩ ⟨_, hheld⟩
  rw [Runs.exec_append, Runs.exec_cons, Runs.exec_nil, hdb] at hcustomer
  have hsurvivor := hhas.rows "a" (Linked.refl _ _) _ hcustomer
  obtain rfl := Option.some.inj hsurvivor
  have hlookups : (Runs.exec step fiveCustomers regrownActions).assigned.lookup
        "10000000-0000-4000-8000-000000000000" = some 2 ∧
      (Runs.exec step fiveCustomers regrownActions).assigned.lookup
        "f0000000-0000-4000-8000-000000000000" = some 1 := by
    rw [regrown_states.1.2.2]
    exact ⟨rfl, rfl⟩
  rcases hall _ hheld with heq | ⟨s, t, hs, ht, hst⟩
  · exact absurd heq (by decide)
  · rw [hlookups.1, Option.some.injEq] at hs
    rw [hlookups.2, Option.some.injEq] at ht
    subst hs ht
    rcases hst with hlt | ⟨heq, -⟩
    · exact absurd hlt (by decide)
    · exact absurd heq (by decide)

def fourCustomers : History :=
  unlinked [newCustomer "a", newCustomer "b", newCustomer "c", newCustomer "d"] (by decide)

/-- Two clusters of different times that merge. -/
def mergeActions : List Action :=
  [link "c" "d", stitchAt 1 "f0000000-0000-4000-8000-000000000000", link "a" "b",
    stitchAt 2 "10000000-0000-4000-8000-000000000000", link "b" "c",
    stitchAt 3 "20000000-0000-4000-8000-000000000000"]

theorem notOvertaken_of_times {sorted : List ExistingCluster}
    (h : sorted.Pairwise fun a b => b.createdAt ≠ a.createdAt) (oldest : ExistingCluster) :
    NotOvertaken oldest sorted :=
  h.imp fun hne hover => hne hover.2.2.1

/-- No two clusters of a component are of one time. -/
def TimesApart (db : IdentityDb) : Prop :=
  ∀ c ∈ buildComponentsFromEdges (readEdges db.pg shop),
    (sortByCreatedAt (memberClusters (readExistingClusters db.registry shop)
      c.members)).Pairwise fun a b => b.createdAt ≠ a.createdAt

instance (db : IdentityDb) : Decidable (TimesApart db) :=
  inferInstanceAs (Decidable (∀ c ∈ _, _))

/-- Before each run, what has been assigned, and the times of the clusters. -/
theorem merge_assigned :
    ((Runs.exec step fourCustomers (mergeActions.take 1)).assigned = [] ∧
      (Runs.exec step fourCustomers (mergeActions.take 3)).assigned =
        [("f0000000-0000-4000-8000-000000000000", 1)] ∧
      (Runs.exec step fourCustomers (mergeActions.take 5)).assigned =
        [("f0000000-0000-4000-8000-000000000000", 1), ("f0000000-0000-4000-8000-000000000000", 2),
          ("10000000-0000-4000-8000-000000000000", 2)]) ∧
    TimesApart (Runs.exec step fourCustomers (mergeActions.take 1)).db ∧
    TimesApart (Runs.exec step fourCustomers (mergeActions.take 3)).db ∧
    TimesApart (Runs.exec step fourCustomers (mergeActions.take 5)).db := by
  decide

theorem merge_none_overtaken : Runs.Allowed step NoneOvertaken fourCustomers mergeActions := by
  obtain ⟨-, hfirst, hsecond, hthird⟩ := merge_assigned
  refine ⟨trivial, ?_, trivial, ?_, trivial, ?_, trivial⟩
  · intro _ _ c hc oldest _
    exact notOvertaken_of_times (hfirst c hc) oldest
  · intro _ _ c hc oldest _
    exact notOvertaken_of_times (hsecond c hc) oldest
  · intro _ _ c hc oldest _
    exact notOvertaken_of_times (hthird c hc) oldest

theorem merge_answers : Runs.Allowed step Answers fourCustomers mergeActions :=
  ⟨trivial, freshIds_answers_of 1 merge_assigned.1.1 (by decide), trivial,
    freshIds_answers_of 2 merge_assigned.1.2.1 (by decide), trivial,
    freshIds_answers_of 3 merge_assigned.1.2.2 (by decide), trivial⟩

theorem merge_times : Runs.Allowed step TimesInOrder fourCustomers mergeActions :=
  ⟨trivial, timesInOrder_of merge_assigned.1.1 (by decide), trivial,
    timesInOrder_of merge_assigned.1.2.1 (by decide), trivial,
    timesInOrder_of merge_assigned.1.2.2 (by decide), trivial⟩

theorem merge_oldest_wins : Runs.Allowed step OldestWins fourCustomers mergeActions :=
  (oldest_wins_iff ⟨rfl, by decide⟩ merge_answers merge_times).mpr merge_none_overtaken

end BrainV2.Identity
