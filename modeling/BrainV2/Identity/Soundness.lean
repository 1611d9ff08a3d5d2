import BrainV2.Identity.History
import Mathlib.Data.List.Pairwise

/-!
# Soundness of stitching

Right after a run of the stitcher the customers of a workspace should share a
cluster exactly when edges link them.

* `Holds`: whom a cluster id would be given to by the next run;
* `KeepsTogether`: an erasure parts no two holders of one id, and a new edge
  revives no registry entry whose id is held elsewhere;
* `Together`: the holders of one id are linked, which a run of the stitcher
  keeps (`Together.stitched`);
* `stitched_sound`: in a history of such steps every run of the stitcher is
  sound;
* `erased_link_stays_joined`: an erasure that parts two customers leaves them
  in one cluster.
-/

namespace BrainV2.Identity

open BrainV2.Utf16 BrainV2.Consent

/-- Two customers of the workspace share a cluster exactly when edges link them. -/
def StitchedSound (db : IdentityDb) (workspaceId : String) : Prop :=
  ∀ row ∈ db.pg.customerPii.rows, ∀ other ∈ db.pg.customerPii.rows,
    row.subject.workspaceId = workspaceId → other.subject.workspaceId = workspaceId →
    row.tombstonedAt = none → other.tombstonedAt = none → row.subject ≠ other.subject →
    ((∃ clusterId, row.identityClusterId = some clusterId ∧
        other.identityClusterId = some clusterId) ↔
      Linked (readEdges db.pg workspaceId) row.subject.customerRef other.subject.customerRef)

/-- A run of the stitcher that returns is sound. -/
def SoundAfter (h : History) : Action → Prop
  | .stitch identityStitcher command env => ∀ result db,
    stitchClusters identityStitcher command env h.db = .ok (result, db) →
      StitchedSound db command.workspaceId
  | _ => True

/-- The customer has an edge and the id stands in the registry under its name, or it has no
edge and the id is on its row. -/
def Holds (db : IdentityDb) (workspaceId : String) (edges : List IdentityEdge)
    (u clusterId : String) : Prop :=
  (HasEdge edges u ∧ ∃ row, db.entry workspaceId u = some row ∧ row.clusterId = clusterId) ∨
    ¬ HasEdge edges u ∧ ∃ row, db.customer workspaceId u = some row ∧ row.tombstonedAt = none ∧
      row.identityClusterId = some clusterId

/-- A new edge brings back no registry entry of an id that is held by a customer it does not
link to, and an erasure parts no two holders of an id. -/
def KeepsTogether (h : History) : Action → Prop
  | .insert identityStitcher command =>
    let before := readEdges h.db.pg command.workspaceId
    let edges := before ++ [command.edge]
    stitcherEnabled identityStitcher command.bypassFlagForTest = true →
      command.edge.nodeA ≠ command.edge.nodeB →
    ∀ u, u = command.edge.nodeA ∨ u = command.edge.nodeB → ¬ HasEdge before u →
      ∀ row, h.db.entry command.workspaceId u = some row →
        ∀ v, Holds h.db command.workspaceId edges v row.clusterId → Linked edges u v
  | .stitch _ _ _ => True
  | .erase subject _ =>
    let edges := withoutCustomer (readEdges h.db.pg subject.workspaceId) subject.customerRef
    HasLiveRow h.db.pg subject →
      ∀ u v clusterId, u ≠ subject.customerRef → v ≠ subject.customerRef →
        Holds h.db subject.workspaceId edges u clusterId →
        Holds h.db subject.workspaceId edges v clusterId → Linked edges u v

/-- The holders of one id are linked. -/
def Together (h : History) : Prop :=
  ∀ w u v clusterId, Holds h.db w (readEdges h.db.pg w) u clusterId →
    Holds h.db w (readEdges h.db.pg w) v clusterId → Linked (readEdges h.db.pg w) u v

theorem History.Unstitched.together {h : History} (hnew : h.Unstitched) : Together h := by
  intro w u v clusterId hu
  exfalso
  rcases hu with ⟨-, row, hrow, -⟩ | ⟨-, row, hrow, -, hid⟩
  · have hmem := (IdentityDb.entry_eq_some_iff.mp hrow).1
    rw [hnew.registry] at hmem
    cases hmem
  · rw [hnew.customers row (IdentityDb.customer_eq_some_iff.mp hrow).1] at hid
    cases hid

/-! ### New edges and erasures -/

section

variable {h : History}

theorem hasEdge_append_iff {edges : List IdentityEdge} {e : IdentityEdge} {u : String} :
    HasEdge (edges ++ [e]) u ↔ HasEdge edges u ∨ u = e.nodeA ∨ u = e.nodeB := by
  simp only [HasEdge, List.mem_append, List.mem_singleton, or_and_right, exists_or, exists_eq_left]

/-- A holder after a new edge held the id before, or the edge has brought its entry back. -/
theorem Holds.of_append {db : IdentityDb} {w u clusterId : String} {edges : List IdentityEdge}
    {e : IdentityEdge} (hu : Holds db w (edges ++ [e]) u clusterId) :
    Holds db w edges u clusterId ∨
      (u = e.nodeA ∨ u = e.nodeB) ∧ ¬ HasEdge edges u ∧
        ∃ row, db.entry w u = some row ∧ row.clusterId = clusterId := by
  rcases hu with ⟨hedge, hrow⟩ | ⟨hedge, hrow⟩
  · by_cases hold : HasEdge edges u
    · exact Or.inl (Or.inl ⟨hold, hrow⟩)
    · rcases hasEdge_append_iff.mp hedge with hedge | hend
      · exact absurd hedge hold
      · exact Or.inr ⟨hend, hold, hrow⟩
  · refine Or.inl (Or.inr ⟨fun hold => hedge ?_, hrow⟩)
    exact hasEdge_append_iff.mpr (Or.inl hold)

theorem holds_insert_iff {identityStitcher : Option String} {command : InsertEdgeCommand}
    {db : IdentityDb} {w u clusterId : String} {edges : List IdentityEdge} :
    Holds (insertIdentityEdge identityStitcher command db) w edges u clusterId ↔
      Holds db w edges u clusterId := by
  simp only [Holds, entry_insert, customer_insert]

theorem Together.insert (ht : Together h) (identityStitcher : Option String)
    (command : InsertEdgeCommand) (hk : KeepsTogether h (.insert identityStitcher command)) :
    Together (step h (.insert identityStitcher command)) := by
  intro w u v clusterId hu hv
  simp only [step, holds_insert_iff] at hu hv ⊢
  have hedges : readEdges (insertIdentityEdge identityStitcher command h.db).pg w = _ ∨ _ :=
    readEdges_insert w
  rcases hedges with hsame | ⟨⟨rfl, hon, hends⟩, hnew⟩
  · rw [hsame] at hu hv ⊢
    exact ht w u v clusterId hu hv
  · rw [hnew] at hu hv ⊢
    rcases hu.of_append with huOld | ⟨huEnd, huNo, row, hrow, rfl⟩
    · rcases hv.of_append with hvOld | ⟨hvEnd, hvNo, row, hrow, rfl⟩
      · exact (ht _ u v clusterId huOld hvOld).mono fun e he => List.mem_append_left _ he
      · exact (hk hon hends v hvEnd hvNo row hrow u hu).symm
    · exact hk hon hends u huEnd huNo row hrow v hv

theorem withoutCustomer_hasEdge {edges : List IdentityEdge} {u customerRef : String}
    (hu : HasEdge (withoutCustomer edges customerRef) u) : u ≠ customerRef := by
  obtain ⟨e, he, hend⟩ := hu
  have hne := (List.mem_filter.mp he).2
  simp only [ne_eq, decide_eq_true_eq] at hne
  rintro rfl
  rcases hend with hend | hend
  · exact hne.1 hend.symm
  · exact hne.2 hend.symm

/-- What a customer holds after an erasure it held before, and it is another customer. -/
theorem holds_wipe {db : IdentityDb} {subject : Subject} {w u clusterId : String} {now : Time}
    {edges : List IdentityEdge}
    (hu : Holds { db with pg := (wipePgPii db.pg subject now).2 } w edges u clusterId) :
    Holds db w edges u clusterId := by
  rcases hu with hu | ⟨hedge, row, hrow, hlive, hid⟩
  · exact Or.inl hu
  · rcases customer_wipe now w u with hsame | ⟨-, hwiped⟩
    · exact Or.inr ⟨hedge, row, hsame ▸ hrow, hlive, hid⟩
    · obtain ⟨old, -, rfl⟩ := Option.map_eq_some_iff.mp (hwiped ▸ hrow)
      cases hid

theorem holds_wipe_ne {db : IdentityDb} {subject : Subject} {u clusterId : String} {now : Time}
    {edges : List IdentityEdge} (hlive : HasLiveRow db.pg subject)
    (hu : Holds { db with pg := (wipePgPii db.pg subject now).2 } subject.workspaceId
      (withoutCustomer edges subject.customerRef) u clusterId) : u ≠ subject.customerRef := by
  rcases hu with ⟨hedge, -⟩ | ⟨-, row, hrow, -, hid⟩
  · exact withoutCustomer_hasEdge hedge
  · rintro rfl
    have hmem := (IdentityDb.customer_eq_some_iff.mp hrow).1
    have hsubject := (IdentityDb.customer_eq_some_iff.mp hrow).2
    have hblank := (wipePgPii_live hlive now).2 row hmem hsubject
    rw [hblank.2.2.2.2.2.2] at hid
    cases hid

theorem Together.erase (ht : Together h) (subject : Subject) (now : Time)
    (hk : KeepsTogether h (.erase subject now)) : Together (step h (.erase subject now)) := by
  intro w u v clusterId hu hv
  simp only [step] at hu hv ⊢
  by_cases hlive : HasLiveRow h.db.pg subject
  · by_cases hw : w = subject.workspaceId
    · subst hw
      rw [readEdges_wipe hlive] at hu hv ⊢
      exact hk hlive u v clusterId (holds_wipe_ne hlive hu) (holds_wipe_ne hlive hv)
        (holds_wipe hu) (holds_wipe hv)
    · rw [readEdges_wipe_other hw] at hu hv ⊢
      exact ht w u v clusterId (holds_wipe hu) (holds_wipe hv)
  · simp only [wipePgPii_dead hlive] at hu hv ⊢
    exact ht w u v clusterId hu hv

/-! ### Runs of the stitcher -/

variable {workspaceId : String} {env : StitchEnv} {db : IdentityDb}

/-- An id that a component takes from the registry is held by one of its members. -/
theorem held_of_resolved {x : Component × String} (henv : env.Answers h.assigned)
    (hx : x ∈ h.db.assignments workspaceId env)
    (hid : resolvedClusterId (memberClusters (readExistingClusters h.db.registry workspaceId)
      x.1.members) = some x.2) :
    ∃ m ∈ x.1.members, Holds h.db workspaceId (readEdges h.db.pg workspaceId) m x.2 := by
  obtain ⟨cluster, hcluster, hclusterId⟩ := resolvedClusterId_mem hid
  obtain ⟨m, hm, row, hrow, rfl⟩ := mem_memberClusters.mp hcluster
  refine ⟨m, hm, Or.inl ⟨(assignment_component henv hx).2.1 m hm, row, hrow, hclusterId⟩⟩

/-- A new id is held by nobody. -/
theorem Logged.not_holds_fresh (hl : Logged h) (henv : env.Answers h.assigned) {u : String}
    {edges : List IdentityEdge} {k : Nat} : ¬ Holds h.db workspaceId edges u (env.uuids k) := by
  have hnot : env.uuids k ∉ h.assigned.map (·.1) := by
    intro hmem
    obtain ⟨a, ha, heq⟩ := List.mem_map.mp hmem
    exact henv.fresh k a ha heq.symm
  rintro (⟨-, row, hrow, hid⟩ | ⟨-, row, hrow, -, hid⟩)
  · exact hnot (hid ▸ hl.entries _ _ row hrow)
  · exact hnot (hl.customers _ _ row _ hrow hid)

/-- The customer has the id after the run: it held it, or the run gives it to its component. -/
def Has (h : History) (workspaceId : String) (env : StitchEnv) (u clusterId : String) : Prop :=
  Holds h.db workspaceId (readEdges h.db.pg workspaceId) u clusterId ∨
    ∃ x ∈ h.db.assignments workspaceId env, u ∈ x.1.members ∧ clusterId = x.2

/-- Who shares an id with a component is linked to its members. -/
theorem Together.linked_assignment (ht : Together h) (hl : Logged h)
    (henv : env.Answers h.assigned) {x : Component × String}
    (hx : x ∈ h.db.assignments workspaceId env) {u v : String} (hu : u ∈ x.1.members)
    (hv : Holds h.db workspaceId (readEdges h.db.pg workspaceId) v x.2) :
    Linked (readEdges h.db.pg workspaceId) u v := by
  rcases (mem_assignments hx).2 with hid | ⟨-, k, -, hk⟩
  · obtain ⟨m, hm, hheld⟩ := held_of_resolved henv hx hid
    have hum := ((assignment_component henv hx).2.2 u hu m).mp hm
    exact hum.trans (ht _ _ _ _ hheld hv)
  · rw [hk] at hv
    exact absurd hv (hl.not_holds_fresh henv)

theorem Together.linked_assignments (ht : Together h) (hl : Logged h)
    (henv : env.Answers h.assigned) {x y : Component × String}
    (hx : x ∈ h.db.assignments workspaceId env) (hy : y ∈ h.db.assignments workspaceId env)
    (hxy : x.2 = y.2) {u v : String} (hu : u ∈ x.1.members) (hv : v ∈ y.1.members) :
    Linked (readEdges h.db.pg workspaceId) u v := by
  by_cases heq : x = y
  · subst heq
    exact ((assignment_component henv hx).2.2 u hu v).mp hv
  have hfresh : ∀ members clusterId k, resolvedClusterId (memberClusters
      (readExistingClusters h.db.registry workspaceId) members) = some clusterId →
        clusterId ≠ env.uuids k := by
    rintro members clusterId k hid rfl
    obtain ⟨cluster, hcluster, hclusterId⟩ := resolvedClusterId_mem hid
    obtain ⟨m, -, row, hrow, rfl⟩ := mem_memberClusters.mp hcluster
    have hmem := hl.entries _ _ row hrow
    obtain ⟨a, ha, haId⟩ := List.mem_map.mp hmem
    exact henv.fresh k a ha (hclusterId.symm.trans haId.symm)
  have hsymm : Std.Symm fun x y : Component × String => x.2 = y.2 →
      resolvedClusterId (memberClusters (readExistingClusters h.db.registry workspaceId)
        x.1.members) = some x.2 ∧
      resolvedClusterId (memberClusters (readExistingClusters h.db.registry workspaceId)
        y.1.members) = some y.2 := ⟨fun _ _ hab hba => (hab hba.symm).symm⟩
  have hboth := (assignments_pairwise henv.distinct hfresh 0 _).forall hx hy heq hxy
  obtain ⟨m, hm, hmHeld⟩ := held_of_resolved henv hy hboth.2
  rw [← hxy] at hmHeld
  have hmv := ((assignment_component henv hy).2.2 m hm v).mp hv
  exact (ht.linked_assignment hl henv hx hu hmHeld).trans hmv

theorem Together.linked_of_has (ht : Together h) (hl : Logged h) (henv : env.Answers h.assigned)
    {u v clusterId : String} (hu : Has h workspaceId env u clusterId)
    (hv : Has h workspaceId env v clusterId) : Linked (readEdges h.db.pg workspaceId) u v := by
  rcases hu with hu | ⟨x, hx, hu, rfl⟩
  · rcases hv with hv | ⟨y, hy, hv, rfl⟩
    · exact ht _ u v _ hu hv
    · exact (ht.linked_assignment hl henv hy hv hu).symm
  · rcases hv with hv | ⟨y, hy, hv, hxy⟩
    · exact ht.linked_assignment hl henv hx hu hv
    · exact ht.linked_assignments hl henv hx hy hxy hu hv

theorem Together.stitched (ht : Together h) (hl : Logged h) (henv : env.Answers h.assigned)
    (hs : Stitched workspaceId env h.db db) : Together (h.stitched workspaceId env db) := by
  intro w u v clusterId hu hv
  simp only [History.stitched] at hu hv ⊢
  have hedges : readEdges db.pg w = readEdges h.db.pg w := by
    unfold readEdges
    rw [hs.edges]
  rw [hedges] at hu hv ⊢
  have hhas : ∀ u, Holds db w (readEdges h.db.pg w) u clusterId →
      Holds h.db w (readEdges h.db.pg w) u clusterId ∨
        w = workspaceId ∧ Has h workspaceId env u clusterId := by
    rintro u (⟨hedge, row, hrow, rfl⟩ | ⟨hedge, row, hrow, hlive, hid⟩)
    · rcases hs.entry_cases hrow with hold | ⟨hw, x, hx, rfl, hxId⟩
      · exact Or.inl (Or.inl ⟨hedge, row, hold, rfl⟩)
      · exact Or.inr ⟨hw, Or.inr ⟨x, hx, (assignment_component henv hx).1, hxId⟩⟩
    · rcases hs.customer_cases hrow with ⟨hold, -⟩ | ⟨rfl, x, hx, hux, hxId⟩
      · exact Or.inl (Or.inr ⟨hedge, row, hold, hlive, hid⟩)
      · exact absurd ((assignment_component henv hx).2.1 u hux) hedge
  rcases hhas u hu with hu | ⟨rfl, hu⟩
  · rcases hhas v hv with hv | ⟨rfl, hv⟩
    · exact ht w u v clusterId hu hv
    · exact ht.linked_of_has hl henv (Or.inl hu) hv
  · rcases hhas v hv with hv | ⟨-, hv⟩
    · exact ht.linked_of_has hl henv hu (Or.inl hv)
    · exact ht.linked_of_has hl henv hu hv

theorem Together.sound (ht : Together h) (hl : Logged h) (henv : env.Answers h.assigned)
    (hs : Stitched workspaceId env h.db db) : StitchedSound db workspaceId := by
  intro row hrowMem other hotherMem hrowWs hotherWs hrowLive hotherLive hne
  obtain ⟨⟨w, u⟩, hu⟩ : ∃ s, row.subject = s := ⟨_, rfl⟩
  obtain ⟨⟨w', v⟩, hv⟩ : ∃ s, other.subject = s := ⟨_, rfl⟩
  have hw : w = workspaceId := by rw [← hrowWs, hu]
  have hw' : w' = workspaceId := by rw [← hotherWs, hv]
  subst hw hw'
  have hedges : readEdges db.pg w' = readEdges h.db.pg w' := by
    unfold readEdges
    rw [hs.edges]
  have hhas : ∀ (row : CustomerPii) (u clusterId : String), row ∈ db.pg.customerPii.rows →
      row.subject = ⟨w', u⟩ → row.tombstonedAt = none → row.identityClusterId = some clusterId →
        Has h w' env u clusterId := by
    intro row u clusterId hmem hsubject hlive hid
    rcases hs.customer_cases (IdentityDb.customer_eq_some_iff.mpr ⟨hmem, hsubject⟩) with
      ⟨hold, hnot⟩ | ⟨-, x, hx, hux, hxId⟩
    · refine Or.inl (Or.inr ⟨fun hedge => ?_, row, hold, hlive, hid⟩)
      obtain ⟨x, hx, hux⟩ := exists_assignment henv hedge
      exact hnot rfl x hx hux
    · rw [hxId, Option.some.injEq] at hid
      exact Or.inr ⟨x, hx, hux, hid.symm⟩
  have hstamp : ∀ (row : CustomerPii) (u : String), row ∈ db.pg.customerPii.rows →
      row.subject = ⟨w', u⟩ → ∀ x ∈ h.db.assignments w' env, u ∈ x.1.members →
        row.identityClusterId = some x.2 := by
    intro row u hmem hsubject x hx hux
    have hrow := IdentityDb.customer_eq_some_iff.mpr ⟨hmem, hsubject⟩
    rw [hs.customers x hx u hux] at hrow
    obtain ⟨old, -, rfl⟩ := Option.map_eq_some_iff.mp hrow
    rfl
  rw [hedges, hu, hv]
  constructor
  · rintro ⟨clusterId, hid, hotherId⟩
    exact ht.linked_of_has hl henv (hhas row u clusterId hrowMem hu hrowLive hid)
      (hhas other v clusterId hotherMem hv hotherLive hotherId)
  · intro hlink
    rcases hlink.hasEdge with heq | ⟨hedge, -⟩
    · apply absurd _ hne
      rw [hu, hv, show u = v from heq]
    · obtain ⟨x, hx, hux⟩ := exists_assignment henv hedge
      have hvx := ((assignment_component henv hx).2.2 u hux v).mpr hlink
      exact ⟨x.2, hstamp row u hrowMem hu x hx hux, hstamp other v hotherMem hv x hx hvx⟩

theorem Together.step (ht : Together h) (hl : Logged h) (a : Action) (henv : Answers h a)
    (hk : KeepsTogether h a) : Together (step h a) := by
  cases a with
  | insert identityStitcher command => exact ht.insert identityStitcher command hk
  | stitch identityStitcher command env =>
    rcases step_stitch h identityStitcher command env with hstep | ⟨db, hstep, hs⟩
    · rwa [hstep]
    · rw [hstep]
      exact ht.stitched hl henv hs
  | erase subject now => exact ht.erase subject now hk

theorem Together.soundAfter (ht : Together h) (hl : Logged h) (a : Action) (henv : Answers h a) :
    SoundAfter h a := by
  cases a with
  | insert identityStitcher command => trivial
  | stitch identityStitcher command env =>
    intro result db hresult
    exact ht.sound hl henv (stitch_spec hresult)
  | erase subject now => trivial

end

/-! ### Two histories -/

def chain : History :=
  unlinked [newCustomer "a", newCustomer "b", newCustomer "c"] (by decide)

/-- `b` links `a` and `c`, and is erased after the first run. -/
def chainActions : List Action :=
  [link "a" "b", link "b" "c", stitchAt 1 "10000000-0000-4000-8000-000000000000",
    .erase ⟨shop, "b"⟩ 2]

/-- From an empty registry, in a history whose erasures part no holders of an id and whose new
edges revive no entry of an id held elsewhere, every run of the stitcher is sound. -/
theorem stitched_sound {h : History} (hnew : h.Unstitched) {actions : List Action}
    (henv : Runs.Allowed step Answers h actions)
    (hk : Runs.Allowed step KeepsTogether h actions) :
    Runs.Allowed step SoundAfter h actions := by
  have hinv : Logged h ∧ Together h := ⟨hnew.logged, hnew.together⟩
  clear hnew
  induction actions generalizing h with
  | nil => trivial
  | cons a actions ih =>
    refine ⟨hinv.2.soundAfter hinv.1 a henv.1, ih henv.2 hk.2 ?_⟩
    exact ⟨hinv.1.step a, hinv.2.step hinv.1 a henv.1 hk.1⟩

theorem chain_unstitched : chain.Unstitched where
  registry := rfl
  customers := by decide

/-- What has been assigned before each run; before the last one the rows are parted, and keep
the id. -/
theorem chain_states :
    ((Runs.exec step chain (chainActions.take 2)).assigned = [] ∧
      (Runs.exec step chain chainActions).assigned =
        [("10000000-0000-4000-8000-000000000000", 1)]) ∧
    (Runs.exec step chain chainActions).db.pg.customerPii.rows =
      [{ newCustomer "a" with identityClusterId := some "10000000-0000-4000-8000-000000000000" },
        { newCustomer "b" with tombstonedAt := some 2 },
        { newCustomer "c" with
          identityClusterId := some "10000000-0000-4000-8000-000000000000" }] ∧
    readEdges (Runs.exec step chain chainActions).db.pg shop = [] := by
  decide

theorem chain_answers : Runs.Allowed step Answers chain
    (chainActions ++ [stitchAt 3 "20000000-0000-4000-8000-000000000000"]) :=
  ⟨trivial, trivial, freshIds_answers_of 1 chain_states.1.1 (by decide), trivial,
    freshIds_answers_of 3 chain_states.1.2 (by decide), trivial⟩

/-- An erasure that takes away the only link between two customers leaves them in one cluster. -/
theorem erased_link_stays_joined : ¬ ∀ (h : History) (actions : List Action), h.Unstitched →
    Runs.Allowed step Answers h actions → Runs.Allowed step SoundAfter h actions := by
  intro hclaim
  obtain ⟨-, hrows, hedges⟩ := chain_states
  have hsound := hclaim chain _ chain_unstitched chain_answers
  have hlast : SoundAfter (Runs.exec step chain chainActions)
      (stitchAt 3 "20000000-0000-4000-8000-000000000000") := hsound.2.2.2.2.1
  have hshop : StitchedSound (Runs.exec step chain chainActions).db shop :=
    hlast _ _ (stitchClusters_no_edges rfl (by decide) hedges)
  unfold StitchedSound at hshop
  rw [hrows, hedges] at hshop
  have hac := hshop _ List.mem_cons_self _
    (List.mem_cons_of_mem _ (List.mem_cons_of_mem _ List.mem_cons_self)) rfl rfl rfl rfl
    (by decide)
  have hlink : Linked [] "a" "c" := hac.mp ⟨_, rfl, rfl⟩
  rcases hlink.hasEdge with heq | ⟨⟨e, he, -⟩, -⟩
  · exact absurd heq (by decide)
  · cases he

def pair : History := unlinked [newCustomer "a", newCustomer "b"] (by decide)

def pairActions : List Action :=
  [link "a" "b", stitchAt 1 "10000000-0000-4000-8000-000000000000", .erase ⟨shop, "b"⟩ 2,
    stitchAt 3 "20000000-0000-4000-8000-000000000000"]

/-- What has been assigned before each run; before the erasure no other edge is there, and only
`a` and `b` have rows. -/
theorem pair_states :
    ((Runs.exec step pair (pairActions.take 1)).assigned = [] ∧
      (Runs.exec step pair (pairActions.take 3)).assigned =
        [("10000000-0000-4000-8000-000000000000", 1)]) ∧
    withoutCustomer (readEdges (Runs.exec step pair (pairActions.take 2)).db.pg shop) "b" = [] ∧
    (Runs.exec step pair (pairActions.take 2)).db.pg.customerPii.rows.map (·.subject) =
      [⟨shop, "a"⟩, ⟨shop, "b"⟩] := by
  decide

theorem pair_keeps_together : Runs.Allowed step KeepsTogether pair pairActions := by
  refine ⟨?_, trivial, ?_, trivial, trivial⟩
  · intro _ _ u _ _ row hrow
    have hmem := (IdentityDb.entry_eq_some_iff.mp hrow).1
    cases hmem
  · intro _ u v clusterId hu hv hholds hholds'
    obtain ⟨-, hedges, hsubjects⟩ := pair_states
    have honly : ∀ x, x ≠ "b" → Holds (Runs.exec step pair (pairActions.take 2)).db shop
        (withoutCustomer (readEdges (Runs.exec step pair (pairActions.take 2)).db.pg shop) "b")
        x clusterId → x = "a" := by
      intro x hx hxHolds
      rw [hedges] at hxHolds
      rcases hxHolds with ⟨⟨e, he, -⟩, -⟩ | ⟨-, row, hrow, -, -⟩
      · cases he
      · obtain ⟨hmem, hsubject⟩ := IdentityDb.customer_eq_some_iff.mp hrow
        have hlisted := List.mem_map_of_mem (f := (·.subject)) hmem
        rw [hsubjects, hsubject] at hlisted
        simpa [hx] using hlisted
    obtain rfl : u = "a" := honly u hu hholds
    obtain rfl : v = "a" := honly v hv hholds'
    exact Linked.refl _ _

theorem pair_sound : Runs.Allowed step SoundAfter pair pairActions :=
  stitched_sound ⟨rfl, by decide⟩
    ⟨trivial, freshIds_answers_of 1 pair_states.1.1 (by decide), trivial,
      freshIds_answers_of 3 pair_states.1.2 (by decide), trivial⟩
    pair_keeps_together

end BrainV2.Identity
