import BrainV2.Identity.Stitch
import BrainV2.Consent.CountZero

/-!
# Histories of the identity graph

* `Action`, `step`: new edges, runs of the stitcher and erasures, in any order;
* `Answers`: what is assumed of the answers of the outside;
* `entry_insert`, `customer_wipe`, `readEdges_wipe` and the like: what an
  action leaves alone;
* `Logged`: every id in the tables has been given out.
-/

namespace BrainV2.Identity

open BrainV2.Utf16 BrainV2.Consent

/-- A committed call. A call that is rolled back is none. -/
inductive Action where
  | insert (identityStitcher : Option String) (command : InsertEdgeCommand)
  | stitch (identityStitcher : Option String) (command : StitchClustersCommand) (env : StitchEnv)
  | erase (subject : Subject) (now : Time)

/-- The tables, and the ids that were given to components, with the times of the runs. -/
structure History where
  db : IdentityDb
  assigned : List (String × Time)

def History.stitched (h : History) (workspaceId : String) (env : StitchEnv) (db : IdentityDb) :
    History :=
  ⟨db, h.assigned ++ (h.db.assignments workspaceId env).map fun x => (x.2, env.now)⟩

def step (h : History) : Action → History
  | .insert identityStitcher command =>
    { h with db := insertIdentityEdge identityStitcher command h.db }
  | .stitch identityStitcher command env =>
    match stitchClusters identityStitcher command env h.db with
    | .error _ => h
    | .ok (_, db) => h.stitched command.workspaceId env db
  | .erase subject now =>
    { h with db := { h.db with pg := (wipePgPii h.db.pg subject now).2 } }

/-- The database returns the edges in some order, and `randomUUID` no id twice. -/
structure StitchEnv.Answers (env : StitchEnv) (assigned : List (String × Time)) : Prop where
  rowOrder : ∀ edges, (env.rowOrder edges).Perm edges
  distinct : Function.Injective env.uuids
  fresh : ∀ n, ∀ a ∈ assigned, env.uuids n ≠ a.1

def Answers (h : History) : Action → Prop
  | .stitch _ _ env => env.Answers h.assigned
  | _ => True

/-- Nothing has been stitched yet. -/
structure History.Unstitched (h : History) : Prop where
  registry : h.db.registry.rows = []
  customers : ∀ row ∈ h.db.pg.customerPii.rows, row.identityClusterId = none

/-- A run of the stitcher that returns has written its assignments. -/
theorem step_stitch (h : History) (identityStitcher : Option String)
    (command : StitchClustersCommand) (env : StitchEnv) :
    step h (.stitch identityStitcher command env) = h ∨
      ∃ db, step h (.stitch identityStitcher command env) = h.stitched command.workspaceId env db ∧
        Stitched command.workspaceId env h.db db := by
  cases hresult : stitchClusters identityStitcher command env h.db with
  | error e =>
    left
    simp only [step, hresult]
  | ok result =>
    right
    refine ⟨result.2, ?_, stitch_spec hresult⟩
    simp only [step, hresult]

/-! ### What the actions leave alone -/

section

variable {db : IdentityDb} {identityStitcher : Option String} {command : InsertEdgeCommand}

/-- An edge is new, or the call changes nothing. -/
theorem insert_cases (identityStitcher : Option String) (command : InsertEdgeCommand)
    (db : IdentityDb) :
    insertIdentityEdge identityStitcher command db = db ∨
      (stitcherEnabled identityStitcher command.bypassFlagForTest = true ∧
          command.edge.nodeA ≠ command.edge.nodeB) ∧
        insertIdentityEdge identityStitcher command db = { db with pg := { db.pg with
          edges := db.pg.edges ++
            [⟨command.workspaceId, command.edge.nodeA, command.edge.nodeB⟩] } } := by
  unfold insertIdentityEdge
  by_cases hflag : (!stitcherEnabled identityStitcher command.bypassFlagForTest) = true
  · rw [if_pos hflag]
    exact Or.inl rfl
  rw [if_neg hflag]
  by_cases hself : command.edge.nodeA = command.edge.nodeB
  · simp only [if_pos hself, true_or]
  simp only [if_neg hself]
  by_cases hold : (⟨command.workspaceId, command.edge.nodeA, command.edge.nodeB⟩ :
      IdentityClusterEdge) ∈ db.pg.edges
  · rw [if_pos hold]
    exact Or.inl rfl
  · rw [if_neg hold]
    exact Or.inr ⟨⟨by simpa using hflag, hself⟩, rfl⟩

theorem entry_insert (w u : String) :
    (insertIdentityEdge identityStitcher command db).entry w u = db.entry w u := by
  rcases insert_cases identityStitcher command db with h | ⟨-, h⟩
  · rw [h]
  · rw [h]
    rfl

theorem customer_insert (w u : String) :
    (insertIdentityEdge identityStitcher command db).customer w u = db.customer w u := by
  rcases insert_cases identityStitcher command db with h | ⟨-, h⟩
  · rw [h]
  · rw [h]
    rfl

theorem readEdges_append (pg : Pg) (edge : IdentityClusterEdge) (w : String) :
    readEdges { pg with edges := pg.edges ++ [edge] } w =
      readEdges pg w ++ if edge.workspaceId = w then [⟨edge.nodeA, edge.nodeB⟩] else [] := by
  unfold readEdges
  rw [List.filter_append, List.map_append]
  by_cases h : edge.workspaceId = w
  · simp [h]
  · simp [h]

/-- The edges of a workspace stay, or the new edge comes after them. -/
theorem readEdges_insert (w : String) :
    readEdges (insertIdentityEdge identityStitcher command db).pg w = readEdges db.pg w ∨
      (command.workspaceId = w ∧
          stitcherEnabled identityStitcher command.bypassFlagForTest = true ∧
          command.edge.nodeA ≠ command.edge.nodeB) ∧
        readEdges (insertIdentityEdge identityStitcher command db).pg w =
          readEdges db.pg w ++ [command.edge] := by
  rcases insert_cases identityStitcher command db with h | ⟨hon, h⟩
  · rw [h]
    exact Or.inl rfl
  · rw [h, readEdges_append]
    by_cases hw : command.workspaceId = w
    · rw [if_pos hw]
      exact Or.inr ⟨⟨hw, hon⟩, rfl⟩
    · rw [if_neg hw, List.append_nil]
      exact Or.inl rfl

/-- The edges that do not end in a customer. -/
def withoutCustomer (edges : List IdentityEdge) (customerRef : String) : List IdentityEdge :=
  edges.filter fun edge => edge.nodeA ≠ customerRef ∧ edge.nodeB ≠ customerRef

variable {subject : Subject}

theorem wipe_live (h : HasLiveRow db.pg subject) (now : Time) :
    (wipePgPii db.pg subject now).2 =
      { db.pg with
        customerPii := db.pg.customerPii.wipe subject now
        edges := db.pg.edges.filter fun edge => !edge.mentions subject } := by
  obtain ⟨live, hlive, hsubject, htombstone⟩ := h
  have hfind := (Dict.find_key_eq_some_iff db.pg.customerPii.uniqueSubjects).mpr ⟨hlive, hsubject⟩
  unfold wipePgPii
  rw [hfind]
  simp [htombstone]

theorem readEdges_wipe (h : HasLiveRow db.pg subject) (now : Time) :
    readEdges (wipePgPii db.pg subject now).2 subject.workspaceId =
      withoutCustomer (readEdges db.pg subject.workspaceId) subject.customerRef := by
  rw [wipe_live h]
  unfold readEdges withoutCustomer
  rw [List.filter_map, List.filter_filter, List.filter_filter]
  congr 1
  apply List.filter_congr
  intro edge _
  rw [Bool.eq_iff_iff]
  by_cases hw : edge.workspaceId = subject.workspaceId
  · simp [IdentityClusterEdge.mentions, hw]
  · simp [hw]

theorem readEdges_wipe_other {w : String} (hw : w ≠ subject.workspaceId) (now : Time) :
    readEdges (wipePgPii db.pg subject now).2 w = readEdges db.pg w := by
  by_cases h : HasLiveRow db.pg subject
  · rw [wipe_live h]
    unfold readEdges
    rw [List.filter_filter]
    congr 1
    apply List.filter_congr
    intro edge _
    by_cases he : edge.workspaceId = w
    · have hne : edge.workspaceId ≠ subject.workspaceId := fun e => hw (he.symm.trans e)
      simp [IdentityClusterEdge.mentions, hne]
    · simp [he]
  · rw [wipePgPii_dead h]

/-- The row of the subject is wiped, all others stay. -/
theorem customer_wipe (now : Time) (w u : String) :
    IdentityDb.customer { db with pg := (wipePgPii db.pg subject now).2 } w u = db.customer w u ∨
      subject = ⟨w, u⟩ ∧
        IdentityDb.customer { db with pg := (wipePgPii db.pg subject now).2 } w u =
          (db.customer w u).map fun row => row.wipe now := by
  by_cases h : HasLiveRow db.pg subject
  · have hmap : IdentityDb.customer { db with pg := (wipePgPii db.pg subject now).2 } w u =
        (db.customer w u).map fun row => if row.subject = subject then row.wipe now else row := by
      rw [wipe_live h]
      apply Dict.find_key_map
      intro row
      split <;> rfl
    rw [hmap]
    by_cases hs : subject = ⟨w, u⟩
    · right
      refine ⟨hs, Option.map_congr fun row hrow => ?_⟩
      rw [if_pos ((IdentityDb.customer_eq_some_iff.mp hrow).2.trans hs.symm)]
    · left
      cases hrow : db.customer w u with
      | none => rfl
      | some row =>
        have hne : row.subject ≠ subject := by
          rw [(IdentityDb.customer_eq_some_iff.mp hrow).2]
          exact fun e => hs e.symm
        rw [Option.map_some, if_neg hne]
  · rw [wipePgPii_dead h]
    exact Or.inl rfl

end

/-! ### The ids that were given out -/

/-- Every id in the registry and on a customer has been given to a component. -/
structure Logged (h : History) : Prop where
  entries : ∀ w u row, h.db.entry w u = some row → row.clusterId ∈ h.assigned.map (·.1)
  customers : ∀ w u row clusterId, h.db.customer w u = some row →
    row.identityClusterId = some clusterId → clusterId ∈ h.assigned.map (·.1)

theorem History.Unstitched.logged {h : History} (hnew : h.Unstitched) : Logged h where
  entries := by
    intro w u row hrow
    have hmem := (IdentityDb.entry_eq_some_iff.mp hrow).1
    rw [hnew.registry] at hmem
    cases hmem
  customers := by
    intro w u row clusterId hrow hid
    rw [hnew.customers row (IdentityDb.customer_eq_some_iff.mp hrow).1] at hid
    cases hid

section

variable {h : History} {workspaceId : String} {env : StitchEnv} {db : IdentityDb}

/-- The entry of a label after a run: it was there, or it has the id of a component with
this smallest member. -/
theorem Stitched.entry_cases (hs : Stitched workspaceId env h.db db) {w u : String}
    {row : ClusterRegistryRow} (hrow : db.entry w u = some row) :
    h.db.entry w u = some row ∨ w = workspaceId ∧ ∃ x ∈ h.db.assignments workspaceId env,
      u = x.1.minLabel ∧ row.clusterId = x.2 := by
  by_cases hmin : w = workspaceId ∧ ∃ x ∈ h.db.assignments workspaceId env, u = x.1.minLabel
  · obtain ⟨rfl, x, hx, rfl⟩ := hmin
    rw [hs.entries x hx, Option.some.injEq] at hrow
    refine Or.inr ⟨rfl, x, hx, rfl, ?_⟩
    rw [← hrow, writtenEntry_clusterId]
  · left
    rw [← hs.otherEntries w u]
    · exact hrow
    · intro hw x hx hu
      exact hmin ⟨hw, x, hx, hu⟩

/-- The row of a customer after a run: as it was, or with the id of its component. -/
theorem Stitched.customer_cases (hs : Stitched workspaceId env h.db db) {w u : String}
    {row : CustomerPii} (hrow : db.customer w u = some row) :
    (h.db.customer w u = some row ∧
        (w = workspaceId → ∀ x ∈ h.db.assignments workspaceId env, u ∉ x.1.members)) ∨
      w = workspaceId ∧ ∃ x ∈ h.db.assignments workspaceId env, u ∈ x.1.members ∧
        row.identityClusterId = some x.2 := by
  by_cases hmem : w = workspaceId ∧ ∃ x ∈ h.db.assignments workspaceId env, u ∈ x.1.members
  · obtain ⟨rfl, x, hx, hu⟩ := hmem
    rw [hs.customers x hx u hu] at hrow
    obtain ⟨old, -, rfl⟩ := Option.map_eq_some_iff.mp hrow
    exact Or.inr ⟨rfl, x, hx, hu, rfl⟩
  · left
    have hnot : w = workspaceId → ∀ x ∈ h.db.assignments workspaceId env, u ∉ x.1.members := by
      intro hw x hx hu
      exact hmem ⟨hw, x, hx, hu⟩
    rw [hs.otherCustomers w u hnot] at hrow
    exact ⟨hrow, hnot⟩

theorem Logged.stitched (hl : Logged h) (hs : Stitched workspaceId env h.db db) :
    Logged (h.stitched workspaceId env db) := by
  have hnew : ∀ x ∈ h.db.assignments workspaceId env,
      x.2 ∈ (h.stitched workspaceId env db).assigned.map (·.1) := by
    intro x hx
    simp only [History.stitched, List.map_append, List.mem_append, List.map_map]
    exact Or.inr (List.mem_map.mpr ⟨x, hx, rfl⟩)
  have hold : ∀ id ∈ h.assigned.map (·.1),
      id ∈ (h.stitched workspaceId env db).assigned.map (·.1) := by
    intro id hid
    simp only [History.stitched, List.map_append, List.mem_append]
    exact Or.inl hid
  constructor
  · intro w u row hrow
    rcases hs.entry_cases hrow with hrow | ⟨-, x, hx, -, hid⟩
    · exact hold _ (hl.entries w u row hrow)
    · rw [hid]
      exact hnew x hx
  · intro w u row clusterId hrow hid
    rcases hs.customer_cases hrow with ⟨hrow, -⟩ | ⟨-, x, hx, -, hstamp⟩
    · exact hold _ (hl.customers w u row clusterId hrow hid)
    · rw [hstamp, Option.some.injEq] at hid
      rw [← hid]
      exact hnew x hx

theorem Logged.step (hl : Logged h) (a : Action) : Logged (step h a) := by
  cases a with
  | insert identityStitcher command =>
    constructor
    · intro w u row hrow
      rw [Identity.step, entry_insert] at hrow
      exact hl.entries w u row hrow
    · intro w u row clusterId hrow
      rw [Identity.step, customer_insert] at hrow
      exact hl.customers w u row clusterId hrow
  | stitch identityStitcher command env =>
    rcases step_stitch h identityStitcher command env with hstep | ⟨db, hstep, hs⟩
    · rwa [hstep]
    · rw [hstep]
      exact hl.stitched hs
  | erase subject now =>
    refine ⟨hl.entries, fun w u row clusterId hrow hid => ?_⟩
    rcases customer_wipe now w u with hsame | ⟨-, hwiped⟩
    · exact hl.customers w u row clusterId (hsame ▸ hrow) hid
    · obtain ⟨old, -, rfl⟩ := Option.map_eq_some_iff.mp (hwiped ▸ hrow)
      cases hid

end

/-! ### Components of the edges in any order -/

section

variable {edges ordered : List IdentityEdge}

theorem linked_perm (h : ordered.Perm edges) {u v : String} :
    Linked ordered u v ↔ Linked edges u v :=
  ⟨fun hl => hl.mono fun _ he => h.subset he, fun hl => hl.mono fun _ he => h.symm.subset he⟩

theorem hasEdge_perm (h : ordered.Perm edges) {u : String} :
    HasEdge ordered u ↔ HasEdge edges u := by
  constructor
  · rintro ⟨e, he, hu⟩
    exact ⟨e, h.subset he, hu⟩
  · rintro ⟨e, he, hu⟩
    exact ⟨e, h.symm.subset he, hu⟩

end

section

variable {h : History} {workspaceId : String} {env : StitchEnv}

theorem assignment_component {x : Component × String} (henv : env.Answers h.assigned)
    (hx : x ∈ h.db.assignments workspaceId env) :
    x.1.minLabel ∈ x.1.members ∧ (∀ u ∈ x.1.members, HasEdge (readEdges h.db.pg workspaceId) u) ∧
      ∀ u ∈ x.1.members, ∀ v, v ∈ x.1.members ↔ Linked (readEdges h.db.pg workspaceId) u v := by
  have hc := components_spec (mem_assignments hx).1
  have hperm := henv.rowOrder (readEdges h.db.pg workspaceId)
  refine ⟨hc.minLabel_mem, fun u hu => (hasEdge_perm hperm).mp (hc.hasEdge u hu), ?_⟩
  intro u hu v
  rw [hc.mem_iff u hu v, linked_perm hperm]

theorem exists_assignment (henv : env.Answers h.assigned) {u : String}
    (hu : HasEdge (readEdges h.db.pg workspaceId) u) :
    ∃ x ∈ h.db.assignments workspaceId env, u ∈ x.1.members := by
  have hperm := henv.rowOrder (readEdges h.db.pg workspaceId)
  obtain ⟨c, hc, huc⟩ := exists_component ((hasEdge_perm hperm).mpr hu)
  have hmap : (h.db.assignments workspaceId env).map (·.1) =
      buildComponentsFromEdges (env.rowOrder (readEdges h.db.pg workspaceId)) :=
    map_fst_assignments 0 _
  rw [← hmap] at hc
  obtain ⟨x, hx, rfl⟩ := List.mem_map.mp hc
  exact ⟨x, hx, huc⟩

/-- Two components with a common member have one smallest member. -/
theorem minLabel_eq {x y : Component × String} (henv : env.Answers h.assigned)
    (hx : x ∈ h.db.assignments workspaceId env) (hy : y ∈ h.db.assignments workspaceId env)
    {u v : String} (hu : u ∈ x.1.members) (hv : v ∈ y.1.members)
    (huv : Linked (readEdges h.db.pg workspaceId) u v) : x.1.minLabel = y.1.minLabel := by
  have hxc := components_spec (mem_assignments hx).1
  have hyc := components_spec (mem_assignments hy).1
  have hvx := ((assignment_component henv hx).2.2 u hu v).mpr huv
  have huy := ((assignment_component henv hy).2.2 v hv u).mpr huv.symm
  have hxMin : y.1.minLabel ∈ x.1.members := by
    apply ((assignment_component henv hx).2.2 v hvx _).mpr
    exact ((assignment_component henv hy).2.2 v hv _).mp hyc.minLabel_mem
  have hyMin : x.1.minLabel ∈ y.1.members := by
    apply ((assignment_component henv hy).2.2 u huy _).mpr
    exact ((assignment_component henv hx).2.2 u hu _).mp hxc.minLabel_mem
  exact unitsLe_antisymm (hxc.minLabel_le _ hxMin) (hyc.minLabel_le _ hyMin)

end

/-! ### Ids that are never drawn twice -/

/-- A first id, and longer ones. -/
def freshIds (first : String) (n : Nat) : String := first ++ String.ofList (List.replicate n '0')

theorem length_freshIds (first : String) (n : Nat) :
    (freshIds first n).length = first.length + n := by
  rw [freshIds, String.length_append, String.length_ofList, List.length_replicate]

theorem freshIds_answers (now : Time) {first : String} {assigned : List (String × Time)}
    (h : ∀ a ∈ assigned, a.1.length = first.length ∧ a.1 ≠ first) :
    StitchEnv.Answers ⟨now, freshIds first, id⟩ assigned where
  rowOrder := fun _ => List.Perm.refl _
  distinct := by
    intro n m hnm
    have hlength := congrArg String.length hnm
    simp only [length_freshIds] at hlength
    omega
  fresh := by
    intro n a ha heq
    obtain ⟨hlength, hne⟩ := h a ha
    have hn := congrArg String.length heq
    simp only [length_freshIds] at hn
    obtain rfl : n = 0 := by omega
    exact hne (heq.symm.trans (by simp [freshIds]))

/-- The ids are told apart from the ones listed. -/
theorem freshIds_answers_of (now : Time) {first : String} {assigned listed : List (String × Time)}
    (hlisted : assigned = listed) (h : ∀ a ∈ listed, a.1.length = first.length ∧ a.1 ≠ first) :
    StitchEnv.Answers ⟨now, freshIds first, id⟩ assigned := by
  rw [hlisted]
  exact freshIds_answers now h

/-! ### Histories of one workspace -/

def shop : String := "0f0e0d0c-0b0a-4908-8706-050403020100"

def newCustomer (customerRef : String) : CustomerPii where
  subject := ⟨shop, customerRef⟩
  emailCt := none
  phoneCt := none
  fullNameCt := none
  emailHash := none
  phoneHash := none
  saltVersion := none
  identityClusterId := none
  tombstonedAt := none

/-- Customers that nothing is known to link. -/
def unlinked (rows : List CustomerPii) (h : (rows.map (·.subject)).Nodup) : History where
  db :=
    { pg :=
        { requests := ⟨[], List.nodup_nil⟩
          customerPii := ⟨rows, h⟩
          edges := []
          mirrors := fun _ => []
          ledger := []
          auditLog := [] }
      registry := ⟨[], List.nodup_nil⟩ }
  assigned := []

def link (customerRefA customerRefB : String) : Action :=
  .insert (some "true") ⟨shop, customerRefA, customerRefB, false⟩

def stitchAt (now : Time) (first : String) : Action :=
  .stitch (some "true") ⟨shop, false⟩ ⟨now, freshIds first, id⟩

end BrainV2.Identity
