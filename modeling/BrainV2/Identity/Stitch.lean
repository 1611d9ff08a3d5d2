import BrainV2.Identity.Components
import BrainV2.Consent.EraseSubject
import BrainV2.Lib.Runs

/-!
# Stitching the clusters of a workspace

* `IdentityDb`: the tables, with `entry` and `customer` for their rows;
* `insertIdentityEdge`, `stitchClusters`: the two commands;
* `assignments`: the cluster id that a run of the stitcher gives to each
  component;
* `stitch_spec`: a run of the stitcher is its assignments, written to the
  registry at the smallest members and to the rows of all members.
-/

namespace BrainV2.Identity

open BrainV2.Utf16 BrainV2.Consent

/-- A row of `identity_cluster_registry`. -/
structure ClusterRegistryRow where
  workspaceId : String
  minLabel : String
  clusterId : String
  customerCount : Nat
  createdAt : Time
deriving DecidableEq, Repr

def ClusterRegistryRow.key (row : ClusterRegistryRow) : String × String :=
  (row.workspaceId, row.minLabel)

/-- The time of creation stays. -/
def ClusterRegistryRow.updated (row new : ClusterRegistryRow) : ClusterRegistryRow :=
  { row with clusterId := new.clusterId, customerCount := new.customerCount }

/-- `INSERT … ON CONFLICT (workspace_id, min_label) DO UPDATE`. -/
def upsertRows : List ClusterRegistryRow → ClusterRegistryRow → List ClusterRegistryRow
  | [], new => [new]
  | row :: rows, new =>
    if row.key = new.key then row.updated new :: rows else row :: upsertRows rows new

theorem key_mem_upsertRows {rows : List ClusterRegistryRow} {new : ClusterRegistryRow}
    {key : String × String} (h : key ∈ (upsertRows rows new).map (·.key)) :
    key ∈ rows.map (·.key) ∨ key = new.key := by
  induction rows with
  | nil => exact Or.inr (by simpa [upsertRows] using h)
  | cons row rows ih =>
    unfold upsertRows at h
    by_cases he : row.key = new.key
    · rw [if_pos he] at h
      exact Or.inl h
    · rw [if_neg he] at h
      rcases List.mem_cons.mp h with h | h
      · exact Or.inl (List.mem_cons.mpr (Or.inl h))
      · rcases ih h with h | h
        · exact Or.inl (List.mem_cons_of_mem _ h)
        · exact Or.inr h

theorem nodup_upsertRows {rows : List ClusterRegistryRow} (h : (rows.map (·.key)).Nodup)
    (new : ClusterRegistryRow) : ((upsertRows rows new).map (·.key)).Nodup := by
  induction rows with
  | nil => exact List.nodup_singleton _
  | cons row rows ih =>
    obtain ⟨hrow, hrest⟩ := List.nodup_cons.mp h
    unfold upsertRows
    by_cases he : row.key = new.key
    · rw [if_pos he]
      exact h
    · rw [if_neg he]
      refine List.nodup_cons.mpr ⟨fun hmem => ?_, ih hrest⟩
      rcases key_mem_upsertRows hmem with hmem | hmem
      · exact hrow hmem
      · exact he hmem

/-- The table `identity_cluster_registry`, with its unique constraint. -/
structure ClusterRegistry where
  rows : List ClusterRegistryRow
  uniqueLabels : (rows.map (·.key)).Nodup

def ClusterRegistry.upsert (registry : ClusterRegistry) (row : ClusterRegistryRow) :
    ClusterRegistry :=
  ⟨upsertRows registry.rows row, nodup_upsertRows registry.uniqueLabels row⟩

structure IdentityDb where
  pg : Pg
  registry : ClusterRegistry

/-! ### New edges -/

structure InsertEdgeCommand where
  workspaceId : String
  customerRefA : String
  customerRefB : String
  bypassFlagForTest : Bool := false

/-- The edge with its ends in order. -/
def InsertEdgeCommand.edge (command : InsertEdgeCommand) : IdentityEdge :=
  if unitsLe command.customerRefA command.customerRefB then
    ⟨command.customerRefA, command.customerRefB⟩
  else ⟨command.customerRefB, command.customerRefA⟩

/-- The flag `IDENTITY_STITCHER` is on, or a test goes around it. -/
def stitcherEnabled (identityStitcher : Option String) (bypassFlagForTest : Bool) : Bool :=
  bypassFlagForTest || identityStitcher = some "true"

/-- `ON CONFLICT DO NOTHING`; an edge from a customer to itself is left out. -/
def insertIdentityEdge (identityStitcher : Option String) (command : InsertEdgeCommand)
    (db : IdentityDb) : IdentityDb :=
  if !stitcherEnabled identityStitcher command.bypassFlagForTest then db
  else
    let edge := command.edge
    if edge.nodeA = edge.nodeB then db
    else
      let row : IdentityClusterEdge := ⟨command.workspaceId, edge.nodeA, edge.nodeB⟩
      if row ∈ db.pg.edges then db
      else { db with pg := { db.pg with edges := db.pg.edges ++ [row] } }

/-! ### The stitcher -/

structure StitchClustersCommand where
  workspaceId : String
  bypassFlagForTest : Bool := false

structure StitchClustersResult where
  workspaceId : String
  componentsProcessed : Nat
  clustersCreated : Nat
  clustersMerged : Nat
  customerPiiStamped : Nat
deriving DecidableEq, Repr

inductive StitchError where
  | flagOff
  | workspaceRequired
deriving DecidableEq, Repr

/-- What the outside answers during one run: the time of the transaction, the ids that
`randomUUID` gives, and the order in which the database returns the edges. -/
structure StitchEnv where
  now : Time
  uuids : Nat → String
  rowOrder : List IdentityEdge → List IdentityEdge

def readEdges (pg : Pg) (workspaceId : String) : List IdentityEdge :=
  (pg.edges.filter fun edge => edge.workspaceId = workspaceId).map fun edge =>
    ⟨edge.nodeA, edge.nodeB⟩

structure ExistingCluster where
  minLabel : String
  clusterId : String
  createdAt : Time
  customerCount : Nat
deriving DecidableEq, Repr

def ExistingCluster.dated (cluster : ExistingCluster) : DatedCluster :=
  ⟨cluster.clusterId, cluster.createdAt⟩

def ClusterRegistryRow.existing (row : ClusterRegistryRow) : ExistingCluster :=
  ⟨row.minLabel, row.clusterId, row.createdAt, row.customerCount⟩

/-- By label, which is unique in a workspace. -/
def readExistingClusters (registry : ClusterRegistry) (workspaceId : String) :
    List (String × ExistingCluster) :=
  (registry.rows.filter fun row => row.workspaceId = workspaceId).map fun row =>
    (row.minLabel, row.existing)

def memberClusters (existing : List (String × ExistingCluster)) (members : List String) :
    List ExistingCluster :=
  members.filterMap fun member => existing.lookup member

/-- By the time of creation; entries of one time keep their order. -/
def sortByCreatedAt (clusters : List ExistingCluster) : List ExistingCluster :=
  clusters.insertionSort fun a b => a.createdAt ≤ b.createdAt

/-- One turn of the loop that looks for the winner. The id is compared, not the entry. -/
def challenge (winner candidate : ExistingCluster) : ExistingCluster :=
  if resolveWinningClusterId winner.dated candidate.dated = candidate.clusterId then candidate
  else winner

def mergeWinner : List ExistingCluster → Option ExistingCluster
  | [] => none
  | first :: rest => some (rest.foldl challenge first)

/-- The id of a component that holds these entries; `none` stands for a new one. -/
def resolvedClusterId : List ExistingCluster → Option String
  | [] => none
  | [only] => some only.clusterId
  | clusters => (mergeWinner (sortByCreatedAt clusters)).map (·.clusterId)

def CustomerPii.stamp (row : CustomerPii) (clusterId : String) : CustomerPii :=
  { row with identityClusterId := some clusterId }

def stampsRow (workspaceId : String) (members : List String) (clusterId : String)
    (row : CustomerPii) : Bool :=
  row.subject.workspaceId = workspaceId && row.subject.customerRef ∈ members &&
    row.identityClusterId ≠ some clusterId

def stampRows (rows : List CustomerPii) (workspaceId : String) (members : List String)
    (clusterId : String) : List CustomerPii :=
  rows.map fun row =>
    if stampsRow workspaceId members clusterId row then CustomerPii.stamp row clusterId else row

theorem stampRows_subjects (rows : List CustomerPii) (workspaceId : String) (members : List String)
    (clusterId : String) :
    (stampRows rows workspaceId members clusterId).map (·.subject) = rows.map (·.subject) := by
  simp only [stampRows, List.map_map]
  apply List.map_congr_left
  intro row _
  simp only [Function.comp]
  split <;> rfl

/-- The number of rows that change, and the table. -/
def stampClusterOnPii (table : CustomerPiiTable) (workspaceId : String) (members : List String)
    (clusterId : String) : Nat × CustomerPiiTable :=
  (table.rows.countP (stampsRow workspaceId members clusterId),
    { rows := stampRows table.rows workspaceId members clusterId
      uniqueSubjects := by
        rw [stampRows_subjects]
        exact table.uniqueSubjects })

/-- What the loop over the components has done. -/
structure Stitching where
  db : IdentityDb
  clustersCreated : Nat
  clustersMerged : Nat
  customerPiiStamped : Nat

def stitchComponent (existing : List (String × ExistingCluster)) (workspaceId : String)
    (env : StitchEnv) (s : Stitching) (component : Component) : Stitching :=
  let clusters := memberClusters existing component.members
  let fresh := env.uuids s.clustersCreated
  let clusterId := (resolvedClusterId clusters).getD fresh
  let registry := s.db.registry.upsert
    ⟨workspaceId, component.minLabel, clusterId, component.size, env.now⟩
  let (stamped, table) :=
    stampClusterOnPii s.db.pg.customerPii workspaceId component.members clusterId
  { db := { pg := { s.db.pg with customerPii := table }, registry := registry }
    clustersCreated := if clusters.length = 0 then s.clustersCreated + 1 else s.clustersCreated
    clustersMerged := if 2 ≤ clusters.length then s.clustersMerged + 1 else s.clustersMerged
    customerPiiStamped := s.customerPiiStamped + stamped }

/-- The registry is read once, before the loop. -/
def stitchClusters (identityStitcher : Option String) (command : StitchClustersCommand)
    (env : StitchEnv) (db : IdentityDb) : Except StitchError (StitchClustersResult × IdentityDb) :=
  if !stitcherEnabled identityStitcher command.bypassFlagForTest then .error .flagOff
  else if command.workspaceId = "" then .error .workspaceRequired
  else
    let edges := env.rowOrder (readEdges db.pg command.workspaceId)
    if edges.length = 0 then .ok (⟨command.workspaceId, 0, 0, 0, 0⟩, db)
    else
      let components := buildComponentsFromEdges edges
      let existing := readExistingClusters db.registry command.workspaceId
      let s := components.foldl (stitchComponent existing command.workspaceId env) ⟨db, 0, 0, 0⟩
      .ok (⟨command.workspaceId, components.length, s.clustersCreated, s.clustersMerged,
        s.customerPiiStamped⟩, s.db)

/-! ### The rows by their keys -/

def ClusterRegistry.entry (registry : ClusterRegistry) (workspaceId label : String) :
    Option ClusterRegistryRow :=
  registry.rows.find? fun row => row.key = (workspaceId, label)

def IdentityDb.entry (db : IdentityDb) : String → String → Option ClusterRegistryRow :=
  db.registry.entry

def IdentityDb.customer (db : IdentityDb) (workspaceId customerRef : String) :
    Option CustomerPii :=
  db.pg.customerPii.rows.find? fun row => row.subject = ⟨workspaceId, customerRef⟩

theorem IdentityDb.entry_eq_some_iff {db : IdentityDb} {workspaceId label : String}
    {row : ClusterRegistryRow} : db.entry workspaceId label = some row ↔
      row ∈ db.registry.rows ∧ row.key = (workspaceId, label) :=
  Dict.find_key_eq_some_iff db.registry.uniqueLabels

theorem IdentityDb.customer_eq_some_iff {db : IdentityDb} {workspaceId customerRef : String}
    {row : CustomerPii} : db.customer workspaceId customerRef = some row ↔
      row ∈ db.pg.customerPii.rows ∧ row.subject = ⟨workspaceId, customerRef⟩ :=
  Dict.find_key_eq_some_iff db.pg.customerPii.uniqueSubjects

/-- The entry that is written for a component, given the one that is there. -/
def writtenEntry (old : Option ClusterRegistryRow) (new : ClusterRegistryRow) :
    ClusterRegistryRow :=
  match old with
  | none => new
  | some row => row.updated new

theorem writtenEntry_clusterId (old : Option ClusterRegistryRow) (new : ClusterRegistryRow) :
    (writtenEntry old new).clusterId = new.clusterId := by
  cases old <;> rfl

theorem find_upsertRows (rows : List ClusterRegistryRow) (new : ClusterRegistryRow)
    (key : String × String) : (upsertRows rows new).find? (fun row => row.key = key) =
      if key = new.key then some (writtenEntry (rows.find? fun row => row.key = key) new)
      else rows.find? fun row => row.key = key := by
  induction rows with
  | nil =>
    by_cases h : key = new.key
    · simp [upsertRows, h, writtenEntry]
    · have h' : new.key ≠ key := fun e => h e.symm
      simp [upsertRows, h, h']
  | cons row rows ih =>
    unfold upsertRows
    by_cases he : row.key = new.key
    · rw [if_pos he]
      have hkey : (row.updated new).key = row.key := rfl
      by_cases h : key = new.key
      · rw [if_pos h, List.find?_cons_of_pos, List.find?_cons_of_pos]
        · rfl
        · simpa using he.trans h.symm
        · simpa [hkey] using he.trans h.symm
      · have hne : row.key ≠ key := fun e => h (e.symm.trans he)
        rw [if_neg h, List.find?_cons_of_neg, List.find?_cons_of_neg]
        · simpa using hne
        · simpa [hkey] using hne
    · rw [if_neg he]
      by_cases hrow : row.key = key
      · have h : key ≠ new.key := fun e => he (hrow.trans e)
        rw [if_neg h, List.find?_cons_of_pos (by simpa using hrow),
          List.find?_cons_of_pos (by simpa using hrow)]
      · rw [List.find?_cons_of_neg (by simpa using hrow),
          List.find?_cons_of_neg (by simpa using hrow), ih]

theorem ClusterRegistry.entry_upsert (registry : ClusterRegistry) (new : ClusterRegistryRow)
    (workspaceId label : String) : (registry.upsert new).entry workspaceId label =
      if (workspaceId, label) = new.key then
        some (writtenEntry (registry.entry workspaceId label) new)
      else registry.entry workspaceId label :=
  find_upsertRows _ _ _

/-! ### What a run of the stitcher does -/

section

variable (workspaceId : String) (env : StitchEnv)

/-- The ids for the components, in their order; `drawn` ids have been made before. -/
def assignments (existing : List (String × ExistingCluster)) :
    Nat → List Component → List (Component × String)
  | _, [] => []
  | drawn, component :: components =>
    match resolvedClusterId (memberClusters existing component.members) with
    | some clusterId => (component, clusterId) :: assignments existing drawn components
    | none => (component, env.uuids drawn) :: assignments existing (drawn + 1) components

/-- The two statements for one component. -/
def assign (db : IdentityDb) (x : Component × String) : IdentityDb where
  pg := { db.pg with customerPii :=
    (stampClusterOnPii db.pg.customerPii workspaceId x.1.members x.2).2 }
  registry := db.registry.upsert ⟨workspaceId, x.1.minLabel, x.2, x.1.size, env.now⟩

variable {workspaceId env}

theorem CustomerPii.stamp_eq_self {row : CustomerPii} {clusterId : String}
    (h : row.identityClusterId = some clusterId) : CustomerPii.stamp row clusterId = row := by
  cases row
  cases h
  rfl

theorem entry_assign (db : IdentityDb) (x : Component × String) (w label : String) :
    (assign workspaceId env db x).entry w label =
      if (w, label) = (workspaceId, x.1.minLabel) then
        some (writtenEntry (db.entry w label)
          ⟨workspaceId, x.1.minLabel, x.2, x.1.size, env.now⟩)
      else db.entry w label :=
  ClusterRegistry.entry_upsert _ _ _ _

theorem customer_assign (db : IdentityDb) (x : Component × String) (w u : String) :
    (assign workspaceId env db x).customer w u =
      if w = workspaceId ∧ u ∈ x.1.members then
        (db.customer w u).map fun row => CustomerPii.stamp row x.2
      else db.customer w u := by
  have hstamp : (assign workspaceId env db x).customer w u = (db.customer w u).map fun row =>
      if stampsRow workspaceId x.1.members x.2 row then CustomerPii.stamp row x.2 else row := by
    apply Dict.find_key_map
    intro row
    split <;> rfl
  rw [hstamp]
  by_cases h : w = workspaceId ∧ u ∈ x.1.members
  · rw [if_pos h]
    apply Option.map_congr
    intro row hrow
    have hsubject := (IdentityDb.customer_eq_some_iff.mp hrow).2
    by_cases hid : row.identityClusterId = some x.2
    · rw [CustomerPii.stamp_eq_self hid]
      exact ite_self _
    · simp [stampsRow, hid, hsubject, h]
  · rw [if_neg h]
    cases hrow : db.customer w u with
    | none => rfl
    | some row =>
      have hsubject := (IdentityDb.customer_eq_some_iff.mp hrow).2
      have hnot : stampsRow workspaceId x.1.members x.2 row = false := by
        simp only [stampsRow, hsubject]
        by_contra hs
        apply h
        simp only [Bool.not_eq_false, Bool.and_eq_true, decide_eq_true_eq] at hs
        exact hs.1
      rw [Option.map_some, hnot]
      rfl

theorem edges_foldl_assign (xs : List (Component × String)) (db : IdentityDb) :
    (xs.foldl (assign workspaceId env) db).pg.edges = db.pg.edges := by
  induction xs generalizing db with
  | nil => rfl
  | cons x xs ih => exact ih _

variable {existing : List (String × ExistingCluster)}

theorem resolvedClusterId_eq_none_iff {clusters : List ExistingCluster} :
    resolvedClusterId clusters = none ↔ clusters = [] := by
  match clusters with
  | [] => simp [resolvedClusterId]
  | [only] => simp [resolvedClusterId]
  | a :: b :: rest =>
    have hne : sortByCreatedAt (a :: b :: rest) ≠ [] := by
      intro h
      have hlength : (sortByCreatedAt (a :: b :: rest)).length = (a :: b :: rest).length :=
        List.length_insertionSort _ _
      rw [h] at hlength
      cases hlength
    cases hsort : sortByCreatedAt (a :: b :: rest) with
    | nil => exact absurd hsort hne
    | cons first others => simp [resolvedClusterId, hsort, mergeWinner]

theorem assignments_of_none {drawn : Nat} {component : Component} (components : List Component)
    (h : resolvedClusterId (memberClusters existing component.members) = none) :
    assignments env existing drawn (component :: components) =
      (component, env.uuids drawn) :: assignments env existing (drawn + 1) components := by
  rw [assignments, h]

theorem assignments_of_some {drawn : Nat} {component : Component} (components : List Component)
    {clusterId : String}
    (h : resolvedClusterId (memberClusters existing component.members) = some clusterId) :
    assignments env existing drawn (component :: components) =
      (component, clusterId) :: assignments env existing drawn components := by
  rw [assignments, h]

/-- One component is one step: the loop makes the assignments. -/
theorem foldl_stitchComponent (components : List Component) (s : Stitching) :
    (components.foldl (stitchComponent existing workspaceId env) s).db =
      (assignments env existing s.clustersCreated components).foldl (assign workspaceId env) s.db := by
  induction components generalizing s with
  | nil => rfl
  | cons component components ih =>
    rw [List.foldl_cons, ih]
    cases hid : resolvedClusterId (memberClusters existing component.members) with
    | none =>
      have hcreated : (stitchComponent existing workspaceId env s component).clustersCreated =
          s.clustersCreated + 1 := by
        simp [stitchComponent, resolvedClusterId_eq_none_iff.mp hid]
      rw [assignments_of_none _ hid, hcreated, List.foldl_cons]
      simp only [stitchComponent, hid, Option.getD_none, assign]
    | some clusterId =>
      have hne : memberClusters existing component.members ≠ [] := by
        intro e
        rw [resolvedClusterId_eq_none_iff.mpr e] at hid
        cases hid
      have hcreated : (stitchComponent existing workspaceId env s component).clustersCreated =
          s.clustersCreated := by
        simp [stitchComponent, hne]
      rw [assignments_of_some _ hid, hcreated, List.foldl_cons]
      simp only [stitchComponent, hid, Option.getD_some, assign]

theorem map_fst_assignments (drawn : Nat) (components : List Component) :
    (assignments env existing drawn components).map (·.1) = components := by
  induction components generalizing drawn with
  | nil => rfl
  | cons component components ih =>
    unfold assignments
    split <;> rw [List.map_cons, ih]

/-- An id comes from the entries of the component, or it is new. -/
theorem mem_assignments {drawn : Nat} {components : List Component} {x : Component × String}
    (h : x ∈ assignments env existing drawn components) :
    x.1 ∈ components ∧ (resolvedClusterId (memberClusters existing x.1.members) = some x.2 ∨
      memberClusters existing x.1.members = [] ∧ ∃ k, drawn ≤ k ∧ x.2 = env.uuids k) := by
  induction components generalizing drawn with
  | nil => cases h
  | cons component components ih =>
    unfold assignments at h
    cases hid : resolvedClusterId (memberClusters existing component.members) with
    | none =>
      rw [hid] at h
      rcases List.mem_cons.mp h with rfl | h
      · refine ⟨List.mem_cons_self, Or.inr ⟨resolvedClusterId_eq_none_iff.mp hid, ?_⟩⟩
        exact ⟨drawn, Nat.le_refl _, rfl⟩
      · obtain ⟨hmem, hcase⟩ := ih h
        refine ⟨List.mem_cons_of_mem _ hmem, ?_⟩
        rcases hcase with hcase | ⟨hnil, k, hk, heq⟩
        · exact Or.inl hcase
        · exact Or.inr ⟨hnil, k, Nat.le_of_succ_le hk, heq⟩
    | some clusterId =>
      rw [hid] at h
      rcases List.mem_cons.mp h with rfl | h
      · exact ⟨List.mem_cons_self, Or.inl hid⟩
      · obtain ⟨hmem, hcase⟩ := ih h
        exact ⟨List.mem_cons_of_mem _ hmem, hcase⟩

/-- Two components of one id both hold an entry: new ids differ from all others. -/
theorem assignments_pairwise (hinjective : Function.Injective env.uuids)
    (hfresh : ∀ members clusterId k,
      resolvedClusterId (memberClusters existing members) = some clusterId →
        clusterId ≠ env.uuids k) (drawn : Nat) (components : List Component) :
    (assignments env existing drawn components).Pairwise fun x y => x.2 = y.2 →
      resolvedClusterId (memberClusters existing x.1.members) = some x.2 ∧
        resolvedClusterId (memberClusters existing y.1.members) = some y.2 := by
  induction components generalizing drawn with
  | nil => exact List.Pairwise.nil
  | cons component components ih =>
    unfold assignments
    cases hid : resolvedClusterId (memberClusters existing component.members) with
    | none =>
      refine List.pairwise_cons.mpr ⟨fun y hy heq => ?_, ih _⟩
      exfalso
      rcases (mem_assignments hy).2 with hcase | ⟨-, k, hk, hyk⟩
      · exact hfresh _ _ drawn hcase heq.symm
      · have hkd := hinjective (heq.trans hyk)
        omega
    | some clusterId =>
      refine List.pairwise_cons.mpr ⟨fun y hy heq => ⟨hid, ?_⟩, ih _⟩
      rcases (mem_assignments hy).2 with hcase | ⟨-, k, -, hyk⟩
      · exact hcase
      · exact absurd (heq.trans hyk) (hfresh _ _ k hid)

theorem mem_of_challenge (rest : List ExistingCluster) (first : ExistingCluster) :
    rest.foldl challenge first ∈ first :: rest := by
  induction rest generalizing first with
  | nil => exact List.mem_cons_self
  | cons candidate rest ih =>
    rw [List.foldl_cons]
    have hstep : challenge first candidate = first ∨ challenge first candidate = candidate := by
      unfold challenge
      split
      · exact Or.inr rfl
      · exact Or.inl rfl
    rcases List.mem_cons.mp (ih (challenge first candidate)) with h | h
    · rcases hstep with hstep | hstep
      · rw [h, hstep]
        exact List.mem_cons_self
      · rw [h, hstep]
        exact List.mem_cons_of_mem _ List.mem_cons_self
    · exact List.mem_cons_of_mem _ (List.mem_cons_of_mem _ h)

theorem mem_sortByCreatedAt {clusters : List ExistingCluster} {cluster : ExistingCluster} :
    cluster ∈ sortByCreatedAt clusters ↔ cluster ∈ clusters :=
  List.mem_insertionSort _

/-- The winner of the sorted entries, however many there are. -/
theorem resolvedClusterId_eq (clusters : List ExistingCluster) :
    resolvedClusterId clusters = (mergeWinner (sortByCreatedAt clusters)).map (·.clusterId) := by
  match clusters with
  | [] => rfl
  | [only] => rfl
  | a :: b :: rest => rfl

theorem resolvedClusterId_mem {clusters : List ExistingCluster} {clusterId : String}
    (h : resolvedClusterId clusters = some clusterId) :
    ∃ cluster ∈ clusters, cluster.clusterId = clusterId := by
  rw [resolvedClusterId_eq] at h
  obtain ⟨winner, hwinner, rfl⟩ := Option.map_eq_some_iff.mp h
  refine ⟨winner, mem_sortByCreatedAt.mp ?_, rfl⟩
  cases hsort : sortByCreatedAt clusters with
  | nil =>
    rw [hsort] at hwinner
    cases hwinner
  | cons first rest =>
    rw [hsort] at hwinner
    cases hwinner
    exact mem_of_challenge rest first

theorem lookup_readExistingClusters (registry : ClusterRegistry) (w label : String) :
    (readExistingClusters registry w).lookup label =
      (registry.entry w label).map (·.existing) := by
  unfold readExistingClusters ClusterRegistry.entry
  induction registry.rows with
  | nil => rfl
  | cons row rows ih =>
    by_cases hw : row.workspaceId = w
    · by_cases hlabel : row.minLabel = label
      · rw [List.filter_cons_of_pos (by simpa using hw), List.map_cons,
          List.find?_cons_of_pos (by simp [ClusterRegistryRow.key, hw, hlabel])]
        simp [hlabel]
      · have hne : (label == row.minLabel) = false := by simpa using fun e => hlabel e.symm
        rw [List.filter_cons_of_pos (by simpa using hw), List.map_cons, List.lookup_cons, hne, ih,
          List.find?_cons_of_neg (by simp [ClusterRegistryRow.key, hlabel])]
    · rw [List.filter_cons_of_neg (by simpa using hw), ih,
        List.find?_cons_of_neg (by simp [ClusterRegistryRow.key, hw])]

theorem mem_memberClusters {db : IdentityDb} {w : String} {members : List String}
    {cluster : ExistingCluster} :
    cluster ∈ memberClusters (readExistingClusters db.registry w) members ↔
      ∃ u ∈ members, ∃ row, db.entry w u = some row ∧ row.existing = cluster := by
  unfold memberClusters
  simp only [List.mem_filterMap, lookup_readExistingClusters, Option.map_eq_some_iff]
  rfl

/-- The assignments of one run. -/
def IdentityDb.assignments (db : IdentityDb) (workspaceId : String) (env : StitchEnv) :
    List (Component × String) :=
  Identity.assignments env (readExistingClusters db.registry workspaceId) 0
    (buildComponentsFromEdges (env.rowOrder (readEdges db.pg workspaceId)))

/-- `after` is what a run of the stitcher makes of `db`. -/
structure Stitched (workspaceId : String) (env : StitchEnv) (db after : IdentityDb) : Prop where
  entries : ∀ x ∈ db.assignments workspaceId env, after.entry workspaceId x.1.minLabel =
    some (writtenEntry (db.entry workspaceId x.1.minLabel)
      ⟨workspaceId, x.1.minLabel, x.2, x.1.size, env.now⟩)
  otherEntries : ∀ w label, (w = workspaceId → ∀ x ∈ db.assignments workspaceId env,
    label ≠ x.1.minLabel) → after.entry w label = db.entry w label
  customers : ∀ x ∈ db.assignments workspaceId env, ∀ u ∈ x.1.members,
    after.customer workspaceId u =
      (db.customer workspaceId u).map fun row => CustomerPii.stamp row x.2
  otherCustomers : ∀ w u, (w = workspaceId → ∀ x ∈ db.assignments workspaceId env,
    u ∉ x.1.members) → after.customer w u = db.customer w u
  edges : after.pg.edges = db.pg.edges

theorem assignments_disjoint (db : IdentityDb) (workspaceId : String) (env : StitchEnv) :
    (db.assignments workspaceId env).Pairwise fun x y => ∀ u ∈ x.1.members, u ∉ y.1.members := by
  have h := components_disjoint (env.rowOrder (readEdges db.pg workspaceId))
  have hmap : (db.assignments workspaceId env).map (·.1) =
      buildComponentsFromEdges (env.rowOrder (readEdges db.pg workspaceId)) :=
    map_fst_assignments 0 _
  rw [← hmap] at h
  exact List.pairwise_map.mp h

theorem foldl_assign_stitched (db : IdentityDb) (workspaceId : String) (env : StitchEnv) :
    Stitched workspaceId env db
      ((db.assignments workspaceId env).foldl (assign workspaceId env) db) := by
  have hdisjoint := assignments_disjoint db workspaceId env
  have hlabels : (db.assignments workspaceId env).Pairwise fun x y => x.1.minLabel ≠ y.1.minLabel := by
    apply hdisjoint.imp_of_mem
    intro x y hx hy h heq
    have hxc := components_spec (mem_assignments hx).1
    have hyc := components_spec (mem_assignments hy).1
    exact h _ hxc.minLabel_mem (heq ▸ hyc.minLabel_mem)
  refine ⟨?_, ?_, ?_, ?_, edges_foldl_assign _ _⟩
  · intro x hx
    apply Runs.exec_touched_once (assign workspaceId env) (fun db => db.entry workspaceId x.1.minLabel)
      (fun y : Component × String => y.1.minLabel = x.1.minLabel) _
      (fun y old => some (writtenEntry old
        ⟨workspaceId, y.1.minLabel, y.2, y.1.size, env.now⟩)) _ _ hx rfl
    · intro s y hy
      rw [entry_assign, if_neg]
      exact fun e => hy (Prod.mk.inj e).2.symm
    · intro s y hy
      rw [entry_assign, if_pos (by rw [hy])]
    · apply hlabels.imp
      intro y z h hy hz
      exact h (hy.trans hz.symm)
  · intro w label h
    apply Runs.exec_untouched (assign workspaceId env) (fun db => db.entry w label)
      (fun y : Component × String => w = workspaceId ∧ label = y.1.minLabel)
    · intro s y hy
      rw [entry_assign, if_neg]
      exact fun e => hy (Prod.mk.inj e)
    · rintro y hy ⟨hw, hlabel⟩
      exact h hw y hy hlabel
  · intro x hx u hu
    apply Runs.exec_touched_once (assign workspaceId env) (fun db => db.customer workspaceId u)
      (fun y : Component × String => u ∈ y.1.members) _
      (fun y old => old.map fun row => CustomerPii.stamp row y.2) _ _ hx hu
    · intro s y hy
      rw [customer_assign, if_neg]
      exact fun e => hy e.2
    · intro s y hy
      rw [customer_assign, if_pos ⟨rfl, hy⟩]
    · apply hdisjoint.imp
      intro y z h hy
      exact h u hy
  · intro w u h
    apply Runs.exec_untouched (assign workspaceId env) (fun db => db.customer w u)
      (fun y : Component × String => w = workspaceId ∧ u ∈ y.1.members)
    · intro s y hy
      rw [customer_assign, if_neg hy]
    · rintro y hy ⟨hw, hu⟩
      exact h hw y hy hu

theorem stitchClusters_no_edges {identityStitcher : Option String}
    {command : StitchClustersCommand} {env : StitchEnv} {db : IdentityDb}
    (hflag : stitcherEnabled identityStitcher command.bypassFlagForTest = true)
    (hworkspace : command.workspaceId ≠ "")
    (hedges : env.rowOrder (readEdges db.pg command.workspaceId) = []) :
    stitchClusters identityStitcher command env db =
      .ok (⟨command.workspaceId, 0, 0, 0, 0⟩, db) := by
  simp [stitchClusters, hflag, hworkspace, hedges]

theorem stitchClusters_ok_iff {identityStitcher : Option String}
    {command : StitchClustersCommand} {env : StitchEnv} {db : IdentityDb} :
    (∃ result after, stitchClusters identityStitcher command env db = .ok (result, after)) ↔
      stitcherEnabled identityStitcher command.bypassFlagForTest = true ∧
        command.workspaceId ≠ "" := by
  by_cases hflag : stitcherEnabled identityStitcher command.bypassFlagForTest = true
  · by_cases hworkspace : command.workspaceId = ""
    · simp [stitchClusters, hworkspace, hflag]
    · by_cases hedges : (env.rowOrder (readEdges db.pg command.workspaceId)).length = 0
      · simp only [stitchClusters, hflag, hworkspace, if_pos hedges]
        simp [hworkspace]
      · simp only [stitchClusters, hflag, hworkspace, if_neg hedges]
        simp [hworkspace]
  · simp [stitchClusters, hflag]

theorem stitch_spec {identityStitcher : Option String} {command : StitchClustersCommand}
    {env : StitchEnv} {db after : IdentityDb} {result : StitchClustersResult}
    (h : stitchClusters identityStitcher command env db = .ok (result, after)) :
    Stitched command.workspaceId env db after := by
  unfold stitchClusters at h
  by_cases hflag : (!stitcherEnabled identityStitcher command.bypassFlagForTest) = true
  · rw [if_pos hflag] at h
    cases h
  rw [if_neg hflag] at h
  by_cases hworkspace : command.workspaceId = ""
  · rw [if_pos hworkspace] at h
    cases h
  rw [if_neg hworkspace] at h
  have hstitched := foldl_assign_stitched db command.workspaceId env
  by_cases hedges : (env.rowOrder (readEdges db.pg command.workspaceId)).length = 0
  · have hnone : db.assignments command.workspaceId env = [] := by
      rw [IdentityDb.assignments, List.length_eq_zero_iff.mp hedges]
      rfl
    simp only [if_pos hedges, Except.ok.injEq, Prod.mk.injEq] at h
    rw [hnone, List.foldl_nil, h.2] at hstitched
    rwa [h.2]
  · simp only [if_neg hedges, Except.ok.injEq, Prod.mk.injEq] at h
    rw [foldl_stitchComponent] at h
    rw [← h.2]
    exact hstitched

end

end BrainV2.Identity
