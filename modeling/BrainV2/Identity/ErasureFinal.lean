import BrainV2.Identity.Soundness

/-!
# What an erasure leaves behind later

An erased customer should stay out of the identity graph: the tombstoned row
gets no cluster id again, and an erasure leaves no edge and no registry entry
of the customer.

* `FinalAfter`: one action respects this;
* `Gone`: the row is tombstoned and without a cluster, and the registry has no
  entry of the customer;
* `LeavesGone`: the stitcher and further erasures find no edge of the customer;
* `erasure_final_iff`: what follows an erasure respects it exactly when the
  registry had no entry of the customer and no edge of it is found later;
* `edge_revives_erased`: a late edge gives the erased customer a cluster again.
-/

namespace BrainV2.Identity

open BrainV2.Consent

section

variable (subject : Subject)

def NoEdgeOf (db : IdentityDb) : Prop :=
  ∀ edge ∈ db.pg.edges, edge.mentions subject = false

/-- After the action the row of the customer has no cluster id. After an erasure of the customer
no edge and no registry entry of it is left either. -/
def FinalAfter (h : History) (a : Action) : Prop :=
  (∀ row, (step h a).db.customer subject.workspaceId subject.customerRef = some row →
    row.identityClusterId = none) ∧
  ∀ now, a = .erase subject now → NoEdgeOf subject (step h a).db ∧
    (step h a).db.entry subject.workspaceId subject.customerRef = none

/-- The customer has no edge when its workspace is stitched and when it is erased again. -/
def LeavesGone (h : History) : Action → Prop
  | .insert _ _ => True
  | .stitch identityStitcher command _ =>
    stitcherEnabled identityStitcher command.bypassFlagForTest = true →
      command.workspaceId ≠ "" → command.workspaceId = subject.workspaceId →
        NoEdgeOf subject h.db
  | .erase other _ => other = subject → NoEdgeOf subject h.db

structure Gone (h : History) : Prop where
  row : ∃ row, h.db.customer subject.workspaceId subject.customerRef = some row ∧
    row.tombstonedAt.isSome = true ∧ row.identityClusterId = none
  entry : h.db.entry subject.workspaceId subject.customerRef = none

end

variable {subject : Subject} {h : History}

theorem noEdgeOf_iff {db : IdentityDb} : NoEdgeOf subject db ↔
    ¬ HasEdge (readEdges db.pg subject.workspaceId) subject.customerRef := by
  constructor
  · rintro hno ⟨e, he, hu⟩
    obtain ⟨edge, hedge, rfl⟩ := List.mem_map.mp he
    obtain ⟨hmem, hw⟩ := List.mem_filter.mp hedge
    have hnot := hno edge hmem
    simp only [IdentityClusterEdge.mentions, of_decide_eq_true hw, beq_self_eq_true,
      Bool.true_and, Bool.or_eq_false_iff, beq_eq_false_iff_ne] at hnot
    exact hu.elim (fun e => hnot.1 e.symm) fun e => hnot.2 e.symm
  · intro hno edge hmem
    apply Bool.eq_false_iff.mpr
    intro hmentions
    simp only [IdentityClusterEdge.mentions, Bool.and_eq_true, Bool.or_eq_true,
      beq_iff_eq] at hmentions
    obtain ⟨hw, hends⟩ := hmentions
    refine hno ⟨_, List.mem_map_of_mem (List.mem_filter.mpr ⟨hmem, decide_eq_true hw⟩), ?_⟩
    exact hends.imp Eq.symm Eq.symm

/-! ### One action -/

theorem Gone.not_live (hg : Gone subject h) : ¬ HasLiveRow h.db.pg subject := by
  rintro ⟨live, hmem, hsubject, hnone⟩
  obtain ⟨row, hrow, hsome, -⟩ := hg.row
  have hlive : h.db.customer subject.workspaceId subject.customerRef = some live :=
    IdentityDb.customer_eq_some_iff.mpr ⟨hmem, hsubject⟩
  rw [hlive, Option.some.injEq] at hrow
  rw [← hrow, hnone] at hsome
  cases hsome

/-- Another erasure of the customer finds the tombstone and does nothing. -/
theorem Gone.erase_again (hg : Gone subject h) (now : Time) :
    step h (.erase subject now) = h := by
  simp only [step, wipePgPii_dead hg.not_live]

/-- An erasure of somebody else. -/
theorem customer_erase_other {other : Subject} (hother : other ≠ subject) (now : Time) :
    (step h (.erase other now)).db.customer subject.workspaceId subject.customerRef =
      h.db.customer subject.workspaceId subject.customerRef := by
  rcases customer_wipe now subject.workspaceId subject.customerRef with hsame | ⟨hsubject, -⟩
  · exact hsame
  · exact absurd hsubject hother

/-- A run of the stitcher leaves a customer without edges alone. -/
theorem Stitched.without_edge {workspaceId : String} {env : StitchEnv} {db : IdentityDb}
    (hs : Stitched workspaceId env h.db db) (henv : env.Answers h.assigned)
    (hno : workspaceId = subject.workspaceId → NoEdgeOf subject h.db) :
    db.customer subject.workspaceId subject.customerRef =
        h.db.customer subject.workspaceId subject.customerRef ∧
      db.entry subject.workspaceId subject.customerRef =
        h.db.entry subject.workspaceId subject.customerRef := by
  have hout : subject.workspaceId = workspaceId → ∀ x ∈ h.db.assignments workspaceId env,
      subject.customerRef ∉ x.1.members := by
    intro hw x hx hmem
    have hedge := (assignment_component henv hx).2.1 _ hmem
    rw [← hw] at hedge
    exact noEdgeOf_iff.mp (hno hw.symm) hedge
  refine ⟨hs.otherCustomers _ _ hout, hs.otherEntries _ _ fun hw x hx hlabel => ?_⟩
  apply hout hw x hx
  rw [hlabel]
  exact (assignment_component henv hx).1

/-- It gives the row of a customer with an edge a cluster id. -/
theorem stamps_row {env : StitchEnv} {db : IdentityDb} {row : CustomerPii}
    (hs : Stitched subject.workspaceId env h.db db) (henv : env.Answers h.assigned)
    (hedge : HasEdge (readEdges h.db.pg subject.workspaceId) subject.customerRef)
    (hrow : h.db.customer subject.workspaceId subject.customerRef = some row) :
    ∃ clusterId, db.customer subject.workspaceId subject.customerRef =
      some (CustomerPii.stamp row clusterId) := by
  obtain ⟨x, hx, hmem⟩ := exists_assignment henv hedge
  refine ⟨x.2, ?_⟩
  rw [hs.customers x hx _ hmem, hrow]
  rfl

/-- The stitcher runs when it is switched on and a workspace is given. -/
theorem stitch_cases (h : History) (identityStitcher : Option String)
    (command : StitchClustersCommand) (env : StitchEnv) :
    (¬ (stitcherEnabled identityStitcher command.bypassFlagForTest = true ∧
          command.workspaceId ≠ "") ∧
        step h (.stitch identityStitcher command env) = h) ∨
      (stitcherEnabled identityStitcher command.bypassFlagForTest = true ∧
          command.workspaceId ≠ "") ∧
        ∃ db, step h (.stitch identityStitcher command env) =
            h.stitched command.workspaceId env db ∧
          Stitched command.workspaceId env h.db db := by
  have hok : (∃ result after, stitchClusters identityStitcher command env h.db =
      .ok (result, after)) ↔ _ := stitchClusters_ok_iff
  rw [← hok]
  cases hresult : stitchClusters identityStitcher command env h.db with
  | error e =>
    left
    refine ⟨?_, by simp only [step, hresult]⟩
    rintro ⟨result, after, hok⟩
    cases hok
  | ok result =>
    right
    refine ⟨⟨result.1, result.2, rfl⟩, result.2, ?_, stitch_spec hresult⟩
    simp only [step, hresult]

theorem Gone.finalAfter_iff (hg : Gone subject h) (a : Action) (henv : Answers h a) :
    FinalAfter subject h a ↔ LeavesGone subject h a := by
  obtain ⟨row, hrow, -, hid⟩ := hg.row
  have hkept : ∀ {after}, after = some row → ∀ row', after = some row' →
      row'.identityClusterId = none := by
    rintro _ rfl row' hrow'
    rw [← Option.some.inj hrow', hid]
  cases a with
  | insert identityStitcher command =>
    refine iff_of_true ⟨hkept ((customer_insert _ _).trans hrow), ?_⟩ trivial
    rintro now ⟨⟩
  | erase other now =>
    by_cases hother : other = subject
    · subst hother
      simp only [FinalAfter, LeavesGone, hg.erase_again, true_implies]
      constructor
      · intro hfinal
        exact (hfinal.2 now rfl).1
      · intro hno
        exact ⟨hkept hrow, fun _ _ => ⟨hno, hg.entry⟩⟩
    · refine iff_of_true ⟨hkept ((customer_erase_other hother now).trans hrow), ?_⟩
        fun e => absurd e hother
      rintro now' ⟨⟩
      exact absurd rfl hother
  | stitch identityStitcher command env =>
    have hfinal : FinalAfter subject h (.stitch identityStitcher command env) ↔
        ∀ row, (step h (.stitch identityStitcher command env)).db.customer subject.workspaceId
          subject.customerRef = some row → row.identityClusterId = none :=
      and_iff_left (by rintro now ⟨⟩)
    rw [hfinal]
    rcases stitch_cases h identityStitcher command env with ⟨hoff, hsame⟩ | ⟨hon, db, hstep, hs⟩
    · rw [hsame]
      exact iff_of_true (hkept hrow) fun hflag hworkspace _ => absurd ⟨hflag, hworkspace⟩ hoff
    rw [hstep]
    constructor
    · intro hnull _ _ hw
      rw [noEdgeOf_iff]
      intro hedge
      rw [hw] at hs
      obtain ⟨clusterId, hstamped⟩ := stamps_row hs henv hedge hrow
      cases hnull _ hstamped
    · intro hno
      exact hkept ((hs.without_edge henv (hno hon.1 hon.2)).1.trans hrow)

theorem Gone.step (hg : Gone subject h) (a : Action) (henv : Answers h a)
    (hno : LeavesGone subject h a) : Gone subject (step h a) := by
  cases a with
  | insert identityStitcher command =>
    obtain ⟨row, hrow, hgone⟩ := hg.row
    exact ⟨⟨row, (customer_insert _ _).trans hrow, hgone⟩, (entry_insert _ _).trans hg.entry⟩
  | erase other now =>
    by_cases hother : other = subject
    · rwa [hother, hg.erase_again]
    · obtain ⟨row, hrow, hgone⟩ := hg.row
      exact ⟨⟨row, (customer_erase_other hother now).trans hrow, hgone⟩, hg.entry⟩
  | stitch identityStitcher command env =>
    rcases stitch_cases h identityStitcher command env with ⟨-, hsame⟩ | ⟨hon, db, hstep, hs⟩
    · rwa [hsame]
    · obtain ⟨hcustomer, hentry⟩ := hs.without_edge henv (hno hon.1 hon.2)
      obtain ⟨row, hrow, hgone⟩ := hg.row
      rw [hstep]
      exact ⟨⟨row, hcustomer.trans hrow, hgone⟩, hentry.trans hg.entry⟩

/-! ### The first erasure and what follows -/

/-- The first erasure wipes the row and deletes the edges; the registry stays as it is. -/
theorem first_erasure (hlive : HasLiveRow h.db.pg subject) (now : Time) :
    (∃ row, (step h (.erase subject now)).db.customer subject.workspaceId
        subject.customerRef = some row ∧ row.tombstonedAt.isSome = true ∧
        row.identityClusterId = none) ∧
      NoEdgeOf subject (step h (.erase subject now)).db := by
  refine ⟨?_, (wipePgPii_live hlive now).1⟩
  obtain ⟨live, hmem, hsubject, hnone⟩ := hlive
  have hcustomer : h.db.customer subject.workspaceId subject.customerRef = some live :=
    IdentityDb.customer_eq_some_iff.mpr ⟨hmem, hsubject⟩
  refine ⟨live.wipe now, ?_, rfl, rfl⟩
  have hwiped : (step h (.erase subject now)).db.pg.customerPii.rows =
      wipeRows h.db.pg.customerPii.rows subject now := by
    simp only [step, wipe_live ⟨live, hmem, hsubject, hnone⟩]
    rfl
  apply IdentityDb.customer_eq_some_iff.mpr
  refine ⟨?_, hsubject⟩
  rw [hwiped]
  exact List.mem_map.mpr ⟨live, hmem, if_pos hsubject⟩

/-- After the erasure of a customer with a live row, nothing of it comes back and further
erasures leave nothing of it, exactly when the registry had no entry of it, and no run of the
stitcher in its workspace and no further erasure finds an edge of it. -/
theorem erasure_final_iff (hlive : HasLiveRow h.db.pg subject) (now : Time) {actions : List Action}
    (henv : Runs.Allowed step Answers h (.erase subject now :: actions)) :
    Runs.Allowed step (FinalAfter subject) h (.erase subject now :: actions) ↔
      h.db.entry subject.workspaceId subject.customerRef = none ∧
        Runs.Allowed step (LeavesGone subject) (step h (.erase subject now))
          actions := by
  obtain ⟨⟨row, hrow, hgone⟩, hno⟩ := first_erasure hlive now
  have hrun : h.db.entry subject.workspaceId subject.customerRef = none →
      (Runs.Allowed step (FinalAfter subject) (step h (.erase subject now))
          actions ↔
        Runs.Allowed step (LeavesGone subject) (step h (.erase subject now))
          actions) := by
    intro hentry
    apply Runs.allowed_iff_allowed _ _ (⟨⟨row, hrow, hgone⟩, hentry⟩ : Gone subject _) henv.2
    · intro h a hg ha
      exact hg.finalAfter_iff a ha
    · intro h a hg ha hleaves
      exact hg.step a ha hleaves
  constructor
  · rintro ⟨hfirst, hrest⟩
    have hentry := (hfirst.2 now rfl).2
    exact ⟨hentry, (hrun hentry).mp hrest⟩
  · rintro ⟨hentry, hrest⟩
    refine ⟨⟨?_, fun _ _ => ⟨hno, hentry⟩⟩, (hrun hentry).mpr hrest⟩
    intro row' hrow'
    rw [hrow, Option.some.injEq] at hrow'
    rw [← hrow', hgone.2]

/-! ### Two histories -/

/-- The edge is found after the erasure, and stitched. -/
def lateEdgeActions : List Action :=
  [.erase ⟨shop, "a"⟩ 1, link "a" "b", stitchAt 2 "10000000-0000-4000-8000-000000000000"]

theorem pair_live : HasLiveRow pair.db.pg ⟨shop, "a"⟩ :=
  ⟨newCustomer "a", List.mem_cons_self, rfl, rfl⟩

/-- Nothing is assigned before the run, which gives the tombstoned row the new id. -/
theorem lateEdge_states :
    (Runs.exec step pair (lateEdgeActions.take 2)).assigned = [] ∧
      (Runs.exec step pair lateEdgeActions).db.customer shop "a" =
        some { newCustomer "a" with
          tombstonedAt := some 1
          identityClusterId := some "10000000-0000-4000-8000-000000000000" } := by
  decide

/-- A customer that is erased before its first edge is found gets a cluster id again. -/
theorem edge_revives_erased : ¬ ∀ (subject : Subject) (h : History) (now : Time)
    (actions : List Action), h.Unstitched → HasLiveRow h.db.pg subject →
      Runs.Allowed step Answers h (.erase subject now :: actions) →
        Runs.Allowed step (FinalAfter subject) h (.erase subject now :: actions) := by
  intro hclaim
  obtain ⟨hassigned, hrevived⟩ := lateEdge_states
  have hfinal := hclaim ⟨shop, "a"⟩ pair 1 (lateEdgeActions.drop 1) ⟨rfl, by decide⟩ pair_live
    ⟨trivial, trivial, freshIds_answers_of 2 hassigned (by decide), trivial⟩
  have hlast : FinalAfter ⟨shop, "a"⟩ (Runs.exec step pair (lateEdgeActions.take 2))
      (stitchAt 2 "10000000-0000-4000-8000-000000000000") := hfinal.2.2.1
  cases hlast.1 _ hrevived

/-- The edge is found before the erasure, which deletes it. -/
def linkedPair : History := step pair (link "a" "b")

def earlyEdgeActions : List Action :=
  [stitchAt 3 "10000000-0000-4000-8000-000000000000", .erase ⟨shop, "a"⟩ 4]

theorem earlyEdge_states :
    (step linkedPair (.erase ⟨shop, "a"⟩ 2)).assigned = [] ∧
      ∀ n ∈ [0, 1], (Runs.exec step (step linkedPair (.erase ⟨shop, "a"⟩ 2))
        (earlyEdgeActions.take n)).db.pg.edges = [] := by
  decide

theorem early_edge_stays_erased : Runs.Allowed step (FinalAfter ⟨shop, "a"⟩) linkedPair
    (.erase ⟨shop, "a"⟩ 2 :: earlyEdgeActions) := by
  obtain ⟨hassigned, hedges⟩ := earlyEdge_states
  have hno : ∀ n ∈ [0, 1], NoEdgeOf ⟨shop, "a"⟩ (Runs.exec step
      (step linkedPair (.erase ⟨shop, "a"⟩ 2)) (earlyEdgeActions.take n)).db := by
    intro n hn edge hedge
    rw [hedges n hn] at hedge
    cases hedge
  apply (erasure_final_iff _ 2 _).mpr
  · exact ⟨rfl, fun _ _ _ => hno 0 (by decide), fun _ => hno 1 (by decide), trivial⟩
  · exact ⟨newCustomer "a", by decide, rfl, rfl⟩
  · exact ⟨trivial, freshIds_answers_of 3 hassigned (by decide), trivial, trivial⟩

end BrainV2.Identity
