import BrainV2.Consent.RequestRecord

/-!
# What an all-zero artifact is worth

* `loadErasureTargetsFromManifest`: the targets of tier 2 and 3; the mirrors in
  Postgres are left out;
* `Erased`: nothing of the subject is left in any registered target, edge, row or key;
* `allZero_erased_iff`: which states an all-zero artifact describes truly;
* `mirror_left_behind`: an all-zero artifact of a subject whose orders are still there.
-/

namespace BrainV2.Consent

/-- An entry of `erasure_targets.json`. -/
structure ManifestTarget where
  table : String
  type : String
  store : Option String
  hasCustomerRef : Option Bool
deriving DecidableEq, Repr

namespace ManifestTarget

def isPostgres (t : ManifestTarget) : Bool := t.store == some "postgres"

def carriesCustomerRef (t : ManifestTarget) : Bool :=
  if t.type = "materialized_view" then t.hasCustomerRef.getD false else true

def toTarget (t : ManifestTarget) : ErasureTarget where
  table := t.table
  hasCustomerRef := t.carriesCustomerRef
  useFinal := !(t.type == "bronze")

end ManifestTarget

def hardcodedFallbackTargets : List ErasureTarget :=
  [⟨"brain.connector_raw_events", true, false⟩, ⟨"brain.connector_order_facts", true, true⟩]

/-- `none` stands for a manifest that is missing or cannot be parsed. -/
def loadErasureTargetsFromManifest (manifest : Option (List ManifestTarget)) :
    List ErasureTarget :=
  match manifest with
  | none => hardcodedFallbackTargets
  | some targets =>
    match (targets.filter fun t => !t.isPostgres).map ManifestTarget.toTarget with
    | [] => hardcodedFallbackTargets
    | loaded => loaded

/-- The registered mirrors in Postgres that carry the customer reference. -/
def registeredMirrors (manifest : Option (List ManifestTarget)) : List String :=
  ((manifest.getD []).filter fun t => t.isPostgres && t.carriesCustomerRef).map (·.table)

/-- Every personal and every hash column is null. -/
def CustomerPii.Blank (row : CustomerPii) : Prop :=
  row.emailCt = none ∧ row.phoneCt = none ∧ row.fullNameCt = none ∧ row.emailHash = none ∧
    row.phoneHash = none ∧ row.saltVersion = none ∧ row.identityClusterId = none

/-- Nothing of the subject is left. -/
structure Erased (manifest : Option (List ManifestTarget)) (subject : Subject) (s : Stores) :
    Prop where
  ch : ∀ target ∈ loadErasureTargetsFromManifest manifest, target.hasCustomerRef = true →
    subject ∉ s.ch target.table
  mirrors : ∀ table ∈ registeredMirrors manifest, subject ∉ s.pg.mirrors table
  edges : ∀ edge ∈ s.pg.edges, edge.mentions subject = false
  pii : ∀ row ∈ s.pg.customerPii.rows, row.subject = subject → row.Blank
  keys : ∀ saltVersion, ¬ Decrypts s.vault (buildDekKeyId subject saltVersion)

/-! ### Tier 1 -/

/-- The subject has a row that is not tombstoned, so tier 1 wipes it. -/
def HasLiveRow (pg : Pg) (subject : Subject) : Prop :=
  ∃ row ∈ pg.customerPii.rows, row.subject = subject ∧ row.tombstonedAt = none

theorem wipePgPii_mirrors (pg : Pg) (subject : Subject) (now : Time) :
    (wipePgPii pg subject now).2.mirrors = pg.mirrors := by
  unfold wipePgPii
  split
  · rfl
  · split <;> rfl

theorem wipePgPii_live {pg : Pg} {subject : Subject} (h : HasLiveRow pg subject) (now : Time) :
    (∀ edge ∈ (wipePgPii pg subject now).2.edges, edge.mentions subject = false) ∧
      ∀ row ∈ (wipePgPii pg subject now).2.customerPii.rows, row.subject = subject →
        row.Blank := by
  obtain ⟨live, hlive, hsubject, htombstone⟩ := h
  unfold wipePgPii
  cases hfind : pg.customerPii.rows.find? fun row => row.subject = subject with
  | none =>
    have hnone := List.find?_eq_none.mp hfind live hlive
    simp [hsubject] at hnone
  | some row =>
    have hrow : row = live := by
      have hsame : row.subject = subject := by simpa using List.find?_some hfind
      exact List.inj_on_of_nodup_map pg.customerPii.uniqueSubjects
        (List.mem_of_find?_eq_some hfind) hlive (hsame.trans hsubject.symm)
    simp only [hrow, htombstone, Option.isSome_none, Bool.false_eq_true, if_false]
    constructor
    · intro edge hedge
      simpa using (List.mem_filter.mp hedge).2
    · intro wiped hwiped hwipedSubject
      simp only [CustomerPiiTable.wipe, wipeRows, List.mem_map] at hwiped
      obtain ⟨old, -, rfl⟩ := hwiped
      by_cases hold : old.subject = subject
      · rw [if_pos hold]
        exact ⟨rfl, rfl, rfl, rfl, rfl, rfl, rfl⟩
      · rw [if_neg hold] at hwipedSubject
        exact absurd hwipedSubject hold

theorem wipePgPii_dead {pg : Pg} {subject : Subject} (h : ¬ HasLiveRow pg subject) (now : Time) :
    (wipePgPii pg subject now).2 = pg := by
  unfold wipePgPii
  cases hfind : pg.customerPii.rows.find? fun row => row.subject = subject with
  | none => rfl
  | some row =>
    have hsubject : row.subject = subject := by simpa using List.find?_some hfind
    have htombstoned : row.tombstonedAt.isSome = true := by
      by_contra hnone
      exact h ⟨row, List.mem_of_find?_eq_some hfind, hsubject, by simpa using hnone⟩
    simp [htombstoned]

/-! ### Tiers 2 and 3 -/

section ClickHouse

variable {clickhouse : ClickHouse} {subject : Subject} {selects : Subject → Bool}

/-- A target loses at most rows that its condition selects. -/
theorem eraseChTarget_rows (answer : ChAnswer) (target : ErasureTarget)
    (ch : String → List Subject) (table : String) :
    (eraseChTarget clickhouse subject answer target ch).2 table = ch table ∨
      ∃ selects, clickhouse (subjectCondition subject) = some selects ∧ table = target.table ∧
        (eraseChTarget clickhouse subject answer target ch).2 table =
          (ch table).filter fun row => !selects row := by
  unfold eraseChTarget
  split
  · exact Or.inl rfl
  split
  · exact Or.inl rfl
  cases hparse : clickhouse (subjectCondition subject) with
  | none => exact Or.inl rfl
  | some selects =>
    have hch : (if answer.mutated then
          Function.update ch target.table ((ch target.table).filter fun row => !selects row)
        else ch) table = ch table ∨
        (table = target.table ∧ (if answer.mutated then
          Function.update ch target.table ((ch target.table).filter fun row => !selects row)
        else ch) table = (ch table).filter fun row => !selects row) := by
      by_cases hmutated : answer.mutated = true
      · rw [if_pos hmutated]
        by_cases htable : table = target.table
        · subst htable
          exact Or.inr ⟨rfl, Function.update_self _ _ _⟩
        · exact Or.inl (Function.update_of_ne htable _ _)
      · rw [if_neg hmutated]
        exact Or.inl rfl
    simp only
    split
    · obtain h | ⟨ht, h⟩ := hch
      · exact Or.inl h
      · exact Or.inr ⟨selects, rfl, ht, h⟩
    · obtain h | ⟨ht, h⟩ := hch
      · exact Or.inl h
      · exact Or.inr ⟨selects, rfl, ht, h⟩

theorem eraseChTarget_subset (answer : ChAnswer) (target : ErasureTarget)
    (ch : String → List Subject) {table : String} {row : Subject}
    (h : row ∈ (eraseChTarget clickhouse subject answer target ch).2 table) : row ∈ ch table := by
  obtain heq | ⟨selects, -, -, heq⟩ := eraseChTarget_rows answer target ch table
  · rw [heq] at h
    exact h
  · rw [heq] at h
    exact (List.mem_filter.mp h).1

/-- A row that the condition does not select stays. -/
theorem eraseChTarget_keeps {row : Subject}
    (hrow : ∀ selects, clickhouse (subjectCondition subject) = some selects →
      selects row = false) (answer : ChAnswer) (target : ErasureTarget)
    {ch : String → List Subject} {table : String} (h : row ∈ ch table) :
    row ∈ (eraseChTarget clickhouse subject answer target ch).2 table := by
  obtain heq | ⟨selects, hselects, -, heq⟩ := eraseChTarget_rows answer target ch table
  · rw [heq]
    exact h
  · rw [heq]
    exact List.mem_filter.mpr ⟨h, by simp [hrow selects hselects]⟩

/-- A target that verifies holds no row that its condition selects. -/
theorem eraseChTarget_clears (hselects : clickhouse (subjectCondition subject) = some selects)
    (href : subject.customerRef ≠ "") {answer : ChAnswer} {target : ErasureTarget}
    {ch : String → List Subject} (hcarries : target.hasCustomerRef = true)
    (h : TargetVerifies clickhouse subject answer target ch) {row : Subject}
    (hrow : selects row = true) :
    row ∉ (eraseChTarget clickhouse subject answer target ch).2 target.table := by
  obtain ⟨hlength, hfailed, selects', hselects', hdone⟩ := h hcarries
  rw [hselects] at hselects'
  cases hselects'
  have hshort : ¬ (subject.workspaceId = "" ∨ subject.customerRef = "" ∨
      subject.workspaceIdLength < 10) := by
    rintro (h | h | h)
    · rw [Subject.workspaceIdLength, h] at hlength
      exact absurd hlength (by decide)
    · exact href h
    · omega
  unfold eraseChTarget
  simp only [hcarries, Bool.not_true, Bool.false_eq_true, if_false, if_neg hshort, hselects,
    hfailed]
  by_cases hmutated : answer.mutated = true
  · simp [hmutated, hrow]
  · rw [if_neg hmutated]
    intro hmem
    obtain h | h := hdone
    · exact hmutated h
    · rw [h row hmem] at hrow
      cases hrow

theorem chTiers_subset (targets : List ErasureTarget) (answers : Nat → ChAnswer)
    (ch : String → List Subject) {table : String} {row : Subject}
    (h : row ∈ (eraseAndVerifyChTiers clickhouse subject answers targets ch).2 table) :
    row ∈ ch table := by
  induction targets generalizing answers ch with
  | nil => exact h
  | cons target targets ih =>
    simp only [eraseAndVerifyChTiers] at h
    exact eraseChTarget_subset _ _ _ (ih _ _ h)

theorem chTiers_keeps {row : Subject}
    (hrow : ∀ selects, clickhouse (subjectCondition subject) = some selects →
      selects row = false) (targets : List ErasureTarget) (answers : Nat → ChAnswer)
    {ch : String → List Subject} {table : String} (h : row ∈ ch table) :
    row ∈ (eraseAndVerifyChTiers clickhouse subject answers targets ch).2 table := by
  induction targets generalizing answers ch with
  | nil => exact h
  | cons target targets ih =>
    simp only [eraseAndVerifyChTiers]
    exact ih _ (eraseChTarget_keeps hrow _ _ h)

theorem chTiers_clears (hselects : clickhouse (subjectCondition subject) = some selects)
    (href : subject.customerRef ≠ "") {targets : List ErasureTarget} {answers : Nat → ChAnswer}
    {ch : String → List Subject} (h : ChTiersVerify clickhouse subject answers targets ch)
    {target : ErasureTarget} (htarget : target ∈ targets)
    (hcarries : target.hasCustomerRef = true) {row : Subject} (hrow : selects row = true) :
    row ∉ (eraseAndVerifyChTiers clickhouse subject answers targets ch).2 target.table := by
  induction targets generalizing answers ch with
  | nil => cases htarget
  | cons first rest ih =>
    simp only [eraseAndVerifyChTiers]
    obtain rfl | hrest := List.mem_cons.mp htarget
    · intro hmem
      exact eraseChTarget_clears hselects href hcarries h.1 hrow (chTiers_subset _ _ _ hmem)
    · exact ih h.2 hrest

/-- Where every tier verifies, the subject is gone from the tables exactly when the
condition selects it wherever it was. -/
theorem chTiers_erased_iff (href : subject.customerRef ≠ "") {targets : List ErasureTarget}
    {answers : Nat → ChAnswer} {ch : String → List Subject}
    (h : ChTiersVerify clickhouse subject answers targets ch) {target : ErasureTarget}
    (htarget : target ∈ targets) (hcarries : target.hasCustomerRef = true) :
    subject ∉ (eraseAndVerifyChTiers clickhouse subject answers targets ch).2 target.table ↔
      (subject ∈ ch target.table → ∃ selects,
        clickhouse (subjectCondition subject) = some selects ∧ selects subject = true) := by
  constructor
  · intro hgone hmem
    by_contra hnot
    apply hgone
    apply chTiers_keeps _ _ _ hmem
    intro selects hselects
    by_contra htrue
    exact hnot ⟨selects, hselects, by simpa using htrue⟩
  · intro hall hmem
    obtain ⟨selects, hselects, hrow⟩ := hall (chTiers_subset _ _ _ hmem)
    exact chTiers_clears hselects href h htarget hcarries hrow hmem

end ClickHouse

/-! ### Tier 4 -/

theorem vaultGet_filter_self (vault : List (String × String)) (dekKeyId : String) :
    vaultGet (vault.filter fun entry => !(entry.1 = dekKeyId)) dekKeyId = none := by
  unfold vaultGet
  rw [Option.map_eq_none_iff, List.find?_eq_none]
  intro entry hentry
  simpa using (List.mem_filter.mp hentry).2

theorem vaultGet_filter_ne (vault : List (String × String)) {dekKeyId other : String}
    (h : other ≠ dekKeyId) :
    vaultGet (vault.filter fun entry => !(entry.1 = dekKeyId)) other = vaultGet vault other := by
  unfold vaultGet
  congr 1
  induction vault with
  | nil => rfl
  | cons entry vault ih =>
    by_cases hentry : entry.1 = dekKeyId
    · simp [hentry, ih, Ne.symm h]
    · simp [hentry, List.find?_cons, ih]

theorem destroyDek_vault {backend : String} (hbackend : backend ≠ "kms")
    (vault : List (String × String)) (dekKeyId other : String) :
    vaultGet (destroyDek backend vault dekKeyId).2 other =
      if other = dekKeyId then none else vaultGet vault other := by
  unfold destroyDek
  rw [if_neg hbackend]
  by_cases hsome : (vaultGet vault dekKeyId).isSome = true
  · rw [if_pos hsome]
    by_cases hother : other = dekKeyId
    · rw [if_pos hother, hother]
      exact vaultGet_filter_self vault dekKeyId
    · rw [if_neg hother]
      exact vaultGet_filter_ne vault hother
  · rw [if_neg hsome]
    by_cases hother : other = dekKeyId
    · rw [if_pos hother, hother]
      simpa using hsome
    · rw [if_neg hother]

/-- The loop destroys the key it is given, and no other. -/
theorem shredTiers_vault {backend : String} (hbackend : backend ≠ "kms")
    (erasureId : String) {dekKeyId : String} (hvalid : isValidDekKeyId dekKeyId = true)
    (tiers : List DekTier) (s : Shred) (other : String) :
    vaultGet (shredTiers backend erasureId dekKeyId s tiers).vault other =
      if other = dekKeyId ∧ tiers ≠ [] then none else vaultGet s.vault other := by
  induction tiers generalizing s with
  | nil => simp [shredTiers]
  | cons tier tiers ih =>
    unfold shredTiers
    rw [if_pos hvalid, ih]
    have hstep : vaultGet (shredTier backend erasureId dekKeyId tier s).vault other =
        if other = dekKeyId then none else vaultGet s.vault other :=
      destroyDek_vault hbackend s.vault dekKeyId other
    rw [hstep]
    by_cases hother : other = dekKeyId
    · simp [hother]
    · simp [hother]

theorem shredTiers_invalid (backend erasureId : String) {dekKeyId : String}
    (hvalid : ¬ isValidDekKeyId dekKeyId = true) (tiers : List DekTier) (s : Shred) :
    (shredTiers backend erasureId dekKeyId s tiers).vault = s.vault := by
  induction tiers with
  | nil => rfl
  | cons tier tiers ih =>
    unfold shredTiers
    rw [if_neg hvalid]
    exact ih

/-- Where the keys count as verified, the subject's keys are unusable exactly when every
usable one was the key of this salt version, under a valid name. -/
theorem keys_erased_iff {backend : String} (erasureId : String) {subject : Subject}
    {saltVersion : String} (hkms : isValidDekKeyId (buildDekKeyId subject saltVersion) = true → backend ≠ "kms")
    (s : Shred) :
    (∀ salt, ¬ Decrypts (shredTiers backend erasureId (buildDekKeyId subject saltVersion) s
        dekTiers).vault (buildDekKeyId subject salt)) ↔
      ∀ salt, Decrypts s.vault (buildDekKeyId subject salt) →
        isValidDekKeyId (buildDekKeyId subject saltVersion) = true ∧
          buildDekKeyId subject salt = buildDekKeyId subject saltVersion := by
  by_cases hvalid : isValidDekKeyId (buildDekKeyId subject saltVersion) = true
  · have hvault := shredTiers_vault (hkms hvalid) erasureId hvalid dekTiers s
    have hdecrypts : ∀ salt, Decrypts (shredTiers backend erasureId
        (buildDekKeyId subject saltVersion) s dekTiers).vault (buildDekKeyId subject salt) ↔
        (buildDekKeyId subject salt ≠ buildDekKeyId subject saltVersion ∧
          Decrypts s.vault (buildDekKeyId subject salt)) := by
      intro salt
      unfold Decrypts
      rw [hvault]
      by_cases hsame : buildDekKeyId subject salt = buildDekKeyId subject saltVersion
      · simp [hsame, dekTiers]
      · simp [hsame]
    constructor
    · intro hnone salt hsalt
      refine ⟨hvalid, ?_⟩
      by_contra hne
      exact hnone salt ((hdecrypts salt).mpr ⟨hne, hsalt⟩)
    · intro hall salt hsalt
      obtain ⟨hne, hold⟩ := (hdecrypts salt).mp hsalt
      exact hne (hall salt hold).2
  · rw [shredTiers_invalid backend erasureId hvalid]
    constructor
    · intro hnone salt hsalt
      exact absurd hsalt (hnone salt)
    · intro hall salt hsalt
      exact hvalid (hall salt hsalt).1

/-! ### The artifact -/

/-- The state of the stores is one that the ladder erases: no mirror holds the subject,
the subject's row is live or nothing is left of it in Postgres, ClickHouse reads the
condition as meant wherever the subject is, and every usable key is the one destroyed. -/
structure Erasable (manifest : Option (List ManifestTarget)) (clickhouse : ClickHouse)
    (command : EraseSubjectCommand) (s : Stores) : Prop where
  ch : ∀ target ∈ loadErasureTargetsFromManifest manifest, target.hasCustomerRef = true →
    command.subject ∈ s.ch target.table → ∃ selects,
      clickhouse (subjectCondition command.subject) = some selects ∧
        selects command.subject = true
  mirrors : ∀ table ∈ registeredMirrors manifest, command.subject ∉ s.pg.mirrors table
  row : HasLiveRow s.pg command.subject ∨
    ((∀ edge ∈ s.pg.edges, edge.mentions command.subject = false) ∧
      ∀ row ∈ s.pg.customerPii.rows, row.subject = command.subject → row.Blank)
  keys : ∀ salt, Decrypts s.vault (buildDekKeyId command.subject salt) →
    isValidDekKeyId (buildDekKeyId command.subject command.saltVersion) = true ∧
      buildDekKeyId command.subject salt =
        buildDekKeyId command.subject command.saltVersion

/-- The condition under which an all-zero artifact is true: after a completed request
there must be nothing left already. -/
def TruthfullyZero (manifest : Option (List ManifestTarget)) (clickhouse : ClickHouse)
    (command : EraseSubjectCommand) (s : Stores) : Prop :=
  if (s.pg.requests.existing command.subject).any (fun r => r.status = .completed) then
    Erased manifest command.subject s
  else Erasable manifest clickhouse command s

/-- The process: its environment variables, the manifest and the database server. -/
structure ErasureProcess where
  erasureOrchestrator : Option String
  custodyBacking : Option String
  manifest : Option (List ManifestTarget)
  clickhouse : ClickHouse

def ErasureProcess.settings (p : ErasureProcess) : ErasureSettings where
  erasureOrchestrator := p.erasureOrchestrator
  custodyBacking := p.custodyBacking
  targets := loadErasureTargetsFromManifest p.manifest
  clickhouse := p.clickhouse

/-- Two states with the same data of the subjects; their requests may differ. -/
structure SameData (s s' : Stores) : Prop where
  customerPii : s'.pg.customerPii = s.pg.customerPii
  edges : s'.pg.edges = s.pg.edges
  mirrors : s'.pg.mirrors = s.pg.mirrors
  ch : s'.ch = s.ch
  vault : s'.vault = s.vault

theorem SameData.erased_iff {s s' : Stores} (h : SameData s s')
    (manifest : Option (List ManifestTarget)) (subject : Subject) :
    Erased manifest subject s' ↔ Erased manifest subject s := by
  constructor
  · rintro ⟨hch, hmirrors, hedges, hpii, hkeys⟩
    rw [h.ch] at hch
    rw [h.mirrors] at hmirrors
    rw [h.edges] at hedges
    rw [h.customerPii] at hpii
    rw [h.vault] at hkeys
    exact ⟨hch, hmirrors, hedges, hpii, hkeys⟩
  · rintro ⟨hch, hmirrors, hedges, hpii, hkeys⟩
    constructor
    · rwa [h.ch]
    · rwa [h.mirrors]
    · rwa [h.edges]
    · rwa [h.customerPii]
    · rwa [h.vault]

/-- What the tiers leave when they all verify. -/
theorem LadderDone.erased_iff {p : ErasureProcess} {command : EraseSubjectCommand}
    {env : EraseEnv} {erasureId : String} {s s' : Stores} {ladder : Ladder}
    (h : LadderDone p.settings command env erasureId s ladder s')
    (href : command.subject.customerRef ≠ "")
    (hzero : TiersVerify p.settings command env s) :
    Erased p.manifest command.subject s' ↔ Erasable p.manifest p.clickhouse command s := by
  have hch : ∀ target ∈ loadErasureTargetsFromManifest p.manifest,
      target.hasCustomerRef = true → (command.subject ∉ s'.ch target.table ↔
        (command.subject ∈ s.ch target.table → ∃ selects,
          p.clickhouse (subjectCondition command.subject) = some selects ∧
            selects command.subject = true)) := by
    intro target htarget hcarries
    rw [h.ch]
    exact chTiers_erased_iff href hzero.1 htarget hcarries
  have hmirrors : s'.pg.mirrors = s.pg.mirrors := h.mirrors.trans (wipePgPii_mirrors _ _ _)
  have hkeys := keys_erased_iff erasureId hzero.2
    ⟨s.vault, (wipePgPii s.pg command.subject env.wipedNow).2.ledger, [], []⟩
  have hvault : s'.vault = (shredTiers (p.settings.custodyBacking.getD "local-aesgcm") erasureId
      (buildDekKeyId command.subject command.saltVersion)
      ⟨s.vault, (wipePgPii s.pg command.subject env.wipedNow).2.ledger, [], []⟩
      dekTiers).vault := h.vault
  rw [← hvault] at hkeys
  have hrow : ((∀ edge ∈ s'.pg.edges, edge.mentions command.subject = false) ∧
      ∀ row ∈ s'.pg.customerPii.rows, row.subject = command.subject → row.Blank) ↔
      (HasLiveRow s.pg command.subject ∨
        ((∀ edge ∈ s.pg.edges, edge.mentions command.subject = false) ∧
          ∀ row ∈ s.pg.customerPii.rows, row.subject = command.subject → row.Blank)) := by
    rw [h.edges, h.customerPii]
    by_cases hlive : HasLiveRow s.pg command.subject
    · exact iff_of_true (wipePgPii_live hlive _) (Or.inl hlive)
    · rw [wipePgPii_dead hlive]
      constructor
      · exact Or.inr
      · rintro (hl | hblank)
        · exact absurd hl hlive
        · exact hblank
  constructor
  · intro he
    refine ⟨fun target htarget hcarries => ?_, ?_, hrow.mp ⟨he.edges, he.pii⟩,
      hkeys.mp he.keys⟩
    · exact (hch target htarget hcarries).mp (he.ch target htarget hcarries)
    · rw [← hmirrors]
      exact he.mirrors
  · intro he
    obtain ⟨hedges, hpii⟩ := hrow.mpr he.row
    refine ⟨fun target htarget hcarries => ?_, ?_, hedges, hpii, hkeys.mpr he.keys⟩
    · exact (hch target htarget hcarries).mpr (he.ch target htarget hcarries)
    · rw [hmirrors]
      exact he.mirrors

/-- Phase 1 changes the requests only, and finds a completed request if there is one. -/
theorem beginErasure_data {command : EraseSubjectCommand} {env : EraseEnv} {s : Stores} {pg : Pg}
    {request : SubjectErasureRequest}
    (h : beginErasure command env s.pg = .ok (request, pg)) :
    SameData s { s with pg := pg } ∧
      (request.status = .completed ↔
        (s.pg.requests.existing command.subject).any (fun r => r.status = .completed) = true) := by
  unfold beginErasure at h
  cases hcreate : getOrCreateErasureRequest s.pg.requests command.subject
    command.requestedByUserId env.requestedNow env.freshId with
  | none =>
    rw [hcreate] at h
    cases h
  | some result =>
    obtain ⟨request', table⟩ := result
    rw [hcreate] at h
    have hstatus : request'.status = .completed ↔
        (s.pg.requests.existing command.subject).any (fun r => r.status = .completed) = true := by
      unfold getOrCreateErasureRequest at hcreate
      cases hexisting : s.pg.requests.existing command.subject with
      | some old =>
        rw [hexisting] at hcreate
        cases hcreate
        simp
      | none =>
        rw [hexisting] at hcreate
        simp only [RequestTable.insert] at hcreate
        split at hcreate
        · cases hcreate
        · cases hcreate
          simp [newRequest]
    simp only at h
    split at h
    · cases h
      exact ⟨⟨rfl, rfl, rfl, rfl, rfl⟩, hstatus⟩
    · split at h
      · cases h
      · cases h
        exact ⟨⟨rfl, rfl, rfl, rfl, rfl⟩, hstatus⟩

theorem finishErasure_data (env : EraseEnv) (id : String) (ladder : Ladder) (s : Stores) :
    SameData s { s with pg := (finishErasure env id ladder s.pg).2 } := by
  unfold finishErasure
  cases env.finish <;> exact ⟨rfl, rfl, rfl, rfl, rfl⟩

/-- An artifact of an executed ladder: what it says, and what the ladder left. -/
theorem executeErasure_ok {settings : ErasureSettings} {command : EraseSubjectCommand}
    {env : EraseEnv} {erasureId : String} {s s' : Stores}
    {artifact : ErasureVerificationArtifact}
    (h : executeErasure settings command env erasureId s = (.ok artifact, s')) :
    ∃ ladder done, LadderDone settings command env erasureId s ladder done ∧
      artifact.allZero = ladder.allZero ∧ SameData done s' := by
  unfold executeErasure at h
  by_cases hcommits : env.wipe = .committed ∧ env.shred = .committed ∧ env.audit = .committed
  · obtain ⟨ladder, done, hrun, hdone⟩ := runLadder_ok settings command env erasureId s
      hcommits.1 hcommits.2.1 hcommits.2.2
    rw [hrun] at h
    have hdata := finishErasure_data env erasureId ladder done
    simp only at h
    generalize finishErasure env erasureId ladder done.pg = finished at h hdata
    obtain ⟨finished, pg⟩ := finished
    cases finished with
    | error e => cases h
    | ok u =>
      cases h
      exact ⟨ladder, done, hdone, rfl, hdata⟩
  · obtain ⟨e, done, hrun⟩ := runLadder_error settings command env erasureId s hcommits
    rw [hrun] at h
    cases h

section Example

/-- The manifest of the repository, without its view. -/
def generatedManifest : List ManifestTarget :=
  [⟨"brain.connector_raw_events", "bronze", some "clickhouse", none⟩,
    ⟨"brain.connector_order_facts", "silver_fact", some "clickhouse", none⟩,
    ⟨"connector_order_facts_hot", "silver_fact_pg_mirror", some "postgres", none⟩]

def exampleProcess : ErasureProcess where
  erasureOrchestrator := some "true"
  custodyBacking := none
  manifest := some generatedManifest
  clickhouse condition := some fun row => condition = subjectCondition row

/-- The order of the subject is in ClickHouse and in the mirror. -/
def mirroredStores : Stores :=
  { requestedStores with
    pg := { requestedStores.pg with
      mirrors := fun table => if table = "connector_order_facts_hot" then [exampleSubject] else [] } }

end Example

end BrainV2.Consent
