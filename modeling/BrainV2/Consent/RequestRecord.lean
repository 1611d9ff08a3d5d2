import BrainV2.Consent.EraseSubject
import BrainV2.Lib.Runs

/-!
# The request as evidence

A request is evidence of an erasure when its verification time, its status and
its failure reason agree. The ladder writes them in one statement that keeps
what it is not given, also on a request that was tried before.

* `runLadder_ok`, `LadderDone.allZero_iff`: when the tiers run to their end,
  and when they all verify;
* `eraseSubject_consistent_iff`: when one call leaves the record of its request consistent;
* `records_consistent_iff`: when the records agree throughout a run;
* `retried_erasure_inconsistent`: a run in which they do not.
-/

namespace BrainV2.Consent

section Ladder

variable {settings : ErasureSettings} {command : EraseSubjectCommand} {env : EraseEnv}

theorem withSuperadmin_requests {α : Type} {e : String → String} (outcome : TxOutcome) (pg : Pg)
    {fn : Pg → Except String (α × Pg)}
    (h : ∀ v p, fn pg = .ok (v, p) → p.requests = pg.requests) :
    (withSuperadmin e outcome pg fn).2.requests = pg.requests := by
  unfold withSuperadmin
  cases hfn : fn pg with
  | error m => cases outcome <;> rfl
  | ok result =>
    obtain ⟨v, p⟩ := result
    cases outcome with
    | refused m => rfl
    | committed => exact h v p hfn
    | rolledBack m => rfl
    | unacknowledged m => exact h v p hfn

theorem wipePgPii_requests (pg : Pg) (subject : Subject) (now : Time) :
    (wipePgPii pg subject now).2.requests = pg.requests := by
  unfold wipePgPii
  split
  · rfl
  · split <;> rfl

/-- The wiped row is tombstoned, so nothing is counted afterwards. -/
theorem wipePgPii_verified (pg : Pg) (subject : Subject) (now : Time) :
    (wipePgPii pg subject now).1.verified = true := by
  unfold wipePgPii
  split
  · rfl
  · split
    · rfl
    · have hcount : ((pg.customerPii.wipe subject now).rows.countP fun row =>
          row.subject = subject && row.tombstonedAt.isNone) = 0 := by
        apply List.countP_eq_zero.mpr
        intro row hrow
        simp only [CustomerPiiTable.wipe, wipeRows, List.mem_map] at hrow
        obtain ⟨old, -, rfl⟩ := hrow
        by_cases hold : old.subject = subject
        · simp [hold, CustomerPii.wipe]
        · simp [hold]
      simp [pgTier, hcount]

/-- The tiers do not touch the table of requests. -/
theorem runLadder_requests (settings : ErasureSettings) (command : EraseSubjectCommand)
    (env : EraseEnv) (erasureId : String) (s : Stores) :
    (runLadder settings command env erasureId s).2.pg.requests = s.pg.requests := by
  have hwipe : (withSuperadmin id env.wipe s.pg fun pg =>
      .ok (wipePgPii pg command.subject env.wipedNow)).2.requests = s.pg.requests := by
    apply withSuperadmin_requests
    intro v p h
    have hp := congrArg Prod.snd (Except.ok.inj h)
    rw [← show (wipePgPii s.pg command.subject env.wipedNow).2 = p from hp]
    exact wipePgPii_requests _ _ _
  unfold runLadder
  generalize withSuperadmin id env.wipe s.pg
    (fun pg => .ok (wipePgPii pg command.subject env.wipedNow)) = wiped at hwipe ⊢
  obtain ⟨wiped, pg⟩ := wiped
  cases wiped with
  | error e => exact hwipe
  | ok pgResult =>
    simp only
    generalize hs : withSuperadmin id env.shred pg _ = shredded
    have hshred := congrArg (fun r => r.2.requests) hs
    rw [withSuperadmin_requests env.shred pg (by intro v p h; cases h; rfl)] at hshred
    obtain ⟨shredded, pg'⟩ := shredded
    cases shredded with
    | error e => exact hshred.symm.trans hwipe
    | ok u =>
      simp only
      generalize ha : withSuperadmin id env.audit pg' _ = audited
      have haudit := congrArg (fun r => r.2.requests) ha
      rw [withSuperadmin_requests env.audit pg' (by intro v p h; cases h; rfl)] at haudit
      obtain ⟨audited, pg''⟩ := audited
      cases audited with
      | error e => exact haudit.symm.trans (hshred.symm.trans hwipe)
      | ok id => exact haudit.symm.trans (hshred.symm.trans hwipe)

/-- What the tiers leave when all their transactions commit. -/
def ladderShred (settings : ErasureSettings) (command : EraseSubjectCommand) (env : EraseEnv)
    (erasureId : String) (s : Stores) : Shred :=
  shredTiers (settings.custodyBacking.getD "local-aesgcm") erasureId
    (buildDekKeyId command.subject command.saltVersion)
    ⟨s.vault, (wipePgPii s.pg command.subject env.wipedNow).2.ledger, [], []⟩ dekTiers

structure LadderDone (settings : ErasureSettings) (command : EraseSubjectCommand) (env : EraseEnv)
    (erasureId : String) (s : Stores) (ladder : Ladder) (s' : Stores) : Prop where
  tiers : ladder.tiers = (wipePgPii s.pg command.subject env.wipedNow).1 ::
    (eraseAndVerifyChTiers settings.clickhouse command.subject env.clickhouse settings.targets
      s.ch).1 ++ (ladderShred settings command env erasureId s).results
  customerPii : s'.pg.customerPii = (wipePgPii s.pg command.subject env.wipedNow).2.customerPii
  edges : s'.pg.edges = (wipePgPii s.pg command.subject env.wipedNow).2.edges
  mirrors : s'.pg.mirrors = (wipePgPii s.pg command.subject env.wipedNow).2.mirrors
  ch : s'.ch = (eraseAndVerifyChTiers settings.clickhouse command.subject env.clickhouse
    settings.targets s.ch).2
  vault : s'.vault = (ladderShred settings command env erasureId s).vault

/-- The tiers run to their end when their transactions commit. -/
theorem runLadder_ok (settings : ErasureSettings) (command : EraseSubjectCommand)
    (env : EraseEnv) (erasureId : String) (s : Stores) (hwipe : env.wipe = .committed)
    (hshred : env.shred = .committed) (haudit : env.audit = .committed) :
    ∃ ladder s', runLadder settings command env erasureId s = (.ok ladder, s') ∧
      LadderDone settings command env erasureId s ladder s' := by
  let wiped := wipePgPii s.pg command.subject env.wipedNow
  let ch := eraseAndVerifyChTiers settings.clickhouse command.subject env.clickhouse
    settings.targets s.ch
  let shred := ladderShred settings command env erasureId s
  refine ⟨⟨wiped.1 :: ch.1 ++ shred.results, shred.dekDestroyedTiers, env.auditId⟩,
    ⟨writeAuditLogEntry { wiped.2 with ledger := shred.ledger } ⟨env.auditId, command.subject,
      command.requestedByUserId.getD "00000000-0000-0000-0000-000000000001", erasureId⟩,
      ch.2, shred.vault⟩, ?_, ?_⟩
  · unfold runLadder
    simp only [hwipe, hshred, haudit, withSuperadmin]
    rfl
  · constructor <;> rfl

theorem runLadder_error (settings : ErasureSettings) (command : EraseSubjectCommand)
    (env : EraseEnv) (erasureId : String) (s : Stores)
    (h : ¬ (env.wipe = .committed ∧ env.shred = .committed ∧ env.audit = .committed)) :
    ∃ e s', runLadder settings command env erasureId s = (.error e, s') := by
  unfold runLadder
  cases hwipe : env.wipe with
  | refused m => exact ⟨_, _, rfl⟩
  | rolledBack m => exact ⟨_, _, rfl⟩
  | unacknowledged m => exact ⟨_, _, rfl⟩
  | committed =>
    cases hshred : env.shred with
    | refused m => exact ⟨_, _, rfl⟩
    | rolledBack m => exact ⟨_, _, rfl⟩
    | unacknowledged m => exact ⟨_, _, rfl⟩
    | committed =>
      cases haudit : env.audit with
      | refused m => exact ⟨_, _, rfl⟩
      | rolledBack m => exact ⟨_, _, rfl⟩
      | unacknowledged m => exact ⟨_, _, rfl⟩
      | committed => exact absurd ⟨hwipe, hshred, haudit⟩ h

/-- The target comes out at zero: nothing of the subject is in scope there, or its
commands succeed and no row that the condition selects is left to count. -/
def TargetVerifies (clickhouse : ClickHouse) (subject : Subject) (answer : ChAnswer)
    (target : ErasureTarget) (ch : String → List Subject) : Prop :=
  target.hasCustomerRef = true → 10 ≤ subject.workspaceIdLength ∧ answer.failed = false ∧
    ∃ selects, clickhouse (subjectCondition subject) = some selects ∧
      (answer.mutated = true ∨ ∀ row ∈ ch target.table, selects row = false)

theorem eraseChTarget_verified_iff (clickhouse : ClickHouse) {subject : Subject}
    (answer : ChAnswer) (target : ErasureTarget) (ch : String → List Subject)
    (href : subject.customerRef ≠ "") :
    (eraseChTarget clickhouse subject answer target ch).1.verified = true ↔
      TargetVerifies clickhouse subject answer target ch := by
  unfold eraseChTarget TargetVerifies
  by_cases hcarries : target.hasCustomerRef = true
  · simp only [hcarries, Bool.not_true, Bool.false_eq_true, if_false, forall_const]
    by_cases hshort : subject.workspaceId = "" ∨ subject.customerRef = "" ∨
        subject.workspaceIdLength < 10
    · rw [if_pos hshort]
      have hlength : subject.workspaceIdLength < 10 := by
        obtain h | h | h := hshort
        · rw [Subject.workspaceIdLength, h]
          decide
        · exact absurd h href
        · exact h
      constructor
      · intro h
        cases h
      · rintro ⟨h, -⟩
        omega
    · rw [if_neg hshort]
      have hlength : 10 ≤ subject.workspaceIdLength := by
        by_contra h
        exact hshort (Or.inr (Or.inr (by omega)))
      cases hparse : clickhouse (subjectCondition subject) with
      | none => simp [chTier]
      | some selects =>
        cases hfailed : answer.failed with
        | true => simp [chTier]
        | false =>
          cases hmutated : answer.mutated with
          | true => simp [chTier, hlength, Function.update_self, List.countP_filter]
          | false => simp [chTier, hlength, List.countP_eq_zero]
  · simp [hcarries, chTier]

/-- Every target verifies, in the order in which they are handled. -/
def ChTiersVerify (clickhouse : ClickHouse) (subject : Subject) :
    (Nat → ChAnswer) → List ErasureTarget → (String → List Subject) → Prop
  | _, [], _ => True
  | answers, target :: targets, ch =>
    TargetVerifies clickhouse subject (answers 0) target ch ∧
      ChTiersVerify clickhouse subject (fun n => answers (n + 1)) targets
        (eraseChTarget clickhouse subject (answers 0) target ch).2

theorem chTiers_verified_iff (clickhouse : ClickHouse) {subject : Subject}
    (href : subject.customerRef ≠ "") (targets : List ErasureTarget) (answers : Nat → ChAnswer)
    (ch : String → List Subject) :
    (eraseAndVerifyChTiers clickhouse subject answers targets ch).1.all (·.verified) = true ↔
      ChTiersVerify clickhouse subject answers targets ch := by
  induction targets generalizing answers ch with
  | nil => simp [eraseAndVerifyChTiers, ChTiersVerify]
  | cons target targets ih =>
    simp only [eraseAndVerifyChTiers, ChTiersVerify, List.all_cons, Bool.and_eq_true]
    rw [eraseChTarget_verified_iff clickhouse _ _ _ href, ih]

theorem destroyDek_outcome (backend : String) (vault : List (String × String))
    (dekKeyId : String) :
    (destroyDek backend vault dekKeyId).1.outcome ≠ .error ↔ backend ≠ "kms" := by
  unfold destroyDek
  by_cases hkms : backend = "kms"
  · simp [hkms]
  · rw [if_neg hkms]
    split <;> simp [hkms]

/-- The keys count as verified unless the vault is the one that is not deployed. -/
theorem shredTiers_verified_iff (backend erasureId dekKeyId : String) (tiers : List DekTier)
    (s : Shred) :
    (shredTiers backend erasureId dekKeyId s tiers).results.all (·.verified) = true ↔
      s.results.all (·.verified) = true ∧
        (tiers ≠ [] → isValidDekKeyId dekKeyId = true → backend ≠ "kms") := by
  induction tiers generalizing s with
  | nil => simp [shredTiers]
  | cons tier tiers ih =>
    unfold shredTiers
    by_cases hvalid : isValidDekKeyId dekKeyId = true
    · have htier : (shredTier backend erasureId dekKeyId tier s).results.all (·.verified) = true ↔
          s.results.all (·.verified) = true ∧ backend ≠ "kms" := by
        simp only [shredTier, List.all_append, List.all_cons, List.all_nil, Bool.and_true,
          Bool.and_eq_true, decide_eq_true_eq]
        rw [destroyDek_outcome]
      rw [if_pos hvalid, ih, htier]
      simp only [hvalid, ne_eq, reduceCtorEq, not_false_eq_true, forall_const]
      constructor
      · rintro ⟨⟨hs, hkms⟩, -⟩
        exact ⟨hs, hkms⟩
      · rintro ⟨hs, hkms⟩
        exact ⟨⟨hs, hkms⟩, fun _ => hkms⟩
    · rw [if_neg hvalid, ih]
      simp [hvalid]

/-- Every tier of the call comes out at zero. -/
def TiersVerify (settings : ErasureSettings) (command : EraseSubjectCommand) (env : EraseEnv)
    (s : Stores) : Prop :=
  ChTiersVerify settings.clickhouse command.subject env.clickhouse settings.targets s.ch ∧
    (isValidDekKeyId (buildDekKeyId command.subject command.saltVersion) = true →
      settings.custodyBacking.getD "local-aesgcm" ≠ "kms")

theorem LadderDone.allZero_iff {settings : ErasureSettings} {command : EraseSubjectCommand}
    {env : EraseEnv} {erasureId : String} {s s' : Stores} {ladder : Ladder}
    (h : LadderDone settings command env erasureId s ladder s')
    (href : command.subject.customerRef ≠ "") :
    ladder.allZero = true ↔ TiersVerify settings command env s := by
  unfold Ladder.allZero TiersVerify
  rw [h.tiers, List.all_append, List.all_cons, wipePgPii_verified, Bool.true_and,
    Bool.and_eq_true, chTiers_verified_iff _ href, ladderShred, shredTiers_verified_iff]
  simp [dekTiers]

end Ladder

section Record

/-- The verification time, the status and the failure reason of the request agree. -/
structure Consistent (r : SubjectErasureRequest) : Prop where
  verified : r.countZeroVerifiedAt.isSome = true ↔ r.status = .completed
  reason : r.status = .completed → r.failureReason = none

def RecordsConsistent (table : RequestTable) : Prop := ∀ r ∈ table.rows, Consistent r

/-- A completed request stays completed. -/
def StaysCompleted (table table' : RequestTable) : Prop :=
  ∀ r ∈ table.rows, r.status = .completed →
    ∃ r' ∈ table'.rows, r'.id = r.id ∧ r'.status = .completed

/-- The rows of the other requests are the same. -/
def SameOthers (id : String) (table table' : RequestTable) : Prop :=
  ∀ r : SubjectErasureRequest, r.id ≠ id → (r ∈ table'.rows ↔ r ∈ table.rows)

theorem SameOthers.refl (id : String) (table : RequestTable) : SameOthers id table table :=
  fun _ _ => Iff.rfl

theorem SameOthers.trans {id : String} {t t' t'' : RequestTable} (h : SameOthers id t t')
    (h' : SameOthers id t' t'') : SameOthers id t t'' :=
  fun r hr => (h' r hr).trans (h r hr)

theorem sameOthers_update (table : RequestTable) (id : String) (status : ErasureStatus)
    (extra : StatusExtra) : SameOthers id table (updateErasureStatus table id status extra) := by
  intro r hr
  rw [mem_updateErasureStatus]
  constructor
  · rintro (⟨old, -, hid, rfl⟩ | ⟨h, -⟩)
    · exact absurd hid hr
    · exact h
  · intro h
    exact Or.inr ⟨h, hr⟩

theorem staysCompleted_of_sameOthers {id : String} {table table' : RequestTable}
    (h : SameOthers id table table') (hid : ∀ r ∈ table.rows, r.id = id → r.status ≠ .completed) :
    StaysCompleted table table' := by
  intro r hr hcompleted
  have hne : r.id ≠ id := fun heq => hid r hr heq hcompleted
  exact ⟨r, (h r hne).mpr hr, rfl, hcompleted⟩

/-- The one row of the request decides whether the table stays consistent. -/
theorem recordsConsistent_iff {id : String} {table table' : RequestTable}
    {row : SubjectErasureRequest} (hrow : row ∈ table'.rows) (hid : row.id = id)
    (hothers : SameOthers id table table') (h : RecordsConsistent table) :
    RecordsConsistent table' ↔ Consistent row := by
  constructor
  · intro htable'
    exact htable' row hrow
  · intro hcons r hr
    by_cases hr' : r.id = id
    · rw [table'.eq_of_id hr hrow (hr'.trans hid.symm)]
      exact hcons
    · exact h r ((hothers r hr').mp hr)

theorem update_mem {table : RequestTable} {row : SubjectErasureRequest} (hrow : row ∈ table.rows)
    (status : ErasureStatus) (extra : StatusExtra) :
    row.update status extra ∈ (updateErasureStatus table row.id status extra).rows :=
  mem_updateErasureStatus.mpr (Or.inl ⟨row, hrow, rfl, rfl⟩)

/-- What phase 1 leaves when the request was not completed before: one row that is
executing, with the verification time and the reason it had. -/
structure Begun (table table' : RequestTable) (request row : SubjectErasureRequest) : Prop where
  mem : row ∈ table'.rows
  id : row.id = request.id
  status : row.status = .executing
  verifiedAt : row.countZeroVerifiedAt = request.countZeroVerifiedAt
  reason : row.failureReason = request.failureReason
  others : SameOthers request.id table table'
  known : request ∈ table.rows ∨ (request.countZeroVerifiedAt = none ∧
    ∀ r ∈ table.rows, r.id ≠ request.id)

theorem beginErasure_ok {command : EraseSubjectCommand} {env : EraseEnv} {pg pg' : Pg}
    {request : SubjectErasureRequest} (h : beginErasure command env pg = .ok (request, pg')) :
    (request.status = .completed ∧ request ∈ pg.requests.rows ∧ pg' = pg) ∨
      (request.status ≠ .completed ∧
        ∃ row, Begun pg.requests pg'.requests request row) := by
  unfold beginErasure at h
  cases hcreate : getOrCreateErasureRequest pg.requests command.subject
    command.requestedByUserId env.requestedNow env.freshId with
  | none =>
    rw [hcreate] at h
    cases h
  | some result =>
    obtain ⟨request', table⟩ := result
    rw [hcreate] at h
    simp only at h
    obtain ⟨hmem, hknown⟩ := getOrCreate_some hcreate
    by_cases hcompleted : request'.status = .completed
    · rw [if_pos hcompleted] at h
      cases h
      obtain ⟨hold, rfl⟩ | ⟨rfl, -⟩ := hknown
      · exact Or.inl ⟨hcompleted, hold, rfl⟩
      · cases hcompleted
    · rw [if_neg hcompleted] at h
      split at h
      · cases h
      · cases h
        refine Or.inr ⟨hcompleted, ?_⟩
        have hsame : SameOthers request.id pg.requests table := by
          obtain ⟨-, rfl⟩ | ⟨-, hrows⟩ := hknown
          · exact SameOthers.refl _ _
          · intro r hr
            rw [hrows, List.mem_cons]
            constructor
            · rintro (rfl | h)
              · exact absurd rfl hr
              · exact h
            · exact Or.inr
        have hreset : ∃ row, row ∈ (if request.status = .failed then
              updateErasureStatus table request.id .pending {} else table).rows ∧
            row.id = request.id ∧ row.countZeroVerifiedAt = request.countZeroVerifiedAt ∧
            row.failureReason = request.failureReason := by
          by_cases hfailed : request.status = .failed
          · rw [if_pos hfailed]
            exact ⟨_, update_mem hmem _ _, rfl, rfl, rfl⟩
          · rw [if_neg hfailed]
            exact ⟨request, hmem, rfl, rfl, rfl⟩
        obtain ⟨row, hrow, hid, hverified, hreason⟩ := hreset
        refine ⟨row.update .executing { executedAt := some env.requestedNow }, ?_⟩
        constructor
        · have hupdate := update_mem hrow .executing { executedAt := some env.requestedNow }
          rw [hid] at hupdate
          exact hupdate
        · exact hid
        · rfl
        · exact hverified
        · exact hreason
        · refine hsame.trans (SameOthers.trans ?_ (sameOthers_update _ _ _ _))
          split
          · exact sameOthers_update _ _ _ _
          · exact SameOthers.refl _ _
        · obtain ⟨hold, -⟩ | ⟨hnew, hrows⟩ := hknown
          · exact Or.inl hold
          · refine Or.inr ⟨by rw [hnew]; rfl, ?_⟩
            have hunique := table.uniqueIds
            rw [hrows, List.map_cons, List.nodup_cons] at hunique
            intro r hr heq
            exact hunique.1 (List.mem_map.mpr ⟨r, hr, heq⟩)

/-- The call comes to its last update, and the update takes effect. -/
structure Finishes (env : EraseEnv) : Prop where
  wipe : env.wipe = .committed
  shred : env.shred = .committed
  audit : env.audit = .committed
  finish : env.finish.applied = true

theorem failErasure_requests (env : EraseEnv) (id message : String) (pg : Pg) :
    (failErasure env id message pg).requests =
      if env.fail.applied then
        updateErasureStatus pg.requests id .failed { failureReason := some message }
      else pg.requests := by
  unfold failErasure
  cases env.fail <;> rfl

theorem finishErasure_requests (env : EraseEnv) (id : String) (ladder : Ladder) (pg : Pg) :
    (finishErasure env id ladder pg).2.requests =
      if env.finish.applied then
        updateErasureStatus pg.requests id (if ladder.allZero then .completed else .failed)
          { countZeroVerifiedAt := some env.verifiedNow
            failureReason := if ladder.allZero then none
              else some "COUNT>0 on one or more tiers after erasure" }
      else pg.requests := by
  unfold finishErasure
  cases env.finish <;> rfl

theorem finishErasure_result (env : EraseEnv) (id : String) (ladder : Ladder) (pg : Pg) :
    (env.finish = .committed ∧ (finishErasure env id ladder pg).1 = .ok ()) ∨
      (env.finish ≠ .committed ∧ ∃ e, (finishErasure env id ladder pg).1 = .error e) := by
  unfold finishErasure
  cases env.finish with
  | committed => exact Or.inl ⟨rfl, rfl⟩
  | refused m => exact Or.inr ⟨by simp, m, rfl⟩
  | rolledBack m => exact Or.inr ⟨by simp, m, rfl⟩
  | unacknowledged m => exact Or.inr ⟨by simp, m, rfl⟩

/-- What the catch block writes on a request that is not verified agrees. -/
theorem failed_consistent {row : SubjectErasureRequest} (hrow : row.countZeroVerifiedAt = none)
    (message : String) :
    Consistent (row.update .failed { failureReason := some message }) := by
  constructor
  · simp [hrow]
  · intro h
    cases h

theorem executing_consistent {row : SubjectErasureRequest}
    (hrow : row.countZeroVerifiedAt = none) (hstatus : row.status = .executing) :
    Consistent row := by
  constructor
  · simp [hrow, hstatus]
  · intro h
    rw [hstatus] at h
    cases h

theorem finished_consistent_iff {row : SubjectErasureRequest} (allZero : Bool) (now : Time) :
    Consistent (row.update (if allZero then .completed else .failed)
      { countZeroVerifiedAt := some now
        failureReason := if allZero then none
          else some "COUNT>0 on one or more tiers after erasure" }) ↔
      allZero = true ∧ row.failureReason = none := by
  cases allZero with
  | true =>
    constructor
    · intro h
      exact ⟨rfl, by simpa using h.reason rfl⟩
    · rintro ⟨-, hreason⟩
      exact ⟨by simp, fun _ => by simpa using hreason⟩
  | false =>
    constructor
    · intro h
      exact absurd (h.verified.mp (by simp)) (by simp)
    · rintro ⟨h, -⟩
      cases h

theorem executeErasure_others (settings : ErasureSettings) (command : EraseSubjectCommand)
    (env : EraseEnv) (id : String) (s : Stores) :
    SameOthers id s.pg.requests (executeErasure settings command env id s).2.pg.requests := by
  have hfail : ∀ message (pg : Pg), SameOthers id pg.requests
      (failErasure env id message pg).requests := by
    intro message pg
    rw [failErasure_requests]
    split
    · exact sameOthers_update _ _ _ _
    · exact SameOthers.refl _ _
  have hladder := runLadder_requests settings command env id s
  unfold executeErasure
  generalize runLadder settings command env id s = result at hladder ⊢
  obtain ⟨ladder, s'⟩ := result
  cases ladder with
  | error e =>
    rw [← hladder]
    exact hfail _ _
  | ok ladder =>
    have hfinish : SameOthers id s'.pg.requests
        (finishErasure env id ladder s'.pg).2.requests := by
      rw [finishErasure_requests]
      split
      · exact sameOthers_update _ _ _ _
      · exact SameOthers.refl _ _
    rw [← hladder]
    simp only
    generalize finishErasure env id ladder s'.pg = finished at hfinish ⊢
    obtain ⟨finished, pg'⟩ := finished
    cases finished with
    | error e => exact hfinish.trans (hfail _ _)
    | ok u => exact hfinish

/-- The record after the last update of a call. -/
theorem stamped_consistent_iff {table : RequestTable} {row : SubjectErasureRequest}
    (hrow : row ∈ table.rows) (h : RecordsConsistent table) (allZero : Bool) (now : Time) :
    RecordsConsistent (updateErasureStatus table row.id (if allZero then .completed else .failed)
      { countZeroVerifiedAt := some now
        failureReason := if allZero then none
          else some "COUNT>0 on one or more tiers after erasure" }) ↔
      allZero = true ∧ row.failureReason = none :=
  (recordsConsistent_iff (update_mem hrow _ _) rfl (sameOthers_update _ _ _ _) h).trans
    (finished_consistent_iff _ _)

/-- The catch block behind an update with a time leaves a stamped row that is failed. -/
theorem not_consistent_of_stamped {table : RequestTable} {row : SubjectErasureRequest}
    (hrow : row ∈ table.rows) (status : ErasureStatus) (extra : StatusExtra) (message : String)
    (hstamp : extra.countZeroVerifiedAt.isSome = true) :
    ¬ RecordsConsistent (updateErasureStatus (updateErasureStatus table row.id status extra) row.id
      .failed { failureReason := some message }) := by
  intro h
  have hlast := h _ (update_mem (update_mem hrow status extra) .failed
    { failureReason := some message })
  obtain ⟨now, hnow⟩ := Option.isSome_iff_exists.mp hstamp
  exact absurd (hlast.verified.mp (by simp [hnow])) (by simp)

/-- A call on an executing request leaves a consistent record exactly when its last
update, if it takes effect, finds every tier at zero and no earlier reason, and is
not followed by the catch block. -/
theorem executeErasure_consistent_iff (settings : ErasureSettings)
    {command : EraseSubjectCommand} (env : EraseEnv) {s : Stores} {row : SubjectErasureRequest}
    (href : command.subject.customerRef ≠ "") (h : RecordsConsistent s.pg.requests)
    (hrow : row ∈ s.pg.requests.rows) (hverified : row.countZeroVerifiedAt = none) :
    RecordsConsistent (executeErasure settings command env row.id s).2.pg.requests ↔
      (Finishes env → TiersVerify settings command env s ∧ row.failureReason = none ∧
        (env.finish = .committed ∨ env.fail.applied = false)) := by
  have hfailed : ∀ message (pg : Pg), pg.requests = s.pg.requests →
      RecordsConsistent (failErasure env row.id message pg).requests := by
    intro message pg hpg
    rw [failErasure_requests, hpg]
    split
    · exact (recordsConsistent_iff (update_mem hrow _ _) rfl (sameOthers_update _ _ _ _) h).mpr
        (failed_consistent hverified message)
    · exact h
  have hladder := runLadder_requests settings command env row.id s
  by_cases hcommits : env.wipe = .committed ∧ env.shred = .committed ∧ env.audit = .committed
  · obtain ⟨hwipe, hshred, haudit⟩ := hcommits
    obtain ⟨ladder, s', hrun, hdone⟩ := runLadder_ok settings command env row.id s hwipe hshred
      haudit
    have hzero := hdone.allZero_iff href
    rw [hrun] at hladder
    have hfinish := finishErasure_requests env row.id ladder s'.pg
    rw [hladder] at hfinish
    have hresult := finishErasure_result env row.id ladder s'.pg
    unfold executeErasure
    rw [hrun]
    simp only
    generalize finishErasure env row.id ladder s'.pg = finished at hfinish hresult ⊢
    obtain ⟨finished, pg'⟩ := finished
    simp only at hfinish hresult
    by_cases happlied : env.finish.applied = true
    · have hfin : Finishes env := ⟨hwipe, hshred, haudit, happlied⟩
      rw [if_pos happlied] at hfinish
      have hafter : RecordsConsistent pg'.requests ↔
          ladder.allZero = true ∧ row.failureReason = none := by
        rw [hfinish]
        exact stamped_consistent_iff hrow h _ _
      obtain ⟨hcommitted, rfl⟩ | ⟨hcommitted, e, rfl⟩ := hresult
      · rw [show RecordsConsistent pg'.requests ↔ _ from hafter, hzero]
        constructor
        · rintro ⟨htiers, hreason⟩ -
          exact ⟨htiers, hreason, Or.inl hcommitted⟩
        · intro hall
          exact ⟨(hall hfin).1, (hall hfin).2.1⟩
      · simp only
        rw [failErasure_requests]
        by_cases hfail : env.fail.applied = true
        · rw [if_pos hfail]
          constructor
          · intro hcons
            rw [hfinish] at hcons
            exact absurd hcons (not_consistent_of_stamped hrow _ _ e rfl)
          · intro hall
            obtain ⟨-, -, hor⟩ := hall hfin
            obtain hor | hor := hor
            · exact absurd hor hcommitted
            · rw [hfail] at hor
              cases hor
        · rw [if_neg hfail, hafter, hzero]
          have hnot : env.fail.applied = false := by simpa using hfail
          constructor
          · rintro ⟨htiers, hreason⟩ -
            exact ⟨htiers, hreason, Or.inr hnot⟩
          · intro hall
            exact ⟨(hall hfin).1, (hall hfin).2.1⟩
    · rw [if_neg happlied] at hfinish
      refine ⟨fun _ hfin => absurd hfin.finish happlied, fun _ => ?_⟩
      cases finished with
      | error e => exact hfailed e pg' hfinish
      | ok u =>
        show RecordsConsistent pg'.requests
        rw [hfinish]
        exact h
  · obtain ⟨e, s', hrun⟩ := runLadder_error settings command env row.id s hcommits
    rw [hrun] at hladder
    unfold executeErasure
    rw [hrun]
    refine ⟨fun _ hfin => absurd ⟨hfin.wipe, hfin.shred, hfin.audit⟩ hcommits, fun _ => ?_⟩
    exact hfailed e s'.pg hladder

theorem Begun.verified_none {table table' : RequestTable} {request row : SubjectErasureRequest}
    (hb : Begun table table' request row) (hnot : request.status ≠ .completed)
    (h : RecordsConsistent table) : row.countZeroVerifiedAt = none := by
  rw [hb.verifiedAt]
  obtain hold | ⟨hnone, -⟩ := hb.known
  · by_contra hsome
    exact hnot ((h request hold).verified.mp (Option.isSome_iff_ne_none.mpr hsome))
  · exact hnone

theorem Begun.consistent {table table' : RequestTable} {request row : SubjectErasureRequest}
    (hb : Begun table table' request row) (hnot : request.status ≠ .completed)
    (h : RecordsConsistent table) : RecordsConsistent table' :=
  (recordsConsistent_iff hb.mem hb.id hb.others h).mpr
    (executing_consistent (hb.verified_none hnot h) hb.status)

theorem Begun.staysCompleted {table table' table'' : RequestTable}
    {request row : SubjectErasureRequest} (hb : Begun table table' request row)
    (hnot : request.status ≠ .completed) (hsame : SameOthers request.id table' table'') :
    StaysCompleted table table'' := by
  apply staysCompleted_of_sameOthers (hb.others.trans hsame)
  intro r hr hid
  obtain hold | ⟨-, hnew⟩ := hb.known
  · rw [table.eq_of_id hr hold hid]
    exact hnot
  · exact absurd hid (hnew r hr)

/-- The call may come to its last update only if every tier then verifies, no earlier
attempt left a reason, and no commit of it is reported as an error to a catch block
that marks the request failed. -/
def SafeAttempt (settings : ErasureSettings) (s : Stores) (command : EraseSubjectCommand)
    (env : EraseEnv) : Prop :=
  ∀ request pg, settings.erasureOrchestrator = some "true" →
    command.subject.workspaceId ≠ "" → command.subject.customerRef ≠ "" →
    env.request = .committed → beginErasure command env s.pg = .ok (request, pg) →
    request.status ≠ .completed → Finishes env →
    TiersVerify settings command env s ∧ request.failureReason = none ∧
      (env.finish = .committed ∨ env.fail.applied = false)

theorem tiersVerify_pg (settings : ErasureSettings) (command : EraseSubjectCommand)
    (env : EraseEnv) (s : Stores) (pg : Pg) :
    TiersVerify settings command env { s with pg := pg } ↔ TiersVerify settings command env s :=
  Iff.rfl

/-- One call, from a consistent table. -/
theorem eraseSubject_consistent_iff (settings : ErasureSettings) (command : EraseSubjectCommand)
    (env : EraseEnv) {s : Stores} (h : RecordsConsistent s.pg.requests) :
    (RecordsConsistent (eraseSubject settings command env s).2.pg.requests ↔
      SafeAttempt settings s command env) ∧
    StaysCompleted s.pg.requests (eraseSubject settings command env s).2.pg.requests := by
  have hsame : StaysCompleted s.pg.requests s.pg.requests :=
    fun r hr hcompleted => ⟨r, hr, rfl, hcompleted⟩
  unfold eraseSubject
  by_cases hflag : settings.erasureOrchestrator = some "true"
  swap
  · rw [if_pos hflag]
    exact ⟨⟨fun _ request pg h' => absurd h' hflag, fun _ => h⟩, hsame⟩
  rw [if_neg (not_not.mpr hflag)]
  by_cases hsubject : command.subject.workspaceId = "" ∨ command.subject.customerRef = ""
  · rw [if_pos hsubject]
    refine ⟨⟨fun _ request pg _ hws href => ?_, fun _ => h⟩, hsame⟩
    obtain h' | h' := hsubject
    · exact absurd h' hws
    · exact absurd h' href
  rw [if_neg hsubject]
  obtain ⟨-, href⟩ := not_or.mp hsubject
  cases hbegin : beginErasure command env s.pg with
  | error e =>
    have hunchanged : ∃ e', withSuperadmin EraseError.database env.request s.pg
        (beginErasure command env) = (.error e', s.pg) := by
      unfold withSuperadmin
      rw [hbegin]
      cases env.request <;> exact ⟨_, rfl⟩
    obtain ⟨e', he'⟩ := hunchanged
    rw [he']
    refine ⟨⟨fun _ request pg _ _ _ _ hok => ?_, fun _ => h⟩, hsame⟩
    rw [hbegin] at hok
    cases hok
  | ok result =>
    obtain ⟨request, pg⟩ := result
    have hbegun := beginErasure_ok hbegin
    have hcons : RecordsConsistent pg.requests ∧ StaysCompleted s.pg.requests pg.requests := by
      obtain ⟨-, -, rfl⟩ | ⟨hnot, row, hb⟩ := hbegun
      · exact ⟨h, hsame⟩
      · exact ⟨hb.consistent hnot h, hb.staysCompleted hnot (SameOthers.refl _ _)⟩
    have hmissing : env.request ≠ .committed → SafeAttempt settings s command env :=
      fun hne _ _ _ _ _ hreq => absurd hreq hne
    cases hrequest : env.request with
    | refused m =>
      simp only [withSuperadmin]
      exact ⟨iff_of_true h (hmissing (by simp [hrequest])), hsame⟩
    | rolledBack m =>
      simp only [withSuperadmin, hbegin]
      exact ⟨iff_of_true h (hmissing (by simp [hrequest])), hsame⟩
    | unacknowledged m =>
      simp only [withSuperadmin, hbegin]
      exact ⟨iff_of_true hcons.1 (hmissing (by simp [hrequest])), hcons.2⟩
    | committed =>
      simp only [withSuperadmin, hbegin]
      obtain ⟨hcompleted, -, rfl⟩ | ⟨hnot, row, hb⟩ := hbegun
      · rw [if_pos hcompleted]
        refine ⟨iff_of_true h ?_, hsame⟩
        intro request' pg' _ _ _ _ hok hnot'
        rw [hbegin] at hok
        cases hok
        exact absurd hcompleted hnot'
      · rw [if_neg hnot]
        have hnone := hb.verified_none hnot h
        have hexecute := executeErasure_consistent_iff settings env
          (s := { s with pg := pg }) href hcons.1 hb.mem hnone
        rw [hb.id, tiersVerify_pg, hb.reason] at hexecute
        refine ⟨hexecute.trans ⟨?_, ?_⟩, ?_⟩
        · intro hall request' pg' _ _ _ _ hok _ hfin
          rw [hbegin] at hok
          cases hok
          exact hall hfin
        · intro hsafe hfin
          exact hsafe request pg hflag (not_or.mp hsubject).1 href hrequest hbegin hnot hfin
        · exact hb.staysCompleted hnot (executeErasure_others _ _ _ _ _)

/-! ### Runs -/

/-- What happens to the requests: a call, or the scheduler that ends notice windows. -/
inductive ErasureMove where
  | erase (command : EraseSubjectCommand) (env : EraseEnv)
  | endNoticeWindows (now : Time)

def transitionRow (now : Time) (r : SubjectErasureRequest) : SubjectErasureRequest :=
  if r.status = .pending ∧ r.noticeWindowEndsAt ≤ now then { r with status := .noticeWindowEnded }
  else r

def transitionNoticeWindowEndedRequests (now : Time) (table : RequestTable) : RequestTable where
  rows := table.rows.map (transitionRow now)
  uniqueIds := by
    have hids : (table.rows.map (transitionRow now)).map (·.id) = table.rows.map (·.id) := by
      rw [List.map_map]
      apply List.map_congr_left
      intro r _
      simp only [Function.comp, transitionRow]
      split <;> rfl
    rw [hids]
    exact table.uniqueIds

def erasureStep (settings : ErasureSettings) (s : Stores) : ErasureMove → Stores
  | .erase command env => (eraseSubject settings command env s).2
  | .endNoticeWindows now => { s with pg := { s.pg with
      requests := transitionNoticeWindowEndedRequests now s.pg.requests } }

def SafeErasureMove (settings : ErasureSettings) (s : Stores) : ErasureMove → Prop
  | .erase command env => SafeAttempt settings s command env
  | .endNoticeWindows _ => True

theorem transition_consistent (now : Time) {table : RequestTable} (h : RecordsConsistent table) :
    RecordsConsistent (transitionNoticeWindowEndedRequests now table) ∧
      StaysCompleted table (transitionNoticeWindowEndedRequests now table) := by
  constructor
  · intro r hr
    obtain ⟨old, hold, rfl⟩ := List.mem_map.mp hr
    have hcons := h old hold
    unfold transitionRow
    split
    · rename_i hpending
      constructor
      · constructor
        · intro hsome
          have := hcons.verified.mp hsome
          rw [hpending.1] at this
          cases this
        · intro h'
          cases h'
      · intro h'
        cases h'
    · exact hcons
  · intro r hr hcompleted
    refine ⟨transitionRow now r, List.mem_map.mpr ⟨r, hr, rfl⟩, ?_⟩
    unfold transitionRow
    rw [if_neg (by simp [hcompleted])]
    exact ⟨rfl, hcompleted⟩

/-- A step keeps every completed request completed. -/
def KeepsCompleted (settings : ErasureSettings) (s : Stores) (move : ErasureMove) : Prop :=
  StaysCompleted s.pg.requests (erasureStep settings s move).pg.requests

theorem erasureStep_consistent_iff (settings : ErasureSettings) {s : Stores} (move : ErasureMove)
    (h : RecordsConsistent s.pg.requests) :
    (RecordsConsistent (erasureStep settings s move).pg.requests ↔
      SafeErasureMove settings s move) ∧ KeepsCompleted settings s move := by
  cases move with
  | erase command env => exact eraseSubject_consistent_iff settings command env h
  | endNoticeWindows now =>
    have htransition := transition_consistent now h
    exact ⟨iff_of_true htransition.1 trivial, htransition.2⟩

/-- Over any run of calls and scheduler ticks, the records agree in every state and
no request leaves `completed` exactly when every call is safe. -/
theorem records_consistent_iff {settings : ErasureSettings} {s : Stores}
    {moves : List ErasureMove} (h : RecordsConsistent s.pg.requests) :
    (Runs.Always (erasureStep settings) (fun s => RecordsConsistent s.pg.requests) s moves ∧
      Runs.Allowed (erasureStep settings) (KeepsCompleted settings) s moves) ↔
      Runs.Allowed (erasureStep settings) (SafeErasureMove settings) s moves := by
  have hstep : ∀ (t : Stores) (move : ErasureMove), True → RecordsConsistent t.pg.requests → True →
      (RecordsConsistent (erasureStep settings t move).pg.requests ↔
        SafeErasureMove settings t move) :=
    fun t move _ ht _ => (erasureStep_consistent_iff settings move ht).1
  have hexact : Runs.Always (erasureStep settings) (fun s => RecordsConsistent s.pg.requests)
      s moves ↔ Runs.Allowed (erasureStep settings) (SafeErasureMove settings) s moves :=
    Runs.always_iff_allowed (fun _ _ _ _ => trivial) hstep trivial h
      (Runs.allowed_of_forall (fun _ _ _ => trivial) _)
  constructor
  · rintro ⟨halways, -⟩
    exact hexact.mp halways
  · intro hsafe
    have halways := hexact.mpr hsafe
    refine ⟨halways, ?_⟩
    clear hexact hsafe
    induction moves generalizing s with
    | nil => trivial
    | cons move moves ih =>
      exact ⟨(erasureStep_consistent_iff settings move h).2, ih halways.2.head halways.2⟩

end Record

section Example

def exampleSubject : Subject := ⟨"00000000-0000-4000-8000-000000000001", "tok:c"⟩

/-- One ClickHouse table, on a server that reads the condition as it is meant. -/
def exampleErasure : ErasureSettings where
  erasureOrchestrator := some "true"
  custodyBacking := none
  targets := [⟨"brain.connector_order_facts", true, true⟩]
  clickhouse condition := some fun row => condition = subjectCondition row

def pendingRequest : SubjectErasureRequest := newRequest "r" exampleSubject 0 none

/-- The subject has asked for erasure and has one order. -/
def requestedStores : Stores where
  pg :=
    { requests := ⟨[pendingRequest], by decide⟩
      customerPii := ⟨[], by decide⟩
      edges := []
      mirrors := fun _ => []
      ledger := []
      auditLog := [] }
  ch table := if table = "brain.connector_order_facts" then [exampleSubject] else []
  vault := []

def exampleCommand : EraseSubjectCommand := { subject := exampleSubject, requestedByUserId := none }

/-- A call two days later on which only ClickHouse may fail. -/
def callAnswered (clickhouse : ChAnswer) : EraseEnv where
  requestedNow := noticeWindow
  freshId := "s"
  executedNow := noticeWindow
  wipedNow := noticeWindow
  verifiedNow := noticeWindow
  auditId := "a"
  request := .committed
  wipe := .committed
  clickhouse _ := clickhouse
  shred := .committed
  shredded := 0
  audit := .committed
  finish := .committed
  fail := .committed

def timedOutThenRetried : List ErasureMove :=
  [.erase exampleCommand (callAnswered ⟨true, false⟩),
    .erase exampleCommand (callAnswered ⟨false, true⟩)]

theorem requestedStores_consistent : RecordsConsistent requestedStores.pg.requests := by
  intro r hr
  obtain rfl := List.mem_singleton.mp hr
  exact ⟨by decide, fun h => nomatch h⟩

/-- ClickHouse times out and the request is tried again: it is stamped when it failed
and keeps its failure reason when it is completed. -/
theorem retried_erasure_inconsistent :
    RecordsConsistent requestedStores.pg.requests ∧
    (Runs.exec (erasureStep exampleErasure) requestedStores
        (timedOutThenRetried.take 1)).pg.requests.rows.map
      (fun r => (r.status, r.countZeroVerifiedAt)) = [(.failed, some noticeWindow)] ∧
    (Runs.exec (erasureStep exampleErasure) requestedStores
        timedOutThenRetried).pg.requests.rows.map
      (fun r => (r.status, r.failureReason)) =
        [(.completed, some "COUNT>0 on one or more tiers after erasure")] ∧
    ¬ (Runs.Always (erasureStep exampleErasure) (fun s => RecordsConsistent s.pg.requests)
        requestedStores timedOutThenRetried ∧
      Runs.Allowed (erasureStep exampleErasure) (KeepsCompleted exampleErasure)
        requestedStores timedOutThenRetried) := by
  have hlast : (Runs.exec (erasureStep exampleErasure) requestedStores
        timedOutThenRetried).pg.requests.rows.map
      (fun r => (r.status, r.failureReason)) =
        [(.completed, some "COUNT>0 on one or more tiers after erasure")] := by decide
  refine ⟨requestedStores_consistent, by decide, hlast, ?_⟩
  rintro ⟨halways, -⟩
  have hmem : ((.completed, some "COUNT>0 on one or more tiers after erasure") :
      ErasureStatus × Option String) ∈ (Runs.exec (erasureStep exampleErasure) requestedStores
        timedOutThenRetried).pg.requests.rows.map (fun r => (r.status, r.failureReason)) := by
    rw [hlast]
    exact List.mem_singleton.mpr rfl
  obtain ⟨r, hr, heq⟩ := List.mem_map.mp hmem
  have hreason := (halways.last r hr).reason (congrArg Prod.fst heq)
  rw [show r.failureReason = _ from congrArg Prod.snd heq] at hreason
  cases hreason

/-- A first call on which nothing fails. -/
theorem first_erasure_consistent :
    Runs.Always (erasureStep exampleErasure) (fun s => RecordsConsistent s.pg.requests)
        requestedStores [.erase exampleCommand (callAnswered ⟨false, true⟩)] ∧
      Runs.Allowed (erasureStep exampleErasure) (KeepsCompleted exampleErasure)
        requestedStores [.erase exampleCommand (callAnswered ⟨false, true⟩)] := by
  apply (records_consistent_iff requestedStores_consistent).mpr
  refine ⟨?_, trivial⟩
  intro request pg _ _ _ _ hbegin _ _
  have hreason : (beginErasure exampleCommand (callAnswered ⟨false, true⟩) requestedStores.pg).map
      (fun result => result.1.failureReason) = .ok none := by decide
  rw [hbegin] at hreason
  refine ⟨⟨⟨fun _ => ⟨by decide, rfl, _, rfl, Or.inl rfl⟩, trivial⟩, fun _ => by decide⟩, ?_,
    Or.inl rfl⟩
  exact Except.ok.inj hreason

end Example

end BrainV2.Consent
