import BrainV2.Team.Requests

/-!
# The rows of a workspace

* `Phase.Holds`: the rows that a request has written and not committed;
* `LockStep`, `locking`: a step takes only rows that are free, and gives back only its own;
* `members_of_locked`: a locked row is left as it is by the requests that do not hold it;
* `invitation_of_advance`: an invitation changes in nothing but its status.
-/

namespace BrainV2.Team

/-- The members whose rows a request has written and not committed. -/
def Phase.Holds : Phase → Uuid → Prop
  | .promoted _ newOwner, user => user = newOwner
  | .demoted claim newOwner found, user => user = newOwner ∨ found ∧ user = claim.row
  | .inserted holder _, user => user = holder
  | .marked holder _, user => user = holder
  | _, _ => False

def Tables.Locked (team : Tables) (user : Uuid) : Prop := team.memberLocked user = true

instance (team : Tables) (user : Uuid) : Decidable (team.Locked user) :=
  inferInstanceAs (Decidable (_ = _))

@[simp] theorem locked_setMember (team : Tables) (user other : Uuid) (role : Option WorkspaceRole) :
    (team.setMember user role).Locked other ↔ team.Locked other := Iff.rfl

@[simp] theorem locked_setStatus (team : Tables) (id other : Uuid) (status : InvitationStatus) :
    (team.setStatus id status).Locked other ↔ team.Locked other := Iff.rfl

@[simp] theorem locked_lockInvitation (team : Tables) (id other : Uuid) (locked : Bool) :
    (team.lockInvitation id locked).Locked other ↔ team.Locked other := Iff.rfl

theorem locked_lockMember (team : Tables) (user other : Uuid) (locked : Bool) :
    (team.lockMember user locked).Locked other ↔
      if other = user then locked = true else team.Locked other := by
  simp only [Tables.Locked, Tables.lockMember, Function.update_apply]
  split <;> rfl

theorem not_holds_fail (phase : Phase) (user : Uuid) : ¬ phase.fail.Holds user := by
  cases phase <;> exact id

/-- A step takes only what is not locked, and leaves locked what its request then holds and what
the other requests hold. -/
structure LockStep (team : Tables) (phase : Phase) (out : Tables × Phase) : Prop where
  takes : ∀ user, out.2.Holds user → phase.Holds user ∨ ¬ team.Locked user
  leaves : ∀ user, (∀ user, phase.Holds user → team.Locked user) →
    (out.1.Locked user ↔ out.2.Holds user ∨ team.Locked user ∧ ¬ phase.Holds user)

/-- A step between two phases that hold nothing. -/
theorem lockStep_free {team : Tables} {phase : Phase} {out : Tables × Phase}
    (hphase : ∀ user, ¬ phase.Holds user) (hlocked : ∀ user, out.1.Locked user ↔ team.Locked user)
    (hout : ∀ user, ¬ out.2.Holds user) : LockStep team phase out := by
  constructor
  · exact fun user h => absurd h (hout user)
  · intro user _
    rw [hlocked, or_iff_right (hout user), and_iff_left (hphase user)]

theorem lockStep_same {team : Tables} {phase : Phase} : LockStep team phase (team, phase) := by
  constructor
  · exact fun _ => Or.inl
  · intro user hheld
    by_cases h : phase.Holds user
    · simp only [h, not_true_eq_false, and_false, or_false, hheld user h]
    · simp only [h, not_false_eq_true, and_true, false_or]

theorem lockStep_writeMember (team : Tables) {phase : Phase} (user : Uuid)
    (role : Option WorkspaceRole) (hphase : ∀ user, ¬ phase.Holds user) :
    LockStep team phase (writeMember team phase user role) := by
  fun_cases writeMember team phase user role with
  | case1 => exact lockStep_free hphase (fun _ => Iff.rfl) fun _ => id
  | case2 => exact lockStep_same
  | case3 => exact lockStep_free hphase (fun _ => Iff.rfl) fun _ => id

theorem lockStep_revokeTeamInvite (team : Tables) {phase : Phase} (id : Uuid)
    (hphase : ∀ user, ¬ phase.Holds user) :
    LockStep team phase (revokeTeamInvite team phase id) := by
  fun_cases revokeTeamInvite team phase id with
  | case1 => exact lockStep_same
  | case2 => exact lockStep_free hphase (fun _ => Iff.rfl) fun _ h => h
  | case3 => exact lockStep_free hphase (fun _ => Iff.rfl) fun _ h => h

theorem lockStep_take {team : Tables} {phase phase' : Phase} {user : Uuid}
    (hfree : phase.Holds user ∨ ¬ team.Locked user)
    (hholds : ∀ other, phase'.Holds other ↔ phase.Holds other ∨ other = user) :
    LockStep team phase (team.lockMember user true, phase') := by
  constructor
  · intro other h
    cases (hholds other).mp h with
    | inl hself => exact Or.inl hself
    | inr huser =>
      subst huser
      exact hfree
  · intro other hheld
    rw [locked_lockMember, hholds]
    by_cases hother : other = user
    · simp only [hother, if_true, or_true, true_or]
    · rw [if_neg hother]
      by_cases h : phase.Holds other
      · simp only [h, hheld other h, true_or]
      · simp only [h, hother, or_self, false_or, not_false_eq_true, and_true]

theorem lockStep_release {team : Tables} {phase : Phase} {out : Tables × Phase}
    (hlocked : ∀ user, out.1.Locked user ↔ team.Locked user ∧ ¬ phase.Holds user)
    (hout : ∀ user, ¬ out.2.Holds user) : LockStep team phase out := by
  constructor
  · exact fun user h => absurd h (hout user)
  · intro user _
    rw [hlocked, or_iff_right (hout user)]

theorem not_holds_readTarget (claim : Claim) (request : Request) (role : Option WorkspaceRole)
    (user : Uuid) : ¬ (readTarget claim request role).Holds user := by
  fun_cases readTarget claim request role <;> exact id

theorem not_holds_selectPending (team : Tables) (call : InviteCall) (user : Uuid) :
    ¬ (selectPending team call).Holds user := by
  fun_cases selectPending team call <;> exact id

theorem not_holds_selectInvitation (team : Tables) (token sub : String) (user : Uuid) :
    ¬ (selectInvitation team token sub).Holds user := by
  fun_cases selectInvitation team token sub <;> exact id

theorem not_holds_decideAcceptance (holder : Uuid) (inv : Invitation) (now : Int) (user : Uuid) :
    ¬ (decideAcceptance holder inv now).Holds user := by
  fun_cases decideAcceptance holder inv now <;> exact id

theorem lockStep_insertInvitation (team : Tables) (call : InviteCall) (id token : Uuid) :
    LockStep team (.inviting call) (insertInvitation team call id token) := by
  fun_cases insertInvitation team call id token with
  | case1 => exact lockStep_free (fun _ h => h) (fun _ => Iff.rfl) fun _ h => h
  | case2 => exact lockStep_free (fun _ h => h) (fun _ => Iff.rfl) fun _ h => h

theorem lockStep_promote (team : Tables) (claim : Claim) (newOwner : Uuid) :
    LockStep team (.targetRead claim newOwner) (promote team claim newOwner) := by
  fun_cases promote team claim newOwner with
  | case1 => exact lockStep_free (fun _ => id) (fun _ => Iff.rfl) fun _ => id
  | case2 => exact lockStep_same
  | case3 _ hfree => exact lockStep_take (Or.inr hfree) fun _ => (iff_of_eq (false_or _)).symm

theorem lockStep_demote (team : Tables) (claim : Claim) (newOwner : Uuid) :
    LockStep team (.promoted claim newOwner) (demote team claim newOwner) := by
  fun_cases demote team claim newOwner with
  | case1 =>
    have hholds : ∀ user, (Phase.demoted claim newOwner false).Holds user ↔
        (Phase.promoted claim newOwner).Holds user := by simp [Phase.Holds]
    constructor
    · exact fun user h => Or.inl ((hholds user).mp h)
    · intro user hheld
      rw [hholds]
      exact lockStep_same.leaves user hheld
  | case2 => exact lockStep_same
  | case3 _ hfree =>
    refine lockStep_take ?_ fun _ => by simp [Phase.Holds]
    by_cases hrow : claim.row = newOwner
    · exact Or.inl hrow
    · exact Or.inr fun hlocked => hfree ⟨hlocked, hrow⟩

theorem lockStep_commitTransfer (team : Tables) (claim : Claim) (newOwner : Uuid) (found : Bool) :
    LockStep team (.demoted claim newOwner found)
      (commitTransfer team claim newOwner found, .transferred) := by
  refine lockStep_release (fun user => ?_) fun _ => id
  cases found with
  | false => simp [commitTransfer, locked_lockMember, Phase.Holds, and_comm]
  | true => simp [commitTransfer, locked_lockMember, Phase.Holds, and_comm, and_left_comm, and_assoc]

theorem lockStep_insertMember (team : Tables) (user : Uuid) (inv : Invitation) :
    LockStep team (.accepting user inv) (insertMember team user inv) := by
  fun_cases insertMember team user inv with
  | case1 => exact lockStep_free (fun _ => id) (fun _ => Iff.rfl) fun _ => id
  | case2 => exact lockStep_same
  | case3 _ hfree => exact lockStep_take (Or.inr hfree) fun _ => (iff_of_eq (false_or _)).symm

theorem lockStep_commitAcceptance (team : Tables) (user : Uuid) (inv : Invitation) :
    LockStep team (.marked user inv) (commitAcceptance team user inv, .accepted user inv) := by
  refine lockStep_release (fun user => ?_) fun _ => id
  simp [commitAcceptance, locked_lockMember, Phase.Holds, and_comm]

theorem lockStep_rollback (team : Tables) (phase : Phase) :
    LockStep team phase (rollback team phase, phase.fail) := by
  refine lockStep_release (fun user => ?_) fun _ => not_holds_fail _ _
  fun_cases rollback team phase with
  | case1 => simp [locked_lockMember, Phase.Holds, and_comm]
  | case2 => simp [locked_lockMember, Phase.Holds, and_comm]
  | case3 => simp [locked_lockMember, Phase.Holds, and_comm, and_left_comm, and_assoc]
  | case4 => simp [locked_lockMember, Phase.Holds, and_comm]
  | case5 => simp [locked_lockMember, Phase.Holds, and_comm]
  | case6 =>
    have hnone : ¬ phase.Holds user := by cases phase <;> simp_all [Phase.Holds]
    simp only [hnone, not_false_eq_true, and_true]

theorem lockStep_advance (team : Tables) (phase : Phase) (e : Event) :
    LockStep team phase (advance team phase e) := by
  have hfree : ∀ {phase phase' : Phase}, (∀ user, ¬ phase.Holds user) →
      (∀ user, ¬ phase'.Holds user) → LockStep team phase (team, phase') :=
    fun h h' => lockStep_free h (fun _ => Iff.rfl) h'
  fun_cases advance team phase e with
  | case1 => exact hfree (fun _ => id) fun _ => id
  | case2 => exact hfree (fun _ => id) fun _ => by split <;> exact id
  | case3 => exact hfree (fun _ => id) (not_holds_readTarget _ _ _)
  | case4 => exact hfree (fun _ => id) (not_holds_readTarget _ _ _)
  | case5 => exact lockStep_writeMember _ _ _ fun _ => id
  | case6 => exact lockStep_writeMember _ _ _ fun _ => id
  | case7 => exact lockStep_revokeTeamInvite _ _ fun _ => id
  | case8 => exact hfree (fun _ => id) (not_holds_selectPending _ _)
  | case9 => exact lockStep_insertInvitation _ _ _ _
  | case10 => exact hfree (fun _ => id) fun _ => by split <;> exact id
  | case11 => exact hfree (fun _ => id) fun _ => by split <;> exact id
  | case12 => exact lockStep_promote _ _ _
  | case13 => exact lockStep_demote _ _ _
  | case14 => exact lockStep_commitTransfer _ _ _ _
  | case15 => exact hfree (fun _ => id) (not_holds_selectInvitation _ _ _)
  | case16 =>
    refine hfree (fun _ => id) fun _ => ?_
    split
    · exact id
    · exact not_holds_decideAcceptance _ _ _ _
  | case17 => exact lockStep_same
  | case18 => exact lockStep_free (fun _ => id) (fun _ => Iff.rfl) fun _ => id
  | case19 => exact lockStep_insertMember _ _ _
  | case20 => exact lockStep_same
  | case21 =>
    constructor
    · exact fun _ => Or.inl
    · exact lockStep_same.leaves
  | case22 => exact lockStep_commitAcceptance _ _ _
  | case23 => exact lockStep_rollback _ _
  | case24 => exact lockStep_same

theorem locking : Interleave.Locking Phase.Holds Tables.Locked advance where
  takes := fun team phase e => (lockStep_advance team phase e).takes
  leaves := fun team phase e => (lockStep_advance team phase e).leaves

/-! ### What is locked -/

@[simp] theorem members_lockMember (team : Tables) (user : Uuid) (locked : Bool) :
    (team.lockMember user locked).members = team.members := rfl

@[simp] theorem members_lockInvitation (team : Tables) (id : Uuid) (locked : Bool) :
    (team.lockInvitation id locked).members = team.members := rfl

@[simp] theorem members_setStatus (team : Tables) (id : Uuid) (status : InvitationStatus) :
    (team.setStatus id status).members = team.members := rfl

theorem members_setMember (team : Tables) (user other : Uuid) (role : Option WorkspaceRole) :
    (team.setMember user role).members other = if other = user then role else team.members other :=
  Function.update_apply ..

theorem members_revokeTeamInvite (team : Tables) (phase : Phase) (id : Uuid) :
    (revokeTeamInvite team phase id).1.members = team.members := by
  fun_cases revokeTeamInvite team phase id <;> rfl

theorem members_insertInvitation (team : Tables) (call : InviteCall) (id token : Uuid) :
    (insertInvitation team call id token).1.members = team.members := by
  fun_cases insertInvitation team call id token <;> rfl

theorem members_promote (team : Tables) (claim : Claim) (newOwner : Uuid) :
    (promote team claim newOwner).1.members = team.members := by
  fun_cases promote team claim newOwner <;> rfl

theorem members_demote (team : Tables) (claim : Claim) (newOwner : Uuid) :
    (demote team claim newOwner).1.members = team.members := by
  fun_cases demote team claim newOwner <;> rfl

theorem members_insertMember (team : Tables) (user : Uuid) (inv : Invitation) :
    (insertMember team user inv).1.members = team.members := by
  fun_cases insertMember team user inv <;> rfl

theorem members_rollback (team : Tables) (phase : Phase) :
    (rollback team phase).members = team.members := by
  fun_cases rollback team phase <;> rfl

theorem members_commitTransfer (team : Tables) (claim : Claim) (newOwner user : Uuid)
    (found : Bool) : (commitTransfer team claim newOwner found).members user =
      if found ∧ user = claim.row then some .manager
      else if user = newOwner then some .owner else team.members user := by
  cases found with
  | false => simp [commitTransfer, members_setMember]
  | true => simp [commitTransfer, members_setMember]

theorem members_commitAcceptance (team : Tables) (user other : Uuid) (inv : Invitation) :
    (commitAcceptance team user inv).members other =
      if other = user then some inv.role else team.members other := by
  simp [commitAcceptance, members_setMember]

theorem members_writeMember {team : Tables} {phase : Phase} {user other : Uuid}
    {role : Option WorkspaceRole} (h : team.Locked other) :
    (writeMember team phase user role).1.members other = team.members other := by
  fun_cases writeMember team phase user role with
  | case1 => rfl
  | case2 => rfl
  | case3 _ hfree =>
    rw [members_setMember, if_neg]
    rintro rfl
    exact hfree h

theorem members_of_locked (team : Tables) (phase : Phase) (e : Event) {user : Uuid}
    (hlocked : team.Locked user) (hfree : ¬ phase.Holds user) :
    (advance team phase e).1.members user = team.members user := by
  fun_cases advance team phase e with
  | case5 => exact members_writeMember hlocked
  | case6 => exact members_writeMember hlocked
  | case7 => rw [members_revokeTeamInvite]
  | case9 => rw [members_insertInvitation]
  | case12 => rw [members_promote]
  | case13 => rw [members_demote]
  | case14 claim newOwner found =>
    have hnew : ¬ user = newOwner := fun h => hfree (Or.inl h)
    have hrow : ¬ (found ∧ user = claim.row) := fun h => hfree (Or.inr h)
    rw [members_commitTransfer, if_neg hrow, if_neg hnew]
  | case19 => rw [members_insertMember]
  | case22 holder inv =>
    have hholder : ¬ user = holder := hfree
    rw [members_commitAcceptance, if_neg hholder]
  | case23 => rw [members_rollback]
  | _ => rfl

theorem writeMember_changes {team : Tables} {phase : Phase} {user other : Uuid}
    {role : Option WorkspaceRole}
    (h : (writeMember team phase user role).1.members other ≠ team.members other) :
    other = user ∧ ¬ team.Locked user ∧ (writeMember team phase user role).1.members other = role := by
  revert h
  fun_cases writeMember team phase user role with
  | case1 => exact fun h => absurd rfl h
  | case2 => exact fun h => absurd rfl h
  | case3 _ hfree =>
    rw [members_setMember]
    intro h
    by_cases hother : other = user
    · exact ⟨hother, hfree, if_pos hother⟩
    · exact absurd (if_neg hother) h

/-- What a `changeRole` or a `removeMember` changes is the row of its target, when it is free. -/
theorem members_of_cleared {team : Tables} {claim : Claim} {request : Request}
    {role : WorkspaceRole} {e : Event} {user : Uuid}
    (h : (advance team (.cleared claim request role) e).1.members user ≠ team.members user) :
    e = .write ∧ ¬ team.Locked user ∧ ∃ userId, user = .ofText userId ∧
      ((∃ newRole, request = .changeRole userId newRole ∧
          (advance team (.cleared claim request role) e).1.members user = some newRole.role) ∨
        request = .removeMember userId ∧
          (advance team (.cleared claim request role) e).1.members user = none) := by
  cases request with
  | changeRole userId newRole =>
    cases e with
    | write =>
      obtain ⟨rfl, hfree, hrole⟩ := writeMember_changes h
      exact ⟨rfl, hfree, userId, rfl, Or.inl ⟨newRole, rfl, hrole⟩⟩
    | _ => exact absurd rfl h
  | removeMember userId =>
    cases e with
    | write =>
      obtain ⟨rfl, hfree, hrole⟩ := writeMember_changes h
      exact ⟨rfl, hfree, userId, rfl, Or.inr ⟨rfl, hrole⟩⟩
    | _ => exact absurd rfl h
  | invite => cases e <;> exact absurd rfl h
  | revokeInvite => cases e <;> exact absurd rfl h
  | transferOwnership => cases e <;> exact absurd rfl h

/-- What an acceptance changes is the membership of its user, at its commit. -/
theorem members_of_marked {team : Tables} {holder : Uuid} {inv : Invitation} {e : Event}
    {user : Uuid} (h : (advance team (.marked holder inv) e).1.members user ≠ team.members user) :
    (advance team (.marked holder inv) e).1.members user = some inv.role := by
  cases e with
  | commit =>
    have hmembers := members_commitAcceptance team holder user inv
    change (commitAcceptance team holder inv).members user ≠ _ at h
    change (commitAcceptance team holder inv).members user = _
    rw [hmembers] at h ⊢
    by_cases huser : user = holder
    · exact if_pos huser
    · exact absurd (if_neg huser) h
  | _ => exact absurd rfl h

/-! ### Invitations -/

theorem mem_setStatus {team : Tables} {id : Uuid} {status : InvitationStatus} {inv : Invitation} :
    inv ∈ (team.setStatus id status).invitations ↔ ∃ old ∈ team.invitations,
      (if old.id = id then { old with status := status } else old) = inv := List.mem_map

@[simp] theorem invitations_setMember (team : Tables) (user : Uuid) (role : Option WorkspaceRole) :
    (team.setMember user role).invitations = team.invitations := rfl

@[simp] theorem invitations_lockMember (team : Tables) (user : Uuid) (locked : Bool) :
    (team.lockMember user locked).invitations = team.invitations := rfl

theorem invitations_writeMember (team : Tables) (phase : Phase) (user : Uuid)
    (role : Option WorkspaceRole) :
    (writeMember team phase user role).1.invitations = team.invitations := by
  fun_cases writeMember team phase user role <;> rfl

theorem invitations_promote (team : Tables) (claim : Claim) (newOwner : Uuid) :
    (promote team claim newOwner).1.invitations = team.invitations := by
  fun_cases promote team claim newOwner <;> rfl

theorem invitations_demote (team : Tables) (claim : Claim) (newOwner : Uuid) :
    (demote team claim newOwner).1.invitations = team.invitations := by
  fun_cases demote team claim newOwner <;> rfl

theorem invitations_commitTransfer (team : Tables) (claim : Claim) (newOwner : Uuid)
    (found : Bool) : (commitTransfer team claim newOwner found).invitations = team.invitations := by
  cases found <;> rfl

theorem invitations_insertMember (team : Tables) (user : Uuid) (inv : Invitation) :
    (insertMember team user inv).1.invitations = team.invitations := by
  fun_cases insertMember team user inv <;> rfl

theorem invitations_rollback (team : Tables) (phase : Phase) :
    (rollback team phase).invitations = team.invitations := by
  fun_cases rollback team phase <;> rfl

/-- The insert of an invitation. -/
structure Inserts (team : Tables) (phase : Phase) (out : Tables × Phase) (inv : Invitation) :
    Prop where
  pending : inv.status = .pending
  fresh : ∀ old ∈ team.invitations, old.id ≠ inv.id ∧ old.token ≠ inv.token
  table : out.1 = { team with invitations := team.invitations ++ [inv] }
  call : ∃ call, phase = .inviting call ∧ out.2 = .invited call inv ∧ inv.role = call.role.role ∧
    inv.expiresAt = call.now + 7 * 86400000000

theorem insertInvitation_cases (team : Tables) (call : InviteCall) (id token : Uuid) :
    insertInvitation team call id token = (team, .refused) ∨
      ∃ inv, Inserts team (.inviting call) (insertInvitation team call id token) inv := by
  rw [insertInvitation]
  split
  · exact Or.inl rfl
  · rename_i hfresh
    push Not at hfresh
    exact Or.inr ⟨_, rfl, hfresh, rfl, call, rfl, rfl, rfl, rfl⟩

/-- What a statement leaves of an invitation: it may accept or revoke it. -/
def Keeps (old inv : Invitation) : Prop :=
  inv = { old with status := inv.status } ∧
    (inv.status = old.status ∨ inv.status = .accepted ∨ inv.status = .revoked)

/-- A step leaves the invitations, or accepts or revokes one, or inserts one. -/
theorem invitations_cases (team : Tables) (phase : Phase) (e : Event) :
    (advance team phase e).1.invitations = team.invitations ∨
      (∃ id status, (status = .accepted ∨ status = .revoked) ∧
        (advance team phase e).1.invitations = (team.setStatus id status).invitations) ∨
      ∃ inv, Inserts team phase (advance team phase e) inv := by
  fun_cases advance team phase e with
  | case5 => exact Or.inl (invitations_writeMember _ _ _ _)
  | case6 => exact Or.inl (invitations_writeMember _ _ _ _)
  | case7 claim id =>
    fun_cases revokeTeamInvite team (.claimed claim (.revokeInvite id)) (.ofText id) with
    | case1 => exact Or.inl rfl
    | case2 => exact Or.inr (Or.inl ⟨_, _, Or.inr rfl, rfl⟩)
    | case3 => exact Or.inl rfl
  | case9 call id token =>
    cases insertInvitation_cases team call id token with
    | inl hrefused => exact Or.inl (by rw [hrefused])
    | inr hinserts => exact Or.inr (Or.inr hinserts)
  | case12 => exact Or.inl (invitations_promote _ _ _)
  | case13 => exact Or.inl (invitations_demote _ _ _)
  | case14 => exact Or.inl (invitations_commitTransfer _ _ _ _)
  | case18 => exact Or.inr (Or.inl ⟨_, _, Or.inl rfl, rfl⟩)
  | case19 => exact Or.inl (invitations_insertMember _ _ _)
  | case22 => exact Or.inr (Or.inl ⟨_, _, Or.inl rfl, rfl⟩)
  | case23 => exact Or.inl (invitations_rollback _ _)
  | _ => exact Or.inl rfl

/-- An invitation is there from its insert on, and changes in nothing but its status, which never
becomes pending again. -/
theorem invitation_of_advance {team : Tables} {phase : Phase} {e : Event} {inv : Invitation}
    (h : inv ∈ (advance team phase e).1.invitations) :
    (∃ old ∈ team.invitations, Keeps old inv) ∨ Inserts team phase (advance team phase e) inv := by
  rcases invitations_cases team phase e with hsame | ⟨id, status, hstatus, hset⟩ | ⟨new, hnew⟩
  · rw [hsame] at h
    exact Or.inl ⟨inv, h, rfl, Or.inl rfl⟩
  · rw [hset] at h
    obtain ⟨old, hold, rfl⟩ := mem_setStatus.mp h
    refine Or.inl ⟨old, hold, ?_⟩
    split
    · exact ⟨rfl, Or.inr hstatus⟩
    · exact ⟨rfl, Or.inl rfl⟩
  · have hin := h
    rw [hnew.table, List.mem_append, List.mem_singleton] at hin
    rcases hin with hold | rfl
    · exact Or.inl ⟨inv, hold, rfl, Or.inl rfl⟩
    · exact Or.inr hnew

/-- What no status changes is kept of every invitation. -/
theorem map_setStatus {β : Type*} (team : Tables) (id : Uuid) (status : InvitationStatus)
    {f : Invitation → β} (hf : ∀ inv : Invitation, f { inv with status := status } = f inv) :
    (team.setStatus id status).invitations.map f = team.invitations.map f := by
  rw [Tables.setStatus, List.map_map]
  apply List.map_congr_left
  intro inv _
  simp only [Function.comp_apply]
  split
  · exact hf inv
  · rfl

theorem known_advance {team : Tables} (phase : Phase) (e : Event) {id : Uuid}
    (h : ∃ row ∈ team.invitations, row.id = id) :
    ∃ row ∈ (advance team phase e).1.invitations, row.id = id := by
  rw [← List.mem_map] at h ⊢
  rcases invitations_cases team phase e with hsame | ⟨_, status, -, hset⟩ | ⟨new, hnew⟩
  · rwa [hsame]
  · rwa [hset, map_setStatus team _ status fun _ => rfl]
  · rw [hnew.table, List.map_append]
    exact List.mem_append_left _ h

theorem tokens_advance {team : Tables} (phase : Phase) (e : Event)
    (h : (team.invitations.map (·.token)).Nodup) :
    ((advance team phase e).1.invitations.map (·.token)).Nodup := by
  rcases invitations_cases team phase e with hsame | ⟨_, status, -, hset⟩ | ⟨new, hnew⟩
  · rwa [hsame]
  · rwa [hset, map_setStatus team _ status fun _ => rfl]
  · rw [hnew.table, List.map_append]
    apply List.nodup_append.mpr
    refine ⟨h, List.nodup_cons.mpr ⟨nofun, List.nodup_nil⟩, ?_⟩
    rintro token htoken _ hlast rfl
    obtain ⟨old, hold, rfl⟩ := List.mem_map.mp htoken
    exact (hnew.fresh old hold).2 (List.mem_singleton.mp hlast)

/-! ### Acceptances -/

/-- The user of an acceptance, and its invitation as it was read. -/
def Phase.carried : Phase → Option (Uuid × Invitation)
  | .invitationRead user inv | .accepting user inv | .inserted user inv | .marked user inv
  | .accepted user inv => some (user, inv)
  | _ => none

theorem carried_readTarget (claim : Claim) (request : Request) (role : Option WorkspaceRole) :
    (readTarget claim request role).carried = none := by
  fun_cases readTarget claim request role <;> rfl

theorem carried_writeMember {team : Tables} {phase : Phase} {user : Uuid}
    {role : Option WorkspaceRole} (h : phase.carried = none) :
    (writeMember team phase user role).2.carried = none := by
  fun_cases writeMember team phase user role with
  | case1 => rfl
  | case2 => exact h
  | case3 => rfl

theorem carried_revokeTeamInvite {team : Tables} {phase : Phase} {id : Uuid}
    (h : phase.carried = none) : (revokeTeamInvite team phase id).2.carried = none := by
  fun_cases revokeTeamInvite team phase id with
  | case1 => exact h
  | case2 => rfl
  | case3 => rfl

theorem carried_selectPending (team : Tables) (call : InviteCall) :
    (selectPending team call).carried = none := by
  fun_cases selectPending team call <;> rfl

theorem carried_insertInvitation (team : Tables) (call : InviteCall) (id token : Uuid) :
    (insertInvitation team call id token).2.carried = none := by
  fun_cases insertInvitation team call id token <;> rfl

theorem carried_promote (team : Tables) (claim : Claim) (newOwner : Uuid) :
    (promote team claim newOwner).2.carried = none := by
  fun_cases promote team claim newOwner <;> rfl

theorem carried_demote (team : Tables) (claim : Claim) (newOwner : Uuid) :
    (demote team claim newOwner).2.carried = none := by
  fun_cases demote team claim newOwner <;> rfl

theorem carried_fail {phase : Phase} {c : Uuid × Invitation} (h : phase.fail.carried = some c) :
    phase.carried = some c := by
  cases phase <;> first | exact h | cases h

/-- An acceptance carries what it has read. -/
theorem carried_of_advance {team : Tables} {phase : Phase} {e : Event} {c : Uuid × Invitation} :
    (advance team phase e).2.carried = some c →
      phase.carried = some c ∨ phase = .idle ∧ c.2 ∈ team.invitations := by
  fun_cases advance team phase e with
  | case1 => exact nofun
  | case2 => split <;> exact nofun
  | case3 => rw [carried_readTarget]; exact nofun
  | case4 => rw [carried_readTarget]; exact nofun
  | case5 => rw [carried_writeMember rfl]; exact nofun
  | case6 => rw [carried_writeMember rfl]; exact nofun
  | case7 => rw [carried_revokeTeamInvite rfl]; exact nofun
  | case8 => rw [carried_selectPending]; exact nofun
  | case9 => rw [carried_insertInvitation]; exact nofun
  | case10 => split <;> exact nofun
  | case11 => split <;> exact nofun
  | case12 => rw [carried_promote]; exact nofun
  | case13 => rw [carried_demote]; exact nofun
  | case14 => exact nofun
  | case15 token sub =>
    rw [selectInvitation]
    split
    · exact nofun
    · rename_i inv hfind
      rintro ⟨⟩
      exact Or.inr ⟨rfl, List.mem_of_find?_eq_some hfind⟩
  | case16 user inv now =>
    split
    · exact nofun
    · fun_cases decideAcceptance user inv now with
      | case1 => exact nofun
      | case2 => exact nofun
      | case3 => exact Or.inl
  | case18 => exact nofun
  | case19 user inv =>
    fun_cases insertMember team user inv with
    | case1 => exact nofun
    | case2 => exact Or.inl
    | case3 => exact Or.inl
  | case23 => exact fun h => Or.inl (carried_fail h)
  | _ => exact Or.inl

end BrainV2.Team
