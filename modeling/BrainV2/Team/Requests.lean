import BrainV2.Lib.Interleave
import Mathlib

/-!
# Requests on the members of a workspace

The team routes, the statements behind them, and `acceptInvitation`, for one workspace. A request
goes through its phases one step at a time: the read of the caller's membership, the read of the
members, each statement of a transaction, its commit.

Transactions are `READ COMMITTED`: a statement sees what is committed when it starts, what a
transaction writes shows at its commit, and a row it has written is locked until then.

* `Uuid`: identifiers, as the database writes them;
* `WorkspaceRole`, `Claim`, `requireRole`: the roles;
* `Tables`: the two tables and their locks;
* `Phase`, `Event`, `advance`: the phases of a request and its next step.
-/

namespace BrainV2.Team

/-! ### Identifiers -/

def lower (text : String) : String := String.ofList (text.toList.map Char.toLower)

theorem toLower_toLower (c : Char) : c.toLower.toLower = c.toLower := by
  rw [Char.toLower.eq_def c]
  split
  · rename_i h
    rw [Char.toLower, dif_neg]
    rintro ⟨-, hz⟩
    obtain ⟨ha, hz'⟩ := h
    simp only [ge_iff_le, UInt32.le_iff_toNat_le, UInt32.toNat_add, UInt32.toNat_sub] at ha hz hz'
    simp only [Char.reduceVal, UInt32.reduceToNat] at ha hz hz'
    omega
  · rename_i h
    rw [Char.toLower, dif_neg h]

theorem lower_lower (text : String) : lower (lower text) = lower text := by
  simp only [lower, String.toList_ofList, List.map_map]
  congr 1
  exact List.map_congr_left fun c _ => toLower_toLower c

/-- An identifier of the database, which writes it in lower case. -/
structure Uuid where
  text : String
  isLower : lower text = text
deriving DecidableEq

/-- A text that a route has checked with `uuid()`, in either case. -/
def Uuid.ofText (text : String) : Uuid := ⟨lower text, lower_lower text⟩

/-! ### Roles -/

inductive WorkspaceRole where
  | owner
  | admin
  | manager
  | analyst
  | viewer
deriving DecidableEq

/-- `WORKSPACE_ROLE_LEVEL` -/
def WorkspaceRole.level : WorkspaceRole → Nat
  | .owner => 5
  | .admin => 4
  | .manager => 3
  | .analyst => 2
  | .viewer => 1

def WorkspaceRole.text : WorkspaceRole → String
  | .owner => "OWNER"
  | .admin => "ADMIN"
  | .manager => "MANAGER"
  | .analyst => "ANALYST"
  | .viewer => "VIEWER"

/-- `none` is the error of an unknown role. -/
def mapInvitationRole (role : String) : Option WorkspaceRole :=
  [("OWNER", .owner), ("ADMIN", .admin), ("MANAGER", .manager), ("ANALYST", .analyst),
    ("VIEWER", .viewer), ("EDITOR", .manager)].lookup role

@[simp] theorem mapInvitationRole_text (role : WorkspaceRole) :
    mapInvitationRole role.text = some role := by
  cases role <;> rfl

/-- `z.enum(['MANAGER', 'ANALYST', 'VIEWER'])` -/
inductive GrantedRole where
  | manager
  | analyst
  | viewer
deriving DecidableEq

def GrantedRole.role : GrantedRole → WorkspaceRole
  | .manager => .manager
  | .analyst => .analyst
  | .viewer => .viewer

theorem GrantedRole.level_le (r : GrantedRole) : r.role.level ≤ WorkspaceRole.manager.level := by
  cases r <;> decide

/-- `BrainClaim`, as `assembleClaim` builds it from a membership; `userId` is the `sub`. -/
structure Claim where
  userId : String
  workspaceRole : WorkspaceRole

def Claim.row (claim : Claim) : Uuid := .ofText claim.userId

def Claim.workspaceRoleLevel (claim : Claim) : Nat := claim.workspaceRole.level

def requireRole (claim : Claim) (minRole : WorkspaceRole) : Bool :=
  minRole.level ≤ claim.workspaceRoleLevel

/-! ### Tables -/

inductive InvitationStatus where
  | pending
  | accepted
  | expired
  | revoked
deriving DecidableEq

/-- Times are microseconds. -/
structure Invitation where
  id : Uuid
  token : Uuid
  email : String
  role : WorkspaceRole
  status : InvitationStatus
  expiresAt : Int

/-- The rows of one workspace: a user has at most one membership. The locks are those of the
transactions that have written a row and not committed. -/
structure Tables where
  members : Uuid → Option WorkspaceRole
  invitations : List Invitation
  memberLocked : Uuid → Bool
  invitationLocked : Uuid → Bool

/-- What `completeOnboarding` leaves: the membership of the user who created the workspace. -/
def completeOnboarding (sub : String) : Tables where
  members := fun user => if user = .ofText sub then some .owner else none
  invitations := []
  memberLocked := fun _ => false
  invitationLocked := fun _ => false

namespace Tables

def setMember (team : Tables) (user : Uuid) (role : Option WorkspaceRole) : Tables :=
  { team with members := Function.update team.members user role }

def lockMember (team : Tables) (user : Uuid) (locked : Bool) : Tables :=
  { team with memberLocked := Function.update team.memberLocked user locked }

def lockInvitation (team : Tables) (id : Uuid) (locked : Bool) : Tables :=
  { team with invitationLocked := Function.update team.invitationLocked id locked }

/-- `UPDATE invitations SET status = ... WHERE id = ...` -/
def setStatus (team : Tables) (id : Uuid) (status : InvitationStatus) : Tables :=
  { team with invitations := team.invitations.map fun inv =>
      if inv.id = id then { inv with status := status } else inv }

/-- `members.find((m) => m.user_id === userId)` -/
def find (team : Tables) (userId : String) : Option WorkspaceRole :=
  if (Uuid.ofText userId).text = userId then team.members (.ofText userId) else none

end Tables

/-! ### Requests -/

inductive Request where
  | invite (email : String) (role : GrantedRole)
  | changeRole (userId : String) (newRole : GrantedRole)
  | removeMember (userId : String)
  | revokeInvite (invitationId : String)
  | transferOwnership (newOwnerUserId : String)

/-- The checks of a route on the claim, and that of `transferTeamOwnership` on its arguments. -/
def permitted (claim : Claim) : Request → Bool
  | .transferOwnership newOwner => claim.workspaceRole = .owner ∧ claim.userId ≠ newOwner
  | _ => requireRole claim .manager

/-- The check of a route on the role of the member it is about. -/
def clears (claim : Claim) (role : WorkspaceRole) : Request → Bool
  | .changeRole _ _ => ¬ ((role = .owner ∨ role = .admin) ∧ claim.workspaceRole ≠ .owner)
  | .removeMember _ => ¬ (role = .owner ∧ claim.workspaceRole ≠ .owner)
  | _ => true

/-- How an acceptance ends without a membership. -/
inductive AcceptError where
  | invitationNotFound
  | invitationNotPending
  | invitationExpired
  /-- The insert breaks `UNIQUE (user_id, workspace_id)`. -/
  | duplicateMember
deriving DecidableEq

/-- A call of `inviteTeamMember`; `now()` is the start of its transaction. -/
structure InviteCall where
  claim : Claim
  email : String
  role : GrantedRole
  now : Int

inductive Phase where
  | idle
  | claimed (claim : Claim) (request : Request)
  /-- `changeRole` or `removeMember`, with the role its target was read with -/
  | cleared (claim : Claim) (request : Request) (role : WorkspaceRole)
  /-- `inviteTeamMember` has found no invitation that is pending. -/
  | inviting (call : InviteCall)
  /-- `transferTeamOwnership` has read that its actor is `OWNER`, then its target; it has written
  the target, then the actor, if there still was one. -/
  | actorRead (claim : Claim) (newOwner : Uuid)
  | targetRead (claim : Claim) (newOwner : Uuid)
  | promoted (claim : Claim) (newOwner : Uuid)
  | demoted (claim : Claim) (newOwner : Uuid) (found : Bool)
  /-- `acceptInvitation` has read its invitation, then that the user is a member or may become
  one; it has inserted the membership, then updated the invitation. -/
  | invitationRead (user : Uuid) (inv : Invitation)
  | alreadyMember (user : Uuid) (inv : Invitation)
  | accepting (user : Uuid) (inv : Invitation)
  | inserted (user : Uuid) (inv : Invitation)
  | marked (user : Uuid) (inv : Invitation)
  /-- Ends -/
  | invited (call : InviteCall) (inv : Invitation)
  | invitedBefore (call : InviteCall) (inv : Invitation)
  | changed
  | revoked (invitationId : Uuid)
  | transferred
  | accepted (user : Uuid) (inv : Invitation)
  | acceptedBefore (user : Uuid) (inv : Invitation)
  | notAccepted (user : Uuid) (inv : Option Invitation) (error : AcceptError)
  | refused

inductive Event where
  /-- The context of a request is built, and its route checks the claim. -/
  | authenticate (sub : String) (request : Request)
  | readMembers
  /-- The one statement of `changeTeamMemberRole`, `removeTeamMember` or `revokeTeamInvite`. -/
  | write
  /-- The first statement of `inviteTeamMember`, at the start of its transaction -/
  | selectPending (now : Int)
  /-- The insert, with what the database makes up -/
  | insertInvitation (id token : Uuid)
  | selectActor
  | selectTarget
  | promote
  | demote
  | commit
  | selectInvitation (token sub : String)
  /-- The read of the membership, and the decision at that time, in milliseconds -/
  | selectMembership (now : Int)
  | insertMember
  | markAccepted
  /-- The request fails: its transaction is rolled back. -/
  | fail

/-- The members as a route reads them. -/
def readTarget (claim : Claim) (request : Request) : Option WorkspaceRole → Phase
  | none => .refused
  | some role => if clears claim role request then .cleared claim request role else .refused

/-- A write of a row that is there: it waits for the transaction that holds the row. -/
def writeMember (team : Tables) (phase : Phase) (user : Uuid) (role : Option WorkspaceRole) :
    Tables × Phase :=
  if team.members user = none then (team, .refused)
  else if team.memberLocked user then (team, phase)
  else (team.setMember user role, .changed)

/-- `status = 'PENDING'` is checked on the row as it is when the statement gets it. -/
def revokeTeamInvite (team : Tables) (phase : Phase) (id : Uuid) : Tables × Phase :=
  if ∃ inv ∈ team.invitations, inv.id = id ∧ inv.status = .pending then
    if team.invitationLocked id then (team, phase) else (team.setStatus id .revoked, .revoked id)
  else (team, .refused)

def selectPending (team : Tables) (call : InviteCall) : Phase :=
  match team.invitations.find? fun inv => inv.email = lower call.email ∧ inv.status = .pending with
  | some inv => .invitedBefore call inv
  | none => .inviting call

/-- `now() + interval '7 days'`; `id` and `token` are unique. -/
def insertInvitation (team : Tables) (call : InviteCall) (id token : Uuid) : Tables × Phase :=
  if ∃ inv ∈ team.invitations, inv.id = id ∨ inv.token = token then (team, .refused)
  else
    let inv : Invitation :=
      ⟨id, token, lower call.email, call.role.role, .pending, call.now + 7 * 86400000000⟩
    ({ team with invitations := team.invitations ++ [inv] }, .invited call inv)

def promote (team : Tables) (claim : Claim) (newOwner : Uuid) : Tables × Phase :=
  if team.members newOwner = none then (team, .refused)
  else if team.memberLocked newOwner then (team, .targetRead claim newOwner)
  else (team.lockMember newOwner true, .promoted claim newOwner)

/-- A transaction does not wait for a row that it has written itself. -/
def demote (team : Tables) (claim : Claim) (newOwner : Uuid) : Tables × Phase :=
  if team.members claim.row = none then (team, .demoted claim newOwner false)
  else if team.memberLocked claim.row ∧ claim.row ≠ newOwner then (team, .promoted claim newOwner)
  else (team.lockMember claim.row true, .demoted claim newOwner true)

def commitTransfer (team : Tables) (claim : Claim) (newOwner : Uuid) (found : Bool) : Tables :=
  let promoted := (team.setMember newOwner (some .owner)).lockMember newOwner false
  if found then (promoted.setMember claim.row (some .manager)).lockMember claim.row false
  else promoted

def selectInvitation (team : Tables) (token sub : String) : Phase :=
  match team.invitations.find? fun inv => inv.token = .ofText token with
  | none => .notAccepted (.ofText sub) none .invitationNotFound
  | some inv => .invitationRead (.ofText sub) inv

/-- A user who is no member yet: the invitation must be pending, and `now` not after
`new Date(expires_at)`, which has milliseconds. The update of the status of one that has expired
goes with its transaction, which the error rolls back. -/
def decideAcceptance (user : Uuid) (inv : Invitation) (now : Int) : Phase :=
  if inv.status ≠ .pending then .notAccepted user (some inv) .invitationNotPending
  else if inv.expiresAt / 1000 < now then .notAccepted user (some inv) .invitationExpired
  else .accepting user inv

def insertMember (team : Tables) (user : Uuid) (inv : Invitation) : Tables × Phase :=
  if (team.members user).isSome then (team, .notAccepted user (some inv) .duplicateMember)
  else if team.memberLocked user then (team, .accepting user inv)
  else (team.lockMember user true, .inserted user inv)

def commitAcceptance (team : Tables) (user : Uuid) (inv : Invitation) : Tables :=
  let inserted := (team.setMember user (mapInvitationRole inv.role.text)).lockMember user false
  (inserted.setStatus inv.id .accepted).lockInvitation inv.id false

def rollback (team : Tables) : Phase → Tables
  | .promoted _ newOwner => team.lockMember newOwner false
  | .demoted _ newOwner false => team.lockMember newOwner false
  | .demoted claim newOwner true =>
    (team.lockMember newOwner false).lockMember claim.row false
  | .inserted user _ => team.lockMember user false
  | .marked user inv => (team.lockMember user false).lockInvitation inv.id false
  | _ => team

/-- A request that has ended stays as it is. -/
def Phase.fail : Phase → Phase
  | .invited call inv => .invited call inv
  | .invitedBefore call inv => .invitedBefore call inv
  | .changed => .changed
  | .revoked id => .revoked id
  | .transferred => .transferred
  | .accepted user inv => .accepted user inv
  | .acceptedBefore user inv => .acceptedBefore user inv
  | .notAccepted user inv error => .notAccepted user inv error
  | _ => .refused

/-- An event that is not the request's next step leaves everything as it is. -/
def advance (team : Tables) : Phase → Event → Tables × Phase
  | .idle, .authenticate sub request =>
    match team.members (.ofText sub) with
    | none => (team, .refused)
    | some role =>
      (team, if permitted ⟨sub, role⟩ request then .claimed ⟨sub, role⟩ request else .refused)
  | .claimed claim (.changeRole userId newRole), .readMembers =>
    (team, readTarget claim (.changeRole userId newRole) (team.find userId))
  | .claimed claim (.removeMember userId), .readMembers =>
    (team, readTarget claim (.removeMember userId) (team.find userId))
  | .cleared claim (.changeRole userId newRole) role, .write =>
    writeMember team (.cleared claim (.changeRole userId newRole) role) (.ofText userId)
      (some newRole.role)
  | .cleared claim (.removeMember userId) role, .write =>
    writeMember team (.cleared claim (.removeMember userId) role) (.ofText userId) none
  | .claimed claim (.revokeInvite id), .write =>
    revokeTeamInvite team (.claimed claim (.revokeInvite id)) (.ofText id)
  | .claimed claim (.invite email role), .selectPending now =>
    (team, selectPending team ⟨claim, email, role, now⟩)
  | .inviting call, .insertInvitation id token => insertInvitation team call id token
  | .claimed claim (.transferOwnership newOwner), .selectActor =>
    (team, if team.members claim.row = some .owner then .actorRead claim (.ofText newOwner)
      else .refused)
  | .actorRead claim newOwner, .selectTarget =>
    (team, if team.members newOwner = none then .refused else .targetRead claim newOwner)
  | .targetRead claim newOwner, .promote => promote team claim newOwner
  | .promoted claim newOwner, .demote => demote team claim newOwner
  | .demoted claim newOwner found, .commit =>
    (commitTransfer team claim newOwner found, .transferred)
  | .idle, .selectInvitation token sub => (team, selectInvitation team token sub)
  | .invitationRead user inv, .selectMembership now =>
    (team, if (team.members user).isSome then .alreadyMember user inv
      else decideAcceptance user inv now)
  | .alreadyMember user inv, .markAccepted =>
    if team.invitationLocked inv.id then (team, .alreadyMember user inv)
    else (team.setStatus inv.id .accepted, .acceptedBefore user inv)
  | .accepting user inv, .insertMember => insertMember team user inv
  | .inserted user inv, .markAccepted =>
    if team.invitationLocked inv.id then (team, .inserted user inv)
    else (team.lockInvitation inv.id true, .marked user inv)
  | .marked user inv, .commit => (commitAcceptance team user inv, .accepted user inv)
  | phase, .fail => (rollback team phase, phase.fail)
  | phase, _ => (team, phase)

/-- No step is left to a request that has ended, and none is taken by one that has not begun. -/
def Phase.AtRest (phase : Phase) : Prop := phase = .idle ∨ phase.fail = phase

abbrev Workspace : Type := Interleave.State Tables Phase

def step : Workspace → Nat × Event → Workspace := Interleave.step advance

/-- No request is half-way. -/
def Quiet (s : Workspace) : Prop := ∀ i, (s.calls i).AtRest

/-- The workspace of an onboarding, with no request yet. -/
def onboarded (sub : String) : Workspace := ⟨completeOnboarding sub, fun _ => .idle⟩

/-- No request has begun, and no invitation was sent. -/
structure Unstarted (s : Workspace) : Prop where
  idle : ∀ i, s.calls i = .idle
  invitations : s.shared.invitations = []

theorem advance_of_ended (team : Tables) (phase : Phase) (e : Event) (h : phase.fail = phase) :
    (advance team phase e).2 = phase := by
  cases phase with
  | invited | invitedBefore | changed | revoked | transferred | accepted | acceptedBefore
  | notAccepted | refused => cases e <;> rfl
  | _ => cases h

/-! ### Three users and an invitation -/

def ownerSub : String := "00000000-0000-4000-8000-00000000000a"

def joinerSub : String := "00000000-0000-4000-8000-00000000000b"

def analystSub : String := "00000000-0000-4000-8000-00000000000c"

def invitationId : Uuid := .ofText "00000000-0000-4000-8000-0000000000c1"

def invitationToken : String := "00000000-0000-4000-8000-0000000000d1"

def inviting : List (Nat × Event) :=
  [(0, .authenticate ownerSub (.invite "m@brain.test" .manager)), (0, .selectPending 0),
    (0, .insertInvitation invitationId (.ofText invitationToken))]

/-- The owner invites a manager, who joins. -/
def joining : List (Nat × Event) :=
  inviting ++ [(1, .selectInvitation invitationToken joinerSub), (1, .selectMembership 0),
    (1, .insertMember), (1, .markAccepted), (1, .commit)]

theorem unstarted_onboarded (sub : String) : Unstarted (onboarded sub) := ⟨fun _ => rfl, rfl⟩

end BrainV2.Team
