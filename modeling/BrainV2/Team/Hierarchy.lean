import BrainV2.Team.Rows

/-!
# Roles and who changes them

* `Downwards`: a step that acts on no member above its caller and grants no role above theirs;
* `Unraised`: the steps whose target was not raised above the caller unseen;
* `downwards_of_unraised`: a run of such steps acts downwards.
-/

namespace BrainV2.Team

open Runs

/-- An `OWNER` or `ADMIN` is for the `OWNER` only. -/
def NotAbove (role : WorkspaceRole) (claim : Claim) : Prop :=
  role.level ≤ claim.workspaceRoleLevel ∧
    (role = .owner ∨ role = .admin → claim.workspaceRole = .owner)

/-- The step changes what a user is in the workspace. -/
def Changes (s : Workspace) (e : Nat × Event) (user : Uuid) : Prop :=
  (step s e).shared.members user ≠ s.shared.members user

/-- The invitation was inserted for a caller with a role that is not below that one. -/
def GrantedBy (s : Workspace) (inv : Invitation) (role : WorkspaceRole) : Prop :=
  ∃ j call row, s.calls j = .invited call row ∧ row.id = inv.id ∧
    role.level ≤ call.claim.workspaceRoleLevel

structure Downwards (s : Workspace) (e : Nat × Event) : Prop where
  /-- `changeRole` and `removeMember` change no member above the caller. -/
  acts : ∀ claim request role, s.calls e.1 = .cleared claim request role → ∀ user,
    Changes s e user → ∀ old ∈ s.shared.members user, NotAbove old claim
  /-- They give no role above the caller's. -/
  gives : ∀ claim request role, s.calls e.1 = .cleared claim request role → ∀ user,
    Changes s e user → ∀ new ∈ (step s e).shared.members user,
      new.level ≤ claim.workspaceRoleLevel
  /-- Nor does a new invitation. -/
  invites : ∀ call, s.calls e.1 = .inviting call →
    ∀ inv ∈ (step s e).shared.invitations, (∀ old ∈ s.shared.invitations, old.id ≠ inv.id) →
      inv.role.level ≤ call.claim.workspaceRoleLevel
  /-- Who joins gets no role above that of the caller who sent the invitation. -/
  joins : ∀ holder inv, s.calls e.1 = .marked holder inv → ∀ user, Changes s e user →
    ∀ new ∈ (step s e).shared.members user, GrantedBy s inv new

/-- Since it was read the row has not been raised to `OWNER` or `ADMIN`. -/
def SinceRead (team : Tables) (claim : Claim) (userId : String) (role : WorkspaceRole) : Prop :=
  ¬ team.Locked (.ofText userId) → claim.workspaceRole ≠ .owner →
    ∀ now ∈ team.members (.ofText userId), now = .owner ∨ now = .admin → now = role

/-- Callers other than the `OWNER` remove no `ADMIN`, and write no row that was raised to `OWNER`
or `ADMIN` since the route has read it. -/
def Unraised (team : Tables) : Phase → Event → Prop
  | .claimed claim (.removeMember userId), .readMembers =>
    claim.workspaceRole ≠ .owner → team.find userId ≠ some .admin
  | .cleared claim (.changeRole userId _) role, .write => SinceRead team claim userId role
  | .cleared claim (.removeMember userId) role, .write => SinceRead team claim userId role
  | _, _ => True

/-! ### What requests know -/

/-- What the checks of a route leave. -/
def Checked : Phase → Prop
  | .claimed claim request => permitted claim request
  | .cleared claim request role =>
    permitted claim request ∧ (role = .owner ∨ role = .admin → claim.workspaceRole = .owner)
  | .inviting call => requireRole call.claim .manager
  | .invited call _ => requireRole call.claim .manager
  | _ => True

theorem checked_readTarget {claim : Claim} {request : Request} {role : Option WorkspaceRole}
    (hpermitted : permitted claim request)
    (hclears : ∀ role', role = some role' → clears claim role' request →
      (role' = .owner ∨ role' = .admin → claim.workspaceRole = .owner)) :
    Checked (readTarget claim request role) := by
  fun_cases readTarget claim request role with
  | case1 => trivial
  | case2 role' h => exact ⟨hpermitted, hclears role' rfl h⟩
  | case3 => trivial

theorem checked_fail {phase : Phase} (h : Checked phase) : Checked phase.fail := by
  cases phase with
  | invited => exact h
  | _ => trivial

theorem checked_advance {team : Tables} {phase : Phase} {e : Event} (h : Checked phase)
    (hstep : Unraised team phase e) : Checked (advance team phase e).2 := by
  fun_cases advance team phase e with
  | case1 => trivial
  | case2 =>
    split
    · assumption
    · trivial
  | case3 claim userId newRole =>
    apply checked_readTarget h
    intro role _ hclears hrole
    by_contra hclaim
    simp [clears, hrole, hclaim] at hclears
  | case4 claim userId =>
    apply checked_readTarget h
    rintro role hread hclears (rfl | rfl)
    · simpa [clears] using hclears
    · by_contra hclaim
      exact hstep hclaim hread
  | case5 claim userId newRole role =>
    fun_cases writeMember team (.cleared claim (.changeRole userId newRole) role) (.ofText userId)
      (some newRole.role) with
    | case1 => trivial
    | case2 => exact h
    | case3 => trivial
  | case6 claim userId role =>
    fun_cases writeMember team (.cleared claim (.removeMember userId) role) (.ofText userId)
      none with
    | case1 => trivial
    | case2 => exact h
    | case3 => trivial
  | case7 claim id =>
    fun_cases revokeTeamInvite team (.claimed claim (.revokeInvite id)) (.ofText id) with
    | case1 => exact h
    | case2 => trivial
    | case3 => trivial
  | case8 claim email role now =>
    fun_cases selectPending team ⟨claim, email, role, now⟩ with
    | case1 => trivial
    | case2 => exact h
  | case9 call id token =>
    fun_cases insertInvitation team call id token with
    | case1 => trivial
    | case2 => exact h
  | case10 => split <;> trivial
  | case11 => split <;> trivial
  | case12 claim newOwner => fun_cases promote team claim newOwner <;> trivial
  | case13 claim newOwner => fun_cases demote team claim newOwner <;> trivial
  | case15 token sub => fun_cases selectInvitation team token sub <;> trivial
  | case16 user inv now =>
    split
    · trivial
    · fun_cases decideAcceptance user inv now <;> trivial
  | case19 user inv => fun_cases insertMember team user inv <;> trivial
  | case23 => exact checked_fail h
  | case24 => exact h
  | _ => trivial

/-! ### Runs -/

structure Ranked (s : Workspace) : Prop where
  checked : ∀ i, Checked (s.calls i)
  invitations : ∀ inv ∈ s.shared.invitations, GrantedBy s inv inv.role
  carried : ∀ i c, (s.calls i).carried = some c → GrantedBy s c.2 c.2.role

theorem ranked_of_unstarted {s : Workspace} (h : Unstarted s) : Ranked s where
  checked := fun i => by rw [h.idle]; trivial
  invitations := by rw [h.invitations]; exact nofun
  carried := by
    intro i c hc
    rw [h.idle] at hc
    cases hc

theorem grantedBy_step {s : Workspace} {inv : Invitation} {role : WorkspaceRole}
    (h : GrantedBy s inv role) (e : Nat × Event) : GrantedBy (step s e) inv role := by
  obtain ⟨j, call, row, hj, hrest⟩ := h
  refine ⟨j, call, row, ?_, hrest⟩
  have hdone : (s.calls j).fail = s.calls j := by rw [hj]; rfl
  rw [← hj]
  exact Interleave.step_calls_of_done advance_of_ended hdone e

/-- Every role that the routes grant is one that their callers have. -/
theorem level_le_of_requireRole {claim : Claim} (h : requireRole claim .manager)
    (role : GrantedRole) : role.role.level ≤ claim.workspaceRoleLevel :=
  role.level_le.trans (of_decide_eq_true h)

theorem grantedBy_of_inserts {s : Workspace} (h : Ranked s) {e : Nat × Event} {inv : Invitation}
    (hnew : Inserts s.shared (s.calls e.1) (advance s.shared (s.calls e.1) e.2) inv) :
    GrantedBy (step s e) inv inv.role := by
  obtain ⟨call, hphase, hout, hrole, -⟩ := hnew.call
  have hchecked := h.checked e.1
  rw [hphase] at hchecked
  refine ⟨e.1, call, inv, ?_, rfl, ?_⟩
  · rw [step, Interleave.step_calls_self, hout]
  · rw [hrole]
    exact level_le_of_requireRole hchecked call.role

theorem ranked_step {s : Workspace} {e : Nat × Event} (h : Ranked s)
    (hstep : Unraised s.shared (s.calls e.1) e.2) : Ranked (step s e) where
  checked := Interleave.step_calls (P := fun _ phase => Checked phase) s e
    (checked_advance (h.checked e.1) hstep) fun i _ => h.checked i
  invitations := by
    intro inv hinv
    cases invitation_of_advance hinv with
    | inl hold =>
      obtain ⟨old, hold, heq, -⟩ := hold
      rw [heq]
      exact grantedBy_step (h.invitations old hold) e
    | inr hnew => exact grantedBy_of_inserts h hnew
  carried := by
    refine Interleave.step_calls (P := fun _ phase => ∀ c, phase.carried = some c →
      GrantedBy (step s e) c.2 c.2.role) s e ?_ ?_
    · intro c hc
      cases carried_of_advance hc with
      | inl hold => exact grantedBy_step (h.carried e.1 c hold) e
      | inr hread => exact grantedBy_step (h.invitations c.2 hread.2) e
    · exact fun i _ c hc => grantedBy_step (h.carried i c hc) e

/-! ### Downwards -/

theorem notAbove_of_owner {role : WorkspaceRole} {claim : Claim}
    (hlevel : requireRole claim .manager)
    (h : role = .owner ∨ role = .admin → claim.workspaceRole = .owner) : NotAbove role claim := by
  refine ⟨?_, h⟩
  have hmanager : WorkspaceRole.manager.level ≤ claim.workspaceRole.level :=
    of_decide_eq_true hlevel
  rw [Claim.workspaceRoleLevel]
  cases role with
  | owner => rw [h (Or.inl rfl)]
  | admin =>
    rw [h (Or.inr rfl)]
    decide
  | manager => exact hmanager
  | analyst => exact Nat.le_trans (by decide) hmanager
  | viewer => exact Nat.le_trans (by decide) hmanager

theorem permitted_manager {claim : Claim} {request : Request} (h : permitted claim request) :
    requireRole claim .manager := by
  cases request with
  | transferOwnership newOwner =>
    have howner : claim.workspaceRole = .owner := (of_decide_eq_true h).1
    rw [requireRole, Claim.workspaceRoleLevel, howner]
    rfl
  | _ => exact h

/-- A changed row was not raised above the caller unseen, and gets a role that routes grant. -/
theorem cleared_changes {s : Workspace} {e : Nat × Event} {claim : Claim} {request : Request}
    {role : WorkspaceRole} {user : Uuid} (hphase : s.calls e.1 = .cleared claim request role)
    (hstep : Unraised s.shared (s.calls e.1) e.2) (hchanges : Changes s e user) :
    (claim.workspaceRole ≠ .owner →
      ∀ now ∈ s.shared.members user, now = .owner ∨ now = .admin → now = role) ∧
    ∀ new ∈ (step s e).shared.members user, ∃ newRole : GrantedRole, new = newRole.role := by
  rw [Changes, step, Interleave.step_shared, hphase] at hchanges
  rw [hphase] at hstep
  rw [step, Interleave.step_shared, hphase]
  obtain ⟨hwrite, hfree, userId, rfl, hchange | hremove⟩ := members_of_cleared hchanges
  · obtain ⟨newRole, rfl, hnew⟩ := hchange
    rw [hwrite] at hstep
    refine ⟨hstep hfree, fun new h => ⟨newRole, ?_⟩⟩
    rw [hnew] at h
    exact (Option.some.inj h).symm
  · obtain ⟨rfl, hnew⟩ := hremove
    rw [hwrite] at hstep
    refine ⟨hstep hfree, fun new h => ?_⟩
    rw [hnew] at h
    cases h

theorem downwards_of_ranked {s : Workspace} {e : Nat × Event} (h : Ranked s)
    (hstep : Unraised s.shared (s.calls e.1) e.2) : Downwards s e where
  acts := by
    intro claim request role hphase user hchanges old hold
    have hchecked := h.checked e.1
    rw [hphase] at hchecked
    apply notAbove_of_owner (permitted_manager hchecked.1)
    intro hrole
    by_contra hclaim
    have hsame := (cleared_changes hphase hstep hchanges).1 hclaim old hold hrole
    subst hsame
    exact hclaim (hchecked.2 hrole)
  gives := by
    intro claim request role hphase user hchanges new hnew
    have hchecked := h.checked e.1
    rw [hphase] at hchecked
    obtain ⟨newRole, rfl⟩ := (cleared_changes hphase hstep hchanges).2 new hnew
    exact level_le_of_requireRole (permitted_manager hchecked.1) newRole
  invites := by
    intro call hphase inv hinv hfresh
    have hchecked := h.checked e.1
    cases invitation_of_advance hinv with
    | inl hold =>
      obtain ⟨old, hold, heq, -⟩ := hold
      exact absurd (by rw [heq]) (hfresh old hold)
    | inr hnew =>
      obtain ⟨_, hinviting, -, hrole, -⟩ := hnew.call
      rw [hphase] at hinviting hchecked
      cases hinviting
      rw [hrole]
      exact level_le_of_requireRole hchecked call.role
  joins := by
    intro holder inv hphase user hchanges new hnew
    rw [Changes, step, Interleave.step_shared, hphase] at hchanges
    rw [step, Interleave.step_shared, hphase, members_of_marked hchanges] at hnew
    rw [← Option.some.inj hnew]
    exact h.carried e.1 (holder, inv) (by rw [hphase]; rfl)

theorem downwards_of_unraised {s : Workspace} (hs : Unstarted s) {events : List (Nat × Event)}
    (h : Allowed step (fun s e => Unraised s.shared (s.calls e.1) e.2) s events) :
    Allowed step Downwards s events := by
  apply allowed_of_step _ (ranked_of_unstarted hs) h
  exact fun s e hranked hstep => ⟨downwards_of_ranked hranked hstep, ranked_step hranked hstep⟩

/-! ### A removal by a manager -/

instance (team : Tables) (claim : Claim) (userId : String) (role : WorkspaceRole) :
    Decidable (SinceRead team claim userId role) :=
  inferInstanceAs (Decidable (_ → _ → ∀ now ∈ team.members (.ofText userId), _))

instance (team : Tables) (phase : Phase) (e : Event) : Decidable (Unraised team phase e) := by
  unfold Unraised
  split <;> infer_instance

/-- An owner, a manager, and a third member. -/
def threeMembers (third : WorkspaceRole) : Workspace where
  shared := { completeOnboarding ownerSub with
    members := fun user =>
      if user = .ofText ownerSub then some .owner
      else if user = .ofText joinerSub then some .manager
      else if user = .ofText analystSub then some third else none }
  calls := fun _ => .idle

theorem unstarted_threeMembers (third : WorkspaceRole) : Unstarted (threeMembers third) :=
  ⟨fun _ => rfl, rfl⟩

/-- The manager removes the third member. -/
def removing : List (Nat × Event) :=
  [(0, .authenticate joinerSub (.removeMember analystSub)), (0, .readMembers), (0, .write)]

theorem removing_downwards : Allowed step Downwards (threeMembers .analyst) removing :=
  downwards_of_unraised (unstarted_threeMembers .analyst) (by decide +kernel)

/-- The owner transfers the ownership to the third member while they are being removed. -/
def removingNewOwner : List (Nat × Event) :=
  [(0, .authenticate joinerSub (.removeMember analystSub)), (0, .readMembers),
    (1, .authenticate ownerSub (.transferOwnership analystSub)), (1, .selectActor),
    (1, .selectTarget), (1, .promote), (1, .demote), (1, .commit), (0, .write)]

theorem not_downwards {s : Workspace} {e : Nat × Event} (claim : Claim) (request : Request)
    (role old : WorkspaceRole) (user : Uuid) (hphase : s.calls e.1 = .cleared claim request role)
    (hold : s.shared.members user = some old) (hchanges : (step s e).shared.members user ≠ some old)
    (habove : claim.workspaceRoleLevel < old.level) : ¬ Downwards s e := by
  intro h
  have hacts := h.acts claim request role hphase user (by rwa [Changes, hold]) old hold
  exact Nat.not_le_of_lt habove hacts.1

/-- A manager removes the new owner, or an admin. -/
theorem removing_upwards :
    ¬ Allowed step Downwards (threeMembers .analyst) removingNewOwner ∧
      ¬ Allowed step Downwards (threeMembers .admin) removing := by
  constructor
  · intro h
    have hwrite := allowed_iff_getElem.mp h 8 (by decide)
    exact not_downwards ⟨joinerSub, .manager⟩ (.removeMember analystSub) .analyst .owner
      (.ofText analystSub) rfl rfl (by decide +kernel) (by decide) hwrite
  · intro h
    have hwrite := allowed_iff_getElem.mp h 2 (by decide)
    exact not_downwards ⟨joinerSub, .manager⟩ (.removeMember analystSub) .admin .admin
      (.ofText analystSub) rfl rfl (by decide +kernel) (by decide) hwrite

end BrainV2.Team
