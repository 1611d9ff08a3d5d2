import BrainV2.Team.Rows

/-!
# The owner of a workspace

* `OneOwner`: exactly one member is `OWNER`;
* `Undisputed`: the steps that leave it so;
* `oneOwner_of_undisputed`: a workspace has one owner as long as its requests take such steps.
-/

namespace BrainV2.Team

open Runs

def OneOwner (team : Tables) : Prop := ∃ owner, ∀ user, team.members user = some .owner ↔ user = owner

/-- No `changeRole` and no `removeMember` writes the row of the `OWNER`, and a transfer is
committed for an actor who is still `OWNER`, to another row. -/
def Undisputed (team : Tables) : Phase → Event → Prop
  | .cleared _ (.changeRole userId _) _, .write =>
    ¬ team.Locked (.ofText userId) → team.members (.ofText userId) ≠ some .owner
  | .cleared _ (.removeMember userId) _, .write =>
    ¬ team.Locked (.ofText userId) → team.members (.ofText userId) ≠ some .owner
  | .demoted claim newOwner found, .commit =>
    team.members claim.row = some .owner ∧ found ∧ claim.row ≠ newOwner
  | _, _ => True

/-! ### One step -/

theorem oneOwner_completeOnboarding (sub : String) : OneOwner (completeOnboarding sub) := by
  refine ⟨.ofText sub, fun user => ?_⟩
  simp [completeOnboarding]

/-- Writes of rows that are not the owner's. -/
theorem oneOwner_of_write {team team' : Tables} {user : Uuid} {role : Option WorkspaceRole}
    (h : OneOwner team) (hmembers : ∀ other, team'.members other =
      if other = user then role else team.members other)
    (hold : team.members user ≠ some .owner) (hnew : role ≠ some .owner) : OneOwner team' := by
  obtain ⟨owner, howner⟩ := h
  refine ⟨owner, fun other => ?_⟩
  rw [hmembers]
  by_cases hother : other = user
  · subst hother
    rw [if_pos rfl, ← howner]
    exact iff_of_false hnew hold
  · rw [if_neg hother, howner]

theorem oneOwner_of_members {team team' : Tables} (h : OneOwner team)
    (hmembers : team'.members = team.members) : OneOwner team' := by
  rw [OneOwner, hmembers]
  exact h

theorem oneOwner_writeMember {team : Tables} {phase : Phase} {user : Uuid}
    {role : Option WorkspaceRole} (h : OneOwner team) (hrole : role ≠ some .owner)
    (hold : ¬ team.Locked user → team.members user ≠ some .owner) :
    OneOwner (writeMember team phase user role).1 := by
  fun_cases writeMember team phase user role with
  | case1 => exact h
  | case2 => exact h
  | case3 _ hfree => exact oneOwner_of_write h (members_setMember team user · role) (hold hfree) hrole

theorem oneOwner_commitTransfer {team : Tables} {claim : Claim} {newOwner : Uuid}
    (h : OneOwner team) (hactor : team.members claim.row = some .owner)
    (hother : claim.row ≠ newOwner) : OneOwner (commitTransfer team claim newOwner true) := by
  obtain ⟨owner, howner⟩ := h
  refine ⟨newOwner, fun user => ?_⟩
  rw [members_commitTransfer]
  by_cases hrow : user = claim.row
  · subst hrow
    simp [hother]
  · have hnot : team.members user ≠ some .owner := by
      rw [Ne, howner, ← (howner _).mp hactor]
      exact hrow
    by_cases hnew : user = newOwner
    · subst hnew
      simp [hrow]
    · simp [hrow, hnew, hnot]

/-! ### What requests carry -/

/-- The membership that an acceptance has inserted and not committed. -/
def Phase.inserting : Phase → Option Uuid
  | .inserted user _ | .marked user _ => some user
  | _ => none

/-- No invitation makes an `OWNER`, and what is inserted was no member. -/
structure Carries (team : Tables) (phase : Phase) : Prop where
  role : ∀ c, phase.carried = some c → c.2.role ≠ .owner
  inserting : ∀ user, phase.inserting = some user → team.members user = none

structure Owned (s : Workspace) : Prop where
  oneOwner : OneOwner s.shared
  invitations : ∀ inv ∈ s.shared.invitations, inv.role ≠ .owner
  carries : ∀ i, Carries s.shared (s.calls i)
  exclusive : Interleave.Exclusive Phase.Holds Tables.Locked s

theorem oneOwner_advance {team : Tables} {phase : Phase} {e : Event} (h : OneOwner team)
    (hcarries : Carries team phase) (hstep : Undisputed team phase e) :
    OneOwner (advance team phase e).1 := by
  fun_cases advance team phase e with
  | case5 claim userId newRole role =>
    apply oneOwner_writeMember h _ hstep
    cases newRole <;> rintro ⟨⟩
  | case6 =>
    apply oneOwner_writeMember h _ hstep
    rintro ⟨⟩
  | case7 => exact oneOwner_of_members h (members_revokeTeamInvite _ _ _)
  | case9 => exact oneOwner_of_members h (members_insertInvitation _ _ _ _)
  | case12 => exact oneOwner_of_members h (members_promote _ _ _)
  | case13 => exact oneOwner_of_members h (members_demote _ _ _)
  | case14 claim newOwner found =>
    obtain ⟨hactor, hfound, hother⟩ := hstep
    rw [show found = true from hfound]
    exact oneOwner_commitTransfer h hactor hother
  | case19 => exact oneOwner_of_members h (members_insertMember _ _ _)
  | case22 user inv =>
    refine oneOwner_of_write h (members_commitAcceptance team user · inv) ?_ ?_
    · rw [hcarries.inserting user rfl]
      rintro ⟨⟩
    · exact fun heq => hcarries.role (user, inv) rfl (Option.some.inj heq)
  | case23 => exact oneOwner_of_members h (members_rollback _ _)
  | _ => exact h

theorem GrantedRole.role_ne_owner (role : GrantedRole) : role.role ≠ .owner := by
  cases role <;> exact nofun

theorem invitations_advance {team : Tables} {phase : Phase} {e : Event}
    (h : ∀ inv ∈ team.invitations, inv.role ≠ .owner) :
    ∀ inv ∈ (advance team phase e).1.invitations, inv.role ≠ .owner := by
  intro inv hinv
  cases invitation_of_advance hinv with
  | inl hold =>
    obtain ⟨old, hold, heq, -⟩ := hold
    rw [heq]
    exact h old hold
  | inr hnew =>
    obtain ⟨call, -, -, hrole, -⟩ := hnew.call
    rw [hrole]
    exact call.role.role_ne_owner

theorem inserting_of_carried {phase : Phase} (h : phase.carried = none) :
    phase.inserting = none := by
  cases phase <;> first | rfl | cases h

theorem inserting_advance {team : Tables} {phase : Phase} {e : Event}
    (h : ∀ user, phase.inserting = some user → team.members user = none) {user : Uuid} :
    (advance team phase e).2.inserting = some user →
      (advance team phase e).1.members user = none := by
  fun_cases advance team phase e with
  | case1 => rintro ⟨⟩
  | case2 => split <;> rintro ⟨⟩
  | case3 => rw [inserting_of_carried (carried_readTarget _ _ _)]; rintro ⟨⟩
  | case4 => rw [inserting_of_carried (carried_readTarget _ _ _)]; rintro ⟨⟩
  | case5 => rw [inserting_of_carried (carried_writeMember rfl)]; rintro ⟨⟩
  | case6 => rw [inserting_of_carried (carried_writeMember rfl)]; rintro ⟨⟩
  | case7 => rw [inserting_of_carried (carried_revokeTeamInvite rfl)]; rintro ⟨⟩
  | case8 => rw [inserting_of_carried (carried_selectPending _ _)]; rintro ⟨⟩
  | case9 => rw [inserting_of_carried (carried_insertInvitation _ _ _ _)]; rintro ⟨⟩
  | case10 => split <;> rintro ⟨⟩
  | case11 => split <;> rintro ⟨⟩
  | case12 => rw [inserting_of_carried (carried_promote _ _ _)]; rintro ⟨⟩
  | case13 => rw [inserting_of_carried (carried_demote _ _ _)]; rintro ⟨⟩
  | case14 => rintro ⟨⟩
  | case15 token sub => fun_cases selectInvitation team token sub <;> rintro ⟨⟩
  | case16 holder inv now =>
    split
    · rintro ⟨⟩
    · fun_cases decideAcceptance holder inv now <;> rintro ⟨⟩
  | case18 => rintro ⟨⟩
  | case19 holder inv =>
    fun_cases insertMember team holder inv with
    | case1 => rintro ⟨⟩
    | case2 => rintro ⟨⟩
    | case3 hnone =>
      rintro ⟨⟩
      exact Option.not_isSome_iff_eq_none.mp hnone
  | case22 => rintro ⟨⟩
  | case23 => cases phase <;> rintro ⟨⟩
  | _ => exact h user

theorem carries_advance {team : Tables} {phase : Phase} {e : Event}
    (h : ∀ inv ∈ team.invitations, inv.role ≠ .owner) (hcarries : Carries team phase) :
    Carries (advance team phase e).1 (advance team phase e).2 where
  role := by
    intro c hc
    cases carried_of_advance hc with
    | inl hold => exact hcarries.role c hold
    | inr hread => exact h c.2 hread.2
  inserting := fun _ => inserting_advance hcarries.inserting

theorem carries_of_held {s : Workspace} (h : Owned s) (e : Nat × Event) {i : Nat} (hi : i ≠ e.1) :
    Carries (step s e).shared (s.calls i) where
  role := (h.carries i).role
  inserting := by
    intro user huser
    have hholds : (s.calls i).Holds user := by
      generalize s.calls i = phase at huser
      cases phase <;> first | cases huser; rfl | cases huser
    have hkept : (step s e).shared.members user = s.shared.members user :=
      Interleave.value_of_held h.exclusive
        (fun team phase _ => members_of_locked team phase e.2) hi hholds
    rw [hkept]
    exact (h.carries i).inserting user huser

theorem owned_step {s : Workspace} {e : Nat × Event} (h : Owned s)
    (hstep : Undisputed s.shared (s.calls e.1) e.2) : Owned (step s e) where
  oneOwner := oneOwner_advance h.oneOwner (h.carries e.1) hstep
  invitations := invitations_advance h.invitations
  carries := Interleave.step_calls (P := fun _ phase => Carries (step s e).shared phase) s e
    (carries_advance h.invitations (h.carries e.1)) fun _ hi => carries_of_held h e hi
  exclusive := Interleave.exclusive_step locking h.exclusive e

/-! ### Runs -/

theorem owned_onboarded (sub : String) : Owned (onboarded sub) where
  oneOwner := oneOwner_completeOnboarding sub
  invitations := nofun
  carries := fun _ => ⟨nofun, nofun⟩
  exclusive := ⟨nofun, nofun⟩

theorem oneOwner_of_undisputed (sub : String) {events : List (Nat × Event)}
    (h : Allowed step (fun s e => Undisputed s.shared (s.calls e.1) e.2) (onboarded sub) events) :
    Always step (fun s => OneOwner s.shared) (onboarded sub) events :=
  (always_of_step (fun _ _ hs hstep => owned_step hs hstep) (owned_onboarded sub) h).mono
    fun _ hs => hs.oneOwner

/-! ### A transfer and a self-demotion -/

def undisputed (team : Tables) : Phase → Event → Bool
  | .cleared _ (.changeRole userId _) _, .write =>
    decide (¬ team.Locked (.ofText userId) → team.members (.ofText userId) ≠ some .owner)
  | .cleared _ (.removeMember userId) _, .write =>
    decide (¬ team.Locked (.ofText userId) → team.members (.ofText userId) ≠ some .owner)
  | .demoted claim newOwner found, .commit =>
    decide (team.members claim.row = some .owner ∧ found ∧ claim.row ≠ newOwner)
  | _, _ => true

theorem undisputed_iff (team : Tables) (phase : Phase) (e : Event) :
    undisputed team phase e = true ↔ Undisputed team phase e := by
  unfold undisputed Undisputed
  split <;> simp only [decide_eq_true_iff]

instance (team : Tables) (phase : Phase) (e : Event) : Decidable (Undisputed team phase e) :=
  decidable_of_iff _ (undisputed_iff team phase e)

def transferring : List (Nat × Event) :=
  [(2, .authenticate ownerSub (.transferOwnership joinerSub)), (2, .selectActor),
    (2, .selectTarget), (2, .promote), (2, .demote), (2, .commit)]

theorem transferring_oneOwner :
    Always step (fun s => OneOwner s.shared) (onboarded ownerSub) (joining ++ transferring) :=
  oneOwner_of_undisputed ownerSub (by decide +kernel)

/-- The owner gives themselves another role. -/
def selfDemotion : List (Nat × Event) :=
  [(0, .authenticate ownerSub (.changeRole ownerSub .manager)), (0, .readMembers), (0, .write)]

theorem selfDemotion_no_owner :
    ¬ Always step (fun s => Quiet s → OneOwner s.shared) (onboarded ownerSub) selfDemotion := by
  intro h
  have hquiet : Quiet (exec step (onboarded ownerSub) selfDemotion) := by
    intro i
    cases i with
    | zero => exact Or.inr (by rfl)
    | succ i => exact Or.inl rfl
  obtain ⟨owner, howner⟩ := h.last hquiet
  have hmembers : ∀ user, (exec step (onboarded ownerSub) selfDemotion).shared.members user =
      if user = .ofText ownerSub then some .manager else none := by
    intro user
    change Function.update (completeOnboarding ownerSub).members (.ofText ownerSub)
      (some .manager) user = _
    rw [Function.update_apply]
    by_cases huser : user = .ofText ownerSub
    · rw [if_pos huser, if_pos huser]
    · rw [if_neg huser, if_neg huser]
      exact if_neg huser
  have hthere := (howner owner).mpr rfl
  rw [hmembers] at hthere
  split at hthere <;> cases hthere

end BrainV2.Team
