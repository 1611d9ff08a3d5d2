import BrainV2.Team.Rows

/-!
# The life of an invitation

* `Lawful`: what an invitation is good for, over a run;
* `Honest`: the steps that find it as its readers took it;
* `lawful_of_honest`: a run of such steps is lawful, and no late acceptance ever is.
-/

namespace BrainV2.Team

open Runs

/-! ### What is expected -/

/-- The steps of an acceptance that nothing comes between, with the clock that it reads. -/
def acceptance (i : Nat) (token sub : String) (now : Int) : List (Nat × Event) :=
  [Event.selectInvitation token sub, .selectMembership now, .insertMember, .markAccepted,
    .commit].map (Prod.mk i)

/-- The invitation whose token a call has answered with. -/
def Phase.answer : Phase → Option (InviteCall × Invitation)
  | .invited call inv | .invitedBefore call inv => some (call, inv)
  | _ => none

/-- A user who is no member and accepts the token just answered, at the time of the answer or
before the invitation expires, becomes one, with the role that was asked for. -/
def Usable (s : Workspace) (e : Nat × Event) : Prop :=
  ∀ call inv, ((step s e).calls e.1).answer = some (call, inv) → (s.calls e.1).answer = none →
    ∀ i sub, (step s e).calls i = .idle → (step s e).shared.members (.ofText sub) = none →
      ¬ (step s e).shared.Locked (.ofText sub) → (step s e).shared.invitationLocked inv.id = false →
      ∀ now, now ≤ call.now / 1000 ∨ now ≤ inv.expiresAt / 1000 →
        let after := exec step (step s e) (acceptance i inv.token.text sub now)
        after.calls i = .accepted (.ofText sub) inv ∧
          after.shared.members (.ofText sub) = some call.role.role

/-- An invitation admits one call. -/
def AdmitsOne (s : Workspace) : Prop :=
  ∀ i j user user' inv inv', s.calls i = .accepted user inv → s.calls j = .accepted user' inv' →
    inv.id = inv'.id → i = j

/-- What is revoked admits no one. -/
def RevokedAdmitsNone (s : Workspace) : Prop :=
  ∀ i j user inv, s.calls i = .revoked inv.id → s.calls j ≠ .accepted user inv

/-- The acceptance meets an invitation that was pending, after its time. -/
def MeetsExpired (s : Workspace) (e : Nat × Event) : Prop :=
  ∃ user inv now, s.calls e.1 = .invitationRead user inv ∧ e.2 = .selectMembership now ∧
    inv.status = .pending ∧ inv.expiresAt / 1000 < now

/-- It is refused, and the invitation is `EXPIRED`. -/
def Expires (s : Workspace) (e : Nat × Event) : Prop :=
  ∀ user inv, s.calls e.1 = .invitationRead user inv → MeetsExpired s e →
    (step s e).calls e.1 = .notAccepted user (some inv) .invitationExpired ∧
      ∃ row ∈ (step s e).shared.invitations, row.id = inv.id ∧ row.status = .expired

structure Lawful (s : Workspace) (events : List (Nat × Event)) : Prop where
  usable : Allowed step Usable s events
  admitsOne : Always step AdmitsOne s events
  revoked : Always step RevokedAdmitsNone s events
  expires : Allowed step Expires s events

/-! ### Honest steps -/

def Pending (team : Tables) (id : Uuid) : Prop :=
  ∃ row ∈ team.invitations, row.id = id ∧ row.status = .pending

/-- An invitation that is still pending for an address is for the role that is asked for, and has
not expired; an acceptance is decided within its time, and committed while it is pending. -/
def Honest (team : Tables) : Phase → Event → Prop
  | .claimed _ (.invite email role), .selectPending now =>
    ∀ inv ∈ team.invitations, inv.email = lower email → inv.status = .pending →
      inv.role = role.role ∧ now / 1000 ≤ inv.expiresAt / 1000
  | .invitationRead _ inv, .selectMembership now =>
    inv.status = .pending → now ≤ inv.expiresAt / 1000
  | .marked _ inv, .commit => Pending team inv.id
  | _, _ => True

/-! ### Spent invitations -/

/-- The invitation that a call has accepted or revoked. -/
def Phase.spent : Phase → Option Uuid
  | .accepted _ inv => some inv.id
  | .revoked id => some id
  | _ => none

theorem not_pending_setStatus (team : Tables) (id : Uuid) {status : InvitationStatus}
    (h : status ≠ .pending) : ¬ Pending (team.setStatus id status) id := by
  rintro ⟨row, hrow, hid, hpending⟩
  obtain ⟨old, -, rfl⟩ := mem_setStatus.mp hrow
  split at hid
  · rename_i hsame
    rw [if_pos hsame] at hpending
    exact h hpending
  · rename_i hother
    exact hother hid

theorem pending_advance {team : Tables} {phase : Phase} {e : Event} {id : Uuid}
    (h : Pending (advance team phase e).1 id) :
    Pending team id ∨ ∀ old ∈ team.invitations, old.id ≠ id := by
  obtain ⟨row, hrow, rfl, hpending⟩ := h
  cases invitation_of_advance hrow with
  | inl hold =>
    obtain ⟨old, hold, heq, hstatus⟩ := hold
    rw [hpending] at hstatus
    have hsame : old.status = .pending := by
      rcases hstatus with hsame | haccepted | hrevoked
      · exact hsame.symm
      · cases haccepted
      · cases hrevoked
    exact Or.inl ⟨old, hold, by rw [heq], hsame⟩
  | inr hnew => exact Or.inr fun old hold => (hnew.fresh old hold).1

/-- A call accepts or revokes what is pending, which then it is no longer. -/
theorem spent_advance {team : Tables} {phase : Phase} {e : Event} (hstep : Honest team phase e)
    {id : Uuid} : (advance team phase e).2.spent = some id →
      phase.spent = some id ∨ Pending team id ∧ ¬ Pending (advance team phase e).1 id := by
  fun_cases advance team phase e with
  | case1 => rintro ⟨⟩
  | case2 => split <;> rintro ⟨⟩
  | case3 claim userId newRole =>
    fun_cases readTarget claim (.changeRole userId newRole) (team.find userId) <;> rintro ⟨⟩
  | case4 claim userId =>
    fun_cases readTarget claim (.removeMember userId) (team.find userId) <;> rintro ⟨⟩
  | case5 claim userId newRole role =>
    fun_cases writeMember team (.cleared claim (.changeRole userId newRole) role) (.ofText userId)
      (some newRole.role) <;> rintro ⟨⟩
  | case6 claim userId role =>
    fun_cases writeMember team (.cleared claim (.removeMember userId) role) (.ofText userId)
      none <;> rintro ⟨⟩
  | case7 claim id' =>
    fun_cases revokeTeamInvite team (.claimed claim (.revokeInvite id')) (.ofText id') with
    | case1 => rintro ⟨⟩
    | case2 hpending =>
      rintro ⟨⟩
      exact Or.inr ⟨hpending, not_pending_setStatus team _ (by rintro ⟨⟩)⟩
    | case3 => rintro ⟨⟩
  | case8 claim email role now =>
    fun_cases selectPending team ⟨claim, email, role, now⟩ <;> rintro ⟨⟩
  | case9 call id token => fun_cases insertInvitation team call id token <;> rintro ⟨⟩
  | case10 => split <;> rintro ⟨⟩
  | case11 => split <;> rintro ⟨⟩
  | case12 claim newOwner => fun_cases promote team claim newOwner <;> rintro ⟨⟩
  | case13 claim newOwner => fun_cases demote team claim newOwner <;> rintro ⟨⟩
  | case14 => rintro ⟨⟩
  | case15 token sub => fun_cases selectInvitation team token sub <;> rintro ⟨⟩
  | case16 user inv now =>
    split
    · rintro ⟨⟩
    · fun_cases decideAcceptance user inv now <;> rintro ⟨⟩
  | case18 => rintro ⟨⟩
  | case19 user inv => fun_cases insertMember team user inv <;> rintro ⟨⟩
  | case22 user inv =>
    rintro ⟨⟩
    exact Or.inr ⟨hstep, not_pending_setStatus _ _ (by rintro ⟨⟩)⟩
  | case23 => cases phase <;> exact Or.inl
  | _ => exact Or.inl

/-- An invitation is accepted or revoked by one call, and not pending from then on. -/
structure Registered (s : Workspace) : Prop where
  tokens : (s.shared.invitations.map (·.token)).Nodup
  known : ∀ i c, (s.calls i).carried = some c → ∃ row ∈ s.shared.invitations, row.id = c.2.id
  spent : ∀ i id, (s.calls i).spent = some id →
    (∃ row ∈ s.shared.invitations, row.id = id) ∧ ¬ Pending s.shared id
  alone : ∀ i j id, (s.calls i).spent = some id → (s.calls j).spent = some id → i = j

theorem registered_of_unstarted {s : Workspace} (h : Unstarted s) : Registered s where
  tokens := by rw [h.invitations]; exact List.nodup_nil
  known := fun i c hc => by rw [h.idle] at hc; cases hc
  spent := fun i id hspent => by rw [h.idle] at hspent; cases hspent
  alone := fun i j id hspent _ => by rw [h.idle] at hspent; cases hspent

theorem registered_step {s : Workspace} {e : Nat × Event} (h : Registered s)
    (hstep : Honest s.shared (s.calls e.1) e.2) : Registered (step s e) := by
  have hspent : ∀ i id, ((step s e).calls i).spent = some id → (s.calls i).spent = some id ∨
      i = e.1 ∧ Pending s.shared id ∧ ¬ Pending (step s e).shared id := by
    apply Interleave.step_calls (P := fun i phase => ∀ id, phase.spent = some id →
      (s.calls i).spent = some id ∨
        i = e.1 ∧ Pending s.shared id ∧ ¬ Pending (step s e).shared id) s e
    · exact fun id hid => (spent_advance hstep hid).imp_right fun hnew => ⟨rfl, hnew⟩
    · exact fun i _ id => Or.inl
  constructor
  · exact tokens_advance _ _ h.tokens
  · refine Interleave.step_calls (P := fun _ phase => ∀ c, phase.carried = some c →
      ∃ row ∈ (step s e).shared.invitations, row.id = c.2.id) s e ?_ ?_
    · intro c hc
      apply known_advance
      cases carried_of_advance hc with
      | inl hold => exact h.known e.1 c hold
      | inr hread => exact ⟨c.2, hread.2, rfl⟩
    · exact fun i _ c hc => known_advance _ _ (h.known i c hc)
  · intro i id hid
    rcases hspent i id hid with hold | ⟨-, ⟨row, hrow, hrowid, -⟩, hgone⟩
    · obtain ⟨hknown, hgone⟩ := h.spent i id hold
      refine ⟨known_advance _ _ hknown, fun hpending => ?_⟩
      cases pending_advance hpending with
      | inl hbefore => exact hgone hbefore
      | inr hfresh =>
        obtain ⟨row, hrow, hrowid⟩ := hknown
        exact hfresh row hrow hrowid
    · exact ⟨known_advance _ _ ⟨row, hrow, hrowid⟩, hgone⟩
  · intro i j id hi hj
    rcases hspent i id hi with hi | ⟨rfl, hpending, -⟩
    · rcases hspent j id hj with hj | ⟨rfl, hpending, -⟩
      · exact h.alone i j id hi hj
      · exact absurd hpending (h.spent i id hi).2
    · rcases hspent j id hj with hj | ⟨rfl, -, -⟩
      · exact absurd hpending (h.spent j id hj).2
      · rfl

/-! ### Accepting what was answered -/

theorem Uuid.ofText_text (id : Uuid) : Uuid.ofText id.text = id := by
  cases id with
  | mk text isLower => simp only [Uuid.ofText, isLower]

theorem find_token {invitations : List Invitation}
    (htokens : (invitations.map (·.token)).Nodup) {inv : Invitation} (hinv : inv ∈ invitations) :
    invitations.find? (fun row => row.token = inv.token) = some inv := by
  induction invitations with
  | nil => cases hinv
  | cons row rest ih =>
    rw [List.map_cons, List.nodup_cons] at htokens
    rw [List.find?_cons]
    by_cases hrow : row.token = inv.token
    · rw [decide_eq_true hrow]
      cases List.mem_cons.mp hinv with
      | inl hhead => rw [hhead]
      | inr hrest => exact absurd (List.mem_map.mpr ⟨inv, hrest, hrow.symm⟩) htokens.1
    · rw [decide_eq_false hrow]
      cases List.mem_cons.mp hinv with
      | inl hhead => exact absurd (by rw [hhead]) hrow
      | inr hrest => exact ih htokens.2 hrest

/-- A pending invitation, accepted in its time by a user who is no member. -/
theorem foldl_acceptance {team : Tables} (htokens : (team.invitations.map (·.token)).Nodup)
    {inv : Invitation} (hinv : inv ∈ team.invitations) (hpending : inv.status = .pending) {now : Int}
    (hnow : now ≤ inv.expiresAt / 1000) {sub : String} (hmember : team.members (.ofText sub) = none)
    (hfree : ¬ team.Locked (.ofText sub)) (hrow : team.invitationLocked inv.id = false) :
    ([Event.selectInvitation inv.token.text sub, .selectMembership now, .insertMember,
        .markAccepted, .commit].foldl (fun p e => advance p.1 p.2 e) (team, .idle)) =
      (commitAcceptance ((team.lockMember (.ofText sub) true).lockInvitation inv.id true)
        (.ofText sub) inv, .accepted (.ofText sub) inv) := by
  have hread : selectInvitation team inv.token.text sub = .invitationRead (.ofText sub) inv := by
    rw [selectInvitation, Uuid.ofText_text, find_token htokens hinv]
  have hdecide : decideAcceptance (.ofText sub) inv now = .accepting (.ofText sub) inv := by
    rw [decideAcceptance, if_neg (not_not_intro hpending), if_neg (Int.not_lt.mpr hnow)]
  have hinsert : insertMember team (.ofText sub) inv =
      (team.lockMember (.ofText sub) true, .inserted (.ofText sub) inv) := by
    rw [insertMember, hmember, Option.isSome_none, if_neg Bool.false_ne_true, if_neg]
    exact hfree
  have hmark : (team.lockMember (.ofText sub) true).invitationLocked inv.id = false := hrow
  simp only [List.foldl_cons, List.foldl_nil, advance, hread, hmember, Option.isSome_none,
    Bool.false_eq_true, if_false, hdecide, hinsert, hmark]

theorem usable_of_pending {s : Workspace} {inv : Invitation} {role : GrantedRole} {now : Int}
    (h : Registered s) (hinv : inv ∈ s.shared.invitations) (hpending : inv.status = .pending)
    (hrole : inv.role = role.role) (hnow : now ≤ inv.expiresAt / 1000) {i : Nat} {sub : String}
    (hidle : s.calls i = .idle) (hmember : s.shared.members (.ofText sub) = none)
    (hfree : ¬ s.shared.Locked (.ofText sub)) (hrow : s.shared.invitationLocked inv.id = false) :
    (exec step s (acceptance i inv.token.text sub now)).calls i = .accepted (.ofText sub) inv ∧
      (exec step s (acceptance i inv.token.text sub now)).shared.members (.ofText sub) =
        some role.role := by
  have halone := Interleave.exec_alone advance i s
    [Event.selectInvitation inv.token.text sub, .selectMembership now, .insertMember,
      .markAccepted, .commit]
  rw [hidle, foldl_acceptance h.tokens hinv hpending hnow hmember hfree hrow] at halone
  refine ⟨halone.2, ?_⟩
  rw [acceptance, step, halone.1, members_commitAcceptance, if_pos rfl, hrole]

theorem Phase.answer_fail {phase : Phase} {a : InviteCall × Invitation}
    (h : phase.fail.answer = some a) : phase.answer = some a := by
  cases phase <;> exact h

/-- A call answers with the invitation that it inserts, or with one that is pending. -/
theorem answer_advance {team : Tables} {phase : Phase} {e : Event} {call : InviteCall}
    {inv : Invitation} : (advance team phase e).2.answer = some (call, inv) →
      phase.answer = some (call, inv) ∨ phase.answer = none ∧
        inv ∈ (advance team phase e).1.invitations ∧ inv.status = .pending ∧
          (inv.role = call.role.role ∧ inv.expiresAt = call.now + 7 * 86400000000 ∨
            phase = .claimed call.claim (.invite call.email call.role) ∧
              e = .selectPending call.now ∧ inv ∈ team.invitations ∧
                inv.email = lower call.email) := by
  fun_cases advance team phase e with
  | case1 => rintro ⟨⟩
  | case2 => split <;> rintro ⟨⟩
  | case3 claim userId newRole =>
    fun_cases readTarget claim (.changeRole userId newRole) (team.find userId) <;> rintro ⟨⟩
  | case4 claim userId =>
    fun_cases readTarget claim (.removeMember userId) (team.find userId) <;> rintro ⟨⟩
  | case5 claim userId newRole role =>
    fun_cases writeMember team (.cleared claim (.changeRole userId newRole) role) (.ofText userId)
      (some newRole.role) <;> rintro ⟨⟩
  | case6 claim userId role =>
    fun_cases writeMember team (.cleared claim (.removeMember userId) role) (.ofText userId)
      none <;> rintro ⟨⟩
  | case7 claim id =>
    fun_cases revokeTeamInvite team (.claimed claim (.revokeInvite id)) (.ofText id) <;>
      rintro ⟨⟩
  | case8 claim email role now =>
    fun_cases selectPending team ⟨claim, email, role, now⟩ with
    | case1 found hfind =>
      rintro ⟨⟩
      have hfound := List.find?_some hfind
      simp only [decide_eq_true_eq] at hfound
      have hin := List.mem_of_find?_eq_some hfind
      exact Or.inr ⟨rfl, hin, hfound.2, Or.inr ⟨rfl, rfl, hin, hfound.1⟩⟩
    | case2 => rintro ⟨⟩
  | case9 call' id token =>
    cases insertInvitation_cases team call' id token with
    | inl hrefused => rw [hrefused]; rintro ⟨⟩
    | inr hinserts =>
      obtain ⟨new, hnew⟩ := hinserts
      obtain ⟨_, hcall, hout, hrole, hexpires⟩ := hnew.call
      cases hcall
      rw [hout]
      rintro ⟨⟩
      refine Or.inr ⟨rfl, ?_, hnew.pending, Or.inl ⟨hrole, hexpires⟩⟩
      rw [hnew.table]
      exact List.mem_append_right _ (List.mem_singleton_self _)
  | case10 => split <;> rintro ⟨⟩
  | case11 => split <;> rintro ⟨⟩
  | case12 claim newOwner => fun_cases promote team claim newOwner <;> rintro ⟨⟩
  | case13 claim newOwner => fun_cases demote team claim newOwner <;> rintro ⟨⟩
  | case14 => rintro ⟨⟩
  | case15 token sub => fun_cases selectInvitation team token sub <;> rintro ⟨⟩
  | case16 user inv now =>
    split
    · rintro ⟨⟩
    · fun_cases decideAcceptance user inv now <;> rintro ⟨⟩
  | case18 => rintro ⟨⟩
  | case19 user inv => fun_cases insertMember team user inv <;> rintro ⟨⟩
  | case22 => rintro ⟨⟩
  | case23 => exact fun h => Or.inl (Phase.answer_fail h)
  | _ => exact Or.inl

theorem usable_of_registered {s : Workspace} {e : Nat × Event} (h : Registered s)
    (hstep : Honest s.shared (s.calls e.1) e.2) : Usable s e := by
  intro call inv hanswer hbefore i sub hidle hmember hfree hrow now hnow
  rw [step, Interleave.step_calls_self] at hanswer
  rcases answer_advance hanswer with hold | ⟨-, hinv, hpending, hcase⟩
  · rw [hbefore] at hold
    cases hold
  have hgood : inv.role = call.role.role ∧ call.now / 1000 ≤ inv.expiresAt / 1000 := by
    rcases hcase with ⟨hrole, hexpires⟩ | ⟨hphase, hevent, hin, hemail⟩
    · refine ⟨hrole, ?_⟩
      rw [hexpires]
      omega
    · rw [hphase, hevent] at hstep
      exact hstep inv hin hemail hpending
  have hintime : now ≤ inv.expiresAt / 1000 := hnow.elim (fun h => Int.le_trans h hgood.2) id
  exact usable_of_pending (registered_step h hstep) hinv hpending hgood.1 hintime hidle hmember
    hfree hrow

/-! ### Runs -/

theorem admitsOne_of_registered {s : Workspace} (h : Registered s) : AdmitsOne s := by
  intro i j user user' inv inv' hi hj hid
  apply h.alone i j inv.id
  · rw [hi]
    rfl
  · rw [hj, hid]
    rfl

theorem revokedAdmitsNone_of_registered {s : Workspace} (h : Registered s) :
    RevokedAdmitsNone s := by
  intro i j user inv hi hj
  have hsame : i = j := by
    apply h.alone i j inv.id
    · rw [hi]
      rfl
    · rw [hj]
      rfl
  subst hsame
  rw [hi] at hj
  cases hj

theorem expires_of_honest {s : Workspace} {e : Nat × Event}
    (hstep : Honest s.shared (s.calls e.1) e.2) : Expires s e := by
  rintro user inv - ⟨_, read, now, hphase, hevent, hpending, hlate⟩
  rw [hphase, hevent] at hstep
  exact absurd (hstep hpending) (Int.not_le.mpr hlate)

/-- No statement that is committed sets `EXPIRED`. -/
def NoneExpired (s : Workspace) : Prop := ∀ row ∈ s.shared.invitations, row.status ≠ .expired

theorem noneExpired_step {s : Workspace} (h : NoneExpired s) (e : Nat × Event) :
    NoneExpired (step s e) := by
  intro row hrow
  cases invitation_of_advance hrow with
  | inl hold =>
    obtain ⟨old, hold, -, hstatus⟩ := hold
    rcases hstatus with hsame | haccepted | hrevoked
    · rw [hsame]
      exact h old hold
    · rw [haccepted]
      exact nofun
    · rw [hrevoked]
      exact nofun
  | inr hnew =>
    rw [hnew.pending]
    exact nofun

theorem not_expires {s : Workspace} (h : NoneExpired s) {e : Nat × Event} (hmeets : MeetsExpired s e) :
    ¬ Expires s e := by
  intro hexpires
  have hmeets' := hmeets
  obtain ⟨user, inv, _, hphase, -⟩ := hmeets'
  obtain ⟨-, row, hrow, -, hexpired⟩ := hexpires user inv hphase hmeets
  exact noneExpired_step h e row hrow hexpired

theorem late_not_expires {s : Workspace} (hs : Unstarted s) (events : List (Nat × Event)) :
    Allowed step (fun s e => MeetsExpired s e → ¬ Expires s e) s events := by
  have hnone : NoneExpired s := by
    rw [NoneExpired, hs.invitations]
    exact nofun
  have hall : Allowed step (fun _ _ => True) s events :=
    allowed_of_forall (fun _ _ _ => trivial) s
  apply allowed_of_step _ hnone hall
  exact fun s e hnone _ => ⟨not_expires hnone, noneExpired_step hnone e⟩

instance (team : Tables) (id : Uuid) : Decidable (Pending team id) :=
  inferInstanceAs (Decidable (∃ row ∈ team.invitations, _))

instance (team : Tables) (phase : Phase) (e : Event) : Decidable (Honest team phase e) := by
  unfold Honest
  split <;> infer_instance

/-- Eight days later -/
def joiningLate : List (Nat × Event) :=
  inviting ++ [(1, .selectInvitation invitationToken joinerSub), (1, .selectMembership 691200000)]

/-- Two users with one token -/
def joiningTwice : List (Nat × Event) :=
  inviting ++ [(1, .selectInvitation invitationToken joinerSub), (1, .selectMembership 0),
    (2, .selectInvitation invitationToken analystSub), (2, .selectMembership 0),
    (1, .insertMember), (1, .markAccepted), (1, .commit),
    (2, .insertMember), (2, .markAccepted), (2, .commit)]

def joiningRevoked : List (Nat × Event) :=
  inviting ++ [(1, .selectInvitation invitationToken joinerSub), (1, .selectMembership 0),
    (2, .authenticate ownerSub (.revokeInvite invitationId.text)), (2, .write),
    (1, .insertMember), (1, .markAccepted), (1, .commit)]

/-- The owner asks again, for another role. -/
def invitingAgain : List (Nat × Event) :=
  inviting ++ [(1, .authenticate ownerSub (.invite "m@brain.test" .viewer)), (1, .selectPending 0)]

end BrainV2.Team
