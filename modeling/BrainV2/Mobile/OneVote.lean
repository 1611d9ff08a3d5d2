import BrainV2.Mobile.Votes
import Mathlib

/-!
# One vote for an insight

* `HalfWay`: a request that has been checked, or has written within the retention what is not
  stored;
* `Alone`: a request arrives when no other request about its insight is half-way;
* `Spaced`: what every such step keeps;
* `votes_spaced`: in a run of such steps the votes of the session for one insight are at least the
  retention apart.
-/

namespace BrainV2.Mobile

open Runs
open Gateway (IdempotencyKey Response Request Phase Stores buildIdempotencyKey
  buildIdempotencyKey_inj ttl checkIdempotency)

variable (workspaceId : String) (own : IdempotencyKey → Prop)

/-! ### Requests that do not overlap -/

def HalfWay (now : Nat) : Phase → Prop
  | .checked _ => True
  | .written _ _ time | .lost _ _ time => now < time + ttl
  | .idle | .answered _ _ | .replayed _ _ | .failed => False

def Alone (s : World) : Event → Prop
  | .arrive n _ _ => ∀ m x y, s.sent[n]? = some x → s.sent[m]? = some y → m ≠ n →
      y.insightId = x.insightId → ¬ HalfWay s.gateway.shared.now (s.gateway.calls (2 * m))
  | _ => True

/-- The votes of the session for one insight are the retention apart. -/
def VotesApart (s : World) : Prop :=
  s.gateway.shared.decisionLog.Pairwise fun row row' =>
    row.workspaceId = workspaceId → own row.idempotencyKey →
      row'.workspaceId = workspaceId → own row'.idempotencyKey →
        row.insightId = row'.insightId → row.createdAt + ttl ≤ row'.createdAt

/-! ### What the steps keep -/

/-- A call has checked the key and not yet written. -/
def Checks (s : World) (c : Nat) (key : IdempotencyKey) : Prop :=
  ∃ request, s.gateway.calls c = .checked request ∧ request.workspaceId = workspaceId ∧
    request.key = key

def Unstored (s : World) (key : IdempotencyKey) (time : Nat) : Prop :=
  ∃ c request response, (s.gateway.calls c).unstored = some (request, response, time) ∧
    request.workspaceId = workspaceId ∧ request.key = key

/-- The rows under the key are past their retention. -/
def Old (s : World) (key : IdempotencyKey) : Prop :=
  ∀ row ∈ s.gateway.shared.decisionLog, row.workspaceId = workspaceId →
    row.idempotencyKey = key → row.createdAt + ttl ≤ s.gateway.shared.now

/-- A row within its retention is found under its key, or is not stored yet. -/
def Covered (s : World) (row : Gateway.DecisionLogRow) : Prop :=
  row.createdAt + ttl ≤ s.gateway.shared.now ∨
    (∃ entry, s.gateway.shared.store (buildIdempotencyKey workspaceId row.idempotencyKey) =
      some entry ∧ row.createdAt + ttl ≤ entry.2) ∨
    Unstored workspaceId s row.idempotencyKey row.createdAt

structure Spaced (s : World) : Prop where
  past : ∀ row ∈ s.gateway.shared.decisionLog, row.workspaceId = workspaceId →
    own row.idempotencyKey → row.createdAt ≤ s.gateway.shared.now
  apart : s.gateway.shared.decisionLog.Pairwise fun row row' =>
    row.workspaceId = workspaceId → own row.idempotencyKey →
      row'.workspaceId = workspaceId → row'.idempotencyKey = row.idempotencyKey →
        row.createdAt + ttl ≤ row'.createdAt
  covered : ∀ row ∈ s.gateway.shared.decisionLog, row.workspaceId = workspaceId →
    own row.idempotencyKey → Covered workspaceId s row
  checked : ∀ c key, own key → Checks workspaceId s c key → Old workspaceId s key
  alone : ∀ c c' key, own key → Checks workspaceId s c key → Checks workspaceId s c' key → c = c'

variable {workspaceId own} {s s' : World} {c : Nat} {e : Gateway.Event}

/-- A step that writes and stores nothing; who has checked a key then is alone, and the rows under
it are old. -/
theorem spaced_of_same (h : Spaced workspaceId own s)
    (hlog : s'.gateway.shared.decisionLog = s.gateway.shared.decisionLog)
    (hstore : s'.gateway.shared.store = s.gateway.shared.store)
    (hnow : s.gateway.shared.now ≤ s'.gateway.shared.now)
    (hunstored : ∀ c, (s'.gateway.calls c).unstored = (s.gateway.calls c).unstored)
    (hchecked : ∀ c key, own key → Checks workspaceId s' c key → Old workspaceId s key)
    (halone : ∀ c c' key, own key → Checks workspaceId s' c key → Checks workspaceId s' c' key →
      c = c') : Spaced workspaceId own s' where
  past := by
    rw [hlog]
    exact fun row hrow hworkspace hown => (h.past row hrow hworkspace hown).trans hnow
  apart := by
    rw [hlog]
    exact h.apart
  covered := by
    rw [hlog]
    intro row hrow hworkspace hown
    unfold Covered Unstored
    simp only [hstore, hunstored]
    exact (h.covered row hrow hworkspace hown).imp_left fun hold => hold.trans hnow
  checked := by
    intro c key hown hc row hrow hworkspace hkey
    rw [hlog] at hrow
    exact (hchecked c key hown hc row hrow hworkspace hkey).trans hnow
  alone := halone

/-- What has not been found under a key of the phone is past its retention. -/
theorem Spaced.old (h : Spaced workspaceId own s) {request : Request}
    (hworkspace : request.workspaceId = workspaceId) (hown : own request.key)
    (hget : s.gateway.shared.get request.storeKey = none)
    (hothers : ∀ c other, requestOf (s.gateway.calls c) = some other →
      other.workspaceId = workspaceId → other.key = request.key →
        ¬ HalfWay s.gateway.shared.now (s.gateway.calls c)) :
    Old workspaceId s request.key := by
  intro row hrow hrowWorkspace hkey
  rcases h.covered row hrow hrowWorkspace (hkey ▸ hown) with
    hold | ⟨entry, hentry, hlong⟩ | ⟨c, other, response, hunstored, hother, hotherKey⟩
  · exact hold
  · rw [hkey, ← hworkspace] at hentry
    rw [Stores.get, Request.storeKey, hentry, Option.bind_some] at hget
    split at hget
    · cases hget
    · omega
  · have hnot := hothers c other
    cases hphase : s.gateway.calls c with
    | written _ _ _ | lost _ _ _ =>
      rw [hphase] at hunstored hnot
      cases hunstored
      exact Nat.not_lt.mp (hnot rfl hother (hotherKey.trans hkey))
    | idle | checked _ | answered _ _ | replayed _ _ | failed =>
      rw [hphase] at hunstored
      cases hunstored

theorem check_checked {stores : Stores} {request request' : Request}
    (h : checkIdempotency stores request = .checked request') :
    request' = request ∧ stores.get request.storeKey = none := by
  revert h
  fun_cases checkIdempotency stores request with
  | case1 _ cached _ =>
    fun_cases Gateway.replay request cached <;> intro h <;> cases h
  | case2 _ hnone =>
    intro h
    cases h
    exact ⟨rfl, hnone⟩
  | case3 =>
    intro h
    cases h

/-- The calls after a step of one of them. -/
theorem calls_serve (s : World) (c : Nat) (e : Gateway.Event) :
    (s.serve c e).gateway.calls c =
        (Gateway.advance s.gateway.shared (s.gateway.calls c) e).2 ∧
      ∀ i, i ≠ c → (s.serve c e).gateway.calls i = s.gateway.calls i :=
  ⟨Interleave.step_calls_self s.gateway (c, e),
    fun _ hi => Interleave.step_calls_of_ne (e := (c, e)) s.gateway hi⟩

section

variable (h : Spaced workspaceId own s) {s' : World} {phase' : Phase}
  (hself : s'.gateway.calls c = phase')
  (hother : ∀ i, i ≠ c → s'.gateway.calls i = s.gateway.calls i)

include h hself hother

/-- A step of a call that has checked nothing after it. -/
theorem spaced_quiet (hlog : s'.gateway.shared.decisionLog = s.gateway.shared.decisionLog)
    (hstore : s'.gateway.shared.store = s.gateway.shared.store)
    (hnow : s.gateway.shared.now ≤ s'.gateway.shared.now)
    (hunstored : phase'.unstored = (s.gateway.calls c).unstored)
    (hchecks : ∀ request, phase' = .checked request → s.gateway.calls c = phase') :
    Spaced workspaceId own s' := by
  have hback : ∀ i key, Checks workspaceId s' i key → Checks workspaceId s i key := by
    rintro i key ⟨request, hphase, hrequest⟩
    by_cases hi : i = c
    · subst hi
      rw [hself] at hphase
      exact ⟨request, (hchecks request hphase).trans hphase, hrequest⟩
    · rw [hother i hi] at hphase
      exact ⟨request, hphase, hrequest⟩
  refine spaced_of_same h hlog hstore hnow ?_ ?_ ?_
  · intro i
    by_cases hi : i = c
    · subst hi
      rw [hself, hunstored]
    · rw [hother i hi]
  · exact fun i key hown hi => h.checked i key hown (hback i key hi)
  · exact fun i j key hown hi hj => h.alone i j key hown (hback i key hi) (hback j key hj)

/-- A request arrives. -/
theorem spaced_begun {request : Request} (hshared : s'.gateway.shared = s.gateway.shared)
    (hidle : s.gateway.calls c = .idle) (hphase : phase' = checkIdempotency s.gateway.shared request)
    (hothers : request.workspaceId = workspaceId → own request.key → ∀ c other,
      requestOf (s.gateway.calls c) = some other → other.workspaceId = workspaceId →
        other.key = request.key → ¬ HalfWay s.gateway.shared.now (s.gateway.calls c)) :
    Spaced workspaceId own s' := by
  -- Whoever has checked a key after the step had checked it before, or has just found nothing.
  have hnew : ∀ i key, own key → Checks workspaceId s' i key → Checks workspaceId s i key ∧ i ≠ c ∨
      i = c ∧ Old workspaceId s key ∧ ∀ j, ¬ Checks workspaceId s j key := by
    rintro i key hown ⟨found, hfound, hworkspace, rfl⟩
    by_cases hi : i = c
    · subst hi
      rw [hself, hphase] at hfound
      obtain ⟨rfl, hget⟩ := check_checked hfound
      have hclear := hothers hworkspace hown
      refine Or.inr ⟨rfl, h.old hworkspace hown hget hclear, ?_⟩
      rintro j ⟨other, hj, hsame⟩
      have hnot := hclear j other
      rw [hj] at hnot
      exact hnot rfl hsame.1 hsame.2 trivial
    · rw [hother i hi] at hfound
      exact Or.inl ⟨⟨found, hfound, hworkspace, rfl⟩, hi⟩
  refine spaced_of_same h ?_ ?_ ?_ ?_ ?_ ?_
  · rw [hshared]
  · rw [hshared]
  · rw [hshared]
  · intro i
    by_cases hi : i = c
    · subst hi
      rw [hself, hphase, hidle, Gateway.checkIdempotency_unstored]
      rfl
    · rw [hother i hi]
  · intro i key hown hi
    rcases hnew i key hown hi with ⟨hold, -⟩ | ⟨-, hold, -⟩
    · exact h.checked i key hown hold
    · exact hold
  · intro i j key hown hi hj
    rcases hnew i key hown hi with ⟨hiold, -⟩ | ⟨rfl, -, hinone⟩ <;>
      rcases hnew j key hown hj with ⟨hjold, -⟩ | ⟨rfl, -, hjnone⟩
    · exact h.alone i j key hown hiold hjold
    · exact absurd hiold (hjnone i)
    · exact absurd hjold (hinone j)
    · rfl

/-- A request writes. -/
theorem spaced_wrote {request : Request} {rowId : String}
    (hchecked : s.gateway.calls c = .checked request)
    (hshared : s'.gateway.shared = (Gateway.write s.gateway.shared request rowId).1)
    (hphase : phase' = (Gateway.write s.gateway.shared request rowId).2) :
    Spaced workspaceId own s' := by
  have hwrote : Served s.gateway.shared (.checked request) (.write rowId) _ _ := .wrote request rowId
  have hlog := log_served hwrote
  rw [← hshared] at hlog
  have hstore : s'.gateway.shared.store = s.gateway.shared.store := by
    rw [hshared]
    exact (Gateway.perform_store _ _ _).1
  have hnow : s'.gateway.shared.now = s.gateway.shared.now := by
    rw [hshared]
    exact (Gateway.perform_store _ _ _).2
  -- The call that writes has checked no key any more.
  have hback : ∀ i key, Checks workspaceId s' i key → Checks workspaceId s i key ∧ i ≠ c := by
    rintro i key ⟨found, hfound, hrequest⟩
    by_cases hi : i = c
    · subst hi
      rw [hself, hphase] at hfound
      cases hfound
    · rw [hother i hi] at hfound
      exact ⟨⟨found, hfound, hrequest⟩, hi⟩
  have hunstored : ∀ key time, Unstored workspaceId s key time → Unstored workspaceId s' key time := by
    rintro key time ⟨i, found, response, hfound, hrequest⟩
    have hi : i ≠ c := by
      rintro rfl
      rw [hchecked] at hfound
      cases hfound
    rw [← hother i hi] at hfound
    exact ⟨i, found, response, hfound, hrequest⟩
  have hcovered : ∀ row, Covered workspaceId s row → Covered workspaceId s' row := by
    intro row hrow
    rw [Covered, hnow, hstore]
    exact hrow.imp_right (Or.imp_right (hunstored _ _))
  rcases hlog with hsame | ⟨other, newId, i, kind, payload, hother', hmutation, hnew⟩
  · refine ⟨?_, ?_, ?_, ?_, ?_⟩
    · rw [hsame, hnow]
      exact h.past
    · rw [hsame]
      exact h.apart
    · rw [hsame]
      exact fun row hrow hworkspace hown => hcovered row (h.covered row hrow hworkspace hown)
    · intro i key hown hi
      rw [Old, hsame, hnow]
      exact h.checked i key hown (hback i key hi).1
    · exact fun i j key hown hi hj =>
        h.alone i j key hown (hback i key hi).1 (hback j key hj).1
  · obtain rfl : request = other := by
      cases hother'
      rfl
    constructor
    · intro row hrow hworkspace hown
      rw [hnow]
      rcases List.mem_append.mp (hnew ▸ hrow) with hold | hin
      · exact h.past row hold hworkspace hown
      · rw [List.mem_singleton.mp hin]
    · rw [hnew, List.pairwise_append]
      refine ⟨h.apart, List.pairwise_singleton _ _, ?_⟩
      intro row hrow row' hrow' hworkspace hown hworkspace' hkey
      rw [List.mem_singleton.mp hrow'] at hworkspace' hkey ⊢
      exact h.checked c row.idempotencyKey hown ⟨request, hchecked, hworkspace', hkey⟩ row hrow
        hworkspace rfl
    · intro row hrow hworkspace hown
      rcases List.mem_append.mp (hnew ▸ hrow) with hold | hin
      · exact hcovered row (h.covered row hold hworkspace hown)
      · rw [List.mem_singleton.mp hin] at hworkspace ⊢
        exact Or.inr (Or.inr ⟨c, request, _, by rw [hself, hphase]; rfl, hworkspace, rfl⟩)
    · intro j key hown hj row hrow hworkspace hkey
      rw [hnow]
      obtain ⟨hjold, hj'⟩ := hback j key hj
      rcases List.mem_append.mp (hnew ▸ hrow) with hold | hin
      · exact h.checked j key hown hjold row hold hworkspace hkey
      · rw [List.mem_singleton.mp hin] at hworkspace hkey
        exact absurd (h.alone j c key hown hjold ⟨request, hchecked, hworkspace, hkey⟩) hj'
    · exact fun i j key hown hi hj =>
        h.alone i j key hown (hback i key hi).1 (hback j key hj).1

/-- A response is stored. -/
theorem spaced_stored {request : Request} {response : Response} {time : Nat}
    (hwritten : s.gateway.calls c = .written request response time)
    (hshared : s'.gateway.shared =
      Gateway.storeIdempotencyResult s.gateway.shared request response)
    (hphase : phase' = .answered request response) : Spaced workspaceId own s' := by
  have hlog : s'.gateway.shared.decisionLog = s.gateway.shared.decisionLog := by
    rw [hshared]
    rfl
  have hnow : s'.gateway.shared.now = s.gateway.shared.now := by
    rw [hshared]
    rfl
  have hstore : s'.gateway.shared.store = Function.update s.gateway.shared.store request.storeKey
      (some (response, s.gateway.shared.now + ttl)) := by
    rw [hshared]
    rfl
  have hback : ∀ i key, Checks workspaceId s' i key → Checks workspaceId s i key := by
    rintro i key ⟨found, hfound, hrequest⟩
    by_cases hi : i = c
    · subst hi
      rw [hself, hphase] at hfound
      cases hfound
    · rw [hother i hi] at hfound
      exact ⟨found, hfound, hrequest⟩
  constructor
  · rw [hlog, hnow]
    exact h.past
  · rw [hlog]
    exact h.apart
  · intro row hrow hworkspace hown
    rw [hlog] at hrow
    rw [Covered, hnow, hstore]
    by_cases hkey : buildIdempotencyKey workspaceId row.idempotencyKey = request.storeKey
    · -- The entry lasts for the retention of any row so far.
      have hpast := h.past row hrow hworkspace hown
      refine Or.inr (Or.inl ⟨_, by rw [hkey, Function.update_self], ?_⟩)
      dsimp only
      omega
    · rw [Function.update_of_ne hkey]
      refine (h.covered row hrow hworkspace hown).imp_right (Or.imp_right ?_)
      rintro ⟨i, found, old, hfound, hrequest⟩
      have hi : i ≠ c := by
        rintro rfl
        rw [hwritten] at hfound
        cases hfound
        rw [Request.storeKey, hrequest.1, hrequest.2] at hkey
        exact hkey rfl
      rw [← hother i hi] at hfound
      exact ⟨i, found, old, hfound, hrequest⟩
  · intro i key hown hi
    rw [Old, hlog, hnow]
    exact h.checked i key hown (hback i key hi)
  · exact fun i j key hown hi hj => h.alone i j key hown (hback i key hi) (hback j key hj)

end

/-! ### Runs -/

theorem spaced_serve (h : Spaced workspaceId own s)
    (hothers : ∀ request, e = .begin request → s.gateway.calls c = .idle →
      request.workspaceId = workspaceId → own request.key → ∀ c other,
        requestOf (s.gateway.calls c) = some other → other.workspaceId = workspaceId →
          other.key = request.key → ¬ HalfWay s.gateway.shared.now (s.gateway.calls c)) :
    Spaced workspaceId own (s.serve c e) := by
  obtain ⟨hself, hother⟩ := calls_serve s c e
  have hserved := served s.gateway.shared (s.gateway.calls c) e
  have hshared : (s.serve c e).gateway.shared =
      (Gateway.advance s.gateway.shared (s.gateway.calls c) e).1 := rfl
  generalize Gateway.advance s.gateway.shared (s.gateway.calls c) e = out at hself hserved hshared
  generalize hphase : s.gateway.calls c = phase at hserved
  obtain ⟨stores', phase'⟩ := out
  dsimp only at hself hserved hshared
  cases hserved with
  | begun request =>
    exact spaced_begun h hself hother hshared hphase rfl (hothers request rfl hphase)
  | wrote request rowId => exact spaced_wrote h hself hother hphase hshared rfl
  | stored request response time => exact spaced_stored h hself hother hphase hshared rfl
  | refused request =>
    refine spaced_quiet h hself hother (by rw [hshared]) (by rw [hshared]) (by rw [hshared]) ?_ ?_
    · rw [hphase]
      rfl
    · rintro _ ⟨⟩
  | lost request response time =>
    refine spaced_quiet h hself hother (by rw [hshared]) (by rw [hshared]) (by rw [hshared]) ?_ ?_
    · rw [hphase]
      rfl
    · rintro _ ⟨⟩
  | passed =>
    refine spaced_quiet h hself hother (by rw [hshared]) (by rw [hshared]) ?_ ?_ ?_
    · rw [hshared]
      exact Nat.le_add_right _ _
    · rw [hphase]
    · exact fun _ _ => hphase

/-- The requests of the phone do not meet under a key when they do not meet about an insight. -/
theorem apart_of_alone (hsound : Sound workspaceId own s) {n : Nat} {x : Sent}
    {claim : Team.Claim} {requestId : String} (halone : Alone s (.arrive n claim requestId))
    (hx : s.sent[n]? = some x) (hidle : s.gateway.calls (2 * n) = .idle) {c : Nat} {other : Request}
    (hother : requestOf (s.gateway.calls c) = some other) (hworkspace : other.workspaceId = workspaceId)
    (hkey : other.key = x.idempotencyKey) :
    ¬ HalfWay s.gateway.shared.now (s.gateway.calls c) := by
  have hmem := List.mem_of_getElem? hx
  have hown : own other.key := hkey ▸ hsound.owned x hmem
  obtain ⟨m, y, _, _, rfl, hy, rfl⟩ := ((hsound.calls c).carries other hother).of_own hworkspace hown
  refine halone m x y hx hy ?_ (hsound.apart y (List.mem_of_getElem? hy) x hmem hkey)
  rintro rfl
  rw [hidle] at hother
  cases hother

theorem spaced_step {e : Event} (hsound : Sound workspaceId own s) (h : Spaced workspaceId own s)
    (hfresh : KeyFresh workspaceId own s e) (halone : Alone s e) :
    Spaced workspaceId own (step workspaceId s e) := by
  have hdrawn : ∀ s' : World, s'.gateway = s.gateway → Spaced workspaceId own s' := by
    rintro ⟨screen, sent, _⟩ rfl
    exact ⟨h.past, h.apart, h.covered, h.checked, h.alone⟩
  cases e with
  | fetchStarted => exact hdrawn _ rfl
  | fetchSucceeded result fetchedAt => exact hdrawn _ rfl
  | fetchFailed message => exact hdrawn _ rfl
  | press insightId button fresh => exact hdrawn _ rfl
  | arrive n claim requestId =>
    simp only [step]
    cases hx : s.sent[n]? with
    | none => exact h
    | some x =>
      refine spaced_serve h fun request he hidle hworkspace hown c other hother hsame hkey => ?_
      cases he
      exact apart_of_alone hsound halone hx hidle hother hsame hkey
  | write n rowId => exact spaced_serve h fun _ he => by cases he
  | store n => exact spaced_serve h fun _ he => by cases he
  | stop n => exact spaced_serve h fun _ he => by cases he
  | other n e =>
    refine spaced_serve h fun request he _ hworkspace hown => ?_
    subst he
    exact absurd hown (hfresh hworkspace)
  | answer n =>
    simp only [step]
    split
    · exact hdrawn _ rfl
    · exact hdrawn _ rfl
    · exact h

theorem Unheard.spaced (hs : Unheard workspaceId own s) : Spaced workspaceId own s := by
  have hnone : ∀ c key, own key → ¬ Checks workspaceId s c key := by
    rintro c key hown ⟨request, hphase, hworkspace, rfl⟩
    have hcarries : Carries workspaceId own s c request := hs.carries (by rw [hphase]; rfl)
    obtain ⟨_, x, _, _, _, hx, _⟩ := hcarries.of_own hworkspace hown
    rw [hs.sent] at hx
    cases hx
  constructor
  · exact fun row hrow hworkspace hown => absurd hown (hs.log row hrow hworkspace)
  · refine List.pairwise_iff_getElem.mpr fun i j hi hj _ hworkspace hown => ?_
    exact absurd hown (hs.log _ (List.getElem_mem hi) hworkspace)
  · exact fun row hrow hworkspace hown => absurd hown (hs.log row hrow hworkspace)
  · exact fun c key hown hc => absurd hc (hnone c key hown)
  · exact fun c c' key hown hc => absurd hc (hnone c key hown)

/-- Rows about one insight have one key. -/
theorem Spaced.votesApart (hsound : Sound workspaceId own s) (h : Spaced workspaceId own s) :
    VotesApart workspaceId own s := by
  refine h.apart.imp_of_mem fun hrow hrow' hapart hworkspace hown hworkspace' hown' hinsight => ?_
  obtain ⟨x, hx, hxinsight, hxkey, -⟩ := (hsound.log _ hrow hworkspace hown).pressed
  obtain ⟨y, hy, hyinsight, hykey, -⟩ := (hsound.log _ hrow' hworkspace' hown').pressed
  have hsame := (hsound.faithful.keys y hy x hx).mpr (by rw [← hxinsight, ← hyinsight, hinsight])
  exact hapart hworkspace hown hworkspace' (by rw [hxkey, hykey, hsame])

/-- When a request arrives only after those about its insight are over, the votes for an insight are
the retention apart. -/
theorem votes_spaced {events : List Event} (hs : Unheard workspaceId own s)
    (h : Allowed (step workspaceId) (fun s e => KeyFresh workspaceId own s e ∧ Alone s e) s events) :
    Always (step workspaceId) (VotesApart workspaceId own) s events := by
  have hkept : Always (step workspaceId)
      (fun s => Sound workspaceId own s ∧ Spaced workspaceId own s) s events :=
    always_of_step (fun _ _ hs he => ⟨sound_step hs.1 he.1, spaced_step hs.1 hs.2 he.1 he.2⟩)
      ⟨hs.sound, hs.spaced⟩ h
  exact hkept.mono fun _ hs => hs.2.votesApart hs.1

/-! ### A vote that is sent twice -/

def launched : World where
  screen := Screen.start (some ⟨[⟨"ins_1", "2025-06-01"⟩], "2025-06-01", "as of now"⟩) none
  sent := []
  gateway := Gateway.opened

def tapKey : IdempotencyKey := ⟨"0a6b5d1e-92c4-4f0b-8a37-6c1d2e3f4a5b", by decide⟩

theorem launched_unheard : Unheard "ws_1" (fun _ => True) launched where
  screen := ⟨_, _, rfl⟩
  sent := rfl
  idle := fun _ => rfl
  others := by
    rintro _ _ ⟨⟩
  store := fun _ _ => rfl
  log := by
    rintro _ ⟨⟩

/-- The answer is lost on its way, and the button is pressed once more. -/
def tapping : List Event :=
  [.press "ins_1" .approve tapKey, .arrive 0 Gateway.managerClaim "req_1", .write 0 "row_1",
    .store 0, .press "ins_1" .approve Gateway.retryKey, .arrive 1 Gateway.managerClaim "req_2",
    .answer 1]

def tapped : Sent := ⟨"ins_1", tapKey, .approve⟩

theorem tapping_fresh :
    Allowed (step "ws_1") (KeyFresh "ws_1" (fun _ => True)) launched tapping := by
  refine ⟨⟨trivial, ?_⟩, trivial, trivial, trivial, ⟨trivial, ?_⟩, trivial, trivial, trivial⟩
  · rintro _ ⟨⟩
  · have hsent : (exec (step "ws_1") launched (tapping.take 4)).sent = [tapped] := rfl
    intro x hx
    have hx' : x ∈ [tapped] := hsent ▸ hx
    rw [List.mem_singleton.mp hx']
    decide

theorem tapping_alone : Allowed (step "ws_1") Alone launched tapping := by
  refine ⟨trivial, ?_, trivial, trivial, trivial, ?_, trivial, trivial⟩
  · have hsent : (exec (step "ws_1") launched (tapping.take 1)).sent = [tapped] := rfl
    intro m x y _ hy hm
    obtain ⟨hlt, -⟩ := List.getElem?_eq_some_iff.mp (hsent ▸ hy)
    rw [List.length_singleton] at hlt
    omega
  · have hsent : (exec (step "ws_1") launched (tapping.take 5)).sent = [tapped, tapped] := rfl
    intro m x y _ hy hm _
    obtain ⟨hlt, -⟩ := List.getElem?_eq_some_iff.mp (hsent ▸ hy)
    rw [List.length_cons, List.length_singleton] at hlt
    obtain rfl : m = 0 := by omega
    exact id

theorem session_faithful_tapping :
    Always (step "ws_1") (Faithful "ws_1" (fun _ => True)) launched tapping :=
  session_faithful launched_unheard tapping_fresh

theorem votes_spaced_tapping :
    Always (step "ws_1") (VotesApart "ws_1" (fun _ => True)) launched tapping :=
  votes_spaced launched_unheard (tapping_fresh.and tapping_alone)

/-- One row is in the log, and the card is settled with it. -/
example : (exec (step "ws_1") launched tapping).gateway.shared.decisionLog.map (·.rowId) =
    ["row_1"] ∧ ((exec (step "ws_1") launched tapping).screen.slice.responses "ins_1").bind
      (·.decisionLogRowId) = some "row_1" := by decide +kernel

end BrainV2.Mobile
