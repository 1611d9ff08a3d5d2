import BrainV2.Gateway.Idempotency

/-!
# Responses to insights on the phone

The Morning Brief screen keeps an action under its insight twice: in the idempotency keys of the
session, and in the slice that the cards are drawn from.

* `ClientIdempotencyStore`, `initiate`, `settle`: the keys of the session;
* `MorningBriefState` and its reducers: the slice;
* `Screen`, `press`, `fetchSucceeded`, `answered`: the handlers of the screen;
* `Agree`: the two say the same of every insight;
* `press_cases`, `answered_settled`: what a press and an answer do.
-/

namespace BrainV2.Mobile

open Gateway (IdempotencyKey ResponseKind SubmitStatus Response)

/-! ### The keys of the session -/

structure PendingAction where
  idempotencyKey : IdempotencyKey
  responseKind : ResponseKind
  editPayload : Option String
  settled : Bool

/-- A map from the ids of insights. -/
abbrev ClientIdempotencyStore : Type := String → Option PendingAction

/-- `fresh` is what `generateIdempotencyKey` makes up. -/
def initiate (pending : ClientIdempotencyStore) (insightId : String) (kind : ResponseKind)
    (editPayload : Option String) (fresh : IdempotencyKey) :
    ClientIdempotencyStore × PendingAction :=
  let action : PendingAction :=
    match pending insightId with
    | some existing =>
      if existing.settled then ⟨fresh, kind, editPayload, false⟩
      else { existing with responseKind := kind, editPayload := editPayload }
    | none => ⟨fresh, kind, editPayload, false⟩
  (Function.update pending insightId (some action), action)

def settle (pending : ClientIdempotencyStore) (insightId : String) : ClientIdempotencyStore :=
  match pending insightId with
  | some existing => Function.update pending insightId (some { existing with settled := true })
  | none => pending

/-! ### The slice -/

structure InsightItem where
  insightId : String
  dataEpoch : String

structure MorningBrief where
  items : List InsightItem
  dataEpoch : String
  freshnessLabel : String

structure InsightResponseState where
  insightId : String
  idempotencyKey : IdempotencyKey
  responseKind : ResponseKind
  editPayload : Option String
  settled : Bool
  status : Option SubmitStatus
  decisionLogRowId : Option String

structure MorningBriefState where
  brief : Option MorningBrief
  fetchedAt : Option String
  isOffline : Bool
  isFetching : Bool
  fetchError : Option String
  responses : String → Option InsightResponseState

def setBrief (state : MorningBriefState) (brief : MorningBrief) (fetchedAt : String) :
    MorningBriefState :=
  { state with brief := some brief, fetchedAt := some fetchedAt, fetchError := none, isOffline := false }

def setOffline (state : MorningBriefState) : MorningBriefState := { state with isOffline := true }

def setOnline (state : MorningBriefState) : MorningBriefState := { state with isOffline := false }

def setFetching (state : MorningBriefState) (isFetching : Bool) : MorningBriefState :=
  { state with isFetching := isFetching }

def setFetchError (state : MorningBriefState) (message : String) : MorningBriefState :=
  { state with fetchError := some message }

def initiateResponse (state : MorningBriefState) (insightId : String)
    (idempotencyKey : IdempotencyKey) (responseKind : ResponseKind) (editPayload : Option String) :
    MorningBriefState :=
  let response : InsightResponseState :=
    match state.responses insightId with
    | some existing =>
      if existing.settled then
        ⟨insightId, idempotencyKey, responseKind, editPayload, false, none, none⟩
      else { existing with responseKind := responseKind, editPayload := editPayload }
    | none => ⟨insightId, idempotencyKey, responseKind, editPayload, false, none, none⟩
  { state with responses := Function.update state.responses insightId (some response) }

def settleResponse (state : MorningBriefState) (insightId : String) (status : Option SubmitStatus)
    (decisionLogRowId : Option String) : MorningBriefState :=
  match state.responses insightId with
  | some existing =>
    let response : InsightResponseState :=
      { existing with settled := true, status := status, decisionLogRowId := decisionLogRowId }
    { state with responses := Function.update state.responses insightId (some response) }
  | none => state

/-! ### The screen -/

structure Screen where
  slice : MorningBriefState
  pending : ClientIdempotencyStore

/-- The app starts with the brief it has kept, and no responses. -/
def Screen.start (brief : Option MorningBrief) (fetchedAt : Option String) : Screen :=
  ⟨⟨brief, fetchedAt, false, false, none, fun _ => none⟩, fun _ => none⟩

/-- The three cards. -/
def cards (state : MorningBriefState) : List InsightItem :=
  match state.brief with
  | some brief => brief.items.take 3
  | none => []

def ctasDisabled (state : MorningBriefState) (insightId : String) : Bool :=
  state.isOffline || (state.responses insightId).any (·.settled)

def fetchStarted (screen : Screen) : Screen :=
  { screen with slice := setFetching screen.slice true }

def fetchSucceeded (screen : Screen) (result : MorningBrief) (fetchedAt : String) : Screen :=
  let brief : MorningBrief := { result with items := result.items.take 3 }
  { screen with slice := setFetching (setOnline (setBrief screen.slice brief fetchedAt)) false }

def fetchFailed (screen : Screen) (message : Option String) : Screen :=
  let errMsg :=
    match message with
    | some text => "Fetch failed: " ++ text
    | none => "Fetch failed. Please check your connection."
  { screen with slice := setFetching (setOffline (setFetchError screen.slice errMsg)) false }

/-- A request to the gateway. -/
structure Sent where
  insightId : String
  idempotencyKey : IdempotencyKey
  responseKind : ResponseKind

def respond (kind : ResponseKind) (screen : Screen) (insightId : String) (fresh : IdempotencyKey) :
    Screen × Sent :=
  let started := initiate screen.pending insightId kind none fresh
  let key := started.2.idempotencyKey
  (⟨initiateResponse screen.slice insightId key kind none, started.1⟩, ⟨insightId, key, kind⟩)

def handleApprove : Screen → String → IdempotencyKey → Screen × Sent := respond .approve

def handleReject : Screen → String → IdempotencyKey → Screen × Sent := respond .reject

inductive Button where
  | approve
  | reject
  /-- Disabled as long as `EDIT_UI_READY` is false. -/
  | edit
deriving DecidableEq

def press (screen : Screen) (insightId : String) (button : Button) (fresh : IdempotencyKey) :
    Screen × Option Sent :=
  if insightId ∈ (cards screen.slice).map (·.insightId) ∧
      ctasDisabled screen.slice insightId = false then
    match button with
    | .approve => ((handleApprove screen insightId fresh).map id some)
    | .reject => ((handleReject screen insightId fresh).map id some)
    | .edit => (screen, none)
  else (screen, none)

/-- A response of another mutation has neither field. -/
def answered (screen : Screen) (insightId : String) (response : Response) : Screen :=
  let fields : Option SubmitStatus × Option String :=
    match response.result with
    | .submitted rowId status => (some status, some rowId)
    | .goal _ => (none, none)
  ⟨settleResponse screen.slice insightId fields.1 fields.2, settle screen.pending insightId⟩

/-! ### Agreement -/

def InsightResponseState.action (response : InsightResponseState) : PendingAction :=
  ⟨response.idempotencyKey, response.responseKind, response.editPayload, response.settled⟩

/-- The slice holds the actions of the session, each under its own insight. -/
structure Agree (screen : Screen) : Prop where
  action : ∀ i, (screen.slice.responses i).map InsightResponseState.action = screen.pending i
  insight : ∀ i response, screen.slice.responses i = some response → response.insightId = i

variable {screen : Screen} {insightId : String} {kind : ResponseKind} {fresh : IdempotencyKey}

theorem agree_start (brief : Option MorningBrief) (fetchedAt : Option String) :
    Agree (Screen.start brief fetchedAt) := by
  constructor
  · intro i
    rfl
  · intro i response h
    cases h

/-- An action that is not settled stays one. -/
theorem initiate_unsettled {pending : ClientIdempotencyStore} {editPayload : Option String}
    (h : ∀ action, pending insightId = some action → action.settled = false) :
    (initiate pending insightId kind editPayload fresh).2.settled = false := by
  unfold initiate
  dsimp only
  split
  · next existing hexisting =>
    rw [if_neg (Bool.eq_false_iff.mp (h existing hexisting))]
    exact h existing hexisting
  · rfl

theorem agree_respond (h : Agree screen) : Agree (respond kind screen insightId fresh).1 := by
  have haction := h.action insightId
  constructor
  · intro i
    by_cases hi : i = insightId
    · subst hi
      simp only [respond, initiate, initiateResponse, Function.update_self, Option.map_some]
      cases hresponse : screen.slice.responses i with
      | none =>
        rw [hresponse] at haction
        rw [← haction]
        rfl
      | some response =>
        rw [hresponse] at haction
        rw [← haction]
        cases hsettled : response.settled <;>
          simp [InsightResponseState.action, hsettled]
    · simp only [respond, initiate, initiateResponse, Function.update_of_ne hi]
      exact h.action i
  · intro i response hresponse
    by_cases hi : i = insightId
    · subst hi
      simp only [respond, initiateResponse, Function.update_self, Option.some.injEq] at hresponse
      subst hresponse
      split
      · next existing hexisting =>
        split
        · rfl
        · exact h.insight i existing hexisting
      · rfl
    · simp only [respond, initiateResponse, Function.update_of_ne hi] at hresponse
      exact h.insight i response hresponse

theorem agree_answered (h : Agree screen) (response : Response) :
    Agree (answered screen insightId response) := by
  have haction := h.action insightId
  unfold answered settleResponse settle
  dsimp only
  cases hresponse : screen.slice.responses insightId with
  | none =>
    rw [hresponse] at haction
    rw [← haction]
    exact h
  | some existing =>
    rw [hresponse] at haction
    rw [← haction]
    constructor
    · intro i
      by_cases hi : i = insightId
      · subst hi
        simp [InsightResponseState.action]
      · simp only [Option.map_some, Function.update_of_ne hi]
        exact h.action i
    · intro i found hfound
      by_cases hi : i = insightId
      · subst hi
        simp only [Function.update_self, Option.some.injEq] at hfound
        subst hfound
        exact h.insight i existing hresponse
      · simp only [Function.update_of_ne hi] at hfound
        exact h.insight i found hfound

/-! ### Presses and answers -/

def keyOf (screen : Screen) (insightId : String) : Option IdempotencyKey :=
  (screen.pending insightId).map (·.idempotencyKey)

/-- A press that sends: under the key of the insight, or under a new one if it has none. -/
structure Pressed (screen screen' : Screen) (x : Sent) (fresh : IdempotencyKey) : Prop where
  agree : Agree screen'
  key : keyOf screen x.insightId = some x.idempotencyKey ∨
    keyOf screen x.insightId = none ∧ x.idempotencyKey = fresh
  keys : ∀ i, keyOf screen' i = if i = x.insightId then some x.idempotencyKey else keyOf screen i
  settled : ∀ i response, screen'.slice.responses i = some response → response.settled = true →
    screen.slice.responses i = some response

theorem pressed_respond (h : Agree screen) (henabled : ctasDisabled screen.slice insightId = false) :
    Pressed screen (respond kind screen insightId fresh).1 (respond kind screen insightId fresh).2
      fresh := by
  have haction := h.action insightId
  have hunsettled : ∀ action, screen.pending insightId = some action → action.settled = false := by
    intro action hpending
    rw [hpending, Option.map_eq_some_iff] at haction
    obtain ⟨response, hresponse, rfl⟩ := haction
    rw [ctasDisabled, Bool.or_eq_false_iff, hresponse] at henabled
    exact henabled.2
  constructor
  · exact agree_respond h
  · simp only [respond, initiate, keyOf]
    cases hpending : screen.pending insightId with
    | none => exact Or.inr ⟨rfl, rfl⟩
    | some action =>
      have hopen := hunsettled action hpending
      exact Or.inl (by simp [hopen])
  · intro i
    by_cases hi : i = insightId
    · simp [keyOf, respond, initiate, hi]
    · simp [keyOf, respond, initiate, hi]
  · intro i response hresponse hsettled
    by_cases hi : i = insightId
    · subst hi
      have hresponded : Agree (respond kind screen i fresh).1 := agree_respond h
      have hagree := hresponded.action i
      rw [hresponse] at hagree
      have hstarted : (initiate screen.pending i kind none fresh).2.settled = false :=
        initiate_unsettled hunsettled
      simp only [respond, initiate, Function.update_self, Option.map_some, Option.some.injEq] at hagree
      simp only [initiate] at hstarted
      rw [← hagree] at hstarted
      exact absurd hsettled (Bool.eq_false_iff.mp hstarted)
    · simpa only [respond, initiateResponse, Function.update_of_ne hi] using hresponse

/-- A press does nothing or sends one request. -/
theorem press_cases (h : Agree screen) (button : Button) :
    press screen insightId button fresh = (screen, none) ∨
      ∃ screen' x, press screen insightId button fresh = (screen', some x) ∧
        Pressed screen screen' x fresh := by
  unfold press
  split
  · next hguard =>
    cases button with
    | approve => exact Or.inr ⟨_, _, rfl, pressed_respond h hguard.2⟩
    | reject => exact Or.inr ⟨_, _, rfl, pressed_respond h hguard.2⟩
    | edit => exact Or.inl rfl
  · exact Or.inl rfl

theorem keyOf_answered (response : Response) (i : String) :
    keyOf (answered screen insightId response) i = keyOf screen i := by
  unfold keyOf answered settle
  dsimp only
  cases hpending : screen.pending insightId with
  | none => rfl
  | some action =>
    by_cases hi : i = insightId
    · subst hi
      simp [hpending]
    · simp [hi]

/-- What an answer settles has the fields of the answer. -/
theorem answered_settled {rowId : String} {status : SubmitStatus} {response : Response}
    (hresult : response.result = .submitted rowId status) {i : String}
    {found : InsightResponseState}
    (hfound : (answered screen insightId response).slice.responses i = some found) :
    screen.slice.responses i = some found ∨
      i = insightId ∧ found.status = some status ∧ found.decisionLogRowId = some rowId := by
  unfold answered settleResponse at hfound
  rw [hresult] at hfound
  dsimp only at hfound
  split at hfound
  · dsimp only at hfound
    by_cases hi : i = insightId
    · subst hi
      rw [Function.update_self, Option.some.injEq] at hfound
      subst hfound
      exact Or.inr ⟨rfl, rfl, rfl⟩
    · rw [Function.update_of_ne hi] at hfound
      exact Or.inl hfound
  · exact Or.inl hfound

end BrainV2.Mobile
