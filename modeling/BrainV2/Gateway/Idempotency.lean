import BrainV2.Lib.Dict
import BrainV2.Team.Requests

/-!
# Idempotency keys

`settings.upsertGoal` and `morningBrief.submitResponse`: each reads the store, writes through the
data plane, and stores its response, in three steps.

* `IdempotencyKey`, `buildIdempotencyKey`: the keys, and where the store keeps them;
* `Mutation`, `Gateway`, `perform`: the two mutations and the data plane;
* `Phase`, `Event`, `advance`: a request and its next step.
-/

namespace BrainV2.Gateway

open Runs
open Team (Claim requireRole)

/-! ### Keys -/

def isHexDigit (c : Char) : Bool :=
  c.isDigit || ('a' ≤ c && c ≤ 'f') || ('A' ≤ c && c ≤ 'F')

/-- `uuid()` -/
def isUuid (text : String) : Bool :=
  text.toList.map (fun c => if isHexDigit c then 'x' else c) =
    "xxxxxxxx-xxxx-xxxx-xxxx-xxxxxxxxxxxx".toList

structure IdempotencyKey where
  text : String
  valid : isUuid text = true
deriving DecidableEq

theorem IdempotencyKey.no_colon (key : IdempotencyKey) : ':' ∉ key.text.toList := by
  intro h
  have hshape := of_decide_eq_true key.valid
  have hcolon := List.mem_map_of_mem (f := fun c => if isHexDigit c then 'x' else c) h
  rw [hshape] at hcolon
  revert hcolon
  decide

def buildIdempotencyKey (workspaceId : String) (key : IdempotencyKey) : String :=
  "ws:" ++ workspaceId ++ ":idem:" ++ key.text

theorem append_colon_inj {as bs cs ds : List Char} (hb : ':' ∉ bs) (hd : ':' ∉ ds)
    (h : as ++ ':' :: bs = cs ++ ':' :: ds) : as = cs ∧ bs = ds := by
  rcases List.append_eq_append_iff.mp h with ⟨mid, rfl, hmid⟩ | ⟨mid, rfl, hmid⟩
  · cases mid with
    | nil =>
      cases hmid
      exact ⟨(List.append_nil as).symm, rfl⟩
    | cons c mid =>
      cases hmid
      exact absurd (List.mem_append_right mid List.mem_cons_self) hb
  · cases mid with
    | nil =>
      cases hmid
      exact ⟨List.append_nil cs, rfl⟩
    | cons c mid =>
      cases hmid
      exact absurd (List.mem_append_right mid List.mem_cons_self) hd

theorem buildIdempotencyKey_inj {workspaceId workspaceId' : String} {key key' : IdempotencyKey}
    (h : buildIdempotencyKey workspaceId key = buildIdempotencyKey workspaceId' key') :
    workspaceId = workspaceId' ∧ key = key' := by
  have hlists := congrArg String.toList h
  have hsplit : ∀ (w : String) (k : IdempotencyKey), (buildIdempotencyKey w k).toList =
      ("ws:".toList ++ w.toList ++ ":idem".toList) ++ ':' :: k.text.toList := by
    intro w k
    simp [buildIdempotencyKey, String.toList_append]
  rw [hsplit, hsplit] at hlists
  obtain ⟨hfirst, hlast⟩ := append_colon_inj key.no_colon key'.no_colon hlists
  have hworkspace := List.append_cancel_left (List.append_cancel_right hfirst)
  have hkey : key.text = key'.text := String.toList_injective hlast
  refine ⟨String.toList_injective hworkspace, ?_⟩
  cases key
  cases hkey
  rfl

/-! ### Mutations -/

inductive ResponseKind where
  | approve
  | reject
  | edit

inductive GoalPeriodType where
  | daily
  | weekly
  | monthly
deriving DecidableEq

inductive GoalValueType where
  | minimum
  | maximum
  | target

/-- The inputs of the two mutations. -/
inductive Mutation where
  | submitResponse (insightId : String) (responseKind : ResponseKind) (editPayload : Option String)
  | upsertGoal (metricName : String) (periodType : GoalPeriodType) (periodStart : String)
      (goalValue : Nat) (goalType : GoalValueType)

inductive MutationName where
  | submitResponse
  | upsertGoal
deriving DecidableEq

def Mutation.name : Mutation → MutationName
  | .submitResponse _ _ _ => .submitResponse
  | .upsertGoal _ _ _ _ _ => .upsertGoal

inductive SubmitStatus where
  | loggedAsVote
  | queuedForExecution

structure GoalUpsertResult where
  goalId : String
  metricName : String
  periodType : GoalPeriodType
  periodStart : String
  goalValue : Nat
  goalType : GoalValueType

/-- What the data plane answers. -/
inductive Result where
  | submitted (decisionLogRowId : String) (status : SubmitStatus)
  | goal (result : GoalUpsertResult)

def Result.name : Result → MutationName
  | .submitted _ _ => .submitResponse
  | .goal _ => .upsertGoal

structure Response where
  result : Result
  requestId : String
  idempotentReplay : Bool

/-- A request that the routes have let in. -/
structure Request where
  claim : Claim
  workspaceId : String
  requestId : String
  key : IdempotencyKey
  mutation : Mutation

def Request.storeKey (request : Request) : String :=
  buildIdempotencyKey request.workspaceId request.key

/-! ### The store and the data plane -/

structure DecisionLogRow where
  rowId : String
  workspaceId : String
  insightId : String
  responseKind : ResponseKind
  idempotencyKey : IdempotencyKey
  createdAt : Nat

/-- A write of the data plane, for the record. -/
structure Write where
  workspaceId : String
  key : IdempotencyKey
  mutation : MutationName
  result : Result
  time : Nat

abbrev GoalKey : Type := String × GoalPeriodType × String

/-- Times are seconds; an entry of the store has the time at which it goes. -/
structure Stores where
  now : Nat
  store : String → Option (Response × Nat)
  decisionLog : List DecisionLogRow
  goals : String → List (GoalKey × GoalUpsertResult)
  writes : List Write

/-- `IDEM_TTL_SECONDS` -/
def ttl : Nat := 86400

def Stores.get (stores : Stores) (key : String) : Option Response :=
  (stores.store key).bind fun entry => if stores.now < entry.2 then some entry.1 else none

def storeIdempotencyResult (stores : Stores) (request : Request) (response : Response) : Stores :=
  { stores with
    store := Function.update stores.store request.storeKey (some (response, stores.now + ttl)) }

/-- `InMemoryGoalStore.upsert`, on the goals of the workspace -/
def upsertGoal (goals : List (GoalKey × GoalUpsertResult)) (metricName : String)
    (periodType : GoalPeriodType) (periodStart : String) (goalValue : Nat)
    (goalType : GoalValueType) : GoalUpsertResult where
  goalId :=
    match goals.lookup (metricName, periodType, periodStart) with
    | some existing => existing.goalId
    | none => "goal_" ++ toString (goals.length + 1)
  metricName := metricName
  periodType := periodType
  periodStart := periodStart
  goalValue := goalValue
  goalType := goalType

/-- The write of the data plane; `rowId` is what `newRowId` makes up. -/
def perform (stores : Stores) (request : Request) (rowId : String) : Stores × Result :=
  match request.mutation with
  | .submitResponse insightId responseKind _ =>
    let row : DecisionLogRow :=
      ⟨rowId, request.workspaceId, insightId, responseKind, request.key, stores.now⟩
    ({ stores with decisionLog := stores.decisionLog ++ [row] }, .submitted rowId .loggedAsVote)
  | .upsertGoal metricName periodType periodStart goalValue goalType =>
    let goals := stores.goals request.workspaceId
    let result := upsertGoal goals metricName periodType periodStart goalValue goalType
    let next := Dict.set goals (metricName, periodType, periodStart) result
    ({ stores with goals := Function.update stores.goals request.workspaceId next }, .goal result)

/-! ### Requests -/

inductive Phase where
  | idle
  /-- The store had no response under the key. -/
  | checked (request : Request)
  /-- The data plane has written, at that time. -/
  | written (request : Request) (response : Response) (time : Nat)
  | answered (request : Request) (response : Response)
  | replayed (request : Request) (response : Response)
  /-- The process ended before the response was stored. -/
  | lost (request : Request) (response : Response) (time : Nat)
  | failed

inductive Event where
  | begin (request : Request)
  | write (rowId : String)
  | store
  | stop
  /-- Time passes. -/
  | pass (seconds : Nat)

/-- The answer from the store: a goal is read from the fields of a goal, and `BigInt(undefined)`
throws. -/
def replay (request : Request) (cached : Response) : Phase :=
  match request.mutation.name, cached.result with
  | .submitResponse, _ => .replayed request { cached with idempotentReplay := true }
  | .upsertGoal, .goal result => .replayed request ⟨.goal result, request.requestId, true⟩
  | .upsertGoal, .submitted _ _ => .failed

def checkIdempotency (stores : Stores) (request : Request) : Phase :=
  if requireRole request.claim .manager then
    match stores.get request.storeKey with
    | some cached => replay request cached
    | none => .checked request
  else .failed

def write (stores : Stores) (request : Request) (rowId : String) : Stores × Phase :=
  let out := perform stores request rowId
  let done : Write :=
    ⟨request.workspaceId, request.key, request.mutation.name, out.2, stores.now⟩
  ({ out.1 with writes := stores.writes ++ [done] },
    .written request ⟨out.2, request.requestId, false⟩ stores.now)

/-- An event that is not the request's next step leaves everything as it is. -/
def advance (stores : Stores) : Phase → Event → Stores × Phase
  | .idle, .begin request => (stores, checkIdempotency stores request)
  | .checked request, .write rowId => write stores request rowId
  | .written request response _, .store =>
    (storeIdempotencyResult stores request response, .answered request response)
  | .checked _, .stop => (stores, .failed)
  | .written request response time, .stop => (stores, .lost request response time)
  | phase, .pass seconds => ({ stores with now := stores.now + seconds }, phase)
  | phase, _ => (stores, phase)

abbrev Requests : Type := Interleave.State Stores Phase

def step : Requests → Nat × Event → Requests := Interleave.step advance

theorem perform_name (stores : Stores) (request : Request) (rowId : String) :
    (perform stores request rowId).2.name = request.mutation.name := by
  rw [perform]
  cases request.mutation <;> rfl

/-- The data plane leaves the store, the clock and the record. -/
theorem perform_store (stores : Stores) (request : Request) (rowId : String) :
    (perform stores request rowId).1.store = stores.store ∧
      (perform stores request rowId).1.now = stores.now := by
  rw [perform]
  cases request.mutation <;> exact ⟨rfl, rfl⟩

end BrainV2.Gateway
