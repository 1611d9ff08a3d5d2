import BrainV2.Connectors.OAuthCallback
import BrainV2.Lib.Interleave

/-!
# Connect flows

A flow begins with a state, and ends when its callback has stored a token.

* `createOAuthState`, `TableEvent`, `apply`: the table of states;
* `Ends`: what takes a state from the table: its answer, or a later flow of the workspace and
  vendor when it has expired;
* `accepted_iff`: a callback is let in exactly when its flow was begun and has not ended;
* `initiateConnect`: the beginning of a flow, which asks for a store of Shopify;
* `Phase`, `advance`: the calls, whose steps come in any order;
* `callback_alone`: a callback that nothing comes between is `completeCallback`.
-/

namespace BrainV2.Connect

open Runs
open Connectors (Hashes OAuthStateRow ProviderEnv ExchangeRequest ExchangedToken CallbackParams
  CallbackFailure CallbackResult CallbackRun CallbackAnswers hashState validateAndConsumeOAuthState
  consumed_of_some checkSignature exchangeRequest exchangeFailed exchangeAndStore completeCallback)
open Js (JsError Result)

/-! ### The table of states -/

/-- What `initiateConnect` hands to `createOAuthState`. -/
structure Flow where
  state : String
  vendor : String
  workspaceId : String
  userId : String
  shopDomain : Option String

/-- `STATE_TTL_MS` -/
def stateTtlMs : Int := 10 * 60 * 1000

variable (hashes : Hashes)

def Flow.row (flow : Flow) (now : Int) : OAuthStateRow where
  stateHash := hashState hashes flow.state
  workspaceId := flow.workspaceId
  vendor := flow.vendor
  userId := flow.userId
  shopDomain := flow.shopDomain
  expiresAt := now + stateTtlMs

/-- The rows that a new flow deletes at the time of the database. -/
def Pruned (flow : Flow) (dbNow : Int) (row : OAuthStateRow) : Prop :=
  row.workspaceId = flow.workspaceId ∧ row.vendor = flow.vendor ∧ row.expiresAt < dbNow

instance (flow : Flow) (dbNow : Int) (row : OAuthStateRow) : Decidable (Pruned flow dbNow row) :=
  inferInstanceAs (Decidable (_ ∧ _ ∧ _))

/-- `now` is the time of the process. -/
def createOAuthState (now dbNow : Int) (states : List OAuthStateRow) (flow : Flow) :
    List OAuthStateRow :=
  let kept := states.filter fun row => ¬ Pruned flow dbNow row
  if kept.any (·.stateHash = hashState hashes flow.state) then kept
  else kept ++ [flow.row hashes now]

inductive TableEvent where
  | initiate (flow : Flow) (now dbNow : Int)
  /-- A callback that comes with a code and a state. -/
  | consume (state vendor : String) (now : Int)

def apply (states : List OAuthStateRow) : TableEvent → List OAuthStateRow
  | .initiate flow now dbNow => createOAuthState hashes now dbNow states flow
  | .consume state vendor now =>
    (validateAndConsumeOAuthState hashes now states state vendor).2

/-- The event takes the row from the table. -/
def Ends (row : OAuthStateRow) : TableEvent → Prop
  | .initiate flow _ dbNow => Pruned flow dbNow row
  | .consume state _ _ => hashState hashes state = row.stateHash

/-- No two flows have one state. -/
def Distinct (es : List TableEvent) : Prop :=
  es.Pairwise fun e e' => ∀ flow now dbNow flow' now' dbNow',
    e = .initiate flow now dbNow → e' = .initiate flow' now' dbNow' →
      hashState hashes flow.state ≠ hashState hashes flow'.state

/-- The flow of the row was begun, and has not ended since. -/
def Open (es : List TableEvent) (row : OAuthStateRow) : Prop :=
  ∃ before flow now dbNow after, es = before ++ .initiate flow now dbNow :: after ∧
    row = flow.row hashes now ∧ ∀ e ∈ after, ¬ Ends hashes row e

variable {hashes}

theorem mem_create {now dbNow : Int} {states : List OAuthStateRow} {flow : Flow}
    (hfresh : ∀ row ∈ states, row.stateHash ≠ hashState hashes flow.state) {row : OAuthStateRow} :
    row ∈ createOAuthState hashes now dbNow states flow ↔
      row ∈ states ∧ ¬ Pruned flow dbNow row ∨ row = flow.row hashes now := by
  have hnew : (states.filter fun row => ¬ Pruned flow dbNow row).any
      (·.stateHash = hashState hashes flow.state) = false := by
    simp only [List.any_eq_false, decide_eq_true_eq]
    exact fun row hrow => hfresh row (List.mem_of_mem_filter hrow)
  rw [createOAuthState, hnew]
  simp

theorem mem_consume {state vendor : String} {now : Int} {states : List OAuthStateRow}
    {row : OAuthStateRow} :
    row ∈ (validateAndConsumeOAuthState hashes now states state vendor).2 ↔
      row ∈ states ∧ row.stateHash ≠ hashState hashes state := by
  simp [validateAndConsumeOAuthState]

/-- Every row in the table is that of a flow. -/
theorem flow_of_mem {es : List TableEvent} {row : OAuthStateRow}
    (h : row ∈ exec (apply hashes) [] es) :
    ∃ flow now dbNow, .initiate flow now dbNow ∈ es ∧ row = flow.row hashes now := by
  induction es using List.reverseRecOn with
  | nil => cases h
  | append_singleton es e ih =>
    rw [exec_append, exec_cons, exec_nil] at h
    have hold : row ∈ exec (apply hashes) [] es →
        ∃ flow now dbNow, .initiate flow now dbNow ∈ es ++ [e] ∧ row = flow.row hashes now := by
      intro hrow
      obtain ⟨flow, now, dbNow, hmem, heq⟩ := ih hrow
      exact ⟨flow, now, dbNow, List.mem_append_left _ hmem, heq⟩
    cases e with
    | consume state vendor now => exact hold (mem_consume.mp h).1
    | initiate flow now dbNow =>
      rw [apply, createOAuthState] at h
      split at h
      · exact hold (List.mem_of_mem_filter h)
      · rcases List.mem_append.mp h with h | h
        · exact hold (List.mem_of_mem_filter h)
        · exact ⟨flow, now, dbNow, List.mem_append_right _ List.mem_cons_self,
            List.mem_singleton.mp h⟩

theorem open_append_iff {es : List TableEvent} {e : TableEvent} {row : OAuthStateRow} :
    Open hashes (es ++ [e]) row ↔ Open hashes es row ∧ ¬ Ends hashes row e ∨
      ∃ flow now dbNow, e = .initiate flow now dbNow ∧ row = flow.row hashes now := by
  constructor
  · rintro ⟨before, flow, now, dbNow, after, hes, hrow, hafter⟩
    rcases List.eq_nil_or_concat after with rfl | ⟨after, last, rfl⟩
    · obtain ⟨-, hlast⟩ := List.append_inj' hes rfl
      exact Or.inr ⟨flow, now, dbNow, List.singleton_inj.mp hlast, hrow⟩
    · rw [List.concat_eq_append, ← List.cons_append, ← List.append_assoc] at hes
      have hparts : es ++ [e] = (before ++ .initiate flow now dbNow :: after) ++ [last] := by
        rw [hes, List.append_assoc, List.cons_append]
      obtain ⟨hfirst, hlast⟩ := List.append_inj' hparts rfl
      obtain rfl := List.singleton_inj.mp hlast
      refine Or.inl ⟨⟨before, flow, now, dbNow, after, hfirst, hrow, fun e he => ?_⟩, ?_⟩
      · exact hafter e (by simp [he])
      · exact hafter _ (by simp)
  · rintro (⟨⟨before, flow, now, dbNow, after, rfl, hrow, hafter⟩, hlast⟩ |
      ⟨flow, now, dbNow, rfl, hrow⟩)
    · refine ⟨before, flow, now, dbNow, after ++ [e], by simp, hrow, fun e' he' => ?_⟩
      rcases List.mem_append.mp he' with he' | he'
      · exact hafter e' he'
      · rw [List.mem_singleton.mp he']
        exact hlast
    · exact ⟨es, flow, now, dbNow, [], rfl, hrow, fun e he => absurd he List.not_mem_nil⟩

/-- The table holds the flows that were begun and have not ended. -/
theorem mem_exec_iff {es : List TableEvent} (hes : Distinct hashes es) {row : OAuthStateRow} :
    row ∈ exec (apply hashes) [] es ↔ Open hashes es row := by
  induction es using List.reverseRecOn generalizing row with
  | nil =>
    constructor
    · exact fun h => absurd h List.not_mem_nil
    · rintro ⟨before, flow, now, dbNow, after, hes, -⟩
      simp at hes
  | append_singleton es e ih =>
    obtain ⟨hold, -, hlast⟩ := List.pairwise_append.mp hes
    rw [exec_append, exec_cons, exec_nil, open_append_iff, ← ih hold]
    cases e with
    | consume state vendor now =>
      rw [apply, mem_consume]
      simp [Ends, eq_comm]
    | initiate flow now dbNow =>
      rw [apply, mem_create]
      · simp only [Ends, TableEvent.initiate.injEq]
        refine or_congr Iff.rfl ⟨fun h => ⟨flow, now, dbNow, ⟨rfl, rfl, rfl⟩, h⟩, ?_⟩
        rintro ⟨_, _, _, ⟨rfl, rfl, rfl⟩, h⟩
        exact h
      · intro row hrow hsame
        obtain ⟨flow', now', dbNow', hmem, rfl⟩ := flow_of_mem hrow
        exact hlast _ hmem _ List.mem_cons_self _ _ _ _ _ _ rfl rfl hsame

theorem nodup_exec {es : List TableEvent} :
    ((exec (apply hashes) [] es).map (·.stateHash)).Nodup := by
  induction es using List.reverseRecOn with
  | nil => exact List.nodup_nil
  | append_singleton es e ih =>
    rw [exec_append, exec_cons, exec_nil]
    cases e with
    | consume state vendor now => exact ih.sublist (List.filter_sublist.map _)
    | initiate flow now dbNow =>
      have hkept := ih.sublist
        ((List.filter_sublist (p := fun row => ¬ Pruned flow dbNow row)).map (·.stateHash))
      rw [apply, createOAuthState]
      split
      · exact hkept
      · next hnew =>
        rw [List.map_append]
        refine hkept.append (List.nodup_singleton _) ?_
        rintro hash hold hin
        obtain ⟨row, hrow, rfl⟩ := List.mem_map.mp hold
        rw [List.map_singleton, List.mem_singleton] at hin
        exact hnew (List.any_eq_true.mpr ⟨row, hrow, decide_eq_true hin⟩)

/-- A callback is let in exactly when the flow of its state was begun for its vendor, is not
older than ten minutes, and neither was answered nor pruned; and it learns who began it. -/
theorem accepted_iff {es : List TableEvent} (hes : Distinct hashes es) {state vendor : String}
    {now : Int} {row : OAuthStateRow} :
    (validateAndConsumeOAuthState hashes now (exec (apply hashes) [] es) state vendor).1 =
        some row ↔
      Open hashes es row ∧ row.stateHash = hashState hashes state ∧ row.vendor = vendor ∧
        now ≤ row.expiresAt := by
  rw [← mem_exec_iff hes]
  constructor
  · intro h
    exact @consumed_of_some ⟨hashes, fun _ _ => 0, none, none⟩ _ row _ now state vendor
      (Prod.ext h rfl)
  · rintro ⟨hmem, hstate, hvendor, hexpires⟩
    have hfind := (Dict.find_key_eq_some_iff nodup_exec).mpr ⟨hmem, hstate⟩
    rw [validateAndConsumeOAuthState]
    dsimp only
    rw [hfind]
    dsimp only
    rw [if_neg (not_not.mpr hvendor), if_neg (by omega)]

/-! ### A flow and its answer -/

def metaFlow : Flow := ⟨"nonce_1", "META", "ws_1", "user_1", none⟩

def plainHashes : Hashes := ⟨id, fun _ message => message⟩

theorem metaFlow_accepted :
    (validateAndConsumeOAuthState plainHashes 600000
        (exec (apply plainHashes) [] [.initiate metaFlow 0 0]) "nonce_1" "META").1 =
      some (metaFlow.row plainHashes 0) := by
  refine (accepted_iff (List.pairwise_singleton _ _)).mpr ⟨?_, rfl, rfl, by decide⟩
  exact ⟨[], metaFlow, 0, 0, [], rfl, rfl, fun e he => absurd he List.not_mem_nil⟩

/-- An answer comes once. -/
example : ((validateAndConsumeOAuthState plainHashes 600000 (exec (apply plainHashes) []
    [.initiate metaFlow 0 0, .consume "nonce_1" "META" 5]) "nonce_1" "META").1).isNone := by
  decide +kernel

/-! ### The beginning of a flow -/

/-- A `ConnectorError` of `initiateConnect`. -/
inductive InitiateError where
  | validation (message : String)
  | invalidShopDomain (message : String)
deriving DecidableEq

def myshopify : List Char := ".myshopify.com".toList

/-- `replace(/^https?:\/\//, '')` -/
def stripScheme (cs : List Char) : List Char :=
  if "https://".toList <+: cs then cs.drop 8
  else if "http://".toList <+: cs then cs.drop 7
  else cs

/-- `toLowerCase` is that of the engine. -/
def normalizeShopDomain (toLowerCase : String → String) (input : String) : String :=
  let trimmed := String.ofList (Js.trim input.toList)
  let shop := (stripScheme (toLowerCase trimmed).toList).takeWhile (· ≠ '/')
  String.ofList (if myshopify <:+ shop then shop else shop ++ myshopify)

def isAlnum (c : Char) : Bool :=
  c.isDigit || ('a' ≤ c && c ≤ 'z') || ('A' ≤ c && c ≤ 'Z')

/-- `SHOP_DOMAIN_RE` -/
def isValidShopDomain (shop : String) : Bool :=
  let cs := shop.toList
  let name := cs.take (cs.length - myshopify.length)
  name.head?.any isAlnum && name.all (fun c => isAlnum c || c == '-') &&
    decide (name ++ myshopify = cs)

structure InitiateParams where
  vendor : String
  workspaceId : String
  userId : String
  shopDomain : Option String

/-- The store that the flow is for; `null` for the other vendors. -/
def shopOf (toLowerCase : String → String) (params : InitiateParams) :
    Except InitiateError (Option String) :=
  if params.vendor = "SHOPIFY" then
    match params.shopDomain with
    | none | some "" => .error (.validation "Shopify connect requires a store domain.")
    | some input =>
      let shop := normalizeShopDomain toLowerCase input
      if isValidShopDomain shop then .ok (some shop)
      else .error (.invalidShopDomain "Invalid Shopify store domain.")
  else .ok none

/-- `initiateConnect`, up to the flow that it stores; `nonce` is what `generateNonce` makes up. -/
def initiateConnect (toLowerCase : String → String) (params : InitiateParams) (nonce : String) :
    Except InitiateError Flow := do
  let shopDomain ← shopOf toLowerCase params
  .ok ⟨nonce, params.vendor, params.workspaceId, params.userId, shopDomain⟩

/-! ### Calls -/

/-- What an exchange brings: the secret content, and until when it is good. -/
structure Token extends ExchangedToken where
  content : String
  tokenExpiresAt : Option Int

inductive ConnectionStatus where
  | connected
  | tokenExpired
  | error
  | disconnected
  | notConnected
deriving DecidableEq

/-- A row of `connector_connections`. -/
structure Connection where
  status : ConnectionStatus
  scopes : List String
  accountRef : Option String
  tokenExpiresAt : Option Int
  connectedAt : Option Int
  lastSyncAt : Option Int
  lastSyncError : Option String

/-- A code that is sent to a provider. -/
structure Sending where
  row : OAuthStateRow
  vendor : String
  code : String
  request : ExchangeRequest

/-- The workspace and vendor that the token is for. -/
def Sending.key (x : Sending) : String × String := (x.row.workspaceId, x.vendor)

structure StoredToken where
  sending : Sending
  content : String

structure Tables where
  states : List OAuthStateRow
  /-- `connector_credentials`, by workspace and vendor -/
  credentials : String × String → Option String
  /-- `connector_connections`, by workspace and vendor -/
  connections : String × String → Option Connection
  /-- The flows that have begun, the codes sent and the tokens stored, for the record. -/
  flows : List OAuthStateRow
  sent : List Sending
  tokens : List StoredToken

inductive Phase where
  | idle
  | begun
  | refused (error : InitiateError)
  | exchanging (x : Sending)
  | exchanged (x : Sending) (token : Token)
  | stored (x : Sending) (token : Token)
  | connected (result : CallbackResult)
  /-- The credential is gone. -/
  | sealed (workspaceId vendor : String)
  | disconnected
  | failed (failure : CallbackFailure)

inductive Event where
  | initiate (params : InitiateParams) (nonce : String) (now dbNow : Int)
  | callback (params : CallbackParams) (now : Int)
  | exchange (provider : ExchangeRequest → Option Token)
  | put (answer : Result Unit)
  | connect (now : Int) (answer : Result Unit)
  | disconnect (workspaceId vendor : String) (answer : Result Unit)
  | mark (answer : Result Unit)

section

variable (env : ProviderEnv) (toLowerCase : String → String)

def beginFlow (tables : Tables) (params : InitiateParams) (nonce : String) (now dbNow : Int) :
    Tables × Phase :=
  match initiateConnect toLowerCase params nonce with
  | .error e => (tables, .refused e)
  | .ok flow =>
    ({ tables with
        states := createOAuthState env.hashes now dbNow tables.states flow
        flows := tables.flows ++ [flow.row env.hashes now] }, .begun)

/-- A callback whose state is good, up to the request to the provider. -/
def admitCallback (tables : Tables) (params : CallbackParams) (row : OAuthStateRow) :
    Tables × Phase :=
  match checkSignature env params with
  | .error e => (tables, .failed e)
  | .ok () =>
    match exchangeRequest env params.vendor params.code row.shopDomain with
    | .error _ => (tables, .failed (exchangeFailed params.vendor))
    | .ok request =>
      let x : Sending := ⟨row, params.vendor, params.code, request⟩
      ({ tables with sent := tables.sent ++ [x] }, .exchanging x)

def beginCallback (tables : Tables) (params : CallbackParams) (now : Int) : Tables × Phase :=
  if params.code = "" ∨ params.state = "" then
    (tables, .failed (.connector .validation "callback requires code and state."))
  else
    match validateAndConsumeOAuthState env.hashes now tables.states params.state params.vendor with
    | (none, states) =>
      ({ tables with states := states }, .failed (.connector .invalidState
        "OAuth state is invalid, expired, or already used."))
    | (some row, states) => admitCallback env { tables with states := states } params row

/-- `custody.put` -/
def putToken (tables : Tables) (x : Sending) (token : Token) : Tables where
  states := tables.states
  credentials := Function.update tables.credentials x.key (some token.content)
  connections := tables.connections
  flows := tables.flows
  sent := tables.sent
  tokens := tables.tokens ++ [⟨x, token.content⟩]

/-- The upsert of the connection. -/
def connection (old : Option Connection) (token : Token) (now : Int) : Connection where
  status := .connected
  scopes := token.scopes
  accountRef := token.accountRef
  tokenExpiresAt := token.tokenExpiresAt
  connectedAt := ((old.bind (·.connectedAt)).getD now)
  lastSyncAt := old.bind (·.lastSyncAt)
  lastSyncError := none

def connectRow (tables : Tables) (x : Sending) (token : Token) (now : Int) : Tables :=
  { tables with
    connections := Function.update tables.connections x.key
      (some (connection (tables.connections x.key) token now)) }

/-- `custody.seal` -/
def sealToken (tables : Tables) (key : String × String) : Tables :=
  { tables with credentials := Function.update tables.credentials key none }

def markDisconnected (tables : Tables) (key : String × String) : Tables :=
  { tables with
    connections := Function.update tables.connections key ((tables.connections key).map fun row =>
      { row with status := .disconnected, tokenExpiresAt := none }) }

def advance (tables : Tables) : Phase → Event → Tables × Phase
  | .idle, .initiate params nonce now dbNow =>
    beginFlow env toLowerCase tables params nonce now dbNow
  | .idle, .callback params now => beginCallback env tables params now
  | .exchanging x, .exchange provider =>
    match provider x.request with
    | none => (tables, .failed (exchangeFailed x.vendor))
    | some token => (tables, .exchanged x token)
  | .exchanged _ _, .put (.error e) => (tables, .failed (.raised e))
  | .exchanged x token, .put (.ok ()) => (putToken tables x token, .stored x token)
  | .stored _ _, .connect _ (.error e) => (tables, .failed (.raised e))
  | .stored x token, .connect now (.ok ()) =>
    (connectRow tables x token now, .connected ⟨x.vendor, x.row.workspaceId, token.accountRef⟩)
  | .idle, .disconnect _ _ (.error e) => (tables, .failed (.raised e))
  | .idle, .disconnect workspaceId vendor (.ok ()) =>
    (sealToken tables (workspaceId, vendor), .sealed workspaceId vendor)
  | .sealed _ _, .mark (.error e) => (tables, .failed (.raised e))
  | .sealed workspaceId vendor, .mark (.ok ()) =>
    (markDisconnected tables (workspaceId, vendor), .disconnected)
  | phase, _ => (tables, phase)

abbrev Connects : Type := Interleave.State Tables Phase

def step : Connects → Nat × Event → Connects := Interleave.step (advance env toLowerCase)

end

/-! ### A callback alone -/

section

variable {env : ProviderEnv} {toLowerCase : String → String}

def outcome : Phase → Option (Except CallbackFailure CallbackResult)
  | .connected result => some (.ok result)
  | .failed failure => some (.error failure)
  | _ => none

/-- The answers that a callback gets at its steps. -/
structure Answers where
  now : Int
  provider : ExchangeRequest → Option Token
  put : Result Unit
  time : Int
  connect : Result Unit

def Answers.all (answers : Answers) : CallbackAnswers where
  now := answers.now
  exchanged request := (answers.provider request).map (·.toExchangedToken)
  stored := answers.put.bind fun _ => answers.connect

def callbackSteps (params : CallbackParams) (answers : Answers) : List Event :=
  [.callback params answers.now, .exchange answers.provider, .put answers.put,
    .connect answers.time answers.connect]

def follow (env : ProviderEnv) (toLowerCase : String → String) (out : Tables × Phase) :
    List Event → Tables × Phase :=
  List.foldl (fun out e => advance env toLowerCase out.1 out.2 e) out

/-- The callback has come to the end of `run`. -/
structure EndsAs (sent : List Sending) (out : Tables × Phase) (run : CallbackRun) : Prop where
  result : outcome out.2 = some run.result
  states : out.1.states = run.states
  requests : out.1.sent.map (·.request) = sent.map (·.request) ++ run.requests

theorem follow_failed {tables : Tables} {failure : CallbackFailure} (es : List Event) :
    follow env toLowerCase (tables, .failed failure) es = (tables, .failed failure) := by
  induction es with
  | nil => rfl
  | cons e es ih => cases e <;> exact ih

/-- A callback that has failed sends nothing more. -/
theorem failed_ends {tables : Tables} {failure : CallbackFailure} {sent : List Sending}
    {states : List OAuthStateRow} (es : List Event) (hstates : tables.states = states)
    (hsent : tables.sent = sent) :
    EndsAs sent (follow env toLowerCase (tables, .failed failure) es)
      ⟨.error failure, [], states⟩ := by
  rw [follow_failed]
  refine ⟨rfl, hstates, ?_⟩
  rw [hsent, List.append_nil]

/-- The steps after the code is sent. -/
theorem exchanging_ends {tables : Tables} {x : Sending} {answers : Answers} {sent : List Sending}
    {states : List OAuthStateRow} {params : CallbackParams} (hvendor : x.vendor = params.vendor)
    (hstates : tables.states = states) (hsent : tables.sent = sent ++ [x])
    (hrequest : exchangeRequest env params.vendor params.code x.row.shopDomain = .ok x.request) :
    EndsAs sent
      (follow env toLowerCase (tables, .exchanging x)
        [.exchange answers.provider, .put answers.put, .connect answers.time answers.connect])
      (exchangeAndStore env answers.all params x.row states) := by
  obtain ⟨now, provider, put, time, connect⟩ := answers
  have hrequests : tables.sent.map (·.request) = sent.map (·.request) ++ [x.request] := by
    rw [hsent, List.map_append, List.map_singleton]
  unfold exchangeAndStore
  rw [hrequest]
  cases hanswer : provider x.request with
  | none =>
    simp only [follow, List.foldl_cons, advance, hanswer, Answers.all, Option.map_none]
    rw [← hvendor]
    exact ⟨rfl, hstates, hrequests⟩
  | some token =>
    simp only [follow, List.foldl_cons, advance, hanswer, Answers.all, Option.map_some]
    cases put with
    | error e => exact ⟨rfl, hstates, hrequests⟩
    | ok _ =>
      cases connect with
      | error e => exact ⟨rfl, hstates, hrequests⟩
      | ok _ =>
        rw [← hvendor]
        exact ⟨rfl, hstates, hrequests⟩

theorem callback_ends {tables : Tables} {params : CallbackParams} {answers : Answers} :
    EndsAs tables.sent
      (follow env toLowerCase (tables, .idle) (callbackSteps params answers))
      (completeCallback env answers.all tables.states params) := by
  have hstart : follow env toLowerCase (tables, .idle) (callbackSteps params answers) =
      follow env toLowerCase (beginCallback env tables params answers.now)
        [.exchange answers.provider, .put answers.put, .connect answers.time answers.connect] := rfl
  rw [hstart]
  unfold beginCallback completeCallback
  split
  · exact failed_ends _ rfl rfl
  · dsimp only [Answers.all]
    generalize validateAndConsumeOAuthState env.hashes answers.now tables.states params.state
      params.vendor = consumed
    obtain ⟨found, states⟩ := consumed
    cases found with
    | none => exact failed_ends _ rfl rfl
    | some row =>
      dsimp only
      unfold admitCallback
      cases checkSignature env params with
      | error e => exact failed_ends _ rfl rfl
      | ok _ =>
        dsimp only
        cases hrequest : exchangeRequest env params.vendor params.code row.shopDomain with
        | error e =>
          dsimp only
          rw [exchangeAndStore, hrequest]
          exact failed_ends _ rfl rfl
        | ok request =>
          dsimp only
          exact exchanging_ends (x := ⟨row, params.vendor, params.code, request⟩) rfl rfl rfl hrequest

/-- A callback that nothing comes between is `completeCallback`. -/
theorem callback_alone {s : Connects} {i : Nat} (hidle : s.calls i = .idle)
    {params : CallbackParams} {answers : Answers} :
    EndsAs s.shared.sent
      ((exec (step env toLowerCase) s ((callbackSteps params answers).map (Prod.mk i))).shared,
        (exec (step env toLowerCase) s ((callbackSteps params answers).map (Prod.mk i))).calls i)
      (completeCallback env answers.all s.shared.states params) := by
  obtain ⟨hshared, hcall⟩ := Interleave.exec_alone (advance env toLowerCase) i s
    (callbackSteps params answers)
  rw [step, hshared, hcall, hidle]
  exact callback_ends

end

end BrainV2.Connect
