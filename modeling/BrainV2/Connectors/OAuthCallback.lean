import BrainV2.Connectors.Acl
import BrainV2.Lib.JoinedPairs

/-!
# The OAuth callback

* `CallbackQuery`, `message`, `validateShopifyHmac`: the decoded query and what is signed of it;
* `validateAndConsumeOAuthState`: the one-time state of a connect flow;
* `completeCallback`: a callback, with what is sent to the provider and the states that are left;
* `message_ne`, `exists_same_message`: queries of plain parameters have different messages, others
  may not;
* `callback_binds`: and a code is exchanged at the store that the flow was begun for.
-/

namespace BrainV2.Connectors

open Ingest (hexdigest)
open Js (JsError Result)

/-! ### The signature -/

/-- `Record<string, string>` -/
structure CallbackQuery where
  entries : List (String × String)
  nodup : (entries.map Prod.fst).Nodup

/-- What the provider's configuration reads and calls. -/
structure ProviderEnv where
  hashes : Hashes
  localeCompare : String → String → Int
  shopifyClientId : Option String
  shopifyClientSecret : Option String

def requireEnv (name : String) : Option String → Result String
  | none | some "" => .error (.error
      ("[provider-config] " ++ name ++ " is not set — required to build the OAuth flow."))
  | some value => .ok value

/-- `Buffer.from(text, 'hex')`, which ends at the first pair that is not of hex digits. -/
def bufferFromHex : List Char → List UInt8
  | a :: b :: rest =>
    match Json.hexValue a, Json.hexValue b with
    | some x, some y => UInt8.ofNat (16 * x + y) :: bufferFromHex rest
    | _, _ => []
  | _ => []

namespace CallbackQuery

variable (q : CallbackQuery)

def get (name : String) : Option String := q.entries.lookup name

def signed : List (String × String) :=
  q.entries.filter fun e => e.1 ≠ "hmac" && e.1 ≠ "signature"

/-- One query, but for `hmac` and `signature`. -/
def Same (q' : CallbackQuery) : Prop :=
  ∀ name, name ≠ "hmac" → name ≠ "signature" → q.get name = q'.get name

/-- No key has a `=` or `&`, and no value an `&`. -/
def PlainParams : Prop :=
  ∀ e ∈ q.signed, JoinedPairs.Plain '&' '=' (e.1.toList, e.2.toList)

end CallbackQuery

namespace ProviderEnv

variable (env : ProviderEnv)

def sortedParams (q : CallbackQuery) : List (String × String) :=
  q.signed.mergeSort fun a b => env.localeCompare a.1 b.1 ≤ 0

def message (q : CallbackQuery) : String :=
  "&".intercalate ((env.sortedParams q).map fun e => e.1 ++ "=" ++ e.2)

def validateShopifyHmac (q : CallbackQuery) : Result Bool :=
  match q.get "hmac" with
  | none | some "" => .ok false
  | some hmac => do
    let secret ← requireEnv "SHOPIFY_CLIENT_SECRET" env.shopifyClientSecret
    let generated := env.hashes.hmac (Py.utf8 secret) (Py.utf8 (env.message q))
    .ok (bufferFromHex (hexdigest generated).toList == bufferFromHex hmac.toList)

end ProviderEnv

/-! ### The state -/

structure OAuthStateRow where
  stateHash : String
  workspaceId : String
  vendor : String
  userId : String
  shopDomain : Option String
  expiresAt : Int

def hashState (hashes : Hashes) (state : String) : String :=
  hexdigest (hashes.sha256 (Py.utf8 state))

/-- The row is gone whether or not it is good. -/
def validateAndConsumeOAuthState (hashes : Hashes) (now : Int) (states : List OAuthStateRow)
    (state vendor : String) : Option OAuthStateRow × List OAuthStateRow :=
  let stateHash := hashState hashes state
  (match states.find? (·.stateHash = stateHash) with
    | none => none
    | some row =>
      if row.vendor ≠ vendor then none
      else if row.expiresAt < now then none
      else some row,
    states.filter (·.stateHash ≠ stateHash))

/-! ### The exchange -/

inductive ExchangeRequest where
  /-- `POST https://${shopDomain}/admin/oauth/access_token` -/
  | shopifyToken (shopDomain code : String)
  /-- What `exchangeMeta` sends -/
  | metaToken (code : String)
  /-- What `exchangeGoogle` sends -/
  | googleToken (code : String)
deriving DecidableEq

structure ExchangedToken where
  scopes : List String
  accountRef : Option String

def exchangeShopify (env : ProviderEnv) (code : String) :
    Option String → Result ExchangeRequest
  | none | some "" => .error (.error "[provider-config] Shopify exchange requires a shop domain.")
  | some shopDomain => do
    let _ ← requireEnv "SHOPIFY_CLIENT_ID" env.shopifyClientId
    let _ ← requireEnv "SHOPIFY_CLIENT_SECRET" env.shopifyClientSecret
    .ok (.shopifyToken shopDomain code)

/-- `exchangeCode`, up to the request. -/
def exchangeRequest (env : ProviderEnv) (vendor code : String) (shopDomain : Option String) :
    Result ExchangeRequest :=
  if vendor = "SHOPIFY" then exchangeShopify env code shopDomain
  else if vendor = "META" then .ok (.metaToken code)
  else if vendor = "GOOGLE" then .ok (.googleToken code)
  else .error (.error ("[provider-config] exchangeCode: vendor '" ++ vendor ++
    "' does not support OAuth code exchange."))

/-! ### The callback -/

inductive ConnectorErrorCode where
  | validation
  | invalidState
  | hmacInvalid
  | exchangeFailed
deriving DecidableEq

inductive CallbackFailure where
  | connector (code : ConnectorErrorCode) (message : String)
  | raised (e : JsError)
deriving DecidableEq

structure CallbackParams where
  vendor : String
  code : String
  state : String
  query : Option CallbackQuery

structure CallbackResult where
  vendor : String
  workspaceId : String
  accountRef : Option String

/-- How a callback ends, what it has sent, and the states that are left. -/
structure CallbackRun where
  result : Except CallbackFailure CallbackResult
  requests : List ExchangeRequest
  states : List OAuthStateRow

/-- What the provider answers, and whether the token and the connection are stored. -/
structure CallbackAnswers where
  now : Int
  exchanged : ExchangeRequest → Option ExchangedToken
  stored : Result Unit

/-- `vendor === 'SHOPIFY'` asks for a signed query. -/
def checkSignature (env : ProviderEnv) (params : CallbackParams) : Except CallbackFailure Unit :=
  if params.vendor = "SHOPIFY" then
    match params.query.map env.validateShopifyHmac with
    | some (.ok true) => .ok ()
    | some (.error e) => .error (.raised e)
    | _ => .error (.connector .hmacInvalid "Shopify callback HMAC validation failed.")
  else .ok ()

def exchangeFailed (vendor : String) : CallbackFailure :=
  .connector .exchangeFailed ("OAuth code exchange failed for " ++ vendor ++ ".")

/-- The exchange and what comes after it. -/
def exchangeAndStore (env : ProviderEnv) (answers : CallbackAnswers) (params : CallbackParams)
    (record : OAuthStateRow) (states : List OAuthStateRow) : CallbackRun :=
  match exchangeRequest env params.vendor params.code record.shopDomain with
  | .error _ => ⟨.error (exchangeFailed params.vendor), [], states⟩
  | .ok request =>
    match answers.exchanged request with
    | none => ⟨.error (exchangeFailed params.vendor), [request], states⟩
    | some exchanged =>
      match answers.stored with
      | .error e => ⟨.error (.raised e), [request], states⟩
      | .ok () =>
        ⟨.ok ⟨params.vendor, record.workspaceId, exchanged.accountRef⟩, [request], states⟩

def completeCallback (env : ProviderEnv) (answers : CallbackAnswers) (states : List OAuthStateRow)
    (params : CallbackParams) : CallbackRun :=
  if params.code = "" ∨ params.state = "" then
    ⟨.error (.connector .validation "callback requires code and state."), [], states⟩
  else
    match validateAndConsumeOAuthState env.hashes answers.now states params.state params.vendor with
    | (none, states) =>
      ⟨.error (.connector .invalidState "OAuth state is invalid, expired, or already used."), [],
        states⟩
    | (some record, states) =>
      match checkSignature env params with
      | .error e => ⟨.error e, [], states⟩
      | .ok () => exchangeAndStore env answers params record states

/-! ### Messages of plain parameters -/

namespace CallbackQuery

variable {q q' : CallbackQuery}

theorem get_eq_some_iff {name value : String} (hhmac : name ≠ "hmac")
    (hsignature : name ≠ "signature") : q.get name = some value ↔ (name, value) ∈ q.signed := by
  rw [get, Dict.lookup_eq_some_iff_mem q.nodup, signed, List.mem_filter]
  simp [hhmac, hsignature]

theorem same_of_perm (h : q.signed.Perm q'.signed) : q.Same q' := by
  intro name hhmac hsignature
  apply Option.ext
  intro value
  rw [get_eq_some_iff hhmac hsignature, get_eq_some_iff hhmac hsignature, h.mem_iff]

end CallbackQuery

def charPair (e : String × String) : List Char × List Char := (e.1.toList, e.2.toList)

theorem charPair_injective : Function.Injective charPair := by
  intro e e' h
  exact Prod.ext (String.toList_injective (congrArg Prod.fst h))
    (String.toList_injective (congrArg Prod.snd h))

section

variable (env : ProviderEnv) {q q' : CallbackQuery}

theorem toList_message : (env.message q).toList =
    JoinedPairs.render '&' '=' ((env.sortedParams q).map charPair) := by
  rw [ProviderEnv.message, String.toList_intercalate, JoinedPairs.render, List.map_map,
    List.map_map]
  congr 1
  apply List.map_congr_left
  intro e _
  simp [JoinedPairs.renderPair, charPair]

theorem perm_sortedParams : (env.sortedParams q).Perm q.signed := List.mergeSort_perm _ _

/-- Different queries of plain parameters have different messages. -/
theorem message_ne (h : q.PlainParams) (h' : q'.PlainParams) (hne : ¬ q.Same q') :
    env.message q ≠ env.message q' := by
  have hplain {q : CallbackQuery} (h : q.PlainParams) :
      ∀ p ∈ (env.sortedParams q).map charPair, JoinedPairs.Plain '&' '=' p := by
    intro p hp
    obtain ⟨e, he, rfl⟩ := List.mem_map.mp hp
    exact h e ((perm_sortedParams env).mem_iff.mp he)
  intro htext
  have hlists := congrArg String.toList htext
  rw [toList_message, toList_message] at hlists
  have hpairs := JoinedPairs.render_injective (by decide) (hplain h) (hplain h') hlists
  have hsorted := List.map_injective_iff.mpr charPair_injective hpairs
  apply hne
  apply CallbackQuery.same_of_perm
  exact (perm_sortedParams env).symm.trans (hsorted ▸ perm_sortedParams env)

/-- The message of two or more parameters is also that of one, whose value has the others in it. -/
theorem exists_same_message {e e' : String × String} {rest : List (String × String)}
    (h : env.sortedParams q = e :: e' :: rest) :
    ∃ value, ∃ q' : CallbackQuery, q'.signed = [(e.1, value)] ∧
      env.message q' = env.message q := by
  let value := String.ofList
    (e.2.toList ++ '&' :: JoinedPairs.render '&' '=' ((e' :: rest).map charPair))
  let q' : CallbackQuery := ⟨[(e.1, value)], by simp⟩
  have hmem : e ∈ q.signed := by
    rw [← (perm_sortedParams env).mem_iff, h]
    exact List.mem_cons_self
  have hsigned : q'.signed = [(e.1, value)] := by
    have hkey := (List.mem_filter.mp hmem).2
    simpa [CallbackQuery.signed, q'] using hkey
  refine ⟨value, q', hsigned, ?_⟩
  apply String.toList_injective
  rw [toList_message, toList_message, h, ProviderEnv.sortedParams, hsigned,
    List.mergeSort_singleton]
  simp only [List.map_cons, List.map_nil, charPair, value, String.toList_ofList]
  rw [JoinedPairs.render_cons_cons]

end

/-! ### Signatures -/

theorem bufferFromHex_hexdigest (digest : List UInt8) :
    bufferFromHex (hexdigest digest).toList = digest := by
  rw [hexdigest, String.toList_ofList]
  induction digest with
  | nil => rfl
  | cons b digest ih =>
    have hb := b.toNat_lt
    have hhigh := Json.hexValue_hexDigit (b.toNat / 16) (by omega)
    have hlow := Json.hexValue_hexDigit (b.toNat % 16) (by omega)
    rw [List.flatMap_cons, List.cons_append, List.cons_append, List.nil_append, bufferFromHex]
    simp only [hhigh, hlow, ih]
    rw [Nat.div_add_mod, UInt8.ofNat_toNat]

namespace ProviderEnv

variable (env : ProviderEnv) {q : CallbackQuery}

def signature (secret : String) (q : CallbackQuery) : List UInt8 :=
  env.hashes.hmac (Py.utf8 secret) (Py.utf8 (env.message q))

theorem validateShopifyHmac_iff : env.validateShopifyHmac q = .ok true ↔
    ∃ hmac secret, q.get "hmac" = some hmac ∧ hmac ≠ "" ∧
      env.shopifyClientSecret = some secret ∧ secret ≠ "" ∧
      bufferFromHex hmac.toList = env.signature secret q := by
  unfold validateShopifyHmac
  split
  · next h => simp [h]
  · next h => simp [h]
  · next hmac hne h =>
    have hnonempty : hmac ≠ "" := hne
    rw [h]
    cases hsecret : env.shopifyClientSecret with
    | none => simp [requireEnv, bind, Except.bind]
    | some secret =>
      by_cases hempty : secret = ""
      · rw [hempty]
        simp [requireEnv, bind, Except.bind]
      · have hrequired : requireEnv "SHOPIFY_CLIENT_SECRET" (some secret) = .ok secret := by
          rw [requireEnv]
          intro h
          exact hempty h
        rw [hrequired]
        simp only [bind, Except.bind, bufferFromHex_hexdigest]
        rw [Except.ok.injEq, beq_iff_eq, eq_comm]
        constructor
        · intro hequal
          exact ⟨hmac, secret, rfl, hnonempty, rfl, hempty, hequal⟩
        · rintro ⟨_, _, ⟨⟩, -, ⟨⟩, -, hequal⟩
          exact hequal

end ProviderEnv

/-! ### Where a code is exchanged -/

/-- The state of the callback is that of a flow that has not expired, the query is signed, and the
code is sent to the store of the flow. -/
structure ExchangedAt (env : ProviderEnv) (answers : CallbackAnswers) (params : CallbackParams)
    (request : ExchangeRequest) (row : OAuthStateRow) : Prop where
  state : row.stateHash = hashState env.hashes params.state
  vendor : row.vendor = "SHOPIFY"
  unexpired : answers.now ≤ row.expiresAt
  signed : ∃ query, params.query = some query ∧ env.validateShopifyHmac query = .ok true
  shop : ∃ shopDomain, row.shopDomain = some shopDomain ∧
    request = .shopifyToken shopDomain params.code

section

variable {env : ProviderEnv} {answers : CallbackAnswers} {states : List OAuthStateRow}
  {params : CallbackParams} {request : ExchangeRequest} {row : OAuthStateRow}

theorem consumed_of_some {left : List OAuthStateRow} {now : Int} {state vendor : String}
    (h : validateAndConsumeOAuthState env.hashes now states state vendor = (some row, left)) :
    row ∈ states ∧ row.stateHash = hashState env.hashes state ∧ row.vendor = vendor ∧
      now ≤ row.expiresAt := by
  obtain ⟨hrow, -⟩ := Prod.mk.inj h
  split at hrow
  · cases hrow
  · next found hfind =>
    split at hrow
    · cases hrow
    · next hvendor =>
      split at hrow
      · cases hrow
      · next hexpires =>
        cases hrow
        refine ⟨List.mem_of_find?_eq_some hfind, ?_, not_not.mp hvendor, by omega⟩
        simpa using List.find?_some hfind

theorem signed_of_check (hvendor : params.vendor = "SHOPIFY")
    (h : checkSignature env params = .ok ()) :
    ∃ query, params.query = some query ∧ env.validateShopifyHmac query = .ok true := by
  rw [checkSignature, if_pos hvendor] at h
  split at h
  · next hvalid => exact Option.map_eq_some_iff.mp hvalid
  · cases h
  · cases h

theorem shopDomain_of_request {code : String} {shopDomain : Option String}
    (h : exchangeRequest env "SHOPIFY" code shopDomain = .ok request) :
    ∃ shop, shopDomain = some shop ∧ request = .shopifyToken shop code := by
  rw [exchangeRequest, if_pos rfl, exchangeShopify.eq_def] at h
  split at h
  · cases h
  · cases h
  · next shop _ =>
    obtain ⟨_, -, h⟩ := Js.bind_ok.mp h
    obtain ⟨_, -, h⟩ := Js.bind_ok.mp h
    cases h
    exact ⟨shop, rfl, rfl⟩

theorem request_of_mem {left : List OAuthStateRow}
    (h : request ∈ (exchangeAndStore env answers params row left).requests) :
    exchangeRequest env params.vendor params.code row.shopDomain = .ok request := by
  unfold exchangeAndStore at h
  split at h
  · cases h
  · next sent hsent =>
    have hrequest : request = sent := by
      split at h
      · exact List.mem_singleton.mp h
      · split at h
        · exact List.mem_singleton.mp h
        · exact List.mem_singleton.mp h
    rwa [hrequest]

/-- The code of a callback goes to the store of the flow that its state belongs to. -/
theorem exchanged_at_state (hvendor : params.vendor = "SHOPIFY")
    (h : request ∈ (completeCallback env answers states params).requests) :
    ∃ row ∈ states, ExchangedAt env answers params request row := by
  unfold completeCallback at h
  split at h
  · cases h
  · split at h
    · cases h
    · next record left hconsumed =>
      split at h
      · cases h
      · next hcheck =>
        obtain ⟨hmem, hstate, hrow, hexpires⟩ := consumed_of_some hconsumed
        have hrequest := request_of_mem h
        rw [hvendor] at hrequest hrow
        exact ⟨record, hmem, hstate, hrow, hexpires, signed_of_check hvendor hcheck,
          shopDomain_of_request hrequest⟩

end

/-! ### Signed queries -/

namespace CallbackQuery

variable (q : CallbackQuery)

/-- The query with a signature. -/
def withHmac (hmac : String) (h : "hmac" ∉ q.entries.map Prod.fst) : CallbackQuery where
  entries := q.entries ++ [("hmac", hmac)]
  nodup := by
    rw [List.map_append, List.nodup_append]
    refine ⟨q.nodup, by simp, ?_⟩
    intro key hkey other hother hsame
    rw [hsame, List.mem_singleton.mp hother] at hkey
    exact h hkey

theorem signed_withHmac (hmac : String) (h : "hmac" ∉ q.entries.map Prod.fst) :
    (q.withHmac hmac h).signed = q.signed := by
  rw [signed, withHmac, List.filter_append]
  simp [signed]

theorem get_withHmac (hmac : String) (h : "hmac" ∉ q.entries.map Prod.fst) :
    (q.withHmac hmac h).get "hmac" = some hmac := by
  rw [get, Dict.lookup_eq_some_iff_mem (q.withHmac hmac h).nodup]
  simp [withHmac]

end CallbackQuery

namespace ProviderEnv

variable (env : ProviderEnv) {q : CallbackQuery}

theorem signature_withHmac (secret hmac : String) (h : "hmac" ∉ q.entries.map Prod.fst) :
    env.signature secret (q.withHmac hmac h) = env.signature secret q := by
  simp only [signature, message, sortedParams, q.signed_withHmac]

/-- A query with its signature is accepted. -/
theorem validate_withHmac {secret hmac : String} (hsecret : env.shopifyClientSecret = some secret)
    (hne : secret ≠ "") (hhmac : hmac ≠ "")
    (hsigned : bufferFromHex hmac.toList = env.signature secret q)
    (h : "hmac" ∉ q.entries.map Prod.fst) :
    env.validateShopifyHmac (q.withHmac hmac h) = .ok true := by
  apply env.validateShopifyHmac_iff.mpr
  exact ⟨hmac, secret, q.get_withHmac hmac h, hhmac, hsecret, hne,
    by rw [signature_withHmac, hsigned]⟩

end ProviderEnv

/-! ### A store and another -/

def bytewiseEnv : ProviderEnv where
  hashes := ⟨id, fun key message => key ++ message⟩
  localeCompare a b := if a < b then -1 else if a = b then 0 else 1
  shopifyClientId := some "id"
  shopifyClientSecret := some "secret"

/-- The redirects of two stores. -/
def fromStoreA : CallbackQuery := ⟨[("code", "1"), ("shop", "a.myshopify.com")], by decide⟩

def fromStoreB : CallbackQuery := ⟨[("code", "1"), ("shop", "b.myshopify.com")], by decide⟩

/-- The text of the latter in one parameter. -/
def oneParameter : CallbackQuery := ⟨[("code", "1&shop=b.myshopify.com")], by decide⟩

theorem message_fromStoreB : bytewiseEnv.message fromStoreB = "code=1&shop=b.myshopify.com" := by
  have hsorted : bytewiseEnv.sortedParams fromStoreB = fromStoreB.signed :=
    List.mergeSort_of_pairwise (by decide)
  rw [ProviderEnv.message, hsorted]
  decide

theorem message_oneParameter :
    bytewiseEnv.message oneParameter = "code=1&shop=b.myshopify.com" := by
  have hsorted : bytewiseEnv.sortedParams oneParameter = oneParameter.signed :=
    List.mergeSort_of_pairwise (by decide)
  rw [ProviderEnv.message, hsorted]
  decide

def signatureB : String := hexdigest (bytewiseEnv.signature "secret" fromStoreB)

/-- The flow of the store `a`. -/
def flowOfA : OAuthStateRow :=
  ⟨hashState bytewiseEnv.hashes "s", "w", "SHOPIFY", "u", some "a.myshopify.com", 600000⟩

def callbackOfB : CallbackParams :=
  ⟨"SHOPIFY", "1", "s", some (fromStoreB.withHmac signatureB (by decide))⟩

def accepting : CallbackAnswers := ⟨0, fun _ => some ⟨[], none⟩, .ok ()⟩

theorem signatureB_ne_empty : signatureB ≠ "" := by
  intro hempty
  have hbytes := congrArg (fun text => bufferFromHex (String.toList text)) hempty
  simp only [signatureB, bufferFromHex_hexdigest, ProviderEnv.signature] at hbytes
  have hsecret : Py.utf8 "secret" = [] := (List.append_eq_nil_iff.mp hbytes).1
  revert hsecret
  decide

theorem valid_callbackOfB : bytewiseEnv.validateShopifyHmac
    (fromStoreB.withHmac signatureB (by decide)) = .ok true :=
  bytewiseEnv.validate_withHmac rfl (by decide) signatureB_ne_empty (bufferFromHex_hexdigest _)
    (by decide)

theorem requests_callbackOfB :
    (completeCallback bytewiseEnv accepting [flowOfA] callbackOfB).requests =
      [.shopifyToken "a.myshopify.com" "1"] := by
  have hconsumed : validateAndConsumeOAuthState bytewiseEnv.hashes accepting.now [flowOfA]
      callbackOfB.state callbackOfB.vendor = (some flowOfA, []) := by
    simp [validateAndConsumeOAuthState, callbackOfB, flowOfA, accepting]
  have hcheck : checkSignature bytewiseEnv callbackOfB = .ok () := by
    have hvalid : callbackOfB.query.map bytewiseEnv.validateShopifyHmac = some (.ok true) :=
      congrArg some valid_callbackOfB
    rw [checkSignature, if_pos (show callbackOfB.vendor = "SHOPIFY" from rfl), hvalid]
  have hgiven : ¬ (callbackOfB.code = "" ∨ callbackOfB.state = "") := by decide
  rw [completeCallback, if_neg hgiven, hconsumed]
  simp only [hcheck]
  rfl

/-! ### What holds of a callback -/

/-- The two queries have different messages, and the signature of one is that of the other only
when the keyed hash of both messages is the same. -/
structure SignedApart (env : ProviderEnv) (q q' : CallbackQuery) : Prop where
  messages : env.message q ≠ env.message q'
  signatures : ∀ secret, env.shopifyClientSecret = some secret →
    q'.get "hmac" = some (hexdigest (env.signature secret q)) →
    env.validateShopifyHmac q' = .ok true → env.signature secret q = env.signature secret q'

/-- Plain parameters are signed apart, and a code goes to the store that its state was made for. -/
theorem callback_binds (env : ProviderEnv) :
    (∀ q q' : CallbackQuery, q.PlainParams → q'.PlainParams → ¬ q.Same q' →
      SignedApart env q q') ∧
    ∀ (answers : CallbackAnswers) (states : List OAuthStateRow) (params : CallbackParams),
      params.vendor = "SHOPIFY" →
      ∀ request ∈ (completeCallback env answers states params).requests,
        ∃ row ∈ states, ExchangedAt env answers params request row := by
  constructor
  · intro q q' h h' hne
    refine ⟨message_ne env h h' hne, ?_⟩
    intro secret hsecret hhmac hvalid
    obtain ⟨hmac, _, hget, -, hsecret', -, hequal⟩ := env.validateShopifyHmac_iff.mp hvalid
    rw [hhmac] at hget
    cases hget
    rw [hsecret] at hsecret'
    cases hsecret'
    rwa [bufferFromHex_hexdigest] at hequal
  · intro answers states params hvendor request hrequest
    exact exchanged_at_state hvendor hrequest

/-- A query of the store `b`, and one of the store `a`; the code goes to `a`. -/
theorem stores_signed_apart : SignedApart bytewiseEnv fromStoreA fromStoreB ∧
    ∃ row ∈ [flowOfA], ExchangedAt bytewiseEnv accepting callbackOfB
      (.shopifyToken "a.myshopify.com" "1") row := by
  have hplain {q : CallbackQuery} (h : ∀ e ∈ q.entries,
      '&' ∉ e.1.toList ∧ '=' ∉ e.1.toList ∧ '&' ∉ e.2.toList) : q.PlainParams := by
    intro e he
    obtain ⟨hseparator, hmark, hvalue⟩ := h e (List.mem_filter.mp he).1
    exact ⟨hseparator, hmark, hvalue⟩
  constructor
  · apply (callback_binds bytewiseEnv).1
    · exact hplain (by decide)
    · exact hplain (by decide)
    · intro hsame
      exact absurd (hsame "shop" (by decide) (by decide)) (by decide)
  · apply (callback_binds bytewiseEnv).2 accepting [flowOfA] callbackOfB rfl
    rw [requests_callbackOfB]
    exact List.mem_singleton_self _

/-- One signature for two queries, and a code exchanged at another store than that of the query. -/
theorem one_signature_two_queries :
    (¬ fromStoreB.Same oneParameter ∧
      bytewiseEnv.validateShopifyHmac (fromStoreB.withHmac signatureB (by decide)) = .ok true ∧
      bytewiseEnv.validateShopifyHmac (oneParameter.withHmac signatureB (by decide)) =
        .ok true) ∧
    callbackOfB.query.bind (·.get "shop") = some "b.myshopify.com" ∧
      (completeCallback bytewiseEnv accepting [flowOfA] callbackOfB).requests =
        [.shopifyToken "a.myshopify.com" "1"] := by
  refine ⟨⟨?_, valid_callbackOfB, ?_⟩, by decide, requests_callbackOfB⟩
  · intro hsame
    exact absurd (hsame "shop" (by decide) (by decide)) (by decide)
  · have hsigned : bytewiseEnv.signature "secret" fromStoreB =
        bytewiseEnv.signature "secret" oneParameter := by
      rw [ProviderEnv.signature, ProviderEnv.signature, message_fromStoreB, message_oneParameter]
    exact bytewiseEnv.validate_withHmac rfl (by decide) signatureB_ne_empty
      ((bufferFromHex_hexdigest _).trans hsigned) (by decide)

end BrainV2.Connectors
