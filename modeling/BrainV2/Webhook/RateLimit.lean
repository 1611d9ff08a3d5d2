import Mathlib.Algebra.Order.Field.Rat
import BrainV2.Lib.Dict
import BrainV2.Lib.RateBound

/-!
# The rate limit of the webhook route

* `TokenBucket`: the bucket with lazy refill;
* `onRequest`: the hook, which keeps one bucket for each key it reads off the URL;
* `buckets_metered`: among requests with one key, what passes is paid from that key's bucket;
* `rate_limited_iff`: a vendor is held to the rate exactly when all the spellings of its URL
  have one key.
-/

namespace BrainV2.Webhook

/-- The constructor's parameters are fixed for the life of a bucket. -/
structure TokenBucket (capacity refillPerSecond : ℚ) where
  tokens : ℚ
  lastRefillMs : ℚ

namespace TokenBucket

variable {capacity refillPerSecond : ℚ}

/-- The constructor. -/
def create (capacity refillPerSecond nowMs : ℚ) : TokenBucket capacity refillPerSecond :=
  ⟨capacity, nowMs⟩

/-- What the refill at a time brings the bucket to. -/
def refilled (bucket : TokenBucket capacity refillPerSecond) (nowMs : ℚ) : ℚ :=
  let elapsedSec := (nowMs - bucket.lastRefillMs) / 1000
  min capacity (bucket.tokens + elapsedSec * refillPerSecond)

def consume (bucket : TokenBucket capacity refillPerSecond) (nowMs : ℚ) :
    Bool × TokenBucket capacity refillPerSecond :=
  let tokens := bucket.refilled nowMs
  if tokens < 1 then (false, ⟨tokens, nowMs⟩) else (true, ⟨tokens - 1, nowMs⟩)

theorem refilled_le (bucket : TokenBucket capacity refillPerSecond) (nowMs : ℚ) :
    bucket.refilled nowMs ≤ capacity := min_le_left _ _

theorem refilled_rise (hrefill : 0 ≤ refillPerSecond)
    (bucket : TokenBucket capacity refillPerSecond) {t t' : ℚ} (h : t ≤ t') :
    bucket.refilled t' ≤ bucket.refilled t + refillPerSecond / 1000 * (t' - t) := by
  have hgain : 0 ≤ refillPerSecond / 1000 * (t' - t) :=
    mul_nonneg (div_nonneg hrefill (by norm_num)) (sub_nonneg.mpr h)
  simp only [refilled]
  rw [← min_add_add_right]
  apply min_le_min
  · linarith
  · apply le_of_eq
    ring

theorem consume_refilled_le (bucket : TokenBucket capacity refillPerSecond) (nowMs : ℚ) :
    (bucket.consume nowMs).2.refilled nowMs ≤ bucket.refilled nowMs := by
  have hnow : ∀ tokens : ℚ,
      (⟨tokens, nowMs⟩ : TokenBucket capacity refillPerSecond).refilled nowMs ≤ tokens := by
    intro tokens
    simp [refilled]
  simp only [consume]
  split
  · exact hnow _
  · exact (hnow _).trans (sub_le_self _ zero_le_one)

theorem consume_pays {bucket : TokenBucket capacity refillPerSecond} {nowMs : ℚ}
    (h : (bucket.consume nowMs).1 = true) :
    1 ≤ bucket.refilled nowMs ∧
      (bucket.consume nowMs).2.refilled nowMs + 1 ≤ bucket.refilled nowMs := by
  by_cases hempty : bucket.refilled nowMs < 1
  · simp [consume, hempty] at h
  refine ⟨not_lt.mp hempty, ?_⟩
  have hpaid : (⟨bucket.refilled nowMs - 1, nowMs⟩ :
      TokenBucket capacity refillPerSecond).refilled nowMs ≤ bucket.refilled nowMs - 1 := by
    simp [refilled]
  simp only [consume, if_neg hempty]
  linarith

/-- A token that is there is taken. -/
theorem consume_of_one_le {bucket : TokenBucket capacity refillPerSecond} {nowMs : ℚ}
    (h : 1 ≤ bucket.refilled nowMs) :
    (bucket.consume nowMs).1 = true ∧
      (bucket.consume nowMs).2.refilled nowMs = bucket.refilled nowMs - 1 := by
  have hcapacity := bucket.refilled_le nowMs
  have hleft : (⟨bucket.refilled nowMs - 1, nowMs⟩ :
      TokenBucket capacity refillPerSecond).refilled nowMs = bucket.refilled nowMs - 1 := by
    conv_lhs => rw [refilled]
    simp only [sub_self, zero_div, zero_mul, add_zero]
    exact min_eq_right (by linarith)
  simp only [consume, if_neg (not_lt.mpr h)]
  exact ⟨trivial, hleft⟩

end TokenBucket

def defaultRateLimitBurst : ℚ := 100

def defaultRateLimitRefillPerSec : ℚ := 50

abbrev VendorBucket := TokenBucket defaultRateLimitBurst defaultRateLimitRefillPerSec

/-- `_vendorBuckets`. -/
abbrev VendorBuckets := List (String × VendorBucket)

/-- What the hook reads of a request, with the clock as the hook reads it: `createdMs` where a
new bucket is made for it, `nowMs` where a token is taken. -/
structure Request where
  method : String
  url : String
  createdMs : ℚ
  nowMs : ℚ

/-- `url.split('/')[2] ?? 'unknown'`. -/
def urlVendor (url : String) : String :=
  ((url.toList.splitOn '/')[2]?.map String.ofList).getD "unknown"

/-- The key of the bucket a request is charged to, if it is charged. -/
def bucketKey (url : String) : Option String :=
  if "/webhooks/".toList.isPrefixOf url.toList then some (urlVendor url) else none

def getVendorBucket (buckets : VendorBuckets) (vendor : String) (createdMs : ℚ) : VendorBucket :=
  (buckets.lookup vendor).getD (.create _ _ createdMs)

def consumeToken (buckets : VendorBuckets) (vendor : String) (createdMs nowMs : ℚ) :
    Bool × VendorBuckets :=
  let consumed := (getVendorBucket buckets vendor createdMs).consume nowMs
  (consumed.1, Dict.set buckets vendor consumed.2)

/-- The hook: whether the request goes on, and the buckets after it. -/
def onRequest (buckets : VendorBuckets) (req : Request) : Bool × VendorBuckets :=
  match bucketKey req.url with
  | none => (true, buckets)
  | some vendor => consumeToken buckets vendor req.createdMs req.nowMs

example : bucketKey "/webhooks/shopify?x=1" = some "shopify?x=1" := by decide

/-! ### The limiter -/

section

-- Fastify's router gives the decoded `vendor` of what it routes to `POST /webhooks/:vendor`.
variable (route : String → String → Option String) (vendor : String)

/-- The requests of a vendor that the hook lets pass. -/
def vendorLimiter : Limiter ℚ VendorBuckets Request where
  step := fun buckets req => (onRequest buckets req).2
  time := Request.nowMs
  grants := fun buckets req =>
    (onRequest buckets req).1 && decide (route req.method req.url = some vendor)

/-- The readings of the clock, in the order they are made. -/
def Clocked (reqs : List Request) : Prop :=
  (reqs.flatMap fun req => [req.createdMs, req.nowMs]).Pairwise (· ≤ ·)

/-- No window of `T` seconds sees more than the burst and what `T` seconds refill. -/
def RateLimited (reqs : List Request) : Prop :=
  ∀ startMs T : ℚ, 0 ≤ T →
    ((vendorLimiter route vendor).grantsIn startMs (startMs + 1000 * T) [] reqs : ℚ) ≤
      defaultRateLimitBurst + defaultRateLimitRefillPerSec * T

/-- All the spellings of the vendor's URL are charged to one bucket. -/
def OneBucket (spellings : Set String) : Prop :=
  ∃ key, ∀ method, ∀ url ∈ spellings, route method url = some vendor → bucketKey url = some key

/-- What the bucket of a key holds at a time. -/
def level (key : String) (buckets : VendorBuckets) (nowMs : ℚ) : ℚ :=
  match buckets.lookup key with
  | none => defaultRateLimitBurst
  | some bucket => bucket.refilled nowMs

variable {route vendor}

theorem level_le (key : String) (buckets : VendorBuckets) (nowMs : ℚ) :
    level key buckets nowMs ≤ defaultRateLimitBurst := by
  unfold level
  split
  · exact le_rfl
  · exact TokenBucket.refilled_le _ _

theorem level_rise (key : String) (buckets : VendorBuckets) {t t' : ℚ} (h : t ≤ t') :
    level key buckets t' ≤
      level key buckets t + defaultRateLimitRefillPerSec / 1000 * (t' - t) := by
  have hrefill : (0 : ℚ) ≤ defaultRateLimitRefillPerSec := by norm_num [defaultRateLimitRefillPerSec]
  unfold level
  split
  · have hgain := mul_nonneg (div_nonneg hrefill (by norm_num : (0 : ℚ) ≤ 1000))
      (sub_nonneg.mpr h)
    linarith
  · exact TokenBucket.refilled_rise hrefill _ h

/-- A new bucket is no fuller than an absent one counts for. -/
theorem getVendorBucket_refilled_le (key : String) (buckets : VendorBuckets)
    (createdMs nowMs : ℚ) :
    (getVendorBucket buckets key createdMs).refilled nowMs ≤ level key buckets nowMs := by
  unfold getVendorBucket level
  cases buckets.lookup key with
  | none => exact TokenBucket.refilled_le _ _
  | some bucket => exact le_rfl

theorem level_consumeToken_self (key : String) (buckets : VendorBuckets)
    (createdMs nowMs t : ℚ) :
    level key (consumeToken buckets key createdMs nowMs).2 t =
      ((getVendorBucket buckets key createdMs).consume nowMs).2.refilled t := by
  unfold level consumeToken
  rw [Dict.lookup_set_self]

theorem level_consumeToken_ne {key other : String} (h : key ≠ other) (buckets : VendorBuckets)
    (createdMs nowMs t : ℚ) :
    level key (consumeToken buckets other createdMs nowMs).2 t = level key buckets t := by
  unfold level consumeToken
  rw [Dict.lookup_set_ne _ _ h]

theorem onRequest_charged {req : Request} {key : String} (h : bucketKey req.url = some key)
    (buckets : VendorBuckets) :
    onRequest buckets req = consumeToken buckets key req.createdMs req.nowMs := by
  unfold onRequest
  rw [h]

theorem onRequest_uncharged {req : Request} (h : bucketKey req.url = none)
    (buckets : VendorBuckets) : onRequest buckets req = (true, buckets) := by
  unfold onRequest
  rw [h]

theorem level_onRequest_le (key : String) (buckets : VendorBuckets) (req : Request) :
    level key (onRequest buckets req).2 req.nowMs ≤ level key buckets req.nowMs := by
  cases hkey : bucketKey req.url with
  | none => rw [onRequest_uncharged hkey]
  | some other =>
    rw [onRequest_charged hkey]
    by_cases h : key = other
    · subst h
      rw [level_consumeToken_self]
      exact (TokenBucket.consume_refilled_le _ _).trans (getVendorBucket_refilled_le _ _ _ _)
    · rw [level_consumeToken_ne h]

theorem level_onRequest_pays {key : String} {buckets : VendorBuckets} {req : Request}
    (hkey : bucketKey req.url = some key) (hpass : (onRequest buckets req).1 = true) :
    1 ≤ level key buckets req.nowMs ∧
      level key (onRequest buckets req).2 req.nowMs + 1 ≤ level key buckets req.nowMs := by
  rw [onRequest_charged hkey] at hpass ⊢
  rw [level_consumeToken_self]
  obtain ⟨hone, hpays⟩ := TokenBucket.consume_pays hpass
  have hle := getVendorBucket_refilled_le key buckets req.createdMs req.nowMs
  exact ⟨hone.trans hle, hpays.trans hle⟩

/-- The requests whose URL, if it is the vendor's, is charged to the key. -/
def ChargedTo (route : String → String → Option String) (vendor key : String) (req : Request) :
    Prop :=
  route req.method req.url = some vendor → bucketKey req.url = some key

theorem buckets_metered (key : String) :
    (vendorLimiter route vendor).Metered (ChargedTo route vendor key) (level key)
      defaultRateLimitBurst (defaultRateLimitRefillPerSec / 1000) where
  level_le := level_le key
  level_rise := fun buckets _ _ h => level_rise key buckets h
  step_le := fun buckets req _ => level_onRequest_le key buckets req
  grant_pays := by
    intro buckets req hcharged hgrant
    simp only [vendorLimiter, Bool.and_eq_true, decide_eq_true_eq] at hgrant
    exact level_onRequest_pays (hcharged hgrant.2) hgrant.1

theorem Clocked.inOrder {reqs : List Request} (h : Clocked reqs) :
    (vendorLimiter route vendor).InOrder reqs := by
  have hblocks := (List.pairwise_flatMap.mp h).2
  refine hblocks.imp fun {r r'} hreadings => ?_
  exact hreadings r.nowMs (by simp) r'.nowMs (by simp)

theorem rateLimited_of_oneBucket {spellings : Set String} (h : OneBucket route vendor spellings)
    {reqs : List Request} (hclock : Clocked reqs) (hspelled : ∀ req ∈ reqs, req.url ∈ spellings) :
    RateLimited route vendor reqs := by
  obtain ⟨key, hkey⟩ := h
  intro startMs T hT
  have hcharged : ∀ req ∈ reqs, ChargedTo route vendor key req :=
    fun req hreq => hkey req.method req.url (hspelled req hreq)
  have hburst : 0 ≤ defaultRateLimitBurst := by norm_num [defaultRateLimitBurst]
  have hrefill : 0 ≤ defaultRateLimitRefillPerSec / 1000 := by
    norm_num [defaultRateLimitRefillPerSec]
  have hlength : 0 ≤ 1000 * T := mul_nonneg (by norm_num) hT
  have hwindow : ((vendorLimiter route vendor).grantsIn startMs (startMs + 1000 * T) [] reqs : ℚ) ≤
      defaultRateLimitBurst + defaultRateLimitRefillPerSec / 1000 * (1000 * T) :=
    (buckets_metered key).grantsIn_le hburst hrefill hlength hcharged hclock.inOrder []
  calc ((vendorLimiter route vendor).grantsIn startMs (startMs + 1000 * T) [] reqs : ℚ)
      ≤ defaultRateLimitBurst + defaultRateLimitRefillPerSec / 1000 * (1000 * T) := hwindow
    _ = defaultRateLimitBurst + defaultRateLimitRefillPerSec * T := by ring

/-! ### Bursts -/

/-- A request made when the clock reads zero. -/
def atZero (method url : String) : Request := ⟨method, url, 0, 0⟩

theorem clocked_of_atZero {reqs : List Request}
    (h : ∀ req ∈ reqs, ∃ method url, req = atZero method url) : Clocked reqs := by
  have hzero : ∀ reading ∈ reqs.flatMap fun req => [req.createdMs, req.nowMs], reading = 0 := by
    intro reading hreading
    obtain ⟨req, hreq, hreading⟩ := List.mem_flatMap.mp hreading
    obtain ⟨method, url, rfl⟩ := h req hreq
    simpa [atZero] using hreading
  apply List.pairwise_of_forall_mem_list
  intro a ha b hb
  rw [hzero a ha, hzero b hb]

theorem grantsIn_atZero {method url : String} (hroute : route method url = some vendor)
    {buckets : VendorBuckets} (hpass : (onRequest buckets (atZero method url)).1 = true)
    (rest : List Request) :
    (vendorLimiter route vendor).grantsIn 0 0 buckets (atZero method url :: rest) =
      1 + (vendorLimiter route vendor).grantsIn 0 0 (onRequest buckets (atZero method url)).2
        rest := by
  have hgrant : (vendorLimiter route vendor).grants buckets (atZero method url) = true := by
    change ((onRequest buckets (atZero method url)).1 &&
      decide (route method url = some vendor)) = true
    rw [hpass, decide_eq_true hroute]
    rfl
  exact Limiter.grantsIn_cons_of_granted hgrant le_rfl le_rfl

/-- What no bucket is charged for passes, however much of it comes. -/
theorem uncharged_burst {method url : String} (hroute : route method url = some vendor)
    (hkey : bucketKey url = none) (n : ℕ) (buckets : VendorBuckets) :
    (vendorLimiter route vendor).grantsIn 0 0 buckets (List.replicate n (atZero method url)) =
      n := by
  have hpass : onRequest buckets (atZero method url) = (true, buckets) :=
    onRequest_uncharged hkey buckets
  induction n with
  | zero => rfl
  | succ n ih =>
    rw [List.replicate_succ, grantsIn_atZero hroute (by rw [hpass]), hpass, ih]
    omega

/-- A bucket that holds a token when a request comes gives it. -/
theorem charged_pass {method url key : String} (hkey : bucketKey url = some key)
    {buckets : VendorBuckets} (hlevel : 1 ≤ level key buckets 0) :
    (onRequest buckets (atZero method url)).1 = true ∧
      level key (onRequest buckets (atZero method url)).2 0 = level key buckets 0 - 1 := by
  have hfull : (getVendorBucket buckets key 0).refilled 0 = level key buckets 0 := by
    unfold getVendorBucket level
    cases buckets.lookup key with
    | none => simp [TokenBucket.refilled, TokenBucket.create]
    | some bucket => rfl
  have hcharged : onRequest buckets (atZero method url) = consumeToken buckets key 0 0 :=
    onRequest_charged hkey buckets
  obtain ⟨hpass, hleft⟩ := TokenBucket.consume_of_one_le (hlevel.trans_eq hfull.symm)
  rw [hcharged, level_consumeToken_self, hleft, hfull]
  exact ⟨hpass, rfl⟩

/-- A bucket pays for as many requests at once as it holds tokens. -/
theorem charged_burst {method url key : String} (hroute : route method url = some vendor)
    (hkey : bucketKey url = some key) (n : ℕ) {buckets : VendorBuckets}
    (hlevel : n ≤ level key buckets 0) :
    (vendorLimiter route vendor).grantsIn 0 0 buckets (List.replicate n (atZero method url)) =
      n := by
  induction n generalizing buckets with
  | zero => rfl
  | succ n ih =>
    push_cast at hlevel
    have hone : 1 ≤ level key buckets 0 := by linarith [(Nat.cast_nonneg n : (0 : ℚ) ≤ n)]
    have ⟨hpass, hleft⟩ := @charged_pass method _ _ hkey _ hone
    have hrest : (n : ℚ) ≤ level key (onRequest buckets (atZero method url)).2 0 := by
      rw [hleft]
      linarith
    rw [List.replicate_succ, grantsIn_atZero hroute hpass, ih hrest]
    omega

/-- Two spellings with keys of their own let one request more than the burst pass at once. -/
theorem two_keys_burst {method url key method' url' key' : String}
    (hroute : route method url = some vendor) (hkey : bucketKey url = some key)
    (hroute' : route method' url' = some vendor) (hkey' : bucketKey url' = some key')
    (hne : key ≠ key') :
    (vendorLimiter route vendor).grantsIn 0 0 []
      (atZero method' url' :: List.replicate 100 (atZero method url)) = 101 := by
  have hempty : (1 : ℚ) ≤ level key' [] 0 := by norm_num [level, defaultRateLimitBurst]
  have hother : level key (onRequest [] (atZero method' url')).2 0 = defaultRateLimitBurst := by
    rw [onRequest_charged hkey', level_consumeToken_ne hne]
    rfl
  have hfull : ((100 : ℕ) : ℚ) ≤ level key (onRequest [] (atZero method' url')).2 0 := by
    rw [hother]
    norm_num [defaultRateLimitBurst]
  rw [grantsIn_atZero hroute' (charged_pass hkey' hempty).1, charged_burst hroute hkey 100 hfull]

/-- A burst of one more than a bucket holds breaks the limit. -/
theorem not_rateLimited {reqs : List Request}
    (h : (vendorLimiter route vendor).grantsIn 0 0 [] reqs = 101) :
    ¬ RateLimited route vendor reqs := by
  intro hlimit
  have hatonce := hlimit 0 0 le_rfl
  rw [mul_zero, add_zero, h] at hatonce
  norm_num [defaultRateLimitBurst] at hatonce

theorem oneBucket_of_rateLimited {spellings : Set String}
    (h : ∀ reqs, Clocked reqs → (∀ req ∈ reqs, req.url ∈ spellings) →
      RateLimited route vendor reqs) : OneBucket route vendor spellings := by
  have hcharged : ∀ method, ∀ url ∈ spellings, route method url = some vendor →
      bucketKey url ≠ none := by
    intro method url hurl hroute hkey
    refine not_rateLimited (uncharged_burst hroute hkey 101 []) (h _ (clocked_of_atZero ?_) ?_)
    · intro req hreq
      exact ⟨method, url, List.eq_of_mem_replicate hreq⟩
    · intro req hreq
      rw [List.eq_of_mem_replicate hreq]
      exact hurl
  by_cases hsome : ∃ method, ∃ url ∈ spellings, route method url = some vendor
  · obtain ⟨method, url, hurl, hroute⟩ := hsome
    obtain ⟨key, hkey⟩ := Option.ne_none_iff_exists'.mp (hcharged method url hurl hroute)
    refine ⟨key, fun method' url' hurl' hroute' => ?_⟩
    obtain ⟨key', hkey'⟩ := Option.ne_none_iff_exists'.mp (hcharged method' url' hurl' hroute')
    by_contra hother
    have hne : key ≠ key' := fun e => hother (e ▸ hkey')
    refine not_rateLimited (two_keys_burst hroute hkey hroute' hkey' hne)
      (h _ (clocked_of_atZero ?_) ?_)
    · intro req hreq
      rcases List.mem_cons.mp hreq with rfl | hreq
      · exact ⟨method', url', rfl⟩
      · exact ⟨method, url, List.eq_of_mem_replicate hreq⟩
    · intro req hreq
      rcases List.mem_cons.mp hreq with rfl | hreq
      · exact hurl'
      · rw [List.eq_of_mem_replicate hreq]
        exact hurl
  · exact ⟨"", fun method url hurl hroute => absurd ⟨method, url, hurl, hroute⟩ hsome⟩

end

/-- Whatever spellings of its URL the requests use, in whatever order and at whatever times, a
vendor is held to the rate exactly when the spellings routed to it are charged to one bucket. -/
theorem rate_limited_iff (route : String → String → Option String) (vendor : String)
    (spellings : Set String) :
    (∀ reqs, Clocked reqs → (∀ req ∈ reqs, req.url ∈ spellings) →
      RateLimited route vendor reqs) ↔ OneBucket route vendor spellings :=
  ⟨oneBucket_of_rateLimited, fun h _ hclock hspelled => rateLimited_of_oneBucket h hclock hspelled⟩

/-- The router on URLs without percent-encodings: the query string is left aside. -/
def plainRoute (method url : String) : Option String :=
  match (url.toList.takeWhile fun c => c != '?' && c != '#').splitOn '/' with
  | [[], head, vendor] =>
    if method = "POST" ∧ head = "webhooks".toList ∧ vendor ≠ [] then some (String.ofList vendor)
    else none
  | _ => none

/-- One request with a query string beside the burst without one: 101 pass at once. -/
theorem query_string_exceeds_rate :
    ∃ reqs, Clocked reqs ∧ (∀ req ∈ reqs, plainRoute req.method req.url = some "shopify") ∧
      ¬ RateLimited plainRoute "shopify" reqs := by
  have hplain : plainRoute "POST" "/webhooks/shopify" = some "shopify" := by decide
  have hquery : plainRoute "POST" "/webhooks/shopify?x=1" = some "shopify" := by decide
  have hkey : bucketKey "/webhooks/shopify" = some "shopify" := by decide
  have hkey' : bucketKey "/webhooks/shopify?x=1" = some "shopify?x=1" := by decide
  refine ⟨atZero "POST" "/webhooks/shopify?x=1" ::
    List.replicate 100 (atZero "POST" "/webhooks/shopify"), clocked_of_atZero ?_, ?_,
    not_rateLimited (two_keys_burst hplain hkey hquery hkey' (by decide))⟩
  · intro req hreq
    rcases List.mem_cons.mp hreq with rfl | hreq
    · exact ⟨_, _, rfl⟩
    · exact ⟨_, _, List.eq_of_mem_replicate hreq⟩
  · intro req hreq
    rcases List.mem_cons.mp hreq with rfl | hreq
    · exact hquery
    · rw [List.eq_of_mem_replicate hreq]
      exact hplain

end BrainV2.Webhook
