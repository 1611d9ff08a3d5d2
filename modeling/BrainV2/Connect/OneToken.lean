import BrainV2.Connect.Flows

/-!
# One token for a flow

* `Stepped`: what a step does to the tables and its call;
* `Store`: a shop whose name the pattern lets through;
* `Sound`: what every step keeps;
* `OneToken`: the code of a flow is sent once, to the store it was begun for, and the token it
  brings is stored once, for the workspace that began it;
* `one_token`: so it is in every run.
-/

namespace BrainV2.Connect

open Runs
open Connectors (OAuthStateRow ProviderEnv CallbackParams hashState validateAndConsumeOAuthState
  consumed_of_some checkSignature exchangeRequest shopDomain_of_request ExchangeRequest)

/-! ### Stores -/

/-- A store of Shopify by its name, with nothing that ends the host of a URL. -/
def Store (shop : String) : Prop :=
  ∃ name, shop.toList = name ++ myshopify ∧ name ≠ [] ∧ ∀ c ∈ name, isAlnum c = true ∨ c = '-'

theorem store_of_valid {shop : String} (h : isValidShopDomain shop = true) : Store shop := by
  simp only [isValidShopDomain, Bool.and_eq_true, decide_eq_true_eq] at h
  obtain ⟨⟨hhead, hall⟩, hname⟩ := h
  refine ⟨_, hname.symm, ?_, fun c hc => ?_⟩
  · intro hnil
    rw [hnil] at hhead
    cases hhead
  · have hc := List.all_eq_true.mp hall c hc
    rw [Bool.or_eq_true, beq_iff_eq] at hc
    exact hc

variable {env : ProviderEnv} {toLowerCase : String → String}

theorem store_of_initiate {params : InitiateParams} {nonce : String} {flow : Flow}
    (h : initiateConnect toLowerCase params nonce = .ok flow) :
    flow.state = nonce ∧ (flow.vendor = "SHOPIFY" →
      ∃ shop, flow.shopDomain = some shop ∧ Store shop) := by
  unfold initiateConnect at h
  cases hshop : shopOf toLowerCase params with
  | error e =>
    rw [hshop] at h
    cases h
  | ok shopDomain =>
    rw [hshop] at h
    cases h
    refine ⟨rfl, fun hvendor => ?_⟩
    unfold shopOf at hshop
    rw [if_pos hvendor] at hshop
    split at hshop
    · cases hshop
    · cases hshop
    · dsimp only at hshop
      split at hshop
      · next hvalid =>
        cases hshop
        exact ⟨_, rfl, store_of_valid hvalid⟩
      · cases hshop

/-! ### Steps -/

/-- The code of a call whose token is not stored. -/
def unspent : Phase → Option Sending
  | .exchanging x | .exchanged x _ => some x
  | _ => none

/-- No flow begins, no code is sent, and no token is stored. -/
structure Quiet (tables : Tables) (phase : Phase) (out : Tables × Phase) : Prop where
  states : ∀ row ∈ out.1.states, row ∈ tables.states
  flows : out.1.flows = tables.flows
  sent : out.1.sent = tables.sent
  tokens : out.1.tokens = tables.tokens
  credentials : ∀ key content, out.1.credentials key = some content →
    tables.credentials key = some content
  unspent : ∀ x, unspent out.2 = some x → unspent phase = some x

variable (env toLowerCase) in
inductive Stepped (tables : Tables) : Phase → Event → Tables × Phase → Prop
  | began {params : InitiateParams} {nonce : String} {flow : Flow} (now dbNow : Int)
      (h : initiateConnect toLowerCase params nonce = .ok flow) :
    Stepped tables .idle (.initiate params nonce now dbNow)
      ({ tables with
          states := createOAuthState env.hashes now dbNow tables.states flow
          flows := tables.flows ++ [flow.row env.hashes now] }, .begun)
  | admitted {params : CallbackParams} {x : Sending} (now : Int) (hrow : x.row ∈ tables.states)
      (hstate : x.row.stateHash = hashState env.hashes params.state)
      (hvendor : x.vendor = x.row.vendor)
      (hrequest : exchangeRequest env x.vendor x.code x.row.shopDomain = .ok x.request) :
    Stepped tables .idle (.callback params now)
      ({ tables with
          states := tables.states.filter (·.stateHash ≠ hashState env.hashes params.state)
          sent := tables.sent ++ [x] }, .exchanging x)
  | put (x : Sending) (token : Token) :
    Stepped tables (.exchanged x token) (.put (.ok ())) (putToken tables x token, .stored x token)
  | quiet {phase : Phase} {e : Event} {out : Tables × Phase} (h : Quiet tables phase out) :
    Stepped tables phase e out

theorem quiet_same {tables : Tables} {phase phase' : Phase}
    (h : ∀ x, unspent phase' = some x → unspent phase = some x) :
    Quiet tables phase (tables, phase') :=
  ⟨fun _ hrow => hrow, rfl, rfl, rfl, fun _ _ hkey => hkey, h⟩

theorem stepped_initiate (tables : Tables) (params : InitiateParams) (nonce : String)
    (now dbNow : Int) : Stepped env toLowerCase tables .idle (.initiate params nonce now dbNow)
      (beginFlow env toLowerCase tables params nonce now dbNow) := by
  unfold beginFlow
  cases h : initiateConnect toLowerCase params nonce with
  | error e => exact .quiet (quiet_same fun x hx => by cases hx)
  | ok flow => exact .began now dbNow h

theorem stepped_callback (tables : Tables) (params : CallbackParams) (now : Int) :
    Stepped env toLowerCase tables .idle (.callback params now)
      (beginCallback env tables params now) := by
  unfold beginCallback
  split
  · exact .quiet (quiet_same fun x hx => by cases hx)
  · have hleft : (validateAndConsumeOAuthState env.hashes now tables.states params.state
        params.vendor).2 = tables.states.filter (·.stateHash ≠ hashState env.hashes params.state) :=
      rfl
    generalize hconsumed : validateAndConsumeOAuthState env.hashes now tables.states params.state
      params.vendor = consumed at hleft
    obtain ⟨found, states⟩ := consumed
    dsimp only at hleft
    subst hleft
    have hquiet : ∀ failure, Quiet tables .idle
        ({ tables with
          states := tables.states.filter (·.stateHash ≠ hashState env.hashes params.state) },
          .failed failure) := by
      intro failure
      refine ⟨fun _ hrow => List.mem_of_mem_filter hrow, rfl, rfl, rfl, fun _ _ hkey => hkey, ?_⟩
      rintro x ⟨⟩
    cases found with
    | none => exact .quiet (hquiet _)
    | some row =>
      obtain ⟨hrow, hstate, hvendor, -⟩ := consumed_of_some hconsumed
      dsimp only [admitCallback]
      cases checkSignature env params with
      | error e => exact .quiet (hquiet _)
      | ok _ =>
        dsimp only
        cases hrequest : exchangeRequest env params.vendor params.code row.shopDomain with
        | error e => exact .quiet (hquiet _)
        | ok request => exact .admitted now hrow hstate hvendor.symm hrequest

theorem stepped (tables : Tables) (phase : Phase) (e : Event) :
    Stepped env toLowerCase tables phase e (advance env toLowerCase tables phase e) := by
  fun_cases advance env toLowerCase tables phase e with
  | case1 params nonce now dbNow => exact stepped_initiate tables params nonce now dbNow
  | case2 params now => exact stepped_callback tables params now
  | case3 x provider hnone => exact .quiet (quiet_same fun x hx => by cases hx)
  | case4 x provider token htoken => exact .quiet (quiet_same fun _ hx => hx)
  | case5 => exact .quiet (quiet_same fun x hx => by cases hx)
  | case6 x token => exact .put x token
  | case7 => exact .quiet (quiet_same fun x hx => by cases hx)
  | case8 x token now =>
    refine .quiet ⟨fun _ hrow => hrow, rfl, rfl, rfl, fun _ _ hkey => hkey, ?_⟩
    rintro x ⟨⟩
  | case9 => exact .quiet (quiet_same fun x hx => by cases hx)
  | case10 workspaceId vendor =>
    refine .quiet ⟨fun _ hrow => hrow, rfl, rfl, rfl, fun key content hkey => ?_, ?_⟩
    · by_cases hsame : key = (workspaceId, vendor)
      · subst hsame
        simp only [sealToken, Function.update_self] at hkey
        cases hkey
      · simpa only [sealToken, Function.update_of_ne hsame] using hkey
    · rintro x ⟨⟩
  | case11 => exact .quiet (quiet_same fun x hx => by cases hx)
  | case12 workspaceId vendor =>
    refine .quiet ⟨fun _ hrow => hrow, rfl, rfl, rfl, fun _ _ hkey => hkey, ?_⟩
    rintro x ⟨⟩
  | case13 => exact .quiet (quiet_same fun _ hx => hx)

/-! ### The invariant -/

/-- No flow begins with the nonce of another. -/
def Fresh (env : ProviderEnv) (s : Connects) (e : Nat × Event) : Prop :=
  match e.2 with
  | .initiate _ nonce _ _ =>
    ∀ row ∈ s.shared.flows, row.stateHash ≠ hashState env.hashes nonce
  | _ => True

/-- The code was sent for a flow of its vendor, the way its provider asks for. -/
structure Right (env : ProviderEnv) (flows : List OAuthStateRow) (x : Sending) : Prop where
  row : x.row ∈ flows
  vendor : x.vendor = x.row.vendor
  request : exchangeRequest env x.vendor x.code x.row.shopDomain = .ok x.request

def Apart (x y : Sending) : Prop := x.row.stateHash ≠ y.row.stateHash

variable (env) in
/-- `old` are the credentials before the first flow. -/
structure Sound (old : String × String → Option String) (s : Connects) : Prop where
  states : ∀ row ∈ s.shared.states, row ∈ s.shared.flows
  flows : (s.shared.flows.map (·.stateHash)).Nodup
  shop : ∀ row ∈ s.shared.flows, row.vendor = "SHOPIFY" →
    ∃ shop, row.shopDomain = some shop ∧ Store shop
  right : ∀ x ∈ s.shared.sent, Right env s.shared.flows x
  gone : ∀ x ∈ s.shared.sent, ∀ row ∈ s.shared.states, row.stateHash ≠ x.row.stateHash
  sentOnce : s.shared.sent.Pairwise Apart
  tokens : ∀ t ∈ s.shared.tokens, t.sending ∈ s.shared.sent
  storedOnce : s.shared.tokens.Pairwise fun t t' => Apart t.sending t'.sending
  calls : ∀ c x, unspent (s.calls c) = some x →
    x ∈ s.shared.sent ∧ ∀ t ∈ s.shared.tokens, Apart t.sending x
  alone : ∀ c c' x x', unspent (s.calls c) = some x → unspent (s.calls c') = some x' →
    x.row.stateHash = x'.row.stateHash → c = c'
  credentials : ∀ key content, s.shared.credentials key = some content →
    old key = some content ∨ ∃ t ∈ s.shared.tokens, t.sending.key = key ∧ t.content = content

/-- What one flow brings about, however the calls come between each other. -/
structure OneToken (env : ProviderEnv) (old : String × String → Option String) (s : Connects) :
    Prop where
  flows : (s.shared.flows.map (·.stateHash)).Nodup
  sentOnce : s.shared.sent.Pairwise Apart
  sent : ∀ x ∈ s.shared.sent, Right env s.shared.flows x
  shop : ∀ x ∈ s.shared.sent, x.vendor = "SHOPIFY" →
    ∃ shop, x.row.shopDomain = some shop ∧ Store shop ∧ x.request = .shopifyToken shop x.code
  storedOnce : s.shared.tokens.Pairwise fun t t' => Apart t.sending t'.sending
  tokens : ∀ t ∈ s.shared.tokens, t.sending ∈ s.shared.sent
  credentials : ∀ key content, s.shared.credentials key = some content →
    old key = some content ∨ ∃ t ∈ s.shared.tokens, t.sending.key = key ∧ t.content = content

variable {old : String × String → Option String} {s : Connects} {e : Nat × Event}

theorem Sound.oneToken (h : Sound env old s) : OneToken env old s where
  flows := h.flows
  sentOnce := h.sentOnce
  sent := h.right
  shop := by
    intro x hx hvendor
    have hright := h.right x hx
    obtain ⟨shop, hshop, hstore⟩ := h.shop x.row hright.row (hright.vendor.symm.trans hvendor)
    have hrequest := hright.request
    rw [hvendor] at hrequest
    obtain ⟨found, hfound, hsent⟩ := shopDomain_of_request hrequest
    rw [hshop] at hfound
    cases hfound
    exact ⟨shop, hshop, hstore, hsent⟩
  storedOnce := h.storedOnce
  tokens := h.tokens
  credentials := h.credentials

/-- The tables after a step of one call, and the other calls. -/
structure Leads (s s' : Connects) (c : Nat) (out : Tables × Phase) : Prop where
  shared : s'.shared = out.1
  self : s'.calls c = out.2
  other : ∀ i, i ≠ c → s'.calls i = s.calls i

theorem leads_step (s : Connects) (e : Nat × Event) :
    Leads s (step env toLowerCase s e) e.1
      (advance env toLowerCase s.shared (s.calls e.1) e.2) where
  shared := rfl
  self := Interleave.step_calls_self s e
  other := fun _ hi => Interleave.step_calls_of_ne s hi

/-- After the step a call is the one that took it, or as it was before. -/
theorem leads_call {s' : Connects} {c : Nat} {out : Tables × Phase} (h : Leads s s' c out)
    (i : Nat) : i = c ∧ s'.calls i = out.2 ∨ i ≠ c ∧ s'.calls i = s.calls i := by
  by_cases hi : i = c
  · subst hi
    exact Or.inl ⟨rfl, h.self⟩
  · exact Or.inr ⟨hi, h.other i hi⟩

section

variable {s' : Connects} {c : Nat} (h : Sound env old s)

include h

theorem sound_quiet {out : Tables × Phase} (hleads : Leads s s' c out)
    (hquiet : Quiet s.shared (s.calls c) out) : Sound env old s' := by
  have hunspent : ∀ i x, unspent (s'.calls i) = some x → unspent (s.calls i) = some x := by
    intro i x hx
    rcases leads_call hleads i with ⟨rfl, hcall⟩ | ⟨-, hcall⟩ <;> rw [hcall] at hx
    · exact hquiet.unspent x hx
    · exact hx
  have hshared := hleads.shared
  obtain ⟨tables, phase⟩ := out
  subst hshared
  have hflows := hquiet.flows
  have hsent := hquiet.sent
  have htokens := hquiet.tokens
  constructor
  · intro row hrow
    rw [hflows]
    exact h.states row (hquiet.states row hrow)
  · rw [hflows]
    exact h.flows
  · rw [hflows]
    exact h.shop
  · rw [hsent, hflows]
    exact h.right
  · rw [hsent]
    exact fun x hx row hrow => h.gone x hx row (hquiet.states row hrow)
  · rw [hsent]
    exact h.sentOnce
  · rw [htokens, hsent]
    exact h.tokens
  · rw [htokens]
    exact h.storedOnce
  · intro i x hx
    rw [hsent, htokens]
    exact h.calls i x (hunspent i x hx)
  · exact fun i j x y hx hy => h.alone i j x y (hunspent i x hx) (hunspent j y hy)
  · intro key content hkey
    rw [htokens]
    exact h.credentials key content (hquiet.credentials key content hkey)

theorem sound_began {params : InitiateParams} {nonce : String} {flow : Flow} {now dbNow : Int}
    (hinitiate : initiateConnect toLowerCase params nonce = .ok flow)
    (hfresh : ∀ row ∈ s.shared.flows, row.stateHash ≠ hashState env.hashes nonce)
    (hleads : Leads s s' c ({ s.shared with
        states := createOAuthState env.hashes now dbNow s.shared.states flow
        flows := s.shared.flows ++ [flow.row env.hashes now] }, .begun)) : Sound env old s' := by
  obtain ⟨rfl, hshop⟩ := store_of_initiate hinitiate
  have hnew : ∀ row ∈ s.shared.flows, row.stateHash ≠ (flow.row env.hashes now).stateHash := hfresh
  have hunspent : ∀ i x, unspent (s'.calls i) = some x → unspent (s.calls i) = some x := by
    intro i x hx
    rcases leads_call hleads i with ⟨rfl, hcall⟩ | ⟨-, hcall⟩ <;> rw [hcall] at hx
    · cases hx
    · exact hx
  have hstates : ∀ row, row ∈ createOAuthState env.hashes now dbNow s.shared.states flow ↔
      row ∈ s.shared.states ∧ ¬ Pruned flow dbNow row ∨ row = flow.row env.hashes now := by
    intro row
    exact mem_create fun row hrow => hnew row (h.states row hrow)
  obtain ⟨shared, calls⟩ := s'
  obtain rfl := hleads.shared
  constructor
  · intro row hrow
    rcases (hstates row).mp hrow with ⟨hold, -⟩ | rfl
    · exact List.mem_append_left _ (h.states row hold)
    · exact List.mem_append_right _ List.mem_cons_self
  · rw [List.map_append]
    refine h.flows.append (List.nodup_singleton _) fun hash hold hin => ?_
    obtain ⟨row, hrow, rfl⟩ := List.mem_map.mp hold
    exact hnew row hrow (List.mem_singleton.mp hin)
  · intro row hrow hvendor
    rcases List.mem_append.mp hrow with hold | hin
    · exact h.shop row hold hvendor
    · rw [List.mem_singleton.mp hin] at hvendor ⊢
      exact hshop hvendor
  · intro x hx
    have hright := h.right x hx
    exact ⟨List.mem_append_left _ hright.row, hright.vendor, hright.request⟩
  · intro x hx row hrow
    rcases (hstates row).mp hrow with ⟨hold, -⟩ | rfl
    · exact h.gone x hx row hold
    · exact (hnew x.row (h.right x hx).row).symm
  · exact h.sentOnce
  · exact h.tokens
  · exact h.storedOnce
  · exact fun i x hx => h.calls i x (hunspent i x hx)
  · exact fun i j x y hx hy => h.alone i j x y (hunspent i x hx) (hunspent j y hy)
  · exact h.credentials

theorem sound_admitted {params : CallbackParams} {x : Sending} (hrow : x.row ∈ s.shared.states)
    (hstate : x.row.stateHash = hashState env.hashes params.state)
    (hvendor : x.vendor = x.row.vendor)
    (hrequest : exchangeRequest env x.vendor x.code x.row.shopDomain = .ok x.request)
    (hleads : Leads s s' c ({ s.shared with
        states := s.shared.states.filter (·.stateHash ≠ hashState env.hashes params.state)
        sent := s.shared.sent ++ [x] }, .exchanging x)) : Sound env old s' := by
  have hapart : ∀ y ∈ s.shared.sent, Apart y x := fun y hy => (h.gone y hy x.row hrow).symm
  have hunspent : ∀ i y, unspent (s'.calls i) = some y →
      unspent (s.calls i) = some y ∧ i ≠ c ∨ i = c ∧ y = x := by
    intro i y hy
    rcases leads_call hleads i with ⟨rfl, hcall⟩ | ⟨hi, hcall⟩ <;> rw [hcall] at hy
    · exact Or.inr ⟨rfl, (Option.some.inj hy).symm⟩
    · exact Or.inl ⟨hy, hi⟩
  obtain ⟨shared, calls⟩ := s'
  obtain rfl := hleads.shared
  constructor
  · exact fun row hrow => h.states row (List.mem_of_mem_filter hrow)
  · exact h.flows
  · exact h.shop
  · intro y hy
    rcases List.mem_append.mp hy with hold | hin
    · exact h.right y hold
    · rw [List.mem_singleton.mp hin]
      exact ⟨h.states x.row hrow, hvendor, hrequest⟩
  · intro y hy row hleft
    obtain ⟨hold, hne⟩ := List.mem_filter.mp hleft
    rcases List.mem_append.mp hy with hsent | hin
    · exact h.gone y hsent row hold
    · rw [List.mem_singleton.mp hin, hstate]
      exact of_decide_eq_true hne
  · rw [List.pairwise_append]
    refine ⟨h.sentOnce, List.pairwise_singleton _ _, fun y hy z hz => ?_⟩
    rw [List.mem_singleton.mp hz]
    exact hapart y hy
  · exact fun t ht => List.mem_append_left _ (h.tokens t ht)
  · exact h.storedOnce
  · intro i y hy
    rcases hunspent i y hy with ⟨hold, -⟩ | ⟨-, rfl⟩
    · exact ⟨List.mem_append_left _ (h.calls i y hold).1, (h.calls i y hold).2⟩
    · exact ⟨List.mem_append_right _ List.mem_cons_self, fun t ht => hapart _ (h.tokens t ht)⟩
  · intro i j y z hy hz hsame
    rcases hunspent i y hy with ⟨hyold, -⟩ | ⟨hi, rfl⟩ <;>
      rcases hunspent j z hz with ⟨hzold, -⟩ | ⟨hj, rfl⟩
    · exact h.alone i j y z hyold hzold hsame
    · exact absurd hsame (hapart y (h.calls i y hyold).1)
    · exact absurd hsame.symm (hapart z (h.calls j z hzold).1)
    · rw [hi, hj]
  · exact h.credentials

theorem sound_put {x : Sending} {token : Token} (hphase : s.calls c = .exchanged x token)
    (hleads : Leads s s' c (putToken s.shared x token, .stored x token)) : Sound env old s' := by
  obtain ⟨hsent, hapart⟩ := h.calls c x (by rw [hphase]; rfl)
  have hunspent : ∀ i y, unspent (s'.calls i) = some y → unspent (s.calls i) = some y ∧ i ≠ c := by
    intro i y hy
    rcases leads_call hleads i with ⟨rfl, hcall⟩ | ⟨hi, hcall⟩ <;> rw [hcall] at hy
    · cases hy
    · exact ⟨hy, hi⟩
  obtain ⟨shared, calls⟩ := s'
  obtain rfl := hleads.shared
  constructor
  · exact h.states
  · exact h.flows
  · exact h.shop
  · exact h.right
  · exact h.gone
  · exact h.sentOnce
  · intro t ht
    rcases List.mem_append.mp ht with hold | hin
    · exact h.tokens t hold
    · rw [List.mem_singleton.mp hin]
      exact hsent
  · refine List.pairwise_append.mpr ⟨h.storedOnce, List.pairwise_singleton _ _, fun t ht t' ht' => ?_⟩
    rw [List.mem_singleton.mp ht']
    exact hapart t ht
  · intro i y hy
    obtain ⟨hold, hi⟩ := hunspent i y hy
    refine ⟨(h.calls i y hold).1, fun t ht => ?_⟩
    rcases List.mem_append.mp ht with htold | hin
    · exact (h.calls i y hold).2 t htold
    · rw [List.mem_singleton.mp hin]
      exact fun hsame => hi (h.alone i c y x hold (by rw [hphase]; rfl) hsame.symm)
  · exact fun i j y z hy hz => h.alone i j y z (hunspent i y hy).1 (hunspent j z hz).1
  · intro key content hkey
    by_cases hsame : key = x.key
    · subst hsame
      simp only [putToken, Function.update_self, Option.some.injEq] at hkey
      exact Or.inr ⟨⟨x, token.content⟩, List.mem_append_right _ List.mem_cons_self, rfl, hkey⟩
    · simp only [putToken, Function.update_of_ne hsame] at hkey
      refine (h.credentials key content hkey).imp_right ?_
      rintro ⟨t, ht, hfound⟩
      exact ⟨t, List.mem_append_left _ ht, hfound⟩

end

/-! ### Runs -/

theorem sound_step (h : Sound env old s) (hfresh : Fresh env s e) :
    Sound env old (step env toLowerCase s e) := by
  have hleads : Leads s (step env toLowerCase s e) e.1 _ := leads_step s e
  have hstepped : Stepped env toLowerCase s.shared (s.calls e.1) e.2 _ :=
    stepped s.shared (s.calls e.1) e.2
  obtain ⟨c, event⟩ := e
  dsimp only at hleads hstepped
  generalize hphase : s.calls c = phase at hleads hstepped
  generalize advance env toLowerCase s.shared phase event = out at hleads hstepped
  cases hstepped with
  | began now dbNow hinitiate => exact sound_began h hinitiate hfresh hleads
  | admitted now hrow hstate hvendor hrequest =>
    exact sound_admitted h hrow hstate hvendor hrequest hleads
  | put x token => exact sound_put h hphase hleads
  | quiet hquiet => exact sound_quiet h hleads (hphase ▸ hquiet)

/-- Before the first flow. -/
structure Unopened (s : Connects) : Prop where
  states : s.shared.states = []
  flows : s.shared.flows = []
  sent : s.shared.sent = []
  tokens : s.shared.tokens = []
  calls : ∀ c, s.calls c = .idle

theorem Unopened.sound (hs : Unopened s) : Sound env s.shared.credentials s := by
  have hcalls : ∀ c x, unspent (s.calls c) ≠ some x := by
    intro c x
    rw [hs.calls]
    rintro ⟨⟩
  constructor
  · rw [hs.states]
    exact fun row hrow => absurd hrow List.not_mem_nil
  · rw [hs.flows]
    exact List.nodup_nil
  · rw [hs.flows]
    exact fun row hrow => absurd hrow List.not_mem_nil
  · rw [hs.sent]
    exact fun x hx => absurd hx List.not_mem_nil
  · rw [hs.sent]
    exact fun x hx => absurd hx List.not_mem_nil
  · rw [hs.sent]
    exact List.Pairwise.nil
  · rw [hs.tokens]
    exact fun t ht => absurd ht List.not_mem_nil
  · rw [hs.tokens]
    exact List.Pairwise.nil
  · exact fun c x hx => absurd hx (hcalls c x)
  · exact fun c c' x x' hx => absurd hx (hcalls c x)
  · exact fun _ _ hkey => Or.inl hkey

/-- In every run the code of a flow is sent once, and its token is stored once. -/
theorem one_token {es : List (Nat × Event)} (hs : Unopened s)
    (hfresh : Allowed (step env toLowerCase) (Fresh env) s es) :
    Always (step env toLowerCase) (OneToken env s.shared.credentials) s es := by
  have hsound : Always (step env toLowerCase) (Sound env s.shared.credentials) s es :=
    always_of_step (fun _ _ h he => sound_step h he) hs.sound hfresh
  exact hsound.mono fun _ h => h.oneToken

/-! ### A callback that comes twice -/

def plainEnv : ProviderEnv := ⟨plainHashes, fun _ _ => 0, none, none⟩

def unopened : Connects := ⟨⟨[], fun _ => none, fun _ => none, [], [], []⟩, fun _ => .idle⟩

def metaCallback : CallbackParams := ⟨"META", "code_1", "nonce_1", none⟩

def metaToken : Token := ⟨⟨["ads_read"], none⟩, "token_1", none⟩

/-- The callback is repeated while the first one waits for the token. -/
def connecting : List (Nat × Event) :=
  [(0, .initiate ⟨"META", "ws_1", "user_1", none⟩ "nonce_1" 0 0), (1, .callback metaCallback 5),
    (2, .callback metaCallback 6), (1, .exchange fun _ => some metaToken), (1, .put (.ok ())),
    (1, .connect 7 (.ok ()))]

theorem unopened_unopened : Unopened unopened :=
  ⟨rfl, rfl, rfl, rfl, fun _ => rfl⟩

theorem one_token_connecting :
    Always (step plainEnv id) (OneToken plainEnv fun _ => none) unopened connecting := by
  refine one_token unopened_unopened ⟨?_, trivial, trivial, trivial, trivial, trivial, trivial⟩
  exact fun row hrow => absurd hrow List.not_mem_nil

end BrainV2.Connect
