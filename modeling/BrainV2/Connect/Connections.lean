import BrainV2.Connect.OneToken
import Mathlib

/-!
# Connections and credentials

A callback stores the credential and then the connection; a disconnect deletes the one and then
marks the other.

* `listConnectors`: the list of the settings page, with what it derives of each connection;
* `HalfWay`: a call between its two steps on a workspace and vendor;
* `Orderly`: a first step that comes when nobody is half-way, a second step that does not fail;
* `Kept`: what such steps keep;
* `listed_iff`: then the list shows exactly the vendors with a credential as connected.
-/

namespace BrainV2.Connect

open Runs
open Connectors (ProviderEnv CallbackFailure)
open Js (Result)

/-! ### The list -/

/-- `ALL_VENDORS` -/
def allVendors : List String := ["SHOPIFY", "META", "GOOGLE"]

structure ConnectorStatusRow where
  vendor : String
  status : ConnectionStatus
  scopes : List String
  accountRef : Option String
  tokenExpiresAt : Option Int
  lastSyncAt : Option Int
  lastSyncError : Option String
  syncPending : Bool

/-- `TOKEN_EXPIRED` is not stored. -/
def Connection.shown (row : Connection) (now : Int) : ConnectionStatus :=
  if row.status = .connected ∧ row.tokenExpiresAt.any (· < now) then .tokenExpired else row.status

def statusRow (now : Int) (vendor : String) : Option Connection → ConnectorStatusRow
  | none => ⟨vendor, .notConnected, [], none, none, none, none, false⟩
  | some row =>
    ⟨vendor, row.shown now, row.scopes, row.accountRef, row.tokenExpiresAt, row.lastSyncAt,
      row.lastSyncError, decide (row.shown now = .connected) && row.lastSyncAt.isNone⟩

def listConnectors (now : Int) (connections : String × String → Option Connection)
    (workspaceId : String) : List ConnectorStatusRow :=
  allVendors.map fun vendor => statusRow now vendor (connections (workspaceId, vendor))

/-- The row says that the vendor is connected, if only with a token that has expired. -/
def ConnectorStatusRow.Connected (row : ConnectorStatusRow) : Prop :=
  row.status = .connected ∨ row.status = .tokenExpired

def Connection.live (row : Connection) : Bool :=
  row.status = .connected || row.status = .tokenExpired

theorem connected_statusRow {now : Int} {vendor : String} {found : Option Connection} :
    (statusRow now vendor found).Connected ↔ found.any (·.live) = true := by
  cases found with
  | none => simp [statusRow, ConnectorStatusRow.Connected]
  | some row =>
    simp only [statusRow, ConnectorStatusRow.Connected, Connection.shown, Connection.live,
      Option.any_some, Bool.or_eq_true, decide_eq_true_eq]
    split
    · next hexpired => simp [hexpired.1]
    · exact Iff.rfl

/-! ### Two steps -/

def HalfWay (phase : Phase) (key : String × String) : Prop :=
  match phase with
  | .stored x _ => x.key = key
  | .sealed workspaceId vendor => (workspaceId, vendor) = key
  | _ => False

def Orderly (s : Connects) (e : Nat × Event) : Prop :=
  match s.calls e.1, e.2 with
  | .exchanged x _, .put (.ok ()) => ∀ i, ¬ HalfWay (s.calls i) x.key
  | .idle, .disconnect workspaceId vendor (.ok ()) =>
    ∀ i, ¬ HalfWay (s.calls i) (workspaceId, vendor)
  | .stored _ _, .connect _ answer | .sealed _ _, .mark answer => answer = .ok ()
  | _, _ => True

/-- The connection is live exactly when there is a credential. -/
def Matched (tables : Tables) (key : String × String) : Prop :=
  (tables.connections key).any (·.live) = (tables.credentials key).isSome

/-- What a call that is half-way finds of its credential. -/
def Found (credentials : String × String → Option String) : Phase → Prop
  | .stored x _ => (credentials x.key).isSome = true
  | .sealed workspaceId vendor => credentials (workspaceId, vendor) = none
  | _ => True

structure Kept (s : Connects) : Prop where
  matched : ∀ key, (∀ i, ¬ HalfWay (s.calls i) key) → Matched s.shared key
  found : ∀ i, Found s.shared.credentials (s.calls i)
  alone : ∀ i j key, HalfWay (s.calls i) key → HalfWay (s.calls j) key → i = j

/-! ### The steps -/

theorem HalfWay.key_eq {phase : Phase} {key key' : String × String} (h : HalfWay phase key)
    (h' : HalfWay phase key') : key = key' := by
  cases phase with
  | stored x token => exact h.symm.trans h'
  | sealed workspaceId vendor => exact h.symm.trans h'
  | idle | begun | refused _ | exchanging _ | exchanged _ _ | connected _ | disconnected
    | failed _ => exact absurd h id

theorem found_congr {credentials credentials' : String × String → Option String} {phase : Phase}
    (hsame : ∀ key, HalfWay phase key → credentials' key = credentials key)
    (h : Found credentials phase) : Found credentials' phase := by
  cases phase with
  | stored x token => exact (congrArg Option.isSome (hsame _ rfl)).trans h
  | sealed workspaceId vendor => exact (hsame _ rfl).trans h
  | idle | begun | refused _ | exchanging _ | exchanged _ _ | connected _ | disconnected
    | failed _ => trivial

theorem found_outside {credentials : String × String → Option String} {phase : Phase}
    (h : ∀ key, ¬ HalfWay phase key) : Found credentials phase := by
  cases phase with
  | stored x token => exact absurd rfl (h x.key)
  | sealed workspaceId vendor => exact absurd rfl (h (workspaceId, vendor))
  | idle | begun | refused _ | exchanging _ | exchanged _ _ | connected _ | disconnected
    | failed _ => trivial

section

variable {s s' : Connects} {c : Nat} {out : Tables × Phase} (h : Kept s) (hleads : Leads s s' c out)

include h hleads

/-- A step of a call that is half-way neither before nor after it. -/
theorem kept_outside (hbefore : ∀ key, ¬ HalfWay (s.calls c) key) (hafter : ∀ key, ¬ HalfWay out.2 key)
    (hcredentials : out.1.credentials = s.shared.credentials)
    (hconnections : out.1.connections = s.shared.connections) : Kept s' := by
  have hback : ∀ i key, HalfWay (s'.calls i) key ↔ HalfWay (s.calls i) key := by
    intro i key
    rcases leads_call hleads i with ⟨rfl, hcall⟩ | ⟨-, hcall⟩ <;> rw [hcall]
    exact iff_of_false (hafter key) (hbefore key)
  constructor
  · intro key hnone
    rw [Matched, hleads.shared, hcredentials, hconnections]
    exact h.matched key fun i hi => hnone i ((hback i key).mpr hi)
  · intro i
    rw [hleads.shared, hcredentials]
    rcases leads_call hleads i with ⟨rfl, hcall⟩ | ⟨-, hcall⟩ <;> rw [hcall]
    · exact found_outside hafter
    · exact h.found i
  · intro i j key hi hj
    exact h.alone i j key ((hback i key).mp hi) ((hback j key).mp hj)

omit hleads in
/-- A step that does nothing. -/
theorem kept_same (hleads : Leads s s' c (s.shared, s.calls c)) : Kept s' := by
  have hcalls : ∀ i, s'.calls i = s.calls i := by
    intro i
    rcases leads_call hleads i with ⟨rfl, hcall⟩ | ⟨-, hcall⟩ <;> exact hcall
  constructor
  · intro key hnone
    rw [Matched, hleads.shared]
    exact h.matched key fun i hi => hnone i ((hcalls i).symm ▸ hi)
  · intro i
    rw [hleads.shared, hcalls]
    exact h.found i
  · intro i j key hi hj
    rw [hcalls] at hi hj
    exact h.alone i j key hi hj

/-- A first step, when nobody is half-way on its key. -/
theorem kept_opened (key : String × String) (hnobody : ∀ i, ¬ HalfWay (s.calls i) key)
    (hafter : HalfWay out.2 key) (hfound : Found out.1.credentials out.2)
    (hcredentials : ∀ other, other ≠ key → out.1.credentials other = s.shared.credentials other)
    (hconnections : out.1.connections = s.shared.connections)
    (hbefore : ∀ key, ¬ HalfWay (s.calls c) key) : Kept s' := by
  have hback : ∀ i other, HalfWay (s'.calls i) other →
      HalfWay (s.calls i) other ∧ other ≠ key ∨ i = c ∧ other = key := by
    intro i other hother
    rcases leads_call hleads i with ⟨rfl, hcall⟩ | ⟨-, hcall⟩ <;> rw [hcall] at hother
    · exact Or.inr ⟨rfl, hother.key_eq hafter⟩
    · refine Or.inl ⟨hother, ?_⟩
      rintro rfl
      exact hnobody i hother
  constructor
  · intro other hnone
    have hne : other ≠ key := by
      rintro rfl
      exact hnone c (by rwa [hleads.self])
    rw [Matched, hleads.shared, hcredentials other hne, hconnections]
    refine h.matched other fun i hi => hnone i ?_
    have hic : i ≠ c := by
      rintro rfl
      exact hbefore other hi
    rwa [hleads.other i hic]
  · intro i
    rw [hleads.shared]
    rcases leads_call hleads i with ⟨rfl, hcall⟩ | ⟨-, hcall⟩ <;> rw [hcall]
    · exact hfound
    · refine found_congr (fun other hother => hcredentials other ?_) (h.found i)
      rintro rfl
      exact hnobody i hother
  · intro i j other hi hj
    rcases hback i other hi with ⟨hiold, hne⟩ | ⟨rfl, hkey⟩ <;>
      rcases hback j other hj with ⟨hjold, hne'⟩ | ⟨rfl, hkey'⟩
    · exact h.alone i j other hiold hjold
    · exact absurd hkey' hne
    · exact absurd hkey hne'
    · rfl

/-- A second step. -/
theorem kept_closed (key : String × String) (hbefore : HalfWay (s.calls c) key)
    (hafter : ∀ key, ¬ HalfWay out.2 key) (hmatched : Matched out.1 key)
    (hcredentials : out.1.credentials = s.shared.credentials)
    (hconnections : ∀ other, other ≠ key → out.1.connections other = s.shared.connections other) :
    Kept s' := by
  have hback : ∀ i other, HalfWay (s'.calls i) other → HalfWay (s.calls i) other ∧ i ≠ c := by
    intro i other hother
    rcases leads_call hleads i with ⟨rfl, hcall⟩ | ⟨hi, hcall⟩ <;> rw [hcall] at hother
    · exact absurd hother (hafter other)
    · exact ⟨hother, hi⟩
  constructor
  · intro other hnone
    by_cases hkey : other = key
    · rw [hkey, hleads.shared]
      exact hmatched
    · rw [Matched, hleads.shared, hcredentials, hconnections other hkey]
      refine h.matched other fun i hi => ?_
      by_cases hic : i = c
      · rw [hic] at hi
        exact hkey (hi.key_eq hbefore)
      · exact hnone i (by rwa [hleads.other i hic])
  · intro i
    rw [hleads.shared, hcredentials]
    rcases leads_call hleads i with ⟨rfl, hcall⟩ | ⟨-, hcall⟩ <;> rw [hcall]
    · exact found_outside hafter
    · exact h.found i
  · intro i j other hi hj
    exact h.alone i j other (hback i other hi).1 (hback j other hj).1

end

section

variable {env : ProviderEnv} {toLowerCase : String → String} {s s' : Connects}

theorem beginFlow_keeps (tables : Tables) (params : InitiateParams) (nonce : String)
    (now dbNow : Int) :
    let out := beginFlow env toLowerCase tables params nonce now dbNow
    (∀ key, ¬ HalfWay out.2 key) ∧ out.1.credentials = tables.credentials ∧
      out.1.connections = tables.connections := by
  unfold beginFlow
  cases initiateConnect toLowerCase params nonce with
  | error e => exact ⟨fun _ => id, rfl, rfl⟩
  | ok flow => exact ⟨fun _ => id, rfl, rfl⟩

theorem beginCallback_keeps (tables : Tables) (params : Connectors.CallbackParams) (now : Int) :
    let out := beginCallback env tables params now
    (∀ key, ¬ HalfWay out.2 key) ∧ out.1.credentials = tables.credentials ∧
      out.1.connections = tables.connections := by
  unfold beginCallback admitCallback
  split
  · exact ⟨fun _ => id, rfl, rfl⟩
  · generalize Connectors.validateAndConsumeOAuthState env.hashes now tables.states params.state
      params.vendor = consumed
    obtain ⟨found, states⟩ := consumed
    cases found with
    | none => exact ⟨fun _ => id, rfl, rfl⟩
    | some row =>
      dsimp only
      cases Connectors.checkSignature env params with
      | error e => exact ⟨fun _ => id, rfl, rfl⟩
      | ok _ =>
        dsimp only
        cases Connectors.exchangeRequest env params.vendor params.code row.shopDomain with
        | error e => exact ⟨fun _ => id, rfl, rfl⟩
        | ok request => exact ⟨fun _ => id, rfl, rfl⟩

theorem kept_advance (h : Kept s) {c : Nat} {phase : Phase} {event : Event}
    (hphase : s.calls c = phase) (horderly : Orderly s (c, event))
    (hleads : Leads s s' c (advance env toLowerCase s.shared phase event)) : Kept s' := by
  have houtside : ∀ out : Tables × Phase, Leads s s' c out → (∀ key, ¬ HalfWay phase key) →
      (∀ key, ¬ HalfWay out.2 key) → out.1.credentials = s.shared.credentials →
        out.1.connections = s.shared.connections → Kept s' := by
    intro out hleads hbefore
    exact kept_outside h hleads (hphase ▸ hbefore)
  unfold Orderly at horderly
  dsimp only at horderly
  rw [hphase] at horderly
  revert houtside hleads horderly
  fun_cases advance env toLowerCase s.shared phase event with
  | case1 params nonce now dbNow =>
    intro horderly hleads houtside
    obtain ⟨hafter, hcredentials, hconnections⟩ :=
      @beginFlow_keeps env toLowerCase s.shared params nonce now dbNow
    exact houtside _ hleads (fun _ => id) hafter hcredentials hconnections
  | case2 params now =>
    intro horderly hleads houtside
    obtain ⟨hafter, hcredentials, hconnections⟩ :=
      @beginCallback_keeps env s.shared params now
    exact houtside _ hleads (fun _ => id) hafter hcredentials hconnections
  | case3 x provider hnone =>
    intro horderly hleads houtside
    exact houtside _ hleads (fun _ => id) (fun _ => id) rfl rfl
  | case4 x provider token htoken =>
    intro horderly hleads houtside
    exact houtside _ hleads (fun _ => id) (fun _ => id) rfl rfl
  | case5 =>
    intro horderly hleads houtside
    exact houtside _ hleads (fun _ => id) (fun _ => id) rfl rfl
  | case6 x token =>
    intro horderly hleads houtside
    refine kept_opened h hleads x.key horderly rfl ?_ ?_ rfl ?_
    · simp [Found, putToken]
    · exact fun other hother => Function.update_of_ne hother ..
    · rw [hphase]
      exact fun _ => id
  | case7 =>
    intro horderly hleads houtside
    cases horderly
  | case8 x token now =>
    intro horderly hleads houtside
    have hfound := h.found c
    rw [hphase] at hfound
    refine kept_closed h hleads x.key ?_ (fun _ => id) ?_ rfl ?_
    · rw [hphase]
      rfl
    · simpa [Matched, connectRow, connection, Connection.live] using hfound.symm
    · exact fun other hother => Function.update_of_ne hother ..
  | case9 =>
    intro horderly hleads houtside
    exact houtside _ hleads (fun _ => id) (fun _ => id) rfl rfl
  | case10 workspaceId vendor =>
    intro horderly hleads houtside
    refine kept_opened h hleads (workspaceId, vendor) horderly rfl ?_ ?_ rfl ?_
    · simp [Found, sealToken]
    · exact fun other hother => Function.update_of_ne hother ..
    · rw [hphase]
      exact fun _ => id
  | case11 =>
    intro horderly hleads houtside
    cases horderly
  | case12 workspaceId vendor =>
    intro horderly hleads houtside
    have hfound := h.found c
    rw [hphase] at hfound
    refine kept_closed h hleads (workspaceId, vendor) ?_ (fun _ => id) ?_ rfl ?_
    · rw [hphase]
      rfl
    · have hnone : s.shared.credentials (workspaceId, vendor) = none := hfound
      cases hrow : s.shared.connections (workspaceId, vendor) <;>
        simp [Matched, markDisconnected, hnone, hrow, Connection.live]
    · exact fun other hother => Function.update_of_ne hother ..
  | case13 =>
    intro horderly hleads houtside
    exact kept_same h (hphase ▸ hleads)

/-! ### Runs -/

variable {e : Nat × Event}

theorem kept_step (h : Kept s) (horderly : Orderly s e) : Kept (step env toLowerCase s e) :=
  kept_advance h rfl horderly (leads_step s e)

/-- The list shows as connected the vendors that have a credential. -/
def Listed (s : Connects) : Prop :=
  ∀ workspaceId, (∀ i vendor, ¬ HalfWay (s.calls i) (workspaceId, vendor)) → ∀ now,
    ∀ row ∈ listConnectors now s.shared.connections workspaceId,
      row.Connected ↔ (s.shared.credentials (workspaceId, row.vendor)).isSome = true

theorem listed_of_kept (h : Kept s) : Listed s := by
  intro workspaceId hnobody now row hrow
  obtain ⟨vendor, -, rfl⟩ := List.mem_map.mp hrow
  have hvendor : (statusRow now vendor (s.shared.connections (workspaceId, vendor))).vendor =
      vendor := by
    cases s.shared.connections (workspaceId, vendor) <;> rfl
  rw [connected_statusRow, hvendor, h.matched _ fun i => hnobody i vendor]

/-- In a run of such steps the list shows exactly the vendors with a credential as connected. -/
theorem listed_iff {es : List (Nat × Event)} (hidle : ∀ i, s.calls i = .idle)
    (hmatched : ∀ key, Matched s.shared key)
    (horderly : Allowed (step env toLowerCase) Orderly s es) :
    Always (step env toLowerCase) Listed s es := by
  have hkept : Kept s := by
    have hnobody : ∀ i key, ¬ HalfWay (s.calls i) key := by
      intro i key
      rw [hidle]
      exact id
    exact ⟨fun key _ => hmatched key, fun i => found_outside (hnobody i),
      fun i j key hi => absurd hi (hnobody i key)⟩
  have hall : Always (step env toLowerCase) Kept s es :=
    always_of_step (fun _ _ h he => kept_step h he) hkept horderly
  exact hall.mono fun _ h => listed_of_kept h

end

/-! ### A vendor that is connected and disconnected -/

def disconnecting : List (Nat × Event) :=
  connecting ++ [(3, .disconnect "ws_1" "META" (.ok ())), (3, .mark (.ok ()))]

theorem listed_disconnecting : Always (step plainEnv id) Listed unopened disconnecting := by
  refine listed_iff (fun _ => rfl) (fun _ => rfl) ?_
  refine ⟨trivial, trivial, trivial, trivial, ?_, rfl, ?_, rfl, trivial⟩
  · intro i
    obtain _ | _ | _ | i := i <;> exact id
  · intro i
    obtain _ | _ | _ | i := i <;> exact id

end BrainV2.Connect
