import BrainV2.Js.Values
import BrainV2.Lib.Substitution

/-!
# The gateway to ClickHouse

* `decorateWithFinal`: references of fact tables, with `FINAL`;
* `isScoped`, `chQuery`: what is sent to ClickHouse.
-/

namespace BrainV2.ClickHouse

open Js (Value isSpace)
open Regex

/-- `FACT_TABLES` -/
def factTables : List String :=
  ["connector_order_facts", "connector_line_item_facts", "connector_product_facts",
    "connector_variant_facts", "connector_ad_spend_facts", "connector_ad_creative_facts",
    "connector_ad_funnel_facts", "connector_shipment_facts", "connector_refund_facts",
    "connector_logistics_order_facts", "connector_email_send_facts",
    "workspace_daily_metrics_legacy", "shopify_analytics_daily", "product_daily_aggregates"]

/-- `POST_TABLE_KEYWORDS` -/
def postTableKeywords : List String :=
  ["ON", "USING", "WHERE", "GROUP", "ORDER", "LIMIT", "HAVING", "PREWHERE", "SETTINGS", "FORMAT",
    "UNION", "JOIN", "LEFT", "RIGHT", "INNER", "FULL", "CROSS", "ANY", "ALL", "SEMI", "ANTI",
    "ASOF", "GLOBAL", "ARRAY", "SAMPLE", "FINAL"]

/-- `\w` -/
def isWord (c : Char) : Bool := c.isAlphanum || c == '_'

/-- `[A-Za-z_]` -/
def isNameStart (c : Char) : Bool := c.isAlpha || c == '_'

/-- Letters under the flag `i`. -/
def sameLetter (l c : Char) : Bool := c.toLower == l.toLower

/-- The optional alias behind a table. -/
def aliasPattern : Pattern :=
  opt (chain [plus isSpace, opt (chain [keyword sameLetter "AS", plus isSpace]),
    .notAhead (chain [oneOf sameLetter ("AS" :: postTableKeywords), wordEnd isWord]),
    .one isNameStart, .many isWord])

def referenceRule : Rule where
  behind := isWord
  lead := oneOf sameLetter ["FROM", "JOIN"]
  body := chain [plus isSpace, opt (keyword sameLetter "brain."), oneOf sameLetter factTables,
    wordEnd isWord]
  tail := aliasPattern

/-- `/^\s+FINAL\b/i` -/
def finalAhead (rest : List Char) : Bool :=
  !(rests (chain [plus isSpace, keyword sameLetter "FINAL", wordEnd isWord]) rest).isEmpty

def withFinal (text : List Char) (a : Attempt) : List Char :=
  if finalAhead a.rest then text else text ++ " FINAL".toList

def decorateWithFinal (sql : List Char) : List Char := substitute referenceRule withFinal sql

/-! ### Queries -/

structure UnscopedClickHouseQueryError where
  reason : String
deriving DecidableEq

/-- `/workspace_id\s*=\s*[\{$:]/` -/
def scopePattern : Pattern :=
  chain [keyword (· == ·) "workspace_id", .many isSpace, .one (· == '='), .many isSpace,
    .one fun c => c == '{' || c == '$' || c == ':']

def isScoped (sql : List Char) : Bool := sql.tails.any fun cs => !(rests scopePattern cs).isEmpty

structure ChQueryOpts where
  workspaceId : String
  params : Option (List (String × Value))
  /-- The names of an object's properties. -/
  nodup : ∀ entries ∈ params, (Dict.keys entries).Nodup
  skipFinal : Option Bool

/-- What the client is given. -/
structure ChRequest where
  query : List Char
  queryParams : List (String × Value)

/-- `{ workspace_id: opts.workspaceId, ...(opts.params ?? {}) }` -/
def queryParams (opts : ChQueryOpts) : List (String × Value) :=
  (opts.params.getD []).foldl (fun d entry => Dict.set d entry.1 entry.2)
    [("workspace_id", some (.str opts.workspaceId))]

def chQuery (sql : List Char) (opts : ChQueryOpts) :
    Except UnscopedClickHouseQueryError ChRequest :=
  if opts.workspaceId = "" then .error ⟨"workspaceId is required"⟩
  else if isScoped sql then
    .ok ⟨if opts.skipFinal = some true then sql else decorateWithFinal sql, queryParams opts⟩
  else
    .error ⟨"SQL must filter on workspace_id " ++
      "(e.g. \"WHERE workspace_id = \x7bworkspace_id:String\x7d\")"⟩

/-! ### The caller's workspace -/

/-- Whether `chQuery` sends the text. -/
def Accepted (sql : List Char) (opts : ChQueryOpts) : Prop :=
  opts.workspaceId ≠ "" ∧ isScoped sql = true

/-- What is sent has the caller's workspace as its parameter. -/
def BoundToCaller (sql : List Char) (opts : ChQueryOpts) : Prop :=
  ∀ req, chQuery sql opts = .ok req →
    req.queryParams.lookup "workspace_id" = some (some (.str opts.workspaceId))

/-- The parameters name no workspace, or the caller's. -/
def OwnWorkspace (opts : ChQueryOpts) : Prop :=
  ∀ v ∈ (opts.params.getD []).lookup "workspace_id", v = some (.str opts.workspaceId)

theorem lookup_foldl_set {entries : List (String × Value)} (h : (Dict.keys entries).Nodup)
    (d : List (String × Value)) (key : String) :
    (entries.foldl (fun d entry => Dict.set d entry.1 entry.2) d).lookup key =
      (entries.lookup key).or (d.lookup key) := by
  induction entries generalizing d with
  | nil => rfl
  | cons entry entries ih =>
    obtain ⟨name, value⟩ := entry
    obtain ⟨hnot, hnodup⟩ := List.nodup_cons.mp h
    rw [List.foldl_cons, ih hnodup, List.lookup_cons]
    by_cases hname : key = name
    · subst hname
      have hnone : entries.lookup key = none := by
        rw [Option.eq_none_iff_forall_not_mem]
        intro v hv
        exact hnot (List.mem_map.mpr ⟨(key, v), (Dict.lookup_eq_some_iff_mem hnodup).mp hv, rfl⟩)
      rw [hnone, Dict.lookup_set_self]
      simp
    · have hne : (key == name) = false := by simpa using hname
      rw [Dict.lookup_set_ne d value hname, hne]

/-- The parameters come after the caller's workspace. -/
theorem lookup_queryParams (opts : ChQueryOpts) :
    (queryParams opts).lookup "workspace_id" =
      ((opts.params.getD []).lookup "workspace_id").or (some (some (.str opts.workspaceId))) := by
  have hnodup : (Dict.keys (opts.params.getD [])).Nodup := by
    cases hparams : opts.params with
    | none => exact List.nodup_nil
    | some entries => exact opts.nodup entries hparams
  exact lookup_foldl_set hnodup _ _

theorem boundToCaller_iff (sql : List Char) (opts : ChQueryOpts) :
    BoundToCaller sql opts ↔ (Accepted sql opts → OwnWorkspace opts) := by
  have hlookup : (queryParams opts).lookup "workspace_id" = some (some (.str opts.workspaceId)) ↔
      OwnWorkspace opts := by
    rw [lookup_queryParams, OwnWorkspace]
    cases (opts.params.getD []).lookup "workspace_id" with
    | none => simp
    | some v => simp
  rw [← hlookup, BoundToCaller, Accepted]
  constructor
  · rintro h ⟨hws, hscoped⟩
    have hreq : ∃ query, chQuery sql opts = .ok ⟨query, queryParams opts⟩ :=
      ⟨_, by rw [chQuery, if_neg hws, if_pos hscoped]⟩
    obtain ⟨query, hreq⟩ := hreq
    exact h _ hreq
  · intro h req hreq
    fun_cases chQuery sql opts with
    | case1 hws =>
      rw [chQuery, if_pos hws] at hreq
      cases hreq
    | case2 hws hscoped =>
      rw [chQuery, if_neg hws, if_pos hscoped] at hreq
      cases hreq
      exact h ⟨hws, hscoped⟩
    | case3 hws hscoped =>
      rw [chQuery, if_neg hws, if_neg hscoped] at hreq
      cases hreq

example : decorateWithFinal "FROM brain.connector_order_facts o WHERE x".toList =
    "FROM brain.connector_order_facts o FINAL WHERE x".toList := by decide +kernel

end BrainV2.ClickHouse
