import BrainV2.ClickHouse.Query
import BrainV2.Py.Decimal

/-!
# The gateway of the services in Python

* `injectFinal`, `injectPrewhere`: the two changes of a statement's text;
* `queryRaw`, `queryFact`: what is sent to ClickHouse.
-/

namespace BrainV2.Warehouse

open Py.Decimal (isBlank)
open Regex

/-- What `\w` takes from the character database. -/
structure Unicode where
  word : Char → Bool
  ascii : ∀ c, c.toNat < 128 → word c = ClickHouse.isWord c
  letters : ∀ c ∈ ['\u0131', '\u0130', '\u017f', '\u212a'], word c = true
  blanks : ∀ c, isBlank c = true → word c = false

/-- `_RMT_TABLES` -/
def rmtTables : List String :=
  ["connector_order_facts", "connector_line_item_facts", "connector_ad_spend_facts",
    "connector_shipment_facts", "connector_product_facts", "connector_refund_facts",
    "connector_variant_facts", "connector_email_send_facts", "connector_logistics_order_facts",
    "connector_ad_creative_facts", "connector_ad_funnel_facts", "workspace_daily_metrics_base"]

/-- The letters beyond ASCII that `re.I` takes for one of a pattern's. -/
def foldsTo (c : Char) : Char :=
  if c = '\u0131' ∨ c = '\u0130' then 'i'
  else if c = '\u017f' then 's'
  else if c = '\u212a' then 'k'
  else c.toLower

/-- Letters under `re.I`. -/
def sameLetter (l c : Char) : Bool := foldsTo c == l.toLower

/-- `$` -/
def atEnd : Pattern :=
  .alt (.notAhead (.one fun _ => true))
    (ahead (chain [.one (· == '\n'), .notAhead (.one fun _ => true)]))

/-- `_FROM_TABLE_RE` -/
def fromTableRule : Rule where
  behind := fun _ => false
  lead := chain [keyword sameLetter "FROM", plus isBlank, keyword sameLetter "brain.",
    oneOf sameLetter rmtTables]
  body := opt (chain [plus isBlank, keyword sameLetter "FINAL"])
  tail := ahead (.alt (.one isBlank) (.alt atEnd (.alt (.one (· == ';'))
    (.alt (.one (· == ')')) (.one (· == '\n'))))))

/-- `_replacer` -/
def replacer (text : List Char) (a : Attempt) : List Char :=
  if before a.atBody a.atTail = [] then text ++ " FINAL".toList else text

def injectFinal (sql : List Char) : List Char := substitute fromTableRule replacer sql

/-- `\b…\b`, around a pattern that begins and ends with letters. -/
def wholeWords (u : Unicode) (r : Pattern) : Rule := ⟨u.word, r, wordEnd u.word, .empty⟩

def prewhereClause : List Char := "PREWHERE workspace_id = %(gateway_workspace_id)s".toList

def rstrip (cs : List Char) : List Char := cs.rdropWhile isBlank

abbrev Params := List (String × Json)

/-- `\bPREWHERE\s+workspace_id\b` -/
def prewhereRule (u : Unicode) : Rule :=
  wholeWords u
    (chain [keyword sameLetter "PREWHERE", plus isBlank, keyword sameLetter "workspace_id"])

/-- A word of the text, or two with a single space between. -/
def keywordRule (u : Unicode) (kw : String) : Rule := wholeWords u (keyword sameLetter kw)

def injectPrewhere (u : Unicode) (sql : List Char) (workspaceId : String) (params : Params) :
    List Char × Params :=
  if (search (prewhereRule u) sql).isSome then (sql, params)
  else
    let newParams := Dict.set params "gateway_workspace_id" (.str workspaceId)
    match search (keywordRule u "WHERE") sql with
    | some (front, back) => (front ++ prewhereClause ++ '\n' :: back, newParams)
    | none =>
      match ["ORDER BY", "LIMIT", "SETTINGS", "FORMAT"].findSome? fun kw =>
        search (keywordRule u kw) sql with
      | some (front, back) => (front ++ prewhereClause ++ '\n' :: back, newParams)
      | none => (rstrip sql ++ '\n' :: prewhereClause, newParams)

/-! ### Queries -/

/-- A query without a workspace. -/
structure UnscopedQueryError where
  workspaceId : Option String
deriving DecidableEq

def validateWorkspace (workspaceId : Option String) : Except UnscopedQueryError String :=
  let ws := ((workspaceId.getD "").toList.dropWhile isBlank).rdropWhile isBlank
  if ws = [] then .error ⟨workspaceId⟩ else .ok (String.ofList ws)

/-- What the client is given. -/
structure Request where
  sql : List Char
  parameters : Params

def queryRaw (u : Unicode) (workspaceId : Option String) (sql : List Char)
    (params : Option Params) : Except UnscopedQueryError Request := do
  let ws ← validateWorkspace workspaceId
  let (sql, parameters) := injectPrewhere u (injectFinal sql) ws (params.getD [])
  return ⟨sql, parameters⟩

/-- `str.lstrip(chars)` -/
def lstrip (chars : String) (cs : List Char) : List Char := cs.dropWhile (chars.toList.contains ·)

/-- The statement that `query_fact` builds. -/
def factSql (table : List Char) (selectCols : List (List Char)) (extraWhere : List Char) :
    List Char :=
  let cols := if selectCols = [] then ['*'] else ", ".toList.intercalate selectCols
  "SELECT ".toList ++ cols ++ " FROM brain.".toList ++ table ++
    if extraWhere = [] then []
    else "\nWHERE ".toList ++ lstrip "and " (lstrip "AND " extraWhere)

def queryFact (u : Unicode) (workspaceId : Option String) (table : List Char)
    (selectCols : List (List Char)) (extraWhere : List Char) (params : Option Params) :
    Except UnscopedQueryError Request := do
  let ws ← validateWorkspace workspaceId
  queryRaw u (some ws) (factSql table selectCols extraWhere) params

end BrainV2.Warehouse
