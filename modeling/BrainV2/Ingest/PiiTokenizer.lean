import BrainV2.Py.Values
import Mathlib.Data.List.Infix

/-!
# The PII manifest and the tokenizer

* `PiiManifest`: the fields an adapter declares as personal data;
* `checkPiiFields`: refuses a column that looks like personal data and is not declared;
* `checkPiiFields_ok_iff`: what the gate lets through;
* `normalizePiiValue`: the canonical text of a value, by the name of its field;
* `tokenizeColumns`: the columns with a token in the place of every declared field;
* `tokenizeEvent`: the code, on dictionaries that are objects in a store: it copies
  the caller's dictionary and overwrites the copy;
* `tokenizeEvent_spec`: the code computes `tokenizeColumns` and writes to its own
  copy only;
* `tokenizedColumns`: the columns behind the tokenizer and its switch.
-/

namespace BrainV2.Ingest

open Py

/-! ### The manifest and its gate -/

abbrev Columns := List (String × Json)

/-- The functions of the standard library on text that the code uses. -/
structure TextTools where
  /-- `str.lower` -/
  lower : String → String
  /-- `unicodedata.normalize` to NFC -/
  nfc : String → String

/-- `needle in haystack` -/
def contains (haystack needle : String) : Bool :=
  decide (needle.toList <:+: haystack.toList)

structure PiiFieldSpec where
  fieldName : String
  lawfulBasis : String
  purposeCode : String

structure PiiManifest where
  defaultLawfulBasis : String
  defaultPurposeCode : String
  piiFields : List (String × PiiFieldSpec)

def PiiManifest.isPii (manifest : PiiManifest) (fieldName : String) : Bool :=
  decide (fieldName ∈ Dict.keys manifest.piiFields)

def piiHeuristicSubstrings : List String :=
  ["email", "phone", "mobile", "address", "pincode", "postcode", "zip", "billing", "shipping",
   "delivery_pincode", "delivery_city", "delivery_state", "first_name", "last_name",
   "customer_name", "customer_email", "customer_phone"]

/-- The name looks like one of personal data. -/
def looksLikePii (tools : TextTools) (fieldName : String) : Bool :=
  piiHeuristicSubstrings.any fun hint => contains (tools.lower fieldName) hint

def undeclaredPii (tools : TextTools) (manifest : PiiManifest) (names : List String) :
    List String :=
  names.filter fun name => !manifest.isPii name && looksLikePii tools name

def piiManifestViolation (vendor : String) (undeclared : List String) : PyExc :=
  ⟨.other "PiiManifestViolation" true,
    "PII manifest violation for vendor '" ++ vendor ++ "': undeclared potential-PII fields " ++
      String.ofList (reprText (.arr (undeclared.map .str))) ++ " — write refused. " ++
      "Declare them in the adapter's pii_fields with their lawful_basis + " ++
      "purpose_code (CF-C3-PII-ADAPTER-GATE-1)."⟩

def checkPiiFields (tools : TextTools) (manifest : PiiManifest) (payloadFieldNames : List String) :
    Except PyExc Unit :=
  match undeclaredPii tools manifest payloadFieldNames with
  | [] => .ok ()
  | undeclared => .error (piiManifestViolation "undeclared" undeclared)

/-- The gate lets a list of names through when every suspicious one is declared. -/
theorem checkPiiFields_ok_iff {tools : TextTools} {manifest : PiiManifest} {names : List String} :
    checkPiiFields tools manifest names = .ok () ↔
      ∀ name ∈ names, looksLikePii tools name = true → manifest.isPii name = true := by
  unfold checkPiiFields
  cases hundeclared : undeclaredPii tools manifest names with
  | nil =>
    have hall := List.filter_eq_nil_iff.mp hundeclared
    refine iff_of_true rfl ?_
    intro name hname hlooks
    by_contra hnot
    exact hall name hname (by simp [hlooks, hnot])
  | cons first rest =>
    refine iff_of_false nofun ?_
    intro hall
    have hmem : first ∈ undeclaredPii tools manifest names := by simp [hundeclared]
    obtain ⟨hname, hfirst⟩ := List.mem_filter.mp hmem
    rw [Bool.and_eq_true, Bool.not_eq_true'] at hfirst
    rw [hall first hname hfirst.2] at hfirst
    exact absurd hfirst.1 (by simp)

def makeSpec (fieldName lawfulBasis purposeCode : String) : PiiFieldSpec :=
  ⟨fieldName, lawfulBasis, purposeCode⟩

/-- The manifest of an adapter: one basis and one purpose for all its fields. -/
def manifestOf (lawfulBasis purposeCode : String) (names : List String) : PiiManifest where
  defaultLawfulBasis := lawfulBasis
  defaultPurposeCode := purposeCode
  piiFields := names.map fun name => (name, makeSpec name lawfulBasis purposeCode)

theorem manifestOf_isPii (lawfulBasis purposeCode : String) (names : List String)
    (name : String) :
    (manifestOf lawfulBasis purposeCode names).isPii name = decide (name ∈ names) := by
  simp [PiiManifest.isPii, manifestOf, Dict.keys, Function.comp_def]

def shopifyPiiManifest : PiiManifest :=
  manifestOf "owner_brand_controller" "analytics_performance" ["email", "first_name", "last_name"]

/-! ### Tokens -/

/-- `str.isspace` of one character. -/
def isWhitespace (c : Char) : Bool := isSpace c || (0x1c ≤ c.toNat && c.toNat ≤ 0x1f)

/-- `str.strip` -/
def stripText (s : String) : String :=
  String.ofList ((s.toList.dropWhile isWhitespace).rdropWhile isWhitespace)

/-- HMAC-SHA256: the digest for a key and a message. -/
abbrev Hmac := List UInt8 → List UInt8 → List UInt8

def hexdigest (digest : List UInt8) : String :=
  String.ofList (digest.flatMap fun b =>
    [Json.hexDigit (b.toNat / 16), Json.hexDigit (b.toNat % 16)])

def normalizeEmail (tools : TextTools) (raw : String) : String := tools.lower (stripText raw)

def normalizePhone (raw : String) : String :=
  let strippedRaw := stripText raw
  let hasPlus := strippedRaw.toList.head? == some '+'
  let digitsOnly := strippedRaw.toList.filter fun c => (decimalDigit c).isSome
  if hasPlus then "+" ++ String.ofList digitsOnly
  else if digitsOnly.length = 10 then "+91" ++ String.ofList digitsOnly
  else if digitsOnly.length = 11 ∧ digitsOnly.head? = some '0' then
    "+91" ++ String.ofList (digitsOnly.drop 1)
  else if digitsOnly.isEmpty then strippedRaw
  else String.ofList digitsOnly

def normalizePiiValue (limits : Limits) (tools : TextTools) (fieldName : String) (rawValue : Json) :
    Except PyExc String :=
  match rawValue with
  | .null => .ok ""
  | _ => do
    let valueStr ← pyStr limits rawValue
    let fieldLower := tools.lower fieldName
    if contains fieldLower "email" then .ok (normalizeEmail tools valueStr)
    else if contains fieldLower "phone" || contains fieldLower "mobile" then
      .ok (normalizePhone valueStr)
    else .ok (tools.nfc (stripText valueStr))

def hmacToken (hmac : Hmac) (workspaceSalt : List UInt8) (normalizedValue : String) : String :=
  "tok:" ++ hexdigest (hmac workspaceSalt (utf8 normalizedValue))

/-- What the tokenizer takes from its surroundings. -/
structure Tokenizer where
  limits : Limits
  tools : TextTools
  hmac : Hmac
  manifest : PiiManifest
  workspaceSalt : List UInt8

/-- The column as it is emitted. -/
def tokenizeColumn (t : Tokenizer) (column : String × Json) : Except PyExc (String × Json) :=
  if t.manifest.isPii column.1 then do
    let normalized ← normalizePiiValue t.limits t.tools column.1 column.2
    .ok (column.1, .str (hmacToken t.hmac t.workspaceSalt normalized))
  else .ok column

/-- All columns, in their order; the first value that has no text stops it. -/
def tokenizeColumns (t : Tokenizer) : Columns → Except PyExc Columns
  | [] => .ok []
  | column :: rest => do
    let column' ← tokenizeColumn t column
    let rest' ← tokenizeColumns t rest
    .ok (column' :: rest')

/-! ### The code -/

/-- A dictionary of columns. -/
structure ColumnDict where
  items : Columns
  nodup : (Dict.keys items).Nodup

def ColumnDict.set (d : ColumnDict) (key : String) (value : Json) : ColumnDict :=
  ⟨Dict.set d.items key value, Dict.nodup_keys_set key value d.nodup⟩

/-- The dictionaries of the process; a reference is a position. -/
abbrev Heap := List ColumnDict

structure PiiTokenizerResult where
  /-- The reference of the new dictionary. -/
  columns : Nat
  saltVersion : String
  fieldsTokenized : List String

/-- The loop over the names, overwriting the dictionary at `ref`. -/
def tokenizeLoop (t : Tokenizer) (ref : Nat) :
    List String → List String → Heap → Except PyExc (List String) × Heap
  | [], tokenized, heap => (.ok tokenized, heap)
  | fieldName :: names, tokenized, heap =>
    if t.manifest.isPii fieldName then
      match heap[ref]? with
      | none => (.ok tokenized, heap)
      | some mutated =>
        match normalizePiiValue t.limits t.tools fieldName (get mutated.items fieldName) with
        | .error e => (.error e, heap)
        | .ok normalized =>
          tokenizeLoop t ref names (tokenized ++ [fieldName]) (heap.set ref
            (mutated.set fieldName (.str (hmacToken t.hmac t.workspaceSalt normalized))))
    else tokenizeLoop t ref names tokenized heap

def emptySalt : PyExc := ⟨.valueError, "tokenize_event: workspace_salt must not be empty. " ++
  "Pass a per-workspace KMS-backed salt (P0-B / CF-C3-PII-TOKENIZER-1)."⟩

def tokenizeEvent (t : Tokenizer) (columns : ColumnDict) (saltVersion : String) (heap : Heap) :
    Except PyExc PiiTokenizerResult × Heap :=
  if t.workspaceSalt = [] then (.error emptySalt, heap)
  else
    -- the copy is a new object
    let ref := heap.length
    match tokenizeLoop t ref (Dict.keys columns.items) [] (heap ++ [columns]) with
    | (.error e, heap') => (.error e, heap')
    | (.ok tokenized, heap') => (.ok ⟨ref, saltVersion, tokenized⟩, heap')

/-- `PII_TOKENIZER` -/
def tokenizerEnabled (tools : TextTools) (piiTokenizer : Option String) : Bool :=
  tools.lower (stripText (piiTokenizer.getD "false")) == "true"

def tokenizeEventIfEnabled (t : Tokenizer) (piiTokenizer : Option String) (columns : ColumnDict)
    (saltVersion : String) (heap : Heap) : Except PyExc PiiTokenizerResult × Heap :=
  if tokenizerEnabled t.tools piiTokenizer then tokenizeEvent t columns saltVersion heap
  else (.ok ⟨heap.length, saltVersion, []⟩, heap ++ [columns])

/-- The columns of the event that `tokenize_event_if_enabled` leads to. -/
def tokenizedColumns (t : Tokenizer) (piiTokenizer : Option String) (columns : Columns) :
    Except PyExc Columns :=
  if tokenizerEnabled t.tools piiTokenizer then
    if t.workspaceSalt = [] then .error emptySalt else tokenizeColumns t columns
  else .ok columns

section Spec

variable {t : Tokenizer}

theorem tokenizeColumn_key {column column' : String × Json}
    (h : tokenizeColumn t column = .ok column') : column'.1 = column.1 := by
  unfold tokenizeColumn at h
  split at h
  · cases hn : normalizePiiValue t.limits t.tools column.1 column.2 with
    | error e => simp [hn, bind, Except.bind] at h
    | ok normalized =>
      simp only [hn, bind, Except.bind, Except.ok.injEq] at h
      rw [← h]
  · cases h
    rfl

theorem tokenizeColumns_keys {columns columns' : Columns}
    (h : tokenizeColumns t columns = .ok columns') :
    Dict.keys columns' = Dict.keys columns := by
  induction columns generalizing columns' with
  | nil =>
    cases h
    rfl
  | cons column rest ih =>
    unfold tokenizeColumns at h
    cases hc : tokenizeColumn t column with
    | error e => simp [hc, bind, Except.bind] at h
    | ok column' =>
      cases hr : tokenizeColumns t rest with
      | error e => simp [hc, hr, bind, Except.bind] at h
      | ok rest' =>
        simp only [hc, hr, bind, Except.bind, Except.ok.injEq] at h
        rw [← h]
        have hkeys := ih hr
        simp only [Dict.keys] at hkeys
        simp only [Dict.keys, List.map_cons, hkeys, tokenizeColumn_key hc]

/-- The loop over the names still to come: `front` is done. -/
theorem tokenizeLoop_spec (old : Heap) (todo : Columns) (front : Columns) (d : ColumnDict)
    (tokenized : List String) (hd : d.items = front ++ todo) :
    match tokenizeColumns t todo with
    | .error e => ∃ d', tokenizeLoop t old.length (Dict.keys todo) tokenized (old ++ [d]) =
        (.error e, old ++ [d'])
    | .ok todo' => ∃ tokenized' d', tokenizeLoop t old.length (Dict.keys todo) tokenized
        (old ++ [d]) = (.ok tokenized', old ++ [d']) ∧ d'.items = front ++ todo' := by
  induction todo generalizing front d tokenized with
  | nil => exact ⟨tokenized, d, rfl, hd⟩
  | cons column todo ih =>
    obtain ⟨key, value⟩ := column
    have hkey : key ∉ Dict.keys front := by
      have hnodup := d.nodup
      rw [hd, Dict.keys, List.map_append, List.nodup_append] at hnodup
      intro hmem
      exact hnodup.2.2 key hmem key (by simp) rfl
    have hkeys : Dict.keys ((key, value) :: todo) = key :: Dict.keys todo := rfl
    rw [hkeys]
    unfold tokenizeLoop tokenizeColumns tokenizeColumn
    by_cases hpii : t.manifest.isPii key = true
    · have hread : (old ++ [d])[old.length]? = some d := by simp
      have hget : get d.items key = value := by
        simp only [Py.get, getD, hd, Dict.lookup_middle value todo hkey, Option.getD_some]
      simp only [hpii, if_true, hread, hget]
      cases hn : normalizePiiValue t.limits t.tools key value with
      | error e =>
        simp only [bind, Except.bind]
        exact ⟨d, rfl⟩
      | ok normalized =>
        have hset : (d.set key (.str (hmacToken t.hmac t.workspaceSalt normalized))).items =
            (front ++ [(key, .str (hmacToken t.hmac t.workspaceSalt normalized))]) ++ todo := by
          have hitems : (d.set key (.str (hmacToken t.hmac t.workspaceSalt normalized))).items =
              Dict.set d.items key (.str (hmacToken t.hmac t.workspaceSalt normalized)) := rfl
          rw [hitems, hd, Dict.set_middle _ _ _ hkey]
          simp
        have hheap : (old ++ [d]).set old.length
            (d.set key (.str (hmacToken t.hmac t.workspaceSalt normalized))) =
            old ++ [d.set key (.str (hmacToken t.hmac t.workspaceSalt normalized))] := by simp
        have hrest := ih _ _ (tokenized ++ [key]) hset
        simp only [bind, Except.bind, hheap]
        cases htodo : tokenizeColumns t todo with
        | error e =>
          rw [htodo] at hrest
          exact hrest
        | ok todo' =>
          rw [htodo] at hrest
          obtain ⟨tokenized', d', hrun, hitems⟩ := hrest
          exact ⟨tokenized', d', hrun, by simp [hitems]⟩
    · have hitems : d.items = (front ++ [(key, value)]) ++ todo := by simp [hd]
      have hrest := ih _ _ tokenized hitems
      simp only [hpii, Bool.false_eq_true, if_false, bind, Except.bind]
      cases htodo : tokenizeColumns t todo with
      | error e =>
        rw [htodo] at hrest
        exact hrest
      | ok todo' =>
        rw [htodo] at hrest
        obtain ⟨tokenized', d', hrun, hitems'⟩ := hrest
        exact ⟨tokenized', d', hrun, by simp [hitems']⟩

/-- With a salt, the code answers with a new dictionary, the tokenized columns, and
leaves every dictionary there was. -/
theorem tokenizeEvent_spec (hsalt : t.workspaceSalt ≠ []) (columns : ColumnDict)
    (saltVersion : String) (heap : Heap) :
    match tokenizeColumns t columns.items with
    | .error e => ∃ d, tokenizeEvent t columns saltVersion heap = (.error e, heap ++ [d])
    | .ok columns' => ∃ result d, tokenizeEvent t columns saltVersion heap =
        (.ok result, heap ++ [d]) ∧ result.columns = heap.length ∧ d.items = columns' := by
  have hloop := tokenizeLoop_spec (t := t) heap columns.items [] columns [] rfl
  unfold tokenizeEvent
  rw [if_neg hsalt]
  simp only
  cases htokens : tokenizeColumns t columns.items with
  | error e =>
    rw [htokens] at hloop
    obtain ⟨d, hrun⟩ := hloop
    exact ⟨d, by rw [hrun]⟩
  | ok columns' =>
    rw [htokens] at hloop
    obtain ⟨tokenized, d, hrun, hitems⟩ := hloop
    exact ⟨⟨heap.length, saltVersion, tokenized⟩, d, by rw [hrun], rfl, hitems⟩

/-- The code, behind its switch: the columns found at the reference it answers with. -/
theorem tokenizeEventIfEnabled_spec (piiTokenizer : Option String) (columns : ColumnDict)
    (saltVersion : String) (heap : Heap) :
    match tokenizedColumns t piiTokenizer columns.items with
    | .error e => ∃ heap', tokenizeEventIfEnabled t piiTokenizer columns saltVersion heap =
        (.error e, heap')
    | .ok columns' => ∃ result heap' d, tokenizeEventIfEnabled t piiTokenizer columns saltVersion
        heap = (.ok result, heap') ∧ heap'[result.columns]? = some d ∧ d.items = columns' := by
  unfold tokenizedColumns tokenizeEventIfEnabled
  by_cases henabled : tokenizerEnabled t.tools piiTokenizer = true
  · rw [if_pos henabled, if_pos henabled]
    by_cases hsalt : t.workspaceSalt = []
    · rw [if_pos hsalt]
      exact ⟨heap, by simp [tokenizeEvent, hsalt]⟩
    · rw [if_neg hsalt]
      have hspec := tokenizeEvent_spec hsalt columns saltVersion heap
      cases htokens : tokenizeColumns t columns.items with
      | error e =>
        rw [htokens] at hspec
        obtain ⟨d, hrun⟩ := hspec
        exact ⟨heap ++ [d], hrun⟩
      | ok columns' =>
        rw [htokens] at hspec
        obtain ⟨result, d, hrun, href, hitems⟩ := hspec
        exact ⟨result, heap ++ [d], d, hrun, by simp [href], hitems⟩
  · rw [if_neg henabled, if_neg henabled]
    exact ⟨⟨heap.length, saltVersion, []⟩, heap ++ [columns], columns, rfl, by simp, rfl⟩

/-- A value has a normal form unless it nests too deep for `str()`. -/
theorem normalizePiiValue_ok_iff {limits : Limits} {tools : TextTools} {fieldName : String}
    {value : Json} :
    (∃ text, normalizePiiValue limits tools fieldName value = .ok text) ↔
      value.depth ≤ limits.reprDepth := by
  rw [← pyStr_ok_iff]
  unfold normalizePiiValue
  cases value with
  | null => exact iff_of_true ⟨_, rfl⟩ (pyStr_ok_iff.mpr (Nat.zero_le _))
  | _ =>
    simp only [bind, Except.bind]
    split
    · next h => simp [h]
    · next text h =>
      refine iff_of_true ?_ ⟨text, h⟩
      split
      · exact ⟨_, rfl⟩
      · split <;> exact ⟨_, rfl⟩

theorem tokenizeColumns_ok_iff {columns : Columns} :
    (∃ out, tokenizeColumns t columns = .ok out) ↔
      ∀ column ∈ columns, t.manifest.isPii column.1 = true →
        column.2.depth ≤ t.limits.reprDepth := by
  have hone : ∀ column : String × Json, (∃ out, tokenizeColumn t column = .ok out) ↔
      (t.manifest.isPii column.1 = true → column.2.depth ≤ t.limits.reprDepth) := by
    intro column
    unfold tokenizeColumn
    rw [← @normalizePiiValue_ok_iff t.limits t.tools column.1]
    by_cases hpii : t.manifest.isPii column.1 = true
    · rw [if_pos hpii]
      simp only [hpii, true_implies]
      cases normalizePiiValue t.limits t.tools column.1 column.2 <;> simp [bind, Except.bind]
    · rw [if_neg hpii]
      exact iff_of_true ⟨_, rfl⟩ fun h => absurd h hpii
  induction columns with
  | nil => exact iff_of_true ⟨[], rfl⟩ nofun
  | cons column rest ih =>
    have hcons : (∃ out, tokenizeColumns t (column :: rest) = .ok out) ↔
        (∃ out, tokenizeColumn t column = .ok out) ∧ ∃ out, tokenizeColumns t rest = .ok out := by
      rw [tokenizeColumns]
      cases tokenizeColumn t column with
      | error e => simp [bind, Except.bind]
      | ok column' => cases tokenizeColumns t rest <;> simp [bind, Except.bind]
    rw [hcons, hone column, List.forall_mem_cons]
    exact and_congr_right fun _ => ih

theorem tokenizedColumns_ok_iff {piiTokenizer : Option String} {columns : Columns} :
    (∃ out, tokenizedColumns t piiTokenizer columns = .ok out) ↔
      (tokenizerEnabled t.tools piiTokenizer = true → t.workspaceSalt ≠ [] ∧
        ∀ column ∈ columns, t.manifest.isPii column.1 = true →
          column.2.depth ≤ t.limits.reprDepth) := by
  unfold tokenizedColumns
  by_cases henabled : tokenizerEnabled t.tools piiTokenizer = true
  · simp only [henabled, if_true, true_implies]
    by_cases hsalt : t.workspaceSalt = []
    · rw [if_pos hsalt]
      exact iff_of_false (by rintro ⟨_, h⟩; cases h) fun h => h.1 hsalt
    · rw [if_neg hsalt, tokenizeColumns_ok_iff]
      simp [hsalt]
  · rw [if_neg henabled]
    exact iff_of_true ⟨_, rfl⟩ fun h => absurd h henabled

theorem tokenizedColumns_keys {piiTokenizer : Option String} {columns columns' : Columns}
    (h : tokenizedColumns t piiTokenizer columns = .ok columns') :
    Dict.keys columns' = Dict.keys columns := by
  unfold tokenizedColumns at h
  split at h
  · split at h
    · cases h
    · exact tokenizeColumns_keys h
  · cases h
    rfl

end Spec

end BrainV2.Ingest
