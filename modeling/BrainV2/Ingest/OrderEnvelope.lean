import BrainV2.Ingest.EnvelopeReading
import BrainV2.Ingest.Shopify

/-!
# An order on the wire

* `Inherited`: what the columns of a payload have because its values do;
* `shopifyColumns_decodable`, `tokenizedColumns_decodable`: the columns of a payload that
  was decoded can be decoded again;
* `Passage`: what the stages take from their surroundings;
* `sentEvent`: the event that is sent for an order;
* `sentEvent_columns`: its columns are the adapter's, and the tokens.
-/

namespace BrainV2.Ingest

open Py

section

variable {limits : Limits}

/-! ### What the columns take over -/

/-- A property of values that texts have, and the members of an object that has it. -/
structure Inherited (P : Json → Prop) : Prop where
  null : P .null
  str : ∀ s, P (.str s)
  get : ∀ members name, P (.obj members) → P (Py.get members name)

/-- A member that is there, or null. -/
theorem get_of_members {P : Json → Prop} {members : List (String × Json)} (hnull : P .null)
    (h : ∀ member ∈ members, P member.2) (name : String) : P (Py.get members name) := by
  unfold Py.get getD
  cases hlookup : members.lookup name with
  | none => exact hnull
  | some j =>
    obtain ⟨front, rest, hmem, -⟩ := List.lookup_eq_some_iff.mp hlookup
    exact h (name, j) (by simp [hmem])

section

variable {P : Json → Prop} (hP : Inherited P) {p : List (String × Json)}
  (hp : ∀ name, P (Py.get p name))

include hP hp

theorem billingName_inherited {name : String} {value : Json} (h : billingName p name = .ok value) :
    P value := by
  unfold billingName at h
  simp only at h
  split at h
  · have haddress := hp "billing_address"
    cases hget : Py.get p "billing_address" with
    | obj address =>
      rw [hget] at h haddress
      cases h
      exact hP.get address name haddress
    | _ =>
      rw [hget] at h
      cases h
  · cases h
    exact hP.null

theorem shopifyColumns_inherited {columns : Columns} (h : shopifyColumns limits p = .ok columns) :
    ∀ column ∈ columns, P column.2 := by
  obtain ⟨shopifyOrderId, -, h⟩ := bind_ok.mp h
  obtain ⟨firstName, hfirst, h⟩ := bind_ok.mp h
  obtain ⟨lastName, hlast, h⟩ := bind_ok.mp h
  cases h
  simp only [List.forall_mem_cons]
  simp [hP.str, hp, billingName_inherited hP hp hfirst, billingName_inherited hP hp hlast]

end

variable {t : Tokenizer}

/-- Every column of the result is a token, or as it was. -/
theorem tokenizeColumns_values {columns out : Columns} (h : tokenizeColumns t columns = .ok out) :
    ∀ column' ∈ out, (∃ s, column'.2 = .str s) ∨ ∃ column ∈ columns, column'.2 = column.2 := by
  induction columns generalizing out with
  | nil =>
    cases h
    exact nofun
  | cons column rest ih =>
    obtain ⟨column', hc, h⟩ := bind_ok.mp h
    obtain ⟨rest', hr, h⟩ := bind_ok.mp h
    cases h
    rw [List.forall_mem_cons]
    constructor
    · unfold tokenizeColumn at hc
      split at hc
      · obtain ⟨normalized, -, hc⟩ := bind_ok.mp hc
        cases hc
        exact Or.inl ⟨_, rfl⟩
      · cases hc
        exact Or.inr ⟨column, List.mem_cons_self, rfl⟩
    · intro other hother
      obtain hstr | ⟨source, hsource, hsame⟩ := ih hr other hother
      · exact Or.inl hstr
      · exact Or.inr ⟨source, List.mem_cons_of_mem _ hsource, hsame⟩

theorem tokenizedColumns_inherited {P : Json → Prop} (hP : Inherited P)
    {piiTokenizer : Option String} {columns out : Columns}
    (hcolumns : ∀ column ∈ columns, P column.2)
    (h : tokenizedColumns t piiTokenizer columns = .ok out) : ∀ column ∈ out, P column.2 := by
  unfold tokenizedColumns at h
  split at h
  · split at h
    · cases h
    · intro column' hcolumn'
      obtain ⟨s, hs⟩ | ⟨column, hcolumn, hsame⟩ := tokenizeColumns_values h column' hcolumn'
      · rw [hs]
        exact hP.str s
      · rw [hsame]
        exact hcolumns column hcolumn
  · cases h
    exact hcolumns

theorem tokenizeColumns_lookup {columns out : Columns} {name : String}
    (hname : t.manifest.isPii name = false) (h : tokenizeColumns t columns = .ok out) :
    out.lookup name = columns.lookup name := by
  induction columns generalizing out with
  | nil =>
    cases h
    rfl
  | cons column rest ih =>
    obtain ⟨column', hc, h⟩ := bind_ok.mp h
    obtain ⟨rest', hr, h⟩ := bind_ok.mp h
    cases h
    have hkey := tokenizeColumn_key hc
    by_cases hcolumn : name = column.1
    · have hsame : column' = column := by
        rw [tokenizeColumn, ← hcolumn, hname] at hc
        cases hc
        rfl
      rw [hsame, List.lookup_cons, List.lookup_cons, ih hr]
    · have hne : (name == column.1) = false := beq_false_of_ne hcolumn
      rw [List.lookup_cons, List.lookup_cons, hkey, hne]
      exact ih hr

/-- What is not declared is as it was. -/
theorem tokenizedColumns_lookup {piiTokenizer : Option String} {columns out : Columns}
    {name : String} (hname : t.manifest.isPii name = false)
    (h : tokenizedColumns t piiTokenizer columns = .ok out) :
    out.lookup name = columns.lookup name := by
  unfold tokenizedColumns at h
  split at h
  · split at h
    · cases h
    · exact tokenizeColumns_lookup hname h
  · cases h
    rfl

/-! ### What can be read back -/

theorem fitsInside_inherited (h : 1 ≤ limits.decodeDepth) : Inherited (FitsInside limits) := by
  have hnull : FitsInside limits .null := ⟨trivial, by simpa [Json.depth] using h⟩
  refine ⟨hnull, fun s => ⟨trivial, by simpa [Json.depth] using h⟩, ?_⟩
  intro members name hmembers
  have hinner : Decodable limits (.obj members) := by
    refine ⟨hmembers.1, dialect_fits_iff.mpr ?_⟩
    have hdepth := hmembers.2
    omega
  exact get_of_members hnull (decodable_obj_iff.mp hinner).2.2 name

/-- The columns of a payload that was decoded. -/
theorem shopifyColumns_decodable {p : List (String × Json)} {columns : Columns}
    (hp : Decodable limits (.obj p)) (h : shopifyColumns limits p = .ok columns) :
    Decodable limits (.obj columns) := by
  obtain ⟨-, hone, hall⟩ := decodable_obj_iff.mp hp
  have hkeys := shopifyColumns_keys h
  have hP := fitsInside_inherited hone
  refine decodable_obj_iff.mpr ⟨by rw [hkeys]; decide, hone, ?_⟩
  exact shopifyColumns_inherited hP (get_of_members hP.null hall) h

theorem tokenizedColumns_decodable {piiTokenizer : Option String} {columns out : Columns}
    (hcolumns : Decodable limits (.obj columns))
    (h : tokenizedColumns t piiTokenizer columns = .ok out) : Decodable limits (.obj out) := by
  obtain ⟨hnodup, hone, hall⟩ := decodable_obj_iff.mp hcolumns
  refine decodable_obj_iff.mpr ⟨by rw [tokenizedColumns_keys h]; exact hnodup, hone, ?_⟩
  exact tokenizedColumns_inherited (fitsInside_inherited hone) hall h

end

/-! ## An order on its way to the topic -/

structure Passage where
  limits : Limits
  vendorEventId : String
  eventType : String
  occurredAt : Option Datetime
  tools : TextTools
  hmac : Hmac
  workspaceSalt : List UInt8
  /-- `PII_TOKENIZER` -/
  piiTokenizer : Option String
  workspaceId : String
  ingestedAt : Datetime
  requestId : String
  traceId : String
  saltVersion : String

namespace Passage

def tokenizer (p : Passage) : Tokenizer where
  limits := p.limits
  tools := p.tools
  hmac := p.hmac
  manifest := shopifyPiiManifest
  workspaceSalt := p.workspaceSalt

/-- `normalize` and the tokenizer. -/
def sentEvent (p : Passage) (order : List (String × Json)) : Except PyExc NormalizedEvent := do
  let event ← normalize p.limits ⟨"shopify", p.vendorEventId, p.eventType, p.occurredAt, .obj order⟩
  let columns ← tokenizedColumns p.tokenizer p.piiTokenizer event.columns
  return { event with columns := columns }

def envelope (p : Passage) (event : NormalizedEvent) : List (String × Json) :=
  envelopeOf p.workspaceId event p.ingestedAt p.requestId p.traceId p.saltVersion

/-- What `_produce_kafka` sends. -/
def value (p : Passage) (event : NormalizedEvent) : List UInt8 :=
  kafkaValue p.workspaceId event p.ingestedAt p.requestId p.traceId p.saltVersion

variable {p : Passage} {order : List (String × Json)}

theorem sentEvent_columns {event : NormalizedEvent} (h : p.sentEvent order = .ok event) :
    ∃ columns, shopifyColumns p.limits order = .ok columns ∧
      tokenizedColumns p.tokenizer p.piiTokenizer columns = .ok event.columns ∧
      event.vendor = "shopify" ∧ event.vendorEventId = p.vendorEventId ∧
      event.eventType = p.eventType := by
  obtain ⟨normalized, hnormalized, h⟩ := bind_ok.mp h
  obtain ⟨tokens, htokens, h⟩ := bind_ok.mp h
  cases h
  obtain ⟨members, hmembers, hnormalized⟩ := bind_ok.mp hnormalized
  cases hmembers
  obtain ⟨columns, hcolumns, hnormalized⟩ := bind_ok.mp hnormalized
  cases hnormalized
  exact ⟨columns, hcolumns, htokens, rfl, rfl, rfl⟩

theorem sentEvent_keys {event : NormalizedEvent} (h : p.sentEvent order = .ok event) :
    Dict.keys event.columns = orderColumnNames := by
  obtain ⟨columns, hcolumns, htokens, -⟩ := sentEvent_columns h
  exact (tokenizedColumns_keys htokens).trans (shopifyColumns_keys hcolumns)

/-- The columns that are not declared as personal. -/
theorem sentEvent_lookup {event : NormalizedEvent} (h : p.sentEvent order = .ok event) :
    (∃ text, pyStr p.limits (getD order "id" (.str "")) = .ok text ∧
        event.columns.lookup "shopify_order_id" = some (.str text)) ∧
      ∀ name ∈ copiedNames, event.columns.lookup name = some (Py.get order name) := by
  obtain ⟨columns, hcolumns, htokens, -⟩ := sentEvent_columns h
  obtain ⟨⟨text, htext, hid⟩, hcopied⟩ := shopifyColumns_lookup hcolumns
  have hall : ("shopify_order_id" :: copiedNames).all
      (fun name => !shopifyPiiManifest.isPii name) = true := by decide
  have hdeclared : ∀ name ∈ "shopify_order_id" :: copiedNames,
      p.tokenizer.manifest.isPii name = false := by
    intro name hname
    have hnot := List.all_eq_true.mp hall name hname
    rwa [Bool.not_eq_true'] at hnot
  constructor
  · refine ⟨text, htext, ?_⟩
    rw [tokenizedColumns_lookup (hdeclared _ List.mem_cons_self) htokens, hid]
  · intro name hname
    rw [tokenizedColumns_lookup (hdeclared _ (List.mem_cons_of_mem _ hname)) htokens,
      hcopied name hname]

theorem sentEvent_inherited {P : Json → Prop} (hP : Inherited P)
    (horder : ∀ name, P (Py.get order name)) {event : NormalizedEvent}
    (h : p.sentEvent order = .ok event) : ∀ column ∈ event.columns, P column.2 := by
  obtain ⟨columns, hcolumns, htokens, -⟩ := sentEvent_columns h
  exact tokenizedColumns_inherited hP (shopifyColumns_inherited hP horder hcolumns) htokens

theorem sentEvent_decodable (hdecoded : Decodable p.limits (.obj order)) {event : NormalizedEvent}
    (h : p.sentEvent order = .ok event) : Decodable p.limits (.obj event.columns) := by
  obtain ⟨columns, hcolumns, htokens, -⟩ := sentEvent_columns h
  exact tokenizedColumns_decodable (shopifyColumns_decodable hdecoded hcolumns) htokens

end Passage

theorem lookup_none_of_keys {columns : Columns} (hkeys : Dict.keys columns = orderColumnNames)
    {name : String} (hname : name ∉ orderColumnNames) : columns.lookup name = none := by
  rw [← hkeys, Dict.keys, List.mem_map] at hname
  rw [List.lookup_eq_none_iff]
  intro column hcolumn
  simpa using fun h => hname ⟨column, hcolumn, h.symm⟩

/-! ### A passage without the tokenizer -/

def firstOfJune : Datetime := ⟨.june 1, .of 0 0 0 0, none⟩

def examplePassage : Passage where
  limits := ⟨1000, 1000⟩
  vendorEventId := "e1"
  eventType := "order"
  occurredAt := none
  tools := ⟨id, id⟩
  hmac _ message := message
  workspaceSalt := [1]
  piiTokenizer := none
  workspaceId := "w"
  ingestedAt := firstOfJune
  requestId := "r"
  traceId := "t"
  saltVersion := "v1"

theorem sentEvent_examplePassage {columns : Columns}
    (h : shopifyColumns examplePassage.limits order = .ok columns) :
    ∃ event, examplePassage.sentEvent order = .ok event := by
  have htokens : tokenizedColumns examplePassage.tokenizer examplePassage.piiTokenizer columns =
      .ok columns := if_neg (by decide)
  exact ⟨_, bind_ok.mpr ⟨_, bind_ok.mpr ⟨_, rfl, bind_ok.mpr ⟨columns, h, rfl⟩⟩,
    bind_ok.mpr ⟨columns, htokens, rfl⟩⟩⟩

end BrainV2.Ingest
