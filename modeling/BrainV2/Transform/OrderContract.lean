import BrainV2.Ingest.OrderEnvelope
import BrainV2.Money.AmountText
import BrainV2.Money.FormatMoney
import BrainV2.Transform.Graduate

/-!
# An order from the adapter to silver

* `ShopifyOrder`: an order with an id and decimal amounts;
* `bronzeRow`, `upsertedFact`: what the stages between make of it;
* `Graduates`: the fact that should come of it;
* `upsertedFact_none`: nothing comes of any order.
-/

namespace BrainV2.Transform

open Py
open Ingest (ChRow Columns Decodable NormalizedEvent ParsedEnvelope Passage buildChRow
  decodable_obj_iff examplePassage firstOfJune kafkaValue lookup_none_of_keys orderColumnNames
  parseEnvelope shopifyColumns tokenizedColumns)
open Money (AmountText subunitMultiplier)

def moneyNames : List String := ["total_price", "subtotal_price", "total_discounts", "total_tax"]

/-- As it was decoded from the vendor's text. -/
structure ShopifyOrder (limits : Limits) where
  members : List (String × Json)
  decoded : Decodable limits (.obj members)
  id : truthy (Py.get members "id") = true
  money : ∀ name ∈ moneyNames, ∃ a : AmountText, Py.get members name = .str a.text

/-! ### The stages -/

/-- What `_produce_kafka` sends, through `parse_envelope` and `_build_ch_row`. -/
def bronzeRow (p : Passage) (archivedAt : Datetime) (order : List (String × Json)) :
    Except PyExc ChRow := do
  let event ← p.sentEvent order
  let parsed ← parseEnvelope p.limits (p.value event)
  return buildChRow parsed archivedAt

/-- A String column of the raw table. -/
def stringColumn : Json → Except PyExc String
  | .str text => .ok text
  | j => .error ⟨.attributeError, "'" ++ typeName j ++ "' object has no attribute 'encode'"⟩

/-- The table and the fact that `graduate_raw_event` upserts for the row. -/
def upsertedFact (p : Passage) (archivedAt : Datetime) (rawEventId : String)
    (order : List (String × Json)) : Except PyExc (Option (String × SilverFact)) := do
  let row ← bronzeRow p archivedAt order
  let workspaceId ← stringColumn row.workspaceId
  let vendor ← stringColumn row.vendor
  let eventType ← stringColumn row.eventType
  let payload ← stringColumn row.payload
  prepare p.limits (registry p.limits) workspaceId vendor eventType payload rawEventId

/-! ### What should come of an order -/

/-- An amount of the order, in subunits of its currency. -/
def MinorUnitsOf (order : List (String × Json)) (name : String) (minorUnits : Json) : Prop :=
  ∃ (a : AmountText) (currency : String) (n : Int), Py.get order name = .str a.text ∧
    Py.get order "currency" = .str currency ∧ minorUnits = .int n ∧
    (n : ℚ) = a.value * subunitMultiplier currency

/-- The order's own fact is upserted. -/
structure Graduates (p : Passage) (archivedAt : Datetime) (rawEventId : String)
    (order : ShopifyOrder p.limits) (fact : SilverFact) : Prop where
  upserted : upsertedFact p archivedAt rawEventId order.members =
    .ok (some ("connector_order_facts", fact))
  orderId : ∃ text, pyStr p.limits (Py.get order.members "id") = .ok text ∧
    Py.get fact "vendor_order_id" = .str text
  gross : ∃ name ∈ ["subtotal_price", "total_price"],
    MinorUnitsOf order.members name (Py.get fact "gross_sales_mu")
  discount : MinorUnitsOf order.members "total_discounts" (Py.get fact "total_discount_mu")
  tax : MinorUnitsOf order.members "total_tax" (Py.get fact "total_tax_mu")

/-! ### What comes of it -/

section

variable {p : Passage} {archivedAt : Datetime} {rawEventId : String} {order : List (String × Json)}

/-- What the archiver reads of an envelope is what was sent. -/
theorem texts_of_parseEnvelope {limits : Limits} (hdepth : 1 ≤ limits.decodeDepth)
    {workspaceId requestId traceId saltVersion : String} {event : NormalizedEvent}
    {ingestedAt : Datetime} {parsed : ParsedEnvelope}
    (h : parseEnvelope limits (kafkaValue workspaceId event ingestedAt requestId traceId
      saltVersion) = .ok parsed) :
    parsed.workspaceId = .str workspaceId ∧ parsed.vendor = .str event.vendor ∧
      parsed.eventType = .str event.eventType ∧
      parsed.payload = .str (Json.dumps (.obj event.columns)) := by
  unfold parseEnvelope at h
  rw [Ingest.decodeEnvelope_kafkaValue hdepth] at h
  obtain ⟨envelope, henvelope, h⟩ := bind_ok.mp h
  cases henvelope
  obtain ⟨members, hmembers, h⟩ := bind_ok.mp h
  cases hmembers
  obtain ⟨-, -, h⟩ := bind_ok.mp h
  obtain ⟨receivedAt, -, h⟩ := bind_ok.mp h
  obtain ⟨eventAt, -, h⟩ := bind_ok.mp h
  obtain ⟨customerRef, -, h⟩ := bind_ok.mp h
  obtain ⟨customerRefText, -, h⟩ := bind_ok.mp h
  cases h
  rw [← Ingest.payloadText_eq]
  exact ⟨rfl, rfl, rfl, rfl⟩

/-- The raw row holds the adapter's columns, tokenized or not. -/
theorem bronzeRow_texts (hdecoded : Decodable p.limits (.obj order)) {row : ChRow}
    (h : bronzeRow p archivedAt order = .ok row) :
    row.workspaceId = .str p.workspaceId ∧ row.vendor = .str "shopify" ∧
      row.eventType = .str p.eventType ∧
      ∃ columns : Columns, Dict.keys columns = orderColumnNames ∧
        Decodable p.limits (.obj columns) ∧ row.payload = .str (Json.dumps (.obj columns)) := by
  obtain ⟨event, hevent, h⟩ := bind_ok.mp h
  obtain ⟨parsed, hparsed, h⟩ := bind_ok.mp h
  cases h
  obtain ⟨hworkspace, hvendor, htype, hpayload⟩ :=
    texts_of_parseEnvelope (decodable_obj_iff.mp hdecoded).2.1 hparsed
  obtain ⟨-, -, -, hvendorEq, -, htypeEq⟩ := Passage.sentEvent_columns hevent
  exact ⟨hworkspace, hvendor.trans (congrArg _ hvendorEq), htype.trans (congrArg _ htypeEq),
    event.columns, Passage.sentEvent_keys hevent, Passage.sentEvent_decodable hdecoded hevent,
    hpayload⟩

/-- The mapper looks for an id under names that the adapter does not use. -/
theorem vendorOrderIdOf_columns {columns : Columns} (hkeys : Dict.keys columns = orderColumnNames)
    (workspaceId : String) :
    vendorOrderIdOf (Dict.setDefault columns "workspace_id" (.str workspaceId)) = .null := by
  have hget : ∀ name, name ∉ orderColumnNames → name ≠ "workspace_id" →
      Py.get (Dict.setDefault columns "workspace_id" (.str workspaceId)) name = .null := by
    intro name hname hne
    rw [Dict.setDefault, lookup_none_of_keys hkeys (by decide), Py.get, getD,
      Dict.lookup_set_ne _ _ hne, lookup_none_of_keys hkeys hname]
    rfl
  rw [vendorOrderIdOf, hget "vendor_order_id" (by decide) (by decide),
    hget "id" (by decide) (by decide)]
  rfl

/-- The row is graduated without a fact. -/
theorem prepare_columns {limits : Limits} {columns : Columns}
    (hkeys : Dict.keys columns = orderColumnNames) (hcolumns : Decodable limits (.obj columns))
    (workspaceId vendor eventType rawEventId : String) :
    prepare limits (registry limits) workspaceId vendor eventType (Json.dumps (.obj columns))
      rawEventId = .ok none := by
  have hloads : Json.loads limits.dialect (Json.dumps (.obj columns)) = .ok (.obj columns) :=
    Json.loads_dumps hcolumns.1 hcolumns.2
  cases hget : (registry limits).get vendor eventType with
  | none => exact prepare_unmapped hloads hget
  | some entry =>
    have hsome : ((registry limits).get vendor eventType).isSome = true := by rw [hget]; rfl
    have hmapper : shopifyOrderMapper limits
        (Dict.setDefault columns "workspace_id" (.str workspaceId)) = .ok none := by
      rw [shopifyOrderMapper, vendorOrderIdOf_columns hkeys]
      rfl
    rw [prepare_mapped hloads hsome, hmapper]

/-- An order that the stages let through is skipped at the end. -/
theorem upsertedFact_of_bronzeRow (hdecoded : Decodable p.limits (.obj order)) {row : ChRow}
    (h : bronzeRow p archivedAt order = .ok row) :
    upsertedFact p archivedAt rawEventId order = .ok none := by
  obtain ⟨hworkspace, hvendor, htype, columns, hkeys, hcolumns, hpayload⟩ :=
    bronzeRow_texts hdecoded h
  rw [upsertedFact, h]
  change (stringColumn row.workspaceId >>= fun workspaceId => stringColumn row.vendor >>= fun vendor =>
    stringColumn row.eventType >>= fun eventType => stringColumn row.payload >>= fun payload =>
      prepare p.limits (registry p.limits) workspaceId vendor eventType payload rawEventId) = _
  rw [hworkspace, hvendor, htype, hpayload]
  exact prepare_columns hkeys hcolumns _ _ _ _

theorem upsertedFact_none (hdecoded : Decodable p.limits (.obj order))
    {plan : Option (String × SilverFact)} (h : upsertedFact p archivedAt rawEventId order = .ok plan) :
    plan = none := by
  obtain ⟨row, hrow, -⟩ := bind_ok.mp h
  rw [upsertedFact_of_bronzeRow hdecoded hrow] at h
  exact (Except.ok.inj h).symm

end

/-- No order comes through to silver. -/
theorem order_never_graduates (p : Passage) (archivedAt : Datetime) (rawEventId : String)
    (order : ShopifyOrder p.limits) (fact : SilverFact) :
    ¬ Graduates p archivedAt rawEventId order fact := by
  intro h
  cases upsertedFact_none order.decoded h.upserted

/-! ### An order that is paid -/

/-- A whole number and two places. -/
def wholeAmount (whole : List Char) (h : whole.all Char.isDigit = true) : AmountText where
  sign := .none
  whole := whole
  fraction := some ['0', '0']
  digits := by
    intro c hc
    cases List.mem_append.mp hc with
    | inl hwhole => exact List.all_eq_true.mp h c hwhole
    | inr hzero =>
      simp only [Option.getD_some, List.mem_cons, List.not_mem_nil, or_false, or_self] at hzero
      rw [hzero]
      rfl
  someDigit := by simp

def paidColumns : List (String × Json) :=
  [("id", .int 7), ("total_price", .str "118.00"), ("subtotal_price", .str "100.00"),
    ("total_discounts", .str "0.00"), ("total_tax", .str "18.00"), ("currency", .str "INR")]

def paidOrder : ShopifyOrder examplePassage.limits where
  members := paidColumns
  decoded := by
    refine decodable_obj_iff.mpr ⟨by decide, by decide, ?_⟩
    have hdigits : (Nat.toDigits 10 7).length ≤ 4300 := by decide
    simpa [paidColumns, Ingest.FitsInside, Json.WF, Json.depth, Json.Dialect.fitsDigits,
      Limits.dialect, intMaxStrDigits, examplePassage] using hdigits
  id := rfl
  money := by
    simp only [moneyNames, List.forall_mem_cons, List.not_mem_nil, false_imp_iff, implies_true,
      and_true]
    exact ⟨⟨wholeAmount ['1', '1', '8'] (by decide), rfl⟩,
      ⟨wholeAmount ['1', '0', '0'] (by decide), rfl⟩, ⟨wholeAmount ['0'] (by decide), rfl⟩,
      ⟨wholeAmount ['1', '8'] (by decide), rfl⟩⟩

/-- The row of the order is skipped. -/
theorem paid_order_skipped :
    upsertedFact examplePassage firstOfJune "e1" paidOrder.members = .ok none ∧
      ¬ ∃ fact, Graduates examplePassage firstOfJune "e1" paidOrder fact := by
  obtain ⟨columns, hcolumns⟩ : ∃ columns, shopifyColumns examplePassage.limits paidColumns =
      .ok columns := Ingest.shopifyColumns_ok_iff.mpr ⟨⟨_, rfl⟩, nofun⟩
  have htokens : tokenizedColumns examplePassage.tokenizer examplePassage.piiTokenizer columns =
      .ok columns := if_neg (by decide)
  let event : NormalizedEvent := ⟨"shopify", "e1", "order", none,
    Ingest.shopifyPiiManifest.defaultLawfulBasis, Ingest.shopifyPiiManifest.defaultPurposeCode,
    columns⟩
  have hcomplete : Ingest.Complete "w" event :=
    ⟨by decide, (by decide : "shopify" ≠ ""), (by decide : "e1" ≠ ""), (by decide : "order" ≠ "")⟩
  have hparse : parseEnvelope examplePassage.limits (kafkaValue "w" event firstOfJune "r" "t" "v1") =
      .ok (Ingest.readBack "w" event firstOfJune "r" "t" "v1") :=
    Ingest.parseEnvelope_kafkaValue hcomplete
      (Ingest.shopifyColumns_decodable paidOrder.decoded hcolumns)
      (lookup_none_of_keys (Ingest.shopifyColumns_keys hcolumns) (by decide))
  have hevent : examplePassage.sentEvent paidColumns = .ok event :=
    bind_ok.mpr ⟨event, bind_ok.mpr ⟨_, rfl, bind_ok.mpr ⟨columns, hcolumns, rfl⟩⟩,
      bind_ok.mpr ⟨columns, htokens, rfl⟩⟩
  have hrow : bronzeRow examplePassage firstOfJune paidColumns = .ok (buildChRow _ firstOfJune) :=
    bind_ok.mpr ⟨event, hevent, bind_ok.mpr ⟨_, hparse, rfl⟩⟩
  have hskipped : upsertedFact examplePassage firstOfJune "e1" paidOrder.members = .ok none :=
    upsertedFact_of_bronzeRow paidOrder.decoded hrow
  refine ⟨hskipped, ?_⟩
  rintro ⟨fact, h⟩
  rw [h.upserted] at hskipped
  cases hskipped

end BrainV2.Transform
