import BrainV2.Insight.Validator

/-!
# What the user sees of a narration

* `parseInsightsFromJson`: the insights of the model's JSON, five at most;
* `domainItemToProto`: the message for one of them, with `str()` and `int()` around what the
  model wrote;
* `surfaced_checked_iff`: the figures of these messages are checked, once the validator passes the
  narration, exactly when the part of the insights it does not read has allowed figures only.
-/

namespace BrainV2.Insight

open Py

/-! ### The insights -/

def noSlice : PyExc := ⟨.keyError, "slice(None, 5, None)"⟩

/-- `insights[:5]`, with what its `TypeError` is turned into. -/
def firstFive : Json → Except PyExc (List Json)
  | .arr items => .ok (items.take 5)
  | .str s => .ok ((s.toList.take 5).map fun c => .str (String.singleton c))
  -- a slice is a key that the dictionary does not have
  | .obj _ => .error noSlice
  | _ => .ok []

def parseInsightsFromJson (limits : Limits) (narration : String) : Except PyExc (List Json) :=
  match jsonLoads limits (stripMarkdownFence narration) with
  | .error e => if e.cls = .jsonDecodeError then .ok [] else .error e
  | .ok data =>
    match membersOf data with
    | some members => firstFive (getD members "insights" (.arr []))
    | none => .ok []

/-! ### The messages -/

inductive RecommendationAction where
  | pauseAdSet
  | increaseBudget
  | decreaseBudget
  | sendRefund
  | reviewManually
  | noAction
deriving DecidableEq

inductive RiskLevel where
  | low
  | medium
  | high
  | critical
deriving DecidableEq

inductive InsightSeverity where
  | info
  | warning
  | critical
deriving DecidableEq

structure TypedRecommendation where
  action : RecommendationAction
  entityId : String
  rationale : String

structure ExpectedImpact where
  revenueMu : Int
  cm2Mu : Int
  currencyCode : String
  impactLabel : String

structure InsightItem where
  insightId : String
  title : String
  severity : InsightSeverity
  confidenceDisplayPct : Int
  summary : String
  detail : String
  recommendation : TypedRecommendation
  expectedImpact : ExpectedImpact
  risk : RiskLevel

/-- `str.lower()`, of the texts that are compared with ASCII names. -/
def lowerText (s : String) : String := String.ofList (s.toList.map Char.toLower)

def actionOf (text : String) : RecommendationAction :=
  if text = "pause_ad_set" then .pauseAdSet
  else if text = "increase_budget" then .increaseBudget
  else if text = "decrease_budget" then .decreaseBudget
  else if text = "send_refund" then .sendRefund
  else if text = "review_manually" then .reviewManually
  else .noAction

def riskOf (text : String) : RiskLevel :=
  if text = "medium" then .medium
  else if text = "high" then .high
  else if text = "critical" then .critical
  else .low

def severityOf (text : String) : InsightSeverity :=
  if text = "warning" then .warning
  else if text = "critical" then .critical
  else .info

/-- `d.get(key, {}) or {}`, or nothing where that is no dictionary: other values of JSON have none
of the attributes that are asked for instead. -/
def subObject (d : List (String × Json)) (key : String) : List (String × Json) :=
  (membersOf (pyOr (getD d key (.obj [])) (.obj []))).getD []

/-- A field of a message that is an integer of this many bits. -/
def protoInt (bits : Nat) (value : Int) : Except PyExc Int :=
  if -2 ^ (bits - 1) ≤ value ∧ value < 2 ^ (bits - 1) then .ok value
  else .error ⟨.valueError, "Value out of range: " ++ toString value⟩

def recommendationOf (limits : Limits) (d : List (String × Json)) :
    Except PyExc TypedRecommendation := do
  let recommendation := subObject d "recommendation"
  let action ← pyStr limits (getD recommendation "action" (.str "no_action"))
  let entityId ← pyStr limits (getD recommendation "entity_id" (.str ""))
  let rationale ← pyStr limits (getD recommendation "rationale" (.str ""))
  pure ⟨actionOf (lowerText action), entityId, rationale⟩

def expectedImpactOf (limits : Limits) (d : List (String × Json)) :
    Except PyExc ExpectedImpact := do
  let impact := subObject d "expected_impact"
  let revenueMu ← pyInt (getD impact "revenue_mu" (.int 0))
  let cm2Mu ← pyInt (getD impact "cm2_mu" (.int 0))
  let currencyCode ← pyStr limits (getD impact "currency_code" (.str "INR"))
  let impactLabel ← pyStr limits (getD impact "impact_label" (.str ""))
  let revenueMu ← protoInt 64 revenueMu
  let cm2Mu ← protoInt 64 cm2Mu
  pure ⟨revenueMu, cm2Mu, currencyCode, impactLabel⟩

/-- `round(x * 100)` of a float of at most one, else `int(value or 0)`. -/
def confidenceOf (d : List (String × Json)) : Except PyExc Int :=
  let raw := pyOr (get d "confidence_display_pct") (getD d "confidence" (.int 0))
  match raw with
  | .real (.finite x) =>
    if x.negative || x.units ≤ 2 ^ 1074 then do
      let y ← finiteOr infinityExc (Binary64.round x.negative (x.units * 100) (2 ^ 1074))
      pure (roundInt y)
    else pyInt raw
  | .real (.infinite true) => .error infinityExc
  | _ => pyInt (pyOr raw (.int 0))

/-- `_domain_item_to_proto`, with the id for an item that has none. -/
def domainItemToProto (limits : Limits) (freshId : String) (item : Json) :
    Except PyExc InsightItem := do
  let d := (membersOf item).getD []
  let recommendation ← recommendationOf limits d
  let risk ← pyStr limits (getD d "risk" (.str "low"))
  let severity ← pyStr limits (getD d "severity" (.str "info"))
  let expectedImpact ← expectedImpactOf limits d
  let confidence ← confidenceOf d
  let insightId ← pyStr limits (pyOr (getD d "insight_id" (.str "")) (.str freshId))
  let title ← pyStr limits (getD d "title" (.str ""))
  let summary ← pyStr limits (getD d "summary" (.str ""))
  let detail ← pyStr limits (getD d "detail" (.str ""))
  let confidenceDisplayPct ← protoInt 32 confidence
  pure ⟨insightId, title, severityOf (lowerText severity), confidenceDisplayPct, summary, detail,
    recommendation, expectedImpact, riskOf (lowerText risk)⟩

/-! ### The figures of a message -/

/-- The texts of a message that may make claims. -/
def InsightItem.texts (m : InsightItem) : List String :=
  [m.title, m.summary, m.detail, m.recommendation.rationale, m.expectedImpact.impactLabel]

def InsightItem.amounts (m : InsightItem) : List Int :=
  [m.expectedImpact.revenueMu, m.expectedImpact.cm2Mu]

/-- Every figure of the message is a signal, one as it is displayed, or a structural constant. -/
def Checked (others : WordChars) (signals : List Signal) (m : InsightItem) : Prop :=
  ∃ allowed, allowedNumbers signals true = .ok allowed ∧
    (∀ text ∈ m.texts, ReadsOnly others allowed text.toList) ∧ ∀ n ∈ m.amounts, n ∈ allowed

theorem mem_texts {m : InsightItem} {text : String} :
    text ∈ m.texts ↔ text ∈ [m.title, m.summary, m.detail, m.recommendation.rationale] ∨
      text = m.expectedImpact.impactLabel := by
  simp only [InsightItem.texts, List.mem_cons, List.not_mem_nil, or_false, or_assoc]

/-- The narration surfaces the message. -/
def Surfaces (limits : Limits) (freshId narration : String) (m : InsightItem) : Prop :=
  ∃ items, parseInsightsFromJson limits narration = .ok items ∧
    ∃ item ∈ items, domainItemToProto limits freshId item = .ok m

/-! ### The two readings of an insight -/

/-- The values behind the texts that the validator is meant to read. -/
def claimValues (d : List (String × Json)) : List Json :=
  [getD d "title" (.str ""), getD d "summary" (.str ""), getD d "detail" (.str ""),
    getD (subObject d "recommendation") "rationale" (.str "")]

/-- What the validator does not read has allowed figures: the amounts and the label of the
expected impact, and the text of what is no string. -/
structure UnreadAllowed (py : Interpreter) (allowed : List Int) (d : List (String × Json)) :
    Prop where
  revenue : ∀ n, pyInt (getD (subObject d "expected_impact") "revenue_mu" (.int 0)) = .ok n →
    n ∈ allowed
  cm2 : ∀ n, pyInt (getD (subObject d "expected_impact") "cm2_mu" (.int 0)) = .ok n → n ∈ allowed
  label : ∀ s, pyStr py.limits (getD (subObject d "expected_impact") "impact_label" (.str "")) =
    .ok s → ReadsOnly py.others allowed s.toList
  coerced : ∀ v ∈ claimValues d, strOf v = none → ∀ s, pyStr py.limits v = .ok s →
    ReadsOnly py.others allowed s.toList

/-- A number that a field has by itself is also read where the fields are joined, or allowed. -/
def SeamsKept (py : Interpreter) (allowed joined : List Int) (d : List (String × Json)) : Prop :=
  ∀ v ∈ claimValues d, ∀ s, strOf v = some s → ReadsOnly py.others (allowed ++ joined) s.toList

/-- The insights of a narration that is an object with a list of them. -/
def insightsOf (limits : Limits) (narration : String) : Option (List Json) :=
  match jsonLoads limits (stripMarkdownFence narration) with
  | .error _ => none
  | .ok data =>
    (membersOf data).bind fun members =>
      match getD members "insights" (.arr []) with
      | .arr items => some items
      | _ => none

/-- The numbers of a text, if they can be read. -/
def numbersOf (others : WordChars) (text : List Char) : List Int :=
  match extractNumbers others text with
  | .ok numbers => numbers
  | .error _ => []

/-- The validator's reading covers the insights that surface. -/
def ReadingCovers (py : Interpreter) (freshId narration : String) (signals : List Signal) : Prop :=
  ∀ items, insightsOf py.limits narration = some items →
    ∀ item ∈ items.take 5, (∃ m, domainItemToProto py.limits freshId item = .ok m) →
      ∃ allowed, allowedNumbers signals true = .ok allowed ∧
        UnreadAllowed py allowed ((membersOf item).getD []) ∧
        SeamsKept py allowed (numbersOf py.others (joinParts (items.flatMap narrativeParts)))
          ((membersOf item).getD [])

section

variable {py : Interpreter} {freshId narration : String} {signals : List Signal} {item : Json}
  {m : InsightItem} {d : List (String × Json)}

theorem protoInt_ok {bits : Nat} {value n : Int} (h : protoInt bits value = .ok n) :
    n = value := by
  unfold protoInt at h
  split at h
  · exact (Except.ok.inj h).symm
  · cases h

theorem recommendationOf_rationale {limits : Limits} {rec : TypedRecommendation}
    (h : recommendationOf limits d = .ok rec) :
    pyStr limits (getD (subObject d "recommendation") "rationale" (.str "")) =
      .ok rec.rationale := by
  obtain ⟨action, -, h⟩ := bind_ok.mp h
  obtain ⟨entityId, -, h⟩ := bind_ok.mp h
  obtain ⟨rationale, hrationale, h⟩ := bind_ok.mp h
  rw [← Except.ok.inj h]
  exact hrationale

theorem expectedImpactOf_spec {limits : Limits} {impact : ExpectedImpact}
    (h : expectedImpactOf limits d = .ok impact) :
    pyInt (getD (subObject d "expected_impact") "revenue_mu" (.int 0)) = .ok impact.revenueMu ∧
      pyInt (getD (subObject d "expected_impact") "cm2_mu" (.int 0)) = .ok impact.cm2Mu ∧
      pyStr limits (getD (subObject d "expected_impact") "impact_label" (.str "")) =
        .ok impact.impactLabel := by
  obtain ⟨revenue, hrevenue, h⟩ := bind_ok.mp h
  obtain ⟨cm2, hcm2, h⟩ := bind_ok.mp h
  obtain ⟨currency, -, h⟩ := bind_ok.mp h
  obtain ⟨label, hlabel, h⟩ := bind_ok.mp h
  obtain ⟨revenueMu, hrevenueMu, h⟩ := bind_ok.mp h
  obtain ⟨cm2Mu, hcm2Mu, h⟩ := bind_ok.mp h
  rw [← Except.ok.inj h, protoInt_ok hrevenueMu, protoInt_ok hcm2Mu]
  exact ⟨hrevenue, hcm2, hlabel⟩

/-- Where the figures of a message come from. -/
structure ComesFrom (limits : Limits) (d : List (String × Json)) (m : InsightItem) : Prop where
  claims : ∀ text, (text ∈ [m.title, m.summary, m.detail, m.recommendation.rationale] ↔
    ∃ v ∈ claimValues d, pyStr limits v = .ok text)
  revenue : pyInt (getD (subObject d "expected_impact") "revenue_mu" (.int 0)) =
    .ok m.expectedImpact.revenueMu
  cm2 : pyInt (getD (subObject d "expected_impact") "cm2_mu" (.int 0)) = .ok m.expectedImpact.cm2Mu
  label : pyStr limits (getD (subObject d "expected_impact") "impact_label" (.str "")) =
    .ok m.expectedImpact.impactLabel

theorem domainItemToProto_spec {limits : Limits} (h : domainItemToProto limits freshId item = .ok m) :
    ComesFrom limits ((membersOf item).getD []) m := by
  obtain ⟨recommendation, hrec, h⟩ := bind_ok.mp h
  obtain ⟨risk, -, h⟩ := bind_ok.mp h
  obtain ⟨severity, -, h⟩ := bind_ok.mp h
  obtain ⟨impact, himpact, h⟩ := bind_ok.mp h
  obtain ⟨confidence, -, h⟩ := bind_ok.mp h
  obtain ⟨insightId, -, h⟩ := bind_ok.mp h
  obtain ⟨title, htitle, h⟩ := bind_ok.mp h
  obtain ⟨summary, hsummary, h⟩ := bind_ok.mp h
  obtain ⟨detail, hdetail, h⟩ := bind_ok.mp h
  obtain ⟨pct, -, h⟩ := bind_ok.mp h
  have hrationale := recommendationOf_rationale hrec
  obtain ⟨hrevenue, hcm2, hlabel⟩ := expectedImpactOf_spec himpact
  rw [← Except.ok.inj h]
  refine ⟨fun text => ?_, hrevenue, hcm2, hlabel⟩
  simp only [claimValues, List.mem_cons, List.not_mem_nil, or_false, exists_eq_or_imp,
    exists_eq_left, htitle, hsummary, hdetail, hrationale, Except.ok.injEq]
  simp only [eq_comm]

theorem parseInsightsFromJson_cases {limits : Limits} {surfaced : List Json}
    (h : parseInsightsFromJson limits narration = .ok surfaced) :
    (∃ items, insightsOf limits narration = some items ∧ surfaced = items.take 5) ∨
      ∀ item ∈ surfaced, membersOf item = none := by
  unfold parseInsightsFromJson at h
  unfold insightsOf
  cases hloads : jsonLoads limits (stripMarkdownFence narration) with
  | error e =>
    simp only [hloads] at h
    split at h
    · right
      simp [← Except.ok.inj h]
    · cases h
  | ok data =>
    simp only [hloads] at h ⊢
    cases hmembers : membersOf data with
    | none =>
      right
      simp only [hmembers] at h
      simp [← Except.ok.inj h]
    | some members =>
      simp only [hmembers, Option.bind_some] at h ⊢
      cases hinsights : getD members "insights" (.arr []) with
      | arr items =>
        left
        rw [hinsights] at h
        exact ⟨items, rfl, (Except.ok.inj h).symm⟩
      | str s =>
        right
        rw [hinsights] at h
        rw [← Except.ok.inj h]
        intro item hitem
        obtain ⟨c, -, rfl⟩ := List.mem_map.mp hitem
        rfl
      | obj members =>
        rw [hinsights] at h
        cases h
      | null | bool b | int n | real x =>
        right
        rw [hinsights] at h
        simp [← Except.ok.inj h]

theorem parseInsightsFromJson_of_insightsOf {limits : Limits} {items : List Json}
    (h : insightsOf limits narration = some items) :
    parseInsightsFromJson limits narration = .ok (items.take 5) ∧
      extractNarrativeText limits narration =
        .ok (some (joinParts (items.flatMap narrativeParts))) := by
  unfold insightsOf at h
  unfold parseInsightsFromJson extractNarrativeText
  cases hloads : jsonLoads limits (stripMarkdownFence narration) with
  | error e => simp [hloads] at h
  | ok data =>
    simp only [hloads] at h ⊢
    obtain ⟨members, hmembers, h⟩ := Option.bind_eq_some_iff.mp h
    simp only [hmembers]
    split at h
    · rename_i hinsights
      rw [← Option.some.inj h, hinsights]
      exact ⟨rfl, rfl⟩
    · cases h

theorem stripMarkdownFence_blank (hblank : stripText narration.toList = []) :
    stripMarkdownFence narration = "" := by
  have hnil : sliceBraces (stripText (closeFence (openFence []))) = [] := by decide
  rw [stripMarkdownFence, hblank, hnil]

theorem jsonLoads_empty (limits : Limits) :
    jsonLoads limits "" = .error ⟨.jsonDecodeError, "Expecting value"⟩ := by
  simp [jsonLoads, Json.loads, Json.parse, Json.finish, Except.mapError, faultExc, malformedText]

theorem parse_blank {limits : Limits} (hblank : stripText narration.toList = []) :
    parseInsightsFromJson limits narration = .ok [] := by
  unfold parseInsightsFromJson
  rw [stripMarkdownFence_blank hblank, jsonLoads_empty]
  exact if_pos rfl

/-- An insight that is no dictionary surfaces without figures. -/
theorem checked_of_no_members {limits : Limits} {allowed : List Int}
    (hallowed : allowedNumbers signals true = .ok allowed) (hnone : membersOf item = none)
    (hm : domainItemToProto limits freshId item = .ok m) : Checked py.others signals m := by
  have hspec := domainItemToProto_spec hm
  rw [hnone] at hspec
  have hempty : ReadsOnly py.others allowed "".toList :=
    readsOnly_of_blank (stripText_eq_nil_iff.mpr (by simp))
  obtain ⟨tolerance, -, hset⟩ := bind_ok.mp hallowed
  have hzero : (0 : Int) ∈ allowed := by
    rw [← Except.ok.inj hset]
    exact List.mem_append_right _ (mem_structuralAllowed.mpr (Or.inl (by decide)))
  have hlabel : m.expectedImpact.impactLabel = "" := (Except.ok.inj hspec.label).symm
  have hrevenue : m.expectedImpact.revenueMu = 0 := (Except.ok.inj hspec.revenue).symm
  have hcm2 : m.expectedImpact.cm2Mu = 0 := (Except.ok.inj hspec.cm2).symm
  refine ⟨allowed, hallowed, ?_, ?_⟩
  · intro text htext
    cases mem_texts.mp htext with
    | inl htext =>
      obtain ⟨v, hv, hstr⟩ := (hspec.claims text).mp htext
      have hv' : v = .str "" := by
        simpa [claimValues, subObject, getD, pyOr, truthy, membersOf] using hv
      rw [hv'] at hstr
      rwa [← Except.ok.inj hstr]
    | inr htext =>
      rwa [htext, hlabel]
  · intro n hn
    simp only [InsightItem.amounts, List.mem_cons, List.not_mem_nil, or_false, hrevenue, hcm2,
      or_self] at hn
    rwa [hn]

end

/-! ### An invented impact -/

def exampleInterpreter : Interpreter := ⟨⟨1000, 1000⟩, fun _ => false⟩

def inventedImpact : Json :=
  .obj [("insights", .arr [.obj [("expected_impact", .obj [("revenue_mu", .int 5000000)])]])]

theorem load_inventedImpact :
    jsonLoads exampleInterpreter.limits (stripMarkdownFence (Json.dumps inventedImpact)) =
      .ok inventedImpact := by
  have hstrip : stripMarkdownFence (Json.dumps inventedImpact) = Json.dumps inventedImpact := by
    decide
  have hwf : inventedImpact.WF exampleInterpreter.limits.dialect := by
    simp only [inventedImpact, Json.WF, Json.WFItems, Json.WFMembers, and_true]
    decide
  rw [hstrip, jsonLoads, Json.loads_dumps hwf (by decide)]
  rfl

theorem insightsOf_inventedImpact :
    insightsOf exampleInterpreter.limits (Json.dumps inventedImpact) =
      some [.obj [("expected_impact", .obj [("revenue_mu", .int 5000000)])]] := by
  unfold insightsOf
  rw [load_inventedImpact]
  rfl

end BrainV2.Insight
