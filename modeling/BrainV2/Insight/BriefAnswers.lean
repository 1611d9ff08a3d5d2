import BrainV2.Insight.Surfacing

/-!
# Which narrations a brief can be answered with

* `insightsValue`: what `_parse_insights_from_json` returns, a list or a text;
* `itemToProto`: the message of an item, whose texts have to be UTF-8;
* `getMorningBrief`: the answer of the servicer, once the model has written its narration;
* `answered_iff`: the types and ranges of the narration's JSON for which it is a response.
-/

namespace BrainV2.Insight

open Py

/-! ### Half a surrogate pair -/

/-- The code unit of a `\u` escape at the front, and what follows it. -/
def escapedUnit : List Char → Option (Nat × List Char)
  | '\\' :: 'u' :: a :: b :: c :: d :: rest => do
    let a ← Json.hexValue a
    let b ← Json.hexValue b
    let c ← Json.hexValue c
    let d ← Json.hexValue d
    pure (((a * 16 + b) * 16 + c) * 16 + d, rest)
  | _ => none

def otherEscape : List Char := ['\\', 'u', 'F', 'F', 'F', 'E']

/-- The text with every escape of half a surrogate pair spelled as another character. -/
def respellFrom : Nat → List Char → List Char
  | 0, cs => cs
  | fuel + 1, cs =>
    match escapedUnit cs with
    | some (unit, rest) =>
      if Json.isHigh unit then
        match escapedUnit rest with
        | some (low, rest') =>
          if Json.isLow low then cs.take 12 ++ respellFrom fuel rest'
          else otherEscape ++ respellFrom fuel rest
        | none => otherEscape ++ respellFrom fuel rest
      else if Json.isLow unit then otherEscape ++ respellFrom fuel rest
      else cs.take 6 ++ respellFrom fuel rest
    | none =>
      match cs with
      | '\\' :: c :: rest => '\\' :: c :: respellFrom fuel rest
      | c :: rest => c :: respellFrom fuel rest
      | [] => []

/-- The decoder takes half a pair for U+FFFD. A text that it reads in another way from the
respelled JSON is one that holds half a pair. -/
def respell (text : String) : String :=
  String.ofList (respellFrom text.length text.toList)

/-! ### The list of insights -/

/-- `insights[:5]`: a list of a list, a text of a text. -/
def sliceFive : Json → Except PyExc Json
  | .arr items => .ok (.arr (items.take 5))
  | .str s => .ok (.str (String.ofList (s.toList.take 5)))
  | .obj _ => .error noSlice
  | _ => .ok (.arr [])

def insightsValue (limits : Limits) (narration : String) : Except PyExc Json :=
  match jsonLoads limits (stripMarkdownFence narration) with
  | .error e => if e.cls = .jsonDecodeError then .ok (.arr []) else .error e
  | .ok data =>
    match membersOf data with
    | some members => sliceFive (getD members "insights" (.arr []))
    | none => .ok (.arr [])

/-- What a loop over the value goes through. -/
def elements : Json → List Json
  | .arr items => items
  | .str s => s.toList.map fun c => .str (String.singleton c)
  | _ => []

theorem firstFive_eq (j : Json) : firstFive j = (sliceFive j).map elements := by
  cases j with
  | str s => simp [firstFive, sliceFive, elements, Except.map]
  | _ => rfl

theorem parseInsightsFromJson_eq (limits : Limits) (narration : String) :
    parseInsightsFromJson limits narration = (insightsValue limits narration).map elements := by
  unfold parseInsightsFromJson insightsValue
  cases jsonLoads limits (stripMarkdownFence narration) with
  | error e =>
    simp only
    split <;> rfl
  | ok data =>
    simp only
    cases membersOf data with
    | none => rfl
    | some members => exact firstFive_eq _

/-! ### The messages -/

/-- The values whose texts go into the message as they are. -/
def messageTexts (item : Json) : List Json :=
  let d := (membersOf item).getD []
  [pyOr (getD d "insight_id" (.str "")) (.str ""), getD d "title" (.str ""), getD d "summary" (.str ""),
    getD d "detail" (.str ""), getD (subObject d "recommendation") "entity_id" (.str ""),
    getD (subObject d "recommendation") "rationale" (.str ""),
    getD (subObject d "expected_impact") "currency_code" (.str "INR"),
    getD (subObject d "expected_impact") "impact_label" (.str "")]

/-- No text of the message holds half a surrogate pair. -/
def Encodable (item respelled : Json) : Prop :=
  (messageTexts item).map strOf = (messageTexts respelled).map strOf

instance (item respelled : Json) : Decidable (Encodable item respelled) :=
  inferInstanceAs (Decidable (_ = _))

def notEncodable : PyExc :=
  ⟨.other "UnicodeEncodeError" true, "'utf-8' codec can't encode character: surrogates not allowed"⟩

/-- `_domain_item_to_proto` of an item, given with its reading in the respelled text. -/
def itemToProto (limits : Limits) (freshId : String) (item : Json × Json) :
    Except PyExc InsightItem := do
  let m ← domainItemToProto limits freshId item.1
  if Encodable item.1 item.2 then pure m else .error notEncodable

/-- The items the servicer goes through, each with its reading in the respelled text. -/
def briefItems (limits : Limits) (narration : String) : Except PyExc (List (Json × Json)) := do
  let items ← parseInsightsFromJson limits narration
  let respelled :=
    match parseInsightsFromJson limits (respell narration) with
    | .ok respelled => respelled
    | .error _ => items
  pure (items.mapIdx fun i item => (item, respelled.getD i item))

inductive StatusCode where
  | invalidArgument
  | internal
  | unknown

inductive BriefAnswer where
  | response (items : List InsightItem) (freshnessLabel : String)
  | rpcError (code : StatusCode) (text : String)

/-- `GetMorningBrief`, by what its provider gives. What the mapping raises, nothing catches. -/
def getMorningBrief (limits : Limits) (freshId workspaceId : String)
    (signalsProvider : Option (Except PyExc (List (Json × Json)))) : BriefAnswer :=
  if workspaceId = "" then
    .rpcError .invalidArgument "GetMorningBrief: workspace_id is required."
  else
    match signalsProvider with
    | none => .response [] "Phase-D: Morning-Brief synthesis not yet wired"
    | some (.error e) =>
      .rpcError .internal ("GetMorningBrief: signals_provider error: " ++ e.text)
    | some (.ok items) =>
      match items.mapM (itemToProto limits freshId) with
      | .ok protoItems => .response protoItems "Live"
      | .error e => .rpcError .unknown e.text

/-- A list of at most five items, a message for each of them, and a response that has them. -/
structure Answered (limits : Limits) (freshId narration : String) : Prop where
  list : ∃ items, insightsValue limits narration = .ok (.arr items) ∧ items.length ≤ 5
  mapped : ∀ items, briefItems limits narration = .ok items →
    ∀ item ∈ items, ∃ m, itemToProto limits freshId item = .ok m
  response : ∀ workspaceId, workspaceId ≠ "" → ∃ items,
    getMorningBrief limits freshId workspaceId (some (briefItems limits narration)) =
      .response items "Live"

/-! ### What the mapping takes -/

def IntRange (bits : Nat) (n : Int) : Prop := -2 ^ (bits - 1) ≤ n ∧ n < 2 ^ (bits - 1)

/-- `int()` takes the value for an integer of this many bits. -/
def IntWithin (bits : Nat) (j : Json) : Prop := ∃ n, pyInt j = .ok n ∧ IntRange bits n

/-- A float of at most one counts as a fraction of a hundred, every other value as it is. -/
def ConfidenceWithin (raw : Json) : Prop :=
  match raw with
  | .real (.finite x) =>
    if x.negative || x.units ≤ 2 ^ 1074 then
      ∃ y, Binary64.round x.negative (x.units * 100) (2 ^ 1074) = .finite y ∧
        IntRange 32 (roundInt y)
    else IntWithin 32 raw
  | .real (.infinite true) => False
  | _ => IntWithin 32 (pyOr raw (.int 0))

/-- The values that the mapping turns into texts. -/
def shownValues (item : Json) : List Json :=
  let d := (membersOf item).getD []
  getD (subObject d "recommendation") "action" (.str "no_action") :: getD d "risk" (.str "low") ::
    getD d "severity" (.str "info") :: messageTexts item

/-- The fields have types and ranges that the mapping can follow. -/
structure Mappable (limits : Limits) (item : Json) : Prop where
  shown : ∀ v ∈ shownValues item, v.depth ≤ limits.reprDepth
  revenue : IntWithin 64
    (getD (subObject ((membersOf item).getD []) "expected_impact") "revenue_mu" (.int 0))
  cm2 : IntWithin 64
    (getD (subObject ((membersOf item).getD []) "expected_impact") "cm2_mu" (.int 0))
  confidence : ConfidenceWithin (pyOr (get ((membersOf item).getD []) "confidence_display_pct")
    (getD ((membersOf item).getD []) "confidence" (.int 0)))

section

variable {α β : Type}

theorem exists_of_bind {x : Except PyExc α} {f : α → Except PyExc β} {a : α} (ha : x = .ok a)
    (h : ∃ b, f a = .ok b) : ∃ b, x >>= f = .ok b := by
  obtain ⟨b, hb⟩ := h
  exact ⟨b, bind_ok.mpr ⟨a, ha, hb⟩⟩

/-- A step succeeds after another when each does, where the second does not depend on what
the first gives. -/
theorem exists_bind_ok {x : Except PyExc α} {f : α → Except PyExc β} {post : Prop}
    (h : ∀ a, x = .ok a → ((∃ b, f a = .ok b) ↔ post)) :
    (∃ b, x >>= f = .ok b) ↔ (∃ a, x = .ok a) ∧ post := by
  constructor
  · rintro ⟨b, hb⟩
    obtain ⟨a, ha, hb⟩ := bind_ok.mp hb
    exact ⟨⟨a, ha⟩, (h a ha).mp ⟨b, hb⟩⟩
  · rintro ⟨⟨a, ha⟩, hpost⟩
    exact exists_of_bind ha ((h a ha).mpr hpost)

theorem exists_pure_ok {a : α} : (∃ b, (pure a : Except PyExc α) = .ok b) ↔ True :=
  iff_true_intro ⟨a, rfl⟩

theorem exists_protoInt_ok {bits : Nat} {n : Int} :
    (∃ m, protoInt bits n = .ok m) ↔ IntRange bits n := by
  unfold protoInt IntRange
  split
  · next h => exact iff_of_true ⟨_, rfl⟩ h
  · next h => exact iff_of_false (by rintro ⟨m, hm⟩; cases hm) h

theorem intWithin_iff {bits : Nat} {j : Json} {n : Int} (h : pyInt j = .ok n) :
    (∃ m, protoInt bits n = .ok m) ↔ IntWithin bits j := by
  rw [exists_protoInt_ok, IntWithin]
  constructor
  · intro hrange
    exact ⟨n, h, hrange⟩
  · rintro ⟨n', hn', hrange⟩
    rw [h] at hn'
    cases hn'
    exact hrange

theorem exists_mapM_ok {f : α → Except PyExc β} {items : List α} :
    (∃ messages, items.mapM f = .ok messages) ↔ ∀ item ∈ items, ∃ m, f item = .ok m := by
  induction items with
  | nil => simp [pure, Except.pure]
  | cons item items ih =>
    rw [List.mapM_cons, List.forall_mem_cons, ← ih]
    refine exists_bind_ok fun m _ => ?_
    exact (exists_bind_ok fun rest _ => exists_pure_ok).trans (and_iff_left trivial)

end

section

variable {limits : Limits} {freshId narration : String} {item : Json}

theorem exists_confidenceOf {d : List (String × Json)} :
    (∃ n, confidenceOf d = .ok n ∧ IntRange 32 n) ↔
      ConfidenceWithin (pyOr (get d "confidence_display_pct") (getD d "confidence" (.int 0))) := by
  unfold confidenceOf
  simp only
  generalize pyOr (get d "confidence_display_pct") (getD d "confidence" (.int 0)) = raw
  cases raw with
  | real x =>
    cases x with
    | finite x =>
      simp only [ConfidenceWithin]
      split
      · cases Binary64.round x.negative (x.units * 100) (2 ^ 1074) <;>
          simp [finiteOr, bind, Except.bind, pure, Except.pure]
      · exact Iff.rfl
    | infinite negative => cases negative <;> simp [ConfidenceWithin, IntWithin]
    | nan => exact Iff.rfl
  | _ => exact Iff.rfl

theorem exists_recommendationOf {d : List (String × Json)} :
    (∃ rec, recommendationOf limits d = .ok rec) ↔
      (getD (subObject d "recommendation") "action" (.str "no_action")).depth ≤ limits.reprDepth ∧
        (getD (subObject d "recommendation") "entity_id" (.str "")).depth ≤ limits.reprDepth ∧
          (getD (subObject d "recommendation") "rationale" (.str "")).depth ≤ limits.reprDepth := by
  unfold recommendationOf
  refine (exists_bind_ok fun action _ => ?_).trans (and_congr_left' pyStr_ok_iff)
  refine (exists_bind_ok fun entityId _ => ?_).trans (and_congr_left' pyStr_ok_iff)
  refine (exists_bind_ok fun rationale _ => exists_pure_ok).trans ?_
  rw [pyStr_ok_iff, and_true]

theorem exists_expectedImpactOf {d : List (String × Json)} :
    (∃ impact, expectedImpactOf limits d = .ok impact) ↔
      IntWithin 64 (getD (subObject d "expected_impact") "revenue_mu" (.int 0)) ∧
        IntWithin 64 (getD (subObject d "expected_impact") "cm2_mu" (.int 0)) ∧
          (getD (subObject d "expected_impact") "currency_code" (.str "INR")).depth ≤
              limits.reprDepth ∧
            (getD (subObject d "expected_impact") "impact_label" (.str "")).depth ≤
              limits.reprDepth := by
  unfold expectedImpactOf
  constructor
  · rintro ⟨impact, h⟩
    obtain ⟨revenue, hrevenue, h⟩ := bind_ok.mp h
    obtain ⟨cm2, hcm2, h⟩ := bind_ok.mp h
    obtain ⟨currency, hcurrency, h⟩ := bind_ok.mp h
    obtain ⟨label, hlabel, h⟩ := bind_ok.mp h
    obtain ⟨revenueMu, hrevenueMu, h⟩ := bind_ok.mp h
    obtain ⟨cm2Mu, hcm2Mu, h⟩ := bind_ok.mp h
    exact ⟨(intWithin_iff hrevenue).mp ⟨_, hrevenueMu⟩, (intWithin_iff hcm2).mp ⟨_, hcm2Mu⟩,
      pyStr_ok_iff.mp ⟨_, hcurrency⟩, pyStr_ok_iff.mp ⟨_, hlabel⟩⟩
  · rintro ⟨hrevenue, hcm2, hcurrency, hlabel⟩
    obtain ⟨revenue, hrevenueInt, -⟩ := id hrevenue
    obtain ⟨cm2, hcm2Int, -⟩ := id hcm2
    obtain ⟨revenueMu, hrevenueMu⟩ := (intWithin_iff hrevenueInt).mpr hrevenue
    obtain ⟨cm2Mu, hcm2Mu⟩ := (intWithin_iff hcm2Int).mpr hcm2
    obtain ⟨currency, hcurrency⟩ := pyStr_ok_iff.mpr hcurrency
    obtain ⟨label, hlabel⟩ := pyStr_ok_iff.mpr hlabel
    refine exists_of_bind hrevenueInt (exists_of_bind hcm2Int (exists_of_bind hcurrency ?_))
    exact exists_of_bind hlabel (exists_of_bind hrevenueMu (exists_of_bind hcm2Mu ⟨_, rfl⟩))

theorem exists_domainItemToProto :
    (∃ m, domainItemToProto limits freshId item = .ok m) ↔ Mappable limits item := by
  have hid : (pyOr (getD ((membersOf item).getD []) "insight_id" (.str "")) (.str freshId)).depth =
      (pyOr (getD ((membersOf item).getD []) "insight_id" (.str "")) (.str "")).depth := by
    unfold pyOr
    split <;> rfl
  unfold domainItemToProto
  constructor
  · rintro ⟨m, h⟩
    obtain ⟨recommendation, hrec, h⟩ := bind_ok.mp h
    obtain ⟨risk, hrisk, h⟩ := bind_ok.mp h
    obtain ⟨severity, hseverity, h⟩ := bind_ok.mp h
    obtain ⟨impact, himpact, h⟩ := bind_ok.mp h
    obtain ⟨confidence, hconfidence, h⟩ := bind_ok.mp h
    obtain ⟨insightId, hinsightId, h⟩ := bind_ok.mp h
    obtain ⟨title, htitle, h⟩ := bind_ok.mp h
    obtain ⟨summary, hsummary, h⟩ := bind_ok.mp h
    obtain ⟨detail, hdetail, h⟩ := bind_ok.mp h
    obtain ⟨pct, hpct, h⟩ := bind_ok.mp h
    obtain ⟨haction, hentity, hrationale⟩ := exists_recommendationOf.mp ⟨_, hrec⟩
    obtain ⟨hrevenue, hcm2, hcurrency, hlabel⟩ := exists_expectedImpactOf.mp ⟨_, himpact⟩
    refine ⟨?_, hrevenue, hcm2, ?_⟩
    · simp only [shownValues, messageTexts, List.forall_mem_cons]
      exact ⟨haction, pyStr_ok_iff.mp ⟨_, hrisk⟩, pyStr_ok_iff.mp ⟨_, hseverity⟩,
        hid ▸ pyStr_ok_iff.mp ⟨_, hinsightId⟩, pyStr_ok_iff.mp ⟨_, htitle⟩,
        pyStr_ok_iff.mp ⟨_, hsummary⟩, pyStr_ok_iff.mp ⟨_, hdetail⟩, hentity, hrationale,
        hcurrency, hlabel, List.forall_mem_nil _⟩
    · exact exists_confidenceOf.mp ⟨_, hconfidence, exists_protoInt_ok.mp ⟨_, hpct⟩⟩
  · rintro ⟨hshown, hrevenue, hcm2, hwithin⟩
    simp only [shownValues, messageTexts, List.forall_mem_cons] at hshown
    obtain ⟨haction, hrisk, hseverity, hinsightId, htitle, hsummary, hdetail, hentity, hrationale,
      hcurrency, hlabel, -⟩ := hshown
    obtain ⟨recommendation, hrec⟩ := exists_recommendationOf.mpr ⟨haction, hentity, hrationale⟩
    obtain ⟨risk, hrisk⟩ := pyStr_ok_iff.mpr hrisk
    obtain ⟨severity, hseverity⟩ := pyStr_ok_iff.mpr hseverity
    obtain ⟨impact, himpact⟩ := exists_expectedImpactOf.mpr ⟨hrevenue, hcm2, hcurrency, hlabel⟩
    obtain ⟨confidence, hconfidence, hrange⟩ := exists_confidenceOf.mpr hwithin
    obtain ⟨insightId, hinsightId⟩ := pyStr_ok_iff.mpr (hid ▸ hinsightId)
    obtain ⟨title, htitle⟩ := pyStr_ok_iff.mpr htitle
    obtain ⟨summary, hsummary⟩ := pyStr_ok_iff.mpr hsummary
    obtain ⟨detail, hdetail⟩ := pyStr_ok_iff.mpr hdetail
    obtain ⟨pct, hpct⟩ := exists_protoInt_ok.mpr hrange
    refine exists_of_bind hrec (exists_of_bind hrisk (exists_of_bind hseverity ?_))
    refine exists_of_bind himpact (exists_of_bind hconfidence (exists_of_bind hinsightId ?_))
    refine exists_of_bind htitle (exists_of_bind hsummary (exists_of_bind hdetail ?_))
    exact exists_of_bind hpct ⟨_, rfl⟩

theorem exists_itemToProto {pair : Json × Json} :
    (∃ m, itemToProto limits freshId pair = .ok m) ↔
      Mappable limits pair.1 ∧ Encodable pair.1 pair.2 := by
  unfold itemToProto
  refine (exists_bind_ok fun m _ => ?_).trans (and_congr_left' exists_domainItemToProto)
  split
  · next h => exact iff_of_true ⟨m, rfl⟩ h
  · next h => exact iff_of_false (by rintro ⟨m, hm⟩; cases hm) h

/-! ### What can be answered -/

/-- Each item that is read can be followed by the mapping, and no text of its message holds half
a surrogate pair. -/
def ItemsMappable (limits : Limits) (narration : String) : Prop :=
  ∀ items, briefItems limits narration = .ok items →
    ∀ item ∈ items, Mappable limits item.1 ∧ Encodable item.1 item.2

/-- The narration's JSON has types the code can follow. What is no JSON, or has no list of
insights for another reason than being an object or a text, counts for none. -/
def Answerable (limits : Limits) (narration : String) : Prop :=
  match Json.loads limits.dialect (stripMarkdownFence narration) with
  | .error (.malformed _) => True
  | .error _ => False
  | .ok data =>
    match membersOf data with
    | none => True
    | some members =>
      match getD members "insights" (.arr []) with
      | .arr _ => ItemsMappable limits narration
      | .str _ => False
      | .obj _ => False
      | _ => True

theorem getMorningBrief_response {workspaceId : String} (hworkspace : workspaceId ≠ "")
    {pairs : List (Json × Json)} :
    (∃ items, getMorningBrief limits freshId workspaceId (some (.ok pairs)) =
      .response items "Live") ↔ ∀ pair ∈ pairs, ∃ m, itemToProto limits freshId pair = .ok m := by
  rw [← exists_mapM_ok]
  simp only [getMorningBrief, if_neg hworkspace]
  cases pairs.mapM (itemToProto limits freshId) <;> simp

/-- Once a list is returned, the brief is answered exactly when each item of it is mapped. -/
theorem answered_of_list {items : List Json}
    (hvalue : insightsValue limits narration = .ok (.arr items)) (hlength : items.length ≤ 5) :
    Answered limits freshId narration ↔ ItemsMappable limits narration := by
  have hparse : parseInsightsFromJson limits narration = .ok items := by
    rw [parseInsightsFromJson_eq, hvalue]
    rfl
  obtain ⟨pairs, hpairs⟩ : ∃ pairs, briefItems limits narration = .ok pairs := by
    rw [briefItems, hparse]
    exact ⟨_, rfl⟩
  constructor
  · intro h pairs hpairs pair hpair
    exact exists_itemToProto.mp (h.mapped pairs hpairs pair hpair)
  · intro h
    have hmapped : ∀ pair ∈ pairs, ∃ m, itemToProto limits freshId pair = .ok m :=
      fun pair hpair => exists_itemToProto.mpr (h pairs hpairs pair hpair)
    refine ⟨⟨items, hvalue, hlength⟩, ?_, ?_⟩
    · intro pairs' hpairs' pair hpair
      rw [hpairs] at hpairs'
      cases hpairs'
      exact hmapped pair hpair
    · intro workspaceId hworkspace
      rw [hpairs]
      exact (getMorningBrief_response hworkspace).mpr hmapped

/-- Nothing is mapped where the list is empty. -/
theorem answered_of_empty (hvalue : insightsValue limits narration = .ok (.arr [])) :
    Answered limits freshId narration := by
  refine (answered_of_list hvalue (Nat.zero_le _)).mpr ?_
  intro pairs hpairs pair hpair
  rw [briefItems, parseInsightsFromJson_eq, hvalue] at hpairs
  cases hpairs
  cases hpair

theorem not_answered_of_value (hvalue : ∀ items, insightsValue limits narration ≠ .ok (.arr items)) :
    ¬ Answered limits freshId narration := by
  intro h
  obtain ⟨items, hitems, -⟩ := h.list
  exact hvalue items hitems

end

/-- What is returned, by what the text decodes to. -/
def valueOf : Except Json.Fault Json → Except PyExc Json
  | .error (.malformed _) => .ok (.arr [])
  | .error fault => .error (faultExc fault)
  | .ok data =>
    match membersOf data with
    | some members => sliceFive (getD members "insights" (.arr []))
    | none => .ok (.arr [])

theorem insightsValue_eq (limits : Limits) (narration : String) :
    insightsValue limits narration =
      valueOf (Json.loads limits.dialect (stripMarkdownFence narration)) := by
  unfold insightsValue jsonLoads
  generalize Json.loads limits.dialect (stripMarkdownFence narration) = loaded
  cases loaded with
  | error fault => cases fault <;> rfl
  | ok data => rfl

/-- A brief is answered exactly when the JSON of its narration has the types and ranges that
the code can follow. -/
theorem answered_iff (limits : Limits) (freshId narration : String) :
    Answered limits freshId narration ↔ Answerable limits narration := by
  have hvalue := insightsValue_eq limits narration
  unfold Answerable
  generalize Json.loads limits.dialect (stripMarkdownFence narration) = loaded at hvalue ⊢
  have hraised : ∀ e, insightsValue limits narration = .error e →
      ¬ Answered limits freshId narration := by
    intro e he
    refine not_answered_of_value fun items hitems => ?_
    rw [he] at hitems
    cases hitems
  cases loaded with
  | error fault =>
    cases fault with
    | malformed why => exact iff_of_true (answered_of_empty hvalue) trivial
    | tooDeep => exact iff_of_false (hraised _ hvalue) id
    | intTooLong => exact iff_of_false (hraised _ hvalue) id
  | ok data =>
    simp only [valueOf] at hvalue ⊢
    cases hmembers : membersOf data with
    | none =>
      rw [hmembers] at hvalue
      exact iff_of_true (answered_of_empty hvalue) trivial
    | some members =>
      rw [hmembers] at hvalue
      simp only at hvalue ⊢
      generalize getD members "insights" (.arr []) = insights at hvalue ⊢
      cases insights with
      | arr items => exact answered_of_list hvalue (List.length_take_le _ _)
      | str s =>
        refine iff_of_false (not_answered_of_value fun items hitems => ?_) id
        rw [hvalue] at hitems
        cases hitems
      | obj inner => exact iff_of_false (hraised _ hvalue) id
      | null | bool b | int n | real x => exact iff_of_true (answered_of_empty hvalue) trivial

/-! ### A confidence in words -/

def wordedConfidence : Json :=
  .obj [("insights", .arr [.obj [("confidence", .str "high")]])]

theorem load_wordedConfidence :
    Json.loads exampleInterpreter.limits.dialect
        (stripMarkdownFence (Json.dumps wordedConfidence)) = .ok wordedConfidence := by
  have hstrip : stripMarkdownFence (Json.dumps wordedConfidence) = Json.dumps wordedConfidence := by
    decide
  have hwf : wordedConfidence.WF exampleInterpreter.limits.dialect := by
    simp only [wordedConfidence, Json.WF, Json.WFItems, Json.WFMembers, and_true]
    decide
  rw [hstrip, Json.loads_dumps hwf (by decide)]

/-- The validator passes it, but no message can be made of it. -/
theorem worded_confidence_unanswered :
    Passes exampleInterpreter (Json.dumps wordedConfidence) [] ∧
      ¬ Answered exampleInterpreter.limits "id" (Json.dumps wordedConfidence) := by
  have hinsights : insightsOf exampleInterpreter.limits (Json.dumps wordedConfidence) =
      some [.obj [("confidence", .str "high")]] := by
    unfold insightsOf jsonLoads
    rw [load_wordedConfidence]
    rfl
  obtain ⟨hparse, hnarrative⟩ := parseInsightsFromJson_of_insightsOf hinsights
  have hblank : stripText (Json.dumps wordedConfidence).toList ≠ [] := by decide
  constructor
  · exact (passes_iff hblank).mpr ⟨_, hnarrative, structuralAllowed, rfl,
      readsOnly_of_blank (by decide)⟩
  · intro h
    obtain ⟨pairs, hpairs⟩ : ∃ pairs, briefItems exampleInterpreter.limits
        (Json.dumps wordedConfidence) = .ok pairs ∧
          ∃ respelled, (Json.obj [("confidence", .str "high")], respelled) ∈ pairs := by
      rw [briefItems, hparse]
      exact ⟨_, rfl, _, List.mem_cons_self⟩
    obtain ⟨respelled, hmem⟩ := hpairs.2
    have hmappable := (exists_itemToProto.mp (h.mapped pairs hpairs.1 _ hmem)).1
    obtain ⟨n, hn, -⟩ := hmappable.confidence
    cases hn

end BrainV2.Insight
