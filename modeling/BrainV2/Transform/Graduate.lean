import BrainV2.Transform.Registry

/-!
# Graduating a bronze row

`graduateRawEvent` decodes a payload, maps it and upserts the fact.

* `prepare`: everything up to the upsert; what fails here is decided by the
  payload alone;
* `graduateRawEvent`: `prepare`, then the database;
* `prepare_retryable_iff`: the payloads whose failure the consumer takes for a
  database error.
-/

namespace BrainV2.Transform

open Py

/-- The tables `_UPSERT_SQL_BY_TABLE` has a statement for. -/
def upsertTables : List String := ["connector_order_facts"]

structure GraduationResult where
  rawEventId : String
  workspaceId : String
  vendor : String
  eventType : String
  silverTable : Option String
  skipped : Bool
  success : Bool
  error : Option PyExc
deriving DecidableEq

/-- Only a `JSONDecodeError` is wrapped; the other failures of `json.loads` pass. -/
def decodePayload (limits : Limits) (payloadJson rawEventId : String) : Except PyExc Json :=
  match jsonLoads limits payloadJson with
  | .ok j => .ok j
  | .error e =>
    if e.cls = .jsonDecodeError ∨ e.cls = .typeError then
      .error ⟨.valueError, "graduate_raw_event: JSON decode failed for raw_event_id=" ++
        String.ofList (reprStr rawEventId) ++ ": " ++ e.text⟩
    else .error e

/-- `raw_payload.setdefault("workspace_id", workspace_id)`: only a dict has it. -/
def setWorkspace (workspaceId : String) : Json → Except PyExc RawPayload
  | .obj members => .ok (Dict.setDefault members "workspace_id" (.str workspaceId))
  | j => .error ⟨.attributeError,
      "'" ++ typeName j ++ "' object has no attribute 'setdefault'"⟩

/-- The stamps the caller puts on a mapped fact. -/
def stampFact (workspaceId rawEventId : String) (fact : SilverFact) : SilverFact :=
  Dict.set (Dict.set (Dict.set fact "workspace_id" (.str workspaceId))
    "raw_event_id" (.str rawEventId)) "provenance" (.str "transform_worker")

/-- The table and the row to upsert, or nothing to do. -/
def prepare (limits : Limits) (registry : TransformRegistry)
    (workspaceId vendor eventType payloadJson rawEventId : String) :
    Except PyExc (Option (String × SilverFact)) := do
  let decoded ← decodePayload limits payloadJson rawEventId
  let rawPayload ← setWorkspace workspaceId decoded
  let result ← registry.dispatch vendor eventType rawPayload rawEventId
  match result with
  | none => return none
  | some result =>
    if result.silverTable ∈ upsertTables then
      return some (result.silverTable, stampFact workspaceId rawEventId result.fact)
    else throw ⟨.valueError, "graduate_raw_event: no UPSERT SQL registered for table " ++
      String.ofList (reprStr result.silverTable) ++ " (add it to _UPSERT_SQL_BY_TABLE)"⟩

/-- Translate one bronze row and upsert it; `pg` answers the upsert. -/
def graduateRawEvent (limits : Limits) (registry : TransformRegistry)
    (pg : String → SilverFact → Except PyExc Unit)
    (workspaceId vendor eventType payloadJson rawEventId : String) :
    Except PyExc GraduationResult := do
  let plan ← prepare limits registry workspaceId vendor eventType payloadJson rawEventId
  match plan with
  | none => return ⟨rawEventId, workspaceId, vendor, eventType, none, true, true, none⟩
  | some (table, fact) =>
    pg table fact
    return ⟨rawEventId, workspaceId, vendor, eventType, some table, false, true, none⟩

section Payload

variable {limits : Limits}

theorem graduateRawEvent_eq (registry : TransformRegistry)
    (pg : String → SilverFact → Except PyExc Unit)
    (workspaceId vendor eventType payloadJson rawEventId : String) :
    graduateRawEvent limits registry pg workspaceId vendor eventType payloadJson rawEventId =
      match prepare limits registry workspaceId vendor eventType payloadJson rawEventId with
      | .error e => .error e
      | .ok none =>
        .ok ⟨rawEventId, workspaceId, vendor, eventType, none, true, true, none⟩
      | .ok (some (table, fact)) =>
        match pg table fact with
        | .error e => .error e
        | .ok () =>
          .ok ⟨rawEventId, workspaceId, vendor, eventType, some table, false, true, none⟩ := by
  unfold graduateRawEvent
  cases prepare limits registry workspaceId vendor eventType payloadJson rawEventId with
  | error e => rfl
  | ok plan =>
    cases plan with
    | none => rfl
    | some tf =>
      obtain ⟨table, fact⟩ := tf
      cases hpg : pg table fact <;> simp [bind, Except.bind, hpg, pure, Except.pure]

/-- A payload on which nothing but a `ValueError` can come before the upsert:
it does not nest too deep, and if it is JSON it is an object that the mapper,
where there is one, maps cleanly. -/
def FailsTerminally (limits : Limits) (workspaceId vendor eventType payloadJson : String) :
    Prop :=
  match Json.loads limits.dialect payloadJson with
  | .error .tooDeep => False
  | .error _ => True
  | .ok (.obj members) =>
    ((registry limits).get vendor eventType).isSome = true →
      MapsCleanly limits (Dict.setDefault members "workspace_id" (.str workspaceId))
  | .ok _ => False

theorem decodePayload_error {payloadJson rawEventId : String} {e : PyExc}
    (h : decodePayload limits payloadJson rawEventId = .error e) :
    e.isValueError = false ↔ Json.loads limits.dialect payloadJson = .error .tooDeep := by
  unfold decodePayload jsonLoads at h
  cases hload : Json.loads limits.dialect payloadJson with
  | ok j => simp [hload, Except.mapError] at h
  | error fault =>
    cases fault with
    | malformed why =>
      simp only [hload, Except.mapError, faultExc] at h
      cases h
      simp [PyExc.isValueError, ExcClass.isValueError]
    | tooDeep =>
      simp [hload, Except.mapError, faultExc] at h
      cases h
      simp [PyExc.isValueError, ExcClass.isValueError]
    | intTooLong =>
      simp [hload, Except.mapError, faultExc, digitLimitExc] at h
      cases h
      simp [PyExc.isValueError, ExcClass.isValueError]

theorem decodePayload_ok {payloadJson rawEventId : String} {j : Json}
    (h : Json.loads limits.dialect payloadJson = .ok j) :
    decodePayload limits payloadJson rawEventId = .ok j := by
  simp [decodePayload, jsonLoads, h, Except.mapError]

/-- Nothing comes of a payload without a mapper, or one its mapper has no fact for. -/
theorem dispatch_ok_none_iff {registry : TransformRegistry} {vendor eventType rawEventId : String}
    {raw : RawPayload} : registry.dispatch vendor eventType raw rawEventId = .ok none ↔
      registry.get vendor eventType = none ∨ ∃ table mapper,
        registry.get vendor eventType = some (table, mapper) ∧ mapper raw = .ok none := by
  unfold TransformRegistry.dispatch
  cases registry.get vendor eventType with
  | none => simp
  | some entry =>
    obtain ⟨table, mapper⟩ := entry
    rcases hmap : mapper raw with e | fact
    · simp [hmap]
    · cases fact <;> simp [hmap]

theorem prepare_ok_none_iff {registry : TransformRegistry}
    {workspaceId vendor eventType payloadJson rawEventId : String} :
    prepare limits registry workspaceId vendor eventType payloadJson rawEventId = .ok none ↔
      ∃ members, decodePayload limits payloadJson rawEventId = .ok (.obj members) ∧
        registry.dispatch vendor eventType
          (Dict.setDefault members "workspace_id" (.str workspaceId)) rawEventId = .ok none := by
  unfold prepare
  cases decodePayload limits payloadJson rawEventId with
  | error e => simp [bind, Except.bind]
  | ok j =>
    cases j with
    | obj members =>
      simp only [setWorkspace, bind, Except.bind, Except.ok.injEq, Json.obj.injEq,
        exists_eq_left']
      rcases registry.dispatch vendor eventType
        (Dict.setDefault members "workspace_id" (.str workspaceId)) rawEventId with e | result
      · simp
      · cases result with
        | none => simp [pure, Except.pure]
        | some result =>
          simp only [pure, Except.pure]
          split <;> simp [throw, throwThe, MonadExceptOf.throw]
    | _ => simp [setWorkspace, bind, Except.bind]

theorem dispatch_none {vendor eventType rawEventId : String} {raw : RawPayload}
    (h : (registry limits).get vendor eventType = none) :
    (registry limits).dispatch vendor eventType raw rawEventId = .ok none := by
  simp [TransformRegistry.dispatch, h]

theorem dispatch_some {vendor eventType rawEventId : String} {raw : RawPayload}
    (h : ((registry limits).get vendor eventType).isSome = true) :
    (registry limits).dispatch vendor eventType raw rawEventId =
      match shopifyOrderMapper limits raw with
      | .error e => .error e
      | .ok none => .ok none
      | .ok (some fact) =>
        .ok (some ⟨"connector_order_facts", fact, rawEventId, "transform_worker"⟩) := by
  obtain ⟨entry, hentry⟩ := Option.isSome_iff_exists.mp h
  have he := registry_get hentry
  subst he
  cases hmap : shopifyOrderMapper limits raw with
  | error e => simp [TransformRegistry.dispatch, hentry, hmap]
  | ok fact => cases fact <;> simp [TransformRegistry.dispatch, hentry, hmap]

section Prepare

variable {workspaceId vendor eventType payloadJson rawEventId : String}

theorem prepare_decode_error {e : PyExc}
    (h : decodePayload limits payloadJson rawEventId = .error e) :
    prepare limits (registry limits) workspaceId vendor eventType payloadJson rawEventId =
      .error e := by
  simp [prepare, h, bind, Except.bind]

theorem prepare_not_object (workspaceId vendor eventType rawEventId : String) {j : Json}
    (h : Json.loads limits.dialect payloadJson = .ok j) (hj : ∀ members, j ≠ .obj members) :
    ∃ e, prepare limits (registry limits) workspaceId vendor eventType payloadJson rawEventId =
      .error e ∧ e.cls = .attributeError := by
  refine ⟨⟨.attributeError, "'" ++ typeName j ++ "' object has no attribute 'setdefault'"⟩, ?_, rfl⟩
  have hset : setWorkspace workspaceId j = .error ⟨.attributeError,
      "'" ++ typeName j ++ "' object has no attribute 'setdefault'"⟩ := by
    cases j with
    | obj members => exact absurd rfl (hj members)
    | _ => rfl
  simp [prepare, decodePayload_ok h, hset, bind, Except.bind]

theorem prepare_unmapped {members : List (String × Json)}
    (h : Json.loads limits.dialect payloadJson = .ok (.obj members))
    (hget : (registry limits).get vendor eventType = none) :
    prepare limits (registry limits) workspaceId vendor eventType payloadJson rawEventId =
      .ok none := by
  simp [prepare, decodePayload_ok h, setWorkspace, dispatch_none hget, bind, Except.bind, pure,
    Except.pure]

theorem prepare_mapped {members : List (String × Json)}
    (h : Json.loads limits.dialect payloadJson = .ok (.obj members))
    (hget : ((registry limits).get vendor eventType).isSome = true) :
    prepare limits (registry limits) workspaceId vendor eventType payloadJson rawEventId =
      match shopifyOrderMapper limits
        (Dict.setDefault members "workspace_id" (.str workspaceId)) with
      | .error e => .error e
      | .ok none => .ok none
      | .ok (some fact) =>
        .ok (some ("connector_order_facts", stampFact workspaceId rawEventId fact)) := by
  simp only [prepare, decodePayload_ok h, setWorkspace, dispatch_some hget, bind, Except.bind]
  rcases shopifyOrderMapper limits
    (Dict.setDefault members "workspace_id" (.str workspaceId)) with e | fact
  · rfl
  · cases fact <;> rfl

/-- Before the upsert, something other than a `ValueError` is raised exactly on
the payloads that do not fail terminally. -/
theorem prepare_retryable_iff :
    (∃ e, prepare limits (registry limits) workspaceId vendor eventType payloadJson rawEventId =
        .error e ∧ e.isValueError = false) ↔
      ¬ FailsTerminally limits workspaceId vendor eventType payloadJson := by
  unfold FailsTerminally
  cases hload : Json.loads limits.dialect payloadJson with
  | error fault =>
    cases hdecode : decodePayload limits payloadJson rawEventId with
    | ok j =>
      unfold decodePayload jsonLoads at hdecode
      rw [hload] at hdecode
      simp only [Except.mapError] at hdecode
      split at hdecode <;> cases hdecode
    | error e =>
      have he := decodePayload_error hdecode
      rw [hload] at he
      rw [prepare_decode_error hdecode]
      cases fault <;> simp_all
  | ok j =>
    by_cases hobject : ∃ members, j = .obj members
    · obtain ⟨members, rfl⟩ := hobject
      cases hget : (registry limits).get vendor eventType with
      | none => simp [prepare_unmapped hload hget]
      | some entry =>
        have hsome : ((registry limits).get vendor eventType).isSome = true := by simp [hget]
        rw [prepare_mapped hload hsome]
        simp only [Option.isSome_some, forall_const]
        rw [← shopifyOrderMapper_retryable_iff]
        rcases shopifyOrderMapper limits
          (Dict.setDefault members "workspace_id" (.str workspaceId)) with e | fact
        · simp
        · cases fact <;> simp
    · have hj : ∀ members, j ≠ .obj members := fun members h => hobject ⟨members, h⟩
      obtain ⟨e, hprepare, hcls⟩ :=
        prepare_not_object workspaceId vendor eventType rawEventId hload hj
      rw [hprepare]
      cases j with
      | obj members => exact absurd rfl (hj members)
      | _ => simp [PyExc.isValueError, hcls, ExcClass.isValueError]

end Prepare

end Payload

end BrainV2.Transform
