import BrainV2.Insight.Display
import BrainV2.Insight.Extraction
import Mathlib.Data.List.DropRight

/-!
# The faithfulness validator

* `stripMarkdownFence`: the JSON of a narration, without what the model puts around it;
* `extractNarrativeText`: the fields of the insights that may make claims, one after the other;
* `validateFaithfulness`: every number of these is one of the allowed numbers;
* `passes_iff`: when a narration passes.
-/

namespace BrainV2.Insight

open Py

/-- What the interpreter brings: its limits, and the word characters outside ASCII. -/
structure Interpreter where
  limits : Limits
  others : WordChars

/-- `str.strip()` -/
def stripText (cs : List Char) : List Char := (cs.dropWhile isBlank).rdropWhile isBlank

def fence : List Char := ['`', '`', '`']

/-- Without an opening fence: its whole line, or the fence alone where there is one line. -/
def openFence (cs : List Char) : List Char :=
  if fence <+: cs then
    if '\n' ∈ cs then (cs.dropWhile (· != '\n')).drop 1 else cs.drop 3
  else cs

def closeFence (cs : List Char) : List Char :=
  let trimmed := cs.rdropWhile isBlank
  if fence <:+ trimmed then trimmed.take (trimmed.length - 3) else cs

/-- From the first opening brace to the last closing one, for a text in front of an object. -/
def sliceBraces (cs : List Char) : List Char :=
  if cs.head? = some '{' ∨ cs.head? = some '[' then cs
  else
    let sliced := (cs.dropWhile (· != '{')).rdropWhile (· != '}')
    if sliced = [] then cs else sliced

def stripMarkdownFence (text : String) : String :=
  String.ofList (sliceBraces (stripText (closeFence (openFence (stripText text.toList)))))

/-! ### The narrative -/

def narrativeFields : List String := ["title", "summary", "detail", "rationale"]

def strOf : Json → Option String
  | .str s => some s
  | _ => none

def membersOf : Json → Option (List (String × Json))
  | .obj members => some members
  | _ => none

/-- The texts of an insight that may make claims. -/
def narrativeParts (item : Json) : List String :=
  match membersOf item with
  | none => []
  | some members =>
    narrativeFields.filterMap (fun field => strOf (get members field)) ++
      ((membersOf (get members "recommendation")).bind fun rec => strOf (get rec "rationale")).toList

/-- `" ".join(parts)` -/
def joinParts (parts : List String) : List Char :=
  List.intercalate [' '] (parts.map String.toList)

/-- The text to hold against the signals, for a narration that is an object with a list of
insights. -/
def extractNarrativeText (limits : Limits) (narration : String) : Except PyExc (Option (List Char)) :=
  match jsonLoads limits (stripMarkdownFence narration) with
  | .error e => if e.isValueError then .ok none else .error e
  | .ok data =>
    match membersOf data with
    | none => .ok none
    | some members =>
      match getD members "insights" (.arr []) with
      | .arr items => .ok (some (joinParts (items.flatMap narrativeParts)))
      | _ => .ok none

/-! ### The validation -/

def offending (allowed numbers : List Int) : List String :=
  (numbers.filter (· ∉ allowed)).map toString

def faithful : FaithfulnessResult := ⟨true, []⟩

/-- The numbers of a text against the allowed ones. -/
def validateText (others : WordChars) (allowed : List Int) (text : List Char) :
    Except PyExc FaithfulnessResult :=
  if stripText text = [] then .ok faithful
  else do
    let extracted ← extractNumbers others text
    let offendingNumbers := offending allowed extracted
    pure ⟨offendingNumbers.length = 0, offendingNumbers⟩

def validateFaithfulness (py : Interpreter) (narration : String) (signals : List Signal) :
    Except PyExc FaithfulnessResult :=
  if stripText narration.toList = [] then .ok faithful
  else do
    let narrativeText ← extractNarrativeText py.limits narration
    let allowed ← allowedNumbers signals narrativeText.isSome
    validateText py.others allowed (narrativeText.getD narration.toList)

theorem stripText_eq_nil_iff {cs : List Char} :
    stripText cs = [] ↔ ∀ c ∈ cs, isBlank c = true := by
  rw [stripText, List.rdropWhile_eq_nil_iff]
  constructor
  · intro h c hc
    have hall : ∀ x ∈ cs.takeWhile isBlank ++ cs.dropWhile isBlank, isBlank x = true := by
      intro x hx
      cases List.mem_append.mp hx with
      | inl hx => exact List.mem_takeWhile_imp hx
      | inr hx => exact h x hx
    rw [List.takeWhile_append_dropWhile] at hall
    exact hall c hc
  · intro h c hc
    exact h c ((List.dropWhile_suffix isBlank).subset hc)

theorem no_numbers_of_blank {others : WordChars} {cs : List Char} (h : stripText cs = []) :
    extractNumbers others cs = .ok [] :=
  extractNumbers_of_no_digit fun c hc => isDecimal_of_isBlank (stripText_eq_nil_iff.mp h c hc)

/-! ### What passes -/

/-- Every number read from the text is one of these. -/
def ReadsOnly (others : WordChars) (allowed : List Int) (text : List Char) : Prop :=
  ∃ numbers, extractNumbers others text = .ok numbers ∧ ∀ n ∈ numbers, n ∈ allowed

variable {others : WordChars} {allowed : List Int} {text : List Char}

theorem ReadsOnly.mono {more : List Int} (h : ReadsOnly others allowed text)
    (hsub : ∀ n ∈ allowed, n ∈ more) : ReadsOnly others more text := by
  obtain ⟨numbers, hnumbers, hallowed⟩ := h
  exact ⟨numbers, hnumbers, fun n hn => hsub n (hallowed n hn)⟩

theorem readsOnly_of_blank (h : stripText text = []) : ReadsOnly others allowed text :=
  ⟨[], no_numbers_of_blank h, by simp⟩

theorem offending_eq_nil_iff {numbers : List Int} :
    offending allowed numbers = [] ↔ ∀ n ∈ numbers, n ∈ allowed := by
  simp [offending, List.filter_eq_nil_iff]

theorem validateText_ok_iff :
    (∃ result, validateText others allowed text = .ok result ∧ result.ok = true) ↔
      ReadsOnly others allowed text := by
  unfold validateText
  by_cases hblank : stripText text = []
  · rw [if_pos hblank]
    exact iff_of_true ⟨faithful, rfl, rfl⟩ (readsOnly_of_blank hblank)
  · rw [if_neg hblank]
    constructor
    · rintro ⟨result, hresult, hok⟩
      obtain ⟨numbers, hnumbers, hresult⟩ := bind_ok.mp hresult
      refine ⟨numbers, hnumbers, offending_eq_nil_iff.mp ?_⟩
      rw [← Except.ok.inj hresult] at hok
      simpa using hok
    · rintro ⟨numbers, hnumbers, hallowed⟩
      refine ⟨faithful, bind_ok.mpr ⟨numbers, hnumbers, ?_⟩, rfl⟩
      rw [offending_eq_nil_iff.mpr hallowed]
      rfl

/-- The validator passes the narration. -/
def Passes (py : Interpreter) (narration : String) (signals : List Signal) : Prop :=
  ∃ result, validateFaithfulness py narration signals = .ok result ∧ result.ok = true

theorem passes_iff {py : Interpreter} {narration : String} {signals : List Signal}
    (hblank : stripText narration.toList ≠ []) :
    Passes py narration signals ↔
      ∃ narrativeText, extractNarrativeText py.limits narration = .ok narrativeText ∧
        ∃ allowed, allowedNumbers signals narrativeText.isSome = .ok allowed ∧
          ReadsOnly py.others allowed (narrativeText.getD narration.toList) := by
  unfold Passes validateFaithfulness
  rw [if_neg hblank]
  constructor
  · rintro ⟨result, hresult, hok⟩
    obtain ⟨narrativeText, htext, hresult⟩ := bind_ok.mp hresult
    obtain ⟨allowed, hallowed, hresult⟩ := bind_ok.mp hresult
    exact ⟨narrativeText, htext, allowed, hallowed, validateText_ok_iff.mp ⟨result, hresult, hok⟩⟩
  · rintro ⟨narrativeText, htext, allowed, hallowed, hreads⟩
    obtain ⟨result, hresult, hok⟩ := validateText_ok_iff.mpr hreads
    exact ⟨result, bind_ok.mpr ⟨narrativeText, htext, bind_ok.mpr ⟨allowed, hallowed, hresult⟩⟩,
      hok⟩

/-- The signals that can be rounded for one narration can be for any. -/
theorem allowedNumbers_true {signals : List Signal} {isJson : Bool}
    (h : allowedNumbers signals isJson = .ok allowed) :
    ∃ more, allowedNumbers signals true = .ok more := by
  obtain ⟨tolerance, htolerance, -⟩ := bind_ok.mp h
  exact ⟨_, bind_ok.mpr ⟨tolerance, htolerance, rfl⟩⟩

end BrainV2.Insight
