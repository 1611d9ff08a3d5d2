import BrainV2.Consent.EraseSubject
import BrainV2.Js.Values
import BrainV2.Lib.QuotedText

/-!
# The condition of an erasure as text

The commands of the eraser carry the subject in their text.

* `issueChDelete`, `countChRows`: the texts that are sent to ClickHouse;
* `readConjunction`: equations of columns and texts in single quotes, joined by `AND`;
* `documented`: the escapes that ClickHouse documents;
* `selectsSubject_iff`: a condition is read as that of its subject exactly when all backslashes in
  both texts stand for themselves.
-/

namespace BrainV2.Consent

open QuotedText (Escapes Harmless doubled scan Mode)

/-! ### The texts -/

/-- The text, or the error that is raised before anything is sent. -/
def issueChDelete (tableQualified : String) (subject : Subject) : Js.Result String :=
  if subject.workspaceId = "" ∨ subject.customerRef = "" then
    .error (.error ("[clickhouse-eraser] issueChDelete requires both workspaceId and customerRef. " ++
      "workspaceId=\"" ++ subject.workspaceId ++ "\" customerRef=\"" ++ subject.customerRef ++ "\""))
  else if subject.workspaceIdLength < 10 then
    .error (.error ("[clickhouse-eraser] workspaceId appears malformed (too short): \"" ++
      subject.workspaceId ++ "\""))
  else .ok ("ALTER TABLE " ++ tableQualified ++ " DELETE WHERE " ++ subjectCondition subject)

/-- What stands behind `WHERE` in the query that counts. -/
def countCondition (subject : Subject) : String := subjectCondition subject ++ "\n    "

def countChRows (tableQualified : String) (subject : Subject) (useFinal : Bool) : String :=
  let finalClause := if useFinal then "FINAL" else ""
  "\n      SELECT count(*) AS cnt\n      FROM " ++ tableQualified ++ " " ++ finalClause ++
    "\n      WHERE " ++ countCondition subject

/-! ### Reading a condition -/

def isBlank (c : Char) : Bool := c == ' ' || c == '\n' || c == '\t' || c == '\r'

def isNameChar (c : Char) : Bool := c.isAlphanum || c == '_'

def skipBlanks (text : List Char) : List Char := text.dropWhile isBlank

/-- A column and its value. -/
abbrev Equation := String × String

variable (e : Escapes)

/-- `name = 'text'`, and what follows it. -/
def readEquation (text : List Char) : Option (Equation × List Char) :=
  let name := (skipBlanks text).takeWhile isNameChar
  if name = [] then none
  else
    match skipBlanks ((skipBlanks text).dropWhile isNameChar) with
    | '=' :: rest =>
      match skipBlanks rest with
      | '\'' :: body =>
        (scan e .inside body).map fun (value, rest) =>
          ((String.ofList name, String.ofList value), rest)
      | _ => none
    | _ => none

/-- The word `AND`, and what follows it. -/
def readAnd (text : List Char) : Option (List Char) :=
  if (skipBlanks text).takeWhile isNameChar = "AND".toList then
    some ((skipBlanks text).dropWhile isNameChar)
  else none

/-- Equations joined by `AND` up to the end, at most as many as the bound. -/
def readEquations : Nat → List Char → Option (List Equation)
  | 0, _ => none
  | bound + 1, text =>
    match readEquation e text with
    | none => none
    | some (equation, rest) =>
      if skipBlanks rest = [] then some [equation]
      else
        match readAnd rest with
        | none => none
        | some rest' => (readEquations bound rest').map (equation :: ·)

def readConjunction (text : String) : Option (List Equation) :=
  readEquations e text.length text.toList

/-- The condition of this subject and nothing else. -/
def ReadsSubject (text : String) (subject : Subject) : Prop :=
  readConjunction e text =
    some [("workspace_id", subject.workspaceId), ("customer_ref", subject.customerRef)]

def escapeTable : List (Char × List Char) :=
  [('b', ['\x08']), ('f', ['\x0c']), ('r', ['\r']), ('n', ['\n']), ('t', ['\t']), ('0', ['\x00']),
    ('a', ['\x07']), ('v', ['\x0b']), ('e', ['\x1b']), ('N', []), ('\\', ['\\']), ('\'', ['\'']),
    ('"', ['"']), ('`', ['`']), ('/', ['/']), ('=', ['='])]

/-- The escapes that ClickHouse documents. Behind other characters a backslash is literal. -/
def documented : Escapes where
  decode c := if c.toNat < 32 then some [c] else escapeTable.lookup c
  quote := rfl
  backslash := rfl
  short := by
    intro c out h
    split at h
    · cases h
      exact Nat.le_refl 1
    · obtain ⟨front, rest, hsplit, -⟩ := List.lookup_eq_some_iff.mp h
      have hall : ∀ entry ∈ escapeTable, entry.2.length ≤ 1 := by decide
      exact hall (c, out) (hsplit ▸ List.mem_append_right _ List.mem_cons_self)

/-! ### Reading what was written -/

section

variable {e} {value rest : List Char}

/-- What an equation takes of a text. -/
theorem readEquation_cost {text : List Char} {name value : String}
    (h : readEquation e text = some ((name, value), rest)) :
    name.length + 2 + (doubled value.toList).length + 1 + rest.length ≤ text.length := by
  unfold readEquation at h
  simp only at h
  split at h
  · cases h
  split at h
  · next after hafter =>
    split at h
    · next body hbody =>
      obtain ⟨⟨v, r⟩, hscan, heq⟩ := Option.map_eq_some_iff.mp h
      cases heq
      have hcost := QuotedText.scan_cost hscan
      have hskip : ∀ text : List Char, (skipBlanks text).length ≤ text.length := fun text =>
        (List.dropWhile_sublist _).length_le
      have hnames := congrArg List.length
        (List.takeWhile_append_dropWhile (p := isNameChar) (l := skipBlanks text))
      have htext := hskip text
      have hrest := hskip ((skipBlanks text).dropWhile isNameChar)
      have hvalue := hskip after
      rw [hafter] at hrest
      rw [hbody] at hvalue
      simp only [List.length_append, List.length_cons, Mode.closing, String.length_ofList,
        String.toList_ofList] at *
      omega
    · cases h
  · cases h

theorem readAnd_cost {text rest : List Char} (h : readAnd text = some rest) :
    3 + rest.length ≤ text.length := by
  unfold readAnd at h
  split at h
  · next hword =>
    cases h
    have hskip := (List.dropWhile_sublist isBlank (l := text)).length_le
    have hnames := congrArg List.length
      (List.takeWhile_append_dropWhile (p := isNameChar) (l := skipBlanks text))
    rw [List.length_append, hword] at hnames
    have hthree : "AND".toList.length = 3 := rfl
    unfold skipBlanks at hnames ⊢
    omega
  · cases h

/-- Behind the first equation the text ends, or an `AND` stands there and the others. -/
theorem readEquations_cons {bound : Nat} {text : List Char} {equations : List Equation}
    (h : readEquations e (bound + 1) text = some equations) :
    ∃ equation rest, readEquation e text = some (equation, rest) ∧
      (skipBlanks rest = [] ∧ equations = [equation] ∨
        ∃ rest' more, readAnd rest = some rest' ∧ readEquations e bound rest' = some more ∧
          equations = equation :: more) := by
  rw [readEquations] at h
  cases hread : readEquation e text with
  | none => rw [hread] at h; cases h
  | some r =>
    obtain ⟨equation, rest⟩ := r
    rw [hread] at h
    simp only at h
    refine ⟨equation, rest, rfl, ?_⟩
    by_cases hend : skipBlanks rest = []
    · rw [if_pos hend] at h
      cases h
      exact Or.inl ⟨hend, rfl⟩
    · rw [if_neg hend] at h
      cases hand : readAnd rest with
      | none => rw [hand] at h; cases h
      | some rest' =>
        rw [hand] at h
        obtain ⟨more, hmore, heq⟩ := Option.map_eq_some_iff.mp h
        exact Or.inr ⟨rest', more, rfl, hmore, heq.symm⟩

theorem readEquations_ne_nil (bound : Nat) (text : List Char) :
    readEquations e bound text ≠ some [] := by
  cases bound with
  | zero => exact nofun
  | succ bound =>
    intro h
    obtain ⟨equation, rest, -, ⟨-, h⟩ | ⟨rest', more, -, -, h⟩⟩ := readEquations_cons h
    · cases h
    · cases h

theorem readEquations_single {bound : Nat} {text : List Char} {equation : Equation}
    (h : readEquations e (bound + 1) text = some [equation]) :
    ∃ rest, readEquation e text = some (equation, rest) ∧ skipBlanks rest = [] := by
  obtain ⟨first, rest, hread, ⟨hend, h⟩ | ⟨rest', more, -, hmore, h⟩⟩ := readEquations_cons h
  · cases h
    exact ⟨rest, hread, hend⟩
  · cases h
    exact absurd hmore (readEquations_ne_nil _ _)

theorem readEquations_more {bound : Nat} {text : List Char} {first second : Equation}
    {more : List Equation} (h : readEquations e (bound + 1) text = some (first :: second :: more)) :
    ∃ rest rest', readEquation e text = some (first, rest) ∧ readAnd rest = some rest' ∧
      readEquations e bound rest' = some (second :: more) := by
  obtain ⟨equation, rest, hread, ⟨-, h⟩ | ⟨rest', more', hand, hmore, h⟩⟩ := readEquations_cons h
  · cases h
  · cases h
    exact ⟨rest, rest', hread, hand, hmore⟩

/-! ### The condition of a subject -/

def firstColumn : List Char := "workspace_id = '".toList

def secondColumn : List Char := " AND customer_ref = '".toList

/-- What stands behind the first value. -/
def behindFirst (c trailing : List Char) : List Char :=
  secondColumn ++ (doubled c ++ '\'' :: trailing)

def conditionChars (w c trailing : List Char) : List Char :=
  firstColumn ++ (doubled w ++ '\'' :: behindFirst c trailing)

theorem map_scanned_iff (name : String) {s : QuotedText.Scanned} {w : String} :
    (s.map fun (value, rest) => ((name, String.ofList value), rest)) = some ((name, w), rest) ↔
      s = some (w.toList, rest) := by
  cases s with
  | none => simp
  | some r =>
    obtain ⟨value, rest'⟩ := r
    simp only [Option.map_some, Option.some.injEq, Prod.mk.injEq, true_and]
    constructor
    · rintro ⟨rfl, rfl⟩
      rw [String.toList_ofList]
      exact ⟨rfl, rfl⟩
    · rintro ⟨rfl, rfl⟩
      rw [String.ofList_toList]
      exact ⟨rfl, rfl⟩

theorem readEquation_first {w : String} (body : List Char) :
    readEquation e (firstColumn ++ body) = some (("workspace_id", w), rest) ↔
      scan e .inside body = some (w.toList, rest) :=
  map_scanned_iff "workspace_id"

theorem readAnd_second (body : List Char) :
    readAnd (secondColumn ++ body) = some (secondColumn.drop 4 ++ body) := rfl

theorem readEquation_second {c : String} (body : List Char) :
    readEquation e (secondColumn.drop 4 ++ body) = some (("customer_ref", c), rest) ↔
      scan e .inside body = some (c.toList, rest) :=
  map_scanned_iff "customer_ref"

theorem length_secondColumn : secondColumn.length = 21 := rfl

/-- No quote is near behind the first value. -/
theorem take_secondColumn (body : List Char) : '\'' ∉ (secondColumn ++ body).take 9 := by
  have htake : (secondColumn ++ body).take 9 = " AND cust".toList := rfl
  rw [htake]
  decide

theorem head_secondColumn (body : List Char) : (secondColumn ++ body).head? ≠ some '\'' := by
  have hhead : (secondColumn ++ body).head? = some ' ' := rfl
  rw [hhead]
  decide

theorem skip_secondColumn (body : List Char) : skipBlanks (secondColumn ++ body) ≠ [] := by
  have hskip : skipBlanks (secondColumn ++ body) = secondColumn.drop 1 ++ body := rfl
  rw [hskip]
  exact List.append_ne_nil_of_left_ne_nil (by decide) _

variable {w c : String} {trailing : List Char}

theorem harmless_of_readEquations {bound : Nat} (hblank : ∀ ch ∈ trailing, isBlank ch = true)
    (hshort : trailing.length ≤ 5)
    (h : readEquations e (bound + 2) (conditionChars w.toList c.toList trailing) =
      some [("workspace_id", w), ("customer_ref", c)]) :
    Harmless e w.toList ∧ Harmless e c.toList := by
  obtain ⟨rest, rest', hfirst, hand, hmore⟩ := readEquations_more h
  obtain ⟨last, hsecond, -⟩ := readEquations_single hmore
  have hcost := readEquation_cost hsecond
  have hcostAnd := readAnd_cost hand
  rw [conditionChars, readEquation_first] at hfirst
  have hname : "customer_ref".length = 12 := rfl
  have hrest : rest = behindFirst c.toList trailing := by
    apply QuotedText.rest_eq_of_scan (m := 9) hfirst
    · simp only [behindFirst, List.length_append, List.length_cons, length_secondColumn]
      omega
    · exact take_secondColumn _
  rw [hrest] at hfirst hand
  rw [behindFirst, readAnd_second] at hand
  rw [← Option.some.inj hand, readEquation_second] at hsecond
  have hlast : last = trailing := by
    apply QuotedText.rest_eq_of_scan (m := trailing.length) hsecond
    · omega
    · rw [List.take_length]
      exact fun hquote => absurd (hblank _ hquote) (by decide)
  rw [hlast] at hsecond
  exact ⟨QuotedText.harmless_of_scan hfirst, QuotedText.harmless_of_scan hsecond⟩

theorem readEquations_of_harmless {bound : Nat} (hblank : ∀ ch ∈ trailing, isBlank ch = true)
    (hw : Harmless e w.toList) (hc : Harmless e c.toList) :
    readEquations e (bound + 2) (conditionChars w.toList c.toList trailing) =
      some [("workspace_id", w), ("customer_ref", c)] := by
  have hquoteFree : trailing.head? ≠ some '\'' := fun hhead =>
    absurd (hblank _ (List.mem_of_mem_head? (Option.mem_def.mpr hhead))) (by decide)
  have hhead : (behindFirst c.toList trailing).head? ≠ some '\'' := head_secondColumn _
  have hscan := QuotedText.scan_doubled hw hhead
  have hfirst := (readEquation_first _).mpr hscan
  have hsecond := (readEquation_second _).mpr (QuotedText.scan_doubled hc hquoteFree)
  have hskip : skipBlanks trailing = [] := List.dropWhile_eq_nil_iff.mpr hblank
  have hmore : skipBlanks (behindFirst c.toList trailing) ≠ [] := skip_secondColumn _
  rw [readEquations, conditionChars, hfirst]
  simp only [if_neg hmore]
  rw [behindFirst, readAnd_second]
  simp only [readEquations, hsecond, if_pos hskip, Option.map_some]

theorem toList_quoted (s : String) :
    (quoted s).toList = '\'' :: (doubled s.toList ++ ['\'']) := by
  simp only [quoted, String.toList_append, String.toList_ofList]
  rfl

theorem toList_subjectCondition (subject : Subject) :
    (subjectCondition subject).toList =
      conditionChars subject.workspaceId.toList subject.customerRef.toList [] := by
  have hfirst : firstColumn = "workspace_id = ".toList ++ ['\''] := rfl
  have hsecond : secondColumn = " AND customer_ref = ".toList ++ ['\''] := rfl
  have htext : subjectCondition subject = "workspace_id = " ++ quoted subject.workspaceId ++
      " AND customer_ref = " ++ quoted subject.customerRef := rfl
  simp only [htext, String.toList_append, toList_quoted, conditionChars, behindFirst, hfirst,
    hsecond, List.append_assoc, List.cons_append, List.nil_append]

theorem toList_countCondition (subject : Subject) :
    (countCondition subject).toList =
      conditionChars subject.workspaceId.toList subject.customerRef.toList "\n    ".toList := by
  rw [countCondition, String.toList_append, toList_subjectCondition]
  simp [conditionChars, behindFirst]

theorem readConjunction_iff {text : String} (hblank : ∀ ch ∈ trailing, isBlank ch = true)
    (hshort : trailing.length ≤ 5) (htext : text.toList = conditionChars w.toList c.toList trailing) :
    readConjunction e text = some [("workspace_id", w), ("customer_ref", c)] ↔
      Harmless e w.toList ∧ Harmless e c.toList := by
  have hlength : 2 ≤ text.length := by
    have hfirst : firstColumn.length = 16 := rfl
    rw [← String.length_toList, htext, conditionChars, List.length_append, hfirst]
    omega
  obtain ⟨bound, hbound⟩ := Nat.exists_eq_add_of_le' hlength
  rw [readConjunction, hbound, htext]
  constructor
  · exact harmless_of_readEquations hblank hshort
  · rintro ⟨hw, hc⟩
    exact readEquations_of_harmless hblank hw hc

end

/-- The line ends behind the condition of the count. -/
theorem blank_trailing : ∀ ch ∈ "\n    ".toList, isBlank ch = true :=
  List.all_eq_true.mp (by decide)

/-- Both commands are sent, and select the subject and nothing else. -/
def SelectsSubject (tableQualified : String) (subject : Subject) : Prop :=
  (∃ condition,
    issueChDelete tableQualified subject =
      .ok ("ALTER TABLE " ++ tableQualified ++ " DELETE WHERE " ++ condition) ∧
    ReadsSubject e condition subject) ∧
  ReadsSubject e (countCondition subject) subject

theorem selectsSubject_iff (tableQualified : String) (subject : Subject)
    (hworkspace : 10 ≤ subject.workspaceIdLength) (hcustomer : subject.customerRef ≠ "") :
    SelectsSubject e tableQualified subject ↔
      Harmless e subject.workspaceId.toList ∧ Harmless e subject.customerRef.toList := by
  have hpresent : ¬ (subject.workspaceId = "" ∨ subject.customerRef = "") := by
    rintro (h | h)
    · rw [Subject.workspaceIdLength, h] at hworkspace
      exact absurd hworkspace (by decide)
    · exact hcustomer h
  have hsent : issueChDelete tableQualified subject =
      .ok ("ALTER TABLE " ++ tableQualified ++ " DELETE WHERE " ++ subjectCondition subject) := by
    rw [issueChDelete, if_neg hpresent, if_neg (by omega)]
  have hdelete : ReadsSubject e (subjectCondition subject) subject ↔
      Harmless e subject.workspaceId.toList ∧ Harmless e subject.customerRef.toList :=
    readConjunction_iff (by simp) (by simp) (toList_subjectCondition subject)
  have hcount : ReadsSubject e (countCondition subject) subject ↔
      Harmless e subject.workspaceId.toList ∧ Harmless e subject.customerRef.toList :=
    readConjunction_iff blank_trailing (by decide) (toList_countCondition subject)
  constructor
  · exact fun h => hcount.mp h.2
  · intro h
    exact ⟨⟨_, hsent, hdelete.mpr h⟩, hcount.mpr h⟩

/-- A backslash and a quote end the value of the second column, and an `OR` stands behind it. -/
theorem injected_not_selected : ¬ ∀ (tableQualified : String) (subject : Subject),
    10 ≤ subject.workspaceIdLength → subject.customerRef ≠ "" →
      SelectsSubject documented tableQualified subject := by
  intro h
  have hselects := h "brain.order_facts" ⟨"workspace-1", "\\' OR 1 = 1 --"⟩ (by decide) (by decide)
  have htext := toList_countCondition ⟨"workspace-1", "\\' OR 1 = 1 --"⟩
  have hcount := (readConjunction_iff blank_trailing (by decide) htext).mp hselects.2
  exact absurd hcount.2 (by decide)

/-- Quotes are no harm, and a backslash in front of a `d` neither. -/
theorem quoted_selected : SelectsSubject documented "brain.order_facts"
    ⟨"workspace-1", "o'brien\\d"⟩ := by
  exact (selectsSubject_iff documented "brain.order_facts" ⟨"workspace-1", "o'brien\\d"⟩ (by decide)
    (by decide)).mpr (by decide)

end BrainV2.Consent
