import BrainV2.Lib.Json.Number

/-!
# Reading JSON texts

The reader takes a text one character at a time. Its state is the stack of
containers that are open and what it is in the middle of.

* `Text.step`: string literals, with escapes and surrogate pairs; half a
  pair reads as U+FFFD, the character that stands for no character;
* `step`, `finish`: the reader; a key that comes twice keeps its first place
  and its last value;
* `loads`: a whole text;
* `loads_wf`: every value that is returned is one the dialect can hold.
-/

namespace BrainV2.Json

section Text

inductive Lex where
  | plain
  | escape
  | hex (count value : Nat)

/-- A string literal read so far; `high` is the first half of a pair. -/
structure Text where
  rev : List Char
  high : Option Nat
  lex : Lex

def Text.start : Text := ⟨[], none, .plain⟩

def replacement : Char := Char.ofNat 0xFFFD

def isHigh (u : Nat) : Bool := 0xD800 ≤ u && u < 0xDC00

def isLow (u : Nat) : Bool := 0xDC00 ≤ u && u < 0xE000

def joinPair (high low : Nat) : Char :=
  Char.ofNat (0x10000 + (high - 0xD800) * 0x400 + (low - 0xDC00))

/-- The characters read, a half pair at the end included. -/
def Text.flushed (t : Text) : List Char :=
  match t.high with
  | none => t.rev
  | some _ => replacement :: t.rev

def Text.push (t : Text) (c : Char) : Text := ⟨c :: t.flushed, none, .plain⟩

/-- A code unit that no first half stands before. -/
def Text.loneUnit (rev : List Char) (u : Nat) : Text :=
  if isHigh u then ⟨rev, some u, .plain⟩
  else if isLow u then ⟨replacement :: rev, none, .plain⟩
  else ⟨Char.ofNat u :: rev, none, .plain⟩

def Text.codeUnit (t : Text) (u : Nat) : Text :=
  match t.high with
  | some h => if isLow u then ⟨joinPair h u :: t.rev, none, .plain⟩ else loneUnit t.flushed u
  | none => loneUnit t.rev u

def hexValue (c : Char) : Option Nat :=
  if '0' ≤ c ∧ c ≤ '9' then some (c.toNat - '0'.toNat)
  else if 'a' ≤ c ∧ c ≤ 'f' then some (c.toNat - 'a'.toNat + 10)
  else if 'A' ≤ c ∧ c ≤ 'F' then some (c.toNat - 'A'.toNat + 10)
  else none

def unescape (c : Char) : Option Char :=
  if c = '"' then some '"'
  else if c = '\\' then some '\\'
  else if c = '/' then some '/'
  else if c = 'b' then some '\x08'
  else if c = 'f' then some '\x0c'
  else if c = 'n' then some '\n'
  else if c = 'r' then some '\r'
  else if c = 't' then some '\t'
  else none

/-- One character of a string literal; the closing quote gives the string. -/
def Text.step (t : Text) (c : Char) : Except Fault (Text ⊕ String) :=
  match t.lex with
  | .plain =>
    if c = '"' then .ok (.inr (String.ofList t.flushed.reverse))
    else if c = '\\' then .ok (.inl ⟨t.rev, t.high, .escape⟩)
    else if c.toNat < 0x20 then .error (.malformed .controlCharacter)
    else .ok (.inl (t.push c))
  | .escape =>
    if c = 'u' then .ok (.inl ⟨t.rev, t.high, .hex 0 0⟩)
    else match unescape c with
      | some c' => .ok (.inl (t.push c'))
      | none => .error (.malformed .invalidEscape)
  | .hex count value =>
    match hexValue c with
    | none => .error (.malformed .invalidEscape)
    | some d =>
      let value' := value * 16 + d
      if count = 3 then .ok (.inl (t.codeUnit value'))
      else .ok (.inl ⟨t.rev, t.high, .hex (count + 1) value'⟩)

end Text

section Reader

/-- An open container and what it holds so far, an object with its latest key. -/
inductive Frame where
  | items (rev : List Json)
  | members (sofar : List (String × Json)) (key : String)

inductive Mode where
  | value
  | firstItem
  | firstKey
  | nextKey
  | colon
  | next
  | done (v : Json)
  | token (rev : List Char)
  | text (isKey : Bool) (t : Text)

structure State where
  stack : List Frame
  mode : Mode

def isWhite (c : Char) : Bool := c == ' ' || c == '\t' || c == '\n' || c == '\r'

/-- Hand a finished value to the innermost open container. -/
def deliver (stack : List Frame) (v : Json) : State :=
  match stack with
  | [] => ⟨[], .done v⟩
  | .items rev :: rest => ⟨.items (v :: rev) :: rest, .next⟩
  | .members sofar key :: rest => ⟨.members (Dict.set sofar key v) key :: rest, .next⟩

def enter (d : Dialect) (stack : List Frame) (frame : Frame) (mode : Mode) :
    Except Fault State :=
  if d.fits (stack.length + 1) then .ok ⟨frame :: stack, mode⟩ else .error .tooDeep

def startValue (d : Dialect) (stack : List Frame) (c : Char) : Except Fault State :=
  if c = '{' then enter d stack (.members [] "") .firstKey
  else if c = '[' then enter d stack (.items []) .firstItem
  else if c = '"' then .ok ⟨stack, .text false .start⟩
  else if isTokenChar c then .ok ⟨stack, .token [c]⟩
  else .error (.malformed .expectingValue)

def startKey (stack : List Frame) (c : Char) : Except Fault State :=
  if c = '"' then .ok ⟨stack, .text true .start⟩ else .error (.malformed .expectingKey)

/-- A character after a finished value: a comma or the end of its container. -/
def afterValue (s : State) (c : Char) : Except Fault State :=
  if isWhite c then .ok s
  else match s.mode, s.stack with
    | .next, .items rev :: rest =>
      if c = ',' then .ok ⟨.items rev :: rest, .value⟩
      else if c = ']' then .ok (deliver rest (.arr rev.reverse))
      else .error (.malformed .expectingComma)
    | .next, .members sofar key :: rest =>
      if c = ',' then .ok ⟨.members sofar key :: rest, .nextKey⟩
      else if c = '}' then .ok (deliver rest (.obj sofar))
      else .error (.malformed .expectingComma)
    | _, _ => .error (.malformed .extraData)

/-- A finished string is a value, or the key of the innermost object. -/
def endText (stack : List Frame) (isKey : Bool) (s : String) : State :=
  match isKey, stack with
  | true, .members sofar _ :: rest => ⟨.members sofar s :: rest, .colon⟩
  | _, _ => deliver stack (.str s)

def step (d : Dialect) (s : State) (c : Char) : Except Fault State :=
  match s.mode with
  | .value => if isWhite c then .ok s else startValue d s.stack c
  | .firstItem =>
    if isWhite c then .ok s
    else if c = ']' then .ok (deliver s.stack.tail (.arr []))
    else startValue d s.stack c
  | .firstKey =>
    if isWhite c then .ok s
    else if c = '}' then .ok (deliver s.stack.tail (.obj []))
    else startKey s.stack c
  | .nextKey => if isWhite c then .ok s else startKey s.stack c
  | .colon =>
    if isWhite c then .ok s
    else if c = ':' then .ok ⟨s.stack, .value⟩
    else .error (.malformed .expectingColon)
  | .next => afterValue s c
  | .done _ => afterValue s c
  | .token rev =>
    if isTokenChar c then .ok ⟨s.stack, .token (c :: rev)⟩
    else match readToken d rev.reverse with
      | .ok v => afterValue (deliver s.stack v) c
      | .error e => .error e
  | .text isKey t =>
    match t.step c with
    | .ok (.inl t') => .ok ⟨s.stack, .text isKey t'⟩
    | .ok (.inr read) => .ok (endText s.stack isKey read)
    | .error e => .error e

/-- What the end of the text makes of a state. -/
def finish (d : Dialect) (s : State) : Except Fault Json :=
  match s.mode with
  | .done v => .ok v
  | .token rev =>
    match readToken d rev.reverse with
    | .error e => .error e
    | .ok v => if s.stack.isEmpty then .ok v else .error (.malformed .expectingComma)
  | .value => .error (.malformed .expectingValue)
  | .firstItem => .error (.malformed .expectingValue)
  | .firstKey => .error (.malformed .expectingKey)
  | .nextKey => .error (.malformed .expectingKey)
  | .colon => .error (.malformed .expectingColon)
  | .next => .error (.malformed .expectingComma)
  | .text _ _ => .error (.malformed .unterminatedString)

/-- Read the rest of a text from a state. -/
def parse (d : Dialect) (s : State) : List Char → Except Fault Json
  | [] => finish d s
  | c :: cs =>
    match step d s c with
    | .ok s' => parse d s' cs
    | .error e => .error e

def loads (d : Dialect) (text : String) : Except Fault Json :=
  parse d ⟨[], .value⟩ text.toList

end Reader

section WellFormed

variable {d : Dialect}

/-- A value that may stand inside `level` open containers. -/
def Fits (d : Dialect) (level : Nat) (v : Json) : Prop :=
  v.WF d ∧ d.fits (v.depth + level) = true

def Frame.WF (d : Dialect) (level : Nat) : Frame → Prop
  | .items rev => ∀ v ∈ rev, Fits d level v
  | .members sofar _ => (Dict.keys sofar).Nodup ∧ ∀ kv ∈ sofar, Fits d level kv.2

def StackWF (d : Dialect) : List Frame → Prop
  | [] => True
  | f :: rest => d.fits (rest.length + 1) = true ∧ f.WF d (rest.length + 1) ∧ StackWF d rest

structure State.WF (d : Dialect) (s : State) : Prop where
  stack : StackWF d s.stack
  done : ∀ v, s.mode = .done v → Fits d 0 v
  opened : s.mode = .firstItem ∨ s.mode = .firstKey → s.stack ≠ []

theorem fits_mono {m n : Nat} (h : d.fits n = true) (hmn : m ≤ n) : d.fits m = true := by
  unfold Dialect.fits at *
  split <;> simp_all
  omega

theorem fits_zero_depth {v : Json} {stack : List Frame} (hwf : v.WF d) (hdepth : v.depth = 0)
    (hstack : StackWF d stack) : Fits d stack.length v := by
  refine ⟨hwf, ?_⟩
  cases stack with
  | nil =>
    rw [hdepth]
    unfold Dialect.fits
    split <;> simp
  | cons f rest =>
    rw [hdepth, Nat.zero_add]
    exact hstack.1

theorem mem_set_fits {level : Nat} {sofar : List (String × Json)} {key : String} {v : Json}
    (hsofar : ∀ kv ∈ sofar, Fits d level kv.2) (hv : Fits d level v) :
    ∀ kv ∈ Dict.set sofar key v, Fits d level kv.2 := by
  induction sofar with
  | nil =>
    intro kv hkv
    simp only [Dict.set, List.mem_singleton] at hkv
    exact hkv ▸ hv
  | cons kv' rest ih =>
    obtain ⟨k, w⟩ := kv'
    have hrest : ∀ kv ∈ rest, Fits d level kv.2 := fun kv h => hsofar kv (List.mem_cons_of_mem _ h)
    intro kv hkv
    unfold Dict.set at hkv
    split at hkv
    · rcases List.mem_cons.mp hkv with rfl | hkv
      · exact hv
      · exact hrest kv hkv
    · rcases List.mem_cons.mp hkv with rfl | hkv
      · exact hsofar _ List.mem_cons_self
      · exact ih hrest kv hkv

theorem deliver_wf {stack : List Frame} {v : Json} (hstack : StackWF d stack)
    (hv : Fits d stack.length v) : (deliver stack v).WF d := by
  cases stack with
  | nil =>
    refine ⟨trivial, fun w hw => ?_, by simp [deliver]⟩
    obtain rfl : v = w := by simpa [deliver] using hw
    exact hv
  | cons f rest =>
    obtain ⟨hfits, hf, hrest⟩ := hstack
    cases f with
    | items rev =>
      refine ⟨⟨hfits, ?_, hrest⟩, by simp [deliver], by simp [deliver]⟩
      intro w hw
      rcases List.mem_cons.mp hw with rfl | hw
      · exact hv
      · exact hf w hw
    | members sofar key =>
      refine ⟨⟨hfits, ?_, hrest⟩, by simp [deliver], by simp [deliver]⟩
      exact ⟨Dict.nodup_keys_set key v hf.1, mem_set_fits hf.2 hv⟩

theorem fits_depthItems {items : List Json} {level : Nat} (h : ∀ v ∈ items, Fits d level v)
    (hlevel : d.fits level = true) : d.fits (depthItems items + level) = true := by
  induction items with
  | nil => simpa [depthItems] using hlevel
  | cons v rest ih =>
    have hv := (h v List.mem_cons_self).2
    have hrest := ih fun w hw => h w (List.mem_cons_of_mem _ hw)
    rcases Nat.le_total v.depth (depthItems rest) with hle | hle
    · rwa [depthItems, Nat.max_eq_right hle]
    · rwa [depthItems, Nat.max_eq_left hle]

theorem depthMembers_eq (members : List (String × Json)) :
    depthMembers members = depthItems (members.map Prod.snd) := by
  induction members with
  | nil => rfl
  | cons kv rest ih => simp [depthMembers, depthItems, ih]

theorem close_items_wf {rest : List Frame} {rev : List Json}
    (h : StackWF d (.items rev :: rest)) : Fits d rest.length (.arr rev.reverse) := by
  obtain ⟨hfits, hf, -⟩ := h
  have hall : ∀ v ∈ rev.reverse, Fits d (rest.length + 1) v :=
    fun v hv => hf v (List.mem_reverse.mp hv)
  refine ⟨wfItems_iff.mpr fun v hv => (hall v hv).1, ?_⟩
  rw [depth, Nat.add_assoc, Nat.add_comm 1]
  exact fits_depthItems hall hfits

theorem close_members_wf {rest : List Frame} {sofar : List (String × Json)} {key : String}
    (h : StackWF d (.members sofar key :: rest)) : Fits d rest.length (.obj sofar) := by
  obtain ⟨hfits, hf, -⟩ := h
  refine ⟨⟨hf.1, wfMembers_iff.mpr fun kv hkv => (hf.2 kv hkv).1⟩, ?_⟩
  rw [depth, Nat.add_assoc, Nat.add_comm 1, depthMembers_eq]
  refine fits_depthItems (fun v hv => ?_) hfits
  obtain ⟨kv, hkv, rfl⟩ := List.mem_map.mp hv
  exact hf.2 kv hkv

theorem afterValue_wf {s s' : State} {c : Char} (hs : s.WF d)
    (h : afterValue s c = .ok s') : s'.WF d := by
  obtain ⟨stack, mode⟩ := s
  unfold afterValue at h
  split at h
  · cases h
    exact hs
  split at h
  · rename_i rev rest hmode hstack
    obtain rfl : mode = .next := hmode
    obtain rfl : stack = .items rev :: rest := hstack
    split at h
    · cases h
      exact ⟨hs.stack, by simp, by simp⟩
    split at h
    · cases h
      exact deliver_wf hs.stack.2.2 (close_items_wf hs.stack)
    · cases h
  · rename_i sofar key rest hmode hstack
    obtain rfl : mode = .next := hmode
    obtain rfl : stack = .members sofar key :: rest := hstack
    split at h
    · cases h
      exact ⟨hs.stack, by simp, by simp⟩
    split at h
    · cases h
      exact deliver_wf hs.stack.2.2 (close_members_wf hs.stack)
    · cases h
  · cases h

theorem enter_wf {stack : List Frame} {frame : Frame} {mode : Mode} {s' : State}
    (hstack : StackWF d stack) (hframe : frame.WF d (stack.length + 1))
    (hmode : ∀ v, mode ≠ .done v) (h : enter d stack frame mode = .ok s') : s'.WF d := by
  unfold enter at h
  split at h
  · rename_i hfits
    cases h
    exact ⟨⟨hfits, hframe, hstack⟩, fun v hv => absurd hv (hmode v), by simp⟩
  · cases h

theorem startValue_wf {stack : List Frame} {c : Char} {s' : State} (hstack : StackWF d stack)
    (h : startValue d stack c = .ok s') : s'.WF d := by
  have hmembers : (Frame.members [] "").WF d (stack.length + 1) := ⟨List.nodup_nil, by simp⟩
  have hitems : (Frame.items []).WF d (stack.length + 1) := by simp [Frame.WF]
  unfold startValue at h
  split at h
  · exact enter_wf hstack hmembers (by simp) h
  split at h
  · exact enter_wf hstack hitems (by simp) h
  split at h
  · cases h
    exact ⟨hstack, by simp, by simp⟩
  split at h
  · cases h
    exact ⟨hstack, by simp, by simp⟩
  · cases h

theorem startKey_wf {stack : List Frame} {c : Char} {s' : State} (hstack : StackWF d stack)
    (h : startKey stack c = .ok s') : s'.WF d := by
  unfold startKey at h
  split at h
  · cases h
    exact ⟨hstack, by simp, by simp⟩
  · cases h

theorem endText_wf {stack : List Frame} {isKey : Bool} {text : String}
    (hstack : StackWF d stack) : (endText stack isKey text).WF d := by
  unfold endText
  split
  · exact ⟨⟨hstack.1, hstack.2.1, hstack.2.2⟩, by simp, by simp⟩
  · exact deliver_wf hstack (fits_zero_depth trivial rfl hstack)

/-- One character keeps the state well formed. -/
theorem step_wf (hd : d.nonFinite = true) {s s' : State} {c : Char} (hs : s.WF d)
    (h : step d s c = .ok s') : s'.WF d := by
  obtain ⟨stack, mode⟩ := s
  have hstack : StackWF d stack := hs.stack
  cases mode with
  | value =>
    simp only [step] at h
    split at h
    · cases h
      exact hs
    · exact startValue_wf hstack h
  | firstItem =>
    simp only [step] at h
    split at h
    · cases h
      exact hs
    split at h
    · cases h
      cases stack with
      | nil => exact absurd rfl (hs.opened (Or.inl rfl))
      | cons f rest =>
        refine deliver_wf hstack.2.2 ⟨trivial, ?_⟩
        simpa [depth, depthItems, Nat.add_comm] using hstack.1
    · exact startValue_wf hstack h
  | firstKey =>
    simp only [step] at h
    split at h
    · cases h
      exact hs
    split at h
    · cases h
      cases stack with
      | nil => exact absurd rfl (hs.opened (Or.inr rfl))
      | cons f rest =>
        refine deliver_wf hstack.2.2 ⟨⟨List.nodup_nil, trivial⟩, ?_⟩
        simpa [depth, depthMembers, Nat.add_comm] using hstack.1
    · exact startKey_wf hstack h
  | nextKey =>
    simp only [step] at h
    split at h
    · cases h
      exact hs
    · exact startKey_wf hstack h
  | colon =>
    simp only [step] at h
    split at h
    · cases h
      exact hs
    split at h
    · cases h
      exact ⟨hstack, by simp, by simp⟩
    · cases h
  | next => exact afterValue_wf hs h
  | done v => exact afterValue_wf hs h
  | token rev =>
    simp only [step] at h
    split at h
    · cases h
      exact ⟨hstack, by simp, by simp⟩
    split at h
    · rename_i v hv
      obtain ⟨hwf, hdepth⟩ := readToken_wf hd hv
      exact afterValue_wf (deliver_wf hstack (fits_zero_depth hwf hdepth hstack)) h
    · cases h
  | text isKey t =>
    simp only [step] at h
    split at h
    · cases h
      exact ⟨hstack, by simp, by simp⟩
    · cases h
      exact endText_wf hstack
    · cases h

theorem finish_wf (hd : d.nonFinite = true) {s : State} {v : Json} (hs : s.WF d)
    (h : finish d s = .ok v) : v.WF d ∧ d.fits v.depth = true := by
  obtain ⟨stack, mode⟩ := s
  cases mode with
  | done w =>
    obtain rfl : w = v := by simpa [finish] using h
    exact hs.done w rfl
  | token rev =>
    simp only [finish] at h
    split at h
    · cases h
    · rename_i w hw
      split at h
      · cases h
        obtain ⟨hwf, hdepth⟩ := readToken_wf hd hw
        have hempty : StackWF d [] := trivial
        exact fits_zero_depth hwf hdepth hempty
      · cases h
  | _ => simp [finish] at h

theorem parse_wf (hd : d.nonFinite = true) {s : State} {cs : List Char} {v : Json} (hs : s.WF d)
    (h : parse d s cs = .ok v) : v.WF d ∧ d.fits v.depth = true := by
  induction cs generalizing s with
  | nil => exact finish_wf hd hs h
  | cons c cs ih =>
    simp only [parse] at h
    split at h
    · rename_i s' hstep
      exact ih (step_wf hd hs hstep) h
    · cases h

/-- What a reader returns is a value of its dialect. -/
theorem loads_wf (hd : d.nonFinite = true) {text : String} {v : Json}
    (h : loads d text = .ok v) : v.WF d ∧ d.fits v.depth = true := by
  have hstart : State.WF d ⟨[], .value⟩ := ⟨trivial, by simp, by simp⟩
  exact parse_wf hd hstart h

end WellFormed

end BrainV2.Json
