import BrainV2.Py.Values
import Mathlib.Algebra.BigOperators.Group.List.Basic
import Mathlib.Order.Monotone.Basic

/-!
# `datetime`

* `Date`, `Time`, `UtcOffset`, `Datetime`: they carry their ranges;
* `Datetime.isoformat`, `fromIsoformat`: the ISO 8601 texts;
* `fromIsoformat_isoformat`: reading the text of a datetime gives it back;
* `Datetime.toInstant`: the moment it stands for, in microseconds.

The order of dates:

* the order of the ISO texts, as an order of the dates;
* `Date.toOrdinal_lt`: the count of days follows it;
* `Date.pred`: the day before.
-/

namespace BrainV2.Py

section Calendar

def isLeap (year : Nat) : Bool := year % 4 == 0 && (year % 100 != 0 || year % 400 == 0)

def daysInMonth (year month : Nat) : Nat :=
  if month = 2 then if isLeap year then 29 else 28
  else if month = 4 ∨ month = 6 ∨ month = 9 ∨ month = 11 then 30
  else 31

structure Date where
  year : Nat
  month : Nat
  day : Nat
  yearBound : 1 ≤ year ∧ year ≤ 9999
  monthBound : 1 ≤ month ∧ month ≤ 12
  dayBound : 1 ≤ day ∧ day ≤ daysInMonth year month
deriving DecidableEq

structure Time where
  hour : Nat
  minute : Nat
  second : Nat
  microsecond : Nat
  hourBound : hour < 24
  minuteBound : minute < 60
  secondBound : second < 60
  microsecondBound : microsecond < 1000000
deriving DecidableEq

/-- A date written out in the text. -/
abbrev Date.of (year month day : Nat)
    (h : decide ((1 ≤ year ∧ year ≤ 9999) ∧ (1 ≤ month ∧ month ≤ 12) ∧
      1 ≤ day ∧ day ≤ daysInMonth year month) = true := by exact Eq.refl true) : Date :=
  ⟨year, month, day, (of_decide_eq_true h).1, (of_decide_eq_true h).2.1,
    (of_decide_eq_true h).2.2⟩

abbrev Time.of (hour minute second microsecond : Nat)
    (h : decide (hour < 24 ∧ minute < 60 ∧ second < 60 ∧ microsecond < 1000000) = true := by
      exact Eq.refl true) : Time :=
  ⟨hour, minute, second, microsecond, (of_decide_eq_true h).1, (of_decide_eq_true h).2.1,
    (of_decide_eq_true h).2.2.1, (of_decide_eq_true h).2.2.2⟩

theorem bounds_2026 : 1 ≤ 2026 ∧ 2026 ≤ 9999 := by decide

theorem bounds_june : 1 ≤ 6 ∧ 6 ≤ 12 := by decide

/-- A day of June 2026. -/
abbrev Date.june (day : Nat)
    (h : decide (1 ≤ day ∧ day ≤ 30) = true := by exact Eq.refl true) : Date :=
  ⟨2026, 6, day, bounds_2026, bounds_june, of_decide_eq_true h⟩

def microsPerDay : Int := 86400000000

/-- Microseconds east of UTC, less than a day either way. -/
structure UtcOffset where
  micros : Int
  bound : -microsPerDay < micros ∧ micros < microsPerDay
deriving DecidableEq

def UtcOffset.utc : UtcOffset := ⟨0, by decide⟩

/-- A datetime, aware when it has an offset. -/
structure Datetime where
  date : Date
  time : Time
  offset : Option UtcOffset
deriving DecidableEq

def makeDate (year month day : Nat) : Except PyExc Date :=
  if hy : 1 ≤ year ∧ year ≤ 9999 then
    if hm : 1 ≤ month ∧ month ≤ 12 then
      if hd : 1 ≤ day ∧ day ≤ daysInMonth year month then .ok ⟨year, month, day, hy, hm, hd⟩
      else .error ⟨.valueError, "day is out of range for month"⟩
    else .error ⟨.valueError, "month must be in 1..12"⟩
  else .error ⟨.valueError, "year " ++ toString year ++ " is out of range"⟩

def makeTime (hour minute second microsecond : Nat) : Except PyExc Time :=
  if hh : hour < 24 then
    if hm : minute < 60 then
      if hs : second < 60 then
        if hu : microsecond < 1000000 then
          .ok ⟨hour, minute, second, microsecond, hh, hm, hs, hu⟩
        else .error ⟨.valueError, "microsecond must be in 0..999999"⟩
      else .error ⟨.valueError, "second must be in 0..59"⟩
    else .error ⟨.valueError, "minute must be in 0..59"⟩
  else .error ⟨.valueError, "hour must be in 0..23"⟩

def makeOffset (micros : Int) : Except PyExc UtcOffset :=
  if h : -microsPerDay < micros ∧ micros < microsPerDay then .ok ⟨micros, h⟩
  else .error ⟨.valueError, "offset must be a timedelta strictly between " ++
    "-timedelta(hours=24) and timedelta(hours=24)"⟩

def daysBeforeYear (year : Nat) : Nat :=
  let y := year - 1
  y * 365 + y / 4 - y / 100 + y / 400

def daysBeforeMonth (year month : Nat) : Nat :=
  ((List.range (month - 1)).map fun m => daysInMonth year (m + 1)).sum

/-- The proleptic Gregorian ordinal: the first of January of year 1 is day 1. -/
def ordinalOf (year month day : Nat) : Nat :=
  daysBeforeYear year + daysBeforeMonth year month + day

def Date.toOrdinal (d : Date) : Nat := ordinalOf d.year d.month d.day

/-- `_ord2ymd` -/
def ofOrdinal (ordinal : Nat) : Nat × Nat × Nat :=
  let n := ordinal - 1
  let n400 := n / 146097
  let n := n % 146097
  let n100 := n / 36524
  let n := n % 36524
  let n4 := n / 1461
  let n := n % 1461
  let n1 := n / 365
  let n := n % 365
  let year := n400 * 400 + 1 + n100 * 100 + n4 * 4 + n1
  if n1 = 4 ∨ n100 = 4 then (year - 1, 12, 31)
  else
    let estimate := (n + 50) / 32
    let month := if n < daysBeforeMonth year estimate then estimate - 1 else estimate
    (year, month, n - daysBeforeMonth year month + 1)

/-- Microseconds since the start of 1970 in UTC; a naive datetime is read as UTC. -/
def Datetime.toInstant (d : Datetime) : Int :=
  let seconds : Int := d.time.hour * 3600 + d.time.minute * 60 + d.time.second
  let days : Int := d.date.toOrdinal - 719163
  days * microsPerDay + seconds * 1000000 + d.time.microsecond -
    match d.offset with
    | some offset => offset.micros
    | none => 0

end Calendar

section Write

/-- The last digits of a number, as many as asked for. -/
def pad : Nat → Nat → List Char
  | 0, _ => []
  | width + 1, n => pad width (n / 10) ++ [Nat.digitChar (n % 10)]

def dateText (d : Date) : List Char :=
  pad 4 d.year ++ '-' :: (pad 2 d.month ++ '-' :: pad 2 d.day)

/-- The fraction of a second, left out when there is none. -/
def fractionText (micros : Nat) : List Char := if micros = 0 then [] else '.' :: pad 6 micros

def timeText (t : Time) : List Char :=
  pad 2 t.hour ++ ':' :: (pad 2 t.minute ++ ':' :: (pad 2 t.second ++ fractionText t.microsecond))

/-- The seconds of an offset, left out when there are none. -/
def offsetTail (second micros : Nat) : List Char :=
  if second = 0 ∧ micros = 0 then [] else ':' :: (pad 2 second ++ fractionText micros)

def offsetText (offset : UtcOffset) : List Char :=
  let micros := offset.micros.natAbs
  (if offset.micros < 0 then '-' else '+') :: (pad 2 (micros / 3600000000) ++
    ':' :: (pad 2 (micros / 60000000 % 60) ++
      offsetTail (micros / 1000000 % 60) (micros % 1000000)))

def zoneText : Option UtcOffset → List Char
  | some offset => offsetText offset
  | none => []

/-- `isoformat` -/
def Datetime.isoformat (d : Datetime) : String :=
  String.ofList (dateText d.date ++ 'T' :: (timeText d.time ++ zoneText d.offset))

end Write

section Read

/-- The first digits of a text, as many as asked for, and what follows them. -/
def takeDigits (width : Nat) (cs : List Char) : Option (Nat × List Char) :=
  if width ≤ cs.length ∧ (cs.take width).all Char.isDigit then
    some (Nat.ofDigitChars 10 (cs.take width) 0, cs.drop width)
  else none

/-- The length of the longest run of digits after the first seven characters. -/
def weekDigits (cs : List Char) : Nat := ((cs.drop 7).takeWhile Char.isDigit).length

/-- Where the date ends. -/
def separatorIndex (cs : List Char) : Option Nat :=
  if cs.length = 7 then some 7
  else if cs[4]? = some '-' then
    if cs[5]? = some 'W' then
      if cs[8]? = some '-' then
        if cs.length = 9 then none
        else if (cs[10]?.map Char.isDigit).getD false then some 8
        else some 10
      else some 8
    else some 10
  else if cs[4]? = some 'W' then
    -- the time comes in pairs of digits, so their number tells the weekday apart
    let index := 7 + weekDigits cs
    if index < 9 then some index
    else if index % 2 = 0 then some 7
    else some 8
  else some 8

/-- The weekday of a first of January, Monday being 0. -/
def firstWeekday (year : Nat) : Nat := (ordinalOf year 1 1 + 6) % 7

def week1Monday (year : Nat) : Nat :=
  let firstDay := ordinalOf year 1 1
  let monday := firstDay - firstWeekday year
  if firstWeekday year > 3 then monday + 7 else monday

/-- `_isoweek_to_gregorian` -/
def ofIsoWeek (year week day : Nat) : Option (Nat × Nat × Nat) :=
  let long := firstWeekday year = 3 ∨ firstWeekday year = 2 ∧ isLeap year = true
  if 1 ≤ year ∧ year ≤ 9999 ∧ 1 ≤ week ∧ (week < 53 ∨ week = 53 ∧ long) ∧ 1 ≤ day ∧ day ≤ 7 then
    some (ofOrdinal (week1Monday year + (week - 1) * 7 + (day - 1)))
  else none

/-- Drop a dash exactly when the date is written with dashes. -/
def skipDash (dashes : Bool) : List Char → Option (List Char)
  | '-' :: cs => if dashes then some cs else none
  | cs => if dashes then none else some cs

/-- `_parse_isoformat_date` -/
def parseDate (cs : List Char) : Option (Nat × Nat × Nat) := do
  let (year, rest) ← takeDigits 4 cs
  let dashes := rest.head? = some '-'
  let rest := if dashes then rest.drop 1 else rest
  if rest.head? = some 'W' then do
    let (week, rest) ← takeDigits 2 (rest.drop 1)
    if rest = [] then ofIsoWeek year week 1
    else do
      let rest ← skipDash dashes rest
      let (day, rest) ← takeDigits 1 rest
      if rest = [] then ofIsoWeek year week day else none
  else do
    let (month, rest) ← takeDigits 2 rest
    let rest ← skipDash dashes rest
    let (day, rest) ← takeDigits 2 rest
    if rest = [] then some (year, month, day) else none

/-- A fraction of a second, cut to microseconds. -/
def parseFraction : List Char → Option Nat
  | [] => some 0
  | c :: digits =>
    if (c = '.' ∨ c = ',') ∧ digits ≠ [] ∧ digits.all Char.isDigit then
      let kept := digits.take 6
      some (Nat.ofDigitChars 10 kept 0 * 10 ^ (6 - kept.length))
    else none

/-- `_parse_hh_mm_ss_ff`: pairs of digits, all or none of them after colons, and
a fraction after the third. -/
def parseClock (cs : List Char) : Option (Nat × Nat × Nat × Nat) := do
  let (hour, rest) ← takeDigits 2 cs
  let colons := rest.head? = some ':'
  let next := fun (rest : List Char) =>
    if colons then if rest.head? = some ':' then takeDigits 2 (rest.drop 1) else none
    else takeDigits 2 rest
  if rest = [] then some (hour, 0, 0, 0)
  else do
    let (minute, rest) ← next rest
    if rest = [] then some (hour, minute, 0, 0)
    else do
      let (second, rest) ← next rest
      let micros ← parseFraction rest
      some (hour, minute, second, micros)

def isZoneStart (c : Char) : Bool := c == '+' || c == '-' || c == 'Z'

/-- A zone: nothing, `Z`, or a signed clock reading. -/
def parseZone : List Char → Option (Except PyExc (Option UtcOffset))
  | [] => some (.ok none)
  | 'Z' :: rest => if rest = [] then some (.ok (some .utc)) else none
  | sign :: rest => do
    let (hour, minute, second, micros) ← parseClock rest
    let total : Int := ((hour * 60 + minute) * 60 + second) * 1000000 + micros
    some ((makeOffset (if sign = '-' then -total else total)).map some)

/-- `datetime.fromisoformat` of a text. -/
def fromIsoformat (text : String) : Except PyExc Datetime :=
  let cs := text.toList
  let invalid : Except PyExc Datetime :=
    .error ⟨.valueError, "Invalid isoformat string: " ++ String.ofList (reprStr text)⟩
  if cs.length < 7 then invalid
  else
    match separatorIndex cs with
    | none => invalid
    | some index =>
      match parseDate (cs.take index) with
      | none => invalid
      | some (year, month, day) =>
        let rest := cs.drop (index + 1)
        let clock := rest.takeWhile fun c => !isZoneStart c
        let zone := rest.dropWhile fun c => !isZoneStart c
        match if index < cs.length then parseClock clock else some (0, 0, 0, 0), parseZone zone with
        | some (hour, minute, second, micros), some offset => do
          let offset ← offset
          let date ← makeDate year month day
          let time ← makeTime hour minute second micros
          return ⟨date, time, offset⟩
        | _, _ => invalid

end Read

section RoundTrip

theorem length_pad (width n : Nat) : (pad width n).length = width := by
  induction width generalizing n with
  | zero => rfl
  | succ width ih => simp [pad, ih]

theorem isDigit_pad (width n : Nat) : ∀ c ∈ pad width n, c.isDigit = true := by
  induction width generalizing n with
  | zero => simp [pad]
  | succ width ih =>
    intro c hc
    rw [pad, List.mem_append, List.mem_singleton] at hc
    rcases hc with hc | rfl
    · exact ih _ c hc
    · simpa using Nat.mod_lt n (by decide)

theorem ofDigitChars_pad (width n : Nat) (h : n < 10 ^ width) :
    Nat.ofDigitChars 10 (pad width n) 0 = n := by
  induction width generalizing n with
  | zero => simp [pad]; omega
  | succ width ih =>
    have hrest : n / 10 < 10 ^ width := by
      rw [Nat.pow_succ] at h
      omega
    rw [pad, Nat.ofDigitChars_append, ih _ hrest,
      Nat.ofDigitChars_cons_digitChar_of_lt_ten (Nat.mod_lt n (by decide)), Nat.ofDigitChars_nil]
    omega

theorem takeDigits_pad {width n : Nat} (h : n < 10 ^ width) (rest : List Char) :
    takeDigits width (pad width n ++ rest) = some (n, rest) := by
  have htake : (pad width n ++ rest).take width = pad width n :=
    List.take_left' (length_pad width n)
  have hdrop : (pad width n ++ rest).drop width = rest := List.drop_left' (length_pad width n)
  have hall : (pad width n).all Char.isDigit = true := List.all_eq_true.mpr (isDigit_pad width n)
  have hlength : width ≤ (pad width n ++ rest).length := by
    rw [List.length_append, length_pad]
    omega
  rw [takeDigits, htake, hdrop, if_pos ⟨hlength, hall⟩, ofDigitChars_pad width n h]

theorem takeDigits_pad_end {width n : Nat} (h : n < 10 ^ width) :
    takeDigits width (pad width n) = some (n, []) := by
  simpa using takeDigits_pad h []

theorem head_pad {width n : Nat} {rest : List Char} {c : Char}
    (h : (pad (width + 1) n ++ rest).head? = some c) : c.isDigit = true := by
  rw [List.head?_append_of_ne_nil _ (by simp [pad])] at h
  exact isDigit_pad _ _ c (List.mem_of_head? h)

theorem daysInMonth_le (year month : Nat) : daysInMonth year month ≤ 31 := by
  unfold daysInMonth
  split
  · split <;> omega
  · split <;> omega

theorem Date.width (d : Date) : d.year < 10 ^ 4 ∧ d.month < 10 ^ 2 ∧ d.day < 10 ^ 2 := by
  have hy := d.yearBound
  have hm := d.monthBound
  have hd := d.dayBound
  have hmost := daysInMonth_le d.year d.month
  omega

theorem Time.width (t : Time) : t.hour < 10 ^ 2 ∧ t.minute < 10 ^ 2 ∧ t.second < 10 ^ 2 ∧
    t.microsecond < 10 ^ 6 := by
  have hh := t.hourBound
  have hm := t.minuteBound
  have hs := t.secondBound
  have hu := t.microsecondBound
  omega

theorem parseDate_dateText (d : Date) :
    parseDate (dateText d) = some (d.year, d.month, d.day) := by
  obtain ⟨hy, hm, hd⟩ := d.width
  have hweek : (pad 2 d.month ++ '-' :: pad 2 d.day).head? ≠ some 'W' := by
    intro h
    exact absurd (head_pad h) (by decide)
  simp only [parseDate, dateText, takeDigits_pad hy, Option.bind_eq_bind, Option.bind_some,
    List.head?_cons, decide_true, if_true, List.drop_succ_cons, List.drop_zero, if_neg hweek,
    takeDigits_pad hm, skipDash, takeDigits_pad_end hd]

theorem parseFraction_fractionText {micros : Nat} (h : micros < 10 ^ 6) :
    parseFraction (fractionText micros) = some micros := by
  unfold fractionText
  split
  · simp [parseFraction, *]
  · have hall := List.all_eq_true.mpr (isDigit_pad 6 micros)
    have hne : pad 6 micros ≠ [] := List.ne_nil_of_length_pos (by simp [length_pad])
    have htake : (pad 6 micros).take 6 = pad 6 micros :=
      List.take_of_length_le (length_pad 6 micros).le
    simp only [parseFraction, true_or, hne, ne_eq, not_false_eq_true, hall, and_self, if_true,
      htake, ofDigitChars_pad 6 micros h, length_pad, Nat.sub_self, pow_zero, mul_one]

/-- What `parseClock` makes of hours and minutes after a colon. -/
theorem parseClock_minutes {hour minute : Nat} (hh : hour < 10 ^ 2) (hm : minute < 10 ^ 2) :
    parseClock (pad 2 hour ++ ':' :: pad 2 minute) = some (hour, minute, 0, 0) := by
  simp [parseClock, takeDigits_pad hh, takeDigits_pad_end hm]

theorem parseClock_seconds {hour minute second micros : Nat} (hh : hour < 10 ^ 2)
    (hm : minute < 10 ^ 2) (hs : second < 10 ^ 2) (hu : micros < 10 ^ 6) :
    parseClock (pad 2 hour ++ ':' :: (pad 2 minute ++ ':' :: (pad 2 second ++
      fractionText micros))) = some (hour, minute, second, micros) := by
  simp [parseClock, takeDigits_pad hh, takeDigits_pad hm, takeDigits_pad hs,
    parseFraction_fractionText hu]

theorem parseClock_timeText (t : Time) :
    parseClock (timeText t) = some (t.hour, t.minute, t.second, t.microsecond) := by
  obtain ⟨hh, hm, hs, hu⟩ := t.width
  exact parseClock_seconds hh hm hs hu

/-- Hours, minutes, seconds and microseconds add up again. -/
theorem clock_sum (micros : Nat) :
    ((micros / 3600000000 * 60 + micros / 60000000 % 60) * 60 + micros / 1000000 % 60) * 1000000 +
      micros % 1000000 = micros := by
  omega

theorem makeOffset_micros (offset : UtcOffset) : makeOffset offset.micros = .ok offset := by
  rw [makeOffset, dif_pos offset.bound]

theorem parseZone_signed {sign : Char} {rest : List Char} {hour minute second micros : Nat}
    (hsign : sign ≠ 'Z') (hclock : parseClock rest = some (hour, minute, second, micros)) :
    parseZone (sign :: rest) = some ((makeOffset (if sign = '-'
      then -(((hour * 60 + minute) * 60 + second) * 1000000 + micros : Int)
      else ((hour * 60 + minute) * 60 + second) * 1000000 + micros)).map some) := by
  unfold parseZone
  split
  · contradiction
  · rename_i heq
    exact absurd (List.cons.inj heq).1 hsign
  · rename_i heq
    obtain ⟨rfl, rfl⟩ := List.cons.inj heq
    rw [hclock]
    rfl

theorem parseZone_offsetText (offset : UtcOffset) :
    parseZone (offsetText offset) = some (.ok (some offset)) := by
  have hbound := offset.bound
  have hday : microsPerDay = 86400000000 := rfl
  let n := offset.micros.natAbs
  have hh : n / 3600000000 < 10 ^ 2 := by omega
  have hm : n / 60000000 % 60 < 10 ^ 2 := by omega
  have hs : n / 1000000 % 60 < 10 ^ 2 := by omega
  have hu : n % 1000000 < 10 ^ 6 := by omega
  have hclock : parseClock (pad 2 (n / 3600000000) ++ ':' :: (pad 2 (n / 60000000 % 60) ++
      offsetTail (n / 1000000 % 60) (n % 1000000))) =
      some (n / 3600000000, n / 60000000 % 60, n / 1000000 % 60, n % 1000000) := by
    unfold offsetTail
    split
    · rename_i hzero
      rw [List.append_nil, hzero.1, hzero.2]
      exact parseClock_minutes hh hm
    · exact parseClock_seconds hh hm hs hu
  have hsum : (((n / 3600000000 : Nat) * 60 + (n / 60000000 % 60 : Nat)) * 60 +
      (n / 1000000 % 60 : Nat)) * 1000000 + (n % 1000000 : Nat) = (n : Int) := by
    exact_mod_cast clock_sum n
  have hzone : parseZone (offsetText offset) = some ((makeOffset offset.micros).map some) := by
    unfold offsetText
    by_cases hneg : offset.micros < 0
    · have habs : -(n : Int) = offset.micros := by omega
      rw [if_pos hneg, parseZone_signed (by decide) hclock, if_pos rfl, hsum, habs]
    · have habs : (n : Int) = offset.micros := by omega
      rw [if_neg hneg, parseZone_signed (by decide) hclock, if_neg (by decide), hsum, habs]
  rw [hzone, makeOffset_micros]
  rfl

theorem isZoneStart_of_isDigit {c : Char} (h : c.isDigit = true) : isZoneStart c = false := by
  simp only [isZoneStart, Bool.or_eq_false_iff, beq_eq_false_iff_ne]
  refine ⟨⟨?_, ?_⟩, ?_⟩ <;> (rintro rfl; exact absurd h (by decide))

theorem separatorIndex_dateText (d : Date) (rest : List Char) :
    separatorIndex (dateText d ++ 'T' :: rest) = some 10 := by
  have hlength : (dateText d ++ 'T' :: rest).length ≠ 7 := by
    simp [dateText, length_pad]
    omega
  have hdash : (dateText d ++ 'T' :: rest)[4]? = some '-' := by
    simp [dateText, pad]
  have hdigit : (dateText d ++ 'T' :: rest)[5]? ≠ some 'W' := by
    simp [dateText, pad]
  rw [separatorIndex, if_neg hlength, if_pos hdash, if_neg hdigit]

theorem isZoneStart_timeText (t : Time) : ∀ c ∈ timeText t, isZoneStart c = false := by
  have hpad : ∀ width n, ∀ c ∈ pad width n, isZoneStart c = false :=
    fun width n c hc => isZoneStart_of_isDigit (isDigit_pad width n c hc)
  have hfraction : ∀ c ∈ fractionText t.microsecond, isZoneStart c = false := by
    unfold fractionText
    split
    · simp
    · simpa [List.forall_mem_cons] using ⟨by decide, hpad 6 _⟩
  simp only [timeText, List.forall_mem_append, List.forall_mem_cons]
  exact ⟨hpad 2 _, by decide, hpad 2 _, by decide, hpad 2 _, hfraction⟩

theorem parseZone_zoneText (offset : Option UtcOffset) :
    parseZone (zoneText offset) = some (.ok offset) := by
  cases offset with
  | none => rfl
  | some offset => exact parseZone_offsetText offset

theorem head_zoneText (offset : Option UtcOffset) {c : Char}
    (h : (zoneText offset).head? = some c) : isZoneStart c = true := by
  cases offset with
  | none => cases h
  | some offset =>
    simp only [zoneText, offsetText, List.head?_cons, Option.some.injEq] at h
    split at h <;> (subst h; decide)

/-- The clock reading ends where the zone starts. -/
theorem split_zone (t : Time) (offset : Option UtcOffset) :
    (timeText t ++ zoneText offset).takeWhile (fun c => !isZoneStart c) = timeText t ∧
      (timeText t ++ zoneText offset).dropWhile (fun c => !isZoneStart c) = zoneText offset := by
  have hclock : ∀ c ∈ timeText t, (!isZoneStart c) = true := by
    intro c hc
    rw [isZoneStart_timeText t c hc]
    rfl
  rw [List.takeWhile_append_of_pos hclock, List.dropWhile_append_of_pos hclock]
  cases hzone : zoneText offset with
  | nil => simp
  | cons c cs =>
    have hstart : isZoneStart c = true := head_zoneText offset (by rw [hzone]; rfl)
    simp [hstart]

theorem makeDate_self (d : Date) : makeDate d.year d.month d.day = .ok d := by
  rw [makeDate, dif_pos d.yearBound, dif_pos d.monthBound, dif_pos d.dayBound]

theorem makeTime_self (t : Time) :
    makeTime t.hour t.minute t.second t.microsecond = .ok t := by
  rw [makeTime, dif_pos t.hourBound, dif_pos t.minuteBound, dif_pos t.secondBound,
    dif_pos t.microsecondBound]

/-- Reading the text of a datetime gives the datetime back. -/
theorem fromIsoformat_isoformat (d : Datetime) : fromIsoformat d.isoformat = .ok d := by
  have htext : d.isoformat.toList =
      dateText d.date ++ 'T' :: (timeText d.time ++ zoneText d.offset) := by
    simp [Datetime.isoformat]
  have hdate : (dateText d.date).length = 10 := by
    simp [dateText, length_pad]
  have htake : d.isoformat.toList.take 10 = dateText d.date := by
    rw [htext, List.take_left' hdate]
  have hdrop : d.isoformat.toList.drop 11 = timeText d.time ++ zoneText d.offset := by
    rw [htext, List.drop_append, hdate]
    simp [hdate]
  have hlength : 10 < d.isoformat.toList.length := by
    rw [htext, List.length_append, hdate, List.length_cons]
    omega
  have hindex : separatorIndex d.isoformat.toList = some 10 := by
    rw [htext, separatorIndex_dateText]
  obtain ⟨hclock, hzone⟩ := split_zone d.time d.offset
  have hshort : ¬ d.isoformat.toList.length < 7 := by omega
  simp only [fromIsoformat, hindex, htake, parseDate_dateText, hdrop, hclock, hzone, if_pos hlength,
    if_neg hshort, parseClock_timeText, parseZone_zoneText, makeDate_self, makeTime_self]
  rfl

end RoundTrip

/-- The digits of the ISO text, which are ordered as the dates are. -/
def Date.number (d : Date) : Nat := d.year * 10000 + d.month * 100 + d.day

theorem Date.number_injective : Function.Injective Date.number := by
  intro a b h
  have ha := a.monthBound
  have hb := b.monthBound
  have hda := a.dayBound.2.trans (daysInMonth_le a.year a.month)
  have hdb := b.dayBound.2.trans (daysInMonth_le b.year b.month)
  obtain ⟨year, month, day, _, _, _⟩ := a
  obtain ⟨year', month', day', _, _, _⟩ := b
  simp only [Date.number] at h ha hb hda hdb
  obtain rfl : year = year' := by omega
  obtain rfl : month = month' := by omega
  obtain rfl : day = day' := by omega
  rfl

instance : LE Date := ⟨fun a b => a.number ≤ b.number⟩

instance : LT Date := ⟨fun a b => a.number < b.number⟩

instance : LinearOrder Date where
  le_refl a := Nat.le_refl a.number
  le_trans _ _ _ hab hbc := Nat.le_trans hab hbc
  lt_iff_le_not_ge _ _ := Nat.lt_iff_le_and_not_ge
  le_antisymm _ _ hab hba := Date.number_injective (Nat.le_antisymm hab hba)
  le_total a b := Nat.le_total a.number b.number
  toDecidableLE a b := inferInstanceAs (Decidable (a.number ≤ b.number))
  toDecidableLT a b := inferInstanceAs (Decidable (a.number < b.number))
  toDecidableEq := inferInstance

/-! ### The count of days -/

theorem daysBeforeMonth_succ (year : Nat) {month : Nat} (h : 1 ≤ month) :
    daysBeforeMonth year (month + 1) = daysBeforeMonth year month + daysInMonth year month := by
  obtain ⟨m, rfl⟩ : ∃ m, month = m + 1 := ⟨month - 1, by omega⟩
  simp only [daysBeforeMonth, Nat.add_sub_cancel]
  rw [List.range_succ, List.map_append, List.sum_append]
  simp

theorem daysBeforeMonth_mono (year : Nat) {m m' : Nat} (hm : 1 ≤ m) (h : m ≤ m') :
    daysBeforeMonth year m ≤ daysBeforeMonth year m' := by
  induction h with
  | refl => exact Nat.le_refl _
  | step h ih =>
    rw [daysBeforeMonth_succ year (Nat.le_trans hm h)]
    omega

def daysInYear (year : Nat) : Nat := if isLeap year then 366 else 365

theorem daysBeforeMonth_year (year : Nat) : daysBeforeMonth year 13 = daysInYear year := by
  cases h : isLeap year <;> simp [daysBeforeMonth, daysInYear, List.range, List.range.loop, daysInMonth, h]

theorem daysBeforeYear_succ {year : Nat} (h : 1 ≤ year) :
    daysBeforeYear (year + 1) = daysBeforeYear year + daysInYear year := by
  obtain ⟨y, rfl⟩ : ∃ y, year = y + 1 := ⟨year - 1, by omega⟩
  have h4 := @Nat.succ_div y 4
  have h100 := @Nat.succ_div y 100
  have h400 := @Nat.succ_div y 400
  simp only [Nat.dvd_iff_mod_eq_zero] at h4 h100 h400
  simp only [daysBeforeYear, daysInYear, isLeap, Nat.add_sub_cancel, h4, h100, h400]
  have hle : y / 100 ≤ y / 4 := Nat.div_le_div_left (by decide) (by decide)
  by_cases d4 : (y + 1) % 4 = 0
  · by_cases d100 : (y + 1) % 100 = 0
    · by_cases d400 : (y + 1) % 400 = 0
      · simp [d4, d100, d400]
        omega
      · simp [d4, d100, d400]
        omega
    · have d400 : (y + 1) % 400 ≠ 0 := by omega
      simp [d4, d100, d400]
      omega
  · have d100 : (y + 1) % 100 ≠ 0 := by omega
    have d400 : (y + 1) % 400 ≠ 0 := by omega
    simp [d4, d100, d400]
    omega

theorem daysBeforeYear_mono {y y' : Nat} (hy : 1 ≤ y) (h : y ≤ y') :
    daysBeforeYear y ≤ daysBeforeYear y' := by
  induction h with
  | refl => exact Nat.le_refl _
  | step h ih =>
    rw [daysBeforeYear_succ (Nat.le_trans hy h)]
    omega

/-- Later dates have later days. -/
theorem Date.toOrdinal_lt {a b : Date} (h : a < b) : a.toOrdinal < b.toOrdinal := by
  have ha := daysBeforeMonth_succ a.year a.monthBound.1
  have hyear := daysBeforeYear_succ a.yearBound.1
  have hend := daysBeforeMonth_mono a.year (Nat.le_add_left 1 a.month) (Nat.succ_le_succ a.monthBound.2)
  rw [daysBeforeMonth_year] at hend
  have hda := a.dayBound.2
  have hdb := b.dayBound.1
  have hmb := b.monthBound
  have hma := a.monthBound
  have hla := hda.trans (daysInMonth_le a.year a.month)
  have hlb := b.dayBound.2.trans (daysInMonth_le b.year b.month)
  change a.number < b.number at h
  simp only [Date.number] at h
  simp only [Date.toOrdinal, ordinalOf]
  by_cases hyears : a.year = b.year
  · rw [← hyears] at h ⊢
    by_cases hmonths : a.month = b.month
    · rw [← hmonths] at h ⊢
      omega
    · have hlater : a.month + 1 ≤ b.month := by omega
      have := daysBeforeMonth_mono a.year (Nat.le_add_left 1 a.month) hlater
      omega
  · have hlater : a.year + 1 ≤ b.year := by omega
    have := daysBeforeYear_mono (Nat.le_add_left 1 a.year) hlater
    omega

theorem Date.toOrdinal_strictMono : StrictMono Date.toOrdinal := fun _ _ => Date.toOrdinal_lt

theorem one_le_daysInMonth (year month : Nat) : 1 ≤ daysInMonth year month := by
  unfold daysInMonth
  split
  · split <;> omega
  · split <;> omega

/-- The day before; the first day of all stays. -/
def Date.pred (d : Date) : Date :=
  if hday : 1 < d.day then
    ⟨d.year, d.month, d.day - 1, d.yearBound, d.monthBound, by have := d.dayBound; omega⟩
  else if hmonth : 1 < d.month then
    ⟨d.year, d.month - 1, daysInMonth d.year (d.month - 1), d.yearBound,
      by have := d.monthBound; omega, one_le_daysInMonth _ _, Nat.le_refl _⟩
  else if hyear : 1 < d.year then
    ⟨d.year - 1, 12, 31, by have := d.yearBound; omega, by decide,
      by simp [daysInMonth]⟩
  else d

theorem Date.toOrdinal_pred {d : Date} (h : 1 < d.toOrdinal) :
    d.pred.toOrdinal + 1 = d.toOrdinal := by
  have hday := d.dayBound.1
  have hmonth := d.monthBound.1
  have hyear := d.yearBound.1
  rw [pred]
  split
  · simp only [toOrdinal, ordinalOf]
    omega
  · next hfirst =>
    split
    · next hlater =>
      have hsucc := daysBeforeMonth_succ d.year (by omega : 1 ≤ d.month - 1)
      rw [Nat.sub_add_cancel hmonth] at hsucc
      simp only [toOrdinal, ordinalOf]
      omega
    · next hjanuary =>
      have hone : d.month = 1 := by omega
      split
      · next hafter =>
        have hsucc := daysBeforeYear_succ (by omega : 1 ≤ d.year - 1)
        have hmonths := daysBeforeMonth_year (d.year - 1)
        have hlast : daysBeforeMonth (d.year - 1) 13 = daysBeforeMonth (d.year - 1) 12 + 31 :=
          daysBeforeMonth_succ (d.year - 1) (by decide : 1 ≤ 12)
        have hnone : daysBeforeMonth d.year 1 = 0 := rfl
        rw [Nat.sub_add_cancel hyear] at hsucc
        simp only [toOrdinal, ordinalOf, hone]
        omega
      · next hstart =>
        have hyearOne : d.year = 1 := by omega
        have hnone : daysBeforeMonth 1 1 = 0 := rfl
        have hzero : daysBeforeYear 1 = 0 := rfl
        simp only [toOrdinal, ordinalOf, hyearOne, hone] at h
        omega

end BrainV2.Py
