import CommitStore.Text.Digits
set_option autoImplicit false

/-!
# Points in time

An instant is a number of microseconds since the start of 1970 in universal time. It is written in
the calendar form with a `T` between date and time, and with a fraction of six digits exactly when
it is no whole second. The document that a commit id is the hash of has the offset behind it, every
other text has not.

The two conversions between days and dates count years from March on, so that the leap day is the
last day of its year and the lengths of the months before it follow one linear rule.
-/

namespace CommitStore

/-- A point in time, in microseconds since the start of 1970. -/
structure Instant where
  micros : Int
  deriving DecidableEq, Repr, Inhabited

/-- A date of the calendar. -/
structure Date where
  year : Int
  month : Nat
  day : Nat
  deriving DecidableEq, Repr

namespace Date

/-! ## 1. Days and dates -/

/-- The number of days from the start of 1970 to a date. -/
def toDays (d : Date) : Int :=
  let year := if d.month ≤ 2 then d.year - 1 else d.year
  let era := year.fdiv 400
  let yearOfEra := year - era * 400
  let month : Int := if d.month ≤ 2 then d.month + 9 else d.month - 3
  let dayOfYear := (153 * month + 2) / 5 + d.day - 1
  let dayOfEra := yearOfEra * 365 + yearOfEra / 4 - yearOfEra / 100 + dayOfYear
  era * 146097 + dayOfEra - 719468

/-- The date that lies a number of days after the start of 1970. -/
def ofDays (days : Int) : Date :=
  -- Day zero of the shifted count is the first of March of the year zero.
  let shifted := days + 719468
  let era := shifted.fdiv 146097
  let dayOfEra := shifted - era * 146097
  let yearOfEra :=
    (dayOfEra - dayOfEra / 1460 + dayOfEra / 36524 - dayOfEra / 146096) / 365
  let dayOfYear := dayOfEra - (365 * yearOfEra + yearOfEra / 4 - yearOfEra / 100)
  let month := (5 * dayOfYear + 2) / 153
  let day := dayOfYear - (153 * month + 2) / 5 + 1
  let month := if month < 10 then month + 3 else month - 9
  let year := yearOfEra + era * 400
  ⟨if month ≤ 2 then year + 1 else year, month.toNat, day.toNat⟩

end Date

namespace Instant

open Text (padded)

/-! ## 2. Parts -/

/-- Microseconds in a second, and seconds in a day. -/
def microsPerSecond : Int := 1000000

@[inherit_doc microsPerSecond]
def secondsPerDay : Int := 86400

/-- The instant some whole seconds later. -/
def addSeconds (t : Instant) (seconds : Int) : Instant :=
  ⟨t.micros + seconds * microsPerSecond⟩

/-- The instant with the given date, second of the day and microsecond of the second. -/
def ofParts (date : Date) (second micro : Int) : Instant :=
  ⟨(date.toDays * secondsPerDay + second) * microsPerSecond + micro⟩

/-- The date of an instant. -/
def date (t : Instant) : Date :=
  Date.ofDays (t.micros.fdiv (microsPerSecond * secondsPerDay))

/-- The second of the day, and the microsecond of the second. -/
def secondOfDay (t : Instant) : Nat :=
  ((t.micros.fdiv microsPerSecond).fmod secondsPerDay).toNat

@[inherit_doc secondOfDay]
def microOfSecond (t : Instant) : Nat := (t.micros.fmod microsPerSecond).toNat

/-! ## 3. Text -/

/-- Year, month and day, joined by hyphens. -/
def dateText (t : Instant) : List Char :=
  let d := t.date
  padded 4 d.year.toNat ++ '-' :: padded 2 d.month ++ '-' :: padded 2 d.day

/-- Hour and minute, joined by a colon. -/
def minuteText (t : Instant) : List Char :=
  padded 2 (t.secondOfDay / 3600) ++ ':' :: padded 2 (t.secondOfDay / 60 % 60)

/-- The calendar form without an offset. -/
def toIso (t : Instant) : String :=
  String.ofList (t.dateText ++ 'T' :: t.minuteText ++ ':' :: padded 2 (t.secondOfDay % 60) ++
    (if t.microOfSecond = 0 then [] else '.' :: padded 6 t.microOfSecond))

/-- The calendar form with the offset of universal time. -/
def toIsoUtc (t : Instant) : String := t.toIso ++ "+00:00"

/-- Date and minute, the form of the history table. The year takes as many digits as it has. -/
def toMinute (t : Instant) : String :=
  String.ofList (t.dateText.dropWhile (· == '0') ++ ' ' :: t.minuteText)

/-! ## 4. Reading

A written instant is a date, any one character, a time of day, and perhaps an offset. Date and time
are written with or without marks between their parts, the date also by week and day of the week.
Minutes and seconds may be missing. -/

/-- The number that the first `width` characters of a text write, and what follows them; `none` if
one of them is no digit. -/
def digits? (width : Nat) (cs : List Char) : Option (Nat × List Char) :=
  let digits := cs.take width
  if digits.length = width ∧ digits.all Char.isDigit then
    some (digits.foldl (fun n c => 10 * n + (c.toNat - '0'.toNat)) 0, cs.drop width)
  else none

/-- The text behind a mark; `none` if it is not there although it is wanted. -/
def behind? (wanted : Bool) (mark : Char) (cs : List Char) : Option (List Char) :=
  if wanted then if cs.head? = some mark then some (cs.drop 1) else none else some cs

/-- The date of a day of a week; weeks and days count from one, and weeks begin on Mondays. The
first week of a year has the fourth of January in it. -/
def ofWeek (year : Int) (week day : Nat) : Date :=
  let fourth := Date.toDays ⟨year, 1, 4⟩
  -- The first day of 1970 was a Thursday.
  let monday := fourth - (fourth + 3).fmod 7
  Date.ofDays (monday + 7 * ((week : Int) - 1) + ((day : Int) - 1))

/-- The date that a text writes. -/
def date? (cs : List Char) : Option Date := do
  let (year, rest) ← digits? 4 cs
  let marked := rest.head? = some '-'
  match ← behind? marked '-' rest with
  | 'W' :: rest =>
    let (week, rest) ← digits? 2 rest
    if rest.isEmpty then return ofWeek year week 1
    let (day, rest) ← digits? 1 (← behind? marked '-' rest)
    if rest.isEmpty then return ofWeek year week day else none
  | rest =>
    let (month, rest) ← digits? 2 rest
    let (day, rest) ← digits? 2 (← behind? marked '-' rest)
    if rest.isEmpty then return ⟨year, month, day⟩ else none

/-- The number of characters that the date takes at the start of a text. Where a week could go on
with a day or end before the time, the time is taken to begin. -/
def dateLength (cs : List Char) : Nat :=
  let isDigitAt (index : Nat) : Bool := cs[index]?.any Char.isDigit
  if cs.length = 7 then 7
  else if cs[4]? = some '-' then
    if cs[5]? != some 'W' then 10
    else if cs[8]? = some '-' ∧ !isDigitAt 10 then 10
    else 8
  else if cs[4]? = some 'W' then
    let digits := ((cs.drop 7).takeWhile Char.isDigit).length
    if digits = 0 ∨ (2 ≤ digits ∧ digits % 2 = 1) then 7 else 8
  else 8

/-- The microseconds that a fraction of a second writes; digits beyond the sixth are dropped. -/
def micro? (cs : List Char) : Option Nat :=
  if cs.isEmpty || !cs.all Char.isDigit then none
  else (digits? 6 ((cs ++ List.replicate 6 '0').take 6)).map (·.1)

/-- The parts of a time, at most `parts` of them, with a fraction behind the last one: the units of
the last part that they stand for, and the microseconds. -/
def time? (marked : Bool) : (parts units : Nat) → List Char → Option (Nat × Nat)
  | 0, _, _ => none
  | parts + 1, units, cs => do
    let (part, rest) ← digits? 2 cs
    let units := 60 * units + part
    match rest with
    | [] => return (units * 60 ^ parts, 0)
    | '.' :: fraction | ',' :: fraction => return (units * 60 ^ parts, ← micro? fraction)
    | _ => time? marked parts units (← behind? marked ':' rest)

/-- The second of the day and the microsecond that a time of day writes. -/
def timeOfDay? (cs : List Char) : Option (Nat × Nat) := time? (cs[2]? = some ':') 3 0 cs

/-- Whether an offset begins with a character. -/
def beginsOffset (c : Char) : Bool := c == '+' || c == '-' || c == 'Z'

/-- Whether a text writes an offset, or none. -/
def isOffset (cs : List Char) : Bool :=
  cs.isEmpty || cs == ['Z'] || (cs.head? != some 'Z' && (timeOfDay? (cs.drop 1)).isSome)

/-- The instant that a text writes. An offset says which clock was read; the instant is what that
clock showed. -/
def ofIso? (s : String) : Option Instant := do
  let cs := s.toList
  let length := dateLength cs
  let date ← date? (cs.take length)
  let time := cs.drop (length + 1)
  if cs.length ≤ length then return ofParts date 0 0
  let (second, micro) ← timeOfDay? (time.takeWhile fun c => !beginsOffset c)
  if isOffset (time.dropWhile fun c => !beginsOffset c) then return ofParts date second micro
  else none

end Instant
end CommitStore
