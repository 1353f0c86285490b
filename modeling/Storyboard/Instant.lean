import Storyboard.Text.Blank
import Storyboard.Decimal.Reading

/-!
# Instants

Points in time with nanoseconds, read from and written as calendar dates with a time of day and an
offset. Reading is lenient about blanks and leading zeros, and takes every offset; writing always
gives universal time and the fewest of 0, 3, 6 or 9 places that are exact. A leap second is kept as
the last second of its minute with a fraction of one second or more.
-/

namespace Storyboard

/-- A point in time: seconds since the start of 1970 and nanoseconds after them. -/
structure Instant where
  seconds : Int
  nanos : Nat
  deriving DecidableEq, Inhabited

namespace Instant

/-- Whether one instant lies before another. -/
def before (a b : Instant) : Bool :=
  a.seconds < b.seconds || (a.seconds == b.seconds && a.nanos < b.nanos)

/-- Whether a year has a 29th of February. -/
def isLeapYear (year : Int) : Bool := year % 4 == 0 && (year % 100 != 0 || year % 400 == 0)

/-- How many days a month has. -/
def daysInMonth (year : Int) (month : Nat) : Nat :=
  if month = 2 then if isLeapYear year then 29 else 28
  else if month = 4 ∨ month = 6 ∨ month = 9 ∨ month = 11 then 30 else 31

/-- The days from the start of 1970 to a date. Years are counted from March, so that the leap day
comes last, in cycles of 400 years with 146097 days each. -/
def daysOfDate (year : Int) (month day : Nat) : Int :=
  let y := if month ≤ 2 then year - 1 else year
  let monthFromMarch : Int := (month + 9) % 12
  let yearOfCycle := y % 400
  let dayOfYear := (153 * monthFromMarch + 2) / 5 + day - 1
  y / 400 * 146097 + yearOfCycle * 365 + yearOfCycle / 4 - yearOfCycle / 100 + dayOfYear - 719468

/-- The year, month and day of a count of days from the start of 1970. -/
def dateOfDays (days : Int) : Int × Nat × Nat :=
  let z := days + 719468
  let dayOfCycle := z % 146097
  let yearOfCycle :=
    (dayOfCycle - dayOfCycle / 1460 + dayOfCycle / 36524 - dayOfCycle / 146096) / 365
  let dayOfYear := dayOfCycle - (365 * yearOfCycle + yearOfCycle / 4 - yearOfCycle / 100)
  let monthFromMarch := (5 * dayOfYear + 2) / 153
  let day := dayOfYear - (153 * monthFromMarch + 2) / 5 + 1
  let month := if monthFromMarch < 10 then monthFromMarch + 3 else monthFromMarch - 9
  let year := yearOfCycle + z / 146097 * 400
  (if month ≤ 2 then year + 1 else year, month.toNat, day.toNat)

/-- The years that dates may lie in. -/
def yearInRange (year : Int) : Bool := -262143 ≤ year && year ≤ 262142

/-- One to `width` digits after any blanks. -/
def readNumber (width : Nat) (cs : List Char) : Option (Nat × List Char) :=
  let cs := Text.dropBlank cs
  let digits := (cs.take width).takeWhile Decimal.isDigit
  if digits.isEmpty then none else some (Decimal.ofDigits digits, cs.drop digits.length)

/-- A year: up to four digits, or any number of them after a sign. -/
def readYear (cs : List Char) : Option (Int × List Char) :=
  let signed (sign : Int) (rest : List Char) : Option (Int × List Char) :=
    let (digits, rest) := Decimal.spanDigits rest
    if digits.isEmpty then none else some (sign * Decimal.ofDigits digits, rest)
  match Text.dropBlank cs with
  | '-' :: rest => signed (-1) rest
  | '+' :: rest => signed 1 rest
  | cs => (readNumber 4 cs).map fun (n, rest) => (n, rest)

/-- A given character after any blanks. -/
def readMark (mark : Char) (cs : List Char) : Option (List Char) :=
  match Text.dropBlank cs with
  | c :: rest => if c = mark then some rest else none
  | [] => none

/-- A fraction of a second in nanoseconds; digits after the ninth do not count. -/
def readFraction : List Char → Option (Nat × List Char)
  | '.' :: rest =>
    let (digits, rest) := Decimal.spanDigits rest
    if digits.isEmpty then none
    else
      let kept := digits.take 9
      some (Decimal.ofDigits kept * Nat.pow 10 (9 - kept.length), rest)
  | cs => some (0, cs)

/-- Two digits at the front of a text. -/
def readTwo : List Char → Option (Nat × List Char)
  | a :: b :: rest =>
    if Decimal.isDigit a && Decimal.isDigit b then
      some (Decimal.digitValue a * 10 + Decimal.digitValue b, rest)
    else none
  | _ => none

/-- Hours and minutes of an offset, in seconds. -/
def readOffsetTime (cs : List Char) : Option (Int × List Char) := do
  let (hours, rest) ← readTwo cs
  let (minutes, rest) ← readTwo (rest.dropWhile fun c => c == ':' || Text.isBlank c)
  if 60 ≤ minutes then none else some (hours * 3600 + minutes * 60, rest)

/-- An offset in seconds: a word or letter for universal time, or a sign with hours and minutes. -/
def readOffset (cs : List Char) : Option (Int × List Char) :=
  match Text.dropBlank cs with
  | 'Z' :: rest | 'z' :: rest => some (0, rest)
  | '+' :: rest => readOffsetTime rest
  | '-' :: rest | '\u2212' :: rest => (readOffsetTime rest).map fun (s, rest) => (-s, rest)
  | u :: t :: c :: rest =>
    if [u, t, c].map Char.toLower == ['u', 't', 'c'] then some (0, rest) else none
  | _ => none

/-- The instant of a date, a time of day and an offset; `none` where one of them does not exist. -/
def ofParts (year : Int) (month day hour minute second nanos : Nat) (offset : Int) :
    Option Instant :=
  let dateExists :=
    yearInRange year && 1 ≤ month && month ≤ 12 && 1 ≤ day && day ≤ daysInMonth year month
  let timeExists := hour ≤ 23 && minute ≤ 59 && second ≤ 60
  if dateExists && timeExists && offset.natAbs < 86400 then
    let (second, nanos) := if second = 60 then (59, nanos + 1000000000) else (second, nanos)
    let seconds := daysOfDate year month day * 86400 + hour * 3600 + minute * 60 + second - offset
    if yearInRange (dateOfDays (seconds / 86400)).1 then some ⟨seconds, nanos⟩ else none
  else none

/-- The instant that a whole text writes. -/
def parse (s : String) : Option Instant := do
  let (year, cs) ← readYear s.toList
  let (month, cs) ← readNumber 2 (← readMark '-' cs)
  let (day, cs) ← readNumber 2 (← readMark '-' cs)
  let cs ← match cs with
    | 'T' :: rest | 't' :: rest | ' ' :: rest => some rest
    | _ => none
  let (hour, cs) ← readNumber 2 cs
  let (minute, cs) ← readNumber 2 (← readMark ':' cs)
  let (second, cs) ← readNumber 2 (← readMark ':' cs)
  let (nanos, cs) ← readFraction cs
  let (offset, cs) ← readOffset cs
  if (Text.dropBlank cs).isEmpty then ofParts year month day hour minute second nanos offset
  else none

/-- A count with leading zeros up to a width. -/
def padded (width n : Nat) : String :=
  let digits := Nat.toDigits 10 n
  String.ofList (List.replicate (width - digits.length) '0' ++ digits)

/-- A year: four digits, or a sign and at least four where four do not do. -/
def yearText (year : Int) : String :=
  if 0 ≤ year ∧ year ≤ 9999 then padded 4 year.toNat
  else (if year < 0 then "-" else "+") ++ padded 4 year.natAbs

/-- The fraction of a second, with as few groups of three places as are exact. -/
def fractionText (nanos : Nat) : String :=
  if nanos = 0 then ""
  else if nanos % 1000000 = 0 then "." ++ padded 3 (nanos / 1000000)
  else if nanos % 1000 = 0 then "." ++ padded 6 (nanos / 1000)
  else "." ++ padded 9 nanos

/-- An instant in universal time. -/
def text (i : Instant) : String :=
  let (year, month, day) := dateOfDays (i.seconds / 86400)
  let time := (i.seconds % 86400).toNat
  let second := time % 60 + i.nanos / 1000000000
  yearText year ++ "-" ++ padded 2 month ++ "-" ++ padded 2 day ++ "T" ++ padded 2 (time / 3600)
    ++ ":" ++ padded 2 (time / 60 % 60) ++ ":" ++ padded 2 second
    ++ fractionText (i.nanos % 1000000000) ++ "Z"

end Instant

end Storyboard
