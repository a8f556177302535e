import DocStore.Text.Blank
import DocStore.Text.Numeral

/-!
# Timestamps

A timestamp is a calendar day, a second of the day and nanoseconds, in UTC. It is read from two
forms, a date with a time and an offset (`2024-03-01T12:30:00.5+02:00`) and a bare date
(`2024-03-01`), and written in one: milliseconds and a `Z`. A leap second is the last second of
its minute with a full second or more of nanoseconds.
-/

namespace DocStore

/-- A day of the proleptic Gregorian calendar. -/
structure Date where
  year : Int
  month : Nat
  day : Nat
deriving DecidableEq, Repr

namespace Date

/-- Whether a year has 366 days. -/
def isLeapYear (year : Int) : Bool := year % 4 == 0 && (year % 100 != 0 || year % 400 == 0)

/-- The number of days of a month. -/
def daysInMonth (year : Int) (month : Nat) : Nat :=
  if month == 2 then if isLeapYear year then 29 else 28
  else if month == 4 || month == 6 || month == 9 || month == 11 then 30
  else 31

/-- Whether the month and the day exist. -/
def isValid (d : Date) : Bool :=
  1 ≤ d.month && d.month ≤ 12 && 1 ≤ d.day && d.day ≤ daysInMonth d.year d.month

/-- The day after. -/
def next (d : Date) : Date :=
  if d.day < daysInMonth d.year d.month then { d with day := d.day + 1 }
  else if d.month < 12 then { d with month := d.month + 1, day := 1 }
  else ⟨d.year + 1, 1, 1⟩

/-- The day before. -/
def previous (d : Date) : Date :=
  if 1 < d.day then { d with day := d.day - 1 }
  else if 1 < d.month then { d with month := d.month - 1, day := daysInMonth d.year (d.month - 1) }
  else ⟨d.year - 1, 12, 31⟩

/-- The day with these numbers, when it exists and its year is in the supported range. -/
def ofNumbers? (year : Int) (month day : Nat) : Option Date :=
  let d : Date := ⟨year, month, day⟩
  if -262143 ≤ year ∧ year ≤ 262142 ∧ d.isValid then some d else none

end Date

/-- How many nanoseconds make a second. -/
def nanosPerSecond : Nat := 1000000000

/-- How many nanoseconds make a millisecond. -/
def nanosPerMilli : Nat := 1000000

/-- An instant in UTC. -/
structure Timestamp where
  date : Date
  /-- Seconds since midnight. -/
  second : Nat
  /-- Nanoseconds; a full second or more in a leap second. -/
  nanos : Nat
deriving DecidableEq, Repr

namespace Timestamp

/-! ## Reading -/

open Text (digitsValue)

/-- Exactly two digits. -/
def twoDigits? : List Char → Option (Nat × List Char)
  | a :: b :: rest => if a.isDigit && b.isDigit then some (digitsValue [a, b], rest) else none
  | _ => none

/-- Exactly four digits. -/
def fourDigits? : List Char → Option (Nat × List Char)
  | a :: b :: c :: d :: rest =>
    if a.isDigit && b.isDigit && c.isDigit && d.isDigit then some (digitsValue [a, b, c, d], rest)
    else none
  | _ => none

/-- At least one digit, and no more than `max`. -/
def digitRun? (max : Nat) (cs : List Char) : Option (Nat × List Char) :=
  let ds := (cs.takeWhile Char.isDigit).take max
  if ds.isEmpty then none else some (digitsValue ds, cs.drop ds.length)

/-- The expected character. -/
def expect? (c : Char) : List Char → Option (List Char)
  | d :: rest => if d == c then some rest else none
  | [] => none

/-- An optional fraction in nanoseconds; digits past the ninth are dropped. -/
def fraction? : List Char → Option (Nat × List Char)
  | '.' :: rest =>
    let ds := rest.takeWhile Char.isDigit
    if ds.isEmpty then none
    else
      let kept := ds.take 9
      some (digitsValue kept * Nat.pow 10 (9 - kept.length), rest.drop ds.length)
  | rest => some (0, rest)

/-- An offset from UTC in seconds, less than a day. -/
def offset? (cs : List Char) : Option (Int × List Char) := do
  let signed (sign : Int) (cs : List Char) : Option (Int × List Char) := do
    let (hours, cs) ← twoDigits? cs
    let cs ← expect? ':' cs
    let (minutes, cs) ← twoDigits? cs
    if minutes < 60 ∧ hours < 24 then some (sign * (hours * 3600 + minutes * 60 : Nat), cs)
    else none
  match cs with
  | 'Z' :: rest => some (0, rest)
  | 'z' :: rest => some (0, rest)
  | '+' :: rest => signed 1 rest
  | '-' :: rest => signed (-1) rest
  | '\u2212' :: rest => signed (-1) rest
  | _ => none

/-- The instant of a local time with an offset. -/
def ofLocal (date : Date) (second nanos : Nat) (offset : Int) : Timestamp :=
  let s : Int := second - offset
  if s < 0 then ⟨date.previous, (s + 86400).toNat, nanos⟩
  else if 86400 ≤ s then ⟨date.next, (s - 86400).toNat, nanos⟩
  else ⟨date, s.toNat, nanos⟩

/-- A date, a time and an offset. -/
def ofDateTime? (cs : List Char) : Option Timestamp := do
  let (year, cs) ← fourDigits? cs
  let cs ← expect? '-' cs
  let (month, cs) ← twoDigits? cs
  let cs ← expect? '-' cs
  let (day, cs) ← twoDigits? cs
  let cs ← match cs with
    | 'T' :: rest => some rest
    | 't' :: rest => some rest
    | ' ' :: rest => some rest
    | _ => none
  let (hour, cs) ← twoDigits? cs
  let cs ← expect? ':' cs
  let (minute, cs) ← twoDigits? cs
  let cs ← expect? ':' cs
  let (second, cs) ← twoDigits? cs
  let (nanos, cs) ← fraction? cs
  let (offset, cs) ← offset? cs
  let date ← Date.ofNumbers? year month day
  if cs.isEmpty ∧ hour < 24 ∧ minute < 60 ∧ second ≤ 60 then
    let minutes := hour * 3600 + minute * 60
    if second = 60 then some (ofLocal date (minutes + 59) (nanos + nanosPerSecond) offset)
    else some (ofLocal date (minutes + second) nanos offset)
  else none

/-- A year: up to four digits, or any number of digits after a sign. -/
def signedYear? (cs : List Char) : Option (Int × List Char) :=
  match cs with
  | '-' :: rest => (digitRun? rest.length rest).map fun (n, rest) => (-(n : Int), rest)
  | '+' :: rest => (digitRun? rest.length rest).map fun (n, rest) => ((n : Int), rest)
  | rest => (digitRun? 4 rest).map fun (n, rest) => ((n : Int), rest)

/-- A bare date, at midnight; white space may stand before each number. -/
def ofDate? (cs : List Char) : Option Timestamp := do
  let (year, cs) ← signedYear? (cs.dropWhile Text.isBlank)
  let cs ← expect? '-' cs
  let (month, cs) ← digitRun? 2 (cs.dropWhile Text.isBlank)
  let cs ← expect? '-' cs
  let (day, cs) ← digitRun? 2 (cs.dropWhile Text.isBlank)
  let date ← Date.ofNumbers? year month day
  if cs.isEmpty then some ⟨date, 0, 0⟩ else none

/-- The instant that a text names. -/
def ofString? (s : String) : Option Timestamp :=
  (ofDateTime? s.toList).or (ofDate? s.toList)

/-! ## Writing -/

/-- The last `width` decimal digits of a number. -/
def padded : Nat → Nat → List Char
  | 0, _ => []
  | width + 1, n => padded width (n / 10) ++ [Nat.digitChar (n % 10)]

/-- The year in four digits, signed where it has more or is before year zero. -/
def yearText (year : Int) : List Char :=
  if 0 ≤ year ∧ year ≤ 9999 then padded 4 year.toNat
  else
    let width := max 4 (Nat.toDigits 10 year.natAbs).length
    (if year < 0 then '-' else '+') :: padded width year.natAbs

/-- The instant in milliseconds with a `Z`. -/
def text (t : Timestamp) : String :=
  let inLeapSecond := nanosPerSecond ≤ t.nanos
  let second := t.second % 60 + if inLeapSecond then 1 else 0
  let millis := (if inLeapSecond then t.nanos - nanosPerSecond else t.nanos) / nanosPerMilli
  String.ofList (yearText t.date.year ++ '-' :: padded 2 t.date.month ++ '-' :: padded 2 t.date.day
    ++ 'T' :: padded 2 (t.second / 3600) ++ ':' :: padded 2 (t.second / 60 % 60)
    ++ ':' :: padded 2 second ++ '.' :: padded 3 millis ++ ['Z'])

/-- The instant a number of milliseconds after the beginning of the year 1970. -/
def ofMillis (n : Nat) : Timestamp where
  date := Nat.repeat Date.next (n / 86400000) ⟨1970, 1, 1⟩
  second := n / 1000 % 86400
  nanos := n % 1000 * nanosPerMilli

end Timestamp

end DocStore
