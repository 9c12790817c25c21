import StepLatency.Text.Blank
import StepLatency.Timestamp.Basic
import StepLatency.Timestamp.Fault

/-!
# Reading timestamps

A date, a time and an offset from universal time. Blanks may stand around every part, numbers need
no leading zeros, and the separator of date and time is a letter or a blank. Every number is checked
as it is read; the day of the month is checked at the end.
-/

namespace StepLatency.Timestamp

open Decimal (digitsValue)
open Text (isBlank trimLeft)

/-- A number of one digit or more, of which at most so many are read. -/
def readNumber (width : Nat) (cs : List Char) : Except Fault (Nat × List Char) :=
  let digits := (cs.take width).takeWhile Char.isDigit
  if cs.isEmpty then .error .tooShort
  else if digits.isEmpty then .error .invalid
  else .ok (digitsValue digits, cs.drop digits.length)

/-- A year of up to four digits, or a signed one of any length. -/
def readYear (cs : List Char) : Except Fault (Int × List Char) := do
  let (year, rest) ← match trimLeft cs with
    | '-' :: rest => (readNumber rest.length rest).map fun (n, rest) => (-(n : Int), rest)
    | '+' :: rest => (readNumber rest.length rest).map fun (n, rest) => ((n : Int), rest)
    | cs => (readNumber 4 cs).map fun (n, rest) => ((n : Int), rest)
  if -0x80000000 ≤ year ∧ year < 0x80000000 then return (year, rest) else throw .outOfRange

def readPart (low high : Nat) (cs : List Char) : Except Fault (Nat × List Char) := do
  let (n, rest) ← readNumber 2 (trimLeft cs)
  if low ≤ n ∧ n ≤ high then return (n, rest) else throw .outOfRange

def readMark (mark : Char) (cs : List Char) : Except Fault (List Char) :=
  match trimLeft cs with
  | [] => .error .tooShort
  | c :: rest => if c = mark then .ok rest else .error .invalid

def readSeparator : List Char → Except Fault (List Char)
  | [] => .error .tooShort
  | c :: rest => if c = 't' ∨ c = 'T' ∨ c = ' ' then .ok rest else .error .invalid

/-- A fraction of a second in nanoseconds; digits after the ninth are passed over. -/
def readFraction : List Char → Except Fault (Nat × List Char)
  | '.' :: cs => do
    let (value, rest) ← readNumber 9 cs
    let count := cs.length - rest.length
    return (value * Nat.pow 10 (9 - count), rest.dropWhile Char.isDigit)
  | cs => .ok (0, cs)

def readPair : List Char → Except Fault (Nat × List Char)
  | a :: b :: rest =>
    if a.isDigit && b.isDigit then .ok (digitsValue [a, b], rest) else .error .invalid
  | [c] => .error (if c.utf8Size < 2 then .tooShort else .invalid)
  | [] => .error .tooShort

/-- The size of an offset in seconds: hours and minutes, which blanks and colons may part. -/
def readShift (cs : List Char) : Except Fault (Nat × List Char) := do
  let (hours, rest) ← readPair cs
  let (minutes, rest) ← readPair (rest.dropWhile fun c => c == ':' || isBlank c)
  if 59 < minutes then throw .outOfRange
  return (3600 * hours + 60 * minutes, rest)

def minusSign : Char := '\u2212'

/-- An offset: the name of universal time or its letter, or a signed shift. -/
def readOffset (cs : List Char) : Except Fault (Int × List Char) :=
  if (cs.take 3).map Char.toUpper = ['U', 'T', 'C'] then .ok (0, cs.drop 3)
  else
    match cs with
    | [] => .error .tooShort
    | c :: rest =>
      if c = 'Z' ∨ c = 'z' then .ok (0, rest)
      else if c = '+' then (readShift rest).map fun (n, rest) => ((n : Int), rest)
      else if c = '-' ∨ c = minusSign then (readShift rest).map fun (n, rest) => (-(n : Int), rest)
      else .error .invalid

def isDay (day : Int) : Bool := Date.first.dayNumber ≤ day && day ≤ Date.last.dayNumber

/-- The moment at which clocks ahead by `offset` show the given date and time. -/
def assemble (date : Date) (second leapSecond nanos : Nat) (offset : Int) : Except Fault Timestamp := do
  if !date.isValid || !isDay date.dayNumber then throw .outOfRange
  if secondsPerDay ≤ offset.natAbs then throw .outOfRange
  let t := Timestamp.behind ⟨date.dayNumber, second, nanos + leapSecond * nanosInSecond⟩ offset
  if isDay t.day then return t else throw .impossible

def read (cs : List Char) : Except Fault Timestamp := do
  let (year, rest) ← readYear cs
  let (month, rest) ← readPart 1 12 (← readMark '-' rest)
  let (day, rest) ← readPart 1 31 (← readMark '-' rest)
  let (hour, rest) ← readPart 0 23 (← readSeparator rest)
  let (minute, rest) ← readPart 0 59 (← readMark ':' rest)
  let (second, rest) ← readPart 0 60 (← readMark ':' rest)
  let (nanos, rest) ← readFraction rest
  let (offset, rest) ← readOffset (trimLeft rest)
  if !(trimLeft rest).isEmpty then throw .tooLong
  assemble ⟨year, month, day⟩ (3600 * hour + 60 * minute + min second 59) (second - 59) nanos offset

end StepLatency.Timestamp
