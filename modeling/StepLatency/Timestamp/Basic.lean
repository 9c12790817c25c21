import StepLatency.Decimal.Digits
import StepLatency.Timestamp.Calendar

/-!
# Timestamps

A timestamp is a day, a second of that day and the nanoseconds within the second, in universal time.
In a leap second the nanoseconds go on past the second before it, up to two seconds in all.
-/

namespace StepLatency

structure Timestamp where
  day : Int
  second : Nat
  nanos : Nat
deriving DecidableEq, Repr

namespace Timestamp

open Decimal (padded)

def secondsPerDay : Nat := 86400

def nanosInSecond : Nat := 1000000000

/-- The timestamp of a clock that counts seconds from 1970 on. -/
def ofClock (seconds : Int) (nanos : Nat) : Timestamp :=
  ⟨seconds / secondsPerDay, (seconds % secondsPerDay).toNat, nanos⟩

/-- The same moment, told from a clock that is ahead by so many seconds. -/
def behind (t : Timestamp) (seconds : Int) : Timestamp :=
  let total : Int := t.second - seconds
  ⟨t.day + total / secondsPerDay, (total % secondsPerDay).toNat, t.nanos⟩

/-- A year of four digits or more; years that need a sign have one. -/
def yearText (year : Int) : String :=
  (if year < 0 then "-" else if 9999 < year then "+" else "") ++ padded 4 year.natAbs

/-- A fraction of a second in three, six or nine digits, as few as hold it. -/
def fractionText (nanos : Nat) : String :=
  if nanos = 0 then ""
  else if nanos % 1000000 = 0 then "." ++ padded 3 (nanos / 1000000)
  else if nanos % 1000 = 0 then "." ++ padded 6 (nanos / 1000)
  else "." ++ padded 9 nanos

def text (t : Timestamp) : String :=
  let date := Date.ofDayNumber t.day
  let leap := nanosInSecond ≤ t.nanos
  let second := t.second % 60 + if leap then 1 else 0
  let nanos := if leap then t.nanos - nanosInSecond else t.nanos
  s!"{yearText date.year}-{padded 2 date.month}-{padded 2 date.day}T" ++
    s!"{padded 2 (t.second / 3600)}:{padded 2 (t.second / 60 % 60)}:{padded 2 second}" ++
    fractionText nanos ++ "Z"

end Timestamp

end StepLatency
