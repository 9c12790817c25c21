import StepLatency.Decimal.Layout

/-!
# Latencies for the eye

A latency is told in whole microseconds, in milliseconds or in seconds, whichever its size calls
for; the larger units have two decimal places. The quotient is that of binary64 numbers.
-/

namespace StepLatency.Console

def microsPerMilli : Nat := 1000

def microsPerSecond : Nat := 1000000

def inUnits (us unit : Nat) : Binary64 := (Binary64.ofNat us).divMagnitude (Binary64.ofNat unit)

def microsText (us : UInt64) : String :=
  let n := us.toNat
  if n < microsPerMilli then s!"{n}us"
  else if n < microsPerSecond then (inUnits n microsPerMilli).toHundredths ++ "ms"
  else (inUnits n microsPerSecond).toHundredths ++ "s"

end StepLatency.Console
