/-!
# Runs of decimal digits

The value of a run of digits, and numbers written with a least number of digits.
-/

namespace StepLatency.Decimal

def digitValue? (c : Char) : Option Nat := if c.isDigit then some (c.toNat - '0'.toNat) else none

def appendDigit (value : Nat) (c : Char) : Nat := 10 * value + (c.toNat - '0'.toNat)

def digitsValue (digits : List Char) : Nat := digits.foldl appendDigit 0

def padded (width n : Nat) : String :=
  let digits := (toString n).toList
  String.ofList (List.replicate (width - digits.length) '0' ++ digits)

end StepLatency.Decimal
