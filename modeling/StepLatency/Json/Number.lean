import StepLatency.Decimal.Digits
import StepLatency.Json.Scan

/-!
# Values of JSON numbers

Whole numbers of up to 64 bits are exact. Any other number is a binary64 number that is found in two
roundings: its leading digits, as many as fit a 64-bit word, are rounded to binary64, and the result
is multiplied or divided by a rounded power of ten. So the result need not be the nearest one.
-/

namespace StepLatency.Json

inductive Number
  | natural (n : Nat)
  | negative (n : Int)
  | real (x : Binary64)
deriving DecidableEq

/-- The significand that is kept, and the power of ten that belongs to it. -/
structure Scaled where
  significand : Nat
  exponent : Int
deriving DecidableEq

namespace Scaled

def fits (significand : Nat) (c : Char) : Bool := Decimal.appendDigit significand c < UInt64.size

/-- From the first digit of the whole part that no longer fits, digits only count. -/
def addWhole (s : Scaled) : List Char → Scaled
  | [] => s
  | c :: rest =>
    if fits s.significand c then addWhole ⟨Decimal.appendDigit s.significand c, 0⟩ rest
    else ⟨s.significand, (c :: rest).length⟩

/-- From the first digit of the fraction that no longer fits, digits are dropped. -/
def addFraction (s : Scaled) : List Char → Scaled
  | [] => s
  | c :: rest =>
    if fits s.significand c then addFraction ⟨Decimal.appendDigit s.significand c, s.exponent - 1⟩ rest else s

end Scaled

def maxPower : Nat := 308

def powerOfTen (n : Nat) : Binary64 := Binary64.nearest false (Nat.pow 10 n) 1

/-- Divides by a power of ten, in several steps where the power is too large for one. -/
def scaleDown (x : Binary64) (power : Nat) : Binary64 :=
  if power ≤ maxPower then x.divMagnitude (powerOfTen power)
  else if x.isZero then x
  else scaleDown (x.divMagnitude (powerOfTen maxPower)) (power - maxPower)
termination_by power
decreasing_by unfold maxPower at *; omega

def Scaled.magnitude? (s : Scaled) : Option Binary64 :=
  let x := Binary64.ofNat s.significand
  if s.exponent < 0 then some (scaleDown x s.exponent.natAbs)
  else if s.exponent.toNat ≤ maxPower then
    let y := x.mulMagnitude (powerOfTen s.exponent.toNat)
    if y.isFinite then some y else none
  else if x.isZero then some x
  else none

def maxExponent : Nat := 0x7fffffff

/-- The magnitude of a number with a written exponent. An exponent past 31 bits is not computed
with: the number is zero or beyond the range. -/
def Scaled.withExponent? (s : Scaled) (negative : Bool) (digits : List Char) : Option Binary64 :=
  let value := Decimal.digitsValue digits
  if maxExponent < value then
    if s.significand ≠ 0 ∧ !negative then none else some Binary64.zero
  else Scaled.magnitude? ⟨s.significand, if negative then s.exponent - value else s.exponent + value⟩

namespace Numeral

def signed (n : Numeral) (x : Binary64) : Binary64 := if n.negative then x.negate else x

def scaled (n : Numeral) : Scaled :=
  (Scaled.addWhole ⟨0, 0⟩ n.whole).addFraction (n.fraction.getD [])

def wholeNumber (n : Numeral) (significand : Nat) : Number :=
  if !n.negative then .natural significand
  else if 0 < significand ∧ significand ≤ 0x8000000000000000 then .negative (-(significand : Int))
  else .real (Binary64.ofNat significand).negate

def value? (n : Numeral) : Option Number :=
  match n.exponent with
  | some (negative, digits) => (n.scaled.withExponent? negative digits).map (.real ∘ n.signed)
  | none =>
    if n.fraction.isNone ∧ n.scaled.exponent = 0 then some (n.wholeNumber n.scaled.significand)
    else n.scaled.magnitude?.map (.real ∘ n.signed)

end Numeral

namespace Number

def found : Number → Found
  | .natural n => .integer n
  | .negative n => .integer n
  | .real x => .real x

def toBinary64 : Number → Binary64
  | .natural n => Binary64.ofNat n
  | .negative n => (Binary64.ofNat n.natAbs).negate
  | .real x => x

end Number

def scanNumber (cs : List Char) : Except Fault (Number × List Char) := do
  let (numeral, rest) ← scanNumeral .truncated cs
  match numeral.value? with
  | some n => return (n, rest)
  | none => throw .malformed

end StepLatency.Json
