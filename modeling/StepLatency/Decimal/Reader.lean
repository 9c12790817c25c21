import StepLatency.Binary64.Nearest
import StepLatency.Decimal.Digits

/-!
# Reading numbers from text

Whole numbers are read digit by digit, so that of two faults the one further left is reported.
Decimals with a fraction and an exponent are rounded once, from their exact value.
-/

namespace StepLatency.Decimal

inductive IntegerFault
  | empty
  | invalidDigit
  | tooLarge
deriving DecidableEq

def IntegerFault.message : IntegerFault → String
  | .empty => "cannot parse integer from empty string"
  | .invalidDigit => "invalid digit found in string"
  | .tooLarge => "number too large to fit in target type"

/-- Extends a number below `bound` by the digits of a text. -/
def readDigits (bound : Nat) (value : Nat) : List Char → Except IntegerFault Nat
  | [] => .ok value
  | c :: rest =>
    match digitValue? c with
    | none => .error .invalidDigit
    | some d => if bound ≤ 10 * value + d then .error .tooLarge else readDigits bound (10 * value + d) rest

/-- A whole number below `bound`: digits, which a plus sign may precede. -/
def readNatural (bound : Nat) : List Char → Except IntegerFault Nat
  | [] => .error .empty
  | ['+'] => .error .invalidDigit
  | '+' :: digits => readDigits bound 0 digits
  | digits => readDigits bound 0 digits

inductive DecimalFault
  | empty
  | invalid
deriving DecidableEq

def DecimalFault.message : DecimalFault → String
  | .empty => "cannot parse float from empty string"
  | .invalid => "invalid float literal"

/-- The number nearest to `digits * 10 ^ exponent`. Beyond the range of the format the power of ten
is not needed: the result is infinity or zero. -/
def nearestOfDecimal (negative : Bool) (digits : Nat) (exponent : Int) : Binary64 :=
  let size := exponent + (toString digits).length
  if digits = 0 ∨ size < -330 then Binary64.ofRank negative 0
  else if 310 < size then Binary64.ofRank negative Binary64.infinityRank
  else if 0 ≤ exponent then Binary64.nearest negative (digits * Nat.pow 10 exponent.toNat) 1
  else Binary64.nearest negative digits (Nat.pow 10 (-exponent).toNat)

def readExponent (text : List Char) : Option Int :=
  let (negative, digits) := match text with
    | '-' :: rest => (true, rest)
    | '+' :: rest => (false, rest)
    | rest => (false, rest)
  if digits.isEmpty || !digits.all Char.isDigit then none
  else some (if negative then -(digitsValue digits : Int) else digitsValue digits)

/-- Digits with at most one point among or around them, then an optional exponent. -/
def readMagnitude (text : List Char) : Option (Nat × Int) :=
  let whole := text.takeWhile Char.isDigit
  let afterWhole := text.dropWhile Char.isDigit
  let fraction := match afterWhole with
    | '.' :: rest => rest.takeWhile Char.isDigit
    | _ => []
  let rest := match afterWhole with
    | '.' :: rest => rest.dropWhile Char.isDigit
    | rest => rest
  if whole.isEmpty && fraction.isEmpty then none
  else
    let digits := digitsValue (whole ++ fraction)
    match rest with
    | [] => some (digits, -(fraction.length : Int))
    | c :: exponent =>
      if c = 'e' ∨ c = 'E' then
        (readExponent exponent).map fun e => (digits, e - (fraction.length : Int))
      else none

def readSpecial (negative : Bool) (text : List Char) : Option Binary64 :=
  match String.ofList (text.map Char.toLower) with
  | "nan" => some Binary64.nan
  | "inf" => some (Binary64.ofRank negative Binary64.infinityRank)
  | "infinity" => some (Binary64.ofRank negative Binary64.infinityRank)
  | _ => none

def readBinary64 (text : List Char) : Except DecimalFault Binary64 :=
  match text with
  | [] => .error .empty
  | c :: rest =>
    let negative := c == '-'
    let magnitude := if c = '-' ∨ c = '+' then rest else text
    match readMagnitude magnitude with
    | some (digits, exponent) => .ok (nearestOfDecimal negative digits exponent)
    | none =>
      match readSpecial negative magnitude with
      | some x => .ok x
      | none => .error .invalid

end StepLatency.Decimal
