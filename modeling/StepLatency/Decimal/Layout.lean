import StepLatency.Decimal.Digits
import StepLatency.Decimal.Shortest

/-!
# Decimal text of binary64 numbers

`toHundredths` writes two decimal places of the exact binary value. The other layouts write the
shortest decimal that reads back; they differ in where positional notation ends, in whether a whole
number keeps a point, and in how ties between two shortest decimals go.
-/

namespace StepLatency.Binary64

def hundredths (x : Binary64) : Nat := roundHalfEven (100 * x.units) unitsPerOne

def sign (x : Binary64) : String := if x.isNegative then "-" else ""

def specialText (x : Binary64) : String := if x.isNaN then "NaN" else x.sign ++ "inf"

/-- Two places, a half of the last place going to the even neighbour; a minus sign stays even where
all digits are zero. -/
def toHundredths (x : Binary64) : String :=
  if x.isFinite then
    s!"{x.sign}{x.hundredths / 100}.{Decimal.padded 2 (x.hundredths % 100)}"
  else x.specialText

structure Layout where
  tie : Decimal.Tie
  /-- The positions of the decimal point, counted from the first digit, that are written in
  positional notation. -/
  positional : Int → Bool
  /-- Whether a whole number is written with a point and a zero. -/
  marksWhole : Bool

/-- Always positional, whole numbers bare. -/
def plainLayout : Layout := ⟨.up, fun _ => true, false⟩

/-- Positional from `0.0001` to below `1e16`. -/
def taggedLayout : Layout := ⟨.up, fun point => -4 < point && point ≤ 16, true⟩

/-- Positional from `0.00001` to below `1e16`. -/
def jsonLayout : Layout := ⟨.toEven, fun point => -5 < point && point ≤ 16, true⟩

def zeros (n : Nat) : String := String.ofList (List.replicate n '0')

def Layout.positionalText (layout : Layout) (digits : List Char) (point : Int) : String :=
  if point ≤ 0 then "0." ++ zeros (-point).toNat ++ String.ofList digits
  else if point < digits.length then
    String.ofList (digits.take point.toNat) ++ "." ++ String.ofList (digits.drop point.toNat)
  else
    String.ofList digits ++ zeros (point.toNat - digits.length) ++ if layout.marksWhole then ".0" else ""

def scientificText (digits : List Char) (point : Int) : String :=
  let fraction := digits.drop 1
  String.ofList (digits.take 1) ++ (if fraction.isEmpty then "" else "." ++ String.ofList fraction) ++
    "e" ++ toString (point - 1)

def Layout.magnitudeText (layout : Layout) (x : Binary64) : String :=
  if x.isZero then (if layout.marksWhole then "0.0" else "0")
  else
    let decimal := Decimal.shortest layout.tie x
    let digits := (toString decimal.digits).toList
    let point := decimal.exponent + digits.length
    if layout.positional point then layout.positionalText digits point else scientificText digits point

def Layout.text (layout : Layout) (x : Binary64) : String :=
  if x.isFinite then x.sign ++ layout.magnitudeText x else x.specialText

def toPlain (x : Binary64) : String := plainLayout.text x

def toTagged (x : Binary64) : String := taggedLayout.text x

/-- JSON has no text for numbers that are not finite. -/
def toJson (x : Binary64) : String := if x.isFinite then jsonLayout.text x else "null"

end StepLatency.Binary64
