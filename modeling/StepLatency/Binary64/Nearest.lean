import StepLatency.Binary64.Basic

/-!
# Rounding to the nearest number

Every inexact operation is an exact quotient of natural numbers, rounded once: to the nearest
multiple of the step that its size allows, a half going to the even neighbour. A significand that
is rounded up to the next power of two carries into the exponent by itself, since the rank is the
significand plus the ranks of one binade for each exponent passed.
-/

namespace StepLatency

/-- The quotient rounded to the nearest natural number, a half to the even neighbour. -/
def roundHalfEven (numerator denominator : Nat) : Nat :=
  let quotient := numerator / denominator
  let twice := 2 * (numerator % denominator)
  if twice < denominator ∨ (twice = denominator ∧ quotient % 2 = 0) then quotient else quotient + 1

theorem roundHalfEven_of_dvd {numerator denominator : Nat} (hpos : 0 < denominator)
    (h : denominator ∣ numerator) : roundHalfEven numerator denominator = numerator / denominator := by
  have hmod : numerator % denominator = 0 := Nat.mod_eq_zero_of_dvd h
  simp [roundHalfEven, hmod, hpos]

theorem roundHalfEven_le (numerator denominator : Nat) :
    roundHalfEven numerator denominator ≤ numerator / denominator + 1 := by
  unfold roundHalfEven
  grind

theorem le_roundHalfEven (numerator denominator : Nat) :
    numerator / denominator ≤ roundHalfEven numerator denominator := by
  unfold roundHalfEven
  grind

namespace Binary64

def stepExponentOf (wholeUnits : Nat) : Nat :=
  if wholeUnits < 2 * ranksPerBinade then 0 else wholeUnits.log2 - 52

/-- The rank nearest to a quotient of units, at most that of infinity. -/
def nearestRank (numerator denominator : Nat) : Nat :=
  let step := stepExponentOf (numerator / denominator)
  min (roundHalfEven numerator (denominator * Nat.pow 2 step) + step * ranksPerBinade) infinityRank

def nearest (negative : Bool) (numerator denominator : Nat) : Binary64 :=
  ofRank negative (nearestRank (numerator * unitsPerOne) denominator)

def ofNat (n : Nat) : Binary64 := nearest false n 1

def mulMagnitude (x y : Binary64) : Binary64 :=
  ofRank false (nearestRank (x.units * y.units) unitsPerOne)

/-- The rounded quotient of two finite magnitudes, the second not zero. -/
def divMagnitude (x y : Binary64) : Binary64 :=
  ofRank false (nearestRank (x.units * unitsPerOne) y.units)

end Binary64

end StepLatency
