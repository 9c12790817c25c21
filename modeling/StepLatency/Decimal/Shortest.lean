import StepLatency.Binary64.Nearest

/-!
# The shortest decimal that reads back

Of all decimals that round to a given number, the one on the coarsest grid of powers of ten is
taken, and on that grid the one nearest to the number. Two equally near ones are told apart by a
rule of the caller. All comparisons are exact, in quarters of a unit.
-/

namespace StepLatency

/-- The decimal `digits * 10 ^ exponent`. -/
structure Decimal where
  digits : Nat
  exponent : Int
deriving DecidableEq, Inhabited

namespace Decimal

inductive Tie
  | toEven
  | up
deriving DecidableEq

/-- The reals that round to a positive finite number, in quarters of a unit. -/
structure Interval where
  lower : Nat
  center : Nat
  upper : Nat
  closed : Bool

/-- A power of two has its lower neighbour at half the distance of the upper one. -/
def intervalOf (x : Binary64) : Interval :=
  let step := Nat.pow 2 x.stepExponent
  let center := 4 * x.units
  let below := if x.significand = Binary64.ranksPerBinade ∧ 0 < x.stepExponent then step else 2 * step
  ⟨center - below, center, center + 2 * step, x.significand % 2 = 0⟩

def Interval.holds (i : Interval) (numerator denominator : Nat) : Bool :=
  if i.closed then i.lower * denominator ≤ numerator && numerator ≤ i.upper * denominator
  else i.lower * denominator < numerator && numerator < i.upper * denominator

/-- The size of one step of the grid `10 ^ exponent` in quarters of a unit, as a quotient. -/
def gridStep (exponent : Int) : Nat × Nat :=
  if 0 ≤ exponent then (4 * Binary64.unitsPerOne * Nat.pow 10 exponent.toNat, 1)
  else (4 * Binary64.unitsPerOne, Nat.pow 10 (-exponent).toNat)

/-- The point of the grid that lies in the interval and is nearest to its number. -/
def onGrid (tie : Tie) (i : Interval) (exponent : Int) : Option Decimal :=
  let (step, denominator) := gridStep exponent
  let below := i.center * denominator / step
  let down := i.center * denominator - below * step
  let takeBelow := 2 * down < step || (2 * down == step && tie == .toEven && below % 2 == 0)
  match i.holds (below * step) denominator, i.holds ((below + 1) * step) denominator with
  | true, true => some ⟨if takeBelow then below else below + 1, exponent⟩
  | true, false => some ⟨below, exponent⟩
  | false, true => some ⟨below + 1, exponent⟩
  | false, false => none

/-- Exponents of the grids that are tried, the coarsest first. Every finite number is below
`10 ^ 309`, and every interval is wider than `10 ^ (-324)`. -/
def gridExponents : List Int := (List.range 634).map fun (i : Nat) => 309 - (i : Int)

/-- The shortest decimal that reads back as the magnitude of a positive finite number. -/
def shortest (tie : Tie) (x : Binary64) : Decimal :=
  ((gridExponents.findSome? (onGrid tie (intervalOf x)))).getD ⟨0, 0⟩

end Decimal

end StepLatency
