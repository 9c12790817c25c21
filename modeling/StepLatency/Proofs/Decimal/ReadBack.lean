import Mathlib
import StepLatency.Proofs.Binary64.Value
import StepLatency.Proofs.Decimal.Shortest

/-!
# Rounding back

Whatever lies in the rounding interval of a number is rounded to that number. Just below a power of
two the step is half as large: there the significand is rounded up to the end of its binade, and the
carry into the exponent gives the same rank.
-/

namespace StepLatency

/-! ### The interval of a number -/

namespace Decimal

open Binary64 (nearestRank ranksPerBinade stepExponentOf)

variable {x : Binary64} {numerator denominator : Nat}

def reachBelow (x : Binary64) : Nat :=
  if x.significand = ranksPerBinade ∧ 0 < x.stepExponent then 2 ^ x.stepExponent
  else 2 * 2 ^ x.stepExponent

def reachAbove (x : Binary64) : Nat := 2 * 2 ^ x.stepExponent

theorem lower_intervalOf (x : Binary64) : (intervalOf x).lower = 4 * x.units - reachBelow x := rfl

theorem upper_intervalOf (x : Binary64) : (intervalOf x).upper = 4 * x.units + reachAbove x := rfl

/-- What lies in the interval of a number is within reach of it, and at an end only if the
significand is even. -/
theorem Interval.bounds_of_holds (h : (intervalOf x).holds numerator denominator = true) :
    4 * x.units * denominator ≤ numerator + reachBelow x * denominator ∧
      numerator ≤ 4 * x.units * denominator + reachAbove x * denominator ∧
      (x.significand % 2 = 1 →
        4 * x.units * denominator < numerator + reachBelow x * denominator ∧
          numerator < 4 * x.units * denominator + reachAbove x * denominator) := by
  have hsub : 4 * x.units * denominator ≤
      (4 * x.units - reachBelow x) * denominator + reachBelow x * denominator := by
    rw [← Nat.add_mul]
    exact Nat.mul_le_mul_right _ (by omega)
  rw [← Nat.add_mul]
  obtain ⟨hlower, hupper⟩ := Interval.holds_le h
  rw [lower_intervalOf] at hlower
  rw [upper_intervalOf] at hupper
  refine ⟨by omega, hupper, fun hodd => ?_⟩
  have hopen : (intervalOf x).closed = false := decide_eq_false (by omega)
  obtain ⟨hlower', hupper'⟩ := Interval.lt_of_holds h hopen
  rw [lower_intervalOf] at hlower'
  rw [upper_intervalOf] at hupper'
  exact ⟨by omega, hupper'⟩

theorem four_units_mul (x : Binary64) (denominator : Nat) :
    4 * x.units * denominator = 4 * (x.significand * (denominator * 2 ^ x.stepExponent)) := by
  rw [Binary64.units_eq]
  ring

/-- Where the step is that of the number, the significand is rounded to that of the number. -/
theorem roundHalfEven_of_holds (hpos : 0 < denominator)
    (h : (intervalOf x).holds (4 * numerator) denominator = true) :
    roundHalfEven numerator (denominator * 2 ^ x.stepExponent) = x.significand := by
  have hstep : 0 < 2 ^ x.stepExponent := Nat.two_pow_pos _
  obtain ⟨hlower, hupper, hstrict⟩ := Interval.bounds_of_holds h
  have hreach : reachBelow x * denominator ≤ 2 * (denominator * 2 ^ x.stepExponent) := by
    unfold reachBelow
    split <;> nlinarith
  have habove : reachAbove x * denominator = 2 * (denominator * 2 ^ x.stepExponent) := by
    unfold reachAbove
    ring
  rw [four_units_mul, habove] at hupper hstrict
  rw [four_units_mul] at hlower
  have hproduct : denominator * 2 ^ x.stepExponent * x.significand =
      x.significand * (denominator * 2 ^ x.stepExponent) := Nat.mul_comm _ _
  apply roundHalfEven_eq (Nat.mul_pos hpos hstep)
  · omega
  · omega
  · intro hodd
    have hboth := hstrict hodd
    omega

/-- Only a power of two has reals in its interval that are below its own step. -/
theorem significand_of_lt (hexponent : 0 < x.stepExponent)
    (h : (intervalOf x).holds (4 * numerator) denominator = true)
    (hbelow : numerator < 2 ^ 52 * (denominator * 2 ^ x.stepExponent)) :
    x.significand = ranksPerBinade := by
  obtain ⟨hlower, -⟩ := Interval.bounds_of_holds h
  have hge := Binary64.le_significand hexponent
  by_contra hne
  have hgt : 2 ^ 52 + 1 ≤ x.significand := by
    unfold ranksPerBinade at hge hne
    omega
  have hreach : reachBelow x * denominator = 2 * (denominator * 2 ^ x.stepExponent) := by
    rw [reachBelow, if_neg fun heq => hne heq.1]
    ring
  have hunits := four_units_mul x denominator
  have hscaled := Nat.mul_le_mul_right (denominator * 2 ^ x.stepExponent) hgt
  omega

/-- Just below a power of two, the significand is rounded up to the end of its binade. -/
theorem nearestRank_of_crossed {step : Nat} (hpos : 0 < denominator)
    (hexponent : x.stepExponent = step + 1) (hsignificand : x.significand = ranksPerBinade)
    (hfinite : x.isFinite = true)
    (h : (intervalOf x).holds (4 * numerator) denominator = true)
    (hbelow : numerator < 2 ^ 52 * (denominator * 2 ^ x.stepExponent)) :
    nearestRank numerator denominator = x.rank := by
  obtain ⟨hlower, -⟩ := Interval.bounds_of_holds h
  have hrank : x.rank = 2 * ranksPerBinade + step * ranksPerBinade := by
    rw [x.rank_eq, hexponent, hsignificand]
    ring
  have hrange : 2 * ranksPerBinade + step * ranksPerBinade ≤ Binary64.infinityRank := by
    rw [← hrank]
    exact Nat.le_of_lt (of_decide_eq_true hfinite)
  have hstep : 0 < 2 ^ step := Nat.two_pow_pos _
  have hpow : denominator * 2 ^ x.stepExponent = 2 * (denominator * 2 ^ step) := by
    rw [hexponent]
    ring
  have hreach : reachBelow x * denominator = denominator * 2 ^ x.stepExponent := by
    rw [reachBelow, if_pos ⟨hsignificand, by omega⟩, Nat.mul_comm]
  have hunits := four_units_mul x denominator
  rw [hsignificand, ranksPerBinade] at hunits
  rw [hrank]
  apply Binary64.nearestRank_eq _ _ hrange
  · apply Binary64.stepExponentOf_eq
    · rw [Nat.div_lt_iff_lt_mul hpos, Nat.mul_assoc, Nat.mul_comm (2 ^ step)]
      omega
    · right
      rw [Nat.le_div_iff_mul_le hpos, Nat.mul_assoc, Nat.mul_comm (2 ^ step)]
      omega
  · unfold ranksPerBinade
    apply roundHalfEven_eq (Nat.mul_pos hpos hstep) <;> omega

/-- What lies in the interval of a finite number is rounded to the number. -/
theorem nearestRank_of_holds (hfinite : x.isFinite = true) (hpos : 0 < denominator)
    (h : (intervalOf x).holds (4 * numerator) denominator = true) :
    nearestRank numerator denominator = x.rank := by
  have hround := roundHalfEven_of_holds hpos h
  have hrange : x.significand + x.stepExponent * ranksPerBinade ≤ Binary64.infinityRank := by
    rw [← x.rank_eq]
    exact Nat.le_of_lt (of_decide_eq_true hfinite)
  -- Below a power of two the quotient has a smaller step than the number.
  by_cases hsame : x.stepExponent = 0 ∨ 2 ^ 52 * 2 ^ x.stepExponent ≤ numerator / denominator
  · rw [x.rank_eq]
    refine Binary64.nearestRank_eq (Binary64.stepExponentOf_eq ?_ hsame) hround hrange
    have hstep : 0 < 2 ^ x.stepExponent := Nat.two_pow_pos _
    have hnear := (roundHalfEven_spec numerator (Nat.mul_pos hpos hstep)).2
    have hlast : x.significand + 1 ≤ 2 ^ 53 := x.significand_lt
    have hscaled := Nat.mul_le_mul_left (denominator * 2 ^ x.stepExponent) hlast
    rw [hround] at hnear
    rw [Nat.mul_succ] at hscaled
    rw [Nat.div_lt_iff_lt_mul hpos, Nat.mul_assoc, Nat.mul_comm (2 ^ x.stepExponent),
      Nat.mul_comm (2 ^ 53)]
    have hpart := Nat.mul_pos hpos hstep
    omega
  · obtain ⟨hexponent, hcross⟩ := not_or.1 hsame
    rw [not_le, Nat.div_lt_iff_lt_mul hpos, Nat.mul_assoc, Nat.mul_comm (2 ^ x.stepExponent)]
      at hcross
    obtain ⟨step, hstep⟩ := Nat.exists_eq_succ_of_ne_zero hexponent
    exact nearestRank_of_crossed hpos hstep
      (significand_of_lt (Nat.pos_of_ne_zero hexponent) h hcross) hfinite h hcross

/-! ### The shortest decimal -/

def value (d : Decimal) : ℚ := d.digits * 10 ^ d.exponent

/-- Whether a quotient lies in an interval only depends on its value. -/
theorem Interval.holds_iff {i : Interval} {q : ℚ} (hpos : 0 < denominator)
    (hq : (numerator : ℚ) = q * denominator) :
    i.holds numerator denominator = true ↔
      if i.closed then (i.lower : ℚ) ≤ q ∧ q ≤ i.upper else (i.lower : ℚ) < q ∧ q < i.upper := by
  have hpos' : (0 : ℚ) < denominator := Nat.cast_pos.2 hpos
  unfold holds
  split <;>
    simp only [Bool.and_eq_true, decide_eq_true_eq, ← Nat.cast_le (α := ℚ), ← Nat.cast_lt (α := ℚ),
      Nat.cast_mul, hq, mul_le_mul_iff_left₀ hpos', mul_lt_mul_iff_left₀ hpos']

theorem cast_gridStep (exponent : Int) :
    ((gridStep exponent).1 : ℚ) =
      4 * Binary64.unitsPerOne * 10 ^ exponent * (gridStep exponent).2 := by
  have hpow (n : Nat) : Nat.pow 10 n = 10 ^ n := rfl
  unfold gridStep
  split
  · obtain ⟨n, rfl⟩ := Int.eq_ofNat_of_zero_le ‹0 ≤ exponent›
    simp only [hpow, Int.toNat_natCast, zpow_natCast]
    push_cast
    ring
  · obtain ⟨n, hn⟩ := Int.eq_ofNat_of_zero_le (a := -exponent) (by omega)
    have hexponent : exponent = -(n : Int) := by omega
    simp only [hpow, hexponent, neg_neg, Int.toNat_natCast, zpow_neg, zpow_natCast]
    push_cast
    rw [mul_assoc, inv_mul_cancel₀ (by positivity), mul_one]

theorem cast_digits_mul_gridStep (d : Decimal) :
    ((d.digits * (gridStep d.exponent).1 : Nat) : ℚ) =
      4 * (d.value * Binary64.unitsPerOne) * (gridStep d.exponent).2 := by
  rw [Nat.cast_mul, cast_gridStep, value]
  ring

/-- The shortest decimal of a number is rounded to the number, however it is written as a quotient
of units. -/
theorem ofRank_nearestRank_shortest (tie : Tie) (hfinite : x.isFinite = true)
    (hpositive : x.isNegative = false) (hx : x.isZero = false) (hpos : 0 < denominator)
    (hquotient : (numerator : ℚ) =
      (shortest tie x).value * Binary64.unitsPerOne * denominator) :
    Binary64.ofRank false (nearestRank numerator denominator) = x := by
  have hshortest := holds_shortest tie hx
  rw [Interval.holds_iff (gridStep_pos _).2 (cast_digits_mul_gridStep _)] at hshortest
  have hscaled : ((4 * numerator : Nat) : ℚ) =
      4 * ((shortest tie x).value * Binary64.unitsPerOne) * denominator := by
    rw [Nat.cast_mul, hquotient]
    push_cast
    ring
  rw [← Interval.holds_iff hpos hscaled] at hshortest
  rw [nearestRank_of_holds hfinite hpos hshortest]
  exact Binary64.ofRank_rank hfinite hpositive

def shortestFactor : ℚ := 1 + 1 / 2 ^ 52

theorem shortestFactor_nonneg : 0 ≤ shortestFactor := by
  unfold shortestFactor
  norm_num

/-- The shortest decimal of a normal number is close to it. -/
theorem near_shortest (tie : Tie) (hnormal : 2 ^ 52 ≤ x.units) :
    Near shortestFactor (shortest tie x).value x.value := by
  have hx : x.isZero = false := by
    by_contra hzero
    rw [Bool.not_eq_false] at hzero
    rw [Binary64.units_eq_zero hzero] at hnormal
    exact absurd hnormal (by decide)
  have hholds := holds_shortest tie hx
  rw [Interval.holds_iff (gridStep_pos _).2 (cast_digits_mul_gridStep _)] at hholds
  have hbounds : ((intervalOf x).lower : ℚ) ≤
        4 * ((shortest tie x).value * Binary64.unitsPerOne) ∧
      4 * ((shortest tie x).value * Binary64.unitsPerOne) ≤ (intervalOf x).upper := by
    split at hholds
    · exact hholds
    · exact ⟨hholds.1.le, hholds.2.le⟩
  have hreach : 4 * x.units ≤ (intervalOf x).lower + 2 * 2 ^ x.stepExponent := by
    rw [lower_intervalOf]
    unfold reachBelow
    split <;> omega
  have hupper : (intervalOf x).upper = 4 * x.units + 2 * 2 ^ x.stepExponent := rfl
  have hstep := Binary64.two_pow_mul_step_le_units hnormal
  -- The interval reaches at most half a step to both sides.
  have hreach' : (4 * x.units : ℚ) ≤ (intervalOf x).lower + 2 * 2 ^ x.stepExponent := by
    exact_mod_cast hreach
  have hupper' : ((intervalOf x).upper : ℚ) = 4 * x.units + 2 * 2 ^ x.stepExponent := by
    exact_mod_cast hupper
  have hstep' : (2 ^ 52 * 2 ^ x.stepExponent : ℚ) ≤ x.units := by
    exact_mod_cast hstep
  rw [hupper'] at hbounds
  rw [x.cast_units] at hreach' hstep' hbounds
  constructor <;> apply le_of_mul_le_mul_right _ Binary64.cast_unitsPerOne_pos
  · unfold shortestFactor
    linarith
  · unfold shortestFactor
    linarith

end Decimal

end StepLatency
