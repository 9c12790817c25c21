import Mathlib
import StepLatency.Json.Number
import StepLatency.Proofs.Binary64.Operations

/-!
# Magnitudes of decimals

A decimal is read as a significand that fits a word and a power of ten. As long as the power is not
too large, the result is a finite number: multiplying stays below the largest number, and dividing
makes no number larger.
-/

namespace StepLatency.Json

open Binary64 (unitsPerOne largest largestUnits)

section PowerOfTen

variable {n : Nat}

theorem ten_pow_lt_largest (hn : n ≤ maxPower) : 10 ^ n < largest := by
  have htop : 10 ^ maxPower < largest := by decide +kernel
  exact Nat.lt_of_le_of_lt (Nat.pow_le_pow_right (by decide) hn) htop

theorem powerOfTen_bounds (hn : n ≤ maxPower) :
    (powerOfTen n).units ≤ 2 * (10 ^ n * unitsPerOne) + 1 ∧
      10 ^ n * unitsPerOne ≤ 2 * (powerOfTen n).units :=
  (Binary64.ofNat_bounds (ten_pow_lt_largest hn)).2

theorem le_powerOfTen (hpos : 0 < n) (hn : n ≤ maxPower) :
    5 * unitsPerOne ≤ (powerOfTen n).units := by
  obtain ⟨-, hlower⟩ := powerOfTen_bounds hn
  have hten : 10 ^ 1 ≤ 10 ^ n := Nat.pow_le_pow_right (by decide) hpos
  have hle : 10 ^ 1 * unitsPerOne ≤ 10 ^ n * unitsPerOne := Nat.mul_le_mul_right _ hten
  omega

end PowerOfTen

/-! ### Dividing -/

section ScaleDown

variable {x : Binary64} {bound power : Nat}

/-- Dividing by a power of ten leaves a number in range. -/
theorem divMagnitude_powerOfTen (hx : x.units ≤ bound) (hbound : 2 ≤ bound)
    (hrange : bound < largestUnits) (hpos : 0 < power) (hpower : power ≤ maxPower) :
    (x.divMagnitude (powerOfTen power)).isFinite = true ∧
      (x.divMagnitude (powerOfTen power)).units ≤ bound := by
  have hone := Binary64.unitsPerOne_pos
  have hquotient : x.units * unitsPerOne / (powerOfTen power).units ≤ x.units / 5 :=
    calc x.units * unitsPerOne / (powerOfTen power).units ≤
          x.units * unitsPerOne / (5 * unitsPerOne) :=
          Nat.div_le_div_left (le_powerOfTen hpos hpower) (by omega)
      _ = x.units / 5 := Nat.mul_div_mul_right _ _ hone
  obtain ⟨hfinite, hunits⟩ := Binary64.divMagnitude_bounds (x := x) (y := powerOfTen power)
    (by omega)
  exact ⟨hfinite, by omega⟩

theorem scaleDown_of_le (hpower : power ≤ maxPower) :
    scaleDown x power = x.divMagnitude (powerOfTen power) := by
  unfold scaleDown
  exact if_pos hpower

/-- However large the power, dividing by it leaves a finite number. -/
theorem isFinite_scaleDown (hfinite : x.isFinite = true) (hx : x.units ≤ bound)
    (hbound : 2 ≤ bound) (hrange : bound < largestUnits) (hpos : 0 < power) :
    (scaleDown x power).isFinite = true := by
  induction power using Nat.strongRecOn generalizing x with
  | ind power ih =>
      unfold scaleDown
      split
      · rename_i hsmall
        exact (divMagnitude_powerOfTen hx hbound hrange hpos hsmall).1
      · rename_i hlarge
        split
        · exact hfinite
        · have hmax : 0 < maxPower := by decide
          obtain ⟨hnext, hunits⟩ := divMagnitude_powerOfTen hx hbound hrange hmax (Nat.le_refl _)
          refine ih (power - maxPower) ?_ hnext hunits ?_
          · unfold maxPower at *
            omega
          · omega

end ScaleDown

/-! ### Decimals -/

namespace Scaled

variable {s : Scaled}

/-- The powers of ten up to which every significand gives a number in range. -/
def safePower : Nat := 200

theorem ofNat_significand (hsignificand : s.significand < UInt64.size) :
    (Binary64.ofNat s.significand).isFinite = true ∧
      (Binary64.ofNat s.significand).units ≤ 2 ^ 66 * unitsPerOne := by
  have hlarge : UInt64.size < largest := by decide +kernel
  obtain ⟨hfinite, hunits, -⟩ := Binary64.ofNat_bounds (Nat.lt_trans hsignificand hlarge)
  have hpos := Binary64.unitsPerOne_pos
  have hle : s.significand * unitsPerOne ≤ 2 ^ 64 * unitsPerOne :=
    Nat.mul_le_mul_right _ (Nat.le_of_lt hsignificand)
  exact ⟨hfinite, by omega⟩

/-- No significand of a word leaves the range up to the safe power. -/
theorem isFinite_scaleUp (hsignificand : s.significand < UInt64.size) {n : Nat}
    (hn : n ≤ safePower) :
    ((Binary64.ofNat s.significand).mulMagnitude (powerOfTen n)).isFinite = true := by
  have hpos := Binary64.unitsPerOne_pos
  have hpower : n ≤ maxPower := Nat.le_trans hn (by decide)
  obtain ⟨-, hx⟩ := ofNat_significand hsignificand
  obtain ⟨hy, -⟩ := powerOfTen_bounds hpower
  have hten : 10 ^ n * unitsPerOne ≤ 10 ^ safePower * unitsPerOne :=
    Nat.mul_le_mul_right _ (Nat.pow_le_pow_right (by decide) hn)
  have hy' : (powerOfTen n).units ≤ 3 * 10 ^ safePower * unitsPerOne := by
    have hone : unitsPerOne ≤ 10 ^ safePower * unitsPerOne :=
      Nat.le_mul_of_pos_left _ (Nat.pow_pos (by decide))
    rw [Nat.mul_assoc]
    omega
  apply Binary64.isFinite_mulMagnitude
  calc (Binary64.ofNat s.significand).units * (powerOfTen n).units / unitsPerOne ≤
        2 ^ 66 * unitsPerOne * (3 * 10 ^ safePower * unitsPerOne) / unitsPerOne :=
        Nat.div_le_div_right (Nat.mul_le_mul hx hy')
    _ = 2 ^ 66 * (3 * 10 ^ safePower) * unitsPerOne := by
        rw [← Nat.mul_assoc, Nat.mul_div_cancel _ hpos]
        ring
    _ < largest * unitsPerOne := Nat.mul_lt_mul_of_pos_right (by decide +kernel) hpos
    _ = largestUnits := Binary64.largestUnits_eq.symm

/-- A significand of a word and a moderate power of ten have a finite magnitude. -/
theorem exists_magnitude? (hsignificand : s.significand < UInt64.size)
    (hexponent : s.exponent ≤ safePower) : ∃ y, s.magnitude? = some y ∧ y.isFinite = true := by
  obtain ⟨hfinite, hunits⟩ := ofNat_significand hsignificand
  unfold magnitude?
  by_cases hneg : s.exponent < 0
  · rw [if_pos hneg]
    have hbound : 2 ≤ 2 ^ 66 * unitsPerOne := by
      have hpos := Binary64.unitsPerOne_pos
      omega
    have hrange : 2 ^ 66 * unitsPerOne < largestUnits := by
      rw [Binary64.largestUnits_eq]
      exact Nat.mul_lt_mul_of_pos_right (by decide +kernel) Binary64.unitsPerOne_pos
    exact ⟨_, rfl, isFinite_scaleDown hfinite hunits hbound hrange (by omega)⟩
  · have hn : s.exponent.toNat ≤ safePower := by omega
    have hpower : s.exponent.toNat ≤ maxPower := Nat.le_trans hn (by decide)
    have hup := isFinite_scaleUp hsignificand hn
    rw [if_neg hneg, if_pos hpower, if_pos hup]
    exact ⟨_, rfl, hup⟩

end Scaled

end StepLatency.Json
