import Mathlib
import StepLatency.Proofs.Binary64.Operations

/-!
# Rounding keeps the order

A larger quotient is never rounded to a smaller number. Where both have the same step, this is so
for their significands; else the smaller one ends at the latest where the numbers of the larger step
begin. The order lasts through a division by the same number.
-/

namespace StepLatency

theorem roundHalfEven_mono {a b denominator : Nat} (hpos : 0 < denominator) (hab : a ≤ b) :
    roundHalfEven a denominator ≤ roundHalfEven b denominator := by
  by_contra hlt
  have hnext := Nat.mul_le_mul_left denominator (Nat.succ_le_of_lt (Nat.lt_of_not_le hlt))
  rw [Nat.mul_succ] at hnext
  have hupper := (roundHalfEven_spec a hpos).1
  have hlower := (roundHalfEven_spec b hpos).2
  -- Both would have to be the same tie.
  obtain rfl : a = b := by omega
  exact hlt (Nat.le_refl _)

namespace Binary64

theorem stepExponentOf_mono {q q' : Nat} (h : q ≤ q') : stepExponentOf q ≤ stepExponentOf q' := by
  unfold stepExponentOf
  split
  · exact Nat.zero_le _
  · rename_i hlarge
    have hne : q ≠ 0 := by
      unfold ranksPerBinade at hlarge
      omega
    have hlog : q.log2 ≤ q'.log2 :=
      (Nat.le_log2 (by omega)).2 (Nat.le_trans (Nat.log2_self_le hne) h)
    rw [if_neg (by omega)]
    exact Nat.sub_le_sub_right hlog 52

/-- Rounding keeps the order of two quotients of one denominator. -/
theorem units_nearestRank_mono {a b denominator : Nat} (hpos : 0 < denominator) (hab : a ≤ b)
    (hrange : b / denominator < largestUnits) :
    (ofRank false (nearestRank a denominator)).units ≤
      (ofRank false (nearestRank b denominator)).units := by
  have hquotient : a / denominator ≤ b / denominator := Nat.div_le_div_right hab
  rw [(units_nearestRank false (Nat.lt_of_le_of_lt hquotient hrange)).2,
    (units_nearestRank false hrange).2]
  have hsteps := stepExponentOf_mono hquotient
  have hbelow := (stepped_roundHalfEven a denominator).le
  have habove := (stepped_roundHalfEven b denominator).normal
  generalize stepExponentOf (b / denominator) = high at *
  generalize stepExponentOf (a / denominator) = low at *
  rcases Nat.eq_or_lt_of_le hsteps with rfl | hlt
  · exact Nat.mul_le_mul_right _
      (roundHalfEven_mono (Nat.mul_pos hpos (Nat.two_pow_pos low)) hab)
  · calc roundHalfEven a (denominator * 2 ^ low) * 2 ^ low
        ≤ 2 * ranksPerBinade * 2 ^ low := Nat.mul_le_mul_right _ hbelow
      _ = ranksPerBinade * 2 ^ (low + 1) := by ring
      _ ≤ ranksPerBinade * 2 ^ high := Nat.mul_le_mul_left _ (Nat.pow_le_pow_right (by decide) hlt)
      _ ≤ roundHalfEven b (denominator * 2 ^ high) * 2 ^ high :=
          Nat.mul_le_mul_right _ (habove.resolve_left (by omega))

theorem units_ofNat_mono {m n : Nat} (hmn : m ≤ n) (hn : n < largest) :
    (ofNat m).units ≤ (ofNat n).units := by
  refine units_nearestRank_mono Nat.one_pos (Nat.mul_le_mul_right _ hmn) ?_
  rw [Nat.div_one, largestUnits_eq]
  exact Nat.mul_lt_mul_of_pos_right hn unitsPerOne_pos

theorem units_divMagnitude_mono {x x' y : Binary64} (hy : 0 < y.units) (hx : x.units ≤ x'.units)
    (hrange : x'.units * unitsPerOne / y.units < largestUnits) :
    (x.divMagnitude y).units ≤ (x'.divMagnitude y).units :=
  units_nearestRank_mono hy (Nat.mul_le_mul_right _ hx) hrange

end Binary64

end StepLatency
