import Mathlib
import StepLatency.Measurement.Pacing
import StepLatency.Proofs.Binary64.Rounding

/-!
# Results in range

Quotients of counters and the magnitudes of decimals that are not too large stay in the range of the
format. Sizes are only kept up to a factor of two for each rounding, which is enough by far.
-/

namespace StepLatency

namespace Binary64

def largest : Nat := (2 ^ 53 - 1) * 2 ^ 971

theorem largestUnits_eq : largestUnits = largest * unitsPerOne := by
  decide +kernel

theorem unitsPerOne_pos : 0 < unitsPerOne := by
  decide +kernel

section Operations

variable {x y : Binary64} {n : Nat}

theorem ofNat_bounds (hn : n < largest) :
    (ofNat n).isFinite = true ∧ (ofNat n).units ≤ 2 * (n * unitsPerOne) + 1 ∧
      n * unitsPerOne ≤ 2 * (ofNat n).units := by
  have hrange : n * unitsPerOne / 1 < largestUnits := by
    rw [Nat.div_one, largestUnits_eq]
    exact Nat.mul_lt_mul_of_pos_right hn unitsPerOne_pos
  have hbounds := nearestRank_bounds false hrange
  rwa [Nat.div_one] at hbounds

theorem divMagnitude_bounds (hrange : x.units * unitsPerOne / y.units < largestUnits) :
    (x.divMagnitude y).isFinite = true ∧
      (x.divMagnitude y).units ≤ 2 * (x.units * unitsPerOne / y.units) + 1 := by
  obtain ⟨hfinite, hupper, -⟩ := nearestRank_bounds false hrange
  exact ⟨hfinite, hupper⟩

theorem isFinite_mulMagnitude (hrange : x.units * y.units / unitsPerOne < largestUnits) :
    (x.mulMagnitude y).isFinite = true :=
  (nearestRank_bounds false hrange).1

theorem isZero_zero_divMagnitude (y : Binary64) : ((ofNat 0).divMagnitude y).isZero = true := by
  have hunits : (ofNat 0).units = 0 := by decide +kernel
  have hrank : nearestRank 0 y.units = 0 := by
    simp [nearestRank, roundHalfEven, stepExponentOf, ranksPerBinade, Nat.pos_iff_ne_zero]
    omega
  rw [divMagnitude, hunits, Nat.zero_mul, hrank, isZero, rank_ofRank (Nat.zero_le _)]
  rfl

end Operations

end Binary64

/-! ### Averages -/

namespace Binary64

theorem ofNat_word_bounds (n : UInt64) :
    (ofNat n.toNat).units ≤ 2 ^ 65 * unitsPerOne + 1 ∧
      n.toNat * unitsPerOne ≤ 2 * (ofNat n.toNat).units := by
  have hlarge : 2 ^ 64 < largest := by decide +kernel
  have hword : n.toNat < 2 ^ 64 := n.toNat_lt
  obtain ⟨-, hupper, hlower⟩ := ofNat_bounds (Nat.lt_trans hword hlarge)
  have hunits : n.toNat * unitsPerOne ≤ 2 ^ 64 * unitsPerOne :=
    Nat.mul_le_mul_right _ (Nat.le_of_lt hword)
  exact ⟨by omega, hlower⟩

theorem word_quotient_le (total : UInt64) {number : UInt64} (hnumber : 0 < number.toNat) :
    (ofNat total.toNat).units * unitsPerOne / (ofNat number.toNat).units ≤
      2 * (ofNat total.toNat).units := by
  obtain ⟨-, hlower⟩ := ofNat_word_bounds number
  have hone : unitsPerOne ≤ 2 * (ofNat number.toNat).units :=
    Nat.le_trans (Nat.le_mul_of_pos_left _ hnumber) hlower
  apply Nat.div_le_of_le_mul
  calc (ofNat total.toNat).units * unitsPerOne
      ≤ (ofNat total.toNat).units * (2 * (ofNat number.toNat).units) := Nat.mul_le_mul_left _ hone
    _ = (ofNat number.toNat).units * (2 * (ofNat total.toNat).units) := by ring

theorem word_quotient_lt (total : UInt64) {number : UInt64} (hnumber : 0 < number.toNat) :
    (ofNat total.toNat).units * unitsPerOne / (ofNat number.toNat).units < largestUnits := by
  have hquotient := word_quotient_le total hnumber
  have htotal := (ofNat_word_bounds total).1
  have hpos := unitsPerOne_pos
  have hlarge : 2 ^ 67 < largest := by decide +kernel
  have hlimit := Nat.mul_lt_mul_of_pos_right hlarge hpos
  rw [← largestUnits_eq] at hlimit
  omega

/-- The quotient of two words is not tiny, unless it is zero. -/
theorem le_word_quotient {total number : UInt64} (htotal : 0 < total.toNat)
    (hnumber : 0 < number.toNat) :
    unitsPerOne ≤
      2 ^ 68 * ((ofNat total.toNat).units * unitsPerOne / (ofNat number.toNat).units) := by
  obtain ⟨-, hlower⟩ := ofNat_word_bounds total
  obtain ⟨hupper, hpos⟩ := ofNat_word_bounds number
  have hone : unitsPerOne ≤ 2 * (ofNat total.toNat).units :=
    Nat.le_trans (Nat.le_mul_of_pos_left _ htotal) hlower
  have hpositive : 0 < (ofNat number.toNat).units := by
    have hscaled := Nat.mul_pos hnumber unitsPerOne_pos
    omega
  obtain ⟨part, hpart⟩ : ∃ part, unitsPerOne = 2 ^ 68 * part := ⟨2 ^ 1006, by decide +kernel⟩
  have hle : part ≤ (ofNat total.toNat).units * unitsPerOne / (ofNat number.toNat).units := by
    rw [Nat.le_div_iff_mul_le hpositive]
    calc part * (ofNat number.toNat).units ≤ part * (2 ^ 66 * unitsPerOne) := by
          have hpos := unitsPerOne_pos
          exact Nat.mul_le_mul_left _ (by omega)
      _ ≤ (ofNat total.toNat).units * unitsPerOne := by
          rw [← Nat.mul_assoc]
          exact Nat.mul_le_mul_right _ (by omega)
  omega

end Binary64

theorem Pacing.average_eq_some {p : Pacing} {x : Binary64} (h : p.average = some x) :
    0 < p.samples.toNat ∧
      x = (Binary64.ofNat p.delaySum.toNat).divMagnitude (Binary64.ofNat p.samples.toNat) := by
  unfold average at h
  split at h
  · exact nomatch h
  · rename_i hne
    refine ⟨?_, (Option.some.inj h).symm⟩
    rw [Nat.pos_iff_ne_zero]
    intro hzero
    exact hne (UInt64.toNat_inj.1 hzero)

theorem Pacing.isFinite_average {p : Pacing} {x : Binary64} (h : p.average = some x) :
    x.isFinite = true ∧ x.isNegative = false ∧ x.units < 2 ^ 68 * Binary64.unitsPerOne := by
  obtain ⟨hsamples, rfl⟩ := average_eq_some h
  have hquotient := Binary64.word_quotient_le p.delaySum hsamples
  have htotal := (Binary64.ofNat_word_bounds p.delaySum).1
  have hpos := Binary64.unitsPerOne_pos
  obtain ⟨hfinite, hunits⟩ :=
    Binary64.divMagnitude_bounds (Binary64.word_quotient_lt p.delaySum hsamples)
  exact ⟨hfinite, Binary64.isNegative_ofRank, by omega⟩

/-- An average that is not zero is far from the smallest numbers. -/
theorem Pacing.unitsPerOne_le_average {p : Pacing} {x : Binary64} (h : p.average = some x) :
    x.isZero = true ∨ Binary64.unitsPerOne ≤ 2 ^ 69 * x.units := by
  obtain ⟨hsamples, rfl⟩ := average_eq_some h
  rcases Nat.eq_zero_or_pos p.delaySum.toNat with hzero | hsum
  · left
    rw [hzero]
    exact Binary64.isZero_zero_divMagnitude _
  · right
    have hquotient := Binary64.le_word_quotient hsum hsamples
    have hunits :=
      (Binary64.nearestRank_bounds false (Binary64.word_quotient_lt p.delaySum hsamples)).2.2
    rw [Binary64.divMagnitude]
    omega

/-- As soon as there is a sample, there is an average, and it is finite. -/
theorem Pacing.exists_average {p : Pacing} (hsamples : p.samples ≠ 0) :
    ∃ x, p.average = some x ∧ x.isFinite = true := by
  have hsome : p.average ≠ none := fun h => hsamples (p.average_eq_none_iff.1 h)
  obtain ⟨x, hx⟩ := Option.ne_none_iff_exists'.1 hsome
  exact ⟨x, hx, (isFinite_average hx).1⟩

end StepLatency
