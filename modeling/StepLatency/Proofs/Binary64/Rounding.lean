import Mathlib
import StepLatency.Binary64.Nearest

/-!
# The size of a rounded number

A rounded quotient is a significand of at most 53 bits, or the power of two right after them, times
the step between neighbours. Where the quotient is in range, so is the result, and neither is more
than twice the other.
-/

namespace StepLatency

/-! ### Quotients rounded to a natural number -/

section RoundHalfEven

variable {numerator denominator m : Nat}

theorem roundHalfEven_spec (numerator : Nat) (hpos : 0 < denominator) :
    2 * (denominator * roundHalfEven numerator denominator) ≤ 2 * numerator + denominator ∧
      2 * numerator ≤ 2 * (denominator * roundHalfEven numerator denominator) + denominator := by
  have hdivision := Nat.div_add_mod numerator denominator
  have hrest := Nat.mod_lt numerator hpos
  unfold roundHalfEven
  dsimp only
  split
  · omega
  · rw [Nat.mul_succ]
    omega

/-- A natural number at most a half away is the rounded quotient, if it is even or no tie. -/
theorem roundHalfEven_eq (hpos : 0 < denominator)
    (hlower : 2 * (denominator * m) ≤ 2 * numerator + denominator)
    (hupper : 2 * numerator ≤ 2 * (denominator * m) + denominator)
    (htie : m % 2 = 1 → 2 * (denominator * m) < 2 * numerator + denominator ∧
      2 * numerator < 2 * (denominator * m) + denominator) :
    roundHalfEven numerator denominator = m := by
  have hdivision := Nat.div_add_mod numerator denominator
  have hrest := Nat.mod_lt numerator hpos
  have hge : numerator / denominator ≤ m := by
    by_contra hlt
    have hnext := Nat.mul_le_mul_left denominator (Nat.lt_of_not_le hlt)
    rw [Nat.mul_succ] at hnext
    omega
  have hle : m ≤ numerator / denominator + 1 := by
    by_contra hlt
    have hnext := Nat.mul_le_mul_left denominator (Nat.lt_of_not_le hlt)
    rw [Nat.mul_succ, Nat.mul_succ] at hnext
    omega
  unfold roundHalfEven
  dsimp only
  obtain rfl | rfl : m = numerator / denominator ∨ m = numerator / denominator + 1 := by omega
  · exact if_pos (by omega)
  · rw [Nat.mul_succ] at hlower hupper htie
    exact if_neg (by omega)

end RoundHalfEven

namespace Binary64

/-- A significand that fits the format, with a step that its size calls for. Twice the ranks of a
binade is where rounding up carries into the exponent. -/
structure Stepped (significand step : Nat) : Prop where
  le : significand ≤ 2 * ranksPerBinade
  normal : step = 0 ∨ ranksPerBinade ≤ significand

def topStep : Nat := 2045

def largestUnits : Nat := (2 ^ 53 - 1) * 2 ^ topStep

/-! ### Significand and step of a number -/

section Parts

variable {x : Binary64}

theorem rank_eq (x : Binary64) :
    x.rank = x.significand + x.stepExponent * ranksPerBinade := by
  unfold significand stepExponent ranksPerBinade
  split <;> omega

theorem significand_lt (x : Binary64) : x.significand < 2 * ranksPerBinade := by
  unfold significand ranksPerBinade
  split <;> omega

theorem le_significand (hstep : 0 < x.stepExponent) : ranksPerBinade ≤ x.significand := by
  unfold significand stepExponent ranksPerBinade at *
  split <;> omega

theorem units_eq (x : Binary64) : x.units = x.significand * 2 ^ x.stepExponent := rfl

theorem units_eq_zero (hx : x.isZero = true) : x.units = 0 := by
  have hrank : x.rank = 0 := by simpa [isZero] using hx
  have hsignificand : x.significand = 0 := by
    rw [significand, hrank, if_pos (by decide)]
  rw [units_eq, hsignificand, Nat.zero_mul]

/-- From so many units on the significand has all its bits. -/
theorem two_pow_mul_step_le_units (hx : 2 ^ 52 ≤ x.units) :
    2 ^ 52 * 2 ^ x.stepExponent ≤ x.units := by
  rcases Nat.eq_zero_or_pos x.stepExponent with hzero | hpos
  · rwa [hzero, Nat.pow_zero, Nat.mul_one]
  · exact Nat.mul_le_mul_right _ (le_significand hpos)

end Parts

section Rank

variable {m step : Nat}

/-- The rank of a significand and a step stands for their product. -/
theorem units_ofRank (h : Stepped m step) {negative : Bool}
    (hfinite : m + step * ranksPerBinade < infinityRank) :
    (ofRank negative (m + step * ranksPerBinade)).units = m * 2 ^ step := by
  have hrank : (ofRank negative (m + step * ranksPerBinade)).rank = m + step * ranksPerBinade :=
    rank_ofRank (Nat.le_of_lt hfinite)
  obtain ⟨hle, hnormal⟩ := h
  rw [units, significand, stepExponent, hrank]
  change _ * 2 ^ _ = _
  unfold ranksPerBinade at *
  by_cases hsmall : m < 0x10000000000000
  · have hstep : step = 0 := by omega
    subst hstep
    have hexponent : (m + 0 * 0x10000000000000) / 0x10000000000000 - 1 = 0 := by omega
    rw [hexponent, if_pos (by omega), Nat.zero_mul, Nat.add_zero]
  · rw [if_neg (by omega)]
    by_cases hcarry : m = 2 * 0x10000000000000
    · have hexponent : (m + step * 0x10000000000000) / 0x10000000000000 - 1 = step + 1 := by omega
      have hrest : (m + step * 0x10000000000000) % 0x10000000000000 = 0 := by omega
      rw [hexponent, hrest, hcarry, Nat.add_zero, Nat.pow_succ, Nat.mul_comm (2 ^ step) 2,
        ← Nat.mul_assoc, Nat.mul_comm 2]
    · have hexponent : (m + step * 0x10000000000000) / 0x10000000000000 - 1 = step := by omega
      have hrest : (m + step * 0x10000000000000) % 0x10000000000000 = m - 0x10000000000000 := by
        omega
      have hm : 0x10000000000000 + (m - 0x10000000000000) = m := by omega
      rw [hexponent, hrest, hm]

theorem ofRank_rank {x : Binary64} (hfinite : x.isFinite = true)
    (hpositive : x.isNegative = false) : ofRank false x.rank = x := by
  have hrank : x.rank < infinityRank := of_decide_eq_true hfinite
  have hsmall : ¬ signBit ≤ x.bits.toNat := of_decide_eq_false hpositive
  have hbits : x.rank = x.bits.toNat := Nat.mod_eq_of_lt (Nat.lt_of_not_le hsmall)
  rw [ofRank, Nat.min_eq_left (Nat.le_of_lt hrank), hbits]
  simp

theorem isFinite_ofRank {negative : Bool} {rank : Nat} (h : rank < infinityRank) :
    (ofRank negative rank).isFinite = true := by
  rw [isFinite, rank_ofRank (Nat.le_of_lt h)]
  exact decide_eq_true h

end Rank

/-! ### Rounding a quotient -/

section Nearest

variable {numerator denominator : Nat}

/-- The step of a magnitude leaves it a significand of 53 bits. -/
theorem two_pow_step_le {q : Nat} (hq : 2 * ranksPerBinade ≤ q) :
    2 ^ 52 * 2 ^ stepExponentOf q ≤ q ∧ q < 2 ^ 53 * 2 ^ stepExponentOf q := by
  have hne : q ≠ 0 := by
    unfold ranksPerBinade at hq
    omega
  have hlog : 53 ≤ q.log2 := by
    rw [Nat.le_log2 hne]
    exact Nat.le_trans (by decide) hq
  have hstep : stepExponentOf q = q.log2 - 52 := if_neg (Nat.not_lt.2 hq)
  rw [hstep, ← Nat.pow_add, ← Nat.pow_add]
  constructor
  · have hexponent : 52 + (q.log2 - 52) = q.log2 := by omega
    rw [hexponent]
    exact Nat.log2_self_le hne
  · have hexponent : 53 + (q.log2 - 52) = q.log2 + 1 := by omega
    rw [hexponent]
    exact Nat.lt_log2_self

theorem stepExponentOf_eq {q step : Nat} (hupper : q < 2 ^ 53 * 2 ^ step)
    (hlower : step = 0 ∨ 2 ^ 52 * 2 ^ step ≤ q) : stepExponentOf q = step := by
  unfold stepExponentOf ranksPerBinade
  rcases Nat.eq_zero_or_pos step with rfl | hpos
  · exact if_pos (by omega)
  · have hge : 2 ^ 52 * 2 ^ step ≤ q := hlower.resolve_left (by omega)
    have htwo : 2 ^ 1 ≤ 2 ^ step := Nat.pow_le_pow_right (by decide) hpos
    have hlog : q.log2 = 52 + step := by
      rw [Nat.log2_eq_iff (by omega), Nat.pow_succ, Nat.pow_add]
      omega
    rw [if_neg (by omega), hlog]
    omega

theorem nearestRank_eq {m step : Nat}
    (hstep : stepExponentOf (numerator / denominator) = step)
    (hround : roundHalfEven numerator (denominator * 2 ^ step) = m)
    (hrange : m + step * ranksPerBinade ≤ infinityRank) :
    nearestRank numerator denominator = m + step * ranksPerBinade := by
  have hpow : Nat.pow 2 step = 2 ^ step := rfl
  simp only [nearestRank, hstep, hpow, hround]
  exact Nat.min_eq_left hrange

/-- The significand that a quotient is rounded to fits its step. -/
theorem stepped_roundHalfEven (numerator denominator : Nat) :
    Stepped
      (roundHalfEven numerator (denominator * 2 ^ stepExponentOf (numerator / denominator)))
      (stepExponentOf (numerator / denominator)) := by
  have hle := roundHalfEven_le numerator
    (denominator * 2 ^ stepExponentOf (numerator / denominator))
  have hge := le_roundHalfEven numerator
    (denominator * 2 ^ stepExponentOf (numerator / denominator))
  rw [← Nat.div_div_eq_div_mul] at hle hge
  rcases Nat.lt_or_ge (numerator / denominator) (2 * ranksPerBinade) with hsmall | hlarge
  · have hstep : stepExponentOf (numerator / denominator) = 0 := if_pos hsmall
    rw [hstep, Nat.pow_zero, Nat.div_one] at hle
    rw [hstep]
    exact ⟨Nat.le_trans hle hsmall, .inl rfl⟩
  · obtain ⟨hlow, hhigh⟩ := two_pow_step_le hlarge
    have hbelow := (Nat.le_div_iff_mul_le (Nat.two_pow_pos _)).2 hlow
    have habove := (Nat.div_lt_iff_lt_mul (Nat.two_pow_pos _)).2 hhigh
    constructor
    · unfold ranksPerBinade
      omega
    · right
      unfold ranksPerBinade
      omega

theorem two_pow_step_le_of_le {q : Nat} (hq : 2 ^ 52 ≤ q) : 2 ^ 52 * 2 ^ stepExponentOf q ≤ q := by
  rcases Nat.lt_or_ge q (2 * ranksPerBinade) with hsmall | hlarge
  · have hzero : stepExponentOf q = 0 := if_pos hsmall
    rwa [hzero, Nat.pow_zero, Nat.mul_one]
  · exact (two_pow_step_le hlarge).1

theorem log2_lt_of_lt_mul {q step : Nat} (hne : q ≠ 0) (hq : q < (2 ^ 53 - 1) * 2 ^ step) :
    q.log2 < 53 + step := by
  have hle : (2 ^ 53 - 1) * 2 ^ step ≤ 2 ^ 53 * 2 ^ step := Nat.mul_le_mul_right _ (by decide)
  rw [Nat.log2_lt hne, Nat.pow_add]
  exact Nat.lt_of_lt_of_le hq hle

/-- Below the largest number, rounding does not reach infinity. -/
theorem roundHalfEven_lt_infinityRank (hq : numerator / denominator < largestUnits) :
    roundHalfEven numerator (denominator * 2 ^ stepExponentOf (numerator / denominator)) +
      stepExponentOf (numerator / denominator) * ranksPerBinade < infinityRank := by
  have hle := (stepped_roundHalfEven numerator denominator).le
  have hround := roundHalfEven_le numerator
    (denominator * 2 ^ stepExponentOf (numerator / denominator))
  rw [← Nat.div_div_eq_div_mul] at hround
  generalize roundHalfEven numerator
    (denominator * 2 ^ stepExponentOf (numerator / denominator)) = m at *
  generalize numerator / denominator = q at *
  unfold largestUnits at hq
  have hpos : 0 < 2 ^ topStep := Nat.two_pow_pos topStep
  by_cases htop : stepExponentOf q = topStep
  · rw [htop] at hround ⊢
    have hquotient := (Nat.div_lt_iff_lt_mul hpos).2 hq
    unfold infinityRank ranksPerBinade topStep at *
    omega
  · have hstep : stepExponentOf q ≤ topStep := by
      unfold stepExponentOf
      split
      · exact Nat.zero_le _
      · rename_i hlarge
        have hne : q ≠ 0 := by
          unfold ranksPerBinade at hlarge
          omega
        have hlog := log2_lt_of_lt_mul hne hq
        omega
    unfold infinityRank ranksPerBinade topStep at *
    omega

theorem units_nearestRank (negative : Bool) (hq : numerator / denominator < largestUnits) :
    (ofRank negative (nearestRank numerator denominator)).isFinite = true ∧
      (ofRank negative (nearestRank numerator denominator)).units =
        roundHalfEven numerator (denominator * 2 ^ stepExponentOf (numerator / denominator)) *
          2 ^ stepExponentOf (numerator / denominator) := by
  have hfinite := roundHalfEven_lt_infinityRank hq
  rw [nearestRank_eq rfl rfl (Nat.le_of_lt hfinite)]
  exact ⟨isFinite_ofRank hfinite,
    units_ofRank (stepped_roundHalfEven numerator denominator) hfinite⟩

/-- A quotient in range is rounded to a finite number, and neither of the two is more than twice the
other. -/
theorem nearestRank_bounds (negative : Bool) (hq : numerator / denominator < largestUnits) :
    (ofRank negative (nearestRank numerator denominator)).isFinite = true ∧
      (ofRank negative (nearestRank numerator denominator)).units ≤
        2 * (numerator / denominator) + 1 ∧
      numerator / denominator ≤
        2 * (ofRank negative (nearestRank numerator denominator)).units := by
  have hle := roundHalfEven_le numerator
    (denominator * 2 ^ stepExponentOf (numerator / denominator))
  have hge := le_roundHalfEven numerator
    (denominator * 2 ^ stepExponentOf (numerator / denominator))
  rw [← Nat.div_div_eq_div_mul] at hle hge
  obtain ⟨hfinite, hunits⟩ := units_nearestRank negative hq
  refine ⟨hfinite, ?_⟩
  rw [hunits]
  generalize roundHalfEven numerator
    (denominator * 2 ^ stepExponentOf (numerator / denominator)) = m at *
  generalize numerator / denominator = q at *
  generalize hs : stepExponentOf q = step at *
  have hpos : 0 < 2 ^ step := Nat.two_pow_pos step
  have hdiv : q / 2 ^ step * 2 ^ step ≤ q := Nat.div_mul_le_self q _
  have hmod : q < (q / 2 ^ step + 1) * 2 ^ step := by
    rw [Nat.mul_comm]
    exact Nat.lt_mul_div_succ q hpos
  have hupper : m * 2 ^ step ≤ (q / 2 ^ step + 1) * 2 ^ step := Nat.mul_le_mul_right _ hle
  have hlower : q / 2 ^ step * 2 ^ step ≤ m * 2 ^ step := Nat.mul_le_mul_right _ hge
  rw [Nat.add_mul, Nat.one_mul] at hmod hupper
  rcases Nat.lt_or_ge q (2 * ranksPerBinade) with hsmall | hlarge
  · have hzero : step = 0 := hs ▸ if_pos hsmall
    subst hzero
    omega
  · have hlow := (two_pow_step_le hlarge).1
    rw [hs] at hlow
    have hquotient : 2 ^ 52 ≤ q / 2 ^ step := (Nat.le_div_iff_mul_le hpos).2 hlow
    have hm : 2 ^ step ≤ m * 2 ^ step := Nat.le_mul_of_pos_left _ (by omega)
    omega

end Nearest

end Binary64

end StepLatency
