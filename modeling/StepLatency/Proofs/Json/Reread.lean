import Mathlib
import StepLatency.Proofs.Decimal.ReadBack
import StepLatency.Proofs.Json.Magnitude
import StepLatency.Proofs.Json.NumberText

/-!
# Numbers that are read back

A number is written as its shortest decimal, which would be rounded back to it; but it is read in
two roundings, of the digits and of the power of ten, and a third one joins them. Each of them is
exact for few digits and small powers, and then the number comes back. Else it comes back with a
relative error of a few roundings.
-/

namespace StepLatency.Json

open Binary64 (Moderate roundingFactor)

/-! ### Significands with a power of ten -/

namespace Scaled

def read (s : Scaled) : Binary64 :=
  if s.exponent < 0 then
    (Binary64.ofNat s.significand).divMagnitude (powerOfTen s.exponent.natAbs)
  else (Binary64.ofNat s.significand).mulMagnitude (powerOfTen s.exponent.toNat)

def value (s : Scaled) : ℚ := s.significand * 10 ^ s.exponent

variable {s : Scaled}

/-- Within these powers of ten a magnitude is read, and it is finite. -/
theorem magnitude?_eq_read (hfits : s.significand < UInt64.size)
    (hlow : -(maxPower : Int) ≤ s.exponent) (hhigh : s.exponent ≤ safePower) :
    s.magnitude? = some s.read ∧ s.read.isFinite = true := by
  obtain ⟨y, hy, hfinite⟩ := exists_magnitude? hfits hhigh
  have hread : y = s.read := by
    unfold magnitude? at hy
    unfold read
    dsimp only at hy
    split at hy
    · rename_i hneg
      rw [scaleDown_of_le (by omega)] at hy
      rw [if_pos hneg]
      exact (Option.some.inj hy).symm
    · rename_i hneg
      have hpower : s.exponent.toNat ≤ maxPower := by
        unfold safePower at hhigh
        unfold maxPower
        omega
      rw [if_pos hpower] at hy
      rw [if_neg hneg]
      split at hy
      · exact (Option.some.inj hy).symm
      · exact nomatch hy
  rw [← hread]
  exact ⟨hy, hfinite⟩

theorem value_cases (s : Scaled) :
    s.exponent < 0 ∧ s.value = s.significand / 10 ^ s.exponent.natAbs ∨
      0 ≤ s.exponent ∧ s.value = s.significand * 10 ^ s.exponent.toNat := by
  unfold value
  rcases Int.lt_or_le s.exponent 0 with hneg | hnonneg
  · left
    have hexponent : s.exponent = -(s.exponent.natAbs : Int) := by omega
    refine ⟨hneg, ?_⟩
    rw [hexponent, zpow_neg, zpow_natCast, Int.natAbs_neg, Int.natAbs_natCast, div_eq_mul_inv]
  · right
    have hexponent : s.exponent = (s.exponent.toNat : Int) := by omega
    refine ⟨hnonneg, ?_⟩
    rw [hexponent, zpow_natCast, Int.toNat_natCast]

theorem value_bounds (hpos : 0 < s.significand) (hfits : s.significand < UInt64.size)
    (hlow : -45 ≤ s.exponent) (hhigh : s.exponent ≤ 30) :
    1 / 2 ^ 199 ≤ s.value ∧ s.value ≤ 2 ^ 199 := by
  have hone : (1 : ℚ) ≤ s.significand := by exact_mod_cast hpos
  have hword : (s.significand : ℚ) ≤ 2 ^ 64 := by exact_mod_cast Nat.le_of_lt hfits
  have hsmall : (10 : ℚ) ^ (-45 : Int) ≤ 10 ^ s.exponent :=
    zpow_le_zpow_right₀ (by norm_num) hlow
  have hlarge : (10 : ℚ) ^ s.exponent ≤ 10 ^ (30 : Int) :=
    zpow_le_zpow_right₀ (by norm_num) hhigh
  have hpower : (0 : ℚ) < 10 ^ s.exponent := zpow_pos (by norm_num) _
  constructor
  · calc (1 / 2 ^ 199 : ℚ) ≤ 1 * 10 ^ (-45 : Int) := by norm_num
      _ ≤ s.significand * 10 ^ s.exponent := mul_le_mul hone hsmall (by positivity) (by positivity)
  · calc (s.significand : ℚ) * 10 ^ s.exponent ≤ 2 ^ 64 * 10 ^ (30 : Int) :=
          mul_le_mul hword hlarge hpower.le (by positivity)
      _ ≤ 2 ^ 199 := by norm_num

/-- Three roundings lie between what was written and what is read. -/
theorem near_read (hpos : 0 < s.significand) (hfits : s.significand < UInt64.size)
    (hlow : -45 ≤ s.exponent) (hhigh : s.exponent ≤ 30) :
    Near (roundingFactor * (roundingFactor * roundingFactor)) s.read.value s.value := by
  obtain ⟨hsmall, hlarge⟩ := value_bounds hpos hfits hlow hhigh
  have hdigits := (Binary64.near_ofNat hpos hfits).2
  have hfactor := Binary64.roundingFactor_nonneg
  have htwo : roundingFactor * roundingFactor ≤ 2 := by unfold roundingFactor; norm_num
  have hvalue := (Binary64.ofNat s.significand).value_nonneg
  have hsignificand : (0 : ℚ) ≤ s.significand := Nat.cast_nonneg _
  -- The digits and the power of ten are rounded each, and their quotient or product once more.
  unfold read
  rcases s.value_cases with ⟨hneg, heq⟩ | ⟨hnonneg, heq⟩
  · have hten : (0 : ℚ) < 10 ^ s.exponent.natAbs := by positivity
    have hpower := Binary64.near_powerOfTen (n := s.exponent.natAbs) (by omega)
    have hpositive := hpower.pos hfactor hten
    have hquotient := hdigits.div hpower hvalue hsignificand hpositive hten hfactor
    rw [← heq] at hquotient
    have hmoderate := Binary64.moderate_of_near hquotient htwo (div_nonneg hvalue hpositive.le)
      hsmall hlarge
    rw [if_pos hneg]
    exact (Binary64.near_divMagnitude hpositive hmoderate).2.trans hquotient hfactor
      (mul_nonneg hfactor hfactor)
  · have hten : (0 : ℚ) < 10 ^ s.exponent.toNat := by positivity
    have hpower := Binary64.near_powerOfTen (n := s.exponent.toNat) (by omega)
    have hpositive := hpower.pos hfactor hten
    have hproduct := hdigits.mul hpower hvalue hsignificand hpositive.le hten.le hfactor
    rw [← heq] at hproduct
    have hmoderate := Binary64.moderate_of_near hproduct htwo (mul_nonneg hvalue hpositive.le)
      hsmall hlarge
    rw [if_neg (Int.not_lt.2 hnonneg)]
    exact (Binary64.near_mulMagnitude hmoderate).2.trans hproduct hfactor
      (mul_nonneg hfactor hfactor)

/-- With few digits and a small power only the last rounding is left. -/
theorem read_eq_nearest (hdigits : s.significand ≤ 2 ^ 53) (hpower : s.exponent.natAbs ≤ 22) :
    ∃ numerator denominator : Nat, 0 < denominator ∧
      (numerator : ℚ) = s.value * Binary64.unitsPerOne * denominator ∧
      s.read = Binary64.ofRank false (Binary64.nearestRank numerator denominator) := by
  have hvalue := Binary64.value_ofNat hdigits
  unfold read
  rcases s.value_cases with ⟨hneg, heq⟩ | ⟨hnonneg, heq⟩
  · have hten := Binary64.value_powerOfTen hpower
    have hpos : 0 < (powerOfTen s.exponent.natAbs).units := by
      rw [← Nat.cast_pos (α := ℚ), Binary64.cast_units, hten]
      exact mul_pos (by positivity) Binary64.cast_unitsPerOne_pos
    refine ⟨_, _, hpos, ?_, if_pos hneg⟩
    rw [Nat.cast_mul, Binary64.cast_units, Binary64.cast_units, hvalue, hten, heq]
    generalize (Binary64.unitsPerOne : ℚ) = one
    field_simp
  · have hten := Binary64.value_powerOfTen (n := s.exponent.toNat) (by omega)
    refine ⟨_, _, Binary64.unitsPerOne_pos, ?_, if_neg (Int.not_lt.2 hnonneg)⟩
    rw [Nat.cast_mul, Binary64.cast_units, Binary64.cast_units, hvalue, hten, heq]
    ring

end Scaled

/-! ### Numbers -/

def reread (x : Binary64) : Binary64 := (written x).read

/-- Zero, or far from both ends of the range. -/
structure IsModerate (x : Binary64) : Prop where
  finite : x.isFinite = true
  positive : x.isNegative = false
  low : x.isZero = true ∨ Binary64.unitsPerOne ≤ 2 ^ 69 * x.units
  high : x.units < 2 ^ 68 * Binary64.unitsPerOne

theorem isModerate_average {p : Pacing} {x : Binary64} (h : p.average = some x) :
    IsModerate x where
  finite := (Pacing.isFinite_average h).1
  positive := (Pacing.isFinite_average h).2.1
  low := Pacing.unitsPerOne_le_average h
  high := (Pacing.isFinite_average h).2.2

section Numbers

variable {x : Binary64}

/-- The text of a number stands for its shortest decimal. -/
theorem value_written (hx : x.isZero = false) :
    (written x).value = (Decimal.shortest Binary64.jsonLayout.tie x).value := by
  unfold written
  rw [if_neg (ne_true_of_eq_false hx)]
  generalize Decimal.shortest Binary64.jsonLayout.tie x = decimal
  dsimp only
  split
  · rename_i hlaid
    obtain ⟨n, hn⟩ := Int.eq_ofNat_of_zero_le hlaid.2
    rw [Scaled.value, Decimal.value, hn, Int.toNat_natCast, zpow_natCast, zpow_neg_one]
    push_cast
    field_simp
    ring
  · rfl

theorem reread_zero (hx : x.isZero = true) (hpositive : x.isNegative = false) : reread x = x := by
  have hrank : x.rank = 0 := by simpa [Binary64.isZero] using hx
  have hzero : x = Binary64.ofRank false 0 := by
    rw [← hrank]
    exact (Binary64.ofRank_rank (decide_eq_true (by rw [hrank]; decide)) hpositive).symm
  have hread : Scaled.read ⟨0, -1⟩ = Binary64.ofRank false 0 := by decide +kernel
  rw [reread, written, if_pos hx, hread]
  exact hzero.symm

theorem IsModerate.normal (hx : IsModerate x) (hzero : x.isZero = false) : 2 ^ 52 ≤ x.units := by
  have hlow := hx.low.resolve_left (ne_true_of_eq_false hzero)
  have hone : 2 ^ 69 * 2 ^ 52 ≤ Binary64.unitsPerOne := by decide +kernel
  exact Nat.le_of_mul_le_mul_left (Nat.le_trans hone hlow) (by decide)

theorem IsModerate.le_value (hx : IsModerate x) (hzero : x.isZero = false) :
    1 / 2 ^ 69 ≤ x.value := by
  have hlow := hx.low.resolve_left (ne_true_of_eq_false hzero)
  have hcast : (Binary64.unitsPerOne : ℚ) ≤ 2 ^ 69 * x.units := by exact_mod_cast hlow
  rw [Binary64.cast_units] at hcast
  apply le_of_mul_le_mul_right _ Binary64.cast_unitsPerOne_pos
  linarith

theorem IsModerate.exponent_bounds (hx : IsModerate x) (hzero : x.isZero = false) :
    -45 ≤ (Decimal.shortest Binary64.jsonLayout.tie x).exponent ∧
      (Decimal.shortest Binary64.jsonLayout.tie x).exponent ≤ 20 := by
  obtain ⟨hhigh, hdigits⟩ := shortest_lt hzero hx.high
  have hnear := (Decimal.near_shortest Binary64.jsonLayout.tie (hx.normal hzero)).ge
  generalize Decimal.shortest Binary64.jsonLayout.tie x = decimal at *
  refine ⟨?_, hhigh⟩
  by_contra hlow
  have hdigits' : (decimal.digits : ℚ) ≤ 60 * 2 ^ 53 := by exact_mod_cast Nat.le_of_lt hdigits
  have hpower : (10 : ℚ) ^ decimal.exponent ≤ 10 ^ (-46 : Int) :=
    zpow_le_zpow_right₀ (by norm_num) (by omega)
  have hvalue : decimal.value ≤ 60 * 2 ^ 53 * 10 ^ (-46 : Int) :=
    mul_le_mul hdigits' hpower (zpow_nonneg (by norm_num) _) (by norm_num)
  have hsmall : Decimal.shortestFactor * (60 * 2 ^ 53 * 10 ^ (-46 : Int)) < 1 / 2 ^ 69 := by
    unfold Decimal.shortestFactor
    norm_num
  exact absurd (hx.le_value hzero) (not_le.2 (lt_of_le_of_lt
    (le_trans hnear (mul_le_mul_of_nonneg_left hvalue Decimal.shortestFactor_nonneg)) hsmall))

theorem IsModerate.written_bounds (hx : IsModerate x) (hzero : x.isZero = false) :
    0 < (written x).significand ∧ -45 ≤ (written x).exponent ∧ (written x).exponent ≤ 30 := by
  obtain ⟨hlow, hhigh⟩ := hx.exponent_bounds hzero
  obtain ⟨hdigits, -⟩ := Decimal.shortest_bounds Binary64.jsonLayout.tie hzero hx.high (k := 21)
    (by decide)
  unfold written
  rw [if_neg (ne_true_of_eq_false hzero)]
  generalize Decimal.shortest Binary64.jsonLayout.tie x = decimal at *
  dsimp only
  split
  · have hpower : (-45 : Int) ≤ -1 ∧ (-1 : Int) ≤ 30 := by decide
    exact ⟨Nat.mul_pos hdigits (Nat.pow_pos (by decide)), hpower⟩
  · exact ⟨hdigits, hlow, Int.le_trans hhigh (by decide)⟩

/-- The text of a moderate number is read as a finite one. -/
theorem IsModerate.magnitude?_written (hx : IsModerate x) :
    (written x).magnitude? = some (reread x) ∧ (reread x).isFinite = true := by
  have hexponent : -45 ≤ (written x).exponent ∧ (written x).exponent ≤ 30 := by
    cases hzero : x.isZero with
    | true =>
        rw [written, if_pos hzero]
        decide
    | false => exact (hx.written_bounds hzero).2
  apply Scaled.magnitude?_eq_read (written_fits hx.high)
  · unfold maxPower
    omega
  · unfold Scaled.safePower
    omega

theorem IsModerate.writes_toJson (hx : IsModerate x) : Writes x.toJson.toList (written x) :=
  Json.writes_toJson hx.finite hx.positive hx.high

theorem IsModerate.scanNumber_toJson (hx : IsModerate x) {rest : List Char}
    (hrest : EndsNumber rest) :
    scanNumber (x.toJson.toList ++ rest) = .ok (.real (reread x), rest) :=
  hx.writes_toJson.scanNumber_append (written_fits hx.high) hx.magnitude?_written.1 hrest

/-- A moderate number comes back with a small relative error. -/
theorem IsModerate.abs_reread_sub_le (hx : IsModerate x) :
    |(reread x).value - x.value| ≤ x.value / 2 ^ 50 := by
  cases hzero : x.isZero with
  | true =>
      rw [reread_zero hzero hx.positive, sub_self, abs_zero]
      exact div_nonneg x.value_nonneg (by positivity)
  | false =>
      obtain ⟨hpos, hlow, hhigh⟩ := hx.written_bounds hzero
      have hread := Scaled.near_read hpos (written_fits hx.high) hlow hhigh
      rw [value_written hzero] at hread
      have hfactor := Binary64.roundingFactor_nonneg
      have hnear := hread.trans
        (Decimal.near_shortest Binary64.jsonLayout.tie (hx.normal hzero))
        (mul_nonneg hfactor (mul_nonneg hfactor hfactor)) Decimal.shortestFactor_nonneg
      have hall : roundingFactor * (roundingFactor * roundingFactor) * Decimal.shortestFactor ≤
          1 + 1 / 2 ^ 50 := by
        unfold roundingFactor Decimal.shortestFactor
        norm_num
      have hclose := hnear.abs_sub_le hall (reread x).value_nonneg x.value_nonneg (by norm_num)
      rwa [one_div_mul_eq_div] at hclose

/-- With few digits and a small power of ten a number comes back as it was. -/
theorem IsModerate.reread_eq (hx : IsModerate x) (hdigits : (written x).significand ≤ 2 ^ 53)
    (hpower : (written x).exponent.natAbs ≤ 22) : reread x = x := by
  cases hzero : x.isZero with
  | true => exact reread_zero hzero hx.positive
  | false =>
      obtain ⟨numerator, denominator, hpos, hquotient, hread⟩ :=
        Scaled.read_eq_nearest hdigits hpower
      rw [value_written hzero] at hquotient
      rw [reread, hread]
      exact Decimal.ofRank_nearestRank_shortest _ hx.finite hx.positive hzero hpos hquotient

end Numbers

end StepLatency.Json
