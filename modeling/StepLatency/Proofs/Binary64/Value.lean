import Mathlib
import StepLatency.Json.Number
import StepLatency.Proofs.Binary64.Operations

/-!
# Values and relative errors

The value of a magnitude is a rational number. Where the result is neither tiny nor huge, one
rounding changes a value by a factor that is close to one; the factors of several roundings
multiply. Natural numbers of 53 bits and the first powers of ten are exact.
-/

namespace StepLatency

/-! ### Relative errors -/

/-- Neither of two rationals is more than the other one times the factor. -/
structure Near (factor a b : ℚ) : Prop where
  le : a ≤ factor * b
  ge : b ≤ factor * a

namespace Near

variable {r r' a b c d : ℚ}

theorem pos (h : Near r a b) (hr : 0 ≤ r) (hb : 0 < b) : 0 < a := by
  by_contra hle
  have hproduct := mul_nonpos_of_nonneg_of_nonpos hr (not_lt.1 hle)
  exact absurd (le_trans h.ge hproduct) (not_le.2 hb)

theorem trans (h : Near r a b) (h' : Near r' b c) (hr : 0 ≤ r) (hr' : 0 ≤ r') :
    Near (r * r') a c where
  le :=
    calc a ≤ r * b := h.le
      _ ≤ r * (r' * c) := mul_le_mul_of_nonneg_left h'.le hr
      _ = r * r' * c := by ring
  ge :=
    calc c ≤ r' * b := h'.ge
      _ ≤ r' * (r * a) := mul_le_mul_of_nonneg_left h.ge hr'
      _ = r * r' * a := by ring

theorem mul_le_mul_factors (h : a ≤ r * b) (h' : c ≤ r' * d) (hc : 0 ≤ c) (hrb : 0 ≤ r * b) :
    a * c ≤ r * r' * (b * d) :=
  calc a * c ≤ r * b * (r' * d) := mul_le_mul h h' hc hrb
    _ = r * r' * (b * d) := by ring

theorem mul (h : Near r a b) (h' : Near r' c d) (ha : 0 ≤ a) (hb : 0 ≤ b) (hc : 0 ≤ c)
    (hd : 0 ≤ d) (hr : 0 ≤ r) : Near (r * r') (a * c) (b * d) where
  le := mul_le_mul_factors h.le h'.le hc (mul_nonneg hr hb)
  ge := mul_le_mul_factors h.ge h'.ge hd (mul_nonneg hr ha)

theorem inv (h : Near r a b) (ha : 0 < a) (hb : 0 < b) : Near r a⁻¹ b⁻¹ where
  le :=
    calc a⁻¹ = b * (a⁻¹ * b⁻¹) := by field_simp
      _ ≤ r * a * (a⁻¹ * b⁻¹) := mul_le_mul_of_nonneg_right h.ge (by positivity)
      _ = r * b⁻¹ := by field_simp
  ge :=
    calc b⁻¹ = a * (a⁻¹ * b⁻¹) := by field_simp
      _ ≤ r * b * (a⁻¹ * b⁻¹) := mul_le_mul_of_nonneg_right h.le (by positivity)
      _ = r * a⁻¹ := by field_simp

theorem div (h : Near r a b) (h' : Near r' c d) (ha : 0 ≤ a) (hb : 0 ≤ b) (hc : 0 < c) (hd : 0 < d)
    (hr : 0 ≤ r) : Near (r * r') (a / c) (b / d) := by
  rw [div_eq_mul_inv, div_eq_mul_inv]
  exact h.mul (h'.inv hc hd) ha hb (inv_nonneg.2 hc.le) (inv_nonneg.2 hd.le) hr

/-- A factor close to one bounds the relative error. -/
theorem abs_sub_le {e : ℚ} (h : Near r a b) (hr : r ≤ 1 + e) (ha : 0 ≤ a) (hb : 0 ≤ b)
    (he : 0 ≤ e) : |a - b| ≤ e * b := by
  have hle : a ≤ (1 + e) * b := le_trans h.le (mul_le_mul_of_nonneg_right hr hb)
  have hge : b ≤ (1 + e) * a := le_trans h.ge (mul_le_mul_of_nonneg_right hr ha)
  rw [abs_le]
  constructor <;> nlinarith

end Near

namespace Binary64

def value (x : Binary64) : ℚ := x.units / unitsPerOne

def roundingFactor : ℚ := 1 + 1 / 2 ^ 53

theorem roundingFactor_nonneg : 0 ≤ roundingFactor := by
  unfold roundingFactor
  norm_num

variable {x y : Binary64} {numerator denominator n : Nat}

theorem cast_unitsPerOne_pos : (0 : ℚ) < unitsPerOne := Nat.cast_pos.2 unitsPerOne_pos

theorem exists_unitsPerOne_eq : ∃ k, unitsPerOne = 2 ^ k :=
  ⟨1074, by decide +kernel⟩

theorem cast_units (x : Binary64) : (x.units : ℚ) = x.value * unitsPerOne := by
  rw [value, div_mul_cancel₀ _ cast_unitsPerOne_pos.ne']

theorem value_nonneg (x : Binary64) : 0 ≤ x.value := by
  unfold value
  positivity

/-! ### One rounding -/

/-- Rounded to a natural number of 53 bits, a quotient is off by one part in twice as many. -/
theorem roundHalfEven_near {part : Nat} (hpart : 0 < part) (hlarge : 2 ^ 52 * part ≤ numerator) :
    2 ^ 53 * (part * roundHalfEven numerator part) ≤ (2 ^ 53 + 1) * numerator ∧
      2 ^ 53 * numerator ≤ (2 ^ 53 + 1) * (part * roundHalfEven numerator part) := by
  have hsignificand : 2 ^ 52 ≤ roundHalfEven numerator part :=
    Nat.le_trans ((Nat.le_div_iff_mul_le hpart).2 hlarge) (le_roundHalfEven numerator part)
  have hscaled := Nat.mul_le_mul_left part hsignificand
  obtain ⟨hlower, hupper⟩ := roundHalfEven_spec numerator hpart
  generalize part * roundHalfEven numerator part = whole at *
  omega

theorem units_mul_near (hpos : 0 < denominator) (hlow : 2 ^ 52 ≤ numerator / denominator)
    (hrange : numerator / denominator < largestUnits) :
    2 ^ 53 * ((ofRank false (nearestRank numerator denominator)).units * denominator) ≤
        (2 ^ 53 + 1) * numerator ∧
      2 ^ 53 * numerator ≤
        (2 ^ 53 + 1) *
          ((ofRank false (nearestRank numerator denominator)).units * denominator) := by
  have hnormal := two_pow_step_le_of_le hlow
  rw [Nat.le_div_iff_mul_le hpos, Nat.mul_assoc, Nat.mul_comm _ denominator] at hnormal
  rw [(units_nearestRank false hrange).2, Nat.mul_assoc, Nat.mul_comm _ denominator,
    Nat.mul_comm (roundHalfEven _ _)]
  exact roundHalfEven_near (Nat.mul_pos hpos (Nat.two_pow_pos _)) hnormal

structure Moderate (q : ℚ) : Prop where
  low : 1 / 2 ^ 200 ≤ q
  high : q ≤ 2 ^ 200

theorem moderate_of_near {r q v : ℚ} (h : Near r q v) (hr : r ≤ 2) (hq : 0 ≤ q)
    (hlow : 1 / 2 ^ 199 ≤ v) (hhigh : v ≤ 2 ^ 199) : Moderate q where
  low := by
    have hle : v ≤ 2 * q := le_trans h.ge (mul_le_mul_of_nonneg_right hr hq)
    linarith
  high := by
    have hv : 0 ≤ v := le_trans (by positivity) hlow
    have hle : q ≤ 2 * v := le_trans h.le (mul_le_mul_of_nonneg_right hr hv)
    linarith

/-- A moderate quotient of units is rounded to a finite number that is close to it. -/
theorem near_value {q : ℚ} (hpos : 0 < denominator)
    (hquotient : (numerator : ℚ) = q * unitsPerOne * denominator) (hq : Moderate q) :
    (ofRank false (nearestRank numerator denominator)).isFinite = true ∧
      Near roundingFactor (ofRank false (nearestRank numerator denominator)).value q := by
  have hpos' : (0 : ℚ) < denominator := Nat.cast_pos.2 hpos
  have hone := cast_unitsPerOne_pos
  have hsmall : (2 ^ 52 * 2 ^ 200 : ℚ) ≤ unitsPerOne := by
    have hle : 2 ^ 52 * 2 ^ 200 ≤ unitsPerOne := by decide +kernel
    exact_mod_cast hle
  have hlarge : (2 ^ 200 : ℚ) < largest := by
    have hlt : 2 ^ 200 < largest := by decide +kernel
    exact_mod_cast hlt
  have hlow : 2 ^ 52 ≤ numerator / denominator := by
    rw [Nat.le_div_iff_mul_le hpos]
    have hcast : (2 ^ 52 * denominator : ℚ) ≤ numerator := by
      rw [hquotient]
      apply mul_le_mul_of_nonneg_right _ hpos'.le
      calc (2 ^ 52 : ℚ) = 1 / 2 ^ 200 * (2 ^ 52 * 2 ^ 200) := by field_simp
        _ ≤ q * unitsPerOne := mul_le_mul hq.low hsmall (by positivity)
            (le_trans (by positivity) hq.low)
    exact_mod_cast hcast
  have hrange : numerator / denominator < largestUnits := by
    rw [Nat.div_lt_iff_lt_mul hpos, largestUnits_eq]
    have hcast : (numerator : ℚ) < largest * unitsPerOne * denominator := by
      rw [hquotient]
      apply mul_lt_mul_of_pos_right _ hpos'
      exact mul_lt_mul_of_pos_right (lt_of_le_of_lt hq.high hlarge) hone
    exact_mod_cast hcast
  obtain ⟨hle, hge⟩ := units_mul_near hpos hlow hrange
  have hfinite := (nearestRank_bounds false hrange).1
  generalize ofRank false (nearestRank numerator denominator) = z at *
  have hscale : (0 : ℚ) < unitsPerOne * denominator := mul_pos hone hpos'
  have hupper : (2 ^ 53 * (z.units * denominator) : ℚ) ≤ (2 ^ 53 + 1) * numerator := by
    exact_mod_cast hle
  have hlower : (2 ^ 53 * numerator : ℚ) ≤ (2 ^ 53 + 1) * (z.units * denominator) := by
    exact_mod_cast hge
  rw [hquotient, cast_units] at hupper hlower
  refine ⟨hfinite, ?_, ?_⟩ <;> apply le_of_mul_le_mul_right _ hscale
  · unfold roundingFactor
    linarith
  · unfold roundingFactor
    linarith

/-! ### Operations -/

theorem near_ofNat (hn : 0 < n) (hword : n < UInt64.size) :
    (ofNat n).isFinite = true ∧ Near roundingFactor (ofNat n).value n := by
  apply near_value Nat.one_pos
  · push_cast
    ring
  · have hone : (1 : ℚ) ≤ n := by exact_mod_cast hn
    have htop : (n : ℚ) ≤ 2 ^ 64 := by exact_mod_cast Nat.le_of_lt hword
    constructor
    · exact le_trans (by norm_num) hone
    · exact le_trans htop (by norm_num)

theorem near_powerOfTen (hn : n ≤ 60) :
    Near roundingFactor (Json.powerOfTen n).value (10 ^ n) := by
  refine (near_value Nat.one_pos (q := 10 ^ n) ?_ ⟨?_, ?_⟩).2
  · change ((10 ^ n * unitsPerOne : Nat) : ℚ) = _
    push_cast
    ring
  · exact le_trans (by norm_num) (one_le_pow₀ (by norm_num))
  · exact le_trans (pow_le_pow_right₀ (by norm_num) hn) (by norm_num)

/-- A quotient is off by the factor of one rounding at most. -/
theorem near_divMagnitude (hy : 0 < y.value) (hq : Moderate (x.value / y.value)) :
    (x.divMagnitude y).isFinite = true ∧
      Near roundingFactor (x.divMagnitude y).value (x.value / y.value) := by
  have hunits : 0 < y.units := by
    rw [Nat.pos_iff_ne_zero]
    intro hzero
    rw [value, hzero, Nat.cast_zero, zero_div] at hy
    exact lt_irrefl _ hy
  apply near_value hunits _ hq
  rw [Nat.cast_mul, cast_units, cast_units]
  calc x.value * unitsPerOne * unitsPerOne
      = x.value / y.value * y.value * unitsPerOne * unitsPerOne := by
        rw [div_mul_cancel₀ _ hy.ne']
    _ = x.value / y.value * unitsPerOne * (y.value * unitsPerOne) := by ring

theorem near_mulMagnitude (hq : Moderate (x.value * y.value)) :
    (x.mulMagnitude y).isFinite = true ∧
      Near roundingFactor (x.mulMagnitude y).value (x.value * y.value) := by
  apply near_value unitsPerOne_pos _ hq
  push_cast
  rw [cast_units, cast_units]
  ring

/-! ### Exact results -/

/-- A quotient that is a multiple of the step of its size is not changed. -/
theorem units_nearestRank_of_dvd (numerator : Nat) (hpos : 0 < denominator)
    (hrange : numerator / denominator < largestUnits)
    (hdvd : denominator * 2 ^ stepExponentOf (numerator / denominator) ∣ numerator) :
    (ofRank false (nearestRank numerator denominator)).units * denominator = numerator := by
  rw [(units_nearestRank false hrange).2]
  generalize stepExponentOf (numerator / denominator) = step at *
  have hpart : 0 < denominator * 2 ^ step := Nat.mul_pos hpos (Nat.two_pow_pos step)
  rw [roundHalfEven_of_dvd hpart hdvd, Nat.mul_assoc, Nat.mul_comm (2 ^ step)]
  exact Nat.div_mul_cancel hdvd

/-- A natural number of 53 bits is a multiple of the step at any power of two. -/
theorem two_pow_stepExponentOf_dvd (hn : n < 2 ^ 53) (k : Nat) :
    2 ^ stepExponentOf (n * 2 ^ k) ∣ n * 2 ^ k := by
  have hstep : stepExponentOf (n * 2 ^ k) ≤ k := by
    unfold stepExponentOf
    split
    · exact Nat.zero_le _
    · rename_i hlarge
      have hne : n * 2 ^ k ≠ 0 := by
        intro hzero
        rw [hzero] at hlarge
        exact hlarge (by decide)
      have hsize := Nat.mul_lt_mul_of_pos_right hn (Nat.two_pow_pos k)
      rw [← Nat.pow_add, ← Nat.log2_lt hne] at hsize
      omega
  exact (Nat.pow_dvd_pow 2 hstep).mul_left n

/-- Whole numbers of at most 53 bits are exact. -/
theorem units_ofNat (hn : n ≤ 2 ^ 53) : (ofNat n).units = n * unitsPerOne := by
  rcases Nat.lt_or_eq_of_le hn with hlt | rfl
  · have hdvd : 2 ^ stepExponentOf (n * unitsPerOne) ∣ n * unitsPerOne := by
      obtain ⟨k, hk⟩ := exists_unitsPerOne_eq
      rw [hk]
      exact two_pow_stepExponentOf_dvd hlt k
    have htop : 2 ^ 53 < largest := by decide +kernel
    have hrange : n * unitsPerOne < largestUnits := by
      rw [largestUnits_eq]
      exact Nat.mul_lt_mul_of_pos_right (Nat.lt_trans hlt htop) unitsPerOne_pos
    have hexact := units_nearestRank_of_dvd (n * unitsPerOne) Nat.one_pos
      (by rwa [Nat.div_one]) (by rwa [Nat.div_one, Nat.one_mul])
    rwa [Nat.mul_one] at hexact
  · decide +kernel

theorem value_ofNat (hn : n ≤ 2 ^ 53) : (ofNat n).value = n := by
  rw [value, units_ofNat hn, Nat.cast_mul, mul_div_cancel_right₀ _ cast_unitsPerOne_pos.ne']

theorem value_powerOfTen (hn : n ≤ 22) : (Json.powerOfTen n).value = 10 ^ n := by
  have hall : ∀ n ≤ 22, (Json.powerOfTen n).units = 10 ^ n * unitsPerOne := by decide +kernel
  rw [value, hall n hn, Nat.cast_mul, mul_div_cancel_right₀ _ cast_unitsPerOne_pos.ne',
    Nat.cast_pow, Nat.cast_ofNat]

end Binary64

end StepLatency
