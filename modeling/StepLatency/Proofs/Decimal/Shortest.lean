import Mathlib
import StepLatency.Decimal.Shortest
import StepLatency.Proofs.Binary64.Operations
import StepLatency.Proofs.Decimal.Digits

/-!
# The size of a shortest decimal

There always is a shortest decimal, and it lies among the reals that round to its number. So it is
not zero unless the number is, and its point stands where the size of the number puts it. It has few
digits, since no point of the next coarser grid would do.
-/

namespace StepLatency.Decimal

open Binary64 (unitsPerOne)

section Interval

variable {x : Binary64}

theorem Interval.holds_le {i : Interval} {numerator denominator : Nat}
    (h : i.holds numerator denominator = true) :
    i.lower * denominator ≤ numerator ∧ numerator ≤ i.upper * denominator := by
  unfold holds at h
  split at h
  · simpa using h
  · have hboth : i.lower * denominator < numerator ∧ numerator < i.upper * denominator := by
      simpa using h
    omega

theorem Interval.lt_of_holds {i : Interval} {numerator denominator : Nat}
    (h : i.holds numerator denominator = true) (hopen : i.closed = false) :
    i.lower * denominator < numerator ∧ numerator < i.upper * denominator := by
  rw [holds, hopen] at h
  simpa using h

theorem significand_pos (hx : x.isZero = false) : 0 < x.significand := by
  have hrank : x.rank ≠ 0 := by simpa [Binary64.isZero] using hx
  unfold Binary64.significand
  split
  · omega
  · unfold Binary64.ranksPerBinade
    omega

/-- The reals that round to a number that is not zero are positive, and at most half as large again
as the number. -/
theorem intervalOf_bounds (hx : x.isZero = false) :
    0 < (intervalOf x).lower ∧ (intervalOf x).upper ≤ 6 * x.units := by
  have hunits : x.units = x.significand * 2 ^ x.stepExponent := rfl
  have hstep : 2 ^ x.stepExponent ≤ x.units := by
    rw [hunits]
    exact Nat.le_mul_of_pos_left _ (significand_pos hx)
  have hpos : 0 < 2 ^ x.stepExponent := Nat.two_pow_pos _
  have hpow : Nat.pow 2 x.stepExponent = 2 ^ x.stepExponent := rfl
  simp only [intervalOf, hpow]
  constructor
  · split <;> omega
  · omega

theorem Interval.holds_of_lt {i : Interval} {numerator denominator : Nat}
    (hlower : i.lower * denominator < numerator) (hupper : numerator < i.upper * denominator) :
    i.holds numerator denominator = true := by
  unfold holds
  split <;> simp only [Bool.and_eq_true, decide_eq_true_eq] <;> omega

/-- The interval reaches at least a quarter of a step below its number. -/
theorem lower_intervalOf_add_le (hx : x.isZero = false) :
    (intervalOf x).lower + 2 ^ x.stepExponent ≤ (intervalOf x).center := by
  have hstep : 2 ^ x.stepExponent ≤ x.units := Nat.le_mul_of_pos_left _ (significand_pos hx)
  have hpos : 0 < 2 ^ x.stepExponent := Nat.two_pow_pos _
  have hpow : Nat.pow 2 x.stepExponent = 2 ^ x.stepExponent := rfl
  simp only [intervalOf, hpow]
  split <;> omega

theorem center_lt_upper_intervalOf (x : Binary64) :
    (intervalOf x).center < (intervalOf x).upper := by
  have hpos : 0 < 2 ^ x.stepExponent := Nat.two_pow_pos _
  have hpow : Nat.pow 2 x.stepExponent = 2 ^ x.stepExponent := rfl
  simp only [intervalOf, hpow]
  omega

end Interval

/-! ### Points of a grid -/

section Grid

variable {x : Binary64} {tie : Tie} {i : Interval} {exponent : Int} {d : Decimal}

/-- A point that is found lies on the grid and in the interval. -/
theorem holds_of_onGrid (h : onGrid tie i exponent = some d) :
    d.exponent = exponent ∧
      i.holds (d.digits * (gridStep exponent).1) (gridStep exponent).2 = true := by
  unfold onGrid at h
  generalize gridStep exponent = g at *
  obtain ⟨step, denominator⟩ := g
  dsimp only at h ⊢
  generalize i.center * denominator / step = below at h
  cases hbelow : i.holds (below * step) denominator <;>
    cases habove : i.holds ((below + 1) * step) denominator <;>
    simp only [hbelow, habove, Option.some.injEq, reduceCtorEq] at h
  · exact ⟨h ▸ rfl, h ▸ habove⟩
  · exact ⟨h ▸ rfl, h ▸ hbelow⟩
  · subst h
    refine ⟨rfl, ?_⟩
    dsimp only
    split
    · exact hbelow
    · exact habove

theorem gridStep_pos (exponent : Int) : 0 < (gridStep exponent).1 ∧ 0 < (gridStep exponent).2 := by
  have hone := Binary64.unitsPerOne_pos
  have hpow (n : Nat) : 0 < Nat.pow 10 n := Nat.pow_pos (by decide)
  unfold gridStep
  split
  · exact ⟨Nat.mul_pos (Nat.mul_pos (by decide) hone) (hpow _), Nat.one_pos⟩
  · exact ⟨Nat.mul_pos (by decide) hone, hpow _⟩

theorem gridStep_succ (exponent : Int) :
    (gridStep (exponent + 1)).1 * (gridStep exponent).2 =
      10 * (gridStep exponent).1 * (gridStep (exponent + 1)).2 := by
  have hpow (n : Nat) : Nat.pow 10 n = 10 ^ n := rfl
  unfold gridStep
  rcases Int.lt_trichotomy exponent (-1) with hneg | rfl | hpos
  · have hnext : (-exponent).toNat = (-(exponent + 1)).toNat + 1 := by omega
    rw [if_neg (by omega), if_neg (by omega)]
    simp only [hpow, hnext, Nat.pow_succ]
    ring
  · decide +kernel
  · have hnext : (exponent + 1).toNat = exponent.toNat + 1 := by omega
    rw [if_pos (by omega), if_pos (by omega)]
    simp only [hpow, hnext, Nat.pow_succ]
    ring

/-- A grid whose steps are no larger than the reach of the interval has a point in it. -/
theorem isSome_onGrid (hcenter : i.center < i.upper)
    (hreach : i.lower * (gridStep exponent).2 + (gridStep exponent).1 ≤
      i.center * (gridStep exponent).2) :
    (onGrid tie i exponent).isSome = true := by
  obtain ⟨hstep, hdenominator⟩ := gridStep_pos exponent
  unfold onGrid
  generalize gridStep exponent = g at *
  obtain ⟨step, denominator⟩ := g
  dsimp only at *
  have hbelow := Nat.div_mul_le_self (i.center * denominator) step
  have habove := Nat.lt_mul_div_succ (i.center * denominator) hstep
  rw [Nat.mul_succ, Nat.mul_comm step] at habove
  have hupper := Nat.mul_lt_mul_of_pos_right hcenter hdenominator
  have hholds : i.holds (i.center * denominator / step * step) denominator = true :=
    Interval.holds_of_lt (by omega) (by omega)
  rw [hholds]
  split <;> simp_all

theorem mem_gridExponents : exponent ∈ gridExponents ↔ -324 ≤ exponent ∧ exponent ≤ 309 := by
  unfold gridExponents
  rw [List.mem_map]
  constructor
  · rintro ⟨i, hi, rfl⟩
    have hlt := List.mem_range.1 hi
    omega
  · rintro ⟨hlow, hhigh⟩
    exact ⟨(309 - exponent).toNat, List.mem_range.2 (by omega), by omega⟩

theorem pairwise_gridExponents : gridExponents.Pairwise (· > ·) := by
  unfold gridExponents
  rw [List.pairwise_map]
  exact List.pairwise_lt_range.imp fun hlt => by omega

/-- The finest grid has a point in every interval. -/
theorem isSome_onGrid_finest (tie : Tie) (hx : x.isZero = false) :
    (onGrid tie (intervalOf x) (-324)).isSome = true := by
  apply isSome_onGrid (center_lt_upper_intervalOf x)
  have hfine : (gridStep (-324)).1 ≤ (gridStep (-324)).2 := by decide +kernel
  have hstep : 1 ≤ 2 ^ x.stepExponent := Nat.two_pow_pos _
  have hreach := lower_intervalOf_add_le hx
  calc (intervalOf x).lower * (gridStep (-324)).2 + (gridStep (-324)).1
      ≤ (intervalOf x).lower * (gridStep (-324)).2 + (gridStep (-324)).2 :=
        Nat.add_le_add_left hfine _
    _ = ((intervalOf x).lower + 1) * (gridStep (-324)).2 := (Nat.succ_mul _ _).symm
    _ ≤ (intervalOf x).center * (gridStep (-324)).2 := Nat.mul_le_mul_right _ (by omega)

/-- The shortest decimal is found on its grid, and no coarser grid has a point in the interval. -/
theorem onGrid_shortest (tie : Tie) (hx : x.isZero = false) :
    (shortest tie x).exponent ∈ gridExponents ∧
      onGrid tie (intervalOf x) (shortest tie x).exponent = some (shortest tie x) ∧
      ∀ coarser ∈ gridExponents, (shortest tie x).exponent < coarser →
        onGrid tie (intervalOf x) coarser = none := by
  unfold shortest
  cases hfind : gridExponents.findSome? (onGrid tie (intervalOf x)) with
  | none =>
      have hnone := List.findSome?_eq_none_iff.1 hfind (-324) (mem_gridExponents.2 (by decide))
      have hsome := isSome_onGrid_finest tie hx
      rw [hnone] at hsome
      exact nomatch hsome
  | some d =>
      obtain ⟨before, exponent, after, hlist, hgrid, hbefore⟩ :=
        List.findSome?_eq_some_iff.1 hfind
      obtain ⟨hexponent, -⟩ := holds_of_onGrid hgrid
      have hmem : exponent ∈ gridExponents := by
        rw [hlist]
        exact List.mem_append_right _ List.mem_cons_self
      rw [Option.getD_some, hexponent]
      refine ⟨hmem, hgrid, fun coarser hcoarser hlt => hbefore coarser ?_⟩
      have hpairwise := pairwise_gridExponents
      rw [hlist, List.pairwise_append] at hpairwise
      have hafter := (List.pairwise_cons.1 hpairwise.2.1).1
      rw [hlist, List.mem_append, List.mem_cons] at hcoarser
      rcases hcoarser with hin | rfl | hin
      · exact hin
      · exact absurd hlt (Int.lt_irrefl _)
      · exact absurd hlt (Int.not_lt.2 (Int.le_of_lt (hafter coarser hin)))

theorem holds_shortest (tie : Tie) (hx : x.isZero = false) :
    (intervalOf x).holds ((shortest tie x).digits * (gridStep (shortest tie x).exponent).1)
      (gridStep (shortest tie x).exponent).2 = true :=
  (holds_of_onGrid (onGrid_shortest tie hx).2.1).2

theorem pow_length_le {n : Nat} (hn : 0 < n) : 10 ^ ((Nat.toDigits 10 n).length - 1) ≤ n := by
  rcases Nat.lt_or_ge 1 (Nat.toDigits 10 n).length with hlong | hshort
  · have hnot : ¬ (Nat.toDigits 10 n).length ≤ (Nat.toDigits 10 n).length - 1 := by omega
    rw [Nat.length_toDigits_le_iff (by decide) (by omega)] at hnot
    exact Nat.le_of_not_lt hnot
  · have hone : (Nat.toDigits 10 n).length - 1 = 0 := by omega
    rw [hone, Nat.pow_zero]
    exact hn

/-- Where the point of a decimal stands that is a power of ten smaller than a limit. -/
theorem point_le {digits limit : Nat} (hdigits : 0 < digits) {size : Nat}
    (hunits : size < limit * unitsPerOne) {k : Nat} (hlimit : 3 * limit ≤ 2 * 10 ^ k)
    (hle : digits * (gridStep exponent).1 ≤ 6 * size * (gridStep exponent).2) :
    exponent + (Nat.toDigits 10 digits).length ≤ k := by
  have hlength := pow_length_le hdigits
  have hlong : 0 < (Nat.toDigits 10 digits).length := Nat.length_toDigits_pos
  unfold gridStep at hle
  split at hle
  · rename_i hexponent
    have hscaled : 4 * (10 ^ ((Nat.toDigits 10 digits).length - 1) * 10 ^ exponent.toNat) *
        unitsPerOne < 6 * limit * unitsPerOne :=
      calc 4 * (10 ^ ((Nat.toDigits 10 digits).length - 1) * 10 ^ exponent.toNat) * unitsPerOne ≤
            4 * (digits * 10 ^ exponent.toNat) * unitsPerOne :=
            Nat.mul_le_mul_right _ (Nat.mul_le_mul_left _ (Nat.mul_le_mul_right _ hlength))
        _ = digits * (4 * unitsPerOne * 10 ^ exponent.toNat) := by ring
        _ ≤ 6 * size * 1 := hle
        _ = 6 * size := Nat.mul_one _
        _ < 6 * (limit * unitsPerOne) := Nat.mul_lt_mul_of_pos_left hunits (by decide)
        _ = 6 * limit * unitsPerOne := (Nat.mul_assoc _ _ _).symm
    have hlt := Nat.lt_of_mul_lt_mul_right hscaled
    have hpow : 10 ^ ((Nat.toDigits 10 digits).length - 1) * 10 ^ exponent.toNat < 10 ^ k := by
      omega
    rw [← Nat.pow_add] at hpow
    have hcount := (Nat.pow_lt_pow_iff_right (by decide : 1 < 10)).1 hpow
    omega
  · rename_i hexponent
    have hscaled : 4 * 10 ^ ((Nat.toDigits 10 digits).length - 1) * unitsPerOne <
        6 * (limit * 10 ^ (-exponent).toNat) * unitsPerOne :=
      calc 4 * 10 ^ ((Nat.toDigits 10 digits).length - 1) * unitsPerOne ≤
            4 * digits * unitsPerOne :=
            Nat.mul_le_mul_right _ (Nat.mul_le_mul_left _ hlength)
        _ = digits * (4 * unitsPerOne) := by ring
        _ ≤ 6 * size * 10 ^ (-exponent).toNat := hle
        _ < 6 * (limit * unitsPerOne) * 10 ^ (-exponent).toNat :=
            Nat.mul_lt_mul_of_pos_right (Nat.mul_lt_mul_of_pos_left hunits (by decide))
              (Nat.pow_pos (by decide))
        _ = 6 * (limit * 10 ^ (-exponent).toNat) * unitsPerOne := by ring
    have hlt := Nat.lt_of_mul_lt_mul_right hscaled
    have hlimit' := Nat.mul_le_mul_right (10 ^ (-exponent).toNat) hlimit
    have hpow : 10 ^ ((Nat.toDigits 10 digits).length - 1) < 10 ^ k * 10 ^ (-exponent).toNat := by
      rw [Nat.mul_assoc, Nat.mul_assoc] at hlimit'
      omega
    rw [← Nat.pow_add] at hpow
    have hcount := (Nat.pow_lt_pow_iff_right (by decide : 1 < 10)).1 hpow
    omega

/-- The shortest decimal of a number below a limit is not zero, and its point and its exponent stay
near. -/
theorem shortest_bounds (tie : Tie) (hx : x.isZero = false) {limit k : Nat}
    (hunits : x.units < limit * unitsPerOne) (hlimit : 3 * limit ≤ 2 * 10 ^ k) :
    0 < (shortest tie x).digits ∧ -324 ≤ (shortest tie x).exponent ∧
      (shortest tie x).exponent + (Nat.toDigits 10 (shortest tie x).digits).length ≤ k := by
  obtain ⟨hlower, hupper⟩ := Interval.holds_le (holds_shortest tie hx)
  obtain ⟨hpos, hbound⟩ := intervalOf_bounds hx
  have hdigits : 0 < (shortest tie x).digits := by
    rw [Nat.pos_iff_ne_zero]
    intro hzero
    rw [hzero, Nat.zero_mul, Nat.le_zero] at hlower
    exact absurd hlower (Nat.mul_pos hpos (gridStep_pos _).2).ne'
  refine ⟨hdigits, (mem_gridExponents.1 (onGrid_shortest tie hx).1).1,
    point_le hdigits hunits hlimit ?_⟩
  exact Nat.le_trans hupper (Nat.mul_le_mul_right _ hbound)

/-- A shortest decimal has few digits. -/
theorem digits_shortest_lt (tie : Tie) (hx : x.isZero = false)
    (hexponent : (shortest tie x).exponent < 309) : (shortest tie x).digits < 60 * 2 ^ 53 := by
  obtain ⟨hmem, -, hcoarser⟩ := onGrid_shortest tie hx
  obtain ⟨-, hupper⟩ := Interval.holds_le (holds_shortest tie hx)
  generalize shortest tie x = d at *
  have hlow := (mem_gridExponents.1 hmem).1
  have hnone := hcoarser (d.exponent + 1) (mem_gridExponents.2 (by omega)) (by omega)
  obtain ⟨hstep, hdenominator⟩ := gridStep_pos d.exponent
  obtain ⟨-, hdenominator'⟩ := gridStep_pos (d.exponent + 1)
  have hsucc := gridStep_succ d.exponent
  generalize hcoarse : gridStep (d.exponent + 1) = coarse at *
  generalize gridStep d.exponent = fine at *
  -- The steps of the coarser grid are larger than the reach of the interval.
  have hlarge : 2 ^ x.stepExponent * coarse.2 < coarse.1 := by
    by_contra hle
    have hreach := Nat.mul_le_mul_right coarse.2 (lower_intervalOf_add_le hx)
    rw [Nat.add_mul] at hreach
    have hsome : (onGrid tie (intervalOf x) (d.exponent + 1)).isSome = true :=
      isSome_onGrid (center_lt_upper_intervalOf x) (by rw [hcoarse]; omega)
    rw [hnone] at hsome
    exact nomatch hsome
  have hsize : (intervalOf x).upper ≤ 6 * 2 ^ 53 * 2 ^ x.stepExponent := by
    have hunits : x.units ≤ 2 ^ 53 * 2 ^ x.stepExponent :=
      Nat.mul_le_mul_right _ (Nat.le_of_lt x.significand_lt)
    have hbound := (intervalOf_bounds hx).2
    omega
  apply Nat.lt_of_mul_lt_mul_right (a := fine.1 * coarse.2)
  calc d.digits * (fine.1 * coarse.2) = d.digits * fine.1 * coarse.2 := (Nat.mul_assoc _ _ _).symm
    _ ≤ 6 * 2 ^ 53 * 2 ^ x.stepExponent * fine.2 * coarse.2 :=
        Nat.mul_le_mul_right _ (Nat.le_trans hupper (Nat.mul_le_mul_right _ hsize))
    _ = 6 * 2 ^ 53 * fine.2 * (2 ^ x.stepExponent * coarse.2) := by ring
    _ < 6 * 2 ^ 53 * fine.2 * coarse.1 :=
        Nat.mul_lt_mul_of_pos_left hlarge (Nat.mul_pos (by decide) hdenominator)
    _ = 6 * 2 ^ 53 * (coarse.1 * fine.2) := by ring
    _ = 60 * 2 ^ 53 * (fine.1 * coarse.2) := by
        rw [hsucc]
        ring

end Grid

end StepLatency.Decimal
