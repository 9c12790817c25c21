import Mathlib
import StepLatency.Console.Micros
import StepLatency.Proofs.Decimal.Hundredths
import StepLatency.Proofs.Decimal.ReadBack

/-!
# What the text of a latency tells

A text such as `1.50ms` is a decimal number of a unit, and so an exact time. The text of a latency is
off by at most half of its last digit as long as the latency has 53 bits: an error of the binary
quotient is too small then to reach the next tie. A larger latency is never told as a smaller time,
also where the unit changes.
-/

namespace StepLatency.Console

open Json (Digits digits_padded digits_toDigits)

structure UnitAmount where
  amount : Decimal
  /-- The unit in microseconds. -/
  unit : Nat

namespace UnitAmount

def micros (t : UnitAmount) : ℚ := t.amount.value * t.unit

def lastPlace (t : UnitAmount) : ℚ := 10 ^ t.amount.exponent * t.unit

def unit? : List Char → Option Nat
  | ['u', 's'] => some 1
  | ['m', 's'] => some microsPerMilli
  | ['s'] => some microsPerSecond
  | _ => none

def isNumeral (c : Char) : Bool := c.isDigit || c == '.'

def read (text : String) : Option UnitAmount :=
  match Decimal.readMagnitude (text.toList.takeWhile isNumeral),
    unit? (text.toList.dropWhile isNumeral) with
  | some (digits, exponent), some unit => some ⟨⟨digits, exponent⟩, unit⟩
  | _, _ => none

end UnitAmount

/-! ### Reading a number with its unit -/

section Read

variable {digits numeral name : List Char} {unit : Nat}

theorem exists_cons_of_unit? (h : UnitAmount.unit? name = some unit) :
    ∃ c rest, name = c :: rest ∧ UnitAmount.isNumeral c = false := by
  unfold UnitAmount.unit? at h
  split at h
  · exact ⟨_, _, rfl, rfl⟩
  · exact ⟨_, _, rfl, rfl⟩
  · exact ⟨_, _, rfl, rfl⟩
  · exact nomatch h

theorem read_eq {text : String} {value : Nat} {exponent : Int}
    (htext : text.toList = numeral ++ name)
    (hnumeral : ∀ c ∈ numeral, UnitAmount.isNumeral c = true)
    (hread : Decimal.readMagnitude numeral = some (value, exponent))
    (hunit : UnitAmount.unit? name = some unit) :
    UnitAmount.read text = some ⟨⟨value, exponent⟩, unit⟩ := by
  obtain ⟨c, rest, rfl, hc⟩ := exists_cons_of_unit? hunit
  have htake : text.toList.takeWhile UnitAmount.isNumeral = numeral := by
    rw [htext, List.takeWhile_append_of_pos hnumeral, List.takeWhile_cons_of_neg (by simp [hc]),
      List.append_nil]
  have hdrop : text.toList.dropWhile UnitAmount.isNumeral = c :: rest := by
    rw [htext, List.dropWhile_append_of_pos hnumeral, List.dropWhile_cons_of_neg (by simp [hc])]
  rw [UnitAmount.read, htake, hdrop, hread, hunit]

theorem isNumeral_of_digits (h : Digits digits) : ∀ c ∈ digits, UnitAmount.isNumeral c = true := by
  intro c hc
  rw [UnitAmount.isNumeral, h.isDigit c hc, Bool.true_or]

theorem read_natural (n : Nat) (name : List Char) (hunit : UnitAmount.unit? name = some unit) :
    UnitAmount.read (toString n ++ String.ofList name) = some ⟨⟨n, 0⟩, unit⟩ := by
  have hdigits : Digits (toString n).toList := by
    rw [Decimal.toList_toString]
    exact digits_toDigits n
  refine read_eq (by rw [String.toList_append, String.toList_ofList]) (isNumeral_of_digits hdigits)
    ?_ hunit
  rw [Decimal.readMagnitude_digits hdigits, Decimal.toList_toString, Decimal.digitsValue_toDigits]

/-- A number with two places is read as its hundredths. -/
theorem read_hundredths {x : Binary64} (hfinite : x.isFinite = true)
    (hpositive : x.isNegative = false) (name : List Char)
    (hunit : UnitAmount.unit? name = some unit) :
    UnitAmount.read (x.toHundredths ++ String.ofList name) =
      some ⟨⟨x.hundredths, -2⟩, unit⟩ := by
  have hwhole := digits_toDigits (x.hundredths / 100)
  have hplaces := digits_padded 2 (x.hundredths % 100)
  have hlength : (Decimal.padded 2 (x.hundredths % 100)).toList.length = 2 :=
    Decimal.length_padded (by decide) (by omega)
  refine read_eq (by rw [String.toList_append, String.toList_ofList]) (fun c hc => ?_) ?_ hunit
  · rw [Binary64.toList_toHundredths hfinite hpositive, List.mem_append, List.mem_cons] at hc
    rcases hc with hc | rfl | hc
    · exact isNumeral_of_digits hwhole c hc
    · rfl
    · exact isNumeral_of_digits hplaces c hc
  · rw [Binary64.toList_toHundredths hfinite hpositive, Decimal.readMagnitude_point hwhole hplaces,
      Decimal.digitsValue_hundredths, hlength]
    rfl

end Read

/-! ### The text of a latency -/

section Quotient

variable {n unit : Nat} {us us' number : UInt64}

theorem units_ofNat_word_pos (hnumber : 0 < number.toNat) :
    0 < (Binary64.ofNat number.toNat).units := by
  have hscaled := Nat.mul_pos hnumber Binary64.unitsPerOne_pos
  have hlower := (Binary64.ofNat_word_bounds number).2
  omega

theorem inUnits_finite (us number : UInt64) (hnumber : 0 < number.toNat) :
    (inUnits us.toNat number.toNat).isFinite = true ∧
      (inUnits us.toNat number.toNat).isNegative = false :=
  ⟨(Binary64.divMagnitude_bounds (Binary64.word_quotient_lt us hnumber)).1,
    Binary64.isNegative_ofRank⟩

theorem hundredths_inUnits_mono (number : UInt64) (hnumber : 0 < number.toNat)
    (h : us.toNat ≤ us'.toNat) :
    (inUnits us.toNat number.toNat).hundredths ≤ (inUnits us'.toNat number.toNat).hundredths := by
  have hlarge : 2 ^ 64 < Binary64.largest := by decide +kernel
  exact Binary64.hundredths_mono (Binary64.units_divMagnitude_mono (units_ofNat_word_pos hnumber)
    (Binary64.units_ofNat_mono h (Nat.lt_trans us'.toNat_lt hlarge))
    (Binary64.word_quotient_lt us' hnumber))

/-- In a larger unit a time is off by one rounding at most. -/
theorem near_inUnits (hn : 0 < n) (hsize : n ≤ 2 ^ 53) (hunit : 0 < unit) (hunit' : unit ≤ 2 ^ 53) :
    Near Binary64.roundingFactor (inUnits n unit).value (n / unit) := by
  have hn' : (1 : ℚ) ≤ n := by exact_mod_cast hn
  have hsize' : (n : ℚ) ≤ 2 ^ 53 := by exact_mod_cast hsize
  have hone : (1 : ℚ) ≤ unit := by exact_mod_cast hunit
  have hlarge : (unit : ℚ) ≤ 2 ^ 53 := by exact_mod_cast hunit'
  have hpos : (0 : ℚ) < unit := lt_of_lt_of_le one_pos hone
  have hnear := Binary64.near_divMagnitude (x := Binary64.ofNat n) (y := Binary64.ofNat unit)
  rw [Binary64.value_ofNat hsize, Binary64.value_ofNat hunit'] at hnear
  refine (hnear hpos ⟨?_, ?_⟩).2
  · rw [le_div_iff₀ hpos]
    exact le_trans (mul_le_mul_of_nonneg_left hlarge (by positivity)) (le_trans (by norm_num) hn')
  · rw [div_le_iff₀ hpos]
    exact le_trans hsize' (le_trans (by norm_num) (mul_le_mul_of_nonneg_left hone (by positivity)))

/-- The quotient of a latency of 53 bits is off by less than a microsecond. -/
theorem abs_inUnits_sub_lt (hn : 0 < n) (hsize : n < 2 ^ 53) (hunit : 0 < unit)
    (hunit' : unit ≤ 2 ^ 53) : |unit * (inUnits n unit).value - n| < 1 := by
  have hpos : (0 : ℚ) < unit := by exact_mod_cast hunit
  have hsize' : (n : ℚ) < 2 ^ 53 := by exact_mod_cast hsize
  have hfactor : Binary64.roundingFactor ≤ 1 + 1 / 2 ^ 53 := le_of_eq rfl
  have hquotient := (near_inUnits hn hsize.le hunit hunit').abs_sub_le hfactor
    (Binary64.value_nonneg _) (by positivity) (by positivity)
  calc |unit * (inUnits n unit).value - n|
      = unit * |(inUnits n unit).value - n / unit| := by
        rw [← abs_of_pos hpos, ← abs_mul, abs_of_pos hpos, mul_sub, mul_div_cancel₀ _ hpos.ne']
    _ ≤ unit * (1 / 2 ^ 53 * (n / unit)) := mul_le_mul_of_nonneg_left hquotient hpos.le
    _ = n / 2 ^ 53 := by field_simp
    _ < 1 := (div_lt_one (by positivity)).2 hsize'

/-- Where a value is off by less than one, rounding it to an even number of units is off by at most half
of them: whole numbers that are closer than one more than that are no further apart. -/
theorem abs_places_sub_le {half places : Nat} {value : ℚ} (hhalf : 0 < half)
    (hvalue : |200 * half * value - n| < 1) (hplaces : |places - 100 * value| ≤ 1 / 2) :
    |(2 * half * places : ℚ) - n| ≤ half := by
  have hpos : (0 : ℚ) < 2 * half := by
    have hcast : (0 : ℚ) < half := by exact_mod_cast hhalf
    linarith
  have hclose : |(2 * half * places : ℚ) - n| < half + 1 := by
    calc |(2 * half * places : ℚ) - n|
        = |2 * half * (places - 100 * value) + (200 * half * value - n)| := by
          congr 1
          ring
      _ ≤ |2 * half * (places - 100 * value)| + |200 * half * value - n| := abs_add_le _ _
      _ = 2 * half * |places - 100 * value| + |200 * half * value - n| := by
          rw [abs_mul, abs_of_pos hpos]
      _ < 2 * half * (1 / 2) + 1 :=
          add_lt_add_of_le_of_lt (mul_le_mul_of_nonneg_left hplaces hpos.le) hvalue
      _ = half + 1 := by ring
  -- Both sides are whole numbers.
  have hwhole : |(2 * half * places : ℤ) - n| < half + 1 := by exact_mod_cast hclose
  exact_mod_cast Int.lt_add_one_iff.1 hwhole

theorem abs_hundredths_inUnits_sub_le (half : Nat) (hn : 0 < n) (hsize : n < 2 ^ 53)
    (hhalf : 0 < half) (hhalf' : 200 * half ≤ 2 ^ 53) :
    |(2 * half * (inUnits n (200 * half)).hundredths : ℚ) - n| ≤ half := by
  have hvalue := abs_inUnits_sub_lt hn hsize (Nat.mul_pos (by decide) hhalf) hhalf'
  rw [Nat.cast_mul, Nat.cast_ofNat] at hvalue
  exact abs_places_sub_le hhalf hvalue (Binary64.abs_hundredths_sub_le _)

end Quotient

/-! ### Times told -/

/-- What the text of a latency tells. -/
def latencyAmount (us : UInt64) : UnitAmount :=
  if us.toNat < microsPerMilli then ⟨⟨us.toNat, 0⟩, 1⟩
  else if us.toNat < microsPerSecond then
    ⟨⟨(inUnits us.toNat microsPerMilli).hundredths, -2⟩, microsPerMilli⟩
  else ⟨⟨(inUnits us.toNat microsPerSecond).hundredths, -2⟩, microsPerSecond⟩

section LatencyAmount

variable {us us' : UInt64}

theorem read_microsText (us : UInt64) :
    UnitAmount.read (microsText us) = some (latencyAmount us) := by
  unfold microsText latencyAmount
  dsimp only
  split
  · exact read_natural us.toNat ['u', 's'] rfl
  split
  · obtain ⟨hfinite, hpositive⟩ := inUnits_finite us 1000 (by decide)
    exact read_hundredths hfinite hpositive ['m', 's'] rfl
  · obtain ⟨hfinite, hpositive⟩ := inUnits_finite us 1000000 (by decide)
    exact read_hundredths hfinite hpositive ['s'] rfl

theorem latencyAmount_of_lt (h : us.toNat < microsPerMilli) :
    (latencyAmount us).unit = 1 ∧ (latencyAmount us).micros = us.toNat := by
  rw [latencyAmount, if_pos h]
  simp [UnitAmount.micros, Decimal.value]

theorem lastPlace_hundredths (places unit : Nat) :
    (⟨⟨places, -2⟩, unit⟩ : UnitAmount).lastPlace = unit / 100 := by
  rw [UnitAmount.lastPlace, div_eq_inv_mul]
  norm_num

theorem micros_hundredths (places unit : Nat) :
    (⟨⟨places, -2⟩, unit⟩ : UnitAmount).micros = unit / 100 * places := by
  rw [← lastPlace_hundredths places unit, UnitAmount.micros, UnitAmount.lastPlace, Decimal.value]
  ring

theorem latencyAmount_millis (hlow : microsPerMilli ≤ us.toNat) (hhigh : us.toNat < microsPerSecond) :
    (latencyAmount us).lastPlace = 10 ∧
      (latencyAmount us).micros = 10 * (inUnits us.toNat microsPerMilli).hundredths := by
  rw [latencyAmount, if_neg (Nat.not_lt.2 hlow), if_pos hhigh]
  have hplace : (microsPerMilli / 100 : ℚ) = 10 := by
    rw [microsPerMilli]
    norm_num
  rw [lastPlace_hundredths, micros_hundredths, hplace]
  exact ⟨rfl, rfl⟩

theorem latencyAmount_seconds (h : microsPerSecond ≤ us.toNat) :
    (latencyAmount us).lastPlace = 10000 ∧
      (latencyAmount us).micros = 10000 * (inUnits us.toNat microsPerSecond).hundredths := by
  have hlow : microsPerMilli ≤ us.toNat := Nat.le_trans (by decide) h
  rw [latencyAmount, if_neg (Nat.not_lt.2 hlow), if_neg (Nat.not_lt.2 h)]
  have hplace : (microsPerSecond / 100 : ℚ) = 10000 := by
    rw [microsPerSecond]
    norm_num
  rw [lastPlace_hundredths, micros_hundredths, hplace]
  exact ⟨rfl, rfl⟩

/-! ### Order -/

theorem hundredths_millis_bounds (hlow : microsPerMilli ≤ us.toNat)
    (hhigh : us.toNat < microsPerSecond) :
    100 ≤ (inUnits us.toNat microsPerMilli).hundredths ∧
      (inUnits us.toNat microsPerMilli).hundredths ≤ 100000 := by
  have hfirst : (inUnits 1000 1000).hundredths = 100 := by decide +kernel
  have hlast : (inUnits 999999 1000).hundredths = 100000 := by decide +kernel
  have hle : (1000 : UInt64).toNat ≤ us.toNat := hlow
  have hge : us.toNat ≤ (999999 : UInt64).toNat := Nat.le_of_lt_succ hhigh
  have hbelow := hundredths_inUnits_mono 1000 (by decide) hle
  have habove := hundredths_inUnits_mono 1000 (by decide) hge
  exact ⟨hfirst ▸ hbelow, hlast ▸ habove⟩

theorem le_hundredths_seconds (h : microsPerSecond ≤ us.toNat) :
    100 ≤ (inUnits us.toNat microsPerSecond).hundredths := by
  have hfirst : (inUnits 1000000 1000000).hundredths = 100 := by decide +kernel
  have hle : (1000000 : UInt64).toNat ≤ us.toNat := h
  have hbelow := hundredths_inUnits_mono 1000000 (by decide) hle
  exact hfirst ▸ hbelow

/-- Milliseconds are told from a thousand microseconds up to the time that seconds begin with. -/
theorem micros_millis_bounds (hlow : microsPerMilli ≤ us.toNat)
    (hhigh : us.toNat < microsPerSecond) :
    1000 ≤ (latencyAmount us).micros ∧ (latencyAmount us).micros ≤ 1000000 := by
  obtain ⟨hbelow, habove⟩ := hundredths_millis_bounds hlow hhigh
  rw [(latencyAmount_millis hlow hhigh).2]
  generalize (inUnits us.toNat microsPerMilli).hundredths = places at *
  have hbelow' : (100 : ℚ) ≤ places := by exact_mod_cast hbelow
  have habove' : (places : ℚ) ≤ 100000 := by exact_mod_cast habove
  constructor <;> linarith

theorem le_micros_seconds (h : microsPerSecond ≤ us.toNat) : 1000000 ≤ (latencyAmount us).micros := by
  have hbelow : (100 : ℚ) ≤ (inUnits us.toNat microsPerSecond).hundredths := by
    exact_mod_cast le_hundredths_seconds h
  rw [(latencyAmount_seconds h).2]
  linarith

/-- A longer time is not told as a shorter one, also where the unit changes between the two. -/
theorem micros_latencyAmount_mono (h : us.toNat ≤ us'.toNat) :
    (latencyAmount us).micros ≤ (latencyAmount us').micros := by
  -- In one unit the numbers keep the order; in two of them the border lies between the times.
  rcases Nat.lt_or_ge us'.toNat microsPerMilli with hsmall' | hmilli'
  · rw [(latencyAmount_of_lt (Nat.lt_of_le_of_lt h hsmall')).2, (latencyAmount_of_lt hsmall').2]
    exact_mod_cast h
  rcases Nat.lt_or_ge us.toNat microsPerMilli with hsmall | hmilli
  · have hborder : (us.toNat : ℚ) ≤ 1000 := by exact_mod_cast hsmall.le
    rw [(latencyAmount_of_lt hsmall).2]
    rcases Nat.lt_or_ge us'.toNat microsPerSecond with hsecond' | hsecond'
    · exact le_trans hborder (micros_millis_bounds hmilli' hsecond').1
    · exact le_trans hborder (le_trans (by norm_num) (le_micros_seconds hsecond'))
  rcases Nat.lt_or_ge us'.toNat microsPerSecond with hsecond' | hsecond'
  · rw [(latencyAmount_millis hmilli (Nat.lt_of_le_of_lt h hsecond')).2,
      (latencyAmount_millis hmilli' hsecond').2]
    have hplaces := hundredths_inUnits_mono 1000 (by decide) h
    exact mul_le_mul_of_nonneg_left (Nat.cast_le.2 hplaces) (by norm_num)
  rcases Nat.lt_or_ge us.toNat microsPerSecond with hsecond | hsecond
  · exact le_trans (micros_millis_bounds hmilli hsecond).2 (le_micros_seconds hsecond')
  · rw [(latencyAmount_seconds hsecond).2, (latencyAmount_seconds hsecond').2]
    have hplaces := hundredths_inUnits_mono 1000000 (by decide) h
    exact mul_le_mul_of_nonneg_left (Nat.cast_le.2 hplaces) (by norm_num)

/-! ### Accuracy -/

theorem abs_micros_millis_sub_le (hlow : microsPerMilli ≤ us.toNat)
    (hhigh : us.toNat < microsPerSecond) : |(latencyAmount us).micros - us.toNat| ≤ 5 := by
  have hsize : us.toNat < 2 ^ 53 := Nat.lt_trans hhigh (by decide)
  have hclose := abs_hundredths_inUnits_sub_le 5 (Nat.lt_of_lt_of_le (by decide) hlow) hsize
    (by decide) (by decide)
  have hplace : (2 * (5 : Nat) : ℚ) = 10 := by norm_num
  rw [hplace] at hclose
  rw [(latencyAmount_millis hlow hhigh).2]
  exact hclose

theorem abs_micros_seconds_sub_le (hlow : microsPerSecond ≤ us.toNat) (hsize : us.toNat < 2 ^ 53) :
    |(latencyAmount us).micros - us.toNat| ≤ 5000 := by
  have hclose := abs_hundredths_inUnits_sub_le 5000 (Nat.lt_of_lt_of_le (by decide) hlow)
    hsize (by decide) (by decide)
  have hplace : (2 * (5000 : Nat) : ℚ) = 10000 := by norm_num
  rw [hplace] at hclose
  rw [(latencyAmount_seconds hlow).2]
  exact hclose

end LatencyAmount

/-- The text of a latency is always a number with a unit, and a larger latency is never told as a
smaller time. A latency of 53 bits is told exactly below a millisecond; from there on it is off by at
most half of its last digit, which is five microseconds below a second and five thousand above. -/
theorem microsText_monotone_accurate :
    (∀ us us' : UInt64, us ≤ us' → ∃ told told', UnitAmount.read (microsText us) = some told ∧
      UnitAmount.read (microsText us') = some told' ∧ told.micros ≤ told'.micros) ∧
    ∀ us : UInt64, us.toNat < 2 ^ 53 → ∃ told, UnitAmount.read (microsText us) = some told ∧
      (us.toNat < 1000 → told.unit = 1 ∧ told.micros = us.toNat) ∧
      (1000 ≤ us.toNat → us.toNat < 1000000 →
        told.lastPlace = 10 ∧ |told.micros - us.toNat| ≤ 5) ∧
      (1000000 ≤ us.toNat → told.lastPlace = 10000 ∧ |told.micros - us.toNat| ≤ 5000) := by
  constructor
  · intro us us' h
    exact ⟨_, _, read_microsText us, read_microsText us',
      micros_latencyAmount_mono (UInt64.le_iff_toNat_le.1 h)⟩
  · intro us hsize
    refine ⟨_, read_microsText us, latencyAmount_of_lt, fun hlow hhigh => ?_, fun hlow => ?_⟩
    · exact ⟨(latencyAmount_millis hlow hhigh).1, abs_micros_millis_sub_le hlow hhigh⟩
    · exact ⟨(latencyAmount_seconds hlow).1, abs_micros_seconds_sub_le hlow hsize⟩

/-- At the border the larger unit takes over at the time that the smaller one was rounded up to. The
half of a place in 1005 goes down, to the side on which its binary quotient lies. -/
theorem microsText_monotone_accurate_border :
    (999999 : UInt64) ≤ 1000000 ∧ microsText 999999 = "1000.00ms" ∧ microsText 1000000 = "1.00s" ∧
      (∃ told told', UnitAmount.read "1000.00ms" = some told ∧ UnitAmount.read "1.00s" = some told' ∧
        told.micros ≤ told'.micros) ∧
      microsText 1005 = "1.00ms" ∧
      ∃ told, UnitAmount.read "1.00ms" = some told ∧ told.lastPlace = 10 ∧
        |told.micros - 1005| ≤ 5 := by
  have hbelow : microsText 999999 = "1000.00ms" := by decide +kernel
  have habove : microsText 1000000 = "1.00s" := by decide +kernel
  have htie : microsText 1005 = "1.00ms" := by decide +kernel
  obtain ⟨hmonotone, haccurate⟩ := microsText_monotone_accurate
  refine ⟨by decide, hbelow, habove, ?_, htie, ?_⟩
  · rw [← hbelow, ← habove]
    exact hmonotone 999999 1000000 (by decide)
  · obtain ⟨told, hread, -, hmillis, -⟩ := haccurate 1005 (by decide)
    rw [← htie]
    exact ⟨told, hread, hmillis (by decide) (by decide)⟩

end StepLatency.Console
