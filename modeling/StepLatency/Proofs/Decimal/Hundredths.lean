import Mathlib
import StepLatency.Decimal.Layout
import StepLatency.Decimal.Reader
import StepLatency.Proofs.Binary64.Monotone
import StepLatency.Proofs.Binary64.Value
import StepLatency.Proofs.Json.NumberText

/-!
# Numbers with two decimal places

The hundredths of a number are at most a half of one away from it, and keep the order. The text of
them is read as the decimal that it is.
-/

namespace StepLatency

open Decimal (digitsValue padded)
open Json (Digits NoDigitHead noDigitHead_cons takeWhile_isDigit)

/-! ### Reading decimals -/

namespace Decimal

variable {digits whole fraction : List Char}

theorem readMagnitude_digits (h : Digits digits) :
    readMagnitude digits = some (digitsValue digits, 0) := by
  have htake := List.takeWhile_eq_self_iff.2 h.isDigit
  have hdrop := List.dropWhile_eq_nil_iff.2 h.isDigit
  have hne : digits.isEmpty = false := by simpa using h.ne_nil
  simp [readMagnitude, htake, hdrop, hne]

theorem readMagnitude_point (hwhole : Digits whole) (hfraction : Digits fraction) :
    readMagnitude (whole ++ '.' :: fraction) =
      some (digitsValue (whole ++ fraction), -(fraction.length : Int)) := by
  have hpoint : NoDigitHead ('.' :: fraction) := noDigitHead_cons rfl
  obtain ⟨htake, hdrop⟩ := takeWhile_isDigit hwhole.isDigit hpoint
  have htake' := List.takeWhile_eq_self_iff.2 hfraction.isDigit
  have hdrop' := List.dropWhile_eq_nil_iff.2 hfraction.isDigit
  have hne : whole.isEmpty = false := by simpa using hwhole.ne_nil
  simp [readMagnitude, htake, hdrop, htake', hdrop', hne]

/-- The last two digits of a number are its hundredths. -/
theorem digitsValue_hundredths (n : Nat) :
    digitsValue (Nat.toDigits 10 (n / 100) ++ (padded 2 (n % 100)).toList) = n := by
  have hlength : (padded 2 (n % 100)).toList.length = 2 :=
    length_padded (by decide) (by omega)
  have hplaces := digitsValue_padded 2 (n % 100)
  rw [digitsValue_eq_ofDigitChars] at hplaces ⊢
  rw [Nat.ofDigitChars_append, Nat.ofDigitChars_ten_toDigits, Nat.ofDigitChars_eq_ofDigitChars_zero,
    hplaces, hlength]
  omega

end Decimal

/-! ### Hundredths of a number -/

namespace Binary64

theorem toList_toHundredths {x : Binary64} (hfinite : x.isFinite = true)
    (hpositive : x.isNegative = false) :
    x.toHundredths.toList =
      Nat.toDigits 10 (x.hundredths / 100) ++ '.' :: (padded 2 (x.hundredths % 100)).toList := by
  rw [← Decimal.toList_toString, toHundredths, if_pos hfinite, sign,
    if_neg (by simp [hpositive])]
  simp [ToString.toString]

theorem hundredths_mono {x y : Binary64} (h : x.units ≤ y.units) : x.hundredths ≤ y.hundredths :=
  roundHalfEven_mono unitsPerOne_pos (Nat.mul_le_mul_left 100 h)

theorem abs_hundredths_sub_le (x : Binary64) : |(x.hundredths : ℚ) - 100 * x.value| ≤ 1 / 2 := by
  have hone := cast_unitsPerOne_pos
  obtain ⟨hle, hge⟩ := roundHalfEven_spec (100 * x.units) unitsPerOne_pos
  change 2 * (unitsPerOne * x.hundredths) ≤ _ at hle
  change _ ≤ 2 * (unitsPerOne * x.hundredths) + _ at hge
  have hupper : (2 * (unitsPerOne * x.hundredths) : ℚ) ≤
      2 * (100 * x.units) + unitsPerOne := by exact_mod_cast hle
  have hlower : (2 * (100 * x.units) : ℚ) ≤
      2 * (unitsPerOne * x.hundredths) + unitsPerOne := by exact_mod_cast hge
  rw [cast_units] at hupper hlower
  rw [abs_le]
  constructor <;> apply le_of_mul_le_mul_right _ hone <;> linarith

end Binary64

end StepLatency
