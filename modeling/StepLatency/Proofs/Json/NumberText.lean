import Mathlib
import StepLatency.Json.Value
import StepLatency.Proofs.Decimal.Shortest
import StepLatency.Proofs.Json.Numeral

/-!
# Numbers that were written

The text of a whole number of 64 bits is read as the same whole number. The text of a finite real
number always has a fraction or an exponent, so it is read as a real number again.
-/

namespace StepLatency.Json

open Decimal (digitsValue)

theorem digits_toDigits (n : Nat) : Digits (Nat.toDigits 10 n) where
  ne_nil := Nat.toDigits_ne_nil
  isDigit _ hc := Decimal.isDigit_of_mem_toDigits hc

theorem noLeadingZero_toDigits (n : Nat) :
    Nat.toDigits 10 n = ['0'] ∨ ∀ rest, Nat.toDigits 10 n ≠ '0' :: rest := by
  rcases Nat.eq_zero_or_pos n with rfl | hn
  · exact .inl (Nat.toDigits_zero 10)
  · obtain ⟨c, more, hdigits, hc⟩ := Decimal.exists_cons_toDigits hn
    right
    rintro rest heq
    rw [hdigits] at heq
    exact hc (List.cons.inj heq).1

/-! ### Whole numbers -/

def Numeral.ofNat (n : Nat) : Numeral := ⟨false, Nat.toDigits 10 n, none, none⟩

section Whole

variable {n : Nat} {rest : List Char}

theorem Numeral.ofNat_wellFormed (n : Nat) : (ofNat n).WellFormed where
  whole := digits_toDigits n
  noLeadingZero := noLeadingZero_toDigits n
  fraction _ h := nomatch h
  exponent _ _ h := nomatch h

theorem Numeral.text_ofNat (n : Nat) : (ofNat n).text = (toString n).toList := by
  rw [Decimal.toList_toString]
  simp [text, ofNat, fractionText, exponentText]

theorem Numeral.value?_ofNat (hn : n < UInt64.size) : (ofNat n).value? = some (.natural n) := by
  have hvalue : (Nat.toDigits 10 n).foldl Decimal.appendDigit 0 = n :=
    Decimal.digitsValue_toDigits n
  have hscaled : (ofNat n).scaled = ⟨n, 0⟩ := by
    have hfits : (Nat.toDigits 10 n).foldl Decimal.appendDigit 0 < UInt64.size := by
      rw [hvalue]
      exact hn
    have hadd := Scaled.addWhole_of_fits hfits
    rw [hvalue] at hadd
    simp [scaled, ofNat, hadd, Scaled.addFraction]
  simp only [value?, hscaled]
  simp [ofNat, wholeNumber]

/-- A whole number of 64 bits is read as it was written. -/
theorem scanNumber_toString (hn : n < UInt64.size) (hrest : EndsNumber rest) :
    scanNumber ((toString n).toList ++ rest) = .ok (.natural n, rest) := by
  rw [← Numeral.text_ofNat, scanNumber, scanNumeral_text (Numeral.ofNat_wellFormed n) hrest]
  simp only [ok_bind, Numeral.value?_ofNat hn]
  rfl

end Whole

/-! ### Real numbers -/

/-- The text of a numeral that is read as a real number of this significand and power of ten. -/
def Writes (text : List Char) (s : Scaled) : Prop :=
  ∃ n : Numeral, n.IsReal ∧ n.text = text ∧ n.written = s

/-- Such a text is scanned as one real number, whatever follows. -/
theorem Writes.scanNumber_append {text rest : List Char} {s : Scaled} {y : Binary64}
    (h : Writes text s) (hfits : s.significand < UInt64.size) (hy : s.magnitude? = some y)
    (hrest : EndsNumber rest) : scanNumber (text ++ rest) = .ok (.real y, rest) := by
  obtain ⟨n, hn, rfl, rfl⟩ := h
  rw [scanNumber, scanNumeral_text hn.toWellFormed hrest]
  simp only [ok_bind, hn.value?_eq hfits, hy]
  rfl

theorem Writes.exists_cons {text : List Char} {s : Scaled} (h : Writes text s) :
    ∃ c more, text = c :: more ∧ c.isDigit = true := by
  obtain ⟨n, hn, rfl, -⟩ := h
  obtain ⟨c, more, hcons, hc⟩ := hn.whole.exists_cons
  refine ⟨c, more ++ Numeral.fractionText n.fraction ++ Numeral.exponentText n.exponent, ?_, hc⟩
  simp [Numeral.text, hn.positive, hcons]

section Layout

variable {digits : List Char} {point : Int}

theorem digits_replicate_append (count : Nat) (hdigits : Digits digits) :
    Digits (List.replicate count '0' ++ digits) where
  ne_nil := by simp [hdigits.ne_nil]
  isDigit c hc := by
    rcases List.mem_append.1 hc with hzero | hdigit
    · rw [List.eq_of_mem_replicate hzero]
      rfl
    · exact hdigits.isDigit c hdigit

/-- A numeral with a fraction and without an exponent. -/
theorem writes_fraction {whole fraction : List Char} (hwhole : Digits whole)
    (hzero : whole = ['0'] ∨ ∀ rest, whole ≠ '0' :: rest) (hfraction : Digits fraction) :
    Writes (whole ++ '.' :: fraction)
      ⟨digitsValue (whole ++ fraction), -(fraction.length : Int)⟩ := by
  refine ⟨⟨false, whole, some fraction, none⟩, ⟨⟨hwhole, hzero, ?_, fun _ _ h => nomatch h⟩, rfl,
    .inl (by simp), fun _ _ h => nomatch h⟩, ?_, ?_⟩
  · intro digits heq
    exact Option.some.inj heq ▸ hfraction
  · simp [Numeral.text, Numeral.fractionText, Numeral.exponentText]
  · simp [Numeral.written, Numeral.power]

theorem digits_take (hdigits : Digits digits) {k : Nat} (hk : 0 < k) : Digits (digits.take k) where
  ne_nil := by
    have hne := hdigits.ne_nil
    rw [ne_eq, List.take_eq_nil_iff]
    exact not_or.2 ⟨Nat.pos_iff_ne_zero.1 hk, hne⟩
  isDigit c hc := hdigits.isDigit c (List.mem_of_mem_take hc)

theorem digits_drop (hdigits : Digits digits) {k : Nat} (hk : k < digits.length) :
    Digits (digits.drop k) where
  ne_nil := by
    rw [ne_eq, List.drop_eq_nil_iff]
    omega
  isDigit c hc := hdigits.isDigit c (List.mem_of_mem_drop hc)

theorem digits_append_replicate (count : Nat) (hdigits : Digits digits) :
    Digits (digits ++ List.replicate count '0') where
  ne_nil := by simp [hdigits.ne_nil]
  isDigit c hc := by
    rcases List.mem_append.1 hc with hdigit | hzero
    · exact hdigits.isDigit c hdigit
    · rw [List.eq_of_mem_replicate hzero]
      rfl

/-- A point before all digits stands behind a zero. -/
theorem writes_leading (hdigits : Digits digits) (count : Nat) :
    Writes ("0." ++ Binary64.zeros count ++ String.ofList digits).toList
      ⟨digitsValue digits, -(count + digits.length : Int)⟩ := by
  have htext : ("0." ++ Binary64.zeros count ++ String.ofList digits).toList =
      ['0'] ++ '.' :: (List.replicate count '0' ++ digits) := by
    simp [Binary64.zeros]
  have hvalue : digitsValue (['0'] ++ (List.replicate count '0' ++ digits)) =
      digitsValue digits := by
    have hzeros := Decimal.digitsValue_replicate_zero_append (count + 1) digits
    rwa [List.replicate_succ, List.cons_append] at hzeros
  have hfraction := writes_fraction ⟨by simp, by simp⟩ (.inl rfl)
    (digits_replicate_append count hdigits)
  rw [htext]
  rwa [hvalue, List.length_append, List.length_replicate, Nat.cast_add] at hfraction

/-- A point among the digits cuts them in two. -/
theorem writes_inner (hdigits : Digits digits) (hnonzero : ∀ rest, digits ≠ '0' :: rest)
    {count : Nat} (hpos : 0 < count) (hcount : count < digits.length) :
    Writes (String.ofList (digits.take count) ++ "." ++ String.ofList (digits.drop count)).toList
      ⟨digitsValue digits, count - digits.length⟩ := by
  have htext : (String.ofList (digits.take count) ++ "." ++
      String.ofList (digits.drop count)).toList =
      digits.take count ++ '.' :: digits.drop count := by
    simp
  have hfraction := writes_fraction (digits_take hdigits hpos)
    (.inr fun rest heq => hnonzero _ (eq_cons_of_take_eq_cons heq)) (digits_drop hdigits hcount)
  have hpower : -((digits.drop count).length : Int) = count - digits.length := by
    rw [List.length_drop]
    omega
  rw [htext]
  rwa [List.take_append_drop, hpower] at hfraction

/-- Behind all digits a point is followed by a zero. -/
theorem writes_trailing (hdigits : Digits digits) (hnonzero : ∀ rest, digits ≠ '0' :: rest)
    (count : Nat) :
    Writes (String.ofList digits ++ Binary64.zeros count ++
      if Binary64.jsonLayout.marksWhole then ".0" else "").toList
      ⟨digitsValue digits * 10 ^ (count + 1), -1⟩ := by
  have htext : (String.ofList digits ++ Binary64.zeros count ++
      if Binary64.jsonLayout.marksWhole then ".0" else "").toList =
      (digits ++ List.replicate count '0') ++ '.' :: ['0'] := by
    simp [Binary64.zeros, Binary64.jsonLayout]
  have hvalue : digitsValue (digits ++ List.replicate count '0' ++ ['0']) =
      digitsValue digits * 10 ^ (count + 1) := by
    rw [← Decimal.digitsValue_append_replicate_zero, List.replicate_succ', List.append_assoc]
  have hzero : ∀ rest, digits ++ List.replicate count '0' ≠ '0' :: rest := by
    intro rest heq
    obtain ⟨c, more, rfl, -⟩ := hdigits.exists_cons
    exact hnonzero more (by rw [(List.cons.inj heq).1])
  have hbare : Digits ['0'] := ⟨by simp, by simp⟩
  have hfraction := writes_fraction (digits_append_replicate count hdigits) (.inr hzero) hbare
  rw [htext]
  rwa [hvalue] at hfraction

theorem toList_repr_int (z : Int) :
    z.repr.toList = (if z < 0 then ['-'] else []) ++ Nat.toDigits 10 z.natAbs := by
  cases z with
  | ofNat n =>
      have hnot : ¬ (Int.ofNat n < 0) := Int.not_lt.2 (Int.natCast_nonneg n)
      rw [if_neg hnot, List.nil_append]
      exact Nat.toList_repr
  | negSucc n =>
      have hneg : Int.negSucc n < 0 := Int.negSucc_lt_zero n
      rw [if_pos hneg]
      change ("-" ++ (n + 1).repr).toList = _
      rw [String.toList_append, Nat.toList_repr]
      rfl

/-- In scientific notation a real number has an exponent. -/
theorem writes_scientific (hdigits : Digits digits) (hnonzero : ∀ rest, digits ≠ '0' :: rest)
    (hnear : (point - 1).natAbs ≤ maxExponent) :
    Writes (Binary64.scientificText digits point).toList
      ⟨digitsValue digits, point - digits.length⟩ := by
  obtain ⟨c, more, rfl, hc⟩ := hdigits.exists_cons
  have hvalue := Decimal.digitsValue_toDigits (point - 1).natAbs
  refine ⟨⟨false, [c], if more.isEmpty then none else some more,
    some (decide (point - 1 < 0), Nat.toDigits 10 (point - 1).natAbs)⟩,
    ⟨⟨⟨by simp, ?_⟩, ?_, ?_, ?_⟩, rfl, .inr (by simp), ?_⟩, ?_, ?_⟩
  · intro d hd
    rw [List.mem_singleton.1 hd]
    exact hc
  · exact .inr fun rest heq => hnonzero more (by rw [(List.cons.inj heq).1])
  · intro fraction heq
    dsimp only at heq
    split at heq
    · exact nomatch heq
    · rename_i hmore
      obtain rfl := Option.some.inj heq
      refine ⟨fun h => hmore (by rw [h]; rfl), fun d hd => ?_⟩
      exact hdigits.isDigit d (List.mem_cons_of_mem _ hd)
  · intro negative digits heq
    obtain ⟨-, rfl⟩ := Prod.mk.inj (Option.some.inj heq)
    exact digits_toDigits _
  · intro negative digits heq
    obtain ⟨-, rfl⟩ := Prod.mk.inj (Option.some.inj heq)
    rwa [hvalue]
  · unfold Binary64.scientificText
    cases more with
    | nil => simp [Numeral.text, Numeral.fractionText, Numeral.exponentText, toList_repr_int]
    | cons d rest =>
        simp [Numeral.text, Numeral.fractionText, Numeral.exponentText, toList_repr_int]
  · have hfraction : (if more.isEmpty then none else some more).getD [] = more := by
      cases more <;> rfl
    have hpower : (if decide (point - 1 < 0) = true then -((point - 1).natAbs : Int)
        else (point - 1).natAbs) = point - 1 := by
      by_cases hneg : point - 1 < 0
      · rw [if_pos (decide_eq_true hneg)]
        omega
      · rw [if_neg (ne_true_of_eq_false (decide_eq_false hneg))]
        omega
    rw [Numeral.written, Numeral.power]
    dsimp only
    rw [hfraction, hvalue, hpower, List.singleton_append, List.length_cons]
    congr 1
    omega

/-- In positional notation a real number has a point; a whole number has one zero more. -/
theorem writes_positional (hdigits : Digits digits) (hnonzero : ∀ rest, digits ≠ '0' :: rest)
    (point : Int) :
    Writes (Binary64.jsonLayout.positionalText digits point).toList
      (if digits.length ≤ point then
        ⟨digitsValue digits * 10 ^ ((point - digits.length).toNat + 1), -1⟩
      else ⟨digitsValue digits, point - digits.length⟩) := by
  have hlength : 0 < digits.length := List.length_pos_of_ne_nil hdigits.ne_nil
  unfold Binary64.Layout.positionalText
  by_cases hsmall : point ≤ 0
  · have hwrites := writes_leading hdigits (-point).toNat
    have hpower : -((-point).toNat + digits.length : Int) = point - digits.length := by omega
    rw [hpower] at hwrites
    rw [if_pos hsmall, if_neg (by omega)]
    exact hwrites
  · rw [if_neg hsmall]
    by_cases hinside : point < digits.length
    · have hpos : 0 < point.toNat := by omega
      have hwrites := writes_inner hdigits hnonzero hpos (by omega)
      rw [Int.toNat_of_nonneg (by omega)] at hwrites
      rw [if_pos hinside, if_neg (by omega)]
      exact hwrites
    · have hwrites := writes_trailing hdigits hnonzero (point.toNat - digits.length)
      have hcount : point.toNat - digits.length = (point - digits.length).toNat := by omega
      have hafter : (digits.length : Int) ≤ point := by omega
      rw [if_neg hinside, if_pos hafter, ← hcount]
      exact hwrites

end Layout

/-! ### The text of a number -/

/-- The significand and the power of ten that the text of a positive number stands for. A whole
number in positional notation has one zero more. -/
def written (x : Binary64) : Scaled :=
  if x.isZero then ⟨0, -1⟩
  else
    let decimal := Decimal.shortest Binary64.jsonLayout.tie x
    let point := decimal.exponent + (Nat.toDigits 10 decimal.digits).length
    if Binary64.jsonLayout.positional point ∧ 0 ≤ decimal.exponent then
      ⟨decimal.digits * 10 ^ (decimal.exponent.toNat + 1), -1⟩
    else ⟨decimal.digits, decimal.exponent⟩

section Text

variable {x : Binary64}

theorem toJson_eq_magnitudeText (hfinite : x.isFinite = true) (hpositive : x.isNegative = false) :
    x.toJson = Binary64.jsonLayout.magnitudeText x := by
  have hsign : x.sign = "" := if_neg (by rw [hpositive]; decide)
  rw [Binary64.toJson, if_pos hfinite, Binary64.Layout.text, if_pos hfinite, hsign,
    String.empty_append]

/-- A finite number of moderate size is written as a real number. -/
theorem writes_toJson (hfinite : x.isFinite = true) (hpositive : x.isNegative = false)
    (hunits : x.units < 2 ^ 68 * Binary64.unitsPerOne) : Writes x.toJson.toList (written x) := by
  rw [toJson_eq_magnitudeText hfinite hpositive]
  unfold Binary64.Layout.magnitudeText written
  by_cases hzero : x.isZero = true
  · have hbare : (if Binary64.jsonLayout.marksWhole then "0.0" else "0").toList =
        ['0'] ++ '.' :: ['0'] := by
      simp [Binary64.jsonLayout]
    rw [if_pos hzero, if_pos hzero, hbare]
    exact writes_fraction ⟨by simp, by simp⟩ (.inl rfl) ⟨by simp, by simp⟩
  · rw [if_neg hzero, if_neg hzero]
    dsimp only
    rw [Decimal.toList_toString]
    obtain ⟨hdigits, hlow, hpoint⟩ := Decimal.shortest_bounds Binary64.jsonLayout.tie
      (eq_false_of_ne_true hzero) hunits (k := 21) (by decide)
    generalize Decimal.shortest Binary64.jsonLayout.tie x = decimal at *
    have hfirst : ∀ rest, Nat.toDigits 10 decimal.digits ≠ '0' :: rest := by
      intro rest heq
      obtain ⟨c, more, hcons, hc⟩ := Decimal.exists_cons_toDigits hdigits
      rw [hcons] at heq
      exact hc (List.cons.inj heq).1
    have hpower : decimal.exponent + ((Nat.toDigits 10 decimal.digits).length : Int) -
        (Nat.toDigits 10 decimal.digits).length = decimal.exponent := by omega
    split
    · rename_i hlaid
      have hwrites := writes_positional (digits_toDigits decimal.digits) hfirst
        (decimal.exponent + (Nat.toDigits 10 decimal.digits).length)
      rw [hpower, Decimal.digitsValue_toDigits] at hwrites
      by_cases hwhole : 0 ≤ decimal.exponent
      · rw [if_pos (by omega)] at hwrites
        rwa [if_pos ⟨hlaid, hwhole⟩]
      · rw [if_neg (by omega)] at hwrites
        rwa [if_neg fun h => hwhole h.2]
    · rename_i hlaid
      have hnear : (decimal.exponent + ((Nat.toDigits 10 decimal.digits).length : Int) -
          1).natAbs ≤ maxExponent := by
        unfold maxExponent
        omega
      have hwrites := writes_scientific (digits_toDigits decimal.digits) hfirst hnear
      rw [hpower, Decimal.digitsValue_toDigits] at hwrites
      rwa [if_neg fun h => hlaid h.1]

theorem shortest_lt (hzero : x.isZero = false) (hunits : x.units < 2 ^ 68 * Binary64.unitsPerOne) :
    (Decimal.shortest Binary64.jsonLayout.tie x).exponent ≤ 20 ∧
      (Decimal.shortest Binary64.jsonLayout.tie x).digits < 60 * 2 ^ 53 := by
  obtain ⟨-, -, hpoint⟩ := Decimal.shortest_bounds Binary64.jsonLayout.tie hzero hunits (k := 21)
    (by decide)
  have hlong : 0 < (Nat.toDigits 10 (Decimal.shortest Binary64.jsonLayout.tie x).digits).length :=
    Nat.length_toDigits_pos
  exact ⟨by omega, Decimal.digits_shortest_lt Binary64.jsonLayout.tie hzero (by omega)⟩

/-- Below `2 ^ 68` the digits of a number, taken as a whole number, fit a word. -/
theorem written_fits (hunits : x.units < 2 ^ 68 * Binary64.unitsPerOne) :
    (written x).significand < UInt64.size := by
  unfold written
  split
  · decide
  · rename_i hzero
    have hshort := (shortest_lt (eq_false_of_ne_true hzero) hunits).2
    have hlong : 0 < (Nat.toDigits 10 (Decimal.shortest Binary64.jsonLayout.tie x).digits).length :=
      Nat.length_toDigits_pos
    generalize Decimal.shortest Binary64.jsonLayout.tie x = decimal at *
    dsimp only
    split
    · rename_i hlaid
      have hpoint : decimal.exponent + (Nat.toDigits 10 decimal.digits).length ≤ 16 :=
        of_decide_eq_true (Bool.and_eq_true_iff.1 hlaid.1).2
      have hdigits : decimal.digits < 10 ^ (Nat.toDigits 10 decimal.digits).length :=
        (Nat.length_toDigits_le_iff (by decide) hlong).1 (Nat.le_refl _)
      have htop : (Nat.toDigits 10 decimal.digits).length + (decimal.exponent.toNat + 1) ≤ 17 := by
        omega
      calc decimal.digits * 10 ^ (decimal.exponent.toNat + 1)
          ≤ 10 ^ (Nat.toDigits 10 decimal.digits).length * 10 ^ (decimal.exponent.toNat + 1) :=
            Nat.mul_le_mul_right _ (Nat.le_of_lt hdigits)
        _ = 10 ^ ((Nat.toDigits 10 decimal.digits).length + (decimal.exponent.toNat + 1)) :=
            (Nat.pow_add _ _ _).symm
        _ ≤ 10 ^ 17 := Nat.pow_le_pow_right (by decide) htop
        _ < UInt64.size := by decide
    · change decimal.digits < UInt64.size
      unfold UInt64.size
      omega

end Text

end StepLatency.Json
