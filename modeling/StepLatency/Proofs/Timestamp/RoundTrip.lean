import Mathlib
import StepLatency.Proofs.Json.Numeral
import StepLatency.Proofs.Text.Trimmed
import StepLatency.Proofs.Timestamp.Calendar
import StepLatency.Timestamp.Reader

/-!
# Timestamps that are read back

The text of a timestamp is read as the same timestamp, leap seconds included. Each part is written
with as many digits as its reader takes, or is followed by a mark that is no digit.
-/

namespace StepLatency.Timestamp

open Decimal (digitsValue padded)
open Json (Digits NoDigitHead digits_padded noDigitHead_cons ne_of_isDigit takeWhile_isDigit ok_bind)
open Text (isBlank isBlank_of_isDigit trimLeft)

/-- A moment that a clock can show. -/
structure Valid (t : Timestamp) : Prop where
  day : isDay t.day = true
  second_lt : t.second < secondsPerDay
  nanos_lt : t.nanos < nanosInSecond ∨ t.second % 60 = 59 ∧ t.nanos < 2 * nanosInSecond

/-! ### Numbers and marks -/

section Numbers

variable {digits rest : List Char} {width n : Nat} {c : Char}

theorem trimLeft_cons (hc : isBlank c = false) : trimLeft (c :: rest) = c :: rest := by
  rw [trimLeft, List.dropWhile_cons, hc]
  rfl

theorem trimLeft_digits (hdigits : Digits digits) (rest : List Char) :
    trimLeft (digits ++ rest) = digits ++ rest := by
  obtain ⟨c, more, rfl, hc⟩ := hdigits.exists_cons
  exact trimLeft_cons (isBlank_of_isDigit hc)

/-- Digits are read where no more are taken, or no more follow. -/
theorem readNumber_append (hdigits : Digits digits) (hlength : digits.length ≤ width)
    (hend : digits.length = width ∨ NoDigitHead rest) :
    readNumber width (digits ++ rest) = .ok (digitsValue digits, rest) := by
  have hstop : NoDigitHead (rest.take (width - digits.length)) := by
    rcases hend with hfull | hhead
    · rw [hfull, Nat.sub_self, List.take_zero]
      exact fun _ _ heq => nomatch heq
    · exact hhead.take _
  have hread : ((digits ++ rest).take width).takeWhile Char.isDigit = digits := by
    rw [List.take_append, List.take_of_length_le hlength]
    exact (takeWhile_isDigit hdigits.isDigit hstop).1
  have hsome : (digits ++ rest).isEmpty = false := by simp [hdigits.ne_nil]
  have hsome' : digits.isEmpty = false := by simp [hdigits.ne_nil]
  unfold readNumber
  simp only [hread, hsome, hsome', Bool.false_eq_true, if_false, List.drop_left]

theorem readPart_padded {low high : Nat} (hn : n < 100) (hlow : low ≤ n) (hhigh : n ≤ high)
    (rest : List Char) : readPart low high ((padded 2 n).toList ++ rest) = .ok (n, rest) := by
  have hdigits := digits_padded 2 n
  have hlength : (padded 2 n).toList.length = 2 := Decimal.length_padded (by decide) hn
  rw [readPart, trimLeft_digits hdigits,
    readNumber_append hdigits (Nat.le_of_eq hlength) (.inl hlength), ok_bind,
    Decimal.digitsValue_padded]
  exact if_pos ⟨hlow, hhigh⟩

theorem readMark_cons (hc : isBlank c = false) (rest : List Char) :
    readMark c (c :: rest) = .ok rest := by
  rw [readMark, trimLeft_cons hc]
  exact if_pos rfl

end Numbers

/-! ### The parts of a timestamp -/

section Parts

variable {rest : List Char}

theorem readYear_minus {cs : List Char} {n : Nat} {year : Int} (hsign : -(n : Int) = year)
    (hyear : -0x80000000 ≤ year ∧ year < 0x80000000)
    (hread : readNumber cs.length cs = .ok (n, rest)) : readYear ('-' :: cs) = .ok (year, rest) := by
  rw [readYear, trimLeft_cons (by decide)]
  simp only [hread, Except.map, ok_bind, hsign]
  exact if_pos hyear

theorem readYear_plus {cs : List Char} {n : Nat} {year : Int} (hsign : (n : Int) = year)
    (hyear : -0x80000000 ≤ year ∧ year < 0x80000000)
    (hread : readNumber cs.length cs = .ok (n, rest)) : readYear ('+' :: cs) = .ok (year, rest) := by
  rw [readYear, trimLeft_cons (by decide)]
  simp only [hread, Except.map, ok_bind, hsign]
  exact if_pos hyear

/-- A year of four digits is read as it is written. -/
theorem readYear_unsigned {n : Nat} {year : Int} (hsign : (n : Int) = year) (hn : n < 10000)
    (rest : List Char) : readYear ((padded 4 n).toList ++ rest) = .ok (year, rest) := by
  have hdigits := digits_padded 4 n
  have hlength : (padded 4 n).toList.length = 4 := Decimal.length_padded (by decide) hn
  have hread : readNumber 4 ((padded 4 n).toList ++ rest) = .ok (n, rest) := by
    rw [readNumber_append hdigits (Nat.le_of_eq hlength) (.inl hlength),
      Decimal.digitsValue_padded]
  obtain ⟨c, more, hcons, hc⟩ := hdigits.exists_cons
  have hminus : c ≠ '-' := ne_of_isDigit hc (by decide)
  have hplus : c ≠ '+' := ne_of_isDigit hc (by decide)
  have hyear : -0x80000000 ≤ year ∧ year < 0x80000000 := by omega
  rw [readYear, trimLeft_digits hdigits]
  rw [hcons, List.cons_append] at hread ⊢
  split
  · rename_i heq
    exact absurd (List.cons.inj heq).1 hminus
  · rename_i heq
    exact absurd (List.cons.inj heq).1 hplus
  · rw [hread]
    simp only [Except.map, ok_bind, hsign]
    exact if_pos hyear

/-- A year is read back, whether it has a sign or not. -/
theorem readYear_yearText {year : Int} (hyear : -0x80000000 ≤ year ∧ year < 0x80000000)
    (hrest : NoDigitHead rest) : readYear ((yearText year).toList ++ rest) = .ok (year, rest) := by
  have hsigned : readNumber ((padded 4 year.natAbs).toList ++ rest).length
      ((padded 4 year.natAbs).toList ++ rest) = .ok (year.natAbs, rest) := by
    rw [readNumber_append (digits_padded 4 _) (by simp) (.inr hrest), Decimal.digitsValue_padded]
  unfold yearText
  rcases Int.lt_or_le year 0 with hneg | hnonneg
  · have hread := readYear_minus (by omega) hyear hsigned
    rw [if_pos hneg]
    simpa using hread
  · have hsign : (year.natAbs : Int) = year := by omega
    rw [if_neg (Int.not_lt.2 hnonneg)]
    by_cases hlong : 9999 < year
    · have hread := readYear_plus hsign hyear hsigned
      rw [if_pos hlong]
      simpa using hread
    · rw [if_neg hlong, String.empty_append]
      exact readYear_unsigned hsign (by omega) rest

/-- A fraction of so many digits counts that many places of the nanoseconds. -/
theorem readFraction_padded (width n : Nat) (hpos : 0 < width) (hwidth : width ≤ 9)
    (hn : n < 10 ^ width) (hrest : NoDigitHead rest) :
    readFraction ('.' :: ((padded width n).toList ++ rest)) =
      .ok (n * Nat.pow 10 (9 - width), rest) := by
  have hdigits := digits_padded width n
  have hlength : (padded width n).toList.length = width := Decimal.length_padded hpos hn
  have hcount : ((padded width n).toList ++ rest).length - rest.length = width := by
    rw [List.length_append, hlength, Nat.add_sub_cancel]
  have hstop : rest.dropWhile Char.isDigit = rest := by
    have hnone : ∀ c ∈ ([] : List Char), c.isDigit = true := fun _ h => absurd h List.not_mem_nil
    exact (takeWhile_isDigit hnone hrest).2
  rw [readFraction, readNumber_append hdigits (by omega) (.inr hrest), ok_bind]
  simp only [hcount, hstop, Decimal.digitsValue_padded]
  rfl

/-- A fraction of a second is read as it is written, in three, six or nine digits. -/
theorem readFraction_fractionText {nanos : Nat} (hnanos : nanos < nanosInSecond) :
    readFraction ((fractionText nanos).toList ++ ['Z']) = .ok (nanos, ['Z']) := by
  have hstop : NoDigitHead ['Z'] := noDigitHead_cons (by decide)
  unfold nanosInSecond at hnanos
  unfold fractionText
  split
  · rename_i hzero
    rw [hzero]
    rfl
  split
  · have hread := readFraction_padded 3 (nanos / 1000000) (by decide) (by decide)
      (by omega) hstop
    have hvalue : nanos / 1000000 * Nat.pow 10 (9 - 3) = nanos := by norm_num; omega
    rw [hvalue] at hread
    simpa using hread
  split
  · have hread := readFraction_padded 6 (nanos / 1000) (by decide) (by decide)
      (by omega) hstop
    have hvalue : nanos / 1000 * Nat.pow 10 (9 - 6) = nanos := by norm_num; omega
    rw [hvalue] at hread
    simpa using hread
  · have hread := readFraction_padded 9 nanos (by decide) (by decide)
      (by omega) hstop
    simpa using hread

/-- Clocks that show universal time show the moment itself. -/
theorem assemble_zero {date : Date} {second leapSecond nanos : Nat} (hdate : date.isValid = true)
    (hday : isDay date.dayNumber = true) (hsecond : second < secondsPerDay) :
    assemble date second leapSecond nanos 0 =
      .ok ⟨date.dayNumber, second, nanos + leapSecond * nanosInSecond⟩ := by
  have hsame : behind ⟨date.dayNumber, second, nanos + leapSecond * nanosInSecond⟩ 0 =
      ⟨date.dayNumber, second, nanos + leapSecond * nanosInSecond⟩ := by
    unfold secondsPerDay at hsecond
    unfold behind secondsPerDay
    simp only [Timestamp.mk.injEq, and_true]
    omega
  have hnear : ¬ secondsPerDay ≤ (0 : Int).natAbs := by decide
  unfold assemble
  rw [hsame]
  simp [hdate, hday]
  rfl

end Parts

/-! ### The whole text -/

theorem toList_text (t : Timestamp) :
    t.text.toList =
      (yearText (Date.ofDayNumber t.day).year).toList ++ '-' ::
        ((padded 2 (Date.ofDayNumber t.day).month).toList ++ '-' ::
          ((padded 2 (Date.ofDayNumber t.day).day).toList ++ 'T' ::
            ((padded 2 (t.second / 3600)).toList ++ ':' ::
              ((padded 2 (t.second / 60 % 60)).toList ++ ':' ::
                ((padded 2 (t.second % 60 + if nanosInSecond ≤ t.nanos then 1 else 0)).toList ++
                  ((fractionText (if nanosInSecond ≤ t.nanos then t.nanos - nanosInSecond
                    else t.nanos)).toList ++ ['Z'])))))) := by
  have hself (s : String) : toString s = s := rfl
  simp [text, hself]

/-- The years of the days that a timestamp may fall on are within the reach of a reader. -/
theorem year_bounds {day : Int} (hday : isDay day = true) :
    -0x80000000 ≤ (Date.ofDayNumber day).year ∧ (Date.ofDayNumber day).year < 0x80000000 := by
  have hfirst : -100000000 ≤ Date.first.dayNumber := by decide
  have hlast : Date.last.dayNumber ≤ 100000000 := by decide
  obtain ⟨hlow, hhigh⟩ := Date.year_ofDayNumber_bounds day
  simp only [isDay, Bool.and_eq_true, decide_eq_true_eq] at hday
  unfold epochOffset daysPerEra at hlow hhigh
  omega

theorem date_bounds {date : Date} (h : date.isValid = true) :
    1 ≤ date.month ∧ date.month ≤ 12 ∧ 1 ≤ date.day ∧ date.day ≤ 31 := by
  have hlong : daysInMonth date.year date.month ≤ 31 := by
    unfold daysInMonth
    repeat' split
    all_goals decide
  simp only [Date.isValid, Bool.and_eq_true, decide_eq_true_eq] at h
  omega

/-- In a leap second the second is written as 60, and the nanoseconds without the second before. -/
theorem exists_leap {second nanos : Nat}
    (h : nanos < nanosInSecond ∨ second % 60 = 59 ∧ nanos < 2 * nanosInSecond) :
    ∃ leap written,
      (if nanosInSecond ≤ nanos then 1 else 0) = leap ∧
      (if nanosInSecond ≤ nanos then nanos - nanosInSecond else nanos) = written ∧
      written < nanosInSecond ∧ written + leap * nanosInSecond = nanos ∧
      (leap = 0 ∨ leap = 1 ∧ second % 60 = 59) := by
  refine ⟨_, _, rfl, rfl, ?_⟩
  split <;> omega

/-- The text of a timestamp is read as the timestamp. -/
theorem read_text {t : Timestamp} (h : t.Valid) : read t.text.toList = .ok t := by
  obtain ⟨day, second, nanos⟩ := t
  obtain ⟨hday, hsecond, hnanos⟩ := h
  have hvalid := Date.isValid_ofDayNumber day
  have hnumber := Date.dayNumber_ofDayNumber day
  have hbounds := year_bounds hday
  obtain ⟨hfirstMonth, hlastMonth, hfirstDay, hlastDay⟩ := date_bounds hvalid
  dsimp only at hday hsecond hnanos
  unfold secondsPerDay at hsecond
  rw [toList_text]
  dsimp only
  generalize Date.ofDayNumber day = date at *
  obtain ⟨leap, written, hleap, hwritten, hfraction, hsum, hsixty⟩ := exists_leap hnanos
  rw [hleap, hwritten]
  have hyear (rest : List Char) :
      readYear ((yearText date.year).toList ++ '-' :: rest) = .ok (date.year, '-' :: rest) :=
    readYear_yearText hbounds (noDigitHead_cons (by decide))
  have hmonth (rest : List Char) : readPart 1 12 _ = _ :=
    readPart_padded (by omega) hfirstMonth hlastMonth rest
  have hdate (rest : List Char) : readPart 1 31 _ = _ :=
    readPart_padded (by omega) hfirstDay hlastDay rest
  have hhour (rest : List Char) : readPart 0 23 ((padded 2 (second / 3600)).toList ++ rest) = _ :=
    readPart_padded (by omega) (by omega) (by omega) rest
  have hminute (rest : List Char) :
      readPart 0 59 ((padded 2 (second / 60 % 60)).toList ++ rest) = _ :=
    readPart_padded (by omega) (by omega) (by omega) rest
  have hseconds (rest : List Char) :
      readPart 0 60 ((padded 2 (second % 60 + leap)).toList ++ rest) = _ :=
    readPart_padded (by omega) (by omega) (by omega) rest
  have hdash (rest : List Char) : readMark '-' ('-' :: rest) = .ok rest :=
    readMark_cons (by decide) rest
  have hcolon (rest : List Char) : readMark ':' (':' :: rest) = .ok rest :=
    readMark_cons (by decide) rest
  have hseparator (rest : List Char) : readSeparator ('T' :: rest) = .ok rest := rfl
  have hoffset : readOffset (trimLeft ['Z']) = .ok (0, []) := by decide
  have htime : 3600 * (second / 3600) + 60 * (second / 60 % 60) + min (second % 60 + leap) 59 =
      second ∧ second % 60 + leap - 59 = leap := by omega
  rw [read, hyear]
  simp only [ok_bind, hdash, hmonth, hdate, hseparator, hhour, hcolon, hminute, hseconds,
    readFraction_fractionText hfraction, hoffset, htime.1, htime.2]
  rw [← hnumber] at hday
  have hassemble : assemble date second leap written 0 = _ := assemble_zero hvalid hday hsecond
  rw [hnumber, hsum] at hassemble
  exact hassemble

end StepLatency.Timestamp
