import Mathlib
import StepLatency.Proofs.Decimal.Digits
import StepLatency.Json.Number

/-!
# Scanning numerals

A numeral that is written out is scanned as it is, wherever what follows does not go on like a
number. As long as the digits fit a word they all count: whole numerals keep their value, and a
numeral with a fraction or an exponent is a real number of its digits and its power of ten.
-/

namespace StepLatency.Json

open Decimal (digitsValue appendDigit)

@[simp]
theorem ok_bind {ε α β : Type} (a : α) (f : α → Except ε β) : (Except.ok a >>= f) = f a :=
  rfl

structure Digits (cs : List Char) : Prop where
  ne_nil : cs ≠ []
  isDigit : ∀ c ∈ cs, c.isDigit = true

def NoDigitHead (cs : List Char) : Prop := ∀ c rest, cs = c :: rest → c.isDigit = false

def EndsNumber (cs : List Char) : Prop :=
  ∀ c rest, cs = c :: rest → c.isDigit = false ∧ c ≠ '.' ∧ c ≠ 'e' ∧ c ≠ 'E'

theorem EndsNumber.noDigitHead {cs : List Char} (h : EndsNumber cs) : NoDigitHead cs :=
  fun c rest heq => (h c rest heq).1

section Digits

variable {digits rest : List Char}

theorem noDigitHead_cons {c : Char} (hc : c.isDigit = false) : NoDigitHead (c :: rest) := by
  intro d more heq
  obtain ⟨rfl, -⟩ := List.cons.inj heq
  exact hc

theorem eq_cons_of_take_eq_cons {count : Nat} {c : Char} {cs more : List Char}
    (h : cs.take count = c :: more) : cs = c :: (more ++ cs.drop count) := by
  rw [← List.cons_append, ← h, List.take_append_drop]

theorem NoDigitHead.take (h : NoDigitHead rest) (count : Nat) : NoDigitHead (rest.take count) :=
  fun c _ heq => h c _ (eq_cons_of_take_eq_cons heq)

theorem digits_padded (width n : Nat) : Digits (Decimal.padded width n).toList where
  ne_nil := Decimal.padded_ne_nil
  isDigit _ hc := Decimal.isDigit_of_mem_padded hc

theorem Digits.exists_cons (h : Digits digits) :
    ∃ c more, digits = c :: more ∧ c.isDigit = true := by
  obtain ⟨c, more, rfl⟩ := List.exists_cons_of_ne_nil h.ne_nil
  exact ⟨c, more, rfl, h.isDigit c List.mem_cons_self⟩

theorem ne_of_isDigit {c d : Char} (hc : c.isDigit = true) (hd : d.isDigit = false) : c ≠ d := by
  rintro rfl
  rw [hc] at hd
  exact nomatch hd

theorem takeWhile_isDigit (hdigits : ∀ c ∈ digits, c.isDigit = true) (hrest : NoDigitHead rest) :
    (digits ++ rest).takeWhile Char.isDigit = digits ∧
      (digits ++ rest).dropWhile Char.isDigit = rest := by
  rw [List.takeWhile_append_of_pos hdigits, List.dropWhile_append_of_pos hdigits]
  cases rest with
  | nil => exact ⟨List.append_nil _, rfl⟩
  | cons c more =>
      have hc : c.isDigit = false := hrest c more rfl
      simp [hc]

theorem scanDigits_append (h : Digits digits) (hrest : NoDigitHead rest) (atEnd : Fault) :
    scanDigits atEnd (digits ++ rest) = .ok (digits, rest) := by
  obtain ⟨htake, hdrop⟩ := takeWhile_isDigit h.isDigit hrest
  obtain ⟨c, more, rfl, hc⟩ := h.exists_cons
  rw [List.cons_append] at htake hdrop ⊢
  rw [scanDigits, if_pos hc, htake, hdrop]

end Digits

/-! ### The text of a numeral -/

namespace Numeral

def exponentText : Option (Bool × List Char) → List Char
  | none => []
  | some (negative, digits) => 'e' :: ((if negative then ['-'] else []) ++ digits)

def fractionText : Option (List Char) → List Char
  | none => []
  | some digits => '.' :: digits

def text (n : Numeral) : List Char :=
  (if n.negative then ['-'] else []) ++ n.whole ++ fractionText n.fraction ++
    exponentText n.exponent

/-- Digits where there must be some, and no needless zero in front. -/
structure WellFormed (n : Numeral) : Prop where
  whole : Digits n.whole
  noLeadingZero : n.whole = ['0'] ∨ ∀ rest, n.whole ≠ '0' :: rest
  fraction : ∀ digits, n.fraction = some digits → Digits digits
  exponent : ∀ negative digits, n.exponent = some (negative, digits) → Digits digits

end Numeral

section Scan

variable {rest : List Char} {atEnd : Fault}

theorem scanWhole_append {whole : List Char} (hwhole : Digits whole)
    (hzero : whole = ['0'] ∨ ∀ rest, whole ≠ '0' :: rest) (hrest : NoDigitHead rest) :
    scanWhole atEnd (whole ++ rest) = .ok (whole, rest) := by
  rcases hzero with rfl | hzero
  · cases rest with
    | nil => rfl
    | cons c more =>
        have hc : c.isDigit = false := hrest c more rfl
        simp [scanWhole, hc]
  · obtain ⟨c, more, rfl, hc⟩ := hwhole.exists_cons
    have hne : c ≠ '0' := fun heq => hzero more (heq ▸ rfl)
    have hscan := scanDigits_append hwhole hrest atEnd
    rw [List.cons_append] at hscan ⊢
    unfold scanWhole
    split
    · rename_i heq
      exact absurd (List.cons.inj heq).1 hne
    · exact hscan

theorem scanFraction_append {fraction : Option (List Char)}
    (hfraction : ∀ digits, fraction = some digits → Digits digits)
    (hrest : NoDigitHead rest) (hpoint : ∀ more, rest ≠ '.' :: more) :
    scanFraction atEnd (Numeral.fractionText fraction ++ rest) = .ok (fraction, rest) := by
  cases fraction with
  | none =>
      rw [Numeral.fractionText, List.nil_append]
      unfold scanFraction
      split
      · exact absurd rfl (hpoint _)
      · rfl
  | some digits =>
      rw [Numeral.fractionText, List.cons_append, scanFraction,
        scanDigits_append (hfraction digits rfl) hrest]
      rfl

/-- An exponent is read up to where the number ends. -/
theorem scanExponent_append {exponent : Option (Bool × List Char)}
    (hexponent : ∀ negative digits, exponent = some (negative, digits) → Digits digits)
    (hrest : EndsNumber rest) :
    scanExponent atEnd (Numeral.exponentText exponent ++ rest) = .ok (exponent, rest) := by
  cases exponent with
  | none =>
      rw [Numeral.exponentText, List.nil_append]
      cases rest with
      | nil => rfl
      | cons c more =>
          obtain ⟨-, -, hlower, hupper⟩ := hrest c more rfl
          unfold scanExponent
          exact if_neg (not_or.2 ⟨hlower, hupper⟩)
  | some marked =>
      obtain ⟨negative, digits⟩ := marked
      have hdigits := hexponent negative digits rfl
      have hscan := scanDigits_append hdigits hrest.noDigitHead atEnd
      cases negative with
      | true =>
          change (scanDigits atEnd (digits ++ rest)).map _ = _
          rw [hscan]
          rfl
      | false =>
          obtain ⟨c, more, rfl, hc⟩ := hdigits.exists_cons
          have hminus : c ≠ '-' := ne_of_isDigit hc (by decide)
          have hplus : c ≠ '+' := ne_of_isDigit hc (by decide)
          rw [List.cons_append] at hscan
          change scanExponent atEnd ('e' :: c :: (more ++ rest)) = _
          unfold scanExponent
          simp [hminus, hplus, hscan, Except.map]

theorem noDigitHead_exponentText (exponent : Option (Bool × List Char)) (hrest : EndsNumber rest) :
    NoDigitHead (Numeral.exponentText exponent ++ rest) ∧
      ∀ more, Numeral.exponentText exponent ++ rest ≠ '.' :: more := by
  cases exponent with
  | none => exact ⟨hrest.noDigitHead, fun more heq => (hrest _ _ heq).2.1 rfl⟩
  | some marked =>
      refine ⟨noDigitHead_cons (by decide), fun more heq => ?_⟩
      exact absurd (List.cons.inj heq).1 (by decide)

theorem noDigitHead_fractionText (fraction : Option (List Char)) (hrest : NoDigitHead rest) :
    NoDigitHead (Numeral.fractionText fraction ++ rest) := by
  cases fraction with
  | none => exact hrest
  | some digits => exact noDigitHead_cons (by decide)

theorem scanNumeral_of_parts {unsigned afterWhole afterFraction : List Char} {n : Numeral}
    (hdigit : ∀ more, unsigned ≠ '-' :: more)
    (hwhole : scanWhole atEnd unsigned = .ok (n.whole, afterWhole))
    (hfraction : scanFraction atEnd afterWhole = .ok (n.fraction, afterFraction))
    (hexponent : scanExponent atEnd afterFraction = .ok (n.exponent, rest)) :
    scanNumeral atEnd ((if n.negative then ['-'] else []) ++ unsigned) = .ok (n, rest) := by
  obtain ⟨negative, whole, fraction, exponent⟩ := n
  unfold scanNumeral
  cases negative with
  | true =>
      simp only [if_true, List.singleton_append, hwhole, ok_bind, hfraction, hexponent]
      rfl
  | false =>
      simp only [Bool.false_eq_true, if_false, List.nil_append, hwhole, ok_bind, hfraction,
        hexponent]
      rfl

/-- A numeral that is written out is scanned as it is. -/
theorem scanNumeral_text {n : Numeral} (hn : n.WellFormed) (hrest : EndsNumber rest) :
    scanNumeral atEnd (n.text ++ rest) = .ok (n, rest) := by
  obtain ⟨hexponentHead, hpoint⟩ := noDigitHead_exponentText n.exponent hrest
  have hunsigned : ∀ more, n.whole ++ (Numeral.fractionText n.fraction ++
      (Numeral.exponentText n.exponent ++ rest)) ≠ '-' :: more := by
    obtain ⟨c, more, hcons, hc⟩ := hn.whole.exists_cons
    have hminus : c ≠ '-' := ne_of_isDigit hc (by decide)
    simp [hcons, hminus]
  have hscan : scanNumeral atEnd _ = _ := scanNumeral_of_parts hunsigned
    (scanWhole_append hn.whole hn.noLeadingZero (noDigitHead_fractionText _ hexponentHead))
    (scanFraction_append hn.fraction hexponentHead hpoint)
    (scanExponent_append hn.exponent hrest)
  simpa [Numeral.text] using hscan

end Scan

/-! ### Values of numerals -/

namespace Scaled

variable {s : Scaled}

/-- As long as the digits fit a word, they are all kept. -/
theorem addWhole_of_fits {value : Nat} {digits : List Char}
    (hfits : digits.foldl appendDigit value < UInt64.size) :
    addWhole ⟨value, 0⟩ digits = ⟨digits.foldl appendDigit value, 0⟩ := by
  induction digits generalizing value with
  | nil => rfl
  | cons c rest ih =>
      have hnext : fits value c = true :=
        decide_eq_true (Nat.lt_of_le_of_lt (Decimal.le_foldl_appendDigit _ rest) hfits)
      rw [addWhole, if_pos hnext]
      exact ih hfits

/-- As long as the significand fits, no digit of a fraction is dropped. -/
theorem addFraction_of_fits {value : Nat} {exponent : Int} {digits : List Char}
    (hfits : digits.foldl appendDigit value < UInt64.size) :
    addFraction ⟨value, exponent⟩ digits =
      ⟨digits.foldl appendDigit value, exponent - digits.length⟩ := by
  induction digits generalizing value exponent with
  | nil => simp [addFraction]
  | cons c rest ih =>
      have hnext : fits value c = true :=
        decide_eq_true (Nat.lt_of_le_of_lt (Decimal.le_foldl_appendDigit _ rest) hfits)
      have hexponent : exponent - 1 - rest.length = exponent - (c :: rest).length := by
        rw [List.length_cons]
        omega
      rw [addFraction, if_pos hnext, ih hfits, hexponent]
      rfl

end Scaled

namespace Numeral

def power (n : Numeral) : Int :=
  match n.exponent with
  | some (negative, digits) => if negative then -(digitsValue digits : Int) else digitsValue digits
  | none => 0

def written (n : Numeral) : Scaled :=
  ⟨digitsValue (n.whole ++ n.fraction.getD []), n.power - (n.fraction.getD []).length⟩

/-- A positive numeral that a fraction or an exponent marks as a real number. -/
structure IsReal (n : Numeral) : Prop extends n.WellFormed where
  positive : n.negative = false
  marked : n.fraction ≠ none ∨ n.exponent ≠ none
  moderate : ∀ negative digits, n.exponent = some (negative, digits) →
    digitsValue digits ≤ maxExponent

variable {n : Numeral}

/-- As long as the digits fit a word, a numeral is scaled as it is written. -/
theorem scaled_of_fits (hfits : n.written.significand < UInt64.size) :
    n.scaled = ⟨n.written.significand, -(n.fraction.getD []).length⟩ := by
  have hall : (n.fraction.getD []).foldl appendDigit (digitsValue n.whole) < UInt64.size := by
    rw [← Decimal.digitsValue_append]
    exact hfits
  have hwhole : digitsValue n.whole < UInt64.size :=
    Nat.lt_of_le_of_lt (Decimal.le_foldl_appendDigit _ _) hall
  have hscaled : Scaled.addWhole ⟨0, 0⟩ n.whole = ⟨digitsValue n.whole, 0⟩ :=
    Scaled.addWhole_of_fits hwhole
  rw [scaled, hscaled, Scaled.addFraction_of_fits hall, written, Decimal.digitsValue_append,
    Int.zero_sub]

/-- A real numeral whose digits fit has the magnitude of its digits and its power of ten. -/
theorem IsReal.value?_eq (hn : n.IsReal) (hfits : n.written.significand < UInt64.size) :
    n.value? = n.written.magnitude?.map .real := by
  have hsigned : (.real ∘ n.signed : Binary64 → Number) = .real := by
    funext y
    exact congrArg Number.real (if_neg (by rw [hn.positive]; decide))
  have hscaled := scaled_of_fits hfits
  unfold value?
  split
  · rename_i negative digits heq
    have hpower : n.written.exponent = (if negative then
        n.scaled.exponent - digitsValue digits else n.scaled.exponent + digitsValue digits) := by
      rw [hscaled, written, power, heq]
      cases negative with
      | true =>
          simp only [if_true]
          omega
      | false =>
          simp only [Bool.false_eq_true, if_false]
          omega
    rw [Scaled.withExponent?, if_neg (Nat.not_lt.2 (hn.moderate negative digits heq)), ← hpower,
      hscaled, hsigned]
  · rename_i heq
    have hnot : ¬ (n.fraction.isNone = true ∧ n.scaled.exponent = 0) := fun h =>
      hn.marked.resolve_right (fun h => h heq) (Option.isNone_iff_eq_none.1 h.1)
    have hpower : n.written = n.scaled := by
      rw [hscaled, written, power, heq, Int.zero_sub]
    rw [if_neg hnot, hpower, hsigned]

end Numeral

end StepLatency.Json
