import Mathlib
import StepLatency.Json.Scan
import StepLatency.Json.Value

/-!
# Strings that were written

Whatever characters a string has, its escaped form is scanned back to them. Each character is
escaped by itself, so one lemma about a character gives the string.
-/

namespace StepLatency.Json

def withChar (c : Char) (scanned : Except Fault (List Char × List Char)) :
    Except Fault (List Char × List Char) :=
  scanned.map fun (s, rest) => (c :: s, rest)

theorem scanString_quote (rest : List Char) : scanString ('"' :: rest) = .ok ([], rest) := by
  rw [scanString.eq_def]
  exact if_pos rfl

theorem scanString_named {letter c : Char} (hne : letter ≠ 'u')
    (hnamed : namedEscape? letter = some c) (rest : List Char) :
    scanString ('\\' :: letter :: rest) = withChar c (scanString rest) := by
  rw [scanString.eq_def]
  simp [hne, hnamed, withChar]

theorem scanString_plain {c : Char} (hquote : c ≠ '"') (hbackslash : c ≠ '\\')
    (hcontrol : ¬ c.toNat < 0x20) (rest : List Char) :
    scanString (c :: rest) = withChar c (scanString rest) := by
  rw [scanString.eq_def]
  dsimp only
  rw [if_neg hquote, if_neg hbackslash, if_neg hcontrol]
  rfl

theorem quadValue?_hexPair {n : Nat} (hn : n < 0x20) :
    quadValue? '0' '0' (Nat.digitChar (n / 16)) (Nat.digitChar (n % 16)) = some n := by
  have hall : ∀ n < 0x20,
      quadValue? '0' '0' (Nat.digitChar (n / 16)) (Nat.digitChar (n % 16)) = some n := by decide
  exact hall n hn

theorem scanString_control {c : Char} (hc : c.toNat < 0x20) (rest : List Char) :
    scanString (['\\', 'u', '0', '0'] ++ hexPair c.toNat ++ rest) = withChar c (scanString rest) := by
  have hlow : isLowSurrogate c.toNat = false := by
    simp only [isLowSurrogate, Bool.and_eq_false_iff, decide_eq_false_iff_not]
    omega
  have hhigh : isHighSurrogate c.toNat = false := by
    simp only [isHighSurrogate, Bool.and_eq_false_iff, decide_eq_false_iff_not]
    omega
  rw [hexPair, scanString.eq_def]
  simp [quadValue?_hexPair hc, hlow, hhigh, withChar]

/-- Of an escaped character, the scanner makes the character. -/
theorem scanString_escaped (c : Char) (rest : List Char) :
    scanString (escaped c ++ rest) = withChar c (scanString rest) := by
  unfold escaped
  -- Seven characters are escaped by a letter, control characters by their number.
  iterate 7
    split
    · rename_i heq
      subst heq
      exact scanString_named (by decide) rfl rest
  split
  · rename_i hcontrol
    exact scanString_control hcontrol rest
  · exact scanString_plain ‹¬ c = '"'› ‹¬ c = '\\'› ‹¬ c.toNat < 0x20› rest

/-- A string is scanned back from its escaped form, up to the closing quote. -/
theorem scanString_flatMap_escaped (s rest : List Char) :
    scanString (s.flatMap escaped ++ '"' :: rest) = .ok (s, rest) := by
  induction s with
  | nil => exact scanString_quote rest
  | cons c s ih =>
      rw [List.flatMap_cons, List.append_assoc, scanString_escaped, ih]
      rfl

end StepLatency.Json
