import Mathlib
import StepLatency.Decimal.Reader
import StepLatency.Proofs.Json.NumberText

/-!
# Whole numbers below a bound

A text is read as a whole number just if it is one or more digits, with or without a plus sign in
front, and the number is below the bound. Zeros in front do not count, however many there are.
-/

namespace StepLatency.Decimal

open Json (Digits digits_toDigits)

/-- Digits, which a plus sign may precede, stand for their value. -/
inductive Denotes : List Char → Nat → Prop
  | bare {digits : List Char} (h : Digits digits) : Denotes digits (digitsValue digits)
  | plus {digits : List Char} (h : Digits digits) : Denotes ('+' :: digits) (digitsValue digits)

section Digits

variable {bound value n : Nat} {text : List Char}

theorem digitValue?_eq_some_iff {c : Char} {d : Nat} :
    digitValue? c = some d ↔ c.isDigit = true ∧ c.toNat - '0'.toNat = d := by
  rw [digitValue?, Option.ite_none_right_eq_some, Option.some.injEq]

/-- The first digit that reaches the bound is refused, and no later one leads back below it. -/
theorem readDigits_eq_ok_iff :
    readDigits bound value text = .ok n ↔
      (∀ c ∈ text, c.isDigit = true) ∧ text.foldl appendDigit value = n ∧
        (text ≠ [] → n < bound) := by
  induction text generalizing value with
  | nil => simp [readDigits]
  | cons c rest ih =>
      rw [readDigits, List.forall_mem_cons, List.foldl_cons]
      cases hc : digitValue? c with
      | none =>
          have hnone : c.isDigit ≠ true := fun h => by simp [digitValue?, h] at hc
          simp [hnone]
      | some d =>
          obtain ⟨hdigit, rfl⟩ := digitValue?_eq_some_iff.1 hc
          have hle := le_foldl_appendDigit (appendDigit value c) rest
          change (if bound ≤ appendDigit value c then _ else
            readDigits bound (appendDigit value c) rest) = _ ↔ _
          split
          · rename_i hlarge
            simp only [reduceCtorEq, false_iff]
            rintro ⟨-, rfl, hlt⟩
            have := hlt (List.cons_ne_nil _ _)
            omega
          · rename_i hsmall
            rw [ih]
            constructor
            · rintro ⟨hrest, rfl, hlt⟩
              refine ⟨⟨hdigit, hrest⟩, rfl, fun _ => ?_⟩
              by_cases hnil : rest = []
              · rw [hnil]
                exact Nat.lt_of_not_le hsmall
              · exact hlt hnil
            · rintro ⟨⟨-, hrest⟩, rfl, hlt⟩
              exact ⟨hrest, rfl, fun _ => hlt (List.cons_ne_nil _ _)⟩

theorem readDigits_zero_eq_ok_iff (hne : text ≠ []) :
    readDigits bound 0 text = .ok n ↔ Digits text ∧ digitsValue text = n ∧ n < bound := by
  rw [readDigits_eq_ok_iff]
  constructor
  · rintro ⟨hdigits, hvalue, hlt⟩
    exact ⟨⟨hne, hdigits⟩, hvalue, hlt hne⟩
  · rintro ⟨hdigits, hvalue, hlt⟩
    exact ⟨hdigits.isDigit, hvalue, fun _ => hlt⟩

end Digits

theorem denotes_iff {text : List Char} {n : Nat} :
    Denotes text n ↔ ∃ digits, Digits digits ∧ digitsValue digits = n ∧
      (text = digits ∨ text = '+' :: digits) := by
  constructor
  · rintro (h | h)
    · exact ⟨_, h, rfl, .inl rfl⟩
    · exact ⟨_, h, rfl, .inr rfl⟩
  · rintro ⟨digits, h, rfl, rfl | rfl⟩
    · exact .bare h
    · exact .plus h

theorem denotes_toString (n : Nat) : Denotes (toString n).toList n := by
  rw [toList_toString]
  exact denotes_iff.2 ⟨_, digits_toDigits n, digitsValue_toDigits n, .inl rfl⟩

/-- What is read is what the text denotes, if it is below the bound; nothing else is read. -/
theorem readNatural_eq_ok_iff {bound n : Nat} {text : List Char} :
    readNatural bound text = .ok n ↔ Denotes text n ∧ n < bound := by
  have hplus : ¬ ('+' : Char).isDigit = true := by decide
  rw [denotes_iff]
  unfold readNatural
  split
  · simp only [reduceCtorEq, false_iff]
    rintro ⟨⟨digits, h, -, rfl | heq⟩, -⟩
    · exact h.ne_nil rfl
    · exact nomatch heq
  · simp only [reduceCtorEq, false_iff]
    rintro ⟨⟨digits, h, -, rfl | heq⟩, -⟩
    · exact hplus (h.isDigit _ List.mem_cons_self)
    · exact h.ne_nil (List.cons.inj heq).2.symm
  · rename_i digits hne
    rw [readDigits_zero_eq_ok_iff (fun hnil => hne (by rw [hnil]))]
    constructor
    · rintro ⟨h, hvalue, hlt⟩
      exact ⟨⟨digits, h, hvalue, .inr rfl⟩, hlt⟩
    · rintro ⟨⟨digits', h, hvalue, rfl | heq⟩, hlt⟩
      · exact absurd (h.isDigit _ List.mem_cons_self) hplus
      · obtain rfl := (List.cons.inj heq).2
        exact ⟨h, hvalue, hlt⟩
  · rename_i hnil hsingle hcons
    rw [readDigits_zero_eq_ok_iff hnil]
    constructor
    · rintro ⟨h, hvalue, hlt⟩
      exact ⟨⟨text, h, hvalue, .inl rfl⟩, hlt⟩
    · rintro ⟨⟨digits, h, hvalue, rfl | rfl⟩, hlt⟩
      · exact ⟨h, hvalue, hlt⟩
      · exact absurd rfl (hcons digits)

end StepLatency.Decimal
