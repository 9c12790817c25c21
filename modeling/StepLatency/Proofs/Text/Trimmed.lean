import Mathlib
import StepLatency.Text.Blank

/-!
# Trimmed texts

Trimming takes the blanks off both ends of a text. What is left has no blank at either end, and it
is the only such part of the text that has nothing but blanks around it.
-/

namespace StepLatency.Text

def AllBlank (cs : List Char) : Prop := ∀ c ∈ cs, isBlank c = true

instance (cs : List Char) : Decidable (AllBlank cs) :=
  decidable_of_iff (cs.all isBlank = true) List.all_eq_true

structure Bare (cs : List Char) : Prop where
  head : ∀ c ∈ cs.head?, isBlank c = false
  last : ∀ c ∈ cs.getLast?, isBlank c = false

/-- The text is the core, with blanks around it and none at its ends. -/
structure Trimmed (cs core : List Char) : Prop where
  bare : Bare core
  blanks : ∃ left right, AllBlank left ∧ AllBlank right ∧ cs = left ++ core ++ right

theorem isBlank_of_isDigit {c : Char} (hc : c.isDigit = true) : isBlank c = false := by
  simp only [Char.isDigit, Bool.and_eq_true, decide_eq_true_eq, ge_iff_le] at hc
  have hlow : 48 ≤ c.toNat := hc.1
  have hhigh : c.toNat ≤ 57 := hc.2
  by_contra hblank
  simp only [isBlank, blankRanges, List.any_cons, List.any_nil, Bool.not_eq_false,
    Bool.or_eq_true, Bool.and_eq_true, decide_eq_true_eq, Bool.false_eq_true, or_false] at hblank
  omega

section Ends

variable {cs left right : List Char}

theorem trimRight_eq_reverse (cs : List Char) : trimRight cs = (trimLeft cs.reverse).reverse :=
  rfl

theorem AllBlank.reverse (h : AllBlank cs) : AllBlank cs.reverse :=
  fun c hc => h c (List.mem_reverse.1 hc)

theorem trimLeft_append_left (h : AllBlank left) (cs : List Char) :
    trimLeft (left ++ cs) = trimLeft cs :=
  List.dropWhile_append_of_pos h

theorem trimRight_append_right (cs : List Char) (h : AllBlank right) :
    trimRight (cs ++ right) = trimRight cs := by
  rw [trimRight_eq_reverse, List.reverse_append, trimLeft_append_left h.reverse,
    trimRight_eq_reverse]

theorem trimLeft_eq_nil (h : AllBlank cs) : trimLeft cs = [] :=
  List.dropWhile_eq_nil_iff.2 h

theorem exists_eq_append_trimLeft (cs : List Char) :
    ∃ left, AllBlank left ∧ cs = left ++ trimLeft cs :=
  ⟨cs.takeWhile isBlank, fun _ hc => List.mem_takeWhile_imp hc,
    List.takeWhile_append_dropWhile.symm⟩

theorem exists_eq_trimRight_append (cs : List Char) :
    ∃ right, AllBlank right ∧ cs = trimRight cs ++ right := by
  obtain ⟨left, hleft, hcs⟩ := exists_eq_append_trimLeft cs.reverse
  refine ⟨left.reverse, hleft.reverse, ?_⟩
  rw [trimRight_eq_reverse, ← List.reverse_append, ← hcs, List.reverse_reverse]

theorem head?_trimLeft (cs : List Char) : ∀ c ∈ (trimLeft cs).head?, isBlank c = false := by
  intro c hc
  have hhead := List.head?_dropWhile_not isBlank cs
  rw [show (cs.dropWhile isBlank).head? = some c from hc] at hhead
  exact hhead

theorem getLast?_trimRight (cs : List Char) :
    ∀ c ∈ (trimRight cs).getLast?, isBlank c = false := by
  rw [trimRight_eq_reverse, List.getLast?_reverse]
  exact head?_trimLeft cs.reverse

end Ends

section Trim

variable {cs core left right : List Char}

/-- Blanks around a text do not count. -/
theorem trim_append (hleft : AllBlank left) (cs : List Char) (hright : AllBlank right) :
    trim (left ++ cs ++ right) = trim cs := by
  have hcore : trimRight (trimLeft (cs ++ right)) = trimRight (trimLeft cs) := by
    by_cases hnil : trimLeft cs = []
    · have hall : AllBlank cs := List.dropWhile_eq_nil_iff.1 hnil
      rw [trimLeft_append_left hall, trimLeft_eq_nil hright, hnil]
    · have happend : trimLeft (cs ++ right) = trimLeft cs ++ right := by
        rw [trimLeft, List.dropWhile_append, if_neg (by simpa [trimLeft] using hnil)]
        rfl
      rw [happend, trimRight_append_right _ hright]
  rw [trim, List.append_assoc, trimLeft_append_left hleft, hcore, trim]

theorem Bare.trim_eq (h : Bare cs) : trim cs = cs := by
  have hright : trimRight cs = cs := by
    rw [trimRight_eq_reverse, trimLeft_eq_self_iff.2 (by rw [List.head?_reverse]; exact h.last),
      List.reverse_reverse]
  rw [trim, trimLeft_eq_self_iff.2 h.head, hright]

theorem Bare.trimmed (h : Bare cs) : Trimmed cs cs where
  bare := h
  blanks := ⟨[], [], nofun, nofun, by simp⟩

theorem bare_of_digits (h : ∀ c ∈ cs, c.isDigit = true) : Bare cs where
  head c hc := isBlank_of_isDigit (h c (List.mem_of_mem_head? hc))
  last c hc := isBlank_of_isDigit (h c (List.mem_of_mem_getLast? hc))

theorem bare_trim (cs : List Char) : Bare (trim cs) where
  head := by
    obtain ⟨right, -, hsplit⟩ := exists_eq_trimRight_append (trimLeft cs)
    intro c hc
    have hhead : c ∈ (trimLeft cs).head? := by
      rw [hsplit, List.head?_append, show (trimRight (trimLeft cs)).head? = some c from hc]
      rfl
    exact head?_trimLeft cs c hhead
  last := getLast?_trimRight (trimLeft cs)

theorem trimmed_trim (cs : List Char) : Trimmed cs (trim cs) where
  bare := bare_trim cs
  blanks := by
    obtain ⟨left, hleft, hcs⟩ := exists_eq_append_trimLeft cs
    obtain ⟨right, hright, hrest⟩ := exists_eq_trimRight_append (trimLeft cs)
    refine ⟨left, right, hleft, hright, ?_⟩
    rw [List.append_assoc, trim, ← hrest, ← hcs]

theorem bare_iff_trim_eq : Bare cs ↔ trim cs = cs :=
  ⟨Bare.trim_eq, fun h => h ▸ bare_trim cs⟩

/-- Trimming finds the core of a text, and there is no other. -/
theorem trim_eq_iff : trim cs = core ↔ Trimmed cs core := by
  constructor
  · rintro rfl
    exact trimmed_trim cs
  · rintro ⟨hbare, left, right, hleft, hright, rfl⟩
    rw [trim_append hleft core hright, hbare.trim_eq]

end Trim

end StepLatency.Text
